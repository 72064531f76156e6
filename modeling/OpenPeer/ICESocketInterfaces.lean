import OpenPeer.ICESocketSearches

/-!
# One socket on each interface

The table of the local sockets is by address and port, and the port that is looked for is the
one the last socket got. When the first sockets ask for no port they get different ones, and
the interfaces whose port is not the last are bound a second time.
-/
namespace OpenPeer.ICESocket

open Index

section Binding

variable {s : ICESocket} {port : Nat} {ip : Interface}

/-- The system binds a socket on the address of the interface, with the port that is asked for or a free one. -/
def CanBind (s : ICESocket) (port : Nat) (ip : Interface) : Prop :=
  ∃ free, ip.bind = some free ∧ grantedPort port free ≠ 0 ∧ s.isOpen ⟨ip.address, grantedPort port free⟩ = false

/-- The interface is known to be bound. -/
def Found (s : ICESocket) (ip : Interface) : Prop := (s.mSocketLocalIPs.lookup ⟨ip.address, s.mBindPort⟩).isSome = true

theorem bindLocalIP_bound (hbind : CanBind s port ip) (hfound : ¬Found s ip) :
    ∃ bindPort, (port ≠ 0 → bindPort = port) ∧ bindPort ≠ 0 ∧ s.isOpen ⟨ip.address, bindPort⟩ = false ∧
      bindLocalIP port s ip = ({ s with mBindPort := bindPort }).addLocalSocket ⟨ip.address, bindPort⟩ := by
  obtain ⟨free, hfree, hgranted, hopen⟩ := hbind
  refine ⟨grantedPort port free, fun hport => if_neg hport, hgranted, hopen, ?_⟩
  unfold Found at hfound
  simp [bindLocalIP, hfound, hfree, bindSocket, hopen, hgranted]

/-- Nothing else is done to an interface, but that a port of zero is known again to be zero. -/
theorem bindLocalIP_skipped (hskip : CanBind s port ip → Found s ip) :
    bindLocalIP port s ip = s ∨ (port = 0 ∧ bindLocalIP port s ip = { s with mBindPort := 0 }) := by
  obtain ⟨-, heq⟩ | ⟨free, hfree, heq⟩ := bindLocalIP_cases port s ip
  · exact .inl heq
  obtain ⟨-, hsame⟩ | ⟨hzero, hsame⟩ | ⟨hopen, hgranted, -⟩ := bindSocket_cases s ⟨ip.address, grantedPort port free⟩
  · exact .inl (heq.trans hsame)
  · have hport : port = 0 := by
      by_contra hport
      exact hport ((if_neg hport : grantedPort port free = port) ▸ hzero)
    rw [heq, hsame]
    exact .inr ⟨hport, congrArg (fun port => { s with mBindPort := port }) hzero⟩
  · have hfound := hskip ⟨free, hfree, hgranted, hopen⟩
    left
    unfold Found at hfound
    simp [bindLocalIP, hfound]

theorem live_addLocalSocket (s : ICESocket) (bindIP : IPAddress) (i : Nat) :
    Live (s.addLocalSocket bindIP) i ↔ i = s.allocated ∨ Live s i := by
  by_cases hi : i = s.allocated
  · subst hi
    simp [Live, addLocalSocket_localSockets]
  · simp [Live, addLocalSocket_localSockets_of_ne s bindIP hi, hi]

theorem isOpen_iff (h : Kept s) (ip : IPAddress) :
    s.isOpen ip = true ↔ ∃ i, Live s i ∧ (s.localSockets i).mLocal = ip := by
  constructor
  · intro hopen
    obtain ⟨entry, hentry, hlocal⟩ := List.any_eq_true.mp hopen
    exact ⟨entry.2, live_of_found h (AList.mem_lookup_iff.mpr hentry), of_decide_eq_true hlocal⟩
  · rintro ⟨i, hlive, rfl⟩
    exact open_of_live h hlive

theorem isOpen_addLocalSocket (h : Kept s) {bindIP ip : IPAddress} (hport : bindIP.port ≠ 0)
    (hopen : s.isOpen bindIP = false) (hip : s.isOpen ip = true) : (s.addLocalSocket bindIP).isOpen ip = true := by
  obtain ⟨i, hlive, hlocal⟩ := (isOpen_iff h ip).mp hip
  have hne : i ≠ s.allocated := by
    rintro rfl
    exact h.unused s.allocated (Nat.le_refl _) hlive
  apply (isOpen_iff (h.addLocalSocket hopen hport) ip).mpr
  refine ⟨i, (live_addLocalSocket s bindIP i).mpr (.inr hlive), ?_⟩
  rw [addLocalSocket_localSockets_of_ne s bindIP hne, hlocal]

theorem bound_of_added {bindIP : IPAddress} {address : Nat} (hne : address ≠ bindIP.address)
    (hbound : Bound (s.addLocalSocket bindIP) address) : Bound s address := by
  obtain ⟨i, hlive, haddress⟩ := hbound
  by_cases hi : i = s.allocated
  · subst hi
    rw [addLocalSocket_localSockets, Function.update_self] at haddress
    exact absurd haddress.symm hne
  · rw [addLocalSocket_localSockets_of_ne s bindIP hi] at haddress
    exact ⟨i, ((live_addLocalSocket s bindIP i).mp hlive).resolve_left hi, haddress⟩

end Binding

section Interfaces

variable {s s' : ICESocket} {port : Nat} {around : Surroundings}

/-- No two open sockets are bound on one address. -/
def OnePerAddress (s : ICESocket) : Prop :=
  ∀ i j, Live s i → Live s j → (s.localSockets i).mLocal.address = (s.localSockets j).mLocal.address → i = j

theorem OnePerAddress.closes (h : OnePerAddress s) (hclosed : Closes s s') : OnePerAddress s' := by
  intro i j hi hj haddress
  rw [hclosed.mLocal, hclosed.mLocal] at haddress
  exact h i j (hclosed.live i hi) (hclosed.live j hj) haddress

theorem OnePerAddress.addLocalSocket (h : OnePerAddress s) {bindIP : IPAddress}
    (hnone : ¬Bound s bindIP.address) : OnePerAddress (s.addLocalSocket bindIP) := by
  have hnew : ∀ i, i ≠ s.allocated → Live (s.addLocalSocket bindIP) i →
      ((s.addLocalSocket bindIP).localSockets i).mLocal.address ≠ bindIP.address := by
    intro i hi hlive haddress
    rw [addLocalSocket_localSockets_of_ne s bindIP hi] at haddress
    exact hnone ⟨i, ((live_addLocalSocket s bindIP i).mp hlive).resolve_left hi, haddress⟩
  have hself : ((s.addLocalSocket bindIP).localSockets s.allocated).mLocal.address = bindIP.address := by
    rw [addLocalSocket_localSockets, Function.update_self]
  intro i j hi hj haddress
  by_cases hia : i = s.allocated
  · by_cases hja : j = s.allocated
    · exact hia.trans hja.symm
    · exact absurd (haddress.symm.trans (hia ▸ hself)) (hnew j hja hj)
  · by_cases hja : j = s.allocated
    · exact absurd (haddress.trans (hja ▸ hself)) (hnew i hia hi)
    · rw [addLocalSocket_localSockets_of_ne s bindIP hia, addLocalSocket_localSockets_of_ne s bindIP hja] at haddress
      exact h i j (((live_addLocalSocket s bindIP i).mp hi).resolve_left hia)
        (((live_addLocalSocket s bindIP j).mp hj).resolve_left hja) haddress

/-- Each interface that can be bound and is bound already is found with the port that is known. -/
def Recognises (s : ICESocket) (ips : List Interface) : Prop :=
  ∀ ip ∈ ips, CanBind s s.mBindPort ip → Bound s ip.address → Found s ip

variable (ips : List Interface)

/-- While the addresses are gone through, the port that is looked for stays the one that was known, or was zero. -/
theorem onePerAddress_bindLocalIPs (h : OnePerAddress s) (hkept : Kept s)
    (hport : port ≠ 0 → s.mBindPort = port) (hset : (ips.map Interface.address).Nodup)
    (hknown : ∀ ip ∈ ips, CanBind s port ip → Bound s ip.address → port ≠ 0 ∧ (s.mSocketLocalIPs.lookup ⟨ip.address, port⟩).isSome = true) :
    OnePerAddress (ips.foldl (bindLocalIP port) s) := by
  induction ips generalizing s with
  | nil => exact h
  | cons ip ips ih =>
    obtain ⟨hip, hset⟩ := List.nodup_cons.mp hset
    have hrest : ∀ ip' ∈ ips, ip'.address ≠ ip.address :=
      fun ip' hip' hsame => hip (hsame ▸ List.mem_map_of_mem hip')
    rw [List.foldl_cons]
    by_cases hbind : CanBind s port ip ∧ ¬Found s ip
    · have hnone : ¬Bound s ip.address := by
        intro hbound
        obtain ⟨hne, hfound⟩ := hknown ip List.mem_cons_self hbind.1 hbound
        apply hbind.2
        rw [Found, hport hne]
        exact hfound
      obtain ⟨bindPort, hsame, hne, hopen, heq⟩ := bindLocalIP_bound hbind.1 hbind.2
      have hported : Kept { s with mBindPort := bindPort } :=
        { hkept with }
      have hnone' : ¬Bound { s with mBindPort := bindPort } (⟨ip.address, bindPort⟩ : IPAddress).address := hnone
      have hadded := OnePerAddress.addLocalSocket (s := { s with mBindPort := bindPort }) h hnone'
      rw [heq]
      apply ih hadded (hported.addLocalSocket hopen hne) hsame hset
      intro ip' hip' hbind' hbound'
      obtain ⟨free, hfree, hgranted, hclosed⟩ := hbind'
      have hbound := bound_of_added (hrest ip' hip') hbound'
      have hclosed' : s.isOpen ⟨ip'.address, grantedPort port free⟩ = false := by
        by_contra hother
        have hstill := isOpen_addLocalSocket hported hne hopen (Bool.not_eq_false _ ▸ hother)
        rw [hclosed] at hstill
        cases hstill
      obtain ⟨hzero, hfound⟩ := hknown ip' (List.mem_cons_of_mem _ hip') ⟨free, hfree, hgranted, hclosed'⟩ hbound
      have hother : (⟨ip'.address, port⟩ : IPAddress) ≠ ⟨ip.address, bindPort⟩ := by
        intro hsame
        exact hrest ip' hip' (congrArg IPAddress.address hsame)
      refine ⟨hzero, ?_⟩
      have hlookup : (s.mSocketLocalIPs.insert ⟨ip.address, bindPort⟩ s.allocated).lookup ⟨ip'.address, port⟩ =
          s.mSocketLocalIPs.lookup ⟨ip'.address, port⟩ := AList.lookup_insert_ne hother
      exact (congrArg Option.isSome hlookup).trans hfound
    · have hskip : CanBind s port ip → Found s ip := fun hcan => not_not.mp fun hfound => hbind ⟨hcan, hfound⟩
      have hknown' := fun ip' hip' => hknown ip' (List.mem_cons_of_mem ip hip')
      obtain heq | ⟨hzero, heq⟩ := bindLocalIP_skipped hskip
      · rw [heq]
        exact ih h hkept hport hset hknown'
      · rw [heq]
        exact ih h { hkept with }
          (fun hne => absurd hzero hne) hset hknown'

theorem OnePerAddress.bindLocalIPs (h : OnePerAddress s) (hkept : Kept s)
    (hset : (around.localIPs.map Interface.address).Nodup) (hknown : Recognises s around.localIPs) :
    OnePerAddress (s.bindLocalIPs around) := by
  apply onePerAddress_bindLocalIPs around.localIPs h hkept (fun _ => rfl) hset
  intro ip hip hbind hbound
  have hfound := hknown ip hip hbind hbound
  exact ⟨hkept.ports _ hfound, hfound⟩

/-- The sockets are the same, in both tables and one by one, and so is the port that is known. -/
structure SameSockets (s s' : ICESocket) : Prop where
  mSockets : s'.mSockets = s.mSockets
  mSocketLocalIPs : s'.mSocketLocalIPs = s.mSocketLocalIPs
  mBindPort : s'.mBindPort = s.mBindPort
  localSockets : s'.localSockets = s.localSockets

theorem keys_addLocalSocket (hkept : Kept s) (bindIP : IPAddress) :
    (s.addLocalSocket bindIP).mSockets.keys.length = s.mSockets.keys.length + 1 := by
  have hnew : some (s.allocated + 1) ∉ s.mSockets := by
    intro hmem
    obtain ⟨i, hi⟩ := Option.isSome_iff_exists.mp (AList.lookup_isSome.mpr hmem)
    have hlt := hkept.socket_lt i _ (map_some_eq.mp ((hkept.sockets _ i).mp hi)).2
    omega
  show (s.mSockets.insert (some (s.allocated + 1)) s.allocated).keys.length = _
  simp only [AList.keys, List.keys, AList.entries_insert_of_notMem hnew, List.map_cons, List.length_cons]

theorem keys_bindLocalIPs (hkept : Kept s) :
    s.mSockets.keys.length ≤ (ips.foldl (bindLocalIP port) s).mSockets.keys.length := by
  induction ips generalizing s with
  | nil => exact Nat.le_refl _
  | cons ip ips ih =>
    refine Nat.le_trans ?_ (ih (hkept.bindLocalIP port ip))
    by_cases hbind : CanBind s port ip ∧ ¬Found s ip
    · obtain ⟨bindPort, -, -, -, heq⟩ := bindLocalIP_bound hbind.1 hbind.2
      have hported : Kept { s with mBindPort := bindPort } :=
        { hkept with }
      rw [heq, keys_addLocalSocket hported]
      exact Nat.le_succ _
    · obtain heq | ⟨-, heq⟩ := bindLocalIP_skipped fun hcan => not_not.mp fun hfound => hbind ⟨hcan, hfound⟩
      · rw [heq]
      · rw [heq]

/-- Going through the addresses changes nothing when every interface that can be bound is found; otherwise there are
more sockets afterwards. -/
theorem bindLocalIPs_cases (hkept : Kept s) (hport : port = 0 → s.mBindPort = 0) :
    ((∀ ip ∈ ips, CanBind s port ip → Found s ip) ∧ ips.foldl (bindLocalIP port) s = s) ∨
    ((∃ ip ∈ ips, CanBind s port ip ∧ ¬Found s ip) ∧
      s.mSockets.keys.length < (ips.foldl (bindLocalIP port) s).mSockets.keys.length) := by
  induction ips with
  | nil => exact .inl ⟨by simp, rfl⟩
  | cons ip ips ih =>
    rw [List.foldl_cons]
    by_cases hbind : CanBind s port ip ∧ ¬Found s ip
    · right
      refine ⟨⟨ip, List.mem_cons_self, hbind⟩, ?_⟩
      obtain ⟨bindPort, -, hne, hopen, heq⟩ := bindLocalIP_bound hbind.1 hbind.2
      have hported : Kept { s with mBindPort := bindPort } :=
        { hkept with }
      rw [heq]
      refine Nat.lt_of_lt_of_le ?_ (keys_bindLocalIPs ips (hported.addLocalSocket hopen hne))
      rw [keys_addLocalSocket hported]
      exact Nat.lt_succ_self _
    · have hskip : CanBind s port ip → Found s ip := fun hcan => not_not.mp fun hfound => hbind ⟨hcan, hfound⟩
      have heq : bindLocalIP port s ip = s := by
        obtain heq | ⟨hzero, heq⟩ := bindLocalIP_skipped hskip
        · exact heq
        · rw [heq, ← hport hzero]
      rw [heq]
      apply ih.imp
      · rintro ⟨hall, hsame⟩
        exact ⟨List.forall_mem_cons.mpr ⟨hskip, hall⟩, hsame⟩
      · rintro ⟨⟨ip', hip', hother⟩, hmore⟩
        exact ⟨⟨ip', List.mem_cons_of_mem ip hip', hother⟩, hmore⟩

theorem SameSockets.trans {s'' : ICESocket} (h : SameSockets s s') (h' : SameSockets s' s'') : SameSockets s s'' where
  mSockets := h'.mSockets.trans h.mSockets
  mSocketLocalIPs := h'.mSocketLocalIPs.trans h.mSocketLocalIPs
  mBindPort := h'.mBindPort.trans h.mBindPort
  localSockets := h'.localSockets.trans h.localSockets

theorem sameSockets_restartRebindTimer (s : ICESocket) (hadNone : Bool) :
    SameSockets s (s.restartRebindTimer hadNone) := by
  have hsame := undisturbed_restartRebindTimer s hadNone
  refine { hsame with localSockets := ?_ }
  unfold restartRebindTimer
  split
  · simp
  · simp

theorem sameSockets_setError (s : ICESocket) (errorCode : Nat) (inReason : String) :
    SameSockets s (s.setError errorCode inReason) := by
  unfold setError
  split
  · exact ⟨rfl, rfl, rfl, rfl⟩
  · exact ⟨rfl, rfl, rfl, rfl⟩

theorem sameSockets_checkedNow (s : ICESocket) : SameSockets s s.checkedNow := by
  unfold checkedNow
  split
  · exact ⟨rfl, rfl, rfl, rfl⟩
  · exact ⟨rfl, rfl, rfl, rfl⟩

theorem sameSockets_cancel (hnone : s.mSockets.keys = []) : SameSockets s (s.cancel around) := by
  have horder : around.order s.mSockets.keys = [] := by
    have hperm := around.order_perm s.mSockets.keys
    rw [hnone] at hperm
    rw [hnone]
    exact hperm.eq_nil
  unfold ICESocket.cancel
  split
  · exact ⟨rfl, rfl, rfl, rfl⟩
  · simp only [setState, horder, List.foldl_nil]
    split
    · exact ⟨rfl, rfl, rfl, rfl⟩
    · exact ⟨rfl, rfl, rfl, rfl⟩

theorem sameSockets_stepBind (hlooks : s.looksAround = true) :
    SameSockets (s.checkedNow.bindLocalIPs around) (s.stepBind around).1 := by
  have hrestarted := sameSockets_restartRebindTimer (s.checkedNow.bindLocalIPs around) (s.mSockets.keys = [])
  rw [stepBind, hlooks]
  simp only [Bool.not_true, Bool.false_eq_true, if_false]
  split
  next hempty =>
    rw [ICESocket.bindLocalIPs, List.isEmpty_iff.mp hempty]
    exact ⟨rfl, rfl, rfl, rfl⟩
  next =>
    split
    next hgone =>
      have herror := sameSockets_setError
        ((s.checkedNow.bindLocalIPs around).restartRebindTimer (s.mSockets.keys = [])) 408
        "unable to bind to local UDP port"
      apply hrestarted.trans (herror.trans (sameSockets_cancel _))
      rw [herror.mSockets]
      exact hgone.1
    next => exact hrestarted

theorem canBind_congr (h : SameSockets s s') (ip : Interface) : CanBind s' port ip ↔ CanBind s port ip := by
  unfold CanBind isOpen
  rw [h.mSockets, h.localSockets]

theorem found_congr (h : SameSockets s s') (ip : Interface) : Found s' ip ↔ Found s ip := by
  unfold Found
  rw [h.mSocketLocalIPs, h.mBindPort]

/-- Going through the addresses leaves the sockets alone exactly when every interface that can be bound is found. -/
theorem sameSockets_iff (hkept : Kept s) (hlooks : s.looksAround = true) :
    SameSockets s (s.stepBind around).1 ↔ ∀ ip ∈ around.localIPs, CanBind s s.mBindPort ip → Found s ip := by
  have hchecked := sameSockets_checkedNow s
  have hend := @sameSockets_stepBind s around hlooks
  have hall : (∀ ip ∈ around.localIPs, CanBind s s.mBindPort ip → Found s ip) ↔
      ∀ ip ∈ around.localIPs, CanBind s.checkedNow s.checkedNow.mBindPort ip → Found s.checkedNow ip := by
    simp only [canBind_congr hchecked, found_congr hchecked, checkedNow_mBindPort]
  rw [hall]
  obtain ⟨hfound, heq⟩ | ⟨⟨ip, hip, hcan, hnot⟩, hmore⟩ := bindLocalIPs_cases around.localIPs
    (hkept.undisturbed (undisturbed_checkedNow s)) fun hzero : s.checkedNow.mBindPort = 0 => hzero
  · have hsame : s.checkedNow.bindLocalIPs around = s.checkedNow := heq
    rw [hsame] at hend
    exact ⟨fun _ => hfound, fun _ => hchecked.trans hend⟩
  · refine ⟨fun hsame => ?_, fun hfound => absurd (hfound ip hip hcan) hnot⟩
    have htable : (s.checkedNow.bindLocalIPs around).mSockets = s.checkedNow.mSockets := by
      rw [← hend.mSockets, hsame.mSockets, hchecked.mSockets]
    rw [show around.localIPs.foldl (bindLocalIP s.checkedNow.mBindPort) s.checkedNow = s.checkedNow.bindLocalIPs around
      from rfl, htable] at hmore
    exact absurd hmore (Nat.lt_irrefl _)

/-- An interface that was gone through is bound, or it is found with the port that is known. -/
def Settled (port : Nat) (s : ICESocket) (ip : Interface) : Prop :=
  Bound s ip.address ∨ (port ≠ 0 ∧ Found s ip)

/-- The port that is looked for does not change, and where it was zero the table has the addresses of open sockets. -/
structure Unmoved (port : Nat) (s : ICESocket) : Prop where
  known : port ≠ 0 → s.mBindPort = port
  zero : port = 0 → ∀ ip, (s.mSocketLocalIPs.lookup ip).isSome = true → Bound s ip.address

theorem bound_added (h : Kept s) {address : Nat} (hbound : Bound s address) (bindIP : IPAddress) :
    Bound (s.addLocalSocket bindIP) address := by
  obtain ⟨i, hlive, haddress⟩ := hbound
  have hne : i ≠ s.allocated := by
    rintro rfl
    exact h.unused s.allocated (Nat.le_refl _) hlive
  refine ⟨i, (live_addLocalSocket s bindIP i).mpr (.inr hlive), ?_⟩
  rw [addLocalSocket_localSockets_of_ne s bindIP hne, haddress]

theorem lookup_added (bindIP ip : IPAddress) (hfound : (s.mSocketLocalIPs.lookup ip).isSome = true) :
    ((s.addLocalSocket bindIP).mSocketLocalIPs.lookup ip).isSome = true := by
  show ((s.mSocketLocalIPs.insert bindIP s.allocated).lookup ip).isSome = true
  by_cases hsame : ip = bindIP
  · rw [hsame, AList.lookup_insert]
    rfl
  · rw [AList.lookup_insert_ne hsame]
    exact hfound

theorem settled_of_skipped (hkept : Kept s) (h : Unmoved port s) {ip : Interface}
    (hskip : CanBind s port ip → Found s ip) (hbinds : Binds port ip) : Settled port s ip := by
  obtain ⟨free, hfree, hne⟩ := hbinds
  by_cases hfound : Found s ip
  · by_cases hport : port = 0
    · exact .inl (h.zero hport _ hfound)
    · exact .inr ⟨hport, hfound⟩
  · have hopen : s.isOpen ⟨ip.address, grantedPort port free⟩ = true := by
      by_contra hopen
      exact hfound (hskip ⟨free, hfree, grantedPort_ne_zero.mpr hne, Bool.eq_false_iff.mpr hopen⟩)
    obtain ⟨i, hlive, hlocal⟩ := (isOpen_iff hkept _).mp hopen
    exact .inl ⟨i, hlive, congrArg IPAddress.address hlocal⟩

/-- One address is gone through: what is settled stays so, and the address is settled if it can be. -/
theorem settled_bindLocalIP (hkept : Kept s) (h : Unmoved port s) (ip : Interface) :
    Unmoved port (bindLocalIP port s ip) ∧
      (∀ ip', Settled port s ip' → Settled port (bindLocalIP port s ip) ip') ∧
      (Binds port ip → Settled port (bindLocalIP port s ip) ip) := by
  by_cases hbind : CanBind s port ip ∧ ¬Found s ip
  · obtain ⟨bindPort, hsame, -, -, heq⟩ := bindLocalIP_bound hbind.1 hbind.2
    have hported : Kept { s with mBindPort := bindPort } :=
      { hkept with }
    have hkeep : ∀ address, Bound s address → Bound (bindLocalIP port s ip) address := by
      intro address hbound
      rw [heq]
      exact bound_added (s := { s with mBindPort := bindPort }) hported hbound _
    have hadded : Bound (bindLocalIP port s ip) ip.address := by
      rw [heq]
      exact bound_addLocalSocket _ ⟨ip.address, bindPort⟩
    refine ⟨⟨fun hport => ?_, fun hport ip' hip' => ?_⟩, fun ip' hsettled => ?_, fun _ => .inl hadded⟩
    · rw [heq]
      exact hsame hport
    · by_cases hself : ip' = ⟨ip.address, bindPort⟩
      · rw [hself]
        exact hadded
      · rw [heq] at hip'
        have hold : (s.mSocketLocalIPs.insert ⟨ip.address, bindPort⟩ s.allocated).lookup ip' =
            s.mSocketLocalIPs.lookup ip' := AList.lookup_insert_ne hself
        exact hkeep _ (h.zero hport ip' ((congrArg Option.isSome hold).symm.trans hip'))
    · cases hsettled with
      | inl hbound => exact .inl (hkeep _ hbound)
      | inr hfound =>
        obtain ⟨hport, hfound⟩ := hfound
        right
        refine ⟨hport, ?_⟩
        rw [Found, h.known hport] at hfound
        rw [heq, hsame hport]
        exact lookup_added (s := { s with mBindPort := port }) ⟨ip.address, port⟩ _ hfound
  · have hskip : CanBind s port ip → Found s ip := fun hcan => not_not.mp fun hfound => hbind ⟨hcan, hfound⟩
    have hself := settled_of_skipped hkept h hskip
    obtain heq | ⟨hzero, heq⟩ := bindLocalIP_skipped hskip
    · rw [heq]
      exact ⟨h, fun _ hsettled => hsettled, hself⟩
    · rw [heq]
      refine ⟨⟨fun hport => absurd hzero hport, h.zero⟩, fun ip' hsettled => ?_, fun hbinds => ?_⟩
      · exact .inl (hsettled.resolve_right fun hfound => hfound.1 hzero)
      · exact .inl ((hself hbinds).resolve_right fun hfound => hfound.1 hzero)

theorem settled_bindLocalIPs (hkept : Kept s) (h : Unmoved port s) :
    (∀ ip, Settled port s ip → Settled port (ips.foldl (bindLocalIP port) s) ip) ∧
      ∀ ip ∈ ips, Binds port ip → Settled port (ips.foldl (bindLocalIP port) s) ip := by
  induction ips generalizing s with
  | nil => exact ⟨fun _ hsettled => hsettled, by simp⟩
  | cons ip ips ih =>
    obtain ⟨hmoved, hkeep, hself⟩ := settled_bindLocalIP hkept h ip
    obtain ⟨hlater, hrest⟩ := ih (hkept.bindLocalIP port ip) hmoved
    rw [List.foldl_cons]
    refine ⟨fun ip' hsettled => hlater ip' (hkeep ip' hsettled), fun ip' hip' hbinds => ?_⟩
    rcases List.mem_cons.mp hip' with rfl | hip'
    · exact hlater _ (hself hbinds)
    · exact hrest ip' hip' hbinds

/-- The interfaces are the same the second time, and the system binds no socket on one on which it did not. -/
def SameInterfaces (port : Nat) (around again : Surroundings) : Prop :=
  ∀ ip ∈ again.localIPs, ∃ before ∈ around.localIPs, before.address = ip.address ∧ (ip.bind ≠ none → Binds port before)

/-- When it is time to look again, with the interfaces as they were, no socket is bound or closed exactly when each
interface is found with the port that is known. -/
def Rebinding (s : ICESocket) : Prop :=
  ∀ around again : Surroundings, s.looksAround = true → (s.mBindPort = 0 → s.mSocketLocalIPs.keys = []) →
    SameInterfaces s.mBindPort around again →
    let t := { (s.stepBind around).1 with mRebindCheckNow := true }
    SameSockets t (t.stepBind again).1 ↔ Recognises t again.localIPs

theorem Kept.rebinding (h : Kept s) : Rebinding s := by
  intro around again hlooks hzero hsame t
  have hchecked := h.undisturbed (undisturbed_checkedNow s)
  have hbound : Kept (s.checkedNow.bindLocalIPs around) := hchecked.bindLocalIPs _ _
  have hend : SameSockets (s.checkedNow.bindLocalIPs around) t := by
    have hstep := @sameSockets_stepBind s around hlooks
    exact { hstep with }
  have hkept : Kept t := by
    have hstep := (closes_stepBind hbound hlooks).kept
    exact { hstep with }
  have hmoved : Unmoved s.mBindPort s.checkedNow := by
    refine ⟨fun _ => checkedNow_mBindPort s, fun hport ip hip => ?_⟩
    rw [(sameSockets_checkedNow s).mSocketLocalIPs] at hip
    have hmem : ip ∈ s.mSocketLocalIPs.keys := AList.lookup_isSome.mp hip
    rw [hzero hport] at hmem
    cases hmem
  have hsettled : ∀ ip ∈ again.localIPs, CanBind t t.mBindPort ip → Bound t ip.address ∨ Found t ip := by
    rintro ip hip ⟨free, hfree, -, -⟩
    obtain ⟨before, hbefore, haddress, hbinds⟩ := hsame ip hip
    have hpass := (settled_bindLocalIPs around.localIPs hchecked hmoved).2 before hbefore
      (hbinds (by rw [hfree]; exact Option.some_ne_none free))
    rw [← checkedNow_mBindPort s] at hpass
    change Settled _ (s.checkedNow.bindLocalIPs around) before at hpass
    unfold Settled Bound Live Found at hpass
    unfold Bound Live Found
    rw [hend.localSockets, hend.mSocketLocalIPs, hend.mBindPort, ← haddress]
    exact hpass.imp_right fun hfound => hfound.2
  rw [sameSockets_iff hkept (by simp [looksAround, t])]
  constructor
  · intro hfound ip hip hcan _
    exact hfound ip hip hcan
  · intro hknown ip hip hcan
    exact (hsettled ip hip hcan).elim (hknown ip hip hcan) id

/-- Where a call goes through the addresses, each that is bound already is found with the port that is known. -/
def Known (s : ICESocket) (call : Event × Surroundings) : Prop :=
  ∀ t, s.searches call = some t → Recognises t call.2.localIPs

theorem OnePerAddress.take {call : Event × Surroundings} (h : OnePerAddress s) (hkept : Kept s)
    (hset : (call.2.localIPs.map Interface.address).Nodup) (hknown : Known s call) : OnePerAddress (s.take call) := by
  obtain ⟨-, hclosed⟩ | ⟨t, hsearch, hbefore, hafter⟩ := @closes_take _ call hkept
  · exact h.closes hclosed
  · have hchecked := undisturbed_checkedNow t
    apply OnePerAddress.closes _ hafter
    apply OnePerAddress.bindLocalIPs _ (hbefore.kept.undisturbed hchecked) hset
    · intro ip hip hcan hbound
      have hsame := sameSockets_checkedNow t
      rw [canBind_congr hsame, checkedNow_mBindPort] at hcan
      rw [found_congr hsame]
      unfold Bound Live at hbound
      rw [hsame.localSockets] at hbound
      exact hknown t hsearch ip hip hcan hbound
    · exact (h.closes hbefore).closes (hchecked.closes hbefore.kept)

/-- In every run in which each interface that is bound already is found when the addresses are gone through, there is
one open socket at most on each, and going through them again binds none exactly when each is found. -/
theorem one_socket_per_interface (s : ICESocket) (hnew : IsNew s) (calls : List (Event × Surroundings))
    (hset : ∀ call ∈ calls, (call.2.localIPs.map Interface.address).Nodup) (hknown : Runs.Meets take Known s calls) :
    OnePerAddress (Runs.run take s calls) ∧ Rebinding (Runs.run take s calls) := by
  have hsets : Runs.Meets take
      (fun _ call => (call.2.localIPs.map Interface.address).Nodup) s calls := Runs.meets_of_forall s calls hset
  have hnone : OnePerAddress s := by
    intro i j hi
    have hclosed : ¬Live s i := by
      cases hnew with
      | create turnServer stunServer port now => simp [Live, create]
      | createSRV srvTURNUDP srvTURNTCP srvSTUN port now => simp [Live, createSRV]
    exact absurd hi hclosed
  have hinv := Runs.run_invariant (fun s => Kept s ∧ OnePerAddress s)
    (fun _ _ hok h => ⟨h.1.take, h.2.take h.1 hok.1 hok.2⟩) s calls (Runs.meets_and hsets hknown) ⟨kept_new hnew, hnone⟩
  exact ⟨hinv.2, hinv.1.rebinding⟩

end Interfaces

section Samples

instance (s : ICESocket) (ip : Interface) : Decidable (Found s ip) := inferInstanceAs (Decidable (_ = true))

/-- Two interfaces, on which sockets that ask for no port get the ports 5000 and 5001. -/
def twoInterfaces : Surroundings := { quiet with localIPs := [⟨1, some 5000⟩, ⟨2, some 5001⟩] }

/-- With a port to ask for, both interfaces are found when the rebind timer fires. -/
theorem one_socket_per_interface_ported :
    let s := Runs.run take (create "turn" "stun" 5000 0) [(.stepped, twoInterfaces), (.onTimer 4, twoInterfaces)]
    OnePerAddress s ∧ Rebinding s := by
  apply one_socket_per_interface (create "turn" "stun" 5000 0) (.create "turn" "stun" 5000 0)
  · intro call hcall
    have hsame : call.2 = twoInterfaces := by
      simp only [List.mem_cons, List.not_mem_nil, or_false] at hcall
      cases hcall with
      | inl heq => rw [heq]
      | inr heq => rw [heq]
    rw [hsame]
    decide
  · refine ⟨fun t ht ip _ _ hbound => ?_, fun t ht ip hip _ _ => ?_, trivial⟩
    · obtain ⟨i, hlive, -⟩ := hbound
      cases ht
      exact absurd rfl hlive
    · have hall : ∀ ip ∈ twoInterfaces.localIPs,
          ((((create "turn" "stun" 5000 0).take (.stepped, twoInterfaces)).searches (.onTimer 4, twoInterfaces)).all
            fun t => decide (Found t ip)) = true := by
        intro ip hip
        simp only [twoInterfaces, List.mem_cons, List.not_mem_nil, or_false] at hip
        rcases hip with rfl | rfl
        · decide
        · decide
      have hfound := hall ip hip
      rw [ht] at hfound
      exact of_decide_eq_true hfound

/-- Without a port the first interface is looked for with the port of the second, and bound a second time. -/
theorem first_interface_bound_twice :
    let s := Runs.run take (create "turn" "stun" 0 0) [(.stepped, twoInterfaces)]
    let s' := s.take (.onTimer 4, twoInterfaces)
    s.mRebindTimer = some 4 ∧ s.mSockets.keys.length = 2 ∧ s'.mSockets.keys.length = 3 ∧ ¬OnePerAddress s' := by
  refine ⟨by decide, by decide, by decide, fun hone => ?_⟩
  have hsame := hone 0 7 (by unfold Live; decide) (by unfold Live; decide) (by decide)
  cases hsame

end Samples

end OpenPeer.ICESocket
