import OpenPeer.ICESocketTables
import OpenPeer.Runs

/-!
# When the tables of an ICE socket agree

Binding keeps the tables as well, and binds every address that it looks at and can bind. So
they agree in any run in which no bound socket fails, and there is a server for STUN when
sockets are bound; an exception leaves the local IP behind, which then is not bound again.
-/
namespace OpenPeer.ICESocket

open Index

section Binding

variable {s : ICESocket} {around : Surroundings}

/-- A socket can be bound on the address of an interface, with the port that is asked for or one that is free. -/
def Binds (port : Nat) (ip : Interface) : Prop := ∃ free, ip.bind = some free ∧ (port ≠ 0 ∨ free ≠ 0)

/-- A socket is not bound since the address is in use, or since there is no port, or it is. -/
theorem bindSocket_cases (s : ICESocket) (bindIP : IPAddress) :
    (s.isOpen bindIP = true ∧ s.bindSocket bindIP = s) ∨
    (bindIP.port = 0 ∧ s.bindSocket bindIP = { s with mBindPort := bindIP.port }) ∨
    (s.isOpen bindIP = false ∧ bindIP.port ≠ 0 ∧
      s.bindSocket bindIP = ({ s with mBindPort := bindIP.port }).addLocalSocket bindIP) := by
  unfold bindSocket
  split
  next hopen => exact .inl ⟨hopen, rfl⟩
  next hopen =>
    dsimp only
    split
    next hport => exact .inr (.inl ⟨hport, rfl⟩)
    next hport => exact .inr (.inr ⟨Bool.eq_false_iff.mpr hopen, hport, rfl⟩)

theorem bindLocalIP_cases (port : Nat) (s : ICESocket) (ip : Interface) :
    (((s.mSocketLocalIPs.lookup ⟨ip.address, s.mBindPort⟩).isSome = true ∨ ip.bind = none) ∧
      bindLocalIP port s ip = s) ∨
    ∃ free, ip.bind = some free ∧ bindLocalIP port s ip = s.bindSocket ⟨ip.address, grantedPort port free⟩ := by
  unfold bindLocalIP
  split
  next hbound => exact .inl ⟨.inl hbound, rfl⟩
  next =>
    cases ip.bind with
    | none => exact .inl ⟨.inr rfl, rfl⟩
    | some free => exact .inr ⟨free, rfl, rfl⟩

theorem sound_bindSocket (h : Sound s) (bindIP : IPAddress) : Sound (s.bindSocket bindIP) := by
  obtain ⟨-, heq⟩ | ⟨-, heq⟩ | ⟨hopen, -, heq⟩ := bindSocket_cases s bindIP
  · rw [heq]
    exact h
  · rw [heq]
    exact h
  · rw [heq]
    exact Sound.addLocalSocket (s := { s with mBindPort := bindIP.port }) h hopen

theorem sound_bindLocalIP (h : Sound s) (port : Nat) (ip : Interface) : Sound (bindLocalIP port s ip) := by
  obtain ⟨-, heq⟩ | ⟨free, -, heq⟩ := bindLocalIP_cases port s ip
  · rw [heq]
    exact h
  · rw [heq]
    exact sound_bindSocket h _

theorem sound_bindLocalIPs (h : Sound s) (port : Nat) (ips : List Interface) :
    Sound (ips.foldl (bindLocalIP port) s) := by
  induction ips generalizing s with
  | nil => exact h
  | cons ip ips ih => exact ih (sound_bindLocalIP h port ip)

theorem configured_bindLocalIP (h : Configured s) (port : Nat) (ip : Interface) :
    Configured (bindLocalIP port s ip) := by
  obtain ⟨-, heq⟩ | ⟨free, -, heq⟩ := bindLocalIP_cases port s ip
  · rw [heq]
    exact h
  · rw [heq]
    obtain ⟨-, heq⟩ | ⟨-, heq⟩ | ⟨-, -, heq⟩ := bindSocket_cases s ⟨ip.address, grantedPort port free⟩
    all_goals
      rw [heq]
      exact h

theorem grantedPort_ne_zero {port free : Nat} : grantedPort port free ≠ 0 ↔ port ≠ 0 ∨ free ≠ 0 := by
  unfold grantedPort
  split
  next hport => simp [hport]
  next hport => simp [hport]

theorem bindLocalIP_mSockets {port : Nat} {ip : Interface} (h : ¬Binds port ip) :
    (bindLocalIP port s ip).mSockets = s.mSockets := by
  obtain ⟨-, heq⟩ | ⟨free, hfree, heq⟩ := bindLocalIP_cases port s ip
  · rw [heq]
  · rw [heq]
    obtain ⟨-, heq⟩ | ⟨-, heq⟩ | ⟨-, hport, -⟩ := bindSocket_cases s ⟨ip.address, grantedPort port free⟩
    · rw [heq]
    · rw [heq]
    · exact absurd ⟨free, hfree, grantedPort_ne_zero.mp hport⟩ h

theorem inv_bindLocalIPs (h : Inv s) (ips : List Interface) (port : Nat)
    (hips : Configured s ∨ ∀ ip ∈ ips, ¬Binds port ip) : Inv (ips.foldl (bindLocalIP port) s) := by
  induction ips generalizing s with
  | nil => exact h
  | cons ip ips ih =>
    have hsound := sound_bindLocalIP h.sound port ip
    have hconfigured : Configured s → Configured (bindLocalIP port s ip) :=
      fun hc => configured_bindLocalIP hc port ip
    apply ih
    · cases hips with
      | inl hc => exact ⟨hsound, .inl (hconfigured hc)⟩
      | inr hnone =>
        refine ⟨hsound, ?_⟩
        rw [bindLocalIP_mSockets (hnone ip List.mem_cons_self)]
        exact h.configured.imp_left hconfigured
    · exact hips.imp hconfigured fun hnone ip' hip' => hnone ip' (List.mem_cons_of_mem _ hip')

theorem steady_newRebindTimer (h : Sound s) : Steady s s.newRebindTimer := by
  unfold newRebindTimer
  split
  · exact ⟨h.allocate, rfl, rfl, rfl⟩
  · exact .refl h

theorem steady_restartRebindTimer (h : Sound s) (hadNone : Bool) : Steady s (s.restartRebindTimer hadNone) := by
  unfold restartRebindTimer
  split
  · have hstopped : Steady s { s with mRebindTimer := none } := ⟨h, rfl, rfl, rfl⟩
    exact hstopped.trans (steady_newRebindTimer hstopped.sound)
  · exact steady_newRebindTimer h

theorem Inv.setError (h : Inv s) (errorCode : Nat) (inReason : String) : Inv (s.setError errorCode inReason) := by
  unfold ICESocket.setError
  split
  · exact h
  · exact ⟨h.sound, h.configured⟩

theorem Inv.checkedNow (h : Inv s) : Inv s.checkedNow := by
  unfold ICESocket.checkedNow
  split
  · exact h
  · exact ⟨h.sound, h.configured⟩

@[simp] theorem checkedNow_mBindPort (s : ICESocket) : s.checkedNow.mBindPort = s.mBindPort := by
  unfold checkedNow
  split
  · rfl
  · rfl

theorem checkedNow_configured : Configured s.checkedNow ↔ Configured s := by
  unfold checkedNow
  split
  · rfl
  · rfl

theorem Inv.bindLocalIPs (h : Inv s) (hips : Configured s ∨ ∀ ip ∈ around.localIPs, ¬Binds s.mBindPort ip) :
    Inv (s.checkedNow.bindLocalIPs around) := by
  apply inv_bindLocalIPs h.checkedNow
  rw [checkedNow_configured, checkedNow_mBindPort]
  exact hips

theorem Inv.stepBind (h : Inv s) (hips : Configured s ∨ ∀ ip ∈ around.localIPs, ¬Binds s.mBindPort ip) :
    Inv (s.stepBind around).1 := by
  have hrestarted := steady_restartRebindTimer (h.bindLocalIPs hips).sound (s.mSockets.keys = [])
  have hbound := (h.bindLocalIPs hips).steady hrestarted
  unfold ICESocket.stepBind
  split
  · exact h
  split
  · exact h.checkedNow
  dsimp only
  split
  · exact (hbound.setError _ _).cancel
  · exact hbound

end Binding

section Rebinding

variable {s : ICESocket} {around : Surroundings} {address : Nat}

/-- A live local socket is bound on the address. -/
def Bound (s : ICESocket) (address : Nat) : Prop := ∃ i, Live s i ∧ (s.localSockets i).mLocal.address = address

theorem bound_addLocalSocket (s : ICESocket) (bindIP : IPAddress) : Bound (s.addLocalSocket bindIP) bindIP.address :=
  ⟨s.allocated, by simp [Live, addLocalSocket, edit, allocate], by simp [addLocalSocket, edit, allocate]⟩

theorem Bound.addLocalSocket (h : Sound s) (hbound : Bound s address) (bindIP : IPAddress) :
    Bound (s.addLocalSocket bindIP) address := by
  obtain ⟨i, hlive, haddress⟩ := hbound
  have hne : i ≠ s.allocated := by
    rintro rfl
    exact hlive ((h.well s.allocated).unused (Nat.le_refl _))
  have hsame : (s.addLocalSocket bindIP).localSockets i = s.localSockets i := Function.update_of_ne hne _ _
  exact ⟨i, by rw [Live, hsame]; exact hlive, by rw [hsame]; exact haddress⟩

theorem Bound.bindLocalIP (h : Sound s) (hbound : Bound s address) (port : Nat) (ip : Interface) :
    Bound (bindLocalIP port s ip) address := by
  obtain ⟨-, heq⟩ | ⟨free, -, heq⟩ := bindLocalIP_cases port s ip
  · rw [heq]
    exact hbound
  rw [heq]
  obtain ⟨-, heq⟩ | ⟨-, heq⟩ | ⟨-, -, heq⟩ := bindSocket_cases s ⟨ip.address, grantedPort port free⟩
  · rw [heq]
    exact hbound
  · rw [heq]
    exact hbound
  · rw [heq]
    exact Bound.addLocalSocket (s := { s with mBindPort := grantedPort port free }) h hbound _

theorem bound_of_isOpen {ip : IPAddress} (h : Sound s) (hopen : s.isOpen ip = true) : Bound s ip.address := by
  obtain ⟨entry, hentry, hlocal⟩ := List.any_eq_true.mp hopen
  have hlookup : s.mSockets.lookup entry.1 = some entry.2 := AList.mem_lookup_iff.mpr hentry
  exact ⟨entry.2, live_of_lookup h hlookup, congrArg IPAddress.address (of_decide_eq_true hlocal)⟩

theorem bound_bindLocalIP {port : Nat} {ip : Interface} (h : Sound s) (hbinds : Binds port ip) :
    Bound (bindLocalIP port s ip) ip.address := by
  obtain ⟨free', hfree', hport⟩ := hbinds
  obtain ⟨hwhy, heq⟩ | ⟨free, hfree, heq⟩ := bindLocalIP_cases port s ip
  · rw [heq]
    cases hwhy with
    | inl hfound =>
      obtain ⟨i, hi⟩ := Option.isSome_iff_exists.mp hfound
      obtain ⟨hlive, hlocal⟩ := (h.agree.mSocketLocalIPs _ i).mp hi
      exact ⟨i, hlive, congrArg IPAddress.address hlocal⟩
    | inr hnone =>
      rw [hnone] at hfree'
      cases hfree'
  · rw [heq]
    rw [hfree', Option.some.injEq] at hfree
    subst hfree
    obtain ⟨hopen, heq⟩ | ⟨hzero, -⟩ | ⟨-, -, heq⟩ :=
      bindSocket_cases s ⟨ip.address, grantedPort port free'⟩
    · rw [heq]
      exact bound_of_isOpen h hopen
    · exact absurd hzero (grantedPort_ne_zero.mpr hport)
    · rw [heq]
      exact bound_addLocalSocket _ ⟨ip.address, grantedPort port free'⟩

theorem bound_bindLocalIPs {port : Nat} {ips : List Interface} (h : Sound s)
    (hips : Bound s address ∨ ∃ ip ∈ ips, Binds port ip ∧ ip.address = address) :
    Bound (ips.foldl (bindLocalIP port) s) address := by
  induction ips generalizing s with
  | nil => exact hips.resolve_right (by simp)
  | cons ip ips ih =>
    apply ih (sound_bindLocalIP h port ip)
    cases hips with
    | inl hbound => exact .inl (hbound.bindLocalIP h port ip)
    | inr hsome =>
      obtain ⟨ip', hip', hbinds, haddress⟩ := hsome
      rcases List.mem_cons.mp hip' with rfl | hip'
      · exact .inl (haddress ▸ bound_bindLocalIP h hbinds)
      · exact .inr ⟨ip', hip', hbinds, haddress⟩

@[simp] theorem newRebindTimer_localSockets (s : ICESocket) : s.newRebindTimer.localSockets = s.localSockets := by
  unfold newRebindTimer
  split
  · rfl
  · rfl

theorem bound_restartRebindTimer {hadNone : Bool} (h : Bound s address) :
    Bound (s.restartRebindTimer hadNone) address := by
  have hsame : (s.restartRebindTimer hadNone).localSockets = s.localSockets := by
    unfold restartRebindTimer
    split
    · simp
    · simp
  unfold Bound Live at *
  rw [hsame]
  exact h

theorem keys_ne_nil_of_bound (h : Sound s) (hbound : Bound s address) : s.mSockets.keys ≠ [] := by
  obtain ⟨i, hlive, -⟩ := hbound
  have hmem : (s.localSockets i).mSocket ∈ s.mSockets.keys :=
    AList.lookup_isSome.mp (Option.isSome_iff_exists.mpr ⟨i, lookup_of_live h hlive⟩)
  exact List.ne_nil_of_mem hmem

/-- When the addresses are looked at, every one of them that can be bound is bound afterwards. -/
def Rebinds (s : ICESocket) : Prop :=
  ∀ around : Surroundings, s.looksAround = true → ∀ ip ∈ around.localIPs, Binds s.mBindPort ip →
    Bound (s.stepBind around).1 ip.address

theorem Sound.rebinds (h : Sound s) : Rebinds s := by
  intro around hlooks ip hip hbinds
  have hchecked : Sound s.checkedNow := by
    unfold checkedNow
    split
    · exact h
    · exact h
  have hbound : Bound (s.checkedNow.bindLocalIPs around) ip.address := by
    apply bound_bindLocalIPs hchecked
    rw [checkedNow_mBindPort]
    exact .inr ⟨ip, hip, hbinds, rfl⟩
  have hsound : Sound (s.checkedNow.bindLocalIPs around) := sound_bindLocalIPs hchecked _ _
  have hrestarted := (steady_restartRebindTimer hsound (s.mSockets.keys = [])).sound
  have hbound' := @bound_restartRebindTimer _ _ (s.mSockets.keys = []) hbound
  have hkeys := keys_ne_nil_of_bound hrestarted hbound'
  have hsome : around.localIPs.isEmpty = false := by
    rw [List.isEmpty_eq_false_iff]
    exact List.ne_nil_of_mem hip
  rw [stepBind, hlooks, hsome]
  simpa [hkeys] using hbound'

end Rebinding

section Calls

variable {s : ICESocket} {around : Surroundings}

theorem Inv.postCandidateCheck (h : Inv s) : Inv (s.postCandidateCheck around) := by
  unfold ICESocket.postCandidateCheck
  split
  · exact h.cancel
  · exact h

theorem Inv.stepSTUN (h : Inv s) : Inv (s.stepSTUN around) := by
  cases h.configured with
  | inl hconfigured => exact h.steady (steady_stepSTUN h.sound hconfigured)
  | inr hempty =>
    have hnone : around.order s.mSockets.keys = [] := by
      have hperm := around.order_perm s.mSockets.keys
      rw [hempty] at hperm
      rw [hempty]
      exact hperm.eq_nil
    rw [ICESocket.stepSTUN, hnone]
    exact h

theorem Inv.step (h : Inv s)
    (hips : Configured s ∨ s.isShutdown = true ∨ ∀ ip ∈ around.localIPs, ¬Binds s.mBindPort ip) :
    Inv (s.step around) := by
  unfold ICESocket.step
  split
  · exact h.cancel
  next hopen =>
    have hips' : Configured s ∨ ∀ ip ∈ around.localIPs, ¬Binds s.mBindPort ip :=
      hips.imp_right fun h => h.resolve_left fun hshut => hopen (.inr hshut)
    have hbound := h.stepBind hips'
    have hstunned : Inv ((s.stepBind around).1.stepSTUN around) := hbound.stepSTUN
    have hturned := hstunned.steady (@steady_stepTURN _ around hstunned.sound)
    dsimp only
    split
    · exact hbound.postCandidateCheck
    · split
      next s' heq =>
        rw [heq] at hturned
        exact hturned
      next s' heq =>
        rw [heq] at hturned
        exact hturned.postCandidateCheck
      next s' heq =>
        rw [heq] at hturned
        exact Inv.postCandidateCheck (s := s'.setState .ready) ⟨hturned.sound, hturned.configured⟩

/-- No bound socket fails, and where STUN has no server no socket can be bound while the ICE socket is in use. -/
def Spares (s : ICESocket) (call : Event × Surroundings) : Prop :=
  (∀ socket, call.1 = .onException socket → s.mSockets.lookup socket = none) ∧
    (Configured s ∨ s.isShutdown = true ∨ ∀ ip ∈ call.2.localIPs, ¬Binds s.mBindPort ip)

theorem Inv.take {call : Event × Surroundings} (h : Inv s) (hspares : Spares s call) : Inv (s.take call) := by
  obtain ⟨event, around⟩ := call
  obtain ⟨hexception, hips⟩ := hspares
  cases event with
  | stepped => exact h.step hips
  | wakeup minimumTime =>
    simp only [ICESocket.take, ICESocket.wakeup]
    split
    · exact h
    · exact Inv.step ⟨h.sound, h.configured⟩ hips
  | sendTo viaLocalIP =>
    simp only [ICESocket.take, ICESocket.sendTo]
    split
    · exact h
    · cases s.mSocketLocalIPs.lookup viaLocalIP with
      | none => exact h
      | some i =>
        dsimp only
        split
        · exact h
        · exact ⟨h.sound, h.configured⟩
  | onReadReady socket isThrown =>
    simp only [ICESocket.take, ICESocket.onReadReady]
    split
    · exact h.cancel
    · exact h
  | onException socket =>
    simp only [ICESocket.take, ICESocket.onException, hexception socket rfl]
    exact h
  | onTimer timer =>
    simp only [ICESocket.take, ICESocket.onTimer]
    split
    · exact Inv.step (s := { s with mRebindCheckNow := true }) ⟨h.sound, h.configured⟩ hips
    · split
      · exact h
      next entry _ =>
        have hedit : Inv (s.edit entry.2 fun localSocket => { localSocket with mTURNRetryTimer := none }) :=
          h.steady (steady_edit h.sound rfl rfl rfl rfl)
        exact hedit.step hips
  | shutdown => exact h.cancel

/-- A new ICE socket, made in either way. -/
inductive IsNew : ICESocket → Prop
  | create (turnServer stunServer : String) (port now : Nat) : IsNew (create turnServer stunServer port now)
  | createSRV (srvTURNUDP srvTURNTCP srvSTUN : Bool) (port now : Nat) :
    IsNew (createSRV srvTURNUDP srvTURNTCP srvSTUN port now)

theorem inv_new (h : IsNew s) : Inv s := by
  have hwell : ∀ i, Well 0 i {} := fun i => ⟨by simp, by simp, by simp, by simp, by simp⟩
  have hempty : ∀ {κ : Type} [DecidableEq κ] {key : LocalSocket → Option κ}, key {} = none →
      Indexes (∅ : AList fun _ : κ => Nat) fun _ => key {} := fun hkey => indexes_empty fun _ => hkey
  cases h with
  | create turnServer stunServer port now =>
    exact ⟨⟨hempty rfl, hempty rfl, hempty rfl, hempty rfl, hwell⟩, .inr rfl⟩
  | createSRV srvTURNUDP srvTURNTCP srvSTUN port now =>
    exact ⟨⟨hempty rfl, hempty rfl, hempty rfl, hempty rfl, hwell⟩, .inr rfl⟩

/-- In every run without the failure of a bound socket, and with a server for STUN where sockets are bound, the tables
agree after each call, and each address that is looked at and can be bound is bound. -/
theorem tables_agree (s : ICESocket) (hnew : IsNew s) (calls : List (Event × Surroundings))
    (hspares : Runs.Meets take Spares s calls) : Agree (Runs.run take s calls) ∧ Rebinds (Runs.run take s calls) := by
  have hinv := Runs.run_invariant Inv (fun _ _ hok h => h.take hok) s calls hspares (inv_new hnew)
  exact ⟨hinv.sound.agree, hinv.sound.rebinds⟩

end Calls

section Samples

/-- One interface, on which a socket gets the port 5000, and servers that never answer. -/
def quiet : Surroundings where
  now := 0
  localIPs := [⟨1, some 5000⟩]
  turnState _ := .pending
  turnStateAfterShutdown _ := .shutdown
  relayedIP _ := {}
  isComplete _ := false
  mappedAddress _ := {}
  order pointers := pointers
  order_perm pointers := .refl pointers

/-- A socket is bound, and an exception of a socket that is not known is told. -/
theorem tables_agree_sample :
    Agree (Runs.run take (create "turn" "stun" 0 0) [(.stepped, quiet), (.onException none, quiet)]) ∧
    Rebinds (Runs.run take (create "turn" "stun" 0 0) [(.stepped, quiet), (.onException none, quiet)]) :=
  tables_agree (create "turn" "stun" 0 0) (.create "turn" "stun" 0 0) [(.stepped, quiet), (.onException none, quiet)]
    ⟨⟨fun socket hsocket => (by cases hsocket), .inl (.inr (by decide))⟩,
      ⟨fun socket hsocket => (by cases hsocket; rfl), .inl (.inr (by decide))⟩, trivial⟩

/-- The local IP of a socket that failed stays in the table, and the interface is not bound again while it is found;
without a server for STUN there is a null key. -/
theorem tables_apart :
    let failed := Runs.run take (create "turn" "stun" 0 0) [(.stepped, quiet), (.onException (some 1), quiet)]
    ¬Agree failed ∧ failed.looksAround = true ∧ (failed.stepBind quiet).1.mSockets.keys = [] ∧
    (Runs.run take (create "turn" "" 0 0) [(.stepped, quiet)]).mSocketSTUNs.lookup none = some 0 := by
  refine ⟨fun hagree => ?_, ?_, ?_, ?_⟩
  · have hlive := ((hagree.mSocketLocalIPs ⟨1, 5000⟩ 0).mp (by decide)).1
    exact hlive (by decide)
  all_goals decide

end Samples

end OpenPeer.ICESocket
