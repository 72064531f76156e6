import OpenPeer.ICESocketRebinding

/-!
# When an ICE socket looks for interfaces

Most of what an ICE socket does leaves its UDP sockets alone. The others close them, and one
binds them: going through the addresses of the interfaces, once in a call that steps. After
an exception the tables do not agree, but every open socket is found in both of its tables.
-/
namespace OpenPeer.ICESocket

open Index

section Undisturbed

/-- The UDP sockets, their addresses and the port that is known are the same. -/
structure Undisturbed (s s' : ICESocket) : Prop where
  mSockets : s'.mSockets = s.mSockets
  mSocketLocalIPs : s'.mSocketLocalIPs = s.mSocketLocalIPs
  mBindPort : s'.mBindPort = s.mBindPort
  mSocket : ∀ i, (s'.localSockets i).mSocket = (s.localSockets i).mSocket
  mLocal : ∀ i, (s'.localSockets i).mLocal = (s.localSockets i).mLocal
  allocated : s.allocated ≤ s'.allocated

variable {s s' s'' : ICESocket} {i : Nat} {around : Surroundings}

theorem Undisturbed.refl (s : ICESocket) : Undisturbed s s := ⟨rfl, rfl, rfl, fun _ => rfl, fun _ => rfl, Nat.le_refl _⟩

theorem Undisturbed.trans (h : Undisturbed s s') (h' : Undisturbed s' s'') : Undisturbed s s'' where
  mSockets := h'.mSockets.trans h.mSockets
  mSocketLocalIPs := h'.mSocketLocalIPs.trans h.mSocketLocalIPs
  mBindPort := h'.mBindPort.trans h.mBindPort
  mSocket i := (h'.mSocket i).trans (h.mSocket i)
  mLocal i := (h'.mLocal i).trans (h.mLocal i)
  allocated := Nat.le_trans h.allocated h'.allocated

theorem undisturbed_edit (s : ICESocket) (i : Nat) {f : LocalSocket → LocalSocket}
    (hsocket : ∀ l, (f l).mSocket = l.mSocket) (hlocal : ∀ l, (f l).mLocal = l.mLocal) : Undisturbed s (s.edit i f) where
  mSockets := rfl
  mSocketLocalIPs := rfl
  mBindPort := rfl
  mSocket j := by
    by_cases hj : j = i
    · subst hj
      simp [edit, hsocket]
    · simp [edit, hj]
  mLocal j := by
    by_cases hj : j = i
    · subst hj
      simp [edit, hlocal]
    · simp [edit, hj]
  allocated := Nat.le_refl _

theorem undisturbed_allocate (s : ICESocket) : Undisturbed s s.allocate :=
  ⟨rfl, rfl, rfl, fun _ => rfl, fun _ => rfl, Nat.le_succ _⟩

theorem undisturbed_resetTURN (s : ICESocket) (i : Nat) : Undisturbed s (s.resetTURN i) := by
  have hcleared : Undisturbed s (s.clearTURN (s.localSockets i).mTURNSocket) := by
    unfold clearTURN
    split
    · exact .refl s
    · exact ⟨rfl, rfl, rfl, fun _ => rfl, fun _ => rfl, Nat.le_refl _⟩
  apply hcleared.trans
  exact undisturbed_edit _ i (fun _ => rfl) fun _ => rfl

theorem undisturbed_resetSTUN (s : ICESocket) (i : Nat) : Undisturbed s (s.resetSTUN i) := by
  have hcleared : Undisturbed s (s.clearSTUN (s.localSockets i).mSTUNDiscovery) := by
    unfold clearSTUN
    split
    · exact .refl s
    · exact ⟨rfl, rfl, rfl, fun _ => rfl, fun _ => rfl, Nat.le_refl _⟩
  apply hcleared.trans
  exact undisturbed_edit _ i (fun _ => rfl) fun _ => rfl

theorem undisturbed_createDiscovery (s : ICESocket) (i : Nat) (found : Bool) :
    Undisturbed s (s.createDiscovery i found) := by
  unfold createDiscovery
  split
  · apply (undisturbed_allocate s).trans
    exact undisturbed_edit _ i (fun _ => rfl) fun _ => rfl
  · exact .refl s

theorem undisturbed_discover (s : ICESocket) (i : Nat) : Undisturbed s (s.discover i) := by
  have hedit : Undisturbed s (s.edit i fun localSocket => { localSocket with mReflexive := {} }) := by
    exact undisturbed_edit _ i (fun _ => rfl) fun _ => rfl
  have htable : ∀ s : ICESocket, ∀ stuns, Undisturbed s { s with mSocketSTUNs := stuns } :=
    fun s stuns => ⟨rfl, rfl, rfl, fun _ => rfl, fun _ => rfl, Nat.le_refl _⟩
  unfold discover
  exact hedit.trans ((undisturbed_createDiscovery _ i _).trans ((undisturbed_createDiscovery _ i _).trans (htable _ _)))

theorem undisturbed_reflect (s : ICESocket) (i : Nat) : Undisturbed s (s.reflect around i) := by
  unfold reflect
  split
  · exact .refl s
  · split
    · exact undisturbed_edit _ i (fun _ => rfl) fun _ => rfl
    · exact .refl s

theorem undisturbed_stepSTUNSocket (s : ICESocket) (socket : Pointer) :
    Undisturbed s (stepSTUNSocket around s socket) := by
  unfold stepSTUNSocket
  cases s.mSockets.lookup socket with
  | none => exact .refl s
  | some i =>
    dsimp only
    split
    · exact (undisturbed_discover s i).trans (undisturbed_reflect _ i)
    · exact undisturbed_reflect s i

theorem undisturbed_stepSTUN (s : ICESocket) : Undisturbed s (s.stepSTUN around) := by
  unfold stepSTUN
  generalize around.order s.mSockets.keys = sockets
  induction sockets generalizing s with
  | nil => exact .refl s
  | cons socket sockets ih => exact (undisturbed_stepSTUNSocket s socket).trans (ih _)

theorem undisturbed_retryTURN (s : ICESocket) (i : Nat) : Undisturbed s (s.retryTURN i) := by
  unfold retryTURN
  split
  · apply (undisturbed_allocate s).trans
    exact undisturbed_edit _ i (fun _ => rfl) fun _ => rfl
  · exact .refl s

theorem undisturbed_contactTURN (s : ICESocket) (i : Nat) (ending : TURNEnding) :
    Undisturbed s (s.contactTURN around i ending).1 := by
  have hrelay : Undisturbed s (s.edit i fun localSocket => { localSocket with mRelay := {} }) := by
    exact undisturbed_edit _ i (fun _ => rfl) fun _ => rfl
  unfold contactTURN
  split
  · exact .refl s
  split
  · exact .refl s
  dsimp only
  split
  · split
    · exact hrelay
    · apply hrelay.trans
      generalize s.edit i (fun localSocket => { localSocket with mRelay := {} }) = s
      have hturn : Undisturbed s (s.allocate.edit i fun localSocket =>
          { localSocket with mTURNSocket := some s.allocated }) := by
        apply (undisturbed_allocate s).trans
        exact undisturbed_edit _ i (fun _ => rfl) fun _ => rfl
      exact { hturn with }
  · apply hrelay.trans
    exact undisturbed_retryTURN _ i

theorem undisturbed_checkTURN (s : ICESocket) (i turn : Nat) : Undisturbed s (s.checkTURN around i turn).1 := by
  unfold checkTURN
  split
  · exact .refl s
  · exact .refl s
  · dsimp only
    exact undisturbed_edit s i (fun _ => rfl) fun _ => rfl
  · dsimp only
    exact (undisturbed_resetTURN s i).trans (undisturbed_edit _ i (fun _ => rfl) fun _ => rfl)

theorem undisturbed_wakeTURN (s : ICESocket) (i : Nat) : Undisturbed s (s.wakeTURN around i).1 := by
  unfold wakeTURN
  split
  · exact undisturbed_contactTURN s i _
  next turn _ =>
    dsimp only
    split
    · exact (undisturbed_checkTURN s i turn).trans (undisturbed_contactTURN _ i _)
    · exact undisturbed_checkTURN s i turn

theorem undisturbed_stepTURNSocket (s : ICESocket) (shouldSleep : Bool) (socket : Pointer) :
    Undisturbed s (stepTURNSocket around shouldSleep s socket).1 := by
  unfold stepTURNSocket
  cases s.mSockets.lookup socket with
  | none => exact .refl s
  | some i =>
    cases shouldSleep with
    | false => exact undisturbed_wakeTURN s i
    | true =>
      simp only [if_true, sleepTURN]
      split
      · exact .refl s
      · split
        · exact .refl s
        · exact undisturbed_resetTURN s i

theorem undisturbed_stepTURNSockets (s : ICESocket) (shouldSleep : Bool) (sockets : List Pointer) (all : Bool) :
    Undisturbed s (stepTURNSockets around shouldSleep sockets s all).1 := by
  induction sockets generalizing s all with
  | nil => exact .refl s
  | cons socket sockets ih =>
    have hfirst := @undisturbed_stepTURNSocket around s shouldSleep socket
    rw [stepTURNSockets]
    split
    next s' heq =>
      rw [heq] at hfirst
      exact hfirst
    next s' heq =>
      rw [heq] at hfirst
      exact hfirst.trans (ih s' false)
    next s' heq =>
      rw [heq] at hfirst
      exact hfirst.trans (ih s' all)

theorem undisturbed_stepTURN (s : ICESocket) : Undisturbed s (s.stepTURN around).1 := by
  unfold stepTURN
  split
  · have hidle : Undisturbed s { s with mTURNShutdownIfNotUsedBy := 600000 } :=
      ⟨rfl, rfl, rfl, fun _ => rfl, fun _ => rfl, Nat.le_refl _⟩
    have hsleep := hidle.trans (@undisturbed_stepTURNSockets around _ true (around.order s.mSockets.keys) true)
    dsimp only
    split
    next s' heq =>
      rw [heq] at hsleep
      exact hsleep
    next s' allSleeping heq =>
      rw [heq] at hsleep
      exact { hsleep with }
  · exact undisturbed_stepTURNSockets s false _ true

theorem undisturbed_restartRebindTimer (s : ICESocket) (hadNone : Bool) :
    Undisturbed s (s.restartRebindTimer hadNone) := by
  have hnew : ∀ s : ICESocket, Undisturbed s s.newRebindTimer := by
    intro s
    unfold newRebindTimer
    split
    · exact ⟨rfl, rfl, rfl, fun _ => rfl, fun _ => rfl, Nat.le_succ _⟩
    · exact .refl s
  unfold restartRebindTimer
  split
  · have hstopped : Undisturbed s { s with mRebindTimer := none } :=
      ⟨rfl, rfl, rfl, fun _ => rfl, fun _ => rfl, Nat.le_refl _⟩
    exact hstopped.trans (hnew _)
  · exact hnew s

theorem undisturbed_checkedNow (s : ICESocket) : Undisturbed s s.checkedNow := by
  unfold checkedNow
  split
  · exact .refl s
  · exact ⟨rfl, rfl, rfl, fun _ => rfl, fun _ => rfl, Nat.le_refl _⟩

theorem undisturbed_setError (s : ICESocket) (errorCode : Nat) (inReason : String) :
    Undisturbed s (s.setError errorCode inReason) := by
  unfold setError
  split
  · exact .refl s
  · exact ⟨rfl, rfl, rfl, fun _ => rfl, fun _ => rfl, Nat.le_refl _⟩

end Undisturbed

section Kept

/-- Every open socket is found by its pointer and by its address, and no address in the table has port zero. -/
structure Kept (s : ICESocket) : Prop where
  sockets : Indexes s.mSockets fun i => socketKey (s.localSockets i)
  localIPs : ∀ i, Live s i → s.mSocketLocalIPs.lookup (s.localSockets i).mLocal = some i
  ports : ∀ ip, (s.mSocketLocalIPs.lookup ip).isSome → ip.port ≠ 0
  unused : ∀ i, s.allocated ≤ i → ¬Live s i
  socket_lt : ∀ i n, (s.localSockets i).mSocket = some n → n < s.allocated

variable {s s' : ICESocket} {i : Nat} {around : Surroundings}

theorem Undisturbed.live (h : Undisturbed s s') : Live s' i ↔ Live s i := by
  rw [Live, Live, h.mSocket]

theorem Kept.undisturbed (h : Kept s) (hsame : Undisturbed s s') : Kept s' where
  sockets := by
    rw [hsame.mSockets]
    apply h.sockets.congr
    intro i
    rw [socketKey, hsame.mSocket, socketKey]
  localIPs i hlive := by
    rw [hsame.mSocketLocalIPs, hsame.mLocal]
    exact h.localIPs i (hsame.live.mp hlive)
  ports ip hip := h.ports ip (hsame.mSocketLocalIPs ▸ hip)
  unused i hi hlive := h.unused i (Nat.le_trans hsame.allocated hi) (hsame.live.mp hlive)
  socket_lt i n hn := Nat.lt_of_lt_of_le (h.socket_lt i n (hsame.mSocket i ▸ hn)) hsame.allocated

/-- Sockets may be closed, and none is opened. -/
structure Closes (s s' : ICESocket) : Prop where
  kept : Kept s'
  live : ∀ i, Live s' i → Live s i
  mLocal : ∀ i, (s'.localSockets i).mLocal = (s.localSockets i).mLocal

theorem Undisturbed.closes (hsame : Undisturbed s s') (h : Kept s) : Closes s s' :=
  ⟨h.undisturbed hsame, fun _ => hsame.live.mp, hsame.mLocal⟩

theorem Closes.trans {s'' : ICESocket} (h : Closes s s') (h' : Closes s' s'') : Closes s s'' where
  kept := h'.kept
  live i hlive := h.live i (h'.live i hlive)
  mLocal i := (h'.mLocal i).trans (h.mLocal i)

theorem live_of_found (h : Kept s) {socket : Pointer} (hlookup : s.mSockets.lookup socket = some i) : Live s i := by
  have hkey := map_some_eq.mp ((h.sockets socket i).mp hlookup)
  rw [Live, hkey.2]
  exact hkey.1

/-- A socket is closed, and its address is taken out of the table or stays there. -/
theorem closes_closeSocket (h : Kept s) {socket : Pointer} (hlookup : s.mSockets.lookup socket = some i)
    {localIPs : AList fun _ : IPAddress => Nat}
    (hlocalIPs : localIPs = s.mSocketLocalIPs ∨ localIPs = s.mSocketLocalIPs.erase (s.localSockets i).mLocal) :
    Closes s (({ s with mSocketLocalIPs := localIPs }).closeSocket socket i) := by
  have hlive : ∀ j, Live (({ s with mSocketLocalIPs := localIPs }).closeSocket socket i) j → j ≠ i ∧ Live s j := by
    intro j hj
    by_cases hji : j = i
    · subst hji
      simp [Live, closeSocket, edit] at hj
    · exact ⟨hji, by simpa [Live, closeSocket, edit, hji] using hj⟩
  have hlocal : ∀ j, ((({ s with mSocketLocalIPs := localIPs }).closeSocket socket i).localSockets j).mLocal =
      (s.localSockets j).mLocal := by
    intro j
    by_cases hji : j = i
    · subst hji
      simp [closeSocket, edit]
    · simp [closeSocket, edit, hji]
  refine ⟨⟨?_, fun j hj => ?_, fun ip hip => ?_, fun j hj hopen => ?_, fun j n hn => ?_⟩,
    fun j hj => (hlive j hj).2, hlocal⟩
  · exact h.sockets.erase_update ((h.sockets socket i).mp hlookup) rfl
  · obtain ⟨hji, hj⟩ := hlive j hj
    rw [hlocal]
    have hfound := h.localIPs j hj
    cases hlocalIPs with
    | inl heq =>
      subst heq
      exact hfound
    | inr heq =>
      subst heq
      have hne : (s.localSockets j).mLocal ≠ (s.localSockets i).mLocal := by
        intro hsame
        rw [hsame, h.localIPs i (live_of_found h hlookup)] at hfound
        exact hji (Option.some.inj hfound).symm
      exact (AList.lookup_erase_ne hne).trans hfound
  · cases hlocalIPs with
    | inl heq =>
      subst heq
      exact h.ports ip hip
    | inr heq =>
      subst heq
      have hmem : ip ∈ s.mSocketLocalIPs.erase (s.localSockets i).mLocal := AList.lookup_isSome.mp hip
      exact h.ports ip (AList.lookup_isSome.mpr (AList.mem_erase.mp hmem).2)
  · exact h.unused j hj (hlive j hopen).2
  · by_cases hji : j = i
    · subst hji
      simp [closeSocket, edit] at hn
    · simp only [closeSocket, edit, Function.update_of_ne hji] at hn
      exact h.socket_lt j n hn

theorem closes_cancelSocket (h : Kept s) (socket : Pointer) : Closes s (cancelSocket around s socket) := by
  unfold cancelSocket
  cases hlookup : s.mSockets.lookup socket with
  | none => exact (Undisturbed.refl s).closes h
  | some i =>
    dsimp only
    have htimer : Undisturbed s (s.edit i fun localSocket => { localSocket with mTURNRetryTimer := none }) :=
      undisturbed_edit s i (fun _ => rfl) fun _ => rfl
    have hstun := htimer.trans (undisturbed_resetSTUN _ i)
    have hturn := hstun.trans (undisturbed_resetTURN _ i)
    split
    · exact hstun.closes h
    · have hclosed := closes_closeSocket (h.undisturbed hturn) (by rw [hturn.mSockets]; exact hlookup) (.inr rfl)
      exact (hturn.closes h).trans hclosed

theorem closes_cancelSockets (h : Kept s) (sockets : List Pointer) :
    Closes s (sockets.foldl (cancelSocket around) s) := by
  induction sockets generalizing s with
  | nil => exact (Undisturbed.refl s).closes h
  | cons socket sockets ih =>
    have hfirst := @closes_cancelSocket _ around h socket
    exact hfirst.trans (ih hfirst.kept)

theorem closes_cancel (h : Kept s) : Closes s (s.cancel around) := by
  have hclosing : Undisturbed s { s.setState .shuttingDown with mRebindTimer := none } :=
    ⟨rfl, rfl, rfl, fun _ => rfl, fun _ => rfl, Nat.le_refl _⟩
  have hcancelled := (hclosing.closes h).trans
    (@closes_cancelSockets _ around (h.undisturbed hclosing) (around.order s.mSockets.keys))
  unfold ICESocket.cancel
  split
  · exact (Undisturbed.refl s).closes h
  dsimp only
  split
  · exact hcancelled
  · apply hcancelled.trans
    exact Undisturbed.closes ⟨rfl, rfl, rfl, fun _ => rfl, fun _ => rfl, Nat.le_refl _⟩ hcancelled.kept

theorem closes_postCandidateCheck (h : Kept s) : Closes s (s.postCandidateCheck around) := by
  unfold postCandidateCheck
  split
  · exact closes_cancel h
  · exact (Undisturbed.refl s).closes h

end Kept

section Search

variable {s : ICESocket} {around : Surroundings}

variable {i : Nat}

theorem open_of_live (h : Kept s) (hlive : Live s i) : s.isOpen (s.localSockets i).mLocal = true := by
  have hlookup : s.mSockets.lookup (s.localSockets i).mSocket = some i :=
    (h.sockets _ i).mpr (map_some_eq.mpr ⟨hlive, rfl⟩)
  exact List.any_eq_true.mpr ⟨_, AList.mem_lookup_iff.mp hlookup, by simp⟩

theorem addLocalSocket_localSockets (s : ICESocket) (bindIP : IPAddress) : (s.addLocalSocket bindIP).localSockets =
    Function.update s.localSockets s.allocated { mSocket := some (s.allocated + 1), mLocal := bindIP } := rfl

theorem addLocalSocket_localSockets_of_ne (s : ICESocket) (bindIP : IPAddress) (h : i ≠ s.allocated) :
    (s.addLocalSocket bindIP).localSockets i = s.localSockets i := Function.update_of_ne h _ _

theorem Kept.addLocalSocket {bindIP : IPAddress} (h : Kept s) (hopen : s.isOpen bindIP = false)
    (hport : bindIP.port ≠ 0) : Kept (s.addLocalSocket bindIP) := by
  have hnone : (s.localSockets s.allocated).mSocket = none := not_not.mp (h.unused s.allocated (Nat.le_refl _))
  have hsocket : ∀ j, socketKey (s.localSockets j) ≠ some (some (s.allocated + 1)) := by
    intro j hj
    have hlt := h.socket_lt j _ (map_some_eq.mp hj).2
    omega
  constructor
  · exact h.sockets.insert_update hsocket (by rw [socketKey, hnone]; rfl) rfl
  · intro i hlive
    by_cases hi : i = s.allocated
    · subst hi
      rw [addLocalSocket_localSockets, Function.update_self]
      exact AList.lookup_insert _
    · rw [Live, addLocalSocket_localSockets_of_ne s bindIP hi] at hlive
      rw [addLocalSocket_localSockets_of_ne s bindIP hi]
      have hne : (s.localSockets i).mLocal ≠ bindIP := by
        intro hsame
        have hother := open_of_live h hlive
        rw [hsame, hopen] at hother
        cases hother
      exact (AList.lookup_insert_ne hne).trans (h.localIPs i hlive)
  · intro ip hip
    by_cases hsame : ip = bindIP
    · subst hsame
      exact hport
    · have hold : (s.mSocketLocalIPs.insert bindIP s.allocated).lookup ip = s.mSocketLocalIPs.lookup ip :=
        AList.lookup_insert_ne hsame
      apply h.ports
      rw [← hold]
      exact hip
  · intro i hi hlive
    have hle : s.allocated + 2 ≤ i := hi
    have hne : i ≠ s.allocated := by omega
    rw [Live, addLocalSocket_localSockets_of_ne s bindIP hne] at hlive
    exact h.unused i (by omega) hlive
  · intro i n hn
    show n < s.allocated + 2
    by_cases hi : i = s.allocated
    · subst hi
      simp [addLocalSocket_localSockets] at hn
      omega
    · rw [addLocalSocket_localSockets_of_ne s bindIP hi] at hn
      have hlt := h.socket_lt i n hn
      omega

theorem Kept.bindLocalIP (h : Kept s) (port : Nat) (ip : Interface) : Kept (bindLocalIP port s ip) := by
  obtain ⟨-, heq⟩ | ⟨free, -, heq⟩ := bindLocalIP_cases port s ip
  · rw [heq]
    exact h
  have hported : Kept { s with mBindPort := grantedPort port free } :=
    { h with }
  rw [heq]
  obtain ⟨-, heq⟩ | ⟨-, heq⟩ | ⟨hopen, hport, heq⟩ := bindSocket_cases s ⟨ip.address, grantedPort port free⟩
  · rw [heq]
    exact h
  · rw [heq]
    exact hported
  · rw [heq]
    exact hported.addLocalSocket hopen hport

theorem Kept.bindLocalIPs (h : Kept s) (port : Nat) (ips : List Interface) :
    Kept (ips.foldl (ICESocket.bindLocalIP port) s) := by
  induction ips generalizing s with
  | nil => exact h
  | cons ip ips ih => exact ih (h.bindLocalIP port ip)

/-- The state in which a call steps, if it does. -/
def steps (s : ICESocket) (call : Event × Surroundings) : Option ICESocket :=
  match call.1 with
  | .stepped => some s
  | .wakeup minimumTime =>
    if s.isShuttingDown ∨ s.isShutdown then none
    else some { s with
      mTURNLastUsed := call.2.now
      mTURNShutdownIfNotUsedBy := max s.mTURNShutdownIfNotUsedBy minimumTime }
  | .sendTo _ | .onReadReady _ _ | .shutdown => none
  | .onException socket =>
    match s.mSockets.lookup socket with
    | none => none
    | some i => some { ((s.resetTURN i).resetSTUN i).closeSocket socket i with
      mRebindCheckNow := true
      mRebindAttemptStartTime := call.2.now }
  | .onTimer timer =>
    if s.mRebindTimer = some timer then some { s with mRebindCheckNow := true }
    else
      match s.mSocketLocalIPs.entries.find? fun entry => (s.localSockets entry.2).mTURNRetryTimer = some timer with
      | none => none
      | some entry => some (s.edit entry.2 fun localSocket => { localSocket with mTURNRetryTimer := none })

/-- It goes through the addresses of the interfaces when it steps. -/
def searching (s : ICESocket) : Bool := !s.isShuttingDown && !s.isShutdown && s.looksAround

/-- The state in which a call goes through the addresses of the interfaces, if it does. -/
def searches (s : ICESocket) (call : Event × Surroundings) : Option ICESocket := (s.steps call).filter searching

variable {t : ICESocket} {call : Event × Surroundings}

theorem take_of_steps (h : s.steps call = some t) : s.take call = t.step call.2 := by
  obtain ⟨event, around⟩ := call
  cases event with
  | stepped => rw [Option.some.inj h]; rfl
  | wakeup minimumTime =>
    simp only [steps, Option.ite_none_left_eq_some, Option.some.injEq] at h
    simp only [take, ICESocket.wakeup, if_neg h.1, ← h.2]
  | sendTo viaLocalIP => cases h
  | onReadReady socket isThrown => cases h
  | onException socket =>
    simp only [steps] at h
    simp only [take, onException]
    cases hlookup : s.mSockets.lookup socket with
    | none => simp [hlookup] at h
    | some i =>
      simp only [hlookup, Option.some.injEq] at h
      rw [← h]
  | onTimer timer =>
    simp only [steps] at h
    simp only [take, onTimer]
    split
    next htimer =>
      rw [if_pos htimer] at h
      rw [Option.some.inj h]
    next htimer =>
      rw [if_neg htimer] at h
      generalize List.find? _ _ = found at h ⊢
      cases found with
      | none => cases h
      | some entry =>
        dsimp only
        rw [Option.some.inj h]
  | shutdown => cases h

/-- A call that does not step closes sockets at most. -/
theorem closes_of_steps_none (h : Kept s) (hnone : s.steps call = none) : Closes s (s.take call) := by
  have hrefl := (Undisturbed.refl s).closes h
  obtain ⟨event, around⟩ := call
  cases event with
  | stepped => cases hnone
  | wakeup minimumTime =>
    simp only [steps, ite_eq_left_iff, reduceCtorEq, imp_false, not_not] at hnone
    simp only [take, ICESocket.wakeup, if_pos hnone]
    exact hrefl
  | sendTo viaLocalIP =>
    simp only [take, sendTo]
    split
    · exact hrefl
    · cases s.mSocketLocalIPs.lookup viaLocalIP with
      | none => exact hrefl
      | some i =>
        dsimp only
        split
        · exact hrefl
        · exact Undisturbed.closes ⟨rfl, rfl, rfl, fun _ => rfl, fun _ => rfl, Nat.le_refl _⟩ h
  | onReadReady socket isThrown =>
    simp only [take, onReadReady]
    split
    · exact closes_cancel h
    · exact hrefl
  | onException socket =>
    simp only [steps] at hnone
    simp only [take, onException]
    cases hlookup : s.mSockets.lookup socket with
    | none => exact hrefl
    | some i => simp [hlookup] at hnone
  | onTimer timer =>
    simp only [steps] at hnone
    simp only [take, onTimer]
    split
    next htimer => simp [htimer] at hnone
    next htimer =>
      rw [if_neg htimer] at hnone
      generalize List.find? _ _ = found at hnone ⊢
      cases found with
      | none => exact hrefl
      | some entry => cases hnone
  | shutdown => exact closes_cancel h

/-- A call steps in a state in which sockets were closed at most. -/
theorem closes_of_steps (h : Kept s) (hsteps : s.steps call = some t) : Closes s t := by
  obtain ⟨event, around⟩ := call
  cases event with
  | stepped =>
    cases hsteps
    exact (Undisturbed.refl s).closes h
  | wakeup minimumTime =>
    simp only [steps, Option.ite_none_left_eq_some, Option.some.injEq] at hsteps
    rw [← hsteps.2]
    exact Undisturbed.closes ⟨rfl, rfl, rfl, fun _ => rfl, fun _ => rfl, Nat.le_refl _⟩ h
  | sendTo viaLocalIP => cases hsteps
  | onReadReady socket isThrown => cases hsteps
  | onException socket =>
    simp only [steps] at hsteps
    cases hlookup : s.mSockets.lookup socket with
    | none => simp [hlookup] at hsteps
    | some i =>
      simp only [hlookup, Option.some.injEq] at hsteps
      have hreset := (undisturbed_resetTURN s i).trans (undisturbed_resetSTUN _ i)
      have hclosed := closes_closeSocket (i := i) (h.undisturbed hreset) (by rw [hreset.mSockets]; exact hlookup)
        (.inl rfl)
      rw [← hsteps]
      apply ((hreset.closes h).trans hclosed).trans
      exact Undisturbed.closes ⟨rfl, rfl, rfl, fun _ => rfl, fun _ => rfl, Nat.le_refl _⟩ hclosed.kept
  | onTimer timer =>
    simp only [steps] at hsteps
    split at hsteps
    · rw [← Option.some.inj hsteps]
      exact Undisturbed.closes ⟨rfl, rfl, rfl, fun _ => rfl, fun _ => rfl, Nat.le_refl _⟩ h
    · generalize List.find? _ _ = found at hsteps
      cases found with
      | none => cases hsteps
      | some entry =>
        rw [← Option.some.inj hsteps]
        have hedit : Undisturbed s (s.edit entry.2 fun localSocket => { localSocket with mTURNRetryTimer := none }) :=
          undisturbed_edit s entry.2 (fun _ => rfl) fun _ => rfl
        exact hedit.closes h
  | shutdown => cases hsteps

theorem closes_stepBind (h : Kept (s.checkedNow.bindLocalIPs around)) (hlooks : s.looksAround = true) :
    Closes (s.checkedNow.bindLocalIPs around) (s.stepBind around).1 := by
  have hrestarted := undisturbed_restartRebindTimer (s.checkedNow.bindLocalIPs around) (s.mSockets.keys = [])
  have herror := hrestarted.trans (undisturbed_setError _ 408 "unable to bind to local UDP port")
  rw [stepBind, hlooks]
  simp only [Bool.not_true, Bool.false_eq_true, if_false]
  split
  next hempty =>
    rw [ICESocket.bindLocalIPs, List.isEmpty_iff.mp hempty] at h ⊢
    exact (Undisturbed.refl _).closes h
  next =>
    split
    · exact (herror.closes h).trans (closes_cancel (h.undisturbed herror))
    · exact hrestarted.closes h

/-- After binding sockets may be closed. -/
theorem closes_step (h : Kept s) :
    Closes (if s.searching then s.checkedNow.bindLocalIPs around else s) (s.step around) := by
  have hrefl := (Undisturbed.refl s).closes h
  unfold ICESocket.step
  by_cases hdone : s.isShuttingDown = true ∨ s.isShutdown = true
  · have hidle : s.searching = false := by
      cases hdone with
      | inl hshutting => simp [searching, hshutting]
      | inr hshut => simp [searching, hshut]
    rw [hidle, if_pos hdone]
    exact closes_cancel h
  · obtain ⟨hshutting, hshut⟩ := not_or.mp hdone
    have hlooking : s.searching = s.looksAround := by simp [searching, hshutting, hshut]
    rw [hlooking, if_neg hdone]
    have hbound : Closes (if s.looksAround = true then s.checkedNow.bindLocalIPs around else s) (s.stepBind around).1 := by
      split
      next hlooks => exact closes_stepBind ((h.undisturbed (undisturbed_checkedNow s)).bindLocalIPs _ _) hlooks
      next hlooks =>
        simp only [Bool.not_eq_true] at hlooks
        simpa [stepBind, hlooks] using hrefl
    apply hbound.trans
    have hkept := hbound.kept
    generalize s.stepBind around = bound at hkept
    dsimp only
    have hturned := (@undisturbed_stepSTUN around bound.1).trans (@undisturbed_stepTURN around (bound.1.stepSTUN around))
    split
    · exact closes_postCandidateCheck hkept
    · split
      next s' heq =>
        rw [heq] at hturned
        exact hturned.closes hkept
      next s' heq =>
        rw [heq] at hturned
        exact (hturned.closes hkept).trans (closes_postCandidateCheck (hkept.undisturbed hturned))
      next s' heq =>
        rw [heq] at hturned
        have hready : Undisturbed bound.1 (s'.setState .ready) :=
          hturned.trans ⟨rfl, rfl, rfl, fun _ => rfl, fun _ => rfl, Nat.le_refl _⟩
        exact (hready.closes hkept).trans (closes_postCandidateCheck (hkept.undisturbed hready))

theorem closes_take {call : Event × Surroundings} (h : Kept s) :
    (s.searches call = none ∧ Closes s (s.take call)) ∨
    ∃ t, s.searches call = some t ∧ Closes s t ∧ Closes (t.checkedNow.bindLocalIPs call.2) (s.take call) := by
  cases hsteps : s.steps call with
  | none => exact .inl ⟨by rw [searches, hsteps]; rfl, closes_of_steps_none h hsteps⟩
  | some t =>
    have hclosed := closes_of_steps h hsteps
    have hstep := @closes_step _ call.2 hclosed.kept
    rw [searches, hsteps, take_of_steps hsteps]
    cases hsearching : t.searching with
    | false =>
      rw [hsearching] at hstep
      exact .inl ⟨by simp [hsearching], hclosed.trans hstep⟩
    | true =>
      rw [hsearching] at hstep
      exact .inr ⟨t, by simp [hsearching], hclosed, hstep⟩

theorem Kept.take (h : Kept s) : Kept (s.take call) := by
  obtain ⟨-, hclosed⟩ | ⟨t, -, -, hclosed⟩ := @closes_take _ call h
  · exact hclosed.kept
  · exact hclosed.kept

theorem kept_new (h : IsNew s) : Kept s := by
  have hsound := (inv_new h).sound
  cases h with
  | create turnServer stunServer port now =>
    exact ⟨hsound.sockets, by simp [Live, create], by simp [create], by simp [Live, create], by simp [create]⟩
  | createSRV srvTURNUDP srvTURNTCP srvSTUN port now =>
    exact ⟨hsound.sockets, by simp [Live, createSRV], by simp [createSRV], by simp [Live, createSRV],
      by simp [createSRV]⟩

end Search

end OpenPeer.ICESocket
