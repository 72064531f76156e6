import OpenPeer.ICESocketSessionBooks

/-!
# The books of a nomination in every run

Each handler keeps the books: of requests, of responses and timeouts, of timers and of the
calls of the owner. So they are right after any run of a session, whoever sends to it.
-/
namespace OpenPeer

open Runs

namespace ICESocketSession

variable {ext : ICEExternals} {valid : STUNPacket → List UInt8 → Bool} {s s' : ICESocketSession} {env : Env}

section Requests

variable {viaTransport : Types} {source : IPAddress}

theorem matchPair_mem {viaLocalIP : IPAddress} {found : CandidatePair}
    (h : s.matchPair ext viaLocalIP viaTransport source = some found) : found ∈ s.mCandidatePairs := by
  unfold matchPair at h
  split at h
  next nominated hnominated =>
    split at h
    · cases h
      exact List.mem_of_find?_eq_some hnominated
    · exact List.mem_of_find?_eq_some h
  · exact List.mem_of_find?_eq_some h

variable (viaLocalIP : IPAddress)

theorem findPair_keeps (viaTransport : Types) (source : IPAddress) :
    Keeps s (s.findPair ext viaLocalIP viaTransport source).1 := by
  unfold findPair
  split
  · unfold discover
    dsimp only
    split
    · exact .of_pairs rfl rfl rfl rfl rfl (.inr rfl) rfl
    · constructor
      · rfl
      · intro h
        constructor
        · exact h.nominating
        · exact h.alive
        · intro id hid
          rw [List.map_append]
          exact List.mem_append_left _ (h.pending id hid)
        · intro id hid
          rw [List.map_append]
          exact List.mem_append_left _ (h.nominated id hid)
        · exact h.badState
      · exact .inr rfl
      · exact .inr rfl
      · exact fun _ hid => .inl hid
  · exact updatePair_keeps _ fun _ => rfl

theorem findPair_ids {viaLocalIP : IPAddress} {found : CandidatePair}
    (h : (s.findPair ext viaLocalIP viaTransport source).2 = some found) :
    found.mID ∈ (s.findPair ext viaLocalIP viaTransport source).1.mCandidatePairs.map (·.mID) := by
  unfold findPair at h ⊢
  cases hmatch : s.matchPair ext viaLocalIP viaTransport source with
  | none =>
    rw [hmatch] at h
    unfold discover at h ⊢
    dsimp only at h ⊢
    cases hlocal : s.localCandidate ext viaLocalIP viaTransport with
    | none => simp [hlocal] at h
    | some candidate =>
      simp only [hlocal, Option.some.injEq] at h
      subst h
      simp
  | some pair =>
    rw [hmatch] at h
    simp only [Option.some.injEq] at h
    subst h
    have hids := updatePair_ids (s := s) pair.mID (f := fun pair => { pair with mReceivedRequest := true, mFailed := false })
      fun _ => rfl
    dsimp only
    rw [hids]
    exact List.mem_map_of_mem (matchPair_mem hmatch)

variable {found : Option CandidatePair}

theorem acceptNomination_keeps (stun : STUNPacket)
    (hfound : ∀ pair, found = some pair → pair.mID ∈ s.mCandidatePairs.map (·.mID)) :
    Keeps s (s.acceptNomination stun found) := by
  unfold acceptNomination
  split
  · exact .refl _
  next pair =>
    split
    next haccept =>
      constructor
      · rfl
      · intro h
        constructor
        · exact fun hnone => by cases hnone
        · exact fun _ => rfl
        · exact fun id hid => by cases hid
        · intro id hid
          cases hid
          exact hfound pair rfl
        · exact h.badState
      · exact .inl rfl
      · exact .inl rfl
      · exact fun _ _ => .inr (.inr haccept.2.1)
    · exact .refl _

theorem triggerCheck_keeps (found : Option CandidatePair) : Keeps s (s.triggerCheck env found) := by
  unfold triggerCheck
  split
  · exact .refl _
  next found =>
    split
    · exact .refl _
    · exact .of_pairs (updatePair_ids found.mID fun _ => rfl) rfl rfl rfl rfl (.inr rfl) rfl

theorem noteActivity_keeps : Keeps s (s.noteActivity env) := .of_pairs rfl rfl rfl rfl rfl (.inl rfl) rfl

theorem noteSTUN_keeps (found : Option CandidatePair) : Keeps s (s.noteSTUN env found) := by
  unfold noteSTUN
  split
  · exact .refl _
  split
  · exact noteActivity_keeps
  · exact .refl _

theorem handleAccepted_keeps (stun : STUNPacket) {found : Option CandidatePair}
    (hfound : ∀ pair, found = some pair → pair.mID ∈ s.mCandidatePairs.map (·.mID)) :
    Keeps s (s.handleAccepted env stun found) :=
  ((acceptNomination_keeps stun hfound).trans (triggerCheck_keeps found)).trans (noteSTUN_keeps found)

theorem answer_opens (viaTransport : Types) (source : IPAddress) (stun : STUNPacket)
    (hfound : ∀ pair, found = some pair → pair.mID ∈ s.mCandidatePairs.map (·.mID)) :
    Opens s (s.answer env viaLocalIP viaTransport source stun found) := by
  have hsent (packet : STUNPacket) :
      (s.sendTo viaLocalIP viaTransport source packet).mCandidatePairs = s.mCandidatePairs := by
    unfold sendTo
    split <;> rfl
  unfold answer
  split
  · exact (handleAccepted_keeps stun hfound).toOpens
  split
  · have haccepted := @handleAccepted_keeps _ env stun found
      (by rw [hsent (s.successResponse stun source)]; exact hfound)
    exact ((sendTo_keeps _ _ _ _).trans haccepted).toOpens
  · exact (sendTo_keeps _ _ _ _).toOpens
  · exact switchRole_opens _

theorem handleSTUNPacket_opens (viaTransport : Types) (source : IPAddress) (stun : STUNPacket)
    (localUsernameFrag remoteUsernameFrag : List UInt8) :
    Opens s (s.handleSTUNPacket ext valid env viaLocalIP viaTransport source stun localUsernameFrag
      remoteUsernameFrag).1 := by
  unfold handleSTUNPacket
  split
  · exact (Keeps.refl s).toOpens
  split
  · exact (Keeps.refl s).toOpens
  split
  · exact (Keeps.refl s).toOpens
  split
  · exact (Keeps.refl s).toOpens
  split
  · split
    · exact (Keeps.refl s).toOpens
    · exact (sendTo_keeps _ _ _ _).toOpens
  · exact (findPair_keeps viaLocalIP viaTransport source).opens (answer_opens _ _ _ _ fun _ => findPair_ids)

end Requests

section Responses

variable {requester : STUNRequester}

theorem isRequester_isSome {owned : Option STUNRequester} (h : isRequester requester owned = true) :
    owned.isSome := by
  cases owned with
  | none => cases h
  | some _ => rfl

theorem pair?_isSome {id : Nat} (h : id ∈ s.mCandidatePairs.map (·.mID)) : (s.pair? (some id)).isSome := by
  obtain ⟨pair, hmem, hid⟩ := List.mem_map.mp h
  apply List.find?_isSome.mpr
  exact ⟨pair, hmem, by simp [hid]⟩

theorem Sound.pendingPair (h : Sound s) (hrequester : isRequester requester s.mNominateRequester = true) :
    (s.pair? s.mPendingNominatation).isSome := by
  obtain ⟨id, hid⟩ := Option.isSome_iff_exists.mp (h.nominating (isRequester_isSome hrequester))
  rw [hid]
  exact pair?_isSome (h.pending id hid)

theorem Sound.nominatedPair (h : Sound s) (hrequester : isRequester requester s.mAliveCheckRequester = true) :
    (s.pair? s.mNominated).isSome := by
  obtain ⟨id, hid⟩ := Option.isSome_iff_exists.mp (h.alive (isRequester_isSome hrequester))
  rw [hid]
  exact pair?_isSome (h.nominated id hid)

theorem badState_keeps (h : ¬Sound s) : Keeps s { s with badState := true } :=
  ⟨rfl, fun hsound => absurd hsound h, .inr rfl, .inr rfl, fun _ hid => .inl hid⟩

theorem onSTUNRequesterTimedOut_opens (requester : STUNRequester) :
    Opens s (s.onSTUNRequesterTimedOut ext env requester) := by
  unfold onSTUNRequesterTimedOut
  split
  next halive =>
    dsimp only
    have hdropped (s : ICESocketSession) : Keeps s { s with mAliveCheckRequester := none } :=
      .of_pairs rfl rfl rfl rfl rfl (.inl rfl) rfl
    split
    next hnone =>
      have hunsound : ¬Sound s := by
        intro hsound
        have hsome := hsound.alive (isRequester_isSome halive)
        rw [Option.isNone_iff_eq_none.mp hnone] at hsome
        cases hsome
      exact (((badState_keeps hunsound).trans (hdropped _)).trans (setError_cancel_keeps 408)).toOpens
    · exact ((hdropped s).trans (setError_cancel_keeps 408)).toOpens
  split
  · apply Keeps.toOpens
    have hids (requesters : List STUNRequester) (id : Nat) :=
      updatePair_ids (s := cancelRequesters { s with mNominateRequester := none } requesters) id
        (f := failedNomination) fun _ => rfl
    dsimp only
    split
    · constructor
      · rfl
      · exact fun h => ⟨fun hnone => (by cases hnone), h.alive, fun id hid => (by cases hid), h.nominated, h.badState⟩
      · exact .inl rfl
      · exact .inl rfl
      · exact fun _ hid => .inl hid
    next pairing _ =>
      constructor
      · rfl
      · intro h
        constructor
        · exact fun hnone => by cases hnone
        · exact h.alive
        · exact fun id hid => by cases hid
        · exact fun id hid => (hids _ _).symm ▸ h.nominated id hid
        · exact h.badState
      · exact .inl rfl
      · exact .inl rfl
      · exact fun _ hid => .inl hid
  · split
    · exact (Keeps.refl s).toOpens
    next pairing _ => exact updatePair_step_opens pairing.mID fun _ => rfl

theorem handleNominatedResponse_opens (requester : STUNRequester) (response : STUNPacket)
    (hrequester : isRequester requester s.mNominateRequester = true ∨
      isRequester requester s.mAliveCheckRequester = true) :
    Opens s (s.handleNominatedResponse ext valid env requester response).1 := by
  unfold handleNominatedResponse
  extract_lets nominating usePair
  split
  next hnone =>
    have hunsound : ¬Sound s := by
      intro hsound
      have hsome : usePair.isSome := by
        by_cases hnominating : nominating = true
        · rw [show usePair = s.mPendingNominatation from if_pos hnominating]
          exact hsound.nominating (isRequester_isSome hnominating)
        · rw [show usePair = s.mNominated from if_neg hnominating]
          exact hsound.alive (isRequester_isSome (hrequester.resolve_left hnominating))
      rw [Option.isNone_iff_eq_none.mp hnone] at hsome
      cases hsome
    exact (badState_keeps hunsound).toOpens
  split
  · split
    · split
      · exact (Keeps.refl s).toOpens
      split
      · exact (Keeps.refl s).toOpens
      · exact switchRole_opens _
    · exact onSTUNRequesterTimedOut_opens requester
  split
  · exact (Keeps.refl s).toOpens
  split
  · have hheard : Keeps s { s with mLastReceivedDataOrSTUN := env.now, mAliveCheckRequester := none } :=
      .of_pairs rfl rfl rfl rfl rfl (.inl rfl) rfl
    exact hheard.toOpens
  next hpair _ _ _ =>
    have huse : usePair = s.mPendingNominatation ∨ usePair = s.mNominated := by
      by_cases hnominating : nominating = true
      · exact .inl (if_pos hnominating)
      · exact .inr (if_neg hnominating)
    have hsome : usePair.isSome := Option.isSome_iff_ne_none.mpr fun hnone => hpair (by rw [hnone]; rfl)
    apply Keeps.toOpens
    constructor
    · rfl
    · intro h
      constructor
      · exact fun hnone => by cases hnone
      · exact fun _ => hsome
      · exact fun id hid => by cases hid
      · intro id hid
        cases huse with
        | inl huse => exact h.pending id (huse ▸ hid)
        | inr huse => exact h.nominated id (huse ▸ hid)
      · exact h.badState
    · exact .inl rfl
    · exact .inl rfl
    · intro id hid
      cases huse with
      | inl huse => exact .inr (.inl (huse ▸ hid))
      | inr huse => exact .inl (huse ▸ hid)

theorem handleSTUNRequesterResponse_opens (requester : STUNRequester) (response : STUNPacket) :
    Opens s (s.handleSTUNRequesterResponse ext valid env requester response).1 := by
  unfold handleSTUNRequesterResponse
  split
  · exact (Keeps.refl s).toOpens
  split
  next hrequester => exact handleNominatedResponse_opens requester response hrequester
  split
  · exact (Keeps.refl s).toOpens
  next pairing _ =>
    unfold handlePairResponse
    split
    · split
      · split
        · exact (Keeps.refl s).toOpens
        · exact switchRole_opens _
      · exact (Keeps.refl s).toOpens
    · exact updatePair_step_opens pairing.mID fun _ => rfl

theorem receiveResponse_opens (response : STUNPacket) : Opens s (s.receiveResponse ext valid env response) := by
  unfold receiveResponse
  split
  · exact (Keeps.refl s).toOpens
  next requester _ =>
    split
    · have hresponse := @handleSTUNRequesterResponse_opens ext valid s env requester response
      dsimp only
      split
      · constructor
        · intro hsound
          have h := hresponse.sound hsound
          exact { h with }
        · exact hresponse.requester
        · exact hresponse.nominated
      · exact hresponse
    · exact (Keeps.refl s).toOpens

theorem onSTUNRequesterSendPacket_keeps (requester : STUNRequester) :
    Keeps s (s.onSTUNRequesterSendPacket ext requester) := by
  have hunsound {id : Option Nat} (hnone : s.pair? id = none) (hsome : Sound s → (s.pair? id).isSome) : ¬Sound s := by
    intro h
    have := hsome h
    rw [hnone] at this
    cases this
  unfold onSTUNRequesterSendPacket
  dsimp only
  split
  · exact .refl _
  split
  next hrequester =>
    split
    next hnone => exact badState_keeps (hunsound hnone fun h => h.pendingPair hrequester)
    · exact sendTo_keeps _ _ _ _
  split
  next hrequester =>
    split
    next hnone => exact badState_keeps (hunsound hnone fun h => h.nominatedPair hrequester)
    · exact sendTo_keeps _ _ _ _
  split
  · exact .refl _
  · exact sendTo_keeps _ _ _ _

end Responses

section Timers

theorem activate_keeps : Keeps s (s.activate ext env) := by
  unfold activate
  split
  · exact .refl _
  · exact updatePair_keeps _ fun _ => rfl
  next pairing _ => exact .of_pairs (updatePair_ids pairing.mID fun _ => rfl) rfl rfl rfl rfl (.inr rfl) rfl

theorem keepAlive_keeps : Keeps s (s.keepAlive ext env) := by
  unfold keepAlive
  split
  · exact .refl _
  split
  · exact .refl _
  split
  · exact .refl _
  · exact sendTo_keeps _ _ _ _

theorem expectData_keeps : Keeps s (s.expectData env) := by
  unfold expectData
  split
  next hdue =>
    split
    · exact .refl _
    · have hnominated : s.mNominated.isSome := by
        simp only [aliveCheckDue, Bool.and_eq_true] at hdue
        exact hdue.1.1.2
      constructor
      · rfl
      · exact fun h => ⟨h.nominating, fun _ => hnominated, h.pending, h.nominated, h.badState⟩
      · exact .inr rfl
      · exact .inr rfl
      · exact fun _ hid => .inl hid
  · exact .refl _

theorem onTimer_opens (timer : SessionTimer) : Opens s (s.onTimer ext env timer) := by
  have htouch : Keeps s (s.touch env) := by
    unfold touch
    split
    · exact .of_pairs rfl rfl rfl rfl rfl (.inr rfl) rfl
    · exact .refl _
  unfold onTimer
  split
  · exact (Keeps.refl s).toOpens
  split
  · exact (setError_cancel_keeps 599).toOpens
  unfold onSessionTimer
  cases timer with
  | step =>
    dsimp only
    split
    · exact htouch.opens step_opens
    · exact htouch.toOpens
  | activate =>
    dsimp only
    split
    · exact (htouch.trans activate_keeps).toOpens
    · exact htouch.toOpens
  | keepAlive =>
    dsimp only
    split
    · exact (htouch.trans keepAlive_keeps).toOpens
    · exact htouch.toOpens
  | expectingData =>
    dsimp only
    split
    · exact (htouch.trans expectData_keeps).toOpens
    · exact htouch.toOpens

end Timers

section Runs

theorem act_opens (inbox : List SentPacket) (action : SessionAction) : Opens s (s.act ext env inbox action) := by
  cases action with
  | receive n viaLocalIP relayed source =>
    unfold act receiveSTUN
    dsimp only
    split
    · exact (Keeps.refl s).toOpens
    split
    · split
      · exact (Keeps.refl s).toOpens
      · exact handleSTUNPacket_opens _ _ _ _ _ _
    · exact receiveResponse_opens _
  | sendPacket n =>
    unfold act
    dsimp only
    split
    · exact (Keeps.refl s).toOpens
    · exact (onSTUNRequesterSendPacket_keeps _).toOpens
  | timedOut n =>
    unfold act
    dsimp only
    split
    · exact (Keeps.refl s).toOpens
    · exact onSTUNRequesterTimedOut_opens _
  | timer timer => exact onTimer_opens timer
  | wake => exact step_opens
  | close => exact cancel_keeps.toOpens
  | updateRemoteCandidates remoteCandidates =>
    have hupdated : Keeps s { s with mUpdatedRemoteCandidates := remoteCandidates } :=
      .of_pairs rfl rfl rfl rfl rfl (.inr rfl) rfl
    exact hupdated.opens step_opens
  | endOfRemoteCandidates =>
    have hended : Keeps s { s with mEndOfRemoteCandidatesFlag := true } := .of_pairs rfl rfl rfl rfl rfl (.inr rfl) rfl
    exact hended.opens step_opens
  | candidatesChanged =>
    have hupdated : Keeps s { s with mUpdatedLocalCandidates := env.socket.elim [] (·.localCandidates) } :=
      .of_pairs rfl rfl rfl rfl rfl (.inr rfl) rfl
    unfold act onICESocketCandidatesChanged
    dsimp only
    split
    · exact (Keeps.refl s).toOpens
    · exact hupdated.opens step_opens
  | setKeepAliveProperties a b c d =>
    have hset : Keeps s (s.setKeepAliveProperties a b c d) := .of_pairs rfl rfl rfl rfl rfl (.inl rfl) rfl
    exact hset.toOpens
  | data viaLocalIP relayed source =>
    unfold act handlePacket
    dsimp only
    split
    · exact (Keeps.refl s).toOpens
    split
    · exact (Keeps.refl s).toOpens
    split
    · exact noteActivity_keeps.toOpens
    · exact (Keeps.refl s).toOpens

theorem handle_opens (e : Env × SessionInput) : Opens s (s.handle ext valid e) := by
  obtain ⟨env, input⟩ := e
  cases input with
  | packet viaLocalIP viaTransport source stun =>
    unfold handle receivePacket
    dsimp only
    split
    · split
      · exact (Keeps.refl s).toOpens
      · exact handleSTUNPacket_opens _ _ _ _ _ _
    · exact receiveResponse_opens _
  | action action => exact act_opens [] action

theorem constructed_sound (a b : AgentStart) (foundation : Bool) : Sound (constructed a b foundation) := by
  constructor <;> simp [constructed, SessionPair.create]

theorem run_sound (a b : AgentStart) (foundation : Bool) (events : List (Env × SessionInput)) :
    Sound (run (handle ext valid) (constructed a b foundation) events) :=
  run_invariant_always Sound (fun _ e h => (handle_opens e).sound h) _ events (constructed_sound a b foundation)

/-- Whatever happens to a session, a request to nominate has its pair and an alive check has the
nominated one, and no assertion fails. A request to nominate is made, and a pair nominated
without one by a side that controls, for a pair that was checked both ways and has not failed. -/
theorem books_kept (ext : ICEExternals) (valid : STUNPacket → List UInt8 → Bool) (a b : AgentStart) (foundation : Bool)
    (events : List (Env × SessionInput)) :
    let s := run (handle ext valid) (constructed a b foundation) events
    (s.mNominateRequester.isSome → s.mPendingNominatation.isSome) ∧
    (s.mAliveCheckRequester.isSome → s.mNominated.isSome) ∧ s.badState = false ∧
    ∀ e, let s' := s.handle ext valid e
      (s'.mNominateRequester ≠ s.mNominateRequester → s'.mNominateRequester.isSome →
        ∃ id, s'.mPendingNominatation = some id ∧ s'.Ready id) ∧
      (s.mControl = .controlling → ∀ id, s'.mNominated = some id →
        s.mNominated = some id ∨ s.mPendingNominatation = some id ∨ s'.Ready id) := by
  intro s
  have hsound : Sound s := run_sound a b foundation events
  refine ⟨hsound.nominating, hsound.alive, hsound.badState, fun e => ?_⟩
  have hopens := @handle_opens ext valid s e
  constructor
  · intro hchanged hsome
    rcases hopens.requester with hnone | hsame | hready
    · rw [hnone] at hsome
      cases hsome
    · exact absurd hsame hchanged
    · exact hready
  · intro hcontrol id hid
    rcases hopens.nominated id hid with hold | hold | hcontrolled | hready
    · exact .inl hold
    · exact .inr (.inl hold)
    · rw [hcontrol] at hcontrolled
      cases hcontrolled
    · exact .inr (.inr hready)

end Runs

end ICESocketSession

end OpenPeer
