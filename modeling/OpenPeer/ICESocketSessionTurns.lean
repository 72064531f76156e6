import OpenPeer.ICESocketSessionBooks

/-!
# What a handler does to the pairs

In one turn a handler of a session computes the pairs anew, or adds a pair that it
discovers, or drops them all at the end; whatever else it does leaves the numbers and the
sides of the pairs and the candidates alone.
-/
namespace OpenPeer

namespace ICESocketSession

/-- The number of a pair and its two sides, which never change. -/
def side (pair : CandidatePair) : Nat × Candidate × Candidate := (pair.mID, pair.mLocal, pair.mRemote)

def sides (s : ICESocketSession) : List (Nat × Candidate × Candidate) := s.mCandidatePairs.map side

/-- The pairs keep their sides, and the candidates stay. -/
structure Still (s s' : ICESocketSession) : Prop where
  sides : s'.sides = s.sides
  next : s'.nextPairID = s.nextPairID
  locals : s'.mLocalCandidates = s.mLocalCandidates
  remotes : s'.mRemoteCandidates = s.mRemoteCandidates
  shutdown : s'.isShutdown = s.isShutdown

/-- The nomination stays as well. -/
structure Before (s s' : ICESocketSession) : Prop extends Still s s' where
  nominated : s'.mNominated = s.mNominated
  pending : s'.mPendingNominatation = s.mPendingNominatation

structure Ended (s : ICESocketSession) : Prop where
  shutdown : s.isShutdown = true
  none : s.mCandidatePairs = []

def Calm (s s' : ICESocketSession) : Prop := Still s s' ∨ Ended s'

/-- What a handler may do to the pairs when it discovers none. -/
inductive Stepped (ext : ICEExternals) (s s' : ICESocketSession) : Prop
  | calm (h : Calm s s')
  | recomputed (t : ICESocketSession) (hbefore : Before s t) (hafter : Still (t.stepCandidates ext) s')

/-- All that a handler may do to the pairs. -/
inductive Turn (ext : ICEExternals) (s s' : ICESocketSession) : Prop
  | stepped (h : Stepped ext s s')
  | discovered (viaLocalIP : IPAddress) (viaTransport : Types) (source : IPAddress)
    (hvia : viaTransport = .typeLocal ∨ viaTransport = .typeRelayed)
    (hmatch : s.matchPair ext viaLocalIP viaTransport source = none)
    (hafter : Still (s.discover ext viaLocalIP viaTransport source).1 s')
    (hupdated : discoveredCandidate source ∈ s'.mUpdatedRemoteCandidates)

variable {ext : ICEExternals} {valid : STUNPacket → List UInt8 → Bool} {s t s' : ICESocketSession} {env : Env}

section Turns

theorem Still.refl : Still s s := ⟨rfl, rfl, rfl, rfl, rfl⟩

theorem Still.trans (h : Still s t) (h' : Still t s') : Still s s' :=
  ⟨h'.sides.trans h.sides, h'.next.trans h.next, h'.locals.trans h.locals, h'.remotes.trans h.remotes, h'.shutdown.trans h.shutdown⟩

theorem Still.calm (h : Still s s') : Calm s s' := .inl h

theorem Still.stepped (h : Still s s') : Stepped ext s s' := .calm h.calm

theorem Calm.stepped (h : Calm s s') : Stepped ext s s' := .calm h

theorem Still.turn (h : Still s s') : Turn ext s s' := .stepped h.stepped

theorem Before.trans {t' : ICESocketSession} (h : Before s t) (h' : Before t t') : Before s t' :=
  ⟨h.toStill.trans h'.toStill, h'.nominated.trans h.nominated, h'.pending.trans h.pending⟩

theorem Ended.still (h : Ended s) (h' : Still s s') : Ended s' where
  shutdown := h'.shutdown.trans h.shutdown
  none := by
    have hsides : s'.sides = s.sides := h'.sides
    simpa [sides, h.none] using hsides

theorem Still.then_calm (h : Still s t) (h' : Calm t s') : Calm s s' := h'.imp_left h.trans

theorem Calm.then_still (h : Calm s t) (h' : Still t s') : Calm s s' := by
  cases h with
  | inl hstill => exact .inl (hstill.trans h')
  | inr hended => exact .inr (hended.still h')

theorem Stepped.then_still (h : Stepped ext s t) (h' : Still t s') : Stepped ext s s' := by
  cases h with
  | calm h => exact .calm (h.then_still h')
  | recomputed t hbefore hafter => exact .recomputed t hbefore (hafter.trans h')

theorem Before.stepped (h : Before s t) (h' : Stepped ext t s') : Stepped ext s s' := by
  cases h' with
  | calm hcalm => exact .calm (h.toStill.then_calm hcalm)
  | recomputed u hbefore hafter => exact .recomputed u (h.trans hbefore) hafter

end Turns

section Parts

theorem map_sides (f : CandidatePair → CandidatePair) (hf : ∀ pair, side (f pair) = side pair)
    (pairs : List CandidatePair) : (pairs.map f).map side = pairs.map side := by
  rw [List.map_map]
  exact List.map_congr_left fun pair _ => hf pair

variable (id : Nat) {f : CandidatePair → CandidatePair}

theorem updatePair_before (hf : ∀ pair, side (f pair) = side pair) : Before s (s.updatePair id f) :=
  ⟨⟨map_sides _ (fun pair => by split <;> simp [hf]) _, rfl, rfl, rfl, rfl⟩, rfl, rfl⟩

theorem updatePair_still (id : Nat) {f : CandidatePair → CandidatePair} (hf : ∀ pair, side (f pair) = side pair) :
    Still s (s.updatePair id f) := (updatePair_before id hf).toStill

variable (errorCode : UInt16)

theorem setError_still : Still s (s.setError errorCode) := by
  unfold setError
  split
  · exact .refl
  · exact ⟨rfl, rfl, rfl, rfl, rfl⟩

theorem cancel_calm : Calm s s.cancel := by
  unfold cancel
  split
  · exact Still.refl.calm
  · exact .inr ⟨rfl, rfl⟩

theorem setError_cancel_calm : Calm s (s.setError errorCode).cancel :=
  (setError_still errorCode).then_calm cancel_calm

theorem sendTo_still (viaLocalIP : IPAddress) (viaTransport : Types) (destination : IPAddress) (packet : STUNPacket) :
    Still s (s.sendTo viaLocalIP viaTransport destination packet) := by
  unfold sendTo
  split
  · exact .refl
  · exact ⟨rfl, rfl, rfl, rfl, rfl⟩

theorem switchRole_still (newRole : ICEControls) : Still s (s.switchRole newRole) := by
  unfold switchRole
  split
  · exact .refl
  split
  · exact .refl
  · exact ⟨map_sides resetPair (fun _ => rfl) _, rfl, rfl, rfl, rfl⟩

theorem stepSocket_cases : (s.stepSocket env).2 = true ∧ Before s (s.stepSocket env).1 ∨
    (s.stepSocket env).2 = false ∧ Calm s (s.stepSocket env).1 := by
  unfold stepSocket
  split
  · exact .inr ⟨rfl, setError_cancel_calm 412⟩
  next socket _ =>
    split
    · right
      split
      · exact ⟨rfl, setError_cancel_calm socket.error⟩
      · exact ⟨rfl, cancel_calm⟩
    · left
      split
      · exact ⟨rfl, ⟨rfl, rfl, rfl, rfl, rfl⟩, rfl, rfl⟩
      · exact ⟨rfl, .refl, rfl, rfl⟩

theorem stepActivateTimer_still : Still s (s.stepActivateTimer env) := by
  unfold stepActivateTimer
  split
  · split
    · exact .refl
    · exact ⟨rfl, rfl, rfl, rfl, rfl⟩
  · exact ⟨rfl, rfl, rfl, rfl, rfl⟩

theorem stepEndSearch_cases : s.stepEndSearch.2 = true ∧ s.stepEndSearch.1 = s ∨
    s.stepEndSearch.2 = false ∧ Calm s s.stepEndSearch.1 := by
  unfold stepEndSearch
  split
  · exact .inl ⟨rfl, rfl⟩
  split
  · exact .inl ⟨rfl, rfl⟩
  split
  · exact .inl ⟨rfl, rfl⟩
  · exact .inr ⟨rfl, setError_cancel_calm 404⟩

theorem stepTimer_still : Still s (s.stepTimer env) := by
  unfold stepTimer
  split
  · split
    · exact .refl
    · exact ⟨rfl, rfl, rfl, rfl, rfl⟩
  · exact ⟨rfl, rfl, rfl, rfl, rfl⟩

theorem stepExpectingDataTimer_still : Still s (s.stepExpectingDataTimer env) := by
  unfold stepExpectingDataTimer
  split
  · split
    · exact .refl
    · exact ⟨rfl, rfl, rfl, rfl, rfl⟩
  · exact ⟨rfl, rfl, rfl, rfl, rfl⟩

theorem stepKeepAliveTimer_still : Still s (s.stepKeepAliveTimer env) := by
  unfold stepKeepAliveTimer
  split
  · split
    · exact .refl
    · exact ⟨rfl, rfl, rfl, rfl, rfl⟩
  · exact ⟨rfl, rfl, rfl, rfl, rfl⟩

theorem stepCancelLowerPriority_still : Still s s.stepCancelLowerPriority := by
  unfold stepCancelLowerPriority
  split
  · exact .refl
  · exact ⟨map_sides _ (fun pair => by split <;> rfl) _, rfl, rfl, rfl, rfl⟩

theorem nominate_still (pairing : CandidatePair) : Still s (s.nominate env pairing) := by
  unfold nominate
  split
  · exact ⟨rfl, rfl, rfl, rfl, rfl⟩
  · exact ⟨rfl, rfl, rfl, rfl, rfl⟩

theorem setState_still (hopen : s.isShutdown = false) {state : ICESocketSessionStates} (hstate : state ≠ .shutdown) :
    Still s (s.setState state) :=
  ⟨rfl, rfl, rfl, rfl, by rw [hopen]; simp [setState, isShutdown, hstate]⟩

theorem setFinalState_still (hopen : s.isShutdown = false) : Still s s.setFinalState.1 := by
  unfold setFinalState
  split
  · exact .refl
  split
  · exact setState_still hopen (by decide)
  split
  · exact setState_still hopen (by decide)
  · exact setState_still hopen (by decide)

theorem stepNominate_still (hopen : s.isShutdown = false) : Still s (s.stepNominate env).1 := by
  unfold stepNominate
  split
  · exact setFinalState_still hopen
  split
  · exact setFinalState_still hopen
  split
  · exact setFinalState_still hopen
  next pairing _ =>
    have hnominate : Still s (s.nominate env pairing) := nominate_still pairing
    exact hnominate.trans (setFinalState_still (hnominate.shutdown.trans hopen))

theorem stepNominated_still (hopen : s.isShutdown = false) : Still s (s.stepNominated env) := by
  have htimers : Still s (((s.stepTimer env).stepExpectingDataTimer env).stepKeepAliveTimer env).stepCancelLowerPriority :=
    ((stepTimer_still.trans stepExpectingDataTimer_still).trans stepKeepAliveTimer_still).trans
      stepCancelLowerPriority_still
  have hnominate := htimers.trans (@stepNominate_still _ env (htimers.shutdown.trans hopen))
  unfold stepNominated
  dsimp only
  split
  · exact hnominate.trans (setState_still (hnominate.shutdown.trans hopen) (by decide))
  · exact hnominate

theorem stepCandidates_shutdown : (s.stepCandidates ext).isShutdown = s.isShutdown := by
  unfold stepCandidates
  dsimp only
  split
  · rfl
  · rfl

/-- A step computes the pairs anew, once, unless it ends the session. -/
theorem step_stepped : Stepped ext s (s.step ext env) := by
  unfold step
  split
  · exact cancel_calm.stepped
  next hopen =>
    have hopen := Bool.eq_false_iff.mpr hopen
    dsimp only
    obtain ⟨hgoes, hbefore⟩ | ⟨hgoes, hcalm⟩ := @stepSocket_cases s env
    case inr => simpa [hgoes] using hcalm.stepped
    rw [hgoes]
    have htimer := @stepActivateTimer_still (((s.stepSocket env).1).stepCandidates ext) env
    obtain ⟨hgoes, hsame⟩ | ⟨hgoes, hcalm⟩ := @stepEndSearch_cases
      (((s.stepSocket env).1.stepCandidates ext).stepActivateTimer env)
    · rw [hgoes, hsame]
      have hshutdown := (htimer.shutdown.trans stepCandidates_shutdown).trans (hbefore.shutdown.trans hopen)
      exact .recomputed _ hbefore (htimer.trans (stepNominated_still hshutdown))
    · rw [hgoes]
      cases hcalm with
      | inl hstill => exact .recomputed _ hbefore (htimer.trans hstill)
      | inr hended => exact .calm (.inr hended)

theorem updatePair_step_stepped (hf : ∀ pair, side (f pair) = side pair) :
    Stepped ext s ((s.updatePair id f).step ext env) := (updatePair_before id hf).stepped step_stepped

end Parts

section Handlers

variable (stun : STUNPacket)

variable (found : Option CandidatePair)

theorem acceptNomination_still : Still s (s.acceptNomination stun found) := by
  unfold acceptNomination
  split
  · exact .refl
  · split
    · exact ⟨rfl, rfl, rfl, rfl, rfl⟩
    · exact .refl

theorem triggerCheck_still : Still s (s.triggerCheck env found) := by
  unfold triggerCheck
  split
  · exact .refl
  next found =>
    split
    · exact .refl
    · have hwatch (requester : STUNRequester) : Still s (s.watch requester) := ⟨rfl, rfl, rfl, rfl, rfl⟩
      exact (hwatch _).trans (updatePair_still found.mID fun _ => rfl)

theorem noteSTUN_still : Still s (s.noteSTUN env found) := by
  unfold noteSTUN
  split
  · exact .refl
  · split
    · exact ⟨rfl, rfl, rfl, rfl, rfl⟩
    · exact .refl

theorem handleAccepted_still : Still s (s.handleAccepted env stun found) :=
  ((acceptNomination_still stun found).trans (triggerCheck_still found)).trans (noteSTUN_still found)

variable (viaLocalIP : IPAddress)

variable (viaTransport : Types)

theorem answer_still (source : IPAddress) (stun : STUNPacket) (found : Option CandidatePair) :
    Still s (s.answer env viaLocalIP viaTransport source stun found) := by
  unfold answer
  split
  · exact handleAccepted_still stun found
  split
  · exact (sendTo_still _ _ _ _).trans (handleAccepted_still stun found)
  · exact sendTo_still _ _ _ _
  · exact switchRole_still _

theorem handleAccepted_updated :
    (s.handleAccepted env stun found).mUpdatedRemoteCandidates = s.mUpdatedRemoteCandidates := by
  have haccept (s : ICESocketSession) :
      (s.acceptNomination stun found).mUpdatedRemoteCandidates = s.mUpdatedRemoteCandidates := by
    unfold acceptNomination
    split
    · rfl
    · split
      · rfl
      · rfl
  have hcheck (s : ICESocketSession) :
      (s.triggerCheck env found).mUpdatedRemoteCandidates = s.mUpdatedRemoteCandidates := by
    unfold triggerCheck
    split
    · rfl
    · split
      · rfl
      · rfl
  have hnote (s : ICESocketSession) :
      (s.noteSTUN env found).mUpdatedRemoteCandidates = s.mUpdatedRemoteCandidates := by
    unfold noteSTUN
    split
    · rfl
    · split
      · rfl
      · rfl
  exact (hnote _).trans ((hcheck _).trans (haccept s))

theorem answer_updated (source : IPAddress) (stun : STUNPacket) (found : Option CandidatePair) :
    (s.answer env viaLocalIP viaTransport source stun found).mUpdatedRemoteCandidates = s.mUpdatedRemoteCandidates := by
  have hsendTo (packet : STUNPacket) :
      (s.sendTo viaLocalIP viaTransport source packet).mUpdatedRemoteCandidates = s.mUpdatedRemoteCandidates := by
    unfold sendTo
    split <;> rfl
  unfold answer
  split
  · exact handleAccepted_updated stun found
  split
  · exact (handleAccepted_updated stun found).trans (hsendTo _)
  · exact hsendTo _
  · unfold switchRole
    split
    · rfl
    split <;> rfl

theorem discover_updated (viaLocalIP : IPAddress) (viaTransport : Types) (source : IPAddress) :
    discoveredCandidate source ∈ (s.discover ext viaLocalIP viaTransport source).1.mUpdatedRemoteCandidates := by
  unfold discover
  dsimp only
  split <;> simp

theorem handleSTUNPacket_turn {viaTransport : Types} (source : IPAddress) (stun : STUNPacket)
    (localUsernameFrag remoteUsernameFrag : List UInt8)
    (hvia : viaTransport = .typeLocal ∨ viaTransport = .typeRelayed) :
    Turn ext s (s.handleSTUNPacket ext valid env viaLocalIP viaTransport source stun localUsernameFrag
      remoteUsernameFrag).1 := by
  unfold handleSTUNPacket
  split
  · exact Still.refl.turn
  split
  · exact Still.refl.turn
  split
  · exact Still.refl.turn
  split
  · exact Still.refl.turn
  split
  · split
    · exact Still.refl.turn
    · exact (sendTo_still _ _ _ _).turn
  · dsimp only [findPair]
    cases hmatch : s.matchPair ext viaLocalIP viaTransport source with
    | none =>
      have hupdated := @discover_updated ext s viaLocalIP viaTransport source
      exact .discovered viaLocalIP viaTransport source hvia hmatch (answer_still _ _ _ _ _)
        ((answer_updated _ _ _ _ _).symm ▸ hupdated)
    | some found =>
      have hmark := @updatePair_still s found.mID
        (fun pair => { pair with mReceivedRequest := true, mFailed := false }) fun _ => rfl
      exact (hmark.trans (answer_still _ _ _ _ _)).turn

variable (requester : STUNRequester)

theorem onSTUNRequesterTimedOut_stepped : Stepped ext s (s.onSTUNRequesterTimedOut ext env requester) := by
  unfold onSTUNRequesterTimedOut
  split
  · dsimp only
    have hdropped (s : ICESocketSession) : Still s { s with mAliveCheckRequester := none } := ⟨rfl, rfl, rfl, rfl, rfl⟩
    have hbad (s : ICESocketSession) : Still s { s with badState := true } := ⟨rfl, rfl, rfl, rfl, rfl⟩
    split
    · exact (((hbad s).trans (hdropped _)).then_calm (setError_cancel_calm 408)).stepped
    · exact ((hdropped s).then_calm (setError_cancel_calm 408)).stepped
  split
  · dsimp only
    split
    · exact Still.stepped ⟨rfl, rfl, rfl, rfl, rfl⟩
    next pairing _ =>
      have hsides (requesters : List STUNRequester) :=
        @updatePair_still (cancelRequesters { s with mNominateRequester := none } requesters) pairing.mID
          failedNomination fun _ => rfl
      exact Still.stepped ⟨(hsides _).sides, rfl, rfl, rfl, rfl⟩
  · split
    · exact Still.refl.stepped
    next pairing _ => exact updatePair_step_stepped pairing.mID fun _ => rfl

variable (response : STUNPacket)

theorem handleNominatedResponse_stepped :
    Stepped ext s (s.handleNominatedResponse ext valid env requester response).1 := by
  unfold handleNominatedResponse
  extract_lets nominating usePair
  split
  · exact Still.stepped ⟨rfl, rfl, rfl, rfl, rfl⟩
  split
  · split
    · split
      · exact Still.refl.stepped
      split
      · exact Still.refl.stepped
      · exact (switchRole_still _).stepped
    · exact onSTUNRequesterTimedOut_stepped requester
  split
  · exact Still.refl.stepped
  split
  · exact Still.stepped ⟨rfl, rfl, rfl, rfl, rfl⟩
  · exact Still.stepped ⟨rfl, rfl, rfl, rfl, rfl⟩

theorem handleSTUNRequesterResponse_stepped (requester : STUNRequester) (response : STUNPacket) :
    Stepped ext s (s.handleSTUNRequesterResponse ext valid env requester response).1 := by
  unfold handleSTUNRequesterResponse
  split
  · exact Still.refl.stepped
  split
  · exact handleNominatedResponse_stepped requester response
  split
  · exact Still.refl.stepped
  next pairing _ =>
    unfold handlePairResponse
    split
    · split
      · split
        · exact Still.refl.stepped
        · exact (switchRole_still _).stepped
      · exact Still.refl.stepped
    · exact updatePair_step_stepped pairing.mID fun _ => rfl

theorem receiveResponse_stepped : Stepped ext s (s.receiveResponse ext valid env response) := by
  unfold receiveResponse
  split
  · exact Still.refl.stepped
  next requester _ =>
    split
    · have hresponse := @handleSTUNRequesterResponse_stepped ext valid s env requester response
      dsimp only
      split
      · exact hresponse.then_still ⟨rfl, rfl, rfl, rfl, rfl⟩
      · exact hresponse
    · exact Still.refl.stepped

theorem onSTUNRequesterSendPacket_still : Still s (s.onSTUNRequesterSendPacket ext requester) := by
  unfold onSTUNRequesterSendPacket
  dsimp only
  split
  · exact .refl
  split
  · split
    · exact ⟨rfl, rfl, rfl, rfl, rfl⟩
    · exact sendTo_still _ _ _ _
  split
  · split
    · exact ⟨rfl, rfl, rfl, rfl, rfl⟩
    · exact sendTo_still _ _ _ _
  split
  · exact .refl
  · exact sendTo_still _ _ _ _

theorem activate_still : Still s (s.activate ext env) := by
  unfold activate
  split
  · exact .refl
  · exact updatePair_still _ fun _ => rfl
  next pairing _ =>
    have hwatch (requester : STUNRequester) : Still s (s.watch requester) := ⟨rfl, rfl, rfl, rfl, rfl⟩
    exact (hwatch _).trans (updatePair_still pairing.mID fun _ => rfl)

theorem keepAlive_still : Still s (s.keepAlive ext env) := by
  unfold keepAlive
  split
  · exact .refl
  split
  · exact .refl
  split
  · exact .refl
  · exact sendTo_still _ _ _ _

theorem expectData_still : Still s (s.expectData env) := by
  unfold expectData
  split
  · split
    · exact .refl
    · exact ⟨rfl, rfl, rfl, rfl, rfl⟩
  · exact .refl

theorem touch_before : Before s (s.touch env) := by
  unfold touch
  split
  · exact ⟨⟨rfl, rfl, rfl, rfl, rfl⟩, rfl, rfl⟩
  · exact ⟨.refl, rfl, rfl⟩

theorem onTimer_stepped (timer : SessionTimer) : Stepped ext s (s.onTimer ext env timer) := by
  have htouch := @touch_before s env
  unfold onTimer
  split
  · exact Still.refl.stepped
  split
  · exact (setError_cancel_calm 599).stepped
  unfold onSessionTimer
  cases timer with
  | step =>
    dsimp only
    split
    · exact htouch.stepped step_stepped
    · exact htouch.toStill.stepped
  | activate =>
    dsimp only
    split
    · exact (htouch.toStill.trans activate_still).stepped
    · exact htouch.toStill.stepped
  | keepAlive =>
    dsimp only
    split
    · exact (htouch.toStill.trans keepAlive_still).stepped
    · exact htouch.toStill.stepped
  | expectingData =>
    dsimp only
    split
    · exact (htouch.toStill.trans expectData_still).stepped
    · exact htouch.toStill.stepped

end Handlers

section Inputs

/-- The ICE socket tells whether a packet came on its own socket or on the relay. -/
def FromSocket : SessionInput → Prop
  | .packet _ viaTransport _ _ => viaTransport = .typeLocal ∨ viaTransport = .typeRelayed
  | .action _ => True

theorem transport_cases (relayed : Bool) : transport relayed = .typeLocal ∨ transport relayed = .typeRelayed := by
  cases relayed with
  | false => exact .inl rfl
  | true => exact .inr rfl

theorem act_turn (inbox : List SentPacket) (action : SessionAction) : Turn ext s (s.act ext env inbox action) := by
  cases action with
  | receive n viaLocalIP relayed source =>
    unfold act receiveSTUN
    dsimp only
    split
    · exact Still.refl.turn
    split
    · split
      · exact Still.refl.turn
      · exact handleSTUNPacket_turn _ _ _ _ _ (transport_cases relayed)
    · exact .stepped (receiveResponse_stepped _)
  | sendPacket n =>
    unfold act
    dsimp only
    split
    · exact Still.refl.turn
    · exact (onSTUNRequesterSendPacket_still _).turn
  | timedOut n =>
    unfold act
    dsimp only
    split
    · exact Still.refl.turn
    · exact .stepped (onSTUNRequesterTimedOut_stepped _)
  | timer timer => exact .stepped (onTimer_stepped timer)
  | wake => exact .stepped step_stepped
  | close => exact .stepped cancel_calm.stepped
  | updateRemoteCandidates remoteCandidates =>
    have hupdated : Before s { s with mUpdatedRemoteCandidates := remoteCandidates } :=
      ⟨⟨rfl, rfl, rfl, rfl, rfl⟩, rfl, rfl⟩
    exact .stepped (hupdated.stepped step_stepped)
  | endOfRemoteCandidates =>
    have hended : Before s { s with mEndOfRemoteCandidatesFlag := true } := ⟨⟨rfl, rfl, rfl, rfl, rfl⟩, rfl, rfl⟩
    exact .stepped (hended.stepped step_stepped)
  | candidatesChanged =>
    have hupdated : Before s { s with mUpdatedLocalCandidates := env.socket.elim [] (·.localCandidates) } :=
      ⟨⟨rfl, rfl, rfl, rfl, rfl⟩, rfl, rfl⟩
    unfold act onICESocketCandidatesChanged
    dsimp only
    split
    · exact Still.refl.turn
    · exact .stepped (hupdated.stepped step_stepped)
  | setKeepAliveProperties a b c d => exact Still.turn ⟨rfl, rfl, rfl, rfl, rfl⟩
  | data viaLocalIP relayed source =>
    unfold act handlePacket
    dsimp only
    split
    · exact Still.refl.turn
    split
    · exact Still.refl.turn
    split
    · exact Still.turn ⟨rfl, rfl, rfl, rfl, rfl⟩
    · exact Still.refl.turn

theorem handle_turn {e : Env × SessionInput} (hfrom : FromSocket e.2) : Turn ext s (s.handle ext valid e) := by
  obtain ⟨env, input⟩ := e
  cases input with
  | packet viaLocalIP viaTransport source stun =>
    unfold handle receivePacket
    dsimp only
    split
    · split
      · exact Still.refl.turn
      · exact handleSTUNPacket_turn _ _ _ _ _ hfrom
    · exact .stepped (receiveResponse_stepped _)
  | action action => exact act_turn [] action

end Inputs

section Numbers

theorem Numbered.still (h : Numbered s) (hstill : Still s s') : Numbered s' := by
  have hids : s'.mCandidatePairs.map (·.mID) = s.mCandidatePairs.map (·.mID) := by
    simpa [sides, Function.comp_def, side] using congrArg (List.map Prod.fst) hstill.sides
  refine ⟨hids ▸ h.1, fun pair hpair => ?_⟩
  have hmem : pair.mID ∈ s'.mCandidatePairs.map (·.mID) := List.mem_map_of_mem hpair
  rw [hids] at hmem
  obtain ⟨pair', hpair', hsame⟩ := List.mem_map.mp hmem
  rw [← hsame, hstill.next]
  exact h.2 pair' hpair'

theorem Numbered.turn (h : Numbered s) (hturn : Turn ext s s') : Numbered s' := by
  cases hturn with
  | stepped hstepped =>
    cases hstepped with
    | calm hcalm =>
      cases hcalm with
      | inl hstill => exact h.still hstill
      | inr hended => simp [Numbered, hended.none]
    | recomputed t hbefore hafter => exact (h.still hbefore.toStill).stepCandidates.still hafter
  | discovered viaLocalIP viaTransport source _ _ hafter _ => exact (h.discover viaLocalIP viaTransport source).still hafter

theorem Numbered.findPair (h : Numbered s) (viaLocalIP : IPAddress) (viaTransport : Types) (source : IPAddress) :
    Numbered (s.findPair ext viaLocalIP viaTransport source).1 := by
  unfold ICESocketSession.findPair
  split
  · exact h.discover viaLocalIP viaTransport source
  · exact h.still (updatePair_still _ fun _ => rfl)

end Numbers

end ICESocketSession

end OpenPeer
