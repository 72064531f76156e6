import OpenPeer.ICESessionPair

/-!
# The books of a nomination

A session that asks for a nomination has the pair it asks for, and one that checks whether
the other side is alive has the pair that is nominated; both are among its candidate
pairs, whatever arrives from whomever and in whatever order the handlers run. So no
assertion of the handlers fails. A controlling session asks only for a pair that was
checked both ways.
-/
namespace OpenPeer

/-- What happens to a session when nothing is known of who sends: any packet, or an action of its own side. -/
inductive SessionInput where
  | packet (viaLocalIP : IPAddress) (viaTransport : Types) (source : IPAddress) (stun : STUNPacket)
  | action (action : SessionAction)

namespace ICESocketSession

section Inputs

variable (ext : ICEExternals) (valid : STUNPacket → List UInt8 → Bool)

/-- As `receiveSTUN`, with any check of the integrity. -/
def receivePacket (s : ICESocketSession) (env : Env) (viaLocalIP : IPAddress) (viaTransport : Types)
    (source : IPAddress) (stun : STUNPacket) : ICESocketSession :=
  if stun.mClass = .request ∨ stun.mClass = .indication then
    match splitUsername stun.mUsername with
    | none => s
    | some (localUsernameFrag, remoteUsernameFrag) =>
      (s.handleSTUNPacket ext valid env viaLocalIP viaTransport source stun localUsernameFrag
        remoteUsernameFrag).1
  else s.receiveResponse ext valid env stun

def handle (s : ICESocketSession) (e : Env × SessionInput) : ICESocketSession :=
  match e.2 with
  | .packet viaLocalIP viaTransport source stun => s.receivePacket ext valid e.1 viaLocalIP viaTransport source stun
  | .action action => s.act ext e.1 [] action

/-- A session as it is constructed, with a founding session or without. -/
def constructed (a b : AgentStart) (foundation : Bool) : ICESocketSession :=
  { SessionPair.create a b with mFoundation := foundation }

end Inputs

/-- The pair of this number was checked both ways, and the session controls. -/
def Ready (s : ICESocketSession) (id : Nat) : Prop :=
  s.mControl = .controlling ∧ ∃ pair ∈ s.mCandidatePairs, pair.mID = id ∧ pair.mReceivedRequest = true ∧
    pair.mReceivedResponse = true ∧ pair.mFailed = false

/-- What the books must be. -/
structure Sound (s : ICESocketSession) : Prop where
  nominating : s.mNominateRequester.isSome → s.mPendingNominatation.isSome
  alive : s.mAliveCheckRequester.isSome → s.mNominated.isSome
  pending : ∀ id, s.mPendingNominatation = some id → id ∈ s.mCandidatePairs.map (·.mID)
  nominated : ∀ id, s.mNominated = some id → id ∈ s.mCandidatePairs.map (·.mID)
  badState : s.badState = false

/-- What handlers may do that start no nomination. -/
structure Keeps (s s' : ICESocketSession) : Prop where
  control : s'.mControl = s.mControl
  sound : Sound s → Sound s'
  requester : s'.mNominateRequester = none ∨ s'.mNominateRequester = s.mNominateRequester
  pending : s'.mPendingNominatation = none ∨ s'.mPendingNominatation = s.mPendingNominatation
  nominated : ∀ id, s'.mNominated = some id →
    s.mNominated = some id ∨ s.mPendingNominatation = some id ∨ s.mControl = .controlled

/-- What any handler may do. -/
structure Opens (s s' : ICESocketSession) : Prop where
  sound : Sound s → Sound s'
  requester : s'.mNominateRequester = none ∨ s'.mNominateRequester = s.mNominateRequester ∨
    ∃ id, s'.mPendingNominatation = some id ∧ s'.Ready id
  nominated : ∀ id, s'.mNominated = some id →
    s.mNominated = some id ∨ s.mPendingNominatation = some id ∨ s.mControl = .controlled ∨ s'.Ready id

variable {ext : ICEExternals} {valid : STUNPacket → List UInt8 → Bool} {s s' s'' : ICESocketSession} {env : Env}

namespace Keeps

theorem refl (s : ICESocketSession) : Keeps s s := ⟨rfl, id, .inr rfl, .inr rfl, fun _ h => .inl h⟩

theorem trans (h : Keeps s s') (h' : Keeps s' s'') : Keeps s s'' where
  control := h'.control.trans h.control
  sound := h'.sound ∘ h.sound
  requester := by
    cases h'.requester with
    | inl hnone => exact .inl hnone
    | inr hsame => exact hsame ▸ h.requester
  pending := by
    cases h'.pending with
    | inl hnone => exact .inl hnone
    | inr hsame => exact hsame ▸ h.pending
  nominated id hid := by
    rcases h'.nominated id hid with hnominated | hpending | hcontrol
    · exact h.nominated id hnominated
    · cases h.pending with
      | inl hnone => rw [hnone] at hpending; cases hpending
      | inr hsame => exact .inr (.inl (hsame ▸ hpending))
    · exact .inr (.inr (h.control ▸ hcontrol))

theorem opens (h : Keeps s s') (h' : Opens s' s'') : Opens s s'' where
  sound := h'.sound ∘ h.sound
  requester := by
    rcases h'.requester with hnone | hsame | hready
    · exact .inl hnone
    · cases h.requester with
      | inl hnone => exact .inl (hsame.trans hnone)
      | inr hsame' => exact .inr (.inl (hsame.trans hsame'))
    · exact .inr (.inr hready)
  nominated id hid := by
    rcases h'.nominated id hid with hnominated | hpending | hcontrol | hready
    · rcases h.nominated id hnominated with hold | hold | hold
      · exact .inl hold
      · exact .inr (.inl hold)
      · exact .inr (.inr (.inl hold))
    · cases h.pending with
      | inl hnone => rw [hnone] at hpending; cases hpending
      | inr hsame => exact .inr (.inl (hsame ▸ hpending))
    · exact .inr (.inr (.inl (h.control ▸ hcontrol)))
    · exact .inr (.inr (.inr hready))

theorem toOpens (h : Keeps s s') : Opens s s' where
  sound := h.sound
  requester := by
    cases h.requester with
    | inl hnone => exact .inl hnone
    | inr hsame => exact .inr (.inl hsame)
  nominated id hid := by
    rcases h.nominated id hid with hold | hold | hold
    · exact .inl hold
    · exact .inr (.inl hold)
    · exact .inr (.inr (.inl hold))

/-- Nothing of the books changes but the pairs, which keep their numbers. -/
theorem of_pairs (hpairs : s'.mCandidatePairs.map (·.mID) = s.mCandidatePairs.map (·.mID))
    (hcontrol : s'.mControl = s.mControl) (hrequester : s'.mNominateRequester = s.mNominateRequester)
    (hpending : s'.mPendingNominatation = s.mPendingNominatation) (hnominated : s'.mNominated = s.mNominated)
    (halive : s'.mAliveCheckRequester = none ∨ s'.mAliveCheckRequester = s.mAliveCheckRequester)
    (hbad : s'.badState = s.badState) : Keeps s s' where
  control := hcontrol
  sound h := by
    constructor
    · rw [hrequester, hpending]
      exact h.nominating
    · rw [hnominated]
      cases halive with
      | inl hnone => simp [hnone]
      | inr hsame => exact hsame ▸ h.alive
    · rw [hpending, hpairs]
      exact h.pending
    · rw [hnominated, hpairs]
      exact h.nominated
    · rw [hbad]
      exact h.badState
  requester := .inr hrequester
  pending := .inr hpending
  nominated id hid := .inl (hnominated ▸ hid)

end Keeps

section Parts

theorem map_ids (f : CandidatePair → CandidatePair) (hf : ∀ pair, (f pair).mID = pair.mID)
    (pairs : List CandidatePair) : (pairs.map f).map (·.mID) = pairs.map (·.mID) := by
  rw [List.map_map]
  exact List.map_congr_left fun pair _ => hf pair

theorem updatePair_ids (id : Nat) {f : CandidatePair → CandidatePair} (hf : ∀ pair, (f pair).mID = pair.mID) :
    (s.updatePair id f).mCandidatePairs.map (·.mID) = s.mCandidatePairs.map (·.mID) :=
  map_ids _ (fun pair => by split <;> simp [hf]) _

theorem updatePair_keeps (id : Nat) {f : CandidatePair → CandidatePair} (hf : ∀ pair, (f pair).mID = pair.mID) :
    Keeps s (s.updatePair id f) := .of_pairs (updatePair_ids id hf) rfl rfl rfl rfl (.inr rfl) rfl

theorem setError_keeps (errorCode : UInt16) : Keeps s (s.setError errorCode) := by
  unfold setError
  split
  · exact .refl _
  · exact .of_pairs rfl rfl rfl rfl rfl (.inr rfl) rfl

theorem cancel_keeps : Keeps s s.cancel := by
  unfold cancel
  split
  · exact .refl _
  · constructor
    · rfl
    · intro h
      constructor <;> simp [cancelRequesters, h.badState]
    · exact .inl rfl
    · exact .inl rfl
    · intro id hid
      cases hid

theorem sendTo_keeps (viaLocalIP : IPAddress) (viaTransport : Types) (destination : IPAddress) (packet : STUNPacket) :
    Keeps s (s.sendTo viaLocalIP viaTransport destination packet) := by
  unfold sendTo
  split
  · exact .refl _
  · exact .of_pairs rfl rfl rfl rfl rfl (.inr rfl) rfl

theorem setError_cancel_keeps (errorCode : UInt16) : Keeps s (s.setError errorCode).cancel :=
  (setError_keeps errorCode).trans cancel_keeps

theorem switchRole_opens (newRole : ICEControls) : Opens s (s.switchRole newRole) := by
  unfold switchRole
  split
  · exact (Keeps.refl s).toOpens
  split
  · exact (Keeps.refl s).toOpens
  · have hids := map_ids resetPair (fun _ => rfl) s.mCandidatePairs
    constructor
    · intro h
      exact ⟨h.nominating, h.alive, fun id hid => hids ▸ h.pending id hid, fun id hid => hids ▸ h.nominated id hid,
        h.badState⟩
    · exact .inr (.inl rfl)
    · exact fun _ hid => .inl hid

theorem stepSocket_keeps : Keeps s (s.stepSocket env).1 := by
  unfold stepSocket
  split
  · exact setError_cancel_keeps 412
  next socket _ =>
    split
    · split
      · exact setError_cancel_keeps socket.error
      · exact cancel_keeps
    · split
      · exact .of_pairs rfl rfl rfl rfl rfl (.inr rfl) rfl
      · exact .refl _

theorem mem_stepPairs (newLocals newRemotes : List Candidate) {pair : CandidatePair} (hmem : pair ∈ s.mCandidatePairs)
    (hpair : s.isNominating pair = true) : pair ∈ (s.stepPairs ext newLocals newRemotes).mCandidatePairs := by
  refine mem_prunePairs ?_ hpair
  apply (List.perm_insertionSort _ _).mem_iff.mpr
  exact List.mem_append_left _ (List.mem_append_left _ hmem)

theorem stepPairs_keeps (newLocals newRemotes : List Candidate) : Keeps s (s.stepPairs ext newLocals newRemotes) := by
  have hheld {id : Nat} (hid : id ∈ s.mCandidatePairs.map (·.mID))
      (hheld : s.mNominated = some id ∨ s.mPendingNominatation = some id) :
      id ∈ (s.stepPairs ext newLocals newRemotes).mCandidatePairs.map (·.mID) := by
    obtain ⟨pair, hmem, rfl⟩ := List.mem_map.mp hid
    have hpair : s.isNominating pair = true := by simpa [isNominating] using hheld
    exact List.mem_map_of_mem (mem_stepPairs newLocals newRemotes hmem hpair)
  constructor
  · rfl
  · intro h
    exact ⟨h.nominating, h.alive, fun id hid => hheld (h.pending id hid) (.inr hid),
      fun id hid => hheld (h.nominated id hid) (.inl hid), h.badState⟩
  · exact .inr rfl
  · exact .inr rfl
  · exact fun _ hid => .inl hid

theorem stepCandidates_keeps : Keeps s (s.stepCandidates ext) := by
  unfold stepCandidates
  obtain ⟨locals, updatedLocals, newLocals⟩ := takeCandidates s.mLocalCandidates s.mUpdatedLocalCandidates
  obtain ⟨remotes, updatedRemotes, newRemotes⟩ := takeCandidates s.mRemoteCandidates s.mUpdatedRemoteCandidates
  have hwith : Keeps s (s.withCandidates locals updatedLocals remotes updatedRemotes) :=
    .of_pairs rfl rfl rfl rfl rfl (.inr rfl) rfl
  dsimp only
  split
  · exact hwith
  · exact hwith.trans (stepPairs_keeps newLocals newRemotes)

theorem stepActivateTimer_keeps : Keeps s (s.stepActivateTimer env) := by
  unfold stepActivateTimer
  split
  · split
    · exact .refl _
    · exact .of_pairs rfl rfl rfl rfl rfl (.inr rfl) rfl
  · exact .of_pairs rfl rfl rfl rfl rfl (.inr rfl) rfl

theorem stepEndSearch_keeps : Keeps s s.stepEndSearch.1 := by
  unfold stepEndSearch
  split
  · exact .refl _
  split
  · exact .refl _
  split
  · exact .refl _
  · exact setError_cancel_keeps 404

theorem stepTimer_keeps : Keeps s (s.stepTimer env) := by
  unfold stepTimer
  split
  · split
    · exact .refl _
    · exact .of_pairs rfl rfl rfl rfl rfl (.inr rfl) rfl
  · exact .of_pairs rfl rfl rfl rfl rfl (.inr rfl) rfl

theorem stepExpectingDataTimer_keeps : Keeps s (s.stepExpectingDataTimer env) := by
  unfold stepExpectingDataTimer
  split
  · split
    · exact .refl _
    · exact .of_pairs rfl rfl rfl rfl rfl (.inr rfl) rfl
  · exact .of_pairs rfl rfl rfl rfl rfl (.inr rfl) rfl

theorem stepKeepAliveTimer_keeps : Keeps s (s.stepKeepAliveTimer env) := by
  unfold stepKeepAliveTimer
  split
  · split
    · exact .refl _
    · exact .of_pairs rfl rfl rfl rfl rfl (.inr rfl) rfl
  · exact .of_pairs rfl rfl rfl rfl rfl (.inr rfl) rfl

theorem stepCancelLowerPriority_keeps : Keeps s s.stepCancelLowerPriority := by
  unfold stepCancelLowerPriority
  split
  · exact .refl _
  · exact .of_pairs (map_ids _ (fun pair => by split <;> rfl) _) rfl rfl rfl rfl (.inr rfl) rfl

end Parts

section Nominating

theorem nominee_ready {pairing : CandidatePair} (h : s.nominee = some pairing) (hcontrol : s.mControl = .controlling) :
    s.Ready pairing.mID ∧ pairing ∈ s.mCandidatePairs := by
  have hmem : pairing ∈ s.mCandidatePairs := (List.takeWhile_sublist _).subset (List.mem_of_find?_eq_some h)
  have hfound := List.find?_some h
  simp only [Bool.and_eq_true, Bool.not_eq_true'] at hfound
  exact ⟨⟨hcontrol, pairing, hmem, rfl, hfound.1.2, hfound.2, hfound.1.1⟩, hmem⟩

theorem nominate_opens {pairing : CandidatePair} (h : s.nominee = some pairing) (hcontrol : s.mControl = .controlling) :
    Opens s (s.nominate env pairing) := by
  obtain ⟨hready, hmem⟩ := nominee_ready h hcontrol
  have hid : pairing.mID ∈ s.mCandidatePairs.map (·.mID) := List.mem_map_of_mem hmem
  unfold nominate
  split
  · constructor
    · intro hsound
      exact ⟨hsound.nominating, fun _ => rfl, hsound.pending, fun id h => by cases h; exact hid, hsound.badState⟩
    · exact .inr (.inl rfl)
    · intro id h
      cases h
      exact .inr (.inr (.inr hready))
  · constructor
    · intro hsound
      exact ⟨fun _ => rfl, hsound.alive, fun id h => by cases h; exact hid, hsound.nominated, hsound.badState⟩
    · exact .inr (.inr ⟨pairing.mID, rfl, hready⟩)
    · exact fun _ h => .inl h

theorem setState_opens (h : Opens s s') (state : ICESocketSessionStates) : Opens s (s'.setState state) where
  __ := h
  sound hsound :=
    have hsound' := h.sound hsound
    { hsound' with }

theorem setFinalState_opens (h : Opens s s') : Opens s s'.setFinalState.1 := by
  unfold setFinalState
  split
  · exact h
  split
  · exact setState_opens h .nominating
  split
  · exact setState_opens h .searching
  · exact setState_opens h .prepared

theorem stepNominate_opens : Opens s (s.stepNominate env).1 := by
  unfold stepNominate
  split
  · exact setFinalState_opens (Keeps.refl s).toOpens
  split
  · exact setFinalState_opens (Keeps.refl s).toOpens
  next hcontrol =>
    split
    · exact setFinalState_opens (Keeps.refl s).toOpens
    next pairing hpairing =>
      have hcontrolling : s.mControl = .controlling := by
        cases h : s.mControl
        · rfl
        · exact absurd h hcontrol
      exact setFinalState_opens (nominate_opens hpairing hcontrolling)

theorem stepNominated_opens : Opens s (s.stepNominated env) := by
  have hkeeps : Keeps s (((s.stepTimer env).stepExpectingDataTimer env).stepKeepAliveTimer env).stepCancelLowerPriority :=
    ((stepTimer_keeps.trans stepExpectingDataTimer_keeps).trans stepKeepAliveTimer_keeps).trans
      stepCancelLowerPriority_keeps
  have hopens := hkeeps.opens (@stepNominate_opens _ env)
  unfold stepNominated
  dsimp only
  split
  · exact setState_opens hopens .nominated
  · exact hopens

theorem step_opens : Opens s (s.step ext env) := by
  unfold step
  split
  · exact cancel_keeps.toOpens
  have hsocket := @stepSocket_keeps s env
  dsimp only
  split
  · exact hsocket.toOpens
  have hend := ((hsocket.trans (@stepCandidates_keeps ext _)).trans (@stepActivateTimer_keeps _ env)).trans
    stepEndSearch_keeps
  split
  · exact hend.toOpens
  · exact hend.opens stepNominated_opens

theorem updatePair_step_opens (id : Nat) {f : CandidatePair → CandidatePair} (hf : ∀ pair, (f pair).mID = pair.mID) :
    Opens s ((s.updatePair id f).step ext env) := (updatePair_keeps id hf).opens step_opens

end Nominating

end ICESocketSession

end OpenPeer
