import OpenPeer.ICERoles

/-!
# The session is such a party

Each handler of the ICE session is a few acts of the party it stands for. Most of what a
handler does is quiet: it only lets go of requesters.
-/
namespace OpenPeer

/-- Nothing happens but that requesters are let go. -/
def Quiet (p q : Party) : Prop :=
  ∃ watched nominating, (∀ r ∈ watched, r ∈ p.watched) ∧ (nominating = none ∨ nominating = p.nominating) ∧
    q = { p with watched := watched, nominating := nominating }

namespace Quiet

variable {p q r : Party}

theorem refl (p : Party) : Quiet p p := ⟨p.watched, p.nominating, fun _ h => h, .inr rfl, rfl⟩

theorem of_eq (h : q = p) : Quiet p q := h ▸ refl p

theorem trans (hpq : Quiet p q) (hqr : Quiet q r) : Quiet p r := by
  obtain ⟨watched, nominating, hwatched, hnominating, rfl⟩ := hpq
  obtain ⟨watched', nominating', hwatched', hnominating', rfl⟩ := hqr
  refine ⟨watched', nominating', fun x hx => hwatched x (hwatched' x hx), ?_, rfl⟩
  rcases hnominating' with rfl | rfl
  · exact .inl rfl
  · exact hnominating

theorem acts {cause : Cause} (h : Quiet p q) : Acts cause p q := by
  obtain ⟨watched, nominating, hwatched, hnominating, rfl⟩ := h
  exact .single (.forget p watched nominating hwatched hnominating)

theorem created (h : Quiet p q) : q.created = p.created := by
  obtain ⟨_, _, _, _, rfl⟩ := h
  rfl

theorem password (h : Quiet p q) : q.password = p.password := by
  obtain ⟨_, _, _, _, rfl⟩ := h
  rfl

end Quiet

namespace ICESocketSession

/-- The party that a session is. -/
def party (s : ICESocketSession) : Party :=
  { role := s.mControl, resolver := s.mConflictResolver, password := s.mRemotePassword, created := s.created
    watched := s.monitored, nominating := s.mNominateRequester, sent := s.sent.map (·.packet)
    nominations := s.nominations.map (·.1) }

/-- The random number of the handler is no transaction ID yet. -/
def Fresh (env : Env) (p : Party) : Prop := ∀ c ∈ p.created, c.2.id ≠ env.transactionID

theorem Fresh.quiet {env : Env} {p q : Party} (h : Fresh env p) (hquiet : Quiet p q) : Fresh env q := by
  unfold Fresh
  rw [hquiet.created]
  exact h

variable {ext : ICEExternals} {valid : STUNPacket → List UInt8 → Bool} {s : ICESocketSession} {env : Env}

section QuietParts

theorem setError_party (errorCode : UInt16) : (s.setError errorCode).party = s.party := by
  unfold setError
  split <;> rfl

theorem cancelRequesters_quiet (requesters : List STUNRequester) : Quiet s.party (s.cancelRequesters requesters).party :=
  ⟨_, _, fun _ hr => List.mem_of_mem_filter hr, .inr rfl, rfl⟩

theorem cancel_quiet : Quiet s.party s.cancel.party := by
  unfold cancel
  split
  · exact .refl _
  · exact ⟨_, _, fun _ hr => List.mem_of_mem_filter hr, .inl rfl, rfl⟩

theorem setError_cancel_quiet (errorCode : UInt16) : Quiet s.party (s.setError errorCode).cancel.party :=
  (Quiet.of_eq (setError_party errorCode)).trans cancel_quiet

theorem stepSocket_quiet : Quiet s.party (s.stepSocket env).1.party := by
  unfold stepSocket
  split
  · exact setError_cancel_quiet 412
  next socket _ =>
    split
    · split
      · exact setError_cancel_quiet socket.error
      · exact cancel_quiet
    · split <;> exact .refl _

theorem stepPairs_quiet (newLocals newRemotes : List Candidate) :
    Quiet s.party (s.stepPairs ext newLocals newRemotes).party := by
  unfold stepPairs
  extract_lets swapped straight pruned released
  have hreleased : Quiet s.party released.party := cancelRequesters_quiet _
  exact hreleased

theorem withCandidates_party (locals updatedLocals remotes updatedRemotes : List Candidate) :
    (s.withCandidates locals updatedLocals remotes updatedRemotes).party = s.party := rfl

theorem stepCandidates_quiet : Quiet s.party (s.stepCandidates ext).party := by
  unfold stepCandidates
  obtain ⟨locals, updatedLocals, newLocals⟩ := takeCandidates s.mLocalCandidates s.mUpdatedLocalCandidates
  obtain ⟨remotes, updatedRemotes, newRemotes⟩ := takeCandidates s.mRemoteCandidates s.mUpdatedRemoteCandidates
  have hparty := withCandidates_party (s := s) locals updatedLocals remotes updatedRemotes
  dsimp only
  split
  · exact .of_eq hparty
  · exact hparty ▸ stepPairs_quiet newLocals newRemotes

theorem stepActivateTimer_party : (s.stepActivateTimer env).party = s.party := by
  unfold stepActivateTimer
  split
  · split <;> rfl
  · rfl

theorem stepEndSearch_quiet : Quiet s.party s.stepEndSearch.1.party := by
  unfold stepEndSearch
  split
  · exact .refl _
  split
  · exact .refl _
  split
  · exact .refl _
  · exact setError_cancel_quiet 404

theorem stepTimer_party : (s.stepTimer env).party = s.party := by
  unfold stepTimer
  split
  · split <;> rfl
  · rfl

theorem stepExpectingDataTimer_party : (s.stepExpectingDataTimer env).party = s.party := by
  unfold stepExpectingDataTimer
  split
  · split <;> rfl
  · rfl

theorem stepKeepAliveTimer_party : (s.stepKeepAliveTimer env).party = s.party := by
  unfold stepKeepAliveTimer
  split
  · split <;> rfl
  · rfl

theorem stepCancelLowerPriority_quiet : Quiet s.party s.stepCancelLowerPriority.party := by
  unfold stepCancelLowerPriority
  split
  · exact .refl _
  · exact ⟨_, _, fun _ hr => List.mem_of_mem_filter hr, .inr rfl, rfl⟩

theorem setFinalState_party : s.setFinalState.1.party = s.party := by
  unfold setFinalState
  split
  · rfl
  split
  · rfl
  split <;> rfl

theorem findPair_party (viaLocalIP : IPAddress) (viaTransport : Types) (source : IPAddress) :
    (s.findPair ext viaLocalIP viaTransport source).1.party = s.party := by
  unfold findPair
  split
  · unfold discover
    dsimp only
    split <;> rfl
  · rfl

theorem acceptNomination_quiet (stun : STUNPacket) (found : Option CandidatePair) :
    Quiet s.party (s.acceptNomination stun found).party := by
  unfold acceptNomination
  split
  · exact .refl _
  split
  · exact ⟨_, _, fun _ hr => List.mem_of_mem_filter hr, .inl rfl, rfl⟩
  · exact .refl _

theorem noteActivity_quiet : Quiet s.party (s.noteActivity env).party :=
  ⟨_, _, fun _ hr => List.mem_of_mem_filter hr, .inr rfl, rfl⟩

theorem noteSTUN_quiet (found : Option CandidatePair) : Quiet s.party (s.noteSTUN env found).party := by
  unfold noteSTUN
  split
  · exact .refl _
  split
  · exact noteActivity_quiet
  · exact .refl _

theorem touch_party : (s.touch env).party = s.party := by
  unfold touch
  split <;> rfl

end QuietParts

section Carried

theorem withRole_carries {request : STUNPacket} (hcontrolling : request.mIceControllingIncluded = false)
    (hcontrolled : request.mIceControlledIncluded = false) :
    Carries s.mControl s.mConflictResolver (s.withRole request) := by
  unfold withRole Carries
  split
  next h => rw [if_pos h]; exact ⟨rfl, rfl, by simp [hcontrolled]⟩
  next h => rw [if_neg (h ▸ by decide)]; exact ⟨rfl, rfl, by simp [hcontrolling]⟩

variable (request : STUNPacket)

theorem withRole_id : (s.withRole request).mTransactionID = request.mTransactionID := by
  unfold withRole
  split <;> rfl

theorem withRole_class : (s.withRole request).mClass = request.mClass := by
  unfold withRole
  split <;> rfl

theorem withRole_error : (s.withRole request).mErrorCode = request.mErrorCode := by
  unfold withRole
  split <;> rfl

theorem checkRequest_eq (hpassword : s.mRemotePassword ≠ []) (pairing : CandidatePair) :
    s.checkRequest env pairing =
      s.withRole { s.signed (STUNPacket.createRequest .binding env.transactionID) with
        mPriorityIncluded := true, mPriority := pairing.mLocal.mPriority } := if_pos hpassword

end Carried

section Acting

variable {got : Option STUNPacket} {overdue : Bool}

theorem watch_acts (hfresh : Fresh env s.party) {r : STUNRequester} (hid : r.id = env.transactionID)
    (hclass : r.mSTUNRequest.mClass = .request) (herror : r.mSTUNRequest.mErrorCode = 0)
    (hcarries : Carries s.mControl s.mConflictResolver r.mSTUNRequest ∨
      (overdue = true ∧ Carries .controlling s.mConflictResolver r.mSTUNRequest)) :
    Acts ⟨got, env.transactionID, overdue⟩ s.party (s.watch r).party :=
  .single (.create s.party r s.party.nominating hid hfresh hclass herror hcarries (.inl rfl))

theorem sendTo_acts {cause : Cause} {packet : STUNPacket}
    (h : Act cause s.party { s.party with sent := packet :: s.party.sent }) (viaLocalIP : IPAddress)
    (viaTransport : Types) (destination : IPAddress) :
    Acts cause s.party (s.sendTo viaLocalIP viaTransport destination packet).party := by
  unfold sendTo
  split
  · exact .refl
  · exact .single h

theorem switchRole_acts {cause : Cause} {newRole : ICEControls}
    (h : Act cause s.party { s.party with role := newRole }) : Acts cause s.party (s.switchRole newRole).party := by
  unfold switchRole
  split
  · exact .refl
  split
  · exact .refl
  · refine Relation.ReflTransGen.head h (Quiet.acts ?_)
    exact ⟨_, _, fun _ hr => List.mem_of_mem_filter hr, .inr rfl, rfl⟩

theorem nominate_acts (hfresh : Fresh env s.party) (hpassword : s.party.password ≠ []) (hcontrol : s.mControl = .controlling)
    (pairing : CandidatePair) : Acts ⟨got, env.transactionID, overdue⟩ s.party (s.nominate env pairing).party := by
  unfold nominate
  rw [if_neg (show ¬s.mRemotePassword = [] from hpassword)]
  have hcarries : Carries s.party.role s.party.resolver (s.nominateRequest env pairing) := by
    change Carries s.mControl s.mConflictResolver _
    rw [hcontrol]
    exact ⟨rfl, rfl, Bool.false_ne_true⟩
  exact .single (.create s.party _ _ rfl hfresh rfl rfl (.inl hcarries) (.inr ⟨rfl, rfl, rfl⟩))

theorem stepNominate_acts (hfresh : Fresh env s.party) (hpassword : s.party.password ≠ []) :
    Acts ⟨got, env.transactionID, overdue⟩ s.party (s.stepNominate env).1.party := by
  unfold stepNominate
  split
  · exact (Quiet.of_eq setFinalState_party).acts
  split
  · exact (Quiet.of_eq setFinalState_party).acts
  next hcontrol =>
    split
    · exact (Quiet.of_eq setFinalState_party).acts
    next pairing _ =>
      have hcontrolling : s.mControl = .controlling := by
        cases h : s.mControl
        · rfl
        · exact absurd h hcontrol
      rw [setFinalState_party]
      exact nominate_acts hfresh hpassword hcontrolling pairing

theorem stepTimers_quiet : Quiet s.party
    (((s.stepTimer env).stepExpectingDataTimer env).stepKeepAliveTimer env).stepCancelLowerPriority.party :=
  (Quiet.of_eq ((stepKeepAliveTimer_party.trans stepExpectingDataTimer_party).trans stepTimer_party)).trans
    stepCancelLowerPriority_quiet

theorem stepNominated_acts (hfresh : Fresh env s.party) (hpassword : s.party.password ≠ []) :
    Acts ⟨got, env.transactionID, overdue⟩ s.party (s.stepNominated env).party := by
  unfold stepNominated
  have hquiet := @stepTimers_quiet s env
  have hacts := @stepNominate_acts _ _ got overdue (hfresh.quiet hquiet) (hquiet.password ▸ hpassword)
  dsimp only
  split
  · exact hquiet.acts.trans hacts
  · exact hquiet.acts.trans hacts

theorem step_acts (hfresh : Fresh env s.party) (hpassword : s.party.password ≠ []) :
    Acts ⟨got, env.transactionID, overdue⟩ s.party (s.step ext env).party := by
  unfold step
  split
  · exact cancel_quiet.acts
  have hsocket := @stepSocket_quiet s env
  dsimp only
  split
  · exact hsocket.acts
  have hsearch := hsocket.trans (@stepCandidates_quiet ext _)
  have htimer := hsearch.trans (.of_eq (@stepActivateTimer_party _ env))
  have hend := htimer.trans stepEndSearch_quiet
  split
  · exact hend.acts
  · exact hend.acts.trans (stepNominated_acts (hfresh.quiet hend) (hend.password ▸ hpassword))

theorem step_acts_of_party {s' : ICESocketSession} (hparty : s'.party = s.party) (hfresh : Fresh env s.party)
    (hpassword : s.party.password ≠ []) : Acts ⟨got, env.transactionID, overdue⟩ s.party (s'.step ext env).party := by
  rw [← hparty] at hfresh hpassword ⊢
  exact step_acts hfresh hpassword

theorem triggerCheck_acts (hfresh : Fresh env s.party) (found : Option CandidatePair) :
    Acts ⟨got, env.transactionID, overdue⟩ s.party (s.triggerCheck env found).party := by
  unfold triggerCheck
  split
  · exact .refl
  next found =>
    split
    · exact .refl
    · refine watch_acts hfresh ?_ ?_ ?_ (.inl (withRole_carries ?_ ?_))
      · change (s.withRole _).mTransactionID = _
        rw [withRole_id]
        split <;> rfl
      · change (s.withRole _).mClass = _
        rw [withRole_class]
        split <;> rfl
      · change (s.withRole _).mErrorCode = _
        rw [withRole_error]
        split <;> rfl
      · split <;> rfl
      · split <;> rfl

theorem handleAccepted_acts (hfresh : Fresh env s.party) (stun : STUNPacket) (found : Option CandidatePair) :
    Acts ⟨got, env.transactionID, overdue⟩ s.party (s.handleAccepted env stun found).party := by
  have hnomination := acceptNomination_quiet (s := s) stun found
  exact (hnomination.acts.trans (triggerCheck_acts (hfresh.quiet hnomination) found)).trans (noteSTUN_quiet found).acts

theorem errorResponse_mErrorCode (stun : STUNPacket) {errorCode : UInt16} (h : errorCode ≠ 0) :
    (s.errorResponse stun errorCode).mErrorCode = errorCode := STUNPacket.createErrorResponse_mErrorCode h

section

variable (hfresh : Fresh env s.party) {stun : STUNPacket} (hclass : stun.mClass = .request ∨ stun.mClass = .indication)
  (viaLocalIP : IPAddress) (viaTransport : Types) (source : IPAddress)
include hfresh hclass

theorem answer_acts (found : Option CandidatePair) :
    Acts ⟨some stun, env.transactionID, overdue⟩ s.party
      (s.answer env viaLocalIP viaTransport source stun found).party := by
  unfold answer
  split
  · exact handleAccepted_acts hfresh stun found
  next hindication =>
    have hrequest := hclass.resolve_right hindication
    split
    next hrole =>
      have hsend := sendTo_acts (s := s)
        (@Act.succeed ⟨some stun, env.transactionID, overdue⟩ s.party stun (s.successResponse stun source) rfl
          hrequest hrole rfl rfl rfl) viaLocalIP viaTransport source
      refine hsend.trans (handleAccepted_acts ?_ stun found)
      unfold sendTo
      split <;> exact hfresh
    next hrole =>
      exact sendTo_acts (.win s.party stun (s.errorResponse stun STUNPacket.errorCodeRoleConflict) rfl hrequest hrole
        rfl rfl) _ _ _
    next hrole => exact switchRole_acts (.lose s.party stun rfl hrequest hrole)

theorem handleSTUNPacket_acts (localUsernameFrag remoteUsernameFrag : List UInt8) :
    Acts ⟨some stun, env.transactionID, overdue⟩ s.party
      (s.handleSTUNPacket ext valid env viaLocalIP viaTransport source stun localUsernameFrag
        remoteUsernameFrag).1.party := by
  unfold handleSTUNPacket
  split
  · exact .refl
  split
  · exact .refl
  split
  · exact .refl
  split
  · exact .refl
  split
  · split
    · exact .refl
    · refine sendTo_acts (.refuse s.party _ rfl ?_) _ _ _
      rw [errorResponse_mErrorCode stun (by decide)]
      decide
  · have hfound := @findPair_party ext s viaLocalIP viaTransport source
    dsimp only
    have hacts := @answer_acts (s.findPair ext viaLocalIP viaTransport source).1 env overdue (hfound ▸ hfresh) _ hclass
      viaLocalIP viaTransport source
      (s.findPair ext viaLocalIP viaTransport source).2
    rwa [hfound] at hacts

end

theorem withoutNominateRequester_quiet : Quiet s.party ({ s with mNominateRequester := none }).party :=
  ⟨s.monitored, none, fun _ hr => hr, .inl rfl, rfl⟩

theorem onSTUNRequesterTimedOut_acts (hfresh : Fresh env s.party) (hpassword : s.party.password ≠ [])
    (requester : STUNRequester) :
    Acts ⟨got, env.transactionID, overdue⟩ s.party (s.onSTUNRequesterTimedOut ext env requester).party := by
  unfold onSTUNRequesterTimedOut
  split
  · refine Quiet.acts (Quiet.trans ?_ (setError_cancel_quiet 408))
    split <;> exact .of_eq rfl
  split
  · refine Quiet.acts (withoutNominateRequester_quiet.trans ?_)
    dsimp only
    split
    · exact .of_eq rfl
    next pairing _ => exact cancelRequesters_quiet (s := { s with mNominateRequester := none }) pairing.mRequester.toList
  · split
    · exact .refl
    next pairing _ =>
      exact step_acts_of_party rfl hfresh hpassword

variable {response : STUNPacket}

theorem isError_class (h : ¬isError response = true) : response.mClass = .response := by
  simp only [isError, Bool.or_eq_true, bne_iff_ne, not_or, not_not] at h
  exact h.2

variable {requester : STUNRequester}

theorem isRequester_eq_some {owned : Option STUNRequester} (h : isRequester requester owned = true) :
    ∃ r, owned = some r ∧ r.id = requester.id := by
  cases owned with
  | none => cases h
  | some r => exact ⟨r, rfl, beq_iff_eq.mp h⟩

section

variable (hfresh : Fresh env s.party) (hpassword : s.party.password ≠ [])
include hfresh hpassword

theorem handleNominatedResponse_acts (hwatched : requester ∈ s.monitored)
    (hid : requester.id = response.mTransactionID)
    (hor : isRequester requester s.mNominateRequester = true ∨ isRequester requester s.mAliveCheckRequester = true) :
    Acts ⟨some response, env.transactionID, overdue⟩ s.party
      (s.handleNominatedResponse ext valid env requester response).1.party := by
  unfold handleNominatedResponse
  extract_lets nominating usePair
  split
  · exact .refl
  split
  · split
    next hconflict =>
      split
      · exact .refl
      split
      · exact .refl
      · exact switchRole_acts (.obey s.party response requester rfl hconflict hwatched hid)
    · exact onSTUNRequesterTimedOut_acts hfresh hpassword requester
  next herror =>
    split
    · exact .refl
    split
    · exact .refl
    next halive =>
      obtain ⟨r, hr, hrid⟩ := isRequester_eq_some (hor.resolve_right halive)
      exact .single (.nominated s.party response requester r rfl (isError_class herror) hid hr hrid)

theorem handlePairResponse_acts (hwatched : requester ∈ s.monitored) (hid : requester.id = response.mTransactionID)
    (pairing : CandidatePair) :
    Acts ⟨some response, env.transactionID, overdue⟩ s.party
      (s.handlePairResponse ext valid env requester response pairing).1.party := by
  unfold handlePairResponse
  split
  · split
    next hconflict =>
      split
      · exact .refl
      · exact switchRole_acts (.obey s.party response requester rfl hconflict hwatched hid)
    · exact .refl
  · exact step_acts_of_party rfl hfresh hpassword

theorem handleSTUNRequesterResponse_acts {requester : STUNRequester} {response : STUNPacket}
    (hwatched : requester ∈ s.monitored) (hid : requester.id = response.mTransactionID) :
    Acts ⟨some response, env.transactionID, overdue⟩ s.party
      (s.handleSTUNRequesterResponse ext valid env requester response).1.party := by
  unfold handleSTUNRequesterResponse
  split
  · exact .refl
  split
  next hor => exact handleNominatedResponse_acts hfresh hpassword hwatched hid hor
  · split
    · exact .refl
    next pairing _ => exact handlePairResponse_acts hfresh hpassword hwatched hid pairing

theorem receiveResponse_acts (response : STUNPacket) :
    Acts ⟨some response, env.transactionID, overdue⟩ s.party (s.receiveResponse ext valid env response).party := by
  unfold receiveResponse
  split
  · exact .refl
  next requester hfind =>
    have hwatched := List.mem_of_find?_eq_some hfind
    have hkey := List.find?_some hfind
    rw [Bool.and_eq_true, beq_iff_eq, beq_iff_eq] at hkey
    split
    · have hacts := (@handleSTUNRequesterResponse_acts ext valid _ _ overdue) hfresh hpassword
        hwatched hkey.2
      dsimp only
      split
      · exact hacts.trans (cancelRequesters_quiet [requester]).acts
      · exact hacts
    · exact .refl

end

theorem onSTUNRequesterSendPacket_acts {c : ICEControls × STUNRequester} (hc : c ∈ s.created) :
    Acts ⟨got, env.transactionID, overdue⟩ s.party (s.onSTUNRequesterSendPacket ext c.2).party := by
  have hsend (viaLocalIP : IPAddress) (viaTransport : Types) :=
    sendTo_acts (@Act.transmit ⟨got, env.transactionID, overdue⟩ s.party c hc) viaLocalIP viaTransport
      c.2.mServerIP
  unfold onSTUNRequesterSendPacket
  dsimp only
  split
  · exact .refl
  split
  · split
    · exact .refl
    · exact hsend _ _
  split
  · split
    · exact .refl
    · exact hsend _ _
  split
  · exact .refl
  · exact hsend _ _

theorem activate_acts (hfresh : Fresh env s.party) (hpassword : s.party.password ≠ []) :
    Acts ⟨got, env.transactionID, overdue⟩ s.party (s.activate ext env).party := by
  unfold activate
  split
  · exact .refl
  · exact .refl
  next pairing _ =>
    have heq := @checkRequest_eq _ env hpassword pairing
    refine watch_acts hfresh ?_ ?_ ?_ (.inl ?_)
    · change (s.checkRequest env pairing).mTransactionID = _
      rw [heq, withRole_id]
      rfl
    · change (s.checkRequest env pairing).mClass = _
      rw [heq, withRole_class]
      rfl
    · change (s.checkRequest env pairing).mErrorCode = _
      rw [heq, withRole_error]
      rfl
    · change Carries _ _ (s.checkRequest env pairing)
      rw [heq]
      exact withRole_carries rfl rfl

theorem keepAlive_acts : Acts ⟨got, env.transactionID, overdue⟩ s.party (s.keepAlive ext env).party := by
  unfold keepAlive
  split
  · exact .refl
  split
  · exact .refl
  split
  · exact .refl
  · refine sendTo_acts (.indicate s.party _ ?_ ?_) _ _ _ <;> unfold keepAliveIndication <;> split <;> rfl

theorem aliveCheckRequest_eq (hpassword : s.mRemotePassword ≠ []) (nominated : CandidatePair) :
    s.aliveCheckRequest env nominated =
      { s.signed (STUNPacket.createRequest .binding env.transactionID) with
        mIceControllingIncluded := true, mIceControlling := s.mConflictResolver
        mPriorityIncluded := true, mPriority := nominated.mLocal.mPriority } := if_pos hpassword

theorem expectData_acts (hfresh : Fresh env s.party) (hpassword : s.party.password ≠ [])
    (hoverdue : s.aliveCheckDue env = true → (s.pair? s.mNominated).isSome = true → s.mControl = .controlled →
      overdue = true) : Acts ⟨got, env.transactionID, overdue⟩ s.party (s.expectData env).party := by
  unfold expectData
  split
  next hdue =>
    split
    · exact .refl
    next nominated hnominated =>
      have hlate := hoverdue hdue (by rw [hnominated]; rfl)
      have heq := @aliveCheckRequest_eq _ env hpassword nominated
      have hcarries : Carries .controlling s.mConflictResolver (s.aliveCheckRequest env nominated) := by
        rw [heq]
        exact ⟨rfl, rfl, Bool.false_ne_true⟩
      refine watch_acts hfresh ?_ ?_ ?_ ?_
      · change (s.aliveCheckRequest env nominated).mTransactionID = _
        rw [heq]
        rfl
      · change (s.aliveCheckRequest env nominated).mClass = _
        rw [heq]
        rfl
      · change (s.aliveCheckRequest env nominated).mErrorCode = _
        rw [heq]
        rfl
      · cases hcontrol : s.mControl with
        | controlling => exact .inl hcarries
        | controlled => exact .inr ⟨hlate hcontrol, hcarries⟩
  · exact .refl

/-- The timer makes an alive check. -/
def makesAliveCheck (s : ICESocketSession) (env : Env) : Bool :=
  !s.isShutdown && !s.backgrounded env && s.mExpectingDataTimer && s.aliveCheckDue env && (s.pair? s.mNominated).isSome

theorem touch_aliveCheckDue : (s.touch env).aliveCheckDue env = s.aliveCheckDue env := by
  unfold touch
  split <;> rfl

theorem touch_nominated : (s.touch env).pair? (s.touch env).mNominated = s.pair? s.mNominated := by
  unfold touch
  split <;> rfl

theorem touch_mControl : (s.touch env).mControl = s.mControl := congrArg Party.role touch_party

theorem touch_mExpectingDataTimer : (s.touch env).mExpectingDataTimer = s.mExpectingDataTimer := by
  unfold touch
  split <;> rfl

theorem onTimer_acts (hfresh : Fresh env s.party) (hpassword : s.party.password ≠ []) (timer : SessionTimer)
    (hoverdue : timer = .expectingData → s.makesAliveCheck env = true → s.mControl = .controlled → overdue = true) :
    Acts ⟨got, env.transactionID, overdue⟩ s.party (s.onTimer ext env timer).party := by
  unfold onTimer
  split
  · exact .refl
  next hshutdown =>
    split
    · exact (setError_cancel_quiet 599).acts
    next hbackgrounded =>
      have htouch := @touch_party s env
      rw [← htouch] at hfresh hpassword ⊢
      unfold onSessionTimer
      cases timer with
      | step =>
        dsimp only
        split
        · exact step_acts hfresh hpassword
        · exact .refl
      | activate =>
        dsimp only
        split
        · exact activate_acts hfresh hpassword
        · exact .refl
      | keepAlive =>
        dsimp only
        split
        · exact keepAlive_acts
        · exact .refl
      | expectingData =>
        dsimp only
        split
        next htimer =>
          refine expectData_acts hfresh hpassword fun hdue hsome hcontrol => hoverdue rfl ?_ ?_
          · rw [touch_aliveCheckDue] at hdue
            rw [touch_nominated] at hsome
            rw [touch_mExpectingDataTimer] at htimer
            simp only [makesAliveCheck, hshutdown, hbackgrounded, htimer, hdue, hsome, Bool.and_self, Bool.not_false]
          · rwa [touch_mControl] at hcontrol
        · exact .refl

theorem handlePacket_quiet (viaLocalIP : IPAddress) (viaTransport : Types) (source : IPAddress) :
    Quiet s.party (s.handlePacket ext env viaLocalIP viaTransport source).1.party := by
  unfold handlePacket
  split
  · exact .refl _
  split
  · exact .refl _
  split
  · exact noteActivity_quiet
  · exact .refl _

theorem onICESocketCandidatesChanged_acts (hfresh : Fresh env s.party) (hpassword : s.party.password ≠ []) :
    Acts ⟨got, env.transactionID, overdue⟩ s.party (s.onICESocketCandidatesChanged ext env).party := by
  unfold onICESocketCandidatesChanged
  split
  · exact .refl
  · exact step_acts_of_party rfl hfresh hpassword

theorem setKeepAliveProperties_quiet (a b c d : Nat) : Quiet s.party (s.setKeepAliveProperties a b c d).party :=
  ⟨_, _, fun _ hr => List.mem_of_mem_filter hr, .inr rfl, rfl⟩

end Acting

end ICESocketSession

end OpenPeer
