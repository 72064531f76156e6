import OpenPeer.ICESocketSessionBookkeeping
import OpenPeer.ICESessionRoles

/-!
# Packets of someone who knows neither password

Requests without integrity change nothing. Of the responses, a success to a nomination or
to an alive check and a role conflict are checked; the rest is taken as it comes. It is
told exactly which packets a session disregards.
-/
namespace OpenPeer

open Runs

namespace ICESocketSession

/-- Nothing that a session knows of its search has changed, and every requester goes on. -/
structure Untouched (s s' : ICESocketSession) : Prop where
  control : s'.mControl = s.mControl
  nominated : s'.mNominated = s.mNominated
  pending : s'.mPendingNominatation = s.mPendingNominatation
  pairs : s'.mCandidatePairs = s.mCandidatePairs
  nominateRequester : s'.mNominateRequester = s.mNominateRequester
  aliveCheckRequester : s'.mAliveCheckRequester = s.mAliveCheckRequester
  monitored : s'.monitored = s.monitored

section Conditions

variable (ext : ICEExternals)

/-- The requester to which the packet is a response. -/
def answeredRequester (s : ICESocketSession) (response : STUNPacket) : Option STUNRequester :=
  (s.monitored.find? fun r =>
      r.mSTUNRequest.mMagicCookie == response.mMagicCookie && r.id == response.mTransactionID).filter
    fun r => response.isValidResponseTo ext.toExternals r.mSTUNRequest r.mUsingRFC.bit

/-- The handler of responses looks at the integrity of this one, or has no use for it. -/
def Guards (s : ICESocketSession) (requester : STUNRequester) (response : STUNPacket) : Prop :=
  if isRequester requester s.mNominateRequester ∨ isRequester requester s.mAliveCheckRequester then
    isError response = false ∨ response.mErrorCode = STUNPacket.errorCodeRoleConflict
  else
    (s.mCandidatePairs.any fun pair => isRequester requester pair.mRequester) = false ∨
      response.mErrorCode = STUNPacket.errorCodeRoleConflict

/-- A packet that does nothing unless it is signed. -/
def Disregards (s : ICESocketSession) (stun : STUNPacket) : Prop :=
  stun.mClass = .request ∨ stun.mClass = .indication ∨ s.isShutdown = true ∨
    ∀ requester, s.answeredRequester ext stun = some requester → s.Guards requester stun

end Conditions

variable {ext : ICEExternals} {valid : STUNPacket → List UInt8 → Bool} {s : ICESocketSession} {env : Env}

theorem Untouched.refl (s : ICESocketSession) : Untouched s s := ⟨rfl, rfl, rfl, rfl, rfl, rfl, rfl⟩

theorem untouched_sendTo (viaLocalIP : IPAddress) (viaTransport : Types) (destination : IPAddress)
    (packet : STUNPacket) : Untouched s (s.sendTo viaLocalIP viaTransport destination packet) := by
  unfold sendTo
  split
  · exact .refl s
  · exact ⟨rfl, rfl, rfl, rfl, rfl, rfl, rfl⟩

theorem handleSTUNPacket_untouched {stun : STUNPacket} (hvalid : valid stun s.mLocalPassword = false)
    (viaLocalIP : IPAddress) (viaTransport : Types) (source : IPAddress)
    (localUsernameFrag remoteUsernameFrag : List UInt8) :
    Untouched s (s.handleSTUNPacket ext valid env viaLocalIP viaTransport source stun localUsernameFrag
      remoteUsernameFrag).1 := by
  unfold handleSTUNPacket
  split
  · exact .refl s
  split
  · exact .refl s
  split
  · exact .refl s
  split
  · exact .refl s
  split
  · split
    · exact .refl s
    · exact untouched_sendTo _ _ _ _
  next hsigned => simp [hvalid] at hsigned

theorem isError_of_roleConflict {response : STUNPacket}
    (h : response.mErrorCode = STUNPacket.errorCodeRoleConflict) : isError response = true := by
  simp [isError, h, STUNPacket.errorCodeRoleConflict]

/-- A response that is guarded is not taken when it is not signed. -/
theorem response_guarded (hsound : Sound s) (hpassword : s.mRemotePassword ≠ []) {response : STUNPacket}
    (hvalid : valid response s.mRemotePassword = false) {requester : STUNRequester}
    (hguards : s.Guards requester response) :
    s.handleSTUNRequesterResponse ext valid env requester response = (s, false) := by
  have hunsigned : s.mRemotePassword ≠ [] ∧ (!valid response s.mRemotePassword) = true := ⟨hpassword, by simp [hvalid]⟩
  unfold handleSTUNRequesterResponse
  split
  · rfl
  unfold Guards at hguards
  split
  next hrequester =>
    rw [if_pos hrequester] at hguards
    have hpair : (if isRequester requester s.mNominateRequester = true then s.mPendingNominatation
        else s.mNominated).isNone = false := by
      rw [Option.isNone_eq_false_iff]
      split
      next hnominating => exact hsound.nominating (isRequester_isSome hnominating)
      next hnominating => exact hsound.alive (isRequester_isSome (hrequester.resolve_left hnominating))
    unfold handleNominatedResponse
    simp only [hpair, Bool.false_eq_true, if_false]
    cases hguards with
    | inl hsuccess => rw [if_neg (by simp [hsuccess]), if_pos hunsigned]
    | inr hconflict => rw [if_pos (isError_of_roleConflict hconflict), if_pos hconflict, if_pos hunsigned]
  next hrequester =>
    rw [if_neg hrequester] at hguards
    split
    · rfl
    next pairing hpairing =>
      have hany : (s.mCandidatePairs.any fun pair => isRequester requester pair.mRequester) = true :=
        List.any_eq_true.mpr ⟨pairing, List.mem_of_find?_eq_some hpairing, by simpa using List.find?_some hpairing⟩
      have hconflict := hguards.resolve_left (by simp [hany])
      unfold handlePairResponse
      rw [if_pos (isError_of_roleConflict hconflict), if_pos hconflict, if_pos hunsigned]

/-- Any other response is taken, whoever made it. -/
theorem response_unguarded (hsound : Sound s) (hup : s.isShutdown = false) {response : STUNPacket}
    {requester : STUNRequester} (hguards : ¬s.Guards requester response) :
    (s.handleSTUNRequesterResponse ext valid env requester response).2 = true := by
  unfold Guards at hguards
  unfold handleSTUNRequesterResponse
  rw [if_neg (by simp [hup])]
  split
  next hrequester =>
    rw [if_pos hrequester, not_or] at hguards
    have hpair : (if isRequester requester s.mNominateRequester = true then s.mPendingNominatation
        else s.mNominated).isNone = false := by
      rw [Option.isNone_eq_false_iff]
      split
      next hnominating => exact hsound.nominating (isRequester_isSome hnominating)
      next hnominating => exact hsound.alive (isRequester_isSome (hrequester.resolve_left hnominating))
    unfold handleNominatedResponse
    simp only [hpair, Bool.false_eq_true, if_false]
    rw [if_pos (by simpa using hguards.1), if_neg hguards.2]
  next hrequester =>
    rw [if_neg hrequester, not_or] at hguards
    split
    next hnone =>
      have hany := List.any_eq_true.mp (by simpa using hguards.1)
      obtain ⟨pair, hmem, hpair⟩ := hany
      exact absurd hpair (List.find?_eq_none.mp hnone pair hmem)
    next pairing _ =>
      unfold handlePairResponse
      split
      · rw [if_neg hguards.2]
      · rfl

theorem receiveResponse_untouched (hsound : Sound s) (hpassword : s.mRemotePassword ≠ []) {response : STUNPacket}
    (hvalid : valid response s.mRemotePassword = false) :
    Untouched s (s.receiveResponse ext valid env response) ↔
      s.isShutdown = true ∨ ∀ requester, s.answeredRequester ext response = some requester →
        s.Guards requester response := by
  unfold receiveResponse answeredRequester
  split
  next hnone => simp [hnone, Untouched.refl]
  next requester hfound =>
    rw [hfound]
    split
    next hresponse =>
      simp only [Option.filter, hresponse, if_true, Option.some.injEq, forall_eq']
      by_cases hup : s.isShutdown = true
      · have hshut : s.handleSTUNRequesterResponse ext valid env requester response = (s, false) := by
          unfold handleSTUNRequesterResponse
          rw [if_pos hup]
        simp [hup, hshut, Untouched.refl]
      by_cases hguards : s.Guards requester response
      · simp [response_guarded hsound hpassword hvalid hguards, hguards, Untouched.refl]
      · have htaken := @response_unguarded ext valid s env hsound (by simpa using hup) response requester hguards
        simp only [htaken, if_true, hup, hguards, or_self, iff_false, Bool.false_eq_true]
        intro huntouched
        -- the requester is completed
        have hmem : requester ∈ s.monitored := List.mem_of_find?_eq_some hfound
        rw [← huntouched.monitored] at hmem
        have hkept := List.of_mem_filter hmem
        simp at hkept
    next hresponse =>
      simp [Option.filter, hresponse, Untouched.refl]

/-- A packet of someone who knows neither password leaves a session as it is, in whatever state it may be, exactly
when it is one of those that are disregarded. -/
theorem unsigned_disregarded (ext : ICEExternals) (valid : STUNPacket → List UInt8 → Bool) (a b : AgentStart)
    (foundation : Bool) (events : List (Env × SessionInput)) (env : Env) (viaLocalIP : IPAddress)
    (viaTransport : Types) (source : IPAddress) (stun : STUNPacket)
    (hremote : (run (handle ext valid) (constructed a b foundation) events).mRemotePassword ≠ [])
    (hunsigned : ∀ password, password = (run (handle ext valid) (constructed a b foundation) events).mLocalPassword ∨
      password = (run (handle ext valid) (constructed a b foundation) events).mRemotePassword →
      valid stun password = false) :
    let s := run (handle ext valid) (constructed a b foundation) events
    Untouched s (s.handle ext valid (env, .packet viaLocalIP viaTransport source stun)) ↔ s.Disregards ext stun := by
  intro s
  have hsound : Sound s := run_sound a b foundation events
  unfold handle receivePacket Disregards
  dsimp only
  split
  next hclass =>
    have hdisregards := hclass
    rw [← or_assoc]
    simp only [hdisregards, true_or, iff_true]
    split
    · exact .refl s
    · exact handleSTUNPacket_untouched (hunsigned _ (.inl rfl)) _ _ _ _ _
  next hclass =>
    rw [← or_assoc, or_iff_right hclass]
    exact receiveResponse_untouched hsound hremote (hunsigned _ (.inr rfl))

section Samples

open SessionPair

def checkEvent (n : UInt8) (action : SessionAction) : Env × SessionInput :=
  ((hostEvent .second n 0 action).env, .action action)

/-- A session that has begun to check its one pair. -/
def checkingRun : List (Env × SessionInput) :=
  [checkEvent 1 (.updateRemoteCandidates [hostCandidate .first]), checkEvent 2 (.timer .activate)]

/-- A response to the check, signed with a password that is neither side's. -/
def forgedResponse : STUNPacket :=
  { STUNPacket.createResponse (STUNPacket.createRequest .binding (Vector.replicate 12 2)) with
    mMappedAddress := hostAddress .second, mPassword := [120], mCredentialMechanism := .shortTerm }

/-- The session of the check, and what it is after the response has arrived. -/
def checkingSession : ICESocketSession := run (handle plainICE signedWith) (constructed smaller larger false) checkingRun

def deceivedSession : ICESocketSession :=
  checkingSession.handle plainICE signedWith
    ((hostEvent .second 3 0 .wake).env, .packet (hostAddress .second) .typeLocal (hostAddress .first) forgedResponse)

theorem unsigned_disregarded_sample :
    Untouched checkingSession deceivedSession ↔ checkingSession.Disregards plainICE forgedResponse := by
  apply unsigned_disregarded plainICE signedWith smaller larger false checkingRun
  · decide +kernel
  · intro password hpassword
    cases hpassword with
    | inl hlocal => rw [hlocal]; decide +kernel
    | inr hremote => rw [hremote]; decide +kernel

/-- The forged response confirms a pair that nobody has answered for, and ends its check. -/
theorem forged_response_taken :
    signedWith forgedResponse checkingSession.mLocalPassword = false ∧
    signedWith forgedResponse checkingSession.mRemotePassword = false ∧
    checkingSession.mCandidatePairs.map (·.mReceivedResponse) = [false, false] ∧
    deceivedSession.mCandidatePairs.map (·.mReceivedResponse) = [true, false] ∧
    ¬Untouched checkingSession deceivedSession := by
  refine ⟨by decide +kernel, by decide +kernel, by decide +kernel, by decide +kernel, fun huntouched => ?_⟩
  have hresponse := congrArg (List.map (·.mReceivedResponse)) huntouched.pairs
  revert hresponse
  decide +kernel

end Samples

end ICESocketSession

end OpenPeer
