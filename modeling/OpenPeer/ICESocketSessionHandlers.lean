import OpenPeer.ICESocketSession

/-!
# What an ICE session does

The handlers of the ICE session: of STUN requests and indications, of responses to its
requests and of their timeouts, of its timers, and of the calls of its owner.
-/
namespace OpenPeer

/-- Which timer fires. -/
inductive SessionTimer where
  | step | activate | keepAlive | expectingData
  deriving DecidableEq, Repr

/-- What the founding session says of a pair with the same foundation. -/
inductive Unfreeze where
  | failed | frozen | thawed
  deriving DecidableEq, Repr

/-- What the activate timer finds to do. -/
inductive Activation where
  | nothing
  | fail (pairing : CandidatePair)
  | search (pairing : CandidatePair)

namespace ICESocketSession

variable (ext : ICEExternals) (valid : STUNPacket → List UInt8 → Bool)

section Requests

/-- The pair that a packet belongs to: the nominated one, or else the first that matches. -/
def matchPair (s : ICESocketSession) (viaLocalIP : IPAddress) (viaTransport : Types) (source : IPAddress) :
    Option CandidatePair :=
  match s.pair? s.mNominated with
  | some nominated =>
    if isCandidateMatch ext nominated viaLocalIP viaTransport source then some nominated
    else s.mCandidatePairs.find? fun pair => isCandidateMatch ext pair viaLocalIP viaTransport source
  | none => s.mCandidatePairs.find? fun pair => isCandidateMatch ext pair viaLocalIP viaTransport source

/-- The local candidate at which a packet arrived. -/
def localCandidate (s : ICESocketSession) (viaLocalIP : IPAddress) (viaTransport : Types) : Option Candidate :=
  s.mLocalCandidates.find? fun candidate =>
    candidate.mType == viaTransport && getViaLocalIP ext candidate == viaLocalIP

/-- The remote candidate of a packet from an unknown place. -/
def discoveredCandidate (source : IPAddress) : Candidate :=
  { mIPAddress := source, mType := .typePeerReflexive
    mPriority := ((1 : UInt32) <<< 24) * Types.typePeerReflexive.toCode + ((1 : UInt32) <<< 8) * 0 + (256 - 0) }

/-- A packet that belongs to no pair: its source is a new remote candidate, and with the local
candidate at which it arrived, if there is one, a new pair. -/
def discover (s : ICESocketSession) (viaLocalIP : IPAddress) (viaTransport : Types) (source : IPAddress) :
    ICESocketSession × Option CandidatePair :=
  let remote := discoveredCandidate source
  let updated := if s.mUpdatedRemoteCandidates.length < 1 then s.mRemoteCandidates else s.mUpdatedRemoteCandidates
  let s' := { s with mUpdatedRemoteCandidates := updated ++ [remote] }
  match s.localCandidate ext viaLocalIP viaTransport with
  | none => (s', none)
  | some candidate =>
    let newPair : CandidatePair :=
      { mID := s.nextPairID, mLocal := candidate, mRemote := remote, mReceivedRequest := true }
    ({ s' with mCandidatePairs := s.mCandidatePairs ++ [newPair], nextPairID := s.nextPairID + 1 }, some newPair)

/-- The pair of a request, which is marked or made. -/
def findPair (s : ICESocketSession) (viaLocalIP : IPAddress) (viaTransport : Types) (source : IPAddress) :
    ICESocketSession × Option CandidatePair :=
  match s.matchPair ext viaLocalIP viaTransport source with
  | none => s.discover ext viaLocalIP viaTransport source
  | some found =>
    let mark (pair : CandidatePair) : CandidatePair := { pair with mReceivedRequest := true, mFailed := false }
    (s.updatePair found.mID mark, some (mark found))

/-- Whether the role of a request conflicts with a role, and then whether this side wins. -/
def conflict (control : ICEControls) (resolver : UInt64) (stun : STUNPacket) : Option Bool :=
  match control with
  | .controlling => if stun.mIceControllingIncluded then some (resolver ≥ stun.mIceControlling) else none
  | .controlled => if stun.mIceControlledIncluded then some (resolver < stun.mIceControlled) else none

def otherRole : ICEControls → ICEControls
  | .controlled => .controlling
  | .controlling => .controlled

/-- The response is signed with the local password. -/
def signResponse (s : ICESocketSession) (response : STUNPacket) : STUNPacket :=
  { response with mPassword := s.mLocalPassword, mCredentialMechanism := .shortTerm }

def successResponse (s : ICESocketSession) (stun : STUNPacket) (source : IPAddress) : STUNPacket :=
  s.signResponse { STUNPacket.createResponse stun with mMappedAddress := source }

def errorResponse (s : ICESocketSession) (stun : STUNPacket) (errorCode : UInt16) : STUNPacket :=
  s.signResponse (STUNPacket.createErrorResponse { stun with mErrorCode := errorCode })

/-- The remote side, which controls, nominates the pair. -/
def acceptNomination (s : ICESocketSession) (stun : STUNPacket) (found : Option CandidatePair) : ICESocketSession :=
  match found with
  | none => s
  | some found =>
    if stun.mUseCandidateIncluded ∧ s.mControl = .controlled ∧ s.mNominated ≠ some found.mID then
      { s.cancelRequesters s.mNominateRequester.toList with
        mNominated := some found.mID
        mPendingNominatation := none
        mNominateRequester := none }
    else s

/-- The check that answers a check. -/
def triggeredRequest (s : ICESocketSession) (env : Env) (found : CandidatePair) : STUNPacket :=
  let request := { STUNPacket.createRequest .binding env.transactionID with
    mUsername := s.username, mPriorityIncluded := true, mPriority := found.mLocal.mPriority }
  s.withRole (if s.mRemotePassword ≠ [] then
    { request with mPassword := s.mRemotePassword, mCredentialMechanism := .shortTerm } else request)

def triggerCheck (s : ICESocketSession) (env : Env) (found : Option CandidatePair) : ICESocketSession :=
  match found with
  | none => s
  | some found =>
    if found.mRequester.isSome ∨ found.mReceivedResponse then s
    else
      let requester : STUNRequester := ⟨s.triggeredRequest env found, found.mRemote.mIPAddress, .rfc5245ICE, 0⟩
      (s.watch requester).updatePair found.mID fun pair => { pair with mRequester := some requester }

/-- The remote side is there, which spares the alive check. -/
def noteActivity (s : ICESocketSession) (env : Env) : ICESocketSession :=
  { s.cancelRequesters s.mAliveCheckRequester.toList with
    mLastReceivedDataOrSTUN := env.now
    mAliveCheckRequester := none }

def noteSTUN (s : ICESocketSession) (env : Env) (found : Option CandidatePair) : ICESocketSession :=
  match found with
  | none => s
  | some found => if s.mNominated = some found.mID then s.noteActivity env else s

/-- What follows when the request is in order. -/
def handleAccepted (s : ICESocketSession) (env : Env) (stun : STUNPacket) (found : Option CandidatePair) :
    ICESocketSession :=
  ((s.acceptNomination stun found).triggerCheck env found).noteSTUN env found

/-- The response to a request that is signed as it should be, and what follows. -/
def answer (s : ICESocketSession) (env : Env) (viaLocalIP : IPAddress) (viaTransport : Types) (source : IPAddress)
    (stun : STUNPacket) (found : Option CandidatePair) : ICESocketSession :=
  if stun.mClass = .indication then s.handleAccepted env stun found
  else
    match conflict s.mControl s.mConflictResolver stun with
    | none =>
      (s.sendTo viaLocalIP viaTransport source (s.successResponse stun source)).handleAccepted env stun found
    | some true =>
      s.sendTo viaLocalIP viaTransport source (s.errorResponse stun STUNPacket.errorCodeRoleConflict)
    | some false => s.switchRole (otherRole s.mControl)

def handleSTUNPacket (s : ICESocketSession) (env : Env) (viaLocalIP : IPAddress) (viaTransport : Types)
    (source : IPAddress) (stun : STUNPacket) (localUsernameFrag remoteUsernameFrag : List UInt8) :
    ICESocketSession × Bool :=
  if !s.mDelegate then (s, false)
  else if stun.mMethod ≠ .binding then (s, env.delegateHandles)
  else if localUsernameFrag ≠ s.mLocalUsernameFrag then (s, false)
  else if remoteUsernameFrag ≠ s.mRemoteUsernameFrag then (s, false)
  else if !valid stun s.mLocalPassword then
    if stun.mClass = .indication then (s, true)
    else (s.sendTo viaLocalIP viaTransport source (s.errorResponse stun STUNPacket.errorCodeUnauthorized), true)
  else
    let (s, found) := s.findPair ext viaLocalIP viaTransport source
    (s.answer env viaLocalIP viaTransport source stun found, true)

end Requests

section Responses

def failedNomination (pair : CandidatePair) : CandidatePair :=
  { pair with mFailed := false, mReceivedResponse := false, mRequester := none }

def isRequester (requester : STUNRequester) (owned : Option STUNRequester) : Bool :=
  owned.any fun r => r.id == requester.id

def onSTUNRequesterTimedOut (s : ICESocketSession) (env : Env) (requester : STUNRequester) : ICESocketSession :=
  if isRequester requester s.mAliveCheckRequester then
    -- the log of the failure reads the nominated pair
    let s := if s.mNominated.isNone then { s with badState := true } else s
    (({ s with mAliveCheckRequester := none }).setError 408).cancel
  else if isRequester requester s.mNominateRequester then
    let s := { s with mNominateRequester := none }
    let s :=
      match s.pair? s.mPendingNominatation with
      | none => s
      | some pairing => (s.cancelRequesters pairing.mRequester.toList).updatePair pairing.mID failedNomination
    { s with mPendingNominatation := none }
  else
    match s.mCandidatePairs.find? fun pair => isRequester requester pair.mRequester with
    | none => s
    | some pairing =>
      (s.updatePair pairing.mID fun pair => { pair with mRequester := none, mFailed := true }).step ext env

/-- The role that a conflict about a request leaves to its sender. -/
def conflictRole (request : STUNPacket) : ICEControls :=
  if request.mIceControlledIncluded then .controlling else .controlled

def isError (response : STUNPacket) : Bool := response.mErrorCode != 0 || response.mClass != .response

/-- The response to a nomination or to an alive check. -/
def handleNominatedResponse (s : ICESocketSession) (env : Env) (requester : STUNRequester) (response : STUNPacket) :
    ICESocketSession × Bool :=
  let nominating := isRequester requester s.mNominateRequester
  let usePair := if nominating then s.mPendingNominatation else s.mNominated
  if usePair.isNone then ({ s with badState := true }, false)
  else if isError response then
    if response.mErrorCode = STUNPacket.errorCodeRoleConflict then
      if s.mRemotePassword ≠ [] ∧ !valid response s.mRemotePassword then (s, false)
      else if isRequester requester s.mAliveCheckRequester then (s, false)
      else (s.switchRole (conflictRole requester.mSTUNRequest), true)
    else (s.onSTUNRequesterTimedOut ext env requester, true)
  else if s.mRemotePassword ≠ [] ∧ !valid response s.mRemotePassword then (s, false)
  else if isRequester requester s.mAliveCheckRequester then
    ({ s with mLastReceivedDataOrSTUN := env.now, mAliveCheckRequester := none }, true)
  else
    ({ s with
      mNominateRequester := none
      mNominated := usePair
      mPendingNominatation := none
      nominations := (requester.id, usePair) :: s.nominations }, true)

/-- The response to a pair's check. -/
def handlePairResponse (s : ICESocketSession) (env : Env) (requester : STUNRequester) (response : STUNPacket)
    (pairing : CandidatePair) : ICESocketSession × Bool :=
  if isError response then
    if response.mErrorCode = STUNPacket.errorCodeRoleConflict then
      if s.mRemotePassword ≠ [] ∧ !valid response s.mRemotePassword then (s, false)
      else (s.switchRole (conflictRole requester.mSTUNRequest), true)
    else (s, true)
  else
    let answered (pair : CandidatePair) : CandidatePair :=
      { pair with
        mFailed := false, mReceivedResponse := true, mRequester := none
        mReceivedRequest := s.mRemotePassword = [] || pair.mReceivedRequest }
    ((s.updatePair pairing.mID answered).step ext env, true)

def handleSTUNRequesterResponse (s : ICESocketSession) (env : Env) (requester : STUNRequester)
    (response : STUNPacket) : ICESocketSession × Bool :=
  if s.isShutdown then (s, false)
  else if isRequester requester s.mNominateRequester ∨ isRequester requester s.mAliveCheckRequester then
    s.handleNominatedResponse ext valid env requester response
  else
    match s.mCandidatePairs.find? fun pair => isRequester requester pair.mRequester with
    | none => (s, false)
    | some pairing => s.handlePairResponse ext valid env requester response pairing

/-- The requester manager and the requester before the session, and the requester after it. -/
def receiveResponse (s : ICESocketSession) (env : Env) (response : STUNPacket) : ICESocketSession :=
  match s.monitored.find? fun r =>
      r.mSTUNRequest.mMagicCookie == response.mMagicCookie && r.id == response.mTransactionID with
  | none => s
  | some requester =>
    if response.isValidResponseTo ext.toExternals requester.mSTUNRequest requester.mUsingRFC.bit then
      let (s, success) := s.handleSTUNRequesterResponse ext valid env requester response
      if success then s.cancelRequesters [requester] else s
    else s

def onSTUNRequesterSendPacket (s : ICESocketSession) (requester : STUNRequester) : ICESocketSession :=
  let sendFrom (id : Option Nat) : ICESocketSession :=
    match s.pair? id with
    | none => { s with badState := true }
    | some pair =>
      s.sendTo (getViaLocalIP ext pair.mLocal) pair.mLocal.mType requester.mServerIP requester.mSTUNRequest
  if s.isShutdown then s
  else if isRequester requester s.mNominateRequester then sendFrom s.mPendingNominatation
  else if isRequester requester s.mAliveCheckRequester then sendFrom s.mNominated
  else
    match s.mCandidatePairs.find? fun pair => isRequester requester pair.mRequester with
    | none => s
    | some pair =>
      s.sendTo (getViaLocalIP ext pair.mLocal) pair.mLocal.mType requester.mServerIP requester.mSTUNRequest

end Responses

section Timers

/-- `canUnfreeze` of the founding session, for its pairs -/
def canUnfreeze : List CandidatePair → CandidatePair → Unfreeze
  | [], _ => .thawed
  | pairing :: pairings, derived =>
    if pairing.mLocal.mFoundation ≠ derived.mLocal.mFoundation then canUnfreeze pairings derived
    else if !isAddressEqualIgnoringIPv4Format ext pairing.mRemote.mIPAddress derived.mRemote.mIPAddress then
      canUnfreeze pairings derived
    else if pairing.mFailed then .failed
    else if !pairing.mReceivedRequest ∨ !pairing.mReceivedResponse then .frozen
    else .thawed

/-- The next pair to search, of those before the nominated one. -/
def activation (s : ICESocketSession) (env : Env) : List CandidatePair → Activation
  | [] => .nothing
  | pairing :: pairings =>
    if pairing.mRequester.isSome ∨ pairing.mReceivedResponse ∨ pairing.mFailed then activation s env pairings
    else if s.mFoundation then
      match canUnfreeze ext env.foundationPairs pairing with
      | .failed => .fail pairing
      | .frozen => activation s env pairings
      | .thawed => .search pairing
    else .search pairing

/-- The check of a pair; without a remote password it is a plain STUN request. -/
def checkRequest (s : ICESocketSession) (env : Env) (pairing : CandidatePair) : STUNPacket :=
  let request := STUNPacket.createRequest .binding env.transactionID
  if s.mRemotePassword ≠ [] then
    s.withRole { s.signed request with mPriorityIncluded := true, mPriority := pairing.mLocal.mPriority }
  else request

def activate (s : ICESocketSession) (env : Env) : ICESocketSession :=
  match s.activation ext env s.pairsAbove with
  | .nothing => s
  | .fail pairing => s.updatePair pairing.mID fun pair => { pair with mFailed := true }
  | .search pairing =>
    let requester : STUNRequester := ⟨s.checkRequest env pairing, pairing.mRemote.mIPAddress, s.checkRFC, 0⟩
    (s.watch requester).updatePair pairing.mID fun pair => { pair with mRequester := some requester }

def keepAliveIndication (s : ICESocketSession) (env : Env) : STUNPacket :=
  let indication := STUNPacket.createIndication .binding env.transactionID
  if s.mRemotePassword ≠ [] then s.signed indication else indication

def keepAlive (s : ICESocketSession) (env : Env) : ICESocketSession :=
  if s.mNominateRequester.isSome then s
  else
    match s.pair? s.mNominated with
    | none => s
    | some nominated =>
      if s.mLastSentData + s.mKeepAliveDuration > env.now then s
      else
        s.sendTo (getViaLocalIP ext nominated.mLocal) nominated.mLocal.mType nominated.mRemote.mIPAddress
          (s.keepAliveIndication env)

/-- The request of an alive check, which says that this side controls whatever its role. -/
def aliveCheckRequest (s : ICESocketSession) (env : Env) (nominated : CandidatePair) : STUNPacket :=
  let request := STUNPacket.createRequest .binding env.transactionID
  if s.mRemotePassword ≠ [] then
    { s.signed request with
      mIceControllingIncluded := true, mIceControlling := s.mConflictResolver
      mPriorityIncluded := true, mPriority := nominated.mLocal.mPriority }
  else request

/-- The alive check is due: nothing was heard for too long and nothing is under way. -/
def aliveCheckDue (s : ICESocketSession) (env : Env) : Bool :=
  s.mNominateRequester.isNone && s.mNominated.isSome &&
    !decide (s.mLastReceivedDataOrSTUN + s.mExpectSTUNOrDataWithinDuration > env.now) && s.mAliveCheckRequester.isNone

def expectData (s : ICESocketSession) (env : Env) : ICESocketSession :=
  if s.aliveCheckDue env then
    match s.pair? s.mNominated with
    | none => s
    | some nominated =>
      let requester : STUNRequester := ⟨s.aliveCheckRequest env nominated, nominated.mRemote.mIPAddress, s.checkRFC,
        s.mKeepAliveSTUNRequestTimeout⟩
      { s.watch requester with mAliveCheckRequester := some requester }
  else s

/-- The session was in the background for too long. -/
def backgrounded (s : ICESocketSession) (env : Env) : Bool :=
  s.mBackgroundingTimeout ≠ 0 && env.now - s.mLastActivity > s.mBackgroundingTimeout

def touch (s : ICESocketSession) (env : Env) : ICESocketSession :=
  if s.mBackgroundingTimeout ≠ 0 then { s with mLastActivity := env.now } else s

/-- What a timer does, when it is still the session's. -/
def onSessionTimer (s : ICESocketSession) (env : Env) : SessionTimer → ICESocketSession
  | .step => if s.mStepTimer then s.step ext env else s
  | .activate => if s.mActivateTimer then s.activate ext env else s
  | .keepAlive => if s.mKeepAliveTimer then s.keepAlive ext env else s
  | .expectingData => if s.mExpectingDataTimer then s.expectData env else s

def onTimer (s : ICESocketSession) (env : Env) (timer : SessionTimer) : ICESocketSession :=
  if s.isShutdown then s
  else if s.backgrounded env then (s.setError 599).cancel
  else (s.touch env).onSessionTimer ext env timer

end Timers

section Calls

def updateRemoteCandidates (s : ICESocketSession) (env : Env) (remoteCandidates : List Candidate) : ICESocketSession :=
  ({ s with mUpdatedRemoteCandidates := remoteCandidates }).step ext env

def endOfRemoteCandidates (s : ICESocketSession) (env : Env) : ICESocketSession :=
  ({ s with mEndOfRemoteCandidatesFlag := true }).step ext env

def onICESocketCandidatesChanged (s : ICESocketSession) (env : Env) : ICESocketSession :=
  if s.isShutdown then s
  else ({ s with mUpdatedLocalCandidates := env.socket.elim [] (·.localCandidates) }).step ext env

def setKeepAliveProperties (s : ICESocketSession) (sendKeepAliveIndications expectSTUNOrDataWithin
    keepAliveSTUNRequestTimeout backgroundingTimeout : Nat) : ICESocketSession :=
  { s.cancelRequesters s.mAliveCheckRequester.toList with
    mKeepAliveTimer := false
    mAliveCheckRequester := none
    mExpectingDataTimer := false
    mKeepAliveDuration := sendKeepAliveIndications
    mExpectSTUNOrDataWithinDuration := expectSTUNOrDataWithin
    mKeepAliveSTUNRequestTimeout := keepAliveSTUNRequestTimeout
    mBackgroundingTimeout := backgroundingTimeout }

/-- `handlePacket`: data that is not STUN -/
def handlePacket (s : ICESocketSession) (env : Env) (viaLocalIP : IPAddress) (viaTransport : Types) (source : IPAddress) :
    ICESocketSession × Bool :=
  if s.isShutdown then (s, false)
  else
    match s.pair? s.mNominated with
    | none => (s, false)
    | some nominated =>
      if isCandidateMatch ext nominated viaLocalIP viaTransport source then (s.noteActivity env, true) else (s, false)

end Calls

end ICESocketSession

end OpenPeer
