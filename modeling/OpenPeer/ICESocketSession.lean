import OpenPeer.ICECandidates

/-!
# The ICE session

The state of an ICE session and what moves it: STUN requests and indications, responses
to its own requests and their timeouts, its timers, the candidates of the two sides, data
and the end. What it hands to its socket is recorded, newest first, and so are the
requests it makes with the role it had. The notices to its delegate are left out.
-/
namespace OpenPeer

inductive ICESocketSessionStates where
  | pending | prepared | searching | nominating | nominated | shutdown
  deriving DecidableEq, Repr

/-- What is handed to the socket, and where it is to be sent from and to. -/
structure SentPacket where
  viaLocalIP : IPAddress
  viaTransport : Types
  destination : IPAddress
  packet : STUNPacket
  deriving DecidableEq

/-- What a session asks its ICE socket. -/
structure SocketState where
  shutdown : Bool := false
  error : UInt16 := 0
  localCandidates : List Candidate := []

/-- What a handler finds outside the session: the clock, the random number it draws for a
transaction ID, the socket when it is still there, the pairs of the founding session, and
whether the delegate takes a packet that is not ICE. -/
structure Env where
  now : Nat := 0
  transactionID : Vector UInt8 12 := Vector.replicate 12 0
  socket : Option SocketState := some {}
  foundationPairs : List CandidatePair := []
  delegateHandles : Bool := false

structure ICESocketSession where
  mCurrentState : ICESocketSessionStates := .pending
  mLastError : UInt16 := 0
  mDelegate : Bool := true
  mFoundation : Bool := false
  mLocalUsernameFrag : List UInt8
  mLocalPassword : List UInt8
  mRemoteUsernameFrag : List UInt8
  mRemotePassword : List UInt8
  mControl : ICEControls
  mConflictResolver : UInt64
  mActivateTimer : Bool := false
  mKeepAliveTimer : Bool := false
  mExpectingDataTimer : Bool := false
  mStepTimer : Bool := false
  mNominateRequester : Option STUNRequester := none
  mPendingNominatation : Option Nat := none
  mNominated : Option Nat := none
  mAliveCheckRequester : Option STUNRequester := none
  mLastSentData : Nat := 0
  mLastActivity : Nat := 0
  mLastReceivedDataOrSTUN : Nat := 0
  mKeepAliveDuration : Nat := 15000
  mExpectSTUNOrDataWithinDuration : Nat := 0
  mKeepAliveSTUNRequestTimeout : Nat := 0
  mBackgroundingTimeout : Nat := 0
  mCandidatePairs : List CandidatePair := []
  mUpdatedLocalCandidates : List Candidate := []
  mUpdatedRemoteCandidates : List Candidate := []
  mLocalCandidates : List Candidate := []
  mRemoteCandidates : List Candidate := []
  mEndOfRemoteCandidatesFlag : Bool := false
  /-- the number of the next pair -/
  nextPairID : Nat := 0
  /-- the requesters that the requester manager watches for this session -/
  monitored : List STUNRequester := []
  /-- the requesters made, each with the role at that time -/
  created : List (ICEControls × STUNRequester) := []
  sent : List SentPacket := []
  /-- the nominations that succeeded: the request, and the pair that was set -/
  nominations : List (Vector UInt8 12 × Option Nat) := []
  /-- an assertion of the code has thrown -/
  badState : Bool := false

namespace ICESocketSession

variable (ext : ICEExternals) (valid : STUNPacket → List UInt8 → Bool)

section Parts

def isShutdown (s : ICESocketSession) : Bool := s.mCurrentState == .shutdown

def pair? (s : ICESocketSession) (id : Option Nat) : Option CandidatePair :=
  s.mCandidatePairs.find? fun pair => some pair.mID == id

def updatePair (s : ICESocketSession) (id : Nat) (f : CandidatePair → CandidatePair) : ICESocketSession :=
  { s with mCandidatePairs := s.mCandidatePairs.map fun pair => if pair.mID = id then f pair else pair }

/-- `STUNRequester::cancel`, for the requesters that are there. -/
def cancelRequesters (s : ICESocketSession) (requesters : List STUNRequester) : ICESocketSession :=
  { s with monitored := s.monitored.filter fun r => !requesters.any fun r' => r.id == r'.id }

def setState (s : ICESocketSession) (state : ICESocketSessionStates) : ICESocketSession :=
  { s with mCurrentState := state }

def setError (s : ICESocketSession) (errorCode : UInt16) : ICESocketSession :=
  if s.mLastError ≠ 0 then s else { s with mLastError := errorCode }

/-- `sendTo` of the session -/
def sendTo (s : ICESocketSession) (viaLocalIP : IPAddress) (viaTransport : Types) (destination : IPAddress)
    (packet : STUNPacket) : ICESocketSession :=
  if s.isShutdown then s else { s with sent := ⟨viaLocalIP, viaTransport, destination, packet⟩ :: s.sent }

/-- `ISTUNRequester::create` for a request of this session -/
def watch (s : ICESocketSession) (requester : STUNRequester) : ICESocketSession :=
  { s with
    monitored := requester :: s.monitored
    created := (s.mControl, requester) :: s.created }

def pairRequesters (s : ICESocketSession) : List STUNRequester := s.mCandidatePairs.filterMap (·.mRequester)

def cancel (s : ICESocketSession) : ICESocketSession :=
  if s.isShutdown then s
  else
    { s.cancelRequesters (s.mAliveCheckRequester.toList ++ s.mNominateRequester.toList ++ s.pairRequesters) with
      mCurrentState := .shutdown
      mDelegate := false
      mFoundation := false
      mActivateTimer := false
      mKeepAliveTimer := false
      mExpectingDataTimer := false
      mAliveCheckRequester := none
      mStepTimer := false
      mNominateRequester := none
      mPendingNominatation := none
      mNominated := none
      mCandidatePairs := []
      mUpdatedLocalCandidates := []
      mUpdatedRemoteCandidates := []
      mLocalCandidates := []
      mRemoteCandidates := [] }

def resetPair (pair : CandidatePair) : CandidatePair :=
  { pair with mFailed := false, mReceivedRequest := false, mReceivedResponse := false, mRequester := none }

def switchRole (s : ICESocketSession) (newRole : ICEControls) : ICESocketSession :=
  if s.isShutdown then s
  else if newRole = s.mControl then s
  else
    { s.cancelRequesters s.pairRequesters with
      mControl := newRole
      mCandidatePairs := s.mCandidatePairs.map resetPair }

/-- The username of a request to the other side. -/
def username (s : ICESocketSession) : List UInt8 := s.mRemoteUsernameFrag ++ 58 :: s.mLocalUsernameFrag

/-- The request carries the role the session has. -/
def withRole (s : ICESocketSession) (request : STUNPacket) : STUNPacket :=
  if s.mControl = .controlling then
    { request with mIceControllingIncluded := true, mIceControlling := s.mConflictResolver }
  else { request with mIceControlledIncluded := true, mIceControlled := s.mConflictResolver }

def signed (s : ICESocketSession) (request : STUNPacket) : STUNPacket :=
  { request with mUsername := s.username, mPassword := s.mRemotePassword, mCredentialMechanism := .shortTerm }

end Parts

section Step

/-- The RFC of a check: that of ICE, or plain STUN when there is no remote password. -/
def checkRFC (s : ICESocketSession) : RFCs := if s.mRemotePassword ≠ [] then .rfc5245ICE else .rfc5389STUN

def stepSocket (s : ICESocketSession) (env : Env) : ICESocketSession × Bool :=
  match env.socket with
  | none => ((s.setError 412).cancel, false)
  | some socket =>
    if socket.shutdown then ((if socket.error ≠ 0 then s.setError socket.error else s).cancel, false)
    else if s.mLocalCandidates.length < 1 then ({ s with mUpdatedLocalCandidates := socket.localCandidates }, true)
    else (s, true)

/-- The candidates of one side: the list, what is left of the update, and the new ones. -/
def takeCandidates (current updated : List Candidate) : List Candidate × List Candidate × List Candidate :=
  if updated.length > 0 then
    let new := addedCandidates current updated
    if new.length > 0 ∨ (removedCandidates current updated).length > 0 then (updated, [], new)
    else (current, updated, new)
  else (current, updated, [])

def isNominating (s : ICESocketSession) (pair : CandidatePair) : Bool :=
  s.mNominated == some pair.mID || s.mPendingNominatation == some pair.mID

/-- The pairs are made, sorted and pruned. The first lot has remote candidates where local ones belong. -/
def stepPairs (s : ICESocketSession) (newLocals newRemotes : List Candidate) : ICESocketSession :=
  let swapped := assemblePairs s.nextPairID s.mRemoteCandidates newLocals
  let straight := assemblePairs (s.nextPairID + swapped.length) s.mLocalCandidates newRemotes
  let pruned := prunePairs ext s.isNominating (sortPairs s.mControl (s.mCandidatePairs ++ swapped ++ straight))
  { s.cancelRequesters (pruned.removed.filterMap (·.mRequester)) with
    mCandidatePairs := pruned.kept
    nextPairID := s.nextPairID + swapped.length + straight.length }

def withCandidates (s : ICESocketSession) (locals updatedLocals remotes updatedRemotes : List Candidate) :
    ICESocketSession :=
  { s with
    mLocalCandidates := locals, mUpdatedLocalCandidates := updatedLocals
    mRemoteCandidates := remotes, mUpdatedRemoteCandidates := updatedRemotes }

def stepCandidates (s : ICESocketSession) : ICESocketSession :=
  let (locals, updatedLocals, newLocals) := takeCandidates s.mLocalCandidates s.mUpdatedLocalCandidates
  let (remotes, updatedRemotes, newRemotes) := takeCandidates s.mRemoteCandidates s.mUpdatedRemoteCandidates
  let s := s.withCandidates locals updatedLocals remotes updatedRemotes
  if newLocals.length < 1 ∧ newRemotes.length < 1 then s else s.stepPairs ext newLocals newRemotes

/-- The pairs before the nominated one. -/
def pairsAbove (s : ICESocketSession) : List CandidatePair :=
  s.mCandidatePairs.takeWhile fun pair => s.mNominated != some pair.mID

def stepActivateTimer (s : ICESocketSession) (env : Env) : ICESocketSession :=
  if s.pairsAbove.any fun pair => !pair.mReceivedResponse && pair.mRequester.isNone && !pair.mFailed then
    if s.mActivateTimer then s else { s with mLastActivity := env.now, mActivateTimer := true }
  else { s with mActivateTimer := false }

/-- The search is given up when no candidate is to come and every pair has failed. -/
def stepEndSearch (s : ICESocketSession) : ICESocketSession × Bool :=
  if !s.mEndOfRemoteCandidatesFlag then (s, true)
  else if s.mNominated.isSome then (s, true)
  else if s.mCandidatePairs.any fun pair => !pair.mFailed then (s, true)
  -- `ICESocketSessionShutdownReason_CandidateSearchFailed`
  else ((s.setError 404).cancel, false)

def stepTimer (s : ICESocketSession) (env : Env) : ICESocketSession :=
  if s.mNominated.isNone then
    if s.mStepTimer then s else { s with mLastActivity := env.now, mStepTimer := true }
  else { s with mStepTimer := false }

def stepExpectingDataTimer (s : ICESocketSession) (env : Env) : ICESocketSession :=
  if s.mNominated.isSome ∧ s.mExpectSTUNOrDataWithinDuration ≠ 0 then
    if s.mExpectingDataTimer then s else { s with mLastActivity := env.now, mExpectingDataTimer := true }
  else { s with mExpectingDataTimer := false }

def stepKeepAliveTimer (s : ICESocketSession) (env : Env) : ICESocketSession :=
  if s.mNominated.isSome ∧ s.mKeepAliveDuration ≠ 0 then
    if s.mKeepAliveTimer then s else { s with mLastActivity := env.now, mKeepAliveTimer := true }
  else { s with mKeepAliveTimer := false }

/-- Once a pair is nominated no other is searched, whatever its priority. -/
def stepCancelLowerPriority (s : ICESocketSession) : ICESocketSession :=
  if s.mNominated.isNone then s
  else
    let others := s.mCandidatePairs.filter fun pair => s.mNominated != some pair.mID
    { s.cancelRequesters (others.filterMap (·.mRequester)) with
      mCandidatePairs := s.mCandidatePairs.map fun pair =>
        if s.mNominated = some pair.mID then pair else { pair with mRequester := none } }

/-- The end of `stepNominate`: the state, and whether the session is nominated. -/
def setFinalState (s : ICESocketSession) : ICESocketSession × Bool :=
  if s.mNominated.isSome then (s, true)
  else if s.mNominateRequester.isSome then (s.setState .nominating, false)
  else if s.mCandidatePairs.length > 0 then (s.setState .searching, false)
  else (s.setState .prepared, false)

def nominateRequest (s : ICESocketSession) (env : Env) (pairing : CandidatePair) : STUNPacket :=
  { s.signed (STUNPacket.createRequest .binding env.transactionID) with
    mIceControllingIncluded := true, mIceControlling := s.mConflictResolver
    mPriorityIncluded := true, mPriority := pairing.mLocal.mPriority
    mUseCandidateIncluded := true }

/-- The pair that is nominated next. -/
def nominee (s : ICESocketSession) : Option CandidatePair :=
  s.pairsAbove.find? fun pair => !pair.mFailed && pair.mReceivedRequest && pair.mReceivedResponse

def nominate (s : ICESocketSession) (env : Env) (pairing : CandidatePair) : ICESocketSession :=
  if s.mRemotePassword = [] then { s with mNominated := some pairing.mID }
  else
    let requester := ⟨s.nominateRequest env pairing, pairing.mRemote.mIPAddress, .rfc5245ICE, 0⟩
    { s.watch requester with
      mPendingNominatation := some pairing.mID
      mNominateRequester := some requester }

def stepNominate (s : ICESocketSession) (env : Env) : ICESocketSession × Bool :=
  if s.mNominateRequester.isSome then s.setFinalState
  else if s.mControl = .controlled then s.setFinalState
  else
    match s.nominee with
    | none => s.setFinalState
    | some pairing => (s.nominate env pairing).setFinalState

/-- The steps after the search is found not to be over. -/
def stepNominated (s : ICESocketSession) (env : Env) : ICESocketSession :=
  let s := s.stepTimer env
  let s := s.stepExpectingDataTimer env
  let s := s.stepKeepAliveTimer env
  let s := s.stepCancelLowerPriority
  let (s, nominated) := s.stepNominate env
  if nominated then s.setState .nominated else s

def step (s : ICESocketSession) (env : Env) : ICESocketSession :=
  if s.isShutdown then s.cancel
  else
    let (s, goesOn) := s.stepSocket env
    if !goesOn then s
    else
      let s := s.stepCandidates ext
      let s := s.stepActivateTimer env
      let (s, goesOn) := s.stepEndSearch
      if !goesOn then s else s.stepNominated env

end Step

end ICESocketSession

end OpenPeer
