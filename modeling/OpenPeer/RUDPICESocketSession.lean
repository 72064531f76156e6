import OpenPeer.ICESocketSession
import OpenPeer.Maps
import OpenPeer.Runs

/-!
# RUDP over an ICE session

The session keeps its channels under the number that packets to them carry, and under the
number that packets from them carry once the remote party has told it; those that the remote
party opened also wait to be accepted. A channel tells the session of its changes by notices
that are handled later, in the order in which they were made. What a channel does besides
changing its state is left open.
-/
namespace OpenPeer.RUDPSession

open Std

/-- `IRUDPChannel::RUDPChannelStates` -/
inductive RUDPChannelStates where
  | connecting | connected | shuttingDown | shutdown
  deriving DecidableEq, Repr

/-- `IRUDPICESocketSession::RUDPICESocketSessionStates` -/
inductive RUDPICESocketSessionStates where
  | pending | prepared | searching | ready | shuttingDown | shutdown
  deriving DecidableEq, Repr

/-- An open request is there from when it was made, complete or not. -/
structure RUDPChannel where
  mIncoming : Bool
  mCurrentState : RUDPChannelStates := .connecting
  mIncomingChannelNumber : Nat
  mOutgoingChannelNumber : Nat := 0
  mStream : Bool
  mOpenRequest : Option Bool := none
  deriving DecidableEq, Repr

/-- The channels of a session, each by its place among all there were. -/
structure Tables where
  mLocalChannelNumberSessions : ExtTreeMap Nat Nat := ∅
  mRemoteChannelNumberSessions : ExtTreeMap Nat Nat := ∅
  mPendingSessions : List Nat := []

structure RUDPICESocketSession extends Tables where
  mCurrentState : RUDPICESocketSessionStates := .pending
  mLastError : Nat := 0
  mICESession : Bool := true
  localUsernameFrag : String
  remoteUsernameFrag : String
  channels : Nat → RUDPChannel
  allocated : Nat := 0
  /-- The notices of the channels that are not handled yet, in order. -/
  notices : List (Nat × RUDPChannelStates) := []
  /-- The channels there were when the session was shut down. -/
  closedWith : Option Tables := none

namespace RUDPICESocketSession

def maxAttemptsToFindFreeChannelNumber : Nat := 5

def channelRangeStart : Nat := 0x6000

def channelRangeEnd : Nat := 0x7FFF

section Channels

def setChannel (s : RUDPICESocketSession) (channel : Nat) (f : RUDPChannel → RUDPChannel) : RUDPICESocketSession :=
  { s with channels := Function.update s.channels channel (f (s.channels channel)) }

/-- `RUDPChannel::setState` -/
def setChannelState (s : RUDPICESocketSession) (channel : Nat) (state : RUDPChannelStates) : RUDPICESocketSession :=
  if (s.channels channel).mCurrentState = state then s
  else
    { s.setChannel channel fun c => { c with mCurrentState := state } with
      notices := s.notices ++ [(channel, state)] }

/-- `RUDPChannel::cancel`; it finishes when the stream and the shutdown request that it waits for have ended. -/
def cancelChannel (s : RUDPICESocketSession) (channel : Nat) (finishes : Bool) : RUDPICESocketSession :=
  if (s.channels channel).mCurrentState = .shutdown then s
  else
    let s := s.setChannelState channel .shuttingDown
    let s := s.setChannel channel fun c => { c with mOpenRequest := c.mOpenRequest.filter fun isComplete => isComplete }
    if finishes ∨ (s.channels channel).mStream = false then
      (s.setChannelState channel .shutdown).setChannel channel fun c =>
        { c with mOpenRequest := none, mStream := false }
    else s

/-- `RUDPChannel::step` -/
def stepChannel (s : RUDPICESocketSession) (channel : Nat) (finishes : Bool) : RUDPICESocketSession :=
  match (s.channels channel).mCurrentState with
  | .shuttingDown | .shutdown => s.cancelChannel channel finishes
  | .connecting | .connected => if (s.channels channel).mStream then s.setChannelState channel .connected else s

def issueConnectIfNotIssued (s : RUDPICESocketSession) (channel : Nat) : RUDPICESocketSession :=
  match (s.channels channel).mCurrentState with
  | .shuttingDown | .shutdown => s
  | .connecting | .connected =>
    if (s.channels channel).mOpenRequest.isSome then s
    else s.setChannel channel fun c => { c with mOpenRequest := some false }

/-- The response to an open request that is good in every other way. -/
def openResponse (s : RUDPICESocketSession) (channel channelNumber : Nat) (finishes : Bool) : RUDPICESocketSession :=
  if (s.channels channel).mOpenRequest = some false ∧ channelNumber ≠ 0 then
    let s := s.setChannel channel fun c =>
      { c with mOpenRequest := some true, mOutgoingChannelNumber := channelNumber, mStream := true }
    s.stepChannel channel finishes
  else s

/-- A channel is cancelled, by its user, its stream, a timeout or an error; the remote party closing it drops its open
request before. -/
def closeChannel (s : RUDPICESocketSession) (channel : Nat) (dropsOpenRequest finishes : Bool) : RUDPICESocketSession :=
  (if dropsOpenRequest then s.setChannel channel fun c => { c with mOpenRequest := none } else s).cancelChannel channel
    finishes

end Channels

section Session

def isShuttingDown (s : RUDPICESocketSession) : Bool := s.mCurrentState = .shuttingDown

def isShutdown (s : RUDPICESocketSession) : Bool := s.mCurrentState = .shutdown

def isReady (s : RUDPICESocketSession) : Bool := s.mCurrentState = .ready

def setError (s : RUDPICESocketSession) (errorCode : Nat) : RUDPICESocketSession :=
  if s.mLastError ≠ 0 then s else { s with mLastError := errorCode }

/-- The channels are shut down, and the session waits until none is left. -/
def cancel (s : RUDPICESocketSession) (finishes : Nat → Bool) : RUDPICESocketSession :=
  if s.isShutdown then s
  else
    let s : RUDPICESocketSession :=
      s.mLocalChannelNumberSessions.toList.foldl (fun s entry => s.cancelChannel entry.2 (finishes entry.2))
        { s with mCurrentState := .shuttingDown }
    if ¬s.mLocalChannelNumberSessions.isEmpty then s
    else
      { s with
        mCurrentState := .shutdown
        mICESession := false
        closedWith := some s.toTables
        mLocalChannelNumberSessions := ∅
        mRemoteChannelNumberSessions := ∅
        mPendingSessions := [] }

/-- The ICE session says in which state it is when it is asked. -/
def step (s : RUDPICESocketSession) (state : ICESocketSessionStates) (finishes : Nat → Bool) : RUDPICESocketSession :=
  if s.isShuttingDown ∨ s.isShutdown then s.cancel finishes
  else
    match state with
    | .pending => s
    | .prepared => { s with mCurrentState := .prepared }
    | .searching | .nominating => { s with mCurrentState := .searching }
    | .nominated => { s with mCurrentState := .ready }
    | .shutdown => s.cancel finishes

def issueChannelConnectIfPossible (s : RUDPICESocketSession) : RUDPICESocketSession :=
  if s.isReady then
    s.mLocalChannelNumberSessions.toList.foldl
      (fun s entry =>
        if s.mRemoteChannelNumberSessions.contains (s.channels entry.2).mOutgoingChannelNumber then s
        else s.issueConnectIfNotIssued entry.2) s
  else s

/-- The first number drawn that no channel has, within the attempts there are. -/
def findFreeChannelNumber (s : RUDPICESocketSession) (generateBlock : Nat → Nat) : Option Nat :=
  ((List.range maxAttemptsToFindFreeChannelNumber).map fun tries =>
    generateBlock tries % (channelRangeEnd - channelRangeStart) + channelRangeStart).find? fun channelNumber =>
      !s.mLocalChannelNumberSessions.contains channelNumber

def allocate (s : RUDPICESocketSession) (channel : RUDPChannel) : RUDPICESocketSession :=
  { s with channels := Function.update s.channels s.allocated channel, allocated := s.allocated + 1 }

def openChannel (s : RUDPICESocketSession) (generateBlock : Nat → Nat) : RUDPICESocketSession × Option Nat :=
  if s.isShuttingDown ∨ s.isShutdown then (s, none)
  else if ¬s.mICESession then (s, none)
  else
    match s.findFreeChannelNumber generateBlock with
    | none => (s, none)
    | some channelNumber =>
      let session := s.allocated
      let s := s.allocate { mIncoming := false, mIncomingChannelNumber := channelNumber, mStream := false }
      let s := { s with mLocalChannelNumberSessions := s.mLocalChannelNumberSessions.insert channelNumber session }
      (s.issueChannelConnectIfPossible, some session)

def acceptChannel (s : RUDPICESocketSession) : RUDPICESocketSession × Option Nat :=
  match s.mPendingSessions with
  | [] => (s, none)
  | found :: pending => ({ s with mPendingSessions := pending }, some found)

def onICESocketSessionStateChanged (s : RUDPICESocketSession) (state : ICESocketSessionStates) (errorCode : Nat)
    (finishes : Nat → Bool) : RUDPICESocketSession :=
  if s.isShutdown then s
  else
    match state with
    | .shutdown => (if errorCode ≠ 0 then s.setError errorCode else s).cancel finishes
    | .nominated => s.issueChannelConnectIfPossible.step state finishes
    | _ => s.step state finishes

/-- The channel that a packet is handed to. -/
def handleICESocketSessionReceivedPacket (s : RUDPICESocketSession) (channelNumber : Nat) : Option Nat :=
  s.mLocalChannelNumberSessions[channelNumber]?

/-- The notice of a channel that is handled. -/
def onRUDPChannelStateChanged (s : RUDPICESocketSession) (channel : Nat) (notified : RUDPChannelStates)
    (state : ICESocketSessionStates) (finishes : Nat → Bool) : RUDPICESocketSession :=
  match notified with
  | .connecting | .shuttingDown => s.step state finishes
  | .connected =>
    if s.mLocalChannelNumberSessions.contains (s.channels channel).mIncomingChannelNumber then
      let channelNumber := (s.channels channel).mOutgoingChannelNumber
      let sessions := s.mRemoteChannelNumberSessions.insert channelNumber channel
      { s with mRemoteChannelNumberSessions := sessions }.step state finishes
    else s
  | .shutdown =>
    { s with
      mLocalChannelNumberSessions := Maps.eraseValue s.mLocalChannelNumberSessions channel
      mRemoteChannelNumberSessions := Maps.eraseValue s.mRemoteChannelNumberSessions channel
      mPendingSessions := s.mPendingSessions.erase channel }.step state finishes

end Session

section Requests

/-- What the session looks at of a STUN packet. -/
structure STUN where
  mClass : Classes
  mMethod : Methods
  mChannelNumber : Nat
  hasUsername : Bool
  hasMessageIntegrity : Bool
  hasNextSequenceNumber : Bool
  mLocalCongestionControl : List Nat
  mRemoteCongestionControl : List Nat
  mUsername : String

inductive Response where
  | success
  | error (mErrorCode : Nat)
  deriving DecidableEq

def errorCodeBadRequest : Nat := 400

def errorCodeUnauthorized : Nat := 401

def errorCodeInsufficientCapacity : Nat := 508

/-- What a request meets: the numbers drawn, whether a candidate is nominated, what the channel makes of it, and whether
the delegate is gone. -/
structure Meeting where
  generateBlock : Nat → Nat
  hasCandidate : Bool
  handled : Bool
  response : Option Response
  closesChannel : Bool
  delegateGone : Bool
  finishes : Nat → Bool

/-- `RUDPICESocketSessionShutdownReason_DelegateGone` -/
def delegateGoneReason : Nat := 410

/-- What is done with a STUN packet: the channel it is handed to, the response, and whether it was for the session. -/
structure Handling where
  handedTo : Option Nat := none
  response : Option Response := none
  handled : Bool

def handleUnknownChannel (s : RUDPICESocketSession) (stun : STUN) (meeting : Meeting) :
    RUDPICESocketSession × Option Response × Bool :=
  if s.isShuttingDown ∨ s.isShutdown then (s, none, false)
  else if ¬s.mICESession then (s, none, false)
  else if stun.mClass = .indication then (s, none, false)
  else if stun.mMethod ≠ .reliableChannelOpen then (s, some (.error errorCodeUnauthorized), true)
  else if ¬stun.hasUsername ∨ ¬stun.hasMessageIntegrity ∨ ¬stun.hasNextSequenceNumber ∨
      stun.mLocalCongestionControl.length < 1 ∨ stun.mRemoteCongestionControl.length < 1 then
    (s, some (.error errorCodeBadRequest), true)
  else if ':' ∉ stun.mUsername.toList then (s, some (.error errorCodeUnauthorized), true)
  else
    match s.findFreeChannelNumber meeting.generateBlock with
    | none => (s, some (.error errorCodeInsufficientCapacity), true)
    | some channelNumber =>
      if ¬meeting.hasCandidate then (s, none, false)
      else
        let session := s.allocated
        let s := s.allocate
          { mIncoming := true
            mIncomingChannelNumber := channelNumber
            mOutgoingChannelNumber := stun.mChannelNumber
            mStream := true }
        match meeting.response with
        | none => (s.cancelChannel session (meeting.finishes session), some (.error errorCodeBadRequest), true)
        | some (.error code) => (s.cancelChannel session (meeting.finishes session), some (.error code), true)
        | some .success =>
          let s :=
            { s with
              mLocalChannelNumberSessions := s.mLocalChannelNumberSessions.insert channelNumber session
              mRemoteChannelNumberSessions := s.mRemoteChannelNumberSessions.insert stun.mChannelNumber session
              mPendingSessions := s.mPendingSessions ++ [session] }
          if meeting.delegateGone then ((s.setError delegateGoneReason).cancel meeting.finishes, some .success, true)
          else (s, some .success, true)

/-- The response that is sent in the end. -/
def respond (stun : STUN) (handedTo : Option Nat) (response : Option Response) (handled : Bool) : Handling :=
  match response with
  | some response => { handedTo, response, handled := true }
  | none =>
    if handled then { handedTo, handled := true }
    else if stun.mClass = .request then { handedTo, response := some (.error errorCodeBadRequest), handled := true }
    else { handedTo, handled := false }

/-- Without the ICE session, which calls this, there is no call. -/
def handleICESocketSessionReceivedSTUNPacket (s : RUDPICESocketSession) (stun : STUN)
    (localUsernameFrag remoteUsernameFrag : String) (meeting : Meeting) : RUDPICESocketSession × Handling :=
  if ¬s.mICESession then (s, { handled := false })
  else if stun.mClass = .response ∨ stun.mClass = .errorResponse then (s, { handled := false })
  else if stun.mMethod ≠ .reliableChannelOpen ∧ stun.mMethod ≠ .reliableChannelACK then (s, { handled := false })
  else if ¬stun.hasUsername ∨ stun.mChannelNumber = 0 then (s, { handled := false })
  else if localUsernameFrag ≠ s.localUsernameFrag then (s, { handled := false })
  else
    match s.mRemoteChannelNumberSessions[stun.mChannelNumber]? with
    | some session =>
      let s := if meeting.closesChannel then s.closeChannel session true (meeting.finishes session) else s
      (s, respond stun (some session) meeting.response meeting.handled)
    | none =>
      if remoteUsernameFrag ≠ s.remoteUsernameFrag then (s, { handled := false })
      else
        let (s, response, handled) := s.handleUnknownChannel stun meeting
        (s, respond stun none response handled)

end Requests

section Runs

/-- What happens to a session and to its channels. -/
inductive Happening where
  | openChannel (generateBlock : Nat → Nat)
  | acceptChannel
  | shutdown (finishes : Nat → Bool)
  | iceStateChanged (state : ICESocketSessionStates) (errorCode : Nat) (finishes : Nat → Bool)
  | stun (stun : STUN) (localUsernameFrag remoteUsernameFrag : String) (meeting : Meeting)
  /-- the next notice is handled -/
  | notice (state : ICESocketSessionStates) (finishes : Nat → Bool)
  | wake (channel : Nat) (finishes : Bool)
  | openResponse (channel channelNumber : Nat) (finishes : Bool)
  | closeChannel (channel : Nat) (dropsOpenRequest finishes : Bool)

def start (localUsernameFrag remoteUsernameFrag : String) : RUDPICESocketSession where
  localUsernameFrag := localUsernameFrag
  remoteUsernameFrag := remoteUsernameFrag
  channels _ := { mIncoming := false, mIncomingChannelNumber := 0, mStream := false }

def after (s : RUDPICESocketSession) : Happening → RUDPICESocketSession
  | .openChannel generateBlock => (s.openChannel generateBlock).1
  | .acceptChannel => s.acceptChannel.1
  | .shutdown finishes => s.cancel finishes
  | .iceStateChanged state errorCode finishes => s.onICESocketSessionStateChanged state errorCode finishes
  | .stun stun localUsernameFrag remoteUsernameFrag meeting =>
    (s.handleICESocketSessionReceivedSTUNPacket stun localUsernameFrag remoteUsernameFrag meeting).1
  | .notice state finishes =>
    match s.notices with
    | [] => s
    | (channel, notified) :: notices =>
      { s with notices := notices }.onRUDPChannelStateChanged channel notified state finishes
  | .wake channel finishes => if channel < s.allocated then s.stepChannel channel finishes else s
  | .openResponse channel channelNumber finishes =>
    if channel < s.allocated then s.openResponse channel channelNumber finishes else s
  | .closeChannel channel dropsOpenRequest finishes =>
    if channel < s.allocated then s.closeChannel channel dropsOpenRequest finishes else s

end Runs

end RUDPICESocketSession

end OpenPeer.RUDPSession
