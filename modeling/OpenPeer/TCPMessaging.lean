import OpenPeer.TransportStream
import OpenPeer.Framing

/-!
# Messages over TCP

One end of a TCP connection: buffers read from the send stream are framed into
a sending queue, which goes to the socket as far as the socket takes it; bytes
from the socket are collected in a receiving queue, and whole frames are written
to the receive stream.
-/
namespace OpenPeer

open Bytes

/-- The header of a stream buffer; only a channel header carries a number. -/
inductive StreamHeader where
  | plain
  | channel (mChannelID : UInt32)
  deriving DecidableEq, Repr

/-- The cast to a channel header. -/
def StreamHeader.convert : Option StreamHeader → Option UInt32
  | some (.channel id) => some id
  | _ => none

inductive SessionStates where
  | pending | connected | shuttingDown | shutdown
  deriving DecidableEq, Repr

namespace HTTPStatusCode

def noContent : UInt16 := 204
def preconditionFailed : UInt16 := 412
def expectationFailed : UInt16 := 417
def networkconnecttimeouterror : UInt16 := 599

end HTTPStatusCode

/-- What the socket answers to a send: how many bytes it took, or an error. -/
inductive SendOutcome where
  | sent (count : Nat)
  | error (message : String)
  deriving DecidableEq, Repr

/-- What the socket answers to a receive. -/
inductive ReceiveOutcome where
  | received (bytes : List UInt8)
  | error (message : String)
  deriving DecidableEq, Repr

structure TCPMessaging where
  mCurrentState : SessionStates
  mLastError : UInt16
  mLastErrorReason : String
  mReceiveStream : TransportStream StreamHeader
  mSendStream : TransportStream StreamHeader
  mFramesHaveChannelNumber : Bool
  mMaxMessageSizeInBytes : UInt32
  mConnectIssued : Bool
  mTCPWriteReady : Bool
  /-- Whether the socket is held, that is, open. -/
  mSocket : Bool
  mLingerTimer : Bool
  mGracefulShutdownReference : Bool
  mSendStreamSubscription : Bool
  /-- Whether there are delegates left to tell. -/
  mSubscriptions : Bool
  mSendingQueue : List UInt8
  mReceivingQueue : List UInt8
  /-- The states told to the delegates, oldest first. -/
  reported : List SessionStates
  deriving DecidableEq, Repr

namespace TCPMessaging

def receiveSize : Nat := 64 * 1024

def isShuttingdown (t : TCPMessaging) : Bool := t.mCurrentState == .shuttingDown

def isShutdown (t : TCPMessaging) : Bool := t.mCurrentState == .shutdown

def setState (t : TCPMessaging) (state : SessionStates) : TCPMessaging :=
  if state = t.mCurrentState then t else
  let t := { t with mCurrentState := state }
  let t := if t.mSubscriptions then { t with reported := t.reported ++ [state] } else t
  if state = .connected then { t with mSendStream := t.mSendStream.notifyReaderReadyToRead } else t

/-- The first error is kept. -/
def setError (t : TCPMessaging) (errorCode : UInt16) (reason : String) : TCPMessaging :=
  if t.mLastError ≠ 0 then t else { t with mLastError := errorCode, mLastErrorReason := reason }

def cancel (t : TCPMessaging) : TCPMessaging :=
  let t := t.setState .shuttingDown
  if t.mLingerTimer then { t with mGracefulShutdownReference := true } else
  let t := t.setState .shutdown
  { t with
    mGracefulShutdownReference := false
    mSubscriptions := false
    mReceiveStream := t.mReceiveStream.cancel
    mSendStream := t.mSendStream.cancel
    mSendStreamSubscription := false
    mSocket := false }

/-- Offer the sending queue to the socket; `true` when nothing is left in it. -/
def sendQueuedData (t : TCPMessaging) (outcome : SendOutcome) : Bool × Nat × TCPMessaging :=
  if t.mSendingQueue.length < 1 then (true, 0, t) else
  match outcome with
  | .sent count =>
    let sent := min count t.mSendingQueue.length
    let t := { t with mSendingQueue := t.mSendingQueue.drop sent }
    (decide (¬t.mSendingQueue.length > 0), sent, t)
  | .error message =>
    (false, 0, (t.setError HTTPStatusCode.networkconnecttimeouterror ("network error: " ++ message)).cancel)

/-- The bytes the socket took of the queue in one send. -/
def sentBytes (t : TCPMessaging) (outcome : SendOutcome) : List UInt8 :=
  match outcome with
  | .sent count => t.mSendingQueue.take count
  | .error _ => []

/-- The frame of one buffer; `none` when it has no channel header and needs one. -/
def frameBuffer (t : TCPMessaging) (buffer : List UInt8) (header : Option StreamHeader) : Option (List UInt8) :=
  if t.mFramesHaveChannelNumber then
    (StreamHeader.convert header).map fun id => toBE 4 id.toNat ++ toBE 4 buffer.length ++ buffer
  else
    some (toBE 4 buffer.length ++ buffer)

/-- An endpoint together with what its socket has taken and will answer. -/
structure Sending where
  endpoint : TCPMessaging
  outcomes : List SendOutcome
  taken : List UInt8
  deriving Repr

namespace Sending

/-- One `sendQueuedData`; the socket is only asked when there is something to send, and takes
nothing once its answers are used up. -/
def sendQueuedData (s : Sending) : Bool × Nat × Sending :=
  let outcome := s.outcomes.headD (.sent 0)
  let r := s.endpoint.sendQueuedData outcome
  let asked := ¬s.endpoint.mSendingQueue.length < 1
  (r.1, r.2.1,
    { endpoint := r.2.2
      outcomes := if asked then s.outcomes.tail else s.outcomes
      taken := s.taken ++ s.endpoint.sentBytes outcome })

/-- The loop over the buffers of the send stream, one turn for each. -/
def sendBuffers : Nat → Sending → Sending
  | 0, s => s
  | k + 1, s =>
    match s.endpoint.mSendStream.readBuffer with
    | (none, _) => s
    | (some (buffer, header), stream) =>
      let t := { s.endpoint with mSendStream := stream }
      match t.frameBuffer buffer header with
      | none =>
        { s with
          endpoint := (t.setError HTTPStatusCode.expectationFailed
            "expected channel header for sending buffer but was not given one").cancel }
      | some frame =>
        let r := { s with endpoint := { t with mSendingQueue := t.mSendingQueue ++ frame } }.sendQueuedData
        if r.1 then sendBuffers k r.2.2 else r.2.2

def sendDataNow (s : Sending) : Sending :=
  if s.endpoint.isShutdown then s else
  if ¬s.endpoint.mSocket then s else
  if ¬s.endpoint.mTCPWriteReady then s else
  let r := { s with endpoint := { s.endpoint with mTCPWriteReady := false } }.sendQueuedData
  if ¬r.1 then r.2.2 else
  if r.2.1 = 0 ∧ r.2.2.endpoint.mSendStream.getTotalReadBuffersAvailable < 1 then
    { r.2.2 with endpoint := { r.2.2.endpoint with mTCPWriteReady := true } }
  else
    sendBuffers r.2.2.endpoint.mSendStream.getTotalReadBuffersAvailable r.2.2

end Sending

/-- The send stream has something to read. -/
def onTransportStreamReaderReady (t : TCPMessaging) (outcomes : List SendOutcome) : Sending :=
  let s : Sending := ⟨t, outcomes, []⟩
  if t.isShutdown then s else s.sendDataNow

/-- The socket can take data. -/
def onWriteReady (t : TCPMessaging) (outcomes : List SendOutcome) : Sending :=
  if ¬t.mSocket then ⟨t, outcomes, []⟩ else
  let t := if t.mConnectIssued ∧ ¬t.isShuttingdown then
    { t with mConnectIssued := false }.setState .connected else t
  Sending.sendDataNow ⟨{ t with mTCPWriteReady := true }, outcomes, []⟩

/-- What one turn of the receive loop does: wait for more, fail, or take one message. -/
inductive Turn where
  | wait
  | tooLong
  | message (channel : UInt32) (bytes : List UInt8) (rest : List UInt8)
  deriving DecidableEq, Repr

/-- One turn over the receiving queue. The channel number is taken off before the length is
peeked, and put back when the frame is not complete. -/
def receiveTurn (t : TCPMessaging) (queue : List UInt8) : Turn :=
  let size := queue.length
  if size = 0 then .wait else
  let needingSize := if t.mFramesHaveChannelNumber then 4 + 4 else 4
  if size < needingSize then .wait else
  let channel := if t.mFramesHaveChannelNumber then UInt32.ofNat (ofBE (queue.take 4)) else 0
  let queue := if t.mFramesHaveChannelNumber then queue.drop 4 else queue
  let bufferSize := UInt32.ofNat (ofBE (queue.take 4))
  if size < needingSize + bufferSize.toNat then .wait else
  if bufferSize > t.mMaxMessageSizeInBytes then .tooLong else
  let queue := queue.drop 4
  .message channel (queue.take bufferSize.toNat) (queue.drop bufferSize.toNat)

theorem receiveTurn_rest (t : TCPMessaging) (queue : List UInt8) (channel : UInt32) (bytes rest : List UInt8)
    (h : t.receiveTurn queue = .message channel bytes rest) : rest.length < queue.length := by
  by_cases hpos : queue.length = 0
  · simp [receiveTurn, hpos] at h
  cases hch : t.mFramesHaveChannelNumber <;>
    simp only [receiveTurn, hpos, hch, Bool.false_eq_true, if_true, if_false] at h
  all_goals
    split at h
    · cases h
    split at h
    · cases h
    split at h
    · cases h
    cases h
    simp only [List.length_drop]
    omega

/-- The receive loop. -/
def receiveLoop (t : TCPMessaging) : TCPMessaging :=
  match h : t.receiveTurn t.mReceivingQueue with
  | .wait => t
  | .tooLong =>
    (t.setError HTTPStatusCode.preconditionFailed "read message size exceeds maximum buffer size allowed").cancel
  | .message channel bytes rest =>
    have := receiveTurn_rest t t.mReceivingQueue channel bytes rest h
    let header := if t.mFramesHaveChannelNumber then some (.channel channel) else none
    receiveLoop { t with mReceivingQueue := rest, mReceiveStream := t.mReceiveStream.write bytes header }
termination_by t.mReceivingQueue.length

/-- The socket has data. -/
def onReadReady (t : TCPMessaging) (outcome : ReceiveOutcome) : TCPMessaging :=
  if ¬t.mSocket then t else
  if t.isShutdown ∨ t.isShuttingdown then t else
  match outcome with
  | .error message =>
    (t.setError HTTPStatusCode.networkconnecttimeouterror ("network error: " ++ message)).cancel
  | .received bytes =>
    if bytes.length = 0 then
      (t.setError HTTPStatusCode.noContent "server issues shutdown on socket connection").cancel
    else
      { t with mReceivingQueue := t.mReceivingQueue ++ bytes }.receiveLoop

def onException (t : TCPMessaging) : TCPMessaging :=
  if ¬t.mSocket then t else
  (t.setError HTTPStatusCode.networkconnecttimeouterror "socket connection failure").cancel

def onTimer (t : TCPMessaging) : TCPMessaging := { t with mLingerTimer := false }.cancel

/-- Shut down, lingering for a while when the linger time is not negative. -/
def shutdown (t : TCPMessaging) (lingerTime : Int) : TCPMessaging :=
  if t.isShutdown then t else
  let t := if ¬t.mLingerTimer ∧ 0 ≤ lingerTime then { t with mLingerTimer := true } else t
  t.cancel

def setMaxMessageSizeInBytes (t : TCPMessaging) (maxMessageSizeInBytes : UInt32) : TCPMessaging :=
  { t with mMaxMessageSizeInBytes := maxMessageSizeInBytes }

/-- The object as its constructor leaves it. -/
def construct (receiveStream sendStream : TransportStream StreamHeader) (framesHaveChannelNumber : Bool)
    (maxMessageSizeInBytes : UInt32) : TCPMessaging where
  mCurrentState := .pending
  mLastError := 0
  mLastErrorReason := ""
  mReceiveStream := receiveStream
  mSendStream := sendStream
  mFramesHaveChannelNumber := framesHaveChannelNumber
  mMaxMessageSizeInBytes := maxMessageSizeInBytes
  mConnectIssued := false
  mTCPWriteReady := false
  mSocket := false
  mLingerTimer := false
  mGracefulShutdownReference := false
  mSendStreamSubscription := false
  mSubscriptions := true
  mSendingQueue := []
  mReceivingQueue := []
  reported := []

/-- The end that accepts a connection; `accepted` tells whether the socket could. -/
def accept (receiveStream sendStream : TransportStream StreamHeader) (framesHaveChannelNumber : Bool)
    (maxMessageSizeInBytes : UInt32) (accepted : Bool) : TCPMessaging :=
  let t := construct receiveStream sendStream framesHaveChannelNumber maxMessageSizeInBytes
  let t := if accepted then { t with mSocket := true } else t.shutdown 0
  { t with mSendStreamSubscription := true }.setState .connected

/-- The end that opens a connection; `failed` tells whether the socket refused at once. -/
def connect (receiveStream sendStream : TransportStream StreamHeader) (framesHaveChannelNumber : Bool)
    (maxMessageSizeInBytes : UInt32) (failed : Bool) : TCPMessaging :=
  let t := construct receiveStream sendStream framesHaveChannelNumber maxMessageSizeInBytes
  let t := { t with mConnectIssued := true, mSocket := true }
  let t := if failed then t.shutdown 0 else t
  { t with mSendStreamSubscription := true }

end TCPMessaging

end OpenPeer
