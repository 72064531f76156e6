import OpenPeer.TCPMessagingFraming
import OpenPeer.TransportStreamFifo

/-!
# What happens to a TCP connection

Everything that can happen to one end: the socket, the send stream and the linger timer
report, the owner calls it and uses the streams. Sending moves bytes and may end in an
error; nothing else of the end is touched by it.
-/
namespace OpenPeer

open Bytes Framing Runs

inductive TCPEvent where
  | readReady (outcome : ReceiveOutcome)
  | writeReady (outcomes : List SendOutcome)
  | exception
  | readerReady (outcomes : List SendOutcome)
  | timer
  | shutdown (lingerTime : Int)
  | setMaxMessageSizeInBytes (maxMessageSizeInBytes : UInt32)
  | useSendStream (call : StreamCall StreamHeader)
  | useReceiveStream (call : StreamCall StreamHeader)
  deriving DecidableEq, Repr

/-- How an end comes about. -/
inductive TCPOpening where
  | accept (receiveStream sendStream : TransportStream StreamHeader) (framesHaveChannelNumber : Bool)
    (maxMessageSizeInBytes : UInt32) (accepted : Bool)
  | connect (receiveStream sendStream : TransportStream StreamHeader) (framesHaveChannelNumber : Bool)
    (maxMessageSizeInBytes : UInt32) (failed : Bool)
  deriving DecidableEq, Repr

namespace TransportStream

@[simp] theorem write_mShutdown {η : Type} (s : TransportStream η) (buffer : List UInt8) (header : Option η) :
    (s.write buffer header).mShutdown = s.mShutdown := by
  unfold write
  split
  · rfl
  split
  · rfl
  · simp

@[simp] theorem notifyReaderReadyToRead_mShutdown {η : Type} (s : TransportStream η) :
    s.notifyReaderReadyToRead.mShutdown = s.mShutdown := by
  unfold notifyReaderReadyToRead
  split
  · rfl
  · simp

@[simp] theorem readBuffer_mShutdown {η : Type} (s : TransportStream η) :
    s.readBuffer.2.mShutdown = s.mShutdown := by
  unfold readBuffer
  split
  · rfl
  split
  · rfl
  · simp

theorem apply_mShutdown {η : Type} (s : TransportStream η) (call : StreamCall η) (h : s.mShutdown = true) :
    (call.apply s).mShutdown = true := by
  cases call with
  | write buffer header => simp [StreamCall.apply, h]
  | writeBytes buffer header => simp [StreamCall.apply, writeBytes, h]
  | writeWord value header endian => simp [StreamCall.apply, writeWord, writeBytes, h]
  | writeDWord value header endian => simp [StreamCall.apply, writeDWord, writeBytes, h]
  | block on => simp [StreamCall.apply, block, h]
  | read n => simp [StreamCall.apply, TransportStream.read, h]
  | readBuffer => simp [StreamCall.apply, h]
  | readWord endian => simp [StreamCall.apply, readWord, TransportStream.read, h]
  | readDWord endian => simp [StreamCall.apply, readDWord, TransportStream.read, h]
  | skip n => simp [StreamCall.apply, h]
  | peek n offset => exact h
  | notifyReaderReadyToRead => simp [StreamCall.apply, h]

end TransportStream

namespace TCPMessaging

def step (t : TCPMessaging) : TCPEvent → TCPMessaging
  | .readReady outcome => t.onReadReady outcome
  | .writeReady outcomes => (t.onWriteReady outcomes).endpoint
  | .exception => t.onException
  | .readerReady outcomes => (t.onTransportStreamReaderReady outcomes).endpoint
  -- the timer fires once, and only while there is one
  | .timer => if t.mLingerTimer then t.onTimer else t
  | .shutdown lingerTime => t.shutdown lingerTime
  | .setMaxMessageSizeInBytes size => t.setMaxMessageSizeInBytes size
  | .useSendStream call => { t with mSendStream := call.apply t.mSendStream }
  | .useReceiveStream call => { t with mReceiveStream := call.apply t.mReceiveStream }

/-- Only what is being sent differs. -/
structure SendingMoved (t u : TCPMessaging) : Prop where
  state : u.mCurrentState = t.mCurrentState
  error : u.mLastError = t.mLastError
  receiveStream : u.mReceiveStream = t.mReceiveStream
  sendStream : u.mSendStream.mShutdown = t.mSendStream.mShutdown
  hasChannel : u.mFramesHaveChannelNumber = t.mFramesHaveChannelNumber
  maxSize : u.mMaxMessageSizeInBytes = t.mMaxMessageSizeInBytes
  socket : u.mSocket = t.mSocket
  linger : u.mLingerTimer = t.mLingerTimer
  subscriptions : u.mSubscriptions = t.mSubscriptions
  receivingQueue : u.mReceivingQueue = t.mReceivingQueue
  reported : u.reported = t.reported

/-- The end goes on, or gives up with an error. -/
inductive EndsIn (u : TCPMessaging) : TCPMessaging → Prop where
  | on : EndsIn u u
  | failed (errorCode : UInt16) (reason : String) (hcode : errorCode ≠ 0) :
    EndsIn u (u.setError errorCode reason).cancel

variable {t u v : TCPMessaging} {s : Sending}

theorem SendingMoved.refl (t : TCPMessaging) : SendingMoved t t := by
  constructor <;> rfl

theorem SendingMoved.trans (h : SendingMoved t u) (h' : SendingMoved u v) : SendingMoved t v where
  state := h'.state.trans h.state
  error := h'.error.trans h.error
  receiveStream := h'.receiveStream.trans h.receiveStream
  sendStream := h'.sendStream.trans h.sendStream
  hasChannel := h'.hasChannel.trans h.hasChannel
  maxSize := h'.maxSize.trans h.maxSize
  socket := h'.socket.trans h.socket
  linger := h'.linger.trans h.linger
  subscriptions := h'.subscriptions.trans h.subscriptions
  receivingQueue := h'.receivingQueue.trans h.receivingQueue
  reported := h'.reported.trans h.reported

theorem sendQueuedData_cases (t : TCPMessaging) (outcome : SendOutcome) :
    ∃ u, SendingMoved t u ∧ EndsIn u (t.sendQueuedData outcome).2.2 ∧
      ((t.sendQueuedData outcome).1 = true → (t.sendQueuedData outcome).2.2 = u) := by
  unfold sendQueuedData
  split
  · exact ⟨t, .refl t, .on, fun _ => rfl⟩
  cases outcome with
  | sent count =>
    exact ⟨{ t with mSendingQueue := t.mSendingQueue.drop (min count t.mSendingQueue.length) },
      ⟨rfl, rfl, rfl, rfl, rfl, rfl, rfl, rfl, rfl, rfl, rfl⟩, .on, fun _ => rfl⟩
  | error message =>
    refine ⟨t, .refl t, .failed _ _ (by decide), ?_⟩
    intro h
    cases h

theorem sendBuffers_cases (k : Nat) (s : Sending) :
    ∃ u, SendingMoved s.endpoint u ∧ EndsIn u (Sending.sendBuffers k s).endpoint := by
  induction k generalizing s with
  | zero => exact ⟨s.endpoint, .refl _, .on⟩
  | succ k ih =>
    rw [Sending.sendBuffers]
    cases hread : s.endpoint.mSendStream.readBuffer with
    | mk buffer stream =>
      have hstream : stream.mShutdown = s.endpoint.mSendStream.mShutdown := by
        have hkept := TransportStream.readBuffer_mShutdown s.endpoint.mSendStream
        rwa [hread] at hkept
      cases buffer with
      | none => exact ⟨s.endpoint, .refl _, .on⟩
      | some r =>
        have hmoved : SendingMoved s.endpoint { s.endpoint with mSendStream := stream } :=
          ⟨rfl, rfl, rfl, hstream, rfl, rfl, rfl, rfl, rfl, rfl, rfl⟩
        simp only
        split
        · exact ⟨_, hmoved, .failed _ _ (by decide)⟩
        next frame hframe =>
          have hqueued : SendingMoved s.endpoint { s.endpoint with
              mSendStream := stream, mSendingQueue := s.endpoint.mSendingQueue ++ frame } :=
            ⟨rfl, rfl, rfl, hstream, rfl, rfl, rfl, rfl, rfl, rfl, rfl⟩
          obtain ⟨u, hu, hends, hall⟩ := sendQueuedData_cases
            { s.endpoint with mSendStream := stream, mSendingQueue := s.endpoint.mSendingQueue ++ frame }
            (s.outcomes.headD (.sent 0))
          split
          next hsent =>
            obtain ⟨v, hv, hends'⟩ := ih ({ s with endpoint := { s.endpoint with
              mSendStream := stream, mSendingQueue := s.endpoint.mSendingQueue ++ frame } }.sendQueuedData).2.2
            refine ⟨v, (hqueued.trans hu).trans ?_, hends'⟩
            rw [← hall hsent]
            exact hv
          next => exact ⟨u, hqueued.trans hu, hends⟩

theorem sendDataNow_cases (s : Sending) :
    ∃ u, SendingMoved s.endpoint u ∧ EndsIn u s.sendDataNow.endpoint := by
  unfold Sending.sendDataNow
  split
  · exact ⟨s.endpoint, .refl _, .on⟩
  split
  · exact ⟨s.endpoint, .refl _, .on⟩
  split
  · exact ⟨s.endpoint, .refl _, .on⟩
  have hready : SendingMoved s.endpoint { s.endpoint with mTCPWriteReady := false } :=
    ⟨rfl, rfl, rfl, rfl, rfl, rfl, rfl, rfl, rfl, rfl, rfl⟩
  obtain ⟨u, hu, hends, hall⟩ := sendQueuedData_cases { s.endpoint with mTCPWriteReady := false }
    (s.outcomes.headD (.sent 0))
  dsimp only
  split
  · exact ⟨u, hready.trans hu, hends⟩
  next hsent =>
    have hsame := hall (Decidable.not_not.mp hsent)
    split
    · refine ⟨{ u with mTCPWriteReady := true }, (hready.trans hu).trans
        ⟨rfl, rfl, rfl, rfl, rfl, rfl, rfl, rfl, rfl, rfl, rfl⟩, ?_⟩
      rw [← hsame]
      exact .on
    · obtain ⟨v, hv, hends'⟩ := sendBuffers_cases _
        ({ s with endpoint := { s.endpoint with mTCPWriteReady := false } }.sendQueuedData).2.2
      refine ⟨v, (hready.trans hu).trans ?_, hends'⟩
      rw [← hsame]
      exact hv

variable {l rest : List UInt8} {m : List UInt8 × List UInt8}

theorem next_body_lt {hasChannel : Bool} (h : (frameCode hasChannel).next l = some (m, rest)) :
    m.2.length < 256 ^ 4 := by
  change lengthNext (headerLength hasChannel) l = some (m, rest) at h
  simp only [lengthNext] at h
  split at h
  · cases h
  split at h
  · cases h
  next hsize hfit =>
    cases h
    rw [length_slice l _ _ (Nat.le_of_not_lt hfit)]
    have hlt := ofBE_lt (slice l (headerLength hasChannel) 4)
    rwa [length_slice l _ 4 (Nat.le_of_not_lt hsize)] at hlt

theorem tooLong_iff {hasChannel : Bool} (h : (frameCode hasChannel).next l = some (m, rest)) (size : UInt32) :
    UInt32.ofNat m.2.length > size ↔ size.toNat < m.2.length := by
  have hlt := next_body_lt h
  rw [gt_iff_lt, UInt32.lt_iff_toNat_lt, UInt32.toNat_ofNat', Nat.mod_eq_of_lt (by omega)]

section ReceiveLoop

variable {m : List UInt8 × List UInt8} {rest : List UInt8}

theorem receiveLoop_wait (h : (frameCode t.mFramesHaveChannelNumber).next t.mReceivingQueue = none) :
    t.receiveLoop = t := by
  have hturn := receiveTurn_eq t t.mReceivingQueue
  rw [h] at hturn
  rw [receiveLoop]
  split
  next => rfl
  next hnot => rw [hturn] at hnot; cases hnot
  next hnot => rw [hturn] at hnot; cases hnot

theorem receiveLoop_tooLong
    (h : (frameCode t.mFramesHaveChannelNumber).next t.mReceivingQueue = some (m, rest))
    (hlong : t.mMaxMessageSizeInBytes.toNat < m.2.length) :
    t.receiveLoop = (t.setError HTTPStatusCode.preconditionFailed
      "read message size exceeds maximum buffer size allowed").cancel := by
  have hturn := receiveTurn_eq t t.mReceivingQueue
  rw [h] at hturn
  simp only [if_pos ((tooLong_iff h _).mpr hlong)] at hturn
  rw [receiveLoop]
  split
  next hnot => rw [hturn] at hnot; cases hnot
  next => rfl
  next hnot => rw [hturn] at hnot; cases hnot

theorem receiveLoop_message
    (h : (frameCode t.mFramesHaveChannelNumber).next t.mReceivingQueue = some (m, rest))
    (hfit : m.2.length ≤ t.mMaxMessageSizeInBytes.toNat) :
    t.receiveLoop = receiveLoop { t with
      mReceivingQueue := rest
      mReceiveStream := deliver t.mFramesHaveChannelNumber t.mReceiveStream [m] } := by
  have hturn := receiveTurn_eq t t.mReceivingQueue
  have hnot : ¬UInt32.ofNat m.2.length > t.mMaxMessageSizeInBytes := by
    rw [tooLong_iff h]
    omega
  rw [h] at hturn
  simp only [if_neg hnot] at hturn
  rw [receiveLoop]
  split
  next hother => rw [hturn] at hother; cases hother
  next hother => rw [hturn] at hother; cases hother
  next hmessage =>
    rw [hturn] at hmessage
    cases hmessage
    rfl

/-- The end with some frames taken off its queue and their messages delivered. -/
def received (t : TCPMessaging) (ms : List (List UInt8 × List UInt8)) (queue : List UInt8) : TCPMessaging :=
  { t with mReceivingQueue := queue, mReceiveStream := deliver t.mFramesHaveChannelNumber t.mReceiveStream ms }

/-- How the receive loop ends: no whole frame is left, or the next one is too long. -/
inductive ReceiveEnd (t : TCPMessaging) (ms : List (List UInt8 × List UInt8)) (queue : List UInt8) :
    TCPMessaging → Prop where
  | waits (hdrain : drain (frameCode t.mFramesHaveChannelNumber) t.mReceivingQueue = (ms, queue)) :
    ReceiveEnd t ms queue (t.received ms queue)
  | tooLong (hlong : ∃ m ∈ (drain (frameCode t.mFramesHaveChannelNumber) t.mReceivingQueue).1,
      t.mMaxMessageSizeInBytes.toNat < m.2.length) :
    ReceiveEnd t ms queue ((t.received ms queue).setError HTTPStatusCode.preconditionFailed
      "read message size exceeds maximum buffer size allowed").cancel

/-- Messages that fit are delivered until the loop ends. -/
theorem receiveLoop_cases (t : TCPMessaging) :
    ∃ ms queue, (∀ m ∈ ms, m.2.length ≤ t.mMaxMessageSizeInBytes.toNat) ∧
      queue.length ≤ t.mReceivingQueue.length ∧ ReceiveEnd t ms queue t.receiveLoop := by
  induction hn : t.mReceivingQueue.length using Nat.strongRecOn generalizing t with
  | ind n ih =>
    cases hnext : (frameCode t.mFramesHaveChannelNumber).next t.mReceivingQueue with
    | none =>
      refine ⟨[], t.mReceivingQueue, by simp, by omega, ?_⟩
      rw [receiveLoop_wait hnext]
      exact .waits (drain_none _ _ hnext)
    | some r =>
      obtain ⟨m, rest⟩ := r
      have hdrain := drain_some _ _ m rest hnext
      have hshort := (frameCode t.mFramesHaveChannelNumber).next_length _ m rest hnext
      by_cases hfit : m.2.length ≤ t.mMaxMessageSizeInBytes.toNat
      · obtain ⟨ms, queue, hms, hqueue, hend⟩ := ih rest.length (by omega) (t.received [m] rest) rfl
        refine ⟨m :: ms, queue, ?_, by change queue.length ≤ rest.length at hqueue; omega, ?_⟩
        · intro x hx
          cases hx with
          | head => exact hfit
          | tail _ hx => exact hms x hx
        · rw [receiveLoop_message hnext hfit]
          change ReceiveEnd t (m :: ms) queue (t.received [m] rest).receiveLoop
          generalize (t.received [m] rest).receiveLoop = v at hend
          cases hend with
          | waits hrest =>
            refine .waits ?_
            rw [hdrain]
            exact congrArg (fun r => (m :: r.1, r.2)) hrest
          | tooLong hlong =>
            obtain ⟨x, hx, hsize⟩ := hlong
            refine .tooLong ⟨x, ?_, hsize⟩
            rw [hdrain]
            exact List.mem_cons_of_mem m hx
      · refine ⟨[], t.mReceivingQueue, by simp, by omega, ?_⟩
        rw [receiveLoop_tooLong hnext (by omega)]
        refine .tooLong ⟨m, ?_, by omega⟩
        rw [hdrain]
        exact List.mem_cons_self

end ReceiveLoop

end TCPMessaging

end OpenPeer
