import OpenPeer.TCPMessaging
import OpenPeer.Runs

/-!
# Framing over TCP

A sender and a receiver joined by a socket that takes any part of what it is
offered and hands it over in pieces of any size. The bytes on their way are
always the frames of the messages still to be delivered, so what has been
delivered is a prefix of what was written.
-/
namespace OpenPeer

open Bytes Framing Runs

namespace TCPMessaging

section Frames

/-- The frame header is the channel number, when frames have one. -/
def headerLength (framesHaveChannelNumber : Bool) : Nat := if framesHaveChannelNumber then 4 else 0

/-- The framing both ends use. -/
def frameCode (framesHaveChannelNumber : Bool) : Code UInt8 (List UInt8 × List UInt8) :=
  lengthPrefixed (headerLength framesHaveChannelNumber)

/-- A buffer and its header as a frame. -/
def frameOf (framesHaveChannelNumber : Bool) (r : List UInt8 × Option StreamHeader) :
    List UInt8 × List UInt8 :=
  (if framesHaveChannelNumber then toBE 4 ((StreamHeader.convert r.2).getD 0).toNat else [], r.1)

/-- A frame as the buffer and header the receiver writes. -/
def recordOf (framesHaveChannelNumber : Bool) (m : List UInt8 × List UInt8) :
    List UInt8 × Option StreamHeader :=
  (m.2, if framesHaveChannelNumber then some (.channel (UInt32.ofNat (ofBE m.1))) else none)

/-- What the receiver is to write for a buffer: the channel only when frames have one. -/
def receivedAs (framesHaveChannelNumber : Bool) (r : List UInt8 × Option StreamHeader) :
    List UInt8 × Option StreamHeader :=
  (r.1, if framesHaveChannelNumber then r.2 else none)

/-- A buffer that may be written: a channel header if frames need one, and a size that fits. -/
structure Writable (framesHaveChannelNumber : Bool) (r : List UInt8 × Option StreamHeader) : Prop where
  channel : framesHaveChannelNumber → ∃ id, r.2 = some (.channel id)
  size : r.1.length < 256 ^ 4

variable {hasChannel : Bool} {r : List UInt8 × Option StreamHeader}

theorem frameOf_valid (h : Writable hasChannel r) : (frameCode hasChannel).Valid (frameOf hasChannel r) := by
  cases hasChannel <;> exact ⟨by simp [frameOf, headerLength], h.size⟩

theorem recordOf_frameOf (h : Writable hasChannel r) :
    recordOf hasChannel (frameOf hasChannel r) = receivedAs hasChannel r := by
  cases hasChannel with
  | false => rfl
  | true =>
    obtain ⟨id, hid⟩ := h.channel rfl
    have hlt := id.toNat_lt
    simp [recordOf, frameOf, receivedAs, hid, StreamHeader.convert, ofBE_toBE_of_lt 4 _ hlt]

theorem frameBuffer_eq (t : TCPMessaging) (h : Writable t.mFramesHaveChannelNumber r) :
    t.frameBuffer r.1 r.2 = some (lengthEncode (frameOf t.mFramesHaveChannelNumber r)) := by
  cases hch : t.mFramesHaveChannelNumber with
  | false => simp [frameBuffer, hch, frameOf, lengthEncode]
  | true =>
    obtain ⟨id, hid⟩ := h.channel hch
    simp [frameBuffer, hch, frameOf, lengthEncode, hid, StreamHeader.convert]

end Frames

section Receiving

/-- One turn of the receive loop reads one frame, and then checks its size. -/
theorem receiveTurn_eq (t : TCPMessaging) (queue : List UInt8) :
    t.receiveTurn queue = match (frameCode t.mFramesHaveChannelNumber).next queue with
      | none => .wait
      | some (m, rest) =>
        if UInt32.ofNat m.2.length > t.mMaxMessageSizeInBytes then .tooLong
        else .message (UInt32.ofNat (ofBE m.1)) m.2 rest := by
  have hword (l : List UInt8) : (UInt32.ofNat (ofBE (l.take 4))).toNat = ofBE (l.take 4) := by
    have hlt := ofBE_lt (l.take 4)
    have hpow : 256 ^ (l.take 4).length ≤ 256 ^ 4 :=
      Nat.pow_le_pow_right (by decide) (by rw [List.length_take]; omega)
    rw [UInt32.toNat_ofNat', Nat.mod_eq_of_lt (by omega)]
  by_cases hzero : queue.length = 0
  · have hnil := List.eq_nil_of_length_eq_zero hzero
    subst hnil
    rw [next_nil]
    rfl
  have hsize (l : List UInt8) (k n : Nat) (h : k + n ≤ l.length) : ((l.drop k).take n).length = n :=
    length_slice l k n h
  cases hch : t.mFramesHaveChannelNumber with
  | false =>
    have hword0 := hword queue
    simp only [receiveTurn, hch, hzero, Bool.false_eq_true, if_false, hword0]
    by_cases hneed : queue.length < 4
    · rw [if_pos hneed, show (frameCode false).next queue = none from
        lengthNext_none 0 queue (Or.inl (by omega))]
    by_cases hfull : queue.length < 4 + ofBE (queue.take 4)
    · rw [if_neg hneed, if_pos hfull, show (frameCode false).next queue = none from
        lengthNext_none 0 queue (Or.inr (by simpa [slice] using hfull))]
    · have hnext := lengthNext_some 0 queue (by simpa [slice] using hfull)
      simp only [slice, List.drop_zero, Nat.zero_add, List.take_zero] at hnext
      rw [if_neg hneed, if_neg hfull, show (frameCode false).next queue = _ from hnext]
      simp only [List.drop_drop, hsize queue 4 _ (Nat.le_of_not_lt hfull)]
      rfl
  | true =>
    have hword4 := hword (queue.drop 4)
    simp only [receiveTurn, hch, hzero, if_true, if_false, hword4]
    by_cases hneed : queue.length < 4 + 4
    · rw [if_pos hneed, show (frameCode true).next queue = none from
        lengthNext_none 4 queue (Or.inl hneed)]
    by_cases hfull : queue.length < 4 + 4 + ofBE ((queue.drop 4).take 4)
    · rw [if_neg hneed, if_pos hfull, show (frameCode true).next queue = none from
        lengthNext_none 4 queue (Or.inr hfull)]
    · have hnext := lengthNext_some 4 queue (Nat.le_of_not_lt hfull)
      simp only [slice] at hnext
      rw [if_neg hneed, if_neg hfull, show (frameCode true).next queue = _ from hnext]
      simp only [List.drop_drop, hsize queue 8 _ (Nat.le_of_not_lt hfull), Nat.reduceAdd]

/-- Write the messages of some frames, in order. -/
def deliver (hasChannel : Bool) (stream : TransportStream StreamHeader)
    (ms : List (List UInt8 × List UInt8)) : TransportStream StreamHeader :=
  ms.foldl (fun stream m => stream.write (recordOf hasChannel m).1 (recordOf hasChannel m).2) stream

theorem deliver_records (hasChannel : Bool) (stream : TransportStream StreamHeader)
    (ms : List (List UInt8 × List UInt8)) (h : stream.Open) :
    (deliver hasChannel stream ms).Open ∧
      (deliver hasChannel stream ms).records = stream.records ++ ms.map (recordOf hasChannel) := by
  induction ms generalizing stream with
  | nil => exact ⟨h, by simp [deliver]⟩
  | cons m ms ih =>
    obtain ⟨hopen, hrecords⟩ := ih (stream.write (recordOf hasChannel m).1 (recordOf hasChannel m).2)
      (h.write _ _)
    refine ⟨hopen, ?_⟩
    rw [deliver, List.foldl_cons, ← deliver, hrecords, TransportStream.write_records h]
    simp

/-- While no frame is too long, the receive loop delivers every whole frame and keeps the rest. -/
theorem receiveLoop_drain (t : TCPMessaging) (ms : List (List UInt8 × List UInt8)) (rest : List UInt8)
    (hdrain : drain (frameCode t.mFramesHaveChannelNumber) t.mReceivingQueue = (ms, rest))
    (hmax : ∀ m ∈ ms, m.2.length ≤ t.mMaxMessageSizeInBytes.toNat) :
    t.receiveLoop = { t with mReceivingQueue := rest,
                             mReceiveStream := deliver t.mFramesHaveChannelNumber t.mReceiveStream ms } := by
  induction ms generalizing t with
  | nil =>
    have hnone : (frameCode t.mFramesHaveChannelNumber).next t.mReceivingQueue = none := by
      cases hnext : (frameCode t.mFramesHaveChannelNumber).next t.mReceivingQueue with
      | none => rfl
      | some r => simp [drain_some _ _ r.1 r.2 hnext] at hdrain
    have hturn := receiveTurn_eq t t.mReceivingQueue
    rw [drain_none _ _ hnone] at hdrain
    rw [hnone] at hturn
    rw [receiveLoop]
    split
    · cases hdrain
      rfl
    · next h => rw [hturn] at h; cases h
    · next h => rw [hturn] at h; cases h
  | cons m ms ih =>
    cases hnext : (frameCode t.mFramesHaveChannelNumber).next t.mReceivingQueue with
    | none => simp [drain_none _ _ hnext] at hdrain
    | some r =>
      rw [drain_some _ _ r.1 r.2 hnext] at hdrain
      simp only [Prod.mk.injEq, List.cons.injEq] at hdrain
      obtain ⟨⟨hm, hms⟩, hrest⟩ := hdrain
      subst hm
      have hfit := hmax r.1 List.mem_cons_self
      have hok : ¬UInt32.ofNat r.1.2.length > t.mMaxMessageSizeInBytes := by
        have hlt := t.mMaxMessageSizeInBytes.toNat_lt
        rw [gt_iff_lt, UInt32.lt_iff_toNat_lt, UInt32.toNat_ofNat', Nat.mod_eq_of_lt (by omega)]
        omega
      have hturn := receiveTurn_eq t t.mReceivingQueue
      rw [hnext] at hturn
      simp only [if_neg hok] at hturn
      rw [receiveLoop]
      split
      · next h => rw [hturn] at h; cases h
      · next h => rw [hturn] at h; cases h
      · next h =>
        rw [hturn] at h
        cases h
        exact ih _ (by rw [← hms, ← hrest]) fun x hx => hmax x (List.mem_cons_of_mem _ hx)

end Receiving

section Sending

/-- Connected, without an error, with both streams open. -/
structure Live (t : TCPMessaging) : Prop where
  connected : t.mCurrentState = .connected
  noError : t.mLastError = 0
  socket : t.mSocket = true
  sendOpen : t.mSendStream.Open
  receiveOpen : t.mReceiveStream.Open

/-- What is to reach the peer's queue: bytes taken, bytes queued, and the frames of the buffers. -/
def outgoing (s : Sending) : List UInt8 :=
  s.taken ++ s.endpoint.mSendingQueue ++ encodeAll (frameCode s.endpoint.mFramesHaveChannelNumber)
    (s.endpoint.mSendStream.records.map (frameOf s.endpoint.mFramesHaveChannelNumber))

/-- Sending moves bytes on, and touches nothing else. -/
structure Forwards (s s' : Sending) : Prop where
  outgoing : outgoing s' = outgoing s
  live : s'.endpoint.Live
  hasChannel : s'.endpoint.mFramesHaveChannelNumber = s.endpoint.mFramesHaveChannelNumber
  maxSize : s'.endpoint.mMaxMessageSizeInBytes = s.endpoint.mMaxMessageSizeInBytes
  receivingQueue : s'.endpoint.mReceivingQueue = s.endpoint.mReceivingQueue
  receiveStream : s'.endpoint.mReceiveStream = s.endpoint.mReceiveStream
  records : s'.endpoint.mSendStream.records <:+ s.endpoint.mSendStream.records

/-- The socket only ever answers with a count. -/
def Counts (outcomes : List SendOutcome) : Prop := ∀ o ∈ outcomes, ∃ n, o = .sent n

variable (s : Sending)

theorem Forwards.refl (h : s.endpoint.Live) : Forwards s s :=
  ⟨rfl, h, rfl, rfl, rfl, rfl, List.suffix_refl _⟩

theorem Forwards.trans {a b c : Sending} (hab : Forwards a b) (hbc : Forwards b c) : Forwards a c :=
  ⟨hbc.outgoing.trans hab.outgoing, hbc.live, hbc.hasChannel.trans hab.hasChannel,
    hbc.maxSize.trans hab.maxSize, hbc.receivingQueue.trans hab.receivingQueue,
    hbc.receiveStream.trans hab.receiveStream, hbc.records.trans hab.records⟩

/-- Only the bytes queued and taken change in one offer to the socket. -/
theorem sendQueuedData_forwards (hlive : s.endpoint.Live) (hcounts : Counts s.outcomes) :
    Forwards s s.sendQueuedData.2.2 ∧ Counts s.sendQueuedData.2.2.outcomes ∧
      s.sendQueuedData.2.2.endpoint.mSendStream = s.endpoint.mSendStream := by
  obtain ⟨n, hn⟩ : ∃ n, s.outcomes.headD (.sent 0) = .sent n := by
    cases hs : s.outcomes with
    | nil => exact ⟨0, rfl⟩
    | cons o os => exact hcounts o (by rw [hs]; exact List.mem_cons_self)
  have hcounts' : Counts (if ¬s.endpoint.mSendingQueue.length < 1 then s.outcomes.tail else s.outcomes) := by
    split
    · intro o ho
      exact hcounts o (List.mem_of_mem_tail ho)
    · exact hcounts
  refine ⟨?_, hcounts', ?_⟩
  all_goals simp only [Sending.sendQueuedData, hn, TCPMessaging.sendQueuedData, sentBytes]
  · by_cases hempty : s.endpoint.mSendingQueue.length < 1
    · have hnil : s.endpoint.mSendingQueue = [] := List.eq_nil_of_length_eq_zero (by omega)
      simp only [if_pos hempty]
      refine ⟨?_, hlive, rfl, rfl, rfl, rfl, List.suffix_refl _⟩
      simp [TCPMessaging.outgoing, hnil]
    · simp only [if_neg hempty]
      refine ⟨?_, { hlive with },
        rfl, rfl, rfl, rfl, List.suffix_refl _⟩
      have hmin : s.endpoint.mSendingQueue.drop (min n s.endpoint.mSendingQueue.length)
          = s.endpoint.mSendingQueue.drop n := by
        by_cases hle : n ≤ s.endpoint.mSendingQueue.length
        · rw [Nat.min_eq_left hle]
        · rw [Nat.min_eq_right (by omega), List.drop_length, List.drop_eq_nil_of_le (by omega)]
      simp only [TCPMessaging.outgoing, hmin]
      rw [List.append_assoc s.taken, List.take_append_drop]
  · split <;> rfl

/-- The first buffer of the send stream as its frame at the end of the sending queue. -/
def queueFrame (s : Sending) (r : List UInt8 × Option StreamHeader) : Sending :=
  { s with endpoint := { s.endpoint with
    mSendStream := s.endpoint.mSendStream.readBuffer.2
    mSendingQueue := s.endpoint.mSendingQueue ++ lengthEncode (frameOf s.endpoint.mFramesHaveChannelNumber r) } }

variable (k : Nat)

theorem sendBuffers_cons (s : Sending) (hopen : s.endpoint.mSendStream.Open)
    (r : List UInt8 × Option StreamHeader) (rest : List (List UInt8 × Option StreamHeader))
    (hrecords : s.endpoint.mSendStream.records = r :: rest)
    (hr : Writable s.endpoint.mFramesHaveChannelNumber r) :
    Sending.sendBuffers (k + 1) s =
      if (queueFrame s r).sendQueuedData.1 then Sending.sendBuffers k (queueFrame s r).sendQueuedData.2.2
      else (queueFrame s r).sendQueuedData.2.2 := by
  obtain ⟨hread, hrest⟩ := TransportStream.readBuffer_records hopen.alive r.1 r.2 rest hrecords
  have hpair : s.endpoint.mSendStream.readBuffer = (some (r.1, r.2), s.endpoint.mSendStream.readBuffer.2) :=
    Prod.ext hread rfl
  have hframe := frameBuffer_eq { s.endpoint with mSendStream := s.endpoint.mSendStream.readBuffer.2 } hr
  rw [Sending.sendBuffers, hpair]
  simp only [hframe]
  rfl

theorem queueFrame_forwards (hlive : s.endpoint.Live) (r : List UInt8 × Option StreamHeader)
    (rest : List (List UInt8 × Option StreamHeader)) (hrecords : s.endpoint.mSendStream.records = r :: rest) :
    Forwards s (queueFrame s r) ∧ (queueFrame s r).endpoint.mSendStream.records = rest := by
  obtain ⟨-, hrest⟩ := TransportStream.readBuffer_records hlive.sendOpen.alive r.1 r.2 rest hrecords
  refine ⟨⟨?_, { hlive with sendOpen := hlive.sendOpen.readBuffer }, rfl, rfl, rfl, rfl, ?_⟩, hrest⟩
  · simp only [TCPMessaging.outgoing, queueFrame, hrest, hrecords, List.map_cons, encodeAll_cons,
      List.append_assoc]
    rfl
  · rw [hrecords]
    change s.endpoint.mSendStream.readBuffer.2.records <:+ r :: rest
    rw [hrest]
    exact List.suffix_cons r rest

theorem sendBuffers_forwards (s : Sending) (hlive : s.endpoint.Live) (hcounts : Counts s.outcomes)
    (hwritable : ∀ r ∈ s.endpoint.mSendStream.records, Writable s.endpoint.mFramesHaveChannelNumber r) :
    Forwards s (Sending.sendBuffers k s) := by
  induction k generalizing s with
  | zero => exact Forwards.refl s hlive
  | succ k ih =>
    cases hrecords : s.endpoint.mSendStream.records with
    | nil =>
      rw [Sending.sendBuffers, TransportStream.readBuffer_empty hrecords]
      exact Forwards.refl s hlive
    | cons r rest =>
      rw [sendBuffers_cons k s hlive.sendOpen r rest hrecords
        (hwritable r (by rw [hrecords]; exact List.mem_cons_self))]
      obtain ⟨hqueued, -⟩ := queueFrame_forwards s hlive r rest hrecords
      obtain ⟨hsend, hcounts', hstream⟩ := sendQueuedData_forwards (queueFrame s r) hqueued.live hcounts
      have hstep := hqueued.trans hsend
      split
      · refine hstep.trans (ih _ hstep.live hcounts' ?_)
        intro x hx
        rw [hstep.hasChannel]
        exact hwritable x (hstep.records.subset hx)
      · exact hstep

/-- The state in which `sendDataNow` makes its first offer. -/
def notReady (s : Sending) : Sending := { s with endpoint := { s.endpoint with mTCPWriteReady := false } }

theorem sendDataNow_eq (hlive : s.endpoint.Live) :
    s.sendDataNow =
      if ¬s.endpoint.mTCPWriteReady then s else
      if ¬(notReady s).sendQueuedData.1 then (notReady s).sendQueuedData.2.2 else
      if (notReady s).sendQueuedData.2.1 = 0 ∧
          (notReady s).sendQueuedData.2.2.endpoint.mSendStream.getTotalReadBuffersAvailable < 1 then
        { (notReady s).sendQueuedData.2.2 with
          endpoint := { (notReady s).sendQueuedData.2.2.endpoint with mTCPWriteReady := true } }
      else
        Sending.sendBuffers (notReady s).sendQueuedData.2.2.endpoint.mSendStream.getTotalReadBuffersAvailable
          (notReady s).sendQueuedData.2.2 := by
  rw [Sending.sendDataNow, if_neg (by simp [isShutdown, hlive.connected]), if_neg (by simp [hlive.socket])]
  rfl

theorem forwards_writeReady (b : Bool) {s x : Sending} (hx : Forwards s x) :
    Forwards s { x with endpoint := { x.endpoint with mTCPWriteReady := b } } :=
  ⟨hx.outgoing, ⟨hx.live.connected, hx.live.noError, hx.live.socket, hx.live.sendOpen, hx.live.receiveOpen⟩,
    hx.hasChannel, hx.maxSize, hx.receivingQueue, hx.receiveStream, hx.records⟩

theorem sendDataNow_forwards (hlive : s.endpoint.Live) (hcounts : Counts s.outcomes)
    (hwritable : ∀ r ∈ s.endpoint.mSendStream.records, Writable s.endpoint.mFramesHaveChannelNumber r) :
    Forwards s s.sendDataNow := by
  rw [sendDataNow_eq s hlive]
  have hcleared : Forwards s (notReady s) := forwards_writeReady false (Forwards.refl s hlive)
  obtain ⟨hsend, hcounts', hstream⟩ := sendQueuedData_forwards (notReady s) hcleared.live hcounts
  have hstep := hcleared.trans hsend
  split
  · exact Forwards.refl s hlive
  split
  · exact hstep
  split
  · exact forwards_writeReady true hstep
  · refine hstep.trans (sendBuffers_forwards _ _ hstep.live hcounts' ?_)
    intro x hx
    rw [hstep.hasChannel]
    exact hwritable x (hstep.records.subset hx)

theorem sendQueuedData_all (big n : Nat) (houtcomes : s.outcomes = List.replicate (n + 1) (.sent big))
    (hbig : s.endpoint.mSendingQueue.length ≤ big) :
    s.sendQueuedData.1 = true ∧ s.sendQueuedData.2.2.endpoint.mSendingQueue = [] ∧
      ∃ m, n ≤ m ∧ s.sendQueuedData.2.2.outcomes = List.replicate m (.sent big) := by
  by_cases hempty : s.endpoint.mSendingQueue.length < 1
  · have hnil : s.endpoint.mSendingQueue = [] := List.eq_nil_of_length_eq_zero (by omega)
    refine ⟨?_, ?_, n + 1, by omega, ?_⟩
    all_goals simp [Sending.sendQueuedData, TCPMessaging.sendQueuedData, hnil, houtcomes]
  · have hne : s.endpoint.mSendingQueue ≠ [] := by
      rintro hnil
      exact hempty (by rw [hnil]; decide)
    refine ⟨?_, ?_, n, Nat.le_refl n, ?_⟩
    · simp [Sending.sendQueuedData, TCPMessaging.sendQueuedData, houtcomes, List.replicate_succ, hne, hbig]
    · simp [Sending.sendQueuedData, TCPMessaging.sendQueuedData, houtcomes, List.replicate_succ, hne, hbig]
    · simp only [Sending.sendQueuedData, hempty, not_false_eq_true, if_true, houtcomes]
      rfl

/-- The length of all that is framed but not yet queued. -/
def framedLength (s : Sending) : Nat :=
  (encodeAll (frameCode s.endpoint.mFramesHaveChannelNumber)
    (s.endpoint.mSendStream.records.map (frameOf s.endpoint.mFramesHaveChannelNumber))).length

theorem sendBuffers_all (s : Sending) (big n : Nat) (hlive : s.endpoint.Live)
    (hwritable : ∀ r ∈ s.endpoint.mSendStream.records, Writable s.endpoint.mFramesHaveChannelNumber r)
    (hk : s.endpoint.mSendStream.records.length ≤ k) (hkn : k ≤ n)
    (houtcomes : s.outcomes = List.replicate n (.sent big)) (hqueue : s.endpoint.mSendingQueue = [])
    (hbig : framedLength s ≤ big) :
    (Sending.sendBuffers k s).endpoint.mSendingQueue = [] ∧
      (Sending.sendBuffers k s).endpoint.mSendStream.records = [] := by
  induction k generalizing s n with
  | zero => exact ⟨hqueue, List.eq_nil_of_length_eq_zero (Nat.le_zero.mp hk)⟩
  | succ k ih =>
    cases hrecords : s.endpoint.mSendStream.records with
    | nil =>
      rw [Sending.sendBuffers, TransportStream.readBuffer_empty hrecords]
      exact ⟨hqueue, hrecords⟩
    | cons r rest =>
      have hr : Writable s.endpoint.mFramesHaveChannelNumber r :=
        hwritable r (by rw [hrecords]; exact List.mem_cons_self)
      rw [sendBuffers_cons k s hlive.sendOpen r rest hrecords hr]
      obtain ⟨hqueued, hrest⟩ := queueFrame_forwards s hlive r rest hrecords
      have hsplit : framedLength s = (lengthEncode (frameOf s.endpoint.mFramesHaveChannelNumber r)).length
          + (encodeAll (frameCode s.endpoint.mFramesHaveChannelNumber)
            (rest.map (frameOf s.endpoint.mFramesHaveChannelNumber))).length := by
        rw [framedLength, hrecords, List.map_cons, encodeAll_cons, List.length_append]
        rfl
      have hfirst : (queueFrame s r).endpoint.mSendingQueue.length ≤ big := by
        simp only [queueFrame, hqueue, List.nil_append]
        omega
      obtain ⟨n', rfl⟩ : ∃ n', n = n' + 1 := ⟨n - 1, by omega⟩
      obtain ⟨hall, hempty, m, hm, houtcomes'⟩ := sendQueuedData_all (queueFrame s r) big n' houtcomes hfirst
      have hcounts : Counts (queueFrame s r).outcomes := by
        intro o ho
        change o ∈ s.outcomes at ho
        rw [houtcomes] at ho
        exact ⟨big, (List.mem_replicate.mp ho).2⟩
      obtain ⟨hsend, -, hstream⟩ := sendQueuedData_forwards (queueFrame s r) hqueued.live hcounts
      have hrecords' : (queueFrame s r).sendQueuedData.2.2.endpoint.mSendStream.records = rest := by
        rw [hstream, hrest]
      have hstep := hqueued.trans hsend
      rw [if_pos hall]
      refine ih _ m hsend.live ?_ ?_ (by omega) houtcomes' hempty ?_
      · intro x hx
        rw [hstep.hasChannel]
        exact hwritable x (hstep.records.subset hx)
      · rw [hrecords, List.length_cons] at hk
        rw [hrecords']
        omega
      · rw [framedLength, hstep.hasChannel, hrecords']
        omega

/-- When the socket reports it can take data, and takes all it is offered, everything leaves. -/
theorem sendDataNow_all (big n : Nat) (hlive : s.endpoint.Live) (hready : s.endpoint.mTCPWriteReady = true)
    (hwritable : ∀ r ∈ s.endpoint.mSendStream.records, Writable s.endpoint.mFramesHaveChannelNumber r)
    (houtcomes : s.outcomes = List.replicate (n + 1) (.sent big))
    (hn : s.endpoint.mSendStream.records.length ≤ n)
    (hbig : s.endpoint.mSendingQueue.length + framedLength s ≤ big) :
    s.sendDataNow.endpoint.mSendingQueue = [] ∧ s.sendDataNow.endpoint.mSendStream.records = [] := by
  have hcleared : Forwards s (notReady s) := forwards_writeReady false (Forwards.refl s hlive)
  have hcounts : Counts (notReady s).outcomes := by
    intro o ho
    change o ∈ s.outcomes at ho
    rw [houtcomes] at ho
    exact ⟨big, (List.mem_replicate.mp ho).2⟩
  obtain ⟨hsend, hcounts', hstream⟩ := sendQueuedData_forwards (notReady s) hcleared.live hcounts
  obtain ⟨hall, hempty, m, hm, houtcomes'⟩ := sendQueuedData_all (notReady s) big n houtcomes
    (by change s.endpoint.mSendingQueue.length ≤ big; omega)
  have hrecords : (notReady s).sendQueuedData.2.2.endpoint.mSendStream.records
      = s.endpoint.mSendStream.records := by
    rw [hstream]
    rfl
  have hcount : (notReady s).sendQueuedData.2.2.endpoint.mSendStream.getTotalReadBuffersAvailable
      = s.endpoint.mSendStream.records.length := by
    rw [hstream]
    simp [notReady, TransportStream.getTotalReadBuffersAvailable, TransportStream.records]
  rw [sendDataNow_eq s hlive, if_neg (by simp [hready]), if_neg (by simp [hall])]
  split
  · next hnone =>
    refine ⟨hempty, ?_⟩
    change (notReady s).sendQueuedData.2.2.endpoint.mSendStream.records = []
    rw [hrecords]
    exact List.eq_nil_of_length_eq_zero (by omega)
  · refine sendBuffers_all _ _ big m hsend.live ?_ ?_ ?_ houtcomes' hempty ?_
    · intro x hx
      rw [hsend.hasChannel]
      rw [hrecords] at hx
      exact hwritable x hx
    · rw [hrecords]
      exact Nat.le_of_eq hcount.symm
    · exact Nat.le_trans (Nat.le_of_eq hcount) (by omega)
    · rw [framedLength, hsend.hasChannel, hrecords]
      change framedLength s ≤ big
      omega

end Sending

end TCPMessaging

end OpenPeer
