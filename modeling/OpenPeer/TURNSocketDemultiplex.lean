import OpenPeer.Runs
import OpenPeer.TURNSocketFrames

/-!
# Demultiplexing a TURN connection

The connection carries STUN packets and channel data, and the socket cuts it into reads.
A run of reads takes every frame out whole and in order, and keeps room in the buffer,
as long as no read ends in a STUN packet of which it has eight bytes and none ends with
as many bytes of one frame as the buffer holds.
-/
namespace OpenPeer

open Bytes Framing Runs TURNSocket

/-- What the application is to be given of a frame: the data of a legal data indication of the active
server, and that of a channel there is. -/
def TURNFrame.payload (ext : Externals) (context : TURNContext) : TURNFrame → Option (IPAddress × List UInt8)
  | .channelData channel data _ => (context.mChannelNumberMap channel).map fun peer => (peer, data)
  | .stun _ p =>
    if p.mClass = .indication ∧ p.mMethod = .data ∧ p.isLegal ext .rfc5766TURN ∧ context.isActiveServer then
      some (p.mPeerAddressList.headD .empty, p.mData.getD [])
    else none

def TURNFrame.packet : TURNFrame → Option STUNPacket
  | .stun _ p => some p
  | .channelData _ _ _ => none

def HandedOver.received : HandedOver → Option (IPAddress × List UInt8)
  | .receivedPacket peer data => some (peer, data)
  | .requesterManager _ => none

def HandedOver.managed : HandedOver → Option STUNPacket
  | .requesterManager stun => some stun
  | .receivedPacket _ _ => none

/-- What a list of frames leads to, the first of them being the one of number `i`. -/
def handedAll (ext : Externals) (context : Nat → TURNContext) : Nat → List TURNFrame → List HandedOver
  | _, [] => []
  | i, f :: fs => handOver ext (context i) f ++ handedAll ext context (i + 1) fs

/-- The framePayloads of a list of frames, the first of them being the one of number `i`. -/
def framePayloads (ext : Externals) (context : Nat → TURNContext) : Nat → List TURNFrame → List (IPAddress × List UInt8)
  | _, [] => []
  | i, f :: fs => (f.payload ext (context i)).toList ++ framePayloads ext context (i + 1) fs

section HandOver

variable {ext : Externals} {context : Nat → TURNContext}

theorem handOver_received (c : TURNContext) (f : TURNFrame) :
    (handOver ext c f).filterMap HandedOver.received = (f.payload ext c).toList := by
  cases f with
  | channelData channel data padding =>
    rw [handOver, TURNFrame.payload]
    cases c.mChannelNumberMap channel <;> rfl
  | stun bytes stun =>
    rw [handOver, TURNFrame.payload, List.filterMap_cons]
    unfold managerHandles
    cases hclass : stun.mClass with
    | request => simp [HandedOver.received]
    | response | errorResponse => cases hhandles : c.requesterHandles stun <;> simp [HandedOver.received]
    | indication =>
      by_cases hmethod : stun.mMethod = .data
      · cases hlegal : stun.isLegal ext .rfc5766TURN <;> cases hactive : c.isActiveServer <;>
          simp [HandedOver.received, hmethod]
      · simp [HandedOver.received, hmethod]

theorem handOver_managed (c : TURNContext) (f : TURNFrame) :
    (handOver ext c f).filterMap HandedOver.managed = f.packet.toList := by
  cases f with
  | channelData channel data padding =>
    rw [handOver]
    cases c.mChannelNumberMap channel <;> rfl
  | stun bytes stun =>
    have hdata : ∀ peer data, [HandedOver.receivedPacket peer data].filterMap HandedOver.managed = [] :=
      fun _ _ => rfl
    rw [handOver, List.filterMap_cons]
    dsimp only [HandedOver.managed, TURNFrame.packet, Option.toList]
    split
    · rfl
    · split
      · split_ifs <;> rfl
      · rfl

theorem handedAll_append (i : Nat) (as bs : List TURNFrame) :
    handedAll ext context i (as ++ bs) = handedAll ext context i as ++ handedAll ext context (i + as.length) bs := by
  induction as generalizing i with
  | nil => rfl
  | cons f fs ih =>
    rw [List.cons_append, handedAll, ih, handedAll, List.append_assoc, List.length_cons, Nat.add_assoc,
      Nat.add_comm 1]

theorem handedAll_received (i : Nat) (fs : List TURNFrame) :
    (handedAll ext context i fs).filterMap HandedOver.received = framePayloads ext context i fs := by
  induction fs generalizing i with
  | nil => rfl
  | cons f fs ih => rw [handedAll, List.filterMap_append, handOver_received, ih, framePayloads]

theorem handedAll_managed (i : Nat) (fs : List TURNFrame) :
    (handedAll ext context i fs).filterMap HandedOver.managed = fs.filterMap TURNFrame.packet := by
  induction fs generalizing i with
  | nil => rfl
  | cons f fs ih =>
    rw [handedAll, List.filterMap_append, handOver_managed, ih]
    cases f <;> rfl

end HandOver

section Loop

variable {ext : Externals} {range : ChannelRange} {context : Nat → TURNContext}

/-- The end of the loop: what is at the front of the buffer is no whole frame. -/
def settle (ext : Externals) (range : ChannelRange) (s : TURNReader) : TURNReader :=
  match bufferFront ext range s.mReadBuffer with
  | .bogus => { s with status := .bogusDataOnSocketReceived }
  | .threw fault => { s with status := .threw fault }
  | _ => s

/-- The loop takes out the frames there are. -/
theorem parseBuffer_drain (fuel : Nat) (s : TURNReader) (hroom : s.mReadBuffer.length ≤ readBufferSize)
    (hfuel : s.mReadBuffer.length ≤ fuel) :
    parseBuffer ext range context fuel s = settle ext range
      { s with
        mReadBuffer := (drain (turnCode ext range) s.mReadBuffer).2
        taken := s.taken + (drain (turnCode ext range) s.mReadBuffer).1.length
        handedOver := s.handedOver ++
          handedAll ext context s.taken (drain (turnCode ext range) s.mReadBuffer).1 } := by
  induction fuel generalizing s with
  | zero =>
    have hnil : s.mReadBuffer = [] := List.eq_nil_of_length_eq_zero (Nat.le_zero.mp hfuel)
    rw [parseBuffer, hnil, drain_none _ _ (next_nil _)]
    unfold settle
    have hfront : bufferFront ext range [] = .incomplete := rfl
    simp only [hfront, List.length_nil, Nat.add_zero, handedAll, List.append_nil]
    rw [← hnil]
  | succ fuel ih =>
    have hnext := @bufferFront_next ext range _ hroom
    rw [parseBuffer]
    cases hframe : nextFrame ext range s.mReadBuffer with
    | none =>
      rw [hframe] at hnext
      rw [drain_none (turnCode ext range) _ hframe]
      unfold settle
      simp only [List.length_nil, Nat.add_zero, handedAll, List.append_nil]
      cases hfront : bufferFront ext range s.mReadBuffer with
      | frame f size => exact absurd hfront (hnext f size)
      | incomplete | bogus | threw => rfl
    | some r =>
      obtain ⟨f, rest⟩ := r
      rw [hframe] at hnext
      obtain ⟨size, hfront, hfour, hle, rfl⟩ := hnext
      rw [drain_some (turnCode ext range) _ f _ hframe, hfront]
      have hlength : (s.mReadBuffer.drop size).length + 4 ≤ s.mReadBuffer.length := by
        rw [List.length_drop]
        omega
      dsimp only
      rw [ih _ (by dsimp only; omega) (by dsimp only; omega)]
      simp only [List.length_cons, handedAll, List.append_assoc, Nat.add_assoc, Nat.add_comm 1]

end Loop

section Runs

variable {ext : Externals} {range : ChannelRange} {context : Nat → TURNContext}

def TURNReader.start (ext : Externals) (range : ChannelRange) (fs : List TURNFrame) : TURNReader :=
  { pending := encodeAll (turnCode ext range) fs }

/-- The frame a position of the stream lies in, and how many bytes of it are before that position. -/
def partAt : List TURNFrame → Nat → Option (TURNFrame × Nat)
  | [], _ => none
  | f :: fs, p => if p < f.encode.length then some (f, p) else partAt fs (p - f.encode.length)

/-- A read may end here: not in a STUN packet of which there are eight bytes, and not with as many bytes
of a frame as the buffer holds. -/
def MayEnd : Option (TURNFrame × Nat) → Prop
  | none => True
  | some (f, k) => (f.isSTUN → k < 8) ∧ k < readBufferSize

instance : (part : Option (TURNFrame × Nat)) → Decidable (MayEnd part)
  | none => .isTrue trivial
  | some (f, k) => inferInstanceAs (Decidable ((f.isSTUN → k < 8) ∧ k < readBufferSize))

/-- How much of the stream is read when the next read is done. -/
def readUpTo (ext : Externals) (range : ChannelRange) (fs : List TURNFrame) (s : TURNReader) (n : Nat) : Nat :=
  (encodeAll (turnCode ext range) fs).length - s.pending.length + bytesRead s n

/-- A read that brings something ends where it may. -/
def CutOk (ext : Externals) (range : ChannelRange) (fs : List TURNFrame) (s : TURNReader) (n : Nat) : Prop :=
  bytesRead s n = 0 ∨ MayEnd (partAt fs (readUpTo ext range fs s n))

instance (fs : List TURNFrame) (s : TURNReader) (n : Nat) : Decidable (CutOk ext range fs s n) :=
  inferInstanceAs (Decidable (_ ∨ _))

/-- The frames of a stream were taken out so far, each whole and in order; the delegate has their
framePayloads and the requester manager their packets, nothing of what is left is a whole frame, and
there is room for more. -/
structure Demultiplexed (ext : Externals) (range : ChannelRange) (context : Nat → TURNContext) (fs : List TURNFrame)
    (s : TURNReader) : Prop where
  reading : s.status = .reading
  taken : s.taken ≤ fs.length
  received : s.handedOver.filterMap HandedOver.received = framePayloads ext context 0 (fs.take s.taken)
  managed : s.handedOver.filterMap HandedOver.managed = (fs.take s.taken).filterMap TURNFrame.packet
  left : s.mReadBuffer ++ s.pending = encodeAll (turnCode ext range) (fs.drop s.taken)
  unfinished : Unfinished (turnCode ext range) s.mReadBuffer (fs.drop s.taken)
  room : s.mReadBuffer.length < readBufferSize

/-- The same, with what was handed over as it was. -/
structure Taken (ext : Externals) (range : ChannelRange) (context : Nat → TURNContext) (fs : List TURNFrame)
    (s : TURNReader) : Prop where
  reading : s.status = .reading
  taken : s.taken ≤ fs.length
  handedOver : s.handedOver = handedAll ext context 0 (fs.take s.taken)
  left : s.mReadBuffer ++ s.pending = encodeAll (turnCode ext range) (fs.drop s.taken)
  unfinished : Unfinished (turnCode ext range) s.mReadBuffer (fs.drop s.taken)
  room : s.mReadBuffer.length < readBufferSize

theorem Taken.demultiplexed {fs : List TURNFrame} {s : TURNReader} (h : Taken ext range context fs s) :
    Demultiplexed ext range context fs s :=
  ⟨h.reading, h.taken, by rw [h.handedOver, handedAll_received], by rw [h.handedOver, handedAll_managed], h.left,
    h.unfinished, h.room⟩

theorem partAt_done (done todo : List TURNFrame) (k : Nat) :
    partAt (done ++ todo) ((encodeAll (turnCode ext range) done).length + k) = partAt todo k := by
  induction done with
  | nil => rw [encodeAll_nil, List.length_nil, Nat.zero_add, List.nil_append]
  | cons f fs ih =>
    have hlength : (encodeAll (turnCode ext range) (f :: fs)).length =
        f.encode.length + (encodeAll (turnCode ext range) fs).length := by
      rw [encodeAll_cons, List.length_append]
      rfl
    rw [List.cons_append, partAt, hlength, if_neg (by omega)]
    rw [show f.encode.length + (encodeAll (turnCode ext range) fs).length + k - f.encode.length =
      (encodeAll (turnCode ext range) fs).length + k by omega, ih]

theorem encode_pos (f : TURNFrame) (h : f.Valid ext range) : 0 < f.encode.length := by
  cases f with
  | stun bytes packet =>
    have htwenty := (acceptedHeader h.1).twenty
    exact lt_of_lt_of_le (by decide) htwenty
  | channelData channel data padding =>
    rw [length_channelData _ h.2.2.2.2]
    omega

/-- After the frames there are were taken out, the loop ends well just when what is left may be left. -/
theorem settle_unfinished {todo : List TURNFrame} (hvalid : ∀ f ∈ todo, f.Valid ext range) (s : TURNReader)
    (h : Unfinished (turnCode ext range) s.mReadBuffer todo) :
    (MayEnd (partAt todo s.mReadBuffer.length) → settle ext range s = s ∧ s.mReadBuffer.length < readBufferSize) ∧
      (¬MayEnd (partAt todo s.mReadBuffer.length) →
        (settle ext range s).status ≠ .reading ∨ readBufferSize ≤ (settle ext range s).mReadBuffer.length) := by
  rcases h with hnil | ⟨f, todo', rfl, hstart, hne⟩
  · have hfront : settle ext range s = s := by
      unfold settle
      rw [hnil]
      rfl
    rw [hfront, hnil]
    refine ⟨fun _ => ⟨rfl, by decide⟩, fun hnot => absurd ?_ hnot⟩
    cases todo with
    | nil => trivial
    | cons f fs =>
      rw [List.length_nil, partAt, if_pos (encode_pos f (hvalid f List.mem_cons_self))]
      exact ⟨fun _ => by decide, by decide⟩
  · have hstart : s.mReadBuffer <+: f.encode := hstart
    have hne : s.mReadBuffer ≠ f.encode := hne
    have hpart : s.mReadBuffer.length < f.encode.length := by
      apply lt_of_le_of_ne hstart.length_le
      exact fun heq => hne (hstart.eq_of_length heq)
    have hfront := bufferFront_part f (hvalid f List.mem_cons_self) hstart hpart
    rw [partAt, if_pos hpart]
    unfold settle
    rw [hfront]
    constructor
    · rintro ⟨hstun, hroom⟩
      rw [if_neg]
      · exact ⟨rfl, hroom⟩
      · rintro ⟨hs, height⟩
        exact absurd (hstun hs) (by omega)
    · intro hnot
      by_cases hstun : f.isSTUN = true ∧ 8 ≤ s.mReadBuffer.length
      · rw [if_pos hstun]
        exact .inl (fun h => nomatch h)
      · rw [if_neg hstun]
        refine .inr ?_
        by_contra hroom
        exact hnot ⟨fun hs => by by_contra hlt; exact hstun ⟨hs, by omega⟩, by dsimp only at hroom; omega⟩

/-- One read: a state that is fine stays fine when the read ends where it may, and only then. -/
theorem onReadReady_taken {fs : List TURNFrame} (hvalid : ∀ f ∈ fs, f.Valid ext range) {s : TURNReader}
    (h : Taken ext range context fs s) (n : Nat) :
    (CutOk ext range fs s n → Taken ext range context fs (onReadReady ext range context s n)) ∧
      (¬CutOk ext range fs s n → ¬Demultiplexed ext range context fs (onReadReady ext range context s n)) := by
  unfold onReadReady
  rw [if_neg (fun hne => hne h.reading)]
  by_cases hzero : bytesRead s n = 0
  · rw [if_pos hzero]
    exact ⟨fun _ => h, fun hnot => absurd (.inl hzero) hnot⟩
  rw [if_neg hzero]
  have hread : bytesRead s n ≤ readBufferSize - s.mReadBuffer.length ∧ bytesRead s n ≤ s.pending.length := by
    unfold bytesRead
    omega
  have hlength : (s.pending.take (bytesRead s n)).length = bytesRead s n := by
    rw [List.length_take]
    omega
  have hroom := h.room
  rw [parseBuffer_drain _ _ (by dsimp only; rw [List.length_append]; omega) (by dsimp only; rw [List.length_append]; omega)]
  dsimp only
  have hstream : (s.mReadBuffer ++ s.pending.take (bytesRead s n)) ++ s.pending.drop (bytesRead s n) =
      encodeAll (turnCode ext range) (fs.drop s.taken) := by
    rw [List.append_assoc, List.take_append_drop, h.left]
  obtain ⟨done, todo, hsplit, hdone, hleft, hunfinished⟩ :=
    drain_prefix (turnCode ext range) (fs.drop s.taken) _ _
      (fun f hf => hvalid f (List.mem_of_mem_drop hf)) hstream
  rw [hdone]
  have htaken : fs.drop (s.taken + done.length) = todo := by
    rw [← List.drop_drop, hsplit, List.drop_left]
  have htake : fs.take (s.taken + done.length) = fs.take s.taken ++ done := by
    rw [List.take_add, hsplit, List.take_left]
  have hcount : s.taken + done.length ≤ fs.length := by
    have hdrop := congrArg List.length hsplit
    rw [List.length_drop, List.length_append] at hdrop
    have := h.taken
    omega
  have hpart : partAt fs (readUpTo ext range fs s n) =
      partAt todo (drain (turnCode ext range) (s.mReadBuffer ++ s.pending.take (bytesRead s n))).2.length := by
    have hfs : fs = (fs.take s.taken ++ done) ++ todo := by
      rw [List.append_assoc, ← hsplit, List.take_append_drop]
    have hall := congrArg List.length hleft
    have hbefore := congrArg List.length h.left
    rw [List.length_append, List.length_drop] at hall
    rw [hsplit, encodeAll_append, List.length_append, List.length_append] at hbefore
    have htotal : (encodeAll (turnCode ext range) fs).length =
        (encodeAll (turnCode ext range) (fs.take s.taken ++ done)).length +
          (encodeAll (turnCode ext range) todo).length := by
      rw [← List.length_append, ← encodeAll_append, ← hfs]
    have hmiddle : (encodeAll (turnCode ext range) (fs.take s.taken ++ done)).length =
        (encodeAll (turnCode ext range) (fs.take s.taken)).length +
          (encodeAll (turnCode ext range) done).length := by
      rw [encodeAll_append, List.length_append]
    have hposition : readUpTo ext range fs s n =
        (encodeAll (turnCode ext range) (fs.take s.taken ++ done)).length +
          (drain (turnCode ext range) (s.mReadBuffer ++ s.pending.take (bytesRead s n))).2.length := by
      unfold readUpTo
      omega
    have hdone := @partAt_done ext range (fs.take s.taken ++ done) todo
      (drain (turnCode ext range) (s.mReadBuffer ++ s.pending.take (bytesRead s n))).2.length
    rw [← hfs] at hdone
    rw [hposition, hdone]
  have hvalidTodo : ∀ f ∈ todo, f.Valid ext range := by
    intro f hf
    apply hvalid f
    apply List.mem_of_mem_drop (i := s.taken)
    rw [hsplit]
    exact List.mem_append_right _ hf
  obtain ⟨hgood, hbad⟩ := settle_unfinished hvalidTodo
    { s with
      pending := s.pending.drop (bytesRead s n)
      mReadBuffer := (drain (turnCode ext range) (s.mReadBuffer ++ s.pending.take (bytesRead s n))).2
      taken := s.taken + done.length
      handedOver := s.handedOver ++ handedAll ext context s.taken done } hunfinished
  rw [← hpart] at hgood hbad
  constructor
  · intro hok
    obtain ⟨hsame, hless⟩ := hgood (hok.resolve_left hzero)
    rw [hsame]
    refine ⟨h.reading, hcount, ?_, ?_, ?_, hless⟩
    · dsimp only
      rw [h.handedOver, htake, handedAll_append, List.length_take, Nat.min_eq_left h.taken, Nat.zero_add]
    · dsimp only
      rw [hleft, htaken]
    · dsimp only
      rw [htaken]
      exact hunfinished
  · intro hnot hdem
    rcases hbad (fun hmay => hnot (.inr hmay)) with hstatus | hfull
    · exact hstatus hdem.reading
    · exact absurd hdem.room (by omega)

theorem taken_start (fs : List TURNFrame) : Taken ext range context fs (TURNReader.start ext range fs) :=
  ⟨rfl, Nat.zero_le _, rfl, rfl, unfinished_nil _ _, show 0 < readBufferSize by decide⟩

end Runs

/-- A run of reads takes the frames of the stream out whole and in order, hands over exactly their
framePayloads and packets and always has room for more, at its end and after every read before, if and
only if all of its reads end where they may. -/
theorem demultiplexes_iff (ext : Externals) (range : ChannelRange) (context : Nat → TURNContext) (fs : List TURNFrame)
    (hvalid : ∀ f ∈ fs, f.Valid ext range) (cuts : List Nat) :
    (∀ k, Demultiplexed ext range context fs
        (run (onReadReady ext range context) (TURNReader.start ext range fs) (cuts.take k))) ↔
      Meets (onReadReady ext range context) (CutOk ext range fs) (TURNReader.start ext range fs) cuts := by
  have hgeneral : ∀ s, Taken ext range context fs s →
      ((∀ k, Demultiplexed ext range context fs (run (onReadReady ext range context) s (cuts.take k))) ↔
        Meets (onReadReady ext range context) (CutOk ext range fs) s cuts) := by
    induction cuts with
    | nil => exact fun s hs => ⟨fun _ => trivial, fun _ k => by rw [List.take_nil]; exact hs.demultiplexed⟩
    | cons n ns ih =>
      intro s hs
      obtain ⟨hok, hnot⟩ := onReadReady_taken hvalid hs n
      constructor
      · intro hall
        have hcut : CutOk ext range fs s n := by
          by_contra hcut
          exact hnot hcut (hall 1)
        exact ⟨hcut, (ih _ (hok hcut)).mp fun k => hall (k + 1)⟩
      · rintro ⟨hcut, hmeets⟩ k
        cases k with
        | zero => exact hs.demultiplexed
        | succ k => exact (ih _ (hok hcut)).mpr hmeets k
  exact hgeneral _ (taken_start fs)

/-- A response without attributes. -/
def allocateResponse : List UInt8 := [0x01, 0x03, 0x00, 0x00, 0x21, 0x12, 0xA4, 0x42] ++ zeros 12

def allocateResponseFrame : TURNFrame :=
  .stun allocateResponse
    (((parseIfSTUN plainExternals allocateResponse RFCs.rfc5766TURN.bit false).toOption).getD {})

/-- A server that is not active, with one channel. -/
def oneChannel (_ : Nat) : TURNContext where
  isActiveServer := false
  requesterHandles _ := false
  mChannelNumberMap channel := if channel = 0x4000 then some (.ipv4 0x0A000001 5060) else none

theorem allocateResponse_valid :
    ∀ f ∈ [allocateResponseFrame, .channelData 0x4000 [1, 2, 3] [0]], f.Valid plainExternals {} := by
  intro f hf
  simp only [List.mem_cons, List.not_mem_nil, or_false] at hf
  rcases hf with rfl | rfl
  · exact ⟨by decide +kernel, by decide +kernel⟩
  · exact ⟨by decide, by decide, by decide, by decide, by decide⟩

theorem demultiplexes_iff_two_frames : Demultiplexed plainExternals {} oneChannel
    [allocateResponseFrame, .channelData 0x4000 [1, 2, 3] [0]]
    (run (onReadReady plainExternals {} oneChannel)
      (TURNReader.start plainExternals {} [allocateResponseFrame, .channelData 0x4000 [1, 2, 3] [0]])
      [7, 15, 100]) :=
  (demultiplexes_iff plainExternals {} oneChannel _ allocateResponse_valid [7, 15, 100]).mpr (by decide +kernel) 3

/-- The response arrives in two reads, and after the first its size is taken for a packet. -/
theorem split_response_throws :
    (run (onReadReady plainExternals {} oneChannel)
        (TURNReader.start plainExternals {} [allocateResponseFrame, .channelData 0x4000 [1, 2, 3] [0]]) [8, 12]).status =
      .threw .invalidAssumption ∧
    ¬Demultiplexed plainExternals {} oneChannel [allocateResponseFrame, .channelData 0x4000 [1, 2, 3] [0]]
      (run (onReadReady plainExternals {} oneChannel)
        (TURNReader.start plainExternals {} [allocateResponseFrame, .channelData 0x4000 [1, 2, 3] [0]]) [8, 12]) := by
  have hthrew : (run (onReadReady plainExternals {} oneChannel)
      (TURNReader.start plainExternals {} [allocateResponseFrame, .channelData 0x4000 [1, 2, 3] [0]]) [8, 12]).status =
      .threw .invalidAssumption := by decide +kernel
  refine ⟨hthrew, fun h => ?_⟩
  have hreading := h.reading
  rw [hthrew] at hreading
  cases hreading

end OpenPeer
