import OpenPeer.Runs
import OpenPeer.TransportStream

/-!
# The transport stream is a FIFO with record boundaries

A run of calls is kept beside the stream: what was written, as bytes and as the
buffers they make up, and what was read or passed over. Whatever was written was
read, is in a buffer or waits in the block queue, and a buffer that is read whole is
what is left of one that was written.
-/
namespace OpenPeer

open Bytes Runs

variable {η : Type}

/-- A call of a stream that is not cancelled. -/
inductive StreamCall (η : Type) where
  | write (buffer : List UInt8) (header : Option η)
  | writeBytes (buffer : List UInt8) (header : Option η)
  | writeWord (value : UInt16) (header : Option η) (endian : Endians)
  | writeDWord (value : UInt32) (header : Option η) (endian : Endians)
  | block (on : Bool)
  | read (n : Nat)
  | readBuffer
  | readWord (endian : Endians)
  | readDWord (endian : Endians)
  | skip (n : Nat)
  | peek (n offset : Nat)
  | notifyReaderReadyToRead
  deriving DecidableEq, Repr

/-- A stream and its history: the bytes written, the buffers they make up, the writes since the
stream was blocked, and the bytes read or passed over. -/
structure StreamHistory (η : Type) where
  stream : TransportStream η
  written : List UInt8
  buffers : List (List UInt8 × Option η)
  blocked : Option (List (List UInt8 × Option η))
  passed : List UInt8
  deriving DecidableEq, Repr

namespace StreamCall

open TransportStream

/-- The buffer a call writes. -/
def writes : StreamCall η → Option (List UInt8 × Option η)
  | .write buffer header => some (buffer, header)
  | .writeBytes buffer header => some (buffer, header)
  | .writeWord value header endian => some (orderBytes endian (toBE 2 value.toNat), header)
  | .writeDWord value header endian => some (orderBytes endian (toBE 4 value.toNat), header)
  | _ => none

def apply (s : TransportStream η) : StreamCall η → TransportStream η
  | .write buffer header => s.write buffer header
  | .writeBytes buffer header => s.writeBytes buffer header
  | .writeWord value header endian => s.writeWord value header endian
  | .writeDWord value header endian => s.writeDWord value header endian
  | .block on => s.block on
  | .read n => (s.read n).2.2
  | .readBuffer => s.readBuffer.2
  | .readWord endian => (s.readWord endian).2.2.2
  | .readDWord endian => (s.readDWord endian).2.2.2
  | .skip n => (s.skip n).2
  | .peek _ _ => s
  | .notifyReaderReadyToRead => s.notifyReaderReadyToRead

/-- The bytes a call returns or passes over; those of a number are as many as it says were there. -/
def passes (s : TransportStream η) : StreamCall η → List UInt8
  | .read n => (s.read n).1
  | .readBuffer => (s.readBuffer.1.map Prod.fst).getD []
  | .readWord endian =>
    let r := s.readWord endian
    (orderBytes endian (toBE 2 r.1.toNat)).take r.2.1
  | .readDWord endian =>
    let r := s.readDWord endian
    (orderBytes endian (toBE 4 r.1.toNat)).take r.2.1
  | .skip n => s.unread.take (s.skip n).1
  | _ => []

end StreamCall

/-- All writes of a block as one buffer, with the first header there is. -/
def joined (writes : List (List UInt8 × Option η)) : List UInt8 × Option η :=
  (writes.flatMap Prod.fst, writes.findSome? Prod.snd)

namespace StreamHistory

def start : StreamHistory η := ⟨.create, [], [], none, []⟩

/-- The buffers after a block: one more, unless there is nothing to write. -/
def unblock (buffers writes : List (List UInt8 × Option η)) : List (List UInt8 × Option η) :=
  if (joined writes).1 = [] ∧ (joined writes).2 = none then buffers else buffers ++ [joined writes]

def step (h : StreamHistory η) (call : StreamCall η) : StreamHistory η where
  stream := call.apply h.stream
  written := h.written ++ (call.writes.map Prod.fst).getD []
  passed := h.passed ++ call.passes h.stream
  buffers :=
    match call, call.writes, h.blocked with
    | .block false, _, some writes => unblock h.buffers writes
    | _, some w, none => h.buffers ++ [w]
    | _, _, _ => h.buffers
  blocked :=
    match call, call.writes, h.blocked with
    | .block true, _, none => some []
    | .block false, _, _ => none
    | _, some w, some writes => some (writes ++ [w])
    | _, _, blocked => blocked

end StreamHistory

section Position

variable {bufs : List (Buffer η)}

/-- The content of a buffer, read or not. -/
def Buffer.content (b : Buffer η) : List UInt8 × Option η := (b.mBuffer, b.mHeader)

/-- What was read of the first buffer. -/
def headRead : List (Buffer η) → List UInt8
  | [] => []
  | b :: _ => b.mBuffer.take b.mRead

/-- The buffers of a stream are the last ones written; of the first one of them a part was read, and
with it and all before it that is what was read. -/
structure Position (buffers : List (List UInt8 × Option η)) (passed : List UInt8) (bufs : List (Buffer η)) (k : Nat) :
    Prop where
  le : k ≤ buffers.length
  rest : bufs.map Buffer.content = buffers.drop k
  passed_eq : passed = (buffers.take k).flatMap Prod.fst ++ headRead bufs
  fresh : ∀ b ∈ bufs.tail, b.mRead = 0

theorem headRead_unread (h : ∀ b ∈ bufs.tail, b.mRead = 0) :
    headRead bufs ++ TransportStream.unreadBytes bufs = (bufs.map Buffer.content).flatMap Prod.fst := by
  cases bufs with
  | nil => rfl
  | cons b bs =>
    have hbs : TransportStream.unreadBytes bs = (bs.map Buffer.content).flatMap Prod.fst := by
      rw [TransportStream.unreadBytes, List.flatMap_map]
      exact List.flatMap_congr fun c hc => by rw [Buffer.unread, h c hc, List.drop_zero, Buffer.content]
    rw [TransportStream.unreadBytes_cons, ← List.append_assoc, headRead, Buffer.unread, List.take_append_drop, hbs,
      List.map_cons, List.flatMap_cons]
    rfl

/-- Taking bytes moves the position on. -/
theorem consume_position (h : ∀ b ∈ bufs.tail, b.mRead = 0) (n : Nat) :
    ∃ j, j ≤ bufs.length ∧
      (TransportStream.consume bufs n).2.map Buffer.content = (bufs.map Buffer.content).drop j ∧
      headRead bufs ++ (TransportStream.consume bufs n).1
        = ((bufs.map Buffer.content).take j).flatMap Prod.fst ++ headRead (TransportStream.consume bufs n).2 ∧
      ∀ b ∈ (TransportStream.consume bufs n).2.tail, b.mRead = 0 := by
  induction bufs generalizing n with
  | nil => exact ⟨0, le_refl 0, rfl, rfl, by simp [TransportStream.consume]⟩
  | cons b bs ih =>
    by_cases hn : n = 0
    · rw [TransportStream.consume, if_pos hn]
      exact ⟨0, Nat.zero_le _, rfl, by simp, h⟩
    by_cases hall : b.available ≤ n
    · obtain ⟨j, hj, hrest, hpassed, hfresh⟩ := ih (fun c hc => h c (List.mem_of_mem_tail hc)) (n - b.available)
      have hhead : headRead bs = [] := by
        cases bs with
        | nil => rfl
        | cons c cs => rw [headRead, h c List.mem_cons_self, List.take_zero]
      rw [hhead, List.nil_append] at hpassed
      rw [TransportStream.consume, if_neg hn, dif_pos hall]
      refine ⟨j + 1, Nat.succ_le_succ hj, hrest, ?_, hfresh⟩
      simp only [hpassed]
      rw [List.take_of_length_le (by rwa [Buffer.length_unread]), headRead, Buffer.unread, ← List.append_assoc,
        List.take_append_drop, List.map_cons, List.take_succ_cons, List.flatMap_cons, List.append_assoc]
      rfl
    · rw [TransportStream.consume, if_neg hn, dif_neg hall]
      refine ⟨0, Nat.zero_le _, rfl, ?_, h⟩
      simp only [List.take_zero, List.flatMap_nil, List.nil_append, headRead, Buffer.advance, Buffer.unread]
      exact List.take_add.symm

variable {buffers : List (List UInt8 × Option η)} {passed : List UInt8} {k : Nat}

theorem Position.consume (h : Position buffers passed bufs k) (n : Nat) :
    ∃ k', Position buffers (passed ++ (TransportStream.consume bufs n).1) (TransportStream.consume bufs n).2 k' := by
  obtain ⟨j, hj, hrest, hpassed, hfresh⟩ := consume_position h.fresh n
  have hlength := congrArg List.length h.rest
  rw [List.length_map, List.length_drop] at hlength
  have hle := h.le
  refine ⟨k + j, by omega, ?_, ?_, hfresh⟩
  · rw [hrest, h.rest, List.drop_drop]
  · rw [h.passed_eq, List.append_assoc, hpassed, h.rest, List.take_add, List.flatMap_append, List.append_assoc]

theorem Position.write (h : Position buffers passed bufs k) (buffer : List UInt8) (header : Option η) :
    Position (buffers ++ [(buffer, header)]) passed (bufs ++ [Buffer.ofWrite buffer header]) k := by
  refine ⟨?_, ?_, ?_, ?_⟩
  · rw [List.length_append]
    exact le_trans h.le (Nat.le_add_right _ _)
  · rw [List.map_append, h.rest, List.drop_append_of_le_length h.le]
    rfl
  · rw [List.take_append_of_le_length h.le, h.passed_eq]
    cases bufs with
    | nil => rfl
    | cons b bs => rfl
  · intro b hb
    cases bufs with
    | nil => cases hb
    | cons c cs =>
      rcases List.mem_append.mp hb with hb | hb
      · exact h.fresh b hb
      · rw [List.mem_singleton.mp hb]
        rfl

theorem Position.pop {b : Buffer η} {bs : List (Buffer η)} (h : Position buffers passed (b :: bs) k) :
    buffers[k]? = some b.content ∧ Position buffers (passed ++ b.unread) bs (k + 1) := by
  have hhere : buffers[k]? = some b.content := by
    rw [← Nat.add_zero k, ← List.getElem?_drop, ← h.rest]
    rfl
  have hlt : k < buffers.length := (List.getElem?_eq_some_iff.mp hhere).1
  refine ⟨hhere, hlt, ?_, ?_, fun c hc => h.fresh c (List.mem_of_mem_tail hc)⟩
  · rw [← List.tail_drop, ← h.rest]
    rfl
  · have hhead : headRead bs = [] := by
      cases bs with
      | nil => rfl
      | cons c cs => rw [headRead, h.fresh c List.mem_cons_self, List.take_zero]
    rw [hhead, List.append_nil, h.passed_eq, headRead, Buffer.unread, List.append_assoc, List.take_append_drop,
      List.take_add_one, hhere, List.flatMap_append]
    simp [Buffer.content]

end Position

section Words

open TransportStream

theorem wordOf_bytes (size : Nat) (endian : Endians) (bytes : List UInt8) (h : bytes.length ≤ size) :
    (orderBytes endian (toBE size (wordOf size endian bytes))).take bytes.length = bytes := by
  have hlength : (orderBytes endian (bytes ++ zeros (size - bytes.length))).length = size := by
    cases endian <;> simp [orderBytes, zeros] <;> omega
  have hback := toBE_ofBE (orderBytes endian (bytes ++ zeros (size - bytes.length)))
  rw [hlength] at hback
  rw [wordOf, hback]
  have hself : ∀ l : List UInt8, orderBytes endian (orderBytes endian l) = l := by
    intro l
    cases endian <;> simp [orderBytes]
  rw [hself, List.take_left]

theorem wordOf_lt (size : Nat) (endian : Endians) (bytes : List UInt8) (h : bytes.length ≤ size) :
    wordOf size endian bytes < 256 ^ size := by
  have hlength : (orderBytes endian (bytes ++ zeros (size - bytes.length))).length = size := by
    cases endian <;> simp [orderBytes, zeros] <;> omega
  have hlt := ofBE_lt (orderBytes endian (bytes ++ zeros (size - bytes.length)))
  rwa [hlength] at hlt

variable (s : TransportStream η)

theorem read_length_le (n : Nat) : (s.read n).1.length ≤ n := by
  unfold TransportStream.read
  split
  · exact Nat.zero_le _
  · split
    next hzero =>
      split
      · exact Nat.zero_le _
      · split <;> exact Nat.zero_le _
    · simp only [(consume_bytes s.mBuffers n).1]
      exact List.length_take_le _ _

theorem passes_readWord (endian : Endians) : (StreamCall.readWord endian).passes s = (s.read 2).1 := by
  have hle := read_length_le s 2
  simp only [StreamCall.passes, TransportStream.readWord]
  rw [UInt16.toNat_ofNat_of_lt' (wordOf_lt 2 endian _ hle), wordOf_bytes 2 endian _ hle]

theorem passes_readDWord (endian : Endians) : (StreamCall.readDWord endian).passes s = (s.read 4).1 := by
  have hle := read_length_le s 4
  simp only [StreamCall.passes, TransportStream.readDWord]
  rw [UInt32.toNat_ofNat_of_lt' (wordOf_lt 4 endian _ hle), wordOf_bytes 4 endian _ hle]

end Words

section Invariant

/-- Every byte written was passed, is in a buffer or is in the block queue, and the buffers are those
that were written. -/
structure Fifo (h : StreamHistory η) : Prop where
  alive : h.stream.mShutdown = false
  queue : h.stream.mBlockQueue = h.blocked.map fun writes => (joined writes).1
  header : ∀ writes, h.blocked = some writes → h.stream.mBlockHeader = (joined writes).2
  position : ∃ k, Position h.buffers h.passed h.stream.mBuffers k
  written : h.written = h.buffers.flatMap Prod.fst ++ (h.blocked.map fun writes => (joined writes).1).getD []

/-- What a call that does not write leaves as it was. -/
structure SameQueue (s s' : TransportStream η) : Prop where
  shutdown : s'.mShutdown = s.mShutdown
  queue : s'.mBlockQueue = s.mBlockQueue
  header : s'.mBlockHeader = s.mBlockHeader

variable {h : StreamHistory η} {s : TransportStream η}

theorem notifySubscribers_sameQueue (r w : Bool) : SameQueue s (s.notifySubscribers r w) := by
  refine ⟨TransportStream.notifySubscribers_mShutdown s r w, TransportStream.notifySubscribers_mBlockQueue s r w, ?_⟩
  unfold TransportStream.notifySubscribers
  cases r <;> cases w <;> simp only [Bool.false_eq_true, if_true, if_false] <;> split <;> split <;> rfl

theorem Fifo.passing (hf : Fifo h) (s' : TransportStream η) (bytes : List UInt8) (hsame : SameQueue h.stream s')
    (hposition : ∀ k, Position h.buffers h.passed h.stream.mBuffers k →
      ∃ k', Position h.buffers (h.passed ++ bytes) s'.mBuffers k') :
    Fifo { h with stream := s', written := h.written ++ [], passed := h.passed ++ bytes } := by
  obtain ⟨k, hk⟩ := hf.position
  refine ⟨hsame.shutdown.trans hf.alive, hsame.queue.trans hf.queue, fun writes hw => hsame.header.trans (hf.header writes hw),
    hposition k hk, ?_⟩
  rw [List.append_nil]
  exact hf.written

theorem read_passing (halive : s.mShutdown = false) (n : Nat) :
    SameQueue s (s.read n).2.2 ∧ ∀ buffers passed k, Position buffers passed s.mBuffers k →
      ∃ k', Position buffers (passed ++ (s.read n).1) (s.read n).2.2.mBuffers k' := by
  unfold TransportStream.read
  rw [if_neg (by rw [halive]; exact Bool.false_ne_true)]
  split
  · split
    next hnone =>
      refine ⟨⟨rfl, rfl, rfl⟩, fun buffers passed k hk => ⟨k, ?_⟩⟩
      rw [List.append_nil]
      exact hk
    next b bs hbuf =>
      split
      · refine ⟨⟨rfl, rfl, rfl⟩, fun buffers passed k hk => ⟨k, ?_⟩⟩
        rw [List.append_nil]
        exact hk
      next hzero =>
        refine ⟨⟨rfl, rfl, rfl⟩, fun buffers passed k hk => ⟨k + 1, ?_⟩⟩
        rw [hbuf] at hk
        have hunread : b.unread = [] := by
          rw [Buffer.unread, List.eq_nil_of_length_eq_zero (not_not.mp hzero), List.drop_nil]
        have hpop := hk.pop.2
        rwa [hunread] at hpop
  · obtain ⟨hshutdown, hqueue, hheader⟩ :=
      notifySubscribers_sameQueue (s := { s with mBuffers := (TransportStream.consume s.mBuffers n).2 }) true false
    refine ⟨⟨hshutdown, hqueue, hheader⟩, fun buffers passed k hk => ?_⟩
    rw [TransportStream.notifySubscribers_mBuffers]
    exact hk.consume n

theorem skip_passing (halive : s.mShutdown = false) (n : Nat) :
    SameQueue s (s.skip n).2 ∧ ∀ buffers passed k, Position buffers passed s.mBuffers k →
      ∃ k', Position buffers (passed ++ s.unread.take (s.skip n).1) (s.skip n).2.mBuffers k' := by
  have hskip := (TransportStream.skip_unread halive n).1
  rw [hskip]
  unfold TransportStream.skip
  rw [if_neg (by rw [halive]; exact Bool.false_ne_true)]
  by_cases hn : n = 0
  · rw [if_pos hn, hn]
    refine ⟨⟨rfl, rfl, rfl⟩, fun buffers passed k hk => ⟨k, ?_⟩⟩
    rw [List.take_zero, List.length_nil, List.take_zero, List.append_nil]
    exact hk
  · rw [if_neg hn]
    obtain ⟨hshutdown, hqueue, hheader⟩ :=
      notifySubscribers_sameQueue (s := { s with mBuffers := (TransportStream.consume s.mBuffers n).2 }) true false
    refine ⟨⟨hshutdown, hqueue, hheader⟩, fun buffers passed k hk => ?_⟩
    have hbytes : s.unread.take (s.unread.take n).length = (TransportStream.consume s.mBuffers n).1 := by
      rw [(TransportStream.consume_bytes s.mBuffers n).1, List.length_take]
      change s.unread.take (min n s.unread.length) = s.unread.take n
      rw [List.take_eq_take_iff, Nat.min_assoc, Nat.min_self]
    rw [TransportStream.notifySubscribers_mBuffers, hbytes]
    exact hk.consume n

theorem readBuffer_passing (halive : s.mShutdown = false) :
    SameQueue s s.readBuffer.2 ∧ ∀ buffers passed k, Position buffers passed s.mBuffers k →
      ∃ k', Position buffers (passed ++ (s.readBuffer.1.map Prod.fst).getD []) s.readBuffer.2.mBuffers k' := by
  unfold TransportStream.readBuffer
  rw [if_neg (by rw [halive]; exact Bool.false_ne_true)]
  split
  · refine ⟨⟨rfl, rfl, rfl⟩, fun buffers passed k hk => ⟨k, ?_⟩⟩
    simp only [Option.map_none, Option.getD_none, List.append_nil]
    exact hk
  next b bs hbuf =>
    obtain ⟨hshutdown, hqueue, hheader⟩ := notifySubscribers_sameQueue (s := { s with mBuffers := bs }) true false
    refine ⟨⟨hshutdown, hqueue, hheader⟩, fun buffers passed k hk => ⟨k + 1, ?_⟩⟩
    rw [hbuf] at hk
    rw [TransportStream.notifySubscribers_mBuffers]
    exact hk.pop.2

theorem write_blocked (halive : s.mShutdown = false) (queue buffer : List UInt8) (header : Option η)
    (hqueue : s.mBlockQueue = some queue) :
    s.write buffer header =
      { s with mBlockHeader := s.mBlockHeader.or header, mBlockQueue := some (queue ++ buffer) } := by
  rw [TransportStream.write, if_neg (by rw [halive]; exact Bool.false_ne_true), hqueue]

theorem joined_concat (writes : List (List UInt8 × Option η)) (w : List UInt8 × Option η) :
    joined (writes ++ [w]) = ((joined writes).1 ++ w.1, (joined writes).2.or w.2) := by
  simp only [joined, List.flatMap_append, List.findSome?_append, List.flatMap_singleton, List.findSome?_singleton]

/-- A buffer is written: it is put behind the others, or behind what the block has collected. -/
theorem Fifo.write (hf : Fifo h) (buffer : List UInt8) (header : Option η) :
    Fifo { h with
      stream := h.stream.write buffer header
      written := h.written ++ buffer
      buffers := match h.blocked with | none => h.buffers ++ [(buffer, header)] | some _ => h.buffers
      blocked := h.blocked.map (· ++ [(buffer, header)])
      passed := h.passed ++ [] } := by
  obtain ⟨k, hk⟩ := hf.position
  have hqueue := hf.queue
  have hheader := hf.header
  have hwritten := hf.written
  rw [List.append_nil]
  cases hblocked : h.blocked with
  | none =>
    rw [hblocked] at hqueue hwritten
    have hopen : h.stream.Open := ⟨hf.alive, hqueue⟩
    have hafter := hopen.write buffer header
    refine ⟨hafter.alive, hafter.unblocked, fun writes hw => (nomatch hw), ⟨k, ?_⟩, ?_⟩
    · rw [TransportStream.write_open hopen, TransportStream.notifySubscribers_mBuffers]
      exact hk.write buffer header
    · simp only [Option.map_none, Option.getD_none, List.append_nil] at hwritten ⊢
      rw [hwritten, List.flatMap_append, List.flatMap_singleton]
  | some writes =>
    rw [hblocked] at hqueue hwritten
    rw [write_blocked hf.alive _ buffer header hqueue]
    refine ⟨hf.alive, ?_, ?_, ⟨k, hk⟩, ?_⟩
    · simp only [Option.map_some, joined_concat]
    · intro writes' hw
      cases hw
      simp only [joined_concat, hheader writes hblocked]
    · simp only [Option.map_some, Option.getD_some, joined_concat] at hwritten ⊢
      rw [hwritten, List.append_assoc]

/-- The stream is blocked, or its block ends and becomes one buffer. -/
theorem Fifo.block (hf : Fifo h) (on : Bool) : Fifo (h.step (.block on)) := by
  obtain ⟨k, hk⟩ := hf.position
  have hqueue := hf.queue
  have hheader := hf.header
  have hwritten := hf.written
  have hlive : ¬h.stream.mShutdown = true := by rw [hf.alive]; exact Bool.false_ne_true
  unfold StreamHistory.step StreamCall.apply TransportStream.block
  simp only [StreamCall.writes, StreamCall.passes, Option.map_none, Option.getD_none, List.append_nil, if_neg hlive]
  cases hblocked : h.blocked with
  | none =>
    rw [hblocked] at hqueue hwritten
    rw [Option.map_none] at hqueue
    cases on with
    | true =>
      simp only [hqueue]
      refine ⟨hf.alive, rfl, ?_, ⟨k, hk⟩, hwritten⟩
      intro writes hw
      cases hw
      rfl
    | false =>
      simp only [hqueue]
      exact ⟨hf.alive, hqueue, fun writes hw => (nomatch hw), ⟨k, hk⟩, hwritten⟩
  | some writes =>
    rw [hblocked] at hqueue hwritten
    rw [Option.map_some] at hqueue
    have hhead := hheader writes hblocked
    cases on with
    | true =>
      simp only [hqueue]
      refine ⟨hf.alive, hqueue, ?_, ⟨k, hk⟩, hwritten⟩
      intro writes' hw
      cases hw
      exact hhead
    | false =>
      simp only [hqueue, hhead, StreamHistory.unblock]
      have hempty : ((joined writes).1.length < 1 ∧ (joined writes).2.isNone = true) ↔
          ((joined writes).1 = [] ∧ (joined writes).2 = none) := by
        rw [Nat.lt_one_iff, List.length_eq_zero_iff, Option.isNone_iff_eq_none]
      by_cases hnothing : (joined writes).1 = [] ∧ (joined writes).2 = none
      · rw [if_pos (hempty.mpr hnothing), if_pos hnothing]
        refine ⟨hf.alive, rfl, fun writes hw => (nomatch hw), ⟨k, hk⟩, ?_⟩
        simp only [Option.map_some, Option.getD_some, hnothing.1] at hwritten
        exact hwritten
      · rw [if_neg (fun h => hnothing (hempty.mp h)), if_neg hnothing]
        have hopen : ({ h.stream with mBlockQueue := none, mBlockHeader := none } : TransportStream η).Open :=
          ⟨hf.alive, rfl⟩
        have hafter := hopen.write (joined writes).1 (joined writes).2
        refine ⟨hafter.alive, hafter.unblocked, fun writes hw => (nomatch hw), ⟨k, ?_⟩, ?_⟩
        · rw [TransportStream.write_open hopen, TransportStream.notifySubscribers_mBuffers]
          exact hk.write _ _
        · simp only [Option.map_some, Option.getD_some, Option.map_none, Option.getD_none, List.append_nil] at hwritten ⊢
          rw [hwritten, List.flatMap_append, List.flatMap_singleton]

/-- What one call keeps. -/
theorem Fifo.step (hf : Fifo h) (call : StreamCall η) : Fifo (h.step call) := by
  have hwrites : ∀ buffer header, Fifo (h.step (.write buffer header)) := by
    intro buffer header
    have hwrite := hf.write buffer header
    unfold StreamHistory.step
    cases hblocked : h.blocked with
    | none =>
      rw [hblocked] at hwrite
      exact hwrite
    | some writes =>
      rw [hblocked] at hwrite
      exact hwrite
  have hbytes : ∀ buffer header, h.stream.writeBytes buffer header = h.stream.write buffer header := by
    intro buffer header
    unfold TransportStream.writeBytes TransportStream.write
    split
    · rfl
    · split <;> rfl
  cases call with
  | write buffer header => exact hwrites buffer header
  | writeBytes buffer header =>
    have hsame : h.step (.writeBytes buffer header) = h.step (.write buffer header) := by
      change StreamHistory.mk (h.stream.writeBytes buffer header) _ _ _ _ = StreamHistory.mk (h.stream.write _ header) _ _ _ _
      rw [hbytes]
      cases h.blocked <;> rfl
    rw [hsame]
    exact hwrites buffer header
  | writeWord value header endian =>
    have hsame : h.step (.writeWord value header endian) =
        h.step (.write (TransportStream.orderBytes endian (toBE 2 value.toNat)) header) := by
      change StreamHistory.mk (h.stream.writeBytes _ header) _ _ _ _ = StreamHistory.mk (h.stream.write _ header) _ _ _ _
      rw [hbytes]
      cases h.blocked <;> rfl
    rw [hsame]
    exact hwrites _ header
  | writeDWord value header endian =>
    have hsame : h.step (.writeDWord value header endian) =
        h.step (.write (TransportStream.orderBytes endian (toBE 4 value.toNat)) header) := by
      change StreamHistory.mk (h.stream.writeBytes _ header) _ _ _ _ = StreamHistory.mk (h.stream.write _ header) _ _ _ _
      rw [hbytes]
      cases h.blocked <;> rfl
    rw [hsame]
    exact hwrites _ header
  | block on => exact hf.block on
  | read n =>
    obtain ⟨hsame, hposition⟩ := read_passing hf.alive n
    exact hf.passing _ _ hsame fun k => hposition _ _ k
  | readBuffer =>
    obtain ⟨hsame, hposition⟩ := readBuffer_passing hf.alive
    exact hf.passing _ _ hsame fun k => hposition _ _ k
  | readWord endian =>
    obtain ⟨hsame, hposition⟩ := read_passing hf.alive 2
    have hpassed := hf.passing _ _ hsame fun k => hposition _ _ k
    rw [← passes_readWord h.stream endian] at hpassed
    exact hpassed
  | readDWord endian =>
    obtain ⟨hsame, hposition⟩ := read_passing hf.alive 4
    have hpassed := hf.passing _ _ hsame fun k => hposition _ _ k
    rw [← passes_readDWord h.stream endian] at hpassed
    exact hpassed
  | skip n =>
    obtain ⟨hsame, hposition⟩ := skip_passing hf.alive n
    exact hf.passing _ _ hsame fun k => hposition _ _ k
  | peek n offset =>
    refine hf.passing h.stream [] ⟨rfl, rfl, rfl⟩ fun k hk => ⟨k, ?_⟩
    rw [List.append_nil]
    exact hk
  | notifyReaderReadyToRead =>
    have hsame : SameQueue h.stream h.stream.notifyReaderReadyToRead := by
      unfold TransportStream.notifyReaderReadyToRead
      split
      · exact ⟨rfl, rfl, rfl⟩
      · obtain ⟨hshutdown, hqueue, hheader⟩ :=
          notifySubscribers_sameQueue (s := { h.stream with mReaderReady := true }) false false
        exact ⟨hshutdown, hqueue, hheader⟩
    refine hf.passing _ [] hsame fun k hk => ⟨k, ?_⟩
    rw [List.append_nil]
    change Position h.buffers h.passed h.stream.notifyReaderReadyToRead.mBuffers k
    rw [TransportStream.notifyReaderReadyToRead_mBuffers]
    exact hk

end Invariant

/-- The bytes passed, those in the buffers and those in the block queue are the bytes written, in
order. A whole-buffer read takes exactly one of the buffers written, with its header, and gives
what is left of it: with what was read of it before, everything passed before is the buffers
written before. No buffer was read past its end. -/
theorem stream_is_fifo (calls : List (StreamCall η)) :
    let h := run StreamHistory.step StreamHistory.start calls
    h.passed ++ h.stream.unread ++ h.stream.mBlockQueue.getD [] = h.written ∧
    (∀ bytes header s', h.stream.readBuffer = (some (bytes, header), s') → ∃ k m full,
      h.buffers[k]? = some (full, header) ∧ bytes = full.drop m ∧
      h.passed = (h.buffers.take k).flatMap Prod.fst ++ full.take m ∧
      s'.mBuffers.map Buffer.content = h.buffers.drop (k + 1)) ∧
    ∀ b ∈ h.stream.mBuffers, b.mRead ≤ b.mBuffer.length := by
  intro h
  have hstart : Fifo (StreamHistory.start : StreamHistory η) :=
    ⟨rfl, rfl, fun writes hw => (nomatch hw), ⟨0, ⟨le_refl 0, rfl, rfl, fun b hb => (nomatch hb)⟩⟩, rfl⟩
  have hf : Fifo h := run_invariant_always Fifo (fun h call hf => hf.step call) _ calls hstart
  obtain ⟨k, hk⟩ := hf.position
  refine ⟨?_, ?_, fun b _ => b.read_le⟩
  · rw [hf.written, hf.queue, hk.passed_eq, TransportStream.unread, List.append_assoc _ (headRead _),
      headRead_unread hk.fresh, hk.rest, ← List.flatMap_append, List.take_append_drop]
  · intro bytes header s' hread
    unfold TransportStream.readBuffer at hread
    rw [if_neg (by rw [hf.alive]; exact Bool.false_ne_true)] at hread
    split at hread
    · cases hread
    next b bs hbuf =>
      cases hread
      rw [hbuf] at hk
      obtain ⟨hhere, hafter⟩ := hk.pop
      refine ⟨k, b.mRead, b.mBuffer, hhere, rfl, hk.passed_eq, ?_⟩
      rw [TransportStream.notifySubscribers_mBuffers]
      exact hafter.rest

end OpenPeer
