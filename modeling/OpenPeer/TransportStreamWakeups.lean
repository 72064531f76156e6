import OpenPeer.TransportStreamPeek

/-!
# Wake-ups of a stream

Beside a stream stand the notifications it sent since its queue was last changed and
since something was last put into it. A reader that waits after each read and a writer
that waits for an empty queue are woken up by these. A read of zero bytes takes an empty
buffer from the queue and tells nobody; every other call does.
-/
namespace OpenPeer

open Bytes Runs

variable {η : Type}

namespace TransportStream

/-- The queue was changed, by a write or by a read. -/
def Touched (s s' : TransportStream η) : Prop :=
  s'.mBuffers.length ≠ s.mBuffers.length ∨ s'.unread.length ≠ s.unread.length

instance (s s' : TransportStream η) : Decidable (Touched s s') :=
  inferInstanceAs (Decidable (_ ∨ _))

/-- The notifications sent between two states. -/
def sent (s s' : TransportStream η) : List Notification := s'.notified.drop s.notified.length

/-- A read of zero bytes takes the empty buffer at the front; the reader is ready for what is
behind it, or nothing is. -/
def LeavesWaiting (s : TransportStream η) (call : StreamCall η) : Prop :=
  call = .read 0 ∧ ∃ b bs, s.mBuffers = b :: bs ∧ b.mBuffer = [] ∧ (bs = [] ∨ s.mReaderReady = true)

/-- What a call does to the queue, and whom it tells. -/
inductive Handled (s : TransportStream η) : TransportStream η → Prop where
  | kept (queue : Option (List UInt8)) (header : Option η) :
    Handled s { s with mBlockQueue := queue, mBlockHeader := header }
  | written (queue : Option (List UInt8)) (header : Option η) (b : Buffer η) :
    Handled s (notifySubscribers
      { s with mBlockQueue := queue, mBlockHeader := header, mBuffers := s.mBuffers ++ [b] } false true)
  | consumed (bufs : List (Buffer η)) (hle : bufs.length ≤ s.mBuffers.length) :
    Handled s (notifySubscribers { s with mBuffers := bufs } true false)
  | ready : Handled s (notifySubscribers { s with mReaderReady := true } false false)

variable {s : TransportStream η}

theorem notifySubscribers_some (s : TransportStream η) (r w : Bool) (h : s.mBuffers ≠ []) :
    s.notifySubscribers r w = { s with
      mReaderReady := s.mReaderReady || r
      mReadReadyNotified := (s.mReadReadyNotified && !r && !w) || (s.mReaderReady || r)
      mWriteReadyNotified := s.mWriteReadyNotified && !w
      notified := s.notified ++
        if (s.mReaderReady || r) && !(s.mReadReadyNotified && !r && !w) then [.readerReady] else [] } := by
  have hpos : 0 < s.mBuffers.length := List.length_pos_iff.mpr h
  have hnone : ¬s.mBuffers.length < 1 := by omega
  obtain ⟨shutdown, ready, readNotified, writeNotified, bufs, queue, header, notified⟩ := s
  cases r <;> cases w <;> cases ready <;> cases readNotified <;> simp [notifySubscribers, h]

theorem notifySubscribers_none (s : TransportStream η) (r w : Bool) (h : s.mBuffers = []) :
    s.notifySubscribers r w = { s with
      mReaderReady := s.mReaderReady || r
      mReadReadyNotified := s.mReadReadyNotified && !r && !w
      mWriteReadyNotified := true
      notified := s.notified ++ if s.mWriteReadyNotified && !w then [] else [.writerReady] } := by
  obtain ⟨shutdown, ready, readNotified, writeNotified, bufs, queue, header, notified⟩ := s
  cases r <;> cases w <;> cases writeNotified <;> simp_all [notifySubscribers]

theorem length_consume_le (bufs : List (Buffer η)) (n : Nat) : (consume bufs n).2.length ≤ bufs.length := by
  induction bufs generalizing n with
  | nil => simp [consume]
  | cons b bs ih =>
    by_cases hn : n = 0
    · simp [consume, hn]
    · by_cases hall : b.available ≤ n
      · have hrest := ih (n - b.available)
        simp only [consume, if_neg hn, dif_pos hall, List.length_cons]
        omega
      · simp [consume, hn, hall]

theorem handled_self (s : TransportStream η) : Handled s s := .kept s.mBlockQueue s.mBlockHeader

section

variable (halive : s.mShutdown = false)
include halive

theorem handled_write (buffer : List UInt8) (header : Option η) : Handled s (s.write buffer header) := by
  unfold write
  rw [if_neg (by simp [halive])]
  split
  · exact .kept _ _
  · exact .written _ _ _

theorem handled_writeBytes (buffer : List UInt8) (header : Option η) : Handled s (s.writeBytes buffer header) := by
  unfold writeBytes
  rw [if_neg (by simp [halive])]
  split
  · exact .kept _ _
  · exact handled_write halive buffer header

theorem handled_block (on : Bool) : Handled s (s.block on) := by
  unfold block
  rw [if_neg (by simp [halive])]
  split
  · exact handled_self s
  · exact .kept _ _
  · exact handled_self s
  · dsimp only
    split
    · exact .kept _ _
    · rw [write, if_neg (by simp [halive])]
      exact .written _ _ _

theorem handled_read {n : Nat} (hn : n ≠ 0) : Handled s (s.read n).2.2 := by
  rw [read, if_neg (by simp [halive]), if_neg hn]
  exact .consumed _ (length_consume_le s.mBuffers n)

theorem handled_readBuffer : Handled s s.readBuffer.2 := by
  unfold readBuffer
  rw [if_neg (by simp [halive])]
  split
  · exact handled_self s
  next hbufs =>
    apply Handled.consumed
    simp [hbufs]

theorem handled_skip (n : Nat) : Handled s (s.skip n).2 := by
  unfold skip
  rw [if_neg (by simp [halive])]
  split
  · exact handled_self s
  · exact .consumed _ (length_consume_le s.mBuffers n)

theorem handled_notifyReaderReadyToRead : Handled s s.notifyReaderReadyToRead := by
  unfold notifyReaderReadyToRead
  rw [if_neg (by simp [halive])]
  exact .ready

theorem handled_apply (call : StreamCall η) (hread : call ≠ .read 0) : Handled s (call.apply s) := by
  cases call with
  | write buffer header => exact handled_write halive buffer header
  | writeBytes buffer header => exact handled_writeBytes halive buffer header
  | writeWord value header endian => exact handled_writeBytes halive _ header
  | writeDWord value header endian => exact handled_writeBytes halive _ header
  | block on => exact handled_block halive on
  | read n =>
    have hn : n ≠ 0 := fun h => hread (by rw [h])
    exact handled_read halive hn
  | readBuffer => exact handled_readBuffer halive
  | readWord endian => exact handled_read halive (by decide)
  | readDWord endian => exact handled_read halive (by decide)
  | skip n => exact handled_skip halive n
  | peek n offset => exact handled_self s
  | notifyReaderReadyToRead => exact handled_notifyReaderReadyToRead halive

end

end TransportStream

/-- A stream with what it told since its queue was last changed, and since a buffer was last put
into it. -/
structure Watched (η : Type) where
  stream : TransportStream η
  sinceTouched : List Notification
  sinceWrite : List Notification
  deriving DecidableEq, Repr

namespace Watched

open TransportStream

def start : Watched η := ⟨.create, [], []⟩

/-- The watch moved on to a state of the stream. -/
def moved (w : Watched η) (s' : TransportStream η) : Watched η where
  stream := s'
  sinceTouched := (if Touched w.stream s' then [] else w.sinceTouched) ++ sent w.stream s'
  sinceWrite :=
    (if w.stream.mBuffers.length < s'.mBuffers.length then [] else w.sinceWrite) ++ sent w.stream s'

def step (w : Watched η) (call : StreamCall η) : Watched η := w.moved (call.apply w.stream)

/-- A ready reader of a queue with buffers was told since the queue was last changed, and a writer
whose queue was just emptied was told since the last write. -/
structure WokenBy (w w' : Watched η) : Prop where
  reader : w'.stream.mBuffers ≠ [] → w'.stream.mReaderReady = true → .readerReady ∈ w'.sinceTouched
  writer : w.stream.mBuffers ≠ [] → w'.stream.mBuffers = [] → .writerReady ∈ w'.sinceWrite

def WakesUp (w : Watched η) (call : StreamCall η) : Prop := WokenBy w (w.step call)

/-- The flags say who was told. -/
structure Told (w : Watched η) : Prop where
  alive : w.stream.mShutdown = false
  reader : w.stream.mReadReadyNotified = true → w.stream.mReaderReady = true ∧ .readerReady ∈ w.sinceTouched
  ready : w.stream.mBuffers ≠ [] → w.stream.mReaderReady = true → w.stream.mReadReadyNotified = true
  writer : w.stream.mWriteReadyNotified = true → .writerReady ∈ w.sinceWrite
  waiting : w.stream.mBuffers ≠ [] → .writerReady ∉ w.sinceWrite

theorem told_start : Told (start : Watched η) := by
  constructor <;> simp [start, create]

variable {w : Watched η} {call : StreamCall η} {s' : TransportStream η}

/-- A call that tells whom it has to wakes them, and the flags go on saying who was told. -/
theorem Told.moved (h : Told w) (hhandled : Handled w.stream s') : WokenBy w (w.moved s') ∧ Told (w.moved s') := by
  obtain ⟨halive, hreader, hready, hwriter, hwaiting⟩ := h
  cases hhandled with
  | kept queue header =>
    have hsame : w.moved { w.stream with mBlockQueue := queue, mBlockHeader := header } =
        { w with stream := { w.stream with mBlockQueue := queue, mBlockHeader := header } } := by
      simp [Watched.moved, Touched, sent, unread]
    rw [hsame]
    refine ⟨⟨fun hbufs hr => (hreader (hready hbufs hr)).2, fun hbufs hnone => absurd hnone hbufs⟩, ?_⟩
    exact ⟨halive, hreader, hready, hwriter, hwaiting⟩
  | written queue header b =>
    rw [notifySubscribers_some _ _ _ (by simp)]
    cases hr : w.stream.mReaderReady with
    | true => constructor <;> constructor <;> simp [Watched.moved, Touched, sent, halive]
    | false => constructor <;> constructor <;> simp [Watched.moved, Touched, sent, halive]
  | consumed bufs hle =>
    have hnew : ¬w.stream.mBuffers.length < bufs.length := by omega
    by_cases hbufs : bufs = []
    · rw [notifySubscribers_none _ _ _ hbufs]
      cases hw : w.stream.mWriteReadyNotified with
      | true => constructor <;> constructor <;> simp [Watched.moved, sent, halive, hbufs, hwriter hw]
      | false => constructor <;> constructor <;> simp [Watched.moved, sent, halive, hbufs]
    · have hbefore : w.stream.mBuffers ≠ [] := by
        intro hnone
        rw [hnone, List.length_nil] at hle
        exact hbufs (List.eq_nil_of_length_eq_zero (Nat.le_zero.mp hle))
      have hnot : w.stream.mWriteReadyNotified = false := by
        simpa using fun hw => hwaiting hbefore (hwriter hw)
      rw [notifySubscribers_some _ _ _ hbufs]
      constructor <;> constructor <;> simp [Watched.moved, sent, halive, hbufs, hnew, hwaiting hbefore, hnot]
  | ready =>
    by_cases hbufs : w.stream.mBuffers = []
    · rw [notifySubscribers_none { w.stream with mReaderReady := true } false false hbufs]
      cases hw : w.stream.mWriteReadyNotified with
      | true => constructor <;> constructor <;> simp_all [Watched.moved, Touched, sent, unread]
      | false => constructor <;> constructor <;> simp_all [Watched.moved, Touched, sent, unread]
    · rw [notifySubscribers_some { w.stream with mReaderReady := true } false false hbufs]
      cases hr : w.stream.mReadReadyNotified with
      | true => constructor <;> constructor <;> simp_all [Watched.moved, Touched, sent, unread]
      | false => constructor <;> constructor <;> simp_all [Watched.moved, Touched, sent, unread]

/-- Taking the empty buffer at the front tells nobody. -/
theorem Told.popped (h : Told w) {b : Buffer η} {bs : List (Buffer η)} (hbufs : w.stream.mBuffers = b :: bs) :
    (WokenBy w (w.moved { w.stream with mBuffers := bs }) ↔ ¬(bs = [] ∨ w.stream.mReaderReady = true)) ∧
      (¬(bs = [] ∨ w.stream.mReaderReady = true) → Told (w.moved { w.stream with mBuffers := bs })) := by
  obtain ⟨halive, hreader, hready, hwriter, hwaiting⟩ := h
  have hnot : .writerReady ∉ w.sinceWrite := hwaiting (by simp [hbufs])
  constructor
  · constructor
    · rintro ⟨hr, hw⟩ (hnone | htrue)
      · simp [Watched.moved, sent, hbufs, hnone, hnot] at hw
      · by_cases hnone : bs = []
        · simp [Watched.moved, sent, hbufs, hnone, hnot] at hw
        · simp [Watched.moved, Touched, sent, hbufs, hnone, htrue] at hr
    · intro hquiet
      obtain ⟨hsome, hfalse⟩ := not_or.mp hquiet
      constructor
      · intro _ htrue
        exact absurd htrue hfalse
      · intro _ hnone
        exact absurd hnone hsome
  · intro hquiet
    obtain ⟨hsome, hfalse⟩ := not_or.mp hquiet
    have hunread : w.stream.mReadReadyNotified = false := by
      simpa using fun hr => hfalse (hreader hr).1
    have hunwritten : w.stream.mWriteReadyNotified = false := by
      simpa using fun hw => hnot (hwriter hw)
    constructor <;> simp [Watched.moved, sent, hbufs, halive, hunread, hunwritten, hnot, hfalse]

theorem told_readNone (h : Told w) :
    (WakesUp w (.read 0) ↔ ¬w.stream.LeavesWaiting (.read 0)) ∧ (WakesUp w (.read 0) → Told (w.step (.read 0))) := by
  by_cases hempty : ∃ b bs, w.stream.mBuffers = b :: bs ∧ b.mBuffer = []
  · obtain ⟨b, bs, hbufs, hb⟩ := hempty
    have hread : StreamCall.apply w.stream (.read 0) = { w.stream with mBuffers := bs } := by
      simp [StreamCall.apply, TransportStream.read, h.alive, hbufs, hb]
    have hleaves : w.stream.LeavesWaiting (.read 0) ↔ bs = [] ∨ w.stream.mReaderReady = true := by
      simp [LeavesWaiting, hbufs, hb]
    obtain ⟨hiff, hkeeps⟩ := h.popped hbufs
    simp only [WakesUp, step, hread, hleaves]
    exact ⟨hiff, fun hwakes => hkeeps (hiff.mp hwakes)⟩
  · have hread : StreamCall.apply w.stream (.read 0) = w.stream := by
      simp only [StreamCall.apply, TransportStream.read, h.alive, Bool.false_eq_true, if_false, if_true]
      split
      next => rfl
      next b bs hbufs =>
        rw [if_pos]
        intro hlength
        exact hempty ⟨b, bs, hbufs, List.eq_nil_of_length_eq_zero hlength⟩
    have hleaves : ¬w.stream.LeavesWaiting (.read 0) := by
      rintro ⟨-, b, bs, hbufs, hb, -⟩
      exact hempty ⟨b, bs, hbufs, hb⟩
    obtain ⟨hwakes, htold⟩ := h.moved (handled_self w.stream)
    simp only [WakesUp, step, hread]
    exact ⟨iff_of_true hwakes hleaves, fun _ => htold⟩

theorem told_step (h : Told w) (call : StreamCall η) :
    (WakesUp w call ↔ ¬w.stream.LeavesWaiting call) ∧ (WakesUp w call → Told (w.step call)) := by
  by_cases hread : call = .read 0
  · rw [hread]
    exact told_readNone h
  · obtain ⟨hwakes, htold⟩ := h.moved (handled_apply h.alive call hread)
    exact ⟨iff_of_true hwakes fun hleaves => hread hleaves.1, fun _ => htold⟩

end Watched

end OpenPeer
