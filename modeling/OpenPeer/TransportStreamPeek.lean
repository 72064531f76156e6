import OpenPeer.Runs
import OpenPeer.TransportStreamFifo

/-!
# Peeking and reading

A peek at an offset is compared with the read that would follow a skip of as many
bytes. The bytes are the same. The headers are those of two buffers when an empty
buffer stands before the next byte: the read returns that of the first buffer there
is, the peek that of the first one with a byte. The overload that returns a buffer
looks at the front of the stream whatever the offset is.
-/
namespace OpenPeer

open Bytes Runs

variable {η α : Type}

namespace TransportStream

/-- The buffers that are left when some bytes are passed over; an empty one is passed over with
the bytes before it, and is left when they end there. -/
def behind : Nat → List (List UInt8 × Option η) → List (List UInt8 × Option η)
  | 0, records => records
  | _ + 1, [] => []
  | n + 1, r :: records =>
    if r.1.length ≤ n + 1 then behind (n + 1 - r.1.length) records else (r.1.drop (n + 1), r.2) :: records

/-- The header of the first buffer that has a byte. -/
def firstHeader : List (List UInt8 × Option η) → Option η
  | [] => none
  | r :: records => if r.1.length = 0 then firstHeader records else r.2

@[simp] theorem behind_nil (n : Nat) : behind n ([] : List (List UInt8 × Option η)) = [] := by
  cases n <;> rfl

@[simp] theorem behind_zero (records : List (List UInt8 × Option η)) : behind 0 records = records := by
  cases records <;> rfl

theorem consume_records (bufs : List (Buffer η)) (n : Nat) :
    (consume bufs n).2.map (fun b => (b.unread, b.mHeader)) = behind n (bufs.map fun b => (b.unread, b.mHeader)) := by
  induction bufs generalizing n with
  | nil => simp [consume]
  | cons b bs ih =>
    cases n with
    | zero => simp [consume]
    | succ n =>
      by_cases hall : b.available ≤ n + 1
      · simp [consume, behind, hall, ih]
      · simp [consume, behind, hall]
        rfl

/-- The header that a peek returns, whatever it asks for. -/
theorem peekLoop_header (bufs : List (Buffer η)) (offset n : Nat) :
    (peekLoop bufs offset n).2 = firstHeader (behind offset (bufs.map fun b => (b.unread, b.mHeader))) := by
  induction bufs generalizing offset with
  | nil => simp [peekLoop, firstHeader]
  | cons b bs ih =>
    by_cases hempty : b.available ≤ offset
    · -- the buffer is passed over by the offset, or it has no byte
      have hnone : (b.unread.drop offset).length = 0 := by
        rw [List.length_drop, Buffer.length_unread]
        omega
      rw [peekLoop, if_pos hnone, ih]
      cases offset with
      | zero =>
        have hzero : b.available = 0 := by omega
        simp [firstHeader, hzero]
      | succ offset => simp [behind, hempty]
    · have hsome : (b.unread.drop offset).length ≠ 0 := by
        rw [List.length_drop, Buffer.length_unread]
        omega
      have hheader : (peekLoop (b :: bs) offset n).2 = b.mHeader := by
        rw [peekLoop, if_neg hsome]
        split <;> rfl
      rw [hheader]
      cases offset with
      | zero =>
        have hpos : b.available ≠ 0 := by omega
        simp [firstHeader, hpos]
      | succ offset =>
        have hleft : b.available - (offset + 1) ≠ 0 := by omega
        simp [behind, firstHeader, hempty, hleft]

theorem take_drop_eq_take_iff (l : List α) (n k : Nat) (hn : 0 < n) :
    l.take n = (l.drop k).take n ↔ k = 0 ∨ l = [] ∨ k + n ≤ l.length ∧ ∀ i < n, l[k + i]? = l[i]? := by
  constructor
  · intro h
    by_cases hk : k = 0
    · exact .inl hk
    by_cases hl : l = []
    · exact .inr (.inl hl)
    have hlength := congrArg List.length h
    have hpos := List.length_pos_iff.mpr hl
    rw [List.length_take, List.length_take, List.length_drop] at hlength
    refine .inr (.inr ⟨by omega, fun i hi => ?_⟩)
    have hi' := congrArg (fun l => l[i]?) h
    simpa [List.getElem?_take, hi] using hi'.symm
  · rintro (rfl | rfl | ⟨-, h⟩)
    · simp
    · simp
    · apply List.ext_getElem?
      intro i
      by_cases hi : i < n
      · simp [hi, h i hi]
      · simp [hi]

variable (s : TransportStream η)

/-- What is returned by a read of `n` bytes behind a skip. -/
def readBehind (n offset : Nat) : List UInt8 × Option η :=
  let r := (s.skip offset).2.read n
  (r.1, r.2.1)

/-- Both overloads of `peek` return what the read behind the skip would, with as many bytes; no
buffer stands for no bytes. A peek returns no stream, as it changes none. -/
structure PeekAgrees (n offset : Nat) : Prop where
  raw : s.peek n offset = s.readBehind n offset
  block : ((s.peekBuffer n offset).1.getD [], (s.peekBuffer n offset).2) = s.readBehind n offset

/-- No empty buffer with another header stands before the next byte behind the offset, and at the
front there are the header and the bytes that are there behind the offset. -/
structure SameBehind (n offset : Nat) : Prop where
  header : ((behind offset s.records).head?.bind Prod.snd) = firstHeader (behind offset s.records)
  front : firstHeader s.records = firstHeader (behind offset s.records)
  bytes : offset = 0 ∨ s.unread = [] ∨
    offset + n ≤ s.unread.length ∧ ∀ i < n, s.unread[offset + i]? = s.unread[i]?

variable {s}

section

variable (halive : s.mShutdown = false)
include halive

theorem skip_records (n : Nat) : (s.skip n).2.records = behind n s.records := by
  unfold skip
  rw [if_neg (by simp [halive])]
  by_cases hn : n = 0
  · rw [if_pos hn, hn, behind_zero]
  · rw [if_neg hn]
    simpa [records] using consume_records s.mBuffers n

theorem read_eq {n : Nat} (hn : 1 ≤ n) :
    (s.read n).1 = s.unread.take n ∧ (s.read n).2.1 = s.records.head?.bind Prod.snd := by
  refine ⟨(read_unread halive n hn).1, ?_⟩
  have hhead : s.getNextReadHeader = s.records.head?.bind Prod.snd := by
    unfold getNextReadHeader records
    cases s.mBuffers <;> rfl
  simp [read, halive, Nat.ne_of_gt hn, hhead]

theorem readBehind_eq {n : Nat} (hn : 1 ≤ n) (offset : Nat) :
    s.readBehind n offset =
      ((s.unread.drop offset).take n, (behind offset s.records).head?.bind Prod.snd) := by
  have halive' : (s.skip offset).2.mShutdown = false := by rw [skip_mShutdown, halive]
  obtain ⟨hbytes, hheader⟩ := read_eq halive' hn
  rw [(skip_unread halive offset).2] at hbytes
  rw [skip_records halive] at hheader
  exact Prod.ext hbytes hheader

theorem peek_eq (n offset : Nat) :
    s.peek n offset = ((s.unread.drop offset).take n, firstHeader (behind offset s.records)) := by
  refine Prod.ext (peek_unread halive n offset) ?_
  simp [peek, halive, peekLoop_header, records]

theorem peekBuffer_eq {n : Nat} (hn : 1 ≤ n) (offset : Nat) :
    ((s.peekBuffer n offset).1.getD [], (s.peekBuffer n offset).2) = (s.unread.take n, firstHeader s.records) := by
  unfold peekBuffer
  simp only [if_neg (Nat.ne_of_gt hn), peek_eq halive, behind_zero, List.drop_zero]
  split
  next hnone => rw [List.eq_nil_of_length_eq_zero hnone, Option.getD_none]
  next => rw [Option.getD_some]

end

theorem peek_shutdown (hshutdown : s.mShutdown = true) (n offset : Nat) : s.PeekAgrees n offset := by
  constructor <;> simp [peek, peekBuffer, readBehind, read, skip, hshutdown]

variable (s)

/-- In any state a peek agrees with the read behind the skip exactly when the stream is cancelled, or
has at its front what it has behind the offset, without an empty buffer of another header there. -/
theorem peek_agrees_iff (n offset : Nat) (hn : 1 ≤ n) :
    s.PeekAgrees n offset ↔ s.mShutdown = true ∨ s.SameBehind n offset := by
  cases halive : s.mShutdown with
  | true => exact iff_of_true (peek_shutdown halive n offset) (.inl rfl)
  | false =>
    have hraw := peek_eq halive n offset
    have hblock := peekBuffer_eq halive hn offset
    have hread := readBehind_eq halive hn offset
    constructor
    · rintro ⟨h, h'⟩
      rw [hraw, hread] at h
      rw [hblock, hread] at h'
      obtain ⟨-, hheader⟩ := Prod.mk.inj h
      obtain ⟨hbytes, hfront⟩ := Prod.mk.inj h'
      exact .inr ⟨hheader.symm, hfront.trans hheader.symm, (take_drop_eq_take_iff s.unread n offset hn).mp hbytes⟩
    · rintro (h | h)
      · cases h
      · constructor
        · rw [hraw, hread, h.header]
        · rw [hblock, hread, h.header, h.front, (take_drop_eq_take_iff s.unread n offset hn).mpr h.bytes]

theorem peek_agrees_first :
    PeekAgrees (StreamCall.apply (.create : TransportStream Unit) (.write [1, 2] (some ()))) 2 0 :=
  (peek_agrees_iff _ 2 0 (by decide)).mpr (.inr ⟨by decide, rfl, .inl rfl⟩)

/-- The second byte is peeked into a buffer, and the first one is returned. -/
theorem peek_ignores_offset : ¬∀ (calls : List (StreamCall Unit)) (n offset : Nat), 1 ≤ n →
    PeekAgrees (run StreamCall.apply .create calls) n offset := by
  intro h
  have hblock := (h [.write [1, 2] none] 1 1 (by decide)).block
  revert hblock
  decide

end TransportStream

end OpenPeer
