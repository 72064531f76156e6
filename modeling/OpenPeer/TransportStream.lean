import OpenPeer.Bytes

/-!
# The transport stream

The in-memory FIFO between two components: a list of written buffers, each with
an optional header and a count of the bytes already read, an optional queue that
collects what is written while the stream is blocked, and the flags that decide
when readers and writers are notified.
-/
namespace OpenPeer

open Bytes

variable {η : Type}

/-- One written buffer, of which the first `mRead` bytes have been read. -/
structure Buffer (η : Type) where
  mBuffer : List UInt8
  mRead : Nat
  mHeader : Option η
  read_le : mRead ≤ mBuffer.length
  deriving DecidableEq, Repr

namespace Buffer

def ofWrite (buffer : List UInt8) (header : Option η) : Buffer η :=
  ⟨buffer, 0, header, Nat.zero_le _⟩

/-- The part of the buffer that has not been read. -/
def unread (b : Buffer η) : List UInt8 := b.mBuffer.drop b.mRead

def available (b : Buffer η) : Nat := b.mBuffer.length - b.mRead

@[simp] theorem unread_ofWrite (buffer : List UInt8) (header : Option η) :
    (ofWrite buffer header).unread = buffer := rfl

@[simp] theorem mHeader_ofWrite (buffer : List UInt8) (header : Option η) :
    (ofWrite buffer header).mHeader = header := rfl

@[simp] theorem length_unread (b : Buffer η) : b.unread.length = b.available := by
  simp [unread, available]

/-- Mark `n` more bytes as read. -/
def advance (b : Buffer η) (n : Nat) (h : n ≤ b.available) : Buffer η :=
  { b with mRead := b.mRead + n, read_le := by have := b.read_le; unfold available at h; omega }

@[simp] theorem unread_advance (b : Buffer η) (n : Nat) (h : n ≤ b.available) :
    (b.advance n h).unread = b.unread.drop n := by
  simp [advance, unread]

end Buffer

/-- What a stream tells its subscribers. -/
inductive Notification where
  | readerReady | writerReady
  deriving DecidableEq, Repr

structure TransportStream (η : Type) where
  mShutdown : Bool
  mReaderReady : Bool
  mReadReadyNotified : Bool
  mWriteReadyNotified : Bool
  mBuffers : List (Buffer η)
  mBlockQueue : Option (List UInt8)
  mBlockHeader : Option η
  /-- Every notification sent so far, oldest first. -/
  notified : List Notification
  deriving DecidableEq, Repr

inductive Endians where
  | big | little
  deriving DecidableEq, Repr

namespace TransportStream

def create : TransportStream η where
  mShutdown := false
  mReaderReady := false
  mReadReadyNotified := false
  mWriteReadyNotified := false
  mBuffers := []
  mBlockQueue := none
  mBlockHeader := none
  notified := []

section Operations

def notifySubscribers (s : TransportStream η) (afterRead afterWrite : Bool) : TransportStream η :=
  let s := if afterRead then { s with mReaderReady := true, mReadReadyNotified := false } else s
  let s := if afterWrite then { s with mReadReadyNotified := false, mWriteReadyNotified := false } else s
  let notifyRead := 0 < s.mBuffers.length ∧ s.mReaderReady ∧ ¬s.mReadReadyNotified
  let notifyWrite := s.mBuffers.length < 1 ∧ ¬s.mWriteReadyNotified
  let s := if notifyRead then
    { s with notified := s.notified ++ [.readerReady], mReadReadyNotified := true } else s
  if notifyWrite then
    { s with notified := s.notified ++ [.writerReady], mWriteReadyNotified := true }
  else s

/-- Write a buffer the stream keeps. -/
def write (s : TransportStream η) (buffer : List UInt8) (header : Option η) : TransportStream η :=
  if s.mShutdown then s else
  match s.mBlockQueue with
  | some queue =>
    { s with mBlockHeader := s.mBlockHeader.or header, mBlockQueue := some (queue ++ buffer) }
  | none =>
    { s with mBuffers := s.mBuffers ++ [Buffer.ofWrite buffer header] }.notifySubscribers false true

/-- Write bytes the stream copies. -/
def writeBytes (s : TransportStream η) (buffer : List UInt8) (header : Option η) : TransportStream η :=
  if s.mShutdown then s else
  match s.mBlockQueue with
  | some queue =>
    { s with mBlockHeader := s.mBlockHeader.or header, mBlockQueue := some (queue ++ buffer) }
  | none => s.write buffer header

def orderBytes (endian : Endians) (bytes : List UInt8) : List UInt8 :=
  match endian with
  | .big => bytes
  | .little => bytes.reverse

def writeWord (s : TransportStream η) (value : UInt16) (header : Option η) (endian : Endians) :
    TransportStream η :=
  s.writeBytes (orderBytes endian (toBE 2 value.toNat)) header

def writeDWord (s : TransportStream η) (value : UInt32) (header : Option η) (endian : Endians) :
    TransportStream η :=
  s.writeBytes (orderBytes endian (toBE 4 value.toNat)) header

def block (s : TransportStream η) (on : Bool) : TransportStream η :=
  if s.mShutdown then s else
  match on, s.mBlockQueue with
  | true, some _ => s
  | true, none => { s with mBlockQueue := some [], mBlockHeader := none }
  | false, none => s
  | false, some queue =>
    let unblocked := { s with mBlockQueue := none, mBlockHeader := none }
    if queue.length < 1 ∧ s.mBlockHeader.isNone then unblocked
    else unblocked.write queue s.mBlockHeader

def cancel (s : TransportStream η) : TransportStream η :=
  { s with mShutdown := true, mBuffers := [] }

def notifyReaderReadyToRead (s : TransportStream η) : TransportStream η :=
  if s.mShutdown then s else { s with mReaderReady := true }.notifySubscribers false false

def getNextReadSizeInBytes (s : TransportStream η) : Nat :=
  match s.mBuffers with
  | [] => 0
  | b :: _ => b.available

def getNextReadHeader (s : TransportStream η) : Option η := s.mBuffers.head?.bind (·.mHeader)

def getTotalReadBuffersAvailable (s : TransportStream η) : Nat := s.mBuffers.length

def getTotalReadSizeAvailableInBytes (s : TransportStream η) : Nat :=
  s.mBuffers.foldl (fun total b => total + b.available) 0

/-- The loop that `read` and `skip` share: take up to `n` bytes from the front,
dropping every buffer that is used up. -/
def consume : List (Buffer η) → Nat → List UInt8 × List (Buffer η)
  | [], _ => ([], [])
  | b :: bs, n =>
    if n = 0 then ([], b :: bs) else
    let taken := b.unread.take n
    if h : b.available ≤ n then
      let rest := consume bs (n - b.available)
      (taken ++ rest.1, rest.2)
    else
      (taken, b.advance n (by omega) :: bs)

/-- Read up to `n` bytes; zero bytes can only be asked of a zero-sized buffer. -/
def read (s : TransportStream η) (n : Nat) : List UInt8 × Option η × TransportStream η :=
  if s.mShutdown then ([], none, s) else
  if n = 0 then
    match s.mBuffers with
    | [] => ([], none, s)
    | b :: bs => if b.mBuffer.length ≠ 0 then ([], none, s) else ([], b.mHeader, { s with mBuffers := bs })
  else
    let r := consume s.mBuffers n
    (r.1, s.getNextReadHeader, { s with mBuffers := r.2 }.notifySubscribers true false)

/-- Read what is left of the first buffer. -/
def readBuffer (s : TransportStream η) : Option (List UInt8 × Option η) × TransportStream η :=
  if s.mShutdown then (none, s) else
  match s.mBuffers with
  | [] => (none, s)
  | b :: bs => (some (b.unread, b.mHeader), { s with mBuffers := bs }.notifySubscribers true false)

/-- The number made of the bytes that were there, as if the missing ones were zero. -/
def wordOf (size : Nat) (endian : Endians) (bytes : List UInt8) : Nat :=
  ofBE (orderBytes endian (bytes ++ zeros (size - bytes.length)))

def readWord (s : TransportStream η) (endian : Endians) : UInt16 × Nat × Option η × TransportStream η :=
  let r := s.read 2
  (UInt16.ofNat (wordOf 2 endian r.1), r.1.length, r.2)

def readDWord (s : TransportStream η) (endian : Endians) : UInt32 × Nat × Option η × TransportStream η :=
  let r := s.read 4
  (UInt32.ofNat (wordOf 4 endian r.1), r.1.length, r.2)

/-- The loop of `peek`: pass over `offset` bytes, then copy up to `n`, with the header of the
first buffer that has a byte beyond the offset. -/
def peekLoop : List (Buffer η) → Nat → Nat → List UInt8 × Option η
  | [], _, _ => ([], none)
  | b :: bs, offset, n =>
    let rest := b.unread.drop offset
    if rest.length = 0 then peekLoop bs (offset - b.available) n
    else if n ≤ rest.length then (rest.take n, b.mHeader)
    else (rest ++ (peekLoop bs 0 (n - rest.length)).1, b.mHeader)

def peek (s : TransportStream η) (n offset : Nat) : List UInt8 × Option η :=
  if s.mShutdown then ([], none) else peekLoop s.mBuffers offset n

/-- The overload that returns a buffer: it asks for the next buffer's size when `n` is zero, and
it does not hand its offset on. -/
def peekBuffer (s : TransportStream η) (n _offset : Nat) : Option (List UInt8) × Option η :=
  let size := if n = 0 then s.getNextReadSizeInBytes else n
  let r := s.peek size 0
  (if r.1.length = 0 then none else some r.1, r.2)

def peekWord (s : TransportStream η) (offset : Nat) (endian : Endians) : UInt16 × Nat × Option η :=
  let r := s.peek 2 offset
  (UInt16.ofNat (wordOf 2 endian r.1), r.1.length, r.2)

def peekDWord (s : TransportStream η) (offset : Nat) (endian : Endians) : UInt32 × Nat × Option η :=
  let r := s.peek 4 offset
  (UInt32.ofNat (wordOf 4 endian r.1), r.1.length, r.2)

/-- Pass over up to `n` bytes; returns how many there were. -/
def skip (s : TransportStream η) (n : Nat) : Nat × TransportStream η :=
  if s.mShutdown then (0, s) else
  if n = 0 then (0, s) else
  let r := consume s.mBuffers n
  (r.1.length, { s with mBuffers := r.2 }.notifySubscribers true false)

end Operations

section Fifo

/-- The bytes that are queued and not read, in order. -/
def unreadBytes (bufs : List (Buffer η)) : List UInt8 := bufs.flatMap Buffer.unread

@[simp] theorem unreadBytes_nil : unreadBytes ([] : List (Buffer η)) = [] := rfl

@[simp] theorem unreadBytes_cons (b : Buffer η) (bs : List (Buffer η)) :
    unreadBytes (b :: bs) = b.unread ++ unreadBytes bs := rfl

@[simp] theorem unreadBytes_append (as bs : List (Buffer η)) :
    unreadBytes (as ++ bs) = unreadBytes as ++ unreadBytes bs := List.flatMap_append

variable (bufs : List (Buffer η))

theorem consume_bytes (n : Nat) :
    (consume bufs n).1 = (unreadBytes bufs).take n ∧
      unreadBytes (consume bufs n).2 = (unreadBytes bufs).drop n := by
  induction bufs generalizing n with
  | nil => simp [consume]
  | cons b bs ih =>
    by_cases hn : n = 0
    · simp [consume, hn]
    · by_cases hall : b.available ≤ n
      · obtain ⟨htake, hdrop⟩ := ih (n - b.available)
        have hlen : b.unread.length ≤ n := by simpa using hall
        simp only [consume, if_neg hn, dif_pos hall, unreadBytes_cons]
        rw [htake, hdrop, List.take_append, List.drop_append, Buffer.length_unread,
          List.drop_eq_nil_of_le hlen, List.nil_append]
        exact ⟨rfl, rfl⟩
      · have hlen : n ≤ b.unread.length := by
          rw [Buffer.length_unread]
          omega
        simp only [consume, if_neg hn, dif_neg hall, unreadBytes_cons, Buffer.unread_advance]
        rw [List.take_append_of_le_length hlen, List.drop_append_of_le_length hlen]
        exact ⟨rfl, rfl⟩

theorem peekLoop_bytes (offset n : Nat) :
    (peekLoop bufs offset n).1 = ((unreadBytes bufs).drop offset).take n := by
  induction bufs generalizing offset n with
  | nil => simp [peekLoop]
  | cons b bs ih =>
    simp only [peekLoop, unreadBytes_cons, List.drop_append, Buffer.length_unread]
    split
    · next hempty =>
      rw [List.eq_nil_of_length_eq_zero hempty, List.nil_append]
      exact ih _ n
    · next hsome =>
      have hoff : offset - b.available = 0 := by
        rw [List.length_drop, Buffer.length_unread] at hsome
        omega
      rw [hoff, List.drop_zero]
      split
      · next hfit => rw [List.take_append_of_le_length hfit]
      · next hmore =>
        have hcut : (b.unread.drop offset).take n = b.unread.drop offset :=
          List.take_of_length_le (by omega)
        rw [List.take_append, hcut, ih, List.drop_zero]

theorem foldl_available (total : Nat) :
    bufs.foldl (fun total b => total + b.available) total = total + (unreadBytes bufs).length := by
  induction bufs generalizing total with
  | nil => simp
  | cons b bs ih =>
    rw [List.foldl_cons, ih, unreadBytes_cons, List.length_append, Buffer.length_unread]
    omega

/-- The byte queue a stream is. -/
def unread (s : TransportStream η) : List UInt8 := unreadBytes s.mBuffers

/-- The queue of whole buffers with their headers. -/
def records (s : TransportStream η) : List (List UInt8 × Option η) :=
  s.mBuffers.map fun b => (b.unread, b.mHeader)

variable (s : TransportStream η)

@[simp] theorem notifySubscribers_mBuffers (r w : Bool) :
    (s.notifySubscribers r w).mBuffers = s.mBuffers := by
  unfold notifySubscribers
  cases r <;> cases w <;> simp only [Bool.false_eq_true, if_true, if_false] <;> split <;> split <;> rfl

@[simp] theorem notifySubscribers_mShutdown (r w : Bool) :
    (s.notifySubscribers r w).mShutdown = s.mShutdown := by
  unfold notifySubscribers
  cases r <;> cases w <;> simp only [Bool.false_eq_true, if_true, if_false] <;> split <;> split <;> rfl

@[simp] theorem notifySubscribers_mBlockQueue (r w : Bool) :
    (s.notifySubscribers r w).mBlockQueue = s.mBlockQueue := by
  unfold notifySubscribers
  cases r <;> cases w <;> simp only [Bool.false_eq_true, if_true, if_false] <;> split <;> split <;> rfl

@[simp] theorem skip_mShutdown (n : Nat) : (s.skip n).2.mShutdown = s.mShutdown := by
  unfold skip
  split
  · rfl
  split
  · rfl
  · simp

/-- Before `cancel` and outside a block: reads and writes act on the queue. -/
structure Open : Prop where
  alive : s.mShutdown = false
  unblocked : s.mBlockQueue = none

variable {s}

theorem create_open : Open (create : TransportStream η) := ⟨rfl, rfl⟩

theorem Open.notify (h : Open s) (bufs : List (Buffer η)) (r w : Bool) :
    Open ({ s with mBuffers := bufs }.notifySubscribers r w) :=
  ⟨by simp [h.alive], by simp [h.unblocked]⟩

section

variable (h : Open s) (buffer : List UInt8) (header : Option η)
include h header

theorem write_open :
    s.write buffer header =
      { s with mBuffers := s.mBuffers ++ [Buffer.ofWrite buffer header] }.notifySubscribers false true := by
  simp [write, h.alive, h.unblocked]

theorem Open.write : Open (s.write buffer header) := by
  rw [write_open h]
  exact h.notify _ false true

theorem write_unread : (s.write buffer header).unread = s.unread ++ buffer := by
  simp [unread, write_open h]

theorem write_records : (s.write buffer header).records = s.records ++ [(buffer, header)] := by
  simp [records, write_open h]

end

theorem write_shutdown (h : s.mShutdown = true) (buffer : List UInt8) (header : Option η) :
    s.write buffer header = s := by
  simp [write, h]

theorem Open.readBuffer (h : Open s) : Open s.readBuffer.2 := by
  unfold TransportStream.readBuffer
  rw [if_neg (by simp [h.alive])]
  split
  · exact h
  · exact h.notify _ true false

theorem readBuffer_records (h : s.mShutdown = false) (bytes : List UInt8) (header : Option η)
    (rest : List (List UInt8 × Option η)) (hs : s.records = (bytes, header) :: rest) :
    s.readBuffer.1 = some (bytes, header) ∧ s.readBuffer.2.records = rest := by
  unfold TransportStream.readBuffer
  rw [if_neg (by simp [h])]
  cases hbuf : s.mBuffers with
  | nil => simp [records, hbuf] at hs
  | cons b bs =>
    simp only [records, hbuf, List.map_cons, List.cons.injEq] at hs
    obtain ⟨hb, hbs⟩ := hs
    simp [hb, records, hbs]

variable {r : List UInt8 × Option η} {s' : TransportStream η}

theorem readBuffer_unread (h : s.readBuffer = (some r, s')) : s.unread = r.1 ++ s'.unread := by
  unfold TransportStream.readBuffer at h
  split at h
  · cases h
  · split at h
    · cases h
    next hbuf =>
      cases h
      simp [unread, hbuf]

theorem records_of_readBuffer (h : s.readBuffer = (some r, s')) : s.records = r :: s'.records := by
  unfold TransportStream.readBuffer at h
  split at h
  · cases h
  · split at h
    · cases h
    next hbuf =>
      cases h
      simp [records, hbuf]

theorem readBuffer_empty (hs : s.records = []) : s.readBuffer = (none, s) := by
  have hbuf : s.mBuffers = [] := by simpa [records] using hs
  unfold TransportStream.readBuffer
  split
  · rfl
  · rw [hbuf]

theorem Open.read (h : Open s) (n : Nat) (hn : 0 < n) : Open (s.read n).2.2 := by
  unfold TransportStream.read
  rw [if_neg (by simp [h.alive]), if_neg (Nat.ne_of_gt hn)]
  exact h.notify _ true false

theorem read_unread (h : s.mShutdown = false) (n : Nat) (hn : 0 < n) :
    (s.read n).1 = s.unread.take n ∧ (s.read n).2.2.unread = s.unread.drop n := by
  have hbytes := consume_bytes s.mBuffers n
  simp only [TransportStream.read, h, Bool.false_eq_true, if_false, if_neg (Nat.ne_of_gt hn), unread,
    notifySubscribers_mBuffers]
  exact hbytes

theorem Open.skip (h : Open s) (n : Nat) : Open (s.skip n).2 := by
  unfold TransportStream.skip
  rw [if_neg (by simp [h.alive])]
  split
  · exact h
  · exact h.notify _ true false

theorem skip_unread (h : s.mShutdown = false) (n : Nat) :
    (s.skip n).1 = (s.unread.take n).length ∧ (s.skip n).2.unread = s.unread.drop n := by
  have hbytes := consume_bytes s.mBuffers n
  simp only [TransportStream.skip, h, Bool.false_eq_true, if_false, unread]
  split
  · next hn => simp [hn]
  · simp only [notifySubscribers_mBuffers]
    exact ⟨by rw [hbytes.1], hbytes.2⟩

theorem peek_unread (h : s.mShutdown = false) (n offset : Nat) : (s.peek n offset).1 = (s.unread.drop offset).take n := by
  simp only [peek, h, Bool.false_eq_true, if_false]
  exact peekLoop_bytes s.mBuffers offset n

theorem notifyReaderReadyToRead_mBuffers : s.notifyReaderReadyToRead.mBuffers = s.mBuffers := by
  unfold notifyReaderReadyToRead
  split
  · rfl
  · simp

@[simp] theorem notifyReaderReadyToRead_unread : s.notifyReaderReadyToRead.unread = s.unread := by
  rw [unread, notifyReaderReadyToRead_mBuffers, unread]

@[simp] theorem notifyReaderReadyToRead_records : s.notifyReaderReadyToRead.records = s.records := by
  rw [records, notifyReaderReadyToRead_mBuffers, records]

theorem Open.notifyReaderReadyToRead (h : Open s) : Open s.notifyReaderReadyToRead := by
  unfold TransportStream.notifyReaderReadyToRead
  rw [if_neg (by simp [h.alive])]
  exact ⟨by simp [h.alive], by simp [h.unblocked]⟩

theorem getTotalReadSize_eq : s.getTotalReadSizeAvailableInBytes = s.unread.length := by
  rw [getTotalReadSizeAvailableInBytes, foldl_available, Nat.zero_add]
  rfl

end Fifo

end TransportStream

end OpenPeer
