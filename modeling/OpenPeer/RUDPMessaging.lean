import OpenPeer.TransportStream
import OpenPeer.Framing

/-!
# Messages over a reliable byte stream

One end of a messaging channel: messages from the outer send stream go to the
wire with their size in front, and the receiver peeks at the size, waits until
the whole message is there, and takes it off the wire with a skip and a read.
-/
namespace OpenPeer

open Bytes Framing TransportStream

inductive RUDPMessagingStates where
  | connecting | connected | shuttingDown | shutdown
  deriving DecidableEq, Repr

/-- The streams of one end; the buffers on them carry no headers. -/
structure RUDPMessaging where
  mCurrentState : RUDPMessagingStates
  mOuterReceiveStream : TransportStream Unit
  mOuterSendStream : TransportStream Unit
  mWireReceiveStream : TransportStream Unit
  mWireSendStream : TransportStream Unit
  mInformedOuterReceiveReady : Bool
  mInformedWireSendReady : Bool
  deriving DecidableEq, Repr

namespace RUDPMessaging

def construct (receiveStream sendStream : TransportStream Unit) : RUDPMessaging where
  mCurrentState := .connecting
  mOuterReceiveStream := receiveStream
  mOuterSendStream := sendStream
  mWireReceiveStream := .create
  mWireSendStream := .create
  mInformedOuterReceiveReady := false
  mInformedWireSendReady := false

def isShutdown (t : RUDPMessaging) : Bool := t.mCurrentState == .shutdown

/-- The loop over the buffers of the outer send stream, one turn for each. -/
def sendLoop : Nat → RUDPMessaging → RUDPMessaging
  | 0, t => t
  | k + 1, t =>
    match t.mOuterSendStream.readBuffer with
    | (none, _) => t
    | (some (message, _), stream) =>
      sendLoop k
        { t with
          mOuterSendStream := stream
          mWireSendStream := t.mWireSendStream.write (toBE 4 message.length ++ message) none }

def stepSendData (t : RUDPMessaging) : RUDPMessaging :=
  if ¬t.mInformedWireSendReady then t
  else sendLoop t.mOuterSendStream.getTotalReadBuffersAvailable t

/-- One turn of the receive loop; `none` when it has to wait for more. -/
def receiveTurn (t : RUDPMessaging) : Option RUDPMessaging :=
  if t.mWireReceiveStream.getTotalReadBuffersAvailable = 0 then none else
  let peeked := t.mWireReceiveStream.peekDWord 0 .big
  let bufferSize := peeked.1.toNat
  if peeked.2.1 ≠ 4 then none else
  if t.mWireReceiveStream.getTotalReadSizeAvailableInBytes < 4 + bufferSize then none else
  let skipped := (t.mWireReceiveStream.skip 4).2
  if bufferSize > 0 then
    let r := skipped.read bufferSize
    some
      { t with
        mWireReceiveStream := r.2.2
        mOuterReceiveStream := t.mOuterReceiveStream.write r.1 none }
  else
    some { t with mWireReceiveStream := skipped }

variable (s : TransportStream Unit)

theorem peekDWord_eq (h : s.mShutdown = false) :
    (s.peekDWord 0 .big).2.1 = (s.unread.take 4).length ∧
      (4 ≤ s.unread.length → (s.peekDWord 0 .big).1.toNat = ofBE (s.unread.take 4)) := by
  have hpeek : (s.peek 4 0).1 = s.unread.take 4 := by
    rw [peek_unread h, List.drop_zero]
  simp only [peekDWord, hpeek, true_and]
  intro hlen
  have htake : (s.unread.take 4).length = 4 := by
    rw [List.length_take]
    omega
  have hlt := ofBE_lt (s.unread.take 4)
  rw [htake] at hlt
  simp only [wordOf, orderBytes, htake, Nat.sub_self, zeros, List.replicate_zero,
    List.append_nil]
  rw [UInt32.toNat_ofNat', Nat.mod_eq_of_lt (by omega)]

theorem getTotalReadBuffers_pos (h : s.unread ≠ []) : s.getTotalReadBuffersAvailable ≠ 0 := by
  intro hzero
  have hnil : s.mBuffers = [] := List.eq_nil_of_length_eq_zero hzero
  exact h (by simp [unread, hnil])

/-- What a turn leaves when it takes a message: the wire after it, and the message written out
unless it is empty. -/
def takenFrame (t : RUDPMessaging) (wire : TransportStream Unit) (message : List UInt8) : RUDPMessaging :=
  { t with
    mWireReceiveStream := wire
    mOuterReceiveStream :=
      if message = [] then t.mOuterReceiveStream else t.mOuterReceiveStream.write message none }

/-- The wire stream after the frame of a message of the given size. -/
def wireAfter (t : RUDPMessaging) (size : Nat) : TransportStream Unit :=
  let skipped := (t.mWireReceiveStream.skip 4).2
  if size > 0 then (skipped.read size).2.2 else skipped

variable (t : RUDPMessaging)

theorem wireAfter_unread (size : Nat) (h : t.mWireReceiveStream.mShutdown = false) :
    (t.wireAfter size).unread = t.mWireReceiveStream.unread.drop (4 + size) ∧
      (t.mWireReceiveStream.Open → (t.wireAfter size).Open) := by
  have hskip := (skip_unread h 4).2
  unfold wireAfter
  by_cases hpos : size > 0
  · have hread := (read_unread (s := (t.mWireReceiveStream.skip 4).2) (by simpa using h) size hpos).2
    rw [hskip, List.drop_drop] at hread
    simp only [if_pos hpos]
    exact ⟨hread, fun hopen => (hopen.skip 4).read size hpos⟩
  · have hzero : size = 0 := by omega
    rw [hzero]
    exact ⟨hskip, fun hopen => hopen.skip 4⟩

/-- A turn takes the frame at the front, if it is whole. -/
theorem receiveTurn_eq (h : t.mWireReceiveStream.mShutdown = false) :
    t.receiveTurn = match lengthNext 0 t.mWireReceiveStream.unread with
      | none => none
      | some (m, _) => some (t.takenFrame (t.wireAfter m.2.length) m.2) := by
  obtain ⟨hpeeked, hsize⟩ := peekDWord_eq t.mWireReceiveStream h
  by_cases hheader : t.mWireReceiveStream.unread.length < 4
  · rw [lengthNext_none 0 _ (Or.inl (by omega))]
    have hne : (t.mWireReceiveStream.peekDWord 0 .big).2.1 ≠ 4 := by
      rw [hpeeked, List.length_take]
      omega
    simp [receiveTurn, hne]
  have hsize := hsize (by omega)
  have hfour : (t.mWireReceiveStream.peekDWord 0 .big).2.1 = 4 := by
    rw [hpeeked, List.length_take]
    omega
  have hslice : slice t.mWireReceiveStream.unread 0 4 = t.mWireReceiveStream.unread.take 4 := by
    simp [slice]
  have hcount := getTotalReadBuffers_pos t.mWireReceiveStream (by
    intro hnil
    exact hheader (by rw [hnil]; decide))
  by_cases hfull : t.mWireReceiveStream.unread.length < 4 + ofBE (t.mWireReceiveStream.unread.take 4)
  · rw [lengthNext_none 0 _ (Or.inr (by rw [hslice]; omega))]
    simp only [receiveTurn, hcount, hfour, hsize, getTotalReadSize_eq, if_false, ne_eq,
      not_true_eq_false, if_pos hfull]
  rw [lengthNext_some 0 _ (by rw [hslice]; omega)]
  have hskip := (skip_unread h 4).2
  have hlen := length_slice t.mWireReceiveStream.unread 4 (ofBE (t.mWireReceiveStream.unread.take 4))
    (Nat.le_of_not_lt hfull)
  simp only [receiveTurn, hcount, hfour, hsize, getTotalReadSize_eq, if_false, ne_eq,
    not_true_eq_false, if_neg hfull, hslice, Nat.zero_add, takenFrame, wireAfter, hlen]
  by_cases hpos : ofBE (t.mWireReceiveStream.unread.take 4) > 0
  · have hbytes := (read_unread (s := (t.mWireReceiveStream.skip 4).2) (by simpa using h) _ hpos).1
    rw [hskip] at hbytes
    have hne : slice t.mWireReceiveStream.unread 4 (ofBE (t.mWireReceiveStream.unread.take 4)) ≠ [] := by
      rw [← List.length_pos_iff]
      omega
    rw [if_pos hpos, if_pos hpos, if_neg hne, hbytes]
    rfl
  · have hnil : slice t.mWireReceiveStream.unread 4 (ofBE (t.mWireReceiveStream.unread.take 4)) = [] :=
      List.eq_nil_of_length_eq_zero (by omega)
    rw [if_neg hpos, if_neg hpos, if_pos hnil]

theorem receiveTurn_cancelled (h : t.mWireReceiveStream.mShutdown = true) : t.receiveTurn = none := by
  have hpeek : (t.mWireReceiveStream.peekDWord 0 .big).2.1 = 0 := by
    simp [peekDWord, peek, h]
  simp [receiveTurn, hpeek]

theorem receiveTurn_length (t' : RUDPMessaging) (h : t.receiveTurn = some t') :
    t'.mWireReceiveStream.unread.length < t.mWireReceiveStream.unread.length := by
  cases hshut : t.mWireReceiveStream.mShutdown with
  | true =>
    rw [receiveTurn_cancelled t hshut] at h
    cases h
  | false =>
    rw [receiveTurn_eq t hshut] at h
    cases hnext : lengthNext 0 t.mWireReceiveStream.unread with
    | none =>
      rw [hnext] at h
      cases h
    | some r =>
      rw [hnext] at h
      cases h
      have hlt := lengthNext_length _ r.1 r.2 hnext
      change (t.wireAfter r.1.2.length).unread.length < _
      rw [(t.wireAfter_unread r.1.2.length hshut).1, List.length_drop]
      omega

/-- The receive loop. -/
def receiveLoop (t : RUDPMessaging) : RUDPMessaging :=
  match h : t.receiveTurn with
  | none => t
  | some t' =>
    have := receiveTurn_length t t' h
    receiveLoop t'
termination_by t.mWireReceiveStream.unread.length

def stepReceiveData (t : RUDPMessaging) : RUDPMessaging :=
  if ¬t.mInformedOuterReceiveReady then t else t.receiveLoop

def step (t : RUDPMessaging) : RUDPMessaging :=
  if t.isShutdown then t else t.stepSendData.stepReceiveData

/-- Which of the streams a notification is about. -/
inductive Writer where
  | outerReceive | wireSend
  deriving DecidableEq, Repr

def onTransportStreamWriterReady (t : RUDPMessaging) (writer : Writer) : RUDPMessaging :=
  match writer with
  | .outerReceive =>
    { t with
      mWireReceiveStream := t.mWireReceiveStream.notifyReaderReadyToRead
      mInformedOuterReceiveReady := true }.step
  | .wireSend =>
    { t with
      mOuterSendStream := t.mOuterSendStream.notifyReaderReadyToRead
      mInformedWireSendReady := true }.step

def onTransportStreamReaderReady (t : RUDPMessaging) : RUDPMessaging := t.step

end RUDPMessaging

end OpenPeer
