import OpenPeer.RUDPMessaging
import OpenPeer.Runs

/-!
# Two ends of a messaging channel

A sender and a receiver joined by a byte stream that cuts what it carries as it
likes, with notifications and steps in any order on both ends. The bytes on
their way are the frames of the messages still to come, and a step of a receiver
that may write leaves a proper part of one frame on its wire.
-/
namespace OpenPeer

open Bytes Framing Runs TransportStream

namespace RUDPMessaging

/-- The framing of the wire: four bytes of size and the message. -/
def wireCode : Code UInt8 (List UInt8 × List UInt8) := lengthPrefixed 0

/-- A message as a frame of the wire. -/
def wireFrame (message : List UInt8) : List UInt8 × List UInt8 := ([], message)

def wireBytes (messages : List (List UInt8)) : List UInt8 := encodeAll wireCode (messages.map wireFrame)

theorem wireBytes_append (as bs : List (List UInt8)) : wireBytes (as ++ bs) = wireBytes as ++ wireBytes bs := by
  simp [wireBytes]

theorem wireBytes_cons (message : List UInt8) (messages : List (List UInt8)) :
    wireBytes (message :: messages) = toBE 4 message.length ++ message ++ wireBytes messages := rfl

/-- The messages queued in a stream. -/
def queued (s : TransportStream Unit) : List (List UInt8) := s.records.map Prod.fst

section Steps

variable (t : RUDPMessaging)

/-- The send loop moves messages, framed, from the outer stream to the wire, and nothing else. -/
theorem sendLoop_moves (k : Nat) (houter : t.mOuterSendStream.Open) (hwire : t.mWireSendStream.Open) :
    ∃ outer wire, outer.Open ∧ wire.Open ∧
      sendLoop k t = { t with mOuterSendStream := outer, mWireSendStream := wire } ∧
      queued outer = (queued t.mOuterSendStream).drop k ∧
      wire.unread ++ wireBytes (queued outer) = t.mWireSendStream.unread ++ wireBytes (queued t.mOuterSendStream) := by
  induction k generalizing t with
  | zero => exact ⟨t.mOuterSendStream, t.mWireSendStream, houter, hwire, rfl, rfl, rfl⟩
  | succ k ih =>
    cases hrecords : t.mOuterSendStream.records with
    | nil =>
      rw [sendLoop, readBuffer_empty hrecords]
      exact ⟨t.mOuterSendStream, t.mWireSendStream, houter, hwire, rfl, by simp [queued, hrecords], rfl⟩
    | cons r rest =>
      obtain ⟨hread, hrest⟩ := readBuffer_records houter.alive r.1 r.2 rest hrecords
      have hpair : t.mOuterSendStream.readBuffer = (some (r.1, r.2), t.mOuterSendStream.readBuffer.2) :=
        Prod.ext hread rfl
      rw [sendLoop, hpair]
      obtain ⟨outer, wire, houter', hwire', hloop, hdrop, hbytes⟩ := ih
        { t with
          mOuterSendStream := t.mOuterSendStream.readBuffer.2
          mWireSendStream := t.mWireSendStream.write (toBE 4 r.1.length ++ r.1) none }
        houter.readBuffer (hwire.write _ _)
      refine ⟨outer, wire, houter', hwire', hloop, ?_, ?_⟩
      · rw [hdrop]
        simp [queued, hrest, hrecords]
      · rw [hbytes]
        simp only [queued, hrest, hrecords, List.map_cons, wireBytes_cons,
          write_unread hwire, List.append_assoc]

/-- The receive loop writes out the messages that are whole and keeps the rest on the wire. -/
theorem receiveLoop_drain (ms : List (List UInt8 × List UInt8)) (rest : List UInt8)
    (hwire : t.mWireReceiveStream.Open) (houter : t.mOuterReceiveStream.Open)
    (hdrain : drain wireCode t.mWireReceiveStream.unread = (ms, rest)) (hne : ∀ m ∈ ms, m.2 ≠ []) :
    ∃ wire outer, wire.Open ∧ outer.Open ∧
      t.receiveLoop = { t with mWireReceiveStream := wire, mOuterReceiveStream := outer } ∧
      wire.unread = rest ∧ queued outer = queued t.mOuterReceiveStream ++ ms.map Prod.snd := by
  induction ms generalizing t with
  | nil =>
    have hnone : wireCode.next t.mWireReceiveStream.unread = none := by
      cases hnext : wireCode.next t.mWireReceiveStream.unread with
      | none => rfl
      | some r => simp [drain_some _ _ r.1 r.2 hnext] at hdrain
    have hturn := receiveTurn_eq t hwire.alive
    rw [show lengthNext 0 t.mWireReceiveStream.unread = none from hnone] at hturn
    rw [drain_none _ _ hnone] at hdrain
    cases hdrain
    refine ⟨t.mWireReceiveStream, t.mOuterReceiveStream, hwire, houter, ?_, rfl, by simp⟩
    rw [receiveLoop]
    split
    · rfl
    · next h => rw [hturn] at h; cases h
  | cons m ms ih =>
    cases hnext : wireCode.next t.mWireReceiveStream.unread with
    | none => simp [drain_none _ _ hnext] at hdrain
    | some r =>
      rw [drain_some _ _ r.1 r.2 hnext] at hdrain
      simp only [Prod.mk.injEq, List.cons.injEq] at hdrain
      obtain ⟨⟨hm, hms⟩, hrest⟩ := hdrain
      subst hm
      have hturn := receiveTurn_eq t hwire.alive
      rw [show lengthNext 0 t.mWireReceiveStream.unread = some r from hnext] at hturn
      obtain ⟨hafter, hopen⟩ := t.wireAfter_unread r.1.2.length hwire.alive
      have hleft := lengthNext_rest _ r.1 r.2 hnext
      rw [Nat.zero_add] at hleft
      have hr : r.1.2 ≠ [] := hne r.1 List.mem_cons_self
      obtain ⟨wire, outer, hwire', houter', hloop, hunread, hqueued⟩ := ih
        (t.takenFrame (t.wireAfter r.1.2.length) r.1.2) (hopen hwire)
        (by simp only [takenFrame, if_neg hr]; exact houter.write _ _)
        (by
          change drain wireCode (t.wireAfter r.1.2.length).unread = _
          rw [hafter, ← hleft, ← hms, ← hrest])
        (fun x hx => hne x (List.mem_cons_of_mem _ hx))
      refine ⟨wire, outer, hwire', houter', ?_, hunread, ?_⟩
      · rw [receiveLoop]
        split
        · next h => rw [hturn] at h; cases h
        · next h =>
          rw [hturn] at h
          cases h
          exact hloop
      · rw [hqueued]
        simp [takenFrame, if_neg hr, queued, write_records houter]

theorem sendLoop_keeps (k : Nat) :
    (sendLoop k t).mWireReceiveStream = t.mWireReceiveStream ∧
      (sendLoop k t).mOuterReceiveStream = t.mOuterReceiveStream ∧
      (sendLoop k t).mInformedOuterReceiveReady = t.mInformedOuterReceiveReady ∧
      (sendLoop k t).mCurrentState = t.mCurrentState := by
  induction k generalizing t with
  | zero => exact ⟨rfl, rfl, rfl, rfl⟩
  | succ k ih =>
    rw [sendLoop]
    split
    · exact ⟨rfl, rfl, rfl, rfl⟩
    · exact ih _

/-- Receiving touches nothing but its two streams, whatever state they are in. -/
theorem receiveLoop_keeps :
    t.receiveLoop.mOuterSendStream = t.mOuterSendStream ∧ t.receiveLoop.mWireSendStream = t.mWireSendStream ∧
      t.receiveLoop.mCurrentState = t.mCurrentState ∧
      t.receiveLoop.mInformedWireSendReady = t.mInformedWireSendReady := by
  have hturn (t t' : RUDPMessaging) (h : t.receiveTurn = some t') :
      t'.mOuterSendStream = t.mOuterSendStream ∧ t'.mWireSendStream = t.mWireSendStream ∧
        t'.mCurrentState = t.mCurrentState ∧ t'.mInformedWireSendReady = t.mInformedWireSendReady := by
    cases hshut : t.mWireReceiveStream.mShutdown with
    | true =>
      rw [receiveTurn_cancelled t hshut] at h
      cases h
    | false =>
      rw [receiveTurn_eq t hshut] at h
      split at h
      · cases h
      · cases h
        exact ⟨rfl, rfl, rfl, rfl⟩
  induction t using receiveLoop.induct with
  | case1 t hnone =>
    rw [receiveLoop]
    split
    · exact ⟨rfl, rfl, rfl, rfl⟩
    · next h => rw [hnone] at h; cases h
  | case2 t t' hsome hlt ih =>
    rw [receiveLoop]
    split
    · next h => rw [hsome] at h; cases h
    · next h =>
      rw [hsome] at h
      cases h
      obtain ⟨h1, h2, h3, h4⟩ := hturn t t' hsome
      exact ⟨ih.1.trans h1, ih.2.1.trans h2, ih.2.2.1.trans h3, ih.2.2.2.trans h4⟩

end Steps

section Ends

/-- An end that can send: it is not shut down and the two streams are open. -/
structure CanSend (t : RUDPMessaging) : Prop where
  alive : t.isShutdown = false
  outer : t.mOuterSendStream.Open
  wire : t.mWireSendStream.Open

structure CanReceive (t : RUDPMessaging) : Prop where
  alive : t.isShutdown = false
  outer : t.mOuterReceiveStream.Open
  wire : t.mWireReceiveStream.Open

/-- What is to go out of an end: the bytes on its wire and the frames of its messages. -/
def outgoing (t : RUDPMessaging) : List UInt8 := t.mWireSendStream.unread ++ wireBytes (queued t.mOuterSendStream)

/-- A step of a sender: the same bytes are to go out, and all of them are on the wire when the
wire is known to be ready. -/
theorem step_sends (t : RUDPMessaging) (h : CanSend t) :
    CanSend t.step ∧ outgoing t.step = outgoing t ∧
      (t.mInformedWireSendReady → queued t.step.mOuterSendStream = []) := by
  have hreceive (u : RUDPMessaging) : u.stepReceiveData.mOuterSendStream = u.mOuterSendStream ∧
      u.stepReceiveData.mWireSendStream = u.mWireSendStream ∧
      u.stepReceiveData.mCurrentState = u.mCurrentState := by
    unfold stepReceiveData
    split
    · exact ⟨rfl, rfl, rfl⟩
    · exact ⟨(receiveLoop_keeps u).1, (receiveLoop_keeps u).2.1, (receiveLoop_keeps u).2.2.1⟩
  have hstep : t.step = t.stepSendData.stepReceiveData := by
    unfold step
    rw [if_neg (by simp [h.alive])]
  obtain ⟨houter, hwire, hstate⟩ := hreceive t.stepSendData
  by_cases hready : t.mInformedWireSendReady = true
  · have hsend : t.stepSendData = sendLoop t.mOuterSendStream.getTotalReadBuffersAvailable t := by
      unfold stepSendData
      rw [if_neg (by simp [hready])]
    obtain ⟨outer, wire, hopenOuter, hopenWire, hloop, hdrop, hbytes⟩ :=
      sendLoop_moves t t.mOuterSendStream.getTotalReadBuffersAvailable h.outer h.wire
    rw [← hsend] at hloop
    rw [hloop] at houter hwire hstate
    have hempty : queued outer = [] := by
      rw [hdrop]
      simp [queued, records, getTotalReadBuffersAvailable]
    rw [hstep, hloop]
    refine ⟨⟨?_, ?_, ?_⟩, ?_, ?_⟩
    · rw [isShutdown, hstate]
      exact h.alive
    · rw [houter]
      exact hopenOuter
    · rw [hwire]
      exact hopenWire
    · rw [outgoing, houter, hwire]
      exact hbytes
    · rw [houter]
      exact fun _ => hempty
  · have hsend : t.stepSendData = t := by
      unfold stepSendData
      rw [if_pos hready]
    rw [hstep]
    rw [hsend] at houter hwire hstate ⊢
    refine ⟨⟨?_, ?_, ?_⟩, ?_, fun hinformed => absurd hinformed hready⟩
    · rw [isShutdown, hstate]
      exact h.alive
    · rw [houter]
      exact h.outer
    · rw [hwire]
      exact h.wire
    · rw [outgoing, houter, hwire, outgoing]

/-- A step of a receiver that may write takes every whole message off its wire. -/
theorem step_receives (t : RUDPMessaging) (h : CanReceive t) (ms : List (List UInt8 × List UInt8))
    (rest : List UInt8) (hdrain : drain wireCode t.mWireReceiveStream.unread = (ms, rest))
    (hne : ∀ m ∈ ms, m.2 ≠ []) :
    CanReceive t.step ∧ t.step.mInformedOuterReceiveReady = t.mInformedOuterReceiveReady ∧
      if t.mInformedOuterReceiveReady then
        t.step.mWireReceiveStream.unread = rest ∧
          queued t.step.mOuterReceiveStream = queued t.mOuterReceiveStream ++ ms.map Prod.snd
      else
        t.step.mWireReceiveStream.unread = t.mWireReceiveStream.unread ∧
          queued t.step.mOuterReceiveStream = queued t.mOuterReceiveStream := by
  have hstep : t.step = t.stepSendData.stepReceiveData := by
    unfold step
    rw [if_neg (by simp [h.alive])]
  have hkeeps : t.stepSendData.mWireReceiveStream = t.mWireReceiveStream ∧
      t.stepSendData.mOuterReceiveStream = t.mOuterReceiveStream ∧
      t.stepSendData.mInformedOuterReceiveReady = t.mInformedOuterReceiveReady ∧
      t.stepSendData.mCurrentState = t.mCurrentState := by
    unfold stepSendData
    split
    · exact ⟨rfl, rfl, rfl, rfl⟩
    · exact sendLoop_keeps t _
  obtain ⟨hwire, houter, hinformed, hstate⟩ := hkeeps
  have halive : t.stepSendData.isShutdown = false := by
    rw [isShutdown, hstate]
    exact h.alive
  by_cases hready : t.mInformedOuterReceiveReady = true
  · obtain ⟨wire, outer, hopenWire, hopenOuter, hloop, hunread, hqueued⟩ :=
      receiveLoop_drain t.stepSendData ms rest (by rw [hwire]; exact h.wire) (by rw [houter]; exact h.outer)
        (by rw [hwire]; exact hdrain) hne
    have hreceive : t.stepSendData.stepReceiveData = t.stepSendData.receiveLoop := by
      unfold stepReceiveData
      rw [if_neg (by simp [hinformed, hready])]
    rw [houter] at hqueued
    rw [hstep, hreceive, hloop, if_pos hready]
    exact ⟨⟨halive, hopenOuter, hopenWire⟩, hinformed, hunread, hqueued⟩
  · have hreceive : t.stepSendData.stepReceiveData = t.stepSendData := by
      unfold stepReceiveData
      rw [if_pos (by simpa [hinformed] using hready)]
    rw [hstep, hreceive, if_neg hready]
    exact ⟨⟨halive, by rw [houter]; exact h.outer, by rw [hwire]; exact h.wire⟩, hinformed, by rw [hwire],
      by rw [houter]⟩

end Ends

end RUDPMessaging

open RUDPMessaging

/-- A message to send: not empty, and of a size that fits the type of sizes. -/
structure OuterMessage where
  bytes : List UInt8
  nonempty : bytes ≠ []
  size_lt : bytes.length < 2 ^ 32

structure RUDPMessagingLink where
  sender : RUDPMessaging
  receiver : RUDPMessaging
  /-- Bytes the stream between the ends took from one wire and has not put on the other. -/
  pipe : List UInt8
  /-- All messages written to the sender's outer send stream. -/
  written : List (List UInt8)
  /-- All messages read from the receiver's outer receive stream. -/
  taken : List (List UInt8)

inductive RUDPMessagingEvent where
  | write (message : OuterMessage)
  | senderWriterReady (writer : Writer)
  | senderReaderReady
  | receiverWriterReady (writer : Writer)
  | receiverReaderReady
  | transmit (size : Nat)
  | deliver (size : Nat)
  | take
  /-- Traffic the other way. -/
  | reverseDeliver (bytes : List UInt8)
  | reverseWrite (bytes : List UInt8)

namespace RUDPMessagingLink

def step (l : RUDPMessagingLink) : RUDPMessagingEvent → RUDPMessagingLink
  | .write message =>
    { l with
      sender := { l.sender with mOuterSendStream := l.sender.mOuterSendStream.write message.bytes none }
      written := l.written ++ [message.bytes] }
  | .senderWriterReady writer => { l with sender := l.sender.onTransportStreamWriterReady writer }
  | .senderReaderReady => { l with sender := l.sender.onTransportStreamReaderReady }
  | .receiverWriterReady writer => { l with receiver := l.receiver.onTransportStreamWriterReady writer }
  | .receiverReaderReady => { l with receiver := l.receiver.onTransportStreamReaderReady }
  | .transmit size =>
    if size = 0 then l else
    let r := l.sender.mWireSendStream.read size
    { l with sender := { l.sender with mWireSendStream := r.2.2 }, pipe := l.pipe ++ r.1 }
  | .deliver size =>
    { l with
      receiver :=
        { l.receiver with mWireReceiveStream := l.receiver.mWireReceiveStream.write (l.pipe.take size) none }
      pipe := l.pipe.drop size }
  | .take =>
    match l.receiver.mOuterReceiveStream.readBuffer with
    | (none, _) => l
    | (some (message, _), stream) =>
      { l with
        receiver := { l.receiver with mOuterReceiveStream := stream }
        taken := l.taken ++ [message] }
  | .reverseDeliver bytes =>
    { l with
      sender := { l.sender with mWireReceiveStream := l.sender.mWireReceiveStream.write bytes none } }
  | .reverseWrite bytes =>
    { l with
      receiver := { l.receiver with mOuterSendStream := l.receiver.mOuterSendStream.write bytes none } }

/-- All messages that have come out at the receiver. -/
def delivered (l : RUDPMessagingLink) : List (List UInt8) := l.taken ++ queued l.receiver.mOuterReceiveStream

/-- Two ends that are up, nothing written and nothing on the way. -/
structure Fresh (l : RUDPMessagingLink) : Prop where
  sender : l.sender.CanSend
  receiver : l.receiver.CanReceive
  outgoing : outgoing l.sender = []
  pipe : l.pipe = []
  incoming : l.receiver.mWireReceiveStream.unread = []
  delivered : l.delivered = []
  written : l.written = []

/-- The frames of `todo` are exactly the bytes underway. -/
structure Underway (l : RUDPMessagingLink) (todo : List (List UInt8)) : Prop where
  nonempty : ∀ m ∈ todo, m ≠ []
  sizes : ∀ m ∈ todo, m.length < 256 ^ 4
  account : l.written = l.delivered ++ todo
  bytes : l.receiver.mWireReceiveStream.unread ++ (l.pipe ++ outgoing l.sender) = wireBytes todo

structure Inv (l : RUDPMessagingLink) : Prop where
  sender : l.sender.CanSend
  receiver : l.receiver.CanReceive
  underway : ∃ todo, Underway l todo

/-- The unread bytes are a proper prefix of one frame. -/
def PartialFrame (unread : List UInt8) : Prop :=
  ∃ message : OuterMessage, unread <+: wireBytes [message.bytes] ∧ unread ≠ wireBytes [message.bytes]

theorem partialFrame_of_unfinished (rest : List UInt8) (todo : List (List UInt8)) (hne : ∀ m ∈ todo, m ≠ [])
    (hsizes : ∀ m ∈ todo, m.length < 256 ^ 4) (h : Unfinished wireCode rest (todo.map wireFrame)) :
    PartialFrame rest := by
  rcases h with rfl | ⟨m, ms, hms, hprefix, hproper⟩
  · exact ⟨⟨[0], by simp, by simp⟩, List.nil_prefix, by simp [wireBytes_cons]⟩
  · obtain ⟨x, xs, rfl, rfl, -⟩ := List.map_eq_cons_iff.mp hms
    refine ⟨⟨x, hne x List.mem_cons_self, hsizes x List.mem_cons_self⟩, ?_, ?_⟩
    · simpa [wireBytes] using hprefix
    · simpa [wireBytes] using hproper

variable (todo : List (List UInt8))

theorem partialFrame_whole (hsizes : ∀ m ∈ todo, m.length < 256 ^ 4) (h : PartialFrame (wireBytes todo)) :
    todo = [] := by
  obtain ⟨x, ⟨q, hq⟩, hne⟩ := h
  cases todo with
  | nil => rfl
  | cons m ms =>
    exfalso
    have hx : wireCode.Valid (wireFrame x.bytes) := ⟨rfl, x.size_lt⟩
    have hm : wireCode.Valid (wireFrame m) := ⟨rfl, hsizes m List.mem_cons_self⟩
    have hframe : wireBytes [x.bytes] = wireCode.encode (wireFrame x.bytes) := by simp [wireBytes]
    have hshort := wireCode.next_short (wireFrame x.bytes) hx (wireBytes (m :: ms)) q (hq.trans hframe) (by
      rintro rfl
      exact hne (by simpa using hq))
    have hwhole := wireCode.next_encode (wireFrame m) hm (wireBytes ms)
    rw [show wireCode.encode (wireFrame m) ++ wireBytes ms = wireBytes (m :: ms) from rfl, hshort] at hwhole
    cases hwhole

variable (l : RUDPMessagingLink)

theorem fresh_inv (h : Fresh l) : Inv l := by
  refine ⟨h.sender, h.receiver, [], by simp, by simp, ?_, ?_⟩
  · rw [h.written, h.delivered, List.append_nil]
  · rw [h.incoming, h.pipe, h.outgoing]
    rfl

theorem frames_valid (h : ∀ m ∈ todo, m.length < 256 ^ 4) : ∀ m ∈ todo.map wireFrame, wireCode.Valid m := by
  intro m hm
  obtain ⟨x, hx, rfl⟩ := List.mem_map.mp hm
  exact ⟨rfl, h x hx⟩

theorem write_inv (message : OuterMessage) (h : Inv l) : Inv (l.step (.write message)) := by
  obtain ⟨todo, hunder⟩ := h.underway
  have hrecords := write_records h.sender.outer message.bytes none
  refine ⟨⟨h.sender.alive, h.sender.outer.write _ _, h.sender.wire⟩, h.receiver, todo ++ [message.bytes],
    ?_, ?_, ?_, ?_⟩
  · intro m hm
    rcases List.mem_append.mp hm with hm | hm
    · exact hunder.nonempty m hm
    · rw [List.mem_singleton.mp hm]
      exact message.nonempty
  · intro m hm
    rcases List.mem_append.mp hm with hm | hm
    · exact hunder.sizes m hm
    · rw [List.mem_singleton.mp hm]
      exact message.size_lt
  · simp only [step, delivered]
    rw [hunder.account, delivered, List.append_assoc]
  · have hbytes := hunder.bytes
    simp only [outgoing, queued] at hbytes
    simp only [step, outgoing, queued, hrecords, List.map_append, List.map_cons, List.map_nil, wireBytes_append]
    rw [← hbytes]
    simp only [List.append_assoc]

variable (t : RUDPMessaging)

theorem sender_inv (h : Inv l) (hsend : CanSend t) (hout : outgoing t = outgoing l.sender) :
    Inv { l with sender := t } := by
  obtain ⟨todo, hunder⟩ := h.underway
  exact ⟨hsend, h.receiver, todo, hunder.nonempty, hunder.sizes, hunder.account, by rw [← hunder.bytes, hout]⟩

/-- A notification only sets a flag before the step. -/
theorem senderWriterReady_sends (writer : Writer) (h : CanSend t) :
    CanSend (t.onTransportStreamWriterReady writer) ∧
      outgoing (t.onTransportStreamWriterReady writer) = outgoing t ∧
      (writer = .wireSend → queued (t.onTransportStreamWriterReady writer).mOuterSendStream = []) := by
  cases writer with
  | outerReceive =>
    obtain ⟨hcan, hout, -⟩ := step_sends
      { t with
        mWireReceiveStream := t.mWireReceiveStream.notifyReaderReadyToRead
        mInformedOuterReceiveReady := true } { h with }
    exact ⟨hcan, hout, fun heq => by cases heq⟩
  | wireSend =>
    obtain ⟨hcan, hout, hflushed⟩ := step_sends
      { t with
        mOuterSendStream := t.mOuterSendStream.notifyReaderReadyToRead
        mInformedWireSendReady := true } ⟨h.alive, h.outer.notifyReaderReadyToRead, h.wire⟩
    refine ⟨hcan, hout.trans ?_, fun _ => hflushed rfl⟩
    simp [outgoing, queued]

/-- A receiver's step moves whole messages out and leaves a proper part of one frame. -/
theorem receiver_inv (h : Inv l) (hreceive : CanReceive t)
    (hunread : t.mWireReceiveStream.unread = l.receiver.mWireReceiveStream.unread)
    (hqueued : queued t.mOuterReceiveStream = queued l.receiver.mOuterReceiveStream) :
    Inv { l with receiver := t.step } ∧
      (t.mInformedOuterReceiveReady → PartialFrame t.step.mWireReceiveStream.unread) := by
  obtain ⟨todo, hunder⟩ := h.underway
  have hvalid := frames_valid todo hunder.sizes
  have hbytes := hunder.bytes
  rw [← hunread] at hbytes
  obtain ⟨done, todo', htodo, hdone, hrest, hpart⟩ := drain_prefix wireCode _ _ _ hvalid hbytes
  obtain ⟨as, bs, htodo', hdone', htodo''⟩ := List.map_eq_append_iff.mp htodo
  subst htodo'
  have hmem (m : List UInt8 × List UInt8) (hm : m ∈ done) : m.2 ≠ [] := by
    rw [← hdone'] at hm
    obtain ⟨x, hx, rfl⟩ := List.mem_map.mp hm
    exact hunder.nonempty x (List.mem_append_left _ hx)
  obtain ⟨hcan, hinformed, hmoved⟩ := step_receives t hreceive done _ (Prod.ext hdone rfl) hmem
  by_cases hready : t.mInformedOuterReceiveReady = true
  · rw [if_pos hready] at hmoved
    obtain ⟨hleft, hout⟩ := hmoved
    refine ⟨⟨h.sender, hcan, bs, ?_, ?_, ?_, ?_⟩, fun _ => ?_⟩
    · exact fun m hm => hunder.nonempty m (List.mem_append_right _ hm)
    · exact fun m hm => hunder.sizes m (List.mem_append_right _ hm)
    · have hsnd : done.map Prod.snd = as := by
        rw [← hdone', List.map_map]
        exact List.map_id as
      rw [delivered, hout, hqueued, hsnd, hunder.account, delivered]
      simp only [List.append_assoc]
    · rw [hleft, wireBytes, htodo'']
      exact hrest
    · rw [hleft]
      exact partialFrame_of_unfinished _ bs (fun m hm => hunder.nonempty m (List.mem_append_right _ hm))
        (fun m hm => hunder.sizes m (List.mem_append_right _ hm)) (by rw [htodo'']; exact hpart)
  · rw [if_neg hready] at hmoved
    obtain ⟨hleft, hout⟩ := hmoved
    refine ⟨⟨h.sender, hcan, as ++ bs, hunder.nonempty, hunder.sizes, ?_, ?_⟩, fun hyes => absurd hyes hready⟩
    · rw [delivered, hout, hqueued, hunder.account, delivered]
    · rw [hleft, hunread]
      exact hunder.bytes

/-- The receiver's notifications set a flag, and then it steps. -/
def receiverBefore (t : RUDPMessaging) : RUDPMessagingEvent → Option RUDPMessaging
  | .receiverWriterReady .outerReceive =>
    some
      { t with
        mWireReceiveStream := t.mWireReceiveStream.notifyReaderReadyToRead
        mInformedOuterReceiveReady := true }
  | .receiverWriterReady .wireSend =>
    some
      { t with
        mOuterSendStream := t.mOuterSendStream.notifyReaderReadyToRead
        mInformedWireSendReady := true }
  | .receiverReaderReady => some t
  | _ => none

variable (e : RUDPMessagingEvent)

theorem receiverBefore_step (t : RUDPMessaging) (he : receiverBefore l.receiver e = some t) :
    l.step e = { l with receiver := t.step } := by
  cases e with
  | receiverWriterReady writer =>
    cases writer with
    | outerReceive => cases he; rfl
    | wireSend => cases he; rfl
  | receiverReaderReady => cases he; rfl
  | write _ | senderWriterReady _ | senderReaderReady | transmit _ | deliver _ | take | reverseDeliver _
  | reverseWrite _ => cases he

/-- After a receiver's step the invariant holds, and a receiver that may write has only a proper
part of one frame on its wire. -/
theorem receiverStep_inv (t : RUDPMessaging) (h : Inv l) (he : receiverBefore l.receiver e = some t) :
    Inv (l.step e) ∧ (t.mInformedOuterReceiveReady → PartialFrame (l.step e).receiver.mWireReceiveStream.unread) := by
  rw [receiverBefore_step l e t he]
  cases e with
  | receiverWriterReady writer =>
    cases writer with
    | outerReceive =>
      cases he
      exact receiver_inv l _ h ⟨h.receiver.alive, h.receiver.outer, h.receiver.wire.notifyReaderReadyToRead⟩
        (by simp) rfl
    | wireSend =>
      cases he
      exact receiver_inv l _ h ⟨h.receiver.alive, h.receiver.outer, h.receiver.wire⟩ rfl rfl
  | receiverReaderReady =>
    cases he
    exact receiver_inv l _ h h.receiver rfl rfl
  | write _ | senderWriterReady _ | senderReaderReady | transmit _ | deliver _ | take | reverseDeliver _
  | reverseWrite _ => cases he

variable (size : Nat)

theorem transmit_inv (h : Inv l) : Inv (l.step (.transmit size)) := by
  simp only [step]
  split
  · exact h
  next hsize =>
  obtain ⟨todo, hunder⟩ := h.underway
  obtain ⟨hread, hleft⟩ := read_unread h.sender.wire.alive size (Nat.pos_of_ne_zero hsize)
  refine ⟨⟨h.sender.alive, h.sender.outer, h.sender.wire.read size (Nat.pos_of_ne_zero hsize)⟩, h.receiver, todo,
    hunder.nonempty, hunder.sizes, hunder.account, ?_⟩
  rw [← hunder.bytes]
  simp only [outgoing, hread, hleft]
  rw [List.append_assoc l.pipe, ← List.append_assoc (l.sender.mWireSendStream.unread.take size),
    List.take_append_drop]

theorem deliver_inv (h : Inv l) : Inv (l.step (.deliver size)) := by
  obtain ⟨todo, hunder⟩ := h.underway
  have hunread := write_unread h.receiver.wire (l.pipe.take size) none
  refine ⟨h.sender, ⟨h.receiver.alive, h.receiver.outer, h.receiver.wire.write _ _⟩, todo, hunder.nonempty,
    hunder.sizes, hunder.account, ?_⟩
  rw [← hunder.bytes]
  simp only [step, hunread]
  rw [List.append_assoc, ← List.append_assoc (l.pipe.take size), List.take_append_drop]

theorem take_inv (h : Inv l) : Inv (l.step .take) := by
  obtain ⟨todo, hunder⟩ := h.underway
  cases hrecords : l.receiver.mOuterReceiveStream.records with
  | nil =>
    simp only [step, readBuffer_empty hrecords]
    exact h
  | cons r rest =>
    obtain ⟨hread, hrest⟩ := readBuffer_records h.receiver.outer.alive r.1 r.2 rest hrecords
    have hpair : l.receiver.mOuterReceiveStream.readBuffer
        = (some (r.1, r.2), l.receiver.mOuterReceiveStream.readBuffer.2) := Prod.ext hread rfl
    rw [step, hpair]
    refine ⟨h.sender, ⟨h.receiver.alive, h.receiver.outer.readBuffer, h.receiver.wire⟩, todo, hunder.nonempty,
      hunder.sizes, ?_, hunder.bytes⟩
    rw [hunder.account]
    simp [delivered, queued, hrecords, hrest]

theorem step_inv (h : Inv l) : Inv (l.step e) := by
  cases e with
  | write message => exact write_inv l message h
  | senderWriterReady writer =>
    obtain ⟨hcan, hout, -⟩ := senderWriterReady_sends l.sender writer h.sender
    exact sender_inv l _ h hcan hout
  | senderReaderReady =>
    obtain ⟨hcan, hout, -⟩ := step_sends l.sender h.sender
    exact sender_inv l _ h hcan hout
  | receiverWriterReady writer =>
    cases writer with
    | outerReceive => exact (receiverStep_inv l (.receiverWriterReady .outerReceive) _ h rfl).1
    | wireSend => exact (receiverStep_inv l (.receiverWriterReady .wireSend) _ h rfl).1
  | receiverReaderReady => exact (receiverStep_inv l .receiverReaderReady _ h rfl).1
  | transmit size => exact transmit_inv l size h
  | deliver size => exact deliver_inv l size h
  | take => exact take_inv l h
  | reverseDeliver bytes => exact sender_inv l _ h ⟨h.sender.alive, h.sender.outer, h.sender.wire⟩ rfl
  | reverseWrite bytes =>
    obtain ⟨todo, hunder⟩ := h.underway
    exact ⟨h.sender, ⟨h.receiver.alive, h.receiver.outer, h.receiver.wire⟩, todo, hunder.nonempty, hunder.sizes,
      hunder.account, hunder.bytes⟩

theorem run_inv (es : List RUDPMessagingEvent) (h : Inv l) : Inv (run step l es) :=
  run_invariant_always _ step_inv l es h

theorem idle_delivered (h : Inv l)
    (hidle : l.receiver.mWireReceiveStream.unread = [] ∧ l.pipe = [] ∧ outgoing l.sender = []) :
    l.delivered = l.written := by
  obtain ⟨todo, hunder⟩ := h.underway
  obtain ⟨hwire, hpipe, hout⟩ := hidle
  have hbytes := hunder.bytes
  rw [hwire, hpipe, hout] at hbytes
  have htodo : todo = [] := by
    cases todo with
    | nil => rfl
    | cons m ms => simp [wireBytes_cons, toBE] at hbytes
  rw [hunder.account, htodo, List.append_nil]

/-- The notifications and deliveries by which everything that was written comes out. -/
def flush (l : RUDPMessagingLink) : List RUDPMessagingEvent :=
  [.senderWriterReady .wireSend, .transmit (outgoing l.sender).length.succ,
    .deliver (l.pipe.length + (outgoing l.sender).length), .receiverWriterReady .outerReceive]

theorem flush_delivers (h : Inv l) : (run step l (flush l)).delivered = l.written := by
  obtain ⟨hcan, hout, hflushed⟩ := senderWriterReady_sends l.sender .wireSend h.sender
  have hqueued := hflushed rfl
  have hwire : (l.sender.onTransportStreamWriterReady .wireSend).mWireSendStream.unread = outgoing l.sender := by
    rw [← hout, outgoing, hqueued]
    simp [wireBytes]
  obtain ⟨hread, hleft⟩ := read_unread hcan.wire.alive (outgoing l.sender).length.succ
    (Nat.succ_pos _)
  rw [hwire, List.take_of_length_le (Nat.le_succ _)] at hread
  rw [hwire, List.drop_eq_nil_of_le (Nat.le_succ _)] at hleft
  -- the state in which everything is on the receiver's wire
  let l3 := run step l [.senderWriterReady .wireSend, .transmit (outgoing l.sender).length.succ,
    .deliver (l.pipe.length + (outgoing l.sender).length)]
  have hinv3 : Inv l3 := run_inv l _ h
  have hpipe3 : l3.pipe = [] := by
    simp only [l3, run_cons, run_nil, step, Nat.succ_ne_zero, if_false]
    rw [hread]
    simp
  have hout3 : outgoing l3.sender = [] := by
    have hsplit : outgoing l3.sender = ((l.sender.onTransportStreamWriterReady .wireSend).mWireSendStream.read
        (outgoing l.sender).length.succ).2.2.unread
        ++ wireBytes (queued (l.sender.onTransportStreamWriterReady .wireSend).mOuterSendStream) := by
      simp only [l3, run_cons, run_nil, step, Nat.succ_ne_zero, if_false]
      rfl
    rw [hsplit, hleft, hqueued]
    rfl
  have hwritten3 : l3.written = l.written := rfl
  obtain ⟨hinv4, hpart⟩ := receiverStep_inv l3 (.receiverWriterReady .outerReceive) _ hinv3 rfl
  have hpart := hpart rfl
  have hrun : run step l (flush l) = l3.step (.receiverWriterReady .outerReceive) := rfl
  rw [hrun]
  have hwritten4 : (l3.step (.receiverWriterReady .outerReceive)).written = l.written := rfl
  obtain ⟨todo, hunder⟩ := hinv4.underway
  have hbytes := hunder.bytes
  rw [show (l3.step (.receiverWriterReady .outerReceive)).pipe = [] from hpipe3,
    show outgoing (l3.step (.receiverWriterReady .outerReceive)).sender = [] from hout3, List.append_nil,
    List.append_nil] at hbytes
  rw [hbytes] at hpart
  have htodo := partialFrame_whole todo hunder.sizes hpart
  have haccount := hunder.account
  rw [htodo, List.append_nil, hwritten4] at haccount
  exact haccount.symm

/-- What has come out is a prefix of what was written, in every run and in every order of
notifications; it is all of it when no byte is underway, which a flush brings about; and when a
receiver that may write has stepped, its wire holds a proper part of one frame. -/
theorem messages_delivered (l : RUDPMessagingLink) (es : List RUDPMessagingEvent) (hfresh : Fresh l) :
    (run step l es).delivered <+: (run step l es).written ∧
    ((run step l es).receiver.mWireReceiveStream.unread = [] ∧ (run step l es).pipe = [] ∧
        outgoing (run step l es).sender = [] → (run step l es).delivered = (run step l es).written) ∧
    (run step (run step l es) (flush (run step l es))).delivered = (run step l es).written ∧
    ∀ e t, receiverBefore (run step l es).receiver e = some t → t.mInformedOuterReceiveReady →
      PartialFrame ((run step l es).step e).receiver.mWireReceiveStream.unread := by
  have hinv := run_inv l es (fresh_inv l hfresh)
  obtain ⟨todo, hunder⟩ := hinv.underway
  refine ⟨⟨todo, hunder.account.symm⟩, idle_delivered _ hinv, flush_delivers _ hinv, ?_⟩
  intro e t he hready
  exact (receiverStep_inv _ e t hinv he).2 hready

/-- Two new ends. -/
def created : RUDPMessagingLink where
  sender := construct .create .create
  receiver := construct .create .create
  pipe := []
  written := []
  taken := []

theorem created_fresh : Fresh created :=
  ⟨⟨rfl, ⟨rfl, rfl⟩, ⟨rfl, rfl⟩⟩, ⟨rfl, ⟨rfl, rfl⟩, ⟨rfl, rfl⟩⟩, rfl, rfl, rfl, rfl, rfl⟩

/-- One message, on the wire and taken off it in two chunks. -/
def inTwoChunks : List RUDPMessagingEvent :=
  [.write ⟨[7], by decide, by decide⟩, .senderWriterReady .wireSend, .receiverWriterReady .outerReceive,
    .transmit 2, .deliver 2, .receiverReaderReady, .transmit 9, .deliver 9]

theorem messages_delivered_in_two_chunks :
    (run step (run step created inTwoChunks) (flush (run step created inTwoChunks))).delivered = [[7]] :=
  (messages_delivered created inTwoChunks created_fresh).2.2.1

end RUDPMessagingLink

end OpenPeer
