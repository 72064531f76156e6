import OpenPeer.RUDPChannelReport
import OpenPeer.RUDPPacketRoundTrip
import OpenPeer.Runs

/-!
# Two channel streams and the network between them

Each side has a channel stream, the datagrams it has sent and the acknowledgements
it has given out. The network keeps both for ever: a datagram that is never chosen
is lost, and one may be chosen more than once, late and in any order.
-/
namespace OpenPeer

open RUDPPacket Runs

inductive Side where
  | a | b
  deriving DecidableEq, Repr

def Side.other : Side → Side
  | .a => .b
  | .b => .a

@[simp] theorem Side.other_other (x : Side) : x.other.other = x := by cases x <;> rfl

/-- Bytes on their way, and the packet they are of. -/
structure Datagram where
  bytes : List UInt8
  record : Option PacketRecord
  deriving DecidableEq, Repr

structure RUDPChannelNode where
  endpoint : RUDPChannelEndpoint
  sent : List Datagram
  reported : List Ack
  deriving DecidableEq, Repr

inductive PairAct where
  | own (event : OwnEvent)
  | receive (datagram : Nat) (now : Int) (ecnMarked : Bool)
  | report (maxVectorSizeInBytes : Nat)
  | acknowledge (report : Nat) (now : Int) (guarenteedDeliveryRequestID : Nat)
  deriving DecidableEq, Repr

structure PairEvent where
  side : Side
  act : PairAct
  deriving DecidableEq, Repr

structure RUDPChannelPair where
  a : RUDPChannelNode
  b : RUDPChannelNode
  deriving DecidableEq, Repr

namespace RUDPChannelNode

def stream (x : RUDPChannelNode) : RUDPChannelStream := x.endpoint.stream

/-- The packet that a call of the delegate takes. -/
def outgoing (t : RUDPChannelEndpoint) : OwnEvent → List Datagram
  | .proceed input =>
    match t.sending with
    | none => []
    | some l =>
      if l.position = .delivering ∧ input.delivery = .sent then
        match l.attemptToDeliver, l.attemptToDeliverBuffer with
        | some n, some bytes => [⟨bytes, (t.stream.findPacket n).map BufferedPacket.toPacketRecord⟩]
        | _, _ => []
      else []
  | _ => []

/-- What a side does, given what its peer has sent. -/
def act (x peer : RUDPChannelNode) : PairAct → RUDPChannelNode
  | .own event =>
    { x with endpoint := x.endpoint.step (.own event), sent := x.sent ++ outgoing x.endpoint event }
  | .receive k now ecnMarked =>
    match peer.sent[k]?.bind fun d => parseIfRUDP d.bytes with
    | none => x
    | some packet => { x with endpoint := x.endpoint.step (.handlePacket now packet ecnMarked) }
  | .report size => { x with reported := x.reported ++ [x.stream.getState size] }
  | .acknowledge k now id =>
    match peer.reported[k]? with
    | none => x
    | some a => { x with endpoint := x.endpoint.step (.handleExternalAck now id a) }

end RUDPChannelNode

namespace RUDPChannelPair

def node (p : RUDPChannelPair) : Side → RUDPChannelNode
  | .a => p.a
  | .b => p.b

def setNode (p : RUDPChannelPair) (x : Side) (n : RUDPChannelNode) : RUDPChannelPair :=
  match x with
  | .a => { p with a := n }
  | .b => { p with b := n }

@[simp] theorem node_setNode (p : RUDPChannelPair) (x : Side) (n : RUDPChannelNode) : (p.setNode x n).node x = n := by
  cases x <;> rfl

@[simp] theorem node_setNode_other (p : RUDPChannelPair) (x : Side) (n : RUDPChannelNode) :
    (p.setNode x n).node x.other = p.node x.other := by
  cases x <;> rfl

/-- One of two streams with matching channel numbers and first sequence numbers. -/
def createNode (now : Int) (first : Side → Nat) (channelNumber : Side → UInt16) (minimumRTT : Nat) (x : Side) :
    RUDPChannelNode where
  endpoint := .create (.create now (first x) (first x.other) (channelNumber x) (channelNumber x.other) minimumRTT)
  sent := []
  reported := []

def create (now : Int) (first : Side → Nat) (channelNumber : Side → UInt16) (minimumRTT : Nat) : RUDPChannelPair :=
  ⟨createNode now first channelNumber minimumRTT .a, createNode now first channelNumber minimumRTT .b⟩

def step (p : RUDPChannelPair) (e : PairEvent) : RUDPChannelPair :=
  p.setNode e.side ((p.node e.side).act (p.node e.side.other) e.act)

/-- A number is told right from its low 24 bits. -/
def Near (n hint : Nat) : Prop := hint < n + 0x800000 ∧ n < hint + 0x800000

instance (n hint : Nat) : Decidable (Near n hint) := inferInstanceAs (Decidable (_ ∧ _))

/-- The numbers of a packet are within half of the 24-bit range of what the stream compares them with. -/
def NearStream (s : RUDPChannelStream) (r : PacketRecord) : Prop :=
  Near r.mSequenceNumber s.mGSNR ∧ Near r.gsnr s.mNextSequenceNumber ∧ Near r.gsnfr s.mNextSequenceNumber

instance (s : RUDPChannelStream) (r : PacketRecord) : Decidable (NearStream s r) :=
  inferInstanceAs (Decidable (_ ∧ _ ∧ _))

/-- All 24-bit fields of a packet that is received are near their hints. -/
def Hinted (p : RUDPChannelPair) (e : PairEvent) : Prop :=
  match e.act with
  | .receive k _ _ =>
    match (p.node e.side.other).sent[k]?.bind Datagram.record with
    | some r => NearStream (p.node e.side).stream r
    | none => True
  | _ => True

instance (p : RUDPChannelPair) (e : PairEvent) : Decidable (Hinted p e) := by
  unfold Hinted
  split
  · split <;> infer_instance
  · infer_instance

/-- When a later packet of a burst is created and the window has a gap, nothing was received in
series since the first packet of the burst was created. -/
def Coherent (p : RUDPChannelPair) (e : PairEvent) : Prop :=
  match e.act, (p.node e.side).endpoint.sending with
  | .own (.proceed _), some l =>
    l.position = .creatingPacket →
      match l.firstPacketCreated.bind (p.node e.side).stream.findPacket with
      | some first =>
        first.gsnfr = (p.node e.side).stream.mGSNFR ∨ (p.node e.side).stream.mGSNR = (p.node e.side).stream.mGSNFR
      | none => True
  | _, _ => True

instance (p : RUDPChannelPair) (e : PairEvent) : Decidable (Coherent p e) := by
  unfold Coherent
  split
  · refine @instDecidableForall _ _ inferInstance ?_
    split <;> infer_instance
  · infer_instance

end RUDPChannelPair

/-- The record of the packet with a sequence number. -/
def SendWindow.findRecord (w : SendWindow) (n : Nat) : Option PacketRecord :=
  w.records.find? fun r => r.mSequenceNumber == n

theorem findPacket_record (s : RUDPChannelStream) (n : Nat) :
    (s.findPacket n).map BufferedPacket.toPacketRecord = s.findRecord n := by
  rw [RUDPChannelStream.findPacket, SendWindow.findRecord, SendWindow.records, List.find?_map]
  rfl

theorem SendInOrder.find {first : Nat} {w : SendWindow} (h : SendInOrder first w) {r : PacketRecord}
    (hr : r ∈ w.records) : w.findRecord r.mSequenceNumber = some r := by
  have hsome : (w.findRecord r.mSequenceNumber).isSome := List.find?_isSome.mpr ⟨r, hr, by simp⟩
  obtain ⟨q, hq⟩ := Option.isSome_iff_exists.mp hsome
  have hqr : q ∈ w.records := List.mem_of_find?_eq_some hq
  have hnumber : q.mSequenceNumber = r.mSequenceNumber := by simpa using List.find?_some hq
  have hindex := (h.index hqr).2.2
  rw [hnumber, (h.index hr).2.2] at hindex
  rw [hq, hindex]

section Arrival

/-- A packet that arrives within the range of its numbers is read as it was sent, and what it
acknowledges is as true as it was. -/
theorem arrived_truthful {held : Nat → Prop} {parity : Nat → Bool} {first next : Nat} {r : PacketRecord}
    {bytes : List UInt8} (s : RUDPChannelStream) (hheaded : r.Headed) (hbytes : r.mRUDPPacket.packetize = .ok bytes)
    (hnear : RUDPChannelPair.NearStream s r) (htrue : Truthful held parity first next r.ack) :
    parseIfRUDP bytes = some r.mRUDPPacket.received ∧
      r.mRUDPPacket.received.getSequenceNumber s.mGSNR = r.mSequenceNumber ∧
      r.mRUDPPacket.received.isFlagSet .psParitySending = r.mRUDPPacket.isFlagSet .psParitySending ∧
      ∀ n, Truthful held parity first next (s.packetAck r.mRUDPPacket.received n) := by
  obtain ⟨hnumber, hgsnr, hgsnfr⟩ := hnear
  obtain ⟨-, -, -, hvector⟩ := packetize_layout _ bytes hbytes
  have hread : ∀ (x : UInt32) (n hint : Nat), x = low24 n → RUDPChannelPair.Near n hint →
      getNumberWithHint (x &&& 0xFFFFFF) hint = n := by
    intro x n hint hx hnear
    rw [hx, low24_and, getNumberWithHint_low24 n hint hnear.1 hnear.2]
  refine ⟨parse_packetize _ bytes hbytes, hread _ _ _ hheaded.sequenceNumber hnumber, rfl, fun n => ?_⟩
  refine htrue.of_same (hread _ _ _ hheaded.gsnr hgsnr) (hread _ _ _ hheaded.gsnfr hgsnfr) rfl rfl fun hne => ?_
  have heq : r.mRUDPPacket.eqFlag = false := by
    rw [hheaded.eqFlag]
    exact beq_eq_false_iff_ne.mpr hne
  have hroom := hvector.resolve_left (by rw [heq]; exact Bool.false_ne_true)
  exact ⟨received_vectorBytes _ heq hroom, received_isVectorFlagSet _ heq⟩

end Arrival

end OpenPeer
