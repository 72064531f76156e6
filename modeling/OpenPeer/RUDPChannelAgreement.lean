import OpenPeer.RUDPChannelHonesty

/-!
# Agreement of two channel streams

Over every run in which no burst copies a vector past a delivery, what a side let go
of the other has received, and no acknowledgement is illegal. A burst that does copy
one says of packets that they arrived that did not, or ends an honest connection.
-/
namespace OpenPeer

open RUDPPacket Runs

namespace RUDPChannelPair

section Runs

variable {first : Side → Nat} {p : RUDPChannelPair}

/-- Both sides are honest with each other. -/
def AllHonest (first : Side → Nat) (p : RUDPChannelPair) : Prop :=
  ∀ x, Honest (first x) (first x.other) (p.node x) (p.node x.other)

theorem AllHonest.peer (h : AllHonest first p) (x : Side) :
    Honest (first x.other) (first x) (p.node x.other) (p.node x) := by
  have hpeer := h x.other
  rwa [Side.other_other] at hpeer

theorem AllHonest.of_move (h : AllHonest first p) (x : Side) (x' : RUDPChannelNode)
    (hx : Honest (first x) (first x.other) x' (p.node x.other)) (hgrows : Grows (p.node x).stream x'.stream) :
    AllHonest first (p.setNode x x') := by
  have hpeer := (h.peer x).of_peer (h x).sendOrder hgrows
  have hsides : ∀ z, z = x ∨ z = x.other := by
    intro z
    cases x <;> cases z <;> first | exact .inl rfl | exact .inr rfl
  intro z
  rcases hsides z with rfl | rfl
  · rw [node_setNode, node_setNode_other]
    exact hx
  · rw [Side.other_other, node_setNode, node_setNode_other]
    exact hpeer

theorem AllHonest.step (h : AllHonest first p) (e : PairEvent) (hhinted : Hinted p e) (hcoherent : Coherent p e) :
    AllHonest first (p.step e) := by
  obtain ⟨x, act⟩ := e
  cases act with
  | own event =>
    obtain ⟨hx, hgrows⟩ := (h x).own event (by
      intro input l hinput hsending hposition n q hn hq
      subst hinput
      unfold Coherent at hcoherent
      simp only [hsending] at hcoherent
      have hfirst := hcoherent hposition
      rw [hn, Option.bind_some, hq] at hfirst
      exact hfirst)
    exact h.of_move x _ hx hgrows
  | receive k now ecnMarked =>
    obtain ⟨hx, hgrows⟩ := (h x).receive (h.peer x) k now ecnMarked (by
      intro d r hd hr
      unfold Hinted at hhinted
      simp only [hd, Option.bind_some, hr] at hhinted
      exact hhinted)
    exact h.of_move x _ hx hgrows
  | report size =>
    obtain ⟨hx, hgrows⟩ := (h x).report size
    exact h.of_move x _ hx hgrows
  | acknowledge k now id =>
    obtain ⟨hx, hgrows⟩ := (h x).acknowledge (h.peer x) k now id
    exact h.of_move x _ hx hgrows

section

variable (now : Int) (first : Side → Nat) (hfirst : ∀ x, 0 < first x) (channelNumber : Side → UInt16) (minimumRTT : Nat)
include hfirst

/-- A new stream against a new peer. -/
theorem createNode_honest (x : Side) :
    Honest (first x) (first x.other) (createNode now first channelNumber minimumRTT x)
      (createNode now first channelNumber minimumRTT x.other) := by
  have hpeer := hfirst x.other
  have hempty : ∀ n, 0 < n → List.range' n (n - 1 + 1 - n) = [] := fun n hn => by
    rw [show n - 1 + 1 - n = 0 by omega, List.range'_zero]
  have hparity : ∀ (parity : Nat → Bool) n, 0 < n → xorParity parity n (n - 1) = false := fun parity n hn => by
    rw [xorParity, hempty n hn, List.foldl_nil]
  refine ⟨⟨⟨?_, le_refl _, (hparity _ _ hpeer).symm, List.Pairwise.nil, ?_, ?_, ?_⟩, fun _ hne => absurd rfl hne, ?_,
    ⟨hfirst x, le_refl _, ?_, ?_, (hparity _ _ (hfirst x)).symm⟩, ?_, ?_, ?_, ?_⟩, ?_, ?_, ?_⟩
  · change first x.other ≤ first x.other - 1 + 1
    omega
  · exact fun _ hp => absurd hp List.not_mem_nil
  · exact fun _ hp => absurd hp List.not_mem_nil
  · intro hlow
    change first x.other ≤ first x.other - 1 at hlow
    omega
  · change first x.other - 1 < first x.other
    omega
  · change [] = List.range' (first x) (first x - first x)
    rw [Nat.sub_self, List.range'_zero]
  · exact fun _ hr => absurd hr List.not_mem_nil
  · exact fun _ hp => absurd hp List.not_mem_nil
  · exact fun _ hr => absurd hr List.not_mem_nil
  · rintro n (⟨q, hq, -⟩ | ⟨q, hq, -⟩)
    · cases hq
    · cases hq
  · intro herror
    cases herror
  · intro _ ha
    cases ha
  · intro _ hd
    cases hd
  · intro _ hl
    cases hl

theorem run_allHonest (events : List PairEvent)
    (hallowed : Meets step (fun p e => Hinted p e ∧ Coherent p e) (create now first channelNumber minimumRTT) events) :
    AllHonest first (run step (create now first channelNumber minimumRTT) events) := by
  refine run_invariant (AllHonest first) (fun p e hok h => h.step e hok.1 hok.2) _ events hallowed fun x => ?_
  have hcreated := createNode_honest now first hfirst channelNumber minimumRTT x
  cases x <;> exact hcreated

end

end Runs

/-- A region of `sendNow` that draws the given parity bit. -/
def region (x : Side) (parity : Bool) : PairEvent := ⟨x, .own (.proceed ⟨0, parity, .sent, false⟩)⟩

/-- A byte is written, and a burst makes a packet of it. -/
def newPacket (x : Side) (parity : Bool) : List PairEvent :=
  ⟨x, .own (.write [1])⟩ :: List.replicate 4 (region x parity)

def newBurst (x : Side) (parities : List Bool) : List PairEvent :=
  ⟨x, .own .sendNow⟩ :: region x false :: parities.flatMap (newPacket x)

/-- A packet that arrives and is acknowledged. -/
def acknowledgedPacket : List PairEvent :=
  [⟨.a, .own (.setStreams .create .create)⟩, ⟨.a, .own .sendNow⟩, region .a false] ++ newPacket .a false
    ++ [⟨.b, .receive 0 0 false⟩, ⟨.b, .report 127⟩, ⟨.a, .acknowledge 0 0 0⟩]

/-- No false acknowledgement: as long as neither stream is ended, a packet that a side let go of,
by releasing its buffer or by taking it out of the map, was received by the other side. -/
theorem no_false_acknowledgement (now : Int) (first : Side → Nat) (hfirst : ∀ x, 0 < first x)
    (channelNumber : Side → UInt16) (minimumRTT : Nat) (events : List PairEvent)
    (hallowed : Meets step (fun p e => Hinted p e ∧ Coherent p e) (create now first channelNumber minimumRTT) events)
    (x : Side) (n : Nat) :
    let p := run step (create now first channelNumber minimumRTT) events
    (p.node x).stream.isShutdown = false → (p.node x.other).stream.isShutdown = false →
      (p.node x).stream.LetGo n → (p.node x.other).stream.Holds n := by
  intro p halive hpeer hgo
  have hhonest := run_allHonest now first hfirst channelNumber minimumRTT events hallowed x
  rcases hhonest.letGo n hgo with hshut | hshut | hholds
  · exact absurd (hshut.symm.trans halive) (by decide)
  · exact absurd (hshut.symm.trans hpeer) (by decide)
  · exact hholds

/-- The first packet is let go of, and it was received. -/
theorem acknowledged_packet_received :
    ((run step (create 0 (fun _ => 1) (fun _ => 7) 0) acknowledgedPacket).node .a).stream.LetGo 1 ∧
    ((run step (create 0 (fun _ => 1) (fun _ => 7) 0) acknowledgedPacket).node .b).stream.Holds 1 := by
  have hgo : ((run step (create 0 (fun _ => 1) (fun _ => 7) 0) acknowledgedPacket).node .a).stream.LetGo 1 :=
    .inl (by decide +kernel)
  exact ⟨hgo, no_false_acknowledgement 0 (fun _ => 1) (fun _ => by decide) (fun _ => 7) 0 acknowledgedPacket
    (by decide +kernel) .a 1 (by decide +kernel) (by decide +kernel) hgo⟩

/-- Side `a` sends six packets. Side `b` has 2 and 3 when its burst begins, and 1 and 6 arrive before
the burst goes on: its second packet has a vector that counts from 1 and is read as if from 4. -/
def misaligned (parity : Bool) : List PairEvent :=
  [⟨.a, .own (.setStreams .create .create)⟩, ⟨.b, .own (.setStreams .create .create)⟩]
    ++ newBurst .a [parity, false, false] ++ List.replicate 2 (region .a false)
    ++ [⟨.a, .own (.onTimer 2 true)⟩] ++ newBurst .a [false, false, false]
    ++ [⟨.b, .receive 1 0 false⟩, ⟨.b, .receive 2 0 false⟩] ++ newBurst .b [false]
    ++ [⟨.b, .receive 0 0 false⟩, ⟨.b, .receive 5 0 false⟩] ++ newPacket .b false ++ [⟨.a, .receive 1 0 false⟩]

/-- Side `a` then lets go of packet 5, which never arrived. -/
theorem packet_falsely_acknowledged :
    ¬∀ events, Meets step Hinted (create 0 (fun _ => 1) (fun _ => 7) 0) events → ∀ (x : Side) (n : Nat),
      let p := run step (create 0 (fun _ => 1) (fun _ => 7) 0) events
      (p.node x).stream.isShutdown = false → (p.node x.other).stream.isShutdown = false →
        (p.node x).stream.LetGo n → (p.node x.other).stream.Holds n := by
  intro h
  have hholds := h (misaligned false) (by decide +kernel) .a 5 (by decide +kernel) (by decide +kernel)
    (.inr (by decide +kernel))
  have hlost : ¬(5 ≤ ((run step (create 0 (fun _ => 1) (fun _ => 7) 0) (misaligned false)).node .b).stream.mGSNFR ∨
      ∃ q ∈ ((run step (create 0 (fun _ => 1) (fun _ => 7) 0) (misaligned false)).node .b).stream.mReceivedPackets,
        q.mSequenceNumber = 5) := by
    decide +kernel
  exact hlost hholds

/-- Honest peers are not shut down: neither stream ever has the error of an illegal state, and no
acknowledgement that is on its way to a side is illegal there, in a packet or in a message of its own. -/
theorem no_illegal_acknowledgement (now : Int) (first : Side → Nat) (hfirst : ∀ x, 0 < first x)
    (channelNumber : Side → UInt16) (minimumRTT : Nat) (events : List PairEvent)
    (hallowed : Meets step (fun p e => Hinted p e ∧ Coherent p e) (create now first channelNumber minimumRTT) events)
    (x : Side) :
    let p := run step (create now first channelNumber minimumRTT) events
    let s := (p.node x).stream
    s.mLastError ≠ .illegalStreamState ∧
    (∀ d ∈ (p.node x.other).sent, (∀ r, d.record = some r → NearStream s r) → ∀ packet, parseIfRUDP d.bytes = some packet →
      ∀ (u : RUDPChannelStream) (time : Int), u.toSendWindow = s.toSendWindow →
        (u.handleAck time (s.packetAck packet (packet.getSequenceNumber s.mGSNR))).1 = .handled) ∧
    ∀ a ∈ (p.node x.other).reported, ∀ (u : RUDPChannelStream) (time : Int), u.toSendWindow = s.toSendWindow →
      (u.handleAck time a).1 = .handled := by
  intro p s
  have hall := run_allHonest now first hfirst channelNumber minimumRTT events hallowed
  refine ⟨(hall x).error, ?_, ?_⟩
  · intro d hd hnear packet hpacket u time hu
    obtain ⟨k, hk⟩ := List.getElem?_of_mem hd
    obtain ⟨r, -, hparse, -, -, htrue⟩ := (hall.peer x).arrival hk hnear
    rw [hparse] at hpacket
    cases hpacket
    exact (hall x).handles (htrue _) time u hu
  · intro a ha u time hu
    exact (hall x).handles ((hall.peer x).reports a ha) time u hu

/-- After the same run there is nothing illegal on its way to the second side. -/
theorem acknowledged_packet_legal :
    ((run step (create 0 (fun _ => 1) (fun _ => 7) 0) acknowledgedPacket).node .b).stream.mLastError ≠ .illegalStreamState :=
  (no_illegal_acknowledgement 0 (fun _ => 1) (fun _ => by decide) (fun _ => 7) 0 acknowledgedPacket
    (by decide +kernel) .b).1

/-- With another parity bit the same run ends the connection. -/
theorem honest_peer_shut_down :
    ¬∀ events, Meets step Hinted (create 0 (fun _ => 1) (fun _ => 7) 0) events → ∀ x : Side,
      ((run step (create 0 (fun _ => 1) (fun _ => 7) 0) events).node x).stream.mLastError ≠ .illegalStreamState := by
  intro h
  exact h (misaligned true) (by decide +kernel) .a (by decide +kernel)

end RUDPChannelPair

end OpenPeer
