import OpenPeer.RUDPChannelAckTruth
import OpenPeer.RUDPChannelBatons

/-!
# The sender in any company

Whatever the peer says and in whatever order things happen, the packets sent are
numbered without a gap and each keeps the parity of all up to it. So a number that
is still in the map tells its parity, and nobody lets go of packets who cannot tell
it, but for one acknowledgement beyond the end.
-/
namespace OpenPeer

open RUDPPacket Runs

section Steps

variable {acked : Nat → Prop} {first : Nat} {s s' : RUDPChannelStream}

section

variable (h : SendInOrder first s.toSendWindow)
include h

theorem SendInOrder.kept (hkept : WindowsKept acked s s') : SendInOrder first s'.toSendWindow := by
  rcases hkept with hkept | hkept
  · exact h.of_same hkept.records hkept.next hkept.parity
  · exact h.of_same hkept.records hkept.next hkept.parity

theorem SendInOrder.refused : SendInOrder first s.refuseAck.toSendWindow := by
  obtain ⟨e, r, hkept⟩ := kept_refuseAck (fun _ => True) s
  exact SendInOrder.kept (s := { s with mLastError := e, mLastErrorReason := r }) h hkept.windows

theorem SendInOrder.acceptedPacket (now : Int) (n : Nat) (packet : RUDPPacket) :
    SendInOrder first (s.acceptPacket now n packet).toSendWindow := by
  have hsame := s.acceptPacket_sending now n packet
  exact h.of_same hsame.records hsame.next hsame.parity

theorem SendInOrder.createdPacket (now : Int) (parity : Bool) (l : SendNow) :
    SendInOrder first (s.createPacket now parity l).2.toSendWindow := by
  rcases @createPacket_cases (fun _ => True) s now parity l with ⟨hkept, -⟩ | ⟨stream, ackRequired, packet, bytes, -, -, heq⟩
  · exact h.kept (.inl hkept.toWindowsUntouched)
  · rw [heq]
    exact h.pushed (pushPacket_records s stream ackRequired now _) rfl rfl rfl rfl

end

/-- Nothing that happens puts the packets sent out of order. -/
theorem SendInOrder.step {t : RUDPChannelEndpoint} (h : SendInOrder first t.stream.toSendWindow)
    (event : RUDPChannelEvent) : SendInOrder first (t.step event).stream.toSendWindow := by
  obtain ⟨hkept, -⟩ | ⟨u, hkept, heq, -⟩ | ⟨u, now, n, packet, hkept, -, -, heq, -⟩ | ⟨input, l, -, -, -, -, heq⟩ :=
    t.step_cases event
  · exact h.kept hkept
  · rw [heq]
    exact (h.kept (.inl hkept)).refused
  · rw [heq]
    exact (h.kept (.inl hkept)).acceptedPacket now n packet
  · rw [heq]
    exact h.createdPacket input.now input.parity l

/-- A number is taken by the creation of a packet, and by nothing else. -/
theorem next_changes (t : RUDPChannelEndpoint) (event : RUDPChannelEvent)
    (h : (t.step event).stream.mNextSequenceNumber ≠ t.stream.mNextSequenceNumber) :
    ∃ l input, t.sending = some l ∧ l.position = .creatingPacket ∧ event = .own (.proceed input) := by
  obtain ⟨hk, -⟩ | ⟨u, hu, heq, -⟩ | ⟨u, now, n, packet, hu, -, -, heq, -⟩ | ⟨input, l, hevent, hl, hposition, -⟩ :=
    t.step_cases event
  · exact absurd (hk.elim (·.next) (·.next)) h
  · obtain ⟨e, r, hk⟩ := kept_refuseAck (fun _ => True) u
    exact absurd (heq ▸ (hk.windows.elim (·.next) (·.next)).trans hu.next) h
  · exact absurd (heq ▸ (u.acceptPacket_sending now n packet).next.trans hu.next) h
  · exact ⟨l, input, hl, hposition, hevent⟩

section

variable (hfirst : 0 < first) (now : Int) (expecting : Nat) (sendingChannelNumber receivingChannelNumber : UInt16)
  (minimumRTT : Nat)
include hfirst

theorem create_sendInOrder :
    SendInOrder first (RUDPChannelStream.create now first expecting sendingChannelNumber receivingChannelNumber
      minimumRTT).toSendWindow := by
  refine ⟨hfirst, Nat.le_refl first, ?_, fun r hr => (nomatch hr), ?_⟩
  · change [] = List.range' first (first - first)
    rw [Nat.sub_self]
    rfl
  · change false = xorParity _ first (first - 1)
    rw [xorParity, show first - 1 + 1 - first = 0 by omega]
    rfl

theorem run_sendInOrder (events : List RUDPChannelEvent) :
    SendInOrder first (run RUDPChannelEndpoint.step (.create (.create now first expecting sendingChannelNumber
      receivingChannelNumber minimumRTT)) events).stream.toSendWindow :=
  run_invariant_always (fun t : RUDPChannelEndpoint => SendInOrder first t.stream.toSendWindow)
    (fun _ event h => h.step event) _ events
    (create_sendInOrder hfirst now expecting sendingChannelNumber receivingChannelNumber minimumRTT)

end

/-- Whatever happens, the packets sent so far are numbered from the first number on without a gap, those that are still
in the map are the last of them, and each of those tells the parity of all up to it. -/
theorem sent_without_gap (now : Int) (first : Nat) (expecting : Nat)
    (sendingChannelNumber receivingChannelNumber : UInt16) (minimumRTT : Nat) (events : List RUDPChannelEvent) :
    let w := (run RUDPChannelEndpoint.step (.create (.create now (first + 1) expecting sendingChannelNumber
      receivingChannelNumber minimumRTT)) events).stream.toSendWindow
    w.records.map PacketRecord.mSequenceNumber = List.range' (first + 1) (w.mNextSequenceNumber - (first + 1)) ∧
      w.mSendingPackets.map (fun p => p.mSequenceNumber) =
        List.range' (w.mNextSequenceNumber - w.mSendingPackets.length) w.mSendingPackets.length ∧
      ∀ p ∈ w.mSendingPackets, p.mXORedParityToNow = xorParity (w.parityOf (first + 1)) (first + 1) p.mSequenceNumber := by
  intro w
  have h : SendInOrder (first + 1) w :=
    run_sendInOrder (Nat.succ_pos first) now expecting sendingChannelNumber receivingChannelNumber minimumRTT events
  exact ⟨h.numbers, h.sending.2, fun p hp => h.xors _ (mem_records_sending hp)⟩

end Steps

end OpenPeer
