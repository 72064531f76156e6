import OpenPeer.RUDPChannelCoherence

/-!
# The numbers of a stream

The number a stream sends next and the number up to which it has received
everything never fall, and its receive window stays in order, whatever the peer
says and in whatever order things happen.
-/
namespace OpenPeer

open RUDPPacket Runs

variable {acked : Nat → Prop} {localStart remoteStart : Nat} {s s' : RUDPChannelStream}

/-- The numbers of a stream have not fallen below those it was created with. -/
structure StartedAt (localStart remoteStart : Nat) (s : RUDPChannelStream) : Prop where
  order : WindowOrder s.toReceiveWindow
  sent : localStart ≤ s.mNextSequenceNumber
  received : remoteStart - 1 ≤ s.mGSNFR

section

variable (h : StartedAt localStart remoteStart s)
include h

theorem StartedAt.kept (hkept : WindowsKept acked s s') : StartedAt localStart remoteStart s' := by
  have hnext : s'.mNextSequenceNumber = s.mNextSequenceNumber := hkept.elim (·.next) (·.next)
  have hgsnfr : s'.mGSNFR = s.mGSNFR := by
    rcases hkept with hkept | hkept
    · exact congrArg ReceiveWindow.mGSNFR hkept.receive
    · exact (congrArg ReceiveWindow.mGSNFR hkept.receive).trans rfl
  exact ⟨h.order.kept hkept, hnext ▸ h.sent, hgsnfr ▸ h.received⟩

theorem StartedAt.refused : StartedAt localStart remoteStart s.refuseAck := by
  obtain ⟨e, r, hkept⟩ := kept_refuseAck (fun _ => True) s
  exact StartedAt.kept (s := { s with mLastError := e, mLastErrorReason := r }) { h with }
    hkept.windows

theorem StartedAt.acceptedPacket (now : Int) (n : Nat) (packet : RUDPPacket) (hlow : s.mGSNFR < n)
    (hnew : ∀ p ∈ s.mReceivedPackets, p.mSequenceNumber ≠ n) :
    StartedAt localStart remoteStart (s.acceptPacket now n packet) := by
  obtain ⟨horder, hle, -⟩ := accepted_window h.order now n packet hlow hnew
  exact ⟨horder, (s.acceptPacket_sending now n packet).next ▸ h.sent, le_trans h.received hle⟩

theorem StartedAt.createdPacket (now : Int) (parity : Bool) (l : SendNow) :
    StartedAt localStart remoteStart (s.createPacket now parity l).2 := by
  rcases @createPacket_cases (fun _ => True) s now parity l with ⟨hkept, -⟩ | ⟨stream, ackRequired, packet, bytes, -, -, heq⟩
  · exact h.kept (.inl hkept.toWindowsUntouched)
  · rw [heq]
    exact ⟨h.order, Nat.le_succ_of_le h.sent, h.received⟩

end

/-- A step lemma: nothing that happens makes a number fall. -/
theorem StartedAt.step {t : RUDPChannelEndpoint} (h : StartedAt localStart remoteStart t.stream)
    (event : RUDPChannelEvent) : StartedAt localStart remoteStart (t.step event).stream := by
  obtain ⟨hkept, -⟩ | ⟨u, hkept, heq, -⟩ | ⟨u, now, n, packet, hkept, hlow, hnew, heq, -⟩ | ⟨input, l, -, -, -, -, heq⟩ :=
    t.step_cases event
  · exact h.kept hkept
  · rw [heq]
    exact (h.kept (.inl hkept)).refused
  · rw [heq]
    exact (h.kept (.inl hkept)).acceptedPacket now n packet hlow hnew
  · rw [heq]
    exact h.createdPacket input.now input.parity l

theorem create_startedAt (now : Int) (localStart remoteStart : Nat) (sendingChannelNumber receivingChannelNumber : UInt16)
    (minimumRTT : Nat) :
    StartedAt localStart remoteStart (RUDPChannelStream.create now localStart remoteStart sendingChannelNumber
      receivingChannelNumber minimumRTT) :=
  ⟨⟨Nat.le_refl _, List.Pairwise.nil, fun _ hp => (nomatch hp)⟩, Nat.le_refl _, Nat.le_refl _⟩

/-- A run lemma: the numbers of a stream never fall below those it was created with. -/
theorem run_startedAt (now : Int) (localStart remoteStart : Nat) (sendingChannelNumber receivingChannelNumber : UInt16)
    (minimumRTT : Nat) (events : List RUDPChannelEvent) :
    StartedAt localStart remoteStart (run RUDPChannelEndpoint.step (.create (.create now localStart remoteStart
      sendingChannelNumber receivingChannelNumber minimumRTT)) events).stream :=
  run_invariant_always (fun t : RUDPChannelEndpoint => StartedAt localStart remoteStart t.stream)
    (fun _ event h => h.step event) _ events
    (create_startedAt now localStart remoteStart sendingChannelNumber receivingChannelNumber minimumRTT)

/-- From any state that is reached, the two numbers never fall, and what waits to be delivered lies above what was
received without a gap. -/
theorem numbers_never_fall (now : Int) (localStart remoteStart : Nat)
    (sendingChannelNumber receivingChannelNumber : UInt16) (minimumRTT : Nat)
    (events later : List RUDPChannelEvent) :
    let t := run RUDPChannelEndpoint.step (.create (.create now localStart remoteStart sendingChannelNumber
      receivingChannelNumber minimumRTT)) events
    let t' := run RUDPChannelEndpoint.step t later
    t.stream.mNextSequenceNumber ≤ t'.stream.mNextSequenceNumber ∧ t.stream.mGSNFR ≤ t'.stream.mGSNFR ∧
      WindowOrder t'.stream.toReceiveWindow := by
  intro t t'
  have hreached := run_startedAt now localStart remoteStart sendingChannelNumber receivingChannelNumber minimumRTT events
  -- The numbers that are reached are numbers to start at.
  have hself : StartedAt t.stream.mNextSequenceNumber (t.stream.mGSNFR + 1) t.stream :=
    ⟨hreached.order, Nat.le_refl _, Nat.le_refl _⟩
  have hlater := run_invariant_always
    (fun u : RUDPChannelEndpoint => StartedAt t.stream.mNextSequenceNumber (t.stream.mGSNFR + 1) u.stream)
    (fun _ event h => h.step event) t later hself
  exact ⟨hlater.sent, hlater.received, hlater.order⟩

end OpenPeer
