import OpenPeer.RUDPChannelPair

/-!
# What two channel streams know of each other

The invariant of a side and its peer: the side's window is in order with respect
to what the peer sent, all it ever acknowledged is true of what it received, and
what it let go of the peer has received. A step of one side keeps this for it, and
a side only grows, so that it keeps it for the peer.
-/
namespace OpenPeer

open RUDPPacket Reorder RUDPChannelStream

section Grows

/-- A stream only grows: it sends more, receives more and forgets nothing of either. -/
structure Grows (s s' : RUDPChannelStream) : Prop where
  received : ∀ n, s.HasReceived n → s'.HasReceived n
  records : s.records <+: s'.records
  next : s.mNextSequenceNumber ≤ s'.mNextSequenceNumber

variable {acked : Nat → Prop} {first : Nat} {s s' : RUDPChannelStream}

theorem Grows.refl (s : RUDPChannelStream) : Grows s s := ⟨fun _ h => h, List.prefix_rfl, le_refl _⟩

theorem Grows.parity (h : Grows s s') (hsend : SendInOrder first s.toSendWindow) (n : Nat) (hlow : first ≤ n)
    (hhigh : n < s.mNextSequenceNumber) : s'.parityOf first n = s.parityOf first n :=
  hsend.parityOf_prefix h.records hlow hhigh

theorem grows_windows (h : WindowsKept acked s s') : Grows s s' := by
  rcases h with h | h
  · refine ⟨fun n hn => ?_, h.records ▸ List.prefix_rfl, Nat.le_of_eq h.next.symm⟩
    unfold RUDPChannelStream.HasReceived at hn ⊢
    rwa [h.shutdown, h.receive]
  · exact ⟨fun n _ => .inl h.shutdown, h.records ▸ List.prefix_rfl, Nat.le_of_eq h.next.symm⟩

end Grows

/-- One stream against the stream of its peer. -/
structure StreamHonest (first peerFirst : Nat) (s t : RUDPChannelStream) : Prop where
  order : InOrder peerFirst (t.parityOf peerFirst) s.toReceiveWindow
  greatest : s.isShutdown = false → GreatestHeld s.toReceiveWindow
  below : s.mGSNR < t.mNextSequenceNumber
  sendOrder : SendInOrder first s.toSendWindow
  buffered : s.Buffered
  records : ∀ r ∈ s.records, r.Headed ∧ r.gsnr ≤ s.mGSNR ∧
    Truthful s.HasReceived (t.parityOf peerFirst) peerFirst t.mNextSequenceNumber r.ack
  letGo : ∀ n, s.LetGo n → s.isShutdown = true ∨ t.HasReceived n
  error : s.mLastError ≠ .illegalStreamState

theorem InOrder.congr {first : Nat} {parity parity' : Nat → Bool} {w : ReceiveWindow} (h : InOrder first parity w)
    (hparity : ∀ n, first ≤ n → n ≤ w.mGSNR → parity' n = parity n) : InOrder first parity' w := by
  have hle := h.le
  have hfirst := h.first_le
  refine ⟨h.first_le, h.le, ?_, h.ascending, h.keys, ?_, ?_⟩
  · rw [h.xor]
    exact (xorParity_congr first w.mGSNFR fun m hlow hhigh => hparity m hlow (by omega)).symm
  · intro p hp
    obtain ⟨hlow, hhigh⟩ := h.keys p hp
    rw [h.parities p hp, hparity _ (by omega) hhigh]
  · intro hlow
    rw [h.greatestParity hlow, hparity _ hlow (le_refl _)]

section Steps

variable {acked : Nat → Prop} {first peerFirst : Nat} {s s' t t' : RUDPChannelStream}

theorem StreamHonest.of_peer (h : StreamHonest first peerFirst s t) (hpeer : SendInOrder peerFirst t.toSendWindow)
    (hgrows : Grows t t') : StreamHonest first peerFirst s t' := by
  have hbelow := h.below
  have hparity := hgrows.parity hpeer
  refine ⟨h.order.congr fun n hlow hhigh => hparity n hlow (by omega), h.greatest, lt_of_lt_of_le hbelow hgrows.next,
    h.sendOrder, h.buffered, ?_, ?_, h.error⟩
  · intro r hr
    obtain ⟨hheaded, hle, htrue⟩ := h.records r hr
    exact ⟨hheaded, hle, htrue.mono (fun _ hn => hn) hparity hgrows.next⟩
  · intro n hn
    exact (h.letGo n hn).imp_right (hgrows.received n)

/-- The side goes on, with the windows it had. -/
theorem StreamHonest.of_windows (h : StreamHonest first peerFirst s t) (hkept : WindowsKept acked s s')
    (hacked : ∀ n, acked n → t.HasReceived n) : StreamHonest first peerFirst s' t := by
  have hgrows := grows_windows hkept
  have hrecords : s'.records = s.records := by
    rcases hkept with hkept | hkept
    · exact hkept.records
    · exact hkept.records
  have hgsnr : s'.mGSNR = s.mGSNR := by
    rcases hkept with hkept | hkept
    · exact congrArg ReceiveWindow.mGSNR hkept.receive
    · exact (congrArg ReceiveWindow.mGSNR hkept.receive).trans rfl
  have htrue : ∀ r ∈ s'.records, r.Headed ∧ r.gsnr ≤ s'.mGSNR ∧
      Truthful s'.HasReceived (t.parityOf peerFirst) peerFirst t.mNextSequenceNumber r.ack := by
    intro r hr
    rw [hrecords] at hr
    obtain ⟨hheaded, hle, htrue⟩ := h.records r hr
    exact ⟨hheaded, hgsnr ▸ hle, htrue.mono hgrows.received (fun _ _ _ => rfl) (le_refl _)⟩
  rcases hkept with hkept | hkept
  · refine ⟨hkept.receive ▸ h.order, ?_, hgsnr ▸ h.below, h.sendOrder.of_same hrecords hkept.next hkept.parity,
      hkept.buffered h.buffered, htrue, ?_, hkept.error ▸ h.error⟩
    · intro halive
      rw [hkept.receive]
      exact h.greatest (hkept.shutdown ▸ halive)
    · intro n hn
      rw [hkept.shutdown]
      rcases hkept.letGo n hn with hn | hn
      · exact h.letGo n hn
      · exact .inr (hacked n hn)
  · refine ⟨hkept.receive ▸ h.order.cleared, ?_, hgsnr ▸ h.below, h.sendOrder.of_same hrecords hkept.next hkept.parity,
      hkept.buffered h.buffered, htrue, fun _ _ => .inl hkept.shutdown, ?_⟩
    · intro halive
      rw [hkept.shutdown] at halive
      cases halive
    · rcases hkept.error with herror | herror
      · rw [herror]
        exact h.error
      · rw [herror]
        decide

/-- The side creates a packet that says the truth. -/
theorem StreamHonest.of_created (h : StreamHonest first peerFirst s t) (stream : TransportStream Unit)
    (ackRequired : Bool) (now : Int) (packet : RUDPPacket) (bytes : List UInt8)
    (hbytes : packet.packetize = .ok bytes)
    (htrue : ∀ r : PacketRecord, r.mRUDPPacket = packet → r.mSequenceNumber = s.mNextSequenceNumber →
      r.gsnr = s.mGSNR → r.gsnfr = s.mGSNFR →
      r.Headed ∧ Truthful s.HasReceived (t.parityOf peerFirst) peerFirst t.mNextSequenceNumber r.ack) :
    StreamHonest first peerFirst ((s.afterRead stream ackRequired).pushPacket now
      ((s.afterRead stream ackRequired).bufferPacket now packet bytes)) t ∧
    Grows s ((s.afterRead stream ackRequired).pushPacket now
      ((s.afterRead stream ackRequired).bufferPacket now packet bytes)) := by
  generalize hq : (s.afterRead stream ackRequired).bufferPacket now packet bytes = q
  have hpacket : q.mPacket = some bytes := hq ▸ rfl
  have hrudp : q.mRUDPPacket = packet := hq ▸ rfl
  have hnumber : q.mSequenceNumber = s.mNextSequenceNumber := hq ▸ rfl
  have hxor : q.mXORedParityToNow = logicalXOR s.mXORedParityToNow (packet.isFlagSet .psParitySending) := hq ▸ rfl
  have hgsnr : q.gsnr = s.mGSNR := hq ▸ rfl
  have hgsnfr : q.gsnfr = s.mGSNFR := hq ▸ rfl
  generalize hs' : (s.afterRead stream ackRequired).pushPacket now q = s'
  have hrecords : s'.records = s.records ++ [q.toPacketRecord] := by
    rw [← hs']
    exact pushPacket_records s stream ackRequired now q
  have hnext : s'.mNextSequenceNumber = s.mNextSequenceNumber + 1 := hs' ▸ rfl
  have hgrows : Grows s s' := ⟨fun n hn => hs' ▸ hn, by rw [hrecords]; exact List.prefix_append _ _, by omega⟩
  have hsend : SendInOrder first s'.toSendWindow := h.sendOrder.pushed hrecords hnumber (hrudp ▸ hxor) hnext (hs' ▸ rfl)
  refine ⟨⟨hs' ▸ h.order, hs' ▸ h.greatest, hs' ▸ h.below, hsend, ?_, ?_, ?_, hs' ▸ h.error⟩, hgrows⟩
  · intro p hp bytes' hsome
    rw [← hs'] at hp
    rcases List.mem_append.mp hp with hp | hp
    · exact h.buffered p (List.mem_append_left _ hp) bytes' hsome
    · rcases List.mem_append.mp hp with hp | hp
      · exact h.buffered p (List.mem_append_right _ hp) bytes' hsome
      · rw [List.mem_singleton.mp hp] at hsome ⊢
        rw [hpacket] at hsome
        cases hsome
        rw [hrudp]
        exact hbytes
  · intro r hr
    rw [hrecords] at hr
    rcases List.mem_append.mp hr with hr | hr
    · obtain ⟨hheaded, hle, hsays⟩ := h.records r hr
      exact ⟨hheaded, hs' ▸ hle, hs' ▸ hsays⟩
    · rw [List.mem_singleton.mp hr]
      obtain ⟨hheaded, hsays⟩ := htrue q.toPacketRecord hrudp hnumber hgsnr hgsnfr
      exact ⟨hheaded, by rw [hgsnr, ← hs']; exact le_refl _, hs' ▸ hsays⟩
  · intro n hn
    have hn' : s.LetGo n := by
      rw [← hs'] at hn
      rcases hn with hn | ⟨p, hp, hpn, hnone⟩
      · exact .inl hn
      · rcases List.mem_append.mp hp with hp | hp
        · exact .inr ⟨p, hp, hpn, hnone⟩
        · rw [List.mem_singleton.mp hp, hpacket] at hnone
          cases hnone
    exact hs' ▸ h.letGo n hn'

/-- The side takes a packet of its peer. -/
theorem StreamHonest.of_accepted (h : StreamHonest first peerFirst s t) (now : Int) (n : Nat) (packet : RUDPPacket)
    (hlow : s.mGSNFR < n) (hnew : ∀ p ∈ s.mReceivedPackets, p.mSequenceNumber ≠ n)
    (hbelow : n < t.mNextSequenceNumber) (hparity : packet.isFlagSet .psParitySending = t.parityOf peerFirst n) :
    StreamHonest first peerFirst (s.acceptPacket now n packet) t ∧ Grows s (s.acceptPacket now n packet) := by
  rw [acceptPacket_eq]
  have hinserted := insertedWindow_inserted now n packet h.order hlow hparity
  have hgreatest := fun hg => insertedWindow_greatest now n packet hg hlow hnew
  have hkept : ∀ m, s.Holds m → m ≤ s.mGSNFR ∨
      ∃ p ∈ (insertedWindow now n packet s.toReceiveWindow).mReceivedPackets, p.mSequenceNumber = m := by
    rintro m (hm | ⟨p, hp, hpm⟩)
    · exact .inl hm
    · exact .inr ⟨p, mem_insert_of_ne hp (hnew p hp), hpm⟩
  have hgsnfr : (insertedWindow now n packet s.toReceiveWindow).mGSNFR = s.mGSNFR := rfl
  have hgsnr : (insertedWindow now n packet s.toReceiveWindow).mGSNR = max n s.mGSNR := rfl
  generalize insertedWindow now n packet s.toReceiveWindow = w at *
  obtain ⟨horder, hheld⟩ := delivered_inOrder { s with toReceiveWindow := w } hinserted
  have hsame := deliverLoop_sending { s with toReceiveWindow := w } w.mReceivedPackets
  have hwindow := deliverLoop_window { s with toReceiveWindow := w } w.mReceivedPackets rfl
  have happend := series_append (fun p : BufferedPacket => p.mSequenceNumber) (w.mGSNFR + 1) w.mReceivedPackets
  have hkeys := series_keys (fun p : BufferedPacket => p.mSequenceNumber) (w.mGSNFR + 1) w.mReceivedPackets
  change InOrder peerFirst (t.parityOf peerFirst)
    (deliverLoop w.mReceivedPackets { s with toReceiveWindow := w }).toReceiveWindow at horder
  change _ → GreatestHeld
    (deliverLoop w.mReceivedPackets { s with toReceiveWindow := w }).toReceiveWindow at hheld
  change StreamHonest first peerFirst (deliverLoop w.mReceivedPackets { s with toReceiveWindow := w }) t ∧
    Grows s (deliverLoop w.mReceivedPackets { s with toReceiveWindow := w })
  generalize deliverLoop w.mReceivedPackets { s with toReceiveWindow := w } = s' at *
  generalize series (fun p : BufferedPacket => p.mSequenceNumber) (w.mGSNFR + 1) w.mReceivedPackets = r at *
  have hshutdown : s'.isShutdown = s.isShutdown := hsame.isShutdown
  have hrecords : s'.records = s.records := hsame.records
  have hgsnr' : s'.mGSNR = max n s.mGSNR := (congrArg ReceiveWindow.mGSNR hwindow).trans hgsnr
  have hgsnfr' : s'.mGSNFR = s.mGSNFR + r.1.length := (congrArg ReceiveWindow.mGSNFR hwindow).trans (by rw [← hgsnfr])
  have hrest : s'.mReceivedPackets = r.2 := congrArg ReceiveWindow.mReceivedPackets hwindow
  have hreceived : ∀ m, s.HasReceived m → s'.HasReceived m := by
    rintro m (hshut | hm)
    · exact .inl (hshutdown.trans hshut)
    refine .inr ?_
    rcases hkept m hm with hle | ⟨p, hp, hpm⟩
    · exact .inl (by omega)
    rw [← happend] at hp
    rcases List.mem_append.mp hp with hp | hp
    · have hin : p.mSequenceNumber ∈ r.1.map fun p => p.mSequenceNumber := List.mem_map_of_mem hp
      rw [hkeys, List.mem_range'_1] at hin
      exact .inl (by omega)
    · exact .inr ⟨p, hrest ▸ hp, hpm⟩
  have hgrows : Grows s s' := ⟨hreceived, hrecords ▸ List.prefix_rfl, Nat.le_of_eq hsame.next.symm⟩
  have hbelowS := h.below
  refine ⟨⟨horder, ?_, by omega, h.sendOrder.of_same hrecords hsame.next hsame.parity, ?_, ?_, ?_, ?_⟩, hgrows⟩
  · intro halive
    exact hheld (hgreatest (h.greatest (hshutdown ▸ halive)))
  · rw [SendWindow.Buffered, hsame.removed, hsame.sending]
    exact h.buffered
  · intro q hq
    rw [hrecords] at hq
    obtain ⟨hheaded, hle, htrue⟩ := h.records q hq
    exact ⟨hheaded, by omega, htrue.mono hreceived (fun _ _ _ => rfl) (le_refl _)⟩
  · intro m hm
    rw [hshutdown]
    rw [SendWindow.LetGo, hsame.removed, hsame.sending] at hm
    exact h.letGo m hm
  · rw [hsame.error]
    exact h.error

end Steps

section Burst

/-- What a burst points to was sent: its first packet, and the packet whose bytes it delivers. -/
structure BurstRecorded (w : SendWindow) (l : SendNow) : Prop where
  first : ∀ n, l.firstPacketCreated = some n → ∃ r, w.findRecord n = some r ∧ r.SaysNothing
  attempt : ∀ n bytes, l.attemptToDeliver = some n → l.attemptToDeliverBuffer = some bytes →
    ∃ r, w.findRecord n = some r ∧ r.mRUDPPacket.packetize = .ok bytes

variable {first : Nat} {s s' : RUDPChannelStream} {l l' : SendNow}

theorem Grows.findRecord (h : Grows s s') {n : Nat} {r : PacketRecord} (hr : s.findRecord n = some r) :
    s'.findRecord n = some r := by
  obtain ⟨new, hnew⟩ := h.records
  rw [SendWindow.findRecord] at hr ⊢
  rw [← hnew, List.find?_append, hr, Option.some_or]

theorem BurstRecorded.grows (h : BurstRecorded s.toSendWindow l) (hgrows : Grows s s') :
    BurstRecorded s'.toSendWindow l := by
  refine ⟨fun n hn => ?_, fun n bytes hn hbytes => ?_⟩
  · obtain ⟨r, hr, hsays⟩ := h.first n hn
    exact ⟨r, hgrows.findRecord hr, hsays⟩
  · obtain ⟨r, hr, hpacket⟩ := h.attempt n bytes hn hbytes
    exact ⟨r, hgrows.findRecord hr, hpacket⟩

theorem BurstRecorded.carry {w : SendWindow} (h : BurstRecorded w l)
    (hfirst : ∀ n, l'.firstPacketCreated = some n → l.firstPacketCreated = some n)
    (hattempt : l'.attemptToDeliver = none ∨
      l'.attemptToDeliver = l.attemptToDeliver ∧ l'.attemptToDeliverBuffer = l.attemptToDeliverBuffer) :
    BurstRecorded w l' := by
  refine ⟨fun n hn => h.first n (hfirst n hn), fun n bytes hn hbytes => ?_⟩
  rcases hattempt with hnone | ⟨hsame, hbuffer⟩
  · rw [hnone] at hn
    cases hn
  · exact h.attempt n bytes (hsame ▸ hn) (hbuffer ▸ hbytes)

theorem BurstRecorded.loop {w : SendWindow} (h : BurstRecorded w l) : BurstRecorded w l.loop := by
  unfold SendNow.loop
  split
  · exact h.carry (fun _ hn => hn) (.inr ⟨rfl, rfl⟩)
  · exact h.carry (fun _ hn => hn) (.inl rfl)

theorem chooseResend_mem {last : Option Nat} {ps : List BufferedPacket} {p : BufferedPacket}
    (h : chooseResend last ps = some p) : p ∈ ps := by
  unfold chooseResend at h
  simp only at h
  have hp := (List.mem_filter.mp (List.mem_of_getLast? h)).1
  split at hp
  · rwa [ite_self] at hp
  · split at hp
    · exact hp
    · exact (List.dropWhile_suffix _).subset hp

/-- The regions that create no packet keep the pointers, or point to the packet that is resent. -/
theorem BurstRecorded.proceed (h : BurstRecorded s.toSendWindow l) (hsend : SendInOrder first s.toSendWindow)
    (hbuffered : s.Buffered) (input : SendNowInput) (hposition : l.position ≠ .creatingPacket)
    (hl' : (s.proceed input l).1 = some l') : BurstRecorded s.toSendWindow l' := by
  unfold RUDPChannelStream.proceed at hl'
  cases hwhere : l.position with
  | checkingBatons =>
    rw [hwhere] at hl'
    cases hl'
    unfold checkBatons
    split
    · exact h.carry (fun _ hn => hn) (.inr ⟨rfl, rfl⟩)
    · have hcarried : BurstRecorded s.toSendWindow { l with packetsToSend := s.mPacketsPerBurst } :=
        h.carry (fun _ hn => hn) (.inr ⟨rfl, rfl⟩)
      exact hcarried.loop
  | choosingResend =>
    rw [hwhere] at hl'
    cases hl'
    unfold selectResend
    simp only
    split
    next p hchosen =>
      have hp : p ∈ s.mSendingPackets := by
        split at hchosen
        · exact chooseResend_mem hchosen
        · cases hchosen
      refine ⟨h.first, fun n bytes hn hbytes => ?_⟩
      cases hn
      exact ⟨p.toPacketRecord, hsend.find (mem_records_sending hp),
        hbuffered p (List.mem_append_right _ hp) bytes hbytes⟩
    · exact h.carry (fun _ hn => hn) (.inr ⟨rfl, rfl⟩)
  | creatingPacket => exact absurd hwhere hposition
  | delivering =>
    rw [hwhere] at hl'
    cases hdelivery : input.delivery with
    | sent =>
      rw [hdelivery] at hl'
      cases hl'
      exact h.carry (fun _ hn => hn) (.inr ⟨rfl, rfl⟩)
    | notSent =>
      rw [hdelivery] at hl'
      cases hl'
      refine h.carry (fun n hn => ?_) (.inr ⟨rfl, rfl⟩)
      change (if l.firstPacketCreated = l.attemptToDeliver then none else l.firstPacketCreated) = some n at hn
      split at hn
      · cases hn
      · exact hn
    | delegateGone =>
      rw [hdelivery] at hl'
      cases hl'
      exact h.carry (fun _ hn => hn) (.inr ⟨rfl, rfl⟩)
  | afterDelivery =>
    rw [hwhere] at hl'
    cases hl'
    have hloop : (s.clearResend l).1 = l.loop := by
      unfold clearResend
      split
      · rfl
      · split <;> rfl
    rw [hloop]
    exact h.loop
  | leaving =>
    rw [hwhere] at hl'
    cases hl'
    exact h.carry (fun _ hn => hn) (.inr ⟨rfl, rfl⟩)
  | unwinding =>
    rw [hwhere] at hl'
    cases hl'

end Burst

/-- A side against its peer: the streams, the acknowledgements it gave out and the datagrams it
sent, and what its burst points to. -/
structure Honest (first peerFirst : Nat) (x y : RUDPChannelNode) : Prop
    extends StreamHonest first peerFirst x.stream y.stream where
  reports : ∀ a ∈ x.reported, Truthful x.stream.HasReceived (y.stream.parityOf peerFirst) peerFirst
    y.stream.mNextSequenceNumber a
  sent : ∀ d ∈ x.sent, ∃ r ∈ x.stream.records, d.record = some r ∧ r.mRUDPPacket.packetize = .ok d.bytes
  burst : ∀ l, x.endpoint.sending = some l → BurstRecorded x.stream.toSendWindow l

/-- A burst that starts points to no packet. -/
theorem burstRecorded_start (w : SendWindow) : BurstRecorded w .start where
  first n hn := by cases hn
  attempt n bytes hn := by cases hn

/-- What is sent is what the burst points to. -/
theorem outgoing_recorded {t : RUDPChannelEndpoint} {event : OwnEvent} {d : Datagram}
    (hburst : ∀ l, t.sending = some l → ∀ n bytes, l.attemptToDeliver = some n → l.attemptToDeliverBuffer = some bytes →
      ∃ r, t.stream.findRecord n = some r ∧ r.mRUDPPacket.packetize = .ok bytes) (hd : d ∈ RUDPChannelNode.outgoing t event) :
    ∃ r ∈ t.stream.records, d.record = some r ∧ r.mRUDPPacket.packetize = .ok d.bytes := by
  unfold RUDPChannelNode.outgoing at hd
  split at hd
  · split at hd
    · cases hd
    next l hl =>
      split at hd
      · split at hd
        next n bytes hn hbytes =>
          obtain ⟨r, hr, hpacket⟩ := hburst l hl n bytes hn hbytes
          rw [List.mem_singleton.mp hd]
          exact ⟨r, List.mem_of_find?_eq_some hr, (findPacket_record t.stream n).trans hr, hpacket⟩
        · cases hd
      · cases hd
  · cases hd

section Nodes

variable {first peerFirst : Nat} {x x' y y' : RUDPChannelNode}

theorem Honest.of_peer (h : Honest first peerFirst x y) (hpeer : SendInOrder peerFirst y.stream.toSendWindow)
    (hgrows : Grows y.stream y'.stream) : Honest first peerFirst x y' where
  __ := h
  toStreamHonest := h.toStreamHonest.of_peer hpeer hgrows
  reports := fun a ha => (h.reports a ha).mono (fun _ hn => hn) (hgrows.parity hpeer) hgrows.next

/-- A side moves on: its stream stays honest and grows, and it has sent no more than what its burst
points to. -/
theorem Honest.of_move (h : Honest first peerFirst x y) (hstream : StreamHonest first peerFirst x'.stream y.stream)
    (hgrows : Grows x.stream x'.stream) (hreported : x'.reported = x.reported)
    (hsent : ∀ d ∈ x'.sent, d ∈ x.sent ∨
      ∃ r ∈ x.stream.records, d.record = some r ∧ r.mRUDPPacket.packetize = .ok d.bytes)
    (hburst : ∀ l, x'.endpoint.sending = some l → BurstRecorded x'.stream.toSendWindow l) :
    Honest first peerFirst x' y where
  toStreamHonest := hstream
  reports := by
    rw [hreported]
    exact fun a ha => (h.reports a ha).mono hgrows.received (fun _ _ _ => rfl) (le_refl _)
  sent := by
    intro d hd
    rcases hsent d hd with hd | ⟨r, hr, hrest⟩
    · obtain ⟨r, hr, hrest⟩ := h.sent d hd
      exact ⟨r, hgrows.records.subset hr, hrest⟩
    · exact ⟨r, hgrows.records.subset hr, hrest⟩
  burst := hburst

/-- A burst creates a packet. -/
theorem Honest.created (h : Honest first peerFirst x y) (now : Int) (bit : Bool) (l : SendNow)
    (hl : BurstRecorded x.stream.toSendWindow l)
    (hcoherent : ∀ n q, l.firstPacketCreated = some n → x.stream.findPacket n = some q →
      q.gsnfr = x.stream.mGSNFR ∨ x.stream.mGSNR = x.stream.mGSNFR) :
    StreamHonest first peerFirst (x.stream.createPacket now bit l).2 y.stream ∧
      Grows x.stream (x.stream.createPacket now bit l).2 ∧
      BurstRecorded (x.stream.createPacket now bit l).2.toSendWindow (x.stream.createPacket now bit l).1 := by
  rcases @createPacket_cases (fun _ => False) x.stream now bit l with ⟨hsame, position, hposition, -⟩ |
    ⟨stream, ackRequired, packet, bytes, hbytes, hcompletes, hcreate⟩
  · have hkept : WindowsKept (fun _ => False) x.stream (x.stream.createPacket now bit l).2 :=
      .inl hsame.toWindowsUntouched
    have hgrows := grows_windows hkept
    refine ⟨h.toStreamHonest.of_windows hkept fun _ hn => hn.elim, hgrows, ?_⟩
    rw [hposition]
    exact (hl.grows hgrows).carry (fun _ hn => hn) (.inr ⟨rfl, rfl⟩)
  · have hfirst : ∀ n p, l.firstPacketCreated = some n → x.stream.findPacket n = some p →
        Truthful x.stream.HasReceived (y.stream.parityOf peerFirst) peerFirst y.stream.mNextSequenceNumber p.ack ∧
          p.SaysNothing ∧ p.gsnr ≤ x.stream.mGSNR := by
      intro n p hn hp
      obtain ⟨r, hr, hsays⟩ := hl.first n hn
      have hrecord : x.stream.findRecord n = some p.toPacketRecord := by rw [← findPacket_record, hp]; rfl
      rw [hrecord] at hr
      cases hr
      obtain ⟨-, hle, htrue⟩ := h.records p.toPacketRecord (List.mem_of_find?_eq_some hrecord)
      exact ⟨htrue, hsays, hle⟩
    have htrue := fun (r : PacketRecord) (hr : r.mRUDPPacket = packet) hn hgsnr hgsnfr =>
      created_truthful h.order h.greatest h.below bit l r (by rw [hr]; exact hcompletes) hn hgsnr hgsnfr hfirst
        hcoherent
    obtain ⟨hstream, hgrows⟩ := h.toStreamHonest.of_created stream ackRequired now packet bytes hbytes
      fun r hr hn hgsnr hgsnfr => ⟨(htrue r hr hn hgsnr hgsnfr).1, (htrue r hr hn hgsnr hgsnfr).2.2.1⟩
    rw [hcreate]
    refine ⟨hstream, hgrows, ?_⟩
    generalize hq : (x.stream.afterRead stream ackRequired).bufferPacket now packet bytes = q at *
    have hrudp : q.mRUDPPacket = packet := hq ▸ rfl
    have hnumber : q.mSequenceNumber = x.stream.mNextSequenceNumber := hq ▸ rfl
    have hnew : ((x.stream.afterRead stream ackRequired).pushPacket now q).findRecord x.stream.mNextSequenceNumber
        = some q.toPacketRecord := by
      rw [← hnumber]
      exact hstream.sendOrder.find (mem_records_sending (List.mem_append_right _ List.mem_cons_self))
    refine ⟨fun n hn => ?_, fun n bytes' hn hbytes' => ?_⟩
    · cases hpointer : l.firstPacketCreated with
      | none =>
        rw [hpointer] at hn
        cases hn
        exact ⟨_, hnew, (htrue q.toPacketRecord hrudp hnumber (hq ▸ rfl) (hq ▸ rfl)).2.2.2 hpointer⟩
      | some m =>
        rw [hpointer] at hn
        cases hn
        obtain ⟨r, hr, hsays⟩ := hl.first _ hpointer
        exact ⟨r, hgrows.findRecord hr, hsays⟩
    · cases hn
      cases hbytes'
      exact ⟨_, hnew, by rw [hrudp]; exact hbytes⟩

/-- What a side does by itself. -/
theorem Honest.own (h : Honest first peerFirst x y) (event : OwnEvent)
    (hcoherent : ∀ input l, event = .proceed input → x.endpoint.sending = some l → l.position = .creatingPacket →
      ∀ n q, l.firstPacketCreated = some n → x.stream.findPacket n = some q →
        q.gsnfr = x.stream.mGSNFR ∨ x.stream.mGSNR = x.stream.mGSNFR) :
    Honest first peerFirst (x.act y (.own event)) y ∧ Grows x.stream (x.act y (.own event)).stream := by
  have hsent : ∀ d ∈ (x.act y (.own event)).sent, d ∈ x.sent ∨
      ∃ r ∈ x.stream.records, d.record = some r ∧ r.mRUDPPacket.packetize = .ok d.bytes := by
    intro d hd
    rcases List.mem_append.mp hd with hd | hd
    · exact .inl hd
    · exact .inr (outgoing_recorded (fun l hl => (h.burst l hl).attempt) hd)
  by_cases hproceed : ∃ input, event = .proceed input
  · obtain ⟨input, rfl⟩ := hproceed
    cases hsending : x.endpoint.sending with
    | none =>
      have hsame : (x.endpoint.step (.own (.proceed input))) = x.endpoint := by
        rw [RUDPChannelEndpoint.step, RUDPChannelEndpoint.own, hsending]
      have hstream : (x.act y (.own (.proceed input))).stream = x.stream :=
        congrArg RUDPChannelEndpoint.stream hsame
      refine ⟨h.of_move (hstream ▸ h.toStreamHonest) (hstream ▸ Grows.refl _) rfl hsent fun l hl => ?_,
        hstream ▸ Grows.refl _⟩
      change (x.endpoint.step (.own (.proceed input))).sending = some l at hl
      rw [hsame, hsending] at hl
      cases hl
    | some l =>
      have hnode : (x.act y (.own (.proceed input))).stream = (x.stream.proceed input l).2 ∧
          (x.act y (.own (.proceed input))).endpoint.sending = (x.stream.proceed input l).1 := by
        rw [RUDPChannelNode.act, RUDPChannelNode.stream, RUDPChannelEndpoint.step, RUDPChannelEndpoint.own, hsending]
        exact ⟨rfl, rfl⟩
      obtain ⟨hstream, hl'⟩ := hnode
      have hl := h.burst l hsending
      by_cases hposition : l.position = .creatingPacket
      · have hproceeds : x.stream.proceed input l =
            (some (x.stream.createPacket input.now input.parity l).1, (x.stream.createPacket input.now input.parity l).2) := by
          rw [RUDPChannelStream.proceed, hposition]
        obtain ⟨hhonest, hgrows, hburst⟩ := h.created input.now input.parity l hl (hcoherent input l rfl hsending hposition)
        rw [hproceeds] at hstream hl'
        rw [← hstream] at hhonest hgrows hburst
        refine ⟨h.of_move hhonest hgrows rfl hsent fun m hm => ?_, hgrows⟩
        rw [hl'] at hm
        cases hm
        exact hburst
      · have hkept : WindowsKept (fun _ => False) x.stream (x.stream.proceed input l).2 := by
          rcases proceed_cases (fun _ => False) x.stream input l with hkept | ⟨hcreating, -⟩
          · exact hkept.windows
          · exact absurd hcreating hposition
        have hgrows := grows_windows hkept
        have hhonest := h.toStreamHonest.of_windows hkept fun _ hn => hn.elim
        rw [← hstream] at hhonest hgrows
        refine ⟨h.of_move hhonest hgrows rfl hsent fun m hm => ?_, hgrows⟩
        rw [hl'] at hm
        exact (hl.proceed h.sendOrder h.buffered input hposition hm).grows hgrows
  · obtain ⟨hkept, hsending⟩ := own_windows (fun _ => False) x.endpoint event fun input hinput =>
      hproceed ⟨input, hinput⟩
    have hgrows : Grows x.stream (x.act y (.own event)).stream := grows_windows hkept
    refine ⟨h.of_move (h.toStreamHonest.of_windows hkept fun _ hn => hn.elim) hgrows rfl hsent ?_, hgrows⟩
    intro l hl
    change (x.endpoint.own event).sending = some l at hl
    rcases hsending with hsame | hstart
    · rw [hsame] at hl
      exact (h.burst l hl).grows hgrows
    · rw [hstart] at hl
      cases hl
      exact burstRecorded_start _

theorem Honest.handles (h : Honest first peerFirst x y) {held : Nat → Prop} {a : Ack}
    (htrue : Truthful held (x.stream.parityOf first) first x.stream.mNextSequenceNumber a) (now : Int)
    (u : RUDPChannelStream) (hu : u.toSendWindow = x.stream.toSendWindow) : (u.handleAck now a).1 = .handled := by
  refine @handleAck_handled held first _ u now ?_ ?_
  · rw [hu]
    exact h.sendOrder
  · rw [hu]
    exact htrue

theorem Honest.arrival (hpeer : Honest peerFirst first y x) {k : Nat} {d : Datagram} (hd : y.sent[k]? = some d)
    (hnear : ∀ r, d.record = some r → RUDPChannelPair.NearStream x.stream r) :
    ∃ r ∈ y.stream.records, parseIfRUDP d.bytes = some r.mRUDPPacket.received ∧
      r.mRUDPPacket.received.getSequenceNumber x.stream.mGSNR = r.mSequenceNumber ∧
      r.mRUDPPacket.received.isFlagSet .psParitySending = y.stream.parityOf peerFirst r.mSequenceNumber ∧
      ∀ n, Truthful y.stream.HasReceived (x.stream.parityOf first) first x.stream.mNextSequenceNumber
        (x.stream.packetAck r.mRUDPPacket.received n) := by
  obtain ⟨r, hr, hrecord, hbytes⟩ := hpeer.sent d (List.mem_of_getElem? hd)
  obtain ⟨hheaded, -, htrue⟩ := hpeer.records r hr
  obtain ⟨hparse, hnumber, hparity, hack⟩ := arrived_truthful x.stream hheaded hbytes (hnear r hrecord) htrue
  exact ⟨r, hr, hparse, hnumber, hparity.trans (hpeer.sendOrder.parity hr), hack⟩

theorem Honest.of_stream (h : Honest first peerFirst x y) (s : RUDPChannelStream)
    (hstream : StreamHonest first peerFirst s y.stream) (hgrows : Grows x.stream s) :
    Honest first peerFirst { x with endpoint := { x.endpoint with stream := s } } y :=
  h.of_move hstream hgrows rfl (fun _ hd => .inl hd) fun l hl => (h.burst l hl).grows hgrows

theorem Honest.receive (h : Honest first peerFirst x y) (hpeer : Honest peerFirst first y x) (k : Nat) (now : Int)
    (ecnMarked : Bool) (hnear : ∀ d r, y.sent[k]? = some d → d.record = some r → RUDPChannelPair.NearStream x.stream r) :
    Honest first peerFirst (x.act y (.receive k now ecnMarked)) y ∧
      Grows x.stream (x.act y (.receive k now ecnMarked)).stream := by
  cases hd : y.sent[k]? with
  | none =>
    have hsame : x.act y (.receive k now ecnMarked) = x := by simp only [RUDPChannelNode.act, hd, Option.bind_none]
    rw [hsame]
    exact ⟨h, Grows.refl _⟩
  | some d =>
    obtain ⟨r, hr, hparse, hnumber, hparity, hack⟩ := hpeer.arrival hd (hnear d · hd)
    have hact : x.act y (.receive k now ecnMarked) = { x with endpoint := { x.endpoint with
        stream := (x.stream.handlePacket now r.mRUDPPacket.received ecnMarked).2 } } := by
      simp only [RUDPChannelNode.act, hd, Option.bind_some, hparse]
      rfl
    rw [hact]
    change Honest first peerFirst _ y ∧ Grows x.stream (x.stream.handlePacket now r.mRUDPPacket.received ecnMarked).2
    have hacks := (hack (r.mRUDPPacket.received.getSequenceNumber x.stream.mGSNR)).acks
    rcases handlePacket_cases x.stream now r.mRUDPPacket.received ecnMarked hacks with hsame |
      ⟨s, -, -, u, -, hsend, hillegal⟩ | ⟨s, hsame, hlow, hnew, haccepted⟩
    · have hkept : WindowsKept y.stream.HasReceived x.stream _ := .inl hsame.toWindowsUntouched
      exact ⟨h.of_stream _ (h.toStreamHonest.of_windows hkept fun _ hn => hn) (grows_windows hkept), grows_windows hkept⟩
    · rw [h.handles (hack _) now u hsend] at hillegal
      cases hillegal
    · have hkept : WindowsKept y.stream.HasReceived x.stream s := .inl hsame.toWindowsUntouched
      have hs := h.toStreamHonest.of_windows hkept fun _ hn => hn
      rw [haccepted, hnumber]
      rw [hnumber] at hlow hnew
      obtain ⟨hstream, hgrows⟩ := hs.of_accepted now r.mSequenceNumber r.mRUDPPacket.received hlow hnew
        (hpeer.sendOrder.index hr).2.1 hparity
      have hbefore := grows_windows hkept
      have hall : Grows x.stream (s.acceptPacket now r.mSequenceNumber r.mRUDPPacket.received) :=
        ⟨fun n hn => hgrows.received n (hbefore.received n hn), hbefore.records.trans hgrows.records,
          le_trans hbefore.next hgrows.next⟩
      exact ⟨h.of_stream _ hstream hall, hall⟩

theorem Honest.report (h : Honest first peerFirst x y) (size : Nat) :
    Honest first peerFirst (x.act y (.report size)) y ∧ Grows x.stream (x.act y (.report size)).stream := by
  refine ⟨⟨h.toStreamHonest, ?_, h.sent, h.burst⟩, Grows.refl _⟩
  intro a ha
  rcases List.mem_append.mp ha with ha | ha
  · exact h.reports a ha
  · rw [List.mem_singleton.mp ha]
    exact getState_truthful h.order h.greatest h.below size

theorem Honest.acknowledge (h : Honest first peerFirst x y) (hpeer : Honest peerFirst first y x) (k : Nat) (now : Int)
    (id : Nat) : Honest first peerFirst (x.act y (.acknowledge k now id)) y ∧
      Grows x.stream (x.act y (.acknowledge k now id)).stream := by
  cases ha : y.reported[k]? with
  | none =>
    have hsame : x.act y (.acknowledge k now id) = x := by simp only [RUDPChannelNode.act, ha]
    rw [hsame]
    exact ⟨h, Grows.refl _⟩
  | some a =>
    have htrue := hpeer.reports a (List.mem_of_getElem? ha)
    have hact : x.act y (.acknowledge k now id) = { x with endpoint := { x.endpoint with
        stream := x.stream.handleExternalAck now id a } } := by
      simp only [RUDPChannelNode.act, ha]
      rfl
    rw [hact]
    change Honest first peerFirst _ y ∧ Grows x.stream (x.stream.handleExternalAck now id a)
    rcases handleExternalAck_cases x.stream now id a htrue.acks with hsame | ⟨s, -, -, u, -, hsend, hillegal⟩
    · have hkept : WindowsKept y.stream.HasReceived x.stream _ := .inl hsame.toWindowsUntouched
      exact ⟨h.of_stream _ (h.toStreamHonest.of_windows hkept fun _ hn => hn) (grows_windows hkept), grows_windows hkept⟩
    · rw [h.handles htrue now u hsend] at hillegal
      cases hillegal

end Nodes

end OpenPeer
