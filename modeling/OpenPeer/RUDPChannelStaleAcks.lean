import OpenPeer.RUDPChannelVectorChecks

/-!
# Acknowledgements that come late

An acknowledgement that was overtaken by another reports packets missing that have
arrived since. It must not take back what the other one said. It does so in one
respect: a packet that was acknowledged ahead of others is marked as lost, and the
loss slows the sending down.
-/
namespace OpenPeer

open RUDPPacket Runs BufferedPacket RUDPChannelStream

section Loss

variable (s : RUDPChannelStream) (now : Int) (a : Ack)

variable (onLoss : Int → RUDPChannelStream → RUDPChannelStream)

theorem acceptAckWith_noLoss (h : s.toSendWindow.lossFound a = false) :
    s.acceptAckWith onLoss now a = s.acceptAck now a := by
  unfold acceptAckWith acceptAck
  simp only
  split
  · rfl
  next hne =>
    obtain ⟨p, hp, -⟩ := paced_endSendingPeriod (s.acknowledge a.gsnfr) now
      (decide (s.mSendingPackets.length > 0)) a.ecFlag
    rw [hp]
    have hloss : ((s.toSendWindow.clean a).walk a).2.foundLoss = false := by
      rwa [SendWindow.lossFound, bne_iff_ne.mpr hne, Bool.true_and] at h
    have hwalk : (walkVector (s.acknowledge a.gsnfr).mSendingPackets (a.gsnfr + 1)
        (vectorDecoderStart a.vector a.gsnr a.gsnfr)
        ⟨(s.acknowledge a.gsnfr).toCounters, a.xpFlag, false, false, false⟩).2.foundLoss = false := hloss
    unfold acknowledgeVectorWith acknowledgeVector
    simp only [hwalk, Bool.false_eq_true, if_false]

/-- There is none either in an acknowledgement that is not accepted. -/
theorem handleAckWith_noLoss (h : s.ackVerdict a = .accepted → s.toSendWindow.lossFound a = false) :
    s.handleAckWith onLoss now a = s.handleAck now a := by
  rw [ackVerdict_accepted] at h
  unfold handleAckWith handleAck
  split
  · rfl
  next hlength =>
  split
  · rfl
  next hle =>
  split
  · rfl
  next hlow =>
  split
  · rfl
  next hhigh =>
  split
  · rfl
  next hnext =>
  have hprocess : (∀ p, s.findSending a.gsnfr = some p → a.xpFlag = p.mXORedParityToNow) →
      s.processAckWith onLoss now a = s.processAck now a := by
    intro hxp
    have hloss : (∀ p, s.findSending a.gsnr = some p → a.pgFlag = p.parity) → s.toSendWindow.lossFound a = false :=
      fun hpg => h ⟨hlength, Nat.le_of_not_gt hle, Nat.le_of_not_gt hlow, Nat.le_of_not_gt hhigh,
        Nat.le_of_not_gt hnext, hxp, hpg⟩
    unfold processAckWith processAck
    cases hfind : s.findSending a.gsnr with
    | none => exact acceptAckWith_noLoss s now a onLoss (hloss fun p hp => by rw [hfind] at hp; cases hp)
    | some q =>
      simp only
      split
      · rfl
      next hparity =>
        refine acceptAckWith_noLoss _ now a onLoss ?_
        rw [calculateRTT_sendWindow]
        exact hloss fun p hp => by
          rw [hfind] at hp
          cases hp
          exact not_not.mp hparity
  cases hfind : s.findSending a.gsnfr with
  | none => exact hprocess fun p hp => by rw [hfind] at hp; cases hp
  | some q =>
    simp only
    split
    · rfl
    next hparity =>
      exact hprocess fun p hp => by
        rw [hfind] at hp
        cases hp
        exact not_not.mp hparity

/-- An acknowledgement that was asked for flags no packet without a buffer. -/
theorem flagForced_same (forced : Nat) (ps : List BufferedPacket) (c : Counters) {q : BufferedPacket}
    (hq : q ∈ (flagForced forced ps c).1) :
    ∃ p ∈ ps, q.toPacketRecord = p.toPacketRecord ∧ q.mPacket = p.mPacket ∧
      q.mFlaggedAsFailedToReceive = p.mFlaggedAsFailedToReceive := by
  induction ps generalizing c with
  | nil => cases hq
  | cons p ps ih =>
    rw [flagForced] at hq
    split at hq
    · exact ⟨q, hq, rfl, rfl, rfl⟩
    · rcases List.mem_cons.mp hq with rfl | hq
      · obtain ⟨hrecord, hpacket⟩ := flagForResending_same p c
        obtain ⟨hrecord', hpacket'⟩ := releaseBaton_same (p.flagForResending c).1 (p.flagForResending c).2
        refine ⟨p, List.mem_cons_self, hrecord'.trans hrecord, hpacket'.trans hpacket, ?_⟩
        have hflag : (p.flagForResending c).1.mFlaggedAsFailedToReceive = p.mFlaggedAsFailedToReceive := by
          unfold BufferedPacket.flagForResending
          split
          · rfl
          · split <;> rfl
        have hrelease : ∀ (r : BufferedPacket) c', (r.releaseBaton c').1.mFlaggedAsFailedToReceive
            = r.mFlaggedAsFailedToReceive := by
          intro r c'
          unfold BufferedPacket.releaseBaton
          split <;> rfl
        exact (hrelease _ _).trans hflag
      · obtain ⟨r, hr, hsame⟩ := ih _ hq
        exact ⟨r, List.mem_cons_of_mem _ hr, hsame⟩

end Loss

/-- A packet without its buffer stays without, is not to be resent, and is not marked as lost unless
it was so before. -/
def StaysReleased (p : BufferedPacket) (s : RUDPChannelStream) : Prop :=
  ∀ q ∈ s.packets, q.mSequenceNumber = p.mSequenceNumber →
    q.mPacket = none ∧ q.mFlagForResendingInNextBurst = false ∧
      (q.mFlaggedAsFailedToReceive = true → p.mFlaggedAsFailedToReceive = true)

/-- The acknowledgement comes to its vector, and the vector reports a packet missing that was let go
of and was never reported missing before. -/
def ReportsAcknowledged (a : Ack) (s : RUDPChannelStream) : Prop :=
  s.ackVerdict a = .accepted ∧ a.gsnr ≠ a.gsnfr ∧ ∃ p ∈ s.mSendingPackets, p.mPacket = none ∧
    p.mFlaggedAsFailedToReceive = false ∧ ∃ state, a.reported p.mSequenceNumber = some state ∧ state.isReceived = false

theorem fate_failed (a : Ack) (p : BufferedPacket) : (a.fate p).mFlaggedAsFailedToReceive =
    (p.mFlaggedAsFailedToReceive || p.missedNow (a.reported p.mSequenceNumber)) := by
  have htold : ∀ o : Option VectorStates, (p.told o).mFlaggedAsFailedToReceive
      = (p.mFlaggedAsFailedToReceive || p.missedNow o) := by
    intro o
    unfold BufferedPacket.told BufferedPacket.missedNow BufferedPacket.missed
    cases o with
    | none => exact (Bool.or_false _).symm
    | some state =>
      cases hreceived : state.isReceived with
      | true => simp [hreceived, BufferedPacket.received]
      | false => cases hfailed : p.mFlaggedAsFailedToReceive <;> simp [hreceived, hfailed]
  unfold Ack.fate
  split
  · exact htold _
  · exact htold _

theorem missedNow_iff (p : BufferedPacket) (o : Option VectorStates) : p.missedNow o = true ↔
    p.mFlaggedAsFailedToReceive = false ∧ ∃ state, o = some state ∧ state.isReceived = false := by
  cases o with
  | none => simp [BufferedPacket.missedNow]
  | some state => simp [BufferedPacket.missedNow, and_comm]

section Steps

variable {first : Nat} {s : RUDPChannelStream} {a : Ack} (now : Int)

variable {p q : BufferedPacket}

theorem SendInOrder.unique (h : SendInOrder first s.toSendWindow) (hp : p ∈ s.packets) (hq : q ∈ s.packets)
    (hsame : q.mSequenceNumber = p.mSequenceNumber) : q = p := by
  have hnumbers : Ascending s.packets := by
    refine ascending_of_range (k := first) ?_
    have hrange := h.numbers
    rw [SendWindow.records, List.map_map] at hrange
    refine hrange.trans (congrArg (List.range' first) ?_)
    rw [← h.length, SendWindow.records, List.length_map]
    rfl
  exact hnumbers.unique hq hp hsame

/-- What an acknowledgement leaves of a packet that was let go of. -/
theorem handleAck_released (h : SendInOrder first s.toSendWindow) (hnot : ¬ReportsAcknowledged a s)
    (hp : p ∈ s.packets) (hnone : p.mPacket = none) (hq : q ∈ (s.handleAck now a).2.packets)
    (hnumber : q.mSequenceNumber = p.mSequenceNumber) :
    q.mPacket = none ∧ (q.mFlaggedAsFailedToReceive = true → p.mFlaggedAsFailedToReceive = true) := by
  have hsame : ∀ r ∈ s.packets, r.mSequenceNumber = p.mSequenceNumber → r = p := fun r hr => h.unique hp hr
  have hremoved : ∀ r ∈ (s.toSendWindow.acked a).mRemovedPackets, r.mSequenceNumber = p.mSequenceNumber →
      r.mPacket = none ∧ (r.mFlaggedAsFailedToReceive = true → p.mFlaggedAsFailedToReceive = true) := by
    intro r hr hrn
    rw [(acked_packets a s.toSendWindow h.ascending).2.1] at hr
    rcases List.mem_append.mp hr with hr | hr
    · rw [hsame r (List.mem_append_left _ hr) hrn]
      exact ⟨hnone, id⟩
    · obtain ⟨r', hr', rfl⟩ := List.mem_map.mp hr
      rw [← hsame r' (List.mem_append_right _ (List.mem_of_mem_filter hr')) hrn]
      exact ⟨rfl, id⟩
  rcases handleAck_effect s now a with ⟨-, hwindow, -⟩ | ⟨haccepted, hsending, hgone, -⟩
  · rw [hwindow] at hq
    rw [hsame q hq hnumber]
    exact ⟨hnone, id⟩
  · rcases List.mem_append.mp hq with hq | hq
    · rw [hgone] at hq
      exact hremoved q hq hnumber
    · have hmem : q.withoutBaton ∈ (s.handleAck now a).2.mSendingPackets.map withoutBaton := List.mem_map_of_mem hq
      rw [hsending, (acked_packets a s.toSendWindow h.ascending).1] at hmem
      by_cases heq : a.gsnr = a.gsnfr
      · rw [if_pos heq] at hmem
        obtain ⟨r, hr, hrq⟩ := List.mem_map.mp hmem
        obtain ⟨hrnumber, hrpacket, hrfailed, -⟩ := withoutBaton_fields hrq
        rw [hsame r (List.mem_append_right _ (List.mem_of_mem_filter hr)) (hrnumber.trans hnumber)] at hrpacket hrfailed
        exact ⟨hrpacket.symm.trans hnone, fun hf => hrfailed.trans hf⟩
      · rw [if_neg heq, List.map_map] at hmem
        obtain ⟨r, hr, hrq⟩ := List.mem_map.mp hmem
        obtain ⟨hrnumber, hrpacket, hrfailed, -⟩ := withoutBaton_fields hrq
        rw [fate_number] at hrnumber
        have hrsending := List.mem_of_mem_filter hr
        obtain rfl := hsame r (List.mem_append_right _ hrsending) (hrnumber.trans hnumber)
        refine ⟨?_, fun hf => ?_⟩
        · rw [← hrpacket, fate_packet, hnone, ite_self]
        · rw [← hrfailed, fate_failed, Bool.or_eq_true, missedNow_iff] at hf
          refine hf.resolve_right fun hmissed => ?_
          exact hnot ⟨haccepted, heq, r, hrsending, hnone, hmissed⟩

theorem handleForcedAck_same (id : Nat) (hq : q ∈ (s.handleForcedAck id).packets) :
    ∃ p ∈ s.packets, q.mSequenceNumber = p.mSequenceNumber ∧ q.mPacket = p.mPacket ∧
      q.mFlaggedAsFailedToReceive = p.mFlaggedAsFailedToReceive := by
  unfold handleForcedAck at hq
  simp only at hq
  split at hq
  · rcases List.mem_append.mp hq with hq | hq
    · exact ⟨q, List.mem_append_left _ hq, rfl, rfl, rfl⟩
    · obtain ⟨p, hp, hrecord, hsame⟩ := flagForced_same _ _ _ hq
      exact ⟨p, List.mem_append_right _ hp, congrArg PacketRecord.mSequenceNumber hrecord, hsame⟩
  · exact ⟨q, hq, rfl, rfl, rfl⟩

theorem handleAck_tallied (h : s.Tallied) : (s.handleAck now a).2.Tallied := by
  rw [← handleAckWith_handlePacketLoss]
  rcases keptAround_handleAckWith handlePacketLoss s now a with hkept | ⟨time, u, hu, hr⟩
  · exact hkept.tallied h
  · exact hr.tallied ((handlePacketLoss_batons u time).1.tallied (hu.tallied h))

theorem SendWindow.Tallied.unflagged {w : SendWindow} (h : w.Tallied) (hq : q ∈ w.packets)
    (hnone : q.mPacket = none) : q.mFlagForResendingInNextBurst = false := by
  refine Bool.eq_false_iff.mpr fun hflag => ?_
  have hsome := h.resendable q hq hflag
  rw [hnone] at hsome
  cases hsome

/-- A packet that was let go of stays so, unless the acknowledgement reports one missing. -/
theorem staysReleased_handleAck (h : SendInOrder first s.toSendWindow) (htallied : s.Tallied)
    (hnot : ¬ReportsAcknowledged a s) (hp : p ∈ s.packets) (hnone : p.mPacket = none) :
    StaysReleased p (s.handleAck now a).2 ∧ ∀ id, StaysReleased p ((s.handleAck now a).2.handleForcedAck id) := by
  have hafter : (s.handleAck now a).2.Tallied := handleAck_tallied now htallied
  refine ⟨fun q hq hnumber => ?_, fun id q hq hnumber => ?_⟩
  · obtain ⟨hpacket, hfailed⟩ := handleAck_released now h hnot hp hnone hq hnumber
    exact ⟨hpacket, hafter.unflagged hq hpacket, hfailed⟩
  · obtain ⟨r, hr, hrnumber, hrpacket, hrfailed⟩ := handleForcedAck_same id hq
    obtain ⟨hpacket, hfailed⟩ := handleAck_released now h hnot hp hnone hr (hrnumber.symm.trans hnumber)
    rw [← hrpacket] at hpacket
    rw [← hrfailed] at hfailed
    exact ⟨hpacket, ((batonsKept_handleForcedAck _ id).tallied hafter).unflagged hq hpacket, hfailed⟩

end Steps

namespace RUDPChannelEndpoint

variable (first : Nat) (now : Int) (expecting : Nat)
  (sendingChannelNumber receivingChannelNumber : UInt16) (minimumRTT : Nat) (events : List RUDPChannelEvent)

/-- No acknowledgement takes an earlier one back: a packet that was let go of stays so, is not
resent and not marked as lost, and there is no reaction to the loss of packets that were all let go
of or reported missing before, whatever that reaction is. This is so exactly as long as the
acknowledgement does not report a packet missing that was let go of and never reported missing. -/
theorem acknowledged_stays_acknowledged (hfirst : 0 < first) :
    let t : RUDPChannelEndpoint :=
      run step (create (.create now first expecting sendingChannelNumber receivingChannelNumber minimumRTT)) events
    ∀ (u : RUDPChannelStream) (time : Int) (a : Ack), u.toSendWindow = t.stream.toSendWindow →
      (((∀ p ∈ u.packets, p.mPacket = none → StaysReleased p (u.handleAck time a).2 ∧
            ∀ id, StaysReleased p ((u.handleAck time a).2.handleForcedAck id)) ∧
        ((∀ p ∈ u.mSendingPackets, ∀ state, a.reported p.mSequenceNumber = some state → state.isReceived = false →
            p.mPacket = none ∨ p.mFlaggedAsFailedToReceive = true) →
          ∀ onLoss, u.handleAckWith onLoss time a = u.handleAck time a)) ↔
      ¬ReportsAcknowledged a u) := by
  intro t u time a hu
  have hsend : SendInOrder first u.toSendWindow := by
    rw [hu]
    exact run_sendInOrder hfirst now expecting sendingChannelNumber receivingChannelNumber minimumRTT events
  have htallied : u.Tallied := by
    rw [hu]
    exact (run_counted now first expecting sendingChannelNumber receivingChannelNumber minimumRTT events).tallied
  constructor
  · rintro ⟨hstays, -⟩ ⟨haccepted, hne, p, hp, hnone, hclear, state, hreported, hmissing⟩
    have hlater : p ∈ u.toSendWindow.later a := by
      refine List.mem_filter.mpr ⟨hp, decide_eq_true (Nat.lt_of_not_le fun hle => ?_)⟩
      rw [Ack.reported, if_pos hle] at hreported
      cases hreported
    obtain ⟨q, hq, hnumber, hqp⟩ := handleAck_meets time hsend.ascending haccepted hne hlater
    have hfailed : q.mFlaggedAsFailedToReceive = true := by
      rw [(withoutBaton_fields hqp).2.2.1, fate_failed, (missedNow_iff p _).mpr ⟨hclear, state, hreported, hmissing⟩,
        Bool.or_true]
    have hcontra := ((hstays p (List.mem_append_right _ hp) hnone).1 q (List.mem_append_right _ hq) hnumber).2.2 hfailed
    rw [hclear] at hcontra
    cases hcontra
  · refine fun hnot => ⟨fun p hp hnone => staysReleased_handleAck time hsend htallied hnot hp hnone,
      fun hknown onLoss => ?_⟩
    refine handleAckWith_noLoss u time a onLoss fun haccepted => ?_
    rw [(acked_packets a u.toSendWindow hsend.ascending).2.2]
    by_cases heq : a.gsnr = a.gsnfr
    · rw [heq, bne_self_eq_false, Bool.false_and]
    · rw [bne_iff_ne.mpr heq, Bool.true_and]
      refine List.any_eq_false.mpr fun p hp hmissed => ?_
      obtain ⟨hclear, state, hreported, hmissing⟩ := (missedNow_iff p _).mp hmissed
      have hsending := List.mem_of_mem_filter hp
      rcases hknown p hsending state hreported hmissing with hnone | hfailed
      · exact hnot ⟨haccepted, heq, p, hsending, hnone, hclear, state, hreported, hmissing⟩
      · rw [hclear] at hfailed
        cases hfailed

/-- Packet 3 arrives first and then packet 2, and the acknowledgement of both comes back. -/
def overtaken : List RUDPChannelEvent :=
  threePackets ++ [.handleExternalAck 0 0 ⟨1, 3, 0, [193, 1], false, false, false, false, false⟩]

/-- The same acknowledgement once more changes nothing about packet 2. -/
theorem acknowledged_stays_acknowledged_again :
    let u := (run step (create (.create 0 1 1 7 7 0)) overtaken).stream
    ∀ p ∈ u.packets, p.mPacket = none →
      StaysReleased p (u.handleAck 0 ⟨1, 3, 0, [193, 1], false, false, false, false, false⟩).2 := by
  intro u
  have hreported : ∀ p ∈ u.mSendingPackets, p.mPacket = none →
      ((⟨1, 3, 0, [193, 1], false, false, false, false, false⟩ : Ack).reported p.mSequenceNumber).all
        VectorStates.isReceived = true := by
    decide +kernel
  have hstays := (acknowledged_stays_acknowledged 1 0 1 7 7 0 overtaken (by decide) u 0
    ⟨1, 3, 0, [193, 1], false, false, false, false, false⟩ rfl).mpr (by
      rintro ⟨-, -, p, hp, hnone, -, state, hstate, hmissing⟩
      have hall := hreported p hp hnone
      rw [hstate, Option.all_some, hmissing] at hall
      cases hall)
  exact fun p hp hnone => (hstays.1 p hp hnone).1

/-- The acknowledgement of packet 3 alone, which comes late, has packet 2 marked as lost. -/
theorem late_acknowledgement_marks :
    ¬∀ (events : List RUDPChannelEvent) (time : Int) (a : Ack),
      let u := (run step (create (.create 0 1 1 7 7 0)) events).stream
      (∀ p ∈ u.packets, p.mPacket = none → StaysReleased p (u.handleAck time a).2 ∧
          ∀ id, StaysReleased p ((u.handleAck time a).2.handleForcedAck id)) ∧
        ((∀ p ∈ u.mSendingPackets, ∀ state, a.reported p.mSequenceNumber = some state → state.isReceived = false →
            p.mPacket = none ∨ p.mFlaggedAsFailedToReceive = true) →
          ∀ onLoss, u.handleAckWith onLoss time a = u.handleAck time a) := by
  intro h
  have hstays := (h overtaken 0 ⟨1, 3, 0, [], false, false, false, false, false⟩).1
  have hpacket : ∃ p ∈ (run step (create (.create 0 1 1 7 7 0)) overtaken).stream.packets, p.mPacket = none ∧
      p.mFlaggedAsFailedToReceive = false ∧ ∃ q ∈ ((run step (create (.create 0 1 1 7 7 0)) overtaken).stream.handleAck 0
        ⟨1, 3, 0, [], false, false, false, false, false⟩).2.packets,
          q.mSequenceNumber = p.mSequenceNumber ∧ q.mFlaggedAsFailedToReceive = true := by
    decide +kernel
  obtain ⟨p, hp, hnone, hclear, q, hq, hnumber, hfailed⟩ := hpacket
  have hcontra := ((hstays p hp hnone).1 q hq hnumber).2.2 hfailed
  rw [hclear] at hcontra
  cases hcontra

end RUDPChannelEndpoint

end OpenPeer
