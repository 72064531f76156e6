import OpenPeer.RUDPChannelWalk

/-!
# What the checks of an acknowledgement are worth

A receiver that acknowledges packets it does not have should not know their
parities. Each check is met here with every acknowledgement there can be, in every
state a sender can reach, and where a check can be got round the way is named.
-/
namespace OpenPeer

open RUDPPacket Runs BufferedPacket

section Accepted

variable (s : RUDPChannelStream) (a : Ack)

/-- What it takes for an acknowledgement to be accepted. -/
theorem ackVerdict_accepted : s.ackVerdict a = .accepted ↔
    s.mSendingPackets.length ≠ 0 ∧ a.gsnfr ≤ a.gsnr ∧ s.mGSNFR ≤ a.nextSequenceNumber ∧
      a.nextSequenceNumber ≤ s.mGSNR + maxWindowToNextSequenceNumber ∧ a.gsnr ≤ s.mNextSequenceNumber ∧
      (∀ p, s.findSending a.gsnfr = some p → a.xpFlag = p.mXORedParityToNow) ∧
      ∀ p, s.findSending a.gsnr = some p → a.pgFlag = p.parity := by
  have hany : ∀ (o : Option BufferedPacket) (flag : Bool) (f : BufferedPacket → Bool),
      (o.any fun p => flag != f p) = false ↔ ∀ p, o = some p → flag = f p := by
    intro o flag f
    cases o with
    | none => exact ⟨fun _ p hp => (nomatch hp), fun _ => rfl⟩
    | some q => simp
  unfold RUDPChannelStream.ackVerdict
  constructor
  · intro h
    split at h
    · cases h
    next hlength =>
    split at h
    · cases h
    next hle =>
    split at h
    · cases h
    next hlow =>
    split at h
    · cases h
    next hhigh =>
    split at h
    · cases h
    next hnext =>
    split at h
    · cases h
    next hxp =>
    split at h
    · cases h
    next hpg =>
    exact ⟨hlength, Nat.le_of_not_gt hle, Nat.le_of_not_gt hlow, Nat.le_of_not_gt hhigh, Nat.le_of_not_gt hnext,
      (hany _ _ _).mp (Bool.eq_false_iff.mpr hxp), (hany _ _ _).mp (Bool.eq_false_iff.mpr hpg)⟩
  · rintro ⟨hlength, hle, hlow, hhigh, hnext, hxp, hpg⟩
    rw [if_neg hlength, if_neg (Nat.not_lt_of_ge hle), if_neg (Nat.not_lt_of_ge hlow), if_neg (Nat.not_lt_of_ge hhigh),
      if_neg (Nat.not_lt_of_ge hnext), if_neg (Bool.eq_false_iff.mp ((hany _ _ _).mpr hxp)),
      if_neg (Bool.eq_false_iff.mp ((hany _ _ _).mpr hpg))]

variable {s} {first : Nat}

theorem SendInOrder.ascending {w : SendWindow} (h : SendInOrder first w) : Ascending w.mSendingPackets :=
  ascending_of_range h.sending.2

theorem SendInOrder.outstanding (h : SendInOrder first s.toSendWindow) {p : BufferedPacket} (hp : p ∈ s.mSendingPackets)
    {n : Nat} (hlow : p.mSequenceNumber ≤ n) (hhigh : n < s.mNextSequenceNumber) :
    ∃ q, s.findSending n = some q ∧ q ∈ s.mSendingPackets ∧ q.mSequenceNumber = n := by
  obtain ⟨hlength, hnumbers⟩ := h.sending
  have hmem : p.mSequenceNumber ∈ s.mSendingPackets.map fun p => p.mSequenceNumber := List.mem_map_of_mem hp
  rw [hnumbers, List.mem_range'_1] at hmem
  have hn : n ∈ s.mSendingPackets.map fun p => p.mSequenceNumber := by
    rw [hnumbers, List.mem_range'_1]
    omega
  obtain ⟨q, hq, hqn⟩ := List.mem_map.mp hn
  have hsome : (s.findSending n).isSome = true := List.find?_isSome.mpr ⟨q, hq, beq_iff_eq.mpr hqn⟩
  obtain ⟨r, hr⟩ := Option.isSome_iff_exists.mp hsome
  obtain ⟨hrmem, hrn⟩ := findSending_some s hr
  exact ⟨r, hr, hrmem, hrn⟩

end Accepted

namespace RUDPChannelEndpoint

variable (first : Nat) (now : Int) (expecting : Nat)
  (sendingChannelNumber receivingChannelNumber : UInt16) (minimumRTT : Nat) (events : List RUDPChannelEvent)

/-- The acknowledgement is of the packet that is to be sent next, and of all up to it. -/
def AcksUnsent (a : Ack) (s : RUDPChannelStream) : Prop :=
  s.mSendingPackets ≠ [] ∧ a.gsnfr = s.mNextSequenceNumber ∧ a.gsnr = s.mNextSequenceNumber ∧
    s.mGSNFR ≤ a.nextSequenceNumber ∧ a.nextSequenceNumber ≤ s.mGSNR + maxWindowToNextSequenceNumber

/-- Whoever makes a sender take packets out of the map knows the parity of all packets up to the one
to which he says to have received everything, unless he names the packet that is to be sent next. -/
theorem parity_known_of_removal (hfirst : 0 < first) :
    let t : RUDPChannelEndpoint :=
      run step (create (.create now first expecting sendingChannelNumber receivingChannelNumber minimumRTT)) events
    ∀ (u : RUDPChannelStream) (time : Int) (a : Ack), u.toSendWindow = t.stream.toSendWindow →
      (((u.handleAck time a).1 = .handled ∧
          (u.handleAck time a).2.mSendingPackets.length < u.mSendingPackets.length →
        a.gsnfr < u.mNextSequenceNumber ∧ a.xpFlag = xorParity (u.parityOf first) first a.gsnfr) ↔
      ¬AcksUnsent a u) := by
  intro t u time a hu
  have hsend : SendInOrder first u.toSendWindow := by
    rw [hu]
    exact run_sendInOrder hfirst now expecting sendingChannelNumber receivingChannelNumber minimumRTT events
  obtain ⟨hpackets, -, -⟩ := acked_packets a u.toSendWindow hsend.ascending
  have hlater : (u.toSendWindow.acked a).mSendingPackets.length = (u.toSendWindow.later a).length := by
    rw [hpackets]
    split
    · rfl
    · rw [List.length_map]
  have hbelow : ∀ p ∈ u.mSendingPackets, p.mSequenceNumber < u.mNextSequenceNumber := fun p hp =>
    (hsend.index (mem_records_sending hp)).2.1
  have heffect := handleAck_effect u time a
  constructor
  · rintro hknown ⟨hsome, hgsnfr, hgsnr, hlow, hhigh⟩
    have hnone : u.findSending u.mNextSequenceNumber = none := by
      refine List.find?_eq_none.mpr fun p hp => ?_
      have hlt := hbelow p hp
      simp only [beq_iff_eq]
      omega
    have haccepted : u.ackVerdict a = .accepted := by
      refine (ackVerdict_accepted u a).mpr ⟨fun h => hsome (List.length_eq_zero_iff.mp h), by omega, hlow, hhigh,
        by omega, fun p hp => ?_, fun p hp => ?_⟩
      · rw [hgsnfr, hnone] at hp
        cases hp
      · rw [hgsnr, hnone] at hp
        cases hp
    rcases heffect with ⟨hverdict, -⟩ | ⟨-, hsending, -, houtcome⟩
    · exact absurd haccepted hverdict
    · have hhandled : (u.handleAck time a).1 = .handled := by
        have hwrong : u.toSendWindow.parityWrong a = false := by
          simp only [SendWindow.parityWrong, hgsnr, hgsnfr, bne_self_eq_false, Bool.false_and]
        cases hout : (u.handleAck time a).1 with
        | handled => rfl
        | illegalACK =>
          rw [hwrong] at houtcome
          exact absurd (houtcome.mp hout) Bool.false_ne_true
      have hnothing : u.toSendWindow.later a = [] := by
        refine List.filter_eq_nil_iff.mpr fun p hp => ?_
        have hlt := hbelow p hp
        simp only [decide_eq_true_eq]
        omega
      have hlength := congrArg List.length hsending
      rw [List.length_map, List.length_map, hlater, hnothing, List.length_nil] at hlength
      have hcontra := (hknown ⟨hhandled, by rw [hlength]; exact List.length_pos_iff.mpr hsome⟩).1
      omega
  · rintro hnot ⟨-, hless⟩
    rcases heffect with ⟨-, hsame, -⟩ | ⟨hverdict, hsending, -, -⟩
    · rw [hsame] at hless
      exact absurd hless (lt_irrefl _)
    · obtain ⟨hlength, hle, hlow, hhigh, hnext, hxp, -⟩ := (ackVerdict_accepted u a).mp hverdict
      have hcount := congrArg List.length hsending
      rw [List.length_map, List.length_map, hlater] at hcount
      -- some packet was numbered up to the number to which everything was received
      obtain ⟨p, hp, hple⟩ : ∃ p ∈ u.mSendingPackets, p.mSequenceNumber ≤ a.gsnfr := by
        by_contra hnone
        have hall : u.toSendWindow.later a = u.mSendingPackets :=
          List.filter_eq_self.mpr fun p hp => decide_eq_true (Nat.lt_of_not_le fun h => hnone ⟨p, hp, h⟩)
        rw [hall] at hcount
        omega
      have hgsnfr : a.gsnfr < u.mNextSequenceNumber := by
        refine Nat.lt_of_not_le fun hge => hnot ?_
        exact ⟨fun h => hlength (by rw [h]; rfl), by omega, by omega, hlow, hhigh⟩
      obtain ⟨q, hfind, hq, hqn⟩ := hsend.outstanding hp hple hgsnfr
      refine ⟨hgsnfr, ?_⟩
      rw [hxp q hfind, hsend.xors _ (mem_records_sending hq), hqn]

/-- One packet is sent, number 1. -/
def onePacket : List RUDPChannelEvent := .own (.setStreams .create .create) :: newBurst [true]

/-- An acknowledgement of packet 1 with its parity. -/
theorem parity_known_of_removal_one :
    let u := (run step (create (.create 0 1 1 7 7 0)) onePacket).stream
    (u.handleAck 0 ⟨1, 1, 1, [], false, true, true, false, false⟩).1 = .handled ∧
      true = xorParity (u.parityOf 1) 1 1 := by
  intro u
  have hhandled : (u.handleAck 0 ⟨1, 1, 1, [], false, true, true, false, false⟩).1 = .handled ∧
      (u.handleAck 0 ⟨1, 1, 1, [], false, true, true, false, false⟩).2.mSendingPackets.length
        < u.mSendingPackets.length := by
    decide +kernel
  have hnext : u.mNextSequenceNumber = 2 := by decide +kernel
  have hknown := (parity_known_of_removal 1 0 1 7 7 0 onePacket (by decide) u 0
    ⟨1, 1, 1, [], false, true, true, false, false⟩ rfl).mpr (by rintro ⟨-, h, -⟩; rw [hnext] at h; cases h) hhandled
  exact ⟨hhandled.1, hknown.2⟩

/-- An acknowledgement of packet 2, which was never sent, with any parity takes packet 1 out. -/
theorem removal_without_parity :
    ¬∀ (events : List RUDPChannelEvent) (time : Int) (a : Ack),
      let u := (run step (create (.create 0 1 1 7 7 0)) events).stream
      (u.handleAck time a).1 = .handled ∧ (u.handleAck time a).2.mSendingPackets.length < u.mSendingPackets.length →
        a.gsnfr < u.mNextSequenceNumber ∧ a.xpFlag = xorParity (u.parityOf 1) 1 a.gsnfr := by
  intro h
  have hless := (h onePacket 0 ⟨1, 2, 2, [], false, false, false, false, false⟩ (by decide +kernel)).1
  have hnext : (run step (create (.create 0 1 1 7 7 0)) onePacket).stream.mNextSequenceNumber = 2 := by decide +kernel
  rw [hnext] at hless
  exact absurd hless (by decide)

end RUDPChannelEndpoint

end OpenPeer
