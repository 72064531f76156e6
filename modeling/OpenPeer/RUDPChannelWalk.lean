import OpenPeer.RUDPChannelSender

/-!
# What an acknowledgement does to each packet

The packets of the map are in ascending order, so the two loops of `handleAck` come
down to one function of a packet and of what the acknowledgement says about its
number. The parity the walk arrives at is that of the packets marked as received,
as long as none of these was taken out of the map before.
-/
namespace OpenPeer

open RUDPPacket

/-- The packets are in ascending order. -/
def Ascending (ps : List BufferedPacket) : Prop := ps.Pairwise fun p q => p.mSequenceNumber < q.mSequenceNumber

theorem ascending_of_range {ps : List BufferedPacket} {k : Nat}
    (h : ps.map (fun p => p.mSequenceNumber) = List.range' k ps.length) : Ascending ps := by
  refine List.pairwise_map.mp (?_ : (ps.map fun p => p.mSequenceNumber).Pairwise (· < ·))
  rw [h]
  exact List.pairwise_lt_range'

theorem Ascending.unique {ps : List BufferedPacket} (h : Ascending ps) {p q : BufferedPacket} (hp : p ∈ ps) (hq : q ∈ ps)
    (hsame : p.mSequenceNumber = q.mSequenceNumber) : p = q := by
  induction ps with
  | nil => cases hp
  | cons r ps ih =>
    obtain ⟨hfirst, hrest⟩ := List.pairwise_cons.mp h
    rcases List.mem_cons.mp hp with hpr | hp
    · rcases List.mem_cons.mp hq with hqr | hq
      · exact hpr.trans hqr.symm
      · exact absurd (hpr ▸ hsame) (Nat.ne_of_lt (hfirst q hq))
    · rcases List.mem_cons.mp hq with hqr | hq
      · exact absurd (hqr ▸ hsame.symm) (Nat.ne_of_lt (hfirst p hp))
      · exact ih hrest hp hq

namespace BufferedPacket

variable (p : BufferedPacket)

/-- The packet once the remote party has it. -/
def received : BufferedPacket :=
  { p with mPacket := none, mHoldsBaton := false, mFlagForResendingInNextBurst := false }

/-- The packet once it was reported missing: it is to be resent if it has its buffer. -/
def missed : BufferedPacket :=
  if p.mFlaggedAsFailedToReceive then p
  else { p with
    mFlaggedAsFailedToReceive := true
    mFlagForResendingInNextBurst := p.mFlagForResendingInNextBurst || p.mPacket.isSome }

/-- The packet once a vector has told of it, if it did. -/
def told : Option VectorStates → BufferedPacket
  | none => p
  | some state => if state.isReceived then p.received else p.missed

/-- A vector brings the news that the packet is missing. -/
def missedNow : Option VectorStates → Bool
  | none => false
  | some state => !state.isReceived && !p.mFlaggedAsFailedToReceive

/-- The packet but for its baton. -/
def withoutBaton : BufferedPacket := { p with mHoldsBaton := false }

end BufferedPacket

open BufferedPacket

section Packet

variable (p : BufferedPacket) (c : Counters)

theorem flagAsReceived_packet : (p.flagAsReceivedByRemoteParty c).1 = p.received := by
  have hresend : (p.doNotResend c).1 = { p with mFlagForResendingInNextBurst := false } := by
    unfold BufferedPacket.doNotResend
    split
    next hflag =>
      have hclear : p.mFlagForResendingInNextBurst = false := Bool.eq_false_iff.mpr hflag
      cases p
      simp only at hclear
      rw [hclear]
    · split <;> rfl
  have hrelease : ∀ q : BufferedPacket, (q.releaseBaton (p.doNotResend c).2).1 = { q with mHoldsBaton := false } := by
    intro q
    unfold BufferedPacket.releaseBaton
    split
    next hbaton =>
      have hclear : q.mHoldsBaton = false := Bool.eq_false_iff.mpr hbaton
      cases q
      simp only at hclear
      rw [hclear]
    · rfl
  simp only [BufferedPacket.flagAsReceivedByRemoteParty, hresend, hrelease]
  rfl

theorem walkPacket_told (state : VectorStates) (w : VectorWalk) :
    (walkPacket state p w).1 = p.told (some state) ∧
      (walkPacket state p w).2.foundLoss = (w.foundLoss || p.missedNow (some state)) := by
  unfold walkPacket
  cases hreceived : state.isReceived with
  | true =>
    simp only [BufferedPacket.told, BufferedPacket.missedNow, hreceived, if_true, flagAsReceived_packet]
    exact ⟨trivial, (Bool.or_false _).symm⟩
  | false =>
    simp only [BufferedPacket.told, BufferedPacket.missedNow, hreceived, Bool.false_eq_true, if_false]
    unfold BufferedPacket.missed
    cases hfailed : p.mFlaggedAsFailedToReceive with
    | true => exact ⟨rfl, (Bool.or_false _).symm⟩
    | false =>
      simp only [Bool.false_eq_true, not_false_eq_true, if_true, if_false]
      refine ⟨?_, (Bool.or_true _).symm⟩
      unfold BufferedPacket.flagForResending
      cases hbuffer : p.mPacket with
      | none => simp only [Option.isNone_none, if_true, Option.isSome_none, Bool.or_false]
      | some bytes =>
        simp only [Option.isNone_some, Option.isSome_some, Bool.or_true, Bool.false_eq_true, if_false]
        split
        next hflag => rw [hflag]
        · rfl

end Packet

section Lists

variable (ps : List BufferedPacket)

variable {ps} in
theorem any_congr {f g : BufferedPacket → Bool} (h : ∀ p ∈ ps, f p = g p) : ps.any f = ps.any g := by
  induction ps with
  | nil => rfl
  | cons p ps ih =>
    rw [List.any_cons, List.any_cons, h p List.mem_cons_self, ih fun q hq => h q (List.mem_cons_of_mem _ hq)]

theorem cleanAcked_rest (gsnfr : Nat) (c : Counters) (h : Ascending ps) :
    (cleanAcked gsnfr ps c).2.1 = ps.filter (fun p => decide (gsnfr < p.mSequenceNumber)) ∧
      (cleanAcked gsnfr ps c).1 = (ps.filter fun p => decide (p.mSequenceNumber ≤ gsnfr)).map BufferedPacket.received := by
  induction ps generalizing c with
  | nil => exact ⟨rfl, rfl⟩
  | cons p ps ih =>
    obtain ⟨hfirst, hrest⟩ := List.pairwise_cons.mp h
    rw [cleanAcked]
    split
    next hgt =>
      have hall : ∀ q ∈ p :: ps, gsnfr < q.mSequenceNumber := by
        intro q hq
        rcases List.mem_cons.mp hq with rfl | hq
        · exact hgt
        · exact lt_trans hgt (hfirst q hq)
      refine ⟨(List.filter_eq_self.mpr fun q hq => decide_eq_true (hall q hq)).symm, ?_⟩
      rw [List.filter_eq_nil_iff.mpr fun q hq => by simpa using hall q hq]
      rfl
    next hle =>
      obtain ⟨hlater, hgone⟩ := ih (p.flagAsReceivedByRemoteParty c).2 hrest
      rw [List.filter_cons_of_neg (by simpa using hle), List.filter_cons_of_pos (by simpa using hle), List.map_cons]
      exact ⟨hlater, congrArg₂ List.cons (flagAsReceived_packet p c) hgone⟩

theorem onPacket_map (n : Nat) (f : BufferedPacket → Counters → BufferedPacket × Counters)
    (g : BufferedPacket → BufferedPacket) (c : Counters) (hf : ∀ p c, (f p c).1 = g p) (h : Ascending ps) :
    (onPacket n f ps c).1 = ps.map fun p => if p.mSequenceNumber = n then g p else p := by
  induction ps generalizing c with
  | nil => rfl
  | cons p ps ih =>
    obtain ⟨hfirst, hrest⟩ := List.pairwise_cons.mp h
    rw [onPacket, List.map_cons]
    split
    next heq =>
      refine congrArg₂ List.cons (hf p c) ?_
      have hsame : ∀ q ∈ ps, (if q.mSequenceNumber = n then g q else q) = q := fun q hq =>
        if_neg (by have := hfirst q hq; omega)
      rw [List.map_congr_left hsame, List.map_id']
    · exact congrArg (p :: ·) (ih c hrest)

/-- The walk tells each packet what the vector says of its number. -/
theorem walkVector_map (n : Nat) (d : VectorDecoderState) (w : VectorWalk) (hrun : d.InRun) (h : Ascending ps) :
    (walkVector ps n d w).1 =
      ps.map (fun p => p.told (if p.mSequenceNumber < n then none else d.remaining[p.mSequenceNumber - n]?)) ∧
    (walkVector ps n d w).2.foundLoss = (w.foundLoss ||
      ps.any fun p => p.missedNow (if p.mSequenceNumber < n then none else d.remaining[p.mSequenceNumber - n]?)) := by
  induction ps generalizing n d w with
  | nil => exact ⟨rfl, (Bool.or_false _).symm⟩
  | cons p ps ih =>
    obtain ⟨hfirst, hrest⟩ := List.pairwise_cons.mp h
    by_cases hge : p.mSequenceNumber < n
    · obtain ⟨hpackets, hloss⟩ := ih n d w hrun hrest
      rw [walkVector, if_pos hge, List.map_cons, if_pos hge, List.any_cons, if_pos hge]
      exact ⟨congrArg (p :: ·) hpackets, hloss⟩
    have hlater : ∀ q ∈ ps, ¬q.mSequenceNumber < n := fun q hq => by
      have hlt := hfirst q hq
      omega
    rcases walkVector_turn p ps n d w hrun hge with
      ⟨hwalk, hshort⟩ | ⟨state, d', w', hhere, hrun', hremaining, hw', hwalk⟩
    · -- the vector has ended, and says nothing of this packet and those after it
      have hnone : ∀ q ∈ p :: ps, (if q.mSequenceNumber < n then none else d.remaining[q.mSequenceNumber - n]?) = none := by
        intro q hq
        split
        · rfl
        · refine List.getElem?_eq_none ?_
          rcases List.mem_cons.mp hq with rfl | hq
          · exact hshort
          · have hlt := hfirst q hq
            omega
      rw [hwalk]
      refine ⟨?_, ?_⟩
      · rw [List.map_congr_left fun q hq => by rw [hnone q hq]]
        exact (List.map_id' _).symm
      · have hany : ((p :: ps).any fun q => q.missedNow
            (if q.mSequenceNumber < n then none else d.remaining[q.mSequenceNumber - n]?)) = false :=
          List.any_eq_false.mpr fun q hq => by rw [hnone q hq]; exact Bool.false_ne_true
        rw [hany]
        exact (Bool.or_false _).symm
    · obtain ⟨hpackets, hloss⟩ := ih (p.mSequenceNumber + 1) d' (walkPacket state p w').2 hrun' hrest
      have hsame : ∀ q ∈ ps, (if q.mSequenceNumber < p.mSequenceNumber + 1 then none
          else d'.remaining[q.mSequenceNumber - (p.mSequenceNumber + 1)]?)
          = if q.mSequenceNumber < n then none else d.remaining[q.mSequenceNumber - n]? := by
        intro q hq
        have hlt := hfirst q hq
        rw [if_neg (by omega), if_neg (hlater q hq), hremaining, List.getElem?_drop]
        congr 1
        omega
      obtain ⟨hpacket, hfound⟩ := walkPacket_told p state w'
      have hstart : w'.foundLoss = w.foundLoss := by rw [hw']
      rw [hwalk, List.map_cons, List.any_cons, if_neg hge, hhere]
      refine ⟨?_, ?_⟩
      · rw [hpacket, hpackets]
        exact congrArg (_ :: ·) (List.map_congr_left fun q hq => by rw [hsame q hq])
      · rw [hloss, hfound, hstart, Bool.or_assoc]
        congr 2
        exact any_congr fun q hq => by rw [hsame q hq]

theorem destroyBaton_withoutBaton (which : Nat) (c : Counters) :
    (destroyBaton which ps c).1.map withoutBaton = ps.map withoutBaton := by
  induction ps generalizing which c with
  | nil => cases which <;> rfl
  | cons p ps ih =>
    have hrelease : (p.releaseBaton c).1.withoutBaton = p.withoutBaton := by
      unfold BufferedPacket.releaseBaton
      split <;> rfl
    cases which with
    | zero =>
      rw [destroyBaton]
      split
      · exact congrArg (· :: ps.map withoutBaton) hrelease
      · exact congrArg (p.withoutBaton :: ·) (ih 0 c)
    | succ n =>
      rw [destroyBaton]
      split
      · exact congrArg (p.withoutBaton :: ·) (ih n c)
      · exact congrArg (p.withoutBaton :: ·) (ih (n + 1) c)

end Lists

/-- The parity of the walk over packets numbered without a gap: no mark may lie before the first of
them, and those among them count. -/
theorem walkVector_xored {parity : Nat → Bool} (ps : List BufferedPacket) (k n : Nat) (d : VectorDecoderState)
    (w : VectorWalk) (hrun : d.InRun) (hnumbers : ps.map (fun p => p.mSequenceNumber) = List.range' k ps.length)
    (hparity : ∀ p ∈ ps, p.parity = parity p.mSequenceNumber) (hstart : n ≤ k) (hfirst : k = n ∨ ps ≠ []) :
    (walkVector ps n d w).2.couldNotCalculateVectorParity =
        (w.couldNotCalculateVectorParity || (d.remaining.take (k - n)).any VectorStates.isReceived) ∧
      ((d.remaining.take (k - n)).any VectorStates.isReceived = false →
        (walkVector ps n d w).2.xoredParity =
          receivedParity parity n (d.remaining.take (k + ps.length - n)) w.xoredParity) := by
  induction ps generalizing k n d w with
  | nil =>
    have hkn : k = n := hfirst.resolve_right fun h => h rfl
    subst hkn
    simp only [walkVector, Nat.sub_self, List.take_zero, List.any_nil, Bool.or_false, List.length_nil, Nat.add_zero,
      receivedParity, implies_true, and_self]
  | cons p ps ih =>
    rw [List.map_cons, List.length_cons, List.range'_succ, List.cons.injEq] at hnumbers
    obtain ⟨hp, hnumbers⟩ := hnumbers
    have hge : ¬p.mSequenceNumber < n := by omega
    rcases walkVector_turn p ps n d w hrun hge with ⟨hwalk, hshort⟩ | ⟨state, d', w', hhere, hrun', hrest, hw', hwalk⟩
    · rw [hp] at hshort
      rw [hwalk, List.take_of_length_le hshort]
      refine ⟨rfl, fun hnone => ?_⟩
      rw [List.take_of_length_le (by rw [List.length_cons]; omega), receivedParity_missing n _ _ hnone]
    · rw [hp] at hhere hrest
      have hlt : k - n < d.remaining.length := (List.getElem?_eq_some_iff.mp hhere).1
      obtain ⟨hcould, hxored⟩ := ih (k + 1) (k + 1) d' (walkPacket state p w').2 hrun' hnumbers
        (fun q hq => hparity q (List.mem_cons_of_mem _ hq)) (le_refl _) (.inl rfl)
      rw [Nat.sub_self, List.take_zero, List.any_nil, Bool.or_false, walkPacket_couldNot] at hcould
      rw [hwalk, hp]
      refine ⟨by rw [hcould, hw', hp], fun hnone => ?_⟩
      have hsplit : d.remaining.take (k + (p :: ps).length - n) =
          d.remaining.take (k - n) ++ state :: d'.remaining.take ps.length := by
        have hdrop : d.remaining.drop (k - n) = state :: d'.remaining := by
          rw [List.drop_eq_getElem_cons hlt, (List.getElem?_eq_some_iff.mp hhere).2, hrest]
        rw [List.length_cons, show k + (ps.length + 1) - n = (k - n) + (ps.length + 1) by omega, List.take_add, hdrop,
          List.take_succ_cons]
      rw [hxored (by rw [Nat.sub_self, List.take_zero]; rfl), walkPacket_xored, hparity p List.mem_cons_self, hp, hsplit,
        receivedParity_append, receivedParity_missing n _ _ hnone, receivedParity, List.length_take,
        Nat.min_eq_left (Nat.le_of_lt hlt), show n + (k - n) = k by omega,
        show k + 1 + ps.length - (k + 1) = ps.length by omega, hw']

namespace Ack

variable (a : Ack)

/-- What the vector says, from the packet on after the one to which everything was received. -/
def states : List VectorStates := (vectorDecoderStart a.vector a.gsnr a.gsnfr).remaining

/-- What the vector says of a sequence number. -/
def reported (n : Nat) : Option VectorStates := if n ≤ a.gsnfr then none else a.states[n - (a.gsnfr + 1)]?

/-- The vector marks a sequence number as received. -/
def marks (n : Nat) : Bool := (a.reported n).any VectorStates.isReceived

/-- What an acknowledgement beyond the packets in series makes of a packet. -/
def fate (p : BufferedPacket) : BufferedPacket :=
  if p.mSequenceNumber = a.gsnr then (p.told (a.reported p.mSequenceNumber)).received
  else p.told (a.reported p.mSequenceNumber)

end Ack

section Window

variable (a : Ack) (w : SendWindow)

/-- The packets that are left when those in series are let go of. -/
def SendWindow.later : List BufferedPacket := w.mSendingPackets.filter fun p => decide (a.gsnfr < p.mSequenceNumber)

theorem clean_packets (h : Ascending w.mSendingPackets) :
    (w.clean a).mSendingPackets = w.later a ∧ (w.clean a).mRemovedPackets =
      w.mRemovedPackets ++ (w.mSendingPackets.filter fun p => decide (p.mSequenceNumber ≤ a.gsnfr)).map BufferedPacket.received := by
  obtain ⟨hlater, hgone⟩ := cleanAcked_rest w.mSendingPackets a.gsnfr w.toCounters h
  exact ⟨hlater, congrArg (w.mRemovedPackets ++ ·) hgone⟩

theorem ascending_later (h : Ascending w.mSendingPackets) : Ascending (w.later a) := List.Pairwise.filter _ h

theorem told_number (p : BufferedPacket) (state : Option VectorStates) :
    (p.told state).mSequenceNumber = p.mSequenceNumber := by
  unfold BufferedPacket.told BufferedPacket.missed
  split
  · rfl
  · split
    · rfl
    · split <;> rfl

/-- The packets after an accepted acknowledgement, and whether it brings news of a loss. -/
theorem acked_packets (h : Ascending w.mSendingPackets) :
    (w.acked a).mSendingPackets = (if a.gsnr = a.gsnfr then w.later a else (w.later a).map a.fate) ∧
    (w.acked a).mRemovedPackets =
      w.mRemovedPackets ++ (w.mSendingPackets.filter fun p => decide (p.mSequenceNumber ≤ a.gsnfr)).map BufferedPacket.received ∧
    w.lossFound a = (a.gsnr != a.gsnfr && (w.later a).any fun p => p.missedNow (a.reported p.mSequenceNumber)) := by
  obtain ⟨hlater, hgone⟩ := clean_packets a w h
  have hascending := ascending_later a w h
  obtain ⟨hpackets, hloss⟩ := walkVector_map (w.later a) (a.gsnfr + 1) (vectorDecoderStart a.vector a.gsnr a.gsnfr)
    ⟨(w.clean a).toCounters, a.xpFlag, false, false, false⟩ (vectorDecoderStart_inRun _ _ _) hascending
  have hreported : ∀ p : BufferedPacket, (if p.mSequenceNumber < a.gsnfr + 1 then none
      else (vectorDecoderStart a.vector a.gsnr a.gsnfr).remaining[p.mSequenceNumber - (a.gsnfr + 1)]?)
      = a.reported p.mSequenceNumber := by
    intro p
    simp only [Ack.reported, Nat.lt_succ_iff, Ack.states]
  simp only [hreported] at hpackets hloss
  have hwalk : ((w.clean a).walk a).1 = (w.later a).map fun p => p.told (a.reported p.mSequenceNumber) := by
    rw [SendWindow.walk, hlater]
    exact hpackets
  refine ⟨?_, ?_, ?_⟩
  · unfold SendWindow.acked
    split
    · exact hlater
    · change (onPacket a.gsnr _ ((w.clean a).walk a).1 _).1 = _
      rw [hwalk, onPacket_map _ _ _ BufferedPacket.received _ flagAsReceived_packet, List.map_map]
      · exact List.map_congr_left fun p _ => by simp only [Function.comp_apply, told_number, Ack.fate]
      · refine List.pairwise_map.mpr ?_
        simp only [told_number]
        exact hascending
  · unfold SendWindow.acked
    split
    · exact hgone
    · exact hgone
  · rw [SendWindow.lossFound, SendWindow.walk, hlater, hloss, Bool.false_or]

end Window

section Effect

variable (s : RUDPChannelStream) (now : Int) (a : Ack)

theorem handlePacketLoss_packets : (s.handlePacketLoss now).mSendingPackets.map withoutBaton
      = s.mSendingPackets.map withoutBaton ∧ (s.handlePacketLoss now).mRemovedPackets = s.mRemovedPackets := by
  unfold RUDPChannelStream.handlePacketLoss
  simp only
  split
  · exact ⟨rfl, rfl⟩
  · split
    · exact ⟨rfl, rfl⟩
    · exact ⟨destroyBaton_withoutBaton s.mSendingPackets _ s.toCounters, rfl⟩

/-- What an acknowledgement does: nothing to the packets unless it is accepted, and then what it says,
but for a baton that is destroyed. -/
theorem handleAck_effect :
    (s.ackVerdict a ≠ .accepted ∧ (s.handleAck now a).2.toSendWindow = s.toSendWindow ∧
      ((s.handleAck now a).1 = .illegalACK ↔ s.ackVerdict a = .refused)) ∨
    (s.ackVerdict a = .accepted ∧
      (s.handleAck now a).2.mSendingPackets.map withoutBaton = (s.toSendWindow.acked a).mSendingPackets.map withoutBaton ∧
      (s.handleAck now a).2.mRemovedPackets = (s.toSendWindow.acked a).mRemovedPackets ∧
      ((s.handleAck now a).1 = .illegalACK ↔ s.toSendWindow.parityWrong a = true)) := by
  rw [← RUDPChannelStream.handleAckWith_handlePacketLoss]
  rcases RUDPChannelStream.handleAckWith_cases RUDPChannelStream.handlePacketLoss s now a with
    ⟨hverdict, heq⟩ | ⟨hverdict, u, ⟨q, rfl, -⟩, heq⟩ | ⟨hverdict, u, p, ⟨q, rfl, -⟩, -, heq⟩
  · obtain ⟨p, hp, -⟩ := RUDPChannelStream.paced_handleAckQuickExit s
    rw [hverdict, heq, hp]
    exact .inl ⟨by decide, rfl, by simp⟩
  · rw [hverdict, heq]
    exact .inl ⟨by decide, rfl, fun _ => rfl, fun _ => rfl⟩
  · rw [heq, RUDPChannelStream.react]
    right
    have hexit : ∀ u : RUDPChannelStream, u.handleAckQuickExit.mSendingPackets = u.mSendingPackets ∧
        u.handleAckQuickExit.mRemovedPackets = u.mRemovedPackets := by
      intro u
      obtain ⟨p, hp, -⟩ := RUDPChannelStream.paced_handleAckQuickExit u
      rw [hp]
      exact ⟨rfl, rfl⟩
    have hreact : ∀ u : RUDPChannelStream, u.toSendWindow = s.toSendWindow.acked a →
        ∀ v, v = (if s.lossFound a then u.handlePacketLoss now else u) →
          v.mSendingPackets.map withoutBaton = (s.toSendWindow.acked a).mSendingPackets.map withoutBaton ∧
            v.mRemovedPackets = (s.toSendWindow.acked a).mRemovedPackets := by
      intro u hu v hv
      rw [hv, ← hu]
      split
      · exact handlePacketLoss_packets u now
      · exact ⟨rfl, rfl⟩
    obtain ⟨hsending, hremoved⟩ := hreact { s with toSendWindow := s.toSendWindow.acked a, toPacing := p } rfl _ rfl
    refine ⟨hverdict, ?_⟩
    cases hwrong : s.toSendWindow.parityWrong a with
    | true =>
      simp only [if_true]
      exact ⟨hsending, hremoved, trivial⟩
    | false =>
      simp only [Bool.false_eq_true, if_false]
      obtain ⟨hsame, hsame'⟩ := hexit (if s.lossFound a then
        ({ s with toSendWindow := s.toSendWindow.acked a, toPacing := p } : RUDPChannelStream).handlePacketLoss now
        else { s with toSendWindow := s.toSendWindow.acked a, toPacing := p })
      exact ⟨(congrArg (List.map withoutBaton) hsame).trans hsending, hsame'.trans hremoved,
        by simp⟩

end Effect

end OpenPeer
