import OpenPeer.RUDPChannelEndpoint

/-!
# What an acknowledgement does to the sending window

The checks at the head of `handleAck` give a verdict, and what an accepted
acknowledgement does to the packets sent is a function of the window alone. The
reaction to loss is taken as a parameter, so that what the acknowledgement does by
itself and what it does because of loss can be told apart.
-/
namespace OpenPeer

open RUDPPacket

namespace RUDPChannelStream

section Reaction

variable (onLoss : Int → RUDPChannelStream → RUDPChannelStream) (now : Int) (a : Ack)

/-- `acknowledgeVector` with another reaction to loss. -/
def acknowledgeVectorWith (hadPackets : Bool) (s : RUDPChannelStream) : AckOutcome × RUDPChannelStream :=
  let walk : VectorWalk := ⟨s.toCounters, a.xpFlag, false, false, false⟩
  let r := walkVector s.mSendingPackets (a.gsnfr + 1) (vectorDecoderStart a.vector a.gsnr a.gsnfr) walk
  let w := r.2
  let g := onPacket a.gsnr BufferedPacket.flagAsReceivedByRemoteParty r.1 w.toCounters
  let s := { s with mSendingPackets := g.1, toCounters := g.2 }
  let s := (s.endSendingPeriod now hadPackets a.ecFlag).2
  let s := if w.foundLoss then onLoss now s else s
  if ¬w.couldNotCalculateVectorParity ∧ w.xoredParity ≠ a.vpFlag then
    (.illegalACK, s)
  else
    (.handled, s.handleAckQuickExit)

/-- `acceptAck` with another reaction to loss. -/
def acceptAckWith (s : RUDPChannelStream) : AckOutcome × RUDPChannelStream :=
  let hadPackets := decide (s.mSendingPackets.length > 0)
  let s := s.acknowledge a.gsnfr
  let r := s.endSendingPeriod now hadPackets a.ecFlag
  if a.gsnr = a.gsnfr then (.handled, r.2.handleAckQuickExit) else r.2.acknowledgeVectorWith onLoss now a r.1

/-- `processAck` with another reaction to loss. -/
def processAckWith (s : RUDPChannelStream) : AckOutcome × RUDPChannelStream :=
  match s.findSending a.gsnr with
  | none => s.acceptAckWith onLoss now a
  | some gsnrPacket =>
    let s := s.calculateRTT now gsnrPacket
    if a.pgFlag ≠ gsnrPacket.parity then (.illegalACK, s) else s.acceptAckWith onLoss now a

/-- `handleAck` with another reaction to loss. -/
def handleAckWith (s : RUDPChannelStream) : AckOutcome × RUDPChannelStream :=
  if s.mSendingPackets.length = 0 then (.handled, s.handleAckQuickExit)
  else if a.gsnfr > a.gsnr then (.illegalACK, s)
  else if a.nextSequenceNumber < s.mGSNFR then (.handled, s.handleAckQuickExit)
  else if a.nextSequenceNumber > s.mGSNR + maxWindowToNextSequenceNumber then (.handled, s.handleAckQuickExit)
  else if a.gsnr > s.mNextSequenceNumber then (.handled, s.handleAckQuickExit)
  else
    match s.findSending a.gsnfr with
    | some gsnfrPacket =>
      if a.xpFlag ≠ gsnfrPacket.mXORedParityToNow then (.illegalACK, s) else s.processAckWith onLoss now a
    | none => s.processAckWith onLoss now a

theorem handleAckWith_handlePacketLoss (s : RUDPChannelStream) :
    s.handleAckWith handlePacketLoss now a = s.handleAck now a := rfl

/-- `handlePacket` with another reaction to loss. -/
def handlePacketWith (packet : RUDPPacket) (ecnMarked : Bool) (s : RUDPChannelStream) :
    HandlePacketResult × RUDPChannelStream :=
  if ¬s.mDelegate then (.done false, s)
  else if packet.mChannelNumber ≠ s.mReceivingChannelNumber then (.done false, s)
  else
    let s := { s with mECNReceived := s.mECNReceived || ecnMarked }
    let sequenceNumber := packet.getSequenceNumber s.mGSNR
    let s := s.endWait sequenceNumber
    if sequenceNumber ≤ s.mGSNFR then (.done true, { s with mDuplicateReceived := true })
    else if sequenceNumber > s.mGSNR + maxWindowToNextSequenceNumber then (.done false, s)
    else
      match s.handleAckWith onLoss now (s.packetAck packet sequenceNumber) with
      | (.illegalACK, s) => (.done true, s.refuseAck)
      | (.handled, s) => s.handleData now packet sequenceNumber

/-- `handleExternalAck` with another reaction to loss. -/
def handleExternalAckWith (guarenteedDeliveryRequestID : Nat) (s : RUDPChannelStream) : RUDPChannelStream :=
  if ¬s.mDelegate then s else
  let s := if s.mSendingPackets.length < 1 then { s with mForceACKOfSentPacketsRequestID := 0 } else s
  match (s.endWait a.nextSequenceNumber).handleAckWith onLoss now a with
  | (.illegalACK, s) => s.refuseAck
  | (.handled, s) => s.handleForcedAck guarenteedDeliveryRequestID

end Reaction

end RUDPChannelStream

/-- A step with another reaction to loss. -/
def RUDPChannelEndpoint.stepWith (onLoss : Int → RUDPChannelStream → RUDPChannelStream) (t : RUDPChannelEndpoint) :
    RUDPChannelEvent → RUDPChannelEndpoint
  | .handlePacket now packet ecnMarked =>
    { t with stream := (t.stream.handlePacketWith onLoss now packet ecnMarked).2 }
  | .handleExternalAck now id ack => { t with stream := t.stream.handleExternalAckWith onLoss now ack id }
  | .own event => t.own event

theorem RUDPChannelEndpoint.stepWith_handlePacketLoss :
    RUDPChannelEndpoint.stepWith RUDPChannelStream.handlePacketLoss = RUDPChannelEndpoint.step := by
  funext t event
  cases event <;> rfl

/-- How the checks at the head of `handleAck` judge an acknowledgement. -/
inductive AckVerdict where
  | ignored | refused | accepted
  deriving DecidableEq, Repr

/-- The numbers are checked against the windows, then the parities at both ends against the packets
that are still there. -/
def RUDPChannelStream.ackVerdict (a : Ack) (s : RUDPChannelStream) : AckVerdict :=
  if s.mSendingPackets.length = 0 then .ignored
  else if a.gsnfr > a.gsnr then .refused
  else if a.nextSequenceNumber < s.mGSNFR then .ignored
  else if a.nextSequenceNumber > s.mGSNR + maxWindowToNextSequenceNumber then .ignored
  else if a.gsnr > s.mNextSequenceNumber then .ignored
  else if (s.findSending a.gsnfr).any fun p => a.xpFlag != p.mXORedParityToNow then .refused
  else if (s.findSending a.gsnr).any fun p => a.pgFlag != p.parity then .refused
  else .accepted

namespace SendWindow

variable (a : Ack) (w : SendWindow)

/-- The window without the packets up to the number to which everything was received. -/
def clean : SendWindow :=
  let r := cleanAcked a.gsnfr w.mSendingPackets w.toCounters
  { w with
    mRemovedPackets := w.mRemovedPackets ++ r.1
    mSendingPackets := r.2.1
    toCounters := r.2.2 }

/-- The walk over the vector. -/
def walk : List BufferedPacket × VectorWalk :=
  walkVector w.mSendingPackets (a.gsnfr + 1) (vectorDecoderStart a.vector a.gsnr a.gsnfr)
    ⟨w.toCounters, a.xpFlag, false, false, false⟩

/-- The window after the walk, and after the greatest packet received was let go of. -/
def walked : SendWindow :=
  let g := onPacket a.gsnr BufferedPacket.flagAsReceivedByRemoteParty (w.walk a).1 (w.walk a).2.toCounters
  { w with mSendingPackets := g.1, toCounters := g.2 }

/-- What an accepted acknowledgement does to the window. -/
def acked : SendWindow := if a.gsnr = a.gsnfr then w.clean a else (w.clean a).walked a

/-- The acknowledgement brings news of a loss. -/
def lossFound : Bool := a.gsnr != a.gsnfr && ((w.clean a).walk a).2.foundLoss

/-- The parity of the vector was computed and is not the one the acknowledgement gives. -/
def parityWrong : Bool :=
  a.gsnr != a.gsnfr && !((w.clean a).walk a).2.couldNotCalculateVectorParity
    && ((w.clean a).walk a).2.xoredParity != a.vpFlag

end SendWindow

namespace RUDPChannelStream

/-- The pace alone was changed, and not how many packets go into a burst. -/
def Paced (s s' : RUDPChannelStream) : Prop :=
  ∃ p : Pacing, s' = { s with toPacing := p } ∧ p.mPacketsPerBurst = s.mPacketsPerBurst

section Pace

variable (s : RUDPChannelStream) (now : Int)

theorem paced_refl : Paced s s := ⟨s.toPacing, rfl, rfl⟩

theorem paced_handleUnfreezing : Paced s s.handleUnfreezing := by
  unfold handleUnfreezing
  split
  · exact ⟨_, rfl, rfl⟩
  · exact paced_refl s

theorem paced_handleAckQuickExit : Paced s s.handleAckQuickExit := by
  unfold handleAckQuickExit
  obtain ⟨p, hp, hburst⟩ := paced_handleUnfreezing s
  simp only [hp]
  split
  · exact ⟨_, rfl, hburst⟩
  · exact ⟨p, rfl, hburst⟩

theorem paced_endSendingPeriod (hadPackets ecFlag : Bool) : Paced s (s.endSendingPeriod now hadPackets ecFlag).2 := by
  unfold endSendingPeriod
  split
  · exact ⟨_, rfl, rfl⟩
  · exact paced_refl s

theorem paced_calculateRTT (gsnrPacket : BufferedPacket) : Paced s (s.calculateRTT now gsnrPacket) := by
  unfold calculateRTT
  split
  · unfold setCalculatedRTT
    simp only
    split
    · exact ⟨_, rfl, rfl⟩
    · split
      · exact ⟨_, rfl, rfl⟩
      · exact ⟨_, rfl, rfl⟩
  · exact paced_refl s

end Pace

section Inversion

variable (onLoss : Int → RUDPChannelStream → RUDPChannelStream) (s : RUDPChannelStream) (now : Int) (a : Ack)

/-- What is done at the end of an accepted acknowledgement, on the window it leaves. -/
def react (p : Pacing) : AckOutcome × RUDPChannelStream :=
  let u : RUDPChannelStream := { s with toSendWindow := s.toSendWindow.acked a, toPacing := p }
  let u := if s.toSendWindow.lossFound a then onLoss now u else u
  if s.toSendWindow.parityWrong a then (.illegalACK, u) else (.handled, u.handleAckQuickExit)

theorem acceptAckWith_eq : ∃ p : Pacing, s.acceptAckWith onLoss now a = s.react onLoss now a p ∧
    p.mPacketsPerBurst = s.mPacketsPerBurst := by
  obtain ⟨p, hp, hburst⟩ := paced_endSendingPeriod (s.acknowledge a.gsnfr) now (decide (s.mSendingPackets.length > 0)) a.ecFlag
  unfold acceptAckWith react SendWindow.acked SendWindow.lossFound SendWindow.parityWrong
  by_cases heq : a.gsnr = a.gsnfr
  · refine ⟨p, ?_, hburst⟩
    simp only [hp, heq, bne_self_eq_false, Bool.false_and, Bool.false_eq_true, if_true, if_false]
    rfl
  · simp only [hp, heq, if_false, bne_iff_ne.mpr heq, Bool.true_and]
    generalize (endSendingPeriod now (decide (s.mSendingPackets.length > 0)) a.ecFlag (s.acknowledge a.gsnfr)).1 = had
    obtain ⟨q, hq, hburst'⟩ := paced_endSendingPeriod
      { s with toSendWindow := (s.toSendWindow.clean a).walked a, toPacing := p } now had a.ecFlag
    refine ⟨q, ?_, hburst'.trans hburst⟩
    change acknowledgeVectorWith onLoss now a had { s with toSendWindow := s.toSendWindow.clean a, toPacing := p } = _
    unfold acknowledgeVectorWith
    change (let u := (endSendingPeriod now had a.ecFlag
        { s with toSendWindow := (s.toSendWindow.clean a).walked a, toPacing := p }).2
      let u := if ((s.toSendWindow.clean a).walk a).2.foundLoss = true then onLoss now u else u
      if ¬((s.toSendWindow.clean a).walk a).2.couldNotCalculateVectorParity = true
          ∧ ((s.toSendWindow.clean a).walk a).2.xoredParity ≠ a.vpFlag then (AckOutcome.illegalACK, u)
      else (AckOutcome.handled, u.handleAckQuickExit)) = _
    rw [hq]
    simp only [Bool.and_eq_true, Bool.not_eq_true', Bool.not_eq_true, bne_iff_ne]

/-- What `handleAck` does, by its verdict: nothing but to the pace, or what the acknowledgement says
and the reaction to it. -/
theorem handleAckWith_cases :
    (s.ackVerdict a = .ignored ∧ s.handleAckWith onLoss now a = (.handled, s.handleAckQuickExit)) ∨
    (s.ackVerdict a = .refused ∧ ∃ u, Paced s u ∧ s.handleAckWith onLoss now a = (.illegalACK, u)) ∨
    (s.ackVerdict a = .accepted ∧ ∃ u p, Paced s u ∧ p.mPacketsPerBurst = s.mPacketsPerBurst ∧
      s.handleAckWith onLoss now a = u.react onLoss now a p) := by
  have hprocess :
      ((s.findSending a.gsnr).any (fun p => a.pgFlag != p.parity) = true ∧
        ∃ u, Paced s u ∧ s.processAckWith onLoss now a = (.illegalACK, u)) ∨
      ((s.findSending a.gsnr).any (fun p => a.pgFlag != p.parity) = false ∧ ∃ u p, Paced s u ∧
        p.mPacketsPerBurst = s.mPacketsPerBurst ∧ s.processAckWith onLoss now a = u.react onLoss now a p) := by
    unfold processAckWith
    cases hfind : s.findSending a.gsnr with
    | none =>
      obtain ⟨p, hp, hburst⟩ := acceptAckWith_eq onLoss s now a
      exact .inr ⟨rfl, s, p, paced_refl s, hburst, hp⟩
    | some q =>
      have hpaced := paced_calculateRTT s now q
      have hburst : (s.calculateRTT now q).mPacketsPerBurst = s.mPacketsPerBurst := by
        obtain ⟨p, hp, hburst⟩ := hpaced
        rw [hp]
        exact hburst
      simp only [Option.any_some]
      by_cases hparity : a.pgFlag = q.parity
      · rw [if_neg (not_not_intro hparity)]
        obtain ⟨p, hp, hburst'⟩ := acceptAckWith_eq onLoss (s.calculateRTT now q) now a
        exact .inr ⟨bne_eq_false_iff_eq.mpr hparity, _, p, hpaced, hburst'.trans hburst, hp⟩
      · rw [if_pos hparity]
        exact .inl ⟨bne_iff_ne.mpr hparity, _, hpaced, rfl⟩
  unfold handleAckWith ackVerdict
  split
  · exact .inl ⟨rfl, rfl⟩
  split
  · exact .inr (.inl ⟨rfl, s, paced_refl s, rfl⟩)
  split
  · exact .inl ⟨rfl, rfl⟩
  split
  · exact .inl ⟨rfl, rfl⟩
  split
  · exact .inl ⟨rfl, rfl⟩
  cases hfind : s.findSending a.gsnfr with
  | none =>
    simp only [Option.any_none, Bool.false_eq_true, if_false]
    rcases hprocess with ⟨hany, h⟩ | ⟨hany, h⟩
    · exact .inr (.inl ⟨if_pos hany, h⟩)
    · exact .inr (.inr ⟨if_neg (Bool.eq_false_iff.mp hany), h⟩)
  | some p =>
    simp only [Option.any_some]
    by_cases hparity : a.xpFlag = p.mXORedParityToNow
    · have hsame : (a.xpFlag != p.mXORedParityToNow) = false := bne_eq_false_iff_eq.mpr hparity
      simp only [if_neg (not_not_intro hparity), hsame, Bool.false_eq_true, if_false]
      rcases hprocess with ⟨hany, h⟩ | ⟨hany, h⟩
      · exact .inr (.inl ⟨if_pos hany, h⟩)
      · exact .inr (.inr ⟨if_neg (Bool.eq_false_iff.mp hany), h⟩)
    · rw [if_pos hparity, if_pos (bne_iff_ne.mpr hparity)]
      exact .inr (.inl ⟨rfl, s, paced_refl s, rfl⟩)

end Inversion

end RUDPChannelStream

end OpenPeer
