import OpenPeer.RUDPChannelStream

/-!
# Handling an acknowledgement

What a channel stream does with the receive state its peer reports: it checks the
parities it can check, lets go of what has arrived and marks what is missing.
-/
namespace OpenPeer

open RUDPPacket

/-- The packets up to a sequence number, each flagged as received, the packets after them and the
counters: the loop that erases from the front of the sending packets. -/
def cleanAcked (gsnfr : Nat) : List BufferedPacket → Counters →
    List BufferedPacket × List BufferedPacket × Counters
  | [], c => ([], [], c)
  | p :: ps, c =>
    if p.mSequenceNumber > gsnfr then ([], p :: ps, c) else
    let r := p.flagAsReceivedByRemoteParty c
    let rest := cleanAcked gsnfr ps r.2
    (r.1 :: rest.1, rest.2)

/-- What is carried along a walk over the vector. -/
structure VectorWalk extends Counters where
  xoredParity : Bool
  foundECN : Bool
  foundLoss : Bool
  couldNotCalculateVectorParity : Bool
  deriving DecidableEq, Repr

/-- Read states until the vector has reached a packet that is `n` further on; `none` when the
vector ends before. -/
def skipVector : Nat → VectorDecoderState → Bool → Option VectorDecoderState × Bool
  | 0, decoder, couldNot => (some decoder, couldNot)
  | n + 1, decoder, couldNot =>
    match vectorDecoderGetNextPacketState decoder with
    | (.noMoreData, _) => (none, couldNot)
    | (state, decoder) => skipVector n decoder (couldNot || state.isReceived)

/-- A packet the vector has reached. -/
def walkPacket (state : VectorStates) (p : BufferedPacket) (w : VectorWalk) : BufferedPacket × VectorWalk :=
  let r :=
    if state.isReceived then
      let r := p.flagAsReceivedByRemoteParty w.toCounters
      (r.1, { w with toCounters := r.2, xoredParity := logicalXOR w.xoredParity p.parity })
    else if ¬p.mFlaggedAsFailedToReceive then
      let r := { p with mFlaggedAsFailedToReceive := true }.flagForResending w.toCounters
      (r.1, { w with toCounters := r.2, foundLoss := true })
    else
      (p, w)
  (r.1, { r.2 with foundECN := r.2.foundECN || state == .receivedECNMarked })

/-- The walk over the sending packets and the vector, side by side. -/
def walkVector : List BufferedPacket → Nat → VectorDecoderState → VectorWalk → List BufferedPacket × VectorWalk
  | [], _, _, w => ([], w)
  | p :: ps, vectorSequenceNumber, decoder, w =>
    if p.mSequenceNumber < vectorSequenceNumber then
      let rest := walkVector ps vectorSequenceNumber decoder w
      (p :: rest.1, rest.2)
    else
      let skipped := skipVector (p.mSequenceNumber - vectorSequenceNumber) decoder w.couldNotCalculateVectorParity
      let w := { w with couldNotCalculateVectorParity := skipped.2 }
      match skipped.1 with
      | none => (p :: ps, w)
      | some decoder =>
        match vectorDecoderGetNextPacketState decoder with
        | (.noMoreData, _) => (p :: ps, w)
        | (state, decoder) =>
          let r := walkPacket state p w
          let rest := walkVector ps (p.mSequenceNumber + 1) decoder r.2
          (r.1 :: rest.1, rest.2)

/-- Do something to the packet a pointer leads to. -/
def onPacket (sequenceNumber : Nat) (f : BufferedPacket → Counters → BufferedPacket × Counters) :
    List BufferedPacket → Counters → List BufferedPacket × Counters
  | [], c => ([], c)
  | p :: ps, c =>
    if p.mSequenceNumber = sequenceNumber then
      let r := f p c
      (r.1 :: ps, r.2)
    else
      let rest := onPacket sequenceNumber f ps c
      (p :: rest.1, rest.2)

/-- Take the baton of the packet that comes after the given number of others that hold one, and
destroy it. -/
def destroyBaton : Nat → List BufferedPacket → Counters → List BufferedPacket × Counters
  | _, [], c => ([], c)
  | whichBatonToDestroy, p :: ps, c =>
    if p.mHoldsBaton then
      match whichBatonToDestroy with
      | 0 =>
        let r := p.releaseBaton c
        (r.1 :: ps, { r.2 with mAvailableBurstBatons := r.2.mAvailableBurstBatons - 1 })
      | n + 1 =>
        let rest := destroyBaton n ps c
        (p :: rest.1, rest.2)
    else
      let rest := destroyBaton whichBatonToDestroy ps c
      (p :: rest.1, rest.2)

namespace RUDPChannelStream

/-- The packet with a sequence number among those being sent. -/
def findSending (s : RUDPChannelStream) (sequenceNumber : Nat) : Option BufferedPacket :=
  s.mSendingPackets.find? fun p => p.mSequenceNumber == sequenceNumber

/-- A new timer. -/
def createTimer (s : RUDPChannelStream) (duration : Int) : Timer × RUDPChannelStream :=
  (⟨s.nextPUID, duration⟩, { s with nextPUID := s.nextPUID + 1 })

def handlePacketLoss (now : Int) (s : RUDPChannelStream) : RUDPChannelStream :=
  let wasFrozen := s.mBandwidthIncreaseFrozen
  let s := { s with
    mBandwidthIncreaseFrozen := true
    mStartedSendingAtTime := now
    mTotalSendingPeriodWithoutIssues := 0
    mAddToAvailableBurstBatonsTimer := none
    mAddToAvailableBurstBatonsDuation :=
      if wasFrozen then s.mAddToAvailableBurstBatonsDuation else s.mAddToAvailableBurstBatonsDuation * 2 }
  if s.mPacketsPerBurst > 1 then
    { s with mPacketsPerBurst := max 1 (s.mPacketsPerBurst / 2) }
  else if s.mAvailableBurstBatons > 1 then
    { s with mAvailableBurstBatons := s.mAvailableBurstBatons - 1 }
  else
    -- the last baton is never destroyed
    let r := destroyBaton (if s.mAvailableBurstBatons = 0 then 1 else 0) s.mSendingPackets s.toCounters
    { s with mSendingPackets := r.1, toCounters := r.2 }

def handleUnfreezing (s : RUDPChannelStream) : RUDPChannelStream :=
  if s.mTotalSendingPeriodWithoutIssues > unfreezeAfterGoodTransmission then
    { s with
      mBandwidthIncreaseFrozen := false
      mTotalSendingPeriodWithoutIssues := 0
      mAddToAvailableBurstBatonsDuation := max (s.mAddToAvailableBurstBatonsDuation.tdiv 2) s.mCalculatedRTT
      mAddToAvailableBurstBatonsTimer := none }
  else s

def handleAckQuickExit (s : RUDPChannelStream) : RUDPChannelStream :=
  let s := s.handleUnfreezing
  if s.mSendingPackets.length < 1 then { s with mForceACKOfSentPacketsRequestID := 0 } else s

/-- Half the way from the old round trip time to the one just measured. -/
def averageRTT (oldRTT newRTT : Int) : Int :=
  if newRTT > oldRTT then oldRTT + (newRTT - oldRTT).tdiv 2 else oldRTT - (oldRTT - newRTT).tdiv 2

/-- The timer that adds batons is never shorter than the round trip time. -/
def setCalculatedRTT (rtt : Int) (s : RUDPChannelStream) : RUDPChannelStream :=
  let s := { s with mCalculatedRTT := max rtt s.mMinimumRTT }
  if s.mCalculatedRTT ≤ s.mAddToAvailableBurstBatonsDuation then s else
  let s := { s with mAddToAvailableBurstBatonsDuation := s.mCalculatedRTT * 2 }
  if s.mAddToAvailableBurstBatonsTimer.isNone then s else
  let t := s.createTimer s.mAddToAvailableBurstBatonsDuation
  { t.2 with mAddToAvailableBurstBatonsTimer := some t.1 }

/-- The time a packet took that asked for an acknowledgement, if it was not lost before. -/
def calculateRTT (now : Int) (s : RUDPChannelStream) (gsnrPacket : BufferedPacket) : RUDPChannelStream :=
  if gsnrPacket.isFlagSet .arACKRequired ∧ ¬gsnrPacket.mFlaggedAsFailedToReceive then
    s.setCalculatedRTT (averageRTT s.mCalculatedRTT (now - gsnrPacket.mTimeSentOrReceived))
  else s

/-- Count the time since the sending started when its last packet is acknowledged. -/
def endSendingPeriod (now : Int) (hadPackets ecFlag : Bool) (s : RUDPChannelStream) : Bool × RUDPChannelStream :=
  if s.mSendingPackets.length = 0 ∧ hadPackets ∧ ¬ecFlag then
    (false, { s with
      mTotalSendingPeriodWithoutIssues := s.mTotalSendingPeriodWithoutIssues + (now - s.mStartedSendingAtTime) })
  else (hadPackets, s)

/-- Let go of all packets up to the one to which everything was received. -/
def acknowledge (gsnfr : Nat) (s : RUDPChannelStream) : RUDPChannelStream :=
  let r := cleanAcked gsnfr s.mSendingPackets s.toCounters
  { s with
    mRemovedPackets := s.mRemovedPackets ++ r.1
    mSendingPackets := r.2.1
    toCounters := r.2.2 }

/-- The part of an acknowledgement that the vector and the greatest sequence number received make. -/
def acknowledgeVector (now : Int) (a : Ack) (hadPackets : Bool) (s : RUDPChannelStream) :
    AckOutcome × RUDPChannelStream :=
  let walk : VectorWalk := ⟨s.toCounters, a.xpFlag, false, false, false⟩
  let r := walkVector s.mSendingPackets (a.gsnfr + 1) (vectorDecoderStart a.vector a.gsnr a.gsnfr) walk
  let w := r.2
  let g := onPacket a.gsnr BufferedPacket.flagAsReceivedByRemoteParty r.1 w.toCounters
  let s := { s with mSendingPackets := g.1, toCounters := g.2 }
  let s := (s.endSendingPeriod now hadPackets a.ecFlag).2
  let s := if w.foundLoss then s.handlePacketLoss now else s
  if ¬w.couldNotCalculateVectorParity ∧ w.xoredParity ≠ a.vpFlag then
    (.illegalACK, s)
  else
    (.handled, s.handleAckQuickExit)

/-- Let go of what the acknowledgement covers, once its parities at both ends are right. -/
def acceptAck (now : Int) (a : Ack) (s : RUDPChannelStream) : AckOutcome × RUDPChannelStream :=
  let hadPackets := decide (s.mSendingPackets.length > 0)
  let s := s.acknowledge a.gsnfr
  let r := s.endSendingPeriod now hadPackets a.ecFlag
  if a.gsnr = a.gsnfr then (.handled, r.2.handleAckQuickExit) else r.2.acknowledgeVector now a r.1

/-- The round trip time and the parity of the greatest packet received. -/
def processAck (now : Int) (a : Ack) (s : RUDPChannelStream) : AckOutcome × RUDPChannelStream :=
  match s.findSending a.gsnr with
  | none => s.acceptAck now a
  | some gsnrPacket =>
    let s := s.calculateRTT now gsnrPacket
    if a.pgFlag ≠ gsnrPacket.parity then (.illegalACK, s) else s.acceptAck now a

def handleAck (now : Int) (a : Ack) (s : RUDPChannelStream) : AckOutcome × RUDPChannelStream :=
  if s.mSendingPackets.length = 0 then (.handled, s.handleAckQuickExit)
  else if a.gsnfr > a.gsnr then (.illegalACK, s)
  else if a.nextSequenceNumber < s.mGSNFR then (.handled, s.handleAckQuickExit)
  else if a.nextSequenceNumber > s.mGSNR + maxWindowToNextSequenceNumber then (.handled, s.handleAckQuickExit)
  else if a.gsnr > s.mNextSequenceNumber then (.handled, s.handleAckQuickExit)
  else
    match s.findSending a.gsnfr with
    | some gsnfrPacket =>
      if a.xpFlag ≠ gsnfrPacket.mXORedParityToNow then (.illegalACK, s) else s.processAck now a
    | none => s.processAck now a

end RUDPChannelStream

end OpenPeer
