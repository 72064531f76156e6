import OpenPeer.RUDPChannelReceive

/-!
# Sending

`sendNow` and its clean-up. One burst resends the packets that are flagged and
then creates new ones, at most as many as the pace allows. The lock is given up
before every packet that is sent and after it, so the burst is a machine of its
own: a position and the local variables, and a function for each locked region.
-/
namespace OpenPeer

open Bytes RUDPPacket

/-- Where a `sendNow` is: the region it takes the lock for next, or the call of the delegate. -/
inductive SendNowPosition where
  | checkingBatons | choosingResend | creatingPacket | delivering | afterDelivery | leaving | unwinding
  deriving DecidableEq, Repr

/-- The local variables of a `sendNow`. A pointer to a buffered packet is its sequence number. -/
structure SendNow where
  position : SendNowPosition
  packetsToSend : Nat
  firstPacketCreated : Option Nat
  lastPacketSent : Option Nat
  attemptToDeliver : Option Nat
  attemptToDeliverBuffer : Option (List UInt8)
  deriving DecidableEq, Repr

namespace SendNow

def start : SendNow where
  position := .checkingBatons
  packetsToSend := 1
  firstPacketCreated := none
  lastPacketSent := none
  attemptToDeliver := none
  attemptToDeliverBuffer := none

/-- The head of the loop. -/
def loop (l : SendNow) : SendNow :=
  if l.packetsToSend = 0 then { l with position := .leaving }
  else { l with position := .choosingResend, attemptToDeliver := none, attemptToDeliverBuffer := none }

end SendNow

/-- The packet to resend: the search starts at the packet sent last, when it is still in the map,
and does not stop at the first packet that is flagged. -/
def chooseResend (lastPacketSent : Option Nat) (packets : List BufferedPacket) : Option BufferedPacket :=
  let fromLast :=
    match lastPacketSent with
    | none => packets
    | some last => packets.dropWhile fun p => p.mSequenceNumber != last
  let from' := if fromLast = [] then packets else fromLast
  (from'.filter (·.mFlagForResendingInNextBurst)).getLast?

namespace RUDPChannelStream

/-- The packet a pointer leads to. -/
def findPacket (s : RUDPChannelStream) (sequenceNumber : Nat) : Option BufferedPacket :=
  (s.mRemovedPackets ++ s.mSendingPackets).find? fun p => p.mSequenceNumber == sequenceNumber

/-- Do something to the packet a pointer leads to. -/
def modifyPacket (sequenceNumber : Nat) (f : BufferedPacket → Counters → BufferedPacket × Counters)
    (s : RUDPChannelStream) : RUDPChannelStream :=
  let removed := onPacket sequenceNumber f s.mRemovedPackets s.toCounters
  let sending := onPacket sequenceNumber f s.mSendingPackets removed.2
  { s with mRemovedPackets := removed.1, mSendingPackets := sending.1, toCounters := sending.2 }

/-- Whether a call of `sendNow` goes on to send. -/
def canSendNow (s : RUDPChannelStream) : Bool :=
  !s.isShutdown && s.mWaitToSendUntilReceivedRemoteSequenceNumber == 0 && s.mDidReceiveWriteReady
    && !s.mAttemptingSendNow

def sendNow (s : RUDPChannelStream) : Option (SendNow × RUDPChannelStream) :=
  if s.canSendNow then some (.start, { s with mAttemptingSendNow := true }) else none

def checkBatons (l : SendNow) (s : RUDPChannelStream) : SendNow :=
  if s.mAvailableBurstBatons = 0 then { l with position := .leaving }
  else { l with packetsToSend := s.mPacketsPerBurst }.loop

def selectResend (l : SendNow) (s : RUDPChannelStream) : SendNow :=
  let chosen := if s.mTotalPacketsToResend ≠ 0 then chooseResend l.lastPacketSent s.mSendingPackets else none
  match chosen with
  | some p =>
    { l with
      position := .delivering
      attemptToDeliver := some p.mSequenceNumber
      attemptToDeliverBuffer := p.mPacket }
  | none => { l with position := .creatingPacket }

/-- The header of a new packet: its sequence number, its parity and the state of the window. -/
def newPacket (parity : Bool) (s : RUDPChannelStream) : RUDPPacket :=
  let packet := { ((RUDPPacket.create.setSequenceNumber s.mNextSequenceNumber).setGSN s.mGSNR s.mGSNFR) with
    mChannelNumber := s.mSendingChannelNumber }
  let packet := packet.setFlag .psParitySending parity
  let packet := packet.setFlag .pgParityGSNR s.mGSNRParity
  let packet := packet.setFlag .xpXORedParityToGSNFR s.mXORedParityToGSNFR
  let packet := packet.setFlag .dpDuplicatePacket s.mDuplicateReceived
  packet.setFlag .ecECNPacket s.mECNReceived

/-- A vector of the window, for the first packet of a burst. -/
def encodeOnto (packet : RUDPPacket) (w : ReceiveWindow) : RUDPPacket :=
  let e := encodeVector w 0x7F
  let r := vectorEncoderFinalize e
  { packet.setVectorFlag r.1 with
    mVector := vectorArray e.mVector.reverse
    mVectorLengthInBytes := UInt8.ofNat r.2.length
    vectorRoom := length_vectorArray _ }

/-- The vector of the first packet, for the later ones of a burst. -/
def copyVector (packet first : RUDPPacket) : RUDPPacket :=
  { packet.setVectorFlag first.isVectorFlagSet with
    mVector := first.mVector
    mVectorLengthInBytes := first.mVectorLengthInBytes
    vectorRoom := first.vectorRoom }

/-- The new packet with the vector it goes out with. -/
def vectoredPacket (parity : Bool) (l : SendNow) (s : RUDPChannelStream) : RUDPPacket :=
  match l.firstPacketCreated.bind s.findPacket with
  | none => encodeOnto (s.newPacket parity) s.toReceiveWindow
  | some first => copyVector (s.newPacket parity) first.mRUDPPacket

/-- A new packet as it is kept until it is acknowledged. -/
def bufferPacket (now : Int) (packet : RUDPPacket) (bytes : List UInt8) (s : RUDPChannelStream) : BufferedPacket where
  mSequenceNumber := s.mNextSequenceNumber
  mTimeSentOrReceived := now
  mRUDPPacket := packet
  mXORedParityToNow := logicalXOR s.mXORedParityToNow (packet.isFlagSet .psParitySending)
  gsnr := s.mGSNR
  gsnfr := s.mGSNFR
  mPacket := some bytes
  mHoldsBaton := false
  mFlaggedAsFailedToReceive := false
  mFlagForResendingInNextBurst := false

/-- Keep a new packet under the next sequence number. -/
def pushPacket (now : Int) (p : BufferedPacket) (s : RUDPChannelStream) : RUDPChannelStream :=
  { s with
    mDuplicateReceived := false
    mECNReceived := false
    mXORedParityToNow := p.mXORedParityToNow
    mStartedSendingAtTime := if s.mSendingPackets.length = 0 then now else s.mStartedSendingAtTime
    mSendingPackets := s.mSendingPackets ++ [p]
    mNextSequenceNumber := s.mNextSequenceNumber + 1 }

/-- The stream once the data of a new packet was read: a packet that requires an acknowledgement
makes the timer that would ensure one needless. -/
def afterRead (stream : TransportStream Unit) (ackRequired : Bool) (s : RUDPChannelStream) : RUDPChannelStream :=
  { s with
    mSendStream := some stream
    mEnsureDataHasArrivedWhenNoMoreBurstBatonsAvailableTimer :=
      if ackRequired then none else s.mEnsureDataHasArrivedWhenNoMoreBurstBatonsAvailableTimer }

/-- The region that creates a packet, with the parity bit it draws. A packet is created only when
the send stream has a buffer; a check of the packet that fails ends the call. -/
def createPacket (now : Int) (parity : Bool) (l : SendNow) (s : RUDPChannelStream) : SendNow × RUDPChannelStream :=
  match s.mSendStream with
  | none => ({ l with position := .leaving }, s)
  | some stream =>
    if stream.getTotalReadBuffersAvailable < 1 then ({ l with position := .leaving }, s) else
    let packet := s.vectoredPacket parity l
    match packet.getRoomAvailableForData maxPacketSizeWhenPMTUIsNotKnown with
    | .error _ => ({ l with position := .unwinding }, { s with fault := true })
    | .ok availableBytes =>
      let r := stream.read availableBytes
      let ackRequired := decide (r.2.2.getTotalReadBuffersAvailable < 1 ∨ l.packetsToSend = 1)
      let packet := { packet with mData := r.1 }
      let packet := if ackRequired then packet.setFlag .arACKRequired true else packet
      let s := s.afterRead r.2.2 ackRequired
      match packet.packetize with
      | .error _ => ({ l with position := .unwinding }, { s with fault := true })
      | .ok bytes =>
        ({ l with
            position := .delivering
            firstPacketCreated := l.firstPacketCreated.or (some s.mNextSequenceNumber)
            attemptToDeliver := some s.mNextSequenceNumber
            attemptToDeliverBuffer := some bytes },
          s.pushPacket now (s.bufferPacket now packet bytes))

/-- The delegate did or did not take the packet. -/
def afterSend (sent : Bool) (l : SendNow) : SendNow :=
  if sent then
    { l with position := .afterDelivery, lastPacketSent := l.attemptToDeliver, packetsToSend := l.packetsToSend - 1 }
  else
    { l with
      position := .leaving
      firstPacketCreated := if l.firstPacketCreated = l.attemptToDeliver then none else l.firstPacketCreated }

/-- A packet that was resent need not be resent, and its arrival is to be made sure of. -/
def clearResend (l : SendNow) (s : RUDPChannelStream) : SendNow × RUDPChannelStream :=
  match l.attemptToDeliver with
  | none => (l.loop, s)
  | some sequenceNumber =>
    if ((s.findPacket sequenceNumber).map (·.mFlagForResendingInNextBurst)).getD false then
      (l.loop, { s with mForceACKNextTimePossible := true }.modifyPacket sequenceNumber BufferedPacket.doNotResend)
    else (l.loop, s)

/-- Whether an acknowledgement is to be forced although none was asked for: there is no packet
that holds a baton and will be acknowledged by itself. -/
def noAckUnderway (packets : List BufferedPacket) : Bool :=
  !packets.any fun p => p.mHoldsBaton && p.isFlagSet .arACKRequired && !p.mFlagForResendingInNextBurst

/-- Let a timer run, from now on if it did not. -/
def keepTimer (required : Bool) (duration : Int) (timer : Option Timer) (s : RUDPChannelStream) :
    Option Timer × RUDPChannelStream :=
  match required, timer with
  | false, _ => (none, s)
  | true, some t => (some t, s)
  | true, none =>
    let r := s.createTimer duration
    (some r.1, r.2)

/-- All bursts that are available should happen in one round trip time. -/
def setBurstTimer (required : Bool) (s : RUDPChannelStream) : RUDPChannelStream :=
  let r := s.keepTimer required (s.mCalculatedRTT.tdiv s.mAvailableBurstBatons) s.mBurstTimer
  { r.2 with mBurstTimer := r.1 }

def setEnsureTimer (required : Bool) (s : RUDPChannelStream) : RUDPChannelStream :=
  let r := s.keepTimer required ((s.mCalculatedRTT * 3).tdiv 2)
    s.mEnsureDataHasArrivedWhenNoMoreBurstBatonsAvailableTimer
  { r.2 with mEnsureDataHasArrivedWhenNoMoreBurstBatonsAvailableTimer := r.1 }

def setAddBatonsTimer (required : Bool) (s : RUDPChannelStream) : RUDPChannelStream :=
  let r := s.keepTimer required s.mAddToAvailableBurstBatonsDuation s.mAddToAvailableBurstBatonsTimer
  { r.2 with mAddToAvailableBurstBatonsTimer := r.1 }

/-- Ask the delegate for an acknowledgement of all that was sent, with a new request. -/
def forceACK (s : RUDPChannelStream) : RUDPChannelStream :=
  { s with
    mForceACKOfSentPacketsRequestID := s.nextPUID
    nextPUID := s.nextPUID + 1
    mForceACKOfSentPacketsAtSendingSequnceNumber := s.mNextSequenceNumber - 1
    mForceACKNextTimePossible := false
    fault := s.fault || !s.mDelegate }

end RUDPChannelStream

/-- What the clean-up after a burst finds to be needed. -/
structure CleanupPlan where
  burstTimerRequired : Bool
  forceACKOfSentPacketsRequired : Bool
  ensureDataHasArrivedTimer : Bool
  addBatonsTimer : Bool
  deriving DecidableEq, Repr

namespace RUDPChannelStream

def cleanupPlan (s : RUDPChannelStream) : CleanupPlan :=
  let unacked := decide (s.mSendingPackets.length > 0)
  let batons := s.mAvailableBurstBatons != 0
  let toWrite := decide (s.totalWriteBuffers > 0)
  -- with batons left and data to write there is no need to make sure of what was sent
  let forced :=
    unacked && (!(batons && toWrite) || s.mForceACKNextTimePossible) && s.mForceACKOfSentPacketsRequestID == 0
      && (s.mForceACKNextTimePossible || noAckUnderway s.mSendingPackets)
  let forcing := forced || unacked && s.mForceACKOfSentPacketsRequestID != 0
  { burstTimerRequired := batons && (unacked && s.mTotalPacketsToResend != 0 || toWrite)
    forceACKOfSentPacketsRequired := forced
    ensureDataHasArrivedTimer := unacked && !(batons && toWrite) && !forcing
    addBatonsTimer :=
      !s.mBandwidthIncreaseFrozen && s.mTotalPacketsToResend == 0 && (unacked || toWrite) && !forcing }

/-- Nothing is forced once everything sent is acknowledged. -/
def cancelForcedACK (s : RUDPChannelStream) : RUDPChannelStream :=
  if s.mSendingPackets.length < 1 then { s with mForceACKOfSentPacketsRequestID := 0 } else s

/-- The timers that send and make sure of what was sent, and the acknowledgement that is forced. -/
def startTimers (plan : CleanupPlan) (s : RUDPChannelStream) : RUDPChannelStream :=
  let s := (s.cancelForcedACK.setBurstTimer plan.burstTimerRequired).setEnsureTimer plan.ensureDataHasArrivedTimer
  if plan.forceACKOfSentPacketsRequired then s.forceACK else s

def finishCleanup (plan : CleanupPlan) (delegateIsGone : Bool) (s : RUDPChannelStream) : RUDPChannelStream :=
  if plan.forceACKOfSentPacketsRequired ∧ delegateIsGone then s.delegateGone
  else (s.setAddBatonsTimer plan.addBatonsTimer).closeOnAllDataSent

def sendNowCleanup (delegateIsGone : Bool) (s : RUDPChannelStream) : RUDPChannelStream :=
  let s := s.handleUnfreezing
  (s.startTimers s.cleanupPlan).finishCleanup s.cleanupPlan delegateIsGone

/-- The last region: the last packet sent takes a baton, unless it was acknowledged already. -/
def leaveSendNow (delegateIsGone : Bool) (l : SendNow) (s : RUDPChannelStream) : SendNow × RUDPChannelStream :=
  let s :=
    match l.lastPacketSent with
    | none => s
    | some last =>
      if ((s.findPacket last).bind (·.mPacket)).isSome then s.modifyPacket last BufferedPacket.consumeBaton else s
  ({ l with position := .unwinding }, s.sendNowCleanup delegateIsGone)

def unwind (s : RUDPChannelStream) : RUDPChannelStream := { s with mAttemptingSendNow := false }

/-- The locked region of `onTimer`, for the timer with an identifier. -/
def onTimer (timer : Nat) (coin : Bool) (s : RUDPChannelStream) : RUDPChannelStream :=
  let isTimer (t : Option Timer) : Bool := t.map (·.mID) == some timer
  if isTimer s.mBurstTimer then s
  else if isTimer s.mEnsureDataHasArrivedWhenNoMoreBurstBatonsAvailableTimer then
    { s with
      mEnsureDataHasArrivedWhenNoMoreBurstBatonsAvailableTimer := none
      mForceACKNextTimePossible := true }
  else if isTimer s.mAddToAvailableBurstBatonsTimer then
    if coin then { s with mAvailableBurstBatons := s.mAvailableBurstBatons + 1 }
    else { s with mPacketsPerBurst := s.mPacketsPerBurst + 1 }
  else s

end RUDPChannelStream

end OpenPeer
