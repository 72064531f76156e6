import OpenPeer.Reorder
import OpenPeer.RUDPChannelAck

/-!
# Receiving

What a channel stream does with a packet and with an acknowledgement that comes
in a message of its own, the receive state it reports to its peer, and the calls
of the application.
-/
namespace OpenPeer

open Bytes RUDPPacket

/-- Add packets that are missing, up to the number of times. -/
def addMissing : Nat → VectorEncoderState → Bool × VectorEncoderState
  | 0, e => (true, e)
  | n + 1, e =>
    match vectorEncoderAdd e .notReceived false with
    | (false, e) => (false, e)
    | (true, e) => addMissing n e

/-- The state a vector gives a packet that was received. -/
def receivedState (p : BufferedPacket) : VectorStates :=
  if p.isFlagSet .ecECNPacket then .receivedECNMarked else .received

/-- Encode the packets received, and the holes before them, until the vector is full. -/
def fillVector : List BufferedPacket → Nat → VectorEncoderState → VectorEncoderState
  | [], _, e => e
  | p :: ps, sequenceNumber, e =>
    match addMissing (p.mSequenceNumber - sequenceNumber) e with
    | (false, e) => e
    | (true, e) =>
      if p.mSequenceNumber < sequenceNumber then fillVector ps sequenceNumber e else
      match vectorEncoderAdd e (receivedState p) p.parity with
      | (false, e) => e
      | (true, e) => fillVector ps (p.mSequenceNumber + 1) e

/-- Put a packet into a map under its sequence number. -/
def insertPacket (p : BufferedPacket) (packets : List BufferedPacket) : List BufferedPacket :=
  Reorder.insert (fun q => q.mSequenceNumber) p packets

/-- What a locked region of `handlePacket` leaves to be done. -/
inductive HandlePacketResult where
  | done (handled : Bool)
  | sendNow (fireExternalACKIfNotSent : Bool)
  deriving DecidableEq, Repr

namespace RUDPChannelStream

/-- The encoder of a vector of the receive window. -/
def encodeVector (w : ReceiveWindow) (vectorLengthInBytes : Nat) : VectorEncoderState :=
  fillVector w.mReceivedPackets (w.mGSNFR + 1)
    (vectorEncoderStart w.mGSNR w.mGSNFR w.mXORedParityToGSNFR vectorLengthInBytes)

/-- The receive state for an acknowledgement outside a data packet. -/
def getState (maxVectorSizeInBytes : Nat) (s : RUDPChannelStream) : Ack :=
  let vector :=
    if maxVectorSizeInBytes ≠ 0 then
      vectorEncoderFinalize (encodeVector s.toReceiveWindow maxVectorSizeInBytes)
    else (s.mXORedParityToGSNFR, [])
  { nextSequenceNumber := s.mNextSequenceNumber
    gsnr := s.mGSNR
    gsnfr := s.mGSNFR
    vector := vector.2
    vpFlag := vector.1
    pgFlag := s.mGSNRParity
    xpFlag := s.mXORedParityToGSNFR
    dpFlag := s.mDuplicateReceived
    ecFlag := s.mECNReceived }

def notifyExternalACKSent (s : RUDPChannelStream) : RUDPChannelStream :=
  { s with mDuplicateReceived := false, mECNReceived := false }

/-- Hand bytes to the application, or keep them until it has given its stream. -/
def putReceived (data : List UInt8) (s : RUDPChannelStream) : RUDPChannelStream :=
  match s.mReceiveStream with
  | some stream => { s with mReceiveStream := some (stream.write data none) }
  | none =>
    match s.mPendingReceiveData with
    | some pending => { s with mPendingReceiveData := some (pending ++ data) }
    | none => { s with fault := true }

/-- One turn of the delivery: the front packet is the next in the series. -/
def deliverPacket (p : BufferedPacket) (rest : List BufferedPacket) (s : RUDPChannelStream) : RUDPChannelStream :=
  let s := { s with mLastDeliveredReadData := p.mTimeSentOrReceived }
  let s :=
    if p.mRUDPPacket.mData.length > 0 ∧ ¬s.mShutdownState.receive then s.putReceived p.mRUDPPacket.mData else s
  { s with
    mGSNFR := p.mSequenceNumber
    mXORedParityToGSNFR := logicalXOR s.mXORedParityToGSNFR p.parity
    mReceivedPackets := rest }

/-- The loop over the packets received, from the front. -/
def deliverLoop : List BufferedPacket → RUDPChannelStream → RUDPChannelStream
  | [], s => s
  | p :: ps, s => if p.mSequenceNumber ≠ s.mGSNFR + 1 then s else deliverLoop ps (s.deliverPacket p ps)

def deliverReadPackets (s : RUDPChannelStream) : RUDPChannelStream := deliverLoop s.mReceivedPackets s

/-- A packet that would move the window on is not taken when nothing was delivered for too long. -/
def expandsStaleWindow (now : Int) (sequenceNumber : Nat) (s : RUDPChannelStream) : Bool :=
  sequenceNumber > s.mGSNFR + maxWindowToNextSequenceNumber && sequenceNumber > s.mGSNR
    && decide (s.mLastDeliveredReadData + s.mCalculatedRTT * 3 < now)

/-- Put the packet in order and deliver what is in series. -/
def acceptPacket (now : Int) (sequenceNumber : Nat) (packet : RUDPPacket) (s : RUDPChannelStream) :
    RUDPChannelStream :=
  let s := { s with
    mReceivedPackets := insertPacket (.create now sequenceNumber packet) s.mReceivedPackets }
  let s :=
    if sequenceNumber > s.mGSNR then
      { s with mGSNR := sequenceNumber, mGSNRParity := packet.isFlagSet .psParitySending }
    else s
  s.deliverReadPackets

/-- The acknowledgement in the header of a data packet. -/
def packetAck (packet : RUDPPacket) (sequenceNumber : Nat) (s : RUDPChannelStream) : Ack where
  nextSequenceNumber := sequenceNumber
  gsnr := packet.getGSNR s.mNextSequenceNumber
  gsnfr := packet.getGSNFR s.mNextSequenceNumber
  vector := packet.vectorBytes
  vpFlag := packet.isVectorFlagSet
  pgFlag := packet.isFlagSet .pgParityGSNR
  xpFlag := packet.isFlagSet .xpXORedParityToGSNFR
  dpFlag := packet.isFlagSet .dpDuplicatePacket
  ecFlag := packet.isFlagSet .ecECNPacket

/-- An acknowledgement that is illegal ends the stream. -/
def refuseAck (s : RUDPChannelStream) : RUDPChannelStream :=
  (s.setError .illegalStreamState "received illegal ack").cancel

/-- A packet is no longer waited for once one with a sequence number as great has come. -/
def endWait (sequenceNumber : Nat) (s : RUDPChannelStream) : RUDPChannelStream :=
  if sequenceNumber ≥ s.mWaitToSendUntilReceivedRemoteSequenceNumber then
    { s with mWaitToSendUntilReceivedRemoteSequenceNumber := 0 }
  else s

/-- A packet inside the window, after its acknowledgement. -/
def handleData (now : Int) (packet : RUDPPacket) (sequenceNumber : Nat) (s : RUDPChannelStream) :
    HandlePacketResult × RUDPChannelStream :=
  if s.mReceivedPackets.any (fun p => p.mSequenceNumber == sequenceNumber) then
    (.done true, { s with mDuplicateReceived := true })
  else if s.expandsStaleWindow now sequenceNumber then (.done false, s)
  else (.sendNow (packet.isFlagSet .arACKRequired), s.acceptPacket now sequenceNumber packet)

/-- The locked region of `handlePacket`. -/
def handlePacket (now : Int) (packet : RUDPPacket) (ecnMarked : Bool) (s : RUDPChannelStream) :
    HandlePacketResult × RUDPChannelStream :=
  if ¬s.mDelegate then (.done false, s)
  else if packet.mChannelNumber ≠ s.mReceivingChannelNumber then (.done false, s)
  else
    let s := { s with mECNReceived := s.mECNReceived || ecnMarked }
    let sequenceNumber := packet.getSequenceNumber s.mGSNR
    let s := s.endWait sequenceNumber
    if sequenceNumber ≤ s.mGSNFR then (.done true, { s with mDuplicateReceived := true })
    else if sequenceNumber > s.mGSNR + maxWindowToNextSequenceNumber then (.done false, s)
    else
      match s.handleAck now (s.packetAck packet sequenceNumber) with
      | (.illegalACK, s) => (.done true, s.refuseAck)
      | (.handled, s) => s.handleData now packet sequenceNumber

/-- The packets up to the forced sequence number are to be resent. -/
def flagForced (forced : Nat) : List BufferedPacket → Counters → List BufferedPacket × Counters
  | [], c => ([], c)
  | p :: ps, c =>
    if p.mSequenceNumber > forced then (p :: ps, c) else
    let r := p.flagForResending c
    let r := r.1.releaseBaton r.2
    let rest := flagForced forced ps r.2
    (r.1 :: rest.1, rest.2)

/-- What an acknowledgement that was asked for says beyond its numbers. -/
def handleForcedAck (guarenteedDeliveryRequestID : Nat) (s : RUDPChannelStream) : RUDPChannelStream :=
  let s :=
    if guarenteedDeliveryRequestID ≠ 0 ∧ s.mForceACKOfSentPacketsRequestID = guarenteedDeliveryRequestID
        ∧ s.mSendingPackets.length > 0 then
      let r := flagForced s.mForceACKOfSentPacketsAtSendingSequnceNumber s.mSendingPackets s.toCounters
      { s with
        mForceACKOfSentPacketsRequestID := 0
        mForceACKNextTimePossible := false
        mSendingPackets := r.1
        toCounters := r.2 }
    else s
  { s with mEnsureDataHasArrivedWhenNoMoreBurstBatonsAvailableTimer := none }

def handleExternalAck (now : Int) (guarenteedDeliveryRequestID : Nat) (a : Ack) (s : RUDPChannelStream) :
    RUDPChannelStream :=
  if ¬s.mDelegate then s else
  let s := if s.mSendingPackets.length < 1 then { s with mForceACKOfSentPacketsRequestID := 0 } else s
  match (s.endWait a.nextSequenceNumber).handleAck now a with
  | (.illegalACK, s) => s.refuseAck
  | (.handled, s) => s.handleForcedAck guarenteedDeliveryRequestID

/-- The application gives its streams; what was received before goes to the receive stream. -/
def setStreams (receiveStream sendStream : TransportStream Unit) (s : RUDPChannelStream) : RUDPChannelStream :=
  let receiveStream :=
    if s.mShutdownState.receive then receiveStream.cancel
    else
      match s.mPendingReceiveData with
      | some pending => if pending.length > 0 then receiveStream.write pending none else receiveStream
      | none => receiveStream
  { s with
    mReceiveStream := some receiveStream
    mSendStream := some sendStream.notifyReaderReadyToRead
    mPendingReceiveData := none }

def shutdownDirection (state : Shutdown) (s : RUDPChannelStream) : RUDPChannelStream :=
  let mShutdownState : Shutdown := ⟨s.mShutdownState.send || state.send, s.mShutdownState.receive || state.receive⟩
  let s := { s with
    mShutdownState := mShutdownState
    mReceiveStream :=
      if mShutdownState.receive then s.mReceiveStream.map TransportStream.cancel else s.mReceiveStream }
  if s.isShutdown then s
  else if s.isShuttingDown then s
  else s.setState .directionalShutdown

def shutdown (shutdownOnlyOnceAllDataSent : Bool) (s : RUDPChannelStream) : RUDPChannelStream :=
  if s.isShutdown then s
  else if ¬shutdownOnlyOnceAllDataSent then s.cancel
  else ((s.shutdownDirection ⟨false, true⟩).setState .shuttingDown).closeOnAllDataSent

def holdSendingUntilReceiveSequenceNumber (sequenceNumber : Nat) (s : RUDPChannelStream) : RUDPChannelStream :=
  { s with mWaitToSendUntilReceivedRemoteSequenceNumber := sequenceNumber }

def notifySocketWriteReady (s : RUDPChannelStream) : RUDPChannelStream :=
  if ¬s.mDelegate then s else { s with mDidReceiveWriteReady := true }

/-- A call of the delegate found it gone. -/
def delegateGone (s : RUDPChannelStream) : RUDPChannelStream := (s.setError .delegateGone "delegate gone").cancel

end RUDPChannelStream

end OpenPeer
