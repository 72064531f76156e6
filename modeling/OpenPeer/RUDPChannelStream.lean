import OpenPeer.RUDPPacketVector
import OpenPeer.TransportStream

/-!
# The RUDP channel stream

One end of a reliable stream over datagrams: the window of packets received, the
window of packets sent, and the pace of sending. A method that runs under the
lock is one function. `sendNow` gives the lock up between its regions, so each
region is a function of its own and what the method keeps between them, its local
variables, is a record. Times and durations are in microseconds.
-/
namespace OpenPeer

open Bytes

def milliseconds (n : Int) : Int := 1000 * n
def seconds (n : Int) : Int := 1000 * milliseconds n

def defaultCalculateRTT : Int := milliseconds 200
def maxWindowToNextSequenceNumber : Nat := 256
def maxPacketSizeWhenPMTUIsNotKnown : Nat := 512
def unfreezeAfterGoodTransmission : Int := seconds 10
def defaultPacketsPerBurst : Nat := 3

/-- What stays as it is in a buffered packet. The two last numbers are those the packet was given
for its receive state, before they were cut to 24 bits; the code does not keep them. -/
structure PacketRecord where
  mSequenceNumber : Nat
  mTimeSentOrReceived : Int
  mRUDPPacket : RUDPPacket
  mXORedParityToNow : Bool
  gsnr : Nat
  gsnfr : Nat
  deriving DecidableEq, Repr

/-- A packet that waits to be acknowledged or to be read. -/
structure BufferedPacket extends PacketRecord where
  mPacket : Option (List UInt8)
  mHoldsBaton : Bool
  mFlaggedAsFailedToReceive : Bool
  mFlagForResendingInNextBurst : Bool
  deriving DecidableEq, Repr

/-- The counters the packets share. A check that failed, or a null pointer that was followed, is
remembered in `fault`. -/
structure Counters where
  mTotalPacketsToResend : Nat
  mAvailableBurstBatons : Nat
  fault : Bool
  deriving DecidableEq, Repr

namespace BufferedPacket

def create (now : Int) (sequenceNumber : Nat) (packet : RUDPPacket) : BufferedPacket where
  mSequenceNumber := sequenceNumber
  mTimeSentOrReceived := now
  mRUDPPacket := packet
  mXORedParityToNow := false
  gsnr := 0
  gsnfr := 0
  mPacket := none
  mHoldsBaton := false
  mFlaggedAsFailedToReceive := false
  mFlagForResendingInNextBurst := false

def isFlagSet (p : BufferedPacket) (f : Flags) : Bool := p.mRUDPPacket.isFlagSet f

/-- The parity bit of the packet. -/
def parity (p : BufferedPacket) : Bool := p.isFlagSet .psParitySending

variable (p : BufferedPacket) (c : Counters)

def doNotResend : BufferedPacket × Counters :=
  if ¬p.mFlagForResendingInNextBurst then (p, c)
  else if c.mTotalPacketsToResend = 0 then
    ({ p with mFlagForResendingInNextBurst := false }, { c with fault := true })
  else
    ({ p with mFlagForResendingInNextBurst := false },
      { c with mTotalPacketsToResend := c.mTotalPacketsToResend - 1 })

def flagForResending : BufferedPacket × Counters :=
  if p.mPacket.isNone then (p, c)
  else if p.mFlagForResendingInNextBurst then (p, c)
  else ({ p with mFlagForResendingInNextBurst := true },
    { c with mTotalPacketsToResend := c.mTotalPacketsToResend + 1 })

def consumeBaton : BufferedPacket × Counters :=
  if p.mHoldsBaton then (p, c)
  else if c.mAvailableBurstBatons = 0 then (p, c)
  else ({ p with mHoldsBaton := true }, { c with mAvailableBurstBatons := c.mAvailableBurstBatons - 1 })

def releaseBaton : BufferedPacket × Counters :=
  if ¬p.mHoldsBaton then (p, c)
  else ({ p with mHoldsBaton := false }, { c with mAvailableBurstBatons := c.mAvailableBurstBatons + 1 })

def flagAsReceivedByRemoteParty : BufferedPacket × Counters :=
  let r := p.doNotResend c
  let r := r.1.releaseBaton r.2
  ({ r.1 with mPacket := none }, r.2)

end BufferedPacket

/-- A timer that runs. -/
structure Timer where
  mID : Nat
  mDuration : Int
  deriving DecidableEq, Repr

/-- The window of packets received. -/
structure ReceiveWindow where
  mGSNR : Nat
  mGSNFR : Nat
  mGSNRParity : Bool
  mXORedParityToGSNFR : Bool
  mReceivedPackets : List BufferedPacket
  deriving DecidableEq, Repr

/-- The window of packets sent. A packet taken out of the map goes to the removed ones, where a
`sendNow` that holds a pointer to it still finds it. -/
structure SendWindow extends Counters where
  mNextSequenceNumber : Nat
  mXORedParityToNow : Bool
  mSendingPackets : List BufferedPacket
  mRemovedPackets : List BufferedPacket
  deriving DecidableEq, Repr

/-- The pace of sending: round trip time, timers, and the acknowledgement that is forced. -/
structure Pacing where
  mMinimumRTT : Int
  mCalculatedRTT : Int
  mPacketsPerBurst : Nat
  mBandwidthIncreaseFrozen : Bool
  mStartedSendingAtTime : Int
  mTotalSendingPeriodWithoutIssues : Int
  mBurstTimer : Option Timer
  mEnsureDataHasArrivedWhenNoMoreBurstBatonsAvailableTimer : Option Timer
  mAddToAvailableBurstBatonsTimer : Option Timer
  mAddToAvailableBurstBatonsDuation : Int
  mForceACKOfSentPacketsAtSendingSequnceNumber : Nat
  mForceACKOfSentPacketsRequestID : Nat
  mForceACKNextTimePossible : Bool
  /-- The next identifier that `createPUID` gives. -/
  nextPUID : Nat
  deriving DecidableEq, Repr

inductive RUDPChannelStreamStates where
  | connected | directionalShutdown | shuttingDown | shutdown
  deriving DecidableEq, Repr

inductive RUDPChannelStreamShutdownReasons where
  | none | openFailure | delegateGone | timeout | illegalStreamState
  deriving DecidableEq, Repr

/-- The directions of a stream that are shut down. -/
structure Shutdown where
  send : Bool
  receive : Bool
  deriving DecidableEq, Repr

structure RUDPChannelStream extends ReceiveWindow, SendWindow, Pacing where
  /-- The delegate is there until the stream is cancelled. -/
  mDelegate : Bool
  mCurrentState : RUDPChannelStreamStates
  mLastError : RUDPChannelStreamShutdownReasons
  mLastErrorReason : String
  mShutdownState : Shutdown
  mReceiveStream : Option (TransportStream Unit)
  mSendStream : Option (TransportStream Unit)
  mPendingReceiveData : Option (List UInt8)
  mDidReceiveWriteReady : Bool
  mSendingChannelNumber : UInt16
  mReceivingChannelNumber : UInt16
  mWaitToSendUntilReceivedRemoteSequenceNumber : Nat
  mDuplicateReceived : Bool
  mECNReceived : Bool
  mLastDeliveredReadData : Int
  mAttemptingSendNow : Bool
  deriving DecidableEq, Repr

/-- What an acknowledgement says: on a data packet it is part of the header, else it comes in a
message of its own. -/
structure Ack where
  nextSequenceNumber : Nat
  gsnr : Nat
  gsnfr : Nat
  vector : List UInt8
  vpFlag : Bool
  pgFlag : Bool
  xpFlag : Bool
  dpFlag : Bool
  ecFlag : Bool
  deriving DecidableEq, Repr

inductive AckOutcome where
  | handled | illegalACK
  deriving DecidableEq, Repr

namespace RUDPChannelStream

def create (now : Int) (nextSequenceNumberToUseForSending nextSequenceNumberExpectingToReceive : Nat)
    (sendingChannelNumber receivingChannelNumber : UInt16) (minimumNegotiatedRTTInMilliseconds : Nat) :
    RUDPChannelStream where
  mGSNR := nextSequenceNumberExpectingToReceive - 1
  mGSNFR := nextSequenceNumberExpectingToReceive - 1
  mGSNRParity := false
  mXORedParityToGSNFR := false
  mReceivedPackets := []
  mTotalPacketsToResend := 0
  mAvailableBurstBatons := 1
  fault := false
  mNextSequenceNumber := nextSequenceNumberToUseForSending
  mXORedParityToNow := false
  mSendingPackets := []
  mRemovedPackets := []
  mMinimumRTT := milliseconds minimumNegotiatedRTTInMilliseconds
  mCalculatedRTT := max defaultCalculateRTT (milliseconds minimumNegotiatedRTTInMilliseconds)
  mPacketsPerBurst := defaultPacketsPerBurst
  mBandwidthIncreaseFrozen := false
  mStartedSendingAtTime := now
  mTotalSendingPeriodWithoutIssues := 0
  mBurstTimer := none
  mEnsureDataHasArrivedWhenNoMoreBurstBatonsAvailableTimer := none
  mAddToAvailableBurstBatonsTimer := none
  mAddToAvailableBurstBatonsDuation := defaultCalculateRTT
  mForceACKOfSentPacketsAtSendingSequnceNumber := 0
  mForceACKOfSentPacketsRequestID := 0
  mForceACKNextTimePossible := false
  nextPUID := 1
  mDelegate := true
  mCurrentState := .connected
  mLastError := .none
  mLastErrorReason := ""
  mShutdownState := ⟨false, false⟩
  mReceiveStream := none
  mSendStream := none
  mPendingReceiveData := some []
  mDidReceiveWriteReady := true
  mSendingChannelNumber := sendingChannelNumber
  mReceivingChannelNumber := receivingChannelNumber
  mWaitToSendUntilReceivedRemoteSequenceNumber := 0
  mDuplicateReceived := false
  mECNReceived := false
  mLastDeliveredReadData := now
  mAttemptingSendNow := false

variable (s : RUDPChannelStream)

def isShutdown : Bool := s.mCurrentState == .shutdown
def isShuttingDown : Bool := s.mCurrentState == .shuttingDown

/-- The delegate is told of every change of the state. -/
def setState (state : RUDPChannelStreamStates) : RUDPChannelStream :=
  if s.mCurrentState = state then s
  else { s with mCurrentState := state, fault := s.fault || !s.mDelegate }

/-- The first error is kept, and none that comes while the stream shuts down. -/
def setError (errorCode : RUDPChannelStreamShutdownReasons) (reason : String) : RUDPChannelStream :=
  if s.isShuttingDown ∨ s.isShutdown then s
  else if s.mLastError ≠ .none then s
  else { s with mLastError := errorCode, mLastErrorReason := reason }

def cancel : RUDPChannelStream :=
  if s.isShutdown then s else
  let s := s.setState .shutdown
  { s with
    mDelegate := false
    mRemovedPackets := s.mRemovedPackets ++ s.mSendingPackets
    mSendingPackets := []
    mReceivedPackets := []
    mReceiveStream := s.mReceiveStream.map TransportStream.cancel
    mSendStream := s.mSendStream.map TransportStream.cancel
    mBurstTimer := none
    mEnsureDataHasArrivedWhenNoMoreBurstBatonsAvailableTimer := none
    mAddToAvailableBurstBatonsTimer := none }

/-- How many buffers wait in the send stream. -/
def totalWriteBuffers : Nat := (s.mSendStream.map TransportStream.getTotalReadBuffersAvailable).getD 0

def closeOnAllDataSent : RUDPChannelStream :=
  if s.isShutdown then s
  else if ¬s.isShuttingDown then s
  else if s.totalWriteBuffers ≠ 0 ∨ s.mSendingPackets.length ≠ 0 then s
  else s.cancel

end RUDPChannelStream

end OpenPeer
