import OpenPeer.STUNPacketParse

/-!
# Reading from a TURN server over TCP

The read buffer of a server connection, the look-ahead for a STUN packet at its front,
and the loop that takes packets and channel data out of it after every read.
-/
namespace OpenPeer

open Bytes

inductive ParseLookAheadStates where
  | notSTUN | insufficientDataToDetermine | appearsSTUNButPacketNotFullyAvailable | stunPacket
  deriving DecidableEq, Repr

/-- What the look-ahead says, the packet it found and `outActualSizeInBytes`. -/
structure LookAhead where
  state : ParseLookAheadStates
  outSTUN : Option STUNPacket
  outActualSizeInBytes : Nat
  deriving DecidableEq, Repr

section LookAhead

variable (ext : Externals)

def messageTypeAt (packet : List UInt8) : UInt16 := UInt16.ofNat (ofBE (slice packet 0 2))

/-- The classes and methods that are understood, and of these the legal ones. -/
def isLegalMessageType (messageType : UInt16) (allowedRFC : UInt8) : Bool :=
  match Classes.ofCode (messageTypeClass messageType), Methods.ofCode (messageTypeMethod messageType) with
  | some tClass, some method => isLegalMethod method tClass allowedRFC
  | _, _ => false

def parseStreamIfSTUN (packet : List UInt8) (allowedRFC : UInt8) (allowRFC3489 : Bool) : Except Fault LookAhead :=
  let streamDataAvailableInBytes := packet.length
  let messageLengthInBytes := ofBE (slice packet 2 2)
  let outActualSizeInBytes := 20 + messageLengthInBytes
  let notSTUN : LookAhead := ⟨.notSTUN, none, 0⟩
  let insufficient : LookAhead := ⟨.insufficientDataToDetermine, none, 0⟩
  if streamDataAvailableInBytes < 1 then .ok insufficient
  else if packet.headD 0 &&& 0xC0 ≠ 0 then .ok notSTUN
  else if streamDataAvailableInBytes < 2 then .ok insufficient
  else if !isLegalMessageType (messageTypeAt packet) allowedRFC then .ok notSTUN
  else if streamDataAvailableInBytes < 4 then .ok insufficient
  else if messageLengthInBytes % 4 ≠ 0 then .ok notSTUN
  else if streamDataAvailableInBytes < 8 then .ok insufficient
  else if !allowRFC3489 ∧ UInt32.ofNat (ofBE (slice packet 4 4)) ≠ STUNPacket.magicCookie then .ok notSTUN
  -- from here on the size is given to the caller, also when the packet is not there yet
  else if streamDataAvailableInBytes < 20 then
    .ok ⟨.appearsSTUNButPacketNotFullyAvailable, none, outActualSizeInBytes⟩
  else if streamDataAvailableInBytes < outActualSizeInBytes then
    .ok ⟨.appearsSTUNButPacketNotFullyAvailable, none, outActualSizeInBytes⟩
  else
    match parseIfSTUN ext (packet.take outActualSizeInBytes) allowedRFC allowRFC3489 with
    | .ok stun => .ok ⟨.stunPacket, some stun, outActualSizeInBytes⟩
    | .error .notSTUN => .ok notSTUN
    | .error (.fault f) => .error f

end LookAhead

/-- `OPENPEER_SERVICES_TURN_MAX_CHANNEL_DATA_IN_BYTES` -/
def maxChannelData : Nat := 65535

/-- `sizeof(mReadBuffer)` -/
def readBufferSize : Nat := maxChannelData + 4

/-- `OPENPEER_SERVICES_TURNSOCKET_RECYCLE_BUFFER_SIZE` -/
def recycleBufferSize : Nat := 65536

/-- What is taken out of the read buffer: a packet with its bytes, or channel data with its padding. -/
inductive TURNFrame where
  | stun (bytes : List UInt8) (packet : STUNPacket)
  | channelData (channel : UInt16) (data padding : List UInt8)
  deriving DecidableEq, Repr

/-- The front of the read buffer: to be completed, a whole frame, bogus, or a throw. -/
inductive BufferFront where
  | incomplete
  | frame (f : TURNFrame) (size : Nat)
  | bogus
  | threw (fault : Fault)
  deriving DecidableEq, Repr

/-- What a taken frame leads to: a packet is given to the requester manager, data to the delegate. -/
inductive HandedOver where
  | requesterManager (stun : STUNPacket)
  | receivedPacket (peer : IPAddress) (data : List UInt8)
  deriving DecidableEq, Repr

/-- The channel numbers a socket limits itself to. -/
structure ChannelRange where
  mLimitChannelToRangeStart : UInt16 := 0x4000
  mLimitChannelToRangeEnd : UInt16 := 0x5FFF

/-- What the rest of the socket says when a frame is taken: whether the server is the active one,
whether the requester of a response takes it, and the channels there are. -/
structure TURNContext where
  isActiveServer : Bool
  requesterHandles : STUNPacket → Bool
  mChannelNumberMap : UInt16 → Option IPAddress

inductive ReaderStatus where
  | reading | bogusDataOnSocketReceived
  | threw (fault : Fault)
  deriving DecidableEq, Repr

/-- A server connection that is read: what the network still has, the filled part of the buffer, the
frames taken and what they led to. -/
structure TURNReader where
  pending : List UInt8
  mReadBuffer : List UInt8 := []
  taken : Nat := 0
  handedOver : List HandedOver := []
  status : ReaderStatus := .reading
  deriving DecidableEq, Repr

namespace TURNSocket

variable (ext : Externals) (range : ChannelRange)

/-- Channel data at the front of the read buffer. -/
def channelDataFront (buffer : List UInt8) : BufferFront :=
  let channel := UInt16.ofNat (ofBE (slice buffer 0 2))
  let length := ofBE (slice buffer 2 2)
  if buffer.length < 4 then .incomplete
  else if channel < range.mLimitChannelToRangeStart ∨ range.mLimitChannelToRangeEnd < channel ∨
      maxChannelData < length then .bogus
  else if buffer.length < 4 + dwordBoundary length then .incomplete
  else
    .frame (.channelData channel (slice buffer 4 length) (slice buffer (4 + length) (dwordBoundary length - length)))
      (4 + dwordBoundary length)

/-- What is at the front of the read buffer. -/
def bufferFront (buffer : List UInt8) : BufferFront :=
  match parseStreamIfSTUN ext buffer RFCs.rfc5766TURN.bit false with
  | .error f => .threw f
  | .ok ahead =>
    if ahead.outActualSizeInBytes ≠ 0 ∧ ahead.outSTUN.isNone then .threw .invalidAssumption
    else if ahead.outActualSizeInBytes ≠ 0 ∧ recycleBufferSize < ahead.outActualSizeInBytes then
      .threw .invalidAssumption
    else
      match ahead.state, ahead.outSTUN with
      | .notSTUN, _ => channelDataFront range buffer
      | .stunPacket, some stun =>
        .frame (.stun (buffer.take ahead.outActualSizeInBytes) stun) ahead.outActualSizeInBytes
      | _, _ => .incomplete

/-- `ISTUNRequesterManager::handleSTUNPacket`: requests and indications are never taken. -/
def managerHandles (context : TURNContext) (stun : STUNPacket) : Bool :=
  if stun.mClass = .request ∨ stun.mClass = .indication then false else context.requesterHandles stun

/-- What a frame that was taken leads to. -/
def handOver (context : TURNContext) : TURNFrame → List HandedOver
  | .channelData channel data _ =>
    match context.mChannelNumberMap channel with
    | none => []
    | some peer => [.receivedPacket peer data]
  | .stun _ stun =>
    .requesterManager stun ::
      if managerHandles context stun then []
      else
        match stun.mClass with
        | .indication =>
          if stun.mMethod ≠ .data then []
          else if !stun.isLegal ext .rfc5766TURN then []
          else if !context.isActiveServer then []
          else [.receivedPacket (stun.mPeerAddressList.headD .empty) (stun.mData.getD [])]
        | _ => []

/-- The loop over what is in the read buffer; `context` is asked anew for every frame. -/
def parseBuffer (context : Nat → TURNContext) : Nat → TURNReader → TURNReader
  | 0, s => s
  | fuel + 1, s =>
    match bufferFront ext range s.mReadBuffer with
    | .incomplete => s
    | .bogus => { s with status := .bogusDataOnSocketReceived }
    | .threw fault => { s with status := .threw fault }
    | .frame f size =>
      parseBuffer context fuel
        { s with
          mReadBuffer := s.mReadBuffer.drop size
          taken := s.taken + 1
          handedOver := s.handedOver ++ handOver ext (context s.taken) f }

/-- What a read brings when the socket has `n` bytes: no more than there is room for. -/
def bytesRead (s : TURNReader) (n : Nat) : Nat := min n (min (readBufferSize - s.mReadBuffer.length) s.pending.length)

/-- A read, and the buffer is parsed when it brought anything. -/
def onReadReady (context : Nat → TURNContext) (s : TURNReader) (n : Nat) : TURNReader :=
  if s.status ≠ .reading then s
  else if bytesRead s n = 0 then s
  else
    parseBuffer ext range context (s.mReadBuffer.length + bytesRead s n)
      { s with
        pending := s.pending.drop (bytesRead s n)
        mReadBuffer := s.mReadBuffer ++ s.pending.take (bytesRead s n) }

end TURNSocket

end OpenPeer
