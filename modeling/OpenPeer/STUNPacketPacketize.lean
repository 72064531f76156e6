import OpenPeer.STUNPacketParse

/-!
# Writing a STUN packet

The length of every attribute is computed in advance, a buffer of zeros of that size is
allocated, and the attributes are written into it one after the other. Every write checks
that it is inside of the buffer. The writer also remembers the headers it wrote.
-/
namespace OpenPeer

open Bytes

/-- The buffer, the position the next attribute is written at, and of each header written its
position, its attribute and its length. -/
structure PacketWriter where
  packet : List UInt8
  pos : Nat
  headers : List (Nat × Attributes × Nat) := []
  deriving DecidableEq, Repr

/-- Write bytes over those of a buffer. -/
def writeAt (packet : List UInt8) (pos : Nat) (bytes : List UInt8) : Except Fault (List UInt8) :=
  if pos + bytes.length ≤ packet.length then .ok (overwrite packet pos bytes) else .error .outOfBounds

/-- The bytes of a buffer that are hashed or copied. -/
def readBuffer (packet : List UInt8) (pos n : Nat) : Except Fault (List UInt8) :=
  if pos + n ≤ packet.length then .ok (slice packet pos n) else .error .outOfBounds

section Lengths

variable (ext : Externals)

/-- The length of the value of an address. -/
def addressLength (address : IPAddress) : Nat := 4 + if ext.isIPv4 address then 32 / 8 else 128 / 8

/-- The length of the value of an attribute. More than one peer address, and the two congestion
control lists, are attributes of their own: the headers between them are counted as well. -/
def getActualAttributeLength (stun : STUNPacket) : Attributes → Nat
  | .mappedAddress | .xorMappedAddress => addressLength ext stun.mMappedAddress
  | .username => stun.mUsername.length
  | .messageIntegrity => 20
  | .errorCode => 4 + stun.mReason.length
  | .unknownAttribute => stun.mUnknownAttributes.length * 2
  | .realm => stun.mRealm.length
  | .nonce => stun.mNonce.length
  | .software => stun.mSoftware.length
  | .alternateServer => addressLength ext stun.mAlternateServer
  | .fingerPrint | .channelNumber | .lifetime | .requestedTransport | .priority | .minimumRTT | .rudpFlags => 4
  -- asked only of a packet that has a peer address
  | .xorPeerAddress => (stun.mPeerAddressList.map (addressLength ext)).sum + (stun.mPeerAddressList.length - 1) * 4
  | .data => (stun.mData.getD []).length
  | .xorRelayedAddress => addressLength ext stun.mRelayedAddress
  | .evenPort => 1
  | .reservationToken | .iceControlled | .iceControlling | .nextSequenceNumber | .gsnr | .gsnfr => 8
  | .connectionInfo => stun.mConnectionInfo.length
  | .congestionControl =>
    let bothPresent := decide (stun.mLocalCongestionControl.length > 0) && decide (stun.mRemoteCongestionControl.length > 0)
    let lengthLocal := if stun.mLocalCongestionControl.length > 0 then 2 + 2 * stun.mLocalCongestionControl.length else 0
    let lengthRemote := if stun.mRemoteCongestionControl.length > 0 then 2 + 2 * stun.mRemoteCongestionControl.length else 0
    (if bothPresent then 4 else 0) + lengthLocal + lengthRemote
  | .ackVector => stun.mACKVector.length
  | _ => 0

/-- An attribute that the packet has is written when it is legal, and when it is required or need
not be kept out of a response. -/
def shouldPacketizeAttribute (stun : STUNPacket) (rfc : RFCs) (attr : Attributes) : Bool :=
  if !isAttributeLegal ext stun rfc attr then false
  else if isAttributeRequired ext stun rfc attr then true
  else
    match stun.mClass, attr with
    | .response, .username | .response, .realm | .errorResponse, .username => false
    | .errorResponse, .realm => stun.mErrorCode = 401 ∨ stun.mErrorCode = 438
    | _, _ => true

/-- The length of an attribute with its header, when it is written. -/
def packetizeAttributeLength (stun : STUNPacket) (rfc : RFCs) (attr : Attributes) : Nat :=
  if !stun.hasAttribute ext attr then 0
  else if !shouldPacketizeAttribute ext stun rfc attr then 0
  else 4 + dwordBoundary (getActualAttributeLength ext stun attr)

/-- `outPacketLengthInBytes` -/
def packetLengthInBytes (stun : STUNPacket) (rfc : RFCs) : Nat :=
  20 + (gAttributeOrdering.map (packetizeAttributeLength ext stun rfc)).sum

namespace STUNPacket

/-- What room there is for data in a packet of a size. -/
def getTotalRoomAvailableForData (stun : STUNPacket) (maxPacketSizeInBytes : Nat) (rfc : RFCs) : Nat :=
  let packetLengthInBytes := packetLengthInBytes ext stun rfc
  if maxPacketSizeInBytes < packetLengthInBytes then 0
  else if maxPacketSizeInBytes - packetLengthInBytes < 8 then 0
  else maxPacketSizeInBytes - packetLengthInBytes - 4

end STUNPacket

end Lengths

section Writers

variable (ext : Externals)

def packetizeAttributeHeader (attr : Attributes) (attributeLength : Nat) (w : PacketWriter) : Except Fault PacketWriter := do
  let packet ← writeAt w.packet w.pos (toBE 2 attr.toCode.toNat)
  let packet ← writeAt packet (w.pos + 2) (toBE 2 attributeLength)
  return { packet := packet, pos := w.pos + 4, headers := w.headers ++ [(w.pos, attr, attributeLength)] }

/-- An address, masked with the cookie of the header and what is behind it when it is to be. -/
def packetizeIPAddress (address : IPAddress) (xorMagicCookie : UInt32) (xored : Bool) (packet : List UInt8) (pos : Nat) :
    Except Fault (List UInt8) := do
  let port := (ext.getPort address).toUInt32 ^^^ ((xorMagicCookie &&& 0xFFFF0000) >>> 16)
  let packet ← writeAt packet (pos + 1) [if ext.isIPv4 address then 0x01 else 0x02]
  let packet ← writeAt packet (pos + 2) (toBE 2 port.toNat)
  if ext.isIPv4 address then
    writeAt packet (pos + 4) (toBE 4 (ext.getIPv4AddressAsDWORD address ^^^ xorMagicCookie).toNat)
  else
    let packet ← writeAt packet (pos + 4) (ext.getIPv6Address address).toList
    if xored then
      let mask ← readBuffer packet 4 16
      writeAt packet (pos + 4) ((ext.getIPv6Address address).toList.zipWith (· ^^^ ·) mask)
    else return packet

/-- The peer addresses, each with a header of its own. -/
def packetizePeerAddresses (magicCookie : UInt32) : List IPAddress → PacketWriter → Except Fault PacketWriter
  | [], w => .ok w
  | address :: addresses, w => do
    let attributeLength := addressLength ext address
    let w ← packetizeAttributeHeader .xorPeerAddress attributeLength w
    let packet ← packetizeIPAddress ext address magicCookie true w.packet w.pos
    packetizePeerAddresses magicCookie addresses
      { w with packet := packet, pos := w.pos + dwordBoundary attributeLength }

/-- The integrity of what is before it, for a message that ends with it: the length of the header is
replaced while that is hashed. -/
def packetizeMessageIntegrity (stun : STUNPacket) (attributeStart : Nat) (packet : List UInt8) (pos : Nat) :
    Except Fault (List UInt8) :=
  match stun.mCredentialMechanism with
  | .none => .ok packet
  | mechanism => do
    let login := if mechanism = .longTerm then stun.mUsername ++ [0x3A] ++ stun.mRealm ++ [0x3A] else []
    let originalLength ← readBuffer packet 2 2
    let smashed ← writeAt packet 2 (toBE 2 (attributeStart + 4 + 20 - 20))
    let covered ← readBuffer smashed 0 attributeStart
    let packet ← writeAt smashed 2 originalLength
    writeAt packet pos (ext.hmacSHA1 (ext.md5 (login ++ stun.mPassword)) covered).toList

def packetizeErrorCode (stun : STUNPacket) (packet : List UInt8) (pos : Nat) : Except Fault (List UInt8) := do
  let hundreds := stun.mErrorCode.toNat / 100
  let tensOnes := stun.mErrorCode.toNat % 100
  let packet ← writeAt packet (pos + 2) (toBE 2 (hundreds <<< 8 ||| tensOnes))
  writeAt packet (pos + 4) stun.mReason

/-- Words one behind the other. -/
def packetizeWORDs (words : List UInt16) (packet : List UInt8) (pos : Nat) : Except Fault (List UInt8) :=
  match words with
  | [] => .ok packet
  | word :: words => do
    let packet ← writeAt packet pos (toBE 2 word.toNat)
    packetizeWORDs words packet (pos + 2)

def packetizeFingerprint (attributeStart : Nat) (packet : List UInt8) (pos : Nat) : Except Fault (List UInt8) := do
  let covered ← readBuffer packet 0 attributeStart
  writeAt packet pos (toBE 4 (ext.crc32 covered ^^^ 0x5354554e).toNat)

/-- A list of congestion control algorithms: nothing fills it up to a whole number of words. -/
def packetizeCongestionControl (list : List UInt16) (directionBit : Bool) (w : PacketWriter) : Except Fault PacketWriter :=
  if list.length < 1 then .ok w
  else do
    let w ← packetizeAttributeHeader .congestionControl (2 + 2 * list.length) w
    let packet ← writeAt w.packet w.pos (toBE 2 0)
    let packet ← writeAt packet w.pos [if directionBit then 0x80 else 0x00]
    let packet ← packetizeWORDs list packet (w.pos + 2)
    return { w with packet := packet, pos := w.pos + 2 + 2 * list.length }

/-- The value of an attribute that has one header. -/
def packetizeValue (stun : STUNPacket) (attr : Attributes) (attributeStart : Nat) (packet : List UInt8) (pos : Nat) :
    Except Fault (List UInt8) :=
  match attr with
  | .mappedAddress => packetizeIPAddress ext stun.mMappedAddress 0 false packet pos
  | .username => writeAt packet pos stun.mUsername
  | .messageIntegrity => packetizeMessageIntegrity ext stun attributeStart packet pos
  | .errorCode => packetizeErrorCode stun packet pos
  | .unknownAttribute => packetizeWORDs stun.mUnknownAttributes packet pos
  | .realm => writeAt packet pos stun.mRealm
  | .nonce => writeAt packet pos stun.mNonce
  | .xorMappedAddress => packetizeIPAddress ext stun.mMappedAddress stun.mMagicCookie true packet pos
  | .software => writeAt packet pos stun.mSoftware
  | .alternateServer => packetizeIPAddress ext stun.mAlternateServer 0 false packet pos
  | .fingerPrint => packetizeFingerprint ext attributeStart packet pos
  | .channelNumber => writeAt packet pos (toBE 4 (stun.mChannelNumber.toUInt32 <<< 16).toNat)
  | .lifetime => writeAt packet pos (toBE 4 stun.mLifetime.toNat)
  | .data => writeAt packet pos (stun.mData.getD [])
  | .xorRelayedAddress => packetizeIPAddress ext stun.mRelayedAddress stun.mMagicCookie true packet pos
  | .evenPort => writeAt packet pos [if stun.mEvenPort then 0x80 else 0x00]
  | .requestedTransport => writeAt packet pos [stun.mRequestedTransport]
  | .reservationToken => writeAt packet pos stun.mReservationToken.toList
  | .priority => writeAt packet pos (toBE 4 stun.mPriority.toNat)
  | .iceControlled => writeAt packet pos (toBE 8 stun.mIceControlled.toNat)
  | .iceControlling => writeAt packet pos (toBE 8 stun.mIceControlling.toNat)
  | .nextSequenceNumber => writeAt packet pos (toBE 8 stun.mNextSequenceNumber.toNat)
  | .minimumRTT => writeAt packet pos (toBE 4 stun.mMinimumRTT.toNat)
  | .connectionInfo => writeAt packet pos stun.mConnectionInfo
  | .gsnr => writeAt packet pos (toBE 8 stun.mGSNR.toNat)
  | .gsnfr => writeAt packet pos (toBE 8 stun.mGSNFR.toNat)
  | .rudpFlags => do
    let packet ← writeAt packet pos (toBE 4 0)
    writeAt packet pos [stun.mReliabilityFlags]
  | .ackVector => writeAt packet pos stun.mACKVector
  | _ => .ok packet

def packetizeAttribute (stun : STUNPacket) (rfc : RFCs) (w : PacketWriter) (attr : Attributes) : Except Fault PacketWriter :=
  if !stun.hasAttribute ext attr then .ok w
  else if !shouldPacketizeAttribute ext stun rfc attr then .ok w
  else
    match attr with
    | .xorPeerAddress => packetizePeerAddresses ext stun.mMagicCookie stun.mPeerAddressList w
    | .congestionControl => do
      let w ← packetizeCongestionControl stun.mLocalCongestionControl false w
      packetizeCongestionControl stun.mRemoteCongestionControl true w
    | attr => do
      let attributeLength := getActualAttributeLength ext stun attr
      let v ← packetizeAttributeHeader attr attributeLength w
      let packet ← packetizeValue ext stun attr w.pos v.packet v.pos
      return { v with packet := packet, pos := v.pos + dwordBoundary attributeLength }

/-- The two bits of the class and the twelve of the method. -/
def STUNPacket.messageType (stun : STUNPacket) : UInt16 :=
  let tClass := UInt16.ofNat stun.mClass.toCode
  let method := UInt16.ofNat stun.mMethod.toCode
  ((0x02 &&& tClass) <<< 7) ||| ((0x01 &&& tClass) <<< 4) |||
    (((0xF80 &&& method) <<< 2) ||| ((0x70 &&& method) <<< 1) ||| (0xF &&& method))

/-- The buffer with the header of the message. -/
def packetizeHeader (stun : STUNPacket) (rfc : RFCs) : Except Fault PacketWriter := do
  let packet := zeros (packetLengthInBytes ext stun rfc)
  let packet ← writeAt packet 0 (toBE 2 stun.messageType.toNat)
  let packet ← writeAt packet 2 (toBE 2 (packetLengthInBytes ext stun rfc - 20))
  let packet ← writeAt packet 4 (toBE 4 stun.mMagicCookie.toNat)
  let packet ← writeAt packet 8 stun.mTransactionID.toList
  return { packet := packet, pos := 20 }

/-- The writing of a packet: the header and the attributes in their order. The buffer it leaves is
the packet, and the original packet of `stun` from then on. -/
def STUNPacket.packetize (stun : STUNPacket) (rfc : RFCs) : Except Fault PacketWriter := do
  let w ← packetizeHeader ext stun rfc
  gAttributeOrdering.foldlM (packetizeAttribute ext stun rfc) w

end Writers

end OpenPeer
