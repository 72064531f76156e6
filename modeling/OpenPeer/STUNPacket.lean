import OpenPeer.Bytes

/-!
# The STUN packet

The packet record, which attributes it has, which of them a method, a class and an
RFC allow or require, and the RFC a packet is taken to follow.
-/
namespace OpenPeer

open Bytes

inductive Classes where
  | request | indication | response | errorResponse
  deriving DecidableEq, Repr

inductive Methods where
  | binding
  | allocate | refresh | send | data | createPermission | channelBind
  | reliableChannelOpen | reliableChannelACK
  deriving DecidableEq, Repr

inductive Attributes where
  | mappedAddress | username | messageIntegrity | errorCode | unknownAttribute | realm | nonce
  | xorMappedAddress | software | alternateServer | fingerPrint
  | channelNumber | lifetime | xorPeerAddress | data | xorRelayedAddress | evenPort
  | requestedTransport | dontFragment | reservationToken
  | priority | useCandidate | iceControlled | iceControlling
  | nextSequenceNumber | minimumRTT | connectionInfo | congestionControl | gsnr | gsnfr
  | rudpFlags | ackVector
  | reservedResponseAddress | reservedChangeAddress | reservedSourceAddress
  | reservedChangedAddress | reservedPassword | reservedReflectedFrom
  deriving DecidableEq, Repr

inductive CredentialMechanisms where
  | none | shortTerm | longTerm
  deriving DecidableEq, Repr

/-- One RFC; a set of them is the byte of their bits. -/
inductive RFCs where
  | rfc3489STUN | rfc5389STUN | rfc5766TURN | rfc5245ICE | draftRUDP
  deriving DecidableEq, Repr

def RFCs.bit : RFCs → UInt8
  | .rfc3489STUN => 0x01
  | .rfc5389STUN => 0x02
  | .rfc5766TURN => 0x04
  | .rfc5245ICE => 0x08
  | .draftRUDP => 0x10

theorem RFCs.bit_and_eq (rfc : RFCs) {allowedRFCs : UInt8} (h : rfc.bit &&& allowedRFCs ≠ 0) :
    rfc.bit &&& allowedRFCs = rfc.bit := by
  have hall : ∀ allowed : UInt8, rfc.bit &&& allowed ≠ 0 → rfc.bit &&& allowed = rfc.bit := by
    cases rfc <;> exact forall_byte (by decide +kernel)
  exact hall allowedRFCs h

/-- `RFC_AllowAll` -/
def allowAll : UInt8 := 0x1F

def Classes.toCode : Classes → Nat
  | .request => 0x00
  | .indication => 0x01
  | .response => 0x02
  | .errorResponse => 0x03

def Classes.ofCode : Nat → Option Classes
  | 0x00 => some .request
  | 0x01 => some .indication
  | 0x02 => some .response
  | 0x03 => some .errorResponse
  | _ => none

def Methods.toCode : Methods → Nat
  | .binding => 0x0001
  | .allocate => 0x0003
  | .refresh => 0x0004
  | .send => 0x0006
  | .data => 0x0007
  | .createPermission => 0x0008
  | .channelBind => 0x0009
  | .reliableChannelOpen => 0x0174
  | .reliableChannelACK => 0x0175

/-- The method of a number; the numbers that are none have no RFC that allows them. -/
def Methods.ofCode : Nat → Option Methods
  | 0x0001 => some .binding
  | 0x0003 => some .allocate
  | 0x0004 => some .refresh
  | 0x0006 => some .send
  | 0x0007 => some .data
  | 0x0008 => some .createPermission
  | 0x0009 => some .channelBind
  | 0x0174 => some .reliableChannelOpen
  | 0x0175 => some .reliableChannelACK
  | _ => none

def Attributes.toCode : Attributes → UInt16
  | .mappedAddress => 0x0001
  | .username => 0x0006
  | .messageIntegrity => 0x0008
  | .errorCode => 0x0009
  | .unknownAttribute => 0x000A
  | .realm => 0x0014
  | .nonce => 0x0015
  | .xorMappedAddress => 0x0020
  | .software => 0x8022
  | .alternateServer => 0x8023
  | .fingerPrint => 0x8028
  | .channelNumber => 0x000C
  | .lifetime => 0x000D
  | .xorPeerAddress => 0x0012
  | .data => 0x0013
  | .xorRelayedAddress => 0x0016
  | .evenPort => 0x0018
  | .requestedTransport => 0x0019
  | .dontFragment => 0x001A
  | .reservationToken => 0x0022
  | .priority => 0x0024
  | .useCandidate => 0x0025
  | .iceControlled => 0x8029
  | .iceControlling => 0x802A
  | .nextSequenceNumber => 0x1740
  | .minimumRTT => 0x1741
  | .connectionInfo => 0x1742
  | .congestionControl => 0x1743
  | .gsnr => 0x1744
  | .gsnfr => 0x1745
  | .rudpFlags => 0x1746
  | .ackVector => 0x1747
  | .reservedResponseAddress => 0x0002
  | .reservedChangeAddress => 0x0003
  | .reservedSourceAddress => 0x0004
  | .reservedChangedAddress => 0x0005
  | .reservedPassword => 0x0007
  | .reservedReflectedFrom => 0x000B

/-- The attributes in the order they are written and checked. -/
def gAttributeOrdering : List Attributes :=
  [.mappedAddress, .username, .errorCode, .unknownAttribute, .realm, .nonce, .xorMappedAddress, .software,
    .alternateServer, .channelNumber, .lifetime, .xorPeerAddress, .xorRelayedAddress, .evenPort,
    .requestedTransport, .dontFragment, .reservationToken, .priority, .useCandidate, .iceControlled,
    .iceControlling, .data, .nextSequenceNumber, .minimumRTT, .connectionInfo, .congestionControl, .gsnr,
    .gsnfr, .rudpFlags, .ackVector, .messageIntegrity, .fingerPrint]

/-- The obsolete attributes, which are ignored. -/
def reservedAttributes : List Attributes :=
  [.reservedResponseAddress, .reservedChangeAddress, .reservedSourceAddress, .reservedChangedAddress,
    .reservedPassword, .reservedReflectedFrom]

def Attributes.ofCode (code : UInt16) : Option Attributes :=
  (gAttributeOrdering ++ reservedAttributes).find? fun a => a.toCode == code

@[simp] theorem Attributes.ofCode_toCode (a : Attributes) : Attributes.ofCode a.toCode = some a := by
  cases a <;> rfl

theorem Attributes.toCode_of_ofCode {code : UInt16} {a : Attributes} (h : Attributes.ofCode code = some a) :
    a.toCode = code := by
  have := List.find?_some h
  exact beq_iff_eq.mp this

/-- An address, by the constructor that made it; what it is asked is a matter of the library. -/
inductive IPAddress where
  | empty
  | ipv4 (address : UInt32) (port : UInt16)
  | ipv6 (address : Vector UInt8 16) (port : UInt16)
  deriving DecidableEq, Repr

/-- What the packet code uses of zsLib and Crypto++. -/
structure Externals where
  isAddressEmpty : IPAddress → Bool
  isIPv4 : IPAddress → Bool
  getIPv4AddressAsDWORD : IPAddress → UInt32
  getIPv6Address : IPAddress → Vector UInt8 16
  getPort : IPAddress → UInt16
  lengthUnicodeSafe : List UInt8 → Nat
  crc32 : List UInt8 → UInt32
  md5 : List UInt8 → List UInt8
  hmacSHA1 : List UInt8 → List UInt8 → Vector UInt8 20

/-- A packet. A string is its bytes, a pointer with a length is the bytes it points to. -/
structure STUNPacket where
  mOriginalPacket : Option (List UInt8) := none
  mClass : Classes := .request
  mMethod : Methods := .binding
  mErrorCode : UInt16 := 0
  mReason : List UInt8 := []
  mMagicCookie : UInt32 := 0x2112A442
  mTransactionID : Vector UInt8 12 := Vector.replicate 12 0
  mUnknownAttributes : List UInt16 := []
  mMappedAddress : IPAddress := .empty
  mAlternateServer : IPAddress := .empty
  mUsername : List UInt8 := []
  mPassword : List UInt8 := []
  mRealm : List UInt8 := []
  mNonce : List UInt8 := []
  mSoftware : List UInt8 := []
  mCredentialMechanism : CredentialMechanisms := .none
  mMessageIntegrityMessageLengthInBytes : Nat := 0
  mMessageIntegrity : Vector UInt8 20 := Vector.replicate 20 0
  mFingerprintIncluded : Bool := true
  mChannelNumber : UInt16 := 0
  mLifetimeIncluded : Bool := false
  mLifetime : UInt32 := 0
  mPeerAddressList : List IPAddress := []
  mRelayedAddress : IPAddress := .empty
  mData : Option (List UInt8) := none
  mEvenPortIncluded : Bool := false
  mEvenPort : Bool := true
  mRequestedTransport : UInt8 := 255
  mDontFragmentIncluded : Bool := false
  mReservationTokenIncluded : Bool := false
  mReservationToken : Vector UInt8 8 := Vector.replicate 8 0
  mPriorityIncluded : Bool := false
  mPriority : UInt32 := 0
  mUseCandidateIncluded : Bool := false
  mIceControlledIncluded : Bool := false
  mIceControlled : UInt64 := 0
  mIceControllingIncluded : Bool := false
  mIceControlling : UInt64 := 0
  mNextSequenceNumber : UInt64 := 0
  mMinimumRTTIncluded : Bool := false
  mMinimumRTT : UInt32 := 0
  mConnectionInfo : List UInt8 := []
  mGSNR : UInt64 := 0
  mGSNFR : UInt64 := 0
  mReliabilityFlagsIncluded : Bool := false
  mReliabilityFlags : UInt8 := 0
  mACKVector : List UInt8 := []
  mLocalCongestionControl : List UInt16 := []
  mRemoteCongestionControl : List UInt16 := []
  deriving DecidableEq, Repr

namespace STUNPacket

variable (ext : Externals)

def magicCookie : UInt32 := 0x2112A442

def isRFC3489 (stun : STUNPacket) : Bool := stun.mMagicCookie != magicCookie

def isRFC5389 (stun : STUNPacket) : Bool := stun.mMagicCookie == magicCookie

def hasAttribute (stun : STUNPacket) : Attributes → Bool
  | .mappedAddress => stun.isRFC3489 && !ext.isAddressEmpty stun.mMappedAddress
  | .username => !stun.mUsername.isEmpty
  | .messageIntegrity => stun.mMessageIntegrityMessageLengthInBytes != 0 || stun.mCredentialMechanism != .none
  | .errorCode => stun.mErrorCode != 0
  | .unknownAttribute => !stun.mUnknownAttributes.isEmpty
  | .realm => !stun.mRealm.isEmpty
  | .nonce => !stun.mNonce.isEmpty
  | .xorMappedAddress => !stun.isRFC3489 && !ext.isAddressEmpty stun.mMappedAddress
  | .software => !stun.mSoftware.isEmpty
  | .alternateServer => !ext.isAddressEmpty stun.mAlternateServer
  | .fingerPrint => stun.mFingerprintIncluded
  | .channelNumber => stun.mChannelNumber != 0
  | .lifetime => stun.mLifetimeIncluded
  | .xorPeerAddress => !stun.mPeerAddressList.isEmpty
  | .data => !(stun.mData.getD []).isEmpty
  | .xorRelayedAddress => !ext.isAddressEmpty stun.mRelayedAddress
  | .evenPort => stun.mEvenPortIncluded
  | .requestedTransport => stun.mRequestedTransport != 255
  | .dontFragment => stun.mDontFragmentIncluded
  | .reservationToken => stun.mReservationTokenIncluded
  | .priority => stun.mPriorityIncluded
  | .useCandidate => stun.mUseCandidateIncluded
  | .iceControlled => stun.mIceControlledIncluded
  | .iceControlling => stun.mIceControllingIncluded
  | .nextSequenceNumber => stun.mNextSequenceNumber != 0
  | .minimumRTT => stun.mMinimumRTTIncluded
  | .connectionInfo => !stun.mConnectionInfo.isEmpty
  | .congestionControl => !stun.mLocalCongestionControl.isEmpty || !stun.mRemoteCongestionControl.isEmpty
  | .gsnr => stun.mGSNR != 0
  | .gsnfr => stun.mGSNFR != 0
  | .rudpFlags => stun.mReliabilityFlagsIncluded
  | .ackVector => !stun.mACKVector.isEmpty
  | _ => false

end STUNPacket

section Legality

variable (ext : Externals)

def isComprehensionRequired (attributeType : UInt16) : Bool := decide (attributeType ≤ 0x7FFF)

/-- The RFCs that have a method. -/
def Methods.rfcBits : Methods → UInt8
  | .binding => 0x01 ||| 0x02 ||| 0x08
  | .allocate | .refresh | .send | .data | .createPermission | .channelBind => 0x04
  | .reliableChannelOpen | .reliableChannelACK => 0x10

def isLegalMethod (method : Methods) (tClass : Classes) (allowedRFCs : UInt8) : Bool :=
  if method.rfcBits &&& allowedRFCs = 0 then false
  else
    match tClass, method with
    | .indication, .binding | .indication, .send | .indication, .data | .indication, .reliableChannelACK => true
    | .indication, _ => false
    | _, .send | _, .data => false
    | _, _ => true

/-- The RFCs that have an attribute; the obsolete ones are known to all. -/
def Attributes.rfcBits : Attributes → UInt8
  | .mappedAddress => 0x01 ||| 0x02
  | .username | .messageIntegrity | .errorCode | .unknownAttribute => 0x01 ||| 0x02 ||| 0x04 ||| 0x08 ||| 0x10
  | .realm | .nonce | .alternateServer => 0x01 ||| 0x02 ||| 0x04 ||| 0x10
  | .xorMappedAddress => 0x02 ||| 0x04 ||| 0x08
  | .software | .fingerPrint => 0x02 ||| 0x04 ||| 0x08 ||| 0x10
  | .channelNumber | .lifetime => 0x04 ||| 0x10
  | .xorPeerAddress | .data | .xorRelayedAddress | .evenPort | .requestedTransport | .dontFragment
  | .reservationToken => 0x04
  | .priority | .useCandidate | .iceControlled | .iceControlling => 0x08
  | .nextSequenceNumber | .minimumRTT | .connectionInfo | .congestionControl | .gsnr | .gsnfr | .rudpFlags
  | .ackVector => 0x10
  | _ => 0

def isAttributeKnown (allowedRFCs : UInt8) (attr : Attributes) : Bool :=
  if attr ∈ reservedAttributes then true else allowedRFCs &&& attr.rfcBits != 0

def isAttributeLegal (stun : STUNPacket) (rfc : RFCs) (attr : Attributes) : Bool :=
  if !isLegalMethod stun.mMethod stun.mClass rfc.bit then false
  else if !isAttributeKnown rfc.bit attr then false
  else
    match attr with
    | .mappedAddress => stun.mClass = .response ∧ stun.mMethod = .binding
    | .username => stun.mClass ≠ .response ∧ stun.mClass ≠ .errorResponse
    | .messageIntegrity => stun.mMethod ≠ .send ∧ stun.mMethod ≠ .data
    | .errorCode => stun.mClass = .errorResponse
    | .unknownAttribute => stun.mClass = .errorResponse ∧ stun.mErrorCode = 420
    | .realm | .nonce => stun.mClass ≠ .response
    | .xorMappedAddress =>
      stun.mClass = .response ∧
        (rfc = .rfc5389STUN ∨ rfc = .rfc5245ICE ∨ (rfc = .rfc5766TURN ∧ stun.mMethod = .allocate))
    | .software => true
    | .alternateServer => stun.mClass = .errorResponse
    | .fingerPrint => true
    | .channelNumber =>
      if stun.mMethod = .channelBind then stun.mClass = .request
      else if stun.mMethod = .reliableChannelACK then
        stun.mClass = .request ∨ stun.mClass = .indication ∨ stun.mClass = .response
      else stun.mMethod = .reliableChannelOpen
    | .lifetime => stun.mMethod = .allocate ∨ stun.mMethod = .refresh ∨ stun.mMethod = .reliableChannelOpen
    | .xorPeerAddress =>
      stun.mMethod ≠ .allocate ∧ stun.mMethod ≠ .refresh ∧
        stun.mClass ≠ .response ∧ stun.mClass ≠ .errorResponse
    | .data => stun.mMethod = .send ∨ stun.mMethod = .data
    | .xorRelayedAddress => stun.mClass = .response ∧ stun.mMethod = .allocate
    | .evenPort =>
      stun.mMethod = .allocate ∧ stun.mClass = .request ∧ ¬stun.hasAttribute ext .reservationToken
    | .requestedTransport => stun.mMethod = .allocate ∧ stun.mClass = .request
    | .dontFragment =>
      stun.mMethod ≠ .refresh ∧ stun.mMethod ≠ .data ∧ stun.mMethod ≠ .createPermission ∧
        stun.mMethod ≠ .channelBind ∧ stun.mClass ≠ .response ∧ stun.mClass ≠ .errorResponse
    | .reservationToken =>
      stun.mMethod = .allocate ∧ stun.mClass ≠ .indication ∧ stun.mClass ≠ .errorResponse ∧
        ¬stun.hasAttribute ext .evenPort
    | .priority | .useCandidate => stun.mClass = .request
    | .iceControlled | .iceControlling =>
      stun.mClass = .request ∧ ¬(stun.mIceControlledIncluded ∧ stun.mIceControllingIncluded)
    | .nextSequenceNumber => true
    | .minimumRTT | .connectionInfo | .congestionControl => stun.mMethod = .reliableChannelOpen
    | .gsnr | .gsnfr | .rudpFlags | .ackVector => stun.mMethod = .reliableChannelACK
    | _ => true

/-- The packet must have the attribute, being what it is. -/
def isAttributeRequired (stun : STUNPacket) (rfc : RFCs) (attr : Attributes) : Bool :=
  if !isAttributeKnown rfc.bit attr then false
  else if !isAttributeLegal ext stun rfc attr then false
  else
    match attr with
    | .mappedAddress =>
      stun.mClass = .response ∧ (rfc = .rfc3489STUN ∨ (rfc = .rfc5389STUN ∧ stun.isRFC3489))
    | .username =>
      (stun.mClass = .request ∨ stun.mClass = .indication) ∧
        (stun.hasAttribute ext .messageIntegrity ∨ stun.mMethod = .reliableChannelACK)
    | .messageIntegrity =>
      ((stun.mClass = .request ∨ stun.mClass = .indication) ∧ stun.hasAttribute ext .username) ∨ rfc = .rfc5245ICE
    | .errorCode => stun.mClass = .errorResponse
    | .unknownAttribute => stun.mClass = .errorResponse ∧ stun.mErrorCode = 420
    | .realm | .nonce => false
    -- for another class the switch falls through to the case of SOFTWARE
    | .xorMappedAddress => (stun.mMethod = .binding ∨ stun.mMethod = .allocate) ∧ stun.mClass = .response
    | .software => false
    | .alternateServer => stun.mClass = .errorResponse ∧ stun.mErrorCode = 300
    | .fingerPrint => rfc = .rfc5245ICE ∧ stun.mClass ≠ .indication
    | .channelNumber =>
      match stun.mMethod with
      | .channelBind => stun.mClass = .request
      | .reliableChannelACK => stun.mClass = .request ∨ stun.mClass = .indication ∨ stun.mClass = .response
      | .reliableChannelOpen =>
        stun.mClass = .request ∨ (¬(stun.mLifetimeIncluded ∧ stun.mLifetime = 0) ∧ stun.mClass = .response)
      | _ => False
    | .lifetime => false
    | .xorPeerAddress =>
      stun.mMethod = .send ∨ stun.mMethod = .data ∨ stun.mMethod = .createPermission ∨ stun.mMethod = .channelBind
    | .data => stun.mMethod = .send ∨ stun.mMethod = .data
    | .xorRelayedAddress => stun.mMethod = .allocate ∧ stun.mClass ≠ .response
    | .evenPort => false
    | .requestedTransport => stun.mMethod = .allocate ∧ stun.mClass = .request
    | .dontFragment | .reservationToken => false
    | .priority => stun.mClass = .request
    | .useCandidate => false
    | .iceControlled | .iceControlling =>
      stun.mClass = .request ∧ ¬(stun.mIceControlledIncluded ∨ stun.mIceControllingIncluded)
    | .nextSequenceNumber =>
      (stun.mMethod = .reliableChannelOpen ∨ stun.mMethod = .reliableChannelACK) ∧
        ¬(stun.mLifetimeIncluded ∧ stun.mLifetime = 0) ∧ (stun.mClass = .request ∨ stun.mClass = .response)
    | .minimumRTT | .connectionInfo => false
    | .congestionControl =>
      stun.mMethod = .reliableChannelOpen ∧ stun.mClass = .request ∧
        ¬(stun.mLifetimeIncluded ∧ stun.mLifetime = 0)
    | .gsnr | .gsnfr | .rudpFlags => stun.mMethod = .reliableChannelACK ∧ stun.mClass ≠ .errorResponse
    | .ackVector => false
    | _ => false

namespace STUNPacket

/-- The RFC a packet seems to follow. -/
def guessRFCAny (stun : STUNPacket) : RFCs :=
  let stunRFC := if stun.isRFC5389 then RFCs.rfc5389STUN else .rfc3489STUN
  match stun.mMethod with
  | .binding =>
    if stun.hasAttribute ext .priority ∨ stun.hasAttribute ext .useCandidate ∨
        stun.hasAttribute ext .iceControlled ∨ stun.hasAttribute ext .iceControlling then .rfc5245ICE
    else if !stun.hasAttribute ext .messageIntegrity then stunRFC
    else .rfc5245ICE
  | .allocate | .refresh | .send | .data | .createPermission | .channelBind => .rfc5766TURN
  | .reliableChannelOpen | .reliableChannelACK => .draftRUDP

def guessRFC (stun : STUNPacket) (allowedRFCs : UInt8) : RFCs :=
  let guessedRFC := stun.guessRFCAny ext
  if guessedRFC.bit &&& allowedRFCs ≠ 0 then guessedRFC
  else if RFCs.rfc5389STUN.bit &&& allowedRFCs ≠ 0 ∧ stun.isRFC5389 then .rfc5389STUN
  else if RFCs.rfc3489STUN.bit &&& allowedRFCs ≠ 0 then .rfc3489STUN
  else if RFCs.rfc5245ICE.bit &&& allowedRFCs ≠ 0 then .rfc5245ICE
  else if RFCs.rfc5766TURN.bit &&& allowedRFCs ≠ 0 then .rfc5766TURN
  else if RFCs.draftRUDP.bit &&& allowedRFCs ≠ 0 then .draftRUDP
  else if stun.isRFC5389 then .rfc5389STUN
  else .rfc3489STUN

/-- Every attribute the packet has is legal, and it has every one that is required. -/
def isLegal (stun : STUNPacket) (rfc : RFCs) : Bool :=
  gAttributeOrdering.all fun attr =>
    if stun.hasAttribute ext attr then isAttributeLegal ext stun rfc attr
    else !isAttributeRequired ext stun rfc attr

end STUNPacket

end Legality

end OpenPeer
