import OpenPeer.STUNPacket

/-!
# Parsing a STUN packet

The parser reads through functions that fail outside of the bytes they are given, and
its throws are failures too; that a packet is none is a result of its own. Whatever the
bytes and the options are, no read is out of bounds and nothing is thrown.
-/
namespace OpenPeer

open Bytes

/-- What the program must not do: read or copy past the end of a buffer, or throw. -/
inductive Fault where
  | outOfBounds | badState | invalidAssumption | invalidUsage
  deriving DecidableEq, Repr

/-- Why a parse ends early: the bytes are no packet, or the parser is at fault. -/
inductive Stop where
  | notSTUN
  | fault (f : Fault)
  deriving DecidableEq, Repr

abbrev Parse (α : Type) := Except Stop α

section Reading

def rejectIf (c : Prop) [Decidable c] : Parse Unit := if c then .error .notSTUN else .ok ()

def throwIf (c : Prop) [Decidable c] (f : Fault) : Parse Unit := if c then .error (.fault f) else .ok ()

/-- The `n` bytes of a buffer from a position on. -/
def readAt (buffer : List UInt8) (pos n : Nat) : Parse (List UInt8) :=
  if pos + n ≤ buffer.length then .ok (slice buffer pos n) else .error (.fault .outOfBounds)

def readBYTE (buffer : List UInt8) (pos : Nat) : Parse UInt8 := do
  let bytes ← readAt buffer pos 1
  return UInt8.ofNat (ofBE bytes)

def readWORD (buffer : List UInt8) (pos : Nat) : Parse UInt16 := do
  let bytes ← readAt buffer pos 2
  return UInt16.ofNat (ofBE bytes)

def readDWORD (buffer : List UInt8) (pos : Nat) : Parse UInt32 := do
  let bytes ← readAt buffer pos 4
  return UInt32.ofNat (ofBE bytes)

/-- `parseQWORD` -/
def readQWORD (buffer : List UInt8) (pos : Nat) : Parse UInt64 := do
  let bytes ← readAt buffer pos 8
  return UInt64.ofNat (ofBE bytes)

/-- The bytes copied into an array of a fixed size. -/
def readArray (buffer : List UInt8) (pos n : Nat) : Parse (Vector UInt8 n) :=
  if h : pos + n ≤ buffer.length then .ok ⟨(slice buffer pos n).toArray, length_slice buffer pos n h⟩
  else .error (.fault .outOfBounds)

/-- The words of a buffer from a position on. -/
def readWORDs (buffer : List UInt8) (pos count : Nat) : Parse (List UInt16) :=
  (List.range count).mapM fun i => readWORD buffer (pos + 2 * i)

end Reading

/-- What the walk over the attributes has made of the packet so far. -/
structure ParseState where
  stun : STUNPacket
  foundIntegrity : Bool := false
  foundFingerprint : Bool := false
  deriving DecidableEq, Repr

section Parser

variable (ext : Externals)

def parseSTUNString (value : List UInt8) (maxLength : Nat) : Parse (List UInt8) := do
  rejectIf (maxLength * 6 < value.length)
  throwIf (513 * 6 + 1 < value.length) .outOfBounds
  let outValue := value.takeWhile (· != 0)
  rejectIf (maxLength < ext.lengthUnicodeSafe outValue)
  return outValue

/-- The address of an attribute; none when its family is not known. -/
def parseMappedAddress (packet value : List UInt8) (magicCookie : UInt32) (xored : Bool) :
    Parse (Option IPAddress) := do
  rejectIf (value.length < 4)
  let family ← readBYTE value 1
  let mappedPort ← readWORD value 2
  let port := mappedPort ^^^ ((magicCookie >>> 16) &&& 0xFFFF).toUInt16
  if family = 0x01 then
    rejectIf (value.length < 4 + 32 / 8)
    let ipAddress ← readDWORD value 4
    return some (.ipv4 (ipAddress ^^^ magicCookie) port)
  else if family = 0x02 then
    rejectIf (value.length < 4 + 128 / 8)
    throwIf (value.length < 16) .invalidAssumption
    -- the copy starts at the family, not behind it and the port
    let rawIP ← readArray value 0 16
    if xored then
      let cookie ← readArray packet 4 16
      return some (.ipv6 (rawIP.zipWith (· ^^^ ·) cookie) port)
    else
      return some (.ipv6 rawIP port)
  else
    return none

/-- The value of a known attribute is put into the packet; the second result says that it is to
be handled as unknown after all. -/
def parseAttribute (packet : List UInt8) (attributeStart : Nat) (attr : Attributes) (value : List UInt8)
    (w : ParseState) : Parse (ParseState × Bool) :=
  let stun := w.stun
  let known (stun : STUNPacket) : ParseState × Bool := ({ w with stun := stun }, false)
  match attr with
  | .mappedAddress => do
    let address ← parseMappedAddress packet value 0 false
    return ({ w with stun := { stun with mMappedAddress := address.getD .empty } }, address.isNone)
  | .alternateServer => do
    let address ← parseMappedAddress packet value 0 false
    return ({ w with stun := { stun with mAlternateServer := address.getD .empty } }, address.isNone)
  | .username => do
    let name ← parseSTUNString ext value 513
    return known { stun with mUsername := name }
  | .messageIntegrity => do
    rejectIf (value.length < 20)
    let integrity ← readArray value 0 20
    return ({ w with
      foundIntegrity := true
      stun := { stun with
        mMessageIntegrity := integrity
        mOriginalPacket := some packet
        mMessageIntegrityMessageLengthInBytes := attributeStart } }, false)
  | .errorCode => do
    rejectIf (value.length < 4)
    let code ← readWORD value 2
    let hundredsDigit := (0x700 &&& code) >>> 8
    let twoDigits := 0xFF &&& code
    if (hundredsDigit < 3 ∨ 6 < hundredsDigit) ∨ 99 < twoDigits then
      return (w, true)
    else
      let reason ← parseSTUNString ext (value.drop 4) 127
      return known { stun with mErrorCode := hundredsDigit * 100 + twoDigits, mReason := reason }
  | .unknownAttribute => do
    rejectIf (value.length % 2 ≠ 0)
    let words ← readWORDs value 0 (value.length / 2)
    return known { stun with mUnknownAttributes := stun.mUnknownAttributes ++ words }
  | .realm => do
    let realm ← parseSTUNString ext value 127
    return known { stun with mRealm := realm }
  | .nonce => do
    let nonce ← parseSTUNString ext value 127
    return known { stun with mNonce := nonce }
  | .xorMappedAddress => do
    let address ← parseMappedAddress packet value stun.mMagicCookie true
    return ({ w with stun := { stun with mMappedAddress := address.getD .empty } }, address.isNone)
  | .software => do
    let software ← parseSTUNString ext value 127
    return known { stun with mSoftware := software }
  | .fingerPrint => do
    rejectIf (value.length < 4)
    let covered ← readAt packet 0 attributeStart
    let crcValue ← readDWORD value 0
    rejectIf (ext.crc32 covered ^^^ 0x5354554e ≠ crcValue)
    return ({ w with foundFingerprint := true, stun := { stun with mFingerprintIncluded := true } }, false)
  | .channelNumber => do
    rejectIf (value.length < 2)
    let channel ← readWORD value 0
    return known { stun with mChannelNumber := channel }
  | .lifetime => do
    rejectIf (value.length < 4)
    let lifetime ← readDWORD value 0
    return known { stun with mLifetimeIncluded := true, mLifetime := lifetime }
  | .xorPeerAddress => do
    let address ← parseMappedAddress packet value stun.mMagicCookie true
    return ({ w with stun := { stun with mPeerAddressList := stun.mPeerAddressList ++ address.toList } },
      address.isNone)
  | .data => return known { stun with mData := some value }
  | .xorRelayedAddress => do
    let address ← parseMappedAddress packet value stun.mMagicCookie true
    return ({ w with stun := { stun with mRelayedAddress := address.getD .empty } }, address.isNone)
  | .evenPort => do
    rejectIf (value.length < 1)
    let byte ← readBYTE value 0
    return known { stun with mEvenPortIncluded := true, mEvenPort := (byte >>> 7) &&& 1 != 0 }
  | .requestedTransport => do
    rejectIf (value.length < 1)
    let byte ← readBYTE value 0
    return known { stun with mRequestedTransport := byte }
  | .dontFragment => return known { stun with mDontFragmentIncluded := true }
  | .reservationToken => do
    rejectIf (value.length < 8)
    let token ← readArray value 0 8
    return known { stun with mReservationToken := token }
  | .priority => do
    rejectIf (value.length < 4)
    let priority ← readDWORD value 0
    return known { stun with mPriorityIncluded := true, mPriority := priority }
  | .useCandidate => return known { stun with mUseCandidateIncluded := true }
  | .iceControlled => do
    rejectIf (value.length < 8)
    let number ← readQWORD value 0
    return known { stun with mIceControlledIncluded := true, mIceControlled := number }
  | .iceControlling => do
    rejectIf (value.length < 8)
    let number ← readQWORD value 0
    return known { stun with mIceControllingIncluded := true, mIceControlling := number }
  | .nextSequenceNumber => do
    rejectIf (value.length < 8)
    let number ← readQWORD value 0
    return known { stun with mNextSequenceNumber := number }
  | .minimumRTT => do
    rejectIf (value.length < 4)
    let rtt ← readDWORD value 0
    return known { stun with mMinimumRTTIncluded := true, mMinimumRTT := rtt }
  | .connectionInfo => do
    let info ← parseSTUNString ext value 127
    return known { stun with mConnectionInfo := info }
  | .congestionControl => do
    rejectIf (value.length < 4)
    rejectIf (value.length % 2 ≠ 0)
    let direction ← readBYTE value 0
    let words ← readWORDs value 2 ((value.length - 2) / 2)
    return known
      (if direction &&& 0x80 ≠ 0 then { stun with mRemoteCongestionControl := words }
      else { stun with mLocalCongestionControl := words })
  | .gsnr => do
    rejectIf (value.length < 8)
    let number ← readQWORD value 0
    return known { stun with mGSNR := number }
  | .gsnfr => do
    rejectIf (value.length < 8)
    let number ← readQWORD value 0
    return known { stun with mGSNFR := number }
  | .rudpFlags => do
    rejectIf (value.length < 1)
    let byte ← readBYTE value 0
    return known { stun with mReliabilityFlagsIncluded := true, mReliabilityFlags := byte }
  | .ackVector => do
    rejectIf (value.length < 1)
    return known { stun with mACKVector := value }
  | _ => return known stun

/-- The attribute of a type, when it is one to look at: behind the integrity only the fingerprint
is, behind the fingerprint nothing. -/
def handledAttribute (allowedRFCs : UInt8) (w : ParseState) (attributeType : UInt16) : Option Attributes :=
  match Attributes.ofCode attributeType with
  | none => none
  | some attr =>
    if !isAttributeKnown allowedRFCs attr then none
    else if w.foundIntegrity ∧ attr ≠ .fingerPrint then none
    else if w.foundFingerprint then none
    else some attr

/-- An attribute that was not understood is noted in the packet. -/
def STUNPacket.noteUnknown (stun : STUNPacket) (attributeType : UInt16) : STUNPacket :=
  { stun with
    mUnknownAttributes := stun.mUnknownAttributes ++ [attributeType]
    mErrorCode := if stun.mErrorCode = 0 ∧ isComprehensionRequired attributeType then 420 else stun.mErrorCode }

/-- One attribute of the walk. -/
def handleAttribute (allowedRFCs : UInt8) (packet : List UInt8) (attributeStart : Nat) (attributeType : UInt16)
    (value : List UInt8) (w : ParseState) : Parse ParseState :=
  match handledAttribute allowedRFCs w attributeType with
  | none => return w
  | some attr => do
    let (w', handleAsUnknownAttribute) ← parseAttribute ext packet attributeStart attr value w
    return if handleAsUnknownAttribute then { w' with stun := w'.stun.noteUnknown attributeType } else w'

/-- The loop over the attributes. -/
def parseAttributes (allowedRFCs : UInt8) (packet : List UInt8) (pos availableBytes : Nat) (w : ParseState) :
    Parse ParseState :=
  if _h : availableBytes = 0 then return w
  else do
    throwIf (availableBytes % 4 ≠ 0) .badState
    throwIf (availableBytes < 4) .badState
    let attributeType ← readWORD packet pos
    let attributeLength ← readWORD packet (pos + 2)
    let fullAttributeLength := dwordBoundary attributeLength.toNat
    rejectIf (availableBytes - 4 < fullAttributeLength)
    let value ← readAt packet (pos + 4) attributeLength.toNat
    let w' ← handleAttribute ext allowedRFCs packet pos attributeType value w
    parseAttributes allowedRFCs packet (pos + 4 + fullAttributeLength) (availableBytes - 4 - fullAttributeLength) w'
termination_by availableBytes

/-- What is said of an attribute once the RFC is guessed: it is there and illegal, or missing. -/
def STUNPacket.checkAttribute (guessedRFC : RFCs) (stun : STUNPacket) (attr : Attributes) : STUNPacket :=
  if stun.hasAttribute ext attr then
    if !isAttributeLegal ext stun guessedRFC attr then
      { stun with
        mErrorCode := if stun.mErrorCode = 0 then 420 else stun.mErrorCode
        mUnknownAttributes := stun.mUnknownAttributes ++ [attr.toCode] }
    else stun
  else if isAttributeRequired ext stun guessedRFC attr then
    match stun.mClass with
    | .request | .indication => { stun with mErrorCode := if stun.mErrorCode = 0 then 400 else stun.mErrorCode }
    | .response | .errorResponse =>
      if stun.mErrorCode = 0 then
        { stun with mErrorCode := 420, mUnknownAttributes := stun.mUnknownAttributes ++ [attr.toCode] }
      else stun
  else stun

def STUNPacket.checkAttributes (stun : STUNPacket) (allowedRFCs : UInt8) : STUNPacket :=
  gAttributeOrdering.foldl (checkAttribute ext (stun.guessRFC ext allowedRFCs)) stun

def messageTypeClass (messageType : UInt16) : Nat :=
  (((messageType &&& 0x100) >>> 7) ||| ((messageType &&& 0x10) >>> 4)).toNat

def messageTypeMethod (messageType : UInt16) : Nat :=
  (((messageType &&& 0x3E00) >>> 2) ||| ((messageType &&& 0xE0) >>> 1) ||| (messageType &&& 0xF)).toNat

def parseIfSTUN (packet : List UInt8) (allowedRFCs : UInt8) (allowRFC3489 : Bool) : Parse STUNPacket := do
  rejectIf (packet.length < 20)
  let first ← readBYTE packet 0
  rejectIf (first &&& 0xC0 ≠ 0)
  let magicCookie ← readDWORD packet 4
  rejectIf (!allowRFC3489 ∧ magicCookie ≠ STUNPacket.magicCookie)
  let messageType ← readWORD packet 0
  let messageLengthInBytes ← readWORD packet 2
  rejectIf (messageLengthInBytes &&& 0x3 ≠ 0)
  rejectIf (packet.length < 20 + messageLengthInBytes.toNat)
  rejectIf (messageLengthInBytes.toNat % 4 ≠ 0)
  let transactionID ← readArray packet 8 12
  match Classes.ofCode (messageTypeClass messageType), Methods.ofCode (messageTypeMethod messageType) with
  | some tClass, some method =>
    rejectIf (!isLegalMethod method tClass allowedRFCs)
    let stun : STUNPacket :=
      { mMagicCookie := magicCookie, mClass := tClass, mMethod := method, mTransactionID := transactionID }
    let w ← parseAttributes ext allowedRFCs packet 20 messageLengthInBytes.toNat { stun := stun }
    return w.stun.checkAttributes ext allowedRFCs
  | _, _ => .error .notSTUN

end Parser

section Safe

variable {α β : Type}

/-- A parse that ends with a packet or says there is none. -/
def Safe (p : Parse α) : Prop := ∀ f, p ≠ .error (.fault f)

theorem Safe.ok (a : α) : Safe (.ok a : Parse α) := fun _ h => nomatch h

theorem Safe.notSTUN : Safe (.error .notSTUN : Parse α) := fun _ h => nomatch h

theorem Safe.cases {p : Parse α} (h : Safe p) : (∃ a, p = .ok a) ∨ p = .error .notSTUN := by
  cases p with
  | ok a => exact .inl ⟨a, rfl⟩
  | error stop =>
    cases stop with
    | notSTUN => exact .inr rfl
    | fault f => exact absurd rfl (h f)

theorem Safe.bind {p : Parse α} {k : α → Parse β} (hp : Safe p) (hk : ∀ a, Safe (k a)) : Safe (p >>= k) := by
  intro f h
  cases p with
  | ok a => exact hk a f h
  | error stop =>
    cases h
    exact hp f rfl

theorem Safe.rejectIf_bind {c : Prop} [Decidable c] {k : Unit → Parse β} (hk : ¬c → Safe (k ())) :
    Safe (rejectIf c >>= k) := by
  unfold rejectIf
  by_cases hc : c
  · rw [if_pos hc]
    exact .notSTUN
  · rw [if_neg hc]
    exact hk hc

theorem Safe.throwIf_bind {c : Prop} [Decidable c] {f : Fault} {k : Unit → Parse β} (hc : ¬c) (hk : Safe (k ())) :
    Safe (throwIf c f >>= k) := by
  unfold throwIf
  rw [if_neg hc]
  exact hk

variable {buffer : List UInt8} {pos : Nat}

theorem safe_readAt {n : Nat} (h : pos + n ≤ buffer.length) : Safe (readAt buffer pos n) := by
  rw [readAt, if_pos h]
  exact .ok _

theorem safe_readBYTE (h : pos + 1 ≤ buffer.length) : Safe (readBYTE buffer pos) :=
  (safe_readAt h).bind fun _ => .ok _

theorem safe_readWORD (h : pos + 2 ≤ buffer.length) : Safe (readWORD buffer pos) :=
  (safe_readAt h).bind fun _ => .ok _

theorem safe_readDWORD (h : pos + 4 ≤ buffer.length) : Safe (readDWORD buffer pos) :=
  (safe_readAt h).bind fun _ => .ok _

theorem safe_readQWORD (h : pos + 8 ≤ buffer.length) : Safe (readQWORD buffer pos) :=
  (safe_readAt h).bind fun _ => .ok _

theorem safe_readArray {n : Nat} (h : pos + n ≤ buffer.length) : Safe (readArray buffer pos n) := by
  rw [readArray, dif_pos h]
  exact .ok _

theorem Safe.mapM {l : List α} {f : α → Parse β} (h : ∀ a ∈ l, Safe (f a)) : Safe (l.mapM f) := by
  induction l with
  | nil => exact .ok _
  | cons a l ih =>
    rw [List.mapM_cons]
    exact (h a List.mem_cons_self).bind fun _ =>
      (ih fun b hb => h b (List.mem_cons_of_mem _ hb)).bind fun _ => .ok _

theorem safe_readWORDs {count : Nat} (h : pos + 2 * count ≤ buffer.length) :
    Safe (readWORDs buffer pos count) := by
  refine .mapM fun i hi => safe_readWORD ?_
  have := List.mem_range.mp hi
  omega

variable (ext : Externals) (packet : List UInt8)

theorem safe_parseSTUNString (value : List UInt8) {maxLength : Nat} (h : maxLength ≤ 513) :
    Safe (parseSTUNString ext value maxLength) :=
  .rejectIf_bind fun _ => .throwIf_bind (by omega) (.rejectIf_bind fun _ => .ok _)

theorem safe_parseMappedAddress (hpacket : 20 ≤ packet.length) (value : List UInt8) (magicCookie : UInt32)
    (xored : Bool) : Safe (parseMappedAddress packet value magicCookie xored) := by
  refine .rejectIf_bind fun _ => (safe_readBYTE (by omega)).bind fun family =>
    (safe_readWORD (by omega)).bind fun mappedPort => ?_
  dsimp only
  split
  · exact .rejectIf_bind fun _ => (safe_readDWORD (by omega)).bind fun _ => .ok _
  · split
    · refine .rejectIf_bind fun _ => .throwIf_bind (by omega) ((safe_readArray (by omega)).bind fun _ => ?_)
      split
      · exact (safe_readArray (by omega)).bind fun _ => .ok _
      · exact .ok _
    · exact .ok _

theorem safe_parseAttribute {attributeStart : Nat} (hpacket : 20 ≤ packet.length)
    (hstart : attributeStart ≤ packet.length) (attr : Attributes) (value : List UInt8) (w : ParseState) :
    Safe (parseAttribute ext packet attributeStart attr value w) := by
  have hstring : ∀ value, Safe (parseSTUNString ext value 127) := fun value =>
    safe_parseSTUNString ext value (by decide)
  have haddress := safe_parseMappedAddress packet hpacket value
  cases attr with
  | mappedAddress | alternateServer | xorMappedAddress | xorPeerAddress | xorRelayedAddress =>
    exact (haddress _ _).bind fun _ => .ok _
  | username => exact (safe_parseSTUNString ext value (by decide)).bind fun _ => .ok _
  | realm | nonce | software | connectionInfo => exact (hstring value).bind fun _ => .ok _
  | messageIntegrity => exact .rejectIf_bind fun _ => (safe_readArray (by omega)).bind fun _ => .ok _
  | errorCode =>
    refine .rejectIf_bind fun _ => (safe_readWORD (by omega)).bind fun code => ?_
    dsimp only
    split
    · exact .ok _
    · exact (hstring _).bind fun _ => .ok _
  | unknownAttribute => exact .rejectIf_bind fun _ => (safe_readWORDs (by omega)).bind fun _ => .ok _
  | fingerPrint =>
    exact .rejectIf_bind fun _ => (safe_readAt (by omega)).bind fun _ =>
      (safe_readDWORD (by omega)).bind fun _ => .rejectIf_bind fun _ => .ok _
  | channelNumber => exact .rejectIf_bind fun _ => (safe_readWORD (by omega)).bind fun _ => .ok _
  | lifetime | priority | minimumRTT => exact .rejectIf_bind fun _ => (safe_readDWORD (by omega)).bind fun _ => .ok _
  | evenPort | requestedTransport | rudpFlags =>
    exact .rejectIf_bind fun _ => (safe_readBYTE (by omega)).bind fun _ => .ok _
  | reservationToken => exact .rejectIf_bind fun _ => (safe_readArray (by omega)).bind fun _ => .ok _
  | iceControlled | iceControlling | nextSequenceNumber | gsnr | gsnfr =>
    exact .rejectIf_bind fun _ => (safe_readQWORD (by omega)).bind fun _ => .ok _
  | congestionControl =>
    exact .rejectIf_bind fun _ => .rejectIf_bind fun _ => (safe_readBYTE (by omega)).bind fun _ =>
      (safe_readWORDs (by omega)).bind fun _ => .ok _
  | ackVector => exact .rejectIf_bind fun _ => .ok _
  | data | dontFragment | useCandidate | reservedResponseAddress | reservedChangeAddress | reservedSourceAddress
  | reservedChangedAddress | reservedPassword | reservedReflectedFrom => exact .ok _

theorem safe_handleAttribute {attributeStart : Nat} (hpacket : 20 ≤ packet.length)
    (hstart : attributeStart ≤ packet.length) (allowedRFCs : UInt8) (attributeType : UInt16) (value : List UInt8)
    (w : ParseState) : Safe (handleAttribute ext allowedRFCs packet attributeStart attributeType value w) := by
  unfold handleAttribute
  split
  · exact .ok _
  · exact (safe_parseAttribute ext packet hpacket hstart _ value w).bind fun _ => .ok _

theorem safe_parseAttributes (hpacket : 20 ≤ packet.length) (allowedRFCs : UInt8) (pos availableBytes : Nat)
    (hwords : availableBytes % 4 = 0) (hinside : pos + availableBytes ≤ packet.length) (w : ParseState) :
    Safe (parseAttributes ext allowedRFCs packet pos availableBytes w) := by
  induction availableBytes using Nat.strong_induction_on generalizing pos w with
  | _ availableBytes ih =>
    rw [parseAttributes]
    split
    · exact .ok _
    refine .throwIf_bind (by omega) (.throwIf_bind (by omega) ?_)
    refine (safe_readWORD (by omega)).bind fun attributeType =>
      (safe_readWORD (by omega)).bind fun attributeLength => ?_
    refine .rejectIf_bind fun hfull => ?_
    have hboundary := dwordBoundary_mod attributeLength.toNat
    have hle := le_dwordBoundary attributeLength.toNat
    refine (safe_readAt (by omega)).bind fun value =>
      (safe_handleAttribute ext packet hpacket (by omega) allowedRFCs attributeType value w).bind fun w' => ?_
    exact ih _ (by omega) _ (by omega) (by omega) w'

theorem safe_parseIfSTUN (allowedRFCs : UInt8) (allowRFC3489 : Bool) :
    Safe (parseIfSTUN ext packet allowedRFCs allowRFC3489) := by
  unfold parseIfSTUN
  refine .rejectIf_bind fun hlength => (safe_readBYTE (by omega)).bind fun first =>
    .rejectIf_bind fun _ => (safe_readDWORD (by omega)).bind fun magicCookie => .rejectIf_bind fun _ =>
    (safe_readWORD (by omega)).bind fun messageType => (safe_readWORD (by omega)).bind fun messageLength =>
    .rejectIf_bind fun _ => .rejectIf_bind fun hinside => .rejectIf_bind fun hwords =>
    (safe_readArray (by omega)).bind fun transactionID => ?_
  split
  · exact .rejectIf_bind fun _ =>
      (safe_parseAttributes ext packet (by omega) allowedRFCs 20 _ (by omega) (by omega) _).bind fun _ => .ok _
  · exact .notSTUN

/-- No byte string, set of RFCs or option makes the parser read out of bounds or throw: it ends with
a packet or says that there is none. -/
theorem parseIfSTUN_ends_well (allowedRFCs : UInt8) (allowRFC3489 : Bool) :
    (∃ stun, parseIfSTUN ext packet allowedRFCs allowRFC3489 = .ok stun) ∨
      parseIfSTUN ext packet allowedRFCs allowRFC3489 = .error .notSTUN :=
  (safe_parseIfSTUN ext packet allowedRFCs allowRFC3489).cases

end Safe

end OpenPeer
