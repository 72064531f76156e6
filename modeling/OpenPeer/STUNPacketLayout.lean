import OpenPeer.STUNPacketPacketize
import OpenPeer.STUNPacketWalk

/-!
# The layout of a packet that is written

Each attribute is written as elements behind what was written before, and it takes the
length that was computed for it. The exception is the congestion control: its lists are
not filled up, so a list of even size breaks the layout.
-/
namespace OpenPeer

open Bytes Tlv PacketWriter

section Buffers

variable (a : List UInt8) {n : Nat}

theorem writeAt_end (bytes : List UInt8) (h : bytes.length ≤ n) :
    writeAt (a ++ zeros n) a.length bytes = .ok (a ++ bytes ++ zeros (n - bytes.length)) := by
  unfold writeAt
  rw [if_pos (by simp [h]), overwrite_zeros a bytes _ n (n - bytes.length) rfl (by omega)]

theorem writeAt_gap (k : Nat) (bytes : List UInt8) (h : k + bytes.length ≤ n) :
    writeAt (a ++ zeros n) (a.length + k) bytes = .ok (a ++ (zeros k ++ bytes) ++ zeros (n - (k + bytes.length))) := by
  have hsplit : a ++ zeros n = (a ++ zeros k) ++ zeros (n - k) := by
    rw [List.append_assoc, ← zeros_add, Nat.add_sub_cancel' (by omega)]
  have hlength : (a ++ zeros k).length = a.length + k := by rw [List.length_append, length_zeros]
  rw [hsplit, ← hlength, writeAt_end _ _ (by omega), List.append_assoc a, Nat.sub_sub]

theorem writeAt_over (b c bytes : List UInt8) {pos : Nat} (ha : a.length = pos)
    (hb : b.length = bytes.length) : writeAt (a ++ (b ++ c)) pos bytes = .ok (a ++ (bytes ++ c)) := by
  unfold writeAt
  rw [if_pos (by simp; omega), overwrite_mid a b c bytes pos ha hb]

theorem readBuffer_front (b : List UInt8) : readBuffer (a ++ b) 0 a.length = .ok a := by
  unfold readBuffer
  rw [if_pos (by simp), slice, List.drop_zero, List.take_left]

theorem readBuffer_inside {l m : List UInt8} {pos : Nat} (h : pos + n ≤ l.length) :
    readBuffer (l ++ m) pos n = .ok (slice l pos n) := by
  unfold readBuffer
  rw [if_pos (by rw [List.length_append]; omega), ← slice_of_front (List.prefix_append l m) h]

theorem overwrite_restore (l bytes : List UInt8) (hl : 4 ≤ l.length) (hbytes : bytes.length = 2) :
    overwrite (overwrite l 2 bytes) 2 (slice l 2 2) = l := by
  have hsplit : l = l.take 2 ++ (slice l 2 2 ++ l.drop 4) := by
    have hmid : slice l 2 2 ++ l.drop 4 = l.drop 2 := by
      have hdrop : l.drop 4 = (l.drop 2).drop 2 := by rw [List.drop_drop]
      unfold slice
      rw [hdrop, List.take_append_drop]
    rw [hmid, List.take_append_drop]
  have htake : (l.take 2).length = 2 := by
    rw [List.length_take]
    omega
  have hslice : (slice l 2 2).length = 2 := length_slice l 2 2 hl
  have hfirst : overwrite l 2 bytes = l.take 2 ++ (bytes ++ l.drop 4) := by
    conv_lhs => rw [hsplit]
    exact overwrite_mid _ _ _ _ 2 htake (by omega)
  rw [hfirst, overwrite_mid _ _ _ _ 2 htake (by omega), ← hsplit]

end Buffers

section Values

variable (ext : Externals)

/-- The value of an address, masked with a cookie and with the bytes behind it, if there are any. -/
def addressValue (address : IPAddress) (xorMagicCookie : UInt32) (mask : Option (List UInt8)) : List UInt8 :=
  let port := (ext.getPort address).toUInt32 ^^^ ((xorMagicCookie &&& 0xFFFF0000) >>> 16)
  if ext.isIPv4 address then
    [0x00, 0x01] ++ toBE 2 port.toNat ++ toBE 4 (ext.getIPv4AddressAsDWORD address ^^^ xorMagicCookie).toNat
  else
    [0x00, 0x02] ++ toBE 2 port.toNat ++
      match mask with
      | none => (ext.getIPv6Address address).toList
      | some mask => (ext.getIPv6Address address).toList.zipWith (· ^^^ ·) mask

/-- The integrity of what was written, for a message that ends with it. -/
def integrityValue (stun : STUNPacket) (written : List UInt8) : List UInt8 :=
  match stun.mCredentialMechanism with
  | .none => zeros 20
  | mechanism =>
    let login := if mechanism = .longTerm then stun.mUsername ++ [0x3A] ++ stun.mRealm ++ [0x3A] else []
    (ext.hmacSHA1 (ext.md5 (login ++ stun.mPassword)) (overwrite written 2 (toBE 2 (written.length + 4)))).toList

/-- The words of a list as bytes. -/
def wordBytes (words : List UInt16) : List UInt8 := words.flatMap fun word => toBE 2 word.toNat

/-- The value of an attribute behind what was written before it. -/
def valueOf (stun : STUNPacket) (written : List UInt8) : Attributes → List UInt8
  | .mappedAddress => addressValue ext stun.mMappedAddress 0 none
  | .username => stun.mUsername
  | .messageIntegrity => integrityValue ext stun written
  | .errorCode =>
    zeros 2 ++ toBE 2 ((stun.mErrorCode.toNat / 100) <<< 8 ||| stun.mErrorCode.toNat % 100) ++ stun.mReason
  | .unknownAttribute => wordBytes stun.mUnknownAttributes
  | .realm => stun.mRealm
  | .nonce => stun.mNonce
  | .xorMappedAddress => addressValue ext stun.mMappedAddress stun.mMagicCookie (some (slice written 4 16))
  | .software => stun.mSoftware
  | .alternateServer => addressValue ext stun.mAlternateServer 0 none
  | .fingerPrint => toBE 4 (ext.crc32 written ^^^ 0x5354554e).toNat
  | .channelNumber => toBE 4 (stun.mChannelNumber.toUInt32 <<< 16).toNat
  | .lifetime => toBE 4 stun.mLifetime.toNat
  | .data => stun.mData.getD []
  | .xorRelayedAddress => addressValue ext stun.mRelayedAddress stun.mMagicCookie (some (slice written 4 16))
  | .evenPort => [if stun.mEvenPort then 0x80 else 0x00]
  | .requestedTransport => [stun.mRequestedTransport, 0x00, 0x00, 0x00]
  | .reservationToken => stun.mReservationToken.toList
  | .priority => toBE 4 stun.mPriority.toNat
  | .iceControlled => toBE 8 stun.mIceControlled.toNat
  | .iceControlling => toBE 8 stun.mIceControlling.toNat
  | .nextSequenceNumber => toBE 8 stun.mNextSequenceNumber.toNat
  | .minimumRTT => toBE 4 stun.mMinimumRTT.toNat
  | .connectionInfo => stun.mConnectionInfo
  | .gsnr => toBE 8 stun.mGSNR.toNat
  | .gsnfr => toBE 8 stun.mGSNFR.toNat
  | .rudpFlags => [stun.mReliabilityFlags, 0x00, 0x00, 0x00]
  | .ackVector => stun.mACKVector
  | _ => []

@[simp] theorem length_wordBytes (words : List UInt16) : (wordBytes words).length = 2 * words.length := by
  induction words with
  | nil => rfl
  | cons word words ih =>
    unfold wordBytes at ih ⊢
    rw [List.flatMap_cons, List.length_append, length_toBE, ih, List.length_cons]
    omega

theorem length_addressValue (address : IPAddress) (cookie : UInt32) (mask : Option (List UInt8))
    (hmask : ∀ l, mask = some l → l.length = 16) :
    (addressValue ext address cookie mask).length = addressLength ext address := by
  unfold addressValue addressLength
  dsimp only
  split
  · simp
  · cases mask with
    | none => simp
    | some l => simp [hmask l rfl]

theorem length_integrityValue (stun : STUNPacket) (written : List UInt8) :
    (integrityValue ext stun written).length = 20 := by
  unfold integrityValue
  split
  · exact length_zeros 20
  · exact Vector.length_toList

theorem length_valueOf (stun : STUNPacket) (written : List UInt8) (hwritten : 20 ≤ written.length) {attr : Attributes}
    (hpeer : attr ≠ .xorPeerAddress) (hcongestion : attr ≠ .congestionControl) :
    (valueOf ext stun written attr).length = getActualAttributeLength ext stun attr := by
  have hmask : ∀ l, some (slice written 4 16) = some l → l.length = 16 := by
    intro l hl
    rw [← Option.some.inj hl]
    exact length_slice written 4 16 (by omega)
  cases attr with
  | xorPeerAddress => exact absurd rfl hpeer
  | congestionControl => exact absurd rfl hcongestion
  | mappedAddress => exact length_addressValue ext stun.mMappedAddress 0 none fun _ h => nomatch h
  | alternateServer => exact length_addressValue ext stun.mAlternateServer 0 none fun _ h => nomatch h
  | xorMappedAddress | xorRelayedAddress => exact length_addressValue ext _ _ _ hmask
  | messageIntegrity => exact length_integrityValue ext stun written
  | unknownAttribute =>
    rw [valueOf, length_wordBytes, getActualAttributeLength, Nat.mul_comm]
  | errorCode =>
    simp [valueOf, getActualAttributeLength]
    omega
  | _ => simp [valueOf, getActualAttributeLength]

end Values

section Writing

variable (ext : Externals)

theorem ok_then {α β : Type} (a : α) (k : α → Except Fault β) : ((.ok a : Except Fault α) >>= k) = k a := rfl

variable {m : Nat}

theorem packetizeIPAddress_eq (address : IPAddress) (cookie : UInt32) (xored : Bool) (front : List UInt8)
    (hfront : 20 ≤ front.length) (hm : addressLength ext address ≤ m) :
    packetizeIPAddress ext address cookie xored (front ++ zeros m) front.length =
      .ok (front ++ addressValue ext address cookie (if xored then some (slice front 4 16) else none) ++
        zeros (m - addressLength ext address)) := by
  unfold addressLength at hm ⊢
  unfold packetizeIPAddress addressValue
  dsimp only
  generalize (ext.getPort address).toUInt32 ^^^ ((cookie &&& 0xFFFF0000) >>> 16) = port
  generalize hfamilyByte : (if ext.isIPv4 address then 0x01 else 0x02 : UInt8) = family
  have hfour : 4 ≤ m := by split at hm <;> omega
  have hfamily : writeAt (front ++ zeros m) (front.length + 1) [family] =
      .ok (front ++ [0x00, family] ++ zeros (m - 2)) :=
    writeAt_gap front 1 [family] (by simp; omega)
  have hlength : (front ++ [0x00, family]).length = front.length + 2 := by simp
  have hport := writeAt_end (front ++ [0x00, family]) (n := m - 2) (toBE 2 port.toNat) (by rw [length_toBE]; omega)
  rw [hlength, length_toBE, Nat.sub_sub] at hport
  rw [hfamily, ok_then, hport, ok_then]
  have hhead : front ++ [0x00, family] ++ toBE 2 port.toNat = front ++ ([0x00, family] ++ toBE 2 port.toNat) :=
    List.append_assoc _ _ _
  have hheadLength : (front ++ [0x00, family] ++ toBE 2 port.toNat).length = front.length + 4 := by simp
  have hprefix : front <+: front ++ [0x00, family] ++ toBE 2 port.toNat := ⟨_, (List.append_assoc _ _ _).symm⟩
  generalize front ++ [0x00, family] ++ toBE 2 port.toNat = head at hhead hheadLength hprefix ⊢
  rw [← hheadLength]
  cases hv4 : ext.isIPv4 address with
  | true =>
    rw [hv4] at hm hfamilyByte
    rw [if_pos rfl, writeAt_end _ _ (by rw [length_toBE]; exact Nat.le_sub_of_add_le' hm), length_toBE, Nat.sub_sub,
      hhead, ← hfamilyByte]
    simp only [List.append_assoc, if_true]
  | false =>
    rw [hv4] at hm hfamilyByte
    rw [if_neg (by decide), writeAt_end _ _ (by rw [Vector.length_toList]; exact Nat.le_sub_of_add_le' hm),
      Vector.length_toList, Nat.sub_sub, ok_then]
    cases xored with
    | false =>
      rw [hhead, ← hfamilyByte]
      simp only [List.append_assoc, Bool.false_eq_true, if_false]
      rfl
    | true =>
      have hmask : (slice front 4 16).length = 16 := length_slice front 4 16 hfront
      have hread : readBuffer (head ++ (ext.getIPv6Address address).toList ++ zeros (m - (2 + 2 + 16))) 4 16 =
          .ok (slice front 4 16) := by
        rw [List.append_assoc, readBuffer_inside (by omega), slice_of_front hprefix (by omega)]
      rw [if_pos rfl, hread, ok_then, List.append_assoc, writeAt_over _ _ _ _ rfl (by simp [hmask]), hhead,
        ← hfamilyByte]
      simp only [List.append_assoc, Bool.false_eq_true, if_false, if_true]

theorem packetizeWORDs_eq (words : List UInt16) (front : List UInt8) (hm : 2 * words.length ≤ m) :
    packetizeWORDs words (front ++ zeros m) front.length =
      .ok (front ++ wordBytes words ++ zeros (m - 2 * words.length)) := by
  induction words generalizing front m with
  | nil => simp [packetizeWORDs, wordBytes]
  | cons word words ih =>
    rw [List.length_cons] at hm
    have hnext : front.length + 2 = (front ++ toBE 2 word.toNat).length := by simp
    rw [packetizeWORDs, writeAt_end front _ (by rw [length_toBE]; omega), ok_then, hnext, length_toBE, ih _ (by omega)]
    have hzeros : m - 2 - 2 * words.length = m - 2 * (words.length + 1) := by omega
    have hbytes : wordBytes (word :: words) = toBE 2 word.toNat ++ wordBytes words := rfl
    rw [hzeros, List.length_cons, hbytes, List.append_assoc front]

variable (stun : STUNPacket)

theorem packetizeErrorCode_eq (front : List UInt8) (hm : 4 + stun.mReason.length ≤ m) :
    packetizeErrorCode stun (front ++ zeros m) front.length =
      .ok (front ++ (zeros 2 ++ toBE 2 ((stun.mErrorCode.toNat / 100) <<< 8 ||| stun.mErrorCode.toNat % 100) ++
        stun.mReason) ++ zeros (m - (4 + stun.mReason.length))) := by
  unfold packetizeErrorCode
  dsimp only
  generalize (stun.mErrorCode.toNat / 100) <<< 8 ||| stun.mErrorCode.toNat % 100 = code
  have hcode := writeAt_gap front (n := m) 2 (toBE 2 code) (by rw [length_toBE]; omega)
  rw [length_toBE] at hcode
  have hlength : front.length + 4 = (front ++ (zeros 2 ++ toBE 2 code)).length := by simp
  rw [hcode, ok_then, hlength, writeAt_end _ _ (by omega), Nat.sub_sub]
  simp only [List.append_assoc]

theorem packetizeMessageIntegrity_eq (written header : List UInt8) (hwritten : 20 ≤ written.length)
    (hm : 20 ≤ m) :
    packetizeMessageIntegrity ext stun written.length (written ++ header ++ zeros m) (written ++ header).length =
      .ok (written ++ header ++ integrityValue ext stun written ++ zeros (m - 20)) := by
  have hsmashed : ∀ bytes rest : List UInt8, bytes.length = 2 →
      writeAt (written ++ rest) 2 bytes = .ok (overwrite written 2 bytes ++ rest) := by
    intro bytes rest hbytes
    unfold writeAt overwrite
    rw [if_pos (by rw [List.length_append]; omega), List.take_append_of_le_length (by omega),
      List.drop_append_of_le_length (by omega)]
    simp only [List.append_assoc]
  have hpatched : (overwrite written 2 (toBE 2 (written.length + 4))).length = written.length :=
    length_overwrite _ _ _ (by rw [length_toBE]; omega)
  have hrestored : writeAt (overwrite written 2 (toBE 2 (written.length + 4)) ++ (header ++ zeros m)) 2
      (slice written 2 2) = .ok (written ++ (header ++ zeros m)) := by
    have hslice : (slice written 2 2).length = 2 := length_slice written 2 2 (by omega)
    have hboth : overwrite (overwrite written 2 (toBE 2 (written.length + 4)) ++ (header ++ zeros m)) 2
        (slice written 2 2) =
        overwrite (overwrite written 2 (toBE 2 (written.length + 4))) 2 (slice written 2 2) ++ (header ++ zeros m) := by
      unfold overwrite at hpatched ⊢
      rw [List.take_append_of_le_length (by omega), List.drop_append_of_le_length (by omega)]
      simp only [List.append_assoc]
    unfold writeAt
    rw [if_pos (by rw [List.length_append]; omega), hboth, overwrite_restore written _ (by omega) (length_toBE 2 _)]
  have hcovered : readBuffer (overwrite written 2 (toBE 2 (written.length + 4)) ++ (header ++ zeros m)) 0
      written.length = .ok (overwrite written 2 (toBE 2 (written.length + 4))) := by
    have hfront := readBuffer_front (overwrite written 2 (toBE 2 (written.length + 4))) (header ++ zeros m)
    rwa [hpatched] at hfront
  -- the hash is that of the bytes with the length replaced, whatever the key is
  have hwrite : ∀ key : List UInt8,
      (do
        let originalLength ← readBuffer (written ++ header ++ zeros m) 2 2
        let smashed ← writeAt (written ++ header ++ zeros m) 2 (toBE 2 (written.length + 4 + 20 - 20))
        let covered ← readBuffer smashed 0 written.length
        let packet ← writeAt smashed 2 originalLength
        writeAt packet (written ++ header).length (ext.hmacSHA1 key covered).toList) =
      .ok (written ++ header ++
        (ext.hmacSHA1 key (overwrite written 2 (toBE 2 (written.length + 4)))).toList ++ zeros (m - 20)) := by
    intro key
    rw [List.append_assoc written header, readBuffer_inside (by omega), ok_then, Nat.add_sub_cancel,
      hsmashed _ _ (length_toBE 2 _), ok_then, hcovered, ok_then, hrestored, ok_then, ← List.append_assoc written header,
      writeAt_end _ _ (by rw [Vector.length_toList]; exact hm), Vector.length_toList]
  unfold packetizeMessageIntegrity integrityValue
  cases stun.mCredentialMechanism with
  | none =>
    have hzeros : zeros m = zeros 20 ++ zeros (m - 20) := by rw [← zeros_add, Nat.add_sub_cancel' hm]
    dsimp only
    rw [hzeros, List.append_assoc (written ++ header)]
  | shortTerm => exact hwrite _
  | longTerm => exact hwrite _

theorem packetizeFingerprint_eq (written header : List UInt8) (hm : 4 ≤ m) :
    packetizeFingerprint ext written.length (written ++ header ++ zeros m) (written ++ header).length =
      .ok (written ++ header ++ toBE 4 (ext.crc32 written ^^^ 0x5354554e).toNat ++ zeros (m - 4)) := by
  unfold packetizeFingerprint
  have hcovered : readBuffer (written ++ header ++ zeros m) 0 written.length = .ok written := by
    rw [List.append_assoc]
    exact readBuffer_front written _
  rw [hcovered, ok_then, writeAt_end _ _ (by rw [length_toBE]; exact hm), length_toBE]

/-- The value of an attribute is written behind its header. -/
theorem packetizeValue_eq {attr : Attributes} (hpeer : attr ≠ .xorPeerAddress)
    (hcongestion : attr ≠ .congestionControl) (written header : List UInt8) (hwritten : 20 ≤ written.length)
    (hm : getActualAttributeLength ext stun attr ≤ m) :
    packetizeValue ext stun attr written.length (written ++ header ++ zeros m) (written ++ header).length =
      .ok (written ++ header ++ valueOf ext stun written attr ++ zeros (m - getActualAttributeLength ext stun attr)) := by
  have hvalue := length_valueOf ext stun written hwritten hpeer hcongestion
  have hfront : 20 ≤ (written ++ header).length := by
    rw [List.length_append]
    omega
  have hmask : slice (written ++ header) 4 16 = slice written 4 16 :=
    (slice_of_front (List.prefix_append written header) (by omega)).symm
  have hplain : ∀ value : List UInt8, value.length = getActualAttributeLength ext stun attr →
      writeAt (written ++ header ++ zeros m) (written ++ header).length value =
        .ok (written ++ header ++ value ++ zeros (m - getActualAttributeLength ext stun attr)) := by
    intro value hlength
    rw [writeAt_end _ _ (by omega), hlength]
  have hbyte : ∀ byte : UInt8, 4 ≤ m → writeAt (written ++ header ++ zeros m) (written ++ header).length [byte] =
      .ok (written ++ header ++ [byte, 0x00, 0x00, 0x00] ++ zeros (m - 4)) := by
    intro byte hfour
    have hzeros : zeros (m - 1) = [0x00, 0x00, 0x00] ++ zeros (m - 4) := by
      rw [show m - 1 = 3 + (m - 4) by omega, zeros_add]
      rfl
    rw [writeAt_end _ _ (by simp; omega), List.length_singleton, hzeros]
    simp only [List.append_assoc, List.cons_append, List.nil_append]
  unfold packetizeValue
  cases attr with
  | xorPeerAddress => exact absurd rfl hpeer
  | congestionControl => exact absurd rfl hcongestion
  | mappedAddress => exact packetizeIPAddress_eq ext stun.mMappedAddress 0 false _ hfront hm
  | alternateServer => exact packetizeIPAddress_eq ext stun.mAlternateServer 0 false _ hfront hm
  | xorMappedAddress =>
    rw [valueOf, ← hmask]
    exact packetizeIPAddress_eq ext stun.mMappedAddress stun.mMagicCookie true _ hfront hm
  | xorRelayedAddress =>
    rw [valueOf, ← hmask]
    exact packetizeIPAddress_eq ext stun.mRelayedAddress stun.mMagicCookie true _ hfront hm
  | messageIntegrity => exact packetizeMessageIntegrity_eq ext stun written header hwritten hm
  | errorCode => exact packetizeErrorCode_eq stun _ hm
  | unknownAttribute =>
    rw [getActualAttributeLength, Nat.mul_comm] at hm ⊢
    exact packetizeWORDs_eq stun.mUnknownAttributes _ hm
  | fingerPrint => exact packetizeFingerprint_eq ext written header hm
  | requestedTransport => exact hbyte _ hm
  | rudpFlags =>
    have hm : 4 ≤ m := hm
    have hzeros : writeAt (written ++ header ++ zeros m) (written ++ header).length (toBE 4 0) =
        .ok (written ++ header ++ zeros m) := by
      have hsame : toBE 4 0 = zeros 4 := by decide
      rw [hsame, writeAt_end _ _ (by simpa using hm), length_zeros, List.append_assoc, ← zeros_add,
        Nat.add_sub_cancel' hm]
    dsimp only
    rw [hzeros, ok_then]
    exact hbyte _ hm
  | dontFragment | useCandidate | reservedResponseAddress | reservedChangeAddress | reservedSourceAddress
  | reservedChangedAddress | reservedPassword | reservedReflectedFrom =>
    simp only [valueOf, getActualAttributeLength, List.append_nil, Nat.sub_zero]
  | _ => exact hplain _ hvalue

end Writing

section Elements

variable (ext : Externals) (stun : STUNPacket) (rfc : RFCs)

/-- The packet has the attribute and it is written. -/
def isPacketized (attr : Attributes) : Bool := stun.hasAttribute ext attr && shouldPacketizeAttribute ext stun rfc attr

/-- The value of a list of congestion control algorithms. -/
def congestionValue (list : List UInt16) (directionBit : Bool) : List UInt8 :=
  [if directionBit then 0x80 else 0x00, 0x00] ++ wordBytes list

def congestionElements (list : List UInt16) (directionBit : Bool) : List Element :=
  if list.length < 1 then [] else [⟨Attributes.congestionControl.toCode, congestionValue list directionBit⟩]

/-- The elements an attribute is written as, behind what was written before. -/
def elementsOf (written : List UInt8) (attr : Attributes) : List Element :=
  if !isPacketized ext stun rfc attr then []
  else
    match attr with
    | .xorPeerAddress => stun.mPeerAddressList.map fun address =>
        ⟨Attributes.xorPeerAddress.toCode, addressValue ext address stun.mMagicCookie (some (slice written 4 16))⟩
    | .congestionControl =>
      congestionElements stun.mLocalCongestionControl false ++ congestionElements stun.mRemoteCongestionControl true
    | attr => [⟨attr.toCode, valueOf ext stun written attr⟩]

/-- The lists of congestion control algorithms that are written fill whole words. -/
def CongestionAligned : Prop :=
  isPacketized ext stun rfc .congestionControl = true →
    (stun.mLocalCongestionControl ≠ [] → stun.mLocalCongestionControl.length % 2 = 1) ∧
      (stun.mRemoteCongestionControl ≠ [] → stun.mRemoteCongestionControl.length % 2 = 1)

/-- The headers of elements that are written from a position on. -/
def headersFrom : Nat → List (Attributes × Element) → List (Nat × Attributes × Nat)
  | _, [] => []
  | start, (attr, e) :: l => (start, attr, e.value.length) :: headersFrom (start + encodedLength e.value.length) l

theorem headersFrom_append (start : Nat) (l m : List (Attributes × Element)) :
    headersFrom start (l ++ m) =
      headersFrom start l ++ headersFrom (start + (encodeAll (l.map Prod.snd)).length) m := by
  induction l generalizing start with
  | nil => rfl
  | cons c l ih =>
    obtain ⟨attr, e⟩ := c
    rw [List.cons_append, headersFrom, headersFrom, ih, List.map_cons, encodeAll_cons, List.length_append,
      length_encode, List.cons_append, Nat.add_assoc]

variable {ext stun rfc}

variable (attr : Attributes)

theorem packetizeAttributeLength_eq :
    packetizeAttributeLength ext stun rfc attr =
      if isPacketized ext stun rfc attr then encodedLength (getActualAttributeLength ext stun attr) else 0 := by
  unfold packetizeAttributeLength isPacketized encodedLength
  cases stun.hasAttribute ext attr with
  | false => rfl
  | true => cases shouldPacketizeAttribute ext stun rfc attr <;> rfl

theorem packetizeAttribute_not {attr : Attributes} (h : isPacketized ext stun rfc attr = false) (w : PacketWriter) :
    packetizeAttribute ext stun rfc w attr = .ok w := by
  unfold isPacketized at h
  unfold packetizeAttribute
  cases hhas : stun.hasAttribute ext attr with
  | false => rfl
  | true =>
    rw [hhas, Bool.true_and] at h
    rw [h]
    rfl

theorem addressLength_mod (address : IPAddress) : addressLength ext address % 4 = 0 := by
  unfold addressLength
  split <;> rfl

theorem encodedLength_addressLength (address : IPAddress) :
    encodedLength (addressLength ext address) = 4 + addressLength ext address := by
  rw [encodedLength, dwordBoundary_eq_self _ (addressLength_mod address)]

theorem length_congestionValue (list : List UInt16) (directionBit : Bool) :
    (congestionValue list directionBit).length = 2 + 2 * list.length := by
  rw [congestionValue, List.length_append, length_wordBytes]
  rfl

theorem encode_congestion (list : List UInt16) (directionBit : Bool) (hodd : list.length % 2 = 1) :
    encode ⟨Attributes.congestionControl.toCode, congestionValue list directionBit⟩ =
      toBE 2 Attributes.congestionControl.toCode.toNat ++ toBE 2 (2 + 2 * list.length) ++
        congestionValue list directionBit := by
  have hlength := length_congestionValue list directionBit
  have hpadding : padding (congestionValue list directionBit) = [] := by
    unfold padding
    rw [hlength, dwordBoundary_eq_self _ (by omega), Nat.sub_self]
    rfl
  rw [encode, hpadding, hlength, List.append_nil, List.append_assoc]

theorem elementsOf_not {attr : Attributes} (h : isPacketized ext stun rfc attr = false) (written : List UInt8) :
    elementsOf ext stun rfc written attr = [] := by
  unfold elementsOf
  rw [h]
  rfl

theorem elementsOf_single {attr : Attributes} (hpacketized : isPacketized ext stun rfc attr = true)
    (hpeer : attr ≠ .xorPeerAddress) (hcongestion : attr ≠ .congestionControl) (written : List UInt8) :
    elementsOf ext stun rfc written attr = [⟨attr.toCode, valueOf ext stun written attr⟩] := by
  unfold elementsOf
  rw [hpacketized, if_neg (by decide)]
  cases attr <;> first | rfl | exact absurd rfl hpeer | exact absurd rfl hcongestion

/-- The elements of an attribute take the length that is computed for it. -/
theorem length_elementsOf (haligned : attr = .congestionControl → CongestionAligned ext stun rfc)
    (written : List UInt8) (hwritten : 20 ≤ written.length) :
    (encodeAll (elementsOf ext stun rfc written attr)).length = packetizeAttributeLength ext stun rfc attr := by
  rw [packetizeAttributeLength_eq]
  unfold elementsOf
  cases hpacketized : isPacketized ext stun rfc attr with
  | false => rfl
  | true =>
    rw [if_neg (by decide), if_pos rfl]
    by_cases hpeer : attr = .xorPeerAddress
    · subst hpeer
      have hlist : stun.mPeerAddressList ≠ [] := by
        have hhas := (Bool.and_eq_true_iff.mp hpacketized).1
        simpa [STUNPacket.hasAttribute] using hhas
      have hsum : ∀ l : List IPAddress, (encodeAll (l.map fun address =>
          (⟨Attributes.xorPeerAddress.toCode, addressValue ext address stun.mMagicCookie (some (slice written 4 16))⟩ :
            Element))).length = (l.map (addressLength ext)).sum + l.length * 4 := by
        intro l
        induction l with
        | nil => rfl
        | cons address l ih =>
          have hvalue := length_addressValue ext address stun.mMagicCookie (some (slice written 4 16)) (by
            intro mask hmask
            rw [← Option.some.inj hmask]
            exact length_slice written 4 16 (by omega))
          rw [List.map_cons, encodeAll_cons, List.length_append, length_encode, hvalue, ih, List.map_cons,
            List.sum_cons, List.length_cons, encodedLength_addressLength]
          omega
      have hmod : ∀ l : List IPAddress, (l.map (addressLength ext)).sum % 4 = 0 := by
        intro l
        induction l with
        | nil => rfl
        | cons address l ih =>
          have haddress : addressLength ext address % 4 = 0 := addressLength_mod address
          rw [List.map_cons, List.sum_cons]
          omega
      have hpos := List.length_pos_iff.mpr hlist
      have hmodList := hmod stun.mPeerAddressList
      dsimp only
      rw [hsum, getActualAttributeLength, encodedLength, dwordBoundary_eq_self _ (by omega)]
      omega
    by_cases hcongestion : attr = .congestionControl
    · subst hcongestion
      obtain ⟨hlocal, hremote⟩ := haligned rfl hpacketized
      have hlist : ∀ list : List UInt16, ∀ direction, (list ≠ [] → list.length % 2 = 1) →
          (encodeAll (congestionElements list direction)).length =
            if list.length > 0 then 4 + (2 + 2 * list.length) else 0 := by
        intro list direction hodd
        unfold congestionElements
        cases list with
        | nil => rfl
        | cons word list =>
          have hodd := hodd (by simp)
          rw [if_neg (by simp), if_pos (by simp), encodeAll_cons, encodeAll_nil, List.append_nil,
            length_encode, length_congestionValue, encodedLength, dwordBoundary_eq_self _ (by omega)]
      have hhas := (Bool.and_eq_true_iff.mp hpacketized).1
      dsimp only
      rw [encodeAll_append, List.length_append, hlist _ _ hlocal, hlist _ _ hremote, getActualAttributeLength]
      cases hl : stun.mLocalCongestionControl with
      | nil =>
        cases hr : stun.mRemoteCongestionControl with
        | nil => simp [STUNPacket.hasAttribute, hl, hr] at hhas
        | cons word list =>
          have hodd := hremote (by simp [hr])
          rw [hr] at hodd
          simp only [List.length_nil, gt_iff_lt, Nat.lt_irrefl, decide_false, Bool.false_and, Bool.false_eq_true,
            if_false, Nat.zero_add, List.length_cons, Nat.zero_lt_succ, if_true] at hodd ⊢
          rw [encodedLength, dwordBoundary_eq_self _ (by omega)]
      | cons word list =>
        have hodd := hlocal (by simp [hl])
        rw [hl] at hodd
        cases hr : stun.mRemoteCongestionControl with
        | nil =>
          simp only [List.length_nil, gt_iff_lt, Nat.lt_irrefl, decide_false, Bool.and_false, Bool.false_eq_true,
            if_false, Nat.zero_add, Nat.add_zero, List.length_cons, Nat.zero_lt_succ, if_true] at hodd ⊢
          rw [encodedLength, dwordBoundary_eq_self _ (by omega)]
        | cons word' list' =>
          have hodd' := hremote (by simp [hr])
          rw [hr] at hodd'
          simp only [gt_iff_lt, List.length_cons, Nat.zero_lt_succ, decide_true, Bool.and_true, if_true] at hodd hodd' ⊢
          rw [encodedLength, dwordBoundary_eq_self _ (by omega)]
          omega
    · have hsingle := elementsOf_single hpacketized hpeer hcongestion written
      unfold elementsOf at hsingle
      rw [hpacketized, if_neg (by decide)] at hsingle
      rw [hsingle, encodeAll_cons, encodeAll_nil, List.append_nil, length_encode,
        length_valueOf ext stun written hwritten hpeer hcongestion]

/-- The state of the writing behind elements of an attribute. -/
def PacketWriter.behind (written : List UInt8) (n : Nat) (headers : List (Nat × Attributes × Nat))
    (l : List (Attributes × Element)) : PacketWriter :=
  { packet := written ++ encodeAll (l.map Prod.snd) ++ zeros (n - (encodeAll (l.map Prod.snd)).length)
    pos := (written ++ encodeAll (l.map Prod.snd)).length
    headers := headers ++ headersFrom written.length l }

variable (written : List UInt8)

theorem PacketWriter.behind_nil (n : Nat) (headers : List (Nat × Attributes × Nat)) :
    behind written n headers [] = { packet := written ++ zeros n, pos := written.length, headers := headers } := by
  simp [behind, headersFrom]

theorem PacketWriter.behind_eq (n : Nat) (headers : List (Nat × Attributes × Nat))
    (l : List (Attributes × Element)) :
    behind written n headers l =
      { packet := written ++ encodeAll (l.map Prod.snd) ++ zeros (n - (encodeAll (l.map Prod.snd)).length)
        pos := (written ++ encodeAll (l.map Prod.snd)).length
        headers := headers ++ headersFrom written.length l } := rfl

theorem PacketWriter.behind_append (n : Nat) (headers : List (Nat × Attributes × Nat))
    (l m : List (Attributes × Element)) :
    behind written n headers (l ++ m) =
      behind (written ++ encodeAll (l.map Prod.snd)) (n - (encodeAll (l.map Prod.snd)).length)
        (headers ++ headersFrom written.length l) m := by
  unfold behind
  simp only [List.map_append, encodeAll_append, List.length_append, headersFrom_append, List.append_assoc, Nat.sub_sub]

variable {n : Nat}

theorem packetizeAttributeHeader_eq (length : Nat) (written : List UInt8) (hn : 4 ≤ n)
    (headers : List (Nat × Attributes × Nat)) :
    packetizeAttributeHeader attr length { packet := written ++ zeros n, pos := written.length, headers := headers } =
      .ok { packet := written ++ (toBE 2 attr.toCode.toNat ++ toBE 2 length) ++ zeros (n - 4)
            pos := (written ++ (toBE 2 attr.toCode.toNat ++ toBE 2 length)).length
            headers := headers ++ [(written.length, attr, length)] } := by
  have hsecond : writeAt (written ++ toBE 2 attr.toCode.toNat ++ zeros (n - 2)) (written.length + 2) (toBE 2 length) =
      .ok (written ++ (toBE 2 attr.toCode.toNat ++ toBE 2 length) ++ zeros (n - 4)) := by
    have hend := writeAt_end (written ++ toBE 2 attr.toCode.toNat) (n := n - 2) (toBE 2 length)
      (by rw [length_toBE]; omega)
    rw [List.length_append, length_toBE, length_toBE, Nat.sub_sub] at hend
    rw [hend, List.append_assoc written]
  unfold packetizeAttributeHeader
  dsimp only
  rw [writeAt_end written _ (by rw [length_toBE]; omega), ok_then, length_toBE, hsecond, ok_then, List.length_append,
    List.length_append, length_toBE, length_toBE]
  rfl

theorem encode_eq (value : List UInt8) :
    encode ⟨attr.toCode, value⟩ =
      toBE 2 attr.toCode.toNat ++ toBE 2 value.length ++ value ++ zeros (dwordBoundary value.length - value.length) := by
  simp only [encode, padding, List.append_assoc]

/-- A value that is written behind its header leaves the state behind an element. -/
theorem behind_single (attr : Attributes) (value written : List UInt8) (hn : encodedLength value.length ≤ n)
    (headers : List (Nat × Attributes × Nat)) :
    ({ packet := written ++ (toBE 2 attr.toCode.toNat ++ toBE 2 value.length) ++ value ++ zeros (n - 4 - value.length)
       pos := (written ++ (toBE 2 attr.toCode.toNat ++ toBE 2 value.length)).length + dwordBoundary value.length
       headers := headers ++ [(written.length, attr, value.length)] } : PacketWriter) =
      behind written n headers [(attr, ⟨attr.toCode, value⟩)] := by
  have hle := le_dwordBoundary value.length
  unfold encodedLength at hn
  have hzeros : zeros (n - 4 - value.length) =
      zeros (dwordBoundary value.length - value.length) ++ zeros (n - encodedLength value.length) := by
    rw [← zeros_add]
    congr 1
    unfold encodedLength
    omega
  have hlength : (encode ⟨attr.toCode, value⟩).length = encodedLength value.length := length_encode _
  unfold behind
  simp only [List.map_cons, List.map_nil, encodeAll_cons, encodeAll_nil, List.append_nil, hlength, headersFrom,
    List.length_append, length_toBE]
  refine mk.injEq .. ▸ ⟨?_, ?_, rfl⟩
  · rw [encode_eq, hzeros]
    simp only [List.append_assoc]
  · unfold encodedLength
    omega

theorem packetizePeerAddresses_eq (addresses : List IPAddress) (cookie : UInt32) (mask written : List UInt8)
    (hwritten : 20 ≤ written.length) (hmask : slice written 4 16 = mask)
    (headers : List (Nat × Attributes × Nat))
    (hn : (encodeAll (addresses.map fun address => ⟨Attributes.xorPeerAddress.toCode, addressValue ext address cookie (some mask)⟩)).length ≤ n) :
    packetizePeerAddresses ext cookie addresses { packet := written ++ zeros n, pos := written.length, headers := headers } =
      .ok (behind written n headers (addresses.map fun address =>
        (Attributes.xorPeerAddress, ⟨Attributes.xorPeerAddress.toCode, addressValue ext address cookie (some mask)⟩))) := by
  induction addresses generalizing written n headers with
  | nil => rw [packetizePeerAddresses, List.map_nil, behind_nil]
  | cons address addresses ih =>
    have hvalue := length_addressValue ext address cookie (some mask) (by
      intro l hl
      rw [← Option.some.inj hl, ← hmask]
      exact length_slice written 4 16 (by omega))
    rw [List.map_cons, encodeAll_cons, List.length_append, length_encode, hvalue] at hn
    have hfour : encodedLength (addressLength ext address) = 4 + addressLength ext address :=
      encodedLength_addressLength address
    have hfront : 20 ≤ (written ++ (toBE 2 Attributes.xorPeerAddress.toCode.toNat ++
        toBE 2 (addressLength ext address))).length := by
      rw [List.length_append]
      omega
    have hslice : slice (written ++ (toBE 2 Attributes.xorPeerAddress.toCode.toNat ++
        toBE 2 (addressLength ext address))) 4 16 = mask := by
      rw [← hmask]
      exact (slice_of_front (List.prefix_append written _) (by omega)).symm
    have hip := packetizeIPAddress_eq ext address cookie true _ hfront (m := n - 4) (by omega)
    rw [if_pos rfl, hslice] at hip
    rw [packetizePeerAddresses]
    rw [packetizeAttributeHeader_eq _ _ _ (by omega), ok_then, hip, ok_then]
    have hsingle := behind_single .xorPeerAddress (addressValue ext address cookie (some mask)) written (n := n)
      (by rw [hvalue]; omega) headers
    rw [hvalue] at hsingle
    have hone : (encodeAll (List.map Prod.snd [(Attributes.xorPeerAddress,
        (⟨Attributes.xorPeerAddress.toCode, addressValue ext address cookie (some mask)⟩ : Element))])).length =
        encodedLength (addressLength ext address) := by
      rw [List.map_singleton, encodeAll_cons, encodeAll_nil, List.append_nil, length_encode, hvalue]
    dsimp only
    rw [hsingle, behind_eq, ih _ (by rw [List.length_append]; omega)
      (by rw [← hmask]; exact (slice_of_front (List.prefix_append written _) (by omega)).symm) _ (by rw [hone]; omega),
      ← behind_append, List.singleton_append, List.map_cons]

end Elements

end OpenPeer
