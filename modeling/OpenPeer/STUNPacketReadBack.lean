import Mathlib.Data.List.TakeWhile
import OpenPeer.STUNPacketAddress
import OpenPeer.STUNPacketUnknown

/-!
# Parsing the values that were written

A value that was written is parsed into the field it was written from, when it is no address and
a string of it is one that the parser takes.
-/
namespace OpenPeer

open Bytes Tlv

section Numbers

variable (rest : List UInt8)

theorem readBYTE_written (byte : UInt8) : readBYTE ([byte] ++ rest) 0 = .ok byte := by
  have hbyte : ofBE [byte] = byte.toNat := (ofBE_concat [] byte).trans (by simp)
  have hslice : slice ([byte] ++ rest) 0 1 = [byte] := rfl
  rw [readBYTE, readAt_of_le (by simp), hslice]
  change Except.ok (UInt8.ofNat (ofBE [byte])) = _
  rw [hbyte, UInt8.ofNat_toNat]

theorem slice_written {value : List UInt8} {n : Nat} (hvalue : value.length = n) : slice (value ++ rest) 0 n = value := by
  rw [slice, List.drop_zero, ← hvalue, List.take_left]

theorem readWORD_written (word : UInt16) : readWORD (toBE 2 word.toNat ++ rest) 0 = .ok word := by
  rw [readWORD, readAt_of_le (by simp), slice_written rest (length_toBE 2 _)]
  change Except.ok (UInt16.ofNat (ofBE (toBE 2 word.toNat))) = _
  rw [ofBE_toBE_of_lt 2 _ word.toNat_lt, UInt16.ofNat_toNat]

theorem readDWORD_written (dword : UInt32) : readDWORD (toBE 4 dword.toNat ++ rest) 0 = .ok dword := by
  rw [readDWORD, readAt_of_le (by simp), slice_written rest (length_toBE 4 _)]
  change Except.ok (UInt32.ofNat (ofBE (toBE 4 dword.toNat))) = _
  rw [ofBE_toBE_of_lt 4 _ dword.toNat_lt, UInt32.ofNat_toNat]

theorem readQWORD_written (qword : UInt64) : readQWORD (toBE 8 qword.toNat ++ rest) 0 = .ok qword := by
  rw [readQWORD, readAt_of_le (by simp), slice_written rest (length_toBE 8 _)]
  change Except.ok (UInt64.ofNat (ofBE (toBE 8 qword.toNat))) = _
  rw [ofBE_toBE_of_lt 8 _ qword.toNat_lt, UInt64.ofNat_toNat]

theorem readArray_written {n : Nat} (array : Vector UInt8 n) : readArray (array.toList ++ rest) 0 n = .ok array := by
  rw [readArray_of_le (by simp)]
  refine congrArg Except.ok (Vector.toList_inj.mp ?_)
  exact slice_written rest Vector.length_toList

/-- The words of a list behind some bytes. -/
theorem readWORDs_written (front : List UInt8) (words : List UInt16) :
    readWORDs (front ++ wordBytes words) front.length words.length = .ok words := by
  rw [readWORDs_of_le _ (by rw [List.length_append, length_wordBytes])]
  refine congrArg Except.ok ?_
  induction words generalizing front with
  | nil => rfl
  | cons word words ih =>
    have hbytes : front ++ wordBytes (word :: words) = (front ++ toBE 2 word.toNat) ++ wordBytes words := by
      rw [List.append_assoc]
      rfl
    have hfirst : UInt16.ofNat (wordAt (front ++ wordBytes (word :: words)) front.length) = word := by
      have hslice : slice (front ++ (toBE 2 word.toNat ++ wordBytes words)) front.length 2 = toBE 2 word.toNat :=
        slice_append_mid _ _ _ _ _ rfl (length_toBE 2 _)
      rw [hbytes, List.append_assoc, wordAt, hslice, ofBE_toBE_of_lt 2 _ word.toNat_lt, UInt16.ofNat_toNat]
    have hrest := ih (front ++ toBE 2 word.toNat)
    rw [List.length_append, length_toBE] at hrest
    rw [List.length_cons, List.range_succ_eq_map, List.map_cons, Nat.mul_zero, Nat.add_zero, hfirst, List.map_map, hbytes]
    refine congrArg _ (Eq.trans ?_ hrest)
    apply List.map_congr_left
    intro i _
    have hindex : front.length + 2 * (i + 1) = front.length + 2 + 2 * i := by omega
    simp only [Function.comp_apply, Nat.succ_eq_add_one, hindex]

theorem toBE_mul (k n : Nat) : toBE (k + 1) (n * 256) = toBE k n ++ [0x00] := by
  have hbyte : UInt8.ofNat (n * 256) = 0x00 := by
    apply UInt8.toNat_inj.mp
    simp
  rw [toBE, hbyte, Nat.mul_div_cancel n (by decide)]

theorem toBE_channel (channel : UInt16) :
    toBE 4 (channel.toUInt32 <<< 16).toNat = toBE 2 channel.toNat ++ [0x00, 0x00] := by
  have hlt := channel.toNat_lt
  have hshift : (channel.toUInt32 <<< 16).toNat = channel.toNat * 256 * 256 := by
    rw [UInt32.toNat_shiftLeft]
    change (channel.toNat <<< 16) % 2 ^ 32 = _
    rw [Nat.shiftLeft_eq]
    omega
  rw [hshift, toBE_mul, toBE_mul, List.append_assoc]
  rfl

end Numbers

section Strings

variable (ext : Externals) (stun : STUNPacket) (rfc : RFCs)

/-- A string the parser takes whole. -/
def TakenString (maxLength : Nat) (s : List UInt8) : Prop :=
  0 ∉ s ∧ s.length ≤ maxLength * 6 ∧ ext.lengthUnicodeSafe s ≤ maxLength

/-- The string of an attribute, and how long the parser lets it be. -/
def stringOf : Attributes → Option (List UInt8 × Nat)
  | .username => some (stun.mUsername, 513)
  | .errorCode => some (stun.mReason, 127)
  | .realm => some (stun.mRealm, 127)
  | .nonce => some (stun.mNonce, 127)
  | .software => some (stun.mSoftware, 127)
  | .connectionInfo => some (stun.mConnectionInfo, 127)
  | _ => none

/-- The strings that are written are ones the parser takes. -/
def StringsTaken : Prop :=
  ∀ attr s maxLength, isPacketized ext stun rfc attr = true → stringOf stun attr = some (s, maxLength) →
    TakenString ext maxLength s

variable {ext stun rfc}

theorem parseSTUNString_taken {maxLength : Nat} {s : List UInt8} (hmax : maxLength ≤ 513)
    (h : TakenString ext maxLength s) : parseSTUNString ext s maxLength = .ok s := by
  obtain ⟨hzero, hlength, hunicode⟩ := h
  have hwhole : s.takeWhile (· != 0) = s := by
    rw [List.takeWhile_eq_self_iff]
    intro b hb
    have hne : b ≠ 0 := fun h => hzero (h ▸ hb)
    simpa using hne
  unfold parseSTUNString
  rw [rejectIf_of_not (by omega), ok_bind, throwIf_of_not (by omega), ok_bind, hwhole]
  dsimp only
  rw [rejectIf_of_not (by omega)]
  rfl

end Strings

section Fields

/-- The field of an attribute, in a packet it is parsed into. -/
def STUNPacket.copyAttribute (stun : STUNPacket) (attr : Attributes) (p : STUNPacket) : STUNPacket :=
  match attr with
  | .username => { p with mUsername := stun.mUsername }
  | .unknownAttribute => { p with mUnknownAttributes := p.mUnknownAttributes ++ stun.mUnknownAttributes }
  | .realm => { p with mRealm := stun.mRealm }
  | .nonce => { p with mNonce := stun.mNonce }
  | .software => { p with mSoftware := stun.mSoftware }
  | .channelNumber => { p with mChannelNumber := stun.mChannelNumber }
  | .lifetime => { p with mLifetimeIncluded := true, mLifetime := stun.mLifetime }
  | .data => { p with mData := some (stun.mData.getD []) }
  | .evenPort => { p with mEvenPortIncluded := true, mEvenPort := stun.mEvenPort }
  | .requestedTransport => { p with mRequestedTransport := stun.mRequestedTransport }
  | .dontFragment => { p with mDontFragmentIncluded := true }
  -- the flag of the token is not set
  | .reservationToken => { p with mReservationToken := stun.mReservationToken }
  | .priority => { p with mPriorityIncluded := true, mPriority := stun.mPriority }
  | .useCandidate => { p with mUseCandidateIncluded := true }
  | .iceControlled => { p with mIceControlledIncluded := true, mIceControlled := stun.mIceControlled }
  | .iceControlling => { p with mIceControllingIncluded := true, mIceControlling := stun.mIceControlling }
  | .nextSequenceNumber => { p with mNextSequenceNumber := stun.mNextSequenceNumber }
  | .minimumRTT => { p with mMinimumRTTIncluded := true, mMinimumRTT := stun.mMinimumRTT }
  | .connectionInfo => { p with mConnectionInfo := stun.mConnectionInfo }
  | .gsnr => { p with mGSNR := stun.mGSNR }
  | .gsnfr => { p with mGSNFR := stun.mGSNFR }
  | .rudpFlags => { p with mReliabilityFlagsIncluded := true, mReliabilityFlags := stun.mReliabilityFlags }
  | .ackVector => { p with mACKVector := stun.mACKVector }
  | _ => p

/-- The attributes that are copied field by field. -/
def copiedAttributes : List Attributes :=
  [.username, .unknownAttribute, .realm, .nonce, .software, .channelNumber, .lifetime, .data, .evenPort,
    .requestedTransport, .dontFragment, .reservationToken, .priority, .useCandidate, .iceControlled, .iceControlling,
    .nextSequenceNumber, .minimumRTT, .connectionInfo, .gsnr, .gsnfr, .rudpFlags, .ackVector]

variable {ext : Externals} {stun : STUNPacket} {rfc : RFCs} {packet : List UInt8} {start : Nat}

/-- A value that was written is parsed into the field it came from. -/
theorem parse_valueOf {attr : Attributes} (hcopied : attr ∈ copiedAttributes)
    (hpacketized : isPacketized ext stun rfc attr = true) (hstrings : StringsTaken ext stun rfc) (written : List UInt8)
    (w : ParseState) :
    parseAttribute ext packet start attr (valueOf ext stun written attr) w =
      .ok ({ w with stun := stun.copyAttribute attr w.stun }, false) := by
  have hstring : ∀ s maxLength, maxLength ≤ 513 → stringOf stun attr = some (s, maxLength) →
      parseSTUNString ext s maxLength = .ok s := by
    intro s maxLength hmax hs
    exact parseSTUNString_taken hmax (hstrings attr s maxLength hpacketized hs)
  have hhas := (Bool.and_eq_true_iff.mp hpacketized).1
  have hfour : ∀ n, ¬(toBE 4 n).length < 4 := by simp
  have height : ∀ n, ¬(toBE 8 n).length < 8 := by simp
  have hdword := readDWORD_written []
  have hqword := readQWORD_written []
  simp only [List.append_nil] at hdword hqword
  cases attr with
  | username | realm | nonce | software | connectionInfo =>
    unfold parseAttribute valueOf
    dsimp only
    rw [hstring _ _ (by decide) rfl]
    rfl
  | unknownAttribute =>
    have hwords := readWORDs_written [] stun.mUnknownAttributes
    have heven : ¬(wordBytes stun.mUnknownAttributes).length % 2 ≠ 0 := by
      rw [length_wordBytes]
      omega
    have hhalf : (wordBytes stun.mUnknownAttributes).length / 2 = stun.mUnknownAttributes.length := by
      rw [length_wordBytes]
      omega
    unfold parseAttribute valueOf
    dsimp only
    rw [rejectIf_of_not heven, ok_bind, hhalf]
    rw [List.nil_append] at hwords
    change (readWORDs (wordBytes stun.mUnknownAttributes) 0 _ >>= _) = _
    exact (congrArg (· >>= _) hwords).trans rfl
  | channelNumber =>
    unfold parseAttribute valueOf
    dsimp only
    rw [toBE_channel, rejectIf_of_not (by simp), ok_bind, readWORD_written]
    rfl
  | lifetime | priority | minimumRTT =>
    unfold parseAttribute valueOf
    dsimp only
    rw [rejectIf_of_not (hfour _), ok_bind, hdword]
    rfl
  | iceControlled | iceControlling | nextSequenceNumber | gsnr | gsnfr =>
    unfold parseAttribute valueOf
    dsimp only
    rw [rejectIf_of_not (height _), ok_bind, hqword]
    rfl
  | data | dontFragment | useCandidate => rfl
  | evenPort =>
    have hbyte := readBYTE_written [] (if stun.mEvenPort then 0x80 else 0x00)
    rw [List.append_nil] at hbyte
    unfold parseAttribute valueOf
    dsimp only
    rw [rejectIf_of_not (by simp), ok_bind, hbyte, ok_bind]
    unfold STUNPacket.copyAttribute
    cases stun.mEvenPort <;> rfl
  | requestedTransport | rudpFlags =>
    have hbyte : ∀ byte : UInt8, readBYTE [byte, 0x00, 0x00, 0x00] 0 = .ok byte := fun byte =>
      readBYTE_written [0x00, 0x00, 0x00] byte
    unfold parseAttribute valueOf
    dsimp only
    rw [rejectIf_of_not (by simp), ok_bind, hbyte]
    rfl
  | reservationToken =>
    have harray := readArray_written [] stun.mReservationToken
    rw [List.append_nil] at harray
    unfold parseAttribute valueOf
    dsimp only
    rw [rejectIf_of_not (by simp), ok_bind, harray]
    rfl
  | ackVector =>
    have hne : ¬stun.mACKVector.length < 1 := by
      have hne : stun.mACKVector ≠ [] := by simpa [STUNPacket.hasAttribute] using hhas
      have := List.length_pos_iff.mpr hne
      omega
    unfold parseAttribute valueOf
    dsimp only
    rw [rejectIf_of_not hne]
    rfl
  | _ => exact absurd hcopied (by decide)

end Fields

section Others

variable {ext : Externals} {stun : STUNPacket} {rfc : RFCs} {packet : List UInt8} {start : Nat}

theorem parse_congestionValue {list : List UInt16} (hne : list ≠ []) (directionBit : Bool) (w : ParseState) :
    parseAttribute ext packet start .congestionControl (congestionValue list directionBit) w =
      .ok ({ w with stun := if directionBit then { w.stun with mRemoteCongestionControl := list }
                            else { w.stun with mLocalCongestionControl := list } }, false) := by
  have hpos := List.length_pos_iff.mpr hne
  have hlength := length_congestionValue list directionBit
  have hbyte := readBYTE_written (0x00 :: wordBytes list) (if directionBit then 0x80 else 0x00)
  have hwords := readWORDs_written [if directionBit then 0x80 else 0x00, 0x00] list
  have hhalf : (2 + 2 * list.length - 2) / 2 = list.length := by omega
  change readBYTE (congestionValue list directionBit) 0 = _ at hbyte
  change readWORDs (congestionValue list directionBit) 2 list.length = _ at hwords
  unfold parseAttribute
  dsimp only
  rw [hlength, rejectIf_of_not (by omega), ok_bind, rejectIf_of_not (by omega), ok_bind, hbyte, ok_bind, hhalf, hwords]
  cases directionBit <;> rfl

/-- The hundreds and the rest of an error code, as they are read. -/
theorem errorCode_digits (code : UInt16) :
    let word := UInt16.ofNat ((code.toNat / 100) <<< 8 ||| code.toNat % 100)
    ((0x700 &&& word) >>> 8).toNat = code.toNat / 100 % 8 ∧ (0xFF &&& word).toNat = code.toNat % 100 := by
  have hcode := code.toNat_lt
  have hor : (code.toNat / 100) <<< 8 ||| code.toNat % 100 = (code.toNat / 100) * 256 + code.toNat % 100 := by
    rw [← Nat.shiftLeft_add_eq_or_of_lt (by omega : code.toNat % 100 < 2 ^ 8), Nat.shiftLeft_eq]
  dsimp only
  rw [hor]
  constructor
  · rw [UInt16.toNat_shiftRight, UInt16.toNat_and, UInt16.toNat_ofNat']
    change (0x700 &&& ((code.toNat / 100) * 256 + code.toNat % 100) % 2 ^ 16) >>> 8 = _
    have hmask : (0x700 : Nat) >>> 8 = 2 ^ 3 - 1 := by decide
    rw [Nat.shiftRight_and_distrib, hmask, Nat.and_comm, Nat.and_two_pow_sub_one_eq_mod, Nat.shiftRight_eq_div_pow]
    omega
  · rw [UInt16.toNat_and, UInt16.toNat_ofNat']
    change 0xFF &&& ((code.toNat / 100) * 256 + code.toNat % 100) % 2 ^ 16 = _
    rw [Nat.and_comm]
    refine (Nat.and_two_pow_sub_one_eq_mod _ 8).trans ?_
    omega

/-- An error code is parsed when its hundreds are ones of an error, cut to three bits. -/
theorem parse_errorCode (hreason : TakenString ext 127 stun.mReason) (written : List UInt8) (w : ParseState) :
    parseAttribute ext packet start .errorCode (valueOf ext stun written .errorCode) w =
      if 3 ≤ stun.mErrorCode.toNat / 100 % 8 ∧ stun.mErrorCode.toNat / 100 % 8 ≤ 6 then
        .ok ({ w with stun := { w.stun with
          mErrorCode := UInt16.ofNat (stun.mErrorCode.toNat / 100 % 8 * 100 + stun.mErrorCode.toNat % 100)
          mReason := stun.mReason } }, false)
      else .ok (w, true) := by
  obtain ⟨hhundreds, htwo⟩ := errorCode_digits stun.mErrorCode
  have hword : readWORD (zeros 2 ++ toBE 2 ((stun.mErrorCode.toNat / 100) <<< 8 ||| stun.mErrorCode.toNat % 100) ++
      stun.mReason) 2 = .ok (UInt16.ofNat ((stun.mErrorCode.toNat / 100) <<< 8 ||| stun.mErrorCode.toNat % 100)) := by
    have hmod : ∀ n : Nat, UInt16.ofNat (n % 256 ^ 2) = UInt16.ofNat n := by
      intro n
      apply UInt16.toNat_inj.mp
      rw [UInt16.toNat_ofNat', UInt16.toNat_ofNat']
      omega
    rw [readWORD_of_le (by simp; omega), wordAt, List.append_assoc,
      slice_append_mid _ _ _ _ _ (length_zeros 2) (length_toBE 2 _), ofBE_toBE, hmod]
  have hdrop : (zeros 2 ++ toBE 2 ((stun.mErrorCode.toNat / 100) <<< 8 ||| stun.mErrorCode.toNat % 100) ++
      stun.mReason).drop 4 = stun.mReason := List.drop_left' (by simp)
  generalize UInt16.ofNat ((stun.mErrorCode.toNat / 100) <<< 8 ||| stun.mErrorCode.toNat % 100) = word at hhundreds htwo hword
  unfold parseAttribute valueOf
  dsimp only
  rw [rejectIf_of_not (by simp; omega), ok_bind, hword, ok_bind, hdrop, parseSTUNString_taken (by decide) hreason]
  generalize (0x700 &&& word) >>> 8 = hundredsDigit at hhundreds ⊢
  generalize 0xFF &&& word = twoDigits at htwo ⊢
  have hthree : hundredsDigit < 3 ↔ stun.mErrorCode.toNat / 100 % 8 < 3 := by
    rw [UInt16.lt_iff_toNat_lt, hhundreds]
    rfl
  have hsix : 6 < hundredsDigit ↔ 6 < stun.mErrorCode.toNat / 100 % 8 := by
    rw [UInt16.lt_iff_toNat_lt, hhundreds]
    rfl
  have hninetynine : ¬99 < twoDigits := by
    rw [UInt16.lt_iff_toNat_lt, htwo]
    change ¬99 < stun.mErrorCode.toNat % 100
    omega
  have hcode : hundredsDigit * 100 + twoDigits =
      UInt16.ofNat (stun.mErrorCode.toNat / 100 % 8 * 100 + stun.mErrorCode.toNat % 100) := by
    apply UInt16.toNat_inj.mp
    rw [UInt16.toNat_add, UInt16.toNat_mul, hhundreds, htwo, UInt16.toNat_ofNat']
    change (stun.mErrorCode.toNat / 100 % 8 * 100 % 2 ^ 16 + stun.mErrorCode.toNat % 100) % 2 ^ 16 = _
    omega
  by_cases hknown : 3 ≤ stun.mErrorCode.toNat / 100 % 8 ∧ stun.mErrorCode.toNat / 100 % 8 ≤ 6
  · have hgood : ¬((hundredsDigit < 3 ∨ 6 < hundredsDigit) ∨ 99 < twoDigits) := by
      rintro ((h | h) | h)
      · exact absurd (hthree.mp h) (by omega)
      · exact absurd (hsix.mp h) (by omega)
      · exact hninetynine h
    rw [if_pos hknown, if_neg hgood, hcode]
    rfl
  · have hbad : (hundredsDigit < 3 ∨ 6 < hundredsDigit) ∨ 99 < twoDigits := by
      rw [hthree, hsix]
      omega
    rw [if_neg hknown, if_pos hbad]
    rfl

theorem parse_addressValue (address : IPAddress) (cookie cookie' : UInt32) (mask : Option (List UInt8)) (xored : Bool)
    (hpacket : 20 ≤ packet.length) (hmask : ∀ l, mask = some l → l.length = 16) :
    ∃ address', parseMappedAddress packet (addressValue ext address cookie mask) cookie' xored = .ok (some address') := by
  have hlength := length_addressValue ext address cookie mask hmask
  have hport := maskedPort_lt (ext.getPort address) cookie
  unfold addressValue addressLength at hlength
  unfold addressValue
  rw [cookie_shift] at hlength ⊢
  dsimp only at hlength ⊢
  cases hv4 : ext.isIPv4 address with
  | true =>
    rw [if_pos rfl]
    exact ⟨_, parse_ipv4 hport _⟩
  | false =>
    rw [hv4, if_neg (by decide), if_neg (by decide), List.length_append] at hlength
    rw [if_neg (by decide)]
    have hhead : (([0x00, 0x02] : List UInt8) ++
        toBE 2 ((ext.getPort address).toUInt32 ^^^ (cookie >>> 16)).toNat).length = 4 := by simp
    rw [hhead] at hlength
    obtain ⟨rawIP, -, hparse⟩ := parse_ipv6 _ xored hport (Nat.add_left_cancel hlength) hpacket rfl
    exact ⟨_, hparse⟩

end Others

end OpenPeer
