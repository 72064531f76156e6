import OpenPeer.RUDPPacket

/-!
# The RUDP packet round trip

`packetize` writes in place; its output is first restated as a concatenation
of the fields. Parsing that concatenation gives one explicit packet, which has
every field of the one sent except possibly the data: with the EQ flag the
writer skips the room of the vector and the reader does not.
-/
namespace OpenPeer

open Bytes

namespace RUDPPacket

section Layout

/-- The twelve bytes every packet starts with. -/
def headerBytes (p : RUDPPacket) : List UInt8 :=
  toBE 2 p.mChannelNumber.toNat ++ toBE 2 p.mData.length ++
    ([p.mFlags] ++ toBE 3 (p.mSequenceNumber &&& 0xFFFFFF).toNat) ++ toBE 4 (p.mGSNR &&& 0xFFFFFF).toNat

/-- The first byte of the second header word: vector length and vector parity. -/
def vectorByte (p : RUDPPacket) : UInt8 := (p.mVectorLengthInBytes &&& 0x7F) ||| (p.mVectorFlags &&& 0x80)

def extendedBytes (p : RUDPPacket) : List UInt8 :=
  if p.eqFlag then [] else [p.vectorByte] ++ toBE 3 (p.mGSNFR &&& 0xFFFFFF).toNat

/-- The vector padded to whole words; with the EQ flag its room only. -/
def vectorArea (p : RUDPPacket) : List UInt8 :=
  if p.eqFlag then zeros (dwordBoundary p.mVectorLengthInBytes.toNat)
  else p.vectorBytes ++ zeros (dwordBoundary p.mVectorLengthInBytes.toNat - p.mVectorLengthInBytes.toNat)

variable (p : RUDPPacket)

@[simp] theorem length_headerBytes : p.headerBytes.length = 12 := by
  simp [headerBytes]

theorem length_extendedBytes : p.extendedBytes.length = extendedHeaderLength p.eqFlag := by
  unfold extendedBytes extendedHeaderLength
  cases p.eqFlag <;> simp

theorem length_vectorBytes (h : p.mVectorLengthInBytes ≤ 0x7F) :
    p.vectorBytes.length = p.mVectorLengthInBytes.toNat := by
  have hle : p.mVectorLengthInBytes.toNat ≤ 127 := h
  rw [vectorBytes, List.length_take, p.vectorRoom]
  omega

theorem length_vectorArea (h : p.eqFlag ∨ p.mVectorLengthInBytes ≤ 0x7F) :
    p.vectorArea.length = dwordBoundary p.mVectorLengthInBytes.toNat := by
  have hle := le_dwordBoundary p.mVectorLengthInBytes.toNat
  unfold vectorArea
  split
  · simp
  · next hne =>
    have hlen := p.length_vectorBytes (h.resolve_left hne)
    simp only [List.length_append, hlen, length_zeros]
    omega

theorem toBE_and_24 (x : UInt32) : toBE 4 (x &&& 0xFFFFFF).toNat = [0] ++ toBE 3 (x &&& 0xFFFFFF).toNat := by
  have hlt : (x &&& 0xFFFFFF).toNat < 256 ^ 3 := by
    rw [toNat_and_24]
    omega
  rw [toBE_succ_left, Nat.div_eq_of_lt hlt]
  rfl

theorem writeHeader_zeros (r : Nat) : p.writeHeader (zeros (12 + r)) = p.headerBytes ++ zeros r := by
  have h1 : overwrite (zeros (12 + r)) 0 (toBE 2 p.mChannelNumber.toNat)
      = toBE 2 p.mChannelNumber.toNat ++ zeros (10 + r) := by
    have h := overwrite_zeros [] (toBE 2 p.mChannelNumber.toNat) 0 (12 + r) (10 + r) rfl
      (by rw [length_toBE]; omega)
    simpa using h
  have h2 := overwrite_zeros (toBE 2 p.mChannelNumber.toNat) (toBE 2 p.mData.length) 2 (10 + r) (8 + r)
    (by simp) (by rw [length_toBE]; omega)
  have h3 := overwrite_zeros (toBE 2 p.mChannelNumber.toNat ++ toBE 2 p.mData.length)
    (toBE 4 (p.mSequenceNumber &&& 0xFFFFFF).toNat) 4 (8 + r) (4 + r) (by simp) (by rw [length_toBE]; omega)
  -- the flag byte replaces the top byte of the sequence number, which is zero
  have h4 : overwrite (toBE 2 p.mChannelNumber.toNat ++ toBE 2 p.mData.length ++
        toBE 4 (p.mSequenceNumber &&& 0xFFFFFF).toNat ++ zeros (4 + r)) 4 [p.mFlags]
      = toBE 2 p.mChannelNumber.toNat ++ toBE 2 p.mData.length ++
        ([p.mFlags] ++ toBE 3 (p.mSequenceNumber &&& 0xFFFFFF).toNat) ++ zeros (4 + r) := by
    rw [toBE_and_24, List.append_assoc, List.append_assoc [0]]
    rw [overwrite_mid _ [0] _ [p.mFlags] 4 (by simp) rfl]
    simp only [List.append_assoc]
  have h5 := overwrite_zeros (toBE 2 p.mChannelNumber.toNat ++ toBE 2 p.mData.length ++
    ([p.mFlags] ++ toBE 3 (p.mSequenceNumber &&& 0xFFFFFF).toNat)) (toBE 4 (p.mGSNR &&& 0xFFFFFF).toNat)
    8 (4 + r) r (by simp) (by rw [length_toBE])
  simp only [writeHeader, h1, h2, h3, h4, h5, headerBytes]

theorem writeVector_header (r : Nat) (heq : p.eqFlag = false) (hv : p.mVectorLengthInBytes ≤ 0x7F) :
    p.writeVector (p.headerBytes ++ zeros (4 + (dwordBoundary p.mVectorLengthInBytes.toNat + r)))
      = p.headerBytes ++ p.extendedBytes ++ p.vectorArea ++ zeros r := by
  have hlen := p.length_vectorBytes hv
  have hle := le_dwordBoundary p.mVectorLengthInBytes.toNat
  have h1 : overwrite (p.headerBytes ++ zeros (4 + (dwordBoundary p.mVectorLengthInBytes.toNat + r))) 12
      (toBE 4 (p.mGSNFR &&& 0xFFFFFF).toNat) = p.headerBytes ++ ([0] ++
        (toBE 3 (p.mGSNFR &&& 0xFFFFFF).toNat ++ zeros (dwordBoundary p.mVectorLengthInBytes.toNat + r))) := by
    rw [overwrite_zeros p.headerBytes (toBE 4 (p.mGSNFR &&& 0xFFFFFF).toNat) 12 _
      (dwordBoundary p.mVectorLengthInBytes.toNat + r) (by simp) (by rw [length_toBE]), toBE_and_24]
    simp only [List.append_assoc]
  -- the first byte of the word is written twice more: length, then length and parity
  have hbyte (b c : UInt8) (rest : List UInt8) :
      overwrite (p.headerBytes ++ ([b] ++ rest)) 12 [c] = p.headerBytes ++ ([c] ++ rest) :=
    overwrite_mid p.headerBytes [b] rest [c] 12 (by simp) rfl
  have hget (b : UInt8) (rest : List UInt8) : (p.headerBytes ++ ([b] ++ rest)).getD 12 0 = b := by
    simp [List.getD]
  have hhead : p.extendedBytes = [p.vectorByte] ++ toBE 3 (p.mGSNFR &&& 0xFFFFFF).toNat := by
    simp [extendedBytes, heq]
  have harea : p.vectorArea = p.vectorBytes ++
      zeros (dwordBoundary p.mVectorLengthInBytes.toNat - p.mVectorLengthInBytes.toNat) := by
    simp [vectorArea, heq]
  simp only [writeVector]
  rw [h1, hbyte, hget, hbyte, harea, hhead, vectorByte]
  split
  · next hpos =>
    have hw := overwrite_zeros (p.headerBytes ++ ([p.vectorByte] ++ toBE 3 (p.mGSNFR &&& 0xFFFFFF).toNat))
      p.vectorBytes 16 (dwordBoundary p.mVectorLengthInBytes.toNat + r)
      (dwordBoundary p.mVectorLengthInBytes.toNat - p.mVectorLengthInBytes.toNat + r)
      (by simp) (by omega)
    rw [zeros_add _ r] at hw
    simpa only [vectorByte, List.append_assoc, zeros_add _ r] using hw
  · next hzero =>
    have hz : p.mVectorLengthInBytes = 0 := by simpa using hzero
    simp [vectorBytes, hz, zeros]

/-- The packetized bytes as one concatenation, and the checks that let them through. -/
theorem packetize_layout (bytes : List UInt8) (h : p.packetize = .ok bytes) :
    bytes = p.headerBytes ++ p.extendedBytes ++ p.vectorArea ++ p.mData ∧ p.mData.length ≤ 0xFFFF ∧
      (p.eqFlag → p.mGSNR &&& 0xFFFFFF = p.mGSNFR &&& 0xFFFFFF) ∧
      (p.eqFlag ∨ p.mVectorLengthInBytes ≤ 0x7F) := by
  unfold packetize at h
  split at h
  · cases h
  next hdata =>
  split at h
  · cases h
  next hgsn =>
  simp only at h
  split at h
  · cases h
  next hlong =>
  have hgsn' : p.eqFlag → p.mGSNR &&& 0xFFFFFF = p.mGSNFR &&& 0xFFFFFF := by
    intro heq
    by_contra hne
    exact hgsn ⟨heq, hne⟩
  have hvec : p.eqFlag ∨ p.mVectorLengthInBytes ≤ 0x7F := by
    by_cases heq : p.eqFlag
    · exact Or.inl heq
    · exact Or.inr (UInt8.not_lt.mp fun hlt => hlong ⟨heq, hlt⟩)
  refine ⟨?_, by omega, hgsn', hvec⟩
  have hbody : (if p.eqFlag then p.writeHeader (zeros (minimumPacketLengthInBytes
        + extendedHeaderLength p.eqFlag + dwordBoundary p.mVectorLengthInBytes.toNat + p.mData.length))
      else p.writeVector (p.writeHeader (zeros (minimumPacketLengthInBytes
        + extendedHeaderLength p.eqFlag + dwordBoundary p.mVectorLengthInBytes.toNat + p.mData.length))))
      = p.headerBytes ++ p.extendedBytes ++ p.vectorArea ++ zeros p.mData.length := by
    by_cases heq : p.eqFlag
    · rw [if_pos heq, show minimumPacketLengthInBytes + extendedHeaderLength p.eqFlag
        + dwordBoundary p.mVectorLengthInBytes.toNat + p.mData.length
        = 12 + (dwordBoundary p.mVectorLengthInBytes.toNat + p.mData.length) by
          simp [minimumPacketLengthInBytes, extendedHeaderLength, heq]; omega]
      rw [writeHeader_zeros, zeros_add]
      simp [extendedBytes, vectorArea, heq, List.append_assoc]
    · have heq' : p.eqFlag = false := by simpa using heq
      rw [if_neg heq, show minimumPacketLengthInBytes + extendedHeaderLength p.eqFlag
        + dwordBoundary p.mVectorLengthInBytes.toNat + p.mData.length
        = 12 + (4 + (dwordBoundary p.mVectorLengthInBytes.toNat + p.mData.length)) by
          simp [minimumPacketLengthInBytes, extendedHeaderLength, heq]; omega]
      rw [writeHeader_zeros, writeVector_header p _ heq' (hvec.resolve_left heq)]
  rw [hbody] at h
  have hlen : (p.headerBytes ++ p.extendedBytes ++ p.vectorArea).length
      = minimumPacketLengthInBytes + extendedHeaderLength p.eqFlag
        + dwordBoundary p.mVectorLengthInBytes.toNat := by
    simp [length_extendedBytes, length_vectorArea p hvec, minimumPacketLengthInBytes, Nat.add_assoc]
  split at h
  · rw [overwrite_zeros _ p.mData _ p.mData.length 0 hlen (by simp)] at h
    simpa [zeros] using (Except.ok.inj h).symm
  · next hnone =>
    have hnil : p.mData = [] := by simpa using hnone
    simpa [hnil, zeros] using (Except.ok.inj h).symm

end Layout

section Parse

theorem wordAt_mid (a b c : List UInt8) (start len : Nat) (ha : a.length = start) (hb : b.length = len) :
    wordAt (a ++ (b ++ c)) start len = ofBE b := by
  rw [wordAt, slice_append_mid a b c start len ha hb]

theorem low24_word (b : UInt8) (x : UInt32) :
    UInt32.ofNat (ofBE ([b] ++ toBE 3 (x &&& 0xFFFFFF).toNat)) &&& 0xFFFFFF = x &&& 0xFFFFFF := by
  apply UInt32.toNat_inj.mp
  have hx := toNat_and_24 x
  rw [toNat_and_24, List.singleton_append, ofBE_cons, ofBE_toBE, length_toBE, UInt32.toNat_ofNat', hx]
  omega

theorem low24_full_word (x : UInt32) :
    UInt32.ofNat (ofBE (toBE 4 (x &&& 0xFFFFFF).toNat)) &&& 0xFFFFFF = x &&& 0xFFFFFF := by
  rw [toBE_and_24]
  exact low24_word 0 x

theorem vectorByte_length (p : RUDPPacket) (h : p.mVectorLengthInBytes ≤ 0x7F) :
    p.vectorByte &&& 0x7F = p.mVectorLengthInBytes := by
  have hself : p.mVectorLengthInBytes &&& 0x7F = p.mVectorLengthInBytes := by
    revert h
    apply forall_byte (P := fun b => b ≤ 0x7F → b &&& 0x7F = b)
    decide +kernel
  rw [vectorByte, or_and_byte, hself, hself, UInt8.and_assoc, show (0x80 : UInt8) &&& 0x7F = 0 from rfl,
    UInt8.and_zero, UInt8.or_zero]

theorem vectorByte_flags (p : RUDPPacket) : p.vectorByte &&& 0x80 = p.mVectorFlags &&& 0x80 := by
  rw [vectorByte, or_and_byte, UInt8.and_assoc, UInt8.and_assoc, show (0x7F : UInt8) &&& 0x80 = 0 from rfl,
    show (0x80 : UInt8) &&& 0x80 = 0x80 from rfl, UInt8.and_zero, UInt8.zero_or]

variable (p : RUDPPacket) (rest : List UInt8)

theorem header_channelNumber : wordAt (p.headerBytes ++ rest) 0 2 = p.mChannelNumber.toNat := by
  have h := wordAt_mid [] (toBE 2 p.mChannelNumber.toNat) (toBE 2 p.mData.length ++
    ([p.mFlags] ++ (toBE 3 (p.mSequenceNumber &&& 0xFFFFFF).toNat ++
      (toBE 4 (p.mGSNR &&& 0xFFFFFF).toNat ++ rest)))) 0 2 rfl (by simp)
  have hlt := p.mChannelNumber.toNat_lt
  rw [ofBE_toBE_of_lt 2 _ (by omega)] at h
  simpa only [headerBytes, List.append_assoc, List.nil_append] using h

theorem header_dataLength (h : p.mData.length ≤ 0xFFFF) :
    wordAt (p.headerBytes ++ rest) 2 2 = p.mData.length := by
  have h := wordAt_mid (toBE 2 p.mChannelNumber.toNat) (toBE 2 p.mData.length)
    ([p.mFlags] ++ (toBE 3 (p.mSequenceNumber &&& 0xFFFFFF).toNat ++
      (toBE 4 (p.mGSNR &&& 0xFFFFFF).toNat ++ rest))) 2 2 (by simp) (by simp)
  rw [ofBE_toBE_of_lt 2 _ (by omega)] at h
  simpa only [headerBytes, List.append_assoc] using h

theorem header_flags : (p.headerBytes ++ rest).getD 4 0 = p.mFlags := by
  have hshape : p.headerBytes ++ rest = (toBE 2 p.mChannelNumber.toNat ++ toBE 2 p.mData.length) ++
      (p.mFlags :: (toBE 3 (p.mSequenceNumber &&& 0xFFFFFF).toNat ++
        (toBE 4 (p.mGSNR &&& 0xFFFFFF).toNat ++ rest))) := by
    simp only [headerBytes, List.append_assoc, List.cons_append, List.nil_append]
  rw [hshape, List.getD, List.getElem?_append_right (by simp)]
  simp

theorem header_sequenceNumber :
    UInt32.ofNat (wordAt (p.headerBytes ++ rest) 4 4) &&& 0xFFFFFF = p.mSequenceNumber &&& 0xFFFFFF := by
  have h := wordAt_mid (toBE 2 p.mChannelNumber.toNat ++ toBE 2 p.mData.length)
    ([p.mFlags] ++ toBE 3 (p.mSequenceNumber &&& 0xFFFFFF).toNat)
    (toBE 4 (p.mGSNR &&& 0xFFFFFF).toNat ++ rest) 4 4 (by simp) (by simp)
  simp only [headerBytes, List.append_assoc] at h ⊢
  rw [h]
  exact low24_word p.mFlags p.mSequenceNumber

theorem header_gsnr :
    UInt32.ofNat (wordAt (p.headerBytes ++ rest) 8 4) &&& 0xFFFFFF = p.mGSNR &&& 0xFFFFFF := by
  have h := wordAt_mid (toBE 2 p.mChannelNumber.toNat ++ toBE 2 p.mData.length ++
    ([p.mFlags] ++ toBE 3 (p.mSequenceNumber &&& 0xFFFFFF).toNat)) (toBE 4 (p.mGSNR &&& 0xFFFFFF).toNat)
    rest 8 4 (by simp) (by simp)
  simp only [headerBytes, List.append_assoc] at h ⊢
  rw [h]
  exact low24_full_word p.mGSNR

theorem extended_word (heq : p.eqFlag = false) :
    UInt32.ofNat (wordAt (p.headerBytes ++ (p.extendedBytes ++ rest)) 12 4) &&& 0xFFFFFF
      = p.mGSNFR &&& 0xFFFFFF := by
  rw [wordAt_mid p.headerBytes p.extendedBytes rest 12 4 (by simp) (by simp [extendedBytes, heq])]
  simp only [extendedBytes, heq]
  exact low24_word p.vectorByte p.mGSNFR

theorem extended_byte (heq : p.eqFlag = false) :
    (p.headerBytes ++ (p.extendedBytes ++ rest)).getD 12 0 = p.vectorByte := by
  simp [List.getD, extendedBytes, heq]

theorem extended_vector (heq : p.eqFlag = false) (hv : p.mVectorLengthInBytes ≤ 0x7F) :
    slice (p.headerBytes ++ (p.extendedBytes ++ (p.vectorArea ++ rest))) 16 p.mVectorLengthInBytes.toNat
      = p.vectorBytes := by
  have harea : p.vectorArea ++ rest = p.vectorBytes ++ (zeros
      (dwordBoundary p.mVectorLengthInBytes.toNat - p.mVectorLengthInBytes.toNat) ++ rest) := by
    simp [vectorArea, heq]
  rw [harea, ← List.append_assoc p.headerBytes]
  exact slice_append_mid _ p.vectorBytes _ 16 _ (by simp [extendedBytes, heq]) (p.length_vectorBytes hv)

theorem extended_data (heq : p.eqFlag = false) (hv : p.mVectorLengthInBytes ≤ 0x7F) :
    slice (p.headerBytes ++ (p.extendedBytes ++ (p.vectorArea ++ p.mData)))
      (minimumPacketLengthInBytes + extendedHeaderLength false + dwordBoundary p.mVectorLengthInBytes.toNat)
      p.mData.length = p.mData := by
  have hlen := p.length_vectorArea (Or.inr hv)
  rw [← List.append_assoc, ← List.append_assoc, slice_append _ p.mData]
  · exact List.take_length
  · simp [length_extendedBytes, heq, hlen, minimumPacketLengthInBytes, Nat.add_assoc]

/-- What the parser makes of the bytes of `p`. -/
def received : RUDPPacket where
  mChannelNumber := p.mChannelNumber
  mSequenceNumber := p.mSequenceNumber &&& 0xFFFFFF
  mFlags := p.mFlags
  mGSNR := p.mGSNR &&& 0xFFFFFF
  mGSNFR := p.mGSNFR &&& 0xFFFFFF
  mVectorFlags := if p.eqFlag then 0 else p.mVectorFlags &&& 0x80
  mVectorLengthInBytes := if p.eqFlag then 0 else p.mVectorLengthInBytes
  mVector := vectorArray (if p.eqFlag then [] else p.vectorBytes)
  mData := ((if p.eqFlag then zeros (dwordBoundary p.mVectorLengthInBytes.toNat) else []) ++ p.mData).take
    p.mData.length
  vectorRoom := length_vectorArray _

/-- The parser accepts every packetized packet, and this is what it returns. -/
theorem parse_packetize (bytes : List UInt8) (h : p.packetize = .ok bytes) :
    parseIfRUDP bytes = some p.received := by
  obtain ⟨hbytes, hdata, hgsn, hvec⟩ := packetize_layout p bytes h
  have hshape : bytes = p.headerBytes ++ (p.extendedBytes ++ (p.vectorArea ++ p.mData)) := by
    rw [hbytes]
    simp only [List.append_assoc]
  have hlen : bytes.length = 12 + extendedHeaderLength p.eqFlag
      + dwordBoundary p.mVectorLengthInBytes.toNat + p.mData.length := by
    rw [hbytes]
    simp [length_extendedBytes, length_vectorArea p hvec, Nat.add_assoc]
  have hchannel := p.header_channelNumber (p.extendedBytes ++ (p.vectorArea ++ p.mData))
  have hlength := p.header_dataLength (p.extendedBytes ++ (p.vectorArea ++ p.mData)) hdata
  have hflags := p.header_flags (p.extendedBytes ++ (p.vectorArea ++ p.mData))
  have hsequence := p.header_sequenceNumber (p.extendedBytes ++ (p.vectorArea ++ p.mData))
  have hgsnr := p.header_gsnr (p.extendedBytes ++ (p.vectorArea ++ p.mData))
  rw [← hshape] at hchannel hlength hflags hsequence hgsnr
  have heq : (p.mFlags &&& Flags.eqGSNREqualsGSNFR.bit != 0) = p.eqFlag := rfl
  have hge : ¬bytes.length < minimumPacketLengthInBytes := by
    simp only [minimumPacketLengthInBytes]
    omega
  simp only [parseIfRUDP, hchannel, hlength, hflags, hsequence, hgsnr, heq, if_neg hge]
  by_cases he : p.eqFlag = true
  · have hsize : ¬bytes.length < minimumPacketLengthInBytes + extendedHeaderLength true
        + dwordBoundary (0 : UInt8).toNat + p.mData.length := by
      rw [he] at hlen
      simp [minimumPacketLengthInBytes, extendedHeaderLength] at hlen ⊢
      omega
    have hslice : slice bytes (minimumPacketLengthInBytes + extendedHeaderLength true
        + dwordBoundary (0 : UInt8).toNat) p.mData.length
        = (zeros (dwordBoundary p.mVectorLengthInBytes.toNat) ++ p.mData).take p.mData.length := by
      rw [hshape]
      simp only [extendedBytes, vectorArea, he, if_true, List.nil_append]
      exact slice_append p.headerBytes _ 12 _ (by simp)
    simp only [he, if_true, not_true_eq_false, false_and, if_false]
    rw [if_neg hsize, hslice]
    simp [received, he, hgsn he, slice]
  · have he' : p.eqFlag = false := by simpa using he
    have hv := hvec.resolve_left he
    have hvlen := p.length_vectorBytes hv
    have hword := p.extended_word (p.vectorArea ++ p.mData) he'
    have hbyte := p.extended_byte (p.vectorArea ++ p.mData) he'
    have hvector := p.extended_vector p.mData he' hv
    have hpayload := p.extended_data he' hv
    rw [← hshape] at hword hbyte hvector hpayload
    have hroom : ¬bytes.length < minimumPacketLengthInBytes + 4 := by
      rw [he'] at hlen
      simp [minimumPacketLengthInBytes, extendedHeaderLength] at hlen ⊢
      omega
    have hsize : ¬bytes.length < minimumPacketLengthInBytes + extendedHeaderLength false
        + dwordBoundary p.mVectorLengthInBytes.toNat + p.mData.length := by
      rw [he'] at hlen
      simp [minimumPacketLengthInBytes, extendedHeaderLength] at hlen ⊢
      omega
    simp only [he', Bool.false_eq_true, if_false, not_false_eq_true, true_and, if_neg hroom, hbyte,
      p.vectorByte_length hv, p.vectorByte_flags, hword]
    rw [if_neg hsize]
    simp [received, he', hvector, hpayload]

end Parse

section RoundTrip

/-- `q` has the content of `p`: numbers to 24 bits, and the vector when there is one. -/
structure SameContent (p q : RUDPPacket) : Prop where
  channelNumber : q.mChannelNumber = p.mChannelNumber
  sequenceNumber : q.mSequenceNumber = p.mSequenceNumber &&& 0xFFFFFF
  flags : q.mFlags = p.mFlags
  gsnr : q.mGSNR = p.mGSNR &&& 0xFFFFFF
  gsnfr : q.mGSNFR = p.mGSNFR &&& 0xFFFFFF
  data : q.mData = p.mData
  vector : p.eqFlag = false → q.vectorBytes = p.vectorBytes ∧
    q.mVectorLengthInBytes = p.mVectorLengthInBytes ∧ q.isVectorFlagSet = p.isVectorFlagSet

/-- Vector and data of `q` are parts of the given bytes, as long as the header says. -/
structure Inside (packet : List UInt8) (q : RUDPPacket) : Prop where
  header : minimumPacketLengthInBytes + extendedHeaderLength q.eqFlag ≤ packet.length
  vector : q.mVectorLengthInBytes ≠ 0 → 16 + q.mVectorLengthInBytes.toNat ≤ packet.length ∧
    q.vectorBytes = slice packet 16 q.mVectorLengthInBytes.toNat
  data : ∃ start, start + wordAt packet 2 2 ≤ packet.length ∧ q.mData = slice packet start (wordAt packet 2 2)

variable (p : RUDPPacket)

theorem received_vectorBytes (heq : p.eqFlag = false) (hv : p.mVectorLengthInBytes ≤ 0x7F) :
    p.received.vectorBytes = p.vectorBytes := by
  have hlen := p.length_vectorBytes hv
  have hle : p.mVectorLengthInBytes.toNat ≤ 127 := hv
  have htake := take_vectorArray p.vectorBytes (by omega)
  rw [hlen] at htake
  simpa [received, vectorBytes, heq] using htake

theorem received_isVectorFlagSet (heq : p.eqFlag = false) : p.received.isVectorFlagSet = p.isVectorFlagSet := by
  simp [isVectorFlagSet, byteIsSet, received, heq, vpVectorParity, UInt8.and_assoc]

theorem received_data :
    p.received.mData = p.mData ↔
      p.eqFlag = false ∨ p.mVectorLengthInBytes = 0 ∨ ∀ b ∈ p.mData, b = 0 := by
  cases heq : p.eqFlag with
  | false => simp [received, heq]
  | true =>
    by_cases hv : p.mVectorLengthInBytes = 0
    · simp [received, heq, hv, zeros]
    · have hpos : 0 < dwordBoundary p.mVectorLengthInBytes.toNat := by
        have hne : p.mVectorLengthInBytes.toNat ≠ 0 := fun h => hv (UInt8.toNat_inj.mp h)
        have hle := le_dwordBoundary p.mVectorLengthInBytes.toNat
        omega
      simp only [received, heq, if_true, hv, Bool.true_eq_false, false_or]
      exact take_zeros_append _ p.mData hpos

theorem received_sameContent (hvec : p.eqFlag ∨ p.mVectorLengthInBytes ≤ 0x7F) :
    SameContent p p.received ↔ p.received.mData = p.mData := by
  constructor
  · intro h
    exact h.data
  · intro hdata
    refine ⟨rfl, rfl, rfl, rfl, rfl, hdata, ?_⟩
    intro heq
    have hv : p.mVectorLengthInBytes ≤ 0x7F := hvec.resolve_left (by simp [heq])
    exact ⟨p.received_vectorBytes heq hv, by simp [received, heq], p.received_isVectorFlagSet heq⟩

/-- Whatever the bytes, an accepted packet reads nothing outside them. -/
theorem parseIfRUDP_inside (packet : List UInt8) (q : RUDPPacket) (h : parseIfRUDP packet = some q) :
    Inside packet q := by
  have hbyte : (packet.getD 12 0 &&& 0x7F).toNat ≤ 127 := by
    apply forall_byte (P := fun b => (b &&& 0x7F).toNat ≤ 127)
    decide +kernel
  by_cases hmin : packet.length < minimumPacketLengthInBytes
  · simp [parseIfRUDP, hmin] at h
  by_cases heq : (packet.getD 4 0 &&& Flags.eqGSNREqualsGSNFR.bit != 0) = true
  · simp only [parseIfRUDP, hmin, heq, if_false, if_true, not_true_eq_false, false_and] at h
    split at h
    · cases h
    next hfit =>
    have hq := (Option.some.inj h).symm
    have hqeq : q.eqFlag = true := by rw [hq]; exact heq
    refine ⟨?_, ?_, _, Nat.le_of_not_lt hfit, by rw [hq]⟩
    · simpa [hqeq, extendedHeaderLength] using hmin
    · intro hne
      rw [hq] at hne
      exact absurd rfl hne
  · have heq' : (packet.getD 4 0 &&& Flags.eqGSNREqualsGSNFR.bit != 0) = false := by simpa using heq
    simp only [parseIfRUDP, hmin, heq', if_false, Bool.false_eq_true, not_false_eq_true, true_and] at h
    split at h
    · cases h
    next hext =>
    split at h
    · cases h
    next hfit =>
    have hq := (Option.some.inj h).symm
    have hqeq : q.eqFlag = false := by rw [hq]; exact heq'
    have hsize : q.mVectorLengthInBytes = packet.getD 12 0 &&& 0x7F := by rw [hq]
    have hroom := le_dwordBoundary (packet.getD 12 0 &&& 0x7F).toNat
    have hinside : 16 + (packet.getD 12 0 &&& 0x7F).toNat ≤ packet.length := by
      simp only [minimumPacketLengthInBytes, extendedHeaderLength] at hfit
      simp only [Bool.false_eq_true, if_false] at hfit
      omega
    refine ⟨?_, ?_, _, Nat.le_of_not_lt hfit, by rw [hq]⟩
    · simpa [hqeq, extendedHeaderLength] using hext
    · intro hne
      refine ⟨by rw [hsize]; exact hinside, ?_⟩
      have hslice := length_slice packet 16 (packet.getD 12 0 &&& 0x7F).toNat hinside
      have htake := take_vectorArray (slice packet 16 (packet.getD 12 0 &&& 0x7F).toNat) (by omega)
      rw [hslice] at htake
      rw [hq]
      exact htake

/-- The wire format round trip: on the packets `packetize` accepts the content comes back
exactly when no vector room stands between an EQ header and data that is not all zeros, and
on every byte string the parser stays inside it. -/
theorem packet_round_trip (p : RUDPPacket) (bytes : List UInt8) :
    (p.packetize = .ok bytes →
      ((∃ q, parseIfRUDP bytes = some q ∧ SameContent p q) ↔
        p.eqFlag = false ∨ p.mVectorLengthInBytes = 0 ∨ ∀ b ∈ p.mData, b = 0)) ∧
    ∀ q : RUDPPacket, parseIfRUDP bytes = some q → Inside bytes q := by
  refine ⟨?_, fun q => parseIfRUDP_inside bytes q⟩
  intro h
  obtain ⟨-, -, -, hvec⟩ := packetize_layout p bytes h
  rw [parse_packetize p bytes h, ← received_data, ← received_sameContent p hvec]
  constructor
  · rintro ⟨q, hq, hsame⟩
    cases hq
    exact hsame
  · intro hsame
    exact ⟨p.received, rfl, hsame⟩

/-- A packet with a second header word, one vector byte and one data byte. -/
def withVector : RUDPPacket :=
  { create with mVectorLengthInBytes := 1, mVector := vectorArray [0x41], mData := [7],
                vectorRoom := length_vectorArray _ }

theorem withVector_round_trip :
    ∃ q, parseIfRUDP [0, 0, 0, 1, 0, 0, 0, 0, 0, 0, 0, 0, 1, 0, 0, 0, 0x41, 0, 0, 0, 7] = some q ∧
      SameContent withVector q :=
  ((packet_round_trip withVector _).1 (by decide)).mpr (Or.inl (by decide))

/-- An EQ packet with one vector byte and one data byte. -/
def eqWithVector : RUDPPacket :=
  { create with mFlags := 0x04, mVectorLengthInBytes := 1, mData := [7], vectorRoom := create.vectorRoom }

/-- Its bytes parse to a packet that carries a zero in place of its data. -/
theorem eqWithVector_data_lost :
    ¬∀ (p : RUDPPacket) (bytes : List UInt8), p.packetize = .ok bytes →
      ∃ q, parseIfRUDP bytes = some q ∧ SameContent p q := by
  intro h
  obtain ⟨q, hq, hsame⟩ := h eqWithVector
    [0, 0, 0, 1, 4, 0, 0, 0, 0, 0, 0, 0, 0, 0, 0, 0, 7] (by decide)
  have hdata : (parseIfRUDP [0, 0, 0, 1, 4, 0, 0, 0, 0, 0, 0, 0, 0, 0, 0, 0, 7]).map (·.mData) = some [0] := by
    decide
  rw [hq] at hdata
  have hq0 : q.mData = [0] := by simpa using hdata
  have hq7 : q.mData = [7] := hsame.data
  simp [hq0] at hq7

end RoundTrip

end RUDPPacket

end OpenPeer
