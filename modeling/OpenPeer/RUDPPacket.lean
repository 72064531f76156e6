import OpenPeer.Bytes

/-!
# The RUDP packet

The packet record, its flag bytes, the reconstruction of a full sequence number
from its low 24 bits, and the wire format: `packetize` and `parseIfRUDP`.
-/
namespace OpenPeer

open Bytes

/-- The bits of the packet's flag byte. -/
inductive Flags where
  | psParitySending | pgParityGSNR | xpXORedParityToGSNFR | dpDuplicatePacket | ecECNPacket
  | eqGSNREqualsGSNFR | arACKRequired
  deriving DecidableEq, Repr

def Flags.bit : Flags → UInt8
  | .psParitySending => 0x80
  | .pgParityGSNR => 0x40
  | .xpXORedParityToGSNFR => 0x20
  | .dpDuplicatePacket => 0x10
  | .ecECNPacket => 0x08
  | .eqGSNREqualsGSNFR => 0x04
  | .arACKRequired => 0x02

/-- The one bit of the vector flag byte that is used. -/
def vpVectorParity : UInt8 := 0x80

/-- A packet. The data pointer and its length are one byte list; a vector
always has the room of the fixed array it is stored in. -/
structure RUDPPacket where
  mChannelNumber : UInt16
  mSequenceNumber : UInt32
  mFlags : UInt8
  mGSNR : UInt32
  mGSNFR : UInt32
  mVectorFlags : UInt8
  mVectorLengthInBytes : UInt8
  mVector : List UInt8
  mData : List UInt8
  vectorRoom : mVector.length = 128
  deriving DecidableEq, Repr

namespace RUDPPacket

/-- The fixed array that holds the given bytes. -/
def vectorArray (bytes : List UInt8) : List UInt8 := overwrite (zeros 128) 0 (bytes.take 128)

@[simp] theorem length_vectorArray (bytes : List UInt8) : (vectorArray bytes).length = 128 := by
  rw [vectorArray, length_overwrite]
  · simp
  · simp

theorem take_vectorArray (bytes : List UInt8) (h : bytes.length ≤ 128) :
    (vectorArray bytes).take bytes.length = bytes := by
  rw [vectorArray, List.take_of_length_le h, overwrite, List.take_zero, List.nil_append, List.take_left]

def create : RUDPPacket where
  mChannelNumber := 0
  mSequenceNumber := 0
  mFlags := 0
  mGSNR := 0
  mGSNFR := 0
  mVectorFlags := 0
  mVectorLengthInBytes := 0
  mVector := zeros 128
  mData := []
  vectorRoom := length_zeros 128

section Flags

/-- A flag byte tested as the source tests it: every bit of the mask is on. -/
def byteIsSet (b mask : UInt8) : Bool := mask == (b &&& mask)

def byteSet (b mask : UInt8) (on : Bool) : UInt8 := if on then b ||| mask else b &&& (0xFF ^^^ mask)

def isFlagSet (p : RUDPPacket) (f : Flags) : Bool := byteIsSet p.mFlags f.bit

def isVectorFlagSet (p : RUDPPacket) : Bool := byteIsSet p.mVectorFlags vpVectorParity

def setFlag (p : RUDPPacket) (f : Flags) (on : Bool) : RUDPPacket :=
  { p with mFlags := byteSet p.mFlags f.bit on }

def setVectorFlag (p : RUDPPacket) (on : Bool) : RUDPPacket :=
  { p with mVectorFlags := byteSet p.mVectorFlags vpVectorParity on }

theorem or_and_byte (a b c : UInt8) : (a ||| b) &&& c = a &&& c ||| b &&& c :=
  UInt8.toBitVec_inj.mp BitVec.and_or_distrib_right

theorem or_and_self_byte (a b : UInt8) : (a ||| b) &&& b = b := by
  apply UInt8.toBitVec_inj.mp
  ext i hi
  simp only [UInt8.toBitVec_and, UInt8.toBitVec_or, BitVec.getElem_and, BitVec.getElem_or]
  cases a.toBitVec[i] <;> cases b.toBitVec[i] <;> rfl

theorem byteIsSet_byteSet_self (b mask : UInt8) (on : Bool) (hpos : mask ≠ 0)
    (hclear : (0xFF ^^^ mask) &&& mask = 0) : byteIsSet (byteSet b mask on) mask = on := by
  cases on with
  | true => simp [byteIsSet, byteSet, or_and_self_byte]
  | false => simp [byteIsSet, byteSet, UInt8.and_assoc, hclear, hpos]

theorem byteIsSet_byteSet_other (b m n : UInt8) (on : Bool) (hset : m &&& n = 0)
    (hclear : (0xFF ^^^ m) &&& n = n) : byteIsSet (byteSet b m on) n = byteIsSet b n := by
  cases on with
  | true => simp [byteIsSet, byteSet, or_and_byte, hset]
  | false => simp [byteIsSet, byteSet, UInt8.and_assoc, hclear]

theorem byteIsSet_byteSet (b : UInt8) (f g : Flags) (on : Bool) :
    byteIsSet (byteSet b f.bit on) g.bit = if f = g then on else byteIsSet b g.bit := by
  by_cases h : f = g
  · subst h
    rw [if_pos rfl]
    apply byteIsSet_byteSet_self
    · cases f <;> decide
    · cases f <;> decide
  · rw [if_neg h]
    apply byteIsSet_byteSet_other
    · revert h
      cases f <;> cases g <;> decide
    · revert h
      cases f <;> cases g <;> decide

theorem byteIsSet_byteSet_vector (b : UInt8) (on : Bool) :
    byteIsSet (byteSet b vpVectorParity on) vpVectorParity = on :=
  byteIsSet_byteSet_self b vpVectorParity on (by decide) (by decide)

@[simp] theorem isFlagSet_setFlag (p : RUDPPacket) (f g : Flags) (on : Bool) :
    (p.setFlag f on).isFlagSet g = if f = g then on else p.isFlagSet g :=
  byteIsSet_byteSet p.mFlags f g on

@[simp] theorem isVectorFlagSet_setVectorFlag (p : RUDPPacket) (on : Bool) :
    (p.setVectorFlag on).isVectorFlagSet = on :=
  byteIsSet_byteSet_vector p.mVectorFlags on

end Flags

section SequenceNumbers

/-- The 64-bit number nearest to the hint whose low 24 bits are those of `number`. -/
def getNumberWithHint (number : UInt32) (hint : Nat) : Nat :=
  let number := (number &&& 0xFFFFFF).toNat
  let upper := hint / 0x1000000 * 0x1000000
  let merged := upper + number
  if merged < hint then
    let higher := upper + 0x1000000 + number
    let diff1 := higher - hint
    let diff2 := hint - merged
    if diff1 < diff2 then higher else merged
  else if upper < 0x1000000 then
    merged
  else
    let lower := upper - 0x1000000 + number
    let diff1 := hint - lower
    let diff2 := merged - hint
    if diff1 < diff2 then lower else merged

def getSequenceNumber (p : RUDPPacket) (hintLastSequenceNumber : Nat) : Nat :=
  getNumberWithHint p.mSequenceNumber hintLastSequenceNumber

def getGSNR (p : RUDPPacket) (hintLastGSNR : Nat) : Nat := getNumberWithHint p.mGSNR hintLastGSNR

def getGSNFR (p : RUDPPacket) (hintLastGSNFR : Nat) : Nat := getNumberWithHint p.mGSNFR hintLastGSNFR

/-- The low 24 bits of a sequence number, as they are put in a packet. -/
def low24 (n : Nat) : UInt32 := UInt32.ofNat (n % 0x1000000)

def setSequenceNumber (p : RUDPPacket) (sequenceNumber : Nat) : RUDPPacket :=
  { p with mSequenceNumber := low24 sequenceNumber }

def setGSN (p : RUDPPacket) (gsnr gsnfr : Nat) : RUDPPacket :=
  { p.setFlag .eqGSNREqualsGSNFR (gsnr == gsnfr) with mGSNR := low24 gsnr, mGSNFR := low24 gsnfr }

theorem toNat_and_24 (x : UInt32) : (x &&& 0xFFFFFF).toNat = x.toNat % 0x1000000 := by
  rw [UInt32.toNat_and]
  exact Nat.and_two_pow_sub_one_eq_mod x.toNat 24

theorem toNat_low24 (n : Nat) : (low24 n).toNat = n % 0x1000000 := by
  simp only [low24, UInt32.toNat_ofNat']
  omega

@[simp] theorem low24_and (n : Nat) : low24 n &&& 0xFFFFFF = low24 n := by
  apply UInt32.toNat_inj.mp
  rw [toNat_and_24, toNat_low24]
  omega

theorem getNumberWithHint_low24 (n hint : Nat) (hlo : hint < n + 0x800000) (hhi : n < hint + 0x800000) :
    getNumberWithHint (low24 n) hint = n := by
  have hnum : (low24 n &&& 0xFFFFFF).toNat = n % 0x1000000 := by rw [low24_and, toNat_low24]
  simp only [getNumberWithHint, hnum]
  split
  · split <;> omega
  · split
    · omega
    · split <;> omega

end SequenceNumbers

section Wire

/-- What `packetize` throws, named by the check that fails. -/
inductive BadState where
  | dataTooLong | gsnMismatch | vectorTooLong
  deriving DecidableEq, Repr

def minimumPacketLengthInBytes : Nat := 12

def eqFlag (p : RUDPPacket) : Bool := p.mFlags &&& Flags.eqGSNREqualsGSNFR.bit != 0

/-- The second header word is absent when the EQ flag is set. -/
def extendedHeaderLength (eqFlag : Bool) : Nat := if eqFlag then 0 else 4

/-- The used part of the vector array. -/
def vectorBytes (p : RUDPPacket) : List UInt8 := p.mVector.take p.mVectorLengthInBytes.toNat

/-- The header of the output buffer, written field by field over zeros. -/
def writeHeader (p : RUDPPacket) (packet : List UInt8) : List UInt8 :=
  let packet := overwrite packet 0 (toBE 2 p.mChannelNumber.toNat)
  let packet := overwrite packet 2 (toBE 2 p.mData.length)
  let packet := overwrite packet 4 (toBE 4 (p.mSequenceNumber &&& 0xFFFFFF).toNat)
  let packet := overwrite packet 4 [p.mFlags]
  overwrite packet 8 (toBE 4 (p.mGSNR &&& 0xFFFFFF).toNat)

/-- The second header word and the vector, present without the EQ flag. -/
def writeVector (p : RUDPPacket) (packet : List UInt8) : List UInt8 :=
  let packet := overwrite packet 12 (toBE 4 (p.mGSNFR &&& 0xFFFFFF).toNat)
  let packet := overwrite packet 12 [p.mVectorLengthInBytes &&& 0x7F]
  let packet := overwrite packet 12 [packet.getD 12 0 ||| (p.mVectorFlags &&& 0x80)]
  if p.mVectorLengthInBytes ≠ 0 then overwrite packet 16 p.vectorBytes else packet

def packetize (p : RUDPPacket) : Except BadState (List UInt8) :=
  if p.mData.length > 0xFFFF then
    .error .dataTooLong
  else if p.eqFlag ∧ p.mGSNR &&& 0xFFFFFF ≠ p.mGSNFR &&& 0xFFFFFF then
    .error .gsnMismatch
  else
    let length := minimumPacketLengthInBytes + extendedHeaderLength p.eqFlag
      + dwordBoundary p.mVectorLengthInBytes.toNat + p.mData.length
    let packet := p.writeHeader (zeros length)
    if ¬p.eqFlag ∧ p.mVectorLengthInBytes > 0x7F then
      .error .vectorTooLong
    else
      let packet := if p.eqFlag then packet else p.writeVector packet
      if p.mData.length ≠ 0 then
        .ok (overwrite packet (minimumPacketLengthInBytes + extendedHeaderLength p.eqFlag
          + dwordBoundary p.mVectorLengthInBytes.toNat) p.mData)
      else
        .ok packet

/-- The big-endian word of `len` bytes at position `start`. -/
def wordAt (packet : List UInt8) (start len : Nat) : Nat := ofBE (slice packet start len)

def parseIfRUDP (packet : List UInt8) : Option RUDPPacket :=
  if packet.length < minimumPacketLengthInBytes then none else
  let channelNumber := UInt16.ofNat (wordAt packet 0 2)
  let dataLength := wordAt packet 2 2
  let flags := packet.getD 4 0
  let sequenceNumber := UInt32.ofNat (wordAt packet 4 4) &&& 0xFFFFFF
  let gsnr := UInt32.ofNat (wordAt packet 8 4) &&& 0xFFFFFF
  let eqFlag := flags &&& Flags.eqGSNREqualsGSNFR.bit != 0
  if ¬eqFlag ∧ packet.length < minimumPacketLengthInBytes + 4 then none else
  let vectorSize := if eqFlag then 0 else packet.getD 12 0 &&& 0x7F
  let vectorFlags := if eqFlag then 0 else packet.getD 12 0 &&& 0x80
  let gsnfr := if eqFlag then gsnr else UInt32.ofNat (wordAt packet 12 4) &&& 0xFFFFFF
  let dataStart := minimumPacketLengthInBytes + extendedHeaderLength eqFlag
    + dwordBoundary vectorSize.toNat
  if packet.length < dataStart + dataLength then none else
  some
    { create with
      mChannelNumber := channelNumber
      mSequenceNumber := sequenceNumber
      mFlags := flags
      mGSNR := gsnr
      mGSNFR := gsnfr
      mVectorFlags := vectorFlags
      mVectorLengthInBytes := vectorSize
      mVector := vectorArray (slice packet 16 vectorSize.toNat)
      mData := slice packet dataStart dataLength
      vectorRoom := length_vectorArray _ }

/-- How many bytes of data still fit in a packet of the given length. -/
def getRoomAvailableForData (p : RUDPPacket) (maxPacketLengthInBytes : Nat) : Except BadState Nat :=
  if p.eqFlag ∧ p.mGSNR &&& 0xFFFFFF ≠ p.mGSNFR &&& 0xFFFFFF then
    .error .gsnMismatch
  else
    let length := minimumPacketLengthInBytes + extendedHeaderLength p.eqFlag
      + dwordBoundary p.mVectorLengthInBytes.toNat
    if length > maxPacketLengthInBytes then .ok 0 else .ok (maxPacketLengthInBytes - length)

end Wire

end RUDPPacket

end OpenPeer
