import OpenPeer.Framing
import OpenPeer.STUNPacketStream

/-!
# The frames of a TURN connection

STUN packets and channel data are self-delimiting frames: the look-ahead finds a whole
one at the front of the buffer and tells it from a part of one. Of a part of a STUN
packet it also tells the size once there are eight bytes, and that is taken for a packet.
-/
namespace OpenPeer

open Bytes Framing TURNSocket

variable {ext : Externals} {range : ChannelRange}

/-- A frame as it is on the wire. -/
def TURNFrame.encode : TURNFrame → List UInt8
  | .stun bytes _ => bytes
  | .channelData channel data padding => toBE 2 channel.toNat ++ (toBE 2 data.length ++ (data ++ padding))

/-- A STUN packet that is accepted for TURN and has the length its header says, or channel data with
a channel number in the range of the socket. -/
def TURNFrame.Valid (ext : Externals) (range : ChannelRange) : TURNFrame → Prop
  | .stun bytes packet =>
    parseIfSTUN ext bytes RFCs.rfc5766TURN.bit false = .ok packet ∧ bytes.length = 20 + wordAt bytes 2
  | .channelData channel data padding =>
    -- the numbers below 0x4000 are no channel numbers
    0x4000 ≤ channel ∧ range.mLimitChannelToRangeStart ≤ channel ∧ channel ≤ range.mLimitChannelToRangeEnd ∧
      data.length ≤ maxChannelData ∧ padding.length = dwordBoundary data.length - data.length

def TURNFrame.isSTUN : TURNFrame → Bool
  | .stun _ _ => true
  | .channelData _ _ _ => false

section Front

theorem channelBits {channel : UInt16} (h : 0x4000 ≤ channel) : UInt8.ofNat (channel.toNat / 256) &&& 0xC0 ≠ 0 := by
  have hbyte : ∀ b : UInt8, 64 ≤ b.toNat → b &&& 0xC0 ≠ 0 := forall_byte (by decide +kernel)
  have hle : 16384 ≤ channel.toNat := UInt16.le_iff_toNat_le.mp h
  have hlt := channel.toNat_lt
  apply hbyte
  rw [UInt8.toNat_ofNat', Nat.mod_eq_of_lt (by omega)]
  omega

theorem bufferFront_notSTUN {l : List UInt8} (hne : 1 ≤ l.length) (hbits : l.headD 0 &&& 0xC0 ≠ 0) :
    parseStreamIfSTUN ext l RFCs.rfc5766TURN.bit false = .ok ⟨.notSTUN, none, 0⟩ := by
  unfold parseStreamIfSTUN
  dsimp only
  rw [if_neg (by omega), if_pos hbits]

variable {channel : UInt16} {data padding : List UInt8}

theorem headD_channelData (channel : UInt16) (data padding : List UInt8) :
    (TURNFrame.channelData channel data padding).encode.headD 0 = UInt8.ofNat (channel.toNat / 256) := by
  rw [TURNFrame.encode, show 2 = 1 + 1 from rfl, toBE_succ_left, List.cons_append, List.headD_cons]
  rfl

theorem length_channelData (channel : UInt16) (hpadding : padding.length = dwordBoundary data.length - data.length) :
    (TURNFrame.channelData channel data padding).encode.length = 4 + dwordBoundary data.length := by
  have hle := le_dwordBoundary data.length
  rw [TURNFrame.encode]
  simp only [List.length_append, length_toBE]
  omega

theorem channelData_fields (hdata : data.length ≤ maxChannelData) {p : List UInt8}
    (hp : p <+: (TURNFrame.channelData channel data padding).encode) (hle : 4 ≤ p.length) :
    UInt16.ofNat (ofBE (slice p 0 2)) = channel ∧ ofBE (slice p 2 2) = data.length := by
  have hlt : data.length < 256 ^ 2 := lt_of_le_of_lt hdata (by decide)
  have hchannel : channel.toNat < 256 ^ 2 := channel.toNat_lt
  rw [slice_of_front hp (by omega), slice_of_front hp (by omega), TURNFrame.encode]
  constructor
  · rw [← List.nil_append (toBE 2 channel.toNat ++ _), slice_append_mid [] _ _ 0 2 rfl (length_toBE _ _),
      ofBE_toBE_of_lt 2 _ hchannel]
    apply UInt16.toNat_inj.mp
    rw [UInt16.toNat_ofNat']
    exact Nat.mod_eq_of_lt hchannel
  · rw [slice_append_mid _ _ _ 2 2 (length_toBE _ _) (length_toBE _ _), ofBE_toBE_of_lt 2 _ hlt]

variable (hvalid : (TURNFrame.channelData channel data padding).Valid ext range)

include hvalid

theorem channelDataFront_part {p : List UInt8} (hp : p <+: (TURNFrame.channelData channel data padding).encode)
    (hpart : p.length < (TURNFrame.channelData channel data padding).encode.length) :
    channelDataFront range p = .incomplete := by
  obtain ⟨-, hstart, hend, hdata, hpadding⟩ := hvalid
  rw [length_channelData channel hpadding] at hpart
  unfold TURNSocket.channelDataFront
  dsimp only
  by_cases h4 : p.length < 4
  · rw [if_pos h4]
  obtain ⟨hchannel, hlength⟩ := channelData_fields hdata hp (by omega)
  rw [if_neg h4, hchannel, hlength, if_neg, if_pos hpart]
  rintro (hlt | hlt | hlt)
  · exact absurd hlt (UInt16.not_lt.mpr hstart)
  · exact absurd hlt (UInt16.not_lt.mpr hend)
  · exact absurd hlt (Nat.not_lt.mpr hdata)

theorem channelDataFront_whole (rest : List UInt8) :
    channelDataFront range ((TURNFrame.channelData channel data padding).encode ++ rest) =
      .frame (.channelData channel data padding) (TURNFrame.channelData channel data padding).encode.length := by
  obtain ⟨-, hstart, hend, hdata, hpadding⟩ := hvalid
  have hsize := length_channelData channel hpadding
  have hboundary := le_dwordBoundary data.length
  have hfront := List.prefix_append (TURNFrame.channelData channel data padding).encode rest
  have hfields := channelData_fields hdata (List.prefix_refl (TURNFrame.channelData channel data padding).encode)
    (by omega)
  rw [slice_of_front hfront (by omega), slice_of_front hfront (by omega)] at hfields
  have hdataIs : slice ((TURNFrame.channelData channel data padding).encode ++ rest) 4 data.length = data := by
    rw [← slice_of_front hfront (by omega), TURNFrame.encode, ← List.append_assoc]
    exact slice_append_mid _ _ _ 4 _ (by simp) rfl
  have hpaddingIs : slice ((TURNFrame.channelData channel data padding).encode ++ rest) (4 + data.length)
      (dwordBoundary data.length - data.length) = padding := by
    rw [← slice_of_front hfront (by omega), TURNFrame.encode, ← List.append_assoc, ← List.append_assoc,
      ← hpadding, slice_append _ _ _ _ (by simp; omega), List.take_length]
  unfold TURNSocket.channelDataFront
  dsimp only
  rw [hfields.1, hfields.2, List.length_append, if_neg (by omega), if_neg, if_neg (by omega), hdataIs, hpaddingIs,
    hsize]
  rintro (hlt | hlt | hlt)
  · exact absurd hlt (UInt16.not_lt.mpr hstart)
  · exact absurd hlt (UInt16.not_lt.mpr hend)
  · exact absurd hlt (Nat.not_lt.mpr hdata)

end Front

section Code

/-- The frame at the front of a string, when there is a whole one. -/
def nextFrame (ext : Externals) (range : ChannelRange) (l : List UInt8) : Option (TURNFrame × List UInt8) :=
  match parseStreamIfSTUN ext l RFCs.rfc5766TURN.bit false with
  | .error _ => none
  | .ok ahead =>
    match ahead.state, ahead.outSTUN with
    | .notSTUN, _ =>
      match channelDataFront range l with
      | .frame f size => some (f, l.drop size)
      | _ => none
    | .stunPacket, some stun =>
      some (.stun (l.take ahead.outActualSizeInBytes) stun, l.drop ahead.outActualSizeInBytes)
    | _, _ => none

theorem channelDataFront_size {l : List UInt8} {f : TURNFrame} {size : Nat}
    (h : channelDataFront range l = .frame f size) : 4 ≤ size ∧ size ≤ l.length := by
  unfold TURNSocket.channelDataFront at h
  dsimp only at h
  split_ifs at h
  cases h
  omega

/-- What is at the front of the buffer is a frame just when there is a whole one. -/
theorem bufferFront_next {l : List UInt8} (hroom : l.length ≤ readBufferSize) :
    match nextFrame ext range l with
    | some (f, rest) => ∃ size, bufferFront ext range l = .frame f size ∧ 4 ≤ size ∧ size ≤ l.length ∧
        rest = l.drop size
    | none => ∀ f size, bufferFront ext range l ≠ .frame f size := by
  unfold nextFrame bufferFront
  cases hahead : parseStreamIfSTUN ext l RFCs.rfc5766TURN.bit false with
  | error f => exact fun _ _ h => nomatch h
  | ok ahead =>
    obtain ⟨hpacket, hnone⟩ := parseStreamIfSTUN_sizes hahead
    obtain ⟨state, outSTUN, size⟩ := ahead
    dsimp only at hpacket hnone ⊢
    cases state with
    | notSTUN =>
      rw [hnone rfl, if_neg (fun h => h.1 rfl), if_neg (fun h => h.1 rfl)]
      cases hfront : channelDataFront range l with
      | frame f size =>
        obtain ⟨hfour, hle⟩ := channelDataFront_size hfront
        exact ⟨size, rfl, hfour, hle, rfl⟩
      | incomplete | bogus | threw => exact fun _ _ h => nomatch h
    | stunPacket =>
      obtain ⟨hsome, htwenty, hle, hwords⟩ := hpacket rfl
      obtain ⟨stun, rfl⟩ := Option.isSome_iff_exists.mp hsome
      have hroom : l.length ≤ 65539 := hroom
      rw [if_neg (fun h => nomatch h.2), if_neg]
      · exact ⟨size, rfl, by omega, hle, rfl⟩
      · rintro ⟨-, hlt⟩
        have hlt : 65536 < size := hlt
        omega
    | insufficientDataToDetermine | appearsSTUNButPacketNotFullyAvailable =>
      dsimp only
      intro f size
      split_ifs <;> exact fun h => nomatch h

theorem nextFrame_encode (f : TURNFrame) (h : f.Valid ext range) (rest : List UInt8) :
    nextFrame ext range (f.encode ++ rest) = some (f, rest) := by
  unfold nextFrame
  cases f with
  | stun bytes packet =>
    obtain ⟨hparse, hsize⟩ := h
    rw [TURNFrame.encode, parseStreamIfSTUN_whole hparse hsize]
    dsimp only
    rw [List.take_left, List.drop_left]
  | channelData channel data padding =>
    have hhead := headD_channelData channel data padding
    have hlength := length_channelData channel h.2.2.2.2
    rw [bufferFront_notSTUN (by rw [List.length_append]; omega)]
    · dsimp only
      rw [channelDataFront_whole h]
      dsimp only
      rw [List.drop_left]
    · rw [← headD_of_front (List.prefix_append _ rest) (by omega), hhead]
      exact channelBits h.1

/-- What is at the front of the buffer is a part of a frame: of a packet with eight bytes the size is
known already. -/
theorem bufferFront_part (f : TURNFrame) (h : f.Valid ext range) {p : List UInt8} (hp : p <+: f.encode)
    (hpart : p.length < f.encode.length) :
    bufferFront ext range p = if f.isSTUN ∧ 8 ≤ p.length then .threw .invalidAssumption else .incomplete := by
  unfold bufferFront
  cases f with
  | stun bytes packet =>
    obtain ⟨hparse, hsize⟩ := h
    rw [parseStreamIfSTUN_part (acceptedHeader hparse) hsize hp hpart]
    by_cases h8 : p.length < 8
    · rw [if_pos h8, if_neg (by omega)]
      rfl
    · have htwenty := (acceptedHeader hparse).twenty
      rw [if_neg h8, if_pos ⟨rfl, by omega⟩]
      dsimp only
      rw [if_pos ⟨by omega, rfl⟩]
  | channelData channel data padding =>
    rw [if_neg (fun h => nomatch h.1)]
    by_cases hempty : p = []
    · subst hempty
      rfl
    · have hpos := List.length_pos_iff.mpr hempty
      rw [bufferFront_notSTUN hpos]
      · exact channelDataFront_part h hp hpart
      · rw [headD_of_front hp hpos, headD_channelData]
        exact channelBits h.1

theorem nextFrame_short (f : TURNFrame) (h : f.Valid ext range) (p q : List UInt8) (hpq : p ++ q = f.encode)
    (hq : q ≠ []) : nextFrame ext range p = none := by
  have hp : p <+: f.encode := ⟨q, hpq⟩
  have hpart : p.length < f.encode.length := by
    rw [← hpq, List.length_append]
    have := List.length_pos_iff.mpr hq
    omega
  unfold nextFrame
  cases f with
  | stun bytes packet =>
    obtain ⟨hparse, hsize⟩ := h
    rw [parseStreamIfSTUN_part (acceptedHeader hparse) hsize hp hpart]
    split_ifs <;> rfl
  | channelData channel data padding =>
    by_cases hempty : p = []
    · subst hempty
      rfl
    · have hpos := List.length_pos_iff.mpr hempty
      rw [bufferFront_notSTUN hpos]
      · dsimp only
        rw [channelDataFront_part h hp hpart]
      · rw [headD_of_front hp hpos, headD_channelData]
        exact channelBits h.1

theorem nextFrame_length (l : List UInt8) (f : TURNFrame) (rest : List UInt8)
    (h : nextFrame ext range l = some (f, rest)) : rest.length < l.length := by
  unfold nextFrame at h
  cases hahead : parseStreamIfSTUN ext l RFCs.rfc5766TURN.bit false with
  | error f => rw [hahead] at h; cases h
  | ok ahead =>
    rw [hahead] at h
    obtain ⟨hpacket, -⟩ := parseStreamIfSTUN_sizes hahead
    dsimp only at h
    split at h
    · split at h
      next size hfront =>
        obtain ⟨hfour, hle⟩ := channelDataFront_size hfront
        cases h
        rw [List.length_drop]
        omega
      next => cases h
    next hstate hstun =>
      obtain ⟨-, htwenty, hle, -⟩ := hpacket hstate
      cases h
      rw [List.length_drop]
      omega
    next => cases h

/-- STUN packets and channel data as a self-delimiting code. -/
def turnCode (ext : Externals) (range : ChannelRange) : Code UInt8 TURNFrame where
  Valid := TURNFrame.Valid ext range
  encode := TURNFrame.encode
  next := nextFrame ext range
  next_encode := nextFrame_encode
  next_short := nextFrame_short
  next_length := nextFrame_length

end Code

end OpenPeer
