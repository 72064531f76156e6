import OpenPeer.STUNPacketIntegrity
import OpenPeer.TURNSocketRead

/-!
# STUN packets in a stream

What the look-ahead says of the front of a stream as more of it arrives: it makes up its
mind once, and then with the packet that the parser makes of just the bytes it takes.
-/
namespace OpenPeer

open Bytes

variable {ext : Externals} {bytes : List UInt8} {packet : STUNPacket} {allowedRFCs : UInt8} {allowRFC3489 : Bool}

/-- What the header of an accepted packet passed. -/
structure AcceptedHeader (bytes : List UInt8) (allowedRFCs : UInt8) (allowRFC3489 : Bool) : Prop where
  twenty : 20 ≤ bytes.length
  first : bytes.headD 0 &&& 0xC0 = 0
  legal : isLegalMessageType (messageTypeAt bytes) allowedRFCs = true
  words : wordAt bytes 2 % 4 = 0
  cookie : ¬ (!allowRFC3489 ∧ UInt32.ofNat (ofBE (slice bytes 4 4)) ≠ STUNPacket.magicCookie)

theorem acceptedHeader (h : parseIfSTUN ext bytes allowedRFCs allowRFC3489 = .ok packet) :
    AcceptedHeader bytes allowedRFCs allowRFC3489 := by
  unfold parseIfSTUN at h
  obtain ⟨_, htwenty, h⟩ := bind_eq_ok h
  obtain ⟨first, hfirst, h⟩ := bind_eq_ok h
  obtain ⟨_, hbits, h⟩ := bind_eq_ok h
  obtain ⟨magicCookie, hcookie, h⟩ := bind_eq_ok h
  obtain ⟨_, hmagic, h⟩ := bind_eq_ok h
  obtain ⟨messageType, htype, h⟩ := bind_eq_ok h
  obtain ⟨messageLength, hlength, h⟩ := bind_eq_ok h
  obtain ⟨_, _, h⟩ := bind_eq_ok h
  obtain ⟨_, _, h⟩ := bind_eq_ok h
  obtain ⟨_, hwords, h⟩ := bind_eq_ok h
  obtain ⟨transactionID, _, h⟩ := bind_eq_ok h
  obtain ⟨-, htype, -⟩ := readWORD_eq_ok htype
  obtain ⟨-, -, hlength⟩ := readWORD_eq_ok hlength
  have htwenty := rejectIf_eq_ok htwenty
  have hbits := rejectIf_eq_ok hbits
  have hmagic := rejectIf_eq_ok hmagic
  have hwords := rejectIf_eq_ok hwords
  rw [hlength] at hwords
  obtain ⟨cookieBytes, hcookieRead, hcookieIs⟩ := bind_eq_ok hcookie
  obtain ⟨-, hcookieBytes⟩ := readAt_eq_ok hcookieRead
  obtain ⟨firstBytes, hfirstRead, hfirstIs⟩ := bind_eq_ok hfirst
  obtain ⟨-, hfirstBytes⟩ := readAt_eq_ok hfirstRead
  have hfirstIs := Except.ok.inj hfirstIs
  have hcookieIs := Except.ok.inj hcookieIs
  rw [hfirstBytes] at hfirstIs
  rw [hcookieBytes] at hcookieIs
  refine ⟨by omega, ?_, ?_, by omega, ?_⟩
  · cases bytes with
    | nil => rfl
    | cons b bs =>
      have hb : UInt8.ofNat (ofBE (slice (b :: bs) 0 1)) = b := by
        rw [slice, List.drop_zero, List.take_succ_cons, List.take_zero, ofBE_cons]
        simp
      rw [hb] at hfirstIs
      rw [List.headD_cons, hfirstIs]
      exact Classical.not_not.mp hbits
  · split at h
    next tClass method hclass hmethod =>
      obtain ⟨_, hlegal, h⟩ := bind_eq_ok h
      have hlegal := rejectIf_eq_ok hlegal
      unfold isLegalMessageType messageTypeAt
      change messageType = UInt16.ofNat (ofBE (slice bytes 0 2)) at htype
      rw [← htype, hclass, hmethod]
      simpa using hlegal
    next => cases h
  · rw [hcookieIs]
    exact hmagic

variable {l p : List UInt8}

theorem slice_of_front (h : p <+: l) {pos n : Nat} (hle : pos + n ≤ p.length) :
    slice p pos n = slice l pos n := by
  obtain ⟨q, rfl⟩ := h
  unfold slice
  rw [List.drop_append_of_le_length (by omega), List.take_append_of_le_length]
  rw [List.length_drop]
  omega

theorem headD_of_front (h : p <+: l) (hle : 1 ≤ p.length) : p.headD 0 = l.headD 0 := by
  obtain ⟨q, rfl⟩ := h
  cases p with
  | nil => cases hle
  | cons b bs => rfl

/-- What the look-ahead says of the front of an accepted packet: it is not told from something else
by less than eight bytes, and then its size is given although it is not there. -/
theorem parseStreamIfSTUN_part (h : AcceptedHeader bytes allowedRFCs allowRFC3489)
    (hsize : bytes.length = 20 + wordAt bytes 2) (hp : p <+: bytes) (hpart : p.length < bytes.length) :
    parseStreamIfSTUN ext p allowedRFCs allowRFC3489 =
      if p.length < 8 then .ok ⟨.insufficientDataToDetermine, none, 0⟩
      else .ok ⟨.appearsSTUNButPacketNotFullyAvailable, none, bytes.length⟩ := by
  have hword : 4 ≤ p.length → ofBE (slice p 2 2) = wordAt bytes 2 := fun hle => by
    rw [slice_of_front hp (by omega), wordAt]
  unfold parseStreamIfSTUN
  dsimp only
  by_cases h1 : p.length < 1
  · rw [if_pos h1, if_pos (by omega)]
  rw [if_neg h1, headD_of_front hp (by omega), if_neg (by rw [h.first]; exact fun hne => hne rfl)]
  by_cases h2 : p.length < 2
  · rw [if_pos h2, if_pos (by omega)]
  have htype : messageTypeAt p = messageTypeAt bytes := by
    unfold messageTypeAt
    rw [slice_of_front hp (by omega)]
  rw [if_neg h2, htype, h.legal, if_neg (by decide)]
  by_cases h4 : p.length < 4
  · rw [if_pos h4, if_pos (by omega)]
  rw [if_neg h4, hword (by omega), if_neg (by rw [h.words]; exact fun hne => hne rfl)]
  by_cases h8 : p.length < 8
  · rw [if_pos h8, if_pos h8]
  rw [if_neg h8, if_neg h8, slice_of_front hp (by omega), if_neg h.cookie, ← hsize]
  by_cases h20 : p.length < 20
  · rw [if_pos h20]
  · rw [if_neg h20, if_pos hpart]

/-- A whole packet is found, whatever comes after it. -/
theorem parseStreamIfSTUN_whole (h : parseIfSTUN ext bytes allowedRFCs allowRFC3489 = .ok packet)
    (hsize : bytes.length = 20 + wordAt bytes 2) (rest : List UInt8) :
    parseStreamIfSTUN ext (bytes ++ rest) allowedRFCs allowRFC3489 = .ok ⟨.stunPacket, some packet, bytes.length⟩ := by
  have hheader := acceptedHeader h
  have htwenty := hheader.twenty
  have hfront : bytes <+: bytes ++ rest := List.prefix_append bytes rest
  have hlength : (bytes ++ rest).length = bytes.length + rest.length := List.length_append
  have htype : messageTypeAt (bytes ++ rest) = messageTypeAt bytes := by
    unfold messageTypeAt
    rw [slice_of_front hfront (by omega)]
  have hword : ofBE (slice (bytes ++ rest) 2 2) = wordAt bytes 2 := by
    rw [← slice_of_front hfront (by omega), wordAt]
  unfold parseStreamIfSTUN
  dsimp only
  rw [if_neg (by omega), ← headD_of_front hfront (by omega),
    if_neg (by rw [hheader.first]; exact fun hne => hne rfl), if_neg (by omega), htype, hheader.legal,
    if_neg (by decide), if_neg (by omega), hword, if_neg (by rw [hheader.words]; exact fun hne => hne rfl),
    if_neg (by omega), ← slice_of_front hfront (by omega), if_neg hheader.cookie,
    if_neg (by omega), ← hsize, if_neg (by omega), List.take_left, h]

variable {ahead : LookAhead}

/-- A packet that is found is not empty, is a whole number of words and lies in the buffer; of what is
no packet no size is given. -/
theorem parseStreamIfSTUN_sizes (h : parseStreamIfSTUN ext l allowedRFCs allowRFC3489 = .ok ahead) :
    (ahead.state = .stunPacket → ahead.outSTUN.isSome ∧ 20 ≤ ahead.outActualSizeInBytes ∧
      ahead.outActualSizeInBytes ≤ l.length ∧ ahead.outActualSizeInBytes % 4 = 0) ∧
    (ahead.state = .notSTUN → ahead.outActualSizeInBytes = 0) := by
  unfold parseStreamIfSTUN at h
  dsimp only at h
  repeat' split at h
  all_goals cases h
  all_goals refine ⟨fun hs => ?_, fun hs => ?_⟩
  all_goals first | rfl | exact ⟨rfl, by dsimp only; omega, by dsimp only; omega, by dsimp only; omega⟩ | cases hs

/-- What a verdict may become when there is more of the stream. -/
def ParseLookAheadStates.MayBecome : ParseLookAheadStates → ParseLookAheadStates → Prop
  | .insufficientDataToDetermine, _ => True
  | .appearsSTUNButPacketNotFullyAvailable, later => later ≠ .insufficientDataToDetermine
  | .notSTUN, later => later = .notSTUN
  | .stunPacket, later => later = .stunPacket

instance : DecidableRel ParseLookAheadStates.MayBecome := fun a b => by
  cases a <;> unfold ParseLookAheadStates.MayBecome <;> infer_instance

theorem parseStreamIfSTUN_ends (ext : Externals) (l : List UInt8) (allowedRFCs : UInt8) (allowRFC3489 : Bool) :
    ∃ ahead, parseStreamIfSTUN ext l allowedRFCs allowRFC3489 = .ok ahead := by
  cases hahead : parseStreamIfSTUN ext l allowedRFCs allowRFC3489 with
  | ok ahead => exact ⟨ahead, rfl⟩
  | error f =>
    exfalso
    unfold parseStreamIfSTUN at hahead
    dsimp only at hahead
    obtain ⟨stun, hparse⟩ | hparse :=
      parseIfSTUN_ends_well ext (l.take (20 + ofBE (slice l 2 2))) allowedRFCs allowRFC3489
    all_goals
      rw [hparse] at hahead
      dsimp only at hahead
      repeat' split at hahead
      all_goals cases hahead

theorem parseStreamIfSTUN_found (h : parseStreamIfSTUN ext l allowedRFCs allowRFC3489 = .ok ahead)
    (hstate : ahead.state = .stunPacket) :
    ∃ stun, ahead = ⟨.stunPacket, some stun, 20 + wordAt l 2⟩ ∧ 20 + wordAt l 2 ≤ l.length ∧
      parseIfSTUN ext (l.take (20 + wordAt l 2)) allowedRFCs allowRFC3489 = .ok stun := by
  unfold parseStreamIfSTUN at h
  dsimp only at h
  obtain ⟨stun, hparse⟩ | hparse :=
    parseIfSTUN_ends_well ext (l.take (20 + ofBE (slice l 2 2))) allowedRFCs allowRFC3489
  · rw [hparse] at h
    dsimp only at h
    repeat' split at h
    all_goals cases h
    all_goals first | exact ⟨stun, rfl, by unfold wordAt; omega, hparse⟩ | cases hstate
  · rw [hparse] at h
    dsimp only at h
    repeat' split at h
    all_goals
      cases h
      cases hstate

theorem parseStreamIfSTUN_taken (h : parseStreamIfSTUN ext l allowedRFCs allowRFC3489 = .ok ahead)
    (hstate : ahead.state = .stunPacket) (rest : List UInt8) :
    parseStreamIfSTUN ext (l.take ahead.outActualSizeInBytes ++ rest) allowedRFCs allowRFC3489 = .ok ahead := by
  obtain ⟨stun, rfl, hle, hparse⟩ := parseStreamIfSTUN_found h hstate
  dsimp only at hstate ⊢
  have hlength : (l.take (20 + wordAt l 2)).length = 20 + wordAt l 2 := by
    rw [List.length_take]
    omega
  have hword : wordAt (l.take (20 + wordAt l 2)) 2 = wordAt l 2 := by
    have hslice : slice (l.take (20 + wordAt l 2)) 2 2 = slice l 2 2 :=
      slice_of_front (List.take_prefix _ l) (by omega)
    unfold wordAt at hslice ⊢
    rw [hslice]
  rw [parseStreamIfSTUN_whole hparse (by omega) rest, hlength]

/-- As long as more can be decided by the header, both prefixes of a stream take the same way. -/
theorem parseStreamIfSTUN_mayBecome {q : List UInt8} (hp : p <+: q) {a b : LookAhead}
    (ha : parseStreamIfSTUN ext p allowedRFCs allowRFC3489 = .ok a)
    (hb : parseStreamIfSTUN ext q allowedRFCs allowRFC3489 = .ok b) : a.state.MayBecome b.state := by
  by_cases hfound : a.state = .stunPacket
  · have htaken := parseStreamIfSTUN_taken ha hfound
    obtain ⟨stun, hstun, hle, -⟩ := parseStreamIfSTUN_found ha hfound
    obtain ⟨rest, rfl⟩ := hp
    have hsplit : p.take a.outActualSizeInBytes ++ (p.drop a.outActualSizeInBytes ++ rest) = p ++ rest := by
      rw [← List.append_assoc, List.take_append_drop]
    have hsame := htaken (p.drop a.outActualSizeInBytes ++ rest)
    rw [hsplit, hb] at hsame
    cases hsame
    rw [hfound]
    rfl
  have hlength := hp.length_le
  unfold parseStreamIfSTUN at ha hb
  dsimp only at ha hb
  by_cases h1 : p.length < 1
  · rw [if_pos h1] at ha
    cases ha
    trivial
  have hhead : q.headD 0 = p.headD 0 := (headD_of_front hp (by omega)).symm
  rw [if_neg h1] at ha
  rw [if_neg (by omega), hhead] at hb
  by_cases hbits : p.headD 0 &&& 0xC0 ≠ 0
  · rw [if_pos hbits] at ha hb
    cases ha
    cases hb
    rfl
  rw [if_neg hbits] at ha hb
  by_cases h2 : p.length < 2
  · rw [if_pos h2] at ha
    cases ha
    trivial
  have htype : messageTypeAt q = messageTypeAt p := by
    unfold messageTypeAt
    rw [slice_of_front hp (by omega)]
  rw [if_neg h2] at ha
  rw [if_neg (by omega), htype] at hb
  by_cases hlegal : (!isLegalMessageType (messageTypeAt p) allowedRFCs) = true
  · rw [if_pos hlegal] at ha hb
    cases ha
    cases hb
    rfl
  rw [if_neg hlegal] at ha hb
  by_cases h4 : p.length < 4
  · rw [if_pos h4] at ha
    cases ha
    trivial
  have hword : ofBE (slice q 2 2) = ofBE (slice p 2 2) := by rw [slice_of_front hp (by omega)]
  rw [if_neg h4] at ha
  rw [if_neg (by omega), hword] at hb
  by_cases hwords : ofBE (slice p 2 2) % 4 ≠ 0
  · rw [if_pos hwords] at ha hb
    cases ha
    cases hb
    rfl
  rw [if_neg hwords] at ha hb
  by_cases h8 : p.length < 8
  · rw [if_pos h8] at ha
    cases ha
    trivial
  have hcookie : slice q 4 4 = slice p 4 4 := (slice_of_front hp (by omega)).symm
  rw [if_neg h8] at ha
  rw [if_neg (by omega), hcookie] at hb
  by_cases hmagic : !allowRFC3489 ∧ UInt32.ofNat (ofBE (slice p 4 4)) ≠ STUNPacket.magicCookie
  · rw [if_pos hmagic] at ha hb
    cases ha
    cases hb
    rfl
  rw [if_neg hmagic] at ha hb
  -- from here on no verdict is that there is too little
  have hdecided : b.state ≠ .insufficientDataToDetermine := by
    split_ifs at hb
    · cases hb
      exact fun h => nomatch h
    · cases hb
      exact fun h => nomatch h
    · split at hb <;> cases hb <;> exact fun h => nomatch h
  by_cases hpart : p.length < 20 + ofBE (slice p 2 2)
  · have happears : a.state = .appearsSTUNButPacketNotFullyAvailable := by
      split_ifs at ha <;> cases ha <;> rfl
    rw [happears]
    exact hdecided
  · -- the same bytes are given to the parser
    have htake : q.take (20 + ofBE (slice p 2 2)) = p.take (20 + ofBE (slice p 2 2)) := by
      obtain ⟨rest, rfl⟩ := hp
      rw [List.take_append_of_le_length (by omega)]
    rw [if_neg (by omega), if_neg hpart] at ha
    rw [if_neg (by omega), if_neg (by omega), htake, ha] at hb
    cases hb
    cases hstate : a.state with
    | insufficientDataToDetermine => trivial
    | notSTUN => rfl
    | stunPacket => exact absurd hstate hfound
    | appearsSTUNButPacketNotFullyAvailable => exact fun h => nomatch h

/-- A verdict on a stream never goes back as more of the stream arrives. A packet that is found has
from then on the same size, whatever the rest of the stream is; it is the packet that the parser
makes of these bytes; and no part of a packet the parser takes is refused. -/
theorem stream_verdicts_agree (ext : Externals) (allowedRFCs : UInt8) (allowRFC3489 : Bool) :
    (∀ p q : List UInt8, p <+: q → ∃ a b,
      parseStreamIfSTUN ext p allowedRFCs allowRFC3489 = .ok a ∧
      parseStreamIfSTUN ext q allowedRFCs allowRFC3489 = .ok b ∧ a.state.MayBecome b.state ∧
      (a.state = .stunPacket →
        b = a ∧ a.outActualSizeInBytes ≤ p.length ∧
        (∃ stun, a.outSTUN = some stun ∧
          parseIfSTUN ext (p.take a.outActualSizeInBytes) allowedRFCs allowRFC3489 = .ok stun) ∧
        ∀ rest, parseStreamIfSTUN ext (p.take a.outActualSizeInBytes ++ rest) allowedRFCs allowRFC3489 = .ok a)) ∧
    ∀ bytes stun, parseIfSTUN ext bytes allowedRFCs allowRFC3489 = .ok stun →
      bytes.length = 20 + wordAt bytes 2 → ∀ p, p <+: bytes → ∃ a,
        parseStreamIfSTUN ext p allowedRFCs allowRFC3489 = .ok a ∧ a.state ≠ .notSTUN := by
  constructor
  · intro p q hp
    obtain ⟨a, ha⟩ := parseStreamIfSTUN_ends ext p allowedRFCs allowRFC3489
    obtain ⟨b, hb⟩ := parseStreamIfSTUN_ends ext q allowedRFCs allowRFC3489
    refine ⟨a, b, ha, hb, parseStreamIfSTUN_mayBecome hp ha hb, fun hfound => ?_⟩
    have htaken := parseStreamIfSTUN_taken ha hfound
    obtain ⟨stun, hstun, hle, hparse⟩ := parseStreamIfSTUN_found ha hfound
    refine ⟨?_, by rw [hstun]; exact hle, ⟨stun, by rw [hstun], by rw [hstun]; exact hparse⟩, htaken⟩
    obtain ⟨rest, rfl⟩ := hp
    have hsame := htaken (p.drop a.outActualSizeInBytes ++ rest)
    rw [← List.append_assoc, List.take_append_drop, hb] at hsame
    exact Except.ok.inj hsame
  · intro bytes stun hstun hsize p hp
    obtain ⟨a, ha⟩ := parseStreamIfSTUN_ends ext p allowedRFCs allowRFC3489
    have hwhole := parseStreamIfSTUN_whole hstun hsize []
    rw [List.append_nil] at hwhole
    have hnext := parseStreamIfSTUN_mayBecome hp ha hwhole
    refine ⟨a, ha, fun hnot => ?_⟩
    rw [hnot] at hnext
    cases hnext

/-- The first ten bytes of a request that is signed. -/
theorem stream_verdicts_agree_signed :
    ∃ a, parseStreamIfSTUN plainExternals ((signedRequest []).take 10) allowAll false = .ok a ∧
      a.state ≠ .notSTUN := by
  obtain ⟨stun, hstun⟩ : ∃ stun, parseIfSTUN plainExternals (signedRequest []) allowAll false = .ok stun :=
    (safe_parseIfSTUN _ _ _ _).cases.resolve_right (by decide +kernel)
  exact (stream_verdicts_agree plainExternals allowAll false).2 _ stun hstun (by decide +kernel) _
    (List.take_prefix 10 _)

end OpenPeer
