import OpenPeer.STUNPacketParse

/-!
# What comes after the message integrity

Two packets that agree up to the end of their first MESSAGE-INTEGRITY attribute are
parsed into the same packet: behind it the parser takes only a fingerprint, and of that
only that it is right.
-/
namespace OpenPeer

open Bytes STUNPacket

section Ensures

variable {α β : Type}

variable {p : Parse α} {k : α → Parse β}

theorem bind_eq_ok {b : β} (h : (p >>= k) = .ok b) : ∃ a, p = .ok a ∧ k a = .ok b := by
  cases p with
  | ok a => exact ⟨a, rfl, h⟩
  | error stop => cases h

variable {u : Unit}

theorem rejectIf_eq_ok {c : Prop} [Decidable c] (h : rejectIf c = .ok u) : ¬c := by
  unfold rejectIf at h
  split at h
  · cases h
  · assumption

theorem throwIf_eq_ok {c : Prop} [Decidable c] {f : Fault} (h : throwIf c f = .ok u) : ¬c := by
  unfold throwIf at h
  split at h
  · cases h
  · assumption

variable {buffer : List UInt8} {pos : Nat}

theorem readAt_eq_ok {value : List UInt8} {n : Nat} (h : readAt buffer pos n = .ok value) :
    pos + n ≤ buffer.length ∧ value = slice buffer pos n := by
  unfold readAt at h
  split at h
  next hle => exact ⟨hle, (Except.ok.inj h).symm⟩
  next => cases h

/-- The word at a position. -/
def wordAt (buffer : List UInt8) (pos : Nat) : Nat := ofBE (slice buffer pos 2)

theorem wordAt_lt (buffer : List UInt8) (pos : Nat) : wordAt buffer pos < 65536 := by
  have hlt := ofBE_lt (slice buffer pos 2)
  have hlength : (slice buffer pos 2).length ≤ 2 := List.length_take_le _ _
  exact lt_of_lt_of_le hlt (Nat.pow_le_pow_right (by decide) hlength)

theorem readWORD_eq_ok {word : UInt16} (h : readWORD buffer pos = .ok word) :
    pos + 2 ≤ buffer.length ∧ word = UInt16.ofNat (wordAt buffer pos) ∧ word.toNat = wordAt buffer pos := by
  obtain ⟨bytes, hbytes, hword⟩ := bind_eq_ok h
  obtain ⟨hle, rfl⟩ := readAt_eq_ok hbytes
  cases hword
  refine ⟨hle, rfl, ?_⟩
  rw [UInt16.toNat_ofNat']
  exact Nat.mod_eq_of_lt (wordAt_lt buffer pos)

/-- Every packet a parse ends with has a property. -/
def Ensures (p : Parse α) (P : α → Prop) : Prop := ∀ a, p = .ok a → P a

theorem Ensures.ok {a : α} {P : α → Prop} (h : P a) : Ensures (.ok a : Parse α) P := fun _ hb => (Except.ok.inj hb) ▸ h

theorem Ensures.bind {P : β → Prop} (hk : ∀ a, Ensures (k a) P) : Ensures (p >>= k) P := by
  intro b h
  obtain ⟨a, -, hb⟩ := bind_eq_ok h
  exact hk a b hb

end Ensures

section Walk

variable {ext : Externals} {allowedRFCs : UInt8} {packet : List UInt8} {pos availableBytes : Nat} {w w' : ParseState}

/-- One step of the walk over the attributes. -/
theorem parseAttributes_step (h : parseAttributes ext allowedRFCs packet pos availableBytes w = .ok w')
    (hne : availableBytes ≠ 0) :
    ∃ w₁, 4 + dwordBoundary (wordAt packet (pos + 2)) ≤ availableBytes ∧
      handleAttribute ext allowedRFCs packet pos (UInt16.ofNat (wordAt packet pos))
        (slice packet (pos + 4) (wordAt packet (pos + 2))) w = .ok w₁ ∧
      parseAttributes ext allowedRFCs packet (pos + 4 + dwordBoundary (wordAt packet (pos + 2)))
        (availableBytes - 4 - dwordBoundary (wordAt packet (pos + 2))) w₁ = .ok w' := by
  rw [parseAttributes, dif_neg hne] at h
  obtain ⟨_, _, h⟩ := bind_eq_ok h
  obtain ⟨_, hfour, h⟩ := bind_eq_ok h
  obtain ⟨attributeType, htype, h⟩ := bind_eq_ok h
  obtain ⟨attributeLength, hlength, h⟩ := bind_eq_ok h
  obtain ⟨_, hfull, h⟩ := bind_eq_ok h
  obtain ⟨value, hvalue, h⟩ := bind_eq_ok h
  obtain ⟨w₁, hhandle, hrest⟩ := bind_eq_ok h
  have hfour := throwIf_eq_ok hfour
  have hfull := rejectIf_eq_ok hfull
  obtain ⟨-, htype, -⟩ := readWORD_eq_ok htype
  obtain ⟨-, -, hlength⟩ := readWORD_eq_ok hlength
  obtain ⟨-, hvalue⟩ := readAt_eq_ok hvalue
  rw [hlength] at hfull hvalue hrest
  rw [htype, hvalue] at hhandle
  exact ⟨w₁, by omega, hhandle, hrest⟩

variable {attributeType : UInt16}

theorem handledAttribute_inert {attr : Attributes}
    (h : handledAttribute allowedRFCs w attributeType = some attr)
    (hfound : w.foundIntegrity = true ∨ w.foundFingerprint = true) : attr = .fingerPrint := by
  unfold handledAttribute at h
  split at h
  · cases h
  next attr' _ =>
    split at h
    · cases h
    split at h
    · cases h
    next hintegrity =>
      split at h
      · cases h
      next hfingerprint =>
        obtain rfl := Option.some.inj h
        rcases hfound with hfound | hfound
        · exact Classical.not_not.mp fun hne => hintegrity ⟨hfound, hne⟩
        · exact absurd hfound hfingerprint

variable {attributeStart : Nat} {value : List UInt8}

theorem parseAttribute_fingerPrint :
    Ensures (parseAttribute ext packet attributeStart .fingerPrint value w) fun r =>
      r = ({ w with foundFingerprint := true, stun := { w.stun with mFingerprintIncluded := true } }, false) :=
  .bind fun _ => .bind fun _ => .bind fun _ => .bind fun _ => .ok rfl

theorem STUNPacket.with_fingerprint {stun : STUNPacket} (h : stun.mFingerprintIncluded = true) :
    { stun with mFingerprintIncluded := true } = stun := by
  cases stun
  cases h
  rfl

theorem handleAttribute_inert
    (h : handleAttribute ext allowedRFCs packet attributeStart attributeType value w = .ok w')
    (hfound : w.foundIntegrity = true ∨ w.foundFingerprint = true)
    (hfp : w.stun.mFingerprintIncluded = true) :
    w'.stun = w.stun ∧ (w'.foundIntegrity = true ∨ w'.foundFingerprint = true) := by
  unfold handleAttribute at h
  split at h
  · cases h
    exact ⟨rfl, hfound⟩
  next attr hattr =>
    obtain rfl := handledAttribute_inert hattr hfound
    obtain ⟨r, hr, h⟩ := bind_eq_ok h
    rw [parseAttribute_fingerPrint r hr] at h
    cases h
    exact ⟨with_fingerprint hfp, .inr rfl⟩

theorem parseAttributes_inert (h : parseAttributes ext allowedRFCs packet pos availableBytes w = .ok w')
    (hfound : w.foundIntegrity = true ∨ w.foundFingerprint = true) (hfp : w.stun.mFingerprintIncluded = true) :
    w'.stun = w.stun := by
  induction availableBytes using Nat.strong_induction_on generalizing pos w with
  | _ availableBytes ih =>
    by_cases hne : availableBytes = 0
    · rw [parseAttributes, dif_pos hne] at h
      cases h
      rfl
    · obtain ⟨w₁, -, hhandle, hrest⟩ := parseAttributes_step h hne
      obtain ⟨hsame, hfound'⟩ := handleAttribute_inert hhandle hfound hfp
      rw [ih _ (by omega) hrest hfound' (by rw [hsame]; exact hfp), hsame]

end Walk

/-- The end of the first MESSAGE-INTEGRITY attribute among those from a position on. -/
def firstIntegrityEnd (packet : List UInt8) (pos availableBytes : Nat) : Option Nat :=
  if _h : availableBytes = 0 then none
  else
    let fullAttributeLength := dwordBoundary (wordAt packet (pos + 2))
    if UInt16.ofNat (wordAt packet pos) = Attributes.messageIntegrity.toCode then some (pos + 4 + fullAttributeLength)
    else firstIntegrityEnd packet (pos + 4 + fullAttributeLength) (availableBytes - 4 - fullAttributeLength)
termination_by availableBytes

/-- The end of the first MESSAGE-INTEGRITY attribute of a packet. -/
def integrityEnd (packet : List UInt8) : Option Nat := firstIntegrityEnd packet 20 (wordAt packet 2)

theorem le_firstIntegrityEnd {packet : List UInt8} {pos availableBytes e : Nat}
    (h : firstIntegrityEnd packet pos availableBytes = some e) :
    pos + 4 + dwordBoundary (wordAt packet (pos + 2)) ≤ e := by
  induction availableBytes using Nat.strong_induction_on generalizing pos with
  | _ availableBytes ih =>
    rw [firstIntegrityEnd] at h
    split at h
    · cases h
    dsimp only at h
    split at h
    · exact le_of_eq (Option.some.inj h)
    · have := ih _ (by omega) h
      omega

/-- The check of the integrity with a password, and a username and a realm when there are both. -/
def STUNPacket.isValidMessageIntegrity (ext : Externals) (stun : STUNPacket) (password : List UInt8)
    (login : Option (List UInt8 × List UInt8)) : Except Fault Bool :=
  match stun.mOriginalPacket with
  | none => .error .invalidUsage
  | some packet =>
    let prefixed := match login with
      | none => password
      | some (username, realm) => username ++ [0x3A] ++ realm ++ [0x3A] ++ password
    let length := stun.mMessageIntegrityMessageLengthInBytes
    -- the length in the header is replaced for the calculation and put back
    let smashed := overwrite packet 2 (toBE 2 (length + 4 + 20 - 20))
    .ok (decide (stun.mMessageIntegrity = ext.hmacSHA1 (ext.md5 prefixed) (smashed.take length)))

section Agreement

variable {ext : Externals} {allowedRFCs : UInt8} {p q : List UInt8} {e : Nat}

/-- Two packets agree on what is behind the length in the header, up to a position. -/
def Agree (p q : List UInt8) (e : Nat) : Prop := ∀ pos n, 4 ≤ pos → pos + n ≤ e → slice p pos n = slice q pos n

theorem slice_slice (l : List UInt8) (a b pos n : Nat) (ha : a ≤ pos) (hb : pos + n ≤ a + b) :
    slice (slice l a b) (pos - a) n = slice l pos n := by
  unfold slice
  rw [List.drop_take, List.drop_drop, List.take_take, Nat.add_sub_cancel' ha]
  congr 1
  omega

theorem agree_of_slice (hheader : slice p 4 16 = slice q 4 16) (hbody : slice p 20 (e - 20) = slice q 20 (e - 20))
    (he : 20 ≤ e) : Agree p q e := by
  have hsplit : ∀ l : List UInt8, slice l 4 (e - 4) = slice l 4 16 ++ slice l 20 (e - 20) := by
    intro l
    unfold slice
    rw [show e - 4 = 16 + (e - 20) by omega, List.take_add, List.drop_drop]
  have hall : slice p 4 (e - 4) = slice q 4 (e - 4) := by rw [hsplit, hsplit, hheader, hbody]
  intro pos n hpos hn
  rw [← slice_slice p 4 (e - 4) pos n hpos (by omega), hall, slice_slice q 4 (e - 4) pos n hpos (by omega)]

theorem Agree.wordAt (h : Agree p q e) {pos : Nat} (hpos : 4 ≤ pos) (hle : pos + 2 ≤ e) : wordAt p pos = wordAt q pos := by
  unfold OpenPeer.wordAt
  rw [h pos 2 hpos hle]

variable {attr : Attributes}

theorem parseAttribute_agree (hp : 20 ≤ p.length) (hq : 20 ≤ q.length) (h : slice p 4 16 = slice q 4 16)
    (hintegrity : attr ≠ .messageIntegrity) (hfingerprint : attr ≠ .fingerPrint) (attributeStart : Nat)
    (value : List UInt8) (w : ParseState) :
    parseAttribute ext p attributeStart attr value w = parseAttribute ext q attributeStart attr value w := by
  have hcookie : readArray p 4 16 = readArray q 4 16 := by
    unfold readArray
    rw [dif_pos (by omega), dif_pos (by omega)]
    simp only [h]
  have haddress : parseMappedAddress p value = parseMappedAddress q value := by
    unfold parseMappedAddress
    rw [hcookie]
  cases attr with
  | messageIntegrity => exact absurd rfl hintegrity
  | fingerPrint => exact absurd rfl hfingerprint
  | mappedAddress | alternateServer | xorMappedAddress | xorPeerAddress | xorRelayedAddress =>
    unfold parseAttribute
    rw [haddress]
  | _ => rfl

/-- Before the integrity is found there is no packet to check it on, and a packet has a fingerprint
from the start. -/
def Fresh (stun : STUNPacket) : Prop := stun.mOriginalPacket = none ∧ stun.mFingerprintIncluded = true

variable {attributeStart : Nat} {value : List UInt8} {w : ParseState}

theorem parseAttribute_fresh (hintegrity : attr ≠ .messageIntegrity) (hw : Fresh w.stun) :
    Ensures (parseAttribute ext p attributeStart attr value w) fun r => Fresh r.1.stun := by
  cases attr with
  | messageIntegrity => exact absurd rfl hintegrity
  | errorCode =>
    refine .bind fun _ => .bind fun _ => ?_
    dsimp only
    split
    · exact .ok hw
    · exact .bind fun _ => .ok hw
  | congestionControl =>
    refine .bind fun _ => .bind fun _ => .bind fun _ => .bind fun _ => .ok ?_
    dsimp only
    split <;> exact hw
  | fingerPrint => exact .bind fun _ => .bind fun _ => .bind fun _ => .bind fun _ => .ok ⟨hw.1, rfl⟩
  | mappedAddress | alternateServer | xorMappedAddress | xorPeerAddress | xorRelayedAddress | username | realm | nonce
  | software | connectionInfo => exact .bind fun _ => .ok hw
  | unknownAttribute | channelNumber | lifetime | priority | minimumRTT | evenPort | requestedTransport | rudpFlags
  | reservationToken | iceControlled | iceControlling | nextSequenceNumber | gsnr | gsnfr =>
    exact .bind fun _ => .bind fun _ => .ok hw
  | ackVector => exact .bind fun _ => .ok hw
  | data | dontFragment | useCandidate | reservedResponseAddress | reservedChangeAddress | reservedSourceAddress
  | reservedChangedAddress | reservedPassword | reservedReflectedFrom => exact .ok hw

theorem handledAttribute_ofCode {attributeType : UInt16}
    (h : handledAttribute allowedRFCs w attributeType = some attr) : attr.toCode = attributeType := by
  unfold handledAttribute at h
  split at h
  · cases h
  next attr' hcode =>
    split_ifs at h
    obtain rfl := Option.some.inj h
    exact Attributes.toCode_of_ofCode hcode

variable {wp wq : ParseState}

/-- An attribute before the integrity is handled alike in both packets. -/
theorem handleAttribute_agree (hp : 20 ≤ p.length) (hq : 20 ≤ q.length) (h : slice p 4 16 = slice q 4 16)
    {attributeType : UInt16} (htype : attributeType ≠ Attributes.messageIntegrity.toCode)
    (hfresh : Fresh w.stun)
    (hwp : handleAttribute ext allowedRFCs p attributeStart attributeType value w = .ok wp)
    (hwq : handleAttribute ext allowedRFCs q attributeStart attributeType value w = .ok wq) :
    wp = wq ∧ Fresh wp.stun := by
  unfold handleAttribute at hwp hwq
  cases hattr : handledAttribute allowedRFCs w attributeType with
  | none =>
    rw [hattr] at hwp hwq
    cases hwp
    cases hwq
    exact ⟨rfl, hfresh⟩
  | some attr =>
    rw [hattr] at hwp hwq
    obtain ⟨rp, hrp, hwp⟩ := bind_eq_ok hwp
    obtain ⟨rq, hrq, hwq⟩ := bind_eq_ok hwq
    have hintegrity : attr ≠ .messageIntegrity := by
      rintro rfl
      exact htype (handledAttribute_ofCode hattr).symm
    have hsame : rp = rq := by
      by_cases hfingerprint : attr = .fingerPrint
      · subst hfingerprint
        rw [parseAttribute_fingerPrint rp hrp, parseAttribute_fingerPrint rq hrq]
      · rw [parseAttribute_agree hp hq h hintegrity hfingerprint] at hrp
        exact Except.ok.inj (hrp.symm.trans hrq)
    subst hsame
    have hfresh' := parseAttribute_fresh hintegrity hfresh rp hrp
    cases hwp
    cases hwq
    refine ⟨rfl, ?_⟩
    split <;> exact hfresh'

/-- The same packet, but for where the bytes are that its integrity is checked on; these begin alike. -/
def SameButOriginal (p q : List UInt8) (e : Nat) (stun stun' : STUNPacket) : Prop :=
  (stun.mOriginalPacket = none ∧ stun' = stun) ∨
    (stun.mOriginalPacket = some p ∧ stun' = { stun with mOriginalPacket := some q } ∧
      stun.mMessageIntegrityMessageLengthInBytes ≤ e)

/-- The integrity itself is handled alike, but for the packet it is in. -/
theorem handleAttribute_messageIntegrity (hknown : isAttributeKnown allowedRFCs .messageIntegrity = true)
    (hfound : w.foundIntegrity = false) (hfound' : w.foundFingerprint = false) (hstart : attributeStart ≤ e)
    (hwp : handleAttribute ext allowedRFCs p attributeStart Attributes.messageIntegrity.toCode value w = .ok wp)
    (hwq : handleAttribute ext allowedRFCs q attributeStart Attributes.messageIntegrity.toCode value w = .ok wq) :
    SameButOriginal p q e wp.stun wq.stun ∧ wp.foundIntegrity = true ∧ wq.foundIntegrity = true ∧
      wp.stun.mFingerprintIncluded = w.stun.mFingerprintIncluded := by
  have hattr : handledAttribute allowedRFCs w Attributes.messageIntegrity.toCode = some .messageIntegrity := by
    unfold handledAttribute
    rw [Attributes.ofCode_toCode]
    simp [hknown, hfound, hfound']
  unfold handleAttribute at hwp hwq
  rw [hattr] at hwp hwq
  obtain ⟨rp, hrp, hwp⟩ := bind_eq_ok hwp
  obtain ⟨rq, hrq, hwq⟩ := bind_eq_ok hwq
  obtain ⟨_, _, hrp⟩ := bind_eq_ok hrp
  obtain ⟨integrity, hintegrity, hrp⟩ := bind_eq_ok hrp
  obtain ⟨_, _, hrq⟩ := bind_eq_ok hrq
  obtain ⟨integrity', hintegrity', hrq⟩ := bind_eq_ok hrq
  obtain rfl : integrity = integrity' := Except.ok.inj (hintegrity.symm.trans hintegrity')
  cases hrp
  cases hrq
  cases hwp
  cases hwq
  exact ⟨.inr ⟨rfl, rfl, hstart⟩, rfl, rfl, rfl⟩

/-- The walks over two packets that agree up to the end of their first integrity make the same
packet. -/
theorem parseAttributes_agree (hp : 20 ≤ p.length) (hq : 20 ≤ q.length) (hagree : Agree p q e)
    (hknown : isAttributeKnown allowedRFCs .messageIntegrity = true) {pos availableP availableQ : Nat}
    (hwp : parseAttributes ext allowedRFCs p pos availableP w = .ok wp)
    (hwq : parseAttributes ext allowedRFCs q pos availableQ w = .ok wq)
    (hep : firstIntegrityEnd p pos availableP = some e) (heq : (firstIntegrityEnd q pos availableQ).isSome)
    (hpos : 20 ≤ pos) (hfresh : Fresh w.stun) : SameButOriginal p q e wp.stun wq.stun := by
  induction availableP using Nat.strong_induction_on generalizing pos availableQ w with
  | _ availableP ih =>
    by_cases hfound : w.foundIntegrity = true ∨ w.foundFingerprint = true
    · have hsp := parseAttributes_inert hwp hfound hfresh.2
      have hsq := parseAttributes_inert hwq hfound hfresh.2
      exact .inl ⟨by rw [hsp]; exact hfresh.1, hsq.trans hsp.symm⟩
    have hend := le_firstIntegrityEnd hep
    have hle := le_dwordBoundary (wordAt p (pos + 2))
    rw [firstIntegrityEnd] at hep heq
    split at hep
    · cases hep
    next hnep =>
    split at heq
    · cases heq
    next hneq =>
    dsimp only at hep heq
    have hlength : wordAt p (pos + 2) = wordAt q (pos + 2) := hagree.wordAt (by omega) (by omega)
    have htype : wordAt p pos = wordAt q pos := hagree.wordAt (by omega) (by omega)
    have hvalue : slice p (pos + 4) (wordAt p (pos + 2)) = slice q (pos + 4) (wordAt p (pos + 2)) :=
      hagree _ _ (by omega) (by omega)
    obtain ⟨wp₁, hfullp, hhandlep, hrestp⟩ := parseAttributes_step hwp hnep
    obtain ⟨wq₁, -, hhandleq, hrestq⟩ := parseAttributes_step hwq hneq
    rw [← hlength, ← htype] at heq hhandleq
    rw [← hlength] at hrestq
    rw [← hvalue] at hhandleq
    by_cases hmi : UInt16.ofNat (wordAt p pos) = Attributes.messageIntegrity.toCode
    · rw [hmi] at hhandlep hhandleq
      simp only [Bool.not_eq_true, not_or] at hfound
      obtain ⟨hsame, hfoundp, hfoundq, hfp⟩ :=
        handleAttribute_messageIntegrity hknown hfound.1 hfound.2 (e := e) (by omega) hhandlep hhandleq
      rw [hfresh.2] at hfp
      have hfq : wq₁.stun.mFingerprintIncluded = true := by
        rcases hsame with ⟨-, hsame⟩ | ⟨-, hsame, -⟩ <;> rw [hsame] <;> exact hfp
      rw [parseAttributes_inert hrestp (.inl hfoundp) hfp, parseAttributes_inert hrestq (.inl hfoundq) hfq]
      exact hsame
    · rw [if_neg hmi] at hep heq
      obtain ⟨rfl, hfresh'⟩ :=
        handleAttribute_agree hp hq (hagree 4 16 (le_refl 4) (by omega)) hmi hfresh hhandlep hhandleq
      exact ih _ (by omega) hrestp hrestq hep heq (by omega) hfresh'

end Agreement

section Checks

variable {ext : Externals}

theorem hasAttribute_original (stun : STUNPacket) (original : Option (List UInt8)) (attr : Attributes) :
    ({ stun with mOriginalPacket := original } : STUNPacket).hasAttribute ext attr = stun.hasAttribute ext attr := by
  cases attr <;> rfl

theorem checkAttribute_original (rfc : RFCs) (stun : STUNPacket) (attr : Attributes) (original : Option (List UInt8)) :
    checkAttribute ext rfc { stun with mOriginalPacket := original } attr =
      { checkAttribute ext rfc stun attr with mOriginalPacket := original } := by
  have hhas := @hasAttribute_original ext stun original attr
  have hlegal : isAttributeLegal ext { stun with mOriginalPacket := original } rfc attr =
      isAttributeLegal ext stun rfc attr := by cases attr <;> rfl
  have hrequired : isAttributeRequired ext { stun with mOriginalPacket := original } rfc attr =
      isAttributeRequired ext stun rfc attr := by cases attr <;> rfl
  unfold checkAttribute
  rw [hhas, hlegal, hrequired]
  by_cases hfound : stun.hasAttribute ext attr = true
  · rw [if_pos hfound, if_pos hfound]
    split <;> rfl
  · rw [if_neg hfound, if_neg hfound]
    split
    · clear hhas hlegal hrequired
      cases stun
      cases ‹Classes› with
      | request | indication => rfl
      | response | errorResponse =>
        dsimp only
        split <;> rfl
    · rfl

theorem checkAttributes_original (allowedRFCs : UInt8) (stun : STUNPacket) (original : Option (List UInt8)) :
    checkAttributes ext { stun with mOriginalPacket := original } allowedRFCs =
      { checkAttributes ext stun allowedRFCs with mOriginalPacket := original } := by
  have hguess : ({ stun with mOriginalPacket := original } : STUNPacket).guessRFC ext allowedRFCs =
      stun.guessRFC ext allowedRFCs := rfl
  unfold checkAttributes
  rw [hguess]
  clear hguess
  generalize stun.guessRFC ext allowedRFCs = rfc
  induction gAttributeOrdering generalizing stun with
  | nil => rfl
  | cons attr attrs ih => rw [List.foldl_cons, checkAttribute_original, ih, List.foldl_cons]

theorem checkAttributes_frame (allowedRFCs : UInt8) (stun : STUNPacket) :
    (stun.checkAttributes ext allowedRFCs).mOriginalPacket = stun.mOriginalPacket ∧
      (stun.checkAttributes ext allowedRFCs).mMessageIntegrityMessageLengthInBytes =
        stun.mMessageIntegrityMessageLengthInBytes := by
  unfold checkAttributes
  generalize stun.guessRFC ext allowedRFCs = rfc
  induction gAttributeOrdering generalizing stun with
  | nil => exact ⟨rfl, rfl⟩
  | cons attr attrs ih =>
    rw [List.foldl_cons]
    obtain ⟨horiginal, hlength⟩ := ih (stun.checkAttribute ext rfc attr)
    rw [horiginal, hlength]
    unfold checkAttribute
    split
    · split <;> exact ⟨rfl, rfl⟩
    · split
      · split
        · exact ⟨rfl, rfl⟩
        · exact ⟨rfl, rfl⟩
        · split <;> exact ⟨rfl, rfl⟩
        · split <;> exact ⟨rfl, rfl⟩
      · exact ⟨rfl, rfl⟩

end Checks

theorem messageIntegrity_known {method : Methods} {tClass : Classes} {allowedRFCs : UInt8}
    (h : isLegalMethod method tClass allowedRFCs = true) : isAttributeKnown allowedRFCs .messageIntegrity = true := by
  have hbits : method.rfcBits &&& allowedRFCs ≠ 0 := by
    intro hnone
    unfold isLegalMethod at h
    rw [if_pos hnone] at h
    cases h
  have hwithin : method.rfcBits &&& 0x1F = method.rfcBits := by cases method <;> rfl
  have hany := and_ne_zero_of_within hwithin hbits
  rw [UInt8.and_comm] at hany
  exact bne_iff_ne.mpr hany

/-- What a parse that ends with a packet read of its header. -/
theorem parseIfSTUN_eq_ok {ext : Externals} {packet : List UInt8} {allowedRFCs : UInt8} {allowRFC3489 : Bool}
    {stun : STUNPacket} (h : parseIfSTUN ext packet allowedRFCs allowRFC3489 = .ok stun) :
    ∃ magicCookie transactionID tClass method w,
      readDWORD packet 4 = .ok magicCookie ∧ readArray packet 8 12 = .ok transactionID ∧
      Classes.ofCode (messageTypeClass (UInt16.ofNat (wordAt packet 0))) = some tClass ∧
      Methods.ofCode (messageTypeMethod (UInt16.ofNat (wordAt packet 0))) = some method ∧
      isLegalMethod method tClass allowedRFCs = true ∧ 20 + wordAt packet 2 ≤ packet.length ∧
      parseAttributes ext allowedRFCs packet 20 (wordAt packet 2)
        { stun := { mMagicCookie := magicCookie, mClass := tClass, mMethod := method,
                    mTransactionID := transactionID } } = .ok w ∧
      stun = w.stun.checkAttributes ext allowedRFCs := by
  unfold parseIfSTUN at h
  obtain ⟨_, _, h⟩ := bind_eq_ok h
  obtain ⟨first, _, h⟩ := bind_eq_ok h
  obtain ⟨_, _, h⟩ := bind_eq_ok h
  obtain ⟨magicCookie, hcookie, h⟩ := bind_eq_ok h
  obtain ⟨_, _, h⟩ := bind_eq_ok h
  obtain ⟨messageType, htype, h⟩ := bind_eq_ok h
  obtain ⟨messageLength, hlength, h⟩ := bind_eq_ok h
  obtain ⟨_, _, h⟩ := bind_eq_ok h
  obtain ⟨_, hinside, h⟩ := bind_eq_ok h
  obtain ⟨_, _, h⟩ := bind_eq_ok h
  obtain ⟨transactionID, hid, h⟩ := bind_eq_ok h
  obtain ⟨-, htype, -⟩ := readWORD_eq_ok htype
  obtain ⟨-, -, hlength⟩ := readWORD_eq_ok hlength
  have hinside := rejectIf_eq_ok hinside
  rw [htype, hlength] at h
  rw [hlength] at hinside
  split at h
  next tClass method hclass hmethod =>
    obtain ⟨_, hlegal, h⟩ := bind_eq_ok h
    obtain ⟨w, hw, h⟩ := bind_eq_ok h
    have hlegal := rejectIf_eq_ok hlegal
    refine ⟨magicCookie, transactionID, tClass, method, w, hcookie, hid, hclass, hmethod, ?_, by omega, hw,
      (Except.ok.inj h).symm⟩
    simpa using hlegal
  next => cases h

/-- Two packets whose headers differ at most in the length, that agree from the end of the header to
the end of the first MESSAGE-INTEGRITY attribute, and that are both accepted, are parsed into the
same packet; only the bytes its integrity is checked on are each one's own, and the check says the
same of both. -/
theorem nothing_after_integrity (ext : Externals) (allowedRFCs : UInt8) (allowRFC3489 : Bool) {p q : List UInt8}
    {stun stun' : STUNPacket} {e : Nat} (hp : parseIfSTUN ext p allowedRFCs allowRFC3489 = .ok stun)
    (hq : parseIfSTUN ext q allowedRFCs allowRFC3489 = .ok stun') (htype : slice p 0 2 = slice q 0 2)
    (hheader : slice p 4 16 = slice q 4 16) (hep : integrityEnd p = some e) (heq : (integrityEnd q).isSome)
    (hbody : slice p 20 (e - 20) = slice q 20 (e - 20)) :
    stun' = { stun with mOriginalPacket := stun'.mOriginalPacket } ∧
      (∀ attr, stun'.hasAttribute ext attr = stun.hasAttribute ext attr) ∧
      ∀ password login, stun'.isValidMessageIntegrity ext password login =
        stun.isValidMessageIntegrity ext password login := by
  obtain ⟨cookie, transactionID, tClass, method, wp, hcookie, hid, hclass, hmethod, hlegal, hinp, hwp, hstun⟩ :=
    parseIfSTUN_eq_ok hp
  obtain ⟨cookie', transactionID', tClass', method', wq, hcookie', hid', hclass', hmethod', -, hinq, hwq, hstun'⟩ :=
    parseIfSTUN_eq_ok hq
  have he : 20 ≤ e := le_trans (by omega) (le_firstIntegrityEnd hep)
  have hagree : Agree p q e := agree_of_slice hheader hbody he
  have hword : wordAt p 0 = wordAt q 0 := by
    unfold wordAt
    rw [htype]
  have hsamecookie : readDWORD p 4 = readDWORD q 4 := by
    unfold readDWORD readAt
    rw [if_pos (by omega), if_pos (by omega), hagree 4 4 (by omega) (by omega)]
  have hsameid : readArray p 8 12 = readArray q 8 12 := by
    unfold readArray
    rw [dif_pos (by omega), dif_pos (by omega)]
    simp only [hagree 8 12 (by omega) (by omega)]
  rw [← hword] at hclass' hmethod'
  obtain rfl : cookie = cookie' := Except.ok.inj (hcookie.symm.trans (hsamecookie.trans hcookie'))
  obtain rfl : transactionID = transactionID' := Except.ok.inj (hid.symm.trans (hsameid.trans hid'))
  obtain rfl : tClass = tClass' := Option.some.inj (hclass.symm.trans hclass')
  obtain rfl : method = method' := Option.some.inj (hmethod.symm.trans hmethod')
  have hsame := parseAttributes_agree (by omega) (by omega) hagree (messageIntegrity_known hlegal) hwp hwq hep heq
    (le_refl 20) ⟨rfl, rfl⟩
  obtain ⟨horiginal, hlength⟩ := @checkAttributes_frame ext allowedRFCs wp.stun
  rcases hsame with ⟨hnone, hsame⟩ | ⟨hsome, hsame, hle⟩
  · rw [hstun, hstun', hsame]
    generalize checkAttributes ext wp.stun allowedRFCs = stun
    exact ⟨rfl, fun _ => rfl, fun _ _ => rfl⟩
  · rw [hsome] at horiginal
    rw [hstun, hstun', hsame, checkAttributes_original]
    revert horiginal hlength
    generalize checkAttributes ext wp.stun allowedRFCs = stun
    intro horiginal hlength
    refine ⟨rfl, fun attr => hasAttribute_original _ _ attr, fun password login => ?_⟩
    unfold isValidMessageIntegrity
    rw [horiginal]
    dsimp only
    have hprefix : ∀ new : List UInt8, new.length = 2 → ∀ n ≤ e,
        (overwrite q 2 new).take n = (overwrite p 2 new).take n := by
      intro new hnew n hn
      have hdrop : (q.drop 4).take (n - 4) = (p.drop 4).take (n - 4) := by
        by_cases hfour : n ≤ 4
        · rw [Nat.sub_eq_zero_of_le hfour, List.take_zero, List.take_zero]
        · exact (hagree 4 (n - 4) (by omega) (by omega)).symm
      have htake : q.take 2 = p.take 2 := htype.symm
      unfold overwrite
      rw [hnew, htake, List.take_append, @List.take_append _ (p.take 2 ++ new)]
      have hlen : (p.take 2 ++ new).length = 4 := by
        rw [List.length_append, List.length_take, hnew]
        omega
      rw [hlen, hdrop]
    rw [hlength, hprefix _ (length_toBE _ _) _ hle]

/-- The library for addresses and strings that are plain. -/
def plainExternals : Externals where
  isAddressEmpty address := decide (address = .empty)
  isIPv4
    | .ipv6 _ _ => false
    | _ => true
  getIPv4AddressAsDWORD
    | .ipv4 address _ => address
    | _ => 0
  getIPv6Address
    | .ipv6 address _ => address
    | _ => Vector.replicate 16 0
  getPort
    | .ipv4 _ port | .ipv6 _ port => port
    | .empty => 0
  lengthUnicodeSafe bytes := bytes.countP fun b => b &&& 0xC0 != 0x80
  crc32 _ := 0
  md5 _ := []
  hmacSHA1 _ _ := Vector.replicate 20 0

/-- A request with an integrity and no other attribute before it. -/
def signedRequest (tail : List UInt8) : List UInt8 :=
  [0x00, 0x01] ++ toBE 2 (24 + tail.length) ++ [0x21, 0x12, 0xA4, 0x42] ++ zeros 12 ++
    [0x00, 0x08, 0x00, 0x14] ++ zeros 20 ++ tail

theorem nothing_after_integrity_username :
    (parseIfSTUN plainExternals (signedRequest [0x00, 0x06, 0x00, 0x04, 0x65, 0x76, 0x69, 0x6C]) allowAll false).map
        (fun stun => { stun with mOriginalPacket := none }) =
      (parseIfSTUN plainExternals (signedRequest []) allowAll false).map
        fun stun => { stun with mOriginalPacket := none } := by
  obtain ⟨stun, hp⟩ : ∃ stun, parseIfSTUN plainExternals (signedRequest []) allowAll false = .ok stun :=
    (safe_parseIfSTUN _ _ _ _).cases.resolve_right (by decide +kernel)
  obtain ⟨stun', hq⟩ : ∃ stun', parseIfSTUN plainExternals
      (signedRequest [0x00, 0x06, 0x00, 0x04, 0x65, 0x76, 0x69, 0x6C]) allowAll false = .ok stun' :=
    (safe_parseIfSTUN _ _ _ _).cases.resolve_right (by decide +kernel)
  have hsame := (nothing_after_integrity plainExternals allowAll false hp hq (by decide +kernel) (by decide +kernel)
    (e := 44) (by decide +kernel) (by decide +kernel) (by decide +kernel)).1
  rw [hp, hq, hsame]
  rfl

end OpenPeer
