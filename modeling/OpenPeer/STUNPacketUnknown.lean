import OpenPeer.STUNPacketPresence

/-!
# Attributes that are not known

An attribute that no allowed RFC knows is passed over: it is noted only inside of the branch
for the attributes that are looked at. So a type that must be understood is reported only
when the message lists it itself, or when it is that of an address reported for another reason.
-/
namespace OpenPeer

open Bytes Tlv STUNPacket

/-- An allowed RFC knows the type. -/
def isRecognised (allowedRFCs : UInt8) (attributeType : UInt16) : Bool :=
  match Attributes.ofCode attributeType with
  | some attr => isAttributeKnown allowedRFCs attr
  | none => false

/-- The types before the integrity that must be understood and that no allowed RFC knows. -/
def MustBeReported (allowedRFCs : UInt8) (l : List Placed) (attributeType : UInt16) : Prop :=
  ∃ before e after, l = before ++ e :: after ∧ (∀ d ∈ before, d.tag ≠ Attributes.messageIntegrity.toCode) ∧
    e.tag = attributeType ∧ isComprehensionRequired attributeType = true ∧ isRecognised allowedRFCs attributeType = false

/-- The packet is what the other attributes make of an empty one when those are left out that need
not be understood and that no allowed RFC knows. -/
def OptionalIgnored (ext : Externals) (allowedRFCs : UInt8) (packet : List UInt8) (l : List Placed) (stun : STUNPacket) :
    Prop :=
  ∃ empty : STUNPacket, empty.mErrorCode = 0 ∧ empty.mUnknownAttributes = [] ∧ ∃ w,
    (l.filter fun e => isComprehensionRequired e.tag || isRecognised allowedRFCs e.tag).foldlM
      (handleElement ext allowedRFCs packet) { stun := empty } = .ok w ∧
    stun = w.stun.checkAttributes ext allowedRFCs

/-- The words of a value. -/
def wordsOf (value : List UInt8) : List UInt16 :=
  (List.range (value.length / 2)).map fun i => UInt16.ofNat (wordAt value (2 * i))

/-- The message lists the type itself, in an UNKNOWN-ATTRIBUTES attribute that is processed. -/
def Listed (allowedRFCs : UInt8) (l : List Placed) (attributeType : UInt16) : Prop :=
  ∃ e, (.unknownAttribute, e) ∈ processed allowedRFCs l ∧ attributeType ∈ wordsOf e.value

/-- The address of a mapped address attribute, plain or not. -/
def addressOf (packet : List UInt8) (magicCookie : UInt32) (c : Carried) : Option IPAddress :=
  if c.1.isMapped then
    some (((parseMappedAddress packet c.2.value (if c.1 = .xorMappedAddress then magicCookie else 0)
      (c.1 = .xorMappedAddress)).toOption.bind id).getD .empty)
  else none

/-- The mapped address of the message, from the last such attribute that is processed. -/
def mappedAddressOf (allowedRFCs : UInt8) (packet : List UInt8) (l : List Placed) : IPAddress :=
  ((processed allowedRFCs l).filterMap
    (addressOf packet (UInt32.ofNat (ofBE (slice packet 4 4))))).getLastD .empty

/-- The type is that of the form of the mapped address that goes with the cookie of the message,
which has a mapped address, in the other form. -/
def OtherAddress (ext : Externals) (allowedRFCs : UInt8) (packet : List UInt8) (l : List Placed)
    (attributeType : UInt16) : Prop :=
  attributeType = (if UInt32.ofNat (ofBE (slice packet 4 4)) = STUNPacket.magicCookie then
      Attributes.xorMappedAddress.toCode else Attributes.mappedAddress.toCode) ∧
    ext.isAddressEmpty (mappedAddressOf allowedRFCs packet l) = false

section Noted

variable {ext : Externals} {allowedRFCs : UInt8} {packet : List UInt8}

theorem readWORDs_of_le (value : List UInt8) {pos count : Nat} (h : pos + 2 * count ≤ value.length) :
    readWORDs value pos count = .ok ((List.range count).map fun i => UInt16.ofNat (wordAt value (pos + 2 * i))) := by
  unfold readWORDs
  have hall : ∀ l : List Nat, (∀ i ∈ l, i < count) → l.mapM (fun i => readWORD value (pos + 2 * i)) =
      .ok (l.map fun i => UInt16.ofNat (wordAt value (pos + 2 * i))) := by
    intro l hl
    induction l with
    | nil => rfl
    | cons i l ih =>
      have hi := hl i List.mem_cons_self
      rw [List.mapM_cons, readWORD_of_le (by omega), ih fun j hj => hl j (List.mem_cons_of_mem i hj)]
      rfl
  exact hall _ fun i hi => List.mem_range.mp hi

variable {w w' : ParseState}

/-- A type that is not known is noted only from a list of such types. -/
theorem takeAttribute_noted {c : Carried} (h : takeAttribute ext packet w c = .ok w')
    {attributeType : UInt16} (hne : attributeType ≠ c.2.tag) :
    attributeType ∈ w'.stun.mUnknownAttributes ↔ attributeType ∈ w.stun.mUnknownAttributes ∨
      c.1 = .unknownAttribute ∧ attributeType ∈ wordsOf c.2.value := by
  obtain ⟨r, hr, hw'⟩ := takeAttribute_eq_ok h
  have hparsed : attributeType ∈ r.1.stun.mUnknownAttributes ↔ attributeType ∈ w.stun.mUnknownAttributes ∨
      c.1 = .unknownAttribute ∧ attributeType ∈ wordsOf c.2.value := by
    by_cases hattr : c.1 = .unknownAttribute
    · rw [hattr] at hr
      obtain ⟨_, heven, hr⟩ := bind_eq_ok hr
      have heven := rejectIf_eq_ok heven
      rw [readWORDs_of_le c.2.value (by omega), ok_bind] at hr
      rw [← Except.ok.inj hr]
      simp [hattr, wordsOf]
    · rw [(parseAttribute_effect ext packet _ _ _ w r hr).unknown hattr]
      simp [hattr]
  rw [← hparsed, hw']
  split
  · simp [noteUnknown, hne]
  · exact Iff.rfl

variable {l : List Carried}

theorem foldlM_noted (h : l.foldlM (takeAttribute ext packet) w = .ok w') {attributeType : UInt16}
    (hne : ∀ c ∈ l, attributeType ≠ c.2.tag) :
    attributeType ∈ w'.stun.mUnknownAttributes ↔ attributeType ∈ w.stun.mUnknownAttributes ∨
      ∃ e, (.unknownAttribute, e) ∈ l ∧ attributeType ∈ wordsOf e.value := by
  induction l generalizing w with
  | nil =>
    cases h
    simp
  | cons c l ih =>
    rw [List.foldlM_cons] at h
    obtain ⟨w₁, htake, hfold⟩ := bind_eq_ok h
    rw [ih hfold fun d hd => hne d (List.mem_cons_of_mem c hd), takeAttribute_noted htake (hne c List.mem_cons_self)]
    constructor
    · rintro ((hold | ⟨hattr, hword⟩) | ⟨e, he, hword⟩)
      · exact .inl hold
      · exact .inr ⟨c.2, by rw [← hattr]; exact List.mem_cons_self, hword⟩
      · exact .inr ⟨e, List.mem_cons_of_mem c he, hword⟩
    · rintro (hold | ⟨e, he, hword⟩)
      · exact .inl (.inl hold)
      · rcases List.mem_cons.mp he with rfl | he
        · exact .inl (.inr ⟨rfl, hword⟩)
        · exact .inr ⟨e, he, hword⟩

/-- The mapped address comes from the last attribute that has one. -/
theorem foldlM_address (h : l.foldlM (takeAttribute ext packet) w = .ok w') :
    w'.stun.mMagicCookie = w.stun.mMagicCookie ∧
      w'.stun.mMappedAddress = (l.filterMap (addressOf packet w.stun.mMagicCookie)).getLastD w.stun.mMappedAddress := by
  induction l generalizing w with
  | nil =>
    cases h
    exact ⟨rfl, rfl⟩
  | cons c l ih =>
    rw [List.foldlM_cons] at h
    obtain ⟨w₁, htake, hfold⟩ := bind_eq_ok h
    obtain ⟨hcookie, haddress⟩ := ih hfold
    obtain ⟨r, hr, hw₁⟩ := takeAttribute_eq_ok htake
    have heffect := parseAttribute_effect ext packet _ _ _ w r hr
    have hcookie₁ : w₁.stun.mMagicCookie = w.stun.mMagicCookie := by
      rw [hw₁]
      split <;> exact heffect.cookie
    have haddress₁ : w₁.stun.mMappedAddress =
        (addressOf packet w.stun.mMagicCookie c).getD w.stun.mMappedAddress := by
      have hr₁ : w₁.stun.mMappedAddress = r.1.stun.mMappedAddress := by
        rw [hw₁]
        split <;> rfl
      rw [hr₁]
      unfold addressOf
      cases hmapped : c.1.isMapped with
      | false =>
        rw [heffect.address hmapped]
        rfl
      | true =>
        obtain ⟨attr, e⟩ := c
        dsimp only at hr hmapped ⊢
        cases attr with
        | mappedAddress | xorMappedAddress =>
          obtain ⟨address, hparse, hr⟩ := bind_eq_ok hr
          rw [← Except.ok.inj hr]
          simp [hparse, Except.toOption]
        | _ => cases hmapped
    rw [hcookie, hcookie₁, haddress, haddress₁, hcookie₁]
    refine ⟨rfl, ?_⟩
    cases haddressOf : addressOf packet w.stun.mMagicCookie c with
    | none => rw [List.filterMap_cons_none haddressOf, Option.getD_none]
    | some address => rw [List.filterMap_cons_some haddressOf, Option.getD_some, List.getLastD_cons]

/-- An attribute the packet has was taken; but a fingerprint is there from the start, an address may
be there in the other form, and the errors are added. -/
theorem foldlM_has (h : l.foldlM (takeAttribute ext packet) w = .ok w') {attr : Attributes}
    (hmapped : attr.isMapped = false) (herror : attr ≠ .errorCode) (hunknown : attr ≠ .unknownAttribute)
    (hhas : w'.stun.hasAttribute ext attr = true) :
    w.stun.hasAttribute ext attr = true ∨ ∃ e, (attr, e) ∈ l := by
  induction l generalizing w with
  | nil =>
    cases h
    exact .inl hhas
  | cons c l ih =>
    rw [List.foldlM_cons] at h
    obtain ⟨w₁, htake, hfold⟩ := bind_eq_ok h
    obtain hhas₁ | ⟨e, he⟩ := ih hfold
    · by_cases hattr : c.1 = attr
      · exact .inr ⟨c.2, by rw [← hattr]; exact List.mem_cons_self⟩
      · obtain ⟨r, hr, hw₁⟩ := takeAttribute_eq_ok htake
        have hkeeps := (parseAttribute_effect ext packet _ _ _ w r hr).others attr (Ne.symm hattr) (by rw [hmapped]; rfl)
        rw [← hkeeps]
        rw [hw₁] at hhas₁
        split at hhas₁
        · rw [noteUnknown, hasAttribute_noted _ _ _ herror hunknown] at hhas₁
          exact .inl hhas₁
        · exact .inl hhas₁
    · exact .inr ⟨e, List.mem_cons_of_mem c he⟩

end Noted

section Checks

variable {ext : Externals} {rfc : RFCs}

variable {stun : STUNPacket}

theorem checkAttribute_quiet {attr : Attributes} (h : (stun.checkAttribute ext rfc attr).mErrorCode = 0) :
    stun.checkAttribute ext rfc attr = stun := by
  unfold checkAttribute at h ⊢
  by_cases hzero : stun.mErrorCode = 0
  · simp only [hzero, if_true] at h
    split at h
    · split at h
      · cases h
      next hlegal => rw [if_pos ‹_›, if_neg hlegal]
    next hhas =>
      rw [if_neg hhas]
      split at h
      · split at h <;> cases h
      next hrequired => rw [if_neg hrequired]
  · simp only [hzero, if_false] at h
    split at h
    · split at h
      · exact absurd h hzero
      next hlegal => rw [if_pos ‹_›, if_neg hlegal]
    next hhas =>
      rw [if_neg hhas]
      split at h
      · split at h <;> exact absurd h hzero
      next hrequired => rw [if_neg hrequired]

variable {attrs : List Attributes}

theorem foldl_quiet (h : (attrs.foldl (checkAttribute ext rfc) stun).mErrorCode = 0) :
    attrs.foldl (checkAttribute ext rfc) stun = stun ∧
      ∀ attr ∈ attrs, stun.checkAttribute ext rfc attr = stun := by
  induction attrs generalizing stun with
  | nil => exact ⟨rfl, fun _ h => nomatch h⟩
  | cons attr attrs ih =>
    rw [List.foldl_cons] at h ⊢
    obtain ⟨hrest, hquiet⟩ := ih h
    have hzero : (stun.checkAttribute ext rfc attr).mErrorCode = 0 := by
      rw [← hrest]
      exact h
    have hstep := checkAttribute_quiet hzero
    rw [hstep] at hrest hquiet ⊢
    refine ⟨hrest, fun attr' hattr' => ?_⟩
    rcases List.mem_cons.mp hattr' with rfl | hattr'
    · exact hstep
    · exact hquiet attr' hattr'

theorem checkAttributes_error (stun : STUNPacket) (allowedRFCs : UInt8)
    (h : (stun.checkAttributes ext allowedRFCs).mUnknownAttributes ≠ []) :
    (stun.checkAttributes ext allowedRFCs).mErrorCode ≠ 0 := by
  unfold checkAttributes at h ⊢
  intro hzero
  obtain ⟨hsame, hquiet⟩ := foldl_quiet hzero
  rw [hsame] at h hzero
  have hstep := hquiet .unknownAttribute (by decide)
  have hhas : stun.hasAttribute ext .unknownAttribute = true := by
    simpa [STUNPacket.hasAttribute] using h
  unfold checkAttribute at hstep
  rw [if_pos hhas] at hstep
  have hillegal : isAttributeLegal ext stun (stun.guessRFC ext allowedRFCs) .unknownAttribute = false := by
    unfold isAttributeLegal
    split
    · rfl
    · split
      · rfl
      · simp [hzero]
  rw [hillegal, Bool.not_false, if_pos rfl] at hstep
  have herror := congrArg mErrorCode hstep
  rw [hzero] at herror
  cases herror

theorem checkAttribute_eq (ext : Externals) (rfc : RFCs) (stun : STUNPacket) (attr : Attributes) :
    ∃ errorCode unknown, stun.checkAttribute ext rfc attr =
      { stun with mErrorCode := errorCode, mUnknownAttributes := stun.mUnknownAttributes ++ unknown } ∧
      ∀ t ∈ unknown, t = attr.toCode ∧
        (stun.hasAttribute ext attr = true ∨ isAttributeRequired ext stun rfc attr = true) := by
  have hnone : stun = { stun with
      mErrorCode := stun.mErrorCode, mUnknownAttributes := stun.mUnknownAttributes ++ [] } := by
    rw [List.append_nil]
  unfold checkAttribute
  split
  next hhas =>
    split
    · exact ⟨_, [attr.toCode], rfl, fun t ht => ⟨List.mem_singleton.mp ht, .inl hhas⟩⟩
    · exact ⟨_, [], hnone, fun _ ht => nomatch ht⟩
  next =>
    split
    next hrequired =>
      have hpush : ∀ t ∈ [attr.toCode], t = attr.toCode ∧
          (stun.hasAttribute ext attr = true ∨ isAttributeRequired ext stun rfc attr = true) :=
        fun t ht => ⟨List.mem_singleton.mp ht, .inr hrequired⟩
      split
      · exact ⟨_, [], by rw [List.append_nil], fun _ ht => nomatch ht⟩
      · exact ⟨_, [], by rw [List.append_nil], fun _ ht => nomatch ht⟩
      · split
        · exact ⟨_, [attr.toCode], rfl, hpush⟩
        · exact ⟨_, [], hnone, fun _ ht => nomatch ht⟩
      · split
        · exact ⟨_, [attr.toCode], rfl, hpush⟩
        · exact ⟨_, [], hnone, fun _ ht => nomatch ht⟩
    · exact ⟨_, [], hnone, fun _ ht => nomatch ht⟩

theorem errors_known {attr : Attributes} (h : attr = .errorCode ∨ attr = .unknownAttribute) :
    isAttributeKnown rfc.bit attr = true := by
  rcases h with rfl | rfl <;> cases rfc <;> rfl

/-- A type is noted by the checks for an attribute that the packet has, or that the RFC knows. -/
theorem foldl_noted {t : UInt16}
    (h : t ∈ (attrs.foldl (checkAttribute ext rfc) stun).mUnknownAttributes) :
    t ∈ stun.mUnknownAttributes ∨ ∃ attr, t = attr.toCode ∧
      (isAttributeKnown rfc.bit attr = true ∨ stun.hasAttribute ext attr = true) := by
  induction attrs generalizing stun with
  | nil => exact .inl h
  | cons attr attrs ih =>
    rw [List.foldl_cons] at h
    obtain ⟨errorCode, unknown, hstep, hunknown⟩ := checkAttribute_eq ext rfc stun attr
    rw [hstep] at h
    obtain hnoted | ⟨attr', ht, hattr'⟩ := ih h
    · obtain hold | hnew := List.mem_append.mp hnoted
      · exact .inl hold
      · obtain ⟨ht, hhas | hrequired⟩ := hunknown t hnew
        · exact .inr ⟨attr, ht, .inr hhas⟩
        · refine .inr ⟨attr, ht, .inl ?_⟩
          unfold isAttributeRequired at hrequired
          split at hrequired
          · cases hrequired
          next hknown => simpa using hknown
    · refine .inr ⟨attr', ht, ?_⟩
      by_cases herror : attr' = .errorCode ∨ attr' = .unknownAttribute
      · exact .inl (errors_known herror)
      · rw [not_or] at herror
        rw [hasAttribute_noted _ _ _ herror.1 herror.2] at hattr'
        exact hattr'

/-- What is noted stays noted, and an attribute of the packet that the RFC does not know is noted. -/
theorem noted_foldl {t : UInt16}
    (h : t ∈ stun.mUnknownAttributes ∨ ∃ attr ∈ attrs, t = attr.toCode ∧ stun.hasAttribute ext attr = true ∧ isAttributeKnown rfc.bit attr = false) :
    t ∈ (attrs.foldl (checkAttribute ext rfc) stun).mUnknownAttributes := by
  induction attrs generalizing stun with
  | nil =>
    obtain h | ⟨_, h, -⟩ := h
    · exact h
    · cases h
  | cons attr attrs ih =>
    rw [List.foldl_cons]
    obtain ⟨errorCode, unknown, hstep, -⟩ := checkAttribute_eq ext rfc stun attr
    apply ih
    obtain hold | ⟨attr', hattr', ht, hhas, hunknown⟩ := h
    · left
      rw [hstep]
      exact List.mem_append_left _ hold
    rcases List.mem_cons.mp hattr' with rfl | hattr'
    · left
      have hillegal : isAttributeLegal ext stun rfc attr' = false := by
        unfold isAttributeLegal
        split
        · rfl
        · rw [if_pos (by rw [hunknown]; rfl)]
      unfold checkAttribute
      rw [if_pos hhas, hillegal, Bool.not_false, if_pos rfl, ht]
      exact List.mem_append_right _ List.mem_cons_self
    · right
      refine ⟨attr', hattr', ht, ?_, hunknown⟩
      have herror : attr' ≠ .errorCode ∧ attr' ≠ .unknownAttribute := by
        rw [← not_or]
        intro h
        rw [errors_known h] at hunknown
        cases hunknown
      rw [hstep, hasAttribute_noted _ _ _ herror.1 herror.2]
      exact hhas

end Checks

section Guess

variable {allowedRFCs : UInt8}

theorem known_of_bit {rfc : RFCs} {attr : Attributes} (hbit : rfc.bit &&& allowedRFCs ≠ 0)
    (h : isAttributeKnown rfc.bit attr = true) : isAttributeKnown allowedRFCs attr = true := by
  unfold isAttributeKnown at h ⊢
  split
  · rfl
  next hreserved =>
    rw [if_neg hreserved, bne_iff_ne] at h
    rw [bne_iff_ne]
    exact and_ne_zero_of_within (rfc.bit_and_eq hbit) h

/-- The RFC that is guessed is allowed, or it is the oldest one and the one after it is allowed. -/
theorem guessRFC_allowed (ext : Externals) (stun : STUNPacket) (h : isAttributeKnown allowedRFCs .messageIntegrity = true) :
    (stun.guessRFC ext allowedRFCs).bit &&& allowedRFCs ≠ 0 ∨
      stun.guessRFC ext allowedRFCs = .rfc3489STUN ∧ RFCs.rfc5389STUN.bit &&& allowedRFCs ≠ 0 := by
  have hall : ∀ allowed : UInt8, allowed &&& 0x1F != 0 → 0x01 &&& allowed = 0 → 0x08 &&& allowed = 0 →
      0x04 &&& allowed = 0 → 0x10 &&& allowed = 0 → 0x02 &&& allowed ≠ 0 := forall_byte (by decide +kernel)
  have hsome := hall allowedRFCs h
  unfold guessRFC
  dsimp only
  by_cases hany : (stun.guessRFCAny ext).bit &&& allowedRFCs ≠ 0
  · rw [if_pos hany]
    exact .inl hany
  rw [if_neg hany]
  by_cases h5389 : RFCs.rfc5389STUN.bit &&& allowedRFCs ≠ 0 ∧ stun.isRFC5389 = true
  · rw [if_pos h5389]
    exact .inl h5389.1
  rw [if_neg h5389]
  by_cases h3489 : RFCs.rfc3489STUN.bit &&& allowedRFCs ≠ 0
  · rw [if_pos h3489]
    exact .inl h3489
  rw [if_neg h3489]
  by_cases h5245 : RFCs.rfc5245ICE.bit &&& allowedRFCs ≠ 0
  · rw [if_pos h5245]
    exact .inl h5245
  rw [if_neg h5245]
  by_cases h5766 : RFCs.rfc5766TURN.bit &&& allowedRFCs ≠ 0
  · rw [if_pos h5766]
    exact .inl h5766
  rw [if_neg h5766]
  by_cases hrudp : RFCs.draftRUDP.bit &&& allowedRFCs ≠ 0
  · rw [if_pos hrudp]
    exact .inl hrudp
  rw [if_neg hrudp]
  have hbit : RFCs.rfc5389STUN.bit &&& allowedRFCs ≠ 0 :=
    hsome (Classical.not_not.mp h3489) (Classical.not_not.mp h5245) (Classical.not_not.mp h5766)
      (Classical.not_not.mp hrudp)
  rw [if_neg (fun hcookie => h5389 ⟨hbit, hcookie⟩)]
  exact .inr ⟨rfl, hbit⟩

theorem guessRFC_known (ext : Externals) (stun : STUNPacket) (h : isAttributeKnown allowedRFCs .messageIntegrity = true)
    {attr : Attributes} (hattr : isAttributeKnown (stun.guessRFC ext allowedRFCs).bit attr = true) :
    isAttributeKnown allowedRFCs attr = true := by
  obtain hbit | ⟨hguess, hbit⟩ := guessRFC_allowed ext stun h
  · exact known_of_bit hbit hattr
  · rw [hguess] at hattr
    have hnext : isAttributeKnown RFCs.rfc5389STUN.bit attr = true := by
      revert hattr
      cases attr <;> decide
    exact known_of_bit hbit hnext

end Guess

section Reported

variable (ext : Externals)

theorem isRecognised_toCode (allowedRFCs : UInt8) (attr : Attributes) :
    isRecognised allowedRFCs attr.toCode = isAttributeKnown allowedRFCs attr := by
  unfold isRecognised
  rw [Attributes.ofCode_toCode]

/-- A type that must be understood and is not known is noted just when the message lists it, or has
an address in the other form. -/
theorem noted_iff (hempty : ext.isAddressEmpty .empty = true) {allowedRFCs : UInt8} {allowRFC3489 : Bool}
    {packet : List UInt8} {stun : STUNPacket} (h : parseIfSTUN ext packet allowedRFCs allowRFC3489 = .ok stun)
    {l : List Placed} (hl : attributesOf packet = some l) {t : UInt16} (hrequired : isComprehensionRequired t = true)
    (hunknown : isRecognised allowedRFCs t = false) :
    t ∈ stun.mUnknownAttributes ↔ Listed allowedRFCs l t ∨ OtherAddress ext allowedRFCs packet l t := by
  obtain ⟨magicCookie, transactionID, tClass, method, l', w, hcookie, -, hlegal, hl', hfold, hstun⟩ :=
    parseIfSTUN_processed h
  rw [hl] at hl'
  obtain rfl := Option.some.inj hl'
  have hmi := messageIntegrity_known hlegal
  obtain ⟨cookieBytes, hbytes, hcookie⟩ := bind_eq_ok hcookie
  obtain ⟨-, hbytes⟩ := readAt_eq_ok hbytes
  have hcookie := (Except.ok.inj hcookie).symm
  rw [hbytes] at hcookie
  have hne : ∀ c ∈ processed allowedRFCs l, t ≠ c.2.tag := by
    rintro c hc rfl
    obtain ⟨-, hcode, hknown⟩ := mem_processed hc
    unfold isRecognised at hunknown
    rw [hcode] at hunknown
    exact absurd (hknown.symm.trans hunknown) (by decide)
  have hlisted : t ∈ w.stun.mUnknownAttributes ↔ Listed allowedRFCs l t := by
    rw [foldlM_noted hfold hne]
    exact ⟨fun h => h.resolve_left (fun h => nomatch h), .inr⟩
  obtain ⟨hsame, haddress⟩ := foldlM_address hfold
  have hsame : w.stun.mMagicCookie = UInt32.ofNat (ofBE (slice packet 4 4)) := hsame.trans hcookie
  have haddress : w.stun.mMappedAddress = mappedAddressOf allowedRFCs packet l := by
    rw [haddress, mappedAddressOf, ← hcookie]
    rfl
  -- an attribute of such a type is one of the two forms of the mapped address
  have hhas : ∀ attr : Attributes, t = attr.toCode →
      (w.stun.hasAttribute ext attr = true ↔ OtherAddress ext allowedRFCs packet l t) := by
    intro attr ht
    have hnotKnown : isAttributeKnown allowedRFCs attr = false := by
      rw [← isRecognised_toCode, ← ht]
      exact hunknown
    unfold OtherAddress
    rw [← hsame, ← haddress, ht]
    by_cases hmapped : attr.isMapped = true
    · have hforms : attr = .mappedAddress ∨ attr = .xorMappedAddress := by
        revert hmapped
        cases attr <;> decide
      by_cases hmagic : w.stun.mMagicCookie = STUNPacket.magicCookie
      · rcases hforms with rfl | rfl
        · simp [STUNPacket.hasAttribute, STUNPacket.isRFC3489, hmagic, Attributes.toCode]
        · simp [STUNPacket.hasAttribute, STUNPacket.isRFC3489, hmagic]
      · rcases hforms with rfl | rfl
        · simp [STUNPacket.hasAttribute, STUNPacket.isRFC3489, hmagic]
        · simp [STUNPacket.hasAttribute, STUNPacket.isRFC3489, hmagic, Attributes.toCode]
    · have hmapped := Bool.eq_false_iff.mpr hmapped
      constructor
      · intro hattr
        exfalso
        have herrors : attr ≠ .errorCode ∧ attr ≠ .unknownAttribute := by
          constructor
          · rintro rfl
            exact absurd (hmi.symm.trans hnotKnown) (by decide)
          · rintro rfl
            exact absurd (hmi.symm.trans hnotKnown) (by decide)
        obtain hstart | ⟨e, he⟩ := foldlM_has hfold hmapped herrors.1 herrors.2 hattr
        · have hfingerprint : attr = .fingerPrint := by
            revert hstart
            cases attr <;> simp [STUNPacket.hasAttribute, emptyPacket, hempty]
          rw [ht, hfingerprint] at hrequired
          exact absurd hrequired (by decide)
        · exact absurd ((mem_processed he).2.2.symm.trans hnotKnown) (by decide)
      · rintro ⟨hcode, -⟩
        exfalso
        revert hmapped hcode
        split <;> cases attr <;> decide
  rw [hstun, checkAttributes, ← hlisted]
  constructor
  · intro hnoted
    obtain hold | ⟨attr, ht, hknown | hattr⟩ := foldl_noted hnoted
    · exact .inl hold
    · have := guessRFC_known ext w.stun hmi hknown
      rw [← isRecognised_toCode, ← ht, hunknown] at this
      cases this
    · exact .inr ((hhas attr ht).mp hattr)
  · rintro (hold | hother)
    · exact noted_foldl (.inl hold)
    · have hcode : ∃ attr ∈ gAttributeOrdering, t = attr.toCode := by
        rw [hother.1]
        split
        · exact ⟨.xorMappedAddress, by decide, rfl⟩
        · exact ⟨.mappedAddress, by decide, rfl⟩
      obtain ⟨attr, hattr, ht⟩ := hcode
      refine noted_foldl (.inr ⟨attr, hattr, ht, (hhas attr ht).mpr hother, ?_⟩)
      cases hknown : isAttributeKnown (w.stun.guessRFC ext allowedRFCs).bit attr with
      | false => rfl
      | true =>
        have := guessRFC_known ext w.stun hmi hknown
        rw [← isRecognised_toCode, ← ht, hunknown] at this
        cases this

/-- Every type that must be reported is, and the attributes that need not be understood and that no
allowed RFC knows do nothing, just when the message lists each such type itself or it is that of
the other form of its mapped address. -/
theorem unknown_reported_iff (hempty : ext.isAddressEmpty .empty = true) (allowedRFCs : UInt8) (allowRFC3489 : Bool)
    (packet : List UInt8) (stun : STUNPacket) (h : parseIfSTUN ext packet allowedRFCs allowRFC3489 = .ok stun)
    (l : List Placed) (hl : attributesOf packet = some l) :
    ((∀ t, MustBeReported allowedRFCs l t → stun.mErrorCode ≠ 0 ∧ t ∈ stun.mUnknownAttributes) ∧
      OptionalIgnored ext allowedRFCs packet l stun) ↔
    ∀ t, MustBeReported allowedRFCs l t → Listed allowedRFCs l t ∨ OtherAddress ext allowedRFCs packet l t := by
  constructor
  · rintro ⟨hreported, -⟩ t ht
    obtain ⟨_, _, _, -, -, -, hrequired, hunknown⟩ := id ht
    exact (noted_iff ext hempty h hl hrequired hunknown).mp (hreported t ht).2
  · intro hlisted
    obtain ⟨magicCookie, transactionID, tClass, method, l', w, -, -, -, hl', hfold, hstun⟩ := parseIfSTUN_processed h
    rw [hl] at hl'
    obtain rfl := Option.some.inj hl'
    constructor
    · intro t ht
      obtain ⟨_, _, _, -, -, -, hrequired, hunknown⟩ := id ht
      have hnoted := (noted_iff ext hempty h hl hrequired hunknown).mpr (hlisted t ht)
      refine ⟨?_, hnoted⟩
      rw [hstun] at hnoted ⊢
      exact checkAttributes_error w.stun allowedRFCs (List.ne_nil_of_mem hnoted)
    · refine ⟨emptyPacket magicCookie tClass method transactionID, rfl, rfl, w, ?_, hstun⟩
      have hfilter : (l.filter fun e => isComprehensionRequired e.tag || isRecognised allowedRFCs e.tag).filterMap
          (knownAttribute allowedRFCs) = l.filterMap (knownAttribute allowedRFCs) := by
        rw [List.filterMap_filter]
        congr 1
        funext e
        unfold isRecognised knownAttribute
        cases Attributes.ofCode e.tag with
        | none => simp
        | some attr => cases isAttributeKnown allowedRFCs attr <;> simp
      rw [foldlM_handleElement, hfilter]
      exact hfold

end Reported

/-- A request with the attributes that are given. -/
def requestWith (l : List Element) : List UInt8 :=
  [0x00, 0x01] ++ toBE 2 (encodeAll l).length ++ [0x21, 0x12, 0xA4, 0x42] ++ zeros 12 ++ encodeAll l

/-- An attribute that must be understood, in a message that lists it itself. -/
theorem unknown_reported_iff_listed : ∃ stun,
    parseIfSTUN plainExternals (requestWith [⟨0x000A, [0x7A, 0xBC]⟩, ⟨0x7ABC, []⟩]) allowAll false = .ok stun ∧
      0x7ABC ∈ stun.mUnknownAttributes := by
  obtain ⟨stun, hstun⟩ : ∃ stun, parseIfSTUN plainExternals
      (requestWith [⟨0x000A, [0x7A, 0xBC]⟩, ⟨0x7ABC, []⟩]) allowAll false = .ok stun :=
    (safe_parseIfSTUN _ _ _ _).cases.resolve_right (by decide +kernel)
  have hl : attributesOf (requestWith [⟨0x000A, [0x7A, 0xBC]⟩, ⟨0x7ABC, []⟩]) =
      some [⟨⟨0x000A, [0x7A, 0xBC]⟩, 20⟩, ⟨⟨0x7ABC, []⟩, 28⟩] := by decide +kernel
  have hlisted : Listed allowAll [⟨⟨0x000A, [0x7A, 0xBC]⟩, 20⟩, ⟨⟨0x7ABC, []⟩, 28⟩] 0x7ABC :=
    ⟨⟨⟨0x000A, [0x7A, 0xBC]⟩, 20⟩, by decide +kernel, by decide +kernel⟩
  have hall : ∀ t, MustBeReported allowAll [⟨⟨0x000A, [0x7A, 0xBC]⟩, 20⟩, ⟨⟨0x7ABC, []⟩, 28⟩] t →
      Listed allowAll [⟨⟨0x000A, [0x7A, 0xBC]⟩, 20⟩, ⟨⟨0x7ABC, []⟩, 28⟩] t := by
    rintro t ⟨before, e, after, hsplit, -, rfl, -, hunknown⟩
    have he : e ∈ before ++ e :: after := List.mem_append_right _ List.mem_cons_self
    rw [← hsplit] at he
    rcases List.mem_cons.mp he with rfl | he
    · exact absurd hunknown (by decide +kernel)
    · rw [List.mem_singleton.mp he]
      exact hlisted
  have hreported := ((unknown_reported_iff plainExternals rfl allowAll false _ stun hstun _ hl).mpr
    fun t ht => .inl (hall t ht)).1
  refine ⟨stun, hstun, (hreported 0x7ABC ?_).2⟩
  exact ⟨[⟨⟨0x000A, [0x7A, 0xBC]⟩, 20⟩], ⟨⟨0x7ABC, []⟩, 28⟩, [], rfl, by decide, rfl, by decide, by decide +kernel⟩

/-- An attribute that must be understood and that no RFC has, alone in a request, leaves no trace. -/
theorem unknown_passed_over : ∃ stun l,
    parseIfSTUN plainExternals (requestWith [⟨0x7ABC, []⟩]) allowAll false = .ok stun ∧
      attributesOf (requestWith [⟨0x7ABC, []⟩]) = some l ∧
      ¬((∀ t, MustBeReported allowAll l t → stun.mErrorCode ≠ 0 ∧ t ∈ stun.mUnknownAttributes) ∧
        OptionalIgnored plainExternals allowAll (requestWith [⟨0x7ABC, []⟩]) l stun) := by
  obtain ⟨stun, hstun⟩ : ∃ stun,
      parseIfSTUN plainExternals (requestWith [⟨0x7ABC, []⟩]) allowAll false = .ok stun :=
    (safe_parseIfSTUN _ _ _ _).cases.resolve_right (by decide +kernel)
  have hl : attributesOf (requestWith [⟨0x7ABC, []⟩]) = some [⟨⟨0x7ABC, []⟩, 20⟩] := by decide +kernel
  have herror : (parseIfSTUN plainExternals (requestWith [⟨0x7ABC, []⟩]) allowAll false).map
      (fun stun => stun.mErrorCode) = .ok 0 := by decide +kernel
  rw [hstun] at herror
  refine ⟨stun, _, hstun, hl, fun h => ?_⟩
  refine (h.1 0x7ABC ?_).1 (Except.ok.inj herror)
  exact ⟨[], ⟨⟨0x7ABC, []⟩, 20⟩, [], rfl, fun _ h => (nomatch h), rfl, by decide, by decide +kernel⟩

end OpenPeer
