import OpenPeer.STUNPacketStream
import OpenPeer.Tlv

/-!
# The walk over the attributes of a packet

The parser takes the attributes one after the other. What it makes of a packet is what
it makes of the list of its attributes, and of these it processes the ones that are known,
up to the integrity and then the fingerprint.
-/
namespace OpenPeer

open Bytes Tlv

section Walk

variable {ext : Externals} {allowedRFCs : UInt8} {packet : List UInt8} {pos availableBytes : Nat} {w w' : ParseState}

/-- An attribute of the walk is handled. -/
def handleElement (ext : Externals) (allowedRFCs : UInt8) (packet : List UInt8) (w : ParseState) (e : Placed) :
    Parse ParseState :=
  handleAttribute ext allowedRFCs packet e.start e.tag e.value w

/-- The attributes of a packet, when its message is taken up by attributes. -/
def attributesOf (packet : List UInt8) : Option (List Placed) := walk packet 20 (wordAt packet 2)

theorem parseAttributes_zero : parseAttributes ext allowedRFCs packet pos 0 w = .ok w := by
  rw [parseAttributes, dif_pos rfl]
  rfl

theorem ok_bind {α β : Type} (a : α) (k : α → Parse β) : ((.ok a : Parse α) >>= k) = k a := rfl

theorem rejectIf_of_not {c : Prop} [Decidable c] (h : ¬c) : rejectIf c = .ok () := if_neg h

theorem throwIf_of_not {c : Prop} [Decidable c] {f : Fault} (h : ¬c) : throwIf c f = .ok () := if_neg h

theorem readAt_of_le {buffer : List UInt8} {pos n : Nat} (h : pos + n ≤ buffer.length) :
    readAt buffer pos n = .ok (slice buffer pos n) := if_pos h

theorem readWORD_of_le {buffer : List UInt8} {pos : Nat} (h : pos + 2 ≤ buffer.length) :
    readWORD buffer pos = .ok (UInt16.ofNat (wordAt buffer pos)) := by
  rw [readWORD, readAt_of_le h]
  rfl

/-- An element that fits is handled, and then those behind it. -/
theorem parseAttributes_fits (hfour : availableBytes % 4 = 0) (hinside : pos + availableBytes ≤ packet.length)
    (hne : availableBytes ≠ 0) (hfits : encodedLength (lengthAt packet pos) ≤ availableBytes) :
    parseAttributes ext allowedRFCs packet pos availableBytes w =
      (handleElement ext allowedRFCs packet w ⟨⟨tagAt packet pos, valueAt packet pos⟩, pos⟩ >>= fun w₁ =>
        parseAttributes ext allowedRFCs packet (pos + encodedLength (lengthAt packet pos))
          (availableBytes - encodedLength (lengthAt packet pos)) w₁) := by
  have hlength : (UInt16.ofNat (wordAt packet (pos + 2))).toNat = lengthAt packet pos := by
    rw [UInt16.toNat_ofNat']
    exact Nat.mod_eq_of_lt (wordAt_lt packet (pos + 2))
  have hle := le_dwordBoundary (lengthAt packet pos)
  unfold encodedLength at hfits
  have hread : readAt packet (pos + 4) (lengthAt packet pos) = .ok (valueAt packet pos) := readAt_of_le (by omega)
  rw [parseAttributes, dif_neg hne]
  simp only [throwIf_of_not (show ¬availableBytes % 4 ≠ 0 by omega),
    throwIf_of_not (show ¬availableBytes < 4 by omega), readWORD_of_le (show pos + 2 ≤ packet.length by omega),
    readWORD_of_le (show pos + 2 + 2 ≤ packet.length by omega), ok_bind, hlength,
    rejectIf_of_not (show ¬availableBytes - 4 < dwordBoundary (lengthAt packet pos) by omega), hread]
  unfold handleElement encodedLength
  rw [Nat.sub_add_eq, ← Nat.add_assoc]
  rfl

/-- The parser makes of the message what it makes of its attributes, one after the other. -/
theorem parseAttributes_eq_ok (hfour : availableBytes % 4 = 0) (hinside : pos + availableBytes ≤ packet.length) :
    parseAttributes ext allowedRFCs packet pos availableBytes w = .ok w' ↔
      ∃ l, walk packet pos availableBytes = some l ∧ l.foldlM (handleElement ext allowedRFCs packet) w = .ok w' := by
  induction availableBytes using Nat.strong_induction_on generalizing pos w with
  | _ availableBytes ih =>
    by_cases hne : availableBytes = 0
    · subst hne
      rw [parseAttributes_zero, walk_zero]
      constructor
      · intro h
        exact ⟨[], rfl, h⟩
      · rintro ⟨l, hl, h⟩
        cases hl
        exact h
    by_cases hfits : encodedLength (lengthAt packet pos) ≤ availableBytes
    · have hmod := encodedLength_mod (lengthAt packet pos)
      have hpos : 0 < encodedLength (lengthAt packet pos) := by
        unfold encodedLength
        omega
      have hrest := fun w₁ => @ih (availableBytes - encodedLength (lengthAt packet pos)) (by omega)
        (pos + encodedLength (lengthAt packet pos)) w₁ (by omega) (by omega)
      rw [parseAttributes_fits hfour hinside hne hfits, walk_step hne hfits]
      constructor
      · intro h
        obtain ⟨w₁, hhandle, h⟩ := bind_eq_ok h
        obtain ⟨l, hl, hfold⟩ := (hrest w₁).mp h
        refine ⟨_, by rw [hl]; rfl, ?_⟩
        rw [List.foldlM_cons, hhandle]
        exact hfold
      · rintro ⟨l, hl, h⟩
        obtain ⟨l, hwalk, rfl⟩ := Option.map_eq_some_iff.mp hl
        rw [List.foldlM_cons] at h
        obtain ⟨w₁, hhandle, hfold⟩ := bind_eq_ok h
        rw [hhandle]
        exact (hrest w₁).mpr ⟨l, hwalk, hfold⟩
    · constructor
      · intro h
        obtain ⟨w₁, hle, -⟩ := parseAttributes_step h hne
        exact absurd hle hfits
      · rintro ⟨l, hl, -⟩
        rw [walk, dif_neg hne, if_pos (by omega)] at hl
        cases hl

end Walk

section Processed

variable {ext : Externals} {allowedRFCs : UInt8} {packet : List UInt8}

/-- A known attribute with the element that carries it. -/
abbrev Carried := Attributes × Placed

/-- The attribute an element carries, when it is a known one. -/
def knownAttribute (allowedRFCs : UInt8) (e : Placed) : Option Carried :=
  match Attributes.ofCode e.tag with
  | some attr => if isAttributeKnown allowedRFCs attr then some (attr, e) else none
  | none => none

/-- Behind the integrity only the first fingerprint is processed. -/
def behindIntegrity (l : List Carried) : List Carried := (l.find? fun c => c.1 == .fingerPrint).toList

/-- The attributes that are processed: those up to the integrity, and the fingerprint last. -/
def toProcess : List Carried → List Carried
  | [] => []
  | c :: l =>
    if c.1 = .fingerPrint then [c]
    else if c.1 = .messageIntegrity then c :: behindIntegrity l
    else c :: toProcess l

/-- The attributes of a message that are processed. -/
def processed (allowedRFCs : UInt8) (l : List Placed) : List Carried := toProcess (l.filterMap (knownAttribute allowedRFCs))

/-- A known attribute is parsed, and noted when it was not understood. -/
def takeAttribute (ext : Externals) (packet : List UInt8) (w : ParseState) (c : Carried) : Parse ParseState := do
  let (w', handleAsUnknownAttribute) ← parseAttribute ext packet c.2.start c.1 c.2.value w
  return if handleAsUnknownAttribute then { w' with stun := w'.stun.noteUnknown c.2.tag } else w'

theorem handleElement_unknown {w : ParseState} {e : Placed} (h : knownAttribute allowedRFCs e = none) :
    handleElement ext allowedRFCs packet w e = .ok w := by
  have hnone : handledAttribute allowedRFCs w e.tag = none := by
    unfold knownAttribute at h
    unfold handledAttribute
    cases hcode : Attributes.ofCode e.tag with
    | none => rfl
    | some attr =>
      rw [hcode] at h
      dsimp only at h ⊢
      split at h
      · cases h
      next hknown => rw [if_pos (by simpa using hknown)]
  unfold handleElement handleAttribute
  rw [hnone]
  rfl

/-- What becomes of a known attribute depends on what was found before it. -/
theorem handleElement_known (ext : Externals) (packet : List UInt8) (w : ParseState) {e : Placed} {c : Carried}
    (h : knownAttribute allowedRFCs e = some c) :
    c.2 = e ∧ Attributes.ofCode e.tag = some c.1 ∧ handleElement ext allowedRFCs packet w e =
      if w.foundFingerprint ∨ (w.foundIntegrity ∧ c.1 ≠ .fingerPrint) then .ok w else takeAttribute ext packet w c := by
  unfold knownAttribute at h
  cases hcode : Attributes.ofCode e.tag with
  | none =>
    rw [hcode] at h
    cases h
  | some attr =>
    rw [hcode] at h
    dsimp only at h
    split at h
    next hknown =>
      obtain rfl := Option.some.inj h
      refine ⟨rfl, rfl, ?_⟩
      unfold handleElement handleAttribute handledAttribute
      rw [hcode]
      simp only [hknown, Bool.not_true, Bool.false_eq_true, if_false]
      by_cases hintegrity : w.foundIntegrity ∧ attr ≠ .fingerPrint
      · rw [if_pos hintegrity, if_pos (.inr hintegrity)]
        rfl
      · by_cases hfingerprint : w.foundFingerprint
        · rw [if_neg hintegrity, if_pos hfingerprint, if_pos (.inl hfingerprint)]
          rfl
        · rw [if_neg hintegrity, if_neg hfingerprint, if_neg (not_or_intro hfingerprint hintegrity)]
          rfl
    next => cases h

/-- The two forms of the mapped address are kept in one field. -/
def Attributes.isMapped (a : Attributes) : Bool := a == .mappedAddress || a == .xorMappedAddress

/-- What parsing an attribute changes: what was found, and whether there is this attribute. -/
structure Effect (ext : Externals) (attr : Attributes) (w w' : ParseState) : Prop where
  integrity : w'.foundIntegrity = (w.foundIntegrity || attr == .messageIntegrity)
  fingerprint : w'.foundFingerprint = (w.foundFingerprint || attr == .fingerPrint)
  cookie : w'.stun.mMagicCookie = w.stun.mMagicCookie
  tClass : w'.stun.mClass = w.stun.mClass
  method : w'.stun.mMethod = w.stun.mMethod
  address : attr.isMapped = false → w'.stun.mMappedAddress = w.stun.mMappedAddress
  unknown : attr ≠ .unknownAttribute → w'.stun.mUnknownAttributes = w.stun.mUnknownAttributes
  others : ∀ b, b ≠ attr → (b.isMapped && attr.isMapped) = false →
    w'.stun.hasAttribute ext b = w.stun.hasAttribute ext b

/-- An attribute changes the fields that it is kept in. -/
theorem parseAttribute_effect (ext : Externals) (packet : List UInt8) (attributeStart : Nat) (attr : Attributes)
    (value : List UInt8) (w : ParseState) :
    Ensures (parseAttribute ext packet attributeStart attr value w) fun r => Effect ext attr w r.1 := by
  cases attr with
  | messageIntegrity =>
    refine .bind fun _ => .bind fun _ => .ok ⟨by simp, by simp, rfl, rfl, rfl, fun _ => rfl, fun _ => rfl, fun b hb _ => ?_⟩
    cases b <;> first | rfl | exact absurd rfl hb
  | fingerPrint =>
    refine .bind fun _ => .bind fun _ => .bind fun _ => .bind fun _ =>
      .ok ⟨by simp, by simp, rfl, rfl, rfl, fun _ => rfl, fun _ => rfl, fun b hb _ => ?_⟩
    cases b <;> first | rfl | exact absurd rfl hb
  | errorCode =>
    refine .bind fun _ => .bind fun _ => ?_
    dsimp only
    split
    · exact .ok ⟨by simp, by simp, rfl, rfl, rfl, fun _ => rfl, fun _ => rfl, fun _ _ _ => rfl⟩
    · refine .bind fun _ => .ok ⟨by simp, by simp, rfl, rfl, rfl, fun _ => rfl, fun _ => rfl, fun b hb _ => ?_⟩
      cases b <;> first | rfl | exact absurd rfl hb
  | congestionControl =>
    refine .bind fun _ => .bind fun _ => .bind fun _ => .bind fun _ => .ok ?_
    dsimp only
    split
    all_goals
      refine ⟨by simp, by simp, rfl, rfl, rfl, fun _ => rfl, fun _ => rfl, fun b hb _ => ?_⟩
      cases b <;> first | rfl | exact absurd rfl hb
  | mappedAddress | xorMappedAddress =>
    refine .bind fun _ => .ok ⟨by simp, by simp, rfl, rfl, rfl, fun h => (nomatch h), fun _ => rfl, fun b hb hmapped => ?_⟩
    cases b <;> first | rfl | exact absurd rfl hb | cases hmapped
  | alternateServer | xorPeerAddress | xorRelayedAddress | username | realm | nonce | software | connectionInfo
  | ackVector =>
    refine .bind fun _ => .ok ⟨by simp, by simp, rfl, rfl, rfl, fun _ => rfl, fun _ => rfl, fun b hb _ => ?_⟩
    cases b <;> first | rfl | exact absurd rfl hb
  | unknownAttribute =>
    refine .bind fun _ => .bind fun _ =>
      .ok ⟨by simp, by simp, rfl, rfl, rfl, fun _ => rfl, fun h => absurd rfl h, fun b hb _ => ?_⟩
    cases b <;> first | rfl | exact absurd rfl hb
  | channelNumber | lifetime | priority | minimumRTT | evenPort | requestedTransport | rudpFlags
  | reservationToken | iceControlled | iceControlling | nextSequenceNumber | gsnr | gsnfr =>
    refine .bind fun _ => .bind fun _ => .ok ⟨by simp, by simp, rfl, rfl, rfl, fun _ => rfl, fun _ => rfl, fun b hb _ => ?_⟩
    cases b <;> first | rfl | exact absurd rfl hb
  | data | dontFragment | useCandidate | reservedResponseAddress | reservedChangeAddress | reservedSourceAddress
  | reservedChangedAddress | reservedPassword | reservedReflectedFrom =>
    refine .ok ⟨by simp, by simp, rfl, rfl, rfl, fun _ => rfl, fun _ => rfl, fun b hb _ => ?_⟩
    cases b <;> first | rfl | exact absurd rfl hb

theorem takeAttribute_eq_ok {w w' : ParseState} {c : Carried} (h : takeAttribute ext packet w c = .ok w') :
    ∃ r, parseAttribute ext packet c.2.start c.1 c.2.value w = .ok r ∧
      w' = if r.2 then { r.1 with stun := r.1.stun.noteUnknown c.2.tag } else r.1 := by
  obtain ⟨r, hr, h⟩ := bind_eq_ok h
  exact ⟨r, hr, (Except.ok.inj h).symm⟩

theorem takeAttribute_found {w w' : ParseState} {c : Carried} (h : takeAttribute ext packet w c = .ok w') :
    w'.foundIntegrity = (w.foundIntegrity || c.1 == .messageIntegrity) ∧
      w'.foundFingerprint = (w.foundFingerprint || c.1 == .fingerPrint) := by
  obtain ⟨r, hr, rfl⟩ := takeAttribute_eq_ok h
  have heffect := parseAttribute_effect ext packet c.2.start c.1 c.2.value w r hr
  split <;> exact ⟨heffect.integrity, heffect.fingerprint⟩

/-- What is still processed of the known attributes to come. -/
def ParseState.remaining (w : ParseState) (l : List Carried) : List Carried :=
  if w.foundFingerprint then [] else if w.foundIntegrity then behindIntegrity l else toProcess l

theorem remaining_nil (w : ParseState) : w.remaining [] = [] := by
  unfold ParseState.remaining
  split
  · rfl
  · split <;> rfl

/-- An attribute that comes is the first that is processed, or it is passed over. -/
theorem remaining_cons (w : ParseState) (c : Carried) (l : List Carried) :
    (w.foundFingerprint ∨ (w.foundIntegrity ∧ c.1 ≠ .fingerPrint)) ∧ w.remaining (c :: l) = w.remaining l ∨
      ¬(w.foundFingerprint ∨ (w.foundIntegrity ∧ c.1 ≠ .fingerPrint)) ∧
        ∀ w' : ParseState, w'.foundIntegrity = (w.foundIntegrity || c.1 == .messageIntegrity) →
          w'.foundFingerprint = (w.foundFingerprint || c.1 == .fingerPrint) →
          w.remaining (c :: l) = c :: w'.remaining l := by
  by_cases hfp : w.foundFingerprint = true
  · refine .inl ⟨.inl hfp, ?_⟩
    unfold ParseState.remaining
    rw [if_pos hfp, if_pos hfp]
  by_cases hc : c.1 = .fingerPrint
  · refine .inr ⟨by simp [hfp, hc], fun w' _ hw' => ?_⟩
    have hfound : w'.foundFingerprint = true := by rw [hw', hc, beq_self_eq_true, Bool.or_true]
    unfold ParseState.remaining
    rw [if_neg hfp, if_pos hfound]
    split
    · unfold behindIntegrity
      rw [List.find?_cons_of_pos (by rw [hc]; rfl)]
      rfl
    · rw [toProcess, if_pos hc]
  have hkeeps : ∀ w' : ParseState, w'.foundFingerprint = (w.foundFingerprint || c.1 == .fingerPrint) →
      ¬w'.foundFingerprint = true := by
    intro w' hw'
    rw [hw', beq_false_of_ne hc, Bool.or_false]
    exact hfp
  by_cases hmi : w.foundIntegrity = true
  · refine .inl ⟨.inr ⟨hmi, hc⟩, ?_⟩
    unfold ParseState.remaining behindIntegrity
    rw [if_neg hfp, if_pos hmi, if_neg hfp, if_pos hmi, List.find?_cons_of_neg (by simpa using hc)]
  refine .inr ⟨by simp [hfp, hmi], fun w' hw hw' => ?_⟩
  unfold ParseState.remaining
  rw [if_neg hfp, if_neg hmi, if_neg (hkeeps w' hw'), toProcess, if_neg hc]
  by_cases hcmi : c.1 = .messageIntegrity
  · rw [if_pos hcmi, if_pos (by rw [hw, hcmi, beq_self_eq_true, Bool.or_true])]
  · rw [if_neg hcmi, if_neg (by rw [hw, beq_false_of_ne hcmi, Bool.or_false]; exact hmi)]

/-- The walk takes the attributes that are processed, in their order. -/
theorem foldlM_handleElement (l : List Placed) (w : ParseState) :
    l.foldlM (handleElement ext allowedRFCs packet) w =
      (w.remaining (l.filterMap (knownAttribute allowedRFCs))).foldlM (takeAttribute ext packet) w := by
  induction l generalizing w with
  | nil => rw [List.filterMap_nil, remaining_nil, List.foldlM_nil, List.foldlM_nil]
  | cons e l ih =>
    rw [List.foldlM_cons]
    cases hknown : knownAttribute allowedRFCs e with
    | none =>
      rw [handleElement_unknown hknown, List.filterMap_cons_none hknown]
      exact ih w
    | some c =>
      obtain ⟨-, -, hhandle⟩ := handleElement_known ext packet w hknown
      rw [hhandle, List.filterMap_cons_some hknown]
      obtain ⟨hpassed, hremaining⟩ | ⟨htaken, hremaining⟩ :=
        remaining_cons w c (l.filterMap (knownAttribute allowedRFCs))
      · rw [if_pos hpassed, hremaining]
        exact ih w
      · rw [if_neg htaken]
        cases htake : takeAttribute ext packet w c with
        | error stop =>
          rw [hremaining { w with
              foundIntegrity := w.foundIntegrity || c.1 == .messageIntegrity
              foundFingerprint := w.foundFingerprint || c.1 == .fingerPrint } rfl rfl, List.foldlM_cons, htake]
          rfl
        | ok w₁ =>
          obtain ⟨hintegrity, hfingerprint⟩ := takeAttribute_found htake
          rw [hremaining w₁ hintegrity hfingerprint, List.foldlM_cons, htake]
          exact ih w₁

/-- The packet before its attributes are parsed. -/
def emptyPacket (magicCookie : UInt32) (tClass : Classes) (method : Methods) (transactionID : Vector UInt8 12) : STUNPacket :=
  { mMagicCookie := magicCookie, mClass := tClass, mMethod := method, mTransactionID := transactionID }

/-- An accepted packet is what the attributes that are processed make of an empty one, and the checks
of that. -/
theorem parseIfSTUN_processed {allowRFC3489 : Bool} {stun : STUNPacket}
    (h : parseIfSTUN ext packet allowedRFCs allowRFC3489 = .ok stun) :
    ∃ magicCookie transactionID tClass method l w,
      readDWORD packet 4 = .ok magicCookie ∧ readArray packet 8 12 = .ok transactionID ∧
      isLegalMethod method tClass allowedRFCs = true ∧ attributesOf packet = some l ∧
      (processed allowedRFCs l).foldlM (takeAttribute ext packet)
        { stun := emptyPacket magicCookie tClass method transactionID } = .ok w ∧
      stun = w.stun.checkAttributes ext allowedRFCs := by
  have hwords := (acceptedHeader h).words
  obtain ⟨magicCookie, transactionID, tClass, method, w, hcookie, hid, -, -, hlegal, hinside, hparse, hstun⟩ :=
    parseIfSTUN_eq_ok h
  obtain ⟨l, hl, hfold⟩ := (parseAttributes_eq_ok hwords (by omega)).mp hparse
  refine ⟨magicCookie, transactionID, tClass, method, l, w, hcookie, hid, hlegal, hl, ?_, hstun⟩
  rw [foldlM_handleElement] at hfold
  exact hfold

end Processed

end OpenPeer
