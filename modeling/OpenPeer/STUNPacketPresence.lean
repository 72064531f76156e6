import OpenPeer.STUNPacketWalk

/-!
# Which attributes a parsed packet has

The presence of an attribute is a flag or a length of the packet, set when the attribute is
parsed. Two of them go wrong: a packet has a fingerprint from the start, and the flag of the
reservation token is never set.
-/
namespace OpenPeer

open Bytes Tlv

/-- The attributes whose presence is a flag or a length. -/
def trackedAttributes : List Attributes :=
  [.fingerPrint, .messageIntegrity, .reservationToken, .lifetime, .evenPort, .dontFragment, .priority, .useCandidate,
    .iceControlled, .iceControlling, .minimumRTT, .rudpFlags, .ackVector]

/-- The least length of the value of such an attribute. -/
def Attributes.minimumLength : Attributes → Nat
  | .messageIntegrity => 20
  | .reservationToken | .iceControlled | .iceControlling => 8
  | .fingerPrint | .lifetime | .priority | .minimumRTT => 4
  | .evenPort | .rudpFlags | .ackVector => 1
  | _ => 0

/-- The value is long enough, and that of a fingerprint is the one of what is before it. -/
def WellFormed (ext : Externals) (packet : List UInt8) (c : Carried) : Prop :=
  c.1.minimumLength ≤ c.2.value.length ∧
    (c.1 = .fingerPrint →
      UInt32.ofNat (ofBE (slice c.2.value 0 4)) = ext.crc32 (packet.take c.2.start) ^^^ 0x5354554e)

/-- The message has a well-formed attribute of this kind among those that are processed. -/
def CarriesAttribute (ext : Externals) (allowedRFCs : UInt8) (packet : List UInt8) (attr : Attributes) : Prop :=
  ∃ l e, attributesOf packet = some l ∧ (attr, e) ∈ processed allowedRFCs l ∧ WellFormed ext packet (attr, e)

section Processed

variable {ext : Externals} {allowedRFCs : UInt8} {packet : List UInt8}

variable {c : Carried} {l : List Carried}

theorem mem_behindIntegrity (h : c ∈ behindIntegrity l) : c ∈ l :=
  List.mem_of_find?_eq_some (Option.mem_toList.mp h)

theorem mem_toProcess (h : c ∈ toProcess l) : c ∈ l := by
  induction l with
  | nil => cases h
  | cons d l ih =>
    rw [toProcess] at h
    split at h
    · rw [List.mem_singleton.mp h]
      exact List.mem_cons_self
    split at h
    · rcases List.mem_cons.mp h with rfl | h
      · exact List.mem_cons_self
      · exact List.mem_cons_of_mem d (mem_behindIntegrity h)
    · rcases List.mem_cons.mp h with rfl | h
      · exact List.mem_cons_self
      · exact List.mem_cons_of_mem d (ih h)

theorem mem_processed {l : List Placed} (h : c ∈ processed allowedRFCs l) :
    c.2 ∈ l ∧ Attributes.ofCode c.2.tag = some c.1 ∧ isAttributeKnown allowedRFCs c.1 = true := by
  obtain ⟨e, he, hknown⟩ := List.mem_filterMap.mp (mem_toProcess h)
  unfold knownAttribute at hknown
  split at hknown
  next attr hcode =>
    split at hknown
    next hattr =>
      cases hknown
      exact ⟨he, hcode, hattr⟩
    next => cases hknown
  next => cases hknown

theorem twenty_le_start {l : List Placed} (hl : attributesOf packet = some l)
    (h : c ∈ processed allowedRFCs l) : 20 ≤ c.2.start :=
  (mem_walk hl (mem_processed h).1).1

end Processed

section Flags

variable {ext : Externals} {packet : List UInt8}

variable {α : Type}

theorem Ensures.rejectIf_bind {c : Prop} [Decidable c] {k : Unit → Parse α} {P : α → Prop}
    (hk : ¬c → Ensures (k ()) P) : Ensures (rejectIf c >>= k) P := by
  intro a h
  obtain ⟨_, hc, h⟩ := bind_eq_ok h
  exact hk (rejectIf_eq_ok hc) a h

variable {buffer : List UInt8} {pos : Nat}

theorem Ensures.readAt_bind {n : Nat} {k : List UInt8 → Parse α} {P : α → Prop}
    (hk : Ensures (k (slice buffer pos n)) P) : Ensures (readAt buffer pos n >>= k) P := by
  intro a h
  obtain ⟨value, hvalue, h⟩ := bind_eq_ok h
  obtain ⟨-, rfl⟩ := readAt_eq_ok hvalue
  exact hk a h

theorem Ensures.readDWORD_bind {k : UInt32 → Parse α} {P : α → Prop}
    (hk : Ensures (k (UInt32.ofNat (ofBE (slice buffer pos 4)))) P) : Ensures (readDWORD buffer pos >>= k) P := by
  intro a h
  obtain ⟨value, hvalue, h⟩ := bind_eq_ok h
  obtain ⟨bytes, hbytes, hvalue⟩ := bind_eq_ok hvalue
  obtain ⟨-, rfl⟩ := readAt_eq_ok hbytes
  rw [← Except.ok.inj hvalue] at h
  exact hk a h

variable {c : Carried}

/-- A tracked attribute that is parsed is well-formed, and but for the reservation token there is one then. -/
theorem parseAttribute_tracked (htracked : c.1 ∈ trackedAttributes) (hstart : 20 ≤ c.2.start)
    (w : ParseState) :
    Ensures (parseAttribute ext packet c.2.start c.1 c.2.value w) fun r => WellFormed ext packet c ∧
      r.1.stun.hasAttribute ext c.1 = (w.stun.hasAttribute ext c.1 || c.1 != .reservationToken) := by
  obtain ⟨attr, ⟨⟨tag, value⟩, start⟩⟩ := c
  dsimp only at htracked hstart ⊢
  have hset : ∀ stun : STUNPacket, stun.hasAttribute ext attr = true → attr ≠ .reservationToken →
      stun.hasAttribute ext attr = (w.stun.hasAttribute ext attr || attr != .reservationToken) := by
    intro stun hhas hne
    rw [hhas, bne_iff_ne.mpr hne, Bool.or_true]
  cases attr with
  | fingerPrint =>
    refine .rejectIf_bind fun hlength => .readAt_bind (.readDWORD_bind (.rejectIf_bind fun hmatch => .ok ⟨?_, ?_⟩))
    · exact ⟨Nat.not_lt.mp hlength, fun _ => (Classical.not_not.mp hmatch).symm⟩
    · exact hset _ rfl (by decide)
  | messageIntegrity =>
    refine .rejectIf_bind fun hlength => .bind fun integrity => .ok ⟨⟨Nat.not_lt.mp hlength, fun h => nomatch h⟩, ?_⟩
    have hne : start ≠ 0 := by omega
    exact hset _ (by simp [STUNPacket.hasAttribute, hne]) (by decide)
  | ackVector =>
    refine .rejectIf_bind fun hlength => .ok ⟨⟨Nat.not_lt.mp hlength, fun h => nomatch h⟩, hset _ ?_ (by decide)⟩
    cases value with
    | nil => exact absurd Nat.zero_lt_one hlength
    | cons b bs => rfl
  | dontFragment | useCandidate => exact .ok ⟨⟨Nat.zero_le _, fun h => nomatch h⟩, hset _ rfl (by decide)⟩
  | reservationToken =>
    exact .rejectIf_bind fun hlength => .bind fun _ =>
      .ok ⟨⟨Nat.not_lt.mp hlength, fun h => nomatch h⟩, (Bool.or_false _).symm⟩
  | lifetime | evenPort | priority | iceControlled | iceControlling | minimumRTT | rudpFlags =>
    exact .rejectIf_bind fun hlength => .bind fun _ =>
      .ok ⟨⟨Nat.not_lt.mp hlength, fun h => nomatch h⟩, hset _ rfl (by decide)⟩
  | _ => exact absurd htracked (by decide)

variable {attr : Attributes}

theorem hasAttribute_noted (stun : STUNPacket) (errorCode : UInt16) (unknown : List UInt16)
    (herror : attr ≠ .errorCode) (hunknown : attr ≠ .unknownAttribute) :
    ({ stun with mErrorCode := errorCode, mUnknownAttributes := unknown } : STUNPacket).hasAttribute ext attr =
      stun.hasAttribute ext attr := by
  cases attr <;> first | rfl | exact absurd rfl herror | exact absurd rfl hunknown

theorem tracked_not_mapped (h : attr ∈ trackedAttributes) :
    attr.isMapped = false ∧ attr ≠ .errorCode ∧ attr ≠ .unknownAttribute := by
  revert attr
  decide

variable {w w' : ParseState}

theorem takeAttribute_tracked (h : takeAttribute ext packet w c = .ok w') (hstart : 20 ≤ c.2.start)
    (htracked : attr ∈ trackedAttributes) :
    w'.stun.hasAttribute ext attr = (w.stun.hasAttribute ext attr || (c.1 == attr && attr != .reservationToken)) := by
  obtain ⟨hmapped, herror, hunknown⟩ := tracked_not_mapped htracked
  obtain ⟨r, hr, hw'⟩ := takeAttribute_eq_ok h
  have hparsed : r.1.stun.hasAttribute ext attr =
      (w.stun.hasAttribute ext attr || (c.1 == attr && attr != .reservationToken)) := by
    by_cases hattr : c.1 = attr
    · rw [← hattr] at htracked ⊢
      rw [(parseAttribute_tracked htracked hstart w r hr).2, beq_self_eq_true, Bool.true_and]
    · rw [beq_false_of_ne hattr, Bool.false_and, Bool.or_false]
      exact (parseAttribute_effect ext packet _ _ _ w r hr).others attr (Ne.symm hattr) (by rw [hmapped]; rfl)
  rw [← hparsed, hw']
  split
  · exact hasAttribute_noted _ _ _ herror hunknown
  · rfl

/-- The walk: there is a tracked attribute when it was taken, and then it is well-formed. -/
theorem foldlM_tracked {l : List Carried} (h : l.foldlM (takeAttribute ext packet) w = .ok w')
    (hstart : ∀ c ∈ l, 20 ≤ c.2.start) (htracked : attr ∈ trackedAttributes) :
    (w'.stun.hasAttribute ext attr = true ↔
      w.stun.hasAttribute ext attr = true ∨ attr ≠ .reservationToken ∧ ∃ e, (attr, e) ∈ l) ∧
    ∀ e, (attr, e) ∈ l → WellFormed ext packet (attr, e) := by
  induction l generalizing w with
  | nil =>
    cases h
    refine ⟨⟨.inl, fun h => ?_⟩, fun _ he => nomatch he⟩
    obtain h | ⟨-, e, he⟩ := h
    · exact h
    · cases he
  | cons c l ih =>
    rw [List.foldlM_cons] at h
    obtain ⟨w₁, htake, hfold⟩ := bind_eq_ok h
    have hstep := takeAttribute_tracked htake (hstart c List.mem_cons_self) htracked
    obtain ⟨hflag, hwell⟩ := ih hfold fun d hd => hstart d (List.mem_cons_of_mem c hd)
    constructor
    · rw [hflag, hstep, Bool.or_eq_true, Bool.and_eq_true, beq_iff_eq, bne_iff_ne]
      constructor
      · rintro ((hhas | ⟨rfl, hne⟩) | ⟨hne, e, he⟩)
        · exact .inl hhas
        · exact .inr ⟨hne, c.2, List.mem_cons_self⟩
        · exact .inr ⟨hne, e, List.mem_cons_of_mem c he⟩
      · rintro (hhas | ⟨hne, e, he⟩)
        · exact .inl (.inl hhas)
        · rcases List.mem_cons.mp he with rfl | he
          · exact .inl (.inr ⟨rfl, hne⟩)
          · exact .inr ⟨hne, e, he⟩
    · intro e he
      rcases List.mem_cons.mp he with rfl | he
      · obtain ⟨r, hr, -⟩ := takeAttribute_eq_ok htake
        exact (parseAttribute_tracked htracked (hstart _ List.mem_cons_self) w r hr).1
      · exact hwell e he

end Flags

section Checks

variable (ext : Externals)

theorem checkAttributes_eq (stun : STUNPacket) (allowedRFCs : UInt8) :
    ∃ errorCode unknown, stun.checkAttributes ext allowedRFCs =
      { stun with mErrorCode := errorCode, mUnknownAttributes := unknown } := by
  unfold STUNPacket.checkAttributes
  generalize stun.guessRFC ext allowedRFCs = rfc
  induction gAttributeOrdering generalizing stun with
  | nil => exact ⟨stun.mErrorCode, stun.mUnknownAttributes, rfl⟩
  | cons attr attrs ih =>
    have hstep : ∃ errorCode unknown, stun.checkAttribute ext rfc attr =
        { stun with mErrorCode := errorCode, mUnknownAttributes := unknown } := by
      unfold STUNPacket.checkAttribute
      split
      · split
        · exact ⟨_, _, rfl⟩
        · exact ⟨_, _, rfl⟩
      · split
        · split
          · exact ⟨_, _, rfl⟩
          · exact ⟨_, _, rfl⟩
          · split <;> exact ⟨_, _, rfl⟩
          · split <;> exact ⟨_, _, rfl⟩
        · exact ⟨_, _, rfl⟩
    obtain ⟨errorCode, unknown, hstep⟩ := hstep
    obtain ⟨errorCode', unknown', hrest⟩ := ih (stun.checkAttribute ext rfc attr)
    refine ⟨errorCode', unknown', ?_⟩
    rw [List.foldl_cons, hrest, hstep]

/-- The flag of a tracked attribute tells whether the message has a well-formed one to process, just
when a fingerprint that is asked for is there and a reservation token is not. -/
theorem presence_after_parsing (allowedRFCs : UInt8) (allowRFC3489 : Bool) (packet : List UInt8) (stun : STUNPacket)
    (h : parseIfSTUN ext packet allowedRFCs allowRFC3489 = .ok stun) (attr : Attributes)
    (htracked : attr ∈ trackedAttributes) :
    (stun.hasAttribute ext attr = true ↔ CarriesAttribute ext allowedRFCs packet attr) ↔
      (attr = .fingerPrint → CarriesAttribute ext allowedRFCs packet .fingerPrint) ∧
        (attr = .reservationToken → ¬CarriesAttribute ext allowedRFCs packet .reservationToken) := by
  obtain ⟨magicCookie, transactionID, tClass, method, l, w, -, -, -, hl, hfold, hstun⟩ := parseIfSTUN_processed h
  obtain ⟨-, herror, hunknown⟩ := tracked_not_mapped htracked
  obtain ⟨errorCode, unknown, hchecked⟩ := checkAttributes_eq ext w.stun allowedRFCs
  obtain ⟨hflag, hwell⟩ := foldlM_tracked hfold (fun c hc => twenty_le_start hl hc) htracked
  have hcarries : CarriesAttribute ext allowedRFCs packet attr ↔ ∃ e, (attr, e) ∈ processed allowedRFCs l := by
    constructor
    · rintro ⟨l', e, hl', he, -⟩
      rw [hl] at hl'
      cases hl'
      exact ⟨e, he⟩
    · rintro ⟨e, he⟩
      exact ⟨l, e, hl, he, hwell e he⟩
  have hempty : (emptyPacket magicCookie tClass method transactionID).hasAttribute ext attr = true ↔
      attr = .fingerPrint := by
    revert attr
    simp [trackedAttributes, STUNPacket.hasAttribute, emptyPacket]
  rw [hstun, hchecked, hasAttribute_noted _ _ _ herror hunknown, hflag, hempty, ← hcarries]
  by_cases hfingerprint : attr = .fingerPrint
  · subst hfingerprint
    simp
  by_cases htoken : attr = .reservationToken
  · subst htoken
    simp
  · simp [hfingerprint, htoken]

end Checks

theorem presence_after_parsing_signed : ∃ stun,
    parseIfSTUN plainExternals (signedRequest []) allowAll false = .ok stun ∧
      (stun.hasAttribute plainExternals .messageIntegrity = true ↔
        CarriesAttribute plainExternals allowAll (signedRequest []) .messageIntegrity) := by
  obtain ⟨stun, hstun⟩ : ∃ stun, parseIfSTUN plainExternals (signedRequest []) allowAll false = .ok stun :=
    (safe_parseIfSTUN _ _ _ _).cases.resolve_right (by decide +kernel)
  exact ⟨stun, hstun, (presence_after_parsing plainExternals allowAll false _ stun hstun .messageIntegrity
    (by decide)).mpr ⟨fun h => (nomatch h), fun h => (nomatch h)⟩⟩

/-- A request without attributes. -/
def bareRequest : List UInt8 := [0x00, 0x01, 0x00, 0x00, 0x21, 0x12, 0xA4, 0x42] ++ zeros 12

/-- Of a request without attributes it is said that it has a fingerprint. -/
theorem fingerprint_out_of_nothing : ∃ stun, parseIfSTUN plainExternals bareRequest allowAll false = .ok stun ∧
    ¬(stun.hasAttribute plainExternals .fingerPrint = true ↔
      CarriesAttribute plainExternals allowAll bareRequest .fingerPrint) := by
  obtain ⟨stun, hstun⟩ : ∃ stun, parseIfSTUN plainExternals bareRequest allowAll false = .ok stun :=
    (safe_parseIfSTUN _ _ _ _).cases.resolve_right (by decide +kernel)
  have hhas : (parseIfSTUN plainExternals bareRequest allowAll false).map
      (fun stun => stun.hasAttribute plainExternals .fingerPrint) = .ok true := by decide +kernel
  rw [hstun] at hhas
  refine ⟨stun, hstun, fun h => ?_⟩
  obtain ⟨l, e, hl, he, -⟩ := h.mp (Except.ok.inj hhas)
  have hnone : attributesOf bareRequest = some [] := walk_zero bareRequest 20
  rw [hnone] at hl
  cases hl
  cases he

end OpenPeer
