import OpenPeer.MessageLayerSecuritySession

/-!
# The checks of a keying bundle

What passes each of the checks and what each of them notes, and from that all that the
processing of a bundle may do, said once. A bundle with an encoding of a third type
passes where the other two are checked.
-/
namespace OpenPeer

open Bytes Xml Runs

section Checks

variable {Pri Pub : Type} (lib : Libraries Pri Pub)

/-- The bundle is signed by the key known to sign it, it is the next one and it has not expired. -/
structure Signed (tick : Time) (k : ReceiveKeying Pri Pub) (keyingEl : Cursor) : Prop where
  signature : ∃ key, k.mReceiveSigningPublicKey = some key ∧ verifySignature lib key keyingEl = some true
  sequence : text keyingEl.element "sequence" = toString k.mNextReceiveSequenceNumber
  current : tick.after (stringToTime (text keyingEl.element "expires")) = false

/-- The encoding is for the public key whose private key is known. -/
structure MadeForKey (k : ReceiveKeying Pri Pub) (encodingEl : Element) : Prop where
  type : checkedText encodingEl "type" = some "pki"
  privateKey : k.mReceiveDecodingPrivateKey.isSome = true
  fingerprint : ∃ key, k.mReceiveDecodingPublicKey = some key ∧ checkedText encodingEl "fingerprint" = some (lib.getFingerprint key)

/-- The encoding proves the passphrase that is known. -/
structure ProvesPassphrase (k : ReceiveKeying Pri Pub) (nonce : String) (encodingEl : Element) : Prop where
  type : checkedText encodingEl "type" = some "passphrase"
  passphrase : k.mReceivingDecodingPassphrase ≠ ""
  algorithm : checkedText encodingEl "algorithm" = some defaultCryptoAlgorithm
  proof : checkedText encodingEl "proof" = some (calculatedProof lib k.mReceivingDecodingPassphrase nonce)

/-- An encoding of a type without a branch of its own. -/
def OtherEncoding (encodingEl : Element) : Prop :=
  ∃ type, checkedText encodingEl "type" = some type ∧ type ≠ "pki" ∧ type ≠ "passphrase"

/-- The encoding is for the private key or proves the passphrase. -/
def EncodingMatches (k : ReceiveKeying Pri Pub) (nonce : String) (encodingEl : Element) : Prop :=
  MadeForKey lib k encodingEl ∨ ProvesPassphrase lib k nonce encodingEl

/-- The bundle passes the checks up to that of the algorithms, its encoding by what is asked of it. -/
def Passes (encoded : String → Element → Prop) (tick : Time) (k : ReceiveKeying Pri Pub) (keyingEl : Cursor) (nonce : String) :
    Prop :=
  Signed lib tick k keyingEl ∧ checkedText keyingEl.element "nonce" = some nonce ∧
    ∃ encodingEl, keyingEl.element.findFirstChildElement "encoding" = some encodingEl ∧ encoded nonce encodingEl

/-- The bundle is an authenticated one. -/
def Authentic (tick : Time) (k : ReceiveKeying Pri Pub) (doc : Document) : Prop :=
  ∃ keyingEl nonce, cursorOfKeying doc = some keyingEl ∧ Passes lib (EncodingMatches lib k) tick k keyingEl nonce

/-- The type of the encoding of a bundle. -/
def encodingType (doc : Document) : Option String :=
  (cursorOfKeying doc).bind fun keyingEl =>
    (keyingEl.element.findFirstChildElement "encoding").bind fun encodingEl => checkedText encodingEl "type"

/-- The encoding of a bundle, if it has a type, is of one of the two that are checked. -/
def KnownEncoding (doc : Document) : Prop := encodingType doc ∈ [none, some "pki", some "passphrase"]

instance : DecidablePred KnownEncoding := fun doc => inferInstanceAs (Decidable (encodingType doc ∈ _))

theorem knownEncoding_iff {doc : Document} {keyingEl : Cursor} {encodingEl : Element} (hkeying : cursorOfKeying doc = some keyingEl)
    (hencoding : keyingEl.element.findFirstChildElement "encoding" = some encodingEl) :
    KnownEncoding doc ↔ ¬OtherEncoding encodingEl := by
  have htype : encodingType doc = checkedText encodingEl "type" := by simp [encodingType, hkeying, hencoding]
  unfold KnownEncoding OtherEncoding
  rw [htype]
  cases checkedText encodingEl "type" with
  | none => simp
  | some type =>
    by_cases hpki : type = "pki"
    · simp [hpki]
    · simp [hpki]

/-- The decoding type is the one of the encoding, where that has one. -/
structure Decodes (encodingEl : Element) (type : DecodingTypes) : Prop where
  privateKey : checkedText encodingEl "type" = some "pki" → type = .privateKey
  passphrase : checkedText encodingEl "type" = some "passphrase" → type = .passphrase

theorem Authentic.known {lib : Libraries Pri Pub} {tick : Time} {k : ReceiveKeying Pri Pub} {doc : Document}
    (h : Authentic lib tick k doc) : KnownEncoding doc := by
  obtain ⟨keyingEl, nonce, hkeying, -, -, encodingEl, hencoding, hmatch⟩ := h
  rw [knownEncoding_iff hkeying hencoding]
  rintro ⟨other, hother, hpki, hpassphrase⟩
  rcases hmatch with hm | hm
  · exact hpki (Option.some.inj (hother.symm.trans hm.type))
  · exact hpassphrase (Option.some.inj (hother.symm.trans hm.type))

/-- The channel was shut down with an error. -/
def ReportsError (k : ReceiveKeying Pri Pub) : Prop := k.mCurrentState = .shutdown ∧ k.mLastError ≠ 0

/-- The channel put the bundle aside and waits for information. -/
def WaitsWith (doc : Document) (k : ReceiveKeying Pri Pub) : Prop :=
  k.mCurrentState = .waitingForNeededInformation ∧ k.mReceiveKeyingSignedDoc = some doc

/-- A processing stores keys and the bundle is an authenticated one, or it stores none and the channel
reports an error or waits. -/
def KeyingAttempt.Sound (a : KeyingAttempt Pri Pub) : Prop :=
  (a.after.mReceiveKeys ≠ [] ∧ Authentic lib a.tick a.before a.doc) ∨
    (a.after.mReceiveKeys = [] ∧ (ReportsError a.after ∨ WaitsWith a.doc a.after))

/-- What can end the checks: an error has a code, and the exception is for a private key that is
known without its public one. -/
def Halt.Possible (k : ReceiveKeying Pri Pub) : Halt → Prop
  | .refused errorCode _ => errorCode ≠ 0
  | .badState => k.mReceiveDecodingPrivateKey.isSome = true ∧ k.mReceiveDecodingPublicKey = none
  | _ => True

end Checks

namespace ReceiveKeying

variable {Pri Pub : Type} (lib : Libraries Pri Pub) (k : ReceiveKeying Pri Pub)

/-- The fields that the checks set. -/
def noted (context : String) (type : DecodingTypes) (fingerprint : String) : ReceiveKeying Pri Pub :=
  { k with
    mRemoteContextID := context
    mReceiveDecodingType := type
    mReceiveDecodingPublicKeyFingerprint := fingerprint }

theorem noted_self : k = k.noted k.mRemoteContextID k.mReceiveDecodingType k.mReceiveDecodingPublicKeyFingerprint := rfl

section Encoding

variable (nonce : String) (encodingEl : Element)

theorem checkPrivateKeyEncoding_noted : ∃ fingerprint,
    (k.checkPrivateKeyEncoding lib encodingEl).2 = k.noted k.mRemoteContextID .privateKey fingerprint := by
  unfold checkPrivateKeyEncoding
  simp only
  repeat' split
  all_goals exact ⟨_, rfl⟩

theorem checkPassphraseEncoding_noted : (k.checkPassphraseEncoding lib nonce encodingEl).2
    = k.noted k.mRemoteContextID .passphrase k.mReceiveDecodingPublicKeyFingerprint := by
  unfold checkPassphraseEncoding
  simp only
  repeat' split
  all_goals rfl

theorem checkEncoding_noted : ∃ type fingerprint,
    (k.checkEncoding lib nonce encodingEl).2 = k.noted k.mRemoteContextID type fingerprint := by
  unfold checkEncoding
  cases checkedText encodingEl "type" with
  | none => exact ⟨_, _, k.noted_self⟩
  | some type =>
    simp only
    split
    · obtain ⟨fingerprint, h⟩ := k.checkPrivateKeyEncoding_noted lib encodingEl
      exact ⟨_, fingerprint, h⟩
    · split
      · exact ⟨_, _, k.checkPassphraseEncoding_noted lib nonce encodingEl⟩
      · exact ⟨_, _, k.noted_self⟩

theorem checkEncoding_type : Decodes encodingEl (k.checkEncoding lib nonce encodingEl).2.mReceiveDecodingType := by
  constructor
  · intro hpki
    obtain ⟨fingerprint, h⟩ := k.checkPrivateKeyEncoding_noted lib encodingEl
    simp [checkEncoding, hpki, h, noted]
  · intro hpassphrase
    simp [checkEncoding, hpassphrase, k.checkPassphraseEncoding_noted lib nonce encodingEl, noted]

theorem checkPrivateKeyEncoding_ok (htype : checkedText encodingEl "type" = some "pki") :
    (k.checkPrivateKeyEncoding lib encodingEl).1 = .ok () ↔ MadeForKey lib k encodingEl := by
  constructor
  · intro h
    cases hfingerprint : checkedText encodingEl "fingerprint" with
    | none => simp [checkPrivateKeyEncoding, hfingerprint] at h
    | some fingerprint =>
      cases hprivate : k.mReceiveDecodingPrivateKey with
      | none => simp [checkPrivateKeyEncoding, hfingerprint, hprivate] at h
      | some privateKey =>
        cases hkey : k.mReceiveDecodingPublicKey with
        | none => simp [checkPrivateKeyEncoding, hfingerprint, hprivate, hkey] at h
        | some key =>
          by_cases hsame : fingerprint = lib.getFingerprint key
          · exact ⟨htype, by simp [hprivate], key, hkey, by rw [hfingerprint, hsame]⟩
          · simp [checkPrivateKeyEncoding, hfingerprint, hprivate, hkey, hsame] at h
  · rintro ⟨-, hprivate, key, hkey, hfingerprint⟩
    have hknown : k.mReceiveDecodingPrivateKey ≠ none := by simpa [Option.isSome_iff_ne_none] using hprivate
    simp [checkPrivateKeyEncoding, hfingerprint, hknown, hkey]

theorem checkPassphraseEncoding_ok (htype : checkedText encodingEl "type" = some "passphrase") :
    (k.checkPassphraseEncoding lib nonce encodingEl).1 = .ok () ↔ ProvesPassphrase lib k nonce encodingEl := by
  constructor
  · intro h
    by_cases hempty : k.mReceivingDecodingPassphrase = ""
    · simp [checkPassphraseEncoding, hempty] at h
    · cases halgorithm : checkedText encodingEl "algorithm" with
      | none => simp [checkPassphraseEncoding, hempty, halgorithm] at h
      | some algorithm =>
        by_cases hdefault : defaultCryptoAlgorithm = algorithm
        · cases hproof : checkedText encodingEl "proof" with
          | none => simp [checkPassphraseEncoding, hempty, halgorithm, hdefault, hproof] at h
          | some proof =>
            by_cases hsame : proof = calculatedProof lib k.mReceivingDecodingPassphrase nonce
            · exact ⟨htype, hempty, by rw [halgorithm, hdefault], by rw [hproof, hsame]⟩
            · simp [checkPassphraseEncoding, hempty, halgorithm, hdefault, hproof, hsame] at h
        · simp [checkPassphraseEncoding, hempty, halgorithm, hdefault] at h
  · rintro ⟨-, hempty, halgorithm, hproof⟩
    simp [checkPassphraseEncoding, hempty, halgorithm, hproof]

/-- What passes the check of the encoding: what is asked of it, or a type of which nothing is asked. -/
theorem checkEncoding_ok : (k.checkEncoding lib nonce encodingEl).1 = .ok () ↔
    EncodingMatches lib k nonce encodingEl ∨ OtherEncoding encodingEl := by
  cases htype : checkedText encodingEl "type" with
  | none =>
    constructor
    · intro h
      simp [checkEncoding, htype] at h
    · rintro ((h | h) | ⟨type, h, -⟩)
      · exact absurd (htype.symm.trans h.type) (by simp)
      · exact absurd (htype.symm.trans h.type) (by simp)
      · exact absurd (htype.symm.trans h) (by simp)
  | some type =>
    by_cases hpki : type = "pki"
    · subst hpki
      have hother : ¬OtherEncoding encodingEl := by simp [OtherEncoding, htype]
      have hpassphrase : ¬ProvesPassphrase lib k nonce encodingEl := fun h => by simpa [htype] using h.type
      simp [checkEncoding, htype, k.checkPrivateKeyEncoding_ok lib encodingEl htype, EncodingMatches, hother, hpassphrase]
    · have hkey : ¬MadeForKey lib k encodingEl := fun h => hpki (by simpa [htype] using h.type)
      by_cases hpassphrase : type = "passphrase"
      · subst hpassphrase
        have hother : ¬OtherEncoding encodingEl := by simp [OtherEncoding, htype]
        simp [checkEncoding, htype, k.checkPassphraseEncoding_ok lib nonce encodingEl htype, EncodingMatches, hother, hkey]
      · have hother : OtherEncoding encodingEl := ⟨type, htype, hpki, hpassphrase⟩
        simp [checkEncoding, htype, hpki, hpassphrase, hother]

theorem checkPrivateKeyEncoding_error {halt : Halt} (h : (k.checkPrivateKeyEncoding lib encodingEl).1 = .error halt) :
    halt.Possible k := by
  cases hfingerprint : checkedText encodingEl "fingerprint" with
  | none =>
    simp only [checkPrivateKeyEncoding, hfingerprint, Except.error.injEq] at h
    exact h ▸ trivial
  | some fingerprint =>
    cases hprivate : k.mReceiveDecodingPrivateKey with
    | none =>
      simp only [checkPrivateKeyEncoding, hfingerprint, hprivate, Option.isNone_none, if_true, Except.error.injEq] at h
      exact h ▸ trivial
    | some privateKey =>
      cases hkey : k.mReceiveDecodingPublicKey with
      | none =>
        simp [checkPrivateKeyEncoding, hfingerprint, hprivate, hkey] at h
        exact h ▸ ⟨by simp [hprivate], hkey⟩
      | some key =>
        by_cases hsame : fingerprint = lib.getFingerprint key
        · simp [checkPrivateKeyEncoding, hfingerprint, hprivate, hkey, hsame] at h
        · simp [checkPrivateKeyEncoding, hfingerprint, hprivate, hkey, hsame] at h
          exact h ▸ (by decide : requestTimeout ≠ 0)

theorem checkPassphraseEncoding_error {halt : Halt} (h : (k.checkPassphraseEncoding lib nonce encodingEl).1 = .error halt) :
    halt.Possible k := by
  have hcode : Halt.Possible k (.refused expectationFailed "keyhing encoding not using expecting passphrase") :=
    (by decide : expectationFailed ≠ 0)
  by_cases hempty : k.mReceivingDecodingPassphrase = ""
  · simp [checkPassphraseEncoding, hempty] at h
    exact h ▸ trivial
  · cases halgorithm : checkedText encodingEl "algorithm" with
    | none =>
      simp [checkPassphraseEncoding, hempty, halgorithm] at h
      exact h ▸ trivial
    | some algorithm =>
      by_cases hdefault : defaultCryptoAlgorithm = algorithm
      · cases hproof : checkedText encodingEl "proof" with
        | none =>
          simp [checkPassphraseEncoding, hempty, halgorithm, hdefault, hproof] at h
          exact h ▸ trivial
        | some proof =>
          by_cases hsame : proof = calculatedProof lib k.mReceivingDecodingPassphrase nonce
          · simp [checkPassphraseEncoding, hempty, halgorithm, hdefault, hproof, hsame] at h
          · simp [checkPassphraseEncoding, hempty, halgorithm, hdefault, hproof, hsame] at h
            exact h ▸ hcode
      · simp [checkPassphraseEncoding, hempty, halgorithm, hdefault] at h
        exact h ▸ hcode

theorem checkEncoding_error {halt : Halt} (h : (k.checkEncoding lib nonce encodingEl).1 = .error halt) : halt.Possible k := by
  unfold checkEncoding at h
  cases htype : checkedText encodingEl "type" with
  | none =>
    simp only [htype, Except.error.injEq] at h
    exact h ▸ trivial
  | some type =>
    simp only [htype] at h
    split at h
    · exact k.checkPrivateKeyEncoding_error lib encodingEl h
    · split at h
      · exact k.checkPassphraseEncoding_error lib nonce encodingEl h
      · cases h

end Encoding

section Contents

variable (keyingEl : Element)

theorem checkContents_noted : ∃ type fingerprint,
    (k.checkContents lib keyingEl).2 = k.noted k.mRemoteContextID type fingerprint := by
  unfold checkContents
  split
  · exact k.checkEncoding_noted lib _ _
  · exact ⟨_, _, k.noted_self⟩

theorem checkContents_type {nonce : String} {encodingEl : Element} (hnonce : checkedText keyingEl "nonce" = some nonce)
    (hencoding : keyingEl.findFirstChildElement "encoding" = some encodingEl) :
    Decodes encodingEl (k.checkContents lib keyingEl).2.mReceiveDecodingType := by
  simp only [checkContents, hnonce, hencoding]
  exact k.checkEncoding_type lib nonce encodingEl

theorem checkContents_ok (nonce : String) : (k.checkContents lib keyingEl).1 = .ok nonce ↔
    checkedText keyingEl "nonce" = some nonce ∧ ∃ encodingEl, keyingEl.findFirstChildElement "encoding" = some encodingEl ∧
      (EncodingMatches lib k nonce encodingEl ∨ OtherEncoding encodingEl) := by
  cases hnonce : checkedText keyingEl "nonce" with
  | none => simp [checkContents, hnonce]
  | some found =>
    cases hencoding : keyingEl.findFirstChildElement "encoding" with
    | none => simp [checkContents, hnonce, hencoding]
    | some encodingEl =>
      have hcheck := k.checkEncoding_ok lib found encodingEl
      cases hresult : (k.checkEncoding lib found encodingEl).1 with
      | error halt =>
        have hno : ¬(EncodingMatches lib k found encodingEl ∨ OtherEncoding encodingEl) := by
          rw [← hcheck, hresult]
          simp
        simp only [checkContents, hnonce, hencoding, hresult, Except.map, reduceCtorEq, false_iff]
        rintro ⟨hsame, encodingEl', hsame', hmatches⟩
        cases hsame
        cases hsame'
        exact hno hmatches
      | ok u =>
        have hmatches := hcheck.mp hresult
        simp only [checkContents, hnonce, hencoding, hresult, Except.map, Except.ok.injEq, Option.some.injEq]
        constructor
        · rintro rfl
          exact ⟨rfl, encodingEl, rfl, hmatches⟩
        · exact fun h => h.1

theorem checkContents_error {halt : Halt} (h : (k.checkContents lib keyingEl).1 = .error halt) : halt.Possible k := by
  cases hnonce : checkedText keyingEl "nonce" with
  | none =>
    simp only [checkContents, hnonce, Except.error.injEq] at h
    exact h ▸ trivial
  | some found =>
    cases hencoding : keyingEl.findFirstChildElement "encoding" with
    | none =>
      simp only [checkContents, hnonce, hencoding, Except.error.injEq] at h
      exact h ▸ trivial
    | some encodingEl =>
      cases hresult : (k.checkEncoding lib found encodingEl).1 with
      | error halt' =>
        simp only [checkContents, hnonce, hencoding, hresult, Except.map, Except.error.injEq] at h
        exact h ▸ k.checkEncoding_error lib found encodingEl hresult
      | ok u => simp [checkContents, hnonce, hencoding, hresult, Except.map] at h

end Contents

section Keying

variable (tick : Time) (keyingEl : Cursor)

theorem checkKeying_signed (h : Signed lib tick k keyingEl) : k.checkKeying lib tick keyingEl = k.checkContents lib keyingEl.element := by
  obtain ⟨key, hkey, hverified⟩ := h.signature
  simp only [checkKeying, hkey, hverified, h.sequence, h.current, ne_eq, not_true_eq_false, Bool.false_eq_true, if_false]

/-- Every other bundle stops there, and nothing is noted. -/
theorem checkKeying_unsigned (h : ¬Signed lib tick k keyingEl) :
    ∃ halt : Halt, k.checkKeying lib tick keyingEl = (.error halt, k) ∧ halt.Possible k := by
  have hrequest : ∀ reason, Halt.Possible k (.refused requestTimeout reason) := fun _ => (by decide : requestTimeout ≠ 0)
  have hforbidden : ∀ reason, Halt.Possible k (.refused forbidden reason) := fun _ => (by decide : forbidden ≠ 0)
  cases hkey : k.mReceiveSigningPublicKey with
  | none => exact ⟨.waits true, by rw [checkKeying, hkey], trivial⟩
  | some key =>
    cases hverified : verifySignature lib key keyingEl with
    | none => exact ⟨.checkFailed, by simp only [checkKeying, hkey, hverified], trivial⟩
    | some valid =>
      cases valid with
      | false => exact ⟨.refused forbidden _, by simp only [checkKeying, hkey, hverified]; rfl, hforbidden _⟩
      | true =>
        by_cases hsequence : text keyingEl.element "sequence" = toString k.mNextReceiveSequenceNumber
        · cases hafter : tick.after (stringToTime (text keyingEl.element "expires")) with
          | true =>
            refine ⟨.refused requestTimeout "signed keying bundle has expired", ?_, hrequest _⟩
            simp only [checkKeying, hkey, hverified, hsequence, hafter, ne_eq, not_true_eq_false, if_true, if_false]
          | false => exact absurd ⟨⟨key, hkey, hverified⟩, hsequence, hafter⟩ h
        · refine ⟨.refused requestTimeout "sequence number mismatch", ?_, hrequest _⟩
          simp only [checkKeying, hkey, hverified, hsequence, ne_eq, not_false_eq_true, if_true]

theorem checkKeying_stale (hkey : k.mReceiveSigningPublicKey.isSome = true)
    (hsequence : text keyingEl.element "sequence" ≠ toString k.mNextReceiveSequenceNumber) :
    ∃ halt : Halt, k.checkKeying lib tick keyingEl = (.error halt, k) ∧
      (halt = .checkFailed ∨ ∃ errorCode reason, halt = .refused errorCode reason ∧ errorCode ≠ 0) := by
  obtain ⟨key, hkey⟩ := Option.isSome_iff_exists.mp hkey
  cases hverified : verifySignature lib key keyingEl with
  | none => exact ⟨.checkFailed, by simp only [checkKeying, hkey, hverified], .inl rfl⟩
  | some valid =>
    cases valid with
    | false => exact ⟨.refused forbidden _, by simp only [checkKeying, hkey, hverified]; rfl, .inr ⟨forbidden, _, rfl, by decide⟩⟩
    | true =>
      refine ⟨.refused requestTimeout "sequence number mismatch", ?_, .inr ⟨requestTimeout, _, rfl, by decide⟩⟩
      simp only [checkKeying, hkey, hverified, hsequence, ne_eq, not_false_eq_true, if_true]

theorem checkKeying_noted : ∃ type fingerprint,
    (k.checkKeying lib tick keyingEl).2 = k.noted k.mRemoteContextID type fingerprint := by
  by_cases h : Signed lib tick k keyingEl
  · rw [k.checkKeying_signed lib tick keyingEl h]
    exact k.checkContents_noted lib keyingEl.element
  · obtain ⟨halt, hcheck, -⟩ := k.checkKeying_unsigned lib tick keyingEl h
    rw [hcheck]
    exact ⟨_, _, k.noted_self⟩

theorem checkKeying_type {nonce : String} {encodingEl : Element} (hsigned : Signed lib tick k keyingEl)
    (hnonce : checkedText keyingEl.element "nonce" = some nonce)
    (hencoding : keyingEl.element.findFirstChildElement "encoding" = some encodingEl) :
    Decodes encodingEl (k.checkKeying lib tick keyingEl).2.mReceiveDecodingType := by
  rw [k.checkKeying_signed lib tick keyingEl hsigned]
  exact k.checkContents_type lib keyingEl.element hnonce hencoding

theorem checkKeying_ok (nonce : String) : (k.checkKeying lib tick keyingEl).1 = .ok nonce ↔
    Passes lib (fun nonce encodingEl => EncodingMatches lib k nonce encodingEl ∨ OtherEncoding encodingEl) tick k keyingEl
      nonce := by
  by_cases h : Signed lib tick k keyingEl
  · rw [k.checkKeying_signed lib tick keyingEl h, checkContents_ok, Passes]
    simp only [h, true_and]
  · obtain ⟨halt, hcheck, -⟩ := k.checkKeying_unsigned lib tick keyingEl h
    simp [hcheck, Passes, h]

theorem checkKeying_error {halt : Halt} (h : (k.checkKeying lib tick keyingEl).1 = .error halt) : halt.Possible k := by
  by_cases hsigned : Signed lib tick k keyingEl
  · rw [k.checkKeying_signed lib tick keyingEl hsigned] at h
    exact k.checkContents_error lib keyingEl.element h
  · obtain ⟨halt', hcheck, hpossible⟩ := k.checkKeying_unsigned lib tick keyingEl hsigned
    rw [hcheck] at h
    cases h
    exact hpossible

end Keying

section Algorithms

theorem algorithmLoop_ends {turns : Nat} {algorithmEl : Element} {found : Bool}
    (h : algorithmLoop turns (some algorithmEl) = some found) :
    found = true ∧ defaultCryptoAlgorithm = algorithmEl.getText := by
  induction turns with
  | zero => cases h
  | succ turns ih =>
    rw [algorithmLoop] at h
    split at h
    case isTrue hsame => exact ⟨(Option.some.inj h).symm, hsame⟩
    case isFalse => exact ih h

theorem algorithmLoop_mandated {algorithmEl : Element} (h : defaultCryptoAlgorithm = algorithmEl.getText) (turns : Nat) :
    algorithmLoop (turns + 1) (some algorithmEl) = some true := by
  rw [algorithmLoop, if_pos h]

theorem checkAlgorithms_ends {turns : Nat} {keyingEl : Element} {result : Except Halt Unit}
    (h : checkAlgorithms turns keyingEl = some result) : result = .error .checkFailed ∨ result = .ok () := by
  unfold checkAlgorithms at h
  cases hfirst : firstAlgorithm keyingEl with
  | none =>
    simp only [hfirst, Option.some.injEq] at h
    exact .inl h.symm
  | some algorithmEl =>
    simp only [hfirst] at h
    obtain ⟨found, hloop, rfl⟩ := Option.map_eq_some_iff.mp h
    rw [(algorithmLoop_ends hloop).1]
    exact .inr rfl

end Algorithms

end ReceiveKeying

namespace MLSChannel

variable {η Pri Pub : Type} (lib : Libraries Pri Pub) (s : MLSChannel η Pri Pub)

/-- The channel after the checks of a bundle: no bundle is put aside and there are no keys. -/
def cleared (context : String) (type : DecodingTypes) (fingerprint : String) : MLSChannel η Pri Pub :=
  { s with
    mReceiveKeyingSignedDoc := none
    mReceiveKeys := []
    mRemoteContextID := context
    mReceiveDecodingType := type
    mReceiveDecodingPublicKeyFingerprint := fingerprint }

/-- All that the processing of a bundle may do. -/
inductive Processed (tick : Time) (doc : Document) : Bool × Bool × MLSChannel η Pri Pub → Prop
  | refused (context : String) (type : DecodingTypes) (fingerprint : String) (errorCode : UInt16) (reason : String)
      (hcode : errorCode ≠ 0) :
      Processed tick doc (false, false, ((s.cleared context type fingerprint).setError errorCode reason).cancel)
  | waits (context : String) (type : DecodingTypes) (fingerprint : String) (returnResult : Bool) :
      Processed tick doc (false, returnResult,
        { s.cleared context type fingerprint with mReceiveKeyingSignedDoc := some doc }.setState .waitingForNeededInformation)
  | badState (context : String) (type : DecodingTypes) (fingerprint : String)
      (hprivate : s.mReceiveDecodingPrivateKey.isSome = true) (hpublic : s.mReceiveDecodingPublicKey = none) :
      Processed tick doc (false, false, s.cleared context type fingerprint)
  | accepted (context : String) (type : DecodingTypes) (fingerprint : String) (keyingEl : Cursor) (nonce : String)
      (encodingEl : Element) (hkeying : cursorOfKeying doc = some keyingEl) (hsigned : Signed lib tick s.toReceiveKeying keyingEl)
      (hnonce : checkedText keyingEl.element "nonce" = some nonce)
      (hencoding : keyingEl.element.findFirstChildElement "encoding" = some encodingEl)
      (hmatches : EncodingMatches lib s.toReceiveKeying nonce encodingEl ∨ OtherEncoding encodingEl)
      (hdecodes : Decodes encodingEl type) (keys : KeyMap)
      (hkeys : keys = (s.cleared context type fingerprint).toReceiveKeying.extractKeys lib nonce keyingEl.element)
      (hsome : keys ≠ []) :
      Processed tick doc (true, true,
        { s.cleared context type fingerprint with
          mReceiveKeys := keys
          mNextReceiveSequenceNumber := (s.mNextReceiveSequenceNumber + 1) % lib.ulongBound })

theorem conclude_cleared (tick : Time) (doc : Document) (context : String) (type : DecodingTypes) (fingerprint : String) :
    Processed lib s tick doc (conclude lib (s.cleared context type fingerprint)) :=
  .refused context type fingerprint _ _ (by decide)

theorem leave_processed (tick : Time) (doc : Document) (context : String) (type : DecodingTypes) (fingerprint : String)
    (halt : Halt) (h : halt.Possible s.toReceiveKeying) :
    Processed lib s tick doc (leave lib doc (s.cleared context type fingerprint) halt) := by
  cases halt with
  | checkFailed => exact conclude_cleared lib s tick doc context type fingerprint
  | waits returnResult => exact .waits context type fingerprint returnResult
  | refused errorCode reason => exact .refused context type fingerprint errorCode reason h
  | badState => exact .badState context type fingerprint h.1 h.2

variable {tick : Time} {doc : Document} {r : Bool × Bool × MLSChannel η Pri Pub}

variable {turns : Nat} {keyingEl : Cursor}

/-- A bundle that passed the checks ends with keys or with an error. -/
theorem processKeys_processed {context : String} {type : DecodingTypes} {fingerprint : String}
    {nonce : String} {encodingEl : Element} (hkeying : cursorOfKeying doc = some keyingEl)
    (hsigned : Signed lib tick s.toReceiveKeying keyingEl)
    (hnonce : checkedText keyingEl.element "nonce" = some nonce)
    (hencoding : keyingEl.element.findFirstChildElement "encoding" = some encodingEl)
    (hmatches : EncodingMatches lib s.toReceiveKeying nonce encodingEl ∨ OtherEncoding encodingEl)
    (hdecodes : Decodes encodingEl type)
    (h : processKeys lib turns nonce keyingEl.element doc (s.cleared context type fingerprint) = some r) :
    Processed lib s tick doc r := by
  obtain ⟨algorithms, halgorithms, hend⟩ := Option.map_eq_some_iff.mp h
  rcases ReceiveKeying.checkAlgorithms_ends halgorithms with rfl | rfl
  · cases hend
    exact leave_processed lib s tick doc context type fingerprint .checkFailed trivial
  · simp only [conclude] at hend
    split at hend
    case isTrue hnone =>
      have hkeys : (s.cleared context type fingerprint).extractKeys lib nonce keyingEl.element = [] :=
        List.length_eq_zero_iff.mp (Nat.lt_one_iff.mp hnone)
      rw [hkeys] at hend
      cases hend
      exact .refused context type fingerprint _ _ (by decide)
    case isFalse hsome =>
      cases hend
      refine .accepted context type fingerprint keyingEl nonce encodingEl hkeying hsigned hnonce hencoding hmatches hdecodes
        _ rfl ?_
      intro hnil
      rw [hnil] at hsome
      exact hsome (by decide)

/-- The processing does nothing else. -/
theorem processKeying_processed (h : processKeying lib turns tick doc s = some r) :
    Processed lib s tick doc r := by
  unfold processKeying at h
  cases hkeying : cursorOfKeying doc with
  | none =>
    simp only [hkeying, Option.some.injEq] at h
    exact h ▸ conclude_cleared lib s tick doc _ _ _
  | some keyingEl =>
    simp only [hkeying] at h
    let k := s.clear.rememberContext keyingEl.element
    obtain ⟨type, fingerprint, hnoted⟩ := k.checkKeying_noted lib tick keyingEl
    cases hcheck : k.checkKeying lib tick keyingEl with
    | mk result known =>
      have hknown : known = k.noted k.mRemoteContextID type fingerprint := by rwa [hcheck] at hnoted
      have hcleared : s.clear.withKeying known = s.cleared k.mRemoteContextID type fingerprint := hknown ▸ rfl
      rw [show (s.clear.rememberContext keyingEl.element).checkKeying lib tick keyingEl = (result, known) from hcheck] at h
      cases result with
      | error halt =>
        simp only [hcleared, Option.some.injEq] at h
        have herror : (k.checkKeying lib tick keyingEl).1 = .error halt := by rw [hcheck]
        have hpossible := k.checkKeying_error lib tick keyingEl herror
        rw [← h]
        exact leave_processed lib s tick doc k.mRemoteContextID type fingerprint halt (by cases halt <;> exact hpossible)
      | ok nonce =>
        simp only [hcleared] at h
        obtain ⟨hsigned, hnonce, encodingEl, hencoding, hmatches⟩ := (k.checkKeying_ok lib tick keyingEl nonce).mp (by rw [hcheck])
        have hdecodes := k.checkKeying_type lib tick keyingEl hsigned hnonce hencoding
        rw [hnoted] at hdecodes
        refine processKeys_processed lib s hkeying { hsigned with } hnonce hencoding ?_
          hdecodes h
        rcases hmatches with (hm | hm) | hm
        · exact .inl (.inl { hm with })
        · exact .inl (.inr { hm with })
        · exact .inr hm

theorem processKeying_stale (turns : Nat) (tick : Time) (hkeying : cursorOfKeying doc = some keyingEl)
    (hkey : s.mReceiveSigningPublicKey.isSome = true)
    (hsequence : text keyingEl.element "sequence" ≠ toString s.mNextReceiveSequenceNumber) :
    ∃ context type fingerprint errorCode reason, errorCode ≠ 0 ∧ processKeying lib turns tick doc s =
      some (false, false, ((s.cleared context type fingerprint).setError errorCode reason).cancel) := by
  obtain ⟨halt, hcheck, hhalt⟩ := (s.clear.rememberContext keyingEl.element).checkKeying_stale lib tick keyingEl hkey hsequence
  have hprocess : processKeying lib turns tick doc s =
      some (leave lib doc (s.clear.withKeying (s.clear.rememberContext keyingEl.element)) halt) := by
    simp only [processKeying, hkeying]
    rw [hcheck]
  rw [hprocess]
  rcases hhalt with rfl | ⟨errorCode, reason, rfl, hcode⟩
  · exact ⟨_, s.mReceiveDecodingType, s.mReceiveDecodingPublicKeyFingerprint, expectationFailed, _, by decide, rfl⟩
  · exact ⟨_, s.mReceiveDecodingType, s.mReceiveDecodingPublicKeyFingerprint, errorCode, reason, hcode, rfl⟩

variable (errorCode : UInt16)

variable (reason : String)

theorem setError_error (hcode : errorCode ≠ 0) : (s.setError errorCode reason).mLastError ≠ 0 := by
  unfold setError
  split
  · assumption
  · exact hcode

@[simp] theorem setError_keys : (s.setError errorCode reason).mReceiveKeys = s.mReceiveKeys := by
  unfold setError
  split <;> rfl

@[simp] theorem setError_attempts : (s.setError errorCode reason).attempts = s.attempts := by
  unfold setError
  split <;> rfl

theorem Processed.sound (h : Processed lib s tick doc r)
    (hpaired : s.mReceiveDecodingPrivateKey.isSome = true → s.mReceiveDecodingPublicKey ≠ none)
    (hknown : KnownEncoding doc) :
    KeyingAttempt.Sound lib ⟨s.toReceiveKeying, doc, tick, r.2.2.toReceiveKeying⟩ := by
  cases h with
  | refused context type fingerprint errorCode reason hcode =>
    refine .inr ⟨?_, .inl ⟨rfl, setError_error _ errorCode reason hcode⟩⟩
    exact setError_keys _ errorCode reason
  | waits context type fingerprint returnResult => exact .inr ⟨rfl, .inr ⟨rfl, rfl⟩⟩
  | badState context type fingerprint hprivate hpublic => exact absurd hpublic (hpaired hprivate)
  | accepted context type fingerprint keyingEl nonce encodingEl hkeying hsigned hnonce hencoding hmatches hdecodes keys hkeys
      hsome =>
    have hmatch := hmatches.resolve_right ((knownEncoding_iff hkeying hencoding).mp hknown)
    exact .inl ⟨hsome, keyingEl, nonce, hkeying, hsigned, hnonce, encodingEl, hencoding, hmatch⟩

end MLSChannel

end OpenPeer
