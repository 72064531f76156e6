import OpenPeer.MessageLayerSecurityAuthentication

/-!
# The loop over the algorithms

The loop looks at the same element again and again, so the processing of a bundle ends
unless the bundle comes as far as that loop with a first algorithm that is not the
mandated one.
-/
namespace OpenPeer

open Bytes Xml Runs

namespace ReceiveKeying

theorem algorithmLoop_other {algorithmEl : Element} (h : defaultCryptoAlgorithm ≠ algorithmEl.getText) (turns : Nat) :
    algorithmLoop turns (some algorithmEl) = none := by
  induction turns with
  | zero => rfl
  | succ turns ih => rw [algorithmLoop, if_neg h, ih]

theorem checkAlgorithms_other {keyingEl algorithmEl : Element} (hfirst : firstAlgorithm keyingEl = some algorithmEl)
    (h : defaultCryptoAlgorithm ≠ algorithmEl.getText) (turns : Nat) : checkAlgorithms turns keyingEl = none := by
  simp [checkAlgorithms, hfirst, algorithmLoop_other h]

theorem checkAlgorithms_mandated {keyingEl : Element}
    (h : ∀ algorithmEl, firstAlgorithm keyingEl = some algorithmEl → defaultCryptoAlgorithm = algorithmEl.getText) :
    (checkAlgorithms 1 keyingEl).isSome = true := by
  cases hfirst : firstAlgorithm keyingEl with
  | none => simp [checkAlgorithms, hfirst]
  | some algorithmEl => simp [checkAlgorithms, hfirst, algorithmLoop_mandated (h algorithmEl hfirst) 0]

end ReceiveKeying

section Shape

variable {Pri Pub : Type} (lib : Libraries Pri Pub)

/-- What passes the check of the encoding. -/
def EncodingPasses (k : ReceiveKeying Pri Pub) (nonce : String) (encodingEl : Element) : Prop :=
  EncodingMatches lib k nonce encodingEl ∨ OtherEncoding encodingEl

/-- The bundle passes the checks before its algorithms, and the first of these is not the mandated one. -/
def StartsElsewhere (tick : Time) (k : ReceiveKeying Pri Pub) (doc : Document) : Prop :=
  ∃ keyingEl nonce algorithmEl, cursorOfKeying doc = some keyingEl ∧ Passes lib (EncodingPasses lib k) tick k keyingEl nonce ∧
    ReceiveKeying.firstAlgorithm keyingEl.element = some algorithmEl ∧ defaultCryptoAlgorithm ≠ algorithmEl.getText

variable {lib} {tick : Time} {k k' : ReceiveKeying Pri Pub} {keyingEl : Cursor} {nonce : String}

/-- The checks look at nothing else. -/
theorem Passes.congr (h : Passes lib (EncodingPasses lib k) tick k keyingEl nonce)
    (hsigning : k'.mReceiveSigningPublicKey = k.mReceiveSigningPublicKey)
    (hsequence : k'.mNextReceiveSequenceNumber = k.mNextReceiveSequenceNumber)
    (hprivate : k'.mReceiveDecodingPrivateKey = k.mReceiveDecodingPrivateKey)
    (hpublic : k'.mReceiveDecodingPublicKey = k.mReceiveDecodingPublicKey)
    (hpassphrase : k'.mReceivingDecodingPassphrase = k.mReceivingDecodingPassphrase) :
    Passes lib (EncodingPasses lib k') tick k' keyingEl nonce := by
  obtain ⟨hsigned, hnonce, encodingEl, hencoding, hmatches⟩ := h
  refine ⟨⟨?_, ?_, hsigned.current⟩, hnonce, encodingEl, hencoding, ?_⟩
  · rw [hsigning]
    exact hsigned.signature
  · rw [hsequence]
    exact hsigned.sequence
  · rcases hmatches with (hkey | hproof) | hother
    · left; left
      constructor
      · exact hkey.type
      · rw [hprivate]
        exact hkey.privateKey
      · rw [hpublic]
        exact hkey.fingerprint
    · left; right
      constructor
      · exact hproof.type
      · rw [hpassphrase]
        exact hproof.passphrase
      · exact hproof.algorithm
      · rw [hpassphrase]
        exact hproof.proof
    · right
      exact hother

end Shape

namespace MLSChannel

variable {η Pri Pub : Type} (lib : Libraries Pri Pub) (s : MLSChannel η Pri Pub) (tick : Time)

theorem checkKeying_clear (keyingEl : Cursor) (nonce : String) :
    ((s.clear.rememberContext keyingEl.element).checkKeying lib tick keyingEl).1 = .ok nonce ↔
      Passes lib (EncodingPasses lib s.toReceiveKeying) tick s.toReceiveKeying keyingEl nonce := by
  rw [ReceiveKeying.checkKeying_ok]
  constructor
  · exact fun h => Passes.congr h rfl rfl rfl rfl rfl
  · exact fun h => Passes.congr h rfl rfl rfl rfl rfl

theorem processKeying_elsewhere {doc : Document} (h : StartsElsewhere lib tick s.toReceiveKeying doc) (turns : Nat) :
    processKeying lib turns tick doc s = none := by
  obtain ⟨keyingEl, nonce, algorithmEl, hkeying, hpasses, hfirst, hother⟩ := h
  have hcheck := (checkKeying_clear lib s tick keyingEl nonce).mpr hpasses
  simp only [processKeying, hkeying]
  split
  case h_1 halt known hresult => simp [hresult] at hcheck
  case h_2 nonce' known hresult =>
    simp [processKeys, ReceiveKeying.checkAlgorithms_other hfirst hother]

theorem processKeying_ends {doc : Document} (h : ¬StartsElsewhere lib tick s.toReceiveKeying doc) :
    (processKeying lib 1 tick doc s).isSome = true := by
  unfold processKeying
  cases hkeying : cursorOfKeying doc with
  | none => rfl
  | some keyingEl =>
    simp only
    split
    case h_1 => rfl
    case h_2 nonce known hresult =>
      have hpasses := (checkKeying_clear lib s tick keyingEl nonce).mp (by rw [hresult])
      have hmandated : ∀ algorithmEl, ReceiveKeying.firstAlgorithm keyingEl.element = some algorithmEl →
          defaultCryptoAlgorithm = algorithmEl.getText := by
        intro algorithmEl hfirst
        by_contra hother
        exact h ⟨keyingEl, nonce, algorithmEl, hkeying, hpasses, hfirst, hother⟩
      simp [processKeys, ReceiveKeying.checkAlgorithms_mandated hmandated]

/-- The processing of a bundle ends after some number of turns just when the bundle does not come as far
as the loop over its algorithms with another one in the first place. -/
theorem keying_processing_ends_iff (keying : Option (List UInt8)) :
    (∃ turns r, stepProcessReceiveKeying lib turns tick s keying = some r) ↔
      ¬StartsElsewhere lib tick s.toReceiveKeying (documentFor lib s keying) := by
  constructor
  · rintro ⟨turns, r, hends⟩ helsewhere
    simp [stepProcessReceiveKeying, processKeying_elsewhere lib s tick helsewhere] at hends
  · intro h
    obtain ⟨r, hr⟩ := Option.isSome_iff_exists.mp (processKeying_ends lib s tick h)
    exact ⟨1, _, by rw [stepProcessReceiveKeying, hr]; rfl⟩

end MLSChannel

/-- A bundle that proves the passphrase "secret" and names another algorithm before the mandated one. -/
def twoAlgorithmsSample : SignedSample :=
  { passphraseSample with
    algorithms := [createElementWithText "algorithm" "other", createElementWithText "algorithm" defaultCryptoAlgorithm]
    algorithmsText := "[\"other\",\"" ++ defaultCryptoAlgorithm ++ "\"]"
    digestValue := "F9pXGBC5rzUXqvi5BCLBgTEaaYc="
    digest := [23, 218, 87, 24, 16, 185, 175, 53, 23, 170, 248, 185, 4, 34, 193, 129, 49, 26, 105, 135]
    digestSigned :=
      "VU3d8BQT/nvqLn6+qDIHe8kqfAHlMjYrjKE44LpcU10oHD7VHgmTDUNM1+IElP8XjXHWCmNeHoJTECO2bnzt7w=="
    signature := [85, 77, 221, 240, 20, 19, 254, 123, 234, 46, 126, 190, 168, 50, 7, 123, 201, 42, 124, 1, 229, 50, 54, 43,
      140, 161, 56, 224, 186, 92, 83, 93, 40, 28, 62, 213, 30, 9, 147, 13, 67, 76, 215, 226, 4, 148, 255, 23, 141,
      113, 214, 10, 99, 94, 30, 130, 83, 16, 35, 182, 110, 124, 237, 239] }

namespace SignedSample

open MLSChannel

/-- A channel that knows the passphrase and the signing key. -/
def keyed : MLSChannel Unit Unit Unit :=
  (fresh.setReceiveKeyingDecodingPassphrase "secret").setReceiveKeyingMaterialSigningPublicKey ()

theorem toOption_some {ε α : Type} {x : Except ε α} {a : α} (h : x.toOption = some a) : x = .ok a := by
  cases x with
  | error e => cases h
  | ok b => simpa [Except.toOption] using h

/-- The mandated algorithm in the second place is never come to. -/
theorem second_algorithm_never_found :
    ¬∃ turns r, stepProcessReceiveKeying twoAlgorithmsSample.libraries turns (.at 1700000000000000) keyed
      (some (toBE 4 0 ++ utf8 twoAlgorithmsSample.text)) = some r := by
  have hreached : (cursorOfKeying twoAlgorithmsSample.doc).elim none (fun keyingEl =>
      ((keyed.clear.rememberContext keyingEl.element).checkKeying twoAlgorithmsSample.libraries (.at 1700000000000000)
        keyingEl).1.toOption) = some "n0" := by
    decide +kernel
  have hfirst : (cursorOfKeying twoAlgorithmsSample.doc).elim none (fun keyingEl =>
      (ReceiveKeying.firstAlgorithm keyingEl.element).map Tag.getText) = some "other" := by
    decide +kernel
  cases hkeying : cursorOfKeying twoAlgorithmsSample.doc with
  | none => simp [hkeying] at hreached
  | some keyingEl =>
    rw [hkeying] at hreached hfirst
    obtain ⟨algorithmEl, halgorithm, hother⟩ := Option.map_eq_some_iff.mp hfirst
    have hdifferent : defaultCryptoAlgorithm ≠ algorithmEl.getText := by
      rw [hother]
      decide
    have hpasses := (checkKeying_clear twoAlgorithmsSample.libraries keyed (.at 1700000000000000) keyingEl "n0").mp
      (toOption_some hreached)
    have helsewhere : StartsElsewhere twoAlgorithmsSample.libraries (.at 1700000000000000) keyed.toReceiveKeying
        twoAlgorithmsSample.doc := ⟨keyingEl, "n0", algorithmEl, hkeying, hpasses, halgorithm, hdifferent⟩
    rintro ⟨turns, r, hends⟩
    obtain ⟨q, hq, -⟩ := Option.map_eq_some_iff.mp hends
    have hnone := processKeying_elsewhere twoAlgorithmsSample.libraries keyed _ helsewhere turns
    exact absurd (hnone.symm.trans hq) (Option.some_ne_none q).symm

end SignedSample

end OpenPeer
