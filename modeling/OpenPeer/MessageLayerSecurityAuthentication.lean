import OpenPeer.MessageLayerSecurityHalves
import OpenPeer.MessageLayerSecurityLink

/-!
# Where receive keys come from

In runs whose bundles are of the two types that are checked, keys are stored only from
an authenticated bundle, and the keys in use are those of the last bundle processed. A
bundle of a third type is decoded without a fingerprint and without a proof.
-/
namespace OpenPeer

open Bytes Xml Runs

section Buffers

variable (c : Crypto) {keys keys' : KeyMap} {streamBuffer output : List UInt8}

theorem decodeBuffer_plain (h : decodeBuffer c keys streamBuffer = .plain output keys') :
    ofBE (streamBuffer.take 4) ≠ 0 ∧ ∃ key, keys.find (ofBE (streamBuffer.take 4)) = some key ∧
      c.getHashDigestSize < (streamBuffer.drop 4).length ∧
      output = c.decrypt key.mSendKey key.mNextIV ((streamBuffer.drop 4).drop c.getHashDigestSize) ∧
      key.integrity c output = (streamBuffer.drop 4).take c.getHashDigestSize ∧
      keys' = keys.update (ofBE (streamBuffer.take 4)) (key.next c (key.integrity c output)) := by
  unfold decodeBuffer at h
  split at h
  · cases h
  simp only at h
  split at h
  · cases h
  case isFalse hindex =>
    split at h
    · cases h
    cases hfind : keys.find (ofBE (streamBuffer.take 4)) with
    | none => simp [hfind] at h
    | some key =>
      simp only [hfind] at h
      split at h
      · cases h
      case isFalse hsize =>
        split at h
        · cases h
        case isFalse hintegrity =>
          cases h
          exact ⟨hindex, key, rfl, Nat.lt_of_not_le hsize, rfl, not_not.mp hintegrity, rfl⟩

theorem decodeBuffer_keying (h : decodeBuffer c keys streamBuffer = .keying) :
    4 < streamBuffer.length ∧ ofBE (streamBuffer.take 4) = 0 := by
  unfold decodeBuffer at h
  split at h
  · cases h
  case isFalse hlength =>
    simp only at h
    split at h
    case isTrue hindex => exact ⟨Nat.lt_of_not_le hlength, hindex⟩
    · repeat' split at h
      all_goals cases h

end Buffers

namespace MLSChannel

variable {η Pri Pub : Type} (lib : Libraries Pri Pub) (s : MLSChannel η Pri Pub)

/-- The bundles in a stream. -/
def bundlesIn (stream : TransportStream η) : List Document :=
  (stream.records.filter fun r => 4 < r.1.length ∧ ofBE (r.1.take 4) = 0).map fun r => lib.createFromAutoDetect (r.1.drop 4)

/-- The bundles a channel may come to process at its next step. -/
def bundlesAt : List Document := s.mReceiveKeyingSignedDoc.toList ++ bundlesIn lib s.mReceiveStreamEncoded

variable {doc : Document}

theorem mem_bundlesIn {stream : TransportStream η} : doc ∈ bundlesIn lib stream ↔
    ∃ r ∈ stream.records, (4 < r.1.length ∧ ofBE (r.1.take 4) = 0) ∧ lib.createFromAutoDetect (r.1.drop 4) = doc := by
  simp only [bundlesIn, List.mem_map, List.mem_filter, decide_eq_true_eq, and_assoc]

/-- Every processing so far was a sound one, the keys are those of the last one, and a private key
comes with its public key. -/
structure Accounted : Prop where
  sound : ∀ a ∈ s.attempts, a.Sound lib
  keys : s.mReceiveKeys ≠ [] → ∃ earlier a, s.attempts = earlier ++ [a] ∧ a.after.mReceiveKeys ≠ [] ∧
    s.mReceiveKeys.map Prod.fst = a.after.mReceiveKeys.map Prod.fst
  paired : s.mReceiveDecodingPrivateKey.isSome = true → s.mReceiveDecodingPublicKey ≠ none

variable {lib s}

variable {s' : MLSChannel η Pri Pub}

theorem Accounted.same (h : Accounted lib s) (hattempts : s'.attempts = s.attempts)
    (hkeys : s'.mReceiveKeys.map Prod.fst = s.mReceiveKeys.map Prod.fst)
    (hpaired : s'.mReceiveDecodingPrivateKey.isSome = true → s'.mReceiveDecodingPublicKey ≠ none) :
    Accounted lib s' := by
  refine ⟨hattempts ▸ h.sound, ?_, hpaired⟩
  intro hsome
  have hsome' : s.mReceiveKeys ≠ [] := by
    intro hnil
    rw [hnil] at hkeys
    exact hsome (List.map_eq_nil_iff.mp hkeys)
  obtain ⟨earlier, a, hlast, hstored, hsame⟩ := h.keys hsome'
  exact ⟨earlier, a, hattempts.trans hlast, hstored, hkeys.trans hsame⟩

theorem Accounted.cancel (h : Accounted lib s) : Accounted lib s.cancel := h.same rfl rfl (fun hsome => absurd hsome (by simp [MLSChannel.cancel]))

theorem Accounted.setError (h : Accounted lib s) (errorCode : UInt16) (reason : String) :
    Accounted lib (s.setError errorCode reason) := by
  unfold MLSChannel.setError
  split
  · exact h
  · exact h.same rfl rfl h.paired

theorem Accounted.of_receiving (h : Accounted lib s) (hsame : s'.receiving = s.receiving) :
    Accounted lib s' := by
  have hattempts : s'.attempts = s.attempts := (congrArg MLSChannel.attempts hsame :)
  have hkeys : s'.mReceiveKeys = s.mReceiveKeys := (congrArg (fun s => s.mReceiveKeys) hsame :)
  have hprivate : s'.mReceiveDecodingPrivateKey = s.mReceiveDecodingPrivateKey :=
    (congrArg (fun s => s.mReceiveDecodingPrivateKey) hsame :)
  have hpublic : s'.mReceiveDecodingPublicKey = s.mReceiveDecodingPublicKey :=
    (congrArg (fun s => s.mReceiveDecodingPublicKey) hsame :)
  refine h.same hattempts (by rw [hkeys]) ?_
  rw [hprivate, hpublic]
  exact h.paired

variable {tick : Time} {r : Bool × Bool × MLSChannel η Pri Pub}

theorem Processed.paired (h : Processed lib s tick doc r)
    (hpaired : s.mReceiveDecodingPrivateKey.isSome = true → s.mReceiveDecodingPublicKey ≠ none) :
    r.2.2.attempts = s.attempts ∧
      (r.2.2.mReceiveDecodingPrivateKey.isSome = true → r.2.2.mReceiveDecodingPublicKey ≠ none) ∧
      (r.1 = true → r.2.2.mReceiveKeyingSignedDoc = none ∧ r.2.2.mReceiveStreamEncoded = s.mReceiveStreamEncoded) := by
  cases h with
  | refused context type fingerprint errorCode reason hcode =>
    refine ⟨setError_attempts _ errorCode reason, fun hsome => absurd hsome (by simp [MLSChannel.cancel]), ?_⟩
    exact fun h => absurd h Bool.false_ne_true
  | waits => exact ⟨rfl, hpaired, fun h => absurd h Bool.false_ne_true⟩
  | badState => exact ⟨rfl, hpaired, fun h => absurd h Bool.false_ne_true⟩
  | accepted => exact ⟨rfl, hpaired, fun _ => ⟨rfl, rfl⟩⟩

theorem Accounted.process (h : Accounted lib s) {turns : Nat} {keying : Option (List UInt8)}
    (hprocess : stepProcessReceiveKeying lib turns tick s keying = some r)
    (hknown : KnownEncoding (documentFor lib s keying)) :
    Accounted lib r.2.2 ∧ (r.1 = true → r.2.2.mReceiveKeyingSignedDoc = none ∧ r.2.2.mReceiveStreamEncoded = s.mReceiveStreamEncoded) := by
  obtain ⟨q, hq, rfl⟩ := stepProcessReceiveKeying_processed lib s hprocess
  obtain ⟨hattempts, hpaired, hgoes⟩ := hq.paired h.paired
  have hsound := hq.sound lib s h.paired hknown
  refine ⟨⟨?_, ?_, hpaired⟩, hgoes⟩
  · intro a ha
    rcases List.mem_append.mp ha with ha | ha
    · rw [hattempts] at ha
      exact h.sound a ha
    · rw [List.mem_singleton.mp ha]
      exact hsound
  · intro hsome
    exact ⟨q.2.2.attempts, _, rfl, hsome, rfl⟩

section Run

variable {turns : Nat}

theorem bundlesIn_readBuffer {stream rest : TransportStream η} {record : List UInt8 × Option η}
    (hread : stream.readBuffer = (some record, rest)) (hknown : ∀ doc ∈ bundlesIn lib stream, KnownEncoding doc) :
    ∀ doc ∈ bundlesIn lib rest, KnownEncoding doc := by
  intro doc hdoc
  obtain ⟨r, hr, hkeying⟩ := (mem_bundlesIn lib).mp hdoc
  have hrecords := TransportStream.records_of_readBuffer hread
  exact hknown doc ((mem_bundlesIn lib).mpr ⟨r, hrecords ▸ List.mem_cons_of_mem _ hr, hkeying⟩)

theorem accounted_rule : ReceiveRule lib turns
    (fun s : MLSChannel η Pri Pub => Accounted lib s ∧ s.mReceiveKeyingSignedDoc = none ∧
      ∀ doc ∈ bundlesIn lib s.mReceiveStreamEncoded, KnownEncoding doc)
    (fun r => Accounted lib r.2) where
  ends _ h := h.1
  waits _ h := h.1.same rfl rfl h.1.paired
  fails s _ _ _ errorCode reason h _ _ :=
    ((h.1.same rfl rfl h.1.paired : Accounted lib (s.takeBuffer _ _)).setError errorCode reason).cancel
  delivers s streamBuffer streamHeader stream output keys h hread hdecode := by
    obtain ⟨haccounted, hnone, hknown⟩ := h
    obtain ⟨-, key, -, -, -, -, hkeys⟩ := decodeBuffer_plain lib.toCrypto hdecode
    have hindexes : keys.map Prod.fst = s.mReceiveKeys.map Prod.fst := by rw [hkeys, KeyMap.update_indexes]
    exact ⟨haccounted.same rfl hindexes haccounted.paired, hnone, bundlesIn_readBuffer hread hknown⟩
  processes s streamBuffer streamHeader stream tick r h hread hdecode hprocess := by
    obtain ⟨haccounted, hnone, hknown⟩ := h
    have htaken : Accounted lib (s.takeBuffer streamBuffer stream) := haccounted.same rfl rfl haccounted.paired
    have hmem : (streamBuffer, streamHeader) ∈ s.mReceiveStreamEncoded.records :=
      TransportStream.records_of_readBuffer hread ▸ List.mem_cons_self
    have hfor : KnownEncoding (documentFor lib (s.takeBuffer streamBuffer stream) (some streamBuffer)) := by
      simp only [documentFor, takeBuffer, hnone, Option.getD_some]
      exact hknown _ ((mem_bundlesIn lib).mpr ⟨_, hmem, decodeBuffer_keying lib.toCrypto hdecode, rfl⟩)
    obtain ⟨hafter, hgoes⟩ := htaken.process hprocess hfor
    refine ⟨fun htrue => ?_, fun _ => hafter⟩
    obtain ⟨hdoc, hstream⟩ := hgoes htrue
    exact ⟨hafter, hdoc, hstream ▸ bundlesIn_readBuffer hread hknown⟩

theorem stepReceive_accounted (tick : Nat → Time) (h : Accounted lib s) (hknown : ∀ doc ∈ bundlesAt lib s, KnownEncoding doc)
    {r : Bool × MLSChannel η Pri Pub} (hreceive : stepReceive lib turns tick s = some r) : Accounted lib r.2 := by
  have hstream : ∀ doc ∈ bundlesIn lib s.mReceiveStreamEncoded, KnownEncoding doc := fun doc hdoc =>
    hknown doc (List.mem_append_right _ hdoc)
  refine accounted_rule.stepReceive tick h (h.same rfl rfl h.paired) (fun hnone => ⟨h, hnone, hstream⟩) ?_ hreceive
  intro tick r hsome hprocess
  obtain ⟨doc, hdoc⟩ := Option.isSome_iff_exists.mp hsome
  have hfor : KnownEncoding (documentFor lib s none) := by
    simp only [documentFor, hdoc]
    exact hknown doc (List.mem_append_left _ (by simp [hdoc]))
  obtain ⟨hafter, hgoes⟩ := h.process hprocess hfor
  refine ⟨fun htrue => ?_, fun _ => hafter⟩
  obtain ⟨hnone, hsame⟩ := hgoes htrue
  exact ⟨hafter, hnone, hsame ▸ hstream⟩

theorem step_accounted (input : StepInput) (h : Accounted lib s) (hknown : ∀ doc ∈ bundlesAt lib s, KnownEncoding doc)
    {s' : MLSChannel η Pri Pub} (hstep : s.step lib turns input = some s') : Accounted lib s' := by
  unfold step at hstep
  split at hstep
  · cases hstep
    exact h.cancel
  · obtain ⟨r, hreceive, rfl⟩ := Option.map_eq_some_iff.mp hstep
    have hafter := stepReceive_accounted input.tick h hknown hreceive
    split
    · rcases stepAfterReceive_receiving lib r.2 input with ⟨hsame, -⟩ | ⟨errorCode, reason, -, hcancelled⟩
      · exact hafter.of_receiving hsame
      · rw [hcancelled]
        exact (hafter.setError errorCode reason).cancel
    · exact hafter

theorem create_accounted (receiveStreamEncoded receiveStreamDecoded sendStreamDecoded sendStreamEncoded : TransportStream η)
    (contextID : String) : Accounted lib
      (create receiveStreamEncoded receiveStreamDecoded sendStreamDecoded sendStreamEncoded contextID : MLSChannel η Pri Pub) :=
  ⟨by simp [create], fun h => absurd rfl h, by simp [create, ReceiveKeying.initial]⟩

variable [DecidableEq Pri] [DecidableEq Pub]

theorem handle_accounted (e : MLSEvent η Pri Pub) (h : Accounted lib s) (hknown : ∀ doc ∈ bundlesAt lib s, KnownEncoding doc)
    {s' : MLSChannel η Pri Pub} (hhandle : s.handle lib turns e = some s') : Accounted lib s' := by
  cases handle_handled lib s hhandle with
  | configured _ hset =>
    cases hset with
    | same => exact h
    | set _ _ _ privateKey publicKey _ _ _ _ hpair =>
      refine h.same rfl rfl ?_
      rcases hpair with ⟨hprivate, hpublic⟩ | hpublic
      · intro hsome
        exact hpublic ▸ h.paired (hprivate ▸ hsome)
      · exact fun _ => hpublic
  | signed id signatureEl => exact h.same rfl rfl h.paired
  | notified =>
    unfold notifySendKeyingMaterialSigned
    split
    · exact h
    · exact h.same rfl rfl h.paired
  | cancelled => exact h.cancel
  | stepped _ input hstep => exact step_accounted input h hknown hstep
  | receiveReady input hstep =>
    have hready : Accounted lib s.onReceiveStreamDecodedReady := h.same rfl rfl h.paired
    refine step_accounted input hready ?_ hstep
    simpa [bundlesAt, bundlesIn, onReceiveStreamDecodedReady] using hknown
  | sendReady input hstep =>
    have hready : Accounted lib s.onSendStreamEncodedReady := h.same rfl rfl h.paired
    exact step_accounted input hready hknown hstep
  | receiveEncoded stream => exact h.same rfl rfl h.paired
  | receiveDecoded stream => exact h.same rfl rfl h.paired
  | sendDecoded stream => exact h.same rfl rfl h.paired
  | sendEncoded stream => exact h.same rfl rfl h.paired

/-- The bundles that the channel may come to process have known encodings. -/
def OffersKnown (lib : Libraries Pri Pub) (s : Option (MLSChannel η Pri Pub)) (_ : MLSEvent η Pri Pub) : Prop :=
  ∀ doc ∈ s.elim [] (bundlesAt lib), KnownEncoding doc

instance (lib : Libraries Pri Pub) (s : Option (MLSChannel η Pri Pub)) (e : MLSEvent η Pri Pub) : Decidable (OffersKnown lib s e) :=
  inferInstanceAs (Decidable (∀ doc ∈ s.elim [] (bundlesAt lib), KnownEncoding doc))

/-- Keys in use come from an authenticated bundle, and so did the keys of every processing that stored
some; every other processing ended with an error or with the bundle put aside. -/
structure KeysAuthentic (lib : Libraries Pri Pub) (s : MLSChannel η Pri Pub) : Prop where
  keys : s.mReceiveKeys ≠ [] → ∃ earlier a, s.attempts = earlier ++ [a] ∧ Authentic lib a.tick a.before a.doc ∧
    s.mReceiveKeys.map Prod.fst = a.after.mReceiveKeys.map Prod.fst
  attempts : ∀ a ∈ s.attempts, a.Sound lib

end Run

end MLSChannel

/-- A bundle with one key, and what the libraries make of its parts. -/
structure SignedSample where
  encodingEl : Element
  encodingText : String
  algorithms : List Element
  algorithmsText : String
  /-- The inputs of the key: their salts and values as text, and the values as bytes. -/
  secret : String × String
  secretBytes : List UInt8
  iv : String × String
  ivBytes : List UInt8
  hmacIntegrityKey : String × String
  hmacIntegrityKeyBytes : List UInt8
  /-- The key the inputs are encrypted under. -/
  key : List UInt8
  digestValue : String
  digest : List UInt8
  digestSigned : String
  signature : List UInt8

namespace SignedSample

variable (sample : SignedSample)

def keyingEl : Element :=
  (parentOf "keying"
    [parentOf "algorithms" sample.algorithms, createElementWithText "context" "peer", sample.encodingEl,
      createElementWithText "expires" "4102444800",
      parentOf "keys"
        [parentOf "key"
          [createElementWithText "algorithm" defaultCryptoAlgorithm, createElementWithText "index" "1",
            parentOf "inputs"
              [createElementWithText "hmacIntegrityKey" (sample.hmacIntegrityKey.1 ++ ":" ++ sample.hmacIntegrityKey.2),
                createElementWithText "iv" (sample.iv.1 ++ ":" ++ sample.iv.2),
                createElementWithText "secret" (sample.secret.1 ++ ":" ++ sample.secret.2)]]],
      createElementWithText "nonce" "n0", createElementWithText "sequence" "0"]).setAttribute "id" "k1"

def doc : Document :=
  [.element (parentOf "keyingBundle"
    [sample.keyingEl,
      parentOf "signature"
        [createElementWithText "algorithm" jsonSignatureAlgorithm, createElementWithText "digestSigned" sample.digestSigned,
          createElementWithText "digestValue" sample.digestValue, createElementWithText "reference" "#k1"]])]

/-- The keying element as JSON; its children are in canonical order. -/
def keyingText : String :=
  "\"keying\":\x7b\"$id\":\"k1\",\"algorithms\":\x7b\"algorithm\":" ++ sample.algorithmsText ++
  "\x7d,\"context\":\"peer\",\"encoding\":\x7b" ++ sample.encodingText ++
  "\x7d,\"expires\":4102444800,\"keys\":\x7b\"key\":\x7b\"algorithm\":\"" ++ defaultCryptoAlgorithm ++
  "\",\"index\":1,\"inputs\":\x7b\"hmacIntegrityKey\":\"" ++ sample.hmacIntegrityKey.1 ++ ":" ++
  sample.hmacIntegrityKey.2 ++ "\",\"iv\":\"" ++ sample.iv.1 ++ ":" ++ sample.iv.2 ++ "\",\"secret\":\"" ++
  sample.secret.1 ++ ":" ++ sample.secret.2 ++ "\"\x7d\x7d\x7d,\"nonce\":\"n0\",\"sequence\":0\x7d"

def text : String :=
  "\x7b\"keyingBundle\":\x7b" ++ sample.keyingText ++ ",\"signature\":\x7b\"algorithm\":\"" ++
  jsonSignatureAlgorithm ++ "\",\"digestSigned\":\"" ++ sample.digestSigned ++ "\",\"digestValue\":\"" ++
  sample.digestValue ++ "\",\"reference\":\"#k1\"\x7d\x7d\x7d"

/-- Libraries that agree with the real ones on the bundle. -/
def libraries : Libraries Unit Unit where
  encrypt _ _ buffer := buffer
  decrypt _ iv _ := if iv = List.replicate 16 1 then List.replicate 32 7 else if iv = List.replicate 16 2 then List.replicate 16 9 else [97, 98, 99]
  hash _ := sample.digest
  hmac _ _ := [227, 9, 217, 47, 54, 23, 21, 237, 85, 139, 101, 55, 222, 21, 56, 152, 255, 2, 23, 184]
  getHashDigestSize := 20
  hashMD5 _ := []
  hashSHA256 _ := []
  hmacSHA256 _ _ := sample.key
  convertFromHex salt := if salt = sample.secret.1 then List.replicate 16 1 else if salt = sample.iv.1 then List.replicate 16 2 else List.replicate 16 3
  convertToBase64 _ := ""
  convertFromBase64 value :=
    if value = sample.digestValue then sample.digest else if value = sample.digestSigned then sample.signature
    else if value = sample.secret.2 then sample.secretBytes else if value = sample.iv.2 then sample.ivBytes
    else sample.hmacIntegrityKeyBytes
  numeric := Numeric.unsigned (2 ^ 32)
  ulongBound := 2 ^ 32
  getFingerprint _ := ""
  verify _ digest signature := digest = sample.digest && signature = sample.signature
  encryptRSA _ _ buffer := buffer
  decryptRSA _ _ := none
  createFromAutoDetect _ := sample.doc
  writeDocument _ := utf8 sample.text
  writeElement _ := utf8 ("\x7b" ++ sample.keyingText ++ "\x7d")

/-- At noon of a day in 2023; nothing is sent. -/
def noon : StepInput := ⟨fun _ => .at 1700000000000000, .at 1700000000000000, ⟨"", fun _ => ⟨"", [], [], [], [], []⟩⟩, fun _ => 0⟩

def fresh : MLSChannel Unit Unit Unit := MLSChannel.create .create .create .create .create ""

/-- The signing key becomes known and the bundle comes in. -/
def received : List (MLSEvent Unit Unit Unit) :=
  [.setReceiveKeyingMaterialSigningPublicKey (),
    .receiveStreamEncoded (TransportStream.create.write (toBE 4 0 ++ utf8 sample.text) none), .onReceiveStreamDecodedReady noon]

end SignedSample

/-- A bundle that proves the passphrase "secret". -/
def passphraseSample : SignedSample where
  encodingEl := parentOf "encoding"
      [createElementWithText "algorithm" defaultCryptoAlgorithm,
        createElementWithText "proof" "e309d92f361715ed558b6537de153898ff0217b8",
        createElementWithText "type" "passphrase"]
  encodingText := "\"algorithm\":\"" ++ defaultCryptoAlgorithm ++
    "\",\"proof\":\"e309d92f361715ed558b6537de153898ff0217b8\",\"type\":\"passphrase\""
  algorithms := [createElementWithText "algorithm" defaultCryptoAlgorithm]
  algorithmsText := "\"" ++ defaultCryptoAlgorithm ++ "\""
  secret := ("01010101010101010101010101010101", "q72/OOKCHEMQNm3M6o/Gs5hwW6v+TZYGGzphEHyYDXc=")
  secretBytes := [171, 189, 191, 56, 226, 130, 28, 67, 16, 54, 109, 204, 234, 143, 198, 179, 152, 112, 91, 171, 254, 77, 150,
    6, 27, 58, 97, 16, 124, 152, 13, 119]
  iv := ("02020202020202020202020202020202", "5A6fxj/K1ZfuG7SItbyaMg==")
  ivBytes := [228, 14, 159, 198, 63, 202, 213, 151, 238, 27, 180, 136, 181, 188, 154, 50]
  hmacIntegrityKey := ("03030303030303030303030303030303", "L/ey")
  hmacIntegrityKeyBytes := [47, 247, 178]
  key := [203, 242, 144, 229, 60, 151, 123, 149, 153, 0, 238, 74, 39, 162, 197, 100, 192, 173, 58, 223, 100, 112,
    129, 93, 127, 68, 201, 125, 124, 133, 241, 124]
  digestValue := "tR7ILrqMI4nFc73wPvhusX3wqgo="
  digest := [181, 30, 200, 46, 186, 140, 35, 137, 197, 115, 189, 240, 62, 248, 110, 177, 125, 240, 170, 10]
  digestSigned :=
    "cgMlb4CGCd5VC4NAIYxgr1BLx1PakM0G2+Kh1WaR/dhjPyqlMMIcXXLS2HTFEuJ042RwcfqIIvfWNKi5Fb/lRw=="
  signature := [114, 3, 37, 111, 128, 134, 9, 222, 85, 11, 131, 64, 33, 140, 96, 175, 80, 75, 199, 83, 218, 144, 205, 6,
    219, 226, 161, 213, 102, 145, 253, 216, 99, 63, 42, 165, 48, 194, 28, 93, 114, 210, 216, 116, 197, 18, 226,
    116, 227, 100, 112, 113, 250, 136, 34, 247, 214, 52, 168, 185, 21, 191, 229, 71]

/-- A bundle of another type, with its key encoded for no passphrase. -/
def untypedSample : SignedSample where
  encodingEl := parentOf "encoding" [createElementWithText "type" "none"]
  encodingText := "\"type\":\"none\""
  algorithms := [createElementWithText "algorithm" defaultCryptoAlgorithm]
  algorithmsText := "\"" ++ defaultCryptoAlgorithm ++ "\""
  secret := ("01010101010101010101010101010101", "ZAUKrkOyfnK+niNc4H5xVUlmH/Fu293Rj/zpyODIJdc=")
  secretBytes := [100, 5, 10, 174, 67, 178, 126, 114, 190, 158, 35, 92, 224, 126, 113, 85, 73, 102, 31, 241, 110, 219, 221,
    209, 143, 252, 233, 200, 224, 200, 37, 215]
  iv := ("02020202020202020202020202020202", "0bqJOWu8M1aop4oqif3T0g==")
  ivBytes := [209, 186, 137, 57, 107, 188, 51, 86, 168, 167, 138, 42, 137, 253, 211, 210]
  hmacIntegrityKey := ("03030303030303030303030303030303", "oHfW")
  hmacIntegrityKeyBytes := [160, 119, 214]
  key := [186, 242, 142, 190, 168, 232, 233, 194, 142, 120, 66, 79, 30, 122, 174, 107, 19, 93, 194, 47, 107, 253,
    163, 121, 15, 239, 104, 95, 197, 165, 183, 114]
  digestValue := "UYj983R+tIZhTbSZlZP51OwQ2Fg="
  digest := [81, 136, 253, 243, 116, 126, 180, 134, 97, 77, 180, 153, 149, 147, 249, 212, 236, 16, 216, 88]
  digestSigned :=
    "s6aZGeopjVfwYqGXOIMbP/Xcc1yQ82PO/YYpxLx/AGLdGz+ORgQxdeOg9jpBi1guTHFzau/617XpFzmcrKpRAg=="
  signature := [179, 166, 153, 25, 234, 41, 141, 87, 240, 98, 161, 151, 56, 131, 27, 63, 245, 220, 115, 92, 144, 243, 99,
    206, 253, 134, 41, 196, 188, 127, 0, 98, 221, 27, 63, 142, 70, 4, 49, 117, 227, 160, 246, 58, 65, 139, 88,
    46, 76, 113, 115, 106, 239, 250, 215, 181, 233, 23, 57, 156, 172, 170, 81, 2]

namespace SignedSample

open MLSChannel

end SignedSample

end OpenPeer
