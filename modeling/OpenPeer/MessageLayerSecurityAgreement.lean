import Mathlib.Data.List.TakeWhile
import OpenPeer.MessageLayerSecurityReplay

/-!
# Keys that agree

A bundle that a channel wrote, read back by another channel that accepts it: the keys it
stores are keys of the offer, each under the index it was offered under.
-/
namespace OpenPeer

open Bytes Xml

section Laws

variable {Pri Pub : Type} (lib : Libraries Pri Pub)

/-- What the channels rely on beside the cipher: the sizes of the digests, and that text, numbers and
bytes are read back as they were written. -/
structure Libraries.Laws : Prop extends lib.toCrypto.Laws where
  length_hash : ∀ buffer, (lib.hash buffer).length = lib.getHashDigestSize
  length_hashMD5 : ∀ buffer, (lib.hashMD5 buffer).length ≠ lib.getHashDigestSize
  convertFromHex_hexText : ∀ bytes, lib.convertFromHex (hexText bytes) = bytes
  convertFromBase64_convertToBase64 : ∀ bytes, lib.convertFromBase64 (lib.convertToBase64 bytes) = bytes
  colon_notMem_convertToBase64 : ∀ bytes, ':' ∉ (lib.convertToBase64 bytes).toList
  numeric_toString : ∀ n < lib.ulongBound, lib.numeric (toString n) = some n
  ulongBound : defaultTotalSendKeys < lib.ulongBound

variable {lib}

theorem Libraries.Laws.hexText_inj (hlaws : lib.Laws) {as bs : List UInt8} (h : hexText as = hexText bs) : as = bs := by
  rw [← hlaws.convertFromHex_hexText as, h, hlaws.convertFromHex_hexText]

theorem eq_of_ofNat_eq_colon : ∀ n < 256, Char.ofNat n = ':' → n = 58 := by
  decide +kernel

theorem colon_notMem_hexText (bytes : List UInt8) : ':' ∉ (hexText bytes).toList := by
  intro hmem
  rw [hexText, String.toList_ofList] at hmem
  obtain ⟨b, hb, hchar⟩ := List.mem_map.mp hmem
  have hb' : b = 58 := UInt8.toNat_inj.mp (eq_of_ofNat_eq_colon b.toNat b.toNat_lt hchar)
  exact colon_notMem_convertToHex bytes (hb' ▸ hb)

theorem hexText_eq_empty {bytes : List UInt8} : (hexText bytes).toList = [] ↔ bytes = [] := by
  cases bytes with
  | nil => simp [hexText, convertToHex]
  | cons b bytes => simp [hexText]

theorem split_fields (salt : List UInt8) {value : String} (h : ':' ∉ value.toList) :
    Helper.split (hexText salt ++ ":" ++ value) ':' = if salt = [] then [value] else [hexText salt, value] := by
  have htext : (hexText salt ++ ":" ++ value).toList = (hexText salt).toList ++ ':' :: value.toList := by simp
  have hne : hexText salt ++ ":" ++ value ≠ "" := by
    intro hempty
    have hnil := htext.symm.trans (congrArg String.toList hempty)
    simp at hnil
  rw [Helper.split, if_neg hne, htext, List.splitOn_append_cons_self_of_not_mem (colon_notMem_hexText salt), List.splitOn_eq_singleton h]
  by_cases hsalt : salt = []
  · simp [hsalt, hexText_eq_empty.mpr rfl]
  · have hkeep : (hexText salt).toList ≠ [] := fun hnil => hsalt (hexText_eq_empty.mp hnil)
    simp [hsalt, hkeep]

theorem decrypt_encode (hlaws : lib.Laws) {passphrase passphrase' nonce : String}
    (hkey : passphraseKey lib passphrase' nonce = passphraseKey lib passphrase nonce) (salt value : List UInt8) :
    decryptUsingPassphraseEncoding lib passphrase' nonce (encodeUsingPassphraseEncoding lib passphrase nonce salt value) =
      if salt = [] then none else some value := by
  have hcolon := hlaws.colon_notMem_convertToBase64 (lib.encrypt (passphraseKey lib passphrase nonce) salt value)
  rw [decryptUsingPassphraseEncoding, encodeUsingPassphraseEncoding, split_fields salt hcolon]
  by_cases hsalt : salt = []
  · simp [hsalt]
  · simp [hsalt, hkey, hlaws.convertFromHex_hexText, hlaws.convertFromBase64_convertToBase64, hlaws.decrypt_encrypt]

end Laws

section Decoding

variable {Pri Pub : Type} {lib : Libraries Pri Pub} {k : ReceiveKeying Pri Pub} {nonce : String} {encoding : SendEncoding Pub}

/-- The receiver takes no secret of its own for that of the sender: not a passphrase with the same proof, nor a private key with
which something else is decrypted than was encrypted. -/
structure Distinguishes (lib : Libraries Pri Pub) (k : ReceiveKeying Pri Pub) (nonce : String) (encoding : SendEncoding Pub) : Prop where
  passphrase : ∀ passphrase, encoding = .passphrase passphrase →
    lib.hmac (hmacKeyFromPassphrase k.mReceivingDecodingPassphrase) (utf8 ("keying:" ++ nonce)) =
      lib.hmac (hmacKeyFromPassphrase passphrase) (utf8 ("keying:" ++ nonce)) →
    hmacKeyFromPassphrase k.mReceivingDecodingPassphrase = hmacKeyFromPassphrase passphrase
  privateKey : ∀ key privateKey, encoding = .publicKey key → k.mReceiveDecodingPrivateKey = some privateKey →
    ∀ random buffer found, lib.decryptRSA privateKey (lib.encryptRSA key random buffer) = some found → found = buffer

/-- Every input is decrypted to the value it encodes, if to any. -/
def DecryptsInputs (lib : Libraries Pri Pub) (k : ReceiveKeying Pri Pub) (nonce : String) (encoding : SendEncoding Pub) : Prop :=
  ∀ salt value found, ReceiveKeying.decryptInput lib k nonce (encodeInput lib nonce salt value encoding) = some found → found = value

/-- What is asked of the encoding is met only by the secret it was made with. -/
theorem decryptsInputs (hlaws : lib.Laws) (hdistinct : Distinguishes lib k nonce encoding)
    (hmatches : EncodingMatches lib k nonce (encodingElement lib nonce encoding))
    (hdecodes : Decodes (encodingElement lib nonce encoding) k.mReceiveDecodingType) : DecryptsInputs lib k nonce encoding := by
  intro salt value found hfound
  cases encoding with
  | passphrase passphrase =>
    have htype : checkedText (encodingElement lib nonce (.passphrase passphrase)) "type" = some "passphrase" := by
      simp [checkedText, encodingElement]
    have hproves : ProvesPassphrase lib k nonce (encodingElement lib nonce (.passphrase passphrase)) := by
      rcases hmatches with hkey | hproves
      · exact absurd (Option.some.inj (htype.symm.trans hkey.type)) (by decide)
      · exact hproves
    have hproof : checkedText (encodingElement lib nonce (.passphrase passphrase)) "proof" =
        some (calculatedProof lib passphrase nonce) := by
      simp [checkedText, encodingElement]
    have hsame := hlaws.hexText_inj (Option.some.inj (hproof.symm.trans hproves.proof))
    have hkeys := hdistinct.passphrase passphrase rfl hsame.symm
    have hkey : passphraseKey lib k.mReceivingDecodingPassphrase nonce = passphraseKey lib passphrase nonce := by
      rw [passphraseKey, hkeys, passphraseKey]
    simp only [ReceiveKeying.decryptInput, hdecodes.passphrase htype, encodeInput, decrypt_encode hlaws hkey, reduceCtorEq, if_false] at hfound
    split at hfound
    · cases hfound
    · exact (Option.some.inj hfound).symm
  | publicKey key =>
    have htype : checkedText (encodingElement lib nonce (.publicKey key)) "type" = some "pki" := by
      simp [checkedText, encodingElement]
    have hmade : MadeForKey lib k (encodingElement lib nonce (.publicKey key)) := by
      rcases hmatches with hmade | hproves
      · exact hmade
      · exact absurd (Option.some.inj (htype.symm.trans hproves.type)) (by decide)
    obtain ⟨privateKey, hprivate⟩ := Option.isSome_iff_exists.mp hmade.privateKey
    simp only [ReceiveKeying.decryptInput, hdecodes.privateKey htype, encodeInput, hprivate, if_true, Option.bind_some,
      hlaws.convertFromBase64_convertToBase64] at hfound
    exact hdistinct.privateKey key privateKey rfl hprivate salt value found hfound

theorem not_otherEncoding : ¬OtherEncoding (encodingElement lib nonce encoding) := by
  rintro ⟨type, htype, hpki, hpassphrase⟩
  cases encoding with
  | passphrase passphrase =>
    simp [checkedText, encodingElement] at htype
    exact hpassphrase htype.symm
  | publicKey key =>
    simp [checkedText, encodingElement] at htype
    exact hpki htype.symm

theorem convertToString_convertToBuffer (input : String) : convertToString (convertToBuffer input) = convertToBuffer input :=
  List.takeWhile_idem ..

/-- A key of a bundle is skipped or read as it was offered. -/
theorem decodeKey_keyElement (hlaws : lib.Laws) (hinputs : DecryptsInputs lib k nonce encoding) {index : Nat} (hindex : index ∈ sendIndexes)
    (drawn : DrawnKey) : ReceiveKeying.decodeKey lib k nonce (keyElement lib nonce encoding index drawn) = some none ∨
      ReceiveKeying.decodeKey lib k nonce (keyElement lib nonce encoding index drawn) = some (some (index, drawn.keyInfo lib)) := by
  have hrange := List.mem_range'_1.mp hindex
  have hbound := hlaws.ulongBound
  have hnumeric : lib.numeric index.repr = some index := hlaws.numeric_toString index (by omega)
  have hpositive : index ≠ 0 := by omega
  have hread : ReceiveKeying.decodeKey lib k nonce (keyElement lib nonce encoding index drawn) =
      some ((ReceiveKeying.keyOf lib k nonce (encodeInput lib nonce drawn.saltOfSecret (drawn.keyInfo lib).mSendKey encoding)
        (encodeInput lib nonce drawn.saltOfIV (drawn.keyInfo lib).mNextIV encoding)
        (encodeInput lib nonce drawn.saltOfIntegrityKey (drawn.keyInfo lib).mIntegrityPassphrase encoding)).map fun key => (index, key)) := by
    simp [ReceiveKeying.decodeKey, checkedText, keyElement, inputsElement, hnumeric, hpositive]
  rw [hread]
  unfold ReceiveKeying.keyOf
  split
  case h_1 secret iv integrityPassphrase hsecret hiv hintegrity =>
    split
    · exact .inl rfl
    · right
      rw [hinputs _ _ _ hsecret, hinputs _ _ _ hiv, hinputs _ _ _ hintegrity]
      simp [DrawnKey.keyInfo, convertToString_convertToBuffer]
  case h_2 => exact .inl rfl

theorem keyLoop_offered (hlaws : lib.Laws) (hinputs : DecryptsInputs lib k nonce encoding) (key : Nat → DrawnKey) {indexes : List Nat}
    (hindexes : ∀ index ∈ indexes, index ∈ sendIndexes) (keys : KeyMap) :
    ∀ e ∈ ReceiveKeying.keyLoop lib k nonce (indexes.map fun index => keyElement lib nonce encoding index (key index)) keys,
      e ∈ keys ∨ ∃ index ∈ indexes, e = (index, (key index).keyInfo lib) := by
  induction indexes generalizing keys with
  | nil => exact fun e he => .inl he
  | cons index indexes ih =>
    intro e he
    have hrest := fun i hi => hindexes i (List.mem_cons_of_mem _ hi)
    rw [List.map_cons, ReceiveKeying.keyLoop] at he
    rcases decodeKey_keyElement hlaws hinputs (hindexes index List.mem_cons_self) (key index) with hskipped | hread
    · simp only [hskipped] at he
      rcases ih hrest keys e he with hkeys | ⟨i, hi, hsame⟩
      · exact .inl hkeys
      · exact .inr ⟨i, List.mem_cons_of_mem _ hi, hsame⟩
    · simp only [hread] at he
      rcases ih hrest _ e he with hput | ⟨i, hi, hsame⟩
      · rcases Keyed.mem_put hput with rfl | hkeys
        · exact .inr ⟨index, List.mem_cons_self, rfl⟩
        · exact .inl hkeys
      · exact .inr ⟨i, List.mem_cons_of_mem _ hi, hsame⟩

theorem KeyMap.mem_of_find {keys : KeyMap} {index : Nat} {key : KeyInfo} (h : keys.find index = some key) : (index, key) ∈ keys := by
  induction keys with
  | nil => cases h
  | cons e keys ih =>
    obtain ⟨j, old⟩ := e
    rw [KeyMap.find_cons] at h
    split at h
    case isTrue hsame =>
      cases h
      exact hsame ▸ List.mem_cons_self
    case isFalse => exact List.mem_cons_of_mem _ (ih h)

theorem extractKeys_offered (hlaws : lib.Laws) {offer : DrawnOffer} (hinputs : DecryptsInputs lib k offer.nonce encoding)
    {keyingEl : Element} (hreads : ReadsKeying lib encoding offer keyingEl) {index : Nat} {key : KeyInfo}
    (hfind : KeyMap.find (ReceiveKeying.extractKeys lib k offer.nonce keyingEl) index = some key) :
    index ∈ sendIndexes ∧ key = (offer.key index).keyInfo lib := by
  have hmem := KeyMap.mem_of_find hfind
  obtain ⟨keysEl, hkeysEl, hchildren⟩ := Option.map_eq_some_iff.mp hreads.keys
  simp only [ReceiveKeying.extractKeys, hkeysEl, hchildren] at hmem
  rcases keyLoop_offered hlaws hinputs offer.key (fun _ h => h) [] _ hmem with hnil | ⟨i, hi, hsame⟩
  · cases hnil
  · obtain ⟨rfl, rfl⟩ := Prod.mk.inj hsame
    exact ⟨hi, rfl⟩

end Decoding

end OpenPeer
