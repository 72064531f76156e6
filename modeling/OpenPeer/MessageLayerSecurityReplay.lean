import OpenPeer.MessageLayerSecurityAuthentication
import OpenPeer.MessageLayerSecuritySending

/-!
# Buffers out of their order

A receiver whose key has come so far along the chain of an index, and any buffer that was
sent under that index. Where no two of the texts that are hashed collide, the buffer is
delivered when it is the next one, and refused when it is any other.
-/
namespace OpenPeer

open Bytes Chain

section Hex

theorem hexDigit_inj : ∀ m < 16, ∀ n < 16, hexDigit m = hexDigit n → m = n := by
  decide

theorem colon_ne_hexDigit : ∀ n < 16, hexDigit n ≠ 58 := by
  decide

@[simp] theorem convertToHex_cons (b : UInt8) (bytes : List UInt8) :
    convertToHex (b :: bytes) = hexDigit (b.toNat / 16) :: hexDigit (b.toNat % 16) :: convertToHex bytes := rfl

theorem convertToHex_inj {as bs : List UInt8} (h : convertToHex as = convertToHex bs) : as = bs := by
  induction as generalizing bs with
  | nil =>
    cases bs with
    | nil => rfl
    | cons b bs => cases h
  | cons a as ih =>
    cases bs with
    | nil => cases h
    | cons b bs =>
      simp only [convertToHex_cons, List.cons.injEq] at h
      obtain ⟨hhigh, hlow, hrest⟩ := h
      have ha := a.toNat_lt
      have hb := b.toNat_lt
      have hdiv := hexDigit_inj _ (by omega) _ (by omega) hhigh
      have hmod := hexDigit_inj _ (Nat.mod_lt _ (by decide)) _ (Nat.mod_lt _ (by decide)) hlow
      have hsame : a = b := UInt8.toNat_inj.mp (by omega)
      rw [hsame, ih hrest]

theorem colon_notMem_convertToHex (bytes : List UInt8) : 58 ∉ convertToHex bytes := by
  induction bytes with
  | nil => exact List.not_mem_nil
  | cons b bytes ih =>
    have hb := b.toNat_lt
    have hhigh := colon_ne_hexDigit (b.toNat / 16) (by omega)
    have hlow := colon_ne_hexDigit (b.toNat % 16) (Nat.mod_lt _ (by decide))
    simp [Ne.symm hhigh, Ne.symm hlow, ih]

/-- Two fields in hex with a colon between them. -/
def fields (as bs : List UInt8) : List UInt8 := convertToHex as ++ ascii ":" ++ convertToHex bs

theorem fields_inj {as bs as' bs' : List UInt8} (h : fields as bs = fields as' bs') : as = as' ∧ bs = bs' := by
  have hsplit : convertToHex as ++ 58 :: convertToHex bs = convertToHex as' ++ 58 :: convertToHex bs' := by
    simpa [fields, ascii] using h
  obtain ⟨hfirst, -, hsecond⟩ := (List.append_cons_inj_of_notMem (colon_notMem_convertToHex as) (colon_notMem_convertToHex bs)).mp hsplit
  exact ⟨convertToHex_inj hfirst, convertToHex_inj hsecond⟩

end Hex

namespace KeyInfo

variable (c : Crypto) (key : KeyInfo) (buffers : List (List UInt8))

/-- What the integrity value of a buffer is made of. -/
def integrityText (buffer : List UInt8) : List UInt8 := ascii "integrity:" ++ fields (c.hash buffer) key.mNextIV

/-- What the next initialisation vector is made of. -/
def vectorText (buffer : List UInt8) : List UInt8 := fields key.mNextIV (key.integrity c buffer)

theorem integrity_eq (buffer : List UInt8) : key.integrity c buffer = c.hmac key.mIntegrityPassphrase (key.integrityText c buffer) := by
  simp [integrity, integrityText, fields]

theorem advance_mNextIV (buffer : List UInt8) : (key.advance c buffer).mNextIV = c.hash (key.vectorText c buffer) := rfl

/-- The key at every stage of its chain. -/
def stages : List KeyInfo := buffers.inits.map (·.foldl (advance c) key)

/-- Every buffer with the key it is sent under. -/
def sendings : List (KeyInfo × List UInt8) := outputs (advance c) Prod.mk key buffers

/-- What a receiver at any stage decrypts of any of the buffers sent. -/
def trials : List (KeyInfo × List UInt8) :=
  (stages c key buffers).flatMap fun stage =>
    (sendings c key buffers).map fun sending =>
      (stage, c.decrypt stage.mSendKey stage.mNextIV (c.encrypt sending.1.mSendKey sending.1.mNextIV sending.2))

/-- The texts that are hashed under an index, by the sender and by a receiver that is given any of the buffers at any stage. -/
def hashedTexts : List (List UInt8) :=
  (trials c key buffers).map Prod.snd ++ (sendings c key buffers).map fun sending => sending.1.vectorText c sending.2

/-- The texts whose keyed hashes are compared. -/
def keyedTexts : List (List UInt8) := (trials c key buffers).map fun trial => trial.1.integrityText c trial.2

/-- No two of these texts collide. -/
structure CollisionFree : Prop where
  hash : ∀ x ∈ hashedTexts c key buffers, ∀ y ∈ hashedTexts c key buffers, c.hash x = c.hash y → x = y
  hmac : ∀ x ∈ keyedTexts c key buffers, ∀ y ∈ keyedTexts c key buffers,
    c.hmac key.mIntegrityPassphrase x = c.hmac key.mIntegrityPassphrase y → x = y

theorem collisionFree_iff : CollisionFree c key buffers ↔
    (∀ x ∈ hashedTexts c key buffers, ∀ y ∈ hashedTexts c key buffers, c.hash x = c.hash y → x = y) ∧
      ∀ x ∈ keyedTexts c key buffers, ∀ y ∈ keyedTexts c key buffers,
        c.hmac key.mIntegrityPassphrase x = c.hmac key.mIntegrityPassphrase y → x = y :=
  ⟨fun h => ⟨h.hash, h.hmac⟩, fun h => ⟨h.1, h.2⟩⟩

instance : Decidable (CollisionFree c key buffers) := decidable_of_iff _ (collisionFree_iff c key buffers).symm

section Texts

variable {c key buffers} {sofar before : List (List UInt8)} {buffer : List UInt8}

theorem mem_sendings (h : before ++ [buffer] <+: buffers) : (before.foldl (advance c) key, buffer) ∈ sendings c key buffers :=
  mem_outputs.mpr ⟨before, buffer, h, rfl⟩

theorem mem_trials (hsofar : sofar <+: buffers) (h : before ++ [buffer] <+: buffers) :
    (sofar.foldl (advance c) key,
      c.decrypt (sofar.foldl (advance c) key).mSendKey (sofar.foldl (advance c) key).mNextIV
        (c.encrypt (before.foldl (advance c) key).mSendKey (before.foldl (advance c) key).mNextIV buffer))
      ∈ trials c key buffers := by
  apply List.mem_flatMap.mpr
  refine ⟨_, List.mem_map.mpr ⟨sofar, (List.mem_inits sofar buffers).mpr hsofar, rfl⟩, ?_⟩
  exact List.mem_map.mpr ⟨_, mem_sendings h, rfl⟩

variable {buffers' : List (List UInt8)}

theorem stages_mono (h : buffers <+: buffers') : ∀ x ∈ stages c key buffers, x ∈ stages c key buffers' := by
  intro x hx
  obtain ⟨sofar, hsofar, rfl⟩ := List.mem_map.mp hx
  exact List.mem_map.mpr ⟨sofar, (List.mem_inits _ _).mpr (((List.mem_inits _ _).mp hsofar).trans h), rfl⟩

theorem sendings_mono (h : buffers <+: buffers') : ∀ x ∈ sendings c key buffers, x ∈ sendings c key buffers' :=
  (outputs_mono key h).subset

theorem trials_mono (h : buffers <+: buffers') : ∀ x ∈ trials c key buffers, x ∈ trials c key buffers' := by
  intro x hx
  obtain ⟨stage, hstage, hx⟩ := List.mem_flatMap.mp hx
  obtain ⟨sending, hsending, rfl⟩ := List.mem_map.mp hx
  exact List.mem_flatMap.mpr ⟨stage, stages_mono h stage hstage, List.mem_map.mpr ⟨sending, sendings_mono h sending hsending, rfl⟩⟩

theorem CollisionFree.mono {buffers' : List (List UInt8)} (h : CollisionFree c key buffers') (hfront : buffers <+: buffers') :
    CollisionFree c key buffers := by
  have hhashed : ∀ x ∈ hashedTexts c key buffers, x ∈ hashedTexts c key buffers' := by
    intro x hx
    rcases List.mem_append.mp hx with hx | hx
    · exact List.mem_append_left _ (List.map_subset _ (trials_mono hfront) hx)
    · exact List.mem_append_right _ (List.map_subset _ (sendings_mono hfront) hx)
  have hkeyed : ∀ x ∈ keyedTexts c key buffers, x ∈ keyedTexts c key buffers' :=
    fun x hx => List.map_subset _ (trials_mono hfront) hx
  exact ⟨fun x hx y hy => h.hash x (hhashed x hx) y (hhashed y hy), fun x hx y hy => h.hmac x (hkeyed x hx) y (hkeyed y hy)⟩

theorem CollisionFree.forward (h : CollisionFree c key buffers) (hhash : ∀ text, (c.hash text).length = c.getHashDigestSize)
    (hfirst : key.mNextIV.length ≠ c.getHashDigestSize) : Forward (advance c) KeyInfo.mNextIV key buffers := by
  constructor
  · intro before buffer _ hsame
    rw [advance_mNextIV] at hsame
    exact hfirst (hsame ▸ hhash _)
  · intro before buffer before' buffer' hfront hfront' hsame
    rw [advance_mNextIV, advance_mNextIV] at hsame
    have hmem : (before.foldl (advance c) key).vectorText c buffer ∈ hashedTexts c key buffers :=
      List.mem_append_right _ (List.mem_map.mpr ⟨_, mem_sendings hfront, rfl⟩)
    have hmem' : (before'.foldl (advance c) key).vectorText c buffer' ∈ hashedTexts c key buffers :=
      List.mem_append_right _ (List.mem_map.mpr ⟨_, mem_sendings hfront', rfl⟩)
    exact (fields_inj (h.hash _ hmem _ hmem' hsame)).1

/-- What passes the integrity check was sent at the stage the receiver is at. -/
theorem CollisionFree.of_integrity (h : CollisionFree c key buffers) (hlaws : c.Laws)
    (hhash : ∀ text, (c.hash text).length = c.getHashDigestSize) (hfirst : key.mNextIV.length ≠ c.getHashDigestSize)
    (hsofar : sofar <+: buffers) (hbefore : before ++ [buffer] <+: buffers) {output : List UInt8}
    (houtput : output = c.decrypt (sofar.foldl (advance c) key).mSendKey (sofar.foldl (advance c) key).mNextIV
      (c.encrypt (before.foldl (advance c) key).mSendKey (before.foldl (advance c) key).mNextIV buffer))
    (hintegrity : (sofar.foldl (advance c) key).integrity c output = (before.foldl (advance c) key).integrity c buffer) :
    sofar = before ∧ output = buffer := by
  have hfront : before <+: buffers := (List.prefix_append before [buffer]).trans hbefore
  have htrial : (sofar.foldl (advance c) key, output) ∈ trials c key buffers := houtput ▸ mem_trials hsofar hbefore
  have hsent : (before.foldl (advance c) key, buffer) ∈ trials c key buffers := by
    rw [← hlaws.decrypt_encrypt (before.foldl (advance c) key).mSendKey (before.foldl (advance c) key).mNextIV buffer]
    exact mem_trials hfront hbefore
  rw [integrity_eq, integrity_eq, (foldl_advance c key sofar).2, (foldl_advance c key before).2] at hintegrity
  have htext := h.hmac _ (List.mem_map.mpr ⟨_, htrial, rfl⟩) _ (List.mem_map.mpr ⟨_, hsent, rfl⟩) hintegrity
  obtain ⟨hdigest, hvector⟩ := fields_inj (List.append_cancel_left htext)
  have hplain : output = buffer := by
    apply h.hash _ _ _ _ hdigest
    · exact List.mem_append_left _ (List.mem_map.mpr ⟨_, htrial, rfl⟩)
    · exact List.mem_append_left _ (List.mem_map.mpr ⟨_, hsent, rfl⟩)
  exact ⟨(h.forward hhash hfirst).eq_of_mark hsofar hfront hvector, hplain⟩

end Texts

end KeyInfo

section Decoding

variable {c : Crypto} {keys : KeyMap} {streamBuffer : List UInt8}

theorem decodeBuffer_failed {errorCode : UInt16} {reason : String} (h : decodeBuffer c keys streamBuffer = .failed errorCode reason) :
    errorCode ≠ 0 := by
  have hunauthorized : unauthorized ≠ 0 := by decide
  have hforbidden : forbidden ≠ 0 := by decide
  unfold decodeBuffer at h
  split at h
  · cases h
    exact hunauthorized
  simp only at h
  split at h
  · cases h
  split at h
  · cases h
    exact hforbidden
  cases hfind : keys.find (ofBE (streamBuffer.take 4)) with
  | none =>
    simp only [hfind] at h
    cases h
    exact hforbidden
  | some key =>
    simp only [hfind] at h
    split at h
    · cases h
      exact hunauthorized
    · split at h
      · cases h
        exact hunauthorized
      · cases h

open KeyInfo

/-- A buffer sent under an index is delivered as it was, where it is the next one. -/
theorem decodeBuffer_sent {key : KeyInfo} {buffers sofar before : List (List UInt8)} {buffer output : List UInt8} {keys' : KeyMap}
    {index : Nat} (hfree : CollisionFree c key buffers) (hlaws : c.Laws)
    (hhash : ∀ text, (c.hash text).length = c.getHashDigestSize) (hfirst : key.mNextIV.length ≠ c.getHashDigestSize)
    (hsofar : sofar <+: buffers) (hbefore : before ++ [buffer] <+: buffers) (hindex : index < 2 ^ 32)
    (hfind : keys.find index = some (sofar.foldl (advance c) key))
    (h : decodeBuffer c keys ((before.foldl (advance c) key).encoded c index buffer) = .plain output keys') :
    sofar = before ∧ output = buffer ∧ keys' = keys.update index ((sofar.foldl (advance c) key).advance c buffer) := by
  obtain ⟨-, found, hfound, -, houtput, hintegrity, hkeys⟩ := decodeBuffer_plain c h
  have hofBE : ofBE (((before.foldl (advance c) key).encoded c index buffer).take 4) = index := algorithmIndex_encoded c hindex _ _
  rw [hofBE] at hfound hkeys
  obtain rfl : found = sofar.foldl (advance c) key := Option.some.inj (hfound.symm.trans hfind)
  have hdigest : ((before.foldl (advance c) key).integrity c buffer).length = c.getHashDigestSize := hlaws.length_hmac _ _
  have hsource : ((before.foldl (advance c) key).encoded c index buffer).drop 4 = (before.foldl (advance c) key).integrity c buffer ++
      c.encrypt (before.foldl (advance c) key).mSendKey (before.foldl (advance c) key).mNextIV buffer := by
    rw [encoded, List.append_assoc, List.drop_left' (length_toBE 4 index)]
  rw [hsource, List.drop_left' hdigest] at houtput
  rw [hsource, List.take_left' hdigest] at hintegrity
  obtain ⟨hsame, hplain⟩ := hfree.of_integrity hlaws hhash hfirst hsofar hbefore houtput hintegrity
  exact ⟨hsame, hplain, hplain ▸ hkeys⟩

end Decoding

end OpenPeer
