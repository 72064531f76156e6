import OpenPeer.Chain
import OpenPeer.MessageLayerSecurityHalves
import OpenPeer.MessageLayerSecurityLink
import OpenPeer.MessageLayerSecurityOffer

/-!
# Keying before data

What a channel writes: nothing, or the bundle of the one offer it made, signed, and
behind it the buffers it encrypted. Every index has a chain of its own, from the key that
was offered under it.
-/
namespace OpenPeer

open Bytes Chain Xml Runs

/-- The algorithm index a buffer begins with. -/
def algorithmIndex (buffer : List UInt8) : Nat := ofBE (buffer.take 4)

/-- The buffers that begin with an index. -/
def buffersUnder (index : Nat) (buffers : List (List UInt8)) : List (List UInt8) :=
  buffers.filter fun buffer => algorithmIndex buffer = index

theorem buffersUnder_append (index : Nat) (as bs : List (List UInt8)) :
    buffersUnder index (as ++ bs) = buffersUnder index as ++ buffersUnder index bs := List.filter_append ..

theorem buffersUnder_concat (index : Nat) (as : List (List UInt8)) (b : List UInt8) :
    buffersUnder index (as ++ [b]) = if algorithmIndex b = index then buffersUnder index as ++ [b] else buffersUnder index as := by
  by_cases h : algorithmIndex b = index
  · simp [buffersUnder, h]
  · simp [buffersUnder, h]

theorem algorithmIndex_prefixed {index : Nat} (h : index < 2 ^ 32) (rest : List UInt8) :
    algorithmIndex (toBE 4 index ++ rest) = index := by
  rw [algorithmIndex, List.take_left' (length_toBE 4 index)]
  exact ofBE_toBE_of_lt 4 index h

namespace KeyInfo

variable (c : Crypto)

/-- The key after a buffer. -/
def advance (key : KeyInfo) (buffer : List UInt8) : KeyInfo := key.next c (key.integrity c buffer)

/-- A buffer as it is encoded under a key. -/
def encoded (index : Nat) (key : KeyInfo) (buffer : List UInt8) : List UInt8 :=
  toBE 4 index ++ key.integrity c buffer ++ c.encrypt key.mSendKey key.mNextIV buffer

theorem encodeBuffer_eq (keys : KeyMap) (index : Nat) (buffer : List UInt8) :
    encodeBuffer c keys index buffer =
      (keys.find index).map fun key => (key.encoded c index buffer, keys.update index (key.advance c buffer)) := rfl

theorem algorithmIndex_encoded {index : Nat} (h : index < 2 ^ 32) (key : KeyInfo) (buffer : List UInt8) :
    algorithmIndex (key.encoded c index buffer) = index := by
  rw [encoded, List.append_assoc]
  exact algorithmIndex_prefixed h _

theorem foldl_advance (key : KeyInfo) (buffers : List (List UInt8)) :
    (buffers.foldl (advance c) key).mSendKey = key.mSendKey ∧
      (buffers.foldl (advance c) key).mIntegrityPassphrase = key.mIntegrityPassphrase := by
  induction buffers generalizing key with
  | nil => exact ⟨rfl, rfl⟩
  | cons buffer buffers ih => exact ih (key.advance c buffer)

end KeyInfo

theorem KeyMap.find_update (keys : KeyMap) (index : Nat) (key : KeyInfo) (i : Nat) :
    (keys.update index key).find i = if i = index then (keys.find index).map fun _ => key else keys.find i := by
  induction keys with
  | nil => by_cases h : i = index <;> simp [update, find]
  | cons e keys ih =>
    obtain ⟨j, old⟩ := e
    have hcons : KeyMap.update ((j, old) :: keys) index key = (if j = index then (index, key) else (j, old)) :: KeyMap.update keys index key := rfl
    rw [hcons]
    by_cases hj : j = index
    · by_cases hi : i = index
      · simp [hj, hi, find_cons]
      · simp [hj, hi, find_cons, ih]
    · by_cases hi : i = index
      · subst hi
        simp [hj, find_cons, ih, Ne.symm hj]
      · simp [hj, hi, find_cons, ih]

theorem sendIndexes_bound {index : Nat} (h : index ∈ sendIndexes) : 0 < index ∧ index < 2 ^ 32 := by
  have hrange := List.mem_range'_1.mp h
  simp only [defaultTotalSendKeys] at hrange
  omega

namespace MLSChannel

variable {η Pri Pub : Type} (lib : Libraries Pri Pub) (s : MLSChannel η Pri Pub)

/-- Nothing was written. -/
structure Silent : Prop where
  bundles : s.bundles = []
  encrypted : s.encrypted = []
  written : s.written = []

/-- A bundle was written, and behind it all that was encrypted. -/
structure Sent (b : OfferedBundle Pub) : Prop where
  signed : b.Signed lib
  noDoc : s.mSendKeyingNeedingToSignDoc = none
  offers : s.offers = [(b.encoding, b.offer)]
  bundles : s.bundles = [b.doc lib]
  indexed : s.mSendKeys.map Prod.fst = sendIndexes
  keys : ∀ index ∈ sendIndexes,
    s.mSendKeys.find index = some ((lane index s.encrypted).foldl (KeyInfo.advance lib.toCrypto) (b.key lib index))
  written : ∃ buffers, s.written.map Prod.fst = b.buffer lib :: buffers ∧ (∀ buffer ∈ buffers, algorithmIndex buffer ∈ sendIndexes) ∧
    ∀ index ∈ sendIndexes, buffersUnder index buffers =
      outputs (KeyInfo.advance lib.toCrypto) (KeyInfo.encoded lib.toCrypto index) (b.key lib index) (lane index s.encrypted)

/-- The states of a channel that was not shut down: it made no offer, or one that is to be signed, or it
wrote its bundle. -/
inductive Offering : Prop
  | fresh (silent : Silent s) (hkeys : s.mSendKeys = []) (hdoc : s.mSendKeyingNeedingToSignDoc = none) (hoffers : s.offers = [])
  | offered (b : OfferedBundle Pub) (silent : Silent s) (hkeys : s.mSendKeys = offeredKeys lib b.offer)
      (hdoc : s.mSendKeyingNeedingToSignDoc = some (b.doc lib)) (hoffers : s.offers = [(b.encoding, b.offer)])
  | sent (b : OfferedBundle Pub) (h : Sent lib s b)

/-- What a channel has sent, whether it was shut down or not. -/
structure SendsInOrder : Prop where
  sending : Silent s ∨ ∃ b, Sent lib s b
  live : s.mCurrentState ≠ .shutdown → Offering lib s

variable {lib s}

theorem Offering.sending (h : Offering lib s) : Silent s ∨ ∃ b, Sent lib s b := by
  cases h with
  | fresh silent => exact .inl silent
  | offered b silent => exact .inl silent
  | sent b h => exact .inr ⟨b, h⟩

/-- What tells the phase of a channel is the same. -/
structure SendsSame (s s' : MLSChannel η Pri Pub) : Prop where
  keys : s'.mSendKeys = s.mSendKeys
  doc : s'.mSendKeyingNeedingToSignDoc = s.mSendKeyingNeedingToSignDoc
  offers : s'.offers = s.offers
  bundles : s'.bundles = s.bundles
  encrypted : s'.encrypted = s.encrypted
  written : s'.written = s.written

theorem SendsSame.of_sending {s' : MLSChannel η Pri Pub} (h : s'.sending = s.sending) : SendsSame s s' where
  keys := (congrArg MLSChannel.mSendKeys h :)
  doc := (congrArg MLSChannel.mSendKeyingNeedingToSignDoc h :)
  offers := (congrArg MLSChannel.offers h :)
  bundles := (congrArg MLSChannel.bundles h :)
  encrypted := (congrArg MLSChannel.encrypted h :)
  written := (congrArg MLSChannel.written h :)

section Same

variable {s' : MLSChannel η Pri Pub}

theorem Silent.same (h : Silent s) (hsame : SendsSame s s') : Silent s' :=
  ⟨hsame.bundles.trans h.bundles, hsame.encrypted.trans h.encrypted, hsame.written.trans h.written⟩

theorem Sent.same {b : OfferedBundle Pub} (h : Sent lib s b) (hsame : SendsSame s s') : Sent lib s' b where
  signed := h.signed
  noDoc := hsame.doc.trans h.noDoc
  offers := hsame.offers.trans h.offers
  bundles := hsame.bundles.trans h.bundles
  indexed := hsame.keys ▸ h.indexed
  keys := by
    rw [hsame.keys, hsame.encrypted]
    exact h.keys
  written := by
    rw [hsame.written, hsame.encrypted]
    exact h.written

theorem Offering.same (h : Offering lib s) (hsame : SendsSame s s') : Offering lib s' := by
  cases h with
  | fresh silent hkeys hdoc hoffers =>
    exact .fresh (silent.same hsame) (hsame.keys.trans hkeys) (hsame.doc.trans hdoc) (hsame.offers.trans hoffers)
  | offered b silent hkeys hdoc hoffers =>
    exact .offered b (silent.same hsame) (hsame.keys.trans hkeys) (hsame.doc.trans hdoc) (hsame.offers.trans hoffers)
  | sent b h => exact .sent b (h.same hsame)

theorem SendsInOrder.same (h : SendsInOrder lib s) (hsame : SendsSame s s')
    (halive : s'.mCurrentState ≠ .shutdown → s.mCurrentState ≠ .shutdown) : SendsInOrder lib s' := by
  constructor
  · rcases h.sending with hsilent | ⟨b, hsent⟩
    · exact .inl (hsilent.same hsame)
    · exact .inr ⟨b, hsent.same hsame⟩
  · exact fun hup => (h.live (halive hup)).same hsame

end Same

theorem sending_cancel (h : Silent s ∨ ∃ b, Sent lib s b) : Silent s.cancel ∨ ∃ b, Sent lib s.cancel b := by
  rcases h with h | ⟨b, h⟩
  · exact .inl { h with }
  · exact .inr ⟨b, h.signed, rfl, h.offers, h.bundles, h.indexed, h.keys, h.written⟩

section Offers

variable (s) (input : StepInput)

/-- The offer goes from phase to phase, and the step goes on only behind the bundle. -/
theorem stepSendKeying_offering (h : Offering lib s) : Offering lib (stepSendKeying lib input s).2 ∧
    ((stepSendKeying lib input s).1 = true → ∃ b, Sent lib (stepSendKeying lib input s).2 b) := by
  have hstays : Offering lib s ∧ (false = true → ∃ b, Sent lib s b) := ⟨h, fun h => absurd h Bool.false_ne_true⟩
  unfold stepSendKeying
  split
  · exact hstays
  split
  · exact hstays
  split
  case h_1 => exact ⟨h.same ⟨rfl, rfl, rfl, rfl, rfl, rfl⟩, fun h => absurd h Bool.false_ne_true⟩
  case h_2 encoding _ =>
    cases h with
    | fresh silent hkeys hdoc hoffers =>
      simp only [hdoc, hkeys, List.length_nil, Nat.lt_irrefl, if_false, hoffers, List.nil_append]
      refine ⟨.offered ⟨s.mLocalContextID, encoding, input.now, input.offer, [], []⟩ ?_ rfl rfl rfl, fun h => absurd h Bool.false_ne_true⟩
      exact { silent with }
    | offered b silent hkeys hdoc hoffers =>
      simp only [hdoc, OfferedBundle.cursorOfKeying_doc]
      split
      · exact ⟨.offered b silent hkeys hdoc hoffers, fun h => absurd h Bool.false_ne_true⟩
      split
      case h_1 pair hsigned =>
        have hsent : Sent lib { s.writeEncoded (toBE 4 0 ++ lib.writeDocument (b.doc lib)) none with
            mSendKeyingNeedingToSignDoc := none
            bundles := s.bundles ++ [b.doc lib] } b := by
          refine ⟨⟨pair, hsigned⟩, rfl, hoffers, ?_, ?_, ?_, ⟨[], ?_, ?_, ?_⟩⟩
          · simp [silent.bundles]
          · exact (congrArg (List.map Prod.fst) hkeys).trans (offeredKeys_indexes lib b.offer)
          · intro index hindex
            simp [writeEncoded, hkeys, silent.encrypted, offeredKeys_find, hindex, OfferedBundle.key]
          · simp [writeEncoded, silent.written, OfferedBundle.buffer]
          · exact fun _ h => absurd h List.not_mem_nil
          · intro index hindex
            simp [writeEncoded, silent.encrypted, buffersUnder]
        exact ⟨.sent b hsent, fun _ => ⟨b, hsent⟩⟩
      case h_2 => exact ⟨.offered b silent hkeys hdoc hoffers, fun h => absurd h Bool.false_ne_true⟩
    | sent b h =>
      have hkeys : 0 < s.mSendKeys.length := by
        rw [← List.length_map Prod.fst, h.indexed]
        decide
      simp only [h.noDoc, hkeys, if_true]
      exact ⟨.sent b h, fun _ => ⟨b, h⟩⟩

end Offers

section Buffers

variable {b : OfferedBundle Pub}

/-- Encoding one more buffer. -/
theorem Sent.encode (h : Sent lib s b) {index : Nat} (hindex : index ∈ sendIndexes) (buffer : List UInt8) (header : Option η) :
    ∃ output keys, encodeBuffer lib.toCrypto s.mSendKeys index buffer = some (output, keys) ∧
      Sent lib (s.encode index buffer output header keys) b := by
  let key := (lane index s.encrypted).foldl (KeyInfo.advance lib.toCrypto) (b.key lib index)
  have hfind : s.mSendKeys.find index = some key := h.keys index hindex
  refine ⟨key.encoded lib.toCrypto index buffer, s.mSendKeys.update index (key.advance lib.toCrypto buffer), ?_, ?_⟩
  · rw [KeyInfo.encodeBuffer_eq, hfind, Option.map_some]
  obtain ⟨buffers, hwritten, hindexes, hunder⟩ := h.written
  have hlt := (sendIndexes_bound hindex).2
  refine ⟨h.signed, h.noDoc, h.offers, h.bundles, ?_, ?_, buffers ++ [key.encoded lib.toCrypto index buffer], ?_, ?_, ?_⟩
  · exact (KeyMap.update_indexes _ _ _).trans h.indexed
  · intro i hi
    simp only [MLSChannel.encode, KeyMap.find_update, hfind, Option.map_some, lane_concat, h.keys i hi]
    by_cases hsame : i = index
    · simp [hsame, key]
    · simp [hsame, Ne.symm hsame]
  · simp [MLSChannel.encode, writeEncoded, hwritten]
  · intro buffer' hbuffer'
    rcases List.mem_append.mp hbuffer' with hold | hnew
    · exact hindexes buffer' hold
    · rw [List.mem_singleton.mp hnew, KeyInfo.algorithmIndex_encoded lib.toCrypto hlt]
      exact hindex
  · intro i hi
    rw [buffersUnder_concat, KeyInfo.algorithmIndex_encoded lib.toCrypto hlt, hunder i hi]
    simp only [MLSChannel.encode, lane_concat]
    by_cases hsame : index = i
    · subst hsame
      simp only [if_true, outputs_concat, key]
    · simp only [hsame, if_false]

theorem sendLoop_sent (h : Sent lib s b) (value : Nat → Nat) (k : Nat) : Sent lib (sendLoop lib value k s).2 b := by
  induction k generalizing s with
  | zero => exact h
  | succ k ih =>
    rw [sendLoop]
    split
    · exact h
    case h_2 buffer header stream _ =>
      have hread : Sent lib { s with mSendStreamDecoded := stream } b :=
        { h with }
      simp only
      split
      · exact hread
      case h_2 output keys hencode =>
        have hlength : s.mSendKeys.length = defaultTotalSendKeys := by
          rw [← List.length_map Prod.fst, h.indexed]
          rfl
        have hrange := MessageLayerSecurityChannel.random_range s.mSendKeys.length (value k) (by rw [hlength]; decide)
        have hindex : MessageLayerSecurityChannel.random 1 s.mSendKeys.length (value k) ∈ sendIndexes := by
          rw [sendIndexes, List.mem_range'_1]
          omega
        obtain ⟨output', keys', hencode', hsent⟩ := hread.encode hindex buffer header
        cases hencode.symm.trans hencode'
        exact ih hsent

theorem stepSend_sent (h : Sent lib s b) (value : Nat → Nat) : Sent lib (stepSend lib value s).2 b := by
  unfold stepSend
  split
  · exact h
  · exact sendLoop_sent h value _

end Buffers

section Run

theorem stepAfterReceive_offering (input : StepInput) (h : Offering lib s) : Offering lib (stepAfterReceive lib input s) := by
  obtain ⟨hkeyed, hgoes⟩ := stepSendKeying_offering s input h
  unfold stepAfterReceive
  simp only
  split
  · exact hkeyed
  case isFalse htrue =>
    obtain ⟨b, hb⟩ := hgoes (by simpa using htrue)
    have hsent := stepSend_sent hb input.value
    split
    · exact .sent b hsent
    · split
      · exact .sent b (hsent.same ⟨rfl, rfl, rfl, rfl, rfl, rfl⟩)
      · exact .sent b hsent

variable {turns : Nat}

theorem SendsInOrder.cancel (h : SendsInOrder lib s) : SendsInOrder lib s.cancel :=
  ⟨sending_cancel h.sending, fun halive => absurd rfl halive⟩

theorem step_sendsInOrder (input : StepInput) (h : SendsInOrder lib s) {s' : MLSChannel η Pri Pub}
    (hstep : s.step lib turns input = some s') : SendsInOrder lib s' := by
  unfold step at hstep
  split at hstep
  · cases hstep
    exact h.cancel
  case isFalse halive =>
    have hlive := h.live (not_isShutdown halive)
    obtain ⟨r, hreceive, rfl⟩ := Option.map_eq_some_iff.mp hstep
    rcases stepReceive_leavesSending lib s turns input.tick hreceive with ⟨hsame, hup⟩ | ⟨hleft, hshutdown, hsame⟩
    · have hoffering := hlive.same (.of_sending hsame)
      split
      · have hafter := stepAfterReceive_offering input hoffering
        exact ⟨hafter.sending, fun _ => hafter⟩
      · exact ⟨hoffering.sending, fun _ => hoffering⟩
    · simp only [hleft, Bool.false_eq_true, if_false]
      refine ⟨?_, fun h => absurd hshutdown h⟩
      rcases sending_cancel h.sending with hsilent | ⟨b, hsent⟩
      · exact .inl (hsilent.same (.of_sending hsame))
      · exact .inr ⟨b, hsent.same (.of_sending hsame)⟩

/-- The signer works on the document that is to be signed, if there is one. -/
theorem SendsInOrder.signSendKeyingMaterial (h : SendsInOrder lib s) (id : String) (signatureEl : Element) :
    SendsInOrder lib (s.signSendKeyingMaterial id signatureEl) := by
  have hsent : ∀ b, Sent lib s b → Sent lib (s.signSendKeyingMaterial id signatureEl) b := fun b hs =>
    ⟨hs.signed, by simp [MLSChannel.signSendKeyingMaterial, hs.noDoc], hs.offers, hs.bundles, hs.indexed, hs.keys, hs.written⟩
  have hsilent : Silent s → Silent (s.signSendKeyingMaterial id signatureEl) := fun hs => { hs with }
  constructor
  · rcases h.sending with hs | ⟨b, hs⟩
    · exact .inl (hsilent hs)
    · exact .inr ⟨b, hsent b hs⟩
  · intro halive
    cases h.live halive with
    | fresh silent hkeys hdoc hoffers =>
      exact .fresh (hsilent silent) hkeys (by simp [MLSChannel.signSendKeyingMaterial, hdoc]) hoffers
    | offered b silent hkeys hdoc hoffers =>
      refine .offered { b with
        attributes := putAttribute "id" id b.attributes
        siblings := .element signatureEl :: b.siblings } (hsilent silent) hkeys ?_ hoffers
      simp only [MLSChannel.signSendKeyingMaterial, hdoc, Option.map_some, OfferedBundle.editAt_doc, Option.getD_some]
    | sent b hs => exact .sent b (hsent b hs)

theorem create_sendsInOrder (receiveStreamEncoded receiveStreamDecoded sendStreamDecoded sendStreamEncoded : TransportStream η)
    (contextID : String) : SendsInOrder lib
      (create receiveStreamEncoded receiveStreamDecoded sendStreamDecoded sendStreamEncoded contextID : MLSChannel η Pri Pub) :=
  ⟨.inl ⟨rfl, rfl, rfl⟩, fun _ => .fresh ⟨rfl, rfl, rfl⟩ rfl rfl rfl⟩

/-- A buffer of data: it begins with the index of a key that is in the bundle and is encrypted with that key. -/
def UnderKeyOf (lib : Libraries Pri Pub) (b : OfferedBundle Pub) (buffer : List UInt8) : Prop :=
  ∃ index key plain, keyElement lib b.offer.nonce b.encoding index (b.offer.key index) ∈ keysOf (b.doc lib) ∧
    algorithmIndex buffer = index ∧ index ≠ 0 ∧ key.mSendKey = (b.key lib index).mSendKey ∧
    buffer = KeyInfo.encoded lib.toCrypto index key plain

theorem underKeyOf_chains {b : OfferedBundle Pub} {encrypted : List (Nat × List UInt8)} {buffers : List (List UInt8)}
    (hindexes : ∀ buffer ∈ buffers, algorithmIndex buffer ∈ sendIndexes)
    (hunder : ∀ index ∈ sendIndexes, buffersUnder index buffers =
      outputs (KeyInfo.advance lib.toCrypto) (KeyInfo.encoded lib.toCrypto index) (b.key lib index) (lane index encrypted))
    {buffer : List UInt8} (hbuffer : buffer ∈ buffers) : UnderKeyOf lib b buffer := by
  have hindex := hindexes buffer hbuffer
  have hmem : buffer ∈ buffersUnder (algorithmIndex buffer) buffers := List.mem_filter.mpr ⟨hbuffer, by simp⟩
  rw [hunder _ hindex] at hmem
  obtain ⟨before, plain, -, hencoded⟩ := mem_outputs.mp hmem
  have hkey := (KeyInfo.foldl_advance lib.toCrypto (b.key lib (algorithmIndex buffer)) before).1
  refine ⟨_, _, plain, ?_, rfl, Nat.ne_of_gt (sendIndexes_bound hindex).1, hkey, hencoded⟩
  rw [keysOf_doc]
  exact List.mem_map_of_mem hindex

/-- The first buffer written is a signed bundle, and every later one is data under its keys. -/
def KeyingFirst (lib : Libraries Pri Pub) (s : MLSChannel η Pri Pub) : Prop :=
  s.written = [] ∨ ∃ b : OfferedBundle Pub, b.Signed lib ∧ ∃ buffers, s.written.map Prod.fst = b.buffer lib :: buffers ∧
    ∀ buffer ∈ buffers, UnderKeyOf lib b buffer

variable [DecidableEq Pri] [DecidableEq Pub]

theorem handle_sendsInOrder (e : MLSEvent η Pri Pub) (h : SendsInOrder lib s) {s' : MLSChannel η Pri Pub}
    (hhandle : s.handle lib turns e = some s') : SendsInOrder lib s' := by
  cases handle_handled lib s hhandle with
  | configured _ hset =>
    cases hset with
    | same => exact h
    | set _ _ _ _ _ _ _ halive => exact h.same ⟨rfl, rfl, rfl, rfl, rfl, rfl⟩ fun _ => halive
  | signed id signatureEl => exact h.signSendKeyingMaterial id signatureEl
  | notified =>
    unfold notifySendKeyingMaterialSigned
    split
    · exact h
    case isFalse halive => exact h.same ⟨rfl, rfl, rfl, rfl, rfl, rfl⟩ fun _ => not_isShutdown halive
  | cancelled => exact h.cancel
  | stepped _ input hstep => exact step_sendsInOrder input h hstep
  | receiveReady input hstep =>
    have hready : SendsInOrder lib s.onReceiveStreamDecodedReady := h.same ⟨rfl, rfl, rfl, rfl, rfl, rfl⟩ id
    exact step_sendsInOrder input hready hstep
  | sendReady input hstep =>
    have hready : SendsInOrder lib s.onSendStreamEncodedReady := h.same ⟨rfl, rfl, rfl, rfl, rfl, rfl⟩ id
    exact step_sendsInOrder input hready hstep
  | receiveEncoded stream => exact h.same ⟨rfl, rfl, rfl, rfl, rfl, rfl⟩ id
  | receiveDecoded stream => exact h.same ⟨rfl, rfl, rfl, rfl, rfl, rfl⟩ id
  | sendDecoded stream => exact h.same ⟨rfl, rfl, rfl, rfl, rfl, rfl⟩ id
  | sendEncoded stream => exact h.same ⟨rfl, rfl, rfl, rfl, rfl, rfl⟩ id

theorem run_sendsInOrder (receiveStreamEncoded receiveStreamDecoded sendStreamDecoded sendStreamEncoded : TransportStream η)
    (contextID : String) (es : List (MLSEvent η Pri Pub)) (s : MLSChannel η Pri Pub)
    (hrun : run (next lib turns)
      (some (create receiveStreamEncoded receiveStreamDecoded sendStreamDecoded sendStreamEncoded contextID)) es = some s) :
    SendsInOrder lib s := by
  have hinv : ∀ s', run (next lib turns)
      (some (create receiveStreamEncoded receiveStreamDecoded sendStreamDecoded sendStreamEncoded contextID)) es = some s' →
      SendsInOrder lib s' := by
    refine run_invariant_always (fun o : Option (MLSChannel η Pri Pub) => ∀ s', o = some s' → SendsInOrder lib s') ?_ _ es ?_
    · intro o e ho s' hnext
      obtain ⟨s, rfl, hhandle⟩ := Option.bind_eq_some_iff.mp hnext
      exact handle_sendsInOrder e (ho s rfl) hhandle
    · rintro s' ⟨⟩
      exact create_sendsInOrder _ _ _ _ _
  exact hinv s hrun

/-- In every state of every run. -/
theorem keying_precedes_data (lib : Libraries Pri Pub) (turns : Nat)
    (receiveStreamEncoded receiveStreamDecoded sendStreamDecoded sendStreamEncoded : TransportStream η) (contextID : String)
    (es : List (MLSEvent η Pri Pub)) (s : MLSChannel η Pri Pub)
    (hrun : run (next lib turns)
      (some (create receiveStreamEncoded receiveStreamDecoded sendStreamDecoded sendStreamEncoded contextID)) es = some s) :
    KeyingFirst lib s := by
  rcases (run_sendsInOrder _ _ _ _ _ es s hrun).sending with hsilent | ⟨b, hsent⟩
  · exact .inl hsilent.written
  · obtain ⟨buffers, hwritten, hindexes, hunder⟩ := hsent.written
    exact .inr ⟨b, hsent.signed, buffers, hwritten, fun buffer hbuffer => underKeyOf_chains hindexes hunder hbuffer⟩

end Run

end MLSChannel

/-! The keys that a sender offers under the passphrase "secret" are encrypted, hashed and signed here by tables
that agree with the libraries on all that is asked of them. -/
namespace OfferSample

open MLSChannel

def nibble (ch : Char) : Nat := if ch.toNat < 97 then ch.toNat - 48 else ch.toNat - 87

def octets : List Char → List UInt8
  | high :: low :: rest => UInt8.ofNat (16 * nibble high + nibble low) :: octets rest
  | _ => []

def fromHex (text : String) : List UInt8 := octets text.toList

/-- Bytes of one length by what they stand for, both as numbers; zeros when there is no entry. -/
def lookupBytes (table : List (Nat × Nat)) (length : Nat) (bytes : List UInt8) : List UInt8 :=
  toBE length ((table.lookup (ofBE bytes)).getD 0)

/-- What the cipher adds, by initialisation vector. -/
def keystreams : List (Nat × Nat × Nat) :=
  [(0x0a0a0a0a0a0a0a0a0a0a0a0a0a0a0a0a, 32, 0x30f1f3d03e2a3b6144945bf23091de53a6f571baf9ebd13e870bcf6f3bbe30f6),
    (0x0b0b0b0b0b0b0b0b0b0b0b0b0b0b0b0b, 16, 0xa39bf4a97d0713865563c5f2dc420282),
    (0x0c0c0c0c0c0c0c0c0c0c0c0c0c0c0c0c, 3, 0xe10e27),
    (0x14141414141414141414141414141414, 32, 0x03421b1908a8a1b399ec20849a067fe0d2f32a13521146b727a0df8341025564),
    (0x15151515151515151515151515151515, 16, 0x13b906690133b3d320eedeff71718da3),
    (0x16161616161616161616161616161616, 3, 0xeefeb8),
    (0x1e1e1e1e1e1e1e1e1e1e1e1e1e1e1e1e, 32, 0x482151903fc02129f9f322fe88e41ff7a10c75f87c053649a8fe297cdcc83f67),
    (0x1f1f1f1f1f1f1f1f1f1f1f1f1f1f1f1f, 16, 0x5c5b756d96905e1b241b3d168c77c64b),
    (0x20202020202020202020202020202020, 3, 0x0b588c),
    (0x24311d9abc4077123c2c9a167afbe754, 2, 0x4819),
    (0x7554da097f9ebd10cfcb8a9e88095241fdd9b7da, 2, 0xe88c)]

def keystream (iv : List UInt8) : List UInt8 := ((keystreams.lookup (ofBE iv)).map fun e => toBE e.1 e.2).getD []

def addStream : (stream buffer : List UInt8) → List UInt8
  | _, [] => []
  | [], b :: buffer => b :: addStream [] buffer
  | k :: stream, b :: buffer => (b ^^^ k) :: addStream stream buffer

def base64 : List (Nat × Nat × String) :=
  [(32,
      0x423c9d541cee3c9a299ddd62c182d52e4b8bb34d0c0a02355edeee9f2e880765,
      "QjydVBzuPJopnd1iwYLVLkuLs00MCgI1Xt7uny6IB2U="),
    (16, 0x87aae933c1476494694f5fe4a6b9e5d6, "h6rpM8FHZJRpT1/kprnl1g=="),
    (3, 0x806c44, "gGxE"),
    (32,
      0x76c560ad15919aec21a97c6294cbf23ad2ee2c223687f7fadddf56d517ec9f2e,
      "dsVgrRWRmuwhqXxilMvyOtLuLCI2h/f63d9W1Rfsny4="),
    (16, 0x50c223c426ec9cb2cbfa18bf7b980eaa, "UMIjxCbsnLLL+hi/e5gOqg=="),
    (3, 0x8a9bde, "ipve"),
    (32,
      0x2cabf455463b11da73046627f58ad7b766a5678fd89c969e280dce4d9202366c,
      "LKv0VUY7EdpzBGYn9YrXt2alZ4/YnJaeKA3OTZICNmw="),
    (16, 0xecc244f80fc194b9880a32f837a6a11b, "7MJE+A/BlLmICjL4N6ahGw=="),
    (3, 0x6c30e5, "bDDl"),
    (20, 0x7fb53f93d1d560c4e98ea8357fb5e0ea2f7832e7, "f7U/k9HVYMTpjqg1f7Xg6i94Muc="),
    (64,
      0x5d61e8d0eb27b4e3a9aa5906f881fece8158bc6e09bf43a77cf4fc76afbea8c02242eaeda4ece281cb31336b8ae44b19d3278df5f33de8d831fe9326a124eb6e,
      "XWHo0OsntOOpqlkG+IH+zoFYvG4Jv0OnfPT8dq++qMAiQurtpOzigcsxM2uK5EsZ0yeN9fM96Ngx/pMmoSTrbg==")]

/-- The digests of the buffer, of what the second key makes of it, and of the vector behind it. -/
def digests : List (Nat × Nat) :=
  [(0x6869, 0xc22b5f9178342609428d6f51b2c5af4c0bde6a42), (0xc8fc, 0xa033141662a985a490370689aef03300645eff6b),
    (ofBE (utf8 "24311d9abc4077123c2c9a167afbe754:b8e1b88465db2c8344dc0ee67b6c9cb6fbfe5179"),
      0x7554da097f9ebd10cfcb8a9e88095241fdd9b7da)]

def keyedDigests : List (Nat × Nat) :=
  [(ofBE (utf8 "keying:n0"), 0xe309d92f361715ed558b6537de153898ff0217b8),
    (ofBE (utf8 "integrity:c22b5f9178342609428d6f51b2c5af4c0bde6a42:24311d9abc4077123c2c9a167afbe754"),
      0xb8e1b88465db2c8344dc0ee67b6c9cb6fbfe5179),
    (ofBE (utf8 "integrity:a033141662a985a490370689aef03300645eff6b:7554da097f9ebd10cfcb8a9e88095241fdd9b7da"),
      0x02e62b9543ff336ed49502d8eac4313b49e83c7b)]

def secrets : List (Nat × Nat) :=
  [(ofBE (List.replicate 32 1), 0x72cd6e8422c407fb6d098690f1130b7ded7ec2f7f5e1d30bd9d521f015363793),
    (ofBE (List.replicate 32 2), 0x75877bb41d393b5fb8455ce60ecd8dda001d06316496b14dfa7f895656eeca4a),
    (ofBE (List.replicate 32 3), 0x648aa5c579fb30f38af744d97d6ec840c7a91277a499a0d780f3e7314eca090b)]

def vectors : List (Nat × Nat) :=
  [(ofBE (List.replicate 16 1), 0x24311d9abc4077123c2c9a167afbe754), (ofBE (List.replicate 16 2), 0x437b25ad27df2f61eb14c6400ae98309),
    (ofBE (List.replicate 16 3), 0xb09931959951caa2ac110feebbd16750)]

def digest : List UInt8 := toBE 20 0x7fb53f93d1d560c4e98ea8357fb5e0ea2f7832e7

def signature : List UInt8 :=
  toBE 32 0x5d61e8d0eb27b4e3a9aa5906f881fece8158bc6e09bf43a77cf4fc76afbea8c0 ++
    toBE 32 0x2242eaeda4ece281cb31336b8ae44b19d3278df5f33de8d831fe9326a124eb6e

/-- Bytes that are not in the table are written in hex behind a star. -/
def toBase64 (bytes : List UInt8) : String :=
  ((base64.find? fun e => e.1 == bytes.length && e.2.1 == ofBE bytes).map (·.2.2)).getD ("*" ++ hexText bytes)

def fromBase64 (text : String) : List UInt8 :=
  ((base64.find? (·.2.2 == text)).map fun e => toBE e.1 e.2.1).getD (octets text.toList.tail)

/-- The libraries but for the documents; a long buffer is the keying element in canonical form. -/
def cryptography : Libraries Unit Unit where
  encrypt _ iv buffer := addStream (keystream iv) buffer
  decrypt _ iv buffer := addStream (keystream iv) buffer
  hash buffer := if 1000 < buffer.length then digest else lookupBytes digests 20 buffer
  hmac _ value := lookupBytes keyedDigests 20 value
  getHashDigestSize := 20
  hashMD5 buffer := lookupBytes vectors 16 buffer
  hashSHA256 buffer := lookupBytes secrets 32 buffer
  hmacSHA256 _ _ := toBE 32 0xcbf290e53c977b959900ee4a27a2c564c0ad3adf6470815d7f44c97d7c85f17c
  convertFromHex := fromHex
  convertToBase64 := toBase64
  convertFromBase64 := fromBase64
  numeric := Numeric.unsigned (2 ^ 32)
  ulongBound := 2 ^ 32
  getFingerprint _ := ""
  verify _ inOriginalBufferSigned inSignature := inOriginalBufferSigned = digest && inSignature = signature
  encryptRSA _ _ buffer := buffer
  decryptRSA _ _ := none
  createFromAutoDetect _ := []
  writeDocument _ := []
  writeElement _ := []

def drawn (index : Nat) : DrawnKey where
  integrityPassphrase := if index = 1 then "abc" else if index = 2 then "def" else "ghi"
  secret := List.replicate 32 (UInt8.ofNat index)
  iv := List.replicate 16 (UInt8.ofNat index)
  saltOfSecret := List.replicate 16 (UInt8.ofNat (10 * index))
  saltOfIV := List.replicate 16 (UInt8.ofNat (10 * index + 1))
  saltOfIntegrityKey := List.replicate 16 (UInt8.ofNat (10 * index + 2))

/-- A day in 2023; the first key is drawn for every buffer. -/
def input : StepInput := ⟨fun _ => .at 1700000000000000, .at 1700000000000000, ⟨"n0", drawn⟩, fun _ => 0⟩

def signatureEl : Element :=
  parentOf "signature"
    [createElementWithText "reference" "#k1", createElementWithText "algorithm" jsonSignatureAlgorithm,
      createElementWithText "digestValue" "f7U/k9HVYMTpjqg1f7Xg6i94Muc=",
      createElementWithText "digestSigned"
        "XWHo0OsntOOpqlkG+IH+zoFYvG4Jv0OnfPT8dq++qMAiQurtpOzigcsxM2uK5EsZ0yeN9fM96Ngx/pMmoSTrbg=="]

def doc : Document :=
  [.element (parentOf "keyingBundle"
    [(keyingElement cryptography "alice" (.passphrase "secret") input.now input.offer).setAttribute "id" "k1", signatureEl])]

/-- A field of a JSON object. -/
def field (name : String) (value : List UInt8) : List UInt8 := utf8 "\"" ++ utf8 name ++ utf8 "\":" ++ value

def quoted (value : String) : List UInt8 := utf8 "\"" ++ utf8 value ++ utf8 "\""

def commas : List (List UInt8) → List UInt8
  | [] => []
  | [member] => member
  | member :: members => member ++ utf8 "," ++ commas members

def object (members : List (List UInt8)) : List UInt8 := utf8 "\x7b" ++ commas members ++ utf8 "\x7d"

def inputText (name : String) (salt value : List UInt8) : List UInt8 :=
  field name (quoted (encodeInput cryptography "n0" salt value (.passphrase "secret" : SendEncoding Unit)))

def algorithmText : List UInt8 := field "algorithm" (quoted defaultCryptoAlgorithm)

def proofText : List UInt8 := field "proof" (quoted "e309d92f361715ed558b6537de153898ff0217b8")

/-- A key as it is written, and in canonical order. -/
def keyText (canonical : Bool) (index : Nat) : List UInt8 :=
  let key := (drawn index).keyInfo cryptography
  let secret := inputText "secret" (drawn index).saltOfSecret key.mSendKey
  let iv := inputText "iv" (drawn index).saltOfIV key.mNextIV
  let integrityKey := inputText "hmacIntegrityKey" (drawn index).saltOfIntegrityKey key.mIntegrityPassphrase
  let number := field "index" (utf8 (toString index))
  if canonical then object [algorithmText, number, field "inputs" (object [integrityKey, iv, secret])]
  else object [number, algorithmText, field "inputs" (object [secret, iv, integrityKey])]

def keysText (canonical : Bool) : List UInt8 :=
  field "keys" (object [field "key" (utf8 "[" ++ commas (sendIndexes.map (keyText canonical)) ++ utf8 "]")])

/-- The keying element in canonical order. -/
def canonicalText : List UInt8 :=
  object [field "keying" (object
    [field "$id" (quoted "k1"), field "algorithms" (object [algorithmText]), field "context" (quoted "alice"),
      field "encoding" (object [algorithmText, proofText, field "type" (quoted "passphrase")]), field "expires" (utf8 "1700000180"),
      keysText true, field "nonce" (quoted "n0"), field "sequence" (utf8 "0")])]

def bundleText : List UInt8 :=
  object [field "keyingBundle" (object
    [field "keying" (object
      [field "$id" (quoted "k1"), field "sequence" (utf8 "0"), field "nonce" (quoted "n0"), field "context" (quoted "alice"),
        field "expires" (utf8 "1700000180"), field "encoding" (object [field "type" (quoted "passphrase"), algorithmText, proofText]),
        field "algorithms" (object [algorithmText]), keysText false]),
      field "signature" (object
        [field "reference" (quoted "#k1"), field "algorithm" (quoted jsonSignatureAlgorithm),
          field "digestValue" (quoted (toBase64 digest)), field "digestSigned" (quoted (toBase64 signature))])])]

def libraries : Libraries Unit Unit :=
  { cryptography with
    createFromAutoDetect := fun _ => doc
    writeDocument := fun _ => bundleText
    writeElement := fun _ => canonicalText }

/-- The keys are offered, the bundle is signed and then sent, and a buffer behind it. -/
def sends : List (MLSEvent Unit Unit Unit) :=
  [.setSendKeyingEncodingPassphrase "secret", .onSendStreamEncodedReady input, .signSendKeyingMaterial "k1" signatureEl,
    .notifySendKeyingMaterialSigned, .sendStreamDecoded (TransportStream.create.write (utf8 "hi") none), .onWake input]

theorem keying_before_hi : ∃ s,
    run (next libraries 1) (some (create .create .create .create .create "alice")) sends = some s ∧
      s.written.map (fun r => algorithmIndex r.1) = [0, 1] ∧ KeyingFirst libraries s := by
  have hindexes : (run (next libraries 1) (some (create .create .create .create .create "alice")) sends).elim []
      (fun s => s.written.map fun r => algorithmIndex r.1) = [0, 1] := by
    decide +kernel
  cases hrun : run (next libraries 1) (some (create .create .create .create .create "alice")) sends with
  | none => simp [hrun] at hindexes
  | some s =>
    rw [hrun] at hindexes
    exact ⟨s, rfl, hindexes, keying_precedes_data libraries 1 _ _ _ _ _ sends s hrun⟩

end OfferSample

end OpenPeer
