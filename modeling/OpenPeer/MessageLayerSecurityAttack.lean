import OpenPeer.MessageLayerSecurityAgreement
import OpenPeer.MessageLayerSecurityHistory

/-!
# A sender, a receiver and what lies between them

Whoever holds the wire gives the receiver what it likes of the buffers the sender wrote,
as often and in what order it likes. What the receiver delivers under an index is the
first part of what the sender encrypted under it; a buffer out of its turn ends the
channel with an error, and nothing of it is delivered.
-/
namespace OpenPeer

open Bytes Chain Xml Runs

namespace MLSChannel

variable {η Pri Pub : Type} (lib : Libraries Pri Pub) (sender s : MLSChannel η Pri Pub)

section Turns

/-- The buffers taken under each index are the first ones written under it, in their order, and each
of the data among them was delivered. -/
def InTurn (taken : List (List UInt8)) (delivered : List (Nat × List UInt8)) : Prop :=
  ∀ index, buffersUnder index taken <+: buffersUnder index (sender.written.map Prod.fst) ∧
    (index ≠ 0 → (buffersUnder index taken).length = (lane index delivered).length)

/-- The channel was shut down with an error by the last buffer it took, of which nothing was delivered. -/
def Refused : Prop :=
  s.mCurrentState = .shutdown ∧ s.mLastError ≠ 0 ∧
    ∃ taken offender, s.taken = taken ++ [offender] ∧ InTurn sender taken s.delivered

/-- What a receiver has of a sender: in its stream and put aside nothing but what the sender wrote, its
keys at the stages of the chains that it delivered, and no key before the one bundle. -/
structure Follows : Prop where
  stream : ∀ r ∈ s.mReceiveStreamEncoded.records, r.1 ∈ sender.written.map Prod.fst
  waiting : ∀ doc, s.mReceiveKeyingSignedDoc = some doc →
    ∃ buffer ∈ sender.written.map Prod.fst, algorithmIndex buffer = 0 ∧ doc = lib.createFromAutoDetect (buffer.drop 4)
  sequence : (s.mNextReceiveSequenceNumber = 0 ∧ s.delivered = [] ∧ s.mReceiveKeys = []) ∨ s.mNextReceiveSequenceNumber = 1
  keys : ∀ index key, s.mReceiveKeys.find index = some key → index ∈ sendIndexes ∧ ∃ e ∈ sender.offers,
    key = (lane index s.delivered).foldl (KeyInfo.advance lib.toCrypto) ((e.2.key index).keyInfo lib)
  delivered : ∀ index, lane index s.delivered <+: lane index sender.encrypted
  signing : s.mNextReceiveSequenceNumber = 1 → s.mCurrentState ≠ .shutdown → s.mReceiveSigningPublicKey.isSome = true
  paired : s.mReceiveDecodingPrivateKey.isSome = true → s.mReceiveDecodingPublicKey ≠ none
  turn : InTurn sender s.taken s.delivered ∨ Refused sender s

/-- A bundle that was taken was accepted or put aside. -/
def BundleSettled : Prop :=
  s.mCurrentState ≠ .shutdown →
    buffersUnder 0 s.taken = [] ∨ s.mNextReceiveSequenceNumber = 1 ∨ s.mReceiveKeyingSignedDoc ≠ none

variable {lib sender s}

theorem Follows.inTurn (h : Follows lib sender s) (halive : s.mCurrentState ≠ .shutdown) : InTurn sender s.taken s.delivered := by
  rcases h.turn with hturn | ⟨hshutdown, -⟩
  · exact hturn
  · exact absurd hshutdown halive

variable {sender' : MLSChannel η Pri Pub}

theorem InTurn.grows {taken : List (List UInt8)} {delivered : List (Nat × List UInt8)}
    (h : InTurn sender taken delivered) (hgrows : Grows sender sender') : InTurn sender' taken delivered := by
  intro index
  obtain ⟨hfront, hlength⟩ := h index
  obtain ⟨more, hmore⟩ := hgrows.written
  refine ⟨?_, hlength⟩
  rw [← hmore, List.map_append, buffersUnder_append]
  exact hfront.trans (List.prefix_append _ _)

theorem Follows.grows (h : Follows lib sender s) (hgrows : Grows sender sender') : Follows lib sender' s := by
  have hwritten : ∀ buffer ∈ sender.written.map Prod.fst, buffer ∈ sender'.written.map Prod.fst :=
    List.map_subset _ hgrows.written.subset
  constructor
  · exact fun r hr => hwritten _ (h.stream r hr)
  · intro doc hdoc
    obtain ⟨buffer, hbuffer, hread⟩ := h.waiting doc hdoc
    exact ⟨buffer, hwritten buffer hbuffer, hread⟩
  · exact h.sequence
  · intro index key hfind
    obtain ⟨hindex, e, he, hkey⟩ := h.keys index key hfind
    exact ⟨hindex, e, hgrows.offers.subset he, hkey⟩
  · intro index
    obtain ⟨more, hmore⟩ := hgrows.encrypted
    rw [← hmore, lane_append]
    exact (h.delivered index).trans (List.prefix_append _ _)
  · exact h.signing
  · exact h.paired
  · rcases h.turn with hturn | ⟨hshutdown, herror, taken, offender, htaken, hturn⟩
    · exact .inl (hturn.grows hgrows)
    · exact .inr ⟨hshutdown, herror, taken, offender, htaken, hturn.grows hgrows⟩

/-- What is followed is the same in another state of the channel. -/
structure FollowsSame (s s' : MLSChannel η Pri Pub) : Prop where
  records : s'.mReceiveStreamEncoded.records = s.mReceiveStreamEncoded.records
  doc : s'.mReceiveKeyingSignedDoc = s.mReceiveKeyingSignedDoc
  sequence : s'.mNextReceiveSequenceNumber = s.mNextReceiveSequenceNumber
  keys : s'.mReceiveKeys = s.mReceiveKeys
  delivered : s'.delivered = s.delivered
  taken : s'.taken = s.taken
  signing : s'.mReceiveSigningPublicKey = s.mReceiveSigningPublicKey
  privateKey : s'.mReceiveDecodingPrivateKey = s.mReceiveDecodingPrivateKey
  publicKey : s'.mReceiveDecodingPublicKey = s.mReceiveDecodingPublicKey
  error : s'.mLastError = s.mLastError

variable {s' : MLSChannel η Pri Pub}

theorem FollowsSame.of_receiving (h : s'.receiving = s.receiving) : FollowsSame s s' where
  records := congrArg TransportStream.records (congrArg MLSChannel.mReceiveStreamEncoded h :)
  doc := (congrArg (fun s => s.mReceiveKeyingSignedDoc) h :)
  sequence := (congrArg (fun s => s.mNextReceiveSequenceNumber) h :)
  keys := (congrArg (fun s => s.mReceiveKeys) h :)
  delivered := (congrArg MLSChannel.delivered h :)
  taken := (congrArg MLSChannel.taken h :)
  signing := (congrArg (fun s => s.mReceiveSigningPublicKey) h :)
  privateKey := (congrArg (fun s => s.mReceiveDecodingPrivateKey) h :)
  publicKey := (congrArg (fun s => s.mReceiveDecodingPublicKey) h :)
  error := (congrArg (fun s => s.mLastError) h :)

theorem Follows.same (h : Follows lib sender s) (hsame : FollowsSame s s')
    (hstate : s'.mCurrentState = s.mCurrentState ∨ s.mCurrentState ≠ .shutdown) : Follows lib sender s' := by
  constructor
  · rw [hsame.records]
    exact h.stream
  · rw [hsame.doc]
    exact h.waiting
  · rw [hsame.sequence, hsame.delivered, hsame.keys]
    exact h.sequence
  · rw [hsame.keys, hsame.delivered]
    exact h.keys
  · rw [hsame.delivered]
    exact h.delivered
  · rw [hsame.sequence, hsame.signing]
    intro hnext halive
    rcases hstate with hstate | hup
    · exact h.signing hnext (hstate ▸ halive)
    · exact h.signing hnext hup
  · rw [hsame.privateKey, hsame.publicKey]
    exact h.paired
  · rw [hsame.taken, hsame.delivered]
    rcases h.turn with hturn | ⟨hshutdown, herror, taken, offender, htaken, hturn⟩
    · exact .inl hturn
    · have hstays := hstate.resolve_right (fun hup => hup hshutdown)
      refine .inr ⟨hstays.trans hshutdown, hsame.error ▸ herror, taken, offender, hsame.taken.trans htaken, ?_⟩
      rw [hsame.delivered]
      exact hturn

theorem BundleSettled.same (h : BundleSettled s) (hsame : FollowsSame s s')
    (hstate : s'.mCurrentState = s.mCurrentState ∨ s.mCurrentState ≠ .shutdown) : BundleSettled s' := by
  intro halive
  rw [hsame.taken, hsame.sequence, hsame.doc]
  rcases hstate with hstate | hup
  · exact h (hstate ▸ halive)
  · exact h hup

theorem Follows.cancel (h : Follows lib sender s) : Follows lib sender s.cancel := by
  refine ⟨?_, ?_, h.sequence, h.keys, h.delivered, fun _ halive => absurd rfl halive, ?_, ?_⟩
  · intro r hr
    simp [MLSChannel.cancel, TransportStream.cancel, TransportStream.records] at hr
  · intro doc hdoc
    cases hdoc
  · intro hsome
    cases hsome
  · rcases h.turn with hturn | ⟨-, herror, taken, offender, htaken, hturn⟩
    · exact .inl hturn
    · exact .inr ⟨rfl, herror, taken, offender, htaken, hturn⟩

theorem bundleSettled_cancel (s : MLSChannel η Pri Pub) : BundleSettled s.cancel := fun halive => absurd rfl halive

theorem Follows.setError (h : Follows lib sender s) (errorCode : UInt16) (reason : String) :
    Follows lib sender (s.setError errorCode reason) := by
  unfold MLSChannel.setError
  split
  · exact h
  case isFalse hnone =>
    refine { h with turn := ?_ }
    rcases h.turn with hturn | ⟨hshutdown, herror, -⟩
    · exact .inl hturn
    · exact absurd (not_not.mp hnone) herror

end Turns

section Bundles

/-- A bundle is read back as it was written: with the same children in its keying element. -/
def ReadsBack (doc : Document) : Prop :=
  (cursorOfKeying (lib.createFromAutoDetect (lib.writeDocument doc))).map (·.element.children) =
    (cursorOfKeying doc).map (·.element.children)

instance (doc : Document) : Decidable (ReadsBack lib doc) :=
  inferInstanceAs (Decidable ((cursorOfKeying (lib.createFromAutoDetect (lib.writeDocument doc))).map (·.element.children) =
    (cursorOfKeying doc).map (·.element.children)))

variable {lib sender s}

theorem ReadsKeying.congr {encoding : SendEncoding Pub} {offer : DrawnOffer} {el el' : Element} (h : ReadsKeying lib encoding offer el)
    (hchildren : el'.children = el.children) : ReadsKeying lib encoding offer el' := by
  have hfirst : ∀ name, el'.findFirstChildElement name = el.findFirstChildElement name := by
    intro name
    rw [Tag.findFirstChildElement, Tag.childElements, hchildren]
    rfl
  constructor
  · rw [checkedText, hfirst]
    exact h.sequence
  · rw [checkedText, hfirst]
    exact h.nonce
  · rw [hfirst]
    exact h.encodingEl
  · rw [hfirst]
    exact h.keys

variable {b : OfferedBundle Pub}

theorem Sent.reads (h : Sent lib sender b) (hread : ∀ doc ∈ sender.bundles, ReadsBack lib doc) :
    ∃ keyingEl, cursorOfKeying (lib.createFromAutoDetect ((b.buffer lib).drop 4)) = some keyingEl ∧
      ReadsKeying lib b.encoding b.offer keyingEl.element := by
  have hbuffer : (b.buffer lib).drop 4 = lib.writeDocument (b.doc lib) := List.drop_left' (length_toBE 4 0)
  have hback := hread (b.doc lib) (h.bundles ▸ List.mem_singleton_self _)
  rw [ReadsBack, OfferedBundle.cursorOfKeying_doc, Option.map_some] at hback
  obtain ⟨keyingEl, hkeying, hchildren⟩ := Option.map_eq_some_iff.mp hback
  exact ⟨keyingEl, hbuffer ▸ hkeying, ReadsKeying.congr (b.keyingEl_reads lib) hchildren⟩

theorem SendsInOrder.sent_of_mem (h : SendsInOrder lib sender) {buffer : List UInt8} (hbuffer : buffer ∈ sender.written.map Prod.fst) :
    ∃ b, Sent lib sender b ∧ (buffer = b.buffer lib ∨ ∃ index ∈ sendIndexes, ∃ before plain,
      before ++ [plain] <+: lane index sender.encrypted ∧
        buffer = (before.foldl (KeyInfo.advance lib.toCrypto) (b.key lib index)).encoded lib.toCrypto index plain) := by
  rcases h.sending with hsilent | ⟨b, hsent⟩
  · rw [hsilent.written] at hbuffer
    cases hbuffer
  · refine ⟨b, hsent, ?_⟩
    obtain ⟨buffers, hwritten, hindexes, hunder⟩ := hsent.written
    rw [hwritten] at hbuffer
    rcases List.mem_cons.mp hbuffer with rfl | hdata
    · exact .inl rfl
    · have hindex := hindexes buffer hdata
      have hmem : buffer ∈ buffersUnder (algorithmIndex buffer) buffers := List.mem_filter.mpr ⟨hdata, by simp⟩
      rw [hunder _ hindex] at hmem
      obtain ⟨before, plain, hfront, hencoded⟩ := mem_outputs.mp hmem
      exact .inr ⟨_, hindex, before, plain, hfront, hencoded⟩

theorem algorithmIndex_buffer (b : OfferedBundle Pub) : algorithmIndex (b.buffer lib) = 0 := algorithmIndex_prefixed (by decide) _

theorem Sent.buffersUnder_written (h : Sent lib sender b) {index : Nat} (hindex : index ∈ sendIndexes) :
    buffersUnder index (sender.written.map Prod.fst) = outputs (KeyInfo.advance lib.toCrypto) (KeyInfo.encoded lib.toCrypto index)
      (b.key lib index) (lane index sender.encrypted) := by
  obtain ⟨buffers, hwritten, -, hunder⟩ := h.written
  have hbundle : algorithmIndex (b.buffer lib) ≠ index := by
    rw [algorithmIndex_buffer]
    exact Nat.ne_of_lt (sendIndexes_bound hindex).1
  rw [hwritten, ← hunder index hindex, buffersUnder, List.filter_cons_of_neg (by simp [hbundle])]
  rfl

theorem Sent.buffersUnder_zero (h : Sent lib sender b) : buffersUnder 0 (sender.written.map Prod.fst) = [b.buffer lib] := by
  obtain ⟨buffers, hwritten, hindexes, -⟩ := h.written
  have hnone : buffersUnder 0 buffers = [] := by
    apply List.filter_eq_nil_iff.mpr
    intro buffer hbuffer
    simpa using Nat.ne_of_gt (sendIndexes_bound (hindexes buffer hbuffer)).1
  rw [hwritten, buffersUnder, List.filter_cons_of_pos (by simp [algorithmIndex_buffer])]
  exact congrArg _ hnone

end Bundles

section Processing

variable {lib sender s} {b : OfferedBundle Pub} {turns : Nat} {tick : Time}

/-- The keys a receiver stores from the bundle of a sender are those of the offer. -/
theorem Processed.keys_offered {doc : Document} {r : Bool × MLSChannel η Pri Pub} (h : Processed lib s tick doc (true, r))
    (hlaws : lib.Laws) (hdistinct : Distinguishes lib s.toReceiveKeying b.offer.nonce b.encoding) {keyingEl : Cursor}
    (hkeying : cursorOfKeying doc = some keyingEl) (hreads : ReadsKeying lib b.encoding b.offer keyingEl.element) {index : Nat}
    {key : KeyInfo} (hfind : r.2.mReceiveKeys.find index = some key) : index ∈ sendIndexes ∧ key = b.key lib index := by
  cases h with
  | accepted context type fingerprint keyingEl' nonce encodingEl hkeying' hsigned hnonce hencoding hmatches hdecodes keys hkeys
      hsome =>
    cases hkeying.symm.trans hkeying'
    cases hreads.nonce.symm.trans hnonce
    cases hreads.encodingEl.symm.trans hencoding
    have hmatch := hmatches.resolve_right not_otherEncoding
    have hmatch' : EncodingMatches lib (s.cleared context type fingerprint).toReceiveKeying b.offer.nonce
        (encodingElement lib b.offer.nonce b.encoding) := by
      rcases hmatch with hm | hm
      · exact .inl { hm with }
      · exact .inr { hm with }
    have hdistinct' : Distinguishes lib (s.cleared context type fingerprint).toReceiveKeying b.offer.nonce b.encoding :=
      ⟨hdistinct.passphrase, hdistinct.privateKey⟩
    have hinputs := decryptsInputs hlaws hdistinct' hmatch' hdecodes
    rw [hkeys] at hfind
    exact extractKeys_offered hlaws hinputs hreads hfind

theorem Sent.buffer_mem (h : Sent lib sender b) : b.buffer lib ∈ sender.written.map Prod.fst := by
  obtain ⟨buffers, hwritten, -⟩ := h.written
  rw [hwritten]
  exact List.mem_cons_self

theorem Follows.cleared (h : Follows lib sender s) (context : String) (type : DecodingTypes) (fingerprint : String) :
    Follows lib sender (s.cleared context type fingerprint) := by
  refine { h with waiting := ?_, sequence := ?_, keys := ?_ }
  · intro doc hdoc
    cases hdoc
  · exact h.sequence.imp_left fun hzero => ⟨hzero.1, hzero.2.1, rfl⟩
  · intro index key hfind
    cases hfind

variable {r : Bool × Bool × MLSChannel η Pri Pub}

section

variable (h : Follows lib sender s) (halive : s.mCurrentState ≠ .shutdown) (hlaws : lib.Laws)
  (hsent : Sent lib sender b) (hread : ∀ doc ∈ sender.bundles, ReadsBack lib doc)
  (hdistinct : Distinguishes lib s.toReceiveKeying b.offer.nonce b.encoding)
include h halive hlaws hsent hread hdistinct

/-- A receiver that processes the bundle of a sender follows it, whether the bundle is accepted or not. -/
theorem Follows.processed (hprocessed : Processed lib s tick (lib.createFromAutoDetect ((b.buffer lib).drop 4)) r) :
    Follows lib sender r.2.2 ∧ BundleSettled r.2.2 ∧
      (r.1 = true → r.2.2.mCurrentState ≠ .shutdown ∧ r.2.2.mReceiveKeyingSignedDoc = none) := by
  obtain ⟨keyingEl, hkeying, hreads⟩ := hsent.reads hread
  have hturn := h.inTurn halive
  have hcopy := hprocessed
  cases hprocessed with
  | refused context type fingerprint errorCode reason =>
    have hcleared := h.cleared context type fingerprint
    exact ⟨(hcleared.setError errorCode reason).cancel, bundleSettled_cancel _, fun h => absurd h Bool.false_ne_true⟩
  | waits context type fingerprint returnResult =>
    have hcleared := h.cleared context type fingerprint
    refine ⟨⟨hcleared.stream, ?_, hcleared.sequence, hcleared.keys, hcleared.delivered, fun hnext _ => h.signing hnext halive,
      hcleared.paired, .inl hturn⟩, fun _ => .inr (.inr (Option.some_ne_none _)), fun h => absurd h Bool.false_ne_true⟩
    intro doc hdoc
    exact ⟨b.buffer lib, hsent.buffer_mem, algorithmIndex_buffer b, (Option.some.inj hdoc).symm⟩
  | badState context type fingerprint hprivate hpublic => exact absurd hpublic (h.paired hprivate)
  | accepted context type fingerprint keyingEl' nonce encodingEl hkeying' hsigned hnonce hencoding hmatches hdecodes keys hkeys
      hsome =>
    cases hkeying.symm.trans hkeying'
    have hzero : s.mNextReceiveSequenceNumber = 0 ∧ s.delivered = [] := by
      rcases h.sequence with hzero | hone
      · exact ⟨hzero.1, hzero.2.1⟩
      · have hsequence : text keyingEl.element "sequence" = "0" := (congrArg (Option.getD · "") hreads.sequence :)
        have htext := hsigned.sequence
        rw [hsequence, hone] at htext
        exact absurd htext (by decide)
    have hone : (s.mNextReceiveSequenceNumber + 1) % lib.ulongBound = 1 := by
      rw [hzero.1]
      exact Nat.mod_eq_of_lt (Nat.lt_trans (by decide) hlaws.ulongBound)
    obtain ⟨key, hkey, -⟩ := hsigned.signature
    refine ⟨⟨h.stream, ?_, .inr hone, ?_, h.delivered, ?_, h.paired, .inl hturn⟩, fun _ => .inr (.inl hone), fun _ => ⟨halive, rfl⟩⟩
    · intro doc hdoc
      cases hdoc
    · intro index key' hfind
      obtain ⟨hindex, hoffered⟩ := hcopy.keys_offered hlaws hdistinct hkeying hreads hfind
      refine ⟨hindex, (b.encoding, b.offer), hsent.offers ▸ List.mem_singleton_self _, ?_⟩
      have hnone : (s.cleared context type fingerprint).delivered = [] := hzero.2
      simp only [hnone, lane_nil, List.foldl_nil]
      exact hoffered
    · intro _ _
      exact hkey ▸ rfl

theorem Follows.process {keying : Option (List UInt8)}
    (hdoc : documentFor lib s keying = lib.createFromAutoDetect ((b.buffer lib).drop 4))
    (hprocess : stepProcessReceiveKeying lib turns tick s keying = some r) :
    Follows lib sender r.2.2 ∧ BundleSettled r.2.2 ∧
      (r.1 = true → r.2.2.mCurrentState ≠ .shutdown ∧ r.2.2.mReceiveKeyingSignedDoc = none) := by
  obtain ⟨q, hq, rfl⟩ := stepProcessReceiveKeying_processed lib s hprocess
  rw [hdoc] at hq
  obtain ⟨hfollows, hsettled, hgoes⟩ := h.processed halive hlaws hsent hread hdistinct hq
  have hsame : ∀ attempts, FollowsSame q.2.2 { q.2.2 with attempts := attempts } := fun _ => ⟨rfl, rfl, rfl, rfl, rfl, rfl, rfl, rfl, rfl, rfl⟩
  exact ⟨hfollows.same (hsame _) (.inl rfl), hsettled.same (hsame _) (.inl rfl), hgoes⟩

end

end Processing

section Buffers

variable {lib sender s} {b : OfferedBundle Pub} {streamBuffer : List UInt8} {streamHeader : Option η} {stream : TransportStream η}

@[simp] theorem setError_taken (errorCode : UInt16) (reason : String) : (s.setError errorCode reason).taken = s.taken := by
  unfold MLSChannel.setError
  split <;> rfl

@[simp] theorem setError_delivered (errorCode : UInt16) (reason : String) : (s.setError errorCode reason).delivered = s.delivered := by
  unfold MLSChannel.setError
  split <;> rfl

@[simp] theorem setError_sequence (errorCode : UInt16) (reason : String) :
    (s.setError errorCode reason).mNextReceiveSequenceNumber = s.mNextReceiveSequenceNumber := by
  unfold MLSChannel.setError
  split <;> rfl

section

variable (h : Follows lib sender s) (halive : s.mCurrentState ≠ .shutdown)
include h halive

/-- A channel that is shut down with an error by a buffer. -/
theorem Follows.refuses {s' : MLSChannel η Pri Pub} (htaken : s'.taken = s.taken ++ [streamBuffer])
    (hdelivered : s'.delivered = s.delivered)
    (hsequence : s'.mNextReceiveSequenceNumber = s.mNextReceiveSequenceNumber)
    (hkeys : s'.mReceiveKeys = s.mReceiveKeys ∨ s'.mReceiveKeys = []) (errorCode : UInt16) (reason : String)
    (hcode : errorCode ≠ 0) : Follows lib sender (s'.setError errorCode reason).cancel := by
  have hfields : (s'.setError errorCode reason).cancel.delivered = s.delivered := (setError_delivered errorCode reason).trans hdelivered
  have hstored : (s'.setError errorCode reason).cancel.mReceiveKeys = s'.mReceiveKeys := setError_keys s' errorCode reason
  have hnext : (s'.setError errorCode reason).cancel.mNextReceiveSequenceNumber = s.mNextReceiveSequenceNumber :=
    (setError_sequence errorCode reason).trans hsequence
  constructor
  · intro r hr
    simp [MLSChannel.cancel, TransportStream.cancel, TransportStream.records] at hr
  · intro doc hdoc
    cases hdoc
  · rw [hfields, hnext, hstored]
    refine h.sequence.imp_left fun hzero => ⟨hzero.1, hzero.2.1, ?_⟩
    rcases hkeys with hkeys | hkeys
    · exact hkeys.trans hzero.2.2
    · exact hkeys
  · rw [hfields, hstored]
    rcases hkeys with hkeys | hkeys
    · exact hkeys ▸ h.keys
    · intro index key hfind
      rw [hkeys] at hfind
      cases hfind
  · rw [hfields]
    exact h.delivered
  · exact fun _ halive => absurd rfl halive
  · intro hsome
    cases hsome
  · refine .inr ⟨rfl, setError_error s' errorCode reason hcode, s.taken, streamBuffer, (setError_taken errorCode reason).trans htaken, ?_⟩
    rw [hfields]
    exact h.inTurn halive

/-- The next buffer under an index is delivered. -/
theorem Follows.deliver (hsent : Sent lib sender b) {index : Nat} (hindex : index ∈ sendIndexes) {plain : List UInt8}
    {key : KeyInfo} (hkey : key = (lane index s.delivered).foldl (KeyInfo.advance lib.toCrypto) (b.key lib index))
    (hnext : lane index s.delivered ++ [plain] <+: lane index sender.encrypted)
    (hfind : s.mReceiveKeys.find index = some key) (hbuffer : streamBuffer = key.encoded lib.toCrypto index plain)
    (hrecords : ∀ r ∈ stream.records, r ∈ s.mReceiveStreamEncoded.records) :
    Follows lib sender ((s.takeBuffer streamBuffer stream).deliver streamBuffer plain streamHeader
      (s.mReceiveKeys.update index (key.advance lib.toCrypto plain))) := by
  have hfronted : algorithmIndex streamBuffer = index := hbuffer ▸ KeyInfo.algorithmIndex_encoded lib.toCrypto (sendIndexes_bound hindex).2 _ _
  have hdelivered : ((s.takeBuffer streamBuffer stream).deliver streamBuffer plain streamHeader
      (s.mReceiveKeys.update index (key.advance lib.toCrypto plain))).delivered = s.delivered ++ [(index, plain)] :=
    congrArg (fun i => s.delivered ++ [(i, plain)]) hfronted
  constructor
  · exact fun r hr => h.stream r (hrecords r hr)
  · exact h.waiting
  · right
    rcases h.sequence with hzero | hone
    · rw [hzero.2.2] at hfind
      cases hfind
    · exact hone
  · intro i key' hfind'
    rw [hdelivered]
    simp only [MLSChannel.deliver, KeyMap.find_update, hfind, Option.map_some] at hfind'
    split at hfind'
    case isTrue hsame =>
      cases hfind'
      refine ⟨hsame ▸ hindex, (b.encoding, b.offer), hsent.offers ▸ List.mem_singleton_self _, ?_⟩
      rw [hsame, lane_concat, if_pos rfl, List.foldl_append, hkey]
      rfl
    case isFalse hother =>
      rw [lane_concat, if_neg (Ne.symm hother)]
      exact h.keys i key' hfind'
  · intro i
    rw [hdelivered, lane_concat]
    split
    case isTrue hsame => exact hsame ▸ hnext
    case isFalse => exact h.delivered i
  · exact h.signing
  · exact h.paired
  · left
    rw [hdelivered]
    intro i
    obtain ⟨hfront, hlength⟩ := h.inTurn halive i
    have htaken : ((s.takeBuffer streamBuffer stream).deliver streamBuffer plain streamHeader
      (s.mReceiveKeys.update index (key.advance lib.toCrypto plain))).taken = s.taken ++ [streamBuffer] := rfl
    rw [htaken, buffersUnder_concat, hfronted, lane_concat]
    by_cases hsame : index = i
    · subst hsame
      rw [if_pos rfl, if_pos rfl]
      rw [hsent.buffersUnder_written hindex] at hfront ⊢
      have hfirst : buffersUnder index s.taken = outputs (KeyInfo.advance lib.toCrypto) (KeyInfo.encoded lib.toCrypto index)
          (b.key lib index) (lane index s.delivered) := by
        refine eq_of_prefix_of_length hfront (outputs_mono _ (h.delivered index)) ?_
        rw [hlength (Nat.ne_of_gt (sendIndexes_bound hindex).1), length_outputs]
      refine ⟨?_, fun hne => by simp [hlength hne]⟩
      rw [hfirst, hbuffer, hkey, ← outputs_concat]
      exact outputs_mono _ hnext
    · rw [if_neg hsame, if_neg hsame]
      exact ⟨hfront, hlength⟩

/-- A buffer that is delivered was the next one under its index. -/
theorem Follows.delivers (hlaws : lib.Laws) (hsender : SendsInOrder lib sender)
    (hfree : ∀ e ∈ sender.offers, ∀ index ∈ sendIndexes, KeyInfo.CollisionFree lib.toCrypto ((e.2.key index).keyInfo lib) (lane index sender.encrypted))
    (hread : s.mReceiveStreamEncoded.readBuffer = (some (streamBuffer, streamHeader), stream)) {output : List UInt8}
    {keys : KeyMap} (hdecode : decodeBuffer lib.toCrypto s.mReceiveKeys streamBuffer = .plain output keys) :
    Follows lib sender ((s.takeBuffer streamBuffer stream).deliver streamBuffer output streamHeader keys) := by
  have hrecords := TransportStream.records_of_readBuffer hread
  have hmem : streamBuffer ∈ sender.written.map Prod.fst := h.stream _ (hrecords ▸ List.mem_cons_self)
  obtain ⟨hnonzero, key, hfind, -⟩ := decodeBuffer_plain lib.toCrypto hdecode
  obtain ⟨b, hsent, hbundle | ⟨index, hindex, before, plain, hbefore, hbuffer⟩⟩ := hsender.sent_of_mem hmem
  · exact absurd (hbundle ▸ algorithmIndex_buffer b) hnonzero
  have hlt := (sendIndexes_bound hindex).2
  have hfronted : ofBE (streamBuffer.take 4) = index := hbuffer ▸ KeyInfo.algorithmIndex_encoded lib.toCrypto hlt _ _
  rw [hfronted] at hfind
  have hkey : key = (lane index s.delivered).foldl (KeyInfo.advance lib.toCrypto) (b.key lib index) := by
    obtain ⟨-, e, he, hkey⟩ := h.keys index key hfind
    rw [hsent.offers, List.mem_singleton] at he
    rw [hkey, he]
    rfl
  have hchains : KeyInfo.CollisionFree lib.toCrypto (b.key lib index) (lane index sender.encrypted) :=
    hfree (b.encoding, b.offer) (hsent.offers ▸ List.mem_singleton_self _) index hindex
  obtain ⟨hsame, houtput, hkeys⟩ := decodeBuffer_sent hchains hlaws.toLaws hlaws.length_hash (hlaws.length_hashMD5 _)
    (h.delivered index) hbefore hlt (hfind.trans (congrArg some hkey)) (hbuffer ▸ hdecode)
  subst houtput
  rw [hkeys, ← hkey]
  rw [← hsame, ← hkey] at hbuffer
  exact h.deliver halive hsent hindex hkey (hsame ▸ hbefore) hfind hbuffer fun r hr => hrecords ▸ List.mem_cons_of_mem _ hr

end

end Buffers

end MLSChannel

end OpenPeer
