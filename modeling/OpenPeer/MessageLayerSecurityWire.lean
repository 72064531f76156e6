import OpenPeer.MessageLayerSecurityAttack

/-!
# Replay on the wire

A sender and a receiver take their events in any order, and what the receiver is given to
read is made of buffers that the sender wrote. The receive step follows the sender from
one buffer to the next, and so does the receiver in every run of the two.
-/
namespace OpenPeer

open Bytes Chain Xml Runs

/-- What an event leaves in the encoded receive stream, if it is one of its other end. -/
def MLSEvent.receivedRecords {η Pri Pub : Type} : MLSEvent η Pri Pub → List (List UInt8 × Option η)
  | .receiveStreamEncoded stream => stream.records
  | _ => []

namespace MLSChannel

variable {η Pri Pub : Type} (lib : Libraries Pri Pub) (sender s : MLSChannel η Pri Pub)

section Receive

/-- No two of the texts that the chains of an offer hash collide. -/
def ChainsFree : Prop :=
  ∀ e ∈ sender.offers, ∀ index ∈ sendIndexes,
    KeyInfo.CollisionFree lib.toCrypto ((e.2.key index).keyInfo lib) (lane index sender.encrypted)

instance : Decidable (ChainsFree lib sender) :=
  inferInstanceAs (Decidable (∀ e ∈ sender.offers, ∀ index ∈ sendIndexes,
    KeyInfo.CollisionFree lib.toCrypto ((e.2.key index).keyInfo lib) (lane index sender.encrypted)))

/-- No secret of the receiver passes for one of the sender, in no bundle that it processed. -/
def SecretsDiscerned : Prop := ∀ e ∈ sender.offers, ∀ a ∈ s.attempts, Distinguishes lib a.before e.2.nonce e.1

/-- A sender that can be followed. -/
structure Followed : Prop where
  laws : lib.Laws
  inOrder : SendsInOrder lib sender
  read : ∀ doc ∈ sender.bundles, ReadsBack lib doc
  chains : ChainsFree lib sender

/-- A receiver between two buffers. -/
structure Goes : Prop where
  alive : s.mCurrentState ≠ .shutdown
  doc : s.mReceiveKeyingSignedDoc = none
  follows : Follows lib sender s
  settled : BundleSettled s

/-- A receiver that follows a sender, shut down or not. -/
structure Protected : Prop where
  follows : Follows lib sender s
  settled : BundleSettled s

variable {lib sender s} {s' : MLSChannel η Pri Pub} {turns : Nat}

theorem SecretsDiscerned.of_grows (h : SecretsDiscerned lib sender s') (hgrows : Grows s s') : SecretsDiscerned lib sender s :=
  fun e he a ha => h e he a (hgrows.attempts.subset ha)

variable {r : Bool × Bool × MLSChannel η Pri Pub} {b : OfferedBundle Pub}

theorem SecretsDiscerned.processed {tick : Time} {keying : Option (List UInt8)}
    (h : SecretsDiscerned lib sender r.2.2) (hsent : Sent lib sender b)
    (hprocess : stepProcessReceiveKeying lib turns tick s keying = some r) :
    Distinguishes lib s.toReceiveKeying b.offer.nonce b.encoding := by
  obtain ⟨q, -, hr⟩ := stepProcessReceiveKeying_processed lib s hprocess
  have hrecord : r.2.2.attempts = q.2.2.attempts ++ [⟨s.toReceiveKeying, documentFor lib s keying, tick, q.2.2.toReceiveKeying⟩] := by
    rw [hr]
  exact h (b.encoding, b.offer) (hsent.offers ▸ List.mem_singleton_self _) _
    (hrecord ▸ List.mem_append_right _ (List.mem_singleton_self _))

theorem Goes.protected (h : Goes lib sender s) : Protected lib sender s := ⟨h.follows, h.settled⟩

theorem Protected.same (h : Protected lib sender s) (hsame : FollowsSame s s')
    (hstate : s'.mCurrentState = s.mCurrentState ∨ s.mCurrentState ≠ .shutdown) : Protected lib sender s' :=
  ⟨h.follows.same hsame hstate, h.settled.same hsame hstate⟩

theorem Protected.setError_cancel (h : Protected lib sender s) (errorCode : UInt16) (reason : String) :
    Protected lib sender (s.setError errorCode reason).cancel :=
  ⟨(h.follows.setError errorCode reason).cancel, bundleSettled_cancel _⟩

theorem Followed.bundle (h : Followed lib sender) {buffer : List UInt8} (hbuffer : buffer ∈ sender.written.map Prod.fst)
    (hindex : algorithmIndex buffer = 0) : ∃ b, Sent lib sender b ∧ buffer = b.buffer lib := by
  obtain ⟨b, hsent, hbundle | ⟨index, hmem, before, plain, -, hencoded⟩⟩ := h.inOrder.sent_of_mem hbuffer
  · exact ⟨b, hsent, hbundle⟩
  · have hbound := sendIndexes_bound hmem
    rw [hencoded, KeyInfo.algorithmIndex_encoded lib.toCrypto hbound.2] at hindex
    exact absurd hindex (Nat.ne_of_gt hbound.1)

variable {streamBuffer : List UInt8} {streamHeader : Option η} {stream : TransportStream η} {tick : Time}

/-- The first bundle is processed. -/
theorem Goes.takeFirst (h : Goes lib sender s) (hsent : Sent lib sender b)
    (hread : s.mReceiveStreamEncoded.readBuffer = (some (b.buffer lib, streamHeader), stream))
    (hfirst : s.mNextReceiveSequenceNumber = 0) : Follows lib sender (s.takeBuffer (b.buffer lib) stream) := by
  have hrecords := TransportStream.records_of_readBuffer hread
  have hnone : buffersUnder 0 s.taken = [] := by
    rcases h.settled h.alive with hnone | hone | hdoc
    · exact hnone
    · exact absurd (hfirst.symm.trans hone) (by decide)
    · exact absurd h.doc hdoc
  have hturn := h.follows.inTurn h.alive
  constructor
  · exact fun r hr => h.follows.stream r (hrecords ▸ List.mem_cons_of_mem _ hr)
  · exact h.follows.waiting
  · exact h.follows.sequence
  · exact h.follows.keys
  · exact h.follows.delivered
  · exact h.follows.signing
  · exact h.follows.paired
  · left
    intro index
    have htaken : (s.takeBuffer (b.buffer lib) stream).taken = s.taken ++ [b.buffer lib] := rfl
    rw [htaken, buffersUnder_concat, algorithmIndex_buffer]
    by_cases hzero : 0 = index
    · subst hzero
      simp [hnone, hsent.buffersUnder_zero]
    · simp only [hzero, if_false]
      exact hturn index

/-- A bundle that comes again is refused: its sequence number has been used. -/
theorem Goes.refuseSecond (h : Goes lib sender s) (hfollowed : Followed lib sender)
    (hsent : Sent lib sender b) (hsecond : s.mNextReceiveSequenceNumber = 1)
    (hprocess : stepProcessReceiveKeying lib turns tick (s.takeBuffer (b.buffer lib) stream) (some (b.buffer lib)) = some r) :
    Protected lib sender r.2.2 ∧ r.1 = false := by
  obtain ⟨keyingEl, hkeying, hreads⟩ := hsent.reads hfollowed.read
  have hdoc : documentFor lib (s.takeBuffer (b.buffer lib) stream) (some (b.buffer lib)) =
      lib.createFromAutoDetect ((b.buffer lib).drop 4) := by
    simp only [documentFor, takeBuffer, h.doc, Option.getD_some]
  have hsequence : text keyingEl.element "sequence" = "0" := (congrArg (Option.getD · "") hreads.sequence :)
  have hused : text keyingEl.element "sequence" ≠ toString (s.takeBuffer (b.buffer lib) stream).mNextReceiveSequenceNumber := by
    rw [hsequence]
    exact fun hsame => absurd (hsame.trans (congrArg toString hsecond)) (by decide)
  obtain ⟨context, type, fingerprint, errorCode, reason, hcode, hstale⟩ :=
    (s.takeBuffer (b.buffer lib) stream).processKeying_stale lib turns tick hkeying (h.follows.signing hsecond h.alive) hused
  rw [stepProcessReceiveKeying, hdoc, hstale, Option.map_some] at hprocess
  cases hprocess
  have htaken : ((s.takeBuffer (b.buffer lib) stream).cleared context type fingerprint).taken = s.taken ++ [b.buffer lib] := rfl
  have hrefused : Follows lib sender
      (((s.takeBuffer (b.buffer lib) stream).cleared context type fingerprint).setError errorCode reason).cancel :=
    h.follows.refuses h.alive htaken rfl rfl (.inr rfl) errorCode reason hcode
  exact ⟨⟨hrefused.same ⟨rfl, rfl, rfl, rfl, rfl, rfl, rfl, rfl, rfl, rfl⟩ (.inl rfl), fun halive => absurd rfl halive⟩, rfl⟩

theorem Goes.takeBundle (h : Goes lib sender s) (hfollowed : Followed lib sender)
    (hread : s.mReceiveStreamEncoded.readBuffer = (some (streamBuffer, streamHeader), stream))
    (hindex : algorithmIndex streamBuffer = 0)
    (hprocess : stepProcessReceiveKeying lib turns tick (s.takeBuffer streamBuffer stream) (some streamBuffer) = some r)
    (hdiscerned : SecretsDiscerned lib sender r.2.2) :
    Protected lib sender r.2.2 ∧ (r.1 = true → Goes lib sender r.2.2) := by
  have hmem := h.follows.stream _ (TransportStream.records_of_readBuffer hread ▸ List.mem_cons_self)
  obtain ⟨b, hsent, rfl⟩ := hfollowed.bundle hmem hindex
  rcases h.follows.sequence with ⟨hfirst, -⟩ | hsecond
  · have hdistinct := hdiscerned.processed hsent hprocess
    have hdoc : documentFor lib (s.takeBuffer (b.buffer lib) stream) (some (b.buffer lib)) =
        lib.createFromAutoDetect ((b.buffer lib).drop 4) := by
      simp only [documentFor, takeBuffer, h.doc, Option.getD_some]
    obtain ⟨hfollows, hsettled, hgoes⟩ :=
      (h.takeFirst hsent hread hfirst).process h.alive hfollowed.laws hsent hfollowed.read hdistinct hdoc hprocess
    exact ⟨⟨hfollows, hsettled⟩, fun htrue => ⟨(hgoes htrue).1, (hgoes htrue).2, hfollows, hsettled⟩⟩
  · obtain ⟨hprotected, hfalse⟩ := h.refuseSecond hfollowed hsent hsecond hprocess
    exact ⟨hprotected, fun htrue => absurd (hfalse.symm.trans htrue) Bool.false_ne_true⟩

theorem Protected.resume (h : Protected lib sender s) (halive : s.mCurrentState ≠ .shutdown)
    (hfollowed : Followed lib sender) (hsome : s.mReceiveKeyingSignedDoc.isSome = true)
    (hprocess : stepProcessReceiveKeying lib turns tick s none = some r)
    (hdiscerned : SecretsDiscerned lib sender r.2.2) :
    Protected lib sender r.2.2 ∧ (r.1 = true → Goes lib sender r.2.2) := by
  obtain ⟨doc, hdoc⟩ := Option.isSome_iff_exists.mp hsome
  obtain ⟨buffer, hmem, hindex, hread⟩ := h.follows.waiting doc hdoc
  obtain ⟨b, hsent, rfl⟩ := hfollowed.bundle hmem hindex
  have hdistinct := hdiscerned.processed hsent hprocess
  have hfor : documentFor lib s none = lib.createFromAutoDetect ((b.buffer lib).drop 4) := by
    simp only [documentFor, hdoc, hread]
  obtain ⟨hfollows, hsettled, hgoes⟩ := h.follows.process halive hfollowed.laws hsent hfollowed.read hdistinct hfor hprocess
  exact ⟨⟨hfollows, hsettled⟩, fun htrue => ⟨(hgoes htrue).1, (hgoes htrue).2, hfollows, hsettled⟩⟩

/-- Every turn of the receive loop follows the sender. -/
theorem follows_rule (hfollowed : Followed lib sender) : ReceiveRule lib turns
    (fun s => SecretsDiscerned lib sender s → Goes lib sender s) (fun r => SecretsDiscerned lib sender r.2 → Protected lib sender r.2) where
  ends _ h hdiscerned := (h hdiscerned).protected
  waits s h hdiscerned := by
    have hgoes := h hdiscerned
    exact hgoes.protected.same ⟨rfl, rfl, rfl, rfl, rfl, rfl, rfl, rfl, rfl, rfl⟩ (.inr hgoes.alive)
  fails s streamBuffer streamHeader stream errorCode reason h hread hdecode hdiscerned := by
    have hkept : ((s.takeBuffer streamBuffer stream).setError errorCode reason).cancel.attempts = s.attempts :=
      setError_attempts _ errorCode reason
    have hgoes := h fun e he a ha => hdiscerned e he a (hkept ▸ ha)
    have htaken : (s.takeBuffer streamBuffer stream).taken = s.taken ++ [streamBuffer] := rfl
    exact ⟨hgoes.follows.refuses hgoes.alive htaken rfl rfl (.inl rfl) errorCode reason (decodeBuffer_failed hdecode),
      bundleSettled_cancel _⟩
  delivers s streamBuffer streamHeader stream output keys h hread hdecode hdiscerned := by
    have hgoes := h hdiscerned
    refine ⟨hgoes.alive, hgoes.doc, hgoes.follows.delivers hgoes.alive hfollowed.laws hfollowed.inOrder hfollowed.chains hread hdecode, ?_⟩
    intro halive
    have htaken : ((s.takeBuffer streamBuffer stream).deliver streamBuffer output streamHeader keys).taken =
      s.taken ++ [streamBuffer] := rfl
    have hnonzero : algorithmIndex streamBuffer ≠ 0 := (decodeBuffer_plain lib.toCrypto hdecode).1
    rw [htaken, buffersUnder_concat, if_neg hnonzero]
    exact hgoes.settled halive
  processes s streamBuffer streamHeader stream tick r h hread hdecode hprocess := by
    have hindex : algorithmIndex streamBuffer = 0 := (decodeBuffer_keying lib.toCrypto hdecode).2
    have hgrows : Grows s r.2.2 := by
      refine stepProcessReceiveKeying_grows ?_ hprocess
      exact ⟨List.prefix_rfl, List.prefix_rfl, List.prefix_rfl, List.prefix_rfl, List.prefix_rfl⟩
    constructor
    · intro htrue hdiscerned
      exact ((h (hdiscerned.of_grows hgrows)).takeBundle hfollowed hread hindex hprocess hdiscerned).2 htrue
    · intro _ hdiscerned
      exact ((h (hdiscerned.of_grows hgrows)).takeBundle hfollowed hread hindex hprocess hdiscerned).1

theorem stepReceive_protected (tick : Nat → Time) (h : Protected lib sender s) (halive : s.mCurrentState ≠ .shutdown)
    (hfollowed : Followed lib sender) {r : Bool × MLSChannel η Pri Pub} (hreceive : stepReceive lib turns tick s = some r)
    (hdiscerned : SecretsDiscerned lib sender r.2) : Protected lib sender r.2 := by
  refine (follows_rule hfollowed).stepReceive tick ?_ ?_ ?_ ?_ hreceive hdiscerned
  · exact fun _ => h
  · exact fun _ => h.same ⟨rfl, rfl, rfl, rfl, rfl, rfl, rfl, rfl, rfl, rfl⟩ (.inr halive)
  · exact fun hnone _ => ⟨halive, hnone, h.follows, h.settled⟩
  · intro tick r hsome hprocess
    constructor
    · intro htrue hdiscerned
      exact (h.resume halive hfollowed hsome hprocess hdiscerned).2 htrue
    · intro _ hdiscerned
      exact (h.resume halive hfollowed hsome hprocess hdiscerned).1

end Receive

section Events

variable {lib sender s} {s' : MLSChannel η Pri Pub} {turns : Nat}

theorem step_protected (input : StepInput) (h : Protected lib sender s) (hfollowed : Followed lib sender)
    (hstep : s.step lib turns input = some s') (hdiscerned : SecretsDiscerned lib sender s') : Protected lib sender s' := by
  unfold step at hstep
  split at hstep
  · cases hstep
    exact ⟨h.follows.cancel, bundleSettled_cancel s⟩
  case isFalse hup =>
    have halive := not_isShutdown hup
    obtain ⟨r, hreceive, rfl⟩ := Option.map_eq_some_iff.mp hstep
    split at hdiscerned
    case isTrue hgoes =>
      rw [if_pos hgoes]
      have hreceived := stepReceive_protected input.tick h halive hfollowed hreceive
        (hdiscerned.of_grows (stepAfterReceive_grows input))
      have hstill : r.2.mCurrentState ≠ .shutdown := by
        rcases stepReceive_leavesSending lib s turns input.tick hreceive with ⟨-, hstays⟩ | ⟨hleft, -⟩
        · exact hstays.alive halive
        · exact absurd (hleft.symm.trans hgoes) Bool.false_ne_true
      rcases stepAfterReceive_receiving lib r.2 input with ⟨hsame, -⟩ | ⟨errorCode, reason, -, hcancelled⟩
      · exact hreceived.same (.of_receiving hsame) (.inr hstill)
      · rw [hcancelled]
        exact hreceived.setError_cancel errorCode reason
    case isFalse hstops =>
      rw [if_neg hstops]
      exact stepReceive_protected input.tick h halive hfollowed hreceive hdiscerned

theorem Configured.protected (h : Protected lib sender s) (hset : Configured s s') : Protected lib sender s' := by
  cases hset with
  | same => exact h
  | set localContextID remotePublicKey sendingPassphrase privateKey publicKey receivingPassphrase signingPublicKey halive hsigning
      hpair =>
    have hturn := h.follows.inTurn halive
    refine ⟨⟨h.follows.stream, h.follows.waiting, h.follows.sequence, h.follows.keys, h.follows.delivered, ?_, ?_, .inl hturn⟩,
      fun _ => h.settled halive⟩
    · exact fun hone _ => hsigning (h.follows.signing hone halive)
    · intro hsome
      rcases hpair with ⟨hprivate, hpublic⟩ | hpublic
      · have hpaired := h.follows.paired (hprivate ▸ hsome)
        exact hpublic ▸ hpaired
      · exact hpublic

/-- What the channel is given to read comes from the sender. -/
def GivenOf (sender : MLSChannel η Pri Pub) (e : MLSEvent η Pri Pub) : Prop :=
  ∀ r ∈ e.receivedRecords, r.1 ∈ sender.written.map Prod.fst

instance (sender : MLSChannel η Pri Pub) (e : MLSEvent η Pri Pub) : Decidable (GivenOf sender e) :=
  inferInstanceAs (Decidable (∀ r ∈ e.receivedRecords, r.1 ∈ sender.written.map Prod.fst))

variable [DecidableEq Pri] [DecidableEq Pub]

theorem handle_protected {e : MLSEvent η Pri Pub} (h : Protected lib sender s) (hfollowed : Followed lib sender)
    (hgiven : GivenOf sender e) (hhandle : s.handle lib turns e = some s') (hdiscerned : SecretsDiscerned lib sender s') :
    Protected lib sender s' := by
  cases handle_handled lib s hhandle with
  | configured _ hset => exact hset.protected h
  | signed => exact h.same ⟨rfl, rfl, rfl, rfl, rfl, rfl, rfl, rfl, rfl, rfl⟩ (.inl rfl)
  | notified =>
    unfold notifySendKeyingMaterialSigned
    split
    · exact h
    case isFalse hup => exact h.same ⟨rfl, rfl, rfl, rfl, rfl, rfl, rfl, rfl, rfl, rfl⟩ (.inr (not_isShutdown hup))
  | cancelled => exact ⟨h.follows.cancel, bundleSettled_cancel s⟩
  | stepped _ input hstep => exact step_protected input h hfollowed hstep hdiscerned
  | receiveReady input hstep =>
    have hready : Protected lib sender s.onReceiveStreamDecodedReady :=
      h.same ⟨TransportStream.notifyReaderReadyToRead_records, rfl, rfl, rfl, rfl, rfl, rfl, rfl, rfl, rfl⟩ (.inl rfl)
    exact step_protected input hready hfollowed hstep hdiscerned
  | sendReady input hstep =>
    have hready : Protected lib sender s.onSendStreamEncodedReady :=
      h.same ⟨rfl, rfl, rfl, rfl, rfl, rfl, rfl, rfl, rfl, rfl⟩ (.inl rfl)
    exact step_protected input hready hfollowed hstep hdiscerned
  | receiveEncoded stream =>
    have hf := h.follows
    exact ⟨{ hf with stream := hgiven }, h.settled⟩
  | receiveDecoded | sendDecoded | sendEncoded => exact h.same ⟨rfl, rfl, rfl, rfl, rfl, rfl, rfl, rfl, rfl, rfl⟩ (.inl rfl)

end Events

end MLSChannel

/-- A sender and a receiver. -/
structure MLSPair (η Pri Pub : Type) where
  sender : MLSChannel η Pri Pub
  receiver : MLSChannel η Pri Pub

inductive MLSPairEvent (η Pri Pub : Type) where
  | sender (e : MLSEvent η Pri Pub)
  | receiver (e : MLSEvent η Pri Pub)

namespace MLSPair

variable {η Pri Pub : Type} (lib : Libraries Pri Pub) (turns : Nat)

/-- Two channels at their creation; the receiver has nothing to read. -/
def create (receiveStreamEncoded receiveStreamDecoded sendStreamDecoded sendStreamEncoded : TransportStream η) (contextID : String)
    (receiverReceiveStreamDecoded receiverSendStreamDecoded receiverSendStreamEncoded : TransportStream η)
    (receiverContextID : String) : MLSPair η Pri Pub where
  sender := .create receiveStreamEncoded receiveStreamDecoded sendStreamDecoded sendStreamEncoded contextID
  receiver := .create .create receiverReceiveStreamDecoded receiverSendStreamDecoded receiverSendStreamEncoded receiverContextID

/-- What the receiver delivered under each index is the first part of what the sender encrypted under it; and
either all buffers it took were in their turn, or the last was not, and ended the channel. -/
structure InSequence (p : MLSPair η Pri Pub) : Prop where
  delivered : ∀ index, lane index p.receiver.delivered <+: lane index p.sender.encrypted
  turn : MLSChannel.InTurn p.sender p.receiver.taken p.receiver.delivered ∨ MLSChannel.Refused p.sender p.receiver

/-- What is assumed of a run: bundles are read as they were written, and nothing that was hashed collides. -/
structure Undisturbed (p : MLSPair η Pri Pub) : Prop where
  read : ∀ doc ∈ p.sender.bundles, MLSChannel.ReadsBack lib doc
  chains : MLSChannel.ChainsFree lib p.sender
  secrets : MLSChannel.SecretsDiscerned lib p.sender p.receiver

/-- The sender sends in order, and the receiver follows it. -/
structure Guarded (p : MLSPair η Pri Pub) : Prop where
  sender : MLSChannel.SendsInOrder lib p.sender
  receiver : MLSChannel.Protected lib p.sender p.receiver

variable {lib turns} {p p' : MLSPair η Pri Pub}

theorem Guarded.inSequence (h : Guarded lib p) : InSequence p := ⟨h.receiver.follows.delivered, h.receiver.follows.turn⟩

theorem create_guarded (receiveStreamEncoded receiveStreamDecoded sendStreamDecoded sendStreamEncoded : TransportStream η)
    (contextID : String) (receiverReceiveStreamDecoded receiverSendStreamDecoded receiverSendStreamEncoded : TransportStream η)
    (receiverContextID : String) : Guarded lib
      (create receiveStreamEncoded receiveStreamDecoded sendStreamDecoded sendStreamEncoded contextID receiverReceiveStreamDecoded
        receiverSendStreamDecoded receiverSendStreamEncoded receiverContextID : MLSPair η Pri Pub) := by
  refine ⟨MLSChannel.create_sendsInOrder _ _ _ _ _, ?_, fun _ => .inl rfl⟩
  constructor
  · exact fun _ hr => absurd hr List.not_mem_nil
  · intro doc hdoc
    cases hdoc
  · exact .inl ⟨rfl, rfl, rfl⟩
  · intro index key hfind
    cases hfind
  · exact fun _ => List.nil_prefix
  · intro hone
    cases hone
  · intro hsome
    cases hsome
  · exact .inl fun _ => ⟨List.nil_prefix, fun _ => rfl⟩

theorem Undisturbed.of_grows (h : Undisturbed lib p') (hsender : MLSChannel.Grows p.sender p'.sender)
    (hreceiver : MLSChannel.Grows p.receiver p'.receiver) : Undisturbed lib p := by
  constructor
  · exact fun doc hdoc => h.read doc (hsender.bundles.subset hdoc)
  · intro e he index hindex
    obtain ⟨more, hmore⟩ := hsender.encrypted
    refine (h.chains e (hsender.offers.subset he) index hindex).mono ?_
    rw [← hmore, lane_append]
    exact List.prefix_append _ _
  · exact fun e he a ha => h.secrets e (hsender.offers.subset he) a (hreceiver.attempts.subset ha)

variable [DecidableEq Pri] [DecidableEq Pub]

/-- Whoever holds the wire gives the receiver any buffers of the sender to read, and no others. -/
def handle (lib : Libraries Pri Pub) (turns : Nat) (p : MLSPair η Pri Pub) : MLSPairEvent η Pri Pub → Option (MLSPair η Pri Pub)
  | .sender e => (p.sender.handle lib turns e).map fun s => { p with sender := s }
  | .receiver e =>
    if MLSChannel.GivenOf p.sender e then (p.receiver.handle lib turns e).map fun s => { p with receiver := s } else some p

def next (lib : Libraries Pri Pub) (turns : Nat) (p : Option (MLSPair η Pri Pub)) (e : MLSPairEvent η Pri Pub) :
    Option (MLSPair η Pri Pub) :=
  p.bind fun p => p.handle lib turns e

theorem handle_undisturbed {e : MLSPairEvent η Pri Pub} (hhandle : p.handle lib turns e = some p') (h : Undisturbed lib p') :
    Undisturbed lib p := by
  cases e with
  | sender e =>
    obtain ⟨s, hs, rfl⟩ := Option.map_eq_some_iff.mp hhandle
    exact h.of_grows (MLSChannel.handle_grows hs) (.refl _)
  | receiver e =>
    rw [handle] at hhandle
    split at hhandle
    · obtain ⟨s, hs, rfl⟩ := Option.map_eq_some_iff.mp hhandle
      exact h.of_grows (.refl _) (MLSChannel.handle_grows hs)
    · cases hhandle
      exact h

theorem handle_guarded {e : MLSPairEvent η Pri Pub} (h : Guarded lib p) (hlaws : lib.Laws) (hhandle : p.handle lib turns e = some p')
    (hundisturbed : Undisturbed lib p') : Guarded lib p' := by
  have hbefore := handle_undisturbed hhandle hundisturbed
  cases e with
  | sender e =>
    obtain ⟨s, hs, rfl⟩ := Option.map_eq_some_iff.mp hhandle
    exact ⟨MLSChannel.handle_sendsInOrder e h.sender hs,
      h.receiver.follows.grows (MLSChannel.handle_grows hs), h.receiver.settled⟩
  | receiver e =>
    rw [handle] at hhandle
    split at hhandle
    case isTrue hgiven =>
      obtain ⟨s, hs, rfl⟩ := Option.map_eq_some_iff.mp hhandle
      have hfollowed : MLSChannel.Followed lib p.sender := ⟨hlaws, h.sender, hbefore.read, hbefore.chains⟩
      exact ⟨h.sender, MLSChannel.handle_protected h.receiver hfollowed hgiven hs hundisturbed.secrets⟩
    case isFalse =>
      cases hhandle
      exact h

theorem run_guarded (hlaws : lib.Laws) {start : MLSPair η Pri Pub} (hstart : Guarded lib start) (es : List (MLSPairEvent η Pri Pub))
    (hrun : run (next lib turns) (some start) es = some p) (hundisturbed : Undisturbed lib p) : Guarded lib p := by
  have hinv : ∀ p, run (next lib turns) (some start) es = some p → Undisturbed lib p → Guarded lib p := by
    refine run_invariant_always (fun o : Option (MLSPair η Pri Pub) => ∀ p, o = some p → Undisturbed lib p → Guarded lib p) ?_ _ es ?_
    · intro o e ho p' hnext hundisturbed
      obtain ⟨p, rfl, hhandle⟩ := Option.bind_eq_some_iff.mp hnext
      exact handle_guarded (ho p rfl (handle_undisturbed hhandle hundisturbed)) hlaws hhandle hundisturbed
    · rintro p ⟨⟩ -
      exact hstart
  exact hinv p hrun hundisturbed

/-- In every run of the two, whatever is dropped, repeated, reordered or kept back between them. -/
theorem delivers_in_sequence (lib : Libraries Pri Pub) (hlaws : lib.Laws) (turns : Nat)
    (receiveStreamEncoded receiveStreamDecoded sendStreamDecoded sendStreamEncoded : TransportStream η) (contextID : String)
    (receiverReceiveStreamDecoded receiverSendStreamDecoded receiverSendStreamEncoded : TransportStream η) (receiverContextID : String)
    (es : List (MLSPairEvent η Pri Pub)) (p : MLSPair η Pri Pub)
    (hrun : run (next lib turns)
      (some (create receiveStreamEncoded receiveStreamDecoded sendStreamDecoded sendStreamEncoded contextID receiverReceiveStreamDecoded
        receiverSendStreamDecoded receiverSendStreamEncoded receiverContextID)) es = some p)
    (hundisturbed : Undisturbed lib p) : InSequence p :=
  (run_guarded hlaws (create_guarded _ _ _ _ _ _ _ _ _) es hrun hundisturbed).inSequence

end MLSPair

namespace OfferSample

open MLSChannel

theorem nibble_hexDigit : ∀ n < 16, nibble (Char.ofNat (hexDigit n).toNat) = n := by
  decide

theorem fromHex_hexText (bytes : List UInt8) : fromHex (hexText bytes) = bytes := by
  rw [fromHex, hexText, String.toList_ofList]
  induction bytes with
  | nil => rfl
  | cons b bytes ih =>
    have hb := b.toNat_lt
    have hhigh := nibble_hexDigit (b.toNat / 16) (by omega)
    have hlow := nibble_hexDigit (b.toNat % 16) (Nat.mod_lt _ (by decide))
    have hvalue : 16 * (b.toNat / 16) + b.toNat % 16 = b.toNat := Nat.div_add_mod _ _
    simp only [convertToHex_cons, List.map_cons, octets, hhigh, hlow, hvalue, ih, UInt8.ofNat_toNat]

theorem addStream_addStream (stream buffer : List UInt8) : addStream stream (addStream stream buffer) = buffer := by
  induction buffer generalizing stream with
  | nil => cases stream <;> rfl
  | cons b buffer ih =>
    cases stream with
    | nil => simp only [addStream, ih]
    | cons k stream => simp only [addStream, ih, UInt8.xor_assoc, UInt8.xor_self, UInt8.xor_zero]

theorem fromBase64_toBase64 (bytes : List UInt8) : fromBase64 (toBase64 bytes) = bytes := by
  have htable : ∀ e ∈ base64, fromBase64 e.2.2 = toBE e.1 e.2.1 := by
    decide +kernel
  have hstar : ∀ e ∈ base64, e.2.2.toList.head? ≠ some '*' := by
    decide +kernel
  unfold toBase64
  cases hfind : base64.find? fun e => e.1 == bytes.length && e.2.1 == ofBE bytes with
  | some e =>
    have hentry := List.find?_some hfind
    simp only [Bool.and_eq_true, beq_iff_eq] at hentry
    rw [Option.map_some, Option.getD_some, htable e (List.mem_of_find?_eq_some hfind), hentry.1, hentry.2]
    exact toBE_ofBE bytes
  | none =>
    have htext : ("*" ++ hexText bytes).toList = '*' :: (hexText bytes).toList := by simp
    have hnone : base64.find? (·.2.2 == "*" ++ hexText bytes) = none := by
      apply List.find?_eq_none.mpr
      intro e he hsame
      have hhead := hstar e he
      rw [beq_iff_eq.mp hsame, htext] at hhead
      exact hhead rfl
    rw [Option.map_none, Option.getD_none, fromBase64, hnone, htext]
    exact fromHex_hexText bytes

theorem colon_notMem_toBase64 (bytes : List UInt8) : ':' ∉ (toBase64 bytes).toList := by
  have htable : ∀ e ∈ base64, ':' ∉ e.2.2.toList := by
    decide +kernel
  unfold toBase64
  cases hfind : base64.find? fun e => e.1 == bytes.length && e.2.1 == ofBE bytes with
  | some e => exact htable e (List.mem_of_find?_eq_some hfind)
  | none => simp [colon_notMem_hexText]

theorem length_lookupBytes (table : List (Nat × Nat)) (length : Nat) (bytes : List UInt8) :
    (lookupBytes table length bytes).length = length := length_toBE _ _

theorem libraries_laws : libraries.Laws where
  decrypt_encrypt key iv buffer := addStream_addStream (keystream iv) buffer
  encrypt_nil key iv := by
    show addStream (keystream iv) [] = []
    cases keystream iv <;> rfl
  length_hmac key := length_lookupBytes keyedDigests 20
  length_hash buffer := by
    show (if 1000 < buffer.length then digest else lookupBytes digests 20 buffer).length = 20
    split
    · exact length_toBE _ _
    · exact length_lookupBytes digests 20 buffer
  length_hashMD5 buffer := by
    have hlength := length_lookupBytes vectors 16 buffer
    exact fun h => absurd (hlength.symm.trans h) (by decide)
  convertFromHex_hexText := fromHex_hexText
  convertFromBase64_convertToBase64 := fromBase64_toBase64
  colon_notMem_convertToBase64 := colon_notMem_toBase64
  numeric_toString _ h := Numeric.unsigned_toString h
  ulongBound := by decide

/-- The receiver knows the passphrase and the signing key, reads the bundle and a buffer, and is given the buffer again. -/
def replays : List (MLSPairEvent Unit Unit Unit) :=
  let bundle := toBE 4 0 ++ bundleText
  let buffer := toBE 4 1 ++ toBE 22 0xb8e1b88465db2c8344dc0ee67b6c9cb6fbfe51792070
  sends.map .sender ++
    [.receiver (.setReceiveKeyingDecodingPassphrase "secret"), .receiver (.setReceiveKeyingMaterialSigningPublicKey ()),
      .receiver (.receiveStreamEncoded ((TransportStream.create.write bundle none).write buffer none)),
      .receiver (.onReceiveStreamDecodedReady input), .receiver (.receiveStreamEncoded (TransportStream.create.write buffer none)),
      .receiver (.onWake input)]

/-- The two at the end of that run, and what can be seen of them. -/
def replayed : Option (MLSPair Unit Unit Unit) :=
  run (MLSPair.next libraries 1) (some (MLSPair.create .create .create .create .create "alice" .create .create .create "bob")) replays

def passphraseOf : SendEncoding Unit → String
  | .passphrase passphrase => passphrase
  | .publicKey _ => ""

/-- What is asked of the two, as far as it can be computed. -/
def Computed (p : MLSPair Unit Unit Unit) : Prop :=
  (∀ doc ∈ p.sender.bundles, ReadsBack libraries doc) ∧ ChainsFree libraries p.sender ∧
    (∀ e ∈ p.sender.offers, passphraseOf e.1 = "secret") ∧
    ∀ a ∈ p.receiver.attempts, a.before.mReceivingDecodingPassphrase = "secret" ∧ a.before.mReceiveDecodingPrivateKey = none

instance (p : MLSPair Unit Unit Unit) : Decidable (Computed p) :=
  inferInstanceAs (Decidable ((∀ doc ∈ p.sender.bundles, ReadsBack libraries doc) ∧ ChainsFree libraries p.sender ∧
    (∀ e ∈ p.sender.offers, passphraseOf e.1 = "secret") ∧
    ∀ a ∈ p.receiver.attempts, a.before.mReceivingDecodingPassphrase = "secret" ∧ a.before.mReceiveDecodingPrivateKey = none))

theorem Computed.undisturbed {p : MLSPair Unit Unit Unit} (h : Computed p) : MLSPair.Undisturbed libraries p := by
  obtain ⟨hread, hchains, hoffers, hattempts⟩ := h
  refine ⟨hread, hchains, ?_⟩
  intro e he a ha
  obtain ⟨hpassphrase, hnone⟩ := hattempts a ha
  constructor
  · intro passphrase hencoding _
    rw [hpassphrase, ← hoffers e he, hencoding]
    rfl
  · intro key privateKey _ hprivate
    exact absurd (hnone.symm.trans hprivate) (Option.some_ne_none _).symm

theorem replayed_seen : replayed.map (fun p => (p.receiver.delivered, p.receiver.taken.map algorithmIndex, p.receiver.mCurrentState,
    p.receiver.mLastError, decide (Computed p))) = some ([(1, utf8 "hi")], [0, 1, 1], .shutdown, unauthorized, true) := by
  decide +kernel

theorem hi_delivered_once : ∃ p, replayed = some p ∧ p.receiver.delivered = [(1, utf8 "hi")] ∧
    p.receiver.taken.map algorithmIndex = [0, 1, 1] ∧ p.receiver.mCurrentState = .shutdown ∧ p.receiver.mLastError = unauthorized ∧
    MLSPair.InSequence p := by
  obtain ⟨p, hrun, hseen⟩ := Option.map_eq_some_iff.mp replayed_seen
  simp only [Prod.mk.injEq] at hseen
  obtain ⟨hdelivered, htaken, hstate, herror, hcomputed⟩ := hseen
  refine ⟨p, hrun, hdelivered, htaken, hstate, herror, ?_⟩
  exact MLSPair.delivers_in_sequence libraries libraries_laws 1 .create .create .create .create "alice" .create .create .create "bob"
    replays p hrun (of_decide_eq_true hcomputed).undisturbed

end OfferSample

end OpenPeer
