import OpenPeer.MessageLayerSecurityChecks

/-!
# The two halves of a channel

The receive step leaves the sending half alone and the rest of the step the receiving
half, unless the channel is cancelled. A step that cancels ends with it.
-/
namespace OpenPeer

open Bytes Xml

namespace MLSChannel

variable {η Pri Pub : Type} (lib : Libraries Pri Pub) (s : MLSChannel η Pri Pub)

/-- The receiving half; the rest is wiped. -/
def receiving : MLSChannel η Pri Pub :=
  { s with
    mCurrentState := .pending
    mLocalContextID := ""
    mSendingEncodingRemotePublicKey := none
    mSendingEncodingPassphrase := ""
    mSendKeyingNeedingToSignDoc := none
    mSendKeyingNeedToSignEl := false
    mSendStreamDecoded := .create
    mSendStreamEncoded := .create
    mSendStreamEncodedWriteReady := false
    mSendKeys := []
    encrypted := []
    offers := []
    bundles := []
    written := [] }

/-- The sending half. -/
def sending : MLSChannel η Pri Pub :=
  { s with
    toReceiveKeying := .initial
    mReceiveStreamEncoded := .create
    mReceiveStreamDecoded := .create
    mReceiveStreamDecodedWriteReady := false
    attempts := []
    taken := []
    delivered := [] }

/-- The state is the same, or one in which the channel waits. -/
def StaysUp (s s' : MLSChannel η Pri Pub) : Prop :=
  s'.mCurrentState = s.mCurrentState ∨ s'.mCurrentState = .waitingForNeededInformation

variable {s' : MLSChannel η Pri Pub}

theorem StaysUp.trans {s s'' : MLSChannel η Pri Pub} (h : StaysUp s s') (h' : StaysUp s' s'') : StaysUp s s'' := by
  rcases h' with h' | h'
  · rcases h with h | h
    · exact .inl (h'.trans h)
    · exact .inr (h'.trans h)
  · exact .inr h'

theorem StaysUp.alive {s : MLSChannel η Pri Pub} (h : StaysUp s s') (halive : s.mCurrentState ≠ .shutdown) :
    s'.mCurrentState ≠ .shutdown := by
  rcases h with h | h
  · rwa [h]
  · simp [h]

theorem setError_cancel_sending (errorCode : UInt16) (reason : String) :
    (s.setError errorCode reason).cancel.sending = s.cancel.sending := by
  unfold setError
  split <;> rfl

theorem cancel_sending {s : MLSChannel η Pri Pub} (h : s'.sending = s.sending) :
    s'.cancel.sending = s.cancel.sending := by
  have hcancel : ∀ s : MLSChannel η Pri Pub, s.cancel.sending = s.sending.cancel.sending := fun _ => rfl
  rw [hcancel, h, ← hcancel]

section Rule

/-- What the receive step keeps: `P` of a channel that goes on with the next buffer, `Q` of the outcome. -/
structure ReceiveRule (turns : Nat) (P : MLSChannel η Pri Pub → Prop) (Q : Bool × MLSChannel η Pri Pub → Prop) : Prop where
  ends : ∀ s, P s → Q (true, s)
  waits : ∀ s, P s → Q (true, s.setState .waitingForNeededInformation)
  fails : ∀ s streamBuffer streamHeader stream errorCode reason, P s →
    s.mReceiveStreamEncoded.readBuffer = (some (streamBuffer, streamHeader), stream) →
    decodeBuffer lib.toCrypto s.mReceiveKeys streamBuffer = .failed errorCode reason →
    Q (false, ((s.takeBuffer streamBuffer stream).setError errorCode reason).cancel)
  delivers : ∀ s streamBuffer streamHeader stream output keys, P s →
    s.mReceiveStreamEncoded.readBuffer = (some (streamBuffer, streamHeader), stream) →
    decodeBuffer lib.toCrypto s.mReceiveKeys streamBuffer = .plain output keys →
    P ((s.takeBuffer streamBuffer stream).deliver streamBuffer output streamHeader keys)
  processes : ∀ s streamBuffer streamHeader stream tick r, P s →
    s.mReceiveStreamEncoded.readBuffer = (some (streamBuffer, streamHeader), stream) →
    decodeBuffer lib.toCrypto s.mReceiveKeys streamBuffer = .keying →
    stepProcessReceiveKeying lib turns tick (s.takeBuffer streamBuffer stream) (some streamBuffer) = some r →
    (r.1 = true → P r.2.2) ∧ (r.1 = false → Q r.2)

variable {lib s} {turns : Nat} {P : MLSChannel η Pri Pub → Prop} {Q : Bool × MLSChannel η Pri Pub → Prop}

variable {r : Bool × MLSChannel η Pri Pub}

theorem ReceiveRule.receiveLoop (rule : ReceiveRule lib turns P Q) (tick : Nat → Time) (k : Nat) (hs : P s)
    (h : receiveLoop lib turns tick k s = some r) : Q r := by
  induction k generalizing s with
  | zero =>
    cases h
    exact rule.ends s hs
  | succ k ih =>
    rw [MLSChannel.receiveLoop] at h
    cases hread : s.mReceiveStreamEncoded.readBuffer with
    | mk taken stream =>
      cases taken with
      | none =>
        simp only [hread, Option.some.injEq] at h
        exact h ▸ rule.ends s hs
      | some record =>
        obtain ⟨streamBuffer, streamHeader⟩ := record
        simp only [hread] at h
        cases hdecode : decodeBuffer lib.toCrypto (s.takeBuffer streamBuffer stream).mReceiveKeys streamBuffer with
        | failed errorCode reason =>
          simp only [hdecode, Option.some.injEq] at h
          exact h ▸ rule.fails s streamBuffer streamHeader stream errorCode reason hs hread hdecode
        | plain output keys =>
          simp only [hdecode] at h
          exact ih (rule.delivers s streamBuffer streamHeader stream output keys hs hread hdecode) h
        | keying =>
          simp only [hdecode] at h
          obtain ⟨p, hp, hend⟩ := Option.bind_eq_some_iff.mp h
          obtain ⟨hgoes, hstops⟩ := rule.processes s streamBuffer streamHeader stream (tick k) p hs hread hdecode hp
          split at hend
          case isTrue htrue => exact ih (hgoes htrue) hend
          case isFalse hfalse =>
            cases hend
            exact hstops (eq_false_of_ne_true hfalse)

theorem ReceiveRule.receiveBuffers (rule : ReceiveRule lib turns P Q) (tick : Nat → Time) (hs : P s)
    (h : receiveBuffers lib turns tick s = some r) : Q r := by
  unfold MLSChannel.receiveBuffers at h
  split at h
  · cases h
    exact rule.ends s hs
  · split at h
    · cases h
      exact rule.waits s hs
    · exact rule.receiveLoop tick _ hs h

/-- A bundle that was put aside is processed before the buffers are looked at. -/
theorem ReceiveRule.stepReceive (rule : ReceiveRule lib turns P Q) (tick : Nat → Time) (hends : Q (true, s))
    (hwaits : Q (true, s.setState .waitingForNeededInformation))
    (hnone : s.mReceiveKeyingSignedDoc = none → P s)
    (hresumes : ∀ tick r, s.mReceiveKeyingSignedDoc.isSome = true → stepProcessReceiveKeying lib turns tick s none = some r → (r.1 = true → P r.2.2) ∧ (r.1 = false → Q r.2))
    (h : stepReceive lib turns tick s = some r) : Q r := by
  unfold MLSChannel.stepReceive at h
  split at h
  · cases h
    exact hends
  · split at h
    case isTrue hsome =>
      split at h
      · cases h
        exact hwaits
      · obtain ⟨p, hp, hend⟩ := Option.bind_eq_some_iff.mp h
        obtain ⟨hgoes, hstops⟩ := hresumes _ p hsome hp
        split at hend
        case isTrue htrue => exact rule.receiveBuffers tick (hgoes htrue) hend
        case isFalse hfalse =>
          cases hend
          exact hstops (eq_false_of_ne_true hfalse)
    case isFalse hempty => exact rule.receiveBuffers tick (hnone (by simpa using hempty)) h

end Rule

section Receive

/-- What a part of the receive step leaves of the sending half. -/
def LeavesSending (r : Bool × MLSChannel η Pri Pub) : Prop :=
  (r.2.sending = s.sending ∧ StaysUp s r.2) ∨ (r.1 = false ∧ r.2.mCurrentState = .shutdown ∧ r.2.sending = s.cancel.sending)

variable {r : Bool × Bool × MLSChannel η Pri Pub}

theorem Processed.leavesSending {tick : Time} {doc : Document} (h : Processed lib s tick doc r) :
    (r.2.2.sending = s.sending ∧ StaysUp s r.2.2) ∨
      (r.1 = false ∧ r.2.1 = false ∧ r.2.2.mCurrentState = .shutdown ∧ r.2.2.sending = s.cancel.sending) := by
  cases h with
  | refused context type fingerprint errorCode reason hcode =>
    exact .inr ⟨rfl, rfl, rfl, setError_cancel_sending _ errorCode reason⟩
  | waits context type fingerprint returnResult => exact .inl ⟨rfl, .inr rfl⟩
  | badState context type fingerprint hprivate hpublic => exact .inl ⟨rfl, .inl rfl⟩
  | accepted => exact .inl ⟨rfl, .inl rfl⟩

theorem stepProcessReceiveKeying_processed {turns : Nat} {tick : Time} {keying : Option (List UInt8)}
    (h : stepProcessReceiveKeying lib turns tick s keying = some r) :
    ∃ q : Bool × Bool × MLSChannel η Pri Pub, Processed lib s tick (documentFor lib s keying) q ∧
      r = (q.1, q.2.1, { q.2.2 with
        attempts := q.2.2.attempts ++ [⟨s.toReceiveKeying, documentFor lib s keying, tick, q.2.2.toReceiveKeying⟩] }) := by
  obtain ⟨q, hq, rfl⟩ := Option.map_eq_some_iff.mp h
  exact ⟨q, processKeying_processed lib s hq, rfl⟩

variable (turns : Nat) (tick : Nat → Time)

theorem stepProcessReceiveKeying_leavesSending {s' : MLSChannel η Pri Pub}
    (hsending : s'.sending = s.sending) (hup : StaysUp s s') {tick : Time} {keying : Option (List UInt8)}
    (h : stepProcessReceiveKeying lib turns tick s' keying = some r) :
    (r.1 = true → r.2.2.sending = s.sending ∧ StaysUp s r.2.2) ∧ (r.1 = false → LeavesSending s r.2) := by
  obtain ⟨q, hq, rfl⟩ := stepProcessReceiveKeying_processed lib s' h
  rcases hq.leavesSending with ⟨hsame, hstays⟩ | ⟨hleft, hreturn, hshutdown, hcancelled⟩
  · exact ⟨fun _ => ⟨hsame.trans hsending, hup.trans hstays⟩, fun _ => .inl ⟨hsame.trans hsending, hup.trans hstays⟩⟩
  · constructor
    · intro hgoes
      exact absurd (hleft.symm.trans hgoes) Bool.false_ne_true
    · intro _
      exact .inr ⟨hreturn, hshutdown, hcancelled.trans (cancel_sending hsending)⟩

theorem leavesSending_rule : ReceiveRule lib turns (fun s' => s'.sending = s.sending ∧ StaysUp s s') (LeavesSending s) where
  ends _ h := .inl h
  waits _ h := .inl ⟨h.1, .inr rfl⟩
  fails _ _ _ _ errorCode reason h _ _ :=
    .inr ⟨rfl, rfl, (setError_cancel_sending _ errorCode reason).trans (cancel_sending h.1)⟩
  delivers _ _ _ _ _ _ h _ _ := h
  processes s' streamBuffer _ stream _ _ h _ _ hprocess := by
    have hsending : (s'.takeBuffer streamBuffer stream).sending = s.sending := h.1
    exact stepProcessReceiveKeying_leavesSending lib s turns hsending h.2 hprocess

theorem stepReceive_leavesSending {r : Bool × MLSChannel η Pri Pub} (h : stepReceive lib turns tick s = some r) :
    LeavesSending s r := by
  refine (leavesSending_rule lib s turns).stepReceive tick ?_ ?_ ?_ ?_ h
  · exact .inl ⟨rfl, .inl rfl⟩
  · exact .inl ⟨rfl, .inr rfl⟩
  · exact fun _ => ⟨rfl, .inl rfl⟩
  · exact fun tick r _ hprocess => stepProcessReceiveKeying_leavesSending lib s turns rfl (.inl rfl) hprocess

end Receive

section Send

/-- What a part of the step after the receive step leaves of the receiving half. -/
def LeavesReceiving (s' : MLSChannel η Pri Pub) : Prop :=
  (s'.receiving = s.receiving ∧ (s'.mCurrentState = s.mCurrentState ∨ s'.mCurrentState ≠ .shutdown)) ∨
    ∃ errorCode reason, errorCode ≠ 0 ∧ s' = (s.setError errorCode reason).cancel

theorem sendLoop_receiving (value : Nat → Nat) (k : Nat) :
    (sendLoop lib value k s).2.receiving = s.receiving ∧ (sendLoop lib value k s).2.mCurrentState = s.mCurrentState := by
  induction k generalizing s with
  | zero => exact ⟨rfl, rfl⟩
  | succ k ih =>
    rw [sendLoop]
    split
    · exact ⟨rfl, rfl⟩
    · simp only
      split
      · exact ⟨rfl, rfl⟩
      · exact ih _

theorem stepSend_receiving (value : Nat → Nat) :
    (stepSend lib value s).2.receiving = s.receiving ∧ (stepSend lib value s).2.mCurrentState = s.mCurrentState := by
  unfold stepSend
  split
  · exact ⟨rfl, rfl⟩
  · exact sendLoop_receiving lib s value _

theorem stepSendKeying_receiving (input : StepInput) :
    ((stepSendKeying lib input s).2.receiving = s.receiving ∧ StaysUp s (stepSendKeying lib input s).2) ∨
      ((stepSendKeying lib input s).1 = false ∧
        ∃ errorCode reason, errorCode ≠ 0 ∧ (stepSendKeying lib input s).2 = (s.setError errorCode reason).cancel) := by
  have hcode : badRequest ≠ 0 := by decide
  unfold stepSendKeying
  repeat' split
  all_goals first
    | exact .inl ⟨rfl, .inl rfl⟩
    | exact .inl ⟨rfl, .inr rfl⟩
    | exact .inr ⟨rfl, badRequest, _, hcode, rfl⟩

theorem stepAfterReceive_receiving (input : StepInput) : LeavesReceiving s (stepAfterReceive lib input s) := by
  unfold stepAfterReceive
  rcases stepSendKeying_receiving lib s input with ⟨hreceiving, hup⟩ | ⟨hleft, errorCode, reason, hcode, hcancelled⟩
  · have hstate : ∀ s' : MLSChannel η Pri Pub, s'.mCurrentState = (stepSendKeying lib input s).2.mCurrentState →
        s'.mCurrentState = s.mCurrentState ∨ s'.mCurrentState ≠ .shutdown := by
      intro s' hs'
      rcases hup with h | h
      · exact .inl (hs'.trans h)
      · exact .inr (by simp [hs', h])
    obtain ⟨hsent, hsame⟩ := stepSend_receiving lib (stepSendKeying lib input s).2 input.value
    simp only
    split
    · exact .inl ⟨hreceiving, hstate _ rfl⟩
    · split
      · exact .inl ⟨hsent.trans hreceiving, hstate _ hsame⟩
      · split
        · exact .inl ⟨hsent.trans hreceiving, .inr (by simp [setState])⟩
        · exact .inl ⟨hsent.trans hreceiving, hstate _ hsame⟩
  · simp only [hleft, Bool.false_eq_true, not_false_eq_true, if_true]
    exact .inr ⟨errorCode, reason, hcode, hcancelled⟩

end Send

section Setters

/-- What a setter may do: nothing, or set some of what the channel is configured with. -/
inductive Configured : MLSChannel η Pri Pub → Prop
  | same : Configured s
  | set (localContextID : String) (remotePublicKey : Option Pub) (sendingPassphrase : String) (privateKey : Option Pri)
      (publicKey : Option Pub) (receivingPassphrase : String) (signingPublicKey : Option Pub)
      (halive : s.mCurrentState ≠ .shutdown)
      (hsigning : s.mReceiveSigningPublicKey.isSome = true → signingPublicKey.isSome = true)
      (hpair : (privateKey = s.mReceiveDecodingPrivateKey ∧ publicKey = s.mReceiveDecodingPublicKey) ∨ publicKey ≠ none) :
      Configured
        { s with
          mCurrentState := .pending
          mLocalContextID := localContextID
          mSendingEncodingRemotePublicKey := remotePublicKey
          mSendingEncodingPassphrase := sendingPassphrase
          mReceiveDecodingPrivateKey := privateKey
          mReceiveDecodingPublicKey := publicKey
          mReceivingDecodingPassphrase := receivingPassphrase
          mReceiveSigningPublicKey := signingPublicKey }

theorem not_isShutdown {s : MLSChannel η Pri Pub} (h : ¬s.isShutdown = true) : s.mCurrentState ≠ .shutdown := by
  simpa [isShutdown] using h

theorem setLocalContextID_configured (contextID : String) : Configured s (s.setLocalContextID contextID) := by
  unfold setLocalContextID
  split
  · exact .same
  case isFalse halive =>
    split
    · exact .same
    · exact .set _ _ _ _ _ _ _ (not_isShutdown halive) id (.inl ⟨rfl, rfl⟩)

theorem setReceiveKeyingDecodingPassphrase_configured (passphrase : String) :
    Configured s (s.setReceiveKeyingDecodingPassphrase passphrase) := by
  unfold setReceiveKeyingDecodingPassphrase
  split
  · exact .same
  case isFalse halive =>
    repeat' split
    all_goals first
      | exact .same
      | exact .set _ _ _ _ _ _ _ (not_isShutdown halive) id (.inl ⟨rfl, rfl⟩)

theorem setSendKeyingEncodingPassphrase_configured (passphrase : String) :
    Configured s (s.setSendKeyingEncodingPassphrase passphrase) := by
  unfold setSendKeyingEncodingPassphrase
  split
  · exact .same
  case isFalse halive =>
    repeat' split
    all_goals first
      | exact .same
      | exact .set _ _ _ _ _ _ _ (not_isShutdown halive) id (.inl ⟨rfl, rfl⟩)

variable [DecidableEq Pub]

theorem setReceiveKeyingMaterialSigningPublicKey_configured (remotePublicKey : Pub) :
    Configured s (s.setReceiveKeyingMaterialSigningPublicKey remotePublicKey) := by
  unfold setReceiveKeyingMaterialSigningPublicKey
  split
  · exact .same
  case isFalse halive =>
    split
    · exact .same
    · exact .set _ _ _ _ _ _ _ (not_isShutdown halive) (fun _ => rfl) (.inl ⟨rfl, rfl⟩)

theorem setSendKeyingEncodingKey_configured (remotePublicKey : Pub) :
    Configured s (s.setSendKeyingEncodingKey remotePublicKey) := by
  unfold setSendKeyingEncodingKey
  split
  · exact .same
  case isFalse halive =>
    repeat' split
    all_goals first
      | exact .same
      | exact .set _ _ _ _ _ _ _ (not_isShutdown halive) id (.inl ⟨rfl, rfl⟩)

variable [DecidableEq Pri]

theorem setReceiveKeyingDecodingKeys_configured (decodingPrivateKey : Pri) (decodingPublicKey : Pub) :
    Configured s (s.setReceiveKeyingDecodingKeys decodingPrivateKey decodingPublicKey) := by
  unfold setReceiveKeyingDecodingKeys
  split
  · exact .same
  case isFalse halive =>
    repeat' split
    all_goals first
      | exact .same
      | exact .set _ _ _ _ _ _ _ (not_isShutdown halive) id (.inr (Option.some_ne_none _))

/-- What an event does to a channel. -/
inductive Handled (turns : Nat) : MLSEvent η Pri Pub → MLSChannel η Pri Pub → Prop
  | configured (e : MLSEvent η Pri Pub) {s' : MLSChannel η Pri Pub} (h : Configured s s') : Handled turns e s'
  | signed (id : String) (signatureEl : Element) : Handled turns (.signSendKeyingMaterial id signatureEl) (s.signSendKeyingMaterial id signatureEl)
  | notified : Handled turns .notifySendKeyingMaterialSigned s.notifySendKeyingMaterialSigned
  | cancelled : Handled turns .cancel s.cancel
  | stepped (e : MLSEvent η Pri Pub) (input : StepInput) {s' : MLSChannel η Pri Pub} (h : s.step lib turns input = some s') : Handled turns e s'
  | receiveReady (input : StepInput) {s' : MLSChannel η Pri Pub} (h : s.onReceiveStreamDecodedReady.step lib turns input = some s') :
      Handled turns (.onReceiveStreamDecodedReady input) s'
  | sendReady (input : StepInput) {s' : MLSChannel η Pri Pub} (h : s.onSendStreamEncodedReady.step lib turns input = some s') :
      Handled turns (.onSendStreamEncodedReady input) s'
  | receiveEncoded (stream : TransportStream η) : Handled turns (.receiveStreamEncoded stream) { s with mReceiveStreamEncoded := stream }
  | receiveDecoded (stream : TransportStream η) : Handled turns (.receiveStreamDecoded stream) { s with mReceiveStreamDecoded := stream }
  | sendDecoded (stream : TransportStream η) : Handled turns (.sendStreamDecoded stream) { s with mSendStreamDecoded := stream }
  | sendEncoded (stream : TransportStream η) : Handled turns (.sendStreamEncoded stream) { s with mSendStreamEncoded := stream }

theorem handle_handled {turns : Nat} {e : MLSEvent η Pri Pub} {s' : MLSChannel η Pri Pub} (h : s.handle lib turns e = some s') :
    Handled lib s turns e s' := by
  cases e with
  | onTransportStreamReaderReady input => exact .stepped _ input h
  | onWake input => exact .stepped _ input h
  | onReceiveStreamDecodedReady input => exact .receiveReady input h
  | onSendStreamEncodedReady input => exact .sendReady input h
  | setLocalContextID contextID => cases h; exact .configured _ (setLocalContextID_configured s contextID)
  | setReceiveKeyingDecodingKeys privateKey publicKey =>
    cases h
    exact .configured _ (setReceiveKeyingDecodingKeys_configured s privateKey publicKey)
  | setReceiveKeyingDecodingPassphrase passphrase =>
    cases h
    exact .configured _ (setReceiveKeyingDecodingPassphrase_configured s passphrase)
  | setReceiveKeyingMaterialSigningPublicKey key =>
    cases h
    exact .configured _ (setReceiveKeyingMaterialSigningPublicKey_configured s key)
  | setSendKeyingEncodingKey key => cases h; exact .configured _ (setSendKeyingEncodingKey_configured s key)
  | setSendKeyingEncodingPassphrase passphrase =>
    cases h
    exact .configured _ (setSendKeyingEncodingPassphrase_configured s passphrase)
  | signSendKeyingMaterial id signatureEl => cases h; exact .signed id signatureEl
  | notifySendKeyingMaterialSigned => cases h; exact .notified
  | cancel => cases h; exact .cancelled
  | receiveStreamEncoded stream => cases h; exact .receiveEncoded stream
  | receiveStreamDecoded stream => cases h; exact .receiveDecoded stream
  | sendStreamDecoded stream => cases h; exact .sendDecoded stream
  | sendStreamEncoded stream => cases h; exact .sendEncoded stream

end Setters

end MLSChannel

end OpenPeer
