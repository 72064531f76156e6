import OpenPeer.TCPMessagingEvents

/-!
# The size limit over TCP

The size a header announces is compared with the limit only when the whole frame has been
received. A read after which the frame begun announces too much is one that the limit
should have stopped; with no such read the receiving queue stays short, and no message
that is too long is delivered.
-/
namespace OpenPeer

open Bytes Framing Runs

/-- An endpoint with the largest limit it has had and its longest read so far. -/
structure Metered (σ : Type) where
  endpoint : σ
  largestMax : Nat
  longestRead : Nat

namespace TCPMessaging

/-- On the way to shutdown, or there. -/
def Closing (t : TCPMessaging) : Prop := t.isShuttingdown = true ∨ t.isShutdown = true

/-- Closing for an error. -/
structure Failed (t : TCPMessaging) : Prop where
  closing : t.Closing
  error : t.mLastError ≠ 0

/-- The bytes before the body of a frame. -/
def frameHeader (t : TCPMessaging) : Nat := headerLength t.mFramesHaveChannelNumber + 4

/-- The sizes announced in a queue of the endpoint. -/
def announcedIn (t : TCPMessaging) (queue : List UInt8) : List Nat :=
  announced (headerLength t.mFramesHaveChannelNumber) queue

/-- The endpoint wrote messages of the given size at most; it may have cancelled its stream then. -/
def DeliversWithin (t t' : TCPMessaging) (size : Nat) : Prop :=
  ∃ ms : List (List UInt8 × List UInt8), (∀ m ∈ ms, m.2.length ≤ size) ∧
    (t'.mReceiveStream = deliver t.mFramesHaveChannelNumber t.mReceiveStream ms ∨
      t'.mReceiveStream = (deliver t.mFramesHaveChannelNumber t.mReceiveStream ms).cancel)

/-- Of the receiving side nothing is changed, unless it is closed. -/
structure ReceivingKept (t t' : TCPMessaging) : Prop where
  queue : t'.mReceivingQueue = t.mReceivingQueue
  hasChannel : t'.mFramesHaveChannelNumber = t.mFramesHaveChannelNumber
  maxSize : t'.mMaxMessageSizeInBytes = t.mMaxMessageSizeInBytes
  socket : t'.mSocket = true → t.mSocket = true
  held : t'.isShutdown = true → t'.mSocket = false
  closing : t.Closing → t'.Closing
  error : t.mLastError ≠ 0 → t'.mLastError ≠ 0
  stream : t'.mReceiveStream = t.mReceiveStream ∨ t'.mReceiveStream = t.mReceiveStream.cancel

variable {t t' u v : TCPMessaging}

theorem failed_congr (hstate : u.mCurrentState = t.mCurrentState) (herror : u.mLastError = t.mLastError) :
    u.Failed ↔ t.Failed := by
  constructor
  · rintro ⟨hclosing, hcode⟩
    exact ⟨by simpa [Closing, isShuttingdown, isShutdown, hstate] using hclosing, herror ▸ hcode⟩
  · rintro ⟨hclosing, hcode⟩
    exact ⟨by simpa [Closing, isShuttingdown, isShutdown, hstate] using hclosing, herror ▸ hcode⟩

theorem ReceivingKept.refl (hheld : t.isShutdown = true → t.mSocket = false) : ReceivingKept t t :=
  ⟨rfl, rfl, rfl, id, hheld, id, id, .inl rfl⟩

theorem cancel_cancel {η : Type} (s : TransportStream η) : s.cancel.cancel = s.cancel := rfl

theorem ReceivingKept.trans (h : ReceivingKept t u) (h' : ReceivingKept u v) : ReceivingKept t v where
  queue := h'.queue.trans h.queue
  hasChannel := h'.hasChannel.trans h.hasChannel
  maxSize := h'.maxSize.trans h.maxSize
  socket hs := h.socket (h'.socket hs)
  held := h'.held
  closing hc := h'.closing (h.closing hc)
  error he := h'.error (h.error he)
  stream := by
    cases h'.stream with
    | inl hsame =>
      rw [hsame]
      exact h.stream
    | inr hcancel =>
      rw [hcancel]
      cases h.stream with
      | inl hsame => exact .inr (by rw [hsame])
      | inr hcancel' => exact .inr (by rw [hcancel', cancel_cancel])

theorem ReceivingKept.moved (hheld : t.isShutdown = true → t.mSocket = false) (h : SendingMoved t u) :
    ReceivingKept t u where
  __ := h
  queue := h.receivingQueue
  socket := by simp [h.socket]
  held := by simpa [isShutdown, h.state, h.socket] using hheld
  closing := by simp [Closing, isShuttingdown, isShutdown, h.state]
  error := by simp [h.error]
  stream := .inl h.receiveStream

theorem ReceivingKept.setState (state : SessionStates) (hopen : state ≠ .shutdown)
    (hheld : t.isShutdown = true → t.mSocket = false) (hclosing : t.Closing → state = .shuttingDown) :
    ReceivingKept t (t.setState state) := by
  unfold TCPMessaging.setState
  split
  · exact .refl hheld
  · constructor
    case stream => cases t.mSubscriptions <;> by_cases h : state = .connected <;> simp [h]
    case closing =>
      intro hc
      have hstate := hclosing hc
      subst hstate
      cases t.mSubscriptions <;> simp [Closing, isShuttingdown]
    all_goals cases t.mSubscriptions <;> by_cases h : state = .connected <;> simp [h, isShutdown, hopen]

theorem closing_setState (t : TCPMessaging) : (t.setState .shuttingDown).Closing := by
  unfold TCPMessaging.setState
  split
  next h => simp [Closing, isShuttingdown, ← h]
  · cases t.mSubscriptions <;> simp [Closing, isShuttingdown]

theorem setState_receiving (t : TCPMessaging) (state : SessionStates) :
    (t.setState state).mReceivingQueue = t.mReceivingQueue ∧
      (t.setState state).mFramesHaveChannelNumber = t.mFramesHaveChannelNumber ∧
      (t.setState state).mMaxMessageSizeInBytes = t.mMaxMessageSizeInBytes ∧
      (t.setState state).mLastError = t.mLastError ∧ (t.setState state).mReceiveStream = t.mReceiveStream := by
  unfold setState
  split
  · simp
  · cases t.mSubscriptions <;> by_cases h : state = .connected <;> simp [h]

theorem setState_shutdown (t : TCPMessaging) : (t.setState .shutdown).isShutdown = true := by
  unfold setState
  split
  next h => simp [isShutdown, ← h]
  · cases t.mSubscriptions <;> simp [isShutdown]

/-- Giving up closes the endpoint and leaves what it received where it is. -/
theorem ReceivingKept.cancel (hheld : t.isShutdown = true → t.mSocket = false) :
    ReceivingKept t t.cancel ∧ t.cancel.Closing := by
  have hclosing := closing_setState t
  have hkept : ReceivingKept t (t.setState .shuttingDown) := .setState _ (by decide) hheld fun _ => rfl
  unfold TCPMessaging.cancel
  dsimp only
  split
  · exact ⟨{ hkept with }, hclosing⟩
  · obtain ⟨hqueue, hchannel, hmax, herror, hstream⟩ := setState_receiving (t.setState .shuttingDown) .shutdown
    obtain ⟨hqueue', hchannel', hmax', herror', hstream'⟩ := setState_receiving t .shuttingDown
    have hshut := setState_shutdown (t.setState .shuttingDown)
    have hclosed : Closing { (t.setState .shuttingDown).setState .shutdown with
        mGracefulShutdownReference := false
        mSubscriptions := false
        mReceiveStream := ((t.setState .shuttingDown).setState .shutdown).mReceiveStream.cancel
        mSendStream := ((t.setState .shuttingDown).setState .shutdown).mSendStream.cancel
        mSendStreamSubscription := false
        mSocket := false } := .inr hshut
    refine ⟨?_, hclosed⟩
    constructor
    · exact hqueue.trans hqueue'
    · exact hchannel.trans hchannel'
    · exact hmax.trans hmax'
    · intro hs
      cases hs
    · exact fun _ => rfl
    · exact fun _ => hclosed
    · simp [herror, herror']
    · exact .inr (by simp [hstream, hstream'])

theorem ReceivingKept.setError (hheld : t.isShutdown = true → t.mSocket = false) (errorCode : UInt16) (reason : String) :
    ReceivingKept t (t.setError errorCode reason) := by
  unfold TCPMessaging.setError
  split
  · exact .refl hheld
  next hnone => exact ⟨rfl, rfl, rfl, id, hheld, id, fun h => absurd h hnone, .inl rfl⟩

theorem setError_ne (t : TCPMessaging) {errorCode : UInt16} (hcode : errorCode ≠ 0) (reason : String) :
    (t.setError errorCode reason).mLastError ≠ 0 := by
  unfold setError
  split
  next h => exact h
  · exact hcode

theorem ReceivingKept.fail (hheld : t.isShutdown = true → t.mSocket = false) {errorCode : UInt16}
    (hcode : errorCode ≠ 0) (reason : String) :
    ReceivingKept t (t.setError errorCode reason).cancel ∧ (t.setError errorCode reason).cancel.Failed := by
  have herror := ReceivingKept.setError hheld errorCode reason
  obtain ⟨hcancel, hclosing⟩ := ReceivingKept.cancel herror.held
  exact ⟨herror.trans hcancel, hclosing, hcancel.error (setError_ne t hcode reason)⟩

theorem ReceivingKept.ends (hheld : u.isShutdown = true → u.mSocket = false) (h : EndsIn u v) : ReceivingKept u v := by
  cases h with
  | on => exact .refl hheld
  | failed errorCode reason hcode => exact (ReceivingKept.fail hheld hcode reason).1

theorem ReceivingKept.sendDataNow {s : Sending} (hheld : s.endpoint.isShutdown = true → s.endpoint.mSocket = false) :
    ReceivingKept s.endpoint s.sendDataNow.endpoint := by
  obtain ⟨u, hmoved, hends⟩ := sendDataNow_cases s
  have hkept := ReceivingKept.moved hheld hmoved
  exact hkept.trans (.ends hkept.held hends)

theorem ReceivingKept.onWriteReady (hheld : t.isShutdown = true → t.mSocket = false) (outcomes : List SendOutcome) :
    ReceivingKept t (t.onWriteReady outcomes).endpoint := by
  unfold TCPMessaging.onWriteReady
  split
  · exact .refl hheld
  next hsocket =>
  dsimp only
  split
  next hconnect =>
    have hissued : ReceivingKept t { t with mConnectIssued := false } :=
      ⟨rfl, rfl, rfl, id, hheld, id, id, .inl rfl⟩
    have hconnected : ReceivingKept t ({ t with mConnectIssued := false }.setState .connected) := by
      refine hissued.trans (.setState .connected (by decide) hissued.held ?_)
      rintro (hshutting | hshut)
      · exact absurd hshutting hconnect.2
      · exact absurd (hheld hshut) (by simpa using hsocket)
    have hready : ReceivingKept t
        { { t with mConnectIssued := false }.setState .connected with mTCPWriteReady := true } :=
      { hconnected with }
    exact hready.trans (ReceivingKept.sendDataNow
      (s := ⟨{ { t with mConnectIssued := false }.setState .connected with mTCPWriteReady := true }, outcomes, []⟩)
      hready.held)
  next =>
    have hready : ReceivingKept t { t with mTCPWriteReady := true } :=
      ⟨rfl, rfl, rfl, id, hheld, id, id, .inl rfl⟩
    exact hready.trans (ReceivingKept.sendDataNow (s := ⟨{ t with mTCPWriteReady := true }, outcomes, []⟩) hready.held)

/-- The events that neither bring bytes nor change the limit, nor are the owner's reads. -/
def TCPEvent.Aside : TCPEvent → Prop
  | .readReady _ | .setMaxMessageSizeInBytes _ | .useReceiveStream _ => False
  | _ => True

theorem step_kept (hheld : t.isShutdown = true → t.mSocket = false) {event : TCPEvent} (haside : TCPEvent.Aside event) :
    ReceivingKept t (t.step event) := by
  cases event with
  | readReady outcome => cases haside
  | setMaxMessageSizeInBytes size => cases haside
  | useReceiveStream call => cases haside
  | writeReady outcomes => exact .onWriteReady hheld outcomes
  | exception =>
    simp only [step, onException]
    split
    · exact .refl hheld
    · exact (ReceivingKept.fail hheld (by decide) _).1
  | readerReady outcomes =>
    simp only [step, onTransportStreamReaderReady]
    split
    · exact .refl hheld
    · exact ReceivingKept.sendDataNow (s := ⟨t, outcomes, []⟩) hheld
  | timer =>
    simp only [step, onTimer]
    split
    · have hfired : ReceivingKept t { t with mLingerTimer := false } := ⟨rfl, rfl, rfl, id, hheld, id, id, .inl rfl⟩
      exact hfired.trans (ReceivingKept.cancel hfired.held).1
    · exact .refl hheld
  | shutdown lingerTime =>
    simp only [step, TCPMessaging.shutdown]
    split
    · exact .refl hheld
    split
    · have hlingers : ReceivingKept t { t with mLingerTimer := true } := ⟨rfl, rfl, rfl, id, hheld, id, id, .inl rfl⟩
      exact hlingers.trans (ReceivingKept.cancel hlingers.held).1
    · exact (ReceivingKept.cancel hheld).1
  | useSendStream call => exact ⟨rfl, rfl, rfl, id, hheld, id, id, .inl rfl⟩

/-- The bytes an event brings. -/
def TCPEvent.bytes : TCPEvent → List UInt8
  | .readReady (.received bytes) => bytes
  | _ => []

/-- The endpoint after an event, with its meters. -/
def meteredStep (w : Metered TCPMessaging) (event : TCPEvent) : Metered TCPMessaging where
  endpoint := w.endpoint.step event
  largestMax := max w.largestMax (w.endpoint.step event).mMaxMessageSizeInBytes.toNat
  longestRead := max w.longestRead (TCPEvent.bytes event).length

/-- The limit is applied: whoever announced too much has failed the endpoint, what is received and
not delivered is at most one frame and one read, and what was delivered was not too long. The owner's
own use of the receive stream is no delivery. -/
structure WithinLimit (w : Metered TCPMessaging) (event : TCPEvent) : Prop where
  prompt : ∀ n ∈ (w.endpoint.step event).announcedIn (w.endpoint.step event).mReceivingQueue,
    (w.endpoint.step event).mMaxMessageSizeInBytes.toNat < n → (w.endpoint.step event).Failed
  bounded : (w.endpoint.step event).mReceivingQueue.length ≤
    (w.endpoint.step event).frameHeader + (meteredStep w event).largestMax + (meteredStep w event).longestRead
  delivers : (∀ call, event ≠ .useReceiveStream call) →
    DeliversWithin w.endpoint (w.endpoint.step event) w.endpoint.mMaxMessageSizeInBytes.toNat

/-- What is received does not end inside a frame that announces too much, unless a whole frame before
it was too long; and the limit is not set below what is announced already. -/
def InTime (w : Metered TCPMessaging) : TCPEvent → Prop
  | .readReady (.received bytes) =>
    let all := w.endpoint.mReceivingQueue ++ bytes
    w.endpoint.mSocket = true → ¬w.endpoint.Closing →
      (∃ m ∈ (drain (frameCode w.endpoint.mFramesHaveChannelNumber) all).1,
        w.endpoint.mMaxMessageSizeInBytes.toNat < m.2.length) ∨
      ∀ n ∈ w.endpoint.announcedIn (drain (frameCode w.endpoint.mFramesHaveChannelNumber) all).2,
        n ≤ w.endpoint.mMaxMessageSizeInBytes.toNat
  | .setMaxMessageSizeInBytes size =>
    w.endpoint.Failed ∨ ∀ n ∈ w.endpoint.announcedIn w.endpoint.mReceivingQueue, n ≤ size.toNat
  | _ => True

/-- What holds between the events of a run that meets the limit. -/
structure Waiting (w : Metered TCPMessaging) : Prop where
  held : w.endpoint.isShutdown = true → w.endpoint.mSocket = false
  prompt : ∀ n ∈ w.endpoint.announcedIn w.endpoint.mReceivingQueue,
    w.endpoint.mMaxMessageSizeInBytes.toNat < n → w.endpoint.Failed
  bounded : w.endpoint.mReceivingQueue.length ≤ w.endpoint.frameHeader + w.largestMax + w.longestRead
  begun : w.endpoint.mSocket = true → ¬w.endpoint.Closing →
    (frameCode w.endpoint.mFramesHaveChannelNumber).next w.endpoint.mReceivingQueue = none
  max_le : w.endpoint.mMaxMessageSizeInBytes.toNat ≤ w.largestMax

variable {w : Metered TCPMessaging} {event : TCPEvent}

/-- An event that leaves the receiving side alone keeps within the limit. -/
theorem Waiting.kept (h : Waiting w) (hkept : ReceivingKept w.endpoint (w.endpoint.step event)) :
    WithinLimit w event ∧ Waiting (meteredStep w event) := by
  have hprompt : ∀ n ∈ (w.endpoint.step event).announcedIn (w.endpoint.step event).mReceivingQueue,
      (w.endpoint.step event).mMaxMessageSizeInBytes.toNat < n → (w.endpoint.step event).Failed := by
    rw [announcedIn, hkept.hasChannel, hkept.queue, hkept.maxSize]
    intro n hn hlong
    obtain ⟨hclosing, herror⟩ := h.prompt n hn hlong
    exact ⟨hkept.closing hclosing, hkept.error herror⟩
  have hbounded : (w.endpoint.step event).mReceivingQueue.length ≤ (w.endpoint.step event).frameHeader +
      (meteredStep w event).largestMax + (meteredStep w event).longestRead := by
    rw [hkept.queue, frameHeader, hkept.hasChannel, ← frameHeader]
    have hbefore := h.bounded
    have hmax : w.largestMax ≤ (meteredStep w event).largestMax := Nat.le_max_left _ _
    have hread : w.longestRead ≤ (meteredStep w event).longestRead := Nat.le_max_left _ _
    omega
  constructor
  · exact ⟨hprompt, hbounded, fun _ => ⟨[], by simp, hkept.stream⟩⟩
  · constructor
    · exact hkept.held
    · exact hprompt
    · exact hbounded
    · intro hsocket hopen
      change (frameCode (w.endpoint.step event).mFramesHaveChannelNumber).next _ = none
      rw [hkept.hasChannel, show (meteredStep w event).endpoint.mReceivingQueue = _ from hkept.queue]
      exact h.begun (hkept.socket hsocket) fun hclosing => hopen (hkept.closing hclosing)
    · exact Nat.le_max_right _ _

/-- The endpoint with what was read behind what it had. -/
def queued (t : TCPMessaging) (bytes : List UInt8) : TCPMessaging :=
  { t with mReceivingQueue := t.mReceivingQueue ++ bytes }

theorem step_read {bytes : List UInt8} (hsocket : t.mSocket = true) (hopen : ¬t.Closing) (hbytes : bytes ≠ []) :
    t.step (.readReady (.received bytes)) = (t.queued bytes).receiveLoop := by
  have hnot : ¬(t.isShutdown = true ∨ t.isShuttingdown = true) := fun h => hopen h.symm
  simp [step, onReadReady, hsocket, hnot, hbytes, queued]

theorem Waiting.length_lt (h : Waiting w) (hsocket : w.endpoint.mSocket = true) (hopen : ¬w.endpoint.Closing) :
    w.endpoint.mReceivingQueue.length < w.endpoint.frameHeader + w.endpoint.mMaxMessageSizeInBytes.toNat := by
  apply length_waiting _ _ (h.begun hsocket hopen)
  intro n hn
  by_contra hlong
  exact hopen (h.prompt n hn (by omega)).closing

/-- After a read every whole frame is delivered, or one was too long. -/
theorem Waiting.read (h : Waiting w) {bytes : List UInt8} (hsocket : w.endpoint.mSocket = true)
    (hopen : ¬w.endpoint.Closing) (hbytes : bytes ≠ []) :
    (WithinLimit w (.readReady (.received bytes)) ↔ InTime w (.readReady (.received bytes))) ∧
      (WithinLimit w (.readReady (.received bytes)) → Waiting (meteredStep w (.readReady (.received bytes)))) := by
  have hstep := step_read hsocket hopen hbytes
  have hshort := h.length_lt hsocket hopen
  have hmaxLe := h.max_le
  have hlength : (w.endpoint.queued bytes).mReceivingQueue.length =
      w.endpoint.mReceivingQueue.length + bytes.length := List.length_append
  have hread : bytes.length ≤ (meteredStep w (.readReady (.received bytes))).longestRead := Nat.le_max_right _ _
  have hmax : w.largestMax ≤ (meteredStep w (.readReady (.received bytes))).largestMax := Nat.le_max_left _ _
  obtain ⟨ms, queue, hms, hqueue, hend⟩ := receiveLoop_cases (w.endpoint.queued bytes)
  rw [← hstep] at hend
  rw [hlength] at hqueue
  generalize hafter : w.endpoint.step (.readReady (.received bytes)) = t' at hend
  cases hend with
  | waits hdrain =>
    have hrest : queue = (drain (frameCode w.endpoint.mFramesHaveChannelNumber)
        (w.endpoint.mReceivingQueue ++ bytes)).2 := (congrArg Prod.snd hdrain).symm
    have hwhole : ms = (drain (frameCode w.endpoint.mFramesHaveChannelNumber)
        (w.endpoint.mReceivingQueue ++ bytes)).1 := (congrArg Prod.fst hdrain).symm
    have hnext : (frameCode w.endpoint.mFramesHaveChannelNumber).next queue = none := by
      rw [hrest]
      exact next_drain _ _
    have hsame : InTime w (.readReady (.received bytes)) ↔
        ∀ n ∈ w.endpoint.announcedIn queue, n ≤ w.endpoint.mMaxMessageSizeInBytes.toNat := by
      simp only [InTime, ← hrest, ← hwhole]
      constructor
      · intro hin
        cases hin hsocket hopen with
        | inl hlong =>
          obtain ⟨m, hm, hsize⟩ := hlong
          exact absurd (hms m hm) (Nat.not_le.mpr hsize)
        | inr hfits => exact hfits
      · exact fun hfits _ _ => .inr hfits
    have hwithin : WithinLimit w (.readReady (.received bytes)) ↔
        ∀ n ∈ w.endpoint.announcedIn queue, n ≤ w.endpoint.mMaxMessageSizeInBytes.toNat := by
      constructor
      · intro hlimit n hn
        by_contra hlong
        have hfailed := hlimit.prompt
        rw [hafter] at hfailed
        exact hopen (hfailed n hn (by exact Nat.not_le.mp hlong)).closing
      · intro hfits
        have hfit := length_waiting _ _ hnext hfits
        constructor
        · rw [hafter]
          exact fun n hn hlong => absurd (hfits n hn) (Nat.not_le.mpr hlong)
        · rw [hafter]
          change queue.length ≤ w.endpoint.frameHeader + _ + _
          change queue.length < w.endpoint.frameHeader + _ at hfit
          omega
        · rw [hafter]
          exact fun _ => ⟨ms, hms, .inl rfl⟩
    refine ⟨hwithin.trans hsame.symm, fun hlimit => ?_⟩
    constructor
    all_goals simp only [meteredStep, hafter]
    · exact h.held
    · rw [← hafter]
      exact hlimit.prompt
    · have hbounded := hlimit.bounded
      simp only [meteredStep, hafter] at hbounded
      exact hbounded
    · exact fun _ _ => hnext
    · exact Nat.le_max_right _ _
  | tooLong hlong =>
    obtain ⟨hkept, hfailed⟩ := ReceivingKept.fail (t := (w.endpoint.queued bytes).received ms queue) h.held
      (show HTTPStatusCode.preconditionFailed ≠ 0 by decide)
      "read message size exceeds maximum buffer size allowed"
    have hin : InTime w (.readReady (.received bytes)) := fun _ _ => .inl hlong
    have hlimit : WithinLimit w (.readReady (.received bytes)) := by
      constructor
      · rw [hafter]
        exact fun _ _ _ => hfailed
      · rw [hafter, hkept.queue, frameHeader, hkept.hasChannel]
        change queue.length ≤ w.endpoint.frameHeader + _ + _
        omega
      · rw [hafter]
        exact fun _ => ⟨ms, hms, hkept.stream⟩
    refine ⟨iff_of_true hlimit hin, fun _ => ?_⟩
    constructor
    all_goals simp only [meteredStep, hafter]
    · exact hkept.held
    · exact fun _ _ _ => hfailed
    · have hbounded := hlimit.bounded
      simp only [meteredStep, hafter] at hbounded
      exact hbounded
    · exact fun _ hnot => absurd hfailed.closing hnot
    · exact Nat.le_max_right _ _

theorem readReady_kept (hheld : t.isShutdown = true → t.mSocket = false) (outcome : ReceiveOutcome)
    (hidle : ∀ bytes, outcome = .received bytes → bytes ≠ [] → t.mSocket = true → t.Closing) :
    ReceivingKept t (t.step (.readReady outcome)) := by
  simp only [step, onReadReady]
  split
  · exact .refl hheld
  next hsocket =>
  split
  · exact .refl hheld
  next hopen =>
  cases outcome with
  | error message => exact (ReceivingKept.fail hheld (by decide) _).1
  | received bytes =>
    dsimp only
    split
    · exact (ReceivingKept.fail hheld (by decide) _).1
    next hsome =>
      have hclosing := hidle bytes rfl (fun hnil => hsome (by rw [hnil]; rfl)) (by simpa using hsocket)
      exact absurd hclosing.symm hopen

theorem Waiting.step (h : Waiting w) (event : TCPEvent) :
    (WithinLimit w event ↔ InTime w event) ∧ (WithinLimit w event → Waiting (meteredStep w event)) := by
  have hkeeps (hin : InTime w event) (hkept : ReceivingKept w.endpoint (w.endpoint.step event)) :
      (WithinLimit w event ↔ InTime w event) ∧ (WithinLimit w event → Waiting (meteredStep w event)) := by
    obtain ⟨hlimit, hwaiting⟩ := h.kept hkept
    exact ⟨iff_of_true hlimit hin, fun _ => hwaiting⟩
  cases event with
  | readReady outcome =>
    cases outcome with
    | error message =>
      apply hkeeps trivial
      apply readReady_kept h.held
      intro bytes hother
      cases hother
    | received bytes =>
      by_cases hread : bytes ≠ [] ∧ w.endpoint.mSocket = true ∧ ¬w.endpoint.Closing
      · exact h.read hread.2.1 hread.2.2 hread.1
      · by_cases hbytes : bytes = []
        · -- nothing was read, and what there was has no whole frame and fits
          refine hkeeps ?_ (readReady_kept h.held _ fun other hother hne => ?_)
          · intro hsocket hopen
            refine .inr fun n hn => ?_
            rw [hbytes, List.append_nil, drain_none _ _ (h.begun hsocket hopen)] at hn
            by_contra hlong
            exact hopen (h.prompt n hn (Nat.not_le.mp hlong)).closing
          · cases hother
            exact absurd hbytes hne
        · have hidle (hsocket : w.endpoint.mSocket = true) : w.endpoint.Closing := by
            by_contra hopen
            exact hread ⟨hbytes, hsocket, hopen⟩
          refine hkeeps ?_ (readReady_kept h.held _ fun _ _ _ hsocket => hidle hsocket)
          exact fun hsocket hopen => absurd (hidle hsocket) hopen
  | setMaxMessageSizeInBytes size =>
    have hsame : (w.endpoint.step (.setMaxMessageSizeInBytes size)).Failed ↔ w.endpoint.Failed := failed_congr rfl rfl
    have hlimit : WithinLimit w (.setMaxMessageSizeInBytes size) ↔ InTime w (.setMaxMessageSizeInBytes size) := by
      constructor
      · intro hlimit
        by_cases hfailed : w.endpoint.Failed
        · exact .inl hfailed
        · refine .inr fun n hn => ?_
          by_contra hlong
          exact hfailed (hsame.mp (hlimit.prompt n hn (Nat.not_le.mp hlong)))
      · intro hin
        constructor
        · intro n hn hlong
          cases hin with
          | inl hfailed => exact hsame.mpr hfailed
          | inr hfits => exact absurd (hfits n hn) (Nat.not_le.mpr hlong)
        · have hbounded := h.bounded
          have hmax : w.largestMax ≤ (meteredStep w (.setMaxMessageSizeInBytes size)).largestMax :=
            Nat.le_max_left _ _
          have hread : w.longestRead ≤ (meteredStep w (.setMaxMessageSizeInBytes size)).longestRead :=
            Nat.le_max_left _ _
          change w.endpoint.mReceivingQueue.length ≤ w.endpoint.frameHeader + _ + _
          omega
        · exact fun _ => ⟨[], by simp, .inl rfl⟩
    exact ⟨hlimit, fun hw => ⟨h.held, hw.prompt, hw.bounded, h.begun, Nat.le_max_right _ _⟩⟩
  | useReceiveStream call =>
    have hbounded := h.bounded
    have hmax : w.largestMax ≤ (meteredStep w (.useReceiveStream call)).largestMax := Nat.le_max_left _ _
    have hread : w.longestRead ≤ (meteredStep w (.useReceiveStream call)).longestRead := Nat.le_max_left _ _
    have hsame : (w.endpoint.step (.useReceiveStream call)).Failed ↔ w.endpoint.Failed := failed_congr rfl rfl
    have hlimit : WithinLimit w (.useReceiveStream call) := by
      refine ⟨fun n hn hlong => hsame.mpr (h.prompt n hn hlong), ?_,
        fun hnot => absurd rfl (hnot call)⟩
      change w.endpoint.mReceivingQueue.length ≤ w.endpoint.frameHeader + _ + _
      omega
    exact ⟨iff_of_true hlimit trivial,
      fun _ => ⟨h.held, hlimit.prompt, hlimit.bounded, h.begun, Nat.le_max_right _ _⟩⟩
  | writeReady outcomes => exact hkeeps trivial (step_kept h.held trivial)
  | exception => exact hkeeps trivial (step_kept h.held trivial)
  | readerReady outcomes => exact hkeeps trivial (step_kept h.held trivial)
  | timer => exact hkeeps trivial (step_kept h.held trivial)
  | shutdown lingerTime => exact hkeeps trivial (step_kept h.held trivial)
  | useSendStream call => exact hkeeps trivial (step_kept h.held trivial)

/-- An endpoint that has received nothing. -/
def metered (t : TCPMessaging) : Metered TCPMessaging := ⟨t, t.mMaxMessageSizeInBytes.toNat, 0⟩

/-- In a run of an endpoint that begins with nothing received, the limit is applied at every event
exactly when it is applied in time. -/
theorem within_limit_iff (t : TCPMessaging) (hheld : t.isShutdown = true → t.mSocket = false)
    (hempty : t.mReceivingQueue = []) (events : List TCPEvent) :
    Meets meteredStep WithinLimit (metered t) events ↔ Meets meteredStep InTime (metered t) events := by
  have hwaiting : Waiting (metered t) := by
    refine ⟨hheld, ?_, ?_, ?_, Nat.le_refl _⟩
    · intro n hn
      simp [metered, announcedIn, hempty] at hn
    · simp [metered, hempty]
    · intro _ _
      simp only [metered, hempty]
      exact next_nil _
  exact meets_iff Waiting (fun _ event h => (h.step event).1) (fun _ event h => (h.step event).2) _ events hwaiting

end TCPMessaging

end OpenPeer
