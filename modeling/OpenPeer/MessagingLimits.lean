import OpenPeer.RUDPMessagingLink
import OpenPeer.TCPMessagingLimits
import OpenPeer.TCPMessagingStates

/-!
# The size limit of the two framers

Over the reliable channel the limit is kept beside the streams and compared with nothing: a
message of any size that is announced is waited for, and then delivered. So the limit holds
there as far as the peer keeps to it, and as nothing arrives on top of a maximal frame.
-/
namespace OpenPeer

open Bytes Framing Runs

/-- One end of a messaging channel with its limit, its error and whether it holds its channel. -/
structure RUDPMessagingEndpoint where
  messaging : RUDPMessaging
  mLastError : UInt16
  mMaxMessageSizeInBytes : UInt32
  mChannel : Bool
  deriving DecidableEq, Repr

/-- What happens to the end. The states of the channel have the names of those of the messaging;
with a call that shuts the channel down comes whether it has been by then. -/
inductive RUDPMessagingInput where
  | arrived (bytes : List UInt8)
  | writerReady (writer : RUDPMessaging.Writer)
  | readerReady
  | channelStateChanged (state : RUDPMessagingStates) (errorCode : UInt16) (channelShutdown : Bool)
  | channelClosesWire
  | shutdown (channelShutdown : Bool)
  | setMaxMessageSizeInBytes (maxMessageSizeInBytes : UInt32)
  | useOuterSendStream (call : StreamCall Unit)
  | useOuterReceiveStream (call : StreamCall Unit)
  deriving DecidableEq, Repr

namespace RUDPMessagingEndpoint

open RUDPMessaging

def isShuttingDown (t : RUDPMessagingEndpoint) : Bool := t.messaging.mCurrentState == .shuttingDown

def isShutdown (t : RUDPMessagingEndpoint) : Bool := t.messaging.isShutdown

def setState (t : RUDPMessagingEndpoint) (state : RUDPMessagingStates) : RUDPMessagingEndpoint :=
  { t with messaging := { t.messaging with mCurrentState := state } }

def setError (t : RUDPMessagingEndpoint) (errorCode : UInt16) : RUDPMessagingEndpoint :=
  if t.isShuttingDown ∨ t.isShutdown then t else
  if t.mLastError ≠ 0 then t else { t with mLastError := errorCode }

def cancel (t : RUDPMessagingEndpoint) (channelShutdown : Bool) : RUDPMessagingEndpoint :=
  if t.isShutdown then t else
  let t := t.setState .shuttingDown
  if t.mChannel ∧ ¬channelShutdown then t else { t.setState .shutdown with mChannel := false }

def onRDUPChannelStateChanged (t : RUDPMessagingEndpoint) (state : RUDPMessagingStates) (errorCode : UInt16)
    (channelShutdown : Bool) : RUDPMessagingEndpoint :=
  if ¬t.mChannel then t else
  if t.isShutdown then t else
  match state with
  | .connecting => t
  | .connected => if t.isShuttingDown then t else t.setState .connected
  | .shuttingDown =>
    let t := if errorCode ≠ 0 then t.setError errorCode else t
    t.cancel channelShutdown
  | .shutdown =>
    let t := if errorCode ≠ 0 then t.setError errorCode else t
    { t with mChannel := false }.cancel channelShutdown

def step (t : RUDPMessagingEndpoint) : RUDPMessagingInput → RUDPMessagingEndpoint
  | .arrived bytes =>
    { t with messaging := { t.messaging with mWireReceiveStream := t.messaging.mWireReceiveStream.write bytes none } }
  | .writerReady writer => { t with messaging := t.messaging.onTransportStreamWriterReady writer }
  | .readerReady => { t with messaging := t.messaging.onTransportStreamReaderReady }
  | .channelStateChanged state errorCode channelShutdown =>
    t.onRDUPChannelStateChanged state errorCode channelShutdown
  | .channelClosesWire =>
    { t with messaging := { t.messaging with mWireReceiveStream := t.messaging.mWireReceiveStream.cancel } }
  | .shutdown channelShutdown => t.cancel channelShutdown
  | .setMaxMessageSizeInBytes size => { t with mMaxMessageSizeInBytes := size }
  | .useOuterSendStream call =>
    { t with messaging := { t.messaging with mOuterSendStream := call.apply t.messaging.mOuterSendStream } }
  | .useOuterReceiveStream call =>
    { t with messaging := { t.messaging with mOuterReceiveStream := call.apply t.messaging.mOuterReceiveStream } }

/-- The endpoint as it is made, over a channel. -/
def construct (receiveStream sendStream : TransportStream Unit) (maxMessageSizeInBytes : UInt32) :
    RUDPMessagingEndpoint where
  messaging := .construct receiveStream sendStream
  mLastError := 0
  mMaxMessageSizeInBytes := maxMessageSizeInBytes
  mChannel := true

/-- The bytes received and not delivered. -/
def buffered (t : RUDPMessagingEndpoint) : List UInt8 := t.messaging.mWireReceiveStream.unread

/-- On the way to shutdown or there, for an error. -/
structure Failed (t : RUDPMessagingEndpoint) : Prop where
  closing : t.isShuttingDown = true ∨ t.isShutdown = true
  error : t.mLastError ≠ 0

/-- Write out the messages that are not empty. -/
def writeOut (stream : TransportStream Unit) (ms : List (List UInt8 × List UInt8)) : TransportStream Unit :=
  ms.foldl (fun stream m => if m.2 = [] then stream else stream.write m.2 none) stream

def RUDPMessagingInput.bytes : RUDPMessagingInput → List UInt8
  | .arrived bytes => bytes
  | _ => []

def meteredStep (w : Metered RUDPMessagingEndpoint) (event : RUDPMessagingInput) : Metered RUDPMessagingEndpoint where
  endpoint := w.endpoint.step event
  largestMax := max w.largestMax (w.endpoint.step event).mMaxMessageSizeInBytes.toNat
  longestRead := max w.longestRead (RUDPMessagingInput.bytes event).length

/-- The limit is applied, as over TCP. -/
structure WithinLimit (w : Metered RUDPMessagingEndpoint) (event : RUDPMessagingInput) : Prop where
  prompt : ∀ n ∈ announced 0 (w.endpoint.step event).buffered,
    (w.endpoint.step event).mMaxMessageSizeInBytes.toNat < n → (w.endpoint.step event).Failed
  bounded : (w.endpoint.step event).buffered.length ≤
    4 + (meteredStep w event).largestMax + (meteredStep w event).longestRead
  delivers : (∀ call, event ≠ .useOuterReceiveStream call) → ∃ ms : List (List UInt8 × List UInt8),
    (∀ m ∈ ms, m.2.length ≤ w.endpoint.mMaxMessageSizeInBytes.toNat) ∧
      (w.endpoint.step event).messaging.mOuterReceiveStream = writeOut w.endpoint.messaging.mOuterReceiveStream ms

/-- Bytes arrive while no more than a maximal frame is waiting, and announce nothing that is too
long; the limit is not set below what is announced already. -/
def InTime (w : Metered RUDPMessagingEndpoint) : RUDPMessagingInput → Prop
  | .arrived bytes =>
    w.endpoint.messaging.mWireReceiveStream.mShutdown = true ∨
      (∀ n ∈ announced 0 (w.endpoint.buffered ++ bytes), n ≤ w.endpoint.mMaxMessageSizeInBytes.toNat) ∧
        w.endpoint.buffered.length ≤ 4 + w.endpoint.mMaxMessageSizeInBytes.toNat
  | .setMaxMessageSizeInBytes size => ∀ n ∈ announced 0 w.endpoint.buffered, n ≤ size.toNat
  | _ => True

section Receiving

variable {t : RUDPMessaging}

/-- The wire is used by nobody but the channel and the messaging. -/
structure Wire (stream : TransportStream Unit) : Prop where
  unblocked : stream.mBlockQueue = none
  emptied : stream.mShutdown = true → stream.mBuffers = []

theorem Wire.of_open {stream : TransportStream Unit} (h : stream.Open) : Wire stream := by
  refine ⟨h.unblocked, fun hshut => ?_⟩
  rw [h.alive] at hshut
  cases hshut

/-- The receive loop takes every whole frame off an open wire and writes its message out. -/
theorem receiveLoop_delivers (hwire : t.mWireReceiveStream.Open) :
    ∃ wire, wire.Open ∧ wire.unread = (drain wireCode t.mWireReceiveStream.unread).2 ∧
      t.receiveLoop = { t with
        mWireReceiveStream := wire
        mOuterReceiveStream := writeOut t.mOuterReceiveStream (drain wireCode t.mWireReceiveStream.unread).1 } := by
  induction hn : t.mWireReceiveStream.unread.length using Nat.strongRecOn generalizing t with
  | ind n ih =>
    have hturn := receiveTurn_eq t hwire.alive
    cases hnext : wireCode.next t.mWireReceiveStream.unread with
    | none =>
      rw [show lengthNext 0 t.mWireReceiveStream.unread = none from hnext] at hturn
      refine ⟨t.mWireReceiveStream, hwire, by rw [drain_none _ _ hnext], ?_⟩
      rw [drain_none _ _ hnext, receiveLoop]
      split
      next => rfl
      next hsome => rw [hturn] at hsome; cases hsome
    | some r =>
      rw [show lengthNext 0 t.mWireReceiveStream.unread = some r from hnext] at hturn
      obtain ⟨hafter, hopen⟩ := t.wireAfter_unread r.1.2.length hwire.alive
      have hleft := lengthNext_rest _ r.1 r.2 hnext
      rw [Nat.zero_add] at hleft
      rw [← hleft] at hafter
      have hshort := wireCode.next_length _ r.1 r.2 hnext
      obtain ⟨wire, hwire', hunread, hloop⟩ := ih r.2.length (by omega)
        (t := t.takenFrame (t.wireAfter r.1.2.length) r.1.2) (hopen hwire) (by rw [← hafter]; rfl)
      rw [show (t.takenFrame (t.wireAfter r.1.2.length) r.1.2).mWireReceiveStream.unread = r.2 from hafter]
        at hunread hloop
      refine ⟨wire, hwire', by rw [hunread, drain_some _ _ r.1 r.2 hnext], ?_⟩
      rw [drain_some _ _ r.1 r.2 hnext, receiveLoop]
      split
      next hnone => rw [hturn] at hnone; cases hnone
      next hsome =>
        rw [hturn] at hsome
        cases hsome
        exact hloop

/-- A step leaves the receiving side as it is, or takes every whole frame off the wire. -/
theorem step_receiving (hwire : Wire t.mWireReceiveStream) :
    t.step.mWireReceiveStream = t.mWireReceiveStream ∧ t.step.mOuterReceiveStream = t.mOuterReceiveStream ∨
      Wire t.step.mWireReceiveStream ∧
        t.step.mWireReceiveStream.unread = (drain wireCode t.mWireReceiveStream.unread).2 ∧
        t.step.mOuterReceiveStream =
          writeOut t.mOuterReceiveStream (drain wireCode t.mWireReceiveStream.unread).1 := by
  have hsend : t.stepSendData.mWireReceiveStream = t.mWireReceiveStream ∧
      t.stepSendData.mOuterReceiveStream = t.mOuterReceiveStream := by
    unfold stepSendData
    split
    · exact ⟨rfl, rfl⟩
    · obtain ⟨hw, ho, -, -⟩ := sendLoop_keeps t t.mOuterSendStream.getTotalReadBuffersAvailable
      exact ⟨hw, ho⟩
  unfold RUDPMessaging.step
  split
  · exact .inl ⟨rfl, rfl⟩
  unfold stepReceiveData
  split
  · exact .inl hsend
  · cases hshut : t.mWireReceiveStream.mShutdown with
    | true =>
      have hturn := receiveTurn_cancelled t.stepSendData (by rw [hsend.1, hshut])
      rw [receiveLoop]
      split
      next => exact .inl hsend
      next hsome => rw [hturn] at hsome; cases hsome
    | false =>
      have hopen : t.stepSendData.mWireReceiveStream.Open := by
        rw [hsend.1]
        exact ⟨hshut, hwire.unblocked⟩
      obtain ⟨wire, hopen', hunread, hloop⟩ := receiveLoop_delivers hopen
      rw [hsend.1] at hunread
      rw [hloop, hsend.1, hsend.2]
      exact .inr ⟨.of_open hopen', hunread, rfl⟩

end Receiving

/-- What holds between the events of a run in which the limit is kept to. -/
structure Waiting (w : Metered RUDPMessagingEndpoint) : Prop where
  wire : Wire w.endpoint.messaging.mWireReceiveStream
  fits : ∀ n ∈ announced 0 w.endpoint.buffered, n ≤ w.endpoint.mMaxMessageSizeInBytes.toNat
  bounded : w.endpoint.buffered.length ≤ 4 + w.largestMax + w.longestRead
  max_le : w.endpoint.mMaxMessageSizeInBytes.toNat ≤ w.largestMax

variable {w : Metered RUDPMessagingEndpoint} {event : RUDPMessagingInput}

/-- What is waiting afterwards fits the limit and is no longer than before, and what was delivered
fits. -/
theorem Waiting.after (hwire : Wire (w.endpoint.step event).messaging.mWireReceiveStream)
    (hfits : ∀ n ∈ announced 0 (w.endpoint.step event).buffered,
      n ≤ (w.endpoint.step event).mMaxMessageSizeInBytes.toNat)
    (hbounded : (w.endpoint.step event).buffered.length ≤
      4 + (meteredStep w event).largestMax + (meteredStep w event).longestRead)
    (hdelivers : (∀ call, event ≠ .useOuterReceiveStream call) → ∃ ms : List (List UInt8 × List UInt8),
      (∀ m ∈ ms, m.2.length ≤ w.endpoint.mMaxMessageSizeInBytes.toNat) ∧
        (w.endpoint.step event).messaging.mOuterReceiveStream = writeOut w.endpoint.messaging.mOuterReceiveStream ms) :
    WithinLimit w event ∧ Waiting (meteredStep w event) :=
  ⟨⟨fun n hn hlong => absurd (hfits n hn) (Nat.not_le.mpr hlong), hbounded, hdelivers⟩,
    ⟨hwire, hfits, hbounded, Nat.le_max_right _ _⟩⟩

theorem meters_grow (w : Metered RUDPMessagingEndpoint) (event : RUDPMessagingInput) :
    w.largestMax ≤ (meteredStep w event).largestMax ∧ w.longestRead ≤ (meteredStep w event).longestRead :=
  ⟨Nat.le_max_left _ _, Nat.le_max_left _ _⟩

theorem Waiting.kept (h : Waiting w)
    (hwire : (w.endpoint.step event).messaging.mWireReceiveStream = w.endpoint.messaging.mWireReceiveStream)
    (houter : (∀ call, event ≠ .useOuterReceiveStream call) →
      (w.endpoint.step event).messaging.mOuterReceiveStream = w.endpoint.messaging.mOuterReceiveStream)
    (hmax : (w.endpoint.step event).mMaxMessageSizeInBytes = w.endpoint.mMaxMessageSizeInBytes) :
    WithinLimit w event ∧ Waiting (meteredStep w event) := by
  obtain ⟨hlargest, hlongest⟩ := meters_grow w event
  have hbounded := h.bounded
  apply Waiting.after
  · rw [hwire]
    exact h.wire
  · rw [buffered, hwire, hmax]
    exact h.fits
  · rw [buffered, hwire, ← buffered]
    omega
  · exact fun hnot => ⟨[], by simp, houter hnot⟩

/-- An event after which the messaging takes its step; what comes before the step leaves the
receiving streams as they are to be read. -/
theorem Waiting.stepped (h : Waiting w) {t : RUDPMessaging} (hstep : (w.endpoint.step event).messaging = t.step)
    (hwire : Wire t.mWireReceiveStream)
    (hunread : t.mWireReceiveStream.unread = w.endpoint.messaging.mWireReceiveStream.unread)
    (houter : t.mOuterReceiveStream = w.endpoint.messaging.mOuterReceiveStream)
    (hmax : (w.endpoint.step event).mMaxMessageSizeInBytes = w.endpoint.mMaxMessageSizeInBytes) :
    WithinLimit w event ∧ Waiting (meteredStep w event) := by
  obtain ⟨hlargest, hlongest⟩ := meters_grow w event
  have hbounded := h.bounded
  have hfits := h.fits
  rw [buffered, ← hunread] at hbounded hfits
  cases step_receiving hwire with
  | inl hsame =>
    obtain ⟨hwire', houter'⟩ := hsame
    apply Waiting.after
    · rw [hstep, hwire']
      exact hwire
    · rw [buffered, hstep, hwire', hmax]
      exact hfits
    · rw [buffered, hstep, hwire']
      omega
    · exact fun _ => ⟨[], by simp, by rw [hstep, houter', houter]; rfl⟩
  | inr htaken =>
    obtain ⟨hwire', hrest, houter'⟩ := htaken
    have hshort := length_drain wireCode t.mWireReceiveStream.unread
    apply Waiting.after
    · rw [hstep]
      exact hwire'
    · rw [buffered, hstep, hrest, hmax]
      exact fun n hn => hfits n (announced_rest _ n hn)
    · rw [buffered, hstep, hrest]
      omega
    · refine fun _ => ⟨(drain wireCode t.mWireReceiveStream.unread).1, fun m hm => ?_, by rw [hstep, houter', houter]⟩
      exact hfits _ (List.mem_append_left _ (List.mem_map_of_mem hm))

theorem Wire.notify {stream : TransportStream Unit} (h : Wire stream) : Wire stream.notifyReaderReadyToRead := by
  refine ⟨?_, ?_⟩
  · unfold TransportStream.notifyReaderReadyToRead
    split
    · exact h.unblocked
    · simp [h.unblocked]
  · rw [TransportStream.notifyReaderReadyToRead_mShutdown, TransportStream.notifyReaderReadyToRead_mBuffers]
    exact h.emptied

variable (t : RUDPMessagingEndpoint)

theorem cancel_frame (channelShutdown : Bool) :
    (t.cancel channelShutdown).messaging.mWireReceiveStream = t.messaging.mWireReceiveStream ∧
      (t.cancel channelShutdown).messaging.mOuterReceiveStream = t.messaging.mOuterReceiveStream ∧
      (t.cancel channelShutdown).mMaxMessageSizeInBytes = t.mMaxMessageSizeInBytes := by
  unfold cancel
  split
  · simp
  · dsimp only
    split <;> simp [setState]

theorem setError_frame (errorCode : UInt16) :
    (t.setError errorCode).messaging = t.messaging ∧
      (t.setError errorCode).mMaxMessageSizeInBytes = t.mMaxMessageSizeInBytes := by
  unfold setError
  split
  · simp
  · split <;> simp

theorem channelStateChanged_frame (state : RUDPMessagingStates) (errorCode : UInt16)
    (channelShutdown : Bool) :
    (t.onRDUPChannelStateChanged state errorCode channelShutdown).messaging.mWireReceiveStream =
        t.messaging.mWireReceiveStream ∧
      (t.onRDUPChannelStateChanged state errorCode channelShutdown).messaging.mOuterReceiveStream =
        t.messaging.mOuterReceiveStream ∧
      (t.onRDUPChannelStateChanged state errorCode channelShutdown).mMaxMessageSizeInBytes =
        t.mMaxMessageSizeInBytes := by
  obtain ⟨hmessaging, hmax⟩ := setError_frame t errorCode
  unfold onRDUPChannelStateChanged
  split
  · simp
  split
  · simp
  cases state with
  | connecting => simp
  | connected =>
    dsimp only
    split <;> simp [setState]
  | shuttingDown =>
    dsimp only
    split
    · obtain ⟨hwire, houter, hsize⟩ := cancel_frame (t.setError errorCode) channelShutdown
      rw [hwire, houter, hsize, hmessaging, hmax]
      simp
    · exact cancel_frame t channelShutdown
  | shutdown =>
    dsimp only
    split
    · obtain ⟨hwire, houter, hsize⟩ :=
        cancel_frame { t.setError errorCode with mChannel := false } channelShutdown
      rw [hwire, houter, hsize, hmessaging, hmax]
      simp
    · exact cancel_frame { t with mChannel := false } channelShutdown

theorem Waiting.arrived (h : Waiting w) (bytes : List UInt8) (hin : InTime w (.arrived bytes)) :
    WithinLimit w (.arrived bytes) ∧ Waiting (meteredStep w (.arrived bytes)) := by
  obtain ⟨hlargest, hlongest⟩ := meters_grow w (.arrived bytes)
  cases hshut : w.endpoint.messaging.mWireReceiveStream.mShutdown with
  | true =>
    have hsame : w.endpoint.messaging.mWireReceiveStream.write bytes none =
        w.endpoint.messaging.mWireReceiveStream := TransportStream.write_shutdown hshut bytes none
    exact h.kept hsame (fun _ => rfl) rfl
  | false =>
    have hopen : w.endpoint.messaging.mWireReceiveStream.Open := ⟨hshut, h.wire.unblocked⟩
    have hunread := TransportStream.write_unread hopen bytes none
    obtain ⟨hfits, hroom⟩ : _ ∧ _ := hin.resolve_left (by simp [hshut])
    have hread : bytes.length ≤ (meteredStep w (.arrived bytes)).longestRead := Nat.le_max_right _ _
    have hmax := h.max_le
    apply Waiting.after
    · exact .of_open (hopen.write bytes none)
    · change ∀ n ∈ announced 0 (w.endpoint.messaging.mWireReceiveStream.write bytes none).unread, _
      rw [hunread]
      exact hfits
    · change (w.endpoint.messaging.mWireReceiveStream.write bytes none).unread.length ≤ _
      rw [hunread, List.length_append]
      change w.endpoint.buffered.length + bytes.length ≤ _
      omega
    · exact fun _ => ⟨[], by simp, rfl⟩

theorem Waiting.step (h : Waiting w) (event : RUDPMessagingInput) (hin : InTime w event) :
    WithinLimit w event ∧ Waiting (meteredStep w event) := by
  obtain ⟨hlargest, hlongest⟩ := meters_grow w event
  have hbounded := h.bounded
  cases event with
  | arrived bytes => exact h.arrived bytes hin
  | writerReady writer =>
    cases writer with
    | outerReceive =>
      exact h.stepped rfl h.wire.notify TransportStream.notifyReaderReadyToRead_unread rfl rfl
    | wireSend => exact h.stepped rfl h.wire rfl rfl rfl
  | readerReady => exact h.stepped rfl h.wire rfl rfl rfl
  | channelStateChanged state errorCode channelShutdown =>
    obtain ⟨hwire, houter, hmax⟩ := channelStateChanged_frame w.endpoint state errorCode channelShutdown
    exact h.kept hwire (fun _ => houter) hmax
  | channelClosesWire =>
    have hnone : (w.endpoint.step .channelClosesWire).buffered = [] := rfl
    apply Waiting.after
    · exact ⟨h.wire.unblocked, fun _ => rfl⟩
    · simp [hnone]
    · simp [hnone]
    · exact fun _ => ⟨[], by simp, rfl⟩
  | shutdown channelShutdown =>
    obtain ⟨hwire, houter, hmax⟩ := cancel_frame w.endpoint channelShutdown
    exact h.kept hwire (fun _ => houter) hmax
  | setMaxMessageSizeInBytes size =>
    apply Waiting.after
    · exact h.wire
    · exact hin
    · change w.endpoint.buffered.length ≤ _
      omega
    · exact fun _ => ⟨[], by simp, rfl⟩
  | useOuterSendStream call => exact h.kept rfl (fun _ => rfl) rfl
  | useOuterReceiveStream call => exact h.kept rfl (fun hnot => absurd rfl (hnot call)) rfl

/-- An endpoint that has received nothing. -/
def metered (t : RUDPMessagingEndpoint) : Metered RUDPMessagingEndpoint := ⟨t, t.mMaxMessageSizeInBytes.toNat, 0⟩

theorem within_limit (receiveStream sendStream : TransportStream Unit) (maxMessageSizeInBytes : UInt32)
    (events : List RUDPMessagingInput)
    (hin : Meets meteredStep InTime (metered (construct receiveStream sendStream maxMessageSizeInBytes)) events) :
    Meets meteredStep WithinLimit (metered (construct receiveStream sendStream maxMessageSizeInBytes)) events := by
  have hwaiting : Waiting (metered (construct receiveStream sendStream maxMessageSizeInBytes)) := by
    have hnone : (construct receiveStream sendStream maxMessageSizeInBytes).buffered = [] := rfl
    refine ⟨.of_open TransportStream.create_open, ?_, ?_, Nat.le_refl _⟩
    · simp [metered, hnone]
    · simp [metered, hnone]
  generalize metered (construct receiveStream sendStream maxMessageSizeInBytes) = w at hin hwaiting
  induction events generalizing w with
  | nil => trivial
  | cons event events ih =>
    obtain ⟨hlimit, hnext⟩ := hwaiting.step event hin.1
    exact ⟨hlimit, ih _ hin.2 hnext⟩

end RUDPMessagingEndpoint

/-- Over TCP the limit is applied at every event of a run exactly when no read ends inside a frame that
announces too much; over the reliable channel it is when the peer keeps to it. -/
theorem size_limit_applied (opening : TCPOpening) (events : List TCPEvent)
    (receiveStream sendStream : TransportStream Unit) (maxMessageSizeInBytes : UInt32)
    (inputs : List RUDPMessagingInput) :
    (Meets TCPMessaging.meteredStep TCPMessaging.WithinLimit opening.start.metered events ↔
      Meets TCPMessaging.meteredStep TCPMessaging.InTime opening.start.metered events) ∧
    (Meets RUDPMessagingEndpoint.meteredStep RUDPMessagingEndpoint.InTime
        (RUDPMessagingEndpoint.construct receiveStream sendStream maxMessageSizeInBytes).metered inputs →
      Meets RUDPMessagingEndpoint.meteredStep RUDPMessagingEndpoint.WithinLimit
        (RUDPMessagingEndpoint.construct receiveStream sendStream maxMessageSizeInBytes).metered inputs) := by
  have hopen : opening.start.isShutdown = false ∧ opening.start.mReceivingQueue = [] := by
    cases opening with
    | accept receiveStream sendStream framesHaveChannelNumber maxMessageSizeInBytes accepted =>
      cases accepted <;> exact ⟨rfl, rfl⟩
    | connect receiveStream sendStream framesHaveChannelNumber maxMessageSizeInBytes failed =>
      cases failed <;> exact ⟨rfl, rfl⟩
  constructor
  · apply TCPMessaging.within_limit_iff _ _ hopen.2
    intro hshut
    rw [hopen.1] at hshut
    cases hshut
  · exact RUDPMessagingEndpoint.within_limit receiveStream sendStream maxMessageSizeInBytes inputs

/-- A header that announces 256 bytes. -/
def longHeader : List UInt8 := [0, 0, 1, 0]

theorem longHeader_waits : lengthNext 0 longHeader = none := lengthNext_none 0 _ (.inr (by decide))

theorem announced_longHeader : announced 0 longHeader = [256] := by
  rw [announced_waiting _ longHeader_waits]
  decide

/-- Neither end fails when 256 bytes are announced where sixteen are allowed. -/
theorem long_frame_awaited :
    (¬∀ (opening : TCPOpening) (events : List TCPEvent),
      Meets TCPMessaging.meteredStep TCPMessaging.WithinLimit opening.start.metered events) ∧
    ¬∀ (receiveStream sendStream : TransportStream Unit) (size : UInt32) (inputs : List RUDPMessagingInput),
      Meets RUDPMessagingEndpoint.meteredStep RUDPMessagingEndpoint.WithinLimit
        (RUDPMessagingEndpoint.construct receiveStream sendStream size).metered inputs := by
  constructor
  · intro h
    have hlimit := h (.accept .create .create false 16 true) [.readReady (.received longHeader)]
    rw [TCPMessaging.within_limit_iff _ (by decide) rfl] at hlimit
    have hnext (l : List UInt8) (hwaits : lengthNext 0 l = none) : (TCPMessaging.frameCode false).next l = none := hwaits
    have hdrain := drain_none (TCPMessaging.frameCode false) longHeader (hnext _ longHeader_waits)
    have hopen : ¬(TCPOpening.start (.accept .create .create false 16 true)).Closing := by
      rintro (hshutting | hshut)
      · exact absurd hshutting (by decide)
      · exact absurd hshut (by decide)
    cases hlimit.1 rfl hopen with
    | inl hlong =>
      obtain ⟨m, hm, -⟩ := hlong
      change m ∈ (drain (TCPMessaging.frameCode false) longHeader).1 at hm
      rw [hdrain] at hm
      cases hm
    | inr hfits =>
      change ∀ n ∈ announced 0 (drain (TCPMessaging.frameCode false) longHeader).2, n ≤ 16 at hfits
      rw [hdrain, announced_longHeader] at hfits
      exact absurd (hfits _ List.mem_cons_self) (by decide)
  · intro h
    have hprompt := (h .create .create 16 [.arrived longHeader]).1.prompt 256
    change 256 ∈ announced 0 longHeader → 16 < 256 → _ at hprompt
    rw [announced_longHeader] at hprompt
    exact absurd (hprompt List.mem_cons_self (by decide)).error (by decide)

end OpenPeer
