import OpenPeer.RUDPChannelAckEffect

/-!
# A channel stream in its surroundings

A channel stream with the `sendNow` that has the guard, if there is one, and what
the application has read. An event is one locked region, one call of the delegate
or one act of the application, so a run of events is an interleaving of the calls
of all threads. Every event but the creation of a packet and the arrival of one
leaves the windows as they are, apart from packets that are acknowledged.
-/
namespace OpenPeer

open RUDPChannelStream

/-- What the delegate does with a packet that is to be sent. -/
inductive Delivery where
  | sent | notSent | delegateGone
  deriving DecidableEq, Repr

/-- What a region of `sendNow` takes from outside: the time, the parity bit it draws, what becomes
of the packet it sends, and whether the delegate is gone when an acknowledgement is asked for. -/
structure SendNowInput where
  now : Int
  parity : Bool
  delivery : Delivery
  delegateIsGone : Bool
  deriving DecidableEq, Repr

/-- An event that brings nothing from the peer. -/
inductive OwnEvent where
  | sendNow
  | proceed (input : SendNowInput)
  | onTimer (timer : Nat) (coin : Bool)
  | notifyExternalACKSent
  | notifySocketWriteReady
  | holdSendingUntilReceiveSequenceNumber (sequenceNumber : Nat)
  | delegateGone
  | setStreams (receiveStream sendStream : TransportStream Unit)
  | shutdown (shutdownOnlyOnceAllDataSent : Bool)
  | shutdownDirection (state : Shutdown)
  | write (data : List UInt8)
  | take
  deriving DecidableEq, Repr

inductive RUDPChannelEvent where
  | handlePacket (now : Int) (packet : RUDPPacket) (ecnMarked : Bool)
  | handleExternalAck (now : Int) (guarenteedDeliveryRequestID : Nat) (ack : Ack)
  | own (event : OwnEvent)
  deriving DecidableEq, Repr

structure RUDPChannelEndpoint where
  stream : RUDPChannelStream
  sending : Option SendNow
  taken : List UInt8
  deriving DecidableEq, Repr

namespace RUDPChannelStream

/-- One region of `sendNow`, or its call of the delegate. -/
def proceed (input : SendNowInput) (l : SendNow) (s : RUDPChannelStream) : Option SendNow × RUDPChannelStream :=
  match l.position with
  | .checkingBatons => (some (s.checkBatons l), s)
  | .choosingResend => (some (s.selectResend l), s)
  | .creatingPacket =>
    let r := s.createPacket input.now input.parity l
    (some r.1, r.2)
  | .delivering =>
    match input.delivery with
    | .sent => (some (afterSend true l), s)
    | .notSent => (some (afterSend false l), s)
    | .delegateGone => (some { l with position := .leaving }, s.delegateGone)
  | .afterDelivery =>
    let r := s.clearResend l
    (some r.1, r.2)
  | .leaving =>
    let r := s.leaveSendNow input.delegateIsGone l
    (some r.1, r.2)
  | .unwinding => (none, s.unwind)

end RUDPChannelStream

namespace RUDPChannelEndpoint

def create (stream : RUDPChannelStream) : RUDPChannelEndpoint := ⟨stream, none, []⟩

def own (t : RUDPChannelEndpoint) : OwnEvent → RUDPChannelEndpoint
  | .sendNow =>
    match t.sending, t.stream.sendNow with
    | none, some r => { t with sending := some r.1, stream := r.2 }
    | _, _ => t
  | .proceed input =>
    match t.sending with
    | none => t
    | some l =>
      let r := t.stream.proceed input l
      { t with sending := r.1, stream := r.2 }
  | .onTimer timer coin => { t with stream := t.stream.onTimer timer coin }
  | .notifyExternalACKSent => { t with stream := t.stream.notifyExternalACKSent }
  | .notifySocketWriteReady => { t with stream := t.stream.notifySocketWriteReady }
  | .holdSendingUntilReceiveSequenceNumber n =>
    { t with stream := t.stream.holdSendingUntilReceiveSequenceNumber n }
  | .delegateGone => { t with stream := t.stream.delegateGone }
  | .setStreams receiveStream sendStream => { t with stream := t.stream.setStreams receiveStream sendStream }
  | .shutdown onlyOnceAllDataSent => { t with stream := t.stream.shutdown onlyOnceAllDataSent }
  | .shutdownDirection state => { t with stream := t.stream.shutdownDirection state }
  | .write data =>
    { t with stream := { t.stream with mSendStream := t.stream.mSendStream.map (·.write data none) } }
  | .take =>
    match t.stream.mReceiveStream with
    | none => t
    | some stream =>
      match stream.readBuffer with
      | (none, _) => t
      | (some r, stream) =>
        { t with stream := { t.stream with mReceiveStream := some stream }, taken := t.taken ++ r.1 }

def step (t : RUDPChannelEndpoint) : RUDPChannelEvent → RUDPChannelEndpoint
  | .handlePacket now packet ecnMarked => { t with stream := (t.stream.handlePacket now packet ecnMarked).2 }
  | .handleExternalAck now id ack => { t with stream := t.stream.handleExternalAck now id ack }
  | .own event => t.own event

end RUDPChannelEndpoint

section Creation

variable {acked : Nat → Prop} (s : RUDPChannelStream)

/-- The packet that goes out is the one with the vector, with its data and whether it asks for an
acknowledgement. -/
def Completes (packet vectored : RUDPPacket) : Prop :=
  ∃ data, packet = { vectored with mData := data } ∨
    packet = ({ vectored with mData := data } : RUDPPacket).setFlag .arACKRequired true

/-- What a creation of a packet does: it ends the burst, or it sends the next packet, whose header
and vector are those of the window and of the burst. -/
theorem createPacket_cases (now : Int) (parity : Bool) (l : SendNow) :
    (Untouched acked s (s.createPacket now parity l).2 ∧
      ∃ position, (s.createPacket now parity l).1 = { l with position := position } ∧
        (position = .leaving ∨ position = .unwinding)) ∨
    ∃ stream ackRequired packet bytes, packet.packetize = .ok bytes ∧ Completes packet (s.vectoredPacket parity l) ∧
      s.createPacket now parity l =
        ({ l with
            position := .delivering
            firstPacketCreated := l.firstPacketCreated.or (some s.mNextSequenceNumber)
            attemptToDeliver := some s.mNextSequenceNumber
            attemptToDeliverBuffer := some bytes },
          (s.afterRead stream ackRequired).pushPacket now
            ((s.afterRead stream ackRequired).bufferPacket now packet bytes)) := by
  unfold createPacket
  cases hstream : s.mSendStream with
  | none => exact .inl ⟨.refl acked s, .leaving, rfl, .inl rfl⟩
  | some stream =>
    simp only
    by_cases hnone : stream.getTotalReadBuffersAvailable < 1
    · rw [if_pos hnone]
      exact .inl ⟨.refl acked s, .leaving, rfl, .inl rfl⟩
    rw [if_neg hnone]
    cases hroom : (s.vectoredPacket parity l).getRoomAvailableForData maxPacketSizeWhenPMTUIsNotKnown with
    | error _ =>
      exact .inl ⟨.of_same acked rfl rfl rfl rfl rfl rfl rfl ⟨rfl, rfl, rfl⟩, .unwinding, rfl, .inr rfl⟩
    | ok availableBytes =>
      simp only
      generalize decide ((stream.read availableBytes).2.2.getTotalReadBuffersAvailable < 1 ∨ l.packetsToSend = 1)
        = ackRequired
      cases hbytes : RUDPPacket.packetize _ with
      | error _ =>
        exact .inl ⟨.of_same acked rfl rfl rfl rfl rfl rfl rfl ⟨rfl, rfl, rfl⟩, .unwinding, rfl, .inr rfl⟩
      | ok bytes =>
        refine .inr ⟨_, ackRequired, _, bytes, hbytes, ⟨(stream.read availableBytes).1, ?_⟩, rfl⟩
        cases ackRequired with
        | true => exact .inr rfl
        | false => exact .inl rfl

end Creation

section Regions

variable (acked : Nat → Prop) (s : RUDPChannelStream)

theorem proceed_cases (input : SendNowInput) (l : SendNow) :
    Kept acked s (s.proceed input l).2 ∨
      l.position = .creatingPacket ∧
        s.proceed input l =
          (some (s.createPacket input.now input.parity l).1, (s.createPacket input.now input.parity l).2) := by
  unfold proceed
  cases hposition : l.position with
  | checkingBatons => exact .inl (.inl (.refl acked s))
  | choosingResend => exact .inl (.inl (.refl acked s))
  | creatingPacket => exact .inr ⟨rfl, rfl⟩
  | delivering =>
    cases input.delivery with
    | sent => exact .inl (.inl (.refl acked s))
    | notSent => exact .inl (.inl (.refl acked s))
    | delegateGone => exact .inl (kept_delegateGone acked s)
  | afterDelivery => exact .inl (.inl (untouched_clearResend acked s l))
  | leaving => exact .inl (kept_leaveSendNow acked s _ l)
  | unwinding => exact .inl (.inl (.of_same acked rfl rfl rfl rfl rfl rfl rfl ⟨rfl, rfl, rfl⟩))

theorem untouched_sendNow (l : SendNow) (s' : RUDPChannelStream) (h : s.sendNow = some (l, s')) :
    l = .start ∧ Untouched acked s s' := by
  unfold sendNow at h
  split at h
  · cases h
    exact ⟨rfl, .of_same acked rfl rfl rfl rfl rfl rfl rfl ⟨rfl, rfl, rfl⟩⟩
  · cases h

theorem setError_eq (errorCode : RUDPChannelStreamShutdownReasons) (reason : String) :
    ∃ e r, s.setError errorCode reason = { s with mLastError := e, mLastErrorReason := r } := by
  unfold setError
  split
  · exact ⟨_, _, rfl⟩
  · split
    · exact ⟨_, _, rfl⟩
    · exact ⟨_, _, rfl⟩

theorem kept_refuseAck : ∃ e r, Kept acked { s with mLastError := e, mLastErrorReason := r } s.refuseAck := by
  obtain ⟨e, r, herror⟩ := setError_eq s .illegalStreamState "received illegal ack"
  refine ⟨e, r, ?_⟩
  rw [refuseAck, herror]
  exact kept_cancel acked _

theorem shutdownDirection_eq (state : Shutdown) :
    ∃ c f, (c == .shutdown) = s.isShutdown ∧ s.shutdownDirection state = { s with
      mShutdownState := ⟨s.mShutdownState.send || state.send, s.mShutdownState.receive || state.receive⟩
      mReceiveStream := if (s.mShutdownState.receive || state.receive) = true then
        s.mReceiveStream.map TransportStream.cancel else s.mReceiveStream
      mCurrentState := c
      fault := f } := by
  unfold shutdownDirection setState
  simp only
  generalize (if (s.mShutdownState.receive || state.receive) = true then
    s.mReceiveStream.map TransportStream.cancel else s.mReceiveStream) = stream
  split
  · exact ⟨_, _, rfl, rfl⟩
  next hlive =>
    have hstate : s.isShutdown = false := Bool.eq_false_iff.mpr hlive
    split
    · exact ⟨_, _, rfl, rfl⟩
    · split
      · exact ⟨_, _, rfl, rfl⟩
      · exact ⟨.directionalShutdown, _, hstate.symm, rfl⟩

variable {s} in
theorem WindowsUntouched.of_same {s' : RUDPChannelStream} (hreceive : s'.toReceiveWindow = s.toReceiveWindow)
    (hshutdown : s'.isShutdown = s.isShutdown) (hremoved : s'.mRemovedPackets = s.mRemovedPackets)
    (hsending : s'.mSendingPackets = s.mSendingPackets) (hnext : s'.mNextSequenceNumber = s.mNextSequenceNumber)
    (hparity : s'.mXORedParityToNow = s.mXORedParityToNow) (herror : s'.mLastError = s.mLastError) :
    WindowsUntouched acked s s' := by
  refine ⟨hreceive, hshutdown, ?_, hnext, hparity, fun n hn => .inl ?_, fun hbuf => ?_, herror⟩
  · rw [SendWindow.records, hremoved, hsending, SendWindow.records]
  · rwa [SendWindow.LetGo, hremoved, hsending] at hn
  · rwa [SendWindow.Buffered, hremoved, hsending]

theorem windowsKept_shutdown (shutdownOnlyOnceAllDataSent : Bool) :
    WindowsKept acked s (s.shutdown shutdownOnlyOnceAllDataSent) := by
  unfold shutdown
  split
  · exact .inl (Untouched.refl acked s).toWindowsUntouched
  next hlive =>
    split
    · exact (kept_cancel acked s).windows
    · obtain ⟨c, f, hc, heq⟩ := shutdownDirection_eq s ⟨false, true⟩
      have hdirection : WindowsUntouched acked s (s.shutdownDirection ⟨false, true⟩) := by
        rw [heq]
        exact .of_same acked rfl hc rfl rfl rfl rfl rfl
      have hstate : ∀ u : RUDPChannelStream, u.isShutdown = false → WindowsUntouched acked u (u.setState .shuttingDown) := by
        intro u hu
        unfold setState
        split
        · exact (Untouched.refl acked u).toWindowsUntouched
        · exact .of_same acked rfl hu.symm rfl rfl rfl rfl rfl
      have hlive' : (s.shutdownDirection ⟨false, true⟩).isShutdown = false :=
        hdirection.shutdown.trans (Bool.eq_false_iff.mpr hlive)
      exact WindowsKept.trans (.inl (hdirection.trans (hstate _ hlive'))) (kept_closeOnAllDataSent acked _).windows

/-- What the calls other than those of `sendNow` do to the windows and to the burst. -/
theorem own_windows (t : RUDPChannelEndpoint) (event : OwnEvent) (h : ∀ input, event ≠ .proceed input) :
    WindowsKept acked t.stream (t.own event).stream ∧
      ((t.own event).sending = t.sending ∨ (t.own event).sending = some .start) := by
  have hsame : ∀ {s' : RUDPChannelStream}, Untouched acked t.stream s' → WindowsKept acked t.stream s' :=
    fun hs => .inl hs.toWindowsUntouched
  unfold RUDPChannelEndpoint.own
  cases event with
  | sendNow =>
    simp only
    split
    next hsend =>
      obtain ⟨hstart, hs⟩ := untouched_sendNow acked t.stream _ _ hsend
      exact ⟨hsame hs, .inr (congrArg some hstart)⟩
    · exact ⟨hsame (.refl acked _), .inl rfl⟩
  | proceed input => exact absurd rfl (h input)
  | onTimer timer coin => exact ⟨hsame (untouched_onTimer acked t.stream timer coin), .inl rfl⟩
  | notifyExternalACKSent => exact ⟨.inl (.of_same acked rfl rfl rfl rfl rfl rfl rfl), .inl rfl⟩
  | notifySocketWriteReady =>
    refine ⟨.inl (?_ : WindowsUntouched acked t.stream t.stream.notifySocketWriteReady), .inl rfl⟩
    unfold notifySocketWriteReady
    split <;> exact .of_same acked rfl rfl rfl rfl rfl rfl rfl
  | holdSendingUntilReceiveSequenceNumber n => exact ⟨.inl (.of_same acked rfl rfl rfl rfl rfl rfl rfl), .inl rfl⟩
  | delegateGone => exact ⟨(kept_delegateGone acked t.stream).windows, .inl rfl⟩
  | setStreams receiveStream sendStream => exact ⟨.inl (.of_same acked rfl rfl rfl rfl rfl rfl rfl), .inl rfl⟩
  | shutdown onlyOnceAllDataSent => exact ⟨windowsKept_shutdown acked t.stream onlyOnceAllDataSent, .inl rfl⟩
  | shutdownDirection state =>
    obtain ⟨c, f, hc, heq⟩ := shutdownDirection_eq t.stream state
    refine ⟨.inl (?_ : WindowsUntouched acked t.stream (t.stream.shutdownDirection state)), .inl rfl⟩
    rw [heq]
    exact .of_same acked rfl hc rfl rfl rfl rfl rfl
  | write data => exact ⟨.inl (.of_same acked rfl rfl rfl rfl rfl rfl rfl), .inl rfl⟩
  | take =>
    simp only
    split
    · exact ⟨hsame (.refl acked _), .inl rfl⟩
    · split
      · exact ⟨hsame (.refl acked _), .inl rfl⟩
      · exact ⟨.inl (.of_same acked rfl rfl rfl rfl rfl rfl rfl), .inl rfl⟩

end Regions

section Arrival

variable {acked : Nat → Prop} (s : RUDPChannelStream) (now : Int)

theorem endWait_sameWindows (n : Nat) : (s.endWait n).toReceiveWindow = s.toReceiveWindow ∧
    (s.endWait n).toSendWindow = s.toSendWindow := by
  unfold endWait
  split <;> exact ⟨rfl, rfl⟩

/-- What the arrival of a packet does: the packet is in order and is taken, its acknowledgement is
illegal, or no more than the acknowledgement has an effect. -/
theorem handlePacket_cases (packet : RUDPPacket) (ecnMarked : Bool)
    (h : Acks acked (s.packetAck packet (packet.getSequenceNumber s.mGSNR))) :
    Untouched acked s (s.handlePacket now packet ecnMarked).2 ∨
    (∃ t, Untouched acked s t ∧ (s.handlePacket now packet ecnMarked).2 = t.refuseAck ∧
      ∃ u : RUDPChannelStream, u.toReceiveWindow = s.toReceiveWindow ∧ u.toSendWindow = s.toSendWindow ∧
        (u.handleAck now (s.packetAck packet (packet.getSequenceNumber s.mGSNR))).1 = .illegalACK) ∨
    ∃ t, Untouched acked s t ∧ t.mGSNFR < packet.getSequenceNumber s.mGSNR ∧
      (∀ p ∈ t.mReceivedPackets, p.mSequenceNumber ≠ packet.getSequenceNumber s.mGSNR) ∧
      (s.handlePacket now packet ecnMarked).2 = t.acceptPacket now (packet.getSequenceNumber s.mGSNR) packet := by
  unfold handlePacket
  split
  · exact .inl (.refl acked s)
  split
  · exact .inl (.refl acked s)
  have hecn : Untouched acked s { s with mECNReceived := s.mECNReceived || ecnMarked } :=
    .of_same acked rfl rfl rfl rfl rfl rfl rfl ⟨rfl, rfl, rfl⟩
  simp only
  generalize packet.getSequenceNumber s.mGSNR = n at *
  have hwait := untouched_endWait acked { s with mECNReceived := s.mECNReceived || ecnMarked } n
  obtain ⟨hreceive, hsend⟩ := endWait_sameWindows { s with mECNReceived := s.mECNReceived || ecnMarked } n
  generalize ({ s with mECNReceived := s.mECNReceived || ecnMarked } : RUDPChannelStream).endWait n = u at *
  have hu := hecn.trans hwait
  have hack : u.packetAck packet n = s.packetAck packet n := by
    rw [packetAck, show u.mNextSequenceNumber = s.mNextSequenceNumber from
      congrArg SendWindow.mNextSequenceNumber hsend]
    rfl
  split
  · exact .inl (hu.trans (.of_same acked rfl rfl rfl rfl rfl rfl rfl ⟨rfl, rfl, rfl⟩))
  next hnew =>
  split
  · exact .inl hu
  rw [hack]
  have heffect := hu.trans (untouched_handleAck u now (s.packetAck packet n) h)
  cases houtcome : u.handleAck now (s.packetAck packet n) with
  | mk outcome t =>
    rw [houtcome] at heffect
    cases outcome with
    | illegalACK => exact .inr (.inl ⟨t, heffect, rfl, u, hreceive, hsend, by rw [houtcome]⟩)
    | handled =>
      simp only [handleData]
      split
      · exact .inl (heffect.trans (.of_same acked rfl rfl rfl rfl rfl rfl rfl ⟨rfl, rfl, rfl⟩))
      next hheld =>
      split
      · exact .inl heffect
      · refine .inr (.inr ⟨t, heffect, ?_, ?_, rfl⟩)
        · have hgsnfr : t.mGSNFR = u.mGSNFR := congrArg ReceiveWindow.mGSNFR (heffect.receive.trans hreceive.symm)
          omega
        · intro p hp heq
          exact hheld (List.any_eq_true.mpr ⟨p, hp, by simpa using heq⟩)

theorem handleExternalAck_eq (id : Nat) (a : Ack) (h : s.mDelegate = true) : s.handleExternalAck now id a =
    if ((s.cancelForcedACK.endWait a.nextSequenceNumber).handleAck now a).1 = .illegalACK then
      ((s.cancelForcedACK.endWait a.nextSequenceNumber).handleAck now a).2.refuseAck
    else ((s.cancelForcedACK.endWait a.nextSequenceNumber).handleAck now a).2.handleForcedAck id := by
  unfold handleExternalAck cancelForcedACK
  rw [if_neg (not_not.mpr h)]
  dsimp only
  split
  next heq =>
    rw [heq]
    rfl
  next heq =>
    rw [heq]
    rfl

/-- What an acknowledgement of its own does. -/
theorem handleExternalAck_cases (id : Nat) (a : Ack) (h : Acks acked a) :
    Untouched acked s (s.handleExternalAck now id a) ∨
    ∃ t, Untouched acked s t ∧ s.handleExternalAck now id a = t.refuseAck ∧
      ∃ u : RUDPChannelStream, u.toReceiveWindow = s.toReceiveWindow ∧ u.toSendWindow = s.toSendWindow ∧
        (u.handleAck now a).1 = .illegalACK := by
  by_cases hdelegate : s.mDelegate = true
  swap
  · unfold handleExternalAck
    rw [if_pos hdelegate]
    exact .inl (.refl acked s)
  rw [handleExternalAck_eq s now id a hdelegate]
  have hforced := untouched_cancelForcedACK acked s
  have hwindows : s.cancelForcedACK.toReceiveWindow = s.toReceiveWindow ∧
      s.cancelForcedACK.toSendWindow = s.toSendWindow := by
    unfold cancelForcedACK
    split <;> exact ⟨rfl, rfl⟩
  have hwait := hforced.trans (untouched_endWait acked s.cancelForcedACK a.nextSequenceNumber)
  obtain ⟨hreceive, hsend⟩ := endWait_sameWindows s.cancelForcedACK a.nextSequenceNumber
  rw [hwindows.1] at hreceive
  rw [hwindows.2] at hsend
  generalize s.cancelForcedACK.endWait a.nextSequenceNumber = u at *
  have heffect := hwait.trans (untouched_handleAck u now a h)
  cases houtcome : u.handleAck now a with
  | mk outcome t =>
    rw [houtcome] at heffect
    cases outcome with
    | illegalACK => exact .inr ⟨t, heffect, rfl, u, hreceive, hsend, by rw [houtcome]⟩
    | handled => exact .inl (heffect.trans (untouched_handleForcedAck acked t id))

/-- What a step does: it keeps the windows, it ends the stream because of an illegal acknowledgement, it takes a
packet, or it creates one. -/
theorem RUDPChannelEndpoint.step_cases (t : RUDPChannelEndpoint) (event : RUDPChannelEvent) :
    (WindowsKept (fun _ => True) t.stream (t.step event).stream ∧
      ((t.step event).sending = t.sending ∨ (t.step event).sending = some .start ∨ ∃ input l, t.sending = some l ∧
        l.position ≠ .creatingPacket ∧ (t.step event).sending = (t.stream.proceed input l).1)) ∨
    (∃ s, WindowsUntouched (fun _ => True) t.stream s ∧ (t.step event).stream = s.refuseAck ∧
      (t.step event).sending = t.sending) ∨
    (∃ s now n packet, WindowsUntouched (fun _ => True) t.stream s ∧ s.mGSNFR < n ∧
      (∀ p ∈ s.mReceivedPackets, p.mSequenceNumber ≠ n) ∧ (t.step event).stream = s.acceptPacket now n packet ∧
      (t.step event).sending = t.sending) ∨
    ∃ input l, event = .own (.proceed input) ∧ t.sending = some l ∧ l.position = .creatingPacket ∧
      (t.step event).sending = some (t.stream.createPacket input.now input.parity l).1 ∧
      (t.step event).stream = (t.stream.createPacket input.now input.parity l).2 := by
  cases event with
  | handlePacket now packet ecnMarked =>
    obtain hkept | ⟨s, hkept, heq, -⟩ | ⟨s, hkept, hlow, hnew, heq⟩ :=
      handlePacket_cases t.stream now packet ecnMarked (acks_true _)
    · exact .inl ⟨.inl hkept.toWindowsUntouched, .inl rfl⟩
    · exact .inr (.inl ⟨s, hkept.toWindowsUntouched, heq, rfl⟩)
    · exact .inr (.inr (.inl ⟨s, now, _, packet, hkept.toWindowsUntouched, hlow, hnew, heq, rfl⟩))
  | handleExternalAck now id ack =>
    obtain hkept | ⟨s, hkept, heq, -⟩ := handleExternalAck_cases t.stream now id ack (acks_true _)
    · exact .inl ⟨.inl hkept.toWindowsUntouched, .inl rfl⟩
    · exact .inr (.inl ⟨s, hkept.toWindowsUntouched, heq, rfl⟩)
  | own event =>
    by_cases hproceed : ∃ input, event = .proceed input
    · obtain ⟨input, rfl⟩ := hproceed
      rw [RUDPChannelEndpoint.step, RUDPChannelEndpoint.own]
      cases hl : t.sending with
      | none => exact .inl ⟨.inl (Untouched.refl _ t.stream).toWindowsUntouched, .inl hl⟩
      | some l =>
        by_cases hposition : l.position = .creatingPacket
        · refine .inr (.inr (.inr ⟨input, l, rfl, rfl, hposition, ?_⟩))
          simp only [proceed, hposition, and_self]
        · obtain hkept | ⟨hcreating, -⟩ := proceed_cases (fun _ => True) t.stream input l
          · exact .inl ⟨hkept.windows, .inr (.inr ⟨input, l, rfl, hposition, rfl⟩)⟩
          · exact absurd hcreating hposition
    · obtain ⟨hkept, hsending⟩ := own_windows (fun _ => True) t event fun input heq => hproceed ⟨input, heq⟩
      exact .inl ⟨hkept, hsending.imp id .inl⟩

end Arrival

end OpenPeer
