import OpenPeer.RUDPChannelFlow

/-!
# Shutting down once all data is sent

A stream that is asked to shut down once all data is sent goes on sending, and is
ended when nothing waits in the send stream and nothing is to be acknowledged. Every
byte that was written is then in a packet, and every packet was acknowledged. Once
the stream is ended no packet is created, unless it is given new streams while a
`sendNow` is on its way.
-/
namespace OpenPeer

open RUDPPacket Runs BufferedPacket RUDPChannelStream RUDPChannelEndpoint

/-- What an acknowledgement tells to have arrived. -/
def Ack.Tells (a : Ack) (n : Nat) : Prop := n ≤ a.gsnfr ∨ n = a.gsnr ∨ a.marks n = true

theorem acks_tells (a : Ack) : Acks a.Tells a where
  full := fun _ hn => .inl hn
  greatest := .inr (.inl rfl)
  vector := by
    intro _ i state hstate hreceived
    right; right
    rw [Ack.marks, Ack.reported, if_neg (by omega), Ack.states, show a.gsnfr + 1 + i - (a.gsnfr + 1) = i by omega, hstate]
    exact hreceived

namespace RUDPChannelEndpoint

/-- The send stream takes what is written: it is not cancelled, and it does not hold back. -/
def takesWrites (t : RUDPChannelEndpoint) : Bool :=
  t.stream.mSendStream.any fun stream => !stream.mShutdown && stream.mBlockQueue.isNone

/-- What was written to the send stream after one more event. What is left in a send stream that is
replaced is not written to the new one. -/
def writtenAfter (t : RUDPChannelEndpoint) (before : List UInt8) : RUDPChannelEvent → List UInt8
  | .own (.setStreams _ sendStream) => t.stream.packetized ++ sendStream.unread
  | .own (.write data) => if t.takesWrites then before ++ data else before
  | _ => before

/-- What was written to the send stream over a run. -/
def written : RUDPChannelEndpoint → List UInt8 → List RUDPChannelEvent → List UInt8
  | _, before, [] => before
  | t, before, event :: events => written (t.step event) (t.writtenAfter before event) events

/-- The peer has acknowledged a packet in the course of a run. -/
def Acknowledged (t : RUDPChannelEndpoint) (events : List RUDPChannelEvent) (n : Nat) : Prop :=
  ∃ before event after r, events = before ++ event :: after ∧
    (run step t before).stream.arrivingAck event = some r ∧ r.2.Tells n

/-- The event does not end the stream before all data is sent: it is no other shutdown, the delegate
is there, and no acknowledgement is illegal. -/
def Graceful (t : RUDPChannelEndpoint) : RUDPChannelEvent → Prop
  | .own (.shutdown shutdownOnlyOnceAllDataSent) => shutdownOnlyOnceAllDataSent = true
  | .own .delegateGone => False
  | .own (.proceed input) => input.delivery ≠ .delegateGone ∧ input.delegateIsGone = false
  | .own _ => True
  | .handlePacket now packet ecnMarked => t.stream.meetsIllegalAck (.handlePacket now packet ecnMarked) = false
  | .handleExternalAck now id ack => t.stream.meetsIllegalAck (.handleExternalAck now id ack) = false

/-- A stream that is ended gets no new streams while a `sendNow` is on its way. -/
def NoLateStreams (t : RUDPChannelEndpoint) : RUDPChannelEvent → Prop
  | .own (.setStreams _ _) => t.stream.isShutdown = true → t.sending = none
  | _ => True

instance decidableGraceful (t : RUDPChannelEndpoint) : (event : RUDPChannelEvent) → Decidable (t.Graceful event)
  | .handlePacket _ _ _ => inferInstanceAs (Decidable (_ = false))
  | .handleExternalAck _ _ _ => inferInstanceAs (Decidable (_ = false))
  | .own (.shutdown _) => inferInstanceAs (Decidable (_ = true))
  | .own .delegateGone => .isFalse id
  | .own (.proceed _) => inferInstanceAs (Decidable (_ ∧ _))
  | .own .sendNow => .isTrue trivial
  | .own (.onTimer _ _) => .isTrue trivial
  | .own .notifyExternalACKSent => .isTrue trivial
  | .own .notifySocketWriteReady => .isTrue trivial
  | .own (.holdSendingUntilReceiveSequenceNumber _) => .isTrue trivial
  | .own (.setStreams _ _) => .isTrue trivial
  | .own (.shutdownDirection _) => .isTrue trivial
  | .own (.write _) => .isTrue trivial
  | .own .take => .isTrue trivial

instance decidableNoLateStreams (t : RUDPChannelEndpoint) :
    (event : RUDPChannelEvent) → Decidable (t.NoLateStreams event)
  | .own (.setStreams _ _) => inferInstanceAs (Decidable (_ → _))
  | .handlePacket _ _ _ | .handleExternalAck _ _ _ => .isTrue trivial
  | .own (.shutdown _) | .own .delegateGone | .own (.proceed _) | .own .sendNow | .own (.onTimer _ _)
  | .own .notifyExternalACKSent | .own .notifySocketWriteReady | .own (.holdSendingUntilReceiveSequenceNumber _)
  | .own (.shutdownDirection _) | .own (.write _) | .own .take => .isTrue trivial

end RUDPChannelEndpoint

section Steps

variable {acked : Nat → Prop} {t : RUDPChannelEndpoint}

/-- One region of a `sendNow`: it creates a packet, it closes the stream, or the delegate is gone. -/
theorem proceed_sendSide (s : RUDPChannelStream) (horder : WindowOrder s.toReceiveWindow) (hshort : ShortVectors s)
    (input : SendNowInput) (l : SendNow) :
    SendSideKept (fun _ => False) s (s.proceed input l).2 ∨ Created s (s.proceed input l).2 ∨
      ClosedOnAllSent s (s.proceed input l).2 ∨
      ¬(input.delivery ≠ .delegateGone ∧ input.delegateIsGone = false) ∧ (s.proceed input l).2.isShutdown = true := by
  unfold proceed
  cases l.position with
  | checkingBatons => exact .inl (sendSideKept_refl s _)
  | choosingResend => exact .inl (sendSideKept_refl s _)
  | creatingPacket =>
    rcases createPacket_creates horder hshort input.now input.parity l with hsame | hcreated
    · simp only [hsame]
      exact .inl (sendSideKept_refl s _)
    · exact .inr (.inl hcreated)
  | delivering =>
    cases hdelivery : input.delivery with
    | sent => exact .inl (sendSideKept_refl s _)
    | notSent => exact .inl (sendSideKept_refl s _)
    | delegateGone => exact .inr (.inr (.inr ⟨fun h => h.1 rfl, delegateGone_isShutdown s⟩))
  | afterDelivery =>
    exact .inl ((untouched_clearResend _ s l).toWindowsUntouched.sendSide (clearResend_sendStream s l))
  | leaving =>
    rcases leaveSendNow_closes s input.delegateIsGone l with hkept | hclosed | ⟨hgone, hshutdown⟩
    · exact .inl hkept
    · exact .inr (.inr (.inl hclosed))
    · refine .inr (.inr (.inr ⟨fun h => ?_, hshutdown⟩))
      rw [hgone] at h
      exact absurd h.2 (by decide)
  | unwinding =>
    have hunwind : WindowsUntouched (fun _ => False) s s.unwind := .of_same _ rfl rfl rfl rfl rfl rfl rfl
    exact .inl (hunwind.sendSide rfl)

/-- What an event does to the side that sends, when it gives no streams and writes nothing. -/
theorem step_sendSide (horder : WindowOrder t.stream.toReceiveWindow) (hshort : ShortVectors t.stream)
    (event : RUDPChannelEvent) (hacks : ∀ r, t.stream.arrivingAck event = some r → Acks acked r.2)
    (hset : ∀ r s, event ≠ .own (.setStreams r s)) (hwrite : ∀ data, event ≠ .own (.write data)) :
    SendSideKept acked t.stream (t.step event).stream ∨ Created t.stream (t.step event).stream ∨
      ClosedOnAllSent t.stream (t.step event).stream ∨ ¬t.Graceful event ∧ (t.step event).stream.isShutdown = true := by
  have hsame : ∀ {s' : RUDPChannelStream}, WindowsUntouched (fun _ => False) t.stream s' →
      s'.mSendStream = t.stream.mSendStream → SendSideKept acked t.stream s' := fun h hs => (h.sendSide hs).weaken
  cases event with
  | handlePacket now packet ecnMarked =>
    rcases handlePacket_sendSide t.stream now packet ecnMarked (hacks _ rfl) with hkept | ⟨hillegal, hshutdown⟩
    · exact .inl hkept
    · refine .inr (.inr (.inr ⟨fun h => ?_, hshutdown⟩))
      rw [RUDPChannelEndpoint.Graceful, hillegal] at h
      exact absurd h (by decide)
  | handleExternalAck now id ack =>
    rcases handleExternalAck_sendSide t.stream now id ack (hacks _ rfl) with hkept | ⟨hillegal, hshutdown⟩
    · exact .inl hkept
    · refine .inr (.inr (.inr ⟨fun h => ?_, hshutdown⟩))
      rw [RUDPChannelEndpoint.Graceful, hillegal] at h
      exact absurd h (by decide)
  | own event =>
    rw [RUDPChannelEndpoint.step]
    cases event with
    | sendNow =>
      left
      rw [own]
      split
      next hsend =>
        obtain ⟨-, hs⟩ := untouched_sendNow (fun _ => False) t.stream _ _ hsend
        refine hsame hs.toWindowsUntouched ?_
        unfold sendNow at hsend
        split at hsend
        · cases hsend
          rfl
        · cases hsend
      · exact sendSideKept_refl _ _
    | proceed input =>
      rw [own]
      cases t.sending with
      | none => exact .inl (sendSideKept_refl _ _)
      | some l =>
        rcases proceed_sendSide t.stream horder hshort input l with hkept | hrest
        · exact .inl hkept.weaken
        · exact .inr hrest
    | onTimer timer coin =>
      exact .inl (hsame (untouched_onTimer _ t.stream timer coin).toWindowsUntouched (onTimer_sendStream t.stream timer coin))
    | notifyExternalACKSent => exact .inl (hsame (.of_same _ rfl rfl rfl rfl rfl rfl rfl) rfl)
    | notifySocketWriteReady =>
      left
      rw [own]
      unfold notifySocketWriteReady
      split
      · exact sendSideKept_refl _ _
      · exact hsame (.of_same _ rfl rfl rfl rfl rfl rfl rfl) rfl
    | holdSendingUntilReceiveSequenceNumber n => exact .inl (hsame (.of_same _ rfl rfl rfl rfl rfl rfl rfl) rfl)
    | delegateGone => exact .inr (.inr (.inr ⟨id, delegateGone_isShutdown t.stream⟩))
    | setStreams receiveStream sendStream => exact absurd rfl (hset receiveStream sendStream)
    | shutdown onlyOnceAllDataSent =>
      cases onlyOnceAllDataSent with
      | true =>
        rcases shutdown_closes t.stream with hkept | hclosed
        · exact .inl hkept.weaken
        · exact .inr (.inr (.inl hclosed))
      | false =>
        refine .inr (.inr (.inr ⟨fun h => absurd (show false = true from h) Bool.false_ne_true, ?_⟩))
        change (t.stream.shutdown false).isShutdown = true
        unfold shutdown
        split
        next hshutdown => exact hshutdown
        · exact cancel_isShutdown t.stream
    | shutdownDirection state =>
      left
      obtain ⟨c, f, hc, heq⟩ := shutdownDirection_eq t.stream state
      have hkept : WindowsUntouched (fun _ => False) t.stream (t.stream.shutdownDirection state) := by
        rw [heq]
        exact .of_same _ rfl hc rfl rfl rfl rfl rfl
      have hstream : (t.stream.shutdownDirection state).mSendStream = t.stream.mSendStream := by rw [heq]
      exact hsame hkept hstream
    | write data => exact absurd rfl (hwrite data)
    | take =>
      left
      rw [own]
      split
      · exact sendSideKept_refl _ _
      · split
        · exact sendSideKept_refl _ _
        · exact hsame (.of_same _ rfl rfl rfl rfl rfl rfl rfl) rfl

/-- Before the end of the stream: what was written is in packets or waits, and the packets let go of
were acknowledged. -/
structure Sends (acked : Nat → Prop) (written : List UInt8) (t : RUDPChannelEndpoint) : Prop where
  order : WindowOrder t.stream.toReceiveWindow
  short : ShortVectors t.stream
  bytes : written = t.stream.packetized ++ t.stream.unsent
  letGo : ∀ n, t.stream.LetGo n → acked n

theorem packetized_of_records {s s' : RUDPChannelStream} (h : s'.records = s.records) : s'.packetized = s.packetized := by
  rw [packetized, h, packetized]

theorem unsent_of_stream {s s' : RUDPChannelStream} (h : s'.mSendStream = s.mSendStream) : s'.unsent = s.unsent := by
  rw [unsent, h, unsent]

/-- A write adds to what waits when the send stream takes it. -/
theorem unsent_write (t : RUDPChannelEndpoint) (data : List UInt8) :
    (t.step (.own (.write data))).stream.unsent = t.stream.unsent ++ if t.takesWrites then data else [] := by
  change ((t.stream.mSendStream.map (·.write data none)).map TransportStream.unread).getD [] =
    (t.stream.mSendStream.map TransportStream.unread).getD [] ++ _
  rw [takesWrites]
  cases t.stream.mSendStream with
  | none => rfl
  | some stream =>
    simp only [Option.map_some, Option.getD_some, Option.any_some]
    by_cases hopen : stream.Open
    · rw [TransportStream.write_unread hopen, if_pos (by simp [hopen.alive, hopen.unblocked])]
    · have hrefused : ¬(!stream.mShutdown && stream.mBlockQueue.isNone) = true := fun h => by
        simp only [Bool.and_eq_true, Bool.not_eq_true', Option.isNone_iff_eq_none] at h
        exact hopen ⟨h.1, h.2⟩
      rw [if_neg hrefused, List.append_nil, TransportStream.unread, TransportStream.unread]
      by_cases hshutdown : stream.mShutdown = true
      · rw [TransportStream.write_shutdown hshutdown]
      · obtain ⟨queue, hblock⟩ := Option.ne_none_iff_exists'.mp fun hnone => hopen ⟨Bool.eq_false_iff.mpr hshutdown, hnone⟩
        rw [TransportStream.write, if_neg hshutdown]
        simp only [hblock]

/-- A step lemma for a stream that is not ended. -/
theorem Sends.step {written : List UInt8} (h : Sends acked written t) (event : RUDPChannelEvent)
    (hacks : ∀ r, t.stream.arrivingAck event = some r → Acks acked r.2)
    (hlive : (t.step event).stream.isShutdown = false) : Sends acked (t.writtenAfter written event) (t.step event) := by
  have horder : WindowOrder (t.step event).stream.toReceiveWindow :=
    ((⟨h.order, Nat.zero_le _, Nat.zero_le _⟩ : StartedAt 0 0 t.stream).step event).order
  by_cases hset : ∃ r s, event = .own (.setStreams r s)
  · obtain ⟨receiveStream, sendStream, rfl⟩ := hset
    refine ⟨horder, h.short, ?_, h.letGo⟩
    change t.stream.packetized ++ sendStream.unread = t.stream.packetized ++ sendStream.notifyReaderReadyToRead.unread
    rw [TransportStream.unread, TransportStream.unread, TransportStream.notifyReaderReadyToRead_mBuffers]
  by_cases hwrite : ∃ data, event = .own (.write data)
  · obtain ⟨data, rfl⟩ := hwrite
    refine ⟨horder, h.short, ?_, h.letGo⟩
    rw [unsent_write, writtenAfter, h.bytes]
    change _ = t.stream.packetized ++ _
    split
    · rw [List.append_assoc]
    · rw [List.append_nil]
  have hbytes : t.writtenAfter written event = written := by
    unfold writtenAfter
    split
    · exact absurd ⟨_, _, rfl⟩ hset
    · exact absurd ⟨_, rfl⟩ hwrite
    · rfl
  rw [hbytes]
  rcases step_sendSide h.order h.short event hacks (fun r s heq => hset ⟨r, s, heq⟩) (fun data heq => hwrite ⟨data, heq⟩)
    with hkept | ⟨-, hletGo, r, hrecords, hvector, hdata⟩ | ⟨u, -, -, -, -, heq⟩ | ⟨-, hshutdown⟩
  · refine ⟨horder, ?_, ?_, fun n hn => ?_⟩
    · rw [ShortVectors, hkept.records]
      exact h.short
    · rw [packetized_of_records hkept.records, unsent_of_stream hkept.stream]
      exact h.bytes
    · rcases hkept.letGo n hn with hn | hacked
      · exact h.letGo n hn
      · exact hacked
  · refine ⟨horder, ?_, ?_, fun n hn => h.letGo n (hletGo n hn)⟩
    · rw [ShortVectors, hrecords]
      intro q hq
      rcases List.mem_append.mp hq with hq | hq
      · exact h.short q hq
      · rwa [List.mem_singleton.mp hq]
    · rw [packetized, hrecords, List.flatMap_append, h.bytes, hdata]
      simp [packetized]
  · rw [heq, cancel_isShutdown] at hlive
    cases hlive
  · rw [hshutdown] at hlive
    cases hlive

theorem live_of_step (event : RUDPChannelEvent) (hlive : (t.step event).stream.isShutdown = false) :
    t.stream.isShutdown = false := by
  rw [← stepWith_handlePacketLoss] at hlive
  rcases stepWith_cases handlePacketLoss t event with
    ⟨timer, coin, rfl⟩ | hkept | ⟨-, now, u, hu, hr⟩
  · exact (onTimer_batons t.stream timer coin).1.shutdown hlive
  · exact hkept.shutdown hlive
  · exact hu.shutdown ((handlePacketLoss_batons u now).1.shutdown (hr.shutdown hlive))

theorem live_of_run (t : RUDPChannelEndpoint) (events : List RUDPChannelEvent)
    (hlive : (run RUDPChannelEndpoint.step t events).stream.isShutdown = false) : t.stream.isShutdown = false := by
  induction events generalizing t with
  | nil => exact hlive
  | cons event events ih => exact live_of_step event (ih (t.step event) hlive)

theorem Sends.run {written : List UInt8} (h : Sends acked written t) (events : List RUDPChannelEvent)
    (hacks : Meets RUDPChannelEndpoint.step
      (fun t event => ∀ r, t.stream.arrivingAck event = some r → Acks acked r.2) t events)
    (hlive : (run RUDPChannelEndpoint.step t events).stream.isShutdown = false) :
    Sends acked (t.written written events) (run RUDPChannelEndpoint.step t events) := by
  induction events generalizing t written with
  | nil => exact h
  | cons event events ih =>
    exact ih (h.step event hacks.1 (live_of_run (t.step event) events hlive)) hacks.2 hlive

theorem meets_acknowledged (t : RUDPChannelEndpoint) (events : List RUDPChannelEvent) :
    Meets RUDPChannelEndpoint.step
      (fun u event => ∀ r, u.stream.arrivingAck event = some r → Acks (t.Acknowledged events) r.2) t events := by
  refine meets_of_splits t events fun before event after heq r hr => ?_
  have htells : ∀ n, r.2.Tells n → t.Acknowledged events n := fun n hn => ⟨before, event, after, r, heq, hr, hn⟩
  obtain ⟨hfull, hgreatest, hvector⟩ := acks_tells r.2
  exact ⟨fun n hn => htells n (hfull n hn), htells _ hgreatest,
    fun hne i state hstate hreceived => htells _ (hvector hne i state hstate hreceived)⟩

end Steps

section Ended

variable {s s' s'' : RUDPChannelStream} {t : RUDPChannelEndpoint}

/-- Only the timers were changed, and whether a pointer was null. -/
def Timed (s s' : RUDPChannelStream) : Prop := ∃ p f, s' = { s with toPacing := p, fault := f }

theorem Timed.trans (h : Timed s s') (h' : Timed s' s'') : Timed s s'' := by
  obtain ⟨p, f, rfl⟩ := h
  obtain ⟨q, g, rfl⟩ := h'
  exact ⟨q, g, rfl⟩

theorem RUDPChannelStream.Paced.timed (h : RUDPChannelStream.Paced s s') : Timed s s' := by
  obtain ⟨p, rfl, -⟩ := h
  exact ⟨p, s.fault, rfl⟩

theorem timed_keepTimer (s : RUDPChannelStream) (required : Bool) (duration : Int) (timer : Option Timer) :
    Timed s (s.keepTimer required duration timer).2 := by
  unfold keepTimer
  split
  · exact ⟨_, _, rfl⟩
  · exact ⟨_, _, rfl⟩
  · exact ⟨_, _, rfl⟩

theorem timed_pacing (s : RUDPChannelStream) (p : Pacing) : Timed s { s with toPacing := p } := ⟨p, s.fault, rfl⟩

theorem timed_startTimers (s : RUDPChannelStream) (plan : CleanupPlan) : Timed s (s.startTimers plan) := by
  have hforced : Timed s s.cancelForcedACK := by
    unfold cancelForcedACK
    split
    · exact ⟨_, _, rfl⟩
    · exact ⟨_, _, rfl⟩
  have hburst : Timed s (s.cancelForcedACK.setBurstTimer plan.burstTimerRequired) :=
    hforced.trans ((timed_keepTimer _ _ _ _).trans (timed_pacing _ _))
  have hensure : Timed s ((s.cancelForcedACK.setBurstTimer plan.burstTimerRequired).setEnsureTimer
      plan.ensureDataHasArrivedTimer) := hburst.trans ((timed_keepTimer _ _ _ _).trans (timed_pacing _ _))
  unfold startTimers
  simp only
  split
  · exact hensure.trans ⟨_, _, rfl⟩
  · exact hensure

theorem cancel_ended (h : s.isShutdown = true) : s.cancel = s := if_pos h

theorem delegateGone_ended (h : s.isShutdown = true) : s.delegateGone = s := by
  rw [delegateGone, setError, if_pos (.inr h), cancel_ended h]

theorem closeOnAllDataSent_ended (h : s.isShutdown = true) : s.closeOnAllDataSent = s := if_pos h

theorem Timed.isShutdown (h : Timed s s') : s'.isShutdown = s.isShutdown := by
  obtain ⟨p, f, rfl⟩ := h
  rfl

theorem timed_sendNowCleanup (h : s.isShutdown = true) (delegateIsGone : Bool) :
    Timed s (s.sendNowCleanup delegateIsGone) := by
  have hstart := (paced_handleUnfreezing s).timed.trans
    (timed_startTimers s.handleUnfreezing s.handleUnfreezing.cleanupPlan)
  have hbatons : Timed s ((s.handleUnfreezing.startTimers s.handleUnfreezing.cleanupPlan).setAddBatonsTimer
      s.handleUnfreezing.cleanupPlan.addBatonsTimer) :=
    hstart.trans ((timed_keepTimer _ _ _ _).trans (timed_pacing _ _))
  unfold sendNowCleanup finishCleanup
  simp only
  split
  · rw [delegateGone_ended (hstart.isShutdown.trans h)]
    exact hstart
  · rw [closeOnAllDataSent_ended (hbatons.isShutdown.trans h)]
    exact hbatons

/-- The stream is ended and its delegate let go of; nothing is to be acknowledged, and a `sendNow` that
is on its way finds nothing to send. -/
structure Over (t : RUDPChannelEndpoint) : Prop where
  shutdown : t.stream.isShutdown = true
  delegate : t.stream.mDelegate = false
  empty : t.stream.mSendingPackets = []
  drained : t.sending = none ∨
    ∀ stream, t.stream.mSendStream = some stream → stream.mShutdown = true ∧ stream.mBuffers = []

/-- The sending side of an ended stream is as it was. -/
structure Still (s s' : RUDPChannelStream) : Prop where
  shutdown : s'.isShutdown = s.isShutdown
  delegate : s'.mDelegate = s.mDelegate
  empty : s.mSendingPackets = [] → s'.mSendingPackets = []
  stream : s'.mSendStream = s.mSendStream
  records : s'.records = s.records

theorem Still.refl (s : RUDPChannelStream) : Still s s := ⟨rfl, rfl, id, rfl, rfl⟩

theorem Timed.still (h : Timed s s') : Still s s' := by
  obtain ⟨p, f, rfl⟩ := h
  exact ⟨rfl, rfl, id, rfl, rfl⟩

theorem Still.trans (h : Still s s') (h' : Still s' s'') : Still s s'' :=
  ⟨h'.shutdown.trans h.shutdown, h'.delegate.trans h.delegate, fun hnone => h'.empty (h.empty hnone),
    h'.stream.trans h.stream, h'.records.trans h.records⟩

theorem still_modifyPacket (s : RUDPChannelStream) (n : Nat) (f : BufferedPacket → Counters → BufferedPacket × Counters)
    (hf : ∀ p c, (f p c).1.toPacketRecord = p.toPacketRecord ∧ (f p c).1.mPacket = p.mPacket) :
    Still s (s.modifyPacket n f) := by
  refine ⟨rfl, rfl, fun hnone => ?_, rfl,
    (untouched_modifyPacket (fun _ => True) s n f fun p c => ⟨(hf p c).1, .inl (hf p c).2⟩).records⟩
  rw [modifyPacket]
  simp only [hnone]
  rfl

/-- A region of a `sendNow` that is still on its way when the stream is ended. -/
theorem still_proceed (h : s.isShutdown = true)
    (hdrained : ∀ stream, s.mSendStream = some stream → stream.mShutdown = true ∧ stream.mBuffers = [])
    (input : SendNowInput) (l : SendNow) : Still s (s.proceed input l).2 := by
  unfold proceed
  cases l.position with
  | checkingBatons => exact .refl s
  | choosingResend => exact .refl s
  | creatingPacket =>
    simp only
    unfold createPacket
    cases hstream : s.mSendStream with
    | none => exact .refl s
    | some stream =>
      have hnone : stream.getTotalReadBuffersAvailable < 1 := by
        rw [TransportStream.getTotalReadBuffersAvailable, (hdrained stream hstream).2]
        exact Nat.one_pos
      simp only [hnone, if_true]
      exact .refl s
  | delivering =>
    cases input.delivery with
    | sent => exact .refl s
    | notSent => exact .refl s
    | delegateGone =>
      simp only [delegateGone_ended h]
      exact .refl s
  | afterDelivery =>
    simp only
    unfold clearResend
    split
    · exact .refl s
    · split
      · exact (timed_pacing s _).still.trans (still_modifyPacket _ _ _ doNotResend_same)
      · exact .refl s
  | leaving =>
    simp only
    unfold leaveSendNow
    simp only
    split
    · exact (timed_sendNowCleanup h _).still
    next last _ =>
    split
    · exact (still_modifyPacket s last _ consumeBaton_same).trans
        (timed_sendNowCleanup (s := s.modifyPacket last consumeBaton) h _).still
    · exact (timed_sendNowCleanup h _).still
  | unwinding => exact ⟨rfl, rfl, id, rfl, rfl⟩

theorem still_onTimer (s : RUDPChannelStream) (timer : Nat) (coin : Bool) : Still s (s.onTimer timer coin) := by
  unfold onTimer
  simp only
  split
  · exact .refl s
  · split
    · exact ⟨rfl, rfl, id, rfl, rfl⟩
    · split
      · split
        · exact ⟨rfl, rfl, id, rfl, rfl⟩
        · exact ⟨rfl, rfl, id, rfl, rfl⟩
      · exact .refl s

theorem Over.still (h : Over t) {t' : RUDPChannelEndpoint} (hstill : Still t.stream t'.stream)
    (hsending : t'.sending = none ∨ t.sending ≠ none) : Over t' := by
  refine ⟨hstill.shutdown.trans h.shutdown, hstill.delegate.trans h.delegate, hstill.empty h.empty, ?_⟩
  rcases hsending with hnone | hsome
  · exact .inl hnone
  · rw [hstill.stream]
    exact .inr (h.drained.resolve_left hsome)

/-- A step lemma for a stream that is ended: it stays so, and no packet is created. -/
theorem Over.step (h : Over t) (event : RUDPChannelEvent) (hlate : t.NoLateStreams event) :
    Over (t.step event) ∧ (t.step event).stream.records = t.stream.records := by
  have hdelegate : ¬t.stream.mDelegate = true := Bool.eq_false_iff.mp h.delegate
  have hsame : ∀ {t' : RUDPChannelEndpoint}, Still t.stream t'.stream → (t'.sending = none ∨ t.sending ≠ none) →
      Over t' ∧ t'.stream.records = t.stream.records := fun hs hsending => ⟨h.still hs hsending, hs.records⟩
  have hkept : t.sending = none ∨ t.sending ≠ none := Classical.em _
  cases event with
  | handlePacket now packet ecnMarked =>
    have heq : (t.stream.handlePacket now packet ecnMarked).2 = t.stream := by
      rw [handlePacket, if_pos hdelegate]
    refine hsame ?_ hkept
    change Still t.stream (t.stream.handlePacket now packet ecnMarked).2
    rw [heq]
    exact .refl _
  | handleExternalAck now id ack =>
    have heq : t.stream.handleExternalAck now id ack = t.stream := if_pos hdelegate
    refine hsame ?_ hkept
    change Still t.stream (t.stream.handleExternalAck now id ack)
    rw [heq]
    exact .refl _
  | own event =>
    rw [RUDPChannelEndpoint.step]
    cases event with
    | sendNow =>
      have hnone : t.stream.sendNow = none := by
        rw [sendNow, canSendNow, h.shutdown]
        rfl
      rw [own, hnone]
      cases t.sending with
      | none => exact ⟨h, rfl⟩
      | some l => exact ⟨h, rfl⟩
    | proceed input =>
      rw [own]
      cases hl : t.sending with
      | none => exact ⟨h, rfl⟩
      | some l =>
        have hsome : t.sending ≠ none := by
          rw [hl]
          exact Option.some_ne_none l
        exact hsame (still_proceed h.shutdown (h.drained.resolve_left hsome) input l) (.inr hsome)
    | onTimer timer coin => exact hsame (still_onTimer t.stream timer coin) hkept
    | notifyExternalACKSent => exact hsame ⟨rfl, rfl, id, rfl, rfl⟩ hkept
    | notifySocketWriteReady =>
      have heq : t.stream.notifySocketWriteReady = t.stream := if_pos hdelegate
      refine hsame ?_ hkept
      change Still t.stream t.stream.notifySocketWriteReady
      rw [heq]
      exact .refl _
    | holdSendingUntilReceiveSequenceNumber n => exact hsame ⟨rfl, rfl, id, rfl, rfl⟩ hkept
    | delegateGone =>
      refine hsame ?_ hkept
      change Still t.stream t.stream.delegateGone
      rw [delegateGone_ended h.shutdown]
      exact .refl _
    | setStreams receiveStream sendStream => exact ⟨{ h with drained := .inl (hlate h.shutdown) }, rfl⟩
    | shutdown onlyOnceAllDataSent =>
      have heq : t.stream.shutdown onlyOnceAllDataSent = t.stream := if_pos h.shutdown
      refine hsame ?_ hkept
      change Still t.stream (t.stream.shutdown onlyOnceAllDataSent)
      rw [heq]
      exact .refl _
    | shutdownDirection state =>
      obtain ⟨c, f, hc, heq⟩ := shutdownDirection_eq t.stream state
      refine hsame ?_ hkept
      change Still t.stream (t.stream.shutdownDirection state)
      rw [heq]
      exact ⟨hc, rfl, id, rfl, rfl⟩
    | write data =>
      refine ⟨⟨h.shutdown, h.delegate, h.empty, h.drained.imp_right fun hdrained stream hstream => ?_⟩, rfl⟩
      obtain ⟨old, hold, rfl⟩ := Option.map_eq_some_iff.mp hstream
      rw [TransportStream.write_shutdown (hdrained old hold).1]
      exact hdrained old hold
    | take =>
      rw [own]
      split
      · exact ⟨h, rfl⟩
      · split
        · exact ⟨h, rfl⟩
        · exact hsame ⟨rfl, rfl, id, rfl, rfl⟩ hkept

theorem over_of_closed (h : ClosedOnAllSent s t.stream) : Over t := by
  obtain ⟨u, -, hlive, -, -, heq⟩ := h
  have hcancel : t.stream.mDelegate = false ∧ t.stream.mSendingPackets = [] ∧
      t.stream.mSendStream = u.mSendStream.map TransportStream.cancel := by
    rw [heq, cancel, if_neg (Bool.eq_false_iff.mp hlive)]
    unfold setState
    split
    · exact ⟨rfl, rfl, rfl⟩
    · exact ⟨rfl, rfl, rfl⟩
  refine ⟨heq ▸ cancel_isShutdown u, hcancel.1, hcancel.2.1, .inr fun stream hstream => ?_⟩
  rw [hcancel.2.2] at hstream
  obtain ⟨old, -, rfl⟩ := Option.map_eq_some_iff.mp hstream
  exact ⟨rfl, rfl⟩

/-- A graceful event ends a stream only when everything was sent. -/
theorem closes_of_graceful (horder : WindowOrder t.stream.toReceiveWindow) (hshort : ShortVectors t.stream)
    {event : RUDPChannelEvent} (hgraceful : t.Graceful event) (hlive : t.stream.isShutdown = false)
    (hends : (t.step event).stream.isShutdown = true) : ClosedOnAllSent t.stream (t.step event).stream := by
  have hkept : (t.step event).stream.isShutdown ≠ t.stream.isShutdown := by
    rw [hlive, hends]
    decide
  by_cases hset : ∃ r s, event = .own (.setStreams r s)
  · obtain ⟨receiveStream, sendStream, rfl⟩ := hset
    exact absurd rfl hkept
  by_cases hwrite : ∃ data, event = .own (.write data)
  · obtain ⟨data, rfl⟩ := hwrite
    exact absurd rfl hkept
  have hacks : ∀ r, t.stream.arrivingAck event = some r → Acks (fun _ => True) r.2 := fun r _ => acks_true r.2
  rcases step_sendSide horder hshort event hacks (fun r s heq => hset ⟨r, s, heq⟩) (fun data heq => hwrite ⟨data, heq⟩) with
    hsame | hcreated | hclosed | ⟨hrude, -⟩
  · exact absurd hsame.shutdown hkept
  · exact absurd hcreated.shutdown hkept
  · exact hclosed
  · exact absurd hgraceful hrude

end Ended

namespace RUDPChannelEndpoint

/-- The last event of a run ends the stream, and nothing is lost: nothing waits and nothing is to be
acknowledged, all that was written is in packets, in order, and every packet was acknowledged. -/
structure EndsWithAllSent (start : RUDPChannelEndpoint) (past : List RUDPChannelEvent) (event : RUDPChannelEvent) :
    Prop where
  closed : ClosedOnAllSent (run step start past).stream ((run step start past).step event).stream
  packetized : (run step start past).stream.packetized = start.written [] past
  acknowledged : ∀ r ∈ (run step start past).stream.records, start.Acknowledged past r.mSequenceNumber

/-- Over the events that come after a run: what ends the stream ends it with everything sent, and once
it is ended no packet is created and none is kept for sending. -/
structure LosesNothing (start : RUDPChannelEndpoint) (past events : List RUDPChannelEvent) : Prop where
  ends : ∀ middle event after, events = middle ++ event :: after →
    (run step start (past ++ middle)).stream.isShutdown = false →
      ((run step start (past ++ middle)).step event).stream.isShutdown = true →
        start.EndsWithAllSent (past ++ middle) event
  ended : ∀ middle event after, events = middle ++ event :: after →
    (run step start (past ++ middle)).stream.isShutdown = true →
      (run step start (past ++ middle)).stream.mSendingPackets = [] ∧
        ((run step start (past ++ middle)).step event).stream.mSendingPackets = [] ∧
        ((run step start (past ++ middle)).step event).stream.records = (run step start (past ++ middle)).stream.records

end RUDPChannelEndpoint

section Graceful

open RUDPChannelEndpoint

variable (now : Int) (first expecting : Nat) (sendingChannelNumber receivingChannelNumber : UInt16) (minimumRTT : Nat)

theorem create_sends (acked : Nat → Prop) : Sends acked []
    (.create (.create now first expecting sendingChannelNumber receivingChannelNumber minimumRTT)) where
  order := (create_startedAt now first expecting sendingChannelNumber receivingChannelNumber minimumRTT).order
  short := fun r hr => (nomatch hr)
  bytes := rfl
  letGo := by
    rintro n (⟨p, hp, -⟩ | ⟨p, hp, -⟩)
    · cases hp
    · cases hp

theorem run_sends (events : List RUDPChannelEvent) :
    let start : RUDPChannelEndpoint :=
      .create (.create now first expecting sendingChannelNumber receivingChannelNumber minimumRTT)
    (run step start events).stream.isShutdown = false →
      Sends (start.Acknowledged events) (start.written [] events) (run step start events) := by
  intro start hlive
  exact (create_sends now first expecting sendingChannelNumber receivingChannelNumber minimumRTT _).run events
    (meets_acknowledged start events) hlive

/-- A graceful run ends the stream as it should, if it ends it. -/
theorem over_of_graceful {t : RUDPChannelEndpoint} {written : List UInt8} (h : Sends (fun _ => True) written t)
    (hlive : t.stream.isShutdown = false) {events : List RUDPChannelEvent}
    (hmeets : Meets step (fun t event => t.Graceful event ∧ t.NoLateStreams event) t events)
    (hended : (run step t events).stream.isShutdown = true) : Over (run step t events) := by
  have hinv : (∃ written, (run step t events).stream.isShutdown = false ∧ Sends (fun _ => True) written (run step t events)) ∨
      Over (run step t events) := by
    refine run_invariant (fun u => (∃ written, u.stream.isShutdown = false ∧ Sends (fun _ => True) written u) ∨ Over u)
      (fun u event hok hu => ?_) t events hmeets (.inl ⟨written, hlive, h⟩)
    rcases hu with ⟨w, hlive, hsends⟩ | hover
    · cases hends : (u.step event).stream.isShutdown with
      | false => exact .inl ⟨_, rfl, hsends.step event (fun r _ => acks_true r.2) hends⟩
      | true => exact .inr (over_of_closed (closes_of_graceful hsends.order hsends.short hok.1 hlive hends))
    · exact .inr (hover.step event hok.2).1
  rcases hinv with ⟨-, hlive, -⟩ | hover
  · rw [hended] at hlive
    cases hlive
  · exact hover

/-- Nothing is lost by a graceful shutdown: after a call that shuts down once all data is sent, the
stream is ended only with everything written in packets and every packet acknowledged, and from then
on no packet is created. -/
theorem graceful_shutdown (past after : List RUDPChannelEvent) :
    let start : RUDPChannelEndpoint :=
      .create (.create now first expecting sendingChannelNumber receivingChannelNumber minimumRTT)
    (run step start past).stream.isShutdown = false →
      Meets step (fun t event => t.Graceful event ∧ t.NoLateStreams event) (run step start past)
          (.own (.shutdown true) :: after) →
        LosesNothing start past (.own (.shutdown true) :: after) := by
  intro start hlive hmeets
  have hsends : ∀ events, (run step start events).stream.isShutdown = false →
      Sends (start.Acknowledged events) (start.written [] events) (run step start events) :=
    run_sends now first expecting sendingChannelNumber receivingChannelNumber minimumRTT
  constructor
  · intro middle event rest hsplit hlive' hends
    rw [hsplit] at hmeets
    have hok := meets_of_append _ middle event rest hmeets
    rw [← run_append] at hok
    have hall := hsends (past ++ middle) hlive'
    have hclosed := closes_of_graceful hall.order hall.short hok.1 hlive' hends
    obtain ⟨u, hu, -, hbuffers, hpackets, -⟩ := hclosed
    refine ⟨closes_of_graceful hall.order hall.short hok.1 hlive' hends, ?_, fun r hr => ?_⟩
    · have hnone : u.unsent = [] := by
        rw [unsent]
        rw [totalWriteBuffers] at hbuffers
        cases hstream : u.mSendStream with
        | none => rfl
        | some stream =>
          rw [hstream] at hbuffers
          have hempty : stream.mBuffers = [] := List.length_eq_zero_iff.mp hbuffers
          simp [TransportStream.unread, hempty]
      rw [hall.bytes, ← unsent_of_stream hu.stream, hnone, List.append_nil]
    · rw [← hu.records, SendWindow.records, hpackets, List.append_nil] at hr
      obtain ⟨p, hp, rfl⟩ := List.mem_map.mp hr
      exact hall.letGo _ ((hu.letGo _ (.inl ⟨p, hp, rfl⟩)).resolve_right id)
  · intro middle event rest hsplit hended
    rw [hsplit] at hmeets
    have hok := meets_of_append _ middle event rest hmeets
    have hstart := hsends past hlive
    have hover := over_of_graceful ⟨hstart.order, hstart.short, hstart.bytes, fun _ _ => trivial⟩ hlive
      (meets_before hmeets) (by rwa [run_append] at hended)
    rw [run_append]
    obtain ⟨hover', hrecords⟩ := hover.step event hok.2
    exact ⟨hover.empty, hover'.empty, hrecords⟩

end Graceful

namespace RUDPChannelEndpoint

/-- A stream that has sent nothing. -/
def unusedEndpoint : RUDPChannelEndpoint := .create (.create 0 1 1 7 7 0)

/-- One packet has gone out, and its burst is on its way. -/
def sendingOne : List RUDPChannelEvent := .own (.setStreams .create .create) :: newBurst [true]

/-- The burst ends, the packet is acknowledged, and the next burst finds nothing to do. -/
def acknowledgedAfter : List RUDPChannelEvent :=
  [region false, region false, region false,
    .handleExternalAck 0 0 ⟨1, 1, 1, [], false, true, true, false, false⟩,
    .own .sendNow, region false, region false, region false, region false]

theorem graceful_shutdown_one :
    unusedEndpoint.LosesNothing sendingOne (.own (.shutdown true) :: acknowledgedAfter) :=
  graceful_shutdown 0 1 1 7 7 0 sendingOne acknowledgedAfter (by decide +kernel) (by decide +kernel)

/-- A burst that is about to look for something to send. -/
def burstBegun : List RUDPChannelEvent := [.own .sendNow, region false, region false]

/-- The application gives its streams and writes a byte, and the burst goes on. -/
def lateStreams : List RUDPChannelEvent := [.own (.setStreams .create .create), .own (.write [1]), region true]

/-- A packet is created by a stream that is ended. -/
theorem graceful_shutdown_late :
    Meets step Graceful (run step unusedEndpoint burstBegun) (.own (.shutdown true) :: lateStreams) ∧
      ¬unusedEndpoint.LosesNothing burstBegun (.own (.shutdown true) :: lateStreams) := by
  refine ⟨by decide +kernel, fun h => ?_⟩
  have hnone := (h.ended [.own (.shutdown true), .own (.setStreams .create .create), .own (.write [1])] (region true) []
    rfl (by decide +kernel)).2.1
  exact absurd (congrArg List.length hnone) (by decide +kernel)

end RUDPChannelEndpoint

end OpenPeer
