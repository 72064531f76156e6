import OpenPeer.RUDPChannelResend
import OpenPeer.RUDPChannelStaleAcks

/-!
# Lost packets first, oldest first

The packets a burst resends are noted beside the endpoint, one after another. A
burst that finds no more than one packet to resend at a time, and is not told of
another between the search and the creation of a packet, resends what is lost before
it creates anything. A burst that finds more resends the last of them and no other.
-/
namespace OpenPeer

open RUDPPacket Runs RUDPChannelStream

section Own

variable (s : RUDPChannelStream)

theorem cancel_sending : s.cancel.mSendingPackets = s.mSendingPackets ∨ s.cancel.mSendingPackets = [] := by
  unfold cancel
  split
  · exact .inl rfl
  · exact .inr rfl

theorem delegateGone_sending :
    s.delegateGone.mSendingPackets = s.mSendingPackets ∨ s.delegateGone.mSendingPackets = [] := by
  obtain ⟨e, r, h⟩ := setError_eq s .delegateGone "delegate gone"
  rw [delegateGone, h]
  exact cancel_sending _

theorem setState_sending (state : RUDPChannelStreamStates) :
    (s.setState state).mSendingPackets = s.mSendingPackets := by
  unfold setState
  split <;> rfl

theorem shutdownDirection_sending (state : Shutdown) :
    (s.shutdownDirection state).mSendingPackets = s.mSendingPackets := by
  obtain ⟨c, f, -, h⟩ := shutdownDirection_eq s state
  rw [h]

theorem shutdown_sending (onlyOnceAllDataSent : Bool) :
    (s.shutdown onlyOnceAllDataSent).mSendingPackets = s.mSendingPackets ∨
      (s.shutdown onlyOnceAllDataSent).mSendingPackets = [] := by
  unfold shutdown
  split
  · exact .inl rfl
  split
  · exact cancel_sending s
  · have hsame : ((s.shutdownDirection ⟨false, true⟩).setState .shuttingDown).mSendingPackets = s.mSendingPackets :=
      (setState_sending _ _).trans (shutdownDirection_sending s _)
    unfold closeOnAllDataSent
    rw [← hsame]
    split
    · exact .inl rfl
    split
    · exact .inl rfl
    split
    · exact .inl rfl
    · exact cancel_sending _

/-- The application and the delegate can end the stream at any time. -/
def OwnEvent.Ends : OwnEvent → Prop
  | .delegateGone => True
  | .shutdown _ => True
  | _ => False

instance (event : OwnEvent) : Decidable event.Ends :=
  match event with
  | .delegateGone | .shutdown _ => instDecidableTrue
  | .sendNow | .proceed _ | .onTimer _ _ | .notifyExternalACKSent | .notifySocketWriteReady
  | .holdSendingUntilReceiveSequenceNumber _ | .setStreams _ _ | .shutdownDirection _ | .write _ | .take =>
    instDecidableFalse

/-- What does not go on with a burst keeps the packets, unless it ends the stream. -/
theorem own_sending (t : RUDPChannelEndpoint) (event : OwnEvent) (h : ∀ input, event ≠ .proceed input) :
    (t.own event).stream.mSendingPackets = t.stream.mSendingPackets ∨
      (t.own event).stream.mSendingPackets = [] ∧ event.Ends := by
  unfold RUDPChannelEndpoint.own
  cases event with
  | sendNow =>
    simp only
    split
    next hsend =>
      unfold sendNow at hsend
      split at hsend
      · cases hsend
        exact .inl rfl
      · cases hsend
    · exact .inl rfl
  | proceed input => exact absurd rfl (h input)
  | onTimer timer coin => exact .inl (onTimer_batons t.stream timer coin).2.1
  | notifyExternalACKSent => exact .inl rfl
  | notifySocketWriteReady =>
    change t.stream.notifySocketWriteReady.mSendingPackets = _ ∨ _
    unfold notifySocketWriteReady
    split <;> exact .inl rfl
  | holdSendingUntilReceiveSequenceNumber n => exact .inl rfl
  | delegateGone => exact (delegateGone_sending t.stream).imp_right fun h => ⟨h, trivial⟩
  | setStreams receiveStream sendStream => exact .inl rfl
  | shutdown onlyOnceAllDataSent =>
    exact (shutdown_sending t.stream onlyOnceAllDataSent).imp_right fun h => ⟨h, trivial⟩
  | shutdownDirection state => exact .inl (shutdownDirection_sending t.stream state)
  | write data => exact .inl rfl
  | take =>
    simp only
    split
    · exact .inl rfl
    · split <;> exact .inl rfl

theorem own_sameBurst (t : RUDPChannelEndpoint) (event : OwnEvent) (h : ∀ input, event ≠ .proceed input) {l : SendNow}
    (hl : t.sending = some l) : (t.own event).sending = some l := by
  unfold RUDPChannelEndpoint.own
  cases event with
  | sendNow =>
    rw [hl]
    exact hl
  | proceed input => exact absurd rfl (h input)
  | take =>
    simp only
    split
    · exact hl
    · split <;> exact hl
  | _ => exact hl

end Own

section Selection

variable {s : RUDPChannelStream} {l : SendNow}

theorem selectResend_eq (h : s.Tallied) (l : SendNow) :
    s.selectResend l =
      match chooseResend l.lastPacketSent s.mSendingPackets with
      | some p =>
        { l with
          position := .delivering
          attemptToDeliver := some p.mSequenceNumber
          attemptToDeliverBuffer := p.mPacket }
      | none => { l with position := .creatingPacket } := by
  have hsearch : (if s.mTotalPacketsToResend ≠ 0 then chooseResend l.lastPacketSent s.mSendingPackets else none) =
      chooseResend l.lastPacketSent s.mSendingPackets := by
    by_cases hcount : s.mTotalPacketsToResend = 0
    · rw [if_neg (not_not_intro hcount)]
      cases hchoice : chooseResend l.lastPacketSent s.mSendingPackets with
      | none => rfl
      | some p =>
        obtain ⟨-, hp, hflag⟩ := chooseResend_found hchoice
        rw [h.resend, flagged, List.countP_eq_zero] at hcount
        exact absurd hflag (hcount p (List.mem_append_right _ hp))
    · exact if_pos hcount
  rw [← hsearch]
  rfl

theorem loop_position (l : SendNow) : l.loop.position = .leaving ∨
    l.loop.position = .choosingResend ∧ l.loop.lastPacketSent = l.lastPacketSent := by
  unfold SendNow.loop
  split
  · exact .inl rfl
  · exact .inr ⟨rfl, rfl⟩

/-- A burst comes to the creation of a packet when the search found none. -/
theorem proceed_creating (h : s.Tallied) (input : SendNowInput) {l' : SendNow}
    (hl : (s.proceed input l).1 = some l') (hposition : l'.position = .creatingPacket) :
    l.position = .choosingResend ∧ chooseResend l.lastPacketSent s.mSendingPackets = none ∧
      (s.proceed input l).2 = s := by
  have hloop : ∀ k : SendNow, k.loop ≠ l' := by
    rintro k rfl
    rcases loop_position k with hk | ⟨hk, -⟩ <;> rw [hk] at hposition <;> cases hposition
  unfold proceed at hl ⊢
  cases hstart : l.position with
  | checkingBatons =>
    simp only [hstart, Option.some.injEq, checkBatons] at hl
    split at hl
    · subst hl
      cases hposition
    · exact absurd hl (hloop _)
  | choosingResend =>
    simp only [hstart, Option.some.injEq, selectResend_eq h] at hl
    cases hchoice : chooseResend l.lastPacketSent s.mSendingPackets with
    | none => exact ⟨rfl, rfl, rfl⟩
    | some p =>
      rw [hchoice] at hl
      subst hl
      cases hposition
  | creatingPacket =>
    simp only [hstart, Option.some.injEq] at hl
    rcases @createPacket_cases (fun _ => True) s input.now input.parity l with
      ⟨-, position, heq, hend⟩ | ⟨stream, ackRequired, packet, bytes, -, -, heq⟩
    · rw [heq] at hl
      subst hl
      rcases hend with rfl | rfl <;> cases hposition
    · rw [heq] at hl
      subst hl
      cases hposition
  | delivering =>
    cases hdelivery : input.delivery <;> simp only [hstart, hdelivery, Option.some.injEq, afterSend] at hl
      <;> subst hl <;> cases hposition
  | afterDelivery =>
    simp only [hstart, Option.some.injEq, clearResend] at hl
    split at hl
    · exact absurd hl (hloop _)
    · split at hl <;> exact absurd hl (hloop _)
  | leaving =>
    simp only [hstart, Option.some.injEq, leaveSendNow] at hl
    subst hl
    cases hposition
  | unwinding =>
    simp only [hstart] at hl
    cases hl

end Selection

namespace RUDPChannelEndpoint

/-- The packet a burst chooses to resend with an event. -/
def selected (t : RUDPChannelEndpoint) (event : RUDPChannelEvent) : Option Nat :=
  match t.sending, event with
  | some l, .own (.proceed _) =>
    if l.position = .choosingResend ∧ (t.stream.selectResend l).position = .delivering then
      (t.stream.selectResend l).attemptToDeliver
    else none
  | _, _ => none

end RUDPChannelEndpoint

theorem selected_some {t : RUDPChannelEndpoint} (h : t.stream.Tallied) {event : RUDPChannelEvent} {n : Nat}
    (hn : t.selected event = some n) : ∃ l input p, t.sending = some l ∧ event = .own (.proceed input) ∧
      l.position = .choosingResend ∧ chooseResend l.lastPacketSent t.stream.mSendingPackets = some p ∧
      p.mSequenceNumber = n := by
  unfold RUDPChannelEndpoint.selected at hn
  split at hn
  next l input hl =>
    split at hn
    next hposition =>
      rw [selectResend_eq h] at hn hposition
      cases hchoice : chooseResend l.lastPacketSent t.stream.mSendingPackets with
      | none =>
        rw [hchoice] at hposition
        cases hposition.2
      | some p =>
        rw [hchoice] at hn
        exact ⟨l, input, p, hl, rfl, hposition.1, hchoice, Option.some.inj hn⟩
    · cases hn
  · cases hn

/-- An endpoint, and the packets its burst chose to resend. -/
structure WatchedBurst where
  endpoint : RUDPChannelEndpoint
  resends : List Nat
  deriving DecidableEq, Repr

namespace WatchedBurst

def step (w : WatchedBurst) (event : RUDPChannelEvent) : WatchedBurst where
  endpoint := w.endpoint.step event
  resends := if w.endpoint.sending = none then [] else w.resends ++ (w.endpoint.selected event).toList

/-- A search finds one packet to resend at most, which is not before the packet sent last or another
that was resent, and nothing that arrives between a search and the creation of a packet leaves a
packet to be resent. -/
def Orderly (w : WatchedBurst) (event : RUDPChannelEvent) : Prop :=
  match w.endpoint.sending with
  | none => True
  | some l =>
    match event with
    | .own (.proceed _) =>
      l.position = .choosingResend → OneFlagged l.lastPacketSent w.endpoint.stream.mSendingPackets ∧
        ∀ p ∈ w.endpoint.stream.mSendingPackets, p.mFlagForResendingInNextBurst = true →
          ∀ n ∈ w.resends, n < p.mSequenceNumber
    | .own _ => True
    | event => l.position = .creatingPacket → flagged (w.endpoint.step event).stream.mSendingPackets = 0

instance (w : WatchedBurst) (event : RUDPChannelEvent) : Decidable (w.Orderly event) := by
  unfold Orderly
  exact match w.endpoint.sending, event with
    | none, _ => instDecidableTrue
    | some _, .handlePacket _ _ _ | some _, .handleExternalAck _ _ _ => inferInstanceAs (Decidable (_ → _ = _))
    | some _, .own event =>
      match event with
      | .proceed _ => inferInstanceAs (Decidable (_ → OneFlagged _ _ ∧ _))
      | .sendNow | .onTimer _ _ | .notifyExternalACKSent | .notifySocketWriteReady
      | .holdSendingUntilReceiveSequenceNumber _ | .delegateGone | .setStreams _ _ | .shutdown _
      | .shutdownDirection _ | .write _ | .take => instDecidableTrue

/-- A step resends the oldest packet of those to be resent, later ones after earlier ones, and it
creates a packet when there is none to be resent. -/
structure OldestFirst (w : WatchedBurst) (event : RUDPChannelEvent) : Prop where
  lowest : ∀ n, w.endpoint.selected event = some n →
    (∃ p ∈ w.endpoint.stream.mSendingPackets, p.mSequenceNumber = n ∧ p.mFlagForResendingInNextBurst = true) ∧
      ∀ p ∈ w.endpoint.stream.mSendingPackets, p.mFlagForResendingInNextBurst = true → n ≤ p.mSequenceNumber
  increasing : (w.step event).resends.Pairwise (· < ·)
  created : (w.step event).endpoint.stream.mNextSequenceNumber ≠ w.endpoint.stream.mNextSequenceNumber →
    flagged w.endpoint.stream.mSendingPackets = 0

/-- What holds along a run that is orderly: where a packet is to be created there is none to be resent. -/
structure InOrder (first : Nat) (w : WatchedBurst) : Prop where
  counted : Counted w.endpoint.stream
  order : SendInOrder first w.endpoint.stream.toSendWindow
  clear : ∀ l, w.endpoint.sending = some l → l.position = .creatingPacket →
    flagged w.endpoint.stream.mSendingPackets = 0
  resends : w.resends.Pairwise (· < ·)

section Steps

variable {first : Nat} {w : WatchedBurst} {event : RUDPChannelEvent}

theorem InOrder.lowest (h : w.InOrder first) (hok : w.Orderly event) {n : Nat}
    (hn : w.endpoint.selected event = some n) :
    (∃ p ∈ w.endpoint.stream.mSendingPackets, p.mSequenceNumber = n ∧ p.mFlagForResendingInNextBurst = true) ∧
      (∀ p ∈ w.endpoint.stream.mSendingPackets, p.mFlagForResendingInNextBurst = true → n ≤ p.mSequenceNumber) ∧
      ∀ m ∈ w.resends, m < n := by
  obtain ⟨l, input, p, hl, rfl, hposition, hchoice, rfl⟩ := selected_some h.counted.tallied hn
  obtain ⟨-, hp, hflag⟩ := chooseResend_found hchoice
  simp only [Orderly, hl] at hok
  obtain ⟨hone, habove⟩ := hok hposition
  refine ⟨⟨p, hp, rfl, hflag⟩, fun q hq hqflag => ?_, fun m hm => habove p hp hflag m hm⟩
  exact Nat.le_of_eq (hone.1 p hp q hq hflag hqflag)

theorem InOrder.step_resends (h : w.InOrder first) (hok : w.Orderly event) :
    (w.step event).resends.Pairwise (· < ·) := by
  unfold WatchedBurst.step
  simp only
  split
  · exact .nil
  · cases hn : w.endpoint.selected event with
    | none => simpa using h.resends
    | some n =>
      refine List.pairwise_append.mpr ⟨h.resends, List.pairwise_singleton _ _, fun m hm k hk => ?_⟩
      rw [List.mem_singleton.mp hk]
      exact (h.lowest hok hn).2.2 m hm

theorem flagged_eq_zero {ps : List BufferedPacket} :
    flagged ps = 0 ↔ ∀ p ∈ ps, p.mFlagForResendingInNextBurst = false := by
  rw [flagged, List.countP_eq_zero]
  exact forall₂_congr fun p _ => by rw [Bool.not_eq_true]

/-- The creation of a packet is reached with none to be resent, and stays so. -/
theorem InOrder.step_clear (h : w.InOrder first) (hok : w.Orderly event) {l : SendNow}
    (hl : (w.step event).endpoint.sending = some l) (hposition : l.position = .creatingPacket) :
    flagged (w.step event).endpoint.stream.mSendingPackets = 0 := by
  change (w.endpoint.step event).sending = some l at hl
  change flagged (w.endpoint.step event).stream.mSendingPackets = 0
  cases event with
  | handlePacket now packet ecnMarked =>
    change w.endpoint.sending = some l at hl
    simp only [Orderly, hl] at hok
    exact hok hposition
  | handleExternalAck now id ack =>
    change w.endpoint.sending = some l at hl
    simp only [Orderly, hl] at hok
    exact hok hposition
  | own event =>
    by_cases hproceed : ∃ input, event = .proceed input
    · obtain ⟨input, rfl⟩ := hproceed
      rw [RUDPChannelEndpoint.step, RUDPChannelEndpoint.own] at hl ⊢
      cases hk : w.endpoint.sending with
      | none => simp only [hk, reduceCtorEq] at hl
      | some k =>
        simp only [hk] at hl ⊢
        obtain ⟨hchoosing, hnone, hsame⟩ := proceed_creating h.counted.tallied input hl hposition
        rw [hsame]
        simp only [Orderly, hk] at hok
        rw [chooseResend_of_one h.order.ascending (hok hchoosing).1] at hnone
        exact flagged_eq_zero.mpr fun p hp => Bool.eq_false_iff.mpr (List.find?_eq_none.mp hnone p hp)
    · have hevent : ∀ input, event ≠ .proceed input := fun input heq => hproceed ⟨input, heq⟩
      have hwas : w.endpoint.sending = some l := by
        rcases (own_windows (fun _ => True) w.endpoint event hevent).2 with hsame | hstart
        · exact hsame.symm.trans hl
        · rw [show (w.endpoint.own event).sending = some l from hl] at hstart
          cases Option.some.inj hstart
          cases hposition
      rcases own_sending w.endpoint event hevent with hsame | ⟨hempty, -⟩
      · rw [show (w.endpoint.step (.own event)).stream = (w.endpoint.own event).stream from rfl, hsame]
        exact h.clear l hwas hposition
      · rw [show (w.endpoint.step (.own event)).stream = (w.endpoint.own event).stream from rfl, hempty]
        rfl

theorem InOrder.step (h : w.InOrder first) (hok : w.Orderly event) : (w.step event).InOrder first where
  counted := h.counted.step event
  order := h.order.step event
  clear := fun _ hl hposition => h.step_clear hok hl hposition
  resends := h.step_resends hok

theorem InOrder.oldestFirst (h : w.InOrder first) (hok : w.Orderly event) : w.OldestFirst event where
  lowest := fun _ hn => ⟨(h.lowest hok hn).1, (h.lowest hok hn).2.1⟩
  increasing := h.step_resends hok
  created := by
    intro hchanges
    obtain ⟨l, input, hl, hposition, -⟩ := next_changes w.endpoint event hchanges
    exact h.clear l hl hposition

end Steps

end WatchedBurst

section Passed

variable {s : RUDPChannelStream} {l : SendNow} {first : Nat}

/-- What is to be resent comes before a packet of the map. -/
def FlaggedBelow (below : Nat → Nat → Prop) (reached : Option Nat) (ps : List BufferedPacket) : Prop :=
  ∀ p ∈ ps, p.mFlagForResendingInNextBurst = true →
    ∃ q ∈ ps, reached = some q.mSequenceNumber ∧ below p.mSequenceNumber q.mSequenceNumber

/-- A burst that has passed all that is to be resent. -/
def Passed (l : SendNow) (ps : List BufferedPacket) : Prop :=
  match l.position with
  | .checkingBatons => False
  | .choosingResend | .creatingPacket => FlaggedBelow (· < ·) l.lastPacketSent ps
  | .delivering => FlaggedBelow (· ≤ ·) l.attemptToDeliver ps
  | .afterDelivery => FlaggedBelow (· ≤ ·) l.attemptToDeliver ps ∧ l.lastPacketSent = l.attemptToDeliver
  | .leaving | .unwinding => True

theorem passed_loop {ps : List BufferedPacket} (h : FlaggedBelow (· < ·) l.lastPacketSent ps) : Passed l.loop ps := by
  unfold Passed
  rcases loop_position l with hposition | ⟨hposition, hlast⟩
  · rw [hposition]
    trivial
  · rw [hposition, hlast]
    exact h

theorem chooseResend_passed {ps : List BufferedPacket} {last : Option Nat} (h : Ascending ps)
    (hbelow : FlaggedBelow (· < ·) last ps) : chooseResend last ps = none := by
  cases hchoice : chooseResend last ps with
  | none => rfl
  | some p =>
    obtain ⟨hsearched, hp, hflag⟩ := chooseResend_found hchoice
    obtain ⟨q, hq, hlast, hlt⟩ := hbelow p hp hflag
    exact absurd hlt (Nat.not_lt_of_ge ((mem_searched h hp).mp hsearched q hq hlast))

theorem doNotResend_packet (p : BufferedPacket) (c : Counters) :
    (p.doNotResend c).1 = { p with mFlagForResendingInNextBurst := false } := by
  unfold BufferedPacket.doNotResend
  split
  next hflag =>
    rw [Bool.not_eq_true] at hflag
    rw [← hflag]
  · split <;> rfl

/-- A packet that went out need not be resent, if it was to be. -/
theorem clearResend_passed (h : SendInOrder first s.toSendWindow)
    (hbelow : FlaggedBelow (· ≤ ·) l.attemptToDeliver s.mSendingPackets) :
    FlaggedBelow (· < ·) l.attemptToDeliver (s.clearResend l).2.mSendingPackets := by
  unfold clearResend
  cases hattempt : l.attemptToDeliver with
  | none =>
    rw [hattempt] at hbelow
    intro p hp hflag
    obtain ⟨q, -, hnone, -⟩ := hbelow p hp hflag
    cases hnone
  | some n =>
    rw [hattempt] at hbelow
    simp only
    split
    next hflagged =>
      have hsending : ({ s with mForceACKNextTimePossible := true }.modifyPacket n
          BufferedPacket.doNotResend).mSendingPackets = s.mSendingPackets.map fun p =>
            if p.mSequenceNumber = n then { p with mFlagForResendingInNextBurst := false } else p :=
        onPacket_map _ n _ _ _ doNotResend_packet h.ascending
      rw [hsending]
      intro p hp hflag
      obtain ⟨r, hr, rfl⟩ := List.mem_map.mp hp
      have hne : r.mSequenceNumber ≠ n := by
        intro heq
        rw [if_pos heq] at hflag
        cases hflag
      rw [if_neg hne] at hflag ⊢
      obtain ⟨q, hq, hn, hle⟩ := hbelow r hr hflag
      refine ⟨_, List.mem_map_of_mem hq, ?_⟩
      have hqn : q.mSequenceNumber = n := (Option.some.inj hn).symm
      rw [if_pos hqn]
      have hlt : r.mSequenceNumber < q.mSequenceNumber := by omega
      exact ⟨hn, hlt⟩
    next hclear =>
      intro p hp hflag
      obtain ⟨q, hq, hn, hle⟩ := hbelow p hp hflag
      refine ⟨q, hq, hn, Nat.lt_of_le_of_ne hle fun heq => hclear ?_⟩
      -- the packet that went out would be this one
      have hpn : p.mSequenceNumber = n := heq.trans (Option.some.inj hn).symm
      have hsome : (s.findPacket n).isSome = true :=
        List.find?_isSome.mpr ⟨p, List.mem_append_right _ hp, beq_iff_eq.mpr hpn⟩
      obtain ⟨r, hr⟩ := Option.isSome_iff_exists.mp hsome
      have hrn : r.mSequenceNumber = n := by simpa using List.find?_some hr
      have hsame : r = p := h.unique (List.mem_append_right _ hp) (List.mem_of_find?_eq_some hr) (hrn.trans hpn.symm)
      rw [hr, hsame, Option.map_some, Option.getD_some]
      exact hflag

/-- A burst that has passed all that is to be resent goes on so. -/
theorem proceed_passed (hcounted : Counted s) (h : SendInOrder first s.toSendWindow) {input : SendNowInput}
    (hsent : input.delivery = .sent) (hpassed : Passed l s.mSendingPackets) :
    ∀ l', (s.proceed input l).1 = some l' → Passed l' (s.proceed input l).2.mSendingPackets := by
  intro l' hl
  unfold proceed at hl ⊢
  unfold Passed at hpassed
  cases hposition : l.position with
  | checkingBatons =>
    rw [hposition] at hpassed
    exact hpassed.elim
  | choosingResend =>
    simp only [hposition] at hpassed hl ⊢
    rw [selectResend_eq hcounted.tallied, chooseResend_passed h.ascending hpassed] at hl
    cases Option.some.inj hl
    exact hpassed
  | creatingPacket =>
    simp only [hposition] at hpassed hl ⊢
    rcases @createPacket_cases (fun _ => True) s input.now input.parity l with
      ⟨-, position, heq, hend⟩ | ⟨stream, ackRequired, packet, bytes, -, -, heq⟩
    · rw [heq] at hl
      cases Option.some.inj hl
      rcases hend with rfl | rfl <;> trivial
    · rw [heq] at hl ⊢
      cases Option.some.inj hl
      intro p hp hflag
      refine ⟨_, List.mem_append_right _ (List.mem_singleton_self _), rfl, ?_⟩
      rcases List.mem_append.mp hp with hp | hp
      · exact Nat.le_of_lt (h.index (mem_records_sending hp)).2.1
      · exact Nat.le_of_eq (by rw [List.mem_singleton.mp hp])
  | delivering =>
    simp only [hposition, hsent] at hpassed hl ⊢
    cases Option.some.inj hl
    exact ⟨hpassed, rfl⟩
  | afterDelivery =>
    simp only [hposition] at hpassed hl ⊢
    have hloop : (s.clearResend l).1 = l.loop := by
      unfold clearResend
      split
      · rfl
      · split <;> rfl
    rw [hloop] at hl
    cases Option.some.inj hl
    refine passed_loop ?_
    rw [hpassed.2]
    exact clearResend_passed h hpassed.1
  | leaving =>
    simp only [hposition] at hl
    cases Option.some.inj hl
    trivial
  | unwinding =>
    simp only [hposition, reduceCtorEq] at hl

end Passed

namespace WatchedBurst

/-- A step of a burst that is not at its end: nothing arrives, the stream is not ended, and the
packet goes out when it is one that sends. -/
def Undisturbed (w : WatchedBurst) (event : RUDPChannelEvent) : Prop :=
  w.endpoint.sending ≠ none ∧
    match event with
    | .own (.proceed input) => input.delivery = .sent
    | .own event => ¬event.Ends
    | _ => False

instance (w : WatchedBurst) (event : RUDPChannelEvent) : Decidable (w.Undisturbed event) := by
  unfold Undisturbed
  exact match event with
    | .handlePacket _ _ _ | .handleExternalAck _ _ _ => inferInstanceAs (Decidable (_ ≠ _ ∧ False))
    | .own event =>
      match event with
      | .proceed _ => inferInstanceAs (Decidable (_ ≠ _ ∧ _ = _))
      | .sendNow | .onTimer _ _ | .notifyExternalACKSent | .notifySocketWriteReady
      | .holdSendingUntilReceiveSequenceNumber _ | .delegateGone | .setStreams _ _ | .shutdown _
      | .shutdownDirection _ | .write _ | .take => inferInstanceAs (Decidable (_ ≠ _ ∧ ¬OwnEvent.Ends _))

/-- The last of the packets that are to be resent. -/
def lastFlagged (ps : List BufferedPacket) : Option Nat :=
  (ps.filter (·.mFlagForResendingInNextBurst)).getLast?.map (·.mSequenceNumber)

/-- A burst is before its first search, or it has resent the last packet of those to be resent and
passed all of them. -/
def Progress (ps : List BufferedPacket) (w : WatchedBurst) : Prop :=
  (∃ l, w.endpoint.sending = some l ∧ l.position = .choosingResend ∧ l.lastPacketSent = none ∧
    w.endpoint.stream.mSendingPackets = ps ∧ w.resends = []) ∨
  w.resends = (lastFlagged ps).toList ∧
    ∀ l, w.endpoint.sending = some l → Passed l w.endpoint.stream.mSendingPackets

theorem chooseResend_first (ps : List BufferedPacket) :
    chooseResend none ps = (ps.filter (·.mFlagForResendingInNextBurst)).getLast? := by
  rw [chooseResend_eq, searched]
  exact congrArg (fun qs : List BufferedPacket => (qs.filter (·.mFlagForResendingInNextBurst)).getLast?) (ite_self ps)

section Solo

variable {first : Nat} {w : WatchedBurst} {event : RUDPChannelEvent} {ps : List BufferedPacket}

theorem Progress.step (hcounted : Counted w.endpoint.stream) (horder : SendInOrder first w.endpoint.stream.toSendWindow)
    (hok : w.Undisturbed event) (h : w.Progress ps) : (w.step event).Progress ps := by
  obtain ⟨hsome, hok⟩ := hok
  have hresends : (w.step event).resends = w.resends ++ (w.endpoint.selected event).toList := if_neg hsome
  obtain ⟨l, hl⟩ := Option.ne_none_iff_exists'.mp hsome
  cases event with
  | handlePacket now packet ecnMarked => exact hok.elim
  | handleExternalAck now id ack => exact hok.elim
  | own event =>
    by_cases hproceed : ∃ input, event = .proceed input
    · obtain ⟨input, rfl⟩ := hproceed
      have hstep : w.endpoint.step (.own (.proceed input)) =
          { w.endpoint with sending := (w.endpoint.stream.proceed input l).1, stream := (w.endpoint.stream.proceed input l).2 } := by
        rw [RUDPChannelEndpoint.step, RUDPChannelEndpoint.own, hl]
      rcases h with ⟨k, hk, hchoosing, hlast, rfl, hnone⟩ | ⟨hdone, hpassed⟩
      · -- the first search of the burst
        cases Option.some.inj (hl.symm.trans hk)
        have hselect : w.endpoint.stream.proceed input l = (some (w.endpoint.stream.selectResend l), w.endpoint.stream) := by
          unfold proceed
          rw [hchoosing]
        have hchoice := chooseResend_first w.endpoint.stream.mSendingPackets
        rw [hselect] at hstep
        right
        rw [hresends, hnone, List.nil_append, WatchedBurst.step, hstep]
        simp only [RUDPChannelEndpoint.selected, hl, hchoosing, true_and, selectResend_eq hcounted.tallied, hlast,
          hchoice, lastFlagged]
        cases hfound : (w.endpoint.stream.mSendingPackets.filter (·.mFlagForResendingInNextBurst)).getLast? with
        | none =>
          refine ⟨rfl, fun l' hl' => ?_⟩
          rw [← Option.some.inj hl']
          intro p hp hflag
          rw [List.getLast?_eq_none_iff] at hfound
          exact absurd hflag (List.filter_eq_nil_iff.mp hfound p hp)
        | some p =>
          refine ⟨rfl, fun l' hl' => ?_⟩
          rw [← Option.some.inj hl']
          rw [hfound] at hchoice
          intro q hq hflag
          exact ⟨p, (chooseResend_found hchoice).2.1, rfl, chooseResend_greatest horder.ascending hchoice hq hflag⟩
      · right
        have hnot : w.endpoint.selected (.own (.proceed input)) = none := by
          cases hselected : w.endpoint.selected (.own (.proceed input)) with
          | none => rfl
          | some n =>
            obtain ⟨k, -, p, hk, -, hchoosing, hchoice, -⟩ := selected_some hcounted.tallied hselected
            have hbelow := hpassed k hk
            rw [Passed, hchoosing] at hbelow
            rw [chooseResend_passed horder.ascending hbelow] at hchoice
            cases hchoice
        rw [hresends, hnot, Option.toList_none, List.append_nil, WatchedBurst.step, hstep]
        exact ⟨hdone, proceed_passed hcounted horder hok (hpassed l hl)⟩
    · have hevent : ∀ input, event ≠ .proceed input := fun input heq => hproceed ⟨input, heq⟩
      have hends : ¬event.Ends := by
        cases event with
        | proceed input => exact absurd rfl (hevent input)
        | _ => exact hok
      have hnot : w.endpoint.selected (.own event) = none := by
        cases hselected : w.endpoint.selected (.own event) with
        | none => rfl
        | some n =>
          obtain ⟨-, input, -, -, heq, -⟩ := selected_some hcounted.tallied hselected
          exact absurd (RUDPChannelEvent.own.inj heq) (hevent input)
      have hsame := (own_sending w.endpoint event hevent).resolve_right fun hend => hends hend.2
      have hburst := own_sameBurst w.endpoint event hevent hl
      have hsending : (w.step (.own event)).endpoint.stream.mSendingPackets = w.endpoint.stream.mSendingPackets := hsame
      have hsender : (w.step (.own event)).endpoint.sending = w.endpoint.sending := hburst.trans hl.symm
      unfold Progress
      rw [hresends, hnot, Option.toList_none, List.append_nil, hsending, hsender]
      exact h

theorem lastFlagged_lowest (h : Ascending ps) {count : Nat} (hcount : 1 ≤ count) :
    (lastFlagged ps).toList =
      ((ps.filter (·.mFlagForResendingInNextBurst)).map (·.mSequenceNumber)).take count ↔ flagged ps ≤ 1 := by
  have hascending : Ascending (ps.filter (·.mFlagForResendingInNextBurst)) := List.Pairwise.filter _ h
  rw [lastFlagged, show flagged ps = (ps.filter (·.mFlagForResendingInNextBurst)).length from List.countP_eq_length_filter]
  obtain ⟨count, rfl⟩ := Nat.exists_eq_add_of_le' hcount
  generalize ps.filter (·.mFlagForResendingInNextBurst) = qs at *
  match qs with
  | [] => simp
  | [q] => simp
  | q :: r :: qs =>
    refine ⟨fun heq => ?_, fun hle => by simp only [List.length_cons] at hle; omega⟩
    obtain ⟨p, hp⟩ : ∃ p, (r :: qs).getLast? = some p := ⟨_, List.getLast?_eq_some_getLast (List.cons_ne_nil r qs)⟩
    have hlt := (List.pairwise_cons.mp hascending).1 p (List.mem_of_getLast? hp)
    rw [List.getLast?_cons_cons, hp, List.map_cons, List.take_succ_cons] at heq
    have hhead := (List.cons.inj heq).1
    simp only at hhead
    omega

end Solo

end WatchedBurst

namespace WatchedBurst

def create (stream : RUDPChannelStream) : WatchedBurst := ⟨.create stream, []⟩

variable (first : Nat) (now : Int) (expecting : Nat)
  (sendingChannelNumber receivingChannelNumber : UInt16) (minimumRTT : Nat) (events : List RUDPChannelEvent)

/-- In every run that is orderly, what is lost is resent oldest first, and before a packet is created.
In every state, a burst that is not disturbed resends the lowest packets of those to be resent, as
many as it has room for, exactly when there is at most one to be resent. -/
theorem lost_resent_oldest_first (hfirst : 0 < first) :
    (Meets step Orderly (create (.create now first expecting sendingChannelNumber receivingChannelNumber minimumRTT))
        events →
      ∀ before event after, events = before ++ event :: after →
        (run step (create (.create now first expecting sendingChannelNumber receivingChannelNumber minimumRTT))
          before).OldestFirst event) ∧
    let t := run RUDPChannelEndpoint.step
      (.create (.create now first expecting sendingChannelNumber receivingChannelNumber minimumRTT)) events
    t.sending = some (t.stream.checkBatons .start) → 0 < t.stream.mAvailableBurstBatons →
      ∀ burst, Meets step Undisturbed ⟨t, []⟩ burst → (run step ⟨t, []⟩ burst).endpoint.sending = none →
        ((run step ⟨t, []⟩ burst).resends =
            ((t.stream.mSendingPackets.filter (·.mFlagForResendingInNextBurst)).map (·.mSequenceNumber)).take
              t.stream.mPacketsPerBurst ↔
          flagged t.stream.mSendingPackets ≤ 1) := by
  constructor
  · rintro hmeets before event after rfl
    have hcreated : (create (.create now first expecting sendingChannelNumber receivingChannelNumber
        minimumRTT)).InOrder first :=
      ⟨create_counted now first expecting sendingChannelNumber receivingChannelNumber minimumRTT,
        create_sendInOrder hfirst now expecting sendingChannelNumber receivingChannelNumber minimumRTT,
        fun _ hl => (nomatch hl), .nil⟩
    have horderly := meets_of_append _ before event after hmeets
    have hbefore : Meets step Orderly (create (.create now first expecting sendingChannelNumber
        receivingChannelNumber minimumRTT)) before := meets_before hmeets
    exact InOrder.oldestFirst (run_invariant _ (fun _ _ hok h => InOrder.step h hok) _ before hbefore hcreated) horderly
  · intro t hstart hbatons burst hmeets hend
    have hcounted : Counted t.stream :=
      run_counted now first expecting sendingChannelNumber receivingChannelNumber minimumRTT events
    have horder : SendInOrder first t.stream.toSendWindow :=
      run_sendInOrder hfirst now expecting sendingChannelNumber receivingChannelNumber minimumRTT events
    have hroom : 1 ≤ t.stream.mPacketsPerBurst := hcounted.burst
    have hfirst : t.stream.checkBatons .start =
        { SendNow.start with packetsToSend := t.stream.mPacketsPerBurst, position := .choosingResend } := by
      unfold checkBatons SendNow.loop
      rw [if_neg (by omega), if_neg (by simp only; omega)]
      rfl
    have hinit : Progress t.stream.mSendingPackets ⟨t, []⟩ :=
      .inl ⟨_, hstart.trans (congrArg some hfirst), rfl, rfl, rfl, rfl⟩
    obtain ⟨-, -, hprogress⟩ := run_invariant
      (fun w : WatchedBurst => Counted w.endpoint.stream ∧ SendInOrder first w.endpoint.stream.toSendWindow ∧
        Progress t.stream.mSendingPackets w)
      (fun w event hok h => ⟨h.1.step event, h.2.1.step event, h.2.2.step h.1 h.2.1 hok⟩)
      _ burst hmeets ⟨hcounted, horder, hinit⟩
    rcases hprogress with ⟨l, hl, -⟩ | ⟨hresends, -⟩
    · rw [hend] at hl
      cases hl
    · rw [hresends]
      exact lastFlagged_lowest horder.ascending hroom

/-- Three packets are sent, an acknowledgement of the third says what became of the first two, and
another burst begins. -/
def burstAfterLoss (vector : List UInt8) : List RUDPChannelEvent :=
  RUDPChannelEndpoint.threePackets ++ [RUDPChannelEndpoint.region false, RUDPChannelEndpoint.region false,
    .handleExternalAck 0 0 ⟨1, 3, 0, vector, false, false, false, false, false⟩, .own .sendNow,
    RUDPChannelEndpoint.region false]

/-- Packet 1 is lost: the burst resends it. -/
theorem lost_resent_oldest_first_one :
    (run step (create (.create 0 1 1 7 7 0)) (burstAfterLoss [193, 1])).OldestFirst (RUDPChannelEndpoint.region false) ∧
    (run step ⟨run RUDPChannelEndpoint.step (.create (.create 0 1 1 7 7 0)) (burstAfterLoss [193, 1]), []⟩
      (List.replicate 5 (RUDPChannelEndpoint.region false))).resends = [1] := by
  have hboth := lost_resent_oldest_first 1 0 1 7 7 0
  refine ⟨(hboth (burstAfterLoss [193, 1] ++ [RUDPChannelEndpoint.region false]) (by decide)).1 (by decide +kernel) _ _ []
    rfl, ?_⟩
  have hlowest := ((hboth (burstAfterLoss [193, 1]) (by decide)).2 (by decide +kernel) (by decide +kernel)
    (List.replicate 5 (RUDPChannelEndpoint.region false)) (by decide +kernel) (by decide +kernel)).mpr (by decide +kernel)
  rw [hlowest]
  decide +kernel

/-- Packets 1 and 2 are lost: the burst resends packet 2. -/
theorem later_packet_resent :
    ¬∀ (events : List RUDPChannelEvent) (event : RUDPChannelEvent),
      (run step (create (.create 0 1 1 7 7 0)) events).OldestFirst event := by
  intro h
  have hlowest := (h (burstAfterLoss []) (RUDPChannelEndpoint.region false)).lowest 2 (by decide +kernel)
  have hfirst : ∃ p ∈ (run step (create (.create 0 1 1 7 7 0)) (burstAfterLoss [])).endpoint.stream.mSendingPackets,
      p.mFlagForResendingInNextBurst = true ∧ p.mSequenceNumber = 1 := by
    decide +kernel
  obtain ⟨p, hp, hflag, hone⟩ := hfirst
  have htwo := hlowest.2 p hp hflag
  omega

end WatchedBurst

end OpenPeer
