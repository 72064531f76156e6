import OpenPeer.RUDPChannelCounters
import OpenPeer.Runs

/-!
# Counting along a run

Whatever order the locked regions come in, the packets to be resent are those the
counter counts, and the batons stay as many as they are: the timer adds one and a
loss takes one away.
-/
namespace OpenPeer

open BufferedPacket RUDPPacket Runs RUDPChannelStream SendWindow

namespace SendWindow

variable (w : SendWindow)

/-- The packets of the map and those taken out of it. -/
def packets : List BufferedPacket := w.mRemovedPackets ++ w.mSendingPackets

/-- The batons that are available and those the packets of the map hold. -/
def batons : Nat := w.mAvailableBurstBatons + holding w.mSendingPackets

/-- The counter counts the packets to be resent, and each of them has its buffer. -/
structure Tallied : Prop where
  resend : w.mTotalPacketsToResend = flagged w.packets
  resendable : ∀ p ∈ w.packets, p.Resendable

end SendWindow

/-- The counters stay in step with the packets. Before the end a packet that is taken out of the map
is done with. -/
structure CountersKept (s s' : RUDPChannelStream) : Prop where
  tallied : s.Tallied → s'.Tallied
  shutdown : s'.isShutdown = false → s.isShutdown = false
  released : s'.isShutdown = false → (∀ p ∈ s.mRemovedPackets, p.Released) → ∀ p ∈ s'.mRemovedPackets, p.Released
  burst : 1 ≤ s.mPacketsPerBurst → 1 ≤ s'.mPacketsPerBurst

/-- And no baton is lost, and none appears. -/
structure BatonsKept (s s' : RUDPChannelStream) : Prop extends CountersKept s s' where
  batons : s'.mAvailableBurstBatons + holding s'.packets = s.mAvailableBurstBatons + holding s.packets

/-- A part without batons of its own around another reaction to loss. -/
def KeptAround (onLoss : Int → RUDPChannelStream → RUDPChannelStream) (s s' : RUDPChannelStream) : Prop :=
  BatonsKept s s' ∨ ∃ now u, BatonsKept s u ∧ BatonsKept (onLoss now u) s'

section Rules

variable {s s' s'' : RUDPChannelStream}

theorem CountersKept.trans (h : CountersKept s s') (h' : CountersKept s' s'') : CountersKept s s'' where
  tallied := fun ht => h'.tallied (h.tallied ht)
  shutdown := fun hlive => h.shutdown (h'.shutdown hlive)
  released := fun hlive hall => h'.released hlive (h.released (h'.shutdown hlive) hall)
  burst := fun hburst => h'.burst (h.burst hburst)

theorem BatonsKept.trans (h : BatonsKept s s') (h' : BatonsKept s' s'') : BatonsKept s s'' where
  toCountersKept := h.toCountersKept.trans h'.toCountersKept
  batons := h'.batons.trans h.batons

variable {onLoss : Int → RUDPChannelStream → RUDPChannelStream}

theorem BatonsKept.around (h : BatonsKept s s') (h' : KeptAround onLoss s' s'') : KeptAround onLoss s s'' := by
  rcases h' with h' | ⟨now, u, hu, hr⟩
  · exact .inl (h.trans h')
  · exact .inr ⟨now, u, h.trans hu, hr⟩

theorem KeptAround.trans (h : KeptAround onLoss s s') (h' : BatonsKept s' s'') : KeptAround onLoss s s'' := by
  rcases h with h | ⟨now, u, hu, hr⟩
  · exact .inl (h.trans h')
  · exact .inr ⟨now, u, hu, hr.trans h'⟩

theorem holding_packets (hall : ∀ p ∈ s.mRemovedPackets, p.Released) :
    holding s.packets = holding s.mSendingPackets := by
  have hnone : holding s.mRemovedPackets = 0 :=
    List.countP_eq_zero.mpr fun p hp => by simp [(hall p hp).baton]
  rw [packets, holding_append, hnone, Nat.zero_add]

theorem flagged_packets (hall : ∀ p ∈ s.mRemovedPackets, p.Released) :
    flagged s.packets = flagged s.mSendingPackets := by
  have hnone : flagged s.mRemovedPackets = 0 :=
    List.countP_eq_zero.mpr fun p hp => by simp [(hall p hp).resend]
  rw [packets, flagged_append, hnone, Nat.zero_add]

theorem BatonsKept.of_balanced (h : Balanced s.packets s.toCounters s'.packets s'.toCounters)
    (hshutdown : s'.isShutdown = s.isShutdown)
    (hreleased : (∀ p ∈ s.mRemovedPackets, p.Released) → ∀ p ∈ s'.mRemovedPackets, p.Released)
    (hburst : s'.mPacketsPerBurst = s.mPacketsPerBurst) : BatonsKept s s' where
  tallied := fun ht => ⟨(h.resend 0 ht.resend).1, h.resendable ht.resendable⟩
  shutdown := fun hlive => hshutdown ▸ hlive
  released := fun _ => hreleased
  burst := fun h1 => hburst ▸ h1
  batons := h.batons

theorem BatonsKept.of_same (hremoved : s'.mRemovedPackets = s.mRemovedPackets)
    (hsending : s'.mSendingPackets = s.mSendingPackets)
    (hresend : s'.mTotalPacketsToResend = s.mTotalPacketsToResend)
    (hbatons : s'.mAvailableBurstBatons = s.mAvailableBurstBatons) (hshutdown : s'.isShutdown = s.isShutdown)
    (hburst : s'.mPacketsPerBurst = s.mPacketsPerBurst) : BatonsKept s s' where
  tallied := by
    intro ht
    have hpackets : s'.packets = s.packets := by rw [packets, hremoved, hsending, packets]
    exact ⟨by rw [hresend, hpackets]; exact ht.resend, by rw [hpackets]; exact ht.resendable⟩
  shutdown := fun hlive => hshutdown ▸ hlive
  released := by
    intro _ hall
    rwa [hremoved]
  burst := fun h1 => hburst ▸ h1
  batons := by rw [packets, hremoved, hsending, hbatons, packets]

variable (s)

theorem BatonsKept.refl : BatonsKept s s := .of_same rfl rfl rfl rfl rfl rfl

end Rules

section Regions

variable (s : RUDPChannelStream)

theorem batonsKept_setState (state : RUDPChannelStreamStates) (h : s.isShutdown = false) (hne : state ≠ .shutdown) :
    BatonsKept s (s.setState state) := by
  unfold setState
  split
  · exact .refl s
  · refine .of_same rfl rfl rfl rfl ?_ rfl
    rw [h]
    exact beq_eq_false_iff_ne.mpr hne

theorem batonsKept_cancel : BatonsKept s s.cancel := by
  cases h : s.isShutdown with
  | true =>
    rw [cancel, if_pos h]
    exact .refl s
  | false =>
    have hstate : s.mCurrentState ≠ .shutdown := by simpa [isShutdown] using h
    unfold cancel setState
    rw [h, if_neg Bool.false_ne_true, if_neg hstate]
    refine ⟨⟨fun ht => ⟨?_, ?_⟩, fun _ => h, fun hlive => ?_, id⟩, ?_⟩
    · simpa only [packets, List.append_nil] using ht.resend
    · simpa only [packets, List.append_nil] using ht.resendable
    · cases hlive
    · simp only [packets, List.append_nil]

theorem batonsKept_setError (errorCode : RUDPChannelStreamShutdownReasons) (reason : String) :
    BatonsKept s (s.setError errorCode reason) := by
  obtain ⟨e, r, h⟩ := setError_eq s errorCode reason
  rw [h]
  exact .of_same rfl rfl rfl rfl rfl rfl

theorem batonsKept_delegateGone : BatonsKept s s.delegateGone :=
  (batonsKept_setError s _ _).trans (batonsKept_cancel _)

theorem batonsKept_refuseAck : BatonsKept s s.refuseAck :=
  (batonsKept_setError s _ _).trans (batonsKept_cancel _)

theorem batonsKept_closeOnAllDataSent : BatonsKept s s.closeOnAllDataSent := by
  unfold closeOnAllDataSent
  split
  · exact .refl s
  · split
    · exact .refl s
    · split
      · exact .refl s
      · exact batonsKept_cancel s

theorem batonsKept_handleUnfreezing : BatonsKept s s.handleUnfreezing := by
  unfold handleUnfreezing
  split
  · exact .of_same rfl rfl rfl rfl rfl rfl
  · exact .refl s

theorem batonsKept_cancelForcedACK : BatonsKept s s.cancelForcedACK := by
  unfold cancelForcedACK
  split
  · exact .of_same rfl rfl rfl rfl rfl rfl
  · exact .refl s

theorem batonsKept_handleAckQuickExit : BatonsKept s s.handleAckQuickExit :=
  (batonsKept_handleUnfreezing s).trans (batonsKept_cancelForcedACK s.handleUnfreezing)

theorem batonsKept_keepTimer (required : Bool) (duration : Int) (timer : Option Timer) :
    BatonsKept s (s.keepTimer required duration timer).2 := by
  unfold keepTimer
  split <;> exact .of_same rfl rfl rfl rfl rfl rfl

theorem batonsKept_startTimers (plan : CleanupPlan) : BatonsKept s (s.startTimers plan) := by
  have hburst : ∀ u : RUDPChannelStream, BatonsKept u (u.setBurstTimer plan.burstTimerRequired) :=
    fun u => (batonsKept_keepTimer u _ _ _).trans (.of_same rfl rfl rfl rfl rfl rfl)
  have hensure : ∀ u : RUDPChannelStream, BatonsKept u (u.setEnsureTimer plan.ensureDataHasArrivedTimer) :=
    fun u => (batonsKept_keepTimer u _ _ _).trans (.of_same rfl rfl rfl rfl rfl rfl)
  have htimers := ((batonsKept_cancelForcedACK s).trans (hburst _)).trans (hensure _)
  unfold startTimers
  simp only
  split
  · exact htimers.trans (.of_same rfl rfl rfl rfl rfl rfl)
  · exact htimers

variable (delegateIsGone : Bool)

theorem batonsKept_sendNowCleanup : BatonsKept s (s.sendNowCleanup delegateIsGone) := by
  have htimers := (batonsKept_handleUnfreezing s).trans (batonsKept_startTimers _ s.handleUnfreezing.cleanupPlan)
  unfold sendNowCleanup finishCleanup
  simp only
  split
  · exact htimers.trans (batonsKept_delegateGone _)
  · refine (htimers.trans ?_).trans (batonsKept_closeOnAllDataSent _)
    exact (batonsKept_keepTimer _ _ _ _).trans (.of_same rfl rfl rfl rfl rfl rfl)

variable (n : Nat)

theorem batonsKept_modifyPacket (f : BufferedPacket → Counters → BufferedPacket × Counters)
    (hf : ∀ p c, Balanced [p] c [(f p c).1] (f p c).2)
    (hfound : (∀ p ∈ s.mRemovedPackets, p.Released) → ∀ p ∈ s.mRemovedPackets, p.mSequenceNumber ≠ n) :
    BatonsKept s (s.modifyPacket n f) := by
  refine .of_balanced ?_ rfl ?_ rfl
  · exact (balanced_onPacket s.mRemovedPackets s.toCounters n f hf).append
      (balanced_onPacket s.mSendingPackets _ n f hf)
  · intro hall
    have hsame : (onPacket n f s.mRemovedPackets s.toCounters).1 = s.mRemovedPackets :=
      onPacket_absent s.mRemovedPackets s.toCounters n f (hfound hall)
    change ∀ p ∈ (onPacket n f s.mRemovedPackets s.toCounters).1, p.Released
    rwa [hsame]

theorem findPacket_released {s : RUDPChannelStream} {n : Nat} (hall : ∀ p ∈ s.mRemovedPackets, p.Released)
    (hin : ∃ p ∈ s.mRemovedPackets, p.mSequenceNumber = n) : ∃ p, s.findPacket n = some p ∧ p.Released := by
  obtain ⟨p, hp, hn⟩ := hin
  have hsome : (s.mRemovedPackets.find? fun p => p.mSequenceNumber == n).isSome = true :=
    List.find?_isSome.mpr ⟨p, hp, beq_iff_eq.mpr hn⟩
  obtain ⟨q, hq⟩ := Option.isSome_iff_exists.mp hsome
  refine ⟨q, ?_, hall q (List.mem_of_find?_eq_some hq)⟩
  rw [findPacket, List.find?_append, hq]
  rfl

theorem batonsKept_leaveSendNow (l : SendNow) : BatonsKept s (s.leaveSendNow delegateIsGone l).2 := by
  unfold leaveSendNow
  simp only
  split
  · exact batonsKept_sendNowCleanup s delegateIsGone
  next last _ =>
    split
    next hbuffer =>
      refine (batonsKept_modifyPacket s last _ balanced_consumeBaton fun hall p hp hn => ?_).trans
        (batonsKept_sendNowCleanup _ delegateIsGone)
      obtain ⟨q, hfind, hq⟩ := findPacket_released hall ⟨p, hp, hn⟩
      rw [hfind, Option.bind_some, hq.packet] at hbuffer
      cases hbuffer
    · exact batonsKept_sendNowCleanup s delegateIsGone

theorem batonsKept_clearResend (l : SendNow) : BatonsKept s (s.clearResend l).2 := by
  unfold clearResend
  split
  · exact .refl s
  next n _ =>
    split
    next hflag =>
      have hforce : BatonsKept s { s with mForceACKNextTimePossible := true } := .of_same rfl rfl rfl rfl rfl rfl
      refine hforce.trans (batonsKept_modifyPacket _ n _ balanced_doNotResend fun hall p hp hn => ?_)
      obtain ⟨q, hfind, hq⟩ := findPacket_released hall ⟨p, hp, hn⟩
      rw [show s.findPacket n = some q from hfind, Option.map_some, Option.getD_some, hq.resend] at hflag
      cases hflag
    · exact .refl s

variable (now : Int)

theorem batonsKept_pushPacket (packet : RUDPPacket) (bytes : List UInt8) :
    BatonsKept s (s.pushPacket now (s.bufferPacket now packet bytes)) := by
  have hone : flagged [s.bufferPacket now packet bytes] = 0 ∧ holding [s.bufferPacket now packet bytes] = 0 :=
    ⟨rfl, rfl⟩
  have hpackets : (s.pushPacket now (s.bufferPacket now packet bytes)).packets
      = s.packets ++ [s.bufferPacket now packet bytes] := (List.append_assoc _ _ _).symm
  refine ⟨⟨fun ht => ⟨?_, fun q hq => ?_⟩, id, fun _ => id, id⟩, ?_⟩
  · rw [hpackets, flagged_append, hone.1]
    exact ht.resend
  · rw [hpackets] at hq
    rcases List.mem_append.mp hq with hq | hq
    · exact ht.resendable q hq
    · rw [List.mem_singleton.mp hq]
      exact fun _ => rfl
  · rw [hpackets, holding_append, hone.2]
    rfl

theorem batonsKept_createPacket (parity : Bool) (l : SendNow) :
    BatonsKept s (s.createPacket now parity l).2 := by
  unfold createPacket
  split
  · exact .refl s
  · split
    · exact .refl s
    · simp only
      split
      · exact .of_same rfl rfl rfl rfl rfl rfl
      · split
        · exact .of_same rfl rfl rfl rfl rfl rfl
        · refine BatonsKept.trans ?_ (batonsKept_pushPacket _ now _ _)
          exact .of_same rfl rfl rfl rfl rfl rfl

theorem batonsKept_proceed (input : SendNowInput) (l : SendNow) : BatonsKept s (s.proceed input l).2 := by
  unfold proceed
  split
  · exact .refl s
  · exact .refl s
  · exact batonsKept_createPacket s _ _ l
  · split
    · exact .refl s
    · exact .refl s
    · exact batonsKept_delegateGone s
  · exact batonsKept_clearResend s l
  · exact batonsKept_leaveSendNow s _ l
  · exact .of_same rfl rfl rfl rfl rfl rfl

theorem batonsKept_shutdownDirection (state : Shutdown) : BatonsKept s (s.shutdownDirection state) := by
  obtain ⟨c, f, hc, h⟩ := shutdownDirection_eq s state
  rw [h]
  exact .of_same rfl rfl rfl rfl hc rfl

theorem batonsKept_shutdown (onlyOnceAllDataSent : Bool) : BatonsKept s (s.shutdown onlyOnceAllDataSent) := by
  unfold shutdown
  split
  · exact .refl s
  next hlive =>
    split
    · exact batonsKept_cancel s
    · obtain ⟨c, f, hc, h⟩ := shutdownDirection_eq s ⟨false, true⟩
      have hdirection := batonsKept_shutdownDirection s ⟨false, true⟩
      rw [h] at hdirection ⊢
      refine (hdirection.trans (batonsKept_setState _ _ ?_ (by decide))).trans (batonsKept_closeOnAllDataSent _)
      exact hc.trans (Bool.eq_false_iff.mpr hlive)

theorem balanced_acked (a : Ack) :
    Balanced s.packets s.toCounters (s.toSendWindow.acked a).packets (s.toSendWindow.acked a).toCounters := by
  have hclean : Balanced s.packets s.toCounters (s.toSendWindow.clean a).packets (s.toSendWindow.clean a).toCounters := by
    rw [packets, packets, clean, List.append_assoc]
    exact (balanced_cleanAcked s.mSendingPackets s.toCounters a.gsnfr).after s.mRemovedPackets
  unfold acked
  split
  · exact hclean
  · have hwalk := balanced_walkVector (s.toSendWindow.clean a).mSendingPackets (a.gsnfr + 1)
      (vectorDecoderStart a.vector a.gsnr a.gsnfr) ⟨(s.toSendWindow.clean a).toCounters, a.xpFlag, false, false, false⟩
      (vectorDecoderStart_inRun _ _ _)
    exact hclean.trans ((hwalk.trans (balanced_onPacket _ _ a.gsnr _ balanced_flagAsReceived)).after _)

theorem batonsKept_acked (a : Ack) (p : Pacing) (hburst : p.mPacketsPerBurst = s.mPacketsPerBurst) :
    BatonsKept s { s with toSendWindow := s.toSendWindow.acked a, toPacing := p } := by
  refine .of_balanced (balanced_acked s a) rfl (fun hall q hq => ?_) hburst
  have hremoved : (s.toSendWindow.acked a).mRemovedPackets = (s.toSendWindow.clean a).mRemovedPackets := by
    unfold acked
    split <;> rfl
  rw [show q ∈ _ ↔ q ∈ (s.toSendWindow.clean a).mRemovedPackets from iff_of_eq (congrArg (q ∈ ·) hremoved)] at hq
  rcases List.mem_append.mp hq with hq | hq
  · exact hall q hq
  · exact released_cleanAcked s.mSendingPackets s.toCounters a.gsnfr q hq

theorem batonsKept_handleForcedAck (id : Nat) : BatonsKept s (s.handleForcedAck id) := by
  unfold handleForcedAck
  simp only
  split
  · refine .of_balanced ?_ rfl (fun h => h) rfl
    exact (balanced_flagForced s.mSendingPackets s.toCounters _).after s.mRemovedPackets
  · exact .of_same rfl rfl rfl rfl rfl rfl

theorem batonsKept_endWait : BatonsKept s (s.endWait n) := by
  unfold endWait
  split
  · exact .of_same rfl rfl rfl rfl rfl rfl
  · exact .refl s

theorem batonsKept_deliverPacket (p : BufferedPacket) (rest : List BufferedPacket) :
    BatonsKept s (s.deliverPacket p rest) := by
  unfold deliverPacket putReceived
  simp only
  split
  · split
    · exact .of_same rfl rfl rfl rfl rfl rfl
    · split <;> exact .of_same rfl rfl rfl rfl rfl rfl
  · exact .of_same rfl rfl rfl rfl rfl rfl

theorem batonsKept_deliverLoop (ps : List BufferedPacket) : BatonsKept s (deliverLoop ps s) := by
  induction ps generalizing s with
  | nil => exact .refl s
  | cons p ps ih =>
    rw [deliverLoop]
    split
    · exact .refl s
    · exact (batonsKept_deliverPacket s p ps).trans (ih _)

theorem batonsKept_handleData (packet : RUDPPacket) (n : Nat) : BatonsKept s (s.handleData now packet n).2 := by
  unfold handleData
  split
  · exact .of_same rfl rfl rfl rfl rfl rfl
  · split
    · exact .refl s
    · unfold acceptPacket
      refine BatonsKept.trans ?_ (batonsKept_deliverLoop _ _)
      simp only
      split <;> exact .of_same rfl rfl rfl rfl rfl rfl

end Regions

section Arrival

variable (onLoss : Int → RUDPChannelStream → RUDPChannelStream) (s : RUDPChannelStream) (now : Int)

theorem batonsKept_paced {s u : RUDPChannelStream} (h : RUDPChannelStream.Paced s u) : BatonsKept s u := by
  obtain ⟨p, rfl, hburst⟩ := h
  exact .of_same rfl rfl rfl rfl rfl hburst

theorem keptAround_handleAckWith (a : Ack) : KeptAround onLoss s (s.handleAckWith onLoss now a).2 := by
  rcases handleAckWith_cases onLoss s now a with
    ⟨-, h⟩ | ⟨-, u, hpaced, h⟩ | ⟨-, u, p, hpaced, hburst, h⟩
  · rw [h]
    exact .inl (batonsKept_paced (paced_handleAckQuickExit s))
  · rw [h]
    exact .inl (batonsKept_paced hpaced)
  · rw [h, react]
    have hsame : u.mPacketsPerBurst = s.mPacketsPerBurst := by
      obtain ⟨q, rfl, hq⟩ := hpaced
      exact hq
    have hacked := (batonsKept_paced hpaced).trans (batonsKept_acked u a p (hburst.trans hsame.symm))
    have hreact : KeptAround onLoss s (if u.lossFound a then
        onLoss now { u with toSendWindow := u.acked a, toPacing := p }
        else { u with toSendWindow := u.acked a, toPacing := p }) := by
      split
      · exact .inr ⟨now, _, hacked, .refl _⟩
      · exact .inl hacked
    simp only
    split
    · exact hreact
    · exact hreact.trans (batonsKept_handleAckQuickExit _)

theorem keptAround_handlePacketWith (packet : RUDPPacket) (ecnMarked : Bool) :
    KeptAround onLoss s (s.handlePacketWith onLoss now packet ecnMarked).2 := by
  unfold handlePacketWith
  split
  · exact .inl (.refl s)
  split
  · exact .inl (.refl s)
  have hecn : BatonsKept s { s with mECNReceived := s.mECNReceived || ecnMarked } := .of_same rfl rfl rfl rfl rfl rfl
  simp only
  generalize packet.getSequenceNumber s.mGSNR = n at *
  have hwait := hecn.trans (batonsKept_endWait _ n)
  generalize ({ s with mECNReceived := s.mECNReceived || ecnMarked } : RUDPChannelStream).endWait n = u at *
  split
  · exact .inl (hwait.trans (.of_same rfl rfl rfl rfl rfl rfl))
  split
  · exact .inl hwait
  have hack := hwait.around (keptAround_handleAckWith onLoss u now (u.packetAck packet n))
  split
  next heq =>
    rw [heq] at hack
    exact hack.trans (batonsKept_refuseAck _)
  next heq =>
    rw [heq] at hack
    exact hack.trans (batonsKept_handleData _ now packet n)

theorem keptAround_handleExternalAckWith (id : Nat) (a : Ack) :
    KeptAround onLoss s (s.handleExternalAckWith onLoss now a id) := by
  unfold handleExternalAckWith
  split
  · exact .inl (.refl s)
  have hwait := (batonsKept_cancelForcedACK s).trans (batonsKept_endWait s.cancelForcedACK a.nextSequenceNumber)
  have hack := hwait.around (keptAround_handleAckWith onLoss _ now a)
  unfold cancelForcedACK at hack
  dsimp only
  split
  next heq =>
    rw [heq] at hack
    exact hack.trans (batonsKept_refuseAck _)
  next heq =>
    rw [heq] at hack
    exact hack.trans (batonsKept_handleForcedAck _ id)

/-- What a call of its own does, the timer apart. -/
theorem batonsKept_own (t : RUDPChannelEndpoint) (event : OwnEvent) (h : ∀ timer coin, event ≠ .onTimer timer coin) :
    BatonsKept t.stream (t.own event).stream := by
  unfold RUDPChannelEndpoint.own
  cases event with
  | sendNow =>
    simp only
    split
    next hsend =>
      unfold sendNow at hsend
      split at hsend
      · cases hsend
        exact .of_same rfl rfl rfl rfl rfl rfl
      · cases hsend
    · exact .refl _
  | proceed input =>
    simp only
    split
    · exact .refl _
    · exact batonsKept_proceed _ input _
  | onTimer timer coin => exact absurd rfl (h timer coin)
  | notifyExternalACKSent => exact .of_same rfl rfl rfl rfl rfl rfl
  | notifySocketWriteReady =>
    change BatonsKept t.stream t.stream.notifySocketWriteReady
    unfold notifySocketWriteReady
    split <;> exact .of_same rfl rfl rfl rfl rfl rfl
  | holdSendingUntilReceiveSequenceNumber n => exact .of_same rfl rfl rfl rfl rfl rfl
  | delegateGone => exact batonsKept_delegateGone t.stream
  | setStreams receiveStream sendStream => exact .of_same rfl rfl rfl rfl rfl rfl
  | shutdown onlyOnceAllDataSent => exact batonsKept_shutdown t.stream onlyOnceAllDataSent
  | shutdownDirection state => exact batonsKept_shutdownDirection t.stream state
  | write data => exact .of_same rfl rfl rfl rfl rfl rfl
  | take =>
    simp only
    split
    · exact .refl _
    · split
      · exact .refl _
      · exact .of_same rfl rfl rfl rfl rfl rfl

theorem onTimer_batons (timer : Nat) (coin : Bool) :
    CountersKept s (s.onTimer timer coin) ∧ (s.onTimer timer coin).mSendingPackets = s.mSendingPackets ∧
      ((s.onTimer timer coin).mAvailableBurstBatons = s.mAvailableBurstBatons ∨
        (s.onTimer timer coin).mAvailableBurstBatons = s.mAvailableBurstBatons + 1) := by
  have hsame : ∀ u : RUDPChannelStream, BatonsKept s u → u.mSendingPackets = s.mSendingPackets →
      u.mAvailableBurstBatons = s.mAvailableBurstBatons → CountersKept s u ∧ u.mSendingPackets = s.mSendingPackets ∧
        (u.mAvailableBurstBatons = s.mAvailableBurstBatons ∨ u.mAvailableBurstBatons = s.mAvailableBurstBatons + 1) :=
    fun u hu hsending hbatons => ⟨hu.toCountersKept, hsending, .inl hbatons⟩
  unfold onTimer
  simp only
  split
  · exact hsame s (.refl s) rfl rfl
  split
  · exact hsame _ (.of_same rfl rfl rfl rfl rfl rfl) rfl rfl
  split
  · split
    · exact ⟨⟨fun ht => ⟨ht.resend, ht.resendable⟩, id, fun _ => id, id⟩, rfl, .inr rfl⟩
    · exact ⟨⟨fun ht => ht, id, fun _ => id, fun _ => Nat.le_add_left 1 _⟩, rfl, .inl rfl⟩
  · exact hsame s (.refl s) rfl rfl

/-- A loss takes at most one baton away, and never the last one. -/
theorem handlePacketLoss_batons :
    CountersKept s (s.handlePacketLoss now) ∧
      ((s.handlePacketLoss now).batons = s.batons ∨
        (s.handlePacketLoss now).batons + 1 = s.batons ∧ 2 ≤ s.batons) ∧
      (s.handlePacketLoss now).mRemovedPackets = s.mRemovedPackets := by
  unfold handlePacketLoss
  simp only
  split
  · exact ⟨⟨fun ht => ht, id, fun _ => id, fun _ => Nat.le_max_left 1 _⟩, .inl rfl, rfl⟩
  split
  next hbatons =>
    refine ⟨⟨fun ht => ⟨ht.resend, ht.resendable⟩, id, fun _ => id, id⟩, .inr ⟨?_, ?_⟩, rfl⟩
    · simp only [SendWindow.batons]
      omega
    · simp only [SendWindow.batons]
      omega
  next hbatons =>
    have hone : (if s.mAvailableBurstBatons = 0 then 1 else 0) + s.mAvailableBurstBatons = 1 := by
      split <;> omega
    generalize (if s.mAvailableBurstBatons = 0 then 1 else 0) = which at *
    obtain ⟨hflagged, hcounters, hholding, hresendable⟩ :=
      destroyBaton_counts s.mSendingPackets s.toCounters which
    refine ⟨⟨fun ht => ⟨?_, fun p hp => ?_⟩, id, fun _ => id, id⟩, ?_, rfl⟩
    · simp only [packets, flagged_append, hflagged, hcounters]
      rw [← flagged_append]
      exact ht.resend
    · rcases List.mem_append.mp hp with hp | hp
      · exact ht.resendable p (List.mem_append_left _ hp)
      · exact hresendable (fun q hq => ht.resendable q (List.mem_append_right _ hq)) p hp
    · simp only [SendWindow.batons, hcounters]
      split at hholding
      · right
        omega
      · left
        omega

end Arrival

section Runs

variable {s s' : RUDPChannelStream}

/-- What is counted is right, and before the end there is a baton. -/
structure Counted (s : RUDPChannelStream) : Prop where
  tallied : s.Tallied
  released : s.isShutdown = false → ∀ p ∈ s.mRemovedPackets, p.Released
  batons : s.isShutdown = false → 1 ≤ s.batons
  burst : 1 ≤ s.mPacketsPerBurst

theorem BatonsKept.same (h : BatonsKept s s') (hreleased : s.isShutdown = false → ∀ p ∈ s.mRemovedPackets, p.Released)
    (hlive : s'.isShutdown = false) : s'.batons = s.batons := by
  have hall := hreleased (h.shutdown hlive)
  have hkept := h.batons
  rw [holding_packets hall, holding_packets (h.released hlive hall)] at hkept
  exact hkept

theorem Counted.kept (h : Counted s) (hkept : BatonsKept s s') : Counted s' where
  tallied := hkept.tallied h.tallied
  released := fun hlive => hkept.released hlive (h.released (hkept.shutdown hlive))
  batons := by
    intro hlive
    rw [hkept.same h.released hlive]
    exact h.batons (hkept.shutdown hlive)
  burst := hkept.burst h.burst

theorem Counted.lost (h : Counted s) (now : Int) : Counted (s.handlePacketLoss now) := by
  obtain ⟨hkept, hbatons, -⟩ := handlePacketLoss_batons s now
  refine ⟨hkept.tallied h.tallied, fun hlive => hkept.released hlive (h.released (hkept.shutdown hlive)),
    fun hlive => ?_, hkept.burst h.burst⟩
  have hone := h.batons (hkept.shutdown hlive)
  rcases hbatons with hsame | ⟨hless, htwo⟩ <;> omega

theorem Counted.timer (h : Counted s) (timer : Nat) (coin : Bool) : Counted (s.onTimer timer coin) := by
  obtain ⟨hkept, hsending, hbatons⟩ := onTimer_batons s timer coin
  refine ⟨hkept.tallied h.tallied, fun hlive => hkept.released hlive (h.released (hkept.shutdown hlive)),
    fun hlive => ?_, hkept.burst h.burst⟩
  have hone := h.batons (hkept.shutdown hlive)
  simp only [SendWindow.batons, hsending] at hone ⊢
  omega

/-- A step is the timer, it keeps the batons, or something came from the peer and they move in the
reaction to loss alone. -/
theorem stepWith_cases (onLoss : Int → RUDPChannelStream → RUDPChannelStream) (t : RUDPChannelEndpoint)
    (event : RUDPChannelEvent) :
    (∃ timer coin, event = .own (.onTimer timer coin)) ∨ BatonsKept t.stream (t.stepWith onLoss event).stream ∨
      (∀ e, event ≠ .own e) ∧ ∃ now u, BatonsKept t.stream u ∧
        BatonsKept (onLoss now u) (t.stepWith onLoss event).stream := by
  cases event with
  | handlePacket now packet ecnMarked =>
    exact .inr ((keptAround_handlePacketWith onLoss t.stream now packet ecnMarked).imp_right
      fun h => ⟨fun _ heq => (by cases heq), h⟩)
  | handleExternalAck now id ack =>
    exact .inr ((keptAround_handleExternalAckWith onLoss t.stream now id ack).imp_right
      fun h => ⟨fun _ heq => (by cases heq), h⟩)
  | own event =>
    by_cases htimer : ∃ timer coin, event = .onTimer timer coin
    · obtain ⟨timer, coin, rfl⟩ := htimer
      exact .inl ⟨timer, coin, rfl⟩
    · exact .inr (.inl (batonsKept_own t event fun timer coin heq => htimer ⟨timer, coin, heq⟩))

theorem Counted.step {t : RUDPChannelEndpoint} (h : Counted t.stream) (event : RUDPChannelEvent) :
    Counted (t.step event).stream := by
  rw [← RUDPChannelEndpoint.stepWith_handlePacketLoss]
  rcases stepWith_cases handlePacketLoss t event with
    ⟨timer, coin, rfl⟩ | hkept | ⟨-, now, u, hu, hr⟩
  · exact h.timer timer coin
  · exact h.kept hkept
  · exact ((h.kept hu).lost now).kept hr

variable (now : Int) (nextSequenceNumber expecting : Nat) (sendingChannelNumber receivingChannelNumber : UInt16)
  (minimumRTT : Nat)

theorem create_counted : Counted
    (create now nextSequenceNumber expecting sendingChannelNumber receivingChannelNumber minimumRTT) where
  tallied := ⟨rfl, fun p hp => nomatch hp⟩
  released := fun _ p hp => nomatch hp
  batons := fun _ => Nat.le_refl 1
  burst := by
    change 1 ≤ 3
    decide

theorem run_counted (events : List RUDPChannelEvent) :
    Counted (run RUDPChannelEndpoint.step (.create (.create now nextSequenceNumber expecting
      sendingChannelNumber receivingChannelNumber minimumRTT)) events).stream :=
  run_invariant_always (fun t : RUDPChannelEndpoint => Counted t.stream) (fun _ event h => h.step event) _ events
    (create_counted now nextSequenceNumber expecting sendingChannelNumber receivingChannelNumber minimumRTT)

theorem handleAck_fault (h : s.Tallied) (a : Ack) : (s.handleAck now a).2.fault = s.fault := by
  rw [← handleAckWith_handlePacketLoss]
  rcases handleAckWith_cases handlePacketLoss s now a with
    ⟨-, heq⟩ | ⟨-, u, ⟨q, rfl, -⟩, heq⟩ | ⟨-, u, p, ⟨q, rfl, -⟩, -, heq⟩
  · rw [heq]
    obtain ⟨p, hp, -⟩ := paced_handleAckQuickExit s
    simp only [hp]
  · rw [heq]
  · rw [heq, react]
    have hacked : (s.toSendWindow.acked a).fault = s.fault := ((balanced_acked s a).resend 0 h.resend).2
    have hloss : ∀ u : RUDPChannelStream, (u.handlePacketLoss now).fault = u.fault := by
      intro u
      unfold handlePacketLoss
      simp only
      split
      · rfl
      · split
        · rfl
        · exact congrArg Counters.fault (destroyBaton_counts u.mSendingPackets u.toCounters _).2.1
    have hexit : ∀ u : RUDPChannelStream, u.handleAckQuickExit.fault = u.fault := by
      intro u
      obtain ⟨p, hp, -⟩ := paced_handleAckQuickExit u
      rw [hp]
    simp only
    split
    · split
      · exact (hloss _).trans hacked
      · exact hacked
    · rw [hexit]
      split
      · exact (hloss _).trans hacked
      · exact hacked

theorem clearResend_fault (h : s.Tallied) (l : SendNow) : (s.clearResend l).2.fault = s.fault := by
  unfold clearResend
  split
  · rfl
  next n _ =>
    split
    · have hbalanced := (balanced_onPacket s.mRemovedPackets s.toCounters n _ balanced_doNotResend).append
        (balanced_onPacket s.mSendingPackets _ n _ balanced_doNotResend)
      exact (hbalanced.resend 0 h.resend).2
    · rfl

end Runs

namespace RUDPChannelEndpoint

/-- A region of a `sendNow` whose packets all go out. -/
def region (parity : Bool) : RUDPChannelEvent := .own (.proceed ⟨0, parity, .sent, false⟩)

/-- A byte is written, and a burst makes a packet of it. -/
def newPacket (parity : Bool) : List RUDPChannelEvent := .own (.write [1]) :: List.replicate 4 (region parity)

/-- A burst of new packets with these parity bits. -/
def newBurst (parities : List Bool) : List RUDPChannelEvent :=
  .own .sendNow :: region false :: parities.flatMap newPacket

/-- A burst of three packets, and an acknowledgement of the last two. -/
def lossyBurst : List RUDPChannelEvent :=
  .own (.setStreams .create .create) :: newBurst [true, false, false] ++ [region false, region false,
    .handleExternalAck 0 0 ⟨1, 3, 0, [193, 1], false, false, false, false, false⟩]

variable (now : Int) (nextSequenceNumber expecting : Nat) (sendingChannelNumber receivingChannelNumber : UInt16)
  (minimumRTT : Nat) (events : List RUDPChannelEvent)

/-- Until the stream is ended, the counter is the number of packets to be resent, and each of them
has its buffer. At any time, the packets for which the counter is lowered are counted: in no
acknowledgement and after no packet that went out does the check of the counter fail. -/
theorem resend_counter_exact :
    let t : RUDPChannelEndpoint := run step (create (.create now nextSequenceNumber expecting sendingChannelNumber
      receivingChannelNumber minimumRTT)) events
    (t.stream.isShutdown = false →
      t.stream.mTotalPacketsToResend = (t.stream.mSendingPackets.filter (·.mFlagForResendingInNextBurst)).length ∧
      ∀ p ∈ t.stream.mSendingPackets, p.mFlagForResendingInNextBurst = true → p.mPacket.isSome = true) ∧
    (∀ (u : RUDPChannelStream) (time : Int) (a : Ack), u.toSendWindow = { t.stream.toSendWindow with fault := false } →
      (u.handleAck time a).2.fault = false) ∧
    ∀ (u : RUDPChannelStream) (l : SendNow), u.toSendWindow = { t.stream.toSendWindow with fault := false } →
      (u.clearResend l).2.fault = false := by
  intro t
  have hcounted : Counted t.stream := run_counted now nextSequenceNumber expecting sendingChannelNumber
    receivingChannelNumber minimumRTT events
  have htallied : ∀ u : RUDPChannelStream, u.toSendWindow = { t.stream.toSendWindow with fault := false } →
      u.Tallied ∧ u.fault = false := by
    intro u hu
    rw [hu]
    exact ⟨⟨hcounted.tallied.resend, hcounted.tallied.resendable⟩, rfl⟩
  refine ⟨fun hlive => ⟨?_, fun p hp => ?_⟩, fun u time a hu => ?_, fun u l hu => ?_⟩
  · rw [hcounted.tallied.resend, flagged_packets (hcounted.released hlive)]
    exact List.countP_eq_length_filter
  · exact hcounted.tallied.resendable p (List.mem_append_right _ hp)
  · obtain ⟨hu, hfault⟩ := htallied u hu
    rw [handleAck_fault time hu a, hfault]
  · obtain ⟨hu, hfault⟩ := htallied u hu
    rw [clearResend_fault hu l, hfault]

/-- After a loss one packet is to be resent, and counted. -/
theorem resend_counter_exact_loss :
    (run step (create (.create 0 1 1 7 7 0)) lossyBurst).stream.mTotalPacketsToResend = 1 ∧
      ((run step (create (.create 0 1 1 7 7 0)) lossyBurst).stream.mSendingPackets.filter
        (·.mFlagForResendingInNextBurst)).length = 1 := by
  obtain ⟨hcount, -⟩ := (resend_counter_exact 0 1 1 7 7 0 lossyBurst).1 (by decide +kernel)
  have hone : (run step (create (.create 0 1 1 7 7 0)) lossyBurst).stream.mTotalPacketsToResend = 1 := by
    decide +kernel
  exact ⟨hone, hcount ▸ hone⟩

/-- Until the stream is ended there is a baton, available or held by a packet of the map, and a burst
has room for a packet. A step that does not end the stream keeps the batons, but that the timer may
add one and a loss may destroy one: with no reaction to loss only the timer changes them. The time
between bursts is never divided by zero. -/
theorem batons_conserved :
    let t : RUDPChannelEndpoint := run step (create (.create now nextSequenceNumber expecting sendingChannelNumber
      receivingChannelNumber minimumRTT)) events
    (t.stream.isShutdown = false → 1 ≤ t.stream.batons ∧ 1 ≤ t.stream.mPacketsPerBurst) ∧
    (∀ event, (t.step event).stream.isShutdown = false →
      (t.step event).stream.batons = t.stream.batons ∨
      (∃ timer coin, event = .own (.onTimer timer coin)) ∧ (t.step event).stream.batons = t.stream.batons + 1 ∨
      (∀ e, event ≠ .own e) ∧ (t.step event).stream.batons + 1 = t.stream.batons) ∧
    (∀ event, (t.stepWith (fun _ s => s) event).stream.isShutdown = false →
      (t.stepWith (fun _ s => s) event).stream.batons = t.stream.batons ∨
      (∃ timer coin, event = .own (.onTimer timer coin)) ∧
        (t.stepWith (fun _ s => s) event).stream.batons = t.stream.batons + 1) ∧
    ∀ u : RUDPChannelStream, u.handleUnfreezing.cleanupPlan.burstTimerRequired = true →
      u.handleUnfreezing.cancelForcedACK.mAvailableBurstBatons ≠ 0 := by
  intro t
  have hcounted : Counted t.stream := run_counted now nextSequenceNumber expecting sendingChannelNumber
    receivingChannelNumber minimumRTT events
  have htimer : ∀ timer coin, (t.stream.onTimer timer coin).batons = t.stream.batons ∨
      (t.stream.onTimer timer coin).batons = t.stream.batons + 1 := by
    intro timer coin
    obtain ⟨-, hsending, hbatons⟩ := onTimer_batons t.stream timer coin
    simp only [SendWindow.batons, hsending]
    omega
  refine ⟨fun hlive => ⟨hcounted.batons hlive, hcounted.burst⟩, fun event hlive => ?_, fun event hlive => ?_,
    fun u hrequired => ?_⟩
  · rw [← stepWith_handlePacketLoss] at hlive ⊢
    rcases stepWith_cases handlePacketLoss t event with
      ⟨timer, coin, rfl⟩ | hkept | ⟨harrival, time, u, hu, hr⟩
    · exact (htimer timer coin).imp_right fun h => .inl ⟨⟨timer, coin, rfl⟩, h⟩
    · exact .inl (hkept.same hcounted.released hlive)
    · obtain ⟨hkept, hbatons, -⟩ := handlePacketLoss_batons u time
      have hlost := (hcounted.kept hu).lost time
      have hsame := hu.same hcounted.released (hkept.shutdown (hr.shutdown hlive))
      rw [hr.same hlost.released hlive, ← hsame]
      exact hbatons.imp_right fun h => .inr ⟨harrival, h.1⟩
  · rcases stepWith_cases (fun _ s => s) t event with ⟨timer, coin, rfl⟩ | hkept | ⟨-, time, u, hu, hr⟩
    · exact (htimer timer coin).imp_right fun h => ⟨⟨timer, coin, rfl⟩, h⟩
    · exact .inl (hkept.same hcounted.released hlive)
    · exact .inl ((hu.trans hr).same hcounted.released hlive)
  · have hbatons : u.handleUnfreezing.mAvailableBurstBatons ≠ 0 := by
      simp only [cleanupPlan, Bool.and_eq_true, bne_iff_ne] at hrequired
      exact hrequired.1
    unfold cancelForcedACK
    split <;> exact hbatons

end RUDPChannelEndpoint

end OpenPeer
