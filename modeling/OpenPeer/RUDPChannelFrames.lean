import OpenPeer.RUDPChannelSend

/-!
# What a channel stream keeps

Most of what a channel stream does touches neither the window of packets received
nor what the packets sent are; it moves flags, batons and timers, or it ends the
stream. This is one relation between the stream before and the stream after, and
every such method keeps it. The packets that are let go of are named, so that the
same relation speaks of an acknowledgement.
-/
namespace OpenPeer

open RUDPChannelStream

/-- The packets after are those before with other flags; a buffer that is gone was gone before or
its packet is one of those acknowledged. -/
def Relabels (acked : Nat → Prop) (ps qs : List BufferedPacket) : Prop :=
  List.Forall₂ (fun p q => q.toPacketRecord = p.toPacketRecord ∧
    (q.mPacket = p.mPacket ∨ q.mPacket = none ∧ acked p.mSequenceNumber)) ps qs

namespace Relabels

variable {acked : Nat → Prop} {ps qs : List BufferedPacket}

theorem refl (acked : Nat → Prop) (ps : List BufferedPacket) : Relabels acked ps ps :=
  List.forall₂_same.mpr fun _ _ => ⟨rfl, .inl rfl⟩

theorem trans {rs : List BufferedPacket} (h : Relabels acked ps qs) (h' : Relabels acked qs rs) :
    Relabels acked ps rs := by
  induction h generalizing rs with
  | nil =>
    cases h'
    exact .nil
  | cons hpq hps ih =>
    cases h' with
    | cons hqr hqs =>
      refine .cons ⟨hqr.1.trans hpq.1, ?_⟩ (ih hqs)
      rcases hqr.2 with hsame | ⟨hnone, hacked⟩
      · rw [hsame]
        exact hpq.2
      · rw [show _ = _ from congrArg PacketRecord.mSequenceNumber hpq.1] at hacked
        exact .inr ⟨hnone, hacked⟩

theorem records (h : Relabels acked ps qs) :
    qs.map BufferedPacket.toPacketRecord = ps.map BufferedPacket.toPacketRecord := by
  induction h with
  | nil => rfl
  | cons hpq _ ih => rw [List.map_cons, List.map_cons, hpq.1, ih]

/-- A packet after without its buffer comes from one without it, or is acknowledged. -/
theorem released (h : Relabels acked ps qs) {q : BufferedPacket} (hq : q ∈ qs) (hnone : q.mPacket = none) :
    (∃ p ∈ ps, p.mSequenceNumber = q.mSequenceNumber ∧ p.mPacket = none) ∨ acked q.mSequenceNumber := by
  induction h with
  | nil => cases hq
  | @cons p q' ps qs hpq _ ih =>
    rcases List.mem_cons.mp hq with rfl | hq
    · have hnumber := congrArg PacketRecord.mSequenceNumber hpq.1
      rcases hpq.2 with hsame | ⟨-, hacked⟩
      · exact .inl ⟨p, List.mem_cons_self, hnumber.symm, hsame ▸ hnone⟩
      · exact .inr (by rw [hnumber]; exact hacked)
    · rcases ih hq with ⟨p', hp', hsame⟩ | hacked
      · exact .inl ⟨p', List.mem_cons_of_mem _ hp', hsame⟩
      · exact .inr hacked

/-- A buffer after is the buffer of the same packet before. -/
theorem buffered (h : Relabels acked ps qs) {q : BufferedPacket} (hq : q ∈ qs) {bytes : List UInt8}
    (hsome : q.mPacket = some bytes) : ∃ p ∈ ps, p.toPacketRecord = q.toPacketRecord ∧ p.mPacket = some bytes := by
  induction h with
  | nil => cases hq
  | @cons p q' ps qs hpq _ ih =>
    rcases List.mem_cons.mp hq with rfl | hq
    · rcases hpq.2 with hsame | ⟨hnone, -⟩
      · exact ⟨p, List.mem_cons_self, hpq.1.symm, hsame ▸ hsome⟩
      · rw [hnone] at hsome
        cases hsome
    · obtain ⟨p', hp', hsame⟩ := ih hq
      exact ⟨p', List.mem_cons_of_mem _ hp', hsame⟩

end Relabels

section Packets

variable (p : BufferedPacket) (c : Counters)

theorem doNotResend_same : (p.doNotResend c).1.toPacketRecord = p.toPacketRecord ∧
    (p.doNotResend c).1.mPacket = p.mPacket := by
  unfold BufferedPacket.doNotResend
  split
  · exact ⟨rfl, rfl⟩
  · split <;> exact ⟨rfl, rfl⟩

theorem flagForResending_same : (p.flagForResending c).1.toPacketRecord = p.toPacketRecord ∧
    (p.flagForResending c).1.mPacket = p.mPacket := by
  unfold BufferedPacket.flagForResending
  split
  · exact ⟨rfl, rfl⟩
  · split <;> exact ⟨rfl, rfl⟩

theorem consumeBaton_same : (p.consumeBaton c).1.toPacketRecord = p.toPacketRecord ∧
    (p.consumeBaton c).1.mPacket = p.mPacket := by
  unfold BufferedPacket.consumeBaton
  split
  · exact ⟨rfl, rfl⟩
  · split <;> exact ⟨rfl, rfl⟩

theorem releaseBaton_same : (p.releaseBaton c).1.toPacketRecord = p.toPacketRecord ∧
    (p.releaseBaton c).1.mPacket = p.mPacket := by
  unfold BufferedPacket.releaseBaton
  split <;> exact ⟨rfl, rfl⟩

theorem flagAsReceived_record :
    (p.flagAsReceivedByRemoteParty c).1.toPacketRecord = p.toPacketRecord :=
  (releaseBaton_same _ _).1.trans (doNotResend_same p c).1

variable (acked : Nat → Prop)

theorem onPacket_relabels (n : Nat) (f : BufferedPacket → Counters → BufferedPacket × Counters)
    (ps : List BufferedPacket)
    (hf : ∀ p c, (f p c).1.toPacketRecord = p.toPacketRecord ∧ ((f p c).1.mPacket = p.mPacket ∨ (f p c).1.mPacket = none ∧ acked n)) :
    Relabels acked ps (onPacket n f ps c).1 := by
  induction ps generalizing c with
  | nil => exact .nil
  | cons p ps ih =>
    rw [onPacket]
    split
    next heq => exact .cons ⟨(hf p c).1, by rw [heq]; exact (hf p c).2⟩ (Relabels.refl acked ps)
    · exact .cons ⟨rfl, .inl rfl⟩ (ih c)

theorem destroyBaton_relabels (which : Nat) (ps : List BufferedPacket) :
    Relabels acked ps (destroyBaton which ps c).1 := by
  induction ps generalizing which c with
  | nil =>
    cases which <;> exact .nil
  | cons p ps ih =>
    cases which with
    | zero =>
      rw [destroyBaton]
      split
      · exact .cons ⟨(releaseBaton_same p c).1, .inl (releaseBaton_same p c).2⟩ (Relabels.refl acked ps)
      · exact .cons ⟨rfl, .inl rfl⟩ (ih c 0)
    | succ n =>
      rw [destroyBaton]
      split
      · exact .cons ⟨rfl, .inl rfl⟩ (ih c n)
      · exact .cons ⟨rfl, .inl rfl⟩ (ih c (n + 1))

theorem flagForced_relabels (forced : Nat) (ps : List BufferedPacket) :
    Relabels acked ps (flagForced forced ps c).1 := by
  induction ps generalizing c with
  | nil => exact .nil
  | cons p ps ih =>
    rw [flagForced]
    split
    · exact Relabels.refl acked _
    · obtain ⟨hrecord, hpacket⟩ := flagForResending_same p c
      obtain ⟨hrecord', hpacket'⟩ := releaseBaton_same (p.flagForResending c).1 (p.flagForResending c).2
      exact .cons ⟨hrecord'.trans hrecord, .inl (hpacket'.trans hpacket)⟩ (ih _)

end Packets

namespace SendWindow

/-- The records of all packets sent, in the order they were sent in. -/
def records (w : SendWindow) : List PacketRecord :=
  (w.mRemovedPackets ++ w.mSendingPackets).map BufferedPacket.toPacketRecord

/-- The sender has let go of a packet: it took it out of the map, or it took its buffer away. -/
def LetGo (w : SendWindow) (n : Nat) : Prop :=
  (∃ p ∈ w.mRemovedPackets, p.mSequenceNumber = n) ∨
    ∃ p ∈ w.mSendingPackets, p.mSequenceNumber = n ∧ p.mPacket = none

/-- A buffer that is kept is the packet as it goes over the wire. -/
def Buffered (w : SendWindow) : Prop :=
  ∀ p ∈ w.mRemovedPackets ++ w.mSendingPackets, ∀ bytes, p.mPacket = some bytes →
    p.mRUDPPacket.packetize = .ok bytes

end SendWindow

/-- The windows are as they were, but for the packets let go of. -/
structure WindowsUntouched (acked : Nat → Prop) (s s' : RUDPChannelStream) : Prop where
  receive : s'.toReceiveWindow = s.toReceiveWindow
  shutdown : s'.isShutdown = s.isShutdown
  records : s'.records = s.records
  next : s'.mNextSequenceNumber = s.mNextSequenceNumber
  parity : s'.mXORedParityToNow = s.mXORedParityToNow
  letGo : ∀ n, s'.LetGo n → s.LetGo n ∨ acked n
  buffered : s.Buffered → s'.Buffered
  error : s'.mLastError = s.mLastError

/-- What is received goes where it went before. -/
structure Untouched (acked : Nat → Prop) (s s' : RUDPChannelStream) : Prop extends WindowsUntouched acked s s' where
  sink : s'.mReceiveStream = s.mReceiveStream ∧ s'.mPendingReceiveData = s.mPendingReceiveData ∧
    s'.mShutdownState = s.mShutdownState

/-- The stream was ended. -/
structure Ended (s s' : RUDPChannelStream) : Prop where
  receive : s'.toReceiveWindow = { s.toReceiveWindow with mReceivedPackets := [] }
  shutdown : s'.isShutdown = true
  records : s'.records = s.records
  next : s'.mNextSequenceNumber = s.mNextSequenceNumber
  parity : s'.mXORedParityToNow = s.mXORedParityToNow
  buffered : s.Buffered → s'.Buffered
  error : s'.mLastError = s.mLastError ∨ s'.mLastError = .delegateGone

/-- The stream was ended, or its windows are as they were. -/
def WindowsKept (acked : Nat → Prop) (s s' : RUDPChannelStream) : Prop := WindowsUntouched acked s s' ∨ Ended s s'

def Kept (acked : Nat → Prop) (s s' : RUDPChannelStream) : Prop := Untouched acked s s' ∨ Ended s s'

section Kept

variable {acked : Nat → Prop} {s s' s'' : RUDPChannelStream}

theorem Kept.windows (h : Kept acked s s') : WindowsKept acked s s' := h.imp_left (·.toWindowsUntouched)

theorem WindowsUntouched.trans (h : WindowsUntouched acked s s') (h' : WindowsUntouched acked s' s'') :
    WindowsUntouched acked s s'' where
  receive := h'.receive.trans h.receive
  shutdown := h'.shutdown.trans h.shutdown
  records := h'.records.trans h.records
  next := h'.next.trans h.next
  parity := h'.parity.trans h.parity
  letGo := by
    intro n hgo
    rcases h'.letGo n hgo with hgo | hacked
    · exact h.letGo n hgo
    · exact .inr hacked
  buffered := fun hbuf => h'.buffered (h.buffered hbuf)
  error := h'.error.trans h.error

theorem Untouched.trans (h : Untouched acked s s') (h' : Untouched acked s' s'') : Untouched acked s s'' where
  toWindowsUntouched := h.toWindowsUntouched.trans h'.toWindowsUntouched
  sink := ⟨h'.sink.1.trans h.sink.1, h'.sink.2.1.trans h.sink.2.1, h'.sink.2.2.trans h.sink.2.2⟩

theorem WindowsUntouched.ended (h : WindowsUntouched acked s s') (h' : Ended s' s'') : Ended s s'' where
  receive := by rw [h'.receive, h.receive]
  shutdown := h'.shutdown
  records := h'.records.trans h.records
  next := h'.next.trans h.next
  parity := h'.parity.trans h.parity
  buffered := fun hbuf => h'.buffered (h.buffered hbuf)
  error := by
    rw [← h.error]
    exact h'.error

theorem Untouched.kept (h : Untouched acked s s') (h' : Kept acked s' s'') : Kept acked s s'' :=
  h'.imp h.trans h.toWindowsUntouched.ended

/-- A stream that was ended stays so. -/
theorem Ended.windows (h : Ended s s') (h' : WindowsKept acked s' s'') : Ended s s'' := by
  rcases h' with h' | h'
  · exact ⟨h'.receive.trans h.receive, h'.shutdown.trans h.shutdown, h'.records.trans h.records,
      h'.next.trans h.next, h'.parity.trans h.parity, fun hbuf => h'.buffered (h.buffered hbuf), h'.error ▸ h.error⟩
  · refine ⟨?_, h'.shutdown, h'.records.trans h.records, h'.next.trans h.next, h'.parity.trans h.parity,
      fun hbuf => h'.buffered (h.buffered hbuf), ?_⟩
    · rw [h'.receive, h.receive]
    · rcases h'.error with herror | herror
      · rw [herror]
        exact h.error
      · exact .inr herror

theorem WindowsKept.trans (h : WindowsKept acked s s') (h' : WindowsKept acked s' s'') : WindowsKept acked s s'' := by
  rcases h with h | h
  · exact h'.imp h.trans h.ended
  · exact .inr (h.windows h')

variable (acked s)

theorem Untouched.refl : Untouched acked s s :=
  ⟨⟨rfl, rfl, rfl, rfl, rfl, fun _ h => .inl h, id, rfl⟩, ⟨rfl, rfl, rfl⟩⟩

variable {s}

/-- Other labels on the packets, and no change to what the relation speaks of. -/
theorem Untouched.of_fields (hwindow : s'.toReceiveWindow = s.toReceiveWindow)
    (hstate : s'.mCurrentState = s.mCurrentState) (hremoved : Relabels acked s.mRemovedPackets s'.mRemovedPackets)
    (hsending : Relabels acked s.mSendingPackets s'.mSendingPackets)
    (hnext : s'.mNextSequenceNumber = s.mNextSequenceNumber) (hparity : s'.mXORedParityToNow = s.mXORedParityToNow)
    (herror : s'.mLastError = s.mLastError) (hsink : s'.mReceiveStream = s.mReceiveStream ∧
      s'.mPendingReceiveData = s.mPendingReceiveData ∧ s'.mShutdownState = s.mShutdownState) :
    Untouched acked s s' := by
  refine ⟨⟨hwindow, ?_, ?_, hnext, hparity, ?_, ?_, herror⟩, hsink⟩
  · rw [isShutdown, hstate, isShutdown]
  · simp only [SendWindow.records, List.map_append, hremoved.records, hsending.records]
  · rintro n (⟨q, hq, hn⟩ | ⟨q, hq, hn, hnone⟩)
    · have hmem : n ∈ s'.mRemovedPackets.map fun q => q.toPacketRecord.mSequenceNumber :=
        List.mem_map.mpr ⟨q, hq, hn⟩
      have hrecords := congrArg (List.map PacketRecord.mSequenceNumber) hremoved.records
      simp only [List.map_map, Function.comp_def] at hrecords
      rw [hrecords] at hmem
      obtain ⟨p, hp, hpn⟩ := List.mem_map.mp hmem
      exact .inl (.inl ⟨p, hp, hpn⟩)
    · rcases hsending.released hq hnone with ⟨p, hp, hpn, hpnone⟩ | hacked
      · exact .inl (.inr ⟨p, hp, hpn.trans hn, hpnone⟩)
      · exact .inr (hn ▸ hacked)
  · intro hbuf q hq bytes hsome
    rcases List.mem_append.mp hq with hq | hq
    · obtain ⟨p, hp, hrecord, hsame⟩ := hremoved.buffered hq hsome
      rw [← show _ = _ from congrArg PacketRecord.mRUDPPacket hrecord]
      exact hbuf p (List.mem_append_left _ hp) bytes hsame
    · obtain ⟨p, hp, hrecord, hsame⟩ := hsending.buffered hq hsome
      rw [← show _ = _ from congrArg PacketRecord.mRUDPPacket hrecord]
      exact hbuf p (List.mem_append_right _ hp) bytes hsame

theorem Untouched.of_same (hwindow : s'.toReceiveWindow = s.toReceiveWindow)
    (hstate : s'.mCurrentState = s.mCurrentState) (hremoved : s'.mRemovedPackets = s.mRemovedPackets)
    (hsending : s'.mSendingPackets = s.mSendingPackets)
    (hnext : s'.mNextSequenceNumber = s.mNextSequenceNumber) (hparity : s'.mXORedParityToNow = s.mXORedParityToNow)
    (herror : s'.mLastError = s.mLastError) (hsink : s'.mReceiveStream = s.mReceiveStream ∧
      s'.mPendingReceiveData = s.mPendingReceiveData ∧ s'.mShutdownState = s.mShutdownState) :
    Untouched acked s s' :=
  .of_fields acked hwindow hstate (hremoved ▸ Relabels.refl acked _) (hsending ▸ Relabels.refl acked _) hnext hparity
    herror hsink

variable (s)

theorem Untouched.of_pacing (p : Pacing) : Untouched acked s { s with toPacing := p } :=
  .of_same acked rfl rfl rfl rfl rfl rfl rfl ⟨rfl, rfl, rfl⟩

theorem ended_cancel (h : s.isShutdown = false) : Ended s s.cancel := by
  have hstate : s.mCurrentState ≠ .shutdown := by simpa [isShutdown] using h
  unfold cancel setState
  rw [h, if_neg Bool.false_ne_true, if_neg hstate]
  refine ⟨rfl, rfl, ?_, rfl, rfl, ?_, .inl rfl⟩
  · simp only [SendWindow.records, List.append_nil]
  · intro hbuf
    simpa only [SendWindow.Buffered, List.append_nil] using hbuf

theorem kept_cancel : Kept acked s s.cancel := by
  cases h : s.isShutdown with
  | false => exact .inr (ended_cancel s h)
  | true =>
    rw [cancel, if_pos h]
    exact .inl (.refl acked s)

theorem kept_delegateGone : Kept acked s s.delegateGone := by
  unfold delegateGone setError
  split
  · exact kept_cancel acked s
  next halive =>
    split
    · exact kept_cancel acked s
    · have hshut : s.isShutdown = false := Bool.eq_false_iff.mpr fun h => halive (.inr h)
      have hended := ended_cancel { s with mLastError := .delegateGone, mLastErrorReason := "delegate gone" } hshut
      refine .inr { hended with error := ?_ }
      rcases hended.error with herror | herror
      · exact .inr herror
      · exact .inr herror

theorem kept_closeOnAllDataSent : Kept acked s s.closeOnAllDataSent := by
  unfold closeOnAllDataSent
  split
  · exact .inl (.refl acked s)
  · split
    · exact .inl (.refl acked s)
    · split
      · exact .inl (.refl acked s)
      · exact kept_cancel acked s

theorem untouched_handleUnfreezing : Untouched acked s s.handleUnfreezing := by
  unfold handleUnfreezing
  split
  · exact .of_pacing acked s _
  · exact .refl acked s

theorem untouched_handleAckQuickExit : Untouched acked s s.handleAckQuickExit := by
  refine (untouched_handleUnfreezing acked s).trans ?_
  unfold handleAckQuickExit
  simp only
  split
  · exact .of_pacing acked _ _
  · exact .refl acked _

variable (now : Int)

theorem untouched_handlePacketLoss : Untouched acked s (s.handlePacketLoss now) := by
  unfold handlePacketLoss
  simp only
  split
  · exact .of_same acked rfl rfl rfl rfl rfl rfl rfl ⟨rfl, rfl, rfl⟩
  · split
    · exact .of_same acked rfl rfl rfl rfl rfl rfl rfl ⟨rfl, rfl, rfl⟩
    · exact .of_fields acked rfl rfl (Relabels.refl acked _) (destroyBaton_relabels _ acked _ _) rfl rfl rfl
        ⟨rfl, rfl, rfl⟩

theorem untouched_endSendingPeriod (hadPackets ecFlag : Bool) :
    Untouched acked s (s.endSendingPeriod now hadPackets ecFlag).2 := by
  unfold endSendingPeriod
  split
  · exact .of_pacing acked s _
  · exact .refl acked s

theorem untouched_calculateRTT (p : BufferedPacket) : Untouched acked s (s.calculateRTT now p) := by
  unfold calculateRTT
  split
  · unfold setCalculatedRTT
    simp only
    split
    · exact .of_pacing acked s _
    · split
      · exact .of_pacing acked s _
      · exact .of_same acked rfl rfl rfl rfl rfl rfl rfl ⟨rfl, rfl, rfl⟩
  · exact .refl acked s

variable (required : Bool)

theorem untouched_keepTimer (duration : Int) (timer : Option Timer) :
    Untouched acked s (s.keepTimer required duration timer).2 := by
  unfold keepTimer
  split
  · exact .refl acked s
  · exact .refl acked s
  · exact .of_pacing acked s _

theorem untouched_forceACK : Untouched acked s s.forceACK :=
  .of_same acked rfl rfl rfl rfl rfl rfl rfl ⟨rfl, rfl, rfl⟩

variable (n : Nat)

theorem untouched_modifyPacket (f : BufferedPacket → Counters → BufferedPacket × Counters)
    (hf : ∀ p c, (f p c).1.toPacketRecord = p.toPacketRecord ∧ ((f p c).1.mPacket = p.mPacket ∨ (f p c).1.mPacket = none ∧ acked n)) :
    Untouched acked s (s.modifyPacket n f) :=
  .of_fields acked rfl rfl (onPacket_relabels _ acked n f _ hf) (onPacket_relabels _ acked n f _ hf) rfl rfl rfl
    ⟨rfl, rfl, rfl⟩

theorem untouched_cancelForcedACK : Untouched acked s s.cancelForcedACK := by
  unfold cancelForcedACK
  split
  · exact .of_pacing acked s _
  · exact .refl acked s

theorem untouched_setBurstTimer : Untouched acked s (s.setBurstTimer required) :=
  (untouched_keepTimer acked s _ _ _).trans (.of_pacing acked _ _)

theorem untouched_setEnsureTimer : Untouched acked s (s.setEnsureTimer required) :=
  (untouched_keepTimer acked s _ _ _).trans (.of_pacing acked _ _)

variable (plan : CleanupPlan)

theorem untouched_startTimers : Untouched acked s (s.startTimers plan) := by
  have htimers := ((untouched_cancelForcedACK acked s).trans (untouched_setBurstTimer acked _ plan.burstTimerRequired)).trans
    (untouched_setEnsureTimer acked _ plan.ensureDataHasArrivedTimer)
  unfold startTimers
  simp only
  split
  · exact htimers.trans (untouched_forceACK acked _)
  · exact htimers

theorem untouched_setAddBatonsTimer : Untouched acked s (s.setAddBatonsTimer required) :=
  (untouched_keepTimer acked s _ _ _).trans (.of_pacing acked _ _)

theorem kept_finishCleanup (delegateIsGone : Bool) : Kept acked s (s.finishCleanup plan delegateIsGone) := by
  unfold finishCleanup
  split
  · exact kept_delegateGone acked s
  · exact (untouched_setAddBatonsTimer acked s _).kept (kept_closeOnAllDataSent acked _)

variable (delegateIsGone : Bool)

theorem kept_sendNowCleanup : Kept acked s (s.sendNowCleanup delegateIsGone) :=
  (untouched_handleUnfreezing acked s).kept
    ((untouched_startTimers acked _ _).kept (kept_finishCleanup acked _ _ delegateIsGone))

theorem kept_leaveSendNow (l : SendNow) : Kept acked s (s.leaveSendNow delegateIsGone l).2 := by
  unfold leaveSendNow
  have hbaton : ∀ last, Untouched acked s (s.modifyPacket last BufferedPacket.consumeBaton) := fun last =>
    untouched_modifyPacket acked s last _ fun p c => ⟨(consumeBaton_same p c).1, .inl (consumeBaton_same p c).2⟩
  simp only
  split
  · exact kept_sendNowCleanup acked s delegateIsGone
  · split
    · exact (hbaton _).kept (kept_sendNowCleanup acked _ delegateIsGone)
    · exact kept_sendNowCleanup acked s delegateIsGone

theorem untouched_clearResend (l : SendNow) : Untouched acked s (s.clearResend l).2 := by
  unfold clearResend
  split
  · exact .refl acked s
  · split
    · exact (Untouched.of_pacing acked s _).trans (untouched_modifyPacket acked _ _ _ fun p c =>
        ⟨(doNotResend_same p c).1, .inl (doNotResend_same p c).2⟩)
    · exact .refl acked s

theorem untouched_onTimer (timer : Nat) (coin : Bool) : Untouched acked s (s.onTimer timer coin) := by
  unfold onTimer
  simp only
  split
  · exact .refl acked s
  · split
    · exact .of_pacing acked s _
    · split
      · split
        · exact .of_same acked rfl rfl rfl rfl rfl rfl rfl ⟨rfl, rfl, rfl⟩
        · exact .of_pacing acked s _
      · exact .refl acked s

theorem untouched_endWait : Untouched acked s (s.endWait n) := by
  unfold endWait
  split
  · exact .of_same acked rfl rfl rfl rfl rfl rfl rfl ⟨rfl, rfl, rfl⟩
  · exact .refl acked s

theorem untouched_handleForcedAck (id : Nat) : Untouched acked s (s.handleForcedAck id) := by
  unfold handleForcedAck
  simp only
  split
  · exact .of_fields acked rfl rfl (Relabels.refl acked _) (flagForced_relabels _ acked _ _) rfl rfl rfl
      ⟨rfl, rfl, rfl⟩
  · exact .of_pacing acked s _

end Kept

end OpenPeer
