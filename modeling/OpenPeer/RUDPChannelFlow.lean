import OpenPeer.RUDPChannelNumbers
import OpenPeer.TransportStreamFifo

/-!
# From the send stream into packets

What becomes of the bytes that are written: they wait in the send stream until a
packet takes them, and the packet waits until it is acknowledged. No other part of
the code touches the send stream but the calls that set it, write to it or end the
channel stream.
-/
namespace OpenPeer

open RUDPPacket BufferedPacket RUDPChannelStream

namespace RUDPChannelStream

variable (s : RUDPChannelStream)

/-- The data of all packets created so far. -/
def packetized : List UInt8 := s.records.flatMap fun r => r.mRUDPPacket.mData

/-- The bytes that wait in the send stream. -/
def unsent : List UInt8 := (s.mSendStream.map TransportStream.unread).getD []

end RUDPChannelStream

/-- The side that sends is as it was, but for the packets let go of. -/
structure SendSideKept (acked : Nat → Prop) (s s' : RUDPChannelStream) : Prop where
  shutdown : s'.isShutdown = s.isShutdown
  records : s'.records = s.records
  letGo : ∀ n, s'.LetGo n → s.LetGo n ∨ acked n
  stream : s'.mSendStream = s.mSendStream

/-- The stream was ended because everything was sent: nothing waited in the send stream, and nothing
to be acknowledged. -/
def ClosedOnAllSent (s s' : RUDPChannelStream) : Prop :=
  ∃ u : RUDPChannelStream, SendSideKept (fun _ => False) s u ∧ u.isShutdown = false ∧ u.totalWriteBuffers = 0 ∧
    u.mSendingPackets = [] ∧ s' = u.cancel

section Rules

variable {acked : Nat → Prop} {s s' s'' : RUDPChannelStream}

theorem WindowsUntouched.sendSide (h : WindowsUntouched acked s s') (hstream : s'.mSendStream = s.mSendStream) :
    SendSideKept acked s s' := { h with stream := hstream }

theorem SendSideKept.trans (h : SendSideKept acked s s') (h' : SendSideKept acked s' s'') : SendSideKept acked s s'' where
  shutdown := h'.shutdown.trans h.shutdown
  records := h'.records.trans h.records
  letGo := by
    intro n hn
    rcases h'.letGo n hn with hn | hacked
    · exact h.letGo n hn
    · exact .inr hacked
  stream := h'.stream.trans h.stream

theorem SendSideKept.closed (h : SendSideKept (fun _ => False) s s') (h' : ClosedOnAllSent s' s'') :
    ClosedOnAllSent s s'' := by
  obtain ⟨u, hu, hrest⟩ := h'
  exact ⟨u, h.trans hu, hrest⟩

theorem SendSideKept.weaken (h : SendSideKept (fun _ => False) s s') : SendSideKept acked s s' :=
  ⟨h.shutdown, h.records, fun n hn => (h.letGo n hn).imp_right False.elim, h.stream⟩

end Rules

section SendStream

variable (s : RUDPChannelStream)

theorem RUDPChannelStream.Paced.sendStream {s s' : RUDPChannelStream} (h : RUDPChannelStream.Paced s s') :
    s'.mSendStream = s.mSendStream := by
  obtain ⟨p, rfl, -⟩ := h
  rfl

theorem handlePacketLoss_sendStream (now : Int) : (s.handlePacketLoss now).mSendStream = s.mSendStream := by
  unfold handlePacketLoss
  simp only
  split
  · rfl
  · split <;> rfl

theorem handleAck_sendStream (now : Int) (a : Ack) : (s.handleAck now a).2.mSendStream = s.mSendStream := by
  rw [← handleAckWith_handlePacketLoss]
  rcases handleAckWith_cases handlePacketLoss s now a with
    ⟨-, heq⟩ | ⟨-, u, hu, heq⟩ | ⟨-, u, p, hu, -, heq⟩
  · rw [heq]
    exact (paced_handleAckQuickExit s).sendStream
  · rw [heq]
    exact hu.sendStream
  · rw [heq, react]
    have hloss : (if u.toSendWindow.lossFound a then handlePacketLoss now
          { u with toSendWindow := u.toSendWindow.acked a, toPacing := p }
        else { u with toSendWindow := u.toSendWindow.acked a, toPacing := p }).mSendStream = u.mSendStream := by
      split
      · exact handlePacketLoss_sendStream _ now
      · rfl
    simp only
    split
    · exact hloss.trans hu.sendStream
    · exact ((paced_handleAckQuickExit _).sendStream.trans hloss).trans hu.sendStream

theorem endWait_sendStream (n : Nat) : (s.endWait n).mSendStream = s.mSendStream := by
  unfold endWait
  split <;> rfl

theorem cancelForcedACK_sendStream : s.cancelForcedACK.mSendStream = s.mSendStream := by
  unfold cancelForcedACK
  split <;> rfl

theorem handleForcedAck_sendStream (id : Nat) : (s.handleForcedAck id).mSendStream = s.mSendStream := by
  unfold handleForcedAck
  simp only
  split <;> rfl

theorem keepTimer_sendStream (required : Bool) (duration : Int) (timer : Option Timer) :
    (s.keepTimer required duration timer).2.mSendStream = s.mSendStream := by
  unfold keepTimer
  split <;> rfl

theorem startTimers_sendStream (plan : CleanupPlan) : (s.startTimers plan).mSendStream = s.mSendStream := by
  have hburst : (s.cancelForcedACK.setBurstTimer plan.burstTimerRequired).mSendStream = s.mSendStream :=
    (keepTimer_sendStream _ _ _ _).trans (cancelForcedACK_sendStream s)
  have htimers : ((s.cancelForcedACK.setBurstTimer plan.burstTimerRequired).setEnsureTimer
      plan.ensureDataHasArrivedTimer).mSendStream = s.mSendStream := (keepTimer_sendStream _ _ _ _).trans hburst
  unfold startTimers
  simp only
  split
  · exact htimers
  · exact htimers

theorem clearResend_sendStream (l : SendNow) : (s.clearResend l).2.mSendStream = s.mSendStream := by
  unfold clearResend
  split
  · rfl
  · split <;> rfl

theorem onTimer_sendStream (timer : Nat) (coin : Bool) : (s.onTimer timer coin).mSendStream = s.mSendStream := by
  unfold onTimer
  simp only
  split
  · rfl
  · split
    · rfl
    · split
      · split <;> rfl
      · rfl

theorem putReceived_sendStream (data : List UInt8) : (s.putReceived data).mSendStream = s.mSendStream := by
  unfold putReceived
  split
  · rfl
  · split <;> rfl

theorem deliverLoop_sendStream (ps : List BufferedPacket) :
    (deliverLoop ps s).mSendStream = s.mSendStream := by
  induction ps generalizing s with
  | nil => rfl
  | cons p ps ih =>
    rw [deliverLoop]
    split
    · rfl
    · rw [ih]
      unfold deliverPacket
      simp only
      split
      · exact putReceived_sendStream _ _
      · rfl

end SendStream

section Closing

variable (s : RUDPChannelStream)

theorem sendSideKept_refl (acked : Nat → Prop) : SendSideKept acked s s :=
  (Untouched.refl acked s).toWindowsUntouched.sendSide rfl

theorem closeOnAllDataSent_closes : s.closeOnAllDataSent = s ∨ ClosedOnAllSent s s.closeOnAllDataSent := by
  unfold closeOnAllDataSent
  split
  · exact .inl rfl
  next hlive =>
  split
  · exact .inl rfl
  split
  · exact .inl rfl
  next hsent =>
  obtain ⟨hbuffers, hpackets⟩ := not_or.mp hsent
  exact .inr ⟨s, sendSideKept_refl s _, Bool.eq_false_iff.mpr hlive, not_not.mp hbuffers,
    List.length_eq_zero_iff.mp (not_not.mp hpackets), rfl⟩

theorem cancel_isShutdown : s.cancel.isShutdown = true := by
  cases h : s.isShutdown with
  | true => rwa [cancel, if_pos h]
  | false => exact (ended_cancel s h).shutdown

theorem delegateGone_isShutdown : s.delegateGone.isShutdown = true := cancel_isShutdown _

theorem refuseAck_isShutdown : s.refuseAck.isShutdown = true := cancel_isShutdown _

/-- The clean-up after a burst closes the stream when everything was sent, or ends it because the
delegate is gone. -/
theorem sendNowCleanup_closes (delegateIsGone : Bool) :
    SendSideKept (fun _ => False) s (s.sendNowCleanup delegateIsGone) ∨
      ClosedOnAllSent s (s.sendNowCleanup delegateIsGone) ∨
      delegateIsGone = true ∧ (s.sendNowCleanup delegateIsGone).isShutdown = true := by
  unfold sendNowCleanup finishCleanup
  simp only
  split
  next hgone => exact .inr (.inr ⟨hgone.2, delegateGone_isShutdown _⟩)
  have hunfreezing : SendSideKept (fun _ => False) s s.handleUnfreezing :=
    (untouched_handleUnfreezing _ s).toWindowsUntouched.sendSide (paced_handleUnfreezing s).sendStream
  have htimers := hunfreezing.trans
    ((untouched_startTimers (fun _ => False) _ s.handleUnfreezing.cleanupPlan).toWindowsUntouched.sendSide
      (startTimers_sendStream _ _))
  have hbatons := htimers.trans
    ((untouched_setAddBatonsTimer (fun _ => False) _ s.handleUnfreezing.cleanupPlan.addBatonsTimer).toWindowsUntouched.sendSide
      (keepTimer_sendStream _ _ _ _))
  rcases closeOnAllDataSent_closes (setAddBatonsTimer s.handleUnfreezing.cleanupPlan.addBatonsTimer
    (s.handleUnfreezing.startTimers s.handleUnfreezing.cleanupPlan)) with heq | hclosed
  · rw [heq]
    exact .inl hbatons
  · exact .inr (.inl (hbatons.closed hclosed))

theorem leaveSendNow_closes (delegateIsGone : Bool) (l : SendNow) :
    SendSideKept (fun _ => False) s (s.leaveSendNow delegateIsGone l).2 ∨
      ClosedOnAllSent s (s.leaveSendNow delegateIsGone l).2 ∨
      delegateIsGone = true ∧ (s.leaveSendNow delegateIsGone l).2.isShutdown = true := by
  have hbaton : ∀ last, SendSideKept (fun _ => False) s (s.modifyPacket last BufferedPacket.consumeBaton) := fun last =>
    (untouched_modifyPacket _ s last _ fun p c =>
      ⟨(consumeBaton_same p c).1, .inl (consumeBaton_same p c).2⟩).toWindowsUntouched.sendSide rfl
  unfold leaveSendNow
  simp only
  split
  · exact sendNowCleanup_closes s delegateIsGone
  next last _ =>
  split
  · exact (sendNowCleanup_closes _ delegateIsGone).imp (hbaton last).trans (Or.imp_left (hbaton last).closed)
  · exact sendNowCleanup_closes s delegateIsGone

/-- A call to shut down once all data is sent. -/
theorem shutdown_closes : SendSideKept (fun _ => False) s (s.shutdown true) ∨ ClosedOnAllSent s (s.shutdown true) := by
  unfold shutdown
  split
  · exact .inl (sendSideKept_refl s _)
  next hlive =>
  simp only [not_true, if_false]
  obtain ⟨c, f, hc, heq⟩ := shutdownDirection_eq s ⟨false, true⟩
  have hdirection : SendSideKept (fun _ => False) s (s.shutdownDirection ⟨false, true⟩) := by
    have hkept : WindowsUntouched (fun _ => False) s (s.shutdownDirection ⟨false, true⟩) := by
      rw [heq]
      exact .of_same _ rfl hc rfl rfl rfl rfl rfl
    exact hkept.sendSide (by rw [heq])
  have hstate : ∀ u : RUDPChannelStream, u.isShutdown = false → SendSideKept (fun _ => False) u (u.setState .shuttingDown) := by
    intro u hu
    unfold setState
    split
    · exact sendSideKept_refl u _
    · have hkept : WindowsUntouched (fun _ => False) u
          { u with mCurrentState := .shuttingDown, fault := u.fault || !u.mDelegate } :=
        .of_same _ rfl hu.symm rfl rfl rfl rfl rfl
      exact hkept.sendSide rfl
  have hkept := hdirection.trans (hstate _ (hdirection.shutdown.trans (Bool.eq_false_iff.mpr hlive)))
  rcases closeOnAllDataSent_closes ((s.shutdownDirection ⟨false, true⟩).setState .shuttingDown) with hsame | hclosed
  · rw [hsame]
    exact .inl hkept
  · exact .inr (hkept.closed hclosed)

end Closing

/-- The acknowledgement that an arrival brings, and when. -/
def RUDPChannelStream.arrivingAck (s : RUDPChannelStream) : RUDPChannelEvent → Option (Int × Ack)
  | .handlePacket now packet _ => some (now, s.packetAck packet (packet.getSequenceNumber s.mGSNR))
  | .handleExternalAck now _ ack => some (now, ack)
  | .own _ => none

/-- An acknowledgement arrives that is illegal. -/
def RUDPChannelStream.meetsIllegalAck (s : RUDPChannelStream) (event : RUDPChannelEvent) : Bool :=
  (s.arrivingAck event).any fun r => (s.handleAck r.1 r.2).1 == .illegalACK

section Arrival

variable {acked : Nat → Prop} (s : RUDPChannelStream) (now : Int)

theorem handleAck_outcome {u : RUDPChannelStream} (hreceive : u.toReceiveWindow = s.toReceiveWindow)
    (hsend : u.toSendWindow = s.toSendWindow) (a : Ack) : (u.handleAck now a).1 = (s.handleAck now a).1 := by
  have hverdict : u.ackVerdict a = s.ackVerdict a := by
    cases u
    cases s
    simp only at hreceive hsend
    subst hreceive hsend
    rfl
  have hiff : (u.handleAck now a).1 = .illegalACK ↔ (s.handleAck now a).1 = .illegalACK := by
    rcases handleAck_effect s now a with ⟨hs, -, hs'⟩ | ⟨hs, -, -, hs'⟩
    · rcases handleAck_effect u now a with ⟨-, -, hu'⟩ | ⟨hu, -⟩
      · rw [hu', hs', hverdict]
      · exact absurd (hverdict ▸ hu) hs
    · rcases handleAck_effect u now a with ⟨hu, -⟩ | ⟨-, -, -, hu'⟩
      · exact absurd (hverdict ▸ hs) hu
      · rw [hu', hs', hsend]
  cases hu : (u.handleAck now a).1 with
  | handled =>
    cases hs : (s.handleAck now a).1 with
    | handled => rfl
    | illegalACK => exact absurd ((hiff.mpr hs).symm.trans hu) (by decide)
  | illegalACK => exact (hiff.mp hu).symm

theorem acceptPacket_sendStream (n : Nat) (packet : RUDPPacket) :
    (s.acceptPacket now n packet).mSendStream = s.mSendStream := by
  rw [acceptPacket_eq]
  exact deliverLoop_sendStream _ _

theorem acceptPacket_sendSide (n : Nat) (packet : RUDPPacket) : SendSideKept acked s (s.acceptPacket now n packet) := by
  have hsame := s.acceptPacket_sending now n packet
  refine ⟨hsame.isShutdown, hsame.records, fun k hk => .inl ?_, acceptPacket_sendStream s now n packet⟩
  rwa [SendWindow.LetGo, hsame.removed, hsame.sending] at hk

/-- A packet leaves what is still to be sent, unless its acknowledgement is illegal and ends the
stream. -/
theorem handlePacket_sendStream (packet : RUDPPacket) (ecnMarked : Bool) :
    (s.handlePacket now packet ecnMarked).2.mSendStream = s.mSendStream ∨
      s.meetsIllegalAck (.handlePacket now packet ecnMarked) = true ∧
        (s.handlePacket now packet ecnMarked).2.isShutdown = true := by
  simp only [meetsIllegalAck, arrivingAck, Option.any_some]
  unfold handlePacket
  split
  · exact .inl rfl
  split
  · exact .inl rfl
  simp only
  generalize packet.getSequenceNumber s.mGSNR = n at *
  obtain ⟨hreceive, hsend⟩ := endWait_sameWindows { s with mECNReceived := s.mECNReceived || ecnMarked } n
  have hstream : (({ s with mECNReceived := s.mECNReceived || ecnMarked } : RUDPChannelStream).endWait n).mSendStream =
      s.mSendStream := endWait_sendStream _ n
  generalize ({ s with mECNReceived := s.mECNReceived || ecnMarked } : RUDPChannelStream).endWait n = u at *
  split
  · exact .inl hstream
  split
  · exact .inl hstream
  have hack : u.packetAck packet n = s.packetAck packet n := by
    rw [packetAck, show u.mNextSequenceNumber = s.mNextSequenceNumber from
      congrArg SendWindow.mNextSequenceNumber hsend]
    rfl
  rw [hack, ← handleAck_outcome s now hreceive hsend]
  have hafter := (handleAck_sendStream u now (s.packetAck packet n)).trans hstream
  cases houtcome : u.handleAck now (s.packetAck packet n) with
  | mk outcome t =>
    rw [houtcome] at hafter
    cases outcome with
    | illegalACK => exact .inr ⟨rfl, refuseAck_isShutdown t⟩
    | handled =>
      left
      simp only [handleData]
      split
      · exact hafter
      split
      · exact hafter
      · exact (acceptPacket_sendStream t now n packet).trans hafter

theorem handlePacket_sendSide (packet : RUDPPacket) (ecnMarked : Bool)
    (h : Acks acked (s.packetAck packet (packet.getSequenceNumber s.mGSNR))) :
    SendSideKept acked s (s.handlePacket now packet ecnMarked).2 ∨
      s.meetsIllegalAck (.handlePacket now packet ecnMarked) = true ∧
        (s.handlePacket now packet ecnMarked).2.isShutdown = true := by
  rcases handlePacket_sendStream s now packet ecnMarked with hstream | hillegal
  · rcases handlePacket_cases s now packet ecnMarked h with hkept | ⟨t, -, heq, u, hreceive, hsend, hillegal⟩ |
      ⟨t, hkept, -, -, heq⟩
    · exact .inl (hkept.toWindowsUntouched.sendSide hstream)
    · refine .inr ⟨?_, heq ▸ refuseAck_isShutdown t⟩
      rw [handleAck_outcome s now hreceive hsend] at hillegal
      exact beq_iff_eq.mpr hillegal
    · rw [heq] at hstream ⊢
      have htaken : SendSideKept acked t (t.acceptPacket now (packet.getSequenceNumber s.mGSNR) packet) :=
        acceptPacket_sendSide t now (packet.getSequenceNumber s.mGSNR) packet
      refine .inl ⟨htaken.shutdown.trans hkept.shutdown, htaken.records.trans hkept.records, fun n hn => ?_, hstream⟩
      rcases htaken.letGo n hn with hn | hacked
      · exact hkept.letGo n hn
      · exact .inr hacked
  · exact .inr hillegal

theorem handleExternalAck_sendStream (id : Nat) (a : Ack) :
    (s.handleExternalAck now id a).mSendStream = s.mSendStream ∨
      s.meetsIllegalAck (.handleExternalAck now id a) = true ∧ (s.handleExternalAck now id a).isShutdown = true := by
  simp only [meetsIllegalAck, arrivingAck, Option.any_some]
  by_cases hdelegate : s.mDelegate = true
  swap
  · unfold handleExternalAck
    rw [if_pos hdelegate]
    exact .inl rfl
  rw [handleExternalAck_eq s now id a hdelegate]
  have hforced : s.cancelForcedACK.toReceiveWindow = s.toReceiveWindow ∧
      s.cancelForcedACK.toSendWindow = s.toSendWindow := by
    unfold cancelForcedACK
    split <;> exact ⟨rfl, rfl⟩
  obtain ⟨hreceive, hsend⟩ := endWait_sameWindows s.cancelForcedACK a.nextSequenceNumber
  have hstream := (endWait_sendStream s.cancelForcedACK a.nextSequenceNumber).trans (cancelForcedACK_sendStream s)
  rw [hforced.1] at hreceive
  rw [hforced.2] at hsend
  have hafter := (handleAck_sendStream (s.cancelForcedACK.endWait a.nextSequenceNumber) now a).trans hstream
  rw [← handleAck_outcome s now hreceive hsend]
  generalize s.cancelForcedACK.endWait a.nextSequenceNumber = u at *
  cases houtcome : u.handleAck now a with
  | mk outcome t =>
    rw [houtcome] at hafter
    cases outcome with
    | illegalACK => exact .inr ⟨rfl, refuseAck_isShutdown t⟩
    | handled => exact .inl ((handleForcedAck_sendStream t id).trans hafter)

theorem handleExternalAck_sendSide (id : Nat) (a : Ack) (h : Acks acked a) :
    SendSideKept acked s (s.handleExternalAck now id a) ∨
      s.meetsIllegalAck (.handleExternalAck now id a) = true ∧ (s.handleExternalAck now id a).isShutdown = true := by
  rcases handleExternalAck_sendStream s now id a with hstream | hillegal
  · rcases handleExternalAck_cases s now id a h with hkept | ⟨t, -, heq, u, hreceive, hsend, hillegal⟩
    · exact .inl (hkept.toWindowsUntouched.sendSide hstream)
    · refine .inr ⟨?_, heq ▸ refuseAck_isShutdown t⟩
      rw [handleAck_outcome s now hreceive hsend] at hillegal
      exact beq_iff_eq.mpr hillegal
  · exact .inr hillegal

end Arrival

section Creation

/-- A packet goes out when its data and its vector have room in it and its header is not
contradictory. -/
theorem packetize_ok {p : RUDPPacket} (hdata : p.mData.length ≤ 0xFFFF)
    (hgsn : p.eqFlag = true → p.mGSNR &&& 0xFFFFFF = p.mGSNFR &&& 0xFFFFFF) (hvector : p.mVectorLengthInBytes ≤ 0x7F) :
    ∃ bytes, p.packetize = .ok bytes := by
  have hvector' : ¬(¬p.eqFlag = true ∧ p.mVectorLengthInBytes > 0x7F) := fun h => absurd hvector (UInt8.not_le.mpr h.2)
  unfold packetize
  rw [if_neg (not_lt.mpr hdata), if_neg (fun h => h.2 (hgsn h.1))]
  simp only [hvector', if_false]
  split
  · exact ⟨_, rfl⟩
  · exact ⟨_, rfl⟩

theorem room_ok {p : RUDPPacket} (hgsn : p.eqFlag = true → p.mGSNR &&& 0xFFFFFF = p.mGSNFR &&& 0xFFFFFF)
    (hvector : p.mVectorLengthInBytes ≤ 0x7F) :
    ∃ n, p.getRoomAvailableForData maxPacketSizeWhenPMTUIsNotKnown = .ok n ∧ 0 < n ∧ n ≤ 0xFFFF := by
  have hlength : p.mVectorLengthInBytes.toNat ≤ 127 := hvector
  have hdword : Bytes.dwordBoundary p.mVectorLengthInBytes.toNat ≤ 128 := by
    unfold Bytes.dwordBoundary
    split <;> omega
  have hextended : extendedHeaderLength p.eqFlag ≤ 4 := by
    unfold extendedHeaderLength
    split <;> omega
  have hsmall : minimumPacketLengthInBytes + extendedHeaderLength p.eqFlag +
      Bytes.dwordBoundary p.mVectorLengthInBytes.toNat ≤ 144 := by
    rw [show minimumPacketLengthInBytes = 12 from rfl]
    omega
  have hmax : maxPacketSizeWhenPMTUIsNotKnown = 512 := rfl
  unfold getRoomAvailableForData
  rw [if_neg (fun h => h.2 (hgsn h.1)), if_neg (by omega)]
  exact ⟨_, rfl, by omega, by omega⟩

variable {s : RUDPChannelStream}

/-- The vectors of the packets sent have room in the header. -/
def ShortVectors (s : RUDPChannelStream) : Prop := ∀ r ∈ s.records, r.mRUDPPacket.mVectorLengthInBytes ≤ 0x7F

theorem finalize_length (e : VectorEncoderState) : (vectorEncoderFinalize e).2.length ≤ e.mVector.length := by
  unfold vectorEncoderFinalize
  split
  · exact Nat.zero_le _
  · split
    · exact Nat.zero_le _
    · split
      · exact Nat.zero_le _
      · simp

theorem vectoredPacket_short (horder : WindowOrder s.toReceiveWindow) (hshort : ShortVectors s) (parity : Bool)
    (l : SendNow) : (s.vectoredPacket parity l).mVectorLengthInBytes ≤ 0x7F := by
  unfold vectoredPacket
  split
  · obtain ⟨k, hencoded, -, -, -, hmax⟩ := encodeVector_encodes horder 0x7F
    have hfits := hencoded.fits
    rw [hmax] at hfits
    have hlength := le_trans (finalize_length _) hfits
    rw [UInt8.le_iff_toNat_le]
    change (UInt8.ofNat _).toNat ≤ 127
    rw [UInt8.toNat_ofNat_of_lt' (lt_of_le_of_lt hlength (by decide))]
    exact hlength
  next first hfirst =>
    obtain ⟨n, -, hfind⟩ := Option.bind_eq_some_iff.mp hfirst
    exact hshort _ (List.mem_map_of_mem (List.mem_of_find?_eq_some hfind))

theorem vectoredPacket_gsn (parity : Bool) (l : SendNow) : (s.vectoredPacket parity l).eqFlag = true →
    (s.vectoredPacket parity l).mGSNR &&& 0xFFFFFF = (s.vectoredPacket parity l).mGSNFR &&& 0xFFFFFF := by
  obtain ⟨hflags, -, hgsnr, hgsnfr⟩ := vectoredPacket_header parity l s
  intro heq
  have hnew : (s.newPacket parity).eqFlag = true := by
    rw [RUDPPacket.eqFlag, ← hflags]
    exact heq
  rw [eqFlag_eq, (newPacket_flags parity s).2.2.2] at hnew
  rw [hgsnr, hgsnfr, beq_iff_eq.mp hnew]

/-- One packet was created: it has taken its data from the front of the send stream. -/
structure Created (s s' : RUDPChannelStream) : Prop where
  shutdown : s'.isShutdown = s.isShutdown
  letGo : ∀ n, s'.LetGo n → s.LetGo n
  record : ∃ r : PacketRecord, s'.records = s.records ++ [r] ∧ r.mRUDPPacket.mVectorLengthInBytes ≤ 0x7F ∧
    s.unsent = r.mRUDPPacket.mData ++ s'.unsent

theorem read_split {η : Type} (stream : TransportStream η) {n : Nat} (hn : 0 < n) :
    stream.unread = (stream.read n).1 ++ (stream.read n).2.2.unread := by
  cases hlive : stream.mShutdown with
  | true =>
    rw [TransportStream.read, if_pos hlive]
    rfl
  | false =>
    obtain ⟨htaken, hleft⟩ := TransportStream.read_unread hlive n hn
    rw [htaken, hleft, List.take_append_drop]

/-- A creation either finds nothing to send, or creates one packet: none of its checks fails. -/
theorem createPacket_creates (horder : WindowOrder s.toReceiveWindow) (hshort : ShortVectors s) (now : Int) (parity : Bool)
    (l : SendNow) : (s.createPacket now parity l).2 = s ∨ Created s (s.createPacket now parity l).2 := by
  have hvector := vectoredPacket_short horder hshort parity l
  have hgsn := vectoredPacket_gsn (s := s) parity l
  obtain ⟨room, hroom, hpos, hle⟩ := room_ok hgsn hvector
  unfold createPacket
  cases hstream : s.mSendStream with
  | none => exact .inl rfl
  | some stream =>
    simp only
    split
    · exact .inl rfl
    simp only [hroom]
    generalize decide ((stream.read room).2.2.getTotalReadBuffersAvailable < 1 ∨ l.packetsToSend = 1) = ackRequired
    generalize hpacket : (if ackRequired = true then
        ({ s.vectoredPacket parity l with mData := (stream.read room).1 } : RUDPPacket).setFlag .arACKRequired true
      else { s.vectoredPacket parity l with mData := (stream.read room).1 }) = packet
    have hsame : packet.mData = (stream.read room).1 ∧ packet.mGSNR = (s.vectoredPacket parity l).mGSNR ∧
        packet.mGSNFR = (s.vectoredPacket parity l).mGSNFR ∧
        packet.mVectorLengthInBytes = (s.vectoredPacket parity l).mVectorLengthInBytes ∧
        packet.eqFlag = (s.vectoredPacket parity l).eqFlag := by
      subst hpacket
      cases ackRequired with
      | false => exact ⟨rfl, rfl, rfl, rfl, rfl⟩
      | true =>
        refine ⟨rfl, rfl, rfl, rfl, ?_⟩
        simp only [if_true, eqFlag_eq, isFlagSet_setFlag, reduceCtorEq, if_false]
        rfl
    obtain ⟨hdata, hgsnr, hgsnfr, hlength, heq⟩ := hsame
    obtain ⟨bytes, hbytes⟩ : ∃ bytes, packet.packetize = .ok bytes := by
      refine packetize_ok ?_ ?_ (hlength ▸ hvector)
      · rw [hdata]
        exact le_trans (read_length_le stream room) hle
      · rw [heq, hgsnr, hgsnfr]
        exact hgsn
    simp only [hbytes]
    refine .inr ⟨rfl, ?_, _, pushPacket_records s _ ackRequired now _, hlength ▸ hvector, ?_⟩
    · rintro n (hremoved | ⟨p, hp, hn, hnone⟩)
      · exact .inl hremoved
      · rcases List.mem_append.mp hp with hp | hp
        · exact .inr ⟨p, hp, hn, hnone⟩
        · rw [List.mem_singleton.mp hp] at hnone
          cases hnone
    · change ((s.mSendStream.map TransportStream.unread).getD []) = packet.mData ++ (stream.read room).2.2.unread
      rw [hstream, hdata]
      exact read_split stream hpos

end Creation

end OpenPeer
