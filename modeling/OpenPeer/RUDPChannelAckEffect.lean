import OpenPeer.RUDPChannelFrames

/-!
# The effect of an acknowledgement

Whatever an acknowledgement says, the packets stay what they are, and the ones
let go of are those it acknowledges: up to the number to which everything was
received, the greatest number received, and what the vector says arrived.
-/
namespace OpenPeer

open RUDPPacket

/-- The numbers an acknowledgement says to have arrived are among the given ones. -/
structure Acks (acked : Nat → Prop) (a : Ack) : Prop where
  full : ∀ n, n ≤ a.gsnfr → acked n
  greatest : acked a.gsnr
  vector : a.gsnr ≠ a.gsnfr → ∀ i state, (vectorDecoderStart a.vector a.gsnr a.gsnfr).remaining[i]? = some state →
    state.isReceived = true → acked (a.gsnfr + 1 + i)

theorem acks_true (a : Ack) : Acks (fun _ => True) a := ⟨fun _ _ => trivial, trivial, fun _ _ _ _ _ => trivial⟩

theorem cleanAcked_split (gsnfr : Nat) (ps : List BufferedPacket) (c : Counters) :
    ((cleanAcked gsnfr ps c).1 ++ (cleanAcked gsnfr ps c).2.1).map BufferedPacket.toPacketRecord
        = ps.map BufferedPacket.toPacketRecord ∧
      (∀ p ∈ (cleanAcked gsnfr ps c).1, p.mSequenceNumber ≤ gsnfr ∧ p.mPacket = none) ∧
      (∃ k, (cleanAcked gsnfr ps c).2.1 = ps.drop k) ∧
      (∀ p, (cleanAcked gsnfr ps c).2.1.head? = some p → gsnfr < p.mSequenceNumber) := by
  induction ps generalizing c with
  | nil => exact ⟨rfl, by simp [cleanAcked], ⟨0, rfl⟩, by simp [cleanAcked]⟩
  | cons p ps ih =>
    rw [cleanAcked]
    split
    next hgt => exact ⟨rfl, by simp, ⟨0, rfl⟩, by simpa using hgt⟩
    next hle =>
      obtain ⟨hrecords, hlow, ⟨k, hdrop⟩, hfirst⟩ := ih (p.flagAsReceivedByRemoteParty c).2
      have hrecord := flagAsReceived_record p c
      refine ⟨?_, ?_, ⟨k + 1, hdrop⟩, hfirst⟩
      · simp only [List.cons_append, List.map_cons, hrecord, hrecords]
      · intro q hq
        rcases List.mem_cons.mp hq with rfl | hq
        · rw [hrecord]
          exact ⟨Nat.le_of_not_gt hle, rfl⟩
        · exact hlow q hq

/-- Reading over `n` states: the decoder is that much further, or the vector ended. -/
theorem skipVector_cases (n : Nat) (d : VectorDecoderState) (couldNot : Bool) (h : d.InRun) :
    (∃ d', skipVector n d couldNot = (some d', couldNot || (d.remaining.take n).any VectorStates.isReceived) ∧
      d'.remaining = d.remaining.drop n ∧ d'.InRun ∧ n ≤ d.remaining.length) ∨
    (skipVector n d couldNot = (none, couldNot || d.remaining.any VectorStates.isReceived) ∧
      d.remaining.length < n) := by
  induction n generalizing d couldNot with
  | zero => exact .inl ⟨d, by simp [skipVector], by simp, h, Nat.zero_le _⟩
  | succ n ih =>
    rcases vectorDecoderGetNextPacketState_remaining d h with ⟨hnone, hnext⟩ |
      ⟨state, d', hremaining, hrun, hstate, hnext⟩
    · refine .inr ⟨?_, by simp [hnone]⟩
      rw [skipVector, hnext]
      simp [hnone]
    · have hskip : skipVector (n + 1) d couldNot = skipVector n d' (couldNot || state.isReceived) := by
        rw [skipVector, hnext]
        cases state <;> first | rfl | exact absurd rfl hstate
      rw [hskip, hremaining]
      rcases ih d' (couldNot || state.isReceived) hrun with ⟨d'', hresult, hrest, hrun', hle⟩ | ⟨hresult, hlt⟩
      · refine .inl ⟨d'', ?_, hrest, hrun', Nat.succ_le_succ hle⟩
        rw [hresult, List.take_succ_cons, List.any_cons, Bool.or_assoc]
      · refine .inr ⟨?_, Nat.succ_lt_succ hlt⟩
        rw [hresult, List.any_cons, Bool.or_assoc]

/-- A packet the vector has reached keeps its record, and its buffer unless it arrived. -/
theorem walkPacket_same (state : VectorStates) (p : BufferedPacket) (w : VectorWalk) :
    (walkPacket state p w).1.toPacketRecord = p.toPacketRecord ∧
      ((walkPacket state p w).1.mPacket = p.mPacket ∨
        (walkPacket state p w).1.mPacket = none ∧ state.isReceived = true) := by
  unfold walkPacket
  cases hstate : state.isReceived with
  | true =>
    simp only [if_true]
    exact ⟨flagAsReceived_record p _, .inr ⟨rfl, trivial⟩⟩
  | false =>
    simp only [Bool.false_eq_true, if_false]
    split
    · obtain ⟨hrecord, hpacket⟩ :=
        flagForResending_same { p with mFlaggedAsFailedToReceive := true } w.toCounters
      exact ⟨hrecord, .inl hpacket⟩
    · exact ⟨rfl, .inl rfl⟩

section Walk

variable (p : BufferedPacket) (ps : List BufferedPacket) (n : Nat) (d : VectorDecoderState) (w : VectorWalk)

theorem walkVector_ended (couldNot : Bool) (hge : ¬p.mSequenceNumber < n)
    (h : skipVector (p.mSequenceNumber - n) d w.couldNotCalculateVectorParity = (none, couldNot) ∨
      ∃ d', skipVector (p.mSequenceNumber - n) d w.couldNotCalculateVectorParity = (some d', couldNot) ∧
        vectorDecoderGetNextPacketState d' = (.noMoreData, d')) :
    walkVector (p :: ps) n d w = (p :: ps, { w with couldNotCalculateVectorParity := couldNot }) := by
  rw [walkVector, if_neg hge]
  rcases h with hskip | ⟨d', hskip, hnext⟩
  · rw [hskip]
  · simp only [hskip, hnext]

theorem walkVector_reached (couldNot : Bool) (state : VectorStates) (d' d'' : VectorDecoderState)
    (hge : ¬p.mSequenceNumber < n)
    (hskip : skipVector (p.mSequenceNumber - n) d w.couldNotCalculateVectorParity = (some d', couldNot))
    (hnext : vectorDecoderGetNextPacketState d' = (state, d'')) (hstate : state ≠ .noMoreData) :
    walkVector (p :: ps) n d w =
      ((walkPacket state p { w with couldNotCalculateVectorParity := couldNot }).1 ::
          (walkVector ps (p.mSequenceNumber + 1) d''
            (walkPacket state p { w with couldNotCalculateVectorParity := couldNot }).2).1,
        (walkVector ps (p.mSequenceNumber + 1) d''
          (walkPacket state p { w with couldNotCalculateVectorParity := couldNot }).2).2) := by
  rw [walkVector, if_neg hge]
  simp only [hskip, hnext]

/-- What a turn of the walk meets: the end of the vector, or its state for the packet, which stands
as many states on as the packet is. -/
theorem walkVector_turn (h : d.InRun) (hge : ¬p.mSequenceNumber < n) :
    (walkVector (p :: ps) n d w = (p :: ps, { w with
        couldNotCalculateVectorParity :=
          w.couldNotCalculateVectorParity || d.remaining.any VectorStates.isReceived }) ∧
      d.remaining.length ≤ p.mSequenceNumber - n) ∨
    ∃ state d'' w', d.remaining[p.mSequenceNumber - n]? = some state ∧ d''.InRun ∧
      d''.remaining = d.remaining.drop (p.mSequenceNumber - n + 1) ∧
      w' = { w with
        couldNotCalculateVectorParity := w.couldNotCalculateVectorParity ||
          (d.remaining.take (p.mSequenceNumber - n)).any VectorStates.isReceived } ∧
      walkVector (p :: ps) n d w =
        ((walkPacket state p w').1 :: (walkVector ps (p.mSequenceNumber + 1) d'' (walkPacket state p w').2).1,
          (walkVector ps (p.mSequenceNumber + 1) d'' (walkPacket state p w').2).2) := by
  rcases skipVector_cases (p.mSequenceNumber - n) d w.couldNotCalculateVectorParity h with
    ⟨d', hskip, hrest, hrun, hle⟩ | ⟨hskip, hlt⟩
  · rcases vectorDecoderGetNextPacketState_remaining d' hrun with ⟨hnone, hnext⟩ |
      ⟨state, d'', hremaining, hrun', hstate, hnext⟩
    · have hlength : d.remaining.length ≤ p.mSequenceNumber - n := by
        rw [hrest] at hnone
        exact List.drop_eq_nil_iff.mp hnone
      rw [List.take_of_length_le hlength] at hskip
      exact .inl ⟨walkVector_ended p ps n d w _ hge (.inr ⟨d', hskip, hnext⟩), hlength⟩
    · have hdrop : d.remaining.drop (p.mSequenceNumber - n) = state :: d''.remaining := by
        rw [← hrest, hremaining]
      refine .inr ⟨state, d'', _, ?_, hrun', ?_, rfl, walkVector_reached p ps n d w _ state d' d'' hge hskip hnext hstate⟩
      · have h0 : (d.remaining.drop (p.mSequenceNumber - n))[0]? = some state := by
          rw [hdrop]
          rfl
        simpa using h0
      · rw [← List.tail_drop, hdrop, List.tail_cons]
  · exact .inl ⟨walkVector_ended p ps n d w _ hge (.inl hskip), Nat.le_of_lt hlt⟩

end Walk

/-- The walk takes the buffers of packets the vector says arrived. -/
theorem walkVector_relabels (acked : Nat → Prop) (ps : List BufferedPacket) (n : Nat) (d : VectorDecoderState)
    (w : VectorWalk) (h : d.InRun)
    (hacked : ∀ i state, d.remaining[i]? = some state → state.isReceived = true → acked (n + i)) :
    Relabels acked ps (walkVector ps n d w).1 := by
  induction ps generalizing n d w with
  | nil => exact .nil
  | cons p ps ih =>
    by_cases hge : p.mSequenceNumber < n
    · rw [walkVector, if_pos hge]
      exact .cons ⟨rfl, .inl rfl⟩ (ih n d w h hacked)
    rcases walkVector_turn p ps n d w h hge with ⟨hwalk, -⟩ | ⟨state, d'', w', hhere, hrun, hrest, -, hwalk⟩
    · rw [hwalk]
      exact Relabels.refl acked _
    · rw [hwalk]
      obtain ⟨hrecord, hpacket⟩ := walkPacket_same state p w'
      refine .cons ⟨hrecord, hpacket.imp_right fun hr => ⟨hr.1, ?_⟩⟩ (ih _ d'' _ hrun ?_)
      · have hfound := hacked _ state hhere hr.2
        rwa [show n + (p.mSequenceNumber - n) = p.mSequenceNumber by omega] at hfound
      · intro i st hi hst
        rw [hrest, List.getElem?_drop] at hi
        have hfound := hacked _ st hi hst
        rwa [show n + (p.mSequenceNumber - n + 1 + i) = p.mSequenceNumber + 1 + i by omega] at hfound

section Untouched

variable {acked : Nat → Prop} (s : RUDPChannelStream) (now : Int) (a : Ack)

theorem untouched_acknowledge (gsnfr : Nat) (h : ∀ n, n ≤ gsnfr → acked n) : Untouched acked s (s.acknowledge gsnfr) := by
  obtain ⟨hrecords, hlow, ⟨k, hdrop⟩, -⟩ := cleanAcked_split gsnfr s.mSendingPackets s.toCounters
  refine ⟨⟨rfl, rfl, ?_, rfl, rfl, ?_, ?_, rfl⟩, ⟨rfl, rfl, rfl⟩⟩
  · change ((s.mRemovedPackets ++ (cleanAcked gsnfr s.mSendingPackets s.toCounters).1)
      ++ (cleanAcked gsnfr s.mSendingPackets s.toCounters).2.1).map BufferedPacket.toPacketRecord = _
    rw [List.append_assoc, List.map_append, hrecords, ← List.map_append]
    rfl
  · rintro n (⟨p, hp, hn⟩ | ⟨p, hp, hn, hnone⟩)
    · rcases List.mem_append.mp hp with hp | hp
      · exact .inl (.inl ⟨p, hp, hn⟩)
      · exact .inr (h n (hn ▸ (hlow p hp).1))
    · change p ∈ (cleanAcked gsnfr s.mSendingPackets s.toCounters).2.1 at hp
      rw [hdrop] at hp
      exact .inl (.inr ⟨p, List.mem_of_mem_drop hp, hn, hnone⟩)
  · intro hbuf p hp bytes hsome
    rcases List.mem_append.mp hp with hp | hp
    · rcases List.mem_append.mp hp with hp | hp
      · exact hbuf p (List.mem_append_left _ hp) bytes hsome
      · rw [(hlow p hp).2] at hsome
        cases hsome
    · change p ∈ (cleanAcked gsnfr s.mSendingPackets s.toCounters).2.1 at hp
      rw [hdrop] at hp
      exact hbuf p (List.mem_append_right _ (List.mem_of_mem_drop hp)) bytes hsome

theorem untouched_acknowledgeVector (hadPackets : Bool) (h : Acks acked a) (hne : a.gsnr ≠ a.gsnfr) :
    Untouched acked s (s.acknowledgeVector now a hadPackets).2 := by
  have hwalk : ∀ w, Relabels acked s.mSendingPackets
      (walkVector s.mSendingPackets (a.gsnfr + 1) (vectorDecoderStart a.vector a.gsnr a.gsnfr) w).1 :=
    fun w => walkVector_relabels acked _ _ _ w (vectorDecoderStart_inRun _ _ _) (h.vector hne)
  have hgreatest : ∀ p c, (BufferedPacket.flagAsReceivedByRemoteParty p c).1.toPacketRecord = p.toPacketRecord ∧
      ((BufferedPacket.flagAsReceivedByRemoteParty p c).1.mPacket = p.mPacket ∨
        (BufferedPacket.flagAsReceivedByRemoteParty p c).1.mPacket = none ∧ acked a.gsnr) :=
    fun p c => ⟨flagAsReceived_record p c, .inr ⟨rfl, h.greatest⟩⟩
  have hpackets : ∀ w c, Untouched acked s { s with
      mSendingPackets := (onPacket a.gsnr BufferedPacket.flagAsReceivedByRemoteParty
        (walkVector s.mSendingPackets (a.gsnfr + 1) (vectorDecoderStart a.vector a.gsnr a.gsnfr) w).1 c).1
      toCounters := (onPacket a.gsnr BufferedPacket.flagAsReceivedByRemoteParty
        (walkVector s.mSendingPackets (a.gsnfr + 1) (vectorDecoderStart a.vector a.gsnr a.gsnfr) w).1 c).2 } :=
    fun w c => .of_fields acked rfl rfl (Relabels.refl acked _)
      ((hwalk w).trans (onPacket_relabels _ acked _ _ _ hgreatest)) rfl rfl rfl ⟨rfl, rfl, rfl⟩
  have hperiod := fun w c => (hpackets w c).trans (untouched_endSendingPeriod acked _ now hadPackets a.ecFlag)
  have hloss : ∀ (b : Bool) (t : RUDPChannelStream), Untouched acked s t →
      Untouched acked s (if b = true then t.handlePacketLoss now else t) := by
    intro b t ht
    cases b with
    | true => exact ht.trans (untouched_handlePacketLoss acked t now)
    | false => exact ht
  unfold RUDPChannelStream.acknowledgeVector
  simp only
  split
  · exact hloss _ _ (hperiod _ _)
  · exact (hloss _ _ (hperiod _ _)).trans (untouched_handleAckQuickExit acked _)

theorem untouched_acceptAck (h : Acks acked a) : Untouched acked s (s.acceptAck now a).2 := by
  have hclean := (untouched_acknowledge s a.gsnfr h.full).trans
    (untouched_endSendingPeriod acked _ now (decide (s.mSendingPackets.length > 0)) a.ecFlag)
  unfold RUDPChannelStream.acceptAck
  simp only
  split
  · exact hclean.trans (untouched_handleAckQuickExit acked _)
  next hne => exact hclean.trans (untouched_acknowledgeVector _ now a _ h hne)

theorem untouched_processAck (h : Acks acked a) : Untouched acked s (s.processAck now a).2 := by
  unfold RUDPChannelStream.processAck
  split
  · exact untouched_acceptAck s now a h
  · simp only
    split
    · exact untouched_calculateRTT acked s now _
    · exact (untouched_calculateRTT acked s now _).trans (untouched_acceptAck _ now a h)

theorem untouched_handleAck (h : Acks acked a) : Untouched acked s (s.handleAck now a).2 := by
  have hexit := untouched_handleAckQuickExit acked s
  unfold RUDPChannelStream.handleAck
  split
  · exact hexit
  · split
    · exact .refl acked s
    · split
      · exact hexit
      · split
        · exact hexit
        · split
          · exact hexit
          · split
            · split
              · exact .refl acked s
              · exact untouched_processAck s now a h
            · exact untouched_processAck s now a h

end Untouched

end OpenPeer
