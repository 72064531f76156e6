import OpenPeer.RUDPChannelAckChecks

/-!
# What the parity of a vector guards

The walk lets go of each packet as it comes to it, and compares the parity at the
end, if it compares it at all. What is known then of the packets that were let go
of is worked out here, and which acknowledgements get round it.
-/
namespace OpenPeer

open RUDPPacket Runs BufferedPacket

section Marks

variable {parity : Nat → Bool} (a : Ack)

theorem marks_iff (n : Nat) : a.marks n = true ↔
    a.gsnfr < n ∧ ∃ state, a.states[n - (a.gsnfr + 1)]? = some state ∧ state.isReceived = true := by
  unfold Ack.marks Ack.reported
  split
  next hle => exact ⟨fun h => (nomatch h), fun h => absurd h.1 (Nat.not_lt_of_ge hle)⟩
  next hgt => simp only [Option.any_eq_true, Nat.lt_of_not_le hgt, true_and]

theorem any_take_states (k : Nat) : (a.states.take k).any VectorStates.isReceived = true ↔
    ∃ n, a.marks n = true ∧ n < a.gsnfr + 1 + k := by
  simp only [List.any_eq_true, marks_iff]
  constructor
  · rintro ⟨state, hstate, hreceived⟩
    obtain ⟨i, hi⟩ := List.getElem?_of_mem hstate
    have hlt : i < k := by
      have hlength := (List.getElem?_eq_some_iff.mp hi).1
      rw [List.length_take] at hlength
      omega
    rw [List.getElem?_take_of_lt hlt] at hi
    refine ⟨a.gsnfr + 1 + i, ⟨by omega, state, ?_, hreceived⟩, by omega⟩
    rwa [Nat.add_sub_cancel_left]
  · rintro ⟨n, ⟨hlow, state, hstate, hreceived⟩, hhigh⟩
    refine ⟨state, List.mem_of_getElem? (i := n - (a.gsnfr + 1)) ?_, hreceived⟩
    rwa [List.getElem?_take_of_lt (by omega)]

theorem receivedParity_take (k : Nat) (b : Bool) (h : ∀ n, a.marks n = true → n < a.gsnfr + 1 + k) :
    receivedParity parity (a.gsnfr + 1) (a.states.take k) b = receivedParity parity (a.gsnfr + 1) a.states b := by
  have hnone : (a.states.drop k).any VectorStates.isReceived = false := by
    refine List.any_eq_false.mpr fun state hstate hreceived => ?_
    obtain ⟨i, hi⟩ := List.getElem?_of_mem hstate
    rw [List.getElem?_drop] at hi
    have hlt := h (a.gsnfr + 1 + (k + i)) ((marks_iff a _).mpr
      ⟨by omega, state, by rwa [Nat.add_sub_cancel_left], hreceived⟩)
    omega
  conv_rhs => rw [← List.take_append_drop k a.states, receivedParity_append, receivedParity_missing _ _ _ hnone]

/-- A packet that loses its buffer to an acknowledgement beyond the packets in series is marked, or
it is the greatest received. -/
theorem fate_packet (p : BufferedPacket) :
    (a.fate p).mPacket = if a.marks p.mSequenceNumber = true ∨ p.mSequenceNumber = a.gsnr then none else p.mPacket := by
  have hmissed : p.missed.mPacket = p.mPacket := by
    unfold BufferedPacket.missed
    split <;> rfl
  unfold Ack.fate Ack.marks
  by_cases hgreatest : p.mSequenceNumber = a.gsnr
  · rw [if_pos hgreatest, if_pos (.inr hgreatest)]
    rfl
  · rw [if_neg hgreatest]
    cases hreported : a.reported p.mSequenceNumber with
    | none => simp [BufferedPacket.told, hgreatest]
    | some state =>
      cases hreceived : state.isReceived with
      | true => simp [BufferedPacket.told, hreceived, BufferedPacket.received]
      | false => simp [BufferedPacket.told, hreceived, hgreatest, hmissed]

end Marks

section Walked

variable {first : Nat} {w : SendWindow} (a : Ack)

/-- The packets left of a window in order are numbered to the end, and the walk over them gives the
parity of those it marks, if none of its marks lies before them. -/
theorem SendInOrder.parityWrong (h : SendInOrder first w) (hne : a.gsnr ≠ a.gsnfr) (hlater : w.later a ≠ []) :
    w.parityWrong a = true ↔
      (∀ n, a.marks n = true → ∃ p ∈ w.mSendingPackets, p.mSequenceNumber ≤ n) ∧
        receivedParity (w.parityOf first) (a.gsnfr + 1)
          (a.states.take (w.mNextSequenceNumber - (a.gsnfr + 1))) a.xpFlag ≠ a.vpFlag := by
  obtain ⟨hlength, hnumbers⟩ := h.sending
  have hbelow := h.first_le
  obtain ⟨hclean, -⟩ := clean_packets a w h.ascending
  -- the later packets are a tail of the map
  obtain ⟨-, -, ⟨k, hdrop⟩, hhead⟩ := cleanAcked_split a.gsnfr w.mSendingPackets w.toCounters
  have htail : w.later a = w.mSendingPackets.drop k := hclean.symm.trans hdrop
  have hk : k < w.mSendingPackets.length := by
    refine Nat.lt_of_not_le fun hle => hlater ?_
    rw [htail, List.drop_eq_nil_iff]
    exact hle
  have hcount : (w.later a).length = w.mSendingPackets.length - k := by rw [htail, List.length_drop]
  generalize hstart : w.mNextSequenceNumber - w.mSendingPackets.length + k = start
  have hlaterNumbers : (w.later a).map (fun p => p.mSequenceNumber) = List.range' start (w.later a).length := by
    rw [htail, List.map_drop, hnumbers, List.drop_range', List.length_drop, Nat.mul_one, hstart]
  have hstartMem : ∃ p ∈ w.later a, p.mSequenceNumber = start := by
    have hmem : start ∈ (w.later a).map fun p => p.mSequenceNumber := by
      rw [hlaterNumbers, List.mem_range'_1]
      omega
    exact List.mem_map.mp hmem
  obtain ⟨p, hp, hpstart⟩ := hstartMem
  obtain ⟨hpmem, hplow⟩ := List.mem_filter.mp hp
  have hlow : a.gsnfr + 1 ≤ start := by
    have := of_decide_eq_true hplow
    omega
  obtain ⟨hcould, hxored⟩ := @walkVector_xored (w.parityOf first) (w.later a) start (a.gsnfr + 1)
    (vectorDecoderStart a.vector a.gsnr a.gsnfr) ⟨(w.clean a).toCounters, a.xpFlag, false, false, false⟩
    (vectorDecoderStart_inRun _ _ _) hlaterNumbers
    (fun q hq => h.parity (mem_records_sending (List.mem_of_mem_filter hq))) hlow (.inr hlater)
  have hbefore : (a.states.take (start - (a.gsnfr + 1))).any VectorStates.isReceived = false ↔
      ∀ n, a.marks n = true → ∃ q ∈ w.mSendingPackets, q.mSequenceNumber ≤ n := by
    rw [Bool.eq_false_iff, Ne, any_take_states]
    constructor
    · intro hnone n hn
      refine ⟨p, hpmem, ?_⟩
      by_contra hlt
      exact hnone ⟨n, hn, by omega⟩
    · rintro hall ⟨n, hn, hlt⟩
      obtain ⟨q, hq, hqn⟩ := hall n hn
      have hmarked := (marks_iff a n).mp hn
      -- a packet of the map below the later ones would be followed by the mark's own
      have hmem : n ∈ w.mSendingPackets.map fun q => q.mSequenceNumber := by
        have hqmem : q.mSequenceNumber ∈ w.mSendingPackets.map fun q => q.mSequenceNumber := List.mem_map_of_mem hq
        rw [hnumbers, List.mem_range'_1] at hqmem ⊢
        omega
      obtain ⟨r, hr, hrn⟩ := List.mem_map.mp hmem
      have hrlater : n ∈ (w.later a).map fun q => q.mSequenceNumber :=
        List.mem_map.mpr ⟨r, List.mem_filter.mpr ⟨hr, decide_eq_true (by omega)⟩, hrn⟩
      rw [hlaterNumbers, List.mem_range'_1] at hrlater
      omega
  have hend : start + (w.later a).length - (a.gsnfr + 1) = w.mNextSequenceNumber - (a.gsnfr + 1) := by omega
  change (walkVector (w.later a) (a.gsnfr + 1) _ _).2.couldNotCalculateVectorParity = (false || (a.states.take _).any _)
    at hcould
  rw [Bool.false_or] at hcould
  unfold SendWindow.parityWrong SendWindow.walk
  rw [hclean, hcould, bne_iff_ne.mpr hne, Bool.true_and, Bool.and_eq_true, Bool.not_eq_true', bne_iff_ne, hbefore]
  refine and_congr_right fun hall => ?_
  rw [hxored (hbefore.mpr hall), hend]
  rfl

end Walked

section Packets

variable {s : RUDPChannelStream} {a : Ack} (now : Int)

theorem fate_number (p : BufferedPacket) : (a.fate p).mSequenceNumber = p.mSequenceNumber := by
  unfold Ack.fate
  split
  · exact told_number p _
  · exact told_number p _

variable {p q : BufferedPacket}

theorem withoutBaton_fields (h : q.withoutBaton = p.withoutBaton) :
    q.mSequenceNumber = p.mSequenceNumber ∧ q.mPacket = p.mPacket ∧
      q.mFlaggedAsFailedToReceive = p.mFlaggedAsFailedToReceive ∧
      q.mFlagForResendingInNextBurst = p.mFlagForResendingInNextBurst := by
  have hfield : ∀ {β : Type} (f : BufferedPacket → β), f q.withoutBaton = f p.withoutBaton := fun f => congrArg f h
  exact ⟨hfield fun r => r.mSequenceNumber, hfield mPacket, hfield mFlaggedAsFailedToReceive,
    hfield mFlagForResendingInNextBurst⟩

section

variable (h : Ascending s.mSendingPackets) (haccepted : s.ackVerdict a = .accepted) (hne : a.gsnr ≠ a.gsnfr)
include h haccepted hne

theorem handleAck_fates :
    (s.handleAck now a).2.mSendingPackets.map withoutBaton
      = (s.toSendWindow.later a).map fun p => (a.fate p).withoutBaton := by
  rcases handleAck_effect s now a with ⟨hverdict, -⟩ | ⟨-, hsending, -⟩
  · exact absurd haccepted hverdict
  · rw [hsending, (acked_packets a s.toSendWindow h).1, if_neg hne, List.map_map]
    rfl

theorem handleAck_meets (hp : p ∈ s.toSendWindow.later a) :
    ∃ q ∈ (s.handleAck now a).2.mSendingPackets, q.mSequenceNumber = p.mSequenceNumber ∧
      q.withoutBaton = (a.fate p).withoutBaton := by
  have hmap : (a.fate p).withoutBaton ∈ (s.handleAck now a).2.mSendingPackets.map withoutBaton := by
    rw [handleAck_fates now h haccepted hne]
    exact List.mem_map_of_mem (f := fun p => (a.fate p).withoutBaton) hp
  obtain ⟨q, hq, hqp⟩ := List.mem_map.mp hmap
  exact ⟨q, hq, (withoutBaton_fields hqp).1.trans (fate_number p), hqp⟩

theorem handleAck_met (hp : p ∈ s.mSendingPackets) (hq : q ∈ (s.handleAck now a).2.mSendingPackets)
    (hnumber : q.mSequenceNumber = p.mSequenceNumber) :
    p ∈ s.toSendWindow.later a ∧ q.withoutBaton = (a.fate p).withoutBaton := by
  have hmem : q.withoutBaton ∈ (s.handleAck now a).2.mSendingPackets.map withoutBaton := List.mem_map_of_mem hq
  rw [handleAck_fates now h haccepted hne] at hmem
  obtain ⟨r, hr, hrq⟩ := List.mem_map.mp hmem
  have hrnumber := (withoutBaton_fields hrq).1
  rw [fate_number] at hrnumber
  obtain rfl := h.unique (List.mem_of_mem_filter hr) hp (hrnumber.trans hnumber)
  exact ⟨hr, hrq.symm⟩

end

theorem handleAck_same (h : Ascending s.mSendingPackets)
    (hnot : ¬(s.ackVerdict a = .accepted ∧ a.gsnr ≠ a.gsnfr)) (hp : p ∈ s.mSendingPackets)
    (hq : q ∈ (s.handleAck now a).2.mSendingPackets) (hnumber : q.mSequenceNumber = p.mSequenceNumber) :
    q.withoutBaton = p.withoutBaton := by
  rcases handleAck_effect s now a with ⟨-, hsame, -⟩ | ⟨hverdict, hsending, -⟩
  · rw [hsame] at hq
    rw [h.unique hq hp hnumber]
  · have heq : a.gsnr = a.gsnfr := not_not.mp fun hne => hnot ⟨hverdict, hne⟩
    rw [(acked_packets a s.toSendWindow h).1, if_pos heq] at hsending
    have hmem : q.withoutBaton ∈ (s.handleAck now a).2.mSendingPackets.map withoutBaton := List.mem_map_of_mem hq
    rw [hsending] at hmem
    obtain ⟨r, hr, hrq⟩ := List.mem_map.mp hmem
    have hrnumber := (withoutBaton_fields hrq).1
    rw [← hrq, h.unique (List.mem_of_mem_filter hr) hp (hrnumber.trans hnumber)]

end Packets

namespace RUDPChannelEndpoint

variable (first : Nat) (now : Int) (expecting : Nat)
  (sendingChannelNumber receivingChannelNumber : UInt16) (minimumRTT : Nat) (events : List RUDPChannelEvent)

section Conditions

variable (a : Ack) (s : RUDPChannelStream)

/-- All that the vector marks as received is in the map, and its parity is that of the marks. -/
def VectorVerified : Prop :=
  (∀ n, a.marks n = true → ∃ p ∈ s.mSendingPackets, p.mSequenceNumber = n) ∧
    a.vpFlag = receivedParity (s.parityOf first) (a.gsnfr + 1) a.states a.xpFlag

/-- The comparison of the parities is left out, because of a mark that lies before all packets of
the map, or it comes out even for the marks that are in the map. -/
def ComparisonPassed : Prop :=
  (∃ n, a.marks n = true ∧ ∀ p ∈ s.mSendingPackets, n < p.mSequenceNumber) ∨
    a.vpFlag = receivedParity (s.parityOf first) (a.gsnfr + 1)
      (a.states.take (s.mNextSequenceNumber - (a.gsnfr + 1))) a.xpFlag

/-- The acknowledgement comes to its vector, the vector is not verified, and it marks a packet that
has its buffer, or the greatest received has it and the comparison lets it pass. -/
def LetsGoUnverified : Prop :=
  s.ackVerdict a = .accepted ∧ a.gsnr ≠ a.gsnfr ∧ ¬VectorVerified first a s ∧
    ((∃ p ∈ s.mSendingPackets, a.marks p.mSequenceNumber = true ∧ p.mPacket.isSome = true) ∨
      (∃ p ∈ s.mSendingPackets, p.mSequenceNumber = a.gsnr ∧ p.mPacket.isSome = true) ∧ ComparisonPassed first a s)

variable {first a s} (hsend : SendInOrder first s.toSendWindow) (haccepted : s.ackVerdict a = .accepted)
  (hne : a.gsnr ≠ a.gsnfr)

include haccepted hne in
theorem later_of_marked {p : BufferedPacket} (hp : p ∈ s.mSendingPackets)
    (hor : a.marks p.mSequenceNumber = true ∨ p.mSequenceNumber = a.gsnr) : p ∈ s.toSendWindow.later a := by
  have hle := ((ackVerdict_accepted s a).mp haccepted).2.1
  refine List.mem_filter.mpr ⟨hp, decide_eq_true ?_⟩
  rcases hor with hmarks | hgreatest
  · exact ((marks_iff a _).mp hmarks).1
  · omega

include hsend haccepted hne in
theorem handled_iff_passed {p : BufferedPacket} (hp : p ∈ s.toSendWindow.later a) :
    (s.handleAck now a).1 = .handled ↔ ComparisonPassed first a s := by
  have hwrong := hsend.parityWrong a hne (List.ne_nil_of_mem hp)
  rcases handleAck_effect s now a with ⟨hverdict, -⟩ | ⟨-, -, -, houtcome⟩
  · exact absurd haccepted hverdict
  · have hpassed : ComparisonPassed first a s ↔ ¬s.toSendWindow.parityWrong a = true := by
      rw [hwrong, not_and_or, not_not, ComparisonPassed]
      refine or_congr ?_ eq_comm
      simp only [not_forall, not_exists, not_and, Nat.not_le, exists_prop]
    rw [hpassed, ← houtcome]
    cases (s.handleAck now a).1 with
    | handled => exact ⟨fun _ h => (nomatch h), fun _ => rfl⟩
    | illegalACK => exact ⟨fun h => (nomatch h), fun h => absurd rfl h⟩

include hsend in
theorem passed_of_verified (h : VectorVerified first a s) : ComparisonPassed first a s := by
  right
  rw [h.2]
  refine (receivedParity_take a _ _ fun n hn => ?_).symm
  obtain ⟨p, hp, hpn⟩ := h.1 n hn
  have hlt := (hsend.index (mem_records_sending hp)).2.1
  have hlow := ((marks_iff a n).mp hn).1
  change p.mSequenceNumber < s.mNextSequenceNumber at hlt
  omega

end Conditions

/-- When a buffer is released beyond the packets in series the vector was verified, and a vector that
is refused has released no buffer, exactly as long as the acknowledgement is not one of those above. -/
theorem released_only_verified (hfirst : 0 < first) :
    let t : RUDPChannelEndpoint :=
      run step (create (.create now first expecting sendingChannelNumber receivingChannelNumber minimumRTT)) events
    ∀ (u : RUDPChannelStream) (time : Int) (a : Ack), u.toSendWindow = t.stream.toSendWindow →
      ((((u.handleAck time a).1 = .handled ∧
          (∃ p ∈ u.mSendingPackets, a.gsnfr < p.mSequenceNumber ∧ p.mPacket.isSome = true ∧
            ∃ q ∈ (u.handleAck time a).2.mSendingPackets, q.mSequenceNumber = p.mSequenceNumber ∧ q.mPacket = none) →
          VectorVerified first a u) ∧
        ((u.handleAck time a).1 = .illegalACK → ∀ p ∈ u.mSendingPackets, a.marks p.mSequenceNumber = true →
          ∀ q ∈ (u.handleAck time a).2.mSendingPackets, q.mSequenceNumber = p.mSequenceNumber → q.mPacket = p.mPacket)) ↔
      ¬LetsGoUnverified first a u) := by
  intro t u time a hu
  have hsend : SendInOrder first u.toSendWindow := by
    rw [hu]
    exact run_sendInOrder hfirst now expecting sendingChannelNumber receivingChannelNumber minimumRTT events
  have hascending := hsend.ascending
  constructor
  · rintro ⟨hreleased, hrefused⟩ ⟨haccepted, hne, hnot, hhit⟩
    -- a packet that is marked, or the greatest, loses its buffer
    have hgone : ∀ p ∈ u.mSendingPackets, a.marks p.mSequenceNumber = true ∨ p.mSequenceNumber = a.gsnr →
        p ∈ u.toSendWindow.later a ∧
        ∃ q ∈ (u.handleAck time a).2.mSendingPackets, q.mSequenceNumber = p.mSequenceNumber ∧ q.mPacket = none := by
      intro p hp hor
      have hmem := later_of_marked haccepted hne hp hor
      obtain ⟨q, hq, hnumber, hqp⟩ := handleAck_meets time hascending haccepted hne hmem
      refine ⟨hmem, q, hq, hnumber, ?_⟩
      rw [(withoutBaton_fields hqp).2.1, fate_packet, if_pos hor]
    have hseries : ∀ p ∈ u.toSendWindow.later a, a.gsnfr < p.mSequenceNumber := fun p hp =>
      of_decide_eq_true (List.mem_filter.mp hp).2
    rcases hhit with ⟨p, hp, hmarks, hsome⟩ | ⟨⟨p, hp, hgreatest, hsome⟩, hpassed⟩
    · obtain ⟨hmem, q, hq, hnumber, hnone⟩ := hgone p hp (.inl hmarks)
      cases hout : (u.handleAck time a).1 with
      | handled => exact hnot (hreleased ⟨hout, p, hp, hseries p hmem, hsome, q, hq, hnumber, hnone⟩)
      | illegalACK =>
        rw [← hrefused hout p hp hmarks q hq hnumber, hnone] at hsome
        cases hsome
    · obtain ⟨hmem, q, hq, hnumber, hnone⟩ := hgone p hp (.inr hgreatest)
      have hout := (handled_iff_passed time hsend haccepted hne hmem).mpr hpassed
      exact hnot (hreleased ⟨hout, p, hp, hseries p hmem, hsome, q, hq, hnumber, hnone⟩)
  · refine fun hnot => ⟨?_, fun hout p hp hmarks q hq hnumber => ?_⟩
    · rintro ⟨hout, p, hp, -, hsome, q, hq, hnumber, hnone⟩
      by_cases hreach : u.ackVerdict a = .accepted ∧ a.gsnr ≠ a.gsnfr
      · obtain ⟨haccepted, hne⟩ := hreach
        obtain ⟨hmem, hqp⟩ := handleAck_met time hascending haccepted hne hp hq hnumber
        have hpacket := (withoutBaton_fields hqp).2.1
        rw [fate_packet, hnone] at hpacket
        by_contra hverified
        refine hnot ⟨haccepted, hne, hverified, ?_⟩
        split at hpacket
        next hor =>
          rcases hor with hmarks | hgreatest
          · exact .inl ⟨p, hp, hmarks, hsome⟩
          · exact .inr ⟨⟨p, hp, hgreatest, hsome⟩, (handled_iff_passed time hsend haccepted hne hmem).mp hout⟩
        · rw [← hpacket] at hsome
          cases hsome
      · have hpacket := (withoutBaton_fields (handleAck_same time hascending hreach hp hq hnumber)).2.1
        rw [← hpacket, hnone] at hsome
        cases hsome
    · by_cases hreach : u.ackVerdict a = .accepted ∧ a.gsnr ≠ a.gsnfr
      · obtain ⟨haccepted, hne⟩ := hreach
        obtain ⟨hmem, hqp⟩ := handleAck_met time hascending haccepted hne hp hq hnumber
        cases hbuffer : p.mPacket with
        | none => rw [(withoutBaton_fields hqp).2.1, fate_packet, hbuffer, ite_self]
        | some bytes =>
          have hverified : VectorVerified first a u := by
            by_contra hverified
            exact hnot ⟨haccepted, hne, hverified, .inl ⟨p, hp, hmarks, by rw [hbuffer]; rfl⟩⟩
          have hhandled := (handled_iff_passed time hsend haccepted hne hmem).mpr (passed_of_verified hsend hverified)
          rw [hout] at hhandled
          cases hhandled
      · exact (withoutBaton_fields (handleAck_same time hascending hreach hp hq hnumber)).2.1

/-- Three packets are sent, numbers 1 to 3. -/
def threePackets : List RUDPChannelEvent := .own (.setStreams .create .create) :: newBurst [true, false, false]

/-- An acknowledgement of packet 3 that marks packet 1, with the parity of packet 1. -/
theorem released_only_verified_one :
    let u := (run step (create (.create 0 1 1 7 7 0)) threePackets).stream
    VectorVerified 1 ⟨1, 3, 0, [1], true, false, false, false, false⟩ u := by
  intro u
  have hmarks : ∀ n, (⟨1, 3, 0, [1], true, false, false, false, false⟩ : Ack).marks n = true → n = 1 := by
    intro n hn
    obtain ⟨hlow, state, hstate, -⟩ := (marks_iff _ n).mp hn
    have hlength := (List.getElem?_eq_some_iff.mp hstate).1
    rw [show (⟨1, 3, 0, [1], true, false, false, false, false⟩ : Ack).states.length = 1 by decide +kernel] at hlength
    dsimp only at hlow hlength
    omega
  have hone : ∃ p ∈ u.mSendingPackets, p.mSequenceNumber = 1 := by decide +kernel
  have hverified : VectorVerified 1 ⟨1, 3, 0, [1], true, false, false, false, false⟩ u :=
    ⟨fun n hn => by rw [hmarks n hn]; exact hone, by decide +kernel⟩
  exact ((released_only_verified 1 0 1 7 7 0 threePackets (by decide) u 0
    ⟨1, 3, 0, [1], true, false, false, false, false⟩ rfl).mpr fun h => h.2.2.1 hverified).1 (by decide +kernel)

/-- With the wrong parity the acknowledgement is refused, and packet 1 is let go of all the same. -/
theorem refused_vector_releases :
    ¬∀ (events : List RUDPChannelEvent) (time : Int) (a : Ack),
      let u := (run step (create (.create 0 1 1 7 7 0)) events).stream
      ((u.handleAck time a).1 = .handled ∧
          (∃ p ∈ u.mSendingPackets, a.gsnfr < p.mSequenceNumber ∧ p.mPacket.isSome = true ∧
            ∃ q ∈ (u.handleAck time a).2.mSendingPackets, q.mSequenceNumber = p.mSequenceNumber ∧ q.mPacket = none) →
          VectorVerified 1 a u) ∧
        ((u.handleAck time a).1 = .illegalACK → ∀ p ∈ u.mSendingPackets, a.marks p.mSequenceNumber = true →
          ∀ q ∈ (u.handleAck time a).2.mSendingPackets, q.mSequenceNumber = p.mSequenceNumber →
            q.mPacket = p.mPacket) := by
  intro h
  have hrefused := (h threePackets 0 ⟨1, 3, 0, [1], false, false, false, false, false⟩).2 (by decide +kernel)
  revert hrefused
  decide +kernel

end RUDPChannelEndpoint

end OpenPeer
