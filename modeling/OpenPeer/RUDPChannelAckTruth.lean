import OpenPeer.RUDPChannelDelivery

/-!
# Truthful acknowledgements

An acknowledgement is truthful when the packets it says arrived did arrive and its
parities are those of the packets. Packets only ever arrive, so what was truthful
once stays so, however late the acknowledgement comes. A sender that keeps its
packets in order finds no fault with a truthful acknowledgement.
-/
namespace OpenPeer

open RUDPPacket RUDPChannelStream

section Parity

/-- The parity after the packets from the given number on, of which those that arrived count. -/
def receivedParity (parity : Nat → Bool) : Nat → List VectorStates → Bool → Bool
  | _, [], b => b
  | n, state :: states, b =>
    receivedParity parity (n + 1) states (if state.isReceived then logicalXOR b (parity n) else b)

variable {parity parity' : Nat → Bool}

theorem receivedParity_append (n : Nat) (as bs : List VectorStates) (b : Bool) :
    receivedParity parity n (as ++ bs) b = receivedParity parity (n + as.length) bs (receivedParity parity n as b) := by
  induction as generalizing n b with
  | nil => rfl
  | cons a as ih =>
    rw [List.cons_append, receivedParity, ih, receivedParity, List.length_cons,
      show n + 1 + as.length = n + (as.length + 1) by omega]

theorem receivedParity_missing (n : Nat) (states : List VectorStates) (b : Bool)
    (h : states.any VectorStates.isReceived = false) : receivedParity parity n states b = b := by
  induction states generalizing n b with
  | nil => rfl
  | cons state states ih =>
    rw [List.any_cons, Bool.or_eq_false_iff] at h
    rw [receivedParity, h.1, if_neg Bool.false_ne_true, ih (n + 1) b h.2]

theorem receivedParity_congr (n : Nat) (states : List VectorStates) (b : Bool)
    (h : ∀ m, n ≤ m → m < n + states.length → parity' m = parity m) :
    receivedParity parity' n states b = receivedParity parity n states b := by
  induction states generalizing n b with
  | nil => rfl
  | cons state states ih =>
    rw [List.length_cons] at h
    rw [receivedParity, receivedParity, h n (le_refl n) (by omega)]
    exact ih (n + 1) _ fun m hlow hhigh => h m (by omega) (by omega)

theorem xorParity_congr (first n : Nat) (h : ∀ m, first ≤ m → m ≤ n → parity' m = parity m) :
    xorParity parity' first n = xorParity parity first n := by
  refine List.foldl_ext _ _ _ fun b m hm => ?_
  rw [List.mem_range'_1] at hm
  rw [h m hm.1 (by omega)]

end Parity

/-- The vector of an acknowledgement says of no packet that it arrived but of those that did, ends
before the greatest number received, and has the parity of the packets. -/
structure VectorTruth (held : Nat → Prop) (parity : Nat → Bool) (a : Ack) : Prop where
  fits : a.gsnfr + (vectorDecoderStart a.vector a.gsnr a.gsnfr).remaining.length < a.gsnr
  said : ∀ i state, (vectorDecoderStart a.vector a.gsnr a.gsnfr).remaining[i]? = some state →
    state.isReceived = true → held (a.gsnfr + 1 + i)
  vp : a.vpFlag =
    receivedParity parity (a.gsnfr + 1) (vectorDecoderStart a.vector a.gsnr a.gsnfr).remaining a.xpFlag

/-- What an acknowledgement says is true of the packets that are held and of their parities, which
are numbered from the first one to the one before the next. -/
structure Truthful (held : Nat → Prop) (parity : Nat → Bool) (first next : Nat) (a : Ack) : Prop where
  le : a.gsnfr ≤ a.gsnr
  first_le : first ≤ a.gsnfr + 1
  below : a.gsnr < next
  full : ∀ n, n ≤ a.gsnfr → held n
  greatest : held a.gsnr
  pg : first ≤ a.gsnr → a.pgFlag = parity a.gsnr
  xp : a.xpFlag = xorParity parity first a.gsnfr
  vector : a.gsnr ≠ a.gsnfr → VectorTruth held parity a

section Truthful

variable {held held' : Nat → Prop} {parity parity' : Nat → Bool} {first next next' : Nat} {a : Ack}

theorem Truthful.acks (h : Truthful held parity first next a) : Acks held a :=
  ⟨h.full, h.greatest, fun hne => (h.vector hne).said⟩

theorem Truthful.mono (h : Truthful held parity first next a) (hheld : ∀ n, held n → held' n)
    (hparity : ∀ n, first ≤ n → n < next → parity' n = parity n) (hnext : next ≤ next') :
    Truthful held' parity' first next' a := by
  have hle := h.le
  have hfirst := h.first_le
  have hbelow := h.below
  refine ⟨hle, hfirst, lt_of_lt_of_le hbelow hnext, fun n hn => hheld n (h.full n hn), hheld _ h.greatest, ?_, ?_, ?_⟩
  · intro hlow
    rw [h.pg hlow, hparity a.gsnr hlow hbelow]
  · rw [h.xp]
    exact (xorParity_congr first a.gsnfr fun m hlow hhigh => hparity m hlow (by omega)).symm
  · intro hne
    obtain ⟨hfits, hsaid, hvp⟩ := h.vector hne
    refine ⟨hfits, fun i state hi hr => hheld _ (hsaid i state hi hr), ?_⟩
    rw [hvp]
    exact (receivedParity_congr _ _ _ fun m hlow hhigh => hparity m (by omega) (by omega)).symm

theorem Truthful.of_same {a' : Ack} (h : Truthful held parity first next a) (hgsnr : a'.gsnr = a.gsnr)
    (hgsnfr : a'.gsnfr = a.gsnfr) (hpg : a'.pgFlag = a.pgFlag) (hxp : a'.xpFlag = a.xpFlag)
    (hvector : a.gsnr ≠ a.gsnfr → a'.vector = a.vector ∧ a'.vpFlag = a.vpFlag) :
    Truthful held parity first next a' := by
  refine ⟨by rw [hgsnr, hgsnfr]; exact h.le, by rw [hgsnfr]; exact h.first_le, by rw [hgsnr]; exact h.below,
    by rw [hgsnfr]; exact h.full, by rw [hgsnr]; exact h.greatest, by rw [hgsnr, hpg]; exact h.pg,
    by rw [hxp, hgsnfr]; exact h.xp, ?_⟩
  intro hne
  rw [hgsnr, hgsnfr] at hne
  obtain ⟨hfits, hsaid, hvp⟩ := h.vector hne
  obtain ⟨hvec, hvpFlag⟩ := hvector hne
  refine ⟨?_, ?_, ?_⟩
  · rw [hgsnr, hgsnfr, hvec]
    exact hfits
  · rw [hgsnr, hgsnfr, hvec]
    exact hsaid
  · rw [hgsnr, hgsnfr, hvec, hvpFlag, hxp]
    exact hvp

end Truthful

section Walk

variable {parity : Nat → Bool}

theorem walkPacket_couldNot (state : VectorStates) (p : BufferedPacket) (w : VectorWalk) :
    (walkPacket state p w).2.couldNotCalculateVectorParity = w.couldNotCalculateVectorParity := by
  unfold walkPacket
  simp only
  split
  · rfl
  · split <;> rfl

theorem walkPacket_xored (state : VectorStates) (p : BufferedPacket) (w : VectorWalk) :
    (walkPacket state p w).2.xoredParity = if state.isReceived then logicalXOR w.xoredParity p.parity else w.xoredParity := by
  unfold walkPacket
  simp only
  split
  · rfl
  · split <;> rfl

theorem walkVector_couldNot (ps : List BufferedPacket) (n : Nat) (d : VectorDecoderState) (w : VectorWalk) (hrun : d.InRun)
    (h : w.couldNotCalculateVectorParity = true) : (walkVector ps n d w).2.couldNotCalculateVectorParity = true := by
  induction ps generalizing n d w with
  | nil => exact h
  | cons p ps ih =>
    by_cases hge : p.mSequenceNumber < n
    · rw [walkVector, if_pos hge]
      exact ih n d w hrun h
    rcases walkVector_turn p ps n d w hrun hge with ⟨hwalk, -⟩ | ⟨state, d'', w', -, hrun', -, hw', hwalk⟩
    · rw [hwalk]
      simp only [h, Bool.true_or]
    · rw [hwalk]
      refine ih _ d'' _ hrun' ?_
      rw [walkPacket_couldNot, hw']
      simp only [h, Bool.true_or]

/-- The walk over packets numbered without a gap gives the parity of the vector, if the vector ends
before the packets do. -/
theorem walkVector_parity (ps : List BufferedPacket) (k n : Nat) (d : VectorDecoderState) (w : VectorWalk)
    (hrun : d.InRun) (hnumbers : ps.map (fun p => p.mSequenceNumber) = List.range' k ps.length)
    (hparity : ∀ p ∈ ps, p.parity = parity p.mSequenceNumber) (hstart : k ≤ n ∨ ps ≠ [])
    (hend : n + d.remaining.length ≤ k + ps.length) :
    (walkVector ps n d w).2.couldNotCalculateVectorParity = true ∨
      (walkVector ps n d w).2.xoredParity = receivedParity parity n d.remaining w.xoredParity := by
  induction ps generalizing k n d w with
  | nil =>
    have hkn : k ≤ n := hstart.resolve_right fun h => h rfl
    have hnone : d.remaining = [] := by
      refine List.eq_nil_of_length_eq_zero ?_
      rw [List.length_nil] at hend
      omega
    rw [hnone]
    exact .inr rfl
  | cons p ps ih =>
    rw [List.map_cons, List.length_cons, List.range'_succ, List.cons.injEq] at hnumbers
    obtain ⟨hp, hnumbers⟩ := hnumbers
    rw [List.length_cons] at hend
    have hparity' : ∀ q ∈ ps, q.parity = parity q.mSequenceNumber := fun q hq => hparity q (List.mem_cons_of_mem _ hq)
    by_cases hge : p.mSequenceNumber < n
    · rw [walkVector, if_pos hge]
      exact ih (k + 1) n d w hrun hnumbers hparity' (.inl (by omega)) (by omega)
    rcases walkVector_turn p ps n d w hrun hge with ⟨hwalk, hshort⟩ | ⟨state, d'', w', hhere, hrun', hrest, hw', hwalk⟩
    · rw [hwalk]
      cases hany : d.remaining.any VectorStates.isReceived with
      | true => exact .inl (by simp only [Bool.or_true])
      | false => exact .inr (receivedParity_missing n d.remaining _ hany).symm
    · rw [hwalk]
      cases hany : (d.remaining.take (p.mSequenceNumber - n)).any VectorStates.isReceived with
      | true =>
        refine .inl (walkVector_couldNot ps _ d'' _ hrun' ?_)
        rw [walkPacket_couldNot, hw', hany]
        simp only [Bool.or_true]
      | false =>
        have hlt : p.mSequenceNumber - n < d.remaining.length := (List.getElem?_eq_some_iff.mp hhere).1
        have hdrop : d.remaining.drop (p.mSequenceNumber - n) = state :: d''.remaining := by
          rw [List.drop_eq_getElem_cons hlt, (List.getElem?_eq_some_iff.mp hhere).2, hrest]
        have hsplit : d.remaining = d.remaining.take (p.mSequenceNumber - n) ++ state :: d''.remaining := by
          rw [← hdrop, List.take_append_drop]
        have hlength : d''.remaining.length = d.remaining.length - (p.mSequenceNumber - n + 1) := by
          rw [hrest, List.length_drop]
        have hrec := ih (k + 1) (p.mSequenceNumber + 1) d'' (walkPacket state p w').2 hrun' hnumbers hparity'
          (.inl (by omega)) (by omega)
        refine hrec.imp_right fun hxor => ?_
        rw [hxor, hsplit, receivedParity_append, receivedParity_missing n _ _ hany, receivedParity, walkPacket_xored,
          hparity p List.mem_cons_self, hw', List.length_take, Nat.min_eq_left (Nat.le_of_lt hlt),
          show n + (p.mSequenceNumber - n) = p.mSequenceNumber by omega]

end Walk

/-- The parity of a packet that was sent. -/
def SendWindow.parityOf (first : Nat) (w : SendWindow) (n : Nat) : Bool :=
  ((w.records[n - first]?).map fun r => r.mRUDPPacket.isFlagSet .psParitySending).getD false

/-- The packets sent are numbered from the first one on, and each has the parity of all up to it. -/
structure SendInOrder (first : Nat) (w : SendWindow) : Prop where
  first_pos : 0 < first
  first_le : first ≤ w.mNextSequenceNumber
  numbers : w.records.map PacketRecord.mSequenceNumber = List.range' first (w.mNextSequenceNumber - first)
  xors : ∀ r ∈ w.records, r.mXORedParityToNow = xorParity (w.parityOf first) first r.mSequenceNumber
  xor : w.mXORedParityToNow = xorParity (w.parityOf first) first (w.mNextSequenceNumber - 1)

section Sender

variable {first : Nat} {w : SendWindow}

theorem SendInOrder.length (h : SendInOrder first w) : w.records.length = w.mNextSequenceNumber - first := by
  have hlength := congrArg List.length h.numbers
  rwa [List.length_map, List.length_range'] at hlength

variable {r : PacketRecord}

theorem SendInOrder.number (h : SendInOrder first w) {i : Nat} (hr : w.records[i]? = some r) :
    r.mSequenceNumber = first + i := by
  have hi := congrArg (·[i]?) h.numbers
  have hlt : i < w.mNextSequenceNumber - first := by
    rw [← h.length]
    exact (List.getElem?_eq_some_iff.mp hr).1
  simp only [List.getElem?_map, hr, Option.map_some] at hi
  rw [List.getElem?_eq_getElem (by rwa [List.length_range']), List.getElem_range', Nat.one_mul] at hi
  exact Option.some.inj hi

theorem SendInOrder.index (h : SendInOrder first w) (hr : r ∈ w.records) :
    first ≤ r.mSequenceNumber ∧ r.mSequenceNumber < w.mNextSequenceNumber ∧
      w.records[r.mSequenceNumber - first]? = some r := by
  obtain ⟨i, hlt, hi⟩ := List.getElem_of_mem hr
  have hi' : w.records[i]? = some r := by rw [List.getElem?_eq_getElem hlt, hi]
  have hnumber := h.number hi'
  rw [h.length] at hlt
  refine ⟨by omega, by omega, ?_⟩
  rw [show r.mSequenceNumber - first = i by omega]
  exact hi'

theorem SendInOrder.parity (h : SendInOrder first w) (hr : r ∈ w.records) :
    r.mRUDPPacket.isFlagSet .psParitySending = w.parityOf first r.mSequenceNumber := by
  rw [SendWindow.parityOf, (h.index hr).2.2]
  rfl

theorem mem_records_sending {p : BufferedPacket} (hp : p ∈ w.mSendingPackets) : p.toPacketRecord ∈ w.records :=
  List.mem_map_of_mem (List.mem_append_right _ hp)

theorem SendInOrder.sending (h : SendInOrder first w) :
    w.mSendingPackets.length ≤ w.mNextSequenceNumber - first ∧
      w.mSendingPackets.map (fun p => p.mSequenceNumber)
        = List.range' (w.mNextSequenceNumber - w.mSendingPackets.length) w.mSendingPackets.length := by
  have hlength := h.length
  have hnumbers := h.numbers
  rw [SendWindow.records, List.length_map, List.length_append] at hlength
  rw [SendWindow.records, List.map_map, List.map_append] at hnumbers
  have hfirst := h.first_le
  have hsending := congrArg (List.drop w.mRemovedPackets.length) hnumbers
  rw [List.drop_left' (by rw [List.length_map]), List.drop_range'] at hsending
  refine ⟨by omega, ?_⟩
  rw [show w.mNextSequenceNumber - w.mSendingPackets.length = first + w.mRemovedPackets.length * 1 by omega,
    show w.mSendingPackets.length = w.mNextSequenceNumber - first - w.mRemovedPackets.length by omega]
  exact hsending

theorem SendInOrder.of_same {w' : SendWindow} (h : SendInOrder first w) (hrecords : w'.records = w.records)
    (hnext : w'.mNextSequenceNumber = w.mNextSequenceNumber) (hparity : w'.mXORedParityToNow = w.mXORedParityToNow) :
    SendInOrder first w' := by
  have hparities : w'.parityOf first = w.parityOf first := by
    funext n
    rw [SendWindow.parityOf, hrecords, SendWindow.parityOf]
  refine ⟨h.first_pos, by rw [hnext]; exact h.first_le, by rw [hrecords, hnext]; exact h.numbers, ?_, ?_⟩
  · rw [hrecords, hparities]
    exact h.xors
  · rw [hparity, hparities, hnext]
    exact h.xor

variable {w' : SendWindow}

theorem SendInOrder.parityOf_prefix (h : SendInOrder first w) (hrecords : w.records <+: w'.records)
    {n : Nat} (hlow : first ≤ n) (hhigh : n < w.mNextSequenceNumber) : w'.parityOf first n = w.parityOf first n := by
  obtain ⟨new, hnew⟩ := hrecords
  have hlength := h.length
  rw [SendWindow.parityOf, SendWindow.parityOf, ← hnew, List.getElem?_append_left (by omega)]

theorem pushPacket_records (s : RUDPChannelStream) (stream : TransportStream Unit) (ackRequired : Bool) (now : Int)
    (p : BufferedPacket) :
    ((s.afterRead stream ackRequired).pushPacket now p).records = s.records ++ [p.toPacketRecord] := by
  rw [SendWindow.records, SendWindow.records, ← List.map_singleton, ← List.map_append, List.append_assoc]
  rfl

/-- One more packet with the next number, and with the parity of all up to it. -/
theorem SendInOrder.pushed (h : SendInOrder first w) (hrecords : w'.records = w.records ++ [r])
    (hnumber : r.mSequenceNumber = w.mNextSequenceNumber)
    (hxor : r.mXORedParityToNow = logicalXOR w.mXORedParityToNow (r.mRUDPPacket.isFlagSet .psParitySending))
    (hnext : w'.mNextSequenceNumber = w.mNextSequenceNumber + 1)
    (hparity : w'.mXORedParityToNow = r.mXORedParityToNow) : SendInOrder first w' := by
  have hlength := h.length
  have hfirst := h.first_le
  have hpos := h.first_pos
  have hkept : ∀ n, first ≤ n → n < w.mNextSequenceNumber → w'.parityOf first n = w.parityOf first n := fun n =>
    h.parityOf_prefix (by rw [hrecords]; exact List.prefix_append _ _)
  have hlast : w'.parityOf first w.mNextSequenceNumber = r.mRUDPPacket.isFlagSet .psParitySending := by
    rw [SendWindow.parityOf, hrecords, List.getElem?_append_right (by omega), hlength, Nat.sub_self,
      List.getElem?_cons_zero]
    rfl
  have hall : r.mXORedParityToNow = xorParity (w'.parityOf first) first w.mNextSequenceNumber := by
    have hadd := xorParity_add (w'.parityOf first) first (w.mNextSequenceNumber - 1) 1 (by omega)
    rw [show w.mNextSequenceNumber - 1 + 1 = w.mNextSequenceNumber by omega] at hadd
    rw [hadd, hxor, h.xor, ← hlast,
      xorParity_congr first (w.mNextSequenceNumber - 1) fun m hlow hhigh => hkept m hlow (by omega)]
    rfl
  refine ⟨hpos, by omega, ?_, ?_, ?_⟩
  · rw [hrecords, List.map_append, h.numbers, hnext,
      show w.mNextSequenceNumber + 1 - first = w.mNextSequenceNumber - first + 1 by omega, List.range'_concat,
      List.map_singleton, hnumber]
    congr 2
    omega
  · intro q hq
    rw [hrecords] at hq
    rcases List.mem_append.mp hq with hq | hq
    · have hhigh := (h.index hq).2.1
      rw [h.xors q hq]
      exact (xorParity_congr first q.mSequenceNumber fun m hlow hle => hkept m hlow (by omega)).symm
    · rw [List.mem_singleton.mp hq, hnumber]
      exact hall
  · rw [hnext, Nat.add_sub_cancel, hparity]
    exact hall

end Sender

section Outcome

variable {held : Nat → Prop} {first : Nat} {a : Ack} (s : RUDPChannelStream) (now : Int)

theorem findSending_some {n : Nat} {p : BufferedPacket} (h : s.findSending n = some p) :
    p ∈ s.mSendingPackets ∧ p.mSequenceNumber = n := by
  rw [findSending] at h
  exact ⟨List.mem_of_find?_eq_some h, by simpa using List.find?_some h⟩

theorem calculateRTT_sendWindow (p : BufferedPacket) : (s.calculateRTT now p).toSendWindow = s.toSendWindow := by
  unfold calculateRTT
  split
  · unfold setCalculatedRTT
    simp only
    split
    · rfl
    · split <;> rfl
  · rfl

theorem endSendingPeriod_sendWindow (hadPackets ecFlag : Bool) :
    (s.endSendingPeriod now hadPackets ecFlag).2.toSendWindow = s.toSendWindow := by
  unfold endSendingPeriod
  split <;> rfl

theorem acknowledgeVector_handled (hadPackets : Bool)
    (h : ∀ w : VectorWalk, w.xoredParity = a.xpFlag →
      (walkVector s.mSendingPackets (a.gsnfr + 1) (vectorDecoderStart a.vector a.gsnr a.gsnfr) w).2.couldNotCalculateVectorParity
        = true ∨
      (walkVector s.mSendingPackets (a.gsnfr + 1) (vectorDecoderStart a.vector a.gsnr a.gsnfr) w).2.xoredParity = a.vpFlag) :
    (s.acknowledgeVector now a hadPackets).1 = .handled := by
  unfold acknowledgeVector
  simp only
  split
  next hbad =>
    rcases h ⟨s.toCounters, a.xpFlag, false, false, false⟩ rfl with hnot | hsame
    · exact absurd hnot hbad.1
    · exact absurd hsame hbad.2
  · rfl

section

variable (hsend : SendInOrder first s.toSendWindow)
include hsend

/-- The packets left when those up to a number are let go of are the last ones, still without a gap. -/
theorem acknowledge_sending (gsnfr : Nat) (hsome : s.mSendingPackets.length ≠ 0)
    (hbelow : gsnfr + 1 < s.mNextSequenceNumber) : (s.acknowledge gsnfr).mSendingPackets ≠ [] ∧
    (s.acknowledge gsnfr).mSendingPackets.map (fun p => p.mSequenceNumber) =
      List.range' (s.mNextSequenceNumber - (s.acknowledge gsnfr).mSendingPackets.length)
        (s.acknowledge gsnfr).mSendingPackets.length ∧
    (s.acknowledge gsnfr).mSendingPackets.length ≤ s.mNextSequenceNumber ∧
    ∀ p ∈ (s.acknowledge gsnfr).mSendingPackets, p ∈ s.mSendingPackets := by
  obtain ⟨hrecords, hlow, ⟨k, hdrop⟩, -⟩ := cleanAcked_split gsnfr s.mSendingPackets s.toCounters
  obtain ⟨hle, hnumbers⟩ := hsend.sending
  have hrest : (s.acknowledge gsnfr).mSendingPackets = s.mSendingPackets.drop k := hdrop
  have hfirst := hsend.first_le
  refine ⟨?_, ?_, ?_, ?_⟩
  · intro hnone
    -- the last packet sent is beyond what was received in series
    have hlast : s.mNextSequenceNumber - 1 ∈ s.mSendingPackets.map fun p => p.mSequenceNumber := by
      rw [hnumbers, List.mem_range'_1]
      omega
    have hall : ∀ n ∈ s.mSendingPackets.map (fun p => p.mSequenceNumber), n ≤ gsnfr := by
      intro n hn
      have hmap := congrArg (List.map PacketRecord.mSequenceNumber) hrecords
      rw [List.map_map, List.map_map, show (cleanAcked gsnfr s.mSendingPackets s.toCounters).2.1 = [] from hnone,
        List.append_nil] at hmap
      change n ∈ s.mSendingPackets.map (PacketRecord.mSequenceNumber ∘ BufferedPacket.toPacketRecord) at hn
      rw [← hmap] at hn
      obtain ⟨p, hp, rfl⟩ := List.mem_map.mp hn
      exact (hlow p hp).1
    have hlastLow := hall _ hlast
    omega
  · rw [hrest, List.map_drop, hnumbers, List.drop_range', List.length_drop]
    rcases Nat.le_total k s.mSendingPackets.length with hk | hk
    · rw [show s.mNextSequenceNumber - s.mSendingPackets.length + k * 1
        = s.mNextSequenceNumber - (s.mSendingPackets.length - k) by omega]
    · rw [show s.mSendingPackets.length - k = 0 by omega]
      rfl
  · rw [hrest, List.length_drop]
    omega
  · intro p hp
    rw [hrest] at hp
    exact List.mem_of_mem_drop hp

theorem acceptAck_handled (hsome : s.mSendingPackets.length ≠ 0)
    (htrue : Truthful held (s.parityOf first) first s.mNextSequenceNumber a) : (s.acceptAck now a).1 = .handled := by
  unfold acceptAck
  simp only
  split
  · rfl
  next hne =>
    have hle := htrue.le
    have hbelow := htrue.below
    obtain ⟨hnonempty, hnumbers, hlength, hmem⟩ :=
      acknowledge_sending s hsend a.gsnfr hsome (by omega)
    obtain ⟨hfits, -, hvp⟩ := htrue.vector hne
    refine acknowledgeVector_handled _ now _ ?_
    rw [show ((s.acknowledge a.gsnfr).endSendingPeriod now (decide (s.mSendingPackets.length > 0)) a.ecFlag).2.mSendingPackets
      = (s.acknowledge a.gsnfr).mSendingPackets from
      congrArg SendWindow.mSendingPackets (endSendingPeriod_sendWindow (s.acknowledge a.gsnfr) now _ _)]
    intro w hw
    have hwalk := @walkVector_parity (s.parityOf first) (s.acknowledge a.gsnfr).mSendingPackets
      (s.mNextSequenceNumber - (s.acknowledge a.gsnfr).mSendingPackets.length) (a.gsnfr + 1)
      (vectorDecoderStart a.vector a.gsnr a.gsnfr) w (vectorDecoderStart_inRun _ _ _) hnumbers
      (fun p hp => hsend.parity (mem_records_sending (hmem p hp))) (.inr hnonempty) (by omega)
    rw [hw] at hwalk
    exact hwalk.imp_right fun hxor => hxor.trans hvp.symm

theorem processAck_handled (hsome : s.mSendingPackets.length ≠ 0)
    (htrue : Truthful held (s.parityOf first) first s.mNextSequenceNumber a) : (s.processAck now a).1 = .handled := by
  unfold processAck
  split
  · exact acceptAck_handled s now hsend hsome htrue
  next p hfind =>
    obtain ⟨hp, hnumber⟩ := findSending_some s hfind
    have hrecord := mem_records_sending hp
    have hlow := (hsend.index hrecord).1
    have hpg : a.pgFlag = p.parity := by
      rw [htrue.pg (by rw [← hnumber]; exact hlow), ← hnumber]
      exact (hsend.parity hrecord).symm
    have hsame := calculateRTT_sendWindow s now p
    simp only
    rw [if_neg (not_not_intro hpg)]
    refine @acceptAck_handled held first _ _ now (by rw [hsame]; exact hsend) ?_ ?_
    · rw [show (s.calculateRTT now p).mSendingPackets = s.mSendingPackets from
        congrArg SendWindow.mSendingPackets hsame]
      exact hsome
    · rw [hsame]
      exact htrue

/-- A truthful acknowledgement is never illegal. -/
theorem handleAck_handled (htrue : Truthful held (s.parityOf first) first s.mNextSequenceNumber a) :
    (s.handleAck now a).1 = .handled := by
  unfold handleAck
  split
  · rfl
  next hsome =>
  split
  next hgt => exact absurd htrue.le (Nat.not_le_of_gt hgt)
  · split
    · rfl
    · split
      · rfl
      · split
        · rfl
        · split
          next p hfind =>
            obtain ⟨hp, hnumber⟩ := findSending_some s hfind
            have hxp : a.xpFlag = p.mXORedParityToNow := by
              rw [htrue.xp, hsend.xors _ (mem_records_sending hp), hnumber]
            rw [if_neg (not_not_intro hxp)]
            exact processAck_handled s now hsend hsome htrue
          · exact processAck_handled s now hsend hsome htrue

end

end Outcome

end OpenPeer
