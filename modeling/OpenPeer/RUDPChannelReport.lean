import OpenPeer.RUDPChannelAckTruth

/-!
# What a channel stream reports

The acknowledgements a channel stream gives out, in a message of their own or in
the header of a packet, are truthful when its window is in order. Within a burst
the vector of the first packet is copied to the later ones; it is still true there
as long as nothing more was received in series meanwhile.
-/
namespace OpenPeer

open RUDPPacket Reorder RUDPChannelStream

/-- The packets an encoder is offered for a window: those received, and the holes before them. -/
def windowStates : List BufferedPacket → Nat → List (VectorStates × Bool)
  | [], _ => []
  | p :: ps, n =>
    List.replicate (p.mSequenceNumber - n) (.notReceived, false) ++
      (receivedState p, p.parity) :: windowStates ps (p.mSequenceNumber + 1)

section Window

theorem addMissing_offer (k : Nat) (e : VectorEncoderState) :
    addMissing k e = offer e (List.replicate k (.notReceived, false)) := by
  induction k generalizing e with
  | zero => rfl
  | succ k ih =>
    rw [addMissing, List.replicate_succ, offer]
    cases vectorEncoderAdd e .notReceived false with
    | mk added e' =>
      cases added with
      | false => rfl
      | true => exact ih e'

theorem fillVector_offer (ps : List BufferedPacket) (n : Nat) (e : VectorEncoderState)
    (hascending : Ascending (fun p : BufferedPacket => p.mSequenceNumber) ps) (hlow : ∀ p ∈ ps, n ≤ p.mSequenceNumber) :
    fillVector ps n e = (offer e (windowStates ps n)).2 := by
  induction ps generalizing n e with
  | nil => rfl
  | cons p ps ih =>
    obtain ⟨hp, hps⟩ := List.pairwise_cons.mp hascending
    have hn := hlow p List.mem_cons_self
    rw [fillVector, windowStates, offer_append, ← addMissing_offer]
    cases addMissing (p.mSequenceNumber - n) e with
    | mk added e' =>
      cases added with
      | false => rfl
      | true =>
        simp only [if_neg (Nat.not_lt_of_le hn), offer]
        cases vectorEncoderAdd e' (receivedState p) p.parity with
        | mk added' e'' =>
          cases added' with
          | false => rfl
          | true => exact ih (p.mSequenceNumber + 1) e'' hps fun q hq => hp q hq

theorem receivedState_isReceived (p : BufferedPacket) : (receivedState p).isReceived = true := by
  unfold receivedState
  split <;> rfl

/-- Each state of a window is that of a hole or of the packet with its number. -/
theorem windowStates_get (ps : List BufferedPacket) (n i : Nat) (x : VectorStates × Bool)
    (hascending : Ascending (fun p : BufferedPacket => p.mSequenceNumber) ps) (hlow : ∀ p ∈ ps, n ≤ p.mSequenceNumber)
    (hx : (windowStates ps n)[i]? = some x) :
    x.1 = .notReceived ∨ x.1.isReceived = true ∧ x.1.Offerable ∧
      ∃ p ∈ ps, p.mSequenceNumber = n + i ∧ x.2 = p.parity := by
  induction ps generalizing n i with
  | nil => cases hx
  | cons p ps ih =>
    obtain ⟨hp, hps⟩ := List.pairwise_cons.mp hascending
    have hn := hlow p List.mem_cons_self
    rw [windowStates] at hx
    by_cases hhole : i < p.mSequenceNumber - n
    · rw [List.getElem?_append_left (by rwa [List.length_replicate]), List.getElem?_replicate, if_pos hhole] at hx
      cases hx
      exact .inl rfl
    rw [List.getElem?_append_right (by rw [List.length_replicate]; omega), List.length_replicate] at hx
    rcases Nat.eq_zero_or_pos (i - (p.mSequenceNumber - n)) with hzero | hpos
    · rw [hzero, List.getElem?_cons_zero] at hx
      cases hx
      refine .inr ⟨receivedState_isReceived p, ?_, p, List.mem_cons_self, by omega, rfl⟩
      unfold receivedState
      split
      · exact .inr (.inl rfl)
      · exact .inl rfl
    · rw [show i - (p.mSequenceNumber - n) = i - (p.mSequenceNumber - n) - 1 + 1 by omega, List.getElem?_cons_succ] at hx
      rcases ih (p.mSequenceNumber + 1) _ hps hp hx with hnone | ⟨hreceived, hoffer, q, hq, hnumber, hparity⟩
      · exact .inl hnone
      · refine .inr ⟨hreceived, hoffer, q, List.mem_cons_of_mem _ hq, ?_, hparity⟩
        rw [hnumber]
        omega

theorem parityOf_received (parity : Nat → Bool) (n : Nat) (xs : List (VectorStates × Bool)) (b : Bool)
    (h : ∀ i x, xs[i]? = some x → x.1 = .notReceived ∨ x.1.isReceived = true ∧ x.2 = parity (n + i)) :
    parityOf b xs = receivedParity parity n (xs.map Prod.fst) b := by
  induction xs generalizing n b with
  | nil => rfl
  | cons x xs ih =>
    have hx : parityAfter b x.1 x.2 = if x.1.isReceived then logicalXOR b (parity n) else b := by
      rcases h 0 x rfl with hnone | ⟨hreceived, hparity⟩
      · rw [hnone]
        rfl
      · have hstate : x.1 ≠ .notReceived := fun hnone => by rw [hnone] at hreceived; cases hreceived
        rw [parityAfter, if_pos hstate, hreceived, if_pos rfl, hparity, Nat.add_zero]
    rw [List.map_cons, receivedParity, ← hx]
    refine ih (n + 1) _ fun i y hy => ?_
    have hi := h (i + 1) y hy
    rwa [show n + (i + 1) = n + 1 + i by omega] at hi

end Window

section Truth

variable {held : Nat → Prop} {first next : Nat} {parity : Nat → Bool} {w : ReceiveWindow} {a : Ack}

theorem vectorTruth_missing (hlt : a.gsnfr < a.gsnr) (hremaining : (vectorDecoderStart a.vector a.gsnr a.gsnfr).remaining
    = List.replicate ((a.gsnr - a.gsnfr - 1) % 64) .notReceived) (hvp : a.vpFlag = a.xpFlag) :
    VectorTruth held parity a := by
  have hnone : (List.replicate ((a.gsnr - a.gsnfr - 1) % 64) VectorStates.notReceived).any VectorStates.isReceived
      = false := by
    rw [List.any_eq_false]
    intro state hstate
    rw [List.eq_of_mem_replicate hstate]
    decide
  refine ⟨?_, ?_, ?_⟩
  · rw [hremaining, List.length_replicate]
    have := Nat.mod_le (a.gsnr - a.gsnfr - 1) 64
    omega
  · rw [hremaining]
    intro i state hi hreceived
    rw [List.eq_of_mem_replicate (List.mem_of_getElem? hi)] at hreceived
    cases hreceived
  · rw [hremaining, hvp, receivedParity_missing _ _ _ hnone]

theorem vectorTruth_empty (hlt : a.gsnfr < a.gsnr) (hvector : a.vector = []) (hvp : a.vpFlag = a.xpFlag) :
    VectorTruth held parity a :=
  vectorTruth_missing hlt (by rw [hvector]; exact decoder_special a.gsnr a.gsnfr hlt) hvp

/-- A vector of a window that is in order stands for the first packets it is offered. -/
theorem encodeVector_encodes (h : WindowOrder w) (size : Nat) :
    ∃ k, Encoded (encodeVector w size)
        (((windowStates w.mReceivedPackets (w.mGSNFR + 1)).take k).map Prod.fst) ∧
      (encodeVector w size).mXORedParityToNow
        = parityOf w.mXORedParityToGSNFR ((windowStates w.mReceivedPackets (w.mGSNFR + 1)).take k) ∧
      (encodeVector w size).mGSNR = w.mGSNR ∧
      (encodeVector w size).mGSNFR = w.mGSNFR ∧
      (encodeVector w size).mMaxVectorSizeInBytes = size := by
  have hlow : ∀ p ∈ w.mReceivedPackets, w.mGSNFR + 1 ≤ p.mSequenceNumber := fun p hp => Nat.le_of_lt (h.keys p hp).1
  have hoffer : ∀ x ∈ windowStates w.mReceivedPackets (w.mGSNFR + 1), x.1.Offerable := by
    intro x hx
    obtain ⟨i, hi⟩ := List.getElem?_of_mem hx
    rcases windowStates_get _ _ i x h.ascending hlow hi with hnone | ⟨-, hoffer, -⟩
    · exact .inr (.inr hnone)
    · exact hoffer
  obtain ⟨k, e, hencode, -, hencoded, hparity, hr, hfr, hmax⟩ :=
    offer_encodes _ [] (windowStates w.mReceivedPackets (w.mGSNFR + 1))
      (vectorEncoderStart_encoding w.mGSNR w.mGSNFR w.mXORedParityToGSNFR size) hoffer
  have hvector : encodeVector w size = e := by
    rw [encodeVector, fillVector_offer _ _ _ h.ascending hlow, hencode]
  rw [List.nil_append] at hencoded
  rw [hvector]
  exact ⟨k, hencoded, hparity, hr, hfr, hmax⟩

theorem windowStates_true (h : WindowOrder w) (hparities : ∀ p ∈ w.mReceivedPackets, p.parity = parity p.mSequenceNumber)
    (k i : Nat) (x : VectorStates × Bool)
    (hx : ((windowStates w.mReceivedPackets (w.mGSNFR + 1)).take k)[i]? = some x) :
    x.1 = .notReceived ∨ x.1.isReceived = true ∧ x.2 = parity (w.mGSNFR + 1 + i) ∧
      ∃ p ∈ w.mReceivedPackets, p.mSequenceNumber = w.mGSNFR + 1 + i := by
  have hlow : ∀ p ∈ w.mReceivedPackets, w.mGSNFR + 1 ≤ p.mSequenceNumber := fun p hp => Nat.le_of_lt (h.keys p hp).1
  have hx' : (windowStates w.mReceivedPackets (w.mGSNFR + 1))[i]? = some x := by
    rw [List.getElem?_take] at hx
    split at hx
    · exact hx
    · cases hx
  rcases windowStates_get _ _ i x h.ascending hlow hx' with hnone | ⟨hreceived, -, p, hp, hnumber, hx⟩
  · exact .inl hnone
  · exact .inr ⟨hreceived, by rw [hx, hparities p hp, hnumber], p, hp, hnumber⟩

/-- The vector of a window that is in order is true. -/
theorem vectorTruth_window (h : WindowOrder w)
    (hparities : ∀ p ∈ w.mReceivedPackets, p.parity = parity p.mSequenceNumber) (hlt : w.mGSNFR < w.mGSNR)
    (hheld : ∀ p ∈ w.mReceivedPackets, held p.mSequenceNumber) (size : Nat) (hgsnr : a.gsnr = w.mGSNR)
    (hgsnfr : a.gsnfr = w.mGSNFR) (hxp : a.xpFlag = w.mXORedParityToGSNFR)
    (hvector : a.vector = (vectorEncoderFinalize (encodeVector w size)).2)
    (hvp : a.vpFlag = (vectorEncoderFinalize (encodeVector w size)).1) : VectorTruth held parity a := by
  obtain ⟨k, hencoded, hparity, hr, hfr, -⟩ := encodeVector_encodes h size
  obtain ⟨hfinal, -, hdecodes⟩ := vectorEncoderFinalize_decodes _ _ hencoded (by rw [hr, hfr]; exact hlt)
  have hbelow := hencoded.below
  have hvpStates : a.vpFlag = receivedParity parity (a.gsnfr + 1)
      (((windowStates w.mReceivedPackets (w.mGSNFR + 1)).take k).map Prod.fst) a.xpFlag := by
    rw [hvp, hfinal, hparity, hxp, hgsnfr]
    refine parityOf_received parity _ _ _ fun i x hi => ?_
    exact (windowStates_true h hparities k i x hi).imp_right fun hx => ⟨hx.1, hx.2.1⟩
  have hsaid : ∀ i state, (((windowStates w.mReceivedPackets (w.mGSNFR + 1)).take k).map Prod.fst)[i]? = some state →
      state.isReceived = true → held (a.gsnfr + 1 + i) := by
    intro i state hi hreceived
    rw [List.getElem?_map] at hi
    obtain ⟨x, hx, rfl⟩ := Option.map_eq_some_iff.mp hi
    rcases windowStates_true h hparities k i x hx with hnone | ⟨-, -, p, hp, hnumber⟩
    · rw [hnone] at hreceived
      cases hreceived
    · rw [hgsnfr, ← hnumber]
      exact hheld p hp
  rw [hr, hfr, ← hvector] at hdecodes
  rw [hr, hfr] at hbelow
  generalize ((windowStates w.mReceivedPackets (w.mGSNFR + 1)).take k).map Prod.fst = states at *
  rw [← hgsnr, ← hgsnfr] at hdecodes hbelow hlt
  rcases hdecodes with hsame | ⟨hmissing, hremaining⟩
  · refine ⟨?_, by rw [hsame]; exact hsaid, by rw [hsame]; exact hvpStates⟩
    rw [hsame]
    rcases hbelow with hnone | hbelow
    · rw [hnone]
      exact hlt
    · exact hbelow
  · refine vectorTruth_missing hlt hremaining ?_
    rw [hvpStates, receivedParity_missing]
    rw [List.any_eq_false]
    intro state hstate
    rw [hmissing state hstate]
    decide

/-- What a window holds. -/
def ReceiveWindow.Holds (w : ReceiveWindow) (n : Nat) : Prop :=
  n ≤ w.mGSNFR ∨ ∃ p ∈ w.mReceivedPackets, p.mSequenceNumber = n

/-- What a stream has received; one that was ended has forgotten. -/
def RUDPChannelStream.HasReceived (s : RUDPChannelStream) (n : Nat) : Prop := s.isShutdown = true ∨ s.Holds n

variable {s : RUDPChannelStream}

section

variable (h : InOrder first parity s.toReceiveWindow)
  (hgreatest : s.isShutdown = false → GreatestHeld s.toReceiveWindow) (hbelow : s.mGSNR < next)
include h hgreatest hbelow

theorem truthful_window (hgsnr : a.gsnr = s.mGSNR) (hgsnfr : a.gsnfr = s.mGSNFR) (hpg : a.pgFlag = s.mGSNRParity)
    (hxp : a.xpFlag = s.mXORedParityToGSNFR) (hvector : s.mGSNFR < s.mGSNR → VectorTruth s.HasReceived parity a) :
    Truthful s.HasReceived parity first next a := by
  have hle := h.le
  refine ⟨by omega, by rw [hgsnfr]; exact h.first_le, by omega, ?_, ?_, ?_, ?_, ?_⟩
  · intro n hn
    exact .inr (.inl (by rwa [← hgsnfr]))
  · rw [hgsnr]
    cases hshut : s.isShutdown with
    | true => exact .inl hshut
    | false =>
      by_cases hne : s.mGSNR = s.mGSNFR
      · exact .inr (.inl (Nat.le_of_eq hne))
      · exact .inr (.inr (hgreatest hshut hne))
  · intro hlow
    rw [hpg, hgsnr]
    exact h.greatestParity (by omega)
  · rw [hxp, hgsnfr]
    exact h.xor
  · intro hne
    exact hvector (by omega)

theorem getState_truthful (size : Nat) : Truthful s.HasReceived parity first next (s.getState size) := by
  refine truthful_window h hgreatest hbelow rfl rfl rfl rfl fun hlt => ?_
  by_cases hsize : size ≠ 0
  · refine vectorTruth_window h.window h.parities hlt (fun p hp => .inr (.inr ⟨p, hp, rfl⟩)) size rfl rfl rfl ?_ ?_
    · exact congrArg Prod.snd (if_pos hsize)
    · exact congrArg Prod.fst (if_pos hsize)
  · refine vectorTruth_empty hlt ?_ ?_
    · exact congrArg Prod.snd (if_neg hsize)
    · exact congrArg Prod.fst (if_neg hsize)

end

end Truth

/-- The acknowledgement in the header of a packet that was sent. -/
def PacketRecord.ack (r : PacketRecord) : Ack where
  nextSequenceNumber := r.mSequenceNumber
  gsnr := r.gsnr
  gsnfr := r.gsnfr
  vector := r.mRUDPPacket.vectorBytes
  vpFlag := r.mRUDPPacket.isVectorFlagSet
  pgFlag := r.mRUDPPacket.isFlagSet .pgParityGSNR
  xpFlag := r.mRUDPPacket.isFlagSet .xpXORedParityToGSNFR
  dpFlag := r.mRUDPPacket.isFlagSet .dpDuplicatePacket
  ecFlag := r.mRUDPPacket.isFlagSet .ecECNPacket

/-- The header of a packet has the numbers it was given, cut to 24 bits. -/
structure PacketRecord.Headed (r : PacketRecord) : Prop where
  sequenceNumber : r.mRUDPPacket.mSequenceNumber = low24 r.mSequenceNumber
  gsnr : r.mRUDPPacket.mGSNR = low24 r.gsnr
  gsnfr : r.mRUDPPacket.mGSNFR = low24 r.gsnfr
  eqFlag : r.mRUDPPacket.eqFlag = (r.gsnr == r.gsnfr)

/-- The vector of the first packet of a burst that had nothing to say. -/
def PacketRecord.SaysNothing (r : PacketRecord) : Prop :=
  r.gsnr = r.gsnfr → r.mRUDPPacket.vectorBytes = [] ∧
    r.mRUDPPacket.isVectorFlagSet = r.mRUDPPacket.isFlagSet .xpXORedParityToGSNFR

section Creation

theorem eqFlag_eq (p : RUDPPacket) : p.eqFlag = p.isFlagSet .eqGSNREqualsGSNFR := by
  have hbyte : ∀ b : UInt8, (b &&& 0x04 != 0) = byteIsSet b 0x04 := by
    apply Bytes.forall_byte (P := fun b => (b &&& 0x04 != 0) = byteIsSet b 0x04)
    decide +kernel
  exact hbyte p.mFlags

variable {first next : Nat} {parity : Nat → Bool} {s : RUDPChannelStream}

theorem newPacket_flags (bit : Bool) (s : RUDPChannelStream) :
    (s.newPacket bit).isFlagSet .psParitySending = bit ∧ (s.newPacket bit).isFlagSet .pgParityGSNR = s.mGSNRParity ∧
      (s.newPacket bit).isFlagSet .xpXORedParityToGSNFR = s.mXORedParityToGSNFR ∧
      (s.newPacket bit).isFlagSet .eqGSNREqualsGSNFR = (s.mGSNR == s.mGSNFR) := by
  simp [newPacket, isFlagSet, setFlag, setGSN, setSequenceNumber, byteIsSet_byteSet]

theorem vectoredPacket_header (bit : Bool) (l : SendNow) (s : RUDPChannelStream) :
    (s.vectoredPacket bit l).mFlags = (s.newPacket bit).mFlags ∧
      (s.vectoredPacket bit l).mSequenceNumber = low24 s.mNextSequenceNumber ∧
      (s.vectoredPacket bit l).mGSNR = low24 s.mGSNR ∧ (s.vectoredPacket bit l).mGSNFR = low24 s.mGSNFR := by
  unfold vectoredPacket
  split <;> exact ⟨rfl, rfl, rfl, rfl⟩

theorem Completes.same {packet vectored : RUDPPacket} (h : Completes packet vectored) :
    packet.mSequenceNumber = vectored.mSequenceNumber ∧ packet.mGSNR = vectored.mGSNR ∧
      packet.mGSNFR = vectored.mGSNFR ∧ packet.vectorBytes = vectored.vectorBytes ∧
      packet.isVectorFlagSet = vectored.isVectorFlagSet ∧
      ∀ f, f ≠ .arACKRequired → packet.isFlagSet f = vectored.isFlagSet f := by
  obtain ⟨data, rfl | rfl⟩ := h
  · exact ⟨rfl, rfl, rfl, rfl, rfl, fun _ _ => rfl⟩
  · refine ⟨rfl, rfl, rfl, rfl, rfl, fun f hf => ?_⟩
    rw [isFlagSet_setFlag, if_neg (Ne.symm hf)]
    rfl

theorem encodeOnto_vector (h : WindowOrder s.toReceiveWindow) (packet : RUDPPacket) :
    (encodeOnto packet s.toReceiveWindow).vectorBytes
        = (vectorEncoderFinalize (encodeVector s.toReceiveWindow 0x7F)).2 ∧
      (encodeOnto packet s.toReceiveWindow).isVectorFlagSet
        = (vectorEncoderFinalize (encodeVector s.toReceiveWindow 0x7F)).1 := by
  obtain ⟨k, hencoded, -, -, -, hmax⟩ := encodeVector_encodes h 0x7F
  have hfits := hencoded.fits
  rw [hmax] at hfits
  refine ⟨?_, isVectorFlagSet_setVectorFlag _ _⟩
  unfold encodeOnto vectorBytes
  simp only
  generalize encodeVector s.toReceiveWindow 0x7F = e at *
  have hfinal : (vectorEncoderFinalize e).2 = [] ∨ (vectorEncoderFinalize e).2 = e.mVector.reverse := by
    unfold vectorEncoderFinalize
    split
    · exact .inl rfl
    · split
      · exact .inl rfl
      · split
        · exact .inl rfl
        · exact .inr rfl
  rcases hfinal with hnone | hall
  · rw [hnone]
    rfl
  · rw [hall, UInt8.toNat_ofNat_of_lt' (by rw [List.length_reverse]; exact lt_of_le_of_lt hfits (by decide))]
    exact take_vectorArray _ (by rw [List.length_reverse]; omega)

/-- A window without a gap has nothing to say in a vector. -/
theorem encodeVector_nothing {w : ReceiveWindow} (h : WindowOrder w) (heq : w.mGSNR = w.mGSNFR) (size : Nat) :
    vectorEncoderFinalize (encodeVector w size) = (w.mXORedParityToGSNFR, []) := by
  obtain ⟨k, hencoded, hparity, hr, hfr, -⟩ := encodeVector_encodes h size
  have hnone : (windowStates w.mReceivedPackets (w.mGSNFR + 1)).take k = [] := by
    rcases hencoded.below with hnone | hbelow
    · exact List.map_eq_nil_iff.mp hnone
    · rw [hr, hfr] at hbelow
      omega
  rw [hnone] at hparity
  unfold vectorEncoderFinalize
  rw [hparity]
  split
  · rfl
  · rw [if_pos (by rw [hr, hfr, heq])]
    rfl

theorem vectorTruth_copied {held : Nat → Prop} {a a' : Ack} (h : VectorTruth held parity a)
    (hgsnfr : a'.gsnfr = a.gsnfr) (hgsnr : a.gsnr ≤ a'.gsnr) (hvector : a'.vector = a.vector)
    (hvp : a'.vpFlag = a.vpFlag) (hxp : a'.xpFlag = a.xpFlag) : VectorTruth held parity a' := by
  obtain ⟨hfits, hsaid, htrue⟩ := h
  have hlt : a.gsnfr < a.gsnr := by omega
  by_cases hempty : a.vector = []
  · refine vectorTruth_empty (by omega) (hvector.trans hempty) ?_
    rw [hvp, htrue, hempty, decoder_special _ _ hlt, receivedParity_missing, hxp]
    rw [List.any_eq_false]
    intro state hstate
    rw [List.eq_of_mem_replicate hstate]
    decide
  · have hsame : vectorDecoderStart a'.vector a'.gsnr a'.gsnfr = vectorDecoderStart a.vector a.gsnr a.gsnfr := by
      have hlength : a.vector.length ≠ 0 := fun hzero => hempty (List.length_eq_zero_iff.mp hzero)
      rw [vectorDecoderStart, vectorDecoderStart, hvector, if_neg fun h => hlength h.2, if_neg fun h => hlength h.2]
    refine ⟨?_, ?_, ?_⟩
    · rw [hsame, hgsnfr]
      exact lt_of_lt_of_le hfits hgsnr
    · rw [hsame, hgsnfr]
      exact hsaid
    · rw [hsame, hgsnfr, hvp, hxp]
      exact htrue

/-- A new packet says the truth: the first of a burst has a vector of the window, and a later one
that of the first, as long as nothing was received in series since or there is nothing to say. -/
theorem created_truthful (h : InOrder first parity s.toReceiveWindow)
    (hgreatest : s.isShutdown = false → GreatestHeld s.toReceiveWindow) (hbelow : s.mGSNR < next) (bit : Bool)
    (l : SendNow) (r : PacketRecord) (hpacket : Completes r.mRUDPPacket (s.vectoredPacket bit l))
    (hnumber : r.mSequenceNumber = s.mNextSequenceNumber) (hgsnr : r.gsnr = s.mGSNR) (hgsnfr : r.gsnfr = s.mGSNFR)
    (hfirst : ∀ n p, l.firstPacketCreated = some n → s.findPacket n = some p →
      Truthful s.HasReceived parity first next p.ack ∧ p.SaysNothing ∧ p.gsnr ≤ s.mGSNR)
    (hcoherent : ∀ n p, l.firstPacketCreated = some n → s.findPacket n = some p →
      p.gsnfr = s.mGSNFR ∨ s.mGSNR = s.mGSNFR) :
    r.Headed ∧ r.mRUDPPacket.isFlagSet .psParitySending = bit ∧ Truthful s.HasReceived parity first next r.ack ∧
      (l.firstPacketCreated = none → r.SaysNothing) := by
  obtain ⟨hflags, hseq, hr, hfr⟩ := vectoredPacket_header bit l s
  obtain ⟨hps, hpg, hxp, heq⟩ := newPacket_flags bit s
  obtain ⟨hseq', hr', hfr', hvector, hvp, hsame⟩ := hpacket.same
  have hflag : ∀ f, f ≠ .arACKRequired → r.mRUDPPacket.isFlagSet f = (s.newPacket bit).isFlagSet f := by
    intro f hf
    rw [hsame f hf, isFlagSet, hflags]
    rfl
  have hrXp : r.ack.xpFlag = s.mXORedParityToGSNFR := (hflag _ (by decide)).trans hxp
  have hencoded : l.firstPacketCreated.bind s.findPacket = none →
      r.mRUDPPacket.vectorBytes = (vectorEncoderFinalize (encodeVector s.toReceiveWindow 0x7F)).2 ∧
        r.mRUDPPacket.isVectorFlagSet
          = (vectorEncoderFinalize (encodeVector s.toReceiveWindow 0x7F)).1 := by
    intro hnone
    have hvectored : s.vectoredPacket bit l = encodeOnto (s.newPacket bit) s.toReceiveWindow := by
      rw [vectoredPacket, hnone]
    rw [hvector, hvp, hvectored]
    exact encodeOnto_vector h.window _
  refine ⟨⟨by rw [hseq', hseq, hnumber], by rw [hr', hr, hgsnr], by rw [hfr', hfr, hgsnfr], ?_⟩,
    (hflag _ (by decide)).trans hps, ?_, ?_⟩
  · rw [eqFlag_eq, hflag _ (by decide), heq, hgsnr, hgsnfr]
  · refine truthful_window h hgreatest hbelow hgsnr hgsnfr ((hflag _ (by decide)).trans hpg) hrXp fun hlt => ?_
    cases hpointer : l.firstPacketCreated.bind s.findPacket with
    | none =>
      obtain ⟨hbytes, hbit⟩ := hencoded hpointer
      exact vectorTruth_window h.window h.parities hlt (fun p hp => .inr (.inr ⟨p, hp, rfl⟩)) 0x7F hgsnr hgsnfr hrXp hbytes hbit
    | some p =>
      obtain ⟨n, hn, hp⟩ := Option.bind_eq_some_iff.mp hpointer
      obtain ⟨htrue, hnothing, hle⟩ := hfirst n p hn hp
      have hsameGsnfr : p.gsnfr = s.mGSNFR := (hcoherent n p hn hp).resolve_right (Nat.ne_of_gt hlt)
      have hvectored : s.vectoredPacket bit l = copyVector (s.newPacket bit) p.mRUDPPacket := by
        rw [vectoredPacket, hpointer]
      have hcopied : r.ack.vector = p.ack.vector ∧ r.ack.vpFlag = p.ack.vpFlag := by
        refine ⟨?_, ?_⟩
        · change r.mRUDPPacket.vectorBytes = _
          rw [hvector, hvectored]
          rfl
        · change r.mRUDPPacket.isVectorFlagSet = _
          rw [hvp, hvectored]
          exact isVectorFlagSet_setVectorFlag _ _
      have hpXp : r.ack.xpFlag = p.ack.xpFlag := by
        rw [hrXp, htrue.xp, h.xor]
        exact congrArg _ hsameGsnfr.symm
      by_cases hgap : p.gsnr = p.gsnfr
      · obtain ⟨hbytes, hbit⟩ := hnothing hgap
        refine vectorTruth_empty ?_ (hcopied.1.trans hbytes) ?_
        · change r.gsnfr < r.gsnr
          rwa [hgsnr, hgsnfr]
        · rw [hcopied.2, hpXp]
          exact hbit
      · refine vectorTruth_copied (htrue.vector hgap) ?_ ?_ hcopied.1 hcopied.2 hpXp
        · change r.gsnfr = p.gsnfr
          rw [hgsnfr, hsameGsnfr]
        · change p.gsnr ≤ r.gsnr
          rwa [hgsnr]
  · intro hnone hsays
    obtain ⟨hbytes, hbit⟩ := hencoded (by rw [hnone]; rfl)
    rw [encodeVector_nothing h.window (by rw [← hgsnr, ← hgsnfr, hsays])] at hbytes hbit
    exact ⟨hbytes, hbit.trans hrXp.symm⟩

end Creation

end OpenPeer
