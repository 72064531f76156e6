import OpenPeer.RUDPPacketVector

/-!
# What is decoded from an encoded vector

A vector of one run of missing packets is left out, and the decoder makes up for it with
a run that reaches the greatest sequence number: that is the run that was encoded just
when the packets that were offered reach it too.
-/
namespace OpenPeer

open Bytes RUDPPacket

section Decoding

/-- The states that a decoder gives when it is asked a number of times. -/
def decoded : Nat → VectorDecoderState → List VectorStates
  | 0, _ => []
  | n + 1, d =>
    let next := vectorDecoderGetNextPacketState d
    next.1 :: decoded n next.2

theorem decoded_eq (n : Nat) (d : VectorDecoderState) (h : d.InRun) :
    decoded n d = (d.remaining ++ List.replicate n VectorStates.noMoreData).take n := by
  induction n generalizing d with
  | zero => rfl
  | succ n ih =>
    rw [decoded]
    rcases vectorDecoderGetNextPacketState_remaining d h with ⟨hnone, hnext⟩ | ⟨state, d', hremaining, hrun, -, hnext⟩
    · have hrest := ih d h
      rw [hnone, List.nil_append, List.take_of_length_le (by simp)] at hrest
      simp only [hnext, hnone, List.nil_append, hrest]
      rw [List.take_of_length_le (by simp), List.replicate_succ]
    · simp only [hnext, hremaining, List.cons_append, List.take_succ_cons]
      have hroom : n ≤ (d'.remaining ++ List.replicate n VectorStates.noMoreData).length := by simp
      rw [ih d' hrun, List.replicate_succ', ← List.append_assoc, List.take_append_of_le_length hroom]

theorem remaining_states {d : VectorDecoderState} : ∀ state ∈ d.remaining, state ≠ .noMoreData := by
  have hexpand : ∀ bs : List UInt8, ∀ state ∈ expand bs, state ≠ .noMoreData := by
    intro bs
    induction bs with
    | nil => simp [expand]
    | cons b bs ih =>
      intro state hstate
      rw [expand] at hstate
      split at hstate
      · cases hstate
      · rcases List.mem_append.mp hstate with hstate | hstate
        · rw [List.eq_of_mem_replicate hstate]
          unfold VectorStates.ofByte
          split
          · decide
          · split
            · decide
            · split <;> decide
        · exact ih state hstate
  exact fun state hstate => hexpand _ state (List.mem_of_mem_drop hstate)

theorem decoded_iff {d : VectorDecoderState} (h : d.InRun) {states : List VectorStates}
    (hstates : ∀ state ∈ states, state ≠ .noMoreData) :
    (∀ n, decoded n d = (states ++ List.replicate n VectorStates.noMoreData).take n) ↔ d.remaining = states := by
  constructor
  · intro hall
    have htake : ∀ (as : List VectorStates) (k : Nat), (∀ state ∈ as, state ≠ .noMoreData) →
        ((as ++ List.replicate (as.length + k) VectorStates.noMoreData).take (as.length + k)).takeWhile (· ≠ VectorStates.noMoreData) = as := by
      intro as k has
      rw [List.take_append, List.take_of_length_le (Nat.le_add_right _ _), Nat.add_sub_cancel_left,
        List.takeWhile_append_of_pos fun state hstate => decide_eq_true (has state hstate)]
      cases k <;> simp [List.take_replicate, List.replicate_succ]
    have hn := hall (d.remaining.length + states.length)
    rw [decoded_eq _ d h] at hn
    have hleft := htake d.remaining states.length remaining_states
    have hright := htake states d.remaining.length hstates
    rw [hn, Nat.add_comm] at hleft
    rw [← hleft, hright]
  · rintro rfl n
    exact decoded_eq n d h

end Decoding

section Encoding

variable {e e' : VectorEncoderState} {states : List VectorStates} {state : VectorStates} {parity : Bool}

/-- A second byte was taken for another state, or because the run of the first one was full. -/
def Spread (e : VectorEncoderState) (states : List VectorStates) : Prop :=
  2 ≤ e.mVector.length → (∃ state ∈ states, state ≠ .notReceived) ∨ 64 ≤ states.length

theorem Spread.append (h : (∃ s ∈ states, s ≠ .notReceived) ∨ 64 ≤ states.length) :
    (∃ s ∈ states ++ [state], s ≠ .notReceived) ∨ 64 ≤ (states ++ [state]).length := by
  rcases h with ⟨s, hs, hne⟩ | hlength
  · exact .inl ⟨s, List.mem_append_left _ hs, hne⟩
  · exact .inr (by rw [List.length_append]; omega)

theorem vectorEncoderAdd_spread (h : Encoding e states) (hspread : Spread e states)
    (hadd : vectorEncoderAdd e state parity = (true, e')) : Spread e' (states ++ [state]) := by
  unfold vectorEncoderAdd at hadd
  simp only at hadd
  split at hadd
  case isTrue => cases hadd
  case isFalse =>
    split at hadd
    case h_1 hnil =>
      split at hadd
      · cases hadd
      · cases hadd
        intro htwo
        simp [startByte, hnil] at htwo
    case h_2 b rest hvector =>
      split at hadd
      case isTrue hnew =>
        split at hadd
        · cases hadd
        cases hadd
        intro _
        cases rest with
        | cons c rest => exact Spread.append (hspread (by simp [hvector]))
        | nil =>
          have hstates : states = List.replicate (runLength b) (.ofByte b) := by
            have hexpands := h.expands
            rw [hvector, List.reverse_singleton, expand_singleton] at hexpands
            exact hexpands.symm
          have hlast : VectorStates.ofByte b = e.mLastState := h.current b [] hvector
          rcases hnew with hother | hfull
          · by_cases hstate : state = .notReceived
            · refine .inl ⟨e.mLastState, List.mem_append_left _ ?_, hstate ▸ hother⟩
              rw [hstates, hlast]
              exact List.mem_replicate.mpr ⟨h.runs b (by rw [hvector]; exact List.mem_singleton_self b), rfl⟩
            · exact .inl ⟨state, by simp, hstate⟩
          · have hrun : runLength b = 63 := by
              rw [runLength, hfull]
              rfl
            refine .inr ?_
            rw [hstates, hrun]
            simp
      case isFalse =>
        cases hadd
        exact fun htwo => Spread.append (hspread (by rw [hvector]; exact htwo))

theorem offer_spread (e : VectorEncoderState) (states : List VectorStates) (xs : List (VectorStates × Bool))
    (h : Encoding e states) (hspread : Spread e states) (hoffer : ∀ x ∈ xs, x.1.Offerable) :
    Spread (offer e xs).2 (states ++ (xs.take (accepted e xs)).map Prod.fst) := by
  induction xs generalizing e states with
  | nil => simpa [offer, accepted] using hspread
  | cons x xs ih =>
    rcases vectorEncoderAdd_cases e states x.1 x.2 h (hoffer x List.mem_cons_self) with ⟨e1, hadd, henc, -⟩ | hadd
    · have hrest := ih e1 _ henc (vectorEncoderAdd_spread h hspread hadd) fun y hy => hoffer y (List.mem_cons_of_mem _ hy)
      rw [offer, accepted, hadd]
      rw [List.append_assoc] at hrest
      exact hrest
    · rw [offer, accepted, hadd, List.take_zero, List.map_nil, List.append_nil]
      exact hspread

/-- The packets of an offer between the two sequence numbers are not all missing, or more than a
byte holds; or they reach the greatest sequence number, or so far as the decoder makes it up. -/
def Reaches (gsnr gsnfr : Nat) (xs : List (VectorStates × Bool)) : Prop :=
  (∃ x ∈ xs.take (gsnr - gsnfr - 1), x.1 ≠ .notReceived) ∨ 64 ≤ xs.length ∨ gsnr - gsnfr - 1 ≤ xs.length ∨
    xs.length = (gsnr - gsnfr - 1) % 64

theorem parityOf_eq (parity : Bool) (xs : List (VectorStates × Bool)) :
    parityOf parity xs = (xs.filter fun x => x.1 ≠ .notReceived).foldl (fun p x => p ^^ x.2) parity := by
  induction xs generalizing parity with
  | nil => rfl
  | cons x xs ih =>
    have hcons : parityOf parity (x :: xs) = parityOf (parityAfter parity x.1 x.2) xs := rfl
    rw [hcons, ih, List.filter_cons]
    by_cases hx : x.1 = .notReceived
    · simp [hx, parityAfter]
    · simp [hx, parityAfter, logicalXOR]

/-- An encoder that refused nothing but for room or the end, with one byte at most. -/
theorem missing_remaining_iff {xs : List (VectorStates × Bool)} {gsnr gsnfr k : Nat} (hlt : gsnfr < gsnr)
    (hk : k ≤ xs.length) (hbelow : k = 0 ∨ gsnfr + k < gsnr) (hrun : k < 64)
    (hmissing : ∀ x ∈ xs.take k, x.1 = .notReceived) (hrefused : k < xs.length → gsnr ≤ gsnfr + k + 1) :
    k = (gsnr - gsnfr - 1) % 64 ↔ Reaches gsnr gsnfr xs := by
  constructor
  · intro heq
    by_cases hall : k = xs.length
    · exact .inr (.inr (.inr (hall ▸ heq)))
    · have hend := hrefused (by omega)
      exact .inr (.inr (.inl (by omega)))
  · rintro (⟨x, hx, hreceived⟩ | hlong | hreach | hlength)
    · exfalso
      refine hreceived (hmissing x ?_)
      by_cases hall : k = xs.length
      · rw [hall, List.take_length]
        exact List.mem_of_mem_take hx
      · have hend := hrefused (by omega)
        rwa [show gsnr - gsnfr - 1 = k by omega] at hx
    · have hend := hrefused (by omega)
      omega
    · by_cases hall : k = xs.length
      · omega
      · have hend := hrefused (by omega)
        omega
    · by_cases hall : k = xs.length
      · omega
      · have hend := hrefused (by omega)
        omega

/-- For every size of at least two bytes and every offer the vector is no longer than that and its
parity is that of the packets received among those accepted; the decoder gives back the states of
exactly those, and then no more, just when the packets offered reach far enough. -/
theorem vector_round_trip (size gsnr gsnfr : Nat) (parity : Bool) (xs : List (VectorStates × Bool)) (hsize : 2 ≤ size)
    (hlt : gsnfr < gsnr) (hoffer : ∀ x ∈ xs, x.1.Offerable) :
    ((vectorEncoderFinalize (offer (vectorEncoderStart gsnr gsnfr parity size) xs).2).2.length ≤ size ∧
      (vectorEncoderFinalize (offer (vectorEncoderStart gsnr gsnfr parity size) xs).2).1 =
        ((xs.take (accepted (vectorEncoderStart gsnr gsnfr parity size) xs)).filter
          fun x => x.1 ≠ .notReceived).foldl (fun p x => p ^^ x.2) parity ∧
      ∀ n, decoded n (vectorDecoderStart
          (vectorEncoderFinalize (offer (vectorEncoderStart gsnr gsnfr parity size) xs).2).2 gsnr gsnfr) =
        (((xs.take (accepted (vectorEncoderStart gsnr gsnfr parity size) xs)).map Prod.fst) ++
          List.replicate n VectorStates.noMoreData).take n) ↔
    Reaches gsnr gsnfr xs := by
  let start := vectorEncoderStart gsnr gsnfr parity size
  let k := accepted start xs
  have hstart : Encoding start [] := vectorEncoderStart_encoding gsnr gsnfr parity size
  obtain ⟨e, hoffered, hencoded, hparity, hr, hfr, hmax, hrefused⟩ := offer_accepted start [] xs hstart hoffer
  have hspread := offer_spread start [] xs hstart (fun htwo => by simp [start, vectorEncoderStart] at htwo) hoffer
  rw [hoffered, List.nil_append] at hspread
  rw [List.nil_append] at hencoded
  have hrE : e.mGSNR = gsnr := hr
  have hfrE : e.mGSNFR = gsnfr := hfr
  have hmaxE : e.mMaxVectorSizeInBytes = size := hmax
  rw [hrE, hfrE, hmaxE, List.length_nil, Nat.zero_add] at hrefused
  have hk : k ≤ xs.length := accepted_le start xs
  have hstates : ((xs.take k).map Prod.fst).length = k := by rw [List.length_map, List.length_take]; omega
  have hvalid : ∀ state ∈ (xs.take k).map Prod.fst, state ≠ .noMoreData := by
    intro state hstate
    obtain ⟨x, hx, rfl⟩ := List.mem_map.mp hstate
    have hmore := hoffer x (List.mem_of_mem_take hx)
    rintro hno
    rw [hno] at hmore
    exact absurd hmore (by decide)
  obtain ⟨hfinal, hlength, -⟩ := vectorEncoderFinalize_decodes e _ hencoded (by rw [hrE, hfrE]; exact hlt)
  rw [hmaxE] at hlength
  rw [hoffered, hfinal, hparity, parityOf_eq]
  have hdecoded := decoded_iff (vectorDecoderStart_inRun (vectorEncoderFinalize e).2 gsnr gsnfr) hvalid
  refine (and_iff_right hlength).trans ((and_iff_right rfl).trans (hdecoded.trans ?_))
  unfold vectorEncoderFinalize
  have hne : ¬e.mGSNFR = e.mGSNR := by omega
  by_cases hleft : e.mVector.length = 0 ∨ (e.mVector.length = 1 ∧ e.mLastState = .notReceived)
  · -- the vector is left out
    have hempty : (vectorEncoderFinalize e).2 = [] := by
      unfold vectorEncoderFinalize
      rcases hleft with hzero | hone
      · rw [if_pos hzero]
      · rw [if_neg (by omega), if_neg hne, if_pos hone]
    change (vectorDecoderStart (vectorEncoderFinalize e).2 gsnr gsnfr).remaining = _ ↔ _
    have hmissing : ∀ state ∈ (xs.take k).map Prod.fst, state = .notReceived := by
      rcases hleft with hzero | hone
      · have hexpands := hencoded.expands
        rw [List.length_eq_zero_iff.mp hzero] at hexpands
        have hnil : (xs.take k).map Prod.fst = [] := hexpands.symm
        simp [hnil]
      · exact encoded_missing e _ hencoded hone.1 hone.2
    have hrun : k < 64 := by
      have hexpands := congrArg List.length hencoded.expands
      rw [hstates] at hexpands
      rcases hleft with hzero | ⟨hone, -⟩
      · rw [List.length_eq_zero_iff.mp hzero] at hexpands
        have hzeroLength : 0 = k := hexpands
        omega
      · obtain ⟨b, hb⟩ := List.length_eq_one_iff.mp hone
        rw [hb, List.reverse_singleton, expand_singleton, List.length_replicate] at hexpands
        have hltRun := runLength_lt b
        omega
    have hend : k < xs.length → gsnr ≤ gsnfr + k + 1 := fun hkl => (hrefused hkl).resolve_right (by omega)
    have hbelow : k = 0 ∨ gsnfr + k < gsnr := by
      have hb := hencoded.below
      rw [hstates, hrE, hfrE] at hb
      exact hb.imp_left fun hnil => by rw [← hstates, hnil]; rfl
    have hall : (xs.take k).map Prod.fst = List.replicate k .notReceived :=
      List.eq_replicate_iff.mpr ⟨hstates, hmissing⟩
    have hcount : List.replicate ((gsnr - gsnfr - 1) % 64) VectorStates.notReceived = List.replicate k .notReceived ↔
        k = (gsnr - gsnfr - 1) % 64 := by
      refine ⟨fun heq => ?_, fun heq => by rw [heq]⟩
      have hlengths := congrArg List.length heq
      rw [List.length_replicate, List.length_replicate] at hlengths
      exact hlengths.symm
    rw [hempty, decoder_special gsnr gsnfr hlt, hall, hcount]
    exact missing_remaining_iff hlt hk hbelow hrun (fun x hx => hmissing x.1 (List.mem_map_of_mem hx)) hend
  · -- the vector says what was encoded
    obtain ⟨hsome, hother⟩ := not_or.mp hleft
    rw [if_neg hsome, if_neg hne, if_neg hother, vectorDecoderStart,
      if_neg (by simpa using fun _ => hsome)]
    refine iff_of_true hencoded.expands ?_
    have hwide : (∃ state ∈ (xs.take k).map Prod.fst, state ≠ .notReceived) ∨ 64 ≤ k := by
      by_cases htwo : 2 ≤ e.mVector.length
      · have hs := hspread htwo
        rwa [hstates] at hs
      · obtain ⟨b, hb⟩ := List.length_eq_one_iff.mp (show e.mVector.length = 1 by omega)
        have hlast : e.mLastState ≠ .notReceived := fun hlast => hother ⟨by rw [hb]; rfl, hlast⟩
        refine .inl ⟨e.mLastState, ?_, hlast⟩
        have hexpands := hencoded.expands
        rw [hb, List.reverse_singleton, expand_singleton, hencoded.current b [] hb] at hexpands
        rw [← hexpands]
        exact List.mem_replicate.mpr ⟨hencoded.runs b (by rw [hb]; exact List.mem_singleton_self b), rfl⟩
    rcases hwide with ⟨state, hstate, hreceived⟩ | hlong
    · obtain ⟨x, hx, rfl⟩ := List.mem_map.mp hstate
      refine .inl ⟨x, ?_, hreceived⟩
      have hb := hencoded.below
      rw [hstates, hrE, hfrE] at hb
      have hle : k ≤ gsnr - gsnfr - 1 := by
        rcases hb with hnil | hb
        · have hzero : k = 0 := by rw [← hstates, hnil]; rfl
          omega
        · omega
      exact (List.take_sublist_take_left hle).subset hx
    · exact .inr (.inl (by omega))

theorem vector_round_trip_three :
    decoded 5 (vectorDecoderStart (vectorEncoderFinalize
      (offer (vectorEncoderStart 4 0 false 3)
        [(.received, true), (.notReceived, false), (.receivedECNMarked, false)]).2).2 4 0) =
      [.received, .notReceived, .receivedECNMarked, .noMoreData, .noMoreData] :=
  ((vector_round_trip 3 4 0 false [(.received, true), (.notReceived, false), (.receivedECNMarked, false)] (by decide)
    (by decide) (by decide)).mpr (.inr (.inr (.inl (by decide))))).2.2 5

/-- One missing packet is offered of nine, and the decoder makes up the others. -/
theorem offer_cut_short :
    accepted (vectorEncoderStart 10 0 false 127) [(.notReceived, false)] = 1 ∧
      decoded 2 (vectorDecoderStart (vectorEncoderFinalize
        (offer (vectorEncoderStart 10 0 false 127) [(.notReceived, false)]).2).2 10 0) =
        [.notReceived, .notReceived] := by
  decide

end Encoding

end OpenPeer
