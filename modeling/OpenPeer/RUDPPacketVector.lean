import OpenPeer.RUDPPacket

/-!
# The vector of a packet

Between the sequence number up to which everything was received and the greatest
one received, a vector says which packets arrived. A byte of it is a state and a
run length of up to 63. The encoder refuses what does not fit any more, and the
decoder gives back one state at a time.
-/
namespace OpenPeer

open Bytes RUDPPacket

inductive VectorStates where
  | received | receivedECNMarked | reserved | notReceived | noMoreData
  deriving DecidableEq, Repr

namespace VectorStates

def toByte : VectorStates → UInt8
  | .received => 0x00
  | .receivedECNMarked => 0x40
  | .reserved => 0x80
  | .notReceived => 0xC0
  | .noMoreData => 0xFF

/-- The state in the two high bits of a byte. -/
def ofByte (b : UInt8) : VectorStates :=
  if b &&& 0xC0 = 0x00 then .received
  else if b &&& 0xC0 = 0x40 then .receivedECNMarked
  else if b &&& 0xC0 = 0x80 then .reserved
  else .notReceived

/-- Whether a state says that the packet arrived. -/
def isReceived (state : VectorStates) : Bool := state == .received || state == .receivedECNMarked

/-- The states an encoder is given. -/
def Offerable (state : VectorStates) : Prop :=
  state = .received ∨ state = .receivedECNMarked ∨ state = .notReceived

instance (state : VectorStates) : Decidable state.Offerable :=
  inferInstanceAs (Decidable (_ ∨ _ ∨ _))

end VectorStates

/-- An encoder. Of the vector it writes it has the bytes filled so far, the current one first. -/
structure VectorEncoderState where
  mLastState : VectorStates
  mXORedParityToNow : Bool
  mVector : List UInt8
  mMaxVectorSizeInBytes : Nat
  mGSNR : Nat
  mGSNFR : Nat
  mCurrentSequenceNumber : Nat
  deriving DecidableEq, Repr

/-- A decoder: the bytes still to be read, and how much of the first one's run was read. -/
structure VectorDecoderState where
  mVector : List UInt8
  mConsumedRLE : Nat
  deriving DecidableEq, Repr

def logicalXOR (value1 value2 : Bool) : Bool := value1 ^^ value2

namespace RUDPPacket

def vectorEncoderStart (gsnr gsnfr : Nat) (xoredParityToGSNFR : Bool) (vectorLengthInBytes : Nat) :
    VectorEncoderState where
  mLastState := .received
  mXORedParityToNow := xoredParityToGSNFR
  mVector := []
  mMaxVectorSizeInBytes := vectorLengthInBytes
  mGSNR := gsnr
  mGSNFR := gsnfr
  mCurrentSequenceNumber := gsnfr

/-- The parity after a packet of the given state; one that did not arrive has no parity. -/
def parityAfter (parity : Bool) (state : VectorStates) (packetParityIfReceived : Bool) : Bool :=
  if state ≠ .notReceived then logicalXOR parity packetParityIfReceived else parity

/-- Take the next byte of the vector for a run of one. -/
def startByte (e : VectorEncoderState) (state : VectorStates) (packetParityIfReceived : Bool) :
    VectorEncoderState :=
  { e with
    mVector := (state.toByte ||| 1) :: e.mVector
    mXORedParityToNow := parityAfter e.mXORedParityToNow state packetParityIfReceived
    mLastState := state }

def vectorEncoderAdd (e : VectorEncoderState) (vectorState : VectorStates) (packetParityIfReceived : Bool) :
    Bool × VectorEncoderState :=
  let e := { e with mCurrentSequenceNumber := e.mCurrentSequenceNumber + 1 }
  -- the greatest sequence number itself is never encoded
  if e.mCurrentSequenceNumber ≥ e.mGSNR then (false, e) else
  match e.mVector with
  | [] =>
    if e.mMaxVectorSizeInBytes = 0 then (false, e) else (true, startByte e vectorState packetParityIfReceived)
  | b :: rest =>
    if e.mLastState ≠ vectorState ∨ b &&& 0x3F = 0x3F then
      if e.mVector.length ≥ e.mMaxVectorSizeInBytes then (false, e)
      else (true, startByte e vectorState packetParityIfReceived)
    else
      (true, { e with
        mVector := ((b &&& 0xC0) ||| ((b &&& 0x3F) + 1)) :: rest
        mXORedParityToNow := parityAfter e.mXORedParityToNow vectorState packetParityIfReceived })

/-- The vector parity and the vector, which is left out when it would say that nothing arrived. -/
def vectorEncoderFinalize (e : VectorEncoderState) : Bool × List UInt8 :=
  if e.mVector.length = 0 then (e.mXORedParityToNow, [])
  else if e.mGSNFR = e.mGSNR then (e.mXORedParityToNow, [])
  else if e.mVector.length = 1 ∧ e.mLastState = .notReceived then (e.mXORedParityToNow, [])
  else (e.mXORedParityToNow, e.mVector.reverse)

def vectorDecoderStart (vector : List UInt8) (gsnr gsnfr : Nat) : VectorDecoderState :=
  if gsnr ≠ gsnfr ∧ vector.length = 0 then
    ⟨[VectorStates.notReceived.toByte ||| UInt8.ofNat ((gsnr - gsnfr - 1) % 64)], 0⟩
  else ⟨vector, 0⟩

def vectorDecoderGetNextPacketState (d : VectorDecoderState) : VectorStates × VectorDecoderState :=
  match d.mVector with
  | [] => (.noMoreData, d)
  | b :: rest =>
    if b &&& 0x3F = 0 then (.noMoreData, d) else
    let consumed := d.mConsumedRLE + 1
    (.ofByte b, if consumed ≥ (b &&& 0x3F).toNat then ⟨rest, 0⟩ else ⟨b :: rest, consumed⟩)

end RUDPPacket

section Runs

/-- The run length of a byte. -/
def runLength (b : UInt8) : Nat := (b &&& 0x3F).toNat

/-- The states a vector stands for. -/
def expand : List UInt8 → List VectorStates
  | [] => []
  | b :: bs => if runLength b = 0 then [] else List.replicate (runLength b) (.ofByte b) ++ expand bs

theorem runLength_lt (b : UInt8) : runLength b < 64 := by
  revert b
  apply forall_byte (P := fun b => runLength b < 64)
  decide +kernel

theorem runLength_eq_zero (b : UInt8) : runLength b = 0 ↔ b &&& 0x3F = 0 := by
  revert b
  apply forall_byte (P := fun b => runLength b = 0 ↔ b &&& 0x3F = 0)
  decide +kernel

theorem startByte_run (state : VectorStates) (h : state.Offerable) :
    runLength (state.toByte ||| 1) = 1 ∧ VectorStates.ofByte (state.toByte ||| 1) = state := by
  rcases h with rfl | rfl | rfl <;> decide

theorem longerByte_run (b : UInt8) (h : ¬b &&& 0x3F = 0x3F) :
    runLength ((b &&& 0xC0) ||| ((b &&& 0x3F) + 1)) = runLength b + 1 ∧
      VectorStates.ofByte ((b &&& 0xC0) ||| ((b &&& 0x3F) + 1)) = .ofByte b := by
  revert b
  apply forall_byte (P := fun b => ¬b &&& 0x3F = 0x3F →
    runLength ((b &&& 0xC0) ||| ((b &&& 0x3F) + 1)) = runLength b + 1 ∧
      VectorStates.ofByte ((b &&& 0xC0) ||| ((b &&& 0x3F) + 1)) = .ofByte b)
  decide +kernel

theorem expand_singleton (b : UInt8) : expand [b] = List.replicate (runLength b) (.ofByte b) := by
  rw [expand]
  split
  next h => rw [h]; rfl
  · exact List.append_nil _

theorem expand_append (as bs : List UInt8) (h : ∀ b ∈ as, runLength b ≠ 0) :
    expand (as ++ bs) = expand as ++ expand bs := by
  induction as with
  | nil => rfl
  | cons a as ih =>
    have ha := h a List.mem_cons_self
    rw [List.cons_append, expand, expand, if_neg ha, if_neg ha, ih fun b hb => h b (List.mem_cons_of_mem _ hb),
      List.append_assoc]

theorem specialCase_run (n : Nat) :
    runLength (VectorStates.notReceived.toByte ||| UInt8.ofNat (n % 64)) = n % 64 ∧
      VectorStates.ofByte (VectorStates.notReceived.toByte ||| UInt8.ofNat (n % 64)) = .notReceived := by
  have hall : ∀ m : Fin 64, runLength (VectorStates.notReceived.toByte ||| UInt8.ofNat m) = m ∧
      VectorStates.ofByte (VectorStates.notReceived.toByte ||| UInt8.ofNat m) = .notReceived := by
    decide +kernel
  exact hall ⟨n % 64, Nat.mod_lt n (by decide)⟩

end Runs

section Decoder

/-- The states a decoder will still give. -/
def VectorDecoderState.remaining (d : VectorDecoderState) : List VectorStates :=
  (expand d.mVector).drop d.mConsumedRLE

/-- A decoder has read less than the run of its first byte. -/
def VectorDecoderState.InRun (d : VectorDecoderState) : Prop :=
  d.mConsumedRLE = 0 ∨ ∃ b rest, d.mVector = b :: rest ∧ d.mConsumedRLE < runLength b

theorem vectorDecoderStart_inRun (vector : List UInt8) (gsnr gsnfr : Nat) :
    (vectorDecoderStart vector gsnr gsnfr).InRun := by
  unfold vectorDecoderStart
  split <;> exact .inl rfl

/-- A decoder gives its states in turn, and then that there are no more. -/
theorem vectorDecoderGetNextPacketState_remaining (d : VectorDecoderState) (h : d.InRun) :
    (d.remaining = [] ∧ vectorDecoderGetNextPacketState d = (.noMoreData, d)) ∨
    ∃ state d', d.remaining = state :: d'.remaining ∧ d'.InRun ∧ state ≠ .noMoreData ∧
      vectorDecoderGetNextPacketState d = (state, d') := by
  obtain ⟨vector, consumed⟩ := d
  cases vector with
  | nil => exact .inl ⟨by simp [VectorDecoderState.remaining, expand], rfl⟩
  | cons b rest =>
    by_cases hzero : b &&& 0x3F = 0
    · refine .inl ⟨?_, if_pos hzero⟩
      simp [VectorDecoderState.remaining, expand, (runLength_eq_zero b).mpr hzero]
    · have hrun : runLength b ≠ 0 := fun hr => hzero ((runLength_eq_zero b).mp hr)
      have hlt : consumed < runLength b := by
        rcases h with rfl | ⟨b', rest', hvector, hlt⟩
        · exact Nat.pos_of_ne_zero hrun
        · cases hvector
          exact hlt
      have hstate : VectorStates.ofByte b ≠ .noMoreData := by
        unfold VectorStates.ofByte
        split
        · decide
        · split
          · decide
          · split <;> decide
      have hexpand : expand (b :: rest) = List.replicate (runLength b) (.ofByte b) ++ expand rest := by
        rw [expand, if_neg hrun]
      have hdrop : (expand (b :: rest)).drop consumed
          = .ofByte b :: (List.replicate (runLength b - (consumed + 1)) (.ofByte b) ++ expand rest) := by
        rw [hexpand, List.drop_append_of_le_length (by simp; omega), List.drop_replicate,
          show runLength b - consumed = runLength b - (consumed + 1) + 1 by omega, List.replicate_succ]
        rfl
      refine .inr ⟨.ofByte b, if consumed + 1 ≥ (b &&& 0x3F).toNat then ⟨rest, 0⟩ else ⟨b :: rest, consumed + 1⟩,
        ?_, ?_, hstate, if_neg hzero⟩
      · rw [VectorDecoderState.remaining, hdrop]
        split
        next hge =>
          have hrest : runLength b - (consumed + 1) = 0 := Nat.sub_eq_zero_of_le hge
          rw [hrest]
          rfl
        next hge =>
          have hle : consumed + 1 ≤ runLength b := hlt
          rw [VectorDecoderState.remaining, hexpand, List.drop_append_of_le_length (by simpa using hle),
            List.drop_replicate]
      · split
        · exact .inl rfl
        next hge => exact .inr ⟨b, rest, rfl, Nat.lt_of_not_le hge⟩

end Decoder

section Encoder

/-- What an encoder has written stands for the given states, and they end before the greatest
sequence number. -/
structure Encoded (e : VectorEncoderState) (states : List VectorStates) : Prop where
  expands : expand e.mVector.reverse = states
  runs : ∀ b ∈ e.mVector, runLength b ≠ 0
  current : ∀ b rest, e.mVector = b :: rest → VectorStates.ofByte b = e.mLastState
  fits : e.mVector.length ≤ e.mMaxVectorSizeInBytes
  below : states = [] ∨ e.mGSNFR + states.length < e.mGSNR

/-- An encoder that has refused nothing is at the last of its states. -/
structure Encoding (e : VectorEncoderState) (states : List VectorStates) : Prop extends Encoded e states where
  position : e.mCurrentSequenceNumber = e.mGSNFR + states.length

variable (gsnr : Nat)

theorem vectorEncoderStart_encoding (gsnfr : Nat) (parity : Bool) (size : Nat) :
    Encoding (vectorEncoderStart gsnr gsnfr parity size) [] where
  expands := rfl
  runs := by simp [vectorEncoderStart]
  current := by simp [vectorEncoderStart]
  fits := Nat.zero_le _
  below := .inl rfl
  position := rfl

theorem expand_reverse_cons (b : UInt8) (bs : List UInt8) (h : ∀ c ∈ bs, runLength c ≠ 0) :
    expand (b :: bs).reverse = expand bs.reverse ++ List.replicate (runLength b) (.ofByte b) := by
  rw [List.reverse_cons, expand_append _ _ fun c hc => h c (List.mem_reverse.mp hc), expand_singleton]

/-- The encoder moved on by one sequence number. -/
def VectorEncoderState.moved (e : VectorEncoderState) : VectorEncoderState :=
  { e with mCurrentSequenceNumber := e.mCurrentSequenceNumber + 1 }

variable (e : VectorEncoderState)

variable (states : List VectorStates)

theorem startByte_encoding (state : VectorStates) (parity : Bool) (h : Encoding e states)
    (hoffer : state.Offerable) (hbelow : e.mCurrentSequenceNumber + 1 < e.mGSNR)
    (hroom : e.mVector.length < e.mMaxVectorSizeInBytes) :
    Encoding (startByte e.moved state parity) (states ++ [state]) := by
  obtain ⟨hrun, hstate⟩ := startByte_run state hoffer
  have hposition := h.position
  refine ⟨⟨?_, ?_, ?_, hroom, ?_⟩, ?_⟩
  · change expand ((state.toByte ||| 1) :: e.mVector).reverse = _
    rw [expand_reverse_cons _ _ h.runs, hrun, hstate, h.expands]
    rfl
  · intro b hb
    rcases List.mem_cons.mp hb with rfl | hb
    · rw [hrun]
      exact Nat.one_ne_zero
    · exact h.runs b hb
  · intro b rest hcons
    cases hcons
    exact hstate
  · refine .inr ?_
    change e.mGSNFR + (states ++ [state]).length < e.mGSNR
    simp only [List.length_append, List.length_singleton]
    omega
  · change e.mCurrentSequenceNumber + 1 = e.mGSNFR + (states ++ [state]).length
    simp only [List.length_append, List.length_singleton]
    omega

/-- What an add does: it takes the state, or it refuses and leaves the vector as it was. -/
theorem vectorEncoderAdd_cases (state : VectorStates) (parity : Bool) (h : Encoding e states)
    (hoffer : state.Offerable) :
    (∃ e', vectorEncoderAdd e state parity = (true, e') ∧ Encoding e' (states ++ [state]) ∧
      e'.mXORedParityToNow = parityAfter e.mXORedParityToNow state parity ∧
      e'.mGSNR = e.mGSNR ∧ e'.mGSNFR = e.mGSNFR ∧ e'.mMaxVectorSizeInBytes = e.mMaxVectorSizeInBytes) ∨
    vectorEncoderAdd e state parity = (false, e.moved) := by
  by_cases hend : e.mCurrentSequenceNumber + 1 ≥ e.mGSNR
  · exact .inr (if_pos hend)
  have hbelow : e.mCurrentSequenceNumber + 1 < e.mGSNR := Nat.lt_of_not_le hend
  have hadd : vectorEncoderAdd e state parity = match e.mVector with
      | [] => if e.mMaxVectorSizeInBytes = 0 then (false, e.moved)
        else (true, startByte e.moved state parity)
      | b :: rest =>
        if e.mLastState ≠ state ∨ b &&& 0x3F = 0x3F then
          if e.mVector.length ≥ e.mMaxVectorSizeInBytes then (false, e.moved)
          else (true, startByte e.moved state parity)
        else (true, { e.moved with
          mVector := ((b &&& 0xC0) ||| ((b &&& 0x3F) + 1)) :: rest
          mXORedParityToNow := parityAfter e.mXORedParityToNow state parity }) :=
    if_neg hend
  rw [hadd]
  cases hvector : e.mVector with
  | nil =>
    by_cases hmax : e.mMaxVectorSizeInBytes = 0
    · exact .inr (if_pos hmax)
    · have hroom : e.mVector.length < e.mMaxVectorSizeInBytes := by
        rw [hvector]
        exact Nat.pos_of_ne_zero hmax
      exact .inl ⟨_, if_neg hmax, startByte_encoding e states state parity h hoffer hbelow hroom, rfl, rfl, rfl, rfl⟩
  | cons b rest =>
    by_cases hnew : e.mLastState ≠ state ∨ b &&& 0x3F = 0x3F
    · simp only [if_pos hnew]
      rw [← hvector]
      by_cases hfull : e.mVector.length ≥ e.mMaxVectorSizeInBytes
      · exact .inr (if_pos hfull)
      · exact .inl ⟨_, if_neg hfull,
          startByte_encoding e states state parity h hoffer hbelow (Nat.lt_of_not_le hfull), rfl, rfl, rfl, rfl⟩
    · obtain ⟨hsame, hshort⟩ := not_or.mp hnew
      have hlast : e.mLastState = state := not_not.mp hsame
      obtain ⟨hrun, hstate⟩ := longerByte_run b hshort
      have hposition := h.position
      have hexpands := h.expands
      rw [hvector, expand_reverse_cons b rest fun c hc => h.runs c (by rw [hvector]; exact List.mem_cons_of_mem _ hc)]
        at hexpands
      have hb : VectorStates.ofByte b = state := (h.current b rest hvector).trans hlast
      refine .inl ⟨_, if_neg hnew, ⟨⟨?_, ?_, ?_, ?_, ?_⟩, ?_⟩, rfl, rfl, rfl, rfl⟩
      · change expand (((b &&& 0xC0) ||| ((b &&& 0x3F) + 1)) :: rest).reverse = _
        rw [expand_reverse_cons _ rest fun c hc => h.runs c (by rw [hvector]; exact List.mem_cons_of_mem _ hc), hrun,
          hstate, hb, List.replicate_succ', ← List.append_assoc, ← hb, hexpands]
      · intro c hc
        rcases List.mem_cons.mp hc with rfl | hc
        · rw [hrun]
          exact Nat.succ_ne_zero _
        · exact h.runs c (by rw [hvector]; exact List.mem_cons_of_mem _ hc)
      · intro c rest' hcons
        cases hcons
        exact hstate.trans (h.current b rest hvector)
      · have hfits := h.fits
        rw [hvector] at hfits
        exact hfits
      · refine .inr ?_
        change e.mGSNFR + (states ++ [state]).length < e.mGSNR
        simp only [List.length_append, List.length_singleton]
        omega
      · change e.mCurrentSequenceNumber + 1 = e.mGSNFR + (states ++ [state]).length
        simp only [List.length_append, List.length_singleton]
        omega

/-- Offer packets to an encoder until it refuses one. -/
def offer : VectorEncoderState → List (VectorStates × Bool) → Bool × VectorEncoderState
  | e, [] => (true, e)
  | e, x :: xs =>
    match vectorEncoderAdd e x.1 x.2 with
    | (false, e) => (false, e)
    | (true, e) => offer e xs

variable (xs : List (VectorStates × Bool))

theorem offer_append (ys : List (VectorStates × Bool)) :
    offer e (xs ++ ys) = match offer e xs with
      | (false, e) => (false, e)
      | (true, e) => offer e ys := by
  induction xs generalizing e with
  | nil => rfl
  | cons x xs ih =>
    rw [List.cons_append, offer, offer]
    cases vectorEncoderAdd e x.1 x.2 with
    | mk added e' =>
      cases added with
      | false => rfl
      | true => exact ih e'

/-- The parity after packets of the given states. -/
def parityOf (parity : Bool) (packets : List (VectorStates × Bool)) : Bool :=
  packets.foldl (fun parity x => parityAfter parity x.1 x.2) parity

/-- How many packets of an offer are accepted before the first one that is refused. -/
def accepted : VectorEncoderState → List (VectorStates × Bool) → Nat
  | _, [] => 0
  | e, x :: xs =>
    match vectorEncoderAdd e x.1 x.2 with
    | (false, _) => 0
    | (true, e) => accepted e xs + 1

theorem accepted_le : accepted e xs ≤ xs.length := by
  induction xs generalizing e with
  | nil => exact Nat.le_refl 0
  | cons x xs ih =>
    rw [accepted]
    split
    · exact Nat.zero_le _
    · exact Nat.succ_le_succ (ih _)

theorem vectorEncoderAdd_refused {e e' : VectorEncoderState} {state : VectorStates} {parity : Bool}
    (h : vectorEncoderAdd e state parity = (false, e')) :
    e.mGSNR ≤ e.mCurrentSequenceNumber + 1 ∨ e.mMaxVectorSizeInBytes ≤ e.mVector.length := by
  unfold vectorEncoderAdd at h
  simp only at h
  split at h
  case isTrue hend => exact .inl hend
  case isFalse hend =>
    split at h
    case h_1 hnil =>
      split at h
      case isTrue hmax => exact .inr (by rw [hmax]; exact Nat.zero_le _)
      case isFalse => cases h
    case h_2 =>
      split at h
      case isTrue hnew =>
        split at h
        case isTrue hfull => exact .inr hfull
        case isFalse => cases h
      case isFalse => cases h

/-- What comes of an offer: the packets that are accepted are encoded, and those behind them were
refused for the greatest sequence number or for want of room. -/
theorem offer_accepted (xs : List (VectorStates × Bool)) (h : Encoding e states)
    (hoffer : ∀ x ∈ xs, x.1.Offerable) :
    ∃ e', (offer e xs).2 = e' ∧ Encoded e' (states ++ (xs.take (accepted e xs)).map Prod.fst) ∧
      e'.mXORedParityToNow = parityOf e.mXORedParityToNow (xs.take (accepted e xs)) ∧ e'.mGSNR = e.mGSNR ∧
      e'.mGSNFR = e.mGSNFR ∧ e'.mMaxVectorSizeInBytes = e.mMaxVectorSizeInBytes ∧
      (accepted e xs < xs.length → e'.mGSNR ≤ e'.mGSNFR + (states.length + accepted e xs) + 1 ∨
        e'.mMaxVectorSizeInBytes ≤ e'.mVector.length) := by
  induction xs generalizing e states with
  | nil => exact ⟨e, rfl, by simpa using h.toEncoded, rfl, rfl, rfl, rfl, fun hlt => absurd hlt (Nat.lt_irrefl 0)⟩
  | cons x xs ih =>
    have hx := hoffer x List.mem_cons_self
    rcases vectorEncoderAdd_cases e states x.1 x.2 h hx with ⟨e1, hadd, henc, hparity, hr, hfr, hmax⟩ | hadd
    · obtain ⟨e', hrest, hencoded, hparity', hr', hfr', hmax', hrefused⟩ :=
        ih e1 _ henc fun y hy => hoffer y (List.mem_cons_of_mem _ hy)
      have hcount : accepted e (x :: xs) = accepted e1 xs + 1 := by rw [accepted, hadd]
      rw [hcount]
      refine ⟨e', ?_, ?_, ?_, hr'.trans hr, hfr'.trans hfr, hmax'.trans hmax, fun hlt => ?_⟩
      · rw [offer, hadd]
        exact hrest
      · rw [List.append_assoc] at hencoded
        exact hencoded
      · rw [hparity', hparity]
        rfl
      · have hstop := hrefused (Nat.lt_of_succ_lt_succ hlt)
        rw [List.length_append, List.length_singleton] at hstop
        exact hstop.imp_left fun hend => by omega
    · have hcount : accepted e (x :: xs) = 0 := by rw [accepted, hadd]
      rw [hcount]
      refine ⟨e.moved, by rw [offer, hadd], ?_, rfl, rfl, rfl, rfl, fun _ => ?_⟩
      · rw [List.take_zero, List.map_nil, List.append_nil]
        exact { h with }
      · have hposition := h.position
        exact (vectorEncoderAdd_refused hadd).imp_left fun hend => by
          change e.mGSNR ≤ e.mGSNFR + (states.length + 0) + 1
          omega

theorem offer_encodes (xs : List (VectorStates × Bool)) (h : Encoding e states)
    (hoffer : ∀ x ∈ xs, x.1.Offerable) :
    ∃ k e', (offer e xs).2 = e' ∧ k ≤ xs.length ∧ Encoded e' (states ++ (xs.take k).map Prod.fst) ∧
      e'.mXORedParityToNow = parityOf e.mXORedParityToNow (xs.take k) ∧ e'.mGSNR = e.mGSNR ∧
      e'.mGSNFR = e.mGSNFR ∧ e'.mMaxVectorSizeInBytes = e.mMaxVectorSizeInBytes := by
  obtain ⟨e', hoffered, hencoded, hparity, hr, hfr, hmax, -⟩ := offer_accepted e states xs h hoffer
  exact ⟨accepted e xs, e', hoffered, accepted_le e xs, hencoded, hparity, hr, hfr, hmax⟩

theorem encoded_missing (h : Encoded e states) (hone : e.mVector.length = 1)
    (hlast : e.mLastState = .notReceived) : ∀ state ∈ states, state = .notReceived := by
  obtain ⟨b, hb⟩ := List.length_eq_one_iff.mp hone
  have hexpands := h.expands
  rw [hb, List.reverse_singleton, expand_singleton] at hexpands
  intro state hstate
  rw [← hexpands] at hstate
  rw [List.eq_of_mem_replicate hstate, h.current b [] hb, hlast]

theorem decoder_special (gsnfr : Nat) (h : gsnfr < gsnr) :
    (vectorDecoderStart [] gsnr gsnfr).remaining
      = List.replicate ((gsnr - gsnfr - 1) % 64) .notReceived := by
  obtain ⟨hrun, hstate⟩ := specialCase_run (gsnr - gsnfr - 1)
  rw [vectorDecoderStart, if_pos ⟨Nat.ne_of_gt h, rfl⟩, VectorDecoderState.remaining, expand_singleton,
    hrun, hstate]
  rfl

/-- A decoder says of a finished vector what was encoded; of one left out it says that packets are
missing, where the encoder was told so. -/
theorem vectorEncoderFinalize_decodes (h : Encoded e states) (hlt : e.mGSNFR < e.mGSNR) :
    (vectorEncoderFinalize e).1 = e.mXORedParityToNow ∧
    (vectorEncoderFinalize e).2.length ≤ e.mMaxVectorSizeInBytes ∧
    ((vectorDecoderStart (vectorEncoderFinalize e).2 e.mGSNR e.mGSNFR).remaining = states ∨
      (∀ state ∈ states, state = .notReceived) ∧
      (vectorDecoderStart (vectorEncoderFinalize e).2 e.mGSNR e.mGSNFR).remaining
        = List.replicate ((e.mGSNR - e.mGSNFR - 1) % 64) .notReceived) := by
  unfold vectorEncoderFinalize
  by_cases hempty : e.mVector.length = 0
  · rw [if_pos hempty]
    refine ⟨rfl, Nat.zero_le _, .inr ⟨?_, decoder_special _ _ hlt⟩⟩
    have hexpands := h.expands
    rw [List.length_eq_zero_iff.mp hempty] at hexpands
    simp [← hexpands, expand]
  rw [if_neg hempty, if_neg (Nat.ne_of_lt hlt)]
  by_cases hmissing : e.mVector.length = 1 ∧ e.mLastState = .notReceived
  · rw [if_pos hmissing]
    exact ⟨rfl, Nat.zero_le _, .inr ⟨encoded_missing e states h hmissing.1 hmissing.2, decoder_special _ _ hlt⟩⟩
  · rw [if_neg hmissing]
    refine ⟨rfl, by simpa using h.fits, .inl ?_⟩
    rw [vectorDecoderStart, if_neg (by simpa using fun _ => hempty)]
    exact h.expands

end Encoder

end OpenPeer
