import OpenPeer.Bytes

/-!
# Self-delimiting frames

Messages are encoded so that a reader can tell, from the front of what it has,
whether a whole frame is there. A reader that takes frames while it can then
finds the messages of any stream in order, however the stream is cut: what is
left over is always a proper part of one frame. The last section is the framing
by a fixed header and a length.
-/
namespace Framing

/-- An encoding with a reader of one frame from the front of a string. -/
structure Code (β μ : Type) where
  Valid : μ → Prop
  encode : μ → List β
  next : List β → Option (μ × List β)
  next_encode : ∀ m, Valid m → ∀ rest, next (encode m ++ rest) = some (m, rest)
  next_short : ∀ m, Valid m → ∀ p q, p ++ q = encode m → q ≠ [] → next p = none
  next_length : ∀ l m rest, next l = some (m, rest) → rest.length < l.length

variable {β μ : Type} (C : Code β μ)

def encodeAll (ms : List μ) : List β := ms.flatMap C.encode

@[simp] theorem encodeAll_nil : encodeAll C [] = [] := rfl

@[simp] theorem encodeAll_cons (m : μ) (ms : List μ) : encodeAll C (m :: ms) = C.encode m ++ encodeAll C ms := rfl

@[simp] theorem encodeAll_append (as bs : List μ) :
    encodeAll C (as ++ bs) = encodeAll C as ++ encodeAll C bs := List.flatMap_append

/-- `rest` is a proper part of the first of the frames to come, or empty. -/
def Unfinished (rest : List β) (ms : List μ) : Prop :=
  rest = [] ∨ ∃ m ms', ms = m :: ms' ∧ rest <+: C.encode m ∧ rest ≠ C.encode m

variable (ms : List μ)

theorem unfinished_nil : Unfinished C [] ms := Or.inl rfl

theorem next_nil : C.next [] = none := by
  cases h : C.next [] with
  | none => rfl
  | some r =>
    have hlen := C.next_length [] r.1 r.2 h
    simp at hlen

/-- Take frames from the front while there is a whole one. -/
def drain (l : List β) : List μ × List β :=
  match h : C.next l with
  | none => ([], l)
  | some (m, rest) =>
    have := C.next_length l m rest h
    let r := drain rest
    (m :: r.1, r.2)
termination_by l.length

variable (l : List β)

theorem drain_none (h : C.next l = none) : drain C l = ([], l) := by
  rw [drain]
  split
  · rfl
  · next m rest hsome =>
    rw [h] at hsome
    cases hsome

theorem drain_some (m : μ) (rest : List β) (h : C.next l = some (m, rest)) :
    drain C l = (m :: (drain C rest).1, (drain C rest).2) := by
  rw [drain]
  split
  · next hnone =>
    rw [h] at hnone
    cases hnone
  · next m' rest' hsome =>
    rw [h] at hsome
    cases hsome
    rfl

/-- Every prefix of a stream of frames drains to the messages whose frames it holds, and the
rest is a proper part of the next frame. -/
theorem drain_prefix (p q : List β) (hvalid : ∀ m ∈ ms, C.Valid m) (h : p ++ q = encodeAll C ms) :
    ∃ done todo, ms = done ++ todo ∧ (drain C p).1 = done ∧
      (drain C p).2 ++ q = encodeAll C todo ∧ Unfinished C (drain C p).2 todo := by
  induction ms generalizing p with
  | nil =>
    have hp : p = [] := by simp_all
    subst hp
    rw [drain_none C [] (next_nil C)]
    exact ⟨[], [], rfl, rfl, h, Or.inl rfl⟩
  | cons m ms ih =>
    have hm : C.Valid m := hvalid m List.mem_cons_self
    rw [encodeAll_cons] at h
    rcases List.append_eq_append_iff.mp h with ⟨c, hc, hq⟩ | ⟨c, hp, hc⟩
    · -- the prefix ends inside the first frame, or exactly at its end
      by_cases hempty : c = []
      · subst hempty
        have hp : p = C.encode m ++ [] := by simpa using hc.symm
        have hdrain := drain_some C p m [] (by rw [hp]; exact C.next_encode m hm [])
        have hnil := drain_none C ([] : List β) (next_nil C)
        refine ⟨[m], ms, rfl, by rw [hdrain, hnil], ?_, ?_⟩
        · rw [hdrain, hnil]
          simpa using hq
        · rw [hdrain, hnil]
          exact Or.inl rfl
      · rw [drain_none C p (C.next_short m hm p c hc.symm hempty)]
        refine ⟨[], m :: ms, rfl, rfl, by rw [encodeAll_cons]; exact h, Or.inr ⟨m, ms, rfl, ⟨c, hc.symm⟩, ?_⟩⟩
        intro heq
        have hlen := congrArg List.length hc
        rw [← heq, List.length_append] at hlen
        exact hempty (List.eq_nil_of_length_eq_zero (by simpa using hlen))
    · -- the first frame is whole
      obtain ⟨done, todo, hms, hdone, hrest, hpart⟩ :=
        ih c (fun x hx => hvalid x (List.mem_cons_of_mem _ hx)) hc.symm
      have hdrain := drain_some C p m c (by rw [hp]; exact C.next_encode m hm c)
      refine ⟨m :: done, todo, by rw [hms]; rfl, by rw [hdrain, hdone], ?_, ?_⟩
      · rw [hdrain]
        exact hrest
      · rw [hdrain]
        exact hpart

theorem unfinished_all (rest : List β) (ms : List μ) (h : Unfinished C rest ms)
    (hall : rest = encodeAll C ms) : rest = [] := by
  rcases h with rfl | ⟨m, ms', rfl, ⟨q, hq⟩, hne⟩
  · rfl
  · exfalso
    rw [encodeAll_cons, ← hq, List.append_assoc] at hall
    have hlen := congrArg List.length hall
    simp only [List.length_append] at hlen
    have hq0 : q = [] := List.eq_nil_of_length_eq_zero (by omega)
    exact hne (by simpa [hq0] using hq)

theorem next_drain : C.next (drain C l).2 = none := by
  induction l using drain.induct C with
  | case1 l hnone =>
    rw [drain_none C l hnone]
    exact hnone
  | case2 l m rest hsome _ ih =>
    rw [drain_some C l m rest hsome]
    exact ih

theorem length_drain : (drain C l).2.length ≤ l.length := by
  induction l using drain.induct C with
  | case1 l hnone => simp [drain_none C l hnone]
  | case2 l m rest hsome hshort ih =>
    rw [drain_some C l m rest hsome]
    exact Nat.le_trans ih (Nat.le_of_lt hshort)

section LengthPrefixed

open Bytes

/-- A frame: a header of `k` bytes, the length of the body in four bytes, the body. -/
def lengthEncode (m : List UInt8 × List UInt8) : List UInt8 := m.1 ++ toBE 4 m.2.length ++ m.2

def lengthNext (k : Nat) (l : List UInt8) : Option ((List UInt8 × List UInt8) × List UInt8) :=
  let size := ofBE (slice l k 4)
  if l.length < k + 4 then none
  else if l.length < k + 4 + size then none
  else some ((l.take k, slice l (k + 4) size), l.drop (k + 4 + size))

theorem lengthNext_none (k : Nat) (l : List UInt8)
    (h : l.length < k + 4 ∨ l.length < k + 4 + ofBE (slice l k 4)) : lengthNext k l = none := by
  by_cases hheader : l.length < k + 4
  · simp [lengthNext, hheader]
  · simp [lengthNext, h.resolve_left hheader]

theorem lengthNext_some (k : Nat) (l : List UInt8) (h : k + 4 + ofBE (slice l k 4) ≤ l.length) :
    lengthNext k l = some ((l.take k, slice l (k + 4) (ofBE (slice l k 4))),
      l.drop (k + 4 + ofBE (slice l k 4))) := by
  unfold lengthNext
  rw [if_neg (by omega), if_neg (by omega)]

structure LengthValid (k : Nat) (m : List UInt8 × List UInt8) : Prop where
  header : m.1.length = k
  body : m.2.length < 256 ^ 4

variable {k : Nat} {m : List UInt8 × List UInt8}

theorem length_lengthEncode (h : LengthValid k m) : (lengthEncode m).length = k + 4 + m.2.length := by
  simp [lengthEncode, h.header, Nat.add_assoc]

theorem lengthEncode_size (h : LengthValid k m) (p q : List UInt8) (hpq : p ++ q = lengthEncode m)
    (hlen : k + 4 ≤ p.length) : ofBE (slice p k 4) = m.2.length := by
  have hslice : slice p k 4 = slice (p ++ q) k 4 := by
    rw [slice, slice, List.drop_append_of_le_length (by omega), List.take_append_of_le_length]
    rw [List.length_drop]
    omega
  rw [hslice, hpq, lengthEncode, List.append_assoc, slice_append_mid m.1 _ m.2 k 4 h.header (by simp),
    ofBE_toBE_of_lt 4 _ h.body]

theorem lengthNext_encode (h : LengthValid k m) (rest : List UInt8) :
    lengthNext k (lengthEncode m ++ rest) = some (m, rest) := by
  have hlen := length_lengthEncode h
  have hsize : ofBE (slice (lengthEncode m ++ rest) k 4) = m.2.length := by
    rw [lengthEncode, List.append_assoc, List.append_assoc,
      slice_append_mid m.1 _ _ k 4 h.header (by simp), ofBE_toBE_of_lt 4 _ h.body]
  have htake : (lengthEncode m ++ rest).take k = m.1 := by
    rw [lengthEncode, List.append_assoc, List.append_assoc, ← h.header, List.take_left]
  have hbody : slice (lengthEncode m ++ rest) (k + 4) m.2.length = m.2 := by
    rw [lengthEncode, List.append_assoc]
    exact slice_append_mid _ m.2 rest (k + 4) _ (by simp [h.header]) rfl
  have hdrop : (lengthEncode m ++ rest).drop (k + 4 + m.2.length) = rest := by
    rw [← hlen, List.drop_left]
  have htotal : (lengthEncode m ++ rest).length = k + 4 + m.2.length + rest.length := by
    rw [List.length_append, hlen]
  simp only [lengthNext, hsize]
  rw [if_neg (by omega), if_neg (by omega), htake, hbody, hdrop]

theorem lengthNext_short (h : LengthValid k m) (p q : List UInt8) (hpq : p ++ q = lengthEncode m)
    (hq : q ≠ []) : lengthNext k p = none := by
  have hlen := length_lengthEncode h
  have hqpos := List.length_pos_iff.mpr hq
  rw [← hpq, List.length_append] at hlen
  simp only [lengthNext]
  by_cases hheader : p.length < k + 4
  · rw [if_pos hheader]
  · rw [if_neg hheader, lengthEncode_size h p q hpq (by omega), if_pos (by omega)]

variable (l : List UInt8)

theorem lengthNext_length (m : List UInt8 × List UInt8) (rest : List UInt8)
    (h : lengthNext k l = some (m, rest)) : rest.length < l.length := by
  simp only [lengthNext] at h
  split at h
  · cases h
  split at h
  · cases h
  cases h
  rw [List.length_drop]
  omega

theorem lengthNext_rest (m : List UInt8 × List UInt8) (rest : List UInt8)
    (h : lengthNext k l = some (m, rest)) : rest = l.drop (k + 4 + m.2.length) := by
  simp only [lengthNext] at h
  split at h
  · cases h
  split at h
  · cases h
  next hfit =>
  cases h
  rw [length_slice l (k + 4) _ (Nat.le_of_not_lt hfit)]

/-- The framing by a header of `k` bytes and a four-byte length. -/
def lengthPrefixed (k : Nat) : Code UInt8 (List UInt8 × List UInt8) where
  Valid := LengthValid k
  encode := lengthEncode
  next := lengthNext k
  next_encode _ h := lengthNext_encode h
  next_short _ h := lengthNext_short h
  next_length := lengthNext_length

/-- The size in the header at the front, when the header is there. -/
def headerSize (k : Nat) (l : List UInt8) : Option Nat :=
  if l.length < k + 4 then none else some (ofBE (slice l k 4))

/-- The sizes that the headers in a string announce: those of the whole frames, and that of the frame
begun behind them. -/
def announced (k : Nat) (l : List UInt8) : List Nat :=
  (drain (lengthPrefixed k) l).1.map (fun m => m.2.length) ++ (headerSize k (drain (lengthPrefixed k) l).2).toList

theorem announced_waiting (h : lengthNext k l = none) : announced k l = (headerSize k l).toList := by
  rw [announced, drain_none (lengthPrefixed k) l h]
  rfl

theorem announced_rest (n : Nat) (h : n ∈ announced k (drain (lengthPrefixed k) l).2) : n ∈ announced k l := by
  rw [announced_waiting _ (next_drain (lengthPrefixed k) l)] at h
  exact List.mem_append_right _ h

theorem length_waiting (size : Nat) (h : lengthNext k l = none) (hfit : ∀ n ∈ announced k l, n ≤ size) :
    l.length < k + 4 + size := by
  rw [announced_waiting l h, headerSize] at hfit
  by_cases hheader : l.length < k + 4
  · omega
  · rw [if_neg hheader] at hfit
    have hsize := hfit (ofBE (slice l k 4)) (by simp)
    by_cases hwhole : k + 4 + ofBE (slice l k 4) ≤ l.length
    · rw [lengthNext_some k l hwhole] at h
      cases h
    · omega

@[simp] theorem announced_nil : announced k [] = [] := by
  have hnone : lengthNext k [] = none := lengthNext_none k [] (by simp)
  rw [announced_waiting [] hnone]
  simp [headerSize]

end LengthPrefixed

end Framing
