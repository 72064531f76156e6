import OpenPeer.Bytes

/-!
# Elements with a type and a length

A string of elements, each a type, a length and a value that is filled up to a whole
number of words; and the walk that takes such a string apart. What is taken apart need
not come from the writer: the walk ends with nothing when an element does not fit.
-/
namespace Tlv

open Bytes

/-- A type and a value. -/
structure Element where
  tag : UInt16
  value : List UInt8
  deriving DecidableEq, Repr

/-- An element and where it begins. -/
structure Placed extends Element where
  start : Nat
  deriving DecidableEq, Repr

/-- The zeros behind a value. -/
def padding (value : List UInt8) : List UInt8 := zeros (dwordBoundary value.length - value.length)

def encode (e : Element) : List UInt8 :=
  toBE 2 e.tag.toNat ++ (toBE 2 e.value.length ++ (e.value ++ padding e.value))

def encodeAll (l : List Element) : List UInt8 := l.flatMap encode

/-- How many bytes an element with a value of this length takes. -/
def encodedLength (n : Nat) : Nat := 4 + dwordBoundary n

/-- Elements one behind the other from a position on. -/
def place : Nat → List Element → List Placed
  | _, [] => []
  | start, e :: l => ⟨e, start⟩ :: place (start + encodedLength e.value.length) l

def tagAt (bytes : List UInt8) (start : Nat) : UInt16 := UInt16.ofNat (ofBE (slice bytes start 2))

def lengthAt (bytes : List UInt8) (start : Nat) : Nat := ofBE (slice bytes (start + 2) 2)

def valueAt (bytes : List UInt8) (start : Nat) : List UInt8 := slice bytes (start + 4) (lengthAt bytes start)

/-- The elements of the `available` bytes from a position on, when they are taken up by elements. -/
def walk (bytes : List UInt8) (start available : Nat) : Option (List Placed) :=
  if _h : available = 0 then some []
  else if available < encodedLength (lengthAt bytes start) then none
  else
    (walk bytes (start + encodedLength (lengthAt bytes start)) (available - encodedLength (lengthAt bytes start))).map
      (⟨⟨tagAt bytes start, valueAt bytes start⟩, start⟩ :: ·)
termination_by available
decreasing_by unfold encodedLength; omega

@[simp] theorem encodeAll_nil : encodeAll [] = [] := rfl

@[simp] theorem encodeAll_cons (e : Element) (l : List Element) : encodeAll (e :: l) = encode e ++ encodeAll l := rfl

theorem encodeAll_append (l m : List Element) : encodeAll (l ++ m) = encodeAll l ++ encodeAll m := List.flatMap_append

theorem length_encode (e : Element) : (encode e).length = encodedLength e.value.length := by
  have hle := le_dwordBoundary e.value.length
  unfold encode padding encodedLength
  simp only [List.length_append, length_toBE, length_zeros]
  omega

theorem encodedLength_mod (n : Nat) : encodedLength n % 4 = 0 := by
  have hmod := dwordBoundary_mod n
  unfold encodedLength
  omega

theorem walk_zero (bytes : List UInt8) (start : Nat) : walk bytes start 0 = some [] := by
  rw [walk, dif_pos rfl]

theorem walk_step {bytes : List UInt8} {start available : Nat} (hne : available ≠ 0)
    (hfits : encodedLength (lengthAt bytes start) ≤ available) :
    walk bytes start available =
      (walk bytes (start + encodedLength (lengthAt bytes start))
        (available - encodedLength (lengthAt bytes start))).map
        (⟨⟨tagAt bytes start, valueAt bytes start⟩, start⟩ :: ·) := by
  rw [walk, dif_neg hne, if_neg (by omega)]

/-- An element that was written is read at its place. -/
theorem at_encode (front back : List UInt8) (e : Element) (hlength : e.value.length < 65536) :
    tagAt (front ++ (encode e ++ back)) front.length = e.tag ∧
      lengthAt (front ++ (encode e ++ back)) front.length = e.value.length ∧
      valueAt (front ++ (encode e ++ back)) front.length = e.value := by
  have htag : e.tag.toNat < 256 ^ 2 := e.tag.toNat_lt
  have hlengthAt : lengthAt (front ++ (encode e ++ back)) front.length = e.value.length := by
    unfold lengthAt encode
    have hsplit : front ++ (toBE 2 e.tag.toNat ++ (toBE 2 e.value.length ++ (e.value ++ padding e.value)) ++ back) =
        (front ++ toBE 2 e.tag.toNat) ++ (toBE 2 e.value.length ++ (e.value ++ padding e.value ++ back)) := by
      simp only [List.append_assoc]
    rw [hsplit, slice_append_mid _ _ _ _ _ (by simp) (length_toBE _ _), ofBE_toBE_of_lt 2 _ hlength]
  refine ⟨?_, hlengthAt, ?_⟩
  · unfold tagAt encode
    rw [List.append_assoc, slice_append_mid _ _ _ _ _ rfl (length_toBE _ _), ofBE_toBE_of_lt 2 _ htag]
    apply UInt16.toNat_inj.mp
    rw [UInt16.toNat_ofNat']
    exact Nat.mod_eq_of_lt htag
  · unfold valueAt
    rw [hlengthAt]
    unfold encode
    have hsplit : front ++ (toBE 2 e.tag.toNat ++ (toBE 2 e.value.length ++ (e.value ++ padding e.value)) ++ back) =
        (front ++ toBE 2 e.tag.toNat ++ toBE 2 e.value.length) ++ (e.value ++ (padding e.value ++ back)) := by
      simp only [List.append_assoc]
    rw [hsplit, slice_append_mid _ _ _ _ _ (by simp) rfl]

theorem walk_encodeAll (front back : List UInt8) (l : List Element) (h : ∀ e ∈ l, e.value.length < 65536) :
    walk (front ++ (encodeAll l ++ back)) front.length (encodeAll l).length = some (place front.length l) := by
  induction l generalizing front with
  | nil => exact walk_zero _ _
  | cons e l ih =>
    have hlength := h e List.mem_cons_self
    have hencode := length_encode e
    have hbytes : front ++ (encodeAll (e :: l) ++ back) = front ++ (encode e ++ (encodeAll l ++ back)) := by
      rw [encodeAll_cons, List.append_assoc]
    obtain ⟨htag, hlengthAt, hvalue⟩ := at_encode front (encodeAll l ++ back) e hlength
    have hrest := ih (front ++ encode e) fun e' he' => h e' (List.mem_cons_of_mem e he')
    rw [List.append_assoc, List.length_append, hencode] at hrest
    have htotal : (encodeAll (e :: l)).length = encodedLength e.value.length + (encodeAll l).length := by
      rw [encodeAll_cons, List.length_append, hencode]
    rw [hbytes, walk_step (by rw [htotal, encodedLength]; omega) (by rw [hlengthAt]; omega), htag, hlengthAt, hvalue,
      htotal, Nat.add_sub_cancel_left, hrest]
    rfl

theorem mem_walk {bytes : List UInt8} {start available : Nat} {l : List Placed}
    (h : walk bytes start available = some l) {e : Placed} (he : e ∈ l) :
    start ≤ e.start ∧ e.start + encodedLength (lengthAt bytes e.start) ≤ start + available ∧
      e.tag = tagAt bytes e.start ∧ e.value = valueAt bytes e.start := by
  induction available using Nat.strong_induction_on generalizing start l with
  | _ available ih =>
    rw [walk] at h
    split at h
    · cases h
      cases he
    next hne =>
    split at h
    · cases h
    next hfits =>
    obtain ⟨rest, hrest, rfl⟩ := Option.map_eq_some_iff.mp h
    have hpos : 0 < encodedLength (lengthAt bytes start) := by
      unfold encodedLength
      omega
    rcases List.mem_cons.mp he with rfl | he
    · exact ⟨le_refl _, by dsimp only; omega, rfl, rfl⟩
    · obtain ⟨hstart, hend, htag, hvalue⟩ := ih _ (by omega) hrest he
      exact ⟨by omega, by omega, htag, hvalue⟩

end Tlv
