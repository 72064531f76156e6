import OpenPeer.Bytes
import OpenPeer.Pad

/-!
# A key in two parts

A key is split into random bytes and the exclusive or of them with the key and its
hash. The hash is found again when the parts are combined, and tells whether they
belong together.
-/
namespace OpenPeer

open Pad

namespace Helper

variable (hash : List UInt8 → List UInt8)

/-- The bytes of the text that is hashed for the size of a hash. -/
def emptyText : List UInt8 := [101, 109, 112, 116, 121]

/-- The size of the random bytes asked for when a key is split. -/
def randomSize (key : List UInt8) : Nat := key.length + (hash key).length

/-- The two parts of a key; an empty key has none. -/
def splitKey (key randomData : List UInt8) : Option (List UInt8 × List UInt8) :=
  if key.length < 1 then none else
  let hashed := hash key
  let final := key.zipWith (· ^^^ ·) randomData ++ hashed.zipWith (· ^^^ ·) (randomData.drop key.length)
  some (randomData, final)

/-- Zero when the contents are the same. -/
def compare (left right : List UInt8) : Int :=
  if left.length < right.length then -1
  else if right.length < left.length then 1
  else if left = right then 0
  else if left < right then -1 else 1

def combineKey (part1 part2 : Option (List UInt8)) : Option (List UInt8) :=
  match part1, part2 with
  | some part1, some part2 =>
    let extracted := hash emptyText
    if part1.length ≠ part2.length then none else
    if part1.length ≤ extracted.length then none else
    let length1 := part1.length - extracted.length
    let buffer := (part1.take length1).zipWith (· ^^^ ·) (part2.take length1)
    let extracted := (part1.drop length1).zipWith (· ^^^ ·) (part2.drop length1)
    if 0 ≠ compare extracted (hash buffer) then none else some buffer
  | _, _ => none

@[simp] theorem compare_self (bytes : List UInt8) : compare bytes bytes = 0 := by
  simp [compare]

theorem xor_cancel (a b : UInt8) : a ^^^ b ^^^ b = a := by
  rw [UInt8.xor_assoc, UInt8.xor_self, UInt8.xor_zero]

variable {hash}

theorem splitKey_eq {key : List UInt8} (hkey : key ≠ []) (randomData : List UInt8) :
    splitKey hash key randomData = some (randomData, (key ++ hash key).zipWith (· ^^^ ·) randomData) := by
  have hpos : ¬key.length < 1 := by
    have := List.length_pos_iff.mpr hkey
    omega
  simp [splitKey, hpos, zipWith_split]

/-- Parts of one size that hold a key and its hash under the same bytes are combined to the key. -/
theorem combineKey_eq {key randomData : List UInt8} (hsize : ∀ bytes, (hash bytes).length = 20) (hkey : key ≠ [])
    (hrandom : randomData.length = randomSize hash key) :
    combineKey hash (some randomData) (some ((key ++ hash key).zipWith (· ^^^ ·) randomData)) = some key := by
  have hpos := List.length_pos_iff.mpr hkey
  rw [randomSize, hsize] at hrandom
  have hlength : ((key ++ hash key).zipWith (· ^^^ ·) randomData).length = randomData.length := by
    simp [hsize, hrandom]
  have hfront : randomData.length - (hash emptyText).length = key.length := by
    rw [hrandom, hsize]
    omega
  have hback : randomData.zipWith (· ^^^ ·) ((key ++ hash key).zipWith (· ^^^ ·) randomData) = key ++ hash key := by
    rw [List.zipWith_comm_of_comm UInt8.xor_comm]
    exact zipWith_cancel xor_cancel _ _ (by rw [List.length_append, hsize, hrandom])
  have hbuffer : (randomData.take key.length).zipWith (· ^^^ ·)
      (((key ++ hash key).zipWith (· ^^^ ·) randomData).take key.length) = key := by
    rw [← List.take_zipWith, hback, List.take_left]
  have hextracted : (randomData.drop key.length).zipWith (· ^^^ ·)
      (((key ++ hash key).zipWith (· ^^^ ·) randomData).drop key.length) = hash key := by
    rw [← List.drop_zipWith, hback, List.drop_left]
  have hroom : ¬randomData.length ≤ (hash emptyText).length := by
    rw [hrandom, hsize]
    omega
  simp only [combineKey, hlength, hfront, hbuffer, hextracted, hroom, compare_self, ne_eq, not_true_eq_false,
    if_false]

/-- Combining gives the key back, whatever the random bytes are; and for any other key of its length
the random bytes can be permuted so that the first parts are the same, and so that the second are. -/
theorem key_split (hash : List UInt8 → List UInt8) (hsize : ∀ bytes, (hash bytes).length = 20)
    (key : List UInt8) (hkey : key ≠ []) :
    (∀ random : Block UInt8 (randomSize hash key), ∃ part1 part2,
      splitKey hash key random.1 = some (part1, part2) ∧ combineKey hash (some part1) (some part2) = some key) ∧
    ∀ other : List UInt8, other.length = key.length →
      (∃ f : Block UInt8 (randomSize hash key) → Block UInt8 (randomSize hash other), Function.Bijective f ∧
        ∀ random, (splitKey hash key random.1).map Prod.fst = (splitKey hash other (f random).1).map Prod.fst) ∧
      ∃ f : Block UInt8 (randomSize hash key) → Block UInt8 (randomSize hash other), Function.Bijective f ∧
        ∀ random, (splitKey hash key random.1).map Prod.snd = (splitKey hash other (f random).1).map Prod.snd := by
  constructor
  · intro random
    exact ⟨_, _, splitKey_eq hkey random.1, combineKey_eq hsize hkey random.2⟩
  · intro other hlength
    have hother : other ≠ [] := by
      rintro rfl
      exact hkey (List.eq_nil_of_length_eq_zero hlength.symm)
    have hrandomSize : randomSize hash other = randomSize hash key := by
      rw [randomSize, randomSize, hsize, hsize, hlength]
    rw [hrandomSize]
    let held : Block UInt8 (randomSize hash key) := ⟨key ++ hash key, List.length_append⟩
    let otherHeld : Block UInt8 (randomSize hash key) :=
      ⟨other ++ hash other, by rw [List.length_append]; exact hrandomSize⟩
    constructor
    · refine ⟨id, Function.bijective_id, fun random => ?_⟩
      rw [splitKey_eq hkey, splitKey_eq hother]
      rfl
    · -- the bytes that hide the other key under the same second part
      refine ⟨shift (· ^^^ ·) otherHeld ∘ shift (· ^^^ ·) held,
        (shift_bijective xor_cancel otherHeld).comp (shift_bijective xor_cancel held), fun random => ?_⟩
      rw [splitKey_eq hkey, splitKey_eq hother]
      have hhidden := shift_shift xor_cancel otherHeld (shift (· ^^^ ·) held random)
      have hparts := congrArg Subtype.val hhidden
      simp only [shift, held, otherHeld] at hparts
      rw [Option.map_some, Option.map_some, Option.some_inj]
      change (key ++ hash key).zipWith (· ^^^ ·) random.1 = (other ++ hash other).zipWith (· ^^^ ·) _
      rw [List.zipWith_comm_of_comm UInt8.xor_comm, ← hparts, List.zipWith_comm_of_comm UInt8.xor_comm]
      rfl

/-- The hashes that are taken when the key of one letter is split and combined. -/
def tabulatedHash (bytes : List UInt8) : List UInt8 :=
  if bytes = [97] then
    [134, 247, 228, 55, 250, 165, 167, 252, 225, 93, 29, 220, 185, 234, 234, 234, 55, 118, 103, 184]
  else if bytes = emptyText then
    [173, 135, 16, 155, 255, 240, 118, 95, 77, 216, 207, 73, 67, 176, 77, 22, 164, 7, 15, 234]
  else
    List.replicate 20 0

theorem length_tabulatedHash (bytes : List UInt8) : (tabulatedHash bytes).length = 20 := by
  unfold tabulatedHash
  split
  · rfl
  split
  · rfl
  · rfl

theorem key_split_letter : ∃ part1 part2,
    splitKey tabulatedHash [97] ((List.range 21).map UInt8.ofNat) = some (part1, part2) ∧
      combineKey tabulatedHash (some part1) (some part2) = some [97] :=
  (key_split tabulatedHash length_tabulatedHash [97] (by decide)).1 ⟨(List.range 21).map UInt8.ofNat, by decide⟩

end Helper

end OpenPeer
