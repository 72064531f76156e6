import Mathlib.Algebra.Ring.Nat
import Mathlib.Data.List.Basic

/-!
# Decimal numerals

A number is written in decimal digits, and read back when it is below the bound of
the type it is read into.
-/
namespace Numeric

/-- The number a string of digits stands for. -/
def digits (cs : List Char) : Option Nat :=
  if cs ≠ [] ∧ cs.all Char.isDigit then some (Nat.ofDigitChars 10 cs 0) else none

/-- An unsigned number below the bound, without sign and without blanks. -/
def unsigned (bound : Nat) (s : String) : Option Nat := (digits s.toList).filter (· < bound)

/-- A number that may carry a minus sign, from `-bound` up to `bound - 1`. -/
def signed (bound : Nat) : List Char → Option Int
  | '-' :: cs => ((digits cs).filter (· ≤ bound)).map fun n => -(n : Int)
  | cs => ((digits cs).filter (· < bound)).map fun n => (n : Int)

@[simp] theorem digits_toDigits (n : Nat) : digits (Nat.toDigits 10 n) = some n := by
  have hdigits : (Nat.toDigits 10 n).all Char.isDigit = true := by
    rw [List.all_eq_true]
    exact fun c hc => Nat.isDigit_of_mem_toDigits (by omega) (by omega) hc
  rw [digits, if_pos ⟨Nat.toDigits_ne_nil, hdigits⟩, Nat.ofDigitChars_ten_toDigits]

theorem toList_toString (n : Nat) : (toString n).toList = Nat.toDigits 10 n := by
  rw [Nat.toString_eq_repr, Nat.toList_repr]

theorem toString_inj {m n : Nat} (h : toString m = toString n) : m = n := by
  have hdigits : digits (toString m).toList = digits (toString n).toList := by rw [h]
  rw [toList_toString, toList_toString, digits_toDigits, digits_toDigits] at hdigits
  exact Option.some.inj hdigits

theorem unsigned_toString {bound n : Nat} (h : n < bound) : unsigned bound (toString n) = some n := by
  rw [unsigned, toList_toString, digits_toDigits, Option.filter_some, if_pos (by simpa using h)]

/-- Digits without a sign are read when the number is in range. -/
theorem signed_toDigits_eq (bound n : Nat) :
    signed bound (Nat.toDigits 10 n) = if n < bound then some (n : Int) else none := by
  have hsign : ∀ cs, Nat.toDigits 10 n ≠ '-' :: cs := by
    intro cs heq
    have hdigit : '-'.isDigit = true :=
      Nat.isDigit_of_mem_toDigits (b := 10) (n := n) (by omega) (by omega) (heq ▸ List.mem_cons_self)
    exact absurd hdigit (by decide)
  unfold signed
  split
  case h_1 cs heq => exact absurd heq (hsign cs)
  case h_2 =>
    rw [digits_toDigits, Option.filter_some]
    by_cases h : n < bound
    · rw [if_pos (by simpa using h), if_pos h]
      rfl
    · rw [if_neg (by simpa using h), if_neg h]
      rfl

theorem signed_toDigits {bound n : Nat} (h : n < bound) : signed bound (Nat.toDigits 10 n) = some (n : Int) := by
  rw [signed_toDigits_eq, if_pos h]

end Numeric
