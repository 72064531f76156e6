import Mathlib.Logic.Function.Basic

/-!
# One-time pads

Strings of one length are combined place by place with a string of random symbols. When
combining twice with the same symbol gives the symbol back, so does combining the
strings, and the random strings are permuted by it.
-/
namespace Pad

variable {α : Type} {op : α → α → α}

/-- The strings of one length. -/
def Block (α : Type) (n : Nat) : Type := { l : List α // l.length = n }

theorem zipWith_cancel (hop : ∀ a b, op (op a b) b = a) (as bs : List α) (h : as.length = bs.length) :
    (as.zipWith op bs).zipWith op bs = as := by
  induction as generalizing bs with
  | nil => rfl
  | cons a as ih =>
    cases bs with
    | nil => simp at h
    | cons b bs => simp [hop, ih bs (Nat.succ.inj h)]

theorem zipWith_split (as bs cs : List α) :
    (as ++ bs).zipWith op cs = as.zipWith op cs ++ bs.zipWith op (cs.drop as.length) := by
  induction as generalizing cs with
  | nil => simp
  | cons a as ih =>
    cases cs with
    | nil => simp
    | cons c cs => simp [ih]

variable {n : Nat}

/-- The strings of one length, each combined with the same string. -/
def shift (op : α → α → α) (k : Block α n) (r : Block α n) : Block α n :=
  ⟨r.1.zipWith op k.1, by rw [List.length_zipWith, r.2, k.2, Nat.min_self]⟩

theorem shift_shift (hop : ∀ a b, op (op a b) b = a) (k r : Block α n) : shift op k (shift op k r) = r :=
  Subtype.ext (zipWith_cancel hop r.1 k.1 (r.2.trans k.2.symm))

theorem shift_bijective (hop : ∀ a b, op (op a b) b = a) (k : Block α n) : Function.Bijective (shift op k) :=
  Function.Involutive.bijective (shift_shift hop k)

end Pad
