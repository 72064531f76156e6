import Mathlib.Data.List.Basic
import Mathlib.Order.Basic
import Mathlib.Data.List.Range

/-!
# Putting numbered things in order

A map from numbers to things as the list of its values in ascending order, the
series at its front whose numbers follow one another, and what is left behind it.
-/
namespace Reorder

variable {α : Type} (key : α → Nat)

/-- The numbers of the list go up. -/
def Ascending (xs : List α) : Prop := xs.Pairwise fun a b => key a < key b

/-- Put a thing in its place; one with the same number is replaced. -/
def insert (x : α) : List α → List α
  | [] => [x]
  | y :: ys =>
    if key x < key y then x :: y :: ys
    else if key x = key y then x :: ys
    else y :: insert x ys

/-- The things at the front that are numbered from `n` on without a gap, and the others. -/
def series : Nat → List α → List α × List α
  | _, [] => ([], [])
  | n, x :: xs =>
    if key x = n then
      let r := series (n + 1) xs
      (x :: r.1, r.2)
    else ([], x :: xs)

variable {key}

variable {x z : α} {xs : List α}

theorem mem_insert (h : z ∈ insert key x xs) : z = x ∨ z ∈ xs := by
  induction xs with
  | nil => exact .inl (List.mem_singleton.mp h)
  | cons y ys ih =>
    rw [insert] at h
    split at h
    · exact List.mem_cons.mp h
    · split at h
      · rcases List.mem_cons.mp h with rfl | hz
        · exact .inl rfl
        · exact .inr (List.mem_cons_of_mem _ hz)
      · rcases List.mem_cons.mp h with rfl | hz
        · exact .inr List.mem_cons_self
        · rcases ih hz with rfl | hz
          · exact .inl rfl
          · exact .inr (List.mem_cons_of_mem _ hz)

theorem mem_insert_self (x : α) (xs : List α) : x ∈ insert key x xs := by
  induction xs with
  | nil => exact List.mem_cons_self
  | cons y ys ih =>
    rw [insert]
    split
    · exact List.mem_cons_self
    · split
      · exact List.mem_cons_self
      · exact List.mem_cons_of_mem _ ih

theorem mem_insert_of_ne (hz : z ∈ xs) (hne : key z ≠ key x) : z ∈ insert key x xs := by
  induction xs with
  | nil => cases hz
  | cons y ys ih =>
    rw [insert]
    split
    · exact List.mem_cons_of_mem _ hz
    · split
      next heq =>
        rcases List.mem_cons.mp hz with rfl | hz
        · exact absurd heq.symm hne
        · exact List.mem_cons_of_mem _ hz
      · rcases List.mem_cons.mp hz with rfl | hz
        · exact List.mem_cons_self
        · exact List.mem_cons_of_mem _ (ih hz)

theorem insert_ascending (h : Ascending key xs) : Ascending key (insert key x xs) := by
  induction xs with
  | nil => exact List.pairwise_singleton _ _
  | cons y ys ih =>
    obtain ⟨hy, hys⟩ := List.pairwise_cons.mp h
    rw [insert]
    split
    next hlt =>
      refine List.pairwise_cons.mpr ⟨?_, h⟩
      intro z hz
      rcases List.mem_cons.mp hz with rfl | hz
      · exact hlt
      · exact lt_trans hlt (hy z hz)
    next hlt =>
      split
      next heq =>
        refine List.pairwise_cons.mpr ⟨?_, hys⟩
        intro z hz
        rw [heq]
        exact hy z hz
      next hne =>
        refine List.pairwise_cons.mpr ⟨?_, ih hys⟩
        intro z hz
        rcases mem_insert hz with rfl | hz
        · exact lt_of_le_of_ne (Nat.le_of_not_lt hlt) (Ne.symm hne)
        · exact hy z hz

variable (key)

variable (n : Nat)

theorem series_append (xs : List α) : (series key n xs).1 ++ (series key n xs).2 = xs := by
  induction xs generalizing n with
  | nil => rfl
  | cons x xs ih =>
    rw [series]
    split
    · exact congrArg (x :: ·) (ih (n + 1))
    · rfl

theorem series_keys (xs : List α) : (series key n xs).1.map key = List.range' n (series key n xs).1.length := by
  induction xs generalizing n with
  | nil => rfl
  | cons x xs ih =>
    rw [series]
    split
    next hx =>
      simp only [List.map_cons, List.length_cons, List.range'_succ, ih, hx]
    · rfl

theorem series_rest (xs : List α) (h : Ascending key xs) (hlow : ∀ x ∈ xs, n ≤ key x) :
    ∀ x ∈ (series key n xs).2, n + (series key n xs).1.length < key x := by
  induction xs generalizing n with
  | nil => intro x hx; cases hx
  | cons y ys ih =>
    obtain ⟨hy, hys⟩ := List.pairwise_cons.mp h
    rw [series]
    split
    next hx =>
      intro z hz
      have hrest := ih (n + 1) hys (fun w hw => by have := hy w hw; omega) z hz
      simp only [List.length_cons]
      omega
    next hx =>
      intro z hz
      have hyn := hlow y List.mem_cons_self
      rcases List.mem_cons.mp hz with rfl | hz
      · exact lt_of_le_of_ne hyn (Ne.symm hx)
      · have := hy z hz
        simp only [List.length_nil]
        omega

theorem series_rest_ascending (xs : List α) (h : Ascending key xs) : Ascending key (series key n xs).2 := by
  rw [← series_append key n xs] at h
  exact (List.pairwise_append.mp h).2.1

end Reorder
