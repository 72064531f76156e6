import Mathlib.Data.List.Dedup
import Mathlib.Data.List.Perm.Subperm

/-!
# Taking items from lists

The allowed items of a list are taken, each once and where it is first. Items of two lists
are taken in turn, until the list whose turn it is has no more; so what is taken of the
longer list is bounded by the length of the other.
-/
namespace Taking

variable {α : Type} [DecidableEq α]

/-- The items that are allowed and not seen before, each where it is first. -/
def firsts (ok : α → Bool) : List α → List α → List α
  | _, [] => []
  | seen, a :: l => if ok a ∧ a ∉ seen then a :: firsts ok (seen ++ [a]) l else firsts ok seen l

theorem mem_firsts (ok : α → Bool) (seen l : List α) (a : α) :
    a ∈ firsts ok seen l ↔ a ∈ l ∧ ok a = true ∧ a ∉ seen := by
  induction l generalizing seen with
  | nil => simp [firsts]
  | cons b l ih =>
    by_cases hb : ok b = true ∧ b ∉ seen
    · simp only [firsts, if_pos hb, List.mem_cons, ih, List.mem_append, List.not_mem_nil, or_false]
      by_cases hab : a = b
      · subst hab
        simp [hb]
      · simp [hab]
    · simp only [firsts, if_neg hb, ih, List.mem_cons]
      constructor
      · exact fun h => ⟨.inr h.1, h.2⟩
      · rintro ⟨rfl | hmem, hok⟩
        · exact absurd hok hb
        · exact ⟨hmem, hok⟩

theorem nodup_firsts (ok : α → Bool) (seen l : List α) : (firsts ok seen l).Nodup := by
  induction l generalizing seen with
  | nil => simp [firsts]
  | cons b l ih =>
    by_cases hb : ok b = true ∧ b ∉ seen
    · rw [firsts, if_pos hb, List.nodup_cons]
      refine ⟨fun hmem => ?_, ih _⟩
      simpa using ((mem_firsts ok _ l b).mp hmem).2.2
    · rw [firsts, if_neg hb]
      exact ih seen

theorem length_firsts (ok : α → Bool) (l : List α) : (firsts ok [] l).length = (l.filter ok).dedup.length := by
  apply List.Perm.length_eq
  apply (List.perm_ext_iff_of_nodup (nodup_firsts ok [] l) (List.nodup_dedup _)).mpr
  intro a
  simp [mem_firsts]

section InTurn

variable {β : Type}

/-- Items of two lists in turn, each with the side it is from; the first list is the one whose turn it is. -/
def inTurn : Bool → List β → List β → List (Bool × β)
  | _, [], _ => []
  | side, x :: mine, others => (side, x) :: inTurn (!side) others mine
termination_by _ mine others => mine.length + others.length

/-- The items from one side. -/
def part (side : Bool) (taken : List (Bool × β)) : List β := (taken.filter fun item => item.1 == side).map Prod.snd

variable (side : Bool)

@[simp] theorem part_nil : part side ([] : List (Bool × β)) = [] := rfl

@[simp] theorem part_cons_self (x : β) (taken : List (Bool × β)) :
    part side ((side, x) :: taken) = x :: part side taken := by
  simp [part]

@[simp] theorem part_cons_not (x : β) (taken : List (Bool × β)) :
    part (!side) ((side, x) :: taken) = part (!side) taken := by
  cases side <;> simp [part]

@[simp] theorem part_not_cons (x : β) (taken : List (Bool × β)) :
    part side ((!side, x) :: taken) = part side taken := by
  cases side <;> simp [part]

variable {taken : List (Bool × β)}

theorem mem_part {side : Bool} {x : β} : x ∈ part side taken ↔ (side, x) ∈ taken := by
  simp [part]

theorem eq_nil_of_parts (htrue : part true taken = []) (hfalse : part false taken = []) : taken = [] := by
  apply List.eq_nil_iff_forall_not_mem.mpr
  rintro ⟨side, x⟩ hmem
  cases side with
  | true => simpa [htrue] using mem_part.mpr hmem
  | false => simpa [hfalse] using mem_part.mpr hmem

theorem count_part [DecidableEq β] (x : β) (taken : List (Bool × β)) :
    taken.count (side, x) = (part side taken).count x := by
  induction taken with
  | nil => rfl
  | cons item taken ih =>
    obtain ⟨other, y⟩ := item
    by_cases hside : other = side
    · subst hside
      simp [List.count_cons, ih]
    · have hnot : other = !side := by revert hside; cases other <;> cases side <;> simp
      subst hnot
      simp [ih]

theorem part_inTurn (mine others : List β) :
    part side (inTurn side mine others) = mine.take (others.length + 1) ∧
      part (!side) (inTurn side mine others) = others.take mine.length := by
  induction side, mine, others using inTurn.induct with
  | case1 side others => simp [inTurn]
  | case2 side x mine others ih =>
    obtain ⟨hothers, hmine⟩ := ih
    rw [Bool.not_not] at hmine
    rw [inTurn, part_cons_self, part_cons_not, hmine, hothers]
    simp

end InTurn

theorem count_take_iff {l : List α} (hnodup : l.Nodup) (n : Nat) :
    (∀ a ∈ l, (l.take n).count a = 1) ↔ l.length ≤ n := by
  constructor
  · intro hall
    have hsub : l ⊆ l.take n := fun a ha => List.count_pos_iff.mp (by rw [hall a ha]; exact Nat.one_pos)
    have hlen : l.length ≤ (l.take n).length := (hnodup.subperm hsub).length_le
    rw [List.length_take] at hlen
    omega
  · intro hle a ha
    rw [List.take_of_length_le hle]
    exact List.count_eq_one_of_mem hnodup ha

end Taking
