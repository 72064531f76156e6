import Mathlib.Data.List.Perm.Basic

/-!
# Sorting with a comparison that draws

A list is sorted by merging its sorted halves, with a comparison that draws a number at random
each time. Such a comparison is no order, but no item is lost and none is there twice, and the
items are in every order that the comparison respects whatever it draws. What is to be drawn
can be chosen, for each comparison by what it compares.

A plan says which lists are merged; halving the list is one.
-/
namespace DrawnSort

variable {α : Type}

/-- Two lists are merged, and the numbers that are drawn next. -/
def merge (less : α → α → Nat → Bool) : (Nat → Nat) → List α → List α → List α × (Nat → Nat)
  | draws, [], ys => (ys, draws)
  | draws, x :: xs, [] => (x :: xs, draws)
  | draws, x :: xs, y :: ys =>
    if less y x (draws 0) then
      let merged := merge less (fun n => draws (n + 1)) (x :: xs) ys
      (y :: merged.1, merged.2)
    else
      let merged := merge less (fun n => draws (n + 1)) xs (y :: ys)
      (x :: merged.1, merged.2)
termination_by _ xs ys => xs.length + ys.length

/-- The number bounds how often the list is halved. -/
def sortIn (less : α → α → Nat → Bool) : Nat → (Nat → Nat) → List α → List α × (Nat → Nat)
  | 0, draws, xs => (xs, draws)
  | depth + 1, draws, xs =>
    if xs.length ≤ 1 then (xs, draws)
    else
      let left := sortIn less depth draws (xs.take (xs.length / 2))
      let right := sortIn less depth left.2 (xs.drop (xs.length / 2))
      merge less right.2 left.1 right.1

def sort (less : α → α → Nat → Bool) (draws : Nat → Nat) (xs : List α) : List α :=
  (sortIn less xs.length draws xs).1

variable (less : α → α → Nat → Bool)

theorem merge_perm (draws : Nat → Nat) (xs ys : List α) : (merge less draws xs ys).1.Perm (xs ++ ys) := by
  induction draws, xs, ys using merge.induct less with
  | case1 draws ys => simp [merge]
  | case2 draws x xs => simp [merge]
  | case3 draws x xs y ys hless ih =>
    rw [merge, if_pos hless]
    exact (ih.cons y).trans List.perm_middle.symm
  | case4 draws x xs y ys hless ih =>
    rw [merge, if_neg hless]
    exact ih.cons x

theorem sortIn_perm (depth : Nat) (draws : Nat → Nat) (xs : List α) : (sortIn less depth draws xs).1.Perm xs := by
  induction depth generalizing draws xs with
  | zero => simp [sortIn]
  | succ depth ih =>
    unfold sortIn
    split
    · exact List.Perm.refl _
    · calc (merge less _ _ _).1.Perm _ := merge_perm less _ _ _
        List.Perm _ (xs.take (xs.length / 2) ++ xs.drop (xs.length / 2)) := (ih _ _).append (ih _ _)
        _ = xs := List.take_append_drop _ _

theorem sort_perm (draws : Nat → Nat) (xs : List α) : (sort less draws xs).Perm xs :=
  sortIn_perm less xs.length draws xs

section Plans

/-- A list is sorted by sorting two parts of it and merging them. -/
inductive Plan (α : Type) where
  | nothing
  | single (item : α)
  | merged (left right : Plan α)

def Plan.items : Plan α → List α
  | .nothing => []
  | .single item => [item]
  | .merged left right => left.items ++ right.items

def Plan.sort (less : α → α → Nat → Bool) : Plan α → (Nat → Nat) → List α × (Nat → Nat)
  | .nothing, draws => ([], draws)
  | .single item, draws => ([item], draws)
  | .merged left right, draws =>
    let left := left.sort less draws
    let right := right.sort less left.2
    merge less right.2 left.1 right.1

def halving : Nat → List α → Plan α
  | _, [] => .nothing
  | _, [item] => .single item
  | 0, _ => .nothing
  | depth + 1, xs => .merged (halving depth (xs.take (xs.length / 2))) (halving depth (xs.drop (xs.length / 2)))

theorem halving_eq (depth : Nat) (draws : Nat → Nat) (xs : List α) (hdepth : xs.length ≤ depth) :
    (halving depth xs).items = xs ∧ (halving depth xs).sort less draws = sortIn less depth draws xs := by
  induction depth generalizing draws xs with
  | zero =>
    obtain rfl := List.length_eq_zero_iff.mp (Nat.le_zero.mp hdepth)
    exact ⟨rfl, rfl⟩
  | succ depth ih =>
    obtain _ | ⟨x, _ | ⟨y, xs⟩⟩ := xs
    · exact ⟨rfl, rfl⟩
    · exact ⟨rfl, rfl⟩
    · have htake : ((x :: y :: xs).take ((x :: y :: xs).length / 2)).length ≤ depth := by
        simp only [List.length_take, List.length_cons] at hdepth ⊢
        omega
      have hdrop : ((x :: y :: xs).drop ((x :: y :: xs).length / 2)).length ≤ depth := by
        simp only [List.length_drop, List.length_cons] at hdepth ⊢
        omega
      have hlong : ¬(x :: y :: xs).length ≤ 1 := by
        simp only [List.length_cons]
        omega
      constructor
      · rw [halving, Plan.items, (ih draws _ htake).1, (ih draws _ hdrop).1, List.take_append_drop]
        · exact List.cons_ne_nil _ _
        · simp
      · rw [halving, Plan.sort, (ih draws _ htake).2, (ih _ _ hdrop).2, sortIn, if_neg hlong]
        · exact List.cons_ne_nil _ _
        · simp

theorem sort_eq_plan (xs : List α) :
    (halving xs.length xs).items = xs ∧ ∀ draws, sort less draws xs = ((halving xs.length xs).sort less draws).1 := by
  constructor
  · exact (halving_eq less xs.length id xs (Nat.le_refl _)).1
  · intro draws
    rw [(halving_eq less xs.length draws xs (Nat.le_refl _)).2, sort]

theorem Plan.sort_perm (plan : Plan α) (draws : Nat → Nat) : (plan.sort less draws).1.Perm plan.items := by
  induction plan generalizing draws with
  | nothing => exact List.Perm.refl _
  | single item => exact List.Perm.refl _
  | merged left right ihLeft ihRight => exact (merge_perm less _ _ _).trans ((ihLeft _).append (ihRight _))

end Plans

section Respecting

/-- Whatever is drawn, an item is put before another only where the relation allows it. -/
structure Respects (less : α → α → Nat → Bool) (r : α → α → Prop) : Prop where
  trans : ∀ a b c, r a b → r b c → r a c
  before : ∀ a b draw, less a b draw = true → r a b
  not_before : ∀ a b draw, less a b draw = false → r b a

variable {less}
variable {r : α → α → Prop}

theorem Respects.merge (h : Respects less r) (draws : Nat → Nat) (xs ys : List α) (hxs : xs.Pairwise r)
    (hys : ys.Pairwise r) : (merge less draws xs ys).1.Pairwise r := by
  induction draws, xs, ys using merge.induct less with
  | case1 draws ys => simpa [DrawnSort.merge] using hys
  | case2 draws x xs => simpa [DrawnSort.merge] using hxs
  | case3 draws x xs y ys hless ih =>
    rw [DrawnSort.merge, if_pos hless]
    have hyx := h.before y x _ hless
    obtain ⟨hy, hys⟩ := List.pairwise_cons.mp hys
    refine List.pairwise_cons.mpr ⟨?_, ih hxs hys⟩
    intro item hitem
    have hmem := (merge_perm less _ (x :: xs) ys).mem_iff.mp hitem
    obtain hleft | hright := List.mem_append.mp hmem
    · obtain rfl | hrest := List.mem_cons.mp hleft
      · exact hyx
      · exact h.trans y x item hyx ((List.pairwise_cons.mp hxs).1 item hrest)
    · exact hy item hright
  | case4 draws x xs y ys hless ih =>
    rw [DrawnSort.merge, if_neg hless]
    have hxy := h.not_before y x _ (Bool.eq_false_iff.mpr hless)
    obtain ⟨hx, hxs⟩ := List.pairwise_cons.mp hxs
    refine List.pairwise_cons.mpr ⟨?_, ih hxs hys⟩
    intro item hitem
    have hmem := (merge_perm less _ xs (y :: ys)).mem_iff.mp hitem
    obtain hleft | hright := List.mem_append.mp hmem
    · exact hx item hleft
    · obtain rfl | hrest := List.mem_cons.mp hright
      · exact hxy
      · exact h.trans x y item hxy ((List.pairwise_cons.mp hys).1 item hrest)

theorem Respects.sort (h : Respects less r) (plan : Plan α) (draws : Nat → Nat) :
    (plan.sort less draws).1.Pairwise r := by
  induction plan generalizing draws with
  | nothing => exact List.Pairwise.nil
  | single item => exact List.pairwise_singleton r item
  | merged left right ihLeft ihRight => exact h.merge _ _ _ (ihLeft _) (ihRight _)

end Respecting

section Choosing

variable (choose : α → α → Nat)

/-- The comparison that draws what is chosen for the two items. -/
def chosen : α → α → Nat → Bool := fun a b _ => less a b (choose a b)

def prepend (draw : Nat) (draws : Nat → Nat) : Nat → Nat
  | 0 => draw
  | n + 1 => draws n

variable {P : Nat → Prop}

theorem prepend_all {draw : Nat} {draws : Nat → Nat} (hdraw : P draw) (hdraws : ∀ n, P (draws n)) (n : Nat) :
    P (prepend draw draws n) := by
  cases n with
  | zero => exact hdraw
  | succ n => exact hdraws n

/-- What is chosen is drawn while two lists are merged, and then comes the rest. -/
theorem merge_chosen (draws rest : Nat → Nat) (xs ys : List α)
    (hchoose : ∀ a ∈ xs ++ ys, ∀ b ∈ xs ++ ys, P (choose a b)) (hrest : ∀ n, P (rest n)) :
    ∃ drawn, (∀ n, P (drawn n)) ∧
      merge less drawn xs ys = ((merge (chosen less choose) draws xs ys).1, rest) := by
  induction draws, xs, ys using merge.induct (chosen less choose) with
  | case1 draws ys => exact ⟨rest, hrest, by simp [merge]⟩
  | case2 draws x xs => exact ⟨rest, hrest, by simp [merge]⟩
  | case3 draws x xs y ys hless ih =>
    obtain ⟨drawn, hdrawn, hmerge⟩ := ih fun a ha b hb => hchoose a (by grind) b (by grind)
    refine ⟨prepend (choose y x) drawn, prepend_all (hchoose y (by simp) x (by simp)) hdrawn, ?_⟩
    have hdrew : less y x (prepend (choose y x) drawn 0) = true := hless
    rw [merge, if_pos hdrew, merge, if_pos hless]
    exact congrArg (fun merged => (y :: merged.1, merged.2)) hmerge
  | case4 draws x xs y ys hless ih =>
    obtain ⟨drawn, hdrawn, hmerge⟩ := ih fun a ha b hb => hchoose a (by grind) b (by grind)
    refine ⟨prepend (choose y x) drawn, prepend_all (hchoose y (by simp) x (by simp)) hdrawn, ?_⟩
    have hdrew : ¬less y x (prepend (choose y x) drawn 0) = true := hless
    rw [merge, if_neg hdrew, merge, if_neg hless]
    exact congrArg (fun merged => (x :: merged.1, merged.2)) hmerge

/-- What is chosen is drawn while a list is sorted. -/
theorem Plan.sort_chosen (plan : Plan α) (draws rest : Nat → Nat)
    (hchoose : ∀ a ∈ plan.items, ∀ b ∈ plan.items, P (choose a b)) (hrest : ∀ n, P (rest n)) :
    ∃ drawn, (∀ n, P (drawn n)) ∧ plan.sort less drawn = ((plan.sort (chosen less choose) draws).1, rest) := by
  induction plan generalizing draws rest with
  | nothing => exact ⟨rest, hrest, rfl⟩
  | single item => exact ⟨rest, hrest, rfl⟩
  | merged left right ihLeft ihRight =>
    have hleft := fun draws => Plan.sort_perm (chosen less choose) left draws
    have hright := fun draws => Plan.sort_perm (chosen less choose) right draws
    let sortedLeft := left.sort (chosen less choose) draws
    let sortedRight := right.sort (chosen less choose) sortedLeft.2
    have hsorted : ∀ a ∈ sortedLeft.1 ++ sortedRight.1, ∀ b ∈ sortedLeft.1 ++ sortedRight.1, P (choose a b) := by
      have hmem : ∀ a, a ∈ sortedLeft.1 ++ sortedRight.1 ↔ a ∈ left.items ++ right.items :=
        fun a => ((hleft draws).append (hright sortedLeft.2)).mem_iff
      intro a ha b hb
      exact hchoose a ((hmem a).mp ha) b ((hmem b).mp hb)
    obtain ⟨merging, hmerging, hmerge⟩ :=
      merge_chosen less choose sortedRight.2 rest sortedLeft.1 sortedRight.1 hsorted hrest
    obtain ⟨after, hafter, hsortRight⟩ := ihRight sortedLeft.2 merging
      (fun a ha b hb => hchoose a (List.mem_append_right _ ha) b (List.mem_append_right _ hb)) hmerging
    obtain ⟨drawn, hdrawn, hsortLeft⟩ := ihLeft draws after
      (fun a ha b hb => hchoose a (List.mem_append_left _ ha) b (List.mem_append_left _ hb)) hafter
    refine ⟨drawn, hdrawn, ?_⟩
    rw [Plan.sort, hsortLeft, hsortRight, hmerge]
    rfl

end Choosing

end DrawnSort
