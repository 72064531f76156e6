import Mathlib.Data.List.Sort

/-!
# Sorting by a key

Each item in turn is put before the first one with a greater key, or at the end. Items of
one key keep their order, so a sorted list is told by its items of each key: two lists
are sorted to the same one exactly when they differ by the order of items of different
keys only.
-/
namespace StableSort

variable {α β κ : Type} [LinearOrder κ]

/-- An item is put before the first one with a greater key. -/
def insert (key : α → κ) (placed : List α) (x : α) : List α := placed.orderedInsert (fun a b => key a < key b) x

def sort (key : α → κ) (l : List α) : List α := l.foldl (insert key) []

/-- The items of each key are the same, in the same order. -/
def Rearranged (key : α → κ) (as bs : List α) : Prop := ∀ k, as.filter (key · = k) = bs.filter (key · = k)

/-- The keys do not descend. -/
def Sorted (key : α → κ) (l : List α) : Prop := l.Pairwise fun a b => key a ≤ key b

variable {key : α → κ}

variable (x : α)

@[simp] theorem insert_nil : insert key [] x = [x] := rfl

@[simp] theorem insert_cons (y : α) (l : List α) :
    insert key (y :: l) x = if key x < key y then x :: y :: l else y :: insert key l x := rfl

variable (l : List α)

theorem perm_insert (x : α) : (insert key l x).Perm (x :: l) := List.perm_orderedInsert _ x l

theorem mem_insert {l : List α} {x y : α} : y ∈ insert key l x ↔ y = x ∨ y ∈ l := by
  rw [(perm_insert l x).mem_iff, List.mem_cons]

theorem sorted_insert {l : List α} (h : Sorted key l) (x : α) : Sorted key (insert key l x) := by
  induction l with
  | nil => simp [Sorted]
  | cons y l ih =>
    obtain ⟨hy, hl⟩ := List.pairwise_cons.mp h
    by_cases hlt : key x < key y
    · rw [insert_cons, if_pos hlt]
      apply List.pairwise_cons.mpr
      refine ⟨fun z hz => ?_, h⟩
      cases hz with
      | head => exact le_of_lt hlt
      | tail _ hz => exact le_trans (le_of_lt hlt) (hy z hz)
    · rw [insert_cons, if_neg hlt]
      apply List.pairwise_cons.mpr
      refine ⟨fun z hz => ?_, ih hl⟩
      cases mem_insert.mp hz with
      | inl hx => rw [hx]; exact not_lt.mp hlt
      | inr hz => exact hy z hz

/-- The items of a key are those before, and the new one behind them when it has the key. -/
theorem filter_insert {l : List α} (h : Sorted key l) (x : α) (k : κ) :
    (insert key l x).filter (key · = k) = l.filter (key · = k) ++ if key x = k then [x] else [] := by
  induction l with
  | nil => by_cases hk : key x = k <;> simp [hk]
  | cons y l ih =>
    obtain ⟨hy, hl⟩ := List.pairwise_cons.mp h
    by_cases hlt : key x < key y
    · rw [insert_cons, if_pos hlt]
      by_cases hk : key x = k
      · -- all that is there has a greater key
        have hnone : (y :: l).filter (key · = k) = [] := by
          apply List.filter_eq_nil_iff.mpr
          intro z hz
          have hle : key y ≤ key z := by
            cases hz with
            | head => exact le_refl _
            | tail _ hz => exact hy z hz
          have hne : key z ≠ k := by
            rw [← hk]
            exact ne_of_gt (lt_of_lt_of_le hlt hle)
          simpa using hne
        rw [List.filter_cons_of_pos (by simpa using hk), hnone, if_pos hk, List.nil_append]
      · rw [List.filter_cons_of_neg (by simpa using hk), if_neg hk, List.append_nil]
    · rw [insert_cons, if_neg hlt]
      by_cases hk : key y = k
      · rw [List.filter_cons_of_pos (by simpa using hk), List.filter_cons_of_pos (by simpa using hk), ih hl,
          List.cons_append]
      · rw [List.filter_cons_of_neg (by simpa using hk), List.filter_cons_of_neg (by simpa using hk), ih hl]

theorem foldl_insert (placed : List α) (h : Sorted key placed) :
    Sorted key (l.foldl (insert key) placed) ∧ (l.foldl (insert key) placed).Perm (placed ++ l) ∧
      ∀ k, (l.foldl (insert key) placed).filter (key · = k) =
        placed.filter (key · = k) ++ l.filter (key · = k) := by
  induction l generalizing placed with
  | nil => simp [h]
  | cons x l ih =>
    obtain ⟨hsorted, hperm, hfilter⟩ := ih (insert key placed x) (sorted_insert h x)
    refine ⟨hsorted, ?_, fun k => ?_⟩
    · apply hperm.trans
      exact ((perm_insert placed x).append_right l).trans List.perm_middle.symm
    · rw [List.foldl_cons, hfilter, filter_insert h, List.append_assoc]
      by_cases hk : key x = k <;> simp [hk]

theorem sorted_sort : Sorted key (sort key l) := (foldl_insert l [] List.Pairwise.nil).1

theorem perm_sort : (sort key l).Perm l := (foldl_insert l [] List.Pairwise.nil).2.1

theorem rearranged_sort : Rearranged key (sort key l) l :=
  (foldl_insert l [] List.Pairwise.nil).2.2

variable {as bs : List α}

theorem Rearranged.symm (h : Rearranged key as bs) : Rearranged key bs as := fun k => (h k).symm

theorem Rearranged.trans {cs : List α} (h : Rearranged key as bs) (h' : Rearranged key bs cs) :
    Rearranged key as cs := fun k => (h k).trans (h' k)

theorem Rearranged.mem_iff (h : Rearranged key as bs) (x : α) : x ∈ as ↔ x ∈ bs := by
  have hx := h (key x)
  constructor
  · intro hmem
    have hfound : x ∈ as.filter (key · = key x) := List.mem_filter.mpr ⟨hmem, by simp⟩
    rw [hx] at hfound
    exact (List.mem_filter.mp hfound).1
  · intro hmem
    have hfound : x ∈ bs.filter (key · = key x) := List.mem_filter.mpr ⟨hmem, by simp⟩
    rw [← hx] at hfound
    exact (List.mem_filter.mp hfound).1

/-- A sorted list begins with the first item of its least key. -/
theorem eq_of_sorted (ha : Sorted key as) (hb : Sorted key bs) (h : Rearranged key as bs) : as = bs := by
  induction as generalizing bs with
  | nil =>
    cases bs with
    | nil => rfl
    | cons b bs => exact absurd ((h.mem_iff b).mpr List.mem_cons_self) List.not_mem_nil
  | cons a as ih =>
    cases bs with
    | nil => exact absurd ((h.mem_iff a).mp List.mem_cons_self) List.not_mem_nil
    | cons b bs =>
      obtain ⟨hleA, ha'⟩ := List.pairwise_cons.mp ha
      obtain ⟨hleB, hb'⟩ := List.pairwise_cons.mp hb
      have hab : key a ≤ key b := by
        cases (h.mem_iff b).mpr List.mem_cons_self with
        | head => exact le_refl _
        | tail _ hmem => exact hleA b hmem
      have hba : key b ≤ key a := by
        cases (h.mem_iff a).mp List.mem_cons_self with
        | head => exact le_refl _
        | tail _ hmem => exact hleB a hmem
      have hkey := le_antisymm hab hba
      have hfirst := h (key b)
      rw [List.filter_cons_of_pos (by simpa using hkey), List.filter_cons_of_pos (by simp)] at hfirst
      obtain ⟨rfl, -⟩ := List.cons.inj hfirst
      rw [ih ha' hb' fun k => ?_]
      have hrest := h k
      by_cases hk : key a = k
      · rw [List.filter_cons_of_pos (by simpa using hk), List.filter_cons_of_pos (by simpa using hk)] at hrest
        exact (List.cons.inj hrest).2
      · rw [List.filter_cons_of_neg (by simpa using hk), List.filter_cons_of_neg (by simpa using hk)] at hrest
        exact hrest

theorem sort_eq_iff (as bs : List α) : sort key as = sort key bs ↔ Rearranged key as bs := by
  constructor
  · intro h
    exact (rearranged_sort as).symm.trans (h ▸ rearranged_sort bs)
  · intro h
    exact eq_of_sorted (sorted_sort as) (sorted_sort bs)
      ((rearranged_sort as).trans (h.trans (rearranged_sort bs).symm))

theorem sort_map {key' : β → κ} (f : α → β) (hkey : ∀ a, key' (f a) = key a) (l : List α) :
    sort key' (l.map f) = (sort key l).map f := by
  have hinsert (placed : List α) (x : α) : insert key' (placed.map f) (f x) = (insert key placed x).map f := by
    induction placed with
    | nil => rfl
    | cons y placed ih =>
      simp only [List.map_cons, insert_cons, hkey, ih]
      split <;> rfl
  have hfold (placed : List α) : (l.map f).foldl (insert key') (placed.map f) =
      (l.foldl (insert key) placed).map f := by
    induction l generalizing placed with
    | nil => rfl
    | cons x l ih => rw [List.map_cons, List.foldl_cons, hinsert, ih, List.foldl_cons]
  exact hfold []

end StableSort
