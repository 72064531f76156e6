import Mathlib.Data.List.AList

/-!
# Tables of objects by their keys

A table indexes objects by a key that each of them has at most one of: it leads from a key to
the object that has it, and no object with a key is left out. Several tables with different
keys then speak of the same objects.
-/
namespace Index

variable {κ ι : Type} [DecidableEq κ]

/-- The table leads to an object exactly by the key that the object has. -/
def Indexes (table : AList fun _ : κ => ι) (key : ι → Option κ) : Prop :=
  ∀ k i, table.lookup k = some i ↔ key i = some k

theorem indexes_empty {key : ι → Option κ} (h : ∀ i, key i = none) : Indexes (∅ : AList fun _ : κ => ι) key := by
  intro k i
  simp [h i]

variable {table : AList fun _ : κ => ι} {key key' : ι → Option κ} {k : κ} {i j : ι}

theorem Indexes.congr (h : Indexes table key) (hkey : ∀ i, key' i = key i) : Indexes table key' := by
  intro k i
  rw [hkey]
  exact h k i

theorem Indexes.unique (h : Indexes table key) (hi : key i = some k) (hj : key j = some k) : i = j := by
  have hfound := (h k i).mpr hi
  rw [(h k j).mpr hj] at hfound
  exact (Option.some.inj hfound).symm

theorem Indexes.insert (h : Indexes table key) (hnew : ∀ j, key j ≠ some k) (hold : key i = none)
    (hi : key' i = some k) (hrest : ∀ j, j ≠ i → key' j = key j) : Indexes (table.insert k i) key' := by
  intro k' j
  by_cases hj : j = i
  · subst hj
    by_cases hk : k' = k
    · subst hk
      simp [hi]
    · rw [AList.lookup_insert_ne hk, h k' j, hold, hi]
      simp [Ne.symm hk]
  · rw [hrest j hj]
    by_cases hk : k' = k
    · subst hk
      simp [hnew j, Ne.symm hj]
    · rw [AList.lookup_insert_ne hk]
      exact h k' j

theorem Indexes.erase (h : Indexes table key) (hold : key i = some k) (hi : key' i = none)
    (hrest : ∀ j, j ≠ i → key' j = key j) : Indexes (table.erase k) key' := by
  intro k' j
  by_cases hj : j = i
  · subst hj
    rw [hi]
    by_cases hk : k' = k
    · subst hk
      simp
    · rw [AList.lookup_erase_ne hk, h k' j, hold]
      simp [Ne.symm hk]
  · rw [hrest j hj]
    by_cases hk : k' = k
    · subst hk
      have hother : key j ≠ some k' := fun hkey => hj (h.unique hkey hold)
      simp [hother]
    · rw [AList.lookup_erase_ne hk]
      exact h k' j

section Objects

variable {α : Type} [DecidableEq ι] {get : α → Option κ} {objects : ι → α} {a : α}

theorem Indexes.update (h : Indexes table fun i => get (objects i)) (ha : get a = get (objects i)) :
    Indexes table fun j => get (Function.update objects i a j) := by
  apply h.congr
  intro j
  by_cases hj : j = i
  · subst hj
    rw [Function.update_self, ha]
  · rw [Function.update_of_ne hj]

theorem Indexes.insert_update (h : Indexes table fun i => get (objects i)) (hnew : ∀ j, get (objects j) ≠ some k)
    (hold : get (objects i) = none) (ha : get a = some k) :
    Indexes (table.insert k i) fun j => get (Function.update objects i a j) := by
  apply h.insert hnew hold
  · rw [Function.update_self, ha]
  · intro j hj
    rw [Function.update_of_ne hj]

theorem Indexes.erase_update (h : Indexes table fun i => get (objects i)) (hold : get (objects i) = some k)
    (ha : get a = none) : Indexes (table.erase k) fun j => get (Function.update objects i a j) := by
  apply h.erase hold
  · rw [Function.update_self, ha]
  · intro j hj
    rw [Function.update_of_ne hj]

end Objects

section Pairs

variable {κ' : Type} [DecidableEq κ'] {left : AList fun _ : κ => ι} {right : AList fun _ : κ' => ι} {l l' : ι → κ}
  {r r' : ι → κ'}

/-- Two tables lead to the same objects, each by a key of its own. -/
structure Inverse (left : AList fun _ : κ => ι) (right : AList fun _ : κ' => ι) (l : ι → κ) (r : ι → κ') : Prop where
  ofLeft : ∀ k i, left.lookup k = some i → l i = k ∧ right.lookup (r i) = some i
  ofRight : ∀ k i, right.lookup k = some i → r i = k ∧ left.lookup (l i) = some i

theorem inverse_empty : Inverse ∅ ∅ l r where
  ofLeft k i h := by simp at h
  ofRight k i h := by simp at h

theorem Inverse.congr (h : Inverse left right l r) (hl : ∀ k i, left.lookup k = some i → l' i = l i)
    (hr : ∀ k i, right.lookup k = some i → r' i = r i) : Inverse left right l' r' where
  ofLeft k i hi := by
    obtain ⟨hkey, hother⟩ := h.ofLeft k i hi
    rw [hl k i hi, hr _ i hother]
    exact ⟨hkey, hother⟩
  ofRight k i hi := by
    obtain ⟨hkey, hother⟩ := h.ofRight k i hi
    rw [hr k i hi, hl _ i hother]
    exact ⟨hkey, hother⟩

theorem Inverse.insert (h : Inverse left right l r) (hl : left.lookup (l i) = none) (hr : right.lookup (r i) = none) :
    Inverse (left.insert (l i) i) (right.insert (r i) i) l r where
  ofLeft k j hj := by
    by_cases hk : k = l i
    · subst hk
      rw [AList.lookup_insert, Option.some.injEq] at hj
      subst hj
      exact ⟨rfl, AList.lookup_insert _⟩
    · rw [AList.lookup_insert_ne hk] at hj
      obtain ⟨hkey, hother⟩ := h.ofLeft k j hj
      refine ⟨hkey, ?_⟩
      rwa [AList.lookup_insert_ne]
      intro heq
      rw [heq, hr] at hother
      cases hother
  ofRight k j hj := by
    by_cases hk : k = r i
    · subst hk
      rw [AList.lookup_insert, Option.some.injEq] at hj
      subst hj
      exact ⟨rfl, AList.lookup_insert _⟩
    · rw [AList.lookup_insert_ne hk] at hj
      obtain ⟨hkey, hother⟩ := h.ofRight k j hj
      refine ⟨hkey, ?_⟩
      rwa [AList.lookup_insert_ne]
      intro heq
      rw [heq, hl] at hother
      cases hother

theorem Inverse.erase (h : Inverse left right l r) (hi : right.lookup (r i) = some i) :
    Inverse (left.erase (l i)) (right.erase (r i)) l r where
  ofLeft k j hj := by
    by_cases hk : k = l i
    · subst hk
      simp at hj
    · rw [AList.lookup_erase_ne hk] at hj
      obtain ⟨hkey, hother⟩ := h.ofLeft k j hj
      refine ⟨hkey, ?_⟩
      rwa [AList.lookup_erase_ne]
      intro heq
      rw [heq, hi, Option.some.injEq] at hother
      exact hk (hkey ▸ hother ▸ rfl)
  ofRight k j hj := by
    by_cases hk : k = r i
    · subst hk
      simp at hj
    · rw [AList.lookup_erase_ne hk] at hj
      obtain ⟨hkey, hother⟩ := h.ofRight k j hj
      refine ⟨hkey, ?_⟩
      rwa [AList.lookup_erase_ne]
      intro heq
      have hleft := (h.ofRight _ i hi).2
      rw [← heq, hother, Option.some.injEq] at hleft
      exact hk (hkey ▸ hleft ▸ rfl)

theorem Inverse.iff (h : Inverse left right l r) (k : κ) (k' : κ') :
    (∃ i, left.lookup k = some i ∧ r i = k') ↔ ∃ i, right.lookup k' = some i ∧ l i = k := by
  constructor
  · rintro ⟨i, hi, rfl⟩
    exact ⟨i, (h.ofLeft k i hi).2, (h.ofLeft k i hi).1⟩
  · rintro ⟨i, hi, rfl⟩
    exact ⟨i, (h.ofRight k' i hi).2, (h.ofRight k' i hi).1⟩

end Pairs

end Index
