import Std.Data.ExtTreeMap
import Mathlib.Data.List.Basic

/-!
# Maps entry by entry

An ordered map is given by its entries: it is built from them again, and lists with
distinct keys build a map of just those entries.
-/
namespace Maps

open Std

variable {κ α : Type} {cmp : κ → κ → Ordering} [TransCmp cmp] [LawfulEqCmp cmp]

/-- No key is listed twice. -/
def Distinct (l : List (κ × α)) : Prop := (l.map Prod.fst).Nodup

omit [TransCmp cmp] in
theorem pairwise_of_distinct {l : List (κ × α)} (h : Distinct l) :
    l.Pairwise fun a b => ¬cmp a.1 b.1 = .eq :=
  (List.pairwise_map.mp h).imp fun hne heq => hne (LawfulEqCmp.eq_of_compare heq)

omit [LawfulEqCmp cmp] in
theorem distinct_toList (m : ExtTreeMap κ α cmp) : Distinct m.toList := by
  rw [Distinct, ExtTreeMap.map_fst_toList_eq_keys]
  exact ExtTreeMap.nodup_keys

theorem getElem?_insertMany {m : ExtTreeMap κ α cmp} {l : List (κ × α)} (h : Distinct l) {k : κ} {v : α} (hmem : (k, v) ∈ l) :
    (m.insertMany l)[k]? = some v := by
  classical
  exact ExtTreeMap.getElem?_insertMany_list_of_mem ReflCmp.compare_self (pairwise_of_distinct h) hmem

theorem getElem?_insertMany_of_notMem {m : ExtTreeMap κ α cmp} {l : List (κ × α)} {k : κ} (h : k ∉ l.map Prod.fst) :
    (m.insertMany l)[k]? = m[k]? := by
  classical
  exact ExtTreeMap.getElem?_insertMany_list_of_contains_eq_false (by simpa using h)

theorem insertMany_toList (m : ExtTreeMap κ α cmp) : (∅ : ExtTreeMap κ α cmp).insertMany m.toList = m := by
  refine ExtTreeMap.ext_getElem? fun k => ?_
  cases h : m[k]? with
  | some v => exact getElem?_insertMany (distinct_toList m) (ExtTreeMap.mem_toList_iff_getElem?_eq_some.mpr h)
  | none =>
    rw [getElem?_insertMany_of_notMem, ExtTreeMap.getElem?_empty]
    rw [ExtTreeMap.map_fst_toList_eq_keys, ExtTreeMap.mem_keys]
    exact fun hk => absurd (ExtTreeMap.mem_iff_isSome_getElem?.mp hk) (by rw [h]; simp)

theorem ofList_toList (m : ExtTreeMap κ α cmp) : ExtTreeMap.ofList m.toList cmp = m := by
  rw [ExtTreeMap.ofList_eq_insertMany_empty, insertMany_toList]

omit [LawfulEqCmp cmp] in
theorem not_contains_iff {m : ExtTreeMap κ α cmp} {k : κ} : (!m.contains k) = true ↔ k ∉ m := by
  rw [Bool.not_eq_true', ← Bool.not_eq_true]
  exact not_congr ExtTreeMap.mem_iff_contains.symm

theorem mem_of_mem_insert {m : ExtTreeMap κ α cmp} {k : κ} {v : α} {e : κ × α} (h : e ∈ (m.insert k v).toList) :
    e = (k, v) ∨ e ∈ m.toList := by
  rw [ExtTreeMap.mem_toList_iff_getElem?_eq_some, ExtTreeMap.getElem?_insert] at h
  split at h
  case isTrue hk => exact .inl (Prod.ext (LawfulEqCmp.eq_of_compare hk).symm (Option.some.inj h).symm)
  case isFalse => exact .inr (ExtTreeMap.mem_toList_iff_getElem?_eq_some.mpr h)

theorem mem_of_mem_insertMany {m : ExtTreeMap κ α cmp} {l : List (κ × α)} {e : κ × α} (h : e ∈ (m.insertMany l).toList) :
    e ∈ l ∨ e ∈ m.toList := by
  induction l generalizing m with
  | nil => exact .inr (by simpa using h)
  | cons a l ih =>
    rw [ExtTreeMap.insertMany_cons] at h
    rcases ih h with h | h
    · exact .inl (List.mem_cons_of_mem _ h)
    · rcases mem_of_mem_insert h with rfl | h
      · exact .inl List.mem_cons_self
      · exact .inr h

theorem getElem?_insertMany_toList (m m' : ExtTreeMap κ α cmp) (k : κ) :
    (m.insertMany m'.toList)[k]? = (m'[k]?).or m[k]? := by
  cases h : m'[k]? with
  | some v => exact getElem?_insertMany (distinct_toList m') (ExtTreeMap.mem_toList_iff_getElem?_eq_some.mpr h)
  | none =>
    rw [getElem?_insertMany_of_notMem, Option.none_or]
    rw [ExtTreeMap.map_fst_toList_eq_keys, ExtTreeMap.mem_keys, ExtTreeMap.mem_iff_isSome_getElem?, h]
    simp

section Keys

/-- The values in the order of their keys. -/
def values (m : ExtTreeMap κ α cmp) : List α := m.toList.map Prod.snd

/-- The map without the entries under some keys. -/
def eraseAll (m : ExtTreeMap κ α cmp) (ks : List κ) : ExtTreeMap κ α cmp := ks.foldl ExtTreeMap.erase m

/-- A set of keys. -/
def keySet (ks : List κ) : ExtTreeMap κ Unit cmp := ExtTreeMap.ofList (ks.map fun k => (k, ())) cmp

variable [DecidableEq κ]

theorem getElem?_eraseAll (m : ExtTreeMap κ α cmp) (ks : List κ) (k : κ) :
    (eraseAll m ks)[k]? = if k ∈ ks then none else m[k]? := by
  induction ks generalizing m with
  | nil => simp [eraseAll]
  | cons k' ks ih =>
    have hcons : eraseAll m (k' :: ks) = eraseAll (m.erase k') ks := rfl
    rw [hcons, ih, ExtTreeMap.getElem?_erase]
    by_cases hk : k' = k
    · simp [hk]
    · have hcmp : cmp k' k ≠ .eq := fun h => hk (LawfulEqCmp.eq_of_compare h)
      simp [hcmp, Ne.symm hk]

theorem toList_erase (m : ExtTreeMap κ α cmp) (k : κ) :
    (m.erase k).toList = m.toList.filter fun entry => decide (entry.1 ≠ k) := by
  have hperm : (m.erase k).toList.Perm (m.toList.filter fun entry => decide (entry.1 ≠ k)) := by
    have hnodup : ∀ m : ExtTreeMap κ α cmp, m.toList.Nodup := by
      intro m
      apply (List.pairwise_map.mp (distinct_toList m)).imp
      rintro a _ hne rfl
      exact hne rfl
    apply (List.perm_ext_iff_of_nodup (hnodup _) ((hnodup m).filter _)).mpr
    rintro ⟨k', v⟩
    rw [ExtTreeMap.mem_toList_iff_getElem?_eq_some, ExtTreeMap.getElem?_erase, List.mem_filter,
      ExtTreeMap.mem_toList_iff_getElem?_eq_some]
    by_cases hk : k = k'
    · simp [hk]
    · have hcmp : cmp k k' ≠ .eq := fun h => hk (LawfulEqCmp.eq_of_compare h)
      simp [hcmp, Ne.symm hk]
  apply hperm.eq_of_pairwise _ ExtTreeMap.ordered_keys_toList (ExtTreeMap.ordered_keys_toList.filter _)
  intro a b _ _ hlt hgt
  have hswap : cmp a.1 b.1 = (cmp b.1 a.1).swap := OrientedCmp.eq_swap
  rw [hlt, hgt] at hswap
  cases hswap

theorem mem_keySet {ks : List κ} {k : κ} : k ∈ (keySet ks : ExtTreeMap κ Unit cmp) ↔ k ∈ ks := by
  rw [keySet, ExtTreeMap.mem_ofList]
  simp [Function.comp_def]

end Keys

section Listed

variable [DecidableEq κ]

/-- What a list has for a key, in order. -/
def valuesAt (l : List (κ × α)) (k : κ) : List α := l.filterMap fun e => if e.1 = k then some e.2 else none

theorem valuesAt_cons (k k' : κ) (v : α) (l : List (κ × α)) :
    valuesAt ((k, v) :: l) k' = if k = k' then v :: valuesAt l k' else valuesAt l k' := by
  by_cases hk : k = k' <;> simp [valuesAt, hk]

theorem getElem?_ofList (l : List (κ × α)) (k : κ) : (ExtTreeMap.ofList l cmp)[k]? = (valuesAt l k).getLast? := by
  classical
  rw [ExtTreeMap.ofList_eq_insertMany_empty, ExtTreeMap.getElem?_insertMany_list]
  simp [valuesAt]

end Listed

section Values

variable [DecidableEq α]

/-- The map without the first entry that has a value. -/
def eraseValue (m : ExtTreeMap κ α cmp) (v : α) : ExtTreeMap κ α cmp :=
  match m.toList.find? fun entry => entry.2 = v with
  | none => m
  | some entry => m.erase entry.1

omit [LawfulEqCmp cmp] in
theorem getElem?_of_eraseValue {m : ExtTreeMap κ α cmp} {v w : α} {k : κ} (h : (eraseValue m v)[k]? = some w) :
    m[k]? = some w := by
  unfold eraseValue at h
  split at h
  · exact h
  · rw [ExtTreeMap.getElem?_erase] at h
    split at h
    · cases h
    · exact h

/-- The value is gone when it had one key only. -/
theorem ne_of_eraseValue {m : ExtTreeMap κ α cmp} {v w : α} {k : κ}
    (hone : ∀ k k' : κ, m[k]? = some v → m[k']? = some v → k = k') (h : (eraseValue m v)[k]? = some w) : w ≠ v := by
  rintro rfl
  have hk := getElem?_of_eraseValue h
  unfold eraseValue at h
  split at h
  case h_1 hnone =>
    have hmem := ExtTreeMap.mem_toList_iff_getElem?_eq_some.mpr hk
    simpa using List.find?_eq_none.mp hnone _ hmem
  case h_2 entry hfound =>
    have hvalue : entry.2 = w := by simpa using List.find?_some hfound
    have hentry := ExtTreeMap.mem_toList_iff_getElem?_eq_some.mp (List.mem_of_find?_eq_some hfound)
    rw [hvalue] at hentry
    rw [hone k entry.1 hk hentry, ExtTreeMap.getElem?_erase_self] at h
    cases h

theorem getElem?_eraseValue_of_ne {m : ExtTreeMap κ α cmp} {v w : α} {k : κ} (h : m[k]? = some w) (hne : w ≠ v) :
    (eraseValue m v)[k]? = some w := by
  unfold eraseValue
  split
  · exact h
  case h_2 entry hfound =>
    have hvalue : entry.2 = v := by simpa using List.find?_some hfound
    have hentry := ExtTreeMap.mem_toList_iff_getElem?_eq_some.mp (List.mem_of_find?_eq_some hfound)
    rw [ExtTreeMap.getElem?_erase]
    split
    case isTrue hcmp =>
      rw [LawfulEqCmp.eq_of_compare hcmp, h] at hentry
      exact absurd ((Option.some.inj hentry).trans hvalue) hne
    case isFalse => exact h

end Values

end Maps
