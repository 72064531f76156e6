import OpenPeer.Maps

/-!
# Lists with a key for each entry

An entry takes the place of the one with its key or is added at the end, and entries are
dropped by key. While no key is listed twice, the list and the map of its entries go together.
-/
namespace Keyed

open Std

variable {κ α : Type} [DecidableEq κ] (key : α → κ)

def put (as : List α) (a : α) : List α :=
  if key a ∈ as.map key then as.map fun b => if key b = key a then a else b else as ++ [a]

def drop (as : List α) (k : κ) : List α := as.filter fun a => key a ≠ k

variable {key}

theorem map_key_replace (as : List α) (a : α) : (as.map fun b => if key b = key a then a else b).map key = as.map key := by
  rw [List.map_map]
  refine List.map_congr_left fun b _ => ?_
  simp only [Function.comp_apply]
  split
  case isTrue h => exact h.symm
  case isFalse => rfl

theorem map_key_put (as : List α) (a : α) :
    (put key as a).map key = if key a ∈ as.map key then as.map key else as.map key ++ [key a] := by
  unfold put
  split
  · exact map_key_replace as a
  · rw [List.map_append, List.map_singleton]

theorem prefix_put (as : List α) (a : α) : as.map key <+: (put key as a).map key := by
  rw [map_key_put]
  split
  · exact List.prefix_rfl
  · exact List.prefix_append _ _

variable {as : List α}

theorem nodup_put (h : (as.map key).Nodup) (a : α) : ((put key as a).map key).Nodup := by
  rw [map_key_put]
  split
  case isTrue => exact h
  case isFalse hnew => exact List.nodup_append.mpr ⟨h, by simp, by simpa using fun b hb heq => hnew (by simpa [heq] using ⟨b, hb, heq⟩)⟩

theorem map_key_drop (as : List α) (k : κ) : (drop key as k).map key = (as.map key).filter (· ≠ k) := by
  rw [drop, List.filter_map]
  rfl

theorem nodup_drop (h : (as.map key).Nodup) (k : κ) : ((drop key as k).map key).Nodup := by
  rw [map_key_drop]
  exact h.filter _

variable {a : α}

theorem mem_put {b : α} (h : b ∈ put key as a) : b = a ∨ b ∈ as := by
  unfold put at h
  split at h
  · obtain ⟨c, hc, rfl⟩ := List.mem_map.mp h
    split
    · exact .inl rfl
    · exact .inr hc
  · rcases List.mem_append.mp h with h | h
    · exact .inr h
    · exact .inl (List.mem_singleton.mp h)

variable {k : κ}

theorem mem_of_mem_drop (h : a ∈ drop key as k) : a ∈ as := (List.mem_filter.mp h).1

theorem filter_keys {kept : List α} (hkept : kept.Sublist as) (h : (as.map key).Nodup) :
    (as.filter fun a => key a ∈ kept.map key) = kept := by
  induction hkept with
  | slnil => rfl
  | @cons kept as a hsub ih =>
    rw [List.map_cons, List.nodup_cons] at h
    have hnot : key a ∉ kept.map key := fun hmem => h.1 ((hsub.map key).subset hmem)
    rw [List.filter_cons_of_neg (by simpa using hnot)]
    exact ih h.2
  | cons_cons a hsub ih =>
    rw [List.map_cons, List.nodup_cons] at h
    rw [List.filter_cons_of_pos (by simp)]
    congr 1
    refine (List.filter_congr fun b hb => ?_).trans (ih h.2)
    have hne : key b ≠ key a := fun heq => h.1 (heq ▸ List.mem_map_of_mem hb)
    simp [hne]

theorem split (h : k ∈ as.map key) :
    ∃ before a after, as = before ++ a :: after ∧ key a = k ∧ k ∉ before.map key := by
  induction as with
  | nil => cases h
  | cons b as ih =>
    by_cases hb : key b = k
    · exact ⟨[], b, as, rfl, hb, by simp⟩
    · have hrest : k ∈ as.map key := by
        rcases List.mem_cons.mp h with h | h
        · exact absurd h.symm hb
        · exact h
      obtain ⟨before, a, after, rfl, ha, hnot⟩ := ih hrest
      refine ⟨b :: before, a, after, rfl, ha, ?_⟩
      rw [List.map_cons, List.mem_cons]
      rintro (heq | hmem)
      · exact hb heq.symm
      · exact hnot hmem

variable {before after : List α}

theorem idxOf_split (h : key a ∉ before.map key) :
    ((before ++ a :: after).map key).idxOf (key a) = before.length := by
  rw [List.map_append, List.idxOf_append_of_notMem h, List.map_cons, List.idxOf_cons_self, List.length_map, Nat.add_zero]

theorem replace_eq_self (h : key a ∉ as.map key) : (as.map fun b => if key b = key a then a else b) = as := by
  refine (List.map_congr_left fun b hb => ?_).trans (List.map_id as)
  have hother : key b ≠ key a := fun heq => h (heq ▸ List.mem_map_of_mem hb)
  exact if_neg hother

theorem drop_eq_self (h : k ∉ as.map key) : drop key as k = as := by
  refine List.filter_eq_self.mpr fun b hb => ?_
  have hother : key b ≠ k := fun heq => h (heq ▸ List.mem_map_of_mem hb)
  exact decide_eq_true hother

theorem put_split {b : α} (h : ((before ++ b :: after).map key).Nodup) (hb : key b = key a) :
    put key (before ++ b :: after) a = before ++ a :: after := by
  rw [List.map_append, List.map_cons, hb] at h
  obtain ⟨-, hafter, hdisjoint⟩ := List.nodup_append.mp h
  have hbefore : key a ∉ before.map key := fun hmem => hdisjoint _ hmem _ List.mem_cons_self rfl
  have hmem : key a ∈ (before ++ b :: after).map key := by simp [hb]
  rw [put, if_pos hmem, List.map_append, List.map_cons, if_pos hb, replace_eq_self hbefore,
    replace_eq_self (List.nodup_cons.mp hafter).1]

theorem drop_split (h : ((before ++ a :: after).map key).Nodup) :
    drop key (before ++ a :: after) (key a) = before ++ after := by
  rw [List.map_append, List.map_cons] at h
  obtain ⟨-, hafter, hdisjoint⟩ := List.nodup_append.mp h
  have hbefore : key a ∉ before.map key := fun hmem => hdisjoint _ hmem _ List.mem_cons_self rfl
  have hdropBefore := drop_eq_self hbefore
  have hdropAfter := drop_eq_self (List.nodup_cons.mp hafter).1
  unfold drop at hdropBefore hdropAfter ⊢
  rw [List.filter_append, List.filter_cons_of_neg (by simp), hdropBefore, hdropAfter]

/-- The place of a key that no dropped key stands before. -/
theorem idxOf_drop {ks : List κ} {dropped : List κ} (h : ∀ k' ∈ dropped, k' ∉ ks.take (ks.idxOf k + 1))
    (hk : k ∈ ks) : (ks.filter fun k' => k' ∉ dropped).idxOf k = ks.idxOf k := by
  induction ks with
  | nil => cases hk
  | cons b ks ih =>
    by_cases hb : b = k
    · subst hb
      have hkept : b ∉ dropped := fun hmem => h b hmem (by simp)
      rw [List.filter_cons_of_pos (by simpa using hkept), List.idxOf_cons_self, List.idxOf_cons_self]
    · have hidx : (b :: ks).idxOf k = ks.idxOf k + 1 := List.idxOf_cons_ne ks hb
      rw [hidx, List.take_succ_cons] at h
      have hkept : b ∉ dropped := fun hmem => h b hmem List.mem_cons_self
      have hmem : k ∈ ks := (List.mem_cons.mp hk).resolve_left fun heq => hb heq.symm
      have hrest := ih (fun k' hk' hin => h k' hk' (List.mem_cons_of_mem _ hin)) hmem
      rw [List.filter_cons_of_pos (by simpa using hkept), List.idxOf_cons_ne _ hb, hrest, hidx]

section Map

variable {cmp : κ → κ → Ordering} [TransCmp cmp] [LawfulEqCmp cmp]

/-- The map of the entries. -/
def toMap (key : α → κ) (cmp : κ → κ → Ordering) (as : List α) : ExtTreeMap κ α cmp :=
  ExtTreeMap.ofList (as.map fun a => (key a, a)) cmp

omit [DecidableEq κ] in
theorem distinct_entries {as : List α} (h : (as.map key).Nodup) : Maps.Distinct (as.map fun a => (key a, a)) := by
  rw [Maps.Distinct, List.map_map]
  exact h

omit [DecidableEq κ] in
theorem getElem?_toMap {as : List α} (h : (as.map key).Nodup) {a : α} (ha : a ∈ as) :
    (toMap key cmp as)[key a]? = some a := by
  rw [toMap, ExtTreeMap.ofList_eq_insertMany_empty]
  exact Maps.getElem?_insertMany (distinct_entries h) (List.mem_map.mpr ⟨a, ha, rfl⟩)

omit [DecidableEq κ] in
theorem getElem?_toMap_of_notMem {as : List α} {k : κ} (h : k ∉ as.map key) : (toMap key cmp as)[k]? = none := by
  rw [toMap, ExtTreeMap.ofList_eq_insertMany_empty, Maps.getElem?_insertMany_of_notMem, ExtTreeMap.getElem?_empty]
  rw [List.map_map]
  exact h

omit [DecidableEq κ] [LawfulEqCmp cmp] in
theorem toMap_append (as bs : List α) :
    toMap key cmp (as ++ bs) = (toMap key cmp as).insertMany (bs.map fun b => (key b, b)) := by
  rw [toMap, toMap, List.map_append, ExtTreeMap.ofList_eq_insertMany_empty, ExtTreeMap.ofList_eq_insertMany_empty,
    ExtTreeMap.insertMany_append]

variable {as : List α}

theorem toMap_put (h : (as.map key).Nodup) (a : α) :
    toMap key cmp (put key as a) = (toMap key cmp as).insert (key a) a := by
  have hput := nodup_put h a
  refine ExtTreeMap.ext_getElem? fun k => ?_
  rw [ExtTreeMap.getElem?_insert]
  by_cases hk : key a = k
  · subst hk
    have hmem : a ∈ put key as a := by
      unfold put
      split
      case isTrue hold =>
        obtain ⟨b, hb, heq⟩ := List.mem_map.mp hold
        exact List.mem_map.mpr ⟨b, hb, if_pos heq⟩
      case isFalse => simp
    simp [getElem?_toMap hput hmem]
  · have hcmp : cmp (key a) k ≠ .eq := fun heq => hk (LawfulEqCmp.eq_of_compare heq)
    rw [if_neg hcmp]
    by_cases hold : k ∈ as.map key
    · obtain ⟨b, hb, rfl⟩ := List.mem_map.mp hold
      have hmem : b ∈ put key as a := by
        unfold put
        split
        · exact List.mem_map.mpr ⟨b, hb, if_neg (Ne.symm hk)⟩
        · exact List.mem_append_left _ hb
      rw [getElem?_toMap hput hmem, getElem?_toMap h hb]
    · have hnew : k ∉ (put key as a).map key := by
        rw [map_key_put]
        split
        · exact hold
        · simpa [Ne.symm hk] using hold
      rw [getElem?_toMap_of_notMem hnew, getElem?_toMap_of_notMem hold]

theorem toMap_drop (h : (as.map key).Nodup) (k : κ) :
    toMap key cmp (drop key as k) = (toMap key cmp as).erase k := by
  have hdrop := nodup_drop h k
  refine ExtTreeMap.ext_getElem? fun j => ?_
  rw [ExtTreeMap.getElem?_erase]
  by_cases hj : k = j
  · subst hj
    have hgone : k ∉ (drop key as k).map key := by simp [map_key_drop]
    simp [getElem?_toMap_of_notMem hgone]
  · have hcmp : cmp k j ≠ .eq := fun heq => hj (LawfulEqCmp.eq_of_compare heq)
    rw [if_neg hcmp]
    by_cases hold : j ∈ as.map key
    · obtain ⟨b, hb, rfl⟩ := List.mem_map.mp hold
      have hmem : b ∈ drop key as k := List.mem_filter.mpr ⟨hb, by simpa using Ne.symm hj⟩
      rw [getElem?_toMap hdrop hmem, getElem?_toMap h hb]
    · have hnew : j ∉ (drop key as k).map key := by
        rw [map_key_drop]
        exact fun hmem => hold (List.mem_filter.mp hmem).1
      rw [getElem?_toMap_of_notMem hnew, getElem?_toMap_of_notMem hold]

theorem toMap_foldl_put (h : (as.map key).Nodup) (bs : List α) :
    toMap key cmp (bs.foldl (put key) as) = (toMap key cmp as).insertMany (bs.map fun b => (key b, b)) := by
  induction bs generalizing as with
  | nil => simp
  | cons b bs ih => rw [List.foldl_cons, ih (nodup_put h b), toMap_put h, List.map_cons, ExtTreeMap.insertMany_cons]

theorem nodup_foldl_put (h : (as.map key).Nodup) (bs : List α) : ((bs.foldl (put key) as).map key).Nodup := by
  induction bs generalizing as with
  | nil => exact h
  | cons b bs ih => exact ih (nodup_put h b)

theorem toMap_foldl_drop (h : (as.map key).Nodup) (ks : List κ) :
    toMap key cmp (ks.foldl (drop key) as) = Maps.eraseAll (toMap key cmp as) ks := by
  induction ks generalizing as with
  | nil => rfl
  | cons k ks ih =>
    rw [List.foldl_cons, ih (nodup_drop h k), toMap_drop h]
    rfl

theorem map_key_foldl_drop (as : List α) (ks : List κ) :
    (ks.foldl (drop key) as).map key = (as.map key).filter fun k => k ∉ ks := by
  induction ks generalizing as with
  | nil => simp
  | cons k ks ih =>
    rw [List.foldl_cons, ih, map_key_drop, List.filter_filter]
    refine List.filter_congr fun j _ => ?_
    simp [Bool.and_comm]

theorem mem_foldl_put {bs : List α} {a : α} (h : a ∈ bs.foldl (put key) as) : a ∈ bs ∨ a ∈ as := by
  induction bs generalizing as with
  | nil => exact .inr h
  | cons b bs ih =>
    rcases ih h with h | h
    · exact .inl (List.mem_cons_of_mem _ h)
    · rcases mem_put h with rfl | h
      · exact .inl List.mem_cons_self
      · exact .inr h

theorem mem_of_mem_foldl_drop {ks : List κ} {a : α} (h : a ∈ ks.foldl (drop key) as) : a ∈ as := by
  induction ks generalizing as with
  | nil => exact h
  | cons k ks ih => exact mem_of_mem_drop (ih h)

end Map

theorem find?_replace_self (h : key a ∈ as.map key) :
    (as.map fun b => if key b = key a then a else b).find? (fun b => key b = key a) = some a := by
  induction as with
  | nil => cases h
  | cons b as ih =>
    by_cases hb : key b = key a
    · simp [hb]
    · have hrest : key a ∈ as.map key := by
        rcases List.mem_cons.mp h with heq | hmem
        · exact absurd heq.symm hb
        · exact hmem
      rw [List.map_cons, if_neg hb, List.find?_cons_of_neg (by simpa using hb), ih hrest]

theorem find?_replace_of_ne (as : List α) (h : key a ≠ k) :
    (as.map fun b => if key b = key a then a else b).find? (fun b => key b = k) = as.find? fun b => key b = k := by
  induction as with
  | nil => rfl
  | cons b as ih =>
    by_cases hb : key b = key a
    · have hk : key b ≠ k := fun heq => h (hb.symm.trans heq)
      rw [List.map_cons, if_pos hb, List.find?_cons_of_neg (by simpa using h),
        List.find?_cons_of_neg (by simpa using hk), ih]
    · rw [List.map_cons, if_neg hb, List.find?_cons, List.find?_cons, ih]

theorem find?_put (as : List α) (a : α) (k : κ) :
    (put key as a).find? (fun b => key b = k) = if key a = k then some a else as.find? fun b => key b = k := by
  unfold put
  by_cases hk : key a = k
  · subst hk
    rw [if_pos rfl]
    split
    case isTrue hmem => exact find?_replace_self hmem
    case isFalse hnew =>
      have hnone : as.find? (fun b => key b = key a) = none := by
        refine List.find?_eq_none.mpr fun b hb => ?_
        have hother : key b ≠ key a := fun heq => hnew (List.mem_map.mpr ⟨b, hb, heq⟩)
        simpa using hother
      simp [List.find?_append, hnone]
  · rw [if_neg hk]
    split
    case isTrue => exact find?_replace_of_ne as hk
    case isFalse => simp [List.find?_append, hk]

end Keyed
