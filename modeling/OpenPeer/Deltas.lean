import Mathlib.Data.List.Nodup
import OpenPeer.Maps

/-!
# Differences of maps and lists

A difference names what is new and what is no longer there. It is exact when nothing else is
named. What a value must do to count as new where there was one is a parameter.
-/
namespace Deltas

open Std

section Maps

variable {κ α : Type} {cmp : κ → κ → Ordering} [TransCmp cmp]
variable {rises : α → α → Prop} {old new changed : ExtTreeMap κ α cmp} {removed : List κ}

/-- What is new is what was not there, or rises above what was. -/
def Changes (rises : α → α → Prop) (old new changed : ExtTreeMap κ α cmp) : Prop :=
  ∀ (k : κ) (v : α), changed[k]? = some v ↔ new[k]? = some v ∧ ∀ w, old[k]? = some w → rises w v

/-- What is removed is what is no longer there, named once. -/
structure Removes (old new : ExtTreeMap κ α cmp) (removed : List κ) : Prop where
  mem_iff : ∀ k, k ∈ removed ↔ k ∈ old ∧ k ∉ new
  nodup : removed.Nodup

theorem changes_self (hrises : ∀ v, ¬rises v v) (old : ExtTreeMap κ α cmp) : Changes rises old old ∅ := by
  intro k v
  simp only [ExtTreeMap.getElem?_empty, reduceCtorEq, false_iff, not_and]
  intro hv hall
  exact hrises v (hall v hv)

theorem removes_self (old : ExtTreeMap κ α cmp) : Removes old old [] where
  mem_iff k := by simp
  nodup := .nil

theorem Changes.mem_iff (h : Changes (fun _ _ => False) old new changed) (k : κ) : k ∈ changed ↔ k ∈ new ∧ k ∉ old := by
  have hk := h k
  simp only [ExtTreeMap.mem_iff_isSome_getElem?]
  cases hold : old[k]? with
  | none =>
    simp only [hold, reduceCtorEq, false_implies, implies_true, and_true] at hk
    have heq : changed[k]? = new[k]? := Option.ext hk
    simp [heq]
  | some w =>
    simp only [hold, Option.some.injEq, forall_eq', and_false, iff_false] at hk
    have hnone : changed[k]? = none := Option.eq_none_iff_forall_ne_some.mpr hk
    simp [hnone]

variable [LawfulEqCmp cmp]

theorem changes_filter {p : κ → α → Bool} (hp : ∀ k v, p k v = true ↔ ∀ w, old[k]? = some w → rises w v) :
    Changes rises old new (new.filter p) := by
  intro k v
  simp only [ExtTreeMap.getElem?_filter', Option.filter_eq_some_iff, hp]

theorem removes_filter (old new : ExtTreeMap κ α cmp) : Removes old new (old.keys.filter fun k => !new.contains k) where
  mem_iff k := by simp only [List.mem_filter, ExtTreeMap.mem_keys, Maps.not_contains_iff]
  nodup := List.Nodup.filter _ ExtTreeMap.nodup_keys

end Maps

section Lists

variable {κ : Type}

/-- What was added to a list and what was dropped from it, each named once. -/
structure OfList (old new added removed : List κ) : Prop where
  added_iff : ∀ k, k ∈ added ↔ k ∈ new ∧ k ∉ old
  added_nodup : added.Nodup
  removed_iff : ∀ k, k ∈ removed ↔ k ∈ old ∧ k ∉ new
  removed_nodup : removed.Nodup

theorem ofList_self (old : List κ) : OfList old old [] [] where
  added_iff k := by simp
  added_nodup := .nil
  removed_iff k := by simp
  removed_nodup := .nil

end Lists

section Last

variable {α : Type}

theorem getLast?_filter_iff (p : α → Bool) (l : List α) :
    (∀ v, (l.filter p).getLast? = some v ↔ l.getLast? = some v ∧ p v = true) ↔
      (true ∈ l.map p → (l.map p).getLast? = some true) := by
  obtain rfl | ⟨l, v, rfl⟩ := List.eq_nil_or_concat' l
  · simp
  · by_cases hv : p v = true
    · simp [hv]
    · have hlast : (∀ w, l.reverse.find? p = some w ↔ v = w ∧ p w = true) ↔ ∀ x ∈ l, p x = false := by
        constructor
        · intro hiff x hx
          by_contra hpx
          obtain ⟨w, hw⟩ := Option.isSome_iff_exists.mp
            (List.find?_isSome.mpr ⟨x, List.mem_reverse.mpr hx, by simpa using hpx⟩)
          obtain ⟨rfl, hpv⟩ := (hiff w).mp hw
          exact hv hpv
        · intro hnone w
          have hfind : l.reverse.find? p = none := by simpa using hnone
          simp only [hfind, reduceCtorEq, false_iff]
          rintro ⟨rfl, hpv⟩
          exact hv hpv
      simpa [hv] using hlast

end Last

end Deltas
