import Mathlib.Data.List.Basic
import Mathlib.Order.Defs.Unbundled

/-!
# Maps kept in order

A map is the list of its entries in the order of their keys. A key is compared by what can be
read off it, which may change while the key is in the map.
-/
namespace OrderedMap

open Std

variable {κ ρ α : Type} (rank : κ → ρ) (cmp : ρ → ρ → Ordering)

/-- No two keys compare as equal, and the entries are in their order. -/
def Sorted (l : List (κ × α)) : Prop := l.Pairwise fun a b => cmp (rank a.1) (rank b.1) = .lt

def find : List (κ × α) → ρ → Option (κ × α)
  | [], _ => none
  | e :: l, r =>
    if cmp (rank e.1) r = .lt then find l r else if cmp r (rank e.1) = .lt then none else some e

/-- A value takes the place of the one whose key compares as equal, which stays, or it comes where its key belongs. -/
def insert : List (κ × α) → κ → α → List (κ × α)
  | [], k, v => [(k, v)]
  | e :: l, k, v =>
    if cmp (rank e.1) (rank k) = .lt then e :: insert l k v
    else if cmp (rank k) (rank e.1) = .lt then (k, v) :: e :: l
    else (e.1, v) :: l

def erase : List (κ × α) → ρ → List (κ × α)
  | [], _ => []
  | e :: l, r =>
    if cmp (rank e.1) r = .lt then e :: erase l r else if cmp r (rank e.1) = .lt then e :: l else l

variable {rank cmp} {l : List (κ × α)} {r : ρ} {k : κ} {v : α} {e : κ × α}

theorem erase_sublist (l : List (κ × α)) (r : ρ) : (erase rank cmp l r).Sublist l := by
  induction l with
  | nil => exact .slnil
  | cons e l ih =>
    simp only [erase]
    split
    · exact ih.cons_cons e
    · split
      · exact .refl _
      · exact List.sublist_cons_self e l

section Oriented

variable [OrientedCmp cmp]

theorem eq_of_not_lt {a b : ρ} (hab : cmp a b ≠ .lt) (hba : cmp b a ≠ .lt) : cmp a b = .eq := by
  cases h : cmp a b with
  | lt => exact absurd h hab
  | eq => rfl
  | gt => exact absurd (OrientedCmp.gt_iff_lt.mp h) hba

theorem not_lt_iff {a b : ρ} : ¬cmp a b = .lt ∧ ¬cmp b a = .lt ↔ cmp a b = .eq := by
  constructor
  · rintro ⟨hab, hba⟩
    exact eq_of_not_lt hab hba
  · intro heq
    have hswap : cmp b a = .eq := OrientedCmp.eq_symm heq
    simp [heq, hswap]

theorem of_find (h : find rank cmp l r = some e) : e ∈ l ∧ cmp (rank e.1) r = .eq := by
  induction l with
  | nil => cases h
  | cons a l ih =>
    simp only [find] at h
    split at h
    case isTrue => exact (ih h).imp (List.mem_cons_of_mem a) id
    case isFalse hlt =>
    split at h
    case isTrue => cases h
    case isFalse hgt =>
      obtain rfl := Option.some.inj h
      exact ⟨List.mem_cons_self, eq_of_not_lt hlt hgt⟩

theorem of_mem_insert (h : e ∈ insert rank cmp l k v) :
    e ∈ l ∨ e.2 = v ∧ (e.1 = k ∨ ∃ a ∈ l, e.1 = a.1) ∧ cmp (rank e.1) (rank k) = .eq := by
  induction l with
  | nil =>
    obtain rfl := List.mem_singleton.mp h
    exact .inr ⟨rfl, .inl rfl, ReflCmp.compare_self⟩
  | cons a l ih =>
    simp only [insert] at h
    split at h
    case isTrue =>
      rcases List.mem_cons.mp h with rfl | h
      · exact .inl List.mem_cons_self
      · rcases ih h with hold | ⟨hv, hk, heq⟩
        · exact .inl (List.mem_cons_of_mem a hold)
        · exact .inr ⟨hv, hk.imp id fun ⟨b, hb, h⟩ => ⟨b, List.mem_cons_of_mem a hb, h⟩, heq⟩
    case isFalse hlt =>
    split at h
    case isTrue =>
      rcases List.mem_cons.mp h with rfl | h
      · exact .inr ⟨rfl, .inl rfl, ReflCmp.compare_self⟩
      · exact .inl h
    case isFalse hgt =>
      rcases List.mem_cons.mp h with rfl | h
      · exact .inr ⟨rfl, .inr ⟨a, List.mem_cons_self, rfl⟩, eq_of_not_lt hlt hgt⟩
      · exact .inl (List.mem_cons_of_mem a h)

end Oriented

section Transitive

variable [TransCmp cmp]

variable (cmp) in
theorem isStrictWeakOrder : IsStrictWeakOrder ρ fun a b => cmp a b = .lt where
  irrefl a := by simp [ReflCmp.compare_self]
  trans a b c := TransCmp.lt_trans
  incomp_trans a b c := by
    simp only [not_lt_iff]
    exact TransCmp.eq_trans

theorem find_congr {r' : ρ} (l : List (κ × α)) (h : cmp r r' = .eq) :
    OrderedMap.find rank cmp l r = OrderedMap.find rank cmp l r' := by
  induction l with
  | nil => rfl
  | cons e l ih => simp only [OrderedMap.find, ih, TransCmp.congr_right h, TransCmp.congr_left h]

theorem Sorted.congr {rank' : κ → ρ} (h : Sorted rank cmp l)
    (heq : ∀ a ∈ l, cmp (rank' a.1) (rank a.1) = .eq) : Sorted rank' cmp l := by
  induction l with
  | nil => exact .nil
  | cons a l ih =>
    obtain ⟨ha, hl⟩ := List.pairwise_cons.mp h
    constructor
    · intro b hb
      have hlt : cmp (rank' a.1) (rank b.1) = .lt :=
        TransCmp.lt_of_eq_of_lt (heq a List.mem_cons_self) (ha b hb)
      exact TransCmp.lt_of_lt_of_eq hlt (OrientedCmp.eq_symm (heq b (List.mem_cons_of_mem a hb)))
    · exact ih hl fun b hb => heq b (List.mem_cons_of_mem a hb)

theorem Sorted.find (h : Sorted rank cmp l) (hmem : e ∈ l) (heq : cmp (rank e.1) r = .eq) :
    find rank cmp l r = some e := by
  induction l with
  | nil => cases hmem
  | cons a l ih =>
    obtain ⟨ha, hl⟩ := List.pairwise_cons.mp h
    rcases List.mem_cons.mp hmem with rfl | hmem
    · have heq' : cmp r (rank e.1) = .eq := OrientedCmp.eq_symm heq
      simp [OrderedMap.find, heq, heq']
    · have hlt : cmp (rank a.1) r = .lt := TransCmp.lt_of_lt_of_eq (ha e hmem) heq
      rw [OrderedMap.find, if_pos hlt]
      exact ih hl hmem

theorem Sorted.insert (h : Sorted rank cmp l) (k : κ) (v : α) : Sorted rank cmp (insert rank cmp l k v) := by
  induction l with
  | nil => exact List.pairwise_singleton _ _
  | cons a l ih =>
    obtain ⟨ha, hl⟩ := List.pairwise_cons.mp h
    simp only [OrderedMap.insert]
    split
    case isTrue hlt =>
      constructor
      · intro b hb
        rcases of_mem_insert hb with hold | ⟨-, -, hnew⟩
        · exact ha b hold
        · exact TransCmp.lt_of_lt_of_eq hlt (OrientedCmp.eq_symm hnew)
      · exact ih hl
    case isFalse hlt =>
    split
    case isTrue hgt =>
      refine List.pairwise_cons.mpr ⟨fun b hb => ?_, h⟩
      rcases List.mem_cons.mp hb with rfl | hb
      · exact hgt
      · exact TransCmp.lt_trans hgt (ha b hb)
    case isFalse => exact List.pairwise_cons.mpr ⟨ha, hl⟩

theorem Sorted.eq_of_eq (h : Sorted rank cmp l) {a b : κ × α} (ha : a ∈ l) (hb : b ∈ l)
    (heq : cmp (rank a.1) (rank b.1) = .eq) : a = b := by
  have hfound := h.find hb ReflCmp.compare_self
  rw [h.find ha heq] at hfound
  exact Option.some.inj hfound

end Transitive

end OrderedMap
