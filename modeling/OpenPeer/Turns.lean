import Mathlib.Data.List.Basic
import Mathlib.Data.List.Find
import Mathlib.Data.List.Nodup

/-!
# Taking turns

A queue whose members fall into classes, of each of which only the first has its turn. A member
that leaves the queue hands its turn to the next of its class.
-/
namespace Turns

variable {ι : Type}

/-- Members of one class have the same class. -/
structure Classes (same : ι → ι → Bool) : Prop where
  refl : ∀ i, same i i = true
  eq_of_same : ∀ {i j}, same i j = true → same i = same j

variable {same : ι → ι → Bool} {queue : List ι} {i j : ι}

theorem Classes.symm (h : Classes same) (hij : same i j = true) : same j i = true := by
  rw [← h.eq_of_same hij]
  exact h.refl i

variable (same) in
/-- Exactly the first of each class has its turn. -/
def Fair (active : ι → Prop) (queue : List ι) : Prop := ∀ i ∈ queue, active i ↔ queue.find? (same i) = some i

variable (same) in
/-- Nobody of the class of `m` has its turn, and the first of each other one has. -/
def FairBut (active : ι → Prop) (queue : List ι) (m : ι) : Prop :=
  ∀ i ∈ queue, if same m i then ¬active i else (active i ↔ queue.find? (same i) = some i)

theorem find?_append_singleton (p : ι → Bool) (queue : List ι) (i : ι) :
    (queue ++ [i]).find? p = (queue.find? p).or (if p i then some i else none) := by
  rw [List.find?_append, List.find?_singleton]

variable {active : ι → Prop}

theorem Fair.congr {active' : ι → Prop} (h : Fair same active queue) (hiff : ∀ i ∈ queue, active' i ↔ active i) :
    Fair same active' queue := fun i hi => (hiff i hi).trans (h i hi)

theorem Fair.congr_same {same' : ι → ι → Bool} (h : Fair same active queue)
    (heq : ∀ i ∈ queue, ∀ j ∈ queue, same' i j = same i j) : Fair same' active queue := by
  intro i hi
  rw [List.find?_congr (heq i hi)]
  exact h i hi

theorem FairBut.congr {active' : ι → Prop} {m : ι} (h : FairBut same active queue m)
    (hiff : ∀ i ∈ queue, active' i ↔ active i) : FairBut same active' queue m := by
  intro i hi
  simpa only [hiff i hi] using h i hi

theorem Fair.unique (hsame : Classes same) (h : Fair same active queue) (hi : i ∈ queue) (hj : j ∈ queue)
    (hactive : active i) (hactive' : active j) (hij : same i j = true) : i = j := by
  have hfirst := (h i hi).mp hactive
  rw [hsame.eq_of_same hij, (h j hj).mp hactive'] at hfirst
  exact (Option.some.inj hfirst).symm

theorem Fair.active_of_find (hsame : Classes same) (h : Fair same active queue) {m : ι}
    (hfind : queue.find? (same m) = some i) : active i := by
  have hmi : same m i = true := List.find?_some hfind
  rw [hsame.eq_of_same hmi] at hfind
  exact (h i (List.mem_of_find?_eq_some hfind)).mpr hfind

theorem Fair.exists_active (hsame : Classes same) (h : Fair same active queue) (hi : i ∈ queue) :
    ∃ j ∈ queue, same i j = true ∧ active j := by
  cases hfind : queue.find? (same i) with
  | none => exact absurd (hsame.refl i) (List.find?_eq_none.mp hfind i hi)
  | some j => exact ⟨j, List.mem_of_find?_eq_some hfind, List.find?_some hfind, h.active_of_find hsame hfind⟩

theorem FairBut.fair_of_none {m : ι} (h : FairBut same active queue m) (hnone : queue.find? (same m) = none) :
    Fair same active queue := by
  intro i hi
  have hmi : ¬same m i = true := List.find?_eq_none.mp hnone i hi
  simpa [hmi] using h i hi

theorem FairBut.give (hsame : Classes same) {m : ι} (h : FairBut same active queue m)
    (hfind : queue.find? (same m) = some i) : Fair same (fun j => j = i ∨ active j) queue := by
  intro j hj
  have hmi : same m i = true := List.find?_some hfind
  have hjq := h j hj
  cases hmj : same m j with
  | true =>
    simp only [hmj, if_true] at hjq
    rw [← hsame.eq_of_same hmj, hfind]
    constructor
    · rintro (rfl | hactive)
      · rfl
      · exact absurd hactive hjq
    · intro heq
      exact .inl (Option.some.inj heq).symm
  | false =>
    have hji : j ≠ i := by
      rintro rfl
      simp [hmi] at hmj
    simpa [hmj, hji] using hjq

theorem Fair.append_waiting (hsame : Classes same) (h : Fair same active queue) (hi : i ∉ queue) (hwaits : ¬active i)
    (hfound : queue.find? (same i) ≠ none) : Fair same active (queue ++ [i]) := by
  intro j hj
  rw [find?_append_singleton]
  rcases List.mem_append.mp hj with hj | hj
  · rw [h j hj]
    cases hfind : queue.find? (same j) with
    | none => exact absurd (hsame.refl j) (List.find?_eq_none.mp hfind j hj)
    | some k => simp
  · obtain rfl := List.mem_singleton.mp hj
    obtain ⟨k, hk⟩ := Option.ne_none_iff_exists'.mp hfound
    have hki : k ≠ j := fun heq => hi (heq ▸ List.mem_of_find?_eq_some hk)
    simp [hk, hki, hwaits]

theorem Fair.append_first (hsame : Classes same) (h : Fair same active queue) (hwaits : ¬active i)
    (hnone : queue.find? (same i) = none) : FairBut same active (queue ++ [i]) i := by
  intro j hj
  rcases List.mem_append.mp hj with hj | hj
  · have hij : ¬same i j = true := List.find?_eq_none.mp hnone j hj
    have hji : ¬same j i = true := fun hji => hij (hsame.symm hji)
    rw [if_neg hij, h j hj, find?_append_singleton]
    cases hfind : queue.find? (same j) with
    | none => simp [hji]
    | some k => simp
  · obtain rfl := List.mem_singleton.mp hj
    simpa [hsame.refl j] using hwaits

section Leaving

variable [DecidableEq ι]

theorem find?_erase_of_neg {p : ι → Bool} (h : p i = false) : (queue.erase i).find? p = queue.find? p := by
  induction queue with
  | nil => rfl
  | cons a queue ih =>
    by_cases ha : a = i
    · subst ha
      simp [h]
    · rw [List.erase_cons_tail (by simpa using ha), List.find?_cons, List.find?_cons, ih]

theorem filter_of_find? {p : ι → Bool} (h : queue.find? p = some i) :
    queue.filter p = i :: (queue.erase i).filter p := by
  induction queue with
  | nil => cases h
  | cons a queue ih =>
    rw [List.find?_cons] at h
    split at h
    case h_1 ha =>
      obtain rfl := Option.some.inj h
      simp [ha]
    case h_2 ha =>
      have hai : a ≠ i := by
        rintro rfl
        have hi := List.find?_some h
        simp [ha] at hi
      simp [ha, hai, ih h]

/-- One that leaves without having its turn takes none with it. -/
theorem Fair.erase_waiting (hsame : Classes same) (h : Fair same active queue) (hi : i ∈ queue) (hwaits : ¬active i) :
    Fair same active (queue.erase i) := by
  intro j hj
  rw [h j (List.mem_of_mem_erase hj)]
  cases hji : same j i with
  | false => rw [find?_erase_of_neg hji]
  | true =>
    obtain ⟨k, hk⟩ : ∃ k, queue.find? (same j) = some k := by
      cases hfind : queue.find? (same j) with
      | none => exact absurd hji (List.find?_eq_none.mp hfind i hi)
      | some k => exact ⟨k, rfl⟩
    have hne : k ≠ i := by
      rintro rfl
      exact hwaits (h.active_of_find hsame hk)
    have hkept : (queue.erase i).find? (same j) = some k := by
      clear h hj
      induction queue with
      | nil => cases hk
      | cons a queue ih =>
        by_cases ha : a = i
        · subst ha
          simp [hji] at hk
          exact absurd hk.symm hne
        · rw [List.erase_cons_tail (by simpa using ha), List.find?_cons]
          rw [List.find?_cons] at hk
          split at hk
          · exact hk
          · exact ih ((List.mem_cons.mp hi).resolve_left (Ne.symm ha)) hk
    rw [hk, hkept]

theorem Fair.erase_active (hsame : Classes same) (h : Fair same active queue) (hnodup : queue.Nodup) (hi : i ∈ queue)
    (hactive : active i) : FairBut same active (queue.erase i) i := by
  intro j hj
  have hjq := List.mem_of_mem_erase hj
  have hji : j ≠ i := fun heq => (List.Nodup.not_mem_erase hnodup) (heq ▸ hj)
  split
  case isTrue hsij =>
    intro hactive'
    exact hji (h.unique hsame hi hjq hactive hactive' hsij).symm
  case isFalse hsij =>
    have hsji : same j i = false := by
      cases hsji : same j i with
      | false => rfl
      | true => exact absurd (hsame.symm hsji) hsij
    rw [h j hjq, find?_erase_of_neg hsji]

theorem FairBut.erase (hsame : Classes same) {m : ι} (h : FairBut same active queue m) (hmi : same m i = true) :
    FairBut same active (queue.erase i) i := by
  intro j hj
  have hjq := h j (List.mem_of_mem_erase hj)
  rw [← hsame.eq_of_same hmi]
  split
  case isTrue hmj => simpa [hmj] using hjq
  case isFalse hmj =>
    have hsji : same j i = false := by
      cases hsji : same j i with
      | false => rfl
      | true => exact absurd (hsame.eq_of_same hmi ▸ hsame.symm hsji) hmj
    simp only [hmj] at hjq
    rw [find?_erase_of_neg hsji]
    simpa using hjq

end Leaving

end Turns
