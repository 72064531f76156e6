import Mathlib.Data.List.Basic

/-!
# Items that wait at their places

Two lists are kept side by side: items, and for each the key of what it waits for, if it
waits. The key of an item is that of its place, so what comes for a key is found at the
place of the item it is for, and when nothing waits any more each item has become what it was
to become.
-/
namespace Places

variable {α κ : Type} [DecidableEq κ]

/-- The first place, of those both lists have, where the key is waited for. -/
def find (k : κ) : List α → List (Option κ) → Option Nat
  | _ :: items, waits :: waiting => if waits = some k then some 0 else (find k items waiting).map (· + 1)
  | _, _ => none

theorem find_nil (k : κ) (items : List α) : find k items [] = none := by
  cases items <;> rfl

theorem find_eq {k : κ} {items : List α} {waiting : List (Option κ)} {i : Nat} (hlength : i < items.length)
    (hwaits : waiting[i]? = some (some k)) (honly : ∀ j, waiting[j]? = some (some k) → j = i) :
    find k items waiting = some i := by
  induction i generalizing items waiting with
  | zero =>
    cases items with
    | nil => cases hlength
    | cons item items =>
      cases waiting with
      | nil => cases hwaits
      | cons waits waiting => exact if_pos (Option.some.inj hwaits)
  | succ i ih =>
    cases items with
    | nil => cases hlength
    | cons item items =>
      cases waiting with
      | nil => cases hwaits
      | cons waits waiting =>
        have hfirst : waits ≠ some k := by
          intro hsame
          exact absurd (honly 0 (congrArg some hsame)) (Nat.succ_ne_zero i).symm
        have hrest : find k items waiting = some i := by
          apply ih (Nat.lt_of_succ_lt_succ hlength) hwaits
          intro j hj
          exact Nat.succ.inj (honly (j + 1) hj)
        rw [find, if_neg hfirst, hrest]
        rfl

/-- An item is as it was at first and waits for its key, or it has become what it was to become. -/
structure Placed (key : Nat → κ) (becomes : Nat → α → α → Prop) (firsts items : List α)
    (waiting : List (Option κ)) : Prop where
  items_length : items.length = firsts.length
  waiting_length : waiting.length = firsts.length
  place : ∀ i a, firsts[i]? = some a → (waiting[i]? = some (some (key i)) ∧ items[i]? = some a) ∨
    (waiting[i]? = some none ∧ ∃ b, items[i]? = some b ∧ becomes i a b)

variable {key : Nat → κ} {becomes becomes' : Nat → α → α → Prop} {firsts items : List α} {waiting : List (Option κ)}

omit [DecidableEq κ] in
theorem Placed.mono (h : Placed key becomes firsts items waiting) (hmono : ∀ i a b, becomes i a b → becomes' i a b) :
    Placed key becomes' firsts items waiting where
  __ := h
  place i a ha := (h.place i a ha).imp id fun ⟨hnone, b, hb, hbecomes⟩ => ⟨hnone, b, hb, hmono i a b hbecomes⟩

omit [DecidableEq κ] in
theorem Placed.key_eq (h : Placed key becomes firsts items waiting) {i : Nat} {k : κ}
    (hwaits : waiting[i]? = some (some k)) : k = key i ∧ ∃ a, firsts[i]? = some a ∧ items[i]? = some a := by
  have hlt : i < firsts.length := h.waiting_length ▸ (List.getElem?_eq_some_iff.mp hwaits).1
  have ha : firsts[i]? = some firsts[i] := List.getElem?_eq_getElem hlt
  obtain ⟨hown, hitem⟩ | ⟨hnone, -⟩ := h.place i _ ha
  · exact ⟨Option.some.inj (Option.some.inj (hwaits.symm.trans hown)), _, ha, hitem⟩
  · cases Option.some.inj (hwaits.symm.trans hnone)

theorem Placed.find_key (h : Placed key becomes firsts items waiting) (hinj : Function.Injective key) {k : κ}
    (hwaits : some k ∈ waiting) : ∃ i, k = key i ∧ i < firsts.length ∧ find k items waiting = some i := by
  obtain ⟨i, hi⟩ := List.mem_iff_getElem?.mp hwaits
  obtain ⟨hk, a, ha, hitem⟩ := h.key_eq hi
  refine ⟨i, hk, (List.getElem?_eq_some_iff.mp ha).1, find_eq (List.getElem?_eq_some_iff.mp hitem).1 hi ?_⟩
  intro j hj
  exact hinj ((h.key_eq hj).1.symm.trans hk)

omit [DecidableEq κ] in
theorem Placed.fill (h : Placed key becomes firsts items waiting) (i : Nat) (f : α → α)
    (hwaits : waiting[i]? = some (some (key i))) (hf : ∀ a, firsts[i]? = some a → becomes i a (f a)) :
    Placed key becomes firsts (items.modify i f) (waiting.set i none) where
  items_length := by rw [List.length_modify, h.items_length]
  waiting_length := by rw [List.length_set, h.waiting_length]
  place := by
    intro j a ha
    by_cases hsame : j = i
    · subst hsame
      obtain ⟨-, a', ha', hitem⟩ := h.key_eq hwaits
      obtain rfl := Option.some.inj (ha.symm.trans ha')
      right
      refine ⟨?_, f a, ?_, hf a ha⟩
      · rw [List.getElem?_set_self (List.getElem?_eq_some_iff.mp hwaits).1]
      · simp [hitem]
    · have hitem : (items.modify i f)[j]? = items[j]? := by simp [Ne.symm hsame]
      rw [List.getElem?_set_ne (Ne.symm hsame), hitem]
      exact h.place j a ha

omit [DecidableEq κ] in
/-- What is waited for when a place is filled is all but the key of the place. -/
theorem Placed.mem_fill (h : Placed key becomes firsts items waiting) (hinj : Function.Injective key) {i : Nat}
    (hwaits : waiting[i]? = some (some (key i))) (k : κ) :
    some k ∈ waiting.set i none ↔ some k ∈ waiting ∧ k ≠ key i := by
  constructor
  · intro hmem
    obtain ⟨j, hj⟩ := List.mem_iff_getElem?.mp hmem
    by_cases hsame : j = i
    · subst hsame
      rw [List.getElem?_set_self (List.getElem?_eq_some_iff.mp hwaits).1] at hj
      cases hj
    · rw [List.getElem?_set_ne (Ne.symm hsame)] at hj
      refine ⟨List.mem_iff_getElem?.mpr ⟨j, hj⟩, ?_⟩
      rintro rfl
      exact hsame (hinj (h.key_eq hj).1).symm
  · rintro ⟨hmem, hne⟩
    obtain ⟨j, hj⟩ := List.mem_iff_getElem?.mp hmem
    have hother : i ≠ j := by
      rintro rfl
      exact hne (h.key_eq hj).1
    exact List.mem_iff_getElem?.mpr ⟨j, (List.getElem?_set_ne hother).trans hj⟩

omit [DecidableEq κ] in
theorem Placed.complete (h : Placed key becomes firsts items waiting) (hnone : ∀ k, some k ∉ waiting) (i : Nat) (a : α)
    (ha : firsts[i]? = some a) : ∃ b, items[i]? = some b ∧ becomes i a b := by
  obtain ⟨hwaits, -⟩ | ⟨-, hb⟩ := h.place i a ha
  · exact absurd (List.mem_iff_getElem?.mpr ⟨i, hwaits⟩) (hnone (key i))
  · exact hb

end Places
