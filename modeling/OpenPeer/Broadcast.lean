import Mathlib.Data.List.Basic

/-!
# Messages to a table of subscribers

Each subscriber accepts some items. What it is sent at once is one message with those of the
items that it accepts, and no message when there are none.
-/
namespace Broadcast

variable {κ σ ι : Type}

/-- What a subscriber is sent. -/
def message (accepts : σ → ι → Bool) (items : List ι) (subscriber : κ × σ) : List (κ × List ι) :=
  let list := items.filter (accepts subscriber.2)
  if list.isEmpty then [] else [(subscriber.1, list)]

/-- What all subscribers of a table are sent. -/
def messages (accepts : σ → ι → Bool) (table : List (κ × σ)) (items : List ι) : List (κ × List ι) :=
  table.flatMap (message accepts items)

/-- Some message tells a subscriber of an item. -/
def Tells (sent : List (κ × List ι)) (k : κ) (i : ι) : Prop := ∃ list, (k, list) ∈ sent ∧ i ∈ list

@[simp] theorem tells_nil (k : κ) (i : ι) : ¬Tells [] k i := by simp [Tells]

@[simp] theorem tells_append (as bs : List (κ × List ι)) (k : κ) (i : ι) :
    Tells (as ++ bs) k i ↔ Tells as k i ∨ Tells bs k i := by
  simp only [Tells, List.mem_append, or_and_right, exists_or]

theorem tells_flatMap {α : Type} (f : α → List (κ × List ι)) (as : List α) (k : κ) (i : ι) :
    Tells (as.flatMap f) k i ↔ ∃ a ∈ as, Tells (f a) k i := by
  induction as with
  | nil => simp
  | cons a as ih => simp [ih]

theorem tells_message (accepts : σ → ι → Bool) (items : List ι) (subscriber : κ × σ) (k : κ) (i : ι) :
    Tells (message accepts items subscriber) k i ↔ subscriber.1 = k ∧ i ∈ items ∧ accepts subscriber.2 i = true := by
  simp only [message]
  split
  case isTrue hempty =>
    have hnone := List.filter_eq_nil_iff.mp (List.isEmpty_iff.mp hempty)
    simp only [tells_nil, false_iff]
    rintro ⟨-, hmem, haccepts⟩
    exact hnone i hmem haccepts
  case isFalse =>
    simp only [Tells, List.mem_singleton, Prod.mk.injEq]
    constructor
    · rintro ⟨list, ⟨rfl, rfl⟩, hmem⟩
      exact ⟨rfl, List.mem_filter.mp hmem⟩
    · rintro ⟨rfl, hmem⟩
      exact ⟨_, ⟨rfl, rfl⟩, List.mem_filter.mpr hmem⟩

theorem tells_messages (accepts : σ → ι → Bool) (table : List (κ × σ)) (items : List ι) (k : κ) (i : ι) :
    Tells (messages accepts table items) k i ↔ i ∈ items ∧ ∃ s, (k, s) ∈ table ∧ accepts s i = true := by
  simp only [messages, tells_flatMap, tells_message]
  constructor
  · rintro ⟨⟨_, s⟩, hmem, rfl, hi, haccepts⟩
    exact ⟨hi, s, hmem, haccepts⟩
  · rintro ⟨hi, s, hmem, haccepts⟩
    exact ⟨(k, s), hmem, rfl, hi, haccepts⟩

end Broadcast
