import Mathlib.Data.List.Basic
import Mathlib.Data.List.Infix

/-!
# Chains

A value that every item moves on, and what is put out for each item under the value it
finds. Where no value of the chain has a mark that another one has, the items so far can
be told from the mark. The items may be spread over lanes, with a chain in each.
-/
namespace Chain

section Outputs

variable {σ β γ : Type} (next : σ → β → σ) (out : σ → β → γ)

/-- What is put out for the items, one after the other. -/
def outputs : σ → List β → List γ
  | _, [] => []
  | s, b :: bs => out s b :: outputs (next s b) bs

variable {next out}

@[simp] theorem outputs_nil (s : σ) : outputs next out s [] = [] := rfl

@[simp] theorem outputs_cons (s : σ) (b : β) (bs : List β) :
    outputs next out s (b :: bs) = out s b :: outputs next out (next s b) bs := rfl

theorem outputs_append (s : σ) (bs cs : List β) :
    outputs next out s (bs ++ cs) = outputs next out s bs ++ outputs next out (bs.foldl next s) cs := by
  induction bs generalizing s with
  | nil => rfl
  | cons b bs ih => simp [ih]

theorem outputs_concat (s : σ) (bs : List β) (b : β) :
    outputs next out s (bs ++ [b]) = outputs next out s bs ++ [out (bs.foldl next s) b] := by
  simp [outputs_append]

@[simp] theorem length_outputs (s : σ) (bs : List β) : (outputs next out s bs).length = bs.length := by
  induction bs generalizing s with
  | nil => rfl
  | cons b bs ih => simp [ih]

theorem outputs_mono (s : σ) {bs cs : List β} (h : bs <+: cs) : outputs next out s bs <+: outputs next out s cs := by
  obtain ⟨ds, rfl⟩ := h
  rw [outputs_append]
  exact List.prefix_append _ _

/-- The outputs are those of the items, each under the value the items before lead to. -/
theorem mem_outputs {s : σ} {bs : List β} {c : γ} :
    c ∈ outputs next out s bs ↔ ∃ before b, before ++ [b] <+: bs ∧ c = out (before.foldl next s) b := by
  constructor
  · intro h
    induction bs generalizing s with
    | nil => cases h
    | cons b bs ih =>
      cases h with
      | head => exact ⟨[], b, List.prefix_append [b] bs, rfl⟩
      | tail _ h =>
        obtain ⟨before, b', hfront, hout⟩ := ih h
        exact ⟨b :: before, b', List.prefix_cons_inj b |>.mpr hfront, hout⟩
  · rintro ⟨before, b, ⟨after, rfl⟩, rfl⟩
    rw [outputs_append, outputs_concat]
    exact List.mem_append_left _ (List.mem_append_right _ List.mem_cons_self)

end Outputs

section Marks

variable {σ β ι : Type} (next : σ → β → σ) (mark : σ → ι)

/-- No value that the items lead to has the first mark, and two with one mark come from values with
one mark. -/
structure Forward (s : σ) (bs : List β) : Prop where
  fresh : ∀ before b, before ++ [b] <+: bs → mark (next (before.foldl next s) b) ≠ mark s
  apart : ∀ before b before' b', before ++ [b] <+: bs → before' ++ [b'] <+: bs →
    mark (next (before.foldl next s) b) = mark (next (before'.foldl next s) b') →
    mark (before.foldl next s) = mark (before'.foldl next s)

variable {next mark} {s : σ} {bs : List β}

theorem eq_of_prefix_of_length {as as' : List β} (h : as <+: bs) (h' : as' <+: bs) (hlength : as.length = as'.length) :
    as = as' := by
  rw [List.prefix_iff_eq_take.mp h, List.prefix_iff_eq_take.mp h', hlength]

/-- The items so far can be told from the mark. -/
theorem Forward.eq_of_mark (h : Forward next mark s bs) {before before' : List β} (hbefore : before <+: bs)
    (hbefore' : before' <+: bs) (hmark : mark (before.foldl next s) = mark (before'.foldl next s)) : before = before' := by
  induction before using List.reverseRecOn generalizing before' with
  | nil =>
    cases before' using List.reverseRecOn with
    | nil => rfl
    | append_singleton before' b' =>
      rw [List.foldl_append] at hmark
      exact absurd hmark.symm (h.fresh before' b' hbefore')
  | append_singleton before b ih =>
    cases before' using List.reverseRecOn with
    | nil =>
      rw [List.foldl_append] at hmark
      exact absurd hmark (h.fresh before b hbefore)
    | append_singleton before' b' =>
      rw [List.foldl_append, List.foldl_append] at hmark
      have hprevious := h.apart before b before' b' hbefore hbefore' hmark
      have hsame : before = before' :=
        ih ((List.prefix_append _ _).trans hbefore) ((List.prefix_append _ _).trans hbefore') hprevious
      exact eq_of_prefix_of_length hbefore hbefore' (by simp [hsame])

end Marks

section Lanes

variable {ι β : Type} [DecidableEq ι]

/-- The items of one lane, in order. -/
def lane (i : ι) (items : List (ι × β)) : List β := (items.filter (·.1 = i)).map Prod.snd

@[simp] theorem lane_nil (i : ι) : lane i ([] : List (ι × β)) = [] := rfl

theorem lane_append (i : ι) (as bs : List (ι × β)) : lane i (as ++ bs) = lane i as ++ lane i bs := by simp [lane]

theorem lane_concat (i j : ι) (as : List (ι × β)) (b : β) :
    lane i (as ++ [(j, b)]) = if j = i then lane i as ++ [b] else lane i as := by
  by_cases h : j = i
  · simp [lane, h]
  · simp [lane, h]

end Lanes

end Chain
