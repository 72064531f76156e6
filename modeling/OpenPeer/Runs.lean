import Mathlib.Data.List.Basic

/-!
# Runs of a system

A system is a state and a step for each event. What one step keeps, a run keeps;
when only some steps keep it, the runs all of whose steps are of that kind do.
-/
namespace Runs

variable {σ ε : Type}

/-- The state after a list of events. -/
def run (step : σ → ε → σ) : σ → List ε → σ
  | s, [] => s
  | s, e :: es => run step (step s e) es

/-- Every event of the run is taken in a state that allows it. -/
def Meets (step : σ → ε → σ) (ok : σ → ε → Prop) : σ → List ε → Prop
  | _, [] => True
  | s, e :: es => ok s e ∧ Meets step ok (step s e) es

instance decidableMeets (step : σ → ε → σ) (ok : σ → ε → Prop) [∀ s e, Decidable (ok s e)] :
    (s : σ) → (es : List ε) → Decidable (Meets step ok s es)
  | _, [] => .isTrue trivial
  | s, e :: es =>
    have := decidableMeets step ok (step s e) es
    inferInstanceAs (Decidable (_ ∧ _))

variable (step : σ → ε → σ)

variable (s : σ)

@[simp] theorem run_nil : run step s [] = s := rfl

@[simp] theorem run_cons (e : ε) (es : List ε) : run step s (e :: es) = run step (step s e) es := rfl

theorem run_append (as bs : List ε) : run step s (as ++ bs) = run step (run step s as) bs := by
  induction as generalizing s with
  | nil => rfl
  | cons e es ih => exact ih (step s e)

variable {step}

theorem run_invariant {ok : σ → ε → Prop} (inv : σ → Prop)
    (hstep : ∀ s e, ok s e → inv s → inv (step s e)) (s : σ) (es : List ε)
    (hmeets : Meets step ok s es) (hinit : inv s) : inv (run step s es) := by
  induction es generalizing s with
  | nil => exact hinit
  | cons e es ih => exact ih (step s e) hmeets.2 (hstep s e hmeets.1 hinit)

theorem meets_of_forall {ok : ε → Prop} (es : List ε) (h : ∀ e ∈ es, ok e) : Meets step (fun _ => ok) s es := by
  induction es generalizing s with
  | nil => trivial
  | cons e es ih => exact ⟨h e List.mem_cons_self, ih _ fun e' he => h e' (List.mem_cons_of_mem _ he)⟩

variable {ok : σ → ε → Prop}

theorem meets_of_splits (es : List ε)
    (h : ∀ before e after, es = before ++ e :: after → ok (run step s before) e) : Meets step ok s es := by
  induction es generalizing s with
  | nil => trivial
  | cons e es ih =>
    exact ⟨h [] e es rfl, ih _ fun before e' after heq => h (e :: before) e' after (congrArg (e :: ·) heq)⟩

theorem run_first (step : σ → ε → σ) {P : σ → Prop} (s : σ) (es : List ε) (hinit : ¬P s) (hend : P (run step s es)) :
    ∃ before e after, es = before ++ e :: after ∧ ¬P (run step s before) ∧ P (step (run step s before) e) := by
  induction es generalizing s with
  | nil => exact absurd hend hinit
  | cons e es ih =>
    by_cases hstep : P (step s e)
    · exact ⟨[], e, es, rfl, hinit, hstep⟩
    · obtain ⟨before, e', after, rfl, hbefore, hafter⟩ := ih (step s e) hstep hend
      exact ⟨e :: before, e', after, rfl, hbefore, hafter⟩

theorem meets_of_append (before : List ε) (e : ε) (after : List ε)
    (h : Meets step ok s (before ++ e :: after)) : ok (run step s before) e := by
  induction before generalizing s with
  | nil => exact h.1
  | cons e' before ih => exact ih (step s e') h.2

variable {ok' : σ → ε → Prop}

theorem meets_and {s : σ} {es : List ε} (h : Meets step ok s es) (h' : Meets step ok' s es) :
    Meets step (fun s e => ok s e ∧ ok' s e) s es := by
  induction es generalizing s with
  | nil => trivial
  | cons e es ih => exact ⟨⟨h.1, h'.1⟩, ih h.2 h'.2⟩

theorem meets_before {s : σ} {before after : List ε} (h : Meets step ok s (before ++ after)) :
    Meets step ok s before := by
  induction before generalizing s with
  | nil => trivial
  | cons e before ih => exact ⟨h.1, ih h.2⟩

variable (inv : σ → Prop)

theorem meets_iff (hiff : ∀ s e, inv s → (ok s e ↔ ok' s e))
    (hstep : ∀ s e, inv s → ok s e → inv (step s e)) (s : σ) (es : List ε) (hinit : inv s) :
    Meets step ok s es ↔ Meets step ok' s es := by
  induction es generalizing s with
  | nil => exact Iff.rfl
  | cons e es ih =>
    simp only [Meets, ← hiff s e hinit]
    exact and_congr_right fun hok => ih _ (hstep s e hinit hok)

theorem run_iff_meets {ok : σ → ε → Prop} {P : σ → Prop} (inv : σ → Prop)
    (hiff : ∀ s e, inv s → (P (step s e) ↔ P s ∧ ok s e)) (hstep : ∀ s e, inv s → inv (step s e)) (s : σ) (es : List ε)
    (hinit : inv s) : P (run step s es) ↔ P s ∧ Meets step ok s es := by
  induction es generalizing s with
  | nil => exact (and_iff_left trivial).symm
  | cons e es ih => rw [run_cons, ih _ (hstep s e hinit), hiff s e hinit, and_assoc, Meets]

theorem run_invariant_always (hstep : ∀ s e, inv s → inv (step s e)) (s : σ) (es : List ε) (hinit : inv s) :
    inv (run step s es) := by
  induction es generalizing s with
  | nil => exact hinit
  | cons e es ih => exact ih (step s e) (hstep s e hinit)

/-! ## Runs that may halt -/

section Halting

variable {η : Type}

/-- The state after a list of events, unless one of them halts the run. -/
def tryRun (step : σ → ε → Except η σ) : σ → List ε → Except η σ
  | s, [] => .ok s
  | s, e :: es =>
    match step s e with
    | .error halt => .error halt
    | .ok s' => tryRun step s' es

/-- Every event of the run up to where it halts is taken in a state that allows it. -/
def TryMeets (step : σ → ε → Except η σ) (ok : σ → ε → Prop) : σ → List ε → Prop
  | _, [] => True
  | s, e :: es => ok s e ∧ ∀ s', step s e = .ok s' → TryMeets step ok s' es

variable {step : σ → ε → Except η σ} {ok : σ → ε → Prop}

theorem tryRun_invariant (inv : σ → Prop) (hstep : ∀ s e s', ok s e → inv s → step s e = .ok s' → inv s') {s s' : σ}
    {es : List ε} (hmeets : TryMeets step ok s es) (hinit : inv s) (hrun : tryRun step s es = .ok s') : inv s' := by
  induction es generalizing s with
  | nil =>
    cases hrun
    exact hinit
  | cons e es ih =>
    simp only [tryRun] at hrun
    split at hrun
    case h_1 => cases hrun
    case h_2 s₁ hs₁ => exact ih (hmeets.2 s₁ hs₁) (hstep s e s₁ hmeets.1 hinit hs₁) hrun

theorem tryRun_ok (inv : σ → Prop) (hstep : ∀ s e, ok s e → inv s → ∃ s', step s e = .ok s' ∧ inv s') {s : σ}
    {es : List ε} (hmeets : TryMeets step ok s es) (hinit : inv s) : ∃ s', tryRun step s es = .ok s' ∧ inv s' := by
  induction es generalizing s with
  | nil => exact ⟨s, rfl, hinit⟩
  | cons e es ih =>
    obtain ⟨s₁, hs₁, hinv⟩ := hstep s e hmeets.1 hinit
    obtain ⟨s', hs', hinv'⟩ := ih (hmeets.2 s₁ hs₁) hinv
    exact ⟨s', by simpa only [tryRun, hs₁] using hs', hinv'⟩

theorem TryMeets.cons {s s' : σ} {e : ε} {es : List ε} (hok : ok s e) (hs : step s e = .ok s')
    (h : TryMeets step ok s' es) : TryMeets step ok s (e :: es) := by
  refine ⟨hok, fun s₁ hs₁ => ?_⟩
  obtain rfl := Except.ok.inj (hs.symm.trans hs₁)
  exact h

theorem tryMeets_true (step : σ → ε → Except η σ) (s : σ) (es : List ε) : TryMeets step (fun _ _ => True) s es := by
  induction es generalizing s with
  | nil => trivial
  | cons e es ih => exact ⟨trivial, fun s' _ => ih s'⟩

end Halting

end Runs
