import OpenPeer.STUNRequesterThreads

/-!
# A STUN request completes at most once

The outcomes in the history are those of the threads, and the delegate is set unless there was
an outcome, a cancellation or the delegate is gone. So what may be told is seen from the
threads and the delegate, and a run is right exactly when nothing has come in between.
-/
namespace OpenPeer.STUNRequesterThreads

variable {Packet : Type}

section Effects

/-- What a part that may send does to the delegate and tells: nothing, or it sends, or it is cancelled instead since
the delegate is gone. -/
inductive Acts (delegate gone : Bool) : Bool → Bool → List (Happening Packet) → Prop
  | quiet : Acts delegate gone false delegate []
  | sent (hset : delegate = true) (hgone : gone = false) (destination : Nat) :
    Acts delegate gone true true [.sent destination]
  | cancelled (hset : delegate = true) (hgone : gone = true) : Acts delegate gone true false [.cancelled]

theorem newMaxTimeTimer_mDelegate (r : STUNRequester) : r.newMaxTimeTimer.mDelegate = r.mDelegate := by
  unfold STUNRequester.newMaxTimeTimer
  split
  · rfl
  · rfl

theorem newMaxTimeTimer_mTimer (r : STUNRequester) : r.newMaxTimeTimer.mTimer = r.mTimer := by
  unfold STUNRequester.newMaxTimeTimer
  split
  · rfl
  · rfl

theorem acts_step (r : STUNRequester) (gone : Bool) (hnone : r.mTimer = none) :
    let stepped : STUNRequester × List (Happening Packet) := r.step gone
    Acts r.mDelegate gone (r.mDelegate && r.mServerIP.isSome) stepped.1.mDelegate stepped.2 := by
  unfold STUNRequester.step
  cases r.mServerIP with
  | none =>
    simp only [Option.isSome_none, Bool.and_false]
    exact .quiet
  | some destination =>
    cases hset : r.mDelegate with
    | false =>
      simp only [Bool.not_false, if_true, Bool.false_and, hset]
      exact .quiet
    | true =>
      have hdelegate : r.newMaxTimeTimer.newTimer.mDelegate = true := (newMaxTimeTimer_mDelegate r).trans hset
      simp only [newMaxTimeTimer_mTimer, hnone, Option.isSome_some]
      cases gone with
      | true => exact .cancelled rfl rfl
      | false =>
        simp only [Bool.not_true, Bool.false_eq_true, if_false, ne_eq, not_true, hdelegate, Bool.true_and]
        exact .sent rfl rfl destination

theorem acts_retryRequestNow (r : STUNRequester) (gone : Bool) (now : Nat) :
    let stepped : STUNRequester × List (Happening Packet) := r.retryRequestNow gone now
    Acts r.mDelegate gone (r.mDelegate && r.mServerIP.isSome) stepped.1.mDelegate stepped.2 := by
  unfold STUNRequester.retryRequestNow
  split
  next hidle =>
    have hnone : (r.mDelegate && r.mServerIP.isSome) = false := by
      cases hidle with
      | inl hcleared => simp at hcleared; simp [hcleared]
      | inr hserver => simp [hserver]
    rw [hnone]
    exact .quiet
  next =>
    exact acts_step { r with
      mRequestStartTime := now
      mCurrentTimeout := 500
      mTryNumber := 0
      mTimer := none
      mMaxTimeTimer := none } gone rfl

/-- The first part of `onTimer` sends when the timer is the one of the retransmissions and another try is left. -/
theorem acts_onTimer (r : STUNRequester) (gone : Bool) (timer now : Nat) :
    let stepped : STUNRequester × List (Happening Packet) × Bool := r.onTimer gone timer now
    Acts r.mDelegate gone (r.resends timer now) stepped.1.mDelegate stepped.2.1 := by
  have hquiet : ∀ {sends : Bool}, sends = false →
      Acts r.mDelegate gone sends r.mDelegate ([] : List (Happening Packet)) := by
    rintro sends rfl
    exact .quiet
  unfold STUNRequester.onTimer
  split
  next hcleared =>
    apply hquiet
    simp only [Bool.not_eq_true'] at hcleared
    simp [STUNRequester.resends, hcleared]
  split
  next hmax => exact hquiet (by simp [STUNRequester.resends, hmax])
  split
  next hother => exact hquiet (by simp [STUNRequester.resends, hother])
  next hset hmax htimer =>
    simp only [ne_eq, not_not] at htimer
    dsimp only
    split
    next hover =>
      apply hquiet
      simp only [STUNRequester.resends, Bool.and_eq_false_iff, decide_eq_false_iff_not]
      omega
    next hleft =>
      have hsends : r.resends timer now = (r.mDelegate && r.mServerIP.isSome) := by
        simp only [not_or] at hleft
        simp only [STUNRequester.resends, hmax, htimer, ne_eq, not_false_eq_true, decide_true, Bool.and_true]
        rw [decide_eq_true (show r.mTryNumber + 1 < 6 by omega),
          decide_eq_true (show now - r.mRequestStartTime ≤ r.mMaxTimeout by omega), Bool.and_true, Bool.and_true]
      rw [hsends]
      exact acts_step { r with
        mTimer := none
        mTryNumber := r.mTryNumber + 1
        mCurrentTimeout := r.mCurrentTimeout + r.mCurrentTimeout + 500 } gone rfl

end Effects

section Threads

variable {s : Requesting Packet} {thread : Nat} {old new : Phase Packet}

open Requesting

theorem getElem?_of_phase (hphase : s.phase thread = old) (hold : old ≠ .done false) :
    s.threads[thread]? = some old := by
  rw [phase, List.getD_eq_getElem?_getD] at hphase
  cases hthread : s.threads[thread]? with
  | none =>
    rw [hthread] at hphase
    exact absurd hphase.symm hold
  | some now =>
    rw [hthread] at hphase
    exact congrArg some hphase

theorem any_set {threads : List (Phase Packet)} (hlt : thread < threads.length)
    (hkeep : (threads[thread]).hasOutcome = true → new.hasOutcome = true) :
    (threads.set thread new).any Phase.hasOutcome = (threads.any Phase.hasOutcome || new.hasOutcome) := by
  induction threads generalizing thread with
  | nil => cases hlt
  | cons first rest ih =>
    cases thread with
    | zero =>
      simp only [List.getElem_cons_zero] at hkeep
      simp only [List.set_cons_zero, List.any_cons]
      cases hnew : new.hasOutcome with
      | true => simp
      | false =>
        have hfirst : first.hasOutcome = false := by
          by_contra hfirst
          have hboth := hkeep (Bool.not_eq_false _ ▸ hfirst)
          rw [hnew] at hboth
          cases hboth
        simp [hfirst]
    | succ thread =>
      simp only [List.getElem_cons_succ] at hkeep
      have hrest := ih (Nat.lt_of_succ_lt_succ hlt) hkeep
      simp only [List.set_cons_succ, List.any_cons, hrest, Bool.or_assoc]

theorem concluded_enter (hphase : s.phase thread = old) (hold : old ≠ .done false)
    (hkeep : old.hasOutcome = true → new.hasOutcome = true) :
    (s.enter thread new).concluded = (s.concluded || new.hasOutcome) := by
  obtain ⟨hlt, hthread⟩ := List.getElem?_eq_some_iff.mp (getElem?_of_phase hphase hold)
  apply any_set hlt
  rw [hthread]
  exact hkeep

end Threads

section Invariant

open Requesting

/-- What is known of a thread between two of its steps. -/
def Phase.Sound (s : Requesting Packet) : Phase Packet → Prop
  | responded accepted => accepted = false → s.gone = true
  | timedOut told => told = false → s.gone = true ∨ s.requester.mDelegate = false
  | found _ | matched _ _ | called _ | expired | done _ => True

/-- The outcomes are those of the threads, and the delegate is set as long as nothing has ended the request. -/
structure Inv (s : Requesting Packet) : Prop where
  outcome : s.history.any Happening.isOutcome = s.concluded
  cancelled : s.requester.mDelegate = true → Happening.cancelled ∉ s.history
  cleared : s.requester.mDelegate = false → s.gone = true ∨ s.history.any Happening.concludes = true
  threads : ∀ phase ∈ s.threads, phase.Sound s

variable {s s' : Requesting Packet} {thread : Nat} {old new : Phase Packet}

/-- With the delegate set, only an outcome ends the request. -/
theorem Inv.concludes_eq (h : Inv s) (hset : s.requester.mDelegate = true) :
    s.history.any Happening.concludes = s.concluded := by
  rw [← h.outcome, Bool.eq_iff_iff, List.any_eq_true, List.any_eq_true]
  constructor
  · rintro ⟨happening, hmem, hconcludes⟩
    refine ⟨happening, hmem, ?_⟩
    cases happening with
    | accepted packet => rfl
    | timedOut => rfl
    | cancelled => exact absurd hmem (h.cancelled hset)
    | sent destination => cases hconcludes
    | response packet => cases hconcludes
  · rintro ⟨happening, hmem, houtcome⟩
    exact ⟨happening, hmem, Happening.concludes_of_isOutcome houtcome⟩

theorem Inv.running_iff (h : Inv s) (hgone : s.gone = false) :
    s.history.any Happening.concludes = false ↔ s.running = true := by
  unfold Requesting.running
  cases hset : s.requester.mDelegate with
  | true => simp [h.concludes_eq hset]
  | false =>
    have hended := (h.cleared hset).resolve_left (by simp [hgone])
    simp [hended]

theorem Phase.Sound.mono {phase : Phase Packet} (h : phase.Sound s) (hgone : s.gone = true → s'.gone = true)
    (hcleared : s.requester.mDelegate = false → s'.requester.mDelegate = false) : phase.Sound s' := by
  cases phase with
  | responded accepted => exact fun haccepted => hgone (h haccepted)
  | timedOut told => exact fun htold => (h htold).imp hgone hcleared
  | found packet => trivial
  | matched packet delegate => trivial
  | called packet => trivial
  | expired => trivial
  | done outcome => trivial

/-- A thread goes on without an outcome, and nothing happens. -/
theorem Inv.enter (h : Inv s) (hphase : s.phase thread = old) (hold : old ≠ .done false)
    (houtcome : new.hasOutcome = old.hasOutcome) (hsound : new.Sound s) : Inv (s.enter thread new) where
  __ := h
  outcome := by
    have hconcluded : (s.enter thread new).concluded = s.concluded := by
      rw [concluded_enter hphase hold fun hhas => houtcome.trans hhas, houtcome]
      cases hhas : old.hasOutcome with
      | false => exact Bool.or_false _
      | true =>
        have hany : s.concluded = true :=
          List.any_eq_true.mpr ⟨old, List.mem_of_getElem? (getElem?_of_phase hphase hold), hhas⟩
        rw [hany]
        rfl
    exact h.outcome.trans hconcluded.symm
  threads phase hmem := by
    rcases List.mem_or_eq_of_mem_set hmem with hmem | rfl
    · exact (h.threads phase hmem).mono id id
    · exact hsound.mono id id

theorem Inv.outcomes (h : Inv s) (hphase : s.phase thread = old) (hold : old ≠ .done false)
    (houtcome : new.hasOutcome = true) (hsound : new.Sound s) {happening : Happening Packet}
    (hhappening : happening.isOutcome = true) : Inv ((s.enter thread new).happen [happening]) where
  outcome := by
    have hconcluded : ((s.enter thread new).happen [happening]).concluded = (s.enter thread new).concluded := rfl
    rw [hconcluded, concluded_enter hphase hold fun _ => houtcome, houtcome, Bool.or_true]
    simp [happen, hhappening]
  cancelled hset hmem := by
    rcases List.mem_append.mp hmem with hmem | hmem
    · exact h.cancelled hset hmem
    · rw [← List.mem_singleton.mp hmem] at hhappening
      cases hhappening
  cleared hcleared := by
    right
    simp [happen, Happening.concludes_of_isOutcome hhappening]
  threads phase hmem := by
    rcases List.mem_or_eq_of_mem_set hmem with hmem | rfl
    · exact (h.threads phase hmem).mono id id
    · exact hsound.mono id id

theorem Inv.tell (h : Inv s) {happening : Happening Packet} (hgoing : happening.concludes = false) :
    Inv (s.happen [happening]) where
  outcome := by
    have hnone : happening.isOutcome = false := by
      by_contra houtcome
      rw [Happening.concludes_of_isOutcome (Bool.not_eq_false _ ▸ houtcome)] at hgoing
      cases hgoing
    have hhistory : (s.history ++ [happening]).any Happening.isOutcome = s.history.any Happening.isOutcome := by
      simp [hnone]
    exact hhistory.trans h.outcome
  cancelled hset hmem := by
    rcases List.mem_append.mp hmem with hmem | hmem
    · exact h.cancelled hset hmem
    · rw [← List.mem_singleton.mp hmem] at hgoing
      cases hgoing
  cleared hcleared := by
    have hhistory : (s.history ++ [happening]).any Happening.concludes = s.history.any Happening.concludes := by
      simp [hgoing]
    exact (h.cleared hcleared).imp_right hhistory.trans
  threads phase hmem := (h.threads phase hmem).mono id id

/-- Nothing happens to the threads but that one may come that has no outcome, and the requester acts. -/
theorem Inv.acts (h : Inv s) {sends : Bool} {happenings : List (Happening Packet)}
    (hacts : Acts s.requester.mDelegate s.gone sends s'.requester.mDelegate happenings)
    (hhistory : s'.history = s.history ++ happenings) (hgone : s'.gone = s.gone)
    (hthreads : s'.threads = s.threads ∨ ∃ phase, phase.hasOutcome = false ∧ phase.Sound s' ∧
      s'.threads = s.threads ++ [phase]) : Inv s' := by
  have hconcluded : s'.concluded = s.concluded := by
    unfold Requesting.concluded
    obtain heq | ⟨phase, hphase, -, heq⟩ := hthreads
    · rw [heq]
    · rw [heq, List.any_append, List.any_cons, List.any_nil, hphase]
      simp
  have hcleared : s.requester.mDelegate = false → s'.requester.mDelegate = false := by
    intro hcleared
    generalize s'.requester.mDelegate = delegate at hacts
    cases hacts with
    | quiet => exact hcleared
    | sent hset hgone destination => simp [hset] at hcleared
    | cancelled hset hgone => simp [hset] at hcleared
  have hsound : ∀ phase ∈ s'.threads, phase.Sound s' := by
    intro phase hmem
    obtain heq | ⟨new, -, hnew, heq⟩ := hthreads
    · exact (h.threads phase (heq ▸ hmem)).mono (fun hyes => hgone.trans hyes) hcleared
    · rw [heq] at hmem
      rcases List.mem_append.mp hmem with hmem | hmem
      · exact (h.threads phase hmem).mono (fun hyes => hgone.trans hyes) hcleared
      · rw [List.mem_singleton.mp hmem]
        exact hnew
  generalize hdelegate : s'.requester.mDelegate = delegate at hacts
  cases hacts with
  | quiet =>
    rw [List.append_nil] at hhistory
    refine ⟨by rw [hhistory, hconcluded, h.outcome], ?_, ?_, hsound⟩
    · rw [hhistory, hdelegate]
      exact h.cancelled
    · rw [hhistory, hdelegate, hgone]
      exact h.cleared
  | sent hset hliving destination =>
    refine ⟨?_, fun _ => ?_, fun hnone => ?_, hsound⟩
    · rw [hhistory, hconcluded, ← h.outcome]
      simp [Happening.isOutcome]
    · rw [hhistory]
      simpa using h.cancelled hset
    · rw [hdelegate] at hnone
      cases hnone
  | cancelled hset hover =>
    refine ⟨?_, fun hstill => ?_, fun _ => .inl (hgone.trans hover), hsound⟩
    · rw [hhistory, hconcluded, ← h.outcome]
      simp [Happening.isOutcome]
    · rw [hdelegate] at hstill
      cases hstill

theorem Inv.complete (h : Inv s) (hphase : s.phase thread = old) (hold : old ≠ .done false)
    (hended : s.gone = true ∨ s.requester.mDelegate = false ∨ old.hasOutcome = true) :
    Inv { s.enter thread (.done old.hasOutcome) with requester := s.requester.internalCancel } := by
  have hentered : Inv (s.enter thread (.done old.hasOutcome)) := h.enter hphase hold rfl trivial
  refine ⟨hentered.outcome, by simp [STUNRequester.internalCancel], fun _ => ?_, fun phase hmem => ?_⟩
  · obtain hgone | hcleared | houtcome := hended
    · exact .inl hgone
    · exact h.cleared hcleared
    · right
      have hany : s.concluded = true :=
        List.any_eq_true.mpr ⟨old, List.mem_of_getElem? (getElem?_of_phase hphase hold), houtcome⟩
      rw [← h.outcome] at hany
      obtain ⟨happening, hmem, hhappening⟩ := List.any_eq_true.mp hany
      exact List.any_eq_true.mpr ⟨happening, hmem, Happening.concludes_of_isOutcome hhappening⟩
  · exact (hentered.threads phase hmem).mono id fun _ => rfl

variable (isValidResponseTo : Packet → Bool)

theorem Inv.take (h : Inv s) (event : Event Packet) : Inv (s.take isValidResponseTo event) := by
  cases event with
  | handleSTUNPacket packet =>
    simp only [Requesting.take]
    split
    · exact h.acts .quiet (List.append_nil _).symm rfl (.inr ⟨.found packet, rfl, trivial, rfl⟩)
    · exact h
  | check thread =>
    simp only [Requesting.take]
    cases hphase : s.phase thread with
    | found packet =>
      dsimp only
      split
      · exact h.enter hphase (by simp) rfl trivial
      · exact h.enter hphase (by simp) rfl trivial
    | _ => exact h
  | call thread =>
    simp only [Requesting.take]
    cases hphase : s.phase thread with
    | matched packet delegate =>
      simp only [callDelegate]
      split
      · have hentered : Inv (s.enter thread (.done false)) := h.enter hphase (by simp) rfl trivial
        exact ⟨hentered.outcome, hentered.cancelled, hentered.cleared,
          fun phase hmem => (hentered.threads phase hmem).mono id id⟩
      split
      next hgone => exact h.enter hphase (by simp) rfl fun _ => hgone
      next =>
        have hentered : Inv (s.enter thread (.called packet)) := h.enter hphase (by simp) rfl trivial
        exact hentered.tell rfl
    | _ => exact h
  | answer thread accepted =>
    simp only [Requesting.take]
    cases hphase : s.phase thread with
    | called packet =>
      dsimp only
      split
      · exact h.outcomes hphase (by simp) rfl (by simp [Phase.Sound]) rfl
      · exact h.enter hphase (by simp) rfl trivial
    | _ => exact h
  | onTimer timer now =>
    simp only [Requesting.take, fire]
    split
    · exact h
    · refine h.acts (acts_onTimer s.requester s.gone timer now) ?_ ?_ ?_
      · rfl
      · rfl
      · dsimp only
        split
        · exact .inr ⟨.expired, rfl, trivial, rfl⟩
        · exact .inl rfl
  | report thread =>
    simp only [Requesting.take]
    cases hphase : s.phase thread with
    | expired =>
      simp only [reportTimedOut]
      split
      · exact h.outcomes hphase (by simp) rfl (by simp [Phase.Sound]) rfl
      next hnobody =>
        apply h.enter hphase (by simp)
        · rfl
        intro _
        simp only [Bool.and_eq_true, Bool.not_eq_true', not_and_or, Bool.not_eq_true, Bool.not_eq_false] at hnobody
        exact hnobody.symm
    | _ => exact h
  | complete thread =>
    simp only [Requesting.take]
    cases hphase : s.phase thread with
    | responded outcome =>
      apply h.complete hphase (by simp)
      cases outcome with
      | true => exact .inr (.inr rfl)
      | false => exact .inl (h.threads _ (List.mem_of_getElem? (getElem?_of_phase hphase (by simp))) rfl)
    | timedOut outcome =>
      apply h.complete hphase (by simp)
      cases outcome with
      | true => exact .inr (.inr rfl)
      | false =>
        have hsound := h.threads _ (List.mem_of_getElem? (getElem?_of_phase hphase (by simp))) rfl
        exact hsound.imp_right .inl
    | _ => exact h
  | retryRequestNow now =>
    exact h.acts (acts_retryRequestNow s.requester s.gone now) rfl rfl (.inl rfl)
  | cancel =>
    refine ⟨?_, by simp [Requesting.take, STUNRequester.internalCancel], fun _ => .inr ?_, fun phase hmem => ?_⟩
    · have hhistory : (s.history ++ [Happening.cancelled]).any Happening.isOutcome =
          s.history.any Happening.isOutcome := by
        simp [Happening.isOutcome]
      exact hhistory.trans h.outcome
    · simp [Requesting.take, happen, Happening.concludes]
    · exact (h.threads phase hmem).mono id fun _ => rfl
  | delegateGone =>
    exact ⟨h.outcome, h.cancelled, fun _ => .inl rfl, fun phase hmem => (h.threads phase hmem).mono (fun _ => rfl) id⟩

/-- What the requester tells is to be told while no thread has had an outcome. -/
theorem completesOnce_acts (h : Inv s) {sends : Bool} {happenings : List (Happening Packet)} {delegate : Bool}
    (hacts : Acts s.requester.mDelegate s.gone sends delegate happenings)
    (hhistory : s'.history = s.history ++ happenings) (hcrashed : s'.crashed = s.crashed) :
    CompletesOnce s' ↔ CompletesOnce s ∧ (!sends || s.gone || !s.concluded) = true := by
  cases hacts with
  | quiet =>
    rw [List.append_nil] at hhistory
    simp [completesOnce_same hhistory hcrashed]
  | sent hset hgone destination =>
    rw [completesOnce_happen hhistory hcrashed, h.concludes_eq hset]
    simp [Happening.isOutcome, Happening.isTold, hgone]
  | cancelled hset hgone =>
    rw [completesOnce_happen hhistory hcrashed]
    simp [Happening.isOutcome, Happening.isTold, hgone]

/-- A step is right exactly when it is orderly. -/
theorem completesOnce_take (h : Inv s) (event : Event Packet) :
    CompletesOnce (s.take isValidResponseTo event) ↔ CompletesOnce s ∧ s.orderly event = true := by
  have hsame : ∀ {s' : Requesting Packet} {ok : Bool}, s'.history = s.history → s'.crashed = s.crashed → ok = true →
      (CompletesOnce s' ↔ CompletesOnce s ∧ ok = true) := by
    intro s' ok hhistory hcrashed hok
    rw [completesOnce_same hhistory hcrashed, and_iff_left hok]
  cases event with
  | handleSTUNPacket packet =>
    apply hsame
    · rw [Requesting.take]
      split
      · rfl
      · rfl
    · rw [Requesting.take]
      split
      · rfl
      · rfl
    · rfl
  | check thread =>
    cases hphase : s.phase thread with
    | _ => exact hsame (by simp [Requesting.take, hphase, enter]) (by simp [Requesting.take, hphase, enter]) rfl
  | call thread =>
    cases hphase : s.phase thread with
    | matched packet delegate =>
      simp only [Requesting.take, orderly, hphase, callDelegate]
      cases delegate with
      | false =>
        constructor
        · intro hdone
          cases hdone.alive
        · rintro ⟨-, hnull⟩
          cases hnull
      | true =>
        simp only [Bool.not_true, Bool.false_eq_true, if_false, Bool.true_and]
        cases hgone : s.gone with
        | true => exact hsame (by rfl) (by rfl) rfl
        | false =>
          simp only [Bool.false_eq_true, if_false, Bool.false_or]
          have hhistory : ((s.enter thread (.called packet)).happen [.response packet]).history =
              s.history ++ [.response packet] := rfl
          rw [completesOnce_happen hhistory rfl, h.running_iff hgone]
          simp [Happening.isOutcome, Happening.isTold]
    | _ =>
      exact hsame (by simp [Requesting.take, hphase]) (by simp [Requesting.take, hphase]) (by simp [orderly, hphase])
  | answer thread accepted =>
    cases hphase : s.phase thread with
    | called packet =>
      simp only [Requesting.take, orderly, hphase]
      cases accepted with
      | false => exact hsame (by rfl) (by rfl) rfl
      | true =>
        simp only [if_true, Bool.not_true, Bool.false_or]
        have hhistory : ((s.enter thread (.responded true)).happen [.accepted packet]).history =
            s.history ++ [.accepted packet] := rfl
        rw [completesOnce_happen hhistory rfl, h.outcome]
        simp [Happening.isOutcome, Happening.isTold]
    | _ =>
      exact hsame (by simp [Requesting.take, hphase]) (by simp [Requesting.take, hphase]) (by simp [orderly, hphase])
  | onTimer timer now =>
    simp only [Requesting.take, fire, orderly]
    split
    next hidle =>
      have hskip : (decide (timer ∈ s.fired) || decide (s.requester.timers ≤ timer)) = true := by simpa using hidle
      exact hsame (by rfl) (by rfl) (by simp [hskip])
    next hfires =>
      have hskip : (decide (timer ∈ s.fired) || decide (s.requester.timers ≤ timer)) = false := by simpa using hfires
      rw [hskip, Bool.false_or]
      exact completesOnce_acts h (acts_onTimer s.requester s.gone timer now) rfl rfl
  | report thread =>
    cases hphase : s.phase thread with
    | expired =>
      simp only [Requesting.take, orderly, hphase, reportTimedOut]
      cases hset : s.requester.mDelegate with
      | false => exact hsame (by rfl) (by rfl) rfl
      | true =>
        cases hgone : s.gone with
        | true => exact hsame (by rfl) (by rfl) rfl
        | false =>
          simp only [Bool.not_false, Bool.and_true, if_true, Bool.not_true, Bool.false_or]
          have hhistory : ((s.enter thread (.timedOut true)).happen [.timedOut]).history =
              s.history ++ [.timedOut] := rfl
          rw [completesOnce_happen hhistory rfl, h.outcome, h.concludes_eq hset]
          simp [Happening.isOutcome, Happening.isTold]
    | _ =>
      exact hsame (by simp [Requesting.take, hphase]) (by simp [Requesting.take, hphase]) (by simp [orderly, hphase])
  | complete thread =>
    cases hphase : s.phase thread with
    | _ => exact hsame (by simp [Requesting.take, hphase, enter]) (by simp [Requesting.take, hphase, enter]) rfl
  | retryRequestNow now =>
    exact completesOnce_acts h (acts_retryRequestNow s.requester s.gone now) rfl rfl
  | cancel =>
    have hcancel : (s.take isValidResponseTo .cancel).history = s.history ++ [Happening.cancelled] := rfl
    rw [completesOnce_happen hcancel rfl]
    simp [Happening.isOutcome, Happening.isTold, orderly]
  | delegateGone => exact hsame (by rfl) (by rfl) rfl

end Invariant

section Runs

open Requesting

variable (isValidResponseTo : Packet → Bool)

/-- What a thread does with a response that the delegate rejects leaves the requester as it was. -/
def Rejects (s : Requesting Packet) : Prop :=
  ∀ thread, (s.take isValidResponseTo (.check thread)).requester = s.requester ∧
    (s.take isValidResponseTo (.call thread)).requester = s.requester ∧
    (s.take isValidResponseTo (.answer thread false)).requester = s.requester

theorem rejects (s : Requesting Packet) : Rejects isValidResponseTo s := by
  intro thread
  cases hphase : s.phase thread with
  | matched packet delegate =>
    refine ⟨by simp [Requesting.take, hphase], ?_, by simp [Requesting.take, hphase]⟩
    simp only [Requesting.take, hphase, callDelegate]
    split
    · rfl
    split
    · rfl
    · rfl
  | _ => simp [Requesting.take, hphase, enter]

theorem inv_create (serverIP maxTimeout now : Nat) : Inv (create serverIP maxTimeout now : Requesting Packet) := by
  refine ⟨rfl, fun _ => ?_, fun hcleared => ?_, by simp [create]⟩
  · simp [create, STUNRequester.step, STUNRequester.newMaxTimeTimer]
  · simp [create, STUNRequester.step, STUNRequester.newMaxTimeTimer, STUNRequester.newTimer] at hcleared

theorem completesOnce_create (serverIP maxTimeout now : Nat) :
    CompletesOnce (create serverIP maxTimeout now : Requesting Packet) := by
  refine ⟨?_, ?_, rfl⟩
  · simp [create, STUNRequester.step, STUNRequester.newMaxTimeTimer, Happening.isOutcome]
  · simp [create, STUNRequester.step, STUNRequester.newMaxTimeTimer]

/-- A request completes at most once in the runs in which nothing comes in between where the lock is not held, and in no
other. -/
theorem completesOnce_iff (serverIP maxTimeout now : Nat) (events : List (Event Packet)) :
    let s := Runs.run (Requesting.take isValidResponseTo) (create serverIP maxTimeout now) events
    CompletesOnce s ∧ Rejects isValidResponseTo s ↔
      Runs.Meets (Requesting.take isValidResponseTo) (fun s event => s.orderly event = true)
        (create serverIP maxTimeout now) events := by
  intro s
  have hiff := @Runs.run_iff_meets _ _ (Requesting.take isValidResponseTo) _ _ Inv
    (fun s event h => completesOnce_take isValidResponseTo h event) (fun s event h => h.take isValidResponseTo event)
    (create serverIP maxTimeout now) events (inv_create serverIP maxTimeout now)
  rw [and_iff_left (rejects isValidResponseTo s), hiff,
    and_iff_right (completesOnce_create serverIP maxTimeout now)]

/-- A response that comes twice is accepted twice; a second one finds no delegate after the first was accepted; and
after a cancellation a response is still reported. -/
theorem completes_twice :
    let run := Runs.run (Requesting.take fun _ : Unit => true) (create 1 0 0)
    (run [.handleSTUNPacket (), .handleSTUNPacket (), .check 0, .check 1, .call 0, .call 1, .answer 0 true,
      .answer 1 true]).history.countP Happening.isOutcome = 2 ∧
    (run [.handleSTUNPacket (), .handleSTUNPacket (), .check 0, .call 0, .answer 0 true, .complete 0, .check 1,
      .call 1]).crashed = true ∧
    (run [.handleSTUNPacket (), .check 0, .cancel, .call 0]).history = [.sent 1, .cancelled, .response ()] := by
  refine ⟨?_, ?_, ?_⟩
  all_goals decide

end Runs

end OpenPeer.STUNRequesterThreads
