import OpenPeer.DNSResults
import OpenPeer.Runs
import OpenPeer.Taking

/-!
# A look-up of a list of names

A list of names is looked up with a query for each. What the queries find is merged, and when
the last query is complete the delegate is told. Before that the records of the SRV result
are sorted, whether there is an SRV result or not.

The queries of a list are numbered. A query is complete after the list was created, for the
message that tells so goes through the queue. The delegate lives.
-/
namespace OpenPeer.DNS

open Taking

inductive LookupKind where
  | a | aaaa | aOrAAAA | srv
  deriving DecidableEq

/-- A list of names that is looked up, and what the query for each has when it is complete. -/
structure ListLookup where
  dnsList : List String
  kind : LookupKind
  results : Nat → Results
  /-- A single name is looked up without a list. -/
  several : 1 < dnsList.length
  /-- A query for addresses has no SRV result, and a query for SRV records nothing else. -/
  ofKind : ∀ query, if kind = .srv then (results query).mA = none ∧ (results query).mAAAA = none
    else (results query).mSRV = none

/-- The merged results are those of the query. -/
structure DNSListQuery extends Results where
  mDelegate : Bool := true
  mQueries : List Nat := []
  /-- What the query had each time the delegate was told. -/
  reports : List Results := []
  /-- A result that is not there was dereferenced. -/
  crashed : Bool := false

/-- A query is complete; the draws are for sorting. -/
structure Completion where
  query : Nat
  draws : Nat → Nat

namespace DNSListQuery

def create (l : ListLookup) : DNSListQuery := { mQueries := List.range l.dnsList.length }

/-- A query of the list is removed, and what it has is merged. -/
def mergeQuery (s : DNSListQuery) (inQuery : Nat) (query : Results) : DNSListQuery :=
  if inQuery ∈ s.mQueries then
    { s with
      mA := mergeInto AResult.merge s.mA query.mA
      mAAAA := mergeInto AResult.merge s.mAAAA query.mAAAA
      mSRV := mergeInto SRVResult.merge s.mSRV query.mSRV
      mQueries := s.mQueries.erase inQuery }
  else s

/-- When no query is left the records are sorted and the delegate is told. -/
def finish (s : DNSListQuery) (draws : Nat → Nat) : DNSListQuery :=
  if 0 < s.mQueries.length then s
  else
    match s.mSRV with
    | none => { s with crashed := true }
    | some srv =>
      let s : DNSListQuery := { s with mSRV := some (sortSRV draws srv) }
      { s with reports := s.reports ++ [s.toResults], mDelegate := false }

def onLookupCompleted (s : DNSListQuery) (inQuery : Nat) (query : Results) (draws : Nat → Nat) : DNSListQuery :=
  if !s.mDelegate then s else (s.mergeQuery inQuery query).finish draws

/-- Nothing is done after a crash. -/
def take (l : ListLookup) (s : DNSListQuery) (completion : Completion) : DNSListQuery :=
  if s.crashed then s
  else s.onLookupCompleted completion.query (l.results completion.query) completion.draws

end DNSListQuery

open DNSListQuery

section Gathering

variable (l : ListLookup)

/-- Some queries are complete. -/
def gathering (done : List Nat) : DNSListQuery :=
  { gather l.results done with mQueries := (List.range l.dnsList.length).filter fun query => query ∉ done }

/-- Every query of the list is complete. -/
def AllComplete (completions : List Completion) : Prop :=
  ∀ query < l.dnsList.length, query ∈ completions.map Completion.query

/-- The queries of the list that are complete, in the order in which they are. -/
def completed (completions : List Completion) : List Nat :=
  firsts (fun query => query < l.dnsList.length) [] (completions.map Completion.query)

variable {l}

variable {done : List Nat}

theorem erase_waiting (n query : Nat) :
    ((List.range n).filter fun other => other ∉ done).erase query =
      (List.range n).filter fun other => other ∉ done ++ [query] := by
  rw [(List.nodup_range.filter _).erase_eq_filter, List.filter_filter]
  apply List.filter_congr
  intro other _
  by_cases hsame : other = query <;> simp [hsame]

theorem mergeQuery_known {query : Nat} (hlt : query < l.dnsList.length) (hnew : query ∉ done) :
    (gathering l done).mergeQuery query (l.results query) = gathering l (done ++ [query]) := by
  have hmem : query ∈ (gathering l done).mQueries := by simp [gathering, hlt, hnew]
  unfold mergeQuery
  rw [if_pos hmem]
  simp only [gathering, erase_waiting, gather_snoc]
  rfl

theorem mergeQuery_unknown {query : Nat} (hknown : query < l.dnsList.length → query ∈ done) :
    (gathering l done).mergeQuery query (l.results query) = gathering l done := by
  apply if_neg
  simp only [gathering, List.mem_filter, List.mem_range, decide_eq_true_eq, not_and, not_not]
  exact hknown

theorem finish_waits (hwaits : ∃ query < l.dnsList.length, query ∉ done) (draws : Nat → Nat) :
    (gathering l done).finish draws = gathering l done := by
  apply if_pos
  rw [List.length_pos_iff_exists_mem]
  simpa [gathering] using hwaits

theorem gathering_take (done : List Nat) (completion : Completion) :
    take l (gathering l done) completion =
      ((gathering l done).mergeQuery completion.query (l.results completion.query)).finish completion.draws := rfl

theorem finish_final (hall : ∀ query < l.dnsList.length, query ∈ done) (draws : Nat → Nat)
    (completion : Completion) :
    take l ((gathering l done).finish draws) completion = (gathering l done).finish draws := by
  have hnone : ¬0 < (gathering l done).mQueries.length := by
    rw [List.length_pos_iff_exists_mem]
    simpa [gathering] using hall
  unfold finish
  rw [if_neg hnone]
  split
  · rfl
  · simp [take, onLookupCompleted]

theorem finish_run (hall : ∀ query < l.dnsList.length, query ∈ done) (draws : Nat → Nat)
    (completions : List Completion) :
    Runs.run (take l) ((gathering l done).finish draws) completions = (gathering l done).finish draws := by
  induction completions with
  | nil => rfl
  | cons completion completions ih => rw [Runs.run_cons, finish_final hall, ih]

/-- What the queries that are complete have is gathered; the last of them finishes. -/
theorem run_gathering (completions : List Completion) (done : List Nat)
    (hwaits : ∃ query < l.dnsList.length, query ∉ done) :
    ∃ draws, Runs.run (take l) (gathering l done) completions =
      (gathering l (done ++ firsts (fun query => query < l.dnsList.length) done
        (completions.map Completion.query))).finish draws := by
  induction completions generalizing done with
  | nil => exact ⟨id, by simp [firsts, finish_waits hwaits]⟩
  | cons completion completions ih =>
    rw [Runs.run_cons, gathering_take, List.map_cons]
    by_cases hnew : completion.query < l.dnsList.length ∧ completion.query ∉ done
    · rw [mergeQuery_known hnew.1 hnew.2, firsts, if_pos (by simpa using hnew)]
      by_cases hstill : ∃ query < l.dnsList.length, query ∉ done ++ [completion.query]
      · obtain ⟨draws, hrun⟩ := ih (done ++ [completion.query]) hstill
        refine ⟨draws, ?_⟩
        rw [finish_waits hstill, hrun, List.append_assoc, List.singleton_append]
      · have hall : ∀ query < l.dnsList.length, query ∈ done ++ [completion.query] := by
          intro query hlt
          by_contra hnot
          exact hstill ⟨query, hlt, hnot⟩
        have hnone : firsts (fun query => query < l.dnsList.length) (done ++ [completion.query])
            (completions.map Completion.query) = [] := by
          apply List.eq_nil_iff_forall_not_mem.mpr
          intro query hmem
          obtain ⟨-, hlt, hnot⟩ := (mem_firsts _ _ _ _).mp hmem
          exact hnot (hall query (of_decide_eq_true hlt))
        refine ⟨completion.draws, ?_⟩
        rw [finish_run hall, hnone]
    · have hknown : completion.query < l.dnsList.length → completion.query ∈ done :=
        fun hlt => by_contra fun hnot => hnew ⟨hlt, hnot⟩
      rw [mergeQuery_unknown hknown, finish_waits hwaits, firsts, if_neg (by simpa using hnew)]
      exact ih done hwaits

end Gathering

section Delivering

variable {l : ListLookup}

/-- What is promised of the look-up of a list. -/
structure Delivers (l : ListLookup) (completions : List Completion) (s : DNSListQuery) : Prop where
  /-- The delegate is told once, when every query is complete. -/
  once : (AllComplete l completions → s.reports.length = 1) ∧ (¬AllComplete l completions → s.reports = [])
  success : ∀ report ∈ s.reports, report.hasResult = true ↔
    ∃ query < l.dnsList.length, (l.results query).hasResult = true
  a : ∀ report ∈ s.reports, report.a.Perm ((List.range l.dnsList.length).flatMap fun query => (l.results query).a)
  aaaa : ∀ report ∈ s.reports,
    report.aaaa.Perm ((List.range l.dnsList.length).flatMap fun query => (l.results query).aaaa)
  srv : ∀ report ∈ s.reports,
    report.srv.Perm ((List.range l.dnsList.length).flatMap fun query => (l.results query).srv)
  notCrashed : s.crashed = false

theorem allComplete_iff (completions : List Completion) :
    AllComplete l completions ↔ ∀ query < l.dnsList.length, query ∈ completed l completions := by
  apply forall₂_congr
  intro query hlt
  simp [completed, mem_firsts, hlt]

variable {completions : List Completion}

theorem completed_perm (hall : AllComplete l completions) :
    (completed l completions).Perm (List.range l.dnsList.length) := by
  apply (List.perm_ext_iff_of_nodup (nodup_firsts _ _ _) List.nodup_range).mpr
  intro query
  constructor
  · intro hmem
    have hlt := ((mem_firsts _ _ _ _).mp hmem).2.1
    simpa using hlt
  · intro hmem
    exact (allComplete_iff completions).mp hall query (List.mem_range.mp hmem)

theorem mSRV_iff (done : List Nat) :
    (gather l.results done).mSRV.isSome = true ↔
      l.kind = .srv ∧ ∃ query ∈ done, (l.results query).hasResult = true := by
  rw [isSome_gather_mSRV, List.any_eq_true]
  by_cases hkind : l.kind = .srv
  · rw [and_iff_right hkind]
    apply exists_congr
    intro query
    have hother := l.ofKind query
    rw [if_pos hkind] at hother
    simp [Results.hasResult, hother]
  · constructor
    · rintro ⟨query, -, hsome⟩
      have hother := l.ofKind query
      rw [if_neg hkind] at hother
      simp [hother] at hsome
    · exact fun h => absurd h.1 hkind

theorem delivers_waiting (hwaits : ¬AllComplete l completions) :
    Delivers l completions (gathering l (completed l completions)) where
  once := ⟨fun hall => absurd hall hwaits, fun _ => rfl⟩
  success report hmem := by cases hmem
  a report hmem := by cases hmem
  aaaa report hmem := by cases hmem
  srv report hmem := by cases hmem
  notCrashed := rfl

theorem finish_eq {done : List Nat} (hall : ∀ query < l.dnsList.length, query ∈ done) (draws : Nat → Nat) :
    (gathering l done).finish draws =
      match (gather l.results done).mSRV with
      | none => { gathering l done with crashed := true }
      | some srv =>
        { gathering l done with
          mSRV := some (sortSRV draws srv)
          mDelegate := false
          reports := [{ gather l.results done with mSRV := some (sortSRV draws srv) }] } := by
  have hnone : ¬0 < (gathering l done).mQueries.length := by
    rw [List.length_pos_iff_exists_mem]
    simpa [gathering] using hall
  unfold finish
  rw [if_neg hnone]
  rfl

theorem delivers_finished (hall : AllComplete l completions) (draws : Nat → Nat) {srv : SRVResult}
    (hsrv : (gather l.results (completed l completions)).mSRV = some srv) :
    Delivers l completions ((gathering l (completed l completions)).finish draws) := by
  have hperm := completed_perm hall
  have hdone := (allComplete_iff completions).mp hall
  rw [finish_eq hdone, hsrv]
  refine ⟨⟨fun _ => rfl, fun hnot => absurd hall hnot⟩, ?_, ?_, ?_, ?_, rfl⟩
  · intro report hmem
    rw [List.mem_singleton.mp hmem]
    have hresult : (gather l.results (completed l completions)).hasResult = true := by
      simp [Results.hasResult, hsrv]
    rw [hasResult_gather, List.any_eq_true] at hresult
    obtain ⟨query, hquery, hhas⟩ := hresult
    have hlt : query < l.dnsList.length := List.mem_range.mp (hperm.mem_iff.mp hquery)
    have hreport : Results.hasResult { gather l.results (completed l completions) with
        mSRV := some (sortSRV draws srv) } = true := by simp [Results.hasResult]
    exact iff_of_true hreport ⟨query, hlt, hhas⟩
  · intro report hmem
    rw [List.mem_singleton.mp hmem]
    exact (gather_a l.results _).symm ▸ hperm.flatMap_right _
  · intro report hmem
    rw [List.mem_singleton.mp hmem]
    exact (gather_aaaa l.results _).symm ▸ hperm.flatMap_right _
  · intro report hmem
    rw [List.mem_singleton.mp hmem]
    have hsame : (gather l.results (completed l completions)).srv = srv.mRecords := by
      simp [Results.srv, itemsOf, hsrv]
    have hgathered := gather_srv l.results (completed l completions)
    rw [hsame] at hgathered
    exact (sortSRV_perm draws srv).trans (hgathered ▸ hperm.flatMap_right _)

end Delivering

/-- All answers are merged and the delegate is told once, exactly when the list is an SRV look-up of which one query
succeeded, or some query is not complete yet. -/
theorem merges_every_answer_iff (l : ListLookup) (completions : List Completion) :
    Delivers l completions (Runs.run (take l) (create l) completions) ↔
      (AllComplete l completions →
        l.kind = .srv ∧ ∃ query < l.dnsList.length, (l.results query).hasResult = true) := by
  have hfirst : ∃ query < l.dnsList.length, query ∉ ([] : List Nat) :=
    ⟨0, Nat.lt_trans Nat.zero_lt_one l.several, List.not_mem_nil⟩
  have hcreate : create l = gathering l [] := by simp [create, gathering, gather]
  obtain ⟨draws, hrun⟩ := run_gathering completions [] hfirst
  have hrun : Runs.run (take l) (create l) completions = (gathering l (completed l completions)).finish draws :=
    hcreate ▸ hrun
  rw [hrun]
  by_cases hall : AllComplete l completions
  · have hperm := completed_perm hall
    have hsome : (gather l.results (completed l completions)).mSRV.isSome = true ↔
        l.kind = .srv ∧ ∃ query < l.dnsList.length, (l.results query).hasResult = true := by
      rw [mSRV_iff]
      apply and_congr_right
      intro _
      simp [hperm.mem_iff]
    rw [← hsome, forall_prop_of_true hall]
    cases hsrv : (gather l.results (completed l completions)).mSRV with
    | none =>
      rw [finish_eq ((allComplete_iff completions).mp hall), hsrv]
      simp only [Option.isSome_none, Bool.false_eq_true, iff_false]
      intro h
      cases h.notCrashed
    | some srv => exact iff_of_true (delivers_finished hall draws hsrv) rfl
  · have hwaits : ∃ query < l.dnsList.length, query ∉ completed l completions := by
      by_contra hnot
      apply hall
      rw [allComplete_iff]
      intro query hlt
      by_contra hmem
      exact hnot ⟨query, hlt, hmem⟩
    rw [finish_waits hwaits]
    exact iff_of_true (delivers_waiting hall) fun h => absurd h hall

/-- Two names of which the addresses are looked up. -/
def twoNames : ListLookup where
  dnsList := ["first", "second"]
  kind := .a
  results _ := { mA := some { mIPAddresses := [⟨1, 0⟩] } }
  several := by decide
  ofKind _ := rfl

/-- Both addresses are found, and the SRV result that is not there is sorted. -/
theorem addresses_crash :
    let completions : List Completion := [⟨0, id⟩, ⟨1, id⟩]
    (Runs.run (take twoNames) (create twoNames) completions).crashed = true ∧
      ¬Delivers twoNames completions (Runs.run (take twoNames) (create twoNames) completions) := by
  intro completions
  have hcrashed : (Runs.run (take twoNames) (create twoNames) completions).crashed = true := by decide +kernel
  refine ⟨hcrashed, fun h => ?_⟩
  rw [h.notCrashed] at hcrashed
  cases hcrashed

end OpenPeer.DNS
