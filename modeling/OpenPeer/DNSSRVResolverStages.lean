import Mathlib.Data.List.TakeWhile
import OpenPeer.DNSSRVResolverPromise

/-!
# The stages of the SRV resolver

The SRV records are looked up, and then the names of the records or the name itself. While
the names of the records are looked up each record keeps its place, and its look-up is in
flight exactly as long as the place waits.
-/
namespace OpenPeer.DNS

open DNSSRVResolverQuery
open Places

section Stages

variable (lookup : Lookup) (s : DNSSRVResolverQuery)

/-- The SRV records are looked up. -/
structure Asking : Prop where
  delegate : s.mDelegate = true
  backup : s.mBackupLookup = false
  result : s.mSRVResult = none
  resolvers : s.mResolvers = []
  inFlight : s.inFlight = [.srv]
  answers : s.answers = []
  happenings : s.happenings = []

/-- There are no SRV records, and the addresses of the name are looked up. -/
structure FallingBack (kind : LookupKind) (results : Results) : Prop where
  created : s.mSRVLookup = true
  delegate : s.mDelegate = true
  backup : s.mBackupLookup = true
  result : s.mSRVResult = none
  resolvers : s.mResolvers = []
  inFlight : s.inFlight = [.backup]
  answers : s.answers = [(.srv, results)]
  happenings : s.happenings = [.lookedUp .backup kind lookup.mOriginalName]
  unanswered : results.mSRV = none
  kind : lookup.backupKind = some kind

/-- The names of the records are looked up, and the records keep their places. -/
structure Resolving (answer : SRVResult) (records : List SRVRecord) : Prop where
  created : s.mSRVLookup = true
  delegate : s.mDelegate = true
  backup : s.mBackupLookup = false
  result : s.mSRVResult = some { answer with mRecords := records }
  answered : ∃ results, results.mSRV = some answer ∧ ∀ results', (.srv, results') ∈ s.answers ↔ results' = results
  placed : Placed Query.resolver (Resolved lookup s answer.mTTL) answer.mRecords records s.mResolvers
  asked : ∀ query, some query ∈ s.mResolvers →
    ∃ i record, answer.mRecords[i]? = some record ∧ lookup.convert record.mName record.mPort = none ∧
      query = .resolver i
  waits : ∀ query, query ∈ s.inFlight ↔ some query ∈ s.mResolvers
  nodup : s.inFlight.Nodup
  happenings : s.happenings = lookup.lookUps answer.mTTL answer.mRecords

/-- The delegate was told. -/
structure Finished (result : Option SRVResult) : Prop where
  created : s.mSRVLookup = true
  inFlight : s.inFlight = []
  intact : ∀ happening ∈ s.happenings, happening.throws = false
  reports : s.reports = [result]
  kept : ∀ kept, result = some kept → Kept lookup s kept
  failed : result = none → ∀ results, (.srv, results) ∈ s.answers → results.mSRV = none

inductive Stage : Prop where
  | asking (h : Asking s)
  | fallingBack (kind : LookupKind) (results : Results) (h : FallingBack lookup s kind results)
  | resolving (answer : SRVResult) (records : List SRVRecord) (h : Resolving lookup s answer records)
      (hmore : s.inFlight ≠ [])
  | finished (result : Option SRVResult) (h : Finished lookup s result)

/-- It is at a stage, or it was cancelled when it was. -/
inductive Detailed : Prop where
  | going (hgoing : s.cancelledAfter = none) (h : Stage lookup s)
  | cancelled (t : DNSSRVResolverQuery) (hgoing : t.cancelledAfter = none) (hcreated : t.mSRVLookup = true)
      (h : Stage lookup t) (hcancel : s = t.cancel)

variable {lookup s}

theorem lookUps_throws (ttl : Nat) (records : List SRVRecord) :
    ∀ happening ∈ lookup.lookUps ttl records, happening.throws = false := by
  intro happening hmem
  obtain ⟨i, record, -, -, rfl⟩ := (mem_lookUps lookup ttl records happening).mp hmem
  rfl

theorem lookUps_reports (ttl : Nat) (records : List SRVRecord) :
    (lookup.lookUps ttl records).filterMap Happening.report? = [] := by
  rw [List.filterMap_eq_nil_iff]
  intro happening hmem
  obtain ⟨i, record, -, -, rfl⟩ := (mem_lookUps lookup ttl records happening).mp hmem
  rfl

theorem Stage.intact (h : Stage lookup s) : ∀ happening ∈ s.happenings, happening.throws = false := by
  cases h with
  | asking h => simp [h.happenings]
  | fallingBack kind results h => simp [h.happenings, Happening.throws]
  | resolving answer records h hmore =>
    rw [h.happenings]
    exact lookUps_throws answer.mTTL answer.mRecords
  | finished result h => exact h.intact

theorem Stage.delegate (h : Stage lookup s) (hmore : s.inFlight ≠ []) : s.mDelegate = true := by
  cases h with
  | asking h => exact h.delegate
  | fallingBack kind results h => exact h.delegate
  | resolving answer records h hmore => exact h.delegate
  | finished result h => exact absurd h.inFlight hmore

theorem Stage.reports_of_waits (h : Stage lookup s) (hmore : s.inFlight ≠ []) : s.reports = [] := by
  cases h with
  | asking h => simp [reports, h.happenings]
  | fallingBack kind results h => simp [reports, h.happenings, Happening.report?]
  | resolving answer records h hmore =>
    rw [reports, h.happenings]
    exact lookUps_reports answer.mTTL answer.mRecords
  | finished result h => exact absurd h.inFlight hmore

theorem Stage.finished_of_done (h : Stage lookup s) (hdone : s.inFlight = []) : ∃ result, Finished lookup s result := by
  cases h with
  | asking h => simp [h.inFlight] at hdone
  | fallingBack kind results h => simp [h.inFlight] at hdone
  | resolving answer records h hmore => exact absurd hdone hmore
  | finished result h => exact ⟨result, h⟩

theorem Stage.keep (h : Stage lookup s) : Stage lookup { s with mSRVLookup := true } := by
  have hsame : s.mSRVLookup = true → { s with mSRVLookup := true } = s := by
    intro hcreated
    rw [← hcreated]
  cases h with
  | asking h => exact .asking { h with }
  | fallingBack kind results h =>
    rw [hsame h.created]
    exact .fallingBack kind results h
  | resolving answer records h hmore =>
    rw [hsame h.created]
    exact .resolving answer records h hmore
  | finished result h =>
    rw [hsame h.created]
    exact .finished result h

variable {t : DNSSRVResolverQuery}

/-- There may be more answers, and nothing more was looked up. -/
structure MoreAnswers (s t : DNSSRVResolverQuery) : Prop where
  answers : ∀ answer ∈ s.answers, answer ∈ t.answers
  lookedUp : ∀ query kind name,
    .lookedUp query kind name ∈ t.happenings ↔ .lookedUp query kind name ∈ s.happenings

theorem Resolved.mono {ttl place : Nat} {record resolved : SRVRecord} (h : Resolved lookup s ttl place record resolved)
    (hmore : MoreAnswers s t) : Resolved lookup t ttl place record resolved := by
  unfold Resolved at h ⊢
  cases hip : lookup.convert record.mName record.mPort with
  | some ip => simpa [hip] using h
  | none =>
    simp only [hip] at h ⊢
    obtain ⟨honly, results, hresults, hresolved⟩ := h
    constructor
    · intro kind name
      rw [hmore.lookedUp, honly]
    · exact ⟨results, hmore.answers _ hresults, hresolved⟩

theorem OfAnswer.mono {answer result : SRVResult} (h : OfAnswer lookup s answer result) (hmore : MoreAnswers s t) :
    OfAnswer lookup t answer result where
  __ := h
  record := by
    intro place record hrecord
    obtain ⟨resolved, hplace, hresolved⟩ := h.record place record hrecord
    exact ⟨resolved, hplace, hresolved.mono hmore⟩

theorem Kept.cancel {result : SRVResult} (h : Kept lookup s result) : Kept lookup s.cancel result where
  answered results answer hresults hanswer :=
    (h.answered results answer hresults hanswer).mono ⟨fun _ hmem => hmem, fun _ _ _ => Iff.rfl⟩
  unanswered := h.unanswered

end Stages

section Steps

variable {lookup : Lookup} {s : DNSSRVResolverQuery}

theorem reports_reported {happenings : List Happening} {result : Option SRVResult}
    (hnone : happenings.filterMap Happening.report? = []) :
    (happenings ++ [Happening.reported result]).filterMap Happening.report? = [result] := by
  simp [hnone, Happening.report?]

theorem intact_reported {happenings : List Happening} (hintact : ∀ happening ∈ happenings, happening.throws = false)
    (result : Option SRVResult) : ∀ happening ∈ happenings ++ [.reported result], happening.throws = false := by
  intro happening hmem
  obtain hmem | hlast := List.mem_append.mp hmem
  · exact hintact happening hmem
  · rw [List.mem_singleton.mp hlast]
    rfl

variable {answer : SRVResult} {records : List SRVRecord}

/-- The delegate is told when no place waits any more. -/
theorem Resolving.report_stage (h : Resolving lookup s answer records) : Stage lookup s.report := by
  by_cases hmore : s.inFlight = []
  · have hnone : ∀ query, some query ∉ s.mResolvers := by
      intro query
      rw [← h.waits, hmore]
      exact List.not_mem_nil
    have hall : s.mResolvers.all Option.isNone = true := by
      rw [List.all_eq_true]
      intro waits hmem
      cases waits with
      | none => rfl
      | some query => exact absurd hmem (hnone query)
    have hcomplete : s.isComplete = true := by
      simp [isComplete, isCompleted, hall, h.backup, hmore]
    rw [report_complete hcomplete h.delegate]
    obtain ⟨results, hanswer, hresults⟩ := h.answered
    refine .finished s.mSRVResult ⟨h.created, hmore, ?_, ?_, ?_, ?_⟩
    · apply intact_reported
      rw [h.happenings]
      exact lookUps_throws answer.mTTL answer.mRecords
    · apply reports_reported
      rw [h.happenings]
      exact lookUps_reports answer.mTTL answer.mRecords
    · intro kept hkept
      obtain rfl := Option.some.inj (h.result.symm.trans hkept)
      constructor
      · intro results' answer' hresults' hanswer'
        obtain rfl := (hresults results').mp hresults'
        obtain rfl := Option.some.inj (hanswer.symm.trans hanswer')
        refine ⟨rfl, h.placed.items_length, ?_⟩
        intro place record hrecord
        obtain ⟨resolved, hplace, hresolved⟩ := h.placed.complete hnone place record hrecord
        refine ⟨resolved, hplace, hresolved.mono ⟨fun _ hmem => hmem, ?_⟩⟩
        simp [happen]
      · intro hunanswered
        have hnot := hunanswered results ((hresults results).mpr rfl)
        rw [hanswer] at hnot
        cases hnot
    · intro hfail
      rw [h.result] at hfail
      cases hfail
  · have hwaits : s.isComplete = false := by
      obtain ⟨query, hquery⟩ := List.exists_mem_of_ne_nil _ hmore
      have hsome := (h.waits query).mp hquery
      have hnot : s.mResolvers.all Option.isNone = false := by
        rw [List.all_eq_false]
        exact ⟨some query, hsome, by simp⟩
      simp [isComplete, hnot]
    rw [report_waits hwaits]
    exact .resolving answer records h hmore

variable {results : Results}

/-- The records keep their places when their look-ups are started. -/
theorem Asking.startResolvers (h : Asking s) (hcreated : s.mSRVLookup = true)
    (hanswer : results.mSRV = some answer) (hnames : answer.mRecords.all lookup.hasName = true) :
    ∃ records, Resolving lookup ((s.handled .srv results).startResolvers lookup answer) answer records := by
  have hnamed : answer.mRecords.takeWhile lookup.hasName = answer.mRecords := by
    rw [List.takeWhile_eq_self_iff]
    exact List.all_eq_true.mp hnames
  have hresolvers : ((s.handled .srv results).startResolvers lookup answer).mResolvers =
      (lookup.resolveAll answer.mTTL 0 answer.mRecords).map Prod.snd := by
    simp [DNSSRVResolverQuery.startResolvers, handled, h.resolvers, hnamed]
  refine ⟨(lookup.resolveAll answer.mTTL 0 answer.mRecords).map Prod.fst, ?_⟩
  constructor
  · exact hcreated
  · exact h.delegate
  · exact h.backup
  · simp [DNSSRVResolverQuery.startResolvers, hnamed]
  · refine ⟨results, hanswer, ?_⟩
    intro results'
    simp [DNSSRVResolverQuery.startResolvers, handled, h.answers]
  · constructor
    · simp
    · simp [hresolvers]
    · intro place record hrecord
      rw [hresolvers]
      simp only [List.getElem?_map, getElem?_resolveAll, hrecord, Option.map_some, Nat.zero_add]
      cases hip : lookup.convert record.mName record.mPort with
      | none =>
        left
        simp [resolve_name lookup answer.mTTL place hip]
      | some ip =>
        right
        rw [resolve_address lookup answer.mTTL place hip]
        refine ⟨rfl, _, rfl, ?_⟩
        simp [Resolved, hip]
  · intro query
    simp only [hresolvers, mem_resolvers]
    exact id
  · intro query
    rw [hresolvers]
    simp [DNSSRVResolverQuery.startResolvers, handled, h.inFlight, hnamed]
  · simpa [DNSSRVResolverQuery.startResolvers, handled, h.inFlight, hnamed] using
      started_nodup lookup answer.mTTL 0 answer.mRecords
  · simp [DNSSRVResolverQuery.startResolvers, handled, h.happenings, hnamed, Lookup.lookUps]

theorem Asking.completed (h : Asking s) (hcreated : s.mSRVLookup = true) (results : Results)
    (hnames : ∀ answer, results.mSRV = some answer → answer.mRecords.all lookup.hasName = true) :
    Stage lookup ((s.handled .srv results).onLookupCompleted lookup .srv results) := by
  have hsrv : (s.handled .srv results).onLookupCompleted lookup .srv results =
      (s.handled .srv results).handleSRVCompleted lookup results := by
    simp [DNSSRVResolverQuery.onLookupCompleted, handled, hcreated]
  rw [hsrv, handleSRVCompleted]
  cases hanswer : results.mSRV with
  | some answer =>
    obtain ⟨records, hstarted⟩ := h.startResolvers hcreated hanswer (hnames answer hanswer)
    simpa [hnames answer hanswer] using hstarted.report_stage
  | none =>
    cases hkind : lookup.backupKind with
    | some kind =>
      refine .fallingBack kind results ?_
      constructor <;> simp [handled, happen, h.delegate, h.result, h.resolvers, h.inFlight, h.answers, h.happenings,
        hcreated, hanswer, hkind]
    | none =>
      have hcomplete : (s.handled .srv results).isComplete = true := by
        simp [isComplete, isCompleted, handled, h.resolvers, h.backup, h.inFlight]
      have hreport := report_complete hcomplete h.delegate
      refine .finished none ?_
      dsimp only
      rw [hreport]
      constructor <;> simp [handled, happen, reports, h.result, h.inFlight, h.answers, h.happenings, hcreated, hanswer,
        Happening.throws, Happening.report?]

theorem FallingBack.completed {kind : LookupKind} {srvLookup : Results} (h : FallingBack lookup s kind srvLookup)
    (results : Results) :
    Stage lookup ((s.handled .backup results).onLookupCompleted lookup .backup results) := by
  have hbackup : (s.handled .backup results).onLookupCompleted lookup .backup results =
      (s.handled .backup results).handleBackupCompleted lookup results := by
    simp [DNSSRVResolverQuery.onLookupCompleted, handled, h.backup]
  have hcomplete : (s.handled .backup results).isComplete = true := by
    simp [isComplete, isCompleted, handled, h.resolvers, h.backup, h.inFlight]
  rw [hbackup, handleBackupCompleted]
  cases results.hasResult with
  | true =>
    let s' : DNSSRVResolverQuery :=
      { s.handled .backup results with mSRVResult := some (lookup.backupResult results) }
    have hreport : s'.report = _ := report_complete hcomplete h.delegate
    refine .finished (some (lookup.backupResult results)) ?_
    rw [if_pos rfl, hreport]
    constructor
    · exact h.created
    · simp [s', handled, happen, h.inFlight]
    · simp [s', handled, happen, h.happenings, Happening.throws]
    · simp only [s', handled, happen, reports, h.happenings]
      rfl
    · rintro _ ⟨⟩
      constructor
      · intro results' answer hresults hanswer
        simp [s', handled, happen, h.answers] at hresults
        rw [hresults, h.unanswered] at hanswer
        cases hanswer
      · intro hnone
        exact ⟨kind, results, h.kind, by simp [s', handled, happen, h.happenings], by simp [s', handled, happen], rfl⟩
    · rintro ⟨⟩
  | false =>
    have hreport := report_complete hcomplete h.delegate
    refine .finished none ?_
    rw [if_neg Bool.false_ne_true, hreport]
    constructor <;> simp [handled, happen, reports, h.created, h.result, h.inFlight, h.answers, h.happenings,
      h.unanswered, Happening.throws]
    rfl

variable {query : Query}

/-- The record at the place of a completion gets what was found for its name. -/
theorem Resolving.completed (h : Resolving lookup s answer records) (hflight : query ∈ s.inFlight)
    (results : Results) : Stage lookup ((s.handled query results).onLookupCompleted lookup query results) := by
  have hmem := (h.waits query).mp hflight
  obtain ⟨place, hplace, hlt, hfound⟩ := h.placed.find_key resolver_injective hmem
  subst hplace
  obtain ⟨i, record, hrecord, hname, hsame⟩ := h.asked _ hmem
  obtain rfl := resolver_injective hsame
  have hwaits : s.mResolvers[place]? = some (some (.resolver place)) := by
    obtain ⟨j, hj⟩ := List.mem_iff_getElem?.mp hmem
    have hj' := resolver_injective (h.placed.key_eq hj).1
    rwa [← hj'] at hj
  let s' : DNSSRVResolverQuery :=
    { s.handled (.resolver place) results with
      mSRVResult := some { answer with mRecords := records.modify place (SRVRecord.resolved results) }
      mResolvers := s.mResolvers.set place none }
  have hstep : (s.handled (.resolver place) results).onLookupCompleted lookup (.resolver place) results =
      s'.report := by
    simp [DNSSRVResolverQuery.onLookupCompleted, handleResolverCompleted, handled, h.result, hfound, s']
  have hnext : Resolving lookup s' answer (records.modify place (SRVRecord.resolved results)) := by
    constructor
    · exact h.created
    · exact h.delegate
    · exact h.backup
    · rfl
    · obtain ⟨results', hanswer, hresults⟩ := h.answered
      refine ⟨results', hanswer, ?_⟩
      intro results''
      simp [s', handled, hresults]
    · have hplaced : Placed Query.resolver (Resolved lookup s' answer.mTTL) answer.mRecords records s.mResolvers := by
        apply h.placed.mono
        intro j first item hresolved
        exact hresolved.mono ⟨fun _ hmem => List.mem_append_left _ hmem, fun _ _ _ => Iff.rfl⟩
      apply hplaced.fill place _ hwaits
      intro first hfirst
      obtain rfl := Option.some.inj (hrecord.symm.trans hfirst)
      simp only [Resolved, hname]
      refine ⟨?_, results, by simp [s', handled], rfl⟩
      intro kind name
      simp only [s', handled, h.happenings, mem_lookUps]
      constructor
      · rintro ⟨j, record', hrecord', -, hsame⟩
        cases hsame
        obtain rfl := Option.some.inj (hrecord.symm.trans hrecord')
        exact ⟨rfl, rfl⟩
      · rintro ⟨rfl, rfl⟩
        exact ⟨place, record, hrecord, hname, rfl⟩
    · intro query hquery
      exact h.asked query ((h.placed.mem_fill resolver_injective hwaits query).mp hquery).1
    · intro query
      change query ∈ s.inFlight.erase _ ↔ some query ∈ s.mResolvers.set place none
      rw [h.placed.mem_fill resolver_injective hwaits, h.nodup.mem_erase_iff, h.waits, and_comm]
    · exact h.nodup.erase _
    · exact h.happenings
  rw [hstep]
  exact hnext.report_stage

theorem Stage.completed (h : Stage lookup s) (hflight : query ∈ s.inFlight) (hcreated : s.mSRVLookup = true)
    (hnames : query = .srv → ∀ answer, results.mSRV = some answer → answer.mRecords.all lookup.hasName = true) :
    Stage lookup ((s.handled query results).onLookupCompleted lookup query results) := by
  cases h with
  | asking h =>
    rw [h.inFlight, List.mem_singleton] at hflight
    subst hflight
    exact h.completed hcreated results (hnames rfl)
  | fallingBack kind srvLookup h =>
    rw [h.inFlight, List.mem_singleton] at hflight
    subst hflight
    exact h.completed results
  | resolving answer records h hmore => exact h.completed hflight results
  | finished result h =>
    rw [h.inFlight] at hflight
    cases hflight

end Steps

end OpenPeer.DNS
