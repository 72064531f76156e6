import OpenPeer.DNSSRVResolverRecords

/-!
# What is promised of the SRV resolver

The resolver tells its delegate once, when no look-up that it started is left, and nothing
happens after it was cancelled. The result has the records of the answer, each at its place
with what was found for its own name. A completion that is handled after it was cancelled
makes something happen all the same.
-/
namespace OpenPeer.DNS

open DNSSRVResolverQuery
open Places

/-- What the result was each time the delegate was told. -/
def Happening.report? : Happening → Option (Option SRVResult)
  | .reported result => some result
  | _ => none

def DNSSRVResolverQuery.reports (s : DNSSRVResolverQuery) : List (Option SRVResult) :=
  s.happenings.filterMap Happening.report?

section Promise

variable (lookup : Lookup) (s : DNSSRVResolverQuery)

/-- A record has the address that is its name, or what the one look-up for its place found, which is one of its name. -/
def Resolved (ttl place : Nat) (record resolved : SRVRecord) : Prop :=
  match lookup.convert record.mName record.mPort with
  | some ip => resolved = lookup.instantRecord ttl record ip
  | none =>
    (∀ kind name, .lookedUp (.resolver place) kind name ∈ s.happenings ↔
      kind = lookup.recordKind ∧ name = record.mName) ∧
    ∃ results, (.resolver place, results) ∈ s.answers ∧ resolved = record.resolved results

/-- A result is an SRV answer all of whose records are resolved at their places. -/
structure OfAnswer (answer result : SRVResult) : Prop where
  same : result = { answer with mRecords := result.mRecords }
  length : result.mRecords.length = answer.mRecords.length
  record : ∀ (place : Nat) (record : SRVRecord), answer.mRecords[place]? = some record →
    ∃ resolved, result.mRecords[place]? = some resolved ∧ Resolved lookup s answer.mTTL place record resolved

/-- A result is made of what the look-up of the name itself found. -/
def OfBackup (result : SRVResult) : Prop :=
  ∃ kind results, lookup.backupKind = some kind ∧ .lookedUp .backup kind lookup.mOriginalName ∈ s.happenings ∧
    (.backup, results) ∈ s.answers ∧ result = lookup.backupResult results

/-- The SRV answer decides what a result is. -/
structure Kept (result : SRVResult) : Prop where
  answered : ∀ results answer, (.srv, results) ∈ s.answers → results.mSRV = some answer →
    OfAnswer lookup s answer result
  unanswered : (∀ results, (.srv, results) ∈ s.answers → results.mSRV = none) → OfBackup lookup s result

/-- There was no throw, and nothing happened after it was cancelled. -/
structure Sound : Prop where
  intact : ∀ happening ∈ s.happenings, happening.throws = false
  quiet : ∀ n, s.cancelledAfter = some n → s.happenings.length ≤ n

/-- What the delegate is told. -/
structure Told : Prop where
  atMostOnce : s.reports.length ≤ 1
  afterAll : s.reports ≠ [] → s.inFlight = []
  kept : ∀ result, some result ∈ s.reports → Kept lookup s result
  /-- It fails only when the SRV look-up did. -/
  failed : none ∈ s.reports → ∀ results, (.srv, results) ∈ s.answers → results.mSRV = none

/-- What is promised of the resolver. -/
structure Resolves : Prop extends Sound s, Told lookup s where
  /-- Unless it is cancelled it tells the delegate when no look-up is left. -/
  once : s.cancelledAfter = none → s.inFlight = [] → s.reports.length = 1

/-- A completion is handled when the SRV look-up is kept and not cancelled, and the records of an answer have names. -/
def InTime : Event → Prop
  | .onLookupCompleted query results => query ∈ s.inFlight →
    s.mSRVLookup = true ∧ s.cancelledAfter = none ∧
      (query = .srv → ∀ answer, results.mSRV = some answer → answer.mRecords.all lookup.hasName = true)
  | _ => True

end Promise

section Growing

variable (lookup : Lookup) (s : DNSSRVResolverQuery)

/-- What happened before stays, and so does what was cancelled. -/
structure Grows (s t : DNSSRVResolverQuery) : Prop where
  happenings : ∃ more, t.happenings = s.happenings ++ more
  cancelledAfter : t.cancelledAfter = s.cancelledAfter

variable {s} {t u : DNSSRVResolverQuery}

theorem Grows.of_same (hhappenings : t.happenings = s.happenings) (hcancelled : t.cancelledAfter = s.cancelledAfter) :
    Grows s t where
  happenings := ⟨[], by rw [hhappenings, List.append_nil]⟩
  cancelledAfter := hcancelled

theorem Grows.trans (h : Grows s t) (h' : Grows t u) : Grows s u := by
  obtain ⟨more, hmore⟩ := h.happenings
  obtain ⟨more', hmore'⟩ := h'.happenings
  constructor
  · exact ⟨more ++ more', by rw [hmore', hmore, List.append_assoc]⟩
  · rw [h'.cancelledAfter, h.cancelledAfter]

theorem Grows.sound (h : Grows s t) (hsound : Sound t) : Sound s := by
  obtain ⟨more, hmore⟩ := h.happenings
  constructor
  · intro happening hmem
    exact hsound.intact happening (hmore ▸ List.mem_append_left more hmem)
  · intro n hn
    have hle := hsound.quiet n (h.cancelledAfter.trans hn)
    rw [hmore, List.length_append] at hle
    omega

variable (s)

theorem grows_happen (happening : Happening) : Grows s (s.happen happening) := ⟨⟨[happening], rfl⟩, rfl⟩

theorem report_waits {s : DNSSRVResolverQuery} (hwaits : s.isComplete = false) : s.report = s := by
  simp [report, hwaits]

theorem report_complete {s : DNSSRVResolverQuery} (hcomplete : s.isComplete = true) (hdelegate : s.mDelegate = true) :
    s.report = { s.happen (.reported s.mSRVResult) with mResolvers := [], mDelegate := false } := by
  simp [report, hcomplete, hdelegate]

theorem grows_report : Grows s s.report := by
  by_cases htold : s.isComplete = true ∧ s.mDelegate = true
  · rw [report_complete htold.1 htold.2]
    exact ⟨⟨[.reported s.mSRVResult], rfl⟩, rfl⟩
  · have hsame : s.report = s := by
      cases hcomplete : s.isComplete <;> cases hdelegate : s.mDelegate <;> simp_all [report]
    rw [hsame]
    exact Grows.of_same rfl rfl

theorem grows_handleSRVCompleted (srvLookup : Results) : Grows s (s.handleSRVCompleted lookup srvLookup) := by
  unfold handleSRVCompleted
  cases hsrv : srvLookup.mSRV with
  | some answer =>
    have hstart : Grows s (s.startResolvers lookup answer) := ⟨⟨_, rfl⟩, rfl⟩
    by_cases hnames : answer.mRecords.all lookup.hasName
    · simpa [hnames] using hstart.trans (grows_report _)
    · simpa [hnames] using hstart.trans (grows_happen _ _)
  | none =>
    cases lookup.backupKind with
    | some kind => exact ⟨⟨_, rfl⟩, rfl⟩
    | none => exact grows_report s

theorem grows_handleBackupCompleted (backupLookup : Results) :
    Grows s (s.handleBackupCompleted lookup backupLookup) := by
  have hfake : Grows s (if backupLookup.hasResult then
      { s with mSRVResult := some (lookup.backupResult backupLookup) } else s) := by
    cases backupLookup.hasResult <;> exact Grows.of_same rfl rfl
  exact hfake.trans (grows_report _)

theorem grows_handleResolverCompleted (query : Query) (results : Results) :
    Grows s (s.handleResolverCompleted query results) := by
  unfold handleResolverCompleted
  cases s.mSRVResult with
  | none => exact grows_happen s _
  | some result =>
    cases hfound : find query result.mRecords s.mResolvers with
    | none => simpa [hfound] using grows_happen s _
    | some place =>
      have hfill : Grows s
          { s with
            mSRVResult := some { result with mRecords := result.mRecords.modify place (SRVRecord.resolved results) }
            mResolvers := s.mResolvers.set place none } := Grows.of_same rfl rfl
      simpa [hfound] using hfill.trans (grows_report _)

theorem grows_onLookupCompleted (query : Query) (results : Results) :
    Grows s (s.onLookupCompleted lookup query results) := by
  unfold onLookupCompleted
  by_cases hsrv : s.mSRVLookup && query = .srv
  · simpa [hsrv] using grows_handleSRVCompleted lookup s results
  · by_cases hbackup : s.mBackupLookup && query = .backup
    · simpa [hsrv, hbackup] using grows_handleBackupCompleted lookup s results
    · simpa [hsrv, hbackup] using grows_handleResolverCompleted s query results

variable {lookup s}

theorem take_threw (hthrew : ¬∀ happening ∈ s.happenings, happening.throws = false) (e : Event) :
    take lookup s e = s := by
  apply if_pos
  simpa using hthrew

section

variable (hintact : ∀ happening ∈ s.happenings, happening.throws = false)
include hintact

theorem take_intact : s.happenings.any Happening.throws = false := by
  simpa using hintact

theorem take_created : take lookup s .created = { s with mSRVLookup := true } := by
  simp [take, take_intact hintact]

theorem take_cancel : take lookup s .cancel = if s.mSRVLookup then s.cancel else s := by
  simp [take, take_intact hintact]

end

/-- A completion is handled when the look-up is in flight. -/
def DNSSRVResolverQuery.handled (s : DNSSRVResolverQuery) (query : Query) (results : Results) : DNSSRVResolverQuery :=
  { s with inFlight := s.inFlight.erase query, answers := s.answers ++ [(query, results)] }

theorem take_completed (hintact : ∀ happening ∈ s.happenings, happening.throws = false) {query : Query}
    (hflight : query ∈ s.inFlight) (results : Results) :
    take lookup s (.onLookupCompleted query results) =
      (s.handled query results).onLookupCompleted lookup query results := by
  simp [take, take_intact hintact, hflight, handled]

theorem take_unknown {query : Query} (hflight : query ∉ s.inFlight) (results : Results) :
    take lookup s (.onLookupCompleted query results) = s := by
  simp [take, hflight]

/-- What was sound before a step is so after it only if it was before. -/
theorem sound_before (e : Event) (hsound : Sound (take lookup s e)) : Sound s := by
  by_cases hintact : ∀ happening ∈ s.happenings, happening.throws = false
  · cases e with
    | created =>
      rw [take_created hintact] at hsound
      exact ⟨hsound.intact, hsound.quiet⟩
    | cancel =>
      rw [take_cancel hintact] at hsound
      refine ⟨hintact, ?_⟩
      intro n hn
      by_cases hkept : s.mSRVLookup
      · rw [if_pos hkept] at hsound
        exact hsound.quiet n (by simp [DNSSRVResolverQuery.cancel, hn])
      · rw [if_neg hkept] at hsound
        exact hsound.quiet n hn
    | onLookupCompleted query results =>
      by_cases hflight : query ∈ s.inFlight
      · rw [take_completed hintact hflight] at hsound
        have hgrows : Grows s (s.handled query results) := Grows.of_same rfl rfl
        exact (hgrows.trans (grows_onLookupCompleted lookup _ query results)).sound hsound
      · rwa [take_unknown hflight] at hsound
  · rwa [take_threw hintact] at hsound

end Growing

section Cancelled

variable {lookup : Lookup} {s : DNSSRVResolverQuery}

theorem report_happens (hnone : s.mResolvers.all Option.isNone = true) (hcancelled : s.cancelledAfter.isSome = true)
    (hdelegate : s.mDelegate = true) : s.happenings.length < s.report.happenings.length := by
  have hcomplete : s.isComplete = true := by
    simp [isComplete, isCompleted, hnone, hcancelled]
  rw [report_complete hcomplete hdelegate]
  simp [happen]

theorem Grows.length_le {t : DNSSRVResolverQuery} (h : Grows s t) : s.happenings.length ≤ t.happenings.length := by
  obtain ⟨more, hmore⟩ := h.happenings
  simp [hmore]

theorem startResolvers_happens (hresolvers : s.mResolvers = []) (hcancelled : s.cancelledAfter.isSome = true)
    (hdelegate : s.mDelegate = true) (answer : SRVResult) :
    s.happenings.length < (s.startResolvers lookup answer).report.happenings.length := by
  have hstarted : (s.startResolvers lookup answer).happenings =
      s.happenings ++ lookup.lookUps answer.mTTL (answer.mRecords.takeWhile lookup.hasName) := rfl
  by_cases hnone : lookup.lookUps answer.mTTL (answer.mRecords.takeWhile lookup.hasName) = []
  · have hall : (s.startResolvers lookup answer).mResolvers.all Option.isNone = true := by
      simp only [startResolvers, hresolvers, List.nil_append]
      exact resolvers_none lookup answer.mTTL hnone
    have hlt := report_happens hall hcancelled hdelegate
    rwa [hstarted, hnone, List.append_nil] at hlt
  · have hpos := List.length_pos_iff.mpr hnone
    have hle := (grows_report (s.startResolvers lookup answer)).length_le
    rw [hstarted, List.length_append] at hle
    omega

/-- A completion that is handled when it was cancelled goes on, or it is taken for that of a record and not found. -/
theorem onLookupCompleted_happens (hresolvers : s.mResolvers = []) (hcancelled : s.cancelledAfter.isSome = true)
    (hdelegate : s.mDelegate = true) (query : Query) (results : Results) :
    s.happenings.length < (s.onLookupCompleted lookup query results).happenings.length := by
  have hnone : s.mResolvers.all Option.isNone = true := by simp [hresolvers]
  unfold onLookupCompleted
  by_cases hsrv : s.mSRVLookup && query = .srv
  · rw [if_pos hsrv, handleSRVCompleted]
    cases results.mSRV with
    | some answer =>
      by_cases hnames : answer.mRecords.all lookup.hasName
      · simpa [hnames] using startResolvers_happens hresolvers hcancelled hdelegate answer
      · simp only [hnames]
        simp [happen, startResolvers]
    | none =>
      cases lookup.backupKind with
      | some kind => simp [happen]
      | none => exact report_happens hnone hcancelled hdelegate
  · rw [if_neg hsrv]
    by_cases hbackup : s.mBackupLookup && query = .backup
    · rw [if_pos hbackup, handleBackupCompleted]
      cases results.hasResult with
      | true =>
        let s' : DNSSRVResolverQuery := { s with mSRVResult := some (lookup.backupResult results) }
        have hlt : s'.happenings.length < s'.report.happenings.length := report_happens hnone hcancelled hdelegate
        exact hlt
      | false => exact report_happens hnone hcancelled hdelegate
    · rw [if_neg hbackup, handleResolverCompleted]
      cases s.mSRVResult with
      | none => simp [happen]
      | some result => simp [happen, hresolvers, find_nil]

end Cancelled

end OpenPeer.DNS
