import OpenPeer.DNSSRVResolverStages
import OpenPeer.Runs

/-!
# The SRV resolver completes once and keeps records and addresses together

A completion that is handled before the SRV look-up is kept is taken for that of a record,
and so is one of a record that is handled after `cancel`, which clears the places but leaves
the delegate; the SRV completion that is handled then goes on as if nothing were cancelled.
A record without a name stops the start of the look-ups with a throw. When none of this
happens the records keep their places, and the delegate is told once, when the last look-up
is complete.
-/
namespace OpenPeer.DNS

open DNSSRVResolverQuery

section Runs

variable {lookup : Lookup} {s : DNSSRVResolverQuery}

theorem Stage.not_created (h : Stage lookup s) (hcreated : s.mSRVLookup = false) (query : Query) (results : Results) :
    .badState ∈ ((s.handled query results).onLookupCompleted lookup query results).happenings := by
  cases h with
  | asking h =>
    simp [DNSSRVResolverQuery.onLookupCompleted, handleResolverCompleted, handled, hcreated, h.backup, h.result, happen]
  | fallingBack kind srvLookup h => simp [h.created] at hcreated
  | resolving answer records h hmore => simp [h.created] at hcreated
  | finished result h => simp [h.created] at hcreated

theorem not_named (hcreated : s.mSRVLookup = true) {results : Results} {answer : SRVResult}
    (hanswer : results.mSRV = some answer) (hnames : ¬answer.mRecords.all lookup.hasName = true) :
    .invalidUsage ∈ ((s.handled .srv results).onLookupCompleted lookup .srv results).happenings := by
  simp [DNSSRVResolverQuery.onLookupCompleted, handleSRVCompleted, handled, hcreated, hanswer, hnames, happen]

theorem Detailed.intact (h : Detailed lookup s) : ∀ happening ∈ s.happenings, happening.throws = false := by
  cases h with
  | going hgoing h => exact h.intact
  | cancelled t hgoing hcreated h hcancel =>
    rw [hcancel]
    exact h.intact

theorem Detailed.sound (h : Detailed lookup s) : Sound s := by
  refine ⟨h.intact, ?_⟩
  intro n hn
  cases h with
  | going hgoing h =>
    rw [hgoing] at hn
    cases hn
  | cancelled t hgoing hcreated h hcancel =>
    subst hcancel
    simp only [DNSSRVResolverQuery.cancel, hgoing, Option.getD_none, Option.some_inj] at hn
    exact hn.le

/-- What is handled in time leads on. -/
theorem Detailed.take (h : Detailed lookup s) {e : Event} (htime : InTime lookup s e) :
    Detailed lookup (take lookup s e) := by
  have hintact := h.intact
  cases e with
  | created =>
    rw [take_created hintact]
    cases h with
    | going hgoing h => exact .going hgoing h.keep
    | cancelled t hgoing hcreated h hcancel =>
      refine .cancelled t hgoing hcreated h ?_
      rw [hcancel, DNSSRVResolverQuery.cancel, hcreated]
  | cancel =>
    rw [take_cancel hintact]
    by_cases hkept : s.mSRVLookup = true
    · rw [if_pos hkept]
      cases h with
      | going hgoing h => exact .cancelled s hgoing hkept h rfl
      | cancelled t hgoing hcreated h hcancel => exact .cancelled t hgoing hcreated h (by rw [hcancel]; rfl)
    · rwa [if_neg hkept]
  | onLookupCompleted query results =>
    by_cases hflight : query ∈ s.inFlight
    · obtain ⟨hcreated, hgoing, hnames⟩ := htime hflight
      rw [take_completed hintact hflight]
      cases h with
      | going _ h =>
        refine .going ?_ (h.completed hflight hcreated hnames)
        rw [(grows_onLookupCompleted lookup _ query results).cancelledAfter]
        exact hgoing
      | cancelled t _ _ h hcancel =>
        rw [hcancel] at hgoing
        cases hgoing
    · rwa [take_unknown hflight]

/-- What is not handled in time makes happen what is not to. -/
theorem Detailed.not_sound (h : Detailed lookup s) {e : Event} (htime : ¬InTime lookup s e) :
    ¬Sound (DNSSRVResolverQuery.take lookup s e) := by
  have hintact := h.intact
  intro hsound
  apply htime
  cases e with
  | created => trivial
  | cancel => trivial
  | onLookupCompleted query results =>
    intro hflight
    rw [take_completed hintact hflight] at hsound
    cases h with
    | going hgoing h =>
      cases hcreated : s.mSRVLookup with
      | false => exact absurd (hsound.intact _ (h.not_created hcreated query results)) (by simp [Happening.throws])
      | true =>
        refine ⟨rfl, hgoing, ?_⟩
        rintro rfl answer hanswer
        by_contra hnames
        exact absurd (hsound.intact _ (not_named hcreated hanswer hnames)) (by simp [Happening.throws])
    | cancelled t hgoing hcreated h hcancel =>
      subst hcancel
      have hdelegate := h.delegate (List.ne_nil_of_mem hflight)
      have hlt := @onLookupCompleted_happens lookup (t.cancel.handled query results) rfl rfl hdelegate query results
      have hle := hsound.quiet t.happenings.length ?_
      · exact absurd hle (Nat.not_le.mpr hlt)
      · rw [(grows_onLookupCompleted lookup _ query results).cancelledAfter]
        simp [handled, DNSSRVResolverQuery.cancel, hgoing]

theorem Stage.told (h : Stage lookup s) : Told lookup s := by
  by_cases hdone : s.inFlight = []
  · obtain ⟨result, hfinished⟩ := h.finished_of_done hdone
    constructor
    · simp [hfinished.reports]
    · exact fun _ => hdone
    · intro kept hkept
      rw [hfinished.reports, List.mem_singleton] at hkept
      exact hfinished.kept kept hkept.symm
    · intro hfail
      rw [hfinished.reports, List.mem_singleton] at hfail
      exact hfinished.failed hfail.symm
  · have hnone := h.reports_of_waits hdone
    constructor <;> simp [hnone]

theorem Told.cancel (h : Told lookup s) : Told lookup s.cancel where
  __ := h
  kept result hresult := (h.kept result hresult).cancel

theorem Detailed.resolves (h : Detailed lookup s) : Resolves lookup s := by
  refine ⟨h.sound, ?_, ?_⟩
  · cases h with
    | going hgoing h => exact h.told
    | cancelled t hgoing hcreated h hcancel => exact hcancel ▸ h.told.cancel
  · intro hgoing hdone
    cases h with
    | going _ h =>
      obtain ⟨result, hfinished⟩ := h.finished_of_done hdone
      simp [hfinished.reports]
    | cancelled t _ hcreated h hcancel =>
      rw [hcancel] at hgoing
      cases hgoing

theorem created_detailed : Detailed lookup {} :=
  .going rfl (.asking ⟨rfl, rfl, rfl, rfl, rfl, rfl, rfl⟩)

/-- The promise is kept exactly when every completion is handled in time and every record has a name. -/
theorem resolves_iff_inTime (lookup : Lookup) (events : List Event) :
    Resolves lookup (Runs.run (DNSSRVResolverQuery.take lookup) {} events) ↔
      Runs.Meets (DNSSRVResolverQuery.take lookup) (InTime lookup) {} events := by
  have hsound : ∀ s e, (Sound s → Detailed lookup s) →
      (Sound (DNSSRVResolverQuery.take lookup s e) ↔ Sound s ∧ InTime lookup s e) := by
    intro s e hdetailed
    constructor
    · intro hafter
      have hbefore := sound_before e hafter
      refine ⟨hbefore, ?_⟩
      by_contra htime
      exact (hdetailed hbefore).not_sound htime hafter
    · rintro ⟨hbefore, htime⟩
      exact ((hdetailed hbefore).take htime).sound
  have hdetailed : ∀ s e, (Sound s → Detailed lookup s) → Sound (DNSSRVResolverQuery.take lookup s e) →
      Detailed lookup (DNSSRVResolverQuery.take lookup s e) := by
    intro s e hdetailed hafter
    obtain ⟨hbefore, htime⟩ := (hsound s e hdetailed).mp hafter
    exact (hdetailed hbefore).take htime
  have hfirst : Detailed lookup {} := created_detailed
  have hrun := Runs.run_iff_meets (fun s => Sound s → Detailed lookup s) hsound hdetailed {} events fun _ => hfirst
  constructor
  · intro hresolves
    exact (hrun.mp hresolves.toSound).2
  · intro hmeets
    have hinv := Runs.run_invariant_always (fun s => Sound s → Detailed lookup s) hdetailed {} events fun _ => hfirst
    exact (hinv (hrun.mpr ⟨hfirst.sound, hmeets⟩)).resolves

/-- The SRV look-up of a name whose A look-up is the fallback. -/
def exampleLookup : Lookup where
  mOriginalName := "example.com"
  mOriginalService := "stun"
  mOriginalProtocol := "udp"
  mDefaultPort := 3478
  mDefaultPriority := 0
  mDefaultWeight := 0
  mLookupType := { autoLookupA := true, fallbackToALookup := true }
  convert := fun _ _ => none
  isIPv4 := fun _ => true
  named := by decide

/-- Cancelled while the completion of the SRV look-up waits, the resolver looks up the name after all. -/
theorem cancelled_goes_on :
    ¬Resolves exampleLookup (Runs.run (DNSSRVResolverQuery.take exampleLookup) {}
      [.created, .cancel, .onLookupCompleted .srv {}]) := by
  intro hresolves
  have hquiet := hresolves.quiet 0 rfl
  exact absurd hquiet (by decide)

end Runs

end OpenPeer.DNS
