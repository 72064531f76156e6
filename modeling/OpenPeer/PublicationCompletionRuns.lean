import OpenPeer.PublicationCompletion

/-!
# Runs of the operations

What one event does to the books, and with it that in every orderly run each operation
completes once and the next one of its publication is sent.
-/
namespace OpenPeer.Operations

open Caching (CacheMetaData PublicationObject)
open Turns

/-- No remover is answered with an error, no publication of this location is removed, no difference that is fetched
throws, and once the account is gone nobody is to be sent. -/
def Orderly (r : Repository) : Event → Prop
  | .fetching e => Fetching.Orderly r.fetching e
  | .publishResult k | .publishError k _ _ =>
      k < r.publishersCreated → (r.publishers k).handles = true → OthersProvided r k
  | .publishTimedOut k => k < r.publishersCreated → (r.publishers k).monitored = true → OthersProvided r k
  | .cancelPublisher k => k ∈ r.mPendingPublishers → OthersProvided r k
  | .remove i => i < r.caches.created →
      Caching.Repository.isLocal (r.caches.publications i).mPublishedLocation = true → r.caches.mAccount = none
  | .deleteError k _ _ => k < r.removersCreated → (r.removers k).handles = false
  | .publish _ | .deleteResult _ | .deleteTimedOut _ | .cancelRemover _ => True

/-- The publisher that is told by its monitor. -/
def Event.toPublisherMonitor : Event → Option Nat
  | .publishResult k | .publishError k _ _ | .publishTimedOut k => some k
  | _ => none

/-- The fetcher that is told by its monitor. -/
def Event.toFetcherMonitor : Event → Option Nat
  | .fetching e => e.toMonitor
  | _ => none

/-- The remover that is told by its monitor. -/
def Event.toRemoverMonitor : Event → Option Nat
  | .deleteResult k | .deleteError k _ _ | .deleteTimedOut k => some k
  | _ => none

/-- An operation on a publication of this location begins. -/
def Event.isLocal (r : Repository) : Event → Prop
  | .fetching (.fetch _ publishedLocation _) => publishedLocation.mType = .local
  | .publish i | .remove i => i < r.caches.created ∧
      Caching.Repository.isLocal (r.caches.publications i).mPublishedLocation = true
  | _ => False

/-- Who was told by a monitor of its own has completed, and a local operation has completed with nothing sent. -/
structure Handled (r : Repository) (e : Event) (r' : Repository) : Prop where
  publisher : ∀ k, e.toPublisherMonitor = some k → k < r.publishersCreated → (r.publishers k).handles = true →
    (r'.publishers k).mDelegate = false
  fetcher : ∀ i, e.toFetcherMonitor = some i → i < r.fetching.created → r.fetching.handles i = true →
    (r'.fetching.fetchers i).mDelegate = false
  remover : ∀ k, e.toRemoverMonitor = some k → k < r.removersCreated → (r.removers k).handles = true →
    (r'.removers k).mDelegate = false
  atOnce : e.isLocal r → DoneAtOnce r r'

variable {r : Repository} {e : Event}

theorem handled_of_none {r' : Repository}
    (he : e.toPublisherMonitor = none ∧ e.toFetcherMonitor = none ∧ e.toRemoverMonitor = none)
    (hatOnce : e.isLocal r → DoneAtOnce r r') : Handled r e r' := by
  obtain ⟨hpublisher, hfetcher, hremover⟩ := he
  constructor
  · simp [hpublisher]
  · simp [hfetcher]
  · simp [hremover]
  · exact hatOnce

theorem fetch_atOnce {fetching : Fetching.Repository} {inMetaData : CacheMetaData}
    {publishedLocation : Location} {version : Nat} (hlocal : publishedLocation.mType = .local)
    (hr : r.fetching.fetch inMetaData publishedLocation version = .ok fetching) :
    DoneAtOnce r { r with fetching } := by
  have hdone : fetching.sent = r.fetching.sent ∧ fetching.created = r.fetching.created + 1 ∧
      (fetching.fetchers r.fetching.created).mDelegate = false := by
    simp only [Fetching.Repository.fetch, if_pos hlocal] at hr
    split at hr
    · cases hr
      exact ⟨rfl, rfl, by simp [Fetching.Fetcher.complete]⟩
    · cases hr
      exact ⟨rfl, rfl, by simp [Fetching.Fetcher.complete]⟩
  obtain ⟨hsent, hcreated, hcomplete⟩ := hdone
  constructor
  · rfl
  · exact hsent
  · intro k hle hlt
    exact absurd hlt (Nat.not_lt.mpr hle)
  · intro i hle hlt
    obtain rfl : i = r.fetching.created := by
      change i < fetching.created at hlt
      omega
    exact hcomplete
  · intro k hle hlt
    exact absurd hlt (Nat.not_lt.mpr hle)

/-- An event of the fetchers that is not the cancel of the repository. -/
theorem fetchingStep_spec (h : Books r) (e : Fetching.Event) (horderly : Fetching.Orderly r.fetching e) :
    ∃ r', fetchingStep r e = .ok r' ∧ Books r' ∧ Handled r (.fetching e) r' := by
  by_cases hcancel : e = .cancel
  · subst hcancel
    exact ⟨_, rfl, cancel_books h, handled_of_none ⟨rfl, rfl, rfl⟩ fun hlocal => hlocal.elim⟩
  · obtain ⟨fetching, hfetching⟩ := Fetching.step_ok h.fetching e horderly
    have hstep : fetchingStep r e = .ok { r with fetching } := by
      cases e with
      | cancel => exact absurd rfl hcancel
      | fetch _ _ _ => simp only [fetchingStep, hfetching]
      | result _ _ => simp only [fetchingStep, hfetching]
      | notFound _ => simp only [fetchingStep, hfetching]
      | error _ _ _ => simp only [fetchingStep, hfetching]
      | timedOut _ => simp only [fetchingStep, hfetching]
      | cancelFetcher _ => simp only [fetchingStep, hfetching]
      | cache _ => simp only [fetchingStep, hfetching]
    have hbooks : Books { r with fetching } :=
      ⟨Fetching.step_books h.fetching e hfetching, h.publishers.withFetching fetching, h.removers⟩
    refine ⟨_, hstep, hbooks, ?_⟩
    constructor
    · intro k hk
      cases hk
    · intro i hi hexist hhandles
      exact Fetching.step_complete hi hexist hhandles hfetching
    · intro k hk
      cases hk
    · intro hlocal
      cases e with
      | fetch inMetaData publishedLocation version => exact fetch_atOnce hlocal hfetching
      | result _ _ => cases hlocal
      | notFound _ => cases hlocal
      | error _ _ _ => cases hlocal
      | timedOut _ => cases hlocal
      | cancelFetcher _ => cases hlocal
      | cache _ => cases hlocal
      | cancel => cases hlocal

/-- What is told to a publisher that exists has a state after it, in which a publisher that was told by its monitor has
completed. -/
theorem toPublisher_spec {k : Nat} {x : Except Fetching.Halt Repository} (h : Books r)
    (he : e.toFetcherMonitor = none ∧ e.toRemoverMonitor = none ∧ ¬e.isLocal r)
    (hx : k < r.publishersCreated → ∃ r', x = .ok r' ∧ Books r' ∧ (e.toPublisherMonitor = some k → (r.publishers k).handles = true → (r'.publishers k).mDelegate = false))
    (hk : ∀ j, e.toPublisherMonitor = some j → j = k) :
    ∃ r', toPublisher r k x = .ok r' ∧ Books r' ∧ Handled r e r' := by
  obtain ⟨hfetcher, hremover, hlocal⟩ := he
  simp only [toPublisher]
  split
  case isTrue hexist =>
    obtain ⟨r', hr, hbooks, hcomplete⟩ := hx hexist
    refine ⟨r', hr, hbooks, ?_⟩
    constructor
    · intro j hj _ hhandles
      obtain rfl := hk j hj
      exact hcomplete hj hhandles
    · simp [hfetcher]
    · simp [hremover]
    · intro hl
      exact absurd hl hlocal
  case isFalse hnot =>
    refine ⟨r, rfl, h, ?_⟩
    constructor
    · intro j hj hexist
      exact absurd (hk j hj ▸ hexist) hnot
    · simp [hfetcher]
    · simp [hremover]
    · intro hl
      exact absurd hl hlocal

theorem toRemover_spec {r' : Repository} {k : Nat} (h : Books r)
    (he : e.toFetcherMonitor = none ∧ e.toPublisherMonitor = none ∧ ¬e.isLocal r)
    (hx : k < r.removersCreated → Books r' ∧ (e.toRemoverMonitor = some k → (r.removers k).handles = true → (r'.removers k).mDelegate = false))
    (hk : ∀ j, e.toRemoverMonitor = some j → j = k) :
    ∃ r₁, toRemover r k r' = .ok r₁ ∧ Books r₁ ∧ Handled r e r₁ := by
  obtain ⟨hfetcher, hpublisher, hlocal⟩ := he
  refine ⟨_, rfl, ?_⟩
  split
  case isTrue hexist =>
    obtain ⟨hbooks, hcomplete⟩ := hx hexist
    refine ⟨hbooks, ?_⟩
    constructor
    · simp [hpublisher]
    · simp [hfetcher]
    · intro j hj _ hhandles
      obtain rfl := hk j hj
      exact hcomplete hj hhandles
    · intro hl
      exact absurd hl hlocal
  case isFalse hnot =>
    refine ⟨h, ?_⟩
    constructor
    · simp [hpublisher]
    · simp [hfetcher]
    · intro j hj hexist
      exact absurd (hk j hj ▸ hexist) hnot
    · intro hl
      exact absurd hl hlocal

theorem step_spec (h : Books r) (e : Event) (horderly : Orderly r e) :
    ∃ r', step r e = .ok r' ∧ Books r' ∧ Handled r e r' := by
  cases e with
  | fetching e => exact fetchingStep_spec h e horderly
  | publish i =>
    simp only [step]
    split
    case isTrue =>
      obtain ⟨r', hr, hbooks, hlocal⟩ := publish_spec h i
      exact ⟨r', hr, hbooks, handled_of_none ⟨rfl, rfl, rfl⟩ fun hl => hlocal hl.2⟩
    case isFalse => exact ⟨r, rfl, h, handled_of_none ⟨rfl, rfl, rfl⟩ fun _ => .refl r⟩
  | publishResult k =>
    refine toPublisher_spec h ⟨rfl, rfl, not_false⟩ (fun hk => ?_) fun j hj => (Option.some.inj hj).symm
    obtain ⟨r', hr, hbooks, hcomplete⟩ := onPublishResult_spec h hk (horderly hk)
    exact ⟨r', hr, hbooks, fun _ => hcomplete⟩
  | publishError k errorCode errorReason =>
    refine toPublisher_spec h ⟨rfl, rfl, not_false⟩ (fun hk => ?_) fun j hj => (Option.some.inj hj).symm
    obtain ⟨r', hr, hbooks, hcomplete⟩ := onPublishError_spec h hk errorCode errorReason (horderly hk)
    exact ⟨r', hr, hbooks, fun _ => hcomplete⟩
  | publishTimedOut k =>
    refine toPublisher_spec h ⟨rfl, rfl, not_false⟩ (fun hk => ?_) fun j hj => (Option.some.inj hj).symm
    obtain ⟨r', hr, hbooks, hcomplete⟩ := onPublishTimedOut_spec h hk (horderly hk)
    exact ⟨r', hr, hbooks, fun _ => hcomplete⟩
  | cancelPublisher k =>
    have hnone : ∀ j, Event.toPublisherMonitor (.cancelPublisher k) ≠ some j := by simp [Event.toPublisherMonitor]
    refine toPublisher_spec h ⟨rfl, rfl, not_false⟩ (fun hk => ?_) fun j hj => absurd hj (hnone j)
    obtain ⟨r', hr, hbooks, -, helse⟩ := cancelPublisher_spec h.publishers hk horderly
    exact ⟨r', hr, h.of_publishers hbooks helse, fun hk => absurd hk (hnone k)⟩
  | remove i =>
    simp only [step]
    split
    case isTrue hi =>
      obtain ⟨hbooks, hlocal⟩ := remove_spec h i (horderly hi)
      exact ⟨_, rfl, hbooks, handled_of_none ⟨rfl, rfl, rfl⟩ fun hl => hlocal hl.2⟩
    case isFalse => exact ⟨r, rfl, h, handled_of_none ⟨rfl, rfl, rfl⟩ fun _ => .refl r⟩
  | deleteResult k =>
    refine toRemover_spec h ⟨rfl, rfl, not_false⟩ (fun _ => ?_) fun j hj => (Option.some.inj hj).symm
    exact (onDeleteResult_books h k).imp id fun hcomplete _ => hcomplete
  | deleteError k errorCode errorReason =>
    refine toRemover_spec h ⟨rfl, rfl, not_false⟩ (fun hk => ?_) fun j hj => (Option.some.inj hj).symm
    have hignored : ¬(r.removers k).handles = true := by simp [horderly hk]
    simp only [Repository.onDeleteError, if_neg hignored]
    exact ⟨h, fun _ hhandles => absurd hhandles hignored⟩
  | deleteTimedOut k =>
    refine toRemover_spec h ⟨rfl, rfl, not_false⟩ (fun _ => ?_) fun j hj => (Option.some.inj hj).symm
    exact (onDeleteTimedOut_books h k).imp id fun hcomplete _ => hcomplete
  | cancelRemover k =>
    have hnone : ∀ j, Event.toRemoverMonitor (.cancelRemover k) ≠ some j := by simp [Event.toRemoverMonitor]
    refine toRemover_spec h ⟨rfl, rfl, not_false⟩ (fun _ => ?_) fun j hj => absurd hj (hnone j)
    exact ⟨h.of_removers rfl ⟨rfl, rfl, rfl⟩ (h.removers.complete k), fun hk => absurd hk (hnone k)⟩

/-! ## Runs -/

/-- A repository with these caches, before anything is published, fetched or removed. -/
def init (caches : Caching.Repository) (fetchers : Nat → Fetching.Fetcher) (operations : Nat → Operation) :
    Repository :=
  { fetching := Fetching.init caches fetchers, publishers := operations, removers := operations }

theorem init_books (caches : Caching.Repository) (fetchers : Nat → Fetching.Fetcher) (operations : Nat → Operation) :
    Books (init caches fetchers operations) := by
  refine ⟨Fetching.init_books caches fetchers, ?_, fun k hk => absurd hk (Nat.not_lt_zero k)⟩
  constructor
  · constructor <;> simp [init]
  · simp [Turns.Fair, init]

/-- Each operation that exists was told once if it has completed, and else never; what has completed has no monitor and
is in no list; and what is pending waits behind an operation on its publication that was sent. -/
structure Complete (r : Repository) : Prop where
  publisherTold : ∀ k < r.publishersCreated, (r.publishers k).told = if (r.publishers k).mDelegate then 0 else 1
  publisherLeft : ∀ k < r.publishersCreated, (r.publishers k).mDelegate = false →
    (r.publishers k).mMonitor = none ∧ k ∉ r.mPendingPublishers
  publisherNext : ∀ k ∈ r.mPendingPublishers, ∃ j ∈ r.mPendingPublishers,
    (r.publishers j).mPublication = (r.publishers k).mPublication ∧ (r.publishers j).mMonitor.isSome = true
  fetcherTold : ∀ i < r.fetching.created,
    (r.fetching.fetchers i).told = if (r.fetching.fetchers i).mDelegate then 0 else 1
  fetcherLeft : ∀ i < r.fetching.created, (r.fetching.fetchers i).mDelegate = false →
    (r.fetching.fetchers i).mMonitor = false ∧ i ∉ r.fetching.mPendingFetchers
  fetcherNext : ∀ i ∈ r.fetching.mPendingFetchers, ∃ j ∈ r.fetching.mPendingFetchers,
    r.fetching.isMatching i j = true ∧ (r.fetching.fetchers j).mMonitor = true
  removerTold : ∀ k < r.removersCreated, (r.removers k).told = if (r.removers k).mDelegate then 0 else 1
  removerLeft : ∀ k < r.removersCreated, (r.removers k).mDelegate = false → (r.removers k).mMonitor = none

theorem Books.complete (h : Books r) : Complete r where
  publisherTold k hk := (h.publishers.settled k hk).told
  publisherLeft k hk hdone := by
    refine ⟨(h.publishers.settled k hk).left hdone, fun hmem => ?_⟩
    rw [h.publishers.pending k hk, hdone] at hmem
    exact Bool.false_ne_true hmem
  publisherNext k hk := by
    obtain ⟨j, hj, hsame, hactive⟩ := h.publishers.turns.exists_active r.classes hk
    exact ⟨j, hj, of_decide_eq_true hsame, hactive⟩
  fetcherTold i hi := h.fetching.told i hi
  fetcherLeft i hi hdone := by
    constructor
    · have hmonitored := h.fetching.monitored i hi
      simp_all
    · rw [h.fetching.pending i hi, hdone]
      exact Bool.false_ne_true
  fetcherNext i hi := h.fetching.turns.exists_active r.fetching.classes hi
  removerTold k hk := (h.removers k hk).1.told
  removerLeft k hk := (h.removers k hk).1.left

/-- Every orderly run has a state at its end, in which each operation is told at most once, and once if it has
completed; and at each orderly event after it, who is told by its monitor completes, as does what is local, for which
nothing is sent. -/
theorem operations_complete (caches : Caching.Repository) (fetchers : Nat → Fetching.Fetcher)
    (operations : Nat → Operation) (events : List Event)
    (hmeets : Runs.TryMeets step Orderly (init caches fetchers operations) events) :
    ∃ r, Runs.tryRun step (init caches fetchers operations) events = .ok r ∧ Complete r ∧
      ∀ e, Orderly r e → ∃ r', step r e = .ok r' ∧ Complete r' ∧ Handled r e r' := by
  have hstep : ∀ r e, Orderly r e → Books r → ∃ r', step r e = .ok r' ∧ Books r' := by
    intro r e horderly h
    obtain ⟨r', hr, hbooks, -⟩ := step_spec h e horderly
    exact ⟨r', hr, hbooks⟩
  obtain ⟨r, hr, h⟩ := Runs.tryRun_ok Books hstep hmeets (init_books caches fetchers operations)
  refine ⟨r, hr, h.complete, fun e horderly => ?_⟩
  obtain ⟨r', hr', hbooks, hhandled⟩ := step_spec h e horderly
  exact ⟨r', hr', hbooks.complete, hhandled⟩

section Samples

open Caching (alice bob sampleOf)
open Fetching (sampleFetcher)

def sampleInit : Repository :=
  init (Caching.init alice fun _ => sampleOf 0) (fun _ => sampleFetcher) fun _ => { mPublication := 0 }

def created (p : PublicationObject) : Event := .fetching (.cache (.create p))

/-- A publication is published to its peer twice, and the first publisher is answered. -/
def publishEvents : List Event := [created (sampleOf 1), .publish 0, .publish 0, .publishResult 0]

theorem operations_complete_sample : ∃ r, Runs.tryRun step sampleInit publishEvents = .ok r ∧ Complete r := by
  have hmeets : Runs.TryMeets step Orderly sampleInit publishEvents := by
    refine ⟨trivial, fun r hr => ⟨trivial, fun r₁ hr₁ => ⟨trivial, fun r₂ hr₂ => ⟨fun _ _ => ?_, fun _ _ => trivial⟩⟩⟩⟩
    obtain rfl := Except.ok.inj hr
    obtain rfl := Except.ok.inj hr₁
    obtain rfl := Except.ok.inj hr₂
    exact .inl (Option.some_ne_none _)
  obtain ⟨r, hr, hcomplete, -⟩ := operations_complete (Caching.init alice fun _ => sampleOf 0)
    (fun _ => sampleFetcher) (fun _ => { mPublication := 0 }) publishEvents hmeets
  exact ⟨r, hr, hcomplete⟩

/-- A publication that was made here and is published here. -/
def ownSample : PublicationObject :=
  { sampleOf 1 with mCreatorLocation := some alice, mPublishedLocation := some alice }

/-- A remover that is answered with an error goes on waiting for a monitor that is done. To remove a publication of this
location is complete, and a request is sent for it. A fetch once the account is gone takes its fetcher off the list
twice. -/
theorem remover_left :
    (∃ r, Runs.tryRun step sampleInit [created (sampleOf 1), .remove 0, .deleteError 0 403 "Forbidden"] = .ok r ∧
      (r.removers 0).mDelegate = true ∧ (r.removers 0).told = 0 ∧ (r.removers 0).mMonitor.isSome = true ∧
      (r.removers 0).monitored = false) ∧
    (∃ r, Runs.tryRun step sampleInit [created ownSample, .publish 0, .remove 0] = .ok r ∧
      (r.removers 0).mDelegate = false ∧ (r.removers 0).told = 1 ∧ r.sent.length = 1) ∧
    Runs.tryRun step sampleInit
      [.fetching (.cache .accountGone), .fetching (.fetch (sampleOf 1).cacheMetaData bob 1)] = .error .undefined :=
  ⟨⟨_, rfl, by decide, by decide, by decide, by decide⟩, ⟨_, rfl, by decide, by decide, by decide⟩, rfl⟩

end Samples

end OpenPeer.Operations
