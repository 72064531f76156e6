import OpenPeer.PublicationFetching

/-!
# The versions that are fetched

A fetch that succeeds has a publication of the cache or of a result, whose version is compared
with no version, or with that of another fetch. It is new enough in the runs in which those
comparisons would not have decided otherwise.
-/
namespace OpenPeer.Fetching

open Caching (CacheMetaData PublicationObject cacheCompare_eq_eq cacheCompare)
open Turns

/-- What has succeeded has a publication of the version that was asked for, or of a later one. -/
def Carries (r : Repository) : Prop :=
  ∀ i < r.created, (r.fetchers i).mSucceeded = true →
    ∃ p, (r.fetchers i).mFetchedPublication = some p ∧ (r.fetchers i).asked ≤ p.publication.mVersion

/-- When the cache has the version in the meta data of `m`, it has what each pending fetcher of its publication but `m`
asked for. -/
def OthersServed (r : Repository) (m : Nat) : Prop :=
  ∀ existing, r.findRemote m = some existing → (r.fetchers m).mVersion ≤ existing.publication.mVersion →
    ∀ j ∈ r.mPendingFetchers, j ≠ m → r.isMatching m j = true →
      (r.fetchers j).asked ≤ existing.publication.mVersion

/-- What a local fetch finds and what a result brings are new enough for the fetcher, and whenever a fetcher that had
its turn ends, the others of its publication are served if it would have been. -/
def NewEnough (r : Repository) : Event → Prop
  | .fetch inMetaData publishedLocation version => publishedLocation.mType = .local →
      ∀ found, r.caches.find r.caches.mCachedLocalPublications
        { inMetaData with mPublishedLocation := some publishedLocation } = some found →
        version ≤ (r.caches.publications found.2).publication.mVersion
  | .result i publication => i < r.created → r.handles i = true →
      (r.fetchers i).asked ≤ publication.publication.mVersion ∧
      OthersServed { r with
        caches := r.caches.notifyFetched (r.fetchers i).mPublicationMetaData publication } i
  | .notFound i | .error i _ _ => i < r.created → r.handles i = true → OthersServed r i
  | .timedOut i | .cancelFetcher i => i < r.created → r.Active i → OthersServed r i
  | .cache _ | .cancel => True

/-- What each fetcher of `r` carries is left as it was. -/
def SameCarried (r r' : Repository) : Prop :=
  r'.created = r.created ∧ ∀ i, (r'.fetchers i).mSucceeded = (r.fetchers i).mSucceeded ∧
    (r'.fetchers i).mFetchedPublication = (r.fetchers i).mFetchedPublication ∧
    (r'.fetchers i).asked = (r.fetchers i).asked

variable {r r' : Repository}

theorem Carries.congr (h : Carries r) (hsame : SameCarried r r') : Carries r' := by
  intro i hi hsucceeded
  obtain ⟨hs, hf, ha⟩ := hsame.2 i
  rw [hs] at hsucceeded
  rw [hf, ha]
  exact h i (hsame.1 ▸ hi) hsucceeded

variable {f : Fetcher → Fetcher}

theorem Carries.modify (h : Carries r) (i : Nat)
    (hf : (f (r.fetchers i)).mSucceeded = true → ∃ p, (f (r.fetchers i)).mFetchedPublication = some p ∧ (f (r.fetchers i)).asked ≤ p.publication.mVersion) :
    Carries (r.modify i f) := by
  intro j hj
  by_cases hji : j = i
  · subst hji
    rwa [r.modify_fetchers_self]
  · rw [r.modify_fetchers_of_ne f hji]
    exact h j hj

theorem modify_sameCarried (r : Repository) (i : Nat)
    (hf : (f (r.fetchers i)).mSucceeded = (r.fetchers i).mSucceeded ∧ (f (r.fetchers i)).mFetchedPublication = (r.fetchers i).mFetchedPublication ∧ (f (r.fetchers i)).asked = (r.fetchers i).asked) :
    SameCarried r (r.modify i f) := by
  refine ⟨rfl, fun j => ?_⟩
  by_cases hji : j = i
  · subst hji
    rwa [r.modify_fetchers_self]
  · rw [r.modify_fetchers_of_ne f hji]
    exact ⟨rfl, rfl, rfl⟩

theorem complete_sameCarried (r : Repository) (i : Nat) : SameCarried r (r.modify i Fetcher.complete) :=
  modify_sameCarried r i ⟨rfl, rfl, rfl⟩

theorem leave_sameCarried (r : Repository) (i : Nat) : SameCarried r (r.leave i) := complete_sameCarried r i

theorem sendWith_sameCarried (r : Repository) (m i version : Nat) : SameCarried r (r.sendWith m i version) := by
  refine ⟨rfl, fun j => ?_⟩
  by_cases hji : j = i
  · subst hji
    rw [r.sendWith_fetchers_self]
    split <;> exact ⟨rfl, rfl, rfl⟩
  · rw [r.sendWith_fetchers_of_ne version hji]
    split <;> exact ⟨rfl, rfl, rfl⟩

/-! ## Activation -/

/-- When the cache has the version in the meta data of `m`, it has what each pending fetcher of its publication asked
for. -/
def Served (r : Repository) (m : Nat) : Prop :=
  ∀ existing, r.findRemote m = some existing → (r.fetchers m).mVersion ≤ existing.publication.mVersion →
    ∀ j ∈ r.mPendingFetchers, r.isMatching m j = true → (r.fetchers j).asked ≤ existing.publication.mVersion

theorem findRemote_congr {r r' : Repository} {i j : Nat} (hcaches : r'.caches = r.caches)
    (hi : (r'.fetchers i).mPublicationMetaData = (r.fetchers i).mPublicationMetaData)
    (hij : r.isMatching j i = true) : r'.findRemote i = r.findRemote j := by
  have heq : cacheCompare (r.fetchers j).mPublicationMetaData (r.fetchers i).mPublicationMetaData = .eq :=
    cacheCompare_eq_eq.mpr hij
  simp only [Repository.findRemote, hcaches, hi, Caching.Repository.find]
  rw [OrderedMap.find_congr _ heq]

variable {i : Nat}

variable {m : Nat} {existing : PublicationObject}

theorem serve_served (h : Served r m) (hfind : r.mPendingFetchers.find? (r.isMatching m) = some i)
    (hremote : r.findRemote m = some existing)
    (hversion : (r.fetchers m).mVersion ≤ existing.publication.mVersion) (hkept : Kept r) :
    Served (r.serve i existing) i := by
  intro existing' hremote' _ j hj hij
  have hmi : r.isMatching m i = true := List.find?_some hfind
  have hsame := r.serve_sameMetaData i existing
  rw [@findRemote_congr r (r.serve i existing) _ _ rfl (hsame i) hmi, hremote] at hremote'
  obtain rfl := Option.some.inj hremote'
  have hji : j ≠ i := fun heq => hkept.nodup.not_mem_erase (heq ▸ hj)
  rw [r.serve_fetchers_of_ne existing hji]
  refine h existing hremote hversion j (List.mem_of_mem_erase hj) ?_
  rw [hsame.isMatching] at hij
  rwa [r.classes.eq_of_same hmi]

theorem Carries.serve (h : Carries r) (hasked : (r.fetchers i).asked ≤ existing.publication.mVersion) :
    Carries (r.serve i existing) := by
  have hserved : Carries (r.modify i fun f => (f.setPublication existing).succeed) :=
    h.modify i fun _ => ⟨existing, rfl, hasked⟩
  exact hserved.congr (leave_sameCarried _ i)

theorem activate_carries (hwaiting : Waiting r m) (h : Carries r) (hserved : Served r m)
    (hr : r.activate m = .ok r') : Carries r' := by
  apply Repository.activateFetcher_induct (P := fun r m => Waiting r m ∧ Carries r ∧ Served r m) ?_ ?_ ?_ ?_
    (Nat.le_refl _) ⟨hwaiting, h, hserved⟩ hr
  · rintro r m ⟨-, h, -⟩ _
    exact h
  · rintro r m i ⟨-, h, -⟩ _ _
    exact h
  · rintro r m i existing ⟨hwaiting, h, hserved⟩ hfind _ hremote hversion
    have hasked := hserved existing hremote hversion i (List.mem_of_find?_eq_some hfind) (List.find?_some hfind)
    exact ⟨serve_waiting hwaiting hfind, h.serve hasked, serve_served hserved hfind hremote hversion hwaiting.toKept⟩
  · rintro r m i version ⟨-, h, -⟩ _ _
    exact h.congr (sendWith_sameCarried r m i version)

/-! ## The events -/

theorem leave_served (hbooks : Kept r) (hothers : OthersServed r i) : Served (r.leave i) i := by
  intro existing hremote hversion j hj hij
  have hself := r.leave_fetchers_self i
  have hsame : r.SameMetaData (r.leave i) := r.modify_sameMetaData (f := Fetcher.complete) rfl
  have hji : j ≠ i := fun heq => hbooks.nodup.not_mem_erase (heq ▸ hj)
  rw [@findRemote_congr r (r.leave i) _ _ rfl (hsame i) (r.classes.refl i)] at hremote
  rw [hself] at hversion
  rw [leave_isMatching] at hij
  rw [r.leave_fetchers_of_ne hji]
  exact hothers existing hremote hversion j (List.mem_of_mem_erase hj) hji hij

theorem cancelFetcher_carries (hbooks : Books r) (h : Carries r) (hothers : r.Active i → OthersServed r i)
    (hr : r.cancelFetcher i = .ok r') : Carries r' := by
  simp only [Repository.cancelFetcher] at hr
  split at hr
  case isTrue hmem =>
    have hleft : Carries (r.leave i) := h.congr (leave_sameCarried r i)
    by_cases hturn : r.Active i
    · exact activate_carries (hbooks.leave_of_active hmem hturn) hleft (leave_served hbooks.toKept (hothers hturn)) hr
    · rw [Repository.activate, (hbooks.leave_of_waiting hmem hturn).activateFetcher] at hr
      cases hr
      exact hleft
  case isFalse =>
    cases hr
    exact h.congr (complete_sameCarried r i)

/-- The others are served as before when only what `i` carries has changed. -/
theorem OthersServed.modify (h : OthersServed r i)
    (hmetaData : (f (r.fetchers i)).mPublicationMetaData = (r.fetchers i).mPublicationMetaData)
    (hversion : (f (r.fetchers i)).mVersion = (r.fetchers i).mVersion) : OthersServed (r.modify i f) i := by
  intro existing hremote hmodified j hj hji hij
  have hsame := r.modify_sameMetaData hmetaData
  rw [@findRemote_congr r (r.modify i f) _ _ rfl (hsame i) (r.classes.refl i)] at hremote
  rw [r.modify_fetchers_self, hversion] at hmodified
  rw [hsame.isMatching] at hij
  rw [r.modify_fetchers_of_ne f hji]
  exact h existing hremote hmodified j hj hji hij

variable {publication : PublicationObject}

theorem carried_version {carried : PublicationObject} (h : r.carried i publication = .ok carried) :
    carried.publication.mVersion = publication.publication.mVersion := by
  simp only [Repository.carried] at h
  split at h
  case h_1 =>
    cases h
    rfl
  case h_2 existing _ =>
    split at h
    case h_1 hupdated =>
      obtain rfl := Except.ok.inj h
      exact Caching.fetched_version hupdated
    case h_2 =>
      cases h
      rfl
    case h_3 => cases h

theorem onResult_carries (hbooks : Books r) (h : Carries r) (hi : i < r.created)
    (hnew : NewEnough r (.result i publication)) (hr : r.onResult i publication = .ok r') : Carries r' := by
  simp only [Repository.onResult] at hr
  split at hr
  case isTrue hhandles =>
    obtain ⟨hasked, hothers⟩ := hnew hi hhandles
    split at hr
    case h_1 => cases hr
    case h_2 carried hcarried =>
      have hcaches := hbooks.withCaches (r.caches.notifyFetched (r.fetchers i).mPublicationMetaData publication)
      have hmodified := hcaches.modify (i := i) (f := fun f => f.succeed.setPublication carried)
        ⟨rfl, rfl, rfl, rfl, rfl⟩ rfl
      refine cancelFetcher_carries hmodified ?_ (fun _ => hothers.modify rfl rfl) hr
      have hkept : Carries { r with
          caches := r.caches.notifyFetched (r.fetchers i).mPublicationMetaData publication } := h
      refine hkept.modify i (f := fun f => f.succeed.setPublication carried) fun _ => ⟨carried, rfl, ?_⟩
      rw [carried_version hcarried]
      exact hasked
  case isFalse =>
    cases hr
    exact h

theorem onError_carries {errorCode : Nat} {errorReason : String} (hbooks : Books r) (h : Carries r)
    (hnew : r.handles i = true → OthersServed r i) (hr : r.onError i errorCode errorReason = .ok r') :
    Carries r' := by
  simp only [Repository.onError] at hr
  split at hr
  case isTrue hhandles =>
    have hmodified := hbooks.modify (i := i) (f := fun f => f.fail errorCode errorReason) ⟨rfl, rfl, rfl, rfl, rfl⟩ rfl
    refine cancelFetcher_carries hmodified ?_ (fun _ => (hnew hhandles).modify rfl rfl) hr
    exact h.modify i fun hsucceeded => absurd hsucceeded Bool.false_ne_true
  case isFalse =>
    cases hr
    exact h

variable {version : Nat}

theorem enqueue_served {metaData : CacheMetaData}
    (hfirst : ∀ i ∈ r.mPendingFetchers, ¬(enqueue r metaData version).isMatching r.created i = true) :
    Served (enqueue r metaData version) r.created := by
  have hself : (enqueue r metaData version).fetchers r.created =
      { mPublicationMetaData := metaData, mVersion := version, asked := version } := create_fetchers_self
  intro existing _ hversion j hj hij
  rcases List.mem_append.mp hj with hj | hj
  · exact absurd hij (hfirst j hj)
  · obtain rfl := List.mem_singleton.mp hj
    rw [hself] at hversion ⊢
    exact hversion

theorem fetch_carries (hbooks : Books r) (h : Carries r) {inMetaData : CacheMetaData}
    {publishedLocation : Location} (hnew : NewEnough r (.fetch inMetaData publishedLocation version))
    (hr : r.fetch inMetaData publishedLocation version = .ok r') : Carries r' := by
  have hcreate : Carries (r.create { inMetaData with mPublishedLocation := some publishedLocation } version) := by
    intro i hi
    rcases Nat.lt_or_eq_of_le (Nat.lt_succ_iff.mp hi) with hi | rfl
    · rw [create_fetchers_of_lt hi]
      exact h i hi
    · simp [create_fetchers_self]
  simp only [Repository.fetch] at hr
  split at hr
  case isTrue hlocal =>
    split at hr
    case h_1 found hfound =>
      cases hr
      refine hcreate.modify _ fun _ => ⟨_, rfl, ?_⟩
      have hasked := hnew hlocal found hfound
      simp only [create_fetchers_self]
      exact hasked
    case h_2 =>
      cases hr
      exact hcreate.congr (complete_sameCarried _ _)
  case isFalse =>
    have henqueue : Carries (enqueue r { inMetaData with mPublishedLocation := some publishedLocation } version) :=
      hcreate
    rcases @enqueue_spec r { inMetaData with mPublishedLocation := some publishedLocation } version hbooks
      with hkept | ⟨hwaiting, hfirst⟩
    · have heq := Except.ok.inj
        (hr.symm.trans (hkept.activateFetcher (r.mPendingFetchers ++ [r.created]).length r.created))
      rw [heq]
      exact henqueue
    · exact activate_carries hwaiting henqueue (enqueue_served hfirst) hr

theorem cancel_carries (h : Carries r) : Carries r.cancel := by
  obtain ⟨hcreated, -⟩ := foldl_complete_frame r.mPendingFetchers
    { r with caches := r.caches.cancel, mPendingFetchers := [] }
  refine h.congr ⟨hcreated, fun i => ?_⟩
  have hfetchers : r.cancel.fetchers i =
      if i ∈ r.mPendingFetchers then (r.fetchers i).complete else r.fetchers i :=
    foldl_complete_fetchers r.mPendingFetchers { r with caches := r.caches.cancel, mPendingFetchers := [] } i
  rw [hfetchers]
  split <;> exact ⟨rfl, rfl, rfl⟩

theorem step_carries (e : Event) (hbooks : Books r) (hnew : NewEnough r e) (h : Carries r)
    (hr : step r e = .ok r') : Carries r' := by
  cases e with
  | fetch inMetaData publishedLocation version => exact fetch_carries hbooks h hnew hr
  | result i publication =>
    rcases told_ok hr with rfl | ⟨hi, hr⟩
    · exact h
    · exact onResult_carries hbooks h hi hnew hr
  | notFound i =>
    rcases told_ok hr with rfl | ⟨hi, hr⟩
    · exact h
    · exact onError_carries hbooks h (hnew hi) hr
  | error i errorCode errorReason =>
    rcases told_ok hr with rfl | ⟨hi, hr⟩
    · exact h
    · exact onError_carries hbooks h (hnew hi) hr
  | timedOut i =>
    rcases told_ok hr with rfl | ⟨hi, hr⟩
    · exact h
    · simp only [Repository.onMessageMonitorTimedOut] at hr
      split at hr
      case isTrue => exact cancelFetcher_carries hbooks h (hnew hi) hr
      case isFalse =>
        cases hr
        exact h
  | cancelFetcher i =>
    rcases told_ok hr with rfl | ⟨hi, hr⟩
    · exact h
    · exact cancelFetcher_carries hbooks h (hnew hi) hr
  | cache e =>
    cases hr
    exact h
  | cancel =>
    cases hr
    exact cancel_carries h

/-- In every run of any caches one fetcher of each publication at most has a request outstanding, and while what is
found and answered is new enough and the others are served whenever one of them ends as if they were, every fetcher that
has succeeded carries a publication of the version that was asked for, or of a later one. -/
theorem fetches_new_enough (caches : Caching.Repository) (fetchers : Nat → Fetcher) (events : List Event)
    (r : Repository) (hr : Runs.tryRun step (init caches fetchers) events = .ok r) :
    (∀ i < r.created, ∀ j < r.created, (r.fetchers i).mMonitor = true → (r.fetchers j).mMonitor = true →
      r.isMatching i j = true → i = j) ∧
    (Runs.TryMeets step NewEnough (init caches fetchers) events →
      ∀ i < r.created, (r.fetchers i).mDelegate = false → (r.fetchers i).mSucceeded = true →
        ∃ p, (r.fetchers i).mFetchedPublication = some p ∧ (r.fetchers i).asked ≤ p.publication.mVersion) := by
  constructor
  · have hbooks := Runs.tryRun_invariant Books (fun _ e _ _ h hs => step_books h e hs)
      (Runs.tryMeets_true step _ events) (init_books caches fetchers) hr
    intro i hi j hj hactive hactive' hij
    exact hbooks.one_outstanding hi hj hactive hactive' hij
  · intro hmeets i hi _ hsucceeded
    have hinit : Books (init caches fetchers) ∧ Carries (init caches fetchers) :=
      ⟨init_books caches fetchers, fun i hi => absurd hi (Nat.not_lt_zero i)⟩
    have hcarries := Runs.tryRun_invariant (fun r => Books r ∧ Carries r)
      (fun _ e _ hnew h hs => ⟨step_books h.1 e hs, step_carries e h.1 hnew h.2 hs⟩) hmeets hinit hr
    exact hcarries.2 i hi hsucceeded

section Samples

open Caching (alice bob sampleOf)

def versionOf (version : Nat) : PublicationObject :=
  { sampleOf 1 with publication := { (sampleOf 1).publication with mVersion := version } }

def sampleFetcher : Fetcher := { mPublicationMetaData := (sampleOf 1).cacheMetaData, mVersion := 0, asked := 0 }

def sampleInit : Repository := init (Caching.init alice fun _ => sampleOf 0) fun _ => sampleFetcher

/-- A fetch of the second version, which the third answers. -/
def answeredEvents : List Event := [.fetch (sampleOf 1).cacheMetaData bob 2, .result 0 (versionOf 3)]

theorem fetches_new_enough_sample : ∃ r, Runs.tryRun step sampleInit answeredEvents = .ok r ∧
    ∃ p, (r.fetchers 0).mFetchedPublication = some p ∧ (r.fetchers 0).asked ≤ p.publication.mVersion := by
  refine ⟨_, rfl, ?_⟩
  have hmeets : Runs.TryMeets step NewEnough sampleInit answeredEvents := by
    refine ⟨fun hlocal => absurd hlocal (by decide), fun r hr => ⟨fun _ _ => ?_, fun _ _ => trivial⟩⟩
    obtain rfl := Except.ok.inj hr
    refine ⟨by decide, fun existing _ _ j hj hji _ => ?_⟩
    exact absurd (List.mem_singleton.mp hj) hji
  exact (fetches_new_enough (Caching.init alice fun _ => sampleOf 0) (fun _ => sampleFetcher) answeredEvents _ rfl).2
    hmeets 0 (by decide) (by decide) (by decide)

/-- The cache has the second version of a publication and its fifth is fetched twice. When the first fetch times out the
second one succeeds with the second version. -/
theorem older_version :
    ∃ r p, Runs.tryRun step sampleInit
      [.cache (.peerPublishNotify (some bob) [versionOf 2]), .fetch (sampleOf 1).cacheMetaData bob 5,
        .fetch (sampleOf 1).cacheMetaData bob 5, .timedOut 0] = .ok r ∧
      (r.fetchers 1).mDelegate = false ∧ (r.fetchers 1).mSucceeded = true ∧
      (r.fetchers 1).mFetchedPublication = some p ∧ p.publication.mVersion < (r.fetchers 1).asked :=
  ⟨_, _, rfl, by decide, by decide, rfl, by decide⟩

end Samples

end OpenPeer.Fetching
