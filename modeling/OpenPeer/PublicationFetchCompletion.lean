import OpenPeer.PublicationFetchVersions

/-!
# How fetches complete

A step of the fetchers has a state after it unless a difference throws, or a fetcher is to be
sent once the account is gone. A fetcher whose monitor was told, or that was cancelled, has
completed.
-/
namespace OpenPeer.Fetching

open Caching (CacheMetaData PublicationObject)
open Turns Repository

/-- The version of the publication in the remote cache. -/
def cachedVersion (r : Repository) (m : Nat) : Option Nat := (r.findRemote m).map fun p => p.publication.mVersion

/-- Each of the fetchers with these versions is served from the cache in turn, the first for the version before it. -/
def servedInTurn (cached : Option Nat) : (version : Nat) → (versions : List Nat) → Prop
  | _, [] => True
  | version, next :: versions => (∃ c, cached = some c ∧ version ≤ c) ∧ servedInTurn cached next versions

/-- The others of the publication of `i`, in their order. -/
def others (r : Repository) (i : Nat) : List Nat :=
  r.mPendingFetchers.filter fun j => j != i && r.isMatching i j

/-- The account is there for the others of the publication of `i`, or none of them needs it. -/
def OthersProvided (r : Repository) (i : Nat) : Prop :=
  r.caches.mAccount ≠ none ∨
    servedInTurn (cachedVersion r i) (r.fetchers i).mVersion ((others r i).map fun j => (r.fetchers j).mVersion)

/-- No difference that is fetched throws, and no fetcher is to be sent once the account is gone. -/
def Orderly (r : Repository) : Event → Prop
  | .fetch inMetaData publishedLocation version =>
      let metaData := { inMetaData with mPublishedLocation := some publishedLocation }
      publishedLocation.mType = .local ∨ r.caches.mAccount ≠ none ∨
        (∃ i ∈ r.mPendingFetchers, metaData.isMatching (r.fetchers i).mPublicationMetaData false = true) ∨
        ∃ found, r.caches.find r.caches.mCachedRemotePublications metaData = some found ∧
          version ≤ (r.caches.publications found.2).publication.mVersion
  | .result i publication => i < r.created → r.handles i = true →
      (∀ existing, r.findRemote i = some existing → ∀ t,
        (existing.updateFromFetchedPublication
          (located (r.fetchers i).mPublicationMetaData publication)).2 ≠ .trapped t) ∧
      OthersProvided { r with
        caches := r.caches.notifyFetched (r.fetchers i).mPublicationMetaData publication } i
  | .notFound i | .error i _ _ => i < r.created → r.handles i = true → OthersProvided r i
  | .timedOut i | .cancelFetcher i => i < r.created → r.Active i → OthersProvided r i
  | .cache _ | .cancel => True

/-- Those of the publication of `m` that are pending have what they need. -/
def Provided (r : Repository) (m : Nat) : Prop :=
  r.caches.mAccount ≠ none ∨
    servedInTurn (cachedVersion r m) (r.fetchers m).mVersion
      ((r.mPendingFetchers.filter (r.isMatching m)).map fun j => (r.fetchers j).mVersion)

variable {r : Repository} {m i : Nat}

theorem serve_provided {existing : PublicationObject} (hkept : Kept r)
    (hfind : r.mPendingFetchers.find? (r.isMatching m) = some i) (h : Provided r m) :
    Provided (r.serve i existing) i := by
  refine h.imp id fun hserved => ?_
  have hmi : r.isMatching m i = true := List.find?_some hfind
  have hsame := r.serve_sameMetaData i existing
  rw [filter_of_find? hfind] at hserved
  have hcached : cachedVersion (r.serve i existing) i = cachedVersion r m := by
    simp only [cachedVersion, @findRemote_congr r (r.serve i existing) _ _ rfl (hsame i) hmi]
  have hversion : ((r.serve i existing).fetchers i).mVersion = (r.fetchers i).mVersion := by
    simp [serve, leave_fetchers_self, Fetcher.complete, Fetcher.succeed, Fetcher.setPublication]
  have hversions : (((r.serve i existing).mPendingFetchers.filter ((r.serve i existing).isMatching i)).map
      fun j => ((r.serve i existing).fetchers j).mVersion) =
      ((r.mPendingFetchers.erase i).filter (r.isMatching m)).map fun j => (r.fetchers j).mVersion := by
    rw [hsame.isMatching, r.classes.eq_of_same hmi]
    refine List.map_congr_left fun j hj => ?_
    have hji : j ≠ i := fun heq => hkept.nodup.not_mem_erase (heq ▸ (List.mem_filter.mp hj).1)
    rw [r.serve_fetchers_of_ne existing hji]
  rw [hcached, hversion, hversions]
  exact hserved.2

/-- An activation ends when those who wait have what they need. -/
theorem activateFetcher_ok {pending : Nat} (hwaiting : Waiting r m) (h : Provided r m) :
    ∃ r', activateFetcher pending r m = .ok r' := by
  induction pending generalizing r m with
  | zero => exact ⟨r, rfl⟩
  | succ pending ih =>
    simp only [activateFetcher]
    cases hfind : r.mPendingFetchers.find? (r.isMatching m) with
    | none => exact ⟨r, rfl⟩
    | some i =>
      simp only
      split
      case isTrue => exact ⟨r, rfl⟩
      case isFalse =>
      cases hremote : r.findRemote m with
      | none =>
        have haccount : r.caches.mAccount ≠ none := by
          refine h.resolve_right fun hserved => ?_
          rw [filter_of_find? hfind] at hserved
          obtain ⟨⟨c, hc, -⟩, -⟩ := hserved
          simp [cachedVersion, hremote] at hc
        exact ⟨_, by rw [sendRequest_eq, if_pos (Option.isSome_iff_ne_none.mpr haccount)]⟩
      | some existing =>
        simp only
        split
        case isTrue =>
          exact ih (serve_waiting hwaiting hfind) (serve_provided hwaiting.toKept hfind h)
        case isFalse hversion =>
          have haccount : r.caches.mAccount ≠ none := by
            refine h.resolve_right fun hserved => ?_
            rw [filter_of_find? hfind] at hserved
            obtain ⟨⟨c, hc, hle⟩, -⟩ := hserved
            simp only [cachedVersion, hremote, Option.map_some, Option.some.injEq] at hc
            omega
          exact ⟨_, by rw [sendRequest_eq, if_pos (Option.isSome_iff_ne_none.mpr haccount)]⟩

theorem leave_provided (hkept : Kept r) (h : OthersProvided r i) : Provided (r.leave i) i := by
  refine h.imp id fun hserved => ?_
  have hsame : r.SameMetaData (r.leave i) := r.modify_sameMetaData (f := Fetcher.complete) rfl
  have hcached : cachedVersion (r.leave i) i = cachedVersion r i := by
    simp only [cachedVersion, @findRemote_congr r (r.leave i) _ _ rfl (hsame i) (r.classes.refl i)]
  have hversion : ((r.leave i).fetchers i).mVersion = (r.fetchers i).mVersion := by
    simp [leave_fetchers_self, Fetcher.complete]
  have hothers : (r.leave i).mPendingFetchers.filter ((r.leave i).isMatching i) = others r i := by
    change (r.mPendingFetchers.erase i).filter _ = _
    rw [leave_isMatching, hkept.nodup.erase_eq_filter, List.filter_filter, others]
    refine List.filter_congr fun j _ => ?_
    exact Bool.and_comm _ _
  rw [hcached, hversion, hothers]
  have hversions : (others r i).map (fun j => ((r.leave i).fetchers j).mVersion) =
      (others r i).map fun j => (r.fetchers j).mVersion := by
    refine List.map_congr_left fun j hj => ?_
    have hji : j ≠ i := by
      have hmem := (List.mem_filter.mp hj).2
      simp_all
    rw [r.leave_fetchers_of_ne hji]
  rw [hversions]
  exact hserved

theorem cancelFetcher_ok (hbooks : Books r) (h : r.Active i → OthersProvided r i) :
    ∃ r', r.cancelFetcher i = .ok r' := by
  simp only [cancelFetcher]
  split
  case isTrue hmem =>
    by_cases hturn : r.Active i
    · exact activateFetcher_ok (hbooks.leave_of_active hmem hturn) (leave_provided hbooks.toKept (h hturn))
    · exact ⟨_, (hbooks.leave_of_waiting hmem hturn).activateFetcher _ _⟩
  case isFalse => exact ⟨_, rfl⟩

/-- The others are provided for as before when only what `i` carries has changed. -/
theorem OthersProvided.modify (h : OthersProvided r i) {f : Fetcher → Fetcher}
    (hmetaData : (f (r.fetchers i)).mPublicationMetaData = (r.fetchers i).mPublicationMetaData)
    (hversion : ∀ x, (f x).mVersion = x.mVersion) : OthersProvided (r.modify i f) i := by
  refine h.imp id fun hserved => ?_
  have hsame := r.modify_sameMetaData hmetaData
  have hversions : ∀ j, ((r.modify i f).fetchers j).mVersion = (r.fetchers j).mVersion := by
    intro j
    by_cases hji : j = i
    · subst hji
      rw [r.modify_fetchers_self, hversion]
    · rw [r.modify_fetchers_of_ne f hji]
  have hcached : cachedVersion (r.modify i f) i = cachedVersion r i := by
    simp only [cachedVersion, @findRemote_congr r (r.modify i f) _ _ rfl (hsame i) (r.classes.refl i)]
  simpa only [others, hsame.isMatching, hcached, hversions, modify_mPendingFetchers] using hserved

theorem onResult_ok {publication : PublicationObject} (hbooks : Books r) (hi : i < r.created)
    (h : Orderly r (.result i publication)) : ∃ r', r.onResult i publication = .ok r' := by
  simp only [onResult]
  split
  case isTrue hhandles =>
    obtain ⟨hprocessed, hothers⟩ := h hi hhandles
    obtain ⟨carried, hcarried⟩ : ∃ carried, r.carried i publication = .ok carried := by
      simp only [carried]
      cases hremote : r.findRemote i with
      | none => exact ⟨_, rfl⟩
      | some existing =>
        simp only
        split
        case h_1 => exact ⟨_, rfl⟩
        case h_2 => exact ⟨_, rfl⟩
        case h_3 t htrapped => exact absurd htrapped (hprocessed existing hremote t)
    rw [hcarried]
    have hcaches := hbooks.withCaches (r.caches.notifyFetched (r.fetchers i).mPublicationMetaData publication)
    have hmodified := hcaches.modify (i := i) (f := fun f => f.succeed.setPublication carried)
      ⟨rfl, rfl, rfl, rfl, rfl⟩ rfl
    exact cancelFetcher_ok hmodified fun _ => hothers.modify rfl fun _ => rfl
  case isFalse => exact ⟨r, rfl⟩

theorem onError_ok {errorCode : Nat} {errorReason : String} (hbooks : Books r)
    (h : r.handles i = true → OthersProvided r i) : ∃ r', r.onError i errorCode errorReason = .ok r' := by
  simp only [onError]
  split
  case isTrue hhandles =>
    have hmodified := hbooks.modify (i := i) (f := fun f => f.fail errorCode errorReason) ⟨rfl, rfl, rfl, rfl, rfl⟩ rfl
    exact cancelFetcher_ok hmodified fun _ => (h hhandles).modify rfl fun _ => rfl
  case isFalse => exact ⟨r, rfl⟩

/-- A fetch that is the first of its publication is served if the cache has the version. -/
theorem enqueue_provided {metaData : CacheMetaData} {version : Nat} {found : Nat × Nat}
    (hfirst : ∀ i ∈ r.mPendingFetchers, ¬(enqueue r metaData version).isMatching r.created i = true)
    (hfound : r.caches.find r.caches.mCachedRemotePublications metaData = some found)
    (hversion : version ≤ (r.caches.publications found.2).publication.mVersion) :
    Provided (enqueue r metaData version) r.created := by
  have hself : (enqueue r metaData version).fetchers r.created =
      { mPublicationMetaData := metaData, mVersion := version, asked := version } := create_fetchers_self
  have hcached : cachedVersion (enqueue r metaData version) r.created =
      some (r.caches.publications found.2).publication.mVersion := by
    simp only [cachedVersion, findRemote, hself]
    rw [show (enqueue r metaData version).caches = r.caches from rfl, hfound]
    rfl
  have hwaiting : (enqueue r metaData version).mPendingFetchers.filter
      ((enqueue r metaData version).isMatching r.created) = [r.created] := by
    change (r.mPendingFetchers ++ [r.created]).filter _ = _
    rw [List.filter_append, List.filter_eq_nil_iff.mpr hfirst, List.nil_append,
      List.filter_cons_of_pos ((classes _).refl _), List.filter_nil]
  right
  rw [hcached, hwaiting, List.map_singleton, hself]
  exact ⟨⟨_, rfl, hversion⟩, trivial⟩

theorem fetch_ok {inMetaData : CacheMetaData} {publishedLocation : Location} {version : Nat}
    (hbooks : Books r) (h : Orderly r (.fetch inMetaData publishedLocation version)) :
    ∃ r', r.fetch inMetaData publishedLocation version = .ok r' := by
  simp only [fetch]
  split
  case isTrue =>
    split
    · exact ⟨_, rfl⟩
    · exact ⟨_, rfl⟩
  case isFalse hremote =>
    rcases @enqueue_spec r { inMetaData with mPublishedLocation := some publishedLocation } version hbooks
      with hkept | ⟨hwaiting, hfirst⟩
    · exact ⟨_, hkept.activateFetcher _ _⟩
    · refine activateFetcher_ok hwaiting ?_
      rcases h with hlocal | haccount | ⟨i, hi, hmatch⟩ | ⟨found, hfound, hversion⟩
      · exact absurd hlocal hremote
      · exact .inl haccount
      · refine absurd ?_ (hfirst i hi)
        have hold : (enqueue r { inMetaData with mPublishedLocation := some publishedLocation } version).fetchers i =
            r.fetchers i := create_fetchers_of_lt (hbooks.exist i hi)
        simp only [isMatching, hold]
        simpa [enqueue, create_fetchers_self] using hmatch
      · exact enqueue_provided hfirst hfound hversion

theorem step_ok (hbooks : Books r) (e : Event) (h : Orderly r e) : ∃ r', step r e = .ok r' := by
  have htold : ∀ i x, (i < r.created → ∃ r', x = .ok r') → ∃ r', told r i x = .ok r' := by
    intro i x hx
    simp only [told]
    split
    case isTrue hi => exact hx hi
    case isFalse => exact ⟨r, rfl⟩
  cases e with
  | fetch inMetaData publishedLocation version => exact fetch_ok hbooks h
  | result i publication => exact htold i _ fun hi => onResult_ok hbooks hi h
  | notFound i => exact htold i _ fun hi => onError_ok hbooks (h hi)
  | error i errorCode errorReason => exact htold i _ fun hi => onError_ok hbooks (h hi)
  | timedOut i =>
    refine htold i _ fun hi => ?_
    simp only [onMessageMonitorTimedOut]
    split
    case isTrue hmonitor => exact cancelFetcher_ok hbooks (h hi)
    case isFalse => exact ⟨r, rfl⟩
  | cancelFetcher i => exact htold i _ fun hi => cancelFetcher_ok hbooks (h hi)
  | cache e => exact ⟨_, rfl⟩
  | cancel => exact ⟨_, rfl⟩

/-! ## Who has completed -/

variable {r' : Repository}

theorem activate_complete (hr : r.activate m = .ok r') (h : (r.fetchers i).mDelegate = false) :
    (r'.fetchers i).mDelegate = false := by
  apply activateFetcher_induct (P := fun r _ => (r.fetchers i).mDelegate = false) ?_ ?_ ?_ ?_
    (Nat.le_refl _) h hr
  · intro r m h _
    exact h
  · intro r m j h _ _
    exact h
  · intro r m j existing h _ _ _ _
    by_cases hij : i = j
    · subst hij
      simp [serve, leave_fetchers_self, Fetcher.complete]
    · rwa [r.serve_fetchers_of_ne existing hij]
  · intro r m j version h _ _
    by_cases hij : i = j
    · subst hij
      rw [r.sendWith_fetchers_self]
      split <;> exact h
    · rw [r.sendWith_fetchers_of_ne version hij]
      split <;> exact h

theorem cancelFetcher_complete (hr : r.cancelFetcher i = .ok r') : (r'.fetchers i).mDelegate = false := by
  simp only [cancelFetcher] at hr
  split at hr
  case isTrue =>
    refine activate_complete hr ?_
    simp [leave_fetchers_self, Fetcher.complete]
  case isFalse =>
    cases hr
    simp [Fetcher.complete]

/-- The fetcher that is told by its monitor. -/
def Event.toMonitor : Event → Option Nat
  | .result i _ | .notFound i | .error i _ _ | .timedOut i => some i
  | _ => none

/-- A fetcher whose monitor is told has completed. -/
theorem step_complete {e : Event} (he : e.toMonitor = some i) (hi : i < r.created)
    (hhandles : r.handles i = true) (hr : step r e = .ok r') : (r'.fetchers i).mDelegate = false := by
  cases e with
  | result j publication =>
    obtain rfl := Option.some.inj he
    simp only [step, told, if_pos hi, onResult, hhandles, if_true] at hr
    split at hr
    case h_1 => cases hr
    case h_2 => exact cancelFetcher_complete hr
  | notFound j =>
    obtain rfl := Option.some.inj he
    simp only [step, told, if_pos hi, onNotFound, onError, hhandles, if_true] at hr
    exact cancelFetcher_complete hr
  | error j errorCode errorReason =>
    obtain rfl := Option.some.inj he
    simp only [step, told, if_pos hi, onError, hhandles, if_true] at hr
    exact cancelFetcher_complete hr
  | timedOut j =>
    obtain rfl := Option.some.inj he
    have hmonitor : (r.fetchers j).mMonitor = true := by
      simp only [handles, Bool.and_eq_true] at hhandles
      exact hhandles.2
    simp only [step, told, if_pos hi, onMessageMonitorTimedOut, hmonitor, if_true] at hr
    exact cancelFetcher_complete hr
  | fetch _ _ _ => cases he
  | cancelFetcher _ => cases he
  | cache _ => cases he
  | cancel => cases he

end OpenPeer.Fetching
