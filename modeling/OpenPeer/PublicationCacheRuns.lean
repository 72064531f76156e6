import OpenPeer.PublicationCaches
import OpenPeer.Runs

/-!
# The order of the caches

The key of an entry is told by the fields of an object that is updated in place. The maps stay
in order while each update leaves those fields alike, which all do but the one from a fetch:
there the lineage is the remote side's word.
-/
namespace OpenPeer.Caching

open OrderedMap
open Std (OrientedCmp ReflCmp TransCmp)

/-- What a repository is told, and what becomes of its publications. -/
inductive Event where
  | create (publication : PublicationObject)
  | updateData (i : Nat) (data : List UInt8)
  | updateDocument (i : Nat) (updatedDocumentToBeAdopted : Xml.Document)
  | updateRelationships (i : Nat) (relationships : List String)
  | publish (i : Nat)
  | remove (i : Nat)
  | peerPublish (location : Option Location) (publication : PublicationObject)
  | peerDelete (location : Option Location) (metaData : CacheMetaData)
  | peerPublishNotify (location : Option Location) (publicationList : List PublicationObject)
  | fetched (metaData : CacheMetaData) (publication : PublicationObject)
  | removed (i : Nat)
  | disconnected (location : Option Location)
  | timer (expires : Nat → Bool)
  | accountGone
  | cancel

/-- Only publications that exist are updated and published. -/
def step (r : Repository) : Event → Repository
  | .create publication => r.create publication
  | .updateData i data => r.update i fun p => p.updateData data
  | .updateDocument i document => r.update i fun p => (p.updateDocument document).1
  | .updateRelationships i relationships => r.update i fun p => (p.updateRelationships relationships).1
  | .publish i => if i < r.created then r.publish i else r
  | .remove i => r.remove i
  | .peerPublish location publication => r.onPeerPublish location publication
  | .peerDelete location metaData => r.onPeerDelete location metaData
  | .peerPublishNotify location publicationList => r.onPeerPublishNotify location publicationList
  | .fetched metaData publication => r.notifyFetched metaData publication
  | .removed i => r.notifyRemoved i
  | .disconnected location => r.onDisconnected location
  | .timer expires => r.onTimer expires
  | .accountGone => { r with mAccount := none }
  | .cancel => r.cancel

/-- Both maps are in the order of what their keys are now, no two entries match, and each is found by its own fields. -/
structure Sound (r : Repository) (map : CachedPublicationMap) : Prop where
  ordered : map.Pairwise fun a b => (r.metaData a.1).isLessThan (r.metaData b.1) false
  distinct : ∀ a ∈ map, ∀ b ∈ map, (r.metaData a.1).isMatching (r.metaData b.1) false → a = b
  found : ∀ e ∈ map, r.find map (r.metaData e.1) = some e ∧ r.find map (r.metaData e.2) = some e

/-- The publications of a map exist, and each is under a key that matches it. -/
structure Kept (r : Repository) (map : CachedPublicationMap) : Prop where
  sorted : Sorted r.metaData cacheCompare map
  alike : ∀ e ∈ map, cacheCompare (r.metaData e.1) (r.metaData e.2) = .eq
  exist : ∀ e ∈ map, e.1 < r.created ∧ e.2 < r.created

theorem Kept.sound {r : Repository} {map : CachedPublicationMap} (h : Kept r map) : Sound r map where
  ordered := h.sorted.imp cacheCompare_eq_lt.mp
  distinct _ ha _ hb hmatch := h.sorted.eq_of_eq ha hb (cacheCompare_eq_eq.mpr hmatch)
  found e he := ⟨h.sorted.find he ReflCmp.compare_self, h.sorted.find he (h.alike e he)⟩

/-- The publications of `r` are in `r'`, with fields that compare as before. -/
structure Alike (r r' : Repository) : Prop where
  created : r.created ≤ r'.created
  metaData : ∀ i < r.created, cacheCompare (r'.metaData i) (r.metaData i) = .eq

namespace Kept

variable {r r' : Repository} {map map' : CachedPublicationMap}

theorem congr (h : Kept r map) (halike : Alike r r') : Kept r' map where
  sorted := h.sorted.congr fun e he => halike.metaData e.1 (h.exist e he).1
  alike e he := by
    have hkey := halike.metaData e.1 (h.exist e he).1
    have hvalue := halike.metaData e.2 (h.exist e he).2
    exact TransCmp.eq_trans (TransCmp.eq_trans hkey (h.alike e he)) (OrientedCmp.eq_symm hvalue)
  exist e he := by
    have hexist := h.exist e he
    have hcreated := halike.created
    omega

theorem sublist (h : Kept r map) (hsub : map'.Sublist map) : Kept r map' where
  sorted := List.Pairwise.sublist hsub h.sorted
  alike e he := h.alike e (hsub.subset he)
  exist e he := h.exist e (hsub.subset he)

theorem erase (h : Kept r map) (metaData : CacheMetaData) : Kept r (r.erase map metaData) :=
  h.sublist (erase_sublist map metaData)

theorem insert (h : Kept r map) {i : Nat} (hi : i < r.created) : Kept r (r.insert map i) where
  sorted := h.sorted.insert i i
  alike e he := by
    rcases of_mem_insert he with hold | ⟨hvalue, -, heq⟩
    · exact h.alike e hold
    · rw [hvalue]
      exact heq
  exist e he := by
    rcases of_mem_insert he with hold | ⟨hvalue, hkey, -⟩
    · exact h.exist e hold
    · rcases hkey with hkey | ⟨a, ha, hkey⟩
      · simp [hvalue, hkey, hi]
      · simp [hvalue, hkey, hi, (h.exist a ha).1]

end Kept

theorem kept_nil (r : Repository) : Kept r [] where
  sorted := .nil
  alike := by simp
  exist := by simp

/-- Both caches of a repository. -/
structure Caches (r : Repository) : Prop where
  cachedLocal : Kept r r.mCachedLocalPublications
  cachedRemote : Kept r r.mCachedRemotePublications

namespace Caches

variable {r r' : Repository}

theorem congr (h : Caches r) (halike : Alike r r')
    (hlocal : r'.mCachedLocalPublications = r.mCachedLocalPublications)
    (hremote : r'.mCachedRemotePublications = r.mCachedRemotePublications) : Caches r' where
  cachedLocal := by
    rw [hlocal]
    exact h.cachedLocal.congr halike
  cachedRemote := by
    rw [hremote]
    exact h.cachedRemote.congr halike

theorem withLocal (h : Caches r) {map : CachedPublicationMap} (hmap : Kept r map) :
    Caches { r with mCachedLocalPublications := map } where
  cachedLocal := { hmap with }
  cachedRemote := ⟨h.cachedRemote.sorted, h.cachedRemote.alike, h.cachedRemote.exist⟩

theorem withRemote (h : Caches r) {map : CachedPublicationMap} (hmap : Kept r map) :
    Caches { r with mCachedRemotePublications := map } where
  cachedLocal := ⟨h.cachedLocal.sorted, h.cachedLocal.alike, h.cachedLocal.exist⟩
  cachedRemote := { hmap with }

end Caches

/-! ## What the updates leave alike -/

namespace Repository

variable (r : Repository)

theorem create_metaData_of_ne (p : PublicationObject) {i : Nat} (h : i ≠ r.created) :
    (r.create p).metaData i = r.metaData i := by
  simp [metaData, create, h]

theorem create_alike (p : PublicationObject) : Alike r (r.create p) where
  created := Nat.le_succ _
  metaData i hi := by
    rw [create_metaData_of_ne r p (by omega)]
    exact ReflCmp.compare_self

theorem set_alike {i : Nat} {p : PublicationObject} (h : cacheCompare p.cacheMetaData (r.metaData i) = .eq) :
    Alike r (r.set i p) where
  created := Nat.le_refl _
  metaData j _ := by
    by_cases hj : j = i
    · subst hj
      simpa [metaData, set] using h
    · have hkept : (r.set i p).metaData j = r.metaData j := by simp [metaData, set, hj]
      rw [hkept]
      exact ReflCmp.compare_self

theorem update_alike (i : Nat) {f : Publishing.Publication → Publishing.Publication}
    (hlineage : ∀ p, (f p).mLineage = p.mLineage) (hname : ∀ p, (f p).mName = p.mName) : Alike r (r.update i f) := by
  apply set_alike
  simp only [PublicationObject.cacheMetaData, hlineage, hname]
  exact ReflCmp.compare_self

theorem updateDocument_alike (i : Nat) (document : Xml.Document) :
    Alike r (r.update i fun p => (p.updateDocument document).1) := by
  apply update_alike
  all_goals
    intro p
    simp only [Publishing.Publication.updateDocument]
    repeat' split
    all_goals rfl

end Repository

theorem fetched_keeps (p fetchedPublication : Publishing.Publication) (noThrow : Bool) :
    (p.updateFromFetchedPublication fetchedPublication noThrow).1.mName = p.mName ∧
      (p.updateFromFetchedPublication fetchedPublication noThrow).1.mLineage =
        if (p.updateFromFetchedPublication fetchedPublication noThrow).2 = .updated then fetchedPublication.mLineage
        else p.mLineage := by
  simp only [Publishing.Publication.updateFromFetchedPublication]
  repeat' split
  all_goals simp_all [Publishing.Publication.takeMetaData]

namespace PublicationObject

theorem fetched_cacheMetaData (p fetchedPublication : PublicationObject) :
    (p.updateFromFetchedPublication fetchedPublication).1.cacheMetaData =
      if (p.updateFromFetchedPublication fetchedPublication).2 = .updated then
        { fetchedPublication.cacheMetaData with mName := p.publication.mName }
      else p.cacheMetaData := by
  have hkeeps := fetched_keeps p.publication fetchedPublication.publication false
  simp only [updateFromFetchedPublication, cacheMetaData, hkeeps]
  split
  case isTrue hupdated => simp [hupdated]
  case isFalse hnot => simp [hnot]

end PublicationObject

theorem fetched_version {p fetchedPublication : PublicationObject}
    (h : (p.updateFromFetchedPublication fetchedPublication).2 = .updated) :
    (p.updateFromFetchedPublication fetchedPublication).1.publication.mVersion =
      fetchedPublication.publication.mVersion := by
  simp only [PublicationObject.updateFromFetchedPublication, Publishing.Publication.updateFromFetchedPublication] at h ⊢
  repeat' split
  all_goals simp_all [Publishing.Publication.takeMetaData]

theorem eq_of_cacheCompare {x y : CacheMetaData} (h : cacheCompare x y = .eq) :
    x.mLineage = y.mLineage ∧ x.mName = y.mName := by
  have hmatch := cacheCompare_eq_eq.mp h
  simp only [CacheMetaData.isMatching] at hmatch
  grind

/-- The lineage is the one that was looked for, so that the publication stays where it is. -/
theorem fetched_alike {existing fetchedPublication : PublicationObject} {metaData : CacheMetaData}
    (hfound : cacheCompare existing.cacheMetaData metaData = .eq)
    (hmetaData : (existing.updateFromFetchedPublication fetchedPublication).2 = .updated →
      { fetchedPublication.cacheMetaData with mName := metaData.mName } = metaData) :
    cacheCompare (existing.updateFromFetchedPublication fetchedPublication).1.cacheMetaData existing.cacheMetaData =
      .eq := by
  rw [PublicationObject.fetched_cacheMetaData]
  split
  case isTrue hupdated =>
    have hname : existing.publication.mName = metaData.mName := (eq_of_cacheCompare hfound).2
    rw [hname, hmetaData hupdated]
    exact OrientedCmp.eq_symm hfound
  case isFalse => exact ReflCmp.compare_self

namespace Repository

variable {r : Repository}

theorem updateExisting_alike {map : CachedPublicationMap} (hkept : Kept r map) {metaData : CacheMetaData}
    {found : Nat × Nat} (hfound : r.find map metaData = some found) {publication : PublicationObject}
    (hmetaData : ((r.publications found.2).updateFromFetchedPublication publication).2 = .updated →
      { publication.cacheMetaData with mName := metaData.mName } = metaData) :
    Alike r (r.updateExisting found.2 publication) := by
  obtain ⟨hmem, hkey⟩ := of_find hfound
  apply set_alike
  have hvalue := OrientedCmp.eq_symm (hkept.alike found hmem)
  exact fetched_alike (TransCmp.eq_trans hvalue hkey) hmetaData

end Repository

/-! ## Runs -/

/-- A fetched publication that replaces one of the cache is of the lineage that was asked for. -/
def AnswersLineage (r : Repository) : Event → Prop
  | .fetched metaData publication =>
    match r.find r.mCachedRemotePublications metaData with
    | none => True
    | some found =>
      ((r.publications found.2).updateFromFetchedPublication publication).2 = .updated →
        publication.publication.mLineage = metaData.mLineage
  | _ => True

namespace Caches

variable {r : Repository}

section

variable (h : Caches r)
include h

theorem create (p : PublicationObject) : Caches (r.create p) := h.congr (r.create_alike p) rfl rfl

theorem cacheLocally {i : Nat} (hi : i < r.created) : Caches (r.cacheLocally i) :=
  h.withLocal (h.cachedLocal.insert hi)

theorem cacheRemotely {i : Nat} (hi : i < r.created) : Caches (r.cacheRemotely i) :=
  h.withRemote (h.cachedRemote.insert hi)

theorem publish {i : Nat} (hi : i < r.created) : Caches (r.publish i) := by
  simp only [Repository.publish]
  split
  · exact h
  · split
    · exact h.withLocal ((h.cachedLocal.erase (r.metaData i)).insert hi)
    · exact h

theorem remove (i : Nat) : Caches (r.remove i) := by
  simp only [Repository.remove]
  split
  · exact h
  · split
    · exact h.withLocal (h.cachedLocal.erase (r.metaData i))
    · exact h

theorem onPeerPublish (location : Option Location) (p : PublicationObject) : Caches (r.onPeerPublish location p) := by
  simp only [Repository.onPeerPublish]
  split
  · exact h
  · split
    case h_1 hfound => exact h.congr (Repository.updateExisting_alike h.cachedLocal hfound fun _ => rfl) rfl rfl
    case h_2 => exact (h.create _).cacheLocally (Nat.lt_succ_self r.created)

theorem onPeerDelete (location : Option Location) (metaData : CacheMetaData) :
    Caches (r.onPeerDelete location metaData) := by
  simp only [Repository.onPeerDelete]
  split
  · exact h
  · exact h.withLocal (h.cachedLocal.erase _)

theorem notifyPublication (location : Option Location) (p : PublicationObject) :
    Caches (r.notifyPublication location p) := by
  simp only [Repository.notifyPublication]
  split
  case h_1 hfound => exact h.congr (Repository.updateExisting_alike h.cachedRemote hfound fun _ => rfl) rfl rfl
  case h_2 =>
    split
    · exact h
    · exact (h.create _).cacheRemotely (Nat.lt_succ_self r.created)

theorem onPeerPublishNotify (location : Option Location) (publicationList : List PublicationObject) :
    Caches (r.onPeerPublishNotify location publicationList) := by
  simp only [Repository.onPeerPublishNotify]
  split
  · exact h
  · clear * - h
    induction publicationList generalizing r with
    | nil => exact h
    | cons publication publicationList ih =>
      simp only [Repository.notifyPublications]
      split
      · exact h.notifyPublication location publication
      · exact ih (h.notifyPublication location publication)

theorem notifyFetched {metaData : CacheMetaData} {p : PublicationObject}
    (hanswers : AnswersLineage r (.fetched metaData p)) : Caches (r.notifyFetched metaData p) := by
  simp only [Repository.notifyFetched]
  split
  case h_1 found hfound =>
    simp only [AnswersLineage, hfound] at hanswers
    refine h.congr (Repository.updateExisting_alike h.cachedRemote hfound fun hupdated => ?_) rfl rfl
    have hlineage : p.publication.mLineage = metaData.mLineage := hanswers hupdated
    simp [PublicationObject.cacheMetaData, hlineage]
  case h_2 => exact (h.create _).cacheRemotely (Nat.lt_succ_self r.created)

end

end Caches

theorem step_caches (r : Repository) (e : Event) (hanswers : AnswersLineage r e) (h : Caches r) :
    Caches (step r e) := by
  cases e with
  | create p => exact h.create p
  | updateData i data =>
    have halike : Alike r (r.update i fun p => p.updateData data) := r.update_alike i (fun _ => rfl) fun _ => rfl
    exact h.congr halike rfl rfl
  | updateDocument i document => exact h.congr (r.updateDocument_alike i document) rfl rfl
  | updateRelationships i relationships => exact h.congr (r.updateDocument_alike i _) rfl rfl
  | publish i =>
    simp only [step]
    split
    case isTrue hi => exact h.publish hi
    case isFalse => exact h
  | remove i => exact h.remove i
  | peerPublish location p => exact h.onPeerPublish location p
  | peerDelete location metaData => exact h.onPeerDelete location metaData
  | peerPublishNotify location publicationList => exact h.onPeerPublishNotify location publicationList
  | fetched metaData p => exact h.notifyFetched hanswers
  | removed i => exact h.withRemote (h.cachedRemote.erase (r.metaData i))
  | disconnected location => exact h.withLocal (h.cachedLocal.sublist List.filter_sublist)
  | timer expires => exact h.withRemote (h.cachedRemote.sublist List.filter_sublist)
  | accountGone => exact h.congr ⟨Nat.le_refl _, fun _ _ => ReflCmp.compare_self⟩ rfl rfl
  | cancel => exact ⟨kept_nil _, kept_nil _⟩

/-- A repository before anything is cached. No publication is created yet, whatever `publications` has. -/
def init (localLocation : Location) (publications : Nat → PublicationObject) : Repository :=
  { mAccount := some localLocation, publications, created := 0 }

theorem init_caches (localLocation : Location) (publications : Nat → PublicationObject) :
    Caches (init localLocation publications) := ⟨kept_nil _, kept_nil _⟩

/-- The order of the caches is a strict weak order under which publications are alike when they match, and while each
fetched publication that replaces one of the cache is of the lineage that was asked for, both caches are in that order,
have no two entries that match, and find each entry by its own fields. -/
theorem caches_sound (localLocation : Location) (publications : Nat → PublicationObject) (events : List Event) :
    (∀ ignoreLineage, IsStrictWeakOrder CacheMetaData (fun x y => x.isLessThan y ignoreLineage) ∧
      ∀ x y : CacheMetaData, x.isMatching y ignoreLineage = true ↔
        ¬x.isLessThan y ignoreLineage = true ∧ ¬y.isLessThan x ignoreLineage = true) ∧
    (Runs.Meets step AnswersLineage (init localLocation publications) events →
      Sound (Runs.run step (init localLocation publications) events)
        (Runs.run step (init localLocation publications) events).mCachedLocalPublications ∧
      Sound (Runs.run step (init localLocation publications) events)
        (Runs.run step (init localLocation publications) events).mCachedRemotePublications) := by
  constructor
  · intro ignoreLineage
    constructor
    · exact CacheMetaData.isLessThan_strictWeakOrder ignoreLineage
    · intro x y
      exact CacheMetaData.isMatching_iff_not_isLessThan x y ignoreLineage
  · intro hmeets
    have h := Runs.run_invariant Caches step_caches _ events hmeets (init_caches localLocation publications)
    exact ⟨h.cachedLocal.sound, h.cachedRemote.sound⟩

section Samples

def alice : Location := ⟨.local, some "peer://a", "1"⟩

def bob : Location := ⟨.peer, some "peer://b", "2"⟩

def sampleOf (lineage : Nat) : PublicationObject where
  publication :=
    { mLineage := lineage, mCreatorLocation := "", mName := "/x", mMimeType := "", mPublishedRelationships := [],
      mPublishedLocation := "", mExpires := 0, mData := some [] }
  mCreatorLocation := some bob
  mPublishedLocation := some bob

/-- Two publications that one peer notified about, and the answer of some lineage to a fetch of the first. -/
def sampleEvents (answered : Nat) : List Event :=
  [.peerPublishNotify (some bob) [sampleOf 1, sampleOf 5],
    .fetched (sampleOf 1).cacheMetaData (sampleOf answered)]

theorem caches_sound_sample :
    Sound (Runs.run step (init alice fun _ => sampleOf 0) (sampleEvents 1)) [(0, 0), (1, 1)] := by
  have hmeets : Runs.Meets step AnswersLineage (init alice fun _ => sampleOf 0) (sampleEvents 1) := by
    refine ⟨trivial, ?_, trivial⟩
    simp only [AnswersLineage]
    split
    · trivial
    · intro _
      rfl
  exact ((caches_sound alice (fun _ => sampleOf 0) (sampleEvents 1)).2 hmeets).2

/-- The answer of another lineage leaves its entry before one that it comes after. -/
theorem answered_lineage :
    (Runs.run step (init alice fun _ => sampleOf 0) (sampleEvents 9)).mCachedRemotePublications = [(0, 0), (1, 1)] ∧
    ¬Sound (Runs.run step (init alice fun _ => sampleOf 0) (sampleEvents 9)) [(0, 0), (1, 1)] := by
  have hmap : (Runs.run step (init alice fun _ => sampleOf 0) (sampleEvents 9)).mCachedRemotePublications =
      [(0, 0), (1, 1)] := by decide
  refine ⟨hmap, fun h => ?_⟩
  have hordered := List.rel_of_pairwise_cons h.ordered List.mem_cons_self
  exact absurd hordered (by decide)

end Samples

end OpenPeer.Caching
