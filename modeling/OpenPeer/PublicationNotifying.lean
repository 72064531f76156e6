import Mathlib.Data.List.Sort
import OpenPeer.Keyed
import OpenPeer.PublicationLatest

/-!
# The versions a peer is notified about

For each peer a cache remembers up to which version the peer was told of a publication, or
has fetched it. A notification begins after that version, and is held back while what it
takes does not fit into what is left of a message.
-/
namespace OpenPeer.Publishing

open Xml Std Diff

/-- What a cache orders publications by. -/
structure CacheKey where
  mCreatorLocation : String
  mLineage : Nat
  mName : String
  mPublishedLocation : String
  deriving DecidableEq

def PublicationMetaData.cacheKey (metaData : PublicationMetaData) : CacheKey :=
  { metaData with }

section Sizes

variable (convertToBase64 : List UInt8 → String) (getOutputSize : List Node → Nat)

namespace Publication

/-- The size of binary data, as it is or as a node would show it. -/
def getDataOutputSize (p : Publication) (rawSizeOkay : Bool) : Nat :=
  match p.mData with
  | none => 0
  | some data => if rawSizeOkay then data.length else getOutputSize [.text (convertToBase64 data)]

/-- Binary data is taken as it is, whatever the caller asks for. -/
def getEntirePublicationOutputSize (p : Publication) : Nat :=
  match p.mDocument with
  | none => p.getDataOutputSize convertToBase64 getOutputSize true
  | some document => getOutputSize document

/-- The loop over the versions, which is left for the whole document at the first that has no difference. -/
def addDiffSizes (p : Publication) : List Nat → Nat → Nat
  | [], outOutputSizeInBytes => outOutputSizeInBytes
  | version :: versions, outOutputSizeInBytes =>
    match p.mDiffDocuments[version]? with
    | none => p.getEntirePublicationOutputSize convertToBase64 getOutputSize
    | some doc => addDiffSizes p versions (outOutputSizeInBytes + getOutputSize doc)

def getDiffVersionsOutputSize (p : Publication) (fromVersionNumber toVersionNumber : Nat) (rawSizeOkay : Bool) :
    Except Trap Nat :=
  if toVersionNumber < fromVersionNumber then .error .thrown
  else
    match p.mDocument with
    | none => .ok (p.getDataOutputSize convertToBase64 getOutputSize rawSizeOkay)
    | some _ =>
      let versions := List.range' fromVersionNumber (toVersionNumber + 1 - fromVersionNumber)
      .ok (p.addDiffSizes convertToBase64 getOutputSize versions 0)

end Publication

/-- The publications a peer was told of, each under its own fields. -/
structure PeerCache where
  mCachedPublications : List PublicationMetaData := []

namespace PeerCache

def find (cache : PeerCache) (key : CacheKey) : Option PublicationMetaData :=
  cache.mCachedPublications.find? fun metaData => metaData.cacheKey = key

def put (cache : PeerCache) (metaData : PublicationMetaData) : PeerCache :=
  ⟨Keyed.put PublicationMetaData.cacheKey cache.mCachedPublications metaData⟩

/-- What is left of `ioMaxSizeAvailableInBytes`, and the versions to notify about if there are any. -/
def getNextVersionToNotifyAboutAndMarkNotified (cache : PeerCache) (publication : Publication)
    (ioMaxSizeAvailableInBytes : Nat) : Except Trap (PeerCache × Nat × Option (Nat × Nat)) :=
  match cache.find publication.cacheKey with
  | some metaData =>
    let metaData := { metaData with mExpires := publication.mExpires }
    let nextVersionToNotify := metaData.mVersion + 1
    if publication.mVersion < nextVersionToNotify then .ok (cache.put metaData, ioMaxSizeAvailableInBytes, none)
    else
      match publication.getDiffVersionsOutputSize convertToBase64 getOutputSize nextVersionToNotify
          publication.mVersion true with
      | .error t => .error t
      | .ok outputSize =>
        if ioMaxSizeAvailableInBytes < outputSize then .ok (cache.put metaData, ioMaxSizeAvailableInBytes, none)
        else .ok (cache.put { metaData with mVersion := publication.mVersion },
          ioMaxSizeAvailableInBytes - outputSize, some (nextVersionToNotify, publication.mVersion))
  | none =>
    let outputSize := publication.getEntirePublicationOutputSize convertToBase64 getOutputSize
    if ioMaxSizeAvailableInBytes < outputSize then .ok (cache, ioMaxSizeAvailableInBytes, none)
    else
      let metaData := { publication.toPublicationMetaData with mBaseVersion := 0, mVersion := publication.mVersion }
      .ok (cache.put metaData, ioMaxSizeAvailableInBytes - outputSize, some (0, publication.mVersion))

def notifyFetched (cache : PeerCache) (publication : Publication) : PeerCache :=
  match cache.find publication.cacheKey with
  | some metaData => cache.put { metaData with mVersion := publication.mVersion }
  | none => cache.put { publication.toPublicationMetaData with mBaseVersion := 0, mVersion := publication.mVersion }

/-- The version a publication was marked with. -/
def marked (cache : PeerCache) (key : CacheKey) : Option Nat := (cache.find key).map fun metaData => metaData.mVersion

theorem marked_put (cache : PeerCache) (metaData : PublicationMetaData) (key : CacheKey) :
    (cache.put metaData).marked key = if metaData.cacheKey = key then some metaData.mVersion else cache.marked key := by
  have hfound : (cache.put metaData).find key = if metaData.cacheKey = key then some metaData else cache.find key :=
    Keyed.find?_put cache.mCachedPublications metaData key
  rw [marked, hfound]
  split
  · simp
  · simp [marked]

variable {cache : PeerCache} {key : CacheKey} {metaData : PublicationMetaData}

theorem cacheKey_of_find (h : cache.find key = some metaData) : metaData.cacheKey = key := by
  simpa using List.find?_some h

theorem marked_of_find (h : cache.find key = some metaData) : cache.marked key = some metaData.mVersion := by
  simp [marked, h]

end PeerCache

/-- A publication, what a peer was told of it, and each version the peer was told of or fetched, the last first. -/
structure Notifying where
  publication : Publication
  peerCache : PeerCache
  marks : List (CacheKey × Nat)

/-- The last version that was marked under these fields. -/
def lastMarked (marks : List (CacheKey × Nat)) (key : CacheKey) : Option Nat :=
  (marks.find? fun mark => mark.1 = key).map Prod.snd

inductive NotifyCall where
  | update (update : Update)
  | notify (ioMaxSizeAvailableInBytes : Nat)
  | fetched

namespace Notifying

/-- A publication, and a cache with what it remembers of other publications or of one with the same fields. -/
def start (publication : Publication) (peerCache : PeerCache) : Notifying where
  publication := publication
  peerCache := peerCache
  marks := peerCache.mCachedPublications.map fun metaData => (metaData.cacheKey, metaData.mVersion)

def markNotified (s : Notifying) : Except Trap (PeerCache × Nat × Option (Nat × Nat)) → Notifying
  | .error _ => s
  | .ok (peerCache, _, none) => { s with peerCache := peerCache }
  | .ok (peerCache, _, some (_, toVersion)) =>
    { s with peerCache := peerCache, marks := (s.publication.cacheKey, toVersion) :: s.marks }

def step (s : Notifying) : NotifyCall → Notifying
  | .update update => { s with publication := Publishing.step s.publication update }
  | .notify ioMaxSizeAvailableInBytes =>
    s.markNotified (s.peerCache.getNextVersionToNotifyAboutAndMarkNotified convertToBase64 getOutputSize s.publication
      ioMaxSizeAvailableInBytes)
  | .fetched =>
    { s with
      peerCache := s.peerCache.notifyFetched s.publication
      marks := (s.publication.cacheKey, s.publication.mVersion) :: s.marks }

end Notifying

/-- What is sized for the versions from one on: binary data, the whole document, or each of their differences; with the
node that shows it, and the version the node begins with. -/
inductive Sized (p : Publication) (fromVersion : Nat) : Nat → Option Node × Nat → Prop
  | nothing (hdocument : p.mDocument = none) (hdata : p.mData = none) : Sized p fromVersion 0 (none, fromVersion)
  | data {bytes : List UInt8} (hdocument : p.mDocument = none) (hdata : p.mData = some bytes) :
    Sized p fromVersion bytes.length (some (.text (convertToBase64 bytes)), fromVersion)
  | whole {document : Document} (hdocument : p.mDocument = some document)
    (hmissing : fromVersion = 0 ∨
      ∃ version, fromVersion ≤ version ∧ version ≤ p.mVersion ∧ version ∉ p.mDiffDocuments) :
    Sized p fromVersion (getOutputSize document) ((Publication.firstChildElement document).map .element, 0)
  | differences {document : Document} {docs : List Document} {diffOutputEl : Element}
    (hdocument : p.mDocument = some document) (hfrom : fromVersion ≠ 0)
    (hdocs : (List.range' fromVersion (p.mVersion + 1 - fromVersion)).map (fun version => p.mDiffDocuments[version]?) =
      docs.map some)
    (hitems : diffOutputEl.childElements "item" = docs.flatMap itemsOf) :
    Sized p fromVersion (docs.map getOutputSize).sum (some (.element diffOutputEl), fromVersion)

/-- The answers there are: to notify about nothing and to remember no other version, or to notify about all versions
after the last one marked, for what the publication takes that is then returned. -/
inductive NextVersion (s : Notifying) (ioMaxSizeAvailableInBytes : Nat) :
    Except Trap (PeerCache × Nat × Option (Nat × Nat)) → Prop
  | refused {peerCache : PeerCache} (hmarked : ∀ key, peerCache.marked key = s.peerCache.marked key) :
    NextVersion s ioMaxSizeAvailableInBytes (.ok (peerCache, ioMaxSizeAvailableInBytes, none))
  | notified {peerCache : PeerCache} {fromVersion outputSize : Nat} {output : Option Node × Nat}
    (hfrom : fromVersion = (lastMarked s.marks s.publication.cacheKey).elim 0 (· + 1))
    (hto : fromVersion ≤ s.publication.mVersion) (hsize : outputSize ≤ ioMaxSizeAvailableInBytes)
    (hmarked : ∀ key, peerCache.marked key =
      if s.publication.cacheKey = key then some s.publication.mVersion else s.peerCache.marked key)
    (hdiffs : s.publication.getDiffs convertToBase64 fromVersion s.publication.mVersion = .ok output)
    (hsized : Sized convertToBase64 getOutputSize s.publication fromVersion outputSize output) :
    NextVersion s ioMaxSizeAvailableInBytes
      (.ok (peerCache, ioMaxSizeAvailableInBytes - outputSize, some (fromVersion, s.publication.mVersion)))

end Sizes

section Kept

variable {p : Publication}

/-- Only differences are kept for later versions. -/
def KeepsDiffs (p : Publication) : Prop := ∀ entry ∈ p.mDiffDocuments.toList, Publication.isDiff entry.2 = true

theorem keepsDiffs_of_empty (h : p.mDiffDocuments = ∅) : KeepsDiffs p := by
  simp [KeepsDiffs, h]

theorem keepsDiffs_updateDocument (h : KeepsDiffs p) (document : Document) :
    KeepsDiffs (p.updateDocument document).1 := by
  cases hdiff : Publication.isDiff document with
  | false =>
    rw [Publication.updateDocument_whole hdiff]
    exact keepsDiffs_of_empty rfl
  | true =>
    cases hprocess : Publication.processOn p.mDocument document with
    | error t =>
      rw [Publication.updateDocument_error hdiff hprocess]
      exact fun entry hentry => h entry (mem_advanced hentry)
    | ok result =>
      rw [Publication.updateDocument_processed hdiff hprocess]
      intro entry hentry
      rcases Maps.mem_of_mem_insert hentry with rfl | hkept
      · exact hdiff
      · exact h entry (mem_advanced hkept)

theorem keepsDiffs_fetched (h : KeepsDiffs p) (fetchedPublication : Publication) (noThrow : Bool) :
    KeepsDiffs (p.updateFromFetchedPublication fetchedPublication noThrow).1 := by
  have htaken : ∀ p' : Publication, KeepsDiffs (p'.takeMetaData fetchedPublication) :=
    fun _ => keepsDiffs_of_empty rfl
  simp only [Publication.updateFromFetchedPublication]
  repeat' split
  all_goals first | exact htaken _ | exact h

theorem keepsDiffs_step (h : KeepsDiffs p) (update : Update) : KeepsDiffs (step p update) := by
  cases update with
  | data bytes => exact keepsDiffs_of_empty rfl
  | document updated => exact keepsDiffs_updateDocument h updated
  | relationships relationshipList => exact keepsDiffs_updateDocument h _
  | fetched fetchedPublication noThrow => exact keepsDiffs_fetched h fetchedPublication noThrow

theorem keepsDiffs_created {convertFromBase64 : String → List UInt8} {latest : Latest}
    (h : Created convertFromBase64 p latest) : KeepsDiffs p := by
  cases h <;> exact keepsDiffs_of_empty rfl

/-- The differences of some versions, in the order of the versions. -/
def diffsBetween (p : Publication) (fromVersion toVersion : Nat) : List (Nat × Document) :=
  (p.mDiffDocuments.toList.filter fun entry => fromVersion ≤ entry.1).filter fun entry => entry.1 ≤ toVersion

variable {fromVersion toVersion : Nat}

theorem mem_diffsBetween {entry : Nat × Document} :
    entry ∈ diffsBetween p fromVersion toVersion ↔
      p.mDiffDocuments[entry.1]? = some entry.2 ∧ fromVersion ≤ entry.1 ∧ entry.1 ≤ toVersion := by
  have htoList : entry ∈ p.mDiffDocuments.toList ↔ p.mDiffDocuments[entry.1]? = some entry.2 :=
    ExtTreeMap.mem_toList_iff_getElem?_eq_some
  simp only [diffsBetween, List.mem_filter, htoList, decide_eq_true_eq, and_assoc]

theorem sortedLT_diffsBetween (fromVersion toVersion : Nat) :
    ((diffsBetween p fromVersion toVersion).map Prod.fst).SortedLT := by
  have hordered : p.mDiffDocuments.toList.Pairwise fun a b => a.1 < b.1 := by
    have h := p.mDiffDocuments.ordered_keys_toList
    exact h.imp fun hlt => Nat.compare_eq_lt.mp hlt
  rw [List.sortedLT_iff_pairwise, List.pairwise_map]
  exact (hordered.filter _).filter _

section

variable {docs : List Document}
  (hdocs : (List.range' fromVersion (toVersion + 1 - fromVersion)).map (fun version => p.mDiffDocuments[version]?) = docs.map some)
include hdocs

/-- Where no version is without a difference, the differences are those of the versions in a row. -/
theorem map_fst_diffsBetween :
    (diffsBetween p fromVersion toVersion).map Prod.fst =
      List.range' fromVersion (toVersion + 1 - fromVersion) := by
  have hrange : (List.range' fromVersion (toVersion + 1 - fromVersion)).SortedLT :=
    List.sortedLT_iff_pairwise.mpr (List.pairwise_lt_range' 1)
  apply (sortedLT_diffsBetween fromVersion toVersion).eq_of_mem_iff hrange
  intro version
  rw [List.mem_map, List.mem_range'_1]
  constructor
  · rintro ⟨entry, hentry, rfl⟩
    have hbounds := (mem_diffsBetween.mp hentry).2
    omega
  · intro hbounds
    have hmem : p.mDiffDocuments[version]? ∈ docs.map some := by
      rw [← hdocs]
      exact List.mem_map.mpr ⟨version, List.mem_range'_1.mpr hbounds, rfl⟩
    obtain ⟨doc, -, hdoc⟩ := List.mem_map.mp hmem
    exact ⟨(version, doc), mem_diffsBetween.mpr ⟨hdoc.symm, by omega, by omega⟩, rfl⟩

theorem map_snd_diffsBetween : (diffsBetween p fromVersion toVersion).map Prod.snd = docs := by
  have hfound : (diffsBetween p fromVersion toVersion).map (fun entry => some entry.2) =
      ((diffsBetween p fromVersion toVersion).map Prod.fst).map fun version => p.mDiffDocuments[version]? := by
    rw [List.map_map]
    exact List.map_congr_left fun entry hentry => (mem_diffsBetween.mp hentry).1.symm
  rw [map_fst_diffsBetween hdocs, hdocs] at hfound
  have hsome : ((diffsBetween p fromVersion toVersion).map Prod.snd).map some = docs.map some := by
    rw [List.map_map]
    exact hfound
  exact List.map_injective_iff.mpr (Option.some_injective Document) hsome

end

theorem joinDiffs_of_row {diffs : List (Nat × Document)} {currentVersion : Nat} {diffOutputEl : Option Element}
    (hversions : diffs.map Prod.fst = List.range' currentVersion diffs.length)
    (hdiffs : ∀ entry ∈ diffs, Publication.isDiff entry.2 = true) :
    ∃ result, Publication.joinDiffs diffs currentVersion diffOutputEl = some result ∧
      (result = none → diffs = [] ∧ diffOutputEl = none) := by
  induction diffs generalizing currentVersion diffOutputEl with
  | nil => exact ⟨diffOutputEl, rfl, fun hnone => ⟨rfl, hnone⟩⟩
  | cons entry diffs ih =>
    obtain ⟨version, doc⟩ := entry
    rw [List.map_cons, List.length_cons, List.range'_succ, List.cons.injEq] at hversions
    obtain ⟨rfl, hrest⟩ := hversions
    have hdiff := hdiffs _ List.mem_cons_self
    obtain ⟨diffEl, hdiffEl⟩ := Option.isSome_iff_exists.mp hdiff
    simp only [Publication.joinDiffs, ne_eq, not_true_eq_false, if_false, hdiffEl]
    obtain ⟨result, hresult, hnone⟩ := ih hrest fun entry hentry => hdiffs entry (List.mem_cons_of_mem _ hentry)
    exact ⟨result, hresult, fun h => absurd (hnone h).2 (Option.some_ne_none _)⟩

end Kept

section Sizing

variable {p : Publication} {convertToBase64 : List UInt8 → String} {getOutputSize : List Node → Nat}

/-- Either each version has its difference, whose size counts, or the whole document counts. -/
theorem addDiffSizes_cases (versions : List Nat) (outputSize : Nat) :
    (∃ docs : List Document, versions.map (fun version => p.mDiffDocuments[version]?) = docs.map some ∧
      p.addDiffSizes convertToBase64 getOutputSize versions outputSize = outputSize + (docs.map getOutputSize).sum) ∨
    (∃ version ∈ versions, version ∉ p.mDiffDocuments ∧
      p.addDiffSizes convertToBase64 getOutputSize versions outputSize =
        p.getEntirePublicationOutputSize convertToBase64 getOutputSize) := by
  induction versions generalizing outputSize with
  | nil => exact .inl ⟨[], rfl, rfl⟩
  | cons version versions ih =>
    cases hfound : p.mDiffDocuments[version]? with
    | none =>
      refine .inr ⟨version, List.mem_cons_self, ?_, ?_⟩
      · simpa using hfound
      · simp [Publication.addDiffSizes, hfound]
    | some doc =>
      simp only [Publication.addDiffSizes, hfound]
      rcases ih (outputSize + getOutputSize doc) with ⟨docs, hdocs, hsize⟩ | ⟨missing, hmem, hmissing, hsize⟩
      · refine .inl ⟨doc :: docs, ?_, ?_⟩
        · rw [List.map_cons, List.map_cons, hfound, hdocs]
        · rw [hsize, List.map_cons, List.sum_cons, Nat.add_assoc]
      · exact .inr ⟨missing, List.mem_cons_of_mem _ hmem, hmissing, hsize⟩

variable {fromVersion : Nat}

theorem getDiffsBetween_hole {whole : Option Node × Nat} {toVersion : Nat} (hto : fromVersion ≤ toVersion)
    (hjoin : Publication.joinDiffs (diffsBetween p fromVersion toVersion) fromVersion none = none) :
    p.getDiffsBetween whole fromVersion toVersion = .ok whole := by
  rw [diffsBetween] at hjoin
  simp only [Publication.getDiffsBetween, if_pos hto, hjoin]

theorem getDiffsBetween_joined {whole : Option Node × Nat} {toVersion : Nat} {diffOutputEl : Element}
    (hto : fromVersion ≤ toVersion)
    (hjoin : Publication.joinDiffs (diffsBetween p fromVersion toVersion) fromVersion none = some (some diffOutputEl)) :
    p.getDiffsBetween whole fromVersion toVersion = .ok (some (.element diffOutputEl), fromVersion) := by
  rw [diffsBetween] at hjoin
  simp only [Publication.getDiffsBetween, if_pos hto, hjoin]

variable {document : Document}

theorem getDiffs_current (hdocument : p.mDocument = some document) :
    p.getDiffs convertToBase64 fromVersion p.mVersion =
      if fromVersion = 0 then .ok ((Publication.firstChildElement document).map .element, 0)
      else if p.mDiffDocuments.contains fromVersion ∧ p.mDiffDocuments.contains p.mVersion then
        p.getDiffsBetween ((Publication.firstChildElement document).map .element, 0) fromVersion p.mVersion
      else .ok ((Publication.firstChildElement document).map .element, 0) := by
  simp [Publication.getDiffs, hdocument]

/-- Without the difference of a version in between, the whole document is returned. -/
theorem getDiffs_missing {version : Nat} (hdocument : p.mDocument = some document)
    (hfrom : fromVersion ≤ version) (hversion : version ≤ p.mVersion)
    (hmissing : version ∉ p.mDiffDocuments) :
    p.getDiffs convertToBase64 fromVersion p.mVersion =
      .ok ((Publication.firstChildElement document).map .element, 0) := by
  have hto : fromVersion ≤ p.mVersion := by omega
  rw [getDiffs_current hdocument]
  split
  case isTrue => rfl
  split
  case isFalse => rfl
  case isTrue hkept =>
    apply getDiffsBetween_hole hto
    cases hjoin : Publication.joinDiffs (diffsBetween p fromVersion p.mVersion) fromVersion none with
    | none => rfl
    | some result =>
      -- joined differences have each version up to the last, and so the one that is missing
      have hversions := (joinDiffs_some hjoin).1
      obtain ⟨last, hlast⟩ := Option.isSome_iff_exists.mp (ExtTreeMap.isSome_getElem?_eq_contains.trans hkept.2)
      have hmemLast : p.mVersion ∈ (diffsBetween p fromVersion p.mVersion).map Prod.fst :=
        List.mem_map.mpr ⟨(p.mVersion, last), mem_diffsBetween.mpr ⟨hlast, hto, Nat.le_refl _⟩, rfl⟩
      have hmem : version ∈ (diffsBetween p fromVersion p.mVersion).map Prod.fst := by
        rw [hversions, List.mem_range'_1] at hmemLast ⊢
        omega
      obtain ⟨entry, hentry, rfl⟩ := List.mem_map.mp hmem
      have hfound := (mem_diffsBetween.mp hentry).1
      exact absurd (ExtTreeMap.mem_iff_isSome_getElem?.mpr (by simp [hfound])) hmissing

/-- With the difference of each version, they are returned as one. -/
theorem getDiffs_joined {docs : List Document} (hkeeps : KeepsDiffs p)
    (hdocument : p.mDocument = some document) (hfrom : fromVersion ≠ 0) (hto : fromVersion ≤ p.mVersion)
    (hdocs : (List.range' fromVersion (p.mVersion + 1 - fromVersion)).map (fun version => p.mDiffDocuments[version]?) = docs.map some) :
    ∃ diffOutputEl,
      p.getDiffs convertToBase64 fromVersion p.mVersion = .ok (some (.element diffOutputEl), fromVersion) ∧
      diffOutputEl.childElements "item" = docs.flatMap itemsOf := by
  have hfst := map_fst_diffsBetween hdocs
  have hkept : ∀ version, fromVersion ≤ version → version ≤ p.mVersion → p.mDiffDocuments.contains version = true := by
    intro version hlow hhigh
    have hmem : version ∈ (diffsBetween p fromVersion p.mVersion).map Prod.fst := by
      rw [hfst, List.mem_range'_1]
      omega
    obtain ⟨entry, hentry, rfl⟩ := List.mem_map.mp hmem
    rw [← ExtTreeMap.isSome_getElem?_eq_contains, (mem_diffsBetween.mp hentry).1]
    rfl
  have hlength : (diffsBetween p fromVersion p.mVersion).length = p.mVersion + 1 - fromVersion := by
    simpa using congrArg List.length hfst
  have hdiffs : ∀ entry ∈ diffsBetween p fromVersion p.mVersion, Publication.isDiff entry.2 = true :=
    fun entry hentry => hkeeps entry (ExtTreeMap.mem_toList_iff_getElem?_eq_some.mpr (mem_diffsBetween.mp hentry).1)
  obtain ⟨result, hjoin, hnone⟩ := @joinDiffs_of_row _ fromVersion none (by rw [hlength]; exact hfst) hdiffs
  cases result with
  | none =>
    have hempty := congrArg List.length (hnone rfl).1
    rw [hlength, List.length_nil] at hempty
    omega
  | some diffOutputEl =>
    have hitems := (joinDiffs_some hjoin).2
    refine ⟨diffOutputEl, ?_, ?_⟩
    · rw [getDiffs_current hdocument, if_neg hfrom,
        if_pos ⟨hkept fromVersion (Nat.le_refl _) hto, hkept p.mVersion hto (Nat.le_refl _)⟩,
        getDiffsBetween_joined hto hjoin]
    · simp only [Option.elim_some, Option.elim_none, List.nil_append] at hitems
      rw [hitems, ← map_snd_diffsBetween hdocs, List.flatMap_map]

theorem sized_entire (p : Publication) :
    ∃ output, p.getDiffs convertToBase64 0 p.mVersion = .ok output ∧
      Sized convertToBase64 getOutputSize p 0 (p.getEntirePublicationOutputSize convertToBase64 getOutputSize)
        output := by
  cases hdocument : p.mDocument with
  | some document =>
    refine ⟨_, getDiffs_current hdocument, ?_⟩
    simpa [Publication.getEntirePublicationOutputSize, hdocument] using .whole hdocument (.inl rfl)
  | none =>
    simp only [Publication.getDiffs, hdocument, Publication.getEntirePublicationOutputSize,
      Publication.getDataOutputSize, if_true]
    cases hdata : p.mData with
    | none => exact ⟨_, rfl, .nothing hdocument hdata⟩
    | some bytes => exact ⟨_, rfl, .data hdocument hdata⟩

theorem sized_diffs {fromVersion : Nat} (hkeeps : KeepsDiffs p) (hfrom : fromVersion ≠ 0)
    (hto : fromVersion ≤ p.mVersion) :
    ∃ outputSize output,
      p.getDiffVersionsOutputSize convertToBase64 getOutputSize fromVersion p.mVersion true = .ok outputSize ∧
      p.getDiffs convertToBase64 fromVersion p.mVersion = .ok output ∧
      Sized convertToBase64 getOutputSize p fromVersion outputSize output := by
  simp only [Publication.getDiffVersionsOutputSize, if_neg (Nat.not_lt.mpr hto)]
  cases hdocument : p.mDocument with
  | none =>
    simp only [Publication.getDiffs, hdocument, Publication.getDataOutputSize, if_true]
    cases hdata : p.mData with
    | none => exact ⟨_, _, rfl, rfl, .nothing hdocument hdata⟩
    | some bytes => exact ⟨_, _, rfl, rfl, .data hdocument hdata⟩
  | some document =>
    rcases @addDiffSizes_cases p convertToBase64 getOutputSize
      (List.range' fromVersion (p.mVersion + 1 - fromVersion)) 0 with
      ⟨docs, hdocs, hsize⟩ | ⟨version, hmem, hmissing, hsize⟩
    · obtain ⟨diffOutputEl, hdiffs, hitems⟩ := getDiffs_joined hkeeps hdocument hfrom hto hdocs
      refine ⟨_, _, rfl, hdiffs, ?_⟩
      rw [hsize, Nat.zero_add]
      exact .differences hdocument hfrom hdocs hitems
    · rw [List.mem_range'_1] at hmem
      have hversion : version ≤ p.mVersion := by omega
      refine ⟨_, _, rfl, getDiffs_missing hdocument hmem.1 hversion hmissing, ?_⟩
      rw [hsize, Publication.getEntirePublicationOutputSize, hdocument]
      exact .whole hdocument (.inr ⟨version, hmem.1, hversion, hmissing⟩)

end Sizing

section Chain

variable {convertToBase64 : List UInt8 → String} {getOutputSize : List Node → Nat} {s : Notifying}

/-- The cache remembers the last mark of each publication, and the publication can return what it is sized for. -/
structure Remembers (s : Notifying) : Prop where
  keeps : KeepsDiffs s.publication
  marked : ∀ key, s.peerCache.marked key = lastMarked s.marks key

theorem marked_put_of_find {cache : PeerCache} {metaData metaData' : PublicationMetaData} {key : CacheKey}
    (hfound : cache.find key = some metaData) (hkey : metaData'.cacheKey = key)
    (hversion : metaData'.mVersion = metaData.mVersion) (key' : CacheKey) :
    (cache.put metaData').marked key' = cache.marked key' := by
  rw [PeerCache.marked_put, hkey]
  split
  case isTrue heq => rw [← heq, PeerCache.marked_of_find hfound, hversion]
  case isFalse => rfl

theorem nextVersion_of_remembers (h : Remembers s) (ioMaxSizeAvailableInBytes : Nat) :
    NextVersion convertToBase64 getOutputSize s ioMaxSizeAvailableInBytes
      (s.peerCache.getNextVersionToNotifyAboutAndMarkNotified convertToBase64 getOutputSize s.publication
        ioMaxSizeAvailableInBytes) := by
  have hlast := h.marked s.publication.cacheKey
  simp only [PeerCache.getNextVersionToNotifyAboutAndMarkNotified]
  cases hfound : s.peerCache.find s.publication.cacheKey with
  | none =>
    have hnone : lastMarked s.marks s.publication.cacheKey = none := by
      rw [← hlast, PeerCache.marked, hfound, Option.map_none]
    obtain ⟨output, hdiffs, hsized⟩ := @sized_entire convertToBase64 getOutputSize s.publication
    simp only []
    split
    case isTrue => exact .refused fun _ => rfl
    case isFalse hfits =>
      refine .notified (by rw [hnone]; rfl) (Nat.zero_le _) (Nat.not_lt.mp hfits) (fun key => ?_) hdiffs hsized
      exact PeerCache.marked_put _ _ key
  | some metaData =>
    have hsome : lastMarked s.marks s.publication.cacheKey = some metaData.mVersion := by
      rw [← hlast, PeerCache.marked_of_find hfound]
    have hkey : metaData.cacheKey = s.publication.cacheKey := PeerCache.cacheKey_of_find hfound
    have hrefused : NextVersion convertToBase64 getOutputSize s ioMaxSizeAvailableInBytes
        (.ok (s.peerCache.put { metaData with mExpires := s.publication.mExpires }, ioMaxSizeAvailableInBytes, none)) :=
      .refused fun key =>
        @marked_put_of_find _ _ { metaData with mExpires := s.publication.mExpires } _ hfound hkey rfl key
    simp only []
    split
    case isTrue => exact hrefused
    case isFalse hnext =>
      obtain ⟨outputSize, output, hsize, hdiffs, hsized⟩ :=
        @sized_diffs s.publication convertToBase64 getOutputSize (metaData.mVersion + 1) h.keeps (Nat.succ_ne_zero _)
          (Nat.not_lt.mp hnext)
      simp only [hsize]
      split
      case isTrue => exact hrefused
      case isFalse hfits =>
        refine .notified (by rw [hsome]; rfl) (Nat.not_lt.mp hnext) (Nat.not_lt.mp hfits) (fun key => ?_) hdiffs hsized
        rw [PeerCache.marked_put]
        exact if_congr (by rw [← hkey]; rfl) rfl rfl

theorem lastMarked_cons (mark : CacheKey × Nat) (marks : List (CacheKey × Nat)) (key : CacheKey) :
    lastMarked (mark :: marks) key = if mark.1 = key then some mark.2 else lastMarked marks key := by
  by_cases hkey : mark.1 = key
  · simp [lastMarked, hkey]
  · simp [lastMarked, hkey]

theorem marked_notifyFetched (cache : PeerCache) (p : Publication) (key : CacheKey) :
    (cache.notifyFetched p).marked key = if p.cacheKey = key then some p.mVersion else cache.marked key := by
  simp only [PeerCache.notifyFetched]
  cases hfound : cache.find p.cacheKey with
  | none => exact PeerCache.marked_put _ _ key
  | some metaData =>
    have hkey : metaData.cacheKey = p.cacheKey := PeerCache.cacheKey_of_find hfound
    simp only [PeerCache.marked_put]
    exact if_congr (by rw [← hkey]; rfl) rfl rfl

theorem remembers_notify (h : Remembers s) {ioMaxSizeAvailableInBytes : Nat}
    {answer : Except Trap (PeerCache × Nat × Option (Nat × Nat))}
    (hnext : NextVersion convertToBase64 getOutputSize s ioMaxSizeAvailableInBytes answer) :
    Remembers (s.markNotified answer) := by
  cases hnext with
  | refused hmarked => exact ⟨h.keeps, fun key => (hmarked key).trans (h.marked key)⟩
  | notified hfrom hto hsize hmarked hdiffs hsized =>
    refine ⟨h.keeps, fun key => (hmarked key).trans ?_⟩
    rw [h.marked key]
    exact (lastMarked_cons (s.publication.cacheKey, s.publication.mVersion) s.marks key).symm

theorem remembers_step (h : Remembers s) (call : NotifyCall) :
    Remembers (s.step convertToBase64 getOutputSize call) := by
  cases call with
  | update update => exact ⟨keepsDiffs_step h.keeps update, h.marked⟩
  | notify ioMaxSizeAvailableInBytes => exact remembers_notify h (nextVersion_of_remembers h ioMaxSizeAvailableInBytes)
  | fetched =>
    refine ⟨h.keeps, fun key => (marked_notifyFetched s.peerCache s.publication key).trans ?_⟩
    rw [h.marked key]
    exact (lastMarked_cons (s.publication.cacheKey, s.publication.mVersion) s.marks key).symm

theorem remembers_start {p : Publication} (h : KeepsDiffs p) (peerCache : PeerCache) :
    Remembers (.start p peerCache) := by
  refine ⟨h, fun key => ?_⟩
  simp only [Notifying.start, lastMarked, PeerCache.marked, PeerCache.find, List.find?_map, Option.map_map]
  rfl

theorem remembers_run (h : Remembers s) (calls : List NotifyCall) :
    Remembers (Runs.run (Notifying.step convertToBase64 getOutputSize) s calls) := by
  induction calls generalizing s with
  | nil => exact h
  | cons call calls ih => exact ih (remembers_step h call)

/-- However a publication was created, updated, notified about and fetched, the next notification is refused and leaves
the versions marked and the size that is available, or is about all versions after the last one marked, or all of them
the first time, and takes from the size what the publication takes that is then returned. -/
theorem notifications_chain {convertFromBase64 : String → List UInt8} {p : Publication} {latest : Latest}
    (hcreated : Created convertFromBase64 p latest) (peerCache : PeerCache) (calls : List NotifyCall)
    (ioMaxSizeAvailableInBytes : Nat) :
    let s := Runs.run (Notifying.step convertToBase64 getOutputSize) (.start p peerCache) calls
    (∀ key, s.peerCache.marked key = lastMarked s.marks key) ∧
      NextVersion convertToBase64 getOutputSize s ioMaxSizeAvailableInBytes
        (s.peerCache.getNextVersionToNotifyAboutAndMarkNotified convertToBase64 getOutputSize s.publication
          ioMaxSizeAvailableInBytes) := by
  intro s
  have h : Remembers s := remembers_run (remembers_start (keepsDiffs_created hcreated) peerCache) calls
  exact ⟨h.marked, nextVersion_of_remembers h ioMaxSizeAvailableInBytes⟩

/-- What a node with text takes, the quotes with it. -/
def quotedSize : List Node → Nat
  | [] => 0
  | .text value :: nodes => value.length + 2 + quotedSize nodes
  | .element e :: nodes => e.name.length + 2 + quotedSize nodes

/-- A notification that does not fit is refused, and the next one covers the version that is added in between. -/
theorem notifications_chain_sample :
    let s := Runs.run (Notifying.step (fun _ => "") quotedSize) (.start (.createData binaryMetaData [1, 2, 3]) {})
      [.notify 5, .update (.data [4]), .notify 0, .update (.data [5, 6])]
    (∀ key, s.peerCache.marked key = lastMarked s.marks key) ∧
      NextVersion (fun _ => "") quotedSize s 7
        (s.peerCache.getNextVersionToNotifyAboutAndMarkNotified (fun _ => "") quotedSize s.publication 7) :=
  @notifications_chain (fun _ => "") quotedSize (fun _ => []) _ _ (.data binaryMetaData [1, 2, 3]) {}
    [.notify 5, .update (.data [4]), .notify 0, .update (.data [5, 6])] 7

/-- Binary data is sized as it is and returned as text, which takes more. -/
theorem data_sized_raw :
    ((PeerCache.getNextVersionToNotifyAboutAndMarkNotified (fun _ => "AQID") quotedSize {}
        (.createData binaryMetaData [1, 2, 3]) 3).toOption.map fun answer => answer.2) = some (0, some (0, 1)) ∧
      (Publication.createData binaryMetaData [1, 2, 3]).getDiffs (fun _ => "AQID") 0 1 =
        .ok (some (.text "AQID"), 0) ∧
      quotedSize [.text "AQID"] = 6 :=
  ⟨rfl, rfl, rfl⟩

end Chain

end OpenPeer.Publishing
