import OpenPeer.OrderedMap
import OpenPeer.PublicationContent
import OpenPeer.PublicationMetaData

/-!
# The caches of a repository

A repository keeps the publications of its own location and those of others in two maps,
ordered by fields of the publications themselves. A key is the publication object, which is
updated while it is in the map.
-/
namespace OpenPeer.Caching

open OrderedMap
open Std (OrientedCmp ReflCmp TransCmp)

/-- The fields by which a cache tells publications apart. -/
structure CacheMetaData where
  mCreatorLocation : Option Location
  mLineage : Nat
  mName : String
  mPublishedLocation : Option Location
  deriving DecidableEq

namespace CacheMetaData

def isMatching (x metaData : CacheMetaData) (ignoreLineage : Bool) : Bool :=
  if locationCompare x.mCreatorLocation metaData.mCreatorLocation ≠ .eq then false
  else if !ignoreLineage && metaData.mLineage ≠ x.mLineage then false
  else if metaData.mName ≠ x.mName then false
  else if locationCompare x.mPublishedLocation metaData.mPublishedLocation ≠ .eq then false
  else true

def isLessThan (x metaData : CacheMetaData) (ignoreLineage : Bool) : Bool :=
  match locationCompare x.mCreatorLocation metaData.mCreatorLocation with
  | .lt => true
  | .gt => false
  | .eq =>
    if !ignoreLineage && x.mLineage < metaData.mLineage then true
    else if !ignoreLineage && metaData.mLineage < x.mLineage then false
    else if x.mName < metaData.mName then true
    else if metaData.mName < x.mName then false
    else locationCompare x.mPublishedLocation metaData.mPublishedLocation = .lt

/-- The fields one after another, the lineage among them unless it is ignored. -/
def order (ignoreLineage : Bool) : CacheMetaData → CacheMetaData → Ordering :=
  compareLex (fun x y => locationCompare x.mCreatorLocation y.mCreatorLocation) <|
    compareLex (fun x y => if ignoreLineage then .eq else compare x.mLineage y.mLineage) <|
      compareLex (fun x y => compare x.mName y.mName)
        fun x y => locationCompare x.mPublishedLocation y.mPublishedLocation

variable (x y : CacheMetaData) (ignoreLineage : Bool)

theorem isMatching_iff : x.isMatching y ignoreLineage = true ↔ order ignoreLineage x y = .eq := by
  simp only [isMatching, order, compareLex_eq_eq]
  cases ignoreLineage <;> grind

theorem lineageCompare_eq_lt : (if ignoreLineage then .eq else compare x.mLineage y.mLineage) = .lt ↔
    ignoreLineage = false ∧ x.mLineage < y.mLineage := by
  cases ignoreLineage <;> simp [Nat.compare_eq_lt]

theorem lineageCompare_eq_eq : (if ignoreLineage then .eq else compare x.mLineage y.mLineage) = .eq ↔
    (ignoreLineage = false → x.mLineage = y.mLineage) := by
  cases ignoreLineage <;> simp

theorem isLessThan_iff : x.isLessThan y ignoreLineage = true ↔ order ignoreLineage x y = .lt := by
  simp only [isLessThan, order, compareLex, Ordering.then_eq_lt, lineageCompare_eq_lt, lineageCompare_eq_eq,
    compare_lt_iff_lt, compare_eq_iff_eq]
  cases locationCompare x.mCreatorLocation y.mCreatorLocation with
  | lt => simp
  | gt => simp
  | eq =>
    have hlineage := Nat.lt_trichotomy x.mLineage y.mLineage
    have hname := lt_trichotomy x.mName y.mName
    cases ignoreLineage <;> grind

instance : TransCmp fun x y : CacheMetaData => if ignoreLineage then .eq else compare x.mLineage y.mLineage := by
  cases ignoreLineage with
  | false => exact inferInstanceAs (TransCmp (compareOn mLineage))
  | true => exact { eq_swap := rfl, isLE_trans := fun _ _ => rfl }

instance : TransCmp (order ignoreLineage) := by
  have hcreator : TransCmp fun x y : CacheMetaData => locationCompare x.mCreatorLocation y.mCreatorLocation :=
    { eq_swap := OrientedCmp.eq_swap, isLE_trans := TransCmp.isLE_trans }
  have hpublished : TransCmp fun x y : CacheMetaData => locationCompare x.mPublishedLocation y.mPublishedLocation :=
    { eq_swap := OrientedCmp.eq_swap, isLE_trans := TransCmp.isLE_trans }
  have hname : TransCmp fun x y : CacheMetaData => compare x.mName y.mName :=
    inferInstanceAs (TransCmp (compareOn mName))
  unfold order
  infer_instance

theorem isLessThan_strictWeakOrder : IsStrictWeakOrder CacheMetaData fun x y => x.isLessThan y ignoreLineage := by
  simpa only [isLessThan_iff] using isStrictWeakOrder (order ignoreLineage)

theorem isMatching_iff_not_isLessThan :
    x.isMatching y ignoreLineage = true ↔
      ¬x.isLessThan y ignoreLineage = true ∧ ¬y.isLessThan x ignoreLineage = true := by
  rw [isMatching_iff, isLessThan_iff, isLessThan_iff, not_lt_iff]

end CacheMetaData

/-- `CacheCompare`, both ways round. -/
def cacheCompare (x y : CacheMetaData) : Ordering :=
  if x.isLessThan y false then .lt else if y.isLessThan x false then .gt else .eq

theorem cacheCompare_eq : cacheCompare = CacheMetaData.order false := by
  funext x y
  simp only [cacheCompare, CacheMetaData.isLessThan_iff]
  have hswap : CacheMetaData.order false x y = .gt ↔ CacheMetaData.order false y x = .lt := OrientedCmp.gt_iff_lt
  cases horder : CacheMetaData.order false x y <;> simp_all

instance : TransCmp cacheCompare := by
  rw [cacheCompare_eq]
  infer_instance

theorem cacheCompare_eq_lt {x y : CacheMetaData} : cacheCompare x y = .lt ↔ x.isLessThan y false = true := by
  rw [cacheCompare_eq, CacheMetaData.isLessThan_iff]

theorem cacheCompare_eq_eq {x y : CacheMetaData} : cacheCompare x y = .eq ↔ x.isMatching y false = true := by
  rw [cacheCompare_eq, CacheMetaData.isMatching_iff]

/-- A publication object, with the locations it was made at and is published to, and who it is published to. -/
structure PublicationObject where
  publication : Publishing.Publication
  mCreatorLocation : Option Location
  mPublishedLocation : Option Location
  mPublishedRelationships : PublishToRelationshipsMap := ∅

namespace PublicationObject

def cacheMetaData (p : PublicationObject) : CacheMetaData :=
  ⟨p.mCreatorLocation, p.publication.mLineage, p.publication.mName, p.mPublishedLocation⟩

/-- The locations and the relationships are taken over with the rest, in the place of
`Publishing.PublicationMetaData`'s own. -/
def updateFromFetchedPublication (p fetchedPublication : PublicationObject) :
    PublicationObject × Publishing.FetchEnding :=
  let result := p.publication.updateFromFetchedPublication fetchedPublication.publication false
  let located := if result.2 = .updated then fetchedPublication else p
  ({ located with publication := result.1 }, result.2)

end PublicationObject

/-- `CachedPublicationMap`. Both the key and the value of an entry are the number of a publication object. -/
abbrev CachedPublicationMap := List (Nat × Nat)

/-- `mAccount` is the local location of the account, while the account is there. -/
structure Repository where
  mAccount : Option Location
  publications : Nat → PublicationObject
  /-- the number of the next publication object that is created -/
  created : Nat
  mCachedLocalPublications : CachedPublicationMap := []
  mCachedRemotePublications : CachedPublicationMap := []

namespace Repository

/-- What is read off a key as it is now. -/
def metaData (r : Repository) (i : Nat) : CacheMetaData := (r.publications i).cacheMetaData

def find (r : Repository) (map : CachedPublicationMap) (metaData : CacheMetaData) : Option (Nat × Nat) :=
  OrderedMap.find r.metaData cacheCompare map metaData

def erase (r : Repository) (map : CachedPublicationMap) (metaData : CacheMetaData) : CachedPublicationMap :=
  OrderedMap.erase r.metaData cacheCompare map metaData

def insert (r : Repository) (map : CachedPublicationMap) (i : Nat) : CachedPublicationMap :=
  OrderedMap.insert r.metaData cacheCompare map i i

/-- Only what is kept is given a number, and not what merely updates a publication. -/
def create (r : Repository) (p : PublicationObject) : Repository :=
  { r with publications := Function.update r.publications r.created p, created := r.created + 1 }

def set (r : Repository) (i : Nat) (p : PublicationObject) : Repository :=
  { r with publications := Function.update r.publications i p }

def isLocal (location : Option Location) : Bool := (location.map (·.mType)) = some .local

/-- An application updates one of its publications. -/
def update (r : Repository) (i : Nat) (f : Publishing.Publication → Publishing.Publication) : Repository :=
  r.set i { r.publications i with publication := f (r.publications i).publication }

def publish (r : Repository) (i : Nat) : Repository :=
  match r.mAccount with
  | none => r
  | some _ =>
    if isLocal (r.publications i).mPublishedLocation then
      { r with mCachedLocalPublications := r.insert (r.erase r.mCachedLocalPublications (r.metaData i)) i }
    else r

/-- The request that is sent for it leaves the caches as they are. -/
def remove (r : Repository) (i : Nat) : Repository :=
  match r.mAccount with
  | none => r
  | some _ =>
    if isLocal (r.publications i).mPublishedLocation then
      { r with mCachedLocalPublications := r.erase r.mCachedLocalPublications (r.metaData i) }
    else r

def cacheLocally (r : Repository) (i : Nat) : Repository :=
  { r with mCachedLocalPublications := r.insert r.mCachedLocalPublications i }

def cacheRemotely (r : Repository) (i : Nat) : Repository :=
  { r with mCachedRemotePublications := r.insert r.mCachedRemotePublications i }

/-- The publication of a cache is updated, whatever comes of it. -/
def updateExisting (r : Repository) (existing : Nat) (publication : PublicationObject) : Repository :=
  r.set existing ((r.publications existing).updateFromFetchedPublication publication).1

/-- `onMessageIncoming` for a `PeerPublishRequest` -/
def onPeerPublish (r : Repository) (location : Option Location) (publication : PublicationObject) : Repository :=
  match r.mAccount with
  | none => r
  | some localLocation =>
    let publication := { publication with mCreatorLocation := location, mPublishedLocation := some localLocation }
    match r.find r.mCachedLocalPublications publication.cacheMetaData with
    | some found => r.updateExisting found.2 publication
    | none => (r.create publication).cacheLocally r.created

/-- `onMessageIncoming` for a `PeerDeleteRequest` -/
def onPeerDelete (r : Repository) (location : Option Location) (metaData : CacheMetaData) : Repository :=
  match r.mAccount with
  | none => r
  | some localLocation =>
    let metaData := { metaData with mCreatorLocation := location, mPublishedLocation := some localLocation }
    { r with mCachedLocalPublications := r.erase r.mCachedLocalPublications metaData }

/-- The publication is a difference, which a new entry cannot be made of. -/
def isDifference (publication : PublicationObject) : Bool :=
  match publication.publication.getJSON with
  | none => false
  | some document => Publishing.Publication.isDiff document

/-- One publication of a `PeerPublishNotifyRequest`. -/
def notifyPublication (r : Repository) (location : Option Location) (publication : PublicationObject) : Repository :=
  let publication := { publication with mPublishedLocation := location }
  match r.find r.mCachedRemotePublications publication.cacheMetaData with
  | some found => r.updateExisting found.2 publication
  | none => if isDifference publication then r else (r.create publication).cacheRemotely r.created

/-- The exception that a difference throws when it is processed is not caught. -/
def notifyThrows (r : Repository) (location : Option Location) (publication : PublicationObject) : Bool :=
  let publication := { publication with mPublishedLocation := location }
  match r.find r.mCachedRemotePublications publication.cacheMetaData with
  | none => false
  | some found =>
    match ((r.publications found.2).updateFromFetchedPublication publication).2 with
    | .trapped _ => true
    | _ => false

def notifyPublications (location : Option Location) : Repository → List PublicationObject → Repository
  | r, [] => r
  | r, publication :: publicationList =>
    if r.notifyThrows location publication then r.notifyPublication location publication
    else notifyPublications location (r.notifyPublication location publication) publicationList

/-- `onMessageIncoming` for a `PeerPublishNotifyRequest`, with those of its entries that bring a publication. -/
def onPeerPublishNotify (r : Repository) (location : Option Location) (publicationList : List PublicationObject) :
    Repository :=
  match r.mAccount with
  | none => r
  | some _ => notifyPublications location r publicationList

/-- The fetcher asked for the publication of `metaData`. -/
def notifyFetched (r : Repository) (metaData : CacheMetaData) (publication : PublicationObject) : Repository :=
  let publication := { publication with
    mCreatorLocation := metaData.mCreatorLocation, mPublishedLocation := metaData.mPublishedLocation }
  match r.find r.mCachedRemotePublications metaData with
  | some found => r.updateExisting found.2 publication
  | none => (r.create publication).cacheRemotely r.created

def notifyRemoved (r : Repository) (i : Nat) : Repository :=
  { r with mCachedRemotePublications := r.erase r.mCachedRemotePublications (r.metaData i) }

/-- What the location published here is removed with it. -/
def onDisconnected (r : Repository) (location : Option Location) : Repository :=
  { r with mCachedLocalPublications :=
      r.mCachedLocalPublications.filter fun entry =>
        locationCompare (r.publications entry.2).mCreatorLocation location ≠ .eq }

/-- `expires` says which publications have expired by now. -/
def onTimer (r : Repository) (expires : Nat → Bool) : Repository :=
  { r with mCachedRemotePublications := r.mCachedRemotePublications.filter fun entry => !expires entry.2 }

def cancel (r : Repository) : Repository :=
  { r with mCachedLocalPublications := [], mCachedRemotePublications := [] }

end Repository

end OpenPeer.Caching
