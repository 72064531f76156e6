import OpenPeer.Broadcast
import OpenPeer.PeerSubscriptions
import OpenPeer.PublicationCacheRuns
import OpenPeer.PublicationRelationships

/-!
# Who is told of a publication

A repository tells its subscribers when a publication of its own cache is updated and when it
is gone. A subscriber is an application, or another location that asked for it.
-/
namespace OpenPeer.Notifications

open Std
open Relationships (CachedPublicationPermissionMap)
open Subscriptions (PeerSubscriptionIncoming)

/-- A publication is used after it was destroyed. -/
inductive Halt where
  | undefined
  deriving DecidableEq

/-- The subscription of an application at its own repository. `mDelegate` is set until it is cancelled. -/
structure SubscriptionLocal where
  mSubscriptionInfo : PublicationMetaData
  mDelegate : Bool := true

/-- `subscriptionsLocal` are the subscriptions that applications hold, each with its number, and `mSubscriptionsLocal`
the numbers of those that the repository has in its map. `updated` and `gone` are a history: each message that tells a
subscriber about publications of the cache. -/
structure Repository where
  caches : Caching.Repository
  mCachedPermissionDocuments : ExtTreeMap String Nat := ∅
  subscriptionsLocal : List (Nat × SubscriptionLocal) := []
  mSubscriptionsLocal : List Nat := []
  mPeerSubscriptionsIncoming : List (Nat × PeerSubscriptionIncoming) := []
  /-- the number of the next subscription that is created -/
  created : Nat := 0
  updated : List (Nat × List Nat) := []
  gone : List (Nat × List Nat) := []

/-- The name begins with the path. -/
def matchesPath (name path : String) : Bool :=
  if name.length < path.length then false else path.toList.isPrefixOf name.toList

namespace Repository

def permissionDocuments (r : Repository) : CachedPublicationPermissionMap :=
  r.mCachedPermissionDocuments.map fun _ i => (r.caches.publications i).publication

/-- `canSubscribeToPublisher` for a publication and a subscription, when the subscriber is at some location -/
def canSubscribe (r : Repository) (info : PublicationMetaData) (subscriberLocation : Option Location) (i : Nat) :
    Bool :=
  let p := r.caches.publications i
  Relationships.canSubscribeToPublisher r.permissionDocuments p.mCreatorLocation p.mPublishedRelationships
    subscriberLocation info.mPublishedRelationships

/-- The name of a publication begins with the path of a subscription. -/
def isUnder (r : Repository) (info : PublicationMetaData) (i : Nat) : Bool :=
  matchesPath (r.caches.publications i).publication.mName info.mName

/-- A subscription is for a publication, when the subscriber is at some location. -/
def accepts (r : Repository) (info : PublicationMetaData) (subscriberLocation : Option Location) (i : Nat) : Bool :=
  r.isUnder info i && r.canSubscribe info subscriberLocation i

/-- Nobody is told once the subscription is cancelled or the account is gone. -/
def acceptsLocal (r : Repository) (subscription : SubscriptionLocal) (i : Nat) : Bool :=
  match r.caches.mAccount with
  | none => false
  | some localLocation => subscription.mDelegate && r.accepts subscription.mSubscriptionInfo (some localLocation) i

/-- The subscriber is who created the subscription. -/
def acceptsUpdated (r : Repository) (subscription : PeerSubscriptionIncoming) (i : Nat) : Bool :=
  r.caches.mAccount.isSome &&
    r.accepts subscription.mSubscriptionInfo subscription.mSubscriptionInfo.mCreatorLocation i

/-- Here it is the location that the subscription is published to. -/
def acceptsGone (r : Repository) (subscription : PeerSubscriptionIncoming) (i : Nat) : Bool :=
  r.caches.mAccount.isSome &&
    r.accepts subscription.mSubscriptionInfo subscription.mSubscriptionInfo.mPublishedLocation i

/-- `SubscriptionLocal::notifyUpdated` and `SubscriptionLocal::notifyGone`, of every subscription in the map -/
def notifyLocal (r : Repository) (cachedPublications : List Nat) : List (Nat × List Nat) :=
  Broadcast.messages r.acceptsLocal (r.subscriptionsLocal.filter fun s => s.1 ∈ r.mSubscriptionsLocal)
    cachedPublications

/-- `PeerSubscriptionIncoming::notifyUpdated`, of every subscription in the map -/
def notifyUpdated (r : Repository) (cachedPublications : List Nat) : List (Nat × List Nat) :=
  Broadcast.messages r.acceptsUpdated r.mPeerSubscriptionsIncoming cachedPublications

/-- `PeerSubscriptionIncoming::notifyGone`, of every subscription in the map -/
def notifyGone (r : Repository) (cachedPublications : List Nat) : List (Nat × List Nat) :=
  Broadcast.messages r.acceptsGone r.mPeerSubscriptionsIncoming cachedPublications

/-- The publication is in its cache, and under its name in the permission documents. -/
def cachePublished (r : Repository) (i : Nat) : Repository :=
  let name := (r.caches.publications i).publication.mName
  { r with
    caches := r.caches.publish i
    mCachedPermissionDocuments := (r.mCachedPermissionDocuments.erase name).insert name i }

def publishesLocally (r : Repository) (i : Nat) : Bool :=
  r.caches.mAccount.isSome && Caching.Repository.isLocal (r.caches.publications i).mPublishedLocation

def publish (r : Repository) (i : Nat) : Repository :=
  if r.publishesLocally i then
    let cached := r.cachePublished i
    { cached with updated := cached.updated ++ (cached.notifyLocal [i] ++ cached.notifyUpdated [i]) }
  else { r with caches := r.caches.publish i }

/-- A permission document goes when it is of the lineage of what is removed. -/
def remove (r : Repository) (i : Nat) : Repository :=
  let p := (r.caches.publications i).publication
  let documents :=
    match r.mCachedPermissionDocuments[p.mName]? with
    | none => r.mCachedPermissionDocuments
    | some existing =>
      if (r.caches.publications existing).publication.mLineage = p.mLineage then
        r.mCachedPermissionDocuments.erase p.mName
      else r.mCachedPermissionDocuments
  { r with
    caches := r.caches.remove i
    mCachedPermissionDocuments := if r.publishesLocally i then documents else r.mCachedPermissionDocuments }

/-- The numbers of the publications in the cache, in its order. -/
def cachedLocal (r : Repository) : List Nat := r.caches.mCachedLocalPublications.map (·.2)

/-- An application holds the subscription, which is not put in the map. -/
def holdLocal (r : Repository) (subscription : SubscriptionLocal) : Repository :=
  { r with
    subscriptionsLocal := r.subscriptionsLocal ++ [(r.created, subscription)]
    created := r.created + 1 }

/-- `SubscriptionLocal::SubscriptionLocal`, with the local location of the account while it is there -/
def createLocal (r : Repository) (publicationPath : String) (relationships : SubscribeToRelationshipsMap) :
    SubscriptionLocal :=
  { mSubscriptionInfo :=
      { mCreatorLocation := r.caches.mAccount
        mName := publicationPath
        mPublishedRelationships := relationships
        mPublishedLocation := r.caches.mAccount } }

/-- A subscription at another location is not one of this repository, unless the account is gone. -/
def subscribe (r : Repository) (subscribeToLocation : Location) (publicationPath : String)
    (relationships : SubscribeToRelationshipsMap) : Repository :=
  let subscriber := r.createLocal publicationPath relationships
  match subscribeToLocation.mType with
  | .local =>
    match r.caches.mAccount with
    | none => r.holdLocal { subscriber with mDelegate := false }
    | some _ =>
      -- each publication of the cache is told by a message of its own
      let sent := r.cachedLocal.flatMap fun i => Broadcast.message r.acceptsLocal [i] (r.created, subscriber)
      { r.holdLocal subscriber with updated := r.updated ++ sent }
  | .finder | .peer =>
    match r.caches.mAccount with
    | none => r.holdLocal subscriber
    | some _ => r

/-- `SubscriptionLocal::cancel` -/
def cancelLocal (r : Repository) (k : Nat) : Repository :=
  { r with
    subscriptionsLocal := r.subscriptionsLocal.map fun s =>
      if s.1 = k then (s.1, { s.2 with mDelegate := false }) else s
    mSubscriptionsLocal := r.mSubscriptionsLocal.erase k }

/-- `onMessageIncoming` for a `PeerDeleteRequest`. The publication is destroyed with its entry, before the
subscribers are told of it. -/
def onPeerDelete (r : Repository) (location : Option Location) (metaData : Caching.CacheMetaData) :
    Except Halt Repository :=
  match r.caches.mAccount with
  | none => .ok r
  | some localLocation =>
    let metaData := { metaData with mCreatorLocation := location, mPublishedLocation := some localLocation }
    match r.caches.find r.caches.mCachedLocalPublications metaData with
    | none => .ok r
    | some _ =>
      if r.mSubscriptionsLocal.isEmpty && r.mPeerSubscriptionsIncoming.isEmpty then
        .ok { r with caches := { r.caches with
          mCachedLocalPublications := r.caches.erase r.caches.mCachedLocalPublications metaData } }
      else .error .undefined

/-- A subscription of the same source goes. -/
def withoutSource (r : Repository) (metaData : PublicationMetaData) : Repository :=
  { r with mPeerSubscriptionsIncoming :=
      r.mPeerSubscriptionsIncoming.eraseP fun s => Subscriptions.Repository.isSource metaData s.2 }

/-- Every publication of the cache is told to the new subscriber by one message. -/
def placeIncoming (r : Repository) (metaData : PublicationMetaData) : Repository :=
  let incoming : PeerSubscriptionIncoming := ⟨metaData⟩
  { r with
    mPeerSubscriptionsIncoming := r.mPeerSubscriptionsIncoming ++ [(r.created, incoming)]
    created := r.created + 1
    updated := r.updated ++ Broadcast.message r.acceptsUpdated r.cachedLocal (r.created, incoming) }

/-- `onMessageIncoming` for a `PeerSubscribeRequest`. Without relationships it is a removal. -/
def onPeerSubscribe (r : Repository) (location : Location) (metaData : PublicationMetaData) : Repository :=
  match r.caches.mAccount with
  | none => r
  | some localLocation =>
    if location.getPeer = none then r
    else
      let metaData := { metaData with mCreatorLocation := some location, mPublishedLocation := some localLocation }
      if metaData.mPublishedRelationships.isEmpty then r.withoutSource metaData
      else (r.withoutSource metaData).placeIncoming metaData

def onDisconnected (r : Repository) (location : Option Location) : Repository :=
  { r with
    caches := r.caches.onDisconnected location
    mPeerSubscriptionsIncoming := r.mPeerSubscriptionsIncoming.filter fun s =>
      locationCompare s.2.mSubscriptionInfo.mCreatorLocation location ≠ .eq }

/-- The subscribers are told of one publication after another, and then no subscription is left in a map. -/
def cancel (r : Repository) : Repository :=
  let told := { r with gone := r.gone ++ r.cachedLocal.flatMap fun i => r.notifyLocal [i] ++ r.notifyGone [i] }
  let left := r.mSubscriptionsLocal.foldl cancelLocal told
  { left with caches := r.caches.cancel, mSubscriptionsLocal := [], mPeerSubscriptionsIncoming := [] }

end Repository

/-- What happens to the caches, and to the subscriptions at this repository. -/
inductive Event where
  | cache (e : Caching.Event)
  | subscribe (subscribeToLocation : Location) (publicationPath : String) (relationships : SubscribeToRelationshipsMap)
  | cancelLocal (k : Nat)
  | peerSubscribe (location : Location) (metaData : PublicationMetaData)

def stepCache (r : Repository) : Caching.Event → Except Halt Repository
  | .publish i => if i < r.caches.created then .ok (r.publish i) else .ok r
  | .remove i => .ok (r.remove i)
  | .peerDelete location metaData => r.onPeerDelete location metaData
  | .disconnected location => .ok (r.onDisconnected location)
  | .cancel => .ok r.cancel
  | e => .ok { r with caches := Caching.step r.caches e }

def step (r : Repository) : Event → Except Halt Repository
  | .cache e => stepCache r e
  | .subscribe subscribeToLocation publicationPath relationships =>
    .ok (r.subscribe subscribeToLocation publicationPath relationships)
  | .cancelLocal k => .ok (r.cancelLocal k)
  | .peerSubscribe location metaData => .ok (r.onPeerSubscribe location metaData)

/-! ## What is to be told -/

namespace Repository

/-- The subscriptions there are, with their numbers. -/
def subscriptions (r : Repository) : List (Nat × PublicationMetaData) :=
  (r.subscriptionsLocal.filter (·.2.mDelegate)).map (fun s => (s.1, s.2.mSubscriptionInfo)) ++
    r.mPeerSubscriptionsIncoming.map fun s => (s.1, s.2.mSubscriptionInfo)

/-- The path and the relationships of a publication match those of a subscription, which is of who created it. -/
def isMatching (r : Repository) (info : PublicationMetaData) (i : Nat) : Bool := r.accepts info info.mCreatorLocation i

/-- The entry of the cache that a delete request is for. -/
def findDeleted (r : Repository) (location : Option Location) (metaData : Caching.CacheMetaData) : Option (Nat × Nat) :=
  match r.caches.mAccount with
  | none => none
  | some localLocation => r.caches.find r.caches.mCachedLocalPublications
      { metaData with mCreatorLocation := location, mPublishedLocation := some localLocation }

end Repository

/-- Which update a subscriber is to be told of. -/
inductive DueUpdated (r r' : Repository) : Event → Nat → Nat → Prop
  /-- a publication is published here while there is a subscription for it -/
  | published {i k : Nat} {info : PublicationMetaData} (hexists : i < r.caches.created)
      (hlocal : r.publishesLocally i = true) (hsubscription : (k, info) ∈ r.subscriptions)
      (hmatching : r'.isMatching info i = true) : DueUpdated r r' (.cache (.publish i)) k i
  /-- a publication is in the cache when a subscription for it is made -/
  | subscribed {e : Event} {i : Nat} {info : PublicationMetaData} (hsubscription : (r.created, info) ∈ r'.subscriptions)
      (hcached : i ∈ r'.cachedLocal) (hmatching : r'.isMatching info i = true) : DueUpdated r r' e r.created i

/-- Which publication a subscriber is to be told is gone. -/
inductive DueGone (r : Repository) : Event → Nat → Nat → Prop
  | deleted {location : Option Location} {metaData : Caching.CacheMetaData} {found : Nat × Nat} {k : Nat}
      {info : PublicationMetaData} (hfound : r.findDeleted location metaData = some found)
      (hsubscription : (k, info) ∈ r.subscriptions) (hmatching : r.isMatching info found.2 = true) :
      DueGone r (.cache (.peerDelete location metaData)) k found.2
  | cancelled {k i : Nat} {info : PublicationMetaData} (hcached : i ∈ r.cachedLocal)
      (hsubscription : (k, info) ∈ r.subscriptions) (hmatching : r.isMatching info i = true) :
      DueGone r (.cache .cancel) k i

/-- An event tells each subscriber of what it is to be told of, and of nothing else. -/
structure TellsDue (r : Repository) (e : Event) (r' : Repository) : Prop where
  updated : ∃ sent, r'.updated = r.updated ++ sent ∧ ∀ k i, Broadcast.Tells sent k i ↔ DueUpdated r r' e k i
  gone : ∃ sent, r'.gone = r.gone ++ sent ∧ ∀ k i, Broadcast.Tells sent k i ↔ DueGone r e k i

end OpenPeer.Notifications
