import OpenPeer.PublicationFetchers
import Std.Data.ExtTreeMap

/-!
# Publishing and removing

A repository publishes and removes publications as it fetches them, each by an operation of its
own with a delegate and a monitor of the request that was sent. Publications of its own location
are published and removed at once.
-/
namespace OpenPeer.Operations

open Caching (CacheMetaData PublicationObject)
open Std

/-- A publication is told by the number of its object. -/
inductive Request where
  | publish (publication publishedFromVersion publishedToVersion : Nat)
  | delete (metaData : CacheMetaData)
  deriving DecidableEq

/-- A monitor with the request that it monitors. It `waits` until a result was handled. -/
structure Monitor where
  request : Request
  waits : Bool := true
  deriving DecidableEq

/-- What `Publisher` and `Remover` have in common. `told` says how often the delegate was told. -/
structure Operation where
  mPublication : Nat
  mMonitor : Option Monitor := none
  mDelegate : Bool := true
  mSucceeded : Bool := false
  mErrorCode : Nat := 0
  mErrorReason : String := ""
  told : Nat := 0
  deriving DecidableEq

namespace Operation

/-- `cancel`, but for what the repository does about it. -/
def complete (o : Operation) : Operation :=
  { o with mMonitor := none, mDelegate := false, told := if o.mDelegate then o.told + 1 else o.told }

def setMonitor (o : Operation) (request : Request) : Operation := { o with mMonitor := some { request } }

def succeed (o : Operation) : Operation := { o with mSucceeded := true }

def fail (o : Operation) (errorCode : Nat) (errorReason : String) : Operation :=
  { o with mSucceeded := false, mErrorCode := errorCode, mErrorReason := errorReason }

/-- The monitor has handled what it was told. -/
def handled (o : Operation) : Operation :=
  { o with mMonitor := o.mMonitor.map fun monitor => { monitor with waits := false } }

/-- The monitor still waits for a result. -/
def monitored (o : Operation) : Bool := o.mMonitor.any fun monitor => monitor.waits

/-- The operation waits for what its monitor is told. -/
def handles (o : Operation) : Bool := o.mDelegate && o.monitored

end Operation

/-- The publishers and removers are told by their numbers; the next numbers are those `created`. -/
structure Repository where
  fetching : Fetching.Repository
  mCachedPermissionDocuments : ExtTreeMap String Nat := ∅
  publishers : Nat → Operation
  publishersCreated : Nat := 0
  mPendingPublishers : List Nat := []
  removers : Nat → Operation
  removersCreated : Nat := 0
  sent : List Request := []

namespace Repository

def caches (r : Repository) : Caching.Repository := r.fetching.caches

def withCaches (r : Repository) (caches : Caching.Repository) : Repository :=
  { r with fetching := { r.fetching with caches } }

def modifyPublisher (r : Repository) (k : Nat) (f : Operation → Operation) : Repository :=
  { r with publishers := Function.update r.publishers k (f (r.publishers k)) }

def modifyRemover (r : Repository) (k : Nat) (f : Operation → Operation) : Repository :=
  { r with removers := Function.update r.removers k (f (r.removers k)) }

/-- `setBaseVersion` of a publication -/
def setBaseVersion (r : Repository) (i baseVersion : Nat) : Repository :=
  r.withCaches (r.caches.update i fun p => { p with mBaseVersion := baseVersion })

/-! ## Publishers -/

def publishes (r : Repository) (publication k : Nat) : Bool := (r.publishers k).mPublication = publication

/-- The publisher is sent for, with the versions that its publication has now. -/
def publishRequest (r : Repository) (publication : Nat) : Request :=
  .publish publication (r.caches.publications publication).publication.mBaseVersion
    (r.caches.publications publication).publication.mVersion

/-- When the account is gone the publisher is taken off the list and then cancelled through its place there. -/
def activatePublisher (r : Repository) (publication : Nat) : Except Fetching.Halt Repository :=
  match r.mPendingPublishers.find? (r.publishes publication) with
  | none => .ok r
  | some k =>
    match r.caches.mAccount with
    | none => .error .undefined
    | some _ =>
      if (r.publishers k).mMonitor.isSome then .ok r
      else
        let request := r.publishRequest publication
        .ok { r.modifyPublisher k fun o => o.setMonitor request with sent := r.sent ++ [request] }

/-- `Publisher::cancel`, with `notifyPublisherCancelled` -/
def cancelPublisher (r : Repository) (k : Nat) : Except Fetching.Halt Repository :=
  if k ∈ r.mPendingPublishers then
    { r.modifyPublisher k Operation.complete with
      mPendingPublishers := r.mPendingPublishers.erase k }.activatePublisher (r.publishers k).mPublication
  else .ok (r.modifyPublisher k Operation.complete)

def createPublisher (r : Repository) (publication : Nat) : Repository :=
  { r with
    publishers := Function.update r.publishers r.publishersCreated { mPublication := publication }
    publishersCreated := r.publishersCreated + 1 }

/-- The publication is of this location, and so it is cached at once. -/
def publishLocally (r : Repository) (i : Nat) : Repository :=
  let publication := (r.caches.publications i).publication
  let r := r.setBaseVersion i publication.mVersion
  { r.withCaches (r.caches.publish i) with
    mCachedPermissionDocuments := r.mCachedPermissionDocuments.insert publication.mName i }

/-- There is no publisher when the account is gone. -/
def publish (r : Repository) (i : Nat) : Except Fetching.Halt Repository :=
  match r.caches.mAccount with
  | none => .ok r
  | some _ =>
    let k := r.publishersCreated
    let r := r.createPublisher i
    if Caching.Repository.isLocal (r.caches.publications i).mPublishedLocation then
      .ok ((r.publishLocally i).modifyPublisher k fun o => o.succeed.complete)
    else { r with mPendingPublishers := r.mPendingPublishers ++ [k] }.activatePublisher i

/-- The version that a publish request led to. -/
def publishedTo : Option Monitor → Option Nat
  | some { request := .publish _ _ publishedToVersion, .. } => some publishedToVersion
  | _ => none

/-- `handleMessageMonitorMessageReceived` for a `PeerPublishResult` -/
def onPublishResult (r : Repository) (k : Nat) : Except Fetching.Halt Repository :=
  if (r.publishers k).handles then
    match publishedTo (r.publishers k).mMonitor with
    | none => .error .thrown
    | some publishedToVersion =>
      let r := r.setBaseVersion (r.publishers k).mPublication (publishedToVersion + 1)
      (r.modifyPublisher k Operation.succeed).cancelPublisher k
  else .ok r

def onPublishError (r : Repository) (k : Nat) (errorCode : Nat) (errorReason : String) :
    Except Fetching.Halt Repository :=
  if (r.publishers k).handles then (r.modifyPublisher k fun o => o.fail errorCode errorReason).cancelPublisher k
  else .ok r

def onPublishTimedOut (r : Repository) (k : Nat) : Except Fetching.Halt Repository :=
  if (r.publishers k).monitored then r.cancelPublisher k else .ok r

/-! ## Removers -/

def createRemover (r : Repository) (publication : Nat) : Repository :=
  { r with
    removers := Function.update r.removers r.removersCreated { mPublication := publication }
    removersCreated := r.removersCreated + 1 }

/-- The permission document of the publication's name, when it is of the publication's lineage. -/
def permissionToErase (r : Repository) (i : Nat) : Bool :=
  match r.mCachedPermissionDocuments[(r.caches.publications i).publication.mName]? with
  | none => false
  | some existing =>
    (r.caches.publications existing).publication.mLineage = (r.caches.publications i).publication.mLineage

def wasErased (r : Repository) (i : Nat) : Bool :=
  (r.caches.find r.caches.mCachedLocalPublications (r.caches.metaData i)).isSome || r.permissionToErase i

/-- The publication is of this location, and so it is erased at once. -/
def removeLocally (r : Repository) (i : Nat) : Repository :=
  let name := (r.caches.publications i).publication.mName
  { r.withCaches (r.caches.remove i) with
    mCachedPermissionDocuments :=
      if r.permissionToErase i then r.mCachedPermissionDocuments.erase name else r.mCachedPermissionDocuments }

def sendDelete (r : Repository) (k i : Nat) : Repository :=
  let request := Request.delete (r.caches.metaData i)
  { r.modifyRemover k fun o => o.setMonitor request with sent := r.sent ++ [request] }

/-- The case of a publication of this location runs on into that of the others, whose request is sent too. -/
def remove (r : Repository) (i : Nat) : Repository :=
  let k := r.removersCreated
  let r := r.createRemover i
  match r.caches.mAccount with
  | none => r.modifyRemover k Operation.complete
  | some _ =>
    if Caching.Repository.isLocal (r.caches.publications i).mPublishedLocation then
      let erased := r.wasErased i
      let r := (r.removeLocally i).modifyRemover k fun o => (if erased then o.succeed.complete else o).complete
      r.sendDelete k i
    else r.sendDelete k i

/-- `handleMessageMonitorMessageReceived` for a `PeerDeleteResult` -/
def onDeleteResult (r : Repository) (k : Nat) : Repository :=
  if (r.removers k).handles then
    (r.withCaches (r.caches.notifyRemoved (r.removers k).mPublication)).modifyRemover k fun o => o.succeed.complete
  else r

/-- An error is handled, and the remover goes on waiting. -/
def onDeleteError (r : Repository) (k : Nat) (errorCode : Nat) (errorReason : String) : Repository :=
  if (r.removers k).handles then r.modifyRemover k fun o => (o.fail errorCode errorReason).handled else r

def onDeleteTimedOut (r : Repository) (k : Nat) : Repository :=
  if (r.removers k).monitored then r.modifyRemover k Operation.complete else r

/-- The removers are in no list, and are left alone. -/
def cancel (r : Repository) : Repository :=
  r.mPendingPublishers.foldl (fun r k => r.modifyPublisher k Operation.complete)
    { r with fetching := r.fetching.cancel, mPendingPublishers := [] }

end Repository

/-- The events of the fetchers and the caches are those of `Fetching`; its `cancel` is that of the repository. -/
inductive Event where
  | fetching (e : Fetching.Event)
  | publish (i : Nat)
  | publishResult (k : Nat)
  | publishError (k : Nat) (errorCode : Nat) (errorReason : String)
  | publishTimedOut (k : Nat)
  | cancelPublisher (k : Nat)
  | remove (i : Nat)
  | deleteResult (k : Nat)
  | deleteError (k : Nat) (errorCode : Nat) (errorReason : String)
  | deleteTimedOut (k : Nat)
  | cancelRemover (k : Nat)

/-- Nothing is told to a publisher that does not exist. -/
def toPublisher (r : Repository) (k : Nat) (r' : Except Fetching.Halt Repository) : Except Fetching.Halt Repository :=
  if k < r.publishersCreated then r' else .ok r

/-- Nothing is told to a remover that does not exist. -/
def toRemover (r : Repository) (k : Nat) (r' : Repository) : Except Fetching.Halt Repository :=
  .ok (if k < r.removersCreated then r' else r)

def fetchingStep (r : Repository) : Fetching.Event → Except Fetching.Halt Repository
  | .cancel => .ok r.cancel
  | e =>
    match Fetching.step r.fetching e with
    | .error halt => .error halt
    | .ok fetching => .ok { r with fetching }

def step (r : Repository) : Event → Except Fetching.Halt Repository
  | .fetching e => fetchingStep r e
  | .publish i => if i < r.caches.created then r.publish i else .ok r
  | .publishResult k => toPublisher r k (r.onPublishResult k)
  | .publishError k errorCode errorReason => toPublisher r k (r.onPublishError k errorCode errorReason)
  | .publishTimedOut k => toPublisher r k (r.onPublishTimedOut k)
  | .cancelPublisher k => toPublisher r k (r.cancelPublisher k)
  | .remove i => if i < r.caches.created then .ok (r.remove i) else .ok r
  | .deleteResult k => toRemover r k (r.onDeleteResult k)
  | .deleteError k errorCode errorReason => toRemover r k (r.onDeleteError k errorCode errorReason)
  | .deleteTimedOut k => toRemover r k (r.onDeleteTimedOut k)
  | .cancelRemover k => toRemover r k (r.modifyRemover k Operation.complete)

end OpenPeer.Operations
