import OpenPeer.PublicationCacheRuns
import OpenPeer.Turns

/-!
# Fetching publications

Fetches of one publication are sent one after another. When one ends, the next is answered
from the cache or sent, and the version it is compared by is that in the meta data of the one
that ended, which was overwritten when it was sent.
-/
namespace OpenPeer.Fetching

open Caching (CacheMetaData PublicationObject cacheCompare_eq_eq)
open Std (OrientedCmp ReflCmp TransCmp)

/-- Why there is no state after a step: an exception is not caught, or a list is edited where it may not be. -/
inductive Halt where
  | thrown
  | undefined
  deriving DecidableEq

/-- `mPublicationMetaData` and `mVersion` are of the meta data that the fetcher keeps for itself. What was fetched is
held as it is then. `asked` is the version that was asked for, and `told` says how often the delegate was told. -/
structure Fetcher where
  mPublicationMetaData : CacheMetaData
  mVersion : Nat
  mMonitor : Bool := false
  mDelegate : Bool := true
  mSucceeded : Bool := false
  mErrorCode : Nat := 0
  mErrorReason : String := ""
  mFetchedPublication : Option PublicationObject := none
  asked : Nat
  told : Nat := 0

namespace Fetcher

/-- `cancel`, but for what the repository does about it. -/
def complete (f : Fetcher) : Fetcher :=
  { f with mMonitor := false, mDelegate := false, told := if f.mDelegate then f.told + 1 else f.told }

def setPublication (f : Fetcher) (publication : PublicationObject) : Fetcher :=
  { f with mFetchedPublication := some publication }

def setVersion (f : Fetcher) (version : Nat) : Fetcher := { f with mVersion := version }

def setMonitor (f : Fetcher) : Fetcher := { f with mMonitor := true }

def succeed (f : Fetcher) : Fetcher := { f with mSucceeded := true }

def fail (f : Fetcher) (errorCode : Nat) (errorReason : String) : Fetcher :=
  { f with mSucceeded := false, mErrorCode := errorCode, mErrorReason := errorReason }

end Fetcher

/-- The fetchers are told by their numbers. Of a `PeerGetRequest` the meta data and its version are kept. -/
structure Repository where
  caches : Caching.Repository
  fetchers : Nat → Fetcher
  /-- the number of the next fetcher that is created -/
  created : Nat := 0
  mPendingFetchers : List Nat := []
  sent : List (CacheMetaData × Nat) := []

namespace Repository

def modify (r : Repository) (i : Nat) (f : Fetcher → Fetcher) : Repository :=
  { r with fetchers := Function.update r.fetchers i (f (r.fetchers i)) }

/-- The fetchers `i` and `j` fetch the same publication. -/
def isMatching (r : Repository) (i j : Nat) : Bool :=
  (r.fetchers i).mPublicationMetaData.isMatching (r.fetchers j).mPublicationMetaData false

/-- The publication of the remote cache that the meta data of `m` finds. -/
def findRemote (r : Repository) (m : Nat) : Option PublicationObject :=
  (r.caches.find r.caches.mCachedRemotePublications (r.fetchers m).mPublicationMetaData).map fun found =>
    r.caches.publications found.2

/-- What the fetcher `i` does once nothing in the cache will do. When the account is gone the fetcher is cancelled,
which takes it off the list, and then taken off the list again. -/
def sendRequest (r : Repository) (m i : Nat) : Except Halt Repository :=
  match r.caches.mAccount with
  | none => .error .undefined
  | some _ =>
    let request := ((r.fetchers m).mPublicationMetaData, (r.fetchers m).mVersion)
    .ok { r.modify i Fetcher.setMonitor with sent := r.sent ++ [request] }

/-- `cancel` of a fetcher that is pending, but for the next one. -/
def leave (r : Repository) (i : Nat) : Repository :=
  { r.modify i Fetcher.complete with mPendingFetchers := r.mPendingFetchers.erase i }

/-- The fetcher `i` completes with a publication of the cache. -/
def serve (r : Repository) (i : Nat) (existing : PublicationObject) : Repository :=
  (r.modify i fun f => (f.setPublication existing).succeed).leave i

/-- `activateFetcher` with the meta data of the fetcher `m`. A fetcher that is served from the cache activates the next
one in turn, `pending` times at most. -/
def activateFetcher : (pending : Nat) → Repository → (m : Nat) → Except Halt Repository
  | 0, r, _ => .ok r
  | pending + 1, r, m =>
    match r.mPendingFetchers.find? (r.isMatching m) with
    | none => .ok r
    | some i =>
      if (r.fetchers i).mMonitor then .ok r
      else
        match r.findRemote m with
        | none => (r.modify m fun f => f.setVersion 0).sendRequest m i
        | some existing =>
          if (r.fetchers m).mVersion ≤ existing.publication.mVersion then
            activateFetcher pending (r.serve i existing) i
          else (r.modify m fun f => f.setVersion existing.publication.mVersion).sendRequest m i

def activate (r : Repository) (m : Nat) : Except Halt Repository :=
  activateFetcher r.mPendingFetchers.length r m

/-- `Fetcher::cancel`, with `notifyFetcherCancelled` -/
def cancelFetcher (r : Repository) (i : Nat) : Except Halt Repository :=
  if i ∈ r.mPendingFetchers then (r.leave i).activate i else .ok (r.modify i Fetcher.complete)

def create (r : Repository) (metaData : CacheMetaData) (version : Nat) : Repository :=
  { r with
    fetchers := Function.update r.fetchers r.created
      { mPublicationMetaData := metaData, mVersion := version, asked := version }
    created := r.created + 1 }

/-- What is asked for has the location it is published to. -/
def fetch (r : Repository) (inMetaData : CacheMetaData) (publishedLocation : Location) (version : Nat) :
    Except Halt Repository :=
  let metaData := { inMetaData with mPublishedLocation := some publishedLocation }
  let i := r.created
  let r := r.create metaData version
  if publishedLocation.mType = .local then
    match r.caches.find r.caches.mCachedLocalPublications metaData with
    | some found =>
      .ok (r.modify i fun f => ((f.setPublication (r.caches.publications found.2)).succeed).complete)
    | none => .ok (r.modify i Fetcher.complete)
  else { r with mPendingFetchers := r.mPendingFetchers ++ [i] }.activate i

/-- The locations of what was fetched are those that were asked for. -/
def located (metaData : CacheMetaData) (publication : PublicationObject) : PublicationObject :=
  { publication with
    mCreatorLocation := metaData.mCreatorLocation, mPublishedLocation := metaData.mPublishedLocation }

/-- What the fetcher `i` carries after `notifyFetched`, which catches that a version does not match only. -/
def carried (r : Repository) (i : Nat) (publication : PublicationObject) : Except Halt PublicationObject :=
  let publication := located (r.fetchers i).mPublicationMetaData publication
  match r.findRemote i with
  | none => .ok publication
  | some existing =>
    match (existing.updateFromFetchedPublication publication).2 with
    | .updated => .ok (existing.updateFromFetchedPublication publication).1
    | .mismatched _ => .ok publication
    | .trapped _ => .error .thrown

/-- The fetcher waits for what its monitor is told. -/
def handles (r : Repository) (i : Nat) : Bool := (r.fetchers i).mDelegate && (r.fetchers i).mMonitor

/-- `handleMessageMonitorMessageReceived` for a `PeerGetResult` with a publication -/
def onResult (r : Repository) (i : Nat) (publication : PublicationObject) : Except Halt Repository :=
  if r.handles i then
    match r.carried i publication with
    | .error halt => .error halt
    | .ok carried =>
      let caches := r.caches.notifyFetched (r.fetchers i).mPublicationMetaData publication
      ({ r with caches }.modify i fun f => f.succeed.setPublication carried).cancelFetcher i
  else .ok r

def onError (r : Repository) (i : Nat) (errorCode : Nat) (errorReason : String) : Except Halt Repository :=
  if r.handles i then (r.modify i fun f => f.fail errorCode errorReason).cancelFetcher i else .ok r

/-- A `PeerGetResult` without a publication -/
def onNotFound (r : Repository) (i : Nat) : Except Halt Repository := r.onError i 404 "Not found"

def onMessageMonitorTimedOut (r : Repository) (i : Nat) : Except Halt Repository :=
  if (r.fetchers i).mMonitor then r.cancelFetcher i else .ok r

/-- The pending fetchers are cancelled once they are off the list, so that none activates another. -/
def cancel (r : Repository) : Repository :=
  r.mPendingFetchers.foldl (fun r i => r.modify i Fetcher.complete)
    { r with caches := r.caches.cancel, mPendingFetchers := [] }

end Repository

/-- `cache` is whatever else becomes of the caches. -/
inductive Event where
  | fetch (inMetaData : CacheMetaData) (publishedLocation : Location) (version : Nat)
  | result (i : Nat) (publication : PublicationObject)
  | notFound (i : Nat)
  | error (i : Nat) (errorCode : Nat) (errorReason : String)
  | timedOut (i : Nat)
  | cancelFetcher (i : Nat)
  | cache (e : Caching.Event)
  | cancel

/-- Nothing is told to a fetcher that does not exist. -/
def told (r : Repository) (i : Nat) (r' : Except Halt Repository) : Except Halt Repository :=
  if i < r.created then r' else .ok r

def step (r : Repository) : Event → Except Halt Repository
  | .fetch inMetaData publishedLocation version => r.fetch inMetaData publishedLocation version
  | .result i publication => told r i (r.onResult i publication)
  | .notFound i => told r i (r.onNotFound i)
  | .error i errorCode errorReason => told r i (r.onError i errorCode errorReason)
  | .timedOut i => told r i (r.onMessageMonitorTimedOut i)
  | .cancelFetcher i => told r i (r.cancelFetcher i)
  | .cache e => .ok { r with caches := Caching.step r.caches e }
  | .cancel => .ok r.cancel

end OpenPeer.Fetching
