import Mathlib.Logic.Function.Basic
import OpenPeer.PublicationMetaData

/-!
# Subscriptions between repositories

A repository keeps the subscriptions it placed at other locations and those that other
locations placed with it. A peer-subscribe request is watched by a message monitor, whose
outcome is handed to the subscription by a call that is posted first and runs later.
-/
namespace OpenPeer.Subscriptions

open MessageHelper

abbrev MessageID := Nat

/-- One location of a peer, as the other repositories reach it. -/
structure Address where
  peerURI : String
  locationID : String
  deriving DecidableEq

namespace Address

/-- The location as other repositories know it. -/
def location (a : Address) : Location := ⟨.peer, some a.peerURI, a.locationID⟩

/-- `getForLocal` -/
def localLocation (a : Address) : Location := ⟨.local, some a.peerURI, a.locationID⟩

end Address

theorem locationCompare_address (a : Address) {location : Option Location} :
    locationCompare location (some a.location) = .eq ↔ location = some a.location := by
  constructor
  · intro h
    cases location with
    | none => exact (nomatch h)
    | some location => rw [eq_of_locationCompare h rfl (by simp [Address.location])]
  · rintro rfl
    exact locationCompare_self _

theorem address_locationCompare (a : Address) {location : Option Location} :
    locationCompare (some a.location) location = .eq ↔ location = some a.location := by
  rw [← locationCompare_address a, ← locationCompare_swap location]
  cases locationCompare location (some a.location) <;> simp

theorem Address.location_ne {a b : Address} (h : a ≠ b) : a.location ≠ b.location := by
  intro heq
  obtain ⟨aURI, aID⟩ := a
  obtain ⟨bURI, bID⟩ := b
  simp_all [Address.location]

/-- What crosses between two repositories about subscriptions. -/
inductive Message where
  | subscribeRequest (messageID : MessageID) (name : String)
      (subscribeToRelationships : List RelationshipsElement)
  | subscribeResult (messageID : MessageID) (name : String)
      (subscribeToRelationships : List RelationshipsElement)
  deriving DecidableEq

/-- `IPublicationSubscription::PublicationSubscriptionStates` -/
inductive PublicationSubscriptionStates where
  | pending
  | established
  | shuttingDown
  | shutdown
  deriving DecidableEq

/-- A subscription placed at another location. `mDelegate` tells whether it is set, and
`registered` whether the subscription is in `mPeerSubscriptionsOutgoing`. -/
structure PeerSubscriptionOutgoing where
  mSubscriptionInfo : PublicationMetaData
  mCurrentState : PublicationSubscriptionStates := .pending
  mDelegate : Bool := true
  mMonitor : Option MessageID := none
  mCancelMonitor : Option MessageID := none
  registered : Bool := true
  deriving DecidableEq

/-- A subscription placed by another location. -/
structure PeerSubscriptionIncoming where
  mSubscriptionInfo : PublicationMetaData
  deriving DecidableEq

/-- What the account knows of another location. A message for a location that it no longer has
at a peer that it still has is reported as sent. -/
inductive Connection where
  | connected
  | absent
  | forgotten
  deriving DecidableEq

/-- A call that was posted for a monitor and has not run. -/
inductive Posted where
  | autoHandleFailureResult (messageID : MessageID)
  | handleMessage (messageID : MessageID) (subscription : Nat) (hasError : Bool)
  | messageMonitorTimedOut (messageID : MessageID) (subscription : Nat)
  deriving DecidableEq

/-- The call hands a message on for the monitor. -/
def Posted.handles (messageID : MessageID) : Posted → Bool
  | .handleMessage handled _ _ => handled = messageID
  | _ => false

/-- The subscription tables of a repository, in the order in which the subscriptions were created,
with the monitors that are not complete, the connections and what was written to each and not yet
read there. A subscription is named by its place in `outgoing`. `processed` is a history: the
requests that this repository has processed, with where they came from and their path. -/
structure Repository where
  outgoing : List PeerSubscriptionOutgoing := []
  incoming : List PeerSubscriptionIncoming := []
  monitors : List (MessageID × Nat) := []
  posted : List Posted := []
  connection : Location → Connection := fun _ => .absent
  queue : Location → List Message := fun _ => []
  nextMessageID : MessageID := 0
  processed : List (Location × String × MessageID) := []

namespace Repository

def modifyOutgoing (r : Repository) (i : Nat) (f : PeerSubscriptionOutgoing → PeerSubscriptionOutgoing) :
    Repository :=
  { r with outgoing := r.outgoing.modify i f }

/-- Nothing completes the monitor any more. -/
def monitorEnd (r : Repository) (messageID : MessageID) : Repository :=
  { r with monitors := r.monitors.filter (·.1 ≠ messageID) }

def isComplete (r : Repository) (messageID : MessageID) : Bool := (r.monitors.lookup messageID).isNone

/-- `sendMessage`, and what it returns -/
def sendMessage (r : Repository) (location : Location) (message : Message) : Repository × Bool :=
  match r.connection location with
  | .connected =>
    ({ r with queue := Function.update r.queue location (r.queue location ++ [message]) }, true)
  | .absent => (r, false)
  | .forgotten => (r, true)

/-- The peer-subscribe request for a subscription. -/
def subscribeRequest (messageID : MessageID) (metaData : PublicationMetaData) : Message :=
  .subscribeRequest messageID metaData.mName (createElement metaData.mPublishedRelationships)

/-- `monitorAndSendToLocation` for the peer-subscribe request of a subscription -/
def monitorAndSendToLocation (r : Repository) (subscription : Nat) (peerLocation : Option Location)
    (metaData : PublicationMetaData) : Repository × MessageID :=
  let messageID := r.nextMessageID
  let watched := { r with nextMessageID := messageID + 1, monitors := r.monitors ++ [(messageID, subscription)] }
  match peerLocation with
  | none => (watched, messageID)
  | some location =>
    let (sent, ok) := watched.sendMessage location (subscribeRequest messageID metaData)
    (if ok then sent else { sent with posted := sent.posted ++ [.autoHandleFailureResult messageID] }, messageID)

/-- `PublicationRepository::subscribe` at the location of another repository -/
def subscribe (r : Repository) (self subscribeToLocation : Address) (publicationPath : String)
    (relationships : SubscribeToRelationshipsMap) : Repository :=
  let metaData : PublicationMetaData :=
    { mCreatorLocation := some self.localLocation
      mName := publicationPath
      mPublishedRelationships := relationships
      mPublishedLocation := some subscribeToLocation.location }
  let (sent, messageID) :=
    r.monitorAndSendToLocation r.outgoing.length (some subscribeToLocation.location) metaData
  { sent with outgoing := sent.outgoing ++ [{ mSubscriptionInfo := metaData, mMonitor := some messageID }] }

/-- `PeerSubscriptionOutgoing::cancel`. The request repeats the subscription's own relationships. -/
def cancel (r : Repository) (i : Nat) : Repository :=
  match r.outgoing[i]? with
  | none => r
  | some subscription =>
    if subscription.mCurrentState = .shutdown then r
    else
      match subscription.mCancelMonitor with
      | none =>
        let (sent, messageID) := r.monitorAndSendToLocation i
          subscription.mSubscriptionInfo.mPublishedLocation subscription.mSubscriptionInfo
        sent.modifyOutgoing i fun o =>
          { o with mCurrentState := .shuttingDown, mCancelMonitor := some messageID }
      | some messageID =>
        if r.isComplete messageID then
          r.modifyOutgoing i fun o =>
            { o with mCurrentState := .shutdown, registered := false, mDelegate := false }
        else r.modifyOutgoing i fun o => { o with mCurrentState := .shuttingDown }

/-- `PeerSubscriptionOutgoing::handleMessageMonitorMessageReceived` for the result of a peer-subscribe
request, and whether it handled it -/
def handleMessageMonitorMessageReceived (r : Repository) (i : Nat) (monitor : MessageID) (hasError : Bool) :
    Repository × Bool :=
  match r.outgoing[i]? with
  | none => (r, false)
  | some subscription =>
    if subscription.mCancelMonitor = some monitor then ((r.monitorEnd monitor).cancel i, true)
    else if subscription.mDelegate = false then (r, false)
    else if subscription.mMonitor ≠ some monitor then (r, false)
    else if hasError then (r.cancel i, true)
    else
      ((r.modifyOutgoing i fun o => { o with mCurrentState := .established, mMonitor := none }).monitorEnd
        monitor, true)

/-- `PeerSubscriptionOutgoing::onMessageMonitorTimedOut` -/
def onMessageMonitorTimedOut (r : Repository) (i : Nat) (monitor : MessageID) : Repository :=
  match r.outgoing[i]? with
  | none => r
  | some subscription =>
    if subscription.mCancelMonitor = some monitor then r.cancel i
    else if subscription.mMonitor ≠ some monitor then r
    else r.cancel i

/-- `MessageMonitor::handleMessage`: a result for a monitor that is not complete is handed on later. -/
def handleMessage (r : Repository) (messageID : MessageID) (hasError : Bool) : Repository :=
  match r.monitors.lookup messageID with
  | none => r
  | some subscription => { r with posted := r.posted ++ [.handleMessage messageID subscription hasError] }

/-- `MessageMonitor::onTimer`. While a result waits to be handled, that decides; a time-out after a
result that was not handled finds a subscription that no longer has the monitor. -/
def onTimer (r : Repository) (messageID : MessageID) : Repository :=
  match r.monitors.lookup messageID with
  | none => r
  | some subscription =>
    if r.posted.any (Posted.handles messageID) then r
    else
      { r.monitorEnd messageID with posted := r.posted ++ [.messageMonitorTimedOut messageID subscription] }

/-- A posted call runs. -/
def runPosted (r : Repository) : Posted → Repository
  | .autoHandleFailureResult messageID => r.handleMessage messageID true
  | .handleMessage messageID subscription hasError =>
    let (handled, wasHandled) := r.handleMessageMonitorMessageReceived subscription messageID hasError
    if wasHandled then handled.monitorEnd messageID else handled
  | .messageMonitorTimedOut messageID subscription => r.onMessageMonitorTimedOut subscription messageID

def run (r : Repository) (k : Nat) : Repository :=
  match r.posted[k]? with
  | none => r
  | some call => { r with posted := r.posted.eraseIdx k }.runPosted call

/-- `findIncomingSubscription`: whether a subscription has the path and the creator of the meta data -/
def isSource (inMetaData : PublicationMetaData) (subscription : PeerSubscriptionIncoming) : Bool :=
  inMetaData.mName = subscription.mSubscriptionInfo.mName &&
    locationCompare inMetaData.mCreatorLocation subscription.mSubscriptionInfo.mCreatorLocation = .eq

/-- The meta data that the repository makes of a peer-subscribe request from a location. -/
def subscribeMetaData (self : Address) (location : Location) (name : String)
    (subscribeToRelationships : List RelationshipsElement) : PublicationMetaData :=
  { mCreatorLocation := some location
    mName := name
    mEncoding := .binary
    mPublishedRelationships := fillRelationships subscribeToRelationships
    mPublishedLocation := some self.localLocation }

/-- What a peer-subscribe request leaves of the incoming subscriptions: one from the same source
goes, and relationships that are not empty make a new one. -/
def placeIncoming (incoming : List PeerSubscriptionIncoming) (metaData : PublicationMetaData) :
    List PeerSubscriptionIncoming :=
  let others := incoming.eraseP (isSource metaData)
  if metaData.mPublishedRelationships.isEmpty then others else others ++ [⟨metaData⟩]

/-- `PublicationRepository::onMessageIncoming` for a peer-subscribe request -/
def onMessageIncoming (r : Repository) (self : Address) (location : Location) (messageID : MessageID)
    (name : String) (subscribeToRelationships : List RelationshipsElement) : Repository :=
  if location.getPeer = none then r
  else
    let metaData := subscribeMetaData self location name subscribeToRelationships
    let placed := { r with
      incoming := placeIncoming r.incoming metaData
      processed := r.processed ++ [(location, name, messageID)] }
    (placed.sendMessage location
      (.subscribeResult messageID metaData.mName (createElement metaData.mPublishedRelationships))).1

/-- A message is read from the stream of another location. -/
def receive (r : Repository) (self : Address) (location : Location) : Message → Repository
  | .subscribeRequest messageID name subscribeToRelationships =>
    r.onMessageIncoming self location messageID name subscribeToRelationships
  | .subscribeResult messageID _ _ => r.handleMessage messageID false

/-- The loop over the outgoing subscriptions of a location that is lost: they are cancelled and
leave the map. -/
def loseOutgoing (r : Repository) (location : Location) : List Nat → Repository
  | [] => r
  | i :: rest =>
    match r.outgoing[i]? with
    | none => r.loseOutgoing location rest
    | some subscription =>
      if subscription.registered ∧
          locationCompare subscription.mSubscriptionInfo.mPublishedLocation (some location) = .eq then
        ((r.cancel i).modifyOutgoing i fun o => { o with registered := false }).loseOutgoing location rest
      else r.loseOutgoing location rest

/-- `onPeerSubscriptionLocationConnectionStateChanged` for a location that is no longer connected -/
def disconnect (r : Repository) (location : Location) (connection : Connection) : Repository :=
  let lost := { r with connection := Function.update r.connection location connection }.loseOutgoing location
    (List.range r.outgoing.length)
  { lost with incoming := lost.incoming.filter fun incoming =>
      locationCompare incoming.mSubscriptionInfo.mCreatorLocation (some location) ≠ .eq }

end Repository

end OpenPeer.Subscriptions
