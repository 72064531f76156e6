import OpenPeer.SubscriptionNetwork

/-!
# One subscriber and one publisher

What the network holds of the subscriptions that one repository places at one other: the
subscriptions, the requests and the results on their way, and what the publisher grants. A
repository replaces what it grants for a path by each request for that path. The steps are
those under which the two sides agree.
-/
namespace OpenPeer.Subscriptions

/-- The relationships and names of requests arrive, and they ask for something. -/
def Carried (relationships : SubscribeToRelationshipsMap) : Prop :=
  Nameable relationships ∧ relationships.isEmpty = false

instance (relationships : SubscribeToRelationshipsMap) : Decidable (Carried relationships) :=
  inferInstanceAs (Decidable (_ ∧ _))

theorem Carried.transmitted {relationships : SubscribeToRelationshipsMap} (h : Carried relationships) :
    transmitted relationships = relationships := transmitted_eq h.1

namespace PeerSubscriptionOutgoing

def path (o : PeerSubscriptionOutgoing) : String := o.mSubscriptionInfo.mName

def relationships (o : PeerSubscriptionOutgoing) : SubscribeToRelationshipsMap :=
  o.mSubscriptionInfo.mPublishedRelationships

def PlacedAt (location : Location) (o : PeerSubscriptionOutgoing) : Prop :=
  o.mSubscriptionInfo.mPublishedLocation = some location

instance (location : Location) (o : PeerSubscriptionOutgoing) : Decidable (PlacedAt location o) :=
  inferInstanceAs (Decidable (_ = _))

def SamePath (o o' : PeerSubscriptionOutgoing) : Prop :=
  o.mSubscriptionInfo.mPublishedLocation = o'.mSubscriptionInfo.mPublishedLocation ∧ o.path = o'.path

instance (o o' : PeerSubscriptionOutgoing) : Decidable (SamePath o o') := inferInstanceAs (Decidable (_ ∧ _))

/-- Nothing has cancelled the subscription. -/
def Live (o : PeerSubscriptionOutgoing) : Prop := o.mCancelMonitor = none

instance (o : PeerSubscriptionOutgoing) : Decidable (Live o) := inferInstanceAs (Decidable (_ = _))

/-- `after` is the same subscription at a later time, no less cancelled. -/
structure Ages (before after : PeerSubscriptionOutgoing) : Prop where
  info : after.mSubscriptionInfo = before.mSubscriptionInfo
  monitor : ∀ m, after.mMonitor = some m → before.mMonitor = some m
  live : after.Live → before.Live
  registered : after.registered = true → before.registered = true

theorem Ages.refl (o : PeerSubscriptionOutgoing) : Ages o o := ⟨rfl, fun _ h => h, id, id⟩

theorem Ages.trans {a b c : PeerSubscriptionOutgoing} (hab : Ages a b) (hbc : Ages b c) : Ages a c :=
  ⟨hbc.info.trans hab.info, fun m h => hab.monitor m (hbc.monitor m h), fun h => hab.live (hbc.live h),
    fun h => hab.registered (hbc.registered h)⟩

variable {before after : PeerSubscriptionOutgoing}

theorem Ages.path (h : Ages before after) : after.path = before.path := by
  rw [PeerSubscriptionOutgoing.path, h.info, PeerSubscriptionOutgoing.path]

theorem Ages.relationships (h : Ages before after) : after.relationships = before.relationships := by
  rw [PeerSubscriptionOutgoing.relationships, h.info, PeerSubscriptionOutgoing.relationships]

theorem Ages.placedAt (h : Ages before after) (location : Location) :
    after.PlacedAt location ↔ before.PlacedAt location := by
  rw [PlacedAt, h.info, PlacedAt]

end PeerSubscriptionOutgoing

open PeerSubscriptionOutgoing

/-- A request on its way: its message, its path and the relationships that will be read. -/
structure Asked where
  messageID : MessageID
  path : String
  relationships : SubscribeToRelationshipsMap
  deriving DecidableEq

/-- What the publisher grants the subscriber for a path. -/
structure Grant where
  path : String
  relationships : SubscribeToRelationshipsMap
  deriving DecidableEq

/-- `successes` are the results that wait to be handled, with the subscriptions that they are for. -/
structure Link where
  outgoing : List PeerSubscriptionOutgoing
  nextMessageID : MessageID
  successes : List (MessageID × Nat)
  requests : List Asked
  results : List MessageID
  granted : List Grant
  processed : List (String × MessageID)
  here : Bool
  there : Bool

/-- What one more request leaves of the grants. -/
def placeGrant (granted : List Grant) (asked : Asked) : List Grant :=
  let others := granted.eraseP (·.path = asked.path)
  if asked.relationships.isEmpty then others else others ++ [⟨asked.path, asked.relationships⟩]

namespace Link

def Joined (l : Link) : Prop := l.here = true ∧ l.there = true

def grantedFor (l : Link) (path : String) : List Grant := l.granted.filter (·.path = path)

/-- The relationships granted for a path, and then those on their way, in order. -/
def inOrder (granted : List Grant) (requests : List Asked) (path : String) : List SubscribeToRelationshipsMap :=
  (granted.filter (·.path = path)).map (·.relationships) ++
    (requests.filter (·.path = path)).map (·.relationships)

def askedFor (l : Link) (path : String) : List SubscribeToRelationshipsMap :=
  inOrder l.granted l.requests path

/-- The publisher serves the path, and goes on serving it whatever is on its way. -/
def Backed (l : Link) (path : String) : Prop :=
  l.grantedFor path ≠ [] ∧ ∀ asked ∈ l.askedFor path, asked.isEmpty = false

/-- The relationships of the latest subscription to a path. -/
def latest (outgoing : List PeerSubscriptionOutgoing) (location : Location) (path : String) :
    Option SubscribeToRelationshipsMap :=
  (((outgoing.map (·.mSubscriptionInfo)).filter fun info =>
    info.mPublishedLocation = some location ∧ info.mName = path).getLast?).map (·.mPublishedRelationships)

/-- The request that the publisher processed last for a path. -/
def lastProcessed (l : Link) (path : String) : Option MessageID :=
  ((l.processed.filter (·.1 = path)).getLast?).map (·.2)

/-- What a subscription writes to the publisher's stream when it asks. -/
def asking (l : Link) (publisher : Location) (info : PublicationMetaData) : List Asked :=
  if info.mPublishedLocation = some publisher ∧ l.here then
    [⟨l.nextMessageID, info.mName, transmitted info.mPublishedRelationships⟩]
  else []

/-- What becomes of a subscription when a location is lost. -/
structure Lost (location : Location) (first last : MessageID) (o o' : PeerSubscriptionOutgoing) : Prop where
  ages : o.Ages o'
  cancelled : o.PlacedAt location → o.registered = true → o.mCurrentState ≠ .shutdown → ¬o'.Live
  other : o' = o ∨ o.PlacedAt location ∧ o'.mCurrentState ≠ .established
  cancelMonitor : ∀ m, o'.mCancelMonitor = some m → o.mCancelMonitor = some m ∨ first ≤ m ∧ m < last

/-- The steps. A subscription with another one to its path is placed only with relationships that
arrive, one that asks for something or has company is not cancelled over the connection, and one is
established only with relationships that arrive and while nothing has cancelled it. -/
inductive Step (publisher : Location) (l : Link) : Link → Prop
  | bookkeep (nextMessageID : MessageID) (successes : List (MessageID × Nat))
      (hnext : l.nextMessageID ≤ nextMessageID) (hsuccesses : successes ⊆ l.successes) :
      Step publisher l { l with nextMessageID, successes }
  | place (info : PublicationMetaData)
      (hcarried : (∃ o ∈ l.outgoing, o.registered = true ∧
        o.mSubscriptionInfo.mPublishedLocation = info.mPublishedLocation ∧ o.path = info.mName) →
        Carried info.mPublishedRelationships) :
      Step publisher l { l with
        outgoing := l.outgoing ++ [{ mSubscriptionInfo := info, mMonitor := some l.nextMessageID }]
        nextMessageID := l.nextMessageID + 1
        requests := l.requests ++ l.asking publisher info }
  | cancel (i : Nat) (o : PeerSubscriptionOutgoing) (ho : l.outgoing[i]? = some o) (hlive : o.Live)
      (hempty : l.here = true → o.PlacedAt publisher → (transmitted o.relationships).isEmpty = true ∧
        ∀ j o', l.outgoing[j]? = some o' → j ≠ i → o'.registered = true → ¬o'.SamePath o) :
      Step publisher l { l with
        outgoing := l.outgoing.set i
          { o with mCurrentState := .shuttingDown, mCancelMonitor := some l.nextMessageID }
        nextMessageID := l.nextMessageID + 1
        requests := l.requests ++ l.asking publisher o.mSubscriptionInfo }
  | settle (i : Nat) (o o' : PeerSubscriptionOutgoing) (ho : l.outgoing[i]? = some o) (hlive : ¬o.Live)
      (hages : o.Ages o') (hcancel : o'.mCancelMonitor = o.mCancelMonitor)
      (hstate : o'.mCurrentState ≠ .established) :
      Step publisher l { l with outgoing := l.outgoing.set i o' }
  | establish (i : Nat) (o : PeerSubscriptionOutgoing) (m : MessageID) (ho : l.outgoing[i]? = some o)
      (hsuccess : (m, i) ∈ l.successes) (hmonitor : o.mMonitor = some m) (hlive : o.Live)
      (hcarried : Carried o.relationships) :
      Step publisher l { l with
        outgoing := l.outgoing.set i { o with mCurrentState := .established, mMonitor := none } }
  | lose (location : Location) (outgoing : List PeerSubscriptionOutgoing) (nextMessageID : MessageID)
      (hnext : l.nextMessageID ≤ nextMessageID)
      (hinfos : outgoing.map (·.mSubscriptionInfo) = l.outgoing.map (·.mSubscriptionInfo))
      (hages : ∀ (i : Nat) o', outgoing[i]? = some o' → ∃ o, l.outgoing[i]? = some o ∧
        Lost location l.nextMessageID nextMessageID o o') :
      Step publisher l { l with outgoing, nextMessageID, here := l.here && location ≠ publisher }
  | serve (asked : Asked) (rest : List Asked) (hthere : l.there = true) (hrequests : l.requests = asked :: rest) :
      Step publisher l { l with
        requests := rest
        results := l.results ++ [asked.messageID]
        granted := placeGrant l.granted asked
        processed := l.processed ++ [(asked.path, asked.messageID)] }
  | receive (m : MessageID) (rest : List MessageID) (successes : List (MessageID × Nat))
      (hhere : l.here = true) (hresults : l.results = m :: rest)
      (hsuccesses : ∀ e ∈ successes, e ∈ l.successes ∨ e.1 = m) :
      Step publisher l { l with results := rest, successes }
  | stray (m : MessageID) (successes : List (MessageID × Nat)) (hm : m < l.nextMessageID)
      (hother : ∀ o ∈ l.outgoing, o.mMonitor = some m → ¬o.PlacedAt publisher)
      (hsuccesses : ∀ e ∈ successes, e ∈ l.successes ∨ e.1 = m) :
      Step publisher l { l with successes }
  | part : Step publisher l { l with granted := [], there := false }
  | join (hhere : l.here = false) (hthere : l.there = false) :
      Step publisher l { l with requests := [], results := [], here := true, there := true }

end Link

end OpenPeer.Subscriptions
