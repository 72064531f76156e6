import OpenPeer.PeerSubscriptions
import OpenPeer.Runs

/-!
# Repositories that subscribe at each other

Any number of repositories, one at each address, with a reliable stream in order between each
two that are connected. A connection is lost by each side at its own time, and a new one begins
when both have lost the old one, with nothing on its way.
-/
namespace OpenPeer.Subscriptions

/-- The repository at each address. -/
abbrev Network := Address → Repository

/-- `deliver a b` lets the repository at `b` read the next message from `a`. -/
inductive Action where
  | subscribe (a b : Address) (publicationPath : String) (relationships : SubscribeToRelationshipsMap)
  | cancel (a : Address) (i : Nat)
  | deliver (a b : Address)
  | timer (a : Address) (messageID : MessageID)
  | run (a : Address) (k : Nat)
  | disconnect (a b : Address) (forgotten : Bool)
  | connect (a b : Address)
  deriving DecidableEq

def lostConnection (forgotten : Bool) : Connection := if forgotten then .forgotten else .absent

namespace Repository

/-- The stream to the location begins anew. -/
def connect (r : Repository) (location : Location) : Repository :=
  { r with
    connection := Function.update r.connection location .connected
    queue := Function.update r.queue location [] }

/-- The first message written to the location is read there. -/
def advance (r : Repository) (location : Location) : Repository :=
  { r with queue := Function.update r.queue location (r.queue location).tail }

end Repository

namespace Network

def Connected (w : Network) (a b : Address) : Prop := (w a).connection b.location = .connected

instance (w : Network) (a b : Address) : Decidable (w.Connected a b) := inferInstanceAs (Decidable (_ = _))

/-- Both sides have the connection. -/
def Joined (w : Network) (a b : Address) : Prop := w.Connected a b ∧ w.Connected b a

instance (w : Network) (a b : Address) : Decidable (w.Joined a b) := inferInstanceAs (Decidable (_ ∧ _))

def deliver (w : Network) (a b : Address) : Network :=
  match (w a).queue b.location with
  | [] => w
  | message :: _ =>
    if w.Connected b a then
      Function.update (Function.update w a ((w a).advance b.location)) b
        ((w b).receive b a.location message)
    else w

def step (w : Network) : Action → Network
  | .subscribe a b publicationPath relationships =>
    if a = b then w else Function.update w a ((w a).subscribe a b publicationPath relationships)
  | .cancel a i => Function.update w a ((w a).cancel i)
  | .deliver a b => if a = b then w else w.deliver a b
  | .timer a messageID => Function.update w a ((w a).onTimer messageID)
  | .run a k => Function.update w a ((w a).run k)
  | .disconnect a b forgotten =>
    if a = b then w else Function.update w a ((w a).disconnect b.location (lostConnection forgotten))
  | .connect a b =>
    if a = b ∨ w.Connected a b ∨ w.Connected b a then w
    else Function.update (Function.update w a ((w a).connect b.location)) b ((w b).connect a.location)

/-- Repositories that have done nothing yet. -/
def initial : Network := fun _ => {}

end Network

end OpenPeer.Subscriptions
