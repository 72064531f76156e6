import OpenPeer.ICESocketSessionActs
import OpenPeer.ICESocketSessionPairs
import OpenPeer.Runs

/-!
# Two ICE sessions and the network between them

Everything one session has handed to its socket can arrive at the other one at any time,
any number of times or never, from any source and over any local address. The two sessions
know each other's username fragment and password. An integrity is checked by who could
have made it.
-/
namespace OpenPeer

open Runs ICESocketSession

/-- `isValidMessageIntegrity`: the packet was signed with the password. -/
def signedWith (stun : STUNPacket) (password : List UInt8) : Bool :=
  stun.mCredentialMechanism == .shortTerm && stun.mPassword == password

/-- The two parts of the username of an ICE packet. -/
def splitUsername (username : List UInt8) : Option (List UInt8 × List UInt8) :=
  if 58 ∈ username then some (username.takeWhile (· != 58), (username.dropWhile (· != 58)).tail) else none

/-- What happens to a session. `receive` gives it a packet that the other side has sent, and
`sendPacket` and `timedOut` are for the requesters it made, by their number. -/
inductive SessionAction where
  | receive (n : Nat) (viaLocalIP : IPAddress) (relayed : Bool) (source : IPAddress)
  | sendPacket (n : Nat)
  | timedOut (n : Nat)
  | timer (timer : SessionTimer)
  | wake
  | close
  | updateRemoteCandidates (remoteCandidates : List Candidate)
  | endOfRemoteCandidates
  | candidatesChanged
  | setKeepAliveProperties (sendKeepAliveIndications expectSTUNOrDataWithin keepAliveSTUNRequestTimeout
      backgroundingTimeout : Nat)
  | data (viaLocalIP : IPAddress) (relayed : Bool) (source : IPAddress)
  deriving DecidableEq

namespace ICESocketSession

variable (ext : ICEExternals)

/-- The part of `internalReceivedData` for the packets of a session: responses go to the requesters,
requests and indications to the session of their username. -/
def receiveSTUN (s : ICESocketSession) (env : Env) (viaLocalIP : IPAddress) (viaTransport : Types)
    (source : IPAddress) (stun : STUNPacket) : ICESocketSession :=
  if stun.mClass = .request ∨ stun.mClass = .indication then
    match splitUsername stun.mUsername with
    | none => s
    | some (localUsernameFrag, remoteUsernameFrag) =>
      (s.handleSTUNPacket ext signedWith env viaLocalIP viaTransport source stun localUsernameFrag
        remoteUsernameFrag).1
  else s.receiveResponse ext signedWith env stun

def transport (relayed : Bool) : Types := if relayed then .typeRelayed else .typeLocal

def act (s : ICESocketSession) (env : Env) (inbox : List SentPacket) : SessionAction → ICESocketSession
  | .receive n viaLocalIP relayed source =>
    match inbox[n]? with
    | none => s
    | some sent => s.receiveSTUN ext env viaLocalIP (transport relayed) source sent.packet
  | .sendPacket n =>
    match s.created[n]? with
    | none => s
    | some made => s.onSTUNRequesterSendPacket ext made.2
  | .timedOut n =>
    match s.created[n]? with
    | none => s
    | some made => s.onSTUNRequesterTimedOut ext env made.2
  | .timer timer => s.onTimer ext env timer
  | .wake => s.step ext env
  | .close => s.cancel
  | .updateRemoteCandidates remoteCandidates => s.updateRemoteCandidates ext env remoteCandidates
  | .endOfRemoteCandidates => s.endOfRemoteCandidates ext env
  | .candidatesChanged => s.onICESocketCandidatesChanged ext env
  | .setKeepAliveProperties sendKeepAlive expectData requestTimeout backgrounding =>
    s.setKeepAliveProperties sendKeepAlive expectData requestTimeout backgrounding
  | .data viaLocalIP relayed source => (s.handlePacket ext env viaLocalIP (transport relayed) source).1

section Acting

variable {ext} {s : ICESocketSession} {env : Env} {overdue : Bool}

theorem receiveSTUN_acts (hfresh : Fresh env s.party) (hpassword : s.party.password ≠ []) (viaLocalIP : IPAddress)
    (viaTransport : Types) (source : IPAddress) (stun : STUNPacket) :
    Acts ⟨some stun, env.transactionID, overdue⟩ s.party
      (s.receiveSTUN ext env viaLocalIP viaTransport source stun).party := by
  unfold receiveSTUN
  split
  next hclass =>
    split
    · exact .refl
    · exact handleSTUNPacket_acts hfresh hclass viaLocalIP viaTransport source _ _
  · exact receiveResponse_acts hfresh hpassword stun

/-- The action is the arrival of a packet that was sent. -/
def Delivers (action : SessionAction) (inbox : List SentPacket) (packet : STUNPacket) : Prop :=
  ∃ n viaLocalIP relayed source, action = .receive n viaLocalIP relayed source ∧
    inbox[n]?.map (·.packet) = some packet

theorem Delivers.mem {action : SessionAction} {inbox : List SentPacket} {packet : STUNPacket}
    (h : Delivers action inbox packet) : packet ∈ inbox.map (·.packet) := by
  obtain ⟨n, _, _, _, _, hn⟩ := h
  rw [← List.getElem?_map] at hn
  exact List.mem_of_getElem? hn

/-- Whatever happens to a session is a few acts of its party, and what it draws on has been sent to it. -/
theorem act_acts (hfresh : Fresh env s.party) (hpassword : s.party.password ≠ []) (inbox : List SentPacket)
    (action : SessionAction)
    (hoverdue : action = .timer .expectingData → s.makesAliveCheck env = true → s.mControl = .controlled →
      overdue = true) :
    ∃ got, (∀ packet, got = some packet → Delivers action inbox packet) ∧
      Acts ⟨got, env.transactionID, overdue⟩ s.party (s.act ext env inbox action).party := by
  cases action with
  | receive n viaLocalIP relayed source =>
    unfold act
    dsimp only
    split
    · exact ⟨none, fun _ h => (nomatch h), .refl⟩
    next sent hsent =>
      refine ⟨some sent.packet, fun packet h => ⟨n, viaLocalIP, relayed, source, rfl, ?_⟩,
        receiveSTUN_acts hfresh hpassword _ _ _ _⟩
      rw [hsent, ← h]
      rfl
  | sendPacket n =>
    refine ⟨none, fun _ h => (nomatch h), ?_⟩
    unfold act
    dsimp only
    split
    · exact .refl
    next made hmade => exact onSTUNRequesterSendPacket_acts (List.mem_of_getElem? hmade)
  | timedOut n =>
    refine ⟨none, fun _ h => (nomatch h), ?_⟩
    unfold act
    dsimp only
    split
    · exact .refl
    next made _ => exact onSTUNRequesterTimedOut_acts hfresh hpassword made.2
  | timer timer =>
    exact ⟨none, fun _ h => (nomatch h),
      onTimer_acts hfresh hpassword timer fun htimer => hoverdue (congrArg SessionAction.timer htimer)⟩
  | wake => exact ⟨none, fun _ h => (nomatch h), step_acts hfresh hpassword⟩
  | close => exact ⟨none, fun _ h => (nomatch h), cancel_quiet.acts⟩
  | updateRemoteCandidates remoteCandidates =>
    exact ⟨none, fun _ h => (nomatch h), step_acts_of_party rfl hfresh hpassword⟩
  | endOfRemoteCandidates => exact ⟨none, fun _ h => (nomatch h), step_acts_of_party rfl hfresh hpassword⟩
  | candidatesChanged => exact ⟨none, fun _ h => (nomatch h), onICESocketCandidatesChanged_acts hfresh hpassword⟩
  | setKeepAliveProperties a b c d => exact ⟨none, fun _ h => (nomatch h), (setKeepAliveProperties_quiet a b c d).acts⟩
  | data viaLocalIP relayed source => exact ⟨none, fun _ h => (nomatch h), (handlePacket_quiet _ _ _).acts⟩

end Acting

end ICESocketSession

/-- Which of the two. -/
inductive Agent where
  | first | second
  deriving DecidableEq, Repr

def Agent.other : Agent → Agent
  | .first => .second
  | .second => .first

@[simp] theorem Agent.other_other (x : Agent) : x.other.other = x := by cases x <;> rfl

/-- How a session starts: what its socket made up, its role and its tie breaker. -/
structure AgentStart where
  usernameFrag : List UInt8
  password : List UInt8
  control : ICEControls
  resolver : UInt64

structure SessionPair where
  first : ICESocketSession
  second : ICESocketSession

structure SessionEvent where
  agent : Agent
  env : Env
  action : SessionAction

namespace SessionPair

variable (ext : ICEExternals)

def session (w : SessionPair) : Agent → ICESocketSession
  | .first => w.first
  | .second => w.second

def set (w : SessionPair) (s : ICESocketSession) : Agent → SessionPair
  | .first => { w with first := s }
  | .second => { w with second := s }

@[simp] theorem session_set (w : SessionPair) (s : ICESocketSession) (x : Agent) : (w.set s x).session x = s := by
  cases x <;> rfl

@[simp] theorem session_set_other (w : SessionPair) (s : ICESocketSession) (x : Agent) :
    (w.set s x).session x.other = w.session x.other := by cases x <;> rfl

/-- A session as it is constructed. -/
def create (a b : AgentStart) : ICESocketSession :=
  { mLocalUsernameFrag := a.usernameFrag, mLocalPassword := a.password
    mRemoteUsernameFrag := b.usernameFrag, mRemotePassword := b.password
    mControl := a.control, mConflictResolver := a.resolver }

def start (a b : AgentStart) : SessionPair := ⟨create a b, create b a⟩

/-- The random number was never drawn before. -/
def unused (w : SessionPair) (transactionID : Vector UInt8 12) : Bool :=
  (w.first.created ++ w.second.created).all fun made => made.2.id != transactionID

def step (w : SessionPair) (e : SessionEvent) : SessionPair :=
  if w.unused e.env.transactionID then
    w.set ((w.session e.agent).act ext e.env (w.session e.agent.other).sent e.action) e.agent
  else w

/-- No alive check is made by a session in the controlled role. -/
def NoAliveCheckControlled (w : SessionPair) (e : SessionEvent) : Prop :=
  e.action = .timer .expectingData → (w.session e.agent).makesAliveCheck e.env = true →
    (w.session e.agent).mControl ≠ .controlled

instance (w : SessionPair) (e : SessionEvent) : Decidable (w.NoAliveCheckControlled e) :=
  inferInstanceAs (Decidable (_ → _ → _))

def Opposite (w : SessionPair) : Prop := w.first.mControl ≠ w.second.mControl

instance (w : SessionPair) : Decidable w.Opposite := inferInstanceAs (Decidable (_ ≠ _))

variable {ext} {w : SessionPair} {e : SessionEvent}

theorem fresh_of_unused {transactionID : Vector UInt8 12} (h : w.unused transactionID = true) (x : Agent)
    (c : ICEControls × STUNRequester) (hc : c ∈ (w.session x).created) : c.2.id ≠ transactionID := by
  have hmem : c ∈ w.first.created ++ w.second.created := by
    cases x with
    | first => exact List.mem_append_left _ hc
    | second => exact List.mem_append_right _ hc
  exact bne_iff_ne.mp (List.all_eq_true.mp h c hmem)

theorem step_cases (ext : ICEExternals) (overdue : Bool) (hpassword : (w.session e.agent).party.password ≠ [])
    (hoverdue : e.action = .timer .expectingData → (w.session e.agent).makesAliveCheck e.env = true →
      (w.session e.agent).mControl = .controlled → overdue = true) :
    w.step ext e = w ∨
      ((w.step ext e).session e.agent =
          (w.session e.agent).act ext e.env (w.session e.agent.other).sent e.action ∧
        (w.step ext e).session e.agent.other = w.session e.agent.other ∧
        (∀ x, ∀ c ∈ (w.session x).created, c.2.id ≠ e.env.transactionID) ∧
        ∃ got, (∀ packet, got = some packet → Delivers e.action (w.session e.agent.other).sent packet) ∧
          Acts ⟨got, e.env.transactionID, overdue⟩ (w.session e.agent).party ((w.step ext e).session e.agent).party) := by
  unfold step
  split
  next hunused =>
    have hfresh := fresh_of_unused hunused
    refine .inr ⟨session_set _ _ _, session_set_other _ _ _, hfresh, ?_⟩
    rw [session_set]
    exact act_acts (hfresh e.agent) hpassword _ _ hoverdue
  · exact .inl rfl

end SessionPair

end OpenPeer
