import Mathlib.Data.List.AList

/-!
# The local sockets of an ICE socket

An ICE socket binds a UDP socket on each interface, and each local socket gets a STUN
discovery and a TURN socket of its own. Four tables lead to the local sockets: by the
local IP, and by the UDP socket, the TURN socket and the discovery. Objects are numbered
as they are allocated, and a table by pointers is gone through in any order.
-/
namespace OpenPeer

/-- An object by its number, or no object. -/
abbrev Pointer := Option Nat

namespace ICESocket

/-- The empty address has address and port zero. -/
structure IPAddress where
  address : Nat := 0
  port : Nat := 0
  deriving DecidableEq

inductive ICESocketStates where
  | pending | ready | goingToSleep | sleeping | shuttingDown | shutdown
  deriving DecidableEq

inductive TURNSocketStates where
  | pending | ready | shuttingDown | shutdown
  deriving DecidableEq

/-- Times and durations are in milliseconds; `none` is the time that is not set. -/
structure LocalSocket where
  mSocket : Pointer := none
  mSTUNDiscovery : Pointer := none
  mTURNSocket : Pointer := none
  mTURNRetryAfter : Option Nat := none
  mTURNRetryDuration : Nat := 500
  mTURNRetryTimer : Pointer := none
  mLocal : IPAddress := {}
  mReflexive : IPAddress := {}
  mRelay : IPAddress := {}

/-- An address of `getLocalIPs`, with the port a socket that is bound on it gets when it asks for none; `none` when
binding throws. -/
structure Interface where
  address : Nat
  bind : Option Nat

/-- What the ICE socket meets while it is called. -/
structure Surroundings where
  now : Nat
  localIPs : List Interface
  turnState : Nat → TURNSocketStates
  turnStateAfterShutdown : Nat → TURNSocketStates
  relayedIP : Nat → IPAddress
  isComplete : Nat → Bool
  mappedAddress : Nat → IPAddress
  /-- A map by pointers has its keys in the order of the addresses of the objects. -/
  order : List Pointer → List Pointer
  order_perm : ∀ pointers, (order pointers).Perm pointers

end ICESocket

open ICESocket

structure ICESocket where
  mCurrentState : ICESocketStates := .pending
  mLastError : Nat := 0
  mLastErrorReason : String := ""
  mBindPort : Nat
  mSocketLocalIPs : AList fun _ : IPAddress => Nat := ∅
  mSocketTURNs : AList fun _ : Pointer => Nat := ∅
  mSocketSTUNs : AList fun _ : Pointer => Nat := ∅
  mSockets : AList fun _ : Pointer => Nat := ∅
  mRebindTimer : Pointer := none
  mRebindAttemptStartTime : Nat
  mRebindCheckNow : Bool := false
  mTURNSRVUDPResult : Bool
  mTURNSRVTCPResult : Bool
  mTURNServer : String
  mTURNLastUsed : Nat
  mTURNShutdownIfNotUsedBy : Nat := 600000
  mSTUNSRVResult : Bool
  mSTUNServer : String
  /-- The local sockets by their numbers. -/
  localSockets : Nat → LocalSocket := fun _ => {}
  /-- The number of the next object. -/
  allocated : Nat := 0

namespace ICESocket

section Create

variable (turnServer stunServer : String) (srvTURNUDP srvTURNTCP srvSTUN : Bool)

/-- With the names of the servers. -/
def create (port now : Nat) : ICESocket where
  mBindPort := port
  mRebindAttemptStartTime := now
  mTURNSRVUDPResult := false
  mTURNSRVTCPResult := false
  mTURNServer := turnServer
  mTURNLastUsed := now
  mSTUNSRVResult := false
  mSTUNServer := stunServer

/-- With the results of looking the servers up. -/
def createSRV (port now : Nat) : ICESocket where
  mBindPort := port
  mRebindAttemptStartTime := now
  mTURNSRVUDPResult := srvTURNUDP
  mTURNSRVTCPResult := srvTURNTCP
  mTURNServer := ""
  mTURNLastUsed := now
  mSTUNSRVResult := srvSTUN
  mSTUNServer := ""

end Create

def isShuttingDown (s : ICESocket) : Bool := s.mCurrentState = .shuttingDown

def isShutdown (s : ICESocket) : Bool := s.mCurrentState = .shutdown

def setState (s : ICESocket) (state : ICESocketStates) : ICESocket := { s with mCurrentState := state }

def setError (s : ICESocket) (errorCode : Nat) (inReason : String) : ICESocket :=
  if s.mLastError ≠ 0 then s else { s with mLastError := errorCode, mLastErrorReason := inReason }

/-- A change of a local socket. -/
def edit (s : ICESocket) (i : Nat) (f : LocalSocket → LocalSocket) : ICESocket :=
  { s with localSockets := Function.update s.localSockets i (f (s.localSockets i)) }

def allocate (s : ICESocket) : ICESocket := { s with allocated := s.allocated + 1 }

section Clear

def clearTURN (s : ICESocket) (turn : Pointer) : ICESocket :=
  if turn = none then s else { s with mSocketTURNs := s.mSocketTURNs.erase turn }

def clearSTUN (s : ICESocket) (stun : Pointer) : ICESocket :=
  if stun = none then s else { s with mSocketSTUNs := s.mSocketSTUNs.erase stun }

/-- The local socket's TURN socket is cleared and let go of. -/
def resetTURN (s : ICESocket) (i : Nat) : ICESocket :=
  (s.clearTURN (s.localSockets i).mTURNSocket).edit i fun localSocket => { localSocket with mTURNSocket := none }

def resetSTUN (s : ICESocket) (i : Nat) : ICESocket :=
  (s.clearSTUN (s.localSockets i).mSTUNDiscovery).edit i fun localSocket => { localSocket with mSTUNDiscovery := none }

/-- The UDP socket is closed and taken out of the table of the sockets. -/
def closeSocket (s : ICESocket) (socket : Pointer) (i : Nat) : ICESocket :=
  let s := s.edit i fun localSocket => { localSocket with mSocket := none }
  { s with mSockets := s.mSockets.erase socket }

end Clear

section Cancel

variable (around : Surroundings)

/-- One local socket of `cancel`; it stays while its TURN socket is shutting down. -/
def cancelSocket (s : ICESocket) (socket : Pointer) : ICESocket :=
  match s.mSockets.lookup socket with
  | none => s
  | some i =>
    let s := s.edit i fun localSocket => { localSocket with mTURNRetryTimer := none }
    let s := s.resetSTUN i
    if (s.localSockets i).mTURNSocket.any fun turn => around.turnStateAfterShutdown turn ≠ .shutdown then s
    else
      let s := s.resetTURN i
      let s := { s with mSocketLocalIPs := s.mSocketLocalIPs.erase (s.localSockets i).mLocal }
      s.closeSocket socket i

def cancel (s : ICESocket) : ICESocket :=
  if s.isShutdown then s
  else
    let s := { s.setState .shuttingDown with mRebindTimer := none }
    let s := (around.order s.mSockets.keys).foldl (cancelSocket around) s
    if s.mSockets.keys ≠ [] then s else { s.setState .shutdown with mSTUNSRVResult := false, mSTUNServer := "" }

end Cancel

section Bind

/-- A UDP socket is open on the address. -/
def isOpen (s : ICESocket) (ip : IPAddress) : Bool :=
  s.mSockets.entries.any fun entry => (s.localSockets entry.2).mLocal = ip

/-- A new local socket with a socket that is bound. -/
def addLocalSocket (s : ICESocket) (bindIP : IPAddress) : ICESocket :=
  let i := s.allocated
  let socket := some (s.allocated + 1)
  let s := (s.allocate.allocate).edit i fun _ => { mSocket := socket, mLocal := bindIP }
  { s with mSocketLocalIPs := s.mSocketLocalIPs.insert bindIP i, mSockets := s.mSockets.insert socket i }

/-- The port of a socket that is bound: the one it asks for, or else a free one. -/
def grantedPort (port free : Nat) : Nat := if port = 0 then free else port

/-- A socket is bound, unless the address is in use. -/
def bindSocket (s : ICESocket) (bindIP : IPAddress) : ICESocket :=
  if s.isOpen bindIP then s
  else
    let s := { s with mBindPort := bindIP.port }
    if bindIP.port = 0 then s else s.addLocalSocket bindIP

/-- One address of `stepBind`; the socket asks for the port that was known before the first of them. -/
def bindLocalIP (port : Nat) (s : ICESocket) (ip : Interface) : ICESocket :=
  if (s.mSocketLocalIPs.lookup ⟨ip.address, s.mBindPort⟩).isSome then s
  else
    match ip.bind with
    | none => s
    | some free => s.bindSocket ⟨ip.address, grantedPort port free⟩

def newRebindTimer (s : ICESocket) : ICESocket :=
  if s.mRebindTimer = none then { s.allocate with mRebindTimer := some s.allocated } else s

/-- A new timer is begun when the first sockets are bound. -/
def restartRebindTimer (s : ICESocket) (hadNone : Bool) : ICESocket :=
  (if hadNone ∧ s.mSockets.keys ≠ [] then { s with mRebindTimer := none } else s).newRebindTimer

/-- Every address is tried; whether any socket is bound is looked at afterwards. -/
def bindLocalIPs (s : ICESocket) (around : Surroundings) : ICESocket :=
  around.localIPs.foldl (bindLocalIP s.mBindPort) s

/-- The addresses are looked at when no socket is bound, or it is time to. -/
def looksAround (s : ICESocket) : Bool := s.mSockets.keys = [] ∨ s.mRebindCheckNow

def checkedNow (s : ICESocket) : ICESocket := if s.mSockets.keys = [] then s else { s with mRebindCheckNow := false }

def stepBind (s : ICESocket) (around : Surroundings) : ICESocket × Bool :=
  if !s.looksAround then (s, true)
  else if around.localIPs.isEmpty then (s.checkedNow, s.mSockets.keys ≠ [])
  else
    let hadNone := s.mSockets.keys = []
    let s := (s.checkedNow.bindLocalIPs around).restartRebindTimer hadNone
    if s.mSockets.keys = [] ∧ s.mRebindAttemptStartTime + 10000 < around.now then
      ((s.setError 408 "unable to bind to local UDP port").cancel around, false)
    else (s, true)

end Bind

section Servers

variable (around : Surroundings)

/-- A discovery for each way there is to find the server, the last one is kept. -/
def createDiscovery (s : ICESocket) (i : Nat) (found : Bool) : ICESocket :=
  if found then s.allocate.edit i fun localSocket => { localSocket with mSTUNDiscovery := some s.allocated } else s

def discover (s : ICESocket) (i : Nat) : ICESocket :=
  let s := s.edit i fun localSocket => { localSocket with mReflexive := {} }
  let s := s.createDiscovery i s.mSTUNSRVResult
  let s := s.createDiscovery i (s.mSTUNServer ≠ "")
  { s with mSocketSTUNs := s.mSocketSTUNs.insert (s.localSockets i).mSTUNDiscovery i }

/-- The address that a discovery has found is taken, unless there is one. -/
def reflect (s : ICESocket) (i : Nat) : ICESocket :=
  match (s.localSockets i).mSTUNDiscovery with
  | none => s
  | some stun =>
    if around.isComplete stun ∧ (s.localSockets i).mReflexive.address = 0 then
      s.edit i fun localSocket => { localSocket with mReflexive := around.mappedAddress stun }
    else s

def stepSTUNSocket (s : ICESocket) (socket : Pointer) : ICESocket :=
  match s.mSockets.lookup socket with
  | none => s
  | some i => (if (s.localSockets i).mSTUNDiscovery = none then s.discover i else s).reflect around i

def stepSTUN (s : ICESocket) : ICESocket := (around.order s.mSockets.keys).foldl (stepSTUNSocket around) s

/-- How a local socket is left by `stepTURN`: nothing is to be waited for, something is, or creating the TURN socket
threw since there is no server. -/
inductive TURNEnding where
  | settled | waiting | thrown
  deriving DecidableEq

def sleepTURN (s : ICESocket) (i : Nat) : ICESocket × TURNEnding :=
  match (s.localSockets i).mTURNSocket with
  | none => (s, .settled)
  | some turn => if around.turnStateAfterShutdown turn = .shuttingDown then (s, .waiting) else (s.resetTURN i, .settled)

/-- The longest duration until TURN is tried again, an hour. -/
def maxRetryDuration : Nat := 3600000

/-- What the state of a TURN socket does to its local socket. -/
def checkTURN (s : ICESocket) (i turn : Nat) : ICESocket × TURNEnding :=
  match around.turnState turn with
  | .pending | .shuttingDown => (s, .waiting)
  | .ready =>
    (s.edit i fun localSocket => { localSocket with
      mTURNRetryAfter := none
      mTURNRetryDuration := 500
      mRelay := if localSocket.mRelay.address = 0 then around.relayedIP turn else localSocket.mRelay }, .settled)
  | .shutdown =>
    ((s.resetTURN i).edit i fun localSocket => { localSocket with
      mRelay := {}
      mTURNRetryAfter := some (around.now + localSocket.mTURNRetryDuration)
      mTURNRetryDuration := min (2 * localSocket.mTURNRetryDuration) maxRetryDuration }, .waiting)

/-- Another local socket with the same reflexive address has a TURN socket. -/
def foundDuplicate (s : ICESocket) (i : Nat) : Bool :=
  s.mSockets.entries.any fun entry =>
    entry.2 ≠ i ∧ (s.localSockets entry.2).mReflexive = (s.localSockets i).mReflexive ∧
      (s.localSockets entry.2).mTURNSocket ≠ none

def createTURN (s : ICESocket) (i : Nat) : ICESocket :=
  let turn := some s.allocated
  let s := s.allocate.edit i fun localSocket => { localSocket with mTURNSocket := turn }
  { s with mSocketTURNs := s.mSocketTURNs.insert turn i }

def retryTURN (s : ICESocket) (i : Nat) : ICESocket :=
  if (s.localSockets i).mTURNRetryTimer = none then
    s.allocate.edit i fun localSocket => { localSocket with mTURNRetryTimer := some s.allocated }
  else s

/-- The local socket has no TURN socket. -/
def contactTURN (s : ICESocket) (i : Nat) (ending : TURNEnding) : ICESocket × TURNEnding :=
  if (s.localSockets i).mSTUNDiscovery.any fun stun => around.mappedAddress stun = {} then (s, .waiting)
  else if s.foundDuplicate i then (s, ending)
  else
    let s := s.edit i fun localSocket => { localSocket with mRelay := {} }
    if (s.localSockets i).mTURNRetryAfter.all fun retryAfter => retryAfter < around.now then
      if s.mTURNServer = "" ∧ ¬s.mTURNSRVUDPResult ∧ ¬s.mTURNSRVTCPResult then (s, .thrown)
      else (s.createTURN i, .waiting)
    else (s.retryTURN i, .waiting)

/-- One local socket of `stepTURN` while TURN is in use. -/
def wakeTURN (s : ICESocket) (i : Nat) : ICESocket × TURNEnding :=
  match (s.localSockets i).mTURNSocket with
  | none => s.contactTURN around i .settled
  | some turn =>
    let checked := s.checkTURN around i turn
    if (checked.1.localSockets i).mTURNSocket = none then checked.1.contactTURN around i checked.2 else checked

def stepTURNSocket (shouldSleep : Bool) (s : ICESocket) (socket : Pointer) : ICESocket × TURNEnding :=
  match s.mSockets.lookup socket with
  | none => (s, .settled)
  | some i => if shouldSleep then s.sleepTURN around i else s.wakeTURN around i

/-- The local sockets one after the other, and whether all of them are settled; an exception ends the loop. -/
def stepTURNSockets (shouldSleep : Bool) : List Pointer → ICESocket → Bool → ICESocket × Option Bool
  | [], s, all => (s, some all)
  | socket :: sockets, s, all =>
    match stepTURNSocket around shouldSleep s socket with
    | (s, .thrown) => (s, none)
    | (s, .waiting) => stepTURNSockets shouldSleep sockets s false
    | (s, .settled) => stepTURNSockets shouldSleep sockets s all

/-- The result is none when it throws. -/
def stepTURN (s : ICESocket) : ICESocket × Option Bool :=
  if s.mTURNLastUsed + s.mTURNShutdownIfNotUsedBy < around.now then
    let s := { s with mTURNShutdownIfNotUsedBy := 600000 }
    match stepTURNSockets around true (around.order s.mSockets.keys) s true with
    | (s, none) => (s, none)
    | (s, some allSleeping) => (s.setState (if allSleeping then .sleeping else .goingToSleep), some false)
  else stepTURNSockets around false (around.order s.mSockets.keys) s true

/-- The end of `step`, without the candidates that are told. -/
def postCandidateCheck (s : ICESocket) : ICESocket := if s.isShuttingDown ∨ s.isShutdown then s.cancel around else s

def step (s : ICESocket) : ICESocket :=
  if s.isShuttingDown ∨ s.isShutdown then s.cancel around
  else
    let bound := s.stepBind around
    if !bound.2 then bound.1.postCandidateCheck around
    else
      match (bound.1.stepSTUN around).stepTURN around with
      | (s, none) => s
      | (s, some false) => s.postCandidateCheck around
      | (s, some true) => (s.setState .ready).postCandidateCheck around

end Servers

section Events

/-- A call of the ICE socket. -/
inductive Event where
  /-- `init`, `onTURNSocketStateChanged`, `onSTUNDiscoveryCompleted` and `onICESocketSessionClosed` -/
  | stepped
  | wakeup (minimumTimeCandidatesMustRemainValidWhileNotUsed : Nat)
  /-- Data is sent on a relay. -/
  | sendTo (viaLocalIP : IPAddress)
  /-- Data is read, which may fail. -/
  | onReadReady (socket : Pointer) (isThrown : Bool)
  | onException (socket : Pointer)
  | onTimer (timer : Nat)
  | shutdown

variable (around : Surroundings)

def wakeup (s : ICESocket) (minimumTime : Nat) : ICESocket :=
  if s.isShuttingDown ∨ s.isShutdown then s
  else step around { s with
    mTURNLastUsed := around.now
    mTURNShutdownIfNotUsedBy := max s.mTURNShutdownIfNotUsedBy minimumTime }

def sendTo (s : ICESocket) (viaLocalIP : IPAddress) : ICESocket :=
  if s.isShutdown then s
  else
    match s.mSocketLocalIPs.lookup viaLocalIP with
    | none => s
    | some i => if (s.localSockets i).mTURNSocket = none then s else { s with mTURNLastUsed := around.now }

def onReadReady (s : ICESocket) (socket : Pointer) (isThrown : Bool) : ICESocket :=
  if (s.mSockets.lookup socket).isSome ∧ isThrown then s.cancel around else s

/-- The local socket is left in the table by the local IPs. -/
def onException (s : ICESocket) (socket : Pointer) : ICESocket :=
  match s.mSockets.lookup socket with
  | none => s
  | some i =>
    let s := s.resetTURN i
    let s := s.resetSTUN i
    let s := s.closeSocket socket i
    step around { s with mRebindCheckNow := true, mRebindAttemptStartTime := around.now }

def onTimer (s : ICESocket) (timer : Nat) : ICESocket :=
  if s.mRebindTimer = some timer then step around { s with mRebindCheckNow := true }
  else
    match s.mSocketLocalIPs.entries.find? fun entry => (s.localSockets entry.2).mTURNRetryTimer = some timer with
    | none => s
    | some entry => step around (s.edit entry.2 fun localSocket => { localSocket with mTURNRetryTimer := none })

/-- The state after a call. -/
def take (s : ICESocket) (call : Event × Surroundings) : ICESocket :=
  match call.1 with
  | .stepped => s.step call.2
  | .wakeup minimumTime => s.wakeup call.2 minimumTime
  | .sendTo viaLocalIP => s.sendTo call.2 viaLocalIP
  | .onReadReady socket isThrown => s.onReadReady call.2 socket isThrown
  | .onException socket => s.onException call.2 socket
  | .onTimer timer => s.onTimer call.2 timer
  | .shutdown => s.cancel call.2

end Events

end ICESocket

end OpenPeer
