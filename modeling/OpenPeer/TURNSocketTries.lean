import OpenPeer.Runs
import OpenPeer.TURNSocketServers

/-!
# Trying the TURN servers

Servers leave the list when they fail: when an allocate request is not answered or refused, or
when a TCP connection throws. The list is filled again when it is empty and no server is
active, and when that gives no server, the socket reports that it could not connect to any.
-/
namespace OpenPeer.TURNSocketServers

open Taking
open ICESocket (TURNSocketStates)

inductive TURNSocketErrors where
  | none | userRequestedShutdown | dnsLookupFailure | failedToConnectToAnyServer | refreshTimeout
  | unexpectedSocketFailure | bogusDataOnSocketReceived
  deriving DecidableEq

/-- An SRV look-up, with the result it has when it is complete. -/
structure Query where
  isComplete : Bool := false
  result : Option SRVResult

/-- A TURN socket the delegate of which lives; requesters and TCP sockets are numbered as they are created. -/
structure TURNSocket where
  mCurrentState : TURNSocketStates := .pending
  mLastError : TURNSocketErrors := .none
  mTURNUDPQuery : Query
  mTURNTCPQuery : Query
  mTURNUDPSRVResult : Option SRVResult
  mTURNTCPSRVResult : Option SRVResult
  mServers : List Server := []
  mActiveServer : Option Server := none
  mRelayedIP : ICESocket.IPAddress := {}
  created : Nat := 0
  /-- The servers that have left the list because they failed. -/
  failed : List Server := []

/-- What became of an allocate request that was answered. -/
inductive Answer where
  /-- The server asks for authorization, or for a request that allows fragments, and gets a new request. -/
  | reissued
  | refused
  /-- The integrity of the response is not valid. -/
  | unsigned
  | accepted (relayed : ICESocket.IPAddress)

/-- What the socket meets while it is called: the time, and whether connecting to a server throws. -/
structure Instant where
  now : Nat
  connects : ICESocket.IPAddress → Bool

inductive Event where
  /-- It is woken, or a timer fires. -/
  | wake (instant : Instant)
  | onLookupCompleted (isUDP : Bool) (instant : Instant)
  | onSTUNRequesterTimedOut (requester : Nat) (instant : Instant)
  | handleAllocateRequester (requester : Nat) (answer : Answer)
  | onWriteReady (socket : Nat) (instant : Instant)
  | onException (socket : Nat) (instant : Instant)
  /-- A refresh request is not answered, or refused. -/
  | refreshTimedOut
  | refreshRefused
  | bogusDataReceived
  | shutdown
  /-- The server has answered that the relayed address is given up, or did not answer. -/
  | deallocated

/-- A socket is created with two results, or looks up those it is not given. -/
def TURNSocket.create (givenUDP givenTCP : Bool) (udp tcp : Option SRVResult) : TURNSocket where
  mTURNUDPQuery := { result := udp }
  mTURNTCPQuery := { result := tcp }
  mTURNUDPSRVResult := if givenUDP then udp else none
  mTURNTCPSRVResult := if givenTCP then tcp else none

/-- A request was sent to the server, or a TCP socket was connected to it. -/
def Server.tried (server : Server) : Bool := server.mTCPSocket.isSome || server.mAllocateRequester.isSome

def Server.lacksSocket (server : Server) : Bool := !server.mIsUDP && server.mTCPSocket.isNone

/-- A TCP socket is created if it is needed. -/
def Server.opened (created : Nat) (server : Server) : Server × Nat :=
  if server.lacksSocket then ({ server with mTCPSocket := some created }, created + 1) else (server, created)

/-- An allocate request is sent when the server is connected, unless one was. -/
def Server.requested (server : Server) (created : Nat) : Server × Nat :=
  if !server.mIsUDP && !server.mIsConnected then (server, created)
  else if server.mAllocateRequester.isSome then (server, created)
  else ({ server with mAllocateRequester := some created }, created + 1)

/-- None when connecting the TCP socket throws. -/
def Server.activate (connects : ICESocket.IPAddress → Bool) (created : Nat) (server : Server) : Option (Server × Nat) :=
  if server.lacksSocket && !connects server.mServerIP then none
  else some ((server.opened created).1.requested (server.opened created).2)

/-- The servers the time of which has come are activated; the flag says that connecting threw. -/
def activate (instant : Instant) : Nat → List Server → List Server × Nat × Bool
  | created, [] => ([], created, false)
  | created, server :: servers =>
    if server.mActivateAfter > instant.now then (server :: servers, created, false)
    else
      match server.activate instant.connects created with
      | none => (server :: servers, created, true)
      | some (server, created) =>
        let rest := activate instant created servers
        (server :: rest.1, rest.2)

namespace TURNSocket

variable (s : TURNSocket)

def isShutdown : Bool := s.mCurrentState = .shutdown

/-- A relayed address is given up first. -/
def cancel : TURNSocket :=
  if s.isShutdown then s
  else
    let s : TURNSocket :=
      { s with
        mCurrentState := .shuttingDown
        mServers := []
        mTURNUDPQuery := { result := none }
        mTURNTCPQuery := { result := none }
        mTURNUDPSRVResult := none
        mTURNTCPSRVResult := none }
    if s.mRelayedIP.address ≠ 0 then s
    else { s with mCurrentState := .shutdown, mActiveServer := none, mRelayedIP := {} }

def fail (error : TURNSocketErrors) : TURNSocket := cancel { s with mLastError := error }

/-- The look-ups as `stepPrepareServers` begins with them. -/
def lookUps (isUDP : Bool) : LookUp := { srv := if isUDP then s.mTURNUDPSRVResult else s.mTURNTCPSRVResult }

def stepPrepareServers (now : Nat) : TURNSocket :=
  if s.mServers ≠ [] ∨ s.mActiveServer.isSome then s
  else
    let prepared := prepare 0 now s.lookUps
    { s with
      mServers := prepared.1
      mTURNUDPSRVResult := (prepared.2 true).srv
      mTURNTCPSRVResult := (prepared.2 false).srv }

/-- What `stepPrepareServers` returns. -/
def isPrepared : Bool := s.mServers ≠ [] || s.mActiveServer.isSome

/-- The part of `step` that activates servers. -/
def stepActivate (instant : Instant) : TURNSocket :=
  if s.mRelayedIP.address ≠ 0 then s
  else
    let activated := activate instant s.created s.mServers
    let s : TURNSocket := { s with mServers := activated.1, created := activated.2.1 }
    if activated.2.2 then s.fail .unexpectedSocketFailure else s

/-- Until a look-up is complete there is nothing to do. -/
def step (instant : Instant) : TURNSocket :=
  if s.isShutdown || s.mCurrentState = .shuttingDown then s.cancel
  else if s.mTURNUDPSRVResult.isNone && !s.mTURNUDPQuery.isComplete then s
  else
    let s : TURNSocket := { s with mTURNUDPSRVResult := s.mTURNUDPSRVResult.or s.mTURNUDPQuery.result }
    if s.mTURNTCPSRVResult.isNone && !s.mTURNTCPQuery.isComplete then s
    else
      let s : TURNSocket := { s with mTURNTCPSRVResult := s.mTURNTCPSRVResult.or s.mTURNTCPQuery.result }
      if s.mTURNUDPSRVResult.isNone && s.mTURNTCPSRVResult.isNone then s.fail .dnsLookupFailure
      else
        let s := s.stepPrepareServers instant.now
        if !s.isPrepared then s.fail .failedToConnectToAnyServer else s.stepActivate instant

/-- A server that failed leaves the list. -/
def erase (server : Server) : TURNSocket :=
  { s with mServers := s.mServers.erase server, failed := s.failed ++ [server] }

/-- A server on the list is changed. -/
def change (server changed : Server) : TURNSocket :=
  { s with mServers := s.mServers.map fun other => if other = server then changed else other }

def withRequester (requester : Nat) : Option Server :=
  s.mServers.find? fun server => server.mAllocateRequester = some requester

def withSocket (socket : Nat) : Option Server := s.mServers.find? fun server => server.mTCPSocket = some socket

def onSTUNRequesterTimedOut (requester : Nat) (instant : Instant) : TURNSocket :=
  if s.isShutdown then s
  else
    match s.withRequester requester with
    | none => s
    | some server => (s.erase server).step instant

def handleAllocateRequester (requester : Nat) (answer : Answer) : TURNSocket :=
  match s.withRequester requester with
  | none => s
  | some server =>
    match answer with
    | .reissued =>
      { s.change server { server with mAllocateRequester := some s.created } with created := s.created + 1 }
    | .refused => s.erase server
    | .unsigned => s.change server { server with mAllocateRequester := none }
    | .accepted relayed =>
      { s with mCurrentState := .ready, mActiveServer := some server, mServers := [], mRelayedIP := relayed }

def onWriteReady (socket : Nat) (instant : Instant) : TURNSocket :=
  if s.isShutdown || s.mActiveServer.isSome then s
  else
    match s.withSocket socket with
    | none => s
    | some server =>
      if server.mIsConnected then s else (s.change server { server with mIsConnected := true }).step instant

def onException (socket : Nat) (instant : Instant) : TURNSocket :=
  if s.isShutdown then s
  else
    match s.mActiveServer with
    | some server => if server.mTCPSocket = some socket then s.fail .unexpectedSocketFailure else s
    | none =>
      match s.withSocket socket with
      | none => s
      | some server => (s.erase server).step instant

def take : Event → TURNSocket
  | .wake instant => s.step instant
  | .onLookupCompleted isUDP instant =>
    if isUDP then step { s with mTURNUDPQuery := { s.mTURNUDPQuery with isComplete := true } } instant
    else step { s with mTURNTCPQuery := { s.mTURNTCPQuery with isComplete := true } } instant
  | .onSTUNRequesterTimedOut requester instant => s.onSTUNRequesterTimedOut requester instant
  | .handleAllocateRequester requester answer => s.handleAllocateRequester requester answer
  | .onWriteReady socket instant => s.onWriteReady socket instant
  | .onException socket instant => s.onException socket instant
  | .refreshTimedOut => if s.isShutdown then s else s.fail .refreshTimeout
  | .refreshRefused => s.cancel
  | .bogusDataReceived => if s.isShutdown then s else s.fail .bogusDataOnSocketReceived
  | .shutdown => s.fail .userRequestedShutdown
  | .deallocated => if s.mCurrentState = .shuttingDown then cancel { s with mRelayedIP := {} } else s

end TURNSocket

/-- The addresses of a look-up that a server can be tried at. -/
def validAddresses (srv : Option SRVResult) : List ICESocket.IPAddress := (addresses (srv.getD [])).filter isValid

/-- How many different ones there are. -/
def distinct (srv : Option SRVResult) : Nat := (validAddresses srv).dedup.length

/-- The result of one of the two look-ups. -/
def resultOf (udp tcp : Option SRVResult) (isUDP : Bool) : Option SRVResult := if isUDP then udp else tcp

/-- Each valid address of each look-up is put into the list once for its transport. -/
def PreparesAll (udp tcp : Option SRVResult) : Prop :=
  ∀ (s : TURNSocket) (now : Nat), s.mTURNUDPSRVResult = udp → s.mTURNTCPSRVResult = tcp → s.mServers = [] →
    s.mActiveServer = none → ∀ isUDP, ∀ ip ∈ validAddresses (resultOf udp tcp isUDP),
      ((s.stepPrepareServers now).mServers.map Server.entry).count (isUDP, ip) = 1

/-- When the socket reports that it could not connect to any server, it has tried all of them, and they failed. -/
def TriedAll (udp tcp : Option SRVResult) (s : TURNSocket) : Prop :=
  s.mLastError = .failedToConnectToAnyServer →
    s.mServers = [] ∧ ∀ isUDP, ∀ ip ∈ validAddresses (resultOf udp tcp isUDP),
      ∃ server ∈ s.failed, server.entry = (isUDP, ip) ∧ server.tried = true

section Preparing

variable {s : TURNSocket} {udp tcp : Option SRVResult}

theorem lookUps_fresh (isUDP : Bool) (h : s.mTURNUDPSRVResult = udp) (h' : s.mTURNTCPSRVResult = tcp) :
    (s.lookUps isUDP).fresh = firsts isValid [] (addresses ((resultOf udp tcp isUDP).getD [])) := by
  subst h h'
  rfl

theorem mem_validAddresses {srv : Option SRVResult} {ip : ICESocket.IPAddress} :
    ip ∈ validAddresses srv ↔ ip ∈ firsts isValid [] (addresses (srv.getD [])) := by
  simp [validAddresses, mem_firsts]

theorem length_firsts_distinct (srv : Option SRVResult) :
    (firsts isValid [] (addresses (srv.getD []))).length = distinct srv := length_firsts isValid _

theorem stepPrepareServers_parts (hudp : s.mTURNUDPSRVResult = udp) (htcp : s.mTURNTCPSRVResult = tcp)
    (hservers : s.mServers = []) (hactive : s.mActiveServer = none) (now : Nat) :
    part true ((s.stepPrepareServers now).mServers.map Server.entry) =
        (firsts isValid [] (addresses (udp.getD []))).take (distinct tcp + 2) ∧
      part false ((s.stepPrepareServers now).mServers.map Server.entry) =
        (firsts isValid [] (addresses (tcp.getD []))).take (distinct udp - 1) := by
  have hparts := prepare_parts now s.lookUps
  rw [lookUps_fresh true hudp htcp, lookUps_fresh false hudp htcp] at hparts
  rw [← length_firsts_distinct tcp, ← length_firsts_distinct udp]
  simpa [TURNSocket.stepPrepareServers, hservers, hactive, resultOf] using hparts

theorem preparesAll_iff (udp tcp : Option SRVResult) :
    PreparesAll udp tcp ↔ distinct udp ≤ distinct tcp + 2 ∧ distinct tcp ≤ distinct udp - 1 := by
  have hcount : ∀ srv : Option SRVResult, ∀ n, (∀ ip ∈ validAddresses srv,
      ((firsts isValid [] (addresses (srv.getD []))).take n).count ip = 1) ↔ distinct srv ≤ n := by
    intro srv n
    rw [← length_firsts_distinct, ← count_take_iff (nodup_firsts isValid [] _)]
    simp only [mem_validAddresses]
  constructor
  · intro hall
    let s : TURNSocket := TURNSocket.create true true udp tcp
    obtain ⟨hudp, htcp⟩ := stepPrepareServers_parts (s := s) rfl rfl rfl rfl 0
    have hone := hall s 0 rfl rfl rfl rfl
    simp only [count_part] at hone
    constructor
    · apply (hcount udp _).mp
      intro ip hip
      have hone := hone true ip hip
      rwa [hudp] at hone
    · apply (hcount tcp _).mp
      intro ip hip
      have hone := hone false ip hip
      rwa [htcp] at hone
  · rintro ⟨hudp, htcp⟩ s now rfl rfl hservers hactive isUDP
    obtain ⟨hparts, hparts'⟩ := stepPrepareServers_parts rfl rfl hservers hactive now
    simp only [count_part]
    cases isUDP with
    | true =>
      rw [hparts]
      exact (hcount _ _).mpr hudp
    | false =>
      rw [hparts']
      exact (hcount _ _).mpr htcp

end Preparing

end OpenPeer.TURNSocketServers
