import OpenPeer.Runs
import OpenPeer.TURNSocketServers

/-!
# A TURN socket and its requests

A TURN socket asks a server for a relayed address, and then keeps it alive, installs
permissions for the peers data is sent to, and binds channels to them. Each of these is a
request that may be rejected until it carries the right nonce. A packet for a peer waits
until the permission is installed, unless a channel is bound to the peer.

Requesters and channels are objects, numbered as they are created, and times are in
milliseconds. The delegate of the socket lives. Which servers are tried, and what becomes of
packets that a TCP connection has no room for, is not described here.
-/
namespace OpenPeer.TURNSocketRelay

open ICESocket (TURNSocketStates)
open TURNSocketServers (Server)

/-- Removed is what has seen no data in ten minutes. -/
def removeIfNoData : Nat := 10 * 60 * 1000

def unauthorized : Nat := 401

def unknownAttribute : Nat := 420

def staleNonce : Nat := 438

def insufficientCapacity : Nat := 508

inductive Method where
  | allocate | refresh | createPermission | channelBind
  deriving DecidableEq

/-- The request of a requester. -/
structure Request where
  mMethod : Method
  mTotalRetries : Nat := 0
  mUsername : String := ""
  mPassword : String := ""
  mRealm : String := ""
  mNonce : String := ""
  /-- The credential mechanism is the long term one. -/
  longTerm : Bool := false
  mLifetime : Option Nat := none
  mDontFragmentIncluded : Bool := false
  mChannelNumber : Nat := 0
  mPeerAddressList : List ICESocket.IPAddress := []
  deriving DecidableEq

structure Response where
  /-- The class is that of an error response. -/
  isErrorResponse : Bool := false
  mErrorCode : Nat := 0
  mRealm : String := ""
  mNonce : String := ""
  /-- The attribute not to fragment is among the unknown ones. -/
  unknownDontFragment : Bool := false
  /-- What `isValidMessageIntegrity` returns. -/
  isValidMessageIntegrity : Bool := false
  mLifetime : Option Nat := none
  mRelayedAddress : ICESocket.IPAddress := {}

def Response.isError (response : Response) : Bool := response.mErrorCode ≠ 0 || response.isErrorResponse

/-- Data for a peer, by the number of the call of `sendPacket`. -/
structure Packet where
  peer : ICESocket.IPAddress
  number : Nat
  deriving DecidableEq

structure Permission where
  mInstalled : Bool := false
  mPeerAddress : ICESocket.IPAddress
  mLastSentDataAt : Nat
  mInstallingWithRequester : Pointer := none
  mPendingData : List Packet := []

structure ChannelInfo where
  mBound : Bool := false
  mChannelNumber : Nat := 0
  mPeerAddress : ICESocket.IPAddress := {}
  mLastSentDataAt : Nat := 0
  /-- The timer is set. -/
  mRefreshTimer : Bool := false
  mChannelBindRequester : Pointer := none

/-- A packet that was given to the active server, and whether a permission for its peer had been installed by then. -/
structure Sending where
  packet : Packet
  permitted : Bool

structure TURNSocket where
  mCurrentState : TURNSocketStates := .pending
  mLimitChannelToRangeStart : Nat
  mLimitChannelToRangeEnd : Nat
  mUseChannelBinding : Bool
  mUsername : String
  mPassword : String
  mRealm : String := ""
  mNonce : String := ""
  mServers : List Server := []
  mActiveServer : Option Server := none
  mRelayedIP : ICESocket.IPAddress := {}
  mLifetime : Nat := 0
  mRefreshRequester : Pointer := none
  mPermissionRequester : Pointer := none
  /-- Reset when the requester is complete. -/
  mDeallocateRequester : Pointer := none
  mPermissionRequesterMaxCapacity : Nat := 0
  mPermissions : List Permission := []
  mChannelIPMap : AList fun _ : ICESocket.IPAddress => Nat := ∅
  mChannelNumberMap : AList fun _ : Nat => Nat := ∅
  /-- The channels, and how many were created. -/
  infos : Nat → ChannelInfo := fun _ => {}
  channels : Nat := 0
  /-- The requests of the requesters. -/
  requests : List Request := []
  /-- How often data was to be sent. -/
  packets : Nat := 0
  /-- The packets that had to wait, those that were given to the server, and those removed with their permission. -/
  queued : List Packet := []
  sent : List Sending := []
  dropped : List Packet := []
  /-- The peers for which a permission was installed at some time. -/
  permitted : List ICESocket.IPAddress := []
  /-- There was a division by zero. -/
  crashed : Bool := false

/-- A range the constructor admits; it throws when the start is greater than the end. -/
structure ChannelRange where
  start : Nat
  limit : Nat
  admitted : start ≤ limit

def TURNSocket.create (range : ChannelRange) (useChannelBinding : Bool) (username password : String) : TURNSocket where
  mLimitChannelToRangeStart := range.start
  mLimitChannelToRangeEnd := range.limit
  mUseChannelBinding := useChannelBinding
  mUsername := username
  mPassword := password

inductive Event where
  /-- The list of the servers is filled, one of them is activated, or one fails. -/
  | prepareServers (servers : List Server)
  | activateServer (place : Nat)
  | eraseServer (place : Nat)
  | onWake (now : Nat)
  /-- The draws are what the random pool gives. -/
  | sendPacket (destination : ICESocket.IPAddress) (length : Nat) (bindChannelIfPossible : Bool) (draws : Nat → Nat) (now : Nat)
  | handleSTUNRequesterResponse (requester : Nat) (response : Response)
  | onSTUNRequesterTimedOut (requester now : Nat)
  /-- The refresh timer fires, and it is time to refresh. -/
  | refreshTimer
  | permissionTimer (now : Nat)
  | channelTimer (channel : Nat)
  | deallocTimer
  | shutdown

namespace TURNSocket

variable (s : TURNSocket)

def isShutdown : Bool := s.mCurrentState = .shutdown

section Requests

/-- The number of the requester that is created next. -/
def next : Nat := s.requests.length

def request (request : Request) : TURNSocket := { s with requests := s.requests ++ [request] }

/-- A request with the credentials the socket has. -/
def authorized (request : Request) : Request :=
  { request with
    mUsername := s.mUsername
    mPassword := s.mPassword
    mRealm := s.mRealm
    mNonce := s.mNonce
    longTerm := true }

/-- The requester that sends the request again, if there is one. -/
def handleAuthorizationErrors (requester : Nat) (response : Response) : Pointer × TURNSocket :=
  if response.mErrorCode = 0 || !response.isErrorResponse then (none, s)
  else
    match s.requests[requester]? with
    | none => (none, s)
    | some request =>
      if response.mErrorCode = unauthorized then
        if request.mUsername = s.mUsername then (none, s)
        else
          let s : TURNSocket := { s with mRealm := response.mRealm, mNonce := response.mNonce }
          (some s.next, s.request (s.authorized request))
      else if response.mErrorCode = staleNonce then
        if 0 < request.mTotalRetries then (none, s)
        else
          let s : TURNSocket :=
            { s with
              mNonce := response.mNonce
              mRealm := if response.mRealm = "" then s.mRealm else response.mRealm }
          (some s.next, s.request
            { request with
              mTotalRetries := request.mTotalRetries + 1
              mNonce := s.mNonce
              mRealm := s.mRealm
              longTerm := true })
      else (none, s)

end Requests

section Permissions

/-- Permissions are removed, with the packets that wait for them. -/
def retain (kept : List Permission) : TURNSocket :=
  { s with
    mPermissions := kept
    dropped := s.dropped ++ (s.mPermissions.filter fun permission =>
      permission.mPeerAddress ∉ kept.map Permission.mPeerAddress).flatMap Permission.mPendingData }

/-- The first of the permissions that have seen no data for the longest time before now. -/
def oldest (now : Nat) (permissions : List Permission) : Option Permission :=
  permissions.foldl (fun found permission =>
    if permission.mLastSentDataAt < found.elim now Permission.mLastSentDataAt then some permission else found) none

/-- Permissions are removed until there are no more than the server has capacity for; the number bounds how often. -/
def trim (now capacity : Nat) : Nat → List Permission → List Permission
  | 0, permissions => permissions
  | n + 1, permissions =>
    if capacity < permissions.length ∧ capacity ≠ 0 then
      match oldest now permissions with
      | none => permissions
      | some found =>
        trim now capacity n (permissions.filter fun permission => permission.mPeerAddress ≠ found.mPeerAddress)
    else permissions

theorem trim_sublist {now capacity n : Nat} {permissions : List Permission} :
    (trim now capacity n permissions).Sublist permissions := by
  induction n generalizing permissions with
  | zero => exact List.Sublist.refl _
  | succ n ih =>
    unfold trim
    split
    · split
      · exact List.Sublist.refl _
      · exact ih.trans List.filter_sublist
    · exact List.Sublist.refl _

/-- The permissions that have seen data in the last ten minutes. -/
def recent (now : Nat) : List Permission :=
  s.mPermissions.filter fun permission => now ≤ permission.mLastSentDataAt + removeIfNoData

/-- All permissions are requested; those that are not installed are installed with the new requester. -/
def requestPermissions : TURNSocket :=
  { s.request (s.authorized
      { mMethod := .createPermission, mPeerAddressList := s.mPermissions.map Permission.mPeerAddress }) with
    mPermissionRequester := some s.next
    mPermissions := s.mPermissions.map fun permission =>
      if permission.mInstalled then permission else { permission with mInstallingWithRequester := some s.next } }

/-- A request that is under way is given up. -/
def requestPermissionsNow (now : Nat) : TURNSocket :=
  if s.recent now = [] then retain { s with mPermissionRequester := none } []
  else
    requestPermissions (retain { s with mPermissionRequester := none }
      (trim now s.mPermissionRequesterMaxCapacity (s.recent now).length (s.recent now)))

/-- The permissions that are being installed with a requester go to another one, or to none. -/
def reinstall (requester : Nat) (other : Pointer) : TURNSocket :=
  { s with mPermissions := s.mPermissions.map fun permission =>
      if permission.mInstallingWithRequester = some requester then
        { permission with mInstallingWithRequester := other }
      else permission }

/-- The permissions that are being installed with a requester are installed, and what waits for them is sent. -/
def install (requester : Nat) : TURNSocket :=
  let installing := s.mPermissions.filter fun permission => permission.mInstallingWithRequester = some requester
  { s with
    mPermissions := s.mPermissions.map fun permission =>
      if permission.mInstallingWithRequester = some requester then
        { permission with mInstalled := true, mInstallingWithRequester := none, mPendingData := [] }
      else permission
    sent := s.sent ++ (installing.flatMap Permission.mPendingData).map fun packet => ⟨packet, true⟩
    permitted := s.permitted ++ installing.map Permission.mPeerAddress }

def handlePermissionRequester (requester : Nat) (response : Response) : TURNSocket × Bool :=
  if s.mPermissionRequester ≠ some requester then (s, false)
  else
    let retry := s.handleAuthorizationErrors requester response
    let s : TURNSocket := { retry.2 with mPermissionRequester := retry.1 }
    if retry.1.isSome then (s.reinstall requester retry.1, true)
    else if response.isError then
      let peers := (s.requests[requester]?.map Request.mPeerAddressList).getD []
      let s : TURNSocket :=
        if response.mErrorCode = insufficientCapacity ∧ 1 < peers.length then
          { s with mPermissionRequesterMaxCapacity := peers.length - 1 }
        else s
      (s.reinstall requester none, true)
    else if !response.isValidMessageIntegrity then (s, false)
    else (s.install requester, true)

end Permissions

section Channels

def channel (i : Nat) (info : ChannelInfo) : TURNSocket := { s with infos := Function.update s.infos i info }

@[simp] theorem channel_self (i : Nat) (info : ChannelInfo) : (s.channel i info).infos i = info :=
  Function.update_self _ _ _

theorem channel_of_ne {i j : Nat} (h : j ≠ i) (info : ChannelInfo) : (s.channel i info).infos j = s.infos j :=
  Function.update_of_ne h _ _

/-- A free number out of so many attempts, zero if there was none; no number when dividing by zero. -/
def drawChannel (draws : Nat → Nat) : Nat → Option Nat
  | 0 => some 0
  | attempts + 1 =>
    if s.mLimitChannelToRangeEnd - s.mLimitChannelToRangeStart = 0 then none
    else
      let channel :=
        draws attempts % (s.mLimitChannelToRangeEnd - s.mLimitChannelToRangeStart) + s.mLimitChannelToRangeStart
      if channel ∈ s.mChannelNumberMap then drawChannel draws attempts else some channel

def getNextChannelNumber (draws : Nat → Nat) : Option Nat :=
  if s.mChannelNumberMap.keys.length > 100 then some 0 else s.drawChannel draws 100

def addChannel (destination : ICESocket.IPAddress) (number now : Nat) : TURNSocket :=
  { s.channel s.channels { mChannelNumber := number, mPeerAddress := destination, mLastSentDataAt := now } with
    mChannelIPMap := s.mChannelIPMap.insert destination s.channels
    mChannelNumberMap := s.mChannelNumberMap.insert number s.channels
    channels := s.channels + 1 }

/-- A new channel is made if there is a free number. -/
def bindChannel (destination : ICESocket.IPAddress) (draws : Nat → Nat) (now : Nat) : TURNSocket :=
  match s.getNextChannelNumber draws with
  | none => { s with crashed := true }
  | some number => if number ≠ 0 ∧ s.mUseChannelBinding then s.addChannel destination number now else s

def removeChannel (i : Nat) : TURNSocket :=
  { s.channel i { s.infos i with mRefreshTimer := false, mChannelBindRequester := none } with
    mChannelIPMap := s.mChannelIPMap.erase (s.infos i).mPeerAddress
    mChannelNumberMap := s.mChannelNumberMap.erase (s.infos i).mChannelNumber }

/-- The channels of the map by numbers. -/
def boundChannels : List Nat := s.mChannelNumberMap.entries.map Sigma.snd

variable {s} in
theorem mem_boundChannels {i : Nat} : i ∈ s.boundChannels ↔ ∃ n, s.mChannelNumberMap.lookup n = some i := by
  simp [boundChannels, AList.mem_lookup_iff, ← Option.mem_def]

/-- The timers that are set bind the channels that are not bound. -/
def refreshChannels (now : Nat) : TURNSocket :=
  let expired := s.boundChannels.filter fun i => now > (s.infos i).mLastSentDataAt + removeIfNoData
  let s : TURNSocket := expired.foldl removeChannel s
  { s with infos := fun i => if i ∈ s.boundChannels then { s.infos i with mRefreshTimer := true } else s.infos i }

def withBindRequester (requester : Nat) : Option Nat :=
  s.boundChannels.find? fun i => (s.infos i).mChannelBindRequester = some requester

def handleChannelRequester (requester : Nat) (response : Response) : TURNSocket × Bool :=
  match s.withBindRequester requester with
  | none => (s, false)
  | some i =>
    let retry := s.handleAuthorizationErrors requester response
    let s := retry.2.channel i { retry.2.infos i with mChannelBindRequester := retry.1 }
    if retry.1.isSome then (s, true)
    else if response.isError then (s.channel i { s.infos i with mBound := false }, true)
    else if !response.isValidMessageIntegrity then (s, false)
    else (s.channel i { s.infos i with mBound := true }, true)

/-- A channel is bound, or its binding refreshed, when its timer fires. -/
def channelTimer (i : Nat) : TURNSocket :=
  if i ∉ s.boundChannels || !(s.infos i).mRefreshTimer then s
  else if (s.infos i).mChannelBindRequester.isSome then s
  else
    let request : Request :=
      { mMethod := .channelBind
        mChannelNumber := (s.infos i).mChannelNumber
        mPeerAddressList := [(s.infos i).mPeerAddress] }
    (s.request (s.authorized request)).channel i { s.infos i with mChannelBindRequester := some s.next }

/-- The peer that channel data is delivered as coming from. -/
def handleChannelData (number : Nat) : Option ICESocket.IPAddress :=
  if s.isShutdown || !s.mUseChannelBinding then none
  else if number < s.mLimitChannelToRangeStart ∨ s.mLimitChannelToRangeEnd < number then none
  else (s.mChannelNumberMap.lookup number).map fun i => (s.infos i).mPeerAddress

end Channels

section Steps

/-- A relayed address is given up first. -/
def cancel : TURNSocket :=
  if s.isShutdown then s
  else
    let s : TURNSocket :=
      { s.retain [] with
        mCurrentState := .shuttingDown
        mServers := []
        mRefreshRequester := none
        mPermissionRequester := none
        mChannelIPMap := ∅
        mChannelNumberMap := ∅
        infos := fun i =>
          if i ∈ s.mChannelIPMap.entries.map Sigma.snd then
            { s.infos i with mRefreshTimer := false, mChannelBindRequester := none }
          else s.infos i }
    let s : TURNSocket :=
      if s.mRelayedIP.address ≠ 0 ∧ s.mDeallocateRequester = none then
        { s.request (s.authorized { mMethod := .refresh, mLifetime := some 0 }) with
          mDeallocateRequester := some s.next }
      else s
    if s.mDeallocateRequester.isSome then s
    else { s with mCurrentState := .shutdown, mActiveServer := none, mRelayedIP := {} }

/-- A permission is to be installed and no request for it is under way. -/
def lacksPermission : Bool :=
  s.mPermissions.any fun permission => !permission.mInstalled && permission.mInstallingWithRequester.isNone

def step (now : Nat) : TURNSocket :=
  if s.isShutdown || s.mCurrentState = .shuttingDown then s.cancel
  else if s.mRelayedIP.address = 0 then s
  else
    let s := if s.lacksPermission then s.requestPermissionsNow now else s
    s.refreshChannels now

/-- The servers the allocate requester of which is the one given, changed. -/
def changeServer (requester : Nat) (other : Pointer) : TURNSocket :=
  { s with mServers := s.mServers.map fun server =>
      if server.mAllocateRequester = some requester then { server with mAllocateRequester := other } else server }

def handleAllocateRequester (requester : Nat) (response : Response) : TURNSocket × Bool :=
  match s.mServers.find? fun server => server.mAllocateRequester = some requester with
  | none => (s, false)
  | some server =>
    let retry := s.handleAuthorizationErrors requester response
    if retry.1.isSome then (retry.2.changeServer requester retry.1, true)
    else if response.isError then
      match s.requests[requester]? with
      | none => (s, true)
      | some request =>
        if response.mErrorCode = unknownAttribute ∧ response.unknownDontFragment then
          ((s.request { request with mDontFragmentIncluded := false }).changeServer requester (some s.next), true)
        else
          ({ s with mServers := s.mServers.filter fun server => server.mAllocateRequester ≠ some requester }, true)
    else if !response.isValidMessageIntegrity then (s.changeServer requester none, false)
    else
      ({ s with
        mCurrentState := .ready
        mLifetime := response.mLifetime.getD s.mLifetime
        mRelayedIP := response.mRelayedAddress
        mActiveServer := some { server with mAllocateRequester := none }
        mServers := [] }, true)

def handleRefreshRequester (requester : Nat) (response : Response) : TURNSocket × Bool :=
  if s.mRefreshRequester ≠ some requester then (s, false)
  else
    let retry := s.handleAuthorizationErrors requester response
    let s : TURNSocket := { retry.2 with mRefreshRequester := retry.1 }
    if response.isError then (s.cancel, true)
    else if !response.isValidMessageIntegrity then (s, false)
    else ({ s with mLifetime := response.mLifetime.getD s.mLifetime }, true)

def handleDeallocRequester (requester : Nat) (response : Response) : TURNSocket × Bool :=
  if s.mDeallocateRequester ≠ some requester then (s, false)
  else
    let retry := s.handleAuthorizationErrors requester response
    if retry.1.isSome then ({ retry.2 with mDeallocateRequester := retry.1 }, true)
    else ({ retry.2 with mRelayedIP := {} }, true)

/-- The requester is complete when its response was handled. -/
def complete (requester : Nat) : TURNSocket :=
  if s.mDeallocateRequester = some requester then { s with mDeallocateRequester := none } else s

/-- The handlers are asked one after another. -/
def handleSTUNRequesterResponse (requester : Nat) (response : Response) : TURNSocket :=
  let allocated := s.handleAllocateRequester requester response
  if allocated.2 then allocated.1.complete requester
  else
    let refreshed := allocated.1.handleRefreshRequester requester response
    if refreshed.2 then refreshed.1.complete requester
    else
      let deallocated := refreshed.1.handleDeallocRequester requester response
      if deallocated.2 then deallocated.1.complete requester
      else
        let bound := deallocated.1.handleChannelRequester requester response
        if bound.2 then bound.1.complete requester
        else
          let installed := bound.1.handlePermissionRequester requester response
          if installed.2 then installed.1.complete requester else installed.1

def onSTUNRequesterTimedOut (requester now : Nat) : TURNSocket :=
  if s.isShutdown then s
  else if s.mServers.any fun server => server.mAllocateRequester = some requester then
    step { s with mServers := s.mServers.filter fun server => server.mAllocateRequester ≠ some requester } now
  else if s.mRefreshRequester = some requester then cancel { s with mRefreshRequester := none }
  else if s.mDeallocateRequester = some requester then (cancel { s with mRelayedIP := {} }).complete requester
  else if s.mPermissionRequester = some requester then
    step { s.reinstall requester none with mPermissionRequester := none } now
  else
    match s.withBindRequester requester with
    | none => s
    | some i => s.channel i { s.infos i with mChannelBindRequester := none }

end Steps

section Sending

/-- The packet is given to the active server. -/
def send (packet : Packet) : TURNSocket := { s with sent := s.sent ++ [⟨packet, packet.peer ∈ s.permitted⟩] }

/-- The permission for a peer, changed. -/
def changePermission (peer : ICESocket.IPAddress) (change : Permission → Permission) : TURNSocket :=
  { s with mPermissions := s.mPermissions.map fun permission =>
      if permission.mPeerAddress = peer then change permission else permission }

/-- A send indication, which waits until the permission is installed. -/
def sendIndication (packet : Packet) (now : Nat) : TURNSocket :=
  match s.mPermissions.find? fun permission => permission.mPeerAddress = packet.peer with
  | none =>
    { s with
      mPermissions := s.mPermissions ++
        [{ mPeerAddress := packet.peer, mLastSentDataAt := now, mPendingData := [packet] }]
      queued := s.queued ++ [packet] }
  | some found =>
    if found.mInstalled then
      (s.changePermission packet.peer fun permission => { permission with mLastSentDataAt := now }).send packet
    else
      { s.changePermission packet.peer fun permission =>
          { permission with mLastSentDataAt := now, mPendingData := permission.mPendingData ++ [packet] } with
        queued := s.queued ++ [packet] }

/-- The channel that is bound to a peer. -/
def boundTo (destination : ICESocket.IPAddress) : Option Nat :=
  (s.mChannelIPMap.lookup destination).filter fun i => (s.infos i).mBound

def sendPacket (destination : ICESocket.IPAddress) (length : Nat) (bindChannelIfPossible : Bool) (draws : Nat → Nat)
    (now : Nat) : TURNSocket :=
  if destination.address = 0 ∨ destination.port = 0 ∨ length = 0 ∨ 65535 < length ∨ s.mCurrentState ≠ .ready then s
  else
    let packet : Packet := { peer := destination, number := s.packets }
    let s : TURNSocket := { s with packets := s.packets + 1 }
    match s.boundTo destination with
    | some i => (s.channel i { s.infos i with mLastSentDataAt := now }).send packet
    | none =>
      let s :=
        if bindChannelIfPossible && (s.mChannelIPMap.lookup destination).isNone then s.bindChannel destination draws now
        else s
      if s.crashed then s else s.sendIndication packet now

end Sending

/-- An allocate request for a server of the list that has none. -/
def activateServer (place : Nat) : TURNSocket :=
  match s.mServers[place]? with
  | none => s
  | some server =>
    if server.mAllocateRequester.isSome then s
    else
      { s.request { mMethod := .allocate, mLifetime := some 600, mDontFragmentIncluded := true } with
        mLifetime := 600
        mServers := s.mServers.set place { server with mAllocateRequester := some s.next } }

/-- Nothing is done after a crash. -/
def take (e : Event) : TURNSocket :=
  if s.crashed then s
  else
    match e with
    | .prepareServers servers =>
      if s.mCurrentState = .pending ∧ s.mServers = [] then
        { s with mServers := servers.map fun server => { server with mAllocateRequester := none } }
      else s
    | .activateServer place => s.activateServer place
    | .eraseServer place => { s with mServers := s.mServers.eraseIdx place }
    | .onWake now => s.step now
    | .sendPacket destination length bindChannelIfPossible draws now =>
      s.sendPacket destination length bindChannelIfPossible draws now
    | .handleSTUNRequesterResponse requester response => s.handleSTUNRequesterResponse requester response
    | .onSTUNRequesterTimedOut requester now => s.onSTUNRequesterTimedOut requester now
    | .refreshTimer =>
      if s.mCurrentState ≠ .ready ∨ s.mRefreshRequester.isSome then s
      else { s.request (s.authorized { mMethod := .refresh }) with mRefreshRequester := some s.next }
    | .permissionTimer now => if s.mCurrentState ≠ .ready then s else (s.requestPermissionsNow now).step now
    | .channelTimer channel => if s.isShutdown then s else s.channelTimer channel
    | .deallocTimer => if s.mCurrentState = .shuttingDown then s.cancel else s
    | .shutdown => s.cancel

end TURNSocket

end OpenPeer.TURNSocketRelay
