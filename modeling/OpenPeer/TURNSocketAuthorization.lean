import OpenPeer.TURNSocketRequests

/-!
# Requests that are sent again

A request that is rejected is sent again with credentials or with another nonce, and the new
requester takes the place of the old one. When the request that is sent again is accepted the
socket is as if the first one had been, but a refresh request that is sent again is given up
at once, with the relayed address.
-/
namespace OpenPeer.TURNSocketRelay

open ICESocket (TURNSocketStates)
open TURNSocketServers (Server)

/-- The request is accepted by a response that is signed. -/
def Response.accepts (response : Response) : Bool := !response.isError && response.isValidMessageIntegrity

namespace TURNSocket

/-- The requests that were sent, the realm and the nonce are left out. -/
def session (s : TURNSocket) : TURNSocket := { s with requests := [], mRealm := "", mNonce := "" }

/-- The request carries the credentials, or was sent again before. -/
def lastTry (s : TURNSocket) (requester : Nat) : Bool :=
  s.requests[requester]?.any fun request => request.mUsername = s.mUsername || request.mTotalRetries ≠ 0

/-- What the handler does that a response is for. -/
def handle (s : TURNSocket) (requester : Nat) (response : Response) : Kind → TURNSocket × Bool
  | .allocate => s.handleAllocateRequester requester response
  | .refresh => s.handleRefreshRequester requester response
  | .createPermission => s.handlePermissionRequester requester response
  | .channelBind _ => s.handleChannelRequester requester response
  | .deallocate => s.handleDeallocRequester requester response

/-- A request is sent again, and its requester takes the place of the old one. -/
def retried (s : TURNSocket) (requester : Nat) (realm nonce : String) (again : Request) : Kind → TURNSocket
  | .allocate =>
    changeServer (request { s with mRealm := realm, mNonce := nonce } again) requester (some s.next)
  | .refresh => { request { s with mRealm := realm, mNonce := nonce } again with mRefreshRequester := some s.next }
  | .createPermission =>
    reinstall { request { s with mRealm := realm, mNonce := nonce } again with mPermissionRequester := some s.next }
      requester (some s.next)
  | .channelBind i =>
    channel (request { s with mRealm := realm, mNonce := nonce } again) i
      { s.infos i with mChannelBindRequester := some s.next }
  | .deallocate =>
    { request { s with mRealm := realm, mNonce := nonce } again with mDeallocateRequester := some s.next }

end TURNSocket

/-- The request that is sent again takes the place of the one that was rejected. -/
structure Resumes (s : TURNSocket) (kind : Kind) (requester : Nat) (rejection : Response) : Prop where
  state : (s.handleSTUNRequesterResponse requester rejection).mCurrentState = s.mCurrentState
  replaced : (s.handleSTUNRequesterResponse requester rejection).outstanding kind =
    (s.outstanding kind).map fun r => if r = requester then s.next else r
  carried : ∃ again, (s.handleSTUNRequesterResponse requester rejection).requests[s.next]? = some again ∧
    again.mNonce = rejection.mNonce ∧ (rejection.mRealm ≠ "" → again.mRealm = rejection.mRealm)
  processed : ∀ acceptance : Response, acceptance.accepts = true →
    ((s.handleSTUNRequesterResponse requester rejection).handleSTUNRequesterResponse s.next acceptance).session =
      (s.handleSTUNRequesterResponse requester acceptance).session

/-- When the request that is sent again is rejected with the same nonce, no request is sent. -/
def GivesUp (s : TURNSocket) (requester : Nat) (rejection : Response) : Prop :=
  ∀ second : Response, second.rejects = true → second.mNonce = rejection.mNonce →
    ((s.handleSTUNRequesterResponse requester rejection).handleSTUNRequesterResponse s.next second).requests =
      (s.handleSTUNRequesterResponse requester rejection).requests

def Alike (s : TURNSocket) (kind : Kind) (requester : Nat) (rejection : Response) : Prop :=
  s.sendsAgain requester rejection = true → Resumes s kind requester rejection ∧ GivesUp s requester rejection

section Handlers

variable {s : TURNSocket} {requester : Nat} {response : Response}

theorem handleAllocateRequester_other (h : requester ∉ s.outstanding .allocate) :
    s.handleAllocateRequester requester response = (s, false) := by
  have hnone : (s.mServers.find? fun server => server.mAllocateRequester = some requester) = none := by
    apply List.find?_eq_none.mpr
    intro server hserver
    have hnot : server.mAllocateRequester ≠ some requester :=
      fun hsame => h (List.mem_filterMap.mpr ⟨server, hserver, hsame⟩)
    simpa using hnot
  unfold TURNSocket.handleAllocateRequester
  rw [hnone]

theorem handleRefreshRequester_other (h : requester ∉ s.outstanding .refresh) :
    s.handleRefreshRequester requester response = (s, false) :=
  if_pos fun hsame => h (by simp [TURNSocket.outstanding, hsame])

theorem handleDeallocRequester_other (h : requester ∉ s.outstanding .deallocate) :
    s.handleDeallocRequester requester response = (s, false) :=
  if_pos fun hsame => h (by simp [TURNSocket.outstanding, hsame])

theorem handleChannelRequester_other (h : ∀ i, requester ∉ s.outstanding (.channelBind i)) :
    s.handleChannelRequester requester response = (s, false) := by
  unfold TURNSocket.handleChannelRequester
  cases hfound : s.withBindRequester requester with
  | none => rfl
  | some i => exact absurd (withBindRequester_some hfound) (h i)

variable {kind : Kind}

theorem outstanding_unique (h : Known s.ledger) {kind' : Kind} (hr : requester ∈ s.outstanding kind)
    (hr' : requester ∈ s.outstanding kind') : kind = kind' := h.kind_unique hr hr'

/-- A response is handled by the handler for its purpose. -/
theorem handleSTUNRequesterResponse_eq (h : Known s.ledger) (hr : requester ∈ s.outstanding kind)
    (hdone : (s.handle requester response kind).2 = true) :
    s.handleSTUNRequesterResponse requester response = (s.handle requester response kind).1.complete requester := by
  have hother : ∀ {kind'}, kind' ≠ kind → requester ∉ s.outstanding kind' :=
    fun hne hr' => hne (outstanding_unique h hr' hr)
  unfold TURNSocket.handleSTUNRequesterResponse
  cases kind with
  | allocate => exact if_pos hdone
  | refresh =>
    simp only [handleAllocateRequester_other (hother (by simp)), Bool.false_eq_true, if_false]
    exact if_pos hdone
  | deallocate =>
    simp only [handleAllocateRequester_other (hother (by simp)), handleRefreshRequester_other (hother (by simp)),
      Bool.false_eq_true, if_false]
    exact if_pos hdone
  | channelBind i =>
    simp only [handleAllocateRequester_other (hother (by simp)), handleRefreshRequester_other (hother (by simp)),
      handleDeallocRequester_other (hother (by simp)), Bool.false_eq_true, if_false]
    exact if_pos hdone
  | createPermission =>
    simp only [handleAllocateRequester_other (hother (by simp)), handleRefreshRequester_other (hother (by simp)),
      handleDeallocRequester_other (hother (by simp)),
      handleChannelRequester_other fun i => hother (by simp : Kind.channelBind i ≠ .createPermission),
      Bool.false_eq_true, if_false]
    exact if_pos hdone

theorem withBindRequester_eq (h : Known s.ledger) {i : Nat} (hr : requester ∈ s.outstanding (.channelBind i)) :
    s.withBindRequester requester = some i := by
  cases hfound : s.withBindRequester requester with
  | none =>
    obtain ⟨hbound, hbind⟩ := mem_outstanding_channelBind.mp hr
    have hnot := List.find?_eq_none.mp hfound i hbound
    exact absurd (decide_eq_true hbind) hnot
  | some j => rw [h.alone i j requester hr (withBindRequester_some hfound)]

theorem find_allocate (hr : requester ∈ s.outstanding .allocate) :
    ∃ server, (s.mServers.find? fun server => server.mAllocateRequester = some requester) = some server := by
  obtain ⟨server, hserver, hsame⟩ := List.mem_filterMap.mp hr
  apply Option.isSome_iff_exists.mp
  apply List.find?_isSome.mpr
  exact ⟨server, hserver, decide_eq_true hsame⟩

theorem handle_again (h : Known s.ledger) (hr : requester ∈ s.outstanding kind) (hkind : kind ≠ .refresh)
    {realm : String} {again : Request}
    (heq : s.handleAuthorizationErrors requester response = (some s.next, TURNSocket.request { s with mRealm := realm, mNonce := response.mNonce } again)) :
    s.handle requester response kind = (s.retried requester realm response.mNonce again kind, true) := by
  unfold TURNSocket.handle
  cases kind with
  | allocate =>
    obtain ⟨server, hfound⟩ := find_allocate hr
    simp [TURNSocket.handleAllocateRequester, hfound, heq, TURNSocket.retried]
  | refresh => exact absurd rfl hkind
  | createPermission =>
    have hrequester : s.mPermissionRequester = some requester := Option.mem_toList.mp hr
    simp [TURNSocket.handlePermissionRequester, hrequester, heq, TURNSocket.retried]
  | channelBind i =>
    simp only [TURNSocket.handleChannelRequester, withBindRequester_eq h hr, heq, TURNSocket.retried]
    rfl
  | deallocate =>
    have hrequester : s.mDeallocateRequester = some requester := Option.mem_toList.mp hr
    simp [TURNSocket.handleDeallocRequester, hrequester, heq, TURNSocket.retried]

/-- The new requester is not the old one, which is not complete before the new one is. -/
theorem complete_retried (h : Known s.ledger) (hr : requester ∈ s.outstanding kind) (realm nonce : String)
    (again : Request) :
    (s.retried requester realm nonce again kind).complete requester = s.retried requester realm nonce again kind := by
  apply if_neg
  intro hsame
  have hlt : requester < s.next := h.lt hr
  cases kind with
  | deallocate => exact absurd (Option.some.inj hsame) (Nat.ne_of_gt hlt)
  | _ =>
    have hdealloc : s.mDeallocateRequester = some requester := hsame
    have hmem : requester ∈ s.outstanding .deallocate := by simp [TURNSocket.outstanding, hdealloc]
    cases outstanding_unique h hr hmem

theorem handleSTUNRequesterResponse_again (h : Known s.ledger) (hr : requester ∈ s.outstanding kind)
    (hkind : kind ≠ .refresh) {realm : String} {again : Request}
    (heq : s.handleAuthorizationErrors requester response = (some s.next, TURNSocket.request { s with mRealm := realm, mNonce := response.mNonce } again)) :
    s.handleSTUNRequesterResponse requester response = s.retried requester realm response.mNonce again kind := by
  have hhandle := handle_again h hr hkind heq
  rw [handleSTUNRequesterResponse_eq h hr (by rw [hhandle]), hhandle]
  exact complete_retried h hr realm response.mNonce again

/-- A request that is rejected and not sent again is replaced by no other. -/
theorem handle_rejected (h : Known s.ledger) (hr : requester ∈ s.outstanding kind) (hkind : kind ≠ .refresh)
    (hrejects : response.rejects = true) (hagain : s.sendsAgain requester response = false) :
    (s.handle requester response kind).2 = true ∧ (s.handle requester response kind).1.requests = s.requests := by
  have heq := handleAuthorizationErrors_not hagain
  have herror : response.isError = true := by
    simp only [Response.rejects, Bool.and_eq_true] at hrejects
    simp [Response.isError, hrejects.1]
  unfold TURNSocket.handle
  cases kind with
  | allocate =>
    obtain ⟨server, hfound⟩ := find_allocate hr
    obtain ⟨request, hrequest, -⟩ := h.asked .allocate requester hr
    have hcode : response.mErrorCode ≠ unknownAttribute := by
      simp only [Response.rejects, Bool.and_eq_true, Bool.or_eq_true, decide_eq_true_eq] at hrejects
      obtain hcode | hcode := hrejects.2 <;> simp [hcode, unauthorized, staleNonce, unknownAttribute]
    have hsent : s.requests[requester]? = some request := hrequest
    simp [TURNSocket.handleAllocateRequester, hfound, heq, herror, hsent, hcode]
  | refresh => exact absurd rfl hkind
  | createPermission =>
    have hrequester : s.mPermissionRequester = some requester := Option.mem_toList.mp hr
    simp only [TURNSocket.handlePermissionRequester, hrequester, heq, herror, ne_eq, not_true_eq_false, if_false,
      Option.isSome_none, Bool.false_eq_true, if_true, true_and]
    split <;> rfl
  | channelBind i =>
    simp only [TURNSocket.handleChannelRequester, withBindRequester_eq h hr, heq, herror, Option.isSome_none,
      Bool.false_eq_true, if_false, if_true, true_and]
    rfl
  | deallocate =>
    have hrequester : s.mDeallocateRequester = some requester := Option.mem_toList.mp hr
    simp [TURNSocket.handleDeallocRequester, hrequester, heq]

@[simp] theorem complete_requests (s : TURNSocket) (requester : Nat) :
    (s.complete requester).requests = s.requests := by
  unfold TURNSocket.complete
  split <;> rfl

theorem requests_rejected (h : Known s.ledger) (hr : requester ∈ s.outstanding kind)
    (hkind : kind ≠ .refresh) (hrejects : response.rejects = true)
    (hagain : s.sendsAgain requester response = false) :
    (s.handleSTUNRequesterResponse requester response).requests = s.requests := by
  obtain ⟨hdone, hsame⟩ := handle_rejected h hr hkind hrejects hagain
  rw [handleSTUNRequesterResponse_eq h hr hdone, complete_requests, hsame]

/-- What becomes of the socket when a request is accepted. -/
def TURNSocket.accepted (s : TURNSocket) (requester : Nat) (acceptance : Response) : Kind → TURNSocket
  | .allocate =>
    { s with
      mCurrentState := .ready
      mLifetime := acceptance.mLifetime.getD s.mLifetime
      mRelayedIP := acceptance.mRelayedAddress
      mActiveServer := (s.mServers.find? fun server => server.mAllocateRequester = some requester).map fun server =>
        { server with mAllocateRequester := none }
      mServers := [] }
  | .refresh => { s with mRefreshRequester := none, mLifetime := acceptance.mLifetime.getD s.mLifetime }
  | .createPermission => TURNSocket.install { s with mPermissionRequester := none } requester
  | .channelBind i => s.channel i { s.infos i with mChannelBindRequester := none, mBound := true }
  | .deallocate => { s with mRelayedIP := {} }

theorem handle_accepted (h : Known s.ledger) (hr : requester ∈ s.outstanding kind)
    (haccepts : response.accepts = true) :
    s.handle requester response kind = (s.accepted requester response kind, true) := by
  simp only [Response.accepts, Bool.and_eq_true, Bool.not_eq_true'] at haccepts
  obtain ⟨herror, hvalid⟩ := haccepts
  have heq : s.handleAuthorizationErrors requester response = (none, s) := by
    apply handleAuthorizationErrors_not
    simp only [Response.isError, Bool.or_eq_false_iff] at herror
    simp [TURNSocket.sendsAgain, Response.rejects, herror.2]
  unfold TURNSocket.handle
  cases kind with
  | allocate =>
    obtain ⟨server, hfound⟩ := find_allocate hr
    simp [TURNSocket.handleAllocateRequester, hfound, heq, herror, hvalid, TURNSocket.accepted]
  | refresh =>
    have hrequester : s.mRefreshRequester = some requester := Option.mem_toList.mp hr
    simp [TURNSocket.handleRefreshRequester, hrequester, heq, herror, hvalid, TURNSocket.accepted]
  | createPermission =>
    have hrequester : s.mPermissionRequester = some requester := Option.mem_toList.mp hr
    simp [TURNSocket.handlePermissionRequester, hrequester, heq, herror, hvalid, TURNSocket.accepted]
  | channelBind i =>
    simp [TURNSocket.handleChannelRequester, withBindRequester_eq h hr, heq, herror, hvalid, TURNSocket.accepted,
      TURNSocket.channel]
  | deallocate =>
    have hrequester : s.mDeallocateRequester = some requester := Option.mem_toList.mp hr
    simp [TURNSocket.handleDeallocRequester, hrequester, heq, TURNSocket.accepted]

theorem handleSTUNRequesterResponse_accepted (h : Known s.ledger) (hr : requester ∈ s.outstanding kind)
    (haccepts : response.accepts = true) :
    s.handleSTUNRequesterResponse requester response = (s.accepted requester response kind).complete requester := by
  have hhandle := handle_accepted h hr haccepts
  rw [handleSTUNRequesterResponse_eq h hr (by rw [hhandle]), hhandle]

end Handlers

section Retried

variable {s : TURNSocket} {requester : Nat}

theorem retried_outstanding {kind : Kind} (hr : requester ∈ s.outstanding kind)
    (realm nonce : String) (again : Request) :
    (s.retried requester realm nonce again kind).outstanding kind =
      (s.outstanding kind).map fun r => if r = requester then s.next else r := by
  cases kind with
  | allocate =>
    simp only [TURNSocket.outstanding, TURNSocket.retried, TURNSocket.changeServer, List.filterMap_map,
      List.map_filterMap]
    apply List.filterMap_congr
    intro server _
    by_cases hsame : server.mAllocateRequester = some requester
    · simp [hsame]
    · cases hother : server.mAllocateRequester with
      | none => simp [hother]
      | some r =>
        have hne : r ≠ requester := fun heq => hsame (heq ▸ hother)
        simp [hother, hne]
  | refresh =>
    have hrequester : s.mRefreshRequester = some requester := Option.mem_toList.mp hr
    simp [TURNSocket.outstanding, TURNSocket.retried, hrequester]
  | createPermission =>
    have hrequester : s.mPermissionRequester = some requester := Option.mem_toList.mp hr
    simp [TURNSocket.outstanding, TURNSocket.retried, TURNSocket.reinstall, hrequester]
  | channelBind i =>
    obtain ⟨hbound, hbind⟩ := mem_outstanding_channelBind.mp hr
    have hstill : i ∈ (s.retried requester realm nonce again (.channelBind i)).boundChannels := hbound
    simp only [TURNSocket.outstanding, if_pos hbound, if_pos hstill, hbind]
    simp [TURNSocket.retried]
  | deallocate =>
    have hrequester : s.mDeallocateRequester = some requester := Option.mem_toList.mp hr
    simp [TURNSocket.outstanding, TURNSocket.retried, hrequester]

theorem mem_retried {kind : Kind} (hr : requester ∈ s.outstanding kind)
    (realm nonce : String) (again : Request) :
    s.next ∈ (s.retried requester realm nonce again kind).outstanding kind := by
  rw [retried_outstanding hr]
  exact List.mem_map.mpr ⟨requester, hr, if_pos rfl⟩

theorem retried_known (h : Known s.ledger) {kind : Kind} (hr : requester ∈ s.outstanding kind)
    {request again : Request} {response : Response} {realm : String} (hrequest : s.requests[requester]? = some request)
    (hrenewed : Renewed s response realm request again) :
    Known (s.retried requester realm response.mNonce again kind).ledger := by
  have hasked := h.asked_again hr hrequest hrenewed
  cases kind with
  | allocate => exact h.asks (changeServer_asks s realm response.mNonce requester hasked)
  | refresh => exact h.asks (refresh_asks s realm response.mNonce hasked)
  | createPermission => exact h.asks (permission_asks s realm response.mNonce requester hasked)
  | channelBind i => exact h.asks (channel_asks s realm response.mNonce i rfl hasked)
  | deallocate => exact h.asks (deallocate_asks s realm response.mNonce hasked)

theorem find_changeServer {servers : List Server} {next : Nat}
    (hfresh : ∀ server ∈ servers, server.mAllocateRequester ≠ some next) :
    ((servers.map fun server => if server.mAllocateRequester = some requester then
        { server with mAllocateRequester := some next } else server).find? fun server =>
          server.mAllocateRequester = some next) =
      (servers.find? fun server => server.mAllocateRequester = some requester).map fun server =>
        { server with mAllocateRequester := some next } := by
  induction servers with
  | nil => rfl
  | cons server servers ih =>
    have hrest := ih fun other hother => hfresh other (List.mem_cons_of_mem _ hother)
    by_cases hsame : server.mAllocateRequester = some requester
    · simp [hsame]
    · have hnot := hfresh server List.mem_cons_self
      rw [List.map_cons, if_neg hsame, List.find?_cons_of_neg (by simpa using hnot),
        List.find?_cons_of_neg (by simpa using hsame)]
      exact hrest

/-- A permission that is being installed with a requester goes to another one. -/
def movedTo (requester next : Nat) (permission : Permission) : Permission :=
  if permission.mInstallingWithRequester = some requester then
    { permission with mInstallingWithRequester := some next }
  else permission

theorem movedTo_installing {next : Nat} {permission : Permission}
    (hfresh : permission.mInstallingWithRequester ≠ some next) :
    (movedTo requester next permission).mInstallingWithRequester = some next ↔
      permission.mInstallingWithRequester = some requester := by
  unfold movedTo
  by_cases hsame : permission.mInstallingWithRequester = some requester
  · simp [hsame]
  · simp [hsame, hfresh]

/-- Permissions that go to a new requester are installed with it like with the old one. -/
theorem install_reinstall {next : Nat}
    (hfresh : ∀ permission ∈ s.mPermissions, permission.mInstallingWithRequester ≠ some next) :
    (s.reinstall requester (some next)).install next = s.install requester := by
  have hfilter : ((s.mPermissions.map (movedTo requester next)).filter fun permission =>
      permission.mInstallingWithRequester = some next) =
      (s.mPermissions.filter fun permission => permission.mInstallingWithRequester = some requester).map
        (movedTo requester next) := by
    rw [List.filter_map]
    congr 1
    apply List.filter_congr
    intro permission hmem
    exact decide_eq_decide.mpr (movedTo_installing (hfresh permission hmem))
  have hpending : ∀ permission, (movedTo requester next permission).mPendingData = permission.mPendingData := by
    intro permission
    unfold movedTo
    split <;> rfl
  have hpeer : ∀ permission, (movedTo requester next permission).mPeerAddress = permission.mPeerAddress := by
    intro permission
    unfold movedTo
    split <;> rfl
  have hpermissions : (s.mPermissions.map (movedTo requester next)).map (fun permission =>
      if permission.mInstallingWithRequester = some next then
        { permission with mInstalled := true, mInstallingWithRequester := none, mPendingData := [] }
      else permission) = s.mPermissions.map fun permission =>
      if permission.mInstallingWithRequester = some requester then
        { permission with mInstalled := true, mInstallingWithRequester := none, mPendingData := [] }
      else permission := by
    rw [List.map_map]
    apply List.map_congr_left
    intro permission hmem
    by_cases hsame : permission.mInstallingWithRequester = some requester
    · simp [movedTo, hsame]
    · simp [movedTo, hsame, hfresh permission hmem]
  have hmoved : (s.reinstall requester (some next)).mPermissions = s.mPermissions.map (movedTo requester next) := rfl
  unfold TURNSocket.install
  dsimp only
  rw [hmoved, hpermissions, hfilter]
  simp only [List.flatMap_map, List.map_map, Function.comp_def, hpending, hpeer]
  rfl

/-- The socket ends up the same when it is the request that was sent again that is accepted. -/
theorem processed (h : Known s.ledger) {kind : Kind} (hr : requester ∈ s.outstanding kind) (hkind : kind ≠ .refresh)
    (realm nonce : String) (again : Request) (acceptance : Response) :
    (((s.retried requester realm nonce again kind).accepted s.next acceptance kind).complete s.next).session =
      ((s.accepted requester acceptance kind).complete requester).session := by
  have hnew : ∀ kind', s.next ∉ s.outstanding kind' := fun kind' hmem => Nat.lt_irrefl _ (h.lt hmem)
  have hdealloc : s.mDeallocateRequester ≠ some s.next :=
    fun hsame => hnew .deallocate (by simp [TURNSocket.outstanding, hsame])
  have hsame : kind ≠ .deallocate → s.mDeallocateRequester ≠ some requester := by
    intro hne hsame
    exact hne (outstanding_unique h hr (by simp [TURNSocket.outstanding, hsame]))
  cases kind with
  | allocate =>
    have hfresh : ∀ server ∈ s.mServers, server.mAllocateRequester ≠ some s.next :=
      fun server hserver hsame => hnew .allocate (List.mem_filterMap.mpr ⟨server, hserver, hsame⟩)
    have hfound := @find_changeServer requester s.mServers s.next hfresh
    have hactive : ((s.retried requester realm nonce again .allocate).mServers.find? fun server =>
        server.mAllocateRequester = some s.next).map (fun server => { server with mAllocateRequester := none }) =
        (s.mServers.find? fun server => server.mAllocateRequester = some requester).map fun server =>
          { server with mAllocateRequester := none } := by
      refine (congrArg (Option.map _) hfound).trans ?_
      rw [Option.map_map]
      rfl
    have hnot := hsame (by simp)
    simp only [TURNSocket.accepted, hactive]
    simp [TURNSocket.complete, TURNSocket.session, TURNSocket.retried, TURNSocket.changeServer, TURNSocket.request,
      hnot, hdealloc]
  | refresh => exact absurd rfl hkind
  | createPermission =>
    have hfresh : ∀ permission ∈ s.mPermissions, permission.mInstallingWithRequester ≠ some s.next := by
      intro permission hmem hnext
      exact Nat.lt_irrefl _ (h.installing s.next (hnext ▸ List.mem_map_of_mem hmem))
    have hinstalled := @install_reinstall
      { TURNSocket.request { s with mRealm := realm, mNonce := nonce } again with mPermissionRequester := none }
      requester s.next hfresh
    have hnot := hsame (by simp)
    have haccepted : (s.retried requester realm nonce again .createPermission).accepted s.next acceptance
        .createPermission = TURNSocket.install
          { TURNSocket.request { s with mRealm := realm, mNonce := nonce } again with mPermissionRequester := none }
          requester := hinstalled
    rw [haccepted]
    simp [TURNSocket.complete, TURNSocket.session, TURNSocket.accepted, TURNSocket.install, TURNSocket.request, hnot,
      hdealloc]
  | channelBind i =>
    have hnot := hsame (by simp)
    simp [TURNSocket.complete, TURNSocket.session, TURNSocket.accepted, TURNSocket.retried, TURNSocket.channel,
      TURNSocket.request, hnot, hdealloc]
  | deallocate =>
    have hrequester : s.mDeallocateRequester = some requester := Option.mem_toList.mp hr
    simp [TURNSocket.complete, TURNSocket.session, TURNSocket.accepted, TURNSocket.retried, TURNSocket.request,
      hrequester]

end Retried

section Alike

variable {s : TURNSocket} {requester : Nat} {rejection : Response}

theorem resumes (h : Known s.ledger) {kind : Kind} (hr : requester ∈ s.outstanding kind) (hkind : kind ≠ .refresh)
    (hagain : s.sendsAgain requester rejection = true) : Resumes s kind requester rejection := by
  obtain ⟨realm, request, again, hrequest, hrenewed, heq⟩ := handleAuthorizationErrors_again hagain
  have hretried := handleSTUNRequesterResponse_again h hr hkind heq
  constructor
  · rw [hretried]
    cases kind <;> rfl
  · rw [hretried]
    exact retried_outstanding hr realm rejection.mNonce again
  · rw [hretried]
    refine ⟨again, ?_, hrenewed.mNonce, fun hrealm => hrenewed.mRealm.trans (hrenewed.realm hrealm)⟩
    have hrequests : (s.retried requester realm rejection.mNonce again kind).requests = s.requests ++ [again] := by
      cases kind <;> rfl
    simp [hrequests, TURNSocket.next]
  · intro acceptance haccepts
    have hknown := retried_known h hr hrequest hrenewed
    rw [hretried, handleSTUNRequesterResponse_accepted hknown (mem_retried hr realm rejection.mNonce again) haccepts,
      handleSTUNRequesterResponse_accepted h hr haccepts]
    exact processed h hr hkind realm rejection.mNonce again acceptance

theorem cancel_refreshRequester (hopen : s.isShutdown = false) : s.cancel.mRefreshRequester = none := by
  unfold TURNSocket.cancel
  rw [if_neg (Bool.eq_false_iff.mp hopen)]
  dsimp only
  split <;> split <;> rfl

/-- A refresh request is given up with the session, although it was sent again. -/
theorem not_resumes_refresh (h : Known s.ledger) (hr : requester ∈ s.outstanding .refresh)
    (hagain : s.sendsAgain requester rejection = true) : ¬Resumes s .refresh requester rejection := by
  intro hresumes
  obtain ⟨realm, request, again, hrequest, -, heq⟩ := handleAuthorizationErrors_again hagain
  have hrequester : s.mRefreshRequester = some requester := Option.mem_toList.mp hr
  have herror : rejection.isError = true := by
    simp only [TURNSocket.sendsAgain, Response.rejects, Bool.and_eq_true] at hagain
    simp [Response.isError, hagain.1.1]
  have hhandle : s.handle requester rejection .refresh =
      (TURNSocket.cancel (s.retried requester realm rejection.mNonce again .refresh), true) := by
    simp [TURNSocket.handle, TURNSocket.handleRefreshRequester, hrequester, heq, herror, TURNSocket.retried]
  have hready : s.mCurrentState = .ready := by
    obtain ⟨_, -, hasked⟩ := h.asked .refresh requester hr
    exact hasked.ready rfl
  have hopen : (s.retried requester realm rejection.mNonce again .refresh).isShutdown = false := by
    simp [TURNSocket.isShutdown, TURNSocket.retried, TURNSocket.request, hready]
  have hnone : (s.handleSTUNRequesterResponse requester rejection).mRefreshRequester = none := by
    rw [handleSTUNRequesterResponse_eq h hr (by rw [hhandle]), hhandle]
    unfold TURNSocket.complete
    split <;> exact cancel_refreshRequester hopen
  have hreplaced := hresumes.replaced
  simp [TURNSocket.outstanding, hnone, hrequester] at hreplaced

theorem sendsAgain_retried {kind : Kind} (realm nonce : String) (again : Request) (second : Response) :
    (s.retried requester realm nonce again kind).sendsAgain s.next second = (second.rejects &&
      if second.mErrorCode = unauthorized then again.mUsername ≠ s.mUsername else again.mTotalRetries = 0) := by
  have hrequests : (s.retried requester realm nonce again kind).requests = s.requests ++ [again] := by
    cases kind <;> rfl
  have husername : (s.retried requester realm nonce again kind).mUsername = s.mUsername := by
    cases kind <;> rfl
  simp [TURNSocket.sendsAgain, hrequests, husername, TURNSocket.next]

theorem requests_iff (h : Known s.ledger) {kind : Kind} (hr : requester ∈ s.outstanding kind) (hkind : kind ≠ .refresh)
    (hrejects : rejection.rejects = true) :
    (s.handleSTUNRequesterResponse requester rejection).requests = s.requests ↔
      s.sendsAgain requester rejection = false := by
  cases hagain : s.sendsAgain requester rejection with
  | false => simpa using requests_rejected h hr hkind hrejects hagain
  | true =>
    obtain ⟨realm, request, again, -, -, heq⟩ := handleAuthorizationErrors_again hagain
    rw [handleSTUNRequesterResponse_again h hr hkind heq]
    have hrequests : (s.retried requester realm rejection.mNonce again kind).requests = s.requests ++ [again] := by
      cases kind <;> rfl
    simp [hrequests]

/-- A request that was sent again is not sent once more exactly when it was the last try. -/
theorem givesUp_iff (h : Known s.ledger) {kind : Kind} (hr : requester ∈ s.outstanding kind) (hkind : kind ≠ .refresh)
    (hagain : s.sendsAgain requester rejection = true) :
    GivesUp s requester rejection ↔ s.lastTry requester = true := by
  obtain ⟨realm, request, again, hrequest, hrenewed, heq⟩ := handleAuthorizationErrors_again hagain
  have hretried := handleSTUNRequesterResponse_again h hr hkind heq
  have hknown := retried_known h hr hrequest hrenewed
  have hnext := mem_retried hr realm rejection.mNonce again
  have hlast : s.lastTry requester = true ↔ request.mUsername = s.mUsername ∨ request.mTotalRetries ≠ 0 := by
    simp [TURNSocket.lastTry, hrequest]
  have hgives : GivesUp s requester rejection ↔ ∀ second : Response, second.rejects = true →
      second.mNonce = rejection.mNonce →
        ¬if second.mErrorCode = unauthorized then again.mUsername ≠ s.mUsername else again.mTotalRetries = 0 := by
    unfold GivesUp
    rw [hretried]
    apply forall_congr'
    intro second
    apply imp_congr_right
    intro hrejects
    apply imp_congr_right
    intro _
    rw [requests_iff hknown hnext hkind hrejects, sendsAgain_retried, hrejects]
    split <;> simp
  have hsent : if rejection.mErrorCode = unauthorized then request.mUsername ≠ s.mUsername
      else request.mTotalRetries = 0 := by
    simp only [TURNSocket.sendsAgain, hrequest, Option.any_some, Bool.and_eq_true] at hagain
    by_cases hunauthorized : rejection.mErrorCode = unauthorized <;> simpa [hunauthorized] using hagain.2
  rw [hgives, hlast]
  by_cases hunauthorized : rejection.mErrorCode = unauthorized
  · rw [if_pos hunauthorized] at hsent
    obtain ⟨husername, htotal⟩ := hrenewed.unauthorized hunauthorized
    constructor
    · intro hall
      right
      intro hzero
      apply hall { isErrorResponse := true, mErrorCode := staleNonce, mNonce := rejection.mNonce } rfl rfl
      simp [staleNonce, unauthorized, htotal, hzero]
    · rintro hlast second - - hagain
      have htried : request.mTotalRetries ≠ 0 := hlast.resolve_left hsent
      split at hagain
      · exact hagain husername
      · exact htried (htotal ▸ hagain)
  · rw [if_neg hunauthorized] at hsent
    obtain ⟨husername, htotal⟩ := hrenewed.staleNonce hunauthorized
    constructor
    · intro hall
      left
      by_contra hother
      apply hall { isErrorResponse := true, mErrorCode := unauthorized, mNonce := rejection.mNonce } rfl rfl
      simpa [husername] using hother
    · rintro hlast second - - hagain
      have hcredentials : request.mUsername = s.mUsername := hlast.resolve_right (not_not.mpr hsent)
      split at hagain
      · exact hagain (husername.trans hcredentials)
      · exact absurd (htotal.symm.trans hagain) (Nat.succ_ne_zero _)

end Alike

open TURNSocketRelay.TURNSocket (create take)

/-- In every run a request that is sent again is as good as the first, exactly when it is no refresh request and carried
the credentials or was sent again before; while the relayed address is had every request carries them. -/
theorem retry_alike_iff (range : ChannelRange) (useChannelBinding : Bool) (username password : String)
    (es : List Event) (kind : Kind) (requester : Nat) (rejection : Response)
    (hr : requester ∈ (Runs.run take (create range useChannelBinding username password) es).outstanding kind) :
    let s := Runs.run take (create range useChannelBinding username password) es
    (Alike s kind requester rejection ↔
      (s.sendsAgain requester rejection = true → kind ≠ .refresh ∧ s.lastTry requester = true)) ∧
      (s.mCurrentState = .ready → s.lastTry requester = true) := by
  intro s
  have h : Known s.ledger := run_known range useChannelBinding username password es
  constructor
  · by_cases hagain : s.sendsAgain requester rejection = true
    · simp only [Alike, hagain, true_imp_iff]
      constructor
      · rintro ⟨hresumes, hgives⟩
        have hkind : kind ≠ .refresh := by
          rintro rfl
          exact not_resumes_refresh h hr hagain hresumes
        exact ⟨hkind, (givesUp_iff h hr hkind hagain).mp hgives⟩
      · rintro ⟨hkind, hlast⟩
        exact ⟨resumes h hr hkind hagain, (givesUp_iff h hr hkind hagain).mpr hlast⟩
    · simp [Alike, hagain]
  · intro hready
    obtain ⟨request, hrequest, hasked⟩ := h.asked kind requester hr
    have hkind : kind ≠ .allocate := by
      rintro rfl
      have hservers : s.mServers = [] := h.ready hready
      simp [s, TURNSocket.outstanding, hservers] at hr
    have hsent : s.requests[requester]? = some request := hrequest
    have husername : request.mUsername = s.mUsername := hasked.credentials hkind
    simp [TURNSocket.lastTry, hsent, husername]

/-- A server accepts the allocation; a permission is asked for, and then the allocation is to be refreshed. -/
def asksTwice : TURNSocket :=
  Runs.run take (create ⟨0x4000, 0x4FFF, by decide⟩ true "user" "password")
    [.prepareServers [{ mIsUDP := true, mServerIP := ⟨1, 3478⟩, mActivateAfter := 0 }], .activateServer 0,
      .handleSTUNRequesterResponse 0 { isValidMessageIntegrity := true, mRelayedAddress := ⟨2, 50000⟩ },
      .sendPacket ⟨3, 4000⟩ 1 false (fun _ => 0) 0, .onWake 0, .refreshTimer]

def isStale : Response := { isErrorResponse := true, mErrorCode := staleNonce, mRealm := "realm", mNonce := "nonce" }

theorem permission_alike : Alike asksTwice .createPermission 1 isStale :=
  (retry_alike_iff _ _ _ _ _ .createPermission 1 isStale (by decide +kernel)).1.mpr
    fun _ => ⟨by decide, by decide +kernel⟩

/-- A refresh request that is answered with another nonce is sent again, and the session is given up. -/
theorem refresh_not_alike : asksTwice.mCurrentState = .ready ∧ ¬Alike asksTwice .refresh 2 isStale := by
  refine ⟨by decide +kernel, fun halike => ?_⟩
  have hagain : asksTwice.sendsAgain 2 isStale = true := by decide +kernel
  have hcancelled : (asksTwice.handleSTUNRequesterResponse 2 isStale).mCurrentState ≠ asksTwice.mCurrentState := by
    decide +kernel
  exact hcancelled (halike hagain).1.state

end OpenPeer.TURNSocketRelay
