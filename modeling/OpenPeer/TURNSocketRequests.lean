import OpenPeer.Runs
import OpenPeer.TURNSocketRelay

/-!
# The requests a TURN socket waits for

Each requester that a TURN socket waits for was created for one purpose, which its request
shows. A response is therefore for one purpose at most, and a requester that is created anew
is not yet waited for. While a relayed address is had no server is asked for another one.
-/
namespace OpenPeer.TURNSocketRelay

open ICESocket (TURNSocketStates)
open TURNSocketServers (Server)
open TURNSocketRelay.TURNSocket

/-- What a request is for. -/
inductive Kind where
  | allocate
  | refresh
  | createPermission
  | channelBind (channel : Nat)
  | deallocate
  deriving DecidableEq

/-- To give up the relayed address is to refresh it for no time. -/
def Request.isFor (request : Request) : Kind → Bool
  | .allocate => request.mMethod = .allocate
  | .refresh => request.mMethod = .refresh ∧ request.mLifetime = none
  | .createPermission => request.mMethod = .createPermission
  | .channelBind _ => request.mMethod = .channelBind
  | .deallocate => request.mMethod = .refresh ∧ request.mLifetime = some 0

/-- The requesters that are waited for. -/
def TURNSocket.outstanding (s : TURNSocket) : Kind → List Nat
  | .allocate => s.mServers.filterMap Server.mAllocateRequester
  | .refresh => s.mRefreshRequester.toList
  | .createPermission => s.mPermissionRequester.toList
  | .channelBind i => if i ∈ s.boundChannels then (s.infos i).mChannelBindRequester.toList else []
  | .deallocate => s.mDeallocateRequester.toList

/-- What concerns requests. -/
structure Ledger where
  username : String
  state : TURNSocketStates
  servers : List Server
  requests : List Request
  outstanding : Kind → List Nat
  installing : List Pointer

def TURNSocket.ledger (s : TURNSocket) : Ledger where
  username := s.mUsername
  state := s.mCurrentState
  servers := s.mServers
  requests := s.requests
  outstanding := s.outstanding
  installing := s.mPermissions.map Permission.mInstallingWithRequester

/-- All but the first requests carry the credentials, and a relayed address is refreshed only while it is had. -/
structure Asked (l : Ledger) (kind : Kind) (request : Request) : Prop where
  isFor : request.isFor kind = true
  credentials : kind ≠ .allocate → request.mUsername = l.username
  ready : kind = .refresh → l.state = .ready

structure Known (l : Ledger) : Prop where
  asked : ∀ kind, ∀ r ∈ l.outstanding kind, ∃ request, l.requests[r]? = some request ∧ Asked l kind request
  alone : ∀ i j r, r ∈ l.outstanding (.channelBind i) → r ∈ l.outstanding (.channelBind j) → i = j
  installing : ∀ r, some r ∈ l.installing → r < l.requests.length
  ready : l.state = .ready → l.servers = []

section Keeping

variable {l l' : Ledger}

variable {kind : Kind} {r : Nat}

theorem Known.lt (h : Known l) (hr : r ∈ l.outstanding kind) : r < l.requests.length := by
  obtain ⟨request, hrequest, -⟩ := h.asked kind r hr
  exact (List.getElem?_eq_some_iff.mp hrequest).1

theorem Known.kind_unique (h : Known l) {kind' : Kind} (hr : r ∈ l.outstanding kind)
    (hr' : r ∈ l.outstanding kind') : kind = kind' := by
  obtain ⟨request, hrequest, hasked⟩ := h.asked kind r hr
  obtain ⟨request', hrequest', hasked'⟩ := h.asked kind' r hr'
  obtain rfl := Option.some.inj (hrequest.symm.trans hrequest')
  have hfor := hasked.isFor
  have hfor' := hasked'.isFor
  cases kind with
  | channelBind i =>
    cases kind' with
    | channelBind j => rw [h.alone i j r hr hr']
    | _ => simp_all [Request.isFor]
  | _ => cases kind' <;> simp_all [Request.isFor]

/-- Nothing new is waited for. -/
structure Fewer (l l' : Ledger) : Prop where
  username : l'.username = l.username
  requests : l.requests <+: l'.requests
  outstanding : ∀ kind, l'.outstanding kind ⊆ l.outstanding kind
  installing : ∀ r, some r ∈ l'.installing → some r ∈ l.installing
  state : l'.state = l.state ∧ (l.state = .ready → l.servers = [] → l'.servers = []) ∨
    l'.outstanding .refresh = [] ∧ l'.servers = []

theorem Fewer.refl (l : Ledger) : Fewer l l where
  username := rfl
  requests := List.prefix_refl _
  outstanding _ := List.Subset.refl _
  installing _ hr := hr
  state := .inl ⟨rfl, fun _ hempty => hempty⟩

variable {outstanding : Kind → List Nat}

theorem Fewer.of_outstanding (h : ∀ kind, outstanding kind ⊆ l.outstanding kind) :
    Fewer l { l with outstanding := outstanding } :=
  ⟨rfl, List.prefix_refl _, h, fun _ hr => hr, .inl ⟨rfl, fun _ hempty => hempty⟩⟩

theorem Fewer.of_installing {installing : List Pointer} (h : ∀ r, some r ∈ installing → some r ∈ l.installing) :
    Fewer l { l with installing := installing } :=
  ⟨rfl, List.prefix_refl _, fun _ => List.Subset.refl _, h, .inl ⟨rfl, fun _ hempty => hempty⟩⟩

theorem Known.fewer (h : Known l) (hfewer : Fewer l l') : Known l' where
  asked := by
    intro kind r hr
    obtain ⟨request, hrequest, hasked⟩ := h.asked kind r (hfewer.outstanding kind hr)
    refine ⟨request, ?_, hasked.isFor, fun hne => (hasked.credentials hne).trans hfewer.username.symm, ?_⟩
    · obtain ⟨more, hmore⟩ := hfewer.requests
      rw [← hmore, List.getElem?_append_left (List.getElem?_eq_some_iff.mp hrequest).1]
      exact hrequest
    · rintro rfl
      obtain ⟨hsame, -⟩ | ⟨hnone, -⟩ := hfewer.state
      · exact hsame.trans (hasked.ready rfl)
      · rw [hnone] at hr
        cases hr
  alone := by
    intro i j r hi hj
    exact h.alone i j r (hfewer.outstanding _ hi) (hfewer.outstanding _ hj)
  installing := by
    intro r hr
    exact Nat.lt_of_lt_of_le (h.installing r (hfewer.installing r hr)) hfewer.requests.length_le
  ready := by
    intro hready
    obtain ⟨hsame, hempty⟩ | ⟨-, hempty⟩ := hfewer.state
    · have hbefore : l.state = .ready := hsame.symm.trans hready
      exact hempty hbefore (h.ready hbefore)
    · exact hempty

/-- A new request is waited for. -/
structure Asks (l l' : Ledger) (kind : Kind) (request : Request) : Prop where
  username : l'.username = l.username
  requests : l'.requests = l.requests ++ [request]
  outstanding : ∀ kind', ∀ r ∈ l'.outstanding kind', r ∈ l.outstanding kind' ∨ (r = l.requests.length ∧ kind' = kind)
  installing : ∀ r, some r ∈ l'.installing → some r ∈ l.installing ∨ r = l.requests.length
  state : l'.state = l.state
  servers : l.state = .ready → l.servers = [] → l'.servers = []
  asked : Asked l' kind request

variable {request : Request}

theorem Asks.of_outstanding (hasked : Asked l kind request)
    (h : ∀ kind', ∀ r ∈ outstanding kind', r ∈ l.outstanding kind' ∨ (r = l.requests.length ∧ kind' = kind)) :
    Asks l { l with requests := l.requests ++ [request], outstanding := outstanding } kind request :=
  ⟨rfl, rfl, h, fun _ hr => .inl hr, rfl, fun _ hempty => hempty, hasked.isFor, hasked.credentials, hasked.ready⟩

theorem Known.asks (h : Known l) (hasks : Asks l l' kind request) : Known l' where
  asked := by
    intro kind' r hr
    obtain hold | ⟨rfl, rfl⟩ := hasks.outstanding kind' r hr
    · obtain ⟨request, hrequest, hasked⟩ := h.asked kind' r hold
      refine ⟨request, ?_, hasked.isFor, fun hne => (hasked.credentials hne).trans hasks.username.symm,
        fun hrefresh => hasks.state.trans (hasked.ready hrefresh)⟩
      rw [hasks.requests, List.getElem?_append_left (List.getElem?_eq_some_iff.mp hrequest).1]
      exact hrequest
    · refine ⟨request, ?_, hasks.asked⟩
      simp [hasks.requests]
  alone := by
    intro i j r hi hj
    obtain hold | ⟨rfl, rfl⟩ := hasks.outstanding _ r hi <;>
      obtain hold' | ⟨hnew', hkind'⟩ := hasks.outstanding _ _ hj
    · exact h.alone i j r hold hold'
    · exact absurd (h.lt hold) (hnew' ▸ Nat.lt_irrefl _)
    · exact absurd (h.lt hold') (Nat.lt_irrefl _)
    · exact Kind.channelBind.inj hkind'.symm
  installing := by
    intro r hr
    rw [hasks.requests, List.length_append, List.length_singleton]
    obtain hold | rfl := hasks.installing r hr
    · exact Nat.lt_succ_of_lt (h.installing r hold)
    · exact Nat.lt_succ_self _
  ready := by
    intro hready
    have hbefore : l.state = .ready := hasks.state.symm.trans hready
    exact hasks.servers hbefore (h.ready hbefore)

end Keeping

section Again

variable {s : TURNSocket} {requester : Nat} {response : Response}

/-- The response asks for credentials, or for another nonce. -/
def Response.rejects (response : Response) : Bool :=
  response.isErrorResponse && (response.mErrorCode = unauthorized || response.mErrorCode = staleNonce)

/-- A request is sent again with credentials when it had none, and once with another nonce. -/
def TURNSocket.sendsAgain (s : TURNSocket) (requester : Nat) (response : Response) : Bool :=
  response.rejects && s.requests[requester]?.any fun request =>
    if response.mErrorCode = unauthorized then request.mUsername ≠ s.mUsername else request.mTotalRetries = 0

/-- The request that is sent again, with the realm that is known by then. -/
structure Renewed (s : TURNSocket) (response : Response) (realm : String) (request again : Request) : Prop where
  mMethod : again.mMethod = request.mMethod
  mLifetime : again.mLifetime = request.mLifetime
  mNonce : again.mNonce = response.mNonce
  mRealm : again.mRealm = realm
  realm : response.mRealm ≠ "" → realm = response.mRealm
  unauthorized : response.mErrorCode = unauthorized → again.mUsername = s.mUsername ∧
    again.mTotalRetries = request.mTotalRetries
  staleNonce : response.mErrorCode ≠ TURNSocketRelay.unauthorized → again.mUsername = request.mUsername ∧
    again.mTotalRetries = request.mTotalRetries + 1

theorem handleAuthorizationErrors_again (h : s.sendsAgain requester response = true) :
    ∃ realm request again, s.requests[requester]? = some request ∧ Renewed s response realm request again ∧
      s.handleAuthorizationErrors requester response =
        (some s.next, TURNSocket.request { s with mRealm := realm, mNonce := response.mNonce } again) := by
  unfold TURNSocket.sendsAgain at h
  obtain ⟨hrejects, hagain⟩ := Bool.and_eq_true_iff.mp h
  simp only [Response.rejects, Bool.and_eq_true, Bool.or_eq_true, decide_eq_true_eq] at hrejects
  cases hrequest : s.requests[requester]? with
  | none => simp [hrequest] at hagain
  | some request =>
    rw [hrequest, Option.any_some] at hagain
    have hskip : ¬(response.mErrorCode = 0 || !response.isErrorResponse) = true := by
      obtain hcode | hcode := hrejects.2 <;> simp [hrejects.1, hcode, unauthorized, staleNonce]
    unfold handleAuthorizationErrors
    rw [if_neg hskip, hrequest]
    by_cases hunauthorized : response.mErrorCode = unauthorized
    · have hother : request.mUsername ≠ s.mUsername := by simpa [hunauthorized] using hagain
      simp only [hunauthorized, if_true, if_neg hother]
      refine ⟨response.mRealm, request, _, rfl, ?_, rfl⟩
      exact ⟨rfl, rfl, rfl, rfl, fun _ => rfl, fun _ => ⟨rfl, rfl⟩, fun hnot => absurd hunauthorized hnot⟩
    · have hfirst : request.mTotalRetries = 0 := by simpa [hunauthorized] using hagain
      have hstale : response.mErrorCode = staleNonce := hrejects.2.resolve_left hunauthorized
      have hagain : ¬0 < request.mTotalRetries := by simp [hfirst]
      simp only [if_neg hunauthorized, if_pos hstale, if_neg hagain]
      refine ⟨_, request, _, rfl, ?_, rfl⟩
      exact ⟨rfl, rfl, rfl, rfl, fun hrealm => if_neg hrealm, fun hnot => absurd hnot hunauthorized,
        fun _ => ⟨rfl, rfl⟩⟩

theorem handleAuthorizationErrors_not (h : s.sendsAgain requester response = false) :
    s.handleAuthorizationErrors requester response = (none, s) := by
  unfold handleAuthorizationErrors
  split
  · rfl
  case isFalse herror =>
    cases hrequest : s.requests[requester]? with
    | none => rfl
    | some request =>
      simp only [TURNSocket.sendsAgain, Response.rejects, hrequest, Option.any_some] at h
      simp only [Bool.or_eq_true, decide_eq_true_eq, Bool.not_eq_true', not_or, Bool.not_eq_false] at herror
      by_cases hunauthorized : response.mErrorCode = unauthorized
      · have hsame : request.mUsername = s.mUsername := by simpa [herror.2, hunauthorized] using h
        simp [hunauthorized, hsame]
      · by_cases hstale : response.mErrorCode = staleNonce
        · have htried : request.mTotalRetries ≠ 0 := by
            simpa [herror.2, hunauthorized, hstale, staleNonce, unauthorized] using h
          simp only [if_neg hunauthorized, if_pos hstale, if_pos (Nat.pos_of_ne_zero htried)]
        · simp [hunauthorized, hstale]

end Again

section Steps

variable {s : TURNSocket}

theorem complete_fewer (s : TURNSocket) (requester : Nat) : Fewer s.ledger (s.complete requester).ledger := by
  unfold complete
  split
  · apply Fewer.of_outstanding
    intro kind
    cases kind with
    | deallocate => exact List.nil_subset _
    | _ => exact List.Subset.refl _
  · exact Fewer.refl _

theorem retain_fewer (s : TURNSocket) {kept : List Permission} (hkept : kept ⊆ s.mPermissions) :
    Fewer s.ledger (s.retain kept).ledger := by
  apply Fewer.of_installing
  intro r hr
  exact List.map_subset _ hkept hr

theorem install_fewer (s : TURNSocket) (requester : Nat) : Fewer s.ledger (s.install requester).ledger := by
  apply Fewer.of_installing
  intro r hr
  obtain ⟨permission, hmem, hr⟩ := List.mem_map.mp hr
  obtain ⟨old, hold, rfl⟩ := List.mem_map.mp hmem
  split at hr
  · cases hr
  · exact hr ▸ List.mem_map_of_mem hold

variable {requester r : Nat}

variable {other : Pointer}

theorem mem_installing_reinstall (hr : some r ∈ (s.reinstall requester other).ledger.installing) :
    some r ∈ s.ledger.installing ∨ some r = other := by
  obtain ⟨permission, hmem, hr⟩ := List.mem_map.mp hr
  obtain ⟨old, hold, rfl⟩ := List.mem_map.mp hmem
  split at hr
  · exact .inr hr.symm
  · exact .inl (hr ▸ List.mem_map_of_mem hold)

theorem forgetPermission_fewer (s : TURNSocket) :
    Fewer s.ledger (TURNSocket.ledger { s with mPermissionRequester := none }) := by
  apply Fewer.of_outstanding
  intro kind
  cases kind with
  | createPermission => exact List.nil_subset _
  | _ => exact List.Subset.refl _

theorem requestPermissions_asks (s : TURNSocket) : Asks s.ledger s.requestPermissions.ledger .createPermission
    (s.authorized
      { mMethod := .createPermission, mPeerAddressList := s.mPermissions.map Permission.mPeerAddress }) where
  username := rfl
  requests := rfl
  outstanding kind r hr := by
    cases kind with
    | createPermission => exact .inr ⟨List.mem_singleton.mp hr, rfl⟩
    | _ => exact .inl hr
  installing r hr := by
    obtain ⟨permission, hmem, hr⟩ := List.mem_map.mp hr
    obtain ⟨old, hold, rfl⟩ := List.mem_map.mp hmem
    split at hr
    · exact .inl (hr ▸ List.mem_map_of_mem hold)
    · exact .inr (Option.some.inj hr).symm
  state := rfl
  servers _ hempty := hempty
  asked :=
    { isFor := rfl
      credentials _ := rfl
      ready hrefresh := by cases hrefresh }

theorem requestPermissionsNow_known (h : Known s.ledger) (now : Nat) : Known (s.requestPermissionsNow now).ledger := by
  have hforgotten := h.fewer (forgetPermission_fewer s)
  unfold requestPermissionsNow
  split
  · exact hforgotten.fewer (retain_fewer _ (List.nil_subset _))
  · have hkept : trim now s.mPermissionRequesterMaxCapacity (s.recent now).length (s.recent now) ⊆
        s.mPermissions := (trim_sublist.trans List.filter_sublist).subset
    exact (hforgotten.fewer (retain_fewer _ hkept)).asks (requestPermissions_asks _)

theorem reinstall_fewer (s : TURNSocket) (requester : Nat) : Fewer s.ledger (s.reinstall requester none).ledger := by
  apply Fewer.of_installing
  intro r hr
  exact (mem_installing_reinstall hr).resolve_right (Option.some_ne_none r)

variable {kind : Kind} {request : Request}

variable {again : Request} {response : Response} {realm : String}

theorem Asked.renewed (h : Asked s.ledger kind request) (hrenewed : Renewed s response realm request again) :
    Asked s.ledger kind again where
  isFor := by
    have hfor := h.isFor
    cases kind <;> simpa [Request.isFor, hrenewed.mMethod, hrenewed.mLifetime] using hfor
  credentials := by
    intro hne
    by_cases hunauthorized : response.mErrorCode = unauthorized
    · exact (hrenewed.unauthorized hunauthorized).1
    · exact (hrenewed.staleNonce hunauthorized).1.trans (h.credentials hne)
  ready := h.ready

theorem Known.asked_again (h : Known s.ledger) (hr : requester ∈ s.outstanding kind)
    (hrequest : s.requests[requester]? = some request) (hrenewed : Renewed s response realm request again) :
    Asked s.ledger kind again := by
  obtain ⟨request', hrequest', hasked⟩ := h.asked kind requester hr
  obtain rfl := Option.some.inj (hrequest.symm.trans hrequest')
  exact hasked.renewed hrenewed

/-- A response either lets the request be sent again, still for its purpose, or is none of authorization. -/
theorem Known.handled (h : Known s.ledger) (hr : requester ∈ s.outstanding kind) (response : Response) :
    (∃ realm again, Asked s.ledger kind again ∧ s.handleAuthorizationErrors requester response =
      (some s.next, TURNSocket.request { s with mRealm := realm, mNonce := response.mNonce } again)) ∨
      s.handleAuthorizationErrors requester response = (none, s) := by
  cases hagain : s.sendsAgain requester response with
  | true =>
    obtain ⟨realm, request, again, hrequest, hrenewed, heq⟩ := handleAuthorizationErrors_again hagain
    exact .inl ⟨realm, again, h.asked_again hr hrequest hrenewed, heq⟩
  | false => exact .inr (handleAuthorizationErrors_not hagain)

theorem permission_asks (s : TURNSocket) (realm nonce : String) (requester : Nat)
    (hasked : Asked s.ledger .createPermission request) :
    Asks s.ledger (TURNSocket.ledger (TURNSocket.reinstall
      { TURNSocket.request { s with mRealm := realm, mNonce := nonce } request with
        mPermissionRequester := some s.next }
      requester (some s.next))) .createPermission request where
  username := rfl
  requests := rfl
  outstanding kind r hr := by
    cases kind with
    | createPermission => exact .inr ⟨List.mem_singleton.mp hr, rfl⟩
    | _ => exact .inl hr
  installing r hr := (mem_installing_reinstall hr).imp id fun hnew => Option.some.inj hnew
  state := rfl
  servers _ hempty := hempty
  asked := { hasked with }

theorem handlePermissionRequester_known (h : Known s.ledger) (requester : Nat) (response : Response) :
    Known (s.handlePermissionRequester requester response).1.ledger := by
  unfold handlePermissionRequester
  by_cases hrequester : s.mPermissionRequester = some requester
  · have hr : requester ∈ s.outstanding .createPermission := by simp [TURNSocket.outstanding, hrequester]
    rw [if_neg (not_not.mpr hrequester)]
    obtain ⟨realm, again, hasked, heq⟩ | heq := h.handled hr response
    · rw [heq]
      exact h.asks (permission_asks s realm response.mNonce requester hasked)
    · have hforgotten := h.fewer (forgetPermission_fewer s)
      simp only [heq, Option.isSome_none, Bool.false_eq_true, if_false]
      split
      · split <;> exact hforgotten.fewer (reinstall_fewer _ requester)
      split
      · exact hforgotten
      · exact hforgotten.fewer (install_fewer _ requester)
  · rw [if_pos hrequester]
    exact h

variable {i : Nat}

@[simp] theorem mem_outstanding_channelBind :
    r ∈ s.outstanding (.channelBind i) ↔ i ∈ s.boundChannels ∧ (s.infos i).mChannelBindRequester = some r := by
  by_cases hbound : i ∈ s.boundChannels <;> simp [TURNSocket.outstanding, hbound]

variable {info : ChannelInfo}

theorem mem_outstanding_channel (hr : r ∈ (s.channel i info).outstanding kind) :
    (r ∈ s.outstanding kind ∧ kind ≠ .channelBind i) ∨
      (kind = .channelBind i ∧ i ∈ s.boundChannels ∧ info.mChannelBindRequester = some r) := by
  cases kind with
  | channelBind j =>
    obtain ⟨hbound, hbind⟩ := mem_outstanding_channelBind.mp hr
    by_cases hsame : j = i
    · subst hsame
      rw [s.channel_self] at hbind
      exact .inr ⟨rfl, hbound, hbind⟩
    · rw [s.channel_of_ne hsame] at hbind
      exact .inl ⟨mem_outstanding_channelBind.mpr ⟨hbound, hbind⟩, by simp [hsame]⟩
  | _ => exact .inl ⟨hr, by simp⟩

theorem channel_fewer (s : TURNSocket) (i : Nat)
    (h : info.mChannelBindRequester = none ∨ info.mChannelBindRequester = (s.infos i).mChannelBindRequester) :
    Fewer s.ledger (s.channel i info).ledger := by
  apply Fewer.of_outstanding
  intro kind r hr
  obtain ⟨hold, -⟩ | ⟨rfl, hbound, hbind⟩ := mem_outstanding_channel hr
  · exact hold
  · obtain hnone | hsame := h
    · rw [hnone] at hbind
      cases hbind
    · exact mem_outstanding_channelBind.mpr ⟨hbound, hsame ▸ hbind⟩

/-- The tables of the channels change, but no channel that is in them has a requester that it had not. -/
theorem tables_fewer (s : TURNSocket) (infos : Nat → ChannelInfo) (numbers : AList fun _ : Nat => Nat)
    (peers : AList fun _ : ICESocket.IPAddress => Nat) (channels : Nat)
    (h : ∀ i r n, numbers.lookup n = some i → (infos i).mChannelBindRequester = some r →
      i ∈ s.boundChannels ∧ (s.infos i).mChannelBindRequester = some r) :
    Fewer s.ledger (TURNSocket.ledger
      { s with infos := infos, mChannelNumberMap := numbers, mChannelIPMap := peers, channels := channels }) := by
  apply Fewer.of_outstanding
  intro kind r hr
  cases kind with
  | channelBind i =>
    obtain ⟨hin, hbind⟩ := mem_outstanding_channelBind.mp hr
    obtain ⟨n, hn⟩ := mem_boundChannels.mp hin
    exact mem_outstanding_channelBind.mpr (h i r n hn hbind)
  | _ => exact hr

theorem addChannel_fewer (s : TURNSocket) (destination : ICESocket.IPAddress) (number now : Nat) :
    Fewer s.ledger (s.addChannel destination number now).ledger := by
  apply tables_fewer
  intro i r n hn hbind
  by_cases hnew : i = s.channels
  · simp [hnew] at hbind
  · have hne : n ≠ number := by
      rintro rfl
      rw [AList.lookup_insert] at hn
      exact hnew (Option.some.inj hn).symm
    rw [s.channel_of_ne hnew] at hbind
    exact ⟨mem_boundChannels.mpr ⟨n, (AList.lookup_insert_ne hne).symm.trans hn⟩, hbind⟩

theorem bindChannel_fewer (s : TURNSocket) (destination : ICESocket.IPAddress) (draws : Nat → Nat) (now : Nat) :
    Fewer s.ledger (s.bindChannel destination draws now).ledger := by
  unfold bindChannel
  split
  · exact Fewer.refl _
  · split
    · exact addChannel_fewer s destination _ now
    · exact Fewer.refl _

theorem removeChannel_fewer (s : TURNSocket) (i : Nat) : Fewer s.ledger (s.removeChannel i).ledger := by
  apply tables_fewer
  intro j r n hn hbind
  have hne : j ≠ i := by
    rintro rfl
    simp at hbind
  rw [s.channel_of_ne hne] at hbind
  refine ⟨mem_boundChannels.mpr ⟨n, ?_⟩, hbind⟩
  by_cases herased : n = (s.infos i).mChannelNumber
  · rw [herased, AList.lookup_erase] at hn
    cases hn
  · rwa [AList.lookup_erase_ne herased] at hn

theorem removeChannels_known (h : Known s.ledger) (is : List Nat) :
    Known (is.foldl removeChannel s).ledger := by
  induction is generalizing s with
  | nil => exact h
  | cons i is ih => exact ih (h.fewer (removeChannel_fewer s i))

theorem refreshChannels_known (h : Known s.ledger) (now : Nat) : Known (s.refreshChannels now).ledger := by
  apply (removeChannels_known h _).fewer
  apply tables_fewer
  intro i r n hn hbind
  refine ⟨mem_boundChannels.mpr ⟨n, hn⟩, ?_⟩
  split at hbind <;> exact hbind

theorem withBindRequester_some (h : s.withBindRequester requester = some i) :
    requester ∈ s.outstanding (.channelBind i) := by
  have hbind := List.find?_some h
  exact mem_outstanding_channelBind.mpr ⟨List.mem_of_find?_eq_some h, by simpa using hbind⟩

theorem channel_asks (s : TURNSocket) (realm nonce : String) (i : Nat)
    (hinfo : info.mChannelBindRequester = some s.next) (hasked : Asked s.ledger (.channelBind i) request) :
    Asks s.ledger (TURNSocket.ledger
      (TURNSocket.channel (TURNSocket.request { s with mRealm := realm, mNonce := nonce } request) i info))
      (.channelBind i) request := by
  apply Asks.of_outstanding hasked
  intro kind r hr
  obtain ⟨hold, -⟩ | ⟨hkind, -, hbind⟩ := mem_outstanding_channel hr
  · left
    cases kind <;> exact hold
  · exact .inr ⟨(Option.some.inj (hinfo.symm.trans hbind)).symm, hkind⟩

theorem handleChannelRequester_known (h : Known s.ledger) (requester : Nat) (response : Response) :
    Known (s.handleChannelRequester requester response).1.ledger := by
  unfold TURNSocket.handleChannelRequester
  cases hfound : s.withBindRequester requester with
  | none => exact h
  | some i =>
    have hr := withBindRequester_some hfound
    obtain ⟨realm, again, hasked, heq⟩ | heq := h.handled hr response
    · simp only [heq, Option.isSome_some, if_true]
      exact h.asks (channel_asks s realm response.mNonce i rfl hasked)
    · let info : ChannelInfo := { s.infos i with mChannelBindRequester := none }
      have hnone : info.mChannelBindRequester = none := rfl
      have hforgotten := h.fewer (channel_fewer s i (.inl hnone))
      simp only [heq, Option.isSome_none, Bool.false_eq_true, if_false]
      split
      · apply hforgotten.fewer
        apply channel_fewer
        right
        rfl
      split
      · exact hforgotten
      · apply hforgotten.fewer
        apply channel_fewer
        right
        rfl

theorem channelTimer_known (h : Known s.ledger) (i : Nat) : Known (s.channelTimer i).ledger := by
  unfold channelTimer
  split
  · exact h
  split
  · exact h
  · apply h.asks (channel_asks s s.mRealm s.mNonce i rfl _)
    exact ⟨rfl, fun _ => rfl, fun hrefresh => by cases hrefresh⟩

/-- Everything is given up, but for the relayed address. -/
theorem cleared_fewer (s : TURNSocket) (infos : Nat → ChannelInfo) :
    Fewer s.ledger (TURNSocket.ledger
      { s.retain [] with
        mCurrentState := .shuttingDown
        mServers := []
        mRefreshRequester := none
        mPermissionRequester := none
        mChannelIPMap := ∅
        mChannelNumberMap := ∅
        infos := infos }) := by
  refine ⟨rfl, List.prefix_refl _, ?_, ?_, .inr ⟨rfl, rfl⟩⟩
  · intro kind r hr
    cases kind with
    | channelBind i => simp [TURNSocket.ledger, TURNSocket.outstanding, boundChannels] at hr
    | deallocate => exact hr
    | _ => cases hr
  · intro r hr
    cases hr

theorem deallocate_asks (s : TURNSocket) (realm nonce : String)
    (hasked : Asked s.ledger .deallocate request) :
    Asks s.ledger (TURNSocket.ledger
      { TURNSocket.request { s with mRealm := realm, mNonce := nonce } request with
        mDeallocateRequester := some s.next }) .deallocate request := by
  apply Asks.of_outstanding hasked
  intro kind r hr
  cases kind with
  | deallocate => exact .inr ⟨List.mem_singleton.mp hr, rfl⟩
  | _ => exact .inl hr

theorem closed_fewer {s : TURNSocket} (hrefresh : s.mRefreshRequester = none) (hservers : s.mServers = []) :
    Fewer s.ledger (TURNSocket.ledger
      { s with mCurrentState := .shutdown, mActiveServer := none, mRelayedIP := {} }) := by
  refine ⟨rfl, List.prefix_refl _, fun _ => List.Subset.refl _, fun _ hr => hr, .inr ⟨?_, hservers⟩⟩
  simp [TURNSocket.ledger, TURNSocket.outstanding, hrefresh]

theorem cancel_known (h : Known s.ledger) : Known s.cancel.ledger := by
  unfold cancel
  split
  · exact h
  · have hcleared := h.fewer (cleared_fewer s fun i =>
      if i ∈ s.mChannelIPMap.entries.map Sigma.snd then
        { s.infos i with mRefreshTimer := false, mChannelBindRequester := none }
      else s.infos i)
    dsimp only
    split
    · exact hcleared.asks (deallocate_asks _ _ _ ⟨rfl, fun _ => rfl, fun hrefresh => by cases hrefresh⟩)
    · split
      · exact hcleared
      · exact hcleared.fewer (closed_fewer rfl rfl)

theorem step_known (h : Known s.ledger) (now : Nat) : Known (s.step now).ledger := by
  unfold step
  split
  · exact cancel_known h
  split
  · exact h
  · dsimp only
    split
    · exact refreshChannels_known (requestPermissionsNow_known h now) now
    · exact refreshChannels_known h now

theorem mem_outstanding_changeServer (hr : r ∈ (s.changeServer requester other).outstanding .allocate) :
    r ∈ s.outstanding .allocate ∨ other = some r := by
  obtain ⟨server, hserver, hr⟩ := List.mem_filterMap.mp hr
  obtain ⟨old, hold, rfl⟩ := List.mem_map.mp hserver
  split at hr
  · exact .inr hr
  · exact .inl (List.mem_filterMap.mpr ⟨old, hold, hr⟩)

theorem changeServer_fewer (s : TURNSocket) (requester : Nat) :
    Fewer s.ledger (s.changeServer requester none).ledger := by
  refine ⟨rfl, List.prefix_refl _, ?_, fun _ hr => hr, .inl ⟨rfl, fun _ hempty => List.map_eq_nil_iff.mpr hempty⟩⟩
  intro kind r hr
  cases kind with
  | allocate => exact (mem_outstanding_changeServer hr).resolve_right (by simp)
  | _ => exact hr

theorem changeServer_asks (s : TURNSocket) (realm nonce : String) (requester : Nat)
    (hasked : Asked s.ledger .allocate request) :
    Asks s.ledger (TURNSocket.ledger (changeServer
      (TURNSocket.request { s with mRealm := realm, mNonce := nonce } request) requester (some s.next)))
      .allocate request where
  username := rfl
  requests := rfl
  outstanding kind r hr := by
    cases kind with
    | allocate => exact (mem_outstanding_changeServer hr).imp id fun hnew => ⟨(Option.some.inj hnew).symm, rfl⟩
    | _ => exact .inl hr
  installing _ hr := .inl hr
  state := rfl
  servers _ hempty := List.map_eq_nil_iff.mpr hempty
  asked := { hasked with }

theorem eraseServers_fewer (s : TURNSocket) {servers : List Server} (h : servers.Sublist s.mServers) :
    Fewer s.ledger (TURNSocket.ledger { s with mServers := servers }) := by
  refine ⟨rfl, List.prefix_refl _, ?_, fun _ hr => hr, .inl ⟨rfl, ?_⟩⟩
  · intro kind r hr
    cases kind with
    | allocate => exact (h.filterMap _).subset hr
    | _ => exact hr
  · intro _ hempty
    have hnil : s.mServers = [] := hempty
    rw [hnil] at h
    exact List.sublist_nil.mp h

theorem allocated_fewer (h : Known s.ledger) (hservers : s.mServers ≠ []) (lifetime : Nat) (relayed : ICESocket.IPAddress)
    (active : Server) :
    Fewer s.ledger (TURNSocket.ledger
      { s with
        mCurrentState := .ready
        mLifetime := lifetime
        mRelayedIP := relayed
        mActiveServer := some active
        mServers := [] }) := by
  refine ⟨rfl, List.prefix_refl _, ?_, fun _ hr => hr, .inr ⟨?_, rfl⟩⟩
  · intro kind r hr
    cases kind with
    | allocate => cases hr
    | _ => exact hr
  · change s.mRefreshRequester.toList = []
    cases hrefresh : s.mRefreshRequester with
    | none => rfl
    | some r =>
      obtain ⟨request, -, hasked⟩ := h.asked .refresh r (by simp [TURNSocket.ledger, TURNSocket.outstanding, hrefresh])
      exact absurd (h.ready (hasked.ready rfl)) hservers

theorem handleAllocateRequester_known (h : Known s.ledger) (requester : Nat) (response : Response) :
    Known (s.handleAllocateRequester requester response).1.ledger := by
  unfold TURNSocket.handleAllocateRequester
  cases hfound : s.mServers.find? fun server => server.mAllocateRequester = some requester with
  | none => exact h
  | some server =>
    have hr : requester ∈ s.outstanding .allocate := by
      have hserver := List.find?_some hfound
      exact List.mem_filterMap.mpr ⟨server, List.mem_of_find?_eq_some hfound, by simpa using hserver⟩
    obtain ⟨realm, again, hasked, heq⟩ | heq := h.handled hr response
    · simp only [heq, Option.isSome_some, if_true]
      exact h.asks (changeServer_asks s realm response.mNonce requester hasked)
    · simp only [heq, Option.isSome_none, Bool.false_eq_true, if_false]
      split
      · split
        · exact h
        case h_2 request hrequest =>
          obtain ⟨request', hrequest', hasked⟩ := h.asked .allocate requester hr
          obtain rfl := Option.some.inj (hrequest.symm.trans hrequest')
          split
          · exact h.asks (changeServer_asks s s.mRealm s.mNonce requester ⟨hasked.isFor, fun hne => absurd rfl hne,
              fun hrefresh => by cases hrefresh⟩)
          · exact h.fewer (eraseServers_fewer s List.filter_sublist)
      split
      · exact h.fewer (changeServer_fewer s requester)
      · exact h.fewer (allocated_fewer h (List.ne_nil_of_mem (List.mem_of_find?_eq_some hfound)) _ _ _)

theorem refresh_asks (s : TURNSocket) (realm nonce : String) (hasked : Asked s.ledger .refresh request) :
    Asks s.ledger (TURNSocket.ledger
      { TURNSocket.request { s with mRealm := realm, mNonce := nonce } request with
        mRefreshRequester := some s.next }) .refresh request := by
  apply Asks.of_outstanding hasked
  intro kind r hr
  cases kind with
  | refresh => exact .inr ⟨List.mem_singleton.mp hr, rfl⟩
  | _ => exact .inl hr

theorem forgetRefresh_fewer (s : TURNSocket) :
    Fewer s.ledger (TURNSocket.ledger { s with mRefreshRequester := none }) := by
  apply Fewer.of_outstanding
  intro kind
  cases kind with
  | refresh => exact List.nil_subset _
  | _ => exact List.Subset.refl _

section

variable (h : Known s.ledger) (requester : Nat) (response : Response)
include h

theorem handleRefreshRequester_known : Known (s.handleRefreshRequester requester response).1.ledger := by
  unfold handleRefreshRequester
  by_cases hrequester : s.mRefreshRequester = some requester
  · have hr : requester ∈ s.outstanding .refresh := by simp [TURNSocket.outstanding, hrequester]
    rw [if_neg (not_not.mpr hrequester)]
    obtain ⟨realm, again, hasked, heq⟩ | heq := h.handled hr response
    · have hasks := h.asks (refresh_asks s realm response.mNonce hasked)
      rw [heq]
      dsimp only
      split
      · exact cancel_known hasks
      · split <;> exact hasks
    · have hforgotten := h.fewer (forgetRefresh_fewer s)
      rw [heq]
      dsimp only
      split
      · exact cancel_known hforgotten
      · split <;> exact hforgotten
  · rw [if_pos hrequester]
    exact h

theorem handleDeallocRequester_known : Known (s.handleDeallocRequester requester response).1.ledger := by
  unfold handleDeallocRequester
  by_cases hrequester : s.mDeallocateRequester = some requester
  · have hr : requester ∈ s.outstanding .deallocate := by simp [TURNSocket.outstanding, hrequester]
    rw [if_neg (not_not.mpr hrequester)]
    obtain ⟨realm, again, hasked, heq⟩ | heq := h.handled hr response <;> rw [heq]
    · exact h.asks (deallocate_asks s realm response.mNonce hasked)
    · exact h
  · rw [if_pos hrequester]
    exact h

theorem handleSTUNRequesterResponse_known : Known (s.handleSTUNRequesterResponse requester response).ledger := by
  have hallocated := handleAllocateRequester_known h requester response
  have hrefreshed := handleRefreshRequester_known hallocated requester response
  have hdeallocated := handleDeallocRequester_known hrefreshed requester response
  have hbound := handleChannelRequester_known hdeallocated requester response
  have hinstalled := handlePermissionRequester_known hbound requester response
  unfold handleSTUNRequesterResponse
  dsimp only
  split
  · exact hallocated.fewer (complete_fewer _ _)
  split
  · exact hrefreshed.fewer (complete_fewer _ _)
  split
  · exact hdeallocated.fewer (complete_fewer _ _)
  split
  · exact hbound.fewer (complete_fewer _ _)
  · split
    · exact hinstalled.fewer (complete_fewer _ _)
    · exact hinstalled

end

theorem onSTUNRequesterTimedOut_known (h : Known s.ledger) (requester now : Nat) :
    Known (s.onSTUNRequesterTimedOut requester now).ledger := by
  unfold onSTUNRequesterTimedOut
  split
  · exact h
  split
  · exact step_known (h.fewer (eraseServers_fewer s List.filter_sublist)) now
  split
  · exact cancel_known (h.fewer (forgetRefresh_fewer s))
  split
  · apply Known.fewer _ (complete_fewer _ requester)
    apply cancel_known
    exact h
  split
  · apply step_known
    exact (h.fewer (forgetPermission_fewer s)).fewer (reinstall_fewer _ requester)
  · split
    · exact h
    · apply h.fewer
      apply channel_fewer
      exact .inl rfl

theorem changePermission_fewer (s : TURNSocket) (peer : ICESocket.IPAddress) (change : Permission → Permission)
    (h : ∀ permission, (change permission).mInstallingWithRequester = permission.mInstallingWithRequester) :
    Fewer s.ledger (s.changePermission peer change).ledger := by
  apply Fewer.of_installing
  intro r hr
  obtain ⟨permission, hmem, hr⟩ := List.mem_map.mp hr
  obtain ⟨old, hold, rfl⟩ := List.mem_map.mp hmem
  apply List.mem_map.mpr
  refine ⟨old, hold, ?_⟩
  split at hr
  · exact (h old).symm.trans hr
  · exact hr

theorem sendIndication_known (h : Known s.ledger) (packet : Packet) (now : Nat) :
    Known (s.sendIndication packet now).ledger := by
  unfold sendIndication
  split
  · apply h.fewer
    apply Fewer.of_installing
    intro r hr
    simpa [TURNSocket.ledger] using hr
  · split
    · exact h.fewer (changePermission_fewer s packet.peer _ fun _ => rfl)
    · exact h.fewer (changePermission_fewer s packet.peer _ fun _ => rfl)

theorem sendPacket_known (h : Known s.ledger) (destination : ICESocket.IPAddress) (length : Nat) (bindChannelIfPossible : Bool)
    (draws : Nat → Nat) (now : Nat) :
    Known (s.sendPacket destination length bindChannelIfPossible draws now).ledger := by
  unfold sendPacket
  split
  · exact h
  · have hcounted : Known (TURNSocket.ledger { s with packets := s.packets + 1 }) := h
    dsimp only
    split
    · apply hcounted.fewer
      apply channel_fewer
      exact .inr rfl
    · split
      · have hbound := hcounted.fewer (bindChannel_fewer _ destination draws now)
        split
        · exact hbound
        · exact sendIndication_known hbound _ now
      · split
        · exact hcounted
        · exact sendIndication_known hcounted _ now

theorem activateServer_known (h : Known s.ledger) (place : Nat) : Known (s.activateServer place).ledger := by
  unfold activateServer
  split
  · exact h
  · split
    · exact h
    · apply h.asks
      refine ⟨rfl, rfl, ?_, fun _ hr => .inl hr, rfl, ?_, ⟨rfl, fun hne => absurd rfl hne, fun hrefresh => ?_⟩⟩
      · intro kind r hr
        cases kind with
        | allocate =>
          obtain ⟨server, hserver, hr⟩ := List.mem_filterMap.mp hr
          obtain hold | rfl := List.mem_or_eq_of_mem_set hserver
          · exact .inl (List.mem_filterMap.mpr ⟨server, hold, hr⟩)
          · exact .inr ⟨(Option.some.inj hr).symm, rfl⟩
        | _ => exact .inl hr
      · intro _ hempty
        have hnil : s.mServers = [] := hempty
        simp [TURNSocket.ledger, hnil]
      · cases hrefresh

theorem take_known (h : Known s.ledger) (e : Event) : Known (s.take e).ledger := by
  unfold take
  split
  · exact h
  cases e with
  | prepareServers servers =>
    dsimp only
    split
    case isTrue hpending =>
      apply h.fewer
      refine ⟨rfl, List.prefix_refl _, ?_, fun _ hr => hr, .inl ⟨rfl, fun hready => ?_⟩⟩
      · intro kind r hr
        cases kind with
        | allocate =>
          obtain ⟨server, hserver, hr⟩ := List.mem_filterMap.mp hr
          obtain ⟨old, -, rfl⟩ := List.mem_map.mp hserver
          cases hr
        | _ => exact hr
      · have hready : s.mCurrentState = .ready := hready
        rw [hpending.1] at hready
        cases hready
    · exact h
  | activateServer place => exact activateServer_known h place
  | eraseServer place => exact h.fewer (eraseServers_fewer s (List.eraseIdx_sublist _ _))
  | onWake now => exact step_known h now
  | sendPacket destination length bindChannelIfPossible draws now =>
    exact sendPacket_known h destination length bindChannelIfPossible draws now
  | handleSTUNRequesterResponse requester response => exact handleSTUNRequesterResponse_known h requester response
  | onSTUNRequesterTimedOut requester now => exact onSTUNRequesterTimedOut_known h requester now
  | refreshTimer =>
    dsimp only
    split
    · exact h
    case isFalse hskip =>
      have hready : s.mCurrentState = .ready := not_not.mp (not_or.mp hskip).1
      exact h.asks (refresh_asks s s.mRealm s.mNonce ⟨rfl, fun _ => rfl, fun _ => hready⟩)
  | permissionTimer now =>
    dsimp only
    split
    · exact h
    · exact step_known (requestPermissionsNow_known h now) now
  | channelTimer channel =>
    dsimp only
    split
    · exact h
    · exact channelTimer_known h channel
  | deallocTimer =>
    dsimp only
    split
    · exact cancel_known h
    · exact h
  | shutdown => exact cancel_known h

end Steps

theorem create_known (range : ChannelRange) (useChannelBinding : Bool) (username password : String) :
    Known (create range useChannelBinding username password).ledger where
  asked kind r hr := by
    cases kind <;> simp [create, TURNSocket.ledger, TURNSocket.outstanding, boundChannels] at hr
  alone i j r hi := by
    simp [create, TURNSocket.ledger, TURNSocket.outstanding, boundChannels] at hi
  installing r hr := by cases hr
  ready hready := by cases hready

theorem run_known (range : ChannelRange) (useChannelBinding : Bool) (username password : String) (es : List Event) :
    Known (Runs.run take (create range useChannelBinding username password) es).ledger :=
  Runs.run_invariant_always (fun s : TURNSocket => Known s.ledger) (fun _ e h => take_known h e) _ es
    (create_known range useChannelBinding username password)

end OpenPeer.TURNSocketRelay
