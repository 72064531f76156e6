import OpenPeer.TURNSocketTries

/-!
# Giving up on the TURN servers

While no server is active, each address is that of a server on the list or of one that failed,
or it is one of UDP that the look-up still has. Addresses of TCP that were left out are not
looked at again, for the list is filled from the look-up of UDP first.
-/
namespace OpenPeer.TURNSocketServers

open Taking TURNSocketServers.TURNSocket

section Accounting

variable {udp tcp : Option SRVResult} {s : TURNSocket}

/-- The results that `step` works with. -/
def available (s : TURNSocket) (isUDP : Bool) : Option SRVResult :=
  if isUDP then s.mTURNUDPSRVResult.or s.mTURNUDPQuery.result else s.mTURNTCPSRVResult.or s.mTURNTCPQuery.result

/-- A server with this transport and address is on the list, or has failed. -/
def Listed (s : TURNSocket) (entry : Bool × ICESocket.IPAddress) : Prop :=
  entry ∈ s.mServers.map Server.entry ∨ entry ∈ s.failed.map Server.entry

/-- Nothing was extracted yet, or only addresses of UDP are not listed. -/
def Accounted (udp tcp : Option SRVResult) (s : TURNSocket) : Prop :=
  (s.mServers = [] ∧ ∀ isUDP, available s isUDP = resultOf udp tcp isUDP) ∨
    ((∀ ip ∈ validAddresses tcp, Listed s (false, ip)) ∧
      ∀ ip ∈ validAddresses udp, Listed s (true, ip) ∨ ip ∈ validAddresses (available s true))

/-- All servers have failed. -/
def AllFailed (udp tcp : Option SRVResult) (s : TURNSocket) : Prop :=
  ∀ isUDP, ∀ ip ∈ validAddresses (resultOf udp tcp isUDP), (isUDP, ip) ∈ s.failed.map Server.entry

/-- What holds of the list in each state of the socket. -/
def Standing (udp tcp : Option SRVResult) (s : TURNSocket) : Prop :=
  match s.mCurrentState with
  | .pending => s.mActiveServer = none ∧ s.mLastError ≠ .failedToConnectToAnyServer ∧ Accounted udp tcp s
  | .ready => s.mActiveServer.isSome = true ∧ s.mLastError ≠ .failedToConnectToAnyServer ∧ s.mServers = []
  | .shuttingDown | .shutdown =>
    s.mServers = [] ∧ (s.mLastError = .failedToConnectToAnyServer → AllFailed udp tcp s)

structure Inv (udp tcp : Option SRVResult) (s : TURNSocket) : Prop where
  tried : ∀ server ∈ s.failed, server.tried = true
  standing : Standing udp tcp s

theorem Inv.triedAll (h : Inv udp tcp s) : TriedAll udp tcp s := by
  intro herror
  have hstanding := h.standing
  have hfailed : s.mServers = [] ∧ AllFailed udp tcp s := by
    unfold Standing at hstanding
    cases hstate : s.mCurrentState <;> simp only [hstate] at hstanding
    case pending => exact absurd herror hstanding.2.1
    case ready => exact absurd herror hstanding.2.1
    all_goals exact ⟨hstanding.1, hstanding.2 herror⟩
  refine ⟨hfailed.1, fun isUDP ip hip => ?_⟩
  obtain ⟨server, hserver, hentry⟩ := List.mem_map.mp (hfailed.2 isUDP ip hip)
  exact ⟨server, hserver, hentry, h.tried server hserver⟩

theorem Inv.of_closed (htried : ∀ server ∈ s.failed, server.tried = true)
    (hstate : s.mCurrentState = .shuttingDown ∨ s.mCurrentState = .shutdown) (hservers : s.mServers = [])
    (hfailed : s.mLastError = .failedToConnectToAnyServer → AllFailed udp tcp s) : Inv udp tcp s := by
  refine ⟨htried, ?_⟩
  unfold Standing
  cases hstate with
  | inl hstate => simpa [hstate] using ⟨hservers, hfailed⟩
  | inr hstate => simpa [hstate] using ⟨hservers, hfailed⟩

/-- A socket that is cancelled has no servers on the list, if it had none when it was shut down before. -/
theorem cancel_inv (htried : ∀ server ∈ s.failed, server.tried = true)
    (hservers : s.isShutdown = true → s.mServers = [])
    (hfailed : s.mLastError = .failedToConnectToAnyServer → AllFailed udp tcp s) : Inv udp tcp s.cancel := by
  unfold TURNSocket.cancel
  by_cases hshutdown : s.isShutdown = true
  · rw [if_pos hshutdown]
    exact .of_closed htried (.inr (of_decide_eq_true hshutdown)) (hservers hshutdown) hfailed
  · rw [if_neg hshutdown]
    by_cases hrelayed : s.mRelayedIP.address ≠ 0
    · rw [if_pos hrelayed]
      exact .of_closed htried (.inl rfl) rfl hfailed
    · rw [if_neg hrelayed]
      exact .of_closed htried (.inr rfl) rfl hfailed

theorem Inv.closed (h : Inv udp tcp s) (hstate : s.mCurrentState = .shuttingDown ∨ s.mCurrentState = .shutdown) :
    s.mServers = [] ∧ (s.mLastError = .failedToConnectToAnyServer → AllFailed udp tcp s) := by
  have hstanding := h.standing
  unfold Standing at hstanding
  cases hstate with
  | inl hstate => simpa [hstate] using hstanding
  | inr hstate => simpa [hstate] using hstanding

theorem Inv.fail (h : Inv udp tcp s) (error : TURNSocketErrors)
    (hfailed : error = .failedToConnectToAnyServer → AllFailed udp tcp s) : Inv udp tcp (s.fail error) := by
  apply cancel_inv
  · exact h.tried
  · exact fun hshutdown => (h.closed (.inr (of_decide_eq_true hshutdown))).1
  · exact hfailed

theorem Inv.cancel (h : Inv udp tcp s) : Inv udp tcp s.cancel := by
  apply cancel_inv
  · exact h.tried
  · exact fun hshutdown => (h.closed (.inr (of_decide_eq_true hshutdown))).1
  · have hstanding := h.standing
    unfold Standing at hstanding
    cases hstate : s.mCurrentState <;> simp only [hstate] at hstanding
    case pending => exact fun herror => absurd herror hstanding.2.1
    case ready => exact fun herror => absurd herror hstanding.2.1
    all_goals exact hstanding.2

theorem Inv.pending_of (h : Inv udp tcp s) (s' : TURNSocket) (hstate : s'.mCurrentState = s.mCurrentState)
    (herror : s'.mLastError = s.mLastError) (hactive : s'.mActiveServer = s.mActiveServer)
    (hempty : s.mServers = [] → s.mCurrentState ≠ .pending → s'.mServers = []) (hfailed : s.failed ⊆ s'.failed)
    (htried : ∀ server ∈ s'.failed, server.tried = true)
    (hpending : s.mCurrentState = .pending → Accounted udp tcp s → Accounted udp tcp s') : Inv udp tcp s' := by
  refine ⟨htried, ?_⟩
  have hstanding := h.standing
  unfold Standing at hstanding ⊢
  rw [hstate, herror, hactive]
  have hall : AllFailed udp tcp s → AllFailed udp tcp s' :=
    fun hall isUDP ip hip => List.map_subset _ hfailed (hall isUDP ip hip)
  cases hcase : s.mCurrentState <;> simp only [hcase] at hstanding hempty ⊢
  case pending => exact ⟨hstanding.1, hstanding.2.1, hpending hcase hstanding.2.2⟩
  case ready => exact ⟨hstanding.1, hstanding.2.1, hempty hstanding.2.2 (by simp)⟩
  all_goals exact ⟨hempty hstanding.1 (by simp), fun hreport => hall (hstanding.2 hreport)⟩

theorem Accounted.of_entries (h : Accounted udp tcp s) {s' : TURNSocket}
    (hentries : s'.mServers.map Server.entry = s.mServers.map Server.entry) (hfailed : s'.failed = s.failed)
    (havailable : available s' = available s) : Accounted udp tcp s' := by
  unfold Accounted Listed at *
  rw [hentries, hfailed, havailable]
  have hnil : s'.mServers = [] ↔ s.mServers = [] := by
    rw [← List.map_eq_nil_iff (f := Server.entry), hentries, List.map_eq_nil_iff]
  rwa [hnil]

theorem Inv.of_entries (h : Inv udp tcp s) (s' : TURNSocket) (hstate : s'.mCurrentState = s.mCurrentState)
    (herror : s'.mLastError = s.mLastError) (hactive : s'.mActiveServer = s.mActiveServer)
    (hentries : s'.mServers.map Server.entry = s.mServers.map Server.entry) (hfailed : s'.failed = s.failed)
    (havailable : available s' = available s) : Inv udp tcp s' := by
  apply h.pending_of s' hstate herror hactive
  · intro hnil _
    rwa [hnil, List.map_nil, List.map_eq_nil_iff] at hentries
  · rw [hfailed]
    exact List.Subset.refl _
  · rw [hfailed]
    exact h.tried
  · exact fun _ haccounted => haccounted.of_entries hentries hfailed havailable

theorem or_or_self {α : Type} (a b : Option α) : (a.or b).or b = a.or b := by
  cases a <;> cases b <;> rfl

theorem available_obtainUDP (s : TURNSocket) :
    available { s with mTURNUDPSRVResult := s.mTURNUDPSRVResult.or s.mTURNUDPQuery.result } = available s := by
  funext isUDP
  simp [available, or_or_self]

theorem available_obtainTCP (s : TURNSocket) :
    available { s with mTURNTCPSRVResult := s.mTURNTCPSRVResult.or s.mTURNTCPQuery.result } = available s := by
  funext isUDP
  simp [available, or_or_self]

theorem Inv.obtainUDP (h : Inv udp tcp s) :
    Inv udp tcp { s with mTURNUDPSRVResult := s.mTURNUDPSRVResult.or s.mTURNUDPQuery.result } :=
  h.of_entries _ rfl rfl rfl rfl rfl (available_obtainUDP s)

theorem Inv.obtainTCP (h : Inv udp tcp s) :
    Inv udp tcp { s with mTURNTCPSRVResult := s.mTURNTCPSRVResult.or s.mTURNTCPQuery.result } :=
  h.of_entries _ rfl rfl rfl rfl rfl (available_obtainTCP s)

end Accounting

section Filling

variable {udp tcp : Option SRVResult} {s : TURNSocket}

/-- There is no address of TCP, or there are more of UDP. -/
def Reaches (udp tcp : Option SRVResult) : Prop := distinct tcp ≤ distinct udp - 1

theorem fill_left (hservers : s.mServers = []) (hactive : s.mActiveServer = none) (now : Nat) {ip : ICESocket.IPAddress}
    (hip : ip ∈ validAddresses s.mTURNUDPSRVResult) :
    (true, ip) ∈ (s.stepPrepareServers now).mServers.map Server.entry ∨
      ip ∈ validAddresses (s.stepPrepareServers now).mTURNUDPSRVResult := by
  have hfresh : ip ∈ (s.lookUps true).fresh := mem_validAddresses.mp hip
  have hleft := prepare_left 0 now s.lookUps hfresh
  simp only [LookUp.fresh, LookUp.remaining, mem_firsts] at hleft
  simp only [stepPrepareServers, hservers, hactive, validAddresses, List.mem_filter]
  exact hleft.imp id fun h => ⟨h.1, h.2.1⟩

theorem fill_nil (hservers : s.mServers = []) (hactive : s.mActiveServer = none) {now : Nat}
    (hnil : (s.stepPrepareServers now).mServers = []) :
    validAddresses (s.stepPrepareServers now).mTURNUDPSRVResult = [] := by
  simp only [stepPrepareServers, hservers, hactive] at hnil ⊢
  have hremaining : addresses (((prepare 0 now s.lookUps).2 true).srv.getD []) = [] := prepare_nil hnil
  simp [validAddresses, hremaining]

/-- The list is filled, and only addresses of UDP are left out. -/
theorem fill_accounted (hreach : Reaches udp tcp) (hudp : available s true = s.mTURNUDPSRVResult)
    (htcp : available s false = s.mTURNTCPSRVResult) (hservers : s.mServers = []) (hactive : s.mActiveServer = none)
    (haccounted : Accounted udp tcp s) (now : Nat) :
    (∀ ip ∈ validAddresses tcp, Listed (s.stepPrepareServers now) (false, ip)) ∧
      ∀ ip ∈ validAddresses udp, Listed (s.stepPrepareServers now) (true, ip) ∨
        ip ∈ validAddresses (s.stepPrepareServers now).mTURNUDPSRVResult := by
  have hfailed : (s.stepPrepareServers now).failed = s.failed := by
    simp [stepPrepareServers, hservers, hactive]
  obtain ⟨-, huntouched⟩ | ⟨hlisted, hlisted'⟩ := haccounted
  · have hresultUDP : s.mTURNUDPSRVResult = udp := hudp.symm.trans (huntouched true)
    have hresultTCP : s.mTURNTCPSRVResult = tcp := htcp.symm.trans (huntouched false)
    constructor
    · intro ip hip
      have hparts := (stepPrepareServers_parts hresultUDP hresultTCP hservers hactive now).2
      rw [List.take_of_length_le (by rw [length_firsts_distinct]; exact hreach)] at hparts
      left
      rw [← mem_part, hparts]
      exact mem_validAddresses.mp hip
    · rintro ip hip
      exact (fill_left hservers hactive now (hresultUDP ▸ hip)).imp .inl id
  · have hkept : ∀ entry, Listed s entry → Listed (s.stepPrepareServers now) entry := by
      intro entry hentry
      right
      rw [hfailed]
      exact hentry.resolve_left (by simp [hservers])
    constructor
    · exact fun ip hip => hkept _ (hlisted ip hip)
    · intro ip hip
      obtain hlist | hleft := hlisted' ip hip
      · exact .inl (hkept _ hlist)
      · rw [hudp] at hleft
        exact (fill_left hservers hactive now hleft).imp .inl id

theorem validAddresses_available {ip : ICESocket.IPAddress} (hip : ip ∈ validAddresses s.mTURNUDPSRVResult) :
    ip ∈ validAddresses (available s true) := by
  cases hresult : s.mTURNUDPSRVResult with
  | none => simp [hresult, validAddresses, addresses] at hip
  | some srv => simpa [available, hresult] using hip

/-- Filling the list keeps the accounts, and all servers have failed when the list stays empty. -/
theorem Inv.fill (h : Inv udp tcp s) (hreach : Reaches udp tcp) (hudp : available s true = s.mTURNUDPSRVResult)
    (htcp : available s false = s.mTURNTCPSRVResult)
    (hopen : s.mCurrentState = .pending ∨ s.mCurrentState = .ready) (now : Nat) :
    Inv udp tcp (s.stepPrepareServers now) ∧
      ((s.stepPrepareServers now).isPrepared = false → AllFailed udp tcp (s.stepPrepareServers now)) := by
  by_cases hskip : s.mServers ≠ [] ∨ s.mActiveServer.isSome = true
  · have hsame : s.stepPrepareServers now = s := if_pos hskip
    rw [hsame]
    refine ⟨h, fun hprepared => ?_⟩
    simp only [isPrepared, Bool.or_eq_false_iff, decide_eq_false_iff_not] at hprepared
    cases hskip with
    | inl hservers => exact absurd hservers hprepared.1
    | inr hactive => rw [hprepared.2] at hactive; cases hactive
  · simp only [not_or, ne_eq, not_not, Bool.not_eq_true, Option.isSome_eq_false_iff, Option.isNone_iff_eq_none] at hskip
    obtain ⟨hservers, hactive⟩ := hskip
    have hstanding := h.standing
    unfold Standing at hstanding
    have hpending : s.mCurrentState = .pending := by
      cases hopen with
      | inl hpending => exact hpending
      | inr hready => simp [hready, hactive] at hstanding
    rw [hpending] at hstanding
    have hfill := fill_accounted hreach hudp htcp hservers hactive hstanding.2.2 now
    have hstate : (s.stepPrepareServers now).mCurrentState = s.mCurrentState ∧
        (s.stepPrepareServers now).mLastError = s.mLastError ∧
        (s.stepPrepareServers now).mActiveServer = s.mActiveServer ∧ (s.stepPrepareServers now).failed = s.failed := by
      simp [stepPrepareServers, hservers, hactive]
    obtain ⟨hsame, herror, hactive', hfailed⟩ := hstate
    constructor
    · apply h.pending_of _ hsame herror hactive'
      · exact fun _ hne => absurd hpending hne
      · rw [hfailed]
        exact List.Subset.refl _
      · rw [hfailed]
        exact h.tried
      · exact fun _ _ => .inr ⟨hfill.1, fun ip hip => (hfill.2 ip hip).imp id validAddresses_available⟩
    · intro hprepared
      simp only [isPrepared, Bool.or_eq_false_iff, decide_eq_false_iff_not, ne_eq, not_not] at hprepared
      have hnone : ∀ entry, Listed (s.stepPrepareServers now) entry →
          entry ∈ (s.stepPrepareServers now).failed.map Server.entry := by
        intro entry hentry
        exact hentry.resolve_left (by simp [hprepared.1])
      intro isUDP ip hip
      cases isUDP with
      | false => exact hnone _ (hfill.1 ip hip)
      | true =>
        obtain hlisted | hleft := hfill.2 ip hip
        · exact hnone _ hlisted
        · simp [fill_nil hservers hactive hprepared.1] at hleft

end Filling

section Steps

variable {udp tcp : Option SRVResult} {s : TURNSocket}

@[simp] theorem Server.opened_entry (server : Server) (created : Nat) :
    (server.opened created).1.entry = server.entry := by
  unfold Server.opened
  split <;> rfl

@[simp] theorem Server.requested_entry (server : Server) (created : Nat) :
    (server.requested created).1.entry = server.entry := by
  unfold Server.requested
  split
  · rfl
  · split <;> rfl

variable {server : Server}

theorem Server.activate_entry {connects : ICESocket.IPAddress → Bool} {created : Nat}
    {activated : Server × Nat} (h : server.activate connects created = some activated) :
    activated.1.entry = server.entry := by
  unfold Server.activate at h
  by_cases hthrows : (server.lacksSocket && !connects server.mServerIP) = true
  · simp [hthrows] at h
  · rw [if_neg hthrows, Option.some.injEq] at h
    simp [← h]

theorem activate_entries (instant : Instant) (created : Nat) (servers : List Server) :
    (activate instant created servers).1.map Server.entry = servers.map Server.entry := by
  induction servers generalizing created with
  | nil => rfl
  | cons server servers ih =>
    unfold activate
    by_cases hlater : server.mActivateAfter > instant.now
    · rw [if_pos hlater]
    · rw [if_neg hlater]
      cases hactivate : server.activate instant.connects created with
      | none => rfl
      | some activated => simp [Server.activate_entry hactivate, ih]

theorem Inv.stepActivate (h : Inv udp tcp s) (instant : Instant) : Inv udp tcp (s.stepActivate instant) := by
  unfold TURNSocket.stepActivate
  by_cases hrelayed : s.mRelayedIP.address ≠ 0
  · rwa [if_pos hrelayed]
  · rw [if_neg hrelayed]
    have hactivated : Inv udp tcp
        { s with
          mServers := (activate instant s.created s.mServers).1
          created := (activate instant s.created s.mServers).2.1 } :=
      h.of_entries _ rfl rfl rfl (activate_entries instant s.created s.mServers) rfl rfl
    by_cases hthrown : (activate instant s.created s.mServers).2.2 = true
    · simpa [hthrown] using hactivated.fail .unexpectedSocketFailure (by simp)
    · simpa [hthrown] using hactivated

theorem Inv.step (h : Inv udp tcp s) (hreach : Reaches udp tcp) (instant : Instant) : Inv udp tcp (s.step instant) := by
  unfold TURNSocket.step
  by_cases hclosed : (s.isShutdown || s.mCurrentState = .shuttingDown) = true
  · rw [if_pos hclosed]
    exact h.cancel
  have hopen : s.mCurrentState = .pending ∨ s.mCurrentState = .ready := by
    revert hclosed
    cases hstate : s.mCurrentState <;> simp [isShutdown, hstate]
  rw [if_neg hclosed]
  by_cases hudp : (s.mTURNUDPSRVResult.isNone && !s.mTURNUDPQuery.isComplete) = true
  · rwa [if_pos hudp]
  rw [if_neg hudp]
  by_cases htcp : (s.mTURNTCPSRVResult.isNone && !s.mTURNTCPQuery.isComplete) = true
  · simpa only [htcp, if_true] using h.obtainUDP
  have hobtained := h.obtainUDP.obtainTCP
  by_cases hnone : ((s.mTURNUDPSRVResult.or s.mTURNUDPQuery.result).isNone &&
      (s.mTURNTCPSRVResult.or s.mTURNTCPQuery.result).isNone) = true
  · simpa only [htcp, hnone, if_true, Bool.false_eq_true, if_false] using hobtained.fail .dnsLookupFailure (by simp)
  obtain ⟨hfill, hempty⟩ := hobtained.fill hreach (by simp [available, or_or_self]) (by simp [available, or_or_self])
    hopen instant.now
  simp only [htcp, hnone]
  by_cases hprepared : (stepPrepareServers
      { s with
        mTURNUDPSRVResult := s.mTURNUDPSRVResult.or s.mTURNUDPQuery.result
        mTURNTCPSRVResult := s.mTURNTCPSRVResult.or s.mTURNTCPQuery.result } instant.now).isPrepared = true
  · simpa [hprepared] using hfill.stepActivate instant
  · simpa [hprepared] using hfill.fail .failedToConnectToAnyServer fun _ => hempty (by simpa using hprepared)

theorem Inv.erase (h : Inv udp tcp s) (hserver : server ∈ s.mServers) (htried : server.tried = true) :
    Inv udp tcp (s.erase server) := by
  have hlisted : ∀ entry, Listed s entry → Listed (s.erase server) entry := by
    rintro entry (hlist | hfailed)
    · obtain ⟨other, hother, rfl⟩ := List.mem_map.mp hlist
      by_cases hne : other = server
      · right
        simp [TURNSocket.erase, hne]
      · left
        exact List.mem_map_of_mem ((List.mem_erase_of_ne hne).mpr hother)
    · right
      simp only [TURNSocket.erase, List.map_append, List.mem_append]
      exact .inl hfailed
  apply h.pending_of (s.erase server) rfl rfl rfl
  · intro hnil
    rw [hnil] at hserver
    cases hserver
  · exact List.subset_append_left _ _
  · intro other hother
    obtain hfailed | hnew := List.mem_append.mp hother
    · exact h.tried other hfailed
    · rwa [List.mem_singleton.mp hnew]
  · rintro - (⟨hnil, -⟩ | ⟨htcp, hudp⟩)
    · rw [hnil] at hserver
      cases hserver
    · exact .inr ⟨fun ip hip => hlisted _ (htcp ip hip), fun ip hip => (hudp ip hip).imp (hlisted _) id⟩

theorem Inv.change (h : Inv udp tcp s) {changed : Server} (hentry : changed.entry = server.entry) :
    Inv udp tcp (s.change server changed) := by
  apply h.of_entries (s.change server changed) rfl rfl rfl _ rfl rfl
  simp only [TURNSocket.change, List.map_map]
  apply List.map_congr_left
  intro other _
  by_cases hsame : other = server
  · simp [hsame, hentry]
  · simp [hsame]

theorem withRequester_some {requester : Nat} (h : s.withRequester requester = some server) :
    server ∈ s.mServers ∧ server.tried = true := by
  refine ⟨List.mem_of_find?_eq_some h, ?_⟩
  have hrequester : server.mAllocateRequester = some requester := by simpa using List.find?_some h
  simp [Server.tried, hrequester]

theorem withSocket_some {socket : Nat} (h : s.withSocket socket = some server) :
    server ∈ s.mServers ∧ server.tried = true := by
  refine ⟨List.mem_of_find?_eq_some h, ?_⟩
  have hsocket : server.mTCPSocket = some socket := by simpa using List.find?_some h
  simp [Server.tried, hsocket]

theorem Inv.pending_of_mem (h : Inv udp tcp s) (hserver : server ∈ s.mServers) :
    s.mCurrentState = .pending := by
  have hstanding := h.standing
  unfold Standing at hstanding
  cases hstate : s.mCurrentState <;> simp only [hstate] at hstanding
  case pending => rfl
  case ready => simp [hstanding.2.2] at hserver
  all_goals simp [hstanding.1] at hserver

theorem Inv.handleAllocateRequester (h : Inv udp tcp s) (requester : Nat) (answer : Answer) :
    Inv udp tcp (s.handleAllocateRequester requester answer) := by
  unfold TURNSocket.handleAllocateRequester
  cases hfound : s.withRequester requester with
  | none => exact h
  | some server =>
    obtain ⟨hserver, htried⟩ := withRequester_some hfound
    cases answer with
    | reissued =>
      have hchanged : Inv udp tcp (s.change server { server with mAllocateRequester := some s.created }) := h.change rfl
      exact hchanged.of_entries _ rfl rfl rfl rfl rfl rfl
    | refused => exact h.erase hserver htried
    | unsigned => exact h.change rfl
    | accepted relayed =>
      have hstanding := h.standing
      unfold Standing at hstanding
      rw [h.pending_of_mem hserver] at hstanding
      refine ⟨h.tried, ?_⟩
      simp [Standing, hstanding.2.1]

section

variable (h : Inv udp tcp s) (hreach : Reaches udp tcp)
include h hreach

theorem Inv.onWriteReady (socket : Nat) (instant : Instant) : Inv udp tcp (s.onWriteReady socket instant) := by
  unfold TURNSocket.onWriteReady
  by_cases hskip : (s.isShutdown || s.mActiveServer.isSome) = true
  · rwa [if_pos hskip]
  · rw [if_neg hskip]
    cases hfound : s.withSocket socket with
    | none => exact h
    | some server =>
      by_cases hconnected : server.mIsConnected = true
      · simpa [hconnected] using h
      · have hchanged : Inv udp tcp (s.change server { server with mIsConnected := true }) := h.change rfl
        simpa [hconnected] using hchanged.step hreach instant

theorem Inv.onException (socket : Nat) (instant : Instant) : Inv udp tcp (s.onException socket instant) := by
  unfold TURNSocket.onException
  by_cases hskip : s.isShutdown = true
  · rwa [if_pos hskip]
  · rw [if_neg hskip]
    cases hactive : s.mActiveServer with
    | some server =>
      by_cases hsocket : server.mTCPSocket = some socket
      · simpa [hsocket] using h.fail .unexpectedSocketFailure (by simp)
      · simpa [hsocket] using h
    | none =>
      cases hfound : s.withSocket socket with
      | none => exact h
      | some server =>
        obtain ⟨hserver, htried⟩ := withSocket_some hfound
        exact (h.erase hserver htried).step hreach instant

theorem Inv.onSTUNRequesterTimedOut (requester : Nat) (instant : Instant) :
    Inv udp tcp (s.onSTUNRequesterTimedOut requester instant) := by
  unfold TURNSocket.onSTUNRequesterTimedOut
  by_cases hskip : s.isShutdown = true
  · rwa [if_pos hskip]
  · rw [if_neg hskip]
    cases hfound : s.withRequester requester with
    | none => exact h
    | some server =>
      obtain ⟨hserver, htried⟩ := withRequester_some hfound
      exact (h.erase hserver htried).step hreach instant

theorem Inv.take (e : Event) : Inv udp tcp (s.take e) := by
  cases e with
  | wake instant => exact h.step hreach instant
  | onLookupCompleted isUDP instant =>
    cases isUDP with
    | true =>
      exact Inv.step (h.of_entries { s with mTURNUDPQuery := { s.mTURNUDPQuery with isComplete := true } }
        rfl rfl rfl rfl rfl rfl) hreach instant
    | false =>
      exact Inv.step (h.of_entries { s with mTURNTCPQuery := { s.mTURNTCPQuery with isComplete := true } }
        rfl rfl rfl rfl rfl rfl) hreach instant
  | onSTUNRequesterTimedOut requester instant => exact h.onSTUNRequesterTimedOut hreach requester instant
  | handleAllocateRequester requester answer => exact h.handleAllocateRequester requester answer
  | onWriteReady socket instant => exact h.onWriteReady hreach socket instant
  | onException socket instant => exact h.onException hreach socket instant
  | refreshTimedOut =>
    by_cases hshutdown : s.isShutdown = true
    · simpa [TURNSocket.take, hshutdown] using h
    · simpa [TURNSocket.take, hshutdown] using h.fail .refreshTimeout (by simp)
  | refreshRefused => exact h.cancel
  | bogusDataReceived =>
    by_cases hshutdown : s.isShutdown = true
    · simpa [TURNSocket.take, hshutdown] using h
    · simpa [TURNSocket.take, hshutdown] using h.fail .bogusDataOnSocketReceived (by simp)
  | shutdown => exact h.fail .userRequestedShutdown (by simp)
  | deallocated =>
    by_cases hclosing : s.mCurrentState = .shuttingDown
    · have hcleared : Inv udp tcp { s with mRelayedIP := {} } := h.of_entries _ rfl rfl rfl rfl rfl rfl
      simpa [TURNSocket.take, hclosing] using hcleared.cancel
    · simpa [TURNSocket.take, hclosing] using h

end

end Steps

open TURNSocketServers.TURNSocket (create take)

theorem inv_create (givenUDP givenTCP : Bool) (udp tcp : Option SRVResult) :
    Inv udp tcp (create givenUDP givenTCP udp tcp) := by
  constructor
  · simp [create]
  · refine ⟨rfl, by simp [create], .inl ⟨rfl, fun isUDP => ?_⟩⟩
    cases isUDP <;> cases givenUDP <;> cases givenTCP <;> cases udp <;> cases tcp <;> rfl

theorem triedAll_run {udp tcp : Option SRVResult} (hreach : Reaches udp tcp) (givenUDP givenTCP : Bool)
    (es : List Event) : TriedAll udp tcp (Runs.run take (create givenUDP givenTCP udp tcp) es) :=
  (Runs.run_invariant_always (Inv udp tcp) (fun _ e h => h.take hreach e) _ es
    (inv_create givenUDP givenTCP udp tcp)).triedAll

/-- The list is filled with every address, and the socket gives up only when all servers were tried, exactly when there
are one or two addresses of UDP more than there are of TCP, or none of both. -/
theorem every_server_tried_iff (udp tcp : Option SRVResult) :
    (PreparesAll udp tcp ∧ ∀ givenUDP givenTCP, ∀ es : List Event,
      TriedAll udp tcp (Runs.run take (create givenUDP givenTCP udp tcp) es)) ↔
      distinct udp = distinct tcp + 1 ∨ distinct udp = distinct tcp + 2 ∨ distinct udp = 0 ∧ distinct tcp = 0 := by
  rw [preparesAll_iff]
  constructor
  · rintro ⟨⟨hudp, htcp⟩, -⟩
    omega
  · intro hcounts
    refine ⟨by omega, fun givenUDP givenTCP es => triedAll_run ?_ givenUDP givenTCP es⟩
    unfold Reaches
    omega

theorem fail_error (s : TURNSocket) (error : TURNSocketErrors) :
    (s.fail error).mLastError = error ∧ (s.fail error).failed = s.failed := by
  by_cases hshutdown : s.mCurrentState = .shutdown
  · simp [TURNSocket.fail, TURNSocket.cancel, isShutdown, hshutdown]
  · by_cases hrelayed : s.mRelayedIP.address = 0 <;>
      simp [TURNSocket.fail, TURNSocket.cancel, isShutdown, hshutdown, hrelayed]

/-- Without a valid address of UDP the socket gives up at once. -/
theorem gives_up_without_udp {udp tcp : SRVResult} (hudp : distinct (some udp) = 0) (instant : Instant) :
    (take (create true true (some udp) (some tcp)) (.wake instant)).mLastError = .failedToConnectToAnyServer ∧
      (take (create true true (some udp) (some tcp)) (.wake instant)).failed = [] := by
  let s := create true true (some udp) (some tcp)
  obtain ⟨hparts, hparts'⟩ := stepPrepareServers_parts (s := s) rfl rfl rfl rfl instant.now
  have hnone : firsts isValid [] (addresses udp) = [] :=
    List.length_eq_zero_iff.mp ((length_firsts_distinct _).trans hudp)
  have hservers : (s.stepPrepareServers instant.now).mServers = [] := by
    apply List.map_eq_nil_iff.mp
    apply eq_nil_of_parts
    · exact hparts.trans (by simp [s, create, hnone])
    · exact hparts'.trans (by simp [s, create, hudp])
  have hkept : (s.stepPrepareServers instant.now).mActiveServer = none ∧
      (s.stepPrepareServers instant.now).failed = [] := ⟨rfl, rfl⟩
  have hprepared : (s.stepPrepareServers instant.now).isPrepared = false := by
    simp [isPrepared, hservers, hkept.1]
  have hstep : take s (.wake instant) =
      if !(s.stepPrepareServers instant.now).isPrepared then
        (s.stepPrepareServers instant.now).fail .failedToConnectToAnyServer
      else (s.stepPrepareServers instant.now).stepActivate instant := rfl
  rw [hprepared] at hstep
  rw [hstep]
  exact ⟨(fail_error _ _).1, (fail_error _ _).2.trans hkept.2⟩

/-- One address of TCP and none of UDP: the socket gives up without having tried it. -/
theorem gives_up_untried :
    let tcp : SRVResult := [{ mAResult := some [{ address := 1, port := 3478 }] }]
    let s := Runs.run take (create true true (some []) (some tcp)) [.wake { now := 0, connects := fun _ => true }]
    s.mLastError = .failedToConnectToAnyServer ∧ s.failed = [] ∧
      ¬TriedAll (some []) (some tcp) s ∧ ¬PreparesAll (some []) (some tcp) := by
  intro tcp s
  obtain ⟨herror, hfailed⟩ := @gives_up_without_udp [] tcp rfl { now := 0, connects := fun _ => true }
  refine ⟨herror, hfailed, fun htried => ?_, fun hall => ?_⟩
  · obtain ⟨server, hserver, -⟩ := (htried herror).2 false { address := 1, port := 3478 } (by decide)
    exact absurd (hfailed ▸ hserver) List.not_mem_nil
  · exact absurd ((preparesAll_iff _ _).mp hall) (by decide)

end OpenPeer.TURNSocketServers
