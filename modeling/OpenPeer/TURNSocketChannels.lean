import OpenPeer.Index
import OpenPeer.TURNSocketRelay

/-!
# The channels of a TURN socket

One table leads to the channels by peer, another by number. A channel is put into both and
taken out of both, so they are inverse to each other. A number is drawn from the range
without its end, so nothing can be drawn from a range of one number, and the attempt divides
by zero.
-/
namespace OpenPeer.TURNSocketRelay

open Index TURNSocketRelay.TURNSocket

/-- The tables, and what they lead by. -/
structure ChannelTables where
  ips : AList fun _ : ICESocket.IPAddress => Nat
  numbers : AList fun _ : Nat => Nat
  peerOf : Nat → ICESocket.IPAddress
  numberOf : Nat → Nat
  channels : Nat
  start : Nat
  limit : Nat
  crashed : Bool

def TURNSocket.tables (s : TURNSocket) : ChannelTables where
  ips := s.mChannelIPMap
  numbers := s.mChannelNumberMap
  peerOf i := (s.infos i).mPeerAddress
  numberOf i := (s.infos i).mChannelNumber
  channels := s.channels
  start := s.mLimitChannelToRangeStart
  limit := s.mLimitChannelToRangeEnd
  crashed := s.crashed

/-- The tables are inverse, and lead to channels that were created, with numbers in the range. There was no division by
zero if the range has two numbers or more. -/
structure ChannelTables.Sound (range : ChannelRange) (t : ChannelTables) : Prop where
  inverse : Inverse t.ips t.numbers t.peerOf t.numberOf
  inRange : ∀ n i, t.numbers.lookup n = some i → range.start ≤ n ∧ n ≤ range.limit
  created : ∀ n i, t.numbers.lookup n = some i → i < t.channels
  start : t.start = range.start
  limit : t.limit = range.limit
  intact : range.start < range.limit → t.crashed = false

section Frames

variable (s : TURNSocket)

@[simp] theorem tables_handleAuthorizationErrors (requester : Nat) (response : Response) :
    (s.handleAuthorizationErrors requester response).2.tables = s.tables := by
  unfold handleAuthorizationErrors
  split
  · rfl
  split
  · rfl
  split
  · split <;> rfl
  split
  · split <;> rfl
  · rfl

theorem tables_requestPermissionsNow (now : Nat) : (s.requestPermissionsNow now).tables = s.tables := by
  unfold requestPermissionsNow
  split <;> rfl

theorem tables_channel (i : Nat) (info : ChannelInfo) (hpeer : info.mPeerAddress = (s.infos i).mPeerAddress)
    (hnumber : info.mChannelNumber = (s.infos i).mChannelNumber) : (s.channel i info).tables = s.tables := by
  have hinfo : ∀ j, ((s.channel i info).infos j).mPeerAddress = (s.infos j).mPeerAddress ∧
      ((s.channel i info).infos j).mChannelNumber = (s.infos j).mChannelNumber := by
    intro j
    by_cases hj : j = i
    · subst hj
      simp [channel, hpeer, hnumber]
    · simp [channel, hj]
  simp only [tables, hinfo]
  rfl

end Frames

section Drawing

variable {s : TURNSocket}

/-- A number that is drawn is in the range and free; without a division by zero there is an outcome. -/
theorem drawChannel_spec (draws : Nat → Nat) (attempts : Nat) {number : Nat}
    (h : s.drawChannel draws attempts = some number) (hnumber : number ≠ 0) :
    s.mLimitChannelToRangeStart ≤ number ∧ number < s.mLimitChannelToRangeEnd ∧ number ∉ s.mChannelNumberMap := by
  induction attempts with
  | zero => exact absurd (Option.some.inj h).symm hnumber
  | succ attempts ih =>
    unfold drawChannel at h
    by_cases hzero : s.mLimitChannelToRangeEnd - s.mLimitChannelToRangeStart = 0
    · simp [hzero] at h
    · rw [if_neg hzero] at h
      by_cases hused : draws attempts % (s.mLimitChannelToRangeEnd - s.mLimitChannelToRangeStart) +
          s.mLimitChannelToRangeStart ∈ s.mChannelNumberMap
      · exact ih (by simpa [hused] using h)
      · simp only [hused, if_false, Option.some.injEq] at h
        subst h
        have hlt := Nat.mod_lt (draws attempts) (Nat.pos_of_ne_zero hzero)
        exact ⟨by omega, by omega, hused⟩

theorem drawChannel_isSome (hrange : s.mLimitChannelToRangeStart < s.mLimitChannelToRangeEnd) (draws : Nat → Nat)
    (attempts : Nat) : (s.drawChannel draws attempts).isSome = true := by
  induction attempts with
  | zero => rfl
  | succ attempts ih =>
    have hzero : s.mLimitChannelToRangeEnd - s.mLimitChannelToRangeStart ≠ 0 := by omega
    unfold drawChannel
    rw [if_neg hzero]
    dsimp only
    split
    · exact ih
    · rfl

end Drawing

section Keeping

variable {range : ChannelRange} {s : TURNSocket}

section

variable (h : s.tables.Sound range)
include h

theorem channel_sound (i : Nat) (info : ChannelInfo) (hpeer : info.mPeerAddress = (s.infos i).mPeerAddress)
    (hnumber : info.mChannelNumber = (s.infos i).mChannelNumber) : (s.channel i info).tables.Sound range := by
  rwa [tables_channel s i info hpeer hnumber]

/-- A new channel is put into both tables. -/
theorem addChannel_sound {destination : ICESocket.IPAddress} {number now : Nat}
    (hip : s.mChannelIPMap.lookup destination = none) (hnumber : number ∉ s.mChannelNumberMap)
    (hrange : range.start ≤ number ∧ number ≤ range.limit) :
    (s.addChannel destination number now).tables.Sound range := by
  have hfree : s.mChannelNumberMap.lookup number = none := AList.lookup_eq_none.mpr hnumber
  let info : ChannelInfo := { mChannelNumber := number, mPeerAddress := destination, mLastSentDataAt := now }
  have hold : ∀ {i}, i < s.channels → Function.update s.infos s.channels info i = s.infos i :=
    fun hi => Function.update_of_ne (Nat.ne_of_lt hi) _ _
  have hnew : Function.update s.infos s.channels info s.channels = info := Function.update_self _ _ _
  refine ⟨?_, ?_, ?_, h.start, h.limit, h.intact⟩
  · have hkept : Inverse s.mChannelIPMap s.mChannelNumberMap
        (fun i => (Function.update s.infos s.channels info i).mPeerAddress)
        (fun i => (Function.update s.infos s.channels info i).mChannelNumber) := by
      apply h.inverse.congr
      · intro ip i hi
        rw [hold (h.created _ i (h.inverse.ofLeft ip i hi).2)]
        rfl
      · intro n i hi
        rw [hold (h.created n i hi)]
        rfl
    have hinsert := hkept.insert (i := s.channels) (by rw [hnew]; exact hip) (by rw [hnew]; exact hfree)
    rw [hnew] at hinsert
    exact hinsert
  · intro n i hi
    by_cases hn : n = number
    · subst hn
      exact hrange
    · exact h.inRange n i ((AList.lookup_insert_ne hn).symm.trans hi)
  · intro n i hi
    by_cases hn : n = number
    · subst hn
      have hi : some s.channels = some i := (AList.lookup_insert _).symm.trans hi
      obtain rfl := Option.some.inj hi
      exact Nat.lt_succ_self _
    · exact Nat.lt_succ_of_lt (h.created n i ((AList.lookup_insert_ne hn).symm.trans hi))

/-- A channel is taken out of both tables. -/
theorem removeChannel_sound {i : Nat} (hi : s.mChannelNumberMap.lookup (s.infos i).mChannelNumber = some i) :
    (s.removeChannel i).tables.Sound range := by
  let info : ChannelInfo := { s.infos i with mRefreshTimer := false, mChannelBindRequester := none }
  have htables := tables_channel s i info rfl rfl
  have hkept : (s.channel i info).tables.Sound range := htables ▸ h
  have hsame : (s.channel i info).infos i = info := Function.update_self _ _ _
  have hpeer : (s.channel i info).tables.peerOf i = (s.infos i).mPeerAddress := by
    change ((s.channel i info).infos i).mPeerAddress = _
    rw [hsame]
  have hnumber : (s.channel i info).tables.numberOf i = (s.infos i).mChannelNumber := by
    change ((s.channel i info).infos i).mChannelNumber = _
    rw [hsame]
  have herase := hkept.inverse.erase (i := i) (by rw [hnumber]; exact hi)
  rw [hpeer, hnumber] at herase
  have hfound : ∀ n j, (s.mChannelNumberMap.erase (s.infos i).mChannelNumber).lookup n = some j →
      s.mChannelNumberMap.lookup n = some j := by
    intro n j hj
    by_cases hn : n = (s.infos i).mChannelNumber
    · subst hn
      simp at hj
    · rwa [AList.lookup_erase_ne hn] at hj
  exact ⟨herase, fun n j hj => h.inRange n j (hfound n j hj), fun n j hj => h.created n j (hfound n j hj), h.start,
    h.limit, h.intact⟩

theorem lookup_of_bound {i : Nat} (hi : i ∈ s.boundChannels) :
    s.mChannelNumberMap.lookup (s.infos i).mChannelNumber = some i := by
  obtain ⟨n, hn⟩ := mem_boundChannels.mp hi
  have hnumber : (s.infos i).mChannelNumber = n := (h.inverse.ofRight n i hn).1
  rwa [hnumber]

theorem bound_removeChannel {i j : Nat} (hi : i ∈ s.boundChannels) (hj : j ∈ s.boundChannels) (hne : j ≠ i) :
    j ∈ (s.removeChannel i).boundChannels := by
  apply mem_boundChannels.mpr
  refine ⟨(s.infos j).mChannelNumber, ?_⟩
  have hlookup : s.mChannelNumberMap.lookup (s.infos j).mChannelNumber = some j := lookup_of_bound h hj
  have hnumber : (s.infos j).mChannelNumber ≠ (s.infos i).mChannelNumber := by
    intro heq
    rw [heq, lookup_of_bound h hi] at hlookup
    exact hne (Option.some.inj hlookup).symm
  exact (AList.lookup_erase_ne hnumber).trans hlookup

theorem nodup_boundChannels : s.boundChannels.Nodup := by
  apply List.Nodup.map_on
  · rintro ⟨n, i⟩ hentry ⟨n', i'⟩ hentry' hsame
    have hn := (h.inverse.ofRight n i (AList.mem_lookup_iff.mpr hentry)).1
    have hn' := (h.inverse.ofRight n' i' (AList.mem_lookup_iff.mpr hentry')).1
    have hi : i = i' := hsame
    subst hi
    rw [← hn, ← hn']
  · exact s.mChannelNumberMap.nodupKeys.nodup

end

theorem removeChannels_sound {is : List Nat} (h : s.tables.Sound range) (hnodup : is.Nodup)
    (hbound : ∀ i ∈ is, i ∈ s.boundChannels) : (is.foldl removeChannel s).tables.Sound range := by
  induction is generalizing s with
  | nil => exact h
  | cons i is ih =>
    have hi : i ∈ s.boundChannels := hbound i List.mem_cons_self
    rw [List.foldl_cons]
    apply ih
    · exact removeChannel_sound h (lookup_of_bound h hi)
    · exact hnodup.of_cons
    · intro j hj
      apply bound_removeChannel h hi (hbound j (List.mem_cons_of_mem _ hj))
      rintro rfl
      exact (List.nodup_cons.mp hnodup).1 hj

theorem refreshChannels_sound (h : s.tables.Sound range) (now : Nat) : (s.refreshChannels now).tables.Sound range := by
  have hremoved := removeChannels_sound h ((nodup_boundChannels h).filter
    fun i => now > (s.infos i).mLastSentDataAt + removeIfNoData) fun i hi => List.mem_of_mem_filter hi
  have htables : (s.refreshChannels now).tables = ((s.boundChannels.filter fun i =>
      now > (s.infos i).mLastSentDataAt + removeIfNoData).foldl removeChannel s).tables := by
    unfold refreshChannels tables
    congr 1 <;>
    · funext i
      dsimp only
      split <;> rfl
  rwa [htables]

theorem bindChannel_sound (h : s.tables.Sound range) {destination : ICESocket.IPAddress}
    (hip : s.mChannelIPMap.lookup destination = none) (draws : Nat → Nat) (now : Nat) :
    (s.bindChannel destination draws now).tables.Sound range := by
  unfold bindChannel
  have hstart : s.mLimitChannelToRangeStart = range.start := h.start
  have hlimit : s.mLimitChannelToRangeEnd = range.limit := h.limit
  cases hnext : s.getNextChannelNumber draws with
  | none =>
    refine ⟨h.inverse, h.inRange, h.created, h.start, h.limit, fun hrange => ?_⟩
    have hdrawn := drawChannel_isSome (s := s) (by rwa [hstart, hlimit]) draws 100
    unfold getNextChannelNumber at hnext
    split at hnext
    · cases hnext
    · rw [hnext] at hdrawn
      cases hdrawn
  | some number =>
    by_cases hbind : number ≠ 0 ∧ s.mUseChannelBinding = true
    · simp only [hbind, ne_eq, not_false_eq_true, and_self, if_true]
      unfold getNextChannelNumber at hnext
      split at hnext
      · exact absurd (Option.some.inj hnext).symm hbind.1
      · obtain ⟨hge, hlt, hfree⟩ := drawChannel_spec draws 100 hnext hbind.1
        exact addChannel_sound h hip hfree ⟨hstart ▸ hge, hlimit ▸ Nat.le_of_lt hlt⟩
    · simpa only [hbind, if_false] using h

theorem handleChannelRequester_tables (s : TURNSocket) (requester : Nat) (response : Response) :
    (s.handleChannelRequester requester response).1.tables = s.tables := by
  unfold handleChannelRequester
  cases hfound : s.withBindRequester requester with
  | none => rfl
  | some i =>
    have hretry := tables_channel (s.handleAuthorizationErrors requester response).2 i
      { (s.handleAuthorizationErrors requester response).2.infos i with
        mChannelBindRequester := (s.handleAuthorizationErrors requester response).1 } rfl rfl
    rw [tables_handleAuthorizationErrors] at hretry
    dsimp only
    split
    · exact hretry
    split
    · exact Eq.trans (tables_channel _ _ _ rfl rfl) hretry
    split
    · exact hretry
    · exact Eq.trans (tables_channel _ _ _ rfl rfl) hretry

theorem channelTimer_tables (s : TURNSocket) (i : Nat) : (s.channelTimer i).tables = s.tables := by
  unfold channelTimer
  split
  · rfl
  split
  · rfl
  · exact tables_channel _ _ _ rfl rfl

/-- A socket that is cancelled has no channels, or was shut down before. -/
theorem cancel_sound (h : s.tables.Sound range) : s.cancel.tables.Sound range := by
  unfold cancel
  split
  · exact h
  · have hempty : ∀ t : TURNSocket, t.mChannelIPMap = ∅ → t.mChannelNumberMap = ∅ →
        t.mLimitChannelToRangeStart = s.mLimitChannelToRangeStart →
        t.mLimitChannelToRangeEnd = s.mLimitChannelToRangeEnd → t.crashed = s.crashed → t.tables.Sound range := by
      intro t hips hnumbers hstart hlimit hcrashed
      refine ⟨?_, ?_, ?_, hstart.trans h.start, hlimit.trans h.limit, fun hrange => hcrashed.trans (h.intact hrange)⟩
      · unfold tables
        rw [hips, hnumbers]
        exact inverse_empty
      · intro n i hi
        simp [tables, hnumbers] at hi
      · intro n i hi
        simp [tables, hnumbers] at hi
    dsimp only
    split <;> split <;> exact hempty _ rfl rfl rfl rfl rfl

theorem step_sound (h : s.tables.Sound range) (now : Nat) : (s.step now).tables.Sound range := by
  unfold step
  split
  · exact cancel_sound h
  split
  · exact h
  · apply refreshChannels_sound
    split
    · rwa [tables_requestPermissionsNow]
    · exact h

theorem handleAllocateRequester_tables (s : TURNSocket) (requester : Nat) (response : Response) :
    (s.handleAllocateRequester requester response).1.tables = s.tables := by
  unfold handleAllocateRequester
  split
  · rfl
  · dsimp only
    split
    · exact tables_handleAuthorizationErrors s requester response
    split
    · split
      · rfl
      · split <;> rfl
    · split <;> rfl

theorem handleRefreshRequester_sound (h : s.tables.Sound range) (requester : Nat) (response : Response) :
    (s.handleRefreshRequester requester response).1.tables.Sound range := by
  have hretry := tables_handleAuthorizationErrors s requester response
  unfold handleRefreshRequester
  split
  · exact h
  · dsimp only
    split
    · apply cancel_sound
      exact hretry ▸ h
    · split <;> exact hretry ▸ h

theorem handleDeallocRequester_tables (s : TURNSocket) (requester : Nat) (response : Response) :
    (s.handleDeallocRequester requester response).1.tables = s.tables := by
  have hretry := tables_handleAuthorizationErrors s requester response
  unfold handleDeallocRequester
  split
  · rfl
  · dsimp only
    split <;> exact hretry

theorem handlePermissionRequester_tables (s : TURNSocket) (requester : Nat) (response : Response) :
    (s.handlePermissionRequester requester response).1.tables = s.tables := by
  have hretry := tables_handleAuthorizationErrors s requester response
  unfold handlePermissionRequester
  split
  · rfl
  · dsimp only
    split
    · exact hretry
    split
    · split <;> exact hretry
    · split <;> exact hretry

@[simp] theorem complete_tables (s : TURNSocket) (requester : Nat) : (s.complete requester).tables = s.tables := by
  unfold complete
  split <;> rfl

theorem handleSTUNRequesterResponse_sound (h : s.tables.Sound range) (requester : Nat) (response : Response) :
    (s.handleSTUNRequesterResponse requester response).tables.Sound range := by
  have hallocated := (handleAllocateRequester_tables s requester response).symm ▸ h
  have hrefreshed := handleRefreshRequester_sound hallocated requester response
  unfold handleSTUNRequesterResponse
  dsimp only
  split
  · rwa [complete_tables]
  split
  · rwa [complete_tables]
  split
  · rwa [complete_tables, handleDeallocRequester_tables]
  split
  · rwa [complete_tables, handleChannelRequester_tables, handleDeallocRequester_tables]
  split
  · rwa [complete_tables, handlePermissionRequester_tables, handleChannelRequester_tables,
      handleDeallocRequester_tables]
  · rwa [handlePermissionRequester_tables, handleChannelRequester_tables, handleDeallocRequester_tables]

theorem onSTUNRequesterTimedOut_sound (h : s.tables.Sound range) (requester now : Nat) :
    (s.onSTUNRequesterTimedOut requester now).tables.Sound range := by
  unfold onSTUNRequesterTimedOut
  split
  · exact h
  split
  · apply step_sound
    exact h
  split
  · exact cancel_sound h
  split
  · rw [complete_tables]
    exact cancel_sound h
  split
  · apply step_sound
    exact h
  split
  · exact h
  · exact channel_sound h _ _ rfl rfl

theorem sendIndication_tables (s : TURNSocket) (packet : Packet) (now : Nat) :
    (s.sendIndication packet now).tables = s.tables := by
  unfold sendIndication
  split
  · rfl
  · dsimp only
    split <;> rfl

theorem sendPacket_sound (h : s.tables.Sound range) (destination : ICESocket.IPAddress) (length : Nat)
    (bindChannelIfPossible : Bool) (draws : Nat → Nat) (now : Nat) :
    (s.sendPacket destination length bindChannelIfPossible draws now).tables.Sound range := by
  unfold sendPacket
  split
  · exact h
  · dsimp only
    split
    · rename_i i _
      have hchannel : (channel { s with packets := s.packets + 1 } i
          { s.infos i with mLastSentDataAt := now }).tables.Sound range := channel_sound h i _ rfl rfl
      exact hchannel
    · split
      case isTrue hbind =>
        simp only [Bool.and_eq_true, Option.isNone_iff_eq_none] at hbind
        have hbound : (bindChannel { s with packets := s.packets + 1 } destination draws now).tables.Sound
            range := by
          apply bindChannel_sound
          · exact h
          · exact hbind.2
        split
        · exact hbound
        · rwa [sendIndication_tables]
      case isFalse =>
        split
        · exact h
        · rwa [sendIndication_tables]

theorem activateServer_tables (s : TURNSocket) (place : Nat) : (s.activateServer place).tables = s.tables := by
  unfold activateServer
  split
  · rfl
  · split <;> rfl

theorem take_sound (h : s.tables.Sound range) (e : Event) : (s.take e).tables.Sound range := by
  unfold take
  split
  · exact h
  cases e with
  | prepareServers servers =>
    dsimp only
    split <;> exact h
  | activateServer place => exact (activateServer_tables s place).symm ▸ h
  | eraseServer place => exact h
  | onWake now => exact step_sound h now
  | sendPacket destination length bindChannelIfPossible draws now =>
    exact sendPacket_sound h destination length bindChannelIfPossible draws now
  | handleSTUNRequesterResponse requester response => exact handleSTUNRequesterResponse_sound h requester response
  | onSTUNRequesterTimedOut requester now => exact onSTUNRequesterTimedOut_sound h requester now
  | refreshTimer =>
    dsimp only
    split <;> exact h
  | permissionTimer now =>
    dsimp only
    split
    · exact h
    · exact step_sound ((tables_requestPermissionsNow s now).symm ▸ h) now
  | channelTimer channel =>
    dsimp only
    split
    · exact h
    · exact (channelTimer_tables s channel).symm ▸ h
  | deallocTimer =>
    dsimp only
    split
    · exact cancel_sound h
    · exact h
  | shutdown => exact cancel_sound h

end Keeping

open TURNSocketRelay.TURNSocket (create take)

/-- What is promised of the tables. -/
structure ChannelsInverse (range : ChannelRange) (s : TURNSocket) : Prop where
  /-- A peer leads to a channel with a number exactly when the number leads to a channel to the peer. -/
  inverse : ∀ ip n, (∃ i, s.mChannelIPMap.lookup ip = some i ∧ (s.infos i).mChannelNumber = n) ↔
    ∃ i, s.mChannelNumberMap.lookup n = some i ∧ (s.infos i).mPeerAddress = ip
  inRange : ∀ ip i, s.mChannelIPMap.lookup ip = some i →
    range.start ≤ (s.infos i).mChannelNumber ∧ (s.infos i).mChannelNumber ≤ range.limit
  onePeer : ∀ ip ip' i i', s.mChannelIPMap.lookup ip = some i → s.mChannelIPMap.lookup ip' = some i' →
    (s.infos i).mChannelNumber = (s.infos i').mChannelNumber → ip = ip'
  notCrashed : s.crashed = false
  /-- Channel data is delivered as that of the peer the number was given to. -/
  delivered : ∀ n ip, s.handleChannelData n = some ip →
    ∃ i, s.mChannelIPMap.lookup ip = some i ∧ (s.infos i).mChannelNumber = n

theorem ChannelTables.Sound.channelsInverse {range : ChannelRange} {s : TURNSocket} (h : s.tables.Sound range)
    (hrange : range.start < range.limit) : ChannelsInverse range s where
  inverse := h.inverse.iff
  inRange ip i hi := h.inRange _ i (h.inverse.ofLeft ip i hi).2
  onePeer ip ip' i i' hi hi' hsame := by
    obtain ⟨hpeer, hnumber⟩ := h.inverse.ofLeft ip i hi
    obtain ⟨hpeer', hnumber'⟩ := h.inverse.ofLeft ip' i' hi'
    have heq : some i = some i' := hnumber.symm.trans ((congrArg s.mChannelNumberMap.lookup hsame).trans hnumber')
    rw [← hpeer, ← hpeer', Option.some.inj heq]
  notCrashed := h.intact hrange
  delivered n ip hdelivered := by
    apply (h.inverse.iff ip n).mpr
    unfold handleChannelData at hdelivered
    split at hdelivered
    · cases hdelivered
    split at hdelivered
    · cases hdelivered
    · obtain ⟨i, hi, hpeer⟩ := Option.map_eq_some_iff.mp hdelivered
      exact ⟨i, hi, hpeer⟩

theorem create_sound (range : ChannelRange) (useChannelBinding : Bool) (username password : String) :
    (create range useChannelBinding username password).tables.Sound range where
  inverse := inverse_empty
  inRange n i hi := by simp [create, tables] at hi
  created n i hi := by simp [create, tables] at hi
  start := rfl
  limit := rfl
  intact _ := rfl

/-- A server accepts the allocation, and data is sent to a peer, to which a channel is to be bound. -/
def sendsFirst : List Event :=
  [.prepareServers [{ mIsUDP := true, mServerIP := ⟨1, 3478⟩, mActivateAfter := 0 }], .activateServer 0,
    .handleSTUNRequesterResponse 0 { isValidMessageIntegrity := true, mRelayedAddress := ⟨2, 50000⟩ },
    .sendPacket ⟨3, 4000⟩ 1 true (fun _ => 0) 0]

theorem sendsFirst_crashes (range : ChannelRange) (hrange : range.start = range.limit) (useChannelBinding : Bool)
    (username password : String) :
    (Runs.run take (create range useChannelBinding username password) sendsFirst).crashed = true := by
  simp [sendsFirst, take, create, activateServer, next, request,
    handleSTUNRequesterResponse, handleAllocateRequester, handleAuthorizationErrors,
    Response.isError, complete, sendPacket, boundTo, bindChannel,
    getNextChannelNumber, drawChannel, hrange]

end OpenPeer.TURNSocketRelay
