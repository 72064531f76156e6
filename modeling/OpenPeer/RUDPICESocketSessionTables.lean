import OpenPeer.RUDPICESocketSessionChannels

/-!
# The channel numbers of a session

A channel is registered under the number that packets to it carry for as long as it is not
known to be shut down; under the number of the remote party it is found only then, and under
no other number. This holds while the remote party gives no number that another channel of
the session has.
-/
namespace OpenPeer.RUDPSession.RUDPICESocketSession

open Std

section Session

variable {s : RUDPICESocketSession} {channel : Nat}

theorem Kept.setState (h : Kept s) (hstate : s.mCurrentState ≠ .shutdown) {state : RUDPICESocketSessionStates}
    (hnew : state ≠ .shutdown) : Kept { s with mCurrentState := state } where
  __ := h
  live c hc hlive := .inl ((h.live c hc hlive).resolve_right hstate)
  connected e he hconnected := by
    obtain ⟨hne, hregistered⟩ := h.connected e he hconnected
    exact ⟨hne, .inl (hregistered.resolve_right hstate)⟩
  closed heq := absurd heq hnew

theorem Kept.setError (h : Kept s) (errorCode : Nat) : Kept (s.setError errorCode) := by
  unfold RUDPICESocketSession.setError
  split
  · exact h
  · exact { h with }

/-- What is done to each of the channels there are keeps the session, when it keeps the tables. -/
theorem Kept.forEach (h : Kept s) {act : RUDPICESocketSession → Nat × Nat → RUDPICESocketSession}
    (hapart : ∀ s entry, Apart s (act s entry))
    (hact : ∀ (s : RUDPICESocketSession) (entry : Nat × Nat), Kept s →
      s.mLocalChannelNumberSessions[entry.1]? = some entry.2 → Kept (act s entry)) :
    Kept (s.mLocalChannelNumberSessions.toList.foldl act s) ∧
      Apart s (s.mLocalChannelNumberSessions.toList.foldl act s) := by
  have hentries : ∀ entry ∈ s.mLocalChannelNumberSessions.toList,
      s.mLocalChannelNumberSessions[entry.1]? = some entry.2 :=
    fun entry hentry => ExtTreeMap.mem_toList_iff_getElem?_eq_some.mp hentry
  generalize s.mLocalChannelNumberSessions.toList = entries at hentries ⊢
  induction entries generalizing s with
  | nil => exact ⟨h, .refl s⟩
  | cons entry entries ih =>
    have htables := (hapart s entry).tables
    have hrest : ∀ e ∈ entries, (act s entry).mLocalChannelNumberSessions[e.1]? = some e.2 := by
      intro e he
      have hlocal : (act s entry).mLocalChannelNumberSessions = s.mLocalChannelNumberSessions :=
        congrArg Tables.mLocalChannelNumberSessions htables
      rw [hlocal]
      exact hentries e (List.mem_cons_of_mem _ he)
    have hstep := hact s entry h (hentries entry List.mem_cons_self)
    obtain ⟨hkept, htrans⟩ := ih hstep hrest
    exact ⟨hkept, (hapart s entry).trans htrans⟩

theorem Kept.tables_empty (h : Kept s) (hlocal : s.mLocalChannelNumberSessions.isEmpty = true) : s.toTables.Empty := by
  have hempty : s.mLocalChannelNumberSessions = ∅ := ExtTreeMap.isEmpty_iff.mp hlocal
  have hnone : ∀ c, ¬Registered s c := by simp [Registered, hempty]
  refine ⟨hempty, ?_, ?_⟩
  · apply ExtTreeMap.ext_getElem?
    intro n
    cases hremote : s.mRemoteChannelNumberSessions[n]? with
    | none => simp
    | some c => exact absurd (h.remote n c hremote).1 (hnone c)
  · exact List.eq_nil_iff_forall_not_mem.mpr fun c hc => hnone c (h.pending c hc)

theorem Kept.close (h : Kept s) (hlocal : s.mLocalChannelNumberSessions.isEmpty = true) :
    Kept { s with
      mCurrentState := .shutdown
      mICESession := false
      closedWith := some s.toTables
      mLocalChannelNumberSessions := ∅
      mRemoteChannelNumberSessions := ∅
      mPendingSessions := [] } where
  __ := h
  own := by simp
  remote := by simp
  pending := by simp
  pendingOnce := List.nodup_nil
  outgoing := by simp [Registered]
  issued := by simp [Registered]
  live _ _ _ := .inr rfl
  connected e he hconnected := ⟨(h.connected e he hconnected).1, .inr rfl⟩
  closed _ := ⟨⟨rfl, rfl, rfl⟩, Option.some_ne_none _⟩
  closedWith t ht := by
    rw [← Option.some.inj ht]
    exact h.tables_empty hlocal

theorem Kept.cancel (h : Kept s) (finishes : Nat → Bool) : Kept (s.cancel finishes) := by
  unfold RUDPICESocketSession.cancel
  split
  case isTrue => exact h
  case isFalse hstate =>
  have hnot : s.mCurrentState ≠ .shutdown := by simpa [isShutdown] using hstate
  have h' : Kept { s with mCurrentState := .shuttingDown } := h.setState hnot (by simp)
  have hcancelled := (h'.forEach (fun s entry => Apart.cancelChannel (finishes entry.2))
    fun s entry hs hlocal => hs.cancelChannel (hs.own entry.1 entry.2 hlocal).2 (finishes entry.2)).1
  simp only []
  split
  case isTrue => exact hcancelled
  case isFalse hempty => exact hcancelled.close (by simpa using hempty)

theorem Kept.step (h : Kept s) (state : ICESocketSessionStates) (finishes : Nat → Bool) :
    Kept (s.step state finishes) := by
  unfold RUDPICESocketSession.step
  split
  case isTrue => exact h.cancel finishes
  case isFalse hstate =>
    have hnot : s.mCurrentState ≠ .shutdown := fun heq => hstate (.inr (by simp [isShutdown, heq]))
    cases state with
    | pending => exact h
    | prepared => exact h.setState hnot (by simp)
    | searching => exact h.setState hnot (by simp)
    | nominating => exact h.setState hnot (by simp)
    | nominated => exact h.setState hnot (by simp)
    | shutdown => exact h.cancel finishes

/-- A channel without the number of the remote party asks for it, once. -/
theorem Kept.issueConnect (h : Kept s) (hregistered : Registered s channel)
    (hremote : s.mRemoteChannelNumberSessions.contains (s.channels channel).mOutgoingChannelNumber = false) :
    Kept (s.issueConnectIfNotIssued channel) := by
  have hlt := h.lt hregistered
  have hissue : ∀ hlive : Live s channel, Kept (if (s.channels channel).mOpenRequest.isSome then s
      else s.setChannel channel fun c => { c with mOpenRequest := some false }) := by
    intro hlive
    split
    case isTrue => exact h
    case isFalse hnone =>
      have hnone : (s.channels channel).mOpenRequest = none := by simpa using hnone
      have hzero : (s.channels channel).mOutgoingChannelNumber = 0 := by
        by_contra hne
        rcases h.issued channel hregistered hlive hne with hsome | hfound
        · exact hsome hnone
        · rw [← ExtTreeMap.isSome_getElem?_eq_contains, hfound] at hremote
          cases hremote
      rw [← edited_nil]
      apply h.edit hlt
      constructor
      case incoming => rfl
      case outgoing => rfl
      case forward => exact Nat.le_refl _
      case notice => simp
      case once => exact .inl rfl
      case stream => exact h.stream channel hlt
      case awaiting => exact fun _ => hzero
      case issued => exact fun _ hne => absurd hzero hne
  unfold RUDPICESocketSession.issueConnectIfNotIssued
  split
  · exact h
  · exact h
  · exact hissue (by simp [Live, rank, *])
  · exact hissue (by simp [Live, rank, *])

theorem Kept.issueChannelConnectIfPossible (h : Kept s) : Kept s.issueChannelConnectIfPossible := by
  unfold RUDPICESocketSession.issueChannelConnectIfPossible
  split
  case isFalse => exact h
  case isTrue =>
  refine (h.forEach (fun s entry => ?_) fun s entry hs hlocal => ?_).1
  · split
    · exact .refl s
    · exact .issueConnectIfNotIssued
  · split
    · exact hs
    case isFalse hremote => exact hs.issueConnect (hs.registered hlocal) (Bool.eq_false_iff.mpr hremote)

end Session

section Registering

variable {s : RUDPICESocketSession}

theorem allocate_of_lt {c : Nat} (hc : c < s.allocated) (channel : RUDPChannel) :
    (s.allocate channel).channels c = s.channels c := by
  simp [allocate, Nat.ne_of_lt hc]

@[simp] theorem allocate_self (channel : RUDPChannel) : (s.allocate channel).channels s.allocated = channel := by
  simp [allocate]

/-- A new channel under a number that was free, and under the number of the remote party if it is known. -/
structure New (s s' : RUDPICESocketSession) (channel : RUDPChannel) : Prop where
  free : s.mLocalChannelNumberSessions[channel.mIncomingChannelNumber]? = none
  channels : s'.channels = (s.allocate channel).channels
  allocated : s'.allocated = s.allocated + 1
  local_ : s'.mLocalChannelNumberSessions =
    s.mLocalChannelNumberSessions.insert channel.mIncomingChannelNumber s.allocated
  remote : ∀ n : Nat, s'.mRemoteChannelNumberSessions[n]? =
    if n = channel.mOutgoingChannelNumber ∧ n ≠ 0 then some s.allocated else s.mRemoteChannelNumberSessions[n]?
  pending : s'.mPendingSessions = s.mPendingSessions ∨ s'.mPendingSessions = s.mPendingSessions ++ [s.allocated]
  state : s'.mCurrentState = s.mCurrentState
  notices : s'.notices = s.notices
  closedWith : s'.closedWith = s.closedWith
  open_ : s.mCurrentState ≠ .shutdown
  waiting : channel.mOpenRequest = none
  stream : channel.mStream = true → channel.mOutgoingChannelNumber ≠ 0
  unused : channel.mOutgoingChannelNumber ≠ 0 → Unused s s.allocated channel.mOutgoingChannelNumber

theorem New.registered {s' : RUDPICESocketSession} {channel : RUDPChannel} (h : Kept s) (hnew : New s s' channel)
    (c : Nat) : Registered s' c ↔ Registered s c ∨ c = s.allocated := by
  unfold Registered
  rw [hnew.channels, hnew.local_, ExtTreeMap.getElem?_insert]
  rcases Nat.lt_trichotomy c s.allocated with hc | hc | hc
  · rw [allocate_of_lt hc]
    split
    case isTrue heq =>
      have hfree := hnew.free
      rw [Nat.compare_eq_eq.mp heq] at hfree
      simp [hfree, Nat.ne_of_lt hc, Nat.ne_of_gt hc]
    case isFalse => simp [Nat.ne_of_lt hc]
  · subst hc
    simp
  · have hnot : ∀ n : Nat, s.mLocalChannelNumberSessions[n]? ≠ some c := fun n hn =>
      absurd (h.own n c hn).2 (Nat.not_lt.mpr (Nat.le_of_lt hc))
    split
    case isTrue => simp [hnot, Nat.ne_of_gt hc, Nat.ne_of_lt hc]
    case isFalse => simp [hnot, Nat.ne_of_gt hc]

theorem Kept.register {s' : RUDPICESocketSession} {channel : RUDPChannel} (h : Kept s) (hnew : New s s' channel) :
    Kept s' := by
  have hregistered := hnew.registered h
  have hold : ∀ {c : Nat}, c < s.allocated → s'.channels c = s.channels c := by
    intro c hc
    rw [hnew.channels]
    exact allocate_of_lt hc channel
  have hself : s'.channels s.allocated = channel := by
    rw [hnew.channels]
    exact allocate_self channel
  have hlt : ∀ {c : Nat}, c < s'.allocated → c < s.allocated ∨ c = s.allocated := by
    intro c hc
    rw [hnew.allocated] at hc
    omega
  constructor
  case own =>
    intro n c hlocal
    rw [hnew.local_, ExtTreeMap.getElem?_insert] at hlocal
    rw [hnew.allocated]
    split at hlocal
    case isTrue heq =>
      rw [← Option.some.inj hlocal, hself]
      exact ⟨Nat.compare_eq_eq.mp heq, Nat.lt_succ_self _⟩
    case isFalse =>
      obtain ⟨hown, hc⟩ := h.own n c hlocal
      rw [hold hc]
      exact ⟨hown, Nat.lt_succ_of_lt hc⟩
  case remote =>
    intro n c hremote
    rw [hnew.remote] at hremote
    rw [hregistered]
    split at hremote
    case isTrue heq =>
      rw [← Option.some.inj hremote, hself]
      exact ⟨.inr rfl, heq.1.symm, heq.2⟩
    case isFalse =>
      obtain ⟨hc, hout, hn⟩ := h.remote n c hremote
      rw [hold (h.lt hc)]
      exact ⟨.inl hc, hout, hn⟩
  case pending =>
    intro c hc
    rw [hregistered]
    rcases hnew.pending with hp | hp
    · exact .inl (h.pending c (hp ▸ hc))
    · rw [hp, List.mem_append, List.mem_singleton] at hc
      exact hc.imp (h.pending c) id
  case pendingOnce =>
    rcases hnew.pending with hp | hp
    · rw [hp]
      exact h.pendingOnce
    · rw [hp]
      refine List.nodup_append.mpr ⟨h.pendingOnce, List.nodup_singleton _, ?_⟩
      rintro c hc c' hc' rfl
      rw [List.mem_singleton.mp hc'] at hc
      exact absurd (h.lt (h.pending _ hc)) (Nat.lt_irrefl _)
  case outgoing =>
    intro c c' hc hc' heq hne
    rw [hregistered] at hc hc'
    rcases hc with hc | rfl <;> rcases hc' with hc' | rfl
    · rw [hold (h.lt hc)] at heq hne
      rw [hold (h.lt hc')] at heq
      exact h.outgoing c c' hc hc' heq hne
    · rw [hold (h.lt hc), hself] at heq
      rw [hold (h.lt hc)] at hne
      exact absurd heq (hnew.unused (heq ▸ hne) c hc (Nat.ne_of_lt (h.lt hc)))
    · rw [hold (h.lt hc'), hself] at heq
      rw [hself] at hne
      exact absurd heq.symm (hnew.unused hne c' hc' (Nat.ne_of_lt (h.lt hc')))
    · rfl
  case awaiting =>
    intro c hc hopen
    rcases hlt hc with hc | rfl
    · rw [hold hc] at hopen ⊢
      exact h.awaiting c hc hopen
    · rw [hself, hnew.waiting] at hopen
      cases hopen
  case stream =>
    intro c hc hstream
    rcases hlt hc with hc | rfl
    · rw [hold hc] at hstream ⊢
      exact h.stream c hc hstream
    · rw [hself] at hstream ⊢
      exact hnew.stream hstream
  case issued =>
    intro c hc hlive hne
    rw [hregistered] at hc
    rw [hnew.remote]
    rcases hc with hc | rfl
    · simp only [Live, hold (h.lt hc)] at hlive hne ⊢
      rcases h.issued c hc hlive hne with hsome | hfound
      · exact .inl hsome
      · refine .inr ?_
        rw [if_neg, hfound]
        rintro ⟨heq, -⟩
        exact hnew.unused (heq ▸ hne) c hc (Nat.ne_of_lt (h.lt hc)) heq
    · rw [hself] at hne ⊢
      exact .inr (if_pos ⟨rfl, hne⟩)
  case live =>
    intro c hc hlive
    rw [hregistered, hnew.state]
    rcases hlt hc with hc | rfl
    · simp only [Live, hold hc] at hlive
      exact (h.live c hc hlive).imp .inl id
    · exact .inl (.inr rfl)
  case ordered =>
    rw [hnew.notices]
    exact h.ordered
  case noticed =>
    intro e he
    rw [hnew.notices] at he
    obtain ⟨hc, hrank⟩ := h.noticed e he
    rw [hold hc, hnew.allocated]
    exact ⟨Nat.lt_succ_of_lt hc, hrank⟩
  case connected =>
    intro e he hconnected
    rw [hnew.notices] at he
    obtain ⟨hne, hc⟩ := h.connected e he hconnected
    rw [hold (h.noticed e he).1, hregistered, hnew.state]
    exact ⟨hne, hc.imp .inl id⟩
  case closed =>
    rw [hnew.state]
    exact fun heq => absurd heq hnew.open_
  case closedWith =>
    rw [hnew.closedWith]
    exact h.closedWith

theorem free_of_find {generateBlock : Nat → Nat} {channelNumber : Nat}
    (h : s.findFreeChannelNumber generateBlock = some channelNumber) :
    s.mLocalChannelNumberSessions[channelNumber]? = none := by
  have hfree := List.find?_some h
  rw [Bool.not_eq_true', ← ExtTreeMap.isSome_getElem?_eq_contains] at hfree
  exact Option.not_isSome_iff_eq_none.mp (by simp [hfree])

theorem Kept.openChannel (h : Kept s) (generateBlock : Nat → Nat) : Kept (s.openChannel generateBlock).1 := by
  unfold RUDPICESocketSession.openChannel
  split
  case isTrue => exact h
  case isFalse hstate =>
  split
  case isTrue => exact h
  split
  · exact h
  next channelNumber hfound =>
    have hnot : s.mCurrentState ≠ .shutdown := fun heq => hstate (.inr (by simp [isShutdown, heq]))
    refine (@Kept.register s _ { mIncoming := false, mIncomingChannelNumber := channelNumber, mStream := false } h
      ?_).issueChannelConnectIfPossible
    exact {
      free := free_of_find hfound
      channels := rfl
      allocated := rfl
      local_ := rfl
      remote := fun n => by simp [allocate]
      pending := .inl rfl
      state := rfl
      notices := rfl
      closedWith := rfl
      open_ := hnot
      waiting := rfl
      stream := by simp
      unused := by simp }

/-- A channel that is made for the tables, but is being shut down before it is in them. -/
theorem Kept.allocateDead (h : Kept s) {channel : RUDPChannel} (hstate : channel.mCurrentState = .shuttingDown)
    (hopen : channel.mOpenRequest = none) (hout : channel.mOutgoingChannelNumber ≠ 0) :
    Kept { s.allocate channel with notices := s.notices ++ [(s.allocated, .shuttingDown)] } := by
  have hold : ∀ {c : Nat}, c < s.allocated → (s.allocate channel).channels c = s.channels c :=
    fun hc => allocate_of_lt hc channel
  have hregistered : ∀ c, Registered (s.allocate channel) c ↔ Registered s c := by
    intro c
    constructor
    · intro hc
      have hlt := (h.own _ c hc).2
      rw [Registered, hold hlt] at hc
      exact hc
    · intro hc
      rw [Registered, hold (h.lt hc)]
      exact hc
  have hlt : ∀ {c : Nat}, c < s.allocated + 1 → c < s.allocated ∨ c = s.allocated := by omega
  constructor
  case own =>
    intro n c hlocal
    obtain ⟨hown, hc⟩ := h.own n c hlocal
    exact ⟨(congrArg RUDPChannel.mIncomingChannelNumber (hold hc)).trans hown, Nat.lt_succ_of_lt hc⟩
  case remote =>
    intro n c hremote
    obtain ⟨hc, hnumber, hn⟩ := h.remote n c hremote
    exact ⟨(hregistered c).mpr hc, (congrArg RUDPChannel.mOutgoingChannelNumber (hold (h.lt hc))).trans hnumber, hn⟩
  case pending => exact fun c hc => (hregistered c).mpr (h.pending c hc)
  case pendingOnce => exact h.pendingOnce
  case outgoing =>
    intro c c' hc hc' heq hne
    have hc := (hregistered c).mp hc
    have hc' := (hregistered c').mp hc'
    simp only [hold (h.lt hc), hold (h.lt hc')] at heq hne
    exact h.outgoing c c' hc hc' heq hne
  case awaiting =>
    intro c hc hawaiting
    rcases hlt hc with hc | rfl
    · simp only [hold hc] at hawaiting ⊢
      exact h.awaiting c hc hawaiting
    · simp [hopen] at hawaiting
  case stream =>
    intro c hc hstream
    rcases hlt hc with hc | rfl
    · simp only [hold hc] at hstream ⊢
      exact h.stream c hc hstream
    · simpa using hout
  case issued =>
    intro c hc hlive hne
    have hc := (hregistered c).mp hc
    simp only [Live, hold (h.lt hc)] at hlive hne ⊢
    exact h.issued c hc hlive hne
  case live =>
    intro c hc hlive
    rcases hlt hc with hc | rfl
    · simp only [Live, hold hc] at hlive
      exact (h.live c hc hlive).imp (hregistered c).mpr id
    · simp [Live, hstate, rank] at hlive
  case ordered =>
    refine List.pairwise_append.mpr ⟨h.ordered, List.pairwise_singleton _ _, fun a ha b hb heq => ?_⟩
    rw [List.mem_singleton.mp hb] at heq
    exact absurd heq (Nat.ne_of_lt (h.noticed a ha).1)
  case noticed =>
    intro e he
    rcases List.mem_append.mp he with hold' | hnew
    · obtain ⟨hc, hrank⟩ := h.noticed e hold'
      simp only [hold hc]
      exact ⟨Nat.lt_succ_of_lt hc, hrank⟩
    · rw [List.mem_singleton.mp hnew]
      exact ⟨Nat.lt_succ_self _, by simp [hstate]⟩
  case connected =>
    intro e he hconnected
    rcases List.mem_append.mp he with hold' | hnew
    · obtain ⟨hne, hc⟩ := h.connected e hold' hconnected
      simp only [hold (h.noticed e hold').1]
      exact ⟨hne, hc.imp (hregistered e.1).mpr id⟩
    · rw [List.mem_singleton.mp hnew] at hconnected
      cases hconnected
  case closed => exact h.closed
  case closedWith => exact h.closedWith

theorem Kept.turnAway (h : Kept s) {channel : RUDPChannel} (hstate : channel.mCurrentState = .connecting)
    (hopen : channel.mOpenRequest = none) (hout : channel.mOutgoingChannelNumber ≠ 0) (finishes : Bool) :
    Kept ((s.allocate channel).cancelChannel s.allocated finishes) := by
  have hchanged : (s.allocate channel).setChannelState s.allocated .shuttingDown =
      { s.allocate { channel with mCurrentState := .shuttingDown } with
        notices := s.notices ++ [(s.allocated, .shuttingDown)] } := by
    simp [RUDPICESocketSession.setChannelState, RUDPICESocketSession.setChannel, allocate, hstate]
  have hkept : Kept ((s.allocate channel).setChannelState s.allocated .shuttingDown) := by
    rw [hchanged]
    exact @Kept.allocateDead s h { channel with mCurrentState := .shuttingDown } rfl hopen hout
  unfold RUDPICESocketSession.cancelChannel
  rw [if_neg (by simp [hstate])]
  exact hkept.shutDown (lt_setChannelState (Nat.lt_succ_self _) _) (by simp [Live, rank]) finishes

/-- A request for a new channel that is taken. -/
structure Taken (s : RUDPICESocketSession) (stun : STUN) (meeting : Meeting) : Prop where
  state : s.mCurrentState ≠ .shuttingDown ∧ s.mCurrentState ≠ .shutdown
  mClass : stun.mClass ≠ .indication
  mMethod : stun.mMethod = .reliableChannelOpen
  attributes : stun.hasMessageIntegrity ∧ stun.hasNextSequenceNumber ∧ 1 ≤ stun.mLocalCongestionControl.length ∧
    1 ≤ stun.mRemoteCongestionControl.length ∧ ':' ∈ stun.mUsername.toList
  free : s.findFreeChannelNumber meeting.generateBlock ≠ none
  hasCandidate : meeting.hasCandidate = true
  response : meeting.response = some .success

theorem Kept.handleUnknownChannel (h : Kept s) {stun : STUN} (meeting : Meeting)
    (hnumber : stun.mChannelNumber ≠ 0) (hunused : Taken s stun meeting → Unused s s.allocated stun.mChannelNumber) :
    Kept (s.handleUnknownChannel stun meeting).1 := by
  unfold RUDPICESocketSession.handleUnknownChannel
  split
  case isTrue => exact h
  case isFalse hstate =>
  split
  case isTrue => exact h
  split
  case isTrue => exact h
  case isFalse hclass =>
  split
  case isTrue => exact h
  case isFalse hmethod =>
  split
  case isTrue => exact h
  case isFalse hattributes =>
  split
  case isTrue => exact h
  case isFalse husername =>
  split
  · exact h
  next channelNumber hfound =>
  split
  case isTrue => exact h
  case isFalse hcandidate =>
  simp only []
  split
  · exact h.turnAway rfl rfl hnumber _
  · exact h.turnAway rfl rfl hnumber _
  next hresponse =>
    have hnot : s.mCurrentState ≠ .shuttingDown ∧ s.mCurrentState ≠ .shutdown := by
      simpa [isShuttingDown, isShutdown] using hstate
    have htaken : Taken s stun meeting := by
      constructor
      case state => exact hnot
      case mClass => exact hclass
      case mMethod => exact not_not.mp hmethod
      case attributes => simp at hattributes husername; grind
      case free => simp [hfound]
      case hasCandidate => simpa using hcandidate
      case response => exact hresponse
    have hnew : New s
        { s.allocate
            { mIncoming := true, mIncomingChannelNumber := channelNumber,
              mOutgoingChannelNumber := stun.mChannelNumber, mStream := true } with
          mLocalChannelNumberSessions := s.mLocalChannelNumberSessions.insert channelNumber s.allocated
          mRemoteChannelNumberSessions := s.mRemoteChannelNumberSessions.insert stun.mChannelNumber s.allocated
          mPendingSessions := s.mPendingSessions ++ [s.allocated] }
        { mIncoming := true, mIncomingChannelNumber := channelNumber,
          mOutgoingChannelNumber := stun.mChannelNumber, mStream := true } := {
      free := free_of_find hfound
      channels := rfl
      allocated := rfl
      local_ := rfl
      remote := by
        intro n
        simp only [ExtTreeMap.getElem?_insert, Nat.compare_eq_eq]
        by_cases hn : stun.mChannelNumber = n
        · subst hn
          simp [hnumber]
        · simp [hn, Ne.symm hn]
      pending := .inr rfl
      state := rfl
      notices := rfl
      closedWith := rfl
      open_ := hnot.2
      waiting := rfl
      stream := fun _ => hnumber
      unused := fun _ => hunused htaken }
    have hkept := h.register hnew
    split
    · exact (hkept.setError delegateGoneReason).cancel meeting.finishes
    · exact hkept

end Registering

section Notices

variable {s : RUDPICESocketSession} {channel : Nat} {notices : List (Nat × RUDPChannelStates)}

theorem Kept.take {e : Nat × RUDPChannelStates} (h : Kept s) (hnotices : s.notices = e :: notices) :
    Kept { s with notices := notices } where
  __ := h
  ordered := (List.pairwise_cons.mp (hnotices ▸ h.ordered)).2
  noticed e he := h.noticed e (hnotices ▸ List.mem_cons_of_mem _ he)
  connected e he := h.connected e (hnotices ▸ List.mem_cons_of_mem _ he)

/-- A channel is found under the number the remote party gave it. -/
theorem Kept.enter (h : Kept s) (hregistered : Registered s channel)
    (hne : (s.channels channel).mOutgoingChannelNumber ≠ 0) :
    Kept { s with
      mRemoteChannelNumberSessions :=
        s.mRemoteChannelNumberSessions.insert (s.channels channel).mOutgoingChannelNumber channel } where
  __ := h
  remote n c hremote := by
    rw [ExtTreeMap.getElem?_insert] at hremote
    split at hremote
    case isTrue heq =>
      have heq := Nat.compare_eq_eq.mp heq
      rw [← Option.some.inj hremote]
      exact ⟨hregistered, heq, heq ▸ hne⟩
    case isFalse => exact h.remote n c hremote
  issued c hc hlive hout := by
    refine (h.issued c hc hlive hout).imp id fun hfound => ?_
    rw [ExtTreeMap.getElem?_insert]
    split
    case isTrue heq => rw [h.outgoing channel c hregistered hc (Nat.compare_eq_eq.mp heq) hne]
    case isFalse => exact hfound
  closed heq := by
    have hlocal := (h.closed heq).1.1
    rw [Registered, hlocal] at hregistered
    simp at hregistered

/-- A channel that is shut down, and gives no more notices, leaves the tables. -/
theorem Kept.leave (h : Kept s) (hstate : (s.channels channel).mCurrentState = .shutdown)
    (hlast : ∀ e ∈ s.notices, e.1 ≠ channel) :
    Kept { s with
      mLocalChannelNumberSessions := Maps.eraseValue s.mLocalChannelNumberSessions channel
      mRemoteChannelNumberSessions := Maps.eraseValue s.mRemoteChannelNumberSessions channel
      mPendingSessions := s.mPendingSessions.erase channel } := by
  have hlocalOne : ∀ n n' : Nat, s.mLocalChannelNumberSessions[n]? = some channel →
      s.mLocalChannelNumberSessions[n']? = some channel → n = n' :=
    fun n n' hn hn' => (h.own n channel hn).1.symm.trans (h.own n' channel hn').1
  have hremoteOne : ∀ n n' : Nat, s.mRemoteChannelNumberSessions[n]? = some channel →
      s.mRemoteChannelNumberSessions[n']? = some channel → n = n' :=
    fun n n' hn hn' => (h.remote n channel hn).2.1.symm.trans (h.remote n' channel hn').2.1
  have hregistered : ∀ c, Registered { s with
      mLocalChannelNumberSessions := Maps.eraseValue s.mLocalChannelNumberSessions channel
      mRemoteChannelNumberSessions := Maps.eraseValue s.mRemoteChannelNumberSessions channel
      mPendingSessions := s.mPendingSessions.erase channel } c ↔ Registered s c ∧ c ≠ channel := by
    intro c
    constructor
    · intro hc
      exact ⟨Maps.getElem?_of_eraseValue hc, Maps.ne_of_eraseValue hlocalOne hc⟩
    · rintro ⟨hc, hne⟩
      exact Maps.getElem?_eraseValue_of_ne hc hne
  constructor
  case own => exact fun n c hlocal => h.own n c (Maps.getElem?_of_eraseValue hlocal)
  case remote =>
    intro n c hremote
    obtain ⟨hc, hout, hn⟩ := h.remote n c (Maps.getElem?_of_eraseValue hremote)
    exact ⟨(hregistered c).mpr ⟨hc, Maps.ne_of_eraseValue hremoteOne hremote⟩, hout, hn⟩
  case pending =>
    intro c hc
    obtain ⟨hne, hmem⟩ := h.pendingOnce.mem_erase_iff.mp hc
    exact (hregistered c).mpr ⟨h.pending c hmem, hne⟩
  case pendingOnce => exact h.pendingOnce.erase channel
  case outgoing =>
    exact fun c c' hc hc' => h.outgoing c c' ((hregistered c).mp hc).1 ((hregistered c').mp hc').1
  case awaiting => exact h.awaiting
  case stream => exact h.stream
  case issued =>
    intro c hc hlive hne
    obtain ⟨hc, hother⟩ := (hregistered c).mp hc
    exact (h.issued c hc hlive hne).imp id fun hfound => Maps.getElem?_eraseValue_of_ne hfound hother
  case live =>
    intro c hc hlive
    have hother : c ≠ channel := by
      rintro rfl
      simp [Live, hstate, rank] at hlive
    exact (h.live c hc hlive).imp (fun hregistered' => (hregistered c).mpr ⟨hregistered', hother⟩) id
  case ordered => exact h.ordered
  case noticed => exact h.noticed
  case connected =>
    intro e he hconnected
    obtain ⟨hne, hc⟩ := h.connected e he hconnected
    exact ⟨hne, hc.imp (fun hregistered' => (hregistered e.1).mpr ⟨hregistered', hlast e he⟩) id⟩
  case closed =>
    intro heq
    obtain ⟨⟨hlocal, hremote, hpending⟩, hclosedWith⟩ := h.closed heq
    refine ⟨⟨?_, ?_, ?_⟩, hclosedWith⟩
    · simp only [hlocal]
      rfl
    · simp only [hremote]
      rfl
    · simp only [hpending]
      rfl
  case closedWith => exact h.closedWith

theorem Kept.handleNotice {notified : RUDPChannelStates} (h : Kept s)
    (hnotices : s.notices = (channel, notified) :: notices) (state : ICESocketSessionStates) (finishes : Nat → Bool) :
    Kept ({ s with notices := notices }.onRUDPChannelStateChanged channel notified state finishes) := by
  have htaken := h.take hnotices
  have hmem : (channel, notified) ∈ s.notices := hnotices ▸ List.mem_cons_self
  cases notified with
  | connecting => exact htaken.step state finishes
  | shuttingDown => exact htaken.step state finishes
  | connected =>
    simp only [onRUDPChannelStateChanged]
    split
    case isFalse => exact htaken
    case isTrue hcontains =>
      obtain ⟨hne, hregistered⟩ := h.connected _ hmem rfl
      refine (htaken.enter (hregistered.resolve_right fun hclosed => ?_) hne).step state finishes
      rw [(h.closed hclosed).1.1] at hcontains
      simp at hcontains
  | shutdown =>
    have hordered := hnotices ▸ h.ordered
    have hstate : (s.channels channel).mCurrentState = .shutdown := by
      have hrank := (h.noticed _ hmem).2
      revert hrank
      cases (s.channels channel).mCurrentState <;> simp [rank]
    refine (htaken.leave hstate fun e he heq => ?_).step state finishes
    have hlt := (List.pairwise_cons.mp hordered).1 e he heq.symm
    have hle : rank e.2 ≤ 3 := by cases e.2 <;> simp [rank]
    exact absurd hlt (Nat.not_lt.mpr hle)

end Notices

section Runs

variable {s : RUDPICESocketSession}

/-- The remote party gives no number that another channel of the session has: not in the response to an open request,
nor in a request for a new channel that is taken. -/
def Fresh (s : RUDPICESocketSession) : Happening → Prop
  | .openResponse channel channelNumber _ =>
    (s.channels channel).mOpenRequest = some false → channelNumber ≠ 0 → Unused s channel channelNumber
  | .stun stun localUsernameFrag remoteUsernameFrag meeting =>
    localUsernameFrag = s.localUsernameFrag → remoteUsernameFrag = s.remoteUsernameFrag →
      s.mRemoteChannelNumberSessions[stun.mChannelNumber]? = none → Taken s stun meeting →
      Unused s s.allocated stun.mChannelNumber
  | _ => True

theorem Kept.handleSTUN (h : Kept s) (stun : STUN) (localUsernameFrag remoteUsernameFrag : String) (meeting : Meeting)
    (hfresh : Fresh s (.stun stun localUsernameFrag remoteUsernameFrag meeting)) :
    Kept (s.handleICESocketSessionReceivedSTUNPacket stun localUsernameFrag remoteUsernameFrag meeting).1 := by
  unfold handleICESocketSessionReceivedSTUNPacket
  split
  case isTrue => exact h
  split
  case isTrue => exact h
  split
  case isTrue => exact h
  split
  case isTrue => exact h
  case isFalse hattributes =>
  split
  case isTrue => exact h
  case isFalse hlocal =>
  split
  next session hfound =>
    simp only []
    split
    · exact h.closeChannel (h.lt (h.remote _ session hfound).1) true _
    · exact h
  next hnone =>
    split
    case isTrue => exact h
    case isFalse hremote =>
      exact h.handleUnknownChannel meeting (fun hzero => hattributes (.inr hzero))
        (hfresh (not_not.mp hlocal) (not_not.mp hremote) hnone)

theorem Kept.after (h : Kept s) (e : Happening) (hfresh : Fresh s e) : Kept (s.after e) := by
  cases e with
  | openChannel generateBlock => exact h.openChannel generateBlock
  | acceptChannel =>
    simp only [RUDPICESocketSession.after, acceptChannel]
    split
    · exact h
    next found pending hpending =>
      constructor
      case pending => exact fun c hc => h.pending c (hpending ▸ List.mem_cons_of_mem _ hc)
      case pendingOnce => exact (List.nodup_cons.mp (hpending ▸ h.pendingOnce)).2
      case closed =>
        intro heq
        have hempty := (h.closed heq).1.2.2
        rw [hpending] at hempty
        cases hempty
      case own => exact h.own
      case remote => exact h.remote
      case outgoing => exact h.outgoing
      case awaiting => exact h.awaiting
      case stream => exact h.stream
      case issued => exact h.issued
      case live => exact h.live
      case ordered => exact h.ordered
      case noticed => exact h.noticed
      case connected => exact h.connected
      case closedWith => exact h.closedWith
  | shutdown finishes => exact h.cancel finishes
  | iceStateChanged state errorCode finishes =>
    simp only [RUDPICESocketSession.after, onICESocketSessionStateChanged]
    split
    · exact h
    split
    · split
      · exact (h.setError errorCode).cancel finishes
      · exact h.cancel finishes
    · exact h.issueChannelConnectIfPossible.step _ finishes
    · exact h.step state finishes
  | stun stun localUsernameFrag remoteUsernameFrag meeting => exact h.handleSTUN stun _ _ meeting hfresh
  | notice state finishes =>
    simp only [RUDPICESocketSession.after]
    split
    · exact h
    next channel notified notices hnotices => exact h.handleNotice hnotices state finishes
  | wake channel finishes =>
    simp only [RUDPICESocketSession.after]
    split
    case isTrue hlt => exact h.stepChannel hlt finishes
    case isFalse => exact h
  | openResponse channel channelNumber finishes =>
    simp only [RUDPICESocketSession.after]
    split
    case isTrue hlt => exact h.openResponse hlt finishes hfresh
    case isFalse => exact h
  | closeChannel channel dropsOpenRequest finishes =>
    simp only [RUDPICESocketSession.after]
    split
    case isTrue hlt => exact h.closeChannel hlt dropsOpenRequest finishes
    case isFalse => exact h

theorem kept_start (localUsernameFrag remoteUsernameFrag : String) :
    Kept (start localUsernameFrag remoteUsernameFrag) := by
  constructor <;> simp [start, Registered]

theorem Kept.run (h : Kept s) {es : List Happening} (hfresh : Runs.Meets RUDPICESocketSession.after Fresh s es) :
    Kept (Runs.run RUDPICESocketSession.after s es) := by
  induction es generalizing s with
  | nil => exact h
  | cons e es ih => exact ih (h.after e hfresh.1) hfresh.2

/-- What is told of the tables: each channel is registered under its own number, no two share a number, packets reach
the channel whose number they carry, and the session was shut down with no channel left. A channel without a number of
the remote party has the number 0. -/
structure Sound (s : RUDPICESocketSession) : Prop where
  remote : ∀ n c : Nat, s.mRemoteChannelNumberSessions[n]? = some c →
    s.mLocalChannelNumberSessions[(s.channels c).mIncomingChannelNumber]? = some c
  pending : ∀ c ∈ s.mPendingSessions, s.mLocalChannelNumberSessions[(s.channels c).mIncomingChannelNumber]? = some c
  incoming : ∀ n n' c c' : Nat, s.mLocalChannelNumberSessions[n]? = some c →
    s.mLocalChannelNumberSessions[n']? = some c' →
    (s.channels c).mIncomingChannelNumber = (s.channels c').mIncomingChannelNumber → c = c'
  outgoing : ∀ n n' c c' : Nat, s.mLocalChannelNumberSessions[n]? = some c →
    s.mLocalChannelNumberSessions[n']? = some c' → (s.channels c).mOutgoingChannelNumber ≠ 0 →
    (s.channels c).mOutgoingChannelNumber = (s.channels c').mOutgoingChannelNumber → c = c'
  packet : ∀ n c : Nat, s.handleICESocketSessionReceivedPacket n = some c → (s.channels c).mIncomingChannelNumber = n
  request : ∀ (stun : STUN) (localUsernameFrag remoteUsernameFrag : String) (meeting : Meeting) (c : Nat),
    (s.handleICESocketSessionReceivedSTUNPacket stun localUsernameFrag remoteUsernameFrag meeting).2.handedTo = some c →
    (s.channels c).mOutgoingChannelNumber = stun.mChannelNumber
  closed : s.mCurrentState = .shutdown → ∃ t, s.closedWith = some t ∧ t.Empty

theorem respond_handedTo (stun : STUN) (handedTo : Option Nat) (response : Option Response) (handled : Bool) :
    (respond stun handedTo response handled).handedTo = handedTo := by
  unfold respond
  repeat' split
  all_goals rfl

theorem handedTo_remote {stun : STUN} {localUsernameFrag remoteUsernameFrag : String} {meeting : Meeting} {c : Nat}
    (h : (s.handleICESocketSessionReceivedSTUNPacket stun localUsernameFrag remoteUsernameFrag meeting).2.handedTo =
      some c) : s.mRemoteChannelNumberSessions[stun.mChannelNumber]? = some c := by
  unfold handleICESocketSessionReceivedSTUNPacket at h
  repeat' split at h
  all_goals simp_all [respond_handedTo]

theorem Kept.sound (h : Kept s) : Sound s where
  remote n c hremote := (h.remote n c hremote).1
  pending := h.pending
  incoming n n' c c' hc hc' heq := by
    have hregistered := h.registered hc
    rw [Registered, heq, h.registered hc'] at hregistered
    exact (Option.some.inj hregistered).symm
  outgoing n n' c c' hc hc' hne heq := h.outgoing c c' (h.registered hc) (h.registered hc') heq hne
  packet n c hc := (h.own n c hc).1
  request _ _ _ _ c hc := (h.remote _ c (handedTo_remote hc)).2.1
  closed hstate := by
    obtain ⟨t, ht⟩ := Option.ne_none_iff_exists'.mp (h.closed hstate).2
    exact ⟨t, ht, h.closedWith t ht⟩

/-- As long as the remote party gives each channel a number of its own, the tables are sound in every state. -/
theorem tables_sound (localUsernameFrag remoteUsernameFrag : String) (es : List Happening)
    (hfresh : Runs.Meets after Fresh (start localUsernameFrag remoteUsernameFrag) es) :
    Sound (Runs.run after (start localUsernameFrag remoteUsernameFrag) es) :=
  ((kept_start localUsernameFrag remoteUsernameFrag).run hfresh).sound

/-- The remote party answers two open requests with one number. -/
def sharedNumber : List Happening :=
  [.iceStateChanged .nominated 0 fun _ => false, .openChannel fun _ => 0, .openChannel fun _ => 1,
    .openResponse 0 0x6005 false, .openResponse 1 0x6005 false, .notice .nominated fun _ => false,
    .notice .nominated fun _ => false]

/-- Two channels then have the number, and what the remote party asks of the first reaches the second. -/
theorem number_shared :
    ¬Sound (Runs.run after (start "local" "remote") sharedNumber) ∧
      (Runs.run after (start "local" "remote") sharedNumber).mRemoteChannelNumberSessions[0x6005]? = some 1 ∧
      ((Runs.run after (start "local" "remote") sharedNumber).channels 0).mOutgoingChannelNumber = 0x6005 := by
  refine ⟨fun h => ?_, by decide, by decide⟩
  have heq := h.outgoing 0x6000 0x6001 0 1 (by decide) (by decide) (by decide) (by decide)
  cases heq

/-- A channel is opened, told its number and shut down with the session. -/
theorem tables_sound_sample :
    Sound (Runs.run after (start "local" "remote")
      [.iceStateChanged .nominated 0 fun _ => false, .openChannel fun _ => 0, .openResponse 0 0x6005 false,
        .notice .nominated fun _ => false, .shutdown fun _ => true]) := by
  apply tables_sound
  refine ⟨trivial, trivial, fun _ _ c hc hne => ?_, trivial, trivial, trivial⟩
  have hlocal : (Runs.run after (start "local" "remote")
      [.iceStateChanged .nominated 0 fun _ => false,
        .openChannel fun _ => 0]).mLocalChannelNumberSessions.toList = [(0x6000, 0)] := by decide
  have hmem := ExtTreeMap.mem_toList_iff_getElem?_eq_some.mpr hc
  simp only [Runs.run_cons, Runs.run_nil] at hlocal
  rw [hlocal, List.mem_singleton] at hmem
  exact absurd (congrArg Prod.snd hmem) hne

end Runs

end OpenPeer.RUDPSession.RUDPICESocketSession
