import OpenPeer.RUDPICESocketSession

/-!
# What the channels do to the tables

The states of a channel only go on, and it gives notice of each. What it does to itself, what
is done to it and the number that the remote party gives it keep what the tables of its
session say of it, as long as no other channel of the session has that number.
-/
namespace OpenPeer.RUDPSession

open Std

def Tables.Empty (t : Tables) : Prop :=
  t.mLocalChannelNumberSessions = ∅ ∧ t.mRemoteChannelNumberSessions = ∅ ∧ t.mPendingSessions = []

namespace RUDPICESocketSession

section Invariant

def rank : RUDPChannelStates → Nat
  | .connecting => 0
  | .connected => 1
  | .shuttingDown => 2
  | .shutdown => 3

/-- The channel is found under its own incoming number. -/
def Registered (s : RUDPICESocketSession) (channel : Nat) : Prop :=
  s.mLocalChannelNumberSessions[(s.channels channel).mIncomingChannelNumber]? = some channel

/-- The channel is not being shut down. -/
def Live (s : RUDPICESocketSession) (channel : Nat) : Prop := rank (s.channels channel).mCurrentState ≤ 1

/-- What the tables say of the channels, the notices of the channels, and what is still to come from them. -/
structure Kept (s : RUDPICESocketSession) : Prop where
  own : ∀ (n c : Nat), s.mLocalChannelNumberSessions[n]? = some c →
    (s.channels c).mIncomingChannelNumber = n ∧ c < s.allocated
  remote : ∀ (n c : Nat), s.mRemoteChannelNumberSessions[n]? = some c →
    Registered s c ∧ (s.channels c).mOutgoingChannelNumber = n ∧ n ≠ 0
  pending : ∀ c ∈ s.mPendingSessions, Registered s c
  pendingOnce : s.mPendingSessions.Nodup
  outgoing : ∀ c c', Registered s c → Registered s c' →
    (s.channels c).mOutgoingChannelNumber = (s.channels c').mOutgoingChannelNumber →
    (s.channels c).mOutgoingChannelNumber ≠ 0 → c = c'
  awaiting : ∀ c < s.allocated, (s.channels c).mOpenRequest = some false → (s.channels c).mOutgoingChannelNumber = 0
  stream : ∀ c < s.allocated, (s.channels c).mStream = true → (s.channels c).mOutgoingChannelNumber ≠ 0
  issued : ∀ c, Registered s c → Live s c → (s.channels c).mOutgoingChannelNumber ≠ 0 →
    (s.channels c).mOpenRequest ≠ none ∨
      s.mRemoteChannelNumberSessions[(s.channels c).mOutgoingChannelNumber]? = some c
  live : ∀ c < s.allocated, Live s c → Registered s c ∨ s.mCurrentState = .shutdown
  ordered : s.notices.Pairwise fun a b => a.1 = b.1 → rank a.2 < rank b.2
  noticed : ∀ e ∈ s.notices, e.1 < s.allocated ∧ rank e.2 ≤ rank (s.channels e.1).mCurrentState
  connected : ∀ e ∈ s.notices, e.2 = .connected →
    (s.channels e.1).mOutgoingChannelNumber ≠ 0 ∧ (Registered s e.1 ∨ s.mCurrentState = .shutdown)
  closed : s.mCurrentState = .shutdown → s.toTables.Empty ∧ s.closedWith ≠ none
  closedWith : ∀ t, s.closedWith = some t → t.Empty

variable {s : RUDPICESocketSession} {channel : Nat}

theorem Kept.registered (h : Kept s) {n : Nat} (hlocal : s.mLocalChannelNumberSessions[n]? = some channel) :
    Registered s channel := by
  rw [Registered, (h.own n channel hlocal).1]
  exact hlocal

theorem Kept.lt (h : Kept s) (hregistered : Registered s channel) : channel < s.allocated :=
  (h.own _ channel hregistered).2

/-- A channel changes, but not its numbers, and may give notice of it. -/
def edited (s : RUDPICESocketSession) (channel : Nat) (c : RUDPChannel) (added : List (Nat × RUDPChannelStates)) :
    RUDPICESocketSession :=
  { s with channels := Function.update s.channels channel c, notices := s.notices ++ added }

/-- The change leaves the numbers of a channel, and goes on in its states. -/
structure Edit (s : RUDPICESocketSession) (channel : Nat) (c : RUDPChannel) (added : List (Nat × RUDPChannelStates)) :
    Prop where
  incoming : c.mIncomingChannelNumber = (s.channels channel).mIncomingChannelNumber
  outgoing : c.mOutgoingChannelNumber = (s.channels channel).mOutgoingChannelNumber
  forward : rank (s.channels channel).mCurrentState ≤ rank c.mCurrentState
  notice : ∀ e ∈ added, e = (channel, c.mCurrentState) ∧
    rank (s.channels channel).mCurrentState < rank c.mCurrentState ∧
    (c.mCurrentState = .connected → c.mOutgoingChannelNumber ≠ 0)
  once : added = [] ∨ ∃ e, added = [e]
  stream : c.mStream = true → c.mOutgoingChannelNumber ≠ 0
  awaiting : c.mOpenRequest = some false → c.mOutgoingChannelNumber = 0
  issued : rank c.mCurrentState ≤ 1 → c.mOutgoingChannelNumber ≠ 0 → Registered s channel →
    c.mOpenRequest ≠ none ∨ s.mRemoteChannelNumberSessions[c.mOutgoingChannelNumber]? = some channel

variable {c : RUDPChannel} {added : List (Nat × RUDPChannelStates)}

theorem edited_numbers (hedit : Edit s channel c added) (channel' : Nat) :
    ((edited s channel c added).channels channel').mIncomingChannelNumber =
        (s.channels channel').mIncomingChannelNumber ∧
      ((edited s channel c added).channels channel').mOutgoingChannelNumber =
        (s.channels channel').mOutgoingChannelNumber := by
  by_cases hc : channel' = channel
  · subst hc
    simp [edited, hedit.incoming, hedit.outgoing]
  · simp [edited, hc]

theorem registered_edited (hedit : Edit s channel c added) (channel' : Nat) :
    Registered (edited s channel c added) channel' ↔ Registered s channel' := by
  unfold Registered
  rw [(edited_numbers hedit channel').1]
  rfl

theorem rank_edited (hedit : Edit s channel c added) (channel' : Nat) :
    rank (s.channels channel').mCurrentState ≤ rank ((edited s channel c added).channels channel').mCurrentState := by
  by_cases hc : channel' = channel
  · subst hc
    simpa [edited] using hedit.forward
  · simp [edited, hc]

theorem Kept.edit (h : Kept s) (hlt : channel < s.allocated) (hedit : Edit s channel c added) :
    Kept (edited s channel c added) := by
  have hregistered := registered_edited hedit
  have hnumbers := edited_numbers hedit
  have hlive : ∀ channel', Live (edited s channel c added) channel' → Live s channel' :=
    fun channel' hlive' => Nat.le_trans (rank_edited hedit channel') hlive'
  constructor
  case own =>
    intro n channel' hlocal
    rw [(hnumbers channel').1]
    exact h.own n channel' hlocal
  case remote =>
    intro n channel' hremote
    rw [hregistered, (hnumbers channel').2]
    exact h.remote n channel' hremote
  case pending => exact fun channel' hpending => (hregistered channel').mpr (h.pending channel' hpending)
  case pendingOnce => exact h.pendingOnce
  case outgoing =>
    intro c₁ c₂ h₁ h₂ heq hne
    rw [(hnumbers c₁).2] at heq hne
    rw [(hnumbers c₂).2] at heq
    exact h.outgoing c₁ c₂ ((hregistered c₁).mp h₁) ((hregistered c₂).mp h₂) heq hne
  case awaiting =>
    intro channel' hlt' hawaiting
    by_cases hc : channel' = channel
    · subst hc
      simp only [edited, Function.update_self] at hawaiting ⊢
      exact hedit.awaiting hawaiting
    · simp only [edited, Function.update_of_ne hc] at hawaiting ⊢
      exact h.awaiting channel' hlt' hawaiting
  case stream =>
    intro channel' hlt' hstream
    by_cases hc : channel' = channel
    · subst hc
      simp only [edited, Function.update_self] at hstream ⊢
      exact hedit.stream hstream
    · simp only [edited, Function.update_of_ne hc] at hstream ⊢
      exact h.stream channel' hlt' hstream
  case issued =>
    intro channel' hregistered' hlive' hne
    by_cases hc : channel' = channel
    · subst hc
      simp only [edited, Live, Function.update_self] at hlive' hne ⊢
      exact hedit.issued hlive' hne ((hregistered channel').mp hregistered')
    · have hlive := hlive channel' hlive'
      simp only [edited, Function.update_of_ne hc] at hne ⊢
      exact h.issued channel' ((hregistered channel').mp hregistered') hlive hne
  case live =>
    intro channel' hlt' hlive'
    rw [hregistered]
    exact h.live channel' hlt' (hlive channel' hlive')
  case ordered =>
    refine List.pairwise_append.mpr ⟨h.ordered, ?_, fun a ha b hb heq => ?_⟩
    · rcases hedit.once with rfl | ⟨e, rfl⟩
      · exact List.Pairwise.nil
      · exact List.pairwise_singleton _ e
    · obtain ⟨rfl, hrank, -⟩ := hedit.notice b hb
      have hnoticed := (h.noticed a ha).2
      simp only at heq
      rw [heq] at hnoticed
      exact Nat.lt_of_le_of_lt hnoticed hrank
  case noticed =>
    intro e he
    rcases List.mem_append.mp he with hold | hnew
    · exact ⟨(h.noticed e hold).1, Nat.le_trans (h.noticed e hold).2 (rank_edited hedit e.1)⟩
    · obtain ⟨rfl, -⟩ := hedit.notice e hnew
      exact ⟨hlt, by simp [edited]⟩
  case connected =>
    intro e he hconnected
    rw [hregistered, (hnumbers e.1).2]
    rcases List.mem_append.mp he with hold | hnew
    · exact h.connected e hold hconnected
    · obtain ⟨rfl, hrank, hout⟩ := hedit.notice e hnew
      simp only at hconnected
      refine ⟨hedit.outgoing ▸ hout hconnected, h.live channel hlt ?_⟩
      rw [hconnected] at hrank
      exact Nat.le_of_lt hrank
  case closed => exact h.closed
  case closedWith => exact h.closedWith

end Invariant

section Channels

variable {s : RUDPICESocketSession} {channel : Nat}

theorem edited_nil (f : RUDPChannel → RUDPChannel) :
    edited s channel (f (s.channels channel)) [] = s.setChannel channel f := by
  simp [edited, setChannel]

theorem Kept.setChannelState (h : Kept s) (hlt : channel < s.allocated) {state : RUDPChannelStates}
    (hforward : rank (s.channels channel).mCurrentState ≤ rank state)
    (hout : state = .connected → (s.channels channel).mOutgoingChannelNumber ≠ 0) :
    Kept (s.setChannelState channel state) := by
  unfold RUDPICESocketSession.setChannelState
  split
  case isTrue => exact h
  case isFalse hstate =>
  have hlt' : rank (s.channels channel).mCurrentState < rank state := by
    apply Nat.lt_of_le_of_ne hforward
    intro heq
    apply hstate
    revert heq
    cases (s.channels channel).mCurrentState <;> cases state <;> simp [rank]
  have hedit : Edit s channel { s.channels channel with mCurrentState := state } [(channel, state)] := by
    constructor
    case incoming => rfl
    case outgoing => rfl
    case forward => exact hforward
    case notice => simpa using ⟨hlt', hout⟩
    case once => exact .inr ⟨_, rfl⟩
    case stream => exact h.stream channel hlt
    case awaiting => exact h.awaiting channel hlt
    case issued => exact fun hrank hne hregistered => h.issued channel hregistered (Nat.le_trans hforward hrank) hne
  exact h.edit hlt hedit

/-- What a channel does to itself leaves the tables and the other channels. -/
structure Apart (s s' : RUDPICESocketSession) : Prop where
  tables : s'.toTables = s.toTables
  mCurrentState : s'.mCurrentState = s.mCurrentState
  closedWith : s'.closedWith = s.closedWith
  allocated : s'.allocated = s.allocated
  incoming : ∀ c, (s'.channels c).mIncomingChannelNumber = (s.channels c).mIncomingChannelNumber

theorem Apart.refl (s : RUDPICESocketSession) : Apart s s := ⟨rfl, rfl, rfl, rfl, fun _ => rfl⟩

theorem Apart.trans {s₁ s₂ s₃ : RUDPICESocketSession} (h : Apart s₁ s₂) (h' : Apart s₂ s₃) : Apart s₁ s₃ where
  tables := h'.tables.trans h.tables
  mCurrentState := h'.mCurrentState.trans h.mCurrentState
  closedWith := h'.closedWith.trans h.closedWith
  allocated := h'.allocated.trans h.allocated
  incoming c := (h'.incoming c).trans (h.incoming c)

theorem Apart.setChannel {f : RUDPChannel → RUDPChannel}
    (hf : ∀ c, (f c).mIncomingChannelNumber = c.mIncomingChannelNumber) : Apart s (s.setChannel channel f) := by
  refine ⟨rfl, rfl, rfl, rfl, fun c => ?_⟩
  by_cases hc : c = channel
  · subst hc
    simp [RUDPICESocketSession.setChannel, hf]
  · simp [RUDPICESocketSession.setChannel, hc]

theorem Apart.setChannelState (state : RUDPChannelStates) : Apart s (s.setChannelState channel state) := by
  unfold RUDPICESocketSession.setChannelState
  split
  · exact .refl s
  · have h : Apart s (s.setChannel channel fun c => { c with mCurrentState := state }) := .setChannel fun _ => rfl
    exact { h with }

theorem Apart.cancelChannel (finishes : Bool) : Apart s (s.cancelChannel channel finishes) := by
  unfold RUDPICESocketSession.cancelChannel
  split
  · exact .refl s
  · simp only []
    have h := (Apart.setChannelState .shuttingDown).trans (@Apart.setChannel (s.setChannelState channel .shuttingDown)
      channel (fun c => { c with mOpenRequest := c.mOpenRequest.filter fun isComplete => isComplete }) fun _ => rfl)
    split
    · exact h.trans ((Apart.setChannelState .shutdown).trans (.setChannel fun _ => rfl))
    · exact h

theorem Apart.issueConnectIfNotIssued : Apart s (s.issueConnectIfNotIssued channel) := by
  unfold RUDPICESocketSession.issueConnectIfNotIssued
  repeat' split
  all_goals first | exact .refl s | exact .setChannel fun _ => rfl

@[simp] theorem setChannelState_state (state : RUDPChannelStates) :
    ((s.setChannelState channel state).channels channel).mCurrentState = state := by
  unfold setChannelState
  split
  · assumption
  · simp [setChannel]

section

variable (h : Kept s) (hlt : channel < s.allocated)
include h hlt

theorem Kept.giveUp (hdead : ¬Live s channel) {isWaiting : Option Bool} {hasStream : Bool}
    (hwaiting : isWaiting ≠ some false) (hstream : hasStream = true → (s.channels channel).mStream = true) :
    Kept (edited s channel { s.channels channel with mOpenRequest := isWaiting, mStream := hasStream } []) := by
  apply h.edit hlt
  constructor
  case incoming => rfl
  case outgoing => rfl
  case forward => exact Nat.le_refl _
  case notice => simp
  case once => exact .inl rfl
  case stream => exact fun hhas => h.stream channel hlt (hstream hhas)
  case awaiting => exact fun hawaiting => absurd hawaiting hwaiting
  case issued => exact fun hlive => absurd hlive hdead

theorem Kept.dropWaiting (hdead : ¬Live s channel) :
    Kept (s.setChannel channel fun c =>
      { c with mOpenRequest := c.mOpenRequest.filter fun isComplete => isComplete }) := by
  rw [← edited_nil]
  refine h.giveUp hlt hdead ?_ id
  cases (s.channels channel).mOpenRequest with
  | none => simp
  | some isComplete => cases isComplete <;> simp

theorem Kept.finish :
    Kept ((s.setChannelState channel .shutdown).setChannel channel fun c =>
      { c with mOpenRequest := none, mStream := false }) := by
  have hforward : rank (s.channels channel).mCurrentState ≤ rank .shutdown := by
    cases (s.channels channel).mCurrentState <;> simp [rank]
  have h' : Kept (s.setChannelState channel .shutdown) := h.setChannelState hlt hforward (by simp)
  have hlt' : channel < (s.setChannelState channel .shutdown).allocated := by
    rw [(Apart.setChannelState .shutdown).allocated]
    exact hlt
  have hdead : ¬Live (s.setChannelState channel .shutdown) channel := by simp [Live, rank]
  rw [← edited_nil]
  exact h'.giveUp hlt' hdead (by simp) (by simp)

theorem Kept.shutDown (hdead : ¬Live s channel) (finishes : Bool) :
    Kept (let s := s.setChannel channel fun c =>
        { c with mOpenRequest := c.mOpenRequest.filter fun isComplete => isComplete }
      if finishes ∨ (s.channels channel).mStream = false then
        (s.setChannelState channel .shutdown).setChannel channel fun c =>
          { c with mOpenRequest := none, mStream := false }
      else s) := by
  have h' := h.dropWaiting hlt hdead
  simp only []
  split
  case isFalse => exact h'
  case isTrue => exact h'.finish hlt

theorem Kept.beginShutDown (hstate : (s.channels channel).mCurrentState ≠ .shutdown) :
    Kept (s.setChannelState channel .shuttingDown) := by
  apply h.setChannelState hlt _ (by simp)
  cases hcurrent : (s.channels channel).mCurrentState <;> simp [rank]
  exact hstate hcurrent

end

theorem lt_setChannelState (hlt : channel < s.allocated) (state : RUDPChannelStates) :
    channel < (s.setChannelState channel state).allocated := by
  rw [(Apart.setChannelState state).allocated]
  exact hlt

theorem Kept.cancelChannel (h : Kept s) (hlt : channel < s.allocated) (finishes : Bool) :
    Kept (s.cancelChannel channel finishes) := by
  unfold RUDPICESocketSession.cancelChannel
  split
  case isTrue => exact h
  case isFalse hstate =>
    exact (h.beginShutDown hlt hstate).shutDown (lt_setChannelState hlt _) (by simp [Live, rank]) finishes

theorem setChannelState_dropped (state : RUDPChannelStates) :
    (s.setChannel channel fun c => { c with mOpenRequest := none }).setChannelState channel state =
      (s.setChannelState channel state).setChannel channel fun c => { c with mOpenRequest := none } := by
  by_cases hstate : (s.channels channel).mCurrentState = state
  · simp [setChannelState, setChannel, hstate]
  · simp [setChannelState, setChannel, hstate]

theorem Kept.closeChannel (h : Kept s) (hlt : channel < s.allocated) (dropsOpenRequest finishes : Bool) :
    Kept (s.closeChannel channel dropsOpenRequest finishes) := by
  unfold RUDPICESocketSession.closeChannel
  split
  case isFalse => exact h.cancelChannel hlt finishes
  case isTrue =>
  have hdropped : ∀ {s : RUDPICESocketSession}, Kept s → channel < s.allocated → ¬Live s channel →
      Kept (s.setChannel channel fun c => { c with mOpenRequest := none }) := by
    intro s h hlt hdead
    rw [← edited_nil]
    exact h.giveUp hlt hdead (by simp) id
  unfold RUDPICESocketSession.cancelChannel
  split
  case isTrue hstate =>
    have hdead : ¬Live s channel := by
      simp only [RUDPICESocketSession.setChannel, Function.update_self] at hstate
      simp [Live, hstate, rank]
    exact hdropped h hlt hdead
  case isFalse hstate =>
    simp only [RUDPICESocketSession.setChannel, Function.update_self] at hstate
    rw [setChannelState_dropped]
    have h' := hdropped (h.beginShutDown hlt hstate) (lt_setChannelState hlt _) (by simp [Live, rank])
    apply h'.shutDown (lt_setChannelState hlt _)
    simp [Live, rank, RUDPICESocketSession.setChannel]

theorem Kept.stepChannel (h : Kept s) (hlt : channel < s.allocated) (finishes : Bool) :
    Kept (s.stepChannel channel finishes) := by
  unfold RUDPICESocketSession.stepChannel
  have hconnected : ∀ hstate : rank (s.channels channel).mCurrentState ≤ 1,
      Kept (if (s.channels channel).mStream then s.setChannelState channel .connected else s) := by
    intro hstate
    split
    case isTrue hstream => exact h.setChannelState hlt hstate fun _ => h.stream channel hlt hstream
    case isFalse => exact h
  split
  · exact h.cancelChannel hlt finishes
  · exact h.cancelChannel hlt finishes
  · exact hconnected (by simp [*, rank])
  · exact hconnected (by simp [*, rank])

/-- A number that no other channel of the session has. -/
def Unused (s : RUDPICESocketSession) (channel channelNumber : Nat) : Prop :=
  ∀ c, Registered s c → c ≠ channel → (s.channels c).mOutgoingChannelNumber ≠ channelNumber

/-- The remote party gives a channel its number. -/
def numbered (s : RUDPICESocketSession) (channel channelNumber : Nat) : RUDPICESocketSession :=
  s.setChannel channel fun c =>
    { c with mOpenRequest := some true, mOutgoingChannelNumber := channelNumber, mStream := true }

variable (channelNumber : Nat)

theorem numbered_of_ne {c : Nat} (hc : c ≠ channel) :
    (numbered s channel channelNumber).channels c = s.channels c := by
  simp [numbered, setChannel, hc]

@[simp] theorem numbered_self :
    (numbered s channel channelNumber).channels channel = { s.channels channel with
      mOpenRequest := some true, mOutgoingChannelNumber := channelNumber, mStream := true } := by
  simp [numbered, setChannel]

theorem registered_numbered (c : Nat) : Registered (numbered s channel channelNumber) c ↔ Registered s c := by
  have h : Apart s (numbered s channel channelNumber) := .setChannel fun _ => rfl
  unfold Registered
  rw [h.incoming c]
  rfl

theorem live_numbered (c : Nat) : Live (numbered s channel channelNumber) c ↔ Live s c := by
  unfold Live
  by_cases hc : c = channel
  · subst hc
    simp
  · rw [numbered_of_ne channelNumber hc]

theorem Kept.numbered (h : Kept s) (hlt : channel < s.allocated) {channelNumber : Nat} (hnumber : channelNumber ≠ 0)
    (hawaiting : (s.channels channel).mOpenRequest = some false) (hunused : Unused s channel channelNumber) :
    Kept (numbered s channel channelNumber) := by
  have hzero := h.awaiting channel hlt hawaiting
  have hnone : ∀ {n c : Nat}, s.mRemoteChannelNumberSessions[n]? = some c → c ≠ channel := by
    rintro n c hremote rfl
    obtain ⟨-, hout, hn⟩ := h.remote n c hremote
    exact hn (hout.symm.trans hzero)
  have hsame : ∀ c, (RUDPICESocketSession.numbered s channel channelNumber).channels c =
      if c = channel then { s.channels channel with
        mOpenRequest := some true, mOutgoingChannelNumber := channelNumber, mStream := true } else s.channels c := by
    intro c
    split
    case isTrue hc => rw [hc, numbered_self]
    case isFalse hc => exact numbered_of_ne channelNumber hc
  constructor
  case own =>
    intro n c hlocal
    obtain ⟨hown, hc⟩ := h.own n c hlocal
    refine ⟨?_, hc⟩
    rw [hsame]
    split
    case isTrue heq => exact heq ▸ hown
    case isFalse => exact hown
  case remote =>
    intro n c hremote
    rw [registered_numbered, numbered_of_ne channelNumber (hnone hremote)]
    exact h.remote n c hremote
  case pending => exact fun c hc => (registered_numbered channelNumber c).mpr (h.pending c hc)
  case pendingOnce => exact h.pendingOnce
  case outgoing =>
    intro c c' hc hc' heq hne
    rw [registered_numbered] at hc hc'
    by_cases h₁ : c = channel <;> by_cases h₂ : c' = channel
    · exact h₁.trans h₂.symm
    · rw [h₁, numbered_self, numbered_of_ne channelNumber h₂] at heq
      exact absurd heq.symm (hunused c' hc' h₂)
    · rw [h₂, numbered_self, numbered_of_ne channelNumber h₁] at heq
      exact absurd heq (hunused c hc h₁)
    · rw [numbered_of_ne channelNumber h₁] at heq hne
      rw [numbered_of_ne channelNumber h₂] at heq
      exact h.outgoing c c' hc hc' heq hne
  case awaiting =>
    intro c hc hopen
    by_cases h₁ : c = channel
    · subst h₁
      simp at hopen
    · rw [numbered_of_ne channelNumber h₁] at hopen ⊢
      exact h.awaiting c hc hopen
  case stream =>
    intro c hc hstream
    by_cases h₁ : c = channel
    · subst h₁
      simpa using hnumber
    · rw [numbered_of_ne channelNumber h₁] at hstream ⊢
      exact h.stream c hc hstream
  case issued =>
    intro c hregistered hlive hne
    rw [registered_numbered] at hregistered
    rw [live_numbered] at hlive
    by_cases h₁ : c = channel
    · subst h₁
      simp
    · rw [numbered_of_ne channelNumber h₁] at hne ⊢
      exact h.issued c hregistered hlive hne
  case live =>
    intro c hc hlive
    rw [registered_numbered]
    exact h.live c hc ((live_numbered channelNumber c).mp hlive)
  case ordered => exact h.ordered
  case noticed =>
    intro e he
    obtain ⟨hc, hrank⟩ := h.noticed e he
    refine ⟨hc, ?_⟩
    rw [hsame]
    split
    case isTrue heq => exact heq ▸ hrank
    case isFalse => exact hrank
  case connected =>
    intro e he hconnected
    obtain ⟨hne, hregistered⟩ := h.connected e he hconnected
    rw [registered_numbered]
    refine ⟨?_, hregistered⟩
    rw [hsame]
    split
    case isTrue => exact hnumber
    case isFalse => exact hne
  case closed => exact h.closed
  case closedWith => exact h.closedWith

theorem Kept.openResponse (h : Kept s) (hlt : channel < s.allocated) {channelNumber : Nat} (finishes : Bool)
    (hunused : (s.channels channel).mOpenRequest = some false → channelNumber ≠ 0 → Unused s channel channelNumber) :
    Kept (s.openResponse channel channelNumber finishes) := by
  unfold RUDPICESocketSession.openResponse
  split
  case isTrue hopen => exact (h.numbered hlt hopen.2 hopen.1 (hunused hopen.1 hopen.2)).stepChannel hlt finishes
  case isFalse => exact h

end Channels

end RUDPICESocketSession

end OpenPeer.RUDPSession
