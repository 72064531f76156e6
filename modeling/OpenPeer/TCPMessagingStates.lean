import OpenPeer.TCPMessagingEvents

/-!
# The states of a TCP connection

The states reported to the delegates only move along pending, connected, shutting down
and shutdown, and nothing is reported after the last one. The exception is an end whose
socket could not be accepted: it begins to shut down, and is then set to connected.
-/
namespace OpenPeer

open Bytes Framing Runs

/-- The place of a state in their order. -/
def SessionStates.rank : SessionStates → Nat
  | .pending => 0
  | .connected => 1
  | .shuttingDown => 2
  | .shutdown => 3

namespace TCPMessaging

/-- The states so far were in order, the current one is the latest, and when that is shutdown the
end holds nothing open and has nobody left to tell. -/
structure StatesInOrder (t : TCPMessaging) : Prop where
  sorted : (.pending :: t.reported).Pairwise fun a b => a.rank < b.rank
  latest : (.pending :: t.reported).getLast? = some t.mCurrentState
  subscribed : t.mSubscriptions = !t.isShutdown
  socket : t.isShutdown = true → t.mSocket = false
  receiveStream : t.isShutdown = true → t.mReceiveStream.mShutdown = true
  sendStream : t.isShutdown = true → t.mSendStream.mShutdown = true
  linger : t.isShutdown = true → t.mLingerTimer = false

/-- The state does not move back, and after shutdown neither the state nor the reports change. -/
structure MovesOn (t t' : TCPMessaging) : Prop where
  rank : t.mCurrentState.rank ≤ t'.mCurrentState.rank
  final : t.isShutdown = true → t'.isShutdown = true ∧ t'.reported = t.reported

variable {t t' u v : TCPMessaging}

theorem live_iff (t : TCPMessaging) : t.isShutdown = false ↔ t.mCurrentState ≠ .shutdown := by
  simp [isShutdown]

theorem setState_later (t : TCPMessaging) (state : SessionStates) (h : state ≠ t.mCurrentState)
    (hsubscribed : t.mSubscriptions = true) :
    (t.setState state).mCurrentState = state ∧ (t.setState state).reported = t.reported ++ [state] := by
  cases state <;> simp [setState, h, hsubscribed]

theorem setState_frame (t : TCPMessaging) (state : SessionStates) :
    (t.setState state).mSubscriptions = t.mSubscriptions ∧ (t.setState state).mSocket = t.mSocket ∧
      (t.setState state).mReceiveStream = t.mReceiveStream ∧
      (t.setState state).mSendStream.mShutdown = t.mSendStream.mShutdown ∧
      (t.setState state).mLingerTimer = t.mLingerTimer := by
  unfold setState
  split
  · simp
  · cases t.mSubscriptions <;> by_cases hconnected : state = .connected <;> simp [hconnected]

@[simp] theorem setState_self (t : TCPMessaging) : t.setState t.mCurrentState = t := by
  simp [setState]

theorem StatesInOrder.rank_le (h : StatesInOrder t) {state : SessionStates} (hmem : state ∈ t.reported) :
    state.rank ≤ t.mCurrentState.rank := by
  obtain ⟨front, hfront⟩ := List.getLast?_eq_some_iff.mp h.latest
  have hsorted := h.sorted
  rw [hfront, List.pairwise_append] at hsorted
  have hstate : state ∈ front ++ [t.mCurrentState] := hfront ▸ List.mem_cons_of_mem _ hmem
  cases List.mem_append.mp hstate with
  | inl hbefore => exact Nat.le_of_lt (hsorted.2.2 state hbefore _ (List.mem_singleton.mpr rfl))
  | inr hlast => rw [List.mem_singleton.mp hlast]

theorem sorted_append (h : StatesInOrder t) {state : SessionStates} (hlater : t.mCurrentState.rank < state.rank) :
    (.pending :: (t.reported ++ [state])).Pairwise fun a b => a.rank < b.rank := by
  rw [← List.cons_append, List.pairwise_append]
  refine ⟨h.sorted, List.pairwise_singleton _ _, ?_⟩
  intro a ha b hb
  rw [List.mem_singleton.mp hb]
  cases ha with
  | head => exact Nat.lt_of_le_of_lt (Nat.zero_le _) hlater
  | tail _ ha => exact Nat.lt_of_le_of_lt (h.rank_le ha) hlater

/-- A later state that is not the last one. -/
theorem StatesInOrder.setState (h : StatesInOrder t) {state : SessionStates}
    (hlater : t.mCurrentState.rank ≤ state.rank) (hopen : state ≠ .shutdown) : StatesInOrder (t.setState state) ∧ (t.setState state).mCurrentState = state := by
  by_cases hsame : state = t.mCurrentState
  · subst hsame
    simp [h]
  have hlive : t.mCurrentState ≠ .shutdown := by
    intro hshut
    rw [hshut] at hlater
    cases state <;> first | exact hopen rfl | exact absurd hlater (by decide)
  have hsubscribed : t.mSubscriptions = true := by
    rw [h.subscribed, (live_iff t).mpr hlive]
    rfl
  have hlt : t.mCurrentState.rank < state.rank := by
    cases hstate : state <;> cases hcurrent : t.mCurrentState <;> simp_all [SessionStates.rank]
  obtain ⟨hstate, hreported⟩ := setState_later t state hsame hsubscribed
  obtain ⟨hsubscriptions, -, -, -, -⟩ := setState_frame t state
  have hstill : (t.setState state).isShutdown = false := by simp [live_iff, hstate, hopen]
  refine ⟨?_, hstate⟩
  constructor
  · rw [hreported]
    exact sorted_append h hlt
  · rw [hreported, hstate, ← List.cons_append, List.getLast?_concat]
  · rw [hsubscriptions, hsubscribed, hstill]
    rfl
  all_goals
    intro hshut
    rw [hstill] at hshut
    cases hshut

theorem StatesInOrder.congr (h : StatesInOrder t) (hstate : u.mCurrentState = t.mCurrentState)
    (hreported : u.reported = t.reported)
    (hsubscriptions : u.mSubscriptions = t.mSubscriptions) (hsocket : u.mSocket = t.mSocket)
    (hreceive : t.mReceiveStream.mShutdown = true → u.mReceiveStream.mShutdown = true)
    (hsend : t.mSendStream.mShutdown = true → u.mSendStream.mShutdown = true)
    (hlinger : u.mLingerTimer = t.mLingerTimer) : StatesInOrder u := by
  have hshutdown : u.isShutdown = t.isShutdown := by rw [isShutdown, isShutdown, hstate]
  constructor
  · rw [hreported]
    exact h.sorted
  · rw [hreported, hstate]
    exact h.latest
  · rw [hsubscriptions, hshutdown]
    exact h.subscribed
  all_goals rw [hshutdown]
  · rw [hsocket]
    exact h.socket
  · exact fun hshut => hreceive (h.receiveStream hshut)
  · exact fun hshut => hsend (h.sendStream hshut)
  · rw [hlinger]
    exact h.linger

theorem rank_le_shuttingDown (hlive : t.isShutdown = false) :
    t.mCurrentState.rank ≤ SessionStates.rank .shuttingDown := by
  have hstate := (live_iff t).mp hlive
  cases h : t.mCurrentState with
  | pending => decide
  | connected => decide
  | shuttingDown => decide
  | shutdown => exact absurd h hstate

/-- Giving up moves on to shutting down, and without a linger timer to shutdown. -/
theorem StatesInOrder.cancel (h : StatesInOrder t) (hlive : t.isShutdown = false) :
    StatesInOrder t.cancel ∧ t.mCurrentState.rank ≤ t.cancel.mCurrentState.rank := by
  have hle := rank_le_shuttingDown hlive
  obtain ⟨hclosing, hstate⟩ := h.setState hle (by decide)
  obtain ⟨-, -, -, -, hlinger⟩ := setState_frame t .shuttingDown
  unfold TCPMessaging.cancel
  dsimp only
  split
  · refine ⟨hclosing.congr rfl rfl rfl rfl id id rfl, ?_⟩
    change t.mCurrentState.rank ≤ (t.setState .shuttingDown).mCurrentState.rank
    rw [hstate]
    exact hle
  next hnone =>
    have hsubscribed : (t.setState .shuttingDown).mSubscriptions = true := by
      rw [hclosing.subscribed, (live_iff _).mpr (by simp [hstate])]
      rfl
    obtain ⟨hfinal, hreported⟩ :=
      setState_later (t.setState .shuttingDown) .shutdown (by simp [hstate]) hsubscribed
    obtain ⟨-, -, -, -, hlinger'⟩ := setState_frame (t.setState .shuttingDown) .shutdown
    constructor
    · constructor
      · simp only [hreported]
        exact sorted_append hclosing (by rw [hstate]; decide)
      · simp only [hreported, hfinal, ← List.cons_append, List.getLast?_concat]
      · simp [isShutdown, hfinal]
      · exact fun _ => rfl
      · exact fun _ => rfl
      · exact fun _ => rfl
      · intro _
        simpa [hlinger'] using hnone
    · simp only [hfinal]
      exact Nat.le_trans hle (by decide)

theorem StatesInOrder.moved (h : StatesInOrder t) (hmoved : SendingMoved t u) : StatesInOrder u :=
  h.congr hmoved.state hmoved.reported hmoved.subscriptions hmoved.socket
    (fun hshut => hmoved.receiveStream ▸ hshut) (fun hshut => hmoved.sendStream.trans hshut) hmoved.linger

theorem StatesInOrder.setError (h : StatesInOrder t) (errorCode : UInt16) (reason : String) :
    StatesInOrder (t.setError errorCode reason) ∧ (t.setError errorCode reason).mCurrentState = t.mCurrentState := by
  unfold TCPMessaging.setError
  split
  · exact ⟨h, rfl⟩
  · exact ⟨h.congr rfl rfl rfl rfl id id rfl, rfl⟩

theorem StatesInOrder.fail (h : StatesInOrder t) (hlive : t.isShutdown = false) (errorCode : UInt16) (reason : String) :
    StatesInOrder (t.setError errorCode reason).cancel ∧
      t.mCurrentState.rank ≤ (t.setError errorCode reason).cancel.mCurrentState.rank := by
  obtain ⟨herror, hstate⟩ := h.setError errorCode reason
  have hlive' : (t.setError errorCode reason).isShutdown = false := by
    rw [isShutdown, hstate]
    exact hlive
  rw [← hstate]
  exact herror.cancel hlive'

theorem StatesInOrder.ends (h : StatesInOrder u) (hlive : u.isShutdown = false) (hends : EndsIn u v) :
    StatesInOrder v ∧ u.mCurrentState.rank ≤ v.mCurrentState.rank := by
  cases hends with
  | on => exact ⟨h, Nat.le_refl _⟩
  | failed errorCode reason _ => exact h.fail hlive errorCode reason

theorem StatesInOrder.sendDataNow {s : Sending} (h : StatesInOrder s.endpoint) (hlive : s.endpoint.isShutdown = false) :
    StatesInOrder s.sendDataNow.endpoint ∧
      s.endpoint.mCurrentState.rank ≤ s.sendDataNow.endpoint.mCurrentState.rank := by
  obtain ⟨u, hmoved, hends⟩ := sendDataNow_cases s
  have hstate := hmoved.state
  rw [← hstate]
  apply (h.moved hmoved).ends _ hends
  rw [isShutdown, hstate]
  exact hlive

@[simp] theorem deliver_mShutdown (hasChannel : Bool) (stream : TransportStream StreamHeader)
    (ms : List (List UInt8 × List UInt8)) : (deliver hasChannel stream ms).mShutdown = stream.mShutdown := by
  induction ms generalizing stream with
  | nil => rfl
  | cons m ms ih =>
    rw [deliver, List.foldl_cons, ← deliver, ih]
    simp

section

variable (h : StatesInOrder t) (hlive : t.isShutdown = false)
include h hlive

theorem StatesInOrder.receiveLoop :
    StatesInOrder t.receiveLoop ∧ t.mCurrentState.rank ≤ t.receiveLoop.mCurrentState.rank := by
  obtain ⟨ms, queue, -, -, hend⟩ := receiveLoop_cases t
  have hreceived : StatesInOrder (t.received ms queue) :=
    h.congr rfl rfl rfl rfl (by simp [received]) id rfl
  generalize t.receiveLoop = v at hend
  cases hend with
  | waits => exact ⟨hreceived, Nat.le_refl _⟩
  | tooLong => exact hreceived.fail hlive _ _

theorem StatesInOrder.onReadReady (outcome : ReceiveOutcome) :
    StatesInOrder (t.onReadReady outcome) ∧ t.mCurrentState.rank ≤ (t.onReadReady outcome).mCurrentState.rank := by
  unfold TCPMessaging.onReadReady
  split
  · exact ⟨h, Nat.le_refl _⟩
  split
  · exact ⟨h, Nat.le_refl _⟩
  cases outcome with
  | error message => exact h.fail hlive _ _
  | received bytes =>
    dsimp only
    split
    · exact h.fail hlive _ _
    · have hqueued : StatesInOrder { t with mReceivingQueue := t.mReceivingQueue ++ bytes } :=
        h.congr rfl rfl rfl rfl id id rfl
      exact hqueued.receiveLoop hlive

theorem StatesInOrder.onWriteReady (outcomes : List SendOutcome) :
    StatesInOrder (t.onWriteReady outcomes).endpoint ∧
      t.mCurrentState.rank ≤ (t.onWriteReady outcomes).endpoint.mCurrentState.rank := by
  unfold TCPMessaging.onWriteReady
  split
  · exact ⟨h, Nat.le_refl _⟩
  dsimp only
  split
  next hconnect =>
    -- the end was waiting for its connection
    have hopen : StatesInOrder { t with mConnectIssued := false } := h.congr rfl rfl rfl rfl id id rfl
    have hbefore : t.mCurrentState.rank ≤ SessionStates.rank .connected := by
      have hshutting : t.mCurrentState ≠ .shuttingDown := by simpa [isShuttingdown] using hconnect.2
      have hshut := (live_iff t).mp hlive
      cases hstate : t.mCurrentState <;> simp_all [SessionStates.rank]
    obtain ⟨hconnected, hstate⟩ := hopen.setState hbefore (by decide)
    have hready : StatesInOrder
        { { t with mConnectIssued := false }.setState .connected with mTCPWriteReady := true } :=
      hconnected.congr rfl rfl rfl rfl id id rfl
    obtain ⟨hsent, hrank⟩ := StatesInOrder.sendDataNow
      (s := ⟨{ { t with mConnectIssued := false }.setState .connected with mTCPWriteReady := true }, outcomes, []⟩)
      hready ((live_iff _).mpr (by simp [hstate]))
    refine ⟨hsent, Nat.le_trans hbefore ?_⟩
    simpa [hstate] using hrank
  next =>
    have hready : StatesInOrder { t with mTCPWriteReady := true } := h.congr rfl rfl rfl rfl id id rfl
    exact StatesInOrder.sendDataNow (s := ⟨{ t with mTCPWriteReady := true }, outcomes, []⟩) hready hlive

theorem StatesInOrder.shutdown (lingerTime : Int) :
    StatesInOrder (t.shutdown lingerTime) ∧ t.mCurrentState.rank ≤ (t.shutdown lingerTime).mCurrentState.rank := by
  unfold TCPMessaging.shutdown
  rw [if_neg (by simp [hlive])]
  dsimp only
  split
  · have hlingers : StatesInOrder { t with mLingerTimer := true } := by
      obtain ⟨hsorted, hlatest, hsubscribed, -, -, -, -⟩ := h
      have hnot : ({ t with mLingerTimer := true } : TCPMessaging).isShutdown = false := hlive
      constructor
      · exact hsorted
      · exact hlatest
      · exact hsubscribed
      all_goals
        intro hshut
        rw [hnot] at hshut
        cases hshut
    exact hlingers.cancel hlive
  · exact h.cancel hlive

end

/-- After shutdown no event does anything but to the cancelled streams. -/
theorem StatesInOrder.after (h : StatesInOrder t) (hshut : t.isShutdown = true) (event : TCPEvent) :
    StatesInOrder (t.step event) ∧ (t.step event).mCurrentState = t.mCurrentState ∧
      (t.step event).reported = t.reported := by
  have hsocket := h.socket hshut
  have hlinger := h.linger hshut
  cases event with
  | readReady outcome => simp [TCPMessaging.step, TCPMessaging.onReadReady, hsocket, h]
  | writeReady outcomes => simp [TCPMessaging.step, TCPMessaging.onWriteReady, hsocket, h]
  | exception => simp [step, onException, hsocket, h]
  | readerReady outcomes => simp [step, onTransportStreamReaderReady, hshut, h]
  | timer => simp [step, hlinger, h]
  | shutdown lingerTime => simp [step, TCPMessaging.shutdown, hshut, h]
  | setMaxMessageSizeInBytes size => exact ⟨h.congr rfl rfl rfl rfl id id rfl, rfl, rfl⟩
  | useSendStream call =>
    exact ⟨h.congr rfl rfl rfl rfl id (TransportStream.apply_mShutdown _ call) rfl, rfl, rfl⟩
  | useReceiveStream call =>
    exact ⟨h.congr rfl rfl rfl rfl (TransportStream.apply_mShutdown _ call) id rfl, rfl, rfl⟩

/-- Before shutdown every event leaves the state where it is or moves it on. -/
theorem StatesInOrder.before (h : StatesInOrder t) (hlive : t.isShutdown = false) (event : TCPEvent) :
    StatesInOrder (t.step event) ∧ t.mCurrentState.rank ≤ (t.step event).mCurrentState.rank := by
  cases event with
  | readReady outcome => exact h.onReadReady hlive outcome
  | writeReady outcomes => exact h.onWriteReady hlive outcomes
  | exception =>
    simp only [step, onException]
    split
    · exact ⟨h, Nat.le_refl _⟩
    · exact h.fail hlive _ _
  | readerReady outcomes =>
    simp only [step, onTransportStreamReaderReady, hlive, Bool.false_eq_true, if_false]
    exact StatesInOrder.sendDataNow (s := ⟨t, outcomes, []⟩) h hlive
  | timer =>
    simp only [step]
    split
    · have hfired : StatesInOrder { t with mLingerTimer := false } :=
        ⟨h.sorted, h.latest, h.subscribed, h.socket, h.receiveStream, h.sendStream, fun _ => rfl⟩
      exact hfired.cancel hlive
    · exact ⟨h, Nat.le_refl _⟩
  | shutdown lingerTime => exact h.shutdown hlive lingerTime
  | setMaxMessageSizeInBytes size => exact ⟨h.congr rfl rfl rfl rfl id id rfl, Nat.le_refl _⟩
  | useSendStream call =>
    exact ⟨h.congr rfl rfl rfl rfl id (TransportStream.apply_mShutdown _ call) rfl, Nat.le_refl _⟩
  | useReceiveStream call =>
    exact ⟨h.congr rfl rfl rfl rfl (TransportStream.apply_mShutdown _ call) id rfl, Nat.le_refl _⟩

theorem StatesInOrder.step (h : StatesInOrder t) (event : TCPEvent) :
    StatesInOrder (t.step event) ∧ MovesOn t (t.step event) := by
  cases hshut : t.isShutdown with
  | true =>
    obtain ⟨hafter, hstate, hreported⟩ := h.after hshut event
    refine ⟨hafter, Nat.le_of_eq (by rw [hstate]), fun _ => ⟨?_, hreported⟩⟩
    rw [isShutdown, hstate]
    exact hshut
  | false =>
    obtain ⟨hbefore, hrank⟩ := h.before hshut event
    refine ⟨hbefore, hrank, ?_⟩
    intro hnot
    rw [hshut] at hnot
    cases hnot

end TCPMessaging

namespace TCPOpening

open TCPMessaging

def start : TCPOpening → TCPMessaging
  | .accept receiveStream sendStream framesHaveChannelNumber maxMessageSizeInBytes accepted =>
    TCPMessaging.accept receiveStream sendStream framesHaveChannelNumber maxMessageSizeInBytes accepted
  | .connect receiveStream sendStream framesHaveChannelNumber maxMessageSizeInBytes failed =>
    TCPMessaging.connect receiveStream sendStream framesHaveChannelNumber maxMessageSizeInBytes failed

/-- The end opens a connection, or could accept one. -/
def HasSocket : TCPOpening → Prop
  | .accept _ _ _ _ accepted => accepted = true
  | .connect _ _ _ _ _ => True

theorem construct_inOrder (receiveStream sendStream : TransportStream StreamHeader) (framesHaveChannelNumber : Bool)
    (maxMessageSizeInBytes : UInt32) :
    StatesInOrder (construct receiveStream sendStream framesHaveChannelNumber maxMessageSizeInBytes) := by
  constructor <;> simp [construct, isShutdown]

theorem start_inOrder (opening : TCPOpening) (h : opening.HasSocket) : StatesInOrder opening.start := by
  cases opening with
  | accept receiveStream sendStream framesHaveChannelNumber maxMessageSizeInBytes accepted =>
    have hnew := construct_inOrder receiveStream sendStream framesHaveChannelNumber maxMessageSizeInBytes
    change accepted = true at h
    subst h
    have hheld : StatesInOrder { construct receiveStream sendStream framesHaveChannelNumber maxMessageSizeInBytes with
        mSocket := true, mSendStreamSubscription := true } := by
      constructor <;> simp [construct, isShutdown]
    have hle : SessionStates.rank .pending ≤ SessionStates.rank .connected := by decide
    exact (hheld.setState hle (by decide)).1
  | connect receiveStream sendStream framesHaveChannelNumber maxMessageSizeInBytes failed =>
    have hheld : StatesInOrder { construct receiveStream sendStream framesHaveChannelNumber maxMessageSizeInBytes with
        mConnectIssued := true, mSocket := true } := by
      constructor <;> simp [construct, isShutdown]
    cases failed with
    | false => exact hheld.congr rfl rfl rfl rfl id id rfl
    | true => exact (hheld.shutdown rfl 0).1.congr rfl rfl rfl rfl id id rfl

end TCPOpening

end OpenPeer
