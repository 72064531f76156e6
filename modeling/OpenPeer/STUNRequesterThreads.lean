import OpenPeer.Runs

/-!
# A STUN request on several threads

The requester of a STUN request retransmits it until a response is accepted, the request
times out or it is cancelled. What happens under its lock is one step. The delegate is asked
about a response with the lock released, and a timeout is told and cleared under two locks,
so what other threads do may come in between.
-/
namespace OpenPeer.STUNRequesterThreads

/-- Timers are numbered as they are created; durations are in milliseconds. -/
structure STUNRequester where
  /-- Whether the delegate is set. -/
  mDelegate : Bool := true
  /-- No address is the empty one. -/
  mServerIP : Option Nat
  mTimer : Option Nat := none
  mMaxTimeTimer : Option Nat := none
  mCurrentTimeout : Nat := 500
  mTryNumber : Nat := 0
  mRequestStartTime : Nat
  mMaxTimeout : Nat
  /-- The manager has the requester in its map. -/
  monitored : Bool := true
  timers : Nat := 0
  deriving DecidableEq

/-- What the delegate is told and answers, and when a call of `cancel` returns. -/
inductive Happening (Packet : Type) where
  | sent (destination : Nat)
  | response (packet : Packet)
  | accepted (packet : Packet)
  | timedOut
  | cancelled
  deriving DecidableEq

namespace Happening

variable {Packet : Type}

def isOutcome : Happening Packet → Bool
  | accepted _ | timedOut => true
  | sent _ | response _ | cancelled => false

/-- Something is reported to the delegate or sent. -/
def isTold : Happening Packet → Bool
  | sent _ | response _ | timedOut => true
  | accepted _ | cancelled => false

/-- Nothing is to be told afterwards. -/
def concludes : Happening Packet → Bool
  | accepted _ | timedOut | cancelled => true
  | sent _ | response _ => false

theorem concludes_of_isOutcome {happening : Happening Packet} (h : happening.isOutcome = true) :
    happening.concludes = true := by
  cases happening with
  | accepted packet => rfl
  | timedOut => rfl
  | sent destination => cases h
  | response packet => cases h
  | cancelled => cases h

end Happening

namespace STUNRequester

variable {Packet : Type}

def internalCancel (r : STUNRequester) : STUNRequester :=
  { r with
    mServerIP := none
    mDelegate := false
    monitored := r.monitored && !r.mDelegate
    mTimer := none
    mMaxTimeTimer := none }

def newTimer (r : STUNRequester) : STUNRequester := { r with mTimer := some r.timers, timers := r.timers + 1 }

def newMaxTimeTimer (r : STUNRequester) : STUNRequester :=
  if r.mMaxTimeTimer = none then { r with mMaxTimeTimer := some r.timers, timers := r.timers + 1 } else r

/-- The packet is sent when there is no timer; where the delegate is gone the requester is cancelled. -/
def step (r : STUNRequester) (gone : Bool) : STUNRequester × List (Happening Packet) :=
  match r.mServerIP with
  | none => (r, [])
  | some destination =>
    if !r.mDelegate then (r, [])
    else
      let r := r.newMaxTimeTimer
      if r.mTimer ≠ none then (r, [])
      else if gone then (r.newTimer.internalCancel, [.cancelled])
      else (r.newTimer, [.sent destination])

def retryRequestNow (r : STUNRequester) (gone : Bool) (now : Nat) : STUNRequester × List (Happening Packet) :=
  if !r.mDelegate ∨ r.mServerIP = none then (r, [])
  else step { r with
    mRequestStartTime := now
    mCurrentTimeout := 500
    mTryNumber := 0
    mTimer := none
    mMaxTimeTimer := none } gone

/-- The first part of `onTimer`, with whether the request has timed out. -/
def onTimer (r : STUNRequester) (gone : Bool) (timer now : Nat) : STUNRequester × List (Happening Packet) × Bool :=
  if !r.mDelegate then (r, [], false)
  else if r.mMaxTimeTimer = some timer then (r, [], true)
  else if r.mTimer ≠ some timer then (r, [], false)
  else
    let r := { r with mTimer := none, mTryNumber := r.mTryNumber + 1 }
    if r.mTryNumber ≥ 6 ∨ r.mMaxTimeout < now - r.mRequestStartTime then (r, [], false)
    else
      let stepped := step { r with mCurrentTimeout := r.mCurrentTimeout + r.mCurrentTimeout + 500 } gone
      (stepped.1, stepped.2, false)

/-- The timer is the one of the retransmissions, and another try is left. -/
def resends (r : STUNRequester) (timer now : Nat) : Bool :=
  r.mDelegate && r.mServerIP.isSome && r.mMaxTimeTimer ≠ some timer && r.mTimer = some timer &&
    r.mTryNumber + 1 < 6 && now - r.mRequestStartTime ≤ r.mMaxTimeout

end STUNRequester

/-- Where a thread is between two of its steps. -/
inductive Phase (Packet : Type) where
  /-- The manager has found the requester. -/
  | found (packet : Packet)
  /-- The packet is a valid response, and the pointer to the delegate was copied; it may be null. -/
  | matched (packet : Packet) (delegate : Bool)
  /-- The delegate handles the response. -/
  | called (packet : Packet)
  /-- The delegate has accepted the response, or it is gone; the request is to be cleared. -/
  | responded (accepted : Bool)
  /-- The longest time is over. -/
  | expired
  /-- The delegate was told so, or there was none; the request is to be cleared. -/
  | timedOut (told : Bool)
  | done (outcome : Bool)
  deriving DecidableEq

/-- The thread has had an outcome of the request. -/
def Phase.hasOutcome {Packet : Type} : Phase Packet → Bool
  | responded accepted => accepted
  | timedOut told => told
  | done outcome => outcome
  | found _ | matched _ _ | called _ | expired => false

/-- The requester and the threads that are in it, in the order in which they have come. -/
structure Requesting (Packet : Type) where
  requester : STUNRequester
  /-- The delegate was destroyed. -/
  gone : Bool := false
  threads : List (Phase Packet) := []
  /-- The timers that have fired; each fires once. -/
  fired : List Nat := []
  history : List (Happening Packet) := []
  /-- A null pointer was called. -/
  crashed : Bool := false
  deriving DecidableEq

inductive Event (Packet : Type) where
  /-- The manager looks for the requester of a packet. -/
  | handleSTUNPacket (packet : Packet)
  | check (thread : Nat)
  | call (thread : Nat)
  | answer (thread : Nat) (accepted : Bool)
  | onTimer (timer now : Nat)
  | report (thread : Nat)
  | complete (thread : Nat)
  | retryRequestNow (now : Nat)
  | cancel
  | delegateGone

namespace Requesting

variable {Packet : Type}

/-- `create` and `init` -/
def create (serverIP maxTimeout now : Nat) : Requesting Packet :=
  let stepped := STUNRequester.step
    { mServerIP := some serverIP
      mRequestStartTime := now
      mMaxTimeout := if maxTimeout ≠ 0 then maxTimeout else 39500 } false
  { requester := stepped.1, history := stepped.2 }

def phase (s : Requesting Packet) (thread : Nat) : Phase Packet := s.threads.getD thread (.done false)

def enter (s : Requesting Packet) (thread : Nat) (phase : Phase Packet) : Requesting Packet :=
  { s with threads := s.threads.set thread phase }

def happen (s : Requesting Packet) (happenings : List (Happening Packet)) : Requesting Packet :=
  { s with history := s.history ++ happenings }

/-- The call of the delegate, without a lock and without another look at it. -/
def callDelegate (s : Requesting Packet) (thread : Nat) (packet : Packet) (delegate : Bool) : Requesting Packet :=
  if !delegate then { s.enter thread (.done false) with crashed := true }
  else if s.gone then s.enter thread (.responded false)
  else (s.enter thread (.called packet)).happen [.response packet]

/-- The second part of `onTimer`. -/
def reportTimedOut (s : Requesting Packet) (thread : Nat) : Requesting Packet :=
  if s.requester.mDelegate && !s.gone then (s.enter thread (.timedOut true)).happen [.timedOut]
  else s.enter thread (.timedOut false)

def fire (s : Requesting Packet) (timer now : Nat) : Requesting Packet :=
  if timer ∈ s.fired ∨ s.requester.timers ≤ timer then s
  else
    let stepped := s.requester.onTimer s.gone timer now
    { s.happen stepped.2.1 with
      requester := stepped.1
      fired := timer :: s.fired
      threads := if stepped.2.2 then s.threads ++ [.expired] else s.threads }

variable (isValidResponseTo : Packet → Bool)

def take (s : Requesting Packet) : Event Packet → Requesting Packet
  | .handleSTUNPacket packet =>
    if s.requester.monitored then { s with threads := s.threads ++ [.found packet] } else s
  | .check thread =>
    match s.phase thread with
    | .found packet =>
      s.enter thread (if isValidResponseTo packet then .matched packet s.requester.mDelegate else .done false)
    | _ => s
  | .call thread =>
    match s.phase thread with
    | .matched packet delegate => s.callDelegate thread packet delegate
    | _ => s
  | .answer thread accepted =>
    match s.phase thread with
    | .called packet =>
      if accepted then (s.enter thread (.responded true)).happen [.accepted packet] else s.enter thread (.done false)
    | _ => s
  | .onTimer timer now => s.fire timer now
  | .report thread =>
    match s.phase thread with
    | .expired => s.reportTimedOut thread
    | _ => s
  | .complete thread =>
    match s.phase thread with
    | .responded outcome => { s.enter thread (.done outcome) with requester := s.requester.internalCancel }
    | .timedOut outcome => { s.enter thread (.done outcome) with requester := s.requester.internalCancel }
    | _ => s
  | .retryRequestNow now =>
    let stepped := s.requester.retryRequestNow s.gone now
    { s.happen stepped.2 with requester := stepped.1 }
  | .cancel => { s.happen [.cancelled] with requester := s.requester.internalCancel }
  | .delegateGone => { s with gone := true }

/-- Some thread has had an outcome of the request. -/
def concluded (s : Requesting Packet) : Bool := s.threads.any Phase.hasOutcome

/-- The requester has its delegate, and no thread is about to clear it after an outcome. -/
def running (s : Requesting Packet) : Bool := s.requester.mDelegate && !s.concluded

/-- Nothing has come in between where the lock is not held: the delegate is called with a response, accepts it, is told
of the timeout and sends only while no other thread has had an outcome, and is called only if it is still set. -/
def orderly (s : Requesting Packet) : Event Packet → Bool
  | .call thread =>
    match s.phase thread with
    | .matched _ delegate => delegate && (s.gone || s.running)
    | _ => true
  | .answer thread accepted =>
    match s.phase thread with
    | .called _ => !accepted || !s.concluded
    | _ => true
  | .report thread =>
    match s.phase thread with
    | .expired => !s.requester.mDelegate || s.gone || !s.concluded
    | _ => true
  | .onTimer timer now =>
    timer ∈ s.fired || s.requester.timers ≤ timer || !s.requester.resends timer now || s.gone || !s.concluded
  | .retryRequestNow _ =>
    !(s.requester.mDelegate && s.requester.mServerIP.isSome) || s.gone || !s.concluded
  | .handleSTUNPacket _ | .check _ | .complete _ | .cancel | .delegateGone => true

end Requesting

section History

variable {Packet : Type}

/-- There is one outcome at most, nothing is told after it or after a cancellation, and no null pointer was called. -/
structure CompletesOnce (s : Requesting Packet) : Prop where
  once : s.history.countP Happening.isOutcome ≤ 1
  silent : s.history.Pairwise fun before after => before.concludes = true → after.isTold = false
  alive : s.crashed = false

variable {s s' : Requesting Packet}

theorem completesOnce_same (hhistory : s'.history = s.history) (hcrashed : s'.crashed = s.crashed) :
    CompletesOnce s' ↔ CompletesOnce s := by
  constructor
  · rintro ⟨honce, hsilent, halive⟩
    exact ⟨hhistory ▸ honce, hhistory ▸ hsilent, hcrashed ▸ halive⟩
  · rintro ⟨honce, hsilent, halive⟩
    exact ⟨hhistory ▸ honce, hhistory ▸ hsilent, hcrashed ▸ halive⟩

/-- What one happening must find. -/
theorem completesOnce_happen {happening : Happening Packet} (hhistory : s'.history = s.history ++ [happening])
    (hcrashed : s'.crashed = s.crashed) : CompletesOnce s' ↔ CompletesOnce s ∧
      (happening.isOutcome = true → s.history.any Happening.isOutcome = false) ∧
      (happening.isTold = true → s.history.any Happening.concludes = false) := by
  have hcount : s'.history.countP Happening.isOutcome =
      s.history.countP Happening.isOutcome + if happening.isOutcome = true then 1 else 0 := by
    rw [hhistory, List.countP_append, List.countP_singleton]
  have hzero : s.history.any Happening.isOutcome = false ↔ s.history.countP Happening.isOutcome = 0 := by
    rw [List.any_eq_false, List.countP_eq_zero]
  have hpairs : s'.history.Pairwise (fun before after => before.concludes = true → after.isTold = false) ↔
      s.history.Pairwise (fun before after => before.concludes = true → after.isTold = false) ∧
        (happening.isTold = true → s.history.any Happening.concludes = false) := by
    rw [hhistory, List.pairwise_append, List.any_eq_false]
    simp only [List.pairwise_singleton, List.mem_singleton, forall_eq, true_and]
    apply and_congr_right
    intro _
    constructor
    · intro h htold before hbefore hconcludes
      rw [h before hbefore hconcludes] at htold
      cases htold
    · intro h before hbefore hconcludes
      by_contra htold
      exact h (Bool.not_eq_false _ ▸ htold) before hbefore hconcludes
  constructor
  · rintro ⟨honce, hsilent, halive⟩
    rw [hcount] at honce
    obtain ⟨hold, hnew⟩ := hpairs.mp hsilent
    refine ⟨⟨by omega, hold, hcrashed ▸ halive⟩, fun houtcome => ?_, hnew⟩
    rw [if_pos houtcome] at honce
    exact hzero.mpr (by omega)
  · rintro ⟨⟨honce, hsilent, halive⟩, houtcome, htold⟩
    refine ⟨?_, hpairs.mpr ⟨hsilent, htold⟩, hcrashed ▸ halive⟩
    rw [hcount]
    split
    next hnew =>
      have hnone := hzero.mp (houtcome hnew)
      omega
    next => exact honce

end History

end OpenPeer.STUNRequesterThreads
