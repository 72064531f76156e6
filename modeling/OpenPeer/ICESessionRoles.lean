import OpenPeer.ICESessionPair
import OpenPeer.STUNPacketIntegrity

/-!
# The two sessions agree on their roles

As long as no session in the controlled role makes an alive check, whose request always
says controlling: every request carries the role of its sender, roles change only to the
ones the tie breakers give, and opposite roles stay as they are.
-/
namespace OpenPeer

open Runs ICESocketSession

namespace SessionPair

variable {ext : ICEExternals} {w : SessionPair} {e : SessionEvent} {a b : AgentStart}

/-- Both sessions have been fair, and have a password to sign with. -/
structure FairRun (w : SessionPair) : Prop where
  fair : FairPair w.first.party w.second.party
  signs : ∀ x, (w.session x).party.password ≠ []

theorem FairRun.pair (h : FairRun w) (x : Agent) : FairPair (w.session x).party (w.session x.other).party := by
  cases x with
  | first => exact h.fair
  | second => exact h.fair.symm

theorem Act.password {cause : Cause} {p q : Party} (h : Act cause p q) : q.password = p.password := by cases h <;> rfl

theorem Acts.password {cause : Cause} {p q : Party} (h : Acts cause p q) : q.password = p.password := by
  induction h with
  | refl => rfl
  | tail _ hact ih => exact (Act.password hact).trans ih

theorem forall_agent {P : Agent → Prop} (x : Agent) (h : P x) (hother : P x.other) : ∀ y, P y := by
  intro y
  cases x <;> cases y <;> first | exact h | exact hother

theorem FairRun.of_pair (x : Agent) (hfair : FairPair (w.session x).party (w.session x.other).party)
    (hsigns : ∀ x, (w.session x).party.password ≠ []) : FairRun w := by
  cases x with
  | first => exact ⟨hfair, hsigns⟩
  | second => exact ⟨hfair.symm, hsigns⟩

theorem start_fairRun (ha : a.password ≠ []) (hb : b.password ≠ []) (hdiffer : a.resolver ≠ b.resolver) :
    FairRun (start a b) where
  fair := by
    refine ⟨⟨?_, ?_, ?_, ?_, ?_, ?_, ?_⟩, ⟨?_, ?_, ?_, ?_, ?_, ?_, ?_⟩, hdiffer⟩ <;>
      simp [start, create, party]
  signs x := by
    cases x with
    | first => exact hb
    | second => exact ha

/-- What one step does to the roles. -/
structure RoleStep (w w' : SessionPair) (x : Agent) : Prop where
  resolver : (w'.session x).mConflictResolver = (w.session x).mConflictResolver
  dictated : (w'.session x).mControl = (w.session x).mControl ∨
    (w'.session x).mControl = dictated (w.session x).mConflictResolver (w.session x.other).mConflictResolver
  opposite : (w.session x).mControl ≠ (w.session x.other).mControl → (w'.session x).mControl = (w.session x).mControl

theorem RoleStep.of_same {w' : SessionPair} {x : Agent} (h : w'.session x = w.session x) : RoleStep w w' x :=
  ⟨by rw [h], .inl (by rw [h]), fun _ => by rw [h]⟩

theorem fairRun_step (h : FairRun w) (hok : NoAliveCheckControlled w e) :
    FairRun (w.step ext e) ∧ ∀ x, RoleStep w (w.step ext e) x := by
  rcases step_cases ext false (h.signs e.agent)
    (fun htimer hmakes hcontrol => absurd hcontrol (hok htimer hmakes)) with hsame | ⟨_, hother, _, got, hgot, hacts⟩
  · rw [hsame]
    exact ⟨h, fun _ => .of_same rfl⟩
  · obtain ⟨hfair, hresolver, hrole, hkeeps⟩ := (h.pair e.agent).acts (fun packet hpacket => (hgot packet hpacket).mem) rfl hacts
    refine ⟨.of_pair e.agent (hother ▸ hfair) (forall_agent e.agent ?_ ?_),
      forall_agent e.agent ⟨hresolver, hrole, hkeeps⟩ (.of_same hother)⟩
    · rw [Acts.password hacts]
      exact h.signs e.agent
    · rw [hother]
      exact h.signs e.agent.other

theorem Opposite.differ (h : Opposite w) (x : Agent) : (w.session x).mControl ≠ (w.session x.other).mControl := by
  cases x with
  | first => exact h
  | second => exact h.symm

theorem fairRun_run (h : FairRun w) (es : List SessionEvent)
    (hmeets : Meets (step ext) NoAliveCheckControlled w es) : FairRun (run (step ext) w es) :=
  run_invariant FairRun (fun _ _ hok hfair => (fairRun_step hfair hok).1) w es hmeets h

theorem fairRun_opposite (h : FairRun w) (hopposite : Opposite w) (es : List SessionEvent)
    (hmeets : Meets (step ext) NoAliveCheckControlled w es) : Opposite (run (step ext) w es) := by
  refine (run_invariant (fun w => FairRun w ∧ Opposite w) (fun w e hok hinv => ?_) w es hmeets ⟨h, hopposite⟩).2
  obtain ⟨hfair, hrole⟩ := @fairRun_step ext _ _ hinv.1 hok
  refine ⟨hfair, ?_⟩
  unfold Opposite
  have hfirst := (hrole .first).opposite (hinv.2.differ .first)
  have hsecond := (hrole .second).opposite (hinv.2.differ .second)
  change ((w.step ext e).session .first).mControl ≠ ((w.step ext e).session .second).mControl
  rw [hfirst, hsecond]
  exact hinv.2

/-- Every request carries the role its sender has, the larger tie breaker only ever takes the controlling role
and the smaller one the controlled role, and opposite roles never become equal, in every run of two sessions
in which no session in the controlled role makes an alive check. -/
theorem roles_agree (ext : ICEExternals) (a b : AgentStart) (ha : a.password ≠ []) (hb : b.password ≠ [])
    (hdiffer : a.resolver ≠ b.resolver) (es : List SessionEvent)
    (hmeets : Meets (step ext) NoAliveCheckControlled (start a b) es) :
    (∀ x, ∀ made ∈ ((run (step ext) (start a b) es).session x).created,
      Carries made.1 ((run (step ext) (start a b) es).session x).mConflictResolver made.2.mSTUNRequest) ∧
    (∀ e, NoAliveCheckControlled (run (step ext) (start a b) es) e →
      ∀ x, RoleStep (run (step ext) (start a b) es) ((run (step ext) (start a b) es).step ext e) x) ∧
    (∀ es', Opposite (run (step ext) (start a b) es) →
      Meets (step ext) NoAliveCheckControlled (run (step ext) (start a b) es) es' →
      Opposite (run (step ext) (run (step ext) (start a b) es) es')) := by
  have hfair := @fairRun_run ext _ (start_fairRun ha hb hdiffer) es hmeets
  exact ⟨fun x => (hfair.pair x).mine.carries, fun e hok => (fairRun_step hfair hok).2,
    fun es' hopposite hmeets' => fairRun_opposite hfair hopposite es' hmeets'⟩

section Run

/-- Addresses that are compared as they are. -/
def plainICE : ICEExternals := { plainExternals with ignoringIPv4Format := id, addressIgnoringIPv4Format := id }

def hostAddress : Agent → IPAddress
  | .first => .ipv4 0x0A000001 5000
  | .second => .ipv4 0x0A000002 5000

def hostCandidate (x : Agent) : Candidate := { mType := .typeLocal, mIPAddress := hostAddress x, mPriority := 1 }

/-- The `n`-th event of a run, on a host with one address. -/
def hostEvent (x : Agent) (n : UInt8) (now : Nat) (action : SessionAction) : SessionEvent :=
  { agent := x, action := action
    env := { now := now, transactionID := Vector.replicate 12 n, socket := some { localCandidates := [hostCandidate x] } } }

/-- The last packet the other side has sent arrives, over the one way there is. -/
def arrival (x : Agent) : SessionAction := .receive 0 (hostAddress x) false (hostAddress x.other)

def smaller : AgentStart := { usernameFrag := [66], password := [98], control := .controlling, resolver := 1 }

def larger : AgentStart := { usernameFrag := [65], password := [97], control := .controlled, resolver := 2 }

/-- The second session, which controls, finds a pair and nominates it; the response is lost. -/
def nominationRun : List SessionEvent :=
  [hostEvent .first 1 0 (.updateRemoteCandidates [hostCandidate .second]),
    hostEvent .second 2 0 (.updateRemoteCandidates [hostCandidate .first]),
    hostEvent .first 3 0 (.setKeepAliveProperties 0 1000 0 0),
    hostEvent .second 4 0 (.timer .activate),
    hostEvent .second 5 0 (.timer .activate),
    hostEvent .second 6 0 (.sendPacket 0),
    hostEvent .first 7 0 (arrival .first),
    hostEvent .second 8 0 (arrival .second),
    hostEvent .first 9 0 (.sendPacket 0),
    hostEvent .second 10 0 (arrival .second),
    hostEvent .second 11 0 .wake,
    hostEvent .second 12 0 (.sendPacket 0),
    hostEvent .first 13 0 (arrival .first),
    hostEvent .first 14 0 .wake]

/-- Then the first session hears nothing for a while and makes an alive check, which arrives. -/
def overdueRun : List SessionEvent :=
  nominationRun ++
    [hostEvent .first 15 2000 (.timer .expectingData),
      hostEvent .first 16 2000 (.sendPacket 0),
      hostEvent .second 17 2000 (arrival .second)]

theorem roles_agree_nomination :
    Opposite (run (step plainICE) (start larger smaller) nominationRun) ∧
      ∀ x, RoleStep (run (step plainICE) (start larger smaller) nominationRun)
        ((run (step plainICE) (start larger smaller) nominationRun).step plainICE (hostEvent .second 15 0 .wake)) x :=
  ⟨by decide +kernel, (roles_agree plainICE larger smaller (by decide) (by decide) (by decide) nominationRun
    (by decide +kernel)).2.1 (hostEvent .second 15 0 .wake) (fun h => nomatch h)⟩

/-- The alive check of a session in the controlled role says controlling, and makes the other one, whose tie
breaker is smaller, give its role up: opposite roles become equal. -/
theorem alive_check_in_wrong_role :
    Opposite (start larger smaller) ∧
    (∃ made ∈ (run (step plainICE) (start larger smaller) overdueRun).first.created,
      made.1 = .controlled ∧ made.2.mSTUNRequest.mIceControllingIncluded ∧
        ¬made.2.mSTUNRequest.mIceControlledIncluded) ∧
    ¬Opposite (run (step plainICE) (start larger smaller) overdueRun) := by
  decide +kernel

end Run

end SessionPair

end OpenPeer
