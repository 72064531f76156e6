import OpenPeer.ICECandidates
import Mathlib.Order.Defs.Unbundled

/-!
# The order of candidate pairs

A pair is placed by its priority, which the two sides work out from the same two numbers:
one calls local what the other calls remote. The priority is computed modulo `2 ^ 64`,
and only two candidates of the greatest priority there is exceed that.
-/
namespace OpenPeer

/-- RFC 5245: the priority of a pair, from that of the controlling side's candidate and
that of the controlled side's. -/
def rfcPairPriority (g d : Nat) : Nat := 2 ^ 32 * min g d + 2 * max g d + if g > d then 1 else 0

/-- The pair of an agent: its own candidate, then that of the other side. -/
def CandidatePair.ends (pair : CandidatePair) : Candidate × Candidate := (pair.mLocal, pair.mRemote)

/-- The pair as the other side tells it. -/
def CandidatePair.mirrored (pair : CandidatePair) : Candidate × Candidate := (pair.mRemote, pair.mLocal)

/-- The candidate of the controlling side and that of the controlled side. -/
def CandidatePair.roles (pair : CandidatePair) : ICEControls → Candidate × Candidate
  | .controlling => pair.ends
  | .controlled => pair.mirrored

/-- Both candidates have the greatest priority that a number of 32 bits can be. -/
def CandidatePair.AtLimit (pair : CandidatePair) : Prop :=
  pair.mLocal.mPriority = 0xFFFFFFFF ∧ pair.mRemote.mPriority = 0xFFFFFFFF

/-- What the priority of a pair should be. -/
def CandidatePair.rfcPriority (pair : CandidatePair) (control : ICEControls) : Nat :=
  rfcPairPriority (pair.roles control).1.mPriority.toNat (pair.roles control).2.mPriority.toNat

/-- What the priority of a pair is. -/
def CandidatePair.priority (pair : CandidatePair) (control : ICEControls) : Nat :=
  (calculatePriority (pair.roles control).1 (pair.roles control).2).toNat

section Priority

theorem min_toNat (a b : UInt64) : (min a b).toNat = min a.toNat b.toNat := by
  by_cases h : a ≤ b
  · rw [show min a b = a from if_pos h, Nat.min_eq_left (UInt64.le_iff_toNat_le.mp h)]
  · have hlt := UInt64.lt_iff_toNat_lt.mp (UInt64.not_le.mp h)
    rw [show min a b = b from if_neg h, Nat.min_eq_right (by omega)]

theorem max_toNat (a b : UInt64) : (max a b).toNat = max a.toNat b.toNat := by
  by_cases h : a ≤ b
  · rw [show max a b = b from if_pos h, Nat.max_eq_right (UInt64.le_iff_toNat_le.mp h)]
  · have hlt := UInt64.lt_iff_toNat_lt.mp (UInt64.not_le.mp h)
    rw [show max a b = a from if_neg h, Nat.max_eq_left (by omega)]

theorem calculatePriority_toNat (controlling controlled : Candidate) :
    (calculatePriority controlling controlled).toNat =
      rfcPairPriority controlling.mPriority.toNat controlled.mPriority.toNat % 2 ^ 64 := by
  have hflag : (if controlling.mPriority.toUInt64 > controlled.mPriority.toUInt64 then (1 : UInt64) else 0).toNat =
      if controlling.mPriority.toNat > controlled.mPriority.toNat then 1 else 0 := by
    by_cases h : controlling.mPriority.toNat > controlled.mPriority.toNat
    · rw [if_pos h, if_pos (UInt64.lt_iff_toNat_lt.mpr (by simpa using h))]
      rfl
    · rw [if_neg h, if_neg fun hlt => h (by simpa using UInt64.lt_iff_toNat_lt.mp hlt)]
      rfl
  have hshift : ((1 : UInt64) <<< 32).toNat = 2 ^ 32 := by decide
  have htwo : (2 : UInt64).toNat = 2 := rfl
  simp only [calculatePriority, rfcPairPriority, UInt64.toNat_add, UInt64.toNat_mul, hflag, hshift, htwo, min_toNat,
    max_toNat, UInt32.toNat_toUInt64]
  omega

theorem rfcPairPriority_lt {g d : Nat} (hg : g < 2 ^ 32) (hd : d < 2 ^ 32) :
    rfcPairPriority g d < 2 ^ 64 ↔ ¬(g = 2 ^ 32 - 1 ∧ d = 2 ^ 32 - 1) := by
  unfold rfcPairPriority
  split <;> omega

variable {pair : CandidatePair}

theorem CandidatePair.roles_limit (h : ¬pair.AtLimit) (control : ICEControls) :
    ¬((pair.roles control).1.mPriority.toNat = 2 ^ 32 - 1 ∧ (pair.roles control).2.mPriority.toNat = 2 ^ 32 - 1) := by
  have heq {n : UInt32} (hn : n.toNat = 2 ^ 32 - 1) : n = 0xFFFFFFFF := UInt32.toNat_inj.mp (by rw [hn]; rfl)
  intro hboth
  apply h
  cases control with
  | controlling => exact ⟨heq hboth.1, heq hboth.2⟩
  | controlled => exact ⟨heq hboth.2, heq hboth.1⟩

theorem CandidatePair.priority_eq (h : ¬pair.AtLimit) (control : ICEControls) :
    pair.priority control = pair.rfcPriority control := by
  have hlt := (rfcPairPriority_lt (UInt32.toNat_lt _) (UInt32.toNat_lt _)).mpr (roles_limit h control)
  rw [CandidatePair.priority, calculatePriority_toNat, Nat.mod_eq_of_lt hlt, CandidatePair.rfcPriority]

variable (control : ICEControls)

theorem comparePair_eq_true (pair1 pair2 : CandidatePair) :
    comparePair control pair1 pair2 = true ↔ pair2.priority control < pair1.priority control := by
  cases control <;> simp [comparePair, comparePairControlling, comparePairControlled, CandidatePair.priority,
    CandidatePair.roles, CandidatePair.ends, CandidatePair.mirrored, UInt64.lt_iff_toNat_lt]

theorem comparePair_eq_false (pair1 pair2 : CandidatePair) :
    comparePair control pair1 pair2 = false ↔ pair1.priority control ≤ pair2.priority control := by
  rw [← Bool.not_eq_true, comparePair_eq_true, Nat.not_lt]

theorem CandidatePair.priority_mirrored {other : CandidatePair} (h : other.mirrored = pair.ends) :
    other.priority .controlled = pair.priority .controlling := by
  simp only [CandidatePair.priority, CandidatePair.roles, h]

theorem strictWeakOrder :
    IsStrictWeakOrder CandidatePair fun pair1 pair2 => comparePair control pair1 pair2 = true where
  irrefl pair := by simp [comparePair_eq_true]
  trans pair1 pair2 pair3 h12 h23 := by
    rw [comparePair_eq_true] at h12 h23 ⊢
    omega
  incomp_trans pair1 pair2 pair3 h12 h23 := by
    simp only [comparePair_eq_true] at h12 h23 ⊢
    omega

end Priority

section Sorting

/-- The order of two pairs told by their ends: by the priority, greater ones first. -/
def endsBefore (ends1 ends2 : Candidate × Candidate) : Prop :=
  (calculatePriority ends2.1 ends2.2).toNat ≤ (calculatePriority ends1.1 ends1.2).toNat

instance : DecidableRel endsBefore := fun _ _ => Nat.decLe _ _

variable (control : ICEControls)

variable (pairs : List CandidatePair)

theorem sortPairs_roles :
    (sortPairs control pairs).map (·.roles control) = (pairs.map (·.roles control)).insertionSort endsBefore := by
  apply List.map_insertionSort
  intro pair1 _ pair2 _
  exact comparePair_eq_false control pair2 pair1

theorem sortPairs_priority :
    (sortPairs control pairs).map (·.priority control) = (pairs.map (·.priority control)).insertionSort (· ≥ ·) := by
  apply List.map_insertionSort
  intro pair1 _ pair2 _
  exact comparePair_eq_false control pair2 pair1

theorem sortPairs_perm :
    (sortPairs control pairs).Perm pairs := List.perm_insertionSort _ _

theorem sortPairs_sorted : ((sortPairs control pairs).map (·.roles control)).Pairwise endsBefore := by
  have hsorted := List.pairwise_insertionSort (· ≥ ·) (pairs.map (·.priority control))
  rw [← sortPairs_priority, List.pairwise_map] at hsorted
  rw [List.pairwise_map]
  exact hsorted

end Sorting

section Sides

variable {pairs others : List CandidatePair}

/-- Whatever the order in which the two sides found the pairs, the priorities are the same
place by place. -/
theorem priorities_alike (h : (others.map (·.mirrored)).Perm (pairs.map (·.ends))) :
    (sortPairs .controlled others).map (·.priority .controlled) =
      (sortPairs .controlling pairs).map (·.priority .controlling) := by
  rw [sortPairs_priority, sortPairs_priority]
  have hperm : (others.map (·.priority .controlled)).Perm (pairs.map (·.priority .controlling)) := by
    have hkeys := h.map fun ends => (calculatePriority ends.1 ends.2).toNat
    rw [List.map_map, List.map_map] at hkeys
    exact hkeys
  have hall : ((others.map (·.priority .controlled)).insertionSort (· ≥ ·)).Perm
      ((pairs.map (·.priority .controlling)).insertionSort (· ≥ ·)) :=
    ((List.perm_insertionSort _ _).trans hperm).trans (List.perm_insertionSort _ _).symm
  exact List.Perm.eq_of_pairwise' (List.pairwise_insertionSort _ _) (List.pairwise_insertionSort _ _) hall

theorem sorted_perm (h : (others.map (·.mirrored)).Perm (pairs.map (·.ends))) :
    ((sortPairs .controlled others).map (·.mirrored)).Perm ((sortPairs .controlling pairs).map (·.ends)) :=
  (((sortPairs_perm _ _).map _).trans h).trans ((sortPairs_perm _ _).map _).symm

theorem sorted_alike_of_distinct (h : (others.map (·.mirrored)).Perm (pairs.map (·.ends)))
    (hdistinct : ∀ pair1 ∈ pairs, ∀ pair2 ∈ pairs,
      pair1.priority .controlling = pair2.priority .controlling → pair1.ends = pair2.ends) :
    (sortPairs .controlled others).map (·.mirrored) = (sortPairs .controlling pairs).map (·.ends) := by
  have hends {ends : Candidate × Candidate} (hmem : ends ∈ (sortPairs .controlling pairs).map (·.ends)) :
      ∃ pair ∈ pairs, pair.ends = ends := by
    obtain ⟨pair, hpair, rfl⟩ := List.mem_map.mp hmem
    exact ⟨pair, (sortPairs_perm _ _).mem_iff.mp hpair, rfl⟩
  refine List.Perm.eq_of_pairwise ?_ (sortPairs_sorted .controlled others) (sortPairs_sorted .controlling pairs)
    (sorted_perm h)
  intro ends1 ends2 hmem1 hmem2 h12 h21
  obtain ⟨pair1, hpair1, rfl⟩ := hends ((sorted_perm h).mem_iff.mp hmem1)
  obtain ⟨pair2, hpair2, rfl⟩ := hends hmem2
  exact hdistinct pair1 hpair1 pair2 hpair2 (Nat.le_antisymm h21 h12)

theorem sorted_alike_of_mirrored (h : others.map (·.mirrored) = pairs.map (·.ends)) :
    (sortPairs .controlled others).map (·.mirrored) = (sortPairs .controlling pairs).map (·.ends) := by
  have hothers := sortPairs_roles .controlled others
  have hpairs := sortPairs_roles .controlling pairs
  simp only [CandidatePair.roles] at hothers hpairs
  rw [hothers, hpairs, h]

namespace CandidatePair

/-- The two sides compare alike, by an order that is that of the RFC wherever 64 bits hold
the priority; and they sort the same pairs alike, but for pairs of one priority, which keep the
order in which they came. -/
theorem sides_order_alike :
    (∀ pair1 pair2 other1 other2 : CandidatePair, other1.mirrored = pair1.ends → other2.mirrored = pair2.ends →
      comparePairControlled other1 other2 = comparePairControlling pair1 pair2) ∧
    (∀ control, IsStrictWeakOrder CandidatePair fun pair1 pair2 => comparePair control pair1 pair2 = true) ∧
    (∀ control (pair1 pair2 : CandidatePair), ¬pair1.AtLimit → ¬pair2.AtLimit →
      pair1.priority control = pair1.rfcPriority control ∧
      (comparePair control pair1 pair2 = true ↔ pair1.rfcPriority control > pair2.rfcPriority control)) ∧
    (∀ pairs others : List CandidatePair, (others.map (·.mirrored)).Perm (pairs.map (·.ends)) →
      (sortPairs .controlled others).map (·.priority .controlled) =
        (sortPairs .controlling pairs).map (·.priority .controlling) ∧
      ((sortPairs .controlled others).map (·.mirrored)).Perm ((sortPairs .controlling pairs).map (·.ends)) ∧
      ((others.map (·.mirrored) = pairs.map (·.ends) ∨ ∀ pair1 ∈ pairs, ∀ pair2 ∈ pairs,
          pair1.priority .controlling = pair2.priority .controlling → pair1.ends = pair2.ends) →
        (sortPairs .controlled others).map (·.mirrored) = (sortPairs .controlling pairs).map (·.ends))) := by
  constructor
  · intro pair1 pair2 other1 other2 h1 h2
    rw [Bool.eq_iff_iff]
    have hcontrolled := comparePair_eq_true .controlled other1 other2
    have hcontrolling := comparePair_eq_true .controlling pair1 pair2
    rw [priority_mirrored h1, priority_mirrored h2] at hcontrolled
    exact hcontrolled.trans hcontrolling.symm
  constructor
  · exact strictWeakOrder
  constructor
  · intro control pair1 pair2 h1 h2
    rw [comparePair_eq_true, priority_eq h1, priority_eq h2]
    exact ⟨rfl, Iff.rfl⟩
  · intro pairs others h
    refine ⟨priorities_alike h, sorted_perm h, fun hside => ?_⟩
    cases hside with
    | inl hsame => exact sorted_alike_of_mirrored hsame
    | inr hdistinct => exact sorted_alike_of_distinct h hdistinct

/-- A candidate with this priority, of this address. -/
def sampleCandidate (priority : UInt32) (foundation : UInt8) : Candidate :=
  { mPriority := priority, mFoundation := [foundation] }

def samplePair (localPriority remotePriority : UInt32) (foundation : UInt8) : CandidatePair :=
  { mID := 0, mLocal := sampleCandidate localPriority foundation, mRemote := sampleCandidate remotePriority foundation }

theorem sides_order_samples :
    (comparePairControlled (samplePair 1 2 0) (samplePair 3 4 0) =
      comparePairControlling (samplePair 2 1 0) (samplePair 4 3 0)) ∧
    (comparePair .controlling (samplePair 2 1 0) (samplePair 4 3 0) = true ↔
      (samplePair 2 1 0).rfcPriority .controlling > (samplePair 4 3 0).rfcPriority .controlling) ∧
    (sortPairs .controlled [samplePair 1 2 0, samplePair 3 4 0]).map (·.mirrored) =
      (sortPairs .controlling [samplePair 4 3 0, samplePair 2 1 0]).map (·.ends) := by
  obtain ⟨hcompare, -, hrfc, hsort⟩ := sides_order_alike
  have h1 : ¬(samplePair 2 1 0).AtLimit := by simp [AtLimit, samplePair, sampleCandidate]
  have h2 : ¬(samplePair 4 3 0).AtLimit := by simp [AtLimit, samplePair, sampleCandidate]
  refine ⟨hcompare _ _ _ _ rfl rfl, (hrfc .controlling _ _ h1 h2).2, ?_⟩
  apply (hsort [samplePair 4 3 0, samplePair 2 1 0] [samplePair 1 2 0, samplePair 3 4 0] (List.Perm.swap _ _ [])).2.2
  right
  decide

/-- The greatest priorities that a candidate can have exceed 64 bits, so their pair comes last where
it should come first; and pairs of one priority keep the order in which each side found them. -/
theorem sides_order_apart :
    (comparePairControlling (samplePair 1 1 0) (samplePair 0xFFFFFFFF 0xFFFFFFFF 0) = true ∧
      (samplePair 1 1 0).rfcPriority .controlling < (samplePair 0xFFFFFFFF 0xFFFFFFFF 0).rfcPriority .controlling) ∧
    ([samplePair 2 5 0, samplePair 2 5 1].map (·.mirrored)).Perm ([samplePair 5 2 1, samplePair 5 2 0].map (·.ends)) ∧
    (sortPairs .controlled [samplePair 2 5 0, samplePair 2 5 1]).map (·.mirrored) ≠
      (sortPairs .controlling [samplePair 5 2 1, samplePair 5 2 0]).map (·.ends) := by
  refine ⟨by decide, List.Perm.swap _ _ [], by decide⟩

end CandidatePair

end Sides

end OpenPeer
