import OpenPeer.ICESessionRoles
import OpenPeer.ICESocketSessionTurns

/-!
# The pairs of a session are well formed

Along a run every pair is made of a local and a remote candidate of its session, no two
pairs are searched alike unless one of them was nominated, what the session can search
stays searched, and a nomination stays until the session ends.
-/
namespace OpenPeer

open Runs

namespace ICESocketSession

section Candidates

variable (ext : ICEExternals)

theorem addedCandidates_self (candidates : List Candidate) : addedCandidates candidates candidates = [] := by
  apply List.filter_eq_nil_iff.mpr
  intro candidate hcandidate
  have hequal : candidate.isEqual candidate = true := by simp [Candidate.isEqual]
  simpa using ⟨candidate, hcandidate, hequal⟩

theorem takeCandidates_new (current updated : List Candidate) :
    (takeCandidates current updated).2.2 = addedCandidates current (takeCandidates current updated).1 := by
  unfold takeCandidates
  split
  · dsimp only
    split
    · rfl
    next hsame =>
      rw [not_or, not_lt, not_lt, Nat.le_zero, List.length_eq_zero_iff] at hsame
      exact hsame.1.trans (addedCandidates_self current).symm
  · exact (addedCandidates_self current).symm

theorem assemblePairs_sides (next : Nat) (locals remotes : List Candidate) :
    (assemblePairs next locals remotes).map (fun pair => (pair.mLocal, pair.mRemote)) =
      locals.flatMap fun l => remotes.map fun r => (l, r) := by
  apply List.ext_getElem
  · simp [assemblePairs]
  · intro n h₁ h₂
    simp [assemblePairs]

theorem mem_assemblePairs {next : Nat} {locals remotes : List Candidate} {l r : Candidate} :
    (∃ pair ∈ assemblePairs next locals remotes, pair.mLocal = l ∧ pair.mRemote = r) ↔ l ∈ locals ∧ r ∈ remotes := by
  have hmem : (l, r) ∈ (assemblePairs next locals remotes).map (fun pair => (pair.mLocal, pair.mRemote)) ↔
      l ∈ locals ∧ r ∈ remotes := by
    rw [assemblePairs_sides]
    simp
  simpa using hmem

end Candidates

/-- A pair is made when a packet discovers it or a candidate of either side is new. The sides of the pairs that are
made when a local candidate is new are left open. -/
inductive Made (s s' : ICESocketSession) (l r : Candidate) : Prop
  | discovered (source : IPAddress) (hlocal : l ∈ s.mLocalCandidates) (hremote : r = discoveredCandidate source)
    (hupdated : r ∈ s'.mUpdatedRemoteCandidates)
  | newRemote (hlocal : l ∈ s'.mLocalCandidates)
    (hremote : r ∈ addedCandidates s.mRemoteCandidates s'.mRemoteCandidates)
  | newLocal (candidate : Candidate) (hnew : candidate ∈ addedCandidates s.mLocalCandidates s'.mLocalCandidates)
    (hside : l = candidate ∨ r = candidate)

/-- The pair of this number is nominated, or about to be. -/
def nominates (s : ICESocketSession) (id : Nat) : Bool := s.mNominated == some id || s.mPendingNominatation == some id

/-- Some pair is searched as these two would be. -/
def Represents (ext : ICEExternals) (s : ICESocketSession) (l r : Candidate) : Prop :=
  ∃ x ∈ s.sides, searchKey ext x.2.1 x.2.2 = searchKey ext l r

/-- No two pairs of the types that are pruned are searched alike, but for those that are spared. -/
def SidesApart (ext : ICEExternals) (s : ICESocketSession) (spared : Nat → Prop) : Prop :=
  s.sides.Pairwise fun x x' => x.2.1.mType ∈ searchArray → searchKey ext x.2.1 x.2.2 = searchKey ext x'.2.1 x'.2.2 →
    spared x.1 ∨ spared x'.1

variable {ext : ICEExternals} {s t s' : ICESocketSession}

section Recomputation

theorem stepCandidates_locals :
    (t.stepCandidates ext).mLocalCandidates = (takeCandidates t.mLocalCandidates t.mUpdatedLocalCandidates).1 := by
  unfold stepCandidates
  dsimp only
  split <;> rfl

theorem stepCandidates_remotes :
    (t.stepCandidates ext).mRemoteCandidates = (takeCandidates t.mRemoteCandidates t.mUpdatedRemoteCandidates).1 := by
  unfold stepCandidates
  dsimp only
  split <;> rfl

def newLocals (ext : ICEExternals) (t : ICESocketSession) : List Candidate :=
  addedCandidates t.mLocalCandidates (t.stepCandidates ext).mLocalCandidates

def newRemotes (ext : ICEExternals) (t : ICESocketSession) : List Candidate :=
  addedCandidates t.mRemoteCandidates (t.stepCandidates ext).mRemoteCandidates

/-- The pairs before they are pruned. -/
def allPairs (ext : ICEExternals) (t : ICESocketSession) : List CandidatePair :=
  let swapped := assemblePairs t.nextPairID (t.stepCandidates ext).mRemoteCandidates (newLocals ext t)
  t.mCandidatePairs ++ swapped ++
    assemblePairs (t.nextPairID + swapped.length) (t.stepCandidates ext).mLocalCandidates (newRemotes ext t)

theorem newLocals_eq :
    newLocals ext t = (takeCandidates t.mLocalCandidates t.mUpdatedLocalCandidates).2.2 := by
  rw [newLocals, stepCandidates_locals, takeCandidates_new]

theorem newRemotes_eq :
    newRemotes ext t = (takeCandidates t.mRemoteCandidates t.mUpdatedRemoteCandidates).2.2 := by
  rw [newRemotes, stepCandidates_remotes, takeCandidates_new]

theorem stepCandidates_pairs :
    (t.stepCandidates ext).mCandidatePairs = t.mCandidatePairs ∧ newRemotes ext t = [] ∨
    (t.stepCandidates ext).mCandidatePairs =
      (prunePairs ext t.isNominating (sortPairs t.mControl (allPairs ext t))).kept := by
  by_cases hsame : (newLocals ext t).length < 1 ∧ (newRemotes ext t).length < 1
  · left
    refine ⟨?_, List.length_eq_zero_iff.mp (Nat.lt_one_iff.mp hsame.2)⟩
    rw [newLocals_eq, newRemotes_eq] at hsame
    simp only [stepCandidates, if_pos hsame]
    rfl
  · right
    rw [newLocals_eq, newRemotes_eq] at hsame
    rw [allPairs, newLocals_eq, newRemotes_eq, stepCandidates_locals, stepCandidates_remotes]
    simp only [stepCandidates, if_neg hsame]
    rfl

variable {pair : CandidatePair}

theorem mem_allPairs (hmem : pair ∈ (t.stepCandidates ext).mCandidatePairs) : pair ∈ allPairs ext t := by
  cases @stepCandidates_pairs ext t with
  | inl hsame => exact List.mem_append_left _ (List.mem_append_left _ (hsame.1 ▸ hmem))
  | inr hpruned =>
    rw [hpruned] at hmem
    exact (List.perm_insertionSort _ _).mem_iff.mp ((prunePairs_sublist _ _).subset hmem)

/-- What there is to search is searched after the pairs are computed, unless it is too much. -/
theorem stepCandidates_represented (hmem : pair ∈ allPairs ext t)
    (hlocal : pair.mLocal.mType ≠ .typeServerReflexive)
    (hfew : (t.stepCandidates ext).mCandidatePairs.length < maxReasonableCandidatePairSearches)
    (hnew : pair ∈ t.mCandidatePairs ∨ newRemotes ext t ≠ []) :
    Represents ext (t.stepCandidates ext) pair.mLocal pair.mRemote := by
  cases @stepCandidates_pairs ext t with
  | inl hsame =>
    have hold := hnew.resolve_right (not_not_intro hsame.2)
    exact ⟨side pair, List.mem_map_of_mem (hsame.1 ▸ hold), rfl⟩
  | inr hpruned =>
    have hsorted : pair ∈ sortPairs t.mControl (allPairs ext t) := (List.perm_insertionSort _ _).mem_iff.mpr hmem
    rw [hpruned] at hfew
    have hkept := (prunePairs_represented hsorted hlocal).resolve_left (not_le.mpr hfew)
    obtain ⟨pair', hpair', hkey⟩ := hkept
    exact ⟨side pair', List.mem_map_of_mem (hpruned ▸ hpair'), hkey⟩

theorem stepCandidates_nominated (hmem : pair ∈ t.mCandidatePairs) (hpair : t.isNominating pair = true) :
    pair ∈ (t.stepCandidates ext).mCandidatePairs := by
  cases @stepCandidates_pairs ext t with
  | inl hsame => exact hsame.1 ▸ hmem
  | inr hpruned =>
    rw [hpruned]
    apply mem_prunePairs _ hpair
    exact (List.perm_insertionSort _ _).mem_iff.mpr (List.mem_append_left _ (List.mem_append_left _ hmem))

theorem stepCandidates_apart {spared : Nat → Prop} (hspared : ∀ id, t.nominates id = true → spared id)
    (h : SidesApart ext t spared) : SidesApart ext (t.stepCandidates ext) spared := by
  cases @stepCandidates_pairs ext t with
  | inl hsame =>
    unfold SidesApart sides
    rw [hsame.1]
    exact h
  | inr hpruned =>
    unfold SidesApart sides
    rw [hpruned, List.pairwise_map]
    apply prunePairs_apart.imp
    intro pair pair' hapart htype hkey
    exact (hapart htype hkey).imp (hspared pair.mID) (hspared pair'.mID)

end Recomputation

section Turns

variable {viaLocalIP source : IPAddress} {viaTransport : Types}

theorem matchPair_none (h : s.matchPair ext viaLocalIP viaTransport source = none) :
    ∀ pair ∈ s.mCandidatePairs, isCandidateMatch ext pair viaLocalIP viaTransport source = false := by
  have hfind : (s.mCandidatePairs.find? fun pair => isCandidateMatch ext pair viaLocalIP viaTransport source) = none := by
    unfold matchPair at h
    split at h
    · split at h
      · cases h
      · exact h
    · exact h
  simpa using hfind

theorem discover_sides {viaLocalIP : IPAddress} {viaTransport : Types} {source : IPAddress} :
    (s.discover ext viaLocalIP viaTransport source).1.sides = s.sides ∨
    ∃ candidate ∈ s.mLocalCandidates, candidate.mType = viaTransport ∧ getViaLocalIP ext candidate = viaLocalIP ∧
      (s.discover ext viaLocalIP viaTransport source).1.sides =
        s.sides ++ [(s.nextPairID, candidate, discoveredCandidate source)] := by
  unfold discover
  dsimp only
  split
  · exact .inl rfl
  next candidate hcandidate =>
    right
    have hfound := List.find?_some hcandidate
    simp only [Bool.and_eq_true, beq_iff_eq] at hfound
    refine ⟨candidate, List.mem_of_find?_eq_some hcandidate, hfound.1, hfound.2, ?_⟩
    simp [sides, side]

theorem discovered_unlike {candidate : Candidate}
    (hvia : viaTransport = .typeLocal ∨ viaTransport = .typeRelayed)
    (hmatch : s.matchPair ext viaLocalIP viaTransport source = none)
    (htype : candidate.mType = viaTransport) (hip : getViaLocalIP ext candidate = viaLocalIP) :
    ∀ x ∈ s.sides, searchKey ext x.2.1 x.2.2 ≠ searchKey ext candidate (discoveredCandidate source) := by
  intro x hx hkey
  obtain ⟨pair, hpair, rfl⟩ := List.mem_map.mp hx
  have hnone := matchPair_none hmatch pair hpair
  simp only [searchKey, side, Prod.mk.injEq, htype, hip] at hkey
  obtain ⟨hpairIP, hpairType, hpairRemote⟩ := hkey
  have hnormal : normalize pair.mLocal.mType = viaTransport := by
    rw [hpairType]
    cases hvia with
    | inl hlocal => rw [hlocal]; rfl
    | inr hrelayed => rw [hrelayed]; rfl
  simp [isCandidateMatch, isEqualIgnoringIPv4Format, hnormal, hpairIP, hpairRemote, discoveredCandidate] at hnone

theorem Turn.made (h : Turn ext s s') : ∀ x ∈ s'.sides, x ∈ s.sides ∨ Made s s' x.2.1 x.2.2 := by
  intro x hx
  cases h with
  | stepped h =>
    cases h with
    | calm h =>
      cases h with
      | inl hstill => exact .inl (hstill.sides ▸ hx)
      | inr hended => simp [sides, hended.none] at hx
    | recomputed t hbefore hafter =>
      rw [hafter.sides] at hx
      obtain ⟨pair, hpair, rfl⟩ := List.mem_map.mp hx
      have hlocals : newLocals ext t = addedCandidates s.mLocalCandidates s'.mLocalCandidates := by
        rw [newLocals, hbefore.locals, hafter.locals]
      have hremotes : newRemotes ext t = addedCandidates s.mRemoteCandidates s'.mRemoteCandidates := by
        rw [newRemotes, hbefore.remotes, hafter.remotes]
      have hmem := mem_allPairs hpair
      rw [allPairs, List.mem_append, List.mem_append] at hmem
      obtain (hold | hswapped) | hstraight := hmem
      · left
        rw [← hbefore.sides]
        exact List.mem_map_of_mem hold
      · have hsides := mem_assemblePairs.mp ⟨pair, hswapped, rfl, rfl⟩
        exact .inr (.newLocal pair.mRemote (hlocals ▸ hsides.2) (.inr rfl))
      · have hsides := mem_assemblePairs.mp ⟨pair, hstraight, rfl, rfl⟩
        exact .inr (.newRemote (hafter.locals ▸ hsides.1) (hremotes ▸ hsides.2))
  | discovered viaLocalIP viaTransport source hvia hmatch hafter hupdated =>
    rw [hafter.sides] at hx
    obtain hsame | ⟨candidate, hcandidate, -, -, hnew⟩ := @discover_sides ext s viaLocalIP viaTransport source
    · exact .inl (hsame ▸ hx)
    · rw [hnew, List.mem_append, List.mem_singleton] at hx
      cases hx with
      | inl hold => exact .inl hold
      | inr hnew =>
        subst hnew
        exact .inr (.discovered source hcandidate rfl hupdated)

theorem Turn.apart (h : Turn ext s s') {spared : Nat → Prop} (hspared : ∀ id, s.nominates id = true → spared id)
    (hapart : SidesApart ext s spared) : SidesApart ext s' spared := by
  cases h with
  | stepped h =>
    cases h with
    | calm h =>
      cases h with
      | inl hstill =>
        unfold SidesApart
        rw [hstill.sides]
        exact hapart
      | inr hended => simp [SidesApart, sides, hended.none]
    | recomputed t hbefore hafter =>
      have ht : SidesApart ext t spared := by
        unfold SidesApart
        rw [hbefore.sides]
        exact hapart
      have hnominates (id : Nat) (h : t.nominates id = true) : spared id := by
        rw [nominates, hbefore.nominated, hbefore.pending] at h
        exact hspared id h
      unfold SidesApart
      rw [hafter.sides]
      exact stepCandidates_apart hnominates ht
  | discovered viaLocalIP viaTransport source hvia hmatch hafter hupdated =>
    unfold SidesApart
    rw [hafter.sides]
    obtain hsame | ⟨candidate, -, htype, hip, hnew⟩ := @discover_sides ext s viaLocalIP viaTransport source
    · rw [hsame]
      exact hapart
    · rw [hnew, List.pairwise_append]
      refine ⟨hapart, List.pairwise_singleton _ _, fun x hx x' hx' _ hkey => ?_⟩
      rw [List.mem_singleton.mp hx'] at hkey
      exact absurd hkey (discovered_unlike hvia hmatch htype hip x hx)

variable {l r : Candidate}

/-- What is searched stays searched, unless there is too much or the session ends. -/
theorem Turn.represents (h : Turn ext s s') (hlocal : l.mType ≠ .typeServerReflexive)
    (hopen : s'.isShutdown = false) (hfew : s'.mCandidatePairs.length < maxReasonableCandidatePairSearches)
    (hbefore : Represents ext s l r) : Represents ext s' l r := by
  obtain ⟨x, hx, hkey⟩ := hbefore
  cases h with
  | stepped h =>
    cases h with
    | calm h =>
      cases h with
      | inl hstill => exact ⟨x, hstill.sides ▸ hx, hkey⟩
      | inr hended => simp [hended.shutdown] at hopen
    | recomputed t hbefore hafter =>
      rw [← hbefore.sides] at hx
      obtain ⟨pair, hpair, rfl⟩ := List.mem_map.mp hx
      have hall : pair ∈ allPairs ext t := List.mem_append_left _ (List.mem_append_left _ hpair)
      have htype : pair.mLocal.mType = l.mType := congrArg (·.2.1) hkey
      have hlength : (t.stepCandidates ext).mCandidatePairs.length = s'.mCandidatePairs.length := by
        simpa [sides] using congrArg List.length hafter.sides.symm
      obtain ⟨x', hx', hkey'⟩ := stepCandidates_represented hall (htype ▸ hlocal) (hlength ▸ hfew) (.inl hpair)
      exact ⟨x', hafter.sides ▸ hx', hkey'.trans hkey⟩
  | discovered viaLocalIP viaTransport source hvia hmatch hafter hupdated =>
    refine ⟨x, ?_, hkey⟩
    rw [hafter.sides]
    obtain hsame | ⟨candidate, -, -, -, hnew⟩ := @discover_sides ext s viaLocalIP viaTransport source
    · exact hsame ▸ hx
    · rw [hnew]
      exact List.mem_append_left _ hx

/-- A remote candidate that is new is searched from every local candidate that can send. -/
theorem Turn.represents_new (h : Turn ext s s') (hl : l ∈ s'.mLocalCandidates)
    (hr : r ∈ addedCandidates s.mRemoteCandidates s'.mRemoteCandidates)
    (hlocal : l.mType ≠ .typeServerReflexive) (hopen : s'.isShutdown = false)
    (hfew : s'.mCandidatePairs.length < maxReasonableCandidatePairSearches) : Represents ext s' l r := by
  cases h with
  | stepped h =>
    cases h with
    | calm h =>
      cases h with
      | inl hstill => simp [hstill.remotes, addedCandidates_self] at hr
      | inr hended => simp [hended.shutdown] at hopen
    | recomputed t hbefore hafter =>
      rw [← hbefore.remotes, hafter.remotes] at hr
      rw [hafter.locals] at hl
      obtain ⟨pair, hpair, rfl, rfl⟩ :=
        (@mem_assemblePairs (t.nextPairID + (assemblePairs t.nextPairID (t.stepCandidates ext).mRemoteCandidates
          (newLocals ext t)).length) _ (newRemotes ext t) l r).mpr ⟨hl, hr⟩
      have hall : pair ∈ allPairs ext t := List.mem_append_right _ hpair
      have hlength : (t.stepCandidates ext).mCandidatePairs.length = s'.mCandidatePairs.length := by
        simpa [sides] using congrArg List.length hafter.sides.symm
      obtain ⟨x, hx, hkey⟩ :=
        stepCandidates_represented hall hlocal (hlength ▸ hfew) (.inr (List.ne_nil_of_mem hr))
      exact ⟨x, hafter.sides ▸ hx, hkey⟩
  | discovered viaLocalIP viaTransport source hvia hmatch hafter hupdated =>
    have hremotes : (s.discover ext viaLocalIP viaTransport source).1.mRemoteCandidates = s.mRemoteCandidates := by
      unfold discover
      dsimp only
      split <;> rfl
    simp [hafter.remotes, hremotes, addedCandidates_self] at hr

/-- A pair that is nominated or about to be stays, unless the session ends. -/
theorem Turn.nominated (h : Turn ext s s') {x : Nat × Candidate × Candidate} (hx : x ∈ s.sides)
    (hnominates : s.nominates x.1 = true) : x ∈ s'.sides ∨ s'.isShutdown = true := by
  cases h with
  | stepped h =>
    cases h with
    | calm h =>
      cases h with
      | inl hstill => exact .inl (hstill.sides ▸ hx)
      | inr hended => exact .inr hended.shutdown
    | recomputed t hbefore hafter =>
      left
      rw [← hbefore.sides] at hx
      obtain ⟨pair, hpair, rfl⟩ := List.mem_map.mp hx
      have hpairing : t.isNominating pair = true := by
        rw [isNominating, hbefore.nominated, hbefore.pending]
        exact hnominates
      rw [hafter.sides]
      exact List.mem_map_of_mem (stepCandidates_nominated hpair hpairing)
  | discovered viaLocalIP viaTransport source hvia hmatch hafter hupdated =>
    left
    rw [hafter.sides]
    obtain hsame | ⟨candidate, -, -, -, hnew⟩ := @discover_sides ext s viaLocalIP viaTransport source
    · exact hsame ▸ hx
    · rw [hnew]
      exact List.mem_append_left _ hx

end Turns

section States

variable {states : Nat → ICESocketSession} (hturn : ∀ n, Turn ext (states n) (states (n + 1)))
  (hstart : (states 0).mCandidatePairs = [])

include hturn

section Start

include hstart

theorem states_made (n : Nat) :
    ∀ x ∈ (states n).sides, ∃ k < n, Made (states k) (states (k + 1)) x.2.1 x.2.2 := by
  induction n with
  | zero => simp [sides, hstart]
  | succ n ih =>
    intro x hx
    cases (hturn n).made x hx with
    | inl hold =>
      obtain ⟨k, hlt, hmade⟩ := ih x hold
      exact ⟨k, Nat.lt_succ_of_lt hlt, hmade⟩
    | inr hmade => exact ⟨n, Nat.lt_succ_self n, hmade⟩

theorem states_apart (n : Nat) : SidesApart ext (states n) fun id => ∃ k ≤ n, (states k).nominates id = true := by
  induction n with
  | zero => simp [SidesApart, sides, hstart]
  | succ n ih =>
    apply (hturn n).apart
    · exact fun id hid => ⟨n, Nat.le_succ n, hid⟩
    · apply ih.imp
      intro x x' hapart htype hkey
      have hlater {id : Nat} (h : ∃ k ≤ n, (states k).nominates id = true) :
          ∃ k ≤ n + 1, (states k).nominates id = true := by
        obtain ⟨k, hle, hid⟩ := h
        exact ⟨k, Nat.le_succ_of_le hle, hid⟩
      exact (hapart htype hkey).imp hlater hlater

end Start

theorem states_represent {k n : Nat} (hlt : k < n) {l r : Candidate} (hl : l ∈ (states (k + 1)).mLocalCandidates)
    (hr : r ∈ addedCandidates (states k).mRemoteCandidates (states (k + 1)).mRemoteCandidates)
    (hlocal : l.mType ≠ .typeServerReflexive)
    (hgoes : ∀ m, k < m → m ≤ n → (states m).isShutdown = false ∧
      (states m).mCandidatePairs.length < maxReasonableCandidatePairSearches) :
    Represents ext (states n) l r := by
  induction n, hlt using Nat.le_induction with
  | base =>
    obtain ⟨hopen, hfew⟩ := hgoes (k + 1) (Nat.lt_succ_self k) le_rfl
    exact (hturn k).represents_new hl hr hlocal hopen hfew
  | succ n hlt ih =>
    have hbefore := ih fun m hk hm => hgoes m hk (Nat.le_succ_of_le hm)
    obtain ⟨hopen, hfew⟩ := hgoes (n + 1) (Nat.lt_succ_of_lt hlt) le_rfl
    exact (hturn n).represents hlocal hopen hfew hbefore

end States

/-- Along every run: a pair is made for a packet, of the local candidate at which it arrived and its source, or for a
new remote candidate, of a local candidate and that one, or for a new local candidate; two pairs are searched alike
only if one of them was nominated or about to be; a remote candidate is searched from every local candidate there
was when it was new, as long as the session goes on with less than the pairs that are reasonable; and a pair that is
nominated or about to be stays until the session ends. -/
theorem candidate_pairs_well_formed (ext : ICEExternals) (valid : STUNPacket → List UInt8 → Bool) (a b : AgentStart)
    (foundation : Bool) (events : List (Env × SessionInput)) (hfrom : ∀ e ∈ events, FromSocket e.2) :
    let states (n : Nat) := run (handle ext valid) (constructed a b foundation) (events.take n)
    ∀ n,
      (∀ pair ∈ (states n).mCandidatePairs, ∃ k < n, Made (states k) (states (k + 1)) pair.mLocal pair.mRemote) ∧
      ((states n).mCandidatePairs.Pairwise fun pair pair' =>
        pair.mLocal.mType ∈ searchArray → pair.searchKey ext = pair'.searchKey ext →
          (∃ k ≤ n, (states k).isNominating pair = true) ∨ ∃ k ≤ n, (states k).isNominating pair' = true) ∧
      (∀ k < n, ∀ l ∈ (states (k + 1)).mLocalCandidates, l.mType ≠ .typeServerReflexive →
        ∀ r ∈ addedCandidates (states k).mRemoteCandidates (states (k + 1)).mRemoteCandidates,
          (∀ m, k < m → m ≤ n → (states m).isShutdown = false ∧
            (states m).mCandidatePairs.length < maxReasonableCandidatePairSearches) →
          ∃ pair ∈ (states n).mCandidatePairs, pair.searchKey ext = searchKey ext l r) ∧
      (∀ pair ∈ (states n).mCandidatePairs, (states n).isNominating pair = true →
        (∃ pair' ∈ (states (n + 1)).mCandidatePairs, side pair' = side pair) ∨ (states (n + 1)).isShutdown = true) := by
  intro states n
  have hturn (n : Nat) : Turn ext (states n) (states (n + 1)) := by
    by_cases hlt : n < events.length
    · have hstep : states (n + 1) = (states n).handle ext valid events[n] := by
        simp only [states, List.take_succ_eq_append_getElem hlt, run_append, run_cons, run_nil]
      rw [hstep]
      exact handle_turn (hfrom _ (List.getElem_mem hlt))
    · have hsame : states (n + 1) = states n := by
        simp only [states]
        rw [List.take_of_length_le (by omega), List.take_of_length_le (by omega)]
      rw [hsame]
      exact Still.refl.turn
  have hstart : (states 0).mCandidatePairs = [] := rfl
  refine ⟨?_, ?_, ?_, ?_⟩
  · exact fun pair hpair => states_made hturn hstart n (side pair) (List.mem_map_of_mem hpair)
  · exact List.pairwise_map.mp (states_apart hturn hstart n)
  · intro k hlt l hl hlocal r hr hgoes
    obtain ⟨x, hx, hkey⟩ := states_represent hturn hlt hl hr hlocal hgoes
    obtain ⟨pair, hpair, rfl⟩ := List.mem_map.mp hx
    exact ⟨pair, hpair, hkey⟩
  · intro pair hpair hnominating
    obtain hkept | hended := (hturn n).nominated (List.mem_map_of_mem hpair) hnominating
    · exact .inl (List.mem_map.mp hkept)
    · exact .inr hended

section Samples

open SessionPair

def pairingEnv (n : UInt8) : Env := (hostEvent .first n 0 .wake).env

/-- The other side's candidate at port `n`, which it prefers to what is discovered. -/
def preferredCandidate (n : UInt16) : Candidate :=
  { mType := .typeLocal, mIPAddress := .ipv4 0x0A000002 n, mPriority := 0x7E000000 }

/-- A request of the other side, which controls and nominates. -/
def nominatingRequest : STUNPacket :=
  { STUNPacket.createRequest .binding (Vector.replicate 12 9) with
    mUsername := [65, 58, 66], mPassword := larger.password, mCredentialMechanism := .shortTerm
    mUseCandidateIncluded := true }

/-- The pair that is discovered and nominated has a twin as soon as the candidate itself is known. -/
def twinRun : List (Env × SessionInput) :=
  [(pairingEnv 1, .action .wake),
    (pairingEnv 2, .packet (hostAddress .first) .typeLocal (hostAddress .second) nominatingRequest),
    (pairingEnv 3, .action (.updateRemoteCandidates [preferredCandidate 5000]))]

/-- The remote candidate is there before the local one. -/
def lateRun : List (Env × SessionInput) :=
  [({ pairingEnv 1 with socket := some {} }, .action (.updateRemoteCandidates [preferredCandidate 5000])),
    (pairingEnv 2, .action .wake)]

def crowdedRun : List (Env × SessionInput) :=
  [(pairingEnv 1, .action .wake),
    (pairingEnv 2, .action (.updateRemoteCandidates ((List.range 101).map fun n => preferredCandidate n.toUInt16)))]

def pairingSession (events : List (Env × SessionInput)) : ICESocketSession :=
  run (handle plainICE signedWith) (constructed larger smaller false) events

theorem candidate_pairs_well_formed_twin :
    ∃ pair ∈ (pairingSession (twinRun.take 3)).mCandidatePairs,
      pair.searchKey plainICE = searchKey plainICE (hostCandidate .first) (preferredCandidate 5000) := by
  have hfrom : ∀ e ∈ twinRun, FromSocket e.2 := by simp [twinRun, FromSocket]
  apply (candidate_pairs_well_formed plainICE signedWith larger smaller false twinRun hfrom 3).2.2.1 2 (by decide)
  · decide +kernel
  · decide
  · decide +kernel
  · intro m hlt hle
    obtain rfl : m = 3 := by omega
    decide +kernel

/-- A nominated pair is kept beside one that is searched as it is; a pair has its two sides the wrong way round when
the local candidate came later, and the right one is missing; and no more than a hundred pairs are searched. -/
theorem pairs_ill_formed :
    (¬(pairingSession twinRun).mCandidatePairs.Pairwise fun pair pair' =>
      pair.searchKey plainICE ≠ pair'.searchKey plainICE) ∧
    (∃ pair ∈ (pairingSession lateRun).mCandidatePairs,
      pair.mLocal ∉ (pairingSession lateRun).mLocalCandidates ∧
      pair.mLocal ∈ (pairingSession lateRun).mRemoteCandidates) ∧
    (∃ r ∈ (pairingSession crowdedRun).mRemoteCandidates, ∀ pair ∈ (pairingSession crowdedRun).mCandidatePairs,
      pair.searchKey plainICE ≠ searchKey plainICE (hostCandidate .first) r) := by
  refine ⟨by decide +kernel, by decide +kernel, ?_⟩
  exact ⟨preferredCandidate 100, by decide +kernel, by decide +kernel⟩

end Samples

end ICESocketSession

end OpenPeer
