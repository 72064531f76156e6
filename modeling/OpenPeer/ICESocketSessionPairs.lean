import OpenPeer.ICESocketSessionHandlers
import OpenPeer.ICESocketSessionPruning

/-!
# The pairs of a session are told apart by their numbers

No two candidate pairs have the same number, and no number is used again: the pairs stay numbered
when they are made anew and when one more is discovered.
-/
namespace OpenPeer

namespace ICESocketSession

def Numbered (s : ICESocketSession) : Prop :=
  (s.mCandidatePairs.map (·.mID)).Nodup ∧ ∀ pair ∈ s.mCandidatePairs, pair.mID < s.nextPairID

variable {ext : ICEExternals} {s : ICESocketSession}

theorem Numbered.pair? (h : Numbered s) {pair : CandidatePair} (hpair : pair ∈ s.mCandidatePairs) :
    s.pair? (some pair.mID) = some pair := by
  obtain ⟨hnodup, -⟩ := h
  unfold ICESocketSession.pair?
  generalize s.mCandidatePairs = pairs at hnodup hpair
  induction pairs with
  | nil => cases hpair
  | cons first pairs ih =>
    rw [List.map_cons, List.nodup_cons] at hnodup
    rcases List.mem_cons.mp hpair with rfl | hpair
    · exact List.find?_cons_of_pos (beq_self_eq_true _)
    · rw [List.find?_cons_of_neg, ih hnodup.2 hpair]
      intro heq
      have hid : first.mID = pair.mID := Option.some.inj (beq_iff_eq.mp heq)
      exact hnodup.1 (hid ▸ List.mem_map_of_mem hpair)

theorem assemblePairs_ids (next : Nat) (locals remotes : List Candidate) :
    (assemblePairs next locals remotes).map (·.mID) =
      List.range' next (assemblePairs next locals remotes).length := by
  unfold assemblePairs
  rw [List.length_mapIdx]
  apply List.ext_getElem
  · simp
  · intro n h₁ h₂
    simp

theorem Numbered.stepPairs (h : Numbered s) (newLocals newRemotes : List Candidate) :
    Numbered (s.stepPairs ext newLocals newRemotes) := by
  unfold ICESocketSession.stepPairs
  extract_lets swapped straight pruned released
  have hswapped := assemblePairs_ids s.nextPairID s.mRemoteCandidates newLocals
  have hstraight := assemblePairs_ids (s.nextPairID + swapped.length) s.mLocalCandidates newRemotes
  have hids : (s.mCandidatePairs ++ swapped ++ straight).map (·.mID) =
      s.mCandidatePairs.map (·.mID) ++ List.range' s.nextPairID (swapped.length + straight.length) := by
    rw [List.map_append, List.map_append, hswapped, hstraight, List.append_assoc, List.range'_append_1]
  have hsublist : pruned.kept.Sublist (sortPairs s.mControl (s.mCandidatePairs ++ swapped ++ straight)) :=
    prunePairs_sublist _ _
  have hperm : (sortPairs s.mControl (s.mCandidatePairs ++ swapped ++ straight)).Perm
      (s.mCandidatePairs ++ swapped ++ straight) := List.perm_insertionSort _ _
  have hlt : ∀ id ∈ (s.mCandidatePairs ++ swapped ++ straight).map (·.mID),
      id < s.nextPairID + swapped.length + straight.length := by
    intro id hid
    rw [hids, List.mem_append] at hid
    rcases hid with hid | hid
    · obtain ⟨pair, hpair, rfl⟩ := List.mem_map.mp hid
      have := h.2 pair hpair
      omega
    · have := List.mem_range'_1.mp hid
      omega
  have hnodup : ((s.mCandidatePairs ++ swapped ++ straight).map (·.mID)).Nodup := by
    rw [hids]
    refine List.nodup_append.mpr ⟨h.1, List.nodup_range', fun id hid id' hid' heq => ?_⟩
    obtain ⟨pair, hpair, rfl⟩ := List.mem_map.mp hid
    have hold := h.2 pair hpair
    have hnew := List.mem_range'_1.mp hid'
    omega
  refine ⟨((hsublist.map _).nodup ((hperm.map _).nodup_iff.mpr hnodup)), fun pair hpair => ?_⟩
  exact hlt pair.mID (List.mem_map_of_mem (hperm.mem_iff.mp (hsublist.subset hpair)))

theorem Numbered.stepCandidates (h : Numbered s) : Numbered (s.stepCandidates ext) := by
  unfold ICESocketSession.stepCandidates
  obtain ⟨locals, updatedLocals, newLocals⟩ := takeCandidates s.mLocalCandidates s.mUpdatedLocalCandidates
  obtain ⟨remotes, updatedRemotes, newRemotes⟩ := takeCandidates s.mRemoteCandidates s.mUpdatedRemoteCandidates
  have hwith : Numbered (s.withCandidates locals updatedLocals remotes updatedRemotes) := h
  dsimp only
  split
  · exact hwith
  · exact hwith.stepPairs newLocals newRemotes

theorem Numbered.discover (h : Numbered s) (viaLocalIP : IPAddress) (viaTransport : Types) (source : IPAddress) :
    Numbered (s.discover ext viaLocalIP viaTransport source).1 := by
  unfold ICESocketSession.discover
  dsimp only
  split
  · exact h
  · refine ⟨?_, fun pair hpair => ?_⟩
    · rw [List.map_append]
      refine List.nodup_append.mpr ⟨h.1, List.nodup_singleton _, fun id hid id' hid' heq => ?_⟩
      obtain ⟨pair, hpair, rfl⟩ := List.mem_map.mp hid
      have hold := h.2 pair hpair
      have hnew : id' = s.nextPairID := List.mem_singleton.mp hid'
      omega
    · rcases List.mem_append.mp hpair with hpair | hpair
      · exact Nat.lt_succ_of_lt (h.2 pair hpair)
      · rw [List.mem_singleton.mp hpair]
        exact Nat.lt_succ_self _

end ICESocketSession

end OpenPeer
