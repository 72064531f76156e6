import Mathlib.Data.List.TakeWhile
import OpenPeer.RUDPChannelAckChecks

/-!
# Which packet is resent

A burst looks for a packet to resend before it makes a new one. The search has no
way out of its loop, so it ends with the last packet that is flagged and not with
the first, and it does not come back to those before the packet sent last. Where
there is no more than one to be found it finds that one.
-/
namespace OpenPeer

open Runs

section Choice

variable {ps : List BufferedPacket} {last : Option Nat}

/-- Where the search goes: from the packet sent last, or over all packets when that one is gone. -/
def searched (last : Option Nat) (ps : List BufferedPacket) : List BufferedPacket :=
  let fromLast :=
    match last with
    | none => ps
    | some last => ps.dropWhile fun p => p.mSequenceNumber != last
  if fromLast = [] then ps else fromLast

theorem chooseResend_eq (last : Option Nat) (ps : List BufferedPacket) :
    chooseResend last ps = ((searched last ps).filter (·.mFlagForResendingInNextBurst)).getLast? := by
  unfold chooseResend searched
  rfl

theorem searched_suffix (last : Option Nat) (ps : List BufferedPacket) : searched last ps <:+ ps := by
  unfold searched
  cases last with
  | none =>
    simp only
    split <;> exact List.suffix_rfl
  | some n =>
    simp only
    split
    · exact List.suffix_rfl
    · exact List.dropWhile_suffix _

/-- Only packets before the one sent last are left out, and these only while that one is in the map. -/
theorem mem_searched (h : Ascending ps) {p : BufferedPacket} (hp : p ∈ ps) :
    p ∈ searched last ps ↔ ∀ q ∈ ps, last = some q.mSequenceNumber → q.mSequenceNumber ≤ p.mSequenceNumber := by
  unfold searched
  cases last with
  | none =>
    have hall : (if ps = [] then ps else ps) = ps := ite_self ps
    simp only [hall]
    exact ⟨fun _ q _ hq => (nomatch hq), fun _ => hp⟩
  | some n =>
    simp only [Option.some.injEq]
    constructor
    · intro hmem q hq hlast
      by_contra hlt
      have hsome : (ps.dropWhile fun p => p.mSequenceNumber != n) ≠ [] := by
        intro hnone
        exact absurd hlast (Ne.symm (bne_iff_ne.mp (List.dropWhile_eq_nil_iff.mp hnone q hq)))
      rw [if_neg hsome] at hmem
      -- the packet sent last is the first of those that are searched
      obtain ⟨r, rs, hdrop⟩ := List.exists_cons_of_ne_nil hsome
      have hrn : r.mSequenceNumber = n := by
        have hhead := List.head?_dropWhile_not (fun p : BufferedPacket => p.mSequenceNumber != n) ps
        rw [hdrop] at hhead
        simpa using hhead
      have hascending : Ascending (r :: rs) := hdrop ▸ List.Pairwise.sublist (List.dropWhile_sublist _) h
      rw [hdrop] at hmem
      rcases List.mem_cons.mp hmem with rfl | hmem
      · omega
      · have hlt' := (List.pairwise_cons.mp hascending).1 p hmem
        omega
    · intro hle
      split
      · exact hp
      next hsome =>
        obtain ⟨r, hr, hrn⟩ : ∃ r ∈ ps, r.mSequenceNumber = n := by
          by_contra hnone
          refine hsome (List.dropWhile_eq_nil_iff.mpr fun r hr => ?_)
          exact bne_iff_ne.mpr fun heq => hnone ⟨r, hr, heq⟩
        have hle' := hle r hr hrn.symm
        clear hle hsome
        induction ps with
        | nil => cases hp
        | cons q ps ih =>
          obtain ⟨hfirst, hrest⟩ := List.pairwise_cons.mp h
          by_cases hq : q.mSequenceNumber = n
          · rwa [List.dropWhile_cons_of_neg (by simpa using hq)]
          · rw [List.dropWhile_cons_of_pos (by simpa using hq)]
            have hr' : r ∈ ps := (List.mem_cons.mp hr).resolve_left fun h => hq (h ▸ hrn)
            refine ih hrest ((List.mem_cons.mp hp).resolve_left fun heq => ?_) hr'
            have hlt := hfirst r hr'
            subst heq
            omega

/-- At most one packet is to be resent, and it is not before the packet sent last. -/
def OneFlagged (last : Option Nat) (ps : List BufferedPacket) : Prop :=
  (∀ p ∈ ps, ∀ q ∈ ps, p.mFlagForResendingInNextBurst = true → q.mFlagForResendingInNextBurst = true →
    p.mSequenceNumber = q.mSequenceNumber) ∧
  ∀ p ∈ ps, p.mFlagForResendingInNextBurst = true →
    ∀ q ∈ ps, last = some q.mSequenceNumber → q.mSequenceNumber ≤ p.mSequenceNumber

instance (last : Option Nat) (ps : List BufferedPacket) : Decidable (OneFlagged last ps) :=
  inferInstanceAs (Decidable (_ ∧ _))

theorem chooseResend_found {p : BufferedPacket} (hp : chooseResend last ps = some p) :
    p ∈ searched last ps ∧ p ∈ ps ∧ p.mFlagForResendingInNextBurst = true := by
  rw [chooseResend_eq] at hp
  obtain ⟨hmem, hflag⟩ := List.mem_filter.mp (List.mem_of_getLast? hp)
  exact ⟨hmem, (searched_suffix last ps).subset hmem, hflag⟩

theorem chooseResend_none (hnone : chooseResend last ps = none) {p : BufferedPacket} (hp : p ∈ searched last ps) :
    p.mFlagForResendingInNextBurst = false := by
  rw [chooseResend_eq, List.getLast?_eq_none_iff] at hnone
  exact Bool.eq_false_iff.mpr (List.filter_eq_nil_iff.mp hnone p hp)

/-- The search finds the lowest packet when it is the only one. -/
theorem chooseResend_of_one (h : Ascending ps) (hone : OneFlagged last ps) :
    chooseResend last ps = ps.find? (·.mFlagForResendingInNextBurst) := by
  obtain ⟨hsame, habove⟩ := hone
  cases hfind : ps.find? (·.mFlagForResendingInNextBurst) with
  | none =>
    cases hchoice : chooseResend last ps with
    | none => rfl
    | some p =>
      obtain ⟨-, hp, hflag⟩ := chooseResend_found hchoice
      exact absurd hflag (List.find?_eq_none.mp hfind p hp)
  | some p =>
    have hp := List.mem_of_find?_eq_some hfind
    have hflag : p.mFlagForResendingInNextBurst = true := List.find?_some hfind
    have hin : p ∈ searched last ps := (mem_searched h hp).mpr (habove p hp hflag)
    cases hchoice : chooseResend last ps with
    | none =>
      have hclear := chooseResend_none hchoice hin
      rw [hflag] at hclear
      cases hclear
    | some q =>
      obtain ⟨-, hq, hqflag⟩ := chooseResend_found hchoice
      rw [h.unique hq hp (hsame q hq p hp hqflag hflag)]

theorem chooseResend_greatest (h : Ascending ps) {p q : BufferedPacket} (hp : chooseResend last ps = some p)
    (hq : q ∈ ps) (hflag : q.mFlagForResendingInNextBurst = true) : q.mSequenceNumber ≤ p.mSequenceNumber := by
  rw [chooseResend_eq] at hp
  obtain ⟨before, hbefore⟩ := searched_suffix last ps
  have hfilter : ps.filter (·.mFlagForResendingInNextBurst) =
      before.filter (·.mFlagForResendingInNextBurst) ++ (searched last ps).filter (·.mFlagForResendingInNextBurst) := by
    rw [← List.filter_append, hbefore]
  obtain ⟨front, hfront⟩ := List.getLast?_eq_some_iff.mp hp
  rw [hfront, ← List.append_assoc] at hfilter
  have hascending : Ascending (ps.filter (·.mFlagForResendingInNextBurst)) := List.Pairwise.filter _ h
  have hmem : q ∈ ps.filter (·.mFlagForResendingInNextBurst) := List.mem_filter.mpr ⟨hq, hflag⟩
  rw [hfilter] at hmem hascending
  rcases List.mem_append.mp hmem with hmem | hmem
  · exact Nat.le_of_lt ((List.pairwise_append.mp hascending).2.2 q hmem p (List.mem_singleton_self p))
  · rw [List.mem_singleton.mp hmem]

end Choice

end OpenPeer
