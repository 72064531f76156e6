import OpenPeer.RUDPChannelLoss

/-!
# The counters of the sending packets

Two counters are kept beside the packets sent: how many are to be resent, and how
many batons are available while the others are held by packets. Each method that
touches a packet moves its flags and the counters together, and this is one
relation between the packets and counters before and after; it is kept under a
part of the packets, so that it composes along the loops over them.
-/
namespace OpenPeer

open RUDPPacket

/-- How many packets are to be resent. -/
def flagged (ps : List BufferedPacket) : Nat := ps.countP (·.mFlagForResendingInNextBurst)

/-- How many packets hold a baton. -/
def holding (ps : List BufferedPacket) : Nat := ps.countP (·.mHoldsBaton)

@[simp] theorem flagged_append (ps qs : List BufferedPacket) : flagged (ps ++ qs) = flagged ps + flagged qs :=
  List.countP_append

@[simp] theorem holding_append (ps qs : List BufferedPacket) : holding (ps ++ qs) = holding ps + holding qs :=
  List.countP_append

theorem flagged_cons (p : BufferedPacket) (ps : List BufferedPacket) : flagged (p :: ps) = flagged [p] + flagged ps :=
  flagged_append [p] ps

theorem holding_cons (p : BufferedPacket) (ps : List BufferedPacket) : holding (p :: ps) = holding [p] + holding ps :=
  holding_append [p] ps

theorem flagged_singleton (p : BufferedPacket) :
    flagged [p] = if p.mFlagForResendingInNextBurst then 1 else 0 := List.countP_singleton

theorem holding_singleton (p : BufferedPacket) : holding [p] = if p.mHoldsBaton then 1 else 0 :=
  List.countP_singleton

namespace BufferedPacket

/-- A packet that is to be resent has its buffer. -/
def Resendable (p : BufferedPacket) : Prop := p.mFlagForResendingInNextBurst = true → p.mPacket.isSome = true

/-- Nothing is left to be done about a packet. -/
structure Released (p : BufferedPacket) : Prop where
  packet : p.mPacket = none
  resend : p.mFlagForResendingInNextBurst = false
  baton : p.mHoldsBaton = false

end BufferedPacket

/-- Packets and counters move together: the packets to be resent are counted, whatever others are
counted beside them, no baton is lost and none appears. -/
structure Balanced (ps : List BufferedPacket) (c : Counters) (qs : List BufferedPacket) (c' : Counters) : Prop where
  resend : ∀ k, c.mTotalPacketsToResend = flagged ps + k →
    c'.mTotalPacketsToResend = flagged qs + k ∧ c'.fault = c.fault
  batons : c'.mAvailableBurstBatons + holding qs = c.mAvailableBurstBatons + holding ps
  resendable : (∀ p ∈ ps, p.Resendable) → ∀ q ∈ qs, q.Resendable

namespace Balanced

variable {ps qs : List BufferedPacket} {c c' c'' : Counters}

theorem refl (ps : List BufferedPacket) (c : Counters) : Balanced ps c ps c := ⟨fun _ h => ⟨h, rfl⟩, rfl, id⟩

theorem trans {rs : List BufferedPacket} (h : Balanced ps c qs c') (h' : Balanced qs c' rs c'') :
    Balanced ps c rs c'' where
  resend := by
    intro k hk
    obtain ⟨hq, hfault⟩ := h.resend k hk
    obtain ⟨hr, hfault'⟩ := h'.resend k hq
    exact ⟨hr, hfault'.trans hfault⟩
  batons := h'.batons.trans h.batons
  resendable := fun hps => h'.resendable (h.resendable hps)

theorem append {rs ss : List BufferedPacket} (h : Balanced ps c qs c') (h' : Balanced rs c' ss c'') :
    Balanced (ps ++ rs) c (qs ++ ss) c'' where
  resend := by
    intro k hk
    rw [flagged_append, Nat.add_assoc] at hk
    obtain ⟨hq, hfault⟩ := h.resend _ hk
    obtain ⟨hs, hfault'⟩ := h'.resend (flagged qs + k) (by omega)
    rw [flagged_append]
    exact ⟨by omega, hfault'.trans hfault⟩
  batons := by
    have hfirst := h.batons
    have hsecond := h'.batons
    rw [holding_append, holding_append]
    omega
  resendable := by
    intro hall q hq
    rcases List.mem_append.mp hq with hq | hq
    · exact h.resendable (fun p hp => hall p (List.mem_append_left _ hp)) q hq
    · exact h'.resendable (fun p hp => hall p (List.mem_append_right _ hp)) q hq

theorem cons {p q : BufferedPacket} (h : Balanced [p] c [q] c') (h' : Balanced ps c' qs c'') :
    Balanced (p :: ps) c (q :: qs) c'' := h.append h'

theorem after (rs : List BufferedPacket) (h : Balanced ps c qs c') : Balanced (rs ++ ps) c (rs ++ qs) c' :=
  (refl rs c).append h

end Balanced

section Packets

variable (p : BufferedPacket) (c : Counters)

theorem balanced_doNotResend : Balanced [p] c [(p.doNotResend c).1] (p.doNotResend c).2 := by
  unfold BufferedPacket.doNotResend
  split
  · exact .refl _ _
  next hflag =>
    have hset : p.mFlagForResendingInNextBurst = true := not_not.mp hflag
    refine ⟨fun k hk => ?_, ?_, fun _ q hq => ?_⟩
    · rw [flagged_singleton, hset, if_pos rfl] at hk
      rw [if_neg (by omega)]
      exact ⟨by simp only [flagged_singleton, Bool.false_eq_true, if_false]; omega, rfl⟩
    · split <;> rfl
    · split at hq <;> (rw [List.mem_singleton.mp hq]; exact fun h => nomatch h)

theorem balanced_flagForResending : Balanced [p] c [(p.flagForResending c).1] (p.flagForResending c).2 := by
  unfold BufferedPacket.flagForResending
  split
  · exact .refl _ _
  next hbuffer =>
    split
    · exact .refl _ _
    next hflag =>
      refine ⟨fun k hk => ?_, rfl, fun _ q hq => ?_⟩
      · rw [flagged_singleton, if_neg hflag] at hk
        exact ⟨by simp only [flagged_singleton, if_true]; omega, rfl⟩
      · rw [List.mem_singleton.mp hq]
        intro _
        cases hpacket : p.mPacket with
        | none => exact absurd (by rw [hpacket]; rfl) hbuffer
        | some _ => rfl

theorem balanced_consumeBaton : Balanced [p] c [(p.consumeBaton c).1] (p.consumeBaton c).2 := by
  unfold BufferedPacket.consumeBaton
  split
  · exact .refl _ _
  next hbaton =>
    split
    · exact .refl _ _
    · refine ⟨fun k hk => ⟨hk, rfl⟩, ?_, fun h q hq => ?_⟩
      · simp only [holding_singleton, if_neg hbaton, if_true]
        omega
      · rw [List.mem_singleton.mp hq]
        exact h p (List.mem_singleton_self p)

theorem balanced_releaseBaton : Balanced [p] c [(p.releaseBaton c).1] (p.releaseBaton c).2 := by
  unfold BufferedPacket.releaseBaton
  split
  · exact .refl _ _
  next hbaton =>
    have hset : p.mHoldsBaton = true := not_not.mp hbaton
    refine ⟨fun k hk => ⟨hk, rfl⟩, ?_, fun h q hq => ?_⟩
    · simp only [holding_singleton, hset, Bool.false_eq_true, if_true, if_false]
    · rw [List.mem_singleton.mp hq]
      exact h p (List.mem_singleton_self p)

theorem doNotResend_flag : (p.doNotResend c).1.mFlagForResendingInNextBurst = false := by
  unfold BufferedPacket.doNotResend
  split
  next hflag => exact Bool.eq_false_iff.mpr hflag
  · split <;> rfl

theorem releaseBaton_flags : (p.releaseBaton c).1.mHoldsBaton = false ∧
    (p.releaseBaton c).1.mFlagForResendingInNextBurst = p.mFlagForResendingInNextBurst := by
  unfold BufferedPacket.releaseBaton
  split
  next hbaton => exact ⟨Bool.eq_false_iff.mpr hbaton, rfl⟩
  · exact ⟨rfl, rfl⟩

theorem released_flagAsReceived : (p.flagAsReceivedByRemoteParty c).1.Released :=
  ⟨rfl, (releaseBaton_flags _ _).2.trans (doNotResend_flag p c), (releaseBaton_flags _ _).1⟩

theorem balanced_flagAsReceived :
    Balanced [p] c [(p.flagAsReceivedByRemoteParty c).1] (p.flagAsReceivedByRemoteParty c).2 := by
  have h := (balanced_doNotResend p c).trans (balanced_releaseBaton (p.doNotResend c).1 (p.doNotResend c).2)
  refine ⟨h.resend, h.batons, fun _ q hq => ?_⟩
  rw [List.mem_singleton.mp hq]
  intro hflag
  rw [(released_flagAsReceived p c).resend] at hflag
  cases hflag

end Packets

section Lists

variable (ps : List BufferedPacket) (c : Counters)

theorem balanced_cleanAcked (gsnfr : Nat) :
    Balanced ps c ((cleanAcked gsnfr ps c).1 ++ (cleanAcked gsnfr ps c).2.1) (cleanAcked gsnfr ps c).2.2 := by
  induction ps generalizing c with
  | nil => exact .refl _ _
  | cons p ps ih =>
    rw [cleanAcked]
    split
    · exact .refl _ _
    · exact .cons (balanced_flagAsReceived p c) (ih _)

theorem released_cleanAcked (gsnfr : Nat) : ∀ p ∈ (cleanAcked gsnfr ps c).1, p.Released := by
  induction ps generalizing c with
  | nil =>
    intro p hp
    cases hp
  | cons p ps ih =>
    rw [cleanAcked]
    split
    · intro q hq
      cases hq
    · intro q hq
      rcases List.mem_cons.mp hq with rfl | hq
      · exact released_flagAsReceived p c
      · exact ih _ q hq

theorem balanced_onPacket (n : Nat) (f : BufferedPacket → Counters → BufferedPacket × Counters)
    (hf : ∀ p c, Balanced [p] c [(f p c).1] (f p c).2) :
    Balanced ps c (onPacket n f ps c).1 (onPacket n f ps c).2 := by
  induction ps generalizing c with
  | nil => exact .refl _ _
  | cons p ps ih =>
    rw [onPacket]
    split
    · exact .cons (hf p c) (.refl _ _)
    · exact .cons (.refl _ _) (ih c)

theorem onPacket_absent (n : Nat) (f : BufferedPacket → Counters → BufferedPacket × Counters)
    (h : ∀ p ∈ ps, p.mSequenceNumber ≠ n) : (onPacket n f ps c).1 = ps := by
  induction ps generalizing c with
  | nil => rfl
  | cons p ps ih =>
    rw [onPacket, if_neg (h p List.mem_cons_self)]
    exact congrArg (p :: ·) (ih c fun q hq => h q (List.mem_cons_of_mem _ hq))

theorem balanced_flagForced (forced : Nat) : Balanced ps c (RUDPChannelStream.flagForced forced ps c).1
    (RUDPChannelStream.flagForced forced ps c).2 := by
  induction ps generalizing c with
  | nil => exact .refl _ _
  | cons p ps ih =>
    rw [RUDPChannelStream.flagForced]
    split
    · exact .refl _ _
    · exact .cons ((balanced_flagForResending p c).trans (balanced_releaseBaton _ _)) (ih _)

theorem balanced_walkPacket (state : VectorStates) (p : BufferedPacket) (w : VectorWalk) :
    Balanced [p] w.toCounters [(walkPacket state p w).1] (walkPacket state p w).2.toCounters := by
  unfold walkPacket
  cases state.isReceived with
  | true => exact balanced_flagAsReceived p w.toCounters
  | false =>
    simp only [Bool.false_eq_true, if_false]
    split
    · have h := balanced_flagForResending { p with mFlaggedAsFailedToReceive := true } w.toCounters
      exact ⟨h.resend, h.batons, fun hp => h.resendable fun q hq => by
        rw [List.mem_singleton.mp hq]
        exact hp p (List.mem_singleton_self p)⟩
    · exact .refl _ _

theorem balanced_walkVector (n : Nat) (d : VectorDecoderState) (w : VectorWalk) (h : d.InRun) :
    Balanced ps w.toCounters (walkVector ps n d w).1 (walkVector ps n d w).2.toCounters := by
  induction ps generalizing n d w with
  | nil => exact .refl _ _
  | cons p ps ih =>
    by_cases hge : p.mSequenceNumber < n
    · rw [walkVector, if_pos hge]
      exact .cons (.refl _ _) (ih n d w h)
    rcases walkVector_turn p ps n d w h hge with ⟨hwalk, -⟩ | ⟨state, d', w', -, hrun, -, hcounters, hwalk⟩
    · rw [hwalk]
      exact .refl _ _
    · rw [hwalk]
      have hpacket := balanced_walkPacket state p w'
      rw [show w'.toCounters = w.toCounters by rw [hcounters]] at hpacket
      exact .cons hpacket (ih _ d' _ hrun)

/-- To destroy a baton changes one packet: one that holds a baton, when there are enough of these. -/
theorem destroyBaton_counts (which : Nat) :
    flagged (destroyBaton which ps c).1 = flagged ps ∧ (destroyBaton which ps c).2 = c ∧
      holding (destroyBaton which ps c).1 + (if which < holding ps then 1 else 0) = holding ps ∧
      ((∀ p ∈ ps, p.Resendable) → ∀ q ∈ (destroyBaton which ps c).1, q.Resendable) := by
  induction ps generalizing which c with
  | nil => cases which <;> exact ⟨rfl, rfl, rfl, id⟩
  | cons p ps ih =>
    have hskip : ∀ n, (∀ q ∈ p :: ps, q.Resendable) → ∀ q ∈ p :: (destroyBaton n ps c).1, q.Resendable := by
      intro n hall q hq
      rcases List.mem_cons.mp hq with rfl | hq
      · exact hall q List.mem_cons_self
      · exact (ih c n).2.2.2 (fun r hr => hall r (List.mem_cons_of_mem _ hr)) q hq
    by_cases hbaton : p.mHoldsBaton = true
    · cases which with
      | zero =>
        rw [destroyBaton, if_pos hbaton]
        have hrelease : p.releaseBaton c = ({ p with mHoldsBaton := false },
            { c with mAvailableBurstBatons := c.mAvailableBurstBatons + 1 }) := if_neg (not_not_intro hbaton)
        simp only [hrelease, Nat.add_sub_cancel]
        refine ⟨?_, trivial, ?_, fun hall q hq => ?_⟩
        · rw [flagged_cons, flagged_cons p, flagged_singleton, flagged_singleton]
        · simp only [holding_cons _ ps, holding_singleton, hbaton, Bool.false_eq_true, if_true, if_false]
          rw [if_pos (by omega)]
          omega
        · rcases List.mem_cons.mp hq with rfl | hq
          · exact hall p List.mem_cons_self
          · exact hall q (List.mem_cons_of_mem _ hq)
      | succ n =>
        rw [destroyBaton, if_pos hbaton]
        obtain ⟨hflagged, hcounters, hholding, -⟩ := ih c n
        refine ⟨?_, hcounters, ?_, hskip n⟩
        · rw [flagged_cons, hflagged, ← flagged_cons]
        · rw [holding_cons, holding_cons p ps, holding_singleton, if_pos hbaton]
          split at hholding
          · rw [if_pos (by omega)]
            omega
          · rw [if_neg (by omega)]
            omega
    · have heq : destroyBaton which (p :: ps) c =
          (p :: (destroyBaton which ps c).1, (destroyBaton which ps c).2) := by
        cases which <;> rw [destroyBaton, if_neg hbaton]
      rw [heq]
      obtain ⟨hflagged, hcounters, hholding, -⟩ := ih c which
      refine ⟨?_, hcounters, ?_, hskip which⟩
      · rw [flagged_cons, hflagged, ← flagged_cons]
      · rw [holding_cons, holding_cons p ps, holding_singleton, if_neg hbaton, Nat.zero_add, Nat.zero_add]
        exact hholding

end Lists

end OpenPeer
