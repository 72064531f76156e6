import OpenPeer.ICECandidates

/-!
# What pruning leaves

A pass keeps the pairs of other types, and of its own those that are searched or nominated:
one for each via local IP and remote IP, until there are too many. So no two pairs are left
that would be searched alike unless one is nominated, and what is pruned is searched by
another pair.
-/
namespace OpenPeer

variable (ext : ICEExternals)

/-- What tells searches apart: the local IP they go through, the local type and the remote IP. -/
def searchKey (l r : Candidate) : IPAddress × Types × IPAddress :=
  (getViaLocalIP ext l, l.mType, ext.ignoringIPv4Format r.mIPAddress)

def CandidatePair.searchKey (pair : CandidatePair) : IPAddress × Types × IPAddress :=
  OpenPeer.searchKey ext pair.mLocal pair.mRemote

/-- A pair before it is searched alike. -/
def Searched (found : List (IPAddress × Candidate)) (pairing : CandidatePair) : Prop :=
  ∃ entry ∈ found, entry.1 = getViaLocalIP ext pairing.mLocal ∧
    ext.ignoringIPv4Format entry.2.mIPAddress = ext.ignoringIPv4Format pairing.mRemote.mIPAddress

/-- The pair is not to be searched. -/
def RefusedPair (found : List (IPAddress × Candidate)) (totalAdded : Nat) (pairing : CandidatePair) : Prop :=
  maxReasonableCandidatePairSearches ≤ totalAdded ∨ pairing.mLocal.mType = .typeServerReflexive ∨
    Searched ext found pairing

/-- A pass, pair by pair: what it has found and added before it, the pairs, those that it keeps and what it has added
after it. -/
inductive Pass (nominated : CandidatePair → Bool) (type : Types) :
    List (IPAddress × Candidate) → Nat → List CandidatePair → List CandidatePair → Nat → Prop
  | done (found : List (IPAddress × Candidate)) (n : Nat) : Pass nominated type found n [] [] n
  | other {found : List (IPAddress × Candidate)} {n m : Nat} {pairing : CandidatePair} {pairs kept : List CandidatePair}
    (htype : pairing.mLocal.mType ≠ type) (rest : Pass nominated type found n pairs kept m) :
    Pass nominated type found n (pairing :: pairs) (pairing :: kept) m
  | spared {found : List (IPAddress × Candidate)} {n m : Nat} {pairing : CandidatePair} {pairs kept : List CandidatePair}
    (htype : pairing.mLocal.mType = type) (hrefused : RefusedPair ext found n pairing)
    (hnominated : nominated pairing = true) (rest : Pass nominated type found n pairs kept m) :
    Pass nominated type found n (pairing :: pairs) (pairing :: kept) m
  | dropped {found : List (IPAddress × Candidate)} {n m : Nat} {pairing : CandidatePair} {pairs kept : List CandidatePair}
    (htype : pairing.mLocal.mType = type) (hrefused : RefusedPair ext found n pairing)
    (hdropped : nominated pairing = false) (rest : Pass nominated type found n pairs kept m) :
    Pass nominated type found n (pairing :: pairs) kept m
  | searched {found : List (IPAddress × Candidate)} {n m : Nat} {pairing : CandidatePair} {pairs kept : List CandidatePair}
    (htype : pairing.mLocal.mType = type) (hwanted : ¬RefusedPair ext found n pairing)
    (rest : Pass nominated type ((getViaLocalIP ext pairing.mLocal, pairing.mRemote) :: found) (n + 1) pairs kept m) :
    Pass nominated type found n (pairing :: pairs) (pairing :: kept) m

theorem prunePass_pass (nominated : CandidatePair → Bool) (type : Types) (found : List (IPAddress × Candidate))
    (totalAdded : Nat) (pairs : List CandidatePair) :
    Pass ext nominated type found totalAdded pairs (prunePass ext nominated type found totalAdded pairs).kept
      (prunePass ext nominated type found totalAdded pairs).totalAdded := by
  induction pairs generalizing found totalAdded with
  | nil => exact .done found totalAdded
  | cons pairing pairs ih =>
    have hsearched : (found.any fun entry => entry.1 == getViaLocalIP ext pairing.mLocal &&
        isEqualIgnoringIPv4Format ext entry.2.mIPAddress pairing.mRemote.mIPAddress) = true ↔
        Searched ext found pairing := by
      simp only [Searched, List.any_eq_true, isEqualIgnoringIPv4Format, Bool.and_eq_true, beq_iff_eq]
    unfold prunePass
    split
    next htype => exact .other htype (ih found totalAdded)
    next htype =>
      have htype := not_not.mp htype
      dsimp only
      split
      next hcondition =>
        have hcondition : RefusedPair ext found totalAdded pairing := by
          rwa [RefusedPair, ← hsearched]
        split
        next hnominated => exact .spared htype hcondition hnominated (ih found totalAdded)
        next hdropped => exact .dropped htype hcondition (Bool.eq_false_iff.mpr hdropped) (ih found totalAdded)
      next hcondition =>
        have hcondition : ¬RefusedPair ext found totalAdded pairing := by
          rwa [RefusedPair, ← hsearched]
        exact .searched htype hcondition (ih _ _)

section Passes

variable {ext} {nominated : CandidatePair → Bool} {type : Types} {found : List (IPAddress × Candidate)} {n m : Nat}
  {pairs kept : List CandidatePair}

/-- The two are not searched alike, or one of them is spared. -/
def Apart (ext : ICEExternals) (nominated : CandidatePair → Bool) (pair pair' : CandidatePair) : Prop :=
  pair.searchKey ext = pair'.searchKey ext → nominated pair = true ∨ nominated pair' = true

theorem searched_cons {ip : IPAddress} {remote : Candidate} {pairing : CandidatePair} :
    Searched ext ((ip, remote) :: found) pairing ↔
      (ip = getViaLocalIP ext pairing.mLocal ∧
        ext.ignoringIPv4Format remote.mIPAddress = ext.ignoringIPv4Format pairing.mRemote.mIPAddress) ∨
      Searched ext found pairing := by
  simp [Searched]

variable {pair : CandidatePair}

section

variable (h : Pass ext nominated type found n pairs kept m)
include h

/-- What was searched before the pass is not searched in it. -/
theorem Pass.not_searched (hmem : pair ∈ kept) (htype : pair.mLocal.mType = type)
    (hsearched : Searched ext found pair) : nominated pair = true := by
  induction h with
  | done => simp at hmem
  | other hother rest ih =>
    cases hmem with
    | head => exact absurd htype hother
    | tail _ hmem => exact ih hmem hsearched
  | spared _ hrefused hnominated rest ih =>
    cases hmem with
    | head => exact hnominated
    | tail _ hmem => exact ih hmem hsearched
  | dropped _ _ _ rest ih => exact ih hmem hsearched
  | searched _ hwanted rest ih =>
    cases hmem with
    | head => exact absurd (.inr (.inr hsearched)) hwanted
    | tail _ hmem => exact ih hmem (searched_cons.mpr (.inr hsearched))

theorem Pass.apart : kept.Pairwise fun pair pair' => pair.mLocal.mType = type → Apart ext nominated pair pair' := by
  induction h with
  | done => exact .nil
  | other hother rest ih => exact .cons (fun _ _ htype => absurd htype hother) ih
  | spared _ _ hnominated rest ih => exact .cons (fun _ _ _ _ => .inl hnominated) ih
  | dropped _ _ _ rest ih => exact ih
  | searched htype _ rest ih =>
    refine .cons (fun pair hpair _ hkey => .inr ?_) ih
    simp only [CandidatePair.searchKey, searchKey, Prod.mk.injEq] at hkey
    apply rest.not_searched hpair (hkey.2.1.symm.trans htype)
    exact searched_cons.mpr (.inl ⟨hkey.1, hkey.2.2⟩)

theorem Pass.le : n ≤ m := by
  induction h with
  | done => exact le_refl _
  | other _ _ ih => exact ih
  | spared _ _ _ _ ih => exact ih
  | dropped _ _ _ _ ih => exact ih
  | searched _ _ _ ih => exact (Nat.le_succ _).trans ih

theorem Pass.mem_other (hmem : pair ∈ pairs) (htype : pair.mLocal.mType ≠ type) : pair ∈ kept := by
  induction h with
  | done => exact hmem
  | other _ _ ih =>
    cases hmem with
    | head => exact List.mem_cons_self
    | tail _ hmem => exact List.mem_cons_of_mem _ (ih hmem)
  | spared hpairing _ _ _ ih =>
    cases hmem with
    | head => exact absurd hpairing htype
    | tail _ hmem => exact List.mem_cons_of_mem _ (ih hmem)
  | dropped hpairing _ _ _ ih =>
    cases hmem with
    | head => exact absurd hpairing htype
    | tail _ hmem => exact ih hmem
  | searched hpairing _ _ ih =>
    cases hmem with
    | head => exact absurd hpairing htype
    | tail _ hmem => exact List.mem_cons_of_mem _ (ih hmem)

theorem Pass.mem_nominated (hmem : pair ∈ pairs) (hpair : nominated pair = true) : pair ∈ kept := by
  induction h with
  | done => exact hmem
  | other _ _ ih =>
    cases hmem with
    | head => exact List.mem_cons_self
    | tail _ hmem => exact List.mem_cons_of_mem _ (ih hmem)
  | spared _ _ _ _ ih =>
    cases hmem with
    | head => exact List.mem_cons_self
    | tail _ hmem => exact List.mem_cons_of_mem _ (ih hmem)
  | dropped _ _ hdropped _ ih =>
    cases hmem with
    | head => simp [hpair] at hdropped
    | tail _ hmem => exact ih hmem
  | searched _ _ _ ih =>
    cases hmem with
    | head => exact List.mem_cons_self
    | tail _ hmem => exact List.mem_cons_of_mem _ (ih hmem)

/-- A pair of the type is searched, or one like it is, or there are too many. -/
theorem Pass.searched_or (hmem : pair ∈ pairs) (htype : pair.mLocal.mType = type)
    (hlocal : type ≠ .typeServerReflexive) :
    maxReasonableCandidatePairSearches ≤ m ∨ (∃ pair' ∈ kept, pair'.searchKey ext = pair.searchKey ext) ∨
      Searched ext found pair := by
  have hrefused {found : List (IPAddress × Candidate)} {n m : Nat} (h : RefusedPair ext found n pair) (hle : n ≤ m) :
      maxReasonableCandidatePairSearches ≤ m ∨ Searched ext found pair := by
    cases h with
    | inl hlimit => exact .inl (hlimit.trans hle)
    | inr h => exact .inr (h.resolve_left fun hreflexive => hlocal (htype ▸ hreflexive))
  have hmore {pairing : CandidatePair} {kept : List CandidatePair}
      (h : ∃ pair' ∈ kept, pair'.searchKey ext = pair.searchKey ext) :
      ∃ pair' ∈ pairing :: kept, pair'.searchKey ext = pair.searchKey ext := by
    obtain ⟨pair', hpair', hkey⟩ := h
    exact ⟨pair', List.mem_cons_of_mem _ hpair', hkey⟩
  induction h with
  | done => simp at hmem
  | other hother rest ih =>
    cases hmem with
    | head => exact absurd htype hother
    | tail _ hmem => exact (ih hmem).imp_right (Or.imp_left hmore)
  | spared _ hthis _ rest ih =>
    cases hmem with
    | head => exact .inr (.inl ⟨pair, List.mem_cons_self, rfl⟩)
    | tail _ hmem => exact (ih hmem).imp_right (Or.imp_left hmore)
  | dropped _ hthis _ rest ih =>
    cases hmem with
    | head => exact (hrefused hthis rest.le).imp_right .inr
    | tail _ hmem => exact ih hmem
  | @searched _ _ _ pairing _ _ hpairing _ rest ih =>
    cases hmem with
    | head => exact .inr (.inl ⟨pair, List.mem_cons_self, rfl⟩)
    | tail _ hmem =>
      obtain hlimit | hkept | hsearched := ih hmem
      · exact .inl hlimit
      · exact .inr (.inl (hmore hkept))
      cases searched_cons.mp hsearched with
      | inl halike =>
        refine .inr (.inl ⟨pairing, List.mem_cons_self, ?_⟩)
        simp only [CandidatePair.searchKey, searchKey, Prod.mk.injEq]
        exact ⟨halike.1, hpairing.trans htype.symm, halike.2⟩
      | inr hbefore => exact .inr (.inr hbefore)

end

theorem Pass.represented (h : Pass ext nominated type [] n pairs kept m) (hmem : pair ∈ pairs)
    (hlocal : pair.mLocal.mType ≠ .typeServerReflexive) :
    maxReasonableCandidatePairSearches ≤ m ∨ ∃ pair' ∈ kept, pair'.searchKey ext = pair.searchKey ext := by
  by_cases htype : pair.mLocal.mType = type
  case neg => exact .inr ⟨pair, h.mem_other hmem htype, rfl⟩
  obtain hlimit | hkept | hsearched := h.searched_or hmem htype (htype ▸ hlocal)
  · exact .inl hlimit
  · exact .inr hkept
  · simp [Searched] at hsearched

/-- What a pass adds it keeps: the types of before and its own have room for all that is added. -/
theorem Pass.count (h : Pass ext nominated type found n pairs kept m) {before : List Types} (hnew : type ∉ before) :
    m + kept.countP (fun pair => decide (pair.mLocal.mType ∉ type :: before)) + pairs.length ≤
      n + pairs.countP (fun pair => decide (pair.mLocal.mType ∉ before)) + kept.length := by
  induction h with
  | done => simp
  | other hother _ ih =>
    simp only [List.countP_cons, List.length_cons, List.mem_cons, hother, false_or] at ih ⊢
    omega
  | spared htype _ _ _ ih =>
    simp only [List.countP_cons, List.length_cons, List.mem_cons, htype, true_or, hnew] at ih ⊢
    simp only [not_true_eq_false, decide_false, not_false_eq_true, decide_true, if_true, Bool.false_eq_true, if_false] at ih ⊢
    omega
  | dropped htype _ _ _ ih =>
    simp only [List.countP_cons, List.length_cons, List.mem_cons, htype, hnew] at ih ⊢
    simp only [not_false_eq_true, decide_true, if_true] at ih ⊢
    omega
  | searched htype _ _ ih =>
    simp only [List.countP_cons, List.length_cons, List.mem_cons, htype, true_or, hnew] at ih ⊢
    simp only [not_true_eq_false, decide_false, not_false_eq_true, decide_true, if_true, Bool.false_eq_true, if_false] at ih ⊢
    omega

/-- The passes one after another, over a list of types. -/
inductive Pruning (ext : ICEExternals) (nominated : CandidatePair → Bool) :
    List Types → Nat → List CandidatePair → List CandidatePair → Nat → Prop
  | nil (n : Nat) (pairs : List CandidatePair) : Pruning ext nominated [] n pairs pairs n
  | cons {type : Types} {types : List Types} {n m k : Nat} {pairs kept last : List CandidatePair}
    (first : Pass ext nominated type [] n pairs kept m) (rest : Pruning ext nominated types m kept last k) :
    Pruning ext nominated (type :: types) n pairs last k

variable {types : List Types}

theorem prunePairs_pruning (nominated : CandidatePair → Bool) (pairs : List CandidatePair) :
    Pruning ext nominated searchArray 0 pairs (prunePairs ext nominated pairs).kept
      (prunePairs ext nominated pairs).totalAdded :=
  .cons (prunePass_pass ext nominated _ _ _ _) (.cons (prunePass_pass ext nominated _ _ _ _)
    (.cons (prunePass_pass ext nominated _ _ _ _) (.nil _ _)))

theorem Pass.sublist (h : Pass ext nominated type found n pairs kept m) : kept.Sublist pairs := by
  induction h with
  | done => exact .slnil
  | other _ _ ih => exact ih.cons_cons _
  | spared _ _ _ _ ih => exact ih.cons_cons _
  | dropped _ _ _ _ ih => exact ih.cons _
  | searched _ _ _ ih => exact ih.cons_cons _

section

variable (h : Pruning ext nominated types n pairs kept m)
include h

theorem Pruning.sublist : kept.Sublist pairs := by
  induction h with
  | nil => exact .refl _
  | cons first _ ih => exact ih.trans first.sublist

theorem Pruning.le : n ≤ m := by
  induction h with
  | nil => exact le_refl _
  | cons first _ ih => exact first.le.trans ih

theorem Pruning.mem_nominated (hmem : pair ∈ pairs) (hpair : nominated pair = true) : pair ∈ kept := by
  induction h with
  | nil => exact hmem
  | cons first _ ih => exact ih (first.mem_nominated hmem hpair)

theorem Pruning.apart : kept.Pairwise fun pair pair' => pair.mLocal.mType ∈ types → Apart ext nominated pair pair' := by
  induction h with
  | nil n pairs => exact List.pairwise_of_forall fun _ _ htype => absurd htype List.not_mem_nil
  | cons first rest ih =>
    apply (ih.and (first.apart.sublist rest.sublist)).imp
    intro pair pair' hapart htype
    cases List.mem_cons.mp htype with
    | inl htype => exact hapart.2 htype
    | inr htype => exact hapart.1 htype

theorem Pruning.represented (hmem : pair ∈ pairs) (hlocal : pair.mLocal.mType ≠ .typeServerReflexive) :
    maxReasonableCandidatePairSearches ≤ m ∨ ∃ pair' ∈ kept, pair'.searchKey ext = pair.searchKey ext := by
  induction h generalizing pair with
  | nil => exact .inr ⟨pair, hmem, rfl⟩
  | cons first rest ih =>
    obtain hlimit | ⟨pair', hpair', hkey⟩ := first.represented hmem hlocal
    · exact .inl (hlimit.trans rest.le)
    have htype : pair'.mLocal.mType = pair.mLocal.mType := congrArg (·.2.1) hkey
    obtain hlimit | ⟨pair'', hpair'', hkey'⟩ := ih hpair' (htype ▸ hlocal)
    · exact .inl hlimit
    · exact .inr ⟨pair'', hpair'', hkey'.trans hkey⟩

theorem Pruning.count {before : List Types} (hnew : (types.reverse ++ before).Nodup)
    (hcount : n + pairs.countP (fun pair => decide (pair.mLocal.mType ∉ before)) ≤ pairs.length) : m ≤ kept.length := by
  induction h generalizing before with
  | nil => omega
  | cons first rest ih =>
    rw [List.reverse_cons, List.append_assoc, List.singleton_append] at hnew
    have htype := (List.nodup_cons.mp (List.nodup_append.mp hnew).2.1).1
    have hfirst := first.count htype
    exact ih hnew (by omega)

end

end Passes

section Pruned

variable {ext} {nominated : CandidatePair → Bool} {pairs : List CandidatePair}

theorem prunePairs_sublist (nominated : CandidatePair → Bool) (pairs : List CandidatePair) :
    (prunePairs ext nominated pairs).kept.Sublist pairs := (prunePairs_pruning nominated pairs).sublist

theorem mem_prunePairs {pair : CandidatePair} (hmem : pair ∈ pairs) (hpair : nominated pair = true) :
    pair ∈ (prunePairs ext nominated pairs).kept := (prunePairs_pruning nominated pairs).mem_nominated hmem hpair

theorem prunePairs_apart : (prunePairs ext nominated pairs).kept.Pairwise fun pair pair' =>
    pair.mLocal.mType ∈ searchArray → Apart ext nominated pair pair' :=
  (prunePairs_pruning nominated pairs).apart

theorem prunePairs_represented {pair : CandidatePair} (hmem : pair ∈ pairs)
    (hlocal : pair.mLocal.mType ≠ .typeServerReflexive) :
    maxReasonableCandidatePairSearches ≤ (prunePairs ext nominated pairs).kept.length ∨
      ∃ pair' ∈ (prunePairs ext nominated pairs).kept, pair'.searchKey ext = pair.searchKey ext := by
  have hpruning := @prunePairs_pruning ext nominated pairs
  have hnodup : (searchArray.reverse ++ []).Nodup := by decide
  have hcount := hpruning.count hnodup (by simp)
  exact (hpruning.represented hmem hlocal).imp_left hcount.trans'

end Pruned

end OpenPeer
