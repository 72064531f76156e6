import Mathlib.Data.List.Flatten
import Mathlib.Data.List.Nodup
import Mathlib.Data.List.Perm.Basic

/-!
# Items that wait in boxes

Items are numbered as they come. An item is sent at once, or it waits in the box of its
owner. A box is emptied by sending what is in it, or removed with what is in it. Each item
that had to wait is then found once among the items sent, those dropped and those that wait,
and the items of one owner are sent in the order in which they began to wait.
-/
namespace Mailboxes

variable {κ π : Type} [DecidableEq κ] [DecidableEq π]

/-- An item is put into the box of its owner, or a new one. -/
def put (k : κ) (x : π) : List (κ × List π) → List (κ × List π)
  | [] => [(k, [x])]
  | box :: boxes => if box.1 = k then (box.1, box.2 ++ [x]) :: boxes else box :: put k x boxes

structure Office (κ π : Type) where
  boxes : List (κ × List π) := []
  /-- The items that had to wait. -/
  queued : List π := []
  sent : List π := []
  dropped : List π := []
  /-- How many items have come. -/
  next : Nat := 0

namespace Office

variable (o : Office κ π)

def waiting : List π := o.boxes.flatMap Prod.snd

def keys : List κ := o.boxes.map Prod.fst

/-- An item comes and is sent. -/
def pass (x : π) : Office κ π := { o with sent := o.sent ++ [x], next := o.next + 1 }

/-- An item comes that is neither sent nor kept. -/
def lose : Office κ π := { o with next := o.next + 1 }

/-- An item comes and waits. -/
def wait (k : κ) (x : π) : Office κ π :=
  { o with
    boxes := put k x o.boxes
    queued := o.queued ++ [x]
    next := o.next + 1 }

/-- What is in some of the boxes is sent. -/
def deliver (opened : κ → Bool) : Office κ π :=
  { o with
    boxes := o.boxes.map fun box => if opened box.1 then (box.1, []) else box
    sent := o.sent ++ (o.boxes.filter fun box => opened box.1).flatMap Prod.snd }

/-- Some of the boxes are removed. -/
def discard (closed : κ → Bool) : Office κ π :=
  { o with
    boxes := o.boxes.filter fun box => !closed box.1
    dropped := o.dropped ++ (o.boxes.filter fun box => closed box.1).flatMap Prod.snd }

/-- Everything that was sent, was dropped or waits. -/
def all : List π := o.sent ++ (o.dropped ++ o.waiting)

/-- What was sent to an owner after it had to wait. -/
def sentAfterWaiting (owner : π → κ) (k : κ) : List π := o.sent.filter fun x => owner x = k ∧ x ∈ o.queued

end Office

variable {owner : π → κ} {number : π → Nat} {o : Office κ π}

structure Orderly (owner : π → κ) (number : π → Nat) (o : Office κ π) : Prop where
  keys : o.keys.Nodup
  owned : ∀ box ∈ o.boxes, ∀ x ∈ box.2, owner x = box.1
  once : o.all.Nodup
  found : ∀ x ∈ o.queued, x ∈ o.all
  queued : ∀ x ∈ o.waiting, x ∈ o.queued
  below : ∀ x ∈ o.all, number x < o.next
  ordered : ∀ k, (o.sentAfterWaiting owner k ++ o.waiting.filter fun x => owner x = k).Pairwise fun x y =>
    number x < number y

omit [DecidableEq κ] [DecidableEq π] in
theorem mem_waiting {x : π} : x ∈ o.waiting ↔ ∃ box ∈ o.boxes, x ∈ box.2 := List.mem_flatMap

omit [DecidableEq κ] [DecidableEq π] in
theorem mem_all {x : π} : x ∈ o.all ↔ x ∈ o.sent ∨ x ∈ o.dropped ∨ x ∈ o.waiting := by
  simp [Office.all]

theorem orderly_empty : Orderly owner number ({} : Office κ π) := by
  constructor <;> simp [Office.keys, Office.all, Office.waiting, Office.sentAfterWaiting]

section Boxes

variable {boxes : List (κ × List π)} {k : κ}

omit [DecidableEq π] in
theorem filter_flatMap_of_notMem (howned : ∀ box ∈ boxes, ∀ x ∈ box.2, owner x = box.1) (hk : k ∉ boxes.map Prod.fst) :
    (boxes.flatMap Prod.snd).filter (fun x => owner x = k) = [] := by
  simp only [List.filter_eq_nil_iff, List.mem_flatMap, decide_eq_true_eq]
  rintro x ⟨box, hbox, hx⟩ rfl
  exact hk (List.mem_map.mpr ⟨box, hbox, (howned box hbox x hx).symm⟩)

omit [DecidableEq π] in
theorem filter_flatMap_of_mem (hkeys : (boxes.map Prod.fst).Nodup)
    (howned : ∀ box ∈ boxes, ∀ x ∈ box.2, owner x = box.1) {box : κ × List π} (hbox : box ∈ boxes) :
    (boxes.flatMap Prod.snd).filter (fun x => owner x = box.1) = box.2 := by
  induction boxes with
  | nil => cases hbox
  | cons first rest ih =>
    have hrest : ∀ box ∈ rest, ∀ x ∈ box.2, owner x = box.1 := fun b hb => howned b (List.mem_cons_of_mem _ hb)
    rw [List.map_cons, List.nodup_cons] at hkeys
    rw [List.flatMap_cons, List.filter_append]
    obtain rfl | hmem := List.mem_cons.mp hbox
    · rw [filter_flatMap_of_notMem hrest hkeys.1, List.append_nil, List.filter_eq_self]
      exact fun x hx => decide_eq_true (howned _ List.mem_cons_self x hx)
    · have hnone : first.2.filter (fun x => owner x = box.1) = [] := by
        simp only [List.filter_eq_nil_iff, decide_eq_true_eq]
        intro x hx heq
        rw [howned first List.mem_cons_self x hx] at heq
        exact hkeys.1 (heq ▸ List.mem_map_of_mem hmem)
      rw [hnone, List.nil_append, ih hkeys.2 hrest hmem]

omit [DecidableEq κ] [DecidableEq π] in
theorem flatMap_perm (kind : κ → Bool) (boxes : List (κ × List π)) :
    ((boxes.filter fun box => kind box.1).flatMap Prod.snd ++
      (boxes.filter fun box => !kind box.1).flatMap Prod.snd).Perm (boxes.flatMap Prod.snd) := by
  rw [← List.flatMap_append]
  exact (List.filter_append_perm _ boxes).flatMap_right _

omit [DecidableEq κ] [DecidableEq π] in
theorem flatMap_emptied (kind : κ → Bool) (boxes : List (κ × List π)) :
    (boxes.map fun box => if kind box.1 then (box.1, []) else box).flatMap Prod.snd =
      (boxes.filter fun box => !kind box.1).flatMap Prod.snd := by
  induction boxes with
  | nil => rfl
  | cons box boxes ih =>
    rw [List.map_cons, List.flatMap_cons, ih, List.filter_cons]
    by_cases hkind : kind box.1 = true <;> simp [hkind]

omit [DecidableEq π] in
theorem put_eq_append (x : π) (hk : k ∉ boxes.map Prod.fst) : put k x boxes = boxes ++ [(k, [x])] := by
  induction boxes with
  | nil => rfl
  | cons box boxes ih =>
    rw [List.map_cons, List.mem_cons, not_or] at hk
    rw [put, if_neg (Ne.symm hk.1), ih hk.2, List.cons_append]

omit [DecidableEq π] in
theorem put_eq_map (hkeys : (boxes.map Prod.fst).Nodup) (hk : k ∈ boxes.map Prod.fst) (x : π) :
    put k x boxes = boxes.map fun box => if box.1 = k then (box.1, box.2 ++ [x]) else box := by
  induction boxes with
  | nil => cases hk
  | cons box boxes ih =>
    rw [List.map_cons, List.nodup_cons] at hkeys
    rw [List.map_cons, put]
    by_cases hbox : box.1 = k
    · have hsame : (boxes.map fun box => if box.1 = k then (box.1, box.2 ++ [x]) else box) = boxes := by
        refine (List.map_congr_left fun other hother => ?_).trans (List.map_id boxes)
        have hne : other.1 ≠ k := fun heq => hkeys.1 (hbox ▸ heq ▸ List.mem_map_of_mem hother)
        exact if_neg hne
      rw [if_pos hbox, if_pos hbox, hsame]
    · have hmem : k ∈ boxes.map Prod.fst := (List.mem_cons.mp hk).resolve_left (Ne.symm hbox)
      rw [if_neg hbox, if_neg hbox, ih hkeys.2 hmem]

omit [DecidableEq π] in
theorem mem_keys_put {k' : κ} (x : π) : k' ∈ (put k x boxes).map Prod.fst ↔ k' = k ∨ k' ∈ boxes.map Prod.fst := by
  induction boxes with
  | nil => simp [put]
  | cons box boxes ih =>
    by_cases hbox : box.1 = k
    · rw [put, if_pos hbox, List.map_cons, List.map_cons, List.mem_cons, hbox]
      exact ⟨.inr, fun h => h.elim .inl id⟩
    · simp only [put, if_neg hbox, List.map_cons, List.mem_cons, ih]
      exact or_left_comm

omit [DecidableEq π] in
theorem nodup_keys_put (hkeys : (boxes.map Prod.fst).Nodup) (x : π) : ((put k x boxes).map Prod.fst).Nodup := by
  induction boxes with
  | nil => simp [put]
  | cons box boxes ih =>
    rw [List.map_cons, List.nodup_cons] at hkeys
    by_cases hbox : box.1 = k
    · rw [put, if_pos hbox, List.map_cons, List.nodup_cons]
      exact hkeys
    · rw [put, if_neg hbox, List.map_cons, List.nodup_cons, mem_keys_put]
      exact ⟨not_or.mpr ⟨hbox, hkeys.1⟩, ih hkeys.2⟩

omit [DecidableEq π] in
theorem owned_put (howned : ∀ box ∈ boxes, ∀ x ∈ box.2, owner x = box.1) {x : π} (hx : owner x = k) :
    ∀ box ∈ put k x boxes, ∀ y ∈ box.2, owner y = box.1 := by
  induction boxes with
  | nil => simp [put, hx]
  | cons box boxes ih =>
    have hfirst := howned box List.mem_cons_self
    have hrest := fun b hb => howned b (List.mem_cons_of_mem _ hb)
    by_cases hbox : box.1 = k
    · simp only [put, if_pos hbox, List.forall_mem_cons, List.forall_mem_append]
      exact ⟨⟨hfirst, by simpa [hbox] using hx⟩, hrest⟩
    · simp only [put, if_neg hbox, List.forall_mem_cons]
      exact ⟨hfirst, ih hrest⟩

omit [DecidableEq π] in
theorem put_perm (k : κ) (x : π) (boxes : List (κ × List π)) :
    ((put k x boxes).flatMap Prod.snd).Perm (x :: boxes.flatMap Prod.snd) := by
  induction boxes with
  | nil => simp [put]
  | cons box boxes ih =>
    by_cases hbox : box.1 = k
    · simp only [put, if_pos hbox, List.flatMap_cons, List.append_assoc, List.singleton_append]
      exact List.perm_middle
    · simp only [put, if_neg hbox, List.flatMap_cons]
      exact (ih.append_left _).trans List.perm_middle

omit [DecidableEq π] in
theorem filter_put (hkeys : (boxes.map Prod.fst).Nodup) (howned : ∀ box ∈ boxes, ∀ x ∈ box.2, owner x = box.1)
    {x : π} (hx : owner x = k) (k' : κ) :
    ((put k x boxes).flatMap Prod.snd).filter (fun y => owner y = k') =
      (boxes.flatMap Prod.snd).filter (fun y => owner y = k') ++ if k = k' then [x] else [] := by
  induction boxes with
  | nil => simp [put, List.filter_cons, hx]
  | cons box boxes ih =>
    rw [List.map_cons, List.nodup_cons] at hkeys
    have hrest := fun b hb => howned b (List.mem_cons_of_mem _ hb)
    by_cases hbox : box.1 = k
    · by_cases hk : k = k'
      · subst hk
        have hnone := filter_flatMap_of_notMem hrest (hbox ▸ hkeys.1)
        simp [put, hbox, hx, hnone]
      · simp [put, hbox, hx, hk]
    · simp [put, hbox, ih hkeys.2 hrest]

end Boxes

section Keeping

variable {x : π} {k : κ}

section

variable (h : Orderly owner number o)
include h

theorem Orderly.fresh (hx : number x = o.next) : x ∉ o.all := by
  intro hmem
  have hlt := h.below x hmem
  omega

theorem Orderly.fresh_queued (hx : number x = o.next) : x ∉ o.queued :=
  fun hmem => h.fresh hx (h.found x hmem)

theorem Orderly.lose : Orderly owner number o.lose :=
  ⟨h.keys, h.owned, h.once, h.found, h.queued, fun y hy => Nat.lt_succ_of_lt (h.below y hy), h.ordered⟩

theorem Orderly.pass (hx : number x = o.next) : Orderly owner number (o.pass x) := by
  have hall : (o.pass x).all.Perm (x :: o.all) := by
    simp only [Office.all, Office.pass, List.append_assoc]
    exact List.perm_middle
  refine ⟨h.keys, h.owned, ?_, ?_, h.queued, ?_, ?_⟩
  · exact hall.nodup_iff.mpr (List.nodup_cons.mpr ⟨h.fresh hx, h.once⟩)
  · exact fun y hy => hall.mem_iff.mpr (List.mem_cons_of_mem _ (h.found y hy))
  · intro y hy
    obtain rfl | hold := List.mem_cons.mp (hall.mem_iff.mp hy)
    · exact hx ▸ Nat.lt_succ_self _
    · exact Nat.lt_succ_of_lt (h.below y hold)
  · intro k
    have hsent : (o.pass x).sentAfterWaiting owner k = o.sentAfterWaiting owner k := by
      have hnot : ¬(owner x = k ∧ x ∈ o.queued) := fun hmem => h.fresh_queued hx hmem.2
      simp only [Office.sentAfterWaiting, Office.pass, List.filter_append, List.filter_cons, hnot, decide_false,
        List.filter_nil]
      exact List.append_nil _
    rw [hsent]
    exact h.ordered k

theorem Orderly.wait (hx : number x = o.next) (hk : owner x = k) : Orderly owner number (o.wait k x) := by
  have hall : (o.wait k x).all.Perm (x :: o.all) := by
    simp only [Office.all, Office.wait, Office.waiting]
    refine ((put_perm k x o.boxes).append_left _).append_left _ |>.trans ?_
    exact (List.perm_middle.append_left _).trans List.perm_middle
  refine ⟨nodup_keys_put h.keys x, owned_put h.owned hk, ?_, ?_, ?_, ?_, ?_⟩
  · exact hall.nodup_iff.mpr (List.nodup_cons.mpr ⟨h.fresh hx, h.once⟩)
  · intro y hy
    apply hall.mem_iff.mpr
    obtain hold | hnew := List.mem_append.mp hy
    · exact List.mem_cons_of_mem _ (h.found y hold)
    · exact List.mem_singleton.mp hnew ▸ List.mem_cons_self
  · intro y hy
    obtain rfl | hold := List.mem_cons.mp ((put_perm k x o.boxes).mem_iff.mp hy)
    · exact List.mem_append_right _ (List.mem_singleton_self _)
    · exact List.mem_append_left _ (h.queued y hold)
  · intro y hy
    obtain rfl | hold := List.mem_cons.mp (hall.mem_iff.mp hy)
    · exact hx ▸ Nat.lt_succ_self _
    · exact Nat.lt_succ_of_lt (h.below y hold)
  · intro k'
    have hsent : (o.wait k x).sentAfterWaiting owner k' = o.sentAfterWaiting owner k' := by
      apply List.filter_congr
      intro y hy
      have hne : y ≠ x := by
        rintro rfl
        exact h.fresh hx (mem_all.mpr (.inl hy))
      simp [Office.wait, hne]
    have hline := h.ordered k'
    rw [hsent, Office.waiting, Office.wait, filter_put h.keys h.owned hk, ← List.append_assoc]
    by_cases hsame : k = k'
    · rw [if_pos hsame, List.pairwise_append]
      refine ⟨hline, List.pairwise_singleton _ _, fun y hy z hz => ?_⟩
      rw [List.mem_singleton.mp hz, hx]
      apply h.below
      obtain hsent | hwaits := List.mem_append.mp hy
      · exact mem_all.mpr (.inl (List.mem_of_mem_filter hsent))
      · exact mem_all.mpr (.inr (.inr (List.mem_of_mem_filter hwaits)))
    · rw [if_neg hsame, List.append_nil]
      exact hline

theorem Orderly.discard (closed : κ → Bool) : Orderly owner number (o.discard closed) := by
  have hall : (o.discard closed).all.Perm o.all := by
    simp only [Office.all, Office.discard, Office.waiting, List.append_assoc]
    exact ((flatMap_perm closed o.boxes).append_left _).append_left _
  have hwaits : ∀ y ∈ (o.discard closed).waiting, y ∈ o.waiting := by
    intro y hy
    obtain ⟨box, hbox, hin⟩ := mem_waiting.mp hy
    exact mem_waiting.mpr ⟨box, List.mem_of_mem_filter hbox, hin⟩
  refine ⟨h.keys.sublist (List.filter_sublist.map _), fun box hbox => h.owned box (List.mem_of_mem_filter hbox),
    hall.nodup_iff.mpr h.once, fun y hy => hall.mem_iff.mpr (h.found y hy), fun y hy => h.queued y (hwaits y hy),
    fun y hy => h.below y (hall.mem_iff.mp hy), fun k => ?_⟩
  have hsub : ((o.discard closed).waiting.filter fun x => owner x = k).Sublist
      (o.waiting.filter fun x => owner x = k) := by
    apply List.Sublist.filter
    exact List.filter_sublist.flatMap Prod.snd
  exact (h.ordered k).sublist (hsub.append_left _)

/-- What waits for an owner is in one box, so it is either all delivered or all left. -/
theorem filter_delivered (opened : κ → Bool) (k : κ) :
    ((o.boxes.filter fun box => opened box.1).flatMap Prod.snd).filter (fun x => owner x = k) ++
        ((o.boxes.filter fun box => !opened box.1).flatMap Prod.snd).filter (fun x => owner x = k) =
      o.waiting.filter fun x => owner x = k := by
  have hnone : ∀ kind : κ → Bool, kind k = false →
      ((o.boxes.filter fun box => kind box.1).flatMap Prod.snd).filter (fun x => owner x = k) = [] := by
    intro kind hkind
    apply filter_flatMap_of_notMem (fun box hbox => h.owned box (List.mem_of_mem_filter hbox))
    simp only [List.mem_map, List.mem_filter, not_exists, not_and]
    rintro box ⟨-, hbox⟩ rfl
    rw [hkind] at hbox
    cases hbox
  have hwhole : ∀ kind : κ → Bool, kind k = true →
      ((o.boxes.filter fun box => kind box.1).flatMap Prod.snd).filter (fun x => owner x = k) =
        o.waiting.filter fun x => owner x = k := by
    intro kind hkind
    by_cases hk : k ∈ o.keys
    · obtain ⟨box, hbox, rfl⟩ := List.mem_map.mp hk
      rw [Office.waiting, filter_flatMap_of_mem h.keys h.owned hbox]
      exact filter_flatMap_of_mem (h.keys.sublist (List.filter_sublist.map _))
        (fun box hbox => h.owned box (List.mem_of_mem_filter hbox)) (List.mem_filter.mpr ⟨hbox, hkind⟩)
    · rw [Office.waiting, filter_flatMap_of_notMem h.owned hk]
      apply filter_flatMap_of_notMem (fun box hbox => h.owned box (List.mem_of_mem_filter hbox))
      exact fun hmem => hk ((List.filter_sublist.map Prod.fst).subset hmem)
  cases hopened : opened k with
  | true => rw [hwhole opened hopened, hnone (fun k => !opened k) (by simp [hopened]), List.append_nil]
  | false => rw [hnone opened hopened, hwhole (fun k => !opened k) (by simp [hopened]), List.nil_append]

theorem Orderly.deliver (opened : κ → Bool) : Orderly owner number (o.deliver opened) := by
  have hwaiting : (o.deliver opened).waiting = (o.boxes.filter fun box => !opened box.1).flatMap Prod.snd :=
    flatMap_emptied opened o.boxes
  have hall : (o.deliver opened).all.Perm o.all := by
    rw [Office.all, Office.all, hwaiting]
    simp only [Office.deliver, List.append_assoc]
    refine List.Perm.append_left _ ?_
    refine (List.perm_append_comm_assoc _ _ _).trans ?_
    exact (flatMap_perm opened o.boxes).append_left _
  have hkeys : (o.deliver opened).keys = o.keys := by
    simp only [Office.keys, Office.deliver, List.map_map]
    apply List.map_congr_left
    intro box _
    by_cases hopened : opened box.1 = true <;> simp [hopened]
  have howned : ∀ box ∈ (o.deliver opened).boxes, ∀ x ∈ box.2, owner x = box.1 := by
    intro box hbox
    obtain ⟨old, hold, rfl⟩ := List.mem_map.mp hbox
    by_cases hopened : opened old.1 = true
    · simp [hopened]
    · simpa [hopened] using h.owned old hold
  have hwaits : ∀ y ∈ (o.deliver opened).waiting, y ∈ o.waiting := by
    rw [hwaiting]
    intro y hy
    obtain ⟨box, hbox, hin⟩ := List.mem_flatMap.mp hy
    exact mem_waiting.mpr ⟨box, List.mem_of_mem_filter hbox, hin⟩
  refine ⟨hkeys ▸ h.keys, howned, hall.nodup_iff.mpr h.once, fun y hy => hall.mem_iff.mpr (h.found y hy),
    fun y hy => h.queued y (hwaits y hy), fun y hy => h.below y (hall.mem_iff.mp hy), fun k => ?_⟩
  have hsent : (o.deliver opened).sentAfterWaiting owner k = o.sentAfterWaiting owner k ++
      ((o.boxes.filter fun box => opened box.1).flatMap Prod.snd).filter (fun x => owner x = k) := by
    simp only [Office.sentAfterWaiting, Office.deliver, List.filter_append]
    congr 1
    apply List.filter_congr
    intro y hy
    obtain ⟨box, hbox, hin⟩ := List.mem_flatMap.mp hy
    have hqueued := h.queued y (mem_waiting.mpr ⟨box, List.mem_of_mem_filter hbox, hin⟩)
    simp [hqueued]
  rw [hsent, hwaiting, List.append_assoc, filter_delivered h opened k]
  exact h.ordered k

end

end Keeping

end Mailboxes
