import OpenPeer.DNSResults

/-!
# The order of SRV records

Records of one priority are put in an order that is drawn, and whatever is drawn a record with
weight is put before one without. What is drawn can let any record with weight be the first of
its priority. The sort may merge the records in any plan.
-/
namespace OpenPeer.DNS

open DrawnSort

/-- The records of a priority. -/
def ofPriority (priority : Nat) (records : List SRVRecord) : List SRVRecord :=
  records.filter fun record => record.mPriority = priority

/-- The draws are weights of records or zero, so each fits into a `DWORD`. -/
def FewDraws (records : List SRVRecord) (draws : Nat → Nat) : Prop :=
  ∀ n, draws n = 0 ∨ ∃ record ∈ records, draws n = record.mWeight

/-- What is promised of the order of SRV records. -/
structure Orders (records : List SRVRecord) (sort : (Nat → Nat) → List SRVRecord) : Prop where
  perm : ∀ draws, (sort draws).Perm records
  priorities : ∀ draws, (sort draws).Pairwise fun first second => first.mPriority ≤ second.mPriority
  groups : ∀ draws priority, (ofPriority priority (sort draws)).Perm (ofPriority priority records)
  /-- A record without weight is the first of its priority only when none of them has weight. -/
  weightless : ∀ draws priority first, (ofPriority priority (sort draws)).head? = some first → first.mWeight = 0 →
    ∀ record ∈ ofPriority priority records, record.mWeight = 0
  /-- Any record with weight is the first of its priority for some draws. -/
  weighty : ∀ first ∈ records, 0 < first.mWeight →
    ∃ draws, FewDraws records draws ∧ (ofPriority first.mPriority (sort draws)).head? = some first

/-- Records are in the order of their priorities, and in a given order within a priority. -/
def Within (r : SRVRecord → SRVRecord → Prop) (first second : SRVRecord) : Prop :=
  first.mPriority < second.mPriority ∨ (first.mPriority = second.mPriority ∧ r first second)

theorem Within.le {r : SRVRecord → SRVRecord → Prop} {first second : SRVRecord} (h : Within r first second) :
    first.mPriority ≤ second.mPriority := by
  obtain hlt | ⟨hsame, -⟩ := h
  · exact Nat.le_of_lt hlt
  · exact Nat.le_of_eq hsame

section Comparing

variable {compare : SRVRecord → SRVRecord → Nat → Bool} {r : SRVRecord → SRVRecord → Prop}

/-- A comparison by priority respects an order within the priorities when it does where they are the same. -/
theorem respects_within (hlt : ∀ a b draw, a.mPriority < b.mPriority → compare a b draw = true)
    (hgt : ∀ a b draw, b.mPriority < a.mPriority → compare a b draw = false)
    (htrans : ∀ a b c, r a b → r b c → r a c)
    (hbefore : ∀ a b draw, a.mPriority = b.mPriority → compare a b draw = true → r a b)
    (hnot : ∀ a b draw, a.mPriority = b.mPriority → compare a b draw = false → r b a) :
    Respects compare (Within r) where
  trans := by
    intro a b c hab hbc
    obtain hlt | ⟨hsame, hr⟩ := hab
    · exact .inl (Nat.lt_of_lt_of_le hlt hbc.le)
    · obtain hlt' | ⟨hsame', hr'⟩ := hbc
      · exact .inl (hsame ▸ hlt')
      · exact .inr ⟨hsame.trans hsame', htrans a b c hr hr'⟩
  before := by
    intro a b draw htrue
    obtain h | h | h := Nat.lt_trichotomy a.mPriority b.mPriority
    · exact .inl h
    · exact .inr ⟨h, hbefore a b draw h htrue⟩
    · rw [hgt a b draw h] at htrue
      cases htrue
  not_before := by
    intro a b draw hfalse
    obtain h | h | h := Nat.lt_trichotomy a.mPriority b.mPriority
    · rw [hlt a b draw h] at hfalse
      cases hfalse
    · exact .inr ⟨h.symm, hnot a b draw h hfalse⟩
    · exact .inl h

variable {a b : SRVRecord} (draw : Nat)

theorem srvCompare_lt (h : a.mPriority < b.mPriority) : srvCompare a b draw = true := by
  simp [srvCompare, h]

theorem srvCompare_gt (h : b.mPriority < a.mPriority) : srvCompare a b draw = false := by
  simp [srvCompare, h, Nat.le_of_lt h]

theorem srvCompare_same (h : a.mPriority = b.mPriority) :
    srvCompare a b draw = true ↔ if a.mWeight + b.mWeight = 0 then draw % 2 = 0
      else draw % (a.mWeight + b.mWeight) < a.mWeight := by
  simp only [srvCompare, h, Nat.lt_irrefl, if_false]
  split <;> simp

theorem srvCompare_not {draw : Nat} (h : a.mPriority = b.mPriority) (hfalse : srvCompare a b draw = false) :
    ¬if a.mWeight + b.mWeight = 0 then draw % 2 = 0 else draw % (a.mWeight + b.mWeight) < a.mWeight := by
  rw [← srvCompare_same draw h, hfalse]
  exact Bool.false_ne_true

/-- Whatever is drawn a record with weight is before one without. -/
theorem srvCompare_respects :
    Respects srvCompare (Within fun first second => first.mWeight = 0 → second.mWeight = 0) := by
  apply respects_within
  · exact fun _ _ draw h => srvCompare_lt draw h
  · exact fun _ _ draw h => srvCompare_gt draw h
  · exact fun _ _ _ hab hbc ha => hbc (hab ha)
  · intro a b draw hsame htrue ha
    have hdrawn := (srvCompare_same draw hsame).mp htrue
    by_contra hb
    rw [ha, if_neg (by omega)] at hdrawn
    exact Nat.not_lt_zero _ hdrawn
  · intro a b draw hsame hfalse hb
    have hdrawn := srvCompare_not hsame hfalse
    by_contra ha
    rw [hb, if_neg (by omega), Nat.add_zero] at hdrawn
    exact hdrawn (Nat.mod_lt draw (Nat.pos_of_ne_zero ha))

/-- The draw that lets a record be before all others of its priority. -/
def favouring (favoured a _ : SRVRecord) : Nat := if a = favoured then 0 else a.mWeight

theorem favouring_respects {favoured : SRVRecord} (hweight : 0 < favoured.mWeight) :
    Respects (chosen srvCompare (favouring favoured))
      (Within fun first second => second = favoured → first = favoured) := by
  apply respects_within
  · exact fun _ _ _ h => srvCompare_lt _ h
  · exact fun _ _ _ h => srvCompare_gt _ h
  · exact fun _ _ _ hab hbc hc => hab (hbc hc)
  · intro a b draw hsame htrue hb
    by_contra ha
    have hpos : 0 < b.mWeight := hb ▸ hweight
    have hdrawn := (srvCompare_same _ hsame).mp htrue
    rw [favouring, if_neg ha, if_neg (by omega), Nat.mod_eq_of_lt (by omega)] at hdrawn
    exact Nat.lt_irrefl _ hdrawn
  · intro a b draw hsame hfalse ha
    have hpos : 0 < a.mWeight := ha ▸ hweight
    have hdrawn := srvCompare_not hsame hfalse
    rw [favouring, if_pos ha, if_neg (by omega), Nat.zero_mod] at hdrawn
    exact absurd hpos hdrawn

end Comparing

section Groups

variable {r : SRVRecord → SRVRecord → Prop} {sorted records : List SRVRecord}

theorem mem_ofPriority (priority : Nat) (record : SRVRecord) :
    record ∈ ofPriority priority records ↔ record ∈ records ∧ record.mPriority = priority := by
  simp [ofPriority]

/-- The first record of a priority is in the given order before all others of the priority. -/
theorem first_of_priority (h : sorted.Pairwise (Within r)) {priority : Nat} {first : SRVRecord}
    (hfirst : (ofPriority priority sorted).head? = some first) (record : SRVRecord)
    (hrecord : record ∈ ofPriority priority sorted) : record = first ∨ r first record := by
  have hpriority := ((mem_ofPriority priority first).mp (List.mem_of_mem_head? hfirst)).2
  have hsame := ((mem_ofPriority priority record).mp hrecord).2
  have hgroup : (ofPriority priority sorted).Pairwise (Within r) := h.filter _
  obtain ⟨rest, hrest⟩ := List.head?_eq_some_iff.mp hfirst
  rw [hrest] at hgroup hrecord
  obtain heq | hmem := List.mem_cons.mp hrecord
  · exact .inl heq
  · right
    obtain hlt | ⟨-, hr⟩ := (List.pairwise_cons.mp hgroup).1 record hmem
    · omega
    · exact hr

end Groups

/-- Whatever the plan by which the records are merged. -/
theorem plan_orders (plan : Plan SRVRecord) :
    Orders plan.items fun draws => (plan.sort srvCompare draws).1 where
  perm draws := Plan.sort_perm srvCompare plan draws
  priorities draws := (srvCompare_respects.sort plan draws).imp Within.le
  groups draws priority := (Plan.sort_perm srvCompare plan draws).filter _
  weightless := by
    intro draws priority first hfirst hweight record hrecord
    have hgroup := (Plan.sort_perm srvCompare plan draws).filter fun record => record.mPriority = priority
    have hsorted := srvCompare_respects.sort plan draws
    obtain heq | hr := first_of_priority hsorted hfirst record (hgroup.mem_iff.mpr hrecord)
    · rw [heq, hweight]
    · exact hr hweight
  weighty := by
    intro favoured hmem hweight
    let few (draw : Nat) : Prop := draw = 0 ∨ ∃ record ∈ plan.items, draw = record.mWeight
    have hchoose : ∀ a ∈ plan.items, ∀ b ∈ plan.items, few (favouring favoured a b) := by
      intro a ha b _
      by_cases hsame : a = favoured
      · exact .inl (if_pos hsame)
      · exact .inr ⟨a, ha, if_neg hsame⟩
    have hrest : ∀ n : Nat, few ((fun _ => 0) n) := fun _ => .inl rfl
    obtain ⟨draws, hdraws, hsort⟩ :=
      Plan.sort_chosen srvCompare (favouring favoured) plan (fun _ => 0) (fun _ => 0) hchoose hrest
    refine ⟨draws, hdraws, ?_⟩
    rw [hsort]
    have hperm := Plan.sort_perm (chosen srvCompare (favouring favoured)) plan fun _ => 0
    have hgroup : favoured ∈ ofPriority favoured.mPriority
        (plan.sort (chosen srvCompare (favouring favoured)) fun _ => 0).1 := by
      rw [mem_ofPriority]
      exact ⟨hperm.mem_iff.mpr hmem, rfl⟩
    obtain ⟨first, hfirst⟩ := Option.isSome_iff_exists.mp (List.isSome_head?.mpr (List.ne_nil_of_mem hgroup))
    obtain heq | hr := first_of_priority ((favouring_respects hweight).sort plan fun _ => 0) hfirst favoured hgroup
    · rw [hfirst, heq]
    · rw [hfirst, hr rfl]

/-- The records of a result are sorted by priority, and within a priority by chance and weight. -/
theorem sortSRV_orders :
    (∀ plan : Plan SRVRecord, Orders plan.items fun draws => (plan.sort srvCompare draws).1) ∧
      ∀ result, Orders result.mRecords fun draws => (sortSRV draws result).mRecords := by
  refine ⟨plan_orders, ?_⟩
  intro result
  obtain ⟨hitems, hsort⟩ := sort_eq_plan srvCompare result.mRecords
  have horders := plan_orders (halving result.mRecords.length result.mRecords)
  rw [hitems] at horders
  have hsame : (fun draws => (sortSRV draws result).mRecords) = fun draws =>
      ((halving result.mRecords.length result.mRecords).sort srvCompare draws).1 := by
    funext draws
    exact hsort draws
  rw [hsame]
  exact horders

end OpenPeer.DNS
