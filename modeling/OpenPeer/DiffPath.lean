import OpenPeer.Diff

/-!
# What a path leads to

A path is read part by part; a part names an element alone, by its number or by its id.
The lemmas say how each form is written, read and looked up among the siblings.
-/
namespace OpenPeer.Diff

open Xml

section Reading

/-- The path made of some parts. -/
def joined (subPaths : List String) : String := subPaths.foldr (fun subPath result => "/" ++ subPath ++ result) ""

variable {subPaths : List String}

theorem splitOn_joined (h : ∀ s ∈ subPaths, '/' ∉ s.toList) :
    (joined subPaths).toList.splitOn '/' = [] :: subPaths.map String.toList := by
  induction subPaths with
  | nil => rfl
  | cons s subPaths ih =>
    have hs : '/' ∉ s.toList := h s List.mem_cons_self
    have hrest := ih fun s' hs' => h s' (List.mem_cons_of_mem _ hs')
    have hsplit : (s.toList ++ (joined subPaths).toList).splitOn '/' = (s :: subPaths).map String.toList := by
      cases subPaths with
      | nil => simpa [joined] using List.splitOn_eq_singleton hs
      | cons s' subPaths =>
        have hjoined : (joined (s' :: subPaths)).toList = '/' :: (s'.toList ++ (joined subPaths).toList) := by
          simp [joined]
        rw [hjoined] at hrest ⊢
        rw [List.splitOn_append_cons_self_of_not_mem hs]
        have hslash : ('/' :: (s'.toList ++ (joined subPaths).toList)).splitOn '/' =
            [] :: (s'.toList ++ (joined subPaths).toList).splitOn '/' :=
          List.splitOn_append_cons_self_of_not_mem List.not_mem_nil _
        rw [hslash] at hrest
        rw [List.cons.inj hrest |>.2]
        rfl
    have hjoined : (joined (s :: subPaths)).toList = [] ++ '/' :: (s.toList ++ (joined subPaths).toList) := by
      simp [joined]
    rw [hjoined, List.splitOn_append_cons_self_of_not_mem (by simp), hsplit]

theorem parsePathList_joined {pathList : List PathComponent} (hslash : ∀ s ∈ subPaths, '/' ∉ s.toList)
    (hne : ∀ c ∈ pathList, c.name ≠ "")
    (hread : List.Forall₂ (fun s c => s ≠ "" ∧ parseComponent s.toList = some c) subPaths pathList) :
    parsePathList (joined subPaths) = some pathList := by
  have hparts : parseComponents (subPaths.map String.toList) = some pathList := by
    clear hslash
    induction hread with
    | nil => rfl
    | @cons s c subPaths pathList hs _ ih =>
      have hnil : s.toList ≠ [] := fun h => hs.1 (String.toList_eq_nil_iff.mp h)
      obtain ⟨x, xs, hx⟩ := List.exists_cons_of_ne_nil hnil
      rw [List.map_cons, hx, parseComponents]
      · rw [← hx, hs.2, Option.bind_some, if_neg (hne c List.mem_cons_self),
          ih fun c' hc' => hne c' (List.mem_cons_of_mem _ hc')]
        rfl
      · simp
  rw [parsePathList, splitOn_joined hslash, parseComponents, hparts]

theorem parseComponent_name {name : String} (h : '[' ∉ name.toList) : parseComponent name.toList = some ⟨name, "", 0⟩ := by
  rw [parseComponent, if_pos (List.idxOf_eq_length h), String.ofList_toList]

variable {name : String}

/-- A part in brackets is the name and what the brackets hold. -/
theorem parseComponent_brackets {indexStr : List Char}
    (hopen : '[' ∉ name.toList) (hname : ']' ∉ name.toList) (hclose : ']' ∉ indexStr) :
    parseComponent (name.toList ++ '[' :: indexStr ++ [']']) = parseIndex name.toList indexStr := by
  have hopenPos : (name.toList ++ '[' :: indexStr ++ [']']).idxOf '[' = name.toList.length := by
    rw [List.append_assoc, List.idxOf_append_of_notMem hopen]
    simp
  have hclosePos : (name.toList ++ '[' :: indexStr ++ [']']).idxOf ']' = name.toList.length + 1 + indexStr.length := by
    have hmem : ']' ∉ name.toList ++ '[' :: indexStr := by simp [hname, hclose]
    rw [List.idxOf_append_of_notMem hmem]
    simp only [List.idxOf_cons_self, List.length_append, List.length_cons]
    omega
  have hlength : (name.toList ++ '[' :: indexStr ++ [']']).length = name.toList.length + indexStr.length + 2 := by
    simp only [List.length_append, List.length_cons, List.length_nil]
    omega
  have htake : (name.toList ++ '[' :: indexStr ++ [']']).take name.toList.length = name.toList := by
    rw [List.append_assoc, List.take_left]
  have hdrop : ((name.toList ++ '[' :: indexStr ++ [']']).take (name.toList.length + 1 + indexStr.length)).drop
      (name.toList.length + 1) = indexStr := by
    have hsplit : name.toList ++ '[' :: indexStr ++ [']'] = (name.toList ++ ['[']) ++ (indexStr ++ [']']) := by simp
    rw [hsplit, List.take_append, List.drop_append]
    simp
  rw [parseComponent, hopenPos, hclosePos, hlength, if_neg (by omega), if_neg (by omega), if_neg (by omega), htake, hdrop]

theorem parseComponent_index {index : Nat} (hopen : '[' ∉ name.toList) (hname : ']' ∉ name.toList)
    (h : index < indexBound) :
    parseComponent (name ++ "[" ++ toString index ++ "]").toList = some ⟨name, "", index⟩ := by
  have hdigit : ∀ c ∈ Nat.toDigits 10 index, c.isDigit = true :=
    fun c hc => Nat.isDigit_of_mem_toDigits (by omega) (by omega) hc
  have hclose : ']' ∉ Nat.toDigits 10 index := fun hc => absurd (hdigit _ hc) (by decide)
  have hquote : (Nat.toDigits 10 index).head? ≠ some '"' :=
    fun hc => absurd (hdigit _ (List.mem_of_mem_head? hc)) (by decide)
  have htext : (name ++ "[" ++ toString index ++ "]").toList = name.toList ++ '[' :: Nat.toDigits 10 index ++ [']'] := by
    simp [String.toList_append]
  rw [htext, parseComponent_brackets hopen hname hclose, parseIndex]
  simp only [if_neg Nat.toDigits_ne_nil]
  rw [if_neg fun hc => hquote hc.1, Numeric.signed_toDigits h, String.ofList_toList]
  rfl

theorem parseComponent_id {id : String} (hopen : '[' ∉ name.toList) (hname : ']' ∉ name.toList) (hclose : ']' ∉ id.toList) : parseComponent (name ++ "[\"" ++ id ++ "\"]").toList = some ⟨name, id, 0⟩ := by
  have htext : (name ++ "[\"" ++ id ++ "\"]").toList = name.toList ++ '[' :: ('"' :: id.toList ++ ['"']) ++ [']'] := by
    simp [String.toList_append]
  have hlast : ('"' :: id.toList ++ ['"']).getLast? = some '"' := by rw [List.getLast?_append]; rfl
  rw [htext, parseComponent_brackets hopen hname (by simp [hclose]), parseIndex]
  simp only [List.cons_append, reduceCtorEq, if_false] at hlast ⊢
  simp [hlast]

end Reading

section Looking

variable {name : String}

theorem findComponent_index {siblings : List Element} {j : Nat} (h : j < siblings.length) :
    findComponent siblings ⟨name, "", j⟩ = .ok (some j) := by
  have hsteps : ((j : Int) = -1) = False := by simp
  simp only [findComponent, if_true, findByIndex, hsteps, if_false, Int.natAbs_natCast, h, Int.natCast_nonneg]

variable {id : String} {before after : List Element} {e : Element}

theorem findByID_append (hbefore : ∀ b ∈ before, ∃ v, b.findAttribute "id" = some v ∧ v ≠ id)
    (he : e.findAttribute "id" = some id) (j : Nat) :
    findByID id (before ++ e :: after) j = .ok (some (j + before.length)) := by
  induction before generalizing j with
  | nil => rw [List.nil_append, findByID, he]; exact if_pos rfl
  | cons b before ih =>
    obtain ⟨v, hv, hother⟩ := hbefore b List.mem_cons_self
    rw [List.cons_append, findByID, hv]
    simp only [if_neg hother]
    rw [ih fun b' hb' => hbefore b' (List.mem_cons_of_mem _ hb')]
    simp only [List.length_cons]
    congr 2
    omega

theorem findComponent_id (hid : id ≠ "")
    (hbefore : ∀ b ∈ before, ∃ v, b.findAttribute "id" = some v ∧ v ≠ id)
    (he : e.findAttribute "id" = some id) :
    findComponent (before ++ e :: after) ⟨name, id, 0⟩ = .ok (some before.length) := by
  rw [findComponent, if_neg hid]
  simp only [Int.le_refl, if_true, List.drop_zero]
  rw [findByID_append hbefore he, Nat.zero_add]

end Looking

section Writing

theorem scanPrevious_other {id : String} {previous : List Element}
    (h : ∀ s ∈ previous, s.getAttributeValue "id" ≠ id) (index : Nat) :
    scanPrevious id previous index false = .ok (index + previous.length, false) := by
  induction previous generalizing index with
  | nil => rfl
  | cons s previous ih =>
    have hother : decide (s.getAttributeValue "id" = id) = false := decide_eq_false (h s List.mem_cons_self)
    rw [scanPrevious, hother]
    simp only [Bool.false_eq_true, if_false]
    rw [ih fun s' hs' => h s' (List.mem_cons_of_mem _ hs')]
    simp only [List.length_cons]
    congr 2
    omega

theorem subPathStr_alone (path : Element) : subPathStr [] [] path = .ok path.name := by
  simp [subPathStr, scanPrevious]

theorem subPathStr_distinct {previous next : List Element} {path : Element}
    (hprevious : ∀ s ∈ previous, s.getAttributeValue "id" ≠ path.getAttributeValue "id")
    (hnext : ∀ s ∈ next, s.getAttributeValue "id" ≠ path.getAttributeValue "id") (hne : previous ≠ [] ∨ next ≠ []) :
    subPathStr previous next path =
      .ok (if '"' ∉ (path.getAttributeValue "id").toList ∧ '\'' ∉ (path.getAttributeValue "id").toList then
        path.name ++ "[\"" ++ path.getAttributeValue "id" ++ "\"]"
      else path.name ++ "[" ++ toString previous.length ++ "]") := by
  have hnone : (next.any fun s => s.getAttributeValue "id" = path.getAttributeValue "id") = false := by
    rw [List.any_eq_false]
    exact fun s hs => by simpa using hnext s hs
  have hsome : ¬(previous.isEmpty = true ∧ next.isEmpty = true) := by
    rintro ⟨hp, hn⟩
    rcases hne with h | h
    · exact h (List.isEmpty_iff.mp hp)
    · exact h (List.isEmpty_iff.mp hn)
  simp only [subPathStr, scanPrevious_other hprevious, hnone, if_neg hsome, Bool.or_false, Bool.false_eq_true, if_false,
    Nat.zero_add]

end Writing

end OpenPeer.Diff
