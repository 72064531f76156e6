import OpenPeer.DiffScan

/-!
# When a path leads back to its element

The path of an element is read part by part and looked up level by level. It leads back
exactly when each level does: the name holds nothing that ends a part, a number is not
too great, an id holds nothing that ends a part, and no sibling that is passed on the way
to an id is without one.
-/
namespace OpenPeer.Diff

open Xml

section Reading

theorem parseComponents_skip (parts rest : List (List Char)) :
    parseComponents (parts ++ [] :: rest) = parseComponents (parts ++ rest) := by
  induction parts with
  | nil => rfl
  | cons part parts ih =>
    cases part with
    | nil => exact ih
    | cons c cs =>
      simp only [List.cons_append, parseComponents]
      rw [ih]

/-- The rest of a path is empty or begins with a slash. -/
def Rooted (result : String) : Prop := result = "" ∨ ∃ rest, result.toList = '/' :: rest

theorem parsePathList_level {subPath result : String} (h : Rooted result) :
    parsePathList ("/" ++ subPath ++ result) =
      parseComponents (subPath.toList.splitOn '/' ++ result.toList.splitOn '/') := by
  have htext : ("/" ++ subPath ++ result).toList = [] ++ '/' :: (subPath.toList ++ result.toList) := by
    simp [String.toList_append]
  rw [parsePathList, htext, List.splitOn_append_cons_self_of_not_mem List.not_mem_nil, parseComponents]
  cases h with
  | inl hnil =>
    rw [hnil]
    simp only [String.toList_empty, List.append_nil, List.splitOn_nil]
    rw [parseComponents_skip, List.append_nil]
  | inr hslash =>
    obtain ⟨rest, hrest⟩ := hslash
    have hrest' : ('/' :: rest).splitOn '/' = [] :: rest.splitOn '/' :=
      List.splitOn_append_cons_self_of_not_mem List.not_mem_nil rest
    rw [hrest, List.splitOn_append_cons_self, hrest', parseComponents_skip]

theorem parseIndex_name {name indexStr : List Char} {component : PathComponent}
    (h : parseIndex name indexStr = some component) : component.name = String.ofList name := by
  unfold parseIndex at h
  dsimp only at h
  generalize (if indexStr = [] then ['-', '1'] else indexStr) = shown at h
  split at h
  · simp only [Option.some.injEq] at h
    exact h ▸ rfl
  · obtain ⟨index, -, rfl⟩ := Option.map_eq_some_iff.mp h
    rfl

theorem take_idxOf (a : Char) (cs : List Char) : cs.take (cs.idxOf a) = cs.takeWhile (· != a) := by
  induction cs with
  | nil => rfl
  | cons c cs ih =>
    by_cases hc : c = a
    · simp [hc]
    · simp [hc, ih]

theorem parseComponent_name_eq {subPath : List Char} {component : PathComponent}
    (h : parseComponent subPath = some component) : component.name.toList = subPath.takeWhile (· != '[') := by
  unfold parseComponent at h
  dsimp only at h
  split at h
  next hnone =>
    simp only [Option.some.injEq] at h
    rw [← h, String.toList_ofList, ← take_idxOf, hnone, List.take_length]
  split at h
  · cases h
  split at h
  · cases h
  rw [parseIndex_name h, String.toList_ofList, take_idxOf]

theorem not_mem_splitOn {a : Char} {cs part : List Char} (h : part ∈ cs.splitOn a) : a ∉ part := by
  induction cs generalizing part with
  | nil =>
    rw [List.splitOn_nil, List.mem_singleton] at h
    simp [h]
  | cons c cs ih =>
    rw [List.splitOn_cons_eq_if_modifyHead] at h
    split at h
    · cases h with
      | head => exact List.not_mem_nil
      | tail _ h => exact ih h
    next hc =>
      obtain ⟨first, rest, hsplit⟩ := List.exists_cons_of_ne_nil (List.splitOn_ne_nil a cs)
      rw [hsplit] at h ih
      cases h with
      | head =>
        have hfirst := ih List.mem_cons_self
        have hne : a ≠ c := fun heq => hc (by simp [heq])
        simp [hne, hfirst]
      | tail _ h => exact ih (List.mem_cons_of_mem _ h)

/-- A name that was read is not empty, and holds neither a slash nor a bracket. -/
theorem parseComponents_name {parts : List (List Char)} {pathList : List PathComponent}
    (h : parseComponents parts = some pathList) (hparts : ∀ part ∈ parts, '/' ∉ part) :
    ∀ component ∈ pathList, component.name ≠ "" ∧ '/' ∉ component.name.toList ∧ '[' ∉ component.name.toList := by
  induction parts generalizing pathList with
  | nil =>
    simp only [parseComponents, Option.some.injEq] at h
    simp [← h]
  | cons part parts ih =>
    have hrest := fun part hpart => hparts part (List.mem_cons_of_mem _ hpart)
    cases part with
    | nil => exact ih h hrest
    | cons c cs =>
      simp only [parseComponents, Option.bind_eq_some_iff] at h
      obtain ⟨component, hcomponent, h⟩ := h
      split at h
      · simp only [Option.some.injEq] at h
        simp [← h]
      next hname =>
        obtain ⟨components, hcomponents, rfl⟩ := Option.map_eq_some_iff.mp h
        intro component' hmem
        cases hmem with
        | head =>
          rw [parseComponent_name_eq hcomponent]
          refine ⟨hname, fun hslash => ?_, fun hopen => ?_⟩
          · exact hparts _ List.mem_cons_self ((List.takeWhile_sublist _).subset hslash)
          · simpa using List.all_eq_true.mp List.all_takeWhile _ hopen
        | tail _ hmem => exact ih hcomponents hrest component' hmem

/-- A quote that is opened in the brackets and not closed there cannot be read. -/
theorem parseComponent_unclosed {name : String} {rest : List Char} (hopen : '[' ∉ name.toList)
    (hrest : '"' ∉ rest.takeWhile (· != ']')) : parseComponent (name.toList ++ '[' :: '"' :: rest) = none := by
  have hopenPos : (name.toList ++ '[' :: '"' :: rest).idxOf '[' = name.toList.length := by
    rw [List.idxOf_append_of_notMem hopen]
    simp
  rw [parseComponent, hopenPos]
  rw [if_neg (by simp only [List.length_append, List.length_cons]; omega)]
  by_cases hname : ']' ∈ name.toList
  · have hclosePos : (name.toList ++ '[' :: '"' :: rest).idxOf ']' < name.toList.length := by
      rw [List.idxOf_append_of_mem hname]
      exact List.idxOf_lt_length_of_mem hname
    rw [if_neg (by simp only [List.length_append, List.length_cons]; omega), if_pos hclosePos]
  have hclosePos : (name.toList ++ '[' :: '"' :: rest).idxOf ']' = name.toList.length + 2 + rest.idxOf ']' := by
    rw [List.idxOf_append_of_notMem hname]
    simp only [List.idxOf_cons, Nat.add_assoc]
    simp
    omega
  rw [hclosePos]
  split
  · rfl
  split
  · rfl
  have hshown : ((name.toList ++ '[' :: '"' :: rest).take (name.toList.length + 2 + rest.idxOf ']')).drop
      (name.toList.length + 1) = '"' :: rest.takeWhile (· != ']') := by
    have hsplit : name.toList ++ '[' :: '"' :: rest = (name.toList ++ ['[']) ++ '"' :: rest := by simp
    have hlength : (name.toList ++ ['[']).length = name.toList.length + 1 := by simp
    rw [hsplit, List.take_append, List.take_of_length_le (by omega), ← hlength, List.drop_left, hlength,
      show name.toList.length + 2 + rest.idxOf ']' - (name.toList.length + 1) = rest.idxOf ']' + 1 by omega,
      List.take_succ_cons, take_idxOf]
  rw [hshown, parseIndex]
  have hquote : ¬(('"' :: rest.takeWhile (· != ']')).head? = some '"' ∧
      ('"' :: rest.takeWhile (· != ']')).getLast? = some '"' ∧ 1 < ('"' :: rest.takeWhile (· != ']')).length) := by
    rintro ⟨-, hlast, hlong⟩
    cases hshort : rest.takeWhile (· != ']') with
    | nil => simp [hshort] at hlong
    | cons c cs =>
      rw [hshort, List.getLast?_cons_cons] at hlast
      exact hrest (hshort ▸ List.mem_of_getLast? hlast)
  have hdigits : Numeric.signed indexBound ('"' :: rest.takeWhile (· != ']')) = none := by
    simp [Numeric.signed, Numeric.digits]
  simp only [reduceCtorEq, if_false, if_neg hquote, hdigits, Option.map_none]

theorem parseComponents_cons {part : List Char} (h : part ≠ []) (parts : List (List Char)) :
    parseComponents (part :: parts) = (parseComponent part).bind fun component =>
      if component.name = "" then some [] else (parseComponents parts).map (component :: ·) := by
  cases part with
  | nil => exact absurd rfl h
  | cons c cs => rfl

end Reading

section Levels

/-- The forms in which an element is written: alone, by its number, or by its id. -/
inductive Written (path : Element) : String → Prop
  | name : Written path path.name
  | number (index : Nat) : Written path (path.name ++ "[" ++ toString index ++ "]")
  | id (hquote : '"' ∉ (path.getAttributeValue "id").toList) :
      Written path (path.name ++ "[\"" ++ path.getAttributeValue "id" ++ "\"]")

variable {subPath : String}

theorem subPathStr_written {previous next : List Element} {path : Element}
    (h : subPathStr previous next path = .ok subPath) : Written path subPath := by
  rw [subPathStr_eq] at h
  cases hscan : scanPrevious (path.getAttributeValue "id") previous 0 false with
  | error t =>
    rw [hscan] at h
    cases h
  | ok r =>
    rw [hscan] at h
    cases h
    unfold subPathText
    dsimp only
    split
    · exact .name
    split
    · exact .number r.1
    split
    next hquotes => exact .id hquotes.1
    · exact .number r.1

theorem slash_toDigits (index : Nat) : '/' ∉ Nat.toDigits 10 index := by
  intro hmem
  have hdigit : '/'.isDigit = true := Nat.isDigit_of_mem_toDigits (by omega) (by omega) hmem
  exact absurd hdigit (by decide)

variable {result : String} {component : PathComponent} {pathList : List PathComponent}

/-- A part that is read as the element's own has no slash, and what follows is read by itself. -/
theorem read_level {path : Element} (hwritten : Written path subPath) (hrooted : Rooted result)
    (hparse : parsePathList ("/" ++ subPath ++ result) = some (component :: pathList))
    (hcomponent : component.name = path.name) :
    '/' ∉ subPath.toList ∧ path.name ≠ "" ∧ '[' ∉ path.name.toList ∧
      parseComponent subPath.toList = some component ∧ parsePathList result = some pathList := by
  rw [parsePathList_level hrooted] at hparse
  have hnames := parseComponents_name hparse (fun part hpart => by
    rw [List.mem_append] at hpart
    cases hpart with
    | inl hpart => exact not_mem_splitOn hpart
    | inr hpart => exact not_mem_splitOn hpart)
  obtain ⟨hne, hslash, hopen⟩ := hcomponent ▸ hnames component List.mem_cons_self
  have hnil : path.name.toList ≠ [] := fun h => hne (String.toList_eq_nil_iff.mp h)
  have hsub : '/' ∉ subPath.toList := by
    cases hwritten with
    | name => exact hslash
    | number index => simp [String.toList_append, hslash, slash_toDigits]
    | id hquote =>
      intro hmem
      have hid : '/' ∈ (path.getAttributeValue "id").toList := by simpa [String.toList_append, hslash] using hmem
      obtain ⟨first, rest, hsplit, hfirst⟩ := List.eq_append_cons_of_mem hid
      have htext : (path.name ++ "[\"" ++ path.getAttributeValue "id" ++ "\"]").toList =
          (path.name.toList ++ '[' :: '"' :: first) ++ '/' :: (rest ++ ['"', ']']) := by
        simp [String.toList_append, hsplit]
      -- the part ends in the id, with its quote open
      have hunclosed : parseComponent (path.name.toList ++ '[' :: '"' :: first) = none := by
        apply parseComponent_unclosed hopen
        intro hmem'
        apply hquote
        rw [hsplit]
        exact List.mem_append_left _ ((List.takeWhile_sublist _).subset hmem')
      rw [htext, List.splitOn_append_cons_self_of_not_mem (by simp [hslash, hfirst]), List.cons_append,
        parseComponents_cons (by simp), hunclosed] at hparse
      cases hparse
  have hsubNil : subPath.toList ≠ [] := by
    cases hwritten with
    | name => exact hnil
    | number index => simp [String.toList_append]
    | id hquote => simp [String.toList_append]
  rw [List.splitOn_eq_singleton hsub, List.singleton_append, parseComponents_cons hsubNil,
    Option.bind_eq_some_iff] at hparse
  obtain ⟨component', hcomponent', hparse⟩ := hparse
  split at hparse
  · simp at hparse
  · obtain ⟨pathList', hpathList', heq⟩ := Option.map_eq_some_iff.mp hparse
    obtain ⟨rfl, rfl⟩ := List.cons.inj heq
    exact ⟨hsub, hne, hopen, hcomponent', hpathList'⟩

/-- What is written for the element is read as its own part of the path, and found to be the element. -/
def LevelLeads (previous next : List Element) (path : Element) : Prop :=
  ∃ subPath component, subPathStr previous next path = .ok subPath ∧ '/' ∉ subPath.toList ∧ path.name ≠ "" ∧
    '[' ∉ path.name.toList ∧ parseComponent subPath.toList = some component ∧ component.name = path.name ∧
    findComponent (previous.reverse ++ path :: next) component = .ok (some previous.length)

variable {nodes : List Node}

theorem pathStr_rooted {path : Address} (h : pathStr path nodes = .ok result) : Rooted result := by
  cases path with
  | nil =>
    simp only [pathStr, Except.ok.injEq] at h
    exact .inl h.symm
  | cons level rest =>
    obtain ⟨c, -, subPath, -, result', -, rfl⟩ := (pathStr_cons level.1 level.2 rest nodes result).mp h
    exact .inr ⟨_, by simp [String.toList_append]; rfl⟩

/-- The part before the rest is read first. -/
theorem parsePathList_cons (hrooted : Rooted result) (hslash : '/' ∉ subPath.toList)
    (hcomponent : parseComponent subPath.toList = some component) (hname : component.name ≠ "")
    (hresult : parsePathList result = some pathList) :
    parsePathList ("/" ++ subPath ++ result) = some (component :: pathList) := by
  have hnil : subPath.toList ≠ [] := by
    intro hnil
    have hread := parseComponent_name_eq hcomponent
    rw [hnil] at hread
    exact hname (String.toList_eq_nil_iff.mp hread)
  rw [parsePathList] at hresult
  rw [parsePathList_level hrooted, List.splitOn_eq_singleton hslash, List.singleton_append, parseComponents_cons hnil,
    hcomponent, Option.bind_some, if_neg hname, hresult]
  rfl

theorem siblings_eq {name : String} {j : Nat} {c : Cursor} (h : focus name j nodes = some c) :
    elementsNamed name nodes =
      (elementsNamed name c.before).reverse.reverse ++ c.element :: elementsNamed name c.after ∧
      c.element.name = name ∧ (elementsNamed name c.before).reverse.length = j := by
  obtain ⟨hnodes, hname, hj⟩ := focus_eq_some h
  refine ⟨?_, hname, by rw [List.length_reverse, hj]⟩
  rw [← hnodes, Cursor.nodes, elementsNamed_append, elementsNamed_element, if_pos hname, List.reverse_reverse]

theorem findPath_cons {address : Address} :
    findPath (component :: pathList) nodes = .ok (some address) ↔
      ∃ j c rest, findComponent (elementsNamed component.name nodes) component = .ok (some j) ∧
        focus component.name j nodes = some c ∧ findPath pathList c.element.children = .ok (some rest) ∧
        address = (component.name, j) :: rest := by
  rw [findPath]
  cases hfind : findComponent (elementsNamed component.name nodes) component with
  | error t => simp
  | ok found =>
    cases found with
    | none => simp
    | some j =>
      simp only [Except.ok.injEq, Option.some.injEq, exists_and_left, exists_eq_left']
      cases hfocus : focus component.name j nodes with
      | none => simp
      | some c =>
        cases hrest : findPath pathList c.element.children with
        | error t => simp [hrest]
        | ok rest =>
          cases rest with
          | none => simp [hrest]
          | some rest => simp [hrest, eq_comm]

/-- The path leads back to its element exactly when each of its levels does. -/
theorem pathStr_locates {path : Address} (hleads : Leads path nodes) :
    (∃ text pathList, pathStr path nodes = .ok text ∧ parsePathList text = some pathList ∧
      findPath pathList nodes = .ok (some path)) ↔ EachLevel LevelLeads path nodes := by
  induction path generalizing nodes with
  | nil =>
    constructor
    · exact fun _ => trivial
    · exact fun _ => ⟨"", [], rfl, rfl, rfl⟩
  | cons level rest ih =>
    obtain ⟨name, j⟩ := level
    obtain ⟨c, hc, hleads⟩ := hleads
    obtain ⟨hsiblings, hname, hlength⟩ := siblings_eq hc
    simp only [EachLevel, hc, Option.some.injEq, forall_eq', ← ih hleads]
    constructor
    · rintro ⟨text, pathList, htext, hparse, hfind⟩
      obtain ⟨c', hc', subPath, hsub, result, hresult, rfl⟩ := (pathStr_cons _ _ _ _ _).mp htext
      obtain rfl : c = c' := Option.some.inj (hc.symm.trans hc')
      cases pathList with
      | nil => simp [findPath] at hfind
      | cons component pathList =>
        obtain ⟨j', c', rest', hcomponent, hfocus, hrest, heq⟩ := findPath_cons.mp hfind
        simp only [List.cons.injEq, Prod.mk.injEq] at heq
        obtain ⟨⟨rfl, rfl⟩, rfl⟩ := heq
        obtain rfl : c = c' := Option.some.inj (hc.symm.trans hfocus)
        obtain ⟨hslash, hne, hopen, hread, hrestParse⟩ :=
          read_level (subPathStr_written hsub) (pathStr_rooted hresult) hparse hname.symm
        refine ⟨⟨subPath, component, hsub, hslash, hne, hopen, hread, hname.symm, ?_⟩, result, pathList, hresult,
          hrestParse, hrest⟩
        rw [hlength, ← hsiblings]
        exact hcomponent
    · rintro ⟨⟨subPath, component, hsub, hslash, hne, -, hread, hcomponent, hfound⟩, result, pathList, hresult, hparse,
        hfind⟩
      have hcname : component.name = name := hcomponent.trans hname
      refine ⟨_, component :: pathList, (pathStr_cons _ _ _ _ _).mpr ⟨c, hc, subPath, hsub, result, hresult, rfl⟩,
        parsePathList_cons (pathStr_rooted hresult) hslash hread (hcomponent ▸ hne) hparse, ?_⟩
      rw [hlength, ← hsiblings] at hfound
      exact findPath_cons.mpr ⟨j, c, rest, hcname ▸ hfound, hcname ▸ hc, hfind, by rw [hcname]⟩

end Levels

section Conditions

/-- The element is written by its number: another one has its id, or there is a quote in the id. -/
def ByNumber (previous next : List Element) (path : Element) : Prop :=
  (∃ s ∈ previous ++ next, s.getAttributeValue "id" = path.getAttributeValue "id") ∨
    '"' ∈ (path.getAttributeValue "id").toList ∨ '\'' ∈ (path.getAttributeValue "id").toList

/-- What an element and its siblings must be for its part of a path to lead back to it. -/
structure Locatable (previous next : List Element) (path : Element) : Prop where
  scan : ScanEnds previous next path
  name : path.name ≠ "" ∧ '/' ∉ path.name.toList ∧ '[' ∉ path.name.toList
  bracket : previous ≠ [] ∨ next ≠ [] → ']' ∉ path.name.toList
  number : previous ≠ [] ∨ next ≠ [] → ByNumber previous next path → previous.length < indexBound
  id : previous ≠ [] ∨ next ≠ [] → ¬ByNumber previous next path →
    if path.getAttributeValue "id" = "" then previous = []
    else '/' ∉ (path.getAttributeValue "id").toList ∧ ']' ∉ (path.getAttributeValue "id").toList ∧
      ∀ s ∈ previous, (s.findAttribute "id").isSome

variable {previous next : List Element} {path : Element}

theorem subPathStr_ok (hscan : ScanEnds previous next path) :
    subPathStr previous next path = .ok (subPathText previous next path previous.length
      (previous.any fun s => s.getAttributeValue "id" = path.getAttributeValue "id")) := by
  obtain ⟨r, hr⟩ := (scanPrevious_ok_iff previous 0).mpr hscan
  rw [subPathStr_eq, hr, scanPrevious_eq hr, Nat.zero_add]
  rfl

theorem scanEnds_of_written {subPath : String} (h : subPathStr previous next path = .ok subPath) :
    ScanEnds previous next path := by
  rw [subPathStr_eq] at h
  cases hscan : scanPrevious (path.getAttributeValue "id") previous 0 false with
  | error t =>
    rw [hscan] at h
    cases h
  | ok r => exact (scanPrevious_ok_iff previous 0).mp ⟨r, hscan⟩

/-- The text that stands for an element whose siblings are scanned to the end. -/
def written (previous next : List Element) (path : Element) : String :=
  subPathText previous next path previous.length
    (previous.any fun s => s.getAttributeValue "id" = path.getAttributeValue "id")

theorem written_alone : written [] [] path = path.name := by simp [written, subPathText]

theorem byNumber_iff :
    ByNumber previous next path ↔
      ((previous.any fun s => s.getAttributeValue "id" = path.getAttributeValue "id") ||
        next.any fun s => s.getAttributeValue "id" = path.getAttributeValue "id") = true ∨
      ¬('"' ∉ (path.getAttributeValue "id").toList ∧ '\'' ∉ (path.getAttributeValue "id").toList) := by
  rw [← List.any_append, List.any_eq_true, not_and_or, not_not, not_not]
  simp [ByNumber]

theorem written_number (hothers : previous ≠ [] ∨ next ≠ []) (h : ByNumber previous next path) :
    written previous next path = path.name ++ "[" ++ toString previous.length ++ "]" := by
  have hsome : ¬(previous.isEmpty = true ∧ next.isEmpty = true) := by
    simpa [← not_and_or] using hothers
  unfold written subPathText
  dsimp only
  rw [if_neg hsome]
  cases byNumber_iff.mp h with
  | inl hshared => rw [if_pos hshared]
  | inr hquoted => rw [if_neg hquoted, ite_self]

theorem written_id (hothers : previous ≠ [] ∨ next ≠ []) (h : ¬ByNumber previous next path) :
    written previous next path = path.name ++ "[\"" ++ path.getAttributeValue "id" ++ "\"]" := by
  have hsome : ¬(previous.isEmpty = true ∧ next.isEmpty = true) := by
    simpa [← not_and_or] using hothers
  rw [byNumber_iff, not_or, not_not] at h
  unfold written subPathText
  dsimp only
  rw [if_neg hsome, if_neg h.1, if_pos h.2]

theorem parseComponent_early {name rest : List Char} (hopen : '[' ∉ name) (hclose : ']' ∈ name) :
    parseComponent (name ++ '[' :: rest) = none := by
  have hopenPos : (name ++ '[' :: rest).idxOf '[' = name.length := by
    rw [List.idxOf_append_of_notMem hopen]
    simp
  have hclosePos : (name ++ '[' :: rest).idxOf ']' < name.length := by
    rw [List.idxOf_append_of_mem hclose]
    exact List.idxOf_lt_length_of_mem hclose
  rw [parseComponent, hopenPos, if_neg (by simp), if_neg (by simp only [List.length_append]; omega), if_pos hclosePos]

theorem findByID_passed {id : String} {siblings : List Element} {j n : Nat}
    (h : findByID id siblings j = .ok (some (j + n))) : ∀ s ∈ siblings.take n, (s.findAttribute "id").isSome := by
  induction siblings generalizing j n with
  | nil => simp
  | cons s siblings ih =>
    rw [findByID] at h
    cases hs : s.findAttribute "id" with
    | none =>
      rw [hs] at h
      cases h
    | some v =>
      rw [hs] at h
      dsimp only at h
      split at h
      · simp only [Except.ok.injEq, Option.some.injEq] at h
        have hn : n = 0 := by omega
        simp [hn]
      · cases n with
        | zero => simp
        | succ n =>
          have hrest := ih (j := j + 1) (n := n) (by rw [h]; congr 2; omega)
          intro s' hs'
          rw [List.take_succ_cons] at hs'
          cases hs' with
          | head => exact Option.isSome_iff_exists.mpr ⟨v, hs⟩
          | tail _ hs' => exact hrest s' hs'

theorem findAttribute_of_value {e : Element} (h : e.getAttributeValue "id" ≠ "") :
    e.findAttribute "id" = some (e.getAttributeValue "id") := by
  unfold Tag.getAttributeValue at h ⊢
  cases hid : e.findAttribute "id" with
  | none => simp [hid] at h
  | some v => rfl

theorem findComponent_first {siblings : List Element} {name : String} {n : Nat}
    (h : findComponent siblings ⟨name, "", 0⟩ = .ok (some n)) : n = 0 := by
  simp [findComponent, findByIndex] at h
  exact h.2.symm

theorem levelLeads_of_locatable (h : Locatable previous next path) : LevelLeads previous next path := by
  obtain ⟨hne, hslash, hopen⟩ := h.name
  have hsub : subPathStr previous next path = .ok (written previous next path) := subPathStr_ok h.scan
  by_cases hothers : previous ≠ [] ∨ next ≠ []
  · have hbracket := h.bracket hothers
    by_cases hnumber : ByNumber previous next path
    · rw [written_number hothers hnumber] at hsub
      have hindex := h.number hothers hnumber
      refine ⟨_, ⟨path.name, "", previous.length⟩, hsub, ?_, hne, hopen, parseComponent_index hopen hbracket hindex,
        rfl, findComponent_index ?_⟩
      · simp [String.toList_append, hslash, slash_toDigits]
      · simp
    · rw [written_id hothers hnumber] at hsub
      have hid := h.id hothers hnumber
      split at hid
      next hempty =>
        rw [hempty] at hsub
        refine ⟨_, ⟨path.name, "", 0⟩, hsub, ?_, hne, hopen, parseComponent_id hopen hbracket (by simp), rfl, ?_⟩
        · simp [String.toList_append, hslash]
        · rw [hid]
          exact findComponent_index (j := 0) (by simp)
      next hempty =>
        obtain ⟨hidSlash, hidClose, hpresent⟩ := hid
        refine ⟨_, ⟨path.name, path.getAttributeValue "id", 0⟩, hsub, ?_, hne, hopen,
          parseComponent_id hopen hbracket hidClose, rfl, ?_⟩
        · simp [String.toList_append, hslash, hidSlash]
        · rw [← @List.length_reverse _ previous]
          apply findComponent_id hempty
          · intro b hb
            rw [List.mem_reverse] at hb
            obtain ⟨v, hv⟩ := Option.isSome_iff_exists.mp (hpresent b hb)
            refine ⟨v, hv, fun heq => hnumber (.inl ⟨b, List.mem_append_left _ hb, ?_⟩)⟩
            rw [Tag.getAttributeValue, hv, Option.getD_some, heq]
          · exact findAttribute_of_value hempty
  · simp only [not_or, not_not] at hothers
    obtain ⟨rfl, rfl⟩ := hothers
    rw [written_alone] at hsub
    exact ⟨_, ⟨path.name, "", 0⟩, hsub, hslash, hne, hopen, parseComponent_name hopen, rfl,
      findComponent_index (j := 0) (by simp)⟩

theorem locatable_of_levelLeads (h : LevelLeads previous next path) : Locatable previous next path := by
  obtain ⟨subPath, component, hsub, hslash, hne, hopen, hread, hname, hfound⟩ := h
  have hscan := scanEnds_of_written hsub
  have hwritten : subPath = written previous next path := Except.ok.inj (hsub.symm.trans (subPathStr_ok hscan))
  have hbracket (rest : List Char) (htext : subPath.toList = path.name.toList ++ '[' :: rest) :
      ']' ∉ path.name.toList := by
    intro hclose
    rw [htext, parseComponent_early hopen hclose] at hread
    cases hread
  have hnumberText : (path.name ++ "[" ++ toString previous.length ++ "]").toList =
      path.name.toList ++ '[' :: Nat.toDigits 10 previous.length ++ [']'] := by
    simp [String.toList_append]
  have hidText : (path.name ++ "[\"" ++ path.getAttributeValue "id" ++ "\"]").toList =
      path.name.toList ++ '[' :: '"' :: ((path.getAttributeValue "id").toList ++ ['"', ']']) := by
    simp [String.toList_append]
  constructor
  · exact hscan
  · refine ⟨hne, fun hmem => hslash ?_, hopen⟩
    cases subPathStr_written hsub <;> simp [String.toList_append, hmem]
  · intro hothers
    by_cases hnumber : ByNumber previous next path
    · rw [written_number hothers hnumber] at hwritten
      exact hbracket (Nat.toDigits 10 previous.length ++ [']']) (by rw [hwritten, hnumberText]; simp)
    · rw [written_id hothers hnumber] at hwritten
      exact hbracket _ (hwritten ▸ hidText)
  · intro hothers hnumber
    rw [written_number hothers hnumber] at hwritten
    have hdigit : ∀ c ∈ Nat.toDigits 10 previous.length, c.isDigit = true :=
      fun c hc => Nat.isDigit_of_mem_toDigits (by omega) (by omega) hc
    have hclose : ']' ∉ Nat.toDigits 10 previous.length := fun hc => absurd (hdigit _ hc) (by decide)
    have hquote : (Nat.toDigits 10 previous.length).head? ≠ some '"' :=
      fun hc => absurd (hdigit _ (List.mem_of_mem_head? hc)) (by decide)
    have hname' : ']' ∉ path.name.toList :=
      hbracket (Nat.toDigits 10 previous.length ++ [']']) (by rw [hwritten, hnumberText]; simp)
    rw [hwritten, hnumberText, parseComponent_brackets hopen hname' hclose, parseIndex] at hread
    simp only [if_neg Nat.toDigits_ne_nil] at hread
    rw [if_neg fun hc => hquote hc.1, Numeric.signed_toDigits_eq] at hread
    by_contra hgreat
    rw [if_neg hgreat] at hread
    cases hread
  · intro hothers hnumber
    rw [written_id hothers hnumber] at hwritten
    have hquote : '"' ∉ (path.getAttributeValue "id").toList := fun hmem => hnumber (.inr (.inl hmem))
    have hidClose : ']' ∉ (path.getAttributeValue "id").toList := by
      intro hmem
      rw [hwritten, hidText, parseComponent_unclosed hopen] at hread
      · cases hread
      · rw [List.takeWhile_append, if_neg]
        · exact fun hmem' => hquote ((List.takeWhile_sublist _).subset hmem')
        · intro hall
          rw [← (List.takeWhile_sublist _).eq_of_length hall] at hmem
          simpa using List.all_eq_true.mp List.all_takeWhile _ hmem
    have hname' : ']' ∉ path.name.toList := hbracket _ (hwritten ▸ hidText)
    rw [hwritten, parseComponent_id hopen hname' hidClose, Option.some.injEq] at hread
    subst hread
    split
    next hempty =>
      rw [hempty] at hfound
      exact List.length_eq_zero_iff.mp (findComponent_first hfound)
    next hempty =>
      refine ⟨fun hmem => hslash ?_, hidClose, ?_⟩
      · rw [hwritten]
        simp [String.toList_append, hmem]
      · rw [findComponent, if_neg hempty] at hfound
        simp only [Int.le_refl, if_true, List.drop_zero] at hfound
        have hpassed := findByID_passed (j := 0) (n := previous.length) (by rw [hfound, Nat.zero_add])
        rw [← @List.length_reverse _ previous, List.take_left] at hpassed
        exact fun s hs => hpassed s (List.mem_reverse.mpr hs)

theorem levelLeads_iff : LevelLeads = Locatable := by
  funext previous next path
  exact propext ⟨locatable_of_levelLeads, levelLeads_of_locatable⟩

/-- The item that is written for an element leads `process` back to it exactly when on each level the element can be
told from its siblings. -/
theorem createDiffXDElement_locates (document : Document) (path : Address) (action : String)
    (helement : (cursorAt path document).isSome) :
    (∃ itemEl pathList, createDiffXDElement document path action = .ok itemEl ∧
      parsePathList (itemEl.getAttributeValue "path") = some pathList ∧ findPath pathList document = .ok (some path)) ↔
      EachLevel Locatable path document := by
  have hattribute (result : String) :
      (((Tag.create "item" : Element).setAttribute "do" action).setAttribute "path" result).getAttributeValue "path" =
        result := by
    simp [Tag.create, Tag.setAttribute, putAttribute, Tag.getAttributeValue, Tag.findAttribute, List.lookup_cons]
  rw [← levelLeads_iff, ← pathStr_locates (leads_of_cursorAt helement)]
  constructor
  · rintro ⟨itemEl, pathList, hitem, hparse, hfind⟩
    unfold createDiffXDElement at hitem
    cases hpath : pathStr path document with
    | error t =>
      rw [hpath] at hitem
      cases hitem
    | ok text =>
      rw [hpath] at hitem
      cases hitem
      rw [hattribute] at hparse
      exact ⟨text, pathList, rfl, hparse, hfind⟩
  · rintro ⟨text, pathList, htext, hparse, hfind⟩
    refine ⟨_, pathList, by rw [createDiffXDElement, htext]; rfl, ?_, hfind⟩
    rw [hattribute]
    exact hparse

/-- A list of two items with these ids. -/
def itemsDocument (id id' : String) : Document :=
  [.element ⟨"list", [], [.element ((Tag.create "item").setAttribute "id" id),
    .element ((Tag.create "item").setAttribute "id" id')]⟩]

theorem createDiffXDElement_locates_second :
    (∃ itemEl pathList, createDiffXDElement (itemsDocument "a" "b") [("list", 0), ("item", 1)] "-" = .ok itemEl ∧
      parsePathList (itemEl.getAttributeValue "path") = some pathList ∧
      findPath pathList (itemsDocument "a" "b") = .ok (some [("list", 0), ("item", 1)])) ↔
      EachLevel Locatable [("list", 0), ("item", 1)] (itemsDocument "a" "b") :=
  createDiffXDElement_locates (itemsDocument "a" "b") [("list", 0), ("item", 1)] "-" (by decide)

/-- An id with a slash is written as safe to use, and cannot be read. -/
theorem createDiffXDElement_slash :
    (cursorAt [("list", 0), ("item", 1)] (itemsDocument "a" "b/c")).isSome ∧
      ∃ itemEl, createDiffXDElement (itemsDocument "a" "b/c") [("list", 0), ("item", 1)] "-" = .ok itemEl ∧
        itemEl.getAttributeValue "path" = "/list/item[\"b/c\"]" ∧
        parsePathList (itemEl.getAttributeValue "path") = none := by
  refine ⟨by decide, _, rfl, by decide +kernel, by decide +kernel⟩

end Conditions

end OpenPeer.Diff
