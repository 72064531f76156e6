import OpenPeer.DiffPath

/-!
# When a path is written

The loop over the previous siblings of an element is taken iteration by iteration, with as
many as it is given. It goes through the siblings up to the nearest one that has the
element's own id, and when another one stands before that it never leaves it. So the
path of an element is written exactly when on each level that sibling is the first of
the name, or there is none.
-/
namespace OpenPeer.Diff

open Xml

section Loop

/-- The loop over the previous siblings, for a number of iterations. -/
def scanWithin (id : String) : Nat → List Element → Nat → Bool → Option (Nat × Bool)
  | 0, _, _, _ => none
  | _ + 1, [], index, foundOtherWithID => some (index, foundOtherWithID)
  | fuel + 1, prevSibling :: before, index, foundOtherWithID =>
    -- `continue`, with `prevSibling` as it is
    if foundOtherWithID then scanWithin id fuel (prevSibling :: before) (index + 1) foundOtherWithID
    else scanWithin id fuel before (index + 1) (prevSibling.getAttributeValue "id" = id)

variable {id : String}

theorem scanWithin_stuck (fuel : Nat) (prevSibling : Element) (before : List Element) (index : Nat) :
    scanWithin id fuel (prevSibling :: before) index true = none := by
  induction fuel generalizing index with
  | zero => rfl
  | succ fuel ih =>
    rw [scanWithin, if_pos rfl]
    exact ih (index + 1)

variable {previous : List Element} {index : Nat} {r : Nat × Bool}

theorem scanWithin_mono {fuel fuel' : Nat} (hle : fuel ≤ fuel') {found : Bool}
    (h : scanWithin id fuel previous index found = some r) :
    scanWithin id fuel' previous index found = some r := by
  induction fuel generalizing fuel' previous index found with
  | zero => cases h
  | succ fuel ih =>
    cases fuel' with
    | zero => omega
    | succ fuel' =>
      cases previous with
      | nil => exact h
      | cons prevSibling before =>
        cases found with
        | true =>
          rw [scanWithin_stuck] at h
          cases h
        | false =>
          simp only [scanWithin, Bool.false_eq_true, if_false] at h ⊢
          exact ih (by omega) h

theorem scanWithin_iff (previous : List Element) (index : Nat) (found : Bool) (r : Nat × Bool) :
    (∃ fuel, scanWithin id fuel previous index found = some r) ↔ scanPrevious id previous index found = .ok r := by
  induction previous generalizing index found with
  | nil =>
    constructor
    · rintro ⟨fuel, h⟩
      cases fuel with
      | zero => cases h
      | succ fuel =>
        simp only [scanWithin, Option.some.injEq] at h
        rw [scanPrevious, h]
    · intro h
      simp only [scanPrevious, Except.ok.injEq] at h
      exact ⟨1, by rw [scanWithin, h]⟩
  | cons prevSibling before ih =>
    cases found with
    | true => simp [scanWithin_stuck, scanPrevious]
    | false =>
      rw [scanPrevious, if_neg Bool.false_ne_true, ← ih]
      constructor
      · rintro ⟨fuel, h⟩
        cases fuel with
        | zero => cases h
        | succ fuel =>
          rw [scanWithin, if_neg Bool.false_ne_true] at h
          exact ⟨fuel, h⟩
      · rintro ⟨fuel, h⟩
        exact ⟨fuel + 1, by rwa [scanWithin, if_neg Bool.false_ne_true]⟩

/-- The siblings from the nearest one on that has the id; the nearest comes first. -/
def fromSameID (id : String) (previous : List Element) : List Element :=
  previous.dropWhile fun s => s.getAttributeValue "id" ≠ id

theorem scanPrevious_ok_iff (previous : List Element) (index : Nat) :
    (∃ r, scanPrevious id previous index false = .ok r) ↔ (fromSameID id previous).length ≤ 1 := by
  induction previous generalizing index with
  | nil => simp [scanPrevious, fromSameID]
  | cons s before ih =>
    rw [scanPrevious, if_neg Bool.false_ne_true]
    by_cases hsame : s.getAttributeValue "id" = id
    · have hstays : fromSameID id (s :: before) = s :: before := by simp [fromSameID, hsame]
      rw [hstays]
      cases before with
      | nil => simp [scanPrevious]
      | cons s' before => simp [scanPrevious, hsame]
    · have hskips : fromSameID id (s :: before) = fromSameID id before := by simp [fromSameID, hsame]
      rw [hskips, ← ih (index + 1), decide_eq_false hsame]

theorem scanPrevious_eq (h : scanPrevious id previous index false = .ok r) :
    r = (index + previous.length, previous.any fun s => s.getAttributeValue "id" = id) := by
  induction previous generalizing index with
  | nil =>
    simp only [scanPrevious, Except.ok.injEq] at h
    exact h.symm
  | cons s before ih =>
    rw [scanPrevious, if_neg Bool.false_ne_true] at h
    by_cases hsame : s.getAttributeValue "id" = id
    · rw [decide_eq_true hsame] at h
      cases before with
      | nil =>
        simp only [scanPrevious, Except.ok.injEq] at h
        simp [← h, hsame]
      | cons s' before => simp [scanPrevious] at h
    · rw [decide_eq_false hsame] at h
      rw [ih h]
      simp [hsame, Nat.add_assoc, Nat.add_comm 1]

end Loop

section Path

/-- What is written for an element once its siblings were scanned. -/
def subPathText (previous next : List Element) (path : Element) (index : Nat) (foundOtherWithID : Bool) : String :=
  let id := path.getAttributeValue "id"
  let foundOtherWithID := foundOtherWithID || next.any fun s => s.getAttributeValue "id" = id
  if previous.isEmpty ∧ next.isEmpty then path.name
  else if foundOtherWithID then path.name ++ "[" ++ toString index ++ "]"
  else if '"' ∉ id.toList ∧ '\'' ∉ id.toList then path.name ++ "[\"" ++ id ++ "\"]"
  else path.name ++ "[" ++ toString index ++ "]"

def subPathWithin (fuel : Nat) (previous next : List Element) (path : Element) : Option String :=
  (scanWithin (path.getAttributeValue "id") fuel previous 0 false).map fun r => subPathText previous next path r.1 r.2

/-- The path of the element at an address, each loop for a number of iterations. -/
def pathWithin (fuel : Nat) : Address → List Node → Option String
  | [], _ => some ""
  | (name, j) :: rest, nodes =>
    (focus name j nodes).bind fun c =>
      (subPathWithin fuel (elementsNamed name c.before).reverse (elementsNamed name c.after) c.element).bind fun subPath =>
        (pathWithin fuel rest c.element.children).map fun result => "/" ++ subPath ++ result

/-- `createDiffXDElement`, each of its loops for a number of iterations. -/
def createDiffXDElementWithin (fuel : Nat) (document : Document) (path : Address) (action : String) : Option Element :=
  (pathWithin fuel path document).map fun result =>
    ((Tag.create "item").setAttribute "do" action).setAttribute "path" result

variable (previous : List Element)

theorem subPathStr_eq (next : List Element) (path : Element) :
    subPathStr previous next path =
      (scanPrevious (path.getAttributeValue "id") previous 0 false).map fun r =>
        subPathText previous next path r.1 r.2 := by
  unfold subPathStr subPathText
  dsimp only
  cases scanPrevious (path.getAttributeValue "id") previous 0 false with
  | error t => rfl
  | ok r => rfl

theorem subPathWithin_iff (next : List Element) (path : Element) (text : String) :
    (∃ fuel, subPathWithin fuel previous next path = some text) ↔ subPathStr previous next path = .ok text := by
  rw [subPathStr_eq]
  constructor
  · rintro ⟨fuel, h⟩
    obtain ⟨r, hr, rfl⟩ := Option.map_eq_some_iff.mp h
    rw [(scanWithin_iff previous 0 false r).mp ⟨fuel, hr⟩]
    rfl
  · intro h
    cases hscan : scanPrevious (path.getAttributeValue "id") previous 0 false with
    | error t =>
      rw [hscan] at h
      cases h
    | ok r =>
      rw [hscan] at h
      cases h
      obtain ⟨fuel, hfuel⟩ := (scanWithin_iff previous 0 false r).mpr hscan
      exact ⟨fuel, by rw [subPathWithin, hfuel]; rfl⟩

variable {path : Address} {nodes : List Node}

theorem pathWithin_mono {fuel fuel' : Nat} (hle : fuel ≤ fuel') {text : String}
    (h : pathWithin fuel path nodes = some text) : pathWithin fuel' path nodes = some text := by
  induction path generalizing nodes text with
  | nil => exact h
  | cons level rest ih =>
    obtain ⟨name, j⟩ := level
    simp only [pathWithin, Option.bind_eq_some_iff, Option.map_eq_some_iff] at h ⊢
    obtain ⟨c, hc, subPath, hsub, result, hresult, rfl⟩ := h
    refine ⟨c, hc, subPath, ?_, result, ih hresult, rfl⟩
    obtain ⟨r, hr, rfl⟩ := Option.map_eq_some_iff.mp hsub
    rw [subPathWithin, scanWithin_mono hle hr]
    rfl

theorem pathStr_cons (name : String) (j : Nat) (rest : Address) (nodes : List Node) (text : String) :
    pathStr ((name, j) :: rest) nodes = .ok text ↔
      ∃ c, focus name j nodes = some c ∧ ∃ subPath,
        subPathStr (elementsNamed name c.before).reverse (elementsNamed name c.after) c.element = .ok subPath ∧
        ∃ result, pathStr rest c.element.children = .ok result ∧ "/" ++ subPath ++ result = text := by
  rw [pathStr]
  cases focus name j nodes with
  | none => simp
  | some c =>
    cases hresult : pathStr rest c.element.children with
    | error t => simp [hresult]
    | ok result =>
      cases hsub : subPathStr (elementsNamed name c.before).reverse (elementsNamed name c.after) c.element with
      | error t => simp [hsub, hresult]
      | ok subPath => simp [hsub, hresult]

theorem pathWithin_iff (path : Address) (nodes : List Node) (text : String) :
    (∃ fuel, pathWithin fuel path nodes = some text) ↔ pathStr path nodes = .ok text := by
  induction path generalizing nodes text with
  | nil => simp [pathWithin, pathStr]
  | cons level rest ih =>
    obtain ⟨name, j⟩ := level
    rw [pathStr_cons]
    constructor
    · rintro ⟨fuel, h⟩
      simp only [pathWithin, Option.bind_eq_some_iff, Option.map_eq_some_iff] at h
      obtain ⟨c, hc, subPath, hsub, result, hresult, htext⟩ := h
      exact ⟨c, hc, subPath, (subPathWithin_iff _ _ _ _).mp ⟨fuel, hsub⟩, result, (ih _ _).mp ⟨fuel, hresult⟩, htext⟩
    · rintro ⟨c, hc, subPath, hsub, result, hresult, rfl⟩
      obtain ⟨fuel1, hfuel1⟩ := (subPathWithin_iff _ _ _ _).mpr hsub
      obtain ⟨fuel2, hfuel2⟩ := (ih _ _).mpr hresult
      obtain ⟨r, hr, rfl⟩ := Option.map_eq_some_iff.mp hfuel1
      refine ⟨max fuel1 fuel2, ?_⟩
      have hrest := pathWithin_mono (Nat.le_max_right fuel1 fuel2) hfuel2
      have hscan := scanWithin_mono (Nat.le_max_left fuel1 fuel2) hr
      simp [pathWithin, hc, subPathWithin, hscan, hrest]

theorem createDiffXDElementWithin_iff (document : Document) (path : Address) (action : String) (itemEl : Element) :
    (∃ fuel, createDiffXDElementWithin fuel document path action = some itemEl) ↔
      createDiffXDElement document path action = .ok itemEl := by
  unfold createDiffXDElementWithin createDiffXDElement
  constructor
  · rintro ⟨fuel, h⟩
    obtain ⟨result, hresult, rfl⟩ := Option.map_eq_some_iff.mp h
    rw [(pathWithin_iff path document result).mp ⟨fuel, hresult⟩]
    rfl
  · intro h
    cases hpath : pathStr path document with
    | error t =>
      rw [hpath] at h
      cases h
    | ok result =>
      rw [hpath] at h
      cases h
      obtain ⟨fuel, hfuel⟩ := (pathWithin_iff path document result).mpr hpath
      exact ⟨fuel, by rw [hfuel]; rfl⟩

/-- On each level down to an element: of the siblings of its name, those before it (the nearest first) and those after
it, and of the element. -/
def EachLevel (P : List Element → List Element → Element → Prop) : Address → List Node → Prop
  | [], _ => True
  | (name, j) :: rest, nodes =>
    ∀ c, focus name j nodes = some c →
      P (elementsNamed name c.before).reverse (elementsNamed name c.after) c.element ∧
        EachLevel P rest c.element.children

/-- The nearest previous sibling with the element's id has none before it. -/
def ScanEnds (previous _ : List Element) (path : Element) : Prop :=
  (fromSameID (path.getAttributeValue "id") previous).length ≤ 1

/-- There is an element at the address. -/
def Leads : Address → List Node → Prop
  | [], _ => True
  | (name, j) :: rest, nodes => ∃ c, focus name j nodes = some c ∧ Leads rest c.element.children

theorem leads_of_cursorAt (h : (cursorAt path nodes).isSome) : Leads path nodes := by
  induction path generalizing nodes with
  | nil => trivial
  | cons level rest ih =>
    obtain ⟨name, j⟩ := level
    cases rest with
    | nil =>
      obtain ⟨c, hc⟩ := Option.isSome_iff_exists.mp h
      exact ⟨c, hc, trivial⟩
    | cons next rest =>
      obtain ⟨found, hfound⟩ := Option.isSome_iff_exists.mp h
      obtain ⟨c, hc, hrest⟩ := Option.bind_eq_some_iff.mp hfound
      exact ⟨c, hc, ih (Option.isSome_iff_exists.mpr ⟨found, hrest⟩)⟩

theorem pathStr_ok_iff (h : Leads path nodes) :
    (∃ text, pathStr path nodes = .ok text) ↔ EachLevel ScanEnds path nodes := by
  induction path generalizing nodes with
  | nil => simp [pathStr, EachLevel]
  | cons level rest ih =>
    obtain ⟨name, j⟩ := level
    obtain ⟨c, hc, hleads⟩ := h
    have hsub : (∃ subPath, subPathStr (elementsNamed name c.before).reverse (elementsNamed name c.after) c.element =
        .ok subPath) ↔ (fromSameID (c.element.getAttributeValue "id") (elementsNamed name c.before).reverse).length ≤ 1 := by
      rw [← scanPrevious_ok_iff _ 0, subPathStr_eq]
      cases scanPrevious (c.element.getAttributeValue "id") (elementsNamed name c.before).reverse 0 false with
      | error t => simp [Except.map]
      | ok r => simp [Except.map]
    simp only [EachLevel, ScanEnds, hc, Option.some.injEq, forall_eq', ← hsub, ← ih hleads, pathStr_cons, exists_eq_left']
    constructor
    · rintro ⟨text, subPath, hsubPath, result, hresult, -⟩
      exact ⟨⟨subPath, hsubPath⟩, result, hresult⟩
    · rintro ⟨⟨subPath, hsubPath⟩, result, hresult⟩
      exact ⟨_, subPath, hsubPath, result, hresult, rfl⟩

/-- For every element, its path is written after finitely many iterations exactly when no level has a sibling that
the loop never leaves. -/
theorem createDiffXDElement_ends (document : Document) (path : Address) (action : String)
    (helement : (cursorAt path document).isSome) :
    (∃ fuel itemEl, createDiffXDElementWithin fuel document path action = some itemEl) ↔ EachLevel ScanEnds path document := by
  rw [← pathStr_ok_iff (leads_of_cursorAt helement)]
  constructor
  · rintro ⟨fuel, itemEl, h⟩
    obtain ⟨result, hresult, -⟩ := Option.map_eq_some_iff.mp h
    exact ⟨result, (pathWithin_iff path document result).mp ⟨fuel, hresult⟩⟩
  · rintro ⟨text, htext⟩
    obtain ⟨fuel, hfuel⟩ := (pathWithin_iff path document text).mpr htext
    exact ⟨fuel, _, Option.map_eq_some_iff.mpr ⟨text, hfuel, rfl⟩⟩

/-- Some elements `contact` without an id. -/
def contactsDocument (count : Nat) : Document :=
  [.element ⟨"contacts", [], List.replicate count (.element (Tag.create "contact"))⟩]

theorem createDiffXDElement_ends_second :
    (∃ fuel itemEl, createDiffXDElementWithin fuel (contactsDocument 2) [("contacts", 0), ("contact", 1)] "-" =
      some itemEl) ↔ EachLevel ScanEnds [("contacts", 0), ("contact", 1)] (contactsDocument 2) :=
  createDiffXDElement_ends (contactsDocument 2) [("contacts", 0), ("contact", 1)] "-" (by decide)

/-- The path of the third of three elements without an id is never written. -/
theorem createDiffXDElement_hangs_third :
    (cursorAt [("contacts", 0), ("contact", 2)] (contactsDocument 3)).isSome ∧
      ∀ fuel, createDiffXDElementWithin fuel (contactsDocument 3) [("contacts", 0), ("contact", 2)] "-" = none := by
  refine ⟨by decide, fun fuel => ?_⟩
  have hhangs : createDiffXDElement (contactsDocument 3) [("contacts", 0), ("contact", 2)] "-" = .error .hangs := rfl
  cases h : createDiffXDElementWithin fuel (contactsDocument 3) [("contacts", 0), ("contact", 2)] "-" with
  | none => rfl
  | some itemEl =>
    have hitem := (createDiffXDElementWithin_iff _ _ _ _).mp ⟨fuel, h⟩
    rw [hhangs] at hitem
    cases hitem

end Path

end OpenPeer.Diff
