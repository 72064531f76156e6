import OpenPeer.DiffPath

/-!
# When a difference document is processed

An element that is looked up by its id is looked for among its siblings from the first
one on, and the id of each is read off. So processing ends, with yes or no, exactly when
each item finds an id on every sibling it passes, in the document that the items
before it have made; and a yes means that each of them was applied, in order.
-/
namespace OpenPeer.Diff

open Xml

section Looking

/-- Each sibling before the first one with the id has one too. -/
def IDsPresent (id : String) (siblings : List Element) : Prop :=
  ∀ s ∈ siblings.takeWhile fun s => s.findAttribute "id" != some id, (s.findAttribute "id").isSome

/-- The siblings that are searched for an id. -/
def searched (siblings : List Element) (component : PathComponent) : List Element :=
  siblings.drop (if 0 ≤ component.index then 0 else siblings.length - 1)

/-- On every level that a path reaches, the siblings that are passed have an id where one is looked for. -/
def Passable : List PathComponent → List Node → Prop
  | [], _ => True
  | component :: pathList, nodes =>
    (component.attributeIDValue ≠ "" →
      IDsPresent component.attributeIDValue (searched (elementsNamed component.name nodes) component)) ∧
    ∀ j c, findComponent (elementsNamed component.name nodes) component = .ok (some j) →
      focus component.name j nodes = some c → Passable pathList c.element.children

theorem findByID_ok_iff (id : String) (siblings : List Element) (j : Nat) :
    (∃ r, findByID id siblings j = .ok r) ↔ IDsPresent id siblings := by
  induction siblings generalizing j with
  | nil => simp [findByID, IDsPresent]
  | cons s siblings ih =>
    unfold IDsPresent at ih ⊢
    cases hs : s.findAttribute "id" with
    | none => simp [findByID, hs]
    | some v =>
      by_cases hv : v = id
      · simp [findByID, hs, hv]
      · simp [findByID, hs, hv, ih (j + 1)]

theorem findByID_error {id : String} {siblings : List Element} {j : Nat} {t : Trap}
    (h : findByID id siblings j = .error t) : t = .nullPointer := by
  induction siblings generalizing j with
  | nil => cases h
  | cons s siblings ih =>
    rw [findByID] at h
    cases hs : s.findAttribute "id" with
    | none =>
      rw [hs] at h
      cases h
      rfl
    | some v =>
      rw [hs] at h
      dsimp only at h
      split at h
      · cases h
      · exact ih h

theorem findComponent_ok_iff (siblings : List Element) (component : PathComponent) :
    (∃ r, findComponent siblings component = .ok r) ↔
      (component.attributeIDValue ≠ "" → IDsPresent component.attributeIDValue (searched siblings component)) := by
  unfold findComponent
  split
  next hempty => simp [hempty]
  next hid =>
    rw [findByID_ok_iff]
    simp [hid, searched]

theorem findComponent_error {siblings : List Element} {component : PathComponent} {t : Trap}
    (h : findComponent siblings component = .error t) : t = .nullPointer := by
  unfold findComponent at h
  split at h
  · cases h
  · exact findByID_error h

theorem findPath_ok_iff (pathList : List PathComponent) (nodes : List Node) :
    (∃ r, findPath pathList nodes = .ok r) ↔ Passable pathList nodes := by
  induction pathList generalizing nodes with
  | nil => simp [findPath, Passable]
  | cons component pathList ih =>
    rw [Passable, ← findComponent_ok_iff, findPath]
    cases hfind : findComponent (elementsNamed component.name nodes) component with
    | error t => simp
    | ok found =>
      cases found with
      | none => simp
      | some j =>
        cases hfocus : focus component.name j nodes with
        | none =>
          simp only [hfocus, Except.ok.injEq, exists_eq', true_and, true_iff, Option.some.injEq]
          rintro j' c rfl hc
          rw [hfocus] at hc
          cases hc
        | some c =>
          have hrest : (∃ r, findPath pathList c.element.children = .ok r) ↔
              ∀ j' c', (.ok (some j) : Except Trap (Option Nat)) = .ok (some j') → focus component.name j' nodes = some c' →
                Passable pathList c'.element.children := by
            rw [ih]
            constructor
            · rintro hpassable j' c' hj' hc'
              cases hj'
              rw [hfocus] at hc'
              cases hc'
              exact hpassable
            · exact fun hall => hall j c rfl hfocus
          rw [← hrest]
          cases hpath : findPath pathList c.element.children with
          | error t => simp [hfocus, hpath]
          | ok rest => simp [hfocus, hpath]

theorem findPath_error {pathList : List PathComponent} {nodes : List Node} {t : Trap}
    (h : findPath pathList nodes = .error t) : t = .nullPointer := by
  induction pathList generalizing nodes with
  | nil => cases h
  | cons component pathList ih =>
    rw [findPath] at h
    cases hfind : findComponent (elementsNamed component.name nodes) component with
    | error t' =>
      rw [hfind] at h
      cases h
      exact findComponent_error hfind
    | ok found =>
      rw [hfind] at h
      cases found with
      | none => cases h
      | some j =>
        dsimp only at h
        cases hfocus : focus component.name j nodes with
        | none =>
          rw [hfocus] at h
          cases h
        | some c =>
          rw [hfocus] at h
          dsimp only at h
          cases hrest : findPath pathList c.element.children with
          | error t' =>
            rw [hrest] at h
            cases h
            exact ih hrest
          | ok rest =>
            rw [hrest] at h
            cases h

end Looking

section Items

/-- The path of an item can be followed in a document, wherever it ends. -/
def ItemPassable (itemEl : Element) (document : Document) : Prop :=
  ∀ pathList, parsePathList (itemEl.getAttributeValue "path") = some pathList → Passable pathList document

/-- Each item can be followed in the document that the items before it have made. -/
def ItemsPassable : List Element → Document → Prop
  | [], _ => True
  | itemEl :: items, document =>
    ItemPassable itemEl document ∧
      ∀ document', processItem itemEl document = .ok (some document') → ItemsPassable items document'

/-- The items were applied one after the other. -/
inductive Applied : List Element → Document → Document → Prop
  | nil (document : Document) : Applied [] document document
  | cons {itemEl : Element} {items : List Element} {document document' result : Document}
      (hitem : processItem itemEl document = .ok (some document')) (hitems : Applied items document' result) :
      Applied (itemEl :: items) document result

theorem processItem_ok_iff (itemEl : Element) (document : Document) :
    (∃ r, processItem itemEl document = .ok r) ↔ ItemPassable itemEl document := by
  unfold processItem ItemPassable
  cases parsePathList (itemEl.getAttributeValue "path") with
  | none => simp
  | some pathList =>
    simp only [Option.some.injEq, forall_eq', ← findPath_ok_iff]
    cases findPath pathList document with
    | error t => simp
    | ok found =>
      cases found with
      | none => simp
      | some pathElement =>
        simp only [Except.ok.injEq, exists_eq', iff_true]
        split
        · exact ⟨none, rfl⟩
        · exact ⟨_, rfl⟩

variable {document : Document} {t : Trap}

theorem processItem_error {itemEl : Element} (h : processItem itemEl document = .error t) : t = .nullPointer := by
  unfold processItem at h
  cases hpath : parsePathList (itemEl.getAttributeValue "path") with
  | none =>
    rw [hpath] at h
    cases h
  | some pathList =>
    rw [hpath] at h
    dsimp only at h
    cases hfind : findPath pathList document with
    | error t' =>
      rw [hfind] at h
      cases h
      exact findPath_error hfind
    | ok found =>
      rw [hfind] at h
      cases found with
      | none => cases h
      | some pathElement =>
        dsimp only at h
        split at h
        · cases h
        · cases h

theorem processItems_ok_iff (items : List Element) (document : Document) :
    (∃ r, processItems items document = .ok r) ↔ ItemsPassable items document := by
  induction items generalizing document with
  | nil => simp [processItems, ItemsPassable]
  | cons itemEl items ih =>
    rw [ItemsPassable, ← processItem_ok_iff, processItems]
    cases processItem itemEl document with
    | error t => simp
    | ok found =>
      cases found with
      | none => simp
      | some document' => simp [ih]

variable {items : List Element}

theorem processItems_error (h : processItems items document = .error t) : t = .nullPointer := by
  induction items generalizing document with
  | nil => cases h
  | cons itemEl items ih =>
    rw [processItems] at h
    cases hitem : processItem itemEl document with
    | error t' =>
      rw [hitem] at h
      cases h
      exact processItem_error hitem
    | ok found =>
      rw [hitem] at h
      cases found with
      | none => cases h
      | some document' => exact ih h

theorem applied_of_processItems {result : Document} (h : processItems items document = .ok (true, result)) :
    Applied items document result := by
  induction items generalizing document with
  | nil =>
    simp only [processItems, Except.ok.injEq, Prod.mk.injEq, true_and] at h
    exact h ▸ .nil document
  | cons itemEl items ih =>
    rw [processItems] at h
    cases hitem : processItem itemEl document with
    | error t =>
      rw [hitem] at h
      cases h
    | ok found =>
      rw [hitem] at h
      cases found with
      | none => simp at h
      | some document' => exact .cons hitem (ih h)

/-- What `process` goes through. -/
def itemsOf (diffDocument : Document) : List Element :=
  (elementsNamed "diff" diffDocument).head?.elim [] (·.childElements "item")

/-- Processing returns, having applied every item in order when it says so, exactly when each item finds an id on
every sibling it passes; otherwise it is a null pointer that is read. -/
theorem process_returns (originalDocument diffDocument : Document) :
    ((∃ success result, process originalDocument diffDocument = .ok (success, result) ∧
        (success = true → Applied (itemsOf diffDocument) originalDocument result)) ↔
      ItemsPassable (itemsOf diffDocument) originalDocument) ∧
    ∀ t, process originalDocument diffDocument = .error t → t = .nullPointer := by
  unfold process itemsOf
  cases (elementsNamed "diff" diffDocument).head? with
  | none => simp [ItemsPassable]
  | some diffElem =>
    simp only [Option.elim_some]
    rw [← processItems_ok_iff]
    constructor
    · constructor
      · rintro ⟨success, result, h, -⟩
        exact ⟨_, h⟩
      · rintro ⟨⟨success, result⟩, h⟩
        refine ⟨success, result, h, fun hsuccess => applied_of_processItems ?_⟩
        rw [h, hsuccess]
    · exact fun t h => processItems_error h

/-- A document whose second element has an id, and a difference that looks it up. -/
def untaggedDocument : Document :=
  [.element (Tag.create "item"), .element ((Tag.create "item").setAttribute "id" "a")]

def lookupDiff : Document :=
  [.element ⟨"diff", [], [.element (((Tag.create "item").setAttribute "do" "-").setAttribute "path" "/item[\"a\"]")]⟩]

/-- The first element has no id to compare. -/
theorem process_untagged : process untaggedDocument lookupDiff = .error .nullPointer := by
  rfl

end Items

end OpenPeer.Diff
