import Mathlib.Data.List.Basic

/-!
# Trees of named elements

An element has a name, attributes in order and child nodes in order; a node is an
element or a text. An element is pointed at from the top, level by level, by its
name and its number among the siblings of that name.
-/
namespace Xml

/-- An element over child nodes of type `α`. -/
structure Tag (α : Type) where
  name : String
  attributes : List (String × String)
  children : List α

/-- A node of a document. -/
inductive Node where
  | element (e : Tag Node)
  | text (value : String)

abbrev Element := Tag Node

/-- The nodes at the top of a document, in order. -/
abbrev Document := List Node

section Attributes

/-- An attribute takes its new value where it stands, or is added at the end. -/
def putAttribute (name value : String) : List (String × String) → List (String × String)
  | [] => [(name, value)]
  | a :: as => if a.1 = name then (name, value) :: as else a :: putAttribute name value as

variable {α : Type}

def Tag.create (name : String) : Tag α := ⟨name, [], []⟩

def Tag.findAttribute (e : Tag α) (name : String) : Option String := e.attributes.lookup name

def Tag.getAttributeValue (e : Tag α) (name : String) : String := (e.findAttribute name).getD ""

def Tag.setAttribute (e : Tag α) (name value : String) : Tag α :=
  { e with attributes := putAttribute name value e.attributes }

def Tag.deleteAttribute (e : Tag α) (name : String) : Tag α :=
  { e with attributes := e.attributes.filter (·.1 ≠ name) }

def Tag.adoptAsFirstChild (e : Tag α) (n : α) : Tag α := { e with children := n :: e.children }

def Tag.adoptAsLastChild (e : Tag α) (n : α) : Tag α := { e with children := e.children ++ [n] }

theorem foldl_adoptAsLastChild (e : Tag α) (ns : List α) :
    ns.foldl Tag.adoptAsLastChild e = { e with children := e.children ++ ns } := by
  induction ns generalizing e with
  | nil => simp
  | cons n ns ih => simp [ih, Tag.adoptAsLastChild]

end Attributes

section Siblings

/-- The elements called `name` among some nodes, in order. -/
def elementsNamed (name : String) : List Node → List Element
  | [] => []
  | .element e :: ns => if e.name = name then e :: elementsNamed name ns else elementsNamed name ns
  | .text _ :: ns => elementsNamed name ns

/-- The text among some nodes. -/
def textOf : List Node → String
  | [] => ""
  | .element _ :: ns => textOf ns
  | .text value :: ns => value ++ textOf ns

def Tag.childElements (e : Element) (name : String) : List Element := elementsNamed name e.children

def Tag.findFirstChildElement (e : Element) (name : String) : Option Element := (e.childElements name).head?

def Tag.findLastChildElement (e : Element) (name : String) : Option Element := (e.childElements name).getLast?

def Tag.getText (e : Element) : String := textOf e.children

@[simp] theorem elementsNamed_nil (name : String) : elementsNamed name [] = [] := rfl

@[simp] theorem elementsNamed_element (name : String) (e : Element) (ns : List Node) :
    elementsNamed name (.element e :: ns) = if e.name = name then e :: elementsNamed name ns else elementsNamed name ns := rfl

@[simp] theorem elementsNamed_text (name value : String) (ns : List Node) :
    elementsNamed name (.text value :: ns) = elementsNamed name ns := rfl

@[simp] theorem elementsNamed_append (name : String) (ns ms : List Node) :
    elementsNamed name (ns ++ ms) = elementsNamed name ns ++ elementsNamed name ms := by
  induction ns with
  | nil => rfl
  | cons n ns ih =>
    cases n with
    | text value => exact ih
    | element e => simp only [List.cons_append, elementsNamed_element, ih]; split <;> rfl

theorem elementsNamed_map {α : Type} (name : String) {as : List α} {f : α → Element} (h : ∀ a ∈ as, (f a).name = name) :
    elementsNamed name (as.map fun a => .element (f a)) = as.map f := by
  induction as with
  | nil => rfl
  | cons a as ih =>
    rw [List.map_cons, elementsNamed_element, if_pos (h a List.mem_cons_self),
      ih fun a' ha' => h a' (List.mem_cons_of_mem _ ha'), List.map_cons]

theorem name_of_mem_elementsNamed {name : String} {ns : List Node} {e : Element} (h : e ∈ elementsNamed name ns) :
    e.name = name := by
  induction ns with
  | nil => cases h
  | cons n ns ih =>
    cases n with
    | text value => exact ih h
    | element e' =>
      rw [elementsNamed_element] at h
      split at h
      case isTrue hname =>
        rcases List.mem_cons.mp h with rfl | h
        · exact hname
        · exact ih h
      case isFalse => exact ih h

end Siblings

section Places

/-- An element between its siblings. -/
structure Cursor where
  before : List Node
  element : Element
  after : List Node

/-- The siblings, with the element among them. -/
def Cursor.nodes (c : Cursor) : List Node := c.before ++ .element c.element :: c.after

def Cursor.adoptAsPreviousSibling (c : Cursor) (n : Node) : Cursor := { c with before := c.before ++ [n] }

def Cursor.adoptAsNextSibling (c : Cursor) (n : Node) : Cursor := { c with after := n :: c.after }

def Cursor.adoptAsFirstChild (c : Cursor) (n : Node) : Cursor := { c with element := c.element.adoptAsFirstChild n }

def Cursor.adoptAsLastChild (c : Cursor) (n : Node) : Cursor := { c with element := c.element.adoptAsLastChild n }

/-- The siblings that stay when the element is taken out. -/
def Cursor.orphan (c : Cursor) : List Node := c.before ++ c.after

def Cursor.skip (n : Node) (c : Cursor) : Cursor := { c with before := n :: c.before }

/-- The element with number `j` among those called `name`, between its siblings. -/
def focus (name : String) : Nat → List Node → Option Cursor
  | _, [] => none
  | j, .text value :: ns => (focus name j ns).map (.skip (.text value))
  | j, .element e :: ns =>
    if e.name = name then
      match j with
      | 0 => some ⟨[], e, ns⟩
      | j + 1 => (focus name j ns).map (.skip (.element e))
    else (focus name j ns).map (.skip (.element e))

/-- The way from the top of a document to an element. -/
abbrev Address := List (String × Nat)

/-- The element at the address, between its siblings. -/
def cursorAt : Address → List Node → Option Cursor
  | [], _ => none
  | [(name, j)], ns => focus name j ns
  | (name, j) :: next :: rest, ns => (focus name j ns).bind fun c => cursorAt (next :: rest) c.element.children

/-- The siblings of the element at the address are replaced by what `f` makes of them. -/
def editAt (f : Cursor → List Node) : Address → List Node → Option (List Node)
  | [], _ => none
  | [(name, j)], ns => (focus name j ns).map f
  | (name, j) :: next :: rest, ns =>
    (focus name j ns).bind fun c =>
      (editAt f (next :: rest) c.element.children).map fun children =>
        Cursor.nodes { c with element := { c.element with children := children } }

theorem focus_nodes (c : Cursor) : focus c.element.name (elementsNamed c.element.name c.before).length c.nodes = some c := by
  obtain ⟨before, e, after⟩ := c
  induction before with
  | nil => simp [Cursor.nodes, focus]
  | cons n ns ih =>
    have hrest : focus e.name (elementsNamed e.name ns).length (ns ++ .element e :: after) = some ⟨ns, e, after⟩ := ih
    cases n with
    | text value => simp only [Cursor.nodes, List.cons_append, focus, elementsNamed_text, hrest]; rfl
    | element e' =>
      simp only [Cursor.nodes, List.cons_append, elementsNamed_element]
      by_cases hname : e'.name = e.name
      · simp only [focus, hname, if_true, List.length_cons, hrest]; rfl
      · simp only [focus, hname, if_false, hrest]; rfl

theorem focus_eq_some {name : String} {j : Nat} {ns : List Node} {c : Cursor} (h : focus name j ns = some c) :
    c.nodes = ns ∧ c.element.name = name ∧ (elementsNamed name c.before).length = j := by
  induction ns generalizing j c with
  | nil => simp [focus] at h
  | cons n ns ih =>
    cases n with
    | text value =>
      obtain ⟨c', hc', rfl⟩ := Option.map_eq_some_iff.mp h
      obtain ⟨hnodes, hname, hj⟩ := ih hc'
      exact ⟨congrArg (Node.text value :: ·) hnodes, hname, hj⟩
    | element e =>
      by_cases hsame : e.name = name
      · cases j with
        | zero =>
          simp only [focus, hsame, if_true, Option.some.injEq] at h
          exact h ▸ ⟨rfl, hsame, rfl⟩
        | succ j =>
          simp only [focus, hsame, if_true] at h
          obtain ⟨c', hc', rfl⟩ := Option.map_eq_some_iff.mp h
          obtain ⟨hnodes, hname, hj⟩ := ih hc'
          refine ⟨congrArg (Node.element e :: ·) hnodes, hname, ?_⟩
          simpa [Cursor.skip, hsame] using hj
      · simp only [focus, hsame, if_false] at h
        obtain ⟨c', hc', rfl⟩ := Option.map_eq_some_iff.mp h
        obtain ⟨hnodes, hname, hj⟩ := ih hc'
        refine ⟨congrArg (Node.element e :: ·) hnodes, hname, ?_⟩
        simpa [Cursor.skip, hsame] using hj

end Places

section Equality

mutual

/-- Whether two elements are the same in all they are made of. -/
def sameElement : Element → Element → Bool
  | ⟨name, attributes, children⟩, ⟨name', attributes', children'⟩ =>
    name == name' && attributes == attributes' && sameNodes children children'

def sameNodes : List Node → List Node → Bool
  | [], [] => true
  | .element e :: ns, .element e' :: ns' => sameElement e e' && sameNodes ns ns'
  | .text value :: ns, .text value' :: ns' => value == value' && sameNodes ns ns'
  | _, _ => false

end

mutual

theorem sameElement_iff (e e' : Element) : sameElement e e' = true ↔ e = e' := by
  obtain ⟨name, attributes, children⟩ := e
  obtain ⟨name', attributes', children'⟩ := e'
  simp [sameElement, sameNodes_iff children children', and_assoc]

theorem sameNodes_iff (ns ns' : List Node) : sameNodes ns ns' = true ↔ ns = ns' := by
  match ns, ns' with
  | [], [] => simp [sameNodes]
  | [], .element _ :: _ => simp [sameNodes]
  | [], .text _ :: _ => simp [sameNodes]
  | .element _ :: _, [] => simp [sameNodes]
  | .text _ :: _, [] => simp [sameNodes]
  | .element e :: ns, .element e' :: ns' => simp [sameNodes, sameElement_iff e e', sameNodes_iff ns ns']
  | .text value :: ns, .text value' :: ns' => simp [sameNodes, sameNodes_iff ns ns']
  | .element _ :: _, .text _ :: _ => simp [sameNodes]
  | .text _ :: _, .element _ :: _ => simp [sameNodes]

end

instance : DecidableEq (List Node) := fun ns ns' => decidable_of_iff _ (sameNodes_iff ns ns')

end Equality

end Xml
