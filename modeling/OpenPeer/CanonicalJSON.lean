import Mathlib.Data.List.InsertIdx
import Mathlib.Data.String.Basic
import OpenPeer.StableSort
import OpenPeer.Xml

/-!
# The canonical form of a JSON element

A clone of the tree is walked from the top. On entering an element its children and its
attributes are taken out and put back one by one, an element before the first element
with a greater name, an attribute likewise, any other node behind the node that was put
back last.
-/
namespace OpenPeer

open Xml StableSort

namespace Helper

/-- Whether a child is an element that comes after the name. -/
def comesAfter (currentName : String) : Node → Bool
  | .element childEl => currentName < childEl.name
  | .text _ => false

/-- One turn of the loop over the children: the ones put back, and where the last one is. -/
def placeNode : List Node × Nat → Node → List Node × Nat
  | ([], _), currentNode => ([currentNode], 0)
  | (placed, lastInsert), .text value => (placed.insertIdx (lastInsert + 1) (.text value), lastInsert + 1)
  | (placed, _), .element currentEl =>
    match placed.findIdx? (comesAfter currentEl.name) with
    | some i => (placed.insertIdx i (.element currentEl), i)
    | none => (placed ++ [.element currentEl], placed.length)

def sortNodes (children : List Node) : List Node := (children.foldl placeNode ([], 0)).1

/-- One turn of the loop over the attributes. -/
def placeAttribute (placed : List (String × String)) (current : String × String) : List (String × String) :=
  match placed.findIdx? (fun child => current.1 < child.1) with
  | some i => placed.insertIdx i current
  | none => placed ++ [current]

def sortAttributes (attributes : List (String × String)) : List (String × String) := attributes.foldl placeAttribute []

def onElementEnter (inElement : Element) : Element :=
  { inElement with children := sortNodes inElement.children, attributes := sortAttributes inElement.attributes }

def mapElement (f : Element → Element) : Node → Node
  | .element e => .element (f e)
  | .text value => .text value

/-- Enter an element and then, in their new order, its children; down to a depth. -/
def walk : Nat → Element → Element
  | 0, e => e
  | depth + 1, e =>
    let e := onElementEnter e
    { e with children := e.children.map (mapElement (walk depth)) }

mutual

/-- The number of levels of elements. -/
def height : Element → Nat
  | ⟨_, _, children⟩ => heights children + 1

def heights : List Node → Nat
  | [] => 0
  | .element e :: ns => max (height e) (heights ns)
  | .text _ :: ns => heights ns

end

def cloneAsCanonicalJSON (element : Option Element) : Option Element :=
  element.map fun convertEl => walk (height convertEl) convertEl

section Sorting

/-- What is put before the first item that comes after it, or at the end, is inserted. -/
theorem insert_eq_insertIdx {α : Type} (key : α → String) (later : α → Bool) (placed : List α) (x : α)
    (hlater : ∀ y ∈ placed, later y = decide (key x < key y)) :
    insert key placed x = match placed.findIdx? later with
      | some i => placed.insertIdx i x
      | none => placed ++ [x] := by
  induction placed with
  | nil => simp
  | cons y placed ih =>
    have hy := hlater y List.mem_cons_self
    have hrest := ih fun z hz => hlater z (List.mem_cons_of_mem _ hz)
    by_cases hlt : key x < key y
    · simp [List.findIdx?_cons, hy, hlt]
    · rw [insert_cons, if_neg hlt, hrest, List.findIdx?_cons, hy, decide_eq_false hlt]
      cases placed.findIdx? later <;> simp

theorem placeAttribute_eq (placed : List (String × String)) (current : String × String) :
    placeAttribute placed current = insert Prod.fst placed current :=
  (insert_eq_insertIdx Prod.fst (fun child => current.1 < child.1) placed current fun _ _ => rfl).symm

theorem sortAttributes_eq (attributes : List (String × String)) : sortAttributes attributes = sort Prod.fst attributes := by
  unfold sortAttributes sort
  congr
  funext placed current
  exact placeAttribute_eq placed current

theorem placeNode_element {placed : List Node} (h : placed ≠ []) (lastInsert : Nat) (e : Element) :
    placeNode (placed, lastInsert) (.element e) = match placed.findIdx? (comesAfter e.name) with
      | some i => (placed.insertIdx i (.element e), i)
      | none => (placed ++ [.element e], placed.length) := by
  cases placed with
  | nil => exact absurd rfl h
  | cons p placed => rfl

theorem placeNode_text {placed : List Node} (h : placed ≠ []) (lastInsert : Nat) (value : String) :
    placeNode (placed, lastInsert) (.text value) =
      (placed.insertIdx (lastInsert + 1) (.text value), lastInsert + 1) := by
  cases placed with
  | nil => exact absurd rfl h
  | cons p placed => rfl

theorem placeNode_elements (placed : List Element) (lastInsert : Nat) (e : Element) :
    ∃ lastInsert', placeNode (placed.map .element, lastInsert) (.element e) =
      ((insert Tag.name placed e).map .element, lastInsert') := by
  by_cases hnone : placed = []
  · rw [hnone]
    exact ⟨0, rfl⟩
  · have hinsert := insert_eq_insertIdx Tag.name (fun c => comesAfter e.name (.element c)) placed e fun _ _ => rfl
    have hfind : (placed.map Node.element).findIdx? (comesAfter e.name) =
        placed.findIdx? fun c => comesAfter e.name (.element c) := by
      rw [List.findIdx?_map]
      rfl
    rw [placeNode_element (by simpa using hnone), hfind, hinsert]
    cases placed.findIdx? fun c => comesAfter e.name (.element c) with
    | none => exact ⟨_, by simp; rfl⟩
    | some i => exact ⟨i, by simp [List.map_insertIdx]⟩

theorem sortNodes_elements (es : List Element) : sortNodes (es.map .element) = (sort Tag.name es).map .element := by
  have hfold (placed : List Element) (lastInsert : Nat) :
      ((es.map Node.element).foldl placeNode (placed.map .element, lastInsert)).1 =
        (es.foldl (insert Tag.name) placed).map .element := by
    induction es generalizing placed lastInsert with
    | nil => rfl
    | cons e es ih =>
      obtain ⟨lastInsert', hplace⟩ := placeNode_elements placed lastInsert e
      rw [List.map_cons, List.foldl_cons, hplace, ih, List.foldl_cons]
  exact hfold [] 0

theorem foldl_texts (placed values : List String) (value : String) :
    ((values.map Node.text).foldl placeNode ((placed ++ [value]).map .text, placed.length)).1 =
      (placed ++ value :: values).map .text := by
  induction values generalizing placed value with
  | nil => rfl
  | cons v values ih =>
    have hend : placed.length + 1 = ((placed ++ [value]).map Node.text).length := by simp
    have hplace : placeNode ((placed ++ [value]).map .text, placed.length) (.text v) =
        (((placed ++ [value]) ++ [v]).map .text, (placed ++ [value]).length) := by
      rw [placeNode_text (by simp), hend, List.insertIdx_length_self]
      simp
    rw [List.map_cons, List.foldl_cons, hplace, ih, List.append_assoc]
    rfl

theorem sortNodes_texts (values : List String) : sortNodes (values.map .text) = values.map .text := by
  cases values with
  | nil => rfl
  | cons v values => exact foldl_texts [] values v

end Sorting

section Walking

/-- No element mixes text with child elements. -/
inductive Unmixed : Element → Prop where
  | texts (name : String) (attributes : List (String × String)) (values : List String) :
    Unmixed ⟨name, attributes, values.map .text⟩
  | elements (name : String) (attributes : List (String × String)) (es : List Element)
    (h : ∀ e ∈ es, Unmixed e) : Unmixed ⟨name, attributes, es.map .element⟩

/-- The canonical form, as deep as the element is. -/
def canonical (e : Element) : Element := walk (height e) e

variable (e : Element)

theorem cloneAsCanonicalJSON_some : cloneAsCanonicalJSON (some e) = some (canonical e) := rfl

variable (name : String)

variable (attributes : List (String × String))

theorem height_mk (children : List Node) : height ⟨name, attributes, children⟩ = heights children + 1 := by
  rw [height]

variable {es : List Element}

theorem height_lt {e : Element} (h : e ∈ es) : height e < height ⟨name, attributes, es.map .element⟩ := by
  have hmem : height e ≤ heights (es.map .element) := by
    induction es with
    | nil => cases h
    | cons d es ih =>
      rw [List.map_cons, heights]
      cases h with
      | head => exact Nat.le_max_left _ _
      | tail _ h => exact Nat.le_trans (ih h) (Nat.le_max_right _ _)
  rw [height_mk name attributes]
  omega

variable (depth : Nat)

theorem walk_texts (name : String) (attributes : List (String × String)) (values : List String) :
    walk (depth + 1) ⟨name, attributes, values.map .text⟩ = ⟨name, sort Prod.fst attributes, values.map .text⟩ := by
  simp only [walk, onElementEnter, sortNodes_texts, sortAttributes_eq, List.map_map]
  rfl

theorem walk_elements (name : String) (attributes : List (String × String)) (es : List Element) :
    walk (depth + 1) ⟨name, attributes, es.map .element⟩ =
      ⟨name, sort Prod.fst attributes, ((sort Tag.name es).map (walk depth)).map .element⟩ := by
  simp only [walk, onElementEnter, sortNodes_elements, sortAttributes_eq, List.map_map]
  rfl

theorem walk_deeper {e : Element} (h : Unmixed e) (depth : Nat) (hdepth : height e ≤ depth) :
    walk depth e = canonical e := by
  induction h generalizing depth with
  | texts name attributes values =>
    have hpos : ∃ d, depth = d + 1 := ⟨depth - 1, by rw [height_mk] at hdepth; omega⟩
    obtain ⟨d, rfl⟩ := hpos
    rw [canonical, height_mk, walk_texts, walk_texts]
  | elements name attributes es h ih =>
    have hpos : ∃ d, depth = d + 1 := ⟨depth - 1, by rw [height_mk] at hdepth; omega⟩
    obtain ⟨d, rfl⟩ := hpos
    rw [canonical, height_mk, walk_elements, walk_elements]
    congr 2
    apply List.map_congr_left
    intro e he
    have hmem := (perm_sort es).mem_iff.mp he
    have hlt := height_lt name attributes hmem
    rw [ih e hmem d (by omega), ih e hmem _ (by rw [height_mk name attributes] at hlt; omega)]

theorem canonical_texts (values : List String) :
    canonical ⟨name, attributes, values.map .text⟩ = ⟨name, sort Prod.fst attributes, values.map .text⟩ := by
  rw [canonical, height_mk name attributes, walk_texts]

theorem canonical_elements (h : ∀ e ∈ es, Unmixed e) :
    canonical ⟨name, attributes, es.map .element⟩ =
      ⟨name, sort Prod.fst attributes, ((sort Tag.name es).map canonical).map .element⟩ := by
  rw [canonical, height_mk name attributes, walk_elements]
  congr 2
  apply List.map_congr_left
  intro e he
  have hmem := (perm_sort es).mem_iff.mp he
  have hlt := height_lt name attributes hmem
  exact walk_deeper (h e hmem) _ (by rw [height_mk name attributes] at hlt; omega)

@[simp] theorem walk_name (e : Element) : (walk depth e).name = e.name := by
  cases depth <;> rfl

@[simp] theorem canonical_name : (canonical e).name = e.name := walk_name _ e

end Walking

section Order

/-- Two trees differ by the order of differently named siblings and attributes only. -/
inductive Reordered : Element → Element → Prop where
  | refl (e : Element) : Reordered e e
  | trans {e f g : Element} (hef : Reordered e f) (hfg : Reordered f g) : Reordered e g
  | attributes (name : String) {as bs : List (String × String)} (children : List Node)
    (h : Rearranged Prod.fst as bs) : Reordered ⟨name, as, children⟩ ⟨name, bs, children⟩
  | siblings (name : String) (attributes : List (String × String)) {es fs : List Element}
    (h : Rearranged Tag.name es fs) :
    Reordered ⟨name, attributes, es.map .element⟩ ⟨name, attributes, fs.map .element⟩
  | inside (name : String) (attributes : List (String × String)) (before : List Element) {e f : Element}
    (after : List Element) (h : Reordered e f) :
    Reordered ⟨name, attributes, (before ++ e :: after).map .element⟩
      ⟨name, attributes, (before ++ f :: after).map .element⟩

variable {name : String}

theorem unmixed_elements {attributes : List (String × String)} {es : List Element}
    (h : Unmixed ⟨name, attributes, es.map .element⟩) : ∀ e ∈ es, Unmixed e := by
  generalize htag : (⟨name, attributes, es.map .element⟩ : Element) = tag at h
  cases h with
  | texts name' attributes' values =>
    obtain ⟨-, -, hchildren⟩ := Tag.mk.inj htag
    cases es with
    | nil => exact fun e he => absurd he List.not_mem_nil
    | cons e es =>
      cases values with
      | nil => cases hchildren
      | cons value values => cases (List.cons.inj hchildren).1
  | elements name' attributes' es' h =>
    obtain ⟨-, -, hchildren⟩ := Tag.mk.inj htag
    have hsame := List.map_injective_iff.mpr (fun _ _ heq => Node.element.inj heq) hchildren
    rw [hsame]
    exact h

variable {as : List (String × String)} {children : List Node}

theorem unmixed_attributes (bs : List (String × String)) (h : Unmixed ⟨name, as, children⟩) :
    Unmixed ⟨name, bs, children⟩ := by
  cases h with
  | texts name as values => exact .texts name bs values
  | elements name as es h => exact .elements name bs es h

theorem canonical_attributes {bs : List (String × String)} (h : Unmixed ⟨name, as, children⟩)
    (hsame : Rearranged Prod.fst as bs) : canonical ⟨name, as, children⟩ = canonical ⟨name, bs, children⟩ := by
  have hsort := (sort_eq_iff as bs).mpr hsame
  cases h with
  | texts name as values => rw [canonical_texts, canonical_texts, hsort]
  | elements name as es h => rw [canonical_elements name as h, canonical_elements name bs h, hsort]

variable {e : Element}

/-- Trees that differ so have one canonical form. -/
theorem Reordered.canonical_eq {f : Element} (h : Reordered e f) (hunmixed : Unmixed e) :
    Unmixed f ∧ canonical e = canonical f := by
  induction h with
  | refl e => exact ⟨hunmixed, rfl⟩
  | trans _ _ ihef ihfg =>
    obtain ⟨hf, hef⟩ := ihef hunmixed
    obtain ⟨hg, hfg⟩ := ihfg hf
    exact ⟨hg, hef.trans hfg⟩
  | attributes name children hsame =>
    exact ⟨unmixed_attributes _ hunmixed, canonical_attributes hunmixed hsame⟩
  | siblings name attributes hsame =>
    have hes := unmixed_elements hunmixed
    have hfs := fun e he => hes e ((hsame.mem_iff e).mpr he)
    refine ⟨.elements name attributes _ hfs, ?_⟩
    rw [canonical_elements name attributes hes, canonical_elements name attributes hfs,
      (sort_eq_iff _ _).mpr hsame]
  | @inside name attributes before e f after hef ih =>
    have hes := unmixed_elements hunmixed
    obtain ⟨hf, heq⟩ := ih (hes e (by simp))
    have hfs : ∀ x ∈ before ++ f :: after, Unmixed x := by
      intro x hx
      rcases List.mem_append.mp hx with hx | hx
      · exact hes x (List.mem_append_left _ hx)
      · cases hx with
        | head => exact hf
        | tail _ hx => exact hes x (List.mem_append_right _ (List.mem_cons_of_mem _ hx))
    have hmap : (before ++ e :: after).map canonical = (before ++ f :: after).map canonical := by
      simp [heq]
    refine ⟨.elements name attributes _ hfs, ?_⟩
    rw [canonical_elements name attributes hes, canonical_elements name attributes hfs,
      ← sort_map canonical canonical_name, ← sort_map canonical canonical_name, hmap]

theorem Reordered.insides (name : String) (attributes : List (String × String)) (f : Element → Element)
    (es : List Element) (h : ∀ e ∈ es, Reordered e (f e)) (before : List Element) :
    Reordered ⟨name, attributes, (before ++ es).map .element⟩ ⟨name, attributes, (before ++ es.map f).map .element⟩ := by
  induction es generalizing before with
  | nil => exact .refl _
  | cons e es ih =>
    apply Reordered.trans (.inside name attributes before es (h e List.mem_cons_self))
    have hrest := ih (fun d hd => h d (List.mem_cons_of_mem _ hd)) (before ++ [f e])
    simpa using hrest

/-- A tree and its canonical form differ by the order of differently named siblings only. -/
theorem reordered_canonical (h : Unmixed e) : Reordered e (canonical e) := by
  induction h with
  | texts name attributes values =>
    rw [canonical_texts]
    exact .attributes name _ (rearranged_sort attributes).symm
  | elements name attributes es h ih =>
    rw [canonical_elements name attributes h]
    apply Reordered.trans (.attributes name _ (rearranged_sort attributes).symm)
    apply Reordered.trans (.siblings name _ (rearranged_sort es).symm)
    have hinside := Reordered.insides name (sort Prod.fst attributes) canonical (sort Tag.name es)
      (fun e he => ih e ((perm_sort es).mem_iff.mp he)) []
    simpa using hinside

/-- What a clone has of an element: its name, its attributes and its texts, and its child elements
in their own canonical form, those of one name in their order. -/
structure Keeps (e c : Element) : Prop where
  name : c.name = e.name
  attributes : c.attributes.Perm e.attributes
  sameAttribute : ∀ name, c.attributes.filter (·.1 = name) = e.attributes.filter (·.1 = name)
  children : c.children.Perm (e.children.map (mapElement canonical))
  sameName : ∀ name, c.childElements name = (e.childElements name).map canonical
  text : c.getText = e.getText

theorem elementsNamed_map_element (name : String) (es : List Element) :
    elementsNamed name (es.map .element) = es.filter (·.name = name) := by
  induction es with
  | nil => rfl
  | cons e es ih =>
    rw [List.map_cons, elementsNamed_element, ih]
    by_cases hname : e.name = name <;> simp [hname]

theorem textOf_map_element (es : List Element) : textOf (es.map .element) = "" := by
  induction es with
  | nil => rfl
  | cons e es ih => simpa [textOf] using ih

theorem keeps_canonical (h : Unmixed e) : Keeps e (canonical e) := by
  cases h with
  | texts name attributes values =>
    have hnone (name : String) : elementsNamed name (values.map .text) = [] := by
      induction values with
      | nil => rfl
      | cons value values ih => exact ih
    rw [canonical_texts]
    constructor
    · rfl
    · exact perm_sort attributes
    · exact rearranged_sort attributes
    · rw [List.map_map]
      exact List.Perm.refl _
    · intro name
      simp [Tag.childElements, hnone]
    · rfl
  | elements name attributes es h =>
    have hsorted : Rearranged Tag.name (sort Tag.name es) es := rearranged_sort es
    rw [canonical_elements name attributes h]
    constructor
    · rfl
    · exact perm_sort attributes
    · exact rearranged_sort attributes
    · rw [List.map_map, List.map_map]
      exact (perm_sort es).map _
    · intro name
      have hcomp : ((fun e : Element => decide (e.name = name)) ∘ canonical) = fun e => decide (e.name = name) := by
        funext e
        simp
      simp only [Tag.childElements, elementsNamed_map_element]
      rw [List.filter_map, hcomp, hsorted name]
    · simp only [Tag.getText, textOf_map_element]

/-- Cloning gives one form for all trees that differ by the order of differently named siblings and
attributes, keeps what they have, and is finished after one turn. -/
theorem canonical_json (e : Element) (h : Unmixed e) :
    ∃ c, cloneAsCanonicalJSON (some e) = some c ∧ Keeps e c ∧ cloneAsCanonicalJSON (some c) = some c ∧
      ∀ f, Reordered e f → cloneAsCanonicalJSON (some f) = some c := by
  refine ⟨canonical e, cloneAsCanonicalJSON_some e, keeps_canonical h, ?_, fun f hf => ?_⟩
  · rw [cloneAsCanonicalJSON_some, ← ((reordered_canonical h).canonical_eq h).2]
  · rw [cloneAsCanonicalJSON_some, ← (hf.canonical_eq h).2]

theorem canonical_json_pair : ∃ c,
    cloneAsCanonicalJSON (some ⟨"key", [("id", "1")], [.element ⟨"b", [], []⟩, .element ⟨"a", [], []⟩]⟩) = some c ∧
      cloneAsCanonicalJSON (some c) = some c := by
  have hunmixed : Unmixed ⟨"key", [("id", "1")], [⟨"b", [], []⟩, ⟨"a", [], []⟩].map .element⟩ := by
    apply Unmixed.elements
    intro e he
    have hempty : e = ⟨"b", [], ([] : List String).map .text⟩ ∨ e = ⟨"a", [], ([] : List String).map .text⟩ := by
      simpa using he
    rcases hempty with rfl | rfl
    · exact .texts _ _ _
    · exact .texts _ _ _
  obtain ⟨c, hclone, -, hagain, -⟩ := canonical_json _ hunmixed
  exact ⟨c, hclone, hagain⟩

end Order

end Helper

end OpenPeer
