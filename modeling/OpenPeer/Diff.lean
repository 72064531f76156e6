import OpenPeer.Xml
import OpenPeer.Numeric

/-!
# Difference documents

A change of a document is an item of a difference document: the path of an element as
text, what to do there, and new nodes. `createDiffs` writes an item for an element it
points at, `process` looks each path up in the document it is applied to.
-/
namespace OpenPeer

open Xml

/-- How a call ends when it does not return. -/
inductive Trap where
  | thrown
  | nullPointer
  | hangs
  deriving DecidableEq

namespace Diff

/-- `IDiff::DiffActions` -/
inductive DiffActions where
  | none
  | replace
  | adoptAsPreviousSibling
  | adoptAsNextSibling
  | adoptAsFistChild
  | adoptAsLastChild
  | remove
  deriving DecidableEq

def toActionString : DiffActions → String
  | .none => ""
  | .replace => "."
  | .adoptAsPreviousSibling => "^"
  | .adoptAsNextSibling => "v"
  | .adoptAsFistChild => "fc"
  | .adoptAsLastChild => "lc"
  | .remove => "-"

/-- From `DiffAction_First` to `DiffAction_Last`, so without `none`. -/
def actions : List DiffActions :=
  [.replace, .adoptAsPreviousSibling, .adoptAsNextSibling, .adoptAsFistChild, .adoptAsLastChild, .remove]

def toAction (str : String) : DiffActions := (actions.find? fun a => str = toActionString a).getD .none

/-- The element's name, the id it is looked up by when not empty, and its number. -/
structure PathComponent where
  name : String
  attributeIDValue : String
  index : Int
  deriving DecidableEq

section ParsePathList

/-- The bound of `Index`, an `int`. -/
def indexBound : Nat := 2 ^ 31

/-- What stands in the brackets. -/
def parseIndex (name indexStr : List Char) : Option PathComponent :=
  let indexStr := if indexStr = [] then ['-', '1'] else indexStr
  if indexStr.head? = some '"' ∧ indexStr.getLast? = some '"' ∧ 1 < indexStr.length then
    some ⟨String.ofList name, String.ofList indexStr.tail.dropLast, 0⟩
  else (Numeric.signed indexBound indexStr).map (⟨String.ofList name, "", ·⟩)

/-- One part of a path between slashes. -/
def parseComponent (subPath : List Char) : Option PathComponent :=
  let bracketOpenPos := subPath.idxOf '['
  let bracketClosePos := subPath.idxOf ']'
  if bracketOpenPos = subPath.length then some ⟨String.ofList subPath, "", 0⟩
  else if bracketClosePos = subPath.length then none
  else if bracketClosePos < bracketOpenPos then none
  else parseIndex (subPath.take bracketOpenPos) ((subPath.take bracketClosePos).drop (bracketOpenPos + 1))

/-- Empty parts are left out; a part without a name is the last one looked at. -/
def parseComponents : List (List Char) → Option (List PathComponent)
  | [] => some []
  | [] :: subPaths => parseComponents subPaths
  | subPath :: subPaths =>
    (parseComponent subPath).bind fun component =>
      if component.name = "" then some [] else (parseComponents subPaths).map (component :: ·)

def parsePathList (inPath : String) : Option (List PathComponent) := parseComponents (inPath.toList.splitOn '/')

end ParsePathList

section FindPath

/-- The id is read off each element, whether it has one or not. -/
def findByID (attributeIDName : String) : List Element → Nat → Except Trap (Option Nat)
  | [], _ => .ok none
  | e :: es, j =>
    match e.findAttribute "id" with
    | none => .error .nullPointer
    | some attributeID => if attributeID = attributeIDName then .ok (some j) else findByID attributeIDName es (j + 1)

/-- From the first on, or back from the last; `-1` is the last one. -/
def findByIndex (count : Nat) (index : Int) : Option Nat :=
  let steps := if index = -1 then 0 else index.natAbs
  if steps < count then some (if 0 ≤ index then steps else count - 1 - steps) else none

def findComponent (siblings : List Element) (component : PathComponent) : Except Trap (Option Nat) :=
  if component.attributeIDValue = "" then .ok (findByIndex siblings.length component.index)
  else
    -- a negative number starts at the last element, with an id too
    let first := if 0 ≤ component.index then 0 else siblings.length - 1
    findByID component.attributeIDValue (siblings.drop first) first

/-- The address of the element a path leads to. -/
def findPath : List PathComponent → List Node → Except Trap (Option Address)
  | [], _ => .ok (some [])
  | component :: components, nodes =>
    match findComponent (elementsNamed component.name nodes) component with
    | .error t => .error t
    | .ok none => .ok none
    | .ok (some j) =>
      match focus component.name j nodes with
      | none => .ok none
      | some c =>
        match findPath components c.element.children with
        | .error t => .error t
        | .ok rest => .ok (rest.map ((component.name, j) :: ·))

end FindPath

section Create

/-- `outDiffEl` of `createDiffDocument` takes the item as its last child. -/
def adoptItem (ioDiffDocument : Option Document) (itemEl : Element) : Except Trap Document :=
  match ioDiffDocument with
  | none => .ok [.element ((Tag.create "diff").adoptAsLastChild (.element itemEl))]
  | some document =>
    match focus "diff" ((elementsNamed "diff" document).length - 1) document with
    | none => .error .nullPointer
    | some c => .ok (c.adoptAsLastChild (.element itemEl)).nodes

/-- The loop over the previous siblings: a sibling with the element's own id that has one
more before it is never left, for `continue` comes before `prevSibling` is moved on. -/
def scanPrevious (id : String) : List Element → Nat → Bool → Except Trap (Nat × Bool)
  | [], index, foundOtherWithID => .ok (index, foundOtherWithID)
  | prevSibling :: before, index, foundOtherWithID =>
    if foundOtherWithID then .error .hangs
    else scanPrevious id before (index + 1) (prevSibling.getAttributeValue "id" = id)

/-- What one element adds to the path; `previous` has the nearest sibling first. -/
def subPathStr (previous next : List Element) (path : Element) : Except Trap String :=
  let id := path.getAttributeValue "id"
  match scanPrevious id previous 0 false with
  | .error t => .error t
  | .ok (index, foundOtherWithID) =>
    let foundOtherWithID := foundOtherWithID || next.any fun s => s.getAttributeValue "id" = id
    .ok (if previous.isEmpty ∧ next.isEmpty then path.name
      else if foundOtherWithID then path.name ++ "[" ++ toString index ++ "]"
      else if '"' ∉ id.toList ∧ '\'' ∉ id.toList then path.name ++ "[\"" ++ id ++ "\"]"
      else path.name ++ "[" ++ toString index ++ "]")

/-- The path of the element at an address. -/
def pathStr : Address → List Node → Except Trap String
  | [], _ => .ok ""
  | (name, j) :: rest, nodes =>
    match focus name j nodes with
    | none => .error .nullPointer
    | some c =>
      match pathStr rest c.element.children,
          subPathStr (elementsNamed name c.before).reverse (elementsNamed name c.after) c.element with
      | .ok result, .ok subPath => .ok ("/" ++ subPath ++ result)
      | .error t, _ => .error t
      | _, .error t => .error t

def createDiffXDElement (document : Document) (path : Address) (action : String) : Except Trap Element :=
  (pathStr path document).map fun result =>
    ((Tag.create "item").setAttribute "do" action).setAttribute "path" result

/-- What `modifyElementNow` does to the element while the item is written. -/
def modifyElement (action : DiffActions) (holder : List Node) (c : Cursor) : List Node :=
  match action with
  | .none => c.nodes
  | .replace => (holder.reverse.foldl Cursor.adoptAsPreviousSibling c).orphan
  | .adoptAsPreviousSibling => (holder.reverse.foldl Cursor.adoptAsPreviousSibling c).nodes
  | .adoptAsNextSibling => (holder.reverse.foldl Cursor.adoptAsNextSibling c).nodes
  | .adoptAsFistChild => (holder.foldl Cursor.adoptAsLastChild c).nodes
  | .adoptAsLastChild => (holder.foldl Cursor.adoptAsFirstChild c).nodes
  | .remove => c.orphan

/-- The difference document with the new item, and the document the element is in. -/
def createItem (action : DiffActions) (ioDiffDocument : Option Document) (document : Document) (path : Address)
    (modifyElementNow : Bool) (holder : List Node) : Except Trap (Option Document × Document) :=
  match createDiffXDElement document path (toActionString action) with
  | .error t => .error t
  | .ok itemEl =>
    let modified := if modifyElementNow then (editAt (modifyElement action holder) path document).getD document
      else document
    match adoptItem ioDiffDocument (holder.foldl Tag.adoptAsLastChild itemEl) with
    | .error t => .error t
    | .ok diffDocument => .ok (some diffDocument, modified)

def createDiffs (action : DiffActions) (ioDiffDocument : Option Document) (document : Document) (path : Address)
    (modifyElementNow : Bool) (newNode : Option Node) (useChilrenOfNewNode : Bool) :
    Except Trap (Option Document × Document) :=
  match action, newNode with
  | .remove, _ => createItem .remove ioDiffDocument document path modifyElementNow []
  | .replace, none => createItem .remove ioDiffDocument document path modifyElementNow []
  | _, none => .ok (ioDiffDocument, document)
  | action, some node =>
    if useChilrenOfNewNode then
      match node with
      | .text _ => .error .thrown
      | .element holder =>
        if holder.children.isEmpty then .ok (ioDiffDocument, document)
        else createItem action ioDiffDocument document path modifyElementNow holder.children
    else createItem action ioDiffDocument document path modifyElementNow [node]

/-- The attributes that are to be set: the element `set` of the item, and the element modified. -/
def setAttributes (modifyElementNow : Bool) : List (String × String) → Element → Element → Element × Element
  | [], setEl, element => (setEl, element)
  | (name, value) :: attributes, setEl, element =>
    if element.findAttribute name = some value then setAttributes modifyElementNow attributes setEl element
    else setAttributes modifyElementNow attributes (setEl.setAttribute name value)
      (if modifyElementNow then element.setAttribute name value else element)

/-- The attributes that are to be removed: the element `remove` of the item, and the element modified. -/
def removeAttributes (modifyElementNow : Bool) : List (String × String) → Element → Element → Element × Element
  | [], removeEl, element => (removeEl, element)
  | (name, _) :: attributes, removeEl, element =>
    if element.findAttribute name = none then removeAttributes modifyElementNow attributes removeEl element
    else removeAttributes modifyElementNow attributes (removeEl.setAttribute name "")
      (if modifyElementNow then element.deleteAttribute name else element)

/-- The children the item for attributes gets: `set` and `remove`, each when it has attributes. -/
def attributeItems (setEl removeEl : Element) : List Node :=
  (if setEl.attributes.isEmpty then [] else [.element setEl]) ++
    (if removeEl.attributes.isEmpty then [] else [.element removeEl])

def createDiffsForAttributes (ioDiffDocument : Option Document) (document : Document) (path : Address)
    (modifyElementNow : Bool) (setFrom removeFrom : Option Element) : Except Trap (Option Document × Document) :=
  if setFrom.isNone ∧ removeFrom.isNone then .ok (ioDiffDocument, document)
  else
    match createDiffXDElement document path (toActionString .replace), cursorAt path document with
    | .error t, _ => .error t
    | .ok _, none => .error .nullPointer
    | .ok itemEl, some c =>
      let set := setAttributes modifyElementNow (setFrom.elim [] Tag.attributes) (Tag.create "set") c.element
      let remove := removeAttributes modifyElementNow (removeFrom.elim [] Tag.attributes) (Tag.create "remove") set.2
      if (attributeItems set.1 remove.1).isEmpty then .ok (ioDiffDocument, document)
      else
        let itemEl := itemEl.setAttribute "do" "a"
        let modified := (editAt (fun c => Cursor.nodes { c with element := remove.2 }) path document).getD document
        match adoptItem ioDiffDocument ((attributeItems set.1 remove.1).foldl Tag.adoptAsLastChild itemEl) with
        | .error t => .error t
        | .ok diffDocument => .ok (some diffDocument, modified)

end Create

section Process

/-- The attributes of the item's first child called `name`. -/
def attributesOf (itemEl : Element) (name : String) : List (String × String) :=
  (itemEl.findFirstChildElement name).elim [] Tag.attributes

/-- The element `pathElement` after the attributes of `set` are set and those of `remove` deleted. -/
def processAttributes (itemEl pathElement : Element) : Element :=
  (attributesOf itemEl "remove").foldl (fun e a => e.deleteAttribute a.1)
    ((attributesOf itemEl "set").foldl (fun e a => e.setAttribute a.1 a.2) pathElement)

/-- The siblings of the element after the action; new nodes keep their order in each case. -/
def processAction (action : DiffActions) (itemEl : Element) (c : Cursor) : List Node :=
  match action with
  | .none => Cursor.nodes { c with element := processAttributes itemEl c.element }
  | .replace => (itemEl.children.reverse.foldl Cursor.adoptAsNextSibling c).orphan
  | .adoptAsPreviousSibling => (itemEl.children.foldl Cursor.adoptAsPreviousSibling c).nodes
  | .adoptAsNextSibling => (itemEl.children.reverse.foldl Cursor.adoptAsNextSibling c).nodes
  | .adoptAsFistChild => (itemEl.children.reverse.foldl Cursor.adoptAsFirstChild c).nodes
  | .adoptAsLastChild => (itemEl.children.foldl Cursor.adoptAsLastChild c).nodes
  | .remove => c.orphan

/-- The document after one item; none when `process` gives up at it. -/
def processItem (itemEl : Element) (originalDocument : Document) : Except Trap (Option Document) :=
  match parsePathList (itemEl.getAttributeValue "path") with
  | none => .ok none
  | some pathList =>
    match findPath pathList originalDocument with
    | .error t => .error t
    | .ok none => .ok none
    | .ok (some pathElement) =>
      let doStr := itemEl.getAttributeValue "do"
      if toAction doStr = .none ∧ doStr ≠ "a" then .ok none
      else .ok (editAt (processAction (toAction doStr) itemEl) pathElement originalDocument)

/-- What the items before the one given up at did to the document stays. -/
def processItems : List Element → Document → Except Trap (Bool × Document)
  | [], originalDocument => .ok (true, originalDocument)
  | itemEl :: items, originalDocument =>
    match processItem itemEl originalDocument with
    | .error t => .error t
    | .ok none => .ok (false, originalDocument)
    | .ok (some document) => processItems items document

def process (originalDocument diffDocument : Document) : Except Trap (Bool × Document) :=
  match (elementsNamed "diff" diffDocument).head? with
  | none => .ok (false, originalDocument)
  | some diffElem => processItems (diffElem.childElements "item") originalDocument

end Process

end Diff

end OpenPeer
