import OpenPeer.ConversationThread
import OpenPeer.DiffPath

/-!
# The document of a thread under difference documents

A thread document has five sections of different names. Each item that a batch writes
has a path to one section, or to one dialog bundle, and does there what it was written for.
-/
namespace OpenPeer.ConversationThread

open Xml Std

section Layout

/-- The sections of a thread document. -/
inductive Part where
  | details
  | contacts
  | messages
  | receipts
  | dialogs
  deriving DecidableEq

def Part.name : Part → String
  | .details => "details"
  | .contacts => "contacts"
  | .messages => "messages"
  | .receipts => "receipts"
  | .dialogs => "dialogs"

/-- An element for each section, under the section's name. -/
structure Layout where
  part : Part → Element
  named : ∀ p, (part p).name = p.name

def Layout.nodes (l : Layout) : List Node :=
  [.element (l.part .details), .element (l.part .contacts), .element (l.part .messages), .element (l.part .receipts),
    .element (l.part .dialogs)]

def Layout.threadElement (l : Layout) : Element := ⟨"thread", [], l.nodes⟩

def Layout.document (l : Layout) : Document := [.element l.threadElement]

/-- The section between the others. -/
def Layout.cursor (l : Layout) : Part → Cursor
  | .details => ⟨l.nodes.take 0, l.part .details, l.nodes.drop 1⟩
  | .contacts => ⟨l.nodes.take 1, l.part .contacts, l.nodes.drop 2⟩
  | .messages => ⟨l.nodes.take 2, l.part .messages, l.nodes.drop 3⟩
  | .receipts => ⟨l.nodes.take 3, l.part .receipts, l.nodes.drop 4⟩
  | .dialogs => ⟨l.nodes.take 4, l.part .dialogs, l.nodes.drop 5⟩

/-- The layout with another element for a section. -/
def Layout.put (l : Layout) (p : Part) (el : Element) (h : el.name = p.name) : Layout where
  part := Function.update l.part p el
  named := by
    intro q
    by_cases hq : q = p
    · rw [hq, Function.update_self, h]
    · rw [Function.update_of_ne hq, l.named]

variable (l : Layout)

variable (p : Part)

@[simp] theorem Layout.cursor_element : (l.cursor p).element = l.part p := by cases p <;> rfl

@[simp] theorem Layout.cursor_nodes : (l.cursor p).nodes = l.nodes := by cases p <;> rfl

@[simp] theorem Layout.put_part_self (el : Element) (h : el.name = p.name) : (l.put p el h).part p = el := by
  simp only [Layout.put, Function.update_self]

theorem Layout.put_part_other {p q : Part} (hq : q ≠ p) (el : Element) (h : el.name = p.name) :
    (l.put p el h).part q = l.part q := by
  simp only [Layout.put, Function.update_of_ne hq]

theorem Layout.cursor_put (el : Element) (h : el.name = p.name) :
    (l.put p el h).cursor p = ⟨(l.cursor p).before, el, (l.cursor p).after⟩ := by
  cases p <;> simp [Layout.cursor, Layout.nodes, Layout.put, Function.update]

theorem Part.name_inj {p q : Part} (h : p.name = q.name) : p = q := by
  cases p <;> cases q <;> simp_all [Part.name]

theorem Layout.alone :
    elementsNamed p.name (l.cursor p).before = [] ∧ elementsNamed p.name (l.cursor p).after = [] := by
  have hother : ∀ q, q ≠ p → (l.part q).name ≠ p.name := by
    intro q hq heq
    exact hq (Part.name_inj ((l.named q).symm.trans heq))
  cases p <;> simp [Layout.cursor, Layout.nodes, hother]

theorem Layout.focus_part : focus p.name 0 l.nodes = some (l.cursor p) := by
  have h := focus_nodes (l.cursor p)
  rwa [Layout.cursor_element, l.named, (l.alone p).1, Layout.cursor_nodes, List.length_nil] at h

theorem Layout.elementsNamed_part : elementsNamed p.name l.nodes = [l.part p] := by
  rw [← l.cursor_nodes p, Cursor.nodes, elementsNamed_append, (l.alone p).1, elementsNamed_element,
    Layout.cursor_element, if_pos (l.named p), (l.alone p).2, List.nil_append]

theorem Layout.findFirstChildElement : l.threadElement.findFirstChildElement p.name = some (l.part p) := by
  have hchildren : l.threadElement.childElements p.name = [l.part p] := l.elementsNamed_part p
  rw [Tag.findFirstChildElement, hchildren, List.head?_cons]

end Layout

section SectionPaths

variable (l : Layout) (p : Part)

theorem findSection_part : findSection l.document p.name = .ok (l.part p) := by
  have hfocus : cursorAt (sectionAddress p.name) l.document = some (l.cursor p) := l.focus_part p
  rw [findSection, hfocus]
  exact congrArg Except.ok (l.cursor_element p)

theorem pathStr_part : Diff.pathStr (sectionAddress p.name) l.document = .ok (Diff.joined ["thread", p.name]) := by
  have hfocus : focus "thread" 0 l.document = some ⟨[], l.threadElement, []⟩ := rfl
  have hinner : Diff.pathStr [(p.name, 0)] l.nodes = .ok ("/" ++ p.name ++ "") := by
    rw [Diff.pathStr, l.focus_part p]
    simp only [Diff.pathStr, (l.alone p).1, (l.alone p).2, List.reverse_nil, Diff.subPathStr_alone,
      Layout.cursor_element, l.named]
  rw [sectionAddress, Diff.pathStr, hfocus]
  simp only [elementsNamed_nil, List.reverse_nil, Diff.subPathStr_alone]
  have hthread : Diff.pathStr [(p.name, 0)] l.threadElement.children = .ok ("/" ++ p.name ++ "") := hinner
  rw [hthread]
  rfl

theorem findPath_part : Diff.findPath [⟨"thread", "", 0⟩, ⟨p.name, "", 0⟩] l.document = .ok (some (sectionAddress p.name)) := by
  have hthread : Diff.findComponent (elementsNamed "thread" l.document) ⟨"thread", "", 0⟩ = .ok (some 0) := rfl
  have hpart : Diff.findComponent (elementsNamed p.name l.nodes) ⟨p.name, "", 0⟩ = .ok (some 0) := by
    rw [l.elementsNamed_part p]
    rfl
  have hfocus : focus "thread" 0 l.document = some ⟨[], l.threadElement, []⟩ := rfl
  have hinner : Diff.findPath [⟨p.name, "", 0⟩] l.threadElement.children = .ok (some [(p.name, 0)]) := by
    have hchildren : l.threadElement.children = l.nodes := rfl
    rw [hchildren, Diff.findPath, hpart]
    simp only [l.focus_part p, Diff.findPath, Option.map_some]
  rw [Diff.findPath, hthread]
  simp only [hfocus, hinner, Option.map_some, sectionAddress]

theorem parsePathList_part : Diff.parsePathList (Diff.joined ["thread", p.name]) = some [⟨"thread", "", 0⟩, ⟨p.name, "", 0⟩] := by
  have hname : p.name ≠ "" ∧ '/' ∉ p.name.toList ∧ '[' ∉ p.name.toList := by cases p <;> decide +kernel
  refine Diff.parsePathList_joined ?_ ?_ ?_
  · simp only [List.mem_cons, List.not_mem_nil, or_false]
    rintro s (rfl | rfl)
    · decide +kernel
    · exact hname.2.1
  · simp only [List.mem_cons, List.not_mem_nil, or_false]
    rintro c (rfl | rfl)
    · decide
    · exact hname.1
  · refine .cons ⟨by decide, Diff.parseComponent_name (by decide +kernel)⟩ (.cons ⟨hname.1, ?_⟩ .nil)
    exact Diff.parseComponent_name hname.2.2

theorem editAt_part (f : Cursor → List Node) :
    editAt f (sectionAddress p.name) l.document = some [.element ⟨"thread", [], f (l.cursor p)⟩] := by
  have hthread : focus "thread" 0 l.document = some ⟨[], l.threadElement, []⟩ := rfl
  have hpart : editAt f [(p.name, 0)] l.threadElement.children = some (f (l.cursor p)) := by
    have hchildren : l.threadElement.children = l.nodes := rfl
    rw [hchildren, editAt, l.focus_part p, Option.map_some]
  rw [sectionAddress, editAt, hthread, Option.bind_some, hpart]
  rfl

end SectionPaths

section Items

/-- An item as it is written. -/
def itemElement (action path : String) (children : List Node) : Element :=
  ⟨"item", [("do", action), ("path", path)], children⟩

def diffDocument (items : List Element) : Document := [.element ⟨"diff", [], items.map .element⟩]

/-- The difference document with some items; there is none without an item. -/
def changesOf (items : List Element) : Option Document := if items.isEmpty then none else some (diffDocument items)

theorem changesOf_append (items : List Element) (item : Element) :
    changesOf (items ++ [item]) = some (diffDocument (items ++ [item])) := by
  simp [changesOf]

theorem adoptItem_changesOf (items : List Element) (item : Element) :
    Diff.adoptItem (changesOf items) item = .ok (diffDocument (items ++ [item])) := by
  cases items with
  | nil => rfl
  | cons first rest =>
    simp [changesOf, Diff.adoptItem, diffDocument, focus, Cursor.adoptAsLastChild, Cursor.nodes, Tag.adoptAsLastChild]

variable {doc : Document}

theorem createDiffXDElement_eq {path : Address} {result : String} (h : Diff.pathStr path doc = .ok result)
    (action : String) : Diff.createDiffXDElement doc path action = .ok (itemElement action result []) := by
  simp [Diff.createDiffXDElement, h, Except.map, itemElement, Tag.create, Tag.setAttribute, putAttribute]

theorem createItem_written {path : Address} {result : String} (h : Diff.pathStr path doc = .ok result)
    (action : Diff.DiffActions) (holder : List Node) (before : List Element) :
    (Diff.createItem action (changesOf before) doc path false holder).map Prod.fst =
      .ok (changesOf (before ++ [itemElement (Diff.toActionString action) result holder])) := by
  have hholder : holder.foldl Tag.adoptAsLastChild (itemElement (Diff.toActionString action) result []) =
      itemElement (Diff.toActionString action) result holder := foldl_adoptAsLastChild _ _
  rw [Diff.createItem, createDiffXDElement_eq h]
  simp only [hholder, adoptItem_changesOf, changesOf_append]
  rfl

theorem processItem_itemElement {path : String} {pathList : List Diff.PathComponent} {address : Address}
    (hparse : Diff.parsePathList path = some pathList)
    (hfind : Diff.findPath pathList doc = .ok (some address)) (action : Diff.DiffActions)
    (haction : action ≠ .none) (children : List Node) :
    Diff.processItem (itemElement (Diff.toActionString action) path children) doc =
      .ok (editAt (Diff.processAction action (itemElement (Diff.toActionString action) path children)) address doc) := by
  have hpath : (itemElement (Diff.toActionString action) path children).getAttributeValue "path" = path := rfl
  have hdo : (itemElement (Diff.toActionString action) path children).getAttributeValue "do" = Diff.toActionString action := rfl
  have hread : Diff.toAction (Diff.toActionString action) = action := by
    cases action with
    | none => exact absurd rfl haction
    | _ => decide
  rw [Diff.processItem, hpath, hparse]
  simp only [hfind, hdo, hread]
  rw [if_neg fun h => haction h.1]

theorem processItems_append {items items' : List Element} {doc' : Document}
    (h : Diff.processItems items doc = .ok (true, doc')) :
    Diff.processItems (items ++ items') doc = Diff.processItems items' doc' := by
  induction items generalizing doc with
  | nil =>
    simp only [Diff.processItems, Except.ok.injEq, Prod.mk.injEq, true_and] at h
    rw [List.nil_append, h]
  | cons item items ih =>
    rw [List.cons_append, Diff.processItems]
    rw [Diff.processItems] at h
    cases hitem : Diff.processItem item doc with
    | error t => rw [hitem] at h; cases h
    | ok read =>
      cases read with
      | none => rw [hitem] at h; simp at h
      | some next =>
        rw [hitem] at h
        exact ih h

end Items

section Writing

/-- A part of `updateEnd` writes items that turn one document into the other; where
`something` holds there is an item among them. -/
def Writes (something : Prop) (stage : Option Document → Except Trap (Option Document)) (doc doc' : Document) : Prop :=
  ∃ items, (something → items ≠ []) ∧ (∀ before, stage (changesOf before) = .ok (changesOf (before ++ items))) ∧
    (∀ item ∈ items, item.name = "item") ∧ Diff.processItems items doc = .ok (true, doc')

variable {stage next both : Option Document → Except Trap (Option Document)} {doc doc' doc'' : Document}

theorem Writes.weaken {something less : Prop} (h : Writes something stage doc doc') (hless : less → something) :
    Writes less stage doc doc' := by
  obtain ⟨items, hsome, hrest⟩ := h
  exact ⟨items, fun hl => hsome (hless hl), hrest⟩

theorem Writes.nothing (h : ∀ c, stage c = .ok c) (doc : Document) : Writes False stage doc doc :=
  ⟨[], False.elim, fun before => by rw [h, List.append_nil], by simp, rfl⟩

theorem Writes.item {action path : String} {children : List Node}
    (hstage : ∀ before, stage (changesOf before) = .ok (changesOf (before ++ [itemElement action path children])))
    (hitem : Diff.processItem (itemElement action path children) doc = .ok (some doc')) : Writes True stage doc doc' := by
  refine ⟨_, fun _ => List.cons_ne_nil _ _, hstage, ?_, ?_⟩
  · simp [itemElement]
  · simp only [Diff.processItems, hitem]

theorem Writes.seq {something more : Prop} (h : Writes something stage doc doc') (h' : Writes more next doc' doc'')
    (hboth : ∀ c c', stage c = .ok c' → both c = next c') : Writes (something ∨ more) both doc doc'' := by
  obtain ⟨items, hsome, hstage, hnames, hprocess⟩ := h
  obtain ⟨items', hsome', hstage', hnames', hprocess'⟩ := h'
  refine ⟨items ++ items', ?_, fun before => ?_, ?_, ?_⟩
  · rintro (hs | hs) hnil
    · exact hsome hs (List.append_eq_nil_iff.mp hnil).1
    · exact hsome' hs (List.append_eq_nil_iff.mp hnil).2
  · rw [hboth _ _ (hstage before), hstage', List.append_assoc]
  · intro item hitem
    rcases List.mem_append.mp hitem with hitem | hitem
    · exact hnames item hitem
    · exact hnames' item hitem
  · rw [processItems_append hprocess, hprocess']

/-- One item after another, each where the ones before it have led. -/
theorem Writes.addItems {α σ : Type} {add : α → Option Document → Except Trap (Option Document)} (f : σ → α → σ)
    (doc : σ → Document) (as : List α) (s : σ)
    (h : ∀ before a after, as = before ++ a :: after →
      Writes False (add a) (doc (before.foldl f s)) (doc (f (before.foldl f s) a))) :
    Writes False (ConversationThread.addItems add as) (doc s) (doc (as.foldl f s)) := by
  induction as generalizing s with
  | nil => exact Writes.nothing (fun c => rfl) _
  | cons a as ih =>
    have hhead : Writes False (add a) (doc s) (doc (f s a)) := h [] a as rfl
    have htail := ih (f s a) fun before b after heq => h (a :: before) b after (by rw [heq]; rfl)
    have hboth : Writes (False ∨ False) (ConversationThread.addItems add (a :: as)) (doc s) (doc (as.foldl f (f s a))) :=
      hhead.seq htail fun c c' hc => by rw [ConversationThread.addItems, hc]
    exact hboth.weaken Or.inl

theorem Writes.append {something more : Prop} {stages stages' : List (Option Document → Except Trap (Option Document))}
    (h : Writes something (ConversationThread.addItems (fun stage => stage) stages) doc doc')
    (h' : Writes more (ConversationThread.addItems (fun stage => stage) stages') doc' doc'') :
    Writes (something ∨ more) (ConversationThread.addItems (fun stage => stage) (stages ++ stages')) doc doc'' := by
  refine h.seq h' fun c c' hc => ?_
  clear h h'
  induction stages generalizing c with
  | nil =>
    rw [ConversationThread.addItems, Except.ok.injEq] at hc
    rw [List.nil_append, hc]
  | cons stage stages ih =>
    rw [ConversationThread.addItems] at hc
    rw [List.cons_append, ConversationThread.addItems]
    cases hstage : stage c with
    | error t => rw [hstage] at hc; cases hc
    | ok next =>
      rw [hstage] at hc
      exact ih next hc

/-- A stage that is taken only where something changed. -/
theorem Writes.optional {changes : Prop} [Decidable changes] (h : changes → Writes True stage doc doc')
    (hnone : ¬changes → doc' = doc) :
    Writes changes (ConversationThread.addItems (fun stage => stage) (if changes then [stage] else [])) doc doc' := by
  by_cases hchanges : changes
  · rw [if_pos hchanges]
    have hnothing : Writes False (ConversationThread.addItems (fun stage => stage) []) doc' doc' :=
      Writes.nothing (fun c => rfl) doc'
    have hseq : Writes (True ∨ False) (ConversationThread.addItems (fun stage => stage) [stage]) doc doc' :=
      (h hchanges).seq hnothing fun c c' hc => by simp only [ConversationThread.addItems, hc]
    exact hseq.weaken fun _ => .inl trivial
  · rw [if_neg hchanges, hnone hchanges]
    exact (Writes.nothing (fun c => rfl) doc).weaken hchanges

end Writing

section Effects

variable (old l : Layout) (p : Part)

theorem document_put (el : Element) (h : el.name = p.name) :
    (l.put p el h).document = [.element ⟨"thread", [], (Cursor.mk (l.cursor p).before el (l.cursor p).after).nodes⟩] := by
  rw [← l.cursor_put p el h, Layout.cursor_nodes]
  rfl

theorem processItem_part {action : Diff.DiffActions} (haction : action ≠ .none) (children : List Node) {el : Element}
    (h : el.name = p.name)
    (hdone : Diff.processAction action (itemElement (Diff.toActionString action) (Diff.joined ["thread", p.name]) children)
      (l.cursor p) = (Cursor.mk (l.cursor p).before el (l.cursor p).after).nodes) :
    Diff.processItem (itemElement (Diff.toActionString action) (Diff.joined ["thread", p.name]) children) l.document =
      .ok (some (l.put p el h).document) := by
  rw [processItem_itemElement (parsePathList_part p) (findPath_part l p) action haction, editAt_part, hdone, document_put]

variable {path : Address} {result : String}

theorem addItem_replace (h : Diff.pathStr path old.document = .ok result) (node : Node)
    (before : List Element) : addItem .replace old.document path (some node) (changesOf before) =
      .ok (changesOf (before ++ [itemElement (Diff.toActionString .replace) result [node]])) :=
  createItem_written h .replace [node] before

theorem addItem_adoptAsLastChild (h : Diff.pathStr path old.document = .ok result) (node : Node)
    (before : List Element) : addItem .adoptAsLastChild old.document path (some node) (changesOf before) =
      .ok (changesOf (before ++ [itemElement (Diff.toActionString .adoptAsLastChild) result [node]])) :=
  createItem_written h .adoptAsLastChild [node] before

theorem addItem_remove (h : Diff.pathStr path old.document = .ok result) (before : List Element) :
    addItem .remove old.document path none (changesOf before) =
      .ok (changesOf (before ++ [itemElement (Diff.toActionString .remove) result []])) :=
  createItem_written h .remove [] before

theorem replaceSection_writes {el : Element} (h : el.name = p.name) :
    Writes True (replaceSection old.document p.name (some el)) l.document (l.put p el h).document := by
  have haction : Diff.DiffActions.replace ≠ .none := by decide
  refine Writes.item (fun before => ?_) (processItem_part l p haction [.element el] h rfl)
  simp only [replaceSection, findSection_part]
  exact addItem_replace old (pathStr_part old p) _ before

theorem addLast_writes (node : Node) (h : ((l.part p).adoptAsLastChild node).name = p.name) :
    Writes True (addItem .adoptAsLastChild old.document (sectionAddress p.name) (some node)) l.document
      (l.put p ((l.part p).adoptAsLastChild node) h).document := by
  have haction : Diff.DiffActions.adoptAsLastChild ≠ .none := by decide
  refine Writes.item (addItem_adoptAsLastChild old (pathStr_part old p) node) (processItem_part l p haction [node] h ?_)
  simp only [Diff.processAction, itemElement, List.foldl_cons, List.foldl_nil, Cursor.adoptAsLastChild, Layout.cursor_element]

/-- The item that sets a version. -/
def versionItem (path : String) (version : Nat) : Element :=
  itemElement "a" path [.element ⟨"set", [("version", toString version)], []⟩]

theorem addVersion_written {version : Nat} (hnew : (old.part p).findAttribute "version" ≠ some (toString version))
    (before : List Element) : addVersion old.document (sectionAddress p.name) version (changesOf before) =
      .ok (changesOf (before ++ [versionItem (Diff.joined ["thread", p.name]) version])) := by
  have hcursor : cursorAt (sectionAddress p.name) old.document = some (old.cursor p) := old.focus_part p
  have hset : Diff.setAttributes false [("version", toString version)] (Tag.create "set") (old.cursor p).element =
      (⟨"set", [("version", toString version)], []⟩, (old.cursor p).element) := by
    rw [Diff.setAttributes, Layout.cursor_element, if_neg hnew]
    rfl
  have hfrom : Tag.attributes ((Tag.create "" : Element).setAttribute "version" (toString version)) =
      [("version", toString version)] := rfl
  rw [addVersion, Diff.createDiffsForAttributes, if_neg (by simp), createDiffXDElement_eq (pathStr_part old p), hcursor]
  simp only [Option.elim_some, Option.elim_none, hfrom, hset, Diff.removeAttributes, Diff.attributeItems]
  have hdo : (itemElement (Diff.toActionString .replace) (Diff.joined ["thread", p.name]) []).setAttribute "do" "a" =
      itemElement "a" (Diff.joined ["thread", p.name]) [] := rfl
  rw [hdo]
  have hchildren : ∀ n : Node, [n].foldl Tag.adoptAsLastChild (itemElement "a" (Diff.joined ["thread", p.name]) []) =
      itemElement "a" (Diff.joined ["thread", p.name]) [n] := fun n => rfl
  simp only [List.isEmpty_cons, Bool.false_eq_true, if_false, Tag.create, List.isEmpty_nil, if_true, List.append_nil,
    hchildren, adoptItem_changesOf, changesOf_append]
  rfl

/-- A section's version is set where the old one is another. -/
theorem addVersion_writes {version : Nat} (hnew : (old.part p).findAttribute "version" ≠ some (toString version))
    (h : ((l.part p).setAttribute "version" (toString version)).name = p.name) :
    Writes True (addVersion old.document (sectionAddress p.name) version) l.document
      (l.put p ((l.part p).setAttribute "version" (toString version)) h).document := by
  refine Writes.item (addVersion_written old p hnew) ?_
  have hpath : (versionItem (Diff.joined ["thread", p.name]) version).getAttributeValue "path" = Diff.joined ["thread", p.name] := rfl
  have hdo : (versionItem (Diff.joined ["thread", p.name]) version).getAttributeValue "do" = "a" := rfl
  have haction : Diff.toAction "a" = .none := by decide
  have hset : Diff.processAttributes (versionItem (Diff.joined ["thread", p.name]) version) (l.part p) =
      (l.part p).setAttribute "version" (toString version) := rfl
  change Diff.processItem (versionItem (Diff.joined ["thread", p.name]) version) l.document = _
  rw [Diff.processItem, hpath, parsePathList_part]
  simp only [findPath_part, hdo, haction, ne_eq, not_true_eq_false, and_false, if_false]
  rw [editAt_part, document_put]
  simp only [Diff.processAction, Layout.cursor_element, hset]

end Effects

end OpenPeer.ConversationThread
