import OpenPeer.ConversationThreadDocument
import OpenPeer.ConversationThreadRoundTrip
import OpenPeer.Keyed

/-!
# The dialog bundles of a thread document

A dialog is replaced or removed at the path that is written for its bundle in the old
document. The lemmas say when that path still leads to the dialog once the items before
it are processed.
-/
namespace OpenPeer.ConversationThread

open Xml Std Dialog Keyed

/-- A dialog whose bundle is written as `Dialog::create` writes it and parses back to it. -/
structure Bundled (d : Dialog) : Prop where
  name : d.mDialogBundleEl.name = "dialogBundle"
  id : d.mDialogBundleEl.findAttribute "id" = some ("bundle_" ++ d.mDialogID)
  dialog : ∃ dialogEl, d.mDialogBundleEl.findFirstChildElement "dialog" = some dialogEl ∧
    dialogEl.getAttributeValue "id" = d.mDialogID

def bundleNodes (ds : List Dialog) : List Node := ds.map fun d => .element d.mDialogBundleEl

/-- The section of the dialogs. -/
def dialogsElement (version : Nat) (ds : List Dialog) : Element :=
  ⟨"dialogs", [("version", toString version)], bundleNodes ds⟩

theorem dialogsElement_name (version : Nat) (ds : List Dialog) : (dialogsElement version ds).name = Part.dialogs.name := rfl

def Layout.withDialogs (l : Layout) (version : Nat) (ds : List Dialog) : Layout :=
  l.put .dialogs (dialogsElement version ds) (dialogsElement_name version ds)

section Bundles

variable {ds : List Dialog}

theorem elementsNamed_bundles (h : ∀ d ∈ ds, Bundled d) :
    elementsNamed "dialogBundle" (bundleNodes ds) = ds.map mDialogBundleEl :=
  elementsNamed_map "dialogBundle" fun d hd => (h d hd).name

variable {before after : List Dialog} {d : Dialog}

theorem focus_bundle (h : ∀ b ∈ before ++ d :: after, Bundled b) :
    focus "dialogBundle" before.length (bundleNodes (before ++ d :: after)) =
      some ⟨bundleNodes before, d.mDialogBundleEl, bundleNodes after⟩ := by
  have hfocus := focus_nodes ⟨bundleNodes before, d.mDialogBundleEl, bundleNodes after⟩
  have hbefore : ∀ b ∈ before, Bundled b := fun b hb => h b (List.mem_append_left _ hb)
  have hname : d.mDialogBundleEl.name = "dialogBundle" := (h d (by simp)).name
  have hnodes : (Cursor.mk (bundleNodes before) d.mDialogBundleEl (bundleNodes after)).nodes =
      bundleNodes (before ++ d :: after) := by simp [Cursor.nodes, bundleNodes]
  rwa [hnodes, hname, elementsNamed_bundles hbefore, List.length_map] at hfocus

theorem findBundle_notMem (h : ∀ d ∈ ds, Bundled d) {id : String} (hid : id ∉ ds.map mDialogID) (j : Nat) :
    findBundle id (ds.map mDialogBundleEl) j = .ok none := by
  induction ds generalizing j with
  | nil => rfl
  | cons d ds ih =>
    obtain ⟨dialogEl, hdialog, hdialogID⟩ := (h d List.mem_cons_self).dialog
    rw [List.map_cons, List.mem_cons, not_or] at hid
    rw [List.map_cons, findBundle, hdialog]
    simp only [hdialogID, if_neg (Ne.symm hid.1)]
    exact ih (fun d' hd' => h d' (List.mem_cons_of_mem _ hd')) hid.2 (j + 1)

theorem findBundle_split (h : ∀ b ∈ before ++ d :: after, Bundled b)
    (hbefore : d.mDialogID ∉ before.map mDialogID) (j : Nat) :
    findBundle d.mDialogID ((before ++ d :: after).map mDialogBundleEl) j = .ok (some (j + before.length)) := by
  induction before generalizing j with
  | nil =>
    obtain ⟨dialogEl, hdialog, hdialogID⟩ := (h d (by simp)).dialog
    rw [List.nil_append, List.map_cons, findBundle, hdialog]
    exact if_pos hdialogID
  | cons b before ih =>
    obtain ⟨dialogEl, hdialog, hdialogID⟩ := (h b (by simp)).dialog
    rw [List.map_cons, List.mem_cons, not_or] at hbefore
    rw [List.cons_append, List.map_cons, findBundle, hdialog]
    simp only [hdialogID, if_neg (Ne.symm hbefore.1)]
    rw [ih (fun b' hb' => h b' (List.mem_cons_of_mem _ hb')) hbefore.2 (j + 1), List.length_cons]
    congr 2
    omega

end Bundles

section Paths

/-- A quote in the id: the bundle is written by its number. -/
def Quoted (id : String) : Prop := '"' ∈ id.toList ∨ '\'' ∈ id.toList

instance (id : String) : Decidable (Quoted id) := inferInstanceAs (Decidable (_ ∨ _))

/-- The last part of the path to a bundle among `count`, with `place` bundles before it. -/
def bundlePart (count place : Nat) (id : String) : String :=
  if count = 1 then "dialogBundle"
  else if Quoted id then "dialogBundle" ++ "[" ++ toString place ++ "]"
  else "dialogBundle" ++ "[\"" ++ ("bundle_" ++ id) ++ "\"]"

/-- That part as it is read. -/
def bundleComponent (count place : Nat) (id : String) : Diff.PathComponent :=
  if count = 1 then ⟨"dialogBundle", "", 0⟩
  else if Quoted id then ⟨"dialogBundle", "", place⟩
  else ⟨"dialogBundle", "bundle_" ++ id, 0⟩

/-- The part can be read again: an id that is written in it has no slash and no bracket. -/
def Readable (count : Nat) (id : String) : Prop := count = 1 ∨ Quoted id ∨ ('/' ∉ id.toList ∧ ']' ∉ id.toList)

instance (count : Nat) (id : String) : Decidable (Readable count id) := inferInstanceAs (Decidable (_ ∨ _ ∨ _))

theorem bundlePart_reads {count place : Nat} {id : String} (h : Readable count id) (hplace : place < Diff.indexBound) :
    bundlePart count place id ≠ "" ∧ '/' ∉ (bundlePart count place id).toList ∧
      Diff.parseComponent (bundlePart count place id).toList = some (bundleComponent count place id) := by
  have hopen : '[' ∉ "dialogBundle".toList := by decide +kernel
  have hclose : ']' ∉ "dialogBundle".toList := by decide +kernel
  have hslash : '/' ∉ "dialogBundle".toList := by decide +kernel
  unfold bundlePart bundleComponent
  by_cases hcount : count = 1
  · rw [if_pos hcount, if_pos hcount]
    exact ⟨by decide, hslash, Diff.parseComponent_name hopen⟩
  · rw [if_neg hcount, if_neg hcount]
    by_cases hquoted : Quoted id
    · rw [if_pos hquoted, if_pos hquoted]
      refine ⟨fun heq => ?_, ?_, Diff.parseComponent_index hopen hclose hplace⟩
      · have := congrArg String.toList heq
        simp [String.toList_append] at this
      · have hdigit : '/' ∉ Nat.toDigits 10 place := fun hc =>
          absurd (Nat.isDigit_of_mem_toDigits (by omega) (by omega) hc) (by decide)
        simp only [String.toList_append, Numeric.toList_toString, List.mem_append, not_or]
        exact ⟨⟨⟨hslash, by decide +kernel⟩, hdigit⟩, by decide +kernel⟩
    · rw [if_neg hquoted, if_neg hquoted]
      obtain ⟨hidSlash, hidClose⟩ := (h.resolve_left hcount).resolve_left hquoted
      refine ⟨fun heq => ?_, ?_, Diff.parseComponent_id hopen hclose ?_⟩
      · have := congrArg String.toList heq
        simp [String.toList_append] at this
      · simp only [String.toList_append, List.mem_append, not_or]
        exact ⟨⟨⟨hslash, by decide +kernel⟩, by decide +kernel, hidSlash⟩, by decide +kernel⟩
      · simp only [String.toList_append, List.mem_append, not_or]
        exact ⟨by decide +kernel, hidClose⟩

theorem parsePathList_bundle {count place : Nat} {id : String} (h : Readable count id) (hplace : place < Diff.indexBound) :
    Diff.parsePathList (Diff.joined ["thread", "dialogs", bundlePart count place id]) =
      some [⟨"thread", "", 0⟩, ⟨"dialogs", "", 0⟩, bundleComponent count place id] := by
  obtain ⟨hne, hslash, hread⟩ := bundlePart_reads h hplace
  have hcomponent : (bundleComponent count place id).name = "dialogBundle" := by
    unfold bundleComponent
    split
    · rfl
    · split <;> rfl
  refine Diff.parsePathList_joined ?_ ?_ ?_
  · simp only [List.mem_cons, List.not_mem_nil, or_false]
    rintro s (rfl | rfl | rfl)
    · decide +kernel
    · decide +kernel
    · exact hslash
  · simp only [List.mem_cons, List.not_mem_nil, or_false]
    rintro c (rfl | rfl | rfl)
    · decide
    · decide
    · rw [hcomponent]
      decide
  · refine .cons ⟨by decide, Diff.parseComponent_name (by decide +kernel)⟩ (.cons ⟨by decide, ?_⟩ (.cons ⟨hne, hread⟩ .nil))
    exact Diff.parseComponent_name (by decide +kernel)

variable {old l : Layout} {before after : List Dialog} {d : Dialog}

theorem other_bundle_id {b d : Dialog} (hb : Bundled b) (hother : b.mDialogID ≠ d.mDialogID) :
    b.mDialogBundleEl.getAttributeValue "id" ≠ "bundle_" ++ d.mDialogID := by
  rw [Tag.getAttributeValue, hb.id]
  intro heq
  have hlists := congrArg String.toList heq
  rw [Option.getD_some, String.toList_append, String.toList_append] at hlists
  exact hother (String.toList_inj.mp (List.append_cancel_left hlists))

theorem bundle_id {d : Dialog} (h : Bundled d) : d.mDialogBundleEl.getAttributeValue "id" = "bundle_" ++ d.mDialogID := by
  rw [Tag.getAttributeValue, h.id, Option.getD_some]

/-- What is written for a bundle among the others. -/
theorem subPathStr_bundle (h : ∀ b ∈ before ++ d :: after, Bundled b)
    (hnodup : ((before ++ d :: after).map mDialogID).Nodup) :
    Diff.subPathStr (before.map mDialogBundleEl).reverse (after.map mDialogBundleEl) d.mDialogBundleEl =
      .ok (bundlePart (before ++ d :: after).length before.length d.mDialogID) := by
  have hd : Bundled d := h d (by simp)
  by_cases halone : before = [] ∧ after = []
  · obtain ⟨rfl, rfl⟩ := halone
    simp only [List.map_nil, List.reverse_nil, Diff.subPathStr_alone, hd.name]
    rfl
  have hcount : (before ++ d :: after).length ≠ 1 := by
    intro hone
    simp only [List.length_append, List.length_cons] at hone
    exact halone ⟨List.eq_nil_of_length_eq_zero (by omega), List.eq_nil_of_length_eq_zero (by omega)⟩
  have hne : (before.map mDialogBundleEl).reverse ≠ [] ∨ after.map mDialogBundleEl ≠ [] := by
    by_cases hbefore : before = []
    · exact .inr fun hafter => halone ⟨hbefore, List.map_eq_nil_iff.mp hafter⟩
    · exact .inl fun hnil => hbefore (List.map_eq_nil_iff.mp (List.reverse_eq_nil_iff.mp hnil))
  rw [List.map_append, List.map_cons] at hnodup
  obtain ⟨-, hnodupAfter, hdisjoint⟩ := List.nodup_append.mp hnodup
  have hprevious : ∀ s ∈ (before.map mDialogBundleEl).reverse,
      s.getAttributeValue "id" ≠ d.mDialogBundleEl.getAttributeValue "id" := by
    intro s hs
    obtain ⟨b, hb, rfl⟩ := List.mem_map.mp (List.mem_reverse.mp hs)
    rw [bundle_id hd]
    exact other_bundle_id (h b (by simp [hb])) (hdisjoint _ (List.mem_map_of_mem hb) _ List.mem_cons_self)
  have hnext : ∀ s ∈ after.map mDialogBundleEl,
      s.getAttributeValue "id" ≠ d.mDialogBundleEl.getAttributeValue "id" := by
    intro s hs
    obtain ⟨b, hb, rfl⟩ := List.mem_map.mp hs
    rw [bundle_id hd]
    refine other_bundle_id (h b (by simp [hb])) fun heq => ?_
    exact (List.nodup_cons.mp hnodupAfter).1 (heq ▸ List.mem_map_of_mem hb)
  have hquotes : ('"' ∉ ("bundle_" ++ d.mDialogID).toList ∧ '\'' ∉ ("bundle_" ++ d.mDialogID).toList) ↔
      ¬Quoted d.mDialogID := by
    simp [String.toList_append, Quoted]
  rw [Diff.subPathStr_distinct hprevious hnext hne, bundlePart, if_neg hcount, hd.name, bundle_id hd, List.length_reverse,
    List.length_map]
  by_cases hquoted : Quoted d.mDialogID
  · rw [if_neg fun hno => hquotes.mp hno hquoted, if_pos hquoted]
  · rw [if_pos (hquotes.mpr hquoted), if_neg hquoted]

/-- The path that is written for a bundle. -/
theorem pathStr_bundle {version : Nat} (h : ∀ b ∈ before ++ d :: after, Bundled b)
    (hnodup : ((before ++ d :: after).map mDialogID).Nodup)
    (hold : old.part .dialogs = dialogsElement version (before ++ d :: after)) :
    Diff.pathStr (bundleAddress before.length) old.document =
      .ok (Diff.joined ["thread", "dialogs", bundlePart (before ++ d :: after).length before.length d.mDialogID]) := by
  have hbefore : ∀ b ∈ before, Bundled b := fun b hb => h b (List.mem_append_left _ hb)
  have hafter : ∀ b ∈ after, Bundled b := fun b hb => h b (by simp [hb])
  have hchildren : (old.cursor .dialogs).element.children = bundleNodes (before ++ d :: after) := by
    rw [Layout.cursor_element, hold]
    rfl
  have hbundle : Diff.pathStr [("dialogBundle", before.length)] (bundleNodes (before ++ d :: after)) =
      .ok ("/" ++ bundlePart (before ++ d :: after).length before.length d.mDialogID ++ "") := by
    rw [Diff.pathStr, focus_bundle h]
    simp only [Diff.pathStr, elementsNamed_bundles hbefore, elementsNamed_bundles hafter, subPathStr_bundle h hnodup]
  have hdialogs : Diff.pathStr [("dialogs", 0), ("dialogBundle", before.length)] old.nodes =
      .ok ("/" ++ "dialogs" ++ ("/" ++ bundlePart (before ++ d :: after).length before.length d.mDialogID ++ "")) := by
    have hfocus : focus "dialogs" 0 old.nodes = some (old.cursor .dialogs) := old.focus_part .dialogs
    have halone : elementsNamed "dialogs" (old.cursor .dialogs).before = [] ∧
        elementsNamed "dialogs" (old.cursor .dialogs).after = [] := old.alone .dialogs
    have hname : (old.cursor .dialogs).element.name = "dialogs" := by rw [Layout.cursor_element, old.named]; rfl
    rw [Diff.pathStr, hfocus]
    simp only [hchildren, hbundle, halone.1, halone.2, List.reverse_nil, Diff.subPathStr_alone, hname]
  have hthread : focus "thread" 0 old.document = some ⟨[], old.threadElement, []⟩ := rfl
  have hnodes : Diff.pathStr [("dialogs", 0), ("dialogBundle", before.length)] old.threadElement.children =
      .ok ("/" ++ "dialogs" ++ ("/" ++ bundlePart (before ++ d :: after).length before.length d.mDialogID ++ "")) := hdialogs
  rw [bundleAddress, Diff.pathStr, hthread]
  simp only [hnodes, elementsNamed_nil, List.reverse_nil, Diff.subPathStr_alone]
  rfl

end Paths

section Lookup

variable {l : Layout} {before after : List Dialog} {d : Dialog}

/-- A path to the bundle of a dialog that was at `place` among `count` leads to where it is
now: alone it was, it is the first; written by its number, it is at its place; written by
its id, it is wherever it is. -/
def Leads (count place now : Nat) (id : String) : Prop :=
  (count = 1 → now = 0) ∧ (count ≠ 1 → Quoted id → now = place)

theorem findComponent_bundle {count place : Nat} (h : ∀ b ∈ before ++ d :: after, Bundled b)
    (hnodup : ((before ++ d :: after).map mDialogID).Nodup) (hleads : Leads count place before.length d.mDialogID) :
    Diff.findComponent ((before ++ d :: after).map mDialogBundleEl) (bundleComponent count place d.mDialogID) =
      .ok (some before.length) := by
  have hlength : before.length < ((before ++ d :: after).map mDialogBundleEl).length := by simp
  unfold bundleComponent
  by_cases hcount : count = 1
  · rw [if_pos hcount]
    have hfirst := hleads.1 hcount
    have h0 : Diff.findComponent ((before ++ d :: after).map mDialogBundleEl) ⟨"dialogBundle", "", (0 : Nat)⟩ =
        .ok (some 0) := Diff.findComponent_index (by omega)
    rw [hfirst]
    exact h0
  · rw [if_neg hcount]
    by_cases hquoted : Quoted d.mDialogID
    · rw [if_pos hquoted, ← hleads.2 hcount hquoted]
      exact Diff.findComponent_index hlength
    · rw [if_neg hquoted, List.map_append, List.map_cons, Diff.findComponent_id, List.length_map]
      · intro heq
        have := congrArg String.toList heq
        simp [String.toList_append] at this
      · intro s hs
        obtain ⟨b, hb, rfl⟩ := List.mem_map.mp hs
        refine ⟨_, (h b (by simp [hb])).id, fun heq => ?_⟩
        have hlists := congrArg String.toList heq
        rw [String.toList_append, String.toList_append] at hlists
        have hsame := String.toList_inj.mp (List.append_cancel_left hlists)
        rw [List.map_append, List.map_cons] at hnodup
        exact (List.nodup_append.mp hnodup).2.2 _ (List.mem_map_of_mem hb) _ List.mem_cons_self hsame
      · exact (h d (by simp)).id

/-- The path leads to the bundle. -/
theorem findPath_bundle {version count place : Nat} (h : ∀ b ∈ before ++ d :: after, Bundled b)
    (hnodup : ((before ++ d :: after).map mDialogID).Nodup) (hleads : Leads count place before.length d.mDialogID)
    (hl : l.part .dialogs = dialogsElement version (before ++ d :: after)) :
    Diff.findPath [⟨"thread", "", 0⟩, ⟨"dialogs", "", 0⟩, bundleComponent count place d.mDialogID] l.document =
      .ok (some (bundleAddress before.length)) := by
  have hname : (bundleComponent count place d.mDialogID).name = "dialogBundle" := by
    unfold bundleComponent
    split
    · rfl
    · split <;> rfl
  have hbundle : Diff.findPath [bundleComponent count place d.mDialogID] (bundleNodes (before ++ d :: after)) =
      .ok (some [("dialogBundle", before.length)]) := by
    rw [Diff.findPath, hname, elementsNamed_bundles h, findComponent_bundle h hnodup hleads]
    simp only [focus_bundle h, Diff.findPath, Option.map_some]
  have hchildren : (l.cursor .dialogs).element.children = bundleNodes (before ++ d :: after) := by
    rw [Layout.cursor_element, hl]
    rfl
  have hdialogs : Diff.findPath [⟨"dialogs", "", 0⟩, bundleComponent count place d.mDialogID] l.nodes =
      .ok (some [("dialogs", 0), ("dialogBundle", before.length)]) := by
    have hfocus : focus "dialogs" 0 l.nodes = some (l.cursor .dialogs) := l.focus_part .dialogs
    have hone : Diff.findComponent (elementsNamed "dialogs" l.nodes) ⟨"dialogs", "", 0⟩ = .ok (some 0) := by
      have helements : elementsNamed "dialogs" l.nodes = [l.part .dialogs] := l.elementsNamed_part .dialogs
      rw [helements]
      rfl
    rw [Diff.findPath, hone]
    simp only [hfocus, hchildren, hbundle, Option.map_some]
  have hthread : Diff.findComponent (elementsNamed "thread" l.document) ⟨"thread", "", 0⟩ = .ok (some 0) := rfl
  have hfocus : focus "thread" 0 l.document = some ⟨[], l.threadElement, []⟩ := rfl
  have hnodes : Diff.findPath [⟨"dialogs", "", 0⟩, bundleComponent count place d.mDialogID] l.threadElement.children =
      .ok (some [("dialogs", 0), ("dialogBundle", before.length)]) := hdialogs
  rw [Diff.findPath, hthread]
  simp only [hfocus, hnodes, Option.map_some, bundleAddress]

/-- What is done at a bundle is done among the bundles. -/
theorem editAt_bundle {version : Nat} (h : ∀ b ∈ before ++ d :: after, Bundled b)
    (hl : l.part .dialogs = dialogsElement version (before ++ d :: after)) {f : Cursor → List Node} {cs : List Dialog}
    (hf : f ⟨bundleNodes before, d.mDialogBundleEl, bundleNodes after⟩ = bundleNodes cs) :
    editAt f (bundleAddress before.length) l.document = some (l.withDialogs version cs).document := by
  have hbundle : editAt f [("dialogBundle", before.length)] (l.cursor .dialogs).element.children = some (bundleNodes cs) := by
    have hchildren : (l.cursor .dialogs).element.children = bundleNodes (before ++ d :: after) := by
      rw [Layout.cursor_element, hl]
      rfl
    rw [hchildren, editAt, focus_bundle h, Option.map_some, hf]
  have hfocus : focus "dialogs" 0 l.threadElement.children = some (l.cursor .dialogs) := l.focus_part .dialogs
  have helement : ({ (l.cursor .dialogs).element with children := bundleNodes cs } : Element) = dialogsElement version cs := by
    rw [Layout.cursor_element, hl]
    rfl
  have hthread : focus "thread" 0 l.document = some ⟨[], l.threadElement, []⟩ := rfl
  rw [bundleAddress, editAt, hthread, Option.bind_some, editAt, hfocus, Option.bind_some, hbundle, Option.map_some,
    Option.map_some, helement]
  exact congrArg some (document_put l .dialogs (dialogsElement version cs) (dialogsElement_name version cs)).symm

end Lookup

section Effects

variable {old l : Layout} {ds cs : List Dialog} {count place version : Nat}

@[simp] theorem withDialogs_part (ds : List Dialog) : (l.withDialogs version ds).part .dialogs = dialogsElement version ds :=
  l.put_part_self .dialogs _ _

@[simp] theorem withDialogs_withDialogs (version' : Nat) (ds ds' : List Dialog) :
    (l.withDialogs version ds).withDialogs version' ds' = l.withDialogs version' ds' := by
  simp only [Layout.withDialogs, Layout.put, Function.update_idem]

theorem processItem_bundle {before after : List Dialog} {d : Dialog} (h : ∀ b ∈ before ++ d :: after, Bundled b)
    (hnodup : ((before ++ d :: after).map mDialogID).Nodup) (hreadable : Readable count d.mDialogID)
    (hplace : place < Diff.indexBound) (hleads : Leads count place before.length d.mDialogID)
    {action : Diff.DiffActions} (haction : action ≠ .none) (children : List Node)
    (hdone : ∀ item : Element, item.children = children →
      Diff.processAction action item ⟨bundleNodes before, d.mDialogBundleEl, bundleNodes after⟩ = bundleNodes cs) :
    Diff.processItem (itemElement (Diff.toActionString action)
        (Diff.joined ["thread", "dialogs", bundlePart count place d.mDialogID]) children)
      (l.withDialogs version (before ++ d :: after)).document = .ok (some (l.withDialogs version cs).document) := by
  have hl : (l.withDialogs version (before ++ d :: after)).part .dialogs = dialogsElement version (before ++ d :: after) :=
    withDialogs_part _
  rw [processItem_itemElement (parsePathList_bundle hreadable hplace) (findPath_bundle h hnodup hleads hl) action haction,
    editAt_bundle h hl (hdone _ rfl), withDialogs_withDialogs]

/-- Where the old document holds a dialog, what is read there and where the path to it leads. -/
structure Located (ds cs : List Dialog) (id : String) : Prop where
  readable : Readable ds.length id
  held : id ∈ cs.map mDialogID
  leads : Leads ds.length ((ds.map mDialogID).idxOf id) ((cs.map mDialogID).idxOf id) id

theorem childElements_dialogs (hds : ∀ d ∈ ds, Bundled d) :
    (dialogsElement version ds).childElements "dialogBundle" = ds.map mDialogBundleEl :=
  elementsNamed_bundles hds

variable {oldVersion : Nat} (hold : old.part .dialogs = dialogsElement oldVersion ds)
  (hds : ∀ d ∈ ds, Bundled d) (hdsNodup : (ds.map mDialogID).Nodup) (hcount : ds.length ≤ Diff.indexBound)
  (hcs : ∀ d ∈ cs, Bundled d) (hcsNodup : (cs.map mDialogID).Nodup)

include hold hds hdsNodup hcount hcs hcsNodup

/-- A dialog that is replaced in the document or added to it. -/
theorem addDialog_writes {new : Dialog} (hnew : new.mDialogID ∉ ds.map mDialogID → new.mDialogID ∉ cs.map mDialogID)
    (hlocated : new.mDialogID ∈ ds.map mDialogID → Located ds cs new.mDialogID) :
    Writes False (addDialog old.document (old.part .dialogs) (new.mDialogID, new)) (l.withDialogs version cs).document
      (l.withDialogs version (put mDialogID cs new)).document := by
  by_cases hmem : new.mDialogID ∈ ds.map mDialogID
  · obtain ⟨before, d, after, rfl, hd, hbefore⟩ := split hmem
    obtain ⟨hreadable, hheld, hleads⟩ := hlocated hmem
    obtain ⟨before', d', after', rfl, hd', hbefore'⟩ := split hheld
    rw [← hd', idxOf_split (hd'.symm ▸ hbefore'), hd', ← hd, idxOf_split (hd.symm ▸ hbefore), hd, ← hd'] at hleads
    rw [← hd'] at hreadable
    have hplace : before.length < Diff.indexBound := by
      simp only [List.length_append, List.length_cons] at hcount
      omega
    have haction : Diff.DiffActions.replace ≠ .none := by decide
    have hfound : findBundle new.mDialogID ((old.part .dialogs).childElements "dialogBundle") 0 =
        .ok (some before.length) := by
      rw [hold, childElements_dialogs hds, ← hd, findBundle_split hds (hd.symm ▸ hbefore), Nat.zero_add]
    have hpath := pathStr_bundle hds hdsNodup hold
    rw [hd, ← hd'] at hpath
    rw [put_split hcsNodup hd']
    refine (Writes.item (fun before => ?_) (processItem_bundle hcs hcsNodup hreadable hplace hleads haction
      [.element new.mDialogBundleEl] ?_)).weaken False.elim
    · simp only [addDialog, hfound]
      exact addItem_replace old hpath _ before
    · intro item hchildren
      simp [Diff.processAction, hchildren, Cursor.adoptAsNextSibling, Cursor.orphan, bundleNodes]
  · have hfound : findBundle new.mDialogID ((old.part .dialogs).childElements "dialogBundle") 0 = .ok none := by
      rw [hold, childElements_dialogs hds, findBundle_notMem hds hmem]
    have hlast : (l.withDialogs version cs).part .dialogs = dialogsElement version cs := withDialogs_part _
    have hname : (((l.withDialogs version cs).part .dialogs).adoptAsLastChild (.element new.mDialogBundleEl)).name =
        Part.dialogs.name := (l.withDialogs version cs).named .dialogs
    have hput : put mDialogID cs new = cs ++ [new] := if_neg (hnew hmem)
    have helement : (dialogsElement version cs).adoptAsLastChild (.element new.mDialogBundleEl) =
        dialogsElement version (cs ++ [new]) := by
      simp [Tag.adoptAsLastChild, dialogsElement, bundleNodes]
    have hwrites := addLast_writes old (l.withDialogs version cs) .dialogs (.element new.mDialogBundleEl) hname
    have hafter : ((l.withDialogs version cs).put .dialogs
        (((l.withDialogs version cs).part .dialogs).adoptAsLastChild (.element new.mDialogBundleEl)) hname) =
          l.withDialogs version (cs ++ [new]) := by
      simp only [hlast, helement]
      exact withDialogs_withDialogs _ _ _
    rw [hafter] at hwrites
    rw [hput]
    refine (hwrites.seq (Writes.nothing (fun c => rfl) _) fun c c' hc => ?_).weaken False.elim
    simp only [addDialog, hfound]
    exact hc

/-- A dialog that is removed from the document; one that is not in it is passed over. -/
theorem removeDialog_writes {id : String} (hnew : id ∉ ds.map mDialogID → id ∉ cs.map mDialogID)
    (hlocated : id ∈ ds.map mDialogID → Located ds cs id) :
    Writes False (removeDialog old.document (old.part .dialogs) id) (l.withDialogs version cs).document
      (l.withDialogs version (drop mDialogID cs id)).document := by
  by_cases hmem : id ∈ ds.map mDialogID
  · obtain ⟨before, d, after, rfl, rfl, hbefore⟩ := split hmem
    obtain ⟨hreadable, hheld, hleads⟩ := hlocated hmem
    obtain ⟨before', d', after', rfl, hd', hbefore'⟩ := split hheld
    rw [idxOf_split hbefore, ← hd', idxOf_split (hd'.symm ▸ hbefore')] at hleads
    rw [← hd'] at hreadable
    have hplace : before.length < Diff.indexBound := by
      simp only [List.length_append, List.length_cons] at hcount
      omega
    have haction : Diff.DiffActions.remove ≠ .none := by decide
    have hfound : findBundle d.mDialogID ((old.part .dialogs).childElements "dialogBundle") 0 =
        .ok (some before.length) := by
      rw [hold, childElements_dialogs hds, findBundle_split hds hbefore, Nat.zero_add]
    have hpath := pathStr_bundle hds hdsNodup hold
    rw [← hd'] at hpath ⊢
    rw [drop_split hcsNodup]
    refine (Writes.item (fun before => ?_)
      (processItem_bundle hcs hcsNodup hreadable hplace hleads haction [] ?_)).weaken False.elim
    · rw [hd', removeDialog, hfound]
      rw [hd'] at hpath
      exact addItem_remove old hpath before
    · intro item _
      simp [Diff.processAction, Cursor.orphan, bundleNodes]
  · have hfound : findBundle id ((old.part .dialogs).childElements "dialogBundle") 0 = .ok none := by
      rw [hold, childElements_dialogs hds, findBundle_notMem hds hmem]
    rw [drop_eq_self (hnew hmem)]
    refine Writes.nothing (fun c => ?_) _
    simp only [removeDialog, hfound]

end Effects

section Batch

variable {old l : Layout} {ds cs : List Dialog} {version oldVersion : Nat}

/-- The ids that a batch changes and removes, beside those of the document: each path that is
written can be read, and leads to its dialog when its turn comes. -/
structure Locatable (ids changed removed : List String) : Prop where
  count : ids.length ≤ Diff.indexBound
  readable : ∀ id ∈ ids, id ∈ changed ∨ id ∈ removed → Readable ids.length id
  once : removed.Nodup
  known : ∀ id ∈ removed, id ∈ changed → id ∈ ids
  unshifted : ∀ before id after, removed = before ++ id :: after → id ∈ ids → Quoted id → ids.length ≠ 1 →
    ∀ id' ∈ before, id' ∉ ids.take (ids.idxOf id)

/-- The dialogs of the document and those that are changed, each under its id and with its bundle. -/
structure Filed (ds : List Dialog) (changed : List (String × Dialog)) : Prop where
  bundled : ∀ d ∈ ds, Bundled d
  nodup : (ds.map mDialogID).Nodup
  filed : ∀ e ∈ changed, e.2.mDialogID = e.1 ∧ Bundled e.2
  distinct : Maps.Distinct changed

/-- The dialogs after some are put in. -/
def putDialogs (ds : List Dialog) (changed : List (String × Dialog)) : List Dialog :=
  changed.foldl (fun cs e => put mDialogID cs e.2) ds

theorem putDialogs_eq (ds : List Dialog) (changed : List (String × Dialog)) :
    putDialogs ds changed = (changed.map Prod.snd).foldl (put mDialogID) ds := by
  rw [putDialogs, List.foldl_map]

variable {changed : List (String × Dialog)} {removed : List String}

theorem Filed.of_prefix {rest : List (String × Dialog)} (h : Filed ds (changed ++ rest)) : Filed ds changed where
  __ := h
  filed e he := h.filed e (List.mem_append_left _ he)
  distinct := by
    have hdistinct := h.distinct
    rw [Maps.Distinct, List.map_append] at hdistinct
    exact (List.nodup_append.mp hdistinct).1

theorem Filed.bundled_put (h : Filed ds changed) : ∀ d ∈ putDialogs ds changed, Bundled d := by
  intro d hd
  rw [putDialogs_eq] at hd
  rcases mem_foldl_put hd with hd | hd
  · obtain ⟨e, he, rfl⟩ := List.mem_map.mp hd
    exact (h.filed e he).2
  · exact h.bundled d hd

theorem Filed.nodup_put (h : Filed ds changed) : ((putDialogs ds changed).map mDialogID).Nodup := by
  rw [putDialogs_eq]
  exact nodup_foldl_put h.nodup _

theorem ids_put (ds : List Dialog) (changed : List (String × Dialog)) :
    ∃ new, (putDialogs ds changed).map mDialogID = ds.map mDialogID ++ new ∧
      ∀ id ∈ new, id ∈ changed.map fun e => e.2.mDialogID := by
  induction changed generalizing ds with
  | nil => exact ⟨[], by simp [putDialogs], by simp⟩
  | cons e changed ih =>
    obtain ⟨new, hids, hnew⟩ := ih (put mDialogID ds e.2)
    obtain ⟨first, hfirst⟩ : ds.map mDialogID <+: (put mDialogID ds e.2).map mDialogID :=
      prefix_put ds e.2
    refine ⟨first ++ new, ?_, fun id hid => ?_⟩
    · have hcons : putDialogs ds (e :: changed) = putDialogs (put mDialogID ds e.2) changed := rfl
      rw [hcons, hids, ← hfirst, List.append_assoc]
    · rw [List.map_cons, List.mem_cons]
      rcases List.mem_append.mp hid with hid | hid
      · have hput : (put mDialogID ds e.2).map mDialogID = _ := map_key_put ds e.2
        rw [← hfirst] at hput
        split at hput
        · rw [List.append_right_eq_self.mp hput] at hid
          cases hid
        · rw [List.append_cancel_left hput] at hid
          exact .inl (List.mem_singleton.mp hid)
      · exact .inr (hnew id hid)

theorem Filed.ids_put (h : Filed ds changed) : ∃ new, (putDialogs ds changed).map mDialogID =
    ds.map mDialogID ++ new ∧ ∀ id ∈ new, id ∈ changed.map Prod.fst := by
  obtain ⟨new, hids, hnew⟩ := ConversationThread.ids_put ds changed
  have hkeys : (changed.map fun e => e.2.mDialogID) = changed.map Prod.fst :=
    List.map_congr_left fun e he => (h.filed e he).1
  exact ⟨new, hids, fun id hid => hkeys ▸ hnew id hid⟩

theorem take_idxOf_append {ids : List String} {id : String} (h : id ∈ ids) (new : List String) :
    (ids ++ new).idxOf id = ids.idxOf id ∧ (ids ++ new).take (ids.idxOf id + 1) = ids.take (ids.idxOf id) ++ [id] := by
  have hlt : ids.idxOf id < ids.length := List.idxOf_lt_length_of_mem h
  refine ⟨List.idxOf_append_of_mem h, ?_⟩
  rw [List.take_append_of_le_length (by omega), List.take_add_one, List.getElem?_eq_getElem hlt, List.getElem_idxOf hlt]
  rfl

theorem located_put (h : Filed ds changed) {id : String} (hid : id ∈ ds.map mDialogID)
    (hreadable : Readable ds.length id) : Located ds (putDialogs ds changed) id := by
  obtain ⟨new, hids, -⟩ := h.ids_put
  have hidx := (take_idxOf_append hid new).1
  refine ⟨hreadable, by rw [hids]; exact List.mem_append_left _ hid, ?_⟩
  rw [hids, hidx]
  refine ⟨fun hone => ?_, fun _ _ => rfl⟩
  have hlt := List.idxOf_lt_length_of_mem hid
  rw [List.length_map, hone] at hlt
  omega

/-- What is dropped leaves the place of a dialog as it is when none of it stands before. -/
theorem located_drop (h : Filed ds changed) (hlocatable : Locatable (ds.map mDialogID) (changed.map Prod.fst) removed)
    {before after : List String} {id : String}
    (hremoved : removed = before ++ id :: after) (hid : id ∈ ds.map mDialogID) :
    Located ds (before.foldl (drop mDialogID) (putDialogs ds changed)) id := by
  obtain ⟨new, hids, -⟩ := h.ids_put
  have hmem : id ∈ removed := by simp [hremoved]
  have hnot : id ∉ before := by
    have honce := hlocatable.once
    rw [hremoved] at honce
    exact fun hin => (List.nodup_append.mp honce).2.2 id hin id List.mem_cons_self rfl
  obtain ⟨hidx, htake⟩ := take_idxOf_append hid new
  have hmemPut : id ∈ ds.map mDialogID ++ new := List.mem_append_left _ hid
  have hplace : (∀ id' ∈ before, id' ∉ (ds.map mDialogID).take ((ds.map mDialogID).idxOf id)) →
      ((before.foldl (drop mDialogID) (putDialogs ds changed)).map mDialogID).idxOf id =
        (ds.map mDialogID).idxOf id := by
    intro hbefore
    rw [map_key_foldl_drop, hids, idxOf_drop _ hmemPut, hidx]
    intro id' hid'
    rw [hidx, htake, List.mem_append, List.mem_singleton]
    rintro (hin | rfl)
    · exact hbefore id' hid' hin
    · exact hnot hid'
  have hlength : (ds.map mDialogID).length = ds.length := List.length_map _
  refine ⟨hlength ▸ hlocatable.readable id hid (.inr hmem), ?_, fun hone => ?_, fun hcount hquoted => ?_⟩
  · rw [map_key_foldl_drop, hids]
    exact List.mem_filter.mpr ⟨hmemPut, by simpa using hnot⟩
  · have hfirst : (ds.map mDialogID).idxOf id = 0 := by
      have hlt := List.idxOf_lt_length_of_mem hid
      rw [List.length_map, hone] at hlt
      omega
    rw [hplace (by simp [hfirst]), hfirst]
  · exact hplace (hlocatable.unshifted before id after hremoved hid hquoted (hlength ▸ hcount))

/-- The items for the dialogs put in and take out in the document what the batch puts in
and takes out. -/
theorem dialogsDiffs_writes {changed : DialogMap} (hold : old.part .dialogs = dialogsElement oldVersion ds)
    (hl : l.part .dialogs = dialogsElement oldVersion ds) (hversion : oldVersion ≠ version)
    (h : Filed ds changed.toList) 
    (hlocatable : Locatable (ds.map mDialogID) (changed.toList.map Prod.fst) removed) :
    Writes True (dialogsDiffs old.document version changed removed) l.document
      (l.withDialogs version (removed.foldl (drop mDialogID) (putDialogs ds changed.toList))).document := by
  have hlength : (ds.map mDialogID).length = ds.length := List.length_map _
  have hcount : ds.length ≤ Diff.indexBound := hlength ▸ hlocatable.count
  have hnew : (old.part .dialogs).findAttribute "version" ≠ some (toString version) := by
    rw [hold]
    intro heq
    have htext : toString oldVersion = toString version := Option.some.inj heq
    exact hversion (Numeric.toString_inj htext)
  have hname : ((l.part .dialogs).setAttribute "version" (toString version)).name = Part.dialogs.name := l.named .dialogs
  have hset : (l.part .dialogs).setAttribute "version" (toString version) = dialogsElement version ds := by
    rw [hl]
    rfl
  have hfirst : Writes True (addVersion old.document (sectionAddress "dialogs") version) l.document
      (l.withDialogs version ds).document := by
    have hwrites := addVersion_writes old l .dialogs hnew hname
    have hput : l.put .dialogs ((l.part .dialogs).setAttribute "version" (toString version)) hname = l.withDialogs version ds := by
      simp only [hset]
      rfl
    rwa [hput] at hwrites
  have hputs : Writes False (addItems (addDialog old.document (old.part .dialogs)) changed.toList)
      (l.withDialogs version ds).document (l.withDialogs version (putDialogs ds changed.toList)).document := by
    refine Writes.addItems (fun cs e => put mDialogID cs e.2) (fun cs => (l.withDialogs version cs).document)
      changed.toList ds fun before e after heq => ?_
    have hbefore : Filed ds (before ++ e :: after) := heq ▸ h
    have hprefix : Filed ds before := hbefore.of_prefix
    obtain ⟨id, new⟩ := e
    obtain rfl : new.mDialogID = id := (hbefore.filed (id, new) (by simp)).1
    have hchanged : new.mDialogID ∈ changed.toList.map Prod.fst := by simp [heq]
    have hfresh : new.mDialogID ∉ before.map Prod.fst := by
      have hdistinct := hbefore.distinct
      rw [Maps.Distinct, List.map_append, List.map_cons] at hdistinct
      exact fun hin => (List.nodup_append.mp hdistinct).2.2 _ hin _ List.mem_cons_self rfl
    refine addDialog_writes hold h.bundled h.nodup hcount hprefix.bundled_put hprefix.nodup_put ?_ fun hmem => ?_
    · intro hnot hin
      obtain ⟨new', hids, hnew'⟩ := hprefix.ids_put
      rw [hids] at hin
      rcases List.mem_append.mp hin with hin | hin
      · exact hnot hin
      · exact hfresh (hnew' _ hin)
    · exact located_put hprefix hmem (hlength ▸ hlocatable.readable _ hmem (.inl hchanged))
  have hdrops : Writes False (addItems (removeDialog old.document (old.part .dialogs)) removed)
      (l.withDialogs version (putDialogs ds changed.toList)).document
      (l.withDialogs version (removed.foldl (drop mDialogID) (putDialogs ds changed.toList))).document := by
    refine Writes.addItems (drop mDialogID) (fun cs => (l.withDialogs version cs).document) removed _
      fun before id after heq => ?_
    have hremoved : id ∈ removed := by simp [heq]
    refine removeDialog_writes hold h.bundled h.nodup hcount
      (fun d hd => h.bundled_put d (mem_of_mem_foldl_drop hd)) ?_ (fun hnot => ?_)
      fun hmem => located_drop h hlocatable heq hmem
    · rw [map_key_foldl_drop]
      exact h.nodup_put.filter _
    · rw [map_key_foldl_drop]
      intro hin
      obtain ⟨new, hids, hnew'⟩ := h.ids_put
      rw [hids] at hin
      rcases List.mem_append.mp (List.mem_filter.mp hin).1 with hin | hin
      · exact hnot hin
      · exact hnot (hlocatable.known id hremoved (hnew' id hin))
  let puts (c : Option Document) : Except Trap (Option Document) :=
    addVersion old.document (sectionAddress "dialogs") version c >>=
      addItems (addDialog old.document (old.part .dialogs)) changed.toList
  have hfirstPuts : Writes (True ∨ False) puts _ _ := hfirst.seq hputs fun c c' hc => by
    change (addVersion old.document (sectionAddress "dialogs") version c >>= _) = _
    rw [hc]
    rfl
  refine (hfirstPuts.seq hdrops fun c c' hc => ?_).weaken fun _ => .inl (.inl trivial)
  have hsection : findSection old.document "dialogs" = .ok (old.part .dialogs) := findSection_part old .dialogs
  rw [dialogsDiffs, hsection]
  cases hversionItem : addVersion old.document (sectionAddress "dialogs") version c with
  | error t =>
    change (addVersion old.document (sectionAddress "dialogs") version c >>= _) = _ at hc
    rw [hversionItem] at hc
    cases hc
  | ok mChangesDoc =>
    change (addVersion old.document (sectionAddress "dialogs") version c >>= _) = _ at hc
    rw [hversionItem] at hc
    change addItems (addDialog old.document (old.part .dialogs)) changed.toList mChangesDoc = _ at hc
    simp only [hc]

end Batch

end OpenPeer.ConversationThread
