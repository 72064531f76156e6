import OpenPeer.ConversationThreadSettle

/-!
# The document follows the thread

At the end of a batch the items that are written turn the document of the old sections
into that of the new ones, and the permission publication of a host into the list of its
contacts.
-/
namespace OpenPeer.ConversationThread

open Xml Std

section Sections

/-- The section of the messages. -/
def messagesElement (version : Nat) (messages : List Message) : Element :=
  ⟨"messages", [("version", toString version)], messages.map fun m => .element m.mBundleEl⟩

theorem messagesElement_name (version : Nat) (messages : List Message) :
    (messagesElement version messages).name = Part.messages.name := rfl

/-- A document with the sections of the thread. -/
structure Shows (files : PeerFiles) (t : Thread) (ds : List Dialog) (l : Layout) : Prop where
  details : l.part .details = t.mDetails.detailsElement
  contacts : t.mContacts.contactsElement files = some (l.part .contacts)
  messages : l.part .messages = messagesElement t.mMessagesVersion t.mMessageList
  receipts : l.part .receipts = t.mMessageReceipts.receiptsElement
  dialogs : l.part .dialogs = dialogsElement t.mDialogsVersion ds

variable {old l : Layout}

theorem foldl_snoc {α : Type} (as bs : List α) : bs.foldl (fun as b => as ++ [b]) as = as ++ bs := by
  induction bs generalizing as with
  | nil => simp
  | cons b bs ih => simp [ih]

theorem messagesDiffs_writes {oldVersion version : Nat} {ms : List Message}
    (hold : old.part .messages = messagesElement oldVersion ms) (hl : l.part .messages = messagesElement oldVersion ms)
    (hversion : oldVersion ≠ version) (messages : List Message) :
    Writes True (messagesDiffs old.document version messages) l.document
      (l.put .messages (messagesElement version (ms ++ messages)) (messagesElement_name _ _)).document := by
  have hnew : (old.part .messages).findAttribute "version" ≠ some (toString version) := by
    rw [hold]
    intro heq
    have htext : toString oldVersion = toString version := Option.some.inj heq
    exact hversion (Numeric.toString_inj htext)
  let shown (ms : List Message) : Layout := l.put .messages (messagesElement version ms) (messagesElement_name _ _)
  have hfirst : Writes True (addVersion old.document (sectionAddress "messages") version) l.document (shown ms).document := by
    have hname : ((l.part .messages).setAttribute "version" (toString version)).name = Part.messages.name := l.named .messages
    have hset : (l.part .messages).setAttribute "version" (toString version) = messagesElement version ms := by
      rw [hl]
      rfl
    have hwrites := addVersion_writes old l .messages hnew hname
    have hput : l.put .messages ((l.part .messages).setAttribute "version" (toString version)) hname = shown ms := by
      simp only [hset]
      rfl
    rwa [hput] at hwrites
  have hadds : Writes False (addItems (fun (m : Message) =>
      addItem .adoptAsLastChild old.document (sectionAddress "messages") (some (.element m.mBundleEl))) messages)
      (shown ms).document (shown (messages.foldl (fun ms m => ms ++ [m]) ms)).document := by
    refine Writes.addItems (fun ms m => ms ++ [m]) (fun ms => (shown ms).document) messages ms fun before m after _ => ?_
    generalize before.foldl (fun ms m => ms ++ [m]) ms = ms'
    have hname : (((shown ms').part .messages).adoptAsLastChild (.element m.mBundleEl)).name = Part.messages.name :=
      (shown ms').named .messages
    have helement : ((shown ms').part .messages).adoptAsLastChild (.element m.mBundleEl) =
        messagesElement version (ms' ++ [m]) := by
      simp [shown, Tag.adoptAsLastChild, messagesElement]
    have hwrites := addLast_writes old (shown ms') .messages (.element m.mBundleEl) hname
    have hput : (shown ms').put .messages (((shown ms').part .messages).adoptAsLastChild (.element m.mBundleEl)) hname =
        shown (ms' ++ [m]) := by
      simp only [helement]
      simp only [shown, Layout.put, Function.update_idem]
    rw [hput] at hwrites
    exact hwrites.weaken False.elim
  rw [foldl_snoc] at hadds
  refine (hfirst.seq hadds fun c c' hc => ?_).weaken fun _ => .inl trivial
  have hsection : findSection old.document "messages" = .ok (old.part .messages) := findSection_part old .messages
  simp only [messagesDiffs, hsection, hc]

/-- The layout with a section replaced where it changed. -/
def Layout.putIf (l : Layout) (changes : Bool) (p : Part) (el : Element) (h : el.name = p.name) : Layout :=
  if changes then l.put p el h else l

theorem Layout.putIf_part (changes : Bool) (p q : Part) (el : Element) (h : el.name = p.name) :
    (l.putIf changes p el h).part q = if q = p ∧ changes = true then el else l.part q := by
  unfold Layout.putIf
  by_cases hchanges : changes = true
  · rw [if_pos hchanges]
    by_cases hq : q = p
    · subst hq
      rw [if_pos ⟨rfl, hchanges⟩, Layout.put_part_self]
    · rw [if_neg fun hboth => hq hboth.1, l.put_part_other hq]
  · rw [if_neg hchanges, if_neg fun hboth => hchanges hboth.2]

theorem putIf_writes {changes : Bool} {p : Part} {el : Element} {h : el.name = p.name}
    {stage : Option Document → Except Trap (Option Document)}
    (hstage : changes = true → Writes True stage l.document (l.put p el h).document) :
    Writes (changes = true) (addItems (fun stage => stage) (if changes then [stage] else [])) l.document
      (l.putIf changes p el h).document := by
  refine Writes.optional (fun hchanges => ?_) fun hchanges => ?_
  · have hput : l.putIf changes p el h = l.put p el h := if_pos hchanges
    rw [hput]
    exact hstage hchanges
  · have hsame : l.putIf changes p el h = l := if_neg hchanges
    rw [hsame]

end Sections

section Written

variable {files : PeerFiles} {t p : Thread} {n : Nat} {ds : List Dialog} {old : Layout}

/-- Something was gathered. -/
def Changed.something (c : Changed) : Prop :=
  ((((c.mDetailsChanged = true ∨ c.changesContacts = true) ∨ (!c.mMessagesChanged.isEmpty) = true) ∨
    (!c.mMessageReceiptsChanged.isEmpty) = true) ∨ c.changesDialogs = true)

theorem documentDialogIDs_eq (hshows : Shows files t ds old) (hdoc : t.mPublication.mDocument = old.document)
    (hds : ∀ d ∈ ds, Bundled d) : t.documentDialogIDs = ds.map Dialog.mDialogID := by
  have hsection : findSection t.mPublication.mDocument "dialogs" = .ok (dialogsElement t.mDialogsVersion ds) := by
    rw [hdoc, ← hshows.dialogs]
    exact findSection_part old .dialogs
  rw [Thread.documentDialogIDs, hsection]
  simp only [childElements_dialogs hds, List.map_map]
  refine List.map_congr_left fun d hd => ?_
  obtain ⟨dialogEl, hdialog, hid⟩ := (hds d hd).dialog
  simp only [Function.comp_apply, hdialog, Option.map_some, Option.getD_some, hid]

/-- Each section is written anew where something was gathered for it, and is the old one elsewhere. -/
theorem shows_settle {l : Layout} {contactsEl : Element} (h : Gathered files t p n) (ht : Consistent files t ds)
    (hshows : Shows files t ds old) (hcontactsEl : (contactsSettled t p).contactsElement files = some contactsEl)
    (hdetails : l.part .details = if p.changed.mDetailsChanged then p.settle.mDetails.detailsElement else old.part .details)
    (hcontacts : l.part .contacts = if p.changed.changesContacts then contactsEl else old.part .contacts)
    (hmessages : l.part .messages = if !p.changed.mMessagesChanged.isEmpty then
      messagesElement p.settle.mMessagesVersion (t.mMessageList ++ p.changed.mMessagesChanged) else old.part .messages)
    (hreceipts : l.part .receipts = if !p.changed.mMessageReceiptsChanged.isEmpty then
      p.settle.mMessageReceipts.receiptsElement else old.part .receipts)
    (hdialogs : l.part .dialogs = if p.changed.changesDialogs then
      dialogsElement p.settle.mDialogsVersion (dialogsAfter ds p.changed) else old.part .dialogs) :
    Shows files p.settle (dialogsAfter ds p.changed) l := by
  obtain ⟨hlist, hmessagesVersion, -⟩ := settle_messages h
  constructor
  · rw [hdetails]
    split
    case isTrue => rfl
    case isFalse hchange =>
      have hsame := h.details
      rw [if_neg hchange] at hsame
      have hsettle : p.settle.mDetails = p.mDetails := rfl
      rw [hsettle, hsame, hshows.details]
  · rw [settle_contacts h ht.contacts, hcontacts]
    split
    · exact hcontactsEl
    · exact hshows.contacts
  · rw [hmessages, hlist]
    split
    case isTrue => rfl
    case isFalse hchange =>
      have hnil : p.changed.mMessagesChanged = [] := by simpa using hchange
      rw [hmessagesVersion, hnil, List.append_nil, hshows.messages]
      rfl
  · rw [hreceipts]
    split
    case isTrue => rfl
    case isFalse hchange =>
      have hempty : p.changed.mMessageReceiptsChanged.isEmpty = true := by simpa using hchange
      rw [settle_receipts h, if_pos hempty, hshows.receipts]
  · rw [hdialogs]
    split
    case isTrue => rfl
    case isFalse hchange =>
      obtain ⟨hchanged, hremoved⟩ : p.changed.mDialogsChanged = ∅ ∧ p.changed.mDialogsRemoved = [] := by
        simpa [Changed.changesDialogs] using hchange
      have hsame : dialogsAfter ds p.changed = ds := by
        rw [dialogsAfter, hchanged, hremoved]
        rfl
      rw [hsame, (settle_dialogs h).1, if_neg hchange, hshows.dialogs]

/-- The items of a batch turn the document of the old sections into that of the new ones. -/
theorem changes_written (h : Gathered files t p n) (ht : Consistent files t ds) (hsettles : Settles t p)
    (hshows : Shows files t ds old) (hdoc : t.mPublication.mDocument = old.document) :
    ∃ l, Writes p.changed.something (addItems (fun stage => stage) (p.changesStages files)) old.document l.document ∧
      Shows files p.settle (dialogsAfter ds p.changed) l := by
  obtain ⟨-, hmessagesVersion, -⟩ := settle_messages h
  have hids := documentDialogIDs_eq hshows hdoc fun d hd => (ht.dialogs d hd).bundled
  have hdocument : p.mPublication.mDocument = old.document := by rw [h.keeps.publication, hdoc]
  obtain ⟨contactsEl, hcontactsEl, hcontactsName, -⟩ :=
    ThreadContacts.parse_contactsElement (writable_contactsSettled h ht.contacts) (Nat.mod_lt _ (by decide))
  have hdetailsName : p.settle.mDetails.detailsElement.name = Part.details.name := withVersion_name _ _
  have hcontactsPart : contactsEl.name = Part.contacts.name := hcontactsName
  have hreceiptsName : p.settle.mMessageReceipts.receiptsElement.name = Part.receipts.name := rfl
  -- each section in its turn, with the paths of the old document
  let c := p.changed
  let l₁ := old.putIf c.mDetailsChanged .details p.settle.mDetails.detailsElement hdetailsName
  let l₂ := l₁.putIf c.changesContacts .contacts contactsEl hcontactsPart
  let l₃ := l₂.putIf (!c.mMessagesChanged.isEmpty) .messages
    (messagesElement p.settle.mMessagesVersion (t.mMessageList ++ c.mMessagesChanged)) (messagesElement_name _ _)
  let l₄ := l₃.putIf (!c.mMessageReceiptsChanged.isEmpty) .receipts p.settle.mMessageReceipts.receiptsElement hreceiptsName
  let l₅ := l₄.putIf c.changesDialogs .dialogs (dialogsElement p.settle.mDialogsVersion (dialogsAfter ds c))
    (dialogsElement_name _ _)
  have hstage₁ : Writes (c.mDetailsChanged = true) (addItems (fun stage => stage)
      (if c.mDetailsChanged then [replaceSection old.document "details" (some p.settle.mDetails.detailsElement)] else []))
      old.document l₁.document :=
    putIf_writes fun _ => replaceSection_writes old old .details hdetailsName
  have hstage₂ : Writes (c.changesContacts = true) (addItems (fun stage => stage)
      (if c.changesContacts then [replaceSection old.document "contacts" (p.settle.mContacts.contactsElement files)] else []))
      l₁.document l₂.document := by
    refine putIf_writes fun hchange => ?_
    rw [settle_contacts h ht.contacts, if_pos hchange, hcontactsEl]
    exact replaceSection_writes old l₁ .contacts hcontactsPart
  have hstage₃ : Writes ((!c.mMessagesChanged.isEmpty) = true) (addItems (fun stage => stage)
      (if !c.mMessagesChanged.isEmpty then [messagesDiffs old.document p.settle.mMessagesVersion c.mMessagesChanged] else []))
      l₂.document l₃.document := by
    refine putIf_writes fun hchange => messagesDiffs_writes hshows.messages ?_ ?_ _
    · simp only [l₂, l₁, Layout.putIf_part, reduceCtorEq, false_and, if_false, hshows.messages]
    · have hne : c.mMessagesChanged ≠ [] := by simpa using hchange
      rw [hmessagesVersion, if_neg (by simpa using hne), increment_eq (hsettles.messagesVersion hne)]
      omega
  have hstage₄ : Writes ((!c.mMessageReceiptsChanged.isEmpty) = true) (addItems (fun stage => stage)
      (if !c.mMessageReceiptsChanged.isEmpty then
        [replaceSection old.document "receipts" (some p.settle.mMessageReceipts.receiptsElement)] else []))
      l₃.document l₄.document :=
    putIf_writes fun _ => replaceSection_writes old l₃ .receipts hreceiptsName
  have hstage₅ : Writes (c.changesDialogs = true) (addItems (fun stage => stage)
      (if c.changesDialogs then
        [dialogsDiffs old.document p.settle.mDialogsVersion c.mDialogsChanged c.mDialogsRemoved] else []))
      l₄.document l₅.document := by
    refine putIf_writes fun hchange => ?_
    have hdialogs : l₄.part .dialogs = dialogsElement t.mDialogsVersion ds := by
      simp only [l₄, l₃, l₂, l₁, Layout.putIf_part, reduceCtorEq, false_and, if_false, hshows.dialogs]
    have hlocatable := hsettles.locatable
    rw [hids, ← ExtTreeMap.map_fst_toList_eq_keys] at hlocatable
    refine dialogsDiffs_writes hshows.dialogs hdialogs ?_ (h.filed ht) hlocatable
    rw [(settle_dialogs h).1, if_pos hchange, increment_eq (hsettles.dialogsVersion hchange)]
    omega
  refine ⟨l₅, ?_, ?_⟩
  · have hall := (((hstage₁.append hstage₂).append hstage₃).append hstage₄).append hstage₅
    rw [← hdocument] at hall ⊢
    exact hall
  · refine shows_settle h ht hshows hcontactsEl ?_ ?_ ?_ ?_ ?_ <;>
      simp only [l₅, l₄, l₃, l₂, l₁, c, Layout.putIf_part, reduceCtorEq, false_and, if_false, true_and]

end Written

section UpdateEnd

variable {files : PeerFiles} {t p : Thread} {n : Nat} {ds : List Dialog} {old : Layout}

/-- The publication takes the difference document of some items. -/
theorem update_diffDocument {publication : Publication} {items : List Element} {doc' : Document}
    (hnames : ∀ item ∈ items, item.name = "item")
    (hprocess : Diff.processItems items publication.mDocument = .ok (true, doc')) :
    ∃ publication', publication.update (diffDocument items) = .ok publication' ∧ publication'.mDocument = doc' ∧
      publication'.mName = publication.mName := by
  have hchildren : Tag.childElements ⟨"diff", [], items.map Node.element⟩ "item" = items :=
    (elementsNamed_map "item" hnames).trans (List.map_id _)
  have hhead : (elementsNamed "diff" (diffDocument items)).head? = some ⟨"diff", [], items.map Node.element⟩ := rfl
  have hdone : Diff.process publication.mDocument (diffDocument items) = .ok (true, doc') := by
    simp only [Diff.process, hhead, hchildren, hprocess]
  let mDiffDocuments :=
    if publication.mDiffDocuments.contains (publication.mVersion + 1 - 1) then publication.mDiffDocuments else ∅
  refine ⟨{ publication with
    mVersion := publication.mVersion + 1
    mDocument := doc'
    mDiffDocuments := mDiffDocuments.insert (publication.mVersion + 1) (diffDocument items) }, ?_, rfl, rfl⟩
  simp only [Publication.update, hhead, hdone, mDiffDocuments]

/-- A host's permission publication lists the contacts of its thread. -/
def Permits (t : Thread) : Prop := t.mType = .host → ∃ permissionPublication,
  t.mPermissionPublication = some permissionPublication ∧
    permissionPublication.mDocument = createDocumentFromRelationships t.mContacts.mContacts.keys

theorem settle_nothing (hnone : ¬p.changed.something) : p.settle = p := by
  simp only [Changed.something, not_or] at hnone
  obtain ⟨⟨⟨⟨-, hcontacts⟩, hmessages⟩, hreceipts⟩, hdialogs⟩ := hnone
  have hnil : p.changed.mMessagesChanged = [] := by simpa using hmessages
  have hempty : p.changed.mMessageReceiptsChanged.isEmpty = true := by simpa using hreceipts
  obtain ⟨hchanged, hremoved⟩ : p.changed.mDialogsChanged = ∅ ∧ p.changed.mDialogsRemoved = [] := by
    simpa [Changed.changesDialogs] using hdialogs
  have hmessageMap : p.mMessageMap.insertMany (([] : List Message).map fun m => (m.mMessageID, m)) = p.mMessageMap :=
    ExtTreeMap.insertMany_nil
  have hdialogMap : Maps.eraseAll (p.mDialogs.insertMany (∅ : DialogMap).toList) [] = p.mDialogs := ExtTreeMap.insertMany_nil
  rw [Thread.settle, if_neg hcontacts, if_neg hdialogs, hnil, hchanged, hremoved, if_pos hempty, hmessageMap, hdialogMap]
  simp

/-- The permissions of a host follow its contacts. -/
theorem updatePermissions_permits (h : Gathered files t p n) (ht : Consistent files t ds) (hpermits : Permits t) :
    ∃ permissionPublication, p.updatePermissions p.settle.mContacts.mContacts = .ok permissionPublication ∧
      (t.mType = .host → ∃ publication, permissionPublication = some publication ∧
        publication.mDocument = createDocumentFromRelationships p.settle.mContacts.mContacts.keys) := by
  have hpermission := h.keeps.permissionPublication
  unfold Thread.updatePermissions
  by_cases hhost : t.mType = .host
  · obtain ⟨publication, hpublication, hdoc⟩ := hpermits hhost
    rw [h.keeps.type, hpermission, hpublication]
    split
    · obtain ⟨publication', hupdate, hdoc', -⟩ := updateRelationships_document publication p.settle.mContacts.mContacts.keys
      simp only [hupdate]
      exact ⟨_, rfl, fun _ => ⟨publication', rfl, hdoc'⟩⟩
    case isFalse hsame =>
      refine ⟨_, rfl, fun _ => ⟨publication, rfl, ?_⟩⟩
      obtain ⟨hchanged, hremoved⟩ : p.changed.mContactsChanged = ∅ ∧ p.changed.mContactsRemoved = [] := by
        simpa [hhost] using hsame
      have hcontacts : p.settle.mContacts.mContacts = t.mContacts.mContacts := by
        rw [settle_contacts h ht.contacts]
        split
        · rw [contactsSettled, hchanged, hremoved, contactsAfter_same]
        · rfl
      rw [hdoc, hcontacts]
  · rw [h.keeps.type, if_neg fun hboth => hhost hboth.1]
    exact ⟨_, rfl, fun hyes => absurd hyes hhost⟩

/-- At the end of a batch the thread is settled, its document shows it, and its permissions list its contacts. -/
theorem updateEnd_shows (h : Gathered files t p n) (ht : Consistent files t ds) (hsettles : Settles t p)
    (hshows : Shows files t ds old) (hdoc : t.mPublication.mDocument = old.document) (hmodify : t.mCanModify = true)
    (hchanges : t.mChangesDoc = none) (hpermits : Permits t) :
    ∃ updated mPublication mPermissionPublication changed l,
      p.updateEnd files = .ok (updated, { p.settle with
        mModifying := false, mPublication, mPermissionPublication, mChangesDoc := none, changed }) ∧
      mPublication.mDocument = l.document ∧ mPublication.mName = t.mPublication.mName ∧
      Shows files p.settle (dialogsAfter ds p.changed) l ∧
      (t.mType = .host → ∃ publication, mPermissionPublication = some publication ∧
        publication.mDocument = createDocumentFromRelationships p.settle.mContacts.mContacts.keys) := by
  obtain ⟨l, ⟨items, hsome, hstages, hnames, hprocess⟩, hshown⟩ := changes_written h ht hsettles hshows hdoc
  obtain ⟨permissionPublication, hpermission, hlists⟩ := updatePermissions_permits h ht hpermits
  have hguard : p.mCanModify = true ∧ p.mModifying = true :=
    ⟨h.keeps.canModify.trans hmodify, congrArg Thread.mModifying h.frame⟩
  have hthread : (focus "thread" 0 p.mPublication.mDocument).isNone = false := by
    rw [h.keeps.publication, hdoc]
    rfl
  have hwritten : addItems (fun stage => stage) (p.changesStages files) p.mChangesDoc = .ok (changesOf items) := by
    have hempty := hstages []
    rw [List.nil_append] at hempty
    rw [h.keeps.changesDoc, hchanges]
    exact hempty
  have hpublication : p.mPublication.mDocument = old.document := by rw [h.keeps.publication, hdoc]
  rw [Thread.updateEnd, if_pos hguard, if_neg (by simp [hthread]), hwritten]
  by_cases hitems : items = []
  · -- nothing was gathered
    have hnone : ¬p.changed.something := fun hs => hsome hs hitems
    subst hitems
    have hsame : l.document = old.document := by
      simp only [Diff.processItems, Except.ok.injEq, Prod.mk.injEq, true_and] at hprocess
      exact hprocess.symm
    have hcontacts : p.settle.mContacts = t.mContacts := by rw [settle_nothing hnone, h.keeps.contacts]
    refine ⟨false, p.mPublication, p.mPermissionPublication, p.changed, l, ?_, ?_, ?_, hshown, ?_⟩
    · have hnoChanges : p.mChangesDoc = none := h.keeps.changesDoc.trans hchanges
      rw [settle_nothing hnone, ← hnoChanges]
      rfl
    · rw [hpublication, hsame]
    · rw [h.keeps.publication]
    · rw [hcontacts, h.keeps.permissionPublication]
      exact hpermits
  · have hchangesDoc : changesOf items = some (diffDocument items) := if_neg (by simpa using hitems)
    rw [← hpublication] at hprocess
    obtain ⟨publication, hupdate, hdocument, hname⟩ := update_diffDocument hnames hprocess
    refine ⟨true, publication, permissionPublication, {}, l, ?_, hdocument, ?_, hshown, hlists⟩
    · rw [hchangesDoc]
      simp only [hupdate, hpermission]
      rfl
    · rw [hname, h.keeps.publication]

end UpdateEnd

end OpenPeer.ConversationThread
