import OpenPeer.ConversationThreadReader
import OpenPeer.Deltas

/-!
# What an update reports

After an update the reader's sets of what changed and of what is gone are to be the difference
between the thread before and the thread after. Each section of the document has its own sets,
and its own way to go wrong.
-/
namespace OpenPeer.ConversationThread

open Xml Std

variable {files : PeerFiles} {findContact : String → Bool} {t t' : Thread} {doc : Document}

/-! ## What is to be reported -/

def Thread.messageIDs (t : Thread) : List String := t.mMessageList.map (·.mMessageID)

/-- The descriptions of a thread under their ids. -/
def Thread.descriptions (t : Thread) : ChangedDescriptionMap :=
  ExtTreeMap.ofList (descriptionEntries (Maps.values t.mDialogs))

def sectionOf (doc : Document) (name : String) : Option Element :=
  (elementsNamed "thread" doc).head?.bind fun threadEl => threadEl.findFirstChildElement name

/-- The id of the message of a bundle, which is empty where there is none. -/
def messageIDOf (messageBundleEl : Element) : String :=
  ((messageBundleEl.findFirstChildElement "message").map fun messageEl => messageEl.getAttributeValue "id").getD ""

def bundleIDs (messagesEl : Element) : List String := (messagesEl.childElements "messageBundle").map messageIDOf

/-- The ids of the messages of a document, in order. -/
def documentMessageIDs (doc : Document) : List String := ((sectionOf doc "messages").map bundleIDs).getD []

/-- The messages that were not held before, once each and in the order of the document. -/
structure MessagesExact (doc : Document) (t t' : Thread) : Prop where
  new : t'.changed.mMessagesChanged = t'.mMessageList.filter fun m => m.mMessageID ∉ t.messageIDs
  once : (t'.changed.mMessagesChanged.map (·.mMessageID)).Nodup
  ordered : (t'.changed.mMessagesChanged.map (·.mMessageID)).Sublist (documentMessageIDs doc)

/-- The receipts that were not held before. -/
def ReceiptsExact (t t' : Thread) : Prop :=
  Deltas.Changes (fun _ _ => False) t.mMessageReceipts.mReceipts t'.mMessageReceipts.mReceipts
    t'.changed.mMessageReceiptsChanged

/-- The ids that were added to each of the three lists, and those that were dropped from it. -/
structure ContactsExact (t t' : Thread) : Prop where
  changed : Deltas.Changes (fun _ _ => False) t.mContacts.mContacts t'.mContacts.mContacts t'.changed.mContactsChanged
  removed : Deltas.Removes t.mContacts.mContacts t'.mContacts.mContacts t'.changed.mContactsRemoved
  toAddChanged : Deltas.Changes (fun _ _ => False) t.mContacts.mAddContacts t'.mContacts.mAddContacts
    t'.changed.mContactsToAddChanged
  toAddRemoved : Deltas.Removes t.mContacts.mAddContacts t'.mContacts.mAddContacts t'.changed.mContactsToAddRemoved
  toRemove : Deltas.OfList t.mContacts.mRemoveContacts t'.mContacts.mRemoveContacts
    t'.changed.mContactsToRemoveChanged t'.changed.mContactsToRemoveRemoved

def DialogsExact (t t' : Thread) : Prop :=
  Deltas.Changes (fun dialog dialog' => dialog.mVersion < dialog'.mVersion) t.mDialogs t'.mDialogs
      t'.changed.mDialogsChanged ∧
    Deltas.Removes t.mDialogs t'.mDialogs t'.changed.mDialogsRemoved

def DescriptionsExact (t t' : Thread) : Prop :=
  Deltas.Changes (fun description description' => description.2.mVersion < description'.2.mVersion) t.descriptions
      t'.descriptions t'.changed.mDescriptionsChanged ∧
    Deltas.Removes t.descriptions t'.descriptions t'.changed.mDescriptionsRemoved

/-- What is reported is the difference between the thread before and the thread after. -/
structure Exact (doc : Document) (t t' : Thread) : Prop where
  messages : MessagesExact doc t t'
  receipts : ReceiptsExact t t'
  contacts : ContactsExact t t'
  dialogs : DialogsExact t t'
  descriptions : DescriptionsExact t t'

/-! ## When it is -/

/-- A section of a document is read: its version is above the one that is known. -/
def Reads (doc : Document) (name : String) (known : Nat) (el : Element) : Prop :=
  sectionOf doc name = some el ∧ ∃ version, getVersion el = some version ∧ known < version

/-- The ids behind the last message that is known, from the last one on. -/
def unknownIDs (t : Thread) (messagesEl : Element) : List String :=
  (bundleIDs messagesEl).reverse.takeWhile fun id => !t.mMessageMap.contains id

/-- The versions that a document has for a dialog, in order. -/
def dialogVersions (dialogBundles : List Element) (id : String) : List Nat :=
  dialogBundles.filterMap fun dialogBundleEl =>
    (dialogBundleEl.findFirstChildElement "dialog").bind fun dialogEl =>
      if dialogEl.getAttributeValue "id" = id then getVersion dialogEl else none

/-- Which of those versions are above the known one. -/
def risings (dialogBundles : List Element) (id : String) (known : Nat) : List Bool :=
  (dialogVersions dialogBundles id).map fun version => decide (known < version)

/-- The new messages have ids of their own, no receipt is new, no contact leaves the list of those to be removed, and
a dialog that is listed with a version above the known one is so listed last. -/
structure Plain (files : PeerFiles) (findContact : String → Bool) (t : Thread) (doc : Document) : Prop where
  messages : ∀ messagesEl, Reads doc "messages" t.mMessagesVersion messagesEl → (unknownIDs t messagesEl).Nodup
  receipts : ∀ receiptsEl receipts, Reads doc "receipts" t.mMessageReceipts.mVersion receiptsEl →
    MessageReceipts.create receiptsEl = some receipts →
      ∀ id ∈ receipts.mReceipts, id ∈ t.mMessageReceipts.mReceipts
  contacts : ∀ contactsEl contacts, Reads doc "contacts" t.mContacts.mVersion contactsEl →
    ThreadContacts.parse files findContact contactsEl = some contacts →
      ∀ id ∈ t.mContacts.mRemoveContacts, id ∈ contacts.mRemoveContacts
  dialogs : ∀ dialogsEl, Reads doc "dialogs" t.mDialogsVersion dialogsEl → ∀ id dialog, t.mDialogs[id]? = some dialog →
    true ∈ risings (dialogsEl.childElements "dialogBundle") id dialog.mVersion →
      (risings (dialogsEl.childElements "dialogBundle") id dialog.mVersion).getLast? = some true

/-! ## The sections -/

/-- What was read of a document, section by section. -/
structure ReadFrom (files : PeerFiles) (findContact : String → Bool) (t : Thread) (doc : Document) (u : Update) :
    Prop where
  contacts : ∃ el version, sectionOf doc "contacts" = some el ∧ getVersion el = some version ∧
    risen version t.mContacts.mVersion (ThreadContacts.parse files findContact el) = some u.contacts
  messages : ∃ el version, sectionOf doc "messages" = some el ∧ getVersion el = some version ∧
    risen version t.mMessagesVersion
      ((bundlesBehind t.mMessageMap.contains (el.childElements "messageBundle").reverse []).bind
        fun bundles => bundles.mapM Message.create) = some u.messages
  receipts : ∃ el version, sectionOf doc "receipts" = some el ∧ getVersion el = some version ∧
    u.receipts = if t.mMessageReceipts.mVersion < version then MessageReceipts.create el else none
  dialogs : ∃ el, sectionOf doc "dialogs" = some el ∧ getVersion el = some u.dialogsVersion ∧
    u.dialogBundles = if t.mDialogsVersion < u.dialogsVersion then some (el.childElements "dialogBundle") else none

theorem readUpdate_spec {u : Update} (h : readUpdate files findContact t doc = some u) :
    ReadFrom files findContact t doc u := by
  unfold readUpdate at h
  obtain ⟨threadEl, hthread, h⟩ := Option.bind_eq_some_iff.mp h
  obtain ⟨detailsEl, -, h⟩ := Option.bind_eq_some_iff.mp h
  obtain ⟨detailsVersion, -, h⟩ := Option.bind_eq_some_iff.mp h
  obtain ⟨details, -, h⟩ := Option.bind_eq_some_iff.mp h
  obtain ⟨contactsEl, hcontacts, h⟩ := Option.bind_eq_some_iff.mp h
  obtain ⟨contactsVersion, hcontactsVersion, h⟩ := Option.bind_eq_some_iff.mp h
  obtain ⟨contacts, hcontactsRead, h⟩ := Option.bind_eq_some_iff.mp h
  obtain ⟨messagesEl, hmessages, h⟩ := Option.bind_eq_some_iff.mp h
  obtain ⟨messagesVersion, hmessagesVersion, h⟩ := Option.bind_eq_some_iff.mp h
  obtain ⟨messages, hmessagesRead, h⟩ := Option.bind_eq_some_iff.mp h
  obtain ⟨receiptsEl, hreceipts, h⟩ := Option.bind_eq_some_iff.mp h
  obtain ⟨receiptsVersion, hreceiptsVersion, h⟩ := Option.bind_eq_some_iff.mp h
  obtain ⟨dialogsEl, hdialogs, h⟩ := Option.bind_eq_some_iff.mp h
  obtain ⟨dialogsVersion, hdialogsVersion, h⟩ := Option.bind_eq_some_iff.mp h
  obtain rfl := Option.some.inj h
  have hsection : ∀ name, sectionOf doc name = threadEl.findFirstChildElement name := by
    intro name
    simp [sectionOf, hthread]
  simp only [← hsection] at hcontacts hmessages hreceipts hdialogs
  exact {
    contacts := ⟨contactsEl, contactsVersion, hcontacts, hcontactsVersion, hcontactsRead⟩
    messages := ⟨messagesEl, messagesVersion, hmessages, hmessagesVersion, hmessagesRead⟩
    receipts := ⟨receiptsEl, receiptsVersion, hreceipts, hreceiptsVersion, rfl⟩
    dialogs := ⟨dialogsEl, hdialogs, hdialogsVersion, rfl⟩ }

theorem contactsExact_iff (contacts : Option ThreadContacts) :
    ContactsExact t (t.resetChanged.takeContacts contacts) ↔
      ∀ c, contacts = some c → ∀ id ∈ t.mContacts.mRemoveContacts, id ∈ c.mRemoveContacts := by
  have hnew : ∀ (old : ThreadContactMap) (id : String) (_ : ThreadContact),
      (!old.contains id) = true ↔ ∀ contact, old[id]? = some contact → False := by
    intro old id _
    rw [Maps.not_contains_iff, ExtTreeMap.mem_iff_isSome_getElem?]
    cases old[id]? <;> simp
  cases contacts with
  | none =>
    simp only [reduceCtorEq, false_implies, implies_true, iff_true]
    exact {
      changed := Deltas.changes_self (fun _ => not_false) _
      removed := Deltas.removes_self _
      toAddChanged := Deltas.changes_self (fun _ => not_false) _
      toAddRemoved := Deltas.removes_self _
      toRemove := Deltas.ofList_self _ }
  | some c =>
    constructor
    · rintro h c' hc id hid
      cases hc
      by_contra hgone
      have hremoved := (h.toRemove.removed_iff id).mpr ⟨hid, hgone⟩
      cases hremoved
    · intro h
      have hkept := h c rfl
      have hnone : (Maps.keySet t.mContacts.mRemoveContacts : ExtTreeMap String Unit).keys.filter
          (fun id => !(Maps.keySet c.mRemoveContacts : ExtTreeMap String Unit).contains id) = [] := by
        simp only [List.filter_eq_nil_iff, ExtTreeMap.mem_keys, Maps.mem_keySet, Maps.not_contains_iff, not_not]
        exact hkept
      constructor
      · exact Deltas.changes_filter (hnew _)
      · exact Deltas.removes_filter _ _
      · exact Deltas.changes_filter (hnew _)
      · simp only [Thread.takeContacts, Thread.resetChanged, hnone, List.append_nil]
        exact Deltas.removes_filter _ _
      · constructor
        · intro id
          simp only [Thread.takeContacts, Thread.resetChanged, List.mem_filter, ExtTreeMap.mem_keys, Maps.mem_keySet,
            Maps.not_contains_iff]
        · exact List.Nodup.filter _ ExtTreeMap.nodup_keys
        · intro id
          simp only [Thread.takeContacts, Thread.resetChanged, List.not_mem_nil, false_iff, not_and, not_not]
          exact hkept id
        · exact .nil

theorem receiptsExact_iff (receipts : Option MessageReceipts) :
    ReceiptsExact t (t.resetChanged.takeReceipts receipts) ↔
      ∀ r, receipts = some r → ∀ id ∈ r.mReceipts, id ∈ t.mMessageReceipts.mReceipts := by
  cases receipts with
  | none =>
    simp only [reduceCtorEq, false_implies, implies_true, iff_true]
    exact Deltas.changes_self (fun _ => not_false) _
  | some r =>
    -- the thread goes on holding the receipts of before
    have hnothing : ∀ (id : String) (time : Time), ¬(t.mMessageReceipts.mReceipts[id]? = some time ∧
        ∀ known, t.mMessageReceipts.mReceipts[id]? = some known → False) := by
      rintro id time ⟨htime, hnone⟩
      exact hnone time htime
    constructor
    · rintro h r' hr id hid
      cases hr
      by_contra hnew
      obtain ⟨time, htime⟩ := Option.isSome_iff_exists.mp (ExtTreeMap.mem_iff_isSome_getElem?.mp hid)
      refine hnothing id time ((h id time).mp ?_)
      simp only [Thread.takeReceipts, Thread.resetChanged, ExtTreeMap.getElem?_filter', Option.filter_eq_some_iff]
      exact ⟨htime, Maps.not_contains_iff.mpr hnew⟩
    · intro h id time
      refine iff_of_false ?_ (hnothing id time)
      simp only [Thread.takeReceipts, Thread.resetChanged, ExtTreeMap.getElem?_filter', Option.filter_eq_some_iff]
      rintro ⟨htime, hnew⟩
      exact Maps.not_contains_iff.mp hnew (h r rfl id (ExtTreeMap.mem_iff_isSome_getElem?.mpr (htime ▸ rfl)))

/-! ## The messages -/

theorem mem_messageIDs {m : Message} (h : m ∈ t.mMessageList) : m.mMessageID ∈ t.messageIDs := List.mem_map_of_mem h

/-- The messages of a thread are those of its map. -/
def Thread.Indexed (t : Thread) : Prop := ∀ id, t.mMessageMap.contains id = true ↔ id ∈ t.messageIDs

variable {bundles : List Element}

theorem bundlesBehind_eq {known : String → Bool} {found result : List Element}
    (h : bundlesBehind known bundles found = some result) :
    result = (bundles.takeWhile fun b => !known (messageIDOf b)).reverse ++ found := by
  induction bundles generalizing found with
  | nil => simpa [bundlesBehind] using h.symm
  | cons b bundles ih =>
    simp only [bundlesBehind] at h
    split at h
    case h_1 => cases h
    case h_2 messageEl hmessage =>
      have hid : messageIDOf b = messageEl.getAttributeValue "id" := by simp [messageIDOf, hmessage]
      rw [← hid] at h
      split at h
      case isTrue => cases h
      case isFalse =>
        split at h
        case isTrue hknown => simpa [hknown] using h.symm
        case isFalse hknown =>
          have hrest := ih h
          simp only [Bool.not_eq_true] at hknown
          simp [hrest, hknown]

theorem messageID_of_create {messageBundleEl : Element} {m : Message} (h : Message.create messageBundleEl = some m) :
    m.mMessageID = messageIDOf messageBundleEl := by
  simp only [Message.create, Option.bind_eq_bind, Option.bind_eq_some_iff] at h
  obtain ⟨messageEl, hmessage, fromEl, -, sentEl, -, mimeTypeEl, -, bodyEl, -, hm⟩ := h
  split at hm
  · cases hm
  · obtain rfl := Option.some.inj hm
    simp [messageIDOf, hmessage]

variable {messages : List Message}

theorem messageIDs_of_create (h : bundles.mapM Message.create = some messages) :
    messages.map (·.mMessageID) = bundles.map messageIDOf := by
  induction bundles generalizing messages with
  | nil =>
    cases h
    rfl
  | cons b bundles ih =>
    simp only [List.mapM_cons, Option.bind_eq_bind, Option.bind_eq_some_iff] at h
    obtain ⟨m, hm, rest, hrest, hmessages⟩ := h
    obtain rfl := Option.some.inj hmessages
    rw [List.map_cons, List.map_cons, ih hrest, messageID_of_create hm]

theorem messageIDs_of_read {messagesEl : Element}
    (h : ((bundlesBehind t.mMessageMap.contains (messagesEl.childElements "messageBundle").reverse []).bind fun bundles => bundles.mapM Message.create) = some messages) :
    messages.map (·.mMessageID) = (unknownIDs t messagesEl).reverse := by
  obtain ⟨bundles, hbundles, hmessages⟩ := Option.bind_eq_some_iff.mp h
  rw [messageIDs_of_create hmessages, bundlesBehind_eq hbundles, unknownIDs, bundleIDs, ← List.map_reverse,
    List.takeWhile_map]
  simp [Function.comp_def]

theorem messagesExact_none (now : Time) : MessagesExact doc t (t.resetChanged.takeMessages now none) where
  new := by
    refine (List.filter_eq_nil_iff.mpr fun m hm => ?_).symm
    have hheld : m.mMessageID ∈ t.messageIDs := mem_messageIDs hm
    simpa using hheld
  once := .nil
  ordered := List.nil_sublist _

theorem messagesExact_some (hindexed : t.Indexed) (now : Time) {messagesEl : Element}
    (hsection : sectionOf doc "messages" = some messagesEl)
    (hids : messages.map (·.mMessageID) = (unknownIDs t messagesEl).reverse) :
    MessagesExact doc t (t.resetChanged.takeMessages now (some messages)) ↔ (unknownIDs t messagesEl).Nodup := by
  have hchanged : (t.resetChanged.takeMessages now (some messages)).changed.mMessagesChanged = messages := rfl
  constructor
  · intro h
    have honce := h.once
    rw [hchanged, hids, List.nodup_reverse] at honce
    exact honce
  · intro hnodup
    constructor
    · -- what was held is left out, and what is new was not held
      have hold : t.mMessageList.filter (fun m => decide (m.mMessageID ∉ t.messageIDs)) = [] := by
        refine List.filter_eq_nil_iff.mpr fun m hm => ?_
        simpa using mem_messageIDs hm
      have hnew : messages.filter (fun m => decide (m.mMessageID ∉ t.messageIDs)) = messages := by
        refine List.filter_eq_self.mpr fun m hm => ?_
        have hmem : m.mMessageID ∈ messages.map (·.mMessageID) := List.mem_map_of_mem hm
        rw [hids, List.mem_reverse] at hmem
        have hunknown := List.all_eq_true.mp List.all_takeWhile _ hmem
        rw [decide_eq_true_iff, ← hindexed]
        simpa only [Bool.not_eq_true', Bool.not_eq_true] using hunknown
      have hlist : (t.resetChanged.takeMessages now (some messages)).mMessageList = t.mMessageList ++ messages := rfl
      rw [hchanged, hlist, List.filter_append, hold, hnew, List.nil_append]
    · rw [hchanged, hids, List.nodup_reverse]
      exact hnodup
    · have hsuffix : (unknownIDs t messagesEl).reverse.Sublist (bundleIDs messagesEl) := by
        have hsub := List.reverse_sublist.mpr
          (List.takeWhile_sublist (l := (bundleIDs messagesEl).reverse) fun id => !t.mMessageMap.contains id)
        rwa [List.reverse_reverse] at hsub
      rw [hchanged, hids]
      simpa [documentMessageIDs, hsection] using hsuffix

/-! ## The dialogs and their descriptions -/

theorem version_of_create {dialogBundleEl dialogEl : Element} {dialog : Dialog}
    (hdialog : dialogBundleEl.findFirstChildElement "dialog" = some dialogEl)
    (h : Dialog.create dialogBundleEl = .ok (some dialog)) : getVersion dialogEl = some dialog.mVersion := by
  simp only [Dialog.create, hdialog, Option.bind_eq_bind, Option.bind_some] at h
  split at h
  case h_1 => cases h
  case h_2 read el hread =>
    simp only [Option.bind_eq_some_iff] at hread
    obtain ⟨version, hversion, stateEl, -, closed, -, caller, -, callerLocation, -, callee, -, calleeLocation, -,
      hread⟩ := hread
    obtain ⟨rfl, rfl⟩ := Prod.mk.inj (Option.some.inj hread)
    generalize readDescriptions _ = descriptions at h
    cases descriptions with
    | error => cases h
    | ok descriptions =>
      cases descriptions with
      | none => cases h
      | some => cases h; exact hversion

/-- What a bundle is read as: the dialog that is known, or one that is new or has a version above. -/
inductive ReadAs (mDialogs : DialogMap) (dialogEl : Element) : Dialog → Bool → Prop
  | known {dialog : Dialog} {version : Nat} (hknown : mDialogs[dialogEl.getAttributeValue "id"]? = some dialog)
      (hversion : getVersion dialogEl = some version) (hold : ¬dialog.mVersion < version) :
      ReadAs mDialogs dialogEl dialog false
  | anew {dialog : Dialog} (hversion : getVersion dialogEl = some dialog.mVersion)
      (hrises : ∀ known, mDialogs[dialogEl.getAttributeValue "id"]? = some known → known.mVersion < dialog.mVersion) :
      ReadAs mDialogs dialogEl dialog true

variable {read : List (String × Dialog) × List (String × Dialog)}

theorem readDialogsUpdate_cons {mDialogs : DialogMap} {b : Element}
    (h : readDialogsUpdate mDialogs (b :: bundles) = .ok (some read)) :
    ∃ dialogEl dialog isRead rest, b.findFirstChildElement "dialog" = some dialogEl ∧
      ReadAs mDialogs dialogEl dialog isRead ∧ readDialogsUpdate mDialogs bundles = .ok (some rest) ∧
      read.1 = (dialogEl.getAttributeValue "id", dialog) :: rest.1 ∧
      read.2 = if isRead then (dialogEl.getAttributeValue "id", dialog) :: rest.2 else rest.2 := by
  simp only [readDialogsUpdate] at h
  split at h
  case h_1 => cases h
  case h_2 dialogEl hdialog =>
    split at h
    case h_1 => cases h
    case h_2 dialog hupdate =>
      split at hupdate
      case h_1 => cases hupdate
      case h_2 known hknown =>
        obtain ⟨version, hversion, hsame⟩ := Option.map_eq_some_iff.mp hupdate
        split at hsame
        case isTrue => cases hsame
        case isFalse hold =>
          cases hsame
          cases hrest : readDialogsUpdate mDialogs bundles with
          | error => simp [hrest, Except.map] at h
          | ok rest =>
            cases rest with
            | none => simp [hrest, Except.map] at h
            | some rest =>
              simp only [hrest, Except.map, Option.map_some, Except.ok.injEq, Option.some.injEq] at h
              subst h
              exact ⟨dialogEl, dialog, false, rest, hdialog, .known hknown hversion hold, rfl, rfl, rfl⟩
    case h_3 hupdate =>
      split at h
      case h_1 => cases h
      case h_2 => cases h
      case h_3 dialog hcreate =>
        have hversion := version_of_create hdialog hcreate
        have hrises : ∀ known, mDialogs[dialogEl.getAttributeValue "id"]? = some known →
            known.mVersion < dialog.mVersion := by
          intro known hknown
          simp only [hknown, hversion, Option.map_some, Option.some.injEq, ite_eq_left_iff, reduceCtorEq, imp_false,
            not_not] at hupdate
          exact hupdate
        cases hrest : readDialogsUpdate mDialogs bundles with
        | error => simp [hrest, Except.map] at h
        | ok rest =>
          cases rest with
          | none => simp [hrest, Except.map] at h
          | some rest =>
            simp only [hrest, Except.map, Option.map_some, Except.ok.injEq, Option.some.injEq] at h
            subst h
            exact ⟨dialogEl, dialog, true, rest, hdialog, .anew hversion hrises, rfl, rfl, rfl⟩

theorem risings_cons {b dialogEl : Element} {version : Nat} (hdialog : b.findFirstChildElement "dialog" = some dialogEl)
    (hversion : getVersion dialogEl = some version) (bundles : List Element) (known : Nat) :
    risings (b :: bundles) (dialogEl.getAttributeValue "id") known =
      decide (known < version) :: risings bundles (dialogEl.getAttributeValue "id") known := by
  simp [risings, dialogVersions, hdialog, hversion]

/-- A dialog that is known is read when it is listed with a version above, and one that is not known always. -/
theorem readDialogsUpdate_spec {mDialogs : DialogMap}
    (h : readDialogsUpdate mDialogs bundles = .ok (some read)) (id : String) :
    (mDialogs[id]? = none → Maps.valuesAt read.2 id = Maps.valuesAt read.1 id) ∧
    ∀ known, mDialogs[id]? = some known →
      Maps.valuesAt read.2 id = (Maps.valuesAt read.1 id).filter (fun d => decide (known.mVersion < d.mVersion)) ∧
      (Maps.valuesAt read.1 id).map (fun d => decide (known.mVersion < d.mVersion)) =
        risings bundles id known.mVersion := by
  induction bundles generalizing read with
  | nil =>
    cases h
    simp [Maps.valuesAt, risings, dialogVersions]
  | cons b bundles ih =>
    obtain ⟨dialogEl, dialog, isRead, rest, hdialog, hreadAs, hrest, h₁, h₂⟩ := readDialogsUpdate_cons h
    obtain ⟨ihnone, ihknown⟩ := ih hrest
    rw [h₁, h₂, Maps.valuesAt_cons]
    by_cases hid : dialogEl.getAttributeValue "id" = id
    · subst hid
      cases hreadAs with
      | known hknown hversion hold =>
        refine ⟨fun hnone => absurd (hnone.symm.trans hknown) (by simp), fun known hknown' => ?_⟩
        obtain rfl := Option.some.inj (hknown'.symm.trans hknown)
        obtain ⟨hfilter, hmap⟩ := ihknown known hknown
        rw [risings_cons hdialog hversion]
        simp [hfilter, hmap, hold]
      | anew hversion hrises =>
        refine ⟨fun hnone => by simp [Maps.valuesAt_cons, ihnone hnone], fun known hknown => ?_⟩
        obtain ⟨hfilter, hmap⟩ := ihknown known hknown
        rw [risings_cons hdialog hversion]
        simp [Maps.valuesAt_cons, hfilter, hmap, hrises known hknown]
    · have hrisings : ∀ known, risings (b :: bundles) id known = risings bundles id known := by
        intro known
        simp [risings, dialogVersions, hdialog, hid]
      have hchanged : Maps.valuesAt
          (if isRead then (dialogEl.getAttributeValue "id", dialog) :: rest.2 else rest.2) id =
            Maps.valuesAt rest.2 id := by
        cases isRead <;> simp [Maps.valuesAt_cons, hid]
      simp only [if_neg hid, hchanged, hrisings]
      exact ⟨ihnone, ihknown⟩

variable (dialogsVersion : Nat)

theorem dialogsExact_none : DialogsExact t (t.resetChanged.takeDialogs dialogsVersion none) := by
  constructor
  · apply Deltas.changes_self
    exact fun dialog => Nat.lt_irrefl dialog.mVersion
  · exact Deltas.removes_self _

theorem dialogsExact_some (h : readDialogsUpdate t.mDialogs bundles = .ok (some read)) :
    DialogsExact t (t.resetChanged.takeDialogs dialogsVersion (some read)) ↔
      ∀ id known, t.mDialogs[id]? = some known →
        true ∈ risings bundles id known.mVersion → (risings bundles id known.mVersion).getLast? = some true := by
  have hremoves : Deltas.Removes t.mDialogs (ExtTreeMap.ofList read.1)
      (t.mDialogs.keys.filter fun id => !(ExtTreeMap.ofList read.1 : DialogMap).contains id) :=
    Deltas.removes_filter _ _
  have hchanges : Deltas.Changes (fun dialog dialog' => dialog.mVersion < dialog'.mVersion) t.mDialogs
      (ExtTreeMap.ofList read.1) (ExtTreeMap.ofList read.2) ↔ ∀ id known, t.mDialogs[id]? = some known →
        true ∈ risings bundles id known.mVersion → (risings bundles id known.mVersion).getLast? = some true := by
    refine forall_congr' fun id => ?_
    obtain ⟨hnone, hknown⟩ := readDialogsUpdate_spec h id
    simp only [Maps.getElem?_ofList]
    cases hid : t.mDialogs[id]? with
    | none => simp [hnone hid]
    | some known =>
      obtain ⟨hfilter, hmap⟩ := hknown known hid
      have hlast := Deltas.getLast?_filter_iff (fun d : Dialog => decide (known.mVersion < d.mVersion))
        (Maps.valuesAt read.1 id)
      rw [← hfilter, hmap] at hlast
      simpa using hlast
  exact (and_iff_left hremoves).trans hchanges

theorem descriptionsExact (dialogs : Option (List (String × Dialog) × List (String × Dialog))) :
    DescriptionsExact t (t.resetChanged.takeDialogs dialogsVersion dialogs) := by
  cases dialogs with
  | none =>
    constructor
    · apply Deltas.changes_self
      exact fun description => Nat.lt_irrefl description.2.mVersion
    · exact Deltas.removes_self _
  | some read =>
    constructor
    · apply Deltas.changes_filter
      intro id description'
      change (t.descriptions[id]?.all fun old => decide (old.2.mVersion < description'.2.mVersion)) = true ↔ _
      cases t.descriptions[id]? <;> simp
    · exact Deltas.removes_filter _ _

end OpenPeer.ConversationThread
