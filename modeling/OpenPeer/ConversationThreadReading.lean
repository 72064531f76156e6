import OpenPeer.ConversationThreadReader
import OpenPeer.ConversationThreadUpdate

/-!
# What a reader finds in the document of a thread

The document of a thread is read as the thread's sections, with the times of the details
and of the receipts in whole seconds.
-/
namespace OpenPeer.ConversationThread

open Xml Std

/-- The sections of two threads are the same. -/
structure SameSections (r t : Thread) : Prop where
  details : r.mDetails = t.mDetails
  contacts : r.mContacts = t.mContacts
  messagesVersion : r.mMessagesVersion = t.mMessagesVersion
  messageList : r.mMessageList = t.mMessageList
  messageMap : r.mMessageMap = t.mMessageMap
  receipts : r.mMessageReceipts = t.mMessageReceipts
  dialogsVersion : r.mDialogsVersion = t.mDialogsVersion
  dialogs : r.mDialogs = t.mDialogs

/-- The details with the time that is read. -/
def Details.rounded (d : Details) : Details := { d with mCreated := OpenPeer.rounded d.mCreated }

/-- The thread with the times that are read. -/
def Thread.rounded (t : Thread) : Thread :=
  { t with mDetails := t.mDetails.rounded, mMessageReceipts := t.mMessageReceipts.rounded }

/-- The times of the thread are in whole seconds. -/
def Thread.WholeSeconds (t : Thread) : Prop :=
  t.mDetails.rounded = t.mDetails ∧ t.mMessageReceipts.rounded = t.mMessageReceipts

theorem sameSections_iff {r t : Thread} (h : SameSections r t.rounded) : SameSections r t ↔ t.WholeSeconds := by
  constructor
  · intro hsame
    exact ⟨h.details.symm.trans hsame.details, h.receipts.symm.trans hsame.receipts⟩
  · rintro ⟨hdetails, hreceipts⟩
    exact { h with details := h.details.trans hdetails, receipts := h.receipts.trans hreceipts }

section Parts

variable {files : PeerFiles} {t : Thread} {ds : List Dialog} {l : Layout}

theorem getVersion_written {name : String} {version : Nat} (h : version < uintBound) (children : List Node) :
    getVersion ⟨name, [("version", toString version)], children⟩ = some version := by
  have hattribute : Tag.findAttribute ⟨name, [("version", toString version)], children⟩ "version" = some (toString version) := rfl
  rw [getVersion, hattribute]
  exact Numeric.unsigned_toString h

theorem mapM_create {ms : List Message} (h : ∀ m ∈ ms, m.ParsesBack) :
    (ms.map Message.mBundleEl).mapM Message.create = some ms := by
  induction ms with
  | nil => rfl
  | cons m ms ih =>
    rw [List.map_cons, List.mapM_cons, (h m List.mem_cons_self).create, ih fun m' hm' => h m' (List.mem_cons_of_mem _ hm')]
    rfl

theorem readDialogs_bundles {ds : List Dialog} (h : ∀ d ∈ ds, d.ParsesBack) :
    readDialogs (ds.map Dialog.mDialogBundleEl) = .ok (some ds) := by
  induction ds with
  | nil => rfl
  | cons d ds ih =>
    have hrest := ih fun d' hd' => h d' (List.mem_cons_of_mem _ hd')
    simp only [List.map_cons, readDialogs, (h d List.mem_cons_self).create, hrest, Except.map, Option.map_some]

theorem childElements_messages {version : Nat} {ms : List Message} (h : ∀ m ∈ ms, m.ParsesBack) :
    (messagesElement version ms).childElements "messageBundle" = ms.map Message.mBundleEl :=
  elementsNamed_map "messageBundle" fun m hm => (h m hm).name

/-- The sections of a document that shows a thread. -/
theorem readSections_shown (ht : Consistent files t ds) (hshows : Shows files t ds l) (findContact : String → Bool) :
    readSections files findContact l.document = some {
      mDetails := t.mDetails.rounded
      mContacts := t.mContacts
      mMessagesVersion := t.mMessagesVersion
      mMessageList := t.mMessageList
      mMessageReceipts := t.mMessageReceipts.rounded
      mDialogsVersion := t.mDialogsVersion
      dialogBundles := ds.map Dialog.mDialogBundleEl } := by
  have hthread : (elementsNamed "thread" l.document).head? = some l.threadElement := rfl
  have hdetails : l.threadElement.findFirstChildElement "details" = some t.mDetails.detailsElement := by
    rw [← hshows.details]
    exact l.findFirstChildElement .details
  have hcontacts : l.threadElement.findFirstChildElement "contacts" = some (l.part .contacts) :=
    l.findFirstChildElement .contacts
  have hmessages : l.threadElement.findFirstChildElement "messages" =
      some (messagesElement t.mMessagesVersion t.mMessageList) := by
    rw [← hshows.messages]
    exact l.findFirstChildElement .messages
  have hreceipts : l.threadElement.findFirstChildElement "receipts" = some t.mMessageReceipts.receiptsElement := by
    rw [← hshows.receipts]
    exact l.findFirstChildElement .receipts
  have hdialogs : l.threadElement.findFirstChildElement "dialogs" = some (dialogsElement t.mDialogsVersion ds) := by
    rw [← hshows.dialogs]
    exact l.findFirstChildElement .dialogs
  obtain ⟨contactsEl, hcontactsEl, -, hparse⟩ := ThreadContacts.parse_contactsElement ht.contacts ht.contactsVersion
  obtain rfl : l.part .contacts = contactsEl := Option.some.inj (hshows.contacts.symm.trans hcontactsEl)
  have hbundles : (dialogsElement t.mDialogsVersion ds).childElements "dialogBundle" = ds.map Dialog.mDialogBundleEl :=
    childElements_dialogs fun d hd => (ht.dialogs d hd).bundled
  have hmessagesVersion : getVersion (messagesElement t.mMessagesVersion t.mMessageList) = some t.mMessagesVersion :=
    getVersion_written ht.messagesVersion _
  have hdialogsVersion : getVersion (dialogsElement t.mDialogsVersion ds) = some t.mDialogsVersion :=
    getVersion_written ht.dialogsVersion _
  simp only [readSections, hthread, hdetails, hcontacts, hmessages, hreceipts, hdialogs, Option.bind_eq_bind,
    Option.bind_some, Details.create_detailsElement ht.detailsVersion ht.created, hparse, hmessagesVersion,
    childElements_messages ht.messages, mapM_create ht.messages, MessageReceipts.create_receiptsElement ht.receiptsVersion ht.receipts,
    hdialogsVersion, hbundles]
  rfl

theorem createFrom_shown (ht : Consistent files t ds) (hshows : Shows files t ds l) {publication : Publication}
    (hdoc : publication.mDocument = l.document) (findContact : String → Bool) (now : Time) :
    ∃ r, Thread.createFrom files findContact publication now = .ok (some r) ∧ SameSections r t.rounded ∧
      r.mPublication = publication := by
  have hread := readSections_shown ht hshows findContact
  refine ⟨_, by simp only [Thread.createFrom, hdoc, hread, readDialogs_bundles ht.dialogs, Except.map, Option.map_some]; rfl,
    ?_, rfl⟩
  exact {
    details := rfl
    contacts := rfl
    messagesVersion := rfl
    messageList := rfl
    messageMap := ht.messageMap.symm
    receipts := rfl
    dialogsVersion := rfl
    dialogs := ht.dialogMap.symm }

end Parts

end OpenPeer.ConversationThread
