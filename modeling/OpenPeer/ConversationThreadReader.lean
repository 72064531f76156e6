import OpenPeer.ConversationThread

/-!
# Reading the publication of a thread

A reader makes a thread of the publication it sees first, and updates it from each later
one: only the sections whose version rose are read again.
-/
namespace OpenPeer.ConversationThread

open Xml Std

/-- From the name of the publication; a name of another form is that of a host. -/
def toThreadTypes (publicationName : String) : ThreadTypes :=
  let parts := publicationName.toList.splitOn '/'
  -- empty parts are left out, but for the last one
  let split := (parts.dropLast.filter (· ≠ [])) ++ parts.getLast?.toList
  if split[2]? = some "slave".toList then .slave else .host

def messageEntry (message : Message) : String × Message := (message.mMessageID, message)

def dialogEntry (dialog : Dialog) : String × Dialog := (dialog.mDialogID, dialog)

/-- The descriptions of some dialogs, each with the id of its dialog. -/
def descriptionEntries (dialogs : List Dialog) : List (String × (String × Description)) :=
  dialogs.flatMap fun dialog =>
    dialog.mDescriptions.map fun description => (description.mDescriptionID, (dialog.mDialogID, description))

def readDialogs : List Element → Except Trap (Option (List Dialog))
  | [] => .ok (some [])
  | dialogBundleEl :: rest =>
    match Dialog.create dialogBundleEl with
    | .error t => .error t
    | .ok none => .ok none
    | .ok (some dialog) => (readDialogs rest).map fun dialogs => dialogs.map (dialog :: ·)

section Create

/-- The sections of a thread document up to the dialogs, and the bundles of those. -/
structure Sections where
  mDetails : Details
  mContacts : ThreadContacts
  mMessagesVersion : Nat
  mMessageList : List Message
  mMessageReceipts : MessageReceipts
  mDialogsVersion : Nat
  dialogBundles : List Element

/-- None where the checks fail. -/
def readSections (files : PeerFiles) (findContact : String → Bool) (doc : Document) : Option Sections := do
  let threadEl ← (elementsNamed "thread" doc).head?
  let mDetails ← (threadEl.findFirstChildElement "details").bind Details.create
  let mContacts ← (threadEl.findFirstChildElement "contacts").bind (ThreadContacts.parse files findContact)
  let messagesEl ← threadEl.findFirstChildElement "messages"
  let mMessagesVersion ← getVersion messagesEl
  let mMessageList ← (messagesEl.childElements "messageBundle").mapM Message.create
  let mMessageReceipts ← (threadEl.findFirstChildElement "receipts").bind MessageReceipts.create
  let dialogsEl ← threadEl.findFirstChildElement "dialogs"
  let mDialogsVersion ← getVersion dialogsEl
  return {
    mDetails
    mContacts
    mMessagesVersion
    mMessageList
    mMessageReceipts
    mDialogsVersion
    dialogBundles := dialogsEl.childElements "dialogBundle" }

/-- `Thread::create` with a publication: all there is counts as changed. -/
def Thread.createFrom (files : PeerFiles) (findContact : String → Bool) (publication : Publication) (now : Time) :
    Except Trap (Option Thread) :=
  match readSections files findContact publication.mDocument with
  | none => .ok none
  | some s =>
    (readDialogs s.dialogBundles).map fun read => read.map fun dialogs => {
      mType := toThreadTypes publication.mName
      mCanModify := false
      mModifying := false
      mPublication := publication
      mPermissionPublication := none
      mDetails := s.mDetails
      mContacts := s.mContacts
      mMessagesVersion := s.mMessagesVersion
      mMessageList := s.mMessageList
      mMessageMap := ExtTreeMap.ofList (s.mMessageList.map messageEntry)
      mMessageReceipts := s.mMessageReceipts
      mDialogsVersion := s.mDialogsVersion
      mDialogs := ExtTreeMap.ofList (dialogs.map dialogEntry)
      mChangesDoc := none
      mMessagesChangedTime := if s.mMessageList.isEmpty then .notADateTime else now
      changed := {
        mDetailsChanged := true
        mContactsChanged := s.mContacts.mContacts
        mContactsToAddChanged := s.mContacts.mAddContacts
        mContactsToRemoveChanged := s.mContacts.mRemoveContacts
        mMessagesChanged := s.mMessageList
        mMessageReceiptsChanged := s.mMessageReceipts.mReceipts
        mDialogsChanged := ExtTreeMap.ofList (dialogs.map dialogEntry)
        mDescriptionsChanged := ExtTreeMap.ofList (descriptionEntries dialogs) } }

end Create

section UpdateFrom

/-- The bundles behind the last known message; none where a bundle has no message or no id. -/
def bundlesBehind (known : String → Bool) : List Element → List Element → Option (List Element)
  | [], found => some found
  | messageBundleEl :: before, found =>
    match messageBundleEl.findFirstChildElement "message" with
    | none => none
    | some messageEl =>
      let id := messageEl.getAttributeValue "id"
      if id = "" then none
      else if known id then some found
      else bundlesBehind known before (messageBundleEl :: found)

/-- What a reader takes over: none for a section whose version did not rise. -/
structure Update where
  details : Option Details
  contacts : Option ThreadContacts
  messages : Option (List Message)
  receipts : Option MessageReceipts
  dialogsVersion : Nat
  dialogBundles : Option (List Element)

/-- A section is read when its version is above the one that is known. -/
def risen {α : Type} (version known : Nat) (read : Option α) : Option (Option α) :=
  if known < version then read.map some else some none

def readUpdate (files : PeerFiles) (findContact : String → Bool) (t : Thread) (doc : Document) : Option Update := do
  let threadEl ← (elementsNamed "thread" doc).head?
  let detailsEl ← threadEl.findFirstChildElement "details"
  let detailsVersion ← getVersion detailsEl
  let details ← risen detailsVersion t.mDetails.mVersion (Details.create detailsEl)
  let contactsEl ← threadEl.findFirstChildElement "contacts"
  let contactsVersion ← getVersion contactsEl
  let contacts ← risen contactsVersion t.mContacts.mVersion (ThreadContacts.parse files findContact contactsEl)
  let messagesEl ← threadEl.findFirstChildElement "messages"
  let messagesVersion ← getVersion messagesEl
  let messages ← risen messagesVersion t.mMessagesVersion
    ((bundlesBehind t.mMessageMap.contains (messagesEl.childElements "messageBundle").reverse []).bind
      fun bundles => bundles.mapM Message.create)
  let receiptsEl ← threadEl.findFirstChildElement "receipts"
  let receiptsVersion ← getVersion receiptsEl
  let dialogsEl ← threadEl.findFirstChildElement "dialogs"
  let dialogsVersion ← getVersion dialogsEl
  return {
    details
    contacts
    messages
    -- receipts that cannot be read are passed over
    receipts := if t.mMessageReceipts.mVersion < receiptsVersion then MessageReceipts.create receiptsEl else none
    dialogsVersion
    dialogBundles := if t.mDialogsVersion < dialogsVersion then some (dialogsEl.childElements "dialogBundle") else none }

/-- The dialogs of the document: the one that is known unless its version rose. The second
list has those that were read. -/
def readDialogsUpdate (mDialogs : DialogMap) : List Element → Except Trap (Option (List (String × Dialog) × List (String × Dialog)))
  | [] => .ok (some ([], []))
  | dialogBundleEl :: rest =>
    match dialogBundleEl.findFirstChildElement "dialog" with
    | none => .error .nullPointer
    | some dialogEl =>
      let id := dialogEl.getAttributeValue "id"
      -- whether the dialog is read anew
      let update := match mDialogs[id]? with
        | none => some none
        | some dialog => (getVersion dialogEl).map fun version => if dialog.mVersion < version then none else some dialog
      match update with
      | none => .ok none
      | some (some dialog) =>
        (readDialogsUpdate mDialogs rest).map fun read => read.map fun r => ((id, dialog) :: r.1, r.2)
      | some none =>
        match Dialog.create dialogBundleEl with
        | .error t => .error t
        | .ok none => .ok none
        | .ok (some dialog) =>
          (readDialogsUpdate mDialogs rest).map fun read => read.map fun r => ((id, dialog) :: r.1, (id, dialog) :: r.2)

/-- The details that are new. -/
def Thread.takeDetails (t : Thread) : Option Details → Thread
  | none => t
  | some details => { t with mDetails := details, changed := { t.changed with mDetailsChanged := true } }

/-- The contacts to be removed that are no longer there are listed with those no longer to be added. -/
def Thread.takeContacts (t : Thread) : Option ThreadContacts → Thread
  | none => t
  | some contacts =>
    let newRemoveContacts := (Maps.keySet contacts.mRemoveContacts : ExtTreeMap String Unit)
    let oldRemoveContacts := (Maps.keySet t.mContacts.mRemoveContacts : ExtTreeMap String Unit)
    { t with
      mContacts := contacts
      changed := { t.changed with
        mContactsChanged := newContacts contacts.mContacts t.mContacts.mContacts
        mContactsToAddChanged := newContacts contacts.mAddContacts t.mContacts.mAddContacts
        mContactsToRemoveChanged := newRemoveContacts.keys.filter fun id => !oldRemoveContacts.contains id
        mContactsRemoved := removedContacts contacts.mContacts t.mContacts.mContacts
        mContactsToAddRemoved := removedContacts contacts.mAddContacts t.mContacts.mAddContacts ++
          oldRemoveContacts.keys.filter fun id => !newRemoveContacts.contains id } }

/-- `mMessagesVersion` stays as it is. -/
def Thread.takeMessages (t : Thread) (now : Time) : Option (List Message) → Thread
  | none => t
  | some messages =>
    { t with
      mMessageList := t.mMessageList ++ messages
      mMessageMap := t.mMessageMap.insertMany (messages.map messageEntry)
      mMessagesChangedTime := if messages.isEmpty then t.mMessagesChangedTime else now
      changed := { t.changed with mMessagesChanged := messages } }

/-- Only what changed is noted: `mMessageReceipts` stays as it is. -/
def Thread.takeReceipts (t : Thread) : Option MessageReceipts → Thread
  | none => t
  | some receipts =>
    { t with changed := { t.changed with
        mMessageReceiptsChanged := receipts.mReceipts.filter fun id _ => !t.mMessageReceipts.mReceipts.contains id } }

def Thread.takeDialogs (t : Thread) (dialogsVersion : Nat) :
    Option (List (String × Dialog) × List (String × Dialog)) → Thread
  | none => t
  | some (dialogs, dialogsChanged) =>
    let mDialogs : DialogMap := ExtTreeMap.ofList dialogs
    let oldDescriptions : ChangedDescriptionMap := ExtTreeMap.ofList (descriptionEntries (Maps.values t.mDialogs))
    let newDescriptions : ChangedDescriptionMap := ExtTreeMap.ofList (descriptionEntries (Maps.values mDialogs))
    { t with
      mDialogs
      mDialogsVersion := dialogsVersion
      changed := { t.changed with
        mDialogsChanged := ExtTreeMap.ofList dialogsChanged
        mDialogsRemoved := t.mDialogs.keys.filter fun id => !mDialogs.contains id
        mDescriptionsChanged := newDescriptions.filter fun id changed =>
          oldDescriptions[id]?.all fun old => old.2.mVersion < changed.2.mVersion
        mDescriptionsRemoved := oldDescriptions.keys.filter fun id => !newDescriptions.contains id } }

/-- False with nothing but the changes reset, or true with each section taken over. -/
def Thread.updateFrom (files : PeerFiles) (findContact : String → Bool) (t : Thread) (publication : Publication)
    (now : Time) : Except Trap (Bool × Thread) :=
  if publication.mName = t.mPublication.mName then
    let t := t.resetChanged
    match readUpdate files findContact t publication.mDocument with
    | none => .ok (false, t)
    | some u =>
      let take (dialogs : Option (List (String × Dialog) × List (String × Dialog))) : Thread :=
        ((((t.takeDetails u.details).takeContacts u.contacts).takeMessages now u.messages).takeReceipts
          u.receipts).takeDialogs u.dialogsVersion dialogs
      match u.dialogBundles with
      | none => .ok (true, take none)
      | some bundles =>
        match readDialogsUpdate t.mDialogs bundles with
        | .error trap => .error trap
        | .ok none => .ok (false, t)
        | .ok (some dialogs) => .ok (true, take (some dialogs))
  else .error .thrown

end UpdateFrom

end OpenPeer.ConversationThread
