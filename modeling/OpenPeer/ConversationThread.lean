import OpenPeer.ConversationThreadElements
import OpenPeer.Maps
import OpenPeer.Publication

/-!
# A conversation thread and its updates

A thread that may be modified is changed in batches. The calls of a batch gather what
changes; at its end the changes are written as one difference document, each item with
its path in the old document, and the publication is updated with it.
-/
namespace OpenPeer.ConversationThread

open Xml Std

/-- `Thread::ThreadTypes` -/
inductive ThreadTypes where
  | host
  | slave
  deriving DecidableEq

def ThreadTypes.toString : ThreadTypes → String
  | .host => "host"
  | .slave => "slave"

abbrev MessageMap := ExtTreeMap String Message

abbrev DialogMap := ExtTreeMap String Dialog

/-- A description with the id of its dialog. -/
abbrev ChangedDescriptionMap := ExtTreeMap String (String × Description)

/-- What the calls of a batch have gathered, or what a reader found changed. -/
structure Changed where
  mDetailsChanged : Bool := false
  mContactsChanged : ThreadContactMap := ∅
  mContactsRemoved : List String := []
  mContactsToAddChanged : ThreadContactMap := ∅
  mContactsToAddRemoved : List String := []
  mContactsToRemoveChanged : List String := []
  mContactsToRemoveRemoved : List String := []
  mMessagesChanged : List Message := []
  mMessageReceiptsChanged : MessageReceiptMap := ∅
  mDialogsChanged : DialogMap := ∅
  mDialogsRemoved : List String := []
  mDescriptionsChanged : ChangedDescriptionMap := ∅
  mDescriptionsRemoved : List String := []

structure Thread where
  mType : ThreadTypes
  mCanModify : Bool
  mModifying : Bool
  mPublication : Publication
  mPermissionPublication : Option Publication
  mDetails : Details
  mContacts : ThreadContacts
  mMessagesVersion : Nat
  mMessageList : List Message
  mMessageMap : MessageMap
  mMessageReceipts : MessageReceipts
  mDialogsVersion : Nat
  mDialogs : DialogMap
  mChangesDoc : Option Document
  mMessagesChangedTime : Time
  changed : Changed

def Thread.resetChanged (t : Thread) : Thread := { t with changed := {} }

section Create

/-- The document of a thread without contacts, messages, receipts and dialogs. -/
def newDocument (mDetails : Details) (contactsEl : Element) (mMessageReceipts : MessageReceipts) : Document :=
  [.element ⟨"thread", [],
    [.element mDetails.detailsElement, .element contactsEl, .element (withVersion 1 (Tag.create "messages")),
      .element mMessageReceipts.receiptsElement, .element (withVersion 1 (Tag.create "dialogs"))]⟩]

/-- The thread of a location; a slave's can be read by the contact of the host. -/
def Thread.create (files : PeerFiles) (threadType : ThreadTypes)
    (baseThreadID hostThreadID topic replaces : String) (state : ConversationThreadStates)
    (hostContactURI : Option String) (now : Time) : Except Trap Thread :=
  let mDetails : Details := ⟨1, baseThreadID, hostThreadID, replaces, state, topic, now⟩
  let mContacts := ThreadContacts.create 1 [] [] []
  let mMessageReceipts : MessageReceipts := ⟨1, ∅⟩
  let baseName := "/threads/1.0/" ++ threadType.toString ++ "/" ++ baseThreadID ++ "/" ++ hostThreadID ++ "/"
  match mContacts.contactsElement files, threadType, hostContactURI with
  | none, _, _ => .error .nullPointer
  | some _, .slave, none => .error .thrown
  | some contactsEl, _, _ =>
    let relationships := if threadType = .slave then hostContactURI.toList else []
    .ok {
      mType := threadType
      mCanModify := true
      mModifying := false
      mPublication := Publication.create (baseName ++ "state") (newDocument mDetails contactsEl mMessageReceipts)
      mPermissionPublication :=
        some (Publication.create (baseName ++ "permissions") (createDocumentFromRelationships relationships))
      mDetails
      mContacts
      mMessagesVersion := 1
      mMessageList := []
      mMessageMap := ∅
      mMessageReceipts
      mDialogsVersion := 1
      mDialogs := ∅
      mChangesDoc := none
      mMessagesChangedTime := .notADateTime
      changed := {} }

end Create

section Calls

def Thread.updateBegin (t : Thread) : Except Trap Thread :=
  if t.mCanModify = true ∧ t.mModifying = false ∧ t.mChangesDoc.isNone then
    .ok { t.resetChanged with mModifying := true }
  else .error .thrown

/-- The guard at the head of each call of a batch. -/
def Thread.modify (t : Thread) (call : Thread → Thread) : Except Trap Thread :=
  if t.mCanModify = true ∧ t.mModifying = true then .ok (call t) else .error .thrown

def Thread.setState (t : Thread) (state : ConversationThreadStates) (now : Time) : Thread :=
  if state = t.mDetails.mState then t
  else { t with
    changed := { t.changed with mDetailsChanged := true }
    mDetails := { t.mDetails with mVersion := increment t.mDetails.mVersion, mState := state, mCreated := now } }

/-- The contacts that are not on the old list. -/
def newContacts (contacts oldContacts : ThreadContactMap) : ThreadContactMap :=
  contacts.filter fun id _ => !oldContacts.contains id

/-- The contacts of the old list that are no longer there. -/
def removedContacts (contacts oldContacts : ThreadContactMap) : List String :=
  oldContacts.keys.filter fun id => !contacts.contains id

def Thread.setContacts (t : Thread) (contacts : ThreadContactMap) : Thread :=
  { t with changed := { t.changed with
      mContactsChanged := newContacts contacts t.mContacts.mContacts
      mContactsRemoved := removedContacts contacts t.mContacts.mContacts } }

def Thread.setContactsToAdd (t : Thread) (contacts : ThreadContactMap) : Thread :=
  { t with changed := { t.changed with
      mContactsToAddChanged := newContacts contacts t.mContacts.mAddContacts
      mContactsToAddRemoved := removedContacts contacts t.mContacts.mAddContacts } }

def Thread.setContactsToRemove (t : Thread) (contacts : List String) : Thread :=
  let oldContactsToRemove := (Maps.keySet t.mContacts.mRemoveContacts : ExtTreeMap String Unit)
  let tempContacts := (Maps.keySet contacts : ExtTreeMap String Unit)
  { t with changed := { t.changed with
      mContactsToRemoveChanged := contacts.filter fun id => !oldContactsToRemove.contains id
      mContactsToRemoveRemoved := oldContactsToRemove.keys.filter fun id => !tempContacts.contains id } }

/-- Only the messages of earlier batches are known; one that is listed twice is added twice. -/
def Thread.addMessages (t : Thread) (messages : List Message) (now : Time) : Thread :=
  let added := messages.filter fun message => !t.mMessageMap.contains message.mMessageID
  { t with
    changed := { t.changed with mMessagesChanged := t.changed.mMessagesChanged ++ added }
    mMessagesChangedTime := if added.isEmpty then t.mMessagesChangedTime else now }

def Thread.setReceived (t : Thread) (message : Message) (now : Time) : Thread :=
  { t with changed := { t.changed with mMessageReceiptsChanged := (∅ : MessageReceiptMap).insert message.mMessageID now } }

/-- A receipt of one map is missing in the other, or has another time there. -/
def receiptsDiffer (receipts others : MessageReceiptMap) : Bool :=
  receipts.toList.any fun receipt => others[receipt.1]? ≠ some receipt.2

/-- `setReceived` with a map -/
def Thread.setReceivedMap (t : Thread) (messages : MessageReceiptMap) : Thread :=
  let mReceipts := t.mMessageReceipts.mReceipts
  if !t.changed.mMessageReceiptsChanged.isEmpty ∨ receiptsDiffer messages mReceipts ∨ receiptsDiffer mReceipts messages then
    { t with changed := { t.changed with mMessageReceiptsChanged := messages } }
  else t

def Thread.addDialogs (t : Thread) (dialogs : List Dialog) : Thread :=
  { t with changed := { t.changed with
      mDialogsChanged := t.changed.mDialogsChanged.insertMany (dialogs.map fun dialog => (dialog.mDialogID, dialog)) } }

def Thread.removeDialogs (t : Thread) (dialogs : List String) : Thread :=
  { t with changed := { t.changed with mDialogsRemoved := t.changed.mDialogsRemoved ++ dialogs } }

/-- A call of a batch; each comes with the time it is made at where it reads the clock. -/
inductive Call where
  | setState (state : ConversationThreadStates) (now : Time)
  | setContacts (contacts : ThreadContactMap)
  | setContactsToAdd (contacts : ThreadContactMap)
  | setContactsToRemove (contacts : List String)
  | addMessages (messages : List Message) (now : Time)
  | setReceived (message : Message) (now : Time)
  | setReceivedMap (messages : MessageReceiptMap)
  | addDialogs (dialogs : List Dialog)
  | updateDialogs (dialogs : List Dialog)
  | removeDialogs (dialogs : List String)

/-- What a call does once its guard is passed. -/
def Thread.effect (t : Thread) : Call → Thread
  | .setState state now => t.setState state now
  | .setContacts contacts => t.setContacts contacts
  | .setContactsToAdd contacts => t.setContactsToAdd contacts
  | .setContactsToRemove contacts => t.setContactsToRemove contacts
  | .addMessages messages now => t.addMessages messages now
  | .setReceived message now => t.setReceived message now
  | .setReceivedMap messages => t.setReceivedMap messages
  | .addDialogs dialogs => t.addDialogs dialogs
  | .updateDialogs dialogs => t.addDialogs dialogs
  | .removeDialogs dialogs => t.removeDialogs dialogs

def Thread.call (t : Thread) (c : Call) : Except Trap Thread := t.modify fun t => t.effect c

def Thread.calls (t : Thread) : List Call → Except Trap Thread
  | [] => .ok t
  | c :: cs =>
    match t.call c with
    | .error trap => .error trap
    | .ok t => t.calls cs

end Calls

section Settle

/-- Some contact is changed or removed. -/
def Changed.changesContacts (c : Changed) : Bool :=
  !c.mContactsChanged.isEmpty || !c.mContactsRemoved.isEmpty || !c.mContactsToAddChanged.isEmpty ||
    !c.mContactsToAddRemoved.isEmpty || !c.mContactsToRemoveChanged.isEmpty || !c.mContactsToRemoveRemoved.isEmpty

/-- The replacement of the contacts. -/
def Thread.changedContacts (t : Thread) : ThreadContacts :=
  let contacts := Maps.eraseAll (t.mContacts.mContacts.insertMany t.changed.mContactsChanged.toList) t.changed.mContactsRemoved
  let addContacts :=
    Maps.eraseAll (t.mContacts.mAddContacts.insertMany t.changed.mContactsToAddChanged.toList) t.changed.mContactsToAddRemoved
  let removeContacts := Maps.eraseAll
    (Maps.keySet (t.mContacts.mRemoveContacts ++ t.changed.mContactsToRemoveChanged) : ExtTreeMap String Unit)
    t.changed.mContactsToRemoveRemoved
  ThreadContacts.create (increment t.mContacts.mVersion) (Maps.values contacts) (Maps.values addContacts) removeContacts.keys

def Changed.changesDialogs (c : Changed) : Bool := !c.mDialogsChanged.isEmpty || !c.mDialogsRemoved.isEmpty

/-- The thread with what the batch gathered put in its place. -/
def Thread.settle (t : Thread) : Thread :=
  { t with
    mContacts := if t.changed.changesContacts then t.changedContacts else t.mContacts
    mMessagesVersion := if t.changed.mMessagesChanged.isEmpty then t.mMessagesVersion else increment t.mMessagesVersion
    mMessageList := t.mMessageList ++ t.changed.mMessagesChanged
    mMessageMap := t.mMessageMap.insertMany (t.changed.mMessagesChanged.map fun message => (message.mMessageID, message))
    mMessageReceipts :=
      if t.changed.mMessageReceiptsChanged.isEmpty then t.mMessageReceipts
      else ⟨increment t.mMessageReceipts.mVersion, t.changed.mMessageReceiptsChanged⟩
    mDialogsVersion := if t.changed.changesDialogs then increment t.mDialogsVersion else t.mDialogsVersion
    mDialogs := Maps.eraseAll (t.mDialogs.insertMany t.changed.mDialogsChanged.toList) t.changed.mDialogsRemoved }

end Settle

section UpdateEnd

def sectionAddress (name : String) : Address := [("thread", 0), (name, 0)]

/-- The section of the document, which is there or `CheckFailed` is thrown. -/
def findSection (doc : Document) (name : String) : Except Trap Element :=
  match cursorAt (sectionAddress name) doc with
  | none => .error .thrown
  | some c => .ok c.element

/-- `createDiffs` without a change of the element itself -/
def addItem (action : Diff.DiffActions) (doc : Document) (path : Address) (newNode : Option Node)
    (mChangesDoc : Option Document) : Except Trap (Option Document) :=
  (Diff.createDiffs action mChangesDoc doc path false newNode false).map Prod.fst

/-- The new version of a section is set as its attribute. -/
def addVersion (doc : Document) (path : Address) (version : Nat) (mChangesDoc : Option Document) :
    Except Trap (Option Document) :=
  (Diff.createDiffsForAttributes mChangesDoc doc path false
    (some ((Tag.create "").setAttribute "version" (toString version))) none).map Prod.fst

/-- Each of some items is added to what the ones before it made. -/
def addItems {α : Type} (add : α → Option Document → Except Trap (Option Document)) :
    List α → Option Document → Except Trap (Option Document)
  | [], mChangesDoc => .ok mChangesDoc
  | a :: as, mChangesDoc =>
    match add a mChangesDoc with
    | .error t => .error t
    | .ok mChangesDoc => addItems add as mChangesDoc

/-- A section that is written anew. -/
def replaceSection (doc : Document) (name : String) (el : Option Element) (mChangesDoc : Option Document) :
    Except Trap (Option Document) :=
  match el, findSection doc name with
  | none, _ => .error .thrown
  | some _, .error t => .error t
  | some el, .ok _ => addItem .replace doc (sectionAddress name) (some (.element el)) mChangesDoc

/-- The number of the bundle that holds the dialog. -/
def findBundle (id : String) : List Element → Nat → Except Trap (Option Nat)
  | [], _ => .ok none
  | dialogBundleEl :: rest, j =>
    match dialogBundleEl.findFirstChildElement "dialog" with
    | none => .error .nullPointer
    | some dialogEl => if dialogEl.getAttributeValue "id" = id then .ok (some j) else findBundle id rest (j + 1)

def bundleAddress (j : Nat) : Address := [("thread", 0), ("dialogs", 0), ("dialogBundle", j)]

/-- The dialog takes the place of the one with its id, or is added at the end. -/
def addDialog (doc : Document) (dialogsEl : Element) (dialog : String × Dialog) (mChangesDoc : Option Document) :
    Except Trap (Option Document) :=
  match findBundle dialog.1 (dialogsEl.childElements "dialogBundle") 0 with
  | .error t => .error t
  | .ok (some j) => addItem .replace doc (bundleAddress j) (some (.element dialog.2.mDialogBundleEl)) mChangesDoc
  | .ok none =>
    addItem .adoptAsLastChild doc (sectionAddress "dialogs") (some (.element dialog.2.mDialogBundleEl)) mChangesDoc

def removeDialog (doc : Document) (dialogsEl : Element) (id : String) (mChangesDoc : Option Document) :
    Except Trap (Option Document) :=
  match findBundle id (dialogsEl.childElements "dialogBundle") 0 with
  | .error t => .error t
  | .ok none => .ok mChangesDoc
  | .ok (some j) => addItem .remove doc (bundleAddress j) none mChangesDoc

/-- The part of `updateEnd` for the messages. -/
def messagesDiffs (doc : Document) (version : Nat) (messages : List Message) (mChangesDoc : Option Document) :
    Except Trap (Option Document) :=
  match findSection doc "messages", addVersion doc (sectionAddress "messages") version mChangesDoc with
  | .error t, _ => .error t
  | .ok _, .error t => .error t
  | .ok _, .ok mChangesDoc =>
    addItems (fun (message : Message) =>
      addItem .adoptAsLastChild doc (sectionAddress "messages") (some (.element message.mBundleEl))) messages mChangesDoc

/-- The part of `updateEnd` for the dialogs. -/
def dialogsDiffs (doc : Document) (version : Nat) (changed : DialogMap) (removed : List String)
    (mChangesDoc : Option Document) : Except Trap (Option Document) :=
  match findSection doc "dialogs", addVersion doc (sectionAddress "dialogs") version mChangesDoc with
  | .error t, _ => .error t
  | .ok _, .error t => .error t
  | .ok dialogsEl, .ok mChangesDoc =>
    match addItems (addDialog doc dialogsEl) changed.toList mChangesDoc with
    | .error t => .error t
    | .ok mChangesDoc => addItems (removeDialog doc dialogsEl) removed mChangesDoc

/-- The parts of `updateEnd` in their order, each when something changed there. -/
def Thread.changesStages (files : PeerFiles) (t : Thread) : List (Option Document → Except Trap (Option Document)) :=
  let doc := t.mPublication.mDocument
  let settled := t.settle
  (if t.changed.mDetailsChanged then [replaceSection doc "details" (some settled.mDetails.detailsElement)] else []) ++
  (if t.changed.changesContacts then [replaceSection doc "contacts" (settled.mContacts.contactsElement files)] else []) ++
  (if !t.changed.mMessagesChanged.isEmpty then
    [messagesDiffs doc settled.mMessagesVersion t.changed.mMessagesChanged] else []) ++
  (if !t.changed.mMessageReceiptsChanged.isEmpty then
    [replaceSection doc "receipts" (some settled.mMessageReceipts.receiptsElement)] else []) ++
  (if t.changed.changesDialogs then
    [dialogsDiffs doc settled.mDialogsVersion t.changed.mDialogsChanged t.changed.mDialogsRemoved] else [])

/-- The permission publication of a host lists its contacts. -/
def Thread.updatePermissions (t : Thread) (contacts : ThreadContactMap) : Except Trap (Option Publication) :=
  if t.mType = .host ∧ (!t.changed.mContactsChanged.isEmpty ∨ !t.changed.mContactsRemoved.isEmpty) then
    match t.mPermissionPublication with
    | none => .error .nullPointer
    | some permissionPublication => (permissionPublication.updateRelationships contacts.keys).map some
  else .ok t.mPermissionPublication

def Thread.updateEnd (files : PeerFiles) (t : Thread) : Except Trap (Bool × Thread) :=
  if t.mCanModify = true ∧ t.mModifying = true then
    if (focus "thread" 0 t.mPublication.mDocument).isNone then .error .thrown
    else
      match addItems (fun stage => stage) (t.changesStages files) t.mChangesDoc with
      | .error trap => .error trap
      | .ok none => .ok (false, { t with mModifying := false })
      | .ok (some changes) =>
        let settled := t.settle
        match t.mPublication.update changes, t.updatePermissions settled.mContacts.mContacts with
        | .error trap, _ => .error trap
        | .ok _, .error trap => .error trap
        | .ok mPublication, .ok mPermissionPublication =>
          .ok (true, { settled.resetChanged with
            mModifying := false, mPublication, mPermissionPublication, mChangesDoc := none })
  else .error .thrown

/-- The thread with the changes of some calls gathered. -/
def Thread.gather (t : Thread) (cs : List Call) : Except Trap Thread :=
  match t.updateBegin with
  | .error trap => .error trap
  | .ok t => t.calls cs

/-- A batch: `updateBegin`, the calls and `updateEnd`. -/
def Thread.batch (files : PeerFiles) (t : Thread) (cs : List Call) : Except Trap Thread :=
  match t.gather cs with
  | .error trap => .error trap
  | .ok t => (t.updateEnd files).map Prod.snd

end UpdateEnd

end OpenPeer.ConversationThread
