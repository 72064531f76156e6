import Std.Data.ExtTreeMap
import OpenPeer.Diff
import OpenPeer.MessageHelper

/-!
# The parts of a conversation thread and their elements

Details, contacts, messages, receipts and dialogs, each with the element that is
written for it and the parser that reads such an element back.
-/
namespace OpenPeer.ConversationThread

open Xml Std

section Details

/-- `Details::ConversationThreadStates` -/
inductive ConversationThreadStates where
  | none
  | closed
  | opened
  deriving DecidableEq

def ConversationThreadStates.toString : ConversationThreadStates → String
  | .none => ""
  | .opened => "open"
  | .closed => "closed"

def toConversationThreadState (state : String) : ConversationThreadStates :=
  ([.none, .closed, .opened].find? fun s => s.toString = state).getD .closed

structure Details where
  mVersion : Nat
  mBaseThreadID : String
  mHostThreadID : String
  mReplacesThreadID : String
  mState : ConversationThreadStates
  mTopic : String
  mCreated : Time
  deriving DecidableEq

/-- `mDetailsEl`, made when the details are created from their parts. -/
def Details.detailsElement (d : Details) : Element :=
  withVersion d.mVersion ⟨"details", [],
    [.element (createElementWithID "threadBase" d.mBaseThreadID),
      .element (createElementWithID "threadHost" d.mHostThreadID),
      .element (createElementWithID "replaces" d.mReplacesThreadID),
      .element (createElementWithText "state" d.mState.toString),
      .element (createElementWithText "topic" d.mTopic),
      .element (createElementWithText "created" (timeToString d.mCreated))]⟩

/-- None when the checks fail. -/
def Details.create (detailsEl : Element) : Option Details := do
  let mVersion ← getVersion detailsEl
  let threadBase ← detailsEl.findFirstChildElement "threadBase"
  let threadHost ← detailsEl.findFirstChildElement "threadHost"
  let replaces ← detailsEl.findFirstChildElement "replaces"
  let state ← detailsEl.findFirstChildElement "state"
  let topic ← detailsEl.findFirstChildElement "topic"
  let created ← detailsEl.findFirstChildElement "created"
  let mCreated := stringToTime created.getText
  if mCreated = .notADateTime then none
  else some {
    mVersion
    mBaseThreadID := threadBase.getAttributeValue "id"
    mHostThreadID := threadHost.getAttributeValue "id"
    mReplacesThreadID := replaces.getAttributeValue "id"
    mState := toConversationThreadState (trim state.getText)
    mTopic := topic.getText
    mCreated }

end Details

section Messages

structure Message where
  mMessageID : String
  mFromPeerURI : String
  mMimeType : String
  mBody : String
  mSent : Time
  mBundleEl : Element

def Message.create (messageBundleEl : Element) : Option Message := do
  let messageEl ← messageBundleEl.findFirstChildElement "message"
  let fromEl ← messageEl.findFirstChildElement "from"
  let sentEl ← messageEl.findFirstChildElement "sent"
  let mimeTypeEl ← messageEl.findFirstChildElement "mimeType"
  let bodyEl ← messageEl.findFirstChildElement "body"
  let mMessageID := messageEl.getAttributeValue "id"
  let mFromPeerURI := fromEl.getAttributeValue "id"
  let mSent := stringToTime sentEl.getText
  if mSent = .notADateTime ∨ mMessageID = "" ∨ mFromPeerURI = "" then none
  else some {
    mMessageID
    mFromPeerURI
    mMimeType := mimeTypeEl.getText
    mBody := bodyEl.getText
    mSent
    mBundleEl := messageBundleEl }

abbrev MessageReceiptMap := ExtTreeMap String Time

structure MessageReceipts where
  mVersion : Nat
  mReceipts : MessageReceiptMap

/-- `mReceiptsEl`, with a version in every case. -/
def MessageReceipts.receiptsElement (r : MessageReceipts) : Element :=
  ⟨"receipts", [("version", toString r.mVersion)],
    r.mReceipts.toList.map fun receipt =>
      .element (createElementWithIDAndText "receipt" receipt.1 (timeToString receipt.2))⟩

def receiptOf (receiptEl : Element) : String × Time :=
  (receiptEl.getAttributeValue "id", stringToTime receiptEl.getText)

def MessageReceipts.create (messageReceiptsEl : Element) : Option MessageReceipts :=
  match Numeric.unsigned uintBound (messageReceiptsEl.getAttributeValue "version") with
  | none => none
  | some mVersion =>
    let receipts := (messageReceiptsEl.childElements "receipt").map receiptOf
    if ∀ receipt ∈ receipts, receipt.2 ≠ .notADateTime then some ⟨mVersion, ExtTreeMap.ofList receipts⟩ else none

end Messages

section Contacts

/-- A contact by its peer URI, with the profile it is listed with. -/
structure ThreadContact where
  mContact : String
  mProfileBundleEl : Option Element

abbrev ThreadContactMap := ExtTreeMap String ThreadContact

structure ThreadContacts where
  mVersion : Nat
  mContacts : ThreadContactMap
  mAddContacts : ThreadContactMap
  mRemoveContacts : List String

/-- The public peer files: the one a contact has as an element, and the peer URI a `peer`
element is loaded for. What was saved for a contact is loaded for it. -/
structure PeerFiles where
  saveToElement : String → Option Element
  loadFromElement : Element → Option String
  saved : ∀ peerURI peerEl, saveToElement peerURI = some peerEl → peerEl.name = "peer" ∧ loadFromElement peerEl = some peerURI

/-- No contact has a public peer file. -/
def noPeerFiles : PeerFiles := ⟨fun _ => none, fun _ => none, fun _ _ h => nomatch h⟩

/-- The element of a contact; none when there is no public peer file for it. -/
def contactElement (files : PeerFiles) (disposition : List (String × String)) (contact : String × ThreadContact) :
    Option Element :=
  (files.saveToElement contact.1).map fun peerEl =>
    let contactEl := createElementWithID "contact" contact.1
    { contactEl with
      attributes := contactEl.attributes ++ disposition
      children := .element peerEl :: (contact.2.mProfileBundleEl.toList.map Node.element) }

def removeElement (contactURI : String) : Element :=
  (createElementWithID "contact" contactURI).setAttribute "disposition" "remove"

/-- `mContactsEl`; none where `ThreadContacts::create` returns null. -/
def ThreadContacts.contactsElement (files : PeerFiles) (c : ThreadContacts) : Option Element := do
  let contacts ← c.mContacts.toList.mapM (contactElement files [])
  let addContacts ← c.mAddContacts.toList.mapM (contactElement files [("disposition", "add")])
  return withVersion c.mVersion ⟨"contacts", [],
    (contacts ++ addContacts ++ c.mRemoveContacts.map removeElement).map Node.element⟩

/-- The contacts as they are listed, each under its own peer URI. -/
def ThreadContacts.create (version : Nat) (contacts addContacts : List ThreadContact) (removeContacts : List String) :
    ThreadContacts where
  mVersion := version
  mContacts := ExtTreeMap.ofList (contacts.map fun contact => (contact.mContact, contact))
  mAddContacts := ExtTreeMap.ofList (addContacts.map fun contact => (contact.mContact, contact))
  mRemoveContacts := removeContacts

/-- A contact that is not to be removed: `findContact` knows it, or it is loaded from its peer file. -/
def contactOf (files : PeerFiles) (findContact : String → Bool) (contactEl : Element) : Option ThreadContact := do
  let id := contactEl.getAttributeValue "id"
  let mContact ← if findContact id then some id
    else (contactEl.findFirstChildElement "peer").bind files.loadFromElement
  let profileBundleEl := contactEl.findFirstChildElement "profileBundle"
  return ⟨mContact, profileBundleEl <|> contactEl.findFirstChildElement "profile"⟩

/-- The loop over the `contact` elements, with what was read so far. -/
def readContacts (files : PeerFiles) (findContact : String → Bool) :
    List Element → ThreadContacts → Option ThreadContacts
  | [], c => some c
  | contactEl :: contactEls, c =>
    let id := contactEl.getAttributeValue "id"
    let disposition := contactEl.getAttributeValue "disposition"
    if disposition = "remove" then
      readContacts files findContact contactEls
        (if id ∈ c.mRemoveContacts then c else { c with mRemoveContacts := c.mRemoveContacts ++ [id] })
    else
      (contactOf files findContact contactEl).bind fun contact =>
        readContacts files findContact contactEls
          (if disposition = "add" then { c with mAddContacts := c.mAddContacts.insert contact.mContact contact }
          else { c with mContacts := c.mContacts.insert contact.mContact contact })

def ThreadContacts.parse (files : PeerFiles) (findContact : String → Bool) (contactsEl : Element) :
    Option ThreadContacts :=
  (getVersion contactsEl).bind fun mVersion =>
    readContacts files findContact (contactsEl.childElements "contact") ⟨mVersion, ∅, ∅, []⟩

end Contacts

section Dialogs

/-- `Dialog::DialogStates` -/
inductive DialogStates where
  | none | preparing | incoming | placed | early | ringing | ringback | opened | active | inactive | hold | closing | closed
  deriving DecidableEq

def DialogStates.toString : DialogStates → String
  | .none => "none"
  | .preparing => "preparing"
  | .incoming => "incoming"
  | .placed => "placed"
  | .early => "early"
  | .ringing => "ringing"
  | .ringback => "ringback"
  | .opened => "open"
  | .active => "active"
  | .inactive => "inactive"
  | .hold => "hold"
  | .closing => "closing"
  | .closed => "closed"

def toDialogStates (state : String) : DialogStates :=
  ([DialogStates.none, .preparing, .incoming, .placed, .early, .ringing, .ringback, .opened, .active, .inactive, .hold,
    .closing, .closed].find? fun s => s.toString = state).getD .none

/-- The codecs of a description that is read are left out: the loop over them does not end. -/
structure Description where
  mVersion : Nat
  mDescriptionID : String
  mType : String
  mSSRC : Nat
  mSecurityCipher : String
  mSecuritySecret : String
  mSecuritySalt : String
  mICEUsernameFrag : String
  mICEPassword : String
  mCandidates : List Element

/-- `mClosedReason` is the `WORD` that was read, cast. -/
structure Dialog where
  mVersion : Nat
  mDialogID : String
  mState : DialogStates
  mClosedReason : Nat
  mClosedReasonMessage : String
  mCallerContactURI : String
  mCallerLocationID : String
  mCalleeContactURI : String
  mCalleeLocationID : String
  mReplacesDialogID : String
  mDescriptions : List Description
  mDialogBundleEl : Element

/-- The checks on a codec. -/
def codecReads (codecEl : Element) : Bool :=
  (Numeric.unsigned (2 ^ 8) (codecEl.getAttributeValue "id")).isSome ∧
    (codecEl.findFirstChildElement "name").isSome ∧
    ∀ field ∈ ["ptime", "rate", "channels"],
      ((codecEl.findFirstChildElement field).bind fun el => Numeric.unsigned uintBound el.getText).isSome

/-- The loop over the codecs never leaves the first one that can be read. -/
def readCodecs (codecsEl : Option Element) : Except Trap (Option Unit) :=
  match codecsEl.bind fun el => el.findFirstChildElement "codec" with
  | none => .ok (some ())
  | some codecEl => if codecReads codecEl then .error .hangs else .ok none

/-- The part of a description before its codecs, and the part behind them. -/
def Description.create (descriptionEl : Element) : Except Trap (Option Description) :=
  let read : Option Description := do
    let mVersion ← getVersion descriptionEl
    let ssrcEl ← descriptionEl.findFirstChildElement "ssrc"
    let mSSRC ← Numeric.unsigned uintBound ssrcEl.getText
    let securityEl ← descriptionEl.findFirstChildElement "security"
    let secretEl ← securityEl.findFirstChildElement "secret"
    let saltEl ← securityEl.findFirstChildElement "salt"
    return {
      mVersion
      mDescriptionID := descriptionEl.getAttributeValue "id"
      mType := descriptionEl.getAttributeValue "type"
      mSSRC
      mSecurityCipher := securityEl.getAttributeValue "cipher"
      mSecuritySecret := secretEl.getText
      mSecuritySalt := saltEl.getText
      mICEUsernameFrag := ""
      mICEPassword := ""
      mCandidates := [] }
  match read, readCodecs (descriptionEl.findFirstChildElement "codecs") with
  | none, _ => .ok none
  | _, .error t => .error t
  | _, .ok none => .ok none
  | some description, .ok (some ()) =>
    match descriptionEl.findFirstChildElement "iceUsernameFrag", descriptionEl.findFirstChildElement "icePassword" with
    | some usernameFrag, some password =>
      match descriptionEl.findFirstChildElement "candidates" with
      | none => .error .nullPointer
      | some candidatesEl =>
        .ok (some { description with
          mICEUsernameFrag := usernameFrag.getText
          mICEPassword := password.getText
          mCandidates := candidatesEl.childElements "candidate" })
    | _, _ => .ok none

def readDescriptions : List Element → Except Trap (Option (List Description))
  | [] => .ok (some [])
  | descriptionEl :: descriptionEls =>
    match Description.create descriptionEl with
    | .error t => .error t
    | .ok none => .ok none
    | .ok (some description) => (readDescriptions descriptionEls).map fun rest => rest.map (description :: ·)

/-- The reason a dialog was closed for and its text; none when the number is out of range. -/
def readClosed (dialogEl : Element) : Option (Nat × String) :=
  match dialogEl.findFirstChildElement "closed" with
  | none => some (0, "")
  | some closedEl => (Numeric.unsigned (2 ^ 16) (closedEl.getAttributeValue "id")).map fun value => (value, closedEl.getText)

def Dialog.create (dialogBundleEl : Element) : Except Trap (Option Dialog) :=
  let read : Option (Dialog × Element) := do
    let dialogEl ← dialogBundleEl.findFirstChildElement "dialog"
    let mVersion ← getVersion dialogEl
    let stateEl ← dialogEl.findFirstChildElement "state"
    let closed ← readClosed dialogEl
    let caller ← dialogEl.findFirstChildElement "caller"
    let callerLocation ← dialogEl.findFirstChildElement "callerLocation"
    let callee ← dialogEl.findFirstChildElement "callee"
    let calleeLocation ← dialogEl.findFirstChildElement "calleeLocation"
    return ({
      mVersion
      mDialogID := dialogEl.getAttributeValue "id"
      mState := toDialogStates stateEl.getText
      mClosedReason := closed.1
      mClosedReasonMessage := closed.2
      mCallerContactURI := caller.getAttributeValue "id"
      mCallerLocationID := callerLocation.getAttributeValue "id"
      mCalleeContactURI := callee.getAttributeValue "id"
      mCalleeLocationID := calleeLocation.getAttributeValue "id"
      mReplacesDialogID := ((dialogEl.findFirstChildElement "replaces").map fun el => el.getAttributeValue "id").getD ""
      mDescriptions := []
      mDialogBundleEl := dialogBundleEl }, dialogEl)
  match read with
  | none => .ok none
  | some (dialog, dialogEl) =>
    (readDescriptions (((dialogEl.findFirstChildElement "descriptions").map fun el => el.childElements "description").getD [])).map
      fun descriptions => descriptions.map fun mDescriptions => { dialog with mDescriptions }

end Dialogs

end OpenPeer.ConversationThread
