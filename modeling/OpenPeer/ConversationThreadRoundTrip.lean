import OpenPeer.ConversationThreadElements
import OpenPeer.Maps

/-!
# The parts of a conversation thread are read back

What is written for details, receipts and contacts is parsed to the same details,
receipts and contacts, with times in whole seconds.
-/
namespace OpenPeer.ConversationThread

open Xml Std

section Details

theorem toConversationThreadState_toString (state : ConversationThreadStates) :
    toConversationThreadState (trim state.toString) = state := by
  cases state <;> decide +kernel

theorem Details.create_detailsElement {d : Details} (hversion : d.mVersion < uintBound)
    (hcreated : rounded d.mCreated ≠ .notADateTime) :
    Details.create d.detailsElement = some { d with mCreated := rounded d.mCreated } := by
  have hread : getVersion d.detailsElement = some d.mVersion := getVersion_withVersion hversion rfl
  unfold rounded at hcreated ⊢
  unfold Details.create
  rw [hread]
  simp [Details.detailsElement, Tag.findFirstChildElement, Tag.childElements, hcreated,
    toConversationThreadState_toString]

end Details

section Receipts

/-- The receipts with the times that are read. -/
def MessageReceipts.rounded (r : MessageReceipts) : MessageReceipts :=
  { r with mReceipts := r.mReceipts.map fun _ time => OpenPeer.rounded time }

theorem childElements_receipts (r : MessageReceipts) :
    (r.receiptsElement.childElements "receipt").map receiptOf =
      r.mReceipts.toList.map fun receipt => (receipt.1, OpenPeer.rounded receipt.2) := by
  have hnames : r.receiptsElement.childElements "receipt" =
      r.mReceipts.toList.map fun receipt => createElementWithIDAndText "receipt" receipt.1 (timeToString receipt.2) := by
    exact elementsNamed_map "receipt" fun receipt _ => createElementWithIDAndText_name _ _ _
  rw [hnames, List.map_map]
  refine List.map_congr_left fun receipt _ => ?_
  simp only [Function.comp_apply, receiptOf, createElementWithIDAndText_id, createElementWithIDAndText_getText]
  rfl

theorem MessageReceipts.create_receiptsElement {r : MessageReceipts} (hversion : r.mVersion < uintBound)
    (hreceipts : ∀ receipt ∈ r.mReceipts.toList, OpenPeer.rounded receipt.2 ≠ .notADateTime) :
    MessageReceipts.create r.receiptsElement = some r.rounded := by
  have hread : Numeric.unsigned uintBound (r.receiptsElement.getAttributeValue "version") = some r.mVersion := by
    have hattribute : r.receiptsElement.getAttributeValue "version" = toString r.mVersion := rfl
    rw [hattribute, Numeric.unsigned_toString hversion]
  have hvalid : ∀ receipt ∈ (r.receiptsElement.childElements "receipt").map receiptOf, receipt.2 ≠ .notADateTime := by
    rw [childElements_receipts]
    intro receipt hreceipt
    obtain ⟨entry, hentry, rfl⟩ := List.mem_map.mp hreceipt
    exact hreceipts entry hentry
  simp only [MessageReceipts.create, hread]
  have hmap := ExtTreeMap.toList_map (t := r.mReceipts) (f := fun _ time => OpenPeer.rounded time)
  rw [if_pos hvalid, childElements_receipts, MessageReceipts.rounded, ← hmap, Maps.ofList_toList]

end Receipts

section Contacts

variable {files : PeerFiles} {findContact : String → Bool}

/-- A contact that can be written: it has a public peer file, and its profile is of a name that is looked for. -/
structure Writable (files : PeerFiles) (contact : String × ThreadContact) : Prop where
  keyed : contact.2.mContact = contact.1
  saved : (files.saveToElement contact.1).isSome
  profile : ∀ profileBundleEl ∈ contact.2.mProfileBundleEl, profileBundleEl.name = "profileBundle" ∨ profileBundleEl.name = "profile"

def dispositionOf (add : Bool) : List (String × String) := if add then [("disposition", "add")] else []

/-- The contacts with some more of one kind. -/
def ThreadContacts.with (c : ThreadContacts) (add : Bool) (contacts : List (String × ThreadContact)) : ThreadContacts :=
  if add then { c with mAddContacts := c.mAddContacts.insertMany contacts }
  else { c with mContacts := c.mContacts.insertMany contacts }

theorem contactOf_contactElement (findContact : String → Bool) (add : Bool) {contact : String × ThreadContact}
    (h : Writable files contact) :
    ∃ contactEl, contactElement files (dispositionOf add) contact = some contactEl ∧ contactEl.name = "contact" ∧
      contactEl.getAttributeValue "disposition" = (if add then "add" else "") ∧
      contactOf files findContact contactEl = some contact.2 := by
  obtain ⟨peerURI, mContact, profile⟩ := contact
  obtain ⟨peerEl, hpeer⟩ := Option.isSome_iff_exists.mp h.saved
  obtain ⟨hname, hload⟩ := files.saved peerURI peerEl hpeer
  obtain rfl : mContact = peerURI := h.keyed
  have hid : Tag.getAttributeValue { createElementWithID "contact" mContact with
      attributes := (createElementWithID "contact" mContact).attributes ++ dispositionOf add
      children := Node.element peerEl :: profile.toList.map Node.element } "id" = mContact := by
    unfold createElementWithID dispositionOf Tag.getAttributeValue Tag.findAttribute
    by_cases hempty : mContact = ""
    · cases add <;> simp [hempty, Tag.create]
    · cases add <;> simp [hempty, Tag.create, Tag.setAttribute, putAttribute]
  refine ⟨_, by rw [contactElement, hpeer]; rfl, by simp, ?_, ?_⟩
  · unfold createElementWithID dispositionOf Tag.getAttributeValue Tag.findAttribute
    by_cases hempty : mContact = ""
    · cases add <;> simp [hempty, Tag.create]
    · cases add
      · simp [hempty, Tag.create, Tag.setAttribute, putAttribute]
      · simp only [hempty, if_false, Tag.create, Tag.setAttribute, putAttribute]
        rfl
  · unfold contactOf
    rw [hid]
    cases hprofile : profile with
    | none => simp [Tag.findFirstChildElement, Tag.childElements, hname, hload]
    | some profileBundleEl =>
      rcases h.profile profileBundleEl hprofile with hbundle | hbundle
      · simp [Tag.findFirstChildElement, Tag.childElements, hname, hload, hbundle]
      · simp [Tag.findFirstChildElement, Tag.childElements, hname, hload, hbundle]

/-- The contacts of one kind are read one after another. -/
theorem readContacts_contacts (findContact : String → Bool) (add : Bool) {contacts : List (String × ThreadContact)}
    (h : ∀ contact ∈ contacts, Writable files contact) :
    ∃ contactEls, contacts.mapM (contactElement files (dispositionOf add)) = some contactEls ∧
      (∀ el ∈ contactEls, el.name = "contact") ∧
      ∀ rest c, readContacts files findContact (contactEls ++ rest) c =
        readContacts files findContact rest (c.with add contacts) := by
  induction contacts with
  | nil =>
    refine ⟨[], rfl, by simp, fun rest c => ?_⟩
    cases add <;> rfl
  | cons contact contacts ih =>
    obtain ⟨contactEls, hmapM, hnames, hread⟩ := ih fun e he => h e (List.mem_cons_of_mem _ he)
    have hcontact := h contact List.mem_cons_self
    obtain ⟨contactEl, hel, hname, hdisposition, hof⟩ := contactOf_contactElement findContact add hcontact
    refine ⟨contactEl :: contactEls, by rw [List.mapM_cons, hel, hmapM]; rfl, ?_, fun rest c => ?_⟩
    · intro el hmem
      rcases List.mem_cons.mp hmem with rfl | hmem
      · exact hname
      · exact hnames el hmem
    · have hkey : contact.2.mContact = contact.1 := hcontact.keyed
      rw [List.cons_append, readContacts, hdisposition, hof]
      cases add
      · simp only [Bool.false_eq_true, if_false, Option.bind_some, hkey]
        rw [if_neg (by decide), if_neg (by decide), hread]
        simp only [ThreadContacts.with, Bool.false_eq_true, if_false]
        rw [← ExtTreeMap.insertMany_cons]
      · simp only [if_true, Option.bind_some, hkey]
        rw [if_neg (by decide), hread]
        simp only [ThreadContacts.with, if_true]
        rw [← ExtTreeMap.insertMany_cons]

theorem readContacts_removals {contactURIs : List String} (c : ThreadContacts) (h : (c.mRemoveContacts ++ contactURIs).Nodup) :
    readContacts files findContact (contactURIs.map removeElement) c =
      some { c with mRemoveContacts := c.mRemoveContacts ++ contactURIs } := by
  induction contactURIs generalizing c with
  | nil => simp [readContacts]
  | cons uri uris ih =>
    have hid : (removeElement uri).getAttributeValue "id" = uri := by
      unfold removeElement createElementWithID Tag.getAttributeValue Tag.findAttribute
      by_cases hempty : uri = "" <;> simp [hempty, Tag.create, Tag.setAttribute, putAttribute]
    have hremove : (removeElement uri).getAttributeValue "disposition" = "remove" := by
      rw [removeElement, Tag.getAttributeValue, findAttribute_setAttribute]
      rfl
    have hnew : uri ∉ c.mRemoveContacts := fun hmem =>
      (List.nodup_append.mp h).2.2 uri hmem uri List.mem_cons_self rfl
    rw [List.map_cons, readContacts, hremove, hid]
    simp only [if_true, if_neg hnew]
    rw [ih _ (by simpa using h)]
    simp

/-- Contacts that can be written, with each one to be removed named once. -/
structure ThreadContacts.Writable (files : PeerFiles) (c : ThreadContacts) : Prop where
  contacts : ∀ contact ∈ c.mContacts.toList, ConversationThread.Writable files contact
  addContacts : ∀ contact ∈ c.mAddContacts.toList, ConversationThread.Writable files contact
  removeContacts : c.mRemoveContacts.Nodup

theorem ThreadContacts.parse_contactsElement {c : ThreadContacts} (h : c.Writable files) (hversion : c.mVersion < uintBound) :
    ∃ contactsEl, c.contactsElement files = some contactsEl ∧ contactsEl.name = "contacts" ∧
      ∀ findContact, ThreadContacts.parse files findContact contactsEl = some c := by
  obtain ⟨contactEls, hcontacts, hnames, -⟩ := readContacts_contacts (fun _ => false) false h.contacts
  obtain ⟨addEls, hadd, haddNames, -⟩ := readContacts_contacts (fun _ => false) true h.addContacts
  have hwritten : c.contactsElement files = some (withVersion c.mVersion ⟨"contacts", [],
      (contactEls ++ addEls ++ c.mRemoveContacts.map removeElement).map Node.element⟩) := by
    unfold dispositionOf at hcontacts hadd
    simp only [Bool.false_eq_true, if_false, if_true] at hcontacts hadd
    rw [ThreadContacts.contactsElement, hcontacts, hadd]
    rfl
  refine ⟨_, hwritten, by simp, fun findContact => ?_⟩
  obtain ⟨contactEls', hcontacts', -, hread⟩ := readContacts_contacts findContact false h.contacts
  obtain ⟨addEls', hadd', -, haddRead⟩ := readContacts_contacts findContact true h.addContacts
  obtain rfl : contactEls = contactEls' := Option.some.inj (hcontacts.symm.trans hcontacts')
  obtain rfl : addEls = addEls' := Option.some.inj (hadd.symm.trans hadd')
  have hnamed : ∀ el ∈ contactEls ++ addEls ++ c.mRemoveContacts.map removeElement, el.name = "contact" := by
    intro el hel
    rcases List.mem_append.mp hel with hel | hel
    · rcases List.mem_append.mp hel with hel | hel
      · exact hnames el hel
      · exact haddNames el hel
    · obtain ⟨uri, -, rfl⟩ := List.mem_map.mp hel
      exact createElementWithID_name "contact" uri
  rw [ThreadContacts.parse, getVersion_withVersion hversion rfl, Option.bind_some, Tag.childElements,
    withVersion_children, elementsNamed_map "contact" hnamed, List.map_id', List.append_assoc, hread, haddRead,
    readContacts_removals _ (by simpa [ThreadContacts.with] using h.removeContacts)]
  simp [ThreadContacts.with, Maps.insertMany_toList]

end Contacts

end OpenPeer.ConversationThread
