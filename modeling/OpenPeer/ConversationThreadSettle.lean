import OpenPeer.ConversationThreadCalls

/-!
# What a batch makes of a thread

The sections of the thread after a batch, each from what was gathered for it: either
nothing was, and the section stays as it is, or it is another one with a higher version.
-/
namespace OpenPeer.ConversationThread

open Xml Std

section Contacts

/-- The contacts of a list with the changed ones put in and the removed ones taken out. -/
def contactsAfter (old changed : ThreadContactMap) (removed : List String) : ThreadContactMap :=
  Maps.eraseAll (old.insertMany changed.toList) removed

def removalsAfter (old changed removed : List String) : List String :=
  (Maps.eraseAll (Maps.keySet (old ++ changed) : ExtTreeMap String Unit) removed).keys

variable {files : PeerFiles} {old changed : ThreadContactMap} {removed : List String}

theorem getElem?_contactsAfter (old changed : ThreadContactMap) (removed : List String) (id : String) :
    (contactsAfter old changed removed)[id]? = if id ∈ removed then none else (changed[id]?).or old[id]? := by
  rw [contactsAfter, Maps.getElem?_eraseAll, Maps.getElem?_insertMany_toList]

theorem mem_contactsAfter {e : String × ThreadContact} (he : e ∈ (contactsAfter old changed removed).toList) :
    e ∈ changed.toList ∨ e ∈ old.toList := by
  rw [ExtTreeMap.mem_toList_iff_getElem?_eq_some, getElem?_contactsAfter] at he
  split at he
  · cases he
  · rcases Option.or_eq_some_iff.mp he with he | ⟨-, he⟩
    · exact .inl (ExtTreeMap.mem_toList_iff_getElem?_eq_some.mpr he)
    · exact .inr (ExtTreeMap.mem_toList_iff_getElem?_eq_some.mpr he)

theorem contactsAfter_same (old : ThreadContactMap) : contactsAfter old ∅ [] = old := by
  have hnil : (∅ : ThreadContactMap).toList = [] := rfl
  rw [contactsAfter, hnil, ExtTreeMap.insertMany_nil]
  rfl

/-- A list of contacts with a new one, or without an old one, is another list. -/
theorem contactsAfter_ne (h : ContactsChange files old changed removed) (hchange : changed ≠ ∅ ∨ removed ≠ []) :
    contactsAfter old changed removed ≠ old := by
  intro heq
  rcases hchange with hchanged | hremoved
  · obtain ⟨e, he⟩ := List.exists_mem_of_ne_nil changed.toList fun hnil => hchanged (ExtTreeMap.toList_eq_nil_iff.mp hnil)
    have hfresh := h.fresh e he
    have hnot : e.1 ∉ removed := fun hin => hfresh (h.held _ hin)
    have hentry : (contactsAfter old changed removed)[e.1]? = some e.2 := by
      rw [getElem?_contactsAfter, if_neg hnot, ExtTreeMap.mem_toList_iff_getElem?_eq_some.mp he, Option.some_or]
    rw [heq] at hentry
    exact hfresh (ExtTreeMap.mem_iff_isSome_getElem?.mpr (by rw [hentry]; rfl))
  · obtain ⟨id, hid⟩ := List.exists_mem_of_ne_nil removed hremoved
    have hgone : (contactsAfter old changed removed)[id]? = none := by rw [getElem?_contactsAfter, if_pos hid]
    have hheld := ExtTreeMap.mem_iff_isSome_getElem?.mp (h.held id hid)
    rw [← heq, hgone] at hheld
    cases hheld

theorem mem_removalsAfter {old changed removed : List String} {id : String} :
    id ∈ removalsAfter old changed removed ↔ id ∉ removed ∧ (id ∈ old ∨ id ∈ changed) := by
  rw [removalsAfter, ExtTreeMap.mem_keys, ExtTreeMap.mem_iff_isSome_getElem?, Maps.getElem?_eraseAll]
  by_cases hremoved : id ∈ removed
  · simp [hremoved]
  · rw [if_neg hremoved, ← ExtTreeMap.mem_iff_isSome_getElem?, Maps.mem_keySet, List.mem_append]
    simp [hremoved]

theorem removalsAfter_ne {old changed removed : List String} (hfresh : ∀ id ∈ changed, id ∉ old)
    (hheld : ∀ id ∈ removed, id ∈ old) (hchange : changed ≠ [] ∨ removed ≠ []) : removalsAfter old changed removed ≠ old := by
  intro heq
  rcases hchange with hchanged | hremoved
  · obtain ⟨id, hid⟩ := List.exists_mem_of_ne_nil changed hchanged
    have hin : id ∈ removalsAfter old changed removed :=
      mem_removalsAfter.mpr ⟨fun hgone => hfresh id hid (hheld id hgone), .inr hid⟩
    exact hfresh id hid (heq ▸ hin)
  · obtain ⟨id, hid⟩ := List.exists_mem_of_ne_nil removed hremoved
    have hin : id ∈ removalsAfter old changed removed := heq.symm ▸ hheld id hid
    exact (mem_removalsAfter.mp hin).1 hid

theorem ofList_values {contacts : ThreadContactMap} (h : ∀ e ∈ contacts.toList, e.2.mContact = e.1) :
    ExtTreeMap.ofList ((Maps.values contacts).map fun contact => (contact.mContact, contact)) = contacts := by
  have hentries : ((Maps.values contacts).map fun contact => (contact.mContact, contact)) = contacts.toList := by
    rw [Maps.values, List.map_map]
    refine (List.map_congr_left fun e he => ?_).trans (List.map_id _)
    exact Prod.ext (h e he) rfl
  rw [hentries, Maps.ofList_toList]

variable {t p : Thread} {n : Nat}

/-- The contacts after the batch, from what was gathered. -/
def contactsSettled (t p : Thread) : ThreadContacts where
  mVersion := increment t.mContacts.mVersion
  mContacts := contactsAfter t.mContacts.mContacts p.changed.mContactsChanged p.changed.mContactsRemoved
  mAddContacts := contactsAfter t.mContacts.mAddContacts p.changed.mContactsToAddChanged p.changed.mContactsToAddRemoved
  mRemoveContacts :=
    removalsAfter t.mContacts.mRemoveContacts p.changed.mContactsToRemoveChanged p.changed.mContactsToRemoveRemoved

theorem writable_contactsAfter (h : ContactsChange files old changed removed) (hold : ∀ e ∈ old.toList, Writable files e) :
    ∀ e ∈ (contactsAfter old changed removed).toList, Writable files e := by
  intro e he
  rcases mem_contactsAfter he with he | he
  · exact h.writable e he
  · exact hold e he

theorem writable_contactsSettled (h : Gathered files t p n) (ht : t.mContacts.Writable files) :
    (contactsSettled t p).Writable files where
  contacts := writable_contactsAfter h.contacts ht.contacts
  addContacts := writable_contactsAfter h.addContacts ht.addContacts
  removeContacts := ExtTreeMap.nodup_keys

theorem changedContacts_eq (h : Gathered files t p n) (ht : t.mContacts.Writable files) :
    p.changedContacts = contactsSettled t p := by
  have hsettled := writable_contactsSettled h ht
  have hcontacts := ofList_values fun e he => (hsettled.contacts e he).keyed
  have haddContacts := ofList_values fun e he => (hsettled.addContacts e he).keyed
  simp only [Thread.changedContacts, h.keeps.contacts, ThreadContacts.create]
  rw [contactsSettled] at hcontacts haddContacts ⊢
  simp only [contactsAfter, removalsAfter] at hcontacts haddContacts ⊢
  rw [hcontacts, haddContacts]

/-- The contacts, the contacts to be added and those to be removed. -/
def ThreadContacts.lists (c : ThreadContacts) : ThreadContactMap × ThreadContactMap × List String :=
  (c.mContacts, c.mAddContacts, c.mRemoveContacts)

theorem changesContacts_iff {c : Changed} : c.changesContacts = true ↔
    (c.mContactsChanged ≠ ∅ ∨ c.mContactsRemoved ≠ []) ∨ (c.mContactsToAddChanged ≠ ∅ ∨ c.mContactsToAddRemoved ≠ []) ∨
      c.mContactsToRemoveChanged ≠ [] ∨ c.mContactsToRemoveRemoved ≠ [] := by
  simp only [Changed.changesContacts, Bool.or_eq_true, Bool.not_eq_true', ExtTreeMap.isEmpty_eq_false_iff,
    List.isEmpty_eq_false_iff, or_assoc, ne_eq]

theorem lists_contactsSettled (h : Gathered files t p n) (hchange : p.changed.changesContacts = true) :
    (contactsSettled t p).lists ≠ t.mContacts.lists := by
  intro heq
  obtain ⟨hcontacts, haddContacts, hremove⟩ : _ ∧ _ ∧ _ := by simpa [ThreadContacts.lists] using heq
  rcases changesContacts_iff.mp hchange with hchange | hchange | hchange
  · exact contactsAfter_ne h.contacts hchange hcontacts
  · exact contactsAfter_ne h.addContacts hchange haddContacts
  · exact removalsAfter_ne h.removeFresh h.removeHeld hchange hremove

end Contacts

section Conditions

/-- The ids of the dialogs in the document of the thread. -/
def Thread.documentDialogIDs (t : Thread) : List String :=
  match findSection t.mPublication.mDocument "dialogs" with
  | .error _ => []
  | .ok dialogsEl => (dialogsEl.childElements "dialogBundle").map fun dialogBundleEl =>
      ((dialogBundleEl.findFirstChildElement "dialog").map fun dialogEl => dialogEl.getAttributeValue "id").getD ""

/-- What is gathered for a section changes it, its version has room to rise, new messages
are all different, and the dialogs are found in the document. -/
structure Settles (t p : Thread) : Prop where
  details : p.changed.mDetailsChanged = true → { p.mDetails with mVersion := t.mDetails.mVersion } ≠ t.mDetails
  contactsVersion : p.changed.changesContacts = true → t.mContacts.mVersion + 1 < uintBound
  messagesVersion : p.changed.mMessagesChanged ≠ [] → t.mMessagesVersion + 1 < uintBound
  messageIDs : (p.changed.mMessagesChanged.map Message.mMessageID).Nodup
  receiptsVersion : p.changed.mMessageReceiptsChanged ≠ ∅ → t.mMessageReceipts.mVersion + 1 < uintBound
  receipts : p.changed.mMessageReceiptsChanged ≠ ∅ → p.changed.mMessageReceiptsChanged ≠ t.mMessageReceipts.mReceipts
  dialogsVersion : p.changed.changesDialogs = true → t.mDialogsVersion + 1 < uintBound
  dialogs : p.changed.changesDialogs = true →
    (∃ e ∈ p.changed.mDialogsChanged.toList, t.mDialogs[e.1]? ≠ some e.2) ∨ ∃ id ∈ p.changed.mDialogsRemoved, id ∈ t.mDialogs
  locatable : Locatable t.documentDialogIDs p.changed.mDialogsChanged.keys p.changed.mDialogsRemoved

/-- The sections of a thread whose document holds the dialogs `ds`. -/
structure Consistent (files : PeerFiles) (t : Thread) (ds : List Dialog) : Prop where
  detailsVersion : t.mDetails.mVersion < uintBound
  created : Dated t.mDetails.mCreated
  contactsVersion : t.mContacts.mVersion < uintBound
  contacts : t.mContacts.Writable files
  named : ∀ e ∈ t.mContacts.mContacts.toList, e.1 ≠ ""
  messagesVersion : t.mMessagesVersion < uintBound
  messages : ∀ m ∈ t.mMessageList, m.ParsesBack
  messageIDs : (t.mMessageList.map Message.mMessageID).Nodup
  messageMap : t.mMessageMap = Keyed.toMap Message.mMessageID compare t.mMessageList
  receiptsVersion : t.mMessageReceipts.mVersion < uintBound
  receipts : ∀ e ∈ t.mMessageReceipts.mReceipts.toList, Dated e.2
  dialogsVersion : t.mDialogsVersion < uintBound
  dialogs : ∀ d ∈ ds, d.ParsesBack
  dialogIDs : (ds.map Dialog.mDialogID).Nodup
  dialogMap : t.mDialogs = Keyed.toMap Dialog.mDialogID compare ds

/-- Each section stays as it is, or is another one with a higher version. -/
structure Evolves (t t' : Thread) : Prop where
  details : t'.mDetails = t.mDetails ∨ (t.mDetails.mVersion < t'.mDetails.mVersion ∧
    { t'.mDetails with mVersion := t.mDetails.mVersion } ≠ t.mDetails)
  contacts : t'.mContacts = t.mContacts ∨
    (t.mContacts.mVersion < t'.mContacts.mVersion ∧ t'.mContacts.lists ≠ t.mContacts.lists)
  messages : (t'.mMessagesVersion = t.mMessagesVersion ∧ t'.mMessageList = t.mMessageList) ∨
    (t.mMessagesVersion < t'.mMessagesVersion ∧ ∃ m ms, t'.mMessageList = t.mMessageList ++ m :: ms)
  receipts : t'.mMessageReceipts = t.mMessageReceipts ∨ (t.mMessageReceipts.mVersion < t'.mMessageReceipts.mVersion ∧
    t'.mMessageReceipts.mReceipts ≠ t.mMessageReceipts.mReceipts)
  dialogs : (t'.mDialogsVersion = t.mDialogsVersion ∧ t'.mDialogs = t.mDialogs) ∨
    (t.mDialogsVersion < t'.mDialogsVersion ∧ t'.mDialogs ≠ t.mDialogs)

end Conditions

section Settled

variable {files : PeerFiles} {t p : Thread} {n : Nat} {ds : List Dialog}

/-- The dialogs in the document after the batch. -/
def dialogsAfter (ds : List Dialog) (c : Changed) : List Dialog :=
  c.mDialogsRemoved.foldl (Keyed.drop Dialog.mDialogID) (putDialogs ds c.mDialogsChanged.toList)

theorem increment_eq {version : Nat} (h : version + 1 < uintBound) : increment version = version + 1 := Nat.mod_eq_of_lt h

section

variable (h : Gathered files t p n)
include h

theorem settle_contacts (ht : t.mContacts.Writable files) :
    p.settle.mContacts = if p.changed.changesContacts then contactsSettled t p else t.mContacts := by
  simp only [Thread.settle, changedContacts_eq h ht, h.keeps.contacts]

theorem settle_messages : p.settle.mMessageList = t.mMessageList ++ p.changed.mMessagesChanged ∧
    p.settle.mMessagesVersion = (if p.changed.mMessagesChanged.isEmpty then t.mMessagesVersion else increment t.mMessagesVersion) ∧
    p.settle.mMessageMap = t.mMessageMap.insertMany (p.changed.mMessagesChanged.map fun m => (m.mMessageID, m)) := by
  simp only [Thread.settle, h.keeps.messageList, h.keeps.messagesVersion, h.keeps.messageMap, and_self]

theorem settle_receipts : p.settle.mMessageReceipts =
    if p.changed.mMessageReceiptsChanged.isEmpty then t.mMessageReceipts
    else ⟨increment t.mMessageReceipts.mVersion, p.changed.mMessageReceiptsChanged⟩ := by
  simp only [Thread.settle, h.keeps.receipts]

theorem settle_dialogs :
    p.settle.mDialogsVersion = (if p.changed.changesDialogs then increment t.mDialogsVersion else t.mDialogsVersion) ∧
    p.settle.mDialogs =
      Maps.eraseAll (t.mDialogs.insertMany p.changed.mDialogsChanged.toList) p.changed.mDialogsRemoved := by
  simp only [Thread.settle, h.keeps.dialogsVersion, h.keeps.dialogs, and_self]

section

variable (ht : Consistent files t ds)
include ht

theorem Gathered.filed : Filed ds p.changed.mDialogsChanged.toList where
  bundled d hd := (ht.dialogs d hd).bundled
  nodup := ht.dialogIDs
  filed e he := ⟨(h.dialogs e he).1, (h.dialogs e he).2.bundled⟩
  distinct := Maps.distinct_toList _

theorem dialogsAfter_map : p.settle.mDialogs = Keyed.toMap Dialog.mDialogID compare (dialogsAfter ds p.changed) := by
  have hfiled := h.filed ht
  have hentries : (p.changed.mDialogsChanged.toList.map Prod.snd).map (fun d => (d.mDialogID, d)) =
      p.changed.mDialogsChanged.toList := by
    rw [List.map_map]
    refine (List.map_congr_left fun e he => ?_).trans (List.map_id _)
    exact Prod.ext (h.dialogs e he).1 rfl
  have hput : Keyed.toMap Dialog.mDialogID compare (putDialogs ds p.changed.mDialogsChanged.toList) =
      t.mDialogs.insertMany p.changed.mDialogsChanged.toList := by
    rw [putDialogs_eq, Keyed.toMap_foldl_put ht.dialogIDs, hentries, ht.dialogMap]
  rw [(settle_dialogs h).2, dialogsAfter, Keyed.toMap_foldl_drop hfiled.nodup_put, hput]

theorem mem_dialogsAfter : ∀ d ∈ dialogsAfter ds p.changed, d.ParsesBack := by
  intro d hd
  have hput := Keyed.mem_of_mem_foldl_drop hd
  rw [putDialogs_eq] at hput
  rcases Keyed.mem_foldl_put hput with hin | hin
  · obtain ⟨e, he, rfl⟩ := List.mem_map.mp hin
    exact (h.dialogs e he).2
  · exact ht.dialogs d hin

theorem nodup_dialogsAfter : ((dialogsAfter ds p.changed).map Dialog.mDialogID).Nodup := by
  rw [dialogsAfter, Keyed.map_key_foldl_drop]
  exact (h.filed ht).nodup_put.filter _

/-- The sections stay consistent. -/
theorem settle_consistent (hsettles : Settles t p) (hversion : t.mDetails.mVersion + n < uintBound) :
    Consistent files p.settle (dialogsAfter ds p.changed) := by
  have hwritable : p.settle.mContacts.Writable files ∧ p.settle.mContacts.mVersion < uintBound ∧
      ∀ e ∈ p.settle.mContacts.mContacts.toList, e.1 ≠ "" := by
    rw [settle_contacts h ht.contacts]
    split
    · refine ⟨writable_contactsSettled h ht.contacts, Nat.mod_lt _ (by decide), fun e he => ?_⟩
      rcases mem_contactsAfter he with he | he
      · exact h.named e he
      · exact ht.named e he
    · exact ⟨ht.contacts, ht.contactsVersion, ht.named⟩
  obtain ⟨hlist, hmessagesVersion, hmap⟩ := settle_messages h
  have hnew : ∀ m ∈ p.changed.mMessagesChanged, m.mMessageID ∉ t.mMessageList.map Message.mMessageID := by
    intro m hm hin
    obtain ⟨m', hm', hid⟩ := List.mem_map.mp hin
    have hentry : (Keyed.toMap Message.mMessageID compare t.mMessageList)[m'.mMessageID]? = some m' :=
      Keyed.getElem?_toMap ht.messageIDs hm'
    rw [← ht.messageMap, hid] at hentry
    exact (h.messages m hm).1 (ExtTreeMap.mem_iff_isSome_getElem?.mpr (by rw [hentry]; rfl))
  have hids : (p.settle.mMessageList.map Message.mMessageID).Nodup := by
    rw [hlist, List.map_append]
    refine List.nodup_append.mpr ⟨ht.messageIDs, hsettles.messageIDs, fun id hid id' hid' heq => ?_⟩
    obtain ⟨m, hm, rfl⟩ := List.mem_map.mp hid'
    exact hnew m hm (heq ▸ hid)
  refine {
    detailsVersion := Nat.lt_of_le_of_lt h.detailsVersion hversion
    created := h.created ht.created
    contactsVersion := hwritable.2.1
    contacts := hwritable.1
    named := hwritable.2.2
    messagesVersion := ?_
    messages := ?_
    messageIDs := hids
    messageMap := ?_
    receiptsVersion := ?_
    receipts := ?_
    dialogsVersion := ?_
    dialogs := mem_dialogsAfter h ht
    dialogIDs := nodup_dialogsAfter h ht
    dialogMap := dialogsAfter_map h ht }
  · rw [hmessagesVersion]
    split
    · exact ht.messagesVersion
    · exact Nat.mod_lt _ (by decide)
  · rw [hlist]
    intro m hm
    rcases List.mem_append.mp hm with hm | hm
    · exact ht.messages m hm
    · exact (h.messages m hm).2
  · rw [hmap, hlist, ht.messageMap, Keyed.toMap_append]
  · rw [settle_receipts h]
    split
    · exact ht.receiptsVersion
    · exact Nat.mod_lt _ (by decide)
  · rw [settle_receipts h]
    split
    · exact ht.receipts
    · exact h.receipts
  · rw [(settle_dialogs h).1]
    split
    · exact Nat.mod_lt _ (by decide)
    · exact ht.dialogsVersion

/-- Where dialogs are gathered, the dialogs after the batch are others. -/
theorem dialogs_change (hsettles : Settles t p) (hids : t.documentDialogIDs = ds.map Dialog.mDialogID)
    (hchange : p.changed.changesDialogs = true) : p.settle.mDialogs ≠ t.mDialogs := by
  have hentry : ∀ id, p.settle.mDialogs[id]? =
      if id ∈ p.changed.mDialogsRemoved then none else (p.changed.mDialogsChanged[id]?).or t.mDialogs[id]? := by
    intro id
    rw [(settle_dialogs h).2, Maps.getElem?_eraseAll, Maps.getElem?_insertMany_toList]
  intro heq
  rcases hsettles.dialogs hchange with ⟨e, he, hother⟩ | ⟨id, hid, hheld⟩
  · have hafter := hentry e.1
    rw [heq] at hafter
    by_cases hremoved : e.1 ∈ p.changed.mDialogsRemoved
    · -- a dialog that is changed and removed at once is one of the document's
      have hknown : e.1 ∈ p.changed.mDialogsChanged.keys := by
        rw [← ExtTreeMap.map_fst_toList_eq_keys]
        exact List.mem_map_of_mem he
      have hin := hsettles.locatable.known e.1 hremoved hknown
      rw [hids] at hin
      obtain ⟨d, hd, hdID⟩ := List.mem_map.mp hin
      have hd' : (Keyed.toMap Dialog.mDialogID compare ds)[d.mDialogID]? = some d := Keyed.getElem?_toMap ht.dialogIDs hd
      rw [← ht.dialogMap, hdID, hafter, if_pos hremoved] at hd'
      cases hd'
    · rw [if_neg hremoved, ExtTreeMap.mem_toList_iff_getElem?_eq_some.mp he, Option.some_or] at hafter
      exact hother hafter
  · have hafter := hentry id
    rw [heq, if_pos hid] at hafter
    have hsome := ExtTreeMap.mem_iff_isSome_getElem?.mp hheld
    rw [hafter] at hsome
    cases hsome

/-- A section that nothing is gathered for stays, and the others rise. -/
theorem settle_evolves (hsettles : Settles t p) (hids : t.documentDialogIDs = ds.map Dialog.mDialogID) :
    Evolves t p.settle where
  details := by
    have hdetails := h.details
    have hsettle : p.settle.mDetails = p.mDetails := rfl
    rw [hsettle]
    by_cases hchange : p.changed.mDetailsChanged = true
    · rw [if_pos hchange] at hdetails
      exact .inr ⟨hdetails, hsettles.details hchange⟩
    · rw [if_neg hchange] at hdetails
      exact .inl hdetails
  contacts := by
    rw [settle_contacts h ht.contacts]
    by_cases hchange : p.changed.changesContacts = true
    · rw [if_pos hchange]
      refine .inr ⟨?_, lists_contactsSettled h hchange⟩
      have hversion : (contactsSettled t p).mVersion = increment t.mContacts.mVersion := rfl
      rw [hversion, increment_eq (hsettles.contactsVersion hchange)]
      omega
    · rw [if_neg hchange]
      exact .inl rfl
  messages := by
    obtain ⟨hlist, hversion, -⟩ := settle_messages h
    rw [hlist, hversion]
    cases hchange : p.changed.mMessagesChanged with
    | nil => exact .inl ⟨rfl, List.append_nil _⟩
    | cons m ms =>
      have hne : p.changed.mMessagesChanged ≠ [] := by simp [hchange]
      refine .inr ⟨?_, m, ms, rfl⟩
      rw [if_neg (by simp), increment_eq (hsettles.messagesVersion hne)]
      omega
  receipts := by
    rw [settle_receipts h]
    by_cases hchange : p.changed.mMessageReceiptsChanged.isEmpty = true
    · rw [if_pos hchange]
      exact .inl rfl
    · have hne : p.changed.mMessageReceiptsChanged ≠ ∅ :=
        ExtTreeMap.isEmpty_eq_false_iff.mp (Bool.eq_false_iff.mpr hchange)
      rw [if_neg hchange]
      refine .inr ⟨?_, hsettles.receipts hne⟩
      simp only [increment_eq (hsettles.receiptsVersion hne)]
      omega
  dialogs := by
    obtain ⟨hversion, hmap⟩ := settle_dialogs h
    by_cases hchange : p.changed.changesDialogs = true
    · refine .inr ⟨?_, dialogs_change h ht hsettles hids hchange⟩
      rw [hversion, if_pos hchange, increment_eq (hsettles.dialogsVersion hchange)]
      omega
    · rw [hversion, if_neg hchange, hmap]
      obtain ⟨hchanged, hremoved⟩ : p.changed.mDialogsChanged = ∅ ∧ p.changed.mDialogsRemoved = [] := by
        simpa [Changed.changesDialogs] using hchange
      have hnil : (∅ : DialogMap).toList = [] := rfl
      rw [hchanged, hremoved, hnil, ExtTreeMap.insertMany_nil]
      exact .inl ⟨rfl, rfl⟩

end

end

end Settled

end OpenPeer.ConversationThread
