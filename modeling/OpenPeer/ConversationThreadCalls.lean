import OpenPeer.ConversationThreadDialogs

/-!
# The calls of a batch

A batch gathers changes against the sections that its thread had at the beginning: new
contacts are not on the old list, removed ones are, and new messages are not known. What
is given to the calls must be writable for what is gathered to be so.
-/
namespace OpenPeer.ConversationThread

open Xml Std

section Inputs

/-- A message that parses back from its bundle. -/
structure Message.ParsesBack (m : Message) : Prop where
  name : m.mBundleEl.name = "messageBundle"
  create : Message.create m.mBundleEl = some m

/-- A dialog with the bundle id that is written for it, which parses back from its bundle. -/
structure Dialog.ParsesBack (d : Dialog) : Prop where
  name : d.mDialogBundleEl.name = "dialogBundle"
  id : d.mDialogBundleEl.findAttribute "id" = some ("bundle_" ++ d.mDialogID)
  create : Dialog.create d.mDialogBundleEl = .ok (some d)

/-- A time that is a time again once it is written and read. -/
def Dated (time : Time) : Prop := rounded time ≠ .notADateTime

instance (time : Time) : Decidable (Dated time) := inferInstanceAs (Decidable (_ ≠ _))

/-- What the calls are given: contacts that can be written, each under its own peer URI,
messages and dialogs that parse back, and times that are dates. -/
def Call.WellFormed (files : PeerFiles) : Call → Prop
  | .setState _ now => Dated now
  | .setContacts contacts => ∀ e ∈ contacts.toList, Writable files e ∧ e.1 ≠ ""
  | .setContactsToAdd contacts => ∀ e ∈ contacts.toList, Writable files e
  | .setContactsToRemove _ => True
  | .addMessages messages _ => ∀ m ∈ messages, m.ParsesBack
  | .setReceived _ now => Dated now
  | .setReceivedMap messages => ∀ e ∈ messages.toList, Dated e.2
  | .addDialogs dialogs => ∀ d ∈ dialogs, d.ParsesBack
  | .updateDialogs dialogs => ∀ d ∈ dialogs, d.ParsesBack
  | .removeDialogs _ => True

theorem Dialog.create_id {dialogBundleEl : Element} {d : Dialog} (h : Dialog.create dialogBundleEl = .ok (some d)) :
    ∃ dialogEl, dialogBundleEl.findFirstChildElement "dialog" = some dialogEl ∧
      dialogEl.getAttributeValue "id" = d.mDialogID := by
  unfold Dialog.create at h
  simp only at h
  split at h
  case h_1 => cases h
  case h_2 read dialog dialogEl hread =>
    simp only [Option.bind_eq_bind, Option.bind_eq_some_iff, Option.pure_def, Option.some.injEq, Prod.mk.injEq] at hread
    obtain ⟨el, hel, _, _, _, _, _, _, _, _, _, _, _, _, _, _, hdialog, rfl⟩ := hread
    refine ⟨el, hel, ?_⟩
    cases hdescriptions : readDescriptions (((el.findFirstChildElement "descriptions").map fun el =>
        el.childElements "description").getD []) with
    | error t => simp [hdescriptions, Except.map] at h
    | ok descriptions =>
      cases descriptions with
      | none => simp [hdescriptions, Except.map] at h
      | some mDescriptions =>
        simp only [hdescriptions, Except.map, Option.map_some, Except.ok.injEq, Option.some.injEq] at h
        rw [← h, ← hdialog]

theorem Dialog.ParsesBack.bundled {d : Dialog} (h : d.ParsesBack) : Bundled d :=
  ⟨h.name, h.id, Dialog.create_id h.create⟩

end Inputs

section Gathered

/-- Changes of a list of contacts: what is new was not on it, what is removed was. -/
structure ContactsChange (files : PeerFiles) (old changed : ThreadContactMap) (removed : List String) : Prop where
  fresh : ∀ e ∈ changed.toList, e.1 ∉ old
  writable : ∀ e ∈ changed.toList, Writable files e
  held : ∀ id ∈ removed, id ∈ old

/-- The most that a call counts up the version of the details. -/
def Call.stateChanges : Call → Nat
  | .setState _ _ => 1
  | _ => 0

def stateChanges (cs : List Call) : Nat := (cs.map Call.stateChanges).sum

/-- What some calls have gathered for the thread the batch began with. -/
structure Gathered (files : PeerFiles) (t p : Thread) (stateChanges : Nat) : Prop where
  frame : p = { t with
    mModifying := true, mDetails := p.mDetails, mMessagesChangedTime := p.mMessagesChangedTime, changed := p.changed }
  details : if p.changed.mDetailsChanged then t.mDetails.mVersion < p.mDetails.mVersion else p.mDetails = t.mDetails
  detailsVersion : p.mDetails.mVersion ≤ t.mDetails.mVersion + stateChanges
  created : Dated t.mDetails.mCreated → Dated p.mDetails.mCreated
  contacts : ContactsChange files t.mContacts.mContacts p.changed.mContactsChanged p.changed.mContactsRemoved
  named : ∀ e ∈ p.changed.mContactsChanged.toList, e.1 ≠ ""
  addContacts : ContactsChange files t.mContacts.mAddContacts p.changed.mContactsToAddChanged p.changed.mContactsToAddRemoved
  removeFresh : ∀ id ∈ p.changed.mContactsToRemoveChanged, id ∉ t.mContacts.mRemoveContacts
  removeHeld : ∀ id ∈ p.changed.mContactsToRemoveRemoved, id ∈ t.mContacts.mRemoveContacts
  messages : ∀ m ∈ p.changed.mMessagesChanged, m.mMessageID ∉ t.mMessageMap ∧ m.ParsesBack
  receipts : ∀ e ∈ p.changed.mMessageReceiptsChanged.toList, Dated e.2
  dialogs : ∀ e ∈ p.changed.mDialogsChanged.toList, e.2.mDialogID = e.1 ∧ e.2.ParsesBack

variable {files : PeerFiles} {t p : Thread} {n : Nat}

theorem newContacts_change {contacts old : ThreadContactMap} (h : ∀ e ∈ contacts.toList, Writable files e) :
    ContactsChange files old (newContacts contacts old) (removedContacts contacts old) where
  fresh e he := by
    rw [newContacts, ExtTreeMap.toList_filter] at he
    exact Maps.not_contains_iff.mp (List.mem_filter.mp he).2
  writable e he := by
    rw [newContacts, ExtTreeMap.toList_filter] at he
    exact h e (List.mem_filter.mp he).1
  held id hid := ExtTreeMap.mem_keys.mp (List.mem_filter.mp hid).1

theorem Gathered.later (h : Gathered files t p n) : Gathered files t p (n + 1) :=
  { h with detailsVersion := Nat.le_succ_of_le h.detailsVersion }

theorem Gathered.version_le (h : Gathered files t p n) : t.mDetails.mVersion ≤ p.mDetails.mVersion := by
  have hdetails := h.details
  split at hdetails
  · omega
  · exact Nat.le_of_eq (congrArg Details.mVersion hdetails).symm

/-- What the calls of a batch leave as it is. -/
structure Thread.Keeps (t p : Thread) : Prop where
  type : p.mType = t.mType
  canModify : p.mCanModify = t.mCanModify
  publication : p.mPublication = t.mPublication
  permissionPublication : p.mPermissionPublication = t.mPermissionPublication
  contacts : p.mContacts = t.mContacts
  messagesVersion : p.mMessagesVersion = t.mMessagesVersion
  messageList : p.mMessageList = t.mMessageList
  messageMap : p.mMessageMap = t.mMessageMap
  receipts : p.mMessageReceipts = t.mMessageReceipts
  dialogsVersion : p.mDialogsVersion = t.mDialogsVersion
  dialogs : p.mDialogs = t.mDialogs
  changesDoc : p.mChangesDoc = t.mChangesDoc

section

variable (h : Gathered files t p n)
include h

theorem Gathered.keeps : t.Keeps p := by
  rw [h.frame]
  exact ⟨rfl, rfl, rfl, rfl, rfl, rfl, rfl, rfl, rfl, rfl, rfl, rfl⟩

theorem Gathered.frame_effect (mDetails : Details) (mMessagesChangedTime : Time) (changed : Changed) :
    { p with mDetails, mMessagesChangedTime, changed } =
      { t with mModifying := true, mDetails, mMessagesChangedTime, changed } :=
  congrArg (fun q : Thread => { q with mDetails, mMessagesChangedTime, changed }) h.frame

theorem Gathered.frame_changed (changed : Changed) : { p with changed } =
    { t with mModifying := true, mDetails := p.mDetails, mMessagesChangedTime := p.mMessagesChangedTime, changed } :=
  h.frame_effect p.mDetails p.mMessagesChangedTime changed

theorem Gathered.setState (hversion : t.mDetails.mVersion + (n + 1) < uintBound) (state : ConversationThreadStates)
    {now : Time} (hnow : Dated now) : Gathered files t (p.setState state now) (n + 1) := by
  have hincrement : increment p.mDetails.mVersion = p.mDetails.mVersion + 1 := by
    have hle := h.detailsVersion
    exact Nat.mod_eq_of_lt (by omega)
  have hle := h.version_le
  unfold Thread.setState
  split
  · exact h.later
  · refine { h with frame := h.frame_effect _ _ _, details := ?_, detailsVersion := ?_, created := fun _ => hnow }
    · change (if true = true then t.mDetails.mVersion < increment p.mDetails.mVersion else _)
      rw [if_pos rfl, hincrement]
      omega
    · change increment p.mDetails.mVersion ≤ _
      have hbound := h.detailsVersion
      omega

theorem Gathered.addDialogs {dialogs : List Dialog} (hdialogs : ∀ d ∈ dialogs, d.ParsesBack) :
    ∀ e ∈ (p.addDialogs dialogs).changed.mDialogsChanged.toList, e.2.mDialogID = e.1 ∧ e.2.ParsesBack := by
  intro e he
  rcases Maps.mem_of_mem_insertMany he with he | he
  · obtain ⟨d, hd, rfl⟩ := List.mem_map.mp he
    exact ⟨rfl, hdialogs d hd⟩
  · exact h.dialogs e he

/-- What a call gathers, one case for each call. -/
theorem Gathered.effect {c : Call} (hversion : t.mDetails.mVersion + (n + c.stateChanges) < uintBound)
    (hc : c.WellFormed files) : Gathered files t (p.effect c) (n + c.stateChanges) := by
  have hcontacts : p.mContacts = t.mContacts := h.keeps.contacts
  have hmessages : p.mMessageMap = t.mMessageMap := h.keeps.messageMap
  cases c with
  | setState state now => exact h.setState hversion state hc
  | setContacts contacts =>
    refine { h with frame := h.frame_changed _, contacts := ?_, named := ?_ }
    · exact hcontacts ▸ newContacts_change fun e he => (hc e he).1
    · intro e he
      have hmem : e ∈ (newContacts contacts p.mContacts.mContacts).toList := he
      rw [newContacts, ExtTreeMap.toList_filter] at hmem
      exact (hc e (List.mem_filter.mp hmem).1).2
  | setContactsToAdd contacts =>
    exact { h with frame := h.frame_changed _, addContacts := hcontacts ▸ newContacts_change hc }
  | setContactsToRemove contacts =>
    refine { h with frame := h.frame_changed _, removeFresh := ?_, removeHeld := ?_ }
    · intro id hid
      have hnot := Maps.not_contains_iff.mp (List.mem_filter.mp hid).2
      rw [← hcontacts]
      exact fun hmem => hnot (Maps.mem_keySet.mpr hmem)
    · intro id hid
      have hmem := ExtTreeMap.mem_keys.mp (List.mem_filter.mp hid).1
      rw [← hcontacts]
      exact Maps.mem_keySet.mp hmem
  | addMessages messages now =>
    refine { h with frame := h.frame_effect _ _ _, messages := ?_ }
    intro m hm
    rcases List.mem_append.mp hm with hm | hm
    · exact h.messages m hm
    · obtain ⟨hin, hnew⟩ := List.mem_filter.mp hm
      exact ⟨hmessages ▸ Maps.not_contains_iff.mp hnew, hc m hin⟩
  | setReceived message now =>
    refine { h with frame := h.frame_changed _, receipts := ?_ }
    intro e he
    rcases Maps.mem_of_mem_insert he with rfl | hin
    · exact hc
    · have hnil : (∅ : MessageReceiptMap).toList = [] := rfl
      rw [hnil] at hin
      cases hin
  | setReceivedMap messages =>
    change Gathered files t (p.setReceivedMap messages) n
    unfold Thread.setReceivedMap
    simp only
    split
    · exact { h with frame := h.frame_changed _, receipts := hc }
    · exact h
  | addDialogs dialogs =>
    exact { h with frame := h.frame_changed _, dialogs := h.addDialogs hc }
  | updateDialogs dialogs =>
    exact { h with frame := h.frame_changed _, dialogs := h.addDialogs hc }
  | removeDialogs dialogs => exact { h with frame := h.frame_changed _ }

end

theorem Gathered.calls (hmodify : t.mCanModify = true) {cs : List Call} (h : Gathered files t p n)
    (hversion : t.mDetails.mVersion + (n + stateChanges cs) < uintBound) (hcs : ∀ c ∈ cs, c.WellFormed files) :
    ∃ p', p.calls cs = .ok p' ∧ Gathered files t p' (n + stateChanges cs) := by
  induction cs generalizing p n with
  | nil => exact ⟨p, rfl, h⟩
  | cons c cs ih =>
    have hsum : stateChanges (c :: cs) = c.stateChanges + stateChanges cs := rfl
    rw [hsum, ← Nat.add_assoc] at hversion ⊢
    have hguard : p.mCanModify = true ∧ p.mModifying = true := by
      have hmodifying := congrArg Thread.mModifying h.frame
      exact ⟨h.keeps.canModify.trans hmodify, hmodifying⟩
    have hcall : p.call c = .ok (p.effect c) := if_pos hguard
    have heffect := h.effect (by omega) (hcs c List.mem_cons_self)
    obtain ⟨p', hcalls, hgathered⟩ := ih heffect (by omega) fun c' hc' => hcs c' (List.mem_cons_of_mem _ hc')
    refine ⟨p', ?_, hgathered⟩
    rw [Thread.calls, hcall]
    exact hcalls

theorem gathered_begin (files : PeerFiles) (t : Thread) : Gathered files t { t.resetChanged with mModifying := true } 0 where
  frame := rfl
  details := rfl
  detailsVersion := Nat.le_refl _
  created h := h
  contacts := ⟨by simp [Thread.resetChanged], by simp [Thread.resetChanged], by simp [Thread.resetChanged]⟩
  named := by simp [Thread.resetChanged]
  addContacts := ⟨by simp [Thread.resetChanged], by simp [Thread.resetChanged], by simp [Thread.resetChanged]⟩
  removeFresh := by simp [Thread.resetChanged]
  removeHeld := by simp [Thread.resetChanged]
  messages := by simp [Thread.resetChanged]
  receipts := by simp [Thread.resetChanged]
  dialogs := by simp [Thread.resetChanged]

theorem gather_gathers (hmodify : t.mCanModify = true) (hidle : t.mModifying = false) (hchanges : t.mChangesDoc = none)
    {cs : List Call} (hversion : t.mDetails.mVersion + stateChanges cs < uintBound) (hcs : ∀ c ∈ cs, c.WellFormed files) :
    ∃ p, t.gather cs = .ok p ∧ Gathered files t p (stateChanges cs) := by
  have hbegin : t.updateBegin = .ok { t.resetChanged with mModifying := true } :=
    if_pos ⟨hmodify, hidle, by rw [hchanges]; rfl⟩
  have hgather : t.gather cs = Thread.calls { t.resetChanged with mModifying := true } cs := by
    simp only [Thread.gather, hbegin]
  rw [hgather]
  obtain ⟨p, hcalls, hgathered⟩ := (gathered_begin files t).calls hmodify (by omega) hcs
  rw [Nat.zero_add] at hgathered
  exact ⟨p, hcalls, hgathered⟩

end Gathered

end OpenPeer.ConversationThread
