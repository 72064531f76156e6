import OpenPeer.ConversationThreadDeltas
import OpenPeer.Runs

/-!
# Following a thread from version to version

A reader that was built from a publication is updated from later versions of it. Each update
reports the difference just when the document is plain, and over a sequence of such updates
everything is reported once.
-/
namespace OpenPeer.ConversationThread

open Xml Std

variable {files : PeerFiles} {findContact : String → Bool} {t t' : Thread} {doc : Document}

/-! ## One update -/

/-- What an update that succeeds has taken over. -/
structure Updated (files : PeerFiles) (findContact : String → Bool) (t : Thread) (doc : Document) (now : Time)
    (t' : Thread) (u : Update) (dialogs : Option (List (String × Dialog) × List (String × Dialog))) : Prop where
  read : ReadFrom files findContact t doc u
  dialogsRead : (u.dialogBundles = none ∧ dialogs = none) ∨
    ∃ bundles read, u.dialogBundles = some bundles ∧ dialogs = some read ∧
      readDialogsUpdate t.mDialogs bundles = .ok (some read)
  thread : t' = ((((t.resetChanged.takeDetails u.details).takeContacts u.contacts).takeMessages now
    u.messages).takeReceipts u.receipts).takeDialogs u.dialogsVersion dialogs

variable {publication : Publication} {now : Time}

theorem updateFrom_true (h : t.updateFrom files findContact publication now = .ok (true, t')) :
    ∃ u dialogs, Updated files findContact t publication.mDocument now t' u dialogs := by
  simp only [Thread.updateFrom] at h
  split at h
  case isFalse => cases h
  case isTrue =>
    split at h
    case h_1 => cases h
    case h_2 u hu =>
      have hread : ReadFrom files findContact t publication.mDocument u := by
        obtain ⟨hcontacts, hmessages, hreceipts, hdialogs⟩ := readUpdate_spec hu
        exact ⟨hcontacts, hmessages, hreceipts, hdialogs⟩
      split at h
      case h_1 hnone =>
        cases h
        exact ⟨u, none, hread, .inl ⟨hnone, rfl⟩, rfl⟩
      case h_2 bundles hbundles =>
        split at h
        case h_1 => cases h
        case h_2 => cases h
        case h_3 dialogs hdialogs =>
          cases h
          exact ⟨u, some dialogs, hread, .inr ⟨bundles, dialogs, hbundles, rfl, hdialogs⟩, rfl⟩

namespace Updated

variable {now : Time} {u : Update} {dialogs : Option (List (String × Dialog) × List (String × Dialog))}

section

variable (h : Updated files findContact t doc now t' u dialogs)
include h

theorem frame : (ContactsExact t t' ↔ ContactsExact t (t.resetChanged.takeContacts u.contacts)) ∧
    (MessagesExact doc t t' ↔ MessagesExact doc t (t.resetChanged.takeMessages now u.messages)) ∧
    (ReceiptsExact t t' ↔ ReceiptsExact t (t.resetChanged.takeReceipts u.receipts)) ∧
    (DialogsExact t t' ↔ DialogsExact t (t.resetChanged.takeDialogs u.dialogsVersion dialogs)) ∧
    (DescriptionsExact t t' ↔ DescriptionsExact t (t.resetChanged.takeDialogs u.dialogsVersion dialogs)) := by
  obtain ⟨details, contacts, messages, receipts, dialogsVersion, bundles⟩ := u
  obtain ⟨-, -, rfl⟩ := h
  cases details <;> cases contacts <;> cases messages <;> cases receipts <;> cases dialogs <;>
    exact ⟨⟨fun h => ⟨h.1, h.2, h.3, h.4, h.5⟩, fun h => ⟨h.1, h.2, h.3, h.4, h.5⟩⟩,
      ⟨fun h => ⟨h.1, h.2, h.3⟩, fun h => ⟨h.1, h.2, h.3⟩⟩, Iff.rfl, Iff.rfl, Iff.rfl⟩

/-- The messages are those of before with those that are reported. -/
theorem messages_appended :
    t'.mMessageList = t.mMessageList ++ t'.changed.mMessagesChanged ∧
      t'.mMessageMap = t.mMessageMap.insertMany (t'.changed.mMessagesChanged.map messageEntry) := by
  obtain ⟨details, contacts, messages, receipts, dialogsVersion, bundles⟩ := u
  obtain ⟨-, -, rfl⟩ := h
  cases details <;> cases contacts <;> cases messages <;> cases receipts <;> cases dialogs <;>
    simp [Thread.takeDetails, Thread.takeContacts, Thread.takeMessages, Thread.takeReceipts, Thread.takeDialogs,
      Thread.resetChanged]

theorem receipts_kept : t'.mMessageReceipts = t.mMessageReceipts := by
  obtain ⟨details, contacts, messages, receipts, dialogsVersion, bundles⟩ := u
  obtain ⟨-, -, rfl⟩ := h
  cases details <;> cases contacts <;> cases messages <;> cases receipts <;> cases dialogs <;> rfl

end

end Updated

variable {known version : Nat}

theorem forall_reads {name : String} {el : Element} {P : Element → Prop}
    (hsection : sectionOf doc name = some el) (hversion : getVersion el = some version) :
    (∀ el', Reads doc name known el' → P el') ↔ (known < version → P el) := by
  constructor
  · intro h hrisen
    exact h el ⟨hsection, version, hversion, hrisen⟩
  · rintro h el' ⟨hsection', version', hversion', hrisen⟩
    obtain rfl := Option.some.inj (hsection.symm.trans hsection')
    obtain rfl := Option.some.inj (hversion.symm.trans hversion')
    exact h hrisen

theorem risen_eq_some {α : Type} {read : Option α} {taken : Option α}
    (h : risen version known read = some taken) :
    (known < version ∧ ∃ a, read = some a ∧ taken = some a) ∨ (¬known < version ∧ taken = none) := by
  simp only [risen] at h
  split at h
  case isTrue hrisen =>
    obtain ⟨a, ha, rfl⟩ := Option.map_eq_some_iff.mp h
    exact .inl ⟨hrisen, a, ha, rfl⟩
  case isFalse hnot => exact .inr ⟨hnot, (Option.some.inj h).symm⟩

namespace Updated

variable {now : Time} {u : Update} {dialogs : Option (List (String × Dialog) × List (String × Dialog))}

section

variable (h : Updated files findContact t doc now t' u dialogs)
include h

theorem contacts_iff :
    ContactsExact t t' ↔ ∀ contactsEl, Reads doc "contacts" t.mContacts.mVersion contactsEl →
      ∀ contacts, ThreadContacts.parse files findContact contactsEl = some contacts →
        ∀ id ∈ t.mContacts.mRemoveContacts, id ∈ contacts.mRemoveContacts := by
  obtain ⟨el, version, hsection, hversion, htaken⟩ := h.read.contacts
  rw [h.frame.1, contactsExact_iff, forall_reads hsection hversion]
  rcases risen_eq_some htaken with ⟨hrisen, c, hparse, htaken⟩ | ⟨hnot, htaken⟩
  · simp [htaken, hparse, hrisen]
  · simp [htaken, hnot]

theorem messages_iff (hindexed : t.Indexed) :
    MessagesExact doc t t' ↔ ∀ messagesEl, Reads doc "messages" t.mMessagesVersion messagesEl →
      (unknownIDs t messagesEl).Nodup := by
  obtain ⟨el, version, hsection, hversion, htaken⟩ := h.read.messages
  rw [h.frame.2.1, forall_reads hsection hversion]
  rcases risen_eq_some htaken with ⟨hrisen, messages, hread, htaken⟩ | ⟨hnot, htaken⟩
  · rw [htaken, messagesExact_some hindexed now hsection (messageIDs_of_read hread)]
    simp [hrisen]
  · rw [htaken]
    exact iff_of_true (messagesExact_none now) fun hrisen => absurd hrisen hnot

theorem receipts_iff :
    ReceiptsExact t t' ↔ ∀ receiptsEl, Reads doc "receipts" t.mMessageReceipts.mVersion receiptsEl →
      ∀ receipts, MessageReceipts.create receiptsEl = some receipts →
        ∀ id ∈ receipts.mReceipts, id ∈ t.mMessageReceipts.mReceipts := by
  obtain ⟨el, version, hsection, hversion, htaken⟩ := h.read.receipts
  rw [h.frame.2.2.1, receiptsExact_iff, forall_reads hsection hversion, htaken]
  by_cases hrisen : t.mMessageReceipts.mVersion < version <;> simp [hrisen]

theorem dialogs_iff :
    DialogsExact t t' ↔ ∀ dialogsEl, Reads doc "dialogs" t.mDialogsVersion dialogsEl →
      ∀ id dialog, t.mDialogs[id]? = some dialog →
        true ∈ risings (dialogsEl.childElements "dialogBundle") id dialog.mVersion →
          (risings (dialogsEl.childElements "dialogBundle") id dialog.mVersion).getLast? = some true := by
  obtain ⟨el, hsection, hversion, hbundles⟩ := h.read.dialogs
  rw [h.frame.2.2.2.1, forall_reads hsection hversion]
  rcases h.dialogsRead with ⟨hnone, rfl⟩ | ⟨bundles, read, hsome, rfl, hread⟩
  · refine iff_of_true (dialogsExact_none _) fun hrisen => ?_
    rw [hnone, if_pos hrisen] at hbundles
    cases hbundles
  · rw [hsome] at hbundles
    split at hbundles
    case isTrue hrisen =>
      obtain rfl := Option.some.inj hbundles
      rw [dialogsExact_some _ hread]
      simp only [hrisen, forall_const]
    case isFalse => cases hbundles

theorem exact_iff (hindexed : t.Indexed) : Exact doc t t' ↔ Plain files findContact t doc := by
  constructor
  · intro hexact
    exact {
      messages := (h.messages_iff hindexed).mp hexact.messages
      receipts := fun el r hel => h.receipts_iff.mp hexact.receipts el hel r
      contacts := fun el c hel => h.contacts_iff.mp hexact.contacts el hel c
      dialogs := h.dialogs_iff.mp hexact.dialogs }
  · intro hplain
    exact {
      messages := (h.messages_iff hindexed).mpr hplain.messages
      receipts := h.receipts_iff.mpr fun el hel r => hplain.receipts el r hel
      contacts := h.contacts_iff.mpr fun el hel c => hplain.contacts el c hel
      dialogs := h.dialogs_iff.mpr hplain.dialogs
      descriptions := h.frame.2.2.2.2.mpr (descriptionsExact _ _) }

end

end Updated

/-! ## A reader -/

/-- A thread that was built from a publication, and updated from others of its name. -/
inductive Built (files : PeerFiles) : Thread → Prop
  | created {findContact : String → Bool} {publication : Publication} {now : Time} {t : Thread}
      (h : Thread.createFrom files findContact publication now = .ok (some t)) : Built files t
  | updated {t t' : Thread} {findContact : String → Bool} {publication : Publication} {now : Time} {taken : Bool}
      (ht : Built files t) (h : t.updateFrom files findContact publication now = .ok (taken, t')) : Built files t'

theorem updateFrom_false (h : t.updateFrom files findContact publication now = .ok (false, t')) :
    t' = t.resetChanged := by
  simp only [Thread.updateFrom] at h
  split at h
  case isFalse => cases h
  case isTrue =>
    split at h
    case h_1 => exact (Prod.mk.inj (Except.ok.inj h)).2.symm
    case h_2 =>
      split at h
      case h_1 => cases h
      case h_2 =>
        split at h
        case h_1 => cases h
        case h_2 => exact (Prod.mk.inj (Except.ok.inj h)).2.symm
        case h_3 => cases h

theorem messageEntry_fst (messages : List Message) :
    (messages.map messageEntry).map Prod.fst = messages.map (·.mMessageID) := by
  simp [messageEntry, Function.comp_def]

theorem Built.indexed (h : Built files t) : t.Indexed := by
  induction h with
  | created h =>
    intro id
    simp only [Thread.createFrom] at h
    split at h
    case h_1 => cases h
    case h_2 s hs =>
      generalize readDialogs s.dialogBundles = dialogs at h
      cases dialogs with
      | error => cases h
      | ok dialogs =>
        cases dialogs with
        | none => cases h
        | some dialogs =>
          cases h
          simp only [Thread.messageIDs, ExtTreeMap.contains_ofList, messageEntry_fst, List.contains_iff_mem]
  | @updated t t' _ _ _ taken ht h ih =>
    intro id
    cases taken with
    | false =>
      rw [updateFrom_false h]
      exact ih id
    | true =>
      obtain ⟨u, dialogs, hupdated⟩ := updateFrom_true h
      obtain ⟨hlist, hmap⟩ := hupdated.messages_appended
      have hids : t'.messageIDs = t.messageIDs ++ t'.changed.mMessagesChanged.map (·.mMessageID) := by
        rw [Thread.messageIDs, hlist, List.map_append, Thread.messageIDs]
      rw [hids, hmap, ExtTreeMap.contains_insertMany_list, messageEntry_fst, Bool.or_eq_true, ih id, List.mem_append,
        List.contains_iff_mem]

/-! ## A sequence of updates -/

/-- A version of the publication that a reader sees. -/
structure Seen where
  findContact : String → Bool
  publication : Publication
  now : Time

/-- A thread, and what its updates have reported. -/
structure Reader where
  thread : Thread
  reported : List Changed := []

def follow (files : PeerFiles) (r : Reader) (s : Seen) : Except Trap Reader :=
  match r.thread.updateFrom files s.findContact s.publication s.now with
  | .error trap => .error trap
  | .ok (false, thread) => .ok { r with thread }
  | .ok (true, thread) => .ok ⟨thread, r.reported ++ [thread.changed]⟩

/-- An update that succeeds is from a plain document. -/
def PlainUpdate (files : PeerFiles) (r : Reader) (s : Seen) : Prop :=
  ∀ t', r.thread.updateFrom files s.findContact s.publication s.now = .ok (true, t') →
    Plain files s.findContact r.thread s.publication.mDocument

/-- The three lists of contacts. -/
inductive ContactLists where
  | contacts
  | addContacts
  | removeContacts

namespace ContactLists

def held (t : Thread) (id : String) : ContactLists → Bool
  | contacts => t.mContacts.mContacts.contains id
  | addContacts => t.mContacts.mAddContacts.contains id
  | removeContacts => t.mContacts.mRemoveContacts.contains id

def added (id : String) (c : Changed) : ContactLists → Bool
  | contacts => c.mContactsChanged.contains id
  | addContacts => c.mContactsToAddChanged.contains id
  | removeContacts => c.mContactsToRemoveChanged.contains id

def dropped (id : String) (c : Changed) : ContactLists → Bool
  | contacts => c.mContactsRemoved.contains id
  | addContacts => c.mContactsToAddRemoved.contains id
  | removeContacts => c.mContactsToRemoveRemoved.contains id

end ContactLists

/-- Since a thread was at hand, each message and each receipt that it has come to hold was reported once, and each
contact that came to a list or left it was reported as often as it did. -/
structure ReportedOnce (t : Thread) (r : Reader) : Prop where
  messages : r.thread.mMessageList = t.mMessageList ++ r.reported.flatMap (·.mMessagesChanged)
  messagesOnce : ((r.reported.flatMap (·.mMessagesChanged)).map (·.mMessageID)).Nodup ∧
    ∀ m ∈ r.reported.flatMap (·.mMessagesChanged), m.mMessageID ∉ t.messageIDs
  receipts : ∀ id, id ∈ r.thread.mMessageReceipts.mReceipts ↔
    id ∈ t.mMessageReceipts.mReceipts ∨ id ∈ r.reported.flatMap (·.mMessageReceiptsChanged.keys)
  receiptsOnce : (r.reported.flatMap (·.mMessageReceiptsChanged.keys)).Nodup ∧
    ∀ id ∈ r.reported.flatMap (·.mMessageReceiptsChanged.keys), id ∉ t.mMessageReceipts.mReceipts
  contacts : ∀ (list : ContactLists) (id : String),
    (list.held t id).toNat + r.reported.countP (fun c => list.added id c) =
      (list.held r.thread id).toNat + r.reported.countP fun c => list.dropped id c

theorem reportedOnce_nil (t : Thread) : ReportedOnce t ⟨t, []⟩ where
  messages := (List.append_nil _).symm
  messagesOnce := by simp
  receipts id := by simp
  receiptsOnce := by simp
  contacts list id := rfl

theorem ContactsExact.list (h : ContactsExact t t') (list : ContactLists) (id : String) :
    (list.added id t'.changed = true ↔ list.held t' id = true ∧ ¬list.held t id = true) ∧
      (list.dropped id t'.changed = true ↔ list.held t id = true ∧ ¬list.held t' id = true) := by
  cases list with
  | contacts =>
    have hadded := h.changed.mem_iff id
    have hdropped := h.removed.mem_iff id
    simp_all [ContactLists.held, ContactLists.added, ContactLists.dropped]
  | addContacts =>
    have hadded := h.toAddChanged.mem_iff id
    have hdropped := h.toAddRemoved.mem_iff id
    simp_all [ContactLists.held, ContactLists.added, ContactLists.dropped]
  | removeContacts =>
    have hadded := h.toRemove.added_iff id
    have hdropped := h.toRemove.removed_iff id
    simp_all [ContactLists.held, ContactLists.added, ContactLists.dropped]

namespace ReportedOnce

variable {r : Reader}

theorem messageIDs (h : ReportedOnce t r) :
    r.thread.messageIDs = t.messageIDs ++ (r.reported.flatMap (·.mMessagesChanged)).map (·.mMessageID) := by
  rw [Thread.messageIDs, h.messages, List.map_append, Thread.messageIDs]

theorem updated (h : ReportedOnce t r) (hexact : Exact doc r.thread t')
    (hlist : t'.mMessageList = r.thread.mMessageList ++ t'.changed.mMessagesChanged)
    (hreceipts : t'.mMessageReceipts = r.thread.mMessageReceipts) :
    ReportedOnce t ⟨t', r.reported ++ [t'.changed]⟩ := by
  have hreported : (r.reported ++ [t'.changed]).flatMap (·.mMessagesChanged) =
      r.reported.flatMap (·.mMessagesChanged) ++ t'.changed.mMessagesChanged := by simp
  have hkeys : (r.reported ++ [t'.changed]).flatMap (·.mMessageReceiptsChanged.keys) =
      r.reported.flatMap (·.mMessageReceiptsChanged.keys) ++ t'.changed.mMessageReceiptsChanged.keys := by simp
  have hunheld : ∀ m ∈ t'.changed.mMessagesChanged, m.mMessageID ∉ r.thread.messageIDs := by
    intro m hm
    rw [hexact.messages.new] at hm
    exact of_decide_eq_true (List.mem_filter.mp hm).2
  have hnewReceipts : ∀ id, id ∈ t'.changed.mMessageReceiptsChanged.keys ↔
      id ∈ t'.mMessageReceipts.mReceipts ∧ id ∉ r.thread.mMessageReceipts.mReceipts := by
    intro id
    rw [ExtTreeMap.mem_keys]
    exact hexact.receipts.mem_iff id
  constructor
  · rw [hreported, hlist, h.messages, List.append_assoc]
  · rw [hreported, List.map_append, List.nodup_append]
    refine ⟨⟨h.messagesOnce.1, hexact.messages.once, fun id hold id' hnew heq => ?_⟩, fun m hm => ?_⟩
    · obtain ⟨m, hm, rfl⟩ := List.mem_map.mp hnew
      refine hunheld m hm ?_
      rw [h.messageIDs, ← heq]
      exact List.mem_append_right _ hold
    · rcases List.mem_append.mp hm with hold | hnew
      · exact h.messagesOnce.2 m hold
      · intro hmem
        apply hunheld m hnew
        rw [h.messageIDs]
        exact List.mem_append_left _ hmem
  · intro id
    have hold := h.receipts id
    have hnew := hnewReceipts id
    rw [hkeys, List.mem_append]
    rw [hreceipts] at hnew ⊢
    tauto
  · rw [hkeys, List.nodup_append]
    refine ⟨⟨h.receiptsOnce.1, ExtTreeMap.nodup_keys, fun id hold id' hnew heq => ?_⟩, fun id hid => ?_⟩
    · refine ((hnewReceipts id').mp hnew).2 ((h.receipts id').mpr (.inr ?_))
      rwa [← heq]
    · rcases List.mem_append.mp hid with hold | hnew
      · exact h.receiptsOnce.2 id hold
      · intro hmem
        exact ((hnewReceipts id).mp hnew).2 ((h.receipts id).mpr (.inl hmem))
  · intro list id
    obtain ⟨hadded, hdropped⟩ := hexact.contacts.list list id
    have hold := h.contacts list id
    rw [List.countP_append, List.countP_append, List.countP_singleton, List.countP_singleton]
    dsimp only at hold ⊢
    cases hbefore : list.held r.thread id <;> cases hafter : list.held t' id <;> simp_all <;> omega

theorem unchanged (h : ReportedOnce t r) : ReportedOnce t { r with thread := r.thread.resetChanged } :=
  { h with }

end ReportedOnce

theorem follow_spec {r r' : Reader} {s : Seen} (hplain : PlainUpdate files r s)
    (h : Built files r.thread ∧ ReportedOnce t r) (hr : follow files r s = .ok r') :
    Built files r'.thread ∧ ReportedOnce t r' := by
  obtain ⟨hbuilt, honce⟩ := h
  simp only [follow] at hr
  split at hr
  case h_1 => cases hr
  case h_2 thread hupdate =>
    cases hr
    refine ⟨hbuilt.updated hupdate, ?_⟩
    rw [updateFrom_false hupdate]
    exact honce.unchanged
  case h_3 thread hupdate =>
    cases hr
    obtain ⟨u, dialogs, hupdated⟩ := updateFrom_true hupdate
    have hexact := (hupdated.exact_iff hbuilt.indexed).mpr (hplain thread hupdate)
    exact ⟨hbuilt.updated hupdate, honce.updated hexact hupdated.messages_appended.1 hupdated.receipts_kept⟩

/-- An update of a thread that was built from a publication reports the difference between the thread before and the
thread after just when the document is plain, and over any sequence of such updates each message and each receipt is
reported once, and each contact whenever it comes to a list or leaves it. -/
theorem change_sets_exact (files : PeerFiles) :
    (∀ t t' findContact publication now, Built files t →
      t.updateFrom files findContact publication now = .ok (true, t') →
        (Exact publication.mDocument t t' ↔ Plain files findContact t publication.mDocument)) ∧
    ∀ t seen r, Built files t → Runs.TryMeets (follow files) (PlainUpdate files) ⟨t, []⟩ seen →
      Runs.tryRun (follow files) ⟨t, []⟩ seen = .ok r → ReportedOnce t r := by
  constructor
  · intro t t' findContact publication now hbuilt h
    obtain ⟨u, dialogs, hupdated⟩ := updateFrom_true h
    exact hupdated.exact_iff hbuilt.indexed
  · intro t seen r hbuilt hmeets hrun
    have hinvariant := Runs.tryRun_invariant (fun r : Reader => Built files r.thread ∧ ReportedOnce t r)
      (fun r s r' hplain h hr => follow_spec hplain h hr) hmeets ⟨hbuilt, reportedOnce_nil t⟩ hrun
    exact hinvariant.2

section Samples

/-- A publication whose sections are all of one version, with contacts to be removed and the receipts of some
messages. -/
def versionOf (version : Nat) (removeContacts messageIDs : List String) : Publication :=
  let details : Details := ⟨1, "b", "h", "", .opened, "", .at 1000000⟩
  let receipts : MessageReceipts := ⟨version, ExtTreeMap.ofList (messageIDs.map fun id => (id, Time.at 2000000))⟩
  let threadEl : Element := ⟨"thread", [], [
    .element details.detailsElement,
    .element (withVersion version ⟨"contacts", [], removeContacts.map fun id => .element (removeElement id)⟩),
    .element (withVersion version (Tag.create "messages")),
    .element receipts.receiptsElement,
    .element (withVersion version (Tag.create "dialogs"))]⟩
  Publication.create "/threads/1.0/slave/b/h/state" [.element threadEl]

def seenOf (publication : Publication) : Seen := ⟨fun _ => false, publication, .at 3000000⟩

/-- The thread of a publication, and the one after an update from another. -/
def updateOf (first later : Publication) : Option (Thread × Thread) :=
  match Thread.createFrom noPeerFiles (fun _ => false) first (.at 3000000) with
  | .ok (some t) =>
    match t.updateFrom noPeerFiles (fun _ => false) later (.at 3000000) with
    | .ok (true, t') => some (t, t')
    | _ => none
  | _ => none

theorem of_updateOf {first later : Publication} {p : Thread × Thread} (h : updateOf first later = some p) :
    Built noPeerFiles p.1 ∧
      p.1.updateFrom noPeerFiles (fun _ => false) later (.at 3000000) = .ok (true, p.2) := by
  simp only [updateOf] at h
  split at h
  case h_1 t hcreate =>
    split at h
    case h_1 t' hupdate =>
      cases h
      exact ⟨.created hcreate, hupdate⟩
    case h_2 => cases h
  case h_2 => cases h

/-- One more contact is to be removed, and the receipt is the one that there was. -/
theorem sample_plain {t : Thread} (hremove : t.mContacts.mRemoveContacts = ["c"])
    (hreceipts : t.mMessageReceipts.mReceipts.keys = ["m"]) (hdialogs : t.mDialogs.keys = []) :
    Plain noPeerFiles (fun _ => false) t (versionOf 2 ["c", "d"] ["m"]).mDocument where
  messages el hreads := by
    have hnone : (sectionOf (versionOf 2 ["c", "d"] ["m"]).mDocument "messages").map bundleIDs = some [] := by
      decide +kernel
    rw [hreads.1, Option.map_some, Option.some.injEq] at hnone
    simp [unknownIDs, hnone]
  receipts el receipts hreads hcreate id hid := by
    have hkeys : ((sectionOf (versionOf 2 ["c", "d"] ["m"]).mDocument "receipts").bind MessageReceipts.create).map
        (·.mReceipts.keys) = some ["m"] := by decide +kernel
    rw [hreads.1, Option.bind_some, hcreate, Option.map_some, Option.some.injEq] at hkeys
    rw [← ExtTreeMap.mem_keys, hreceipts, ← hkeys]
    exact ExtTreeMap.mem_keys.mpr hid
  contacts el contacts hreads hparse id hid := by
    have hlist : ((sectionOf (versionOf 2 ["c", "d"] ["m"]).mDocument "contacts").bind
        (ThreadContacts.parse noPeerFiles fun _ => false)).map (·.mRemoveContacts) = some ["c", "d"] := by
      decide +kernel
    rw [hreads.1, Option.bind_some, hparse, Option.map_some, Option.some.injEq] at hlist
    rw [hremove, List.mem_singleton] at hid
    simp [hlist, hid]
  dialogs el _ id dialog hdialog := by
    have hmem : id ∈ t.mDialogs.keys := ExtTreeMap.mem_keys.mpr (ExtTreeMap.mem_iff_isSome_getElem?.mpr (hdialog ▸ rfl))
    simp [hdialogs] at hmem

theorem change_sets_exact_sample :
    ∃ p, updateOf (versionOf 1 ["c"] ["m"]) (versionOf 2 ["c", "d"] ["m"]) = some p ∧
      Exact (versionOf 2 ["c", "d"] ["m"]).mDocument p.1 p.2 ∧ ReportedOnce p.1 ⟨p.2, [p.2.changed]⟩ := by
  have hlists : (updateOf (versionOf 1 ["c"] ["m"]) (versionOf 2 ["c", "d"] ["m"])).map (fun p =>
      (p.1.mContacts.mRemoveContacts, p.1.mMessageReceipts.mReceipts.keys, p.1.mDialogs.keys)) =
        some (["c"], ["m"], []) := by decide +kernel
  obtain ⟨p, hp, hlists⟩ := Option.map_eq_some_iff.mp hlists
  obtain ⟨hremove, hreceipts, hdialogs⟩ : p.1.mContacts.mRemoveContacts = ["c"] ∧
      p.1.mMessageReceipts.mReceipts.keys = ["m"] ∧ p.1.mDialogs.keys = [] := by simpa using hlists
  obtain ⟨hbuilt, hupdate⟩ := of_updateOf hp
  have hplain := sample_plain hremove hreceipts hdialogs
  have hmeets : Runs.TryMeets (follow noPeerFiles) (PlainUpdate noPeerFiles) ⟨p.1, []⟩
      [seenOf (versionOf 2 ["c", "d"] ["m"])] := ⟨fun _ _ => hplain, fun _ _ => trivial⟩
  have hrun : Runs.tryRun (follow noPeerFiles) ⟨p.1, []⟩ [seenOf (versionOf 2 ["c", "d"] ["m"])] =
      .ok ⟨p.2, [p.2.changed]⟩ := by
    have hupdate' : p.1.updateFrom noPeerFiles (seenOf (versionOf 2 ["c", "d"] ["m"])).findContact
        (seenOf (versionOf 2 ["c", "d"] ["m"])).publication (seenOf (versionOf 2 ["c", "d"] ["m"])).now =
          .ok (true, p.2) := hupdate
    simp only [Runs.tryRun, follow, hupdate', List.nil_append]
  have hexact := ((change_sets_exact noPeerFiles).1 _ _ _ _ _ hbuilt hupdate).mpr hplain
  exact ⟨p, hp, hexact, (change_sets_exact noPeerFiles).2 _ _ _ hbuilt hmeets hrun⟩

/-- The receipts that two updates in a row report. -/
def receiptsReported (first second third : Publication) : Option (List String × List String) :=
  match updateOf first second with
  | none => none
  | some p =>
    match p.2.updateFrom noPeerFiles (fun _ => false) third (.at 3000000) with
    | .ok (true, t) => some (p.2.changed.mMessageReceiptsChanged.keys, t.changed.mMessageReceiptsChanged.keys)
    | _ => none

/-- A contact that is no longer to be removed is listed with those that are no longer to be added, and the receipt of
a message is reported by one update after the other. -/
theorem removal_mislisted :
    (∃ p, updateOf (versionOf 1 ["c"] []) (versionOf 2 [] []) = some p ∧
      ¬Exact (versionOf 2 [] []).mDocument p.1 p.2) ∧
    receiptsReported (versionOf 1 [] []) (versionOf 2 [] ["m"]) (versionOf 3 [] ["m"]) = some (["m"], ["m"]) := by
  constructor
  · have hlists : (updateOf (versionOf 1 ["c"] []) (versionOf 2 [] [])).map (fun p =>
        (p.1.mContacts.mRemoveContacts, p.2.mContacts.mRemoveContacts, p.2.changed.mContactsToRemoveRemoved)) =
          some (["c"], [], []) := by decide +kernel
    obtain ⟨p, hp, hlists⟩ := Option.map_eq_some_iff.mp hlists
    refine ⟨p, hp, fun hexact => ?_⟩
    have hremoved := (hexact.contacts.toRemove.removed_iff "c").mpr
    simp_all
  · decide +kernel

end Samples

end OpenPeer.ConversationThread
