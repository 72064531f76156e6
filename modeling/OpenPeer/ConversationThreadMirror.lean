import OpenPeer.ConversationThreadReading

/-!
# The document mirrors the thread

After each batch the document of the thread shows its sections, and a reader that makes
a thread of it finds them there.
-/
namespace OpenPeer.ConversationThread

open Xml Std

section Clock

variable {clock : Time → Prop} {t : Thread}

/-- The times of the thread are ones of the clock. -/
def Thread.Within (clock : Time → Prop) (t : Thread) : Prop :=
  clock t.mDetails.mCreated ∧ ∀ e ∈ t.mMessageReceipts.mReceipts.toList, clock e.2

/-- The times that are given to the call are ones of the clock. -/
def Call.Within (clock : Time → Prop) : Call → Prop
  | .setState _ now => clock now
  | .setReceived _ now => clock now
  | .setReceivedMap messages => ∀ e ∈ messages.toList, clock e.2
  | _ => True

/-- The times that are gathered are ones of the clock. -/
def GatheredWithin (clock : Time → Prop) (p : Thread) : Prop :=
  clock p.mDetails.mCreated ∧ ∀ e ∈ p.changed.mMessageReceiptsChanged.toList, clock e.2

theorem effect_within {p : Thread} (h : GatheredWithin clock p) {c : Call} (hc : c.Within clock) :
    GatheredWithin clock (p.effect c) := by
  cases c with
  | setState state now =>
    change GatheredWithin clock (p.setState state now)
    unfold Thread.setState
    split
    · exact h
    · exact ⟨hc, h.2⟩
  | setReceived message now =>
    refine ⟨h.1, fun e he => ?_⟩
    rcases Maps.mem_of_mem_insert he with rfl | hin
    · exact hc
    · cases hin
  | setReceivedMap messages =>
    change GatheredWithin clock (p.setReceivedMap messages)
    unfold Thread.setReceivedMap
    simp only
    split
    · exact ⟨h.1, hc⟩
    · exact h
  | _ => exact h

theorem calls_within {p p' : Thread} (h : GatheredWithin clock p) {cs : List Call} (hcs : ∀ c ∈ cs, c.Within clock)
    (hcalls : p.calls cs = .ok p') : GatheredWithin clock p' := by
  induction cs generalizing p with
  | nil => cases hcalls; exact h
  | cons c cs ih =>
    have hcall : p.call c = .ok (p.effect c) ∨ ∃ trap, p.call c = .error trap := by
      unfold Thread.call Thread.modify
      split
      · exact .inl rfl
      · exact .inr ⟨_, rfl⟩
    rcases hcall with hcall | ⟨trap, hcall⟩
    · simp only [Thread.calls, hcall] at hcalls
      exact ih (effect_within h (hcs c List.mem_cons_self)) (fun c' hc' => hcs c' (List.mem_cons_of_mem _ hc')) hcalls
    · simp [Thread.calls, hcall] at hcalls

theorem gather_within {p : Thread} (h : t.Within clock) {cs : List Call} (hcs : ∀ c ∈ cs, c.Within clock)
    (hgather : t.gather cs = .ok p) : GatheredWithin clock p := by
  unfold Thread.gather Thread.updateBegin at hgather
  split at hgather
  · cases hgather
  case h_2 begun hbegin =>
    split at hbegin
    · cases hbegin
      have hbegun : GatheredWithin clock { t.resetChanged with mModifying := true } := by
        refine ⟨h.1, fun e he => ?_⟩
        have hnil : (∅ : MessageReceiptMap).toList = [] := rfl
        simp only [Thread.resetChanged, hnil] at he
        cases he
      exact calls_within hbegun hcs hgather
    · cases hbegin

theorem settle_within {files : PeerFiles} {p : Thread} {n : Nat} (hgathered : Gathered files t p n) (h : t.Within clock)
    (hp : GatheredWithin clock p) : p.settle.Within clock := by
  refine ⟨hp.1, ?_⟩
  rw [settle_receipts hgathered]
  split
  · exact h.2
  · exact hp.2

theorem wholeSeconds_of_within (h : t.Within clock) (hclock : ∀ time, clock time → OpenPeer.rounded time = time) :
    t.WholeSeconds := by
  refine ⟨?_, ?_⟩
  · rw [Details.rounded, hclock _ h.1]
  · have hmap : (t.mMessageReceipts.mReceipts.map fun _ time => OpenPeer.rounded time) = t.mMessageReceipts.mReceipts := by
      refine ExtTreeMap.ext_getElem? fun id => ?_
      rw [ExtTreeMap.getElem?_map]
      cases hid : t.mMessageReceipts.mReceipts[id]? with
      | none => rfl
      | some time =>
        have hmem := ExtTreeMap.mem_toList_iff_getElem?_eq_some.mpr hid
        rw [Option.map_some, hclock time (h.2 _ hmem)]
    rw [MessageReceipts.rounded, hmap]

end Clock

section Mirror

variable {files : PeerFiles} {t : Thread} {ds : List Dialog} {l : Layout}

/-- A thread between two batches, with the layout of its document and the dialogs it holds. -/
structure Mirror (files : PeerFiles) (t : Thread) (ds : List Dialog) (l : Layout) : Prop where
  canModify : t.mCanModify = true
  idle : t.mModifying = false
  changesDoc : t.mChangesDoc = none
  consistent : Consistent files t ds
  shows : Shows files t ds l
  document : t.mPublication.mDocument = l.document
  permits : Permits t

/-- The calls of a batch are well formed, and what they gather can be settled. -/
structure Sound (files : PeerFiles) (t : Thread) (cs : List Call) : Prop where
  wellFormed : ∀ c ∈ cs, c.WellFormed files
  detailsVersion : t.mDetails.mVersion + stateChanges cs < uintBound
  settles : ∀ p, t.gather cs = .ok p → Settles t p

/-- A batch goes through and leaves a mirrored thread, each section with a higher version just where it is another. -/
theorem Mirror.batch (h : Mirror files t ds l) {cs : List Call} (hsound : Sound files t cs) :
    ∃ t' ds' l', t.batch files cs = .ok t' ∧ Mirror files t' ds' l' ∧ Evolves t t' ∧
      t'.mPublication.mName = t.mPublication.mName ∧
      ∀ clock : Time → Prop, t.Within clock → (∀ c ∈ cs, c.Within clock) → t'.Within clock := by
  obtain ⟨p, hgather, hgathered⟩ := gather_gathers h.canModify h.idle h.changesDoc hsound.detailsVersion hsound.wellFormed
  have hsettles := hsound.settles p hgather
  have hids := documentDialogIDs_eq h.shows h.document fun d hd => (h.consistent.dialogs d hd).bundled
  have hevolves := settle_evolves hgathered h.consistent hsettles hids
  have hconsistent := settle_consistent hgathered h.consistent hsettles hsound.detailsVersion
  obtain ⟨updated, mPublication, mPermissionPublication, changed, l', hend, hdocument, hname, hshows, hpermits⟩ :=
    updateEnd_shows hgathered h.consistent hsettles h.shows h.document h.canModify h.changesDoc h.permits
  refine ⟨_, dialogsAfter ds p.changed, l', by simp only [Thread.batch, hgather, hend, Except.map]; rfl, ?_, ?_, hname, ?_⟩
  · exact {
      canModify := hgathered.keeps.canModify.trans h.canModify
      idle := rfl
      changesDoc := rfl
      consistent := { hconsistent with }
      shows := { hshows with }
      document := hdocument
      permits := fun hhost => hpermits (hgathered.keeps.type ▸ hhost) }
  · exact { hevolves with }
  · intro clock hclock hcs
    exact settle_within hgathered hclock (gather_within hclock hcs hgather)

/-- The layout of the document of a new thread. -/
def newLayout (mDetails : Details) : Layout where
  part
    | .details => mDetails.detailsElement
    | .contacts => withVersion 1 ⟨"contacts", [], []⟩
    | .messages => messagesElement 1 []
    | .receipts => (⟨1, ∅⟩ : MessageReceipts).receiptsElement
    | .dialogs => dialogsElement 1 []
  named p := by
    cases p with
    | details => exact withVersion_name _ _
    | _ => rfl

/-- A thread that was just created is mirrored by its document. -/
theorem mirror_create {threadType : ThreadTypes} {baseThreadID hostThreadID topic replaces : String}
    {state : ConversationThreadStates} {hostContactURI : Option String} {now : Time} (hnow : Dated now)
    (h : Thread.create files threadType baseThreadID hostThreadID topic replaces state hostContactURI now = .ok t) :
    (∃ l, Mirror files t [] l) ∧ ∀ clock : Time → Prop, clock now → t.Within clock := by
  have hempty : (ThreadContacts.create 1 [] [] []).contactsElement files = some (withVersion 1 ⟨"contacts", [], []⟩) := rfl
  have hnoContacts : ∀ e, e ∉ (ThreadContacts.create 1 [] [] []).mContacts.toList := fun e => List.not_mem_nil
  have hnoReceipts : ∀ e, e ∉ (∅ : MessageReceiptMap).toList := fun e => List.not_mem_nil
  have hwritable : (ThreadContacts.create 1 [] [] []).Writable files := {
    contacts := fun e he => absurd he (hnoContacts e)
    addContacts := fun e he => absurd he (hnoContacts e)
    removeContacts := List.nodup_nil }
  let mDetails : Details := ⟨1, baseThreadID, hostThreadID, replaces, state, topic, now⟩
  have hcreated : ∃ name permissionName relationships, (threadType = .host → relationships = []) ∧ t = {
      mType := threadType
      mCanModify := true
      mModifying := false
      mPublication := Publication.create name (newLayout mDetails).document
      mPermissionPublication := some (Publication.create permissionName (createDocumentFromRelationships relationships))
      mDetails
      mContacts := ThreadContacts.create 1 [] [] []
      mMessagesVersion := 1
      mMessageList := []
      mMessageMap := ∅
      mMessageReceipts := ⟨1, ∅⟩
      mDialogsVersion := 1
      mDialogs := ∅
      mChangesDoc := none
      mMessagesChangedTime := .notADateTime
      changed := {} } := by
    simp only [Thread.create, hempty] at h
    split at h
    · cases h
    · cases h
    case h_3 contactsEl hcontactsEl _ =>
      obtain rfl : withVersion 1 ⟨"contacts", [], []⟩ = contactsEl := Option.some.inj hcontactsEl
      refine ⟨_, _, _, fun hhost => ?_, (Except.ok.inj h).symm⟩
      rw [hhost]
      rfl
  obtain ⟨name, permissionName, relationships, hhost, rfl⟩ := hcreated
  refine ⟨⟨newLayout mDetails, ?_⟩, fun clock hclock => ⟨hclock, fun e he => absurd he (hnoReceipts e)⟩⟩
  refine { canModify := rfl, idle := rfl, changesDoc := rfl, consistent := ?_, shows := ?_, document := rfl, permits := ?_ }
  · exact {
      detailsVersion := (by decide : 1 < uintBound)
      created := hnow
      contactsVersion := (by decide : 1 < uintBound)
      contacts := hwritable
      named := fun e he => absurd he (hnoContacts e)
      messagesVersion := (by decide : 1 < uintBound)
      messages := fun m hm => absurd hm List.not_mem_nil
      messageIDs := List.nodup_nil
      messageMap := rfl
      receiptsVersion := (by decide : 1 < uintBound)
      receipts := fun e he => absurd he (hnoReceipts e)
      dialogsVersion := (by decide : 1 < uintBound)
      dialogs := fun d hd => absurd hd List.not_mem_nil
      dialogIDs := List.nodup_nil
      dialogMap := rfl }
  · exact ⟨rfl, rfl, rfl, rfl, rfl⟩
  · intro htype
    rw [hhost htype]
    exact ⟨_, rfl, rfl⟩

end Mirror

section Runs

variable {files : PeerFiles} {clock : Time → Prop} {t t' : Thread}

/-- A section has a higher version just where it is another. -/
structure Rises (t t' : Thread) : Prop where
  details : t.mDetails.mVersion < t'.mDetails.mVersion ↔ { t'.mDetails with mVersion := t.mDetails.mVersion } ≠ t.mDetails
  contacts : t.mContacts.mVersion < t'.mContacts.mVersion ↔ t'.mContacts.lists ≠ t.mContacts.lists
  messages : t.mMessagesVersion < t'.mMessagesVersion ↔ t'.mMessageList ≠ t.mMessageList
  receipts : t.mMessageReceipts.mVersion < t'.mMessageReceipts.mVersion ↔
    t'.mMessageReceipts.mReceipts ≠ t.mMessageReceipts.mReceipts
  dialogs : t.mDialogsVersion < t'.mDialogsVersion ↔ t'.mDialogs ≠ t.mDialogs

theorem rises_or {version version' : Nat} {changes : Prop} (h : (version' = version ∧ ¬changes) ∨ (version < version' ∧ changes)) :
    version < version' ↔ changes := by
  rcases h with ⟨hversion, hsame⟩ | ⟨hversion, hother⟩
  · exact ⟨fun hlt => absurd hlt (by omega), fun hchanges => absurd hchanges hsame⟩
  · exact ⟨fun _ => hother, fun _ => hversion⟩

theorem Evolves.rises (h : Evolves t t') : Rises t t' where
  details := rises_or (h.details.imp_left fun heq => ⟨by rw [heq], fun hne => hne (by rw [heq])⟩)
  contacts := rises_or (h.contacts.imp_left fun heq => ⟨by rw [heq], fun hne => hne (by rw [heq])⟩)
  messages := by
    refine rises_or (h.messages.imp (fun heq => ⟨heq.1, fun hne => hne heq.2⟩) fun hrise => ⟨hrise.1, ?_⟩)
    obtain ⟨m, ms, hlist⟩ := hrise.2
    rw [hlist]
    simp
  receipts := rises_or (h.receipts.imp_left fun heq => ⟨by rw [heq], fun hne => hne (by rw [heq])⟩)
  dialogs := rises_or (h.dialogs.imp_left fun heq => ⟨heq.1, fun hne => hne heq.2⟩)

/-- The threads that are created and taken through sound batches, at times of the clock. -/
inductive Reached (files : PeerFiles) (clock : Time → Prop) : Thread → Prop where
  | created {threadType : ThreadTypes} {baseThreadID hostThreadID topic replaces : String}
      {state : ConversationThreadStates} {hostContactURI : Option String} {now : Time} {t : Thread} :
      Dated now → clock now →
      Thread.create files threadType baseThreadID hostThreadID topic replaces state hostContactURI now = .ok t →
      Reached files clock t
  | batch {t t' : Thread} {cs : List Call} : Reached files clock t → Sound files t cs → (∀ c ∈ cs, c.Within clock) →
      t.batch files cs = .ok t' → Reached files clock t'

theorem Reached.mirror (h : Reached files clock t) : (∃ ds l, Mirror files t ds l) ∧ t.Within clock := by
  induction h with
  | created hnow hclock hcreate =>
    obtain ⟨⟨l, hmirror⟩, hwithin⟩ := mirror_create hnow hcreate
    exact ⟨⟨[], l, hmirror⟩, hwithin clock hclock⟩
  | batch _ hsound hcs hbatch ih =>
    obtain ⟨⟨ds, l, hmirror⟩, hwithin⟩ := ih
    obtain ⟨t', ds', l', hbatch', hmirror', -, -, hwithin'⟩ := hmirror.batch hsound
    obtain rfl := Except.ok.inj (hbatch.symm.trans hbatch')
    exact ⟨⟨ds', l', hmirror'⟩, hwithin' clock hwithin hcs⟩

theorem Mirror.contactList {ds : List Dialog} {l : Layout} (h : Mirror files t ds l) (hhost : t.mType = .host) :
    ∃ permissionPublication, t.mPermissionPublication = some permissionPublication ∧
      permissionPublication.getAsContactList = t.mContacts.mContacts.keys := by
  obtain ⟨permissionPublication, hpublication, hdocument⟩ := h.permits hhost
  refine ⟨permissionPublication, hpublication, ?_⟩
  rw [contactList_createDocumentFromRelationships hdocument, List.filter_eq_self]
  intro uri huri
  rw [← ExtTreeMap.map_fst_toList_eq_keys] at huri
  obtain ⟨e, he, rfl⟩ := List.mem_map.mp huri
  exact decide_eq_true (h.consistent.named e he)

/-- In every run of sound batches the next one goes through; a reader then makes a thread with
the same sections of the document, the times in whole seconds, a section has a higher version
just where it is another, and the permissions of a host list its contacts. -/
theorem batch_mirrored (h : Reached files clock t) {cs : List Call} (hsound : Sound files t cs)
    (hcs : ∀ c ∈ cs, c.Within clock) :
    ∃ t', t.batch files cs = .ok t' ∧
      (∀ findContact now, ∃ r, Thread.createFrom files findContact t'.mPublication now = .ok (some r) ∧
        SameSections r t'.rounded ∧ ((∀ time, clock time → rounded time = time) → SameSections r t')) ∧
      (t'.mMessageList.map Message.mMessageID).Nodup ∧ Rises t t' ∧
      (t'.mType = .host → ∃ permissionPublication, t'.mPermissionPublication = some permissionPublication ∧
        permissionPublication.getAsContactList = t'.mContacts.mContacts.keys) := by
  obtain ⟨⟨ds, l, hmirror⟩, hwithin⟩ := h.mirror
  obtain ⟨t', ds', l', hbatch, hmirror', hevolves, -, hwithin'⟩ := hmirror.batch hsound
  refine ⟨t', hbatch, fun findContact now => ?_, hmirror'.consistent.messageIDs, hevolves.rises, hmirror'.contactList⟩
  obtain ⟨r, hcreate, hsame, -⟩ :=
    createFrom_shown hmirror'.consistent hmirror'.shows hmirror'.document findContact now
  refine ⟨r, hcreate, hsame, fun hclock => ?_⟩
  exact (sameSections_iff hsame).mpr (wholeSeconds_of_within (hwithin' clock hwithin hcs) hclock)

/-- A batch that sets another state is sound. -/
theorem sound_setState {state : ConversationThreadStates} {now : Time} (hnow : Dated now) (hmodify : t.mCanModify = true)
    (hidle : t.mModifying = false) (hchanges : t.mChangesDoc = none) (hstate : state ≠ t.mDetails.mState)
    (hversion : t.mDetails.mVersion + 1 < uintBound) (hcount : t.documentDialogIDs.length ≤ Diff.indexBound) :
    Sound files t [.setState state now] where
  wellFormed c hc := (List.mem_singleton.mp hc) ▸ hnow
  detailsVersion := hversion
  settles p hgather := by
    have hbegin : t.updateBegin = .ok { t.resetChanged with mModifying := true } :=
      if_pos ⟨hmodify, hidle, by rw [hchanges]; rfl⟩
    have hset : p.changed = { mDetailsChanged := true } ∧ p.mDetails.mState = state := by
      simp only [Thread.gather, hbegin, Thread.calls, Thread.call, Thread.modify] at hgather
      rw [if_pos ⟨hmodify, trivial⟩] at hgather
      obtain rfl := Except.ok.inj hgather
      simp [Thread.effect, Thread.setState, Thread.resetChanged, hstate]
    obtain ⟨hchanged, hnew⟩ := hset
    have hnone : p.changed.changesContacts = false ∧ p.changed.changesDialogs = false := by
      rw [hchanged]
      exact ⟨rfl, rfl⟩
    exact {
      details := fun _ heq => by
        have hold := congrArg Details.mState heq
        exact hstate (hnew.symm.trans hold)
      contactsVersion := fun h => by rw [hnone.1] at h; cases h
      messagesVersion := fun h => absurd (by rw [hchanged]) h
      messageIDs := by rw [hchanged]; exact List.nodup_nil
      receiptsVersion := fun h => absurd (by rw [hchanged]) h
      receipts := fun h => absurd (by rw [hchanged]) h
      dialogsVersion := fun h => by rw [hnone.2] at h; cases h
      dialogs := fun h => by rw [hnone.2] at h; cases h
      locatable := by
        rw [hchanged]
        exact {
          count := hcount
          readable := fun id _ hid => by rcases hid with hid | hid <;> cases hid
          once := List.nodup_nil
          known := fun id hid => absurd hid List.not_mem_nil
          unshifted := fun before id after h => by simp at h } }

/-- A thread opened with nobody in it is closed in a batch. -/
theorem batch_mirrored_setState : ∃ t t', Thread.create noPeerFiles .host "b" "h" "" "" .opened none (.at 1000000) = .ok t ∧
    t.batch noPeerFiles [.setState .closed (.at 2000000)] = .ok t' ∧
    ∀ findContact now, ∃ r, Thread.createFrom noPeerFiles findContact t'.mPublication now = .ok (some r) ∧
      SameSections r t' := by
  have hdated : Dated (.at 1000000) ∧ Dated (.at 2000000) := by decide +kernel
  have hexact : rounded (.at 1000000) = .at 1000000 ∧ rounded (.at 2000000) = .at 2000000 := by decide +kernel
  obtain ⟨t, hcreate⟩ : ∃ t, Thread.create noPeerFiles .host "b" "h" "" "" .opened none (.at 1000000) = .ok t := ⟨_, rfl⟩
  have hnew : t.mDetails.mState = .opened ∧ t.mDetails.mVersion = 1 ∧ t.documentDialogIDs.length = 0 := by
    obtain rfl := Except.ok.inj hcreate
    decide +kernel
  have hreached : Reached noPeerFiles (fun time => rounded time = time) t := .created hdated.1 hexact.1 hcreate
  obtain ⟨⟨ds, l, hmirror⟩, -⟩ := hreached.mirror
  have hsound : Sound noPeerFiles t [.setState .closed (.at 2000000)] :=
    sound_setState hdated.2 hmirror.canModify hmirror.idle hmirror.changesDoc (by rw [hnew.1]; decide)
      (by rw [hnew.2.1]; decide) (by rw [hnew.2.2]; decide)
  obtain ⟨t', hbatch, hread, -⟩ := batch_mirrored hreached hsound fun c hc => (List.mem_singleton.mp hc) ▸ hexact.2
  refine ⟨t, t', hcreate, hbatch, fun findContact now => ?_⟩
  obtain ⟨r, hcreateFrom, -, hsame⟩ := hread findContact now
  exact ⟨r, hcreateFrom, hsame fun time htime => htime⟩

/-- The bundle of a dialog without descriptions. -/
def dialogBundleOf (id : String) : Element :=
  ⟨"dialogBundle", [("id", "bundle_" ++ id)], [.element ⟨"dialog", [("id", id), ("version", "1")],
    [.element (createElementWithText "state" "open"), .element (createElementWithID "caller" "peer://a"),
      .element (createElementWithID "callerLocation" "1"), .element (createElementWithID "callee" "peer://b"),
      .element (createElementWithID "calleeLocation" "2")]⟩]⟩

/-- The thread of a batch that adds a dialog and removes it, and the thread of its reader: how many
dialogs each of them has. -/
def addAndRemove : Option (Nat × Nat) :=
  match Thread.create noPeerFiles .host "b" "h" "" "" .opened none (.at 1000000), Dialog.create (dialogBundleOf "d") with
  | .ok t, .ok (some d) =>
    match t.batch noPeerFiles [.addDialogs [d], .removeDialogs ["d"]] with
    | .ok t' =>
      match Thread.createFrom noPeerFiles (fun _ => false) t'.mPublication (.at 2000000) with
      | .ok (some r) => some (t'.mDialogs.toList.length, r.mDialogs.toList.length)
      | _ => none
    | _ => none
  | _, _ => none

/-- A dialog that is added and removed in the same batch is removed from the map only: its
path is looked for among the old dialogs, and the document shows it from then on. -/
theorem removed_dialog_stays : ∃ t d t' r, Thread.create noPeerFiles .host "b" "h" "" "" .opened none (.at 1000000) = .ok t ∧
    Dialog.create (dialogBundleOf "d") = .ok (some d) ∧
    t.batch noPeerFiles [.addDialogs [d], .removeDialogs ["d"]] = .ok t' ∧
    Thread.createFrom noPeerFiles (fun _ => false) t'.mPublication (.at 2000000) = .ok (some r) ∧
    t'.mDialogs.toList.length = 0 ∧ r.mDialogs.toList.length = 1 := by
  have hrun : addAndRemove = some (0, 1) := by decide +kernel
  unfold addAndRemove at hrun
  split at hrun
  case h_1 t d ht hd =>
    split at hrun
    case h_1 t' ht' =>
      split at hrun
      case h_1 r hr =>
        obtain ⟨hnone, hone⟩ := Prod.mk.inj (Option.some.inj hrun)
        exact ⟨t, d, t', r, ht, hd, ht', hr, hnone, hone⟩
      · cases hrun
    · cases hrun
  · cases hrun

end Runs

end OpenPeer.ConversationThread
