import OpenPeer.PublicationAtomic
import OpenPeer.Runs
import OpenPeer.Maps

/-!
# What a publication serves

The content that the last update left, binary or a document, is kept beside the publication,
with its version and the differences since the last content that was given as a whole. A
publication serves that content through any run in which every difference applies to the
document there is, and no document is fetched over binary data.
-/
namespace OpenPeer.Publishing

open Xml Std Diff

/-- What is published under one version. -/
inductive Content where
  | data (bytes : List UInt8)
  | document (nodes : Document)

/-- What the last update that succeeded left. -/
structure Latest where
  content : Content
  version : Nat
  /-- The differences since content was given as a whole, each with the version it led to. -/
  diffs : List (Nat × Document) := []

/-- The ways a publication is changed. -/
inductive Update where
  | data (bytes : List UInt8)
  | document (updatedDocumentToBeAdopted : Document)
  | relationships (relationshipList : List String)
  | fetched (fetchedPublication : Publication) (noThrowVersionMismatched : Bool)

section Serving

namespace Content

def data? : Content → Option (List UInt8)
  | .data bytes => some bytes
  | .document _ => none

def document? : Content → Option Document
  | .data _ => none
  | .document nodes => some nodes

/-- The document after a difference; none where the difference does not apply. -/
def applied (content : Content) (diff : Document) : Option Document :=
  match Publication.processOn content.document? diff with
  | .error _ => none
  | .ok (success, processed) => if success then some processed else none

end Content

namespace Latest

def document (latest : Latest) (updated : Document) : Latest :=
  if Publication.isDiff updated then
    match latest.content.applied updated with
    | none => latest
    | some processed => ⟨.document processed, latest.version + 1, (latest.version + 1, updated) :: latest.diffs⟩
  else ⟨.document updated, latest.version + 1, []⟩

/-- A fetched publication brings its own version, and no differences that could be served. -/
def fetched (latest : Latest) (fetchedPublication : Publication) : Latest :=
  match fetchedPublication.mData, fetchedPublication.mDocument with
  | some bytes, _ => ⟨.data bytes, fetchedPublication.mVersion, []⟩
  | none, none => latest
  | none, some updated =>
    if Publication.isDiff updated then
      if fetchedPublication.mBaseVersion ≠ latest.version + 1 then latest
      else
        match latest.content.applied updated with
        | none => latest
        | some processed => ⟨.document processed, fetchedPublication.mVersion, []⟩
    else ⟨.document updated, fetchedPublication.mVersion, []⟩

/-- What an update that succeeds should leave; one that does not leaves what there was. -/
def after (latest : Latest) : Update → Latest
  | .data bytes => ⟨.data bytes, latest.version + 1, []⟩
  | .document updated => latest.document updated
  | .relationships relationshipList =>
    ⟨.document (createDocumentFromRelationships relationshipList), latest.version + 1, []⟩
  | .fetched fetchedPublication _ => latest.fetched fetchedPublication

end Latest

/-- What each way to create a publication leaves. -/
inductive Created (convertFromBase64 : String → List UInt8) : Publication → Latest → Prop
  | data (metaData : PublicationMetaData) (bytes : List UInt8) :
    Created convertFromBase64 (.createData metaData bytes) ⟨.data bytes, 1, []⟩
  | document (metaData : PublicationMetaData) (document : Document) :
    Created convertFromBase64 (.createDocument metaData document) ⟨.document document, 1, []⟩
  | relationships (metaData : PublicationMetaData) (relationshipsDocument : List String) :
    Created convertFromBase64 (.createRelationships metaData relationshipsDocument)
      ⟨.document (createDocumentFromRelationships relationshipsDocument), 1, []⟩
  | binary (metaData : PublicationMetaData) (dataEl : Element) :
    Created convertFromBase64 (.createFetched convertFromBase64 metaData dataEl .binary)
      ⟨.data (convertFromBase64 dataEl.getText), metaData.mVersion, []⟩
  | json (metaData : PublicationMetaData) (dataEl : Element) :
    Created convertFromBase64 (.createFetched convertFromBase64 metaData dataEl .json)
      ⟨.document dataEl.children, metaData.mVersion, []⟩

def step (p : Publication) : Update → Publication
  | .data bytes => p.updateData bytes
  | .document updated => (p.updateDocument updated).1
  | .relationships relationshipList => (p.updateRelationships relationshipList).1
  | .fetched fetchedPublication noThrow => (p.updateFromFetchedPublication fetchedPublication noThrow).1

/-- A difference applies to the document there is. -/
def DiffApplies (p : Publication) (diff : Document) : Prop :=
  ∃ document, Publication.processOn p.mDocument diff = .ok (true, document)

/-- A difference that is given applies, as does one fetched for the next version of a document; a document that is
fetched as a whole is not fetched over binary data. -/
def Applies (p : Publication) : Update → Prop
  | .data _ | .relationships _ => True
  | .document updated => Publication.isDiff updated = true → DiffApplies p updated
  | .fetched fetchedPublication _ =>
    fetchedPublication.mData = none → ∀ updated, fetchedPublication.mDocument = some updated →
      if Publication.isDiff updated then
        fetchedPublication.mBaseVersion = p.mVersion + 1 → p.mDocument ≠ none → DiffApplies p updated
      else p.mData = none

/-- The publication holds the latest content, and no other. -/
structure Holds (p : Publication) (latest : Latest) : Prop where
  mVersion : p.mVersion = latest.version
  mData : p.mData = latest.content.data?
  mDocument : p.mDocument = latest.content.document?
  mDiffDocuments : ∀ entry ∈ p.mDiffDocuments.toList, entry ∈ latest.diffs

/-- A node that shows the latest content, whole or by the differences that led to it in a row. -/
inductive Served (convertToBase64 : List UInt8 → String) (latest : Latest) : Nat → Option Node → Prop
  | data {bytes : List UInt8} (fromVersion : Nat) (hcontent : latest.content = .data bytes) :
    Served convertToBase64 latest fromVersion (some (.text (convertToBase64 bytes)))
  | whole {nodes : Document} (hcontent : latest.content = .document nodes) :
    Served convertToBase64 latest 0 ((Publication.firstChildElement nodes).map .element)
  | differences {nodes : Document} {diffOutputEl : Element} {fromVersion : Nat} {diffs : List (Nat × Document)}
    (hcontent : latest.content = .document nodes) (hdiffs : ∀ entry ∈ diffs, entry ∈ latest.diffs)
    (hversions : diffs.map Prod.fst = List.range' fromVersion diffs.length)
    (hitems : diffOutputEl.childElements "item" = diffs.flatMap fun entry => itemsOf entry.2) :
    Served convertToBase64 latest fromVersion (some (.element diffOutputEl))

end Serving

section Steps

variable {p : Publication} {latest : Latest}

theorem mem_advanced {entry : Nat × Document} (h : entry ∈ p.advanced.mDiffDocuments.toList) :
    entry ∈ p.mDiffDocuments.toList := by
  simp only [Publication.advanced, Publication.diffsInRow] at h
  split at h
  case isTrue => exact h
  case isFalse =>
    rw [ExtTreeMap.toList_eq_nil_iff.mpr rfl] at h
    cases h

variable {document : Document}

theorem holds_whole (h : Holds p latest) (hdiff : Publication.isDiff document = false) :
    Holds (p.updateDocument document).1 ⟨.document document, latest.version + 1, []⟩ := by
  rw [Publication.updateDocument_whole hdiff]
  exact ⟨congrArg (· + 1) h.mVersion, rfl, rfl, by simp⟩

variable {diff : Document}

theorem applied_of_process (h : Holds p latest)
    (hprocess : Publication.processOn p.mDocument diff = .ok (true, document)) :
    latest.content.applied diff = some document := by
  simp [Content.applied, ← h.mDocument, hprocess]

theorem applied_of_none (h : Holds p latest) (hnone : p.mDocument = none) :
    latest.content.applied diff = none := by
  simp [Content.applied, ← h.mDocument, hnone, Publication.processOn]

theorem holds_diff (h : Holds p latest) (hdiff : Publication.isDiff diff = true)
    (happlies : DiffApplies p diff) : Holds (p.updateDocument diff).1 (latest.document diff) := by
  obtain ⟨document, hprocess⟩ := happlies
  rw [Publication.updateDocument_processed hdiff hprocess]
  simp only [Latest.document, hdiff, if_true, applied_of_process h hprocess]
  refine ⟨congrArg (· + 1) h.mVersion, rfl, rfl, fun entry hentry => ?_⟩
  rcases Maps.mem_of_mem_insert hentry with rfl | hkept
  · simp [h.mVersion]
  · exact List.mem_cons_of_mem _ (h.mDiffDocuments entry (mem_advanced hkept))

theorem holds_takeMetaData {p' fetchedPublication : Publication} {content : Content} (hdata : p'.mData = content.data?)
    (hdocument : p'.mDocument = content.document?) :
    Holds (p'.takeMetaData fetchedPublication) ⟨content, fetchedPublication.mVersion, []⟩ :=
  ⟨rfl, hdata, hdocument, by simp [Publication.takeMetaData]⟩

theorem mData_of_mDocument (h : Holds p latest) (hdocument : p.mDocument = some document) : p.mData = none := by
  rw [h.mDocument] at hdocument
  rw [h.mData]
  cases hcontent : latest.content with
  | data bytes => simp [hcontent, Content.document?] at hdocument
  | document nodes => rfl

theorem holds_fetched {fetchedPublication : Publication} (h : Holds p latest) (noThrow : Bool)
    (happlies : Applies p (.fetched fetchedPublication noThrow)) :
    Holds (p.updateFromFetchedPublication fetchedPublication noThrow).1 (latest.fetched fetchedPublication) := by
  cases hdata : fetchedPublication.mData with
  | some bytes =>
    simp only [Publication.updateFromFetchedPublication, Latest.fetched, hdata]
    exact @holds_takeMetaData _ _ (.data bytes) rfl rfl
  | none =>
    cases hdocument : fetchedPublication.mDocument with
    | none => simpa only [Publication.updateFromFetchedPublication, Latest.fetched, hdata, hdocument] using h
    | some updated =>
      have hupdated := happlies hdata updated hdocument
      cases hdiff : Publication.isDiff updated with
      | false =>
        simp only [hdiff, Bool.false_eq_true, if_false] at hupdated
        simp only [Publication.updateFromFetchedPublication, Latest.fetched, hdata, hdocument, hdiff,
          Bool.false_eq_true, if_false]
        exact @holds_takeMetaData _ _ (.document updated) hupdated rfl
      | true =>
        simp only [hdiff, if_true] at hupdated
        simp only [Latest.fetched, hdata, hdocument, hdiff, if_true, ← h.mVersion]
        by_cases hbase : fetchedPublication.mBaseVersion = p.mVersion + 1
        case neg =>
          rw [Publication.updateFromFetched_mismatched hdata hdocument hdiff hbase, if_pos hbase]
          exact h
        rw [if_neg (not_not_intro hbase)]
        cases hp : p.mDocument with
        | none =>
          have hprocess : Publication.processOn p.mDocument updated = .error .thrown := by rw [hp]; rfl
          rw [Publication.updateFromFetched_error hdata hdocument hdiff hbase hprocess, applied_of_none h hp]
          exact h
        | some document =>
          obtain ⟨processed, hprocess⟩ := hupdated hbase (by simp [hp])
          rw [Publication.updateFromFetched_processed hdata hdocument hdiff hbase hprocess,
            applied_of_process h hprocess]
          have hnone : p.mData = none := mData_of_mDocument h hp
          exact @holds_takeMetaData _ _ (.document processed) hnone rfl

theorem holds_step (update : Update) (h : Holds p latest) (happlies : Applies p update) :
    Holds (step p update) (latest.after update) := by
  cases update with
  | data bytes => exact ⟨congrArg (· + 1) h.mVersion, rfl, rfl, by simp [step]⟩
  | document updated =>
    cases hdiff : Publication.isDiff updated with
    | true => exact holds_diff h hdiff (happlies hdiff)
    | false =>
      have hlatest : latest.after (.document updated) = ⟨.document updated, latest.version + 1, []⟩ := by
        simp [Latest.after, Latest.document, hdiff]
      rw [hlatest]
      exact holds_whole h hdiff
  | relationships relationshipList =>
    exact holds_whole h (Publication.isDiff_createDocumentFromRelationships relationshipList)
  | fetched fetchedPublication noThrow => exact holds_fetched h noThrow happlies

end Steps

section Differences

theorem childElements_adoptItems (diffEl outputEl : Element) :
    (((diffEl.childElements "item").map Node.element).foldl Tag.adoptAsLastChild outputEl).childElements "item" =
      outputEl.childElements "item" ++ diffEl.childElements "item" := by
  have hitems : elementsNamed "item" ((diffEl.childElements "item").map fun e => .element e) = diffEl.childElements "item" :=
    (elementsNamed_map "item" fun e he => name_of_mem_elementsNamed he).trans (List.map_id' _)
  rw [foldl_adoptAsLastChild]
  exact (elementsNamed_append "item" _ _).trans (congrArg (outputEl.childElements "item" ++ ·) hitems)

/-- Differences that can be joined are in a row, and their items follow one another. -/
theorem joinDiffs_some {diffs : List (Nat × Document)} {currentVersion : Nat} {diffOutputEl result : Option Element}
    (h : Publication.joinDiffs diffs currentVersion diffOutputEl = some result) :
    diffs.map Prod.fst = List.range' currentVersion diffs.length ∧
    result.elim [] (·.childElements "item") =
      diffOutputEl.elim [] (·.childElements "item") ++ diffs.flatMap fun entry => itemsOf entry.2 := by
  induction diffs generalizing currentVersion diffOutputEl with
  | nil =>
    simp only [Publication.joinDiffs, Option.some.injEq] at h
    simp [h]
  | cons entry diffs ih =>
    obtain ⟨versionNumber, doc⟩ := entry
    simp only [Publication.joinDiffs] at h
    split at h
    · cases h
    rename_i hversion
    cases hdiff : (elementsNamed "diff" doc).head? with
    | none => simp [hdiff] at h
    | some diffEl =>
      simp only [hdiff] at h
      obtain ⟨hversions, hitems⟩ := ih h
      constructor
      · simp only [List.map_cons, List.length_cons, List.range'_succ, hversions]
        rw [not_not.mp hversion]
      · rw [hitems]
        cases diffOutputEl with
        | none => simp [itemsOf, hdiff]
        | some outputEl => simp [itemsOf, hdiff, childElements_adoptItems]

variable {p : Publication} {latest : Latest} {convertToBase64 : List UInt8 → String}

variable {fromVersion toVersion fromVersion' : Nat} {node : Option Node}

theorem served_between {nodes : Document} (h : Holds p latest) (hcontent : latest.content = .document nodes)
    (hdiffs : p.getDiffsBetween ((Publication.firstChildElement nodes).map .element, 0) fromVersion toVersion = .ok (node, fromVersion')) :
    Served convertToBase64 latest fromVersion' node := by
  have hwhole : Served convertToBase64 latest 0 ((Publication.firstChildElement nodes).map .element) := .whole hcontent
  simp only [Publication.getDiffsBetween] at hdiffs
  split at hdiffs
  · split at hdiffs
    · simp only [Except.ok.injEq, Prod.mk.injEq] at hdiffs
      rw [← hdiffs.1, ← hdiffs.2]
      exact hwhole
    · cases hdiffs
    next diffOutputEl hjoin =>
      obtain ⟨hversions, hitems⟩ := joinDiffs_some hjoin
      simp only [Except.ok.injEq, Prod.mk.injEq] at hdiffs
      rw [← hdiffs.1, ← hdiffs.2]
      refine .differences hcontent (fun entry hentry => h.mDiffDocuments entry ?_) hversions (by simpa using hitems)
      exact List.mem_of_mem_filter (List.mem_of_mem_filter hentry)
  · split at hdiffs
    · cases hdiffs
    · split at hdiffs
      · simp only [Except.ok.injEq, Prod.mk.injEq] at hdiffs
        rw [← hdiffs.1, ← hdiffs.2]
        exact hwhole
      · cases hdiffs

/-- What is returned shows the latest content. -/
theorem served_getDiffs (h : Holds p latest)
    (hdiffs : p.getDiffs convertToBase64 fromVersion toVersion = .ok (node, fromVersion')) :
    Served convertToBase64 latest fromVersion' node := by
  have hdata := h.mData
  have hdocument := h.mDocument
  cases hcontent : latest.content with
  | data bytes =>
    rw [hcontent] at hdata hdocument
    simp only [Publication.getDiffs, hdocument, hdata, Content.document?, Content.data?, Except.ok.injEq,
      Prod.mk.injEq] at hdiffs
    rw [← hdiffs.1]
    exact .data fromVersion' hcontent
  | document nodes =>
    rw [hcontent] at hdocument
    have hwhole : Served convertToBase64 latest 0 ((Publication.firstChildElement nodes).map .element) := .whole hcontent
    simp only [Publication.getDiffs, hdocument, Content.document?] at hdiffs
    generalize (if toVersion = 0 ∨ p.mVersion ≤ toVersion then p.mVersion else toVersion) = lastVersion at hdiffs
    by_cases hfirst : fromVersion = 0
    · simp only [hfirst, if_true, Except.ok.injEq, Prod.mk.injEq] at hdiffs
      rw [← hdiffs.1, ← hdiffs.2]
      exact hwhole
    rw [if_neg hfirst] at hdiffs
    by_cases hkept : p.mDiffDocuments.contains fromVersion ∧ p.mDiffDocuments.contains lastVersion
    · rw [if_pos hkept] at hdiffs
      exact served_between h hcontent hdiffs
    · simp only [if_neg hkept, Except.ok.injEq, Prod.mk.injEq] at hdiffs
      rw [← hdiffs.1, ← hdiffs.2]
      exact hwhole

end Differences

section Runs

variable {convertFromBase64 : String → List UInt8} {p : Publication} {latest : Latest}

theorem holds_created (h : Created convertFromBase64 p latest) : Holds p latest := by
  cases h with
  | data metaData bytes => exact ⟨rfl, rfl, rfl, by simp [Publication.createData]⟩
  | document metaData document => exact ⟨rfl, rfl, rfl, by simp [Publication.createDocument]⟩
  | relationships metaData relationshipsDocument =>
    exact ⟨rfl, rfl, rfl, by simp [Publication.createRelationships, Publication.createDocument]⟩
  | binary metaData dataEl => exact ⟨rfl, rfl, rfl, by simp [Publication.createFetched]⟩
  | json metaData dataEl => exact ⟨rfl, rfl, rfl, by simp [Publication.createFetched]⟩

theorem holds_run (updates : List Update) (h : Holds p latest) (hmeets : Runs.Meets step Applies p updates) :
    Holds (Runs.run step p updates) (updates.foldl Latest.after latest) := by
  induction updates generalizing p latest with
  | nil => exact h
  | cons update updates ih => exact ih (holds_step update h hmeets.1) hmeets.2

/-- One representation is held, the latest, and it is what is read. -/
structure ServesLatest (convertToBase64 : List UInt8 → String) (p : Publication) (latest : Latest) : Prop where
  one : p.mData.isSome = !p.mDocument.isSome
  mVersion : p.mVersion = latest.version
  getRawData : p.getRawData = latest.content.data?
  getJSON : p.getJSON = latest.content.document?
  getDiffs : ∀ fromVersion toVersion node fromVersion',
    p.getDiffs convertToBase64 fromVersion toVersion = .ok (node, fromVersion') →
      Served convertToBase64 latest fromVersion' node

theorem Holds.servesLatest (h : Holds p latest) (convertToBase64 : List UInt8 → String) :
    ServesLatest convertToBase64 p latest where
  one := by
    rw [h.mData, h.mDocument]
    cases latest.content with
    | data bytes => rfl
    | document nodes => rfl
  mVersion := h.mVersion
  getRawData := h.mData
  getJSON := h.mDocument
  getDiffs _ _ _ _ hdiffs := served_getDiffs h hdiffs

/-- However it was created, a publication serves the content of its last update, as long as each difference applies to
the document there is and no document is fetched over binary data. -/
theorem latest_served (convertToBase64 : List UInt8 → String) (hcreated : Created convertFromBase64 p latest)
    (updates : List Update) (hmeets : Runs.Meets step Applies p updates) :
    ServesLatest convertToBase64 (Runs.run step p updates) (updates.foldl Latest.after latest) :=
  (holds_run updates (holds_created hcreated) hmeets).servesLatest convertToBase64

def binaryMetaData : PublicationMetaData := ⟨1, 0, 5, "", "name", "application/octet-stream", [], "", 0⟩

/-- Binary data is replaced by a document, the document is changed, and fetched as binary data again. -/
theorem latest_served_sample :
    ServesLatest (fun _ => "") (Runs.run step (.createData binaryMetaData [1])
      [.document [.element (Tag.create "b")], .document Publication.missingDiff,
        .fetched (.createData binaryMetaData [2]) false]) ⟨.data [2], 1, []⟩ :=
  @latest_served (fun _ => []) _ _ (fun _ => "") (.data binaryMetaData [1])
    [.document [.element (Tag.create "b")], .document Publication.missingDiff,
      .fetched (.createData binaryMetaData [2]) false]
    ⟨fun h => absurd h (by decide), fun _ => ⟨[], rfl⟩, fun h => absurd h (by decide), trivial⟩

/-- Binary data stays beside a document that is fetched, and is still read; a difference given to it leaves nothing. -/
theorem fetched_over_data :
    (step (.createData binaryMetaData [1]) (.fetched (Publication.createDocument binaryMetaData []) false)).getRawData =
        some [1] ∧
      (step (.createData binaryMetaData [1]) (.fetched (Publication.createDocument binaryMetaData []) false)).getJSON =
        some [] ∧
    (step (.createData binaryMetaData [1]) (.document Publication.missingDiff)).getRawData = none ∧
      (step (.createData binaryMetaData [1]) (.document Publication.missingDiff)).getJSON = none :=
  ⟨rfl, rfl, rfl, rfl⟩

end Runs

end OpenPeer.Publishing
