import OpenPeer.Publication

/-!
# What a publication holds

A publication holds binary data or a document, and is changed by new data, by a document
or a difference, and by a publication that was fetched. The states are those of the
code, with one field for each; what a publication should hold after its updates is told
apart from them.
-/
namespace OpenPeer.Publishing

open Xml Std Diff

structure PublicationMetaData where
  mVersion : Nat := 1
  mBaseVersion : Nat := 0
  mLineage : Nat
  mCreatorLocation : String
  mName : String
  mMimeType : String
  mPublishedRelationships : List (String × List String)
  mPublishedLocation : String
  mExpires : Nat

structure Publication extends PublicationMetaData where
  mData : Option (List UInt8) := none
  mDocument : Option Document := none
  mDiffDocuments : ExtTreeMap Nat Document := ∅

/-- `IPublicationMetaData::Encodings` -/
inductive Encodings where
  | binary | json
  deriving DecidableEq

/-- How a publication is updated from a fetched one. -/
inductive FetchEnding where
  | updated
  /-- the difference is for another version, which is thrown or told -/
  | mismatched (isThrown : Bool)
  | trapped (t : Trap)
  deriving DecidableEq

namespace Publication

section Operations

variable (convertFromBase64 : String → List UInt8) (convertToBase64 : List UInt8 → String)

def createData (metaData : PublicationMetaData) (data : List UInt8) : Publication :=
  { metaData with mVersion := 1, mBaseVersion := 0, mData := some data }

def createDocument (metaData : PublicationMetaData) (documentToBeAdopted : Document) : Publication :=
  { metaData with mVersion := 1, mBaseVersion := 0, mDocument := some documentToBeAdopted }

def createRelationships (metaData : PublicationMetaData) (relationshipsDocument : List String) : Publication :=
  createDocument metaData (createDocumentFromRelationships relationshipsDocument)

/-- A publication of a message. -/
def createFetched (metaData : PublicationMetaData) (dataEl : Element) (encoding : Encodings) : Publication :=
  match encoding with
  | .binary => { metaData with mData := some (convertFromBase64 dataEl.getText) }
  | .json => { metaData with mDocument := some dataEl.children }

def updateData (p : Publication) (data : List UInt8) : Publication :=
  { p with mData := some data, mDiffDocuments := ∅, mDocument := none, mVersion := p.mVersion + 1 }

/-- The document is a difference document. -/
def isDiff (document : Document) : Bool := (elementsNamed "diff" document).head?.isSome

/-- `IDiff::process`, which throws when there is no document. -/
def processOn (originalDocument : Option Document) (diffDocument : Document) : Except Trap (Bool × Document) :=
  match originalDocument with
  | none => .error .thrown
  | some document => Diff.process document diffDocument

/-- Differences that are not in a row are erased. -/
def diffsInRow (p : Publication) : ExtTreeMap Nat Document :=
  if p.mDiffDocuments.contains (p.mVersion - 1) then p.mDiffDocuments else ∅

/-- The publication, also when the update throws on the way. -/
def updateDocument (p : Publication) (updatedDocumentToBeAdopted : Document) : Publication × Option Trap :=
  let p := { p with mVersion := p.mVersion + 1, mData := none }
  if isDiff updatedDocumentToBeAdopted then
    let p := { p with mDiffDocuments := p.diffsInRow }
    match processOn p.mDocument updatedDocumentToBeAdopted with
    | .error t => (p, some t)
    | .ok (_, document) =>
      ({ p with
        mDocument := some document
        mDiffDocuments := p.mDiffDocuments.insert p.mVersion updatedDocumentToBeAdopted }, none)
  else ({ p with mDiffDocuments := ∅, mDocument := some updatedDocumentToBeAdopted }, none)

def updateRelationships (p : Publication) (relationships : List String) : Publication × Option Trap :=
  p.updateDocument (createDocumentFromRelationships relationships)

/-- What is taken over from the fetched publication besides its content. -/
def takeMetaData (p publication : Publication) : Publication :=
  { p with
    mCreatorLocation := publication.mCreatorLocation
    mMimeType := publication.mMimeType
    mVersion := publication.mVersion
    mBaseVersion := 0
    mLineage := publication.mLineage
    mExpires := publication.mExpires
    mPublishedLocation := publication.mPublishedLocation
    mPublishedRelationships := publication.mPublishedRelationships
    mDiffDocuments := ∅ }

def updateFromFetchedPublication (p fetchedPublication : Publication) (noThrowVersionMismatched : Bool) :
    Publication × FetchEnding :=
  match fetchedPublication.mData, fetchedPublication.mDocument with
  | some data, _ => (takeMetaData { p with mData := some data, mDocument := none } fetchedPublication, .updated)
  | none, none => (p, .trapped .nullPointer)
  | none, some document =>
    if isDiff document then
      if fetchedPublication.mBaseVersion ≠ p.mVersion + 1 then (p, .mismatched !noThrowVersionMismatched)
      else
        match processOn p.mDocument document with
        | .error t => (p, .trapped t)
        | .ok (_, processed) => (takeMetaData { p with mDocument := some processed } fetchedPublication, .updated)
    else (takeMetaData { p with mDocument := some document } fetchedPublication, .updated)

def getRawData (p : Publication) : Option (List UInt8) := p.mData

def getJSON (p : Publication) : Option Document := p.mDocument

/-- `getFirstChildElement` of a document -/
def firstChildElement : Document → Option Element
  | [] => none
  | .element e :: _ => some e
  | .text _ :: nodes => firstChildElement nodes

/-- The items of each difference after those of the first one; none where there is a hole between the versions, or a
document that is no difference. -/
def joinDiffs : List (Nat × Document) → Nat → Option Element → Option (Option Element)
  | [], _, diffOutputEl => some diffOutputEl
  | (versionNumber, doc) :: diffs, currentVersion, diffOutputEl =>
    if currentVersion ≠ versionNumber then none
    else
      match (elementsNamed "diff" doc).head? with
      | none => none
      | some diffEl =>
        joinDiffs diffs (currentVersion + 1) (some (match diffOutputEl with
          | none => diffEl
          | some outputEl => ((diffEl.childElements "item").map Node.element).foldl Tag.adoptAsLastChild outputEl))

/-- The differences from one version on. When the other one is before it the loop over them does not
begin, or it runs past the last one. -/
def getDiffsBetween (p : Publication) (whole : Option Node × Nat) (fromVersion toVersion : Nat) :
    Except Trap (Option Node × Nat) :=
  let diffs := p.mDiffDocuments.toList.filter fun entry => fromVersion ≤ entry.1
  if fromVersion ≤ toVersion then
    match joinDiffs (diffs.filter fun entry => entry.1 ≤ toVersion) fromVersion none with
    | none => .ok whole
    | some none => .error .thrown
    | some (some diffOutputEl) => .ok (some (.element diffOutputEl), fromVersion)
  else if p.mDiffDocuments.toList.all fun entry => entry.1 ≤ toVersion ∨ fromVersion ≤ entry.1 then .error .thrown
  else
    match joinDiffs diffs fromVersion none with
    | none => .ok whole
    | some _ => .error .nullPointer

/-- The node that is returned, and `ioFromVersion`. -/
def getDiffs (p : Publication) (ioFromVersion toVersion : Nat) : Except Trap (Option Node × Nat) :=
  let toVersion := if toVersion = 0 ∨ p.mVersion ≤ toVersion then p.mVersion else toVersion
  match p.mDocument with
  | none => .ok (p.mData.map fun data => .text (convertToBase64 data), ioFromVersion)
  | some document =>
    let whole := ((firstChildElement document).map .element, 0)
    if ioFromVersion = 0 then .ok whole
    else if p.mDiffDocuments.contains ioFromVersion ∧ p.mDiffDocuments.contains toVersion then
      p.getDiffsBetween whole ioFromVersion toVersion
    else .ok whole

end Operations

section Updates

variable (p : Publication)

@[simp] theorem updateData_mVersion (data : List UInt8) :
    (p.updateData data).mVersion = p.mVersion + 1 := rfl

@[simp] theorem updateData_mData (data : List UInt8) : (p.updateData data).mData = some data := rfl

@[simp] theorem updateData_mDocument (data : List UInt8) : (p.updateData data).mDocument = none := rfl

@[simp] theorem updateData_mDiffDocuments (data : List UInt8) :
    (p.updateData data).mDiffDocuments = ∅ := rfl

variable {document : Document}

theorem updateDocument_whole (h : isDiff document = false) (p : Publication) :
    p.updateDocument document =
      ({ p with mVersion := p.mVersion + 1, mData := none, mDiffDocuments := ∅, mDocument := some document }, none) := by
  simp [updateDocument, h]

/-- The publication with the next version, and the differences it keeps. -/
def advanced (p : Publication) : Publication :=
  { p with
    mVersion := p.mVersion + 1
    mData := none
    mDiffDocuments := diffsInRow { p with mVersion := p.mVersion + 1, mData := none } }

variable {diff : Document}

theorem updateDocument_error {p : Publication} {t : Trap} (h : isDiff diff = true)
    (hprocess : processOn p.mDocument diff = .error t) : p.updateDocument diff = (p.advanced, some t) := by
  simp [updateDocument, advanced, h, hprocess]

theorem updateDocument_processed {p : Publication} {success : Bool} (h : isDiff diff = true)
    (hprocess : processOn p.mDocument diff = .ok (success, document)) :
    p.updateDocument diff =
      ({ p.advanced with
          mDocument := some document
          mDiffDocuments := p.advanced.mDiffDocuments.insert (p.mVersion + 1) diff }, none) := by
  simp [updateDocument, advanced, h, hprocess]

@[simp] theorem updateDocument_mVersion (document : Document) :
    (p.updateDocument document).1.mVersion = p.mVersion + 1 := by
  cases hdiff : isDiff document with
  | false => rw [updateDocument_whole hdiff]
  | true =>
    cases hprocess : processOn p.mDocument document with
    | error t => rw [updateDocument_error hdiff hprocess, advanced]
    | ok result => rw [updateDocument_processed hdiff hprocess, advanced]

end Updates

section Documents

/-- A publication with a document, and no data. -/
def ofDocument (metaData : PublicationMetaData) (q : OpenPeer.Publication) : Publication :=
  { metaData with
    mName := q.mName
    mVersion := q.mVersion
    mDocument := some q.mDocument
    mDiffDocuments := q.mDiffDocuments }

@[simp] theorem isDiff_createDocumentFromRelationships (relationships : List String) :
    isDiff (createDocumentFromRelationships relationships) = false := by
  simp [isDiff, createDocumentFromRelationships]

end Documents

end Publication

end OpenPeer.Publishing
