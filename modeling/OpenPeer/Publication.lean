import Std.Data.ExtTreeMap
import OpenPeer.Diff
import OpenPeer.MessageHelper

/-!
# Publications with a document

A publication counts its versions; an update is a new document, or a difference
document that is processed on the one there is and kept under its version.
-/
namespace OpenPeer

open Xml Std

structure Publication where
  mName : String
  mVersion : Nat
  mDocument : Document
  mDiffDocuments : ExtTreeMap Nat Document

def Publication.create (name : String) (documentToBeAdopted : Document) : Publication :=
  ⟨name, 1, documentToBeAdopted, ∅⟩

/-- Whether the differences could be processed is not looked at. -/
def Publication.update (p : Publication) (updatedDocumentToBeAdopted : Document) : Except Trap Publication :=
  let mVersion := p.mVersion + 1
  match (elementsNamed "diff" updatedDocumentToBeAdopted).head? with
  | none => .ok { p with mVersion, mDocument := updatedDocumentToBeAdopted, mDiffDocuments := ∅ }
  | some _ =>
    let mDiffDocuments := if p.mDiffDocuments.contains (mVersion - 1) then p.mDiffDocuments else ∅
    match Diff.process p.mDocument updatedDocumentToBeAdopted with
    | .error t => .error t
    | .ok (_, mDocument) =>
      .ok { p with mVersion, mDocument, mDiffDocuments := mDiffDocuments.insert mVersion updatedDocumentToBeAdopted }

section Relationships

def createDocumentFromRelationships (relationships : List String) : Document :=
  [.element ⟨"contacts", [], relationships.map fun contact => .element (createElementWithText "contact" contact)⟩]

def Publication.updateRelationships (p : Publication) (relationships : List String) : Except Trap Publication :=
  p.update (createDocumentFromRelationships relationships)

def Publication.getAsContactList (p : Publication) : List String :=
  match (elementsNamed "contacts" p.mDocument).head? with
  | none => []
  | some contactsEl => ((contactsEl.childElements "contact").map Tag.getText).filter (· ≠ "")

theorem contactList_createDocumentFromRelationships {p : Publication} {relationships : List String}
    (h : p.mDocument = createDocumentFromRelationships relationships) :
    p.getAsContactList = relationships.filter (· ≠ "") := by
  have hcontacts : elementsNamed "contact" (relationships.map fun contact => .element (createElementWithText "contact" contact)) =
      relationships.map (createElementWithText "contact") :=
    elementsNamed_map "contact" fun contact _ => createElementWithText_name "contact" contact
  have htexts : (relationships.map (createElementWithText "contact")).map Tag.getText = relationships := by
    rw [List.map_map]
    exact (List.map_congr_left fun contact _ => createElementWithText_getText "contact" contact).trans (List.map_id' _)
  simp only [Publication.getAsContactList, h, createDocumentFromRelationships, elementsNamed_element, if_true,
    elementsNamed_nil, List.head?_cons, Tag.childElements, hcontacts, htexts]

theorem updateRelationships_document (p : Publication) (relationships : List String) :
    ∃ p', p.updateRelationships relationships = .ok p' ∧
      p'.mDocument = createDocumentFromRelationships relationships ∧ p'.mName = p.mName :=
  ⟨_, rfl, rfl, rfl⟩

end Relationships

end OpenPeer
