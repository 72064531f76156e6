import Std.Data.ExtTreeMap
import OpenPeer.Location

/-!
# Publication meta data and its relationships

What a repository knows of a publication besides its document, and of a subscription: the
path is the name and the relationships are the lists subscribed to. A peer-subscribe message
carries the name and the relationships only.
-/
namespace OpenPeer

open Std

/-- `IPublicationMetaData::Encodings` -/
inductive Encodings where
  | binary
  | json
  deriving DecidableEq

/-- `IPublicationMetaData::Permissions` -/
inductive Permissions where
  | all
  | none
  | some
  | add
  | remove
  deriving DecidableEq

/-- `PublishToRelationshipsMap`, from the name of a contact list document -/
abbrev PublishToRelationshipsMap := ExtTreeMap String (Permissions × List String)

instance : DecidableEq PublishToRelationshipsMap :=
  inferInstanceAs (DecidableEq (ExtTreeMap String (Permissions × List String)))

abbrev SubscribeToRelationshipsMap := PublishToRelationshipsMap

/-- `mExpires` is null for a publication that does not expire. -/
structure PublicationMetaData where
  mVersion : Nat := 0
  mBaseVersion : Nat := 0
  mLineage : Nat := 0
  mCreatorLocation : Option Location
  mName : String
  mMimeType : String := ""
  mEncoding : Encodings := .json
  mPublishedRelationships : PublishToRelationshipsMap
  mPublishedLocation : Option Location
  mExpires : Option Nat := none
  deriving DecidableEq

/-- A `relationships` element of a message. -/
structure RelationshipsElement where
  name : String
  allow : String
  contacts : List String
  deriving DecidableEq

namespace MessageHelper

def permissionStr : Permissions → String
  | .all => "all"
  | .none => "none"
  | .some => "some"
  | .add => "add"
  | .remove => "remove"

def permission (allowStr : String) : Permissions :=
  if allowStr = "all" then .all
  else if allowStr = "none" then .none
  else if allowStr = "some" then .some
  else if allowStr = "add" then .add
  else if allowStr = "remove" then .remove
  else .all

def createElement (relationships : PublishToRelationshipsMap) : List RelationshipsElement :=
  relationships.toList.map fun entry => ⟨entry.1, permissionStr entry.2.1, entry.2.2⟩

/-- The entry that `fillFrom` makes of a `relationships` element. One without a name has none. -/
def fillEntry (relationshipsEl : RelationshipsElement) : Option (String × Permissions × List String) :=
  if relationshipsEl.name ≠ "" then
    some (relationshipsEl.name, permission relationshipsEl.allow, relationshipsEl.contacts.filter (· ≠ ""))
  else none

def fillRelationships (publishToRelationshipsEl : List RelationshipsElement) : PublishToRelationshipsMap :=
  .ofList (publishToRelationshipsEl.filterMap fillEntry)

theorem permission_permissionStr (p : Permissions) : permission (permissionStr p) = p := by
  cases p <;> rfl

end MessageHelper

/-- What is left of relationships that were written to a message and read again. -/
def transmitted (relationships : PublishToRelationshipsMap) : PublishToRelationshipsMap :=
  MessageHelper.fillRelationships (MessageHelper.createElement relationships)

/-- No list has an empty name and none names an empty contact. -/
def Nameable (relationships : PublishToRelationshipsMap) : Prop :=
  ∀ entry ∈ relationships.toList, entry.1 ≠ "" ∧ "" ∉ entry.2.2

instance (relationships : PublishToRelationshipsMap) : Decidable (Nameable relationships) :=
  inferInstanceAs (Decidable (∀ entry ∈ relationships.toList, entry.1 ≠ "" ∧ "" ∉ entry.2.2))

theorem fillEntry_createElement {relationships : PublishToRelationshipsMap} (h : Nameable relationships) :
    (MessageHelper.createElement relationships).filterMap MessageHelper.fillEntry = relationships.toList := by
  have hentries : ∀ entries : List (String × Permissions × List String),
      (∀ entry ∈ entries, entry.1 ≠ "" ∧ "" ∉ entry.2.2) →
      (entries.map fun entry => (⟨entry.1, MessageHelper.permissionStr entry.2.1, entry.2.2⟩ :
        RelationshipsElement)).filterMap MessageHelper.fillEntry = entries := by
    intro entries hne
    induction entries with
    | nil => rfl
    | cons entry entries ih =>
      obtain ⟨name, p, contacts⟩ := entry
      have hhead := hne _ List.mem_cons_self
      have hkept : contacts.filter (fun contact => decide (contact ≠ "")) = contacts := by
        refine List.filter_eq_self.mpr fun contact hcontact => ?_
        refine decide_eq_true ?_
        rintro rfl
        exact hhead.2 hcontact
      rw [List.map_cons, List.filterMap_cons_some, ih fun e he => hne e (List.mem_cons_of_mem _ he)]
      simp only [MessageHelper.fillEntry, if_pos hhead.1, MessageHelper.permission_permissionStr, hkept]
  exact hentries _ h

theorem transmitted_eq {relationships : PublishToRelationshipsMap} (h : Nameable relationships) :
    transmitted relationships = relationships := by
  rw [transmitted, MessageHelper.fillRelationships, fillEntry_createElement h]
  have hdistinct := relationships.distinct_keys_toList
  refine ExtTreeMap.ext_getElem? fun name => ?_
  cases hname : relationships[name]? with
  | some value =>
    have hmem := ExtTreeMap.mem_toList_iff_getElem?_eq_some.mpr hname
    exact ExtTreeMap.getElem?_ofList_of_mem ReflCmp.compare_self hdistinct hmem
  | none =>
    refine ExtTreeMap.getElem?_ofList_of_contains_eq_false ?_
    have hkey : name ∉ relationships := by simpa using hname
    rw [ExtTreeMap.map_fst_toList_eq_keys]
    simpa using hkey

end OpenPeer
