import OpenPeer.Maps
import OpenPeer.PublicationContent
import OpenPeer.PublicationMetaData

/-!
# Who the relationships of a publication resolve to

The relationships of a publication name permission documents in the order of their names, and
each says something about contacts of its document. What the last of them that says something
about a peer says is what holds of it.
-/
namespace OpenPeer.Relationships

open Std Xml

section LastWord

variable {σ ε : Type} {mem : σ → Prop} {step : σ → ε → σ} {word : ε → Option Bool}

theorem mem_foldl (hstep : ∀ s e, mem (step s e) ↔ word e = some true ∨ (word e = none ∧ mem s)) (s : σ)
    (es : List ε) :
    mem (es.foldl step s) ↔ (es.filterMap word).getLast? = some true ∨ (es.filterMap word = [] ∧ mem s) := by
  induction es generalizing s with
  | nil => simp
  | cons e es ih =>
    rw [List.foldl_cons, ih, hstep]
    cases hword : word e with
    | none => simp [List.filterMap_cons_none hword]
    | some granted =>
      rw [List.filterMap_cons_some hword]
      cases hrest : es.filterMap word with
      | nil => simp
      | cons granted' words => simp [List.getLast?_cons_cons]

end LastWord

/-- The contacts of a publication, which has none unless its document is a list of contacts. -/
def getAsContactList (p : Publishing.Publication) : List String :=
  match p.mDocument with
  | none => []
  | some document =>
    match (elementsNamed "contacts" document).head? with
    | none => []
    | some contactsEl => ((contactsEl.childElements "contact").map Tag.getText).filter (· ≠ "")

/-- From a peer's URI to itself. -/
abbrev PeerURIMap := ExtTreeMap String String

abbrev CachedPublicationPermissionMap := ExtTreeMap String Publishing.Publication

def addContact (contacts : PeerURIMap) (peerURI : String) : PeerURIMap := contacts.insert peerURI peerURI

def removeContact (contacts : PeerURIMap) (peerURI : String) : PeerURIMap :=
  if contacts.contains peerURI then contacts.erase peerURI else contacts

/-- Nobody is added or removed who is no contact of the document. -/
def resolveDocument (docContacts : List String) (permissionPair : Permissions × List String) (contacts : PeerURIMap) :
    PeerURIMap :=
  let diffContacts := permissionPair.2
  match permissionPair.1 with
  | .all => docContacts.foldl addContact contacts
  | .none => docContacts.foldl removeContact contacts
  | .add | .some =>
    diffContacts.foldl (fun contacts peerURI => if peerURI ∈ docContacts then addContact contacts peerURI else contacts)
      contacts
  | .remove =>
    diffContacts.foldl
      (fun contacts peerURI => if peerURI ∈ docContacts then removeContact contacts peerURI else contacts) contacts

section Resolving

variable (mCachedPermissionDocuments : CachedPublicationPermissionMap)

def resolveEntry (contacts : PeerURIMap) (entry : String × Permissions × List String) : PeerURIMap :=
  match mCachedPermissionDocuments[entry.1]? with
  | none => contacts
  | some relationshipsPublication => resolveDocument (getAsContactList relationshipsPublication) entry.2 contacts

def resolveRelationships (publishToRelationships : PublishToRelationshipsMap) (outContacts : List String) :
    List String :=
  let contacts := publishToRelationships.toList.foldl (resolveEntry mCachedPermissionDocuments) ∅
  outContacts ++ contacts.keys

/-- The publication is published to the subscriber, and the subscription is to who made the publication. -/
def canSubscribeToPublisher (publicationCreatorLocation : Option Location)
    (publishToRelationships : PublishToRelationshipsMap) (subscriberLocation : Option Location)
    (subscribeToRelationships : SubscribeToRelationshipsMap) : Bool :=
  match publicationCreatorLocation.bind Location.getPeer, subscriberLocation.bind Location.getPeer with
  | some publicationPeer, some subscriberPeer =>
    subscriberPeer ∈ resolveRelationships mCachedPermissionDocuments publishToRelationships [] &&
      publicationPeer ∈ resolveRelationships mCachedPermissionDocuments subscribeToRelationships []
  | _, _ => false

/-- What permissions for a document say about a peer: that it is granted, that it is not, or nothing. -/
def documentWord (docContacts : List String) (permissionPair : Permissions × List String) (peerURI : String) :
    Option Bool :=
  if peerURI ∈ docContacts then
    match permissionPair.1 with
    | .all => some true
    | .none => some false
    | .add | .some => if peerURI ∈ permissionPair.2 then some true else none
    | .remove => if peerURI ∈ permissionPair.2 then some false else none
  else none

def word (peerURI : String) (entry : String × Permissions × List String) : Option Bool :=
  match mCachedPermissionDocuments[entry.1]? with
  | none => none
  | some relationshipsPublication => documentWord (getAsContactList relationshipsPublication) entry.2 peerURI

/-- The words of the entries about a peer, in the order of the names. -/
def words (publishToRelationships : PublishToRelationshipsMap) (peerURI : String) : List Bool :=
  publishToRelationships.toList.filterMap (word mCachedPermissionDocuments peerURI)

end Resolving

section Folding

theorem mem_addContact (contacts : PeerURIMap) (other peerURI : String) :
    peerURI ∈ addContact contacts other ↔ if other = peerURI then true = true else peerURI ∈ contacts := by
  by_cases hsame : other = peerURI <;> simp [addContact, hsame]

theorem mem_removeContact (contacts : PeerURIMap) (other peerURI : String) :
    peerURI ∈ removeContact contacts other ↔ if other = peerURI then false = true else peerURI ∈ contacts := by
  by_cases hmem : contacts.contains other <;> by_cases hsame : other = peerURI <;>
    simp_all [removeContact]

variable {change : PeerURIMap → String → PeerURIMap} {granted : Bool}

theorem mem_foldl_change
    (hchange : ∀ contacts other peerURI,
      peerURI ∈ change contacts other ↔ if other = peerURI then granted = true else peerURI ∈ contacts)
    (allowed : String → Prop) [DecidablePred allowed] (listed : List String) (contacts : PeerURIMap)
    (peerURI : String) :
    peerURI ∈ listed.foldl (fun contacts other => if allowed other then change contacts other else contacts) contacts ↔
      if peerURI ∈ listed ∧ allowed peerURI then granted = true else peerURI ∈ contacts := by
  induction listed generalizing contacts with
  | nil => simp
  | cons other listed ih =>
    rw [List.foldl_cons, ih]
    by_cases hsame : other = peerURI
    · subst hsame
      by_cases hallowed : allowed other <;> by_cases hmem : other ∈ listed <;> simp [hallowed, hmem, hchange]
    · by_cases hallowed : allowed other <;> simp [hallowed, hchange, hsame, Ne.symm hsame]

end Folding

/-- Permissions decide about the peers that they say something about, and about no others. -/
theorem mem_resolveDocument (docContacts : List String) (permissionPair : Permissions × List String)
    (contacts : PeerURIMap) (peerURI : String) :
    peerURI ∈ resolveDocument docContacts permissionPair contacts ↔
      documentWord docContacts permissionPair peerURI = some true ∨
        (documentWord docContacts permissionPair peerURI = none ∧ peerURI ∈ contacts) := by
  obtain ⟨permission, listed⟩ := permissionPair
  have hall := mem_foldl_change mem_addContact (fun _ => True) docContacts contacts peerURI
  have hnone := mem_foldl_change mem_removeContact (fun _ => True) docContacts contacts peerURI
  have hadd := mem_foldl_change mem_addContact (· ∈ docContacts) listed contacts peerURI
  have hremove := mem_foldl_change mem_removeContact (· ∈ docContacts) listed contacts peerURI
  simp only [if_true, and_true] at hall hnone
  by_cases hdoc : peerURI ∈ docContacts
  · cases permission with
    | all => simp [resolveDocument, documentWord, hall, hdoc]
    | none => simp [resolveDocument, documentWord, hnone, hdoc]
    | some => by_cases hlisted : peerURI ∈ listed <;> simp [resolveDocument, documentWord, hadd, hdoc, hlisted]
    | add => by_cases hlisted : peerURI ∈ listed <;> simp [resolveDocument, documentWord, hadd, hdoc, hlisted]
    | remove => by_cases hlisted : peerURI ∈ listed <;> simp [resolveDocument, documentWord, hremove, hdoc, hlisted]
  · cases permission <;> simp [resolveDocument, documentWord, hall, hnone, hadd, hremove, hdoc]

variable {mCachedPermissionDocuments : CachedPublicationPermissionMap}

theorem mem_resolveEntry (contacts : PeerURIMap) (entry : String × Permissions × List String) (peerURI : String) :
    peerURI ∈ resolveEntry mCachedPermissionDocuments contacts entry ↔
      word mCachedPermissionDocuments peerURI entry = some true ∨
        (word mCachedPermissionDocuments peerURI entry = none ∧ peerURI ∈ contacts) := by
  unfold resolveEntry word
  cases mCachedPermissionDocuments[entry.1]? with
  | none => simp
  | some relationshipsPublication => exact mem_resolveDocument _ _ contacts peerURI

theorem word_of_document {peerURI : String} {entry : String × Permissions × List String} {granted : Bool}
    (h : word mCachedPermissionDocuments peerURI entry = some granted) :
    ∃ p, mCachedPermissionDocuments[entry.1]? = some p ∧ peerURI ∈ getAsContactList p := by
  unfold word at h
  cases hp : mCachedPermissionDocuments[entry.1]? with
  | none => simp [hp] at h
  | some p =>
    refine ⟨p, rfl, ?_⟩
    by_contra hnot
    simp [hp, documentWord, hnot] at h

/-- What relationships resolve to. -/
structure Resolved (mCachedPermissionDocuments : CachedPublicationPermissionMap)
    (publishToRelationships : PublishToRelationshipsMap) (contacts : List String) : Prop where
  nodup : contacts.Nodup
  /-- A peer is one of them when the last word about it grants. -/
  lastWord : ∀ peerURI, peerURI ∈ contacts ↔
    (words mCachedPermissionDocuments publishToRelationships peerURI).getLast? = some true
  /-- No peer is one of them that is in no permission document. -/
  inDocument : ∀ peerURI ∈ contacts, ∃ name p, name ∈ publishToRelationships ∧
    mCachedPermissionDocuments[name]? = some p ∧ peerURI ∈ getAsContactList p
  /-- An entry whose document is missing changes nothing. -/
  missing : ∀ name, name ∉ mCachedPermissionDocuments →
    resolveRelationships mCachedPermissionDocuments (publishToRelationships.erase name) [] = contacts

theorem resolve_erase {name : String} (hmissing : name ∉ mCachedPermissionDocuments)
    (publishToRelationships : PublishToRelationshipsMap) :
    (publishToRelationships.erase name).toList.foldl (resolveEntry mCachedPermissionDocuments) ∅ =
      publishToRelationships.toList.foldl (resolveEntry mCachedPermissionDocuments) ∅ := by
  rw [Maps.toList_erase, List.foldl_filter]
  congr 1
  funext contacts entry
  by_cases hname : entry.1 = name
  · have hnone : mCachedPermissionDocuments[entry.1]? = none := by simpa [hname] using hmissing
    simp [hname, resolveEntry, hname ▸ hnone]
  · simp [hname]

/-- Relationships resolve to those about whom the last word grants, and they are added to what there was. -/
theorem resolveRelationships_lastWord (mCachedPermissionDocuments : CachedPublicationPermissionMap)
    (publishToRelationships : PublishToRelationshipsMap) (outContacts : List String) :
    ∃ contacts, resolveRelationships mCachedPermissionDocuments publishToRelationships outContacts =
      outContacts ++ contacts ∧ Resolved mCachedPermissionDocuments publishToRelationships contacts := by
  refine ⟨_, rfl, ?_⟩
  have hword : ∀ peerURI,
      peerURI ∈ (publishToRelationships.toList.foldl (resolveEntry mCachedPermissionDocuments) ∅).keys ↔
        (words mCachedPermissionDocuments publishToRelationships peerURI).getLast? = some true := by
    intro peerURI
    rw [ExtTreeMap.mem_keys]
    have hfold := @mem_foldl _ _ (peerURI ∈ ·) (resolveEntry mCachedPermissionDocuments)
      (word mCachedPermissionDocuments peerURI) (fun contacts entry => mem_resolveEntry contacts entry peerURI) ∅
      publishToRelationships.toList
    simpa [words] using hfold
  constructor
  · exact ExtTreeMap.nodup_keys
  · exact hword
  · intro peerURI hmem
    have hlast := List.mem_of_getLast? ((hword peerURI).mp hmem)
    obtain ⟨entry, hentry, hgranted⟩ := List.mem_filterMap.mp hlast
    obtain ⟨p, hp, hcontact⟩ := word_of_document hgranted
    refine ⟨entry.1, p, ?_, hp, hcontact⟩
    have hvalue := ExtTreeMap.mem_toList_iff_getElem?_eq_some.mp hentry
    exact ExtTreeMap.mem_iff_isSome_getElem?.mpr (hvalue ▸ rfl)
  · intro name hmissing
    rw [resolveRelationships, resolve_erase hmissing]
    rfl

end OpenPeer.Relationships
