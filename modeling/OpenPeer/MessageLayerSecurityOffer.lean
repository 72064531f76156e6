import OpenPeer.MessageLayerSecuritySession

/-!
# An offer of keys

The bundle an offer is made into, with what its signer adds to it, and what is found in
it again: its children by their names, and under every index the key that was drawn.
-/
namespace OpenPeer

open Bytes Xml

section Elements

@[simp] theorem parentOf_name (name : String) (children : List Element) : (parentOf name children).name = name := rfl

theorem parentOf_childElements (name : String) (children : List Element) (childName : String) :
    (parentOf name children).childElements childName = children.filter (·.name = childName) := by
  unfold Tag.childElements parentOf
  induction children with
  | nil => rfl
  | cons child children ih =>
    by_cases h : child.name = childName
    · simp [h, ih]
    · simp [h, ih]

@[simp] theorem parentOf_findFirst_cons (name : String) (child : Element) (children : List Element) (childName : String) :
    (parentOf name (child :: children)).findFirstChildElement childName =
      if child.name = childName then some child else (parentOf name children).findFirstChildElement childName := by
  unfold Tag.findFirstChildElement
  by_cases h : child.name = childName
  · simp [parentOf_childElements, h]
  · simp [parentOf_childElements, h]

end Elements

namespace KeyMap

theorem find_cons (j : Nat) (key : KeyInfo) (keys : KeyMap) (i : Nat) :
    KeyMap.find ((j, key) :: keys) i = if i = j then some key else keys.find i := by
  by_cases h : i = j
  · simp [find, h]
  · have hne : (i == j) = false := by simp [h]
    simp [find, List.lookup_cons, hne, h]

theorem find_map (indexes : List Nat) (key : Nat → KeyInfo) (i : Nat) :
    KeyMap.find (indexes.map fun index => (index, key index)) i = if i ∈ indexes then some (key i) else none := by
  induction indexes with
  | nil => rfl
  | cons index indexes ih =>
    rw [List.map_cons, KeyMap.find_cons, ih]
    by_cases h : i = index
    · simp [h]
    · simp [h]

end KeyMap

section Offer

variable {Pri Pub : Type} (lib : Libraries Pri Pub)

theorem offeredKeys_find (offer : DrawnOffer) (index : Nat) : (offeredKeys lib offer).find index =
    if index ∈ sendIndexes then some ((offer.key index).keyInfo lib) else none :=
  KeyMap.find_map sendIndexes (fun index => (offer.key index).keyInfo lib) index

theorem offeredKeys_indexes (offer : DrawnOffer) : (offeredKeys lib offer).map Prod.fst = sendIndexes := by
  simp [offeredKeys, Function.comp_def]

@[simp] theorem encodingElement_name (nonce : String) (encoding : SendEncoding Pub) :
    (encodingElement lib nonce encoding).name = "encoding" := by
  cases encoding <;> rfl

@[simp] theorem keyElement_name (nonce : String) (encoding : SendEncoding Pub) (index : Nat) (drawn : DrawnKey) :
    (keyElement lib nonce encoding index drawn).name = "key" := rfl

@[simp] theorem inputsElement_name (nonce : String) (encoding : SendEncoding Pub) (drawn : DrawnKey) :
    (inputsElement lib nonce encoding drawn).name = "inputs" := rfl

variable (contextID : String) (encoding : SendEncoding Pub) (now : Time) (offer : DrawnOffer)

/-- What is in a keying element. -/
structure ReadsKeying (keyingEl : Element) : Prop where
  sequence : checkedText keyingEl "sequence" = some "0"
  nonce : checkedText keyingEl "nonce" = some offer.nonce
  encodingEl : keyingEl.findFirstChildElement "encoding" = some (encodingElement lib offer.nonce encoding)
  keys : (keyingEl.findFirstChildElement "keys").map (·.childElements "key") =
    some (sendIndexes.map fun index => keyElement lib offer.nonce encoding index (offer.key index))

theorem keyingElement_reads : ReadsKeying lib encoding offer (keyingElement lib contextID encoding now offer) := by
  constructor
  · simp [keyingElement, checkedText]
  · simp [keyingElement, checkedText]
  · simp [keyingElement]
  · simp [keyingElement, parentOf_childElements, List.filter_map, Function.comp_def]

end Offer

/-- An offer as it stands in a bundle: what it was made of, the attributes of the keying element and
what was put behind that. -/
structure OfferedBundle (Pub : Type) where
  contextID : String
  encoding : SendEncoding Pub
  now : Time
  offer : DrawnOffer
  attributes : List (String × String)
  siblings : List Node

namespace OfferedBundle

variable {Pri Pub : Type} (lib : Libraries Pri Pub) (b : OfferedBundle Pub)

def keyingEl : Cursor := ⟨[], { keyingElement lib b.contextID b.encoding b.now b.offer with attributes := b.attributes }, b.siblings⟩

def doc : Document := [.element ⟨"keyingBundle", [], (b.keyingEl lib).nodes⟩]

/-- A signature of the keying element is found. -/
def Signed : Prop := ∃ pair, Helper.getSignatureInfo (b.keyingEl lib) = some (some pair)

/-- The bundle as it is written. -/
def buffer : List UInt8 := toBE 4 0 ++ lib.writeDocument (b.doc lib)

/-- The key offered under an index. -/
def key (index : Nat) : KeyInfo := (b.offer.key index).keyInfo lib

theorem cursorOfKeying_doc : cursorOfKeying (b.doc lib) = some (b.keyingEl lib) := rfl

theorem editAt_doc (id : String) (signatureEl : Element) :
    editAt (MLSChannel.signed id signatureEl) [("keyingBundle", 0), ("keying", 0)] (b.doc lib) =
      some ({ b with
        attributes := putAttribute "id" id b.attributes
        siblings := .element signatureEl :: b.siblings : OfferedBundle Pub }.doc lib) := rfl

theorem keyingEl_reads : ReadsKeying lib b.encoding b.offer (b.keyingEl lib).element := by
  have h := keyingElement_reads lib b.contextID b.encoding b.now b.offer
  exact { h with }

end OfferedBundle

/-- The keys in a bundle. -/
def keysOf (doc : Document) : List Element :=
  (((cursorOfKeying doc).bind fun keyingEl => keyingEl.element.findFirstChildElement "keys").map (·.childElements "key")).getD []

theorem keysOf_doc {Pri Pub : Type} (lib : Libraries Pri Pub) (b : OfferedBundle Pub) : keysOf (b.doc lib) =
    sendIndexes.map fun index => keyElement lib b.offer.nonce b.encoding index (b.offer.key index) := by
  simp only [keysOf, OfferedBundle.cursorOfKeying_doc, Option.bind_some, (b.keyingEl_reads lib).keys, Option.getD_some]

end OpenPeer
