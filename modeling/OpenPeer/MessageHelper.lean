import OpenPeer.Xml
import OpenPeer.Numeric

/-!
# Small elements

Elements with an id, a text or a version, and times as text; each is read back as it
was written.
-/
namespace OpenPeer

open Xml

section Helpers

def createElementWithID (elName idValue : String) : Element :=
  if idValue = "" then Tag.create elName else (Tag.create elName).setAttribute "id" idValue

/-- The text, JSON encoded text and number forms alike: text is encoded on the way out
and decoded on the way in. -/
def createElementWithText (elName textVal : String) : Element :=
  if textVal = "" then Tag.create elName else (Tag.create elName).adoptAsFirstChild (.text textVal)

/-- `createElementWithNumber` with an id -/
def createElementWithIDAndText (elName id text : String) : Element :=
  let el := createElementWithText elName text
  if id = "" then el else el.setAttribute "id" id

/-- The number of values of `UINT`, which is `DWORD` too. -/
def uintBound : Nat := 2 ^ 32

/-- A version after it is counted up. -/
def increment (version : Nat) : Nat := (version + 1) % uintBound

/-- None when `ValueOutOfRange` is thrown. -/
def getVersion (el : Element) : Option Nat :=
  match el.findAttribute "version" with
  | none => some 0
  | some version => Numeric.unsigned uintBound version

/-- `version` is not written when it is 0. -/
def withVersion (version : Nat) (el : Element) : Element :=
  if version = 0 then el else el.setAttribute "version" (toString version)

def trim (s : String) : String :=
  String.ofList ((s.toList.dropWhile Char.isWhitespace).reverse.dropWhile Char.isWhitespace).reverse

end Helpers

section Times

/-- `zsLib::Time`; `Time()` is no date. -/
inductive Time where
  | notADateTime
  | at (microseconds : Int)
  deriving DecidableEq

/-- `boost::date_time::max_date_time` -/
def maxDateTime : Time := .at 253402300799999999

/-- Whole seconds since the epoch. -/
def timeToString : Time → String
  | .notADateTime => ""
  | .at microseconds => toString (microseconds.tdiv 1000000)

def stringToTime (str : String) : Time :=
  if str = "" then .notADateTime
  else
    match Numeric.signed (2 ^ 63) str.toList with
    | some timestamp => .at (timestamp * 1000000)
    | none =>
      match Numeric.unsigned (2 ^ 64) str with
      | some _ => maxDateTime
      | none => .notADateTime

/-- The time that is read where the time is written. -/
def rounded (time : Time) : Time := stringToTime (timeToString time)

end Times

section Reading

@[simp] theorem createElementWithID_name (elName idValue : String) : (createElementWithID elName idValue).name = elName := by
  unfold createElementWithID
  split <;> rfl

@[simp] theorem createElementWithText_name (elName text : String) : (createElementWithText elName text).name = elName := by
  unfold createElementWithText
  split <;> rfl

@[simp] theorem createElementWithIDAndText_name (elName id text : String) :
    (createElementWithIDAndText elName id text).name = elName := by
  unfold createElementWithIDAndText
  simp only
  split
  · exact createElementWithText_name elName text
  · exact createElementWithText_name elName text

@[simp] theorem withVersion_name (version : Nat) (el : Element) : (withVersion version el).name = el.name := by
  unfold withVersion
  split <;> rfl

@[simp] theorem withVersion_children (version : Nat) (el : Element) : (withVersion version el).children = el.children := by
  unfold withVersion
  split <;> rfl

@[simp] theorem findAttribute_setAttribute (el : Element) (name value : String) :
    (el.setAttribute name value).findAttribute name = some value := by
  obtain ⟨elName, attributes, children⟩ := el
  simp only [Tag.findAttribute, Tag.setAttribute]
  induction attributes with
  | nil => simp [putAttribute]
  | cons a attributes ih =>
    rw [putAttribute]
    split
    case isTrue => simp
    case isFalse hne =>
      rw [List.lookup_cons]
      have hother : (name == a.1) = false := by simpa using fun h : name = a.1 => hne h.symm
      rw [hother]
      exact ih

@[simp] theorem createElementWithID_id (elName idValue : String) :
    (createElementWithID elName idValue).getAttributeValue "id" = idValue := by
  unfold createElementWithID
  split
  case isTrue h => exact h ▸ rfl
  case isFalse => rw [Tag.getAttributeValue, findAttribute_setAttribute]; rfl

@[simp] theorem createElementWithText_getText (elName text : String) : (createElementWithText elName text).getText = text := by
  unfold createElementWithText
  split
  case isTrue h => exact h ▸ rfl
  case isFalse => simp [Tag.getText, Tag.adoptAsFirstChild, Tag.create, textOf]

theorem createElementWithIDAndText_id (elName id text : String) :
    (createElementWithIDAndText elName id text).getAttributeValue "id" = id := by
  unfold createElementWithIDAndText
  simp only
  split
  case isTrue h =>
    subst h
    unfold createElementWithText
    split <;> rfl
  case isFalse => rw [Tag.getAttributeValue, findAttribute_setAttribute]; rfl

theorem createElementWithIDAndText_getText (elName id text : String) :
    (createElementWithIDAndText elName id text).getText = text := by
  have h : (createElementWithIDAndText elName id text).getText = (createElementWithText elName text).getText := by
    unfold createElementWithIDAndText
    simp only
    split <;> rfl
  rw [h, createElementWithText_getText]

theorem getVersion_withVersion {version : Nat} (h : version < uintBound) {el : Element}
    (hel : el.findAttribute "version" = none) : getVersion (withVersion version el) = some version := by
  unfold withVersion getVersion
  by_cases hzero : version = 0
  · rw [if_pos hzero, hel, hzero]
  · rw [if_neg hzero, findAttribute_setAttribute]
    exact Numeric.unsigned_toString h

end Reading

end OpenPeer
