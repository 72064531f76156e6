import OpenPeer.CanonicalJSON
import OpenPeer.MessageHelper
import OpenPeer.MessageLayerSecurityChannel

/-!
# Signed elements

A signature is a later sibling of the element it signs, and refers to it by its id. Of
an element without such a sibling the first child that is no signature is looked at in
its place. The digest that is signed is that of the canonical form.
-/
namespace OpenPeer

open Xml

/-- What is used of the libraries with documents and keys: the other digests, bytes as text, numbers
in text, RSA keys, and documents and elements as JSON. -/
structure Libraries (Pri Pub : Type) extends Crypto where
  hashMD5 : List UInt8 → List UInt8
  hashSHA256 : List UInt8 → List UInt8
  hmacSHA256 : (key value : List UInt8) → List UInt8
  convertFromHex : String → List UInt8
  convertToBase64 : List UInt8 → String
  convertFromBase64 : String → List UInt8
  /-- `Numeric<ULONG>`; none when `ValueOutOfRange` is thrown. -/
  numeric : String → Option Nat
  /-- The number of values of `ULONG`. -/
  ulongBound : Nat
  getFingerprint : Pub → String
  verify : Pub → (inOriginalBufferSigned inSignature : List UInt8) → Bool
  /-- Encryption is randomised. -/
  encryptRSA : Pub → (random buffer : List UInt8) → List UInt8
  decryptRSA : Pri → (buffer : List UInt8) → Option (List UInt8)
  createFromAutoDetect : List UInt8 → Document
  writeDocument : Document → List UInt8
  writeElement : Element → List UInt8

def utf8 (s : String) : List UInt8 := s.toUTF8.data.toList

/-- `convertToHex` as a string -/
def hexText (bytes : List UInt8) : String := String.ofList ((convertToHex bytes).map fun b => Char.ofNat b.toNat)

/-- The text of a child; nothing when it is missing. -/
def getElementTextAndDecode (node : Option Element) : String := (node.map Tag.getText).getD ""

namespace Helper

/-- The first child element that is no signature. -/
def skipSignatures : List Node → Option Cursor
  | [] => none
  | .text value :: ns => (skipSignatures ns).map (.skip (.text value))
  | .element e :: ns => if e.name = "signature" then (skipSignatures ns).map (.skip (.element e)) else some ⟨[], e, ns⟩

/-- The first of the signatures that refers to the id; the outer `none` is `CheckFailed`, thrown for
a signature without a reference. -/
def findReferenceTo (id : String) : List Element → Option (Option Element)
  | [] => some none
  | signatureEl :: rest =>
    match signatureEl.findFirstChildElement "reference" with
    | none => none
    | some referenceEl => if referenceEl.getText = "#" ++ id then some (some signatureEl) else findReferenceTo id rest

/-- The signed element and its signature. -/
def getSignatureInfo (signedEl : Cursor) : Option (Option (Element × Element)) :=
  let place := if elementsNamed "signature" signedEl.after = [] then skipSignatures signedEl.element.children else some signedEl
  match place with
  | none => some none
  | some signedEl =>
    let id := signedEl.element.getAttributeValue "id"
    if id = "" then some none else
    (findReferenceTo id (elementsNamed "signature" signedEl.after)).map fun found =>
      found.map fun signatureEl => (signedEl.element, signatureEl)

end Helper

def jsonSignatureAlgorithm : String := "http://meta.openpeer.org/2012/12/14/jsonsig#rsa-sha1"

section Verification

variable {Pri Pub : Type} (lib : Libraries Pri Pub)

/-- The digest and the signature of it that a signature element states, none when an element is
missing or the algorithm is another one. -/
def signatureValues (signatureEl : Element) : Option (List UInt8 × List UInt8) :=
  (signatureEl.findFirstChildElement "algorithm").bind fun algorithm =>
    if algorithm.getText ≠ jsonSignatureAlgorithm then none else
    (signatureEl.findFirstChildElement "digestValue").bind fun digestValue =>
      (signatureEl.findFirstChildElement "digestSigned").map fun digestSigned =>
        (lib.convertFromBase64 digestValue.getText, lib.convertFromBase64 digestSigned.getText)

/-- `CheckFailed` passes through when looking for the signature throws it. -/
def verifySignature (key : Pub) (signedEl : Cursor) : Option Bool :=
  (Helper.getSignatureInfo signedEl).map fun
    | none => false
    | some (signedEl, signatureEl) =>
      match signatureValues lib signatureEl with
      | none => false
      | some (signatureDigest, signatureDigestSigned) =>
        let actualDigest := lib.hash (lib.writeElement (Helper.canonical signedEl))
        actualDigest = signatureDigest && lib.verify key actualDigest signatureDigestSigned

end Verification

end OpenPeer
