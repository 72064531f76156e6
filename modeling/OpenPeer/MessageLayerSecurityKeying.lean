import OpenPeer.Keyed
import OpenPeer.Signatures

/-!
# Receive keying

A channel with all it is keyed with, and the processing of a keying bundle: the checks
in their order, each of which may refuse the bundle or put it aside until something is
known, the loop that looks for the mandated algorithm, and the loop over the keys. An
element that is missing ends both loops and the checks alike; what then counts is
whether a key was found.
-/
namespace OpenPeer

open Xml

def badRequest : UInt16 := 400
def requestTimeout : UInt16 := 408
def expectationFailed : UInt16 := 417

def defaultCryptoAlgorithm : String := "http://meta.openpeer.org/2012/12/14/jsonmls#aes-cfb-32-16-16-sha1-md5"

/-- `tick > expires`; no date compares with nothing. -/
def Time.after : (tick expires : Time) → Bool
  | .at tick, .at expires => expires < tick
  | _, _ => false

/-- The pieces between the split characters; of the empty ones only the last is kept. -/
def Helper.split (input : String) (splitChar : Char) : List String :=
  if input = "" then [] else
  let pieces := input.toList.splitOn splitChar
  (pieces.dropLast.filter (· ≠ []) ++ [pieces.getLastD []]).map String.ofList

/-- A string as bytes, up to its terminator. -/
def convertToBuffer (input : String) : List UInt8 := (utf8 input).takeWhile (· ≠ 0)

/-- Bytes as a string: up to the first zero. -/
def convertToString (buffer : List UInt8) : List UInt8 := buffer.takeWhile (· ≠ 0)

def hmacKeyFromPassphrase (passphrase : String) : List UInt8 := convertToBuffer passphrase

/-- What a channel knows of its keying: all that the processing of a bundle looks at and changes. -/
structure ReceiveKeying (Pri Pub : Type) where
  mCurrentState : MLSSessionStates
  mLastError : UInt16
  mLastErrorReason : String
  mRemoteContextID : String
  mNextReceiveSequenceNumber : Nat
  mReceiveDecodingType : DecodingTypes
  mReceiveDecodingPublicKeyFingerprint : String
  mReceiveDecodingPrivateKey : Option Pri
  mReceiveDecodingPublicKey : Option Pub
  mReceivingDecodingPassphrase : String
  mReceiveSigningPublicKey : Option Pub
  /-- The bundle that was put aside; the keying element in it is set and reset with it. -/
  mReceiveKeyingSignedDoc : Option Document
  mReceiveKeys : KeyMap

/-- One processing of a bundle. -/
structure KeyingAttempt (Pri Pub : Type) where
  before : ReceiveKeying Pri Pub
  doc : Document
  tick : Time
  after : ReceiveKeying Pri Pub

/-- What is drawn at random for a key. -/
structure DrawnKey where
  integrityPassphrase : String
  secret : List UInt8
  iv : List UInt8
  saltOfSecret : List UInt8
  saltOfIV : List UInt8
  saltOfIntegrityKey : List UInt8

structure DrawnOffer where
  nonce : String
  key : Nat → DrawnKey

inductive SendEncoding (Pub : Type) where
  | passphrase (passphrase : String)
  | publicKey (key : Pub)

/-- A channel. The last fields are a record of what it did. -/
structure MLSChannel (η Pri Pub : Type) extends ReceiveKeying Pri Pub where
  mLocalContextID : String
  mSendingEncodingRemotePublicKey : Option Pub
  mSendingEncodingPassphrase : String
  mSendKeyingNeedingToSignDoc : Option Document
  /-- The keying element of that document is still to be signed. -/
  mSendKeyingNeedToSignEl : Bool
  mReceiveStreamEncoded : TransportStream η
  mReceiveStreamDecoded : TransportStream η
  mSendStreamDecoded : TransportStream η
  mSendStreamEncoded : TransportStream η
  mReceiveStreamDecodedWriteReady : Bool
  mSendStreamEncodedWriteReady : Bool
  mSendKeys : KeyMap
  /-- The bundles processed. -/
  attempts : List (KeyingAttempt Pri Pub)
  /-- The buffers read from the encoded receive stream. -/
  taken : List (List UInt8)
  /-- The plain buffers written to the decoded receive stream, with the index of the key. -/
  delivered : List (Nat × List UInt8)
  /-- The plain buffers encrypted, with the index of the key. -/
  encrypted : List (Nat × List UInt8)
  /-- The offers of keys made, with what they were encoded with. -/
  offers : List (SendEncoding Pub × DrawnOffer)
  /-- The bundles written. -/
  bundles : List Document
  /-- The buffers written to the encoded send stream. -/
  written : List (List UInt8 × Option η)

namespace MLSChannel

variable {η Pri Pub : Type}

def isShutdown (s : MLSChannel η Pri Pub) : Bool := s.mCurrentState == .shutdown

def setState (s : MLSChannel η Pri Pub) (state : MLSSessionStates) : MLSChannel η Pri Pub := { s with mCurrentState := state }

/-- The first error is kept. -/
def setError (s : MLSChannel η Pri Pub) (errorCode : UInt16) (reason : String) : MLSChannel η Pri Pub :=
  if s.mLastError ≠ 0 then s else { s with mLastError := errorCode, mLastErrorReason := reason }

def cancel (s : MLSChannel η Pri Pub) : MLSChannel η Pri Pub :=
  { s with
    mCurrentState := .shutdown
    mSendingEncodingRemotePublicKey := none
    mSendKeyingNeedingToSignDoc := none
    mSendKeyingNeedToSignEl := false
    mReceiveDecodingPrivateKey := none
    mReceiveDecodingPublicKey := none
    mReceiveSigningPublicKey := none
    mReceiveKeyingSignedDoc := none
    mReceiveStreamEncoded := s.mReceiveStreamEncoded.cancel
    mReceiveStreamDecoded := s.mReceiveStreamDecoded.cancel
    mSendStreamDecoded := s.mSendStreamDecoded.cancel
    mSendStreamEncoded := s.mSendStreamEncoded.cancel }

end MLSChannel

section Encodings

variable {Pri Pub : Type} (lib : Libraries Pri Pub)

/-- hex(hmac(`<external-passphrase>`, "keying:" + `<nonce>`)) -/
def calculatedProof (passphrase nonce : String) : String :=
  hexText (lib.hmac (hmacKeyFromPassphrase passphrase) (utf8 ("keying:" ++ nonce)))

def passphraseKey (passphrase nonce : String) : List UInt8 :=
  lib.hmacSHA256 (hmacKeyFromPassphrase passphrase) (utf8 ("keying:" ++ nonce))

def decryptUsingPassphraseEncoding (passphrase nonce value : String) : Option (List UInt8) :=
  match Helper.split value ':' with
  | hexSalt :: base64Value :: _ =>
    some (lib.decrypt (passphraseKey lib passphrase nonce) (lib.convertFromHex hexSalt) (lib.convertFromBase64 base64Value))
  | _ => none

/-- The salt is drawn at random. -/
def encodeUsingPassphraseEncoding (passphrase nonce : String) (iv value : List UInt8) : String :=
  hexText iv ++ ":" ++ lib.convertToBase64 (lib.encrypt (passphraseKey lib passphrase nonce) iv value)

end Encodings

/-- How the processing of a bundle ends before its keys are looked at. -/
inductive Halt where
  /-- An element is missing. -/
  | checkFailed
  /-- The bundle is put aside; what the receive step is to return. -/
  | waits (returnResult : Bool)
  | refused (errorCode : UInt16) (reason : String)
  /-- The exception `BadState`. -/
  | badState
  deriving DecidableEq, Repr

def cursorOfKeying (doc : Document) : Option Cursor := cursorAt [("keyingBundle", 0), ("keying", 0)] doc

/-- The text of a child that has to be there. -/
def checkedText (el : Element) (name : String) : Option String := (el.findFirstChildElement name).map Tag.getText

/-- The text of a child that may be missing. -/
def text (el : Element) (name : String) : String := getElementTextAndDecode (el.findFirstChildElement name)

namespace ReceiveKeying

variable {Pri Pub : Type} (lib : Libraries Pri Pub)

/-- An encoding of type "pki". -/
def checkPrivateKeyEncoding (encodingEl : Element) (k : ReceiveKeying Pri Pub) : Except Halt Unit × ReceiveKeying Pri Pub :=
  let k := { k with mReceiveDecodingType := .privateKey }
  match checkedText encodingEl "fingerprint" with
  | none => (.error .checkFailed, k)
  | some encodingFingerprint =>
    let known := k.mReceiveDecodingPublicKeyFingerprint
    let k := { k with mReceiveDecodingPublicKeyFingerprint := if known = "" then encodingFingerprint else known }
    if k.mReceiveDecodingPrivateKey.isNone then (.error (.waits false), k) else
    match k.mReceiveDecodingPublicKey with
    | none => (.error .badState, k)
    | some publicKey =>
      if encodingFingerprint ≠ lib.getFingerprint publicKey then
        (.error (.refused requestTimeout "signed keying bundle has expired"), k)
      else (.ok (), k)

/-- An encoding of type "passphrase". -/
def checkPassphraseEncoding (nonce : String) (encodingEl : Element) (k : ReceiveKeying Pri Pub) :
    Except Halt Unit × ReceiveKeying Pri Pub :=
  let k := { k with mReceiveDecodingType := .passphrase }
  if k.mReceivingDecodingPassphrase = "" then (.error (.waits false), k) else
  match checkedText encodingEl "algorithm" with
  | none => (.error .checkFailed, k)
  | some algorithm =>
    if defaultCryptoAlgorithm ≠ algorithm then
      (.error (.refused expectationFailed "keyhing encoding not using expecting passphrase"), k)
    else
      match checkedText encodingEl "proof" with
      | none => (.error .checkFailed, k)
      | some proof =>
        if proof ≠ calculatedProof lib k.mReceivingDecodingPassphrase nonce then
          (.error (.refused expectationFailed "keyhing encoding not using expecting passphrase"), k)
        else (.ok (), k)

/-- There is no branch for another type. -/
def checkEncoding (nonce : String) (encodingEl : Element) (k : ReceiveKeying Pri Pub) : Except Halt Unit × ReceiveKeying Pri Pub :=
  match checkedText encodingEl "type" with
  | none => (.error .checkFailed, k)
  | some type =>
    if type = "pki" then checkPrivateKeyEncoding lib encodingEl k
    else if type = "passphrase" then checkPassphraseEncoding lib nonce encodingEl k
    else (.ok (), k)

/-- The context of the first bundle is kept. -/
def rememberContext (keyingEl : Element) (k : ReceiveKeying Pri Pub) : ReceiveKeying Pri Pub :=
  { k with mRemoteContextID := if k.mRemoteContextID = "" then text keyingEl "context" else k.mRemoteContextID }

/-- The nonce and the encoding. -/
def checkContents (keyingEl : Element) (k : ReceiveKeying Pri Pub) : Except Halt String × ReceiveKeying Pri Pub :=
  match checkedText keyingEl "nonce", keyingEl.findFirstChildElement "encoding" with
  | some nonce, some encodingEl =>
    ((checkEncoding lib nonce encodingEl k).1.map fun _ => nonce, (checkEncoding lib nonce encodingEl k).2)
  | _, _ => (.error .checkFailed, k)

/-- The checks up to the encoding; the nonce when they are passed. -/
def checkKeying (tick : Time) (keyingEl : Cursor) (k : ReceiveKeying Pri Pub) : Except Halt String × ReceiveKeying Pri Pub :=
  match k.mReceiveSigningPublicKey with
  | none => (.error (.waits true), k)
  | some signingPublicKey =>
    match verifySignature lib signingPublicKey keyingEl with
    | none => (.error .checkFailed, k)
    | some false => (.error (.refused forbidden "keying encoding not using expecting passphrase"), k)
    | some true =>
      if text keyingEl.element "sequence" ≠ toString k.mNextReceiveSequenceNumber then
        (.error (.refused requestTimeout "sequence number mismatch"), k)
      else if tick.after (stringToTime (text keyingEl.element "expires")) then
        (.error (.refused requestTimeout "signed keying bundle has expired"), k)
      else checkContents lib keyingEl.element k

/-- The loop that looks for the mandated algorithm, for so many turns; `none` when it goes on. The
next sibling is looked up and not assigned. -/
def algorithmLoop : Nat → Option Element → Option Bool
  | _, none => some false
  | 0, some _ => none
  | n + 1, some algorithmEl =>
    if defaultCryptoAlgorithm = algorithmEl.getText then some true else algorithmLoop n (some algorithmEl)

def firstAlgorithm (keyingEl : Element) : Option Element :=
  (keyingEl.findFirstChildElement "algorithms").bind (·.findFirstChildElement "algorithm")

def checkAlgorithms (turns : Nat) (keyingEl : Element) : Option (Except Halt Unit) :=
  match firstAlgorithm keyingEl with
  | none => some (.error .checkFailed)
  | some algorithmEl =>
    (algorithmLoop turns (some algorithmEl)).map fun found =>
      if found then .ok () else .error (.refused expectationFailed "did not find mandated MLS algorithm")

/-- A value of a key, decrypted as the decoding type has it. -/
def decryptInput (k : ReceiveKeying Pri Pub) (nonce value : String) : Option (List UInt8) :=
  if k.mReceiveDecodingType = .privateKey then
    k.mReceiveDecodingPrivateKey.bind fun key => lib.decryptRSA key (lib.convertFromBase64 value)
  else decryptUsingPassphraseEncoding lib k.mReceivingDecodingPassphrase nonce value

/-- A key from its inputs, none when one of them cannot be decrypted. -/
def keyOf (k : ReceiveKeying Pri Pub) (nonce secret iv hmacIntegrityKey : String) : Option KeyInfo :=
  match decryptInput lib k nonce secret, decryptInput lib k nonce iv, decryptInput lib k nonce hmacIntegrityKey with
  | some mSendKey, some mNextIV, some integrityPassphrase =>
    if convertToString integrityPassphrase = [] then none
    else some ⟨convertToString integrityPassphrase, mSendKey, mNextIV, none⟩
  | _, _, _ => none

/-- A key with its index: the outer `none` is `CheckFailed`, the inner one a key that is skipped. -/
def decodeKey (k : ReceiveKeying Pri Pub) (nonce : String) (keyEl : Element) : Option (Option (Nat × KeyInfo)) :=
  (checkedText keyEl "index").bind fun indexText =>
    let index := (lib.numeric indexText).getD 0
    if index = 0 then some none else
    (checkedText keyEl "algorithm").bind fun algorithm =>
      if defaultCryptoAlgorithm ≠ algorithm then some none else
      (keyEl.findFirstChildElement "inputs").bind fun inputs =>
        (checkedText inputs "secret").bind fun secret =>
          (checkedText inputs "iv").bind fun iv =>
            (checkedText inputs "hmacIntegrityKey").map fun hmacIntegrityKey =>
              (keyOf lib k nonce secret iv hmacIntegrityKey).map fun key => (index, key)

/-- The loop over the keys, with those found so far. -/
def keyLoop (k : ReceiveKeying Pri Pub) (nonce : String) : List Element → KeyMap → KeyMap
  | [], keys => keys
  | keyEl :: rest, keys =>
    match decodeKey lib k nonce keyEl with
    | none => keys
    | some none => keyLoop k nonce rest keys
    | some (some entry) => keyLoop k nonce rest (Keyed.put Prod.fst keys entry)

def extractKeys (k : ReceiveKeying Pri Pub) (nonce : String) (keyingEl : Element) : KeyMap :=
  match keyingEl.findFirstChildElement "keys" with
  | none => []
  | some keysEl => keyLoop lib k nonce (keysEl.childElements "key") []

end ReceiveKeying

namespace MLSChannel

variable {η Pri Pub : Type} (lib : Libraries Pri Pub)

/-- The end of the processing, with or without `CheckFailed`. -/
def conclude (s : MLSChannel η Pri Pub) : Bool × Bool × MLSChannel η Pri Pub :=
  if s.mReceiveKeys.length < 1 then
    (false, false, (s.setError expectationFailed "did not find any key information").cancel)
  else (true, true, { s with mNextReceiveSequenceNumber := (s.mNextReceiveSequenceNumber + 1) % lib.ulongBound })

def leave (doc : Document) (s : MLSChannel η Pri Pub) : Halt → Bool × Bool × MLSChannel η Pri Pub
  | .checkFailed => conclude lib s
  | .waits returnResult => (false, returnResult, { s with mReceiveKeyingSignedDoc := some doc }.setState .waitingForNeededInformation)
  | .refused errorCode reason => (false, false, (s.setError errorCode reason).cancel)
  | .badState => (false, false, s)

/-- All previous keys are destroyed, and no bundle is put aside any more. -/
def clear (s : MLSChannel η Pri Pub) : MLSChannel η Pri Pub := { s with mReceiveKeyingSignedDoc := none, mReceiveKeys := [] }

def withKeying (s : MLSChannel η Pri Pub) (known : ReceiveKeying Pri Pub) : MLSChannel η Pri Pub :=
  { s with toReceiveKeying := known }

/-- The algorithms and the keys of a bundle that passed the checks. -/
def processKeys (turns : Nat) (nonce : String) (keyingEl : Element) (doc : Document) (s : MLSChannel η Pri Pub) :
    Option (Bool × Bool × MLSChannel η Pri Pub) :=
  (ReceiveKeying.checkAlgorithms turns keyingEl).map fun
    | .error halt => leave lib doc s halt
    | .ok () => conclude lib { s with mReceiveKeys := s.extractKeys lib nonce keyingEl }

/-- The processing of a bundle that is at hand: whether it completed, what the receive step is to
return if it did not, and the channel after it; `none` when it has not ended after the turns that the
loop over the algorithms is given. -/
def processKeying (turns : Nat) (tick : Time) (doc : Document) (s : MLSChannel η Pri Pub) :
    Option (Bool × Bool × MLSChannel η Pri Pub) :=
  match cursorOfKeying doc with
  | none => some (conclude lib s.clear)
  | some keyingEl =>
    match (s.clear.rememberContext keyingEl.element).checkKeying lib tick keyingEl with
    | (.error halt, known) => some (leave lib doc (s.clear.withKeying known) halt)
    | (.ok nonce, known) => processKeys lib turns nonce keyingEl.element doc (s.clear.withKeying known)

/-- The bundle to process: the one that was put aside, else that of the buffer. -/
def documentFor (s : MLSChannel η Pri Pub) (keying : Option (List UInt8)) : Document :=
  match s.mReceiveKeyingSignedDoc with
  | some doc => doc
  | none => lib.createFromAutoDetect ((keying.getD []).drop 4)

def stepProcessReceiveKeying (turns : Nat) (tick : Time) (s : MLSChannel η Pri Pub) (keying : Option (List UInt8)) :
    Option (Bool × Bool × MLSChannel η Pri Pub) :=
  let doc := documentFor lib s keying
  (processKeying lib turns tick doc s).map fun r =>
    (r.1, r.2.1, { r.2.2 with attempts := r.2.2.attempts ++ [⟨s.toReceiveKeying, doc, tick, r.2.2.toReceiveKeying⟩] })

end MLSChannel

end OpenPeer
