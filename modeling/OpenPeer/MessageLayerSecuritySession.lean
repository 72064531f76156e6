import OpenPeer.MessageLayerSecurityKeying
import OpenPeer.Runs

/-!
# The session of a channel

The setters, the answers of the delegate, the notifications of the streams and the step
they lead to: receive, offer keys, send. The step leaves off where something is missing
and begins anew when it is there.
-/
namespace OpenPeer

open Bytes Xml

/-- What a step is given from outside: the clock whenever it is looked at, and the values drawn. -/
structure StepInput where
  tick : Nat → Time
  now : Time
  offer : DrawnOffer
  value : Nat → Nat

def defaultTotalSendKeys : Nat := 3

/-- `Seconds(OPENPEER_SERVICES_MLS_DEFAULT_KEYING_EXPIRES_TIME_IN_SECONDS)` later -/
def Time.afterKeyingExpires : Time → Time
  | .notADateTime => .notADateTime
  | .at microseconds => .at (microseconds + 60 * 3 * 1000000)

/-- An element with children adopted one after the other. -/
def parentOf (name : String) (children : List Element) : Element := ⟨name, [], children.map .element⟩

section Offer

variable {Pri Pub : Type} (lib : Libraries Pri Pub)

def DrawnKey.keyInfo (drawn : DrawnKey) : KeyInfo :=
  ⟨convertToBuffer drawn.integrityPassphrase, lib.hashSHA256 drawn.secret, lib.hashMD5 drawn.iv, none⟩

def encodeInput (nonce : String) (salt value : List UInt8) : SendEncoding Pub → String
  | .passphrase passphrase => encodeUsingPassphraseEncoding lib passphrase nonce salt value
  | .publicKey key => lib.convertToBase64 (lib.encryptRSA key salt value)

def encodingElement (nonce : String) : SendEncoding Pub → Element
  | .passphrase passphrase =>
    parentOf "encoding"
      [createElementWithText "type" "passphrase", createElementWithText "algorithm" defaultCryptoAlgorithm,
        createElementWithText "proof" (calculatedProof lib passphrase nonce)]
  | .publicKey key =>
    parentOf "encoding" [createElementWithText "type" "pki", createElementWithText "fingerprint" (lib.getFingerprint key)]

def inputsElement (nonce : String) (encoding : SendEncoding Pub) (drawn : DrawnKey) : Element :=
  let key := drawn.keyInfo lib
  parentOf "inputs"
    [createElementWithText "secret" (encodeInput lib nonce drawn.saltOfSecret key.mSendKey encoding),
      createElementWithText "iv" (encodeInput lib nonce drawn.saltOfIV key.mNextIV encoding),
      createElementWithText "hmacIntegrityKey" (encodeInput lib nonce drawn.saltOfIntegrityKey key.mIntegrityPassphrase encoding)]

def keyElement (nonce : String) (encoding : SendEncoding Pub) (index : Nat) (drawn : DrawnKey) : Element :=
  parentOf "key"
    [createElementWithText "index" (toString index), createElementWithText "algorithm" defaultCryptoAlgorithm,
      inputsElement lib nonce encoding drawn]

def sendIndexes : List Nat := List.range' 1 defaultTotalSendKeys

def keyingElement (contextID : String) (encoding : SendEncoding Pub) (now : Time) (offer : DrawnOffer) : Element :=
  parentOf "keying"
    [createElementWithText "sequence" "0", createElementWithText "nonce" offer.nonce,
      createElementWithText "context" contextID, createElementWithText "expires" (timeToString now.afterKeyingExpires),
      encodingElement lib offer.nonce encoding,
      parentOf "algorithms" [createElementWithText "algorithm" defaultCryptoAlgorithm],
      parentOf "keys" (sendIndexes.map fun index => keyElement lib offer.nonce encoding index (offer.key index))]

def keyingBundle (contextID : String) (encoding : SendEncoding Pub) (now : Time) (offer : DrawnOffer) : Document :=
  [.element (parentOf "keyingBundle" [keyingElement lib contextID encoding now offer])]

def offeredKeys (offer : DrawnOffer) : KeyMap := sendIndexes.map fun index => (index, (offer.key index).keyInfo lib)

end Offer

def ReceiveKeying.initial {Pri Pub : Type} : ReceiveKeying Pri Pub where
  mCurrentState := .pending
  mLastError := 0
  mLastErrorReason := ""
  mRemoteContextID := ""
  mNextReceiveSequenceNumber := 0
  mReceiveDecodingType := .unknown
  mReceiveDecodingPublicKeyFingerprint := ""
  mReceiveDecodingPrivateKey := none
  mReceiveDecodingPublicKey := none
  mReceivingDecodingPassphrase := ""
  mReceiveSigningPublicKey := none
  mReceiveKeyingSignedDoc := none
  mReceiveKeys := []

namespace MLSChannel

variable {η Pri Pub : Type}

/-- What keys are encoded with; a passphrase is used before a public key. -/
def sendEncoding (s : MLSChannel η Pri Pub) : Option (SendEncoding Pub) :=
  if s.mSendingEncodingPassphrase ≠ "" then some (.passphrase s.mSendingEncodingPassphrase)
  else s.mSendingEncodingRemotePublicKey.map .publicKey

/-- Whether what is needed to decode keying is there. -/
def hasReceiveInformation (s : MLSChannel η Pri Pub) : Bool :=
  (match s.mReceiveDecodingType with
    | .unknown => true
    | .privateKey => s.mReceiveDecodingPrivateKey.isSome
    | .passphrase => s.mReceivingDecodingPassphrase ≠ "") && s.mReceiveSigningPublicKey.isSome

def writeEncoded (s : MLSChannel η Pri Pub) (buffer : List UInt8) (header : Option η) : MLSChannel η Pri Pub :=
  { s with
    mSendStreamEncoded := s.mSendStreamEncoded.write buffer header
    written := s.written ++ [(buffer, header)] }

/-- A buffer was read from the encoded stream. -/
def takeBuffer (s : MLSChannel η Pri Pub) (streamBuffer : List UInt8) (stream : TransportStream η) : MLSChannel η Pri Pub :=
  { s with mReceiveStreamEncoded := stream, taken := s.taken ++ [streamBuffer] }

/-- A buffer was decoded: it goes to the decoded stream, and its key moves on. -/
def deliver (s : MLSChannel η Pri Pub) (streamBuffer output : List UInt8) (streamHeader : Option η) (keys : KeyMap) :
    MLSChannel η Pri Pub :=
  { s with
    mReceiveKeys := keys
    mReceiveStreamDecoded := s.mReceiveStreamDecoded.write output streamHeader
    delivered := s.delivered ++ [(ofBE (streamBuffer.take 4), output)] }

/-- A buffer was encoded under the key of an index. -/
def encode (s : MLSChannel η Pri Pub) (index : Nat) (buffer output : List UInt8) (header : Option η) (keys : KeyMap) :
    MLSChannel η Pri Pub :=
  { s.writeEncoded output header with mSendKeys := keys, encrypted := s.encrypted ++ [(index, buffer)] }

section Step

variable (lib : Libraries Pri Pub) (turns : Nat)

/-- The loop over the encoded buffers, one turn for each; `none` when the processing of one goes on. -/
def receiveLoop (tick : Nat → Time) : Nat → MLSChannel η Pri Pub → Option (Bool × MLSChannel η Pri Pub)
  | 0, s => some (true, s)
  | k + 1, s =>
    match s.mReceiveStreamEncoded.readBuffer with
    | (none, _) => some (true, s)
    | (some (streamBuffer, streamHeader), stream) =>
      let s := s.takeBuffer streamBuffer stream
      match decodeBuffer lib.toCrypto s.mReceiveKeys streamBuffer with
      | .failed errorCode reason => some (false, (s.setError errorCode reason).cancel)
      | .plain output keys => receiveLoop tick k (s.deliver streamBuffer output streamHeader keys)
      | .keying =>
        (stepProcessReceiveKeying lib turns (tick k) s (some streamBuffer)).bind fun r =>
          if r.1 then receiveLoop tick k r.2.2 else some r.2

/-- The part of the receive step after a bundle that was put aside. -/
def receiveBuffers (tick : Nat → Time) (s : MLSChannel η Pri Pub) : Option (Bool × MLSChannel η Pri Pub) :=
  if s.mReceiveStreamEncoded.getTotalReadBuffersAvailable < 1 then some (true, s) else
  if s.mRemoteContextID ≠ "" ∧ s.mReceiveKeys.length < 1 ∧ ¬s.hasReceiveInformation then
    some (true, s.setState .waitingForNeededInformation)
  else
    receiveLoop lib turns tick s.mReceiveStreamEncoded.getTotalReadBuffersAvailable s

def stepReceive (tick : Nat → Time) (s : MLSChannel η Pri Pub) : Option (Bool × MLSChannel η Pri Pub) :=
  if ¬s.mReceiveStreamDecodedWriteReady then some (true, s) else
  if s.mReceiveKeyingSignedDoc.isSome then
    if s.mReceiveSigningPublicKey.isNone then some (true, s.setState .waitingForNeededInformation) else
    (stepProcessReceiveKeying lib turns (tick s.mReceiveStreamEncoded.getTotalReadBuffersAvailable) s none).bind fun r =>
      if r.1 then receiveBuffers lib turns tick r.2.2 else some r.2
  else
    receiveBuffers lib turns tick s

/-- Offer the keys, and write the bundle when it is signed; an unsigned one is the exception
`InvalidUsage`, which leaves the step. -/
def stepSendKeying (input : StepInput) (s : MLSChannel η Pri Pub) : Bool × MLSChannel η Pri Pub :=
  if ¬s.mSendStreamEncodedWriteReady then (false, s) else
  if s.mLocalContextID = "" then (false, s) else
  match s.sendEncoding with
  | none => (false, s.setState .waitingForNeededInformation)
  | some encoding =>
    match s.mSendKeyingNeedingToSignDoc with
    | some doc =>
      if s.mSendKeyingNeedToSignEl then (false, s) else
      match cursorOfKeying doc with
      | none => (false, (s.setError badRequest "failed to obtain signed keying element").cancel)
      | some keyingEl =>
        match Helper.getSignatureInfo keyingEl with
        | some (some _) =>
          (true,
            { s.writeEncoded (toBE 4 0 ++ lib.writeDocument doc) none with
              mSendKeyingNeedingToSignDoc := none
              bundles := s.bundles ++ [doc] })
        | _ => (false, s)
    | none =>
      if 0 < s.mSendKeys.length then (true, s) else
      (false,
        { s with
          mSendKeys := offeredKeys lib input.offer
          mSendKeyingNeedingToSignDoc := some (keyingBundle lib s.mLocalContextID encoding input.now input.offer)
          mSendKeyingNeedToSignEl := true
          offers := s.offers ++ [(encoding, input.offer)] }.setState .waitingForNeededInformation)

/-- The loop over the buffers to send, each under a key drawn anew; a draw without a key is the
exception `BadState`. -/
def sendLoop (value : Nat → Nat) : Nat → MLSChannel η Pri Pub → Bool × MLSChannel η Pri Pub
  | 0, s => (true, s)
  | k + 1, s =>
    match s.mSendStreamDecoded.readBuffer with
    | (none, _) => (true, s)
    | (some (buffer, header), stream) =>
      let s := { s with mSendStreamDecoded := stream }
      let index := MessageLayerSecurityChannel.random 1 s.mSendKeys.length (value k)
      match encodeBuffer lib.toCrypto s.mSendKeys index buffer with
      | none => (false, s)
      | some (output, keys) => sendLoop value k (s.encode index buffer output header keys)

def stepSend (value : Nat → Nat) (s : MLSChannel η Pri Pub) : Bool × MLSChannel η Pri Pub :=
  if s.mSendKeys.length < 1 then (false, s) else
  sendLoop lib value s.mSendStreamDecoded.getTotalReadBuffersAvailable s

def stepCheckConnected (s : MLSChannel η Pri Pub) : Bool := 0 < s.mSendKeys.length && 0 < s.mReceiveKeys.length

/-- The part of the step after the receive step. -/
def stepAfterReceive (input : StepInput) (s : MLSChannel η Pri Pub) : MLSChannel η Pri Pub :=
  let keyed := stepSendKeying lib input s
  if ¬keyed.1 then keyed.2 else
  let sent := stepSend lib input.value keyed.2
  if ¬sent.1 then sent.2 else
  if sent.2.stepCheckConnected then sent.2.setState .connected else sent.2

def step (input : StepInput) (s : MLSChannel η Pri Pub) : Option (MLSChannel η Pri Pub) :=
  if s.isShutdown then some s.cancel else
  (stepReceive lib turns input.tick s).map fun r => if r.1 then stepAfterReceive lib input r.2 else r.2

end Step

section Setters

variable [DecidableEq Pri] [DecidableEq Pub]

/-! A setter that throws changes nothing. -/

/-- A value that is set may only be set to itself. -/
def conflicts {α : Type} [DecidableEq α] (old : Option α) (new : α) : Bool := old.any (· ≠ new)

def setLocalContextID (s : MLSChannel η Pri Pub) (contextID : String) : MLSChannel η Pri Pub :=
  if s.isShutdown then s else
  if s.mLocalContextID ≠ "" ∧ contextID ≠ s.mLocalContextID then s else
  { s with mLocalContextID := contextID }.setState .pending

def setReceiveKeyingDecodingKeys (s : MLSChannel η Pri Pub) (decodingPrivateKey : Pri) (decodingPublicKey : Pub) :
    MLSChannel η Pri Pub :=
  if s.isShutdown then s else
  if s.mReceivingDecodingPassphrase ≠ "" then s else
  if conflicts s.mReceiveDecodingPrivateKey decodingPrivateKey then s else
  if conflicts s.mReceiveDecodingPublicKey decodingPublicKey then s else
  { s with
    mReceiveDecodingPrivateKey := some decodingPrivateKey
    mReceiveDecodingPublicKey := some decodingPublicKey }.setState .pending

def setReceiveKeyingDecodingPassphrase (s : MLSChannel η Pri Pub) (passphrase : String) : MLSChannel η Pri Pub :=
  if s.isShutdown then s else
  if s.mReceiveDecodingPrivateKey.isSome then s else
  if s.mReceivingDecodingPassphrase ≠ "" ∧ passphrase ≠ s.mReceivingDecodingPassphrase then s else
  { s with mReceivingDecodingPassphrase := passphrase }.setState .pending

def setReceiveKeyingMaterialSigningPublicKey (s : MLSChannel η Pri Pub) (remotePublicKey : Pub) : MLSChannel η Pri Pub :=
  if s.isShutdown then s else
  if conflicts s.mReceiveSigningPublicKey remotePublicKey then s else
  { s with mReceiveSigningPublicKey := some remotePublicKey }.setState .pending

def setSendKeyingEncodingKey (s : MLSChannel η Pri Pub) (remotePublicKey : Pub) : MLSChannel η Pri Pub :=
  if s.isShutdown then s else
  if s.mSendingEncodingPassphrase ≠ "" then s else
  if conflicts s.mSendingEncodingRemotePublicKey remotePublicKey then s else
  { s with mSendingEncodingRemotePublicKey := some remotePublicKey }.setState .pending

def setSendKeyingEncodingPassphrase (s : MLSChannel η Pri Pub) (passphrase : String) : MLSChannel η Pri Pub :=
  if s.isShutdown then s else
  if s.mSendingEncodingRemotePublicKey.isSome then s else
  if s.mSendingEncodingPassphrase ≠ "" ∧ passphrase ≠ s.mSendingEncodingPassphrase then s else
  { s with mSendingEncodingPassphrase := passphrase }.setState .pending

def notifySendKeyingMaterialSigned (s : MLSChannel η Pri Pub) : MLSChannel η Pri Pub :=
  if s.isShutdown then s else
  { s with mSendKeyingNeedToSignEl := false }.setState .pending

end Setters

/-- The keying element with an id, and a signature put behind it. -/
def signed (id : String) (signatureEl : Element) (keyingEl : Cursor) : List Node :=
  (Cursor.adoptAsNextSibling { keyingEl with element := keyingEl.element.setAttribute "id" id } (.element signatureEl)).nodes

/-- The delegate signs the element that it was given. -/
def signSendKeyingMaterial (s : MLSChannel η Pri Pub) (id : String) (signatureEl : Element) : MLSChannel η Pri Pub :=
  { s with
    mSendKeyingNeedingToSignDoc := s.mSendKeyingNeedingToSignDoc.map fun doc =>
      (editAt (signed id signatureEl) [("keyingBundle", 0), ("keying", 0)] doc).getD doc }

def onReceiveStreamDecodedReady (s : MLSChannel η Pri Pub) : MLSChannel η Pri Pub :=
  { s with
    mReceiveStreamDecodedWriteReady := true
    mReceiveStreamEncoded := s.mReceiveStreamEncoded.notifyReaderReadyToRead }

def onSendStreamEncodedReady (s : MLSChannel η Pri Pub) : MLSChannel η Pri Pub :=
  { s with
    mSendStreamEncodedWriteReady := true
    mSendStreamDecoded := s.mSendStreamDecoded.notifyReaderReadyToRead }

/-- A channel at its creation. -/
def create (receiveStreamEncoded receiveStreamDecoded sendStreamDecoded sendStreamEncoded : TransportStream η)
    (contextID : String) : MLSChannel η Pri Pub where
  toReceiveKeying := .initial
  mLocalContextID := contextID
  mSendingEncodingRemotePublicKey := none
  mSendingEncodingPassphrase := ""
  mSendKeyingNeedingToSignDoc := none
  mSendKeyingNeedToSignEl := false
  mReceiveStreamEncoded := receiveStreamEncoded
  mReceiveStreamDecoded := receiveStreamDecoded
  mSendStreamDecoded := sendStreamDecoded
  mSendStreamEncoded := sendStreamEncoded
  mReceiveStreamDecodedWriteReady := false
  mSendStreamEncodedWriteReady := false
  mSendKeys := []
  attempts := []
  taken := []
  delivered := []
  encrypted := []
  offers := []
  bundles := []
  written := []

end MLSChannel

/-- What happens to a channel. The last four are the other ends of its streams, which may do with
them whatever they like. -/
inductive MLSEvent (η Pri Pub : Type) where
  | setLocalContextID (contextID : String)
  | setReceiveKeyingDecodingKeys (decodingPrivateKey : Pri) (decodingPublicKey : Pub)
  | setReceiveKeyingDecodingPassphrase (passphrase : String)
  | setReceiveKeyingMaterialSigningPublicKey (remotePublicKey : Pub)
  | setSendKeyingEncodingKey (remotePublicKey : Pub)
  | setSendKeyingEncodingPassphrase (passphrase : String)
  | signSendKeyingMaterial (id : String) (signatureEl : Element)
  | notifySendKeyingMaterialSigned
  | onTransportStreamReaderReady (input : StepInput)
  | onReceiveStreamDecodedReady (input : StepInput)
  | onSendStreamEncodedReady (input : StepInput)
  | onWake (input : StepInput)
  | cancel
  | receiveStreamEncoded (stream : TransportStream η)
  | receiveStreamDecoded (stream : TransportStream η)
  | sendStreamDecoded (stream : TransportStream η)
  | sendStreamEncoded (stream : TransportStream η)

namespace MLSChannel

variable {η Pri Pub : Type} [DecidableEq Pri] [DecidableEq Pub] (lib : Libraries Pri Pub) (turns : Nat)

/-- The channel after an event; `none` when the step it leads to goes on. -/
def handle (s : MLSChannel η Pri Pub) : MLSEvent η Pri Pub → Option (MLSChannel η Pri Pub)
  | .setLocalContextID contextID => some (s.setLocalContextID contextID)
  | .setReceiveKeyingDecodingKeys decodingPrivateKey decodingPublicKey =>
    some (s.setReceiveKeyingDecodingKeys decodingPrivateKey decodingPublicKey)
  | .setReceiveKeyingDecodingPassphrase passphrase => some (s.setReceiveKeyingDecodingPassphrase passphrase)
  | .setReceiveKeyingMaterialSigningPublicKey remotePublicKey =>
    some (s.setReceiveKeyingMaterialSigningPublicKey remotePublicKey)
  | .setSendKeyingEncodingKey remotePublicKey => some (s.setSendKeyingEncodingKey remotePublicKey)
  | .setSendKeyingEncodingPassphrase passphrase => some (s.setSendKeyingEncodingPassphrase passphrase)
  | .signSendKeyingMaterial id signatureEl => some (s.signSendKeyingMaterial id signatureEl)
  | .notifySendKeyingMaterialSigned => some s.notifySendKeyingMaterialSigned
  | .onTransportStreamReaderReady input => s.step lib turns input
  | .onReceiveStreamDecodedReady input => s.onReceiveStreamDecodedReady.step lib turns input
  | .onSendStreamEncodedReady input => s.onSendStreamEncodedReady.step lib turns input
  | .onWake input => s.step lib turns input
  | .cancel => some s.cancel
  | .receiveStreamEncoded stream => some { s with mReceiveStreamEncoded := stream }
  | .receiveStreamDecoded stream => some { s with mReceiveStreamDecoded := stream }
  | .sendStreamDecoded stream => some { s with mSendStreamDecoded := stream }
  | .sendStreamEncoded stream => some { s with mSendStreamEncoded := stream }

/-- A channel in a step that goes on takes no event any more. -/
def next (s : Option (MLSChannel η Pri Pub)) (e : MLSEvent η Pri Pub) : Option (MLSChannel η Pri Pub) :=
  s.bind fun s => s.handle lib turns e

end MLSChannel

end OpenPeer
