import OpenPeer.TransportStream

/-!
# Message layer security

The data path of a channel whose keying is done: a buffer to send is encrypted
under one of the send keys and prefixed with the key's index and an integrity
value, a received buffer is checked and decrypted under the key it names, and on
both ends the integrity value moves the key on to its next initialisation vector.
The ciphers and hashes are parameters, and so is the processing of keying buffers.
-/
namespace OpenPeer

open Bytes

/-- The functions of the cryptographic library, on byte strings. -/
structure Crypto where
  encrypt : (key iv buffer : List UInt8) → List UInt8
  decrypt : (key iv buffer : List UInt8) → List UInt8
  hash : List UInt8 → List UInt8
  hmac : (key value : List UInt8) → List UInt8
  getHashDigestSize : Nat

/-- What the channel relies on: decryption undoes encryption, nothing encrypts to nothing, and a
keyed hash has the digest size. -/
structure Crypto.Laws (c : Crypto) : Prop where
  decrypt_encrypt : ∀ key iv buffer, c.decrypt key iv (c.encrypt key iv buffer) = buffer
  encrypt_nil : ∀ key iv, c.encrypt key iv [] = []
  length_hmac : ∀ key value, (c.hmac key value).length = c.getHashDigestSize

def ascii (s : String) : List UInt8 := s.toList.map fun ch => UInt8.ofNat ch.toNat

def hexDigit (n : Nat) : UInt8 := if n < 10 then UInt8.ofNat (48 + n) else UInt8.ofNat (87 + n)

def convertToHex (bytes : List UInt8) : List UInt8 :=
  bytes.flatMap fun b => [hexDigit (b.toNat / 16), hexDigit (b.toNat % 16)]

structure KeyInfo where
  mIntegrityPassphrase : List UInt8
  mSendKey : List UInt8
  mNextIV : List UInt8
  mLastIntegrity : Option (List UInt8)
  deriving DecidableEq, Repr

/-- The keys by algorithm index. -/
abbrev KeyMap := List (Nat × KeyInfo)

namespace KeyMap

def find (keys : KeyMap) (index : Nat) : Option KeyInfo := keys.lookup index

def update (keys : KeyMap) (index : Nat) (key : KeyInfo) : KeyMap :=
  keys.map fun e => if e.1 = index then (index, key) else e

end KeyMap

section Buffers

variable (c : Crypto)

/-- The integrity value of a plain buffer under the current state of a key. -/
def KeyInfo.integrity (key : KeyInfo) (buffer : List UInt8) : List UInt8 :=
  c.hmac key.mIntegrityPassphrase
    (ascii "integrity:" ++ convertToHex (c.hash buffer) ++ ascii ":" ++ convertToHex key.mNextIV)

/-- The key after a buffer with the given integrity value. -/
def KeyInfo.next (key : KeyInfo) (calculatedIntegrity : List UInt8) : KeyInfo :=
  { key with
    mNextIV := c.hash (convertToHex key.mNextIV ++ ascii ":" ++ convertToHex calculatedIntegrity)
    mLastIntegrity := some calculatedIntegrity }

/-- Encrypt one buffer under the key of an index; `none` when there is no such key. -/
def encodeBuffer (keys : KeyMap) (index : Nat) (buffer : List UInt8) : Option (List UInt8 × KeyMap) :=
  (keys.find index).map fun key =>
    let encrypted := c.encrypt key.mSendKey key.mNextIV buffer
    let calculatedIntegrity := key.integrity c buffer
    (toBE 4 index ++ calculatedIntegrity ++ encrypted, keys.update index (key.next c calculatedIntegrity))

/-- What the receive loop makes of one buffer. -/
inductive Decoded where
  | failed (errorCode : UInt16) (reason : String)
  | keying
  | plain (output : List UInt8) (keys : KeyMap)
  deriving DecidableEq, Repr

def unauthorized : UInt16 := 401
def forbidden : UInt16 := 403

def decodeBuffer (keys : KeyMap) (streamBuffer : List UInt8) : Decoded :=
  if streamBuffer.length ≤ 4 then .failed unauthorized "buffer is not decodable" else
  let algorithm := ofBE (streamBuffer.take 4)
  let source := streamBuffer.drop 4
  if algorithm = 0 then .keying else
  if keys.length < 1 then
    .failed forbidden "attempting to decode a packet where keying material has not been received" else
  match keys.find algorithm with
  | none =>
    .failed forbidden "attempting to decode a packet where keying algorithm does not map to a know key"
  | some key =>
    let integritySize := c.getHashDigestSize
    if source.length ≤ integritySize then .failed unauthorized "buffer is not decodable" else
    let integrity := source.take integritySize
    let input := source.drop integritySize
    let output := c.decrypt key.mSendKey key.mNextIV input
    let calculatedIntegrity := key.integrity c output
    if calculatedIntegrity ≠ integrity then .failed unauthorized "buffer is not decodable" else
    .plain output (keys.update algorithm (key.next c calculatedIntegrity))

end Buffers

inductive MLSSessionStates where
  | pending | waitingForNeededInformation | connected | shutdown
  deriving DecidableEq, Repr

inductive DecodingTypes where
  | unknown | privateKey | passphrase
  deriving DecidableEq, Repr

/-- A channel. Of the materials the keying is made with, only whether they are there matters here. -/
structure MessageLayerSecurityChannel (η : Type) where
  mCurrentState : MLSSessionStates
  mLastError : UInt16
  mLastErrorReason : String
  mRemoteContextID : String
  mReceiveDecodingType : DecodingTypes
  mReceiveDecodingPrivateKey : Bool
  mReceivingDecodingPassphrase : String
  mReceiveSigningPublicKey : Bool
  /-- A keying document waits for the key its signature is to be checked with. -/
  mReceiveKeyingSigned : Bool
  mReceiveStreamEncoded : TransportStream η
  mReceiveStreamDecoded : TransportStream η
  mSendStreamDecoded : TransportStream η
  mSendStreamEncoded : TransportStream η
  mReceiveStreamDecodedWriteReady : Bool
  mReceiveKeys : KeyMap
  mSendKeys : KeyMap
  deriving DecidableEq, Repr

namespace MessageLayerSecurityChannel

variable {η : Type}

def isShutdown (s : MessageLayerSecurityChannel η) : Bool := s.mCurrentState == .shutdown

/-- The first error is kept. -/
def setError (s : MessageLayerSecurityChannel η) (errorCode : UInt16) (reason : String) :
    MessageLayerSecurityChannel η :=
  if s.mLastError ≠ 0 then s else { s with mLastError := errorCode, mLastErrorReason := reason }

def cancel (s : MessageLayerSecurityChannel η) : MessageLayerSecurityChannel η :=
  { s with
    mCurrentState := .shutdown
    mReceiveDecodingPrivateKey := false
    mReceiveSigningPublicKey := false
    mReceiveKeyingSigned := false
    mReceiveStreamEncoded := s.mReceiveStreamEncoded.cancel
    mReceiveStreamDecoded := s.mReceiveStreamDecoded.cancel
    mSendStreamDecoded := s.mSendStreamDecoded.cancel
    mSendStreamEncoded := s.mSendStreamEncoded.cancel }

/-- The processing of a keying buffer, or of the one that was waiting: whether it completed, what
the receive step is to return if it did not, and the channel after it. -/
abbrev ProcessReceiveKeying (η : Type) :=
  MessageLayerSecurityChannel η → Option (List UInt8) → Bool × Bool × MessageLayerSecurityChannel η

/-- The loop over the encoded buffers, one turn for each. -/
def receiveLoop (c : Crypto) (keying : ProcessReceiveKeying η) :
    Nat → MessageLayerSecurityChannel η → Bool × MessageLayerSecurityChannel η
  | 0, s => (true, s)
  | k + 1, s =>
    match s.mReceiveStreamEncoded.readBuffer with
    | (none, _) => (true, s)
    | (some (streamBuffer, streamHeader), stream) =>
      let s := { s with mReceiveStreamEncoded := stream }
      match decodeBuffer c s.mReceiveKeys streamBuffer with
      | .failed errorCode reason => (false, (s.setError errorCode reason).cancel)
      | .plain output keys =>
        receiveLoop c keying k
          { s with
            mReceiveKeys := keys
            mReceiveStreamDecoded := s.mReceiveStreamDecoded.write output streamHeader }
      | .keying =>
        let r := keying s (some streamBuffer)
        if r.1 then receiveLoop c keying k r.2.2 else r.2

/-- Whether what is needed to decode keying is there. -/
def hasReceiveInformation (s : MessageLayerSecurityChannel η) : Bool :=
  (match s.mReceiveDecodingType with
    | .unknown => true
    | .privateKey => s.mReceiveDecodingPrivateKey
    | .passphrase => s.mReceivingDecodingPassphrase ≠ "") && s.mReceiveSigningPublicKey

/-- The part of the receive step after a waiting keying document. -/
def receiveBuffers (c : Crypto) (keying : ProcessReceiveKeying η) (s : MessageLayerSecurityChannel η) :
    Bool × MessageLayerSecurityChannel η :=
  if s.mReceiveStreamEncoded.getTotalReadBuffersAvailable < 1 then (true, s) else
  if s.mRemoteContextID ≠ "" ∧ s.mReceiveKeys.length < 1 ∧ ¬s.hasReceiveInformation then
    (true, { s with mCurrentState := .waitingForNeededInformation })
  else
    receiveLoop c keying s.mReceiveStreamEncoded.getTotalReadBuffersAvailable s

def stepReceive (c : Crypto) (keying : ProcessReceiveKeying η) (s : MessageLayerSecurityChannel η) :
    Bool × MessageLayerSecurityChannel η :=
  if ¬s.mReceiveStreamDecodedWriteReady then (true, s) else
  if s.mReceiveKeyingSigned then
    if ¬s.mReceiveSigningPublicKey then
      (true, { s with mCurrentState := .waitingForNeededInformation })
    else
      let r := keying s none
      if r.1 then receiveBuffers c keying r.2.2 else r.2
  else
    receiveBuffers c keying s

/-- The loop over the buffers to send; the indexes are those the random choice gives, and the
outer `none` is the exception of a choice for which there is no key. -/
def sendLoop (c : Crypto) : Nat → List Nat → MessageLayerSecurityChannel η →
    Option (MessageLayerSecurityChannel η)
  | 0, _, s => some s
  | k + 1, choices, s =>
    match s.mSendStreamDecoded.readBuffer with
    | (none, _) => some s
    | (some (buffer, header), stream) =>
      match encodeBuffer c s.mSendKeys (choices.headD 1) buffer with
      | none => none
      | some (output, keys) =>
        sendLoop c k choices.tail
          { s with
            mSendStreamDecoded := stream
            mSendKeys := keys
            mSendStreamEncoded := s.mSendStreamEncoded.write output header }

/-- Encrypt all that is to be sent; `false` when there are no keys yet. -/
def stepSend (c : Crypto) (choices : List Nat) (s : MessageLayerSecurityChannel η) :
    Option (Bool × MessageLayerSecurityChannel η) :=
  if s.mSendKeys.length < 1 then some (false, s) else
  (sendLoop c s.mSendStreamDecoded.getTotalReadBuffersAvailable choices s).map fun s => (true, s)

/-- A choice of `Helper::random(1, size)`, made of the value drawn. -/
def random (minValue maxValue value : Nat) : Nat :=
  if minValue = maxValue then minValue else minValue + value % (maxValue - minValue)

theorem random_range (size value : Nat) (h : 0 < size) : 1 ≤ random 1 size value ∧ random 1 size value ≤ size := by
  unfold random
  split
  · omega
  · have hlt := Nat.mod_lt value (show 0 < size - 1 by omega)
    omega

/-- The decoded receive stream can be written. -/
def onReceiveStreamDecodedReady (s : MessageLayerSecurityChannel η) : MessageLayerSecurityChannel η :=
  { s with
    mReceiveStreamDecodedWriteReady := true
    mReceiveStreamEncoded := s.mReceiveStreamEncoded.notifyReaderReadyToRead }

end MessageLayerSecurityChannel

end OpenPeer
