import OpenPeer.RUDPChannelNumbers
import OpenPeer.STUNPacketExchange
import OpenPeer.STUNPacketIntegrity
import OpenPeer.STUNPacketPacketize

/-!
# Acknowledgements outside data packets

How a channel fills a STUN packet with the receive state of its stream, and what
its peer asks of such a packet before it hands the state to its own stream. An
attribute is there when its number is not zero, so what the peer asks for rests on
the numbers of the stream.
-/
namespace OpenPeer

open RUDPPacket Runs STUNPacket

section Channel

/-- What a channel keeps for its acknowledgements. -/
structure RUDPChannel where
  mLocalUsernameFrag : List UInt8
  mLocalPassword : List UInt8
  mRemoteUsernameFrag : List UInt8
  mRemotePassword : List UInt8
  mRealm : List UInt8
  mNonce : List UInt8
  mIncomingChannelNumber : UInt16
  mStream : Option RUDPChannelStream
  deriving DecidableEq, Repr

/-- The byte between the two parts of a user name. -/
def colon : List UInt8 := [0x3A]

/-- The flags of an acknowledgement, as they are written into a packet. -/
def reliabilityFlags (a : Ack) : UInt8 :=
  (if a.vpFlag then vpVectorParity else 0) ||| (if a.pgFlag then Flags.bit .pgParityGSNR else 0) |||
    (if a.xpFlag then Flags.bit .xpXORedParityToGSNFR else 0) |||
    (if a.dpFlag then Flags.bit .dpDuplicatePacket else 0) ||| (if a.ecFlag then Flags.bit .ecECNPacket else 0)

namespace RUDPChannel

variable (ext : Externals) (channel : RUDPChannel)

def fillCredentials (stun : STUNPacket) : STUNPacket :=
  let asked := stun.mClass == .request || stun.mClass == .indication
  { stun with
    mUsername :=
      if asked then channel.mRemoteUsernameFrag ++ colon ++ channel.mLocalUsernameFrag
      else channel.mLocalUsernameFrag ++ colon ++ channel.mRemoteUsernameFrag
    mPassword := if asked then channel.mRemotePassword else channel.mLocalPassword
    mRealm := channel.mRealm
    mNonce := channel.mNonce
    mCredentialMechanism := if channel.mRealm ≠ [] then .longTerm else .shortTerm }

/-- The packet with numbers that are none yet, for the room it leaves to a vector. -/
def prefillACK (stun : STUNPacket) : STUNPacket :=
  { channel.fillCredentials stun with
    mSoftware := []
    mNextSequenceNumber := 1
    mGSNR := 1
    mGSNFR := 1
    mChannelNumber := channel.mIncomingChannelNumber
    mReliabilityFlagsIncluded := true
    mReliabilityFlags := 0 }

/-- The packet with the receive state of the stream. -/
def putState (a : Ack) (stun : STUNPacket) : STUNPacket :=
  { stun with
    mNextSequenceNumber := UInt64.ofNat a.nextSequenceNumber
    mGSNR := UInt64.ofNat a.gsnr
    mGSNFR := UInt64.ofNat a.gsnfr
    mACKVector := a.vector
    mReliabilityFlagsIncluded := true
    mReliabilityFlags := reliabilityFlags a }

def fillACK (stun : STUNPacket) : Except Fault (STUNPacket × RUDPChannel) :=
  match channel.mStream with
  | none => .error .invalidAssumption
  | some stream =>
    let stun := channel.prefillACK stun
    let available := stun.getTotalRoomAvailableForData ext maxPacketSizeWhenPMTUIsNotKnown .draftRUDP
    .ok (putState (stream.getState available) stun,
      { channel with mStream := some stream.notifyExternalACKSent })

end RUDPChannel

/-- The attributes without which an acknowledgement is refused. -/
def mandatoryAttributes : List Attributes := [.nextSequenceNumber, .gsnr, .gsnfr, .rudpFlags]

/-- What a channel hands to its stream of an acknowledgement, when nothing is missing. -/
def receivedAck (ext : Externals) (stun : STUNPacket) : Option Ack :=
  if mandatoryAttributes.all (stun.hasAttribute ext) then
    some {
      nextSequenceNumber := stun.mNextSequenceNumber.toNat
      gsnr := stun.mGSNR.toNat
      gsnfr := stun.mGSNFR.toNat
      vector := if stun.hasAttribute ext .ackVector then stun.mACKVector else []
      vpFlag := stun.mReliabilityFlags &&& vpVectorParity != 0
      pgFlag := stun.mReliabilityFlags &&& Flags.bit .pgParityGSNR != 0
      xpFlag := stun.mReliabilityFlags &&& Flags.bit .xpXORedParityToGSNFR != 0
      dpFlag := stun.mReliabilityFlags &&& Flags.bit .dpDuplicatePacket != 0
      ecFlag := stun.mReliabilityFlags &&& Flags.bit .ecECNPacket != 0 }
  else none

/-- A packet that is to be filled: a new request, a new indication, or the response to a request. -/
inductive AckPacket : STUNPacket → Prop where
  | request (transactionID : Vector UInt8 12) : AckPacket (.createRequest .reliableChannelACK transactionID)
  | indication (transactionID : Vector UInt8 12) : AckPacket (.createIndication .reliableChannelACK transactionID)
  | response (request : STUNPacket) (h : request.mMethod = .reliableChannelACK) : AckPacket (.createResponse request)

/-- The packet as it is written: a response has its user name, realm and nonce for the key alone. -/
def asWritten (stun : STUNPacket) : STUNPacket :=
  if stun.mClass = .response then { stun with mUsername := [], mRealm := [], mNonce := [] } else stun

/-- The packet is one its peer accepts: as it is written it is legal, and what it has beyond that is
not written; nothing mandatory is missing, and what the peer hands to its stream is the state
reported. -/
structure AckAccepted (ext : Externals) (s : RUDPChannelStream) (filled : STUNPacket) : Prop where
  legal : (asWritten filled).isLegal ext .draftRUDP = true
  unwritten : filled.mClass = .response →
    ∀ attr ∈ [Attributes.username, .realm, .nonce], shouldPacketizeAttribute ext filled .draftRUDP attr = false
  state : ∃ room, receivedAck ext filled = some (s.getState room)

/-- The attributes that no packet of this RFC has. -/
def foreignAttributes : List Attributes :=
  [.mappedAddress, .xorMappedAddress, .xorPeerAddress, .data, .xorRelayedAddress, .evenPort, .requestedTransport,
    .dontFragment, .reservationToken, .priority, .useCandidate, .iceControlled, .iceControlling]

theorem known_draftRUDP (attr : Attributes) :
    isAttributeKnown (RFCs.bit .draftRUDP) attr = decide (attr ∉ foreignAttributes) := by
  cases attr <;> rfl

theorem legalMethod_ack (c : Classes) : isLegalMethod .reliableChannelACK c (RFCs.bit .draftRUDP) = true := by
  cases c <;> rfl

theorem mechanism_filled (realm : List UInt8) :
    (if realm = [] then CredentialMechanisms.shortTerm else .longTerm) ≠ .none := by
  by_cases h : realm = []
  · simp [h]
  · simp [h]

theorem flags_read : ∀ vp pg xp dp ec : Bool,
    let flags := (if vp then vpVectorParity else 0) ||| (if pg then Flags.bit .pgParityGSNR else 0) |||
      (if xp then Flags.bit .xpXORedParityToGSNFR else 0) ||| (if dp then Flags.bit .dpDuplicatePacket else 0) |||
      (if ec then Flags.bit .ecECNPacket else 0)
    (flags &&& vpVectorParity != 0) = vp ∧ (flags &&& Flags.bit .pgParityGSNR != 0) = pg ∧
      (flags &&& Flags.bit .xpXORedParityToGSNFR != 0) = xp ∧ (flags &&& Flags.bit .dpDuplicatePacket != 0) = dp ∧
      (flags &&& Flags.bit .ecECNPacket != 0) = ec := by
  decide

section Filled

variable {ext : Externals} (channel : RUDPChannel) {stun : STUNPacket} {a : Ack}

/-- The numbers of a state that a packet can carry: none is zero, and all have room. -/
def Ack.Carriable (a : Ack) : Prop :=
  (0 < a.nextSequenceNumber ∧ a.nextSequenceNumber < 2 ^ 64) ∧ (0 < a.gsnr ∧ a.gsnr < 2 ^ 64) ∧
    (0 < a.gsnfr ∧ a.gsnfr < 2 ^ 64)

theorem number_read {n : Nat} (h : 0 < n ∧ n < 2 ^ 64) : UInt64.ofNat n ≠ 0 ∧ (UInt64.ofNat n).toNat = n := by
  have hread : (UInt64.ofNat n).toNat = n := UInt64.toNat_ofNat_of_lt' h.2
  refine ⟨fun hzero => ?_, hread⟩
  rw [hzero] at hread
  exact absurd hread.symm (Nat.pos_iff_ne_zero.mp h.1)

theorem vector_read (vector : List UInt8) : (if !vector.isEmpty then vector else []) = vector := by
  cases vector <;> rfl

theorem receivedAck_putState (h : a.Carriable) (stun : STUNPacket) :
    receivedAck ext (RUDPChannel.putState a stun) = some a := by
  obtain ⟨hnext, hgsnr, hgsnfr⟩ := h
  obtain ⟨hnext, hnext'⟩ := number_read hnext
  obtain ⟨hgsnr, hgsnr'⟩ := number_read hgsnr
  obtain ⟨hgsnfr, hgsnfr'⟩ := number_read hgsnfr
  obtain ⟨hvp, hpg, hxp, hdp, hec⟩ := flags_read a.vpFlag a.pgFlag a.xpFlag a.dpFlag a.ecFlag
  have hall : mandatoryAttributes.all ((RUDPChannel.putState a stun).hasAttribute ext) = true := by
    simp [mandatoryAttributes, hasAttribute, RUDPChannel.putState, hnext, hgsnr, hgsnfr]
  have hvector : (if (RUDPChannel.putState a stun).hasAttribute ext .ackVector then
      (RUDPChannel.putState a stun).mACKVector else []) = a.vector := vector_read a.vector
  rw [receivedAck, if_pos hall, hvector]
  simp only [RUDPChannel.putState, reliabilityFlags, hnext', hgsnr', hgsnfr', hvp, hpg, hxp, hdp, hec]

variable (hempty : ext.isAddressEmpty .empty = true) (hincoming : channel.mIncomingChannelNumber ≠ 0) (h : a.Carriable)
include hempty hincoming h

/-- A packet that is filled is legal, whatever the realm and the nonce. A response has a user name for
its key, which no response may carry; without it the response is legal. -/
theorem legal_filled (hpacket : AckPacket stun) :
    (asWritten (RUDPChannel.putState a (channel.prefillACK stun))).isLegal ext .draftRUDP = true := by
  have hnext := (number_read h.1).1
  have hgsnr := (number_read h.2.1).1
  have hgsnfr := (number_read h.2.2).1
  have hmechanism := mechanism_filled channel.mRealm
  rw [isLegal, List.all_eq_true]
  intro attr _
  cases hpacket with
  | request t =>
    simp only [asWritten, RUDPChannel.putState, RUDPChannel.prefillACK, RUDPChannel.fillCredentials,
      createRequest]
    cases attr <;>
      simp [hasAttribute, isAttributeLegal, isAttributeRequired, legalMethod_ack, known_draftRUDP,
        foreignAttributes, colon, hempty, hincoming, hnext, hgsnr, hgsnfr, hmechanism]
  | indication t =>
    simp only [asWritten, RUDPChannel.putState, RUDPChannel.prefillACK, RUDPChannel.fillCredentials,
      createIndication, createRequest]
    cases attr <;>
      simp [hasAttribute, isAttributeLegal, isAttributeRequired, legalMethod_ack, known_draftRUDP,
        foreignAttributes, colon, hempty, hincoming, hnext, hgsnr, hgsnfr, hmechanism]
  | response request hmethod =>
    simp only [asWritten, RUDPChannel.putState, RUDPChannel.prefillACK, RUDPChannel.fillCredentials,
      createResponse]
    cases attr <;>
      simp [hasAttribute, isAttributeLegal, isAttributeRequired, legalMethod_ack, known_draftRUDP,
        foreignAttributes, hempty, hincoming, hnext, hgsnr, hgsnfr, hmethod]

end Filled

theorem response_credentials (ext : Externals) {filled : STUNPacket} (hclass : filled.mClass = .response)
    {attr : Attributes} (hattr : attr ∈ [Attributes.username, .realm, .nonce]) :
    shouldPacketizeAttribute ext filled .draftRUDP attr = false := by
  have hlegal : isAttributeLegal ext filled .draftRUDP attr = false := by
    have hcases : attr = .username ∨ attr = .realm ∨ attr = .nonce := by simpa using hattr
    obtain rfl | rfl | rfl := hcases <;> simp [isAttributeLegal, hclass]
  simp [shouldPacketizeAttribute, hlegal]

end Channel

section Accepted

variable (ext : Externals) (hempty : ext.isAddressEmpty .empty = true) (channel : RUDPChannel)
include hempty

theorem accepted_of_carriable (hincoming : channel.mIncomingChannelNumber ≠ 0) {stream : RUDPChannelStream}
    (hstream : channel.mStream = some stream) {stun : STUNPacket} (hpacket : AckPacket stun)
    (hnext : 0 < stream.mNextSequenceNumber ∧ stream.mNextSequenceNumber < 2 ^ 64)
    (hgsnr : 0 < stream.mGSNR ∧ stream.mGSNR < 2 ^ 64) (hgsnfr : 0 < stream.mGSNFR ∧ stream.mGSNFR < 2 ^ 64) :
    ∃ filled, channel.fillACK ext stun = .ok (filled, { channel with mStream := some stream.notifyExternalACKSent }) ∧
      AckAccepted ext stream filled := by
  have hcarriable : ∀ room, (stream.getState room).Carriable := fun room => ⟨hnext, hgsnr, hgsnfr⟩
  refine ⟨_, by rw [RUDPChannel.fillACK, hstream], ?_⟩
  generalize (channel.prefillACK stun).getTotalRoomAvailableForData ext maxPacketSizeWhenPMTUIsNotKnown .draftRUDP = room
  exact {
    legal := legal_filled channel hempty hincoming (hcarriable room) hpacket
    unwritten := fun hclass attr hattr => response_credentials ext hclass hattr
    state := ⟨room, receivedAck_putState (hcarriable room) _⟩ }

/-- Every acknowledgement of a channel whose stream has run in any way is accepted by its peer, when
the peer's first number was not one, or its first packet has been handed over. -/
theorem external_ack_accepted (hincoming : channel.mIncomingChannelNumber ≠ 0) (now : Int)
    (localStart remoteStart : Nat) (sendingChannelNumber receivingChannelNumber : UInt16) (minimumRTT : Nat)
    (events : List RUDPChannelEvent) (stream : RUDPChannelStream)
    (hrun : stream = (run RUDPChannelEndpoint.step (.create (.create now localStart remoteStart sendingChannelNumber
      receivingChannelNumber minimumRTT)) events).stream)
    (hlocal : 0 < localStart) (hremote : 1 < remoteStart ∨ 0 < stream.mGSNFR)
    (hroom : stream.mNextSequenceNumber < 2 ^ 64 ∧ stream.mGSNR < 2 ^ 64)
    (hstream : channel.mStream = some stream) (stun : STUNPacket) (hpacket : AckPacket stun) :
    ∃ filled, channel.fillACK ext stun = .ok (filled, { channel with mStream := some stream.notifyExternalACKSent }) ∧
      AckAccepted ext stream filled := by
  have hstarted : StartedAt localStart remoteStart stream := by
    rw [hrun]
    exact run_startedAt now localStart remoteStart sendingChannelNumber receivingChannelNumber minimumRTT events
  have hle := hstarted.order.le
  have hsent := hstarted.sent
  have hreceived := hstarted.received
  have hgsnfr : 0 < stream.mGSNFR := by omega
  exact accepted_of_carriable ext hempty channel hincoming hstream hpacket ⟨by omega, hroom.1⟩ ⟨by omega, hroom.2⟩
    ⟨hgsnfr, by omega⟩

end Accepted

/-- A stream that has received nothing from a peer whose first number is two. -/
def unheardStream : RUDPChannelStream := .create 0 7 2 0x6001 0x6002 0

/-- A channel of short-term credentials. -/
def shortTermChannel : RUDPChannel where
  mLocalUsernameFrag := STUNPacket.ascii "local"
  mLocalPassword := STUNPacket.ascii "lpass"
  mRemoteUsernameFrag := STUNPacket.ascii "remote"
  mRemotePassword := STUNPacket.ascii "rpass"
  mRealm := []
  mNonce := []
  mIncomingChannelNumber := 0x6002
  mStream := some unheardStream

theorem external_ack_accepted_unheard :
    ∃ filled, shortTermChannel.fillACK plainExternals (.createRequest .reliableChannelACK (Vector.replicate 12 1)) =
        .ok (filled, { shortTermChannel with mStream := some unheardStream.notifyExternalACKSent }) ∧
      AckAccepted plainExternals unheardStream filled :=
  external_ack_accepted plainExternals rfl shortTermChannel (by decide) 0 7 2 0x6001 0x6002 0 [] unheardStream rfl
    (by decide) (.inl (by decide)) (by decide) rfl _ (.request _)

/-- A response that is filled is not legal as it stands: it has a user name. -/
theorem filled_response_illegal : ∃ filled channel,
    shortTermChannel.fillACK plainExternals
        (.createResponse (.createRequest .reliableChannelACK (Vector.replicate 12 1))) = .ok (filled, channel) ∧
      filled.isLegal plainExternals .draftRUDP = false :=
  ⟨_, _, rfl, by decide⟩

end OpenPeer
