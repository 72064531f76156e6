import OpenPeer.Bytes
import OpenPeer.Runs

/-!
# Sending to a TURN server over TCP

A packet is given to the TCP socket as a whole, or what the socket does not take of it is put
into the write buffer, behind what waits there already. A packet for which there is no room
is refused. The delegate is told when it may write again, but not when a buffer that was
full is empty again.
-/
namespace OpenPeer.TURNSocketSending

open Bytes

/-- `sizeof(mWriteBuffer)` -/
def writeBufferSize : Nat := 65535 + 4

/-- What is sent to a peer: data on a channel that is bound, or else a STUN packet. -/
inductive Packet where
  | channelData (channel : UInt16) (data : List UInt8)
  | stun (bytes : List UInt8)
  deriving DecidableEq

/-- Channel data is padded with zeros to a multiple of four. -/
def Packet.bytes : Packet → List UInt8
  | channelData channel data =>
    toBE 2 channel.toNat ++ (toBE 2 data.length ++ (data ++ zeros (dwordBoundary data.length - data.length)))
  | stun bytes => bytes

/-- The connection to a server, the delegate of which lives. -/
structure TURNSocket where
  isShutdown : Bool := false
  isReady : Bool := false
  /-- The server is the active one. -/
  mActiveServer : Bool := false
  mIsConnected : Bool := false
  mInformedWriteReady : Bool := false
  /-- The bytes of the write buffer that are filled. -/
  mWriteBuffer : List UInt8 := []
  /-- What the TCP socket has taken. -/
  wire : List UInt8 := []
  /-- The packets for which sending returned true. -/
  packets : List (List UInt8) := []
  /-- A packet of the delegate was refused for lack of room, and the delegate was not told since that it may write. -/
  owed : Bool := false
  /-- The TCP socket threw. -/
  failed : Bool := false

inductive Event where
  /-- A packet of the delegate; the TCP socket takes so many bytes at most, or throws. -/
  | sendPacket (packet : Packet) (accepts : Option Nat)
  /-- A packet of the delegate that has to wait for its permission. -/
  | queuePacket
  /-- A request of a requester, or a packet that has waited for its permission. -/
  | sendRequest (bytes : List UInt8) (accepts : Option Nat)
  | onWriteReady (accepts : Option Nat)
  /-- The server becomes the active one. -/
  | allocated
  | shutdown

namespace TURNSocket

variable (s : TURNSocket) (buffer : List UInt8)

def informWriteReady : TURNSocket :=
  if s.isShutdown ∨ !s.mActiveServer ∨ s.mInformedWriteReady then s
  else { s with mInformedWriteReady := true, owed := false }

/-- What `sendPacket` does first, since it may be called when the delegate is told. -/
def clearInformed : TURNSocket := if s.mActiveServer then { s with mInformedWriteReady := false } else s

/-- The socket throws, and the TURN socket is cancelled. -/
def fail : TURNSocket := { s with failed := true, isReady := false }

/-- The TCP socket takes some bytes. -/
def give (bytes : List UInt8) : TURNSocket := { s with wire := s.wire ++ bytes }

/-- There is room for the bytes behind those that wait. -/
def hasRoom : Bool := buffer.length + s.mWriteBuffer.length < writeBufferSize

/-- The bytes are sent when nothing waits. -/
def sendDirectly (accepts : Option Nat) : TURNSocket × Bool :=
  match accepts with
  | none => (s.fail, false)
  | some n =>
    let sent := min n buffer.length
    if sent ≠ buffer.length then ({ s.give (buffer.take sent) with mWriteBuffer := buffer.drop sent }, true)
    else ((s.give buffer).informWriteReady, true)

/-- The bytes that wait are sent, the new ones among them if there was room. -/
def sendWaiting (wasRoom : Bool) (accepts : Option Nat) : TURNSocket × Bool :=
  match accepts with
  | none => (s.fail, false)
  | some n =>
    let sent := min n s.mWriteBuffer.length
    if sent = s.mWriteBuffer.length then ({ s.give s.mWriteBuffer with mWriteBuffer := [] }, wasRoom)
    else
      let s : TURNSocket := { s.give (s.mWriteBuffer.take sent) with mWriteBuffer := s.mWriteBuffer.drop sent }
      (if s.mWriteBuffer = [] then s.informWriteReady else s, wasRoom)

def append : TURNSocket := if s.hasRoom buffer then { s with mWriteBuffer := s.mWriteBuffer ++ buffer } else s

/-- `sendPacketOverTCPOrDropIfBufferFull`, with no bytes when there is only to be sent what waits. -/
def sendPacketOverTCP (accepts : Option Nat) : TURNSocket × Bool :=
  if s.isShutdown ∨ !s.mIsConnected then (s, false)
  else if buffer.length > writeBufferSize then (s, false)
  else if s.mWriteBuffer = [] then if buffer = [] then (s, true) else s.sendDirectly buffer accepts
  else
    let wasRoom := s.hasRoom buffer && buffer ≠ []
    let s : TURNSocket := s.append buffer
    if s.mWriteBuffer = [] then (s.informWriteReady, wasRoom) else s.sendWaiting wasRoom accepts

/-- Bytes wait, and with them the new ones do not fit. -/
def lacksRoom : Bool :=
  !s.isShutdown && s.mIsConnected && buffer.length ≤ writeBufferSize && s.mWriteBuffer ≠ [] && !s.hasRoom buffer

/-- The packet is taken down if it was sent. -/
def record (sent : TURNSocket × Bool) : TURNSocket :=
  if sent.2 then { sent.1 with packets := sent.1.packets ++ [buffer] } else sent.1

def take : Event → TURNSocket
  | .sendPacket packet accepts =>
    let s := s.clearInformed
    if !s.isReady then s
    else
      let sent := s.sendPacketOverTCP packet.bytes accepts
      if s.lacksRoom packet.bytes then { record packet.bytes sent with owed := true } else record packet.bytes sent
  | .queuePacket => s.clearInformed
  | .sendRequest bytes accepts => record bytes (s.sendPacketOverTCP bytes accepts)
  | .onWriteReady accepts =>
    if s.isShutdown then s else (sendPacketOverTCP { s with mIsConnected := true } [] accepts).1
  | .allocated => informWriteReady { s with isReady := true, mActiveServer := true }
  | .shutdown => { s with isShutdown := true, isReady := false }

/-- All the bytes that wait are taken, the new ones among them. -/
def drains (accepts : Option Nat) : Bool :=
  !s.isShutdown && s.mIsConnected && buffer.length ≤ writeBufferSize && s.mWriteBuffer ≠ [] &&
    accepts.any fun n => (s.append buffer).mWriteBuffer.length ≤ n

/-- While the delegate has not been told since a packet of it was refused, the write buffer is not emptied. -/
def orderly : Event → Bool
  | .sendPacket packet accepts =>
    !s.isReady || !s.drains packet.bytes accepts || !(s.owed || s.lacksRoom packet.bytes)
  | .sendRequest bytes accepts => !s.drains bytes accepts || !s.owed
  | .onWriteReady accepts => !drains { s with mIsConnected := true } [] accepts || !s.owed
  | .queuePacket | .allocated | .shutdown => true

/-- What the TCP socket has taken and what waits are the packets for which sending returned true, the buffer does not
overflow, and the delegate is told that it may write when the buffer has drained after a refusal. -/
structure Whole (s : TURNSocket) : Prop where
  stream : s.failed = false → s.wire ++ s.mWriteBuffer = s.packets.flatten
  fits : s.mWriteBuffer.length ≤ writeBufferSize
  told : s.owed = true → s.mWriteBuffer ≠ []

section Sending

variable {s buffer}

theorem channelData_padded (channel : UInt16) (data : List UInt8) :
    (Packet.channelData channel data).bytes.length % 4 = 0 := by
  have hle := le_dwordBoundary data.length
  have hmod := dwordBoundary_mod data.length
  simp only [Packet.bytes, List.length_append, length_toBE, length_zeros]
  omega

/-- What an attempt to send does to the stream of bytes: it has the new ones at the end if they were sent. -/
structure Sends (s : TURNSocket) (buffer : List UInt8) (sent : TURNSocket × Bool) : Prop where
  packets : sent.1.packets = s.packets
  fits : s.mWriteBuffer.length ≤ writeBufferSize → sent.1.mWriteBuffer.length ≤ writeBufferSize
  stream : sent.1.failed = false → s.failed = false ∧
    sent.1.wire ++ sent.1.mWriteBuffer = s.wire ++ s.mWriteBuffer ++ if sent.2 then buffer else []

theorem Sends.refused (s : TURNSocket) (buffer : List UInt8) : Sends s buffer (s, false) :=
  ⟨rfl, id, fun hfailed => ⟨hfailed, (List.append_nil _).symm⟩⟩

theorem Sends.failed (s : TURNSocket) (buffer : List UInt8) : Sends s buffer (s.fail, false) :=
  ⟨rfl, id, fun hfailed => by cases hfailed⟩

theorem informWriteReady_eq (s : TURNSocket) : ∃ informed owed, s.informWriteReady =
    { s with mInformedWriteReady := informed, owed := owed } ∧ (owed = true → s.owed = true) := by
  unfold informWriteReady
  split
  · exact ⟨s.mInformedWriteReady, s.owed, rfl, id⟩
  · exact ⟨true, false, rfl, by simp⟩

theorem Sends.informed {sent : TURNSocket} {ok : Bool} (h : Sends s buffer (sent, ok)) :
    Sends s buffer (sent.informWriteReady, ok) := by
  obtain ⟨informed, owed, heq, -⟩ := informWriteReady_eq sent
  rw [heq]
  exact { h with }

theorem sends_sendDirectly (hempty : s.mWriteBuffer = []) (hsize : buffer.length ≤ writeBufferSize)
    (accepts : Option Nat) : Sends s buffer (s.sendDirectly buffer accepts) := by
  unfold sendDirectly
  cases accepts with
  | none => exact .failed s buffer
  | some n =>
    dsimp only
    split
    · refine ⟨rfl, fun _ => ?_, fun hfailed => ⟨hfailed, ?_⟩⟩
      · exact Nat.le_trans (by simp) hsize
      · simp [give, hempty]
    · apply Sends.informed
      refine ⟨rfl, id, fun hfailed => ⟨hfailed, ?_⟩⟩
      simp [give, hempty]

theorem sends_sendWaiting (wasRoom : Bool) (accepts : Option Nat) :
    Sends s [] (s.sendWaiting wasRoom accepts) ∧
      ((s.sendWaiting wasRoom accepts).1.failed = false → (s.sendWaiting wasRoom accepts).2 = wasRoom) := by
  unfold sendWaiting
  cases accepts with
  | none => exact ⟨.failed s [], fun hfailed => by cases hfailed⟩
  | some n =>
    dsimp only
    split
    · refine ⟨⟨rfl, fun _ => Nat.zero_le _, fun hfailed => ⟨hfailed, ?_⟩⟩, fun _ => rfl⟩
      simp [give]
    · have hsends : Sends s [] ({ s.give (s.mWriteBuffer.take (min n s.mWriteBuffer.length)) with
          mWriteBuffer := s.mWriteBuffer.drop (min n s.mWriteBuffer.length) }, wasRoom) := by
        refine ⟨rfl, fun hfits => Nat.le_trans (by simp) hfits, fun hfailed => ⟨hfailed, ?_⟩⟩
        simp [give]
      refine ⟨?_, fun _ => rfl⟩
      split
      · exact hsends.informed
      · exact hsends

theorem append_fits (hfits : s.mWriteBuffer.length ≤ writeBufferSize) :
    (s.append buffer).mWriteBuffer.length ≤ writeBufferSize := by
  unfold append hasRoom
  split
  next hroom =>
    rw [decide_eq_true_iff] at hroom
    rw [List.length_append]
    omega
  next => exact hfits

theorem append_ne_nil (hwaiting : s.mWriteBuffer ≠ []) : (s.append buffer).mWriteBuffer ≠ [] := by
  unfold append
  split
  · simp [hwaiting]
  · exact hwaiting

theorem sends_sendPacketOverTCP (s : TURNSocket) (buffer : List UInt8) (accepts : Option Nat) :
    Sends s buffer (s.sendPacketOverTCP buffer accepts) := by
  unfold sendPacketOverTCP
  split
  · exact .refused s buffer
  split
  · exact .refused s buffer
  next hsize =>
    split
    next hempty =>
      split
      next hnull =>
        refine ⟨rfl, id, fun hfailed => ⟨hfailed, ?_⟩⟩
        simp [hnull]
      next => exact sends_sendDirectly hempty (Nat.le_of_not_lt hsize) accepts
    next hwaiting =>
      dsimp only
      rw [if_neg (append_ne_nil hwaiting)]
      obtain ⟨hsends, hroom⟩ := sends_sendWaiting (s := s.append buffer) (s.hasRoom buffer && buffer ≠ []) accepts
      generalize (s.append buffer).sendWaiting _ accepts = sent at hsends hroom
      refine ⟨hsends.packets.trans ?_, fun hfits => hsends.fits (append_fits hfits), fun hfailed => ?_⟩
      · unfold append
        split
        · rfl
        · rfl
      · obtain ⟨hliving, hstream⟩ := hsends.stream hfailed
        rw [hstream, hroom hfailed]
        unfold append at hliving ⊢
        split at hliving
        next hfits =>
          refine ⟨hliving, ?_⟩
          by_cases hnull : buffer = []
          · simp [hnull]
          · simp [hfits, hnull]
        next hfull =>
          refine ⟨hliving, ?_⟩
          simp [hfull]

theorem append_owed : (s.append buffer).owed = s.owed := by
  unfold append
  split
  · rfl
  · rfl

theorem sendWaiting_waiting (hwaiting : s.mWriteBuffer ≠ []) (wasRoom : Bool) (accepts : Option Nat) :
    (s.sendWaiting wasRoom accepts).1.owed = s.owed ∧ ((s.sendWaiting wasRoom accepts).1.mWriteBuffer = [] ↔
      (accepts.any fun n => s.mWriteBuffer.length ≤ n) = true) := by
  have hpos : 0 < s.mWriteBuffer.length := List.length_pos_iff.mpr hwaiting
  unfold sendWaiting
  cases accepts with
  | none => exact ⟨rfl, by simp [fail, hwaiting]⟩
  | some n =>
    dsimp only
    split
    next hall =>
      refine ⟨rfl, ?_⟩
      simp only [Option.any_some, decide_eq_true_iff, true_iff]
      omega
    next hpart =>
      have hrest : s.mWriteBuffer.drop (min n s.mWriteBuffer.length) ≠ [] := by
        rw [Ne, List.drop_eq_nil_iff]
        omega
      rw [if_neg hrest]
      refine ⟨rfl, ?_⟩
      simp only [hrest, false_iff, Option.any_some, decide_eq_true_iff]
      omega

theorem sendPacketOverTCP_waiting (hwaiting : s.mWriteBuffer ≠ []) (accepts : Option Nat) :
    (s.sendPacketOverTCP buffer accepts).1.owed = s.owed ∧
      ((s.sendPacketOverTCP buffer accepts).1.mWriteBuffer = [] ↔ s.drains buffer accepts = true) := by
  unfold sendPacketOverTCP drains
  split
  next hclosed =>
    refine ⟨rfl, ?_⟩
    cases hclosed with
    | inl hshut => simp [hshut, hwaiting]
    | inr hconnected => simp at hconnected; simp [hconnected, hwaiting]
  next hopen =>
    obtain ⟨hshut, hconnected⟩ := not_or.mp hopen
    simp only [Bool.not_eq_true, Bool.not_eq_true', Bool.not_eq_false] at hshut hconnected
    split
    next hsize =>
      refine ⟨rfl, ?_⟩
      simp only [hwaiting, false_iff]
      simp [Nat.not_le_of_lt hsize]
    next hsize =>
      dsimp only
      rw [if_neg (append_ne_nil hwaiting)]
      have happended : (s.append buffer).mWriteBuffer ≠ [] := append_ne_nil hwaiting
      obtain ⟨howed, hempty⟩ := sendWaiting_waiting happended
        (s.hasRoom buffer && buffer ≠ []) accepts
      refine ⟨howed.trans append_owed, hempty.trans ?_⟩
      simp [hshut, hconnected, Nat.le_of_not_lt hsize, hwaiting]

theorem sendPacketOverTCP_empty (hempty : s.mWriteBuffer = []) (accepts : Option Nat)
    (howed : (s.sendPacketOverTCP buffer accepts).1.owed = true) : s.owed = true := by
  unfold sendPacketOverTCP at howed
  split at howed
  · exact howed
  split at howed
  · exact howed
  split at howed
  · exact howed
  · unfold sendDirectly at howed
    cases accepts with
    | none => exact howed
    | some n =>
      dsimp only at howed
      split at howed
      · exact howed
      · obtain ⟨informed, owed, heq, hkeep⟩ := informWriteReady_eq (s.give buffer)
        rw [heq] at howed
        exact hkeep howed

end Sending

section Steps

variable {s}

/-- The bytes are those of the packets that were sent, and fit. -/
structure Streams (s : TURNSocket) : Prop where
  stream : s.failed = false → s.wire ++ s.mWriteBuffer = s.packets.flatten
  fits : s.mWriteBuffer.length ≤ writeBufferSize

theorem Streams.record (h : Streams s) {bytes : List UInt8} {sent : TURNSocket × Bool} (hsends : Sends s bytes sent) :
    Streams (record bytes sent) := by
  have hfits := hsends.fits h.fits
  unfold TURNSocket.record
  split
  next hok =>
    refine ⟨fun hfailed => ?_, hfits⟩
    obtain ⟨hliving, hstream⟩ := hsends.stream hfailed
    simp only [hok, if_true] at hstream
    simp [hstream, h.stream hliving, hsends.packets]
  next hok =>
    refine ⟨fun hfailed => ?_, hfits⟩
    obtain ⟨hliving, hstream⟩ := hsends.stream hfailed
    simp only [hok, Bool.false_eq_true, if_false, List.append_nil] at hstream
    simp [hstream, h.stream hliving, hsends.packets]

theorem Streams.informWriteReady (h : Streams s) : Streams s.informWriteReady := by
  obtain ⟨informed, owed, heq, -⟩ := informWriteReady_eq s
  rw [heq]
  exact ⟨h.stream, h.fits⟩

theorem Streams.clearInformed (h : Streams s) : Streams s.clearInformed := by
  unfold TURNSocket.clearInformed
  split
  · exact ⟨h.stream, h.fits⟩
  · exact h

theorem Streams.take (h : Streams s) (event : Event) : Streams (s.take event) := by
  cases event with
  | sendPacket packet accepts =>
    have hsent := h.clearInformed.record (sends_sendPacketOverTCP s.clearInformed packet.bytes accepts)
    simp only [TURNSocket.take]
    split
    · exact h.clearInformed
    split
    · exact ⟨hsent.stream, hsent.fits⟩
    · exact hsent
  | queuePacket => exact h.clearInformed
  | sendRequest bytes accepts => exact h.record (sends_sendPacketOverTCP s bytes accepts)
  | onWriteReady accepts =>
    simp only [TURNSocket.take]
    split
    · exact h
    · have hconnected : Streams { s with mIsConnected := true } := ⟨h.stream, h.fits⟩
      have hsends := sends_sendPacketOverTCP { s with mIsConnected := true } [] accepts
      refine ⟨fun hfailed => ?_, hsends.fits h.fits⟩
      obtain ⟨hliving, hstream⟩ := hsends.stream hfailed
      rw [hstream, hsends.packets, ite_self, List.append_nil]
      exact hconnected.stream hliving
  | allocated =>
    have hactive : Streams { s with isReady := true, mActiveServer := true } := ⟨h.stream, h.fits⟩
    exact hactive.informWriteReady
  | shutdown => exact ⟨h.stream, h.fits⟩

/-- The delegate is not owed to be told when nothing waits. -/
def Told (s : TURNSocket) : Prop := s.owed = true → s.mWriteBuffer ≠ []

theorem told_clearInformed : Told s.clearInformed ↔ Told s := by
  unfold TURNSocket.clearInformed
  split
  · rfl
  · rfl

theorem told_sendPacketOverTCP (h : Told s) (buffer : List UInt8) (accepts : Option Nat) :
    Told (s.sendPacketOverTCP buffer accepts).1 ↔ (!s.drains buffer accepts || !s.owed) = true := by
  by_cases hempty : s.mWriteBuffer = []
  · have hidle : s.drains buffer accepts = false := by simp [drains, hempty]
    rw [hidle]
    simp only [Bool.not_false, Bool.true_or, iff_true]
    intro howed
    exact absurd hempty (h (sendPacketOverTCP_empty hempty accepts howed))
  · obtain ⟨howed, hdrained⟩ := @sendPacketOverTCP_waiting s buffer hempty accepts
    rw [Told, howed, Ne, hdrained]
    cases s.owed with
    | false => simp
    | true => simp

theorem told_record (bytes : List UInt8) (sent : TURNSocket × Bool) : Told (record bytes sent) ↔ Told sent.1 := by
  unfold record
  split
  · rfl
  · rfl

theorem record_mWriteBuffer (bytes : List UInt8) (sent : TURNSocket × Bool) :
    (record bytes sent).mWriteBuffer = sent.1.mWriteBuffer := by
  unfold record
  split
  · rfl
  · rfl

theorem clearInformed_eq (s : TURNSocket) :
    ∃ informed, s.clearInformed = { s with mInformedWriteReady := informed } := by
  unfold clearInformed
  split
  · exact ⟨false, rfl⟩
  · exact ⟨s.mInformedWriteReady, rfl⟩

theorem drains_informed (s : TURNSocket) (informed : Bool) (buffer : List UInt8) (accepts : Option Nat) :
    drains { s with mInformedWriteReady := informed } buffer accepts = s.drains buffer accepts := by
  have hsame : (append { s with mInformedWriteReady := informed } buffer).mWriteBuffer =
      (s.append buffer).mWriteBuffer := by
    unfold append
    rw [hasRoom, hasRoom]
    split
    · rfl
    · rfl
  rw [drains, drains, hsame]

theorem told_owed (hlacks : s.lacksRoom buffer = true) (accepts : Option Nat) :
    Told { record buffer (s.sendPacketOverTCP buffer accepts) with owed := true } ↔
      s.drains buffer accepts = false := by
  have hwaiting : s.mWriteBuffer ≠ [] := by
    intro hempty
    simp [lacksRoom, hempty] at hlacks
  obtain ⟨-, hdrained⟩ := @sendPacketOverTCP_waiting s buffer hwaiting accepts
  rw [Told, record_mWriteBuffer, Ne, hdrained]
  simp

/-- A step leaves the delegate told exactly when it is orderly. -/
theorem told_take (h : Told s) (event : Event) : Told (s.take event) ↔ s.orderly event = true := by
  cases event with
  | sendPacket packet accepts =>
    have hcleared := told_clearInformed.mpr h
    obtain ⟨informed, heq⟩ := clearInformed_eq s
    rw [heq] at hcleared
    simp only [take, orderly, heq, ← drains_informed s informed packet.bytes accepts]
    generalize hs' : { s with mInformedWriteReady := informed } = s' at hcleared
    have hready : s.isReady = s'.isReady := hs' ▸ rfl
    have hlacks : s.lacksRoom packet.bytes = s'.lacksRoom packet.bytes := hs' ▸ rfl
    have howed : s.owed = s'.owed := hs' ▸ rfl
    rw [hready, hlacks, howed]
    cases s'.isReady with
    | false => simp [hcleared]
    | true =>
      simp only [Bool.not_true, Bool.false_eq_true, if_false, Bool.false_or]
      cases hroom : s'.lacksRoom packet.bytes with
      | true =>
        rw [if_pos rfl, told_owed packet.bytes hroom]
        simp
      | false =>
        rw [if_neg Bool.false_ne_true, told_record, told_sendPacketOverTCP hcleared, Bool.or_false]
  | queuePacket =>
    simp only [take, orderly, iff_true]
    exact told_clearInformed.mpr h
  | sendRequest bytes accepts => exact (told_record bytes _).trans (told_sendPacketOverTCP h bytes accepts)
  | onWriteReady accepts =>
    have hconnected : Told { s with mIsConnected := true } := h
    simp only [take, orderly]
    split
    next hshut =>
      have hidle : drains { s with mIsConnected := true } [] accepts = false := by simp [drains, hshut]
      rw [hidle]
      simp only [Bool.not_false, Bool.true_or, iff_true]
      exact h
    next => exact told_sendPacketOverTCP hconnected [] accepts
  | allocated =>
    simp only [take, orderly, iff_true]
    obtain ⟨informed, owed, heq, hkeep⟩ := informWriteReady_eq { s with isReady := true, mActiveServer := true }
    rw [heq]
    exact fun howed => h (hkeep howed)
  | shutdown =>
    simp only [take, orderly, iff_true]
    exact h

theorem run_drained (first second : List UInt8) (hfirst : first.length = 60000) (hsecond : second.length = 10000) :
    Runs.run take {} [.onWriteReady (some 0), .allocated, .sendPacket (.stun first) (some 0),
      .sendPacket (.stun second) (some 0), .onWriteReady (some 60000), .onWriteReady (some 60000)] =
      { isReady := true, mActiveServer := true, mIsConnected := true, wire := first, packets := [first],
        owed := true } := by
  have hfirst' : first ≠ [] := List.ne_nil_of_length_pos (by omega)
  have hsecond' : second ≠ [] := List.ne_nil_of_length_pos (by omega)
  simp [take, sendPacketOverTCP, sendDirectly, sendWaiting, append, hasRoom, lacksRoom, record, give, clearInformed,
    informWriteReady, Packet.bytes, writeBufferSize, hfirst, hsecond, hfirst', hsecond']

end Steps

end TURNSocket

end OpenPeer.TURNSocketSending
