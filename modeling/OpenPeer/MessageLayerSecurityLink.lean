import OpenPeer.MessageLayerSecurityChannel
import OpenPeer.Runs

/-!
# Two channels that share their keys

A sender and a receiver whose keying is done, and a transport between them that
loses nothing and keeps the order. The records on their way are the encodings of
the buffers still to come, from the keys the receiver has to the keys the sender
has. The receiver asks for more than an integrity value in every record, so an
empty buffer, which the sender encodes, stops it.
-/
namespace OpenPeer

open Bytes Runs TransportStream

/-- A buffer of a stream with its header. -/
abbrev StreamRecord (η : Type) := List UInt8 × Option η

/-- The algorithm indexes are the numbers from one on. -/
def KeyMap.Indexed (keys : KeyMap) : Prop :=
  keys.map Prod.fst = List.range' 1 keys.length ∧ 0 < keys.length ∧ keys.length < 2 ^ 32

namespace KeyMap

theorem update_indexes (keys : KeyMap) (index : Nat) (key : KeyInfo) :
    (keys.update index key).map Prod.fst = keys.map Prod.fst := by
  simp only [update, List.map_map]
  refine List.map_congr_left fun e _ => ?_
  by_cases h : e.1 = index <;> simp [h]

@[simp] theorem update_length (keys : KeyMap) (index : Nat) (key : KeyInfo) :
    (keys.update index key).length = keys.length := by
  simp [update]

theorem Indexed.update {keys : KeyMap} (h : keys.Indexed) (index : Nat) (key : KeyInfo) :
    (keys.update index key).Indexed := by
  unfold Indexed
  rw [update_indexes, update_length]
  exact h

theorem Indexed.find {keys : KeyMap} (h : keys.Indexed) (index : Nat) (hlow : 1 ≤ index)
    (hhigh : index ≤ keys.length) : ∃ key, keys.find index = some key := by
  have hmem : index ∈ keys.map Prod.fst := by
    rw [h.1, List.mem_range'_1]
    omega
  obtain ⟨e, he, hindex⟩ := List.mem_map.mp hmem
  have hsome : (keys.find index).isSome := by
    rw [KeyMap.find, List.lookup_isSome_iff]
    exact ⟨e, he, by simp [hindex]⟩
  exact Option.isSome_iff_exists.mp hsome

theorem find_nonempty {keys : KeyMap} {index : Nat} {key : KeyInfo} (h : keys.find index = some key) :
    ¬keys.length < 1 := by
  cases keys with
  | nil => cases h
  | cons e es => simp

end KeyMap

section Encoding

variable (c : Crypto) {η : Type}

theorem Crypto.Laws.encrypt_eq_nil {c : Crypto} (h : c.Laws) (key iv buffer : List UInt8) :
    c.encrypt key iv buffer = [] ↔ buffer = [] := by
  constructor
  · intro hnil
    have hdecrypt := h.decrypt_encrypt key iv buffer
    have hdecryptNil := h.decrypt_encrypt key iv []
    rw [hnil] at hdecrypt
    rw [h.encrypt_nil] at hdecryptNil
    rw [← hdecrypt, hdecryptNil]
  · rintro rfl
    exact h.encrypt_nil key iv

/-- What the receive loop makes of an encoded buffer under the keys it was encoded with: the buffer
and the sender's next keys, except that it takes an encoding of nothing for a short record. -/
theorem decodeBuffer_encodeBuffer (hlaws : c.Laws) (keys keys' : KeyMap) (index : Nat)
    (buffer output : List UInt8) (hpos : 0 < index) (hlt : index < 2 ^ 32)
    (henc : encodeBuffer c keys index buffer = some (output, keys')) :
    decodeBuffer c keys output =
      if buffer = [] then .failed unauthorized "buffer is not decodable" else .plain buffer keys' := by
  obtain ⟨key, hfind, hpair⟩ := Option.map_eq_some_iff.mp henc
  simp only [Prod.mk.injEq] at hpair
  obtain ⟨houtput, hkeys⟩ := hpair
  have hindex : ofBE (output.take 4) = index := by
    rw [← houtput, List.append_assoc, List.take_left' (length_toBE 4 index)]
    exact ofBE_toBE_of_lt 4 index (by omega)
  have hsource : output.drop 4 = key.integrity c buffer ++ c.encrypt key.mSendKey key.mNextIV buffer := by
    rw [← houtput, List.append_assoc, List.drop_left' (length_toBE 4 index)]
  have hdigest : (key.integrity c buffer).length = c.getHashDigestSize := hlaws.length_hmac _ _
  have hlength : output.length
      = 4 + (c.getHashDigestSize + (c.encrypt key.mSendKey key.mNextIV buffer).length) := by
    rw [← houtput]
    simp [hdigest]
  have hempty := hlaws.encrypt_eq_nil key.mSendKey key.mNextIV buffer
  unfold decodeBuffer
  simp only [hindex, hsource, if_neg (Nat.ne_of_gt hpos), if_neg (KeyMap.find_nonempty hfind), hfind,
    List.take_left' hdigest, List.drop_left' hdigest, hlaws.decrypt_encrypt, hkeys, List.length_append, hdigest]
  by_cases hnil : buffer = []
  · have hzero : (c.encrypt key.mSendKey key.mNextIV buffer).length = 0 := by rw [hempty.mpr hnil]; rfl
    simp only [if_pos hnil, hzero, Nat.add_zero, le_refl, if_true, ite_self]
  · have hsome : 0 < (c.encrypt key.mSendKey key.mNextIV buffer).length :=
      List.length_pos_iff.mpr fun h => hnil (hempty.mp h)
    rw [if_neg (by omega), if_neg (by omega), if_neg hnil, if_neg (not_not_intro rfl)]

/-- The records are the buffers encoded in turn, each under the keys the one before left. -/
inductive Encodes : KeyMap → List (StreamRecord η) → List (StreamRecord η) → KeyMap → Prop
  | nil (keys : KeyMap) : Encodes keys [] [] keys
  | cons {keys keys' keys'' : KeyMap} {index : Nat} {buffer output : List UInt8} {header : Option η}
      {buffers records : List (StreamRecord η)} (hpos : 0 < index) (hlt : index < 2 ^ 32)
      (henc : encodeBuffer c keys index buffer = some (output, keys'))
      (hrest : Encodes keys' buffers records keys'') :
      Encodes keys ((buffer, header) :: buffers) ((output, header) :: records) keys''

theorem Encodes.append {keys keys' keys'' : KeyMap} {bs bs' rs rs' : List (StreamRecord η)}
    (h : Encodes c keys bs rs keys') (h' : Encodes c keys' bs' rs' keys'') :
    Encodes c keys (bs ++ bs') (rs ++ rs') keys'' := by
  induction h with
  | nil keys => exact h'
  | cons hpos hlt henc hrest ih => exact .cons hpos hlt henc (ih h')

theorem Encodes.nil_records {keys keys' : KeyMap} {bs : List (StreamRecord η)}
    (h : Encodes c keys bs [] keys') : bs = [] ∧ keys = keys' := by
  cases h
  exact ⟨rfl, rfl⟩

theorem encodeBuffer_indexed {keys : KeyMap} (h : keys.Indexed) (index : Nat) (buffer : List UInt8)
    (hlow : 1 ≤ index) (hhigh : index ≤ keys.length) :
    ∃ output keys', encodeBuffer c keys index buffer = some (output, keys') ∧ keys'.Indexed ∧
      keys'.length = keys.length := by
  obtain ⟨key, hfind⟩ := h.find index hlow hhigh
  exact ⟨_, _, by rw [encodeBuffer, hfind]; rfl, h.update _ _, by simp⟩

end Encoding

namespace MessageLayerSecurityChannel

variable {η : Type} (c : Crypto) (keying : ProcessReceiveKeying η) (s : MessageLayerSecurityChannel η)

/-- The send loop moves the buffers it takes, encoded, to the encoded stream, and nothing else. -/
theorem sendLoop_encodes (k : Nat) (choices : List Nat) (hdecoded : s.mSendStreamDecoded.Open)
    (hencoded : s.mSendStreamEncoded.Open) (hkeys : s.mSendKeys.Indexed)
    (hchoices : ∀ i ∈ choices, 1 ≤ i ∧ i ≤ s.mSendKeys.length) :
    ∃ decoded encoded keys buffers records,
      sendLoop c k choices s =
        some { s with mSendStreamDecoded := decoded, mSendKeys := keys, mSendStreamEncoded := encoded } ∧
      decoded.Open ∧ encoded.Open ∧ keys.Indexed ∧ keys.length = s.mSendKeys.length ∧
      Encodes c s.mSendKeys buffers records keys ∧
      s.mSendStreamDecoded.records = buffers ++ decoded.records ∧
      encoded.records = s.mSendStreamEncoded.records ++ records ∧
      decoded.records = s.mSendStreamDecoded.records.drop k := by
  induction k generalizing s choices with
  | zero =>
    exact ⟨s.mSendStreamDecoded, s.mSendStreamEncoded, s.mSendKeys, [], [], rfl, hdecoded, hencoded, hkeys, rfl,
      .nil _, rfl, (List.append_nil _).symm, rfl⟩
  | succ k ih =>
    cases hrecords : s.mSendStreamDecoded.records with
    | nil =>
      rw [sendLoop, readBuffer_empty hrecords]
      exact ⟨s.mSendStreamDecoded, s.mSendStreamEncoded, s.mSendKeys, [], [], rfl, hdecoded, hencoded, hkeys, rfl,
        .nil _, hrecords.symm, (List.append_nil _).symm, by simp [hrecords]⟩
    | cons r rest =>
      obtain ⟨hread, hrest⟩ := readBuffer_records hdecoded.alive r.1 r.2 rest hrecords
      have hpair : s.mSendStreamDecoded.readBuffer = (some (r.1, r.2), s.mSendStreamDecoded.readBuffer.2) :=
        Prod.ext hread rfl
      have hchoice : 1 ≤ choices.headD 1 ∧ choices.headD 1 ≤ s.mSendKeys.length := by
        cases choices with
        | nil => exact ⟨le_refl 1, hkeys.2.1⟩
        | cons i is => exact hchoices i List.mem_cons_self
      obtain ⟨output, keys', henc, hkeys', hlength⟩ :=
        encodeBuffer_indexed c hkeys (choices.headD 1) r.1 hchoice.1 hchoice.2
      obtain ⟨decoded, encoded, keys, buffers, records, hloop, hd, he, hk, hl, hencodes, htaken, hput, hleft⟩ :=
        ih { s with
              mSendStreamDecoded := s.mSendStreamDecoded.readBuffer.2
              mSendKeys := keys'
              mSendStreamEncoded := s.mSendStreamEncoded.write output r.2 }
          choices.tail hdecoded.readBuffer (hencoded.write _ _) hkeys'
          (fun i hi => hlength ▸ hchoices i (List.mem_of_mem_tail hi))
      refine ⟨decoded, encoded, keys, r :: buffers, (output, r.2) :: records, ?_, hd, he, hk, hl.trans hlength,
        .cons (by omega) (lt_of_le_of_lt hchoice.2 hkeys.2.2) henc hencodes, ?_, ?_, ?_⟩
      · rw [sendLoop, hpair]
        simp only [henc]
        exact hloop
      · rw [List.cons_append, ← htaken, hrest]
      · rw [hput, write_records hencoded, List.append_assoc]
        rfl
      · rw [hleft, hrest]
        rfl

/-- A receiver that has its keys and has met no error. -/
structure Receiving : Prop where
  alive : s.mCurrentState ≠ .shutdown
  noError : s.mLastError = 0
  noKeying : s.mReceiveKeyingSigned = false
  encoded : s.mReceiveStreamEncoded.Open
  decoded : s.mReceiveStreamDecoded.Open
  keyed : 0 < s.mReceiveKeys.length

/-- A receiver that was stopped by a record it could not decode. -/
structure Refused : Prop where
  state : s.mCurrentState = .shutdown
  error : s.mLastError = unauthorized
  noKeying : s.mReceiveKeyingSigned = false
  encoded : s.mReceiveStreamEncoded.mShutdown = true ∧ s.mReceiveStreamEncoded.records = []

theorem refused_of_receiving (h : Receiving s) (reason : String) :
    Refused (s.setError unauthorized reason).cancel := by
  refine ⟨rfl, ?_, rfl, rfl, rfl⟩
  simp [cancel, setError, h.noError]

theorem encodeBuffer_length {keys keys' : KeyMap} {index : Nat} {buffer output : List UInt8}
    (h : encodeBuffer c keys index buffer = some (output, keys')) : keys'.length = keys.length := by
  obtain ⟨key, -, hpair⟩ := Option.map_eq_some_iff.mp h
  simp only [Prod.mk.injEq] at hpair
  rw [← hpair.2, KeyMap.update_length]

/-- The receive loop delivers the buffers whose encodings it takes, until there is an empty one. -/
theorem receiveLoop_decodes (hlaws : c.Laws) (k : Nat) (buffers tail : List (StreamRecord η)) (keys : KeyMap)
    (h : Receiving s)
    (hencodes : Encodes c s.mReceiveKeys buffers (s.mReceiveStreamEncoded.records ++ tail) keys) :
    (∃ moved rest, buffers = moved ++ rest ∧ (∀ r ∈ moved, r.1 ≠ []) ∧ Receiving (receiveLoop c keying k s).2 ∧
      (receiveLoop c keying k s).2.mReceiveStreamDecoded.records = s.mReceiveStreamDecoded.records ++ moved ∧
      (receiveLoop c keying k s).2.mReceiveStreamEncoded.records = s.mReceiveStreamEncoded.records.drop k ∧
      Encodes c (receiveLoop c keying k s).2.mReceiveKeys rest
        ((receiveLoop c keying k s).2.mReceiveStreamEncoded.records ++ tail) keys) ∨
    ((∃ r ∈ buffers, r.1 = []) ∧ Refused (receiveLoop c keying k s).2) := by
  induction k generalizing s buffers with
  | zero => exact .inl ⟨[], buffers, rfl, by simp, h, (List.append_nil _).symm, rfl, hencodes⟩
  | succ k ih =>
    cases hrecords : s.mReceiveStreamEncoded.records with
    | nil =>
      rw [hrecords] at hencodes
      rw [receiveLoop, readBuffer_empty hrecords]
      refine .inl ⟨[], buffers, rfl, by simp, h, (List.append_nil _).symm, ?_, ?_⟩
      · rw [hrecords]
        rfl
      · rw [hrecords]
        exact hencodes
    | cons r rest =>
      obtain ⟨hread, hrest⟩ := readBuffer_records h.encoded.alive r.1 r.2 rest hrecords
      have hpair : s.mReceiveStreamEncoded.readBuffer = (some (r.1, r.2), s.mReceiveStreamEncoded.readBuffer.2) :=
        Prod.ext hread rfl
      rw [hrecords] at hencodes
      obtain ⟨record, header⟩ := r
      cases hencodes with
      | @cons _ keys' _ index buffer _ _ others _ hpos hlt henc hothers =>
      have hdecode := decodeBuffer_encodeBuffer c hlaws s.mReceiveKeys keys' index buffer record hpos hlt henc
      rw [receiveLoop, hpair]
      by_cases hnil : buffer = []
      · rw [if_pos hnil] at hdecode
        simp only [hdecode]
        refine .inr ⟨⟨(buffer, header), List.mem_cons_self, hnil⟩, refused_of_receiving _ ?_ _⟩
        exact { h with encoded := h.encoded.readBuffer }
      · rw [if_neg hnil] at hdecode
        simp only [hdecode]
        rcases ih { s with
              mReceiveStreamEncoded := s.mReceiveStreamEncoded.readBuffer.2
              mReceiveKeys := keys'
              mReceiveStreamDecoded := s.mReceiveStreamDecoded.write buffer header } others
            ⟨h.alive, h.noError, h.noKeying, h.encoded.readBuffer, h.decoded.write _ _,
              (encodeBuffer_length c henc) ▸ h.keyed⟩
            (by rw [hrest]; exact hothers) with
          ⟨moved, later, hsplit, hfull, hreceiving, hdelivered, hleft, hlater⟩ | ⟨⟨p, hp, hempty⟩, hrefused⟩
        · refine .inl ⟨(buffer, header) :: moved, later, ?_, ?_, hreceiving, ?_, ?_, hlater⟩
          · rw [hsplit, List.cons_append]
          · intro p hp
            rcases List.mem_cons.mp hp with rfl | hp
            · exact hnil
            · exact hfull p hp
          · rw [hdelivered, write_records h.decoded, List.append_assoc]
            rfl
          · rw [hleft, hrest]
            rfl
        · exact .inr ⟨⟨p, List.mem_cons_of_mem _ hp, hempty⟩, hrefused⟩

theorem stepReceive_receiving (h : Receiving s) (hready : s.mReceiveStreamDecodedWriteReady = true) :
    (stepReceive c keying s).2 = (receiveLoop c keying s.mReceiveStreamEncoded.records.length s).2 := by
  have hsize : s.mReceiveStreamEncoded.getTotalReadBuffersAvailable = s.mReceiveStreamEncoded.records.length := by
    simp [getTotalReadBuffersAvailable, records]
  have hkeyed : ¬s.mReceiveKeys.length < 1 := Nat.not_lt.mpr h.keyed
  rw [stepReceive, if_neg (not_not_intro hready), h.noKeying, if_neg Bool.false_ne_true, receiveBuffers, hsize]
  split
  next hnone =>
    rw [show s.mReceiveStreamEncoded.records.length = 0 by omega]
    rfl
  · rw [if_neg (by simp only [hkeyed, false_and, and_false, not_false_eq_true])]

end MessageLayerSecurityChannel

/-- The two ends, what was written on the sender and what was taken from the receiver. -/
structure MessageLayerSecurityLink (η : Type) where
  sender : MessageLayerSecurityChannel η
  receiver : MessageLayerSecurityChannel η
  written : List (StreamRecord η)
  taken : List (StreamRecord η)
  deriving DecidableEq, Repr

inductive MessageLayerSecurityEvent (η : Type) where
  | write (buffer : List UInt8) (header : Option η)
  /-- The send step, with the indexes it draws. -/
  | send (choices : List Nat)
  /-- The transport brings one record over. -/
  | carry
  | receiverReady
  | receive
  | take
  deriving DecidableEq, Repr

namespace MessageLayerSecurityLink

open MessageLayerSecurityChannel

variable {η : Type} (c : Crypto) (keying : ProcessReceiveKeying η)

def step (l : MessageLayerSecurityLink η) : MessageLayerSecurityEvent η → MessageLayerSecurityLink η
  | .write buffer header =>
    { l with
      sender := { l.sender with mSendStreamDecoded := l.sender.mSendStreamDecoded.write buffer header }
      written := l.written ++ [(buffer, header)] }
  | .send choices =>
    match stepSend c choices l.sender with
    | none => l
    | some r => { l with sender := r.2 }
  | .carry =>
    match l.sender.mSendStreamEncoded.readBuffer with
    | (none, _) => l
    | (some (record, header), stream) =>
      { l with
        sender := { l.sender with mSendStreamEncoded := stream }
        receiver := { l.receiver with
          mReceiveStreamEncoded := l.receiver.mReceiveStreamEncoded.write record header } }
  | .receiverReady => { l with receiver := l.receiver.onReceiveStreamDecodedReady }
  | .receive => { l with receiver := (stepReceive c keying l.receiver).2 }
  | .take =>
    match l.receiver.mReceiveStreamDecoded.readBuffer with
    | (none, _) => l
    | (some r, stream) =>
      { l with receiver := { l.receiver with mReceiveStreamDecoded := stream }, taken := l.taken ++ [r] }

/-- The draws of a send step are indexes of the sender's keys. -/
def Drawn (l : MessageLayerSecurityLink η) : MessageLayerSecurityEvent η → Prop
  | .send choices => ∀ i ∈ choices, 1 ≤ i ∧ i ≤ l.sender.mSendKeys.length
  | _ => True

/-- All that has come out of the receiver, taken or not. -/
def delivered (l : MessageLayerSecurityLink η) : List (StreamRecord η) :=
  l.taken ++ l.receiver.mReceiveStreamDecoded.records

/-- What has been encoded and not yet decoded. -/
def onTheWay (l : MessageLayerSecurityLink η) : List (StreamRecord η) :=
  l.receiver.mReceiveStreamEncoded.records ++ l.sender.mSendStreamEncoded.records

/-- Two ends whose keying is done and that have sent nothing since. -/
structure Keyed (l : MessageLayerSecurityLink η) : Prop where
  keys : l.receiver.mReceiveKeys = l.sender.mSendKeys
  indexed : l.sender.mSendKeys.Indexed
  alive : l.receiver.mCurrentState ≠ .shutdown
  noError : l.receiver.mLastError = 0
  noKeying : l.receiver.mReceiveKeyingSigned = false
  sendDecoded : l.sender.mSendStreamDecoded.Open ∧ l.sender.mSendStreamDecoded.records = []
  sendEncoded : l.sender.mSendStreamEncoded.Open ∧ l.sender.mSendStreamEncoded.records = []
  receiveEncoded : l.receiver.mReceiveStreamEncoded.Open ∧ l.receiver.mReceiveStreamEncoded.records = []
  receiveDecoded : l.receiver.mReceiveStreamDecoded.Open ∧ l.receiver.mReceiveStreamDecoded.records = []
  nothingWritten : l.written = []
  nothingTaken : l.taken = []

/-- Every buffer written has been encoded, carried over and looked at. -/
structure Settled (l : MessageLayerSecurityLink η) : Prop where
  sent : l.sender.mSendStreamDecoded.records = []
  carried : l.sender.mSendStreamEncoded.records = []
  received : l.receiver.mReceiveStreamEncoded.records = []

/-- The receiver has delivered the first of the buffers written, and what is on its way encodes the
next ones from the receiver's keys to the sender's. -/
structure InStep (l : MessageLayerSecurityLink η) : Prop where
  receiving : Receiving l.receiver
  full : ∀ r ∈ l.delivered, r.1 ≠ []
  encodes : ∃ buffers, Encodes c l.receiver.mReceiveKeys buffers l.onTheWay l.sender.mSendKeys ∧
    l.written = l.delivered ++ buffers ++ l.sender.mSendStreamDecoded.records

/-- The receiver has met the encoding of an empty buffer. -/
structure Stopped (l : MessageLayerSecurityLink η) : Prop where
  refused : Refused l.receiver
  empty : ∃ r ∈ l.written, r.1 = []

structure Inv (l : MessageLayerSecurityLink η) : Prop where
  sendDecoded : l.sender.mSendStreamDecoded.Open
  sendEncoded : l.sender.mSendStreamEncoded.Open
  indexed : l.sender.mSendKeys.Indexed
  outcome : InStep c l ∨ Stopped l

theorem keyed_inv (l : MessageLayerSecurityLink η) (h : Keyed l) : Inv c l := by
  have hdelivered : l.delivered = [] := by simp [delivered, h.nothingTaken, h.receiveDecoded.2]
  have hway : l.onTheWay = [] := by simp [onTheWay, h.receiveEncoded.2, h.sendEncoded.2]
  refine ⟨h.sendDecoded.1, h.sendEncoded.1, h.indexed, .inl ⟨?_, ?_, [], ?_, ?_⟩⟩
  · exact ⟨h.alive, h.noError, h.noKeying, h.receiveEncoded.1, h.receiveDecoded.1, h.keys ▸ h.indexed.2.1⟩
  · simp [hdelivered]
  · rw [hway, h.keys]
    exact .nil _
  · rw [h.nothingWritten, hdelivered, h.sendDecoded.2]
    rfl

variable (l : MessageLayerSecurityLink η)

theorem write_inv (buffer : List UInt8) (header : Option η) (h : Inv c l) :
    Inv c (l.step c keying (.write buffer header)) := by
  refine ⟨h.sendDecoded.write _ _, h.sendEncoded, h.indexed, ?_⟩
  rcases h.outcome with ⟨hreceiving, hfull, buffers, hencodes, hwritten⟩ | ⟨hrefused, r, hr, hempty⟩
  · refine .inl ⟨hreceiving, hfull, buffers, hencodes, ?_⟩
    simp only [step, write_records h.sendDecoded]
    rw [hwritten, List.append_assoc _ l.sender.mSendStreamDecoded.records]
    rfl
  · exact .inr ⟨hrefused, r, List.mem_append_left _ hr, hempty⟩

/-- What a send step does: it encodes all there is to send. -/
theorem send_encodes (choices : List Nat) (h : Inv c l) (hdrawn : l.Drawn (.send choices)) :
    Inv c (l.step c keying (.send choices)) ∧
      (l.step c keying (.send choices)).sender.mSendStreamDecoded.records = [] := by
  have hsize : l.sender.mSendStreamDecoded.getTotalReadBuffersAvailable
      = l.sender.mSendStreamDecoded.records.length := by
    simp [getTotalReadBuffersAvailable, records]
  obtain ⟨decoded, encoded, keys, buffers, records, hloop, hd, he, hk, -, hencodes, htaken, hput, hleft⟩ :=
    sendLoop_encodes c l.sender l.sender.mSendStreamDecoded.records.length choices h.sendDecoded h.sendEncoded
      h.indexed hdrawn
  have hstep : l.step c keying (.send choices) =
      { l with sender := { l.sender with
          mSendStreamDecoded := decoded, mSendKeys := keys, mSendStreamEncoded := encoded } } := by
    simp only [step, stepSend, if_neg (Nat.not_lt.mpr h.indexed.2.1), hsize, hloop, Option.map_some]
  have hnone : decoded.records = [] := by rw [hleft, List.drop_length]
  rw [hstep]
  refine ⟨⟨hd, he, hk, ?_⟩, hnone⟩
  rcases h.outcome with ⟨hreceiving, hfull, before, hbefore, hwritten⟩ | ⟨hrefused, hempty⟩
  · refine .inl ⟨hreceiving, hfull, before ++ buffers, ?_, ?_⟩
    · have happend := hbefore.append c hencodes
      simp only [onTheWay, hput] at happend ⊢
      rwa [← List.append_assoc]
    · rw [htaken] at hwritten
      change l.written = l.delivered ++ (before ++ buffers) ++ decoded.records
      rw [hwritten]
      simp only [List.append_assoc]
  · exact .inr ⟨hrefused, hempty⟩

/-- A record carried over is on its way all the same. -/
theorem carry_inv (h : Inv c l) : Inv c (l.step c keying .carry) ∧
    (l.step c keying .carry).sender.mSendStreamEncoded.records = l.sender.mSendStreamEncoded.records.tail ∧
    (l.step c keying .carry).sender.mSendStreamDecoded = l.sender.mSendStreamDecoded := by
  cases hrecords : l.sender.mSendStreamEncoded.records with
  | nil =>
    have hstep : l.step c keying .carry = l := by rw [step, readBuffer_empty hrecords]
    rw [hstep, hrecords]
    exact ⟨h, rfl, rfl⟩
  | cons r rest =>
    obtain ⟨hread, hrest⟩ := readBuffer_records h.sendEncoded.alive r.1 r.2 rest hrecords
    have hpair : l.sender.mSendStreamEncoded.readBuffer = (some (r.1, r.2), l.sender.mSendStreamEncoded.readBuffer.2) :=
      Prod.ext hread rfl
    rw [step, hpair]
    refine ⟨⟨h.sendDecoded, h.sendEncoded.readBuffer, h.indexed, ?_⟩, hrest, rfl⟩
    rcases h.outcome with ⟨hreceiving, hfull, buffers, hencodes, hwritten⟩ | ⟨hrefused, hempty⟩
    · refine .inl ⟨{ hreceiving with encoded := hreceiving.encoded.write _ _ }, hfull, buffers, ?_, hwritten⟩
      simp only [onTheWay, hrest, write_records hreceiving.encoded, List.append_assoc,
        List.singleton_append]
      rw [← hrecords]
      exact hencodes
    · have hdead := write_shutdown hrefused.encoded.1 r.1 r.2
      refine .inr ⟨{ hrefused with encoded := ?_ }, hempty⟩
      simp only [hdead]
      exact hrefused.encoded

theorem receiverReady_inv (h : Inv c l) : Inv c (l.step c keying .receiverReady) := by
  have hbuffers := notifyReaderReadyToRead_mBuffers (s := l.receiver.mReceiveStreamEncoded)
  have hrecords : l.receiver.mReceiveStreamEncoded.notifyReaderReadyToRead.records
      = l.receiver.mReceiveStreamEncoded.records := by simp only [records, hbuffers]
  refine { h with outcome := ?_ }
  rcases h.outcome with ⟨hreceiving, hfull, buffers, hencodes, hwritten⟩ | ⟨hrefused, hempty⟩
  · refine .inl ⟨⟨hreceiving.alive, hreceiving.noError, hreceiving.noKeying,
      hreceiving.encoded.notifyReaderReadyToRead, hreceiving.decoded, hreceiving.keyed⟩, hfull, buffers, ?_, hwritten⟩
    simp only [step, onTheWay, onReceiveStreamDecodedReady, hrecords]
    exact hencodes
  · have hdead : l.receiver.mReceiveStreamEncoded.notifyReaderReadyToRead = l.receiver.mReceiveStreamEncoded := by
      rw [notifyReaderReadyToRead, if_pos hrefused.encoded.1]
    refine .inr ⟨{ hrefused with encoded := ?_ }, hempty⟩
    simp only [step, onReceiveStreamDecodedReady, hdead]
    exact hrefused.encoded

theorem stepReceive_refused (s : MessageLayerSecurityChannel η) (h : Refused s) :
    (stepReceive c keying s).2 = s := by
  have hsize : s.mReceiveStreamEncoded.getTotalReadBuffersAvailable < 1 := by
    have hlength := congrArg List.length h.encoded.2
    simp only [records, List.length_map, List.length_nil] at hlength
    rw [getTotalReadBuffersAvailable, hlength]
    exact Nat.zero_lt_one
  rw [stepReceive]
  split
  · rfl
  · rw [h.noKeying, if_neg Bool.false_ne_true, receiveBuffers, if_pos hsize]

/-- What a receive step does: it delivers what has been carried over, or stops at an empty buffer. -/
theorem receive_decodes (hlaws : c.Laws) (h : Inv c l) : Inv c (l.step c keying .receive) ∧
    (l.receiver.mReceiveStreamDecodedWriteReady = true →
      (l.step c keying .receive).receiver.mReceiveStreamEncoded.records = []) := by
  rcases h.outcome with hin | ⟨hrefused, hempty⟩
  · obtain ⟨hreceiving, hfull, buffers, hencodes, hwritten⟩ := hin
    by_cases hready : l.receiver.mReceiveStreamDecodedWriteReady = true
    · have hstep : (l.step c keying .receive).receiver
          = (receiveLoop c keying l.receiver.mReceiveStreamEncoded.records.length l.receiver).2 :=
        stepReceive_receiving c keying l.receiver hreceiving hready
      rcases receiveLoop_decodes c keying l.receiver hlaws l.receiver.mReceiveStreamEncoded.records.length buffers
          l.sender.mSendStreamEncoded.records l.sender.mSendKeys hreceiving hencodes with
        ⟨moved, rest, hsplit, hmoved, hafter, hdelivered, hleft, hrest⟩ | ⟨⟨r, hr, hempty⟩, hrefused⟩
      · rw [← hstep] at hafter hdelivered hleft hrest
        have hall : (l.step c keying .receive).delivered = l.delivered ++ moved := by
          simp only [delivered, hdelivered, List.append_assoc]
          rfl
        refine ⟨{ h with outcome := .inl ⟨hafter, ?_, rest, hrest, ?_⟩ }, fun _ => ?_⟩
        · rw [hall]
          intro r hr
          rcases List.mem_append.mp hr with hr | hr
          · exact hfull r hr
          · exact hmoved r hr
        · rw [hall]
          change l.written = _ ++ l.sender.mSendStreamDecoded.records
          rw [hwritten, hsplit]
          simp only [List.append_assoc]
        · rw [hleft, List.drop_length]
      · rw [← hstep] at hrefused
        refine ⟨{ h with outcome := .inr ⟨hrefused, r, ?_, hempty⟩ }, fun _ => hrefused.encoded.2⟩
        change r ∈ l.written
        rw [hwritten]
        exact List.mem_append_left _ (List.mem_append_right _ hr)
    · have hstep : l.step c keying .receive = l := by
        simp only [step, stepReceive, if_pos hready]
      rw [hstep]
      exact ⟨h, fun hr => absurd hr hready⟩
  · have hstep : l.step c keying .receive = l := by
      simp only [step, stepReceive_refused c keying l.receiver hrefused]
    rw [hstep]
    exact ⟨h, fun _ => hrefused.encoded.2⟩

theorem take_inv (h : Inv c l) : Inv c (l.step c keying .take) := by
  cases hread : l.receiver.mReceiveStreamDecoded.readBuffer with
  | mk taken stream =>
    cases taken with
    | none =>
      have hstep : l.step c keying .take = l := by rw [step, hread]
      rw [hstep]
      exact h
    | some r =>
      have hstep : l.step c keying .take =
          { l with receiver := { l.receiver with mReceiveStreamDecoded := stream }, taken := l.taken ++ [r] } := by
        rw [step, hread]
      rw [hstep]
      refine { h with outcome := ?_ }
      rcases h.outcome with ⟨hreceiving, hfull, buffers, hencodes, hwritten⟩ | ⟨hrefused, hempty⟩
      · have hopen : stream.Open := by
          have hafter := hreceiving.decoded.readBuffer
          rwa [hread] at hafter
        have hsplit : l.receiver.mReceiveStreamDecoded.records = r :: stream.records := by
          cases hrecords : l.receiver.mReceiveStreamDecoded.records with
          | nil =>
            rw [readBuffer_empty hrecords] at hread
            cases hread
          | cons first rest =>
            obtain ⟨hfirst, hrest⟩ :=
              readBuffer_records hreceiving.decoded.alive first.1 first.2 rest hrecords
            rw [hread] at hfirst hrest
            cases hfirst
            rw [hrest]
        have hall : l.delivered = (l.taken ++ [r]) ++ stream.records := by
          rw [delivered, hsplit, List.append_assoc]
          rfl
        rw [hall] at hfull hwritten
        exact .inl ⟨{ hreceiving with decoded := hopen }, hfull, buffers, hencodes, hwritten⟩
      · exact .inr ⟨{ hrefused with }, hempty⟩

theorem step_inv (hlaws : c.Laws) (e : MessageLayerSecurityEvent η) (hdrawn : l.Drawn e) (h : Inv c l) :
    Inv c (l.step c keying e) := by
  cases e with
  | write buffer header => exact write_inv c keying l buffer header h
  | send choices => exact (send_encodes c keying l choices h hdrawn).1
  | carry => exact (carry_inv c keying l h).1
  | receiverReady => exact receiverReady_inv c keying l h
  | receive => exact (receive_decodes c keying l hlaws h).1
  | take => exact take_inv c keying l h

theorem run_inv (hlaws : c.Laws) (es : List (MessageLayerSecurityEvent η)) (h : Keyed l)
    (hdrawn : Meets (step c keying) Drawn l es) : Inv c (run (step c keying) l es) :=
  run_invariant _ (fun l e hdrawn h => step_inv c keying l hlaws e hdrawn h) l es hdrawn (keyed_inv c l h)

theorem inStep_of_full (h : Inv c l) (hfull : ∀ r ∈ l.written, r.1 ≠ []) : InStep c l := by
  rcases h.outcome with hin | ⟨-, r, hr, hempty⟩
  · exact hin
  · exact absurd hempty (hfull r hr)

/-- The receiver has what was written, with no error, and the keys of both ends are the same. -/
structure EndToEnd (l : MessageLayerSecurityLink η) : Prop where
  delivered : l.delivered = l.written
  noError : l.receiver.mLastError = 0
  keys : l.receiver.mReceiveKeys = l.sender.mSendKeys

theorem settled_endToEnd (h : Inv c l) (hsettled : Settled l) :
    EndToEnd l ↔ ∀ r ∈ l.written, r.1 ≠ [] := by
  rcases h.outcome with ⟨hreceiving, hfull, buffers, hencodes, hwritten⟩ | ⟨hrefused, r, hr, hempty⟩
  · have hway : l.onTheWay = [] := by rw [onTheWay, hsettled.received, hsettled.carried, List.append_nil]
    rw [hway] at hencodes
    obtain ⟨hnone, hkeys⟩ := hencodes.nil_records
    rw [hnone, hsettled.sent, List.append_nil, List.append_nil] at hwritten
    constructor
    · intro _
      rwa [hwritten]
    · intro _
      exact ⟨hwritten.symm, hreceiving.noError, hkeys⟩
  · constructor
    · intro hend
      exact absurd (hrefused.error.symm.trans hend.noError) (by decide)
    · intro hfull
      exact absurd hempty (hfull r hr)

/-- The events by which everything written is encoded, carried over and looked at. -/
def flush (l : MessageLayerSecurityLink η) : List (MessageLayerSecurityEvent η) :=
  .send [] :: (List.replicate (l.step c keying (.send [])).sender.mSendStreamEncoded.records.length .carry
    ++ [.receiverReady, .receive])

theorem carries_settle (n : Nat) (h : Inv c l) :
    Inv c (run (step c keying) l (List.replicate n .carry)) ∧
      (run (step c keying) l (List.replicate n .carry)).sender.mSendStreamEncoded.records
        = l.sender.mSendStreamEncoded.records.drop n ∧
      (run (step c keying) l (List.replicate n .carry)).sender.mSendStreamDecoded = l.sender.mSendStreamDecoded := by
  induction n generalizing l with
  | zero => exact ⟨h, rfl, rfl⟩
  | succ n ih =>
    obtain ⟨hinv, htail, hsame⟩ := carry_inv c keying l h
    obtain ⟨hinv', hdrop, hsame'⟩ := ih (l.step c keying .carry) hinv
    refine ⟨hinv', ?_, hsame'.trans hsame⟩
    rw [List.replicate_succ, run_cons, hdrop, htail, List.drop_tail]

theorem carries_written (n : Nat) :
    (run (step c keying) l (List.replicate n .carry)).written = l.written := by
  induction n generalizing l with
  | zero => rfl
  | succ n ih =>
    rw [List.replicate_succ, run_cons, ih, step]
    split <;> rfl

theorem flush_written : (run (step c keying) l (flush c keying l)).written = l.written := by
  have hsend : (l.step c keying (.send [])).written = l.written := by
    rw [step]
    split <;> rfl
  rw [flush, run_cons, run_append, ← hsend]
  exact carries_written c keying _ _

theorem flush_settles (hlaws : c.Laws) (h : Inv c l) :
    Settled (run (step c keying) l (flush c keying l)) := by
  obtain ⟨hsent, hnone⟩ := send_encodes c keying l [] h (by simp [Drawn])
  obtain ⟨hcarried, hdrop, hsame⟩ := carries_settle c keying (l.step c keying (.send []))
    (l.step c keying (.send [])).sender.mSendStreamEncoded.records.length hsent
  rw [List.drop_length] at hdrop
  rw [flush, run_cons, run_append]
  have hready := receiverReady_inv c keying _ hcarried
  obtain ⟨-, hreceived⟩ := receive_decodes c keying _ hlaws hready
  refine ⟨?_, hdrop, hreceived rfl⟩
  have hdecoded := congrArg records hsame
  rw [hnone] at hdecoded
  exact hdecoded

/-- In every run that writes no empty buffer the receiver is in step with the sender at every
moment: it has met no error, what it delivered is the first part of what was written, and the rest
is on its way from its keys to the sender's. Every run can be flushed, and a run that is settled has
delivered all that was written, with no error and with equal keys, just when no empty buffer was. -/
theorem buffers_delivered (hlaws : c.Laws) (es : List (MessageLayerSecurityEvent η)) (hkeyed : Keyed l)
    (hdrawn : Meets (step c keying) Drawn l es) :
    ((∀ r ∈ (run (step c keying) l es).written, r.1 ≠ []) → InStep c (run (step c keying) l es)) ∧
    (Settled (run (step c keying) (run (step c keying) l es) (flush c keying (run (step c keying) l es))) ∧
      (run (step c keying) (run (step c keying) l es) (flush c keying (run (step c keying) l es))).written
        = (run (step c keying) l es).written) ∧
    (Settled (run (step c keying) l es) →
      (EndToEnd (run (step c keying) l es) ↔ ∀ r ∈ (run (step c keying) l es).written, r.1 ≠ [])) := by
  have hinv := run_inv c keying l hlaws es hkeyed hdrawn
  exact ⟨inStep_of_full c _ hinv, ⟨flush_settles c keying _ hlaws hinv, flush_written c keying _⟩,
    settled_endToEnd c _ hinv⟩

/-- The digests of the buffers below and of what the next initialisation vectors are made of. -/
def sha1Digests : List (List UInt8 × List UInt8) :=
  [ ([],
      [218, 57, 163, 238, 94, 107, 75, 13, 50, 85, 191, 239, 149, 96, 24, 144, 175, 216, 7, 9]),
    (ascii "00000000000000000000000000000000:8772d372e4ef8d83a488371a20cb4e89dfd23d87",
      [222, 0, 217, 154, 204, 203, 90, 237, 151, 23, 120, 247, 34, 36, 113, 210, 2, 72, 56, 130]),
    ([7],
      [93, 27, 231, 233, 221, 161, 238, 136, 150, 190, 91, 126, 52, 168, 94, 225, 100, 82, 167, 180]),
    (ascii "00000000000000000000000000000000:61db871e6a1a55d0ce0819705f3b16ee4f0475c8",
      [156, 60, 51, 218, 84, 101, 159, 43, 28, 176, 0, 206, 239, 161, 235, 132, 17, 45, 29, 231]) ]

/-- The integrity values of the buffers below, keyed with "secret". -/
def hmacDigests : List (List UInt8 × List UInt8) :=
  [ (ascii "integrity:da39a3ee5e6b4b0d3255bfef95601890afd80709:00000000000000000000000000000000",
      [135, 114, 211, 114, 228, 239, 141, 131, 164, 136, 55, 26, 32, 203, 78, 137, 223, 210, 61, 135]),
    (ascii "integrity:5d1be7e9dda1ee8896be5b7e34a85ee16452a7b4:00000000000000000000000000000000",
      [97, 219, 135, 30, 106, 26, 85, 208, 206, 8, 25, 112, 95, 59, 22, 238, 79, 4, 117, 200]) ]

/-- The cipher with a key and an initialisation vector of zeros, on one block. -/
def zeroKeyStream : List UInt8 :=
  [220, 149, 192, 120, 162, 64, 137, 137, 173, 72, 162, 20, 146, 132, 32, 135]

def xorBlock : List UInt8 → List UInt8 → List UInt8
  | k :: ks, b :: bs => (b ^^^ k) :: xorBlock ks bs
  | _, bs => bs

theorem xorBlock_xorBlock (ks bs : List UInt8) : xorBlock ks (xorBlock ks bs) = bs := by
  induction ks generalizing bs with
  | nil => rfl
  | cons k ks ih =>
    cases bs with
    | nil => rfl
    | cons b bs => simp only [xorBlock, ih, UInt8.xor_assoc, UInt8.xor_self, UInt8.xor_zero]

/-- A cipher and hashes that agree with the library's on what the two runs below give them: the
cipher in that one state, and digests looked up. -/
def tabulated : Crypto where
  encrypt _ _ buffer := xorBlock zeroKeyStream buffer
  decrypt _ _ buffer := xorBlock zeroKeyStream buffer
  hash buffer := (sha1Digests.lookup buffer).getD (zeros 20)
  hmac _ value := (hmacDigests.lookup value).getD (zeros 20)
  getHashDigestSize := 20

theorem tabulated_laws : tabulated.Laws := by
  refine ⟨fun _ _ buffer => xorBlock_xorBlock zeroKeyStream buffer, fun _ _ => rfl, fun _ value => ?_⟩
  simp only [tabulated, hmacDigests, List.lookup_cons, List.lookup_nil]
  split
  · rfl
  · split <;> rfl

/-- A channel with the given keys and nothing in its streams. -/
def keyedChannel (receiveKeys sendKeys : KeyMap) : MessageLayerSecurityChannel Unit where
  mCurrentState := .connected
  mLastError := 0
  mLastErrorReason := ""
  mRemoteContextID := "peer"
  mReceiveDecodingType := .passphrase
  mReceiveDecodingPrivateKey := false
  mReceivingDecodingPassphrase := "passphrase"
  mReceiveSigningPublicKey := true
  mReceiveKeyingSigned := false
  mReceiveStreamEncoded := .create
  mReceiveStreamDecoded := .create
  mSendStreamDecoded := .create
  mSendStreamEncoded := .create
  mReceiveStreamDecodedWriteReady := false
  mReceiveKeys := receiveKeys
  mSendKeys := sendKeys

def oneKey : KeyMap := [(1, ⟨ascii "secret", zeros 32, zeros 16, none⟩)]

def keyedEnds : MessageLayerSecurityLink Unit where
  sender := keyedChannel [] oneKey
  receiver := keyedChannel oneKey []
  written := []
  taken := []

theorem keyedEnds_keyed : Keyed keyedEnds :=
  ⟨rfl, by unfold KeyMap.Indexed; decide, by decide, rfl, rfl, ⟨create_open, rfl⟩,
    ⟨create_open, rfl⟩, ⟨create_open, rfl⟩, ⟨create_open, rfl⟩, rfl,
    rfl⟩

def noKeying : ProcessReceiveKeying Unit := fun s _ => (false, false, s)

/-- One buffer sent, carried over and received. -/
def exchange (buffer : List UInt8) : List (MessageLayerSecurityEvent Unit) :=
  [.write buffer none, .send [1], .carry, .receiverReady, .receive]

theorem exchange_drawn (buffer : List UInt8) :
    Meets (step tabulated noKeying) Drawn keyedEnds (exchange buffer) := by
  refine ⟨trivial, ?_, trivial, trivial, trivial, trivial⟩
  intro i hi
  cases List.mem_singleton.mp hi
  exact ⟨le_refl 1, le_refl 1⟩

theorem one_byte_delivered : EndToEnd (run (step tabulated noKeying) keyedEnds (exchange [7])) :=
  ((buffers_delivered tabulated noKeying keyedEnds tabulated_laws (exchange [7]) keyedEnds_keyed
    (exchange_drawn [7])).2.2 ⟨by decide +kernel, by decide +kernel, by decide +kernel⟩).mpr (by decide +kernel)

/-- An empty buffer is encoded and carried over, and the receiver answers it by shutting down. -/
theorem empty_buffer_refused : Keyed keyedEnds ∧ tabulated.Laws ∧
    Meets (step tabulated noKeying) Drawn keyedEnds (exchange []) ∧
    Settled (run (step tabulated noKeying) keyedEnds (exchange [])) ∧
    (run (step tabulated noKeying) keyedEnds (exchange [])).written = [([], none)] ∧
    (run (step tabulated noKeying) keyedEnds (exchange [])).delivered = [] ∧
    (run (step tabulated noKeying) keyedEnds (exchange [])).receiver.mLastError = unauthorized ∧
    (run (step tabulated noKeying) keyedEnds (exchange [])).receiver.isShutdown = true ∧
    ¬EndToEnd (run (step tabulated noKeying) keyedEnds (exchange [])) := by
  have herror : (run (step tabulated noKeying) keyedEnds (exchange [])).receiver.mLastError = unauthorized := by
    decide +kernel
  refine ⟨keyedEnds_keyed, tabulated_laws, exchange_drawn [],
    ⟨by decide +kernel, by decide +kernel, by decide +kernel⟩, by decide +kernel, by decide +kernel, herror,
    by decide +kernel, ?_⟩
  intro hend
  exact absurd (herror.symm.trans hend.noError) (by decide)

end MessageLayerSecurityLink

end OpenPeer
