import OpenPeer.TCPMessagingFraming

/-!
# Two ends of a TCP connection

The system: an application writes to the sender's stream, the socket takes what
it likes of the sender's queue, the receiver reads what it likes of what is on
the wire, and an application takes buffers from the receiver's stream, in any
order.
-/
namespace OpenPeer

open Bytes Framing Runs TCPMessaging

structure TCPLink where
  sender : TCPMessaging
  receiver : TCPMessaging
  /-- Bytes the sender's socket took and the receiver's has not handed over. -/
  wire : List UInt8
  /-- All that was written to the sender's send stream. -/
  written : List (List UInt8 × Option StreamHeader)
  /-- All that was read from the receiver's receive stream. -/
  taken : List (List UInt8 × Option StreamHeader)

inductive TCPLinkEvent where
  | write (message : List UInt8) (header : Option StreamHeader)
  | readerReady (accepted : List Nat)
  | writeReady (accepted : List Nat)
  | readReady (size : Nat)
  | take
  deriving DecidableEq, Repr

namespace TCPLink

/-- What the sender did with the socket reaches the wire. -/
def afterSend (l : TCPLink) (s : Sending) : TCPLink :=
  { l with sender := s.endpoint, wire := l.wire ++ s.taken }

def step (l : TCPLink) : TCPLinkEvent → TCPLink
  | .write message header =>
    { l with
      sender := { l.sender with mSendStream := l.sender.mSendStream.write message header }
      written := l.written ++ [(message, header)] }
  | .readerReady accepted => l.afterSend (l.sender.onTransportStreamReaderReady (accepted.map .sent))
  | .writeReady accepted => l.afterSend (l.sender.onWriteReady (accepted.map .sent))
  | .readReady size =>
    -- the socket reports data only when there is some, and a read takes at most one buffer of it
    if size = 0 ∨ receiveSize < size ∨ l.wire = [] then l else
    { l with
      receiver := l.receiver.onReadReady (.received (l.wire.take size))
      wire := l.wire.drop size }
  | .take =>
    match l.receiver.mReceiveStream.readBuffer with
    | (none, _) => l
    | (some r, stream) =>
      { l with receiver := { l.receiver with mReceiveStream := stream }, taken := l.taken ++ [r] }

/-- A message is written with a channel header when frames have one, and is not too long. -/
def Allowed (l : TCPLink) : TCPLinkEvent → Prop
  | .write message header =>
    (l.sender.mFramesHaveChannelNumber → ∃ id, header = some (.channel id)) ∧
      message.length ≤ l.receiver.mMaxMessageSizeInBytes.toNat
  | _ => True

/-- All that has come out at the receiver. -/
def delivered (l : TCPLink) : List (List UInt8 × Option StreamHeader) :=
  l.taken ++ l.receiver.mReceiveStream.records

/-- What is to come out for all that was written. -/
def expected (l : TCPLink) : List (List UInt8 × Option StreamHeader) :=
  l.written.map (receivedAs l.sender.mFramesHaveChannelNumber)

/-- Nothing is queued, on the wire or half received. -/
def Idle (l : TCPLink) : Prop :=
  l.sender.mSendStream.records = [] ∧ l.sender.mSendingQueue = [] ∧ l.wire = []

/-- Two connected ends with the same setting, and nothing written yet. -/
structure Fresh (l : TCPLink) : Prop where
  sender : l.sender.Live
  receiver : l.receiver.Live
  sameSetting : l.receiver.mFramesHaveChannelNumber = l.sender.mFramesHaveChannelNumber
  sendStream : l.sender.mSendStream.records = []
  sendingQueue : l.sender.mSendingQueue = []
  receivingQueue : l.receiver.mReceivingQueue = []
  receiveStream : l.receiver.mReceiveStream.records = []
  wire : l.wire = []
  written : l.written = []
  taken : l.taken = []

/-- The frames of `todo` are exactly the bytes underway. -/
structure Underway (l : TCPLink) (todo : List (List UInt8 × List UInt8)) : Prop where
  valid : ∀ m ∈ todo, (frameCode l.sender.mFramesHaveChannelNumber).Valid m
  fits : ∀ m ∈ todo, m.2.length ≤ l.receiver.mMaxMessageSizeInBytes.toNat
  account : l.expected = l.delivered ++ todo.map (recordOf l.sender.mFramesHaveChannelNumber)
  bytes : l.receiver.mReceivingQueue ++ (l.wire ++ (l.sender.mSendingQueue ++
    encodeAll (frameCode l.sender.mFramesHaveChannelNumber)
      (l.sender.mSendStream.records.map (frameOf l.sender.mFramesHaveChannelNumber)))) =
    encodeAll (frameCode l.sender.mFramesHaveChannelNumber) todo
  partialFrame : Unfinished (frameCode l.sender.mFramesHaveChannelNumber) l.receiver.mReceivingQueue todo

structure Inv (l : TCPLink) : Prop where
  sender : l.sender.Live
  receiver : l.receiver.Live
  sameSetting : l.receiver.mFramesHaveChannelNumber = l.sender.mFramesHaveChannelNumber
  writable : ∀ r ∈ l.sender.mSendStream.records, Writable l.sender.mFramesHaveChannelNumber r
  underway : ∃ todo, Underway l todo

variable (l : TCPLink)

theorem fresh_inv (h : Fresh l) : Inv l := by
  refine ⟨h.sender, h.receiver, h.sameSetting, by simp [h.sendStream], [], ?_⟩
  refine ⟨by simp, by simp, ?_, ?_, ?_⟩
  · simp [expected, delivered, h.written, h.taken, h.receiveStream]
  · simp [h.receivingQueue, h.wire, h.sendingQueue, h.sendStream]
  · rw [h.receivingQueue]
    exact unfinished_nil _ _

theorem write_inv (message : List UInt8) (header : Option StreamHeader)
    (hok : Allowed l (.write message header)) (h : Inv l) : Inv (l.step (.write message header)) := by
  obtain ⟨todo, hunder⟩ := h.underway
  obtain ⟨hchannel, hsize⟩ := hok
  have hlt := l.receiver.mMaxMessageSizeInBytes.toNat_lt
  have hr : Writable l.sender.mFramesHaveChannelNumber (message, header) :=
    ⟨hchannel, by change message.length < 256 ^ 4; omega⟩
  have hrecords := TransportStream.write_records h.sender.sendOpen message header
  refine ⟨⟨h.sender.connected, h.sender.noError, h.sender.socket, h.sender.sendOpen.write _ _,
    h.sender.receiveOpen⟩, h.receiver, h.sameSetting, ?_,
    todo ++ [frameOf l.sender.mFramesHaveChannelNumber (message, header)], ?_, ?_, ?_, ?_, ?_⟩
  · intro r hmem
    simp only [step, hrecords, List.mem_append, List.mem_singleton] at hmem
    rcases hmem with hmem | rfl
    · exact h.writable r hmem
    · exact hr
  · intro m hm
    simp only [List.mem_append, List.mem_singleton] at hm
    rcases hm with hm | rfl
    · exact hunder.valid m hm
    · exact frameOf_valid hr
  · intro m hm
    simp only [List.mem_append, List.mem_singleton] at hm
    rcases hm with hm | rfl
    · exact hunder.fits m hm
    · exact hsize
  · have haccount := hunder.account
    simp only [expected, delivered, step, List.map_append, List.map_cons, List.map_nil] at haccount ⊢
    rw [haccount, recordOf_frameOf hr, List.append_assoc]
  · have hbytes := hunder.bytes
    simp only [step, hrecords, List.map_append, List.map_cons, List.map_nil, encodeAll_append]
    rw [← hbytes]
    simp only [encodeAll_cons, encodeAll_nil, List.append_assoc, List.append_nil]
  · rcases hunder.partialFrame with hnil | ⟨m, ms, rfl, hprefix, hne⟩
    · exact Or.inl hnil
    · exact Or.inr ⟨m, ms ++ [_], rfl, hprefix, hne⟩

/-- Whatever part of its bytes the sender gets rid of, they are underway as before. -/
theorem afterSend_inv (s : Sending) (outcomes : List SendOutcome) (h : Inv l)
    (hs : Forwards ⟨l.sender, outcomes, []⟩ s) : Inv (l.afterSend s) := by
  obtain ⟨todo, hunder⟩ := h.underway
  have hout := hs.outgoing
  simp only [outgoing, List.nil_append] at hout
  have hsame : s.endpoint.mFramesHaveChannelNumber = l.sender.mFramesHaveChannelNumber := hs.hasChannel
  rw [hsame] at hout
  refine ⟨hs.live, h.receiver, h.sameSetting.trans hsame.symm, ?_, todo, ?_⟩
  · intro r hr
    simp only [afterSend, hsame]
    exact h.writable r (hs.records.subset hr)
  · refine ⟨?_, hunder.fits, ?_, ?_, ?_⟩
    all_goals simp only [expected, delivered, afterSend, hsame]
    · exact hunder.valid
    · exact hunder.account
    · have hbytes := hunder.bytes
      rw [← hout] at hbytes
      simpa only [List.append_assoc] using hbytes
    · exact hunder.partialFrame

theorem counts_map (accepted : List Nat) : Counts (accepted.map .sent) := by
  intro o ho
  obtain ⟨n, -, hn⟩ := List.mem_map.mp ho
  exact ⟨n, hn.symm⟩

variable (t : TCPMessaging)

theorem readerReady_forwards (accepted : List Nat) (hlive : t.Live)
    (hwritable : ∀ r ∈ t.mSendStream.records, Writable t.mFramesHaveChannelNumber r) :
    Forwards ⟨t, accepted.map .sent, []⟩ (t.onTransportStreamReaderReady (accepted.map .sent)) := by
  unfold onTransportStreamReaderReady
  rw [if_neg (by simp [isShutdown, hlive.connected])]
  exact sendDataNow_forwards _ hlive (counts_map accepted) hwritable

theorem onWriteReady_eq (outcomes : List SendOutcome) (hlive : t.Live) :
    t.onWriteReady outcomes =
      Sending.sendDataNow ⟨{ t with mConnectIssued := false, mTCPWriteReady := true }, outcomes, []⟩ := by
  unfold onWriteReady
  rw [if_neg (by simp [hlive.socket])]
  by_cases hissued : t.mConnectIssued = true
  · simp [hissued, isShuttingdown, hlive.connected, setState]
  · have hfalse : t.mConnectIssued = false := by simpa using hissued
    rw [if_neg (by simp [hfalse])]
    cases t
    simp_all

theorem writeReady_forwards (accepted : List Nat) (hlive : t.Live)
    (hwritable : ∀ r ∈ t.mSendStream.records, Writable t.mFramesHaveChannelNumber r) :
    Forwards ⟨t, accepted.map .sent, []⟩ (t.onWriteReady (accepted.map .sent)) := by
  rw [onWriteReady_eq t _ hlive]
  have hready : Forwards ⟨t, accepted.map .sent, []⟩
      ⟨{ t with mConnectIssued := false, mTCPWriteReady := true }, accepted.map .sent, []⟩ :=
    ⟨rfl, { hlive with },
      rfl, rfl, rfl, rfl, List.suffix_refl _⟩
  exact hready.trans (sendDataNow_forwards _ hready.live (counts_map accepted) hwritable)

/-- A read delivers the messages whose frames are whole, and keeps a proper part of the next. -/
theorem readReady_inv (size : Nat) (h : Inv l) : Inv (l.step (.readReady size)) := by
  simp only [step]
  split
  · exact h
  next hsize =>
  obtain ⟨todo, hunder⟩ := h.underway
  have hsplit : (l.receiver.mReceivingQueue ++ l.wire.take size) ++ (l.wire.drop size ++
      (l.sender.mSendingQueue ++ encodeAll (frameCode l.sender.mFramesHaveChannelNumber)
        (l.sender.mSendStream.records.map (frameOf l.sender.mFramesHaveChannelNumber))))
      = encodeAll (frameCode l.sender.mFramesHaveChannelNumber) todo := by
    rw [← hunder.bytes, List.append_assoc, ← List.append_assoc (l.wire.take size), List.take_append_drop]
  obtain ⟨done, todo', htodo, hdone, hrest, hpart⟩ :=
    drain_prefix (frameCode l.sender.mFramesHaveChannelNumber) todo _ _ hunder.valid hsplit
  have hchunk : ¬(l.wire.take size).length = 0 := by
    have hwire : l.wire ≠ [] := fun hnil => hsize (Or.inr (Or.inr hnil))
    have hpos := List.length_pos_iff.mpr hwire
    rw [List.length_take]
    omega
  have hread : l.receiver.onReadReady (.received (l.wire.take size)) =
      { l.receiver with
        mReceivingQueue := (drain (frameCode l.sender.mFramesHaveChannelNumber)
          (l.receiver.mReceivingQueue ++ l.wire.take size)).2
        mReceiveStream := deliver l.sender.mFramesHaveChannelNumber l.receiver.mReceiveStream done } := by
    unfold onReadReady
    rw [if_neg (by simp [h.receiver.socket]),
      if_neg (by simp [isShutdown, isShuttingdown, h.receiver.connected])]
    simp only [if_neg hchunk]
    rw [receiveLoop_drain { l.receiver with mReceivingQueue := l.receiver.mReceivingQueue ++ l.wire.take size }
      done _ (Prod.ext (by rw [h.sameSetting]; exact hdone) rfl)
      (fun m hm => hunder.fits m (by rw [htodo]; exact List.mem_append_left _ hm)), h.sameSetting]
  obtain ⟨hopen, hrecords⟩ := deliver_records l.sender.mFramesHaveChannelNumber l.receiver.mReceiveStream done
    h.receiver.receiveOpen
  rw [hread]
  refine ⟨h.sender, ⟨h.receiver.connected, h.receiver.noError, h.receiver.socket, h.receiver.sendOpen, hopen⟩,
    h.sameSetting, h.writable, todo', ?_, ?_, ?_, hrest, hpart⟩
  · intro m hm
    exact hunder.valid m (by rw [htodo]; exact List.mem_append_right _ hm)
  · intro m hm
    exact hunder.fits m (by rw [htodo]; exact List.mem_append_right _ hm)
  · have haccount := hunder.account
    rw [htodo, List.map_append] at haccount
    simp only [expected, delivered, hrecords, List.append_assoc] at haccount ⊢
    exact haccount

theorem take_inv (h : Inv l) : Inv (l.step .take) := by
  obtain ⟨todo, hunder⟩ := h.underway
  cases hrecords : l.receiver.mReceiveStream.records with
  | nil =>
    simp only [step, TransportStream.readBuffer_empty hrecords]
    exact h
  | cons r rest =>
    obtain ⟨hread, hrest⟩ := TransportStream.readBuffer_records h.receiver.receiveOpen.alive r.1 r.2 rest hrecords
    have hpair : l.receiver.mReceiveStream.readBuffer = (some r, l.receiver.mReceiveStream.readBuffer.2) :=
      Prod.ext hread rfl
    rw [step, hpair]
    refine ⟨h.sender, ⟨h.receiver.connected, h.receiver.noError, h.receiver.socket, h.receiver.sendOpen,
      h.receiver.receiveOpen.readBuffer⟩, h.sameSetting, h.writable, todo, hunder.valid, hunder.fits, ?_,
      hunder.bytes, hunder.partialFrame⟩
    have haccount := hunder.account
    simp only [expected, delivered, hrest, hrecords, List.append_assoc, List.singleton_append] at haccount ⊢
    exact haccount

theorem step_inv (e : TCPLinkEvent) (hok : Allowed l e) (h : Inv l) : Inv (l.step e) := by
  cases e with
  | write message header => exact write_inv l message header hok h
  | readerReady accepted => exact afterSend_inv l _ _ h (readerReady_forwards l.sender accepted h.sender h.writable)
  | writeReady accepted => exact afterSend_inv l _ _ h (writeReady_forwards l.sender accepted h.sender h.writable)
  | readReady size => exact readReady_inv l size h
  | take => exact take_inv l h

theorem run_inv (es : List TCPLinkEvent) (hfresh : Fresh l) (hmeets : Meets step Allowed l es) :
    Inv (run step l es) :=
  run_invariant Inv step_inv l es hmeets (fresh_inv l hfresh)

theorem idle_delivered (h : Inv l) (hidle : Idle l) : l.delivered = l.expected := by
  obtain ⟨todo, hunder⟩ := h.underway
  obtain ⟨hrecords, hqueue, hwire⟩ := hidle
  have hbytes := hunder.bytes
  rw [hrecords, hqueue, hwire, List.map_nil, encodeAll_nil, List.append_nil, List.append_nil, List.append_nil]
    at hbytes
  have hnil := unfinished_all _ _ _ hunder.partialFrame hbytes
  have htodo : todo = [] := by
    cases todo with
    | nil => rfl
    | cons m ms =>
      rw [hnil, encodeAll_cons] at hbytes
      have hlen := congrArg List.length hbytes
      have hm := length_lengthEncode (hunder.valid m List.mem_cons_self)
      rw [List.length_nil, List.length_append] at hlen
      change 0 = (lengthEncode m).length + _ at hlen
      omega
  rw [hunder.account, htodo, List.map_nil, List.append_nil]

theorem read_all (n : Nat) (hn : l.wire.length ≤ n) :
    (run step l (List.replicate n (.readReady 1))).wire = [] ∧
      (run step l (List.replicate n (.readReady 1))).sender = l.sender := by
  induction n generalizing l with
  | zero => exact ⟨List.eq_nil_of_length_eq_zero (Nat.le_zero.mp hn), rfl⟩
  | succ n ih =>
    have hsender : (l.step (.readReady 1)).sender = l.sender := by
      simp only [step]
      split <;> rfl
    have hwire : (l.step (.readReady 1)).wire.length ≤ n := by
      simp only [step]
      split
      · next hnone =>
        rcases hnone with hzero | hbig | hnil
        · cases hzero
        · simp [receiveSize] at hbig
        · simp [hnil]
      · rw [List.length_drop]
        omega
    obtain ⟨hnil, hsame⟩ := ih (l.step (.readReady 1)) hwire
    rw [List.replicate_succ, run_cons]
    exact ⟨hnil, hsame.trans hsender⟩

/-- The events the network alone brings about. -/
def IsNetwork : TCPLinkEvent → Prop
  | .writeReady _ | .readReady _ => True
  | _ => False

theorem allowed_network (e : TCPLinkEvent) (h : IsNetwork e) : Allowed l e := by
  cases e with
  | write message header => exact h.elim
  | readerReady _ | writeReady _ | readReady _ | take => trivial

theorem meets_network (es : List TCPLinkEvent) (h : ∀ e ∈ es, IsNetwork e) :
    Meets step (fun x e => Allowed x e ∧ IsNetwork e) l es := by
  induction es generalizing l with
  | nil => trivial
  | cons e es ih =>
    have he := h e List.mem_cons_self
    exact ⟨⟨allowed_network l e he, he⟩, ih _ fun x hx => h x (List.mem_cons_of_mem _ hx)⟩

/-- From any state the network can bring everything that was written to the receiver. -/
theorem network_completes (h : Inv l) : ∃ es, (∀ e ∈ es, IsNetwork e) ∧ Idle (run step l es) := by
  let records := l.sender.mSendStream.records
  let big := l.sender.mSendingQueue.length + framedLength ⟨l.sender, [], []⟩
  let accepted := List.replicate (records.length + 1) big
  let sent := l.step (.writeReady accepted)
  have hready : (⟨{ l.sender with mConnectIssued := false, mTCPWriteReady := true },
      accepted.map .sent, []⟩ : Sending).endpoint.Live :=
    ⟨h.sender.connected, h.sender.noError, h.sender.socket, h.sender.sendOpen, h.sender.receiveOpen⟩
  obtain ⟨hqueue, hrecords⟩ := sendDataNow_all _ big records.length hready rfl h.writable
    (by simp [accepted]) (Nat.le_refl _) (Nat.le_refl _)
  have hsender : sent.sender = (Sending.sendDataNow
      ⟨{ l.sender with mConnectIssued := false, mTCPWriteReady := true }, accepted.map .sent, []⟩).endpoint := by
    change (l.sender.onWriteReady (accepted.map .sent)).endpoint = _
    rw [onWriteReady_eq l.sender _ h.sender]
  obtain ⟨hwire, hsame⟩ := read_all sent sent.wire.length (Nat.le_refl _)
  refine ⟨.writeReady accepted :: List.replicate sent.wire.length (.readReady 1), ?_, ?_⟩
  · intro e he
    rcases List.mem_cons.mp he with rfl | he
    · trivial
    · rw [(List.mem_replicate.mp he).2]
      trivial
  · rw [run_cons]
    refine ⟨?_, ?_, hwire⟩
    · rw [hsame, hsender]
      exact hrecords
    · rw [hsame, hsender]
      exact hqueue

theorem network_expected (e : TCPLinkEvent) (he : IsNetwork e) (h : Inv l) :
    (l.step e).expected = l.expected := by
  cases e with
  | writeReady accepted =>
    have hsame := (writeReady_forwards l.sender accepted h.sender h.writable).hasChannel
    simp only [step, expected, afterSend]
    rw [hsame]
  | readReady size =>
    simp only [step]
    split <;> rfl
  | write _ _ | readerReady _ | take => exact he.elim

/-- In every run the receiver writes, in order and once each, messages that were written; all of
them once nothing is underway, which the network can always bring about; and no end fails. -/
theorem framing_delivers (l : TCPLink) (es : List TCPLinkEvent) (hfresh : Fresh l)
    (hmeets : Meets step Allowed l es) :
    (run step l es).delivered <+: (run step l es).expected ∧
    (Idle (run step l es) → (run step l es).delivered = (run step l es).expected) ∧
    (∃ more, (∀ e ∈ more, IsNetwork e) ∧
      (run step (run step l es) more).delivered = (run step l es).expected) ∧
    (run step l es).sender.Live ∧ (run step l es).receiver.Live := by
  have hinv := run_inv l es hfresh hmeets
  obtain ⟨todo, hunder⟩ := hinv.underway
  obtain ⟨more, hnetwork, hidle⟩ := network_completes (run step l es) hinv
  have hstep (x : TCPLink) (e : TCPLinkEvent) (he : Allowed x e ∧ IsNetwork e)
      (hx : Inv x ∧ x.expected = (run step l es).expected) :
      Inv (x.step e) ∧ (x.step e).expected = (run step l es).expected :=
    ⟨step_inv x e he.1 hx.1, (network_expected x e he.2 hx.1).trans hx.2⟩
  obtain ⟨hinv', hexpected⟩ := @run_invariant _ _ _ (fun x e => Allowed x e ∧ IsNetwork e) _ hstep
    (run step l es) more (meets_network _ more hnetwork) ⟨hinv, rfl⟩
  refine ⟨⟨_, hunder.account.symm⟩, idle_delivered _ hinv, ⟨more, hnetwork, ?_⟩, hinv.sender, hinv.receiver⟩
  rw [idle_delivered _ hinv' hidle, hexpected]

/-- Two accepted ends with the same setting. -/
def accepted (framesHaveChannelNumber : Bool) (maxMessageSizeInBytes : UInt32) : TCPLink where
  sender := accept .create .create framesHaveChannelNumber maxMessageSizeInBytes true
  receiver := accept .create .create framesHaveChannelNumber maxMessageSizeInBytes true
  wire := []
  written := []
  taken := []

theorem accepted_fresh (framesHaveChannelNumber : Bool) (maxMessageSizeInBytes : UInt32) :
    Fresh (accepted framesHaveChannelNumber maxMessageSizeInBytes) :=
  ⟨⟨rfl, rfl, rfl, ⟨rfl, rfl⟩, ⟨rfl, rfl⟩⟩, ⟨rfl, rfl, rfl, ⟨rfl, rfl⟩, ⟨rfl, rfl⟩⟩, rfl, rfl, rfl, rfl, rfl,
    rfl, rfl, rfl⟩

/-- One message on channel seven, sent in two parts and read in three. -/
def inParts : List TCPLinkEvent :=
  [.write [1, 2] (some (.channel 7)), .writeReady [3], .writeReady [20], .readReady 2, .readReady 5, .readReady 64]

theorem framing_delivers_in_parts :
    (run step (accepted true 16) inParts).delivered = [([1, 2], some (.channel 7))] :=
  (framing_delivers (accepted true 16) inParts (accepted_fresh true 16)
    ⟨⟨fun _ => ⟨7, rfl⟩, by decide⟩, trivial, trivial, trivial, trivial, trivial, trivial⟩).2.1
    ⟨rfl, rfl, rfl⟩

end TCPLink

end OpenPeer
