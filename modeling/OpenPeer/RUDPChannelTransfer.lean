import Mathlib.Data.List.Infix
import OpenPeer.RUDPChannelAgreement
import OpenPeer.RUDPChannelInOrder
import OpenPeer.RUDPChannelShutdown

/-!
# From one application to the other

A run of two channel streams is a run of each of them. What a stream sends are the
bytes of packets that it keeps a record of, so that the packets which arrive have the
payloads of the sender's run, whatever became of them on the way.
-/
namespace OpenPeer

open RUDPPacket Runs RUDPChannelStream

section Recording

variable {first : Nat} {t t' : RUDPChannelEndpoint} {s s' s'' : RUDPChannelStream} {l : SendNow} {acked : Nat → Prop}

def SendNow.unnamed (l : SendNow) : SendNow := { l with firstPacketCreated := none }

/-- The bytes that a stream keeps or is about to send are those of packets that were sent under their own numbers. -/
structure Recorded (first : Nat) (t : RUDPChannelEndpoint) : Prop where
  order : SendInOrder first t.stream.toSendWindow
  buffered : t.stream.Buffered
  numbered : ∀ r ∈ t.stream.records, r.mRUDPPacket.mSequenceNumber = low24 r.mSequenceNumber
  burst : ∀ l, t.sending = some l → BurstRecorded t.stream.toSendWindow l.unnamed

/-- The packets sent are the same, and their bytes are still kept. -/
def RecordsKept (s s' : RUDPChannelStream) : Prop := s'.records = s.records ∧ (s.Buffered → s'.Buffered)

theorem recordsKept_windows (h : WindowsKept acked s s') : RecordsKept s s' := by
  obtain h | h := h
  · exact ⟨h.records, h.buffered⟩
  · exact ⟨h.records, h.buffered⟩

theorem recordsKept_refuseAck (s : RUDPChannelStream) : RecordsKept s s.refuseAck := by
  obtain ⟨e, r, hrefused⟩ := kept_refuseAck (fun _ => True) s
  exact recordsKept_windows (s := { s with mLastError := e, mLastErrorReason := r }) hrefused.windows

theorem recordsKept_acceptPacket (s : RUDPChannelStream) (now : Int) (n : Nat) (packet : RUDPPacket) :
    RecordsKept s (s.acceptPacket now n packet) := by
  have hsame := s.acceptPacket_sending now n packet
  exact ⟨hsame.records, fun h p hp => h p (congrArg₂ (· ++ ·) hsame.removed hsame.sending ▸ hp)⟩

theorem RecordsKept.trans (h : RecordsKept s s') (h' : RecordsKept s' s'') : RecordsKept s s'' :=
  ⟨h'.1.trans h.1, h'.2 ∘ h.2⟩

theorem Recorded.kept (h : Recorded first t) (horder : SendInOrder first t'.stream.toSendWindow)
    (hkept : RecordsKept t.stream t'.stream)
    (hburst : ∀ l, t'.sending = some l → BurstRecorded t.stream.toSendWindow l.unnamed) :
    Recorded first t' ∧ t.stream.records <+: t'.stream.records := by
  have hfind : t'.stream.findRecord = t.stream.findRecord := by
    funext n
    simp [SendWindow.findRecord, hkept.1]
  refine ⟨⟨horder, hkept.2 h.buffered, hkept.1 ▸ h.numbered, fun l hl => ?_⟩, hkept.1 ▸ List.prefix_rfl⟩
  obtain ⟨hfirst, hattempt⟩ := hburst l hl
  rw [← hfind] at hfirst hattempt
  exact ⟨hfirst, hattempt⟩

theorem unnamed_loop (l : SendNow) : l.unnamed.loop = l.loop.unnamed := by
  by_cases hnone : l.packetsToSend = 0 <;> simp [SendNow.loop, SendNow.unnamed, hnone]

theorem clearResend_fst (s : RUDPChannelStream) (l : SendNow) : (s.clearResend l).1 = l.loop := by
  unfold clearResend
  split
  · rfl
  · split <;> rfl

/-- Which packet was the first of a burst has no part in what is delivered next. -/
theorem proceed_unnamed (s : RUDPChannelStream) (input : SendNowInput) (hposition : l.position ≠ .creatingPacket) :
    (s.proceed input l.unnamed).1 = (s.proceed input l).1.map SendNow.unnamed := by
  unfold RUDPChannelStream.proceed
  rw [show l.unnamed.position = l.position from rfl]
  cases hwhere : l.position with
  | checkingBatons =>
    simp only [checkBatons, Option.map_some]
    split
    · rfl
    · exact congrArg some (unnamed_loop { l with packetsToSend := s.mPacketsPerBurst })
  | choosingResend =>
    simp only [selectResend, SendNow.unnamed, Option.map_some]
    generalize (if s.mTotalPacketsToResend ≠ 0 then chooseResend l.lastPacketSent s.mSendingPackets else none) = chosen
    cases chosen <;> rfl
  | creatingPacket => exact absurd hwhere hposition
  | delivering =>
    cases input.delivery with
    | notSent => cases hattempt : l.attemptToDeliver <;> simp [afterSend, SendNow.unnamed, hattempt]
    | _ => rfl
  | afterDelivery => simp only [clearResend_fst, unnamed_loop, Option.map_some]
  | leaving => rfl
  | unwinding => rfl

theorem Recorded.created (h : Recorded first t) (now : Int) (parity : Bool) (hl : t.sending = some l)
    (hsending : t'.sending = some (t.stream.createPacket now parity l).1)
    (hstream : t'.stream = (t.stream.createPacket now parity l).2) :
    Recorded first t' ∧ t.stream.records <+: t'.stream.records := by
  have horder : SendInOrder first t'.stream.toSendWindow := hstream ▸ h.order.createdPacket now parity l
  obtain ⟨hkept, position, hposition, -⟩ | ⟨stream, ackRequired, packet, bytes, hbytes, hcompletes, hcreate⟩ :=
    @createPacket_cases (fun _ => True) t.stream now parity l
  · apply h.kept horder (hstream ▸ recordsKept_windows (.inl hkept.toWindowsUntouched))
    intro m hm
    cases hsending.symm.trans hm
    rw [hposition]
    exact (h.burst l hl).carry (fun _ hn => hn) (.inr ⟨rfl, rfl⟩)
  · rw [hcreate] at hsending hstream
    have hrecords : t'.stream.records = t.stream.records ++
        [((t.stream.afterRead stream ackRequired).bufferPacket now packet bytes).toPacketRecord] :=
      hstream ▸ pushPacket_records t.stream stream ackRequired now _
    refine ⟨⟨horder, fun p hp bytes' hkept => ?_, fun r hr => ?_, fun m hm => ⟨fun _ hn => (nomatch hn), fun n bytes' hn hbytes' => ?_⟩⟩,
      hrecords ▸ List.prefix_append _ _⟩
    · rw [hstream] at hp
      obtain hp | hp := List.mem_append.mp ((List.append_assoc _ _ _).symm ▸ hp)
      · exact h.buffered p hp bytes' hkept
      · cases List.mem_singleton.mp hp
        cases hkept
        exact hbytes
    · rw [hrecords] at hr
      obtain hr | hr := List.mem_append.mp hr
      · exact h.numbered r hr
      · cases List.mem_singleton.mp hr
        exact hcompletes.same.1.trans (vectoredPacket_header parity l t.stream).2.1
    · cases hsending.symm.trans hm
      cases hn
      cases hbytes'
      have hfind := horder.find (hrecords ▸ List.mem_append_right _ List.mem_cons_self)
      exact ⟨_, hfind, hbytes⟩

/-- Nothing that happens to a stream loses or changes the record of a packet. -/
theorem Recorded.step (h : Recorded first t) (event : RUDPChannelEvent) :
    Recorded first (t.step event) ∧ t.stream.records <+: (t.step event).stream.records := by
  have horder := h.order.step event
  obtain ⟨hkept, hsending⟩ | ⟨u, hkept, heq, hsame⟩ | ⟨u, now, n, packet, hkept, -, -, heq, hsame⟩ |
    ⟨input, l, -, hl, -, hcreated, heq⟩ := t.step_cases event
  · apply h.kept horder (recordsKept_windows hkept)
    intro m hm
    obtain hsame | hstart | ⟨input, l, hl, hposition, hproceeds⟩ := hsending
    · exact h.burst m (hsame.symm.trans hm)
    · cases hstart.symm.trans hm
      exact burstRecorded_start _
    · apply (h.burst l hl).proceed h.order h.buffered input hposition
      rw [proceed_unnamed t.stream input hposition]
      exact congrArg (Option.map SendNow.unnamed) (hproceeds.symm.trans hm)
  · apply h.kept horder (heq ▸ (recordsKept_windows (.inl hkept)).trans (recordsKept_refuseAck u))
    exact fun m hm => h.burst m (hsame.symm.trans hm)
  · apply h.kept horder (heq ▸ (recordsKept_windows (.inl hkept)).trans (recordsKept_acceptPacket u now n packet))
    exact fun m hm => h.burst m (hsame.symm.trans hm)
  · exact h.created input.now input.parity hl hcreated heq

end Recording

namespace RUDPChannelPair

/-- What an event between two streams is to one of them. -/
def given (p : RUDPChannelPair) (x : Side) (e : PairEvent) : Option RUDPChannelEvent :=
  if e.side = x then
    match e.act with
    | .own event => some (.own event)
    | .receive k now ecnMarked =>
      ((p.node x.other).sent[k]?.bind fun d => parseIfRUDP d.bytes).map fun packet => .handlePacket now packet ecnMarked
    | .report _ => none
    | .acknowledge k now id => (p.node x.other).reported[k]?.map fun a => .handleExternalAck now id a
  else none

/-- The run of one of the two streams. -/
def runOf (x : Side) : RUDPChannelPair → List PairEvent → List RUDPChannelEvent
  | _, [] => []
  | p, e :: es => (p.given x e).toList ++ runOf x (p.step e) es

/-- The conditions on what a side does and gets so that its application is handed what was sent. The application gives
its streams once and does not shut the receive direction down. A packet that tells that there is no gap and still has
a vector is read with zeros before its data. -/
def Legible (x : Side) (p : RUDPChannelPair) (e : PairEvent) : Prop :=
  e.side = x →
    match e.act with
    | .own (.setStreams receiveStream _) => (p.node x).stream.mReceiveStream = none ∧
        (receiveStream.mShutdown = false ∧ receiveStream.mBlockQueue = none) ∧ receiveStream.unread = []
    | .own (.shutdown _) => False
    | .own (.shutdownDirection state) => state.receive = false
    | .receive k _ _ => ∀ r ∈ (p.node x.other).sent[k]?.bind Datagram.record,
        Near r.mSequenceNumber (p.node x).stream.mGSNR ∧
          (r.mRUDPPacket.eqFlag = true → r.mRUDPPacket.mVectorLengthInBytes = 0)
    | _ => True

variable {p : RUDPChannelPair} {x : Side}

theorem node_step (e : PairEvent) :
    ((p.step e).node x).endpoint = run RUDPChannelEndpoint.step (p.node x).endpoint (p.given x e).toList ∧
      ∀ d ∈ ((p.step e).node x).sent, d ∈ (p.node x).sent ∨
        ∃ event, d ∈ RUDPChannelNode.outgoing (p.node x).endpoint event := by
  obtain ⟨side, act⟩ := e
  by_cases hside : side = x
  · subst hside
    rw [step, node_setNode, given, if_pos rfl]
    cases act with
    | own event => exact ⟨rfl, fun d hd => (List.mem_append.mp hd).imp id fun hd => ⟨event, hd⟩⟩
    | receive k now ecnMarked =>
      simp only [RUDPChannelNode.act]
      cases (p.node side.other).sent[k]?.bind fun d => parseIfRUDP d.bytes <;> exact ⟨rfl, fun d hd => .inl hd⟩
    | report size => exact ⟨rfl, fun d hd => .inl hd⟩
    | acknowledge k now id =>
      simp only [RUDPChannelNode.act]
      cases (p.node side.other).reported[k]? <;> exact ⟨rfl, fun d hd => .inl hd⟩
  · have hother : x = side.other := by cases x <;> cases side <;> simp_all [Side.other]
    rw [given, if_neg hside, step, hother, node_setNode_other]
    exact ⟨rfl, fun d hd => .inl hd⟩

theorem endpoint_run (p : RUDPChannelPair) (es : List PairEvent) :
    ((run step p es).node x).endpoint = run RUDPChannelEndpoint.step (p.node x).endpoint (p.runOf x es) := by
  induction es generalizing p with
  | nil => rfl
  | cons e es ih => rw [run_cons, ih, (node_step e).1, runOf, run_append]

/-- What a side has sent. -/
structure SentTruly (first : Nat) (n : RUDPChannelNode) : Prop where
  recorded : Recorded first n.endpoint
  sent : ∀ d ∈ n.sent, ∃ r ∈ n.stream.records, d.record = some r ∧ r.mRUDPPacket.packetize = .ok d.bytes

theorem SentTruly.step {first : Nat} (h : SentTruly first (p.node x)) (e : PairEvent) :
    SentTruly first ((p.step e).node x) ∧ (p.node x).stream.records <+: ((p.step e).node x).stream.records := by
  obtain ⟨hendpoint, hsent⟩ := @node_step p x e
  have hnext : Recorded first ((p.step e).node x).endpoint ∧ (p.node x).stream.records <+: ((p.step e).node x).stream.records := by
    rw [RUDPChannelNode.stream, RUDPChannelNode.stream, hendpoint]
    cases p.given x e with
    | none => exact ⟨h.recorded, List.prefix_rfl⟩
    | some event => exact h.recorded.step event
  refine ⟨⟨hnext.1, fun d hd => ?_⟩, hnext.2⟩
  have hrecord : ∃ r ∈ (p.node x).stream.records, d.record = some r ∧ r.mRUDPPacket.packetize = .ok d.bytes := by
    obtain hold | ⟨event, hnew⟩ := hsent d hd
    · exact h.sent d hold
    · exact outgoing_recorded (fun l hl => (h.recorded.burst l hl).attempt) hnew
  obtain ⟨r, hr, hrest⟩ := hrecord
  exact ⟨r, hnext.2.subset hr, hrest⟩

/-- The data of the packet with a number. -/
def payload (first : Nat) (s : RUDPChannelStream) (n : Nat) : List UInt8 :=
  ((s.records[n - first]?).map fun r => r.mRUDPPacket.mData).getD []

theorem payloads_packetized (first m : Nat) (s : RUDPChannelStream) : payloads (payload first s) first m <+: s.packetized := by
  have htake : ∀ k, (List.range' first k).flatMap (payload first s) =
      (s.records.take k).flatMap fun r => r.mRUDPPacket.mData := by
    intro k
    induction k with
    | zero => rfl
    | succ k ih =>
      rw [List.range'_concat, List.flatMap_append, ih, List.take_add_one, List.flatMap_append, Nat.one_mul]
      cases hr : s.records[k]? <;> simp [payload, hr]
  rw [payloads, htake]
  exact (List.take_prefix _ _).flatMap _

theorem Legible.receives {first : Nat} {e : PairEvent} {event : RUDPChannelEvent} (hlegible : Legible x p e)
    (hevent : event ∈ p.given x e) (hsent : SentTruly first (p.node x.other)) {s : RUDPChannelStream}
    (hsend : SendInOrder first s.toSendWindow) (hrecords : (p.node x.other).stream.records ⊆ s.records) :
    Receives first (payload first s) (s.parityOf first) (p.node x).endpoint event := by
  obtain ⟨side, act⟩ := e
  unfold given at hevent
  split at hevent
  case isFalse => cases hevent
  case isTrue hside =>
    have hclear := hlegible hside
    cases act with
    | own event =>
      cases hevent
      cases event with
      | setStreams receiveStream sendStream => exact ⟨hclear.1, ⟨hclear.2.1.1, hclear.2.1.2⟩, hclear.2.2⟩
      | shutdown _ => exact hclear
      | shutdownDirection _ => exact hclear
      | _ => trivial
    | receive k now ecnMarked =>
      obtain ⟨packet, hpacket, rfl⟩ := Option.map_eq_some_iff.mp hevent
      obtain ⟨d, hd, hparse⟩ := Option.bind_eq_some_iff.mp hpacket
      obtain ⟨r, hr, hrecord, hbytes⟩ := hsent.sent d (List.mem_of_getElem? hd)
      obtain ⟨hnear, hvector⟩ := hclear r (by rw [hd]; exact hrecord)
      have hr' := hrecords hr
      rw [parse_packetize _ _ hbytes] at hparse
      cases hparse
      refine ⟨r.mSequenceNumber, (hsend.index hr').1, hnear.1, hnear.2, ?_, ?_, hsend.parity hr'⟩
      · change r.mRUDPPacket.mSequenceNumber &&& 0xFFFFFF = _
        rw [hsent.recorded.numbered r hr, low24_and]
      · change List.take _ (_ ++ _) = payload first s _
        rw [payload, (hsend.index hr').2.2]
        cases heq : r.mRUDPPacket.eqFlag with
        | false => simp
        | true => simp [hvector heq, Bytes.dwordBoundary, Bytes.zeros]
    | report size => cases hevent
    | acknowledge k now id =>
      obtain ⟨a, -, rfl⟩ := Option.map_eq_some_iff.mp hevent
      trivial

/-- Whatever the network loses, repeats, delays or puts in another order: what one application is handed is the first
part of what the other one has written, as long as neither stream is ended. -/
theorem bytes_arrive_in_order (now : Int) (first : Side → Nat) (hfirst : ∀ x, 0 < first x) (channelNumber : Side → UInt16)
    (minimumRTT : Nat) (x : Side) (events : List PairEvent)
    (hlegible : Meets step (Legible x) (create now first channelNumber minimumRTT) events) :
    let start := create now first channelNumber minimumRTT
    let p := run step start events
    (p.node x).stream.isShutdown = false → (p.node x.other).stream.isShutdown = false →
      (p.node x).endpoint.handedOver <+: (start.node x.other).endpoint.written [] (start.runOf x.other events) := by
  intro start p halive hpeer
  have hcreate : ∀ y, start.node y = createNode now first channelNumber minimumRTT y := by
    intro y
    cases y <;> rfl
  have hstart : SentTruly (first x.other) (start.node x.other) := by
    rw [hcreate]
    refine ⟨⟨create_sendInOrder (hfirst _) now _ _ _ _, ?_, ?_, ?_⟩, ?_⟩
    all_goals intro _ hr; cases hr
  have hsent : ∀ before, SentTruly (first x.other) ((run step start before).node x.other) := fun before =>
    run_invariant_always (fun p => SentTruly _ (p.node x.other)) (fun _ e h => (h.step e).1) start before hstart
  have hreceives : Meets step (fun q e => ∀ event ∈ q.given x e, Receives (first x.other) (payload (first x.other) (p.node x.other).stream)
      ((p.node x.other).stream.parityOf (first x.other)) (q.node x).endpoint event) start events := by
    apply meets_of_splits
    rintro before e after rfl event hevent
    apply (meets_of_append _ before e after hlegible).receives hevent (hsent before) (hsent _).recorded.order
    intro r hr
    rw [run_append]
    refine (run_invariant_always (fun p => SentTruly (first x.other) (p.node x.other) ∧ r ∈ (p.node x.other).stream.records)
      (fun _ e h => ⟨(h.1.step e).1, (h.1.step e).2.subset h.2⟩) (run step start before) (e :: after) ⟨hsent before, hr⟩).2
  have hdelivered := run_invariant (fun q : RUDPChannelPair => DeliveredInOrder (first x.other)
      (payload (first x.other) (p.node x.other).stream) ((p.node x.other).stream.parityOf (first x.other)) (q.node x).endpoint)
    (fun q e hok h => by
      rw [(node_step e).1]
      cases hgiven : q.given x e with
      | none => exact h
      | some event => exact h.step event (hok event hgiven))
    start events hreceives (by
      rw [hcreate]
      exact create_deliveredInOrder _ (hfirst _) _ _ now _ _ _ _)
  have hsends := run_sends now (first x.other) (first x.other.other) (channelNumber x.other) (channelNumber x.other.other)
    minimumRTT (start.runOf x.other events)
  have hpeerRun := @endpoint_run x.other start events
  rw [hcreate] at hpeerRun
  rw [RUDPChannelNode.stream, hpeerRun] at hpeer
  have hwritten := (hsends hpeer).bytes
  rw [(hdelivered.alive halive).2.2, hcreate]
  apply (payloads_packetized _ _ _).trans
  rw [show (run step start events).node x.other = _ from rfl, RUDPChannelNode.stream, hpeerRun, createNode]
  exact ⟨_, hwritten.symm⟩

/-- The byte of the packet that is sent is handed over. -/
theorem byte_arrives :
    let start := create 0 (fun _ => 1) (fun _ => 7) 0
    [1] <+: (start.node .a).endpoint.written [] (start.runOf .a acknowledgedPacket) := by
  intro start
  have hone : ((run step start acknowledgedPacket).node .b).endpoint.handedOver = [1] := by decide +kernel
  rw [← hone]
  have hlegible : Meets step (Legible .b) start acknowledgedPacket := by
    simp only [acknowledgedPacket, newPacket, region, List.replicate, List.cons_append, List.nil_append, Meets, Legible]
    decide +kernel
  exact bytes_arrive_in_order 0 (fun _ => 1) (fun _ => by decide) (fun _ => 7) 0 .b acknowledgedPacket hlegible
    (by decide +kernel) (by decide +kernel)

end RUDPChannelPair

end OpenPeer
