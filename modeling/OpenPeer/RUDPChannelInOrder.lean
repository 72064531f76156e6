import OpenPeer.RUDPChannelDelivery

/-!
# In-order delivery over a run

Every sequence number has one payload and one parity bit. Over every run the bytes
handed to the application are the payloads of the numbers up to which everything
was received, in order and each once, whatever order the packets arrived in and
whatever else the stream did meanwhile.
-/
namespace OpenPeer

open RUDPPacket Reorder Runs RUDPChannelStream

/-- The data of all packets from the first one to the given one. -/
def payloads (payload : Nat → List UInt8) (first n : Nat) : List UInt8 :=
  (List.range' first (n + 1 - first)).flatMap payload

theorem payloads_add (payload : Nat → List UInt8) (first n k : Nat) (h : first ≤ n + 1) :
    payloads payload first (n + k) = payloads payload first n ++ (List.range' (n + 1) k).flatMap payload := by
  rw [payloads, range'_split first n k h, List.flatMap_append, payloads]

namespace RUDPChannelEndpoint

/-- What was handed to the application: what it has read, and what waits for it. -/
def handedOver (t : RUDPChannelEndpoint) : List UInt8 := t.taken ++ t.stream.sinkBytes

end RUDPChannelEndpoint

/-- Nothing in what receives a packet has changed. -/
structure ReceiveSame (s s' : RUDPChannelStream) : Prop where
  window : s'.toReceiveWindow = s.toReceiveWindow
  shutdown : s'.isShutdown = s.isShutdown
  sink : s'.mReceiveStream = s.mReceiveStream ∧ s'.mPendingReceiveData = s.mPendingReceiveData ∧
    s'.mShutdownState = s.mShutdownState

theorem Untouched.receiveSame {acked : Nat → Prop} {s s' : RUDPChannelStream} (h : Untouched acked s s') :
    ReceiveSame s s' := ⟨h.receive, h.shutdown, h.sink⟩

/-- Nothing in what receives a packet has changed, or the stream was ended. -/
def ReceiveKept (s s' : RUDPChannelStream) : Prop := ReceiveSame s s' ∨ Ended s s'

theorem Kept.receiveKept {acked : Nat → Prop} {s s' : RUDPChannelStream} (h : Kept acked s s') : ReceiveKept s s' :=
  h.imp_left Untouched.receiveSame

section Assignment

variable (first : Nat) (payload : Nat → List UInt8) (parity : Nat → Bool)

/-- A packet as it was assigned to its number, which is within half of the 24-bit range of the
greatest number received. -/
def Assigned (gsnr : Nat) (packet : RUDPPacket) : Prop :=
  ∃ n, first ≤ n ∧ gsnr < n + 0x800000 ∧ n < gsnr + 0x800000 ∧ packet.mSequenceNumber = low24 n ∧
    packet.mData = payload n ∧ packet.isFlagSet .psParitySending = parity n

/-- The events of a run that receives. All packets are those assigned, whatever they acknowledge;
the application gives its streams once and does not shut the receive direction down. -/
def Receives (t : RUDPChannelEndpoint) : RUDPChannelEvent → Prop
  | .handlePacket _ packet _ => Assigned first payload parity t.stream.mGSNR packet
  | .handleExternalAck _ _ _ => True
  | .own (.setStreams receiveStream _) =>
    t.stream.mReceiveStream = none ∧ receiveStream.Open ∧ receiveStream.unread = []
  | .own (.shutdown _) => False
  | .own (.shutdownDirection state) => state.receive = false
  | .own _ => True

/-- The stream has delivered in order: the window is in order and holds the packets assigned, and as
long as the stream is not ended the bytes handed over are the payloads. -/
structure DeliveredInOrder (t : RUDPChannelEndpoint) : Prop where
  order : InOrder first parity t.stream.toReceiveWindow
  data : ∀ p ∈ t.stream.mReceivedPackets, p.mRUDPPacket.mData = payload p.mSequenceNumber
  alive : t.stream.isShutdown = false → t.stream.SinkOpen ∧ GreatestHeld t.stream.toReceiveWindow ∧
    t.handedOver = payloads payload first t.stream.mGSNFR

variable {first payload parity} {t : RUDPChannelEndpoint}

section

variable (h : DeliveredInOrder first payload parity t)
include h

theorem DeliveredInOrder.of_same {t' : RUDPChannelEndpoint} (hsame : ReceiveSame t.stream t'.stream)
    (htaken : t'.taken = t.taken) : DeliveredInOrder first payload parity t' := by
  obtain ⟨hwindow, hshutdown, hsink⟩ := hsame
  refine ⟨hwindow ▸ h.order, ?_, ?_⟩
  · rw [show t'.stream.mReceivedPackets = t.stream.mReceivedPackets from
      congrArg ReceiveWindow.mReceivedPackets hwindow]
    exact h.data
  · intro halive
    obtain ⟨hopen, hgreatest, hbytes⟩ := h.alive (hshutdown ▸ halive)
    obtain ⟨hopen', hbytes'⟩ := hopen.of_same hsink
    refine ⟨hopen', hwindow ▸ hgreatest, ?_⟩
    rw [RUDPChannelEndpoint.handedOver, htaken, hbytes',
      show t'.stream.mGSNFR = t.stream.mGSNFR from congrArg ReceiveWindow.mGSNFR hwindow]
    exact hbytes

theorem DeliveredInOrder.of_ended {t' : RUDPChannelEndpoint} (hended : Ended t.stream t'.stream) :
    DeliveredInOrder first payload parity t' := by
  refine ⟨hended.receive ▸ h.order.cleared, ?_, ?_⟩
  · rw [show t'.stream.mReceivedPackets = [] from congrArg ReceiveWindow.mReceivedPackets hended.receive]
    intro p hp
    cases hp
  · intro halive
    rw [hended.shutdown] at halive
    cases halive

theorem DeliveredInOrder.of_kept {t' : RUDPChannelEndpoint} (hkept : ReceiveKept t.stream t'.stream)
    (htaken : t'.taken = t.taken) : DeliveredInOrder first payload parity t' := by
  rcases hkept with hsame | hended
  · exact h.of_same hsame htaken
  · exact h.of_ended hended

theorem DeliveredInOrder.of_refused {s : RUDPChannelStream} (hsame : ReceiveSame t.stream s) :
    DeliveredInOrder first payload parity { t with stream := s.refuseAck } := by
  obtain ⟨e, r, hkept⟩ := kept_refuseAck (fun _ => True) s
  have herror : DeliveredInOrder first payload parity
      { t with stream := { s with mLastError := e, mLastErrorReason := r } } :=
    h.of_same { hsame with } rfl
  exact herror.of_kept hkept.receiveKept rfl

/-- A step lemma for the arrival of the next packet or of one behind a gap: it is put in its place
and the series at the front is handed over. -/
theorem DeliveredInOrder.of_accepted (now : Int) (n : Nat) (packet : RUDPPacket) (hlow : t.stream.mGSNFR < n)
    (hnew : ∀ p ∈ t.stream.mReceivedPackets, p.mSequenceNumber ≠ n) (hdata : packet.mData = payload n)
    (hparity : packet.isFlagSet .psParitySending = parity n) :
    DeliveredInOrder first payload parity { t with stream := t.stream.acceptPacket now n packet } := by
  rw [acceptPacket_eq]
  have hinserted := insertedWindow_inserted now n packet h.order hlow hparity
  have hcontents : ∀ p ∈ (insertedWindow now n packet t.stream.toReceiveWindow).mReceivedPackets,
      p.mRUDPPacket.mData = payload p.mSequenceNumber := by
    intro p hp
    rcases mem_insert hp with rfl | hp
    · exact hdata
    · exact h.data p hp
  have hgreatest := fun hg => insertedWindow_greatest now n packet hg hlow hnew
  have hgsnfr : (insertedWindow now n packet t.stream.toReceiveWindow).mGSNFR = t.stream.mGSNFR :=
    rfl
  generalize insertedWindow now n packet t.stream.toReceiveWindow = w at *
  obtain ⟨horder, hheld⟩ := delivered_inOrder { t.stream with toReceiveWindow := w } hinserted
  have hwindow := deliverLoop_window { t.stream with toReceiveWindow := w } w.mReceivedPackets rfl
  have hstate := (deliverLoop_sending { t.stream with toReceiveWindow := w } w.mReceivedPackets).state
  have happend := series_append (fun p : BufferedPacket => p.mSequenceNumber) (w.mGSNFR + 1) w.mReceivedPackets
  have hkeys := series_keys (fun p : BufferedPacket => p.mSequenceNumber) (w.mGSNFR + 1) w.mReceivedPackets
  refine ⟨horder, ?_, ?_⟩
  · intro p hp
    have hreceived := congrArg ReceiveWindow.mReceivedPackets hwindow
    change p ∈ (deliverLoop w.mReceivedPackets { t.stream with toReceiveWindow := w }).mReceivedPackets
      at hp
    rw [show (deliverLoop w.mReceivedPackets
      { t.stream with toReceiveWindow := w }).mReceivedPackets = _ from hreceived] at hp
    exact hcontents p (happend ▸ List.mem_append_right _ hp)
  · intro halive
    have halive' : t.stream.isShutdown = false := by
      rw [← halive, isShutdown, isShutdown]
      exact congrArg (· == RUDPChannelStreamStates.shutdown) hstate.symm
    obtain ⟨hopen, hg, hbytes⟩ := h.alive halive'
    obtain ⟨hopen', hsink⟩ := @RUDPChannelStream.SinkOpen.of_same _ { t.stream with toReceiveWindow := w } hopen
      ⟨rfl, rfl, rfl⟩
    obtain ⟨hopened, hdelivered⟩ := deliverLoop_sink w.mReceivedPackets hopen'
    refine ⟨hopened, hheld (hgreatest hg), ?_⟩
    have hend : (deliverLoop w.mReceivedPackets { t.stream with toReceiveWindow := w }).mGSNFR = _ :=
      congrArg ReceiveWindow.mGSNFR hwindow
    change t.taken ++ (deliverLoop w.mReceivedPackets { t.stream with toReceiveWindow := w }).sinkBytes
      = payloads payload first
        (deliverLoop w.mReceivedPackets { t.stream with toReceiveWindow := w }).mGSNFR
    rw [hdelivered, hend, hsink, ← List.append_assoc]
    change t.handedOver ++ _ = payloads payload first (w.mGSNFR + _)
    generalize series (fun p : BufferedPacket => p.mSequenceNumber) (w.mGSNFR + 1) w.mReceivedPackets = r at *
    rw [payloads_add payload first w.mGSNFR _ (hgsnfr ▸ h.order.first_le), hbytes, hgsnfr, ← hgsnfr, ← hkeys,
      List.flatMap_map]
    exact congrArg _ (List.flatMap_congr fun p hp => hcontents p (happend ▸ List.mem_append_left _ hp))

/-- The application gives its streams: what was received before goes to its receive stream. -/
theorem DeliveredInOrder.of_setStreams (receiveStream sendStream : TransportStream Unit)
    (hnone : t.stream.mReceiveStream = none) (hopen : receiveStream.Open) (hempty : receiveStream.unread = []) :
    DeliveredInOrder first payload parity { t with stream := t.stream.setStreams receiveStream sendStream } := by
  refine ⟨h.order, h.data, ?_⟩
  intro halive
  obtain ⟨hsink, hgreatest, hbytes⟩ := h.alive halive
  have hwritten : ∃ stream : TransportStream Unit, stream.Open ∧ stream.unread = t.stream.sinkBytes ∧
      (t.stream.setStreams receiveStream sendStream).mReceiveStream = some stream := by
    obtain ⟨pending, hpending⟩ := Option.isSome_iff_exists.mp (hsink.pending hnone)
    have hpendingBytes : t.stream.sinkBytes = pending := by
      rw [sinkBytes, hnone, hpending]
      rfl
    unfold setStreams
    simp only [hsink.receiving, Bool.false_eq_true, if_false, hpending]
    by_cases hlength : pending.length > 0
    · rw [if_pos hlength]
      refine ⟨_, hopen.write pending none, ?_, rfl⟩
      rw [TransportStream.write_unread hopen, hempty, hpendingBytes, List.nil_append]
    · rw [if_neg hlength]
      refine ⟨_, hopen, ?_, rfl⟩
      rw [hempty, hpendingBytes, List.eq_nil_of_length_eq_zero (Nat.eq_zero_of_not_pos hlength)]
  obtain ⟨stream, hstream, hunread, hgiven⟩ := hwritten
  refine ⟨⟨hsink.receiving, ?_, ?_⟩, hgreatest, ?_⟩
  · intro stream' heq
    rw [hgiven] at heq
    cases heq
    exact hstream
  · intro hnone'
    rw [hgiven] at hnone'
    cases hnone'
  · refine Eq.trans ?_ hbytes
    change t.taken ++ (t.stream.setStreams receiveStream sendStream).sinkBytes = t.taken ++ t.stream.sinkBytes
    rw [sinkBytes, hgiven, ← hunread]

theorem DeliveredInOrder.of_take : DeliveredInOrder first payload parity (t.own .take) := by
  unfold RUDPChannelEndpoint.own
  cases hstream : t.stream.mReceiveStream with
  | none => exact h
  | some stream =>
    cases hread : stream.readBuffer with
    | mk r rest =>
      cases r with
      | none =>
        simp only [hread]
        exact h
      | some r =>
        simp only [hread]
        refine ⟨h.order, h.data, ?_⟩
        intro halive
        obtain ⟨hsink, hgreatest, hbytes⟩ := h.alive halive
        have hrest : rest.Open := by
          have hopen := (hsink.stream stream hstream).readBuffer
          rwa [hread] at hopen
        refine ⟨⟨hsink.receiving, ?_, ?_⟩, hgreatest, ?_⟩
        · intro stream' heq
          cases heq
          exact hrest
        · intro hnone
          cases hnone
        · change (t.taken ++ r.1) ++ rest.unread = _
          rw [List.append_assoc, ← TransportStream.readBuffer_unread hread]
          rw [RUDPChannelEndpoint.handedOver, sinkBytes, hstream] at hbytes
          exact hbytes

end

theorem receiveKept_proceed (s : RUDPChannelStream) (input : SendNowInput) (l : SendNow) :
    ReceiveKept s (s.proceed input l).2 := by
  rcases proceed_cases (fun _ => True) s input l with hkept | ⟨-, hproceed⟩
  · exact hkept.receiveKept
  · rw [hproceed]
    rcases @createPacket_cases (fun _ => True) s input.now input.parity l with ⟨hsame, -⟩ |
      ⟨stream, ackRequired, packet, bytes, -, -, hcreate⟩
    · exact .inl hsame.receiveSame
    · rw [hcreate]
      exact .inl ⟨rfl, rfl, ⟨rfl, rfl, rfl⟩⟩

theorem DeliveredInOrder.of_shutdownSend (h : DeliveredInOrder first payload parity t) (state : Shutdown)
    (hstate : state.receive = false) :
    DeliveredInOrder first payload parity { t with stream := t.stream.shutdownDirection state } := by
  obtain ⟨c, f, hlive, heq⟩ := shutdownDirection_eq t.stream state
  rw [heq]
  refine ⟨h.order, h.data, ?_⟩
  intro halive
  have halive' : t.stream.isShutdown = false := hlive.symm.trans halive
  obtain ⟨hsink, hgreatest, hbytes⟩ := h.alive halive'
  simp only [hsink.receiving, hstate, Bool.or_self, Bool.false_eq_true, if_false]
  exact ⟨⟨rfl, hsink.stream, hsink.pending⟩, hgreatest, hbytes⟩

/-- What one event keeps. -/
theorem DeliveredInOrder.step (h : DeliveredInOrder first payload parity t) (event : RUDPChannelEvent)
    (hok : Receives first payload parity t event) : DeliveredInOrder first payload parity (t.step event) := by
  cases event with
  | handlePacket now packet ecnMarked =>
    obtain ⟨n, hfirst, hlo, hhi, hnumber, hdata, hparity⟩ := hok
    have hn : packet.getSequenceNumber t.stream.mGSNR = n := by
      rw [getSequenceNumber, hnumber, getNumberWithHint_low24 n _ hlo hhi]
    rcases @handlePacket_cases (fun _ => True) t.stream now packet ecnMarked (acks_true _) with hsame |
      ⟨s, hsame, hrefused, -⟩ | ⟨s, hsame, hlow, hnew, haccepted⟩
    · exact h.of_same hsame.receiveSame rfl
    · rw [RUDPChannelEndpoint.step, hrefused]
      exact h.of_refused hsame.receiveSame
    · rw [RUDPChannelEndpoint.step, haccepted, hn]
      rw [hn] at hlow hnew
      have hs : DeliveredInOrder first payload parity { t with stream := s } := h.of_same hsame.receiveSame rfl
      exact hs.of_accepted now n packet hlow hnew hdata hparity
  | handleExternalAck now id ack =>
    rcases @handleExternalAck_cases (fun _ => True) t.stream now id ack (acks_true _) with hsame |
      ⟨s, hsame, hrefused, -⟩
    · exact h.of_same hsame.receiveSame rfl
    · rw [RUDPChannelEndpoint.step, hrefused]
      exact h.of_refused hsame.receiveSame
  | own event =>
    cases event with
    | sendNow =>
      rw [RUDPChannelEndpoint.step, RUDPChannelEndpoint.own]
      split
      next hsend =>
        exact h.of_same (untouched_sendNow (fun _ => True) t.stream _ _ hsend).2.receiveSame rfl
      · exact h
    | proceed input =>
      rw [RUDPChannelEndpoint.step, RUDPChannelEndpoint.own]
      split
      · exact h
      · exact h.of_kept (receiveKept_proceed t.stream input _) rfl
    | onTimer timer coin => exact h.of_same (untouched_onTimer (fun _ => True) t.stream timer coin).receiveSame rfl
    | notifyExternalACKSent => exact h.of_same ⟨rfl, rfl, ⟨rfl, rfl, rfl⟩⟩ rfl
    | notifySocketWriteReady =>
      refine h.of_same (?_ : ReceiveSame t.stream t.stream.notifySocketWriteReady) rfl
      unfold notifySocketWriteReady
      split <;> exact ⟨rfl, rfl, ⟨rfl, rfl, rfl⟩⟩
    | holdSendingUntilReceiveSequenceNumber n => exact h.of_same ⟨rfl, rfl, ⟨rfl, rfl, rfl⟩⟩ rfl
    | delegateGone => exact h.of_kept (kept_delegateGone (fun _ => True) t.stream).receiveKept rfl
    | setStreams receiveStream sendStream =>
      obtain ⟨hnone, hopen, hempty⟩ := hok
      exact h.of_setStreams receiveStream sendStream hnone hopen hempty
    | shutdown onlyOnceAllDataSent => exact hok.elim
    | shutdownDirection state => exact h.of_shutdownSend state hok
    | write data => exact h.of_same ⟨rfl, rfl, ⟨rfl, rfl, rfl⟩⟩ rfl
    | take => exact h.of_take

theorem create_deliveredInOrder (first : Nat) (hfirst : 0 < first) (payload : Nat → List UInt8) (parity : Nat → Bool)
    (now : Int) (next : Nat) (sendingChannelNumber receivingChannelNumber : UInt16) (minimumRTT : Nat) :
    DeliveredInOrder first payload parity
      (.create (.create now next first sendingChannelNumber receivingChannelNumber minimumRTT)) := by
  have hempty : List.range' first (first - 1 + 1 - first) = [] := by
    rw [show first - 1 + 1 - first = 0 by omega, List.range'_zero]
  refine ⟨⟨?_, le_refl _, ?_, List.Pairwise.nil, ?_, ?_, ?_⟩, ?_, ?_⟩
  · change first ≤ first - 1 + 1
    omega
  · change false = xorParity parity first (first - 1)
    rw [xorParity, hempty, List.foldl_nil]
  · intro p hp
    cases hp
  · intro p hp
    cases hp
  · intro hle
    change first ≤ first - 1 at hle
    omega
  · intro p hp
    cases hp
  · intro _
    refine ⟨⟨rfl, ?_, fun _ => rfl⟩, fun hne => absurd rfl hne, ?_⟩
    · intro stream heq
      cases heq
    · change ([] : List UInt8) ++ [] = payloads payload first (first - 1)
      rw [payloads, hempty]
      rfl

end Assignment

section NothingSent

/-- The calls that only receive. -/
def OnlyReceives : RUDPChannelEvent → Prop
  | .handlePacket _ _ _ => True
  | .own (.setStreams _ _) => True
  | .own .take => True
  | _ => False

/-- A stream that is not ended and has sent nothing. -/
def NothingSent (s : RUDPChannelStream) : Prop := s.isShutdown = false ∧ s.records = []

variable {s : RUDPChannelStream}

theorem NothingSent.of_untouched {acked : Nat → Prop} {s' : RUDPChannelStream} (h : NothingSent s)
    (hsame : Untouched acked s s') : NothingSent s' :=
  ⟨hsame.shutdown.trans h.1, hsame.records.trans h.2⟩

theorem NothingSent.sending (h : NothingSent s) : s.mSendingPackets = [] :=
  (List.append_eq_nil_iff.mp (List.map_eq_nil_iff.mp h.2)).2

/-- With nothing sent there is nothing to acknowledge, and so no illegal acknowledgement. -/
theorem NothingSent.handlePacket (h : NothingSent s) (now : Int) (packet : RUDPPacket) (ecnMarked : Bool) :
    NothingSent (s.handlePacket now packet ecnMarked).2 := by
  rcases @handlePacket_cases (fun _ => True) s now packet ecnMarked (acks_true _) with hsame |
    ⟨s', -, -, u, -, hsend, hillegal⟩ | ⟨s', hsame, -, -, haccepted⟩
  · exact h.of_untouched hsame
  · have hnone : u.mSendingPackets.length = 0 := by
      rw [show u.mSendingPackets = s.mSendingPackets from congrArg SendWindow.mSendingPackets hsend, h.sending]
      rfl
    rw [handleAck, if_pos hnone] at hillegal
    cases hillegal
  · have hs' := h.of_untouched hsame
    have hkept := s'.acceptPacket_sending now (packet.getSequenceNumber s.mGSNR) packet
    rw [haccepted]
    exact ⟨hkept.isShutdown.trans hs'.1, hkept.records.trans hs'.2⟩

theorem NothingSent.step {t : RUDPChannelEndpoint} (h : NothingSent t.stream) (event : RUDPChannelEvent)
    (hevent : OnlyReceives event) : NothingSent (t.step event).stream := by
  cases event with
  | handlePacket now packet ecnMarked => exact h.handlePacket now packet ecnMarked
  | handleExternalAck => exact hevent.elim
  | own event =>
    cases event with
    | setStreams receiveStream sendStream => exact h
    | take =>
      rw [RUDPChannelEndpoint.step, RUDPChannelEndpoint.own]
      split
      · exact h
      · split <;> exact h
    | _ => exact hevent.elim

end NothingSent

/-- Over every run that receives, the bytes handed to the application are the payloads of the
numbers up to which everything was received; the parities are those of the packets, and what is
held lies between the gap and the greatest number received. A stream that was ended holds nothing
and hands over nothing more; calls that only receive do not end it. -/
theorem delivered_in_order (first : Nat) (hfirst : 0 < first) (payload : Nat → List UInt8) (parity : Nat → Bool)
    (now : Int) (next : Nat) (sendingChannelNumber receivingChannelNumber : UInt16) (minimumRTT : Nat)
    (events : List RUDPChannelEvent)
    (hreceives : Meets RUDPChannelEndpoint.step (Receives first payload parity)
      (.create (.create now next first sendingChannelNumber receivingChannelNumber minimumRTT)) events) :
    let t := run RUDPChannelEndpoint.step
      (.create (.create now next first sendingChannelNumber receivingChannelNumber minimumRTT)) events
    t.stream.mXORedParityToGSNFR = xorParity parity first t.stream.mGSNFR ∧
    (∀ p ∈ t.stream.mReceivedPackets, t.stream.mGSNFR + 1 < p.mSequenceNumber ∧ p.mSequenceNumber ≤ t.stream.mGSNR) ∧
    (t.stream.isShutdown = false →
      t.handedOver = payloads payload first t.stream.mGSNFR ∧
      (t.stream.mGSNR ≠ t.stream.mGSNFR →
        (∃ p ∈ t.stream.mReceivedPackets, p.mSequenceNumber = t.stream.mGSNR) ∧
        t.stream.mGSNRParity = parity t.stream.mGSNR)) ∧
    ((∀ event ∈ events, OnlyReceives event) → t.stream.isShutdown = false) := by
  have hdelivered := run_invariant _ (fun t event hok h => DeliveredInOrder.step h event hok) _ events hreceives
    (create_deliveredInOrder first hfirst payload parity now next sendingChannelNumber receivingChannelNumber minimumRTT)
  intro t
  have horder : InOrder first parity t.stream.toReceiveWindow := hdelivered.order
  refine ⟨horder.xor, horder.keys, ?_, ?_⟩
  · intro halive
    obtain ⟨-, hgreatest, hbytes⟩ := hdelivered.alive halive
    refine ⟨hbytes, fun hne => ⟨hgreatest hne, horder.greatestParity ?_⟩⟩
    have hle := horder.le
    have hlow := horder.first_le
    omega
  · intro honly
    have hcreated : NothingSent (RUDPChannelEndpoint.create
        (.create now next first sendingChannelNumber receivingChannelNumber minimumRTT)).stream := ⟨rfl, rfl⟩
    have hnothing := run_invariant (fun t : RUDPChannelEndpoint => NothingSent t.stream)
      (fun t event hok h => NothingSent.step h event hok) _ events (meets_of_forall _ events honly) hcreated
    exact hnothing.1

/-- Two packets that arrive the wrong way round, with the streams given in between. -/
theorem delivered_in_order_swapped :
    let payload := fun n => [UInt8.ofNat n]
    let packet := fun n => { (RUDPPacket.create.setSequenceNumber n) with mData := payload n }
    let t := run RUDPChannelEndpoint.step (.create (.create 0 1 1 0 0 0))
      [.handlePacket 0 (packet 2) false, .own (.setStreams .create .create), .handlePacket 0 (packet 1) false]
    t.handedOver = payloads payload 1 t.stream.mGSNFR ∧ t.handedOver = [1, 2] := by
  intro payload packet t
  have hflag : RUDPPacket.create.isFlagSet .psParitySending = false := by decide
  have hassigned : ∀ n gsnr, 1 ≤ n → gsnr < n + 0x800000 → n < gsnr + 0x800000 →
      Assigned 1 payload (fun _ => false) gsnr (packet n) := fun n gsnr hn hlo hhi => ⟨n, hn, hlo, hhi, rfl, rfl, hflag⟩
  have hdelivered := delivered_in_order 1 (by decide) payload (fun _ => false) 0 1 0 0 0
    [.handlePacket 0 (packet 2) false, .own (.setStreams .create .create), .handlePacket 0 (packet 1) false]
    ⟨hassigned 2 _ (by decide) (by decide) (by decide), ⟨by decide, TransportStream.create_open, rfl⟩,
      hassigned 1 _ (by decide) (by decide) (by decide), trivial⟩
  exact ⟨(hdelivered.2.2.1 (hdelivered.2.2.2 (by simp [OnlyReceives]))).1, by decide +kernel⟩

end OpenPeer
