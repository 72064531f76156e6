import OpenPeer.Runs
import OpenPeer.RUDPChannelEndpoint

/-!
# In-order delivery

Packets arrive in any order, some of them never and some of them more than once.
The window of packets received holds those behind a gap, and what is handed to
the application is the data of all packets before the gap, each once.
-/
namespace OpenPeer

open Reorder Runs

theorem range'_split (first n k : Nat) (h : first ≤ n + 1) :
    List.range' first (n + k + 1 - first) = List.range' first (n + 1 - first) ++ List.range' (n + 1) k := by
  have happend := @List.range'_append first (n + 1 - first) k 1
  rw [show first + 1 * (n + 1 - first) = n + 1 by omega] at happend
  rw [happend, show n + 1 - first + k = n + k + 1 - first by omega]

/-- The parity of all packets from the first one to the given one. -/
def xorParity (parity : Nat → Bool) (first n : Nat) : Bool :=
  (List.range' first (n + 1 - first)).foldl (fun b i => logicalXOR b (parity i)) false

theorem xorParity_add (parity : Nat → Bool) (first n k : Nat) (h : first ≤ n + 1) :
    xorParity parity first (n + k) =
      (List.range' (n + 1) k).foldl (fun b i => logicalXOR b (parity i)) (xorParity parity first n) := by
  rw [xorParity, range'_split first n k h, List.foldl_append, xorParity]

/-- The order of a window: what is held lies behind a gap, and the parities are those of the
packets. -/
structure InOrder (first : Nat) (parity : Nat → Bool) (w : ReceiveWindow) : Prop where
  first_le : first ≤ w.mGSNFR + 1
  le : w.mGSNFR ≤ w.mGSNR
  xor : w.mXORedParityToGSNFR = xorParity parity first w.mGSNFR
  ascending : Ascending (fun p : BufferedPacket => p.mSequenceNumber) w.mReceivedPackets
  keys : ∀ p ∈ w.mReceivedPackets, w.mGSNFR + 1 < p.mSequenceNumber ∧ p.mSequenceNumber ≤ w.mGSNR
  parities : ∀ p ∈ w.mReceivedPackets, p.parity = parity p.mSequenceNumber
  greatestParity : first ≤ w.mGSNR → w.mGSNRParity = parity w.mGSNR

/-- The greatest number received is held, unless everything up to it was received. -/
def GreatestHeld (w : ReceiveWindow) : Prop :=
  w.mGSNR ≠ w.mGSNFR → ∃ p ∈ w.mReceivedPackets, p.mSequenceNumber = w.mGSNR

variable {first : Nat} {parity : Nat → Bool} {w : ReceiveWindow}

theorem InOrder.cleared (h : InOrder first parity w) : InOrder first parity { w with mReceivedPackets := [] } :=
  ⟨h.first_le, h.le, h.xor, List.Pairwise.nil, by simp, by simp, h.greatestParity⟩

/-- The order of a window, whatever the parities are. -/
structure WindowOrder (w : ReceiveWindow) : Prop where
  le : w.mGSNFR ≤ w.mGSNR
  ascending : Ascending (fun p : BufferedPacket => p.mSequenceNumber) w.mReceivedPackets
  keys : ∀ p ∈ w.mReceivedPackets, w.mGSNFR + 1 < p.mSequenceNumber ∧ p.mSequenceNumber ≤ w.mGSNR

theorem InOrder.window (h : InOrder first parity w) :
    WindowOrder w := { h with }

/-- What a delivery has no part in. -/
structure SendingSame (s s' : RUDPChannelStream) : Prop where
  state : s'.mCurrentState = s.mCurrentState
  shutdownState : s'.mShutdownState = s.mShutdownState
  next : s'.mNextSequenceNumber = s.mNextSequenceNumber
  parity : s'.mXORedParityToNow = s.mXORedParityToNow
  sending : s'.mSendingPackets = s.mSendingPackets
  removed : s'.mRemovedPackets = s.mRemovedPackets
  error : s'.mLastError = s.mLastError

theorem SendingSame.trans {s s' s'' : RUDPChannelStream} (h : SendingSame s s') (h' : SendingSame s' s'') :
    SendingSame s s'' :=
  ⟨h'.state.trans h.state, h'.shutdownState.trans h.shutdownState, h'.next.trans h.next, h'.parity.trans h.parity,
    h'.sending.trans h.sending, h'.removed.trans h.removed, h'.error.trans h.error⟩

theorem SendingSame.isShutdown {s s' : RUDPChannelStream} (h : SendingSame s s') : s'.isShutdown = s.isShutdown :=
  congrArg (· == RUDPChannelStreamStates.shutdown) h.state

theorem SendingSame.records {s s' : RUDPChannelStream} (h : SendingSame s s') : s'.records = s.records := by
  rw [SendWindow.records, h.removed, h.sending, SendWindow.records]

namespace RUDPChannelStream

section Deliver

variable (s : RUDPChannelStream)

variable (data : List UInt8)

theorem putReceived_window : (s.putReceived data).toReceiveWindow = s.toReceiveWindow := by
  unfold putReceived
  split
  · rfl
  · split <;> rfl

theorem putReceived_sending : SendingSame s (s.putReceived data) := by
  unfold putReceived
  split
  · exact ⟨rfl, rfl, rfl, rfl, rfl, rfl, rfl⟩
  · split <;> exact ⟨rfl, rfl, rfl, rfl, rfl, rfl, rfl⟩

variable (p : BufferedPacket)

theorem deliverPacket_window (rest : List BufferedPacket) :
    (s.deliverPacket p rest).toReceiveWindow = { s.toReceiveWindow with
      mGSNFR := p.mSequenceNumber
      mXORedParityToGSNFR := logicalXOR s.mXORedParityToGSNFR p.parity
      mReceivedPackets := rest } := by
  unfold deliverPacket
  simp only
  split
  · rw [putReceived_window]
  · rfl

theorem deliverPacket_sending (rest : List BufferedPacket) : SendingSame s (s.deliverPacket p rest) := by
  unfold deliverPacket
  simp only
  split
  · have hput := putReceived_sending { s with mLastDeliveredReadData := p.mTimeSentOrReceived } p.mRUDPPacket.mData
    exact { hput with }
  · exact ⟨rfl, rfl, rfl, rfl, rfl, rfl, rfl⟩

variable (ps : List BufferedPacket)

/-- The delivery takes the series at the front out of the window. -/
theorem deliverLoop_window (h : s.mReceivedPackets = ps) :
    (deliverLoop ps s).toReceiveWindow = { s.toReceiveWindow with
      mGSNFR := s.mGSNFR + (series (fun p : BufferedPacket => p.mSequenceNumber) (s.mGSNFR + 1) ps).1.length
      mXORedParityToGSNFR :=
        (series (fun p : BufferedPacket => p.mSequenceNumber) (s.mGSNFR + 1) ps).1.foldl
          (fun b p => logicalXOR b p.parity) s.mXORedParityToGSNFR
      mReceivedPackets := (series (fun p : BufferedPacket => p.mSequenceNumber) (s.mGSNFR + 1) ps).2 } := by
  induction ps generalizing s with
  | nil =>
    change s.toReceiveWindow = { s.toReceiveWindow with mReceivedPackets := [] }
    rw [← h]
  | cons p ps ih =>
    rw [deliverLoop, series]
    by_cases hp : p.mSequenceNumber = s.mGSNFR + 1
    · have hwindow := s.deliverPacket_window p ps
      have hgsnfr : (s.deliverPacket p ps).mGSNFR = s.mGSNFR + 1 := by
        rw [show (s.deliverPacket p ps).mGSNFR = p.mSequenceNumber from congrArg ReceiveWindow.mGSNFR hwindow, hp]
      have hxor : (s.deliverPacket p ps).mXORedParityToGSNFR = logicalXOR s.mXORedParityToGSNFR p.parity :=
        congrArg ReceiveWindow.mXORedParityToGSNFR hwindow
      rw [if_neg (not_not_intro hp), if_pos hp,
        ih (s.deliverPacket p ps) (congrArg ReceiveWindow.mReceivedPackets hwindow), hgsnfr, hxor, hwindow]
      simp only [List.length_cons, List.foldl_cons]
      rw [show s.mGSNFR + 1 + (series (fun p : BufferedPacket => p.mSequenceNumber) (s.mGSNFR + 1 + 1) ps).1.length
        = s.mGSNFR + ((series (fun p : BufferedPacket => p.mSequenceNumber) (s.mGSNFR + 1 + 1) ps).1.length + 1) by
          omega]
    · rw [if_pos hp, if_neg hp]
      simp only [List.length_nil, Nat.add_zero, List.foldl_nil, ← h]

theorem deliverLoop_sending : SendingSame s (deliverLoop ps s) := by
  induction ps generalizing s with
  | nil => exact ⟨rfl, rfl, rfl, rfl, rfl, rfl, rfl⟩
  | cons p ps ih =>
    rw [deliverLoop]
    split
    · exact ⟨rfl, rfl, rfl, rfl, rfl, rfl, rfl⟩
    · exact (s.deliverPacket_sending p ps).trans (ih _)

end Deliver

section Accept

variable (s : RUDPChannelStream) (now : Int) (n : Nat) (packet : RUDPPacket)

/-- The window with a packet put into it, before anything is delivered. -/
def insertedWindow (w : ReceiveWindow) : ReceiveWindow :=
  { w with
    mGSNR := max n w.mGSNR
    mGSNRParity := if n > w.mGSNR then packet.isFlagSet .psParitySending else w.mGSNRParity
    mReceivedPackets := insertPacket (.create now n packet) w.mReceivedPackets }

theorem acceptPacket_eq : s.acceptPacket now n packet =
    { s with toReceiveWindow := insertedWindow now n packet s.toReceiveWindow }.deliverReadPackets := by
  unfold acceptPacket insertedWindow
  by_cases h : n > s.mGSNR
  · simp only [if_pos h, Nat.max_eq_left (Nat.le_of_lt h)]
  · simp only [if_neg h, Nat.max_eq_right (Nat.le_of_not_gt h)]

theorem acceptPacket_sending : SendingSame s (s.acceptPacket now n packet) := by
  rw [acceptPacket_eq]
  have hsame := deliverLoop_sending { s with toReceiveWindow := insertedWindow now n packet s.toReceiveWindow }
    (insertedWindow now n packet s.toReceiveWindow).mReceivedPackets
  exact { hsame with }

variable {first : Nat} {parity : Nat → Bool} {w : ReceiveWindow}

/-- A window with the given numbers, its series still to be delivered. -/
structure Inserted (first : Nat) (parity : Nat → Bool) (w : ReceiveWindow) : Prop where
  first_le : first ≤ w.mGSNFR + 1
  lt : w.mGSNFR < w.mGSNR
  xor : w.mXORedParityToGSNFR = xorParity parity first w.mGSNFR
  ascending : Ascending (fun p : BufferedPacket => p.mSequenceNumber) w.mReceivedPackets
  keys : ∀ p ∈ w.mReceivedPackets, w.mGSNFR < p.mSequenceNumber ∧ p.mSequenceNumber ≤ w.mGSNR
  parities : ∀ p ∈ w.mReceivedPackets, p.parity = parity p.mSequenceNumber
  greatestParity : w.mGSNRParity = parity w.mGSNR

theorem insertedWindow_inserted (h : InOrder first parity w) (hn : w.mGSNFR < n)
    (hparity : packet.isFlagSet .psParitySending = parity n) :
    Inserted first parity (insertedWindow now n packet w) := by
  have hle := h.le
  have hfirst := h.first_le
  refine ⟨h.first_le, lt_of_lt_of_le hn (le_max_left _ _), h.xor, insert_ascending h.ascending, ?_, ?_, ?_⟩
  · intro q hq
    rcases mem_insert hq with rfl | hq
    · exact ⟨hn, le_max_left _ _⟩
    · exact ⟨by have := (h.keys q hq).1; simp only [insertedWindow]; omega, le_trans (h.keys q hq).2 (le_max_right _ _)⟩
  · intro q hq
    rcases mem_insert hq with rfl | hq
    · exact hparity
    · exact h.parities q hq
  · by_cases hgt : n > w.mGSNR
    · simp only [insertedWindow, if_pos hgt, Nat.max_eq_left (Nat.le_of_lt hgt), hparity]
    · simp only [insertedWindow, if_neg hgt, Nat.max_eq_right (Nat.le_of_not_gt hgt)]
      exact h.greatestParity (by omega)

theorem insertedWindow_greatest (hgreatest : GreatestHeld w) (hn : w.mGSNFR < n)
    (hnew : ∀ p ∈ w.mReceivedPackets, p.mSequenceNumber ≠ n) :
    ∃ p ∈ (insertedWindow now n packet w).mReceivedPackets,
      p.mSequenceNumber = (insertedWindow now n packet w).mGSNR := by
  by_cases hgt : n > w.mGSNR
  · exact ⟨_, mem_insert_self _ _, (Nat.max_eq_left (Nat.le_of_lt hgt)).symm⟩
  · obtain ⟨p, hp, hpn⟩ := hgreatest (by omega)
    exact ⟨p, mem_insert_of_ne hp (hnew p hp), hpn.trans (Nat.max_eq_right (Nat.le_of_not_gt hgt)).symm⟩

theorem series_parity (h : Inserted first parity w) :
    (series (fun p : BufferedPacket => p.mSequenceNumber) (w.mGSNFR + 1) w.mReceivedPackets).1.foldl
        (fun b p => logicalXOR b p.parity) w.mXORedParityToGSNFR =
      xorParity parity first (w.mGSNFR +
        (series (fun p : BufferedPacket => p.mSequenceNumber) (w.mGSNFR + 1) w.mReceivedPackets).1.length) := by
  have hkeys := series_keys (fun p : BufferedPacket => p.mSequenceNumber) (w.mGSNFR + 1) w.mReceivedPackets
  have happend := series_append (fun p : BufferedPacket => p.mSequenceNumber) (w.mGSNFR + 1) w.mReceivedPackets
  generalize series (fun p : BufferedPacket => p.mSequenceNumber) (w.mGSNFR + 1) w.mReceivedPackets = r at *
  have hmem : ∀ p ∈ r.1, p.parity = parity p.mSequenceNumber := fun p hp =>
    h.parities p (happend ▸ List.mem_append_left _ hp)
  rw [xorParity_add parity first w.mGSNFR _ h.first_le, ← hkeys, List.foldl_map, h.xor]
  exact List.foldl_ext _ _ _ fun b p hp => by rw [hmem p hp]

/-- A delivery takes the series out and leaves a gap in front of what is held. -/
theorem delivered_order (hlt : s.mGSNFR < s.mGSNR)
    (hascending : Ascending (fun p : BufferedPacket => p.mSequenceNumber) s.mReceivedPackets)
    (hheld : ∀ p ∈ s.mReceivedPackets, s.mGSNFR < p.mSequenceNumber ∧ p.mSequenceNumber ≤ s.mGSNR) :
    WindowOrder s.deliverReadPackets.toReceiveWindow ∧
      ((∃ p ∈ s.mReceivedPackets, p.mSequenceNumber = s.mGSNR) → GreatestHeld s.deliverReadPackets.toReceiveWindow) := by
  have hrest := series_rest (fun p : BufferedPacket => p.mSequenceNumber) (s.mGSNFR + 1) s.mReceivedPackets
    hascending (fun p hp => (hheld p hp).1)
  have happend := series_append (fun p : BufferedPacket => p.mSequenceNumber) (s.mGSNFR + 1) s.mReceivedPackets
  have hkeys := series_keys (fun p : BufferedPacket => p.mSequenceNumber) (s.mGSNFR + 1) s.mReceivedPackets
  have hleft := series_rest_ascending (fun p : BufferedPacket => p.mSequenceNumber) (s.mGSNFR + 1)
    s.mReceivedPackets hascending
  rw [deliverReadPackets, deliverLoop_window s s.mReceivedPackets rfl]
  generalize series (fun p : BufferedPacket => p.mSequenceNumber) (s.mGSNFR + 1) s.mReceivedPackets = r at *
  have hmem : ∀ p ∈ r.2, p ∈ s.mReceivedPackets := fun p hp => happend ▸ List.mem_append_right _ hp
  have hlast : s.mGSNFR + r.1.length ≤ s.mGSNR := by
    rcases Nat.eq_zero_or_pos r.1.length with hzero | hpos
    · rw [hzero]
      exact Nat.le_of_lt hlt
    · have hin : s.mGSNFR + r.1.length ∈ r.1.map fun p => p.mSequenceNumber := by
        rw [hkeys, List.mem_range'_1]
        omega
      obtain ⟨p, hp, hpn⟩ := List.mem_map.mp hin
      have hle := (hheld p (happend ▸ List.mem_append_left _ hp)).2
      omega
  refine ⟨⟨hlast, hleft, ?_⟩, ?_⟩
  · intro p hp
    have hgap := hrest p hp
    exact ⟨by simp only; omega, (hheld p (hmem p hp)).2⟩
  · rintro ⟨p, hp, hpn⟩ hne
    rw [← happend] at hp
    rcases List.mem_append.mp hp with hp | hp
    · have hin : p.mSequenceNumber ∈ r.1.map fun p => p.mSequenceNumber := List.mem_map_of_mem hp
      rw [hkeys, List.mem_range'_1] at hin
      simp only at hne
      omega
    · exact ⟨p, hp, hpn⟩

theorem delivered_inOrder (h : Inserted first parity s.toReceiveWindow) :
    InOrder first parity s.deliverReadPackets.toReceiveWindow ∧
      ((∃ p ∈ s.mReceivedPackets, p.mSequenceNumber = s.mGSNR) → GreatestHeld s.deliverReadPackets.toReceiveWindow) := by
  obtain ⟨horder, hgreatest⟩ := delivered_order s h.lt h.ascending h.keys
  have happend := series_append (fun p : BufferedPacket => p.mSequenceNumber) (s.mGSNFR + 1) s.mReceivedPackets
  have hxor := series_parity h
  refine ⟨⟨?_, horder.le, ?_, horder.ascending, horder.keys, ?_, ?_⟩, hgreatest⟩ <;>
    rw [deliverReadPackets, deliverLoop_window s s.mReceivedPackets rfl]
  · have := h.first_le
    simp only
    omega
  · exact hxor
  · intro p hp
    exact h.parities p (happend ▸ List.mem_append_right _ hp)
  · exact fun _ => h.greatestParity

end Accept

section Sink

variable (s : RUDPChannelStream)

/-- What was handed over and is not read: it waits for the application to give its stream, or in
the stream it gave. -/
def sinkBytes : List UInt8 :=
  match s.mReceiveStream with
  | some stream => stream.unread
  | none => s.mPendingReceiveData.getD []

/-- The receive direction is open, and there is a place for what is received. -/
structure SinkOpen : Prop where
  receiving : s.mShutdownState.receive = false
  stream : ∀ stream, s.mReceiveStream = some stream → stream.Open
  pending : s.mReceiveStream = none → s.mPendingReceiveData.isSome

variable {s}

theorem putReceived_sink (h : s.SinkOpen) (data : List UInt8) :
    (s.putReceived data).SinkOpen ∧ (s.putReceived data).sinkBytes = s.sinkBytes ++ data := by
  unfold putReceived sinkBytes
  cases hstream : s.mReceiveStream with
  | some stream =>
    have hopen := h.stream stream hstream
    refine ⟨⟨h.receiving, ?_, ?_⟩, TransportStream.write_unread hopen data none⟩
    · intro stream' heq
      cases heq
      exact hopen.write data none
    · intro hnone
      cases hnone
  | none =>
    obtain ⟨pending, hpending⟩ := Option.isSome_iff_exists.mp (h.pending hstream)
    rw [hpending]
    refine ⟨⟨h.receiving, ?_, fun _ => rfl⟩, ?_⟩
    · intro stream heq
      cases heq
    · simp only [Option.getD_some]

theorem SinkOpen.of_same {s' : RUDPChannelStream} (h : s.SinkOpen)
    (hsink : s'.mReceiveStream = s.mReceiveStream ∧ s'.mPendingReceiveData = s.mPendingReceiveData ∧
      s'.mShutdownState = s.mShutdownState) : s'.SinkOpen ∧ s'.sinkBytes = s.sinkBytes := by
  obtain ⟨hstream, hpending, hshutdown⟩ := hsink
  refine ⟨⟨?_, ?_, ?_⟩, ?_⟩
  · rw [hshutdown]
    exact h.receiving
  · rw [hstream]
    exact h.stream
  · rw [hstream, hpending]
    exact h.pending
  · rw [sinkBytes, hstream, hpending, sinkBytes]

theorem deliverPacket_sink (h : s.SinkOpen) (p : BufferedPacket) (rest : List BufferedPacket) :
    (s.deliverPacket p rest).SinkOpen ∧
      (s.deliverPacket p rest).sinkBytes = s.sinkBytes ++ p.mRUDPPacket.mData := by
  obtain ⟨hopen, hbytes⟩ := @SinkOpen.of_same _
    { s with mLastDeliveredReadData := p.mTimeSentOrReceived } h ⟨rfl, rfl, rfl⟩
  unfold deliverPacket
  simp only
  split
  · obtain ⟨hput, hputBytes⟩ := putReceived_sink hopen p.mRUDPPacket.mData
    obtain ⟨hopen', hbytes'⟩ := @SinkOpen.of_same _ { putReceived p.mRUDPPacket.mData
      { s with mLastDeliveredReadData := p.mTimeSentOrReceived } with
        mGSNFR := p.mSequenceNumber
        mXORedParityToGSNFR := logicalXOR (putReceived p.mRUDPPacket.mData
          { s with mLastDeliveredReadData := p.mTimeSentOrReceived }).mXORedParityToGSNFR p.parity
        mReceivedPackets := rest } hput ⟨rfl, rfl, rfl⟩
    exact ⟨hopen', by rw [hbytes', hputBytes, hbytes]⟩
  next hempty =>
    have hdata : p.mRUDPPacket.mData = [] := by
      by_contra hne
      exact hempty ⟨List.length_pos_iff.mpr hne, by simp [h.receiving]⟩
    obtain ⟨hopen', hbytes'⟩ := @SinkOpen.of_same _ { s with
      mLastDeliveredReadData := p.mTimeSentOrReceived
      mGSNFR := p.mSequenceNumber
      mXORedParityToGSNFR := logicalXOR s.mXORedParityToGSNFR p.parity
      mReceivedPackets := rest } hopen ⟨rfl, rfl, rfl⟩
    exact ⟨hopen', by rw [hbytes', hbytes, hdata, List.append_nil]⟩

theorem deliverLoop_sink (ps : List BufferedPacket) (h : s.SinkOpen) :
    (deliverLoop ps s).SinkOpen ∧ (deliverLoop ps s).sinkBytes = s.sinkBytes ++
      (series (fun p : BufferedPacket => p.mSequenceNumber) (s.mGSNFR + 1) ps).1.flatMap fun p => p.mRUDPPacket.mData := by
  induction ps generalizing s with
  | nil => exact ⟨h, (List.append_nil _).symm⟩
  | cons p ps ih =>
    rw [deliverLoop, series]
    by_cases hp : p.mSequenceNumber = s.mGSNFR + 1
    · obtain ⟨hopen, hbytes⟩ := deliverPacket_sink h p ps
      have hgsnfr : (s.deliverPacket p ps).mGSNFR = s.mGSNFR + 1 := by
        rw [show (s.deliverPacket p ps).mGSNFR = p.mSequenceNumber from
          congrArg ReceiveWindow.mGSNFR (s.deliverPacket_window p ps), hp]
      obtain ⟨hopen', hbytes'⟩ := ih hopen
      rw [if_neg (not_not_intro hp), if_pos hp]
      refine ⟨hopen', ?_⟩
      rw [hbytes', hgsnfr, hbytes, List.append_assoc, List.flatMap_cons]
    · rw [if_pos hp, if_neg hp]
      exact ⟨h, (List.append_nil _).symm⟩

end Sink

end RUDPChannelStream

end OpenPeer
