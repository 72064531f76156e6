import OpenPeer.RUDPChannelHonesty
import OpenPeer.RUDPChannelSender
import OpenPeer.RUDPChannelWalk

/-!
# The acknowledgements within a burst

Every packet a burst creates carries an acknowledgement. The vector is encoded for
the first one and copied to the others, with the numbers and flags of the moment.
What goes out describes the window of that moment as long as nothing was received
in series since the first packet, or the vector has nothing to say.
-/
namespace OpenPeer

open RUDPPacket Runs RUDPChannelStream

section Truth

variable {held held' : Nat → Prop} {parity parity' : Nat → Bool} {a : Ack}

theorem receivedParity_arrived (n : Nat) (states : List VectorStates) (b : Bool)
    (h : ∀ i state, states[i]? = some state → state.isReceived = true → parity' (n + i) = parity (n + i)) :
    receivedParity parity' n states b = receivedParity parity n states b := by
  induction states generalizing n b with
  | nil => rfl
  | cons state states ih =>
    have hrest : ∀ i s, states[i]? = some s → s.isReceived = true → parity' (n + 1 + i) = parity (n + 1 + i) := by
      intro i s hs hreceived
      have hi := h (i + 1) s hs hreceived
      rwa [show n + (i + 1) = n + 1 + i by omega] at hi
    rw [receivedParity, receivedParity]
    by_cases hreceived : state.isReceived = true
    · rw [if_pos hreceived, if_pos hreceived, show parity' n = parity n from h 0 state rfl hreceived]
      exact ih (n + 1) _ hrest
    · rw [if_neg hreceived, if_neg hreceived]
      exact ih (n + 1) _ hrest

theorem VectorTruth.mono (h : VectorTruth held parity a) (hheld : ∀ n, held n → held' n)
    (hparity : ∀ n, held n → parity' n = parity n) : VectorTruth held' parity' a where
  fits := h.fits
  said := fun i state hi hreceived => hheld _ (h.said i state hi hreceived)
  vp := by
    rw [h.vp]
    exact (receivedParity_arrived _ _ _ fun i state hi hreceived => hparity _ (h.said i state hi hreceived)).symm

end Truth

namespace ReceiveWindow

/-- A packet with this number waits in the window. -/
def Waits (w : ReceiveWindow) (n : Nat) : Prop := ∃ p ∈ w.mReceivedPackets, p.mSequenceNumber = n

/-- The parity of the packet that waits with this number. -/
def waitingParity (w : ReceiveWindow) (n : Nat) : Bool :=
  ((w.mReceivedPackets.find? fun p => p.mSequenceNumber == n).map BufferedPacket.parity).getD false

end ReceiveWindow

/-- A packet describes a window: its numbers and flags are those of the window, its vector says that
a packet arrived only of those that wait in the window, with the parity of these, and it has no
vector when there is no gap. -/
structure Describes (w : ReceiveWindow) (packet : RUDPPacket) : Prop where
  gsnr : packet.mGSNR = low24 w.mGSNR
  gsnfr : packet.mGSNFR = low24 w.mGSNFR
  pg : packet.isFlagSet .pgParityGSNR = w.mGSNRParity
  xp : packet.isFlagSet .xpXORedParityToGSNFR = w.mXORedParityToGSNFR
  said : ∀ i state, (vectorDecoderStart packet.vectorBytes w.mGSNR w.mGSNFR).remaining[i]? = some state →
    state.isReceived = true → w.Waits (w.mGSNFR + 1 + i)
  vp : packet.isVectorFlagSet = receivedParity w.waitingParity (w.mGSNFR + 1)
    (vectorDecoderStart packet.vectorBytes w.mGSNR w.mGSNFR).remaining w.mXORedParityToGSNFR
  eq : packet.isFlagSet .eqGSNREqualsGSNFR = true → packet.vectorBytes = []

/-- An acknowledgement told before is still true of a window. -/
structure Told (w : ReceiveWindow) (a : Ack) : Prop where
  le : a.gsnr ≤ w.mGSNR
  xp : a.xpFlag = w.mXORedParityToGSNFR
  vector : a.gsnr ≠ a.gsnfr → VectorTruth w.Waits w.waitingParity a
  nothing : a.gsnr = a.gsnfr → a.vector = []

section Window

variable {w w' : ReceiveWindow} {a : Ack}

theorem waitingParity_eq (h : WindowOrder w) {p : BufferedPacket} (hp : p ∈ w.mReceivedPackets) :
    p.parity = w.waitingParity p.mSequenceNumber := by
  have hsome : (w.mReceivedPackets.find? fun q => q.mSequenceNumber == p.mSequenceNumber).isSome = true :=
    List.find?_isSome.mpr ⟨p, hp, beq_self_eq_true _⟩
  obtain ⟨q, hq⟩ := Option.isSome_iff_exists.mp hsome
  have hnumber : q.mSequenceNumber = p.mSequenceNumber := by simpa using List.find?_some hq
  have hsame : q = p := Ascending.unique h.ascending (List.mem_of_find?_eq_some hq) hp hnumber
  rw [ReceiveWindow.waitingParity, hq, hsame]
  rfl

theorem Told.mono (h : Told w a) (horder : WindowOrder w) (horder' : WindowOrder w') (hle : w.mGSNR ≤ w'.mGSNR)
    (hxp : w'.mXORedParityToGSNFR = w.mXORedParityToGSNFR)
    (hmem : ∀ p ∈ w.mReceivedPackets, p ∈ w'.mReceivedPackets) : Told w' a where
  le := le_trans h.le hle
  xp := h.xp.trans hxp.symm
  vector := by
    intro hne
    refine (h.vector hne).mono (fun n hn => ?_) (fun n hn => ?_)
    · obtain ⟨p, hp, hpn⟩ := hn
      exact ⟨p, hmem p hp, hpn⟩
    · obtain ⟨p, hp, rfl⟩ := hn
      rw [← waitingParity_eq horder hp, ← waitingParity_eq horder' (hmem p hp)]
  nothing := h.nothing

/-- What an acknowledgement made of the window says is told. -/
theorem told_window (h : WindowOrder w) (hgsnr : a.gsnr = w.mGSNR) (hgsnfr : a.gsnfr = w.mGSNFR)
    (hxp : a.xpFlag = w.mXORedParityToGSNFR)
    (hvector : a.vector = (vectorEncoderFinalize (encodeVector w 0x7F)).2)
    (hvp : a.vpFlag = (vectorEncoderFinalize (encodeVector w 0x7F)).1) :
    Told w a ∧ (a.vector = [] → a.vpFlag = a.xpFlag) := by
  have hle := h.le
  have htruth : a.gsnr ≠ a.gsnfr → VectorTruth w.Waits w.waitingParity a := fun hne =>
    vectorTruth_window h (fun p hp => waitingParity_eq h hp) (by omega) (fun p hp => ⟨p, hp, rfl⟩) 0x7F hgsnr hgsnfr hxp
      hvector hvp
  have hnothing : a.gsnr = a.gsnfr → a.vector = [] ∧ a.vpFlag = a.xpFlag := by
    intro heq
    have hnone := encodeVector_nothing h (by rw [← hgsnr, ← hgsnfr, heq]) 0x7F
    rw [hnone] at hvector hvp
    exact ⟨hvector, hvp.trans hxp.symm⟩
  refine ⟨⟨Nat.le_of_eq hgsnr, hxp, htruth, fun heq => (hnothing heq).1⟩, fun hempty => ?_⟩
  by_cases heq : a.gsnr = a.gsnfr
  · exact (hnothing heq).2
  · rw [(htruth heq).vp, hempty, decoder_special _ _ (by omega), receivedParity_missing]
    rw [List.any_eq_false]
    intro state hstate
    rw [List.eq_of_mem_replicate hstate]
    decide

end Window

/-- What the first packet of a burst said is still told: as long as nothing was received in series
since, it is true of the window. -/
def FirstTold (s : RUDPChannelStream) (l : SendNow) : Prop :=
  ∀ n, l.firstPacketCreated = some n → ∃ r, s.findRecord n = some r ∧
    (r.ack.vector = [] → r.ack.vpFlag = r.ack.xpFlag) ∧
    (s.isShutdown = false → r.gsnfr ≤ s.mGSNFR ∧ (r.gsnfr = s.mGSNFR → Told s.toReceiveWindow r.ack))

/-- The vector of the first packet of a burst may be copied: nothing was received in series since and
the stream was not ended, or the vector is empty and the parity of all received is as it was. -/
def StillTold (s : RUDPChannelStream) (l : SendNow) : Prop :=
  match l.firstPacketCreated.bind s.findPacket with
  | none => True
  | some first =>
    first.gsnfr = s.mGSNFR ∧ s.isShutdown = false ∨
      first.mRUDPPacket.vectorBytes = [] ∧ first.mRUDPPacket.isFlagSet .xpXORedParityToGSNFR = s.mXORedParityToGSNFR

instance (s : RUDPChannelStream) (l : SendNow) : Decidable (StillTold s l) := by
  unfold StillTold
  split <;> infer_instance

section Creation

variable {s : RUDPChannelStream} {l : SendNow} {bit : Bool} {packet : RUDPPacket}

theorem created_header (hpacket : Completes packet (s.vectoredPacket bit l)) :
    packet.mGSNR = low24 s.mGSNR ∧ packet.mGSNFR = low24 s.mGSNFR ∧
      packet.isFlagSet .pgParityGSNR = s.mGSNRParity ∧ packet.isFlagSet .xpXORedParityToGSNFR = s.mXORedParityToGSNFR ∧
      packet.isFlagSet .eqGSNREqualsGSNFR = (s.mGSNR == s.mGSNFR) ∧
      packet.vectorBytes = (s.vectoredPacket bit l).vectorBytes ∧
      packet.isVectorFlagSet = (s.vectoredPacket bit l).isVectorFlagSet := by
  obtain ⟨hflags, -, hgsnr, hgsnfr⟩ := vectoredPacket_header bit l s
  obtain ⟨-, hpg, hxp, heq⟩ := newPacket_flags bit s
  obtain ⟨-, hgsnr', hgsnfr', hvector, hvp, hsame⟩ := hpacket.same
  have hflag : ∀ f, f ≠ .arACKRequired → packet.isFlagSet f = (s.newPacket bit).isFlagSet f := by
    intro f hf
    rw [hsame f hf, isFlagSet, hflags]
    rfl
  exact ⟨hgsnr'.trans hgsnr, hgsnfr'.trans hgsnfr, (hflag _ (by decide)).trans hpg, (hflag _ (by decide)).trans hxp,
    (hflag _ (by decide)).trans heq, hvector, hvp⟩

/-- A packet with a vector that is true of the window describes it. -/
theorem describes_of_told {a : Ack} (hpacket : Completes packet (s.vectoredPacket bit l)) (hgsnr : a.gsnr = s.mGSNR)
    (hgsnfr : a.gsnfr = s.mGSNFR) (hvector : a.vector = packet.vectorBytes) (hvp : a.vpFlag = packet.isVectorFlagSet)
    (htold : Told s.toReceiveWindow a) (hempty : a.vector = [] → a.vpFlag = a.xpFlag) :
    Describes s.toReceiveWindow packet := by
  obtain ⟨hgsnr', hgsnfr', hpg, hxp, heq, -, -⟩ := created_header hpacket
  have hdecoded : s.mGSNR = s.mGSNFR →
      (vectorDecoderStart packet.vectorBytes s.mGSNR s.mGSNFR).remaining = [] := by
    intro hsame
    rw [← hvector, htold.nothing (by omega), hsame, vectorDecoderStart, if_neg (fun h => h.1 rfl)]
    rfl
  refine ⟨hgsnr', hgsnfr', hpg, hxp, ?_, ?_, ?_⟩
  · intro i state hi hreceived
    by_cases hsame : s.mGSNR = s.mGSNFR
    · rw [hdecoded hsame] at hi
      cases hi
    · have htruth := htold.vector (by omega)
      rw [← hvector, ← hgsnr, ← hgsnfr] at hi
      rw [← hgsnfr]
      exact htruth.said i state hi hreceived
  · by_cases hsame : s.mGSNR = s.mGSNFR
    · rw [hdecoded hsame, receivedParity, ← hvp, ← htold.xp]
      exact hempty (htold.nothing (by omega))
    · have htruth := htold.vector (by omega)
      rw [← hvector, ← hgsnr, ← hgsnfr, ← hvp, ← htold.xp]
      exact htruth.vp
  · intro hset
    rw [heq, beq_iff_eq] at hset
    rw [← hvector]
    exact htold.nothing (by omega)

theorem first_told (h : WindowOrder s.toReceiveWindow) (hfirst : l.firstPacketCreated.bind s.findPacket = none)
    (hpacket : Completes packet (s.vectoredPacket bit l)) {a : Ack} (hgsnr : a.gsnr = s.mGSNR)
    (hgsnfr : a.gsnfr = s.mGSNFR) (hxp : a.xpFlag = packet.isFlagSet .xpXORedParityToGSNFR)
    (hvector : a.vector = packet.vectorBytes) (hvp : a.vpFlag = packet.isVectorFlagSet) :
    Told s.toReceiveWindow a ∧ (a.vector = [] → a.vpFlag = a.xpFlag) := by
  obtain ⟨-, -, -, hxp', -, hvector', hvp'⟩ := created_header hpacket
  have hvectored : s.vectoredPacket bit l = encodeOnto (s.newPacket bit) s.toReceiveWindow := by
    rw [vectoredPacket, hfirst]
  obtain ⟨hbytes, hbit⟩ := encodeOnto_vector h (s.newPacket bit)
  rw [hvectored, hbytes] at hvector'
  rw [hvectored, hbit] at hvp'
  exact told_window h hgsnr hgsnfr (hxp.trans hxp') (hvector.trans hvector') (hvp.trans hvp')

/-- A later packet of a burst says it again. -/
theorem copied_told {q : BufferedPacket} (hempty : q.ack.vector = [] → q.ack.vpFlag = q.ack.xpFlag)
    (horder : s.mGSNFR ≤ s.mGSNR) (htold : q.gsnfr = s.mGSNFR ∧ Told s.toReceiveWindow q.ack ∨
      q.ack.vector = [] ∧ q.ack.xpFlag = s.mXORedParityToGSNFR) :
    Told s.toReceiveWindow { q.ack with gsnr := s.mGSNR, gsnfr := s.mGSNFR } := by
  rcases htold with ⟨hgsnfr, htold⟩ | ⟨hnone, hxp⟩
  · have hle : q.gsnr ≤ s.mGSNR := htold.le
    refine ⟨le_refl _, htold.xp, fun hne => ?_, fun heq => ?_⟩
    · by_cases hgap : q.gsnr = q.gsnfr
      · have hnone := htold.nothing hgap
        exact vectorTruth_empty (lt_of_le_of_ne horder (Ne.symm hne)) hnone (hempty hnone)
      · exact vectorTruth_copied (htold.vector hgap) hgsnfr.symm hle rfl rfl rfl
    · have hsame : s.mGSNR = s.mGSNFR := heq
      refine htold.nothing (Nat.le_antisymm (?_ : q.gsnr ≤ q.gsnfr) (?_ : q.gsnfr ≤ q.gsnr))
      · omega
      · by_contra hlt
        have hfits := (htold.vector (Nat.ne_of_lt (Nat.lt_of_not_le hlt))).fits
        exact hlt (Nat.le_of_lt (lt_of_le_of_lt (Nat.le_add_right _ _) hfits))
  · refine ⟨le_refl _, hxp, fun hne => ?_, fun _ => hnone⟩
    exact vectorTruth_empty (lt_of_le_of_ne horder (Ne.symm hne)) hnone (hempty hnone)

/-- A new packet describes the window, if what the first packet of the burst said is still told. -/
theorem created_describes (h : WindowOrder s.toReceiveWindow) (hl : FirstTold s l) (hstill : StillTold s l)
    (hpacket : Completes packet (s.vectoredPacket bit l)) : Describes s.toReceiveWindow packet := by
  cases hfirst : l.firstPacketCreated.bind s.findPacket with
  | none =>
    obtain ⟨htold, hempty⟩ := first_told (a := ⟨s.mNextSequenceNumber, s.mGSNR, s.mGSNFR, packet.vectorBytes,
      packet.isVectorFlagSet, false, packet.isFlagSet .xpXORedParityToGSNFR, false, false⟩) h hfirst hpacket rfl rfl
      rfl rfl rfl
    exact describes_of_told hpacket rfl rfl rfl rfl htold hempty
  | some q =>
    obtain ⟨n, hn, hq⟩ := Option.bind_eq_some_iff.mp hfirst
    obtain ⟨r, hr, hempty, htold⟩ := hl n hn
    rw [← findPacket_record, hq] at hr
    cases hr
    rw [StillTold, hfirst] at hstill
    have hagain : q.gsnfr = s.mGSNFR ∧ Told s.toReceiveWindow q.ack ∨
        q.ack.vector = [] ∧ q.ack.xpFlag = s.mXORedParityToGSNFR :=
      hstill.imp_left fun ⟨hgsnfr, hlive⟩ => ⟨hgsnfr, (htold hlive).2 hgsnfr⟩
    obtain ⟨-, -, -, -, -, hvector, hvp⟩ := created_header hpacket
    have hvectored : s.vectoredPacket bit l = copyVector (s.newPacket bit) q.mRUDPPacket := by
      rw [vectoredPacket, hfirst]
    rw [hvectored] at hvector hvp
    refine describes_of_told hpacket rfl rfl ?_ ?_ (copied_told hempty h.le hagain) hempty
    · rw [hvector]
      rfl
    · rw [hvp]
      exact (isVectorFlagSet_setVectorFlag _ _).symm

end Creation

section Steps

variable {acked : Nat → Prop} {first : Nat} {s s' : RUDPChannelStream} {l l' : SendNow}

theorem WindowOrder.kept (h : WindowOrder s.toReceiveWindow) (hkept : WindowsKept acked s s') :
    WindowOrder s'.toReceiveWindow := by
  rcases hkept with hkept | hkept
  · rw [hkept.receive]
    exact h
  · rw [hkept.receive]
    exact ⟨h.le, List.Pairwise.nil, fun p hp => (nomatch hp)⟩

theorem FirstTold.kept (h : FirstTold s l) (hkept : WindowsKept acked s s') : FirstTold s' l := by
  intro n hn
  obtain ⟨r, hr, hempty, htold⟩ := h n hn
  refine ⟨r, (grows_windows hkept).findRecord hr, hempty, fun hlive => ?_⟩
  rcases hkept with hkept | hkept
  · rw [hkept.receive]
    exact htold (hkept.shutdown ▸ hlive)
  · rw [hkept.shutdown] at hlive
    cases hlive

theorem FirstTold.carry (h : FirstTold s l)
    (hfirst : ∀ n, l'.firstPacketCreated = some n → l.firstPacketCreated = some n) : FirstTold s l' :=
  fun n hn => h n (hfirst n hn)

theorem WindowOrder.refused (h : WindowOrder s.toReceiveWindow) : WindowOrder s.refuseAck.toReceiveWindow := by
  obtain ⟨e, r, hkept⟩ := kept_refuseAck (fun _ => True) s
  exact WindowOrder.kept (s := { s with mLastError := e, mLastErrorReason := r }) h hkept.windows

theorem FirstTold.refused (h : FirstTold s l) : FirstTold s.refuseAck l := by
  obtain ⟨e, r, hkept⟩ := kept_refuseAck (fun _ => True) s
  exact FirstTold.kept (s := { s with mLastError := e, mLastErrorReason := r }) h hkept.windows

/-- What taking a packet does to the window: it stays in order, and unless packets are handed over
it only holds more. -/
theorem accepted_window (h : WindowOrder s.toReceiveWindow) (now : Int) (n : Nat) (packet : RUDPPacket)
    (hlow : s.mGSNFR < n) (hnew : ∀ p ∈ s.mReceivedPackets, p.mSequenceNumber ≠ n) :
    WindowOrder (s.acceptPacket now n packet).toReceiveWindow ∧ s.mGSNFR ≤ (s.acceptPacket now n packet).mGSNFR ∧
      ((s.acceptPacket now n packet).mGSNFR = s.mGSNFR →
        s.mGSNR ≤ (s.acceptPacket now n packet).mGSNR ∧
        (s.acceptPacket now n packet).mXORedParityToGSNFR = s.mXORedParityToGSNFR ∧
        ∀ p ∈ s.mReceivedPackets, p ∈ (s.acceptPacket now n packet).mReceivedPackets) := by
  rw [acceptPacket_eq]
  have hle := h.le
  have hheld : ∀ p ∈ (insertedWindow now n packet s.toReceiveWindow).mReceivedPackets,
      s.mGSNFR < p.mSequenceNumber ∧ p.mSequenceNumber ≤ max n s.mGSNR := by
    intro p hp
    rcases Reorder.mem_insert hp with rfl | hp
    · exact ⟨hlow, le_max_left _ _⟩
    · obtain ⟨hgap, hmax⟩ := h.keys p hp
      exact ⟨by omega, le_trans hmax (le_max_right _ _)⟩
  have hkept : ∀ p ∈ s.mReceivedPackets,
      p ∈ (insertedWindow now n packet s.toReceiveWindow).mReceivedPackets := fun p hp =>
    Reorder.mem_insert_of_ne hp (hnew p hp)
  have horder := (delivered_order
    { s with toReceiveWindow := insertedWindow now n packet s.toReceiveWindow }
    (lt_of_lt_of_le hlow (le_max_left _ _)) (Reorder.insert_ascending h.ascending) hheld).1
  refine ⟨horder, ?_⟩
  have hwindow := deliverLoop_window
    { s with toReceiveWindow := insertedWindow now n packet s.toReceiveWindow } _ rfl
  have happend := Reorder.series_append (fun p : BufferedPacket => p.mSequenceNumber) (s.mGSNFR + 1)
    (insertedWindow now n packet s.toReceiveWindow).mReceivedPackets
  rw [deliverReadPackets, hwindow]
  simp only
  rw [show (insertedWindow now n packet s.toReceiveWindow).mGSNFR = s.mGSNFR from rfl]
  generalize Reorder.series (fun p : BufferedPacket => p.mSequenceNumber) (s.mGSNFR + 1)
    (insertedWindow now n packet s.toReceiveWindow).mReceivedPackets = r at *
  refine ⟨Nat.le_add_right _ _, fun hsame => ?_⟩
  have hnone : r.1 = [] := List.eq_nil_of_length_eq_zero (by omega)
  rw [hnone, List.nil_append] at happend
  rw [hnone, happend]
  exact ⟨le_max_right _ _, rfl, hkept⟩

theorem FirstTold.accepted (hl : FirstTold s l) (h : WindowOrder s.toReceiveWindow) (now : Int) (n : Nat)
    (packet : RUDPPacket) (hlow : s.mGSNFR < n) (hnew : ∀ p ∈ s.mReceivedPackets, p.mSequenceNumber ≠ n) :
    FirstTold (s.acceptPacket now n packet) l := by
  obtain ⟨horder, hle, hmore⟩ := accepted_window h now n packet hlow hnew
  have hsame := s.acceptPacket_sending now n packet
  intro m hm
  obtain ⟨r, hr, hempty, htold⟩ := hl m hm
  refine ⟨r, ?_, hempty, fun hlive => ?_⟩
  · rw [SendWindow.findRecord, hsame.records]
    exact hr
  · obtain ⟨hbefore, htold⟩ := htold (hsame.isShutdown ▸ hlive)
    refine ⟨le_trans hbefore hle, fun hgsnfr => ?_⟩
    have hstays : (s.acceptPacket now n packet).mGSNFR = s.mGSNFR := by omega
    obtain ⟨hgsnr, hxp, hmem⟩ := hmore hstays
    exact (htold (by omega)).mono h horder hgsnr hxp hmem

/-- The regions that create no packet keep the first packet of the burst, or give it up. -/
theorem proceed_first (input : SendNowInput) (hposition : l.position ≠ .creatingPacket)
    (hl' : (s.proceed input l).1 = some l') :
    ∀ n, l'.firstPacketCreated = some n → l.firstPacketCreated = some n := by
  have hloop : ∀ k : SendNow, k.loop.firstPacketCreated = k.firstPacketCreated := by
    intro k
    unfold SendNow.loop
    split <;> rfl
  intro n hn
  unfold proceed at hl'
  cases hwhere : l.position with
  | checkingBatons =>
    simp only [hwhere, Option.some.injEq, checkBatons] at hl'
    subst hl'
    split at hn
    · exact hn
    · rwa [hloop] at hn
  | choosingResend =>
    simp only [hwhere, Option.some.injEq, selectResend] at hl'
    subst hl'
    split at hn <;> exact hn
  | creatingPacket => exact absurd hwhere hposition
  | delivering =>
    cases hdelivery : input.delivery with
    | sent =>
      simp only [hwhere, hdelivery, Option.some.injEq] at hl'
      subst hl'
      exact hn
    | notSent =>
      simp only [hwhere, hdelivery, Option.some.injEq] at hl'
      subst hl'
      change (if l.firstPacketCreated = l.attemptToDeliver then none else l.firstPacketCreated) = some n at hn
      split at hn
      · cases hn
      · exact hn
    | delegateGone =>
      simp only [hwhere, hdelivery, Option.some.injEq] at hl'
      subst hl'
      exact hn
  | afterDelivery =>
    simp only [hwhere, Option.some.injEq, clearResend] at hl'
    subst hl'
    split at hn
    · rwa [hloop] at hn
    · split at hn <;> rwa [hloop] at hn
  | leaving =>
    simp only [hwhere, Option.some.injEq, leaveSendNow] at hl'
    subst hl'
    exact hn
  | unwinding =>
    simp only [hwhere, reduceCtorEq] at hl'

end Steps

section Created

variable {first : Nat} {s : RUDPChannelStream} {l : SendNow}

/-- Whether a burst creates a packet or not, what its first packet said is told. -/
theorem FirstTold.created (hl : FirstTold s l) (h : WindowOrder s.toReceiveWindow)
    (hsend : SendInOrder first s.toSendWindow) (now : Int) (bit : Bool) :
    WindowOrder (s.createPacket now bit l).2.toReceiveWindow ∧
      FirstTold (s.createPacket now bit l).2 (s.createPacket now bit l).1 := by
  have hsend' := hsend.createdPacket now bit l
  rcases @createPacket_cases (fun _ => True) s now bit l with ⟨hkept, position, hposition, -⟩ |
    ⟨stream, ackRequired, packet, bytes, -, hcompletes, hcreate⟩
  · have hwindows : WindowsKept (fun _ => True) s (s.createPacket now bit l).2 := .inl hkept.toWindowsUntouched
    rw [hposition]
    exact ⟨h.kept hwindows, (hl.kept hwindows).carry fun _ hn => hn⟩
  · rw [hcreate] at hsend' ⊢
    refine ⟨h, ?_⟩
    intro n hn
    cases hpointer : l.firstPacketCreated with
    | some m =>
      rw [hpointer] at hn
      obtain rfl : m = n := Option.some.inj hn
      obtain ⟨r, hr, hrest⟩ := hl m hpointer
      refine ⟨r, ?_, hrest⟩
      rw [SendWindow.findRecord, pushPacket_records, List.find?_append]
      rw [SendWindow.findRecord] at hr
      rw [hr, Option.some_or]
    | none =>
      rw [hpointer] at hn
      cases hn
      have hnew := hsend'.find (mem_records_sending (List.mem_append_right _ (List.mem_singleton_self
        ((s.afterRead stream ackRequired).bufferPacket now packet bytes))))
      obtain ⟨htold, hempty⟩ := first_told
        (a := ((s.afterRead stream ackRequired).bufferPacket now packet bytes).ack) h
        (by rw [hpointer]; rfl) hcompletes rfl rfl rfl rfl rfl
      exact ⟨_, hnew, hempty, fun _ => ⟨le_refl _, fun _ => htold⟩⟩

end Created

namespace RUDPChannelEndpoint

/-- The state of an endpoint whose burst has told the truth. -/
structure Telling (first : Nat) (t : RUDPChannelEndpoint) : Prop where
  window : WindowOrder t.stream.toReceiveWindow
  send : SendInOrder first t.stream.toSendWindow
  told : ∀ l, t.sending = some l → FirstTold t.stream l

section Steps

variable {first : Nat} {t : RUDPChannelEndpoint}

/-- Whatever happens, the window stays in order and what was told stays told. -/
theorem Telling.step (h : t.Telling first) (event : RUDPChannelEvent) : (t.step event).Telling first := by
  have hsend := h.send.step event
  obtain ⟨hkept, hsending⟩ | ⟨u, hkept, heq, hsame⟩ | ⟨u, now, n, packet, hkept, hlow, hnew, heq, hsame⟩ |
    ⟨input, l, -, hl, -, hcreated, heq⟩ := t.step_cases event
  · refine ⟨h.window.kept hkept, hsend, fun l hl => ?_⟩
    obtain hsame | hstart | ⟨input, l', hl', hposition, hproceeds⟩ := hsending
    · exact (h.told l (hsame.symm.trans hl)).kept hkept
    · -- an attempt that starts has told nothing yet
      cases hstart.symm.trans hl
      intro n hn
      cases hn
    · exact ((h.told l' hl').kept hkept).carry (proceed_first input hposition (hproceeds.symm.trans hl))
  · have hwindow := h.window.kept (.inl hkept)
    refine ⟨heq ▸ hwindow.refused, hsend, fun l hl => ?_⟩
    rw [heq]
    exact ((h.told l (hsame.symm.trans hl)).kept (.inl hkept)).refused
  · have hwindow := h.window.kept (.inl hkept)
    refine ⟨heq ▸ (accepted_window hwindow now n packet hlow hnew).1, hsend, fun l hl => ?_⟩
    rw [heq]
    exact ((h.told l (hsame.symm.trans hl)).kept (.inl hkept)).accepted hwindow now n packet hlow hnew
  · obtain ⟨hwindow, htold⟩ := (h.told l hl).created h.window h.send input.now input.parity
    refine ⟨heq ▸ hwindow, hsend, fun l' hl' => ?_⟩
    cases hcreated.symm.trans hl'
    rw [heq]
    exact htold

theorem create_telling (hfirst : 0 < first) (now : Int) (expecting : Nat)
    (sendingChannelNumber receivingChannelNumber : UInt16) (minimumRTT : Nat) :
    (create (.create now first expecting sendingChannelNumber receivingChannelNumber minimumRTT)).Telling first :=
  ⟨⟨le_refl _, List.Pairwise.nil, fun _ hp => (nomatch hp)⟩,
    create_sendInOrder hfirst now expecting sendingChannelNumber receivingChannelNumber minimumRTT,
    fun _ hl => (nomatch hl)⟩

/-- A packet that is created describes the window, when the vector may be copied. -/
theorem Telling.describes (h : t.Telling first) {l : SendNow} {input : SendNowInput} (hl : t.sending = some l)
    (hposition : l.position = .creatingPacket) (hstill : StillTold t.stream l)
    (hnext : (t.step (.own (.proceed input))).stream.mNextSequenceNumber ≠ t.stream.mNextSequenceNumber) :
    ∃ p, (t.step (.own (.proceed input))).stream.mSendingPackets = t.stream.mSendingPackets ++ [p] ∧
      p.mSequenceNumber = t.stream.mNextSequenceNumber ∧ Describes t.stream.toReceiveWindow p.mRUDPPacket := by
  have hproceeds : t.stream.proceed input l =
      (some (t.stream.createPacket input.now input.parity l).1, (t.stream.createPacket input.now input.parity l).2) := by
    rw [proceed, hposition]
  have hstep : (t.step (.own (.proceed input))).stream = (t.stream.createPacket input.now input.parity l).2 := by
    rw [RUDPChannelEndpoint.step, RUDPChannelEndpoint.own, hl]
    simp only [hproceeds]
  rw [hstep] at hnext ⊢
  rcases @createPacket_cases (fun _ => True) t.stream input.now input.parity l with ⟨hkept, -⟩ |
    ⟨stream, ackRequired, packet, bytes, -, hcompletes, hcreate⟩
  · exact absurd hkept.next hnext
  · rw [hcreate]
    exact ⟨_, rfl, rfl, created_describes h.window (h.told l hl) hstill hcompletes⟩

end Steps

/-- A creation of a packet finds what the first packet of its burst said still told. -/
def CopiesTruly (t : RUDPChannelEndpoint) (event : RUDPChannelEvent) : Prop :=
  match t.sending, event with
  | some l, .own (.proceed _) => l.position = .creatingPacket → StillTold t.stream l
  | _, _ => True

instance (t : RUDPChannelEndpoint) (event : RUDPChannelEvent) : Decidable (t.CopiesTruly event) := by
  unfold CopiesTruly
  exact match t.sending, event with
    | none, _ => instDecidableTrue
    | some _, .handlePacket _ _ _ | some _, .handleExternalAck _ _ _ => instDecidableTrue
    | some l, .own event =>
      match event with
      | .proceed _ => inferInstanceAs (Decidable (l.position = .creatingPacket → StillTold t.stream l))
      | .sendNow | .onTimer _ _ | .notifyExternalACKSent | .notifySocketWriteReady
      | .holdSendingUntilReceiveSequenceNumber _ | .delegateGone | .setStreams _ _ | .shutdown _
      | .shutdownDirection _ | .write _ | .take => instDecidableTrue

variable (first : Nat) (now : Int) (expecting : Nat)
  (sendingChannelNumber receivingChannelNumber : UInt16) (minimumRTT : Nat) (events : List RUDPChannelEvent)

/-- In every run in which vectors are copied as long as they are true, every packet that is created
describes the window of that moment, whatever arrived between two packets of a burst. -/
theorem created_packets_coherent (hfirst : 0 < first)
    (hmeets : Meets step CopiesTruly
      (create (.create now first expecting sendingChannelNumber receivingChannelNumber minimumRTT)) events) :
    ∀ before event after, events = before ++ event :: after →
      let t := run step (create (.create now first expecting sendingChannelNumber receivingChannelNumber minimumRTT))
        before
      (t.step event).stream.mNextSequenceNumber ≠ t.stream.mNextSequenceNumber →
        ∃ p, (t.step event).stream.mSendingPackets = t.stream.mSendingPackets ++ [p] ∧
          p.mSequenceNumber = t.stream.mNextSequenceNumber ∧ Describes t.stream.toReceiveWindow p.mRUDPPacket := by
  rintro before event after rfl t hnext
  have htelling : t.Telling first := run_invariant_always (fun t : RUDPChannelEndpoint => t.Telling first)
    (fun _ event h => h.step event) _ before
    (create_telling hfirst now expecting sendingChannelNumber receivingChannelNumber minimumRTT)
  have hcopies : t.CopiesTruly event := meets_of_append _ before event after hmeets
  obtain ⟨l, input, hl, hposition, rfl⟩ := next_changes t event hnext
  simp only [CopiesTruly, hl] at hcopies
  exact htelling.describes hl hposition (hcopies hposition) hnext

/-- A packet of the peer arrives that has no data. -/
def arrives (sequenceNumber : Nat) : RUDPChannelEvent :=
  .handlePacket 0 { RUDPPacket.create.setSequenceNumber sequenceNumber with mChannelNumber := 7 } false

/-- Packets 2 and 3 arrive, and a burst creates one packet and is about to create another. -/
def burstWithGap : List RUDPChannelEvent :=
  .own (.setStreams .create .create) :: arrives 2 :: arrives 3 :: newBurst [true] ++ [.own (.write [1]), region true]

/-- The second packet describes the same window as the first. -/
theorem created_packets_coherent_gap :
    ∃ p, (run step (create (.create 0 1 1 7 7 0)) (burstWithGap ++ [region true])).stream.mSendingPackets =
        (run step (create (.create 0 1 1 7 7 0)) burstWithGap).stream.mSendingPackets ++ [p] ∧
      Describes (run step (create (.create 0 1 1 7 7 0)) burstWithGap).stream.toReceiveWindow p.mRUDPPacket := by
  obtain ⟨p, hp, -, hdescribes⟩ := created_packets_coherent 1 0 1 7 7 0 (burstWithGap ++ [region true]) (by decide)
    (by decide +kernel) burstWithGap (region true) [] rfl (by decide +kernel)
  exact ⟨p, by rw [run_append]; exact hp, hdescribes⟩

/-- When packet 1 arrives in between, the second packet says that there is no gap and has a vector. -/
theorem copied_vector_incoherent :
    ¬∀ (before : List RUDPChannelEvent) (event : RUDPChannelEvent),
      let t := run step (create (.create 0 1 1 7 7 0)) before
      (t.step event).stream.mNextSequenceNumber ≠ t.stream.mNextSequenceNumber →
        ∃ p, (t.step event).stream.mSendingPackets = t.stream.mSendingPackets ++ [p] ∧
          p.mSequenceNumber = t.stream.mNextSequenceNumber ∧ Describes t.stream.toReceiveWindow p.mRUDPPacket := by
  intro h
  obtain ⟨p, hp, -, hdescribes⟩ := h (burstWithGap ++ [arrives 1]) (region true) (by decide +kernel)
  have hlast : ((run step (create (.create 0 1 1 7 7 0)) (burstWithGap ++ [arrives 1])).step
      (region true)).stream.mSendingPackets.getLast?.all (fun q =>
        q.mRUDPPacket.isFlagSet .eqGSNREqualsGSNFR && decide (q.mRUDPPacket.vectorBytes ≠ [])) = true := by
    decide +kernel
  rw [hp, List.getLast?_concat, Option.all_some, Bool.and_eq_true, decide_eq_true_eq] at hlast
  exact hlast.2 (hdescribes.eq hlast.1)

end RUDPChannelEndpoint

end OpenPeer
