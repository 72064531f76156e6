import OpenPeer.STUNPacketWritten

/-!
# Whether a packet has the layout that was computed for it

It has when the lists of congestion control algorithms fill whole words and the message
fits into its length, and in no other case: a list that is not filled up is shorter than
its computed length, or puts the attribute behind it off the word.
-/
namespace OpenPeer

open Bytes Tlv

section LaidOut

variable (ext : Externals) (stun : STUNPacket) (rfc : RFCs)

/-- A packet that was written, with the layout that was computed for it. -/
structure LaidOut (w : PacketWriter) : Prop where
  /-- Each attribute takes the bytes that its length says. -/
  lengths : ∀ before attr after, gAttributeOrdering = before ++ attr :: after → ∀ u v v',
    packetizeHeader ext stun rfc = .ok u → before.foldlM (packetizeAttribute ext stun rfc) u = .ok v →
      packetizeAttribute ext stun rfc v attr = .ok v' → v'.pos = v.pos + packetizeAttributeLength ext stun rfc attr
  /-- Each attribute begins at a word. -/
  aligned : ∀ h ∈ w.headers, h.1 % 4 = 0
  /-- The length in the header is that of the bytes behind it. -/
  messageLength : 20 + wordAt w.packet 2 = w.packet.length
  /-- The buffer is written up to its end. -/
  filled : w.pos = w.packet.length
  /-- The walk of the parser is taken up by the attributes that were written. -/
  walked : (attributesOf w.packet).map (List.map fun e => (e.start, e.tag, e.value.length)) =
    some (w.headers.map fun h => (h.1, h.2.1.toCode, h.2.2))

variable {ext stun rfc}

variable {start : Nat} {l : List (Attributes × Element)}

theorem mem_headersFrom (hstart : start % 4 = 0) {h : Nat × Attributes × Nat} (hh : h ∈ headersFrom start l) :
    h.1 % 4 = 0 := by
  induction l generalizing start with
  | nil => cases hh
  | cons c l ih =>
    obtain ⟨attr, e⟩ := c
    have hmod := encodedLength_mod e.value.length
    rw [headersFrom] at hh
    rcases List.mem_cons.mp hh with rfl | hh
    · exact hstart
    · exact ih (by omega) hh

theorem map_headersFrom (h : ∀ c ∈ l, c.2.tag = c.1.toCode) :
    (place start (l.map Prod.snd)).map (fun e => (e.start, e.tag, e.value.length)) =
      (headersFrom start l).map fun h => (h.1, h.2.1.toCode, h.2.2) := by
  induction l generalizing start with
  | nil => rfl
  | cons c l ih =>
    obtain ⟨attr, e⟩ := c
    have htag : e.tag = attr.toCode := h (attr, e) List.mem_cons_self
    rw [List.map_cons, place, headersFrom, List.map_cons, List.map_cons, ih fun c hc => h c (List.mem_cons_of_mem _ hc)]
    dsimp only
    rw [htag]

/-- The attributes before one are written where they belong. -/
theorem packetize_upTo (haligned : CongestionAligned ext stun rfc) {before after : List Attributes} {attr : Attributes}
    (hsplit : gAttributeOrdering = before ++ attr :: after) {u v v' : PacketWriter} (hu : packetizeHeader ext stun rfc = .ok u)
    (hv : before.foldlM (packetizeAttribute ext stun rfc) u = .ok v)
    (hv' : packetizeAttribute ext stun rfc v attr = .ok v') :
    v'.pos = v.pos + packetizeAttributeLength ext stun rfc attr := by
  have hrest : packetLengthInBytes ext stun rfc - 20 = (before.map (packetizeAttributeLength ext stun rfc)).sum +
      (packetizeAttributeLength ext stun rfc attr + (after.map (packetizeAttributeLength ext stun rfc)).sum) := by
    unfold packetLengthInBytes
    rw [hsplit, List.map_append, List.sum_append, List.map_cons, List.sum_cons, Nat.add_sub_cancel_left]
  have hlength := length_elementsFrom before (fun _ => haligned) (headerBytes ext stun rfc)
    (by rw [length_headerBytes])
  have hbefore := foldlM_packetizeAttribute before (fun _ => haligned) (headerBytes ext stun rfc)
    (by rw [length_headerBytes]) (n := packetLengthInBytes ext stun rfc - 20) (by omega) []
  rw [length_headerBytes] at hbefore
  rw [packetizeHeader_eq] at hu
  cases hu
  rw [hbefore] at hv
  cases hv
  rw [PacketWriter.behind_eq, packetizeAttribute_eq (fun _ => haligned) _ (by rw [List.length_append, length_headerBytes]; omega)
    (by rw [hlength]; omega)] at hv'
  cases hv'
  have hattr := length_elementsOf attr (fun _ => haligned)
    (headerBytes ext stun rfc ++ encodeAll ((elementsFrom ext stun rfc (headerBytes ext stun rfc) before).map Prod.snd))
    (by rw [List.length_append, length_headerBytes]; omega)
  rw [PacketWriter.behind_eq, PacketWriter.behind_eq]
  dsimp only
  rw [map_snd_pair, List.length_append, hattr]

theorem laidOut_of_aligned (haligned : CongestionAligned ext stun rfc)
    (hsize : packetLengthInBytes ext stun rfc < 65556) :
    ∃ w, stun.packetize ext rfc = .ok w ∧ LaidOut ext stun rfc w := by
  have htotal := length_packetElements haligned
  refine ⟨_, packetize_eq haligned, ?_⟩
  constructor
  · intro before attr after hsplit u v v' hu hv hv'
    exact packetize_upTo haligned hsplit hu hv hv'
  · intro h hh
    exact mem_headersFrom (by rfl) hh
  · dsimp only
    rw [wordAt_headerBytes _ hsize, List.length_append, length_headerBytes]
    omega
  · dsimp only
    rw [List.length_append, length_headerBytes, htotal]
  · have htag : ∀ c ∈ packetElements ext stun rfc, c.2.tag = c.1.toCode := fun c hc => tag_of_mem_elementsFrom hc
    dsimp only
    rw [attributesOf_written haligned hsize, Option.map_some, map_headersFrom htag]

/-- The bytes of a list, with its header and with nothing that fills it up. -/
def congestionBytes (list : List UInt16) (directionBit : Bool) : List UInt8 :=
  if list = [] then []
  else toBE 2 Attributes.congestionControl.toCode.toNat ++ toBE 2 (2 + 2 * list.length) ++
    congestionValue list directionBit

def congestionHeaders (start : Nat) (list : List UInt16) : List (Nat × Attributes × Nat) :=
  if list = [] then [] else [(start, .congestionControl, 2 + 2 * list.length)]

variable (list : List UInt16)

theorem length_congestionBytes (directionBit : Bool) :
    (congestionBytes list directionBit).length = if list = [] then 0 else 6 + 2 * list.length := by
  unfold congestionBytes
  split
  · rfl
  · rw [List.length_append, List.length_append, length_toBE, length_toBE, length_congestionValue]
    omega

variable {n : Nat}

theorem packetizeCongestionControl_bytes (directionBit : Bool) (written : List UInt8)
    (hn : (congestionBytes list directionBit).length ≤ n) (headers : List (Nat × Attributes × Nat)) :
    packetizeCongestionControl list directionBit
        { packet := written ++ zeros n, pos := written.length, headers := headers } =
      .ok { packet := written ++ congestionBytes list directionBit ++
              zeros (n - (congestionBytes list directionBit).length)
            pos := (written ++ congestionBytes list directionBit).length
            headers := headers ++ congestionHeaders written.length list } := by
  rw [length_congestionBytes] at hn ⊢
  unfold congestionBytes congestionHeaders
  by_cases hne : list = []
  · subst hne
    rw [packetizeCongestionControl_nil]
    simp
  · rw [if_neg hne] at hn
    rw [if_neg hne, if_neg hne, if_neg hne]
    exact packetizeCongestionControl_cons hne directionBit written hn headers

theorem packetizeAttributeLength_congestion (hpacketized : isPacketized ext stun rfc .congestionControl = true) :
    packetizeAttributeLength ext stun rfc .congestionControl =
      dwordBoundary ((congestionBytes stun.mLocalCongestionControl false).length +
        (congestionBytes stun.mRemoteCongestionControl true).length) := by
  have hhas := (Bool.and_eq_true_iff.mp hpacketized).1
  have hfour : ∀ k, 4 + dwordBoundary k = dwordBoundary (4 + k) := by
    intro k
    unfold dwordBoundary
    split <;> split <;> omega
  rw [packetizeAttributeLength_eq, if_pos hpacketized, encodedLength, hfour, getActualAttributeLength,
    length_congestionBytes, length_congestionBytes]
  congr 1
  cases hl : stun.mLocalCongestionControl with
  | nil =>
    cases hr : stun.mRemoteCongestionControl with
    | nil => simp [STUNPacket.hasAttribute, hl, hr] at hhas
    | cons word list =>
      simp
      omega
  | cons word list =>
    cases hr : stun.mRemoteCongestionControl with
    | nil =>
      simp
      omega
    | cons word' list' =>
      simp
      omega

/-- The two lists are written one behind the other. -/
theorem packetizeAttribute_congestion (hpacketized : isPacketized ext stun rfc .congestionControl = true)
    (written : List UInt8) (hn : packetizeAttributeLength ext stun rfc .congestionControl ≤ n)
    (headers : List (Nat × Attributes × Nat)) :
    packetizeAttribute ext stun rfc { packet := written ++ zeros n, pos := written.length, headers := headers }
        .congestionControl =
      .ok { packet := written ++ congestionBytes stun.mLocalCongestionControl false ++
              congestionBytes stun.mRemoteCongestionControl true ++
              zeros (n - (congestionBytes stun.mLocalCongestionControl false).length -
                (congestionBytes stun.mRemoteCongestionControl true).length)
            pos := (written ++ congestionBytes stun.mLocalCongestionControl false ++
              congestionBytes stun.mRemoteCongestionControl true).length
            headers := headers ++ congestionHeaders written.length stun.mLocalCongestionControl ++
              congestionHeaders (written ++ congestionBytes stun.mLocalCongestionControl false).length
                stun.mRemoteCongestionControl } := by
  obtain ⟨hhas, hshould⟩ := Bool.and_eq_true_iff.mp hpacketized
  have hle := le_dwordBoundary ((congestionBytes stun.mLocalCongestionControl false).length +
    (congestionBytes stun.mRemoteCongestionControl true).length)
  rw [packetizeAttributeLength_congestion hpacketized] at hn
  unfold packetizeAttribute
  rw [hhas, hshould, if_neg (by decide), if_neg (by decide)]
  dsimp only
  rw [packetizeCongestionControl_bytes _ false written (by omega), ok_then,
    packetizeCongestionControl_bytes _ true _ (by omega)]

theorem odd_of_congestionBytes {list : List UInt16} (directionBit : Bool)
    (h : (congestionBytes list directionBit).length % 4 = 0) : list ≠ [] → list.length % 2 = 1 := by
  intro hne
  rw [length_congestionBytes, if_neg hne] at h
  omega

/-- In a packet with the layout the lists fill whole words. -/
theorem aligned_of_laidOut {w : PacketWriter} (hw : stun.packetize ext rfc = .ok w) (h : LaidOut ext stun rfc w) :
    CongestionAligned ext stun rfc := by
  intro hpacketized
  have hordering : gAttributeOrdering =
      gAttributeOrdering.take 25 ++ Attributes.congestionControl :: gAttributeOrdering.drop 26 := by decide
  have hbeforeNot : Attributes.congestionControl ∈ gAttributeOrdering.take 25 → CongestionAligned ext stun rfc :=
    fun h => absurd h (by decide)
  have hafterNot : Attributes.congestionControl ∈ gAttributeOrdering.drop 26 → CongestionAligned ext stun rfc :=
    fun h => absurd h (by decide)
  generalize gAttributeOrdering.take 25 = before at hordering hbeforeNot
  generalize gAttributeOrdering.drop 26 = after at hordering hafterNot
  have hrest : packetLengthInBytes ext stun rfc - 20 = (before.map (packetizeAttributeLength ext stun rfc)).sum +
      (packetizeAttributeLength ext stun rfc .congestionControl +
        (after.map (packetizeAttributeLength ext stun rfc)).sum) := by
    unfold packetLengthInBytes
    rw [hordering, List.map_append, List.sum_append, List.map_cons, List.sum_cons, Nat.add_sub_cancel_left]
  have hlength := length_elementsFrom before hbeforeNot (headerBytes ext stun rfc)
    (by rw [length_headerBytes])
  have hv := foldlM_packetizeAttribute before hbeforeNot (headerBytes ext stun rfc)
    (by rw [length_headerBytes]) (n := packetLengthInBytes ext stun rfc - 20) (by omega) []
  rw [length_headerBytes, PacketWriter.behind_eq] at hv
  have hwritten : 20 ≤ (headerBytes ext stun rfc ++
      encodeAll ((elementsFrom ext stun rfc (headerBytes ext stun rfc) before).map Prod.snd)).length := by
    rw [List.length_append, length_headerBytes]
    omega
  rw [hlength] at hv
  generalize headerBytes ext stun rfc ++
    encodeAll ((elementsFrom ext stun rfc (headerBytes ext stun rfc) before).map Prod.snd) = written at hv hwritten
  generalize [] ++ headersFrom _ (elementsFrom ext stun rfc (headerBytes ext stun rfc) before) = headers at hv
  have hcomputed := packetizeAttributeLength_congestion hpacketized
  have hv' := packetizeAttribute_congestion hpacketized written
    (n := packetLengthInBytes ext stun rfc - 20 - (before.map (packetizeAttributeLength ext stun rfc)).sum) (by omega)
    headers
  have hpos := h.lengths before _ after hordering _ _ _ packetizeHeader_eq hv hv'
  -- the two lists take what is computed for them together
  have htogether : ((congestionBytes stun.mLocalCongestionControl false).length +
      (congestionBytes stun.mRemoteCongestionControl true).length) % 4 = 0 := by
    have hmod := dwordBoundary_mod ((congestionBytes stun.mLocalCongestionControl false).length +
      (congestionBytes stun.mRemoteCongestionControl true).length)
    dsimp only at hpos
    rw [List.length_append, List.length_append, hcomputed] at hpos
    omega
  -- what is written behind them keeps the headers
  have hheaders : ∀ header ∈ congestionHeaders written.length stun.mLocalCongestionControl ++
      congestionHeaders (written ++ congestionBytes stun.mLocalCongestionControl false).length
        stun.mRemoteCongestionControl, header.1 % 4 = 0 := by
    have hle := le_dwordBoundary ((congestionBytes stun.mLocalCongestionControl false).length +
      (congestionBytes stun.mRemoteCongestionControl true).length)
    have hafter := foldlM_packetizeAttribute after hafterNot
      (written ++ congestionBytes stun.mLocalCongestionControl false ++
        congestionBytes stun.mRemoteCongestionControl true) (by rw [List.length_append, List.length_append]; omega)
      (n := packetLengthInBytes ext stun rfc - 20 - (before.map (packetizeAttributeLength ext stun rfc)).sum -
        (congestionBytes stun.mLocalCongestionControl false).length -
        (congestionBytes stun.mRemoteCongestionControl true).length) (by
          rw [dwordBoundary_eq_self _ htogether] at hcomputed
          omega)
      (headers ++ congestionHeaders written.length stun.mLocalCongestionControl ++
        congestionHeaders (written ++ congestionBytes stun.mLocalCongestionControl false).length
          stun.mRemoteCongestionControl)
    unfold STUNPacket.packetize at hw
    rw [packetizeHeader_eq, ok_then, hordering, List.foldlM_append, hv, ok_then, List.foldlM_cons, hv', ok_then,
      hafter] at hw
    intro header hheader
    refine h.aligned header ?_
    rw [← Except.ok.inj hw, PacketWriter.behind_eq]
    dsimp only
    rw [List.append_assoc headers]
    exact List.mem_append_left _ (List.mem_append_right _ hheader)
  by_cases hlocal : stun.mLocalCongestionControl = []
  · have hnone : (congestionBytes stun.mLocalCongestionControl false).length = 0 := by
      rw [length_congestionBytes, if_pos hlocal]
    exact ⟨fun hne => absurd hlocal hne, odd_of_congestionBytes true (by omega)⟩
  by_cases hremote : stun.mRemoteCongestionControl = []
  · have hnone : (congestionBytes stun.mRemoteCongestionControl true).length = 0 := by
      rw [length_congestionBytes, if_pos hremote]
    exact ⟨odd_of_congestionBytes false (by omega), fun hne => absurd hremote hne⟩
  · have hfirst : written.length % 4 = 0 := by
      refine hheaders (written.length, .congestionControl, 2 + 2 * stun.mLocalCongestionControl.length)
        (List.mem_append_left _ ?_)
      rw [congestionHeaders, if_neg hlocal]
      exact List.mem_cons_self
    have hsecond : (written ++ congestionBytes stun.mLocalCongestionControl false).length % 4 = 0 := by
      refine hheaders ((written ++ congestionBytes stun.mLocalCongestionControl false).length, .congestionControl,
        2 + 2 * stun.mRemoteCongestionControl.length) (List.mem_append_right _ ?_)
      rw [congestionHeaders, if_neg hremote]
      exact List.mem_cons_self
    rw [List.length_append] at hsecond
    exact ⟨odd_of_congestionBytes false (by omega),
      odd_of_congestionBytes true (by omega)⟩

/-- A packet has the layout exactly when the lists of congestion control algorithms that are written fill
whole words, and the message fits into the sixteen bits of its length. -/
theorem layout_iff (ext : Externals) (stun : STUNPacket) (rfc : RFCs) :
    (∃ w, stun.packetize ext rfc = .ok w ∧ LaidOut ext stun rfc w) ↔
      CongestionAligned ext stun rfc ∧ packetLengthInBytes ext stun rfc < 65556 := by
  constructor
  · rintro ⟨w, hw, h⟩
    have haligned := aligned_of_laidOut hw h
    have htotal := length_packetElements haligned
    have hlength := h.messageLength
    have hlt := wordAt_lt w.packet 2
    rw [packetize_eq haligned] at hw
    have hpacket : w.packet.length = packetLengthInBytes ext stun rfc := by
      rw [← Except.ok.inj hw, List.length_append, length_headerBytes]
      exact htotal
    exact ⟨haligned, by omega⟩
  · rintro ⟨haligned, hsize⟩
    exact laidOut_of_aligned haligned hsize

/-- A request that opens a channel and offers two algorithms. -/
def openRequest : STUNPacket :=
  { mMethod := .reliableChannelOpen, mChannelNumber := 0x4000, mNextSequenceNumber := 1,
    mLocalCongestionControl := [1, 0] }

/-- The list of two algorithms is two bytes shorter than its length, and nothing fills it up. -/
theorem layout_broken : openRequest.isLegal plainExternals .draftRUDP = true ∧
    ¬∃ w, openRequest.packetize plainExternals .draftRUDP = .ok w ∧
      LaidOut plainExternals openRequest .draftRUDP w := by
  refine ⟨by decide +kernel, ?_⟩
  rintro ⟨w, hw, h⟩
  have hpos : (openRequest.packetize plainExternals .draftRUDP).map (fun w => (w.pos, w.packet.length)) =
      .ok (58, 60) := by decide +kernel
  rw [hw] at hpos
  have hboth := Except.ok.inj hpos
  have hfilled := h.filled
  rw [(Prod.mk.inj hboth).1, (Prod.mk.inj hboth).2] at hfilled
  exact absurd hfilled (by decide)

end LaidOut

end OpenPeer
