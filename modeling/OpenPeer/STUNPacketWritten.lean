import OpenPeer.STUNPacketLayout

/-!
# The packet that is written

A packet is written as its header and, behind it, the elements of its attributes. When the
lists of congestion control algorithms fill whole words and the message fits into its length,
the layout is the one that was computed, and the walk of the parser finds what was written.
-/
namespace OpenPeer

open Bytes Tlv PacketWriter

section Run

variable {ext : Externals} {stun : STUNPacket} {rfc : RFCs}

theorem packetizeCongestionControl_nil (directionBit : Bool) (w : PacketWriter) :
    packetizeCongestionControl [] directionBit w = .ok w := rfl

/-- What is written of a list, which is not filled up. -/
theorem packetizeCongestionControl_cons {list : List UInt16} (hne : list ≠ []) (directionBit : Bool)
    (written : List UInt8) {n : Nat} (hn : 6 + 2 * list.length ≤ n) (headers : List (Nat × Attributes × Nat)) :
    packetizeCongestionControl list directionBit
        { packet := written ++ zeros n, pos := written.length, headers := headers } =
      .ok { packet := written ++ (toBE 2 Attributes.congestionControl.toCode.toNat ++ toBE 2 (2 + 2 * list.length) ++
              congestionValue list directionBit) ++ zeros (n - (6 + 2 * list.length))
            pos := (written ++ (toBE 2 Attributes.congestionControl.toCode.toNat ++ toBE 2 (2 + 2 * list.length) ++
              congestionValue list directionBit)).length
            headers := headers ++ [(written.length, Attributes.congestionControl, 2 + 2 * list.length)] } := by
  have hpos := List.length_pos_iff.mpr hne
  unfold packetizeCongestionControl
  rw [if_neg (show ¬list.length < 1 by omega), packetizeAttributeHeader_eq _ _ _ (by omega), ok_then]
  dsimp only
  have hhead : (written ++ (toBE 2 Attributes.congestionControl.toCode.toNat ++ toBE 2 (2 + 2 * list.length))).length =
      written.length + 4 := by simp
  have hassoc : ∀ value : List UInt8,
      written ++ (toBE 2 Attributes.congestionControl.toCode.toNat ++ toBE 2 (2 + 2 * list.length) ++ value) =
        written ++ (toBE 2 Attributes.congestionControl.toCode.toNat ++ toBE 2 (2 + 2 * list.length)) ++ value := by
    intro value
    rw [List.append_assoc written]
  rw [hassoc]
  generalize written ++ (toBE 2 Attributes.congestionControl.toCode.toNat ++ toBE 2 (2 + 2 * list.length)) = head at hhead ⊢
  have hzeros : toBE 2 0 = [0x00, 0x00] := by decide
  have hreserved := writeAt_end head (n := n - 4) (toBE 2 0) (by rw [length_toBE]; omega)
  rw [length_toBE, Nat.sub_sub, hzeros, List.append_assoc] at hreserved
  have hdirection : writeAt (head ++ ([0x00, 0x00] ++ zeros (n - (4 + 2)))) head.length
      [if directionBit then 0x80 else 0x00] =
      .ok (head ++ [if directionBit then 0x80 else 0x00, 0x00] ++ zeros (n - (4 + 2))) := by
    have hover := writeAt_over head [0x00] (0x00 :: zeros (n - (4 + 2))) [if directionBit then 0x80 else 0x00] rfl rfl
    simp only [List.append_assoc, List.cons_append, List.nil_append] at hover ⊢
    exact hover
  have hnext : head.length + 2 = (head ++ [if directionBit then 0x80 else 0x00, 0x00]).length := by simp
  rw [hzeros, hreserved, ok_then, hdirection, ok_then, hnext, packetizeWORDs_eq _ _ (by omega), ok_then, Nat.sub_sub,
    List.append_assoc head]
  refine congrArg Except.ok (mk.injEq .. ▸ ⟨?_, ?_, rfl⟩)
  · rw [congestionValue]
  · rw [congestionValue]
    simp
    omega

/-- A list that fills whole words is an element. -/
theorem packetizeCongestionControl_eq {list : List UInt16} (hodd : list ≠ [] → list.length % 2 = 1) (directionBit : Bool)
    (written : List UInt8) {n : Nat} (hn : (encodeAll (congestionElements list directionBit)).length ≤ n)
    (headers : List (Nat × Attributes × Nat)) :
    packetizeCongestionControl list directionBit
        { packet := written ++ zeros n, pos := written.length, headers := headers } =
      .ok (behind written n headers
        ((congestionElements list directionBit).map (Attributes.congestionControl, ·))) := by
  by_cases hne : list = []
  · subst hne
    rw [packetizeCongestionControl_nil]
    exact congrArg Except.ok (behind_nil written n headers).symm
  have hodd := hodd hne
  have hpos := List.length_pos_iff.mpr hne
  have hvalue := length_congestionValue list directionBit
  have hencode := encode_congestion list directionBit hodd
  have hlength := length_encode ⟨Attributes.congestionControl.toCode, congestionValue list directionBit⟩
  have hself : encodedLength (2 + 2 * list.length) = 6 + 2 * list.length := by
    rw [encodedLength, dwordBoundary_eq_self _ (by omega)]
    omega
  have helements : congestionElements list directionBit =
      [⟨Attributes.congestionControl.toCode, congestionValue list directionBit⟩] := by
    unfold congestionElements
    rw [if_neg (by omega)]
  rw [hvalue, hself] at hlength
  rw [helements, encodeAll_cons, encodeAll_nil, List.append_nil, hlength] at hn
  rw [packetizeCongestionControl_cons hne directionBit written hn, ← hencode, helements, List.map_singleton]
  unfold behind
  simp only [List.map_singleton, encodeAll_cons, encodeAll_nil, List.append_nil, hlength, headersFrom, hvalue]

/-- An attribute is written as its elements. -/
theorem packetizeAttribute_eq {attr : Attributes} (haligned : attr = .congestionControl → CongestionAligned ext stun rfc)
    (written : List UInt8) (hwritten : 20 ≤ written.length) {n : Nat}
    (hn : packetizeAttributeLength ext stun rfc attr ≤ n) (headers : List (Nat × Attributes × Nat)) :
    packetizeAttribute ext stun rfc { packet := written ++ zeros n, pos := written.length, headers := headers } attr =
      .ok (behind written n headers ((elementsOf ext stun rfc written attr).map (attr, ·))) := by
  have hlength := length_elementsOf attr haligned written hwritten
  rw [← hlength] at hn
  cases hpacketized : isPacketized ext stun rfc attr with
  | false =>
    rw [packetizeAttribute_not hpacketized, elementsOf_not hpacketized]
    exact congrArg Except.ok (behind_nil written n headers).symm
  | true =>
    obtain ⟨hhas, hshould⟩ := Bool.and_eq_true_iff.mp hpacketized
    unfold packetizeAttribute
    rw [hhas, hshould, if_neg (by decide), if_neg (by decide)]
    by_cases hpeer : attr = .xorPeerAddress
    · subst hpeer
      have helements : elementsOf ext stun rfc written .xorPeerAddress = stun.mPeerAddressList.map fun address =>
          ⟨Attributes.xorPeerAddress.toCode, addressValue ext address stun.mMagicCookie (some (slice written 4 16))⟩ := by
        unfold elementsOf
        rw [hpacketized]
        rfl
      rw [helements] at hn ⊢
      rw [List.map_map]
      exact packetizePeerAddresses_eq stun.mPeerAddressList stun.mMagicCookie _ written hwritten rfl headers hn
    by_cases hcongestion : attr = .congestionControl
    · subst hcongestion
      obtain ⟨hlocal, hremote⟩ := haligned rfl hpacketized
      have helements : elementsOf ext stun rfc written .congestionControl =
          congestionElements stun.mLocalCongestionControl false ++ congestionElements stun.mRemoteCongestionControl true := by
        unfold elementsOf
        rw [hpacketized]
        rfl
      have hprod : ∀ l : List Element, (l.map (Attributes.congestionControl, ·)).map Prod.snd = l := by
        intro l
        rw [List.map_map]
        exact List.map_id l
      rw [helements, encodeAll_append, List.length_append] at hn
      rw [helements, List.map_append, behind_append]
      dsimp only
      rw [packetizeCongestionControl_eq hlocal false written (by omega), ok_then, behind_eq,
        packetizeCongestionControl_eq hremote true _ (by rw [hprod]; omega)]
    · have hsingle := elementsOf_single hpacketized hpeer hcongestion written
      have hvalue := length_valueOf ext stun written hwritten hpeer hcongestion
      rw [hsingle, encodeAll_cons, encodeAll_nil, List.append_nil, length_encode, hvalue] at hn
      have hle := le_dwordBoundary (getActualAttributeLength ext stun attr)
      have hroom : 4 + getActualAttributeLength ext stun attr ≤ n := by
        unfold encodedLength at hn
        omega
      have hstep : (packetizeAttributeHeader attr (getActualAttributeLength ext stun attr)
            { packet := written ++ zeros n, pos := written.length, headers := headers } >>= fun v =>
          packetizeValue ext stun attr written.length v.packet v.pos >>= fun packet =>
            .ok ({ v with packet := packet, pos := v.pos + dwordBoundary (getActualAttributeLength ext stun attr) } :
              PacketWriter)) =
          .ok (behind written n headers ((elementsOf ext stun rfc written attr).map (attr, ·))) := by
        rw [packetizeAttributeHeader_eq _ _ _ (by omega), ok_then]
        dsimp only
        rw [packetizeValue_eq ext stun hpeer hcongestion written _ hwritten (by omega), ok_then, hsingle,
          List.map_singleton]
        rw [← hvalue] at hn ⊢
        exact congrArg Except.ok (behind_single attr (valueOf ext stun written attr) written hn headers)
      cases attr with
      | xorPeerAddress => exact absurd rfl hpeer
      | congestionControl => exact absurd rfl hcongestion
      | _ => exact hstep

end Run

section Packet

variable (ext : Externals) (stun : STUNPacket) (rfc : RFCs)

/-- The elements attributes are written as, each with its attribute. -/
def elementsFrom (written : List UInt8) : List Attributes → List (Attributes × Element)
  | [] => []
  | attr :: attrs =>
    (elementsOf ext stun rfc written attr).map (attr, ·) ++
      elementsFrom (written ++ encodeAll (elementsOf ext stun rfc written attr)) attrs

/-- The header of the message. -/
def headerBytes : List UInt8 :=
  toBE 2 stun.messageType.toNat ++ toBE 2 (packetLengthInBytes ext stun rfc - 20) ++ toBE 4 stun.mMagicCookie.toNat ++
    stun.mTransactionID.toList

/-- The elements of a packet. -/
def packetElements : List (Attributes × Element) :=
  elementsFrom ext stun rfc (headerBytes ext stun rfc) gAttributeOrdering

variable {ext stun rfc}

theorem map_snd_pair (attr : Attributes) (l : List Element) : (l.map (attr, ·)).map Prod.snd = l := by
  rw [List.map_map]
  exact List.map_id l

@[simp] theorem length_headerBytes : (headerBytes ext stun rfc).length = 20 := by
  simp [headerBytes]

section

variable (attrs : List Attributes) (haligned : Attributes.congestionControl ∈ attrs → CongestionAligned ext stun rfc)
  (written : List UInt8) (hwritten : 20 ≤ written.length)
include haligned hwritten

theorem length_elementsFrom :
    (encodeAll ((elementsFrom ext stun rfc written attrs).map Prod.snd)).length =
      (attrs.map (packetizeAttributeLength ext stun rfc)).sum := by
  induction attrs generalizing written with
  | nil => rfl
  | cons attr attrs ih =>
    have hfirst := length_elementsOf attr (fun h => haligned (by rw [h]; exact List.mem_cons_self))
      written hwritten
    have hrest := ih (fun h => haligned (List.mem_cons_of_mem attr h))
      (written ++ encodeAll (elementsOf ext stun rfc written attr)) (by rw [List.length_append]; omega)
    rw [elementsFrom, List.map_append, encodeAll_append, List.length_append, map_snd_pair, hfirst, hrest, List.map_cons,
      List.sum_cons]

/-- The attributes are written one behind the other. -/
theorem foldlM_packetizeAttribute {n : Nat} (hn : (attrs.map (packetizeAttributeLength ext stun rfc)).sum ≤ n)
    (headers : List (Nat × Attributes × Nat)) :
    attrs.foldlM (packetizeAttribute ext stun rfc)
        { packet := written ++ zeros n, pos := written.length, headers := headers } =
      .ok (behind written n headers (elementsFrom ext stun rfc written attrs)) := by
  induction attrs generalizing written n headers with
  | nil => exact congrArg Except.ok (behind_nil written n headers).symm
  | cons attr attrs ih =>
    have hattr : attr = .congestionControl → CongestionAligned ext stun rfc := by
      intro h
      exact haligned (by rw [h]; exact List.mem_cons_self)
    have hfirst := length_elementsOf attr hattr written hwritten
    rw [List.map_cons, List.sum_cons] at hn
    rw [List.foldlM_cons, packetizeAttribute_eq hattr written hwritten (by omega), ok_then, behind_eq,
      ih (fun h => haligned (List.mem_cons_of_mem attr h)) _ (by rw [List.length_append]; omega)
        (by rw [map_snd_pair, hfirst]; omega),
      ← behind_append, elementsFrom, map_snd_pair]

end

/-- The buffer with the header. -/
theorem packetizeHeader_eq : packetizeHeader ext stun rfc =
    .ok { packet := headerBytes ext stun rfc ++ zeros (packetLengthInBytes ext stun rfc - 20), pos := 20 } := by
  have htotal : 20 ≤ packetLengthInBytes ext stun rfc := Nat.le_add_right 20 _
  unfold packetizeHeader headerBytes
  dsimp only
  generalize packetLengthInBytes ext stun rfc = total at htotal
  have htype := writeAt_end [] (n := total) (toBE 2 stun.messageType.toNat) (by rw [length_toBE]; omega)
  have hlength := writeAt_end (toBE 2 stun.messageType.toNat) (n := total - 2) (toBE 2 (total - 20))
    (by rw [length_toBE]; omega)
  have hcookie := writeAt_end (toBE 2 stun.messageType.toNat ++ toBE 2 (total - 20)) (n := total - 4)
    (toBE 4 stun.mMagicCookie.toNat) (by rw [length_toBE]; omega)
  have htransaction := writeAt_end (toBE 2 stun.messageType.toNat ++ toBE 2 (total - 20) ++ toBE 4 stun.mMagicCookie.toNat)
    (n := total - 8) stun.mTransactionID.toList (by rw [Vector.length_toList]; omega)
  simp only [List.nil_append, List.length_nil, List.length_append, length_toBE, Vector.length_toList, Nat.sub_sub]
    at htype hlength hcookie htransaction
  rw [htype, ok_then, hlength, ok_then, hcookie, ok_then, htransaction, ok_then]
  rfl

theorem packetize_eq (haligned : CongestionAligned ext stun rfc) :
    stun.packetize ext rfc =
      .ok { packet := headerBytes ext stun rfc ++ encodeAll ((packetElements ext stun rfc).map Prod.snd)
            pos := packetLengthInBytes ext stun rfc
            headers := headersFrom 20 (packetElements ext stun rfc) } := by
  have hlength := length_elementsFrom gAttributeOrdering (fun _ => haligned) (headerBytes ext stun rfc)
    (by rw [length_headerBytes])
  have hrest : packetLengthInBytes ext stun rfc - 20 =
      (gAttributeOrdering.map (packetizeAttributeLength ext stun rfc)).sum := by
    unfold packetLengthInBytes
    omega
  have hrun := foldlM_packetizeAttribute gAttributeOrdering (fun _ => haligned) (headerBytes ext stun rfc)
    (by rw [length_headerBytes]) (le_of_eq hrest.symm) []
  rw [length_headerBytes] at hrun
  unfold STUNPacket.packetize
  rw [packetizeHeader_eq, ok_then, hrun, behind_eq, hlength, hrest, Nat.sub_self]
  refine congrArg Except.ok (mk.injEq .. ▸ ⟨?_, ?_, ?_⟩)
  · rw [packetElements]
    exact List.append_nil _
  · rw [List.length_append, length_headerBytes, hlength]
    rfl
  · rw [length_headerBytes]
    rfl

end Packet

section Found

variable (ext : Externals) (stun : STUNPacket) (rfc : RFCs)

variable {ext stun rfc}

theorem tag_of_mem_elementsOf {written : List UInt8} {attr : Attributes} {e : Element}
    (h : e ∈ elementsOf ext stun rfc written attr) : e.tag = attr.toCode := by
  have hcongestion : ∀ list directionBit, e ∈ congestionElements list directionBit →
      e.tag = Attributes.congestionControl.toCode := by
    intro list directionBit he
    unfold congestionElements at he
    split at he
    · cases he
    · rw [List.mem_singleton.mp he]
  unfold elementsOf at h
  split at h
  · cases h
  · split at h
    · obtain ⟨address, -, rfl⟩ := List.mem_map.mp h
      rfl
    · rcases List.mem_append.mp h with h | h <;> exact hcongestion _ _ h
    · rw [List.mem_singleton.mp h]

theorem tag_of_mem_elementsFrom {written : List UInt8} {attrs : List Attributes} {c : Attributes × Element}
    (h : c ∈ elementsFrom ext stun rfc written attrs) : c.2.tag = c.1.toCode := by
  induction attrs generalizing written with
  | nil => cases h
  | cons attr attrs ih =>
    rw [elementsFrom] at h
    rcases List.mem_append.mp h with h | h
    · obtain ⟨e, he, rfl⟩ := List.mem_map.mp h
      exact tag_of_mem_elementsOf he
    · exact ih h

theorem length_value_le {l : List Element} {e : Element} (h : e ∈ l) : e.value.length ≤ (encodeAll l).length := by
  induction l with
  | nil => cases h
  | cons e' l ih =>
    have hle := le_dwordBoundary e'.value.length
    rw [encodeAll_cons, List.length_append, length_encode, encodedLength]
    rcases List.mem_cons.mp h with rfl | h
    · omega
    · have := ih h
      omega

theorem length_packetElements (haligned : CongestionAligned ext stun rfc) :
    20 + (encodeAll ((packetElements ext stun rfc).map Prod.snd)).length = packetLengthInBytes ext stun rfc := by
  unfold packetElements packetLengthInBytes
  rw [length_elementsFrom _ (fun _ => haligned) _ (by rw [length_headerBytes])]

theorem wordAt_headerBytes (l : List UInt8) (hsize : packetLengthInBytes ext stun rfc < 65556) :
    wordAt (headerBytes ext stun rfc ++ l) 2 = packetLengthInBytes ext stun rfc - 20 := by
  have hsplit : headerBytes ext stun rfc ++ l = toBE 2 stun.messageType.toNat ++
      (toBE 2 (packetLengthInBytes ext stun rfc - 20) ++
        (toBE 4 stun.mMagicCookie.toNat ++ stun.mTransactionID.toList ++ l)) := by
    simp only [headerBytes, List.append_assoc]
  unfold wordAt
  rw [hsplit, slice_append_mid _ _ _ _ _ (length_toBE _ _) (length_toBE _ _), ofBE_toBE_of_lt 2 _ (by omega)]

theorem attributesOf_written (haligned : CongestionAligned ext stun rfc)
    (hsize : packetLengthInBytes ext stun rfc < 65556) :
    attributesOf (headerBytes ext stun rfc ++ encodeAll ((packetElements ext stun rfc).map Prod.snd)) =
      some (place 20 ((packetElements ext stun rfc).map Prod.snd)) := by
  have htotal := length_packetElements haligned
  have hwalk := walk_encodeAll (headerBytes ext stun rfc) [] ((packetElements ext stun rfc).map Prod.snd) (by
    intro e he
    have := length_value_le he
    omega)
  rw [length_headerBytes, List.append_nil] at hwalk
  have hlength : packetLengthInBytes ext stun rfc - 20 =
      (encodeAll ((packetElements ext stun rfc).map Prod.snd)).length := by omega
  unfold attributesOf
  rw [wordAt_headerBytes _ hsize, hlength]
  exact hwalk

end Found

end OpenPeer
