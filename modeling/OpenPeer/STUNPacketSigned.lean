import OpenPeer.STUNPacketPresence
import OpenPeer.STUNPacketReadBack

/-!
# The round trip of the integrity

A packet that is written with credentials is parsed into one whose integrity is valid with them,
over the bytes that were hashed when it was written. The parser must take what was written: its
strings, its length, and its lists of congestion control algorithms.
-/
namespace OpenPeer

open Bytes Tlv

section Carry

variable {ext : Externals} {stun : STUNPacket} {rfc : RFCs} {allowedRFCs : UInt8}

/-- The attributes that elements carry, when these are written from a position on. -/
def carry : Nat → List (Attributes × Element) → List Carried
  | _, [] => []
  | start, (attr, e) :: l => (attr, ⟨e, start⟩) :: carry (start + encodedLength e.value.length) l

theorem carry_append (start : Nat) (l m : List (Attributes × Element)) :
    carry start (l ++ m) = carry start l ++ carry (start + (encodeAll (l.map Prod.snd)).length) m := by
  induction l generalizing start with
  | nil => rfl
  | cons c l ih =>
    obtain ⟨attr, e⟩ := c
    rw [List.cons_append, carry, carry, ih, List.map_cons, encodeAll_cons, List.length_append, length_encode,
      List.cons_append, Nat.add_assoc]

variable {start : Nat} {l : List (Attributes × Element)}

theorem filterMap_place (h : ∀ c ∈ l, c.2.tag = c.1.toCode ∧ isAttributeKnown allowedRFCs c.1 = true) :
    (place start (l.map Prod.snd)).filterMap (knownAttribute allowedRFCs) = carry start l := by
  induction l generalizing start with
  | nil => rfl
  | cons c l ih =>
    obtain ⟨attr, e⟩ := c
    obtain ⟨htag, hknown⟩ := h (attr, e) List.mem_cons_self
    have hcarried : knownAttribute allowedRFCs ⟨e, start⟩ = some (attr, ⟨e, start⟩) := by
      unfold knownAttribute
      rw [htag, Attributes.ofCode_toCode]
      dsimp only
      rw [if_pos hknown]
    rw [List.map_cons, place, List.filterMap_cons_some hcarried, ih fun c hc => h c (List.mem_cons_of_mem _ hc), carry]

theorem mem_carry {c : Carried} (h : c ∈ carry start l) : (c.1, c.2.toElement) ∈ l := by
  induction l generalizing start with
  | nil => cases h
  | cons c' l ih =>
    obtain ⟨attr, e⟩ := c'
    rcases List.mem_cons.mp h with rfl | h
    · exact List.mem_cons_self
    · exact List.mem_cons_of_mem _ (ih h)

theorem elementsFrom_append (written : List UInt8) (l m : List Attributes) :
    elementsFrom ext stun rfc written (l ++ m) =
      elementsFrom ext stun rfc written l ++
        elementsFrom ext stun rfc (written ++ encodeAll ((elementsFrom ext stun rfc written l).map Prod.snd)) m := by
  induction l generalizing written with
  | nil => rw [List.nil_append, elementsFrom, List.nil_append, List.map_nil, encodeAll_nil, List.append_nil]
  | cons attr l ih =>
    rw [List.cons_append, elementsFrom, elementsFrom, ih, List.map_append, encodeAll_append, map_snd_pair,
      List.append_assoc, List.append_assoc]

theorem mem_elementsFrom {written : List UInt8} (hwritten : 20 ≤ written.length) {attrs : List Attributes}
    {c : Attributes × Element} (h : c ∈ elementsFrom ext stun rfc written attrs) :
    c.1 ∈ attrs ∧ isPacketized ext stun rfc c.1 = true ∧
      ∃ written', 20 ≤ written'.length ∧ c.2 ∈ elementsOf ext stun rfc written' c.1 := by
  induction attrs generalizing written with
  | nil => cases h
  | cons attr attrs ih =>
    rw [elementsFrom] at h
    rcases List.mem_append.mp h with h | h
    · obtain ⟨e, he, rfl⟩ := List.mem_map.mp h
      refine ⟨List.mem_cons_self, ?_, written, hwritten, he⟩
      cases hpacketized : isPacketized ext stun rfc attr with
      | true => rfl
      | false =>
        rw [elementsOf_not hpacketized] at he
        cases he
    · obtain ⟨hmem, hrest⟩ := ih (by rw [List.length_append]; omega) h
      exact ⟨List.mem_cons_of_mem attr hmem, hrest⟩

theorem known_of_packetized (hallowed : rfc.bit &&& allowedRFCs ≠ 0) {attr : Attributes}
    (h : isPacketized ext stun rfc attr = true) : isAttributeKnown allowedRFCs attr = true := by
  obtain ⟨-, hshould⟩ := Bool.and_eq_true_iff.mp h
  have hlegal : isAttributeLegal ext stun rfc attr = true := by
    unfold shouldPacketizeAttribute at hshould
    cases hlegal : isAttributeLegal ext stun rfc attr with
    | true => rfl
    | false =>
      rw [hlegal] at hshould
      cases hshould
  refine known_of_bit hallowed ?_
  unfold isAttributeLegal at hlegal
  split at hlegal
  · cases hlegal
  · split at hlegal
    · cases hlegal
    next hknown => simpa using hknown

end Carry

section Taken

variable {ext : Externals} {stun : STUNPacket} {rfc : RFCs} {packet : List UInt8}

/-- The parser takes what is written of an attribute, before the integrity. -/
theorem parse_element {attr : Attributes} (hattr : attr ∈ gAttributeOrdering)
    (hpacketized : isPacketized ext stun rfc attr = true) (hstrings : StringsTaken ext stun rfc)
    (hintegrity : attr ≠ .messageIntegrity) (hfingerprint : attr ≠ .fingerPrint) {written : List UInt8}
    (hwritten : 20 ≤ written.length) (hpacket : 20 ≤ packet.length) {e : Element}
    (he : e ∈ elementsOf ext stun rfc written attr) (start : Nat) (w : ParseState) :
    ∃ r, parseAttribute ext packet start attr e.value w = .ok r := by
  by_cases hcopied : attr ∈ copiedAttributes
  · have hpeer : attr ≠ .xorPeerAddress := by
      rintro rfl
      exact absurd hcopied (by decide)
    have hcongestion : attr ≠ .congestionControl := by
      rintro rfl
      exact absurd hcopied (by decide)
    rw [elementsOf_single hpacketized hpeer hcongestion] at he
    rw [List.mem_singleton.mp he]
    exact ⟨_, parse_valueOf hcopied hpacketized hstrings written w⟩
  by_cases haddress : attr ∈ addressAttributes
  · obtain ⟨cookie, mask, hmask, helements⟩ := elementsOf_addresses haddress hpacketized written
    rw [helements] at he
    obtain ⟨address, -, rfl⟩ := List.mem_map.mp he
    have hlength : ∀ l, mask = some l → l.length = 16 := by
      intro l hl
      rw [hmask l hl]
      exact length_slice written 4 16 (by omega)
    have hparse : ∀ cookie' xored, ∃ address', parseMappedAddress packet (addressValue ext address cookie mask) cookie'
        xored = .ok (some address') := fun cookie' xored => parse_addressValue address cookie cookie' mask xored hpacket hlength
    have hcases : attr = .mappedAddress ∨ attr = .xorMappedAddress ∨ attr = .alternateServer ∨ attr = .xorPeerAddress ∨
        attr = .xorRelayedAddress := by simpa [addressAttributes] using haddress
    obtain rfl | rfl | rfl | rfl | rfl := hcases
    all_goals
      unfold parseAttribute
      dsimp only
    · obtain ⟨address', h⟩ := hparse 0 false
      rw [h]
      exact ⟨_, rfl⟩
    · obtain ⟨address', h⟩ := hparse w.stun.mMagicCookie true
      rw [h]
      exact ⟨_, rfl⟩
    · obtain ⟨address', h⟩ := hparse 0 false
      rw [h]
      exact ⟨_, rfl⟩
    · obtain ⟨address', h⟩ := hparse w.stun.mMagicCookie true
      rw [h]
      exact ⟨_, rfl⟩
    · obtain ⟨address', h⟩ := hparse w.stun.mMagicCookie true
      rw [h]
      exact ⟨_, rfl⟩
  have hcases : attr = .errorCode ∨ attr = .congestionControl := by
    revert hattr hcopied haddress hintegrity hfingerprint
    cases attr <;> decide
  obtain rfl | rfl := hcases
  · rw [elementsOf_single hpacketized (by decide) (by decide)] at he
    rw [List.mem_singleton.mp he]
    have hreason : TakenString ext 127 stun.mReason := hstrings .errorCode stun.mReason 127 hpacketized rfl
    rw [parse_errorCode hreason]
    split <;> exact ⟨_, rfl⟩
  · have hlist : ∀ list directionBit, e ∈ congestionElements list directionBit →
        ∃ r, parseAttribute ext packet start .congestionControl e.value w = .ok r := by
      intro list directionBit he
      unfold congestionElements at he
      split at he
      · cases he
      next hne =>
        rw [List.mem_singleton.mp he]
        exact ⟨_, parse_congestionValue (List.length_pos_iff.mp (by omega)) directionBit w⟩
    unfold elementsOf at he
    rw [hpacketized, if_neg (by decide)] at he
    dsimp only at he
    rcases List.mem_append.mp he with he | he <;> exact hlist _ _ he

theorem foldlM_taken {l : List Carried}
    (h : ∀ c ∈ l, ∀ w, ∃ r, parseAttribute ext packet c.2.start c.1 c.2.value w = .ok r) (w : ParseState) :
    ∃ w', l.foldlM (takeAttribute ext packet) w = .ok w' := by
  induction l generalizing w with
  | nil => exact ⟨w, rfl⟩
  | cons c l ih =>
    obtain ⟨r, hr⟩ := h c List.mem_cons_self w
    have htake : ∃ w₁, takeAttribute ext packet w c = .ok w₁ := by
      unfold takeAttribute
      rw [hr]
      exact ⟨_, rfl⟩
    obtain ⟨w₁, hw₁⟩ := htake
    obtain ⟨w', hw'⟩ := ih (fun c hc => h c (List.mem_cons_of_mem _ hc)) w₁
    refine ⟨w', ?_⟩
    rw [List.foldlM_cons, hw₁]
    exact hw'

end Taken

section Header

variable {ext : Externals} {stun : STUNPacket} {rfc : RFCs} {allowedRFCs : UInt8} {allowRFC3489 : Bool}

theorem messageType_read (stun : STUNPacket) : UInt8.ofNat (stun.messageType.toNat / 256) &&& 0xC0 = 0 ∧
    Classes.ofCode (messageTypeClass stun.messageType) = some stun.mClass ∧
    Methods.ofCode (messageTypeMethod stun.messageType) = some stun.mMethod := by
  unfold STUNPacket.messageType
  generalize stun.mClass = tClass
  generalize stun.mMethod = method
  cases tClass <;> cases method <;> decide

theorem length_encodeAll_mod (l : List Element) : (encodeAll l).length % 4 = 0 := by
  induction l with
  | nil => rfl
  | cons e l ih =>
    have hmod := encodedLength_mod e.value.length
    rw [encodeAll_cons, List.length_append, length_encode]
    omega

/-- The parser reads the header of a packet that was written. -/
theorem parseIfSTUN_written (haligned : CongestionAligned ext stun rfc)
    (hsize : packetLengthInBytes ext stun rfc < 65556)
    (hmethod : isLegalMethod stun.mMethod stun.mClass allowedRFCs = true)
    (hcookie : allowRFC3489 = true ∨ stun.isRFC5389 = true) {packet : List UInt8}
    (hpacket : packet = headerBytes ext stun rfc ++ encodeAll ((packetElements ext stun rfc).map Prod.snd)) :
    parseIfSTUN ext packet allowedRFCs allowRFC3489 =
      (parseAttributes ext allowedRFCs packet 20 (wordAt packet 2)
          { stun := emptyPacket stun.mMagicCookie stun.mClass stun.mMethod stun.mTransactionID } >>= fun w =>
        .ok (w.stun.checkAttributes ext allowedRFCs)) := by
  have htotal := length_packetElements haligned
  have hmod := length_encodeAll_mod ((packetElements ext stun rfc).map Prod.snd)
  have hword : wordAt packet 2 = packetLengthInBytes ext stun rfc - 20 := by
    rw [hpacket]
    exact wordAt_headerBytes _ hsize
  have hlength : packet.length = packetLengthInBytes ext stun rfc := by
    rw [hpacket, List.length_append, length_headerBytes]
    exact htotal
  obtain ⟨htop, hclass, hmethodCode⟩ := messageType_read stun
  have hsplit : packet = toBE 2 stun.messageType.toNat ++ (toBE 2 (packetLengthInBytes ext stun rfc - 20) ++
      (toBE 4 stun.mMagicCookie.toNat ++ (stun.mTransactionID.toList ++
        encodeAll ((packetElements ext stun rfc).map Prod.snd)))) := by
    rw [hpacket]
    simp only [headerBytes, List.append_assoc]
  have hfirst : readBYTE packet 0 = .ok (UInt8.ofNat (stun.messageType.toNat / 256)) := by
    rw [hsplit]
    exact readBYTE_written _ _
  have htype : readWORD packet 0 = .ok stun.messageType := by
    rw [hsplit]
    exact readWORD_written _ _
  have hmessageLength : readWORD packet 2 = .ok (UInt16.ofNat (wordAt packet 2)) := readWORD_of_le (by omega)
  have hdword : readDWORD packet 4 = .ok stun.mMagicCookie := by
    have hslice : slice packet 4 4 = toBE 4 stun.mMagicCookie.toNat := by
      rw [hsplit, ← List.append_assoc (toBE 2 _)]
      exact slice_append_mid _ _ _ 4 4 (by simp) (length_toBE 4 _)
    rw [readDWORD, readAt_of_le (by omega), hslice]
    change Except.ok (UInt32.ofNat (ofBE (toBE 4 stun.mMagicCookie.toNat))) = _
    rw [ofBE_toBE_of_lt 4 _ stun.mMagicCookie.toNat_lt, UInt32.ofNat_toNat]
  have hid : readArray packet 8 12 = .ok stun.mTransactionID := by
    have hslice : slice packet 8 12 = stun.mTransactionID.toList := by
      rw [hsplit, ← List.append_assoc (toBE 2 _), ← List.append_assoc (toBE 2 _ ++ _)]
      exact slice_append_mid _ _ _ 8 12 (by simp) Vector.length_toList
    rw [readArray_of_le (by omega)]
    exact congrArg Except.ok (Vector.toList_inj.mp hslice)
  have hwordNat : (UInt16.ofNat (wordAt packet 2)).toNat = wordAt packet 2 := by
    rw [UInt16.toNat_ofNat']
    exact Nat.mod_eq_of_lt (wordAt_lt packet 2)
  have hthree : ¬UInt16.ofNat (wordAt packet 2) &&& 0x3 ≠ 0 := by
    intro h
    refine h (UInt16.toNat_inj.mp ?_)
    rw [UInt16.toNat_and, hwordNat]
    refine (Nat.and_two_pow_sub_one_eq_mod _ 2).trans ?_
    change wordAt packet 2 % 4 = 0
    omega
  have hallowed : ¬(!allowRFC3489 ∧ stun.mMagicCookie ≠ STUNPacket.magicCookie) := by
    rintro ⟨hnot, hne⟩
    rcases hcookie with h | h
    · rw [h] at hnot
      cases hnot
    · exact hne (by simpa [STUNPacket.isRFC5389] using h)
  unfold parseIfSTUN
  rw [rejectIf_of_not (by omega), ok_bind, hfirst, ok_bind, rejectIf_of_not (by rw [htop]; decide), ok_bind, hdword,
    ok_bind, rejectIf_of_not hallowed, ok_bind, htype, ok_bind, hmessageLength, ok_bind, rejectIf_of_not hthree, ok_bind,
    hwordNat, rejectIf_of_not (by omega), ok_bind, rejectIf_of_not (by omega), ok_bind, hid, ok_bind, hclass,
    hmethodCode]
  dsimp only
  rw [rejectIf_of_not (by rw [hmethod]; decide)]
  rfl

end Header

section Integrity

variable (ext : Externals)

/-- A string as it is handed over by a pointer. -/
def cString (s : List UInt8) : List UInt8 := s.takeWhile (· != 0)

/-- The bytes the integrity at a position is computed over. -/
def signedBytes (packet : List UInt8) (start : Nat) : List UInt8 := (overwrite packet 2 (toBE 2 (start + 4 + 20 - 20))).take start

/-- The credentials a message with this integrity is checked with. -/
def STUNPacket.login (stun : STUNPacket) : Option (List UInt8 × List UInt8) :=
  if stun.mCredentialMechanism = .longTerm then some (cString stun.mUsername, cString stun.mRealm) else none

/-- What the key of an integrity is made of. -/
def credentialBytes (password : List UInt8) : Option (List UInt8 × List UInt8) → List UInt8
  | none => password
  | some (username, realm) => username ++ [0x3A] ++ realm ++ [0x3A] ++ password

/-- The check of the integrity in the packet itself: what it says, and the bytes it leaves. -/
def STUNPacket.checkMessageIntegrity (stun : STUNPacket) (password : List UInt8)
    (login : Option (List UInt8 × List UInt8)) : Except Fault (Bool × List UInt8) :=
  match stun.mOriginalPacket with
  | none => .error .invalidUsage
  | some packet =>
    let prefixed := match login with
      | none => password
      | some (username, realm) => username ++ [0x3A] ++ realm ++ [0x3A] ++ password
    let length := stun.mMessageIntegrityMessageLengthInBytes
    let originalLength := slice packet 2 2
    let smashed := overwrite packet 2 (toBE 2 (length + 4 + 20 - 20))
    let result := ext.hmacSHA1 (ext.md5 prefixed) (smashed.take length)
    .ok (decide (stun.mMessageIntegrity = result), overwrite smashed 2 originalLength)

theorem isValidMessageIntegrity_eq {stun : STUNPacket} {packet : List UInt8} (horiginal : stun.mOriginalPacket = some packet)
    (password : List UInt8) (login : Option (List UInt8 × List UInt8)) :
    stun.isValidMessageIntegrity ext password login =
      .ok (decide (stun.mMessageIntegrity = ext.hmacSHA1 (ext.md5 (credentialBytes password login))
        (signedBytes packet stun.mMessageIntegrityMessageLengthInBytes))) := by
  unfold STUNPacket.isValidMessageIntegrity
  rw [horiginal]
  cases login <;> rfl

theorem checkMessageIntegrity_eq {stun : STUNPacket} {packet : List UInt8} (horiginal : stun.mOriginalPacket = some packet)
    (hlength : 4 ≤ packet.length) (password : List UInt8) (login : Option (List UInt8 × List UInt8)) :
    stun.checkMessageIntegrity ext password login =
      (stun.isValidMessageIntegrity ext password login).map (·, packet) := by
  have hrestored := overwrite_restore packet (toBE 2 (stun.mMessageIntegrityMessageLengthInBytes + 4 + 20 - 20)) hlength
    (length_toBE 2 _)
  unfold STUNPacket.checkMessageIntegrity STUNPacket.isValidMessageIntegrity
  rw [horiginal]
  dsimp only
  rw [hrestored]
  rfl

/-- A packet that is written is parsed into one whose integrity is valid with the same credentials. -/
structure IntegrityRoundTrip (stun : STUNPacket) (rfc : RFCs) (allowedRFCs : UInt8) (allowRFC3489 : Bool)
    (w : PacketWriter) (stun' : STUNPacket) : Prop where
  packetized : stun.packetize ext rfc = .ok w
  parsed : parseIfSTUN ext w.packet allowedRFCs allowRFC3489 = .ok stun'
  valid : stun'.isValidMessageIntegrity ext (cString stun.mPassword) stun.login = .ok true
  /-- The check of a fingerprint that was asked for is passed. -/
  fingerprint : stun.mFingerprintIncluded = true → CarriesAttribute ext allowedRFCs w.packet .fingerPrint
  /-- What was written is the hash of the bytes that are checked. -/
  sameBytes : (stun'.mMessageIntegrityMessageLengthInBytes, Attributes.messageIntegrity, 20) ∈ w.headers ∧
    slice w.packet (stun'.mMessageIntegrityMessageLengthInBytes + 4) 20 =
      (ext.hmacSHA1 (ext.md5 (credentialBytes (cString stun.mPassword) stun.login))
        (signedBytes w.packet stun'.mMessageIntegrityMessageLengthInBytes)).toList
  /-- The length in the header is left as it is: by the writer, and by the check. -/
  restored : 20 + wordAt w.packet 2 = w.packet.length ∧
    stun'.checkMessageIntegrity ext (cString stun.mPassword) stun.login = .ok (true, w.packet)

end Integrity

section Signed

variable {ext : Externals} {stun : STUNPacket} {rfc : RFCs} {allowedRFCs : UInt8} {packet : List UInt8}

theorem toProcess_signed {pre : List Carried}
    (hpre : ∀ c ∈ pre, c.1 ≠ .messageIntegrity ∧ c.1 ≠ .fingerPrint) {c : Carried} (hc : c.1 = .messageIntegrity)
    (rest : List Carried) : toProcess (pre ++ c :: rest) = pre ++ c :: behindIntegrity rest := by
  induction pre with
  | nil =>
    rw [List.nil_append, toProcess, if_neg (by rw [hc]; decide), if_pos hc]
    rfl
  | cons d pre ih =>
    obtain ⟨hintegrity, hfingerprint⟩ := hpre d List.mem_cons_self
    rw [List.cons_append, toProcess, if_neg hfingerprint, if_neg hintegrity,
      ih fun c hc => hpre c (List.mem_cons_of_mem d hc), List.cons_append]

variable (w : ParseState)

theorem takeAttribute_integrity (integrity : Vector UInt8 20) (tag : UInt16) (start : Nat) :
    takeAttribute ext packet w (.messageIntegrity, ⟨⟨tag, integrity.toList⟩, start⟩) =
      .ok { w with
        foundIntegrity := true
        stun := { w.stun with
          mMessageIntegrity := integrity
          mOriginalPacket := some packet
          mMessageIntegrityMessageLengthInBytes := start } } := by
  have harray := readArray_written [] integrity
  rw [List.append_nil] at harray
  unfold takeAttribute parseAttribute
  dsimp only
  rw [rejectIf_of_not (by simp), ok_bind, harray]
  rfl

/-- What the parser makes of the fingerprint of what is before it. -/
theorem takeAttribute_fingerprint (tag : UInt16) {start : Nat} (hstart : start ≤ packet.length) :
    takeAttribute ext packet w
        (.fingerPrint, ⟨⟨tag, toBE 4 (ext.crc32 (packet.take start) ^^^ 0x5354554e).toNat⟩, start⟩) =
      .ok { w with foundFingerprint := true, stun := { w.stun with mFingerprintIncluded := true } } := by
  have hdword := readDWORD_written [] (ext.crc32 (packet.take start) ^^^ 0x5354554e)
  rw [List.append_nil] at hdword
  have hcovered : readAt packet 0 start = .ok (packet.take start) := by
    rw [readAt_of_le (by omega), slice, List.drop_zero]
  unfold takeAttribute parseAttribute
  dsimp only
  rw [rejectIf_of_not (by simp), ok_bind, hcovered, ok_bind, hdword, ok_bind, rejectIf_of_not (by simp)]
  rfl

/-- The elements of a packet with credentials: the integrity is behind all others but the fingerprint. -/
theorem packetElements_signed (hintegrity : isPacketized ext stun rfc .messageIntegrity = true) :
    ∃ before, 20 ≤ before.length ∧ ∃ pre : List (Attributes × Element), ∃ post : List Element,
      before = headerBytes ext stun rfc ++ encodeAll (pre.map Prod.snd) ∧
      packetElements ext stun rfc = pre ++
        (Attributes.messageIntegrity, ⟨Attributes.messageIntegrity.toCode, integrityValue ext stun before⟩) ::
          post.map (Attributes.fingerPrint, ·) ∧
      (∀ c ∈ pre, c.1 ∈ gAttributeOrdering ∧ c.1 ≠ .messageIntegrity ∧ c.1 ≠ .fingerPrint) ∧
      post = elementsOf ext stun rfc (before ++
        encode ⟨Attributes.messageIntegrity.toCode, integrityValue ext stun before⟩) .fingerPrint := by
  have hordering : gAttributeOrdering =
      gAttributeOrdering.take 30 ++ [Attributes.messageIntegrity, Attributes.fingerPrint] := by decide
  have hothers : ∀ attr ∈ gAttributeOrdering.take 30, attr ∈ gAttributeOrdering ∧ attr ≠ .messageIntegrity ∧
      attr ≠ .fingerPrint := by decide
  generalize gAttributeOrdering.take 30 = others at hordering hothers
  refine ⟨headerBytes ext stun rfc ++
    encodeAll ((elementsFrom ext stun rfc (headerBytes ext stun rfc) others).map Prod.snd), ?_,
    elementsFrom ext stun rfc (headerBytes ext stun rfc) others, _, rfl, ?_, ?_, rfl⟩
  · rw [List.length_append, length_headerBytes]
    omega
  · have hsingle := elementsOf_single hintegrity (by decide) (by decide)
      (headerBytes ext stun rfc ++
        encodeAll ((elementsFrom ext stun rfc (headerBytes ext stun rfc) others).map Prod.snd))
    unfold packetElements
    rw [hordering, elementsFrom_append, elementsFrom, elementsFrom, elementsFrom, hsingle, List.append_nil,
      encodeAll_cons, encodeAll_nil, List.append_nil]
    rfl
  · intro c hc
    exact hothers c.1 (mem_elementsFrom (by rw [length_headerBytes]) hc).1

theorem cString_eq {s : List UInt8} (h : 0 ∉ s) : cString s = s := by
  unfold cString
  rw [List.takeWhile_eq_self_iff]
  intro b hb
  have hne : b ≠ 0 := fun h' => h (h' ▸ hb)
  simpa using hne

/-- The credentials of a packet have no zero in them. -/
def STUNPacket.CredentialsWhole (stun : STUNPacket) : Prop :=
  0 ∉ stun.mPassword ∧ (stun.mCredentialMechanism = .longTerm → 0 ∉ stun.mUsername ∧ 0 ∉ stun.mRealm)

theorem integrityValue_login (hcredentials : stun.mCredentialMechanism ≠ .none) (hwhole : stun.CredentialsWhole)
    (written : List UInt8) :
    integrityValue ext stun written =
      (ext.hmacSHA1 (ext.md5 (credentialBytes (cString stun.mPassword) stun.login))
        (overwrite written 2 (toBE 2 (written.length + 4)))).toList := by
  obtain ⟨hpassword, hlong⟩ := hwhole
  unfold integrityValue STUNPacket.login
  rw [cString_eq hpassword]
  cases hmechanism : stun.mCredentialMechanism with
  | none => exact absurd hmechanism hcredentials
  | shortTerm => rfl
  | longTerm =>
    obtain ⟨husername, hrealm⟩ := hlong hmechanism
    rw [cString_eq husername, cString_eq hrealm]
    rfl

/-- The bytes that are hashed are those before the integrity, with the length replaced. -/
theorem signedBytes_written {before rest : List UInt8} (hbefore : 20 ≤ before.length) :
    signedBytes (before ++ rest) before.length = overwrite before 2 (toBE 2 (before.length + 4)) := by
  have hlength : (overwrite before 2 (toBE 2 (before.length + 4))).length = before.length :=
    length_overwrite _ _ _ (by rw [length_toBE]; omega)
  have hsplit : overwrite (before ++ rest) 2 (toBE 2 (before.length + 4)) =
      overwrite before 2 (toBE 2 (before.length + 4)) ++ rest := by
    unfold overwrite
    rw [List.take_append_of_le_length (by omega), List.drop_append_of_le_length (by rw [length_toBE]; omega)]
    simp only [List.append_assoc]
  unfold signedBytes
  rw [Nat.add_sub_cancel, hsplit, List.take_append_of_le_length (by omega), List.take_of_length_le (by omega)]

variable {attr : Attributes}

theorem legal_of_isLegal (h : stun.isLegal ext rfc = true) (hattr : attr ∈ gAttributeOrdering)
    (hhas : stun.hasAttribute ext attr = true) : isAttributeLegal ext stun rfc attr = true := by
  have hall := List.all_eq_true.mp h attr hattr
  rw [if_pos hhas] at hall
  exact hall

theorem packetized_of_isLegal (h : stun.isLegal ext rfc = true) (hattr : attr ∈ gAttributeOrdering)
    (husername : attr ≠ .username) (hrealm : attr ≠ .realm) (hhas : stun.hasAttribute ext attr = true) :
    isPacketized ext stun rfc attr = true := by
  have hlegal := legal_of_isLegal h hattr hhas
  unfold isPacketized shouldPacketizeAttribute
  rw [hhas, hlegal, Bool.true_and, if_neg (by decide)]
  split
  · rfl
  · split <;> first | rfl | exact absurd rfl husername | exact absurd rfl hrealm

theorem legalMethod_of_legal (h : isAttributeLegal ext stun rfc attr = true)
    (hallowed : rfc.bit &&& allowedRFCs ≠ 0) : isLegalMethod stun.mMethod stun.mClass allowedRFCs = true := by
  have hmethod : isLegalMethod stun.mMethod stun.mClass rfc.bit = true := by
    unfold isAttributeLegal at h
    cases hmethod : isLegalMethod stun.mMethod stun.mClass rfc.bit with
    | true => rfl
    | false =>
      rw [hmethod] at h
      cases h
  unfold isLegalMethod at hmethod ⊢
  split at hmethod
  · cases hmethod
  next hne =>
    rw [UInt8.and_comm] at hne
    have hmeets := and_ne_zero_of_within (rfc.bit_and_eq hallowed) hne
    rw [UInt8.and_comm] at hmeets
    rw [if_neg hmeets]
    exact hmethod

variable {pre : List (Attributes × Element)}

/-- The attributes of a packet with credentials that the parser processes: all that were written. -/
theorem processed_signed (haligned : CongestionAligned ext stun rfc)
    (hsize : packetLengthInBytes ext stun rfc < 65556) (hallowed : rfc.bit &&& allowedRFCs ≠ 0)
    (hpacket : packet = headerBytes ext stun rfc ++ encodeAll ((packetElements ext stun rfc).map Prod.snd))
    {integrity : Element} {post : List Element}
    (helements : packetElements ext stun rfc = pre ++ (Attributes.messageIntegrity, integrity) :: post.map (Attributes.fingerPrint, ·))
    (hpre : ∀ c ∈ pre, c.1 ∈ gAttributeOrdering ∧ c.1 ≠ .messageIntegrity ∧ c.1 ≠ .fingerPrint) :
    ∃ l, attributesOf packet = some l ∧ processed allowedRFCs l =
      carry 20 pre ++ (Attributes.messageIntegrity, ⟨integrity, 20 + (encodeAll (pre.map Prod.snd)).length⟩) ::
        behindIntegrity (carry (20 + (encodeAll (pre.map Prod.snd)).length + encodedLength integrity.value.length)
          (post.map (Attributes.fingerPrint, ·))) := by
  refine ⟨place 20 ((packetElements ext stun rfc).map Prod.snd), ?_, ?_⟩
  · rw [hpacket]
    exact attributesOf_written haligned hsize
  · have hknown : ∀ c ∈ packetElements ext stun rfc, c.2.tag = c.1.toCode ∧ isAttributeKnown allowedRFCs c.1 = true := by
      intro c hc
      obtain ⟨-, hpacketized, -⟩ := mem_elementsFrom (by rw [length_headerBytes]) hc
      exact ⟨tag_of_mem_elementsFrom hc, known_of_packetized hallowed hpacketized⟩
    have hbefore : ∀ c ∈ carry 20 pre, c.1 ≠ .messageIntegrity ∧ c.1 ≠ .fingerPrint := by
      intro c hc
      exact (hpre _ (mem_carry hc)).2
    unfold processed
    rw [filterMap_place hknown, helements, carry_append, carry]
    exact toProcess_signed hbefore rfl _

/-- The parser takes a packet with credentials, and keeps its integrity. -/
theorem foldlM_signed (hstrings : StringsTaken ext stun rfc) (hlength : 20 ≤ packet.length)
    (hmem : ∀ c ∈ pre, c ∈ packetElements ext stun rfc)
    (hpre : ∀ c ∈ pre, c.1 ∈ gAttributeOrdering ∧ c.1 ≠ .messageIntegrity ∧ c.1 ≠ .fingerPrint)
    (integrity : Vector UInt8 20) (tag : UInt16) (start : Nat) {rest : List Carried}
    (hrest : ∀ c ∈ rest, ∃ tag start, start ≤ packet.length ∧ c = (.fingerPrint, ⟨⟨tag, toBE 4 (ext.crc32 (packet.take start) ^^^ 0x5354554e).toNat⟩, start⟩))
    (w : ParseState) :
    ∃ w', (carry 20 pre ++ (Attributes.messageIntegrity, ⟨⟨tag, integrity.toList⟩, start⟩) :: rest).foldlM
        (takeAttribute ext packet) w = .ok w' ∧
      w'.stun.mMessageIntegrity = integrity ∧ w'.stun.mOriginalPacket = some packet ∧
      w'.stun.mMessageIntegrityMessageLengthInBytes = start := by
  have htaken : ∀ c ∈ carry 20 pre, ∀ w, ∃ r, parseAttribute ext packet c.2.start c.1 c.2.value w = .ok r := by
    intro c hc w
    have hc := mem_carry hc
    obtain ⟨hordering, hintegrity, hfingerprint⟩ := hpre _ hc
    obtain ⟨-, hpacketized, written, hwritten, he⟩ := mem_elementsFrom (by rw [length_headerBytes]) (hmem _ hc)
    exact parse_element hordering hpacketized hstrings hintegrity hfingerprint hwritten hlength he c.2.start w
  have hbehind : ∀ (l : List Carried), (∀ c ∈ l, c ∈ rest) → ∀ w₁ : ParseState,
      ∃ w', l.foldlM (takeAttribute ext packet) w₁ = .ok w' ∧
        w'.stun.mMessageIntegrity = w₁.stun.mMessageIntegrity ∧ w'.stun.mOriginalPacket = w₁.stun.mOriginalPacket ∧
        w'.stun.mMessageIntegrityMessageLengthInBytes = w₁.stun.mMessageIntegrityMessageLengthInBytes := by
    intro l
    induction l with
    | nil =>
      intro _ w₁
      exact ⟨w₁, rfl, rfl, rfl, rfl⟩
    | cons c l ih =>
      intro hl w₁
      obtain ⟨tag, start, hstart, rfl⟩ := hrest c (hl c List.mem_cons_self)
      obtain ⟨w', hw', hsame⟩ := ih (fun c hc => hl c (List.mem_cons_of_mem _ hc))
        { w₁ with foundFingerprint := true, stun := { w₁.stun with mFingerprintIncluded := true } }
      refine ⟨w', ?_, hsame⟩
      rw [List.foldlM_cons, takeAttribute_fingerprint w₁ tag hstart]
      exact hw'
  obtain ⟨w₁, hw₁⟩ := foldlM_taken htaken w
  obtain ⟨w', hw', hintegrity, horiginal, hstart⟩ := hbehind rest (fun c hc => hc) { w₁ with
    foundIntegrity := true
    stun := { w₁.stun with
      mMessageIntegrity := integrity
      mOriginalPacket := some packet
      mMessageIntegrityMessageLengthInBytes := start } }
  refine ⟨w', ?_, hintegrity, horiginal, hstart⟩
  rw [List.foldlM_append, hw₁, ok_bind, List.foldlM_cons, takeAttribute_integrity]
  exact hw'

end Signed

/-- A legal packet with credentials makes the round trip of the integrity when it fits into its length, when the
parser takes its strings, when no zero cuts its credentials short, and when its lists of congestion control
algorithms fill whole words. -/
theorem integrity_round_trip (ext : Externals) (stun : STUNPacket) (rfc : RFCs) (allowedRFCs : UInt8)
    (allowRFC3489 : Bool) (hlegal : stun.isLegal ext rfc = true) (hcredentials : stun.mCredentialMechanism ≠ .none)
    (hallowed : rfc.bit &&& allowedRFCs ≠ 0) (hcookie : allowRFC3489 = true ∨ stun.isRFC5389 = true)
    (haligned : CongestionAligned ext stun rfc) (hsize : packetLengthInBytes ext stun rfc < 65556)
    (hstrings : StringsTaken ext stun rfc) (hwhole : stun.CredentialsWhole) :
    ∃ w stun', IntegrityRoundTrip ext stun rfc allowedRFCs allowRFC3489 w stun' := by
  have hintegrity : isPacketized ext stun rfc .messageIntegrity = true := by
    refine packetized_of_isLegal hlegal (by decide) (by decide) (by decide) ?_
    simp [STUNPacket.hasAttribute, hcredentials]
  have hsignedLegal : isAttributeLegal ext stun rfc .messageIntegrity = true :=
    legal_of_isLegal hlegal (by decide) (Bool.and_eq_true_iff.mp hintegrity).1
  have hmethod := legalMethod_of_legal hsignedLegal hallowed
  obtain ⟨before, hbefore, pre, post, hbeforeEq, helements, hpre, hpost⟩ := packetElements_signed hintegrity
  rw [integrityValue_login hcredentials hwhole before] at helements hpost
  have hstart : 20 + (encodeAll (pre.map Prod.snd)).length = before.length := by
    rw [hbeforeEq, List.length_append, length_headerBytes]
  obtain ⟨packet, hpacket⟩ : ∃ packet, packet = headerBytes ext stun rfc ++
      encodeAll ((packetElements ext stun rfc).map Prod.snd) := ⟨_, rfl⟩
  have hpacketize := packetize_eq haligned
  rw [← hpacket] at hpacketize
  obtain ⟨integrity, hsigned⟩ : ∃ integrity, integrity = ext.hmacSHA1
      (ext.md5 (credentialBytes (cString stun.mPassword) stun.login))
      (overwrite before 2 (toBE 2 (before.length + 4))) := ⟨_, rfl⟩
  rw [← hsigned] at helements hpost
  have hsplit : packet = before ++ (encode ⟨Attributes.messageIntegrity.toCode, integrity.toList⟩ ++ encodeAll post) := by
    rw [hpacket, helements, List.map_append, encodeAll_append, List.map_cons, map_snd_pair, encodeAll_cons, hbeforeEq,
      List.append_assoc]
  have hend : (before ++ encode ⟨Attributes.messageIntegrity.toCode, integrity.toList⟩).length = before.length + 24 := by
    rw [List.length_append, length_encode, Vector.length_toList]
    rfl
  have htake : packet.take (before.length + 24) =
      before ++ encode ⟨Attributes.messageIntegrity.toCode, integrity.toList⟩ := by
    rw [hsplit, ← List.append_assoc, ← hend, List.take_left]
  have hlength : before.length + 24 ≤ packet.length := by
    rw [hsplit, ← List.append_assoc, List.length_append, hend]
    omega
  obtain ⟨l, hl, hprocessed⟩ := processed_signed haligned hsize hallowed hpacket helements hpre
  have hfour : encodedLength (⟨Attributes.messageIntegrity.toCode, integrity.toList⟩ : Element).value.length = 24 :=
    congrArg encodedLength Vector.length_toList
  rw [hstart, hfour] at hprocessed
  -- behind the integrity the parser finds the fingerprint, when it was written
  have hrest : ∀ c ∈ behindIntegrity (carry (before.length + 24) (post.map (Attributes.fingerPrint, ·))),
      c = (.fingerPrint, ⟨⟨Attributes.fingerPrint.toCode, toBE 4 (ext.crc32 (packet.take (before.length + 24)) ^^^
        0x5354554e).toNat⟩, before.length + 24⟩) := by
    intro c hc
    have hc := mem_behindIntegrity hc
    cases hpacketized : isPacketized ext stun rfc .fingerPrint with
    | false =>
      rw [hpost, elementsOf_not hpacketized] at hc
      cases hc
    | true =>
      rw [hpost, elementsOf_single hpacketized (by decide) (by decide)] at hc
      rw [htake]
      exact List.mem_singleton.mp hc
  obtain ⟨w, hfold, hkept, horiginal, hkeptLength⟩ := foldlM_signed hstrings (by omega)
    (fun c hc => by rw [helements]; exact List.mem_append_left _ hc) hpre integrity Attributes.messageIntegrity.toCode
    before.length (fun c hc => ⟨_, _, hlength, hrest c hc⟩)
    { stun := emptyPacket stun.mMagicCookie stun.mClass stun.mMethod stun.mTransactionID }
  rw [← hprocessed] at hfold
  have hword : 20 + wordAt packet 2 = packet.length := by
    have htotal := length_packetElements haligned
    rw [hpacket, wordAt_headerBytes _ hsize, List.length_append, length_headerBytes]
    omega
  have hmod : wordAt packet 2 % 4 = 0 := by
    have htotal := length_packetElements haligned
    have hmod := length_encodeAll_mod ((packetElements ext stun rfc).map Prod.snd)
    rw [hpacket, wordAt_headerBytes _ hsize]
    omega
  have hparse : parseIfSTUN ext packet allowedRFCs allowRFC3489 = .ok (w.stun.checkAttributes ext allowedRFCs) := by
    have hattributes : parseAttributes ext allowedRFCs packet 20 (wordAt packet 2)
        { stun := emptyPacket stun.mMagicCookie stun.mClass stun.mMethod stun.mTransactionID } = .ok w := by
      refine (parseAttributes_eq_ok hmod (le_of_eq hword)).mpr ⟨l, hl, ?_⟩
      rw [foldlM_handleElement]
      exact hfold
    rw [parseIfSTUN_written haligned hsize hmethod hcookie hpacket, hattributes]
    rfl
  obtain ⟨stun', hparse, hkept, horiginal, hkeptLength⟩ : ∃ stun',
      parseIfSTUN ext packet allowedRFCs allowRFC3489 = .ok stun' ∧ stun'.mMessageIntegrity = integrity ∧
        stun'.mOriginalPacket = some packet ∧ stun'.mMessageIntegrityMessageLengthInBytes = before.length := by
    obtain ⟨errorCode, unknown, hchecked⟩ := checkAttributes_eq ext w.stun allowedRFCs
    rw [hchecked] at hparse
    exact ⟨_, hparse, hkept, horiginal, hkeptLength⟩
  have hsame : ext.hmacSHA1 (ext.md5 (credentialBytes (cString stun.mPassword) stun.login))
      (signedBytes packet before.length) = integrity := by
    rw [hsplit, signedBytes_written hbefore, hsigned]
  have hvalid : stun'.isValidMessageIntegrity ext (cString stun.mPassword) stun.login = .ok true := by
    rw [isValidMessageIntegrity_eq ext horiginal, hkept, hkeptLength, hsame]
    exact congrArg Except.ok (decide_eq_true rfl)
  refine ⟨_, stun', hpacketize, hparse, hvalid, ?_, ⟨?_, ?_⟩, hword, ?_⟩
  · intro hrequested
    have hpacketized : isPacketized ext stun rfc .fingerPrint = true :=
      packetized_of_isLegal hlegal (by decide) (by decide) (by decide) hrequested
    rw [elementsOf_single hpacketized (by decide) (by decide)] at hpost
    rw [hpost] at hprocessed hrest
    refine ⟨l, ⟨⟨Attributes.fingerPrint.toCode, toBE 4 (ext.crc32 (before ++
      encode ⟨Attributes.messageIntegrity.toCode, integrity.toList⟩) ^^^ 0x5354554e).toNat⟩, before.length + 24⟩, hl,
      ?_, ?_, ?_⟩
    · rw [hprocessed]
      exact List.mem_append_right _ (List.mem_cons_of_mem _ List.mem_cons_self)
    · exact le_of_eq (length_toBE 4 _).symm
    · intro _
      dsimp only
      rw [htake, slice, List.drop_zero, List.take_of_length_le (le_of_eq (length_toBE 4 _)),
        ofBE_toBE_of_lt 4 _ (UInt32.toNat_lt _), UInt32.ofNat_toNat]
  · dsimp only
    rw [hkeptLength, helements, headersFrom_append, hstart]
    refine List.mem_append_right _ ?_
    rw [headersFrom, Vector.length_toList]
    exact List.mem_cons_self
  · obtain ⟨-, hlengthAt, hvalueAt⟩ := at_encode before (encodeAll post)
      ⟨Attributes.messageIntegrity.toCode, integrity.toList⟩ (by rw [Vector.length_toList]; decide)
    rw [valueAt, hlengthAt, Vector.length_toList, ← hsplit] at hvalueAt
    rw [hkeptLength, hsame]
    exact hvalueAt
  · rw [checkMessageIntegrity_eq ext horiginal (by omega), hvalid]
    rfl

/-- A request of a user with a password, that names its software. -/
def userRequest (software : List UInt8) : STUNPacket :=
  { mUsername := [0x75], mPassword := [0x70], mCredentialMechanism := .shortTerm, mSoftware := software }

theorem integrity_round_trip_user : ∃ w stun',
    IntegrityRoundTrip plainExternals (userRequest []) .rfc5389STUN allowAll false w stun' := by
  refine integrity_round_trip plainExternals (userRequest []) .rfc5389STUN allowAll false (by decide) (by decide)
    (by decide) (.inr (by decide)) (fun h => absurd h (by decide)) (by decide) ?_ ⟨by decide, fun h => (nomatch h)⟩
  intro attr s maxLength hpacketized hs
  have husername : attr = .username := by
    cases attr <;> first | rfl | exact absurd hpacketized (by decide) | cases hs
  subst husername
  obtain ⟨rfl, rfl⟩ := Prod.mk.inj (Option.some.inj hs)
  exact ⟨by decide, by decide, by decide⟩

/-- The parser takes no packet with the name of a software of 128 bytes, which the checks of legality allow. -/
theorem integrity_of_long_software :
    (userRequest (List.replicate 128 0x61)).isLegal plainExternals .rfc5389STUN = true ∧
      (userRequest (List.replicate 128 0x61)).mCredentialMechanism = .shortTerm ∧
      ¬∃ w stun', IntegrityRoundTrip plainExternals (userRequest (List.replicate 128 0x61)) .rfc5389STUN allowAll false
        w stun' := by
  refine ⟨by decide +kernel, rfl, ?_⟩
  rintro ⟨w, stun', h⟩
  have hparsed : ((userRequest (List.replicate 128 0x61)).packetize plainExternals .rfc5389STUN).map (fun w =>
      (parseIfSTUN plainExternals w.packet allowAll false).isOk) = .ok false := by decide +kernel
  rw [h.packetized] at hparsed
  have hparsed : (parseIfSTUN plainExternals w.packet allowAll false).isOk = false := Except.ok.inj hparsed
  rw [h.parsed] at hparsed
  cases hparsed

end OpenPeer
