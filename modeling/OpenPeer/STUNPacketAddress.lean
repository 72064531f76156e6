import OpenPeer.STUNPacketWritten

/-!
# The round trip of addresses

An address of IPv4 is read back as it was written, masked or not. Of an address of IPv6
the parser copies the sixteen bytes from the family on, so that it reads back only the
addresses whose bytes are that word over and over.
-/
namespace OpenPeer

open Bytes Tlv

section Addresses

variable (ext : Externals)

/-- The getters of the library return what an address was made of. -/
structure AddressGetters : Prop where
  isIPv4 : ∀ address port, ext.isIPv4 (.ipv4 address port) = true
  getIPv4AddressAsDWORD : ∀ address port, ext.getIPv4AddressAsDWORD (.ipv4 address port) = address
  getIPv6Address : ∀ address port, ext.getIPv6Address (.ipv6 address port) = address
  getPort : ∀ address port, ext.getPort (.ipv4 address port) = port
  getPort' : ∀ address port, ext.getPort (.ipv6 address port) = port

/-- An address of IPv4, or one of IPv6 that the library does not take for one of IPv4. -/
def ProperAddress : IPAddress → Prop
  | .ipv4 _ _ => True
  | .ipv6 address port => ext.isIPv4 (.ipv6 address port) = false
  | .empty => False

/-- The attributes whose values are addresses. -/
def addressAttributes : List Attributes :=
  [.mappedAddress, .xorMappedAddress, .alternateServer, .xorPeerAddress, .xorRelayedAddress]

/-- The addresses of an attribute. -/
def addressesOf (stun : STUNPacket) : Attributes → List IPAddress
  | .mappedAddress | .xorMappedAddress => [stun.mMappedAddress]
  | .alternateServer => [stun.mAlternateServer]
  | .xorPeerAddress => stun.mPeerAddressList
  | .xorRelayedAddress => [stun.mRelayedAddress]
  | _ => []

/-- An address is read back as it was written into a packet with this cookie and transaction, and every
attribute it belongs to takes the length that is computed for it. -/
structure AddressRoundTrip (address : IPAddress) (magicCookie : UInt32) (transactionID : Vector UInt8 12)
    (xored : Bool) : Prop where
  parsed : ∀ front n, 20 ≤ front.length → slice front 4 16 = toBE 4 magicCookie.toNat ++ transactionID.toList →
    addressLength ext address ≤ n → ∃ packet,
      packetizeIPAddress ext address (if xored then magicCookie else 0) xored (front ++ zeros n) front.length =
          .ok packet ∧
        parseMappedAddress packet (slice packet front.length (addressLength ext address))
          (if xored then magicCookie else 0) xored = .ok (some address)
  lengths : ∀ stun rfc attr, attr ∈ addressAttributes → address ∈ addressesOf stun attr →
    isPacketized ext stun rfc attr = true → ∀ front n headers, 20 ≤ front.length →
      packetizeAttributeLength ext stun rfc attr ≤ n → ∃ w,
        packetizeAttribute ext stun rfc { packet := front ++ zeros n, pos := front.length, headers := headers } attr =
            .ok w ∧
          w.pos = front.length + packetizeAttributeLength ext stun rfc attr ∧
          w.headers.map Prod.snd = headers.map Prod.snd ++
            (addressesOf stun attr).map fun a => (attr, addressLength ext a)

/-- An address of IPv4; or one of IPv6 that is, masked, the word of its family and its port four times. -/
def ReadBack (magicCookie : UInt32) (transactionID : Vector UInt8 12) (xored : Bool) : IPAddress → Prop
  | .ipv6 address port =>
    let cookie := if xored then magicCookie else 0
    let mask := if xored then toBE 4 magicCookie.toNat ++ transactionID.toList else zeros 16
    address.toList.zipWith (· ^^^ ·) mask =
      (List.replicate 4 (([0x00, 0x02] : List UInt8) ++ toBE 2 (port.toUInt32 ^^^ (cookie >>> 16)).toNat)).flatten
  | _ => True

end Addresses

section Masks

theorem zipWith_xor_xor (a mask : List UInt8) (h : a.length = mask.length) :
    (a.zipWith (· ^^^ ·) mask).zipWith (· ^^^ ·) mask = a := by
  induction a generalizing mask with
  | nil => rfl
  | cons b a ih =>
    cases mask with
    | nil => cases h
    | cons m mask =>
      rw [List.zipWith_cons_cons, List.zipWith_cons_cons, ih mask (Nat.succ.inj h), UInt8.xor_assoc, UInt8.xor_self,
        UInt8.xor_zero]

theorem zipWith_xor_zeros (a : List UInt8) : a.zipWith (· ^^^ ·) (zeros a.length) = a := by
  induction a with
  | nil => rfl
  | cons b a ih =>
    have hzeros : zeros (b :: a).length = 0 :: zeros a.length := rfl
    rw [hzeros, List.zipWith_cons_cons, ih, UInt8.xor_zero]

theorem zipWith_xor_eq_iff {a b mask : List UInt8} (ha : a.length = mask.length) (hb : b.length = mask.length) :
    a.zipWith (· ^^^ ·) mask = b ↔ a = b.zipWith (· ^^^ ·) mask := by
  constructor
  · intro h
    rw [← h, zipWith_xor_xor a mask ha]
  · intro h
    rw [h, zipWith_xor_xor b mask hb]

/-- A list that begins with a word and goes on with itself is that word over and over. -/
theorem eq_replicate_iff {word l : List UInt8} (hword : word.length = 4) (hl : l.length = 16) :
    word ++ l.take 12 = l ↔ l = (List.replicate 4 word).flatten := by
  have hfour : (List.replicate 4 word).flatten = word ++ (word ++ (word ++ word)) := by
    simp [List.replicate]
  rw [hfour]
  constructor
  · intro h
    have hstep : ∀ k, k ≤ 12 → l.take (k + 4) = word ++ l.take k := by
      intro k hk
      conv_lhs => rw [← h]
      rw [Nat.add_comm k 4, ← hword, List.take_length_add_append, List.take_take, Nat.min_eq_left hk]
    have hall : l.take (12 + 4) = l := List.take_of_length_le (by omega)
    have h12 := hstep 12 (by omega)
    have h8 := hstep 8 (by omega)
    have h4 := hstep 4 (by omega)
    have h0 := hstep 0 (by omega)
    rw [List.take_zero, List.append_nil] at h0
    rw [← hall, h12, h8, h4, h0]
  · intro h
    conv_lhs => rw [h]
    conv_rhs => rw [h]
    have htake : (word ++ (word ++ (word ++ word))).take 12 = word ++ (word ++ word) := by
      have hlength : (word ++ (word ++ word)).length = 12 := by simp [hword]
      have hassoc : word ++ (word ++ (word ++ word)) = (word ++ (word ++ word)) ++ word := by simp
      rw [hassoc, ← hlength, List.take_left]
    rw [htake]

theorem cookie_shift (cookie : UInt32) : (cookie &&& 0xFFFF0000) >>> 16 = cookie >>> 16 := by
  have hlt : cookie.toNat >>> 16 < 2 ^ 16 := by
    have hcookie := cookie.toNat_lt
    rw [Nat.shiftRight_eq_div_pow]
    omega
  have hmask : (0xFFFF0000 : Nat) >>> 16 = 2 ^ 16 - 1 := by decide
  apply UInt32.toNat_inj.mp
  rw [UInt32.toNat_shiftRight, UInt32.toNat_shiftRight, UInt32.toNat_and]
  change (cookie.toNat &&& 0xFFFF0000) >>> 16 = cookie.toNat >>> 16
  rw [Nat.shiftRight_and_distrib, hmask, Nat.and_two_pow_sub_one_eq_mod, Nat.mod_eq_of_lt hlt]

theorem maskedPort_lt (port : UInt16) (cookie : UInt32) : (port.toUInt32 ^^^ (cookie >>> 16)).toNat < 65536 := by
  have hcookie := cookie.toNat_lt
  have hport := port.toNat_lt
  have hshift : (cookie >>> 16).toNat < 2 ^ 16 := by
    rw [UInt32.toNat_shiftRight]
    change cookie.toNat >>> 16 < 2 ^ 16
    rw [Nat.shiftRight_eq_div_pow]
    omega
  rw [UInt32.toNat_xor]
  exact Nat.xor_lt_two_pow (n := 16) (by simpa using hport) hshift

theorem port_read (port : UInt16) (cookie : UInt32) :
    UInt16.ofNat (port.toUInt32 ^^^ (cookie >>> 16)).toNat ^^^ ((cookie >>> 16) &&& 0xFFFF).toUInt16 = port := by
  have hlow : ((0xFFFF : UInt32)).toUInt16 = 0xFFFF := by decide
  have hall : ∀ x : UInt16, x &&& 0xFFFF = x := by
    intro x
    apply UInt16.toNat_inj.mp
    rw [UInt16.toNat_and]
    exact (Nat.and_two_pow_sub_one_eq_mod x.toNat 16).trans (Nat.mod_eq_of_lt x.toNat_lt)
  have hword : UInt16.ofNat (port.toUInt32 ^^^ (cookie >>> 16)).toNat = (port.toUInt32 ^^^ (cookie >>> 16)).toUInt16 := by
    apply UInt16.toNat_inj.mp
    simp
  rw [hword, UInt32.toUInt16_xor, UInt32.toUInt16_and, UInt16.toUInt16_toUInt32, hlow, hall, UInt16.xor_assoc,
    UInt16.xor_self, UInt16.xor_zero]

end Masks

section Reading

variable {packet : List UInt8} {magicCookie : UInt32} {xored : Bool}

theorem read_head (family : UInt8) {port : Nat} (hport : port < 65536) (rest : List UInt8) :
    readBYTE ([0x00, family] ++ toBE 2 port ++ rest) 1 = .ok family ∧
      readWORD ([0x00, family] ++ toBE 2 port ++ rest) 2 = .ok (UInt16.ofNat port) := by
  have hlength : ([0x00, family] ++ toBE 2 port ++ rest).length = 4 + rest.length := by
    rw [List.length_append, List.length_append, length_toBE]
    rfl
  have hfamily : slice ([0x00, family] ++ toBE 2 port ++ rest) 1 1 = [family] := by
    rw [List.append_assoc]
    exact slice_append_mid [0x00] [family] (toBE 2 port ++ rest) 1 1 rfl rfl
  have hword : slice ([0x00, family] ++ toBE 2 port ++ rest) 2 2 = toBE 2 port := by
    rw [List.append_assoc]
    exact slice_append_mid [0x00, family] (toBE 2 port) rest 2 2 rfl (length_toBE 2 port)
  constructor
  · have hbyte : ofBE [family] = family.toNat := (ofBE_concat [] family).trans (by simp)
    rw [readBYTE, readAt_of_le (by omega), hfamily]
    change Except.ok (UInt8.ofNat (ofBE [family])) = _
    rw [hbyte, UInt8.ofNat_toNat]
  · rw [readWORD, readAt_of_le (by omega), hword]
    exact congrArg (fun n => Except.ok (UInt16.ofNat n)) (ofBE_toBE_of_lt 2 port hport)

theorem parse_ipv4 {port : Nat} (hport : port < 65536) (address : UInt32) :
    parseMappedAddress packet ([0x00, 0x01] ++ toBE 2 port ++ toBE 4 address.toNat) magicCookie xored =
      .ok (some (.ipv4 (address ^^^ magicCookie)
        (UInt16.ofNat port ^^^ ((magicCookie >>> 16) &&& 0xFFFF).toUInt16))) := by
  obtain ⟨hfamily, hword⟩ := read_head 0x01 hport (toBE 4 address.toNat)
  have hlength : ([0x00, 0x01] ++ toBE 2 port ++ toBE 4 address.toNat).length = 8 := by simp
  have hdword : readDWORD ([0x00, 0x01] ++ toBE 2 port ++ toBE 4 address.toNat) 4 = .ok address := by
    have hslice : slice ([0x00, 0x01] ++ toBE 2 port ++ toBE 4 address.toNat) 4 4 = toBE 4 address.toNat := by
      exact slice_append _ _ 4 4 (by simp) |>.trans (List.take_of_length_le (by simp))
    rw [readDWORD, readAt_of_le (by omega), hslice]
    refine congrArg Except.ok ?_
    rw [ofBE_toBE_of_lt 4 _ address.toNat_lt]
    simp
  generalize [0x00, 0x01] ++ toBE 2 port ++ toBE 4 address.toNat = value at hfamily hword hlength hdword
  unfold parseMappedAddress
  rw [rejectIf_of_not (by omega), ok_bind, hfamily, ok_bind, hword, ok_bind, if_pos rfl, rejectIf_of_not (by omega),
    ok_bind, hdword]
  rfl

theorem readArray_of_le {buffer : List UInt8} {pos n : Nat} (h : pos + n ≤ buffer.length) :
    readArray buffer pos n = .ok ⟨(slice buffer pos n).toArray, length_slice buffer pos n h⟩ := dif_pos h

/-- Of an address of IPv6 the bytes from the family on are read. -/
theorem parse_ipv6 (magicCookie : UInt32) (xored : Bool) {port : Nat} (hport : port < 65536)
    {bytes mask : List UInt8} (hbytes : bytes.length = 16) (hpacket : 20 ≤ packet.length)
    (hmask : (if xored then slice packet 4 16 else zeros 16) = mask) :
    ∃ rawIP : Vector UInt8 16,
      rawIP.toList = (([0x00, 0x02] ++ toBE 2 port ++ bytes.take 12).zipWith (· ^^^ ·) mask) ∧
        parseMappedAddress packet ([0x00, 0x02] ++ toBE 2 port ++ bytes) magicCookie xored =
          .ok (some (.ipv6 rawIP (UInt16.ofNat port ^^^ ((magicCookie >>> 16) &&& 0xFFFF).toUInt16))) := by
  obtain ⟨hfamily, hword⟩ := read_head 0x02 hport bytes
  have hlength : ([0x00, 0x02] ++ toBE 2 port ++ bytes).length = 20 := by simp [hbytes]
  have hslice : slice ([0x00, 0x02] ++ toBE 2 port ++ bytes) 0 16 = [0x00, 0x02] ++ toBE 2 port ++ bytes.take 12 := by
    have hhead : ([0x00, 0x02] ++ toBE 2 port).length = 4 := by simp
    rw [slice, List.drop_zero, List.take_append, hhead, List.take_of_length_le (by omega)]
  have hraw := readArray_of_le
    (show 0 + 16 ≤ ([0x00, 0x02] ++ toBE 2 port ++ bytes).length by omega)
  have hrawList : (⟨(slice ([0x00, 0x02] ++ toBE 2 port ++ bytes) 0 16).toArray,
      length_slice _ 0 16 (by omega)⟩ : Vector UInt8 16).toList = [0x00, 0x02] ++ toBE 2 port ++ bytes.take 12 := hslice
  generalize (⟨(slice ([0x00, 0x02] ++ toBE 2 port ++ bytes) 0 16).toArray, _⟩ : Vector UInt8 16) = raw at hraw hrawList
  generalize [0x00, 0x02] ++ toBE 2 port ++ bytes = value at hfamily hword hlength hraw
  have hparse : ∀ result, (if xored = true then do
        let cookie ← readArray packet 4 16
        return some (.ipv6 (raw.zipWith (· ^^^ ·) cookie)
          (UInt16.ofNat port ^^^ ((magicCookie >>> 16) &&& 0xFFFF).toUInt16))
      else return some (.ipv6 raw (UInt16.ofNat port ^^^ ((magicCookie >>> 16) &&& 0xFFFF).toUInt16)) :
        Parse (Option IPAddress)) = .ok result → parseMappedAddress packet value magicCookie xored = .ok result := by
    intro result hresult
    unfold parseMappedAddress
    rw [rejectIf_of_not (by omega), ok_bind, hfamily, ok_bind, hword, ok_bind, if_neg (by decide), if_pos rfl,
      rejectIf_of_not (by omega), ok_bind, throwIf_of_not (by omega), ok_bind, hraw, ok_bind]
    exact hresult
  cases xored with
  | false =>
    refine ⟨raw, ?_, hparse _ rfl⟩
    have hzeros := zipWith_xor_zeros raw.toList
    rw [Vector.length_toList] at hzeros
    rw [← hmask, ← hrawList, if_neg (by decide), hzeros]
  | true =>
    have hcookie := readArray_of_le (show 4 + 16 ≤ packet.length by omega)
    refine ⟨raw.zipWith (· ^^^ ·) ⟨(slice packet 4 16).toArray, length_slice packet 4 16 (by omega)⟩, ?_,
      hparse _ (by rw [if_pos rfl, hcookie]; rfl)⟩
    rw [← hmask, ← hrawList, if_pos rfl, Vector.toList_zipWith]
    rfl

end Reading

section RoundTrip

variable {ext : Externals} {address : IPAddress} {magicCookie : UInt32} {transactionID : Vector UInt8 12} {xored : Bool}

variable {stun : STUNPacket} {rfc : RFCs} {attr : Attributes}

theorem elementsOf_addresses (hattr : attr ∈ addressAttributes)
    (hpacketized : isPacketized ext stun rfc attr = true) (written : List UInt8) :
    ∃ cookie mask, (∀ l, mask = some l → l = slice written 4 16) ∧ elementsOf ext stun rfc written attr =
      (addressesOf stun attr).map fun a => ⟨attr.toCode, addressValue ext a cookie mask⟩ := by
  unfold elementsOf
  rw [hpacketized, if_neg (by decide)]
  have hplain : ∀ l : List UInt8, none = some l → l = slice written 4 16 := fun _ h => nomatch h
  have hmasked : ∀ l : List UInt8, some (slice written 4 16) = some l → l = slice written 4 16 :=
    fun _ h => (Option.some.inj h).symm
  have hcases : attr = .mappedAddress ∨ attr = .xorMappedAddress ∨ attr = .alternateServer ∨ attr = .xorPeerAddress ∨
      attr = .xorRelayedAddress := by simpa [addressAttributes] using hattr
  obtain rfl | rfl | rfl | rfl | rfl := hcases
  · exact ⟨_, none, hplain, rfl⟩
  · exact ⟨_, _, hmasked, rfl⟩
  · exact ⟨_, none, hplain, rfl⟩
  · exact ⟨_, _, hmasked, rfl⟩
  · exact ⟨_, _, hmasked, rfl⟩

variable {n : Nat}

/-- An address attribute takes the length that is computed for it. -/
theorem address_lengths (hattr : attr ∈ addressAttributes)
    (hpacketized : isPacketized ext stun rfc attr = true) (front : List UInt8)
    (headers : List (Nat × Attributes × Nat)) (hfront : 20 ≤ front.length)
    (hn : packetizeAttributeLength ext stun rfc attr ≤ n) : ∃ w,
      packetizeAttribute ext stun rfc { packet := front ++ zeros n, pos := front.length, headers := headers } attr =
          .ok w ∧
        w.pos = front.length + packetizeAttributeLength ext stun rfc attr ∧
        w.headers.map Prod.snd = headers.map Prod.snd ++
          (addressesOf stun attr).map fun a => (attr, addressLength ext a) := by
  have hne : attr = .congestionControl → CongestionAligned ext stun rfc := by
    rintro rfl
    exact absurd hattr (by decide)
  obtain ⟨cookie, mask, hmask, helements⟩ := elementsOf_addresses hattr hpacketized front
  have hheaders : ∀ (start : Nat) (l : List IPAddress),
      (headersFrom start ((l.map fun a => (⟨attr.toCode, addressValue ext a cookie mask⟩ : Element)).map (attr, ·))).map
        Prod.snd = l.map fun a => (attr, addressLength ext a) := by
    intro start l
    induction l generalizing start with
    | nil => rfl
    | cons a l ih =>
      have hvalue := length_addressValue ext a cookie mask (by
        intro l hl
        rw [hmask l hl]
        exact length_slice front 4 16 (by omega))
      rw [List.map_cons, List.map_cons, headersFrom, List.map_cons, ih, List.map_cons]
      dsimp only
      rw [hvalue]
  refine ⟨_, packetizeAttribute_eq hne front hfront hn headers, ?_, ?_⟩
  · rw [PacketWriter.behind_eq]
    dsimp only
    rw [map_snd_pair, List.length_append, length_elementsOf _ hne front hfront]
  · rw [PacketWriter.behind_eq]
    dsimp only
    rw [List.map_append, helements, hheaders]

theorem written_address (xored : Bool) (front : List UInt8) (hfront : 20 ≤ front.length)
    (hn : addressLength ext address ≤ n) (cookie : UInt32) : ∃ packet,
      packetizeIPAddress ext address cookie xored (front ++ zeros n) front.length = .ok packet ∧
        20 ≤ packet.length ∧ slice packet 4 16 = slice front 4 16 ∧
        slice packet front.length (addressLength ext address) =
          addressValue ext address cookie (if xored then some (slice front 4 16) else none) := by
  have hvalue := length_addressValue ext address cookie (if xored then some (slice front 4 16) else none) (by
    intro l hl
    split at hl
    · rw [← Option.some.inj hl]
      exact length_slice front 4 16 (by omega)
    · cases hl)
  refine ⟨_, packetizeIPAddress_eq ext address cookie xored front hfront hn, ?_, ?_, ?_⟩
  · rw [List.length_append, List.length_append]
    omega
  · rw [List.append_assoc]
    exact (slice_of_front (List.prefix_append front _) (by omega)).symm
  · rw [List.append_assoc]
    exact slice_append_mid _ _ _ _ _ rfl hvalue

theorem parse_written_ipv4 (hget : AddressGetters ext) (ip : UInt32) (port : UInt16) (packet : List UInt8)
    (cookie : UInt32) (mask : Option (List UInt8)) :
    parseMappedAddress packet (addressValue ext (.ipv4 ip port) cookie mask) cookie xored =
      .ok (some (.ipv4 ip port)) := by
  unfold addressValue
  rw [hget.isIPv4, hget.getPort, hget.getIPv4AddressAsDWORD, cookie_shift]
  dsimp only
  rw [if_pos rfl, parse_ipv4 (maskedPort_lt port cookie), port_read, UInt32.xor_assoc, UInt32.xor_self, UInt32.xor_zero]

theorem addressValue_ipv6 (hget : AddressGetters ext) (ip : Vector UInt8 16) (port : UInt16)
    (hproper : ext.isIPv4 (.ipv6 ip port) = false) (cookie : UInt32) (mask : Option (List UInt8)) :
    addressValue ext (.ipv6 ip port) cookie mask =
      ([0x00, 0x02] : List UInt8) ++ toBE 2 (port.toUInt32 ^^^ (cookie >>> 16)).toNat ++
        ip.toList.zipWith (· ^^^ ·) (mask.getD (zeros 16)) := by
  unfold addressValue
  rw [hproper, hget.getPort', hget.getIPv6Address, cookie_shift]
  cases mask with
  | none =>
    have hzeros := zipWith_xor_zeros ip.toList
    rw [Vector.length_toList] at hzeros
    rw [Option.getD_none, hzeros]
    rfl
  | some mask => rfl

/-- An address of IPv6 is read back when its masked bytes are the word of its family and its port. -/
theorem parse_written_ipv6 (hget : AddressGetters ext) (ip : Vector UInt8 16) (port : UInt16)
    (hproper : ext.isIPv4 (.ipv6 ip port) = false) {packet mask : List UInt8} (hpacket : 20 ≤ packet.length)
    (cookie : UInt32) (hmask : (if xored then slice packet 4 16 else zeros 16) = mask) :
    parseMappedAddress packet
          (addressValue ext (.ipv6 ip port) cookie (if xored then some (slice packet 4 16) else none)) cookie xored =
        .ok (some (.ipv6 ip port)) ↔
      ip.toList.zipWith (· ^^^ ·) mask =
        (List.replicate 4 (([0x00, 0x02] : List UInt8) ++ toBE 2 (port.toUInt32 ^^^ (cookie >>> 16)).toNat)).flatten := by
  have hip : ip.toList.length = 16 := Vector.length_toList
  have hmaskLength : mask.length = 16 := by
    rw [← hmask]
    split
    · exact length_slice packet 4 16 (by omega)
    · exact length_zeros 16
  have hgetD : (if xored then some (slice packet 4 16) else none).getD (zeros 16) = mask := by
    rw [← hmask]
    cases xored <;> rfl
  have hword : (([0x00, 0x02] : List UInt8) ++ toBE 2 (port.toUInt32 ^^^ (cookie >>> 16)).toNat).length = 4 := by simp
  have hmasked : (ip.toList.zipWith (· ^^^ ·) mask).length = 16 := by
    rw [List.length_zipWith, hip, hmaskLength]
    rfl
  obtain ⟨rawIP, hraw, hparse⟩ := parse_ipv6 cookie xored (maskedPort_lt port cookie) hmasked
    hpacket hmask
  have hread : (([0x00, 0x02] : List UInt8) ++ toBE 2 (port.toUInt32 ^^^ (cookie >>> 16)).toNat ++
      (ip.toList.zipWith (· ^^^ ·) mask).take 12).length = mask.length := by
    rw [List.length_append, hword, List.length_take, hmasked, hmaskLength]
    rfl
  rw [addressValue_ipv6 hget ip port hproper, hgetD, hparse, port_read, ← eq_replicate_iff hword hmasked]
  constructor
  · intro h
    have hsame : rawIP = ip := by
      injection h with h
      injection h with h
      injection h
    rw [hsame] at hraw
    exact (zipWith_xor_eq_iff hread (by rw [hip, hmaskLength])).mp hraw.symm
  · intro h
    rw [h, zipWith_xor_xor _ _ (by rw [hip, hmaskLength])] at hraw
    rw [Vector.toList_inj.mp hraw]

/-- What is written into a packet with a cookie and a transaction is read back exactly as `ReadBack` says. -/
theorem parsed_iff (hget : AddressGetters ext) (hproper : ProperAddress ext address) {front : List UInt8}
    (hfront : 20 ≤ front.length)
    (hheader : slice front 4 16 = toBE 4 magicCookie.toNat ++ transactionID.toList)
    (hn : addressLength ext address ≤ n) :
    (∃ packet,
      packetizeIPAddress ext address (if xored then magicCookie else 0) xored (front ++ zeros n) front.length =
          .ok packet ∧
        parseMappedAddress packet (slice packet front.length (addressLength ext address))
          (if xored then magicCookie else 0) xored = .ok (some address)) ↔
      ReadBack magicCookie transactionID xored address := by
  obtain ⟨packet, hpacket, hlength, hslice, hvalue⟩ := written_address xored front hfront hn
    (if xored then magicCookie else 0)
  have hsame : ∀ packet', packetizeIPAddress ext address (if xored then magicCookie else 0) xored (front ++ zeros n)
      front.length = .ok packet' → packet' = packet := by
    intro packet' h
    rw [hpacket] at h
    exact (Except.ok.inj h).symm
  have hiff : parseMappedAddress packet (slice packet front.length (addressLength ext address))
      (if xored then magicCookie else 0) xored = .ok (some address) ↔
      ReadBack magicCookie transactionID xored address := by
    rw [hvalue]
    cases address with
    | empty => exact absurd hproper id
    | ipv4 ip port => exact iff_of_true (parse_written_ipv4 hget ip port packet _ _) trivial
    | ipv6 ip port =>
      rw [← hslice]
      refine parse_written_ipv6 hget ip port hproper hlength _ ?_
      rw [hslice, hheader]
  rw [← hiff]
  constructor
  · rintro ⟨packet', hpacket', hparse⟩
    rw [hsame packet' hpacket'] at hparse
    exact hparse
  · intro hparse
    exact ⟨packet, hpacket, hparse⟩

end RoundTrip

/-- An address makes the round trip exactly when it is one of IPv4, or when its bytes are, masked, the word of
the family and the port four times. The lengths are always those that are computed. -/
theorem address_round_trip_iff (ext : Externals) (hget : AddressGetters ext) (address : IPAddress)
    (hproper : ProperAddress ext address) (magicCookie : UInt32) (transactionID : Vector UInt8 12) (xored : Bool) :
    AddressRoundTrip ext address magicCookie transactionID xored ↔ ReadBack magicCookie transactionID xored address := by
  constructor
  · intro h
    have hlength : (zeros 4 ++ (toBE 4 magicCookie.toNat ++ transactionID.toList)).length = 20 := by simp
    have hslice : slice (zeros 4 ++ (toBE 4 magicCookie.toNat ++ transactionID.toList)) 4 16 =
        toBE 4 magicCookie.toNat ++ transactionID.toList := by
      rw [slice_append _ _ 4 16 (length_zeros 4), List.take_of_length_le (by simp)]
    exact (parsed_iff hget hproper (le_of_eq hlength.symm) hslice (le_refl _)).mp
      (h.parsed _ _ (le_of_eq hlength.symm) hslice (le_refl _))
  · intro h
    constructor
    · intro front n hfront hheader hn
      exact (parsed_iff hget hproper hfront hheader hn).mpr h
    · intro stun rfc attr hattr _ hpacketized front n headers hfront hn
      exact address_lengths hattr hpacketized front headers hfront hn

theorem plainExternals_getters : AddressGetters plainExternals :=
  ⟨fun _ _ => rfl, fun _ _ => rfl, fun _ _ => rfl, fun _ _ => rfl, fun _ _ => rfl⟩

theorem address_round_trip_ipv4 :
    AddressRoundTrip plainExternals (.ipv4 0xC0A80001 3478) 0x2112A442 (Vector.replicate 12 7) true :=
  (address_round_trip_iff plainExternals plainExternals_getters (.ipv4 0xC0A80001 3478) trivial 0x2112A442
    (Vector.replicate 12 7) true).mpr trivial

/-- The bytes of the address of this host in IPv6 do not come back. -/
theorem address_round_trip_ipv6 : ¬AddressRoundTrip plainExternals
    (.ipv6 #v[0, 0, 0, 0, 0, 0, 0, 0, 0, 0, 0, 0, 0, 0, 0, 1] 3478) 0x2112A442 (Vector.replicate 12 0) true := by
  intro h
  obtain ⟨packet, hpacket, hparse⟩ := h.parsed (zeros 4 ++ toBE 4 0x2112A442 ++ zeros 12) 20 (by decide) (by decide)
    (by decide)
  have hread : (packetizeIPAddress plainExternals
      (.ipv6 #v[0, 0, 0, 0, 0, 0, 0, 0, 0, 0, 0, 0, 0, 0, 0, 1] 3478) 0x2112A442 true
      (zeros 4 ++ toBE 4 0x2112A442 ++ zeros 12 ++ zeros 20) 20).toOption.map (fun packet =>
        parseMappedAddress packet (slice packet 20 20) 0x2112A442 true) ≠
      some (.ok (some (.ipv6 #v[0, 0, 0, 0, 0, 0, 0, 0, 0, 0, 0, 0, 0, 0, 0, 1] 3478))) := by decide +kernel
  refine hread ?_
  have hpacket : packetizeIPAddress plainExternals
      (.ipv6 #v[0, 0, 0, 0, 0, 0, 0, 0, 0, 0, 0, 0, 0, 0, 0, 1] 3478) 0x2112A442 true
      (zeros 4 ++ toBE 4 0x2112A442 ++ zeros 12 ++ zeros 20) 20 = .ok packet := hpacket
  rw [hpacket]
  exact congrArg some hparse

end OpenPeer
