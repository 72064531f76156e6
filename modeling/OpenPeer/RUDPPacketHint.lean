import OpenPeer.RUDPPacket

/-!
# Full sequence numbers from their low 24 bits

The reconstruction on the words of the code, with masks, alternatives of bits and
differences that could wrap: none of them does, the number is the one that is computed
over the natural numbers, and it is the nearest one to the hint.
-/
namespace OpenPeer.RUDPPacket

/-- A difference; none where it would wrap below zero. -/
def difference (a b : UInt64) : Option UInt64 := if b ≤ a then some (a - b) else none

/-- `getNumberWithHint` over a `DWORD` and a `QWORD`. -/
def getNumberWithHintQWORD (number : UInt32) (hint : UInt64) : Option UInt64 := do
  let number := (number &&& 0xFFFFFF).toUInt64
  let temp : UInt64 := (((1 : UInt64) <<< 48) - 1) <<< 24
  let upper := hint &&& temp
  let merged := upper ||| number
  if merged < hint then
    let higher := (upper + 0x1000000) ||| number
    let diff1 ← difference higher hint
    let diff2 ← difference hint merged
    return if diff1 < diff2 then higher else merged
  else if upper < 0x1000000 then
    return merged
  else
    let beneath ← difference upper 0x1000000
    let lower := beneath ||| number
    let diff1 ← difference hint lower
    let diff2 ← difference merged hint
    return if diff1 < diff2 then lower else merged

section Words

variable {a b : UInt64}

theorem difference_eq (h : b.toNat ≤ a.toNat) : ∃ d, difference a b = some d ∧ d.toNat = a.toNat - b.toNat :=
  ⟨a - b, if_pos (UInt64.le_iff_toNat_le.mpr h), UInt64.toNat_sub_of_le _ _ (UInt64.le_iff_toNat_le.mpr h)⟩

theorem toNat_upper (hint : UInt64) :
    (hint &&& ((((1 : UInt64) <<< 48) - 1) <<< 24)).toNat = hint.toNat / 0x1000000 * 0x1000000 := by
  have hmask : ((((1 : UInt64) <<< 48) - 1) <<< 24).toNat = (2 ^ 40 - 1) <<< 24 := by decide
  have hshift : hint.toNat / 0x1000000 * 0x1000000 = (hint.toNat >>> 24) <<< 24 := by
    rw [Nat.shiftLeft_eq, Nat.shiftRight_eq_div_pow]
  rw [UInt64.toNat_and, hmask, hshift]
  apply Nat.eq_of_testBit_eq
  intro i
  have hhigh : 64 ≤ i → hint.toNat.testBit i = false := fun hi =>
    Nat.testBit_lt_two_pow (Nat.lt_of_lt_of_le hint.toNat_lt (Nat.pow_le_pow_right (by decide) hi))
  rw [Nat.testBit_and, Nat.testBit_shiftLeft, Nat.testBit_shiftLeft, Nat.testBit_two_pow_sub_one,
    Nat.testBit_shiftRight]
  by_cases hlow : 24 ≤ i
  · by_cases hi : i < 64
    · simp [hlow, show i - 24 < 40 by omega]
    · simp [hhigh (by omega), Nat.add_sub_cancel' hlow]
  · simp [hlow]

theorem toNat_or_low {upper low : UInt64} (hupper : upper.toNat % 0x1000000 = 0) (hlow : low.toNat < 0x1000000) :
    (upper ||| low).toNat = upper.toNat + low.toNat := by
  have hmul : upper.toNat = 2 ^ 24 * (upper.toNat / 2 ^ 24) := by omega
  rw [UInt64.toNat_or, hmul, ← Nat.two_pow_add_eq_or_of_lt hlow]

end Words

variable {hint : UInt64}

/-- The words of the code hold the numbers they stand for: nothing wraps. -/
theorem getNumberWithHintQWORD_eq (number : UInt32) (h : hint.toNat < 2 ^ 64 - 2 ^ 24) :
    ∃ r, getNumberWithHintQWORD number hint = some r ∧ r.toNat = getNumberWithHint number hint.toNat := by
  let low := (number &&& 0xFFFFFF).toUInt64
  let upper := hint &&& ((((1 : UInt64) <<< 48) - 1) <<< 24)
  have hlow : low.toNat = (number &&& 0xFFFFFF).toNat := UInt32.toNat_toUInt64 _
  have hlowLt : low.toNat < 0x1000000 := by
    rw [hlow, toNat_and_24]
    exact Nat.mod_lt _ (by decide)
  have hupper : upper.toNat = hint.toNat / 0x1000000 * 0x1000000 := toNat_upper hint
  have hmerged : (upper ||| low).toNat = upper.toNat + low.toNat := toNat_or_low (by omega) hlowLt
  simp only [getNumberWithHintQWORD, getNumberWithHint]
  change ∃ r, (if upper ||| low < hint then _ else _) = some r ∧ _
  rw [← hlow, ← hupper]
  by_cases hbelow : upper ||| low < hint
  · have hbelowNat := UInt64.lt_iff_toNat_lt.mp hbelow
    have hup : (upper + 0x1000000).toNat = upper.toNat + 0x1000000 := by
      rw [UInt64.toNat_add]
      exact Nat.mod_eq_of_lt (by simp only [UInt64.reduceToNat]; omega)
    have hhigher : (upper + 0x1000000 ||| low).toNat = upper.toNat + 0x1000000 + low.toNat := by
      rw [toNat_or_low (by omega) hlowLt, hup]
    obtain ⟨diff1, hdiff1, hdiff1Nat⟩ : ∃ d, difference (upper + 0x1000000 ||| low) hint = some d ∧ _ :=
      difference_eq (by omega)
    obtain ⟨diff2, hdiff2, hdiff2Nat⟩ : ∃ d, difference hint (upper ||| low) = some d ∧ _ := difference_eq (by omega)
    rw [if_pos hbelow, if_pos (by omega)]
    refine ⟨if diff1 < diff2 then upper + 0x1000000 ||| low else upper ||| low, ?_, ?_⟩
    · change (difference (upper + 0x1000000 ||| low) hint).bind _ = _
      rw [hdiff1, Option.bind_some]
      change (difference hint (upper ||| low)).bind _ = _
      rw [hdiff2]
      rfl
    · rw [apply_ite UInt64.toNat, hhigher, hmerged]
      simp only [UInt64.lt_iff_toNat_lt, hdiff1Nat, hdiff2Nat, hhigher, hmerged]
  · have hbelowNat := mt UInt64.lt_iff_toNat_lt.mpr hbelow
    have hnot : ¬upper.toNat + low.toNat < hint.toNat := by omega
    rw [if_neg hbelow, if_neg hnot]
    by_cases hfirst : upper < 0x1000000
    · have hfirstNat : upper.toNat < 0x1000000 := UInt64.lt_iff_toNat_lt.mp hfirst
      rw [if_pos hfirst, if_pos hfirstNat]
      exact ⟨_, rfl, hmerged⟩
    · have hfirstNat : ¬upper.toNat < 0x1000000 := fun hlt => hfirst (UInt64.lt_iff_toNat_lt.mpr hlt)
      have hconst : (0x1000000 : UInt64).toNat = 0x1000000 := rfl
      obtain ⟨beneath, hbeneath, hbeneathNat⟩ : ∃ d, difference upper 0x1000000 = some d ∧ _ :=
        difference_eq (by rw [hconst]; omega)
      rw [hconst] at hbeneathNat
      have hlower : (beneath ||| low).toNat = upper.toNat - 0x1000000 + low.toNat := by
        rw [toNat_or_low (by omega) hlowLt, hbeneathNat]
      obtain ⟨diff1, hdiff1, hdiff1Nat⟩ : ∃ d, difference hint (beneath ||| low) = some d ∧ _ := difference_eq (by omega)
      obtain ⟨diff2, hdiff2, hdiff2Nat⟩ : ∃ d, difference (upper ||| low) hint = some d ∧ _ := difference_eq (by omega)
      rw [if_neg hfirst, if_neg hfirstNat]
      refine ⟨if diff1 < diff2 then beneath ||| low else upper ||| low, ?_, ?_⟩
      · change (difference upper 0x1000000).bind _ = _
        rw [hbeneath, Option.bind_some]
        change (difference hint (beneath ||| low)).bind _ = _
        rw [hdiff1, Option.bind_some]
        change (difference (upper ||| low) hint).bind _ = _
        rw [hdiff2]
        rfl
      · rw [apply_ite UInt64.toNat, hlower, hmerged]
        simp only [UInt64.lt_iff_toNat_lt, hdiff1Nat, hdiff2Nat, hlower, hmerged]

/-- How far two numbers are apart. -/
def apart (m n : Nat) : Nat := (m - n) + (n - m)

theorem getNumberWithHint_nearest (number : UInt32) (hint : Nat) :
    getNumberWithHint number hint % 2 ^ 24 = number.toNat % 2 ^ 24 ∧
      ∀ m, m % 2 ^ 24 = number.toNat % 2 ^ 24 → apart (getNumberWithHint number hint) hint ≤ apart m hint := by
  have hlow : (number &&& 0xFFFFFF).toNat = number.toNat % 2 ^ 24 := toNat_and_24 number
  simp only [getNumberWithHint, hlow, apart]
  split
  · split
    · exact ⟨by omega, fun m hm => by omega⟩
    · exact ⟨by omega, fun m hm => by omega⟩
  · split
    · exact ⟨by omega, fun m hm => by omega⟩
    · split
      · exact ⟨by omega, fun m hm => by omega⟩
      · exact ⟨by omega, fun m hm => by omega⟩

/-- For every hint below 2^64 - 2^24 the code gets a number, with no difference that wraps: it ends
like the given one, no other that does is nearer to the hint, and within 2^23 of the hint it is the
number that the low bits were taken from. -/
theorem full_number_nearest (number : UInt32) (h : hint.toNat < 2 ^ 64 - 2 ^ 24) :
    (∃ r, getNumberWithHintQWORD number hint = some r ∧ r.toNat % 2 ^ 24 = number.toNat % 2 ^ 24 ∧
      ∀ m : UInt64, m.toNat % 2 ^ 24 = number.toNat % 2 ^ 24 → apart r.toNat hint.toNat ≤ apart m.toNat hint.toNat) ∧
    ∀ s : UInt64, apart s.toNat hint.toNat < 2 ^ 23 → getNumberWithHintQWORD (low24 s.toNat) hint = some s := by
  refine ⟨?_, fun s hs => ?_⟩
  · obtain ⟨r, hr, hnat⟩ := getNumberWithHintQWORD_eq number h
    obtain ⟨hmod, hnearest⟩ := getNumberWithHint_nearest number hint.toNat
    exact ⟨r, hr, hnat ▸ hmod, fun m hm => hnat ▸ hnearest m.toNat hm⟩
  · obtain ⟨r, hr, hnat⟩ := getNumberWithHintQWORD_eq (low24 s.toNat) h
    unfold apart at hs
    rw [getNumberWithHint_low24 s.toNat hint.toNat (by omega) (by omega)] at hnat
    rw [hr, UInt64.toNat_inj.mp hnat]

theorem full_number_nearest_wrapped : getNumberWithHintQWORD 0x000001 0x1FFFFFF = some 0x2000001 := by
  have hwrapped := (full_number_nearest 0 (show (0x1FFFFFF : UInt64).toNat < 2 ^ 64 - 2 ^ 24 by decide)).2 0x2000001
  exact hwrapped (by decide)

end OpenPeer.RUDPPacket
