import Mathlib.Data.List.Induction
import Mathlib.Tactic.Ring

/-!
# Byte strings and network byte order

Fixed-width big-endian numbers, in-place writes into a byte buffer, and the
rounding of a length to a whole number of words. Nothing here knows a format.
-/
namespace Bytes

theorem forall_byte {P : UInt8 → Prop} (h : ∀ n : Fin 256, P (UInt8.ofFin n)) (b : UInt8) : P b :=
  h b.toFin

theorem and_ne_zero_of_within {part bits b : UInt8} (hwithin : part &&& bits = part) (h : part &&& b ≠ 0) :
    bits &&& b ≠ 0 := by
  intro hnone
  apply h
  rw [← hwithin, UInt8.and_assoc, hnone, UInt8.and_zero]

/-- The low `k` bytes of `n`, most significant first. -/
def toBE : Nat → Nat → List UInt8
  | 0, _ => []
  | k + 1, n => toBE k (n / 256) ++ [UInt8.ofNat n]

/-- The number a big-endian byte string denotes. -/
def ofBE (l : List UInt8) : Nat := l.foldl (fun n b => n * 256 + b.toNat) 0

variable (k : Nat)

@[simp] theorem length_toBE (n : Nat) : (toBE k n).length = k := by
  induction k generalizing n with
  | zero => rfl
  | succ k ih => simp [toBE, ih]

@[simp] theorem ofBE_nil : ofBE [] = 0 := rfl

variable (l : List UInt8)

@[simp] theorem ofBE_concat (b : UInt8) : ofBE (l ++ [b]) = ofBE l * 256 + b.toNat := by
  simp [ofBE]

theorem ofBE_toBE (n : Nat) : ofBE (toBE k n) = n % 256 ^ k := by
  induction k generalizing n with
  | zero => simp [toBE, Nat.mod_one]
  | succ k ih =>
    have hb : (UInt8.ofNat n).toNat = n % 256 := by simp
    rw [toBE, ofBE_concat, ih, hb, Nat.pow_succ, Nat.mul_comm (256 ^ k) 256, Nat.mod_mul]
    ring

theorem toBE_succ_left (n : Nat) : toBE (k + 1) n = UInt8.ofNat (n / 256 ^ k) :: toBE k n := by
  induction k generalizing n with
  | zero => simp [toBE]
  | succ k ih =>
    have hdiv : n / 256 / 256 ^ k = n / 256 ^ (k + 1) := by
      rw [Nat.div_div_eq_div_mul, Nat.pow_succ, Nat.mul_comm]
    rw [toBE, ih, hdiv, List.cons_append]
    rfl

theorem ofBE_toBE_of_lt (n : Nat) (h : n < 256 ^ k) : ofBE (toBE k n) = n := by
  rw [ofBE_toBE, Nat.mod_eq_of_lt h]

theorem ofBE_lt : ofBE l < 256 ^ l.length := by
  induction l using List.reverseRecOn with
  | nil => simp
  | append_singleton l b ih =>
    have hb : b.toNat < 256 := b.toNat_lt
    rw [ofBE_concat, List.length_append, List.length_singleton, Nat.pow_succ]
    omega

theorem ofBE_cons (b : UInt8) (l : List UInt8) : ofBE (b :: l) = b.toNat * 256 ^ l.length + ofBE l := by
  induction l using List.reverseRecOn with
  | nil => simp [ofBE]
  | append_singleton l c ih =>
    rw [← List.cons_append, ofBE_concat, ih, ofBE_concat, List.length_append, List.length_singleton,
      Nat.pow_succ]
    ring

theorem toBE_ofBE : toBE l.length (ofBE l) = l := by
  induction l using List.reverseRecOn with
  | nil => rfl
  | append_singleton l b ih =>
    have hb : b.toNat < 256 := b.toNat_lt
    have hdiv : (ofBE l * 256 + b.toNat) / 256 = ofBE l := by omega
    have hlow : UInt8.ofNat (ofBE l * 256 + b.toNat) = b := by
      apply UInt8.toNat_inj.mp
      simp
    rw [List.length_append, List.length_singleton, ofBE_concat, toBE, hdiv, ih, hlow]

/-- `len` bytes from position `start`; fewer when the string ends before. -/
def slice (l : List UInt8) (start len : Nat) : List UInt8 := (l.drop start).take len

theorem length_slice (start len : Nat) (h : start + len ≤ l.length) : (slice l start len).length = len := by
  simp [slice]
  omega

variable (a : List UInt8)

theorem slice_append (b : List UInt8) (start len : Nat) (h : a.length = start) :
    slice (a ++ b) start len = b.take len := by
  subst h
  simp [slice]

theorem slice_append_mid (b c : List UInt8) (start len : Nat) (ha : a.length = start) (hb : b.length = len) :
    slice (a ++ (b ++ c)) start len = b := by
  rw [slice_append a _ start len ha, ← hb, List.take_left]

/-- Replace the bytes of `l` from position `start` by `new`. -/
def overwrite (l : List UInt8) (start : Nat) (new : List UInt8) : List UInt8 :=
  l.take start ++ new ++ l.drop (start + new.length)

theorem length_overwrite (start : Nat) (new : List UInt8) (h : start + new.length ≤ l.length) :
    (overwrite l start new).length = l.length := by
  simp [overwrite]
  omega

theorem overwrite_mid (b c new : List UInt8) (start : Nat) (ha : a.length = start)
    (hb : b.length = new.length) : overwrite (a ++ (b ++ c)) start new = a ++ (new ++ c) := by
  subst ha
  have hdrop : (a ++ (b ++ c)).drop (a.length + new.length) = c := by
    rw [List.drop_append, List.drop_eq_nil_of_le (by omega), List.nil_append,
      show a.length + new.length - a.length = b.length by omega, List.drop_left]
  rw [overwrite, List.take_left, hdrop, List.append_assoc]

def zeros (n : Nat) : List UInt8 := List.replicate n 0

variable (n : Nat)

@[simp] theorem length_zeros : (zeros n).length = n := by simp [zeros]

theorem zeros_add (m n : Nat) : zeros (m + n) = zeros m ++ zeros n := by
  simp only [zeros, List.replicate_append_replicate]

/-- A string shifted up by zeros and cut to its length is itself only when it is all zeros. -/
theorem take_zeros_append (l : List UInt8) (hk : 0 < k) :
    (zeros k ++ l).take l.length = l ↔ ∀ b ∈ l, b = 0 := by
  constructor
  · intro h
    have hget (i : Nat) (hi : i < l.length) : l[i] = 0 := by
      induction i using Nat.strong_induction_on with
      | _ i ih =>
        have heq : ((zeros k ++ l).take l.length)[i]? = l[i]? := by rw [h]
        rw [List.getElem?_take_of_lt hi] at heq
        by_cases hik : i < k
        · rw [List.getElem?_append_left (by simpa using hik)] at heq
          simpa [zeros, List.getElem?_replicate, hik, hi] using heq.symm
        · rw [List.getElem?_append_right (by simpa using hik), length_zeros] at heq
          have hlt : i - k < l.length := by omega
          have hzero := ih (i - k) (by omega) hlt
          simpa [hi, hlt, hzero] using heq.symm
    intro b hb
    obtain ⟨i, hi, rfl⟩ := List.getElem_of_mem hb
    exact hget i hi
  · intro h
    have hl : l = zeros l.length := List.eq_replicate_iff.mpr ⟨rfl, h⟩
    rw [hl, zeros, zeros, List.replicate_append_replicate, List.length_replicate, List.take_replicate]
    congr 1
    omega

theorem overwrite_zeros (new : List UInt8) (start n r : Nat) (ha : a.length = start)
    (hn : n = new.length + r) : overwrite (a ++ zeros n) start new = a ++ new ++ zeros r := by
  rw [hn, zeros_add, overwrite_mid a (zeros new.length) (zeros r) new start ha (by simp),
    List.append_assoc]

/-- The least multiple of four that is at least `n`. -/
def dwordBoundary (n : Nat) : Nat := if n % 4 = 0 then n else n + (4 - n % 4)

theorem le_dwordBoundary : n ≤ dwordBoundary n := by
  unfold dwordBoundary
  split <;> omega

theorem dwordBoundary_mod : dwordBoundary n % 4 = 0 := by
  unfold dwordBoundary
  split <;> omega

theorem dwordBoundary_eq_self (h : n % 4 = 0) : dwordBoundary n = n := by
  simp [dwordBoundary, h]

@[simp] theorem dwordBoundary_zero : dwordBoundary 0 = 0 := rfl

end Bytes
