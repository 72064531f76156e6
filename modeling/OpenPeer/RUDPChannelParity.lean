import Mathlib.Data.Vector.Basic

/-!
# The pool of parity bits

The parity of each packet a channel sends is a bit of a pool of random bytes. A call takes the next bit and
generates the pool anew when it is used up. The position is compared with the number of bits of the pool after it
is advanced, and may be equal to it.
-/
namespace OpenPeer.RandomPool

/-- The pool, the position of the last bit taken, and how often the pool was generated anew. -/
structure Pool where
  mRandomPoolPos : Nat := 0
  mRandomPool : Vector UInt8 256
  generation : Nat := 0

/-- Which bit of which generation of the pool a call reads, and the flag; a byte past the array gives none. -/
structure Draw where
  generation : Nat
  posByte : Nat
  posBit : Nat
  flag : Option Bool
  deriving DecidableEq

/-- What `rng` generates is numbered by the generation. -/
def getRandomFlag (rng : Nat → Vector UInt8 256) (s : Pool) : Draw × Pool :=
  let pos := s.mRandomPoolPos + 1
  let s : Pool :=
    if 256 * 8 < pos then ⟨0, rng (s.generation + 1), s.generation + 1⟩ else { s with mRandomPoolPos := pos }
  let posByte := s.mRandomPoolPos / 8
  let posBit := s.mRandomPoolPos % 8
  (⟨s.generation, posByte, posBit, s.mRandomPool[posByte]?.map fun byte => byte.toNat &&& 1 <<< posBit != 0⟩, s)

variable (rng : Nat → Vector UInt8 256)

/-- The pool after some calls, from the one the constructor generates. -/
def calls : Nat → Pool
  | 0 => { mRandomPool := rng 0 }
  | n + 1 => (getRandomFlag rng (calls n)).2

/-- What the call after `n` calls reads. -/
def draw (n : Nat) : Draw := (getRandomFlag rng (calls rng n)).1

theorem getRandomFlag_reads (s : Pool) :
    (getRandomFlag rng s).1.generation = (getRandomFlag rng s).2.generation ∧
      (getRandomFlag rng s).1.posByte = (getRandomFlag rng s).2.mRandomPoolPos / 8 ∧
      (getRandomFlag rng s).1.posBit = (getRandomFlag rng s).2.mRandomPoolPos % 8 := by
  simp [getRandomFlag]

/-- A generation lasts for one call more than the pool has bits. -/
theorem calls_position (n : Nat) :
    (calls rng n).mRandomPoolPos = n % 2049 ∧ (calls rng n).generation = n / 2049 := by
  induction n with
  | zero => simp [calls]
  | succ n ih =>
    by_cases h : 2048 < (calls rng n).mRandomPoolPos + 1
    · simp [calls, getRandomFlag, h]
      omega
    · simp [calls, getRandomFlag, h]
      omega

theorem draw_reads (n : Nat) :
    (draw rng n).generation = (n + 1) / 2049 ∧ (draw rng n).posByte = (n + 1) % 2049 / 8 ∧
      (draw rng n).posBit = (n + 1) % 2049 % 8 := by
  have hreads := getRandomFlag_reads rng (calls rng n)
  have hposition := calls_position rng (n + 1)
  simp only [calls] at hposition
  simpa [draw, hposition] using hreads

/-- Between two generations each call reads another bit. -/
theorem draw_once {i j : Nat} (hlt : i < j) (hgeneration : (draw rng i).generation = (draw rng j).generation) :
    ¬((draw rng i).posByte = (draw rng j).posByte ∧ (draw rng i).posBit = (draw rng j).posBit) := by
  have hi := draw_reads rng i
  have hj := draw_reads rng j
  omega

theorem posByte_lt_iff (n : Nat) : (draw rng n).posByte < 256 ↔ (n + 1) % 2049 ≠ 2048 := by
  have h := draw_reads rng n
  omega

/-- The first so many calls read inside the pool, and between two generations never the same bit twice, just when
they are fewer than the bits of the pool. -/
theorem draws_safe (n : Nat) :
    ((∀ i < n, (draw rng i).posByte < 256) ∧
      ∀ i j, i < j → j < n → (draw rng i).generation = (draw rng j).generation →
        ¬((draw rng i).posByte = (draw rng j).posByte ∧ (draw rng i).posBit = (draw rng j).posBit)) ↔
      n < 2048 := by
  constructor
  · intro h
    by_contra hn
    have hlast := (posByte_lt_iff rng 2047).mp (h.1 2047 (by omega))
    simp at hlast
  · intro hn
    constructor
    · intro i hi
      apply (posByte_lt_iff rng i).mpr
      omega
    · intro i j hij _ hgeneration
      exact draw_once rng hij hgeneration

/-- The call that takes the last bit reads the byte after the pool. -/
theorem last_draw_outside :
    (draw (fun _ => Vector.replicate 256 0) 2047).posByte = 256 ∧
      ¬∀ i < 2048, (draw (fun _ => Vector.replicate 256 0) i).posByte < 256 := by
  have hlast := (draw_reads (fun _ => Vector.replicate 256 0) 2047).2.1
  constructor
  · simpa using hlast
  · intro h
    have hinside := h 2047 (by omega)
    omega

end OpenPeer.RandomPool
