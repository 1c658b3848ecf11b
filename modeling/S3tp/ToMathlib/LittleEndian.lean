import Mathlib.Tactic.Common
import Mathlib.Tactic.Ring
import Mathlib.Data.UInt

/-! # Little-endian words

A number as a fixed count of bytes, least significant first. Numbers that fit are recovered.
-/

/-- The lowest `width` bytes of the number. -/
def littleEndian : ℕ → ℕ → List UInt8
  | 0, _ => []
  | width + 1, n => UInt8.ofNat n :: littleEndian width (n / 256)

def ofLittleEndian : List UInt8 → ℕ
  | [] => 0
  | byte :: bytes => byte.toNat + 256 * ofLittleEndian bytes

@[simp] theorem length_littleEndian (width n : ℕ) : (littleEndian width n).length = width := by
  induction width generalizing n with
  | zero => rfl
  | succ width ih => rw [littleEndian, List.length_cons, ih]

/-- A number that fits in the word is recovered. -/
theorem ofLittleEndian_littleEndian {width n : ℕ} (fits : n < 256 ^ width) :
    ofLittleEndian (littleEndian width n) = n := by
  induction width generalizing n with
  | zero =>
    rw [pow_zero] at fits
    obtain rfl : n = 0 := by omega
    rfl
  | succ width ih =>
    have higher : n / 256 < 256 ^ width := by
      apply Nat.div_lt_of_lt_mul
      calc n < 256 ^ (width + 1) := fits
        _ = 256 * 256 ^ width := pow_succ' 256 width
    rw [littleEndian, ofLittleEndian, ih higher, UInt8.toNat_ofNat']
    omega

/-- The last byte of a word is what is left of the number. -/
theorem littleEndian_succ (width n : ℕ) :
    littleEndian (width + 1) n = littleEndian width n ++ [UInt8.ofNat (n / 256 ^ width)] := by
  induction width generalizing n with
  | zero => simp [littleEndian]
  | succ width ih =>
    rw [littleEndian, ih, littleEndian, List.cons_append, Nat.div_div_eq_div_mul, ← pow_succ']

theorem littleEndian_mul (width n : ℕ) : littleEndian (width + 1) (256 * n) = 0 :: littleEndian width n := by
  have low : UInt8.ofNat (256 * n) = 0 := UInt8.toNat_inj.mp (by simp)
  rw [littleEndian, low, Nat.mul_div_cancel_left n (by decide)]
