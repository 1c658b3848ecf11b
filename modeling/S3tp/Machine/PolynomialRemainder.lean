import S3tp.Machine.ShiftRegister
import Mathlib.Algebra.Field.ZMod
import Mathlib.Algebra.Polynomial.Div

/-! # Shift registers that divide polynomials

A vector of a shift register stands for a polynomial over the field of two elements. If the input vector stands
for one, and shifting multiplies by the indeterminate and reduces modulo a monic polynomial, then what a bit string
leaves in the register stands for the remainder of the polynomial whose coefficients are the bits, highest
degree first.
-/

namespace S3tp.Machine

open Polynomial

/-- A bit as a coefficient. -/
def bitValue (bit : Bool) : ZMod 2 := if bit then 1 else 0

theorem bitValue_xor (x y : Bool) : bitValue (x ^^ y) = bitValue x + bitValue y := by
  cases x <;> cases y <;> decide

theorem bitValue_eq_one_iff {bit : Bool} : bitValue bit = 1 ↔ bit = true := by cases bit <;> decide

/-- The polynomial with these coefficients, highest degree first. -/
noncomputable def bitPolynomial (bits : List Bool) : (ZMod 2)[X] :=
  bits.foldl (fun p bit => X * p + C (bitValue bit)) 0

theorem bitPolynomial_concat (bits : List Bool) (bit : Bool) :
    bitPolynomial (bits ++ [bit]) = X * bitPolynomial bits + C (bitValue bit) := by
  rw [bitPolynomial, List.foldl_append]
  rfl

/-- Zeros that follow multiply. -/
theorem bitPolynomial_append_replicate (bits : List Bool) (n : ℕ) :
    bitPolynomial (bits ++ List.replicate n false) = bitPolynomial bits * X ^ n := by
  induction n with
  | zero => simp
  | succ n ih =>
    rw [List.replicate_succ', ← List.append_assoc, bitPolynomial_concat, ih, pow_succ']
    simp only [bitValue, Bool.false_eq_true, if_false, map_zero, add_zero]
    exact mul_left_comm _ _ _

/-- The vectors of the register stand for the remainders modulo a polynomial. -/
structure ShiftRegister.Remainders {V : Type*} (r : ShiftRegister V) (modulus : (ZMod 2)[X]) where
  polynomial : V → (ZMod 2)[X]
  zero : polynomial r.zero = 0
  input : polynomial r.input = 1
  xor : ∀ a b, polynomial (r.xor a b) = polynomial a + polynomial b
  degree_lt : ∀ a, (polynomial a).degree < modulus.degree
  shift : ∀ a, modulus ∣ polynomial (r.shift a) - X * polynomial a

namespace ShiftRegister.Remainders

variable {V : Type*} {r : ShiftRegister V} {modulus : (ZMod 2)[X]} (remainders : r.Remainders modulus)

theorem polynomial_turn (state : V) (bit : Bool) :
    remainders.polynomial (r.turn state bit) = remainders.polynomial (r.shift state) + C (bitValue bit) := by
  cases bit with
  | false => simp [turn, remainders.xor, remainders.zero, bitValue]
  | true => simp [turn, remainders.xor, remainders.input, bitValue]

/-- What has been fed in and what the register holds differ by a multiple of the modulus. -/
theorem dvd_feed (bits : List Bool) :
    modulus ∣ remainders.polynomial (r.feed r.zero bits) - bitPolynomial bits := by
  induction bits using List.reverseRecOn with
  | nil => simp [bitPolynomial, remainders.zero]
  | append_singleton bits bit ih =>
    have turned : r.feed r.zero (bits ++ [bit]) = r.turn (r.feed r.zero bits) bit := r.feed_append _ bits [bit]
    have shifted := remainders.shift (r.feed r.zero bits)
    have multiplied := ih.mul_left X
    have sum := dvd_add shifted multiplied
    rw [turned, remainders.polynomial_turn, bitPolynomial_concat, add_sub_add_right_eq_sub]
    rw [mul_sub, sub_add_sub_cancel] at sum
    exact sum

/-- The register holds the remainder of what has been fed in. -/
theorem polynomial_feed (monic : modulus.Monic) (bits : List Bool) :
    remainders.polynomial (r.feed r.zero bits) = bitPolynomial bits %ₘ modulus := by
  obtain ⟨quotient, difference⟩ := remainders.dvd_feed bits
  apply Eq.symm
  apply (div_modByMonic_unique (-quotient) _ monic ⟨?_, remainders.degree_lt _⟩).2
  rw [mul_neg, ← difference, neg_sub, add_sub_cancel]

end ShiftRegister.Remainders

end S3tp.Machine
