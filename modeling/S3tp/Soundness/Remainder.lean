import S3tp.Machine.PolynomialRemainder
import S3tp.Soundness.Corruption

/-! # The checksum as a remainder

The register's sixteen bits are the coefficients of a polynomial of a degree below sixteen. A turn multiplies it by
the indeterminate and subtracts `x^16 + x^15 + x^2 + 1` when the coefficient of `x^16` would be set. So the
register holds the remainder of the payload's polynomial, and after the sixteen turns that push it out, of that
polynomial times `x^16`.
-/

namespace S3tp.Soundness

open Model.Core Machine Polynomial

/-! ## The register's polynomial -/

/-- The polynomial whose coefficients are the bits of the register. -/
noncomputable def registerPolynomial (out : UInt16) : (ZMod 2)[X] :=
  ∑ i ∈ Finset.range 16, C (bitValue (out.toBitVec.getLsbD i)) * X ^ i

theorem coeff_registerPolynomial (out : UInt16) (k : ℕ) :
    (registerPolynomial out).coeff k = bitValue (out.toBitVec.getLsbD k) := by
  rw [registerPolynomial, finsetSum_coeff]
  simp only [coeff_C_mul, coeff_X_pow, mul_ite, mul_one, mul_zero]
  rw [Finset.sum_ite_eq]
  split
  · rfl
  · next outside =>
    have high : 16 ≤ k := by simpa using outside
    rw [BitVec.getLsbD_of_ge _ _ high]
    rfl

theorem degree_registerPolynomial_lt (out : UInt16) : (registerPolynomial out).degree < (16 : ℕ) := by
  rw [degree_lt_iff_coeff_zero]
  intro k high
  rw [coeff_registerPolynomial, BitVec.getLsbD_of_ge _ _ high]
  rfl

theorem registerPolynomial_xor (a b : UInt16) :
    registerPolynomial (a ^^^ b) = registerPolynomial a + registerPolynomial b := by
  ext k
  rw [coeff_add, coeff_registerPolynomial, coeff_registerPolynomial, coeff_registerPolynomial, UInt16.toBitVec_xor,
    BitVec.getLsbD_xor, bitValue_xor]

/-- The polynomial of the checksum. -/
noncomputable def generator : (ZMod 2)[X] := X ^ 16 + X ^ 15 + X ^ 2 + 1

theorem generator_eq : generator = X ^ 16 + registerPolynomial crc16 := by
  have terms : registerPolynomial crc16 = X ^ 15 + X ^ 2 + 1 := by
    have set : ∀ i < 16, crc16.toBitVec.getLsbD i = decide (i = 15 ∨ i = 2 ∨ i = 0) := by decide
    have bits : registerPolynomial crc16 =
        ∑ i ∈ Finset.range 16, C (bitValue (decide (i = 15 ∨ i = 2 ∨ i = 0))) * X ^ i := by
      apply Finset.sum_congr rfl
      intro i member
      rw [set i (Finset.mem_range.mp member)]
    rw [bits]
    simp only [Finset.sum_range_succ, Finset.sum_range_zero]
    norm_num [bitValue]
    ring
  rw [generator, terms]
  ring

theorem monic_generator : generator.Monic := by
  rw [generator_eq]
  exact monic_X_pow_add (degree_registerPolynomial_lt crc16)

theorem degree_generator : generator.degree = (16 : ℕ) := by
  have bound := degree_registerPolynomial_lt crc16
  rw [generator_eq, degree_add_eq_left_of_degree_lt, degree_X_pow]
  rwa [degree_X_pow]

/-- A plain shift loses the top bit. -/
theorem registerPolynomial_shiftLeft (out : UInt16) :
    registerPolynomial (out <<< 1) + C (bitValue (topBit out)) * X ^ 16 = X * registerPolynomial out := by
  ext k
  rw [coeff_add, coeff_registerPolynomial, coeff_C_mul, coeff_X_pow, topBit_eq]
  cases k with
  | zero => simp [bitValue]
  | succ k =>
    rw [coeff_X_mul, coeff_registerPolynomial]
    rcases Nat.lt_trichotomy k 15 with low | rfl | high
    · have moved : (out <<< 1).toBitVec.getLsbD (k + 1) = out.toBitVec.getLsbD k := by
        simp
        omega
      rw [moved, if_neg (by omega), mul_zero, add_zero]
    · simp [bitValue]
    · rw [BitVec.getLsbD_of_ge _ _ (by omega), BitVec.getLsbD_of_ge _ k (by omega), if_neg (by omega), mul_zero,
        add_zero]

/-- What is shifted out is subtracted with the whole polynomial. -/
theorem registerPolynomial_shiftBit (out : UInt16) :
    registerPolynomial (shiftBit out 0) = X * registerPolynomial out + C (bitValue (topBit out)) * generator := by
  have reduction : registerPolynomial (if topBit out then crc16 else 0) =
      C (bitValue (topBit out)) * registerPolynomial crc16 := by
    cases topBit out with
    | false => simp [registerPolynomial, bitValue]
    | true => simp [bitValue]
  rw [shiftBit_zero, registerPolynomial_xor, reduction, ← registerPolynomial_shiftLeft, generator_eq]
  have twice : C (bitValue (topBit out)) * X ^ 16 + C (bitValue (topBit out)) * X ^ 16 = 0 :=
    CharTwo.add_self_eq_zero _
  rw [mul_add, add_assoc, ← add_assoc (C _ * X ^ 16), twice, zero_add]

/-- The vectors of the register stand for remainders. -/
noncomputable def remainders : register.Remainders generator where
  polynomial := registerPolynomial
  zero := by simp [registerPolynomial, register, bitValue]
  input := by
    ext k
    have single : (1 : UInt16).toBitVec.getLsbD k = decide (k = 0) := by
      change (1#16).getLsbD k = decide (k = 0)
      simp
    change (registerPolynomial 1).coeff k = _
    rw [coeff_registerPolynomial, single, coeff_one, bitValue]
    simp
  xor := registerPolynomial_xor
  degree_lt out := by
    rw [degree_generator]
    exact degree_registerPolynomial_lt out
  shift out := by
    change generator ∣ registerPolynomial (shiftBit out 0) - X * registerPolynomial out
    rw [registerPolynomial_shiftBit, add_sub_cancel_left]
    exact dvd_mul_left _ _

/-! ## The checksum -/

/-- The polynomial whose coefficients are the bits of the bytes, highest degree first: bytes in order, the least
significant bit of each first. -/
noncomputable def messagePolynomial (data : List UInt8) : (ZMod 2)[X] :=
  bitPolynomial (data.flatMap fun byte => (List.range 8).map byte.toNat.testBit)

theorem byteBits_eq (data : UInt8) : byteBits data = (List.range 8).map data.toNat.testBit := by
  rw [byteBits]
  apply List.map_congr_left
  intro bitsRead member
  have bound := List.mem_range.mp member
  have value : (dataBit data bitsRead).toNat = data.toNat / 2 ^ bitsRead % 2 := by
    have place : (UInt8.ofNat bitsRead).toNat % 8 = bitsRead := by
      rw [UInt8.toNat_ofNat']
      omega
    rw [dataBit, UInt8.toNat_toUInt16, UInt8.toNat_and, UInt8.toNat_shiftRight, place, Nat.shiftRight_eq_div_pow]
    exact Nat.and_one_is_mod _
  rw [Nat.testBit_eq_decide_div_mod_eq, ← value]
  rcases dataBit_cases data bitsRead with clear | set
  · rw [clear]
    rfl
  · rw [set]
    rfl

theorem messagePolynomial_eq (data : List UInt8) : messagePolynomial data = bitPolynomial (payloadBits data) := by
  have bits : (fun byte : UInt8 => (List.range 8).map byte.toNat.testBit) = byteBits :=
    funext fun byte => (byteBits_eq byte).symm
  rw [messagePolynomial, bits, payloadBits]

/-- The checksum is the remainder of the message's polynomial times `x^16`, bits reversed. -/
theorem calcChecksum_remainder (data : List UInt8) (j : Fin 16) :
    (calcChecksum data).toBitVec.getLsbD (15 - j) = true ↔
      ((messagePolynomial data * X ^ 16) %ₘ generator).coeff j = 1 := by
  have held := remainders.polynomial_feed monic_generator (payloadBits data ++ List.replicate 16 false)
  rw [bitPolynomial_append_replicate, ← messagePolynomial_eq] at held
  rw [calcChecksum_eq, getLsbD_reverseBits _ j.isLt, ← held]
  exact (coeff_registerPolynomial _ _).symm ▸ bitValue_eq_one_iff.symm

end S3tp.Soundness
