import Mathlib.Tactic.Common

/-! # Byte counters as residues of unbounded counters

An eight-bit counter that has been incremented `n` times holds `UInt8.ofNat n`. Comparing two such
counters relative to a third one recovers the order of the unbounded counters exactly as long as
these lie within one turn of the offset. The lemmas are stated over `Nat`, so that a proof may
number things without bound and meet the wrapped value only where the code looks at it.
-/

namespace UInt8

theorem ofNat_succ (n : ℕ) : UInt8.ofNat (n + 1) = UInt8.ofNat n + 1 := by
  simp [UInt8.ofNat_add]

theorem toNat_ofNat_of_lt_256 {n : ℕ} (bound : n < 256) : (UInt8.ofNat n).toNat = n := by
  simp only [UInt8.toNat_ofNat']
  omega

/-- Within one turn of the offset, the relative value is the true distance. -/
theorem ofNat_add_sub_ofNat (n k : ℕ) : UInt8.ofNat (n + k) - UInt8.ofNat n = UInt8.ofNat k := by
  apply UInt8.toNat_inj.mp
  simp only [UInt8.toNat_sub, UInt8.toNat_ofNat']
  omega

/-- Counters within one turn of the offset compare as their unbounded values do. -/
theorem ofNat_sub_lt_iff {n i j : ℕ} (hi : i < 256) (hj : j < 256) :
    UInt8.ofNat (n + i) - UInt8.ofNat n < UInt8.ofNat (n + j) - UInt8.ofNat n ↔ i < j := by
  rw [ofNat_add_sub_ofNat, ofNat_add_sub_ofNat, UInt8.lt_iff_toNat_lt,
    toNat_ofNat_of_lt_256 hi, toNat_ofNat_of_lt_256 hj]

end UInt8
