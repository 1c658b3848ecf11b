import Mathlib.Tactic.Common
import Mathlib.Data.List.Range

/-! # Blocks of memory

Memory is the function that gives the byte at an address. Reading a block, and copying one to an address as
`memmove` does it: the copied bytes are those the source held before.
-/

/-- `count` bytes of memory. -/
def bytesAt (memory : ℕ → UInt8) (address count : ℕ) : List UInt8 :=
  (List.range count).map fun i => memory (address + i)

/-- Memory after `count` bytes have been copied to an address. -/
def copyTo (memory : ℕ → UInt8) (address : ℕ) (source : ℕ → UInt8) (count : ℕ) : ℕ → UInt8 :=
  fun i => if address ≤ i ∧ i < address + count then source (i - address) else memory i

@[simp] theorem length_bytesAt (memory : ℕ → UInt8) (address count : ℕ) :
    (bytesAt memory address count).length = count := by
  simp [bytesAt]

theorem bytesAt_zero (memory : ℕ → UInt8) (address : ℕ) : bytesAt memory address 0 = [] := rfl

theorem bytesAt_succ (memory : ℕ → UInt8) (address count : ℕ) :
    bytesAt memory address (count + 1) = memory address :: bytesAt memory (address + 1) count := by
  simp [bytesAt, List.range_succ_eq_map, Function.comp_def, Nat.add_right_comm, Nat.add_assoc]

theorem bytesAt_append (memory : ℕ → UInt8) (address first second : ℕ) :
    bytesAt memory address (first + second) =
      bytesAt memory address first ++ bytesAt memory (address + first) second := by
  simp [bytesAt, List.range_add, Function.comp_def, Nat.add_assoc]

/-- Reading behind a pointer that has been moved on. -/
theorem bytesAt_shift (memory : ℕ → UInt8) (k count : ℕ) :
    bytesAt (fun i => memory (k + i)) 0 count = bytesAt memory k count := by
  simp [bytesAt]

theorem drop_bytesAt (memory : ℕ → UInt8) (address count k : ℕ) :
    (bytesAt memory address count).drop k = bytesAt memory (address + k) (count - k) := by
  rcases Nat.le_total k count with inside | past
  · obtain ⟨rest, rfl⟩ := Nat.exists_eq_add_of_le inside
    rw [bytesAt_append, Nat.add_sub_cancel_left]
    exact List.drop_left' (length_bytesAt _ _ _)
  · rw [Nat.sub_eq_zero_of_le past, bytesAt_zero]
    exact List.drop_eq_nil_of_le (by simpa using past)

theorem take_bytesAt (memory : ℕ → UInt8) (address : ℕ) {count k : ℕ} (inside : k ≤ count) :
    (bytesAt memory address count).take k = bytesAt memory address k := by
  obtain ⟨rest, rfl⟩ := Nat.exists_eq_add_of_le inside
  rw [bytesAt_append]
  exact List.take_left' (length_bytesAt _ _ _)

/-- What has been copied is there. -/
theorem bytesAt_copyTo (memory source : ℕ → UInt8) (address count : ℕ) :
    bytesAt (copyTo memory address source count) address count = bytesAt source 0 count := by
  apply List.map_congr_left
  intro i member
  have inside := List.mem_range.mp member
  simp [copyTo, inside]

/-- What lies before it is left alone. -/
theorem bytesAt_copyTo_of_le (memory source : ℕ → UInt8) (count : ℕ) {address start first : ℕ}
    (before : start + first ≤ address) :
    bytesAt (copyTo memory address source count) start first = bytesAt memory start first := by
  apply List.map_congr_left
  intro i member
  have inside := List.mem_range.mp member
  have outside : ¬ (address ≤ start + i ∧ start + i < address + count) := by omega
  simp only [copyTo, if_neg outside]
