import Mathlib.Data.List.Induction
import Mathlib.Data.List.Nodup
import Mathlib.Data.List.Perm.Subperm
import Mathlib.Logic.Function.Basic
import Mathlib.Tactic.Common

/-! # Ordered maps keyed by a byte

A finite map whose keys are bytes is the function that returns the value stored at a key, if any.
Iteration visits the stored keys in ascending order, so the first entry is the least stored key.
Insertion is `Function.update`, and looking a key up leaves the map as it is.
-/

/-- A map from bytes, as the function that looks a key up. -/
abbrev ByteMap (β : Type*) := UInt8 → Option β

namespace ByteMap

variable {β : Type*}

/-- All bytes, ascending. -/
def bytes : List UInt8 := (List.range 256).map UInt8.ofNat

theorem mem_bytes (k : UInt8) : k ∈ bytes :=
  List.mem_map.mpr ⟨k.toNat, List.mem_range.mpr k.toNat_lt, UInt8.ofNat_toNat⟩

theorem bytes_pairwise : bytes.Pairwise (· < ·) := by
  refine List.pairwise_map.mpr (List.Pairwise.imp_of_mem ?_ List.pairwise_lt_range)
  intro a b ha hb less
  simp only [List.mem_range] at ha hb
  rw [UInt8.lt_iff_toNat_lt, UInt8.toNat_ofNat', UInt8.toNat_ofNat']
  omega

/-- The map without entries. -/
def empty : ByteMap β := fun _ => none

/-- Store a value, replacing what the key held. -/
def insert (m : ByteMap β) (k : UInt8) (v : β) : ByteMap β := Function.update m k (some v)

/-- Remove the entry of a key. -/
def erase (m : ByteMap β) (k : UInt8) : ByteMap β := Function.update m k none

/-- The stored keys, ascending. -/
def keys (m : ByteMap β) : List UInt8 := bytes.filter fun k => (m k).isSome

def isEmpty (m : ByteMap β) : Bool := m.keys.isEmpty

def size (m : ByteMap β) : ℕ := m.keys.length

/-- The key an iterator at the beginning of the map points to. -/
def begin? (m : ByteMap β) : Option UInt8 := m.keys.head?

@[simp] theorem empty_apply (k : UInt8) : (empty : ByteMap β) k = none := rfl

@[simp] theorem insert_self (m : ByteMap β) (k : UInt8) (v : β) : m.insert k v k = some v := by
  simp [insert]

theorem insert_of_ne (m : ByteMap β) {k j : UInt8} (v : β) (other : j ≠ k) :
    m.insert k v j = m j := by
  simp [insert, other]

@[simp] theorem erase_self (m : ByteMap β) (k : UInt8) : m.erase k k = none := by
  simp [erase]

theorem erase_of_ne (m : ByteMap β) {k j : UInt8} (other : j ≠ k) : m.erase k j = m j := by
  simp [erase, other]

theorem insert_apply (m : ByteMap β) (k j : UInt8) (v : β) :
    m.insert k v j = if j = k then some v else m j := Function.update_apply ..

theorem erase_apply (m : ByteMap β) (k j : UInt8) :
    m.erase k j = if j = k then none else m j := Function.update_apply ..

@[simp] theorem mem_keys {m : ByteMap β} {k : UInt8} : k ∈ m.keys ↔ (m k).isSome := by
  simp [keys, mem_bytes]

theorem keys_pairwise (m : ByteMap β) : m.keys.Pairwise (· < ·) := bytes_pairwise.filter _

theorem isEmpty_iff {m : ByteMap β} : m.isEmpty = true ↔ ∀ k, m k = none := by
  simp [isEmpty, List.isEmpty_iff, List.eq_nil_iff_forall_not_mem]

theorem isEmpty_eq_false_iff {m : ByteMap β} : m.isEmpty = false ↔ ∃ k, (m k).isSome := by
  rw [← Bool.not_eq_true, isEmpty_iff, not_forall]
  simp only [Option.isSome_iff_ne_none, ne_eq]

theorem begin?_eq_none_iff {m : ByteMap β} : m.begin? = none ↔ ∀ k, m k = none := by
  simp [begin?, List.head?_eq_none_iff, List.eq_nil_iff_forall_not_mem]

theorem isSome_of_begin? {m : ByteMap β} {k : UInt8} (first : m.begin? = some k) :
    (m k).isSome := mem_keys.mp (List.mem_of_head? first)

/-- The first entry is the least stored key. -/
theorem begin?_eq_some_iff {m : ByteMap β} {k : UInt8} :
    m.begin? = some k ↔ (m k).isSome ∧ ∀ j, (m j).isSome → k ≤ j := by
  constructor
  · intro first
    refine ⟨isSome_of_begin? first, fun j stored => ?_⟩
    obtain ⟨rest, same⟩ := List.head?_eq_some_iff.mp first
    have sorted := m.keys_pairwise
    rw [same] at sorted
    rcases List.mem_cons.mp (same ▸ mem_keys.mpr stored) with rfl | later
    · exact UInt8.le_refl _
    · exact UInt8.le_of_lt ((List.pairwise_cons.mp sorted).1 j later)
  · rintro ⟨stored, least⟩
    cases first : m.begin? with
    | none => simp [begin?_eq_none_iff.mp first k] at stored
    | some j =>
      have head := List.mem_of_head? first
      obtain ⟨rest, same⟩ := List.head?_eq_some_iff.mp first
      have sorted := m.keys_pairwise
      rw [same] at sorted
      rcases List.mem_cons.mp (same ▸ mem_keys.mpr stored) with rfl | later
      · rfl
      · exact absurd (least j (mem_keys.mp head))
          (UInt8.not_le.mpr ((List.pairwise_cons.mp sorted).1 k later))

/-- The first key depends only on which keys are stored. -/
theorem begin?_congr {m m' : ByteMap β} (same : ∀ k, (m' k).isSome = (m k).isSome) : m'.begin? = m.begin? := by
  have keys : m'.keys = m.keys := List.filter_congr fun k _ => same k
  rw [begin?, keys, begin?]

/-- A map with as many keys as there are bytes below its bound stores them all. -/
theorem isSome_of_le_size {m : ByteMap β} {n : ℕ} (below : ∀ k, (m k).isSome → k.toNat < n) (full : n ≤ m.size)
    {k : UInt8} (lt : k.toNat < n) : (m k).isSome := by
  have nodup : (m.keys.map UInt8.toNat).Nodup := by
    refine List.Nodup.map (fun _ _ same => UInt8.toNat_inj.mp same) ?_
    exact m.keys_pairwise.imp fun less same => absurd (same ▸ less) (UInt8.lt_irrefl _)
  have within : m.keys.map UInt8.toNat ⊆ List.range n := by
    intro i member
    obtain ⟨j, stored, rfl⟩ := List.mem_map.mp member
    exact List.mem_range.mpr (below j (mem_keys.mp stored))
  have all := (List.subperm_of_subset nodup within).perm_of_length_le (by simpa [size] using full)
  obtain ⟨j, stored, same⟩ := List.mem_map.mp (all.mem_iff.mpr (List.mem_range.mpr lt))
  rw [← UInt8.toNat_inj.mp same]
  exact mem_keys.mp stored

end ByteMap
