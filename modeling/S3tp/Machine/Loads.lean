import Mathlib.Tactic.Common

/-! # Computations that load from memory

A computation is done, or it loads a cell of the memory and goes on with what it found there. In a
memory it has a result, `run`, and the cells it loaded, `addresses`, in order. Both depend on the
loaded cells only: a computation that stays within a region does the same in every memory that
agrees with this one on the region.
-/

namespace S3tp.Machine

universe u v w

/-- A computation over a memory with addresses `α` and cells `β`. -/
inductive Loads (α : Type u) (β : Type v) (γ : Type w)
  | done (result : γ)
  | load (address : α) (next : β → Loads α β γ)

namespace Loads

variable {α : Type u} {β : Type v} {γ δ : Type w}

protected def bind : Loads α β γ → (γ → Loads α β δ) → Loads α β δ
  | done result, f => f result
  | load address next, f => load address fun value => (next value).bind f

instance : Monad (Loads α β) where
  pure := done
  bind := Loads.bind

def read (address : α) : Loads α β β := load address done

/-- Load one cell after the other. -/
def readAll : List α → Loads α β (List β)
  | [] => pure []
  | address :: rest => do
    let value ← read address
    let values ← readAll rest
    return value :: values

def run (memory : α → β) : Loads α β γ → γ
  | done result => result
  | load address next => (next (memory address)).run memory

/-- The cells that are loaded. -/
def addresses (memory : α → β) : Loads α β γ → List α
  | done _ => []
  | load address next => address :: (next (memory address)).addresses memory

variable (memory : α → β)

@[simp] theorem run_pure (result : γ) : (pure result : Loads α β γ).run memory = result := rfl

@[simp] theorem run_read (address : α) : (read address).run memory = memory address := rfl

@[simp] theorem run_bind (p : Loads α β γ) (f : γ → Loads α β δ) :
    (p >>= f).run memory = (f (p.run memory)).run memory := by
  induction p with
  | done result => rfl
  | load address next ih => exact ih (memory address)

@[simp] theorem run_readAll (cells : List α) : (readAll cells).run memory = cells.map memory := by
  induction cells with
  | nil => rfl
  | cons address rest ih => simp [readAll, ih]

@[simp] theorem addresses_pure (result : γ) : (pure result : Loads α β γ).addresses memory = [] := rfl

@[simp] theorem addresses_read (address : α) : (read address).addresses memory = [address] := rfl

@[simp] theorem addresses_bind (p : Loads α β γ) (f : γ → Loads α β δ) :
    (p >>= f).addresses memory = p.addresses memory ++ (f (p.run memory)).addresses memory := by
  induction p with
  | done result => rfl
  | load address next ih => exact congrArg (address :: ·) (ih (memory address))

@[simp] theorem addresses_readAll (cells : List α) : (readAll cells).addresses memory = cells := by
  induction cells with
  | nil => rfl
  | cons address rest ih => simp [readAll, ih]

/-! ## Regions -/

/-- Only cells of the region are loaded. -/
def Within (inside : α → Prop) (p : Loads α β γ) : Prop := ∀ address ∈ p.addresses memory, inside address

variable {memory} {inside : α → Prop}

@[simp] theorem within_pure (result : γ) : (pure result : Loads α β γ).Within memory inside := by simp [Within]

@[simp] theorem within_read {address : α} : (read address : Loads α β β).Within memory inside ↔ inside address := by
  simp [Within]

@[simp] theorem within_readAll {cells : List α} :
    (readAll cells : Loads α β (List β)).Within memory inside ↔ ∀ address ∈ cells, inside address := by
  simp [Within]

/-- The second part goes on with the result of the first. -/
@[simp] theorem within_bind {p : Loads α β γ} {f : γ → Loads α β δ} :
    (p >>= f).Within memory inside ↔ p.Within memory inside ∧ (f (p.run memory)).Within memory inside := by
  simp [Within, or_imp, forall_and]

section Agree

variable {memory' : α → β} (agree : ∀ address, inside address → memory' address = memory address)
include agree

/-- Whether a computation stays within the region shows in the region. -/
theorem within_iff_of_agree (p : Loads α β γ) : p.Within memory' inside ↔ p.Within memory inside := by
  induction p with
  | done result => exact Iff.rfl
  | load address next ih =>
    simp only [Within, addresses, List.forall_mem_cons]
    refine and_congr_right fun loaded => ?_
    rw [agree address loaded]
    exact ih (memory address)

/-- Nothing outside the region is noticed. -/
theorem run_eq_of_within {p : Loads α β γ} (within : p.Within memory inside) : p.run memory' = p.run memory := by
  induction p with
  | done result => rfl
  | load address next ih =>
    have same : memory' address = memory address := agree address (within address (List.mem_cons_self ..))
    have rest : (next (memory address)).Within memory inside :=
      fun later member => within later (List.mem_cons_of_mem _ member)
    calc (next (memory' address)).run memory'
      _ = (next (memory address)).run memory' := by rw [same]
      _ = (next (memory address)).run memory := ih (memory address) rest

end Agree

end Loads

end S3tp.Machine
