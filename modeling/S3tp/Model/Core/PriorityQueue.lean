import S3tp.ToMathlib.TailInsertion
import Mathlib.Algebra.Group.Nat.Defs
import Mathlib.Data.Int.Notation
import Mathlib.Tactic.Common

/-! # The priority queue of a port

The linked nodes, head first, and the 16-bit size field the queue keeps beside them. A push scans
from the tail and links the new node behind the first element that has priority over it. Nothing
but the capacity test limits the number of nodes, and that test reads the 16-bit field: it never
refuses a node, while the field wraps. Emptiness is decided by the field.
-/

namespace S3tp.Model.Core

/-- `PolicyActor`: the module's answers a queue and a buffer ask for. -/
structure PolicyActor (α : Type*) where
  comparePriority : α → α → ℤ
  isElementValid : α → Bool
  maximumWindowExceeded : α → α → Bool

/-- `MAX_QUEUE_SIZE`, in bytes. -/
def maxQueueSize : ℕ := 1 <<< 20

/-- `MAX_QUEUE_CAPACITY`: `sizeof(S3TP_PACKET)` is a pointer and two packed bytes. -/
def maxQueueCapacity : ℕ := maxQueueSize / 10

structure PriorityQueue (α : Type*) where
  nodes : List α
  size : UInt16
deriving Repr

namespace PriorityQueue

variable {α : Type*}

def empty : PriorityQueue α := ⟨[], 0⟩

instance : Inhabited (PriorityQueue α) := ⟨empty⟩

def isEmpty (q : PriorityQueue α) : Bool := q.size == 0

def peek (q : PriorityQueue α) : Option α := q.nodes.head?

/-- Unlink the head; without a node the code follows a null pointer. -/
def pop (q : PriorityQueue α) : Option (α × PriorityQueue α) :=
  match q.nodes with
  | [] => none
  | element :: rest => some (element, ⟨rest, q.size - 1⟩)

/-- Link a node, or answer `QUEUE_FULL` (`none`). -/
def push (q : PriorityQueue α) (element : α) (comparator : PolicyActor α) : Option (PriorityQueue α) :=
  if maxQueueCapacity ≤ q.size.toNat then none
  else some ⟨q.nodes.insertFromTail (fun ref new => decide (comparator.comparePriority ref new < 0)) element,
    q.size + 1⟩

def getSize (q : PriorityQueue α) : UInt16 := q.size

def clear (_ : PriorityQueue α) : PriorityQueue α := empty

/-- The size field counts the nodes. It cannot once there are `2 ^ 16` of them. -/
structure Counted (q : PriorityQueue α) : Prop where
  length_lt : q.nodes.length < 2 ^ 16
  size_eq : q.size.toNat = q.nodes.length

theorem counted_empty : (empty : PriorityQueue α).Counted := ⟨by simp [empty], by simp [empty]⟩

theorem Counted.isEmpty_iff {q : PriorityQueue α} (counted : q.Counted) :
    q.isEmpty = true ↔ q.nodes = [] := by
  rw [isEmpty, beq_iff_eq, ← UInt16.toNat_inj, counted.size_eq]
  simp

/-- The capacity exceeds what a 16-bit size can show, so a push always links the element. -/
theorem push_eq (q : PriorityQueue α) (element : α) (comparator : PolicyActor α) :
    q.push element comparator = some ⟨q.nodes.insertFromTail
      (fun ref new => decide (comparator.comparePriority ref new < 0)) element, q.size + 1⟩ := by
  have bound : q.size.toNat < 2 ^ 16 := q.size.toNat_lt
  rw [push, if_neg]
  simp only [maxQueueCapacity, maxQueueSize]
  omega

theorem Counted.push {q next : PriorityQueue α} {element : α} {comparator : PolicyActor α}
    (counted : q.Counted) (room : q.nodes.length + 1 < 2 ^ 16)
    (pushed : q.push element comparator = some next) : next.Counted := by
  rw [push_eq] at pushed
  cases pushed
  refine ⟨by simpa using room, ?_⟩
  simp only [UInt16.toNat_add, UInt16.toNat_one, List.length_insertFromTail, counted.size_eq]
  omega

theorem pop_eq_some {q next : PriorityQueue α} {element : α} (popped : q.pop = some (element, next)) :
    q.nodes = element :: next.nodes ∧ next.size = q.size - 1 := by
  cases nodes : q.nodes with
  | nil => simp [pop, nodes] at popped
  | cons first rest =>
    simp only [pop, nodes, Option.some.injEq, Prod.mk.injEq] at popped
    obtain ⟨rfl, rfl⟩ := popped
    exact ⟨rfl, rfl⟩

theorem Counted.pop {q next : PriorityQueue α} {element : α} (counted : q.Counted)
    (popped : q.pop = some (element, next)) : q.nodes = element :: next.nodes ∧ next.Counted := by
  obtain ⟨nodes, size⟩ := pop_eq_some popped
  obtain ⟨bound, same⟩ := counted
  rw [nodes, List.length_cons] at bound same
  refine ⟨nodes, by omega, ?_⟩
  simp only [size, UInt16.toNat_sub, UInt16.toNat_one, same]
  omega

end PriorityQueue

end S3tp.Model.Core
