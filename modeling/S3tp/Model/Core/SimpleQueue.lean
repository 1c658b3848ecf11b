import S3tp.Machine.LinkedMemory

/-! # The simple queue in memory

The nodes of a bounded queue as the code links them, from the head to the tail. The memory of a deleted node keeps what
the node held until it is overwritten or given to another node; `pop` hands out a reference to it. A result is `none`
where the code follows a pointer that is null or points to a deleted node.
-/

namespace S3tp.Model.Core

open Machine

/-- `SIMPLE_QUEUE_DEFAULT_CAPACITY`. -/
def simpleQueueDefaultCapacity : ℤ := 256

/-- `SIMPLE_QUEUE_BLOCKING`. -/
def simpleQueueBlocking : ℤ := 1

/-- `SIMPLE_QUEUE_FULL`. -/
def simpleQueueFull : ℤ := -1

/-- `SIMPLE_QUEUE_PUSH_SUCCESS`. -/
def simpleQueuePushSuccess : ℤ := 0

/-- `tag_s3tp_simple_queue_node`. -/
structure SimpleQueueNode (α : Type) where
  element : α
  next : Option ℕ := none

/-- `deleted` is what the memory of deleted nodes holds. -/
structure SimpleQueue (α : Type) where
  heap : Heap (SimpleQueueNode α) := ∅
  deleted : ℕ → Option α := fun _ => none
  head : Option ℕ := none
  tail : Option ℕ := none
  size : ℤ := 0
  capacity : ℤ
  mode : ℤ

namespace SimpleQueue

variable {α : Type}

def create (capacity mode : ℤ) : SimpleQueue α :=
  { capacity := if 0 < capacity then capacity else simpleQueueDefaultCapacity, mode }

def isEmpty (q : SimpleQueue α) : Bool := q.size == 0

/-- The nodes with the new one, which the tail leads to now. The code looks at the head to see whether there is a
tail. -/
def linkNode (q : SimpleQueue α) (newNode : ℕ) (element : α) : Option (Heap (SimpleQueueNode α)) :=
  match q.head with
  | none => some (q.heap.insert newNode { element })
  | some _ => do
    let tail ← q.tail
    Heap.store (q.heap.insert newNode { element }) tail fun node => { node with next := some newNode }

/-- The queue with the new node. -/
def lengthen (q : SimpleQueue α) (heap : Heap (SimpleQueueNode α)) (newNode : ℕ) : SimpleQueue α :=
  { q with
    heap
    deleted := Function.update q.deleted newNode none
    head := q.head.or (some newNode)
    tail := some newNode
    size := q.size + 1 }

/-- What `push` does under the mutex, where `newNode` is what the allocator returns: an address without a node. -/
def link (q : SimpleQueue α) (newNode : ℕ) (element : α) : Option (SimpleQueue α) :=
  (q.linkNode newNode element).map fun heap => q.lengthen heap newNode

/-- The queue without its first node. -/
def shorten (q : SimpleQueue α) (ref : ℕ) (node : SimpleQueueNode α) : SimpleQueue α :=
  { q with
    heap := q.heap.erase ref
    deleted := Function.update q.deleted ref (some node.element)
    head := node.next
    size := q.size - 1 }

/-- What `pop` does under the mutex. It hands out a reference to the element of the node it deletes. -/
def unlink (q : SimpleQueue α) : Option (ℕ × SimpleQueue α) := do
  let ref ← q.head
  let node ← q.heap.lookup ref
  some (ref, q.shorten ref node)

/-- The memory at an address without a node is overwritten. -/
def overwrite (q : SimpleQueue α) (address : ℕ) (content : α) : SimpleQueue α :=
  { q with deleted := Function.update q.deleted address (some content) }

/-! ## The list of the elements -/

/-- The links of the heap. -/
def links (heap : Heap (SimpleQueueNode α)) (address : ℕ) : Option (α × Option ℕ) :=
  (heap.lookup address).map fun node => (node.element, node.next)

/-- The cells are linked from head to tail, counted, and nothing else is allocated. The tail of an empty queue is the
last node there was. -/
structure Holds (q : SimpleQueue α) (cells : List (ℕ × α)) : Prop where
  linked : Linked (links q.heap) q.head cells none
  nodup : (cells.map Prod.fst).Nodup
  allocated : ∀ address, address ∈ q.heap ↔ address ∈ cells.map Prod.fst
  tail : cells ≠ [] → q.tail = lastOf cells
  size : q.size = cells.length

variable {q : SimpleQueue α} {cells : List (ℕ × α)} {newNode address ref : ℕ} {element content : α}

theorem holds_create (capacity mode : ℤ) : (create capacity mode : SimpleQueue α).Holds [] where
  linked := rfl
  nodup := List.nodup_nil
  allocated address := by simp [create]
  tail nonempty := absurd rfl nonempty
  size := rfl

theorem Holds.lookup (holds : q.Holds cells) {cell : ℕ × α} (member : cell ∈ cells) :
    ∃ next, q.heap.lookup cell.1 = some ⟨cell.2, next⟩ := by
  obtain ⟨next, here⟩ := holds.linked.holds member
  obtain ⟨node, found, same⟩ := Option.map_eq_some_iff.mp here
  obtain ⟨element, -⟩ := Prod.mk.inj same
  exact ⟨node.next, by rw [found, ← element]⟩

theorem Holds.head_eq (holds : q.Holds cells) : q.head = firstOf cells none := holds.linked.start_eq

/-- The tail leads to the new node, if there was one, and the other nodes are as they were. -/
theorem Holds.linkNode (holds : q.Holds cells) (fresh : newNode ∉ q.heap) (element : α) :
    ∃ heap, q.linkNode newNode element = some heap ∧ links heap newNode = some (element, none) ∧
      (∀ address, address ∈ heap ↔ address = newNode ∨ address ∈ q.heap) ∧
      ∀ b, b ≠ newNode → links heap b =
        (links q.heap b).map fun held => if lastOf cells = some b then (held.1, some newNode) else held := by
  rcases List.eq_nil_or_concat cells with rfl | ⟨front, last, rfl⟩
  · have head : q.head = none := holds.head_eq
    refine ⟨q.heap.insert newNode { element }, by simp [SimpleQueue.linkNode, head], by simp [links], by simp, ?_⟩
    intro b different
    simp [links, different, Function.comp_def]
  · rw [List.concat_eq_append] at *
    obtain ⟨next, found⟩ := holds.lookup (List.mem_append_right front (List.mem_singleton_self last))
    have tail : q.tail = some last.1 := by rw [holds.tail (by simp), lastOf_concat]
    obtain ⟨first, head⟩ : ∃ first, q.head = some first := by
      rw [holds.head_eq]
      cases front <;> simp
    have different : last.1 ≠ newNode := by
      intro same
      rw [same] at found
      simp [AList.lookup_eq_none.mpr fresh] at found
    have stored := Heap.store_eq_some
      (show (q.heap.insert newNode { element }).lookup last.1 = some ⟨last.2, next⟩ by simpa [different] using found)
      fun node => { node with next := some newNode }
    refine ⟨_, by rw [SimpleQueue.linkNode, head, tail]; exact stored, by simp [links, different.symm], ?_, ?_⟩
    · intro address
      have member : last.1 ∈ q.heap := AList.lookup_isSome.mp (by simp [found])
      rw [AList.mem_insert, AList.mem_insert]
      constructor
      · rintro (rfl | elsewhere)
        · exact .inr member
        · exact elsewhere
      · exact .inr
    · intro b other
      by_cases isLast : b = last.1
      · subst isLast
        simp [links, found]
      · simp [links, other, isLast, Ne.symm isLast, Function.comp_def]

/-- The new node comes last. -/
theorem Holds.link (holds : q.Holds cells) (fresh : newNode ∉ q.heap) (element : α) :
    ∃ heap, q.link newNode element = some (q.lengthen heap newNode) ∧
      (q.lengthen heap newNode).Holds (cells ++ [(newNode, element)]) := by
  obtain ⟨heap, done, new, allocated, others⟩ := holds.linkNode fresh element
  have absent : newNode ∉ cells.map Prod.fst := mt (holds.allocated newNode).mpr fresh
  have linked : Linked (links heap) (if cells = [] then some newNode else q.head) (cells ++ (newNode, element) :: [])
      none := by
    have whole : Linked (links q.heap) q.head (cells ++ []) none := by simpa using holds.linked
    refine whole.insert ?_ ?_ new others
    · simpa using holds.nodup
    · simpa using absent
  refine ⟨heap, by rw [SimpleQueue.link, done, Option.map_some], ?_, ?_, ?_, ?_, ?_⟩
  · have head : q.head.or (some newNode) = if cells = [] then some newNode else q.head := by
      rw [holds.head_eq]
      cases cells <;> simp
    rw [lengthen, head]
    exact linked
  · rw [List.map_append, List.map_singleton, List.nodup_append]
    refine ⟨holds.nodup, List.nodup_singleton _, fun a member b isNew => ?_⟩
    rintro rfl
    rw [List.mem_singleton.mp isNew] at member
    exact absent member
  · intro address
    simp only [lengthen, List.map_append, List.mem_append, List.map_singleton, List.mem_singleton]
    rw [allocated, holds.allocated, or_comm]
  · intro
    simp [lengthen]
  · simp [lengthen, holds.size]

/-- The first node is deleted, and what it holds stays in memory. -/
theorem Holds.unlink (holds : q.Holds ((ref, element) :: cells)) :
    ∃ next, q.unlink = some (ref, q.shorten ref ⟨element, next⟩) ∧ (q.shorten ref ⟨element, next⟩).Holds cells := by
  obtain ⟨head, link, here, later⟩ := holds.linked
  obtain ⟨node, found, same⟩ := Option.map_eq_some_iff.mp here
  obtain ⟨rfl, rfl⟩ := Prod.mk.inj same
  have nodup := holds.nodup
  rw [List.map_cons, List.nodup_cons] at nodup
  refine ⟨node.next, by simp [SimpleQueue.unlink, head, found], ?_, nodup.2, fun address => ?_, fun nonempty => ?_, ?_⟩
  · refine later.congr fun cell member => ?_
    have different : cell.1 ≠ ref := by
      intro same
      exact nodup.1 (List.mem_map.mpr ⟨cell, member, same⟩)
    simp [shorten, links, different]
  · rw [shorten, AList.mem_erase, holds.allocated, List.map_cons, List.mem_cons]
    constructor
    · rintro ⟨different, member⟩
      exact member.resolve_left different
    · intro member
      refine ⟨?_, .inr member⟩
      rintro rfl
      exact nodup.1 member
  · rw [shorten, holds.tail (by simp), lastOf, List.getLast?_cons_of_ne_nil nonempty, lastOf]
  · simp [shorten, holds.size]

theorem Holds.overwrite (holds : q.Holds cells) (address : ℕ) (content : α) :
    (q.overwrite address content).Holds cells :=
  ⟨holds.linked, holds.nodup, holds.allocated, holds.tail, holds.size⟩

end SimpleQueue

end S3tp.Model.Core
