import S3tp.Machine.LinkedMemory
import S3tp.Model.Core.Packet
import S3tp.Model.Core.PriorityQueue

/-! # The priority queue in memory

The nodes of a priority queue as the code links them: each holds an element, a pointer to the node behind it and one
to the node before it, and the queue holds pointers to both ends. `none` is the null pointer. A result is `none` where
the code follows a pointer that is null or points to a deleted node, or fails an assertion.

The loops of `push` and `clear` have a turn for each allocated node and one more. A turn is at another node each time,
so that they never end early.
-/

namespace S3tp.Model.Core

open Machine

/-- `QUEUE_FULL`. -/
def queueFull : ℤ := -1

structure LinkedQueue (α : Type) where
  heap : Heap (LinkedNode α) := ∅
  head : Option ℕ := none
  tail : Option ℕ := none
  size : UInt16 := 0

namespace LinkedQueue

variable {α : Type}

def isEmpty (q : LinkedQueue α) : Bool := q.size == 0

def getSize (q : LinkedQueue α) : UInt16 := q.size

/-- A store to a node of the queue. -/
def store (q : LinkedQueue α) (address : ℕ) (change : LinkedNode α → LinkedNode α) : Option (LinkedQueue α) :=
  (q.heap.store address change).map fun heap => { q with heap }

/-- The number of nodes in memory. -/
def allocated (q : LinkedQueue α) : ℕ := q.heap.entries.length

def peek (q : LinkedQueue α) : Option α :=
  if q.isEmpty then none
  else do
    let head ← q.head
    let node ← q.heap.lookup head
    some node.element

def pop (q : LinkedQueue α) : Option (α × LinkedQueue α) :=
  if q.isEmpty then none
  else do
    let ref ← q.head
    let node ← q.heap.lookup ref
    let unlinked ← match node.next with
      | none => some { q with head := none, tail := none }
      | some next => ({ q with head := some next } : LinkedQueue α).store next fun node => { node with prev := none }
    some (node.element, { unlinked with heap := unlinked.heap.erase ref, size := q.size - 1 })

/-- The new node is linked behind `ref`. -/
def linkBehind (q : LinkedQueue α) (ref : ℕ) (swap : Option ℕ) (newNode : ℕ) : Option (LinkedQueue α) := do
  let q ← q.store ref fun node => { node with next := some newNode }
  let q ← q.store newNode fun node => { node with prev := some ref }
  let q ← q.store newNode fun node => { node with next := swap }
  match swap with
  | some swap => q.store swap fun node => { node with prev := some newNode }
  | none => some { q with tail := some newNode }

/-- The new node is linked before `ref`, the head. -/
def linkBefore (q : LinkedQueue α) (ref newNode : ℕ) : Option (LinkedQueue α) := do
  let q ← q.store ref fun node => { node with prev := some newNode }
  let q ← q.store newNode fun node => { node with next := some ref }
  some { q with head := some newNode }

/-- The loop of `push`: from `ref` towards the head, until the place of the new node is found. -/
def link (comparator : PolicyActor α) (element : α) (newNode : ℕ) :
    ℕ → LinkedQueue α → Option ℕ → Option (LinkedQueue α)
  | 0, _, _ => none
  | _ + 1, q, none => some { q with head := some newNode, tail := some newNode }
  | turns + 1, q, some ref => do
    let node ← q.heap.lookup ref
    if comparator.comparePriority node.element element < 0 then q.linkBehind ref node.next newNode
    else
      match node.prev with
      | none => q.linkBefore ref newNode
      | some prev => link comparator element newNode turns q (some prev)

/-- `push`, where `newNode` is what the allocator returns: an address without a node. -/
def push (q : LinkedQueue α) (newNode : ℕ) (element : α) (comparator : PolicyActor α) : Option (ℤ × LinkedQueue α) :=
  if maxQueueCapacity ≤ q.size.toNat then some (queueFull, q)
  else do
    let created : LinkedQueue α := { q with heap := q.heap.insert newNode { element } }
    let linked ← link comparator element newNode (created.allocated + 1) created created.tail
    some (codeSuccess, { linked with size := linked.size + 1 })

/-- The loop of `clear`. -/
def deleteAll : ℕ → LinkedQueue α → Option (LinkedQueue α)
  | 0, _ => none
  | turns + 1, q =>
    match q.head with
    | none => some q
    | some ref => do
      let node ← q.heap.lookup ref
      deleteAll turns { q with head := node.next, heap := q.heap.erase ref }

def clear (q : LinkedQueue α) : Option (LinkedQueue α) := do
  let deleted ← deleteAll (q.allocated + 1) q
  some { deleted with tail := deleted.head, size := 0 }

/-- The elements met on the way along the `next` pointers. -/
def walk (q : LinkedQueue α) : ℕ → Option ℕ → Option (List α)
  | 0, _ => none
  | _ + 1, none => some []
  | turns + 1, some ref => do
    let node ← q.heap.lookup ref
    let rest ← q.walk turns node.next
    some (node.element :: rest)

/-- The elements met from `getHead` on. -/
def elements (q : LinkedQueue α) : Option (List α) := q.walk (q.allocated + 1) q.head

/-! ## The list of the elements -/

/-- The nodes in memory, head first, are those of the list. -/
def Represents (q : LinkedQueue α) (p : PriorityQueue α) : Prop :=
  q.size = p.size ∧ ∃ cells, DoublyLinked q.heap q.head q.tail cells ∧ cells.map Prod.snd = p.nodes

theorem represents_empty : ({} : LinkedQueue α).Represents .empty := ⟨rfl, [], .empty, rfl⟩

theorem Represents.isEmpty_eq {q : LinkedQueue α} {p : PriorityQueue α} (represents : q.Represents p) :
    q.isEmpty = p.isEmpty := congrArg (· == 0) represents.1

theorem walk_eq {q : LinkedQueue α} {start : Option ℕ} {cells : List (ℕ × α)}
    (linked : Linked (nextLinks q.heap) start cells none) {turns : ℕ} (enough : cells.length < turns) :
    q.walk turns start = some (cells.map Prod.snd) := by
  induction cells generalizing start turns with
  | nil =>
    obtain ⟨turns, rfl⟩ : ∃ n, turns = n + 1 := ⟨turns - 1, by simp at enough; omega⟩
    obtain rfl : start = none := linked
    rfl
  | cons cell rest ih =>
    obtain ⟨turns, rfl⟩ : ∃ n, turns = n + 1 := ⟨turns - 1, by simp at enough; omega⟩
    obtain ⟨rfl, link, holds, later⟩ := linked
    obtain ⟨node, found, same⟩ := Option.map_eq_some_iff.mp holds
    obtain ⟨element, rfl⟩ := Prod.mk.inj same
    rw [walk, found]
    dsimp only [Option.bind_eq_bind, Option.bind_some]
    rw [ih later (by simpa using enough), List.map_cons, element]
    rfl

theorem Represents.elements_eq {q : LinkedQueue α} {p : PriorityQueue α} (represents : q.Represents p) :
    q.elements = some p.nodes := by
  obtain ⟨-, cells, linked, nodes⟩ := represents
  rw [elements, walk_eq linked.next (by rw [allocated, linked.length_entries]; omega), nodes]

section Link

variable {heap : Heap (LinkedNode α)} {head tail : Option ℕ} {size : UInt16} {l r : List (ℕ × α)}
  {ref newNode : ℕ} {y element : α} {comparator : PolicyActor α}

/-- The queue with the new node in memory, not linked yet. -/
def created (heap : Heap (LinkedNode α)) (head tail : Option ℕ) (size : UInt16) (newNode : ℕ) (element : α) :
    LinkedQueue α := ⟨heap.insert newNode { element }, head, tail, size⟩

theorem store_eq {q : LinkedQueue α} {address : ℕ} (node : LinkedNode α) (here : q.heap.lookup address = some node)
    (change : LinkedNode α → LinkedNode α) :
    q.store address change = some { q with heap := q.heap.insert address (change node) } := by
  rw [store, Heap.store_eq_some here]
  rfl

theorem ne_of_fresh {node : LinkedNode α} (here : heap.lookup ref = some node) (fresh : newNode ∉ heap) :
    ref ≠ newNode := by
  rintro rfl
  rw [AList.lookup_eq_none.mpr fresh] at here
  contradiction

theorem linkBehind_eq (linked : DoublyLinked heap head tail (l ++ (ref, y) :: r)) (fresh : newNode ∉ heap) :
    ∃ q, (created heap head tail size newNode element).linkBehind ref (firstOf r none) newNode = some q ∧
      DoublyLinked q.heap q.head q.tail ((l ++ [(ref, y)]) ++ (newNode, element) :: r) ∧ q.size = size := by
  have here := linked.lookup
  have whole : DoublyLinked heap head tail ((l ++ [(ref, y)]) ++ r) := by simpa using linked
  have other := ne_of_fresh here fresh
  rw [linkBehind, store_eq _ (by simpa [created, other] using here)]
  dsimp only [Option.bind_eq_bind, Option.bind_some]
  rw [store_eq { element } (by simp [created, other.symm])]
  dsimp only [Option.bind_eq_bind, Option.bind_some]
  rw [store_eq _ (AList.lookup_insert _)]
  dsimp only [Option.bind_eq_bind, Option.bind_some, created]
  cases r with
  | nil =>
    refine ⟨_, rfl, whole.insert fresh (by simp) (fun b different => ?_) (by simp) (by simp), rfl⟩
    by_cases isRef : b = ref
    · subst isRef
      simp [different, here]
    · simp [different, isRef, Ne.symm isRef]
  | cons next rest =>
    obtain ⟨swap, z⟩ := next
    have beyond : heap.lookup swap = some ⟨z, firstOf rest none, some ref⟩ := by
      have split : DoublyLinked heap head tail ((l ++ [(ref, y)]) ++ (swap, z) :: rest) := whole
      simpa using split.lookup
    have notNew := ne_of_fresh beyond fresh
    have notRef : swap ≠ ref := by
      rintro rfl
      have nodup := linked.nodup
      simp [List.nodup_append] at nodup
    rw [firstOf_cons]
    dsimp only
    rw [store_eq ⟨z, firstOf rest none, some ref⟩ (by simpa [notNew, notRef] using beyond)]
    refine ⟨_, rfl, whole.insert fresh (by simp [notNew.symm]) (fun b different => ?_) (by simp) (by simp), rfl⟩
    by_cases isSwap : b = swap
    · subst isSwap
      simp [notRef.symm, beyond]
    · by_cases isRef : b = ref
      · subst isRef
        simp [different, here, notRef, isSwap]
      · simp [different, isRef, Ne.symm isRef, isSwap, Ne.symm isSwap]

/-- The node before which the new one is linked is the first. -/
theorem linkBefore_eq (linked : DoublyLinked heap head tail ((ref, y) :: r)) (fresh : newNode ∉ heap) :
    ∃ q, (created heap head tail size newNode element).linkBefore ref newNode = some q ∧
      DoublyLinked q.heap q.head q.tail ((newNode, element) :: (ref, y) :: r) ∧ q.size = size := by
  have here := (show DoublyLinked heap head tail ([] ++ (ref, y) :: r) from linked).lookup
  have other := ne_of_fresh here fresh
  rw [linkBefore, store_eq _ (by simpa [created, other] using here)]
  dsimp only [Option.bind_eq_bind, Option.bind_some]
  rw [store_eq { element } (by simp [created, other.symm])]
  dsimp only [Option.bind_eq_bind, Option.bind_some, created]
  have whole : DoublyLinked heap head tail ([] ++ ((ref, y) :: r)) := linked
  refine ⟨_, rfl, whole.insert fresh (by simp) (fun b different => ?_) (by simp) (by simp), rfl⟩
  by_cases isRef : b = ref
  · subst isRef
    simp [different, here]
  · simp [different, isRef, Ne.symm isRef]

/-- Where the new node is linked: in front of the nodes that were passed over, behind the last one that has priority
over it. -/
theorem link_eq (linked : DoublyLinked heap head tail (l ++ r)) (fresh : newNode ∉ heap)
    (passed : ∀ cell ∈ r, ¬ comparator.comparePriority cell.2 element < 0) (start : l = [] → r = []) {turns : ℕ}
    (enough : l.length < turns) :
    ∃ q front back, link comparator element newNode turns (created heap head tail size newNode element) (lastOf l) =
        some q ∧ DoublyLinked q.heap q.head q.tail (front ++ (newNode, element) :: back) ∧ q.size = size ∧
      front ++ back = l ++ r ∧ (∀ cell ∈ front.getLast?, comparator.comparePriority cell.2 element < 0) ∧
      ∀ cell ∈ back, ¬ comparator.comparePriority cell.2 element < 0 := by
  induction l using List.reverseRecOn generalizing r turns with
  | nil =>
    obtain rfl := start rfl
    obtain ⟨turns, rfl⟩ : ∃ n, turns = n + 1 := ⟨turns - 1, by simp at enough; omega⟩
    refine ⟨_, [], [], rfl, ?_, rfl, rfl, by simp, by simp⟩
    refine linked.insert fresh (by simp [created]) (fun b different => ?_) (by simp) (by simp)
    simp [created, different]
  | append_singleton l last ih =>
    obtain ⟨ref, y⟩ := last
    obtain ⟨turns, rfl⟩ : ∃ n, turns = n + 1 := ⟨turns - 1, by omega⟩
    have whole : DoublyLinked heap head tail (l ++ (ref, y) :: r) := by simpa using linked
    have here := whole.lookup
    have other := ne_of_fresh here fresh
    have found : (created heap head tail size newNode element).heap.lookup ref =
        some ⟨y, firstOf r none, lastOf l⟩ := by simpa [created, other] using here
    rw [lastOf_concat, link, found]
    dsimp only [Option.bind_eq_bind, Option.bind_some]
    by_cases ahead : comparator.comparePriority y element < 0
    · rw [if_pos ahead]
      obtain ⟨q, done, after, sameSize⟩ := @linkBehind_eq _ heap head tail size l r ref newNode y element whole fresh
      exact ⟨q, l ++ [(ref, y)], r, done, after, sameSize, rfl, by simpa using ahead, passed⟩
    · rw [if_neg ahead]
      have passed' : ∀ cell ∈ (ref, y) :: r, ¬ comparator.comparePriority cell.2 element < 0 :=
        List.forall_mem_cons.mpr ⟨ahead, passed⟩
      have enough' : l.length < turns := by simpa using enough
      rcases List.eq_nil_or_concat l with rfl | ⟨earlier, before, rfl⟩
      · obtain ⟨q, done, after, sameSize⟩ := @linkBefore_eq _ heap head tail size r ref newNode y element whole fresh
        exact ⟨q, [], (ref, y) :: r, done, after, sameSize, rfl, by simp, passed'⟩
      · have further := ih whole passed' (by simp) enough'
        rw [List.concat_eq_append] at *
        rw [lastOf_concat] at *
        simpa using further

end Link

section Operations

variable {q : LinkedQueue α} {p p' : PriorityQueue α} {element : α}

theorem peek_eq (represents : q.Represents p) (holding : q.isEmpty = false) : q.peek = p.peek := by
  obtain ⟨-, cells, linked, nodes⟩ := represents
  rw [peek, holding, if_neg Bool.false_ne_true, linked.head_eq, PriorityQueue.peek, ← nodes]
  cases cells with
  | nil => rfl
  | cons cell rest =>
    have here : q.heap.lookup cell.1 = _ := (show DoublyLinked _ _ _ ([] ++ cell :: rest) from linked).lookup
    simp [here]

/-- A push links the new node where the list takes the element. -/
theorem push_represents (represents : q.Represents p) {newNode : ℕ} (fresh : newNode ∉ q.heap) (element : α)
    (comparator : PolicyActor α) : ∃ q' p', q.push newNode element comparator = some (codeSuccess, q') ∧
      p.push element comparator = some p' ∧ q'.Represents p' := by
  obtain ⟨sameSize, cells, linked, nodes⟩ := represents
  have room : ¬ maxQueueCapacity ≤ q.size.toNat := by
    have bound : q.size.toNat < 2 ^ 16 := q.size.toNat_lt
    simp only [maxQueueCapacity, maxQueueSize]
    omega
  have enough : cells.length < (created q.heap q.head q.tail q.size newNode element).allocated + 1 := by
    rw [allocated, created, AList.entries_insert_of_notMem fresh, List.length_cons, linked.length_entries]
    omega
  have whole : DoublyLinked q.heap q.head q.tail (cells ++ []) := by simpa using linked
  obtain ⟨linkedQueue, front, back, found, after, kept, split, last, passed⟩ :=
    @link_eq _ _ _ _ q.size _ _ _ element comparator whole fresh (by simp) (fun _ => rfl) _ enough
  refine ⟨{ linkedQueue with size := linkedQueue.size + 1 }, _, ?_, PriorityQueue.push_eq p element comparator, ?_⟩
  · rw [push, if_neg room]
    rw [← linked.tail_eq, created] at found
    simp [found]
  · refine ⟨by simp [kept, sameSize], _, after, ?_⟩
    have same : p.nodes = front.map Prod.snd ++ back.map Prod.snd := by
      rw [← nodes, ← List.map_append, split, List.append_nil]
    rw [same, List.insertFromTail_append]
    · simp
    · intro y isLast
      obtain ⟨cell, member, rfl⟩ : ∃ cell ∈ front.getLast?, cell.2 = y := by simpa using isLast
      simpa using last cell member
    · intro y isPassed
      obtain ⟨cell, member, rfl⟩ := List.mem_map.mp isPassed
      simpa using passed cell member

/-- A pop unlinks and deletes the head. -/
theorem pop_represents (represents : q.Represents p) (holding : q.isEmpty = false)
    (popped : p.pop = some (element, p')) : ∃ q', q.pop = some (element, q') ∧ q'.Represents p' := by
  obtain ⟨sameSize, cells, linked, nodes⟩ := represents
  obtain ⟨behind, smaller⟩ := PriorityQueue.pop_eq_some popped
  obtain _ | ⟨⟨ref, first⟩, rest⟩ := cells
  · simp [behind] at nodes
  obtain ⟨rfl, rest_eq⟩ : first = element ∧ rest.map Prod.snd = p'.nodes := by simpa [behind] using nodes
  have here := (show DoublyLinked q.heap q.head q.tail ([] ++ (ref, first) :: rest) from linked).lookup
  rw [pop, holding, if_neg Bool.false_ne_true, linked.head_eq, firstOf_cons]
  dsimp only [Option.bind_eq_bind, Option.bind_some]
  rw [here]
  dsimp only [Option.bind_some]
  cases rest with
  | nil =>
    refine ⟨_, rfl, by rw [smaller, sameSize], [], ?_, rest_eq⟩
    refine linked.tail_of_cons (by simp) (fun b different => ?_) rfl rfl
    simp [different]
  | cons next rest =>
    obtain ⟨swap, y⟩ := next
    have beyond : q.heap.lookup swap = some ⟨y, firstOf rest none, some ref⟩ := by
      have split : DoublyLinked q.heap q.head q.tail ([(ref, first)] ++ (swap, y) :: rest) := linked
      simpa [lastOf] using split.lookup
    have notRef : swap ≠ ref := by
      rintro rfl
      have nodup := linked.nodup
      simp at nodup
    rw [firstOf_cons]
    dsimp only
    rw [@store_eq _ { q with head := some swap } swap _ beyond]
    dsimp only [Option.bind_some]
    refine ⟨_, rfl, by rw [smaller, sameSize], (swap, y) :: rest, ?_, rest_eq⟩
    refine linked.tail_of_cons (by simp) (fun b different => ?_) rfl (by simp)
    by_cases isSwap : b = swap
    · subst isSwap
      simp [different, beyond]
    · simp [different, isSwap, Ne.symm isSwap]

/-- The loop of `clear` deletes every node. It follows the links towards the tail only. -/
theorem deleteAll_eq {cells : List (ℕ × α)} (linked : Linked (nextLinks q.heap) q.head cells none)
    (nodup : (cells.map Prod.fst).Nodup) (allocated : ∀ address, address ∈ q.heap ↔ address ∈ cells.map Prod.fst)
    {turns : ℕ} (enough : cells.length < turns) :
    ∃ q', deleteAll turns q = some q' ∧ q'.head = none ∧ ∀ address, address ∉ q'.heap := by
  induction cells generalizing q turns with
  | nil =>
    obtain ⟨turns, rfl⟩ : ∃ n, turns = n + 1 := ⟨turns - 1, by simp at enough; omega⟩
    have done : q.head = none := linked
    exact ⟨q, by simp [deleteAll, done], done, fun address => by simp [allocated]⟩
  | cons cell rest ih =>
    obtain ⟨turns, rfl⟩ : ∃ n, turns = n + 1 := ⟨turns - 1, by simp at enough; omega⟩
    obtain ⟨here, link, holds, later⟩ := linked
    obtain ⟨node, found, same⟩ := Option.map_eq_some_iff.mp holds
    obtain ⟨-, next⟩ := Prod.mk.inj same
    rw [List.map_cons, List.nodup_cons] at nodup
    rw [deleteAll, here]
    dsimp only [Option.bind_eq_bind]
    rw [found, Option.bind_some]
    refine ih ?_ nodup.2 (fun address => ?_) (by simpa using enough)
    · dsimp only
      rw [next]
      refine later.congr fun other member => ?_
      have different : other.1 ≠ cell.1 := by
        intro sameAddress
        exact nodup.1 (List.mem_map.mpr ⟨other, member, sameAddress⟩)
      simp [nextLinks, different]
    · rw [AList.mem_erase, allocated address, List.map_cons, List.mem_cons]
      constructor
      · rintro ⟨different, member⟩
        exact member.resolve_left different
      · intro member
        refine ⟨?_, .inr member⟩
        rintro rfl
        exact nodup.1 member

theorem clear_represents (represents : q.Represents p) : ∃ q', q.clear = some q' ∧ q'.Represents p.clear := by
  obtain ⟨-, cells, linked, -⟩ := represents
  have enough : cells.length < q.allocated + 1 := by
    rw [allocated, linked.length_entries]
    omega
  obtain ⟨deleted, done, head, gone⟩ := deleteAll_eq linked.next linked.nodup linked.allocated enough
  refine ⟨{ deleted with tail := deleted.head, size := 0 }, by simp [clear, done], rfl, [], ?_, rfl⟩
  exact ⟨head, head, List.nodup_nil, fun address => by simp [gone address]⟩

end Operations

end LinkedQueue

end S3tp.Model.Core
