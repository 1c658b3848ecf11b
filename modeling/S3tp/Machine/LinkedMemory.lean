import Mathlib.Data.List.AList
import Mathlib.Tactic.Common

/-! # Lists linked in memory

A memory says for each address what the node there holds: its element, and the node its link points to, if any.
Whoever follows the links from a pointer visits the nodes of a list one after another, until the links lead to where
the list ends. Allocated nodes make up a heap, and a node of a heap may have links in two directions.

The cells of a list are the addresses of its nodes with their elements.
-/

namespace S3tp.Machine

section Linked

variable {ι α : Type*} {links links' : ι → Option (α × Option ι)} {start stop : Option ι}
  {cells l r : List (ι × α)} {a : ι} {x : α}

/-- Following the links from `start` visits the cells and leads to `stop`. -/
def Linked (links : ι → Option (α × Option ι)) : Option ι → List (ι × α) → Option ι → Prop
  | start, [], stop => start = stop
  | start, (a, x) :: rest, stop => start = some a ∧ ∃ link, links a = some (x, link) ∧ Linked links link rest stop

/-- The address of the first cell, or what comes after the cells if there is none. -/
def firstOf (cells : List (ι × α)) (stop : Option ι) : Option ι := (cells.head?.map Prod.fst).or stop

/-- The address of the last cell. -/
def lastOf (cells : List (ι × α)) : Option ι := cells.getLast?.map Prod.fst

@[simp] theorem firstOf_nil (stop : Option ι) : firstOf ([] : List (ι × α)) stop = stop := rfl

@[simp] theorem firstOf_cons (cell : ι × α) (stop : Option ι) : firstOf (cell :: cells) stop = some cell.1 := rfl

@[simp] theorem lastOf_nil : lastOf ([] : List (ι × α)) = none := rfl

@[simp] theorem lastOf_concat (cell : ι × α) : lastOf (cells ++ [cell]) = some cell.1 := by simp [lastOf]

@[simp] theorem lastOf_reverse : lastOf cells.reverse = firstOf cells none := by
  cases cells <;> simp [lastOf, firstOf]

theorem firstOf_reverse : firstOf cells.reverse none = lastOf cells := by
  rw [← lastOf_reverse, List.reverse_reverse]

namespace Linked

theorem start_eq (linked : Linked links start cells stop) : start = firstOf cells stop := by
  cases cells with
  | nil => exact linked
  | cons cell rest => exact linked.1

theorem append_iff : Linked links start (l ++ r) stop ↔
    ∃ mid, Linked links start l mid ∧ Linked links mid r stop := by
  induction l generalizing start with
  | nil => simp [Linked]
  | cons cell rest ih =>
    simp only [List.cons_append, Linked, ih]
    constructor
    · rintro ⟨here, link, holds, mid, front, back⟩
      exact ⟨mid, ⟨here, link, holds, front⟩, back⟩
    · rintro ⟨mid, ⟨here, link, holds, front⟩, back⟩
      exact ⟨here, link, holds, mid, front, back⟩

/-- Only what the visited nodes hold counts. -/
theorem congr (same : ∀ cell ∈ cells, links' cell.1 = links cell.1) (linked : Linked links start cells stop) :
    Linked links' start cells stop := by
  induction cells generalizing start with
  | nil => exact linked
  | cons cell rest ih =>
    obtain ⟨here, link, holds, later⟩ := linked
    refine ⟨here, link, (same cell (by simp)).trans holds, ih (fun other member => same other (by simp [member])) later⟩

theorem holds (linked : Linked links start cells stop) {cell : ι × α} (member : cell ∈ cells) :
    ∃ link, links cell.1 = some (cell.2, link) := by
  induction cells generalizing start with
  | nil => simp at member
  | cons first rest ih =>
    obtain ⟨-, link, holds, later⟩ := linked
    rcases List.mem_cons.mp member with rfl | elsewhere
    · exact ⟨link, holds⟩
    · exact ih later elsewhere

/-- Links lead to the null pointer in one way only. -/
theorem unique (linked : Linked links start l none) (linked' : Linked links start r none) : l = r := by
  induction l generalizing start r with
  | nil =>
    cases r with
    | nil => rfl
    | cons cell rest => exact absurd (linked.symm.trans linked'.1) (by simp)
  | cons cell rest ih =>
    obtain ⟨here, link, holds, later⟩ := linked
    cases r with
    | nil => exact absurd (here.symm.trans linked') (by simp)
    | cons cell' rest' =>
      obtain ⟨here', link', holds', later'⟩ := linked'
      have address : cell.1 = cell'.1 := Option.some.inj (here.symm.trans here')
      rw [address, holds'] at holds
      obtain ⟨element, rfl⟩ := Prod.mk.inj (Option.some.inj holds)
      rw [ih later later', Prod.ext address element.symm]

/-- The link of the last cell is changed. -/
theorem redirect {stop' : Option ι} (linked : Linked links start (l ++ [(a, x)]) stop)
    (last : links' a = some (x, stop')) (same : ∀ cell ∈ l, links' cell.1 = links cell.1) :
    Linked links' start (l ++ [(a, x)]) stop' := by
  obtain ⟨mid, front, here, -⟩ := append_iff.mp linked
  exact append_iff.mpr ⟨mid, front.congr same, here, stop', last, rfl⟩

/-- A cell is put between two parts of the list: the last link of the first part, if any, leads to it now, and its
own link to the second part. -/
theorem insert [DecidableEq ι] (linked : Linked links start (l ++ r) stop)
    (nodup : ((l ++ r).map Prod.fst).Nodup) (fresh : a ∉ (l ++ r).map Prod.fst)
    (new : links' a = some (x, firstOf r stop))
    (others : ∀ b, b ≠ a → links' b = (links b).map fun held => if lastOf l = some b then (held.1, some a) else held) :
    Linked links' (if l = [] then some a else start) (l ++ (a, x) :: r) stop := by
  obtain ⟨mid, front, back⟩ := append_iff.mp linked
  have behind : Linked links' (some a) ((a, x) :: r) stop := by
    refine ⟨rfl, firstOf r stop, new, ?_⟩
    rw [← back.start_eq]
    refine back.congr fun cell member => ?_
    have different : cell.1 ≠ a := by
      rintro rfl
      exact fresh (List.mem_map_of_mem (List.mem_append_right l member))
    have notLast : lastOf l ≠ some cell.1 := by
      intro last
      obtain ⟨other, isLast, same⟩ := Option.map_eq_some_iff.mp last
      rw [List.map_append, List.nodup_append] at nodup
      exact nodup.2.2 other.1 (List.mem_map_of_mem (List.mem_of_getLast? isLast)) cell.1
        (List.mem_map_of_mem member) same
    rw [others _ different]
    simp [notLast]
  refine append_iff.mpr ⟨some a, ?_, behind⟩
  rcases List.eq_nil_or_concat l with rfl | ⟨front', ⟨b, y⟩, rfl⟩
  · rfl
  rw [List.concat_eq_append] at *
  rw [if_neg (by simp)]
  obtain ⟨before, earlier, here, link, holds, -⟩ := append_iff.mp front
  have address (cell : ι × α) (member : cell ∈ front' ++ [(b, y)]) : cell.1 ≠ a := by
    rintro rfl
    exact fresh (List.mem_map_of_mem (List.mem_append_left r member))
  refine append_iff.mpr ⟨before, earlier.congr fun cell member => ?_, here, some a, ?_, rfl⟩
  · have different : b ≠ cell.1 := by
      rw [List.map_append, List.nodup_append, List.map_append, List.nodup_append] at nodup
      exact (nodup.1.2.2 cell.1 (List.mem_map_of_mem member) b (by simp)).symm
    rw [others _ (address cell (by simp [member]))]
    simp [different]
  · rw [others _ (address (b, y) (by simp)), holds]
    simp

end Linked

end Linked

/-! ## Nodes linked both ways -/

/-- A node of a list linked in both directions. A null link is `none`. -/
structure LinkedNode (α : Type*) where
  element : α
  next : Option ℕ := none
  prev : Option ℕ := none
deriving DecidableEq

/-- The allocated nodes by their addresses. -/
abbrev Heap (N : Type*) := AList fun _ : ℕ => N

/-- What gives out addresses for new nodes: one without a node, whatever is allocated. -/
structure Allocator (N : Type*) where
  address : Heap N → ℕ
  fresh : ∀ heap, address heap ∉ heap

/-- The allocator that gives out the address above all in use. -/
def Allocator.above (N : Type*) : Allocator N where
  address heap := heap.keys.foldr max 0 + 1
  fresh heap := by
    have bound {keys : List ℕ} {a : ℕ} (member : a ∈ keys) : a ≤ keys.foldr max 0 := by
      induction keys with
      | nil => simp at member
      | cons key rest ih =>
        rcases List.mem_cons.mp member with rfl | later
        · exact Nat.le_max_left _ _
        · exact Nat.le_trans (ih later) (Nat.le_max_right _ _)
    intro member
    have below := bound (AList.mem_keys.mp member)
    omega

/-- A store to a field of a node. There is no node to store to at an address that is not allocated. -/
def Heap.store {N : Type*} (heap : Heap N) (address : ℕ) (change : N → N) : Option (Heap N) :=
  (heap.lookup address).map fun node => heap.insert address (change node)

theorem Heap.store_eq_some {N : Type*} {heap : Heap N} {address : ℕ} {node : N}
    (allocated : heap.lookup address = some node) (change : N → N) :
    heap.store address change = some (heap.insert address (change node)) := by
  rw [store, allocated]
  rfl

section DoublyLinked

variable {α : Type*} {heap heap' : Heap (LinkedNode α)} {head tail head' tail' : Option ℕ}
  {cells l r : List (ℕ × α)} {a : ℕ} {x : α}

/-- The links of the heap towards the tail. -/
def nextLinks (heap : Heap (LinkedNode α)) (address : ℕ) : Option (α × Option ℕ) :=
  (heap.lookup address).map fun node => (node.element, node.next)

/-- The links of the heap towards the head. -/
def prevLinks (heap : Heap (LinkedNode α)) (address : ℕ) : Option (α × Option ℕ) :=
  (heap.lookup address).map fun node => (node.element, node.prev)

/-- The cells are linked in both directions, and nothing else is allocated. -/
structure DoublyLinked (heap : Heap (LinkedNode α)) (head tail : Option ℕ) (cells : List (ℕ × α)) : Prop where
  next : Linked (nextLinks heap) head cells none
  prev : Linked (prevLinks heap) tail cells.reverse none
  nodup : (cells.map Prod.fst).Nodup
  allocated : ∀ address, address ∈ heap ↔ address ∈ cells.map Prod.fst

namespace DoublyLinked

theorem empty : DoublyLinked (∅ : Heap (LinkedNode α)) none none [] where
  next := rfl
  prev := rfl
  nodup := List.nodup_nil
  allocated address := by simp

theorem head_eq (linked : DoublyLinked heap head tail cells) : head = firstOf cells none := linked.next.start_eq

theorem tail_eq (linked : DoublyLinked heap head tail cells) : tail = lastOf cells :=
  linked.prev.start_eq.trans firstOf_reverse

/-- There are as many nodes as cells. -/
theorem length_entries (linked : DoublyLinked heap head tail cells) : heap.entries.length = cells.length := by
  have perm : heap.keys.Perm (cells.map Prod.fst) :=
    (List.perm_ext_iff_of_nodup heap.keys_nodup linked.nodup).mpr fun address => linked.allocated address
  simpa [AList.keys, List.keys] using perm.length_eq

/-- What the node between two parts of the list holds. -/
theorem lookup (linked : DoublyLinked heap head tail (l ++ (a, x) :: r)) :
    heap.lookup a = some ⟨x, firstOf r none, lastOf l⟩ := by
  obtain ⟨mid, -, -, link, holds, later⟩ := Linked.append_iff.mp linked.next
  have backwards := linked.prev
  rw [List.reverse_append, List.reverse_cons, List.append_assoc] at backwards
  obtain ⟨mid', -, -, link', holds', earlier⟩ := Linked.append_iff.mp backwards
  obtain ⟨node, found, same⟩ := Option.map_eq_some_iff.mp holds
  obtain ⟨node', found', same'⟩ := Option.map_eq_some_iff.mp holds'
  obtain rfl := Option.some.inj (found.symm.trans found')
  rw [later.start_eq] at same
  change Linked _ link' l.reverse none at earlier
  rw [earlier.start_eq, firstOf_reverse] at same'
  obtain ⟨rfl, next⟩ := Prod.mk.inj same
  rw [found, ← next, ← (Prod.mk.inj same').2]

/-- A new node is put between two parts of the list, and its neighbours are linked to it. -/
theorem insert (linked : DoublyLinked heap head tail (l ++ r)) (fresh : a ∉ heap)
    (new : heap'.lookup a = some ⟨x, firstOf r none, lastOf l⟩)
    (others : ∀ b, b ≠ a → heap'.lookup b = (heap.lookup b).map fun node =>
      { node with next := if lastOf l = some b then some a else node.next
                  prev := if firstOf r none = some b then some a else node.prev })
    (isHead : head' = if l = [] then some a else head) (isTail : tail' = if r = [] then some a else tail) :
    DoublyLinked heap' head' tail' (l ++ (a, x) :: r) where
  next := by
    rw [isHead]
    refine linked.next.insert linked.nodup (mt (linked.allocated a).mpr fresh) (by simp [nextLinks, new]) ?_
    intro b other
    simp only [nextLinks, others b other, Option.map_map]
    congr 1
    funext node
    by_cases last : lastOf l = some b <;> simp [last]
  prev := by
    have backwards := linked.prev
    rw [List.reverse_append] at backwards
    have nodup : ((r.reverse ++ l.reverse).map Prod.fst).Nodup := by
      rw [← List.reverse_append, List.map_reverse]
      exact List.nodup_reverse.mpr linked.nodup
    have absent : a ∉ (r.reverse ++ l.reverse).map Prod.fst := by
      rw [← List.reverse_append, List.map_reverse, List.mem_reverse]
      exact mt (linked.allocated a).mpr fresh
    have inserted : Linked (prevLinks heap') (if r.reverse = [] then some a else tail)
        (r.reverse ++ (a, x) :: l.reverse) none := by
      refine backwards.insert nodup absent (by simp [prevLinks, new, firstOf_reverse]) ?_
      intro b other
      simp only [prevLinks, others b other, Option.map_map, lastOf_reverse]
      congr 1
      funext node
      by_cases first : firstOf r none = some b <;> simp [first]
    simpa [isTail] using inserted
  nodup := by
    have absent := mt (linked.allocated a).mpr fresh
    have nodup := linked.nodup
    rw [List.map_append, List.map_cons, List.nodup_middle, List.nodup_cons, ← List.map_append]
    exact ⟨absent, nodup⟩
  allocated b := by
    rcases Classical.em (b = a) with rfl | other
    · simp [← AList.lookup_isSome, new]
    · rw [← AList.lookup_isSome, others b other, Option.isSome_map, AList.lookup_isSome, linked.allocated b]
      simp [other]

/-- The first node is unlinked and deleted, and the one behind it has none before it now. -/
theorem tail_of_cons (linked : DoublyLinked heap head tail ((a, x) :: cells)) (gone : heap'.lookup a = none)
    (others : ∀ b, b ≠ a → heap'.lookup b = (heap.lookup b).map fun node =>
      { node with prev := if firstOf cells none = some b then none else node.prev })
    (isHead : head' = firstOf cells none) (isTail : tail' = if cells = [] then none else tail) :
    DoublyLinked heap' head' tail' cells := by
  rw [isHead, isTail]
  have nodup := linked.nodup
  rw [List.map_cons, List.nodup_cons] at nodup
  have different (cell : ℕ × α) (member : cell ∈ cells) : cell.1 ≠ a := by
    intro same
    exact nodup.1 (List.mem_map.mpr ⟨cell, member, same⟩)
  refine ⟨?_, ?_, nodup.2, fun b => ?_⟩
  · obtain ⟨-, link, -, later⟩ := linked.next
    rw [← later.start_eq]
    refine later.congr fun cell member => ?_
    simp [nextLinks, others _ (different cell member), Option.map_map, Function.comp_def]
  · cases cells with
    | nil => rfl
    | cons first rest =>
      obtain ⟨c, y⟩ := first
      have backwards := linked.prev
      rw [List.reverse_cons, Linked.append_iff] at backwards
      obtain ⟨mid, later, -⟩ := backwards
      rw [List.reverse_cons] at later ⊢
      rw [if_neg (by simp)]
      refine later.redirect ?_ fun cell member => ?_
      · obtain ⟨link, holds⟩ := later.holds (List.mem_append_right _ (List.mem_singleton_self (c, y)))
        obtain ⟨node, found, same⟩ := Option.map_eq_some_iff.mp holds
        simp [prevLinks, others c (different (c, y) (by simp)), found, (Prod.mk.inj same).1]
      · have member : cell ∈ rest := List.mem_reverse.mp member
        have notFirst : c ≠ cell.1 := by
          intro same
          rw [List.map_cons, List.nodup_cons] at nodup
          exact nodup.2.1 (List.mem_map.mpr ⟨cell, member, same.symm⟩)
        simp [prevLinks, others _ (different cell (by simp [member])), notFirst]
  · rcases Classical.em (b = a) with rfl | other
    · simp [← AList.lookup_isSome, gone, nodup.1]
    · rw [← AList.lookup_isSome, others b other, Option.isSome_map, AList.lookup_isSome, linked.allocated b]
      simp [other]

end DoublyLinked

end DoublyLinked

end S3tp.Machine
