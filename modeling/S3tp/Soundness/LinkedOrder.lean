import S3tp.Machine.Run
import S3tp.Model.Core.LinkedQueue
import Mathlib.Data.Multiset.AddSub

/-! # Order and structure of the linked queue

A queue whose elements a total preorder compares: in every state a sequence of pushes, pops and clears leads to, the
nodes are linked both ways, highest priority first, and hold what was pushed since the last clear and not popped.

An element that is pushed takes a node at any address the allocator has not given away. The size field has 16 bits, and
says that a queue of 65536 nodes is empty; the queue is in order there too, and can be popped again after the next
push.
-/

namespace S3tp.Soundness

open Model.Core Machine

variable {α : Type}

/-- The signs of the comparison are those of a total preorder, in which what has priority comes first. -/
structure TotalPreorder (comparator : PolicyActor α) : Prop where
  swap : ∀ a b, comparator.comparePriority a b < 0 ↔ 0 < comparator.comparePriority b a
  trans : ∀ a b c, comparator.comparePriority a b ≤ 0 → comparator.comparePriority b c ≤ 0 →
    comparator.comparePriority a c ≤ 0

inductive LinkedEvent (α : Type) where
  | push (newNode : ℕ) (element : α)
  | pop
  | clear

def linkedStep (comparator : PolicyActor α) (q : LinkedQueue α) : LinkedEvent α → Option (LinkedQueue α)
  | .push newNode element => (q.push newNode element comparator).map Prod.snd
  | .pop => q.pop.map Prod.snd
  | .clear => q.clear

/-- A new node has an address of its own, and only a queue that does not say it is empty is popped. -/
def LinkedAllowed (q : LinkedQueue α) : LinkedEvent α → Prop
  | .push newNode _ => newNode ∉ q.heap
  | .pop => q.isEmpty = false
  | .clear => True

instance (q : LinkedQueue α) (event : LinkedEvent α) : Decidable (LinkedAllowed q event) :=
  match event with
  | .push newNode _ => inferInstanceAs (Decidable (newNode ∉ q.heap))
  | .pop => inferInstanceAs (Decidable (q.isEmpty = false))
  | .clear => inferInstanceAs (Decidable True)

/-- The elements pushed and popped since the last clear. -/
structure SinceClear (α : Type) where
  pushed : Multiset α := 0
  popped : Multiset α := 0

/-- What a step adds to the history. An element counts as pushed if the push reports success. -/
def sinceClear (comparator : PolicyActor α) (q : LinkedQueue α) (event : LinkedEvent α) (since : SinceClear α) :
    SinceClear α :=
  match event with
  | .push newNode element =>
    if (q.push newNode element comparator).map Prod.fst = some codeSuccess then
      { since with pushed := element ::ₘ since.pushed }
    else since
  | .pop =>
    match q.pop with
    | some (element, _) => { since with popped := element ::ₘ since.popped }
    | none => since
  | .clear => {}

/-- The elements met on the way from the head are met in reverse on the way from the tail, are those pushed and neither
popped nor cleared, and none has lower priority than a later one. A pop yields one that no other has priority over. -/
structure LinkedInOrder (comparator : PolicyActor α) (q : LinkedQueue α) (since : SinceClear α)
    (cells : List (ℕ × α)) : Prop where
  next : Linked (nextLinks q.heap) q.head cells none
  prev : Linked (prevLinks q.heap) q.tail cells.reverse none
  outstanding : since.popped + (cells.map Prod.snd : Multiset α) = since.pushed
  sorted : (cells.map Prod.snd).Pairwise fun a b => comparator.comparePriority a b ≤ 0
  pop : q.isEmpty = false → ∃ element q', q.pop = some (element, q') ∧ element ∈ cells.map Prod.snd ∧
    ∀ other ∈ cells.map Prod.snd, comparator.comparePriority element other ≤ 0

section Invariant

variable {comparator : PolicyActor α} {q q' : LinkedQueue α} {p : PriorityQueue α} {since : SinceClear α}

theorem TotalPreorder.refl (preorder : TotalPreorder comparator) (a : α) :
    comparator.comparePriority a a ≤ 0 := by
  have swap := preorder.swap a a
  omega

/-- The list the linked queue represents, sorted, and its length as the size field shows it. -/
structure SortedQueue (comparator : PolicyActor α) (q : LinkedQueue α) (since : SinceClear α)
    (p : PriorityQueue α) : Prop where
  represents : q.Represents p
  size : p.size = UInt16.ofNat p.nodes.length
  sorted : p.nodes.Pairwise fun a b => comparator.comparePriority a b ≤ 0
  outstanding : since.popped + (p.nodes : Multiset α) = since.pushed

theorem sortedQueue_empty : SortedQueue comparator {} {} .empty :=
  ⟨LinkedQueue.represents_empty, rfl, .nil, rfl⟩

/-- A queue that does not say it is empty has a head. -/
theorem SortedQueue.pop_eq (sorted : SortedQueue comparator q since p) (holding : q.isEmpty = false) :
    ∃ element rest q', p.nodes = element :: rest ∧ q.pop = some (element, q') ∧ q'.Represents ⟨rest, p.size - 1⟩ := by
  cases nodes : p.nodes with
  | nil =>
    have size := sorted.size
    rw [sorted.represents.isEmpty_eq, PriorityQueue.isEmpty, size, nodes] at holding
    simp at holding
  | cons element rest =>
    have popped : p.pop = some (element, ⟨rest, p.size - 1⟩) := by rw [PriorityQueue.pop, nodes]
    obtain ⟨q', stepped, represents⟩ := LinkedQueue.pop_represents sorted.represents holding popped
    exact ⟨element, rest, q', rfl, stepped, represents⟩

/-- The steps that are allowed go through, and keep the queue sorted. -/
theorem SortedQueue.step (preorder : TotalPreorder comparator) (sorted : SortedQueue comparator q since p)
    {event : LinkedEvent α} (allowed : LinkedAllowed q event) : ∃ q' p', linkedStep comparator q event = some q' ∧
      SortedQueue comparator q' (sinceClear comparator q event since) p' := by
  cases event with
  | push newNode element =>
    obtain ⟨q', p', stepped, pushed, represents⟩ :=
      LinkedQueue.push_represents sorted.represents allowed element comparator
    rw [PriorityQueue.push_eq] at pushed
    obtain rfl := Option.some.inj pushed
    refine ⟨q', _, by rw [linkedStep, stepped, Option.map_some], represents, ?_, ?_, ?_⟩
    · rw [List.length_insertFromTail, UInt16.ofNat_add, sorted.size]
      rfl
    · refine List.pairwise_insertFromTail _ _ preorder.trans (fun y before => ?_) (fun y behind => ?_) sorted.sorted
      · exact le_of_lt (of_decide_eq_true before)
      · have notBefore := of_decide_eq_false behind
        have swap := preorder.swap y element
        omega
    · simp only [sinceClear, stepped, Option.map_some, if_pos]
      rw [← sorted.outstanding, Multiset.coe_eq_coe.mpr (List.insertFromTail_perm _ element p.nodes),
        ← Multiset.cons_coe, Multiset.add_cons]
  | pop =>
    obtain ⟨element, rest, q', nodes, stepped, represents⟩ := sorted.pop_eq allowed
    refine ⟨q', _, by rw [linkedStep, stepped, Option.map_some], represents, ?_, ?_, ?_⟩
    · rw [sorted.size, nodes, List.length_cons, UInt16.ofNat_add]
      simp
    · have inOrder := sorted.sorted
      rw [nodes] at inOrder
      exact inOrder.of_cons
    · have outstanding := sorted.outstanding
      rw [nodes, ← Multiset.cons_coe, Multiset.add_cons] at outstanding
      simp only [sinceClear, stepped]
      rw [Multiset.cons_add, outstanding]
  | clear =>
    obtain ⟨q', stepped, represents⟩ := LinkedQueue.clear_represents sorted.represents
    exact ⟨q', _, stepped, represents, rfl, .nil, rfl⟩

/-- A sorted queue is in order. -/
theorem SortedQueue.linkedInOrder (preorder : TotalPreorder comparator) (sorted : SortedQueue comparator q since p) :
    ∃ cells, LinkedInOrder comparator q since cells := by
  obtain ⟨-, cells, linked, nodes⟩ := sorted.represents
  refine ⟨cells, linked.next, linked.prev, by rw [nodes, sorted.outstanding], by rw [nodes]; exact sorted.sorted, ?_⟩
  intro holding
  obtain ⟨element, rest, q', split, popped, -⟩ := sorted.pop_eq holding
  have inOrder := sorted.sorted
  rw [nodes, split]
  rw [split, List.pairwise_cons] at inOrder
  exact ⟨element, q', popped, by simp, List.forall_mem_cons.mpr ⟨preorder.refl element, inOrder.1⟩⟩

end Invariant

/-- In every state of every sequence of pushes, pops and clears the queue is in order, and what is allowed next goes
through; a push then reports success. -/
theorem linkedInOrder_of_preorder {comparator : PolicyActor α} (preorder : TotalPreorder comparator)
    {events : List (LinkedEvent α)} {q : LinkedQueue α} {since : SinceClear α}
    (run : Run (recorded (linkedStep comparator) (sinceClear comparator)) (fun state => LinkedAllowed state.1)
      ({}, {}) events (q, since)) :
    (∃ cells, LinkedInOrder comparator q since cells) ∧
      (∀ event, LinkedAllowed q event → ∃ q', linkedStep comparator q event = some q') ∧
      ∀ newNode element, newNode ∉ q.heap → ∃ q', q.push newNode element comparator = some (codeSuccess, q') := by
  have kept : ∃ p, SortedQueue comparator q since p := by
    refine run.invariant (P := fun state => ∃ p, SortedQueue comparator state.1 state.2 p) ?_ ⟨_, sortedQueue_empty⟩
    rintro ⟨q, since⟩ event ⟨q', since'⟩ ⟨p, sorted⟩ allowed stepped
    obtain ⟨stepped, rfl⟩ := recorded_eq_some_iff.mp stepped
    obtain ⟨next, p', stepped', after⟩ := sorted.step preorder allowed
    obtain rfl := Option.some.inj (stepped.symm.trans stepped')
    exact ⟨p', after⟩
  obtain ⟨p, sorted⟩ := kept
  refine ⟨sorted.linkedInOrder preorder, fun event allowed => ?_, fun newNode element fresh => ?_⟩
  · obtain ⟨q', -, stepped, -⟩ := sorted.step preorder allowed
    exact ⟨q', stepped⟩
  · obtain ⟨q', -, pushed, -⟩ := LinkedQueue.push_represents sorted.represents fresh element comparator
    exact ⟨q', pushed⟩

/-- Smaller numbers have priority. -/
def byNumber : PolicyActor ℕ where
  comparePriority a b := a - b
  isElementValid _ := true
  maximumWindowExceeded _ _ := false

/-- The heap that holds the nodes. -/
def heapOf (nodes : List (ℕ × LinkedNode ℕ)) : Heap (LinkedNode ℕ) :=
  nodes.foldr (fun cell heap => heap.insert cell.1 cell.2) ∅

/-- Three numbers, the smallest of which is popped, and a fourth that takes over the address. -/
def fourNumbers : List (LinkedEvent ℕ) := [.push 1 7, .push 2 3, .push 3 5, .pop, .push 2 9]

/-- The queue after the four numbers. -/
def threeLeft : LinkedQueue ℕ :=
  ⟨heapOf [(2, ⟨9, none, some 1⟩), (1, ⟨7, some 2, some 3⟩), (3, ⟨5, some 1, none⟩)], some 3, some 2, 3⟩

theorem run_fourNumbers : Run (recorded (linkedStep byNumber) (sinceClear byNumber))
    (fun state => LinkedAllowed state.1) ({}, {}) fourNumbers (threeLeft, ⟨{9, 5, 3, 7}, {3}⟩) := by
  have first : recorded (linkedStep byNumber) (sinceClear byNumber) ({}, {}) (.push 1 7) =
      some (⟨heapOf [(1, ⟨7, none, none⟩)], some 1, some 1, 1⟩, ⟨{7}, 0⟩) := rfl
  have second : recorded (linkedStep byNumber) (sinceClear byNumber)
      (⟨heapOf [(1, ⟨7, none, none⟩)], some 1, some 1, 1⟩, ⟨{7}, 0⟩) (.push 2 3) =
      some (⟨heapOf [(2, ⟨3, some 1, none⟩), (1, ⟨7, none, some 2⟩)], some 2, some 1, 2⟩, ⟨{3, 7}, 0⟩) := rfl
  have third : recorded (linkedStep byNumber) (sinceClear byNumber)
      (⟨heapOf [(2, ⟨3, some 1, none⟩), (1, ⟨7, none, some 2⟩)], some 2, some 1, 2⟩, ⟨{3, 7}, 0⟩) (.push 3 5) =
      some (⟨heapOf [(1, ⟨7, none, some 3⟩), (3, ⟨5, some 1, some 2⟩), (2, ⟨3, some 3, none⟩)], some 2, some 1, 3⟩,
        ⟨{5, 3, 7}, 0⟩) := rfl
  have fourth : recorded (linkedStep byNumber) (sinceClear byNumber)
      (⟨heapOf [(1, ⟨7, none, some 3⟩), (3, ⟨5, some 1, some 2⟩), (2, ⟨3, some 3, none⟩)], some 2, some 1, 3⟩,
        ⟨{5, 3, 7}, 0⟩) .pop =
      some (⟨heapOf [(3, ⟨5, some 1, none⟩), (1, ⟨7, none, some 3⟩)], some 3, some 1, 2⟩, ⟨{5, 3, 7}, {3}⟩) := rfl
  exact .cons (by decide) first (.cons (by decide) second (.cons (by decide) third (.cons (by decide) fourth
    (.cons (by decide) rfl (.nil _)))))

theorem linkedInOrder_of_preorder_fourNumbers :
    LinkedInOrder byNumber threeLeft ⟨{9, 5, 3, 7}, {3}⟩ [(3, 5), (1, 7), (2, 9)] := by
  have preorder : TotalPreorder byNumber :=
    ⟨fun a b => by simp [byNumber], fun a b c first second => by simp only [byNumber] at *; omega⟩
  obtain ⟨⟨cells, inOrder⟩, -, -⟩ := linkedInOrder_of_preorder preorder run_fourNumbers
  obtain rfl : cells = [(3, 5), (1, 7), (2, 9)] :=
    inOrder.next.unique ⟨rfl, some 1, rfl, rfl, some 2, rfl, rfl, none, rfl, rfl⟩
  exact inOrder

end S3tp.Soundness
