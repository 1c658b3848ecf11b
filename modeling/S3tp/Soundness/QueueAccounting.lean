import S3tp.Machine.Run
import S3tp.Model.Core.Buffer

/-! # Queue accounting

The size field of a queue has 16 bits, while the capacity a push tests it against is 104857: the test
never refuses an element, and the field wraps when the 65536th node is linked. Up to there the field
counts the nodes, and the counters of a buffer count its queues. The step to 65536 nodes is the only one
that breaks the accounting.
-/

namespace S3tp.Soundness

open Model.Core Machine

/-! ## Queues -/

inductive QueueEvent (α : Type*) where
  | push (element : α) (comparator : PolicyActor α)
  | pop
  | clear

/-- An element that is refused leaves the queue as it is. -/
def queueStep {α : Type*} (q : PriorityQueue α) : QueueEvent α → Option (PriorityQueue α)
  | .push element comparator => some ((q.push element comparator).getD q)
  | .pop => q.pop.map Prod.snd
  | .clear => some q.clear

/-- The size field counts the nodes, and decides emptiness and fullness. -/
structure Accounts {α : Type*} (q : PriorityQueue α) : Prop where
  size : q.getSize.toNat = q.nodes.length
  empty : q.isEmpty = true ↔ q.nodes = []
  bounded : q.nodes.length ≤ maxQueueCapacity
  full : ∀ element comparator, q.push element comparator = none ↔ q.nodes.length = maxQueueCapacity

/-- The field can count one node more. -/
def QueueRoom {α : Type*} (q : PriorityQueue α) : QueueEvent α → Prop
  | .push _ _ => q.nodes.length + 1 < 2 ^ 16
  | _ => True

section Queues

variable {α : Type*} {q next : PriorityQueue α}

theorem counted_of_accounts (accounts : Accounts q) : q.Counted :=
  ⟨accounts.size ▸ q.size.toNat_lt, accounts.size⟩

/-- Counting the nodes is all there is to it: the capacity lies beyond what the field can count. -/
theorem accounts_iff_counted : Accounts q ↔ q.Counted := by
  refine ⟨counted_of_accounts, fun counted => ?_⟩
  have bound := counted.length_lt
  have capacity : maxQueueCapacity = 104857 := by decide
  refine ⟨counted.size_eq, counted.isEmpty_iff, by omega, fun element comparator => ?_⟩
  rw [PriorityQueue.push_eq]
  constructor
  · intro refused
    contradiction
  · intro full
    omega

/-- A step keeps the accounting exactly if the field can count the queue afterwards. -/
theorem accounts_step_iff {event : QueueEvent α} (accounts : Accounts q)
    (stepped : queueStep q event = some next) : Accounts next ↔ QueueRoom q event := by
  rw [accounts_iff_counted] at accounts ⊢
  cases event with
  | push element comparator =>
    obtain rfl := Option.some.inj stepped
    rw [QueueRoom]
    constructor
    · intro after
      have bound := after.length_lt
      rwa [PriorityQueue.push_eq, Option.getD_some, List.length_insertFromTail] at bound
    · intro room
      rw [PriorityQueue.push_eq, Option.getD_some]
      exact accounts.push room (PriorityQueue.push_eq q element comparator)
  | pop =>
    obtain ⟨⟨element, rest⟩, popped, rfl⟩ := Option.map_eq_some_iff.mp stepped
    exact ⟨fun _ => trivial, fun _ => (accounts.pop popped).2⟩
  | clear =>
    obtain rfl := Option.some.inj stepped
    exact ⟨fun _ => trivial, fun _ => PriorityQueue.counted_empty⟩

theorem accounts_empty : Accounts (PriorityQueue.empty : PriorityQueue α) :=
  accounts_iff_counted.mpr PriorityQueue.counted_empty

end Queues

/-! ## Buffers -/

inductive BufferEvent where
  | write (policy : PolicyActor S3tpPacket) (packet : S3tpPacket)
  | getNextPacket (policy : PolicyActor S3tpPacket) (port : UInt8)
  | getNextAvailablePacket (policy : PolicyActor S3tpPacket)
  | clearQueueForPort (port : UInt8)
  | clear

/-- A call that yields no packet leaves the buffer as it is. -/
def bufferStep (b : Buffer) : BufferEvent → Option Buffer
  | .write policy packet => some (b.write policy packet)
  | .getNextPacket policy port => some (((b.getNextPacket policy port).map Prod.snd).getD b)
  | .getNextAvailablePacket policy => some (((b.getNextAvailablePacket policy).map Prod.snd).getD b)
  | .clearQueueForPort port => some (b.clearQueueForPort port)
  | .clear => some b.clear

/-- The counter of a port exists exactly if packets are held for it, and counts them. -/
def CountersExact (b : Buffer) : Prop := ∀ port,
  ((b.packetCounter port).isSome = true ↔ b.held port ≠ []) ∧
    ∀ count ∈ b.packetCounter port, count = (b.held port).length

/-- The size field of the port's queue can count what the write leaves there. -/
def BufferRoom (b : Buffer) : BufferEvent → Prop
  | .write policy packet => (b.kept policy packet).length + 1 < 2 ^ 16
  | _ => True

theorem countersExact_of_consistent {b : Buffer} (consistent : b.Consistent) : CountersExact b := by
  intro port
  rw [consistent.counter port]
  split
  · next empty => simp [empty]
  · next nonempty => simp [nonempty, eq_comm]

section Buffers

variable {b next : Buffer}

/-- A step keeps the buffer consistent exactly if the field can count the queue afterwards. -/
theorem consistent_step_iff {event : BufferEvent} (consistent : b.Consistent)
    (stepped : bufferStep b event = some next) : next.Consistent ↔ BufferRoom b event := by
  cases event with
  | write policy packet =>
    obtain rfl := Option.some.inj stepped
    constructor
    · intro after
      have bound := (after.counted packet.getPort).length_lt
      rwa [← Buffer.held, Buffer.held_write_self, List.length_insertFromTail] at bound
    · exact consistent.write policy packet
  | getNextPacket policy port =>
    obtain rfl := Option.some.inj stepped
    refine ⟨fun _ => trivial, fun _ => ?_⟩
    cases popped : b.getNextPacket policy port with
    | none => exact consistent
    | some taken => exact (consistent.popPacketInternal popped).2.2.2
  | getNextAvailablePacket policy =>
    obtain rfl := Option.some.inj stepped
    refine ⟨fun _ => trivial, fun _ => ?_⟩
    cases taken : b.getNextAvailablePacket policy with
    | none => exact consistent
    | some result =>
      obtain ⟨port, popped⟩ := Buffer.getNextAvailablePacket_eq_some taken
      exact (consistent.popPacketInternal popped).2.2.2
  | clearQueueForPort port =>
    obtain rfl := Option.some.inj stepped
    exact ⟨fun _ => trivial, fun _ => consistent.clearQueueForPort port⟩
  | clear =>
    obtain rfl := Option.some.inj stepped
    exact ⟨fun _ => trivial, fun _ => Buffer.consistent_empty⟩

end Buffers

/-! ## Runs -/

/-- No element has priority over another. -/
def fifo : PolicyActor Unit where
  comparePriority _ _ := -1
  isElementValid _ := true
  maximumWindowExceeded _ _ := false

/-- After any number of pushes the field holds their number modulo `2 ^ 16`. -/
theorem pushes (n : ℕ) : ∃ q, Run queueStep Always .empty (List.replicate n (.push () fifo)) q ∧
    q.nodes.length = n ∧ q.size = UInt16.ofNat n := by
  induction n with
  | zero => exact ⟨_, .nil _, rfl, rfl⟩
  | succ n ih =>
    obtain ⟨q, run, length, size⟩ := ih
    obtain ⟨next, pushed⟩ : ∃ next, q.push () fifo = some next := ⟨_, PriorityQueue.push_eq q () fifo⟩
    have stepped : queueStep q (.push () fifo) = some next := by rw [queueStep, pushed, Option.getD_some]
    rw [PriorityQueue.push_eq] at pushed
    obtain rfl := Option.some.inj pushed
    rw [List.replicate_succ']
    refine ⟨_, run.append (.cons trivial stepped (.nil _)), ?_, ?_⟩
    · rw [List.length_insertFromTail, length]
    · change q.size + 1 = _
      rw [size, UInt16.ofNat_add]
      rfl

end S3tp.Soundness
