import S3tp.Model.Core.Packet
import S3tp.Model.Core.PriorityQueue
import S3tp.ToMathlib.ByteMap

/-! # The packet buffer of a module

One priority queue for each port and a counter map naming the ports that hold packets. The module
owning the buffer answers, as policy actor, how packets compare, whether a head may leave, and
whether a new packet makes the queue obsolete. A queue the map does not hold yet reads as empty.

`Consistent` ties the three together: sizes count nodes, the counter map holds exactly the ports
with packets, and every packet sits in the queue of its own port.
-/

namespace S3tp.Model.Core

structure Buffer where
  queues : UInt8 → PriorityQueue S3tpPacket
  packetCounter : ByteMap ℕ

namespace Buffer

def empty : Buffer := ⟨fun _ => .empty, .empty⟩

instance : Inhabited Buffer := ⟨empty⟩

/-- The packets held for a port, head first. -/
def held (b : Buffer) (port : UInt8) : List S3tpPacket := (b.queues port).nodes

def clear (_ : Buffer) : Buffer := empty

def clearQueueForPort (b : Buffer) (port : UInt8) : Buffer where
  queues := Function.update b.queues port (b.queues port).clear
  packetCounter := b.packetCounter.erase port

def packetsAvailable (b : Buffer) : Bool := !b.packetCounter.isEmpty

def getActiveQueues (b : Buffer) : List UInt8 :=
  b.packetCounter.keys.filter fun port => (b.packetCounter port).any (0 < ·)

def getQueue (b : Buffer) (port : UInt8) : PriorityQueue S3tpPacket := b.queues port

def peektNextPacket (b : Buffer) (port : UInt8) : Option S3tpPacket :=
  if (b.queues port).isEmpty then none else (b.queues port).peek

def getSizeOfQueue (b : Buffer) (port : UInt8) : UInt16 := (b.queues port).getSize

/-- The test `write` makes before it clears a queue. -/
def windowExceeded (b : Buffer) (policy : PolicyActor S3tpPacket) (packet : S3tpPacket) : Bool :=
  let queue := b.queues packet.getPort
  !queue.isEmpty && queue.peek.any (policy.maximumWindowExceeded · packet)

/-- Always reports success, also when the queue refuses the packet. -/
def write (b : Buffer) (policy : PolicyActor S3tpPacket) (packet : S3tpPacket) : Buffer :=
  let port := packet.getPort
  let b := if b.windowExceeded policy packet then b.clearQueueForPort port else b
  match (b.queues port).push packet policy with
  | none => b
  | some queue => ⟨Function.update b.queues port queue, b.packetCounter.insert port queue.getSize.toNat⟩

/-- The head of the port's queue, when there is one the policy lets go. -/
def popPacketInternal (b : Buffer) (policy : PolicyActor S3tpPacket) (port : UInt8) :
    Option (S3tpPacket × Buffer) :=
  let queue := b.queues port
  if queue.isEmpty then none
  else do
    let head ← queue.peek
    if policy.isElementValid head then
      let (packet, queue) ← queue.pop
      let counter := if queue.isEmpty then b.packetCounter.erase port
        else b.packetCounter.insert port queue.getSize.toNat
      some (packet, ⟨Function.update b.queues port queue, counter⟩)
    else none

def getNextPacket (b : Buffer) (policy : PolicyActor S3tpPacket) (port : UInt8) :
    Option (S3tpPacket × Buffer) := b.popPacketInternal policy port

/-- Ports are tried in ascending order until one yields a packet. -/
def getNextAvailablePacket (b : Buffer) (policy : PolicyActor S3tpPacket) :
    Option (S3tpPacket × Buffer) :=
  if b.packetCounter.isEmpty then none
  else b.packetCounter.keys.findSome? (b.popPacketInternal policy)

/-- Sizes, counters and queues agree. -/
structure Consistent (b : Buffer) : Prop where
  counted : ∀ port, (b.queues port).Counted
  counter : ∀ port, b.packetCounter port = if b.held port = [] then none else some (b.held port).length
  ported : ∀ port, ∀ packet ∈ b.held port, packet.getPort = port

theorem consistent_empty : empty.Consistent where
  counted _ := PriorityQueue.counted_empty
  counter _ := rfl
  ported _ _ member := by simp [held, empty, PriorityQueue.empty] at member

/-- The active queues are the non-empty ones. -/
theorem Consistent.mem_getActiveQueues {b : Buffer} (consistent : b.Consistent) {port : UInt8} :
    port ∈ b.getActiveQueues ↔ b.held port ≠ [] := by
  rw [getActiveQueues, List.mem_filter, ByteMap.mem_keys, consistent.counter port]
  split
  · simp_all
  · simp_all [List.length_pos_iff]

theorem Consistent.held_eq_nil {b : Buffer} (consistent : b.Consistent) (empty : b.packetsAvailable = false)
    (port : UInt8) : b.held port = [] := by
  by_contra some
  have counted : (b.packetCounter port).isSome := by simp [consistent.counter port, some]
  rw [packetsAvailable, ByteMap.isEmpty_eq_false_iff.mpr ⟨port, counted⟩] at empty
  exact Bool.false_ne_true empty.symm

@[simp] theorem held_empty (port : UInt8) : empty.held port = [] := rfl

/-! ## Clearing a queue -/

@[simp] theorem held_clearQueueForPort_self (b : Buffer) (port : UInt8) :
    (b.clearQueueForPort port).held port = [] := by
  simp [held, clearQueueForPort, PriorityQueue.clear, PriorityQueue.empty]

theorem held_clearQueueForPort_of_ne (b : Buffer) {port other : UInt8} (ne : other ≠ port) :
    (b.clearQueueForPort port).held other = b.held other := by
  simp [held, clearQueueForPort, ne]

theorem Consistent.clearQueueForPort {b : Buffer} (consistent : b.Consistent) (port : UInt8) :
    (b.clearQueueForPort port).Consistent where
  counted other := by
    by_cases same : other = port
    · subst same
      simpa [Buffer.clearQueueForPort, PriorityQueue.clear] using PriorityQueue.counted_empty
    · simpa [Buffer.clearQueueForPort, same] using consistent.counted other
  counter other := by
    by_cases same : other = port
    · subst same
      simp [Buffer.clearQueueForPort, held, PriorityQueue.clear, PriorityQueue.empty]
    · rw [held_clearQueueForPort_of_ne b same, ← consistent.counter other]
      exact b.packetCounter.erase_of_ne same
  ported other packet member := by
    by_cases same : other = port
    · subst same
      simp at member
    · rw [held_clearQueueForPort_of_ne b same] at member
      exact consistent.ported other packet member

/-! ## Writing a packet -/

/-- The order a push scans by. -/
def ahead (policy : PolicyActor S3tpPacket) (ref new : S3tpPacket) : Bool :=
  decide (policy.comparePriority ref new < 0)

/-- What is left of the port's queue when the new packet is linked. -/
def kept (b : Buffer) (policy : PolicyActor S3tpPacket) (packet : S3tpPacket) : List S3tpPacket :=
  if b.windowExceeded policy packet then [] else b.held packet.getPort

theorem held_write_self (b : Buffer) (policy : PolicyActor S3tpPacket) (packet : S3tpPacket) :
    (b.write policy packet).held packet.getPort =
      (b.kept policy packet).insertFromTail (ahead policy) packet := by
  cases exceeded : b.windowExceeded policy packet with
  | true => simp [write, kept, exceeded, PriorityQueue.push_eq, held, clearQueueForPort,
      PriorityQueue.clear, PriorityQueue.empty]
  | false =>
    simp only [write, kept, exceeded, PriorityQueue.push_eq, held, Bool.false_eq_true, if_false,
      Function.update_self]
    rfl

theorem held_write_of_ne (b : Buffer) (policy : PolicyActor S3tpPacket) {packet : S3tpPacket}
    {port : UInt8} (ne : port ≠ packet.getPort) : (b.write policy packet).held port = b.held port := by
  cases exceeded : b.windowExceeded policy packet <;>
    simp [write, exceeded, PriorityQueue.push_eq, held, clearQueueForPort, ne]

/-- A write asks the policy about the window, and for the order. -/
theorem write_congr {b : Buffer} {policy policy' : PolicyActor S3tpPacket} {packet : S3tpPacket}
    (exceeded : b.windowExceeded policy' packet = b.windowExceeded policy packet)
    (compare : policy'.comparePriority = policy.comparePriority) :
    b.write policy' packet = b.write policy packet := by
  simp only [write, exceeded, PriorityQueue.push_eq, compare]

/-- What a write leaves was there before, but for the packet written. -/
theorem mem_held_write {b : Buffer} {policy : PolicyActor S3tpPacket} {packet other : S3tpPacket} {port : UInt8}
    (member : other ∈ (b.write policy packet).held port) :
    (port = packet.getPort ∧ other = packet) ∨ other ∈ b.held port := by
  by_cases same : port = packet.getPort
  · subst same
    rw [held_write_self, List.mem_insertFromTail, kept] at member
    rcases member with rfl | member
    · exact .inl ⟨rfl, rfl⟩
    · split at member
      · simp at member
      · exact .inr member
  · rw [held_write_of_ne b policy same] at member
    exact .inr member

private theorem write_counter (b : Buffer) (policy : PolicyActor S3tpPacket) (packet : S3tpPacket) :
    (b.write policy packet).packetCounter packet.getPort =
      some ((b.write policy packet).queues packet.getPort).size.toNat := by
  cases exceeded : b.windowExceeded policy packet <;>
    simp [write, exceeded, PriorityQueue.push_eq, clearQueueForPort, PriorityQueue.getSize]

private theorem write_counter_of_ne (b : Buffer) (policy : PolicyActor S3tpPacket)
    {packet : S3tpPacket} {port : UInt8} (ne : port ≠ packet.getPort) :
    (b.write policy packet).packetCounter port = b.packetCounter port := by
  cases exceeded : b.windowExceeded policy packet <;>
    simp [write, exceeded, PriorityQueue.push_eq, clearQueueForPort, ByteMap.insert_of_ne,
      ByteMap.erase_of_ne, ne]

theorem queues_write_of_ne (b : Buffer) (policy : PolicyActor S3tpPacket) {packet : S3tpPacket}
    {port : UInt8} (ne : port ≠ packet.getPort) : (b.write policy packet).queues port = b.queues port := by
  cases exceeded : b.windowExceeded policy packet <;>
    simp [write, exceeded, PriorityQueue.push_eq, clearQueueForPort, ne]

/-- In a queue that the write has cleared the size field counts the one packet. -/
theorem counted_write_of_exceeded {b : Buffer} {policy : PolicyActor S3tpPacket} {packet : S3tpPacket}
    (exceeded : b.windowExceeded policy packet = true) :
    ((b.write policy packet).queues packet.getPort).Counted := by
  simp only [write, exceeded, if_true, PriorityQueue.push_eq, Function.update_self, clearQueueForPort]
  exact PriorityQueue.Counted.push PriorityQueue.counted_empty (by simp [PriorityQueue.empty])
    (PriorityQueue.push_eq _ packet policy)

/-- The size field goes on counting the queue of the port, if it can count one packet more. -/
theorem counted_write {b : Buffer} {policy : PolicyActor S3tpPacket} {packet : S3tpPacket}
    (counted : (b.queues packet.getPort).Counted) (room : (b.kept policy packet).length + 1 < 2 ^ 16) :
    ((b.write policy packet).queues packet.getPort).Counted := by
  cases exceeded : b.windowExceeded policy packet with
  | true => exact counted_write_of_exceeded exceeded
  | false =>
    have length : (b.queues packet.getPort).nodes.length + 1 < 2 ^ 16 := by
      simpa [kept, exceeded, held] using room
    simp only [write, exceeded, Bool.false_eq_true, if_false, PriorityQueue.push_eq, Function.update_self]
    exact counted.push length (PriorityQueue.push_eq _ packet policy)

/-- A write keeps the buffer consistent as long as the size field can count the queue. -/
theorem Consistent.write {b : Buffer} (consistent : b.Consistent) (policy : PolicyActor S3tpPacket)
    (packet : S3tpPacket) (room : (b.kept policy packet).length + 1 < 2 ^ 16) :
    (b.write policy packet).Consistent where
  counted port := by
    by_cases same : port = packet.getPort
    · subst same
      exact counted_write (consistent.counted _) room
    · rw [queues_write_of_ne b policy same]
      exact consistent.counted port
  counter port := by
    by_cases same : port = packet.getPort
    · subst same
      rw [write_counter, (counted_write (consistent.counted _) room).size_eq, if_neg]
      · rfl
      · rw [held_write_self]
        exact List.insertFromTail_ne_nil _ _ _
    · rw [write_counter_of_ne b policy same, held_write_of_ne b policy same]
      exact consistent.counter port
  ported port other member := by
    by_cases same : port = packet.getPort
    · subst same
      rw [held_write_self, List.mem_insertFromTail] at member
      rcases member with rfl | member
      · rfl
      · simp only [kept] at member
        split at member
        · simp at member
        · exact consistent.ported _ _ member
    · rw [held_write_of_ne b policy same] at member
      exact consistent.ported port other member

theorem Consistent.windowExceeded_eq_true_iff {b : Buffer} (consistent : b.Consistent)
    (policy : PolicyActor S3tpPacket) (packet : S3tpPacket) : b.windowExceeded policy packet = true ↔
      ∃ head ∈ (b.held packet.getPort).head?, policy.maximumWindowExceeded head packet = true := by
  have empty := (consistent.counted packet.getPort).isEmpty_iff
  simp only [windowExceeded, PriorityQueue.peek, held, Bool.and_eq_true, Bool.not_eq_true',
    Option.any_eq_true]
  constructor
  · rintro ⟨-, head, found, exceeded⟩
    exact ⟨head, found, exceeded⟩
  · rintro ⟨head, found, exceeded⟩
    refine ⟨?_, head, found, exceeded⟩
    rw [← Bool.not_eq_true, empty]
    intro none
    simp [none] at found

/-! ## Taking a packet -/

/-- A packet that is taken was the head of its queue, whatever the size field says. -/
theorem popPacketInternal_eq_some {b next : Buffer} {policy : PolicyActor S3tpPacket} {port : UInt8}
    {packet : S3tpPacket} (popped : b.popPacketInternal policy port = some (packet, next)) :
    policy.isElementValid packet = true ∧ ∃ queue, (b.queues port).pop = some (packet, queue) ∧
      next = ⟨Function.update b.queues port queue, if queue.isEmpty then b.packetCounter.erase port
        else b.packetCounter.insert port queue.getSize.toNat⟩ := by
  simp only [popPacketInternal] at popped
  split at popped
  · contradiction
  simp only [Option.bind_eq_bind, Option.bind_eq_some_iff] at popped
  obtain ⟨head, peeked, popped⟩ := popped
  split at popped
  · next valid =>
    obtain ⟨⟨first, queue⟩, unlinked, popped⟩ := Option.bind_eq_some_iff.mp popped
    simp only [Option.some.injEq, Prod.mk.injEq] at popped
    obtain ⟨rfl, rfl⟩ := popped
    obtain rfl : head = first := by
      rw [PriorityQueue.peek, (PriorityQueue.pop_eq_some unlinked).1] at peeked
      simpa [eq_comm] using peeked
    exact ⟨valid, queue, unlinked, rfl⟩
  · contradiction

/-- The other queues stay as they are. -/
theorem held_of_popPacketInternal {b next : Buffer} {policy : PolicyActor S3tpPacket} {port : UInt8}
    {packet : S3tpPacket} (popped : b.popPacketInternal policy port = some (packet, next)) :
    b.held port = packet :: next.held port ∧ ∀ other, other ≠ port → next.queues other = b.queues other := by
  obtain ⟨-, queue, unlinked, rfl⟩ := popPacketInternal_eq_some popped
  refine ⟨?_, fun other ne => by simp [ne]⟩
  rw [held, (PriorityQueue.pop_eq_some unlinked).1]
  simp [held]

theorem mem_held_of_popPacketInternal {b next : Buffer} {policy : PolicyActor S3tpPacket} {port other : UInt8}
    {packet left : S3tpPacket} (popped : b.popPacketInternal policy port = some (packet, next))
    (member : left ∈ next.held other) : left ∈ b.held other := by
  obtain ⟨head, others⟩ := held_of_popPacketInternal popped
  by_cases same : other = port
  · rw [same, head, ← same]
    exact List.mem_cons_of_mem _ member
  · rwa [held, others other same] at member

theorem length_held_of_popPacketInternal {b next : Buffer} {policy : PolicyActor S3tpPacket} {port : UInt8}
    {packet : S3tpPacket} (popped : b.popPacketInternal policy port = some (packet, next)) :
    (next.held port).length < (b.held port).length := by
  rw [(held_of_popPacketInternal popped).1]
  exact Nat.lt_succ_self _

/-- In a consistent buffer nothing but the queue of the port changes. -/
theorem Consistent.popPacketInternal {b next : Buffer} (consistent : b.Consistent)
    {policy : PolicyActor S3tpPacket} {port : UInt8} {packet : S3tpPacket}
    (popped : b.popPacketInternal policy port = some (packet, next)) :
    b.held port = packet :: next.held port ∧ policy.isElementValid packet = true ∧
      (∀ other, other ≠ port → next.held other = b.held other) ∧ next.Consistent := by
  obtain ⟨head, queues⟩ := held_of_popPacketInternal popped
  have others (other : UInt8) (ne : other ≠ port) : next.held other = b.held other :=
    congrArg PriorityQueue.nodes (queues other ne)
  obtain ⟨valid, queue, unlinked, shape⟩ := popPacketInternal_eq_some popped
  have counted := ((consistent.counted port).pop unlinked).2
  have self : next.queues port = queue := by simp [shape]
  refine ⟨head, valid, others, ?_, ?_, ?_⟩
  · intro other
    by_cases same : other = port
    · rw [same, self]
      exact counted
    · rw [queues other same]
      exact consistent.counted other
  · intro other
    by_cases same : other = port
    · subst same
      rw [held, self, shape]
      by_cases none : queue.nodes = []
      · simp [counted.isEmpty_iff, none]
      · simp [counted.isEmpty_iff, none, PriorityQueue.getSize, counted.size_eq]
    · rw [others other same, ← consistent.counter other, shape]
      simp only
      split
      · exact b.packetCounter.erase_of_ne same
      · exact b.packetCounter.insert_of_ne _ same
  · intro other member present
    by_cases same : other = port
    · subst same
      exact consistent.ported other member (head ▸ List.mem_cons_of_mem _ present)
    · exact consistent.ported other member (others other same ▸ present)

/-- A head the policy lets go is taken, if the size field counts the queue. -/
theorem popPacketInternal_isSome {b : Buffer} {policy : PolicyActor S3tpPacket} {port : UInt8}
    {head : S3tpPacket} {rest : List S3tpPacket} (counted : (b.queues port).Counted)
    (queued : b.held port = head :: rest) (valid : policy.isElementValid head = true) :
    ∃ next, b.popPacketInternal policy port = some (head, next) ∧ next.held port = rest ∧
      (next.queues port).Counted := by
  have nodes : (b.queues port).nodes = head :: rest := queued
  have nonempty : (b.queues port).isEmpty = false := by
    rw [← Bool.not_eq_true, counted.isEmpty_iff, nodes]
    simp
  have unlinked : (b.queues port).pop = some (head, ⟨rest, (b.queues port).size - 1⟩) := by
    simp [PriorityQueue.pop, nodes]
  refine ⟨_, by simp [Buffer.popPacketInternal, nonempty, PriorityQueue.peek, unlinked, nodes, valid]; rfl, ?_⟩
  simpa [held] using (counted.pop unlinked).2

/-- A packet from any port is the head of one queue. -/
theorem getNextAvailablePacket_eq_some {b next : Buffer} {policy : PolicyActor S3tpPacket}
    {packet : S3tpPacket} (taken : b.getNextAvailablePacket policy = some (packet, next)) :
    ∃ port, b.popPacketInternal policy port = some (packet, next) := by
  rw [getNextAvailablePacket] at taken
  split at taken
  · contradiction
  · obtain ⟨port, -, popped⟩ := List.exists_of_findSome?_eq_some taken
    exact ⟨port, popped⟩

/-- A port with a head the policy lets go always yields some packet. -/
theorem Consistent.getNextAvailablePacket_isSome {b : Buffer} (consistent : b.Consistent)
    {policy : PolicyActor S3tpPacket} {port : UInt8} {head : S3tpPacket} {rest : List S3tpPacket}
    (queued : b.held port = head :: rest) (valid : policy.isElementValid head = true) :
    (b.getNextAvailablePacket policy).isSome := by
  have counted : (b.packetCounter port).isSome := by simp [consistent.counter port, queued]
  have nonempty : b.packetCounter.isEmpty = false := ByteMap.isEmpty_eq_false_iff.mpr ⟨port, counted⟩
  obtain ⟨next, popped, -, -⟩ := popPacketInternal_isSome (consistent.counted port) queued valid
  rw [getNextAvailablePacket, nonempty, if_neg Bool.false_ne_true, List.findSome?_isSome_iff]
  exact ⟨port, ByteMap.mem_keys.mpr counted, by rw [popped]; rfl⟩

end Buffer

end S3tp.Model.Core
