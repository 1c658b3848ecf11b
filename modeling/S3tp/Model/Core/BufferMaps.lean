import S3tp.Model.Core.Buffer
import Mathlib.Data.Finmap
import Mathlib.Data.Finset.Sort

/-! # The maps of the packet buffer

The buffer with its maps as the code keeps them: pointers to queues and counters, both by port. Looking a port up with
`queues[port]` adds a null entry if there is none, and a result is `none` where the code follows a null pointer. The
packets are what they are; all the buffer reads of one is the port in its header.

The loop of `getNextAvailablePacket` runs over the counters while it pops. A pop that yields nothing leaves them alone,
and one that yields a packet ends the loop.
-/

namespace S3tp.Model.Core

/-- A pointer to a queue. -/
abbrev QueuePtr (π : Type) := Option (PriorityQueue π)

/-- A port as the `int` the maps are keyed by. -/
def portKey (port : UInt8) : ℤ := port.toNat

structure BufferMaps (π : Type) where
  queues : Finmap (fun _ : ℤ => QueuePtr π) := ∅
  packetCounter : Finmap (fun _ : ℤ => ℕ) := ∅

namespace BufferMaps

variable {π : Type}

def clear (_ : BufferMaps π) : BufferMaps π := {}

def clearQueueForPort (b : BufferMaps π) (port : UInt8) : Option (BufferMaps π) :=
  match b.queues.lookup (portKey port) with
  | none => some { b with packetCounter := b.packetCounter.erase (portKey port) }
  | some none => none
  | some (some queue) => some {
      queues := b.queues.insert (portKey port) (some queue.clear)
      packetCounter := b.packetCounter.erase (portKey port) }

/-- `queues[port]`. -/
def subscript (b : BufferMaps π) (port : ℤ) : QueuePtr π × BufferMaps π :=
  match b.queues.lookup port with
  | some queue => (queue, b)
  | none => (none, { b with queues := b.queues.insert port none })

/-- The queue of the port is now this one, and is counted. -/
def count (b : BufferMaps π) (port : ℤ) (queue : PriorityQueue π) : BufferMaps π where
  queues := b.queues.insert port (some queue)
  packetCounter := b.packetCounter.insert port queue.getSize.toNat

/-- Whether the queue's head makes way for the new packet. -/
def exceeded (queue : PriorityQueue π) (policy : PolicyActor π) (packet : π) : Option Bool :=
  if queue.isEmpty then some false else queue.peek.map (policy.maximumWindowExceeded · packet)

def write (getPort : π → UInt8) (b : BufferMaps π) (policy : PolicyActor π) (packet : π) : Option (BufferMaps π) := do
  let port := portKey (getPort packet)
  let (pointer, b) := b.subscript port
  let queue := pointer.getD .empty
  let exceeded ← exceeded queue policy packet
  let queue := if exceeded then queue.clear else queue
  let packetCounter := if exceeded then b.packetCounter.erase port else b.packetCounter
  match queue.push packet policy with
  | none => some { queues := b.queues.insert port (some queue), packetCounter }
  | some queue => some (count { b with packetCounter } port queue)

def popPacketInternal (b : BufferMaps π) (policy : PolicyActor π) (port : ℤ) : Option (Option π × BufferMaps π) :=
  let (pointer, b) := b.subscript port
  match pointer with
  | none => some (none, b)
  | some queue =>
    if queue.isEmpty then some (none, b)
    else do
      let packet ← queue.peek
      if policy.isElementValid packet then
        let (packet, queue) ← queue.pop
        if queue.isEmpty then
          some (some packet, {
            queues := b.queues.insert port (some queue), packetCounter := b.packetCounter.erase port })
        else some (some packet, b.count port queue)
      else some (none, b)

def getNextPacket (b : BufferMaps π) (policy : PolicyActor π) (port : ℤ) : Option (Option π × BufferMaps π) :=
  b.popPacketInternal policy port

/-- The ports that have a counter, ascending. -/
def ports (b : BufferMaps π) : List ℤ := b.packetCounter.keys.sort

/-- The keys of a map, ascending. -/
def sortedKeys {β : Type*} (map : Finmap fun _ : ℤ => β) : List ℤ := map.keys.sort

/-- The loop of `getNextAvailablePacket`. -/
def scan (policy : PolicyActor π) : List ℤ → BufferMaps π → Option (Option π × BufferMaps π)
  | [], b => some (none, b)
  | port :: ports, b => do
    let (packet, b) ← b.popPacketInternal policy port
    match packet with
    | none => scan policy ports b
    | some packet => some (some packet, b)

def getNextAvailablePacket (b : BufferMaps π) (policy : PolicyActor π) : Option (Option π × BufferMaps π) :=
  if b.ports.isEmpty then some (none, b) else scan policy b.ports b

/-! ## What the operations do -/

/-- The queue of a port. A port without one has no packets. -/
def queueAt (b : BufferMaps π) (port : ℤ) : PriorityQueue π := (b.queues.lookup port).join.getD .empty

/-- The packets linked for a port, head first. -/
def linked (b : BufferMaps π) (port : ℤ) : List π := (b.queueAt port).nodes

/-- The size field shows the number of the nodes as far as it can, and what has a counter has a queue. -/
structure WellFormed (b : BufferMaps π) : Prop where
  size : ∀ port queue, b.queues.lookup port = some (some queue) → queue.size = UInt16.ofNat queue.nodes.length
  counted : ∀ port, port ∈ b.packetCounter → ∃ queue, b.queues.lookup port = some (some queue)

theorem wellFormed_empty : ({} : BufferMaps π).WellFormed :=
  ⟨by simp, fun _ absent => absurd absent Finmap.notMem_empty⟩

section Operations

variable {b b' : BufferMaps π} {policy : PolicyActor π} {port : ℤ} {queue : PriorityQueue π} {packet : π}

theorem queueAt_of_lookup (here : b.queues.lookup port = some (some queue)) : b.queueAt port = queue := by
  rw [queueAt, here]
  rfl

theorem WellFormed.size_queueAt (wellFormed : b.WellFormed) (port : ℤ) :
    (b.queueAt port).size = UInt16.ofNat (b.queueAt port).nodes.length := by
  rw [queueAt]
  rcases here : b.queues.lookup port with _ | _ | queue
  · rfl
  · rfl
  · exact wellFormed.size port queue here

/-- A queue that does not say it is empty has a head. -/
theorem WellFormed.peek_eq (wellFormed : b.WellFormed) (holding : (b.queueAt port).isEmpty = false) :
    ∃ head rest, b.linked port = head :: rest ∧ (b.queueAt port).peek = some head ∧
      (b.queueAt port).pop = some (head, ⟨rest, (b.queueAt port).size - 1⟩) := by
  have size := wellFormed.size_queueAt port
  rw [linked, PriorityQueue.peek, PriorityQueue.pop]
  cases nodes : (b.queueAt port).nodes with
  | nil =>
    rw [PriorityQueue.isEmpty, size, nodes] at holding
    simp at holding
  | cons head rest => exact ⟨head, rest, rfl, rfl, rfl⟩

theorem queues_subscript : (b.subscript port).1.getD .empty = b.queueAt port := by
  rw [subscript, queueAt]
  rcases b.queues.lookup port with _ | _ | queue <;> rfl

theorem packetCounter_subscript : (b.subscript port).2.packetCounter = b.packetCounter := by
  rw [subscript]
  cases b.queues.lookup port <;> rfl

theorem insert_subscript (pointer : QueuePtr π) :
    (b.subscript port).2.queues.insert port pointer = b.queues.insert port pointer := by
  rw [subscript]
  cases b.queues.lookup port
  · simp [Finmap.insert_insert]
  · rfl

/-- What is left of the queue when the new packet is linked. -/
def kept (b : BufferMaps π) (policy : PolicyActor π) (port : ℤ) (packet : π) : PriorityQueue π :=
  if exceeded (b.queueAt port) policy packet = some true then .empty else b.queueAt port

/-- The queue with the new packet. -/
def extended (b : BufferMaps π) (policy : PolicyActor π) (port : ℤ) (packet : π) : PriorityQueue π where
  nodes := (b.kept policy port packet).nodes.insertFromTail
    (fun ref new => decide (policy.comparePriority ref new < 0)) packet
  size := (b.kept policy port packet).size + 1

theorem WellFormed.exceeded_eq (wellFormed : b.WellFormed) (policy : PolicyActor π) (port : ℤ) (packet : π) :
    exceeded (b.queueAt port) policy packet = some false ∨
      (exceeded (b.queueAt port) policy packet = some true ∧
        ∃ head ∈ (b.linked port).head?, policy.maximumWindowExceeded head packet = true) := by
  rw [exceeded]
  cases holding : (b.queueAt port).isEmpty with
  | true => exact .inl rfl
  | false =>
    obtain ⟨head, rest, nodes, peeked, -⟩ := wellFormed.peek_eq holding
    rw [peeked, nodes]
    cases answer : policy.maximumWindowExceeded head packet with
    | false => exact .inl (by simp [answer])
    | true => exact .inr ⟨by simp [answer], head, rfl, answer⟩

theorem insert_erase (counter : Finmap fun _ : ℤ => ℕ) (port : ℤ) (n : ℕ) :
    (counter.erase port).insert port n = counter.insert port n := by
  refine Finmap.ext_lookup fun other => ?_
  rcases Classical.em (other = port) with rfl | different
  · simp
  · simp [different]

/-- A write links the packet and counts the queue. -/
theorem WellFormed.write_eq (wellFormed : b.WellFormed) (getPort : π → UInt8) (policy : PolicyActor π) (packet : π) :
    b.write getPort policy packet =
      some (b.count (portKey (getPort packet)) (b.extended policy (portKey (getPort packet)) packet)) := by
  simp only [write, queues_subscript, extended, kept]
  rcases wellFormed.exceeded_eq policy (portKey (getPort packet)) packet with keeps | ⟨clears, -⟩
  · rw [keeps]
    simp [PriorityQueue.push_eq, count, insert_subscript, packetCounter_subscript]
  · rw [clears]
    simp [PriorityQueue.push_eq, count, insert_subscript, packetCounter_subscript, insert_erase, PriorityQueue.clear]

theorem WellFormed.size_extended (wellFormed : b.WellFormed) (policy : PolicyActor π) (port : ℤ) (packet : π) :
    (b.extended policy port packet).size = UInt16.ofNat (b.extended policy port packet).nodes.length := by
  have size : (b.kept policy port packet).size = UInt16.ofNat (b.kept policy port packet).nodes.length := by
    rw [kept]
    split
    · rfl
    · exact wellFormed.size_queueAt port
  rw [extended, List.length_insertFromTail, UInt16.ofNat_add, size]
  rfl

/-- What a pop leads to: nothing but perhaps a null entry for a port without one, or the head is taken. -/
inductive Popped (b : BufferMaps π) (policy : PolicyActor π) (port : ℤ) : Option π → BufferMaps π → Prop
  | nothing : b.queues.lookup port ≠ none → Popped b policy port none b
  | adds : b.queues.lookup port = none → Popped b policy port none { b with queues := b.queues.insert port none }
  | takes {head : π} {rest : List π} {size : UInt16} : b.queues.lookup port = some (some ⟨head :: rest, size⟩) →
    policy.isElementValid head = true →
    Popped b policy port (some head) {
      queues := b.queues.insert port (some ⟨rest, size - 1⟩)
      packetCounter := if size - 1 = 0 then b.packetCounter.erase port
        else b.packetCounter.insert port (size - 1).toNat }

theorem WellFormed.popped (wellFormed : b.WellFormed) (policy : PolicyActor π) (port : ℤ) :
    ∃ result b', b.popPacketInternal policy port = some (result, b') ∧ Popped b policy port result b' := by
  rw [popPacketInternal, subscript]
  rcases here : b.queues.lookup port with _ | _ | queue
  · exact ⟨none, _, rfl, .adds here⟩
  · exact ⟨none, b, rfl, .nothing (by simp [here])⟩
  · cases holding : queue.isEmpty with
    | true => exact ⟨none, b, by simp [holding], .nothing (by simp [here])⟩
    | false =>
      rw [← queueAt_of_lookup here] at holding
      obtain ⟨head, rest, nodes, peeked, popped⟩ := wellFormed.peek_eq holding
      rw [linked] at nodes
      rw [queueAt_of_lookup here] at nodes peeked popped holding
      obtain ⟨_, size⟩ := queue
      obtain rfl := nodes
      cases valid : policy.isElementValid head with
      | false => exact ⟨none, b, by simp [holding, peeked, valid], .nothing (by simp [here])⟩
      | true =>
        refine ⟨some head, _, ?_, .takes here valid⟩
        simp only [holding, peeked, popped]
        by_cases last : size - 1 = 0
        · simp [PriorityQueue.isEmpty, last, valid]
        · simp [PriorityQueue.isEmpty, last, valid, count, PriorityQueue.getSize]

/-- The loop over the ports takes at most one packet. -/
theorem WellFormed.scan_eq (wellFormed : b.WellFormed) (policy : PolicyActor π) {ports : List ℤ}
    (known : ∀ port ∈ ports, b.queues.lookup port ≠ none) :
    ∃ result b', scan policy ports b = some (result, b') ∧
      ((result = none ∧ b' = b) ∨ ∃ port head, result = some head ∧ Popped b policy port (some head) b') := by
  induction ports with
  | nil => exact ⟨none, b, rfl, .inl ⟨rfl, rfl⟩⟩
  | cons port ports ih =>
    obtain ⟨result, b', stepped, popped⟩ := wellFormed.popped policy port
    rw [scan, stepped]
    cases popped with
    | nothing => exact ih fun other member => known other (by simp [member])
    | adds absent => exact absurd absent (known port (by simp))
    | takes here valid => exact ⟨_, _, rfl, .inr ⟨port, _, rfl, .takes here valid⟩⟩

theorem WellFormed.getNextAvailablePacket_eq (wellFormed : b.WellFormed) (policy : PolicyActor π) :
    ∃ result b', b.getNextAvailablePacket policy = some (result, b') ∧
      ((result = none ∧ b' = b) ∨ ∃ port head, result = some head ∧ Popped b policy port (some head) b') := by
  rw [getNextAvailablePacket]
  split
  · exact ⟨none, b, rfl, .inl ⟨rfl, rfl⟩⟩
  · refine wellFormed.scan_eq policy fun port member => ?_
    rw [ports, Finset.mem_sort, Finmap.mem_keys] at member
    obtain ⟨queue, here⟩ := wellFormed.counted port member
    simp [here]

theorem clearQueueForPort_eq_none_iff {port : UInt8} :
    b.clearQueueForPort port = none ↔ b.queues.lookup (portKey port) = some none := by
  rw [clearQueueForPort]
  rcases b.queues.lookup (portKey port) with _ | _ | queue <;> simp

/-- The queues and counters of the other ports are as they were. -/
def UnchangedBut (port : ℤ) (b b' : BufferMaps π) : Prop := ∀ other, other ≠ port →
  b'.queues.lookup other = b.queues.lookup other ∧ b'.packetCounter.lookup other = b.packetCounter.lookup other

theorem UnchangedBut.linked_eq (unchanged : UnchangedBut port b b') {other : ℤ} (different : other ≠ port) :
    b'.linked other = b.linked other := by
  rw [linked, queueAt, (unchanged other different).1]
  rfl

/-- What is left to show of an operation on one port. -/
theorem WellFormed.of_unchangedBut (wellFormed : b.WellFormed) (unchanged : UnchangedBut port b b')
    (size : ∀ queue, b'.queues.lookup port = some (some queue) → queue.size = UInt16.ofNat queue.nodes.length)
    (counted : port ∈ b'.packetCounter → ∃ queue, b'.queues.lookup port = some (some queue)) : b'.WellFormed := by
  constructor
  · intro other queue here
    rcases Classical.em (other = port) with rfl | different
    · exact size queue here
    · rw [(unchanged other different).1] at here
      exact wellFormed.size other queue here
  · intro other member
    rcases Classical.em (other = port) with rfl | different
    · exact counted member
    · rw [Finmap.mem_iff, (unchanged other different).2] at member
      rw [(unchanged other different).1]
      exact wellFormed.counted other (Finmap.mem_iff.mpr member)

theorem unchangedBut_count : UnchangedBut port b (b.count port queue) := fun _ different =>
  ⟨Finmap.lookup_insert_of_ne _ different, Finmap.lookup_insert_of_ne _ different⟩

@[simp] theorem queueAt_count : (b.count port queue).queueAt port = queue := by simp [queueAt, count]

@[simp] theorem linked_count : (b.count port queue).linked port = queue.nodes := by simp [linked]

theorem WellFormed.count (wellFormed : b.WellFormed) (size : queue.size = UInt16.ofNat queue.nodes.length) :
    (b.count port queue).WellFormed := by
  refine wellFormed.of_unchangedBut unchangedBut_count (fun other here => ?_) fun _ => ⟨queue, ?_⟩
  · obtain rfl : queue = other := by simpa [BufferMaps.count] using here
    exact size
  · simp [BufferMaps.count]

theorem Popped.unchangedBut {result : Option π} (popped : b.Popped policy port result b') :
    UnchangedBut port b b' := by
  intro other different
  cases popped with
  | nothing => exact ⟨rfl, rfl⟩
  | adds => exact ⟨Finmap.lookup_insert_of_ne _ different, rfl⟩
  | takes =>
    refine ⟨Finmap.lookup_insert_of_ne _ different, ?_⟩
    dsimp only
    split
    · exact Finmap.lookup_erase_ne different
    · exact Finmap.lookup_insert_of_ne _ different

theorem Popped.wellFormed {result : Option π} (wellFormed : b.WellFormed) (popped : b.Popped policy port result b') :
    b'.WellFormed := by
  have unchanged := popped.unchangedBut
  cases popped with
  | nothing => exact wellFormed
  | adds absent =>
    refine wellFormed.of_unchangedBut unchanged (fun queue here => ?_) fun member => ?_
    · simp at here
    · obtain ⟨queue, here⟩ := wellFormed.counted port member
      simp [absent] at here
  | @takes head rest size here =>
    refine wellFormed.of_unchangedBut unchanged (fun queue after => ?_) fun _ => ⟨_, Finmap.lookup_insert _⟩
    obtain rfl : ⟨rest, size - 1⟩ = queue := by simpa using after
    have before := wellFormed.size port _ here
    simp only at before ⊢
    rw [before, List.length_cons, UInt16.ofNat_add]
    simp

/-- A pop takes the head or nothing. -/
theorem Popped.linked_eq {result : Option π} (popped : b.Popped policy port result b') :
    b.linked port = result.toList ++ b'.linked port ∧ ∀ packet ∈ result, policy.isElementValid packet = true := by
  cases popped with
  | nothing => exact ⟨rfl, nofun⟩
  | adds absent => exact ⟨by simp [linked, queueAt, absent], nofun⟩
  | takes here valid =>
    refine ⟨by simp [linked, queueAt, here], fun packet member => ?_⟩
    obtain rfl := Option.some.inj member
    exact valid

theorem unchangedBut_clearQueueForPort {cleared : UInt8} (stepped : b.clearQueueForPort cleared = some b') :
    UnchangedBut (portKey cleared) b b' := by
  intro other different
  rw [clearQueueForPort] at stepped
  split at stepped
  · obtain rfl := Option.some.inj stepped
    exact ⟨rfl, Finmap.lookup_erase_ne different⟩
  · contradiction
  · obtain rfl := Option.some.inj stepped
    exact ⟨Finmap.lookup_insert_of_ne _ different, Finmap.lookup_erase_ne different⟩

theorem WellFormed.clearQueueForPort {cleared : UInt8} (wellFormed : b.WellFormed)
    (stepped : b.clearQueueForPort cleared = some b') : b'.WellFormed ∧ b'.linked (portKey cleared) = [] := by
  have unchanged := unchangedBut_clearQueueForPort stepped
  rw [BufferMaps.clearQueueForPort] at stepped
  split at stepped
  · next absent =>
    obtain rfl := Option.some.inj stepped
    refine ⟨wellFormed.of_unchangedBut unchanged (fun queue here => ?_) fun member => ?_, ?_⟩
    · simp [absent] at here
    · simp at member
    · simp [linked, queueAt, absent, PriorityQueue.empty]
  · contradiction
  · obtain rfl := Option.some.inj stepped
    refine ⟨wellFormed.of_unchangedBut unchanged (fun queue here => ?_) fun member => ?_, ?_⟩
    · obtain rfl : PriorityQueue.empty = queue := by simpa [PriorityQueue.clear] using here
      rfl
    · simp at member
    · simp [linked, queueAt, PriorityQueue.clear, PriorityQueue.empty]

end Operations

/-! ## The buffer as a value

Without the null pointers, and with the ports as bytes, the maps are the buffer the modules are modelled with.
-/

structure Shows (m : BufferMaps S3tpPacket) (b : Buffer) : Prop where
  queues : ∀ port, b.queues port = m.queueAt (portKey port)
  counter : ∀ port, b.packetCounter port = m.packetCounter.lookup (portKey port)
  bytes : ∀ key ∈ m.packetCounter, ∃ port, key = portKey port

theorem portKey_inj {port other : UInt8} : portKey port = portKey other ↔ port = other := by
  simp [portKey, UInt8.toNat_inj]

theorem shows_empty : Shows {} .empty := ⟨fun _ => rfl, fun _ => rfl, fun _ absent => absurd absent Finmap.notMem_empty⟩

section Shows

variable {m m' : BufferMaps S3tpPacket} {b : Buffer} {policy : PolicyActor S3tpPacket} {port : UInt8}
  {packet : S3tpPacket}

/-- The queue and the counter of one port are replaced. -/
theorem Shows.update (same : Shows m b) (unchanged : UnchangedBut (portKey port) m m') :
    Shows m' ⟨Function.update b.queues port (m'.queueAt (portKey port)),
      Function.update b.packetCounter port (m'.packetCounter.lookup (portKey port))⟩ := by
  have elsewhere {other : UInt8} (different : other ≠ port) : portKey other ≠ portKey port :=
    mt portKey_inj.mp different
  refine ⟨fun other => ?_, fun other => ?_, fun key member => ?_⟩
  · rcases Classical.em (other = port) with rfl | different
    · simp
    · simp only [Function.update_of_ne different, same.queues, queueAt, (unchanged _ (elsewhere different)).1]
  · rcases Classical.em (other = port) with rfl | different
    · simp
    · simp only [Function.update_of_ne different, same.counter, (unchanged _ (elsewhere different)).2]
  · rcases Classical.em (key = portKey port) with here | different
    · exact ⟨port, here⟩
    · rw [Finmap.mem_iff, (unchanged key different).2] at member
      exact same.bytes key (Finmap.mem_iff.mpr member)

theorem Shows.windowExceeded_eq (same : Shows m b) (policy : PolicyActor S3tpPacket) (packet : S3tpPacket) :
    b.windowExceeded policy packet =
      decide (exceeded (m.queueAt (portKey packet.getPort)) policy packet = some true) := by
  rw [Buffer.windowExceeded, same.queues, exceeded]
  cases (m.queueAt (portKey packet.getPort)).isEmpty <;>
    cases (m.queueAt (portKey packet.getPort)).peek <;> simp

theorem Shows.write (same : Shows m b) (wellFormed : m.WellFormed) (policy : PolicyActor S3tpPacket)
    (packet : S3tpPacket) :
    ∃ m', m.write S3tpPacket.getPort policy packet = some m' ∧ Shows m' (b.write policy packet) := by
  refine ⟨_, wellFormed.write_eq S3tpPacket.getPort policy packet, ?_⟩
  have unchanged : UnchangedBut (portKey packet.getPort) m
      (m.count (portKey packet.getPort) (m.extended policy (portKey packet.getPort) packet)) := unchangedBut_count
  have after := same.update unchanged
  rw [queueAt_count] at after
  simp only [Buffer.write, same.windowExceeded_eq]
  by_cases clears : exceeded (m.queueAt (portKey packet.getPort)) policy packet = some true
  · simpa [clears, PriorityQueue.push_eq, Buffer.clearQueueForPort, PriorityQueue.clear, extended, kept, count,
      ByteMap.insert, ByteMap.erase] using after
  · simpa [clears, PriorityQueue.push_eq, extended, kept, count, ByteMap.insert, same.queues] using after

/-- A null entry shows nothing. -/
theorem Shows.insert_none (same : Shows m b) {key : ℤ} (absent : m.queues.lookup key = none) :
    Shows { m with queues := m.queues.insert key none } b := by
  refine ⟨fun other => ?_, same.counter, same.bytes⟩
  rw [same.queues]
  rcases Classical.em (portKey other = key) with rfl | different
  · simp [queueAt, absent]
  · simp [queueAt, different]

theorem Shows.popPacketInternal (same : Shows m b) (wellFormed : m.WellFormed) (policy : PolicyActor S3tpPacket)
    (port : UInt8) : ∃ m', m.popPacketInternal policy (portKey port) =
        some ((b.popPacketInternal policy port).map Prod.fst, m') ∧
      Shows m' (((b.popPacketInternal policy port).map Prod.snd).getD b) := by
  rw [BufferMaps.popPacketInternal, subscript, Buffer.popPacketInternal, same.queues port]
  rcases here : m.queues.lookup (portKey port) with _ | _ | queue
  · have empty : m.queueAt (portKey port) = .empty := by simp [queueAt, here]
    rw [empty]
    exact ⟨_, rfl, same.insert_none here⟩
  · have empty : m.queueAt (portKey port) = .empty := by simp [queueAt, here]
    rw [empty]
    exact ⟨_, rfl, same⟩
  · have found := queueAt_of_lookup here
    rw [found]
    cases holding : queue.isEmpty with
    | true => exact ⟨m, by simp [holding], by simpa using same⟩
    | false =>
      rw [← found] at holding
      obtain ⟨head, rest, nodes, peeked, popped⟩ := wellFormed.peek_eq holding
      rw [found] at peeked popped holding
      cases valid : policy.isElementValid head with
      | false => exact ⟨m, by simp [holding, peeked, valid], by simpa [peeked, valid] using same⟩
      | true =>
        cases last : (⟨rest, queue.size - 1⟩ : PriorityQueue S3tpPacket).isEmpty with
        | true =>
          have unchanged : UnchangedBut (portKey port) m {
              queues := m.queues.insert (portKey port) (some ⟨rest, queue.size - 1⟩)
              packetCounter := m.packetCounter.erase (portKey port) } := fun _ different =>
            ⟨Finmap.lookup_insert_of_ne _ different, Finmap.lookup_erase_ne different⟩
          refine ⟨_, by simp [holding, peeked, popped, valid, last]; rfl, ?_⟩
          simpa [peeked, popped, valid, last, queueAt, ByteMap.erase] using same.update unchanged
        | false =>
          have unchanged : UnchangedBut (portKey port) m (m.count (portKey port) ⟨rest, queue.size - 1⟩) :=
            unchangedBut_count
          refine ⟨_, by simp [holding, peeked, popped, valid, last]; rfl, ?_⟩
          simpa [peeked, popped, valid, last, queueAt, count, ByteMap.insert] using same.update unchanged

/-- The ports are tried in the same order. -/
theorem Shows.ports_eq (same : Shows m b) : m.ports = b.packetCounter.keys.map portKey := by
  have ascending : (b.packetCounter.keys.map portKey).SortedLT := by
    refine (List.pairwise_map.mpr (b.packetCounter.keys_pairwise.imp fun less => ?_)).sortedLT
    exact Int.ofNat_lt.mpr (UInt8.lt_iff_toNat_lt.mp less)
  refine (Finset.sortedLT_sort _).eq_of_mem_iff ascending fun key => ?_
  rw [Finset.mem_sort, Finmap.mem_keys, List.mem_map]
  constructor
  · intro member
    obtain ⟨port, rfl⟩ := same.bytes key member
    refine ⟨port, ?_, rfl⟩
    rw [ByteMap.mem_keys, same.counter, Finmap.lookup_isSome]
    exact member
  · rintro ⟨port, member, rfl⟩
    rwa [ByteMap.mem_keys, same.counter, Finmap.lookup_isSome] at member

theorem Shows.scan (same : Shows m b) (wellFormed : m.WellFormed) (policy : PolicyActor S3tpPacket)
    {ports : List UInt8} (known : ∀ port ∈ ports, m.queues.lookup (portKey port) ≠ none) :
    ∃ m', BufferMaps.scan policy (ports.map portKey) m =
        some ((ports.findSome? (b.popPacketInternal policy)).map Prod.fst, m') ∧
      Shows m' (((ports.findSome? (b.popPacketInternal policy)).map Prod.snd).getD b) := by
  induction ports with
  | nil => exact ⟨m, rfl, same⟩
  | cons port ports ih =>
    obtain ⟨m', stepped, after⟩ := same.popPacketInternal wellFormed policy port
    obtain ⟨result, m'', stepped', popped⟩ := wellFormed.popped policy (portKey port)
    obtain ⟨rfl, rfl⟩ := Prod.mk.inj (Option.some.inj (stepped'.symm.trans stepped))
    rw [List.map_cons, BufferMaps.scan, stepped, List.findSome?_cons]
    cases taken : b.popPacketInternal policy port with
    | none =>
      rw [taken] at popped
      cases popped with
      | nothing => exact ih fun other member => known other (by simp [member])
      | adds absent => exact absurd absent (known port (by simp))
    | some pair =>
      rw [taken] at after
      exact ⟨m'', rfl, after⟩

theorem Shows.getNextAvailablePacket (same : Shows m b) (wellFormed : m.WellFormed)
    (policy : PolicyActor S3tpPacket) : ∃ m', m.getNextAvailablePacket policy =
        some ((b.getNextAvailablePacket policy).map Prod.fst, m') ∧
      Shows m' (((b.getNextAvailablePacket policy).map Prod.snd).getD b) := by
  have empty : m.ports.isEmpty = b.packetCounter.isEmpty := by
    rw [same.ports_eq, ByteMap.isEmpty]
    cases b.packetCounter.keys <;> rfl
  rw [BufferMaps.getNextAvailablePacket, Buffer.getNextAvailablePacket, empty]
  split
  · exact ⟨m, rfl, same⟩
  · rw [same.ports_eq]
    refine same.scan wellFormed policy fun port member => ?_
    rw [ByteMap.mem_keys, same.counter, Finmap.lookup_isSome] at member
    obtain ⟨queue, here⟩ := wellFormed.counted _ member
    simp [here]

theorem Shows.clearQueueForPort (same : Shows m b) (stepped : m.clearQueueForPort port = some m') :
    Shows m' (b.clearQueueForPort port) := by
  have after := same.update (unchangedBut_clearQueueForPort stepped)
  rw [BufferMaps.clearQueueForPort] at stepped
  split at stepped
  · next absent =>
    obtain rfl := Option.some.inj stepped
    have empty : m.queueAt (portKey port) = .empty := by simp [queueAt, absent]
    simpa [Buffer.clearQueueForPort, PriorityQueue.clear, ByteMap.erase, queueAt, absent] using after
  · contradiction
  · obtain rfl := Option.some.inj stepped
    simpa [Buffer.clearQueueForPort, PriorityQueue.clear, ByteMap.erase, queueAt] using after

end Shows

end BufferMaps

end S3tp.Model.Core
