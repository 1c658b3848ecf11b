import S3tp.Model.Core.BufferMaps
import S3tp.Model.Core.LinkedQueue

/-! # The packet buffer in memory

The buffer with the maps of the code, whose pointers lead to queues of nodes linked in memory. Each queue owns its
nodes, and each new node is where the allocator puts it. A result is `none` where the code follows a pointer that is
null or points to a deleted node, or fails an assertion.

`Represents` says which buffer the memory stands for. Every operation does to the memory what the operation of the
same name does to that buffer, and answers alike.
-/

namespace S3tp.Model.Core

open Machine

/-- A pointer to a queue in memory. -/
abbrev LinkedQueuePtr := Option (LinkedQueue S3tpPacket)

structure LinkedBuffer where
  queues : Finmap (fun _ : ℤ => LinkedQueuePtr) := ∅
  packetCounter : Finmap (fun _ : ℤ => ℕ) := ∅

namespace LinkedBuffer

/-- The loop of `clear`. To delete a queue is to clear it, and to delete a null pointer does nothing. -/
def deleteQueues (b : LinkedBuffer) : List ℤ → Option Unit
  | [] => some ()
  | port :: ports =>
    match (b.queues.lookup port).join with
    | none => b.deleteQueues ports
    | some queue => do
      let _ ← queue.clear
      b.deleteQueues ports

def clear (b : LinkedBuffer) : Option LinkedBuffer := do
  b.deleteQueues (BufferMaps.sortedKeys b.queues)
  some {}

def clearQueueForPort (b : LinkedBuffer) (port : UInt8) : Option LinkedBuffer :=
  match b.queues.lookup (portKey port) with
  | none => some { b with packetCounter := b.packetCounter.erase (portKey port) }
  | some none => none
  | some (some queue) => do
    let queue ← queue.clear
    some { queues := b.queues.insert (portKey port) (some queue)
           packetCounter := b.packetCounter.erase (portKey port) }

/-- The ports that have a counter, ascending. -/
def ports (b : LinkedBuffer) : List ℤ := BufferMaps.sortedKeys b.packetCounter

def packetsAvailable (b : LinkedBuffer) : Bool := !b.ports.isEmpty

/-- `queues[port]`. -/
def subscript (b : LinkedBuffer) (port : ℤ) : LinkedQueuePtr × LinkedBuffer :=
  match b.queues.lookup port with
  | some queue => (queue, b)
  | none => (none, { b with queues := b.queues.insert port none })

/-- The queue of the port is now this one, and is counted. -/
def count (b : LinkedBuffer) (port : ℤ) (queue : LinkedQueue S3tpPacket) : LinkedBuffer where
  queues := b.queues.insert port (some queue)
  packetCounter := b.packetCounter.insert port queue.getSize.toNat

/-- Whether the queue's head makes way for the new packet. -/
def exceeded (queue : LinkedQueue S3tpPacket) (policy : PolicyActor S3tpPacket) (packet : S3tpPacket) : Option Bool :=
  if queue.isEmpty then some false else queue.peek.map (policy.maximumWindowExceeded · packet)

def write (b : LinkedBuffer) (allocator : Allocator (LinkedNode S3tpPacket)) (policy : PolicyActor S3tpPacket)
    (packet : S3tpPacket) : Option (ℤ × LinkedBuffer) := do
  let port := portKey packet.getPort
  let (pointer, b) := b.subscript port
  let queue := pointer.getD {}
  let exceeded ← exceeded queue policy packet
  let queue ← (if exceeded then queue.clear else some queue)
  let packetCounter := if exceeded then b.packetCounter.erase port else b.packetCounter
  let (result, queue) ← queue.push (allocator.address queue.heap) packet policy
  if result = queueFull then some (codeSuccess, { queues := b.queues.insert port (some queue), packetCounter })
  else some (codeSuccess, count { b with packetCounter } port queue)

def getActiveQueues (b : LinkedBuffer) : List ℤ :=
  b.ports.filter fun port => (b.packetCounter.lookup port).any (0 < ·)

def getQueue (b : LinkedBuffer) (port : ℤ) : LinkedQueue S3tpPacket × LinkedBuffer :=
  let (pointer, b) := b.subscript port
  match pointer with
  | some queue => (queue, b)
  | none => ({}, { b with queues := b.queues.insert port (some {}) })

def peektNextPacket (b : LinkedBuffer) (port : ℤ) : Option (Option S3tpPacket × LinkedBuffer) :=
  let (pointer, b) := b.subscript port
  match pointer with
  | none => some (none, b)
  | some queue =>
    if queue.isEmpty then some (none, b)
    else do
      let packet ← queue.peek
      some (some packet, b)

def popPacketInternal (b : LinkedBuffer) (policy : PolicyActor S3tpPacket) (port : ℤ) :
    Option (Option S3tpPacket × LinkedBuffer) :=
  let (pointer, b) := b.subscript port
  match pointer with
  | none => some (none, b)
  | some queue =>
    if queue.isEmpty then some (none, b)
    else do
      let packet ← queue.peek
      if policy.isElementValid packet then
        let (packet, queue) ← queue.pop
        if queue.isEmpty then
          some (some packet, {
            queues := b.queues.insert port (some queue), packetCounter := b.packetCounter.erase port })
        else some (some packet, b.count port queue)
      else some (none, b)

def getNextPacket (b : LinkedBuffer) (policy : PolicyActor S3tpPacket) (port : ℤ) :
    Option (Option S3tpPacket × LinkedBuffer) := b.popPacketInternal policy port

/-- The loop of `getNextAvailablePacket`. -/
def scan (policy : PolicyActor S3tpPacket) : List ℤ → LinkedBuffer → Option (Option S3tpPacket × LinkedBuffer)
  | [], b => some (none, b)
  | port :: ports, b => do
    let (packet, b) ← b.popPacketInternal policy port
    match packet with
    | none => scan policy ports b
    | some packet => some (some packet, b)

def getNextAvailablePacket (b : LinkedBuffer) (policy : PolicyActor S3tpPacket) :
    Option (Option S3tpPacket × LinkedBuffer) :=
  if b.ports.isEmpty then some (none, b) else scan policy b.ports b

def getSizeOfQueue (b : LinkedBuffer) (port : UInt8) : ℕ × LinkedBuffer :=
  let (pointer, b) := b.subscript (portKey port)
  match pointer with
  | none => (0, b)
  | some queue => (queue.getSize.toNat, b)

/-! ## The maps the memory stands for -/

/-- The pointers are null at the same ports and lead to the same queues, and the counters are the same. -/
structure Displays (l : LinkedBuffer) (m : BufferMaps S3tpPacket) : Prop where
  queues : ∀ port, Option.Rel (Option.Rel LinkedQueue.Represents) (l.queues.lookup port) (m.queues.lookup port)
  packetCounter : l.packetCounter = m.packetCounter

section Displays

variable {l : LinkedBuffer} {m m' : BufferMaps S3tpPacket} {p : LinkedQueuePtr} {q : QueuePtr S3tpPacket}
  {queue : LinkedQueue S3tpPacket} {policy : PolicyActor S3tpPacket} {packet : S3tpPacket}

theorem displays_empty : Displays {} {} := ⟨fun port => by simp, rfl⟩

theorem Displays.insert (displays : Displays l m) (port : ℤ) (pointer : Option.Rel LinkedQueue.Represents p q) :
    Displays { l with queues := l.queues.insert port p } { m with queues := m.queues.insert port q } := by
  refine ⟨fun other => ?_, displays.packetCounter⟩
  rcases Classical.em (other = port) with rfl | different
  · simpa using pointer
  · simpa [different] using displays.queues other

theorem Displays.counters (displays : Displays l m) {counter : Finmap fun _ : ℤ => ℕ} :
    Displays { l with packetCounter := counter } { m with packetCounter := counter } := ⟨displays.queues, rfl⟩

theorem Displays.subscript (displays : Displays l m) (port : ℤ) :
    Option.Rel LinkedQueue.Represents (l.subscript port).1 (m.subscript port).1 ∧
      Displays (l.subscript port).2 (m.subscript port).2 := by
  have entry := displays.queues port
  rw [LinkedBuffer.subscript, BufferMaps.subscript]
  cases here : l.queues.lookup port <;> cases there : m.queues.lookup port <;> rw [here, there] at entry
  · exact ⟨.none, displays.insert port .none⟩
  · exact absurd entry Option.not_rel_none_some
  · exact absurd entry Option.not_rel_some_none
  · exact ⟨Option.rel_some_some.mp entry, displays⟩

theorem Displays.count {queue : LinkedQueue S3tpPacket} {queue' : PriorityQueue S3tpPacket}
    (displays : Displays l m) (port : ℤ) (represents : queue.Represents queue') :
    Displays (l.count port queue) (m.count port queue') := by
  have size : queue.getSize = queue'.getSize := represents.1
  rw [LinkedBuffer.count, BufferMaps.count, size, displays.packetCounter]
  exact (displays.insert port (.some represents)).counters

theorem represents_getD (pointer : Option.Rel LinkedQueue.Represents p q) :
    (p.getD {}).Represents (q.getD .empty) := by
  cases pointer with
  | none => exact LinkedQueue.represents_empty
  | some represents => exact represents

theorem exceeded_eq {queue' : PriorityQueue S3tpPacket} (represents : queue.Represents queue')
    (policy : PolicyActor S3tpPacket) (packet : S3tpPacket) :
    exceeded queue policy packet = BufferMaps.exceeded queue' policy packet := by
  rw [exceeded, BufferMaps.exceeded, ← represents.isEmpty_eq]
  cases holding : queue.isEmpty with
  | true => rfl
  | false => rw [LinkedQueue.peek_eq represents holding]

/-- What is left of the queue when the new packet is linked. -/
theorem kept_represents {queue' : PriorityQueue S3tpPacket} (represents : queue.Represents queue') (exceeded : Bool) :
    ∃ kept, (if exceeded then queue.clear else some queue) = some kept ∧
      kept.Represents (if exceeded then queue'.clear else queue') := by
  cases exceeded with
  | false => exact ⟨queue, rfl, represents⟩
  | true => exact LinkedQueue.clear_represents represents

theorem Displays.write (displays : Displays l m) (allocator : Allocator (LinkedNode S3tpPacket))
    (stepped : m.write S3tpPacket.getPort policy packet = some m') :
    ∃ l', l.write allocator policy packet = some (codeSuccess, l') ∧ Displays l' m' := by
  obtain ⟨pointer, after⟩ := displays.subscript (portKey packet.getPort)
  have represents := represents_getD pointer
  rw [BufferMaps.write] at stepped
  dsimp only at stepped
  obtain ⟨exceeded, answer, stepped⟩ := Option.bind_eq_some_iff.mp stepped
  obtain ⟨kept, keeps, represents⟩ := kept_represents represents exceeded
  obtain ⟨pushed, pushed', links, links', represents⟩ :=
    LinkedQueue.push_represents represents (allocator.fresh kept.heap) packet policy
  have accepted : codeSuccess ≠ queueFull := by decide
  rw [links'] at stepped
  obtain rfl := Option.some.inj stepped
  rw [LinkedBuffer.write]
  dsimp only
  rw [exceeded_eq (represents_getD pointer), answer]
  dsimp only [Option.bind_eq_bind, Option.bind_some]
  rw [keeps]
  dsimp only [Option.bind_some]
  rw [links]
  dsimp only [Option.bind_some]
  rw [if_neg accepted, after.packetCounter]
  exact ⟨_, rfl, after.counters.count _ represents⟩

theorem Displays.popPacketInternal {result : Option S3tpPacket} (displays : Displays l m) {port : ℤ}
    (stepped : m.popPacketInternal policy port = some (result, m')) :
    ∃ l', l.popPacketInternal policy port = some (result, l') ∧ Displays l' m' := by
  obtain ⟨pointer, after⟩ := displays.subscript port
  rw [BufferMaps.popPacketInternal] at stepped
  rw [LinkedBuffer.popPacketInternal]
  dsimp only at stepped ⊢
  generalize (l.subscript port).1 = p at pointer ⊢
  generalize (m.subscript port).1 = q at pointer stepped
  cases pointer with
  | none =>
    obtain ⟨rfl, rfl⟩ := Prod.mk.inj (Option.some.inj stepped)
    exact ⟨_, rfl, after⟩
  | @some queue queue' represents =>
    dsimp only at stepped ⊢
    rw [represents.isEmpty_eq]
    split at stepped
    · next drained =>
      obtain ⟨rfl, rfl⟩ := Prod.mk.inj (Option.some.inj stepped)
      exact ⟨_, if_pos drained, after⟩
    next holds =>
    have holding : queue.isEmpty = false := by simpa [represents.isEmpty_eq] using holds
    rw [if_neg holds, LinkedQueue.peek_eq represents holding]
    obtain ⟨head, peeked, stepped⟩ := Option.bind_eq_some_iff.mp stepped
    rw [peeked]
    dsimp only [Option.bind_eq_bind, Option.bind_some]
    split at stepped
    · next valid =>
      obtain ⟨⟨packet, left'⟩, popped, stepped⟩ := Option.bind_eq_some_iff.mp stepped
      obtain ⟨left, pops, represents⟩ := LinkedQueue.pop_represents represents holding popped
      rw [if_pos valid, pops]
      dsimp only [Option.bind_some] at stepped ⊢
      rw [represents.isEmpty_eq]
      split at stepped
      · next last =>
        obtain ⟨rfl, rfl⟩ := Prod.mk.inj (Option.some.inj stepped)
        refine ⟨_, if_pos last, ?_⟩
        rw [after.packetCounter]
        exact (after.insert port (.some represents)).counters
      · next more =>
        obtain ⟨rfl, rfl⟩ := Prod.mk.inj (Option.some.inj stepped)
        exact ⟨_, if_neg more, after.count port represents⟩
    · next invalid =>
      obtain ⟨rfl, rfl⟩ := Prod.mk.inj (Option.some.inj stepped)
      exact ⟨_, if_neg invalid, after⟩

theorem Displays.scan {result : Option S3tpPacket} (displays : Displays l m) {ports : List ℤ}
    (stepped : BufferMaps.scan policy ports m = some (result, m')) :
    ∃ l', scan policy ports l = some (result, l') ∧ Displays l' m' := by
  induction ports generalizing l m with
  | nil =>
    obtain ⟨rfl, rfl⟩ := Prod.mk.inj (Option.some.inj stepped)
    exact ⟨l, rfl, displays⟩
  | cons port ports ih =>
    rw [BufferMaps.scan] at stepped
    obtain ⟨⟨packet, mid⟩, popped, stepped⟩ := Option.bind_eq_some_iff.mp stepped
    obtain ⟨l', pops, after⟩ := displays.popPacketInternal popped
    rw [LinkedBuffer.scan, pops]
    dsimp only [Option.bind_eq_bind, Option.bind_some] at stepped ⊢
    cases packet with
    | none => exact ih after stepped
    | some packet =>
      obtain ⟨rfl, rfl⟩ := Prod.mk.inj (Option.some.inj stepped)
      exact ⟨l', rfl, after⟩

theorem Displays.ports_eq (displays : Displays l m) : l.ports = m.ports := by
  rw [LinkedBuffer.ports, displays.packetCounter]
  rfl

theorem Displays.getNextAvailablePacket {result : Option S3tpPacket} (displays : Displays l m)
    (stepped : m.getNextAvailablePacket policy = some (result, m')) :
    ∃ l', l.getNextAvailablePacket policy = some (result, l') ∧ Displays l' m' := by
  rw [BufferMaps.getNextAvailablePacket] at stepped
  rw [LinkedBuffer.getNextAvailablePacket, displays.ports_eq]
  split at stepped
  · next drained =>
    obtain ⟨rfl, rfl⟩ := Prod.mk.inj (Option.some.inj stepped)
    exact ⟨l, if_pos drained, displays⟩
  · next counted =>
    rw [if_neg counted]
    exact displays.scan stepped

theorem Displays.clearQueueForPort (displays : Displays l m) {port : UInt8}
    (stepped : m.clearQueueForPort port = some m') : ∃ l', l.clearQueueForPort port = some l' ∧ Displays l' m' := by
  have entry := displays.queues (portKey port)
  rw [BufferMaps.clearQueueForPort] at stepped
  rw [LinkedBuffer.clearQueueForPort, displays.packetCounter]
  generalize l.queues.lookup (portKey port) = here at entry ⊢
  generalize m.queues.lookup (portKey port) = there at entry stepped
  cases entry with
  | none =>
    obtain rfl := Option.some.inj stepped
    exact ⟨_, rfl, displays.counters⟩
  | some entry =>
    cases entry with
    | none => contradiction
    | @some queue queue' represents =>
      obtain rfl := Option.some.inj stepped
      obtain ⟨cleared, clears, empty⟩ := LinkedQueue.clear_represents represents
      dsimp only
      rw [clears]
      exact ⟨_, rfl, (displays.insert _ (.some empty)).counters⟩

/-- The destructors find every queue in order. -/
theorem Displays.clear (displays : Displays l m) : l.clear = some {} := by
  have deletes (ports : List ℤ) : l.deleteQueues ports = some () := by
    induction ports with
    | nil => rfl
    | cons port ports ih =>
      rw [deleteQueues]
      cases here : (l.queues.lookup port).join with
      | none => exact ih
      | some queue =>
        have entry := displays.queues port
        rw [Option.join_eq_some_iff.mp here] at entry
        generalize m.queues.lookup port = there at entry
        cases entry with
        | some entry =>
          cases entry with
          | some represents =>
            obtain ⟨cleared, clears, -⟩ := LinkedQueue.clear_represents represents
            dsimp only
            rw [clears]
            exact ih
  rw [LinkedBuffer.clear, deletes]
  rfl

end Displays

/-! ## The buffer the memory stands for -/

/-- The maps in memory are well formed and show the buffer. -/
def Represents (l : LinkedBuffer) (b : Buffer) : Prop :=
  ∃ m : BufferMaps S3tpPacket, l.Displays m ∧ m.WellFormed ∧ m.Shows b

section Represents

variable {l : LinkedBuffer} {b : Buffer}

theorem represents_empty : Represents {} .empty :=
  ⟨{}, displays_empty, BufferMaps.wellFormed_empty, BufferMaps.shows_empty⟩

theorem Represents.write (represents : l.Represents b) (allocator : Allocator (LinkedNode S3tpPacket))
    (policy : PolicyActor S3tpPacket) (packet : S3tpPacket) :
    ∃ l', l.write allocator policy packet = some (codeSuccess, l') ∧ l'.Represents (b.write policy packet) := by
  obtain ⟨m, displays, wellFormed, shows⟩ := represents
  obtain ⟨m', stepped, after⟩ := shows.write wellFormed policy packet
  obtain ⟨l', writes, displays'⟩ := displays.write allocator stepped
  refine ⟨l', writes, m', displays', ?_, after⟩
  rw [wellFormed.write_eq] at stepped
  obtain rfl := Option.some.inj stepped
  exact wellFormed.count (wellFormed.size_extended policy _ packet)

theorem Represents.popPacketInternal (represents : l.Represents b) (policy : PolicyActor S3tpPacket) (port : UInt8) :
    ∃ l', l.popPacketInternal policy (portKey port) = some ((b.popPacketInternal policy port).map Prod.fst, l') ∧
      l'.Represents (((b.popPacketInternal policy port).map Prod.snd).getD b) := by
  obtain ⟨m, displays, wellFormed, shows⟩ := represents
  obtain ⟨m', stepped, after⟩ := shows.popPacketInternal wellFormed policy port
  obtain ⟨l', pops, displays'⟩ := displays.popPacketInternal stepped
  obtain ⟨result, m'', stepped', popped⟩ := wellFormed.popped policy (portKey port)
  obtain ⟨-, rfl⟩ := Prod.mk.inj (Option.some.inj (stepped'.symm.trans stepped))
  exact ⟨l', pops, m'', displays', popped.wellFormed wellFormed, after⟩

theorem Represents.getNextAvailablePacket (represents : l.Represents b) (policy : PolicyActor S3tpPacket) :
    ∃ l', l.getNextAvailablePacket policy = some ((b.getNextAvailablePacket policy).map Prod.fst, l') ∧
      l'.Represents (((b.getNextAvailablePacket policy).map Prod.snd).getD b) := by
  obtain ⟨m, displays, wellFormed, shows⟩ := represents
  obtain ⟨m', stepped, after⟩ := shows.getNextAvailablePacket wellFormed policy
  obtain ⟨l', takes, displays'⟩ := displays.getNextAvailablePacket stepped
  obtain ⟨result, m'', stepped', popped⟩ := wellFormed.getNextAvailablePacket_eq policy
  obtain ⟨-, rfl⟩ := Prod.mk.inj (Option.some.inj (stepped'.symm.trans stepped))
  refine ⟨l', takes, m'', displays', ?_, after⟩
  rcases popped with ⟨-, rfl⟩ | ⟨port, head, -, popped⟩
  · exact wellFormed
  · exact popped.wellFormed wellFormed

theorem Represents.clear (represents : l.Represents b) : ∃ l', l.clear = some l' ∧ l'.Represents b.clear := by
  obtain ⟨m, displays, -, -⟩ := represents
  exact ⟨{}, displays.clear, represents_empty⟩

theorem Represents.clearQueueForPort (represents : l.Represents b) {port : UInt8}
    (notNull : l.queues.lookup (portKey port) ≠ some none) :
    ∃ l', l.clearQueueForPort port = some l' ∧ l'.Represents (b.clearQueueForPort port) := by
  obtain ⟨m, displays, wellFormed, shows⟩ := represents
  have entry := displays.queues (portKey port)
  cases stepped : m.clearQueueForPort port with
  | none =>
    rw [BufferMaps.clearQueueForPort_eq_none_iff.mp stepped] at entry
    generalize l.queues.lookup (portKey port) = here at entry notNull
    cases entry with
    | some entry =>
      cases entry with
      | none => exact absurd rfl notNull
  | some m' =>
    obtain ⟨l', clears, displays'⟩ := displays.clearQueueForPort stepped
    exact ⟨l', clears, m', displays', (wellFormed.clearQueueForPort stepped).1, shows.clearQueueForPort stepped⟩

/-- A pointer to nothing or to an empty queue is put where there is none to a queue. -/
theorem Represents.insert_blank (represents : l.Represents b) {port : UInt8} {p : LinkedQueuePtr}
    (null : (l.queues.lookup (portKey port)).join = none) (blank : p = none ∨ p = some {}) :
    Represents { l with queues := l.queues.insert (portKey port) p } b := by
  obtain ⟨m, displays, wellFormed, shows⟩ := represents
  obtain ⟨q, pointer, blank'⟩ : ∃ q : QueuePtr S3tpPacket, Option.Rel LinkedQueue.Represents p q ∧
      q.getD .empty = .empty := by
    rcases blank with rfl | rfl
    · exact ⟨none, .none, rfl⟩
    · exact ⟨some .empty, .some LinkedQueue.represents_empty, rfl⟩
  have null' : (m.queues.lookup (portKey port)).join = none := by
    have entry := displays.queues (portKey port)
    generalize l.queues.lookup (portKey port) = here at entry null
    generalize m.queues.lookup (portKey port) = there at entry
    cases entry with
    | none => rfl
    | some entry =>
      obtain rfl : _ = none := null
      cases entry
      rfl
  refine ⟨_, displays.insert (portKey port) pointer, ?_, fun other => ?_, shows.counter, shows.bytes⟩
  · have unchanged : BufferMaps.UnchangedBut (portKey port) m { m with queues := m.queues.insert (portKey port) q } :=
      fun other different => ⟨Finmap.lookup_insert_of_ne _ different, rfl⟩
    refine wellFormed.of_unchangedBut unchanged (fun queue here => ?_) fun counted => ?_
    · obtain rfl : q = some queue := by simpa using here
      obtain rfl : queue = .empty := blank'
      rfl
    · obtain ⟨queue, here⟩ := wellFormed.counted _ counted
      rw [here] at null'
      contradiction
  · rw [shows.queues, BufferMaps.queueAt, BufferMaps.queueAt]
    rcases Classical.em (portKey other = portKey port) with same | different
    · rw [same, null', Finmap.lookup_insert]
      exact blank'.symm
    · rw [Finmap.lookup_insert_of_ne _ different]

/-- Looking a port up finds its queue, and changes nothing. -/
theorem Represents.subscript (represents : l.Represents b) (port : UInt8) :
    ((l.subscript (portKey port)).1.getD {}).Represents (b.queues port) ∧
      (l.subscript (portKey port)).2.Represents b ∧
      (l.subscript (portKey port)).2.queues.lookup (portKey port) = some (l.subscript (portKey port)).1 := by
  refine ⟨?_, ?_⟩
  · obtain ⟨m, displays, -, shows⟩ := represents
    rw [shows.queues, ← BufferMaps.queues_subscript]
    exact represents_getD (displays.subscript (portKey port)).1
  · rw [LinkedBuffer.subscript]
    cases here : l.queues.lookup (portKey port) with
    | some queue => exact ⟨represents, here⟩
    | none => exact ⟨represents.insert_blank (by rw [here]; rfl) (.inl rfl), Finmap.lookup_insert _⟩

/-- The queue of a port is found or made, and from then on there is one. -/
theorem Represents.getQueue (represents : l.Represents b) (port : UInt8) :
    (l.getQueue (portKey port)).1.Represents (b.getQueue port) ∧ (l.getQueue (portKey port)).2.Represents b ∧
      (l.getQueue (portKey port)).2.queues.lookup (portKey port) = some (some (l.getQueue (portKey port)).1) := by
  obtain ⟨queue, after, entry⟩ := represents.subscript port
  rw [LinkedBuffer.getQueue]
  dsimp only
  cases pointer : (l.subscript (portKey port)).1 with
  | some found =>
    rw [pointer] at queue entry
    exact ⟨queue, after, entry⟩
  | none =>
    rw [pointer] at queue entry
    exact ⟨queue, after.insert_blank (by rw [entry]; rfl) (.inr rfl), Finmap.lookup_insert _⟩

/-- A queue that does not say it is empty has a head. -/
theorem Represents.exists_peek (represents : l.Represents b) {port : UInt8}
    (holding : (b.queues port).isEmpty = false) : ∃ head, (b.queues port).peek = some head := by
  obtain ⟨m, -, wellFormed, shows⟩ := represents
  rw [shows.queues] at holding ⊢
  obtain ⟨head, -, -, peeked, -⟩ := wellFormed.peek_eq holding
  exact ⟨head, peeked⟩

theorem Represents.peektNextPacket (represents : l.Represents b) (port : UInt8) :
    ∃ l', l.peektNextPacket (portKey port) = some (b.peektNextPacket port, l') ∧ l'.Represents b := by
  obtain ⟨queue, after, -⟩ := represents.subscript port
  refine ⟨_, ?_, after⟩
  rw [LinkedBuffer.peektNextPacket, Buffer.peektNextPacket, ← queue.isEmpty_eq]
  dsimp only
  cases pointer : (l.subscript (portKey port)).1 with
  | none => rfl
  | some found =>
    rw [pointer] at queue
    dsimp only [Option.getD_some] at queue ⊢
    split
    · rfl
    · next holds =>
      have holding : found.isEmpty = false := by simpa using holds
      obtain ⟨head, peeked⟩ := represents.exists_peek (queue.isEmpty_eq.symm.trans holding)
      rw [LinkedQueue.peek_eq queue holding, peeked]
      rfl

theorem Represents.getSizeOfQueue (represents : l.Represents b) (port : UInt8) :
    (l.getSizeOfQueue port).1 = (b.getSizeOfQueue port).toNat ∧ (l.getSizeOfQueue port).2.Represents b := by
  obtain ⟨queue, after, -⟩ := represents.subscript port
  have size := queue.1
  rw [LinkedBuffer.getSizeOfQueue, Buffer.getSizeOfQueue, PriorityQueue.getSize, ← size]
  dsimp only
  cases pointer : (l.subscript (portKey port)).1 with
  | none => exact ⟨rfl, after⟩
  | some found => exact ⟨rfl, after⟩

theorem Represents.ports_eq (represents : l.Represents b) : l.ports = b.packetCounter.keys.map portKey := by
  obtain ⟨m, displays, -, shows⟩ := represents
  rw [displays.ports_eq, shows.ports_eq]

theorem Represents.packetsAvailable (represents : l.Represents b) : l.packetsAvailable = b.packetsAvailable := by
  rw [LinkedBuffer.packetsAvailable, represents.ports_eq, Buffer.packetsAvailable, ByteMap.isEmpty]
  cases b.packetCounter.keys <;> rfl

theorem Represents.getActiveQueues (represents : l.Represents b) :
    l.getActiveQueues = b.getActiveQueues.map portKey := by
  rw [LinkedBuffer.getActiveQueues, represents.ports_eq, Buffer.getActiveQueues, List.filter_map]
  obtain ⟨m, displays, -, shows⟩ := represents
  congr 1
  refine List.filter_congr fun port _ => ?_
  rw [Function.comp_apply, displays.packetCounter, shows.counter]

end Represents

end LinkedBuffer

end S3tp.Model.Core
