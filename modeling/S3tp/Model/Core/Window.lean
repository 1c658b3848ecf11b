import S3tp.Model.Core.RxModule

/-! # The receiving window

What the window update does to the queues and the counters. Nothing is cleared while the numbers in
the window lie less than half a turn above its lower end, neither when a packet is written nor when
the queues are flushed.
-/

namespace S3tp.Model.Core.RxModule

variable (rx : RxModule) (packet : S3tpPacket) (port : UInt8)

/-- The test by which `flushQueues` clears a queue. -/
def tooOld (queue : PriorityQueue S3tpPacket) : Bool :=
  !queue.isEmpty && queue.peek.any fun head => maxReorderingWindow ≤ (rx.relativeGlobalSeq head).toNat

/-- Heads less than half a turn above the window's lower end are not too old. -/
theorem tooOld_eq_false {queue : PriorityQueue S3tpPacket}
    (fresh : ∀ head ∈ queue.nodes.head?, (rx.relativeGlobalSeq head).toNat < 128) : rx.tooOld queue = false := by
  rw [tooOld, Bool.and_eq_false_iff, Option.any_eq_false]
  exact .inr fun head found => decide_eq_false (Nat.not_le.mpr (fresh head found))

/-- In a counted queue the size field plays no part in it. -/
theorem tooOld_eq_true_iff {queue : PriorityQueue S3tpPacket} (counted : queue.Counted) :
    rx.tooOld queue = true ↔ ∃ head ∈ queue.nodes.head?, 128 ≤ (rx.relativeGlobalSeq head).toNat := by
  rw [tooOld, Bool.and_eq_true, Option.any_eq_true]
  constructor
  · rintro ⟨-, head, first, old⟩
    exact ⟨head, first, of_decide_eq_true old⟩
  · rintro ⟨head, first, old⟩
    refine ⟨?_, head, first, decide_eq_true old⟩
    rw [Bool.not_eq_true', ← Bool.not_eq_true, counted.isEmpty_iff]
    rintro none
    simp [none] at first

/-! ## Writing -/

/-- Two numbers in the same half of the window's turn do not exceed the window. -/
theorem maximumWindowExceeded_eq_false {queueHead newElement : S3tpPacket}
    (head : (rx.relativeGlobalSeq queueHead).toNat < 128) (new : (rx.relativeGlobalSeq newElement).toNat < 128) :
    rx.maximumWindowExceeded queueHead newElement = false := by
  rw [maximumWindowExceeded, decide_eq_false_iff_not, maxReorderingWindow]
  omega

theorem windowExceeded_eq_false
    (inside : ∀ head ∈ (rx.inBuffer.held packet.getPort).head?, rx.maximumWindowExceeded head packet = false) :
    rx.inBuffer.windowExceeded rx.policy packet = false := by
  rw [Buffer.windowExceeded, Bool.and_eq_false_iff, Option.any_eq_false]
  exact .inr fun head found => by simp [policy, inside head found]

/-- A packet that does not make the window test fire is linked into its queue. -/
theorem held_writePacket (inside : rx.inBuffer.windowExceeded rx.policy packet = false) :
    (rx.writePacket packet).inBuffer.held packet.getPort =
      (rx.inBuffer.held packet.getPort).insertFromTail (Buffer.ahead rx.policy) packet := by
  rw [writePacket, Buffer.held_write_self, Buffer.kept, inside]
  rfl

/-! ## Flushing -/

theorem flushQueue_eq (buffer : Buffer) : rx.flushQueue buffer port =
    if rx.tooOld (buffer.queues port) then buffer.clearQueueForPort port else buffer := by
  rw [flushQueue, tooOld]
  rcases Bool.eq_false_or_eq_true (buffer.queues port).isEmpty with empty | nonempty
  · simp [Buffer.getQueue, empty]
  · simp only [Buffer.getQueue, nonempty, Bool.not_false, Bool.true_and, Bool.false_eq_true, if_false]
    rfl

/-- Flushing a list of ports clears, among these, the queues that are too old. -/
theorem foldl_flushQueue (ports : List UInt8) (buffer : Buffer) :
    (ports.foldl rx.flushQueue buffer).queues port =
      if port ∈ ports ∧ rx.tooOld (buffer.queues port) = true then .empty else buffer.queues port := by
  induction ports generalizing buffer with
  | nil => simp
  | cons first later ih =>
    rw [List.foldl_cons, ih, flushQueue_eq]
    rcases Classical.em (port = first) with rfl | other
    · cases old : rx.tooOld (buffer.queues port) with
      | true => simp [Buffer.clearQueueForPort, PriorityQueue.clear, tooOld, PriorityQueue.isEmpty,
          PriorityQueue.empty]
      | false => simp [old]
    · split <;> simp [other, Buffer.clearQueueForPort]

/-- Two modules that find the same queues too old leave the same buffer. -/
theorem foldl_flushQueue_congr {rx rx' : RxModule} {ports : List UInt8} {buffer : Buffer}
    (alike : ∀ port ∈ ports, rx'.tooOld (buffer.queues port) = rx.tooOld (buffer.queues port)) :
    ports.foldl rx'.flushQueue buffer = ports.foldl rx.flushQueue buffer := by
  induction ports generalizing buffer with
  | nil => rfl
  | cons first later ih =>
    have same : rx'.flushQueue buffer first = rx.flushQueue buffer first := by
      rw [flushQueue_eq, flushQueue_eq, alike first List.mem_cons_self]
    rw [List.foldl_cons, List.foldl_cons, same]
    apply ih
    intro port member
    rw [flushQueue_eq]
    split
    · rcases Classical.em (port = first) with rfl | other
      · simp [Buffer.clearQueueForPort, tooOld, PriorityQueue.clear, PriorityQueue.isEmpty, PriorityQueue.empty]
      · simpa [Buffer.clearQueueForPort, other] using alike port (List.mem_cons_of_mem _ member)
    · exact alike port (List.mem_cons_of_mem _ member)

/-- A flush touches nothing but queues that are too old. -/
theorem flushQueues_queues : rx.flushQueues.inBuffer.queues port =
    if port ∈ rx.inBuffer.getActiveQueues ∧ rx.tooOld (rx.inBuffer.queues port) = true then .empty
    else rx.inBuffer.queues port := rx.foldl_flushQueue port _ _

theorem foldl_flushQueue_consistent (ports : List UInt8) {buffer : Buffer} (consistent : buffer.Consistent) :
    (ports.foldl rx.flushQueue buffer).Consistent := by
  induction ports generalizing buffer with
  | nil => exact consistent
  | cons first later ih =>
    rw [List.foldl_cons]
    apply ih
    rw [flushQueue_eq]
    split
    · exact consistent.clearQueueForPort first
    · exact consistent

/-! ## The window update -/

/-- The newest number received, once the packet's is taken into account. -/
def newestGlobalSeq : UInt8 :=
  if rx.isNewest packet then packet.header.getGlobalSequence else rx.lastReceivedGlobalSeq

/-- Before the window is full, the update counts the packet. -/
theorem updateWindow_of_lt (room : (rx.receivingWindow + 1).toNat < 128) : rx.updateWindow packet =
    { rx with lastReceivedGlobalSeq := rx.newestGlobalSeq packet, receivingWindow := rx.receivingWindow + 1 } :=
  if_neg (Nat.not_le.mpr room)

/-- The packet that fills the window moves it up to the newest number. -/
theorem updateWindow_of_ge (full : 128 ≤ (rx.receivingWindow + 1).toNat) : rx.updateWindow packet =
    { rx with
      inBuffer := rx.flushQueues.inBuffer
      toConsumeGlobalSeq := rx.newestGlobalSeq packet
      lastReceivedGlobalSeq := rx.newestGlobalSeq packet
      receivingWindow := 0 } :=
  if_pos full

/-- A queue is cleared when the packet fills the window and the queue is too old. -/
theorem updateWindow_queues : (rx.updateWindow packet).inBuffer.queues port =
    if 128 ≤ (rx.receivingWindow + 1).toNat ∧ port ∈ rx.inBuffer.getActiveQueues ∧
        rx.tooOld (rx.inBuffer.queues port) = true then .empty
    else rx.inBuffer.queues port := by
  rcases Nat.lt_or_ge (rx.receivingWindow + 1).toNat 128 with room | full
  · rw [updateWindow_of_lt rx packet room, if_neg (fun all => Nat.not_le.mpr room all.1)]
  · rw [updateWindow_of_ge rx packet full]
    simp only [full, true_and]
    exact rx.flushQueues_queues port

theorem updateWindow_consistent (consistent : rx.inBuffer.Consistent) :
    (rx.updateWindow packet).inBuffer.Consistent := by
  rcases Nat.lt_or_ge (rx.receivingWindow + 1).toNat 128 with room | full
  · rw [updateWindow_of_lt rx packet room]
    exact consistent
  · rw [updateWindow_of_ge rx packet full]
    exact rx.foldl_flushQueue_consistent _ consistent

theorem updateWindow_frame : rx.updateWindow packet = { rx with
    inBuffer := (rx.updateWindow packet).inBuffer
    toConsumeGlobalSeq := (rx.updateWindow packet).toConsumeGlobalSeq
    lastReceivedGlobalSeq := rx.newestGlobalSeq packet
    receivingWindow := (rx.updateWindow packet).receivingWindow } := by
  rcases Nat.lt_or_ge (rx.receivingWindow + 1).toNat 128 with room | full
  · rw [updateWindow_of_lt rx packet room]
  · rw [updateWindow_of_ge rx packet full]

/-! ## Receiving a data packet

Only the first of the three sections adds to a queue, only the second one flags a port, and only the
third one moves the window. -/

theorem notifyIfComplete_frame : rx.notifyIfComplete port = { rx with
    availableMessages := if rx.isCompleteMessageForPortAvailable port then rx.availableMessages.insert port 1
      else rx.availableMessages } := by
  rw [notifyIfComplete]
  split <;> rfl

/-- Receiving a data packet leaves alone what the other operations are about. -/
theorem receiveData_frame : rx.receiveData packet = { rx with
    inBuffer := (rx.receiveData packet).inBuffer
    toConsumeGlobalSeq := (rx.receiveData packet).toConsumeGlobalSeq
    lastReceivedGlobalSeq := rx.newestGlobalSeq packet
    receivingWindow := (rx.receiveData packet).receivingWindow
    availableMessages := (rx.receiveData packet).availableMessages } := by
  rw [receiveData, notifyIfComplete_frame, updateWindow_frame]
  rfl

@[simp] theorem receiveData_active : (rx.receiveData packet).active = rx.active := by rw [receiveData_frame]

@[simp] theorem receiveData_openPorts : (rx.receiveData packet).openPorts = rx.openPorts := by
  rw [receiveData_frame]

@[simp] theorem receiveData_isPortOpen : (rx.receiveData packet).isPortOpen port = rx.isPortOpen port := by
  rw [isPortOpen, receiveData_openPorts, receiveData_active, isPortOpen]

@[simp] theorem receiveData_rxMutexHeld : (rx.receiveData packet).rxMutexHeld = rx.rxMutexHeld := by
  rw [receiveData_frame]

@[simp] theorem receiveData_currentPortSequence :
    (rx.receiveData packet).currentPortSequence = rx.currentPortSequence := by rw [receiveData_frame]

@[simp] theorem receiveData_lastReceivedGlobalSeq :
    (rx.receiveData packet).lastReceivedGlobalSeq = rx.newestGlobalSeq packet := by rw [receiveData_frame]

theorem receiveData_availableMessages : (rx.receiveData packet).availableMessages =
    if (rx.writePacket packet).isCompleteMessageForPortAvailable packet.getPort then
      rx.availableMessages.insert packet.getPort 1
    else rx.availableMessages := by
  rw [receiveData, updateWindow_frame, notifyIfComplete_frame]
  rfl

/-- The packet fills the window, and the queue that holds it by then is too old. -/
def Flushes : Prop :=
  128 ≤ (rx.receivingWindow + 1).toNat ∧ port ∈ (rx.writePacket packet).inBuffer.getActiveQueues ∧
    rx.tooOld ((rx.writePacket packet).inBuffer.queues port) = true

instance : Decidable (rx.Flushes packet port) := inferInstanceAs (Decidable (_ ∧ _))

theorem receiveData_queues : (rx.receiveData packet).inBuffer.queues port =
    if rx.Flushes packet port then .empty else (rx.writePacket packet).inBuffer.queues port := by
  rw [receiveData, notifyIfComplete_frame, updateWindow_queues]
  rfl

theorem receiveData_held : (rx.receiveData packet).inBuffer.held port =
    if rx.Flushes packet port then [] else (rx.writePacket packet).inBuffer.held port := by
  rw [Buffer.held, receiveData_queues]
  split <;> rfl

/-- A packet leaves the other ports alone unless it makes a flush clear them. -/
theorem untouched_receiveData {port : UInt8} (other : port ≠ packet.getPort) (stays : ¬ rx.Flushes packet port) :
    Untouched rx (rx.receiveData packet) port where
  queue := by
    rw [receiveData_queues, if_neg stays]
    exact Buffer.queues_write_of_ne _ _ other
  expected := by rw [receiveData_currentPortSequence]
  flag := by
    rw [receiveData_availableMessages]
    split
    · exact ByteMap.insert_of_ne _ _ other
    · rfl

theorem receiveData_consistent (consistent : (rx.writePacket packet).inBuffer.Consistent) :
    (rx.receiveData packet).inBuffer.Consistent := by
  rw [receiveData, notifyIfComplete_frame]
  exact updateWindow_consistent _ packet consistent

theorem receiveData_of_lt (room : (rx.receivingWindow + 1).toNat < 128) :
    (rx.receiveData packet).toConsumeGlobalSeq = rx.toConsumeGlobalSeq ∧
      (rx.receiveData packet).receivingWindow = rx.receivingWindow + 1 := by
  rw [receiveData, notifyIfComplete_frame, updateWindow_of_lt]
  · exact ⟨rfl, rfl⟩
  · exact room

theorem receiveData_of_ge (full : 128 ≤ (rx.receivingWindow + 1).toNat) :
    (rx.receiveData packet).toConsumeGlobalSeq = rx.newestGlobalSeq packet ∧
      (rx.receiveData packet).receivingWindow = 0 := by
  rw [receiveData, notifyIfComplete_frame, updateWindow_of_ge]
  · exact ⟨rfl, rfl⟩
  · exact full

end S3tp.Model.Core.RxModule
