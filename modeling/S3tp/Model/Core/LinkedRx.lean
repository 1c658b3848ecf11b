import S3tp.Model.Core.LinkedBuffer
import S3tp.Model.Core.RxModule

/-! # The receiving module in memory

The receiving module whose input buffer is in memory: it looks for complete messages along the `next` pointers of a
queue, asks the queues themselves how old their heads are, and takes packets by pointers that may be null. What the
module holds besides the buffer are the fields of `RxModule`, whose own buffer is not used.

A result is `none` where the code follows a pointer that is null or points to a deleted node, or fails an assertion.
`Represents` says which module with a buffer as a value the memory stands for.
-/

namespace S3tp.Model.Core

open Machine

structure LinkedRx where
  fields : RxModule := {}
  inBuffer : LinkedBuffer := {}

namespace LinkedRx

def reset (rx : LinkedRx) : Option LinkedRx := do
  let inBuffer ← rx.inBuffer.clear
  some { fields := rx.fields.reset, inBuffer }

def startModule (rx : LinkedRx) : LinkedRx := { rx with fields := rx.fields.startModule }

def stopModule (rx : LinkedRx) : LinkedRx := { rx with fields := rx.fields.stopModule }

def openPort (rx : LinkedRx) (port : UInt8) : ℤ × LinkedRx :=
  ((rx.fields.openPort port).1, { rx with fields := (rx.fields.openPort port).2 })

def closePort (rx : LinkedRx) (port : UInt8) : ℤ × LinkedRx :=
  ((rx.fields.closePort port).1, { rx with fields := (rx.fields.closePort port).2 })

/-! ## Complete messages -/

/-- The loop of `isCompleteMessageForPortAvailable`, from a node towards the tail. -/
def scanComplete (queue : LinkedQueue S3tpPacket) (current : UInt8) : ℕ → UInt8 → Option ℕ → Option Bool
  | 0, _, _ => none
  | _ + 1, _, none => some false
  | turns + 1, fragment, some ref => do
    let node ← queue.heap.lookup ref
    let hdr := node.element.header
    if hdr.seqPort.toNat ≠ current.toNat + fragment.toNat then some false
    else if hdr.moreFragments ≠ 0 ∧ hdr.getSubSequence ≠ fragment then some false
    else if hdr.moreFragments = 0 ∧ hdr.getSubSequence = fragment then some true
    else scanComplete queue current turns (fragment + 1) node.next

def isCompleteMessageForPortAvailable (rx : LinkedRx) (port : UInt8) : Option (Bool × LinkedRx) := do
  let (q, inBuffer) := rx.inBuffer.getQueue (portKey port)
  let complete ← scanComplete q (rx.fields.currentPortSequence port) (q.allocated + 1) 0 q.head
  some (complete, { rx with inBuffer })

/-! ## Receiving -/

/-- `inBuffer->write`. -/
def writePacket (rx : LinkedRx) (allocator : Allocator (LinkedNode S3tpPacket)) (packet : S3tpPacket) :
    Option (ℤ × LinkedRx) := do
  let (result, inBuffer) ← rx.inBuffer.write allocator rx.fields.policy packet
  some (result, { rx with inBuffer })

/-- Flag the port when a complete message heads its queue. -/
def notifyIfComplete (rx : LinkedRx) (port : UInt8) : Option LinkedRx := do
  let (complete, rx) ← rx.isCompleteMessageForPortAvailable port
  if complete then
    some { rx with fields := { rx.fields with availableMessages := rx.fields.availableMessages.insert port 1 } }
  else some rx

/-- The body of the loop of `flushQueues`. -/
def flushQueue (rx : LinkedRx) (port : ℤ) : Option LinkedRx := do
  let (queue, inBuffer) := rx.inBuffer.getQueue port
  if queue.isEmpty then some { rx with inBuffer }
  else do
    let packet ← queue.peek
    if maxReorderingWindow ≤ (rx.fields.relativeGlobalSeq packet).toNat then do
      let inBuffer ← inBuffer.clearQueueForPort (UInt8.ofInt port)
      some { rx with inBuffer }
    else some { rx with inBuffer }

def flushQueues (rx : LinkedRx) : Option LinkedRx := do
  let rx ← rx.inBuffer.getActiveQueues.foldlM flushQueue rx
  some { rx with fields := { rx.fields with toConsumeGlobalSeq := rx.fields.lastReceivedGlobalSeq } }

def updateWindow (rx : LinkedRx) (packet : S3tpPacket) : Option LinkedRx := do
  let rx := { rx with fields := { rx.fields with
    lastReceivedGlobalSeq :=
      if rx.fields.isNewest packet then packet.header.getGlobalSequence else rx.fields.lastReceivedGlobalSeq
    receivingWindow := rx.fields.receivingWindow + 1 } }
  if receivingWindowSize ≤ rx.fields.receivingWindow.toNat then do
    let rx ← rx.flushQueues
    some { rx with fields := { rx.fields with receivingWindow := 0 } }
  else some rx

/-- The status code, the sync id reported to the main module if any, and the new state. -/
def handleReceivedPacket (rx : LinkedRx) (allocator : Allocator (LinkedNode S3tpPacket)) (packet : S3tpPacket) :
    Option ((ℤ × Option UInt8) × LinkedRx) :=
  if !rx.fields.active then some ((moduleInactive, none), rx)
  else if !packet.crcValid then some ((codeErrorCrcInvalid, none), rx)
  else if packet.header.getMessageType = msgSync then
    let sync := S3tpSync.ofBytes packet.payload
    some ((codeSuccess, some sync.syncId), { rx with fields := rx.fields.synchronizeStatus sync })
  else if packet.header.getMessageType ≠ msgData then some ((codeErrorInvalidType, none), rx)
  else if !rx.fields.isPortOpen packet.getPort then some ((codeErrorPortClosed, none), rx)
  else do
    let (result, rx) ← rx.writePacket allocator packet
    if result ≠ codeSuccess then some ((result, none), rx)
    else do
      let rx ← rx.notifyIfComplete packet.getPort
      let rx ← rx.updateWindow packet
      some ((codeSuccess, none), rx)

/-! ## Consuming -/

/-- The loop that takes the packets of one message, with a turn for each of `turns` packets. -/
def assemble (port : UInt8) : ℕ → LinkedRx → List UInt8 → UInt16 → Option (Delivery × LinkedRx)
  | 0, _, _, _ => none
  | turns + 1, rx, assembledData, len => do
    let (pkt, inBuffer) ← rx.inBuffer.getNextPacket rx.fields.policy (portKey port)
    let pkt ← pkt
    if pkt.header.seqPort ≠ rx.fields.currentPortSequence port then
      some (⟨none, len, codeErrorInconsistentState, 0⟩,
        { fields := { rx.fields with rxMutexHeld := true }, inBuffer })
    else
      let rx := { fields := rx.fields.afterTaking port rx.fields.inBuffer, inBuffer }
      let assembledData := assembledData ++ pkt.pdu
      let len := len + pkt.header.getPduLength
      if pkt.header.moreFragments = 0 then some (⟨some assembledData, len, codeSuccess, port⟩, rx)
      else assemble port turns rx assembledData len

/-- Flag the port or take its flag away, whichever its queue calls for. -/
def refreshAvailability (rx : LinkedRx) (port : UInt8) : Option LinkedRx := do
  let (complete, rx) ← rx.isCompleteMessageForPortAvailable port
  if complete then
    some { rx with fields := { rx.fields with availableMessages := rx.fields.availableMessages.insert port 1 } }
  else some { rx with fields := { rx.fields with availableMessages := rx.fields.availableMessages.erase port } }

/-- The nodes of the port's queue bound the turns of the loop. -/
def getNextCompleteMessage (rx : LinkedRx) : Option (Delivery × LinkedRx) :=
  if !rx.fields.active then some (⟨none, 0, moduleInactive, 0⟩, rx)
  else
    match rx.fields.availableMessages.begin? with
    | none => some (⟨none, 0, codeNoMessagesAvailable, 0⟩, rx)
    | some port => do
      let turns := (rx.inBuffer.getQueue (portKey port)).1.allocated + 1
      let (delivery, rx) ← assemble port turns rx [] 0
      if delivery.error = codeSuccess then do
        let rx ← rx.refreshAvailability port
        some (delivery, rx)
      else some (delivery, rx)

/-! ## The module the memory stands for -/

/-- The module's buffer is what the buffer in memory stands for, and its other fields are the same. -/
def Represents (l : LinkedRx) (rx : RxModule) : Prop :=
  ∃ b, l.inBuffer.Represents b ∧ rx = { l.fields with inBuffer := b }

theorem represents_empty : Represents {} {} := ⟨.empty, LinkedBuffer.represents_empty, rfl⟩

section Represents

variable {l : LinkedRx} {rx : RxModule} {b : Buffer}

theorem scanComplete_eq {queue : LinkedQueue S3tpPacket} {current : UInt8} {start : Option ℕ}
    {cells : List (ℕ × S3tpPacket)} (linked : Linked (nextLinks queue.heap) start cells none) {turns : ℕ}
    (enough : cells.length < turns) (fragment : UInt8) :
    scanComplete queue current turns fragment start =
      some (RxModule.scanComplete current fragment (cells.map Prod.snd)) := by
  induction cells generalizing start turns fragment with
  | nil =>
    obtain ⟨turns, rfl⟩ : ∃ n, turns = n + 1 := ⟨turns - 1, by simp at enough; omega⟩
    obtain rfl : start = none := linked
    rfl
  | cons cell rest ih =>
    obtain ⟨turns, rfl⟩ : ∃ n, turns = n + 1 := ⟨turns - 1, by simp at enough; omega⟩
    obtain ⟨rfl, link, holds, later⟩ := linked
    obtain ⟨node, found, same⟩ := Option.map_eq_some_iff.mp holds
    obtain ⟨element, rfl⟩ := Prod.mk.inj same
    rw [scanComplete, found, List.map_cons, RxModule.scanComplete, ← element]
    dsimp only [Option.bind_eq_bind, Option.bind_some]
    rw [ih later (by simpa using enough)]
    repeat' split
    all_goals rfl

/-- The number of nodes bounds the turns of a loop over a queue. -/
theorem length_lt_allocated {queue : LinkedQueue S3tpPacket} {cells : List (ℕ × S3tpPacket)}
    (linked : DoublyLinked queue.heap queue.head queue.tail cells) : cells.length < queue.allocated + 1 := by
  rw [LinkedQueue.allocated, linked.length_entries]
  exact Nat.lt_succ_self _

/-- The queue is looked up, and found complete as its packets are. -/
theorem isCompleteMessageForPortAvailable_eq (buffer : l.inBuffer.Represents b) (port : UInt8) :
    ∃ inBuffer, l.isCompleteMessageForPortAvailable port =
        some (({ l.fields with inBuffer := b } : RxModule).isCompleteMessageForPortAvailable port,
          { l with inBuffer }) ∧ inBuffer.Represents b := by
  obtain ⟨⟨-, cells, linked, nodes⟩, after, -⟩ := buffer.getQueue port
  refine ⟨(l.inBuffer.getQueue (portKey port)).2, ?_, after⟩
  rw [isCompleteMessageForPortAvailable]
  dsimp only
  rw [scanComplete_eq linked.next (length_lt_allocated linked), nodes]
  rfl

theorem notifyIfComplete_represents (represents : l.Represents rx) (port : UInt8) :
    ∃ l', l.notifyIfComplete port = some l' ∧ l'.Represents (rx.notifyIfComplete port) := by
  obtain ⟨b, buffer, rfl⟩ := represents
  obtain ⟨inBuffer, scanned, after⟩ := isCompleteMessageForPortAvailable_eq buffer port
  rw [notifyIfComplete, scanned, RxModule.notifyIfComplete]
  dsimp only [Option.bind_eq_bind, Option.bind_some]
  split
  · exact ⟨_, rfl, b, after, rfl⟩
  · exact ⟨_, rfl, b, after, rfl⟩

theorem refreshAvailability_represents (represents : l.Represents rx) (port : UInt8) :
    ∃ l', l.refreshAvailability port = some l' ∧ l'.Represents (rx.refreshAvailability port) := by
  obtain ⟨b, buffer, rfl⟩ := represents
  obtain ⟨inBuffer, scanned, after⟩ := isCompleteMessageForPortAvailable_eq buffer port
  rw [refreshAvailability, scanned, RxModule.refreshAvailability]
  dsimp only [Option.bind_eq_bind, Option.bind_some]
  split
  · exact ⟨_, rfl, b, after, rfl⟩
  · exact ⟨_, rfl, b, after, rfl⟩

theorem writePacket_represents (represents : l.Represents rx) (allocator : Allocator (LinkedNode S3tpPacket))
    (packet : S3tpPacket) :
    ∃ l', l.writePacket allocator packet = some (codeSuccess, l') ∧ l'.Represents (rx.writePacket packet) := by
  obtain ⟨b, buffer, rfl⟩ := represents
  obtain ⟨inBuffer, writes, after⟩ := buffer.write allocator l.fields.policy packet
  rw [writePacket, writes]
  exact ⟨_, rfl, _, after, rfl⟩

theorem ofInt_portKey (port : UInt8) : UInt8.ofInt (portKey port) = port := by
  have small : (port.toNat : ℤ) % 2 ^ 8 = port.toNat := by
    have bound : port.toNat < 2 ^ 8 := port.toNat_lt
    omega
  rw [portKey, UInt8.ofInt, small, Int.toNat_natCast, UInt8.ofNat_toNat]

/-- The head is asked for its age, and the queue cleared if it is too old. -/
theorem flushQueue_represents (buffer : l.inBuffer.Represents b) (port : UInt8) :
    ∃ inBuffer, l.flushQueue (portKey port) = some { l with inBuffer } ∧
      inBuffer.Represents (l.fields.flushQueue b port) := by
  have lookup := buffer.getQueue port
  rw [flushQueue]
  generalize l.inBuffer.getQueue (portKey port) = found at lookup ⊢
  obtain ⟨queue, inBuffer⟩ := found
  obtain ⟨represents, after, entry⟩ := lookup
  dsimp only at represents after entry ⊢
  rw [RxModule.flushQueue, ← represents.isEmpty_eq]
  cases holding : queue.isEmpty with
  | true => exact ⟨inBuffer, rfl, after⟩
  | false =>
    obtain ⟨head, peeked⟩ := buffer.exists_peek (represents.isEmpty_eq.symm.trans holding)
    have peeked' : (b.getQueue port).peek = some head := peeked
    rw [LinkedQueue.peek_eq represents holding, peeked', Option.any_some]
    by_cases old : maxReorderingWindow ≤ (l.fields.relativeGlobalSeq head).toNat
    · obtain ⟨inBuffer, clears, cleared⟩ := after.clearQueueForPort (by rw [entry]; simp)
      refine ⟨inBuffer, ?_, by simpa [old] using cleared⟩
      simp [old, ofInt_portKey, clears]
    · exact ⟨inBuffer, by simp [old], by simpa [old] using after⟩

theorem flushQueues_represents (represents : l.Represents rx) :
    ∃ l', l.flushQueues = some l' ∧ l'.Represents rx.flushQueues := by
  obtain ⟨b, buffer, rfl⟩ := represents
  have loop (ports : List UInt8) : ∀ (l : LinkedRx) (b : Buffer), l.inBuffer.Represents b →
      ∃ inBuffer, (ports.map portKey).foldlM flushQueue l = some { l with inBuffer } ∧
        inBuffer.Represents (ports.foldl l.fields.flushQueue b) := by
    induction ports with
    | nil => exact fun l b buffer => ⟨l.inBuffer, rfl, buffer⟩
    | cons port ports ih =>
      intro l b buffer
      obtain ⟨inBuffer, flushed, after⟩ := flushQueue_represents buffer port
      obtain ⟨inBuffer', rest, last⟩ := ih { l with inBuffer } _ after
      refine ⟨inBuffer', ?_, last⟩
      rw [List.map_cons, List.foldlM_cons, flushed]
      exact rest
  obtain ⟨inBuffer, flushed, after⟩ := loop b.getActiveQueues l b buffer
  rw [flushQueues, buffer.getActiveQueues, flushed]
  exact ⟨_, rfl, _, after, rfl⟩

theorem updateWindow_represents (represents : l.Represents rx) (packet : S3tpPacket) :
    ∃ l', l.updateWindow packet = some l' ∧ l'.Represents (rx.updateWindow packet) := by
  obtain ⟨b, buffer, rfl⟩ := represents
  rw [updateWindow, RxModule.updateWindow]
  dsimp only
  split
  · obtain ⟨l', flushed, b', after, same⟩ := @flushQueues_represents ⟨{ l.fields with
      lastReceivedGlobalSeq :=
        if l.fields.isNewest packet then packet.header.getGlobalSequence else l.fields.lastReceivedGlobalSeq
      receivingWindow := l.fields.receivingWindow + 1 }, l.inBuffer⟩ _ ⟨b, buffer, rfl⟩
    rw [flushed]
    refine ⟨_, rfl, b', after, ?_⟩
    exact congrArg (fun rx : RxModule => { rx with receivingWindow := 0 }) same
  · exact ⟨_, rfl, b, buffer, rfl⟩

theorem handleReceivedPacket_represents (represents : l.Represents rx) (allocator : Allocator (LinkedNode S3tpPacket))
    (packet : S3tpPacket) : ∃ l', l.handleReceivedPacket allocator packet =
        some (((rx.handleReceivedPacket packet).1, (rx.handleReceivedPacket packet).2.1), l') ∧
      l'.Represents (rx.handleReceivedPacket packet).2.2 := by
  obtain ⟨written, writes, afterWrite⟩ := writePacket_represents represents allocator packet
  obtain ⟨notified, notifies, afterNotify⟩ := notifyIfComplete_represents afterWrite packet.getPort
  obtain ⟨updated, updates, afterUpdate⟩ := updateWindow_represents afterNotify packet
  obtain ⟨b, buffer, rfl⟩ := represents
  have isPortOpen : ({ l.fields with inBuffer := b } : RxModule).isPortOpen packet.getPort =
      l.fields.isPortOpen packet.getPort := rfl
  rw [handleReceivedPacket, RxModule.handleReceivedPacket, isPortOpen]
  dsimp only
  split
  · exact ⟨l, rfl, b, buffer, rfl⟩
  split
  · exact ⟨l, rfl, b, buffer, rfl⟩
  split
  · exact ⟨_, rfl, b, buffer, rfl⟩
  split
  · exact ⟨l, rfl, b, buffer, rfl⟩
  split
  · exact ⟨l, rfl, b, buffer, rfl⟩
  · rw [writes]
    dsimp only [Option.bind_eq_bind, Option.bind_some]
    rw [if_neg (not_not.mpr rfl), notifies]
    dsimp only [Option.bind_some]
    rw [updates]
    exact ⟨updated, rfl, afterUpdate⟩

/-- Both calls return the same, in memory and in the module it stands for then, or both follow a null pointer. -/
def Alike {ω : Type} : Option (ω × LinkedRx) → Option (ω × RxModule) → Prop :=
  Option.Rel fun result result' => result.1 = result'.1 ∧ result.2.Represents result'.2

/-- The loop takes what the module takes, and follows a null pointer where the module does. -/
theorem assemble_alike (represents : l.Represents rx) (port : UInt8) {turns : ℕ}
    (enough : (rx.inBuffer.held port).length < turns) (data : List UInt8) (len : UInt16) :
    Alike (assemble port turns l data len) (rx.assemble port data len) := by
  induction turns generalizing l rx data len with
  | zero => contradiction
  | succ turns ih =>
    obtain ⟨b, buffer, rfl⟩ := represents
    obtain ⟨inBuffer, pops, after⟩ := buffer.popPacketInternal l.fields.policy port
    rw [assemble, LinkedBuffer.getNextPacket, pops]
    cases popped : b.popPacketInternal l.fields.policy port with
    | none =>
      rw [RxModule.assemble]
      split
      · exact .none
      · next taken => exact absurd (popped.symm.trans taken) (by simp)
    | some taken =>
      obtain ⟨pkt, left⟩ := taken
      rw [popped] at after
      dsimp only [Option.map_some, Option.getD_some, Option.bind_eq_bind, Option.bind_some] at after ⊢
      have popped' : ({ l.fields with inBuffer := b } : RxModule).inBuffer.getNextPacket
          ({ l.fields with inBuffer := b } : RxModule).policy port = some (pkt, left) := popped
      rw [RxModule.assemble_of_pop popped']
      have shorter := Buffer.length_held_of_popPacketInternal popped
      by_cases unexpected : pkt.header.seqPort ≠ l.fields.currentPortSequence port
      · rw [if_pos unexpected, if_pos unexpected]
        exact .some ⟨rfl, left, after, rfl⟩
      · rw [if_neg unexpected, if_neg unexpected]
        split
        · exact .some ⟨rfl, left, after, rfl⟩
        · have fewer : (left.held port).length < turns := by
            have enough' : (b.held port).length < turns + 1 := enough
            omega
          exact ih ⟨left, after, rfl⟩ fewer _ _

theorem getNextCompleteMessage_alike (represents : l.Represents rx) :
    Alike l.getNextCompleteMessage rx.getNextCompleteMessage := by
  have same : l.fields.active = rx.active ∧ l.fields.availableMessages = rx.availableMessages := by
    obtain ⟨b, -, rfl⟩ := represents
    exact ⟨rfl, rfl⟩
  rw [getNextCompleteMessage, RxModule.getNextCompleteMessage, same.1, same.2]
  split
  · exact .some ⟨rfl, represents⟩
  cases rx.availableMessages.begin? with
  | none => exact .some ⟨rfl, represents⟩
  | some port =>
    have enough : (rx.inBuffer.held port).length < (l.inBuffer.getQueue (portKey port)).1.allocated + 1 := by
      obtain ⟨b, buffer, rfl⟩ := represents
      obtain ⟨⟨-, cells, linked, nodes⟩, -⟩ := buffer.getQueue port
      have length : (b.held port).length = cells.length := by
        rw [← List.length_map Prod.snd, nodes]
        rfl
      dsimp only
      rw [length]
      exact length_lt_allocated linked
    have assembled := assemble_alike represents port enough [] 0
    dsimp only
    generalize assemble port _ l [] 0 = result at assembled ⊢
    generalize rx.assemble port [] 0 = result' at assembled ⊢
    cases assembled with
    | none => exact .none
    | @some result result' both =>
      obtain ⟨delivery, l'⟩ := result
      obtain ⟨delivery', rx'⟩ := result'
      obtain ⟨rfl, after⟩ := both
      dsimp only [Option.bind_eq_bind, Option.bind_some]
      split
      · obtain ⟨refreshed, refreshes, last⟩ := refreshAvailability_represents after port
        rw [refreshes]
        exact .some ⟨rfl, last⟩
      · exact .some ⟨rfl, after⟩

theorem reset_represents (represents : l.Represents rx) : ∃ l', l.reset = some l' ∧ l'.Represents rx.reset := by
  obtain ⟨b, buffer, rfl⟩ := represents
  obtain ⟨inBuffer, clears, after⟩ := buffer.clear
  rw [reset, clears]
  exact ⟨_, rfl, _, after, rfl⟩

theorem openPort_represents (represents : l.Represents rx) (port : UInt8) :
    (l.openPort port).1 = (rx.openPort port).1 ∧ (l.openPort port).2.Represents (rx.openPort port).2 := by
  obtain ⟨b, buffer, rfl⟩ := represents
  rw [openPort, RxModule.openPort, RxModule.openPort]
  dsimp only
  repeat' split
  all_goals exact ⟨rfl, b, buffer, rfl⟩

theorem closePort_represents (represents : l.Represents rx) (port : UInt8) :
    (l.closePort port).1 = (rx.closePort port).1 ∧ (l.closePort port).2.Represents (rx.closePort port).2 := by
  obtain ⟨b, buffer, rfl⟩ := represents
  rw [closePort, RxModule.closePort, RxModule.closePort]
  dsimp only
  repeat' split
  all_goals exact ⟨rfl, b, buffer, rfl⟩

end Represents

end LinkedRx

end S3tp.Model.Core
