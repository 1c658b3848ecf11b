import S3tp.Model.Core.SequenceOrder

/-! # The receiving module

The link thread writes data packets of open ports to the input buffer, flags the port when its queue
begins with a complete message, and tracks the receiving window: after every 128 packets the queues
whose heads are too old are cleared and the window moves up. The assembly thread consumes the
messages of flagged ports, least port first. A sync frame overwrites the expected port sequences.

`handleReceivedPacket` is composed of the critical sections it runs through: the write to the
buffer, the notification, and the window update. Sequence maps read zero where the code would insert
a zero entry on first access. Following a null packet pointer has no result.
-/

namespace S3tp.Model.Core

/-- `PORT_ALREADY_OPEN`. -/
def portAlreadyOpen : ℤ := -1

/-- `PORT_ALREADY_CLOSED`. -/
def portAlreadyClosed : ℤ := -1

/-- `MODULE_INACTIVE`. -/
def moduleInactive : ℤ := -2

/-- `CODE_ERROR_CRC_INVALID`. -/
def codeErrorCrcInvalid : ℤ := -3

/-- `CODE_NO_MESSAGES_AVAILABLE`. -/
def codeNoMessagesAvailable : ℤ := -4

/-- `CODE_ERROR_PORT_CLOSED`. -/
def codeErrorPortClosed : ℤ := -5

/-- `CODE_ERROR_INCONSISTENT_STATE`. -/
def codeErrorInconsistentState : ℤ := -6

/-- `CODE_ERROR_INVALID_TYPE`. -/
def codeErrorInvalidType : ℤ := -10

/-- `MAX_REORDERING_WINDOW`. -/
def maxReorderingWindow : ℕ := 128

/-- `RECEIVING_WINDOW_SIZE`. -/
def receivingWindowSize : ℕ := 128

/-- What `getNextCompleteMessage` returns: the buffer (or NULL) and its three output arguments. -/
structure Delivery where
  data : Option (List UInt8)
  len : UInt16
  error : ℤ
  port : UInt8
deriving DecidableEq, Repr

structure RxModule where
  active : Bool := false
  inBuffer : Buffer := .empty
  toConsumeGlobalSeq : UInt8 := 0
  receivingWindow : UInt8 := 0
  lastReceivedGlobalSeq : UInt8 := 0
  openPorts : ByteMap UInt8 := .empty
  currentPortSequence : UInt8 → UInt8 := fun _ => 0
  availableMessages : ByteMap UInt8 := .empty
  /-- `rx_mutex` is still held by a call that has returned. -/
  rxMutexHeld : Bool := false

namespace RxModule

def reset (rx : RxModule) : RxModule :=
  { rx with receivingWindow := 0, toConsumeGlobalSeq := 0, lastReceivedGlobalSeq := 0,
            inBuffer := rx.inBuffer.clear, currentPortSequence := fun _ => 0,
            availableMessages := .empty, openPorts := .empty }

def startModule (rx : RxModule) : RxModule := { rx with receivingWindow := 0, active := true }

def stopModule (rx : RxModule) : RxModule := { rx with active := false }

/-! ## Ports -/

def openPort (rx : RxModule) (port : UInt8) : ℤ × RxModule :=
  if !rx.active then (moduleInactive, rx)
  else if (rx.openPorts port).isSome then (portAlreadyOpen, rx)
  else (codeSuccess, { rx with openPorts := rx.openPorts.insert port 1 })

def closePort (rx : RxModule) (port : UInt8) : ℤ × RxModule :=
  if !rx.active then (moduleInactive, rx)
  else if (rx.openPorts port).isSome then (codeSuccess, { rx with openPorts := rx.openPorts.erase port })
  else (portAlreadyClosed, rx)

theorem openPort_frame (rx : RxModule) (port : UInt8) :
    (rx.openPort port).2 = { rx with openPorts := (rx.openPort port).2.openPorts } := by
  rw [openPort]
  repeat' split
  all_goals rfl

theorem closePort_frame (rx : RxModule) (port : UInt8) :
    (rx.closePort port).2 = { rx with openPorts := (rx.closePort port).2.openPorts } := by
  rw [closePort]
  repeat' split
  all_goals rfl

section OpenPorts

variable {rx : RxModule} (active : rx.active = true) (port other : UInt8)
include active

theorem isSome_openPorts_openPort : ((rx.openPort port).2.openPorts other).isSome ↔
    (rx.openPorts other).isSome ∨ other = port := by
  have going : ¬ (!rx.active) = true := by simp [active]
  rw [openPort, if_neg going]
  rcases Classical.em (other = port) with rfl | different
  · split
    · next already => simp [already]
    · simp
  · split
    · simp [different]
    · simp [ByteMap.insert_of_ne _ _ different, different]

theorem isSome_openPorts_closePort : ((rx.closePort port).2.openPorts other).isSome ↔
    (rx.openPorts other).isSome ∧ other ≠ port := by
  have going : ¬ (!rx.active) = true := by simp [active]
  rw [closePort, if_neg going]
  rcases Classical.em (other = port) with rfl | different
  · split
    · simp
    · next closed => simpa using closed
  · split
    · simp [ByteMap.erase_of_ne _ different, different]
    · simp [different]

end OpenPorts

def isPortOpen (rx : RxModule) (port : UInt8) : Bool := (rx.openPorts port).isSome && rx.active

/-! ## Policy actor -/

def comparePriority (rx : RxModule) : S3tpPacket → S3tpPacket → ℤ := comparePortSequence rx.currentPortSequence

/-- The distance of a global sequence number from the window's lower end. -/
def relativeGlobalSeq (rx : RxModule) (packet : S3tpPacket) : UInt8 :=
  packet.header.getGlobalSequence - rx.toConsumeGlobalSeq

def maximumWindowExceeded (rx : RxModule) (queueHead newElement : S3tpPacket) : Bool :=
  let headSeq := rx.relativeGlobalSeq queueHead
  let newSeq := rx.relativeGlobalSeq newElement
  decide (maxReorderingWindow < ((newSeq.toNat : ℤ) - headSeq.toNat).natAbs)

def policy (rx : RxModule) : PolicyActor S3tpPacket where
  comparePriority := rx.comparePriority
  isElementValid _ := true
  maximumWindowExceeded := rx.maximumWindowExceeded

/-! ## Complete messages -/

/-- The scan of a queue for a complete message at its head. The expected number is a sum of `int`s. -/
def scanComplete (current : UInt8) : UInt8 → List S3tpPacket → Bool
  | _, [] => false
  | fragment, pkt :: next =>
    let hdr := pkt.header
    if hdr.seqPort.toNat ≠ current.toNat + fragment.toNat then false
    else if hdr.moreFragments ≠ 0 ∧ hdr.getSubSequence ≠ fragment then false
    else if hdr.moreFragments = 0 ∧ hdr.getSubSequence = fragment then true
    else scanComplete current (fragment + 1) next

def isCompleteMessageForPortAvailable (rx : RxModule) (port : UInt8) : Bool :=
  scanComplete (rx.currentPortSequence port) 0 (rx.inBuffer.getQueue port).nodes

theorem isCompleteMessageForPortAvailable_eq (rx : RxModule) (port : UInt8) :
    rx.isCompleteMessageForPortAvailable port =
      scanComplete (rx.currentPortSequence port) 0 (rx.inBuffer.held port) := rfl

def isNewMessageAvailable (rx : RxModule) : Bool := !rx.availableMessages.isEmpty

/-! ## Receiving -/

/-- `inBuffer->write`. -/
def writePacket (rx : RxModule) (packet : S3tpPacket) : RxModule :=
  { rx with inBuffer := rx.inBuffer.write rx.policy packet }

/-- Flag the port when a complete message heads its queue. -/
def notifyIfComplete (rx : RxModule) (port : UInt8) : RxModule :=
  if rx.isCompleteMessageForPortAvailable port then
    { rx with availableMessages := rx.availableMessages.insert port 1 }
  else rx

/-- The body of `flushQueues`' loop: clear the queue when its head is too old. -/
def flushQueue (rx : RxModule) (buffer : Buffer) (port : UInt8) : Buffer :=
  let queue := buffer.getQueue port
  if queue.isEmpty then buffer
  else if queue.peek.any fun packet => maxReorderingWindow ≤ (rx.relativeGlobalSeq packet).toNat then
    buffer.clearQueueForPort port
  else buffer

def flushQueues (rx : RxModule) : RxModule :=
  { rx with inBuffer := rx.inBuffer.getActiveQueues.foldl rx.flushQueue rx.inBuffer
            toConsumeGlobalSeq := rx.lastReceivedGlobalSeq }

/-- The number is newer than the last one received. The last one is not taken relative to the window. -/
def isNewest (rx : RxModule) (packet : S3tpPacket) : Bool :=
  decide ((rx.relativeGlobalSeq packet).toNat < receivingWindowSize ∧
    rx.lastReceivedGlobalSeq < rx.relativeGlobalSeq packet)

def updateWindow (rx : RxModule) (packet : S3tpPacket) : RxModule :=
  let rx := { rx with
    lastReceivedGlobalSeq :=
      if rx.isNewest packet then packet.header.getGlobalSequence else rx.lastReceivedGlobalSeq
    receivingWindow := rx.receivingWindow + 1 }
  if receivingWindowSize ≤ rx.receivingWindow.toNat then { rx.flushQueues with receivingWindow := 0 } else rx

def synchronizeStatus (rx : RxModule) (sync : S3tpSync) : RxModule :=
  { rx with
    currentPortSequence := fun port =>
      if inRange : port.toNat < 128 then
        if sync.portSeq ⟨port.toNat, inRange⟩ ≠ 0 then sync.portSeq ⟨port.toNat, inRange⟩
        else rx.currentPortSequence port
      else rx.currentPortSequence port
    lastReceivedGlobalSeq := sync.txGlobalSeq }

/-- A data packet reaches the buffer unless it fails one of the checks. -/
def accepts (rx : RxModule) (packet : S3tpPacket) : Bool :=
  rx.active && packet.crcValid && packet.header.getMessageType == msgData && rx.isPortOpen packet.getPort

/-- The three critical sections an accepted data packet runs through. -/
def receiveData (rx : RxModule) (packet : S3tpPacket) : RxModule :=
  ((rx.writePacket packet).notifyIfComplete packet.getPort).updateWindow packet

/-- The status code, the sync id reported to the main module if any, and the new state. -/
def handleReceivedPacket (rx : RxModule) (packet : S3tpPacket) : ℤ × Option UInt8 × RxModule :=
  if !rx.active then (moduleInactive, none, rx)
  else if !packet.crcValid then (codeErrorCrcInvalid, none, rx)
  else if packet.header.getMessageType = msgSync then
    let sync := S3tpSync.ofBytes packet.payload
    (codeSuccess, some sync.syncId, rx.synchronizeStatus sync)
  else if packet.header.getMessageType ≠ msgData then (codeErrorInvalidType, none, rx)
  else if !rx.isPortOpen packet.getPort then (codeErrorPortClosed, none, rx)
  else (codeSuccess, none, rx.receiveData packet)

theorem handleReceivedPacket_of_accepts {rx : RxModule} {packet : S3tpPacket}
    (accepted : rx.accepts packet = true) :
    rx.handleReceivedPacket packet = (codeSuccess, none, rx.receiveData packet) := by
  simp only [accepts, Bool.and_eq_true, beq_iff_eq] at accepted
  obtain ⟨⟨⟨active, valid⟩, type⟩, isOpen⟩ := accepted
  have notSync : msgData ≠ msgSync := by decide
  simp [handleReceivedPacket, active, valid, type, isOpen, notSync]

/-- A sync frame passes the same first checks. -/
def synchronizes (rx : RxModule) (packet : S3tpPacket) : Bool :=
  rx.active && packet.crcValid && packet.header.getMessageType == msgSync

theorem handleReceivedPacket_of_synchronizes {rx : RxModule} {packet : S3tpPacket}
    (synced : rx.synchronizes packet = true) : rx.handleReceivedPacket packet =
      (codeSuccess, some (S3tpSync.ofBytes packet.payload).syncId,
        rx.synchronizeStatus (S3tpSync.ofBytes packet.payload)) := by
  simp only [synchronizes, Bool.and_eq_true, beq_iff_eq] at synced
  obtain ⟨⟨active, valid⟩, type⟩ := synced
  simp [handleReceivedPacket, active, valid, type]

theorem accepts_eq_false_of_synchronizes {rx : RxModule} {packet : S3tpPacket}
    (synced : rx.synchronizes packet = true) : rx.accepts packet = false := by
  have notData : msgSync ≠ msgData := by decide
  simp only [synchronizes, Bool.and_eq_true, beq_iff_eq] at synced
  simp [accepts, synced.2, notData]

/-- Any other frame is turned down with an error and changes nothing. -/
theorem exists_error_of_refused {rx : RxModule} {packet : S3tpPacket} (accepted : rx.accepts packet = false)
    (synced : rx.synchronizes packet = false) :
    ∃ error, error ≠ codeSuccess ∧ rx.handleReceivedPacket packet = (error, none, rx) := by
  simp only [handleReceivedPacket]
  split
  · exact ⟨_, by decide, rfl⟩
  split
  · exact ⟨_, by decide, rfl⟩
  split
  · next active valid type =>
    simp only [Bool.not_eq_true', Bool.not_eq_false] at active valid
    simp [synchronizes, active, valid, type] at synced
  split
  · exact ⟨_, by decide, rfl⟩
  split
  · exact ⟨_, by decide, rfl⟩
  · next active valid _ data portOpen =>
    simp only [Bool.not_eq_true', Bool.not_eq_false, not_not] at active valid data portOpen
    simp [accepts, active, valid, data, portOpen] at accepted

theorem handleReceivedPacket_of_refused {rx : RxModule} {packet : S3tpPacket}
    (accepted : rx.accepts packet = false) (synced : rx.synchronizes packet = false) :
    (rx.handleReceivedPacket packet).2.2 = rx := by
  obtain ⟨error, -, answer⟩ := exists_error_of_refused accepted synced
  rw [answer]

/-- A frame that is no data packet of an open port changes sequence numbers at most. -/
theorem handleReceivedPacket_of_not_accepts {rx : RxModule} {packet : S3tpPacket}
    (refused : rx.accepts packet = false) : ∃ currentPortSequence lastReceivedGlobalSeq,
      (rx.handleReceivedPacket packet).2.2 = { rx with currentPortSequence, lastReceivedGlobalSeq } := by
  cases synced : rx.synchronizes packet with
  | true =>
    rw [handleReceivedPacket_of_synchronizes synced]
    exact ⟨_, _, rfl⟩
  | false =>
    rw [handleReceivedPacket_of_refused refused synced]
    exact ⟨_, _, rfl⟩

/-! ## Consuming -/

/-- The expected packet of the port is taken. -/
def afterTaking (rx : RxModule) (port : UInt8) (inBuffer : Buffer) : RxModule :=
  { rx with
    inBuffer
    currentPortSequence := Function.update rx.currentPortSequence port (rx.currentPortSequence port + 1) }

/-- The loop that takes the packets of one message. -/
def assemble (rx : RxModule) (port : UInt8) (assembledData : List UInt8) (len : UInt16) :
    Option (Delivery × RxModule) :=
  match _popped : rx.inBuffer.getNextPacket rx.policy port with
  | none => none
  | some (pkt, inBuffer) =>
    if pkt.header.seqPort ≠ rx.currentPortSequence port then
      some (⟨none, len, codeErrorInconsistentState, 0⟩, { rx with inBuffer, rxMutexHeld := true })
    else
      let rx' := rx.afterTaking port inBuffer
      let assembledData := assembledData ++ pkt.pdu
      let len := len + pkt.header.getPduLength
      if pkt.header.moreFragments = 0 then some (⟨some assembledData, len, codeSuccess, port⟩, rx')
      else assemble rx' port assembledData len
termination_by (rx.inBuffer.held port).length
decreasing_by exact Buffer.length_held_of_popPacketInternal _popped

/-- One pass of the loop. -/
theorem assemble_of_pop {rx : RxModule} {port : UInt8} {pkt : S3tpPacket} {inBuffer : Buffer}
    (popped : rx.inBuffer.getNextPacket rx.policy port = some (pkt, inBuffer)) (data : List UInt8)
    (len : UInt16) : rx.assemble port data len =
      if pkt.header.seqPort ≠ rx.currentPortSequence port then
        some (⟨none, len, codeErrorInconsistentState, 0⟩, { rx with inBuffer, rxMutexHeld := true })
      else if pkt.header.moreFragments = 0 then
        some (⟨some (data ++ pkt.pdu), len + pkt.header.getPduLength, codeSuccess, port⟩,
          rx.afterTaking port inBuffer)
      else (rx.afterTaking port inBuffer).assemble port (data ++ pkt.pdu) (len + pkt.header.getPduLength) := by
  rw [assemble]
  split
  · next none => simp [popped] at none
  · next packet buffer taken =>
    obtain ⟨rfl, rfl⟩ := Prod.mk.inj (Option.some.inj (taken.symm.trans popped))
    rfl

/-- Flag the port or take its flag away, whichever its queue calls for. -/
def refreshAvailability (rx : RxModule) (port : UInt8) : RxModule :=
  if rx.isCompleteMessageForPortAvailable port then
    { rx with availableMessages := rx.availableMessages.insert port 1 }
  else { rx with availableMessages := rx.availableMessages.erase port }

theorem refreshAvailability_frame (rx : RxModule) (port : UInt8) : rx.refreshAvailability port = { rx with
    availableMessages := if rx.isCompleteMessageForPortAvailable port then rx.availableMessages.insert port 1
      else rx.availableMessages.erase port } := by
  rw [refreshAvailability]
  split <;> rfl

def getNextCompleteMessage (rx : RxModule) : Option (Delivery × RxModule) :=
  if !rx.active then some (⟨none, 0, moduleInactive, 0⟩, rx)
  else
    match rx.availableMessages.begin? with
    | none => some (⟨none, 0, codeNoMessagesAvailable, 0⟩, rx)
    | some port =>
      match rx.assemble port [] 0 with
      | none => none
      | some (delivery, rx) =>
        if delivery.error = codeSuccess then some (delivery, rx.refreshAvailability port)
        else some (delivery, rx)

/-- A call is refused or finds nothing flagged, or it assembles a message of the first flagged port. -/
theorem getNextCompleteMessage_cases {rx rx' : RxModule} {delivery : Delivery}
    (consumes : rx.getNextCompleteMessage = some (delivery, rx')) :
    (rx' = rx ∧ delivery.error ≠ codeSuccess ∧ (rx.active = true → rx.availableMessages.begin? = none)) ∨
    ∃ port mid, rx.active = true ∧ rx.availableMessages.begin? = some port ∧
      rx.assemble port [] 0 = some (delivery, mid) ∧
      rx' = if delivery.error = codeSuccess then mid.refreshAvailability port else mid := by
  simp only [getNextCompleteMessage] at consumes
  split at consumes
  · next inactive =>
    obtain ⟨rfl, rfl⟩ := Prod.mk.inj (Option.some.inj consumes)
    exact .inl ⟨rfl, by decide, fun active => by simp [active] at inactive⟩
  split at consumes
  · next silent =>
    obtain ⟨rfl, rfl⟩ := Prod.mk.inj (Option.some.inj consumes)
    exact .inl ⟨rfl, by decide, fun _ => silent⟩
  next active _ port first =>
  split at consumes
  · contradiction
  next answer mid assembles =>
  right
  refine ⟨port, mid, by simpa using active, first, ?_⟩
  split at consumes
  · next success =>
    obtain ⟨rfl, rfl⟩ := Prod.mk.inj (Option.some.inj consumes)
    exact ⟨assembles, (if_pos success).symm⟩
  · next failed =>
    obtain ⟨rfl, rfl⟩ := Prod.mk.inj (Option.some.inj consumes)
    exact ⟨assembles, (if_neg failed).symm⟩

/-! ## What consuming leaves alone -/

/-- Packets are taken from the heads of queues. The window, the ports and the activity stay. -/
structure Drains (rx rx' : RxModule) : Prop where
  frame : rx' = { rx with
    inBuffer := rx'.inBuffer
    currentPortSequence := rx'.currentPortSequence
    availableMessages := rx'.availableMessages
    rxMutexHeld := rx'.rxMutexHeld }
  suffix : ∀ port, rx'.inBuffer.held port <:+ rx.inBuffer.held port

theorem Drains.refl (rx : RxModule) : Drains rx rx := ⟨rfl, fun _ => List.suffix_refl _⟩

theorem Drains.trans {rx mid rx' : RxModule} (first : Drains rx mid) (second : Drains mid rx') :
    Drains rx rx' where
  frame := by rw [second.frame, first.frame]
  suffix port := (second.suffix port).trans (first.suffix port)

theorem drains_of_pop {rx : RxModule} {port : UInt8} {pkt : S3tpPacket} {inBuffer : Buffer}
    (popped : rx.inBuffer.getNextPacket rx.policy port = some (pkt, inBuffer)) (other : UInt8) :
    inBuffer.held other <:+ rx.inBuffer.held other := by
  obtain ⟨head, queues⟩ := Buffer.held_of_popPacketInternal popped
  rcases Classical.em (other = port) with rfl | different
  · rw [head]
    exact List.suffix_cons _ _
  · rw [Buffer.held, queues other different]
    exact List.suffix_refl _

theorem drains_of_assemble {rx rx' : RxModule} {port : UInt8} {data : List UInt8} {len : UInt16}
    {delivery : Delivery} (assembles : rx.assemble port data len = some (delivery, rx')) : Drains rx rx' := by
  fun_induction assemble rx port data len with
  | case1 => contradiction
  | case2 rx data len pkt inBuffer popped unexpected =>
    obtain ⟨-, rfl⟩ := Prod.mk.inj (Option.some.inj assembles)
    exact ⟨rfl, drains_of_pop popped⟩
  | case3 rx data len pkt inBuffer popped expected after data' len' final =>
    obtain ⟨-, rfl⟩ := Prod.mk.inj (Option.some.inj assembles)
    exact ⟨rfl, drains_of_pop popped⟩
  | case4 rx data len pkt inBuffer popped expected after data' len' flagged ih =>
    exact Drains.trans ⟨rfl, drains_of_pop popped⟩ (ih assembles)

theorem drains_of_getNextCompleteMessage {rx rx' : RxModule} {delivery : Delivery}
    (consumes : rx.getNextCompleteMessage = some (delivery, rx')) : Drains rx rx' := by
  rcases getNextCompleteMessage_cases consumes with ⟨rfl, -, -⟩ | ⟨port, mid, -, -, assembles, rfl⟩
  · exact .refl _
  · have drains := drains_of_assemble assembles
    split
    · rw [refreshAvailability_frame]
      exact drains.trans ⟨rfl, fun _ => List.suffix_refl _⟩
    · exact drains

theorem availableMessages_of_assemble {rx rx' : RxModule} {port : UInt8} {data : List UInt8} {len : UInt16}
    {delivery : Delivery} (assembles : rx.assemble port data len = some (delivery, rx')) :
    rx'.availableMessages = rx.availableMessages := by
  fun_induction assemble rx port data len with
  | case1 => contradiction
  | case2 =>
    obtain ⟨-, rfl⟩ := Prod.mk.inj (Option.some.inj assembles)
    rfl
  | case3 =>
    obtain ⟨-, rfl⟩ := Prod.mk.inj (Option.some.inj assembles)
    rfl
  | case4 rx data len pkt inBuffer popped expected after data' len' flagged ih => exact ih assembles

theorem consistent_of_assemble {rx rx' : RxModule} {port : UInt8} {data : List UInt8} {len : UInt16}
    {delivery : Delivery} (consistent : rx.inBuffer.Consistent)
    (assembles : rx.assemble port data len = some (delivery, rx')) : rx'.inBuffer.Consistent := by
  fun_induction assemble rx port data len with
  | case1 => contradiction
  | case2 rx data len pkt inBuffer popped unexpected =>
    obtain ⟨-, rfl⟩ := Prod.mk.inj (Option.some.inj assembles)
    exact (consistent.popPacketInternal popped).2.2.2
  | case3 rx data len pkt inBuffer popped expected after data' len' final =>
    obtain ⟨-, rfl⟩ := Prod.mk.inj (Option.some.inj assembles)
    exact (consistent.popPacketInternal popped).2.2.2
  | case4 rx data len pkt inBuffer popped expected after data' len' flagged ih =>
    exact ih (consistent.popPacketInternal popped).2.2.2 assembles

theorem consistent_of_getNextCompleteMessage {rx rx' : RxModule} {delivery : Delivery}
    (consistent : rx.inBuffer.Consistent) (consumes : rx.getNextCompleteMessage = some (delivery, rx')) :
    rx'.inBuffer.Consistent := by
  rcases getNextCompleteMessage_cases consumes with ⟨rfl, -, -⟩ | ⟨port, mid, -, -, assembles, rfl⟩
  · exact consistent
  · have left := consistent_of_assemble consistent assembles
    split
    · rw [refreshAvailability_frame]
      exact left
    · exact left

/-! ## Consuming at another port -/

/-- The queue of the port, its expected number and its flag stay as they are. -/
structure Untouched (rx rx' : RxModule) (port : UInt8) : Prop where
  queue : rx'.inBuffer.queues port = rx.inBuffer.queues port
  expected : rx'.currentPortSequence port = rx.currentPortSequence port
  flag : rx'.availableMessages port = rx.availableMessages port

theorem Untouched.refl (rx : RxModule) (port : UInt8) : Untouched rx rx port := ⟨rfl, rfl, rfl⟩

theorem Untouched.trans {rx mid rx' : RxModule} {port : UInt8} (first : Untouched rx mid port)
    (second : Untouched mid rx' port) : Untouched rx rx' port :=
  ⟨second.queue.trans first.queue, second.expected.trans first.expected, second.flag.trans first.flag⟩

theorem untouched_of_assemble {rx rx' : RxModule} {port other : UInt8} (ne : other ≠ port) {data : List UInt8}
    {len : UInt16} {delivery : Delivery} (assembles : rx.assemble port data len = some (delivery, rx')) :
    Untouched rx rx' other ∧ (delivery.error = codeSuccess → delivery.port = port) := by
  fun_induction assemble rx port data len with
  | case1 => contradiction
  | case2 rx data len pkt inBuffer popped unexpected =>
    obtain ⟨rfl, rfl⟩ := Prod.mk.inj (Option.some.inj assembles)
    exact ⟨⟨(Buffer.held_of_popPacketInternal popped).2 other ne, rfl, rfl⟩,
      fun success => absurd success (by simp [codeErrorInconsistentState, codeSuccess])⟩
  | case3 rx data len pkt inBuffer popped expected after data' len' final =>
    obtain ⟨rfl, rfl⟩ := Prod.mk.inj (Option.some.inj assembles)
    exact ⟨⟨(Buffer.held_of_popPacketInternal popped).2 other ne, Function.update_of_ne ne .., rfl⟩, fun _ => rfl⟩
  | case4 rx data len pkt inBuffer popped expected after data' len' flagged ih =>
    obtain ⟨later, own⟩ := ih assembles
    have taken : Untouched rx after other :=
      ⟨(Buffer.held_of_popPacketInternal popped).2 other ne, Function.update_of_ne ne .., rfl⟩
    exact ⟨taken.trans later, own⟩

/-- A call whose turn is another port's leaves the port alone. -/
theorem untouched_of_getNextCompleteMessage {rx rx' : RxModule} {port : UInt8} {delivery : Delivery}
    (turn : rx.availableMessages.begin? ≠ some port) (consumes : rx.getNextCompleteMessage = some (delivery, rx')) :
    Untouched rx rx' port ∧ (delivery.error = codeSuccess → delivery.port ≠ port) := by
  rcases getNextCompleteMessage_cases consumes with ⟨rfl, failed, -⟩ | ⟨first, mid, -, found, assembles, rfl⟩
  · exact ⟨.refl _ _, fun success => absurd success failed⟩
  · have ne : port ≠ first := fun same => turn (same ▸ found)
    obtain ⟨untouched, own⟩ := untouched_of_assemble ne assembles
    refine ⟨?_, fun success same => ne (same.symm.trans (own success))⟩
    split
    · refine untouched.trans ?_
      rw [refreshAvailability_frame]
      refine ⟨rfl, rfl, ?_⟩
      split
      · exact ByteMap.insert_of_ne _ _ ne
      · exact ByteMap.erase_of_ne _ ne
    · exact untouched

end RxModule

end S3tp.Model.Core
