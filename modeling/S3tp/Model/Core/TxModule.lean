import S3tp.Model.Core.SequenceOrder

/-! # The transmitting module

Callers stamp a packet with the next sequence number of its port under the module's mutex and write
it to the output buffer afterwards. The transmit thread takes the heads of the port queues, stamps
the global sequence number and hands the packets to the link; a scheduled sync frame goes out before
the next data frame and reports the numbers stamped so far.

`iterate` is one turn of `txRoutine`'s loop. The link answers two questions in a turn: whether it is
up, and whether the buffer of the sync channel is full. Sequence maps read zero where the code would
insert a zero entry on first access.
-/

namespace S3tp.Model.Core

/-- `TxModule::STATE`. -/
inductive TxState where
  | running
  | blocked
  | waiting
deriving DecidableEq, Repr

/-- `S3TP_VIRTUAL_CHANNELS`. -/
def s3tpVirtualChannels : ℕ := 7

/-- `DEFAULT_SYNC_CHANNEL`. -/
def defaultSyncChannel : UInt8 := 0

/-- `CODE_INACTIVE_ERROR`. -/
def codeInactiveError : ℤ := -1

/-- What `getLinkStatus` and `getBufferFull(DEFAULT_SYNC_CHANNEL)` answer in one turn. -/
structure LinkStatus where
  up : Bool
  bufferFull : Bool
deriving DecidableEq, Repr

structure TxModule where
  state : TxState := .waiting
  active : Bool := false
  channelBlacklist : ByteMap Unit := .empty
  sendingFragments : Bool := false
  currentPort : UInt8 := 0
  scheduledSync : Bool := false
  syncPacket : S3tpPacket
  toConsumePortSeq : UInt8 → UInt8 := fun _ => 0
  portSequence : UInt8 → UInt8 := fun _ => 0
  globalSeqNum : UInt8 := 0
  outBuffer : Buffer := .empty

namespace TxModule

/-- The sync packet as the constructor leaves it: every header field but the checksum is set. -/
def syncPrototype (fresh : S3tpHeader) : S3tpPacket :=
  let packet := S3tpPacket.ofPdu fresh ({ syncId := 0 } : S3tpSync).toBytes
  let hdr := (((packet.header.setMessageType msgSync).setPort 0).setGlobalSequence 0).setSubSequence 0
  { packet with header := { hdr.unsetMoreFragments with seqPort := 0 }, channel := defaultSyncChannel,
                options := 0x01 }

/-- A constructed module; the header bytes of its sync packet were not initialised. -/
def create (fresh : S3tpHeader) : TxModule := { syncPacket := syncPrototype fresh }

def reset (tx : TxModule) : TxModule :=
  { tx with globalSeqNum := 0, portSequence := fun _ => 0, toConsumePortSeq := fun _ => 0,
            outBuffer := tx.outBuffer.clear }

def startRoutine (tx : TxModule) : TxModule := { tx with active := true }

def stopRoutine (tx : TxModule) : TxModule := { tx with active := false }

/-! ## Channels -/

def channelsAvailable (tx : TxModule) : Bool := decide (tx.channelBlacklist.size < s3tpVirtualChannels)

def isChannelAvailable (tx : TxModule) (channel : UInt8) : Bool := (tx.channelBlacklist channel).isNone

def setChannelAvailable (tx : TxModule) (channel : UInt8) (available : Bool) : TxModule :=
  { tx with channelBlacklist := if available then tx.channelBlacklist.erase channel
                                else tx.channelBlacklist.insert channel () }

/-! ## Policy actor -/

def comparePriority (tx : TxModule) : S3tpPacket → S3tpPacket → ℤ := comparePortSequence tx.toConsumePortSeq

def isElementValid (tx : TxModule) (element : S3tpPacket) : Bool := tx.isChannelAvailable element.channel

def policy (tx : TxModule) : PolicyActor S3tpPacket where
  comparePriority := tx.comparePriority
  isElementValid := tx.isElementValid
  maximumWindowExceeded _ _ := false

/-- A write never clears a queue. -/
theorem kept_outBuffer (tx : TxModule) (packet : S3tpPacket) :
    tx.outBuffer.kept tx.policy packet = tx.outBuffer.held packet.getPort := by
  simp [Buffer.kept, Buffer.windowExceeded, policy]

/-! ## Sending -/

/-- The caller's packet with the header fields `enqueuePacket` fills in, and its checksum. -/
def stamped (tx : TxModule) (packet : S3tpPacket) (fragNo : UInt8) (moreFragments : Bool) : S3tpPacket :=
  let hdr := (packet.header.setMessageType msgData).setSubSequence fragNo
  let hdr := if moreFragments then hdr.setMoreFragments else hdr.unsetMoreFragments
  { packet with header := { hdr with seqPort := tx.portSequence hdr.getPort } }.setCrc

/-- `port_sequence[port]++`. -/
def advance (tx : TxModule) (port : UInt8) : TxModule :=
  { tx with portSequence := Function.update tx.portSequence port (tx.portSequence port + 1) }

/-- The part of `enqueuePacket` before the buffer is written: the header is stamped under the mutex,
the checksum of the caller's own packet follows. `none` when the module is not active. -/
def stampPacket (tx : TxModule) (packet : S3tpPacket) (fragNo : UInt8) (moreFragments : Bool) :
    Option (S3tpPacket × TxModule) :=
  if !tx.active then none
  else some (tx.stamped packet fragNo moreFragments, tx.advance packet.getPort)

/-- The rest of `enqueuePacket`: `outBuffer->write`. -/
def writePacket (tx : TxModule) (packet : S3tpPacket) : TxModule :=
  { tx with outBuffer := tx.outBuffer.write tx.policy packet }

/-- `enqueuePacket`, undisturbed. -/
def enqueuePacket (tx : TxModule) (packet : S3tpPacket) (fragNo : UInt8) (moreFragments : Bool) :
    ℤ × TxModule :=
  match tx.stampPacket packet fragNo moreFragments with
  | none => (codeInactiveError, tx)
  | some (packet, tx) => (codeSuccess, tx.writePacket packet)

def getCurrentState (tx : TxModule) : TxState := tx.state

/-- Compares a number of packets with a number of bytes. -/
def isQueueAvailable (tx : TxModule) (port : UInt8) (noPackets : UInt8) : Bool :=
  decide ((tx.outBuffer.getSizeOfQueue port).toNat + noPackets.toNat ≤ maxQueueSize)

/-! ## Synchronization -/

def scheduleSync (tx : TxModule) (syncId : UInt8) : TxModule :=
  { tx with scheduledSync := true,
            syncPacket := { tx.syncPacket with
              payload := { S3tpSync.ofBytes tx.syncPacket.payload with syncId }.toBytes } }

/-- The structure a sync frame carries: the numbers stamped on each port so far. -/
def syncStructure (tx : TxModule) : S3tpSync :=
  { S3tpSync.ofBytes tx.syncPacket.payload with
    txGlobalSeq := tx.globalSeqNum
    portSeq := fun port => tx.portSequence (UInt8.ofNat port) }

/-- `synchronizeStatus`: fill in the sync packet. The result is the frame that is sent. -/
def synchronizeStatus (tx : TxModule) : TxModule :=
  { tx with syncPacket := { tx.syncPacket with payload := tx.syncStructure.toBytes }.setCrc }

/-- A sync frame leaves in this turn. -/
def sendsSync (tx : TxModule) (link : LinkStatus) : Bool :=
  link.up && tx.channelsAvailable && tx.scheduledSync && tx.isChannelAvailable defaultSyncChannel &&
    !link.bufferFull

/-- The sync block of the loop: send the frame, or blacklist a channel whose buffer is full. -/
def syncTurn (tx : TxModule) (link : LinkStatus) : TxModule × List S3tpPacket :=
  if tx.scheduledSync && tx.isChannelAvailable defaultSyncChannel then
    if link.bufferFull then (tx.setChannelAvailable defaultSyncChannel false, [])
    else
      let tx := tx.synchronizeStatus
      ({ tx with scheduledSync := false }, [tx.syncPacket])
  else (tx, [])

/-- The module once the packet, taken out of the buffer, is numbered for the link. -/
def afterTaking (tx : TxModule) (packet : S3tpPacket) (outBuffer : Buffer) : TxModule :=
  let port := packet.getPort
  { tx with
    state := .running
    outBuffer
    currentPort := port
    sendingFragments := packet.header.moreFragments ≠ 0
    globalSeqNum := if packet.header.moreFragments = 0 then tx.globalSeqNum + 1 else tx.globalSeqNum
    toConsumePortSeq := Function.update tx.toConsumePortSeq port (tx.toConsumePortSeq port + 1) }

/-- The data block of the loop: take a packet, number it globally, send it. -/
def dataTurn (tx : TxModule) : TxModule × List S3tpPacket :=
  if !tx.outBuffer.packetsAvailable then ({ tx with state := .waiting }, [])
  else
    let next := if tx.sendingFragments then tx.outBuffer.getNextPacket tx.policy tx.currentPort
      else tx.outBuffer.getNextAvailablePacket tx.policy
    match next with
    | none => ({ tx with state := .blocked }, [])
    | some (packet, buffer) => (tx.afterTaking packet buffer, [packet.setGlobalSequence tx.globalSeqNum])

/-- One turn of the loop and the frames it hands to `sendFrame`. -/
def iterate (tx : TxModule) (link : LinkStatus) : TxModule × List S3tpPacket :=
  if !link.up || !tx.channelsAvailable then ({ tx with state := .blocked }, [])
  else
    let (tx, sync) := tx.syncTurn link
    let (tx, data) := tx.dataTurn
    (tx, sync ++ data)

/-! ## What a stamped packet shows -/

section Stamped

variable (tx : TxModule) (packet : S3tpPacket) (fragNo : UInt8) (moreFragments : Bool)

@[simp] theorem stamped_getPort : (tx.stamped packet fragNo moreFragments).getPort = packet.getPort := by
  cases moreFragments
  · exact S3tpHeader.getPort_unsetMoreFragments _
  · exact S3tpHeader.getPort_setMoreFragments _

@[simp] theorem stamped_seqPort :
    (tx.stamped packet fragNo moreFragments).header.seqPort = tx.portSequence packet.getPort :=
  congrArg tx.portSequence (stamped_getPort tx packet fragNo moreFragments)

@[simp] theorem stamped_getMessageType :
    (tx.stamped packet fragNo moreFragments).header.getMessageType = msgData := by
  cases moreFragments <;> exact S3tpHeader.getMessageType_setMessageType_data _

@[simp] theorem stamped_getSubSequence :
    (tx.stamped packet fragNo moreFragments).header.getSubSequence = fragNo := by
  cases moreFragments <;> exact S3tpHeader.getSubSequence_setSubSequence _ _

@[simp] theorem stamped_moreFragments :
    (tx.stamped packet fragNo moreFragments).header.moreFragments = if moreFragments then 1 else 0 := by
  cases moreFragments
  · exact S3tpHeader.moreFragments_unsetMoreFragments _
  · exact S3tpHeader.moreFragments_setMoreFragments _

@[simp] theorem stamped_getPduLength :
    (tx.stamped packet fragNo moreFragments).header.getPduLength = packet.header.getPduLength := by
  cases moreFragments <;> exact S3tpHeader.getPduLength_setMessageType _ _

@[simp] theorem stamped_pdu : (tx.stamped packet fragNo moreFragments).pdu = packet.pdu := by
  cases moreFragments <;>
    exact congrArg (fun length : UInt16 => packet.payload.take length.toNat)
      (S3tpHeader.getPduLength_setMessageType _ _)

@[simp] theorem stamped_crcValid : (tx.stamped packet fragNo moreFragments).crcValid = true :=
  S3tpPacket.crcValid_setCrc _

end Stamped

theorem stampPacket_eq_some_iff {tx next : TxModule} {packet stamped : S3tpPacket} {fragNo : UInt8}
    {moreFragments : Bool} : tx.stampPacket packet fragNo moreFragments = some (stamped, next) ↔
      tx.active = true ∧ stamped = tx.stamped packet fragNo moreFragments ∧
      next = tx.advance packet.getPort := by
  cases active : tx.active <;> simp [stampPacket, active, eq_comm]

/-! ## What a turn of the loop can do -/

/-- The sync block does nothing, takes its channel away, or sends the sync frame. -/
theorem syncTurn_cases (tx : TxModule) (link : LinkStatus) : tx.syncTurn link = (tx, []) ∨
    tx.syncTurn link = (tx.setChannelAvailable defaultSyncChannel false, []) ∨
    tx.syncTurn link =
      ({ tx.synchronizeStatus with scheduledSync := false }, [tx.synchronizeStatus.syncPacket]) := by
  rw [syncTurn]
  split
  · split
    · exact .inr (.inl rfl)
    · exact .inr (.inr rfl)
  · exact .inl rfl

/-- The sync block touches nothing a data packet's order depends on. -/
theorem syncTurn_frame (tx : TxModule) (link : LinkStatus) :
    ∃ channelBlacklist scheduledSync syncPacket, (tx.syncTurn link).1 =
      { tx with channelBlacklist, scheduledSync, syncPacket } := by
  rcases tx.syncTurn_cases link with idle | blacklists | sends
  · exact ⟨_, _, _, by rw [idle]⟩
  · exact ⟨_, _, _, by rw [blacklists]; rfl⟩
  · exact ⟨_, _, _, by rw [sends]; rfl⟩

/-- The sync packet stays one, and nothing else is sent by the sync block. -/
theorem syncTurn_sync (tx : TxModule) (link : LinkStatus) (sync : tx.syncPacket.header.getMessageType = msgSync) :
    (tx.syncTurn link).1.syncPacket.header.getMessageType = msgSync ∧
      ∀ frame ∈ (tx.syncTurn link).2, frame.header.getMessageType = msgSync := by
  have sent : tx.synchronizeStatus.syncPacket.header.getMessageType = msgSync := sync
  rcases tx.syncTurn_cases link with idle | blacklists | sends
  · rw [idle]
    exact ⟨sync, nofun⟩
  · rw [blacklists]
    exact ⟨sync, nofun⟩
  · rw [sends]
    exact ⟨sent, by simp [sent]⟩

/-- The data block sends nothing, or it takes the head of one queue: within a message, that of the
current port. -/
theorem dataTurn_cases_port (tx : TxModule) :
    (∃ state, tx.dataTurn = ({ tx with state }, [])) ∨
    ∃ port packet buffer, (tx.sendingFragments = true → port = tx.currentPort) ∧
      tx.outBuffer.popPacketInternal tx.policy port = some (packet, buffer) ∧
      tx.dataTurn = (tx.afterTaking packet buffer, [packet.setGlobalSequence tx.globalSeqNum]) := by
  simp only [dataTurn]
  split
  · exact .inl ⟨_, rfl⟩
  · split
    · exact .inl ⟨_, rfl⟩
    · next packet buffer taken =>
      refine .inr ?_
      split at taken
      · exact ⟨_, packet, buffer, fun _ => rfl, taken, rfl⟩
      · next between =>
        obtain ⟨port, popped⟩ := Buffer.getNextAvailablePacket_eq_some taken
        exact ⟨port, packet, buffer, fun within => absurd within between, popped, rfl⟩

/-- The data block sends nothing, or it takes the head of one queue. -/
theorem dataTurn_cases (tx : TxModule) :
    (∃ state, tx.dataTurn = ({ tx with state }, [])) ∨
    ∃ port packet buffer, tx.outBuffer.popPacketInternal tx.policy port = some (packet, buffer) ∧
      tx.dataTurn = (tx.afterTaking packet buffer, [packet.setGlobalSequence tx.globalSeqNum]) := by
  rcases tx.dataTurn_cases_port with idle | ⟨port, packet, buffer, -, popped, sends⟩
  · exact .inl idle
  · exact .inr ⟨port, packet, buffer, popped, sends⟩

/-- Between messages, and within one of the port, the data block sends when the port's head is on an available
channel. -/
theorem dataTurn_sends {tx : TxModule} (consistent : tx.outBuffer.Consistent) {port : UInt8}
    (within : tx.sendingFragments = true → tx.currentPort = port) {head : S3tpPacket} {rest : List S3tpPacket}
    (queued : tx.outBuffer.held port = head :: rest) (valid : tx.isElementValid head = true) :
    ∃ packet, tx.dataTurn.2 = [packet] := by
  have counted : (tx.outBuffer.packetCounter port).isSome := by simp [consistent.counter port, queued]
  have available : tx.outBuffer.packetsAvailable = true := by
    simpa [Buffer.packetsAvailable] using ByteMap.isEmpty_eq_false_iff.mpr ⟨port, counted⟩
  have valid : tx.policy.isElementValid head = true := valid
  cases fragments : tx.sendingFragments with
  | false =>
    obtain ⟨⟨packet, buffer⟩, taken⟩ := Option.isSome_iff_exists.mp
      (consistent.getNextAvailablePacket_isSome queued valid)
    simp [dataTurn, available, fragments, taken]
  | true =>
    obtain ⟨next, popped, -⟩ := Buffer.popPacketInternal_isSome (consistent.counted port) queued valid
    simp [dataTurn, available, fragments, within fragments, Buffer.getNextPacket, popped]

/-- The backlog test compares a count of packets with a size in bytes and passes every caller. -/
theorem isQueueAvailable_eq_true (tx : TxModule) (port noPackets : UInt8) :
    tx.isQueueAvailable port noPackets = true := by
  have size := (tx.outBuffer.getSizeOfQueue port).toNat_lt
  have packets := noPackets.toNat_lt
  have limit : maxQueueSize = 1048576 := rfl
  rw [isQueueAvailable, decide_eq_true_iff, limit]
  omega

/-- An idle turn records that the module is blocked; any other runs both blocks in order. -/
theorem iterate_cases (tx : TxModule) (link : LinkStatus) :
    tx.iterate link = ({ tx with state := .blocked }, []) ∨
    tx.iterate link = ((tx.syncTurn link).1.dataTurn.1,
      (tx.syncTurn link).2 ++ (tx.syncTurn link).1.dataTurn.2) := by
  simp only [iterate]
  split
  · exact .inl rfl
  · exact .inr rfl

/-- A turn of the loop stamps nothing and does not stop the module. -/
theorem iterate_frame (tx : TxModule) (link : LinkStatus) :
    (tx.iterate link).1.active = tx.active ∧ (tx.iterate link).1.portSequence = tx.portSequence := by
  rcases tx.iterate_cases link with idle | turn
  · rw [idle]
    exact ⟨rfl, rfl⟩
  · obtain ⟨channelBlacklist, scheduledSync, syncPacket, after⟩ := tx.syncTurn_frame link
    have kept : (tx.syncTurn link).1.dataTurn.1.active = (tx.syncTurn link).1.active ∧
        (tx.syncTurn link).1.dataTurn.1.portSequence = (tx.syncTurn link).1.portSequence := by
      rcases (tx.syncTurn link).1.dataTurn_cases with ⟨state, waits⟩ | ⟨port, packet, buffer, -, sends⟩
      · rw [waits]
        exact ⟨rfl, rfl⟩
      · rw [sends]
        exact ⟨rfl, rfl⟩
    rw [turn]
    exact ⟨kept.1.trans (by rw [after]), kept.2.trans (by rw [after])⟩

theorem active_iterate (tx : TxModule) (link : LinkStatus) : (tx.iterate link).1.active = tx.active :=
  (tx.iterate_frame link).1

theorem portSequence_iterate (tx : TxModule) (link : LinkStatus) :
    (tx.iterate link).1.portSequence = tx.portSequence := (tx.iterate_frame link).2

/-- On a link that is up and with no sync frame scheduled, a turn is its data block. -/
theorem iterate_eq_dataTurn {tx : TxModule} {link : LinkStatus} (up : link.up = true)
    (channels : tx.channelsAvailable = true) (quiet : tx.scheduledSync = false) :
    tx.iterate link = tx.dataTurn := by
  simp [iterate, syncTurn, up, channels, quiet]

end TxModule

end S3tp.Model.Core
