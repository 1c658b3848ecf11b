import S3tp.Machine.Loads
import S3tp.Model.Core.FrameBytes
import S3tp.Model.Core.RxModule
import S3tp.ToMathlib.ByteMemory

/-! # What the receiver reads of a frame

`handleFrame` copies a frame to the heap, and from then on the packet is a pointer: header words, checksummed
bytes and sync fields are read at their offsets from it, and so is the payload once its message is assembled.
Nothing on the way knows where the copy ends. Addresses are offsets from the pointer.
-/

namespace S3tp.Model.Core

open Machine

/-- The memory at the pointer: the copied frame, and behind it what the heap holds there. -/
def copied (frame : List UInt8) (behind : ℕ → UInt8) : ℕ → UInt8 := fun address => frame.getD address (behind address)

/-- With nothing but zeros behind the frame. -/
def padded (frame : List UInt8) : ℕ → UInt8 := fun address => frame.getD address 0

/-- What reads the memory at the pointer. -/
abbrev PacketReads := Loads ℕ UInt8

namespace PacketReads

/-! ## The header -/

def word (address : ℕ) : PacketReads UInt16 := do
  let low ← Loads.read address
  let high ← Loads.read (address + 1)
  return wordOfBytes low high

def crc : PacketReads UInt16 := word 0

def seq : PacketReads UInt16 := word 2

def pduLength : PacketReads UInt16 := word 4

def seqPort : PacketReads UInt8 := Loads.read 6

def port : PacketReads UInt8 := Loads.read 7

/-- All words of the header. -/
def getHeader : PacketReads S3tpHeader := do
  let crc ← crc
  let seq ← seq
  let pduLength ← pduLength
  let seqPort ← seqPort
  let port ← port
  return { crc, seq, pduLength, seqPort, port }

def getGlobalSequence : PacketReads UInt8 := do return ((← seq) >>> 8).toUInt8

def getPduLength : PacketReads UInt16 := do return (← pduLength) &&& 0x3FFF

def getMessageType : PacketReads UInt8 := do return ((← pduLength) >>> 14).toUInt8

def getPort : PacketReads UInt8 := do return (← port) &&& 0x7F

def moreFragments : PacketReads UInt8 := do return ((← port) >>> 7) &&& 1

/-! ## The payload -/

/-- Consecutive bytes behind the header. -/
def payloadBytes (offset count : ℕ) : PacketReads (List UInt8) :=
  Loads.readAll ((List.range count).map fun i => S3tpHeader.size + offset + i)

/-- The first loop of the checksum, turn by turn: each turn reads the byte `data` points to. -/
def readBits (out : UInt16) (bitsRead data : ℕ) : ℕ → PacketReads UInt16
  | 0 => pure out
  | size + 1 => do
    let byte ← Loads.read data
    if bitsRead + 1 > 7 then readBits (shiftBit out (charBit byte bitsRead)) 0 (data + 1) size
    else readBits (shiftBit out (charBit byte bitsRead)) (bitsRead + 1) data (size + 1)
termination_by size => (size, 8 - bitsRead)

def calcChecksum (data size : ℕ) : PacketReads UInt16 := do
  let out ← readBits 0 0 data size
  return reverseBits ((List.range 16).foldl (fun out _ => shiftBit out 0) out)

def verifyChecksum (data len : ℕ) (checksum : UInt16) : PacketReads Bool := do
  let crc ← calcChecksum data len
  return checksum == crc

/-- The fields of the structure the payload pointer is cast to, in the order in which they are used. -/
def sync : PacketReads S3tpSync := do
  let portSeq ← payloadBytes 2 128
  let txGlobalSeq ← Loads.read (S3tpHeader.size + 1)
  let syncId ← Loads.read S3tpHeader.size
  return { syncId, txGlobalSeq, portSeq := fun i => portSeq.getD i 0 }

/-! ## The receiving path -/

/-- What `handleReceivedPacket` does once the checksum has matched. -/
def dispatch (rx : RxModule) (frame : List UInt8) (channel : UInt8) : PacketReads (ℤ × Option UInt8 × RxModule) := do
  let type ← getMessageType
  if type = msgSync then do
    let sync ← sync
    return (codeSuccess, some sync.syncId, rx.synchronizeStatus sync)
  else if type ≠ msgData then return (codeErrorInvalidType, none, rx)
  else do
    let port ← getPort
    if !rx.isPortOpen port then do
      let _ ← getGlobalSequence
      return (codeErrorPortClosed, none, rx)
    else do
      -- the log names every number, whichever of them buffer, notification and window look at
      let header ← getHeader
      return (codeSuccess, none, rx.receiveData { header, payload := frame.drop S3tpHeader.size, channel })

/-- `handleReceivedPacket` on the copy of a frame. The numbers of a refused packet are read to be logged. -/
def handleReceivedPacket (rx : RxModule) (frame : List UInt8) (channel : UInt8) :
    PacketReads (ℤ × Option UInt8 × RxModule) :=
  if !rx.active then pure (moduleInactive, none, rx)
  else do
    let len ← getPduLength
    let checksum ← crc
    let valid ← verifyChecksum S3tpHeader.size len.toNat checksum
    if !valid then do
      let _ ← getGlobalSequence
      return (codeErrorCrcInvalid, none, rx)
    else dispatch rx frame channel

/-- The frame is copied as it is: the branch for one longer than `MAX_LEN_S3TP_PACKET` is empty. -/
def handleFrame (rx : RxModule) (channel : UInt8) (frame : List UInt8) : PacketReads (ℤ × Option UInt8 × RxModule) :=
  handleReceivedPacket rx frame channel

/-- One pass of the loop of `getNextCompleteMessage` over the packet it has taken, unless its number is not the
expected one: the bytes it appends, what it adds to the length, and the flag that ends the loop. -/
def takePacket (expected : UInt8) : PacketReads (Option (List UInt8 × UInt16 × UInt8)) := do
  let number ← seqPort
  if number ≠ expected then return none
  else do
    let data ← payloadBytes 0 (← getPduLength).toNat
    let len ← getPduLength
    let more ← moreFragments
    return some (data, len, more)

/-! ## What is read, and from where -/

section Memory

variable (memory : ℕ → UInt8) {inside : ℕ → Prop}

@[simp] theorem run_word (address : ℕ) :
    (word address).run memory = wordOfBytes (memory address) (memory (address + 1)) := by
  simp [word]

@[simp] theorem run_payloadBytes (offset count : ℕ) :
    (payloadBytes offset count).run memory = bytesAt memory (S3tpHeader.size + offset) count := by
  simp [payloadBytes, bytesAt]

/-- Turn by turn, the bytes are those of the block. -/
theorem run_readBits (out : UInt16) (bitsRead data size : ℕ) :
    (readBits out bitsRead data size).run memory = Core.readBits out bitsRead (bytesAt memory data size) := by
  induction out, bitsRead, data, size using readBits.induct with
  | case1 out bitsRead data =>
    rw [readBits, bytesAt_zero, Core.readBits]
    exact Loads.run_pure _ _
  | case2 out bitsRead data size next turn =>
    rw [readBits, bytesAt_succ, Core.readBits, Loads.run_bind, Loads.run_read]
    split
    · exact next _
    · next more => rw [turn _ more, bytesAt_succ]

/-- Every byte of the block is read. -/
theorem within_readBits {out : UInt16} {bitsRead data size : ℕ} :
    (readBits out bitsRead data size).Within memory inside ↔ ∀ i < size, inside (data + i) := by
  induction out, bitsRead, data, size using readBits.induct with
  | case1 out bitsRead data =>
    rw [readBits]
    simp
  | case2 out bitsRead data size next turn =>
    rw [readBits, Loads.within_bind, Loads.within_read, Loads.run_read]
    split
    · rw [next, Nat.forall_lt_succ_left]
      simp only [Nat.add_zero, Nat.add_assoc, Nat.add_comm 1]
    · next more =>
      rw [turn _ more]
      exact and_iff_right_of_imp fun block => block 0 (Nat.succ_pos size)

@[simp] theorem run_verifyChecksum (data len : ℕ) (checksum : UInt16) :
    (verifyChecksum data len checksum).run memory = Core.verifyChecksum (bytesAt memory data len) checksum := by
  simp [verifyChecksum, calcChecksum, run_readBits, Core.verifyChecksum, calcChecksum_turns]

@[simp] theorem within_verifyChecksum {data len : ℕ} {checksum : UInt16} :
    (verifyChecksum data len checksum).Within memory inside ↔ ∀ i < len, inside (data + i) := by
  simp [verifyChecksum, calcChecksum, within_readBits]

@[simp] theorem within_word {address : ℕ} :
    (word address).Within memory inside ↔ inside address ∧ inside (address + 1) := by
  simp [word]

@[simp] theorem within_payloadBytes {offset count : ℕ} :
    (payloadBytes offset count).Within memory inside ↔ ∀ i < count, inside (S3tpHeader.size + offset + i) := by
  simp [payloadBytes]

theorem within_crc : crc.Within memory inside ↔ inside 0 ∧ inside 1 := within_word memory

theorem within_getGlobalSequence : getGlobalSequence.Within memory inside ↔ inside 2 ∧ inside 3 := by
  simp [getGlobalSequence, seq]

theorem within_getPduLength : getPduLength.Within memory inside ↔ inside 4 ∧ inside 5 := by
  simp [getPduLength, pduLength]

theorem within_getMessageType : getMessageType.Within memory inside ↔ inside 4 ∧ inside 5 := by
  simp [getMessageType, pduLength]

theorem within_getPort : getPort.Within memory inside ↔ inside 7 := by
  simp [getPort, port]

theorem within_moreFragments : moreFragments.Within memory inside ↔ inside 7 := by
  simp [moreFragments, port]

end Memory

/-! ## In a frame

What stays inside the frame does not see what lies behind it, which may as well be zeros.
-/

section Frame

variable (frame : List UInt8)

theorem copied_of_lt (behind : ℕ → UInt8) (address : ℕ) (inside : address < frame.length) :
    copied frame behind address = padded frame address := by
  simp [copied, padded, List.getD_eq_getElem?_getD, inside]

section Behind

variable {frame} (behind : ℕ → UInt8) {α : Type}

theorem within_copied {p : PacketReads α} :
    p.Within (copied frame behind) (· < frame.length) ↔ p.Within (padded frame) (· < frame.length) :=
  Loads.within_iff_of_agree (copied_of_lt frame behind) p

theorem run_copied {p : PacketReads α} (within : p.Within (padded frame) (· < frame.length)) :
    p.run (copied frame behind) = p.run (padded frame) :=
  Loads.run_eq_of_within (copied_of_lt frame behind) within

end Behind

/-- A block inside the frame is a part of it. -/
theorem bytesAt_padded {address count : ℕ} (inside : address + count ≤ frame.length) :
    bytesAt (padded frame) address count = (frame.drop address).take count := by
  apply List.ext_getElem
  · simp
    omega
  · intro i low high
    rw [length_bytesAt] at low
    have place : address + i < frame.length := by omega
    simp [bytesAt, padded, List.getD_eq_getElem?_getD, place]

/-- The payload that the frame announces and holds. -/
theorem bytesAt_payload {count : ℕ} (inside : count ≤ (frame.drop S3tpHeader.size).length) :
    bytesAt (padded frame) S3tpHeader.size count = (frame.drop S3tpHeader.size).take count := by
  rcases Nat.eq_zero_or_pos count with rfl | positive
  · rfl
  · rw [List.length_drop] at inside
    exact bytesAt_padded frame (by omega)

theorem run_getHeader : getHeader.run (padded frame) = S3tpHeader.ofBytes frame := rfl

theorem run_crc : crc.run (padded frame) = (S3tpHeader.ofBytes frame).crc := rfl

theorem run_seqPort : seqPort.run (padded frame) = (S3tpHeader.ofBytes frame).seqPort := rfl

theorem run_getPduLength : getPduLength.run (padded frame) = (S3tpHeader.ofBytes frame).getPduLength := rfl

theorem run_getMessageType : getMessageType.run (padded frame) = (S3tpHeader.ofBytes frame).getMessageType := rfl

theorem run_getPort : getPort.run (padded frame) = (S3tpHeader.ofBytes frame).getPort := rfl

theorem run_moreFragments : moreFragments.run (padded frame) = (S3tpHeader.ofBytes frame).moreFragments := rfl

theorem run_sync : sync.run (padded frame) = S3tpSync.ofBytes (frame.drop S3tpHeader.size) := by
  have cell (i : ℕ) : padded frame (S3tpHeader.size + i) = (frame.drop S3tpHeader.size).getD i 0 := by
    rw [padded, List.getD_eq_getElem?_getD, List.getD_eq_getElem?_getD, List.getElem?_drop]
  have ports : (fun i : Fin 128 => (bytesAt (padded frame) (S3tpHeader.size + 2) 128).getD i 0) =
      fun i : Fin 128 => (frame.drop S3tpHeader.size).getD (2 + i) 0 := by
    funext i
    rw [← cell, bytesAt, List.getD_eq_getElem?_getD, List.getElem?_map, List.getElem?_range i.isLt]
    exact congrArg (padded frame) (Nat.add_assoc ..)
  simp only [sync, Loads.run_bind, Loads.run_pure, Loads.run_read, run_payloadBytes, S3tpSync.ofBytes]
  rw [ports, cell 1]
  exact congrArg (fun syncId => S3tpSync.mk syncId _ _) (cell 0)

end Frame

end PacketReads

end S3tp.Model.Core
