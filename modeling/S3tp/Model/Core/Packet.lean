import S3tp.Model.Core.Checksum
import S3tp.Model.Core.Header
import Mathlib.Data.Int.Notation
import Mathlib.Data.List.OfFn

/-! # Packets and sync structures

A packet is a header, the bytes allocated behind it, and the metadata that travels beside it: the
virtual channel and the options. What the protocol transmits, checks and assembles of the payload
is its first `getPduLength` bytes, `S3tpPacket.pdu`. A frame handed to the link is the packet whose
header and leading payload bytes it copies. A sync structure is the payload of a sync frame.
-/

namespace S3tp.Model.Core

/-- `MAX_LEN_S3TP_PACKET`. -/
def maxLenS3tpPacket : ℕ := 1000

/-- `LEN_S3TP_PDU`. -/
def lenS3tpPdu : ℕ := maxLenS3tpPacket - 8

/-- `MAX_PDU_LENGTH`, the payload of `DEFAULT_MAX_FRAGMENTS` full packets. -/
def maxPduLength : ℕ := lenS3tpPdu * 128

/-- `CODE_SUCCESS`. -/
def codeSuccess : ℤ := 0

/-- `S3TP_PACKET`. -/
structure S3tpPacket where
  header : S3tpHeader
  payload : List UInt8
  channel : UInt8 := 0
  options : UInt8 := 0
deriving DecidableEq, Repr, Inhabited

namespace S3tpPacket

/-- The constructor that copies a PDU; all other header bits are those of the fresh allocation. -/
def ofPdu (fresh : S3tpHeader) (pdu : List UInt8) : S3tpPacket where
  header := fresh.setPduLength (UInt16.ofNat pdu.length)
  payload := pdu

/-- The bytes of the payload that belong to the PDU. -/
def pdu (packet : S3tpPacket) : List UInt8 := packet.payload.take packet.header.getPduLength.toNat

def getPort (packet : S3tpPacket) : UInt8 := packet.header.getPort

/-- The transmit thread fills in the global sequence number of a packet it has dequeued. -/
def setGlobalSequence (packet : S3tpPacket) (globalSeq : UInt8) : S3tpPacket :=
  { packet with header := packet.header.setGlobalSequence globalSeq }

/-- Store the checksum of the PDU. -/
def setCrc (packet : S3tpPacket) : S3tpPacket :=
  { packet with header := { packet.header with crc := calcChecksum packet.pdu } }

/-- The stored checksum matches the PDU. -/
def crcValid (packet : S3tpPacket) : Bool := verifyChecksum packet.pdu packet.header.crc

theorem pdu_ofPdu (fresh : S3tpHeader) {bytes : List UInt8} (bound : bytes.length < 2 ^ 14) :
    (ofPdu fresh bytes).pdu = bytes := by
  have length : (UInt16.ofNat bytes.length).toNat = bytes.length := by
    rw [UInt16.toNat_ofNat', Nat.mod_eq_of_lt (by omega)]
  rw [pdu, ofPdu, S3tpHeader.getPduLength_setPduLength_of_lt _ (by rw [length]; exact bound), length]
  exact List.take_length

@[simp] theorem crcValid_setCrc (packet : S3tpPacket) : packet.setCrc.crcValid = true :=
  verifyChecksum_calcChecksum _

/-! A late write of the global sequence number touches nothing the receiver orders or checks by. -/

section SetGlobalSequence

variable (packet : S3tpPacket) (globalSeq : UInt8)

@[simp] theorem setGlobalSequence_getPort : (packet.setGlobalSequence globalSeq).getPort = packet.getPort := rfl

@[simp] theorem setGlobalSequence_moreFragments :
    (packet.setGlobalSequence globalSeq).header.moreFragments = packet.header.moreFragments := rfl

@[simp] theorem setGlobalSequence_getSubSequence :
    (packet.setGlobalSequence globalSeq).header.getSubSequence = packet.header.getSubSequence :=
  packet.header.getSubSequence_setGlobalSequence globalSeq

@[simp] theorem setGlobalSequence_seqPort :
    (packet.setGlobalSequence globalSeq).header.seqPort = packet.header.seqPort := rfl

@[simp] theorem setGlobalSequence_getMessageType :
    (packet.setGlobalSequence globalSeq).header.getMessageType = packet.header.getMessageType := rfl

@[simp] theorem setGlobalSequence_pdu : (packet.setGlobalSequence globalSeq).pdu = packet.pdu := rfl

@[simp] theorem setGlobalSequence_crcValid :
    (packet.setGlobalSequence globalSeq).crcValid = packet.crcValid := rfl

@[simp] theorem setGlobalSequence_setGlobalSequence (later : UInt8) :
    (packet.setGlobalSequence globalSeq).setGlobalSequence later = packet.setGlobalSequence later := by
  simp [setGlobalSequence]

end SetGlobalSequence

end S3tpPacket

/-- `S3TP_SYNC`. -/
structure S3tpSync where
  syncId : UInt8
  txGlobalSeq : UInt8 := 0
  portSeq : Fin 128 → UInt8 := fun _ => 0

namespace S3tpSync

/-- `sizeof(S3TP_SYNC)`. -/
def size : ℕ := 130

/-- The packed structure as payload bytes. -/
def toBytes (sync : S3tpSync) : List UInt8 := sync.syncId :: sync.txGlobalSeq :: List.ofFn sync.portSeq

/-- The structure a payload pointer is cast to. -/
def ofBytes (payload : List UInt8) : S3tpSync where
  syncId := payload.getD 0 0
  txGlobalSeq := payload.getD 1 0
  portSeq i := payload.getD (2 + i) 0

@[simp] theorem length_toBytes (sync : S3tpSync) : sync.toBytes.length = 130 := by
  simp only [toBytes, List.length_cons, List.length_ofFn]

/-- The receiver's cast recovers the structure the sender wrote. -/
@[simp] theorem ofBytes_toBytes (sync : S3tpSync) : ofBytes sync.toBytes = sync := by
  have port (i : Fin 128) : (ofBytes sync.toBytes).portSeq i = sync.portSeq i := by
    have shift : 2 + i.val = i.val + 1 + 1 := by omega
    simp only [ofBytes, toBytes, shift, List.getD_eq_getElem?_getD, List.getElem?_cons_succ,
      List.getElem?_ofFn, i.isLt, dite_true, Option.getD_some, Fin.eta]
  obtain ⟨syncId, txGlobalSeq, portSeq⟩ := sync
  exact congrArg (S3tpSync.mk syncId txGlobalSeq) (funext port)

end S3tpSync

end S3tp.Model.Core
