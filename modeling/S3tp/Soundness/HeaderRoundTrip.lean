import S3tp.Model.Core.FrameBytes
import S3tp.Model.Core.SendToLinkLayer

/-! # Headers from uninitialised memory

A packet's header is written by four functions, field by field, over whatever the allocation held. Every setter keeps
bits of the word it writes to, and each bit it keeps is either written by a later one or was written by an earlier
one. So the bytes that are sent are determined by the fields alone, and the receiver reads these fields back.
-/

namespace S3tp.Soundness

open Model.Core

/-! ## What two setters leave of the old word -/

section Words

variable (h : S3tpHeader)

/-- The type overwrites the bit that the length keeps. -/
theorem pduLength_setMessageType_setPduLength {pduLen : UInt16} (bound : pduLen.toNat < 2 ^ 14) :
    ((h.setPduLength pduLen).setMessageType msgData).pduLength = pduLen := by
  have masked : ((h.setPduLength pduLen).setMessageType msgData).pduLength = pduLen &&& 0x3FFF := by
    apply UInt16.eq_of_toBitVec_eq
    ext i index
    interval_cases i <;> simp [S3tpHeader.setPduLength, S3tpHeader.setMessageType, msgData]
  rw [masked]
  apply UInt16.toNat_inj.mp
  rw [UInt16.toNat_and]
  exact Nat.and_two_pow_sub_one_of_lt_two_pow (n := 14) bound

/-- Both halves of the word are written. -/
theorem seq_setGlobalSequence_setSubSequence (subSeq globalSeq : UInt8) :
    ((h.setSubSequence subSeq).setGlobalSequence globalSeq).seq = subSeq.toUInt16 ||| (globalSeq.toUInt16 <<< 8) := by
  apply UInt16.eq_of_toBitVec_eq
  ext i index
  interval_cases i <;> simp [S3tpHeader.setSubSequence, S3tpHeader.setGlobalSequence]

/-- The flag of the old byte is kept by one setter and overwritten by the next. -/
theorem port_setMoreFragments_setPort (port : UInt8) : (h.setPort port).setMoreFragments.port = port ||| 0x80 := by
  apply UInt8.eq_of_toBitVec_eq
  ext i index
  interval_cases i <;> simp [S3tpHeader.setPort, S3tpHeader.setMoreFragments, S3tpHeader.moreFragments]

theorem port_unsetMoreFragments_setPort (port : UInt8) : (h.setPort port).unsetMoreFragments.port = port &&& 0x7F := by
  apply UInt8.eq_of_toBitVec_eq
  ext i index
  interval_cases i <;> simp [S3tpHeader.setPort, S3tpHeader.unsetMoreFragments, S3tpHeader.moreFragments]

end Words

/-! ## The header that is sent -/

/-- A packet of the caller's payload as it is handed to the link: constructed in freshly allocated memory, given its
port, stamped by `enqueuePacket`, and numbered by `txRoutine`. -/
def transmitted (fresh : S3tpHeader) (m : Submission) (source count : ℕ) (tx : TxModule) (fragNo : UInt8)
    (moreFragments : Bool) (globalSeq : UInt8) : S3tpPacket :=
  (tx.stamped (m.packet fresh source count) fragNo moreFragments).setGlobalSequence globalSeq

/-- The header the fields determine. -/
def headerOf (m : Submission) (source count : ℕ) (tx : TxModule) (fragNo : UInt8) (moreFragments : Bool)
    (globalSeq : UInt8) : S3tpHeader where
  crc := calcChecksum (m.copied source count)
  seq := fragNo.toUInt16 ||| (globalSeq.toUInt16 <<< 8)
  pduLength := UInt16.ofNat count
  seqPort := tx.portSequence (m.port &&& 0x7F)
  port := if moreFragments then m.port ||| 0x80 else m.port &&& 0x7F

variable (m : Submission) (source : ℕ) {count : ℕ} (tx : TxModule) (fragNo : UInt8) (moreFragments : Bool)
  (globalSeq : UInt8)

/-- Nothing of the allocation is left in the header. -/
theorem header_transmitted (fresh : S3tpHeader) (fits : count ≤ lenS3tpPdu) :
    (transmitted fresh m source count tx fragNo moreFragments globalSeq).header =
      headerOf m source count tx fragNo moreFragments globalSeq := by
  have limit : lenS3tpPdu = 992 := rfl
  have small : count < 2 ^ 14 := by omega
  have copied : (m.copied source count).length = count := by simp [Submission.copied]
  have length : (UInt16.ofNat (m.copied source count).length).toNat = count := by
    rw [copied, UInt16.toNat_ofNat']
    omega
  generalize sent : (transmitted fresh m source count tx fragNo moreFragments globalSeq).header = h
  have crc : h.crc = calcChecksum (m.copied source count) := by
    rw [← m.pdu_packet fresh source count small, ← TxModule.stamped_pdu tx _ fragNo moreFragments, ← sent]
    rfl
  have seq : h.seq = fragNo.toUInt16 ||| (globalSeq.toUInt16 <<< 8) := by
    rw [← sent]
    cases moreFragments <;> exact seq_setGlobalSequence_setSubSequence _ _ _
  have pduLength : h.pduLength = UInt16.ofNat count := by
    have kept := pduLength_setMessageType_setPduLength fresh (by rw [length]; exact small)
    rw [copied] at kept
    rw [← kept, ← copied, ← sent]
    cases moreFragments <;> rfl
  have seqPort : h.seqPort = tx.portSequence (m.port &&& 0x7F) := by
    rw [← m.getPort_packet fresh source count, ← TxModule.stamped_seqPort tx _ fragNo moreFragments, ← sent]
    rfl
  have port : h.port = if moreFragments then m.port ||| 0x80 else m.port &&& 0x7F := by
    rw [← sent]
    cases moreFragments
    · exact port_unsetMoreFragments_setPort _ _
    · exact port_setMoreFragments_setPort _ _
  calc h = ⟨h.crc, h.seq, h.pduLength, h.seqPort, h.port⟩ := rfl
    _ = headerOf m source count tx fragNo moreFragments globalSeq := by
      rw [crc, seq, pduLength, seqPort, port]
      rfl

/-- What the receiver decodes are the fields the sender set, and the bytes it decodes them from do not depend on what
the allocation held. -/
theorem header_roundTrip (fresh : S3tpHeader) (fits : count ≤ lenS3tpPdu) (inRange : m.port ≤ 127) (channel : UInt8) :
    let sent (fresh : S3tpHeader) := transmitted fresh m source count tx fragNo moreFragments globalSeq
    let received := (S3tpPacket.ofFrame (sent fresh).toFrame channel).header
    received.getMessageType = msgData ∧ received.getPduLength.toNat = count ∧ received.getPort = m.port ∧
      received.moreFragments = (if moreFragments then 1 else 0) ∧ received.getSubSequence = fragNo ∧
      received.seqPort = tx.portSequence m.port ∧ received.getGlobalSequence = globalSeq ∧
      ∀ other, (sent other).header.toBytes = (sent fresh).header.toBytes := by
  intro sent received
  have limit : lenS3tpPdu = 992 := rfl
  have small : count < 2 ^ 14 := by omega
  have packetPort : (m.packet fresh source count).getPort = m.port := by
    rw [m.getPort_packet, and_127_of_le inRange]
  have same : received = (sent fresh).header := S3tpPacket.header_ofFrame_toFrame _ _
  rw [same]
  refine ⟨?_, ?_, ?_, ?_, ?_, ?_, ?_, ?_⟩
  · exact TxModule.stamped_getMessageType tx _ fragNo moreFragments
  · have kept := TxModule.stamped_getPduLength tx (m.packet fresh source count) fragNo moreFragments
    have length := m.getPduLength_packet fresh source count small
    rw [← kept] at length
    exact length
  · have kept := TxModule.stamped_getPort tx (m.packet fresh source count) fragNo moreFragments
    rw [packetPort] at kept
    exact kept
  · exact TxModule.stamped_moreFragments tx _ fragNo moreFragments
  · have kept := TxModule.stamped_getSubSequence tx (m.packet fresh source count) fragNo moreFragments
    rw [← kept]
    exact S3tpHeader.getSubSequence_setGlobalSequence _ _
  · have kept := TxModule.stamped_seqPort tx (m.packet fresh source count) fragNo moreFragments
    rw [packetPort] at kept
    exact kept
  · exact S3tpHeader.getGlobalSequence_setGlobalSequence _ _
  · intro other
    rw [header_transmitted m source tx fragNo moreFragments globalSeq other fits,
      header_transmitted m source tx fragNo moreFragments globalSeq fresh fits]

/-- Three bytes for port 5, as the last fragment. -/
theorem header_roundTrip_port_five :
    let m : Submission := ⟨0, 5, fun _ => 7, 3, 0⟩
    let sent (fresh : S3tpHeader) := transmitted fresh m 0 3 (.create default) 2 false 9
    let received := (S3tpPacket.ofFrame (sent default).toFrame 0).header
    received.getMessageType = msgData ∧ received.getPduLength.toNat = 3 ∧ received.getPort = 5 ∧
      received.moreFragments = 0 ∧ received.getSubSequence = 2 ∧ received.seqPort = 0 ∧
      received.getGlobalSequence = 9 ∧ ∀ other, (sent other).header.toBytes = (sent default).header.toBytes :=
  header_roundTrip ⟨0, 5, fun _ => 7, 3, 0⟩ 0 (.create default) 2 false 9 default (by decide) (by decide) 0

end S3tp.Soundness
