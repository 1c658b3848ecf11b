import S3tp.Model.Core.Packet
import S3tp.ToMathlib.LittleEndian

/-! # Frames as bytes

The packed header as the bytes it occupies at the start of a frame, and a received frame as the packet whose header
it is cast to. Words are stored least significant byte first.
-/

namespace S3tp.Model.Core

/-- Two consecutive bytes as a word. -/
def wordOfBytes (low high : UInt8) : UInt16 := UInt16.ofNat (ofLittleEndian [low, high])

theorem wordOfBytes_littleEndian (w : UInt16) :
    ∃ low high, littleEndian 2 w.toNat = [low, high] ∧ wordOfBytes low high = w := by
  refine ⟨_, _, rfl, ?_⟩
  have recovered : ofLittleEndian (littleEndian 2 w.toNat) = w.toNat := ofLittleEndian_littleEndian w.toNat_lt
  calc wordOfBytes _ _ = UInt16.ofNat (ofLittleEndian (littleEndian 2 w.toNat)) := rfl
    _ = w := by rw [recovered, UInt16.ofNat_toNat]

namespace S3tpHeader

/-- `sizeof(S3TP_HEADER)`. -/
def size : ℕ := 8

def toBytes (h : S3tpHeader) : List UInt8 :=
  littleEndian 2 h.crc.toNat ++ littleEndian 2 h.seq.toNat ++ littleEndian 2 h.pduLength.toNat ++ [h.seqPort, h.port]

/-- The structure a pointer to the bytes is cast to. -/
def ofBytes (bytes : List UInt8) : S3tpHeader where
  crc := wordOfBytes (bytes.getD 0 0) (bytes.getD 1 0)
  seq := wordOfBytes (bytes.getD 2 0) (bytes.getD 3 0)
  pduLength := wordOfBytes (bytes.getD 4 0) (bytes.getD 5 0)
  seqPort := bytes.getD 6 0
  port := bytes.getD 7 0

@[simp] theorem length_toBytes (h : S3tpHeader) : h.toBytes.length = size := by
  simp [toBytes, size]

/-- The receiver's cast recovers the header, whatever follows it in the frame. -/
theorem ofBytes_toBytes_append (h : S3tpHeader) (payload : List UInt8) : ofBytes (h.toBytes ++ payload) = h := by
  obtain ⟨_, _, crcBytes, crc⟩ := wordOfBytes_littleEndian h.crc
  obtain ⟨_, _, seqBytes, seq⟩ := wordOfBytes_littleEndian h.seq
  obtain ⟨_, _, lengthBytes, length⟩ := wordOfBytes_littleEndian h.pduLength
  simp [ofBytes, toBytes, crcBytes, seqBytes, lengthBytes, crc, seq, length]

end S3tpHeader

namespace S3tpPacket

/-- The bytes handed to `sendFrame`: the header and `getPduLength` bytes of the payload. -/
def toFrame (packet : S3tpPacket) : List UInt8 := packet.header.toBytes ++ packet.pdu

/-- The constructor that copies a received frame. -/
def ofFrame (frame : List UInt8) (channel : UInt8) : S3tpPacket where
  header := .ofBytes frame
  payload := frame.drop S3tpHeader.size
  channel := channel

@[simp] theorem header_ofFrame_toFrame (packet : S3tpPacket) (channel : UInt8) :
    (ofFrame packet.toFrame channel).header = packet.header :=
  packet.header.ofBytes_toBytes_append packet.pdu

/-- What arrives is the header and the payload that were sent. -/
theorem ofFrame_toFrame (packet : S3tpPacket) (channel : UInt8) :
    ofFrame packet.toFrame channel = { header := packet.header, payload := packet.pdu, channel := channel } := by
  have payload : packet.toFrame.drop S3tpHeader.size = packet.pdu := by
    rw [toFrame, ← packet.header.length_toBytes, List.drop_left]
  rw [ofFrame, payload]
  exact congrArg (fun header => ({ header, payload := packet.pdu, channel } : S3tpPacket))
    (packet.header.ofBytes_toBytes_append packet.pdu)

end S3tpPacket

end S3tp.Model.Core
