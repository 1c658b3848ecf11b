import Mathlib.Tactic.Common

/-! # The packet checksum

A 16-bit register is shifted once for each payload bit, least significant bit of each byte first,
then sixteen more times with zeros, and its bits are reversed at the end. A frame is accepted when
the register computed over its payload equals the checksum stored in its header.
-/

namespace S3tp.Model.Core

/-- `CRC16`: the polynomial without its leading term. -/
def crc16 : UInt16 := 0x8005

/-- One turn of either loop: shift `bit` in, reduce when a one was shifted out. -/
def shiftBit (out : UInt16) (bit : UInt16) : UInt16 :=
  let shifted := (out <<< 1) ||| bit
  if out >>> 15 ≠ 0 then shifted ^^^ crc16 else shifted

/-- The bit of `data` read when `bits_read` bits of it have been consumed. -/
def dataBit (data : UInt8) (bitsRead : ℕ) : UInt16 := ((data >>> UInt8.ofNat bitsRead) &&& 1).toUInt16

/-- The eight turns of the first loop that consume one byte. -/
def shiftByte (out : UInt16) (data : UInt8) : UInt16 :=
  (List.range 8).foldl (fun out bitsRead => shiftBit out (dataBit data bitsRead)) out

/-- `(*data >> bits_read) & 1`: a `char` is signed, and widened before it is shifted. -/
def charBit (data : UInt8) (bitsRead : ℕ) : UInt16 :=
  .ofBitVec ((((data.toBitVec.signExtend 32).sshiftRight bitsRead) &&& 1).setWidth 16)

/-- The first loop turn by turn, once `bits_read` bits of the first byte left have been consumed. -/
def readBits (out : UInt16) (bitsRead : ℕ) : List UInt8 → UInt16
  | [] => out
  | byte :: data =>
    if bitsRead + 1 > 7 then readBits (shiftBit out (charBit byte bitsRead)) 0 data
    else readBits (shiftBit out (charBit byte bitsRead)) (bitsRead + 1) (byte :: data)
termination_by data => (data.length, 8 - bitsRead)

/-- The third loop: bit `15 - j` of the register becomes bit `j` of the result. -/
def reverseBits (out : UInt16) : UInt16 :=
  (List.range 16).foldl
    (fun crc j => if out &&& (0x8000 >>> UInt16.ofNat j) ≠ 0 then crc ||| (1 <<< UInt16.ofNat j) else crc) 0

/-- `calc_checksum` over the given bytes. -/
def calcChecksum (data : List UInt8) : UInt16 :=
  let out := data.foldl shiftByte 0
  reverseBits ((List.range 16).foldl (fun out _ => shiftBit out 0) out)

/-- `verify_checksum`. -/
def verifyChecksum (data : List UInt8) (checksum : UInt16) : Bool := checksum == calcChecksum data

/-- Widening does not touch the bits that are read. -/
theorem charBit_eq (data : UInt8) {bitsRead : ℕ} (bound : bitsRead < 8) :
    charBit data bitsRead = dataBit data bitsRead := by
  have place : bitsRead % 8 % 16 = bitsRead := by omega
  have widened : ((data.toBitVec.signExtend 32).sshiftRight bitsRead).getLsbD 0 = data.toBitVec.getLsbD bitsRead := by
    rw [BitVec.getLsbD_sshiftRight, BitVec.getLsbD_signExtend]
    have inside : bitsRead < 32 := by omega
    simp [bound, inside]
  apply UInt16.toBitVec_inj.mp
  apply BitVec.eq_of_getLsbD_eq
  intro i index
  rcases Nat.eq_zero_or_pos i with rfl | higher
  · rw [BitVec.getLsbD_eq_getElem (by decide)] at widened
    simp only [charBit, dataBit]
    simp [place, widened]
    omega
  · have above : i ≠ 0 := by omega
    simp [charBit, dataBit, above]

/-- The turns that consume what is left of a byte. -/
theorem readBits_cons (byte : UInt8) (data : List UInt8) {left bitsRead : ℕ} (places : bitsRead + left = 8)
    (more : 0 < left) (out : UInt16) : readBits out bitsRead (byte :: data) =
      readBits ((List.range' bitsRead left).foldl (fun out bitsRead => shiftBit out (dataBit byte bitsRead)) out) 0
        data := by
  induction left generalizing bitsRead out with
  | zero => omega
  | succ left ih =>
    rw [readBits, charBit_eq byte (by omega), List.range'_succ, List.foldl_cons]
    rcases Nat.eq_zero_or_pos left with rfl | further
    · rw [if_pos (by omega)]
      rfl
    · rw [if_neg (by omega)]
      exact ih (by omega) further _

/-- Turn by turn the loop consumes one byte after the other. -/
theorem readBits_eq (out : UInt16) (data : List UInt8) : readBits out 0 data = data.foldl shiftByte out := by
  induction data generalizing out with
  | nil => rw [readBits, List.foldl_nil]
  | cons byte data ih =>
    rw [readBits_cons byte data (Nat.zero_add 8) (by decide), ih, List.foldl_cons, shiftByte, List.range_eq_range']

theorem calcChecksum_turns (data : List UInt8) :
    calcChecksum data = reverseBits ((List.range 16).foldl (fun out _ => shiftBit out 0) (readBits 0 0 data)) := by
  rw [calcChecksum, readBits_eq]

/-- A stored checksum that was computed over the same bytes is accepted. -/
@[simp] theorem verifyChecksum_calcChecksum (data : List UInt8) :
    verifyChecksum data (calcChecksum data) = true := by
  simp [verifyChecksum]

end S3tp.Model.Core
