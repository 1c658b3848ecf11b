import Mathlib.Tactic.Common
import Mathlib.Tactic.IntervalCases

/-! # The packet header and its bit fields

The eight header bytes are five words. Two of the words and one byte share their bits between two
fields: global and sub sequence number, PDU length and message type, port and fragmentation flag.
Every setter writes its own bits and keeps some of the others; the lemmas below say which getters
see the write. A header of a fresh allocation holds arbitrary words.
-/

namespace S3tp.Model.Core

/-- `S3TP_HEADER`: the packed words of a packet header. -/
structure S3tpHeader where
  crc : UInt16
  seq : UInt16
  pduLength : UInt16
  seqPort : UInt8
  port : UInt8
deriving DecidableEq, Repr, Inhabited

/-- `S3TP_MSG_DATA`. -/
def msgData : UInt8 := 0x00

/-- `S3TP_MSG_SYNC`. -/
def msgSync : UInt8 := 0x03

/-- A port up to 127 leaves the flag's bit clear. -/
theorem and_127_of_le {port : UInt8} (bound : port ≤ 127) : port &&& 0x7F = port := by
  have small : port.toNat ≤ 127 := bound
  apply UInt8.toNat_inj.mp
  rw [UInt8.toNat_and]
  exact (Nat.and_two_pow_sub_one_eq_mod port.toNat 7).trans (Nat.mod_eq_of_lt (by omega))

namespace S3tpHeader

/-- The fragmentation bit is the most significant bit of `port`. -/
def moreFragments (h : S3tpHeader) : UInt8 := (h.port >>> 7) &&& 1

def setMoreFragments (h : S3tpHeader) : S3tpHeader := { h with port := h.port ||| 0x80 }

def unsetMoreFragments (h : S3tpHeader) : S3tpHeader := { h with port := h.port &&& 0x7F }

def getPort (h : S3tpHeader) : UInt8 := h.port &&& 0x7F

/-- The argument is not masked: its top bit, when set, overwrites the flag. -/
def setPort (h : S3tpHeader) (port : UInt8) : S3tpHeader :=
  { h with port := (h.moreFragments <<< 7) ||| port }

def getGlobalSequence (h : S3tpHeader) : UInt8 := (h.seq >>> 8).toUInt8

def setGlobalSequence (h : S3tpHeader) (globalSeq : UInt8) : S3tpHeader :=
  { h with seq := (h.seq &&& (0xFF : UInt16)) ||| (globalSeq.toUInt16 <<< 8) }

def getSubSequence (h : S3tpHeader) : UInt8 := (h.seq &&& (0xFF : UInt16)).toUInt8

def setSubSequence (h : S3tpHeader) (subSeq : UInt8) : S3tpHeader :=
  { h with seq := (h.seq &&& 0xFF00) ||| subSeq.toUInt16 }

def getPduLength (h : S3tpHeader) : UInt16 := h.pduLength &&& 0x3FFF

/-- Bit 14 of the old word survives; `getPduLength` does not look at it. -/
def setPduLength (h : S3tpHeader) (pduLen : UInt16) : S3tpHeader :=
  { h with pduLength := (h.pduLength &&& 0x4000) ||| pduLen }

def getMessageType (h : S3tpHeader) : UInt8 := (h.pduLength >>> 14).toUInt8

def setMessageType (h : S3tpHeader) (type : UInt8) : S3tpHeader :=
  { h with pduLength := (h.pduLength &&& (0x3FFF : UInt16)) ||| (type.toUInt16 <<< 14) }

variable (h : S3tpHeader)

/-! ## What each getter sees of each setter -/

@[simp] theorem moreFragments_setMoreFragments : h.setMoreFragments.moreFragments = 1 := by
  apply UInt8.eq_of_toBitVec_eq
  ext i bound
  interval_cases i <;> simp [setMoreFragments, moreFragments]

@[simp] theorem moreFragments_unsetMoreFragments : h.unsetMoreFragments.moreFragments = 0 := by
  apply UInt8.eq_of_toBitVec_eq
  ext i bound
  interval_cases i <;> simp [unsetMoreFragments, moreFragments]

@[simp] theorem getPort_setMoreFragments : h.setMoreFragments.getPort = h.getPort := by
  apply UInt8.eq_of_toBitVec_eq
  ext i bound
  interval_cases i <;> simp [setMoreFragments, getPort]

@[simp] theorem getPort_unsetMoreFragments : h.unsetMoreFragments.getPort = h.getPort := by
  apply UInt8.eq_of_toBitVec_eq
  ext i bound
  interval_cases i <;> simp [unsetMoreFragments, getPort]

@[simp] theorem getPort_setPort (port : UInt8) : (h.setPort port).getPort = port &&& 0x7F := by
  apply UInt8.eq_of_toBitVec_eq
  ext i bound
  interval_cases i <;> simp [setPort, getPort, moreFragments]

theorem moreFragments_setPort {port : UInt8} (bound : port ≤ 127) :
    (h.setPort port).moreFragments = h.moreFragments := by
  rw [← and_127_of_le bound]
  apply UInt8.eq_of_toBitVec_eq
  ext i bound
  interval_cases i <;> simp [setPort, moreFragments]

@[simp] theorem getGlobalSequence_setSubSequence (subSeq : UInt8) :
    (h.setSubSequence subSeq).getGlobalSequence = h.getGlobalSequence := by
  apply UInt8.eq_of_toBitVec_eq
  ext i bound
  interval_cases i <;> simp [setSubSequence, getGlobalSequence]

@[simp] theorem getGlobalSequence_setGlobalSequence (globalSeq : UInt8) :
    (h.setGlobalSequence globalSeq).getGlobalSequence = globalSeq := by
  apply UInt8.eq_of_toBitVec_eq
  ext i bound
  interval_cases i <;> simp [setGlobalSequence, getGlobalSequence]

@[simp] theorem getSubSequence_setGlobalSequence (globalSeq : UInt8) :
    (h.setGlobalSequence globalSeq).getSubSequence = h.getSubSequence := by
  apply UInt8.eq_of_toBitVec_eq
  ext i bound
  interval_cases i <;> simp [setGlobalSequence, getSubSequence]

@[simp] theorem getSubSequence_setSubSequence (subSeq : UInt8) :
    (h.setSubSequence subSeq).getSubSequence = subSeq := by
  apply UInt8.eq_of_toBitVec_eq
  ext i bound
  interval_cases i <;> simp [setSubSequence, getSubSequence]

/-- The later of two writes of the global sequence number is the one that stays. -/
@[simp] theorem setGlobalSequence_setGlobalSequence (first second : UInt8) :
    (h.setGlobalSequence first).setGlobalSequence second = h.setGlobalSequence second := by
  have words : (h.setGlobalSequence first).seq &&& 0xFF = h.seq &&& 0xFF := by
    apply UInt16.eq_of_toBitVec_eq
    ext i bound
    interval_cases i <;> simp [setGlobalSequence]
  simp only [setGlobalSequence] at words ⊢
  rw [words]

/-- The garbage bit that a length write keeps is invisible to the length getter. -/
@[simp] theorem getPduLength_setPduLength (pduLen : UInt16) :
    (h.setPduLength pduLen).getPduLength = pduLen &&& 0x3FFF := by
  apply UInt16.eq_of_toBitVec_eq
  ext i bound
  interval_cases i <;> simp [setPduLength, getPduLength]

theorem getPduLength_setPduLength_of_lt {pduLen : UInt16} (bound : pduLen.toNat < 2 ^ 14) :
    (h.setPduLength pduLen).getPduLength = pduLen := by
  rw [getPduLength_setPduLength]
  apply UInt16.toNat_inj.mp
  rw [UInt16.toNat_and]
  exact Nat.and_two_pow_sub_one_of_lt_two_pow (n := 14) bound

@[simp] theorem getPduLength_setMessageType (type : UInt8) :
    (h.setMessageType type).getPduLength = h.getPduLength := by
  apply UInt16.eq_of_toBitVec_eq
  ext i bound
  interval_cases i <;> simp [setMessageType, getPduLength]

@[simp] theorem getMessageType_setMessageType_data :
    (h.setMessageType msgData).getMessageType = msgData := by
  apply UInt8.eq_of_toBitVec_eq
  ext i bound
  interval_cases i <;> simp [setMessageType, getMessageType, msgData]

@[simp] theorem getMessageType_setMessageType_sync :
    (h.setMessageType msgSync).getMessageType = msgSync := by
  apply UInt8.eq_of_toBitVec_eq
  ext i bound
  interval_cases i <;> simp [setMessageType, getMessageType, msgSync]

theorem getMessageType_setMessageType {type : UInt8} (bound : type ≤ 3) :
    (h.setMessageType type).getMessageType = type := by
  have masked : (h.setMessageType type).getMessageType = type &&& 3 := by
    apply UInt8.eq_of_toBitVec_eq
    ext i index
    interval_cases i <;> simp [setMessageType, getMessageType]
  have small : type.toNat ≤ 3 := bound
  rw [masked]
  apply UInt8.toNat_inj.mp
  rw [UInt8.toNat_and]
  exact (Nat.and_two_pow_sub_one_eq_mod type.toNat 2).trans (Nat.mod_eq_of_lt (by omega))

theorem getMessageType_le : h.getMessageType ≤ 3 := by
  have bound := h.pduLength.toNat_lt
  rw [UInt8.le_iff_toNat_le, getMessageType]
  simp
  omega

/-- The mask keeps one bit of the type: a length clears the other one. -/
theorem getMessageType_setPduLength {pduLen : UInt16} (bound : pduLen ≤ 0x3FFF) :
    (h.setPduLength pduLen).getMessageType = h.getMessageType &&& 1 := by
  have small : pduLen.toNat ≤ 16383 := bound
  have masked : pduLen &&& 0x3FFF = pduLen := by
    apply UInt16.toNat_inj.mp
    rw [UInt16.toNat_and]
    exact Nat.and_two_pow_sub_one_of_lt_two_pow (n := 14) (by omega)
  rw [← masked]
  apply UInt8.eq_of_toBitVec_eq
  ext i index
  interval_cases i <;> simp [setPduLength, getMessageType]

end S3tpHeader

end S3tp.Model.Core
