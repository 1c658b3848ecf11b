import Mathlib.Data.UInt
import S3tp.Model.Core.Packet

/-! # The application's connector

The state `S3tpConnector` keeps under its mutex, and what its methods do to it. The socket carries
control messages to the connector, each a type byte and an error byte.
-/

namespace S3tp.Model.Core

/-- `CODE_ERROR_SOCKET_NO_CONN`. -/
def codeErrorSocketNoConn : ℤ := -5

/-- `CODE_ERROR_SOCKET_WRITE`. -/
def codeErrorSocketWrite : ℤ := -6

/-- `AppControlMessageType`. -/
inductive AppControlMessageType where
  | ack
  | nack
  | available
  | reserved
deriving DecidableEq

/-- The value of the enumerator. -/
def AppControlMessageType.toByte : AppControlMessageType → UInt8
  | .ack => 0x00
  | .nack => 0x0F
  | .available => 0xF0
  | .reserved => 0xFF

/-- How many of the lowest bits are set. -/
def bitsSet (val : UInt8) : ℕ → ℕ
  | 0 => 0
  | bits + 1 => (if val % 2 ≠ 0 then 1 else 0) + bitsSet (val >>> 1) bits

/-- Each half of the byte is taken for the value it is at most one bit away from. -/
def safeMessageTypeInterpretation (val : UInt8) : AppControlMessageType :=
  let countLow := bitsSet val 4
  let countHigh := bitsSet (val >>> 4) 4
  if countLow ≤ 1 ∧ countHigh ≤ 1 then .ack
  else if countHigh ≤ 1 then .nack
  else if countLow ≤ 1 then .available
  else .reserved

@[simp] theorem safeMessageTypeInterpretation_toByte (type : AppControlMessageType) :
    safeMessageTypeInterpretation type.toByte = type := by
  cases type <;> decide

/-- `S3TP_CONTROL`. -/
structure S3tpControl where
  controlMessageType : UInt8
  error : UInt8
deriving DecidableEq

namespace S3tpControl

/-- How the connector reads the message. -/
def type (control : S3tpControl) : AppControlMessageType :=
  safeMessageTypeInterpretation control.controlMessageType

/-- What the daemon's client thread answers to a message whose `onApplicationMessage` returned the result. -/
def answerTo (result : ℤ) : S3tpControl :=
  if result ≠ codeSuccess then ⟨AppControlMessageType.nack.toByte, UInt8.ofInt result⟩
  else ⟨AppControlMessageType.ack.toByte, 0⟩

/-- What the daemon's other threads send when a channel or the link changes. -/
def availability : S3tpControl := ⟨AppControlMessageType.available.toByte, 0⟩

/-- The message answers a data message. -/
def isAnswer (control : S3tpControl) : Bool := control.type == .ack || control.type == .nack

@[simp] theorem type_answerTo (result : ℤ) :
    (answerTo result).type = if result = codeSuccess then .ack else .nack := by
  rw [answerTo, type]
  split <;> simp_all

@[simp] theorem isAnswer_answerTo (result : ℤ) : (answerTo result).isAnswer = true := by
  rw [isAnswer, type_answerTo]
  split <;> rfl

@[simp] theorem isAnswer_availability : availability.isAnswer = false := by decide

end S3tpControl

/-- What the connector keeps under `connector_mutex`. -/
structure S3tpConnector where
  connected : Bool := false
  lastMessageAck : Bool := false
  s3tpBufferFull : Bool := false
deriving DecidableEq

namespace S3tpConnector

/-- A connector whose `init` has succeeded. -/
def init : S3tpConnector := { connected := true }

def closeConnection (c : S3tpConnector) : S3tpConnector := { c with connected := false }

/-- The part of `receiveControlMessage` under the mutex, once the message has been read. -/
def receiveControlMessage (c : S3tpConnector) (control : S3tpControl) : S3tpConnector :=
  match control.type with
  | .ack => { c with lastMessageAck := true }
  | .nack => { c with lastMessageAck := false, s3tpBufferFull := true }
  | .available => { c with s3tpBufferFull := false }
  | .reserved => c

@[simp] theorem receiveControlMessage_connected (c : S3tpConnector) (control : S3tpControl) :
    (c.receiveControlMessage control).connected = c.connected := by
  rw [receiveControlMessage]
  split <;> rfl

/-- An answer is what `lastMessageAck` says afterwards. -/
theorem receiveControlMessage_lastMessageAck (c : S3tpConnector) (control : S3tpControl) :
    (c.receiveControlMessage control).lastMessageAck =
      if control.isAnswer then control.type == .ack else c.lastMessageAck := by
  rw [receiveControlMessage, S3tpControl.isAnswer]
  cases control.type <;> rfl

end S3tpConnector

end S3tp.Model.Core
