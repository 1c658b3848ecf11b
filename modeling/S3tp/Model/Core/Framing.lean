import S3tp.Model.Core.Connector
import S3tp.ToMathlib.LittleEndian

/-! # Frames on the sockets of applications

What either side writes to a socket for one message, one byte list for each `write`, and how a length
is read back. A length is sent three times. The structure it is read into is not initialized: what a
short read leaves out is what the stack held there.
-/

namespace S3tp.Model.Core

/-- `CODE_ERROR_SOCKET_READ`. -/
def codeErrorSocketRead : ℤ := -7

/-- `CODE_ERROR_LENGTH_CORRUPT`. -/
def codeErrorLengthCorrupt : ℤ := -8

/-- `APP_DATA_MESSAGE`. -/
def appDataMessage : UInt8 := 0x00

/-- `APP_CONTROL_MESSAGE`. -/
def appControlMessage : UInt8 := 0xFF

/-- `SAFE_TRANSMISSION_COUNT`. -/
def safeTransmissionCount : ℕ := 3

/-- `sizeof(size_t)`. -/
def sizeofSizeT : ℕ := 8

/-! ## Lengths -/

/-- `S3TP_INTRO_REDUNDANT`. -/
structure S3tpIntroRedundant where
  command : ℕ → ℕ

namespace S3tpIntroRedundant

/-- `sizeof(S3TP_INTRO_REDUNDANT)`. -/
def size : ℕ := safeTransmissionCount * sizeofSizeT

def toBytes (intro : S3tpIntroRedundant) : List UInt8 :=
  (List.range safeTransmissionCount).flatMap fun i => littleEndian sizeofSizeT (intro.command i)

def ofBytes (bytes : List UInt8) : S3tpIntroRedundant where
  command i := ofLittleEndian ((bytes.drop (i * sizeofSizeT)).take sizeofSizeT)

@[simp] theorem length_toBytes (intro : S3tpIntroRedundant) : intro.toBytes.length = size := by
  simp [toBytes, List.range_succ, size, safeTransmissionCount, sizeofSizeT]

/-- Lengths that fit in a `size_t` are recovered, whatever follows the structure in memory. -/
theorem command_ofBytes_toBytes (intro : S3tpIntroRedundant) (more : List UInt8) {i : ℕ}
    (index : i < safeTransmissionCount) (fits : intro.command i < 2 ^ 64) :
    (ofBytes (intro.toBytes ++ more)).command i = intro.command i := by
  have word (n : ℕ) : (littleEndian 8 n).length = 8 := length_littleEndian 8 n
  have past (n : ℕ) : (littleEndian 8 n).drop 16 = [] := List.drop_eq_nil_of_le (by rw [word]; decide)
  have found : ((intro.toBytes ++ more).drop (i * sizeofSizeT)).take sizeofSizeT =
      littleEndian 8 (intro.command i) := by
    have cases : i = 0 ∨ i = 1 ∨ i = 2 := by
      rw [safeTransmissionCount] at index
      omega
    rcases cases with rfl | rfl | rfl <;>
      simp [toBytes, List.range_succ, safeTransmissionCount, sizeofSizeT, List.drop_append, word, past]
  change ofLittleEndian (((intro.toBytes ++ more).drop (i * sizeofSizeT)).take sizeofSizeT) = intro.command i
  rw [found]
  exact ofLittleEndian_littleEndian (lt_of_lt_of_eq fits (by norm_num))

end S3tpIntroRedundant

/-- The structure `write_length_safe` writes. -/
def redundantLength (len : ℕ) : S3tpIntroRedundant := ⟨fun _ => len⟩

/-- What `write_length_safe` writes. -/
def writeLengthSafe (len : ℕ) : List UInt8 := (redundantLength len).toBytes

@[simp] theorem length_writeLengthSafe (len : ℕ) : (writeLengthSafe len).length = S3tpIntroRedundant.size :=
  S3tpIntroRedundant.length_toBytes _

/-- What the comparison loops of `read_length_safe` carry. -/
structure Tally where
  outLength : ℕ
  tempCount : ℕ := 0
  count : ℕ := 0
deriving DecidableEq

namespace Tally

variable (len : S3tpIntroRedundant)

/-- The body of the inner loop. -/
def compare (i : ℕ) (tally : Tally) (j : ℕ) : Tally :=
  let tempCount := if len.command i = len.command j then tally.tempCount + 1 else tally.tempCount
  if tempCount > tally.count then { outLength := len.command i, tempCount, count := tempCount }
  else { tally with tempCount }

/-- The body of the outer loop. -/
def row (tally : Tally) (i : ℕ) : Tally :=
  (List.range' 1 (safeTransmissionCount - 1)).foldl (compare len i) { tally with tempCount := 0 }

def loops : Tally := (List.range (safeTransmissionCount - 1)).foldl (row len) { outLength := len.command 0 }

end Tally

/-- `read_length_safe`, by what `read` returns and what the structure holds afterwards: the error code
and the length, if it is set. -/
def readLengthSafe (rd : ℤ) (len : S3tpIntroRedundant) : ℤ × Option ℕ :=
  if rd < 0 then (codeErrorSocketRead, none)
  else if rd = 0 then (codeErrorSocketNoConn, none)
  else
    let tally := Tally.loops len
    if tally.count ≤ safeTransmissionCount / 2 then (codeErrorLengthCorrupt, some 0)
    else (codeSuccess, some tally.outLength)

/-- Three equal copies are accepted. -/
theorem readLengthSafe_of_equal {rd : ℤ} (positive : 0 < rd) {len : S3tpIntroRedundant} {n : ℕ}
    (equal : ∀ i < safeTransmissionCount, len.command i = n) : readLengthSafe rd len = (codeSuccess, some n) := by
  have copy (i : ℕ) (index : i < 3) : len.command i = n := equal i index
  have tally : Tally.loops len = { outLength := n, tempCount := 2, count := 2 } := by
    simp [Tally.loops, Tally.row, Tally.compare, safeTransmissionCount, List.range_succ, List.range'_succ, copy]
  rw [readLengthSafe, if_neg (by omega), if_neg (by omega), tally]
  rfl

/-- A length that has been read entirely is the one that was written. -/
theorem readLengthSafe_writeLengthSafe {len : ℕ} (fits : len < 2 ^ 64) (more : List UInt8) :
    readLengthSafe S3tpIntroRedundant.size (.ofBytes (writeLengthSafe len ++ more)) = (codeSuccess, some len) :=
  readLengthSafe_of_equal (by decide) fun _ index =>
    (redundantLength len).command_ofBytes_toBytes more index fits

/-! ## Frames -/

/-- A message an application or the daemon passes to `send`, its length a `size_t`. -/
structure AppMessage where
  data : List UInt8
  fits : data.length < 2 ^ 64
deriving DecidableEq

/-- What one pass of the loop in `S3tpConnector::send` writes, and what `Client::send` writes. -/
def AppMessage.writes (message : AppMessage) : List (List UInt8) :=
  [[appDataMessage], writeLengthSafe message.data.length, message.data]

/-- What `Client::sendControlMessage` writes. -/
def S3tpControl.writes (control : S3tpControl) : List (List UInt8) :=
  [[appControlMessage], [control.controlMessageType, control.error]]

/-- The whole frame. -/
def AppMessage.frame (message : AppMessage) : List UInt8 :=
  appDataMessage :: (writeLengthSafe message.data.length ++ message.data)

theorem AppMessage.flatten_writes (message : AppMessage) : message.writes.flatten = message.frame := by
  simp [writes, frame]

theorem AppMessage.length_frame (message : AppMessage) :
    message.frame.length = message.data.length + S3tpIntroRedundant.size + 1 := by
  simp only [frame, List.length_cons, List.length_append, length_writeLengthSafe]
  omega

end S3tp.Model.Core
