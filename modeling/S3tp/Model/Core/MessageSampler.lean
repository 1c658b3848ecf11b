import S3tp.ToMathlib.ByteMemory
import Mathlib.Data.UInt

/-! # The stream sampler

A buffer collects the bytes of a stream and hands out the messages in it. What a message is three callbacks tell:
each is given a pointer into the buffer and a length, and looks at that many bytes. The buffer is the memory behind
`pBufStart`, of which the first `lenBuf` bytes are in use; copying does not look at where the buffer ends.
-/

namespace S3tp.Model.Core

/-- `MSG_SAMPLER_BUFFER_SIZE`. -/
def msgSamplerBufferSize : UInt32 := 1024

/-- `ERR_INSUFFICIENT_MEMORY`. -/
def errInsufficientMemory : ℤ := -4

/-- The callbacks of a `MESSAGE_SAMPLER`, by the bytes they look at. -/
structure SamplerCallbacks where
  isStartOfMessage : List UInt8 → Int32
  isMessageValid : List UInt8 → Int32
  getMessageLength : List UInt8 → Int32

/-- `MESSAGE_SAMPLER`, up to its callbacks. -/
structure MessageSampler where
  bufStart : ℕ → UInt8
  lenBuf : UInt32 := 0

namespace MessageSampler

variable (callbacks : SamplerCallbacks)

/-- The bytes from a position on. -/
def bytesFrom (ms : MessageSampler) (position : ℕ) : List UInt8 :=
  bytesAt ms.bufStart position (ms.lenBuf.toNat - position)

/-- The bytes in use. -/
def contents (ms : MessageSampler) : List UInt8 := ms.bytesFrom 0

/-- The first position that is accepted as the start of a message: the search of `sample` and of `removeTail`. -/
def findStart (ms : MessageSampler) : Option ℕ :=
  (List.range ms.lenBuf.toNat).find? fun position => callbacks.isStartOfMessage (ms.bytesFrom position) != 0

def removeTail (ms : MessageSampler) : MessageSampler :=
  let trashBytes := (findStart callbacks ms).getD ms.lenBuf.toNat
  if 0 < trashBytes then
    { bufStart := copyTo ms.bufStart 0 (fun i => ms.bufStart (trashBytes + i)) (ms.lenBuf.toNat - trashBytes)
      lenBuf := ms.lenBuf - UInt32.ofNat trashBytes }
  else ms

theorem findStart_lt {ms : MessageSampler} {position : ℕ} (found : findStart callbacks ms = some position) :
    position < ms.lenBuf.toNat := List.mem_range.mp (List.mem_of_find?_eq_some found)

theorem trashBytes_le (ms : MessageSampler) : (findStart callbacks ms).getD ms.lenBuf.toNat ≤ ms.lenBuf.toNat := by
  cases found : findStart callbacks ms with
  | none => exact le_refl _
  | some position => exact (findStart_lt callbacks found).le

theorem toNat_sub_ofNat {n : UInt32} {k : ℕ} (bound : k ≤ n.toNat) : (n - UInt32.ofNat k).toNat = n.toNat - k := by
  have size := n.toNat_lt
  have small : (UInt32.ofNat k).toNat = k := by
    rw [UInt32.toNat_ofNat']
    omega
  have le : UInt32.ofNat k ≤ n := by
    rw [UInt32.le_iff_toNat_le, small]
    exact bound
  rw [UInt32.toNat_sub_of_le _ _ le, small]

theorem lenBuf_removeTail_le (ms : MessageSampler) : (removeTail callbacks ms).lenBuf.toNat ≤ ms.lenBuf.toNat := by
  simp only [removeTail]
  split
  · rw [toNat_sub_ofNat (trashBytes_le callbacks ms)]
    exact Nat.sub_le _ _
  · exact le_refl _

/-- `sample`: its result, the message copied to the destination if any, and the sampler afterwards. Whether there is
a destination, and its size, are the caller's. -/
def sample (ms : MessageSampler) (pMessage : Bool) (length : UInt32) : ℤ × Option (List UInt8) × MessageSampler :=
  match _found : findStart callbacks ms with
  | none => (0, none, ms)
  | some position =>
    let msgMaxLen := ms.lenBuf.toNat - position
    let msgLen := (callbacks.getMessageLength (ms.bytesFrom position)).toUInt32
    if 0 < msgLen ∧ msgLen.toNat ≤ msgMaxLen then
      let message := bytesAt ms.bufStart position msgLen.toNat
      if callbacks.isMessageValid message ≠ 0 then
        if pMessage ∧ msgLen ≤ length then
          let rest := copyTo ms.bufStart 0 (fun i => ms.bufStart (position + msgLen.toNat + i))
            (ms.lenBuf - msgLen).toNat
          (msgLen.toNat, some message, removeTail callbacks ⟨rest, ms.lenBuf - msgLen⟩)
        else (errInsufficientMemory, none, ms)
      else
        let rest := copyTo ms.bufStart 0 (fun i => ms.bufStart (position + 1 + i)) (msgMaxLen - 1)
        sample (removeTail callbacks ⟨rest, ms.lenBuf - 1⟩) pMessage length
    else (0, none, ms)
termination_by ms.lenBuf.toNat
decreasing_by
  have inside := findStart_lt callbacks _found
  have shorter : (ms.lenBuf - UInt32.ofNat 1).toNat = ms.lenBuf.toNat - 1 := toNat_sub_ofNat (by omega)
  apply lt_of_le_of_lt (lenBuf_removeTail_le callbacks _)
  change (ms.lenBuf - UInt32.ofNat 1).toNat < ms.lenBuf.toNat
  rw [shorter]
  omega

/-- `append`: the number of bytes copied, and the sampler afterwards. The data is the memory behind the caller's
pointer, if it is not null. -/
def append (ms : MessageSampler) (data : Option (ℕ → UInt8)) (length : UInt32) : UInt32 × MessageSampler :=
  match data with
  | none => (0, ms)
  | some data =>
    if 0 < length then
      let bytesToCopy :=
        if ms.lenBuf + length < msgSamplerBufferSize then length else msgSamplerBufferSize - ms.lenBuf
      (bytesToCopy, removeTail callbacks
        ⟨copyTo ms.bufStart ms.lenBuf.toNat data bytesToCopy.toNat, ms.lenBuf + bytesToCopy⟩)
    else (0, ms)

end MessageSampler

end S3tp.Model.Core
