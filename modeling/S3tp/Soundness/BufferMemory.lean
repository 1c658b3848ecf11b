import S3tp.Machine.Run
import S3tp.Model.Core.LinkedBuffer

/-! # The buffer in memory is the buffer

Any operations on a packet buffer, one after another and each with the policy the module has then: what the pointers
and nodes in memory answer is what the buffer answers as a value. No operation follows a null pointer or one to a
deleted node, fails an assertion or runs in circles, but one: to clear the queue of a port whose entry is null, as a
look-up before the first packet leaves it.
-/

namespace S3tp.Soundness

open Model.Core Machine

/-- An operation, with the allocator and the policy it finds. -/
inductive BufferCall where
  | write (allocator : Allocator (LinkedNode S3tpPacket)) (policy : PolicyActor S3tpPacket) (packet : S3tpPacket)
  | getNextPacket (policy : PolicyActor S3tpPacket) (port : UInt8)
  | getNextAvailablePacket (policy : PolicyActor S3tpPacket)
  | clearQueueForPort (port : UInt8)
  | clear
  | packetsAvailable
  | getActiveQueues
  | peektNextPacket (port : UInt8)
  | getSizeOfQueue (port : UInt8)
  | getQueue (port : UInt8)

/-- What an operation returns. Of a queue the caller sees the size and the elements from the head on. -/
inductive BufferAnswer where
  | done
  | code (result : ℤ)
  | packet (packet : Option S3tpPacket)
  | packets (available : Bool)
  | ports (ports : List ℤ)
  | size (size : ℕ)
  | queue (size : UInt16) (elements : List S3tpPacket)

def linkedCall (l : LinkedBuffer) : BufferCall → Option (BufferAnswer × LinkedBuffer)
  | .write allocator policy packet => (l.write allocator policy packet).map fun (result, l) => (.code result, l)
  | .getNextPacket policy port =>
    (l.getNextPacket policy (portKey port)).map fun (packet, l) => (.packet packet, l)
  | .getNextAvailablePacket policy => (l.getNextAvailablePacket policy).map fun (packet, l) => (.packet packet, l)
  | .clearQueueForPort port => (l.clearQueueForPort port).map fun l => (.done, l)
  | .clear => l.clear.map fun l => (.done, l)
  | .packetsAvailable => some (.packets l.packetsAvailable, l)
  | .getActiveQueues => some (.ports l.getActiveQueues, l)
  | .peektNextPacket port => (l.peektNextPacket (portKey port)).map fun (packet, l) => (.packet packet, l)
  | .getSizeOfQueue port => some (.size (l.getSizeOfQueue port).1, (l.getSizeOfQueue port).2)
  | .getQueue port =>
    let (queue, l) := l.getQueue (portKey port)
    queue.elements.map fun elements => (.queue queue.getSize elements, l)

/-- The same operations on the buffer as a value. -/
def bufferCall (b : Buffer) : BufferCall → BufferAnswer × Buffer
  | .write _ policy packet => (.code codeSuccess, b.write policy packet)
  | .getNextPacket policy port =>
    (.packet ((b.getNextPacket policy port).map Prod.fst), ((b.getNextPacket policy port).map Prod.snd).getD b)
  | .getNextAvailablePacket policy =>
    (.packet ((b.getNextAvailablePacket policy).map Prod.fst),
      ((b.getNextAvailablePacket policy).map Prod.snd).getD b)
  | .clearQueueForPort port => (.done, b.clearQueueForPort port)
  | .clear => (.done, b.clear)
  | .packetsAvailable => (.packets b.packetsAvailable, b)
  | .getActiveQueues => (.ports (b.getActiveQueues.map portKey), b)
  | .peektNextPacket port => (.packet (b.peektNextPacket port), b)
  | .getSizeOfQueue port => (.size (b.getSizeOfQueue port).toNat, b)
  | .getQueue port => (.queue (b.getQueue port).getSize (b.held port), b)

/-- The operation would clear a queue through a null pointer. -/
def ClearsNull (l : LinkedBuffer) (call : BufferCall) : Prop :=
  ∃ port, call = .clearQueueForPort port ∧ l.queues.lookup (portKey port) = some none

section Calls

variable {l l' : LinkedBuffer} {b : Buffer} {call : BufferCall} {answer : BufferAnswer}

/-- An operation that does not follow a null pointer goes through, and answers as it does on the buffer. -/
theorem linkedCall_of_represents (represents : l.Represents b) (safe : ¬ ClearsNull l call) :
    ∃ l', linkedCall l call = some ((bufferCall b call).1, l') ∧ l'.Represents (bufferCall b call).2 := by
  cases call with
  | write allocator policy packet =>
    obtain ⟨l', writes, after⟩ := represents.write allocator policy packet
    exact ⟨l', by rw [linkedCall, writes]; rfl, after⟩
  | getNextPacket policy port =>
    obtain ⟨l', pops, after⟩ := represents.popPacketInternal policy port
    exact ⟨l', by rw [linkedCall, LinkedBuffer.getNextPacket, pops]; rfl, after⟩
  | getNextAvailablePacket policy =>
    obtain ⟨l', takes, after⟩ := represents.getNextAvailablePacket policy
    exact ⟨l', by rw [linkedCall, takes]; rfl, after⟩
  | clearQueueForPort port =>
    obtain ⟨l', clears, after⟩ := represents.clearQueueForPort fun null => safe ⟨port, rfl, null⟩
    exact ⟨l', by rw [linkedCall, clears]; rfl, after⟩
  | clear =>
    obtain ⟨l', clears, after⟩ := represents.clear
    exact ⟨l', by rw [linkedCall, clears]; rfl, after⟩
  | packetsAvailable => exact ⟨l, by rw [linkedCall, represents.packetsAvailable]; rfl, represents⟩
  | getActiveQueues => exact ⟨l, by rw [linkedCall, represents.getActiveQueues]; rfl, represents⟩
  | peektNextPacket port =>
    obtain ⟨l', peeks, after⟩ := represents.peektNextPacket port
    exact ⟨l', by rw [linkedCall, peeks]; rfl, after⟩
  | getSizeOfQueue port =>
    obtain ⟨size, after⟩ := represents.getSizeOfQueue port
    exact ⟨_, by rw [linkedCall, size]; rfl, after⟩
  | getQueue port =>
    obtain ⟨queue, after, -⟩ := represents.getQueue port
    have size : (l.getQueue (portKey port)).1.getSize = (b.getQueue port).getSize := queue.1
    refine ⟨(l.getQueue (portKey port)).2, ?_, after⟩
    rw [linkedCall]
    dsimp only
    rw [queue.elements_eq, size]
    rfl

theorem linkedCall_eq_none_iff (represents : l.Represents b) : linkedCall l call = none ↔ ClearsNull l call := by
  constructor
  · intro fails
    by_contra safe
    obtain ⟨l', goes, -⟩ := linkedCall_of_represents represents safe
    rw [fails] at goes
    contradiction
  · rintro ⟨port, rfl, null⟩
    rw [linkedCall, LinkedBuffer.clearQueueForPort, null]
    rfl

theorem bufferCall_of_linkedCall (represents : l.Represents b) (called : linkedCall l call = some (answer, l')) :
    ∃ b', some (bufferCall b call) = some (answer, b') ∧ l'.Represents b' := by
  have safe : ¬ ClearsNull l call := by
    rw [← linkedCall_eq_none_iff represents, called]
    simp
  obtain ⟨after, goes, represents'⟩ := linkedCall_of_represents represents safe
  obtain ⟨rfl, rfl⟩ := Prod.mk.inj (Option.some.inj (called.symm.trans goes))
  exact ⟨_, rfl, represents'⟩

end Calls

/-- In every run of operations the memory answers what the buffer answers, and stands for it afterwards. The next
operation goes through, unless it clears a queue through a null pointer. -/
theorem answers_of_linkedCalls {calls : List BufferCall} {l : LinkedBuffer} {answers : List BufferAnswer}
    (run : Run (answering linkedCall) Always ({}, []) calls (l, answers)) :
    (∃ b, Run (answering fun b call => some (bufferCall b call)) Always (.empty, []) calls (b, answers) ∧
      l.Represents b) ∧
    ∀ call, linkedCall l call = none ↔ ClearsNull l call := by
  obtain ⟨b, same, represents⟩ := run.answers_alike
    (fun _ _ _ _ _ represents called => bufferCall_of_linkedCall represents called) .empty LinkedBuffer.represents_empty
  exact ⟨⟨b, same, represents⟩, fun _ => linkedCall_eq_none_iff represents⟩

/-- A packet of port 5 is written, met in its queue and returned, and the buffer is cleared. -/
def writtenAndReturned : List BufferCall :=
  let policy : PolicyActor S3tpPacket := ⟨fun _ _ => -1, fun _ => true, fun _ _ => false⟩
  let packet : S3tpPacket :=
    { header := { crc := 0, seq := 0, pduLength := 1, seqPort := 0, port := 5 }, payload := [1] }
  [.write (Allocator.above _) policy packet, .getQueue 5, .getNextAvailablePacket policy, .clear]

theorem answers_of_linkedCalls_returned : ∃ (l : LinkedBuffer) (answers : List BufferAnswer), answers.length = 4 ∧
    ∃ b, Run (answering fun b call => some (bufferCall b call)) Always (.empty, []) writtenAndReturned (b, answers) ∧
      l.Represents b := by
  have computed : (writtenAndReturned.foldlM (answering linkedCall) ({}, [])).map (fun state => state.2.length) =
      some 4 := by
    decide +kernel
  obtain ⟨⟨l, answers⟩, reached, all⟩ := Option.map_eq_some_iff.mp computed
  exact ⟨l, answers, all, (answers_of_linkedCalls (Run.always_iff.mpr reached)).1⟩

end S3tp.Soundness
