import S3tp.Model.Core.LinkedRx
import S3tp.Soundness.OneByte

/-! # The receiving module in memory is the receiving module

Whatever is called on a receiving module, one call after another and wherever the allocator puts the nodes: the module
whose buffer is in memory returns what the module returns whose buffer is a value. All that is proved of the one holds
of the other.

No call follows a pointer to a deleted node, and none a null pointer but one: to consume a message of a port whose
queue ends before the message does. A call that has failed to consume keeps the mutex, and the next one waits for it.
-/

namespace S3tp.Soundness

open Model.Core Machine

inductive RxCall where
  | reset
  | startModule
  | stopModule
  | openPort (port : UInt8)
  | closePort (port : UInt8)
  | handleReceivedPacket (allocator : Allocator (LinkedNode S3tpPacket)) (packet : S3tpPacket)
  | getNextCompleteMessage

inductive RxAnswer where
  | done
  | code (result : ℤ)
  | received (result : ℤ) (syncId : Option UInt8)
  | message (delivery : Delivery)

/-- Every call takes the mutex. -/
def linkedRxCall (l : LinkedRx) (call : RxCall) : Option (RxAnswer × LinkedRx) :=
  if l.fields.rxMutexHeld then none
  else match call with
  | .reset => l.reset.map fun l => (.done, l)
  | .startModule => some (.done, l.startModule)
  | .stopModule => some (.done, l.stopModule)
  | .openPort port => some (.code (l.openPort port).1, (l.openPort port).2)
  | .closePort port => some (.code (l.closePort port).1, (l.closePort port).2)
  | .handleReceivedPacket allocator packet =>
    (l.handleReceivedPacket allocator packet).map fun ((result, syncId), l) => (.received result syncId, l)
  | .getNextCompleteMessage => l.getNextCompleteMessage.map fun (delivery, l) => (.message delivery, l)

/-- The same calls on the module with a buffer as a value. -/
def rxCall (rx : RxModule) (call : RxCall) : Option (RxAnswer × RxModule) :=
  if rx.rxMutexHeld then none
  else match call with
  | .reset => some (.done, rx.reset)
  | .startModule => some (.done, rx.startModule)
  | .stopModule => some (.done, rx.stopModule)
  | .openPort port => some (.code (rx.openPort port).1, (rx.openPort port).2)
  | .closePort port => some (.code (rx.closePort port).1, (rx.closePort port).2)
  | .handleReceivedPacket _ packet =>
    let (result, syncId, rx) := rx.handleReceivedPacket packet
    some (.received result syncId, rx)
  | .getNextCompleteMessage => rx.getNextCompleteMessage.map fun (delivery, rx) => (.message delivery, rx)

section Calls

variable {l l' : LinkedRx} {rx : RxModule} {call : RxCall} {answer : RxAnswer}

/-- In memory a call returns what it returns in the module, or both have no result. -/
theorem linkedRxCall_alike (represents : l.Represents rx) (call : RxCall) :
    LinkedRx.Alike (linkedRxCall l call) (rxCall rx call) := by
  have held : l.fields.rxMutexHeld = rx.rxMutexHeld := by
    obtain ⟨b, -, rfl⟩ := represents
    rfl
  unfold linkedRxCall rxCall
  rw [held]
  split
  · exact .none
  cases call with
  | reset =>
    obtain ⟨l', resets, after⟩ := LinkedRx.reset_represents represents
    dsimp only
    rw [resets]
    exact .some ⟨rfl, after⟩
  | startModule =>
    obtain ⟨b, buffer, rfl⟩ := represents
    exact .some ⟨rfl, b, buffer, rfl⟩
  | stopModule =>
    obtain ⟨b, buffer, rfl⟩ := represents
    exact .some ⟨rfl, b, buffer, rfl⟩
  | openPort port =>
    obtain ⟨same, after⟩ := LinkedRx.openPort_represents represents port
    exact .some ⟨congrArg RxAnswer.code same, after⟩
  | closePort port =>
    obtain ⟨same, after⟩ := LinkedRx.closePort_represents represents port
    exact .some ⟨congrArg RxAnswer.code same, after⟩
  | handleReceivedPacket allocator packet =>
    obtain ⟨l', receives, after⟩ := LinkedRx.handleReceivedPacket_represents represents allocator packet
    dsimp only
    rw [receives]
    exact .some ⟨rfl, after⟩
  | getNextCompleteMessage =>
    have consumed := LinkedRx.getNextCompleteMessage_alike represents
    dsimp only
    generalize l.getNextCompleteMessage = result at consumed ⊢
    generalize rx.getNextCompleteMessage = result' at consumed ⊢
    cases consumed with
    | none => exact .none
    | some both => exact .some ⟨congrArg RxAnswer.message both.1, both.2⟩

theorem rxCall_of_linkedRxCall (represents : l.Represents rx) (called : linkedRxCall l call = some (answer, l')) :
    ∃ rx', rxCall rx call = some (answer, rx') ∧ l'.Represents rx' := by
  have alike := linkedRxCall_alike represents call
  rw [called] at alike
  generalize rxCall rx call = result at alike ⊢
  cases alike with
  | @some _ result both =>
    obtain ⟨answer', rx'⟩ := result
    obtain ⟨rfl, after⟩ := both
    exact ⟨rx', rfl, after⟩

theorem linkedRxCall_eq_none_iff (represents : l.Represents rx) (call : RxCall) :
    linkedRxCall l call = none ↔
      rx.rxMutexHeld = true ∨ (call = .getNextCompleteMessage ∧ rx.getNextCompleteMessage = none) := by
  have both : linkedRxCall l call = none ↔ rxCall rx call = none := by
    have alike := linkedRxCall_alike represents call
    generalize linkedRxCall l call = result at alike ⊢
    generalize rxCall rx call = result' at alike ⊢
    cases alike <;> simp
  rw [both]
  unfold rxCall
  split
  · next held => simp [held]
  · next free => cases call <;> simp [free]

end Calls

/-- In every run of calls the module in memory returns what the module returns, and stands for it afterwards. The next
call goes through, unless the mutex is held or a message is to be consumed that the queue does not hold. -/
theorem answers_of_linkedRx {calls : List RxCall} {l : LinkedRx} {answers : List RxAnswer}
    (run : Run (answering linkedRxCall) Always ({}, []) calls (l, answers)) :
    ∃ rx : RxModule, Run (answering rxCall) Always ({}, []) calls (rx, answers) ∧ l.Represents rx ∧
      ∀ call, linkedRxCall l call = none ↔
        rx.rxMutexHeld = true ∨ (call = .getNextCompleteMessage ∧ rx.getNextCompleteMessage = none) := by
  obtain ⟨rx, same, represents⟩ := run.answers_alike
    (fun _ _ _ _ _ represents called => rxCall_of_linkedRxCall represents called) {} LinkedRx.represents_empty
  exact ⟨rx, same, represents, linkedRxCall_eq_none_iff represents⟩

/-- The module is started, opens port 5 and receives a message of one packet for it. -/
theorem answers_of_linkedRx_received : ∃ (l : LinkedRx) (answers : List RxAnswer), answers.length = 3 ∧
    ∃ rx : RxModule, Run (answering rxCall) Always ({}, []) [.startModule, .openPort 5,
      .handleReceivedPacket (Allocator.above _) (fragmentOf 0 0 0 false)] (rx, answers) ∧ l.Represents rx := by
  have listening : ((LinkedRx.startModule {}).openPort 5).2.Represents ((({} : RxModule).startModule).openPort 5).2 :=
    ⟨.empty, LinkedBuffer.represents_empty, rfl⟩
  obtain ⟨l, receives, -⟩ := LinkedRx.handleReceivedPacket_represents listening (Allocator.above _)
    (fragmentOf 0 0 0 false)
  have called := congrArg (Option.map fun ((result, syncId), l) => (RxAnswer.received result syncId, l)) receives
  have run : Run (answering linkedRxCall) Always ({}, []) [.startModule, .openPort 5,
      .handleReceivedPacket (Allocator.above _) (fragmentOf 0 0 0 false)] (l, _) :=
    .cons trivial rfl (.cons trivial rfl (.cons trivial (congrArg (Option.map _) called) (.nil _)))
  obtain ⟨rx, same, represents, -⟩ := answers_of_linkedRx run
  exact ⟨l, _, rfl, rx, same, represents⟩

end S3tp.Soundness
