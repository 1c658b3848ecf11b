import S3tp.Machine.Run
import S3tp.Model.Core.Window
import S3tp.Model.Core.Message

/-! # Use of the receiving module

Ports are opened and closed, frames arrive, and complete messages are consumed, one operation after
the other. `received` and `delivered` are histories: the frames handed to `handleReceivedPacket`, and
what the calls of `getNextCompleteMessage` returned. There is no step once a call has followed a null
pointer, or has returned without releasing the module's mutex, on which every operation waits.
-/

namespace S3tp.Model.Concurrent

open Core Machine

inductive RxEvent where
  | openPort (port : UInt8)
  | closePort (port : UInt8)
  | receive (packet : S3tpPacket)
  | consume

structure RxSystem where
  rx : RxModule
  received : List S3tpPacket := []
  delivered : List Delivery := []

namespace RxSystem

/-- A module freshly reset and started. -/
def started : RxSystem := { rx := ({} : RxModule).reset.startModule }

def step (s : RxSystem) (event : RxEvent) : Option RxSystem :=
  if s.rx.rxMutexHeld then none
  else match event with
  | .openPort port => some { s with rx := (s.rx.openPort port).2 }
  | .closePort port => some { s with rx := (s.rx.closePort port).2 }
  | .receive packet =>
      some { s with rx := (s.rx.handleReceivedPacket packet).2.2, received := s.received ++ [packet] }
  | .consume => s.rx.getNextCompleteMessage.map fun (delivery, rx) =>
      { s with rx, delivered := s.delivered ++ [delivery] }

theorem step_receive {s : RxSystem} (free : s.rx.rxMutexHeld = false) {packet : S3tpPacket}
    (accepted : s.rx.accepts packet = true) : s.step (.receive packet) =
      some { s with rx := s.rx.receiveData packet, received := s.received ++ [packet] } := by
  simp [step, free, RxModule.handleReceivedPacket_of_accepts accepted]

/-! ## What a step can do -/

theorem not_held_of_step {s t : RxSystem} {event : RxEvent} (stepped : s.step event = some t) :
    s.rx.rxMutexHeld = false := by
  cases held : s.rx.rxMutexHeld with
  | false => rfl
  | true => simp [step, held] at stepped

theorem of_openPort {s t : RxSystem} {port : UInt8} (stepped : s.step (.openPort port) = some t) :
    t = { s with rx := (s.rx.openPort port).2 } := by
  have free := not_held_of_step stepped
  rw [step, if_neg (by simp [free])] at stepped
  exact (Option.some.inj stepped).symm

theorem of_closePort {s t : RxSystem} {port : UInt8} (stepped : s.step (.closePort port) = some t) :
    t = { s with rx := (s.rx.closePort port).2 } := by
  have free := not_held_of_step stepped
  rw [step, if_neg (by simp [free])] at stepped
  exact (Option.some.inj stepped).symm

theorem openPorts_of_openPort {s t : RxSystem} {port : UInt8} (stepped : s.step (.openPort port) = some t) :
    ∃ openPorts, t = { s with rx := { s.rx with openPorts } } :=
  ⟨_, (of_openPort stepped).trans (by rw [RxModule.openPort_frame])⟩

theorem openPorts_of_closePort {s t : RxSystem} {port : UInt8} (stepped : s.step (.closePort port) = some t) :
    ∃ openPorts, t = { s with rx := { s.rx with openPorts } } :=
  ⟨_, (of_closePort stepped).trans (by rw [RxModule.closePort_frame])⟩

theorem of_receive {s t : RxSystem} {packet : S3tpPacket} (stepped : s.step (.receive packet) = some t) :
    ∃ rx, rx = (s.rx.handleReceivedPacket packet).2.2 ∧ t = { s with rx, received := s.received ++ [packet] } := by
  have free := not_held_of_step stepped
  rw [step, if_neg (by simp [free])] at stepped
  exact ⟨_, rfl, (Option.some.inj stepped).symm⟩

theorem exists_step_receive {s : RxSystem} (free : s.rx.rxMutexHeld = false) (packet : S3tpPacket) :
    ∃ rx, s.step (.receive packet) = some { s with rx, received := s.received ++ [packet] } := by
  rw [step, if_neg (by simp [free])]
  exact ⟨_, rfl⟩

theorem of_receive_data {s t : RxSystem} {packet : S3tpPacket} (accepted : s.rx.accepts packet = true)
    (stepped : s.step (.receive packet) = some t) :
    ∃ rx, rx = s.rx.receiveData packet ∧ t = { s with rx, received := s.received ++ [packet] } := by
  rw [step_receive (not_held_of_step stepped) accepted] at stepped
  exact ⟨_, rfl, (Option.some.inj stepped).symm⟩

theorem of_consume {s t : RxSystem} (stepped : s.step .consume = some t) : ∃ delivery rx,
    s.rx.getNextCompleteMessage = some (delivery, rx) ∧
      t = { s with rx, delivered := s.delivered ++ [delivery] } := by
  have free := not_held_of_step stepped
  rw [step, if_neg (by simp [free])] at stepped
  obtain ⟨⟨delivery, rx⟩, consumes, rfl⟩ := Option.map_eq_some_iff.mp stepped
  exact ⟨delivery, rx, consumes, rfl⟩

end RxSystem

end S3tp.Model.Concurrent
