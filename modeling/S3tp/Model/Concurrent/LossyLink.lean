import S3tp.Model.Concurrent.RxSystem
import S3tp.Model.Concurrent.TxSystem
import S3tp.Model.Core.FrameReads
import S3tp.ToMathlib.CutAfter

/-! # A link that is not to be trusted

Frames are handed to the receiver as bytes, at any time, in any order, any number of times or never: each arrival names
the frame it stems from by its place among the frames sent. The payload may have been altered on the way. The receiver
has a copy of the frame in memory, and does not know what lies behind it.

`delivered` is a history: what the calls of `getNextCompleteMessage` returned.
-/

namespace S3tp.Model.Concurrent

open Core Machine

inductive LossyEvent (ι : Type*) where
  | sender (event : TxEvent ι)
  | arrive (index : ℕ) (payload : List UInt8) (channel : UInt8) (behind : ℕ → UInt8)
  | openPort (port : UInt8)
  | closePort (port : UInt8)
  | consume

structure LossyLink (ι : Type*) where
  sender : TxSystem ι
  rx : RxModule := RxSystem.started.rx
  delivered : List Delivery := []

namespace LossyLink

variable {ι : Type*}

/-- Both modules freshly reset and started. -/
def started (fresh : S3tpHeader) : LossyLink ι := { sender := .started fresh }

/-- The bytes that arrive: the header of a frame that was sent, with a payload. -/
def arriving (sent : S3tpPacket) (payload : List UInt8) : List UInt8 := sent.header.toBytes ++ payload

def step [DecidableEq ι] (s : LossyLink ι) : LossyEvent ι → Option (LossyLink ι)
  | .sender event => (s.sender.step event).map fun sender => { s with sender }
  | .arrive index payload channel behind =>
    if s.rx.rxMutexHeld then none
    else s.sender.link[index]?.map fun sent =>
      let frame := arriving sent payload
      { s with rx := ((PacketReads.handleFrame s.rx channel frame).run (copied frame behind)).2.2 }
  | .openPort port => if s.rx.rxMutexHeld then none else some { s with rx := (s.rx.openPort port).2 }
  | .closePort port => if s.rx.rxMutexHeld then none else some { s with rx := (s.rx.closePort port).2 }
  | .consume =>
    if s.rx.rxMutexHeld then none
    else s.rx.getNextCompleteMessage.map fun (delivery, rx) =>
      { s with rx, delivered := s.delivered ++ [delivery] }

/-- The messages returned for the port, oldest first. -/
def returnedOn (s : LossyLink ι) (port : UInt8) : List Delivery :=
  s.delivered.filter fun delivery => delivery.error = codeSuccess ∧ delivery.port = port

/-- The packet says that no more of its message follow. -/
def isLast (packet : S3tpPacket) : Bool := packet.header.moreFragments == 0

/-- The messages stamped for the port, each packet by packet. -/
def messagesOn (s : LossyLink ι) (port : UInt8) : List (List S3tpPacket) :=
  (s.sender.enqueuedOn port).cutAfter isLast

/-! ## What a step can do -/

variable [DecidableEq ι] {s t : LossyLink ι}

theorem of_sender {event : TxEvent ι} (stepped : s.step (.sender event) = some t) :
    ∃ sender, s.sender.step event = some sender ∧ t = { s with sender } := by
  obtain ⟨sender, steps, rfl⟩ := Option.map_eq_some_iff.mp stepped
  exact ⟨sender, steps, rfl⟩

theorem of_arrive {index : ℕ} {payload : List UInt8} {channel : UInt8} {behind : ℕ → UInt8}
    (stepped : s.step (.arrive index payload channel behind) = some t) : s.rx.rxMutexHeld = false ∧
      ∃ sent, s.sender.link[index]? = some sent ∧ t = { s with
        rx := ((PacketReads.handleFrame s.rx channel (arriving sent payload)).run
          (copied (arriving sent payload) behind)).2.2 } := by
  simp only [step] at stepped
  split at stepped
  · contradiction
  next free =>
  obtain ⟨sent, found, rfl⟩ := Option.map_eq_some_iff.mp stepped
  exact ⟨by simpa using free, sent, found, rfl⟩

theorem of_openPort {port : UInt8} (stepped : s.step (.openPort port) = some t) :
    s.rx.rxMutexHeld = false ∧ t = { s with rx := (s.rx.openPort port).2 } := by
  simp only [step] at stepped
  split at stepped
  · contradiction
  next free =>
  exact ⟨by simpa using free, (Option.some.inj stepped).symm⟩

theorem of_closePort {port : UInt8} (stepped : s.step (.closePort port) = some t) :
    s.rx.rxMutexHeld = false ∧ t = { s with rx := (s.rx.closePort port).2 } := by
  simp only [step] at stepped
  split at stepped
  · contradiction
  next free =>
  exact ⟨by simpa using free, (Option.some.inj stepped).symm⟩

theorem of_consume (stepped : s.step .consume = some t) : s.rx.rxMutexHeld = false ∧
    ∃ delivery rx, s.rx.getNextCompleteMessage = some (delivery, rx) ∧
      t = { s with rx, delivered := s.delivered ++ [delivery] } := by
  simp only [step] at stepped
  split at stepped
  · contradiction
  next free =>
  obtain ⟨⟨delivery, rx⟩, consumes, rfl⟩ := Option.map_eq_some_iff.mp stepped
  exact ⟨by simpa using free, delivery, rx, consumes, rfl⟩

end LossyLink

end S3tp.Model.Concurrent
