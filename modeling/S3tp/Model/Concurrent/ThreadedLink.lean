import S3tp.Model.Concurrent.LossyLink
import S3tp.Model.Concurrent.RxThreads
import S3tp.Model.Concurrent.TxThreads

/-! # Threads at both ends of a link

The callers and the transmit thread at one module, the link thread and the assembly thread at the other, each step at a
mutex a step of its own. The frames handed to `sendFrame` arrive at any time, in any order, any number of times or
never, and what arrives may have another payload. The link thread is handed the copy that `handleFrame` makes.
-/

namespace S3tp.Model.Concurrent

open Core Machine

inductive ThreadedLinkEvent (ι : Type*) where
  | sender (event : TxThreadsEvent ι)
  | receiver (event : RxThreadsEvent)
  | arrive (index : ℕ) (payload : List UInt8) (channel : UInt8)

structure ThreadedLink (ι : Type*) where
  sender : TxThreads ι
  receiver : RxThreads := RxThreads.started

namespace ThreadedLink

variable {ι : Type*}

/-- Both modules freshly reset, and their threads started. -/
def started (fresh : S3tpHeader) : ThreadedLink ι := { sender := .started fresh }

/-- What the event is for the sender. -/
@[simp] def onSender : ThreadedLinkEvent ι → Option (TxThreadsEvent ι)
  | .sender event => some event
  | _ => none

/-- What it is for the receiver. Frames come from the link only. -/
@[simp] def onReceiver (s : ThreadedLink ι) : ThreadedLinkEvent ι → Option RxThreadsEvent
  | .sender _ | .receiver (.call _) => none
  | .receiver event => some event
  | .arrive index payload channel =>
    s.sender.link[index]?.map fun sent => .call (S3tpPacket.ofFrame (LossyLink.arriving sent payload) channel)

def step [DecidableEq ι] (s : ThreadedLink ι) (event : ThreadedLinkEvent ι) : Option (ThreadedLink ι) :=
  match onSender event, s.onReceiver event with
  | some own, _ => (s.sender.step own).map fun sender => { s with sender }
  | none, some own => (s.receiver.step own).map fun receiver => { s with receiver }
  | none, none => none

/-- A step is one of the sender's threads or of the receiver's. -/
theorem cases_of_step [DecidableEq ι] {s t : ThreadedLink ι} {event : ThreadedLinkEvent ι}
    (stepped : s.step event = some t) :
    (∃ own sender, event = .sender own ∧ s.sender.step own = some sender ∧ t = { s with sender }) ∨
      ∃ own receiver, onSender event = none ∧ s.onReceiver event = some own ∧
        s.receiver.step own = some receiver ∧ t = { s with receiver } := by
  cases event with
  | sender own =>
    obtain ⟨sender, steps, rfl⟩ := Option.map_eq_some_iff.mp stepped
    exact .inl ⟨own, sender, rfl, steps, rfl⟩
  | receiver event | arrive =>
    right
    simp only [step, onSender] at stepped
    split at stepped
    · contradiction
    · next own _ here =>
      obtain ⟨receiver, steps, rfl⟩ := Option.map_eq_some_iff.mp stepped
      exact ⟨own, receiver, rfl, here, steps, rfl⟩
    · contradiction

end ThreadedLink

end S3tp.Model.Concurrent
