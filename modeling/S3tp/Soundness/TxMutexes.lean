import S3tp.Machine.Locks
import S3tp.Model.Concurrent.TxThreads

/-! # Who is inside the mutexes of the transmitting module

From where they are in their code it is told which threads are inside `tx_mutex` and which inside `buffer_mutex`.
In every run a thread inside a mutex is the one that holds it, so there is one at most.
-/

namespace S3tp.Model.Concurrent

open Core Machine

/-- Inside `tx_mutex`. -/
@[simp] def TxPlace.Inside : TxPlace → Prop
  | .turning | .testing _ | .waiting | .fetchLocking | .fetching | .fetchUnlocking _ | .releasing _ => True
  | .locking | .blocked | .woken | .sending _ | .finished => False

/-- Inside `buffer_mutex`. -/
@[simp] def TxPlace.InsideBuffer : TxPlace → Prop
  | .testing .read | .testing (.unlock _) | .fetching | .fetchUnlocking _ => True
  | _ => False

@[simp] def CallerPlace.Inside : CallerPlace → Prop
  | .stamping .. | .refusing | .unlocking _ => True
  | _ => False

@[simp] def CallerPlace.InsideBuffer : CallerPlace → Prop
  | .writing _ | .bufferUnlocking => True
  | _ => False

namespace TxThreads

variable {ι : Type*} {s t : TxThreads ι}

/-- The thread is inside `tx_mutex`. -/
def Inside (s : TxThreads ι) : TxThread ι → Prop
  | .tx => s.place.Inside
  | .caller c => (s.caller c).Inside

/-- The thread is inside `buffer_mutex`. -/
def InsideBuffer (s : TxThreads ι) : TxThread ι → Prop
  | .tx => s.place.InsideBuffer
  | .caller c => (s.caller c).InsideBuffer

/-- Each mutex is held by the thread that is inside it. -/
structure Owned (s : TxThreads ι) : Prop where
  tx : Guarded s.Inside s.txMutex
  buffer : Guarded s.InsideBuffer s.bufferMutex

theorem owned_started (fresh : S3tpHeader) : (started (ι := ι) fresh).Owned where
  tx thread inside := by cases thread <;> exact inside.elim
  buffer thread inside := by cases thread <;> exact inside.elim

/-- The transmit thread goes on. -/
theorem Owned.tx_passes (owned : s.Owned) (callers : t.caller = s.caller)
    (tx : Passes s.place.Inside t.place.Inside s.txMutex t.txMutex .tx)
    (buffer : Passes s.place.InsideBuffer t.place.InsideBuffer s.bufferMutex t.bufferMutex .tx) : t.Owned := by
  refine ⟨owned.tx.passes (t := .tx) tx ?_, owned.buffer.passes (t := .tx) buffer ?_⟩
  · rintro (_ | c) other inside
    · exact absurd rfl other
    · exact (congrArg (fun caller => (caller c).Inside) callers).mp inside
  · rintro (_ | c) other inside
    · exact absurd rfl other
    · exact (congrArg (fun caller => (caller c).InsideBuffer) callers).mp inside

theorem Owned.txStep {link : LinkStatus} (owned : s.Owned) (stepped : s.txStep link = some t) : t.Owned := by
  cases of_txStep stepped with
  | locks here free => exact owned.tx_passes rfl (.inr (.inl ⟨free, rfl⟩)) (.inl ⟨rfl, False.elim⟩)
  | ends here | sleeps here | releases here =>
    exact owned.tx_passes rfl (.inr (.inr ⟨rfl, by simp [here], id⟩)) (.inl ⟨rfl, False.elim⟩)
  | givesUp here | turns here => exact owned.tx_passes rfl (.inl ⟨rfl, by simp [here]⟩) (.inl ⟨rfl, False.elim⟩)
  | locksToTest here free | locksToFetch here free =>
    exact owned.tx_passes rfl (.inl ⟨rfl, by simp [here]⟩) (.inr (.inl ⟨free, rfl⟩))
  | reads here | fetchesNothing here | fetches here =>
    exact owned.tx_passes rfl (.inl ⟨rfl, by simp [here]⟩) (.inl ⟨rfl, by simp [here]⟩)
  | runs here | waits here | blocks here | stamps here =>
    exact owned.tx_passes rfl (.inl ⟨rfl, by simp [here]⟩) (.inr (.inr ⟨rfl, by simp [here], id⟩))
  | sends here => exact owned.tx_passes rfl (.inl ⟨rfl, False.elim⟩) (.inl ⟨rfl, False.elim⟩)

/-- A signal wakes nobody into a mutex. -/
theorem inside_signal (s : TxThreads ι) : (s.signal.place.Inside ↔ s.place.Inside) ∧
    (s.signal.place.InsideBuffer ↔ s.place.InsideBuffer) := by
  cases here : s.place <;> simp [signal, here]

section Callers

variable [DecidableEq ι] {mid : TxThreads ι} {c : ι} {place : CallerPlace}

/-- A caller goes on. -/
theorem Owned.caller_passes (owned : s.Owned) (callers : mid.caller = s.caller)
    (inside : mid.place.Inside → s.place.Inside) (insideBuffer : mid.place.InsideBuffer → s.place.InsideBuffer)
    (tx : Passes (s.caller c).Inside place.Inside s.txMutex mid.txMutex (.caller c))
    (buffer : Passes (s.caller c).InsideBuffer place.InsideBuffer s.bufferMutex mid.bufferMutex (.caller c)) :
    (mid.callerAt c place).Owned := by
  have moved : (mid.callerAt c place).caller c = place := Function.update_self ..
  have others (d : ι) (other : TxThread.caller d ≠ .caller c) : (mid.callerAt c place).caller d = s.caller d := by
    have different : d ≠ c := fun same => other (congrArg TxThread.caller same)
    simp [callerAt, Function.update_of_ne different, callers]
  constructor
  · refine owned.tx.passes (t := .caller c) (by simp only [Inside, moved]; exact tx) ?_
    rintro (_ | d) other within
    · exact inside within
    · simpa only [Inside, others d other] using within
  · refine owned.buffer.passes (t := .caller c) (by simp only [InsideBuffer, moved]; exact buffer) ?_
    rintro (_ | d) other within
    · exact insideBuffer within
    · simpa only [InsideBuffer, others d other] using within

theorem Owned.callerStep (owned : s.Owned) (stepped : s.callerStep c = some t) : t.Owned := by
  cases of_callerStep stepped with
  | locks here free => exact owned.caller_passes rfl id id (.inr (.inl ⟨free, rfl⟩)) (.inl ⟨rfl, False.elim⟩)
  | isRefused here | stamps here =>
    exact owned.caller_passes rfl id id (.inl ⟨rfl, by simp [here]⟩) (.inl ⟨rfl, False.elim⟩)
  | leaves here | unlocks here =>
    exact owned.caller_passes rfl id id (.inr (.inr ⟨rfl, by simp [here], id⟩)) (.inl ⟨rfl, False.elim⟩)
  | locksBuffer here free => exact owned.caller_passes rfl id id (.inl ⟨rfl, False.elim⟩) (.inr (.inl ⟨free, rfl⟩))
  | writes here => exact owned.caller_passes rfl id id (.inl ⟨rfl, False.elim⟩) (.inl ⟨rfl, by simp [here]⟩)
  | unlocksBuffer here =>
    exact owned.caller_passes rfl id id (.inl ⟨rfl, False.elim⟩) (.inr (.inr ⟨rfl, by simp [here], id⟩))
  | signals here =>
    obtain ⟨inside, insideBuffer⟩ := inside_signal s
    exact owned.caller_passes rfl inside.mp insideBuffer.mp (.inl ⟨rfl, False.elim⟩) (.inl ⟨rfl, False.elim⟩)

end Callers

/-- Nobody but a woken transmit thread has moved. -/
theorem Owned.of_signal (owned : s.Owned) (callers : t.caller = s.caller) (place : t.place = s.signal.place)
    (txMutex : t.txMutex = s.txMutex) (bufferMutex : t.bufferMutex = s.bufferMutex) : t.Owned := by
  obtain ⟨inside, insideBuffer⟩ := inside_signal s
  exact owned.tx_passes callers (.inl ⟨txMutex, by rw [place]; exact inside.mp⟩)
    (.inl ⟨bufferMutex, by rw [place]; exact insideBuffer.mp⟩)

/-- The mutexes keep everybody out but those who hold them. -/
theorem Owned.step [DecidableEq ι] {event : TxThreadsEvent ι} (owned : s.Owned) (stepped : s.step event = some t) :
    t.Owned := by
  cases of_step stepped with
  | tx => exact owned.txStep stepped
  | caller => exact owned.callerStep stepped
  | enqueuePacket here => exact owned.caller_passes rfl id id (.inl ⟨rfl, False.elim⟩) (.inl ⟨rfl, False.elim⟩)
  | wake here => exact owned.tx_passes rfl (.inl ⟨rfl, False.elim⟩) (.inl ⟨rfl, False.elim⟩)
  | closes => exact owned.tx_passes rfl (.inl ⟨rfl, id⟩) (.inl ⟨rfl, id⟩)
  | opens | scheduleSync | notifyLinkAvailability | stopRoutine => exact owned.of_signal rfl rfl rfl rfl

end TxThreads

end S3tp.Model.Concurrent
