import S3tp.Machine.Run
import S3tp.Model.Core.Framing

/-! # The daemon's client thread reading its socket

`Client::clientRoutine` as a machine that takes one step for each `read` that returns. A read takes at
least one byte and at most what was asked for, and waits when there is nothing to read. A read of no
bytes returns zero at once, which the routine takes for the end of the stream. Replies reach the
application, and the connection is not closed from elsewhere.
-/

namespace S3tp.Model.Core

/-- Where the routine is waiting. The payload read so far is what `message` holds up to `currentPosition`. -/
inductive ClientPlace where
  | type
  | length
  | payload (len : ℕ) (message : List UInt8)
  | closed
deriving DecidableEq

/-- The result of a `read`, and what the uninitialized length structure held before it. -/
structure SocketRead where
  count : ℕ
  memory : List UInt8 := []

structure ClientRoutine where
  /-- The bytes written to the socket and not yet read. -/
  socket : List UInt8
  place : ClientPlace := .type
  /-- The arguments `onApplicationMessage` has been called with. -/
  applicationMessages : List (List UInt8) := []
deriving DecidableEq

namespace ClientRoutine

/-- How many bytes the pending `read` asks for. -/
def requested (s : ClientRoutine) : ℕ :=
  match s.place with
  | .type => 1
  | .length => S3tpIntroRedundant.size
  | .payload len message => len - message.length
  | .closed => 0

/-- The `read` of that many bytes may return this count. -/
def Returns (s : ClientRoutine) (count : ℕ) : Prop :=
  if s.requested = 0 then count = 0 else 0 < count ∧ count ≤ s.requested ∧ count ≤ s.socket.length

instance (s : ClientRoutine) (count : ℕ) : Decidable (s.Returns count) := by
  unfold Returns
  infer_instance

/-- What the routine does with the bytes it gets. -/
def receive (s : ClientRoutine) (rd : SocketRead) : ClientRoutine :=
  let bytes := s.socket.take rd.count
  let socket := s.socket.drop rd.count
  match s.place with
  | .type => { s with socket, place := .length }
  | .length =>
    match readLengthSafe rd.count (.ofBytes (bytes ++ rd.memory.drop rd.count)) with
    | (error, some len) => { s with socket, place := if error < 0 then .closed else .payload len [] }
    | (_, none) => { s with socket, place := .closed }
  | .payload len message =>
    if rd.count = 0 then { s with place := .closed }
    else if message.length + rd.count < len then { s with socket, place := .payload len (message ++ bytes) }
    else { socket, place := .type, applicationMessages := s.applicationMessages ++ [message ++ bytes] }
  | .closed => s

def step (s : ClientRoutine) (rd : SocketRead) : Option ClientRoutine :=
  if s.place ≠ .closed ∧ s.Returns rd.count then some (s.receive rd) else none

/-- The application has written its messages. -/
def start (messages : List AppMessage) : ClientRoutine := { socket := messages.flatMap AppMessage.frame }

/-- There is nothing more for the routine to read. -/
def Finished (s : ClientRoutine) : Prop := ∀ rd : SocketRead, 0 < rd.count → s.step rd = none

/-- The messages have been passed on, in order, and the routine stands at the end of the last frame. -/
structure Recovered (messages : List AppMessage) (s : ClientRoutine) : Prop where
  passedOn : s.applicationMessages = messages.map AppMessage.data
  boundary : s.place = .type
  exhausted : s.socket = []

/-- A read of a length returns all of it. -/
def ReadsWholeLength (s : ClientRoutine) (rd : SocketRead) : Prop :=
  s.place = .length → rd.count = S3tpIntroRedundant.size

/-! ## Steps -/

theorem step_eq_some {s next : ClientRoutine} {rd : SocketRead} (stepped : s.step rd = some next) :
    s.place ≠ .closed ∧ s.Returns rd.count ∧ next = s.receive rd := by
  rw [step] at stepped
  split at stepped
  · next enabled => exact ⟨enabled.1, enabled.2, (Option.some.inj stepped).symm⟩
  · contradiction

/-- A read that returns bytes may return any number of them, up to what is asked for and there. -/
theorem step_isSome {s : ClientRoutine} (running : s.place ≠ .closed) {count : ℕ} (positive : 0 < count)
    (asked : count ≤ s.requested) (there : count ≤ s.socket.length) (memory : List UInt8) :
    (s.step ⟨count, memory⟩).isSome := by
  have returns : s.Returns count := by
    rw [Returns, if_neg (by omega)]
    exact ⟨positive, asked, there⟩
  rw [step, if_pos ⟨running, returns⟩]
  rfl

/-- A finished routine that asks for bytes has read the whole stream. -/
theorem exhausted_of_finished {s : ClientRoutine} (finished : s.Finished) (running : s.place ≠ .closed)
    (asks : 0 < s.requested) : s.socket = [] := by
  rcases s.socket.eq_nil_or_concat with none | ⟨before, last, split⟩
  · exact none
  · have there : 1 ≤ s.socket.length := by simp [split]
    have stuck := finished ⟨1, []⟩ one_pos
    simpa [stuck] using step_isSome running one_pos asks there []

end ClientRoutine

end S3tp.Model.Core
