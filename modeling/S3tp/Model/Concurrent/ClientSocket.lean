import Mathlib.Logic.Function.Basic
import S3tp.Machine.Run
import S3tp.Model.Core.Listener

/-! # The threads that write to one client's socket

A call of `Client::send` or `Client::sendControlMessage` is one `write` after the other, each of which
writes all its bytes. The assembly thread and the threads of the callbacks make their calls under
`clients_mutex`, the client's own thread does not. A write of no bytes returns zero, for which the client
closes the connection.

`sent` is a history: the messages in the order of their first writes.
-/

namespace S3tp.Model.Concurrent

open Core Machine

/-- Messages are passed on by the assembly thread, answers are sent by the client's thread, and
availability is announced by the callbacks of the link and of the transmitting module. -/
inductive SocketThread where
  | assembly
  | client
  | link
  | transmit
deriving DecidableEq

/-- The thread's calls are made under `clients_mutex`. -/
def SocketThread.locks : SocketThread → Bool
  | .client => false
  | .assembly | .link | .transmit => true

inductive SocketEvent where
  | call (thread : SocketThread) (message : DaemonMessage)
  | write (thread : SocketThread)

structure ClientSocket where
  /-- The bytes written so far. -/
  stream : List UInt8 := []
  /-- The writes left of the call the thread is in. -/
  pending : SocketThread → List (List UInt8) := fun _ => []
  clientsMutex : Option SocketThread := none
  closed : Bool := false
  sent : List DaemonMessage := []

namespace ClientSocket

/-- The thread is in a call. -/
def writing (s : ClientSocket) (thread : SocketThread) : Bool := !(s.pending thread).isEmpty

/-- The mutex after a call's write, when so many are left. -/
def mutexAfter (s : ClientSocket) (thread : SocketThread) (rest : List (List UInt8)) : Option SocketThread :=
  if thread.locks && rest.isEmpty then none else s.clientsMutex

/-- A call goes up to its first write, which is of the type. -/
def step (s : ClientSocket) : SocketEvent → Option ClientSocket
  | .call thread message =>
    if s.closed || s.writing thread || (thread.locks && s.clientsMutex.isSome) then none
    else
      match message.writes with
      | [] => none
      | first :: rest =>
        some { s with stream := s.stream ++ first, pending := Function.update s.pending thread rest,
                      clientsMutex := if thread.locks then some thread else s.clientsMutex,
                      sent := s.sent ++ [message] }
  | .write thread =>
    match s.pending thread with
    | [] => none
    | [] :: _ => if s.closed then none else some { s with closed := true }
    | bytes :: rest =>
      if s.closed then none
      else some { s with stream := s.stream ++ bytes, pending := Function.update s.pending thread rest,
                         clientsMutex := s.mutexAfter thread rest }

/-- The client has connected. -/
def start : ClientSocket := {}

/-- The stream consists of whole frames, and up to one that is being written, in the order in which the
messages were sent, and the listener hears what the whole frames say. -/
def Untorn (s : ClientSocket) : Prop :=
  ∃ (whole : List DaemonMessage) (part : List UInt8),
    s.stream = whole.flatMap DaemonMessage.frame ++ part ∧ listen s.stream = (whole.map DaemonMessage.heard, part) ∧
    ((s.sent = whole ∧ part = []) ∨
      ∃ thread message, s.sent = whole ++ [message] ∧ s.writing thread ∧
        part ++ (s.pending thread).flatten = message.frame)

/-- A call is made while no thread is in one, and passes on some data. -/
def Alone (s : ClientSocket) : SocketEvent → Prop
  | .call _ message => (∀ thread, s.writing thread = false) ∧ message.Nonempty
  | .write _ => True

end ClientSocket

end S3tp.Model.Concurrent
