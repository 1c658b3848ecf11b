import S3tp.Machine.Run
import S3tp.Model.Core.Connector

/-! # A connector and its daemon

One application thread calls `send`, the connector's listener thread reads control messages, and the
daemon's client thread reads and answers data messages, while its other threads announce availability.
The socket is a queue of whole messages in each direction.

Everything a thread does from taking `connector_mutex` until it waits or releases it is one event, as is
every read or write of the daemon. A thread in a wait can go on once it has been notified, or, as
`wakeUp` models, once it wakes up without a notification. Of an empty message only the type and the
length get written: `send` takes this for an error, the daemon for the end of the stream, and it closes
its side.

`returned` and `accepted` are histories: what the calls of `send` returned, and the messages for which
`onApplicationMessage` returned `CODE_SUCCESS`.
-/

namespace S3tp.Model.Concurrent

open Core Machine

/-- Where the thread in `send` is. In a wait it knows whether it has been notified. -/
inductive SendState where
  | idle
  | entering (data : List UInt8)
  | firstWait (data : List UInt8) (notified : Bool)
  | secondWait (data : List UInt8) (notified : Bool)
deriving DecidableEq

namespace SendState

/-- The message of the call that has not returned. -/
def inProgress : SendState → Option (List UInt8)
  | .idle => none
  | .entering data | .firstWait data _ | .secondWait data _ => some data

/-- `status_cond.notify_all()`. -/
def notifyAll : SendState → SendState
  | .firstWait data _ => .firstWait data true
  | .secondWait data _ => .secondWait data true
  | state => state

end SendState

inductive ConnectorEvent where
  | send (data : List UInt8)
  | write
  | wakeUp
  | resume
  | read
  | readEnd
  | process
  | closeConnection
  | take (result : ℤ)
  | answer
  | available

structure ConnectorSystem where
  connector : S3tpConnector := .init
  sender : SendState := .idle
  listener : Option S3tpControl := none
  toDaemon : List (List UInt8) := []
  toConnector : List S3tpControl := []
  serving : Bool := true
  answering : Option S3tpControl := none
  returned : List (List UInt8 × ℤ) := []
  accepted : List (List UInt8) := []
deriving DecidableEq

namespace ConnectorSystem

/-- The call of `send` returns. -/
def sendReturns (s : ConnectorSystem) (data : List UInt8) (result : ℤ) : ConnectorSystem :=
  { s with sender := .idle, returned := s.returned ++ [(data, result)] }

/-- One pass of the loop in `send`, up to the first wait. -/
def writeMessage (s : ConnectorSystem) (data : List UInt8) : ConnectorSystem :=
  if s.connector.connected && s.serving then
    let s := { s with toDaemon := s.toDaemon ++ [data] }
    if data.isEmpty then s.sendReturns data codeErrorSocketWrite
    else { s with sender := .firstWait data false }
  else s.sendReturns data codeErrorSocketWrite

def afterFirstWait (s : ConnectorSystem) (data : List UInt8) : ConnectorSystem :=
  if !s.connector.connected then s.sendReturns data codeErrorSocketNoConn
  else if s.connector.lastMessageAck && !s.connector.s3tpBufferFull then s.sendReturns data data.length
  else { s with sender := .secondWait data false }

/-- The loop goes on while the connector is connected. What it returns is the length written last. -/
def afterSecondWait (s : ConnectorSystem) (data : List UInt8) : ConnectorSystem :=
  if s.connector.connected then s.writeMessage data else s.sendReturns data data.length

def closeConnection (s : ConnectorSystem) : ConnectorSystem :=
  { s with connector := s.connector.closeConnection, sender := s.sender.notifyAll }

/-- `Client::sendControlMessage`. The daemon closes its side when the write fails. -/
def sendControlMessage (s : ConnectorSystem) (control : S3tpControl) : ConnectorSystem :=
  if s.connector.connected then { s with toConnector := s.toConnector ++ [control] }
  else { s with serving := false }

/-- What the daemon's client thread does with the next message, whose `onApplicationMessage` returns
the result. -/
def takeMessage (s : ConnectorSystem) (result : ℤ) : Option ConnectorSystem :=
  match s.toDaemon with
  | [] => if s.connector.connected then none else some { s with serving := false }
  | [] :: rest => some { s with serving := false, toDaemon := rest }
  | data :: rest => some { s with
      toDaemon := rest
      answering := some (.answerTo result)
      accepted := if result = codeSuccess then s.accepted ++ [data] else s.accepted }

def step (s : ConnectorSystem) : ConnectorEvent → Option ConnectorSystem
  | .send data => match s.sender with
    | .idle => if s.connector.connected then some { s with sender := .entering data }
        else some (s.sendReturns data codeErrorSocketNoConn)
    | _ => none
  | .write => match s.sender with
    | .entering data => some (s.writeMessage data)
    | _ => none
  | .wakeUp => some { s with sender := s.sender.notifyAll }
  | .resume => match s.sender with
    | .firstWait data true => some (s.afterFirstWait data)
    | .secondWait data true => some (s.afterSecondWait data)
    | _ => none
  | .read => match s.connector.connected, s.listener, s.toConnector with
    | true, none, control :: rest => some { s with listener := some control, toConnector := rest }
    | _, _, _ => none
  | .readEnd =>
      if s.connector.connected ∧ s.listener = none ∧ s.toConnector = [] ∧ s.serving = false then
        some s.closeConnection
      else none
  | .process => s.listener.map fun control =>
      { s with connector := s.connector.receiveControlMessage control, sender := s.sender.notifyAll,
               listener := none }
  | .closeConnection => some s.closeConnection
  | .take result => if s.serving && s.answering.isNone then s.takeMessage result else none
  | .answer => s.answering.map fun control => { s.sendControlMessage control with answering := none }
  | .available => if s.serving then some (s.sendControlMessage .availability) else none

/-- A connector after `init`, and a client thread that has accepted it. -/
def started : ConnectorSystem := {}

/-- The messages whose `send` returned their length. -/
def succeeded (s : ConnectorSystem) : List (List UInt8) :=
  s.returned.filterMap fun (data, result) => if result = data.length then some data else none

/-- The control messages the listener has not processed yet. -/
def incoming (s : ConnectorSystem) : List S3tpControl :=
  s.listener.toList ++ s.toConnector ++ s.answering.toList

/-- The answers among them. -/
def answers (s : ConnectorSystem) : List S3tpControl := s.incoming.filter S3tpControl.isAnswer

/-- The daemon accepts nothing of what it has not read: it no longer reads, or the next it reads is
the empty message. -/
def Stopped (s : ConnectorSystem) : Prop := s.serving = false ∨ s.toDaemon.head? = some []

theorem succeeded_sendReturns (s : ConnectorSystem) (data : List UInt8) (result : ℤ) :
    (s.sendReturns data result).succeeded =
      s.succeeded ++ if result = data.length then [data] else [] := by
  rw [succeeded, sendReturns, List.filterMap_append]
  congr 1
  simp only [List.filterMap_cons, List.filterMap_nil]
  split <;> simp_all

@[simp] theorem succeeded_sendReturns_length (s : ConnectorSystem) (data : List UInt8) :
    (s.sendReturns data data.length).succeeded = s.succeeded ++ [data] := by
  rw [succeeded_sendReturns, if_pos rfl]

end ConnectorSystem

end S3tp.Model.Concurrent
