import S3tp.Model.Concurrent.ConnectorSystem
import S3tp.Model.Core.Framing

/-! # The threads at the application's connector

One thread calls `send`, and the connector's listener thread reads what arrives on the socket. What a thread does
from taking `connector_mutex` until it waits or releases it is one event. The listener tests whether the connector
is connected, reads, and does what it has read to do under the mutex, each at a time of its own. Anything may arrive:
control messages in any order, data messages, the end of the stream or an error in the middle of a message.

Shutting the socket down ends what has arrived and is not read, and lets no write succeed. Whether a write succeeds
otherwise is not known. The application may call `closeConnection`, and a thread in a wait may wake up without a
notification.

`heard` is a history: the control messages processed since the message in progress was last written.
-/

namespace S3tp.Model.Concurrent

open Core Machine

/-- What a `read` returns: zero, a negative number, or what was asked for. -/
inductive ReadResult (α : Type) where
  | ended
  | failed
  | got (value : α)

/-- What the reads in one pass of the listener's loop return: that of the message type alone, or those of the message
it announces as well. Of a data message these are the lengths and the payload. -/
inductive ListenerReads where
  | ended
  | failed
  | control (message : ReadResult S3tpControl)
  | data (rd : ℤ) (len : S3tpIntroRedundant) (payload : ReadResult (List UInt8))
  | reserved

/-- Where the listener is: at the test of its loop, at its first read, about to take the mutex with a control
message, in `closeConnection`, or to note the end of the stream, or at its end. -/
inductive ListenerPlace where
  | testing
  | reading
  | handling (control : S3tpControl)
  | closing
  | disconnecting
  | stopped

/-- Where the reads lead. A payload of no bytes reads as the end of the stream. -/
def ListenerReads.next : ListenerReads → ListenerPlace
  | .ended | .failed => .closing
  | .control .ended => .disconnecting
  | .control .failed => .closing
  | .control (.got message) => .handling message
  | .data rd len payload =>
    let (err, length) := readLengthSafe rd len
    if err = codeErrorLengthCorrupt then .closing
    else if err = codeErrorSocketNoConn then .disconnecting
    else if err < 0 then .closing
    else if length.getD 0 = 0 then .disconnecting
    else match payload with
      | .ended => .disconnecting
      | .failed => .closing
      | .got _ => .testing
  | .reserved => .testing

/-- The control message among what is read. -/
def ListenerReads.control? : ListenerReads → Option S3tpControl
  | .control (.got message) => some message
  | _ => none

inductive ConnectorThreadsEvent where
  | send (data : List UInt8)
  | write (succeeds : Bool)
  | resume (succeeds : Bool)
  | wakeUp
  | listener
  | arrive (reads : ListenerReads)
  | closeConnection

structure ConnectorThreads where
  connector : S3tpConnector := .init
  socketOpen : Bool := true
  sender : SendState := .idle
  listener : ListenerPlace := .testing
  inbound : List ListenerReads := []
  heard : List AppControlMessageType := []
  returned : List (List UInt8 × ℤ) := []

namespace ConnectorThreads

/-- The call of `send` returns. -/
def sendReturns (s : ConnectorThreads) (data : List UInt8) (result : ℤ) : ConnectorThreads :=
  { s with sender := .idle, returned := s.returned ++ [(data, result)] }

/-- The writes of one pass of the loop in `send` all return more than zero. -/
def writes (s : ConnectorThreads) (data : List UInt8) (succeeds : Bool) : Bool :=
  s.socketOpen && succeeds && !data.isEmpty

/-- One pass of the loop in `send`, up to the first wait. -/
def writeMessage (s : ConnectorThreads) (data : List UInt8) (succeeds : Bool) : ConnectorThreads :=
  if s.writes data succeeds then { s with sender := .firstWait data false, heard := [] }
  else s.sendReturns data codeErrorSocketWrite

def afterFirstWait (s : ConnectorThreads) (data : List UInt8) : ConnectorThreads :=
  if !s.connector.connected then s.sendReturns data codeErrorSocketNoConn
  else if s.connector.lastMessageAck && !s.connector.s3tpBufferFull then s.sendReturns data data.length
  else { s with sender := .secondWait data false }

/-- The loop goes on while the connector is connected. -/
def afterSecondWait (s : ConnectorThreads) (data : List UInt8) (succeeds : Bool) : ConnectorThreads :=
  if s.connector.connected then s.writeMessage data succeeds else s.sendReturns data data.length

def closeConnection (s : ConnectorThreads) : ConnectorThreads :=
  { s with
    connector := s.connector.closeConnection
    socketOpen := s.socketOpen && !s.connector.connected
    inbound := if s.connector.connected then [] else s.inbound
    sender := s.sender.notifyAll }

/-- The part of `receiveControlMessage` under the mutex. -/
def receiveControlMessage (s : ConnectorThreads) (control : S3tpControl) : ConnectorThreads :=
  { s with
    connector := s.connector.receiveControlMessage control
    sender := s.sender.notifyAll
    heard := s.heard ++ [control.type] }

/-- `connected = false` under the mutex, and nothing else. -/
def disconnect (s : ConnectorThreads) : ConnectorThreads :=
  { s with connector := { s.connector with connected := false } }

/-- The listener's next step. -/
def listenerStep (s : ConnectorThreads) : Option ConnectorThreads :=
  match s.listener with
  | .testing => some { s with listener := if s.connector.connected then .reading else .stopped }
  | .reading =>
    match s.inbound with
    | [] => none
    | reads :: rest => some { s with listener := reads.next, inbound := rest }
  | .handling control => some { s.receiveControlMessage control with listener := .testing }
  | .closing => some { s.closeConnection with listener := .stopped }
  | .disconnecting => some { s.disconnect with listener := .stopped }
  | .stopped => none

def step (s : ConnectorThreads) : ConnectorThreadsEvent → Option ConnectorThreads
  | .send data => match s.sender with
    | .idle => if s.connector.connected then some { s with sender := .entering data }
        else some (s.sendReturns data codeErrorSocketNoConn)
    | _ => none
  | .write succeeds => match s.sender with
    | .entering data => some (s.writeMessage data succeeds)
    | _ => none
  | .resume succeeds => match s.sender with
    | .firstWait data true => some (s.afterFirstWait data)
    | .secondWait data true => some (s.afterSecondWait data succeeds)
    | _ => none
  | .wakeUp => some { s with sender := s.sender.notifyAll }
  | .listener => s.listenerStep
  | .arrive reads => some { s with inbound := s.inbound ++ [reads] }
  | .closeConnection => some s.closeConnection

/-- A connector after `init`. -/
def started : ConnectorThreads := {}

/-- The control messages that the listener has not processed yet. -/
def inFlight (s : ConnectorThreads) : List S3tpControl :=
  (match s.listener with
    | .handling control => [control]
    | _ => []) ++ s.inbound.filterMap ListenerReads.control?

end ConnectorThreads

end S3tp.Model.Concurrent
