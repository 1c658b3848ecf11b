import S3tp.Model.Concurrent.ClientSocket
import S3tp.Model.Concurrent.Transfer
import S3tp.Model.Core.ClientRoutine

/-! # From application to application

Two daemons with their applications. At the one, the client thread of each port reads its application's messages from
the socket, and calls `onApplicationMessage` for each of them before it reads on. At the other, the assembly thread
consumes a message when there is one, and passes it on to the client of its port before it consumes the next.

The clients at the receiving daemon are those connected all along, and other threads write control messages to their
sockets. `results` is a history: what the calls of `onApplicationMessage` have returned.
-/

namespace S3tp.Model.Concurrent

open Core Machine

inductive PathEvent where
  | read (port : UInt8) (rd : SocketRead)
  | call (port : UInt8) (fresh : ℕ → S3tpHeader) (beyond : ℕ → UInt8)
  | transfer (event : TransferEvent)
  | consume
  | passOn
  | socket (port : UInt8) (event : SocketEvent)

structure ApplicationPath where
  transfer : Transfer
  /-- What the client of each port at the sending daemon has registered with. -/
  channel : UInt8 → UInt8
  options : UInt8 → UInt8
  clients : UInt8 → ClientRoutine
  /-- The message for which a client's thread is in `onApplicationMessage`. -/
  pending : UInt8 → Option (List UInt8) := fun _ => none
  results : UInt8 → List ℤ := fun _ => []
  /-- The ports that have a client at the receiving daemon. -/
  registered : UInt8 → Bool
  /-- What the assembly thread has consumed and not passed on. -/
  consumed : Option Delivery := none
  /-- The port of the client it has passed on to last. -/
  passedOnTo : Option UInt8 := none
  sockets : UInt8 → ClientSocket := fun _ => .start

namespace ApplicationPath

/-- What the assembly thread passes on: the first `len` bytes of `data`. -/
def messageOf (delivery : Delivery) : AppMessage where
  data := (delivery.data.getD []).take delivery.len.toNat
  fits := by
    have bound : delivery.len.toNat < 2 ^ 16 := delivery.len.toNat_lt
    rw [List.length_take]
    omega

/-- The applications have written their messages, and both instances are freshly reset and started. -/
def started (fresh : S3tpHeader) (channel options : UInt8 → UInt8) (messages : UInt8 → List AppMessage)
    (registered : UInt8 → Bool) : ApplicationPath where
  transfer := .started fresh
  channel := channel
  options := options
  clients port := .start (messages port)
  registered := registered

/-- The payload of a client's message, at the beginning of some memory. -/
def submission (s : ApplicationPath) (port : UInt8) (data : List UInt8) (beyond : ℕ → UInt8) : Submission where
  channel := s.channel port
  port := port
  memory i := data.getD i (beyond i)
  len := data.length
  opts := s.options port

/-- `onApplicationMessage` returns. -/
def returns (s : ApplicationPath) (port : UInt8) (result : ℤ) : ApplicationPath :=
  { s with pending := Function.update s.pending port none
           results := Function.update s.results port (s.results port ++ [result]) }

/-- Whose call of `enqueuePacket` a step takes part in, and what `sendToLinkLayer` returns if it returns behind it. -/
def caller : TransferEvent → Option (UInt8 × ℤ)
  | .enqueue port => some (port, codeInactiveError)
  | .write port => some (port, codeSuccess)
  | _ => none

/-- The call of the port has come to its end. -/
def ended (before after : Transfer) (port : UInt8) : Bool := (before.calls port).isSome && (after.calls port).isNone

/-- The assembly thread finds a message, and is in no call of `Client::send`. -/
def consumes (s : ApplicationPath) : Bool :=
  s.consumed.isNone && s.transfer.connection.receiver.rx.isNewMessageAvailable &&
    s.passedOnTo.all fun port => !(s.sockets port).writing .assembly

/-- The event is a step of the two instances that no thread of a client or of the assembly starts. -/
def ofInstances : TransferEvent → Bool
  | .call .. | .consume => false
  | _ => true

/-- The call passes on data, or is the assembly thread's. -/
def passesOn : SocketEvent → Bool
  | .call .assembly _ | .call _ (.data _) => true
  | _ => false

def step (s : ApplicationPath) : PathEvent → Option ApplicationPath
  | .read port rd =>
    if (s.pending port).isSome then none
    else ((s.clients port).step rd).map fun client => { s with
      clients := Function.update s.clients port client
      pending := Function.update s.pending port
        (client.applicationMessages.drop (s.clients port).applicationMessages.length).head? }
  | .call port fresh beyond =>
    match s.pending port with
    | none => none
    | some data =>
      (s.transfer.step (.call (s.submission port data beyond) fresh)).map fun transfer =>
        -- A payload that is not admitted is answered at once.
        if (transfer.calls port).isSome then { s with transfer }
        else { s with transfer }.returns port
          (s.transfer.connection.sender.tx.admission (s.submission port data beyond))
  | .transfer event =>
    if ofInstances event then
      (s.transfer.step event).map fun transfer =>
        match caller event with
        | none => { s with transfer }
        | some (port, result) =>
          if ended s.transfer transfer port then { s with transfer }.returns port result else { s with transfer }
    else none
  | .consume =>
    if s.consumes then
      (s.transfer.step .consume).map fun transfer => { s with
        transfer, consumed := transfer.connection.receiver.delivered.getLast? }
    else none
  | .passOn =>
    match s.consumed with
    | none => none
    | some delivery =>
      if s.registered delivery.port then
        ((s.sockets delivery.port).step (.call .assembly (.data (messageOf delivery)))).map fun socket => { s with
          consumed := none
          passedOnTo := some delivery.port
          sockets := Function.update s.sockets delivery.port socket }
      else some { s with consumed := none }
  | .socket port event =>
    if passesOn event then none
    else ((s.sockets port).step event).map fun socket => { s with sockets := Function.update s.sockets port socket }

/-! ## The parts -/

/-- What an event is to the two instances. -/
def onTransfer (s : ApplicationPath) : PathEvent → Option TransferEvent
  | .call port fresh beyond => (s.pending port).map fun data => .call (s.submission port data beyond) fresh
  | .transfer event => some event
  | .consume => some .consume
  | _ => none

/-- What it is to the client thread of a port at the sending daemon. -/
def onClient (port : UInt8) : PathEvent → Option SocketRead
  | .read other rd => if other = port then some rd else none
  | _ => none

/-- What it is to the socket of a port's client at the receiving daemon. -/
def onSocket (s : ApplicationPath) (port : UInt8) : PathEvent → Option SocketEvent
  | .passOn => s.consumed.bind fun delivery =>
    if s.registered delivery.port ∧ delivery.port = port then some (.call .assembly (.data (messageOf delivery)))
    else none
  | .socket other event => if other = port then some event else none
  | _ => none

/-! ## What is heard -/

/-- The data the receiving application is given on a port. -/
def heardOn (s : ApplicationPath) (port : UInt8) : List (List UInt8) :=
  (listen (s.sockets port).stream).1.filterMap fun
    | .data bytes => some bytes
    | .control _ => none

/-- The messages of the sending application that have been acknowledged. -/
def acknowledgedOn (s : ApplicationPath) (port : UInt8) : List (List UInt8) :=
  ((s.clients port).applicationMessages.zip (s.results port)).filterMap fun (data, result) =>
    if result = codeSuccess then some data else none

/-! ## What a step can do -/

section Steps

variable {s t : ApplicationPath} {port : UInt8}

theorem of_read {rd : SocketRead} (stepped : s.step (.read port rd) = some t) :
    s.pending port = none ∧ ∃ client, (s.clients port).step rd = some client ∧ t = { s with
      clients := Function.update s.clients port client
      pending := Function.update s.pending port
        (client.applicationMessages.drop (s.clients port).applicationMessages.length).head? } := by
  rw [step] at stepped
  split at stepped
  · contradiction
  · next idle =>
    obtain ⟨client, reads, rfl⟩ := Option.map_eq_some_iff.mp stepped
    exact ⟨by simpa using idle, client, reads, rfl⟩

theorem of_call {fresh : ℕ → S3tpHeader} {beyond : ℕ → UInt8} (stepped : s.step (.call port fresh beyond) = some t) :
    ∃ data transfer, s.pending port = some data ∧
      s.transfer.step (.call (s.submission port data beyond) fresh) = some transfer ∧
      t = if (transfer.calls port).isSome then { s with transfer }
        else { s with transfer }.returns port
          (s.transfer.connection.sender.tx.admission (s.submission port data beyond)) := by
  rw [step] at stepped
  split at stepped
  · contradiction
  · next data pending =>
    obtain ⟨transfer, calls, rfl⟩ := Option.map_eq_some_iff.mp stepped
    exact ⟨data, transfer, pending, calls, rfl⟩

theorem of_transfer {event : TransferEvent} (stepped : s.step (.transfer event) = some t) :
    ofInstances event = true ∧ ∃ transfer, s.transfer.step event = some transfer ∧
      t = match caller event with
        | none => { s with transfer }
        | some (port, result) =>
          if ended s.transfer transfer port then { s with transfer }.returns port result else { s with transfer } := by
  rw [step] at stepped
  split at stepped
  · next own =>
    obtain ⟨transfer, steps, rfl⟩ := Option.map_eq_some_iff.mp stepped
    exact ⟨own, transfer, steps, rfl⟩
  · contradiction

theorem of_consume (stepped : s.step .consume = some t) : s.consumes = true ∧ ∃ transfer,
    s.transfer.step .consume = some transfer ∧
      t = { s with transfer, consumed := transfer.connection.receiver.delivered.getLast? } := by
  rw [step] at stepped
  split at stepped
  · next free =>
    obtain ⟨transfer, steps, rfl⟩ := Option.map_eq_some_iff.mp stepped
    exact ⟨free, transfer, steps, rfl⟩
  · contradiction

theorem of_passOn (stepped : s.step .passOn = some t) : ∃ delivery, s.consumed = some delivery ∧
    ((s.registered delivery.port = false ∧ t = { s with consumed := none }) ∨
      (s.registered delivery.port = true ∧ ∃ socket,
        (s.sockets delivery.port).step (.call .assembly (.data (messageOf delivery))) = some socket ∧ t = { s with
          consumed := none
          passedOnTo := some delivery.port
          sockets := Function.update s.sockets delivery.port socket })) := by
  rw [step] at stepped
  split at stepped
  · contradiction
  · next delivery holds =>
    refine ⟨delivery, holds, ?_⟩
    split at stepped
    · next client =>
      obtain ⟨socket, calls, rfl⟩ := Option.map_eq_some_iff.mp stepped
      exact .inr ⟨client, socket, calls, rfl⟩
    · next absent =>
      exact .inl ⟨by simpa using absent, (Option.some.inj stepped).symm⟩

theorem of_socket {event : SocketEvent} (stepped : s.step (.socket port event) = some t) :
    passesOn event = false ∧ ∃ socket, (s.sockets port).step event = some socket ∧
      t = { s with sockets := Function.update s.sockets port socket } := by
  rw [step] at stepped
  split at stepped
  · contradiction
  · next others =>
    obtain ⟨socket, steps, rfl⟩ := Option.map_eq_some_iff.mp stepped
    exact ⟨by simpa using others, socket, steps, rfl⟩

end Steps

end ApplicationPath

end S3tp.Model.Concurrent
