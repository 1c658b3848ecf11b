import S3tp.Machine.Run
import S3tp.Model.Core.Registry

/-! # The daemon's threads and the registry of clients

The daemon's main thread accepts connections: it cleans up, reads a configuration and creates a client,
whose own thread runs from then on and at last reports that the connection is closed. The assembly
thread delivers messages and the callbacks of the link and of the transmitting module announce
availability, each in a critical section of `clients_mutex`, which is one event. The cleanup is one
event for each port and one for each thread it joins.

A thread that locks the mutex it holds is stuck, and the mutex is taken for good. A null pointer or a
pointer to a deleted object that is followed ends the process. Any thread may be asked to deliver any
message: what the receiving module returns, also after an error, is not looked into.
-/

namespace S3tp.Model.Concurrent

open Core Machine

/-- Where the main thread is: in `accept`, in the cleanup with ports left to do, joining the thread of a
client it has killed, reading the configuration, or in the constructor of a client. -/
inductive MainPlace where
  | listening
  | cleaning (ports : List UInt8)
  | joining (address : ℕ) (ports : List UInt8)
  | handshaking
  | registering (address : ℕ)
  | stuck
deriving DecidableEq

/-- Where a client's thread is: in its loop, about to call `onDisconnected`, about to close its port, or
at its end. -/
inductive ThreadPlace where
  | running
  | closing
  | reported
  | finished
deriving DecidableEq

inductive RegistryEvent where
  | accept
  | cleanPort
  | join
  | endCleanup
  | refuse
  | configure (port channel : UInt8)
  | register
  | perform (operation : RegistryOperation) (results : ClientPtr → WriteResults)
  | serve (address : ℕ)
  | lose (address : ℕ)
  | report (address : ℕ)
  | finish (address : ℕ)

structure RegistrySystem where
  registry : Registry := {}
  main : MainPlace := .listening
  thread : ℕ → Option ThreadPlace := fun _ => none
  nextAddress : ℕ := 0
  fault : Option Fault := none

namespace RegistrySystem

/-- What becomes of the system when a thread's computation ends. -/
def settle {α : Type} (s : RegistrySystem) (after : α → RegistrySystem → RegistrySystem) :
    EStateM.Result Fault Registry α → RegistrySystem
  | .ok value registry => after value { s with registry }
  | .error .selfDeadlock registry => { s with registry }
  | .error fault registry => { s with registry, fault := some fault }

/-- The main thread goes on to the place, unless it gets stuck. -/
def settleMain {α : Type} (s : RegistrySystem) (place : α → MainPlace)
    (result : EStateM.Result Fault Registry α) : RegistrySystem :=
  settle { s with main := .stuck } (fun value next => { next with main := place value }) result

/-- The client's thread goes on to the place. -/
def settleThread {α : Type} (s : RegistrySystem) (address : ℕ) (place : α → ThreadPlace)
    (result : EStateM.Result Fault Registry α) : RegistrySystem :=
  settle s (fun value next => { next with thread := Function.update next.thread address (some (place value)) }) result

/-- `S3TP::getClientConnectedToPort`. -/
def getClientConnectedToPort (s : RegistrySystem) (port : UInt8) : ClientPtr := (s.registry.clients port).getD none

/-- The object is created and its thread is started. -/
def newClient (s : RegistrySystem) (port channel : UInt8) : RegistrySystem :=
  { s with registry := s.registry.assign s.nextAddress (some { appPort := port, virtualChannel := channel })
           thread := Function.update s.thread s.nextAddress (some .running)
           nextAddress := s.nextAddress + 1
           main := .registering s.nextAddress }

/-- The main thread. -/
def mainStep (s : RegistrySystem) : RegistryEvent → Option RegistrySystem
  | .accept =>
    if s.main = .listening ∧ s.registry.clientsMutexHeld = false then
      some { s with registry := { s.registry with clientsMutexHeld := true }
                    main := .cleaning s.registry.disconnectedClients }
    else none
  | .cleanPort =>
    match s.main with
    | .cleaning (port :: ports) =>
      some (s.settleMain (fun
        | none => .cleaning ports
        | some address => .joining address ports) ((takeDisconnected port).run s.registry))
    | _ => none
  | .join =>
    match s.main with
    | .joining address ports =>
      if s.thread address = some .finished then
        some (s.settleMain (fun _ => .cleaning ports) ((delete (some address)).run s.registry))
      else none
    | _ => none
  | .endCleanup =>
    if s.main = .cleaning [] then
      some { s with registry := { s.registry with disconnectedClients := [], clientsMutexHeld := false }
                    main := .handshaking }
    else none
  | .refuse => if s.main = .handshaking then some { s with main := .listening } else none
  | .configure port channel =>
    if s.main = .handshaking ∧ s.registry.clientsMutexHeld = false then
      if (s.getClientConnectedToPort port).isSome then some { s with main := .listening }
      else some (s.newClient port channel)
    else none
  | .register =>
    match s.main with
    | .registering address =>
      if s.registry.clientsMutexHeld then none
      else some (s.settleMain (fun _ => .listening) ((onConnected (some address)).run s.registry))
    | _ => none
  | _ => none

/-- The threads of the clients. -/
def threadStep (s : RegistrySystem) : RegistryEvent → Option RegistrySystem
  | .serve address =>
    if s.thread address = some .running then
      some (s.settleThread address (fun connected => if connected then .running else .finished)
        ((Client.isConnected (some address)).run s.registry))
    else none
  | .lose address =>
    if s.thread address = some .running then
      some (s.settleThread address (fun _ => .closing) ((Client.close (some address)).run s.registry))
    else none
  | .report address =>
    if s.thread address = some .closing ∧ s.registry.clientsMutexHeld = false then
      some (s.settleThread address (fun _ => .reported) ((onDisconnected (some address)).run s.registry))
    else none
  | .finish address =>
    if s.thread address = some .reported then
      some (s.settleThread address (fun _ => .finished) ((dereference (some address)).run s.registry))
    else none
  | _ => none

def step (s : RegistrySystem) (event : RegistryEvent) : Option RegistrySystem :=
  if s.fault.isSome then none
  else
    match event with
    | .perform .cleanupClients _ => none
    | .perform operation results =>
      if s.registry.clientsMutexHeld then none
      else some (s.settle (fun _ next => next) ((operation.perform results).run s.registry))
    | .serve _ | .lose _ | .report _ | .finish _ => s.threadStep event
    | _ => s.mainStep event

/-- What an event does, as long as nothing has gone wrong. -/
inductive Steps (s : RegistrySystem) : RegistryEvent → RegistrySystem → Prop where
  | accept (main : s.main = .listening) (free : s.registry.clientsMutexHeld = false) :
      Steps s .accept { s with registry := { s.registry with clientsMutexHeld := true }
                               main := .cleaning s.registry.disconnectedClients }
  | cleanPort {port : UInt8} {ports : List UInt8} (main : s.main = .cleaning (port :: ports)) :
      Steps s .cleanPort (s.settleMain (fun
        | none => .cleaning ports
        | some address => .joining address ports) ((takeDisconnected port).run s.registry))
  | join {address : ℕ} {ports : List UInt8} (main : s.main = .joining address ports)
      (ended : s.thread address = some .finished) :
      Steps s .join (s.settleMain (fun _ => .cleaning ports) ((delete (some address)).run s.registry))
  | endCleanup (main : s.main = .cleaning []) :
      Steps s .endCleanup { s with registry := { s.registry with disconnectedClients := [], clientsMutexHeld := false }
                                   main := .handshaking }
  | refuse (main : s.main = .handshaking) : Steps s .refuse { s with main := .listening }
  | occupied {port channel : UInt8} (main : s.main = .handshaking)
      (occupied : (s.getClientConnectedToPort port).isSome = true) :
      Steps s (.configure port channel) { s with main := .listening }
  | newClient {port channel : UInt8} (main : s.main = .handshaking)
      (vacant : s.getClientConnectedToPort port = none) : Steps s (.configure port channel) (s.newClient port channel)
  | register {address : ℕ} (main : s.main = .registering address) (free : s.registry.clientsMutexHeld = false) :
      Steps s .register (s.settleMain (fun _ => .listening) ((onConnected (some address)).run s.registry))
  | serve {address : ℕ} (here : s.thread address = some .running) :
      Steps s (.serve address) (s.settleThread address (fun connected => if connected then .running else .finished)
        ((Client.isConnected (some address)).run s.registry))
  | lose {address : ℕ} (here : s.thread address = some .running) :
      Steps s (.lose address) (s.settleThread address (fun _ => .closing)
        ((Client.close (some address)).run s.registry))
  | report {address : ℕ} (here : s.thread address = some .closing) (free : s.registry.clientsMutexHeld = false) :
      Steps s (.report address) (s.settleThread address (fun _ => .reported)
        ((onDisconnected (some address)).run s.registry))
  | finish {address : ℕ} (here : s.thread address = some .reported) :
      Steps s (.finish address) (s.settleThread address (fun _ => .finished)
        ((dereference (some address)).run s.registry))
  | perform {operation : RegistryOperation} {results : ClientPtr → WriteResults}
      (other : operation ≠ .cleanupClients) (free : s.registry.clientsMutexHeld = false) :
      Steps s (.perform operation results)
        (s.settle (fun _ next => next) ((operation.perform results).run s.registry))

section Steps

variable {s next : RegistrySystem} {event : RegistryEvent}

theorem of_mainStep (stepped : s.mainStep event = some next) : s.Steps event next := by
  cases event with
  | accept =>
    simp only [mainStep] at stepped
    split at stepped
    · next enabled =>
      obtain rfl := Option.some.inj stepped
      exact .accept enabled.1 enabled.2
    · contradiction
  | cleanPort =>
    simp only [mainStep] at stepped
    split at stepped
    · next port ports main =>
      obtain rfl := Option.some.inj stepped
      exact .cleanPort main
    · contradiction
  | join =>
    simp only [mainStep] at stepped
    split at stepped
    · next address ports main =>
      split at stepped
      · next ended =>
        obtain rfl := Option.some.inj stepped
        exact .join main ended
      · contradiction
    · contradiction
  | endCleanup =>
    simp only [mainStep] at stepped
    split at stepped
    · next main =>
      obtain rfl := Option.some.inj stepped
      exact .endCleanup main
    · contradiction
  | refuse =>
    simp only [mainStep] at stepped
    split at stepped
    · next main =>
      obtain rfl := Option.some.inj stepped
      exact .refuse main
    · contradiction
  | configure port channel =>
    simp only [mainStep] at stepped
    split at stepped
    · next enabled =>
      split at stepped
      · next occupied =>
        obtain rfl := Option.some.inj stepped
        exact .occupied enabled.1 occupied
      · next vacant =>
        obtain rfl := Option.some.inj stepped
        exact .newClient enabled.1 (by simpa using vacant)
    · contradiction
  | register =>
    simp only [mainStep] at stepped
    split at stepped
    · next address main =>
      split at stepped
      · contradiction
      · next free =>
        obtain rfl := Option.some.inj stepped
        exact .register main (by simpa using free)
    · contradiction
  | perform | serve | lose | report | finish => contradiction

theorem of_threadStep (stepped : s.threadStep event = some next) : s.Steps event next := by
  cases event with
  | serve address =>
    simp only [threadStep] at stepped
    split at stepped
    · next here =>
      obtain rfl := Option.some.inj stepped
      exact .serve here
    · contradiction
  | lose address =>
    simp only [threadStep] at stepped
    split at stepped
    · next here =>
      obtain rfl := Option.some.inj stepped
      exact .lose here
    · contradiction
  | report address =>
    simp only [threadStep] at stepped
    split at stepped
    · next enabled =>
      obtain rfl := Option.some.inj stepped
      exact .report enabled.1 enabled.2
    · contradiction
  | finish address =>
    simp only [threadStep] at stepped
    split at stepped
    · next here =>
      obtain rfl := Option.some.inj stepped
      exact .finish here
    · contradiction
  | _ => contradiction

theorem of_step (stepped : s.step event = some next) : s.fault = none ∧ s.Steps event next := by
  have alive : s.fault = none := by
    by_contra faulty
    simp [step, Option.isSome_iff_ne_none.mpr faulty] at stepped
  refine ⟨alive, ?_⟩
  cases event with
  | serve | lose | report | finish =>
    simp only [step, alive, Option.isSome_none, Bool.false_eq_true, if_false] at stepped
    exact of_threadStep stepped
  | accept | cleanPort | join | endCleanup | refuse | configure | register =>
    simp only [step, alive, Option.isSome_none, Bool.false_eq_true, if_false] at stepped
    exact of_mainStep stepped
  | perform operation results =>
    rcases Classical.em (operation = .cleanupClients) with rfl | other
    · simp [step] at stepped
    have performs : (if s.registry.clientsMutexHeld then none
        else some (s.settle (fun _ next => next) ((operation.perform results).run s.registry))) = some next := by
      cases operation with
      | cleanupClients => exact absurd rfl other
      | _ => simpa only [step, alive, Option.isSome_none, Bool.false_eq_true, if_false] using stepped
    split at performs
    · contradiction
    · next free =>
      obtain rfl := Option.some.inj performs
      exact .perform other (by simpa using free)

end Steps

/-- The daemon has started. -/
def start : RegistrySystem := {}

/-- No entry is null, and no null pointer or pointer to a deleted object has been followed. -/
structure Safe (s : RegistrySystem) : Prop where
  noFault : s.fault = none
  noNull : ∀ port, s.registry.clients port ≠ some none

/-- A message is delivered for a port that has a client. -/
def DeliversToClient (s : RegistrySystem) : RegistryEvent → Prop
  | .perform (.deliverMessage delivery) _ => ∃ address, s.registry.clients delivery.port = some (some address)
  | _ => True

end RegistrySystem

end S3tp.Model.Concurrent
