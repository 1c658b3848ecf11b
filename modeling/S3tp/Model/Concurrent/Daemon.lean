import S3tp.Model.Concurrent.RegistrySystem
import S3tp.Model.Concurrent.Transfer

/-! # The daemon

The registry of clients with both modules of one instance, which run as long as the daemon does. When the main
thread has registered a client it opens the client's port, and before a client's thread ends it closes the port.
The link thread tests whether the port of a data packet is open, and handles the packet afterwards. The assembly
thread consumes a message and then looks its client up. The threads of the clients call `sendToLinkLayer`, one call
after the other, with the port and the channel the client has registered.

`received`, `forwarded` and `produced` are histories: the frames handed to `handleReceivedPacket`, the calls of
`Client::send` and the stamped packets, each with the registered port it was made for. So is `opened`: how many
frames had been received when the client's port was opened.
-/

namespace S3tp.Model.Concurrent

open Core Machine

inductive DaemonEvent where
  | registry (event : RegistryEvent)
  | openPort
  | receive (packet : S3tpPacket)
  | receiveData
  | consume
  | forward (results : ClientPtr → WriteResults)
  | onApplicationMessage (address : ℕ) (memory : ℕ → UInt8) (len : ℕ) (opts : UInt8) (fresh : ℕ → S3tpHeader)
  | enqueue (address : ℕ)
  | write (address : ℕ)
  | iterate (link : LinkStatus)
  | setChannelAvailable (channel : UInt8) (available : Bool)
  | scheduleSync (syncId : UInt8)

/-- What the assembly thread has in hand: nothing, a message it has consumed and not forwarded yet, or for good the
mutex it waits for. -/
inductive InHand where
  | nothing
  | message (delivery : Delivery)
  | mutex
deriving DecidableEq

structure Daemon where
  registry : RegistrySystem := .start
  rx : RxModule
  sender : TxSystem ℕ
  /-- The client whose port the main thread opens next, at the end of `onConnected`. -/
  opening : Option ℕ := none
  /-- The data packet whose port the link thread has found open. -/
  handling : Option S3tpPacket := none
  inHand : InHand := .nothing
  calls : ℕ → Option CallUnderWay := fun _ => none
  received : List S3tpPacket := []
  opened : ℕ → Option ℕ := fun _ => none
  forwarded : List SendCall := []
  produced : List (UInt8 × S3tpPacket) := []

namespace Daemon

/-- Both modules freshly reset and started, and no client yet. -/
def started (fresh : S3tpHeader) : Daemon where
  rx := ({} : RxModule).reset.startModule
  sender := .started fresh

/-- The client at the address. -/
def client (s : Daemon) (address : ℕ) : Option Client := s.registry.registry.heap address

/-- The receiving module after the end of the client's `onDisconnected`. -/
def closePort (s : Daemon) (address : ℕ) : Option RxModule :=
  match s.client address with
  | none => some s.rx
  | some client => if s.rx.rxMutexHeld then none else some (s.rx.closePort client.appPort).2

def registryStep (s : Daemon) (event : RegistryEvent) : Option Daemon :=
  (s.registry.step event).bind fun registry =>
    match event with
    -- Only what the assembly thread has consumed is delivered.
    | .perform (.deliverMessage _) _ => none
    | .accept => if s.opening.isSome then none else some { s with registry }
    | .register =>
      match s.registry.main with
      | .registering address => some { s with registry, opening := some address }
      | _ => none
    | .serve address | .lose address => if (s.calls address).isSome then none else some { s with registry }
    | .finish address => (s.closePort address).map fun rx => { s with registry, rx }
    | _ => some { s with registry }

/-- The end of `onConnected`. -/
def openPortStep (s : Daemon) : Option Daemon :=
  match s.opening with
  | none => none
  | some address =>
    match s.client address with
    | none => some { s with registry := { s.registry with fault := some .useAfterDelete } }
    | some client =>
      if s.rx.rxMutexHeld then none
      else some { s with rx := (s.rx.openPort client.appPort).2, opening := none,
                         opened := Function.update s.opened address (some s.received.length) }

/-- The link thread and the assembly thread. -/
def receiverStep (s : Daemon) : DaemonEvent → Option Daemon
  | .receive packet =>
    if s.rx.rxMutexHeld || s.handling.isSome then none
    else if s.rx.accepts packet then some { s with handling := some packet, received := s.received ++ [packet] }
    else some { s with rx := (s.rx.handleReceivedPacket packet).2.2, received := s.received ++ [packet] }
  | .receiveData =>
    if s.rx.rxMutexHeld then none
    else s.handling.map fun packet => { s with rx := s.rx.receiveData packet, handling := none }
  | .consume =>
    if s.rx.rxMutexHeld || s.inHand ≠ .nothing || !s.rx.isNewMessageAvailable then none
    else s.rx.getNextCompleteMessage.map fun (delivery, rx) => { s with rx, inHand := .message delivery }
  | .forward results =>
    match s.inHand with
    | .message delivery =>
      (s.registry.step (.perform (.deliverMessage delivery) results)).map fun registry =>
        { s with
          registry
          -- A thread that locks the mutex it holds does not get any further.
          inHand := if registry.registry.clientsMutexHeld then .mutex else .nothing
          forwarded := s.forwarded ++ (s.registry.registry.sendCall delivery).toList }
    | _ => none
  | _ => none

/-- The threads of the clients and the transmit thread. -/
def senderStep (s : Daemon) : DaemonEvent → Option Daemon
  | .onApplicationMessage address memory len opts fresh =>
    match s.client address with
    | none => none
    | some client =>
      let m : Submission := { channel := client.virtualChannel, port := client.appPort, memory, len, opts }
      if s.registry.thread address ≠ some .running ∨ (s.calls address).isSome then none
      else if s.sender.tx.admission m ≠ codeSuccess then some s
      else some { s with calls := Function.update s.calls address (some ⟨m, m.calls fresh⟩) }
  | .enqueue address =>
    match s.calls address with
    | some ⟨m, call :: rest⟩ =>
      (s.sender.step (.enqueue address call.packet call.fragNo call.moreFragments)).map fun sender =>
        { s with
          sender
          calls := Function.update s.calls address (some ⟨m, rest⟩)
          produced := s.produced ++ (sender.pending address).toList.map fun packet => (m.port, packet) }
    | _ => none
  | .write address =>
    match s.calls address with
    | none => none
    | some ⟨_, remaining⟩ =>
      (s.sender.step (.write address)).map fun sender =>
        { s with sender, calls := if remaining.isEmpty then Function.update s.calls address none else s.calls }
  | .iterate link => (s.sender.step (.iterate link)).map fun sender => { s with sender }
  | .setChannelAvailable channel available =>
    (s.sender.step (.setChannelAvailable channel available)).map fun sender => { s with sender }
  | .scheduleSync syncId => (s.sender.step (.scheduleSync syncId)).map fun sender => { s with sender }
  | _ => none

def step (s : Daemon) (event : DaemonEvent) : Option Daemon :=
  if s.registry.fault.isSome then none
  else
    match event with
    | .registry event => s.registryStep event
    | .openPort => s.openPortStep
    | .receive _ | .receiveData | .consume | .forward _ => s.receiverStep event
    | _ => s.senderStep event

/-! ## What a step can do -/

variable {s t : Daemon}

theorem closePort_frame {address : ℕ} {rx : RxModule} (closes : s.closePort address = some rx) :
    ∃ openPorts, rx = { s.rx with openPorts } := by
  simp only [closePort] at closes
  split at closes
  · exact ⟨s.rx.openPorts, (Option.some.inj closes).symm⟩
  split at closes
  · contradiction
  · obtain rfl := Option.some.inj closes
    exact ⟨_, RxModule.closePort_frame ..⟩

/-- The registry goes on. At the end of `onConnected`'s critical section the client's port is still to be opened,
and at the end of `onDisconnected` the client's port is closed. -/
theorem registryStep_cases {event : RegistryEvent} (stepped : s.registryStep event = some t) :
    ∃ registry, s.registry.step event = some registry ∧
      ((∃ address, event = .register ∧ s.registry.main = .registering address ∧
          t = { s with registry, opening := some address }) ∨
        (∃ address rx, event = .finish address ∧ s.closePort address = some rx ∧ t = { s with registry, rx }) ∨
        (event ≠ .register ∧ (∀ address, event ≠ .finish address) ∧ (event = .accept → s.opening = none) ∧
          (∀ delivery results, event ≠ .perform (.deliverMessage delivery) results) ∧ t = { s with registry })) := by
  obtain ⟨registry, steps, goes⟩ := Option.bind_eq_some_iff.mp stepped
  refine ⟨registry, steps, ?_⟩
  split at goes
  · contradiction
  · split at goes
    · contradiction
    · next free =>
      obtain rfl := Option.some.inj goes
      exact .inr (.inr ⟨by simp, by simp, fun _ => by simpa using free, by simp, rfl⟩)
  · split at goes
    · next address main =>
      obtain rfl := Option.some.inj goes
      exact .inl ⟨address, rfl, main, rfl⟩
    · contradiction
  · split at goes
    · contradiction
    · obtain rfl := Option.some.inj goes
      exact .inr (.inr ⟨by simp, by simp, by simp, by simp, rfl⟩)
  · split at goes
    · contradiction
    · obtain rfl := Option.some.inj goes
      exact .inr (.inr ⟨by simp, by simp, by simp, by simp, rfl⟩)
  · next address =>
    obtain ⟨rx, closes, rfl⟩ := Option.map_eq_some_iff.mp goes
    exact .inr (.inl ⟨address, rx, rfl, closes, rfl⟩)
  · next other notAccept notRegister _ _ notFinish =>
    obtain rfl := Option.some.inj goes
    exact .inr (.inr ⟨notRegister, notFinish, fun accept => absurd accept notAccept, other, rfl⟩)

theorem registryStep_frame {event : RegistryEvent} (stepped : s.registryStep event = some t) :
    ∃ registry rx opening, t = { s with registry, rx, opening } := by
  obtain ⟨registry, -, ⟨address, -, -, rfl⟩ | ⟨address, rx, -, -, rfl⟩ | ⟨-, -, -, -, rfl⟩⟩ :=
    registryStep_cases stepped
  · exact ⟨_, _, _, rfl⟩
  · exact ⟨_, _, _, rfl⟩
  · exact ⟨_, _, _, rfl⟩

/-- The port is opened, whatever `openPort` returns. -/
theorem openPortStep_cases (stepped : s.openPortStep = some t) : ∃ address, s.opening = some address ∧
    ((s.client address = none ∧ t.registry.fault.isSome ∧ ∃ registry, t = { s with registry }) ∨
      ∃ client, s.client address = some client ∧ t = { s with
        rx := (s.rx.openPort client.appPort).2, opening := none
        opened := Function.update s.opened address (some s.received.length) }) := by
  simp only [openPortStep] at stepped
  split at stepped
  · contradiction
  next address opening =>
  refine ⟨address, opening, ?_⟩
  split at stepped
  · next deleted =>
    obtain rfl := Option.some.inj stepped
    exact .inl ⟨deleted, rfl, _, rfl⟩
  · next client object =>
    split at stepped
    · contradiction
    · obtain rfl := Option.some.inj stepped
      exact .inr ⟨client, object, rfl⟩

/-- A data packet of an open port is kept in hand. Any other frame is done with. -/
theorem receive_cases {packet : S3tpPacket} (stepped : s.receiverStep (.receive packet) = some t) :
    s.handling = none ∧ (t = { s with handling := some packet, received := s.received ++ [packet] } ∨
      ∃ currentPortSequence lastReceivedGlobalSeq, t = { s with
        rx := { s.rx with currentPortSequence, lastReceivedGlobalSeq }, received := s.received ++ [packet] }) := by
  simp only [receiverStep] at stepped
  split at stepped
  · contradiction
  next busy =>
  have free : s.handling = none := by
    have outside : ¬ s.handling.isSome = true := fun handling => busy (by simp [handling])
    simpa using outside
  split at stepped
  · obtain rfl := Option.some.inj stepped
    exact ⟨free, .inl rfl⟩
  · next refused =>
    obtain ⟨currentPortSequence, lastReceivedGlobalSeq, done⟩ :=
      RxModule.handleReceivedPacket_of_not_accepts (by simpa using refused)
    obtain rfl := Option.some.inj stepped
    exact ⟨free, .inr ⟨currentPortSequence, lastReceivedGlobalSeq, by rw [done]⟩⟩

theorem of_receiveData (stepped : s.receiverStep .receiveData = some t) :
    ∃ packet, s.handling = some packet ∧ t = { s with rx := s.rx.receiveData packet, handling := none } := by
  simp only [receiverStep] at stepped
  split at stepped
  · contradiction
  · obtain ⟨packet, handling, rfl⟩ := Option.map_eq_some_iff.mp stepped
    exact ⟨packet, handling, rfl⟩

theorem of_consume (stepped : s.receiverStep .consume = some t) : s.inHand = .nothing ∧
    ∃ delivery rx, s.rx.getNextCompleteMessage = some (delivery, rx) ∧
      t = { s with rx, inHand := .message delivery } := by
  simp only [receiverStep] at stepped
  split at stepped
  · contradiction
  next busy =>
  have free : s.inHand = .nothing := by
    by_contra occupied
    exact busy (by simp [occupied])
  obtain ⟨consumed, consumes, rfl⟩ := Option.map_eq_some_iff.mp stepped
  exact ⟨free, consumed.1, consumed.2, consumes, rfl⟩

theorem of_forward {results : ClientPtr → WriteResults} (stepped : s.receiverStep (.forward results) = some t) :
    ∃ delivery registry, s.inHand = .message delivery ∧
      s.registry.step (.perform (.deliverMessage delivery) results) = some registry ∧ t = { s with
        registry
        inHand := if registry.registry.clientsMutexHeld then .mutex else .nothing
        forwarded := s.forwarded ++ (s.registry.registry.sendCall delivery).toList } := by
  simp only [receiverStep] at stepped
  split at stepped
  · next delivery inHand =>
    obtain ⟨registry, steps, rfl⟩ := Option.map_eq_some_iff.mp stepped
    exact ⟨delivery, registry, inHand, steps, rfl⟩
  · contradiction

theorem receiverStep_frame {event : DaemonEvent} (stepped : s.receiverStep event = some t) :
    ∃ registry rx handling inHand received forwarded,
      t = { s with registry, rx, handling, inHand, received, forwarded } := by
  cases event with
  | receive packet =>
    obtain ⟨-, rfl | ⟨_, _, rfl⟩⟩ := receive_cases stepped
    · exact ⟨_, _, _, _, _, _, rfl⟩
    · exact ⟨_, _, _, _, _, _, rfl⟩
  | receiveData =>
    obtain ⟨packet, -, rfl⟩ := of_receiveData stepped
    exact ⟨_, _, _, _, _, _, rfl⟩
  | consume =>
    obtain ⟨-, delivery, rx, -, rfl⟩ := of_consume stepped
    exact ⟨_, _, _, _, _, _, rfl⟩
  | forward results =>
    obtain ⟨delivery, registry, -, -, rfl⟩ := of_forward stepped
    exact ⟨_, _, _, _, _, _, rfl⟩
  | _ => contradiction

theorem senderStep_frame {event : DaemonEvent} (stepped : s.senderStep event = some t) :
    ∃ sender calls produced, t = { s with sender, calls, produced } := by
  cases event with
  | onApplicationMessage address memory len opts fresh =>
    simp only [senderStep] at stepped
    split at stepped
    · contradiction
    split at stepped
    · contradiction
    split at stepped
    · obtain rfl := Option.some.inj stepped
      exact ⟨_, _, _, rfl⟩
    · obtain rfl := Option.some.inj stepped
      exact ⟨_, _, _, rfl⟩
  | enqueue address =>
    simp only [senderStep] at stepped
    split at stepped
    · obtain ⟨sender, -, rfl⟩ := Option.map_eq_some_iff.mp stepped
      exact ⟨_, _, _, rfl⟩
    · contradiction
  | write address =>
    simp only [senderStep] at stepped
    split at stepped
    · contradiction
    · obtain ⟨sender, -, rfl⟩ := Option.map_eq_some_iff.mp stepped
      exact ⟨_, _, _, rfl⟩
  | iterate link =>
    obtain ⟨sender, -, rfl⟩ := Option.map_eq_some_iff.mp stepped
    exact ⟨_, _, _, rfl⟩
  | setChannelAvailable | scheduleSync =>
    obtain rfl := Option.some.inj stepped
    exact ⟨_, _, _, rfl⟩
  | _ => contradiction

/-- The process goes on as long as there is no fault. -/
theorem alive_of_step {event : DaemonEvent} (stepped : s.step event = some t) : s.registry.fault.isSome = false := by
  cases faulty : s.registry.fault.isSome with
  | false => rfl
  | true => simp [step, faulty] at stepped

/-- The next call of a message that is under way. -/
theorem step_enqueue {address : ℕ} {m : Submission} {call : EnqueueCall} {rest : List EnqueueCall}
    {sender : TxSystem ℕ} (alive : s.registry.fault.isSome = false)
    (underWay : s.calls address = some ⟨m, call :: rest⟩)
    (steps : s.sender.step (.enqueue address call.packet call.fragNo call.moreFragments) = some sender) :
    s.step (.enqueue address) = some { s with
      sender
      calls := Function.update s.calls address (some ⟨m, rest⟩)
      produced := s.produced ++ (sender.pending address).toList.map fun packet => (m.port, packet) } := by
  simp [step, alive, senderStep, underWay, steps]

end Daemon

end S3tp.Model.Concurrent
