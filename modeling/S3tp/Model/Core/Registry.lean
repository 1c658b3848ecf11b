import S3tp.Model.Core.Framing
import S3tp.Model.Core.RxModule

/-! # The registry of clients

The `Client` objects, the maps `S3TP` keeps of them under `clients_mutex`, and the functions of both
classes that lead from one to the other: an operation of `S3TP` writes to a client's socket, the client
closes its connection when a write fails, and calls back into `S3TP`, which locks `clients_mutex`.

A computation carries out what one thread does. It ends with a fault where the thread would lock a mutex
it holds, and where a null pointer or a pointer to a deleted object is followed. What the writes to the
sockets return is given for each client: an operation writes at most one frame to it. The calls to the
transmitting and the receiving module are left out, and so is joining a client's thread.
-/

namespace S3tp.Model.Core

/-- A `Client *`. -/
abbrev ClientPtr := Option ℕ

structure Client where
  appPort : UInt8
  virtualChannel : UInt8
  connected : Bool := true
deriving DecidableEq

inductive Fault where
  | selfDeadlock
  | nullDereference
  | useAfterDelete
deriving DecidableEq

structure Registry where
  /-- The `Client` objects, by address. -/
  heap : ℕ → Option Client := fun _ => none
  clients : ByteMap ClientPtr := .empty
  disconnectedClients : List UInt8 := []
  clientsMutexHeld : Bool := false

abbrev RegistryM := EStateM Fault Registry

/-- What the writes of a frame return: of the type, of the length, and of the data or the control message. -/
structure WriteResults where
  type : ℤ
  length : ℤ
  content : ℤ
deriving DecidableEq

/-- `pthread_mutex_lock(&clients_mutex)`. -/
def lockClients : RegistryM Unit := do
  if (← get).clientsMutexHeld then throw .selfDeadlock
  modify fun s => { s with clientsMutexHeld := true }

/-- `pthread_mutex_unlock(&clients_mutex)`. -/
def unlockClients : RegistryM Unit := modify fun s => { s with clientsMutexHeld := false }

/-- A critical section. -/
def underClientsMutex (body : RegistryM Unit) : RegistryM Unit := do
  lockClients
  body
  unlockClients

/-- The object the pointer points to. -/
def dereference : ClientPtr → RegistryM Client
  | none => throw .nullDereference
  | some address => do
    match (← get).heap address with
    | none => throw .useAfterDelete
    | some client => return client

/-- The heap with another object, or none, at the address. -/
def Registry.assign (s : Registry) (address : ℕ) (object : Option Client) : Registry :=
  { s with heap := Function.update s.heap address object }

/-- Overwrite the object the pointer points to. -/
def store (cli : ClientPtr) (object : Option Client) : RegistryM Unit :=
  match cli with
  | none => throw .nullDereference
  | some address => modify fun s => s.assign address object

/-- `delete cli`. -/
def delete (cli : ClientPtr) : RegistryM Unit := do
  let _ ← dereference cli
  store cli none

/-- `clients[port]`. -/
def clientsAt (port : UInt8) : RegistryM ClientPtr := do
  match (← get).clients port with
  | some cli => return cli
  | none =>
    modify fun s => { s with clients := s.clients.insert port none }
    return none

/-! ## Client -/

/-- `S3TP::onDisconnected`. -/
def onDisconnected (cli : ClientPtr) : RegistryM Unit := underClientsMutex do
  let client ← dereference cli
  modify fun s => { s with disconnectedClients := s.disconnectedClients ++ [client.appPort] }

namespace Client

/-- The part of `closeConnection` and `handleConnectionClosed` under `client_mutex`. -/
def close (cli : ClientPtr) : RegistryM Unit := do
  let client ← dereference cli
  store cli (some { client with connected := false })

def closeConnection (cli : ClientPtr) : RegistryM Unit := do
  close cli
  onDisconnected cli

/-- Unlike `closeConnection` it does not shut the socket down. -/
def handleConnectionClosed (cli : ClientPtr) : RegistryM Unit := do
  close cli
  onDisconnected cli

def isConnected (cli : ClientPtr) : RegistryM Bool := return (← dereference cli).connected

/-- `kill`, up to joining the client's thread. -/
def kill (cli : ClientPtr) : RegistryM Unit := do
  if !(← isConnected cli) then return
  closeConnection cli

/-- What `write_length_safe` returns. -/
def lengthError (wr : ℤ) : ℤ := if wr ≤ 0 then codeErrorSocketWrite else codeSuccess

/-- `Client::send`. -/
def send (cli : ClientPtr) (wr : WriteResults) : RegistryM ℤ := do
  let _ ← dereference cli
  if wr.type = codeErrorSocketNoConn then
    handleConnectionClosed cli
    return codeErrorSocketNoConn
  else if wr.type < 0 then
    closeConnection cli
    return codeErrorSocketWrite
  else if lengthError wr.length = codeErrorSocketNoConn then
    handleConnectionClosed cli
    return lengthError wr.length
  else if lengthError wr.length = codeErrorSocketWrite then
    closeConnection cli
    return lengthError wr.length
  else if wr.content = 0 then
    handleConnectionClosed cli
    return codeErrorSocketNoConn
  else if wr.content < 0 then
    closeConnection cli
    return codeErrorSocketWrite
  else return codeSuccess

/-- `Client::sendControlMessage`. -/
def sendControlMessage (cli : ClientPtr) (wr : WriteResults) : RegistryM ℤ := do
  let _ ← dereference cli
  if wr.type = codeErrorSocketNoConn then
    handleConnectionClosed cli
    return codeErrorSocketNoConn
  else if wr.type < 0 then
    closeConnection cli
    return codeErrorSocketWrite
  else if wr.content = 0 then
    handleConnectionClosed cli
    return codeErrorSocketNoConn
  else if wr.content < 0 then
    closeConnection cli
    return codeErrorSocketWrite
  else return codeSuccess

end Client

/-! ## S3TP -/

/-- The critical section of `onConnected`. -/
def onConnected (cli : ClientPtr) : RegistryM Unit := underClientsMutex do
  let client ← dereference cli
  modify fun s => { s with clients := s.clients.insert client.appPort cli }

/-- The critical section of `assemblyRoutine`. -/
def deliverMessage (delivery : Delivery) (results : ClientPtr → WriteResults) : RegistryM Unit :=
  underClientsMutex do
    let cli ← clientsAt delivery.port
    if cli.isSome then
      let _ ← Client.send cli (results cli)

/-- A call of `Client::send`. -/
structure SendCall where
  client : ℕ
  data : Option (List UInt8)
  len : UInt16
deriving DecidableEq

/-- The call made in that critical section, if any. -/
def Registry.sendCall (s : Registry) (delivery : Delivery) : Option SendCall :=
  (s.clients delivery.port).join.map fun client => ⟨client, delivery.data, delivery.len⟩

/-- A `for` loop over the values of `clients`. -/
def forClients (body : ClientPtr → RegistryM Unit) : List UInt8 → RegistryM Unit
  | [] => return
  | port :: ports => do
    body (((← get).clients port).getD none)
    forClients body ports

/-- `S3TP::notifyAvailabilityToClients`. -/
def notifyAvailabilityToClients (results : ClientPtr → WriteResults) : RegistryM Unit :=
  underClientsMutex do
    forClients (fun cli => do let _ ← Client.sendControlMessage cli (results cli)) (← get).clients.keys

/-- The critical section of `S3TP::onChannelStatusChanged`. -/
def onChannelStatusChanged (channel : UInt8) (results : ClientPtr → WriteResults) : RegistryM Unit :=
  underClientsMutex do
    forClients (fun cli => do
      if (← dereference cli).virtualChannel = channel then
        let _ ← Client.sendControlMessage cli (results cli)) (← get).clients.keys

/-- `S3TP::onOutputQueueAvailable`. -/
def onOutputQueueAvailable (port : UInt8) (results : ClientPtr → WriteResults) : RegistryM Unit :=
  underClientsMutex do
    match (← get).clients port with
    | none => return
    | some cli =>
      let _ ← Client.sendControlMessage cli (results cli)

/-- Take the client out and kill it, up to joining its thread: the client to be deleted. -/
def takeDisconnected (port : UInt8) : RegistryM ClientPtr := do
  let cli ← clientsAt port
  if cli.isSome then
    let client ← dereference cli
    modify fun s => { s with clients := s.clients.erase client.appPort }
    Client.kill cli
  return cli

/-- The body of the loop in `cleanupClients`. -/
def cleanupPort (port : UInt8) : RegistryM Unit := do
  let cli ← takeDisconnected port
  if cli.isSome then delete cli

/-- The loop of `cleanupClients`. -/
def cleanupPorts : List UInt8 → RegistryM Unit
  | [] => return
  | port :: ports => do
    cleanupPort port
    cleanupPorts ports

/-- `S3TP::cleanupClients`. -/
def cleanupClients : RegistryM Unit := underClientsMutex do
  cleanupPorts (← get).disconnectedClients
  modify fun s => { s with disconnectedClients := [] }

/-- Client threads that find their connections closed. -/
def connectionsClosed : List ClientPtr → RegistryM Unit
  | [] => return
  | cli :: others => do
    Client.handleConnectionClosed cli
    connectionsClosed others

/-- The loop of `S3TP::~S3TP`, up to this number of passes, with the connections found closed in each of them
while it does not hold the mutex: the clients it kills, and whether it ends. -/
def killClients (closed : ℕ → List ClientPtr) : ℕ → RegistryM (List ClientPtr × Bool)
  | 0 => return ([], false)
  | passes + 1 => do
    match (← get).clients.begin? with
    | none => return ([], true)
    | some port =>
      let cli := ((← get).clients port).getD none
      unlockClients
      connectionsClosed (closed 0)
      Client.kill cli
      lockClients
      let (killed, ended) ← killClients (fun pass => closed (pass + 1)) passes
      return (cli :: killed, ended)

/-- The functions of `S3TP` that lock `clients_mutex` and call a client under it. -/
inductive RegistryOperation where
  | deliverMessage (delivery : Delivery)
  | notifyAvailabilityToClients
  | onChannelStatusChanged (channel : UInt8)
  | onOutputQueueAvailable (port : UInt8)
  | cleanupClients

def RegistryOperation.perform (results : ClientPtr → WriteResults) : RegistryOperation → RegistryM Unit
  | .deliverMessage delivery => Core.deliverMessage delivery results
  | .notifyAvailabilityToClients => Core.notifyAvailabilityToClients results
  | .onChannelStatusChanged channel => Core.onChannelStatusChanged channel results
  | .onOutputQueueAvailable port => Core.onOutputQueueAvailable port results
  | .cleanupClients => Core.cleanupClients

/-! ## What the computations do -/

/-- A frame whose writes return this is written by `send`. -/
def WriteResults.DataAccepted (wr : WriteResults) : Prop := 0 ≤ wr.type ∧ 0 < wr.length ∧ 0 < wr.content

/-- A frame whose writes return this is written by `sendControlMessage`. -/
def WriteResults.ControlAccepted (wr : WriteResults) : Prop := 0 ≤ wr.type ∧ 0 < wr.content

instance (wr : WriteResults) : Decidable wr.DataAccepted := inferInstanceAs (Decidable (_ ∧ _))

instance (wr : WriteResults) : Decidable wr.ControlAccepted := inferInstanceAs (Decidable (_ ∧ _))

namespace Registry

/-- Every entry points to a client of its port. -/
def Registered (s : Registry) : Prop :=
  ∀ port cli, s.clients port = some cli → ∃ address client,
    cli = some address ∧ s.heap address = some client ∧ client.appPort = port

/-- The registry after a client has closed its connection. -/
def disconnect (s : Registry) (address : ℕ) (client : Client) : Registry :=
  s.assign address (some { client with connected := false })

/-- What a computation under `clients_mutex` leads to that writes to sockets: it leaves the registry as it
is, if all writes are accepted, or a client closes its connection and locks the mutex again. -/
inductive Outcome (s : Registry) (accepted : Prop) {α : Type} : EStateM.Result Fault Registry α → Prop
  | returns (value : α) : accepted → Outcome s accepted (.ok value s)
  | relocks {address : ℕ} {client : Client} : ¬ accepted → s.heap address = some client →
    Outcome s accepted (.error .selfDeadlock (s.disconnect address client))

end Registry

section Runs

variable {s : Registry} {address : ℕ} {client : Client} {port : UInt8}

theorem run_lockClients_free (free : s.clientsMutexHeld = false) :
    lockClients.run s = .ok () { s with clientsMutexHeld := true } := by
  simp [lockClients, free]

theorem run_lockClients_held (held : s.clientsMutexHeld = true) : lockClients.run s = .error .selfDeadlock s := by
  simp [lockClients, held]

theorem run_dereference (object : s.heap address = some client) :
    (dereference (some address)).run s = .ok client s := by
  simp [dereference, object]

theorem run_close (object : s.heap address = some client) :
    (Client.close (some address)).run s = .ok () (s.disconnect address client) := by
  simp [Client.close, run_dereference object, store, Registry.disconnect]

theorem run_isConnected (object : s.heap address = some client) :
    (Client.isConnected (some address)).run s = .ok client.connected s := by
  simp [Client.isConnected, run_dereference object, -bind_pure_comp]

theorem run_onDisconnected_free (free : s.clientsMutexHeld = false) (object : s.heap address = some client) :
    (onDisconnected (some address)).run s = .ok () { s with
      disconnectedClients := s.disconnectedClients ++ [client.appPort], clientsMutexHeld := false } := by
  have still : ({ s with clientsMutexHeld := true } : Registry).heap address = some client := object
  simp [onDisconnected, underClientsMutex, run_lockClients_free free, run_dereference still, unlockClients]

theorem run_onConnected_free (free : s.clientsMutexHeld = false) (object : s.heap address = some client) :
    (onConnected (some address)).run s =
      .ok () { s with clients := s.clients.insert client.appPort (some address), clientsMutexHeld := false } := by
  have still : ({ s with clientsMutexHeld := true } : Registry).heap address = some client := object
  simp [onConnected, underClientsMutex, run_lockClients_free free, run_dereference still, unlockClients]

/-- The callback locks the mutex its caller holds. -/
theorem run_closeConnection (held : s.clientsMutexHeld = true) (object : s.heap address = some client) :
    (Client.closeConnection (some address)).run s = .error .selfDeadlock (s.disconnect address client) := by
  have still : (s.disconnect address client).clientsMutexHeld = true := held
  simp [Client.closeConnection, run_close object, onDisconnected, underClientsMutex, run_lockClients_held still]

/-- What a client does after a failed write. -/
theorem outcome_closed {accepted : Prop} (refused : ¬ accepted) (held : s.clientsMutexHeld = true)
    (object : s.heap address = some client) (code : ℤ) :
    s.Outcome accepted ((do Client.closeConnection (some address); return code : RegistryM ℤ).run s) := by
  rw [EStateM.run_bind, run_closeConnection held object]
  exact .relocks refused object

theorem lengthError_ne_noConn (wr : ℤ) : Client.lengthError wr ≠ codeErrorSocketNoConn := by
  rw [Client.lengthError]
  split <;> decide

theorem lengthError_eq_write_iff {wr : ℤ} : Client.lengthError wr = codeErrorSocketWrite ↔ wr ≤ 0 := by
  rw [Client.lengthError]
  split
  · next failed => simp [failed]
  · next wrote => exact iff_of_false (by decide) wrote

theorem outcome_send (held : s.clientsMutexHeld = true) (object : s.heap address = some client) (wr : WriteResults) :
    s.Outcome wr.DataAccepted ((Client.send (some address) wr).run s) := by
  have closed (refused : ¬ wr.DataAccepted) := outcome_closed refused held object
  have codes : codeErrorSocketNoConn < 0 := by decide
  rw [Client.send, EStateM.run_bind, run_dereference object]
  dsimp only
  split
  · next noConn => exact closed (fun accepted => absurd accepted.1 (by omega)) _
  split
  · next negative => exact closed (fun accepted => absurd accepted.1 (by omega)) _
  split
  · next noConn => exact absurd noConn (lengthError_ne_noConn _)
  split
  · next failed =>
    have none := lengthError_eq_write_iff.mp failed
    exact closed (fun accepted => absurd accepted.2.1 (by omega)) _
  split
  · next zero => exact closed (fun accepted => absurd accepted.2.2 (by omega)) _
  split
  · next negative => exact closed (fun accepted => absurd accepted.2.2 (by omega)) _
  · next wrote _ _ =>
    have some := mt lengthError_eq_write_iff.mpr wrote
    exact .returns _ ⟨by omega, by omega, by omega⟩

theorem outcome_sendControlMessage (held : s.clientsMutexHeld = true) (object : s.heap address = some client)
    (wr : WriteResults) : s.Outcome wr.ControlAccepted ((Client.sendControlMessage (some address) wr).run s) := by
  have closed (refused : ¬ wr.ControlAccepted) := outcome_closed refused held object
  have codes : codeErrorSocketNoConn < 0 := by decide
  rw [Client.sendControlMessage, EStateM.run_bind, run_dereference object]
  dsimp only
  split
  · next noConn => exact closed (fun accepted => absurd accepted.1 (by omega)) _
  split
  · next negative => exact closed (fun accepted => absurd accepted.1 (by omega)) _
  split
  · next zero => exact closed (fun accepted => absurd accepted.2 (by omega)) _
  split
  · next negative => exact closed (fun accepted => absurd accepted.2 (by omega)) _
  · exact .returns _ ⟨by omega, by omega⟩

/-- The result is not used. -/
theorem Registry.Outcome.discard {accepted : Prop} {body : RegistryM ℤ} (outcome : s.Outcome accepted (body.run s)) :
    s.Outcome accepted ((do let _ ← body : RegistryM Unit).run s) := by
  rw [EStateM.run_bind]
  generalize body.run s = result at outcome
  cases outcome with
  | returns value taken => exact .returns () taken
  | relocks refused object => exact .relocks refused object

/-- The first pass of a loop, and the passes behind it. -/
theorem run_forClients_cons (body : ClientPtr → RegistryM Unit) (port : UInt8) (ports : List UInt8) :
    (forClients body (port :: ports)).run s =
      ((do body ((s.clients port).getD none); forClients body ports : RegistryM Unit).run s) := by
  rw [forClients, EStateM.run_bind, EStateM.run_get]

/-- A loop is accepted when every pass is. -/
theorem outcome_forClients {body : ClientPtr → RegistryM Unit} {accepts : UInt8 → Prop} {ports : List UInt8}
    (each : ∀ port ∈ ports, s.Outcome (accepts port) ((body ((s.clients port).getD none)).run s)) :
    s.Outcome (∀ port ∈ ports, accepts port) ((forClients body ports).run s) := by
  induction ports with
  | nil => exact .returns () (by simp)
  | cons port ports ih =>
    have first := each port (by simp)
    have later := ih fun other member => each other (by simp [member])
    rw [run_forClients_cons, EStateM.run_bind]
    generalize (body ((s.clients port).getD none)).run s = result at first
    cases first with
    | relocks refused object => exact .relocks (fun all => refused (all port (by simp))) object
    | returns value taken =>
      dsimp only
      generalize (forClients body ports).run s = result at later
      cases later with
      | relocks refused object =>
        exact .relocks (fun all => refused fun other member => all other (by simp [member])) object
      | returns value others => exact .returns () (by simpa using ⟨taken, others⟩)

/-- A critical section releases the mutex if its body returns. -/
theorem run_underClientsMutex {body : RegistryM Unit} {accepted : Prop} (free : s.clientsMutexHeld = false)
    (outcome : ({ s with clientsMutexHeld := true } : Registry).Outcome accepted
      (body.run { s with clientsMutexHeld := true })) :
    (accepted ∧ (underClientsMutex body).run s = .ok () s) ∨
    (¬ accepted ∧ ∃ address client, s.heap address = some client ∧ (underClientsMutex body).run s =
      .error .selfDeadlock ({ s with clientsMutexHeld := true }.disconnect address client)) := by
  have released : ({ s with clientsMutexHeld := false } : Registry) = s := by rw [← free]
  rw [underClientsMutex, EStateM.run_bind, run_lockClients_free free]
  dsimp only
  rw [EStateM.run_bind]
  generalize body.run { s with clientsMutexHeld := true } = result at outcome
  cases outcome with
  | returns value taken => exact .inl ⟨taken, congrArg _ released⟩
  | relocks refused object => exact .inr ⟨refused, _, _, object, rfl⟩

/-- A loop over all entries. -/
theorem outcome_forClients_keys {body : ClientPtr → RegistryM Unit} {accepts : ClientPtr → Prop}
    (each : ∀ port cli, s.clients port = some cli → s.Outcome (accepts cli) ((body cli).run s)) :
    s.Outcome (∀ port cli, s.clients port = some cli → accepts cli)
      ((do forClients body (← get).clients.keys : RegistryM Unit).run s) := by
  have outcome : s.Outcome (∀ port ∈ s.clients.keys, accepts ((s.clients port).getD none))
      ((forClients body s.clients.keys).run s) := by
    apply outcome_forClients
    intro port member
    obtain ⟨cli, entry⟩ := Option.isSome_iff_exists.mp (ByteMap.mem_keys.mp member)
    rw [entry]
    exact each port cli entry
  have same : (∀ port ∈ s.clients.keys, accepts ((s.clients port).getD none)) ↔
      ∀ port cli, s.clients port = some cli → accepts cli := by
    simp only [ByteMap.mem_keys, Option.isSome_iff_exists]
    constructor
    · intro all port cli entry
      simpa [entry] using all port ⟨cli, entry⟩
    · rintro all port ⟨cli, entry⟩
      simpa [entry] using all port cli entry
  rw [same] at outcome
  exact outcome

/-- All frames the operation writes are accepted, and the clients it removes have closed their connections. -/
def RegistryOperation.Accepted (s : Registry) (results : ClientPtr → WriteResults) : RegistryOperation → Prop
  | .deliverMessage delivery => ∀ cli, s.clients delivery.port = some cli → (results cli).DataAccepted
  | .notifyAvailabilityToClients => ∀ port cli, s.clients port = some cli → (results cli).ControlAccepted
  | .onChannelStatusChanged channel => ∀ port cli, s.clients port = some cli →
      (∃ address client, cli = some address ∧ s.heap address = some client ∧ client.virtualChannel = channel) →
      (results cli).ControlAccepted
  | .onOutputQueueAvailable port => ∀ cli, s.clients port = some cli → (results cli).ControlAccepted
  | .cleanupClients => ∀ port ∈ s.disconnectedClients, ∀ address client, s.clients port = some (some address) →
      s.heap address = some client → client.connected = false

/-- The operation only writes to sockets: it neither cleans up nor delivers to a port without an entry. -/
def RegistryOperation.OnlyWrites (s : Registry) : RegistryOperation → Prop
  | .deliverMessage delivery => (s.clients delivery.port).isSome
  | .cleanupClients => False
  | _ => True

theorem outcome_notify (held : s.clientsMutexHeld = true) (registered : s.Registered)
    (results : ClientPtr → WriteResults) {cli : ClientPtr} (entry : s.clients port = some cli) :
    s.Outcome (results cli).ControlAccepted
      ((do let _ ← Client.sendControlMessage cli (results cli) : RegistryM Unit).run s) := by
  obtain ⟨address, client, rfl, object, -⟩ := registered port cli entry
  exact (outcome_sendControlMessage held object _).discard

theorem outcome_onChannel (held : s.clientsMutexHeld = true) (registered : s.Registered)
    (results : ClientPtr → WriteResults) (channel : UInt8) {cli : ClientPtr} (entry : s.clients port = some cli) :
    s.Outcome ((∃ address client, cli = some address ∧ s.heap address = some client ∧ client.virtualChannel = channel) →
        (results cli).ControlAccepted)
      ((do if (← dereference cli).virtualChannel = channel then
            let _ ← Client.sendControlMessage cli (results cli) : RegistryM Unit).run s) := by
  have notified := outcome_notify held registered results entry
  obtain ⟨address, client, rfl, object, -⟩ := registered port cli entry
  rw [EStateM.run_bind, run_dereference object]
  dsimp only
  split
  · next same =>
    have selected : ((∃ a c, some address = some a ∧ s.heap a = some c ∧ c.virtualChannel = channel) →
        (results (some address)).ControlAccepted) ↔ (results (some address)).ControlAccepted :=
      ⟨fun all => all ⟨address, client, rfl, object, same⟩, fun taken _ => taken⟩
    rw [selected]
    exact notified
  · next other =>
    apply Registry.Outcome.returns
    rintro ⟨a, c, pointer, object', same⟩
    obtain rfl := Option.some.inj pointer
    rw [object] at object'
    exact absurd (Option.some.inj object' ▸ same) other

/-- An operation that only writes leaves the registry as it is, or locks the mutex again. -/
theorem run_perform (registered : s.Registered) (free : s.clientsMutexHeld = false)
    (results : ClientPtr → WriteResults) {operation : RegistryOperation} (onlyWrites : operation.OnlyWrites s) :
    (operation.Accepted s results ∧ (operation.perform results).run s = .ok () s) ∨
    (¬ operation.Accepted s results ∧ ∃ address client, s.heap address = some client ∧
      (operation.perform results).run s =
        .error .selfDeadlock ({ s with clientsMutexHeld := true }.disconnect address client)) := by
  have locked : ({ s with clientsMutexHeld := true } : Registry).Registered := registered
  cases operation with
  | cleanupClients => exact onlyWrites.elim
  | notifyAvailabilityToClients =>
    exact run_underClientsMutex free (outcome_forClients_keys fun _ _ entry =>
      outcome_notify rfl locked results entry)
  | onChannelStatusChanged channel =>
    exact run_underClientsMutex free (outcome_forClients_keys fun _ _ entry =>
      outcome_onChannel rfl locked results channel entry)
  | onOutputQueueAvailable port =>
    apply run_underClientsMutex free
    rw [EStateM.run_bind, EStateM.run_get]
    dsimp only
    rcases entry : s.clients port with _ | cli
    · exact .returns () (by simp [RegistryOperation.Accepted, entry])
    · have accepts : RegistryOperation.Accepted s results (.onOutputQueueAvailable port) ↔
          (results cli).ControlAccepted := by
        simp [RegistryOperation.Accepted, entry]
      rw [accepts]
      exact outcome_notify rfl locked results entry
  | deliverMessage delivery =>
    apply run_underClientsMutex free
    obtain ⟨cli, entry⟩ := Option.isSome_iff_exists.mp onlyWrites
    have accepts : RegistryOperation.Accepted s results (.deliverMessage delivery) ↔ (results cli).DataAccepted := by
      simp [RegistryOperation.Accepted, entry]
    obtain ⟨address, client, rfl, object, -⟩ := locked _ _ entry
    rw [accepts, EStateM.run_bind, clientsAt, EStateM.run_bind, EStateM.run_get]
    simp only [entry, EStateM.run_pure, Option.isSome_some, if_true]
    exact (outcome_send rfl object _).discard

/-- A message for a port without an entry gives it one. -/
theorem run_deliverMessage_absent (free : s.clientsMutexHeld = false) {delivery : Delivery}
    (absent : s.clients delivery.port = none) (results : ClientPtr → WriteResults) :
    (deliverMessage delivery results).run s =
      .ok () { s with clients := s.clients.insert delivery.port none, clientsMutexHeld := false } := by
  simp [deliverMessage, underClientsMutex, run_lockClients_free free, clientsAt, absent, unlockClients]

/-- Without a call nothing is written, whatever a write would return. A port without an entry gets one. -/
theorem run_deliverMessage_of_none (free : s.clientsMutexHeld = false) {delivery : Delivery}
    (silent : s.sendCall delivery = none) :
    ∃ clients, (clients = s.clients ∨ clients = s.clients.insert delivery.port none) ∧
      ∀ results, (deliverMessage delivery results).run s = .ok () { s with clients } := by
  have released : ({ s with clientsMutexHeld := false } : Registry) = s := by rw [← free]
  rcases entry : s.clients delivery.port with _ | cli
  · refine ⟨_, .inr rfl, fun results => ?_⟩
    rw [run_deliverMessage_absent free entry, ← free]
  · obtain rfl : cli = none := by simpa [Registry.sendCall, entry] using silent
    refine ⟨_, .inl rfl, fun results => ?_⟩
    simp [deliverMessage, underClientsMutex, run_lockClients_free free, clientsAt, entry, unlockClients, released]

/-- The critical section makes the call and nothing else. -/
theorem run_deliverMessage_of_some {delivery : Delivery} {call : SendCall}
    (calls : s.sendCall delivery = some call) (results : ClientPtr → WriteResults) :
    (deliverMessage delivery results).run s =
      (underClientsMutex do let _ ← Client.send (some call.client) (results (some call.client))).run s := by
  obtain ⟨address, entry, rfl⟩ := Option.map_eq_some_iff.mp calls
  have pointer : s.clients delivery.port = some (some address) := Option.join_eq_some_iff.mp entry
  rcases Bool.eq_false_or_eq_true s.clientsMutexHeld with held | free
  · simp [deliverMessage, underClientsMutex, run_lockClients_held held]
  · simp [deliverMessage, underClientsMutex, run_lockClients_free free, clientsAt, pointer]

/-! ## Cleaning up -/

theorem run_delete (object : s.heap address = some client) :
    (delete (some address)).run s = .ok () (s.assign address none) := by
  simp [delete, run_dereference object, store]

/-- A port without an entry gets one. -/
theorem run_takeDisconnected_absent (absent : s.clients port = none) :
    (takeDisconnected port).run s = .ok none { s with clients := s.clients.insert port none } := by
  simp [takeDisconnected, clientsAt, absent, -bind_pure_comp]

theorem run_takeDisconnected_null (null : s.clients port = some none) :
    (takeDisconnected port).run s = .ok none s := by
  simp [takeDisconnected, clientsAt, null]

/-- A client that has closed its connection is taken out. -/
theorem run_takeDisconnected_closed (registered : s.clients port = some (some address))
    (object : s.heap address = some client) (closed : client.connected = false) :
    (takeDisconnected port).run s = .ok (some address) { s with clients := s.clients.erase client.appPort } := by
  have still : ({ s with clients := s.clients.erase client.appPort } : Registry).heap address = some client := object
  simp [takeDisconnected, clientsAt, registered, run_dereference object, Client.kill, Client.isConnected,
    run_dereference still, closed]

/-- A client that is still connected closes its connection now, under the mutex. -/
theorem run_takeDisconnected_connected (held : s.clientsMutexHeld = true)
    (registered : s.clients port = some (some address)) (object : s.heap address = some client)
    (connected : client.connected = true) : (takeDisconnected port).run s =
      .error .selfDeadlock ({ s with clients := s.clients.erase client.appPort }.disconnect address client) := by
  have still : ({ s with clients := s.clients.erase client.appPort } : Registry).heap address = some client := object
  have locked : ({ s with clients := s.clients.erase client.appPort } : Registry).clientsMutexHeld = true := held
  simp [takeDisconnected, clientsAt, registered, run_dereference object, Client.kill, Client.isConnected,
    run_dereference still, connected, run_closeConnection locked still, -bind_pure_comp]

end Runs

end S3tp.Model.Core
