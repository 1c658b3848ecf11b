import S3tp.Soundness.RegistrySafety

/-! # The registry in every run

A message for a port without a client leaves a null entry behind. Such an entry stands for no client as far as
everything but the announcements goes, and an announcement that comes upon one ends the process. So the registry
without its null entries is consistent in every run, until a null pointer is followed.
-/

namespace S3tp.Soundness

open Machine Model.Core Model.Concurrent Model.Concurrent.RegistrySystem

/-! ## Null entries -/

/-- The entries that point to a client. -/
def pointing (clients : ByteMap ClientPtr) : ByteMap ClientPtr := fun port => (clients port).filter Option.isSome

section Pointing

variable {clients : ByteMap ClientPtr} {port : UInt8}

theorem pointing_eq_some_iff {cli : ClientPtr} :
    pointing clients port = some cli ↔ clients port = some cli ∧ cli.isSome = true := Option.filter_eq_some_iff

theorem pointing_eq_some {address : ℕ} :
    pointing clients port = some (some address) ↔ clients port = some (some address) := by
  simp [pointing_eq_some_iff]

/-- Which client has the port. -/
theorem pointing_eq_none_iff : pointing clients port = none ↔ (clients port).getD none = none := by
  simp only [pointing, Option.filter_eq_none_iff]
  cases clients port <;> simp

theorem pointing_insert (clients : ByteMap ClientPtr) (port : UInt8) (address : ℕ) :
    pointing (clients.insert port (some address)) = (pointing clients).insert port (some address) := by
  funext other
  rcases Classical.em (other = port) with rfl | different
  · simp [pointing]
  · simp [pointing, ByteMap.insert_of_ne _ _ different]

theorem pointing_erase (clients : ByteMap ClientPtr) (port : UInt8) :
    pointing (clients.erase port) = (pointing clients).erase port := by
  funext other
  rcases Classical.em (other = port) with rfl | different
  · simp [pointing]
  · simp [pointing, ByteMap.erase_of_ne _ different]

/-- A null entry for a port without a client changes nothing. -/
theorem pointing_insert_none (vacant : (clients port).getD none = none) :
    pointing (clients.insert port none) = pointing clients := by
  funext other
  rcases Classical.em (other = port) with rfl | different
  · rw [pointing_eq_none_iff.mpr vacant, pointing_eq_none_iff]
    simp
  · simp [pointing, ByteMap.insert_of_ne _ _ different]

end Pointing

/-- The system without its null entries. -/
def withoutNulls (s : RegistrySystem) : RegistrySystem :=
  { s with registry := { s.registry with clients := pointing s.registry.clients } }

variable {s next : RegistrySystem} {event : RegistryEvent} {address : ℕ} {client : Client} {port : UInt8}

theorem portOf_of_entry (consistent : Consistent (withoutNulls s))
    (entry : s.registry.clients port = some (some address)) : portOf s address = some port := by
  obtain ⟨_, pointer, ofPort⟩ := consistent.keyed port (some address) (pointing_eq_some.mpr entry)
  obtain rfl := Option.some.inj pointer
  exact ofPort

/-! ## Announcements that come upon null entries -/

/-- The computation ends with a null pointer that is followed. -/
def FollowsNull {α : Type} (result : EStateM.Result Fault Registry α) : Prop :=
  ∃ registry, result = .error .nullDereference registry

/-- Every entry is null or points to a client. -/
def RegisteredOrNull (registry : Registry) : Prop :=
  ∀ port address, registry.clients port = some (some address) → ∃ client, registry.heap address = some client

/-- The computation writes to sockets, or it follows a null pointer. -/
def WritesOrFollows (registry : Registry) {α : Type} (result : EStateM.Result Fault Registry α) : Prop :=
  (∃ accepted, registry.Outcome accepted result) ∨ FollowsNull result

section Operations

variable {registry : Registry}

/-- A frame for the client of an entry. -/
theorem writesOrFollows_notify (held : registry.clientsMutexHeld = true) (registered : RegisteredOrNull registry)
    (results : ClientPtr → WriteResults) {cli : ClientPtr} (entry : registry.clients port = some cli) :
    WritesOrFollows registry
      ((do let _ ← Client.sendControlMessage cli (results cli) : RegistryM Unit).run registry) := by
  cases cli with
  | none => exact .inr ⟨registry, rfl⟩
  | some address =>
    obtain ⟨client, object⟩ := registered port address entry
    exact .inl ⟨_, (outcome_sendControlMessage held object _).discard⟩

theorem writesOrFollows_onChannel (held : registry.clientsMutexHeld = true) (registered : RegisteredOrNull registry)
    (results : ClientPtr → WriteResults) (channel : UInt8) {cli : ClientPtr}
    (entry : registry.clients port = some cli) :
    WritesOrFollows registry ((do if (← dereference cli).virtualChannel = channel then
      let _ ← Client.sendControlMessage cli (results cli) : RegistryM Unit).run registry) := by
  have notified := writesOrFollows_notify held registered results entry
  cases cli with
  | none => exact .inr ⟨registry, rfl⟩
  | some address =>
    obtain ⟨client, object⟩ := registered port address entry
    rw [EStateM.run_bind, run_dereference object]
    dsimp only
    split
    · exact notified
    · exact .inl ⟨True, .returns () trivial⟩

/-- A loop follows a null pointer when a pass does. -/
theorem writesOrFollows_forClients {body : ClientPtr → RegistryM Unit} {ports : List UInt8}
    (each : ∀ port ∈ ports, WritesOrFollows registry ((body ((registry.clients port).getD none)).run registry)) :
    WritesOrFollows registry ((forClients body ports).run registry) := by
  induction ports with
  | nil => exact .inl ⟨True, .returns () trivial⟩
  | cons port ports ih =>
    have first := each port (by simp)
    have later := ih fun other member => each other (by simp [member])
    rw [run_forClients_cons, EStateM.run_bind]
    generalize (body ((registry.clients port).getD none)).run registry = result at first
    rcases first with ⟨accepted, outcome⟩ | ⟨left, rfl⟩
    · cases outcome with
      | returns value taken => exact later
      | relocks refused object => exact .inl ⟨False, .relocks id object⟩
    · exact .inr ⟨left, rfl⟩

theorem writesOrFollows_forClients_keys {body : ClientPtr → RegistryM Unit}
    (each : ∀ port cli, registry.clients port = some cli → WritesOrFollows registry ((body cli).run registry)) :
    WritesOrFollows registry ((do forClients body (← get).clients.keys : RegistryM Unit).run registry) := by
  have loop : WritesOrFollows registry ((forClients body registry.clients.keys).run registry) := by
    apply writesOrFollows_forClients
    intro port member
    obtain ⟨cli, entry⟩ := Option.isSome_iff_exists.mp (ByteMap.mem_keys.mp member)
    rw [entry]
    exact each port cli entry
  exact loop

/-- What an operation under `clients_mutex` leads to. -/
inductive Performed (registry : Registry) : EStateM.Result Fault Registry Unit → Prop
  | returns {clients : ByteMap ClientPtr} : pointing clients = pointing registry.clients →
    Performed registry (.ok () { registry with clients })
  | relocks {address : ℕ} {client : Client} : registry.heap address = some client →
    Performed registry (.error .selfDeadlock ({ registry with clientsMutexHeld := true }.disconnect address client))
  | follows (left : Registry) : Performed registry (.error .nullDereference left)

theorem performed_underClientsMutex {body : RegistryM Unit} (free : registry.clientsMutexHeld = false)
    (writes : WritesOrFollows { registry with clientsMutexHeld := true }
      (body.run { registry with clientsMutexHeld := true })) :
    Performed registry ((underClientsMutex body).run registry) := by
  rcases writes with ⟨accepted, outcome⟩ | ⟨left, follows⟩
  · rcases run_underClientsMutex free outcome with ⟨-, run⟩ | ⟨-, address, client, object, run⟩
    · rw [run]
      exact .returns rfl
    · rw [run]
      exact .relocks object
  · rw [underClientsMutex, EStateM.run_bind, run_lockClients_free free]
    dsimp only
    rw [EStateM.run_bind, follows]
    exact .follows left

theorem performed_perform (registered : RegisteredOrNull registry) (free : registry.clientsMutexHeld = false)
    (results : ClientPtr → WriteResults) {operation : RegistryOperation} (other : operation ≠ .cleanupClients) :
    Performed registry ((operation.perform results).run registry) := by
  have locked : RegisteredOrNull { registry with clientsMutexHeld := true } := registered
  cases operation with
  | cleanupClients => exact absurd rfl other
  | notifyAvailabilityToClients =>
    exact performed_underClientsMutex free (writesOrFollows_forClients_keys fun _ _ entry =>
      writesOrFollows_notify rfl locked results entry)
  | onChannelStatusChanged channel =>
    exact performed_underClientsMutex free (writesOrFollows_forClients_keys fun _ _ entry =>
      writesOrFollows_onChannel rfl locked results channel entry)
  | onOutputQueueAvailable port =>
    apply performed_underClientsMutex free
    rw [EStateM.run_bind, EStateM.run_get]
    dsimp only
    rcases entry : registry.clients port with _ | cli
    · exact .inl ⟨True, .returns () trivial⟩
    · exact writesOrFollows_notify rfl locked results entry
  | deliverMessage delivery =>
    cases calls : registry.sendCall delivery with
    | none =>
      obtain ⟨clients, added, runs⟩ := run_deliverMessage_of_none free calls
      have run : ((RegistryOperation.deliverMessage delivery).perform results).run registry = _ := runs results
      rw [run]
      refine .returns ?_
      rcases added with rfl | rfl
      · rfl
      · refine pointing_insert_none ?_
        have vacant : (registry.clients delivery.port).join = none := by simpa [Registry.sendCall] using calls
        cases entry : registry.clients delivery.port with
        | none => rfl
        | some cli => simpa [entry] using vacant
    | some call =>
      have run : ((RegistryOperation.deliverMessage delivery).perform results).run registry = _ :=
        run_deliverMessage_of_some calls results
      obtain ⟨address, entry, rfl⟩ := Option.map_eq_some_iff.mp calls
      obtain ⟨client, object⟩ := locked delivery.port address (Option.join_eq_some_iff.mp entry)
      rw [run]
      exact performed_underClientsMutex free (.inl ⟨_, (outcome_send rfl object _).discard⟩)

end Operations

/-! ## What a step can do -/

/-- A step from a state that is consistent without its null entries, and what it needs. -/
inductive StepTo (s : RegistrySystem) : RegistryEvent → RegistrySystem → Prop
  | accept : s.main = .listening → s.registry.clientsMutexHeld = false →
    StepTo s .accept { s with registry := { s.registry with clientsMutexHeld := true }
                              main := .cleaning s.registry.disconnectedClients }
  | cleanPort {address : ℕ} {client : Client} {ports : List UInt8} :
    s.main = .cleaning (client.appPort :: ports) → s.registry.clients client.appPort = some (some address) →
    s.registry.heap address = some client → client.connected = false →
    StepTo s .cleanPort { s with registry := { s.registry with clients := s.registry.clients.erase client.appPort }
                                 main := .joining address ports }
  | join {address : ℕ} {ports : List UInt8} : s.main = .joining address ports → s.thread address = some .finished →
    StepTo s .join { s with registry := s.registry.assign address none, main := .cleaning ports }
  | endCleanup : s.main = .cleaning [] →
    StepTo s .endCleanup { s with registry := { s.registry with disconnectedClients := [], clientsMutexHeld := false }
                                  main := .handshaking }
  | goesBack {event : RegistryEvent} : event = .refuse ∨ (∃ port channel, event = .configure port channel) →
    s.main = .handshaking → StepTo s event { s with main := .listening }
  | newClient {port channel : UInt8} : s.main = .handshaking → s.getClientConnectedToPort port = none →
    StepTo s (.configure port channel) (s.newClient port channel)
  | register {address : ℕ} {client : Client} : s.main = .registering address → s.registry.clientsMutexHeld = false →
    s.registry.heap address = some client →
    StepTo s .register { s with
      registry := { s.registry with
        clients := s.registry.clients.insert client.appPort (some address), clientsMutexHeld := false }
      main := .listening }
  | serve {address : ℕ} {client : Client} : s.thread address = some .running →
    s.registry.heap address = some client →
    StepTo s (.serve address) { s with
      thread := Function.update s.thread address (some (if client.connected then .running else .finished)) }
  | lose {address : ℕ} {client : Client} : s.thread address = some .running → s.registry.heap address = some client →
    StepTo s (.lose address) { s with registry := s.registry.disconnect address client
                                      thread := Function.update s.thread address (some .closing) }
  | report {address : ℕ} {client : Client} : s.thread address = some .closing →
    s.registry.clientsMutexHeld = false → s.registry.heap address = some client →
    StepTo s (.report address) { s with
      registry := { s.registry with
        disconnectedClients := s.registry.disconnectedClients ++ [client.appPort], clientsMutexHeld := false }
      thread := Function.update s.thread address (some .reported) }
  | finish {address : ℕ} {client : Client} : s.thread address = some .reported →
    s.registry.heap address = some client →
    StepTo s (.finish address) { s with thread := Function.update s.thread address (some .finished) }
  | perform {operation : RegistryOperation} {results : ClientPtr → WriteResults} {clients : ByteMap ClientPtr} :
    s.registry.clientsMutexHeld = false → pointing clients = pointing s.registry.clients →
    StepTo s (.perform operation results) { s with registry := { s.registry with clients } }
  | relock {operation : RegistryOperation} {results : ClientPtr → WriteResults} {address : ℕ} {client : Client} :
    s.registry.clientsMutexHeld = false → s.registry.heap address = some client →
    StepTo s (.perform operation results) { s with
      registry := { s.registry with clientsMutexHeld := true }.disconnect address client }

/-- What the step leads to is consistent without its null entries, too. -/
theorem StepTo.consistent (stepTo : StepTo s event next) (consistent : Consistent (withoutNulls s)) :
    Consistent (withoutNulls next) := by
  cases stepTo with
  | accept main => exact consistent.accept main
  | cleanPort main entry object closed =>
    have after := consistent.cleanPort main
    have pointer := pointing_eq_some.mpr entry
    rw [run_takeDisconnected_closed (s := (withoutNulls s).registry) pointer object closed] at after
    simpa only [withoutNulls, settleMain, settle, pointing_erase] using after
  | join main ended =>
    obtain ⟨port, ofPort, -⟩ := consistent.inPlace.joining _ _ main
    obtain ⟨client, object, -⟩ := portOf_eq_some.mp ofPort
    have after := consistent.join main ended
    rw [run_delete (s := (withoutNulls s).registry) object] at after
    exact after
  | endCleanup main => exact consistent.endCleanup main
  | goesBack _ main => exact consistent.goesBack main
  | @newClient port channel main vacant =>
    have absent : (withoutNulls s).registry.clients port = none := pointing_eq_none_iff.mpr vacant
    have nobody : (withoutNulls s).getClientConnectedToPort port = none := by
      rw [getClientConnectedToPort, absent]
      rfl
    exact consistent.newClient main nobody channel
  | register main free object =>
    have after := consistent.register main free
    rw [run_onConnected_free (s := (withoutNulls s).registry) free object] at after
    simpa only [withoutNulls, settleMain, settle, pointing_insert] using after
  | serve here object =>
    have after := consistent.serve here
    rw [run_isConnected (s := (withoutNulls s).registry) object] at after
    exact after
  | lose here object =>
    have after := consistent.lose here
    rw [run_close (s := (withoutNulls s).registry) object] at after
    exact after
  | report here free object =>
    have after := consistent.report here free
    rw [run_onDisconnected_free (s := (withoutNulls s).registry) free object] at after
    exact after
  | finish here object =>
    have after := consistent.finish here
    rw [run_dereference (s := (withoutNulls s).registry) object] at after
    exact after
  | perform free same =>
    simp only [withoutNulls, same]
    exact consistent
  | relock free object => exact consistent.relocked object

theorem stepTo_of_step (consistent : Consistent (withoutNulls s)) (stepped : s.step event = some next) :
    next.fault.isSome ∨ StepTo s event next := by
  cases (of_step stepped).2 with
  | accept main free => exact .inr (.accept main free)
  | cleanPort main =>
    obtain ⟨address, client, entry, object, rfl, closed⟩ := consistent.toTake main
    have pointer := pointing_eq_some.mp entry
    rw [run_takeDisconnected_closed (s := s.registry) pointer object closed]
    exact .inr (.cleanPort main pointer object closed)
  | join main ended =>
    obtain ⟨port, ofPort, -⟩ := consistent.inPlace.joining _ _ main
    obtain ⟨client, object, -⟩ := portOf_eq_some.mp ofPort
    rw [run_delete (s := s.registry) object]
    exact .inr (.join main ended)
  | endCleanup main => exact .inr (.endCleanup main)
  | refuse main => exact .inr (.goesBack (.inl rfl) main)
  | occupied main => exact .inr (.goesBack (.inr ⟨_, _, rfl⟩) main)
  | newClient main vacant => exact .inr (.newClient main vacant)
  | register main free =>
    obtain ⟨port, ofPort, -⟩ := consistent.inPlace.registering _ main
    obtain ⟨client, object, -⟩ := portOf_eq_some.mp ofPort
    rw [run_onConnected_free (s := s.registry) free object]
    exact .inr (.register main free object)
  | serve here =>
    obtain ⟨client, object⟩ := consistent.object here (by decide)
    rw [run_isConnected (s := s.registry) object]
    exact .inr (.serve here object)
  | lose here =>
    obtain ⟨client, object⟩ := consistent.object here (by decide)
    rw [run_close (s := s.registry) object]
    exact .inr (.lose here object)
  | report here free =>
    obtain ⟨client, object⟩ := consistent.object here (by decide)
    rw [run_onDisconnected_free (s := s.registry) free object]
    exact .inr (.report here free object)
  | finish here =>
    obtain ⟨client, object⟩ := consistent.object here (by decide)
    rw [run_dereference (s := s.registry) object]
    exact .inr (.finish here object)
  | @perform operation results other free =>
    have registered : RegisteredOrNull s.registry := by
      intro port address entry
      obtain ⟨client, object, -⟩ := portOf_eq_some.mp (portOf_of_entry consistent entry)
      exact ⟨client, object⟩
    have performed := performed_perform registered free results other
    generalize (operation.perform results).run s.registry = result at performed
    cases performed with
    | returns same => exact .inr (.perform free same)
    | relocks object => exact .inr (.relock free object)
    | follows left => exact .inl rfl

/-- In every run a null pointer has been followed, or the entries that point to clients are consistent. -/
theorem consistent_of_run {events : List RegistryEvent} (run : Run RegistrySystem.step Always start events s) :
    s.fault.isSome ∨ Consistent (withoutNulls s) := by
  refine run.invariant (P := fun s => s.fault.isSome ∨ Consistent (withoutNulls s)) ?_ (.inr ?_)
  · rintro s event next (faulty | consistent) - stepped
    · simp [RegistrySystem.step, faulty] at stepped
    · exact (stepTo_of_step consistent stepped).imp id fun stepTo => stepTo.consistent consistent
  · exact consistent_start

end S3tp.Soundness
