import S3tp.Model.Concurrent.RegistrySystem

/-! # Safety of the registry

Only the main thread creates, registers and deletes clients. A client stays registered from its
constructor to its cleanup, reports once, and is deleted when its thread has ended. What can go wrong is
the delivery of a message for a port without a client: `clients[port]` then adds a null entry, which the
next announcement follows.
-/

namespace S3tp.Soundness

open Machine Model.Core Model.Concurrent Model.Concurrent.RegistrySystem

variable {s next : RegistrySystem} {event : RegistryEvent} {address : ℕ} {client : Client} {port : UInt8}

/-! ## The invariant -/

/-- The port of the object at the address. -/
def portOf (s : RegistrySystem) (address : ℕ) : Option UInt8 := (s.registry.heap address).map Client.appPort

/-- The ports that the running cleanup, or else the next one, has still to do. -/
def toClean (s : RegistrySystem) : List UInt8 :=
  match s.main with
  | .cleaning ports | .joining _ ports => ports
  | _ => s.registry.disconnectedClients

/-- The main thread is in the cleanup. -/
def Cleaning (s : RegistrySystem) : Prop :=
  match s.main with
  | .cleaning _ | .joining _ _ => True
  | _ => False

/-- The object is where the main thread keeps it: in the map, or in its hands. -/
inductive Located (s : RegistrySystem) (address : ℕ) (port : UInt8) : Prop
  | registered (entry : s.registry.clients port = some (some address))
  | registering (main : s.main = .registering address)
  | joining (ports : List UInt8) (main : s.main = .joining address ports)

/-- What holds of the main thread's place. -/
structure InPlace (s : RegistrySystem) : Prop where
  notStuck : s.main ≠ .stuck
  locks : Cleaning s → s.registry.clientsMutexHeld = true
  registering : ∀ address, s.main = .registering address → ∃ port, portOf s address = some port ∧
    s.registry.clients port = none
  joining : ∀ address ports, s.main = .joining address ports → ∃ port, portOf s address = some port ∧
    s.registry.clients port = none ∧ port ∉ ports

structure Consistent (s : RegistrySystem) : Prop where
  noFault : s.fault = none
  keyed : ∀ port cli, s.registry.clients port = some cli → ∃ address, cli = some address ∧ portOf s address = some port
  inPlace : InPlace s
  located : ∀ address port, portOf s address = some port → Located s address port
  fresh : ∀ address, s.nextAddress ≤ address → portOf s address = none
  alive : ∀ address place, s.thread address = some place → place ≠ .finished → (portOf s address).isSome
  silent : ∀ address place client, s.thread address = some place → place ≠ .running →
    s.registry.heap address = some client → client.connected = false
  listed : ∀ port ∈ toClean s, ∃ address, portOf s address = some port ∧
    (s.thread address = some .reported ∨ s.thread address = some .finished)
  nodup : (toClean s).Nodup

theorem consistent_start : Consistent start where
  noFault := rfl
  keyed := nofun
  inPlace := ⟨nofun, nofun, nofun, nofun⟩
  located := nofun
  fresh _ _ := rfl
  alive := nofun
  silent := nofun
  listed := nofun
  nodup := List.nodup_nil

theorem portOf_eq_some : portOf s address = some port ↔
    ∃ client, s.registry.heap address = some client ∧ client.appPort = port := Option.map_eq_some_iff

namespace Consistent

theorem safe (consistent : Consistent s) : s.Safe where
  noFault := consistent.noFault
  noNull port null := by
    obtain ⟨_, pointer, -⟩ := consistent.keyed port none null
    contradiction

theorem registered (consistent : Consistent s) : s.registry.Registered := by
  intro port cli entry
  obtain ⟨address, rfl, ofPort⟩ := consistent.keyed port cli entry
  obtain ⟨client, object, same⟩ := portOf_eq_some.mp ofPort
  exact ⟨address, client, rfl, object, same⟩

theorem object (consistent : Consistent s) {place : ThreadPlace} (here : s.thread address = some place)
    (unfinished : place ≠ .finished) : ∃ client, s.registry.heap address = some client := by
  obtain ⟨port, ofPort⟩ := Option.isSome_iff_exists.mp (consistent.alive address place here unfinished)
  obtain ⟨client, object, -⟩ := portOf_eq_some.mp ofPort
  exact ⟨client, object⟩

/-- No two objects belong to one port. -/
theorem unique (consistent : Consistent s) {other : ℕ} (ofPort : portOf s address = some port)
    (ofPort' : portOf s other = some port) : address = other := by
  -- The main thread's own client is not in the map, and neither is another one of its port.
  have unregistered {a : ℕ} (main : s.main = .registering a ∨ ∃ ports, s.main = .joining a ports)
      (ofPort : portOf s a = some port) : s.registry.clients port = none := by
    have absent : ∃ port', portOf s a = some port' ∧ s.registry.clients port' = none := by
      rcases main with main | ⟨ports, main⟩
      · exact consistent.inPlace.registering a main
      · obtain ⟨port', ofPort', absent, -⟩ := consistent.inPlace.joining a ports main
        exact ⟨port', ofPort', absent⟩
    obtain ⟨port', ofPort', absent⟩ := absent
    rw [ofPort, Option.some.injEq] at ofPort'
    rw [ofPort']
    exact absent
  cases consistent.located address port ofPort with
  | registered entry =>
    cases consistent.located other port ofPort' with
    | registered entry' =>
      rw [entry'] at entry
      exact (Option.some.inj (Option.some.inj entry)).symm
    | registering main' => simp [unregistered (.inl main') ofPort'] at entry
    | joining ports main' => simp [unregistered (.inr ⟨ports, main'⟩) ofPort'] at entry
  | registering main =>
    cases consistent.located other port ofPort' with
    | registered entry' => simp [unregistered (.inl main) ofPort] at entry'
    | registering main' =>
      rw [main, MainPlace.registering.injEq] at main'
      exact main'
    | joining ports main' => simp [main] at main'
  | joining ports main =>
    cases consistent.located other port ofPort' with
    | registered entry' => simp [unregistered (.inr ⟨ports, main⟩) ofPort] at entry'
    | registering main' => simp [main] at main'
    | joining ports' main' =>
      rw [main, MainPlace.joining.injEq] at main'
      exact main'.1

/-! ## Steps that move nothing -/

/-- What depends on the ports of the objects only is kept when these are. -/
theorem of_same {s next : RegistrySystem} (consistent : Consistent s) (noFault : next.fault = none)
    (main : next.main = s.main) (clients : next.registry.clients = s.registry.clients)
    (ports : ∀ address, portOf next address = portOf s address) (nextAddress : next.nextAddress = s.nextAddress)
    (locks : Cleaning s → next.registry.clientsMutexHeld = true)
    (alive : ∀ address place, next.thread address = some place → place ≠ .finished → (portOf s address).isSome)
    (silent : ∀ address place client, next.thread address = some place → place ≠ .running →
      next.registry.heap address = some client → client.connected = false)
    (listed : ∀ port ∈ toClean next, ∃ address, portOf s address = some port ∧
      (next.thread address = some .reported ∨ next.thread address = some .finished))
    (nodup : (toClean next).Nodup) : Consistent next where
  noFault := noFault
  keyed := by simpa only [clients, ports] using consistent.keyed
  inPlace := by
    obtain ⟨notStuck, -, registering, joining⟩ := consistent.inPlace
    refine ⟨by rwa [main], ?_, by simpa only [main, clients, ports] using registering,
      by simpa only [main, clients, ports] using joining⟩
    intro cleaning
    apply locks
    rwa [Cleaning, main] at cleaning
  located := by
    intro address port ofPort
    rw [ports] at ofPort
    cases consistent.located address port ofPort with
    | registered entry => exact .registered (by rwa [clients])
    | registering here => exact .registering (by rwa [main])
    | joining left here => exact .joining left (by rwa [main])
  fresh := by simpa only [nextAddress, ports] using consistent.fresh
  alive := by simpa only [ports] using alive
  silent := silent
  listed := by simpa only [ports] using listed
  nodup := nodup

/-! ## Announcements and deliveries -/

theorem portOf_disconnect {registry : Registry} (heap : registry.heap = s.registry.heap)
    (object : s.registry.heap address = some client) (other : ℕ) :
    portOf { s with registry := registry.disconnect address client } other = portOf s other := by
  change (Function.update registry.heap address _ other).map _ = (s.registry.heap other).map _
  rw [heap]
  rcases Classical.em (other = address) with rfl | different
  · rw [Function.update_self, object]
    rfl
  · rw [Function.update_of_ne different]

/-- Where an object was connected, or not, after another one has closed its connection. -/
theorem connected_of_disconnect {registry : Registry} (heap : registry.heap = s.registry.heap) {other : ℕ}
    {client' : Client} (object' : (registry.disconnect address client).heap other = some client') :
    client'.connected = false ∨ s.registry.heap other = some client' := by
  change Function.update registry.heap address _ other = _ at object'
  rcases Classical.em (other = address) with rfl | different
  · rw [Function.update_self, Option.some.injEq] at object'
    exact .inl (object' ▸ rfl)
  · rw [Function.update_of_ne different, heap] at object'
    exact .inr object'

/-- A client has closed its connection, and the thread that made it do so locks the mutex again. -/
theorem relocked (consistent : Consistent s) (object : s.registry.heap address = some client) :
    Consistent { s with registry := { s.registry with clientsMutexHeld := true }.disconnect address client } := by
  refine consistent.of_same consistent.noFault rfl rfl (portOf_disconnect rfl object) rfl (fun _ => rfl)
    consistent.alive ?_ consistent.listed consistent.nodup
  intro other place client' here notRunning object'
  rcases connected_of_disconnect rfl object' with closed | before
  · exact closed
  · exact consistent.silent other place client' here notRunning before

theorem perform (consistent : Consistent s) {operation : RegistryOperation} {results : ClientPtr → WriteResults}
    (onlyWrites : operation.OnlyWrites s.registry) (free : s.registry.clientsMutexHeld = false) :
    Consistent (s.settle (fun _ next => next) ((operation.perform results).run s.registry)) := by
  rcases run_perform consistent.registered free results onlyWrites with ⟨-, run⟩ | ⟨-, address, client, object, run⟩
  · rw [run]
    exact consistent
  · rw [run]
    exact consistent.relocked object

/-! ## The threads of the clients -/

/-- A client's thread goes on to another place. -/
theorem of_thread (consistent : Consistent s) {place place' : ThreadPlace} (here : s.thread address = some place)
    (unfinished : place ≠ .finished) (reported : place = .reported → place' = .finished)
    (thread : next.thread = Function.update s.thread address (some place')) (noFault : next.fault = none)
    (main : next.main = s.main) (clients : next.registry.clients = s.registry.clients)
    (ports : ∀ address, portOf next address = portOf s address) (nextAddress : next.nextAddress = s.nextAddress)
    (locks : Cleaning s → next.registry.clientsMutexHeld = true)
    (closes : ∀ other client, next.registry.heap other = some client →
      client.connected = false ∨ s.registry.heap other = some client)
    (silent : place' ≠ .running → ∀ client, next.registry.heap address = some client → client.connected = false)
    (listed : ∀ port ∈ toClean next, port ∈ toClean s ∨ (portOf s address = some port ∧ place' = .reported))
    (nodup : (toClean next).Nodup) : Consistent next := by
  refine consistent.of_same noFault main clients ports nextAddress locks ?_ ?_ ?_ nodup
  · intro other place here' unfinished'
    rw [thread] at here'
    rcases Classical.em (other = address) with rfl | different
    · exact consistent.alive other _ here unfinished
    · rw [Function.update_of_ne different] at here'
      exact consistent.alive other place here' unfinished'
  · intro other place client here' notRunning object
    rw [thread] at here'
    rcases Classical.em (other = address) with rfl | different
    · rw [Function.update_self, Option.some.injEq] at here'
      exact silent (here' ▸ notRunning) client object
    · rw [Function.update_of_ne different] at here'
      rcases closes other client object with closed | before
      · exact closed
      · exact consistent.silent other place client here' notRunning before
  · intro port member
    rcases listed port member with before | ⟨ofPort, isReported⟩
    · obtain ⟨other, ofPort, done⟩ := consistent.listed port before
      refine ⟨other, ofPort, ?_⟩
      rw [thread]
      rcases Classical.em (other = address) with rfl | different
      · rw [Function.update_self]
        rcases done with isReported | isFinished
        · rw [here, Option.some.injEq] at isReported
          exact .inr (congrArg _ (reported isReported))
        · rw [here, Option.some.injEq] at isFinished
          exact absurd isFinished unfinished
      · rwa [Function.update_of_ne different]
    · refine ⟨address, ofPort, .inl ?_⟩
      rw [thread, Function.update_self, isReported]

theorem serve (consistent : Consistent s) (here : s.thread address = some .running) :
    Consistent (s.settleThread address (fun connected => if connected then .running else .finished)
      ((Client.isConnected (some address)).run s.registry)) := by
  obtain ⟨client, object⟩ := consistent.object here (by decide)
  rw [run_isConnected object]
  refine consistent.of_thread here (by decide) nofun rfl consistent.noFault rfl rfl (fun _ => rfl) rfl
    consistent.inPlace.locks (fun _ _ object => .inr object) ?_ (fun _ member => .inl member) consistent.nodup
  intro notRunning client' object'
  have same : client = client' := Option.some.inj (object.symm.trans object')
  cases connected : client.connected with
  | true => simp [connected] at notRunning
  | false => rw [← same, connected]

theorem lose (consistent : Consistent s) (here : s.thread address = some .running) :
    Consistent (s.settleThread address (fun _ => .closing) ((Client.close (some address)).run s.registry)) := by
  obtain ⟨client, object⟩ := consistent.object here (by decide)
  rw [run_close object]
  refine consistent.of_thread here (by decide) nofun rfl consistent.noFault rfl rfl (portOf_disconnect rfl object) rfl
    consistent.inPlace.locks (fun _ _ => connected_of_disconnect rfl) ?_ (fun _ member => .inl member) consistent.nodup
  intro _ client' object'
  change Function.update s.registry.heap address _ address = _ at object'
  rw [Function.update_self, Option.some.injEq] at object'
  rw [← object']

theorem finish (consistent : Consistent s) (here : s.thread address = some .reported) :
    Consistent (s.settleThread address (fun _ => .finished) ((dereference (some address)).run s.registry)) := by
  obtain ⟨client, object⟩ := consistent.object here (by decide)
  rw [run_dereference object]
  refine consistent.of_thread here (by decide) (fun _ => rfl) rfl consistent.noFault rfl rfl (fun _ => rfl) rfl
    consistent.inPlace.locks (fun _ _ object => .inr object) ?_ (fun _ member => .inl member) consistent.nodup
  exact fun _ client' object' => consistent.silent address _ client' here (by decide) object'

theorem toClean_of_outside (outside : ¬ Cleaning s) : toClean s = s.registry.disconnectedClients := by
  rw [toClean]
  split
  · next main => exact absurd (by rw [Cleaning, main]; trivial) outside
  · next main => exact absurd (by rw [Cleaning, main]; trivial) outside
  · rfl

/-- A client that reports has not reported before. -/
theorem report (consistent : Consistent s) (here : s.thread address = some .closing)
    (free : s.registry.clientsMutexHeld = false) :
    Consistent (s.settleThread address (fun _ => .reported) ((onDisconnected (some address)).run s.registry)) := by
  obtain ⟨client, object⟩ := consistent.object here (by decide)
  have outside : ¬ Cleaning s := fun cleaning => by simp [consistent.inPlace.locks cleaning] at free
  have ofPort : portOf s address = some client.appPort := portOf_eq_some.mpr ⟨client, object, rfl⟩
  have before := toClean_of_outside outside
  have fresh : client.appPort ∉ toClean s := by
    intro member
    obtain ⟨other, ofPort', done⟩ := consistent.listed _ member
    obtain rfl := consistent.unique ofPort ofPort'
    simp [here] at done
  rw [run_onDisconnected_free free object]
  have after : toClean (s.settleThread address (fun _ => .reported) (.ok ()
      { s.registry with disconnectedClients := s.registry.disconnectedClients ++ [client.appPort],
                        clientsMutexHeld := false })) = toClean s ++ [client.appPort] := by
    rw [before]
    exact toClean_of_outside outside
  refine consistent.of_thread here (by decide) nofun rfl consistent.noFault rfl rfl (fun _ => rfl) rfl
    (fun cleaning => absurd cleaning outside) (fun _ _ object => .inr object) ?_ ?_ ?_
  · exact fun _ client' object' => consistent.silent address _ client' here (by decide) object'
  · intro port member
    rw [after, List.mem_append, List.mem_singleton] at member
    rcases member with earlier | rfl
    · exact .inl earlier
    · exact .inr ⟨ofPort, rfl⟩
  · rw [after]
    exact List.nodup_append_comm.mp (List.nodup_cons.mpr ⟨fresh, consistent.nodup⟩)

/-! ## The main thread -/

/-- The main thread has no client in its hands. -/
def EmptyHanded : MainPlace → Prop
  | .listening | .handshaking | .cleaning _ => True
  | .joining _ _ | .registering _ | .stuck => False

theorem entry (consistent : Consistent s) (empty : EmptyHanded s.main) (ofPort : portOf s address = some port) :
    s.registry.clients port = some (some address) := by
  cases consistent.located address port ofPort with
  | registered entry => exact entry
  | registering main => exact (main ▸ empty : EmptyHanded (.registering address)).elim
  | joining ports main => exact (main ▸ empty : EmptyHanded (.joining address ports)).elim

theorem inPlace_of_emptyHanded (empty : EmptyHanded next.main)
    (locks : Cleaning next → next.registry.clientsMutexHeld = true) : InPlace next where
  notStuck stuck := by simp [stuck, EmptyHanded] at empty
  locks := locks
  registering address main := by simp [main, EmptyHanded] at empty
  joining address ports main := by simp [main, EmptyHanded] at empty

/-- The main thread goes on and leaves the clients as they are. -/
theorem of_emptyHanded (consistent : Consistent s) (empty : EmptyHanded s.main) (empty' : EmptyHanded next.main)
    (noFault : next.fault = none) (clients : next.registry.clients = s.registry.clients)
    (heap : next.registry.heap = s.registry.heap) (thread : next.thread = s.thread)
    (nextAddress : next.nextAddress = s.nextAddress) (locks : Cleaning next → next.registry.clientsMutexHeld = true)
    (left : toClean next = toClean s ∨ toClean next = []) : Consistent next := by
  have ports (address : ℕ) : portOf next address = portOf s address := by rw [portOf, heap, portOf]
  refine ⟨noFault, ?_, inPlace_of_emptyHanded empty' locks, ?_, ?_, ?_, ?_, ?_, ?_⟩
  · simpa only [clients, ports] using consistent.keyed
  · intro address port ofPort
    rw [ports] at ofPort
    exact .registered (by rw [clients]; exact consistent.entry empty ofPort)
  · simpa only [nextAddress, ports] using consistent.fresh
  · simpa only [thread, ports] using consistent.alive
  · simpa only [thread, heap] using consistent.silent
  · intro port member
    rcases left with same | none
    · simpa only [ports, thread] using consistent.listed port (same ▸ member)
    · simp [none] at member
  · rcases left with same | none
    · exact same ▸ consistent.nodup
    · exact none ▸ List.nodup_nil

/-- The first port has a client, which has closed its connection. -/
theorem toTake (consistent : Consistent s) {ports : List UInt8} (main : s.main = .cleaning (port :: ports)) :
    ∃ address client, s.registry.clients port = some (some address) ∧ s.registry.heap address = some client ∧
      client.appPort = port ∧ client.connected = false := by
  have left : toClean s = port :: ports := by rw [toClean, main]
  obtain ⟨address, ofPort, done⟩ := consistent.listed port (by simp [left])
  have empty : EmptyHanded s.main := by rw [main]; trivial
  obtain ⟨client, object, same⟩ := portOf_eq_some.mp ofPort
  refine ⟨address, client, consistent.entry empty ofPort, object, same, ?_⟩
  rcases done with reported | finished
  · exact consistent.silent address _ client reported (by decide) object
  · exact consistent.silent address _ client finished (by decide) object

/-- That client is taken out of the map. -/
theorem cleanPort (consistent : Consistent s) {ports : List UInt8} (main : s.main = .cleaning (port :: ports)) :
    Consistent (s.settleMain (fun
      | none => .cleaning ports
      | some address => .joining address ports) ((takeDisconnected port).run s.registry)) := by
  have left : toClean s = port :: ports := by rw [toClean, main]
  have nodup := consistent.nodup
  rw [left, List.nodup_cons] at nodup
  have empty : EmptyHanded s.main := by rw [main]; trivial
  obtain ⟨address, client, entry, object, rfl, closed⟩ := consistent.toTake main
  have ofPort : portOf s address = some client.appPort := portOf_eq_some.mpr ⟨client, object, rfl⟩
  rw [run_takeDisconnected_closed entry object closed]
  refine ⟨consistent.noFault, ?_, ⟨nofun, ?_, nofun, ?_⟩, ?_, consistent.fresh, consistent.alive, consistent.silent, ?_,
    nodup.2⟩
  · intro other cli entry'
    rcases Classical.em (other = client.appPort) with rfl | different
    · simp [RegistrySystem.settleMain, RegistrySystem.settle] at entry'
    · exact consistent.keyed other cli ((ByteMap.erase_of_ne _ different).symm.trans entry')
  · intro _
    apply consistent.inPlace.locks
    rw [Cleaning, main]
    trivial
  · intro other left' main'
    obtain ⟨rfl, rfl⟩ := MainPlace.joining.inj main'
    exact ⟨client.appPort, ofPort, ByteMap.erase_self _ _, nodup.1⟩
  · intro other port' ofPort'
    rcases Classical.em (port' = client.appPort) with rfl | different
    · have entry' : s.registry.clients client.appPort = some (some other) := consistent.entry empty ofPort'
      rw [entry] at entry'
      obtain rfl := Option.some.inj (Option.some.inj entry')
      exact .joining ports rfl
    · exact .registered ((ByteMap.erase_of_ne _ different).trans (consistent.entry empty ofPort'))
  · intro port' member
    exact consistent.listed port' (by simp [left, show port' ∈ ports from member])

/-- The client the main thread has taken out is deleted. -/
theorem join (consistent : Consistent s) {ports : List UInt8} (main : s.main = .joining address ports)
    (ended : s.thread address = some .finished) :
    Consistent (s.settleMain (fun _ => .cleaning ports) ((delete (some address)).run s.registry)) := by
  have left : toClean s = ports := by rw [toClean, main]
  obtain ⟨port, ofPort, absent, notLeft⟩ := consistent.inPlace.joining address ports main
  obtain ⟨client, object, rfl⟩ := portOf_eq_some.mp ofPort
  rw [run_delete object]
  set next : RegistrySystem :=
    s.settleMain (fun _ => .cleaning ports) (.ok () (s.registry.assign address none)) with isNext
  have gone : portOf next address = none := by
    change (Function.update s.registry.heap address none address).map _ = none
    rw [Function.update_self]
    rfl
  have kept {other : ℕ} (different : other ≠ address) : portOf next other = portOf s other := by
    change (Function.update s.registry.heap address none other).map _ = (s.registry.heap other).map _
    rw [Function.update_of_ne different]
  have survives {other : ℕ} {port : UInt8} (ofPort : portOf next other = some port) :
      other ≠ address ∧ portOf s other = some port := by
    rcases Classical.em (other = address) with rfl | different
    · simp [gone] at ofPort
    · exact ⟨different, kept different ▸ ofPort⟩
  have nodup : (toClean next).Nodup := by
    change ports.Nodup
    exact left ▸ consistent.nodup
  refine ⟨consistent.noFault, ?_, inPlace_of_emptyHanded trivial ?_, ?_, ?_, ?_, ?_, ?_, nodup⟩
  · intro port cli entry
    obtain ⟨other, rfl, ofPort'⟩ := consistent.keyed port cli entry
    refine ⟨other, rfl, ?_⟩
    rw [kept]
    · exact ofPort'
    · rintro rfl
      rw [ofPort, Option.some.injEq] at ofPort'
      have present : s.registry.clients client.appPort = some (some other) := ofPort' ▸ entry
      simp [absent] at present
  · intro _
    apply consistent.inPlace.locks
    rw [Cleaning, main]
    trivial
  · intro other port ofPort'
    obtain ⟨different, before⟩ := survives ofPort'
    cases consistent.located other port before with
    | registered entry => exact .registered entry
    | registering main' => simp [main] at main'
    | joining ports' main' =>
      rw [main, MainPlace.joining.injEq] at main'
      exact absurd main'.1.symm different
  · intro other later
    rcases Classical.em (other = address) with rfl | different
    · exact gone
    · exact (kept different).trans (consistent.fresh other later)
  · intro other place here unfinished
    rw [kept]
    · exact consistent.alive other place here unfinished
    · rintro rfl
      rw [show s.thread other = some place from here, Option.some.injEq] at ended
      exact unfinished ended
  · intro other place client' here notRunning object'
    have different : other ≠ address := by
      rintro rfl
      simp [portOf, object'] at gone
    refine consistent.silent other place client' here notRunning ?_
    exact (Function.update_of_ne different ..).symm.trans object'
  · intro port' member
    obtain ⟨other, ofPort', done⟩ := consistent.listed port' (left ▸ member)
    refine ⟨other, ?_, done⟩
    rw [kept]
    · exact ofPort'
    · rintro rfl
      rw [ofPort, Option.some.injEq] at ofPort'
      exact notLeft (ofPort' ▸ member)

/-- A client is created for a port without one. -/
theorem newClient (consistent : Consistent s) (main : s.main = .handshaking)
    (vacant : s.getClientConnectedToPort port = none) (channel : UInt8) : Consistent (s.newClient port channel) := by
  have empty : EmptyHanded s.main := by rw [main]; trivial
  have new : portOf s s.nextAddress = none := consistent.fresh _ le_rfl
  have absent : s.registry.clients port = none := by
    cases entry : s.registry.clients port with
    | none => rfl
    | some cli =>
      obtain ⟨address, rfl, -⟩ := consistent.keyed port cli entry
      simp [getClientConnectedToPort, entry] at vacant
  set next := s.newClient port channel with isNext
  have heap (other : ℕ) : next.registry.heap other = Function.update s.registry.heap s.nextAddress
      (some { appPort := port, virtualChannel := channel }) other := rfl
  have created : portOf next s.nextAddress = some port := by rw [portOf, heap, Function.update_self]; rfl
  have kept {other : ℕ} (different : other ≠ s.nextAddress) : portOf next other = portOf s other := by
    rw [portOf, heap, Function.update_of_ne different]
    rfl
  have older {other : ℕ} {port : UInt8} (ofPort : portOf s other = some port) : other ≠ s.nextAddress := by
    rintro rfl
    simp [new] at ofPort
  refine ⟨consistent.noFault, ?_, ⟨nofun, nofun, ?_, nofun⟩, ?_, ?_, ?_, ?_, ?_, ?_⟩
  · intro port cli entry
    obtain ⟨other, rfl, ofPort⟩ := consistent.keyed port cli entry
    exact ⟨other, rfl, (kept (older ofPort)).trans ofPort⟩
  · intro other main'
    obtain rfl := MainPlace.registering.inj main'
    exact ⟨port, created, absent⟩
  · intro other port' ofPort
    rcases Classical.em (other = s.nextAddress) with rfl | different
    · exact .registering rfl
    · exact .registered (consistent.entry empty ((kept different).symm.trans ofPort))
  · intro other later
    have after : s.nextAddress < other := later
    exact (kept after.ne').trans (consistent.fresh other after.le)
  · intro other place here unfinished
    rcases Classical.em (other = s.nextAddress) with rfl | different
    · exact Option.isSome_of_eq_some created
    · rw [kept different]
      exact consistent.alive other place ((Function.update_of_ne different ..).symm.trans here) unfinished
  · intro other place client here notRunning object
    rcases Classical.em (other = s.nextAddress) with rfl | different
    · rw [show next.thread = Function.update s.thread s.nextAddress _ from rfl, Function.update_self,
        Option.some.injEq] at here
      exact absurd here.symm notRunning
    · exact consistent.silent other place client ((Function.update_of_ne different ..).symm.trans here) notRunning
        ((Function.update_of_ne different ..).symm.trans object)
  · intro port' member
    have before : port' ∈ toClean s := by
      rw [toClean, main]
      exact member
    obtain ⟨other, ofPort, done⟩ := consistent.listed port' before
    have different := older ofPort
    refine ⟨other, (kept different).trans ofPort, ?_⟩
    rwa [show next.thread other = s.thread other from Function.update_of_ne different ..]
  · have nodup := consistent.nodup
    rw [toClean, main] at nodup
    exact nodup

/-- The new client is registered. -/
theorem register (consistent : Consistent s) (main : s.main = .registering address)
    (free : s.registry.clientsMutexHeld = false) :
    Consistent (s.settleMain (fun _ => .listening) ((onConnected (some address)).run s.registry)) := by
  obtain ⟨port, ofPort, absent⟩ := consistent.inPlace.registering address main
  obtain ⟨client, object, rfl⟩ := portOf_eq_some.mp ofPort
  rw [run_onConnected_free free object]
  refine ⟨consistent.noFault, ?_, inPlace_of_emptyHanded trivial nofun, ?_, consistent.fresh, consistent.alive,
    consistent.silent, ?_, ?_⟩
  · intro port' cli entry
    rcases Classical.em (port' = client.appPort) with rfl | different
    · have isNew : some (some address) = some cli := (ByteMap.insert_self _ _ _).symm.trans entry
      obtain rfl := Option.some.inj isNew
      exact ⟨address, rfl, ofPort⟩
    · exact consistent.keyed port' cli ((ByteMap.insert_of_ne _ _ different).symm.trans entry)
  · intro other port' ofPort'
    cases consistent.located other port' ofPort' with
    | registered entry =>
      have different : port' ≠ client.appPort := by
        rintro rfl
        simp [absent] at entry
      exact .registered ((ByteMap.insert_of_ne _ _ different).trans entry)
    | registering main' =>
      rw [main, MainPlace.registering.injEq] at main'
      subst main'
      have same : some client.appPort = some port' := ofPort.symm.trans ofPort'
      obtain rfl := Option.some.inj same
      exact .registered (ByteMap.insert_self _ _ _)
    | joining ports main' => simp [main] at main'
  · intro port' member
    have before : port' ∈ toClean s := by
      rw [toClean, main]
      exact member
    exact consistent.listed port' before
  · have nodup := consistent.nodup
    rw [toClean, main] at nodup
    exact nodup

/-- The connection is refused. -/
theorem goesBack (consistent : Consistent s) (main : s.main = .handshaking) :
    Consistent { s with main := .listening } := by
  have empty : EmptyHanded s.main := by rw [main]; trivial
  have before : toClean s = s.registry.disconnectedClients := by rw [toClean, main]
  exact consistent.of_emptyHanded empty trivial consistent.noFault rfl rfl rfl rfl nofun (.inl before.symm)

/-- The cleanup begins. -/
theorem accept (consistent : Consistent s) (main : s.main = .listening) :
    Consistent { s with registry := { s.registry with clientsMutexHeld := true }
                        main := .cleaning s.registry.disconnectedClients } := by
  have empty : EmptyHanded s.main := by rw [main]; trivial
  have before : toClean s = s.registry.disconnectedClients := by rw [toClean, main]
  exact consistent.of_emptyHanded empty trivial consistent.noFault rfl rfl rfl rfl (fun _ => rfl) (.inl before.symm)

/-- The cleanup is over. -/
theorem endCleanup (consistent : Consistent s) (main : s.main = .cleaning []) :
    Consistent { s with registry := { s.registry with disconnectedClients := [], clientsMutexHeld := false }
                        main := .handshaking } := by
  have empty : EmptyHanded s.main := by rw [main]; trivial
  exact consistent.of_emptyHanded empty trivial consistent.noFault rfl rfl rfl rfl nofun (.inr rfl)

theorem step (consistent : Consistent s) (delivers : s.DeliversToClient event) (stepped : s.step event = some next) :
    Consistent next := by
  cases (of_step stepped).2 with
  | accept main => exact consistent.accept main
  | cleanPort main => exact consistent.cleanPort main
  | join main ended => exact consistent.join main ended
  | endCleanup main => exact consistent.endCleanup main
  | refuse main | occupied main => exact consistent.goesBack main
  | newClient main vacant => exact consistent.newClient main vacant _
  | register main free => exact consistent.register main free
  | serve here => exact consistent.serve here
  | lose here => exact consistent.lose here
  | report here free => exact consistent.report here free
  | finish here => exact consistent.finish here
  | @perform operation results other free =>
    refine consistent.perform ?_ free
    cases operation with
    | cleanupClients => exact absurd rfl other
    | deliverMessage delivery =>
      obtain ⟨address, entry⟩ := delivers
      exact Option.isSome_of_eq_some entry
    | _ => trivial

end Consistent

/-- When messages are delivered only for ports that have clients, no entry is null, no null pointer is
followed, and no client is used or deleted after its deletion. -/
theorem safe_of_deliversToClient (events : List RegistryEvent)
    (run : Run RegistrySystem.step DeliversToClient start events s) : s.Safe :=
  (run.invariant (fun _ _ _ consistent delivers stepped => consistent.step delivers stepped) consistent_start).safe

/-- Any other delivery leaves a null entry. -/
theorem not_safe_of_delivery (consistent : Consistent s) {delivery : Delivery} {results : ClientPtr → WriteResults}
    (nobody : ¬ s.DeliversToClient (.perform (.deliverMessage delivery) results))
    (stepped : s.step (.perform (.deliverMessage delivery) results) = some next) : ¬ next.Safe := by
  have absent : s.registry.clients delivery.port = none := by
    cases entry : s.registry.clients delivery.port with
    | none => rfl
    | some cli =>
      obtain ⟨address, rfl, -⟩ := consistent.keyed _ cli entry
      exact absurd ⟨address, entry⟩ nobody
  cases (of_step stepped).2 with
  | perform other free =>
    have run : ((RegistryOperation.deliverMessage delivery).perform results).run s.registry = _ :=
      run_deliverMessage_absent free absent results
    rw [run]
    exact fun safe => safe.noNull delivery.port (ByteMap.insert_self _ _ _)

/-- A message of one byte for port 5. -/
def toPortFive : Delivery := ⟨some [1], 1, codeSuccess, 5⟩

/-- The writes of a frame succeed. -/
def written : ClientPtr → WriteResults := fun _ => ⟨1, 24, 2⟩

/-- A client connects on port 5 and a message is delivered to it. -/
def delivering : List RegistryEvent :=
  [.accept, .endCleanup, .configure 5 0, .register, .perform (.deliverMessage toPortFive) written]

theorem safe_of_deliversToClient_delivering :
    ∃ s : RegistrySystem, s.registry.clients 5 = some (some 0) ∧ s.Safe := by
  refine ⟨_, ?_, safe_of_deliversToClient delivering (.cons trivial rfl (.cons trivial rfl (.cons trivial rfl
    (.cons trivial rfl (.cons ⟨0, ?_⟩ rfl (.nil _))))))⟩
  · rfl
  · rfl

/-- The client has gone when its message is delivered, and then the link comes up. -/
def leaving : List RegistryEvent :=
  [.accept, .endCleanup, .configure 5 0, .register, .lose 0, .report 0, .finish 0, .accept, .cleanPort, .join,
   .endCleanup, .refuse, .perform (.deliverMessage toPortFive) written,
   .perform .notifyAvailabilityToClients written]

/-- The announcement follows the null entry the delivery has left. -/
theorem not_safe : ¬ ∀ (events : List RegistryEvent) (s : RegistrySystem),
    Run RegistrySystem.step Always start events s → s.Safe := by
  intro safe
  have ends : (leaving.foldlM RegistrySystem.step start).map (·.fault) = some (some .nullDereference) := by
    decide +kernel
  obtain ⟨s, run, fault⟩ := Option.map_eq_some_iff.mp ends
  simpa [fault] using (safe leaving s (Run.always_iff.mpr run)).noFault

end S3tp.Soundness
