import S3tp.Model.Concurrent.Daemon
import S3tp.Soundness.NullEntries

/-! # Open ports and live clients

A client's port is opened by the main thread and closed by the client's thread. Each does so behind its own critical
section, and the client's thread is started first. As long as no client's thread closes the port before the main
thread has opened it, the open ports are those of the clients that are connected.
-/

namespace S3tp.Soundness

open Machine Model.Core Model.Concurrent

variable {s t : Daemon} {r next : RegistrySystem} {event : RegistryEvent} {address : ℕ} {port : UInt8}

/-! ## The property -/

/-- `clients_mutex` is held by a thread that waits for it in `onDisconnected`. -/
def SelfBlocked (r : RegistrySystem) : Prop := r.registry.clientsMutexHeld = true ∧ ¬ Cleaning r

/-- The main thread has just come back from `cleanupClients`, and no callback of a client is in progress: none of
the main thread's, none behind a connection that has been closed, and none that waits for the mutex it holds. -/
structure CleanedUp (s : Daemon) : Prop where
  noFault : s.registry.fault = none
  main : s.registry.main = .handshaking
  opening : s.opening = none
  free : s.registry.registry.clientsMutexHeld = false
  closing : ∀ address, s.registry.thread address ≠ some .closing
  reported : ∀ address, s.registry.thread address ≠ some .reported

/-- A port is open if and only if there is a client for it that is connected. -/
def PortsMatch (s : Daemon) : Prop :=
  ∀ port, (s.rx.openPorts port).isSome ↔ ∃ address client, s.registry.registry.clients port = some (some address) ∧
    s.client address = some client ∧ client.connected = true

/-! ## Who has opened a port -/

/-- The client's `onConnected` has returned. -/
def Established (s : Daemon) (address : ℕ) : Prop :=
  s.registry.main ≠ .registering address ∧ s.opening ≠ some address

/-- The client's thread has not come to its end. -/
def Unfinished (r : RegistrySystem) (address : ℕ) : Prop := ∃ place, r.thread address = some place ∧ place ≠ .finished

/-- The client has opened the port and not closed it yet. -/
structure Opener (s : Daemon) (address : ℕ) (port : UInt8) : Prop where
  ofPort : portOf s.registry address = some port
  established : Established s address
  unfinished : Unfinished s.registry address

/-- A client's `onDisconnected` does not close the port before its `onConnected` has opened it. -/
def OpensFirst (s : Daemon) : DaemonEvent → Prop
  | .registry (.finish address) => Established s address
  | _ => True

structure OpensMatch (s : Daemon) : Prop where
  active : s.rx.active = true
  opener : ∀ port, (s.rx.openPorts port).isSome → SelfBlocked s.registry ∨ ∃ address, Opener s address port
  opens : ∀ address port, Opener s address port → (s.rx.openPorts port).isSome
  pending : ∀ address, ¬ Established s address → SelfBlocked s.registry ∨ Unfinished s.registry address
  opening : ∀ address, s.opening = some address →
    s.registry.main = .listening ∧ (portOf s.registry address).isSome
  begun : ∀ address, (portOf s.registry address).isSome → (s.registry.thread address).isSome
  connected : ∀ address client, s.registry.thread address = some .running → s.client address = some client →
    client.connected = false → SelfBlocked s.registry

namespace OpensMatch

theorem started (fresh : S3tpHeader) : OpensMatch (Daemon.started fresh) where
  active := rfl
  opener port isOpen := by simp [Daemon.started, RxModule.reset, RxModule.startModule] at isOpen
  opens address port opener := by
    have ofPort := opener.ofPort
    simp [Daemon.started, portOf, RegistrySystem.start] at ofPort
  pending address pending := by simp [Daemon.started, Established, RegistrySystem.start] at pending
  opening address pending := by simp [Daemon.started] at pending
  begun address isSome := by simp [Daemon.started, portOf, RegistrySystem.start] at isSome
  connected address client running := by simp [Daemon.started, RegistrySystem.start] at running

/-- A step in which no port is opened or closed, no client comes or goes and no thread comes to its end. -/
theorem of_same (opensMatch : OpensMatch s) (active : t.rx.active = s.rx.active)
    (openPorts : t.rx.openPorts = s.rx.openPorts)
    (ports : ∀ address, portOf t.registry address = portOf s.registry address)
    (established : ∀ address, Established t address ↔ Established s address)
    (unfinished : ∀ address, Unfinished t.registry address ↔ Unfinished s.registry address)
    (blocked : SelfBlocked s.registry → SelfBlocked t.registry)
    (opening : ∀ address, t.opening = some address →
      t.registry.main = .listening ∧ (portOf s.registry address).isSome)
    (begun : ∀ address, (s.registry.thread address).isSome → (t.registry.thread address).isSome)
    (connected : ∀ address client, t.registry.thread address = some .running → t.client address = some client →
      client.connected = false → SelfBlocked t.registry) : OpensMatch t := by
  have opener_iff (address : ℕ) (port : UInt8) : Opener t address port ↔ Opener s address port := by
    constructor
    · rintro ⟨ofPort, isEstablished, isUnfinished⟩
      exact ⟨ports address ▸ ofPort, (established address).mp isEstablished, (unfinished address).mp isUnfinished⟩
    · rintro ⟨ofPort, isEstablished, isUnfinished⟩
      exact ⟨(ports address).trans ofPort, (established address).mpr isEstablished,
        (unfinished address).mpr isUnfinished⟩
  refine ⟨active.trans opensMatch.active, ?_, ?_, ?_, ?_, ?_, connected⟩
  · intro port isOpen
    rw [openPorts] at isOpen
    refine (opensMatch.opener port isOpen).imp blocked ?_
    rintro ⟨address, opener⟩
    exact ⟨address, (opener_iff address port).mpr opener⟩
  · intro address port opener
    rw [openPorts]
    exact opensMatch.opens address port ((opener_iff address port).mp opener)
  · intro address pending
    rw [established] at pending
    exact (opensMatch.pending address pending).imp blocked (unfinished address).mpr
  · simpa only [ports] using opening
  · intro address isSome
    rw [ports] at isSome
    exact begun address (opensMatch.begun address isSome)

/-- In the cleanup, and with the mutex free, no thread waits for itself. -/
theorem connected_of_idle (opensMatch : OpensMatch s) (idle : ¬ SelfBlocked s.registry) {client : Client}
    (running : s.registry.thread address = some .running) (object : s.client address = some client) :
    client.connected = true := by
  by_contra closed
  exact idle (opensMatch.connected address client running object (by simpa using closed))

theorem not_selfBlocked_of_free (free : r.registry.clientsMutexHeld = false) : ¬ SelfBlocked r := by
  simp [SelfBlocked, free]

theorem not_selfBlocked_of_main {place : MainPlace} (main : r.main = place)
    (cleaning : (∃ ports, place = .cleaning ports) ∨ ∃ address ports, place = .joining address ports) :
    ¬ SelfBlocked r := by
  rintro ⟨-, outside⟩
  apply outside
  rw [Cleaning, main]
  rcases cleaning with ⟨ports, rfl⟩ | ⟨address, ports, rfl⟩
  · trivial
  · trivial

theorem not_opening_of_main (opensMatch : OpensMatch s) (main : s.registry.main ≠ .listening) : s.opening = none := by
  cases opening : s.opening with
  | none => rfl
  | some address => exact absurd (opensMatch.opening address opening).1 main

/-- The main thread goes on from a place where no thread waits for itself to one where none does. -/
theorem onMain (opensMatch : OpensMatch s) (idle : ¬ SelfBlocked s.registry) (opening : s.opening = none)
    (heap : next.registry.heap = s.registry.registry.heap) (thread : next.thread = s.registry.thread)
    (main : ∀ address, s.registry.main ≠ .registering address) (main' : ∀ address, next.main ≠ .registering address) :
    OpensMatch { s with registry := next } := by
  have ports (address : ℕ) : portOf next address = portOf s.registry address := by rw [portOf, heap, portOf]
  refine opensMatch.of_same rfl rfl ports ?_ ?_ (fun blocked => absurd blocked idle) ?_ ?_ ?_
  · intro address
    simp [Established, opening, main, main']
  · intro address
    simp only [Unfinished, thread]
  · intro address pending
    simp [opening] at pending
  · intro address begun
    rwa [thread]
  · intro address client running object closed
    rw [thread] at running
    change next.registry.heap address = some client at object
    rw [heap] at object
    exact absurd (opensMatch.connected address client running object closed) idle

/-- The thread of a client goes on, and does not come to its end. -/
theorem onThread (opensMatch : OpensMatch s) {place place' : ThreadPlace}
    (here : s.registry.thread address = some place) (unfinished : place ≠ .finished) (unfinished' : place' ≠ .finished)
    (thread : next.thread = Function.update s.registry.thread address (some place'))
    (ports : ∀ address, portOf next address = portOf s.registry address) (main : next.main = s.registry.main)
    (blocked : SelfBlocked s.registry → SelfBlocked next)
    (connected : ∀ other client, next.thread other = some .running → next.registry.heap other = some client →
      client.connected = false → SelfBlocked next) : OpensMatch { s with registry := next } := by
  refine opensMatch.of_same rfl rfl ports ?_ ?_ blocked ?_ ?_ connected
  · intro other
    simp only [Established, main]
  · intro other
    rcases Classical.em (other = address) with rfl | different
    · simp [Unfinished, thread, here, unfinished, unfinished']
    · simp only [Unfinished, thread, Function.update_of_ne different]
  · intro other pending
    rw [main]
    exact opensMatch.opening other pending
  · intro other begun
    rcases Classical.em (other = address) with rfl | different
    · simp [thread]
    · rwa [thread, Function.update_of_ne different]

/-- The client the main thread has taken out is deleted. Its thread has come to its end. -/
theorem join (opensMatch : OpensMatch s) {ports : List UInt8} (main : s.registry.main = .joining address ports)
    (ended : s.registry.thread address = some .finished) : OpensMatch { s with registry := { s.registry with
      registry := s.registry.registry.assign address none, main := .cleaning ports } } := by
  have idle : ¬ SelfBlocked s.registry := not_selfBlocked_of_main main (.inr ⟨address, ports, rfl⟩)
  have opening := opensMatch.not_opening_of_main (by simp [main])
  set next : Daemon := { s with
    registry := { s.registry with registry := s.registry.registry.assign address none, main := .cleaning ports } }
  have established (other : ℕ) : Established s other ∧ Established next other := by
    simp [Established, opening, main, next]
  have deleted : portOf next.registry address = none := by
    simp [portOf, next, Registry.assign]
  have kept {other : ℕ} (different : other ≠ address) : portOf next.registry other = portOf s.registry other := by
    simp [portOf, next, Registry.assign, different]
  refine ⟨opensMatch.active, ?_, ?_, ?_, ?_, ?_, ?_⟩
  · intro port isOpen
    obtain ⟨other, opener⟩ := (opensMatch.opener port isOpen).resolve_left idle
    have different : other ≠ address := by
      rintro rfl
      obtain ⟨place, here, unfinished⟩ := opener.unfinished
      rw [ended, Option.some.injEq] at here
      exact unfinished here.symm
    exact .inr ⟨other, (kept different).trans opener.ofPort, (established other).2, opener.unfinished⟩
  · intro other port opener
    have different : other ≠ address := by
      rintro rfl
      have ofPort := opener.ofPort
      simp [deleted] at ofPort
    have ofPort := (kept different).symm.trans opener.ofPort
    exact opensMatch.opens other port ⟨ofPort, (established other).1, opener.unfinished⟩
  · intro other pending
    exact absurd (established other).2 pending
  · intro other pending
    simp [next, opening] at pending
  · intro other isSome
    have different : other ≠ address := by
      rintro rfl
      simp [deleted] at isSome
    rw [kept different] at isSome
    exact opensMatch.begun other isSome
  · intro other client running object closed
    have different : other ≠ address := by
      rintro rfl
      simp [Daemon.client, next, Registry.assign] at object
    have before : s.client other = some client := by
      simpa [Daemon.client, next, Registry.assign, different] using object
    exact absurd (opensMatch.connected other client running before closed) idle

/-- A client is created and its thread started. -/
theorem newClient (opensMatch : OpensMatch s) (consistent : Consistent (withoutNulls s.registry)) {channel : UInt8}
    (main : s.registry.main = .handshaking) : OpensMatch { s with registry := s.registry.newClient port channel } := by
  have opening := opensMatch.not_opening_of_main (by simp [main])
  have fresh : portOf s.registry s.registry.nextAddress = none := consistent.fresh _ le_rfl
  set next : Daemon := { s with registry := s.registry.newClient port channel }
  have before (other : ℕ) : Established s other := by simp [Established, opening, main]
  have established (other : ℕ) : Established next other ↔ other ≠ s.registry.nextAddress := by
    simp [Established, opening, next, RegistrySystem.newClient, eq_comm]
  have kept {other : ℕ} (different : other ≠ s.registry.nextAddress) :
      portOf next.registry other = portOf s.registry other := by
    simp [portOf, next, RegistrySystem.newClient, Registry.assign, different]
  have thread {other : ℕ} (different : other ≠ s.registry.nextAddress) :
      next.registry.thread other = s.registry.thread other := by
    simp [next, RegistrySystem.newClient, different]
  have begun : next.registry.thread s.registry.nextAddress = some .running := by
    simp [next, RegistrySystem.newClient]
  have blocked (blocked : SelfBlocked s.registry) : SelfBlocked next.registry := ⟨blocked.1, id⟩
  refine ⟨opensMatch.active, ?_, ?_, ?_, ?_, ?_, ?_⟩
  · intro port' isOpen
    refine (opensMatch.opener port' isOpen).imp blocked ?_
    rintro ⟨other, opener⟩
    have different : other ≠ s.registry.nextAddress := by
      rintro rfl
      have ofPort := opener.ofPort
      simp [fresh] at ofPort
    obtain ⟨place, here, unfinished⟩ := opener.unfinished
    exact ⟨other, (kept different).trans opener.ofPort, (established other).mpr different, place,
      (thread different).trans here, unfinished⟩
  · intro other port' opener
    have different := (established other).mp opener.established
    obtain ⟨place, here, unfinished⟩ := opener.unfinished
    exact opensMatch.opens other port' ⟨(kept different).symm.trans opener.ofPort, before other, place,
      (thread different).symm.trans here, unfinished⟩
  · intro other pending
    rw [established, not_not] at pending
    subst pending
    exact .inr ⟨.running, begun, by decide⟩
  · intro other pending
    simp [next, opening] at pending
  · intro other isSome
    rcases Classical.em (other = s.registry.nextAddress) with rfl | different
    · simp [begun]
    · rw [kept different] at isSome
      rw [thread different]
      exact opensMatch.begun other isSome
  · intro other client running object closed
    rcases Classical.em (other = s.registry.nextAddress) with rfl | different
    · simp [Daemon.client, next, RegistrySystem.newClient, Registry.assign] at object
      simp [← object] at closed
    · rw [thread different] at running
      have object' : s.client other = some client := by
        simpa [Daemon.client, next, RegistrySystem.newClient, Registry.assign, different] using object
      exact blocked (opensMatch.connected other client running object' closed)

/-- A client that finds its connection closed comes to its end, and does not close its port. -/
theorem serve (opensMatch : OpensMatch s) {client : Client} (here : s.registry.thread address = some .running)
    (object : s.client address = some client) {place : ThreadPlace}
    (goes : place = if client.connected then .running else .finished) : OpensMatch { s with
      registry := { s.registry with thread := Function.update s.registry.thread address (some place) } } := by
  subst goes
  cases connected : client.connected with
  | true =>
    refine opensMatch.onThread here (by decide) (by decide) rfl (fun _ => rfl) rfl id ?_
    intro other client' running object' closed
    rcases Classical.em (other = address) with rfl | different
    · exact opensMatch.connected other client' here object' closed
    · exact opensMatch.connected other client' (by simpa [different] using running) object' closed
  | false =>
    have blocked : SelfBlocked s.registry := opensMatch.connected address client here object connected
    have others {other : ℕ} {place : ThreadPlace} (unfinished : place ≠ .finished)
        (there : Function.update s.registry.thread address (some .finished) other = some place) :
        s.registry.thread other = some place := by
      rcases Classical.em (other = address) with rfl | different
      · simp at there
        exact absurd there.symm unfinished
      · simpa [different] using there
    refine ⟨opensMatch.active, fun _ _ => .inl blocked, ?_, fun _ _ => .inl blocked, opensMatch.opening, ?_,
      fun _ _ _ _ _ => blocked⟩
    · intro other port opener
      obtain ⟨place, there, unfinished⟩ := opener.unfinished
      exact opensMatch.opens other port ⟨opener.ofPort, opener.established, place, others unfinished there, unfinished⟩
    · intro other isSome
      rcases Classical.em (other = address) with rfl | different
      · simp
      · simpa [different] using opensMatch.begun other isSome

/-- What the registry does without opening or closing a port. -/
theorem onRegistry (opensMatch : OpensMatch s) (consistent : Consistent (withoutNulls s.registry))
    (stepTo : StepTo s.registry event next) (notRegister : event ≠ .register)
    (notFinish : ∀ address, event ≠ .finish address) (accepts : event = .accept → s.opening = none) :
    OpensMatch { s with registry := next } := by
  cases stepTo with
  | accept main free =>
    exact opensMatch.onMain (not_selfBlocked_of_free free) (accepts rfl) rfl rfl (by simp [main]) (by simp)
  | cleanPort main entry object closed =>
    exact opensMatch.onMain (not_selfBlocked_of_main main (.inl ⟨_, rfl⟩))
      (opensMatch.not_opening_of_main (by simp [main])) rfl rfl (by simp [main]) (by simp)
  | join main ended => exact opensMatch.join main ended
  | endCleanup main =>
    exact opensMatch.onMain (not_selfBlocked_of_main main (.inl ⟨_, rfl⟩))
      (opensMatch.not_opening_of_main (by simp [main])) rfl rfl (by simp [main]) (by simp)
  | goesBack _ main =>
    have opening := opensMatch.not_opening_of_main (by simp [main])
    refine opensMatch.of_same rfl rfl (fun _ => rfl) ?_ (fun _ => Iff.rfl) (fun blocked => ⟨blocked.1, id⟩) ?_
      (fun _ => id) ?_
    · intro other
      simp [Established, main]
    · intro other pending
      simp [opening] at pending
    · intro other client running object closed
      exact ⟨(opensMatch.connected other client running object closed).1, id⟩
  | newClient main vacant => exact opensMatch.newClient consistent main
  | register main free object => exact absurd rfl notRegister
  | serve here object => exact opensMatch.serve here object rfl
  | @lose address client here object =>
    refine opensMatch.onThread here (by decide) (by decide) rfl (Consistent.portOf_disconnect rfl object) rfl id ?_
    intro other client' running object' closed
    have different : other ≠ address := by
      rintro rfl
      simp at running
    refine opensMatch.connected other client' (by simpa [different] using running) ?_ closed
    simpa [Daemon.client, Registry.disconnect, Registry.assign, different] using object'
  | @report address client here free object =>
    refine opensMatch.onThread here (by decide) (by decide) rfl (fun _ => rfl) rfl
      (fun blocked => absurd blocked (not_selfBlocked_of_free free)) ?_
    intro other client' running object' closed
    have different : other ≠ address := by
      rintro rfl
      simp at running
    have blocked := opensMatch.connected other client' (by simpa [different] using running) object' closed
    exact absurd blocked (not_selfBlocked_of_free free)
  | finish here object => exact absurd rfl (notFinish _)
  | perform free same =>
    exact opensMatch.of_same rfl rfl (fun _ => rfl) (fun _ => Iff.rfl) (fun _ => Iff.rfl) id opensMatch.opening
      (fun _ => id) opensMatch.connected
  | @relock operation results address client free object =>
    have outside : ¬ Cleaning s.registry := fun cleaning => by
      have held : s.registry.registry.clientsMutexHeld = true := consistent.inPlace.locks cleaning
      simp [free] at held
    exact opensMatch.of_same rfl rfl (Consistent.portOf_disconnect rfl object) (fun _ => Iff.rfl) (fun _ => Iff.rfl)
      (fun _ => ⟨rfl, outside⟩) opensMatch.opening (fun _ => id) fun _ _ _ _ _ => ⟨rfl, outside⟩

/-- The client is registered, and its port is still to be opened. -/
theorem register (opensMatch : OpensMatch s) (stepTo : StepTo s.registry .register next)
    (main : s.registry.main = .registering address) :
    OpensMatch { s with registry := next, opening := some address } := by
  have opening := opensMatch.not_opening_of_main (by simp [main])
  cases stepTo with
  | goesBack event main' => simp [main] at main'
  | @register address' client main' free object =>
    rw [main, MainPlace.registering.injEq] at main'
    subst main'
    have idle := not_selfBlocked_of_free free
    refine opensMatch.of_same rfl rfl (fun _ => rfl) ?_ (fun _ => Iff.rfl) (fun blocked => absurd blocked idle) ?_
      (fun _ => id) ?_
    · intro other
      simp [Established, main, opening]
    · intro other pending
      obtain rfl := Option.some.inj pending
      exact ⟨rfl, by simp [portOf, object]⟩
    · intro other client' running object' closed
      exact absurd (opensMatch.connected other client' running object' closed) idle

/-- The port of a client is closed. -/
theorem finish (opensMatch : OpensMatch s) (consistent : Consistent (withoutNulls s.registry))
    (stepTo : StepTo s.registry (.finish address) next) (established : Established s address) {rx : RxModule}
    (closes : s.closePort address = some rx) : OpensMatch { s with registry := next, rx } := by
  cases stepTo with
  | goesBack event main => simp at event
  | @finish _ client here object =>
    have port : portOf s.registry address = some client.appPort := by simp [portOf, object]
    have closed : rx = (s.rx.closePort client.appPort).2 := by
      have object' : s.client address = some client := object
      simp only [Daemon.closePort, object'] at closes
      split at closes
      · contradiction
      · exact (Option.some.inj closes).symm
    have stillOpen (other : UInt8) : (rx.openPorts other).isSome ↔
        (s.rx.openPorts other).isSome ∧ other ≠ client.appPort := by
      rw [closed]
      exact RxModule.isSome_openPorts_closePort opensMatch.active _ _
    have others {other : ℕ} (different : other ≠ address) :
        Function.update s.registry.thread address (some .finished) other = s.registry.thread other :=
      Function.update_of_ne different ..
    refine ⟨?_, ?_, ?_, ?_, opensMatch.opening, ?_, ?_⟩
    · rw [closed, RxModule.closePort_frame]
      exact opensMatch.active
    · intro port' isOpen
      obtain ⟨before, otherPort⟩ := (stillOpen port').mp isOpen
      refine (opensMatch.opener port' before).imp id ?_
      rintro ⟨other, opener⟩
      have different : other ≠ address := by
        rintro rfl
        have ofPort := opener.ofPort
        rw [port, Option.some.injEq] at ofPort
        exact otherPort ofPort.symm
      obtain ⟨place, there, unfinished⟩ := opener.unfinished
      exact ⟨other, opener.ofPort, opener.established, place, (others different).trans there, unfinished⟩
    · intro other port' opener
      obtain ⟨place, there, unfinished⟩ := opener.unfinished
      have different : other ≠ address := by
        rintro rfl
        simp at there
        exact unfinished there.symm
      refine (stillOpen port').mpr ⟨?_, ?_⟩
      · exact opensMatch.opens other port' ⟨opener.ofPort, opener.established, place,
          (others different).symm.trans there, unfinished⟩
      · rintro rfl
        have ofPort : portOf s.registry other = some client.appPort := opener.ofPort
        exact different (consistent.unique ofPort port)
    · intro other pending
      have different : other ≠ address := by
        rintro rfl
        exact pending established
      refine (opensMatch.pending other pending).imp id ?_
      rintro ⟨place, there, unfinished⟩
      exact ⟨place, (others different).trans there, unfinished⟩
    · intro other isSome
      rcases Classical.em (other = address) with rfl | different
      · simp
      · simpa [different] using opensMatch.begun other isSome
    · intro other client' running object' disconnected
      have different : other ≠ address := by
        rintro rfl
        simp at running
      exact opensMatch.connected other client' ((others different).symm.trans running) object' disconnected

/-- The port of a client is opened. -/
theorem openPort (opensMatch : OpensMatch s) (opening : s.opening = some address) {client : Client}
    (object : s.client address = some client) {opened : ℕ → Option ℕ} : OpensMatch { s with
      rx := (s.rx.openPort client.appPort).2, opening := none, opened } := by
  set next : Daemon := { s with rx := (s.rx.openPort client.appPort).2, opening := none, opened } with isNext
  obtain ⟨main, -⟩ := opensMatch.opening address opening
  have established (other : ℕ) : Established next other := by simp [Established, next, main]
  have port : portOf s.registry address = some client.appPort := by
    have object' : s.registry.registry.heap address = some client := object
    simp [portOf, object']
  have isOpen (other : UInt8) : (next.rx.openPorts other).isSome ↔
      (s.rx.openPorts other).isSome ∨ other = client.appPort :=
    RxModule.isSome_openPorts_openPort opensMatch.active _ _
  refine ⟨?_, ?_, ?_, ?_, ?_, opensMatch.begun, opensMatch.connected⟩
  · rw [isNext, RxModule.openPort_frame]
    exact opensMatch.active
  · intro port' opens
    rcases (isOpen port').mp opens with before | rfl
    · refine (opensMatch.opener port' before).imp id ?_
      rintro ⟨other, opener⟩
      exact ⟨other, opener.ofPort, established other, opener.unfinished⟩
    · refine (opensMatch.pending address fun returned => returned.2 opening).imp id fun unfinished => ?_
      exact ⟨address, port, established address, unfinished⟩
  · intro other port' opener
    rw [isOpen]
    rcases Classical.em (other = address) with rfl | different
    · have ofPort : portOf s.registry other = some port' := opener.ofPort
      rw [port, Option.some.injEq] at ofPort
      exact .inr ofPort.symm
    · refine .inl (opensMatch.opens other port' ⟨opener.ofPort, ⟨?_, ?_⟩, opener.unfinished⟩)
      · simp [main]
      · simpa [opening] using Ne.symm different
  · intro other pending
    exact absurd (established other) pending
  · intro other pending
    simp [next] at pending

/-- A step that leaves the registry and the ports alone. -/
theorem of_rx (opensMatch : OpensMatch s) (registry : t.registry = s.registry) (opening : t.opening = s.opening)
    (active : t.rx.active = s.rx.active) (openPorts : t.rx.openPorts = s.rx.openPorts) : OpensMatch t := by
  refine opensMatch.of_same active openPorts ?_ ?_ ?_ ?_ ?_ ?_ ?_
  · simp [registry]
  · simp [Established, registry, opening]
  · simp [registry]
  · simp [registry]
  · rw [registry, opening]
    exact opensMatch.opening
  · simp [registry]
  · simp only [Daemon.client, registry]
    exact opensMatch.connected

end OpensMatch

/-! ## Runs -/

/-- The process has ended, or the open ports are accounted for. -/
def Accounted (s : Daemon) : Prop :=
  s.registry.fault.isSome ∨ (Consistent (withoutNulls s.registry) ∧ OpensMatch s)

theorem accounted_started (fresh : S3tpHeader) : Accounted (Daemon.started fresh) :=
  .inr ⟨consistent_start, .started fresh⟩

theorem Accounted.step {event : DaemonEvent} (accounted : Accounted s) (opensFirst : OpensFirst s event)
    (stepped : s.step event = some t) : Accounted t := by
  have alive := Daemon.alive_of_step stepped
  obtain ⟨consistent, opensMatch⟩ := accounted.resolve_left (by simp [alive])
  simp only [Daemon.step, alive, Bool.false_eq_true, if_false] at stepped
  cases event with
  | registry event =>
    obtain ⟨registry, steps, goes⟩ := Daemon.registryStep_cases stepped
    rcases stepTo_of_step consistent steps with faulty | stepTo
    · left
      obtain ⟨address, -, -, rfl⟩ | ⟨address, rx, -, -, rfl⟩ | ⟨-, -, -, -, rfl⟩ := goes
      · exact faulty
      · exact faulty
      · exact faulty
    have consistent' := stepTo.consistent consistent
    right
    obtain ⟨address, rfl, main, rfl⟩ | ⟨address, rx, rfl, closes, rfl⟩ |
      ⟨notRegister, notFinish, accepts, -, rfl⟩ := goes
    · exact ⟨consistent', opensMatch.register stepTo main⟩
    · exact ⟨consistent', opensMatch.finish consistent stepTo opensFirst closes⟩
    · exact ⟨consistent', opensMatch.onRegistry consistent stepTo notRegister notFinish accepts⟩
  | openPort =>
    obtain ⟨address, opening, ⟨-, faulty, -⟩ | ⟨client, object, rfl⟩⟩ := Daemon.openPortStep_cases stepped
    · exact .inl faulty
    · exact .inr ⟨consistent, opensMatch.openPort opening object⟩
  | receive packet =>
    obtain ⟨-, rfl | ⟨_, _, rfl⟩⟩ := Daemon.receive_cases stepped
    · exact .inr ⟨consistent, opensMatch.of_rx rfl rfl rfl rfl⟩
    · exact .inr ⟨consistent, opensMatch.of_rx rfl rfl rfl rfl⟩
  | receiveData =>
    obtain ⟨packet, -, rfl⟩ := Daemon.of_receiveData stepped
    have active := s.rx.receiveData_active packet
    exact .inr ⟨consistent, opensMatch.of_rx rfl rfl active (s.rx.receiveData_openPorts packet)⟩
  | consume =>
    obtain ⟨-, delivery, rx, consumes, rfl⟩ := Daemon.of_consume stepped
    have frame := (RxModule.drains_of_getNextCompleteMessage consumes).frame
    refine .inr ⟨consistent, opensMatch.of_rx rfl rfl ?_ ?_⟩
    · rw [frame]
    · rw [frame]
  | forward results =>
    obtain ⟨delivery, registry, -, steps, rfl⟩ := Daemon.of_forward stepped
    rcases stepTo_of_step consistent steps with faulty | stepTo
    · exact .inl faulty
    · have delivers := opensMatch.onRegistry consistent stepTo (by simp) (by simp) (by simp)
      exact .inr ⟨stepTo.consistent consistent, delivers.of_rx rfl rfl rfl rfl⟩
  | onApplicationMessage | enqueue | write | iterate | setChannelAvailable | scheduleSync =>
    obtain ⟨sender, calls, produced, rfl⟩ := Daemon.senderStep_frame stepped
    exact .inr ⟨consistent, opensMatch.of_rx rfl rfl rfl rfl⟩

theorem Accounted.portsMatch (accounted : Accounted s) (cleanedUp : CleanedUp s) : PortsMatch s := by
  obtain ⟨consistent, opensMatch⟩ := accounted.resolve_left (by simp [cleanedUp.noFault])
  have idle := OpensMatch.not_selfBlocked_of_free cleanedUp.free
  have established (address : ℕ) : Established s address := by
    simp [Established, cleanedUp.main, cleanedUp.opening]
  intro port
  constructor
  · intro isOpen
    obtain ⟨address, opener⟩ := (opensMatch.opener port isOpen).resolve_left idle
    obtain ⟨client, object, ofPort⟩ := portOf_eq_some.mp opener.ofPort
    have entry : pointing s.registry.registry.clients port = some (some address) := by
      have empty : Consistent.EmptyHanded (withoutNulls s.registry).main := by
        rw [show (withoutNulls s.registry).main = _ from cleanedUp.main]
        trivial
      exact consistent.entry empty opener.ofPort
    have running : s.registry.thread address = some .running := by
      obtain ⟨place, here, unfinished⟩ := opener.unfinished
      cases place with
      | running => exact here
      | closing => exact absurd here (cleanedUp.closing address)
      | reported => exact absurd here (cleanedUp.reported address)
      | finished => exact absurd rfl unfinished
    exact ⟨address, client, pointing_eq_some.mp entry, object, opensMatch.connected_of_idle idle running object⟩
  · rintro ⟨address, client, entry, object, connected⟩
    have ofPort := portOf_of_entry consistent entry
    obtain ⟨place, here⟩ := Option.isSome_iff_exists.mp (opensMatch.begun address (by simp [ofPort]))
    refine opensMatch.opens address port ⟨ofPort, established address, place, here, ?_⟩
    rintro rfl
    have closed := consistent.silent address .finished client here (by decide) object
    simp [connected] at closed

/-- As long as no client's port is closed before it is opened, the open ports after a cleanup are those of the
clients that are connected. -/
theorem portsMatch_of_opensFirst {fresh : S3tpHeader} {events : List DaemonEvent}
    (run : Run Daemon.step OpensFirst (Daemon.started fresh) events s) (cleanedUp : CleanedUp s) : PortsMatch s := by
  have accounted : Accounted s := run.invariant (fun _ _ _ accounted opensFirst stepped =>
    Accounted.step accounted opensFirst stepped) (accounted_started fresh)
  exact accounted.portsMatch cleanedUp

/-- The main thread is back from the cleanup, and the only client is in its loop or has come to its end. -/
theorem CleanedUp.of_one {place : ThreadPlace} (noFault : s.registry.fault = none)
    (main : s.registry.main = .handshaking) (opening : s.opening = none)
    (free : s.registry.registry.clientsMutexHeld = false) (first : s.registry.thread 0 = some place)
    (quiet : place = .running ∨ place = .finished) (others : ∀ n, s.registry.thread (n + 1) = none) : CleanedUp s := by
  refine ⟨noFault, main, opening, free, ?_, ?_⟩
  · intro address here
    cases address with
    | zero =>
      obtain rfl := Option.some.inj (first.symm.trans here)
      simp at quiet
    | succ n => simp [others] at here
  · intro address here
    cases address with
    | zero =>
      obtain rfl := Option.some.inj (first.symm.trans here)
      simp at quiet
    | succ n => simp [others] at here

/-- A client stays connected, and another one asks for a connection. -/
theorem portsMatch_of_opensFirst_connected : ∃ s : Daemon, (s.rx.openPorts 5).isSome ∧ PortsMatch s := by
  have run : ∃ s, Run Daemon.step OpensFirst (Daemon.started default) [.registry .accept, .registry .endCleanup,
      .registry (.configure 5 0), .registry .register, .openPort, .registry .accept, .registry .endCleanup] s ∧
      (s.rx.openPorts 5).isSome ∧ CleanedUp s := by
    refine ⟨_, .cons trivial rfl (.cons trivial rfl (.cons trivial rfl (.cons trivial rfl (.cons trivial rfl (
      .cons trivial rfl (.cons trivial rfl (.nil _))))))), ?_, ?_⟩
    · rfl
    · exact .of_one rfl rfl rfl rfl rfl (.inl rfl) fun _ => rfl
  obtain ⟨s, run, isOpen, cleanedUp⟩ := run
  exact ⟨s, isOpen, portsMatch_of_opensFirst run cleanedUp⟩

/-- The client leaves before its port has been opened. -/
theorem exists_run_not_portsMatch : ∃ events s, Run Daemon.step Always (Daemon.started default) events s ∧
    CleanedUp s ∧ ¬ PortsMatch s := by
  have run : ∃ s, Run Daemon.step Always (Daemon.started default) [.registry .accept, .registry .endCleanup,
      .registry (.configure 5 0), .registry (.lose 0), .registry (.report 0), .registry (.finish 0),
      .registry .register, .openPort, .registry .accept, .registry .cleanPort, .registry .join,
      .registry .endCleanup] s ∧
      (s.rx.openPorts 5).isSome ∧ s.registry.registry.clients 5 = none ∧ CleanedUp s := by
    refine ⟨_, .cons trivial rfl (.cons trivial rfl (.cons trivial rfl (.cons trivial rfl (.cons trivial rfl (
      .cons trivial rfl (.cons trivial rfl (.cons trivial rfl (.cons trivial rfl (.cons trivial rfl (
      .cons trivial rfl (.cons trivial rfl (.nil _)))))))))))), ?_, ?_, ?_⟩
    · rfl
    · rfl
    · exact .of_one rfl rfl rfl rfl rfl (.inr rfl) fun _ => rfl
  obtain ⟨s, run, isOpen, nobody, cleanedUp⟩ := run
  refine ⟨_, s, run, cleanedUp, fun portsMatch => ?_⟩
  obtain ⟨address, client, entry, -⟩ := (portsMatch 5).mp isOpen
  simp [nobody] at entry

end S3tp.Soundness
