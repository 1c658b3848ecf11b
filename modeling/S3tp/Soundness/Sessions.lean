import S3tp.Soundness.Availability
import S3tp.Soundness.OpenPorts
import S3tp.Soundness.PortIdentity
import Mathlib.Data.List.Perm.Subperm

/-! # Sessions on a port

A port outlives the clients that register it. Its queue, and what the link thread and the assembly thread have in
hand for it, stay when a client goes. As long as nothing of the kind is left at the time the next client's port is
opened, and no message is forwarded to the client before, each client receives the packets of its own session.
-/

namespace S3tp.Soundness

open Machine Model.Core Model.Core.RxModule Model.Concurrent

variable {s t : Daemon} {address : ℕ} {port : UInt8} {row row' : List S3tpPacket} {rows : List (List S3tpPacket)}

/-! ## What a message consists of -/

/-- The data are those of at least one packet, and a failed call has none. -/
def ConsistsOf (data : Option (List UInt8)) (packets : List S3tpPacket) : Prop :=
  match data with
  | none => packets = []
  | some bytes => packets ≠ [] ∧ bytes = assembled packets

/-- The loop takes what it returns from the head of the port's queue. -/
theorem assembled_of_assemble {rx rx' : RxModule} {data : List UInt8} {len : UInt16} {delivery : Delivery}
    (assembles : rx.assemble port data len = some (delivery, rx')) : delivery.data = none ∨
      ∃ packets, packets ≠ [] ∧ delivery.data = some (data ++ assembled packets) ∧ delivery.port = port ∧
        rx.inBuffer.held port = packets ++ rx'.inBuffer.held port := by
  fun_induction assemble rx port data len with
  | case1 => contradiction
  | case2 rx data len pkt inBuffer popped unexpected =>
    obtain ⟨rfl, -⟩ := Prod.mk.inj (Option.some.inj assembles)
    exact .inl rfl
  | case3 rx data len pkt inBuffer popped expected after data' len' final =>
    obtain ⟨rfl, rfl⟩ := Prod.mk.inj (Option.some.inj assembles)
    have head := (Buffer.held_of_popPacketInternal popped).1
    exact .inr ⟨[pkt], by simp, by simp [assembled, data'], rfl, head⟩
  | case4 rx data len pkt inBuffer popped expected after data' len' flagged ih =>
    have head := (Buffer.held_of_popPacketInternal popped).1
    refine (ih assembles).imp id ?_
    rintro ⟨packets, -, own, ofPort, left⟩
    refine ⟨pkt :: packets, by simp, ?_, ofPort, ?_⟩
    · rw [own]
      simp [assembled, data']
    · rw [head, List.cons_append, ← left]
      rfl

/-- A call takes what it returns from the head of the queue of the port it names. -/
theorem consistsOf_of_getNextCompleteMessage {rx rx' : RxModule} {delivery : Delivery}
    (consumes : rx.getNextCompleteMessage = some (delivery, rx')) : ∃ packets, ConsistsOf delivery.data packets ∧
      packets ++ rx'.inBuffer.held delivery.port <:+ rx.inBuffer.held delivery.port := by
  have drained := (drains_of_getNextCompleteMessage consumes).suffix delivery.port
  have nothing (none : delivery.data = none) : ∃ packets, ConsistsOf delivery.data packets ∧
      packets ++ rx'.inBuffer.held delivery.port <:+ rx.inBuffer.held delivery.port :=
    ⟨[], by rw [none]; rfl, drained⟩
  simp only [getNextCompleteMessage] at consumes
  split at consumes
  · obtain ⟨rfl, -⟩ := Prod.mk.inj (Option.some.inj consumes)
    exact nothing rfl
  split at consumes
  · obtain ⟨rfl, -⟩ := Prod.mk.inj (Option.some.inj consumes)
    exact nothing rfl
  split at consumes
  · contradiction
  next answer mid assembles =>
  have own : delivery = answer ∧ ∀ port, rx'.inBuffer.held port = mid.inBuffer.held port := by
    split at consumes
    · obtain ⟨rfl, rfl⟩ := Prod.mk.inj (Option.some.inj consumes)
      exact ⟨rfl, fun _ => by rw [refreshAvailability_frame]⟩
    · obtain ⟨rfl, rfl⟩ := Prod.mk.inj (Option.some.inj consumes)
      exact ⟨rfl, fun _ => rfl⟩
  obtain ⟨rfl, left⟩ := own
  rcases assembled_of_assemble assembles with none | ⟨packets, some, data, rfl, taken⟩
  · exact nothing none
  · refine ⟨packets, ?_, ?_⟩
    · rw [data]
      exact ⟨some, rfl⟩
    · rw [left, taken]

/-! ## The property -/

/-- The calls of `Client::send` for the client. -/
def forwardedTo (s : Daemon) (address : ℕ) : List SendCall := s.forwarded.filter fun call => call.client = address

/-- The frames received after the client's port was opened. -/
def receivedSince (s : Daemon) (address : ℕ) : List S3tpPacket :=
  match s.opened address with
  | none => []
  | some count => s.received.drop count

/-- Each message delivered to the client consists of packets received after its port had been opened. No packet is
delivered twice. -/
def Isolated (s : Daemon) (address : ℕ) : Prop := ∃ rows,
  List.Forall₂ (fun call row => ConsistsOf call.data row) (forwardedTo s address) rows ∧
    rows.flatten.Subperm (receivedSince s address)

/-- The assembly thread has a message of the port in hand. -/
def HoldsMessage (s : Daemon) (port : UInt8) : Prop :=
  ∃ delivery, s.inHand = .message delivery ∧ delivery.port = port ∧ delivery.data.isSome

/-- Nothing of an earlier session is left when the client's port is opened, and no message is forwarded to the
client before. -/
def OpensClear (address : ℕ) (s : Daemon) : DaemonEvent → Prop
  | .openPort => s.opening = some address → ∀ client, s.client address = some client →
      s.rx.inBuffer.held client.appPort = [] ∧ (∀ packet ∈ s.handling, packet.getPort ≠ client.appPort) ∧
        ¬ HoldsMessage s client.appPort
  | .forward _ => ∀ delivery, s.inHand = .message delivery →
      s.registry.registry.clients delivery.port = some (some address) → s.opened address = none → delivery.data = none
  | _ => True

/-! ## What is on its way -/

/-- The message in the assembly thread's hand consists of these packets. -/
def InHandIs (inHand : InHand) (row : List S3tpPacket) : Prop :=
  match inHand with
  | .message delivery => ConsistsOf delivery.data row
  | _ => row = []

/-- The packets in the assembly thread's hand, if they are the port's. -/
def inHandOn (inHand : InHand) (row : List S3tpPacket) (port : UInt8) : List S3tpPacket :=
  match inHand with
  | .message delivery => if delivery.port = port then row else []
  | _ => []

/-- The packet in the link thread's hand, if it is the port's. -/
def handledOn (handling : Option S3tpPacket) (port : UInt8) : List S3tpPacket :=
  handling.toList.filter fun packet => packet.getPort = port

/-- The packets of the port that are on their way to a client. -/
def onTheWay (s : Daemon) (row : List S3tpPacket) (port : UInt8) : List S3tpPacket :=
  inHandOn s.inHand row port ++ s.rx.inBuffer.held port ++ handledOn s.handling port

theorem inHandOn_nil (inHand : InHand) (port : UInt8) : inHandOn inHand [] port = [] := by
  cases inHand with
  | message delivery => simp [inHandOn]
  | nothing | mutex => rfl

theorem inHandOn_of_not_holdsMessage (inHand : InHandIs s.inHand row) (none : ¬ HoldsMessage s port) :
    inHandOn s.inHand row port = [] := by
  cases holds : s.inHand with
  | nothing | mutex => rfl
  | message delivery =>
    rw [holds] at inHand
    have consists : ConsistsOf delivery.data row := inHand
    rw [inHandOn]
    split
    · next own =>
      cases data : delivery.data with
      | none =>
        rw [data] at consists
        exact consists
      | some bytes => exact absurd ⟨delivery, holds, own, by simp [data]⟩ none
    · rfl

/-- The client is registered on the port, and its `onConnected` has opened it. -/
structure Attached (s : Daemon) (address : ℕ) (port : UInt8) : Prop where
  noFault : s.registry.fault = none
  entry : s.registry.registry.clients port = some (some address)
  opened : (s.opened address).isSome

/-- What the client has been sent, and what is on its way to it, has been received in its session. -/
structure Ledger (s : Daemon) (address : ℕ) (row : List S3tpPacket) (rows : List (List S3tpPacket)) : Prop where
  inHand : InHandIs s.inHand row
  forwarded : List.Forall₂ (fun call row => ConsistsOf call.data row) (forwardedTo s address) rows
  delivered : rows.flatten.Subperm (receivedSince s address)
  current : ∀ port, Attached s address port →
    (rows.flatten ++ onTheWay s row port).Subperm (receivedSince s address)

namespace Ledger

theorem isolated (ledger : Ledger s address row rows) : Isolated s address :=
  ⟨rows, ledger.forwarded, ledger.delivered⟩

/-- A step in which nothing is received or forwarded and no port is opened. -/
theorem onward (ledger : Ledger s address row rows) (inHand : InHandIs t.inHand row')
    (forwarded : t.forwarded = s.forwarded) (received : t.received = s.received) (opened : t.opened = s.opened)
    (attached : ∀ port, Attached t address port → Attached s address port)
    (less : ∀ port, (onTheWay t row' port).Subperm (onTheWay s row port)) : Ledger t address row' rows := by
  have since : receivedSince t address = receivedSince s address := by
    rw [receivedSince, receivedSince, opened, received]
  refine ⟨inHand, ?_, ?_, ?_⟩
  · rw [forwardedTo, forwarded]
    exact ledger.forwarded
  · rw [since]
    exact ledger.delivered
  · intro port ofClient
    rw [since]
    exact ((List.subperm_append_left _).mpr (less port)).trans (ledger.current port (attached port ofClient))

/-- A frame is received, and it is kept in hand at most. -/
theorem receive (ledger : Ledger s address row rows) {packet : S3tpPacket} {handling : Option S3tpPacket}
    {rx : RxModule} (free : s.handling = none) (kept : handling = some packet ∨ handling = none)
    (buffer : rx.inBuffer = s.rx.inBuffer) (before : ∀ count ∈ s.opened address, count ≤ s.received.length) :
    Ledger { s with rx, handling, received := s.received ++ [packet] } address row rows := by
  set next : Daemon := { s with rx, handling, received := s.received ++ [packet] } with isNext
  have extended : (s.opened address).isSome → receivedSince next address = receivedSince s address ++ [packet] := by
    intro isOpen
    obtain ⟨count, opened⟩ := Option.isSome_iff_exists.mp isOpen
    have room := before count opened
    simp [receivedSince, isNext, opened, List.drop_append_of_le_length room]
  refine ⟨ledger.inHand, ledger.forwarded, ?_, ?_⟩
  · cases opened : s.opened address with
    | none =>
      have delivered := ledger.delivered
      simpa [receivedSince, isNext, opened] using delivered
    | some count =>
      rw [extended (by simp [opened])]
      exact ledger.delivered.trans (List.sublist_append_left _ _).subperm
  · intro port attached
    rw [extended attached.opened]
    have own : (handledOn handling port).Subperm [packet] := by
      rcases kept with rfl | rfl
      · exact List.filter_sublist.subperm
      · exact List.nil_subperm
    have earlier : onTheWay s row port = inHandOn s.inHand row port ++ s.rx.inBuffer.held port := by
      simp [onTheWay, free, handledOn]
    have current := ledger.current port ⟨attached.noFault, attached.entry, attached.opened⟩
    rw [earlier] at current
    simp only [onTheWay, isNext, buffer, ← List.append_assoc] at current ⊢
    exact current.append own

/-- A packet leaves the link thread's hand for its queue, and queues are cleared. -/
theorem receiveData (ledger : Ledger s address row rows) {packet : S3tpPacket} (handling : s.handling = some packet) :
    Ledger { s with rx := s.rx.receiveData packet, handling := none } address row rows := by
  refine ledger.onward ledger.inHand rfl rfl rfl ?_ fun port => ?_
  · exact fun _ attached => ⟨attached.noFault, attached.entry, attached.opened⟩
  simp only [onTheWay, handling, List.append_assoc]
  refine (List.subperm_append_left _).mpr ?_
  have none : handledOn none port = [] := rfl
  rw [none, List.append_nil, held_receiveData]
  split
  · exact List.nil_subperm
  split
  · next own =>
    subst own
    have kept : (s.rx.inBuffer.kept s.rx.policy packet).Subperm (s.rx.inBuffer.held packet.getPort) := by
      rw [Buffer.kept]
      split
      · exact List.nil_subperm
      · exact .refl _
    have linked : (linked s.rx packet).Perm (s.rx.inBuffer.kept s.rx.policy packet ++ [packet]) := by
      refine List.Perm.trans ?_ (List.perm_append_singleton _ _).symm
      exact List.insertFromTail_perm _ _ _
    have own : handledOn (some packet) packet.getPort = [packet] := by simp [handledOn]
    rw [own]
    exact linked.subperm.trans ((List.subperm_append_right _).mpr kept)
  · exact (List.sublist_append_left _ _).subperm

/-- The packets of the message that is consumed leave the queue. -/
theorem consume (ledger : Ledger s address row rows) (free : s.inHand = .nothing) {delivery : Delivery} {rx : RxModule}
    (consumes : s.rx.getNextCompleteMessage = some (delivery, rx)) :
    ∃ row', Ledger { s with rx, inHand := .message delivery } address row' rows := by
  obtain ⟨row', consists, taken⟩ := consistsOf_of_getNextCompleteMessage consumes
  refine ⟨row', ledger.onward consists rfl rfl rfl ?_ fun port => ?_⟩
  · exact fun _ attached => ⟨attached.noFault, attached.entry, attached.opened⟩
  simp only [onTheWay, free, inHandOn, List.nil_append]
  refine (List.subperm_append_right _).mpr ?_
  split
  · next own =>
    subst own
    exact taken.sublist.subperm
  · rw [List.nil_append]
    exact ((drains_of_getNextCompleteMessage consumes).suffix port).sublist.subperm

/-- The port of the client is opened, and nothing is on its way to the client. -/
theorem openPort (ledger : Ledger s address row rows) {client : Client} (unopened : s.opened address = none)
    (own : ∀ port, s.registry.registry.clients port = some (some address) → port = client.appPort)
    (held : s.rx.inBuffer.held client.appPort = []) (handling : ∀ packet ∈ s.handling, packet.getPort ≠ client.appPort)
    (inHand : ¬ HoldsMessage s client.appPort) {rx : RxModule} (buffer : rx.inBuffer = s.rx.inBuffer)
    {opened : ℕ → Option ℕ} : Ledger { s with rx, opening := none, opened } address row rows := by
  have empty : rows.flatten = [] := by
    have delivered := ledger.delivered
    simpa [receivedSince, unopened] using delivered
  refine ⟨ledger.inHand, ledger.forwarded, ?_, ?_⟩
  · rw [empty]
    exact List.nil_subperm
  · intro port attached
    obtain rfl := own port attached.entry
    have unhandled : handledOn s.handling client.appPort = [] := by
      rw [handledOn, List.filter_eq_nil_iff]
      intro packet member
      simpa using handling packet (Option.mem_toList.mp member)
    have notHeld : inHandOn s.inHand row client.appPort = [] := inHandOn_of_not_holdsMessage ledger.inHand inHand
    have nothing : onTheWay { s with rx, opening := none, opened } row client.appPort = [] := by
      simp [onTheWay, buffer, held, unhandled, notHeld]
    rw [empty, nothing]
    exact List.nil_subperm

/-- Another client's port is opened. -/
theorem openOther (ledger : Ledger s address row rows) {other : ℕ} (different : other ≠ address) {rx : RxModule}
    (buffer : rx.inBuffer = s.rx.inBuffer) {count : ℕ} : Ledger { s with
      rx, opening := none, opened := Function.update s.opened other (some count) } address row rows := by
  have same : Function.update s.opened other (some count) address = s.opened address :=
    Function.update_of_ne different.symm ..
  refine ⟨ledger.inHand, ledger.forwarded, ?_, ?_⟩
  · simpa [receivedSince, same] using ledger.delivered
  · intro port attached
    have isOpen : (s.opened address).isSome := by simpa [same] using attached.opened
    have current := ledger.current port ⟨attached.noFault, attached.entry, isOpen⟩
    simpa [receivedSince, same, onTheWay, buffer] using current

/-- A message is forwarded: to the client, to another one or to nobody. -/
theorem forward (ledger : Ledger s address row rows) (noFault : s.registry.fault = none) {delivery : Delivery}
    (inHand : s.inHand = .message delivery)
    (clear : s.registry.registry.clients delivery.port = some (some address) → s.opened address = none →
      delivery.data = none) {registry : RegistrySystem} {after : InHand} (done : InHandIs after [])
    (attached : ∀ port, registry.fault = none → registry.registry.clients port = some (some address) →
      s.registry.registry.clients port = some (some address) ∧
        (s.registry.registry.clients delivery.port = some (some address) → port = delivery.port)) :
    ∃ rows', Ledger { s with
      registry, inHand := after, forwarded := s.forwarded ++ (s.registry.registry.sendCall delivery).toList }
      address [] rows' := by
  have consists : ConsistsOf delivery.data row := by
    have consists := ledger.inHand
    rw [inHand] at consists
    exact consists
  set next : Daemon := { s with
    registry, inHand := after, forwarded := s.forwarded ++ (s.registry.registry.sendCall delivery).toList } with isNext
  have onTheWayThen (port : UInt8) : onTheWay next [] port = s.rx.inBuffer.held port ++ handledOn s.handling port := by
    simp [onTheWay, inHandOn_nil, isNext]
  rcases Classical.em (s.registry.registry.clients delivery.port = some (some address)) with own | other
  · have call : s.registry.registry.sendCall delivery = some ⟨address, delivery.data, delivery.len⟩ := by
      simp [Registry.sendCall, own]
    have calls : forwardedTo next address = forwardedTo s address ++ [⟨address, delivery.data, delivery.len⟩] := by
      simp [forwardedTo, isNext, call]
    have joined : (rows ++ [row]).flatten = rows.flatten ++ row := by simp
    have before : onTheWay s row delivery.port =
        row ++ (s.rx.inBuffer.held delivery.port ++ handledOn s.handling delivery.port) := by
      simp [onTheWay, inHandOn, inHand]
    refine ⟨rows ++ [row], done, ?_, ?_, ?_⟩
    · rw [calls]
      exact List.rel_append ledger.forwarded (.cons consists .nil)
    · rw [joined]
      cases opened : s.opened address with
      | none =>
        rw [clear own opened] at consists
        obtain rfl : row = [] := consists
        rw [List.append_nil]
        exact ledger.delivered
      | some count =>
        have current := ledger.current delivery.port ⟨noFault, own, by simp [opened]⟩
        rw [before, ← List.append_assoc] at current
        exact (List.sublist_append_left _ _).subperm.trans current
    · intro port ofClient
      obtain ⟨entry, only⟩ := attached port ofClient.noFault ofClient.entry
      obtain rfl := only own
      have current := ledger.current delivery.port ⟨noFault, own, ofClient.opened⟩
      rw [joined, onTheWayThen, List.append_assoc, ← before]
      exact current
  · have calls : forwardedTo next address = forwardedTo s address := by
      have none : (s.registry.registry.sendCall delivery).toList.filter (fun call => call.client = address) = [] := by
        rw [List.filter_eq_nil_iff]
        intro call member
        obtain ⟨client, entry, rfl⟩ := Option.map_eq_some_iff.mp (Option.mem_toList.mp member)
        have entry' := Option.join_eq_some_iff.mp entry
        simp only [decide_eq_true_eq]
        rintro rfl
        exact other entry'
      simp only [forwardedTo, isNext, List.filter_append, none, List.append_nil]
    refine ⟨rows, done, ?_, ledger.delivered, ?_⟩
    · rw [calls]
      exact ledger.forwarded
    · intro port ofClient
      obtain ⟨entry, -⟩ := attached port ofClient.noFault ofClient.entry
      have current := ledger.current port ⟨noFault, entry, ofClient.opened⟩
      have less : (onTheWay next [] port).Subperm (onTheWay s row port) := by
        rw [onTheWayThen, onTheWay, List.append_assoc]
        exact (List.sublist_append_right _ _).subperm
      exact ((List.subperm_append_left _).mpr less).trans current

end Ledger

/-! ## Where the client is -/

section MainThread

variable {r next : RegistrySystem} {event : RegistryEvent}

theorem nextAddress_le_of_stepTo (stepTo : StepTo r event next) : r.nextAddress ≤ next.nextAddress := by
  cases stepTo with
  | newClient main vacant => exact Nat.le_succ _
  | _ => exact le_rfl

/-- The main thread creates clients in the order of their addresses. -/
theorem registering_of_stepTo (stepTo : StepTo r event next) (main : next.main = .registering address) :
    r.main = .registering address ∨ address = r.nextAddress := by
  cases stepTo with
  | newClient _ vacant => exact .inr (MainPlace.registering.inj main).symm
  | accept | cleanPort | join | endCleanup | goesBack | register => simp at main
  | serve | lose | report | finish | perform | relock => exact .inl main

/-- The main thread leaves its loop for a connection. -/
theorem listening_of_stepTo (stepTo : StepTo r event next) (main : r.main = .listening) (notAccept : event ≠ .accept) :
    next.main = .listening := by
  cases stepTo with
  | accept => contradiction
  | cleanPort main' | join main' | endCleanup main' | newClient main' => simp [main] at main'
  | goesBack | register => rfl
  | serve | lose | report | finish | perform | relock => exact main

/-- A client is registered by its `onConnected`. -/
theorem entry_of_stepTo (stepTo : StepTo r event next) (entry : next.registry.clients port = some (some address)) :
    r.registry.clients port = some (some address) ∨ (event = .register ∧ r.main = .registering address) := by
  cases stepTo with
  | @cleanPort _ client =>
    rcases Classical.em (port = client.appPort) with rfl | different
    · simp at entry
    · exact .inl (by simpa [ByteMap.erase_of_ne _ different] using entry)
  | @register _ client main =>
    rcases Classical.em (port = client.appPort) with rfl | different
    · right
      refine ⟨rfl, ?_⟩
      simpa [main] using entry
    · exact .inl (by simpa [ByteMap.insert_of_ne _ _ different] using entry)
  | perform free same =>
    rw [← pointing_eq_some, ← same]
    exact .inl (pointing_eq_some.mpr entry)
  | accept | join | endCleanup | goesBack | newClient | serve | lose | report | finish | relock => exact .inl entry

end MainThread

/-- A port is opened while the main thread is back at its loop. A client whose port has been opened is established,
and is none that is still to come. -/
structure Placed (s : Daemon) (address : ℕ) : Prop where
  opening : s.opening.isSome → s.registry.main = .listening
  opened : ∀ count ∈ s.opened address,
    count ≤ s.received.length ∧ Established s address ∧ address < s.registry.nextAddress

namespace Placed

variable {event : RegistryEvent} {next : RegistrySystem}

theorem congr (placed : Placed s address) (registry : t.registry = s.registry) (opening : t.opening = s.opening)
    (opened : t.opened = s.opened) (received : s.received <+: t.received) : Placed t address := by
  refine ⟨?_, ?_⟩
  · rw [opening, registry]
    exact placed.opening
  · intro count member
    rw [opened] at member
    obtain ⟨within, established, known⟩ := placed.opened count member
    refine ⟨within.trans received.length_le, ?_, ?_⟩
    · rwa [Established, registry, opening]
    · rwa [registry]

/-- The main thread does not come back to a client. -/
theorem main_ne (placed : Placed s address) (stepTo : StepTo s.registry event next) {count : ℕ}
    (member : count ∈ s.opened address) : next.main ≠ .registering address ∧ address < next.nextAddress := by
  obtain ⟨-, ⟨main, -⟩, known⟩ := placed.opened count member
  refine ⟨?_, known.trans_le (nextAddress_le_of_stepTo stepTo)⟩
  intro registering
  rcases registering_of_stepTo stepTo registering with before | isNew
  · exact main before
  · omega

/-- What the registry does before `onConnected` comes to its end. -/
theorem onRegistry (placed : Placed s address) (stepTo : StepTo s.registry event next)
    (accepts : event = .accept → s.opening = none) {rx : RxModule} :
    Placed { s with registry := next, rx } address := by
  refine ⟨?_, ?_⟩
  · intro opening
    refine listening_of_stepTo stepTo (placed.opening opening) ?_
    rintro rfl
    simp [accepts rfl] at opening
  · intro count member
    obtain ⟨within, established, -⟩ := placed.opened count member
    obtain ⟨main, known⟩ := placed.main_ne stepTo member
    exact ⟨within, ⟨main, established.2⟩, known⟩

/-- The client is registered, and its port is still to be opened. -/
theorem register (placed : Placed s address) (stepTo : StepTo s.registry .register next) {other : ℕ}
    (main : s.registry.main = .registering other) :
    Placed { s with registry := next, opening := some other } address := by
  refine ⟨?_, ?_⟩
  · intro _
    cases stepTo with
    | goesBack | register => rfl
  · intro count member
    obtain ⟨within, established, -⟩ := placed.opened count member
    obtain ⟨main', known⟩ := placed.main_ne stepTo member
    refine ⟨within, ⟨main', ?_⟩, known⟩
    intro opening
    obtain rfl := Option.some.inj opening
    exact established.1 main

/-- The port of a client is opened. -/
theorem openPort (placed : Placed s address) (consistent : Consistent (withoutNulls s.registry)) {other : ℕ}
    (opening : s.opening = some other) {client : Client} (object : s.client other = some client) {rx : RxModule} :
    Placed { s with
      rx, opening := none, opened := Function.update s.opened other (some s.received.length) } address := by
  have listening := placed.opening (by simp [opening])
  refine ⟨by simp, ?_⟩
  intro count member
  have established : s.registry.main ≠ .registering address := by simp [listening]
  rcases Classical.em (address = other) with rfl | different
  · obtain rfl : s.received.length = count := by simpa using member
    have known : address < s.registry.nextAddress := by
      by_contra fresh
      have none : portOf s.registry address = none := consistent.fresh address (not_lt.mp fresh)
      have object' : s.registry.registry.heap address = some client := object
      simp [portOf, object'] at none
    exact ⟨le_rfl, ⟨established, by simp⟩, known⟩
  · obtain ⟨within, -, known⟩ := placed.opened count (by simpa [different] using member)
    exact ⟨within, ⟨established, by simp⟩, known⟩

end Placed

/-! ## Runs -/

/-- What has been delivered and what is on its way is accounted for, until the process ends. -/
structure Sessions (s : Daemon) (address : ℕ) : Prop where
  ledger : ∃ row rows, Ledger s address row rows
  placed : s.registry.fault.isSome ∨ (Consistent (withoutNulls s.registry) ∧ Placed s address)

namespace Sessions

theorem started (fresh : S3tpHeader) (address : ℕ) : Sessions (Daemon.started fresh) address where
  ledger := by
    refine ⟨[], [], rfl, .nil, List.nil_subperm, ?_⟩
    intro port attached
    have opened := attached.opened
    simp [Daemon.started] at opened
  placed := by
    refine .inr ⟨consistent_start, ?_, ?_⟩
    · simp [Daemon.started]
    · simp [Daemon.started]

/-- The registry goes on. -/
theorem onRegistry (sessions : Sessions s address) {event : RegistryEvent} (alive : s.registry.fault.isSome = false)
    (stepped : s.registryStep event = some t) : Sessions t address := by
  obtain ⟨row, rows, ledger⟩ := sessions.ledger
  obtain ⟨consistent, placed⟩ := sessions.placed.resolve_left (by simp [alive])
  obtain ⟨registry, steps, goes⟩ := Daemon.registryStep_cases stepped
  have after : registry.fault.isSome ∨ StepTo s.registry event registry := stepTo_of_step consistent steps
  have attached (port : UInt8) (noFault : registry.fault = none)
      (entry : registry.registry.clients port = some (some address)) (opened : (s.opened address).isSome) :
      Attached s address port := by
    have stepTo := after.resolve_left (by simp [noFault])
    obtain ⟨count, member⟩ := Option.isSome_iff_exists.mp opened
    obtain ⟨-, established, -⟩ := placed.opened count member
    exact ⟨by simpa using alive, (entry_of_stepTo stepTo entry).resolve_right fun new => established.1 new.2, opened⟩
  obtain ⟨other, rfl, main, rfl⟩ | ⟨other, rx, rfl, closes, rfl⟩ | ⟨notRegister, notFinish, accepts, -, rfl⟩ := goes
  · refine ⟨⟨row, rows, ledger.onward ledger.inHand rfl rfl rfl ?_ fun _ => .refl _⟩, after.imp id fun stepTo => ?_⟩
    · exact fun port ofClient => attached port ofClient.noFault ofClient.entry ofClient.opened
    · exact ⟨stepTo.consistent consistent, placed.register stepTo main⟩
  · obtain ⟨openPorts, rfl⟩ := Daemon.closePort_frame closes
    refine ⟨⟨row, rows, ledger.onward ledger.inHand rfl rfl rfl ?_ fun _ => .refl _⟩, after.imp id fun stepTo => ?_⟩
    · exact fun port ofClient => attached port ofClient.noFault ofClient.entry ofClient.opened
    · exact ⟨stepTo.consistent consistent, placed.onRegistry stepTo (by simp)⟩
  · refine ⟨⟨row, rows, ledger.onward ledger.inHand rfl rfl rfl ?_ fun _ => .refl _⟩, after.imp id fun stepTo => ?_⟩
    · exact fun port ofClient => attached port ofClient.noFault ofClient.entry ofClient.opened
    · exact ⟨stepTo.consistent consistent, placed.onRegistry stepTo accepts⟩

/-- `onConnected` comes to its end. -/
theorem openPort (sessions : Sessions s address) (alive : s.registry.fault.isSome = false)
    (clear : OpensClear address s .openPort) (stepped : s.openPortStep = some t) : Sessions t address := by
  obtain ⟨row, rows, ledger⟩ := sessions.ledger
  obtain ⟨consistent, placed⟩ := sessions.placed.resolve_left (by simp [alive])
  obtain ⟨other, opening, ⟨-, faulty, registry, rfl⟩ | ⟨client, object, rfl⟩⟩ := Daemon.openPortStep_cases stepped
  · refine ⟨⟨row, rows, ledger.onward ledger.inHand rfl rfl rfl ?_ fun _ => .refl _⟩, .inl faulty⟩
    intro port attached
    have noFault : registry.fault = none := attached.noFault
    simp [noFault] at faulty
  have buffer : (s.rx.openPort client.appPort).2.inBuffer = s.rx.inBuffer := by rw [openPort_frame]
  refine ⟨⟨row, rows, ?_⟩, .inr ⟨consistent, placed.openPort consistent opening object⟩⟩
  rcases Classical.em (other = address) with rfl | different
  · obtain ⟨held, handling, inHand⟩ := clear opening client object
    refine ledger.openPort ?_ ?_ held handling inHand buffer
    · by_contra opened
      obtain ⟨count, member⟩ := Option.ne_none_iff_exists'.mp opened
      exact (placed.opened count member).2.1.2 opening
    · intro port entry
      obtain ⟨client', object', rfl⟩ := portOf_eq_some.mp (portOf_of_entry consistent entry)
      have same : s.client other = some client' := object'
      rw [Option.some.inj (same.symm.trans object)]
  · exact ledger.openOther different buffer

/-- The link thread and the assembly thread go on. -/
theorem onReceiver (sessions : Sessions s address) {event : DaemonEvent} (alive : s.registry.fault.isSome = false)
    (clear : OpensClear address s event) (stepped : s.receiverStep event = some t) : Sessions t address := by
  obtain ⟨row, rows, ledger⟩ := sessions.ledger
  obtain ⟨consistent, placed⟩ := sessions.placed.resolve_left (by simp [alive])
  have before (count : ℕ) (member : count ∈ s.opened address) : count ≤ s.received.length :=
    (placed.opened count member).1
  cases event with
  | receive packet =>
    have longer : s.received <+: s.received ++ [packet] := List.prefix_append _ _
    obtain ⟨free, rfl | ⟨_, _, rfl⟩⟩ := Daemon.receive_cases stepped
    · exact ⟨⟨row, rows, ledger.receive free (.inl rfl) rfl before⟩, .inr ⟨consistent, placed.congr rfl rfl rfl longer⟩⟩
    · refine ⟨⟨row, rows, ?_⟩, .inr ⟨consistent, placed.congr rfl rfl rfl longer⟩⟩
      exact ledger.receive free (.inr free) rfl before
  | receiveData =>
    obtain ⟨packet, handling, rfl⟩ := Daemon.of_receiveData stepped
    exact ⟨⟨row, rows, ledger.receiveData handling⟩,
      .inr ⟨consistent, placed.congr rfl rfl rfl (List.prefix_refl _)⟩⟩
  | consume =>
    obtain ⟨free, delivery, rx, consumes, rfl⟩ := Daemon.of_consume stepped
    obtain ⟨row', ledger'⟩ := ledger.consume free consumes
    exact ⟨⟨row', rows, ledger'⟩, .inr ⟨consistent, placed.congr rfl rfl rfl (List.prefix_refl _)⟩⟩
  | forward results =>
    obtain ⟨delivery, registry, inHand, steps, rfl⟩ := Daemon.of_forward stepped
    have after := stepTo_of_step consistent steps
    have done : InHandIs (if registry.registry.clientsMutexHeld then .mutex else .nothing) [] := by
      split <;> rfl
    have entries (port : UInt8) (noFault : registry.fault = none)
        (entry : registry.registry.clients port = some (some address)) :
        s.registry.registry.clients port = some (some address) ∧
          (s.registry.registry.clients delivery.port = some (some address) → port = delivery.port) := by
      have stepTo := after.resolve_left (by simp [noFault])
      have earlier := (entry_of_stepTo stepTo entry).resolve_right (by simp)
      refine ⟨earlier, fun own => ?_⟩
      exact Option.some.inj ((portOf_of_entry consistent earlier).symm.trans (portOf_of_entry consistent own))
    obtain ⟨rows', ledger'⟩ := ledger.forward (by simpa using alive) inHand (clear delivery inHand) done entries
    refine ⟨⟨[], rows', ledger'⟩, after.imp id fun stepTo => ⟨stepTo.consistent consistent, ?_⟩⟩
    have there : Placed { s with registry } address := placed.onRegistry stepTo (by simp)
    exact there.congr rfl rfl rfl (List.prefix_refl _)
  | _ => contradiction

theorem step (sessions : Sessions s address) {event : DaemonEvent} (clear : OpensClear address s event)
    (stepped : s.step event = some t) : Sessions t address := by
  have alive := Daemon.alive_of_step stepped
  simp only [Daemon.step, alive, Bool.false_eq_true, if_false] at stepped
  cases event with
  | registry event => exact sessions.onRegistry alive stepped
  | openPort => exact sessions.openPort alive clear stepped
  | receive | receiveData | consume | forward => exact sessions.onReceiver alive clear stepped
  | onApplicationMessage | enqueue | write | iterate | setChannelAvailable | scheduleSync =>
    obtain ⟨row, rows, ledger⟩ := sessions.ledger
    obtain ⟨sender, calls, produced, rfl⟩ := Daemon.senderStep_frame stepped
    refine ⟨⟨row, rows, ledger.onward ledger.inHand rfl rfl rfl ?_ fun _ => .refl _⟩, ?_⟩
    · exact fun _ attached => ⟨attached.noFault, attached.entry, attached.opened⟩
    · exact sessions.placed.imp id (And.imp id fun placed => placed.congr rfl rfl rfl (List.prefix_refl _))

end Sessions

/-- The client has the port, and no message is in hand. -/
structure Serving (s : Daemon) (address : ℕ) : Prop where
  noFault : s.registry.fault = none
  entry : s.registry.registry.clients 5 = some (some address)
  free : s.registry.registry.clientsMutexHeld = false
  handling : s.handling = none
  inHand : s.inHand = .nothing
  forwarded : s.forwarded = []

/-- The message is received. -/
theorem step_receive_byte (noFault : s.registry.fault = none) (handling : s.handling = none)
    (listening : Listening s.rx) {meets : Daemon → DaemonEvent → Prop} (receives : ∀ u, meets u (.receive byteOnPort5))
    (writes : ∀ u, meets u .receiveData) : Run Daemon.step meets s [.receive byteOnPort5, .receiveData]
      { s with rx := s.rx.receiveData byteOnPort5, received := s.received ++ [byteOnPort5], handling := none } := by
  have accepted : s.rx.accepts byteOnPort5 = true := by
    refine accepts_fragmentOf _ _ _ _ listening.active ?_
    simp [isPortOpen, listening.isOpen, listening.active]
  have tests : s.step (.receive byteOnPort5) = some { s with
      handling := some byteOnPort5, received := s.received ++ [byteOnPort5] } := by
    simp [Daemon.step, noFault, Daemon.receiverStep, listening.free, handling, accepted]
  refine .cons (receives s) tests (.cons (writes _) ?_ (.nil _))
  simp [Daemon.step, noFault, Daemon.receiverStep, listening.free]

/-- The message is consumed and forwarded to the client that has the port by then. -/
theorem Serving.delivers (serving : Serving s address) (holds : HoldsByte s.rx) {meets : Daemon → DaemonEvent → Prop}
    (consumes : ∀ u, meets u .consume) (forwards : ∀ u results, u.opened = s.opened → meets u (.forward results)) :
    ∃ t call, Run Daemon.step meets s [.consume, .forward fun _ => ⟨1, 1, 1⟩] t ∧ call.data.isSome ∧
      forwardedTo t address = [call] ∧ receivedSince t address = receivedSince s address := by
  have message : IsMessage (s.rx.currentPortSequence 5) [byteOnPort5] := by
    rw [holds.expected]
    exact .last (by simp) (by simp) (by simp)
  have held : s.rx.inBuffer.held 5 = [byteOnPort5] ++ [] := holds.held
  obtain ⟨rx, takes, -⟩ := getNextCompleteMessage_of_message holds.active holds.first holds.counted held message
  set delivery : Delivery := ⟨some (assembled [byteOnPort5]), lengthSum [byteOnPort5], codeSuccess, 5⟩ with isDelivery
  have call : s.registry.registry.sendCall delivery = some ⟨address, delivery.data, delivery.len⟩ := by
    simp [Registry.sendCall, isDelivery, serving.entry]
  obtain ⟨registry, steps⟩ : ∃ registry,
      s.registry.step (.perform (.deliverMessage delivery) fun _ => ⟨1, 1, 1⟩) = some registry := by
    simp [RegistrySystem.step, serving.noFault, serving.free]
  have consumed : s.step .consume = some { s with rx := rx.refreshAvailability 5, inHand := .message delivery } := by
    simp [Daemon.step, serving.noFault, Daemon.receiverStep, holds.free, serving.inHand, holds.available, takes]
  set mid : Daemon := { s with rx := rx.refreshAvailability 5, inHand := .message delivery }
  have forwarded : mid.step (.forward fun _ => ⟨1, 1, 1⟩) = some { mid with
      registry
      inHand := if registry.registry.clientsMutexHeld then .mutex else .nothing
      forwarded := s.forwarded ++ (s.registry.registry.sendCall delivery).toList } := by
    simp [mid, Daemon.step, serving.noFault, Daemon.receiverStep, steps]
  have run := Run.cons (consumes s) consumed (.cons (forwards mid _ rfl) forwarded (.nil _))
  refine ⟨_, ⟨address, delivery.data, delivery.len⟩, run, rfl, ?_, rfl⟩
  simp [forwardedTo, serving.forwarded, call]

/-- A client has connected on port 5. -/
def connectedOn5 : Daemon where
  registry :=
    { registry :=
        { heap := Function.update (fun _ => none) 0 (some ⟨5, 0, true⟩)
          clients := ByteMap.empty.insert 5 (some 0) }
      thread := Function.update (fun _ => none) 0 (some .running)
      nextAddress := 1 }
  rx := listeningOn5.rx
  sender := .started default
  opened := Function.update (fun _ => none) 0 (some 0)

theorem run_connectedOn5 {meets : Daemon → DaemonEvent → Prop} (registry : ∀ u event, meets u (.registry event))
    (opens : ∀ u, u.opening = some 0 → meets u .openPort) :
    Run Daemon.step meets (Daemon.started default) (connecting 5) connectedOn5 :=
  .cons (registry _ _) rfl (.cons (registry _ _) rfl (.cons (registry _ _) rfl (.cons (registry _ _) rfl (
    .cons (opens _ rfl) rfl (.nil _)))))

/-- The client leaves, and another one connects. -/
def reconnecting : List DaemonEvent :=
  [.registry (.lose 0), .registry (.report 0), .registry (.finish 0), .registry .accept, .registry .cleanPort,
    .registry .join, .registry .endCleanup, .registry (.configure 5 0), .registry .register, .openPort]

/-- What is in the queues stays there. -/
theorem exists_run_reconnecting {meets : Daemon → DaemonEvent → Prop} (registry : ∀ u event, meets u (.registry event))
    {rx : RxModule} {received : List S3tpPacket}
    (opens : ∀ u, u.rx.inBuffer = rx.inBuffer → u.client 1 = some ⟨5, 0, true⟩ → u.handling = none →
      u.inHand = .nothing → meets u .openPort)
    (frame : ∃ inBuffer toConsumeGlobalSeq lastReceivedGlobalSeq receivingWindow availableMessages,
      rx = { listeningOn5.rx with
        inBuffer, toConsumeGlobalSeq, lastReceivedGlobalSeq, receivingWindow, availableMessages }) :
    ∃ s openPorts, Run Daemon.step meets { connectedOn5 with rx, received } reconnecting s ∧ Serving s 1 ∧
      s.rx = { rx with openPorts } ∧ (openPorts 5).isSome ∧ s.received = received ∧
        s.opened 1 = some received.length := by
  obtain ⟨inBuffer, toConsumeGlobalSeq, lastReceivedGlobalSeq, receivingWindow, availableMessages, rfl⟩ := frame
  refine ⟨_, (listeningOn5.rx.openPorts.erase 5).insert 5 1, .cons (registry _ _) rfl (.cons (registry _ _) rfl (
    .cons (registry _ _) rfl (.cons (registry _ _) rfl (.cons (registry _ _) rfl (.cons (registry _ _) rfl (
    .cons (registry _ _) rfl (.cons (registry _ _) rfl (
    .cons (registry _ _) rfl (.cons (opens _ rfl rfl rfl rfl) rfl (.nil _)))))))))), ?_, ?_, ?_, ?_, ?_⟩
  · exact ⟨rfl, rfl, rfl, rfl, rfl, rfl⟩
  · rfl
  · rfl
  · rfl
  · rfl

end S3tp.Soundness
