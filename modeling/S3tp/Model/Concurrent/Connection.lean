import S3tp.Model.Concurrent.TxSystem
import S3tp.Model.Concurrent.RxSystem

/-! # A sender and a receiver

The frames that one transmitting module hands to its link reach one receiving module in the order in
which they were sent, each of them once. Those sent and not yet received are on their way; there is
nothing else between the two.

Two connections that are given the same events, one of them without what concerns sync frames, show
what these frames bring about.
-/

namespace S3tp.Model.Concurrent

open Core Machine

inductive ConnectionEvent (ι : Type*) where
  | sender (event : TxEvent ι)
  | deliver
  | openPort (port : UInt8)
  | closePort (port : UInt8)
  | consume

structure Connection (ι : Type*) where
  sender : TxSystem ι
  receiver : RxSystem

def isSyncFrame (frame : S3tpPacket) : Bool := frame.header.getMessageType == msgSync

namespace Connection

variable {ι : Type*}

/-- Both modules freshly reset and started. -/
def started (fresh : S3tpHeader) : Connection ι := { sender := .started fresh, receiver := .started }

/-- The frames on their way, oldest first. -/
def inFlight (s : Connection ι) : List S3tpPacket := s.sender.link.drop s.receiver.received.length

/-- What the event is to the receiver. -/
def received (s : Connection ι) : ConnectionEvent ι → Option RxEvent
  | .sender _ => none
  | .deliver => s.inFlight.head?.map .receive
  | .openPort port => some (.openPort port)
  | .closePort port => some (.closePort port)
  | .consume => some .consume

def step [DecidableEq ι] (s : Connection ι) : ConnectionEvent ι → Option (Connection ι)
  | .sender event => (s.sender.step event).map fun sender => { s with sender }
  | event => (s.received event).bind fun event =>
      (s.receiver.step event).map fun receiver => { s with receiver }

/-- The event schedules a sync frame, or delivers one. -/
def concernsSync (s : Connection ι) : ConnectionEvent ι → Bool
  | .sender (.scheduleSync _) => true
  | .deliver => s.inFlight.head?.any isSyncFrame
  | _ => false

/-- One step of two connections, the second of which is spared what concerns sync frames. -/
def stepWithout [DecidableEq ι] (pair : Connection ι × Connection ι) (event : ConnectionEvent ι) :
    Option (Connection ι × Connection ι) :=
  if pair.1.concernsSync event then (pair.1.step event).map fun first => (first, pair.2)
  else both step pair event

/-- Nothing is left to be written, sent, received or consumed. -/
structure Settled (s : Connection ι) : Prop where
  pending : ∀ caller, s.sender.pending caller = none
  queued : s.sender.tx.outBuffer.packetsAvailable = false
  inFlight : s.inFlight = []
  consumed : s.receiver.rx.isNewMessageAvailable = false

/-- The messages returned for the port, oldest first. -/
def returnedOn (s : Connection ι) (port : UInt8) : List Delivery :=
  s.receiver.delivered.filter fun delivery => delivery.error = codeSuccess ∧ delivery.port = port

/-! ## What a step can do -/

theorem of_sender [DecidableEq ι] {s t : Connection ι} {event : TxEvent ι}
    (stepped : s.step (.sender event) = some t) :
    ∃ sender, s.sender.step event = some sender ∧ t = { s with sender } := by
  obtain ⟨sender, steps, rfl⟩ := Option.map_eq_some_iff.mp stepped
  exact ⟨sender, steps, rfl⟩

theorem of_deliver [DecidableEq ι] {s t : Connection ι} (stepped : s.step .deliver = some t) :
    ∃ frame rest receiver, s.inFlight = frame :: rest ∧ s.receiver.step (.receive frame) = some receiver ∧
      t = { s with receiver } := by
  obtain ⟨event, found, mapped⟩ := Option.bind_eq_some_iff.mp stepped
  obtain ⟨frame, first, rfl⟩ := Option.map_eq_some_iff.mp found
  obtain ⟨receiver, steps, rfl⟩ := Option.map_eq_some_iff.mp mapped
  obtain ⟨rest, flight⟩ := List.head?_eq_some_iff.mp first
  exact ⟨frame, rest, receiver, flight, steps, rfl⟩

theorem step_deliver [DecidableEq ι] {s : Connection ι} {frame : S3tpPacket} {rest : List S3tpPacket}
    (flight : s.inFlight = frame :: rest) : s.step .deliver =
      (s.receiver.step (.receive frame)).map fun receiver => { s with receiver } := by
  simp only [step, received, flight]
  rfl

theorem step_deliver_data [DecidableEq ι] {s : Connection ι} {frame : S3tpPacket} {rest : List S3tpPacket}
    (flight : s.inFlight = frame :: rest) (free : s.receiver.rx.rxMutexHeld = false)
    (accepted : s.receiver.rx.accepts frame = true) : s.step .deliver = some { s with receiver :=
      { s.receiver with rx := s.receiver.rx.receiveData frame, received := s.receiver.received ++ [frame] } } := by
  rw [step_deliver flight, RxSystem.step_receive free accepted]
  rfl

theorem of_openPort [DecidableEq ι] {s t : Connection ι} {port : UInt8} (stepped : s.step (.openPort port) = some t) :
    ∃ receiver, s.receiver.step (.openPort port) = some receiver ∧ t = { s with receiver } := by
  obtain ⟨receiver, steps, rfl⟩ := Option.map_eq_some_iff.mp stepped
  exact ⟨receiver, steps, rfl⟩

theorem of_closePort [DecidableEq ι] {s t : Connection ι} {port : UInt8}
    (stepped : s.step (.closePort port) = some t) :
    ∃ receiver, s.receiver.step (.closePort port) = some receiver ∧ t = { s with receiver } := by
  obtain ⟨receiver, steps, rfl⟩ := Option.map_eq_some_iff.mp stepped
  exact ⟨receiver, steps, rfl⟩

theorem of_consume [DecidableEq ι] {s t : Connection ι} (stepped : s.step .consume = some t) :
    ∃ receiver, s.receiver.step .consume = some receiver ∧ t = { s with receiver } := by
  obtain ⟨receiver, steps, rfl⟩ := Option.map_eq_some_iff.mp stepped
  exact ⟨receiver, steps, rfl⟩

theorem link_prefix_of_step [DecidableEq ι] {s t : Connection ι} {event : ConnectionEvent ι}
    (stepped : s.step event = some t) : s.sender.link <+: t.sender.link := by
  cases event with
  | sender event =>
    obtain ⟨sender, steps, rfl⟩ := of_sender stepped
    exact TxSystem.link_prefix_of_step steps
  | deliver =>
    obtain ⟨_, _, receiver, -, -, rfl⟩ := of_deliver stepped
    exact List.prefix_rfl
  | openPort port =>
    obtain ⟨receiver, -, rfl⟩ := of_openPort stepped
    exact List.prefix_rfl
  | closePort port =>
    obtain ⟨receiver, -, rfl⟩ := of_closePort stepped
    exact List.prefix_rfl
  | consume =>
    obtain ⟨receiver, -, rfl⟩ := of_consume stepped
    exact List.prefix_rfl

/-- The frames received are the first ones sent, and the others are on their way. -/
theorem received_append_inFlight {s : Connection ι} (inOrder : s.receiver.received <+: s.sender.link) :
    s.receiver.received ++ s.inFlight = s.sender.link := (List.prefix_iff_eq_append.mp inOrder)

theorem inOrder_of_step [DecidableEq ι] {s t : Connection ι} {event : ConnectionEvent ι}
    (inOrder : s.receiver.received <+: s.sender.link) (stepped : s.step event = some t) :
    t.receiver.received <+: t.sender.link := by
  cases event with
  | sender event =>
    obtain ⟨sender, steps, rfl⟩ := of_sender stepped
    exact inOrder.trans (TxSystem.link_prefix_of_step steps)
  | deliver =>
    obtain ⟨frame, rest, receiver, flight, steps, rfl⟩ := of_deliver stepped
    obtain ⟨rx, -, rfl⟩ := RxSystem.of_receive steps
    have link := received_append_inFlight inOrder
    rw [flight] at link
    exact ⟨rest, by simpa using link⟩
  | openPort port =>
    obtain ⟨receiver, steps, rfl⟩ := of_openPort stepped
    obtain rfl := RxSystem.of_openPort steps
    exact inOrder
  | closePort port =>
    obtain ⟨receiver, steps, rfl⟩ := of_closePort stepped
    obtain rfl := RxSystem.of_closePort steps
    exact inOrder
  | consume =>
    obtain ⟨receiver, steps, rfl⟩ := of_consume stepped
    obtain ⟨_, _, -, rfl⟩ := RxSystem.of_consume steps
    exact inOrder

/-! ## Two connections -/

theorem stepWithout_of_concernsSync [DecidableEq ι] {pair : Connection ι × Connection ι} {first : Connection ι}
    {event : ConnectionEvent ι} (concerns : pair.1.concernsSync event = true)
    (stepped : pair.1.step event = some first) : stepWithout pair event = some (first, pair.2) := by
  simp [stepWithout, concerns, stepped]

theorem stepWithout_of_spared [DecidableEq ι] {pair : Connection ι × Connection ι} {first second : Connection ι}
    {event : ConnectionEvent ι} (spared : pair.1.concernsSync event = false)
    (stepped : pair.1.step event = some first) (stepped' : pair.2.step event = some second) :
    stepWithout pair event = some (first, second) := by
  simp [stepWithout, spared, both_eq_some_iff, stepped, stepped']

/-- The first of the two connections takes every step, the second those that are not spared it. -/
theorem runs_of_stepWithout [DecidableEq ι] {meets : Connection ι × Connection ι → ConnectionEvent ι → Prop}
    {pair pair' : Connection ι × Connection ι} {events : List (ConnectionEvent ι)}
    (run : Run stepWithout meets pair events pair') : Run step Always pair.1 events pair'.1 ∧
      ∃ others, others.Sublist events ∧ (∀ syncId, .sender (.scheduleSync syncId) ∉ others) ∧
        Run step Always pair.2 others pair'.2 := by
  induction run with
  | nil => exact ⟨.nil _, [], .slnil, fun _ => List.not_mem_nil, .nil _⟩
  | @cons pair mid _ event events met stepped _ ih =>
    obtain ⟨first, others, sublist, unscheduled, second⟩ := ih
    rw [stepWithout] at stepped
    split at stepped
    · obtain ⟨next, steps, rfl⟩ := Option.map_eq_some_iff.mp stepped
      exact ⟨.cons trivial steps first, others, sublist.cons event, unscheduled, second⟩
    · next concerns =>
      obtain ⟨steps, steps'⟩ := both_eq_some_iff.mp stepped
      refine ⟨.cons trivial steps first, event :: others, sublist.cons_cons event, ?_, .cons trivial steps' second⟩
      intro syncId member
      rcases List.mem_cons.mp member with rfl | member
      · exact concerns rfl
      · exact unscheduled syncId member

end Connection

end S3tp.Model.Concurrent
