import S3tp.Model.Concurrent.Connection

/-! # Payloads from one instance to another

`sendToLinkLayer` is called on one instance, with one call under way on a port at a time, while its
transmit thread loops and the other instance receives and consumes. A call is admitted or refused when
it is made. After that it makes its calls of `enqueuePacket` one after the other, each in the two steps
of the transmitting module, and it returns `CODE_SUCCESS` behind the last of them.

`accepted` is a history: the payloads whose calls have returned that code.
-/

namespace S3tp.Model.Concurrent

open Core Machine

inductive TransferEvent where
  | call (m : Submission) (fresh : ℕ → S3tpHeader)
  | enqueue (port : UInt8)
  | write (port : UInt8)
  | iterate (link : LinkStatus)
  | setChannelAvailable (channel : UInt8) (available : Bool)
  | deliver
  | openPort (port : UInt8)
  | closePort (port : UInt8)
  | consume

/-- A call of `sendToLinkLayer` that has been admitted, and the calls it has still to make. -/
structure CallUnderWay where
  submission : Submission
  remaining : List EnqueueCall

structure Transfer where
  connection : Connection UInt8
  calls : UInt8 → Option CallUnderWay := fun _ => none
  accepted : List Submission := []

namespace Transfer

/-- Both instances freshly reset and started. -/
def started (fresh : S3tpHeader) : Transfer := { connection := .started fresh }

/-- What the connection does in a step that no call takes part in. -/
def onConnection : TransferEvent → Option (ConnectionEvent UInt8)
  | .iterate link => some (.sender (.iterate link))
  | .setChannelAvailable channel available => some (.sender (.setChannelAvailable channel available))
  | .deliver => some .deliver
  | .openPort port => some (.openPort port)
  | .closePort port => some (.closePort port)
  | .consume => some .consume
  | _ => none

def step (s : Transfer) : TransferEvent → Option Transfer
  | .call m fresh =>
      if 127 < m.port || (s.calls m.port).isSome then none
      else if s.connection.sender.tx.admission m ≠ codeSuccess then some s
      else some { s with calls := Function.update s.calls m.port (some ⟨m, m.calls fresh⟩) }
  | .enqueue port =>
      match s.calls port with
      | some ⟨m, call :: rest⟩ =>
          -- A module that is not active makes the call return with its error.
          if !s.connection.sender.tx.active then some { s with calls := Function.update s.calls port none }
          else (s.connection.step (.sender (.enqueue port call.packet call.fragNo call.moreFragments))).map
            fun connection => { s with connection, calls := Function.update s.calls port (some ⟨m, rest⟩) }
      | _ => none
  | .write port =>
      match s.calls port with
      | none => none
      | some ⟨m, remaining⟩ =>
          (s.connection.step (.sender (.write port))).map fun connection =>
            if remaining.isEmpty then
              { connection, calls := Function.update s.calls port none, accepted := s.accepted ++ [m] }
            else { s with connection }
  | event => (onConnection event).bind fun event =>
      (s.connection.step event).map fun connection => { s with connection }

/-- The payloads accepted on the port, oldest first. -/
def acceptedOn (s : Transfer) (port : UInt8) : List Submission := s.accepted.filter fun m => m.port = port

/-! ## What a step can do -/

theorem of_call {s t : Transfer} {m : Submission} {fresh : ℕ → S3tpHeader} (stepped : s.step (.call m fresh) = some t) :
    m.port ≤ 127 ∧ s.calls m.port = none ∧ (t = s ∨ s.connection.sender.tx.admission m = codeSuccess ∧
      t = { s with calls := Function.update s.calls m.port (some ⟨m, m.calls fresh⟩) }) := by
  simp only [step] at stepped
  split at stepped
  · contradiction
  next idle =>
  simp only [Bool.or_eq_true, decide_eq_true_eq, not_or, UInt8.not_lt, Bool.not_eq_true,
    Option.isSome_eq_false_iff, Option.isNone_iff_eq_none] at idle
  split at stepped
  · obtain rfl := Option.some.inj stepped
    exact ⟨idle.1, idle.2, .inl rfl⟩
  · next admitted =>
    obtain rfl := Option.some.inj stepped
    exact ⟨idle.1, idle.2, .inr ⟨not_not.mp admitted, rfl⟩⟩

theorem of_enqueue {s t : Transfer} {port : UInt8} (active : s.connection.sender.tx.active = true)
    (stepped : s.step (.enqueue port) = some t) : ∃ m call rest connection, s.calls port = some ⟨m, call :: rest⟩ ∧
      s.connection.step (.sender (.enqueue port call.packet call.fragNo call.moreFragments)) = some connection ∧
      t = { s with connection, calls := Function.update s.calls port (some ⟨m, rest⟩) } := by
  simp only [step, active, Bool.not_true, Bool.false_eq_true, if_false] at stepped
  split at stepped
  · next m call rest underWay =>
    obtain ⟨connection, steps, rfl⟩ := Option.map_eq_some_iff.mp stepped
    exact ⟨m, call, rest, connection, underWay, steps, rfl⟩
  · contradiction

theorem of_write {s t : Transfer} {port : UInt8} (stepped : s.step (.write port) = some t) :
    ∃ m remaining connection, s.calls port = some ⟨m, remaining⟩ ∧
      s.connection.step (.sender (.write port)) = some connection ∧
      t = if remaining.isEmpty then
          { connection, calls := Function.update s.calls port none, accepted := s.accepted ++ [m] }
        else { s with connection } := by
  simp only [step] at stepped
  split at stepped
  · contradiction
  · next m remaining underWay =>
    obtain ⟨connection, steps, rfl⟩ := Option.map_eq_some_iff.mp stepped
    exact ⟨m, remaining, connection, underWay, steps, rfl⟩

theorem of_onConnection {s t : Transfer} {event : TransferEvent} {own : ConnectionEvent UInt8}
    (isOwn : onConnection event = some own) (stepped : s.step event = some t) :
    ∃ connection, s.connection.step own = some connection ∧ t = { s with connection } := by
  have same : s.step event = (s.connection.step own).map fun connection => { s with connection } := by
    cases event with
    | call | enqueue | write => contradiction
    | iterate | setChannelAvailable | deliver | openPort | closePort | consume =>
      obtain rfl := Option.some.inj isOwn
      rfl
  obtain ⟨connection, steps, rfl⟩ := Option.map_eq_some_iff.mp (same ▸ stepped)
  exact ⟨connection, steps, rfl⟩

/-- Every step is at most one step of the connection. -/
theorem connection_of_step {s t : Transfer} {event : TransferEvent} (stepped : s.step event = some t) :
    t.connection = s.connection ∨ ∃ own, s.connection.step own = some t.connection := by
  cases event with
  | call m fresh =>
    obtain ⟨-, -, rfl | ⟨-, rfl⟩⟩ := of_call stepped
    · exact .inl rfl
    · exact .inl rfl
  | enqueue port =>
    cases active : s.connection.sender.tx.active with
    | true =>
      obtain ⟨m, call, rest, connection, -, steps, rfl⟩ := of_enqueue active stepped
      exact .inr ⟨_, steps⟩
    | false =>
      simp only [step, active, Bool.not_false, if_true] at stepped
      split at stepped
      · obtain rfl := Option.some.inj stepped
        exact .inl rfl
      · contradiction
  | write port =>
    obtain ⟨m, remaining, connection, -, steps, rfl⟩ := of_write stepped
    refine .inr ⟨_, steps.trans ?_⟩
    split <;> rfl
  | iterate | setChannelAvailable | deliver | openPort | closePort | consume =>
    obtain ⟨connection, steps, rfl⟩ := of_onConnection rfl stepped
    exact .inr ⟨_, steps⟩

theorem link_prefix_of_step {s t : Transfer} {event : TransferEvent} (stepped : s.step event = some t) :
    s.connection.sender.link <+: t.connection.sender.link := by
  rcases connection_of_step stepped with same | ⟨own, steps⟩
  · rw [same]
  · exact Connection.link_prefix_of_step steps

end Transfer

end S3tp.Model.Concurrent
