import S3tp.Model.Concurrent.ClientSocket

/-! # Whole frames on a client's socket

The client's thread answers without `clients_mutex`, so its call may start inside a frame of another
thread, and another thread's call inside an answer. When every call starts while no thread is in one,
the stream is a row of whole frames.
-/

namespace S3tp.Soundness

open Machine Model.Core Model.Concurrent Model.Concurrent.ClientSocket

variable {s next : ClientSocket} {thread : SocketThread} {message : DaemonMessage} {event : SocketEvent}

theorem call_cases (stepped : s.step (.call thread message) = some next) :
    ∃ first rest, message.writes = first :: rest ∧ next.stream = s.stream ++ first ∧
      next.pending = Function.update s.pending thread rest ∧ next.sent = s.sent ++ [message] := by
  simp only [ClientSocket.step] at stepped
  split at stepped
  · contradiction
  · split at stepped
    · contradiction
    · next first rest parts =>
      obtain rfl := Option.some.inj stepped
      exact ⟨first, rest, parts, rfl, rfl, rfl⟩

theorem write_cases (stepped : s.step (.write thread) = some next) :
    ∃ bytes rest, s.pending thread = bytes :: rest ∧ (bytes ≠ [] → next.stream = s.stream ++ bytes ∧
      next.pending = Function.update s.pending thread rest ∧ next.sent = s.sent) := by
  simp only [ClientSocket.step] at stepped
  split at stepped
  · contradiction
  · next rest parts => exact ⟨[], rest, parts, fun some => absurd rfl some⟩
  · next bytes rest _ parts =>
    split at stepped
    · contradiction
    · obtain rfl := Option.some.inj stepped
      exact ⟨bytes, rest, parts, fun _ => ⟨rfl, rfl, rfl⟩⟩

/-- Every write of a frame writes something. -/
theorem ne_nil_of_mem_writes (nonempty : message.Nonempty) {bytes : List UInt8} (member : bytes ∈ message.writes) :
    bytes ≠ [] := by
  cases message with
  | control reply =>
    simp only [DaemonMessage.writes, S3tpControl.writes, List.mem_cons, List.not_mem_nil, or_false] at member
    rcases member with rfl | rfl <;> simp
  | data message =>
    simp only [DaemonMessage.writes, AppMessage.writes, List.mem_cons, List.not_mem_nil, or_false] at member
    rcases member with rfl | rfl | rfl
    · simp
    · apply List.ne_nil_of_length_pos
      rw [length_writeLengthSafe]
      decide
    · exact nonempty

/-- A frame takes more than one write. -/
theorem rest_ne_nil {first : List UInt8} {rest : List (List UInt8)} (parts : message.writes = first :: rest) :
    rest ≠ [] := by
  rintro rfl
  cases message <;> simp [DaemonMessage.writes, AppMessage.writes, S3tpControl.writes] at parts

/-- No thread is in a call, or one of them is, and what it has left is the end of the last frame. -/
inductive Orderly (s : ClientSocket) : Prop
  | between (idle : ∀ thread, s.pending thread = []) (stream : s.stream = s.sent.flatMap DaemonMessage.frame)
  | within (thread : SocketThread) (whole : List DaemonMessage) (message : DaemonMessage) (written : List (List UInt8))
    (sent : s.sent = whole ++ [message]) (parts : message.writes = written ++ s.pending thread)
    (unfinished : s.pending thread ≠ []) (others : ∀ other, other ≠ thread → s.pending other = [])
    (stream : s.stream = whole.flatMap DaemonMessage.frame ++ written.flatten)

/-- What holds of a socket whose calls are made alone. -/
structure WellFramed (s : ClientSocket) : Prop where
  orderly : Orderly s
  nonempty : ∀ message ∈ s.sent, message.Nonempty

theorem wellFramed_start : WellFramed start := ⟨.between (fun _ => rfl) rfl, by simp [start]⟩

theorem WellFramed.call (framed : WellFramed s) (alone : s.Alone (.call thread message))
    (stepped : s.step (.call thread message) = some next) : WellFramed next := by
  obtain ⟨first, rest, parts, stream, pending, sent⟩ := call_cases stepped
  obtain ⟨quiet, nonempty⟩ := alone
  have idle (other : SocketThread) : s.pending other = [] := by simpa [writing] using quiet other
  constructor
  · cases framed.orderly with
    | within other _ _ _ _ _ unfinished => exact absurd (idle other) unfinished
    | between _ before =>
      refine .within thread s.sent message [first] sent ?_ ?_ ?_ ?_
      · rw [parts, pending, Function.update_self]
        rfl
      · rw [pending, Function.update_self]
        exact rest_ne_nil parts
      · intro other different
        rw [pending, Function.update_of_ne different, idle]
      · rw [stream, before, List.flatten_singleton]
  · intro other member
    rw [sent, List.mem_append, List.mem_singleton] at member
    rcases member with earlier | rfl
    · exact framed.nonempty other earlier
    · exact nonempty

theorem WellFramed.write (framed : WellFramed s) (stepped : s.step (.write thread) = some next) :
    WellFramed next := by
  obtain ⟨bytes, rest, now, wrote⟩ := write_cases stepped
  cases framed.orderly with
  | between idle => simp [idle] at now
  | within owner whole message written sent parts unfinished others before =>
    obtain rfl : owner = thread := by
      by_contra different
      simp [others thread (Ne.symm different)] at now
    rw [now] at parts
    have nonempty : message.Nonempty := framed.nonempty message (by simp [sent])
    have some : bytes ≠ [] := ne_nil_of_mem_writes nonempty (by simp [parts])
    obtain ⟨stream, pending, sent'⟩ := wrote some
    refine ⟨?_, sent' ▸ framed.nonempty⟩
    have left : next.pending owner = rest := by rw [pending, Function.update_self]
    have quiet (other : SocketThread) (different : other ≠ owner) : next.pending other = [] := by
      rw [pending, Function.update_of_ne different, others other different]
    have written' : next.stream = whole.flatMap DaemonMessage.frame ++ (written ++ [bytes]).flatten := by
      rw [stream, before, List.append_assoc, List.flatten_append, List.flatten_singleton]
    rcases rest.eq_nil_or_concat with rfl | ⟨_, _, more⟩
    · refine .between (fun other => ?_) ?_
      · rcases Classical.em (other = owner) with rfl | different
        · exact left
        · exact quiet other different
      · rw [written', sent', sent, List.flatMap_append, List.flatMap_singleton, DaemonMessage.frame, parts]
    · refine .within owner whole message (written ++ [bytes]) (sent'.trans sent) ?_ ?_ quiet written'
      · rw [left, parts, List.append_assoc, List.singleton_append]
      · rw [left, more]
        simp

theorem WellFramed.step (framed : WellFramed s) (alone : s.Alone event) (stepped : s.step event = some next) :
    WellFramed next := by
  cases event with
  | call thread message => exact framed.call alone stepped
  | write thread => exact framed.write stepped

theorem WellFramed.untorn (framed : WellFramed s) : s.Untorn := by
  have heard := framed.nonempty
  cases framed.orderly with
  | between idle stream =>
    refine ⟨s.sent, [], by rw [stream, List.append_nil], ?_, .inl ⟨rfl, rfl⟩⟩
    rw [stream, ← List.append_nil (s.sent.flatMap _)]
    exact listen_frames heard rfl
  | within thread whole message written sent parts unfinished others stream =>
    refine ⟨whole, written.flatten, stream, ?_, .inr ⟨thread, message, sent, ?_, ?_⟩⟩
    · rw [stream]
      refine listen_frames (fun other member => heard other (by simp [sent, member])) ?_
      exact listenerPass_part (heard message (by simp [sent])) parts unfinished
    · simpa [writing] using unfinished
    · rw [DaemonMessage.frame, parts, List.flatten_append]

/-- When every call is made alone, no frame is torn at any time. -/
theorem untorn_of_alone (events : List SocketEvent) (run : Run ClientSocket.step Alone start events s) :
    s.Untorn :=
  (run.invariant (fun _ _ _ framed alone stepped => framed.step alone stepped) wellFramed_start).untorn

/-- A message of one byte. -/
def delivered : DaemonMessage := .data ⟨[5], by decide⟩

/-- The answer to a message that has been accepted. -/
def answer : DaemonMessage := .control (.answerTo codeSuccess)

/-- The message is passed on, and then the client's thread answers. -/
def inTurn : List SocketEvent :=
  [.call .assembly delivered, .write .assembly, .write .assembly, .call .client answer, .write .client]

theorem untorn_of_alone_inTurn : ∃ s : ClientSocket, s.sent = [delivered, answer] ∧ s.Untorn := by
  have quiet (thread : SocketThread) : start.writing thread = false := rfl
  refine ⟨_, ?_, untorn_of_alone inTurn (.cons ⟨quiet, by decide⟩ rfl
    (.cons trivial rfl (.cons trivial rfl (.cons ⟨?_, trivial⟩ rfl (.cons trivial rfl (.nil _))))))⟩
  · rfl
  · intro thread
    cases thread <;> rfl

/-- The client's thread answers when the type of the data frame has been written. -/
def inside : List SocketEvent :=
  [.call .assembly delivered, .call .client answer, .write .client, .write .assembly, .write .assembly]

/-- The state after these events, as far as it matters. -/
theorem inside_run : (inside.foldlM ClientSocket.step start).map (fun s =>
      (s.sent, [SocketThread.assembly, .client, .link, .transmit].map s.writing, (listen s.stream).1)) =
    some ([delivered, answer], [false, false, false, false], []) := by
  decide +kernel

/-- The answer is taken for a part of the length, and nothing is heard. -/
theorem not_untorn : ¬ ∀ (events : List SocketEvent) (s : ClientSocket),
    Run ClientSocket.step Always start events s → s.Untorn := by
  intro untorn
  obtain ⟨s, runs, facts⟩ := Option.map_eq_some_iff.mp inside_run
  simp only [List.map_cons, List.map_nil, Prod.mk.injEq, List.cons.injEq] at facts
  obtain ⟨sent, ⟨assembly, client, link, transmit, -⟩, heard⟩ := facts
  obtain ⟨whole, part, -, hears, done | ⟨thread, _, -, busy, -⟩⟩ := untorn inside s (Run.always_iff.mpr runs)
  · rw [hears, List.map_eq_nil_iff] at heard
    rw [done.1, heard] at sent
    contradiction
  · cases thread <;> simp_all

end S3tp.Soundness
