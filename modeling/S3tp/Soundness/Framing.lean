import S3tp.Model.Core.ClientRoutine

/-! # Framing between an application and the daemon

The client thread reads types and payloads byte by byte if need be, but a length in one `read`. If that
read comes back short, the rest of the length stays in the stream and is taken for payload: the bytes
of the frames read so far no longer add up. So messages are recovered when no length is cut, and only
then.
-/

namespace S3tp.Soundness

open Machine Model.Core Model.Core.ClientRoutine

/-! ## Reading whole lengths -/

/-- Where a routine stands that has not lost track of the frames. -/
inductive OnTrack (messages : List AppMessage) : ClientRoutine → Prop
  | type {before rest : List AppMessage} (all : messages = before ++ rest) :
    OnTrack messages ⟨rest.flatMap AppMessage.frame, .type, before.map AppMessage.data⟩
  | length {before rest : List AppMessage} {message : AppMessage} (all : messages = before ++ message :: rest) :
    OnTrack messages ⟨writeLengthSafe message.data.length ++ (message.data ++ rest.flatMap AppMessage.frame),
      .length, before.map AppMessage.data⟩
  | payload {before rest : List AppMessage} {message : AppMessage} {taken left : List UInt8}
    (all : messages = before ++ message :: rest) (parts : message.data = taken ++ left) (more : left ≠ []) :
    OnTrack messages ⟨left ++ rest.flatMap AppMessage.frame, .payload message.data.length taken,
      before.map AppMessage.data⟩

variable {messages : List AppMessage} {s t next : ClientRoutine} {rd : SocketRead} {reads : List SocketRead}

theorem onTrack_start (messages : List AppMessage) : OnTrack messages (start messages) :=
  .type (List.nil_append messages).symm

theorem OnTrack.running (onTrack : OnTrack messages s) : s.place ≠ .closed := by
  cases onTrack <;> simp

/-- One more byte is asked for. -/
theorem OnTrack.asks (onTrack : OnTrack messages s) : 0 < s.requested := by
  cases onTrack with
  | type => exact Nat.one_pos
  | length => exact Nat.zero_lt_succ _
  | payload all parts more =>
    have left := List.length_pos_iff.mpr more
    simp only [requested, parts, List.length_append]
    omega

theorem OnTrack.step (nonempty : ∀ message ∈ messages, message.data ≠ []) (onTrack : OnTrack messages s)
    (whole : s.ReadsWholeLength rd) (stepped : s.step rd = some next) : OnTrack messages next := by
  obtain ⟨-, returns, rfl⟩ := step_eq_some stepped
  rw [Returns, if_neg onTrack.asks.ne'] at returns
  obtain ⟨positive, asked, there⟩ := returns
  cases onTrack with
  | @type before rest all =>
    obtain ⟨message, rest, rfl⟩ : ∃ message later, rest = message :: later := by
      apply List.exists_cons_of_ne_nil
      rintro rfl
      simp only [List.flatMap_nil, List.length_nil] at there
      omega
    obtain one : rd.count = 1 := by
      change rd.count ≤ 1 at asked
      omega
    have rest' : (message :: rest).flatMap AppMessage.frame =
        appDataMessage :: (writeLengthSafe message.data.length ++ (message.data ++ rest.flatMap AppMessage.frame)) := by
      simp [AppMessage.frame]
    rw [receive, rest', one]
    exact .length all
  | @length before rest message all =>
    have entire : rd.count = (writeLengthSafe message.data.length).length := by
      rw [length_writeLengthSafe]
      exact whole rfl
    have accepted := readLengthSafe_writeLengthSafe message.fits (rd.memory.drop rd.count)
    rw [← length_writeLengthSafe message.data.length, ← entire] at accepted
    rw [receive]
    simp only [entire, List.take_left, List.drop_left] at accepted ⊢
    rw [accepted]
    exact .payload all (List.nil_append _).symm (nonempty message (by simp [all]))
  | @payload before rest message taken left all parts more =>
    have asked' : rd.count ≤ left.length := by
      simp only [requested, parts, List.length_append] at asked
      omega
    have bytes : (left ++ rest.flatMap AppMessage.frame).take rd.count = left.take rd.count :=
      List.take_append_of_le_length asked'
    have socket : (left ++ rest.flatMap AppMessage.frame).drop rd.count =
        left.drop rd.count ++ rest.flatMap AppMessage.frame := List.drop_append_of_le_length asked'
    have length : message.data.length = taken.length + left.length := by rw [parts, List.length_append]
    simp only [receive, bytes, socket, if_neg positive.ne']
    split
    · refine .payload all ?_ (List.ne_nil_of_length_pos (by rw [List.length_drop]; omega))
      rw [parts, List.append_assoc, List.take_append_drop]
    · have last : rd.count = left.length := by omega
      rw [last, List.drop_length, List.take_length, List.nil_append, ← parts, ← List.map_singleton,
        ← List.map_append]
      exact .type (by rw [all, List.append_assoc, List.singleton_append])

theorem onTrack_of_run (nonempty : ∀ message ∈ messages, message.data ≠ [])
    (run : Run step ReadsWholeLength s reads t) (onTrack : OnTrack messages s) : OnTrack messages t :=
  run.invariant (fun _ _ _ onTrack whole stepped => onTrack.step nonempty whole stepped) onTrack

/-- What it has passed on are the first messages. -/
theorem OnTrack.isPrefix (onTrack : OnTrack messages s) : s.applicationMessages <+: messages.map AppMessage.data := by
  cases onTrack with
  | type all | length all | payload all =>
    rw [all, List.map_append]
    exact List.prefix_append _ _

/-- A routine that has read the whole stream without losing track has recovered the messages. -/
theorem OnTrack.recovered (onTrack : OnTrack messages s) (exhausted : s.socket = []) : Recovered messages s := by
  cases onTrack with
  | @type before rest all =>
    obtain rfl : rest = [] := by
      cases rest with
      | nil => rfl
      | cons message rest => simp [AppMessage.frame] at exhausted
    exact ⟨by rw [all, List.append_nil], rfl, rfl⟩
  | length all =>
    have size := congrArg List.length exhausted
    simp [S3tpIntroRedundant.size, safeTransmissionCount, sizeofSizeT] at size
  | payload all parts more => exact absurd (List.append_eq_nil_iff.mp exhausted).1 more

/-! ## Cut lengths -/

/-- What the bytes read so far would take up in frames. -/
def framed : ClientPlace → ℕ
  | .type | .closed => 0
  | .length => 1
  | .payload _ message => message.length + S3tpIntroRedundant.size + 1

/-- The bytes of the messages' frames. -/
def frameBytes (messages : List (List UInt8)) : ℕ :=
  (messages.map fun message => message.length + S3tpIntroRedundant.size + 1).sum

/-- The bytes of the frames passed on, of the one being read, and those not yet read. -/
def accounted (s : ClientRoutine) : ℕ := frameBytes s.applicationMessages + framed s.place + s.socket.length

theorem accounted_start (messages : List AppMessage) :
    accounted (start messages) = frameBytes (messages.map AppMessage.data) := by
  have frames : (messages.flatMap AppMessage.frame).length = frameBytes (messages.map AppMessage.data) := by
    rw [List.length_flatMap, frameBytes, List.map_map]
    exact congrArg List.sum (List.map_congr_left fun message _ => message.length_frame)
  rw [accounted, ← frames]
  exact Nat.zero_add _

/-- The account grows by what a read of a length leaves out. -/
theorem accounted_step (stepped : s.step rd = some next) (running : next.place ≠ .closed) :
    accounted next = accounted s + if s.place = .length then S3tpIntroRedundant.size - rd.count else 0 := by
  obtain ⟨runs, returns, rfl⟩ := step_eq_some stepped
  obtain ⟨socket, place, passedOn⟩ := s
  cases place with
  | closed => exact absurd rfl runs
  | type =>
    obtain ⟨positive, asked, there⟩ : 0 < rd.count ∧ rd.count ≤ 1 ∧ rd.count ≤ socket.length := returns
    simp only [accounted, receive, framed, List.length_drop, reduceCtorEq, if_false]
    omega
  | length =>
    obtain ⟨positive, asked, there⟩ :
        0 < rd.count ∧ rd.count ≤ S3tpIntroRedundant.size ∧ rd.count ≤ socket.length := returns
    simp only [receive] at running ⊢
    split at running
    · next error len result =>
      split at running
      · exact absurd rfl running
      · next success =>
        simp only [accounted, framed, if_neg success, if_true, List.length_drop, List.length_nil]
        omega
    · exact absurd rfl running
  | payload len message =>
    rcases Nat.eq_zero_or_pos rd.count with none | positive
    · simp [receive, none] at running
    · rw [Returns] at returns
      split at returns
      · omega
      · obtain ⟨-, asked, there⟩ := returns
        simp only [accounted, receive, if_neg positive.ne', reduceCtorEq, if_false]
        split
        · simp only [framed, List.length_append, List.length_take, List.length_drop]
          omega
        · simp only [framed, frameBytes, List.map_append, List.map_cons, List.map_nil, List.sum_append, List.sum_cons,
            List.sum_nil, List.length_append, List.length_take, List.length_drop]
          omega

/-- No account shrinks, and one that does not grow has read whole lengths. -/
theorem accounted_of_run (run : Run step Always s reads t) (running : t.place ≠ .closed) :
    accounted s ≤ accounted t ∧ (accounted t = accounted s → Run step ReadsWholeLength s reads t) := by
  induction run with
  | nil s => exact ⟨le_rfl, fun _ => .nil s⟩
  | @cons s mid t rd reads _ stepped rest ih =>
    obtain ⟨grows, whole⟩ := ih running
    have midRunning : mid.place ≠ .closed := by
      intro closed
      cases rest with
      | nil => exact running closed
      | cons _ stepped' _ => exact (step_eq_some stepped').1 closed
    have first := accounted_step stepped midRunning
    refine ⟨by omega, fun same => ?_⟩
    have none : (if s.place = .length then S3tpIntroRedundant.size - rd.count else 0) = 0 := by omega
    refine .cons ?_ stepped (whole (by omega))
    intro isLength
    obtain ⟨-, returns, -⟩ := step_eq_some stepped
    rw [if_pos isLength] at none
    have asks : s.requested = S3tpIntroRedundant.size := by rw [requested, isLength]
    rw [Returns, asks, if_neg (by decide)] at returns
    omega

/-- A read takes a byte off the stream, or closes the connection. -/
theorem socket_lt_of_step (stepped : s.step rd = some next) :
    next.socket.length < s.socket.length ∨ next.place = .closed := by
  obtain ⟨runs, returns, rfl⟩ := step_eq_some stepped
  rcases Nat.eq_zero_or_pos rd.count with none | positive
  · right
    rw [Returns] at returns
    split at returns
    · next asksNone =>
      obtain ⟨socket, place, passedOn⟩ := s
      cases place with
      | type => exact absurd asksNone Nat.one_ne_zero
      | length => exact absurd asksNone (Nat.succ_ne_zero _)
      | payload len message => simp [receive, none]
      | closed => exact absurd rfl runs
    · omega
  · left
    have there : 0 < s.socket.length := by
      rw [Returns] at returns
      split at returns <;> omega
    have taken : (s.receive rd).socket = s.socket.drop rd.count := by
      rw [receive]
      split
      · rfl
      · split <;> rfl
      · rw [if_neg positive.ne']
        split <;> rfl
      · next closed => exact absurd closed runs
    rw [taken, List.length_drop]
    omega

theorem length_reads_le (run : Run step Always s reads t) : reads.length ≤ s.socket.length + 1 := by
  induction run with
  | nil => exact Nat.zero_le _
  | @cons s mid t rd reads _ stepped rest ih =>
    rw [List.length_cons]
    rcases socket_lt_of_step stepped with shrinks | closed
    · omega
    · cases rest with
      | nil => exact Nat.le_add_left _ _
      | cons _ stepped' _ => exact absurd closed (step_eq_some stepped').1

/-- The routine comes to the point where it has read all it can, and then it has recovered the
messages exactly if no length was cut. -/
theorem recovered_iff (messages : List AppMessage) (nonempty : ∀ message ∈ messages, message.data ≠ [])
    {reads : List SocketRead} {s : ClientRoutine} (run : Run step Always (start messages) reads s) :
    reads.length ≤ (start messages).socket.length + 1 ∧
      (s.Finished → (Recovered messages s ↔ Run step ReadsWholeLength (start messages) reads s)) := by
  refine ⟨length_reads_le run, fun finished => ⟨fun recovered => ?_, fun whole => ?_⟩⟩
  · apply (accounted_of_run run (by simp [recovered.boundary])).2
    rw [accounted_start, accounted, recovered.passedOn, recovered.boundary, recovered.exhausted]
    rfl
  · have onTrack := onTrack_of_run nonempty whole (onTrack_start messages)
    exact onTrack.recovered (exhausted_of_finished finished onTrack.running onTrack.asks)

/-- A message of one byte. -/
def oneByteMessage : AppMessage := ⟨[1], by decide⟩

/-- The type, the length and the payload, each in one read. -/
def wholeReads : List SocketRead := [⟨1, []⟩, ⟨24, []⟩, ⟨1, []⟩]

theorem recovered_iff_oneByte : ∃ s, Run step ReadsWholeLength (start [oneByteMessage]) wholeReads s ∧
    Recovered [oneByteMessage] s := by
  have reads : wholeReads.foldlM step (start [oneByteMessage]) = some ⟨[], .type, [[1]]⟩ := by decide +kernel
  have run := Run.always_iff.mpr reads
  have finished : Finished ⟨[], .type, [[1]]⟩ := by
    intro rd positive
    simp [step, Returns, requested, positive.ne']
  have recovered : Recovered [oneByteMessage] ⟨[], .type, [[1]]⟩ := ⟨rfl, rfl, rfl⟩
  exact ⟨_, ((recovered_iff [oneByteMessage] (by decide) run).2 finished).mp recovered, recovered⟩

/-- The read of the length returns the first copy only, and the rest of the structure held zeros. -/
def cutReads : List SocketRead := [⟨1, []⟩, ⟨8, List.replicate 24 0⟩, ⟨0, []⟩]

/-- Two zero copies outvote the one that was read. A read of no bytes is then taken for the end of the
stream, and the connection is closed. -/
theorem not_recovered : ¬ ∀ (messages : List AppMessage), (∀ message ∈ messages, message.data ≠ []) →
    ∀ (reads : List SocketRead) (s : ClientRoutine), Run step Always (start messages) reads s → s.Finished →
    Recovered messages s := by
  intro recovers
  have read : (cutReads.foldlM step (start [oneByteMessage])).map (·.place) = some .closed := by decide +kernel
  obtain ⟨s, reads, closed⟩ := Option.map_eq_some_iff.mp read
  have finished : s.Finished := by
    intro rd _
    rw [step, if_neg (by simp [closed])]
  have recovered := recovers [oneByteMessage] (by decide) cutReads s (Run.always_iff.mpr reads) finished
  simpa [closed] using recovered.boundary

end S3tp.Soundness
