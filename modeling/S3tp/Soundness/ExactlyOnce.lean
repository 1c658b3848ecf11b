import S3tp.Model.Concurrent.ConnectorSystem

/-! # Exactly-once sending

`send` takes any wakeup from its first wait for the answer, whatever control message it came with. So the
messages the daemon accepts are those whose `send` succeeded as long as the first wait goes on only after
the answer has been processed, and not after an `ACK` that is read as a refusal because an earlier `NACK`
still marks the buffer as full, and as long as the connector is not closed under a waiting call that the
daemon may yet answer, or has answered with an `ACK`, or that waits for availability.
-/

namespace S3tp.Soundness

open Model.Core Model.Concurrent Machine

/-- The daemon has accepted the messages whose `send` succeeded, and possibly the one in progress. -/
def ExactlyOnce (s : ConnectorSystem) : Prop :=
  s.accepted = s.succeeded ∨
    ∃ data, s.sender.inProgress = some data ∧ s.accepted = s.succeeded ++ [data]

/-- The daemon has read every message, and the connector has processed every answer. -/
def Answered (s : ConnectorSystem) : Prop := s.toDaemon = [] ∧ s.answers = []

/-- The first wait ends with the answer, and the connector is not closed under a call whose message may
have been accepted, or that waits for availability. -/
def Patient (s : ConnectorSystem) : ConnectorEvent → Prop
  | .resume => match s.sender with
    | .firstWait _ _ => s.connector.connected = true →
        Answered s ∧ ¬ (s.connector.lastMessageAck = true ∧ s.connector.s3tpBufferFull = true)
    | _ => True
  | .closeConnection => match s.sender with
    | .firstWait _ _ => s.Stopped ∨ (Answered s ∧ s.connector.lastMessageAck = false)
    | .secondWait _ _ => False
    | _ => True
  | _ => True

/-! ## The invariant -/

/-- Nothing is under way. -/
structure Settled (s : ConnectorSystem) : Prop where
  unread : s.Stopped ∨ s.toDaemon = []
  unanswered : s.answers = []
  same : s.accepted = s.succeeded

/-- How far the message has come while `send` is in its first wait. -/
inductive Asked (s : ConnectorSystem) (data : List UInt8) : Prop
  | unread : s.connector.connected = true → s.serving = true → s.toDaemon = [data] → data ≠ [] →
      s.answers = [] → s.accepted = s.succeeded → Asked s data
  | answering (control : S3tpControl) : s.connector.connected = true → s.serving = true →
      s.toDaemon = [] → s.answers = [control] →
      s.accepted = s.succeeded ++ (if control.type = .ack then [data] else []) → Asked s data
  | answered : (s.connector.connected = true ∧ s.serving = true) ∨
        (s.connector.connected = false ∧ s.connector.lastMessageAck = false) →
      s.toDaemon = [] → s.answers = [] →
      s.accepted = s.succeeded ++ (if s.connector.lastMessageAck = true then [data] else []) → Asked s data
  | stopped : s.Stopped → data ∈ s.toDaemon → data ≠ [] → s.answers = [] → s.accepted = s.succeeded →
      Asked s data

def Inv (s : ConnectorSystem) : Prop :=
  match s.sender with
  | .idle | .entering _ => Settled s
  | .firstWait data _ => Asked s data
  | .secondWait _ _ => Settled s ∧ s.connector.connected = true ∧ s.serving = true ∧ s.toDaemon = []

section Positions

variable {s : ConnectorSystem} {data : List UInt8} {notified : Bool}

theorem inv_idle (position : s.sender = .idle) : Inv s ↔ Settled s := by rw [Inv, position]

theorem inv_entering (position : s.sender = .entering data) : Inv s ↔ Settled s := by rw [Inv, position]

theorem inv_firstWait (position : s.sender = .firstWait data notified) : Inv s ↔ Asked s data := by
  rw [Inv, position]

theorem inv_secondWait (position : s.sender = .secondWait data notified) : Inv s ↔
    Settled s ∧ s.connector.connected = true ∧ s.serving = true ∧ s.toDaemon = [] := by
  rw [Inv, position]

end Positions

theorem Inv.exactlyOnce {s : ConnectorSystem} (inv : Inv s) : ExactlyOnce s := by
  rw [Inv] at inv
  split at inv
  · exact .inl inv.same
  · exact .inl inv.same
  · next data notified at_ =>
    have inProgress : s.sender.inProgress = some data := by simp [at_, SendState.inProgress]
    have either (accept : Prop) [Decidable accept]
        (count : s.accepted = s.succeeded ++ if accept then [data] else []) : ExactlyOnce s := by
      split at count
      · exact .inr ⟨data, inProgress, count⟩
      · exact .inl (by simpa using count)
    cases inv with
    | unread _ _ _ _ _ same => exact .inl same
    | answering control _ _ _ _ count => exact either _ count
    | answered _ _ _ count => exact either _ count
    | stopped _ _ _ _ same => exact .inl same
  · exact .inl inv.1.same

section Steps

variable {s t : ConnectorSystem}

/-- The invariant reads the sender's position, the flag, and what is under way. -/
theorem Inv.congr (inv : Inv s) (sender : t.sender = s.sender ∨ t.sender = s.sender.notifyAll)
    (connected : t.connector.connected = s.connector.connected)
    (ack : t.connector.lastMessageAck = s.connector.lastMessageAck) (serving : t.serving = s.serving)
    (toDaemon : t.toDaemon = s.toDaemon) (answers : t.answers = s.answers)
    (accepted : t.accepted = s.accepted) (returned : t.returned = s.returned) : Inv t := by
  have succeeded : t.succeeded = s.succeeded := by rw [ConnectorSystem.succeeded, returned]; rfl
  have stopped : t.Stopped ↔ s.Stopped := by rw [ConnectorSystem.Stopped, serving, toDaemon]; rfl
  have settled (before : Settled s) : Settled t := by
    constructor
    · rw [stopped, toDaemon]
      exact before.unread
    · rw [answers, before.unanswered]
    · rw [accepted, succeeded, before.same]
  have asked {data : List UInt8} (before : Asked s data) : Asked t data := by
    cases before with
    | unread isOpen serves queue nonempty unanswered same =>
      exact .unread (connected.trans isOpen) (serving.trans serves) (toDaemon.trans queue) nonempty
        (answers.trans unanswered) (by rw [accepted, succeeded, same])
    | answering control isOpen serves queue answer count =>
      exact .answering control (connected.trans isOpen) (serving.trans serves) (toDaemon.trans queue)
        (answers.trans answer) (by rw [accepted, succeeded, count])
    | answered isOpen queue unanswered count =>
      exact .answered (by rw [connected, serving, ack]; exact isOpen) (toDaemon.trans queue)
        (answers.trans unanswered) (by rw [accepted, succeeded, ack, count])
    | stopped unreadable inside nonempty unanswered same =>
      exact .stopped (stopped.mpr unreadable) (toDaemon ▸ inside) nonempty (answers.trans unanswered)
        (by rw [accepted, succeeded, same])
  cases at_ : s.sender with
  | idle =>
    have position : t.sender = .idle := by
      rcases sender with moved | moved <;> simp [moved, at_, SendState.notifyAll]
    exact (inv_idle position).mpr (settled ((inv_idle at_).mp inv))
  | entering data =>
    have position : t.sender = .entering data := by
      rcases sender with moved | moved <;> simp [moved, at_, SendState.notifyAll]
    exact (inv_entering position).mpr (settled ((inv_entering at_).mp inv))
  | firstWait data notified =>
    obtain ⟨_, position⟩ : ∃ notified, t.sender = .firstWait data notified := by
      rcases sender with moved | moved <;> simp [moved, at_, SendState.notifyAll]
    exact (inv_firstWait position).mpr (asked ((inv_firstWait at_).mp inv))
  | secondWait data notified =>
    obtain ⟨_, position⟩ : ∃ notified, t.sender = .secondWait data notified := by
      rcases sender with moved | moved <;> simp [moved, at_, SendState.notifyAll]
    obtain ⟨before, isOpen, serves, empty⟩ := (inv_secondWait at_).mp inv
    exact (inv_secondWait position).mpr
      ⟨settled before, connected.trans isOpen, serving.trans serves, toDaemon.trans empty⟩

/-- Once the connection is closed, the daemon may stop serving and drop its answer. -/
theorem Inv.stopServing (inv : Inv s) (closed : s.connector.connected = false)
    (toDaemon : t.toDaemon = s.toDaemon) (answers : s.answers = [] → t.answers = [])
    (sender : t.sender = s.sender) (connector : t.connector = s.connector) (serving : t.serving = false)
    (accepted : t.accepted = s.accepted) (returned : t.returned = s.returned) : Inv t := by
  have succeeded : t.succeeded = s.succeeded := by rw [ConnectorSystem.succeeded, returned]; rfl
  have settled (before : Settled s) : Settled t :=
    ⟨.inl (.inl serving), answers before.unanswered, by rw [accepted, succeeded, before.same]⟩
  have asked {data : List UInt8} (before : Asked s data) : Asked t data := by
    cases before with
    | unread isOpen => simp [closed] at isOpen
    | answering control isOpen => simp [closed] at isOpen
    | answered isOpen queue unanswered count =>
      have refused : s.connector.lastMessageAck = false := by simpa [closed] using isOpen
      exact .answered (.inr (by rw [connector]; exact ⟨closed, refused⟩)) (toDaemon.trans queue) (answers unanswered)
        (by rw [accepted, succeeded, connector, count])
    | stopped unreadable inside nonempty unanswered same =>
      exact .stopped (.inl serving) (toDaemon ▸ inside) nonempty (answers unanswered)
        (by rw [accepted, succeeded, same])
  cases at_ : s.sender with
  | idle => exact (inv_idle (sender.trans at_)).mpr (settled ((inv_idle at_).mp inv))
  | entering data => exact (inv_entering (sender.trans at_)).mpr (settled ((inv_entering at_).mp inv))
  | firstWait data notified => exact (inv_firstWait (sender.trans at_)).mpr (asked ((inv_firstWait at_).mp inv))
  | secondWait data notified =>
    have isOpen := ((inv_secondWait at_).mp inv).2.1
    simp [closed] at isOpen

theorem answers_sendControlMessage_availability :
    (s.sendControlMessage .availability).answers = s.answers := by
  rw [ConnectorSystem.sendControlMessage]
  split
  · simp [ConnectorSystem.answers, ConnectorSystem.incoming]
  · rfl

/-- The daemon announces availability. -/
theorem Inv.available (inv : Inv s) : Inv (s.sendControlMessage .availability) := by
  have answers := answers_sendControlMessage_availability (s := s)
  rw [ConnectorSystem.sendControlMessage] at answers ⊢
  split
  · next isOpen =>
    rw [if_pos isOpen] at answers
    exact inv.congr (.inl rfl) rfl rfl rfl rfl answers rfl rfl
  · next closed =>
    exact inv.stopServing (by simpa using closed) rfl id rfl rfl rfl rfl rfl

/-- The daemon's client thread writes its answer. -/
theorem Inv.answer (inv : Inv s) {control : S3tpControl} (answering : s.answering = some control) :
    Inv { s.sendControlMessage control with answering := none } := by
  rw [ConnectorSystem.sendControlMessage]
  split
  · refine inv.congr (.inl rfl) rfl rfl rfl rfl ?_ rfl rfl
    simp [ConnectorSystem.answers, ConnectorSystem.incoming, answering]
  · next closed =>
    refine inv.stopServing (by simpa using closed) rfl ?_ rfl rfl rfl rfl rfl
    intro unanswered
    simp_all [ConnectorSystem.answers, ConnectorSystem.incoming]

/-- The listener reads the next control message. -/
theorem Inv.read (inv : Inv s) {control : S3tpControl} {rest : List S3tpControl}
    (free : s.listener = none) (queue : s.toConnector = control :: rest) :
    Inv { s with listener := some control, toConnector := rest } := by
  refine inv.congr (.inl rfl) rfl rfl rfl rfl ?_ rfl rfl
  simp [ConnectorSystem.answers, ConnectorSystem.incoming, free, queue]

/-- The listener processes a control message. -/
theorem Inv.process (inv : Inv s) {control : S3tpControl} (read : s.listener = some control) :
    Inv { s with connector := s.connector.receiveControlMessage control, sender := s.sender.notifyAll,
                 listener := none } := by
  set t : ConnectorSystem := { s with
    connector := s.connector.receiveControlMessage control, sender := s.sender.notifyAll, listener := none }
  have ack := s.connector.receiveControlMessage_lastMessageAck control
  cases kind : control.isAnswer with
  | false =>
    have answers : t.answers = s.answers := by
      simp [t, ConnectorSystem.answers, ConnectorSystem.incoming, read, kind]
    exact inv.congr (.inr rfl) (by simp [t]) (by simpa [kind] using ack) rfl rfl answers rfl rfl
  | true =>
    -- The answer is the only one under way.
    have answers : s.answers = control :: t.answers := by
      simp [t, ConnectorSystem.answers, ConnectorSystem.incoming, read, kind]
    have underWay : s.answers ≠ [] := answers ▸ List.cons_ne_nil _ _
    cases at_ : s.sender with
    | idle => exact absurd ((inv_idle at_).mp inv).unanswered underWay
    | entering data => exact absurd ((inv_entering at_).mp inv).unanswered underWay
    | firstWait data notified =>
      apply (inv_firstWait (s := t) (congrArg SendState.notifyAll at_)).mpr
      cases (inv_firstWait at_).mp inv with
      | unread _ _ _ _ unanswered => exact absurd unanswered underWay
      | answering answer isOpen serves queue single count =>
        obtain ⟨rfl, unanswered⟩ := List.cons_eq_cons.mp (answers.symm.trans single)
        refine .answered (.inl ⟨by simp [t, isOpen], serves⟩) queue unanswered ?_
        have flag : t.connector.lastMessageAck = true ↔ control.type = .ack := by simp [t, ack, kind]
        simp only [flag]
        exact count
      | answered _ _ unanswered => exact absurd unanswered underWay
      | stopped _ _ _ unanswered => exact absurd unanswered underWay
    | secondWait data notified => exact absurd ((inv_secondWait at_).mp inv).1.unanswered underWay

/-- The call returns a result that tells whether the daemon has accepted the message. -/
theorem Inv.sendReturns {data : List UInt8} {result : ℤ} (unread : s.Stopped ∨ s.toDaemon = [])
    (unanswered : s.answers = [])
    (count : s.accepted = s.succeeded ++ if result = data.length then [data] else []) :
    Inv (s.sendReturns data result) := by
  rw [Inv]
  exact ⟨unread, unanswered, count.trans (s.succeeded_sendReturns data result).symm⟩

/-- The call fails, and the daemon has not accepted the message. -/
theorem Inv.sendFails {data : List UInt8} {result : ℤ} (settled : Settled s) (negative : result < 0) :
    Inv (s.sendReturns data result) := by
  apply Inv.sendReturns settled.unread settled.unanswered
  rw [if_neg (by omega), List.append_nil, settled.same]

/-- One pass of the loop starts with nothing under way. -/
theorem Inv.writeMessage (settled : Settled s) (data : List UInt8) : Inv (s.writeMessage data) := by
  rw [ConnectorSystem.writeMessage]
  split
  · next usable =>
    obtain ⟨isOpen, serves⟩ := Bool.and_eq_true_iff.mp usable
    cases data with
    | nil =>
      refine Inv.sendFails ⟨?_, settled.unanswered, settled.same⟩ (by decide)
      rcases settled.unread with (notServing | first) | empty
      · exact .inl (.inl notServing)
      · exact .inl (.inr (by simp [List.head?_append, first]))
      · exact .inl (.inr (by simp [empty]))
    | cons byte bytes =>
      rw [if_neg (by simp), Inv]
      rcases settled.unread with unreadable | empty
      · refine .stopped ?_ (by simp) (by simp) settled.unanswered settled.same
        rcases unreadable with notServing | first
        · exact .inl notServing
        · exact .inr (by simp [List.head?_append, first])
      · exact .unread isOpen serves (by simp [empty]) (by simp) settled.unanswered settled.same
  · exact Inv.sendFails settled (by decide)

/-- The first wait ends. -/
theorem Inv.afterFirstWait {data : List UInt8} (asked : Asked s data)
    (patient : s.connector.connected = true →
      Answered s ∧ ¬ (s.connector.lastMessageAck = true ∧ s.connector.s3tpBufferFull = true)) :
    Inv (s.afterFirstWait data) := by
  rw [ConnectorSystem.afterFirstWait]
  rcases Bool.eq_false_or_eq_true s.connector.connected with isOpen | closed
  · obtain ⟨⟨empty, unanswered⟩, readable⟩ := patient isOpen
    rw [if_neg (by simp [isOpen])]
    cases asked with
    | unread _ _ queue => simp [empty] at queue
    | answering control _ _ _ answer => simp [unanswered] at answer
    | answered usable _ _ count =>
      have serves : s.serving = true := by simpa [isOpen] using usable
      rcases Bool.eq_false_or_eq_true s.connector.lastMessageAck with accepted | refused
      · rw [if_pos (by simpa [accepted] using readable)]
        exact Inv.sendReturns (.inr empty) unanswered (by simpa [accepted] using count)
      · rw [if_neg (by simp [refused])]
        have same : s.accepted = s.succeeded := by simpa [refused] using count
        exact ⟨⟨.inr empty, unanswered, same⟩, isOpen, serves, empty⟩
    | stopped _ inside => simp [empty] at inside
  · rw [if_pos (by simp [closed])]
    cases asked with
    | unread isOpen => simp [closed] at isOpen
    | answering _ isOpen => simp [closed] at isOpen
    | answered refused queue unanswered count =>
      have refused : s.connector.lastMessageAck = false := by simpa [closed] using refused
      exact Inv.sendFails ⟨.inr queue, unanswered, by simpa [refused] using count⟩ (by decide)
    | stopped unreadable _ _ unanswered same =>
      exact Inv.sendFails ⟨.inl unreadable, unanswered, same⟩ (by decide)

/-- The daemon's client thread reads the next message. -/
theorem Inv.takeMessage (inv : Inv s) (idle : s.answering = none) (serves : s.serving = true) {result : ℤ}
    (taken : s.takeMessage result = some t) : Inv t := by
  rw [ConnectorSystem.takeMessage] at taken
  split at taken
  · -- The end of the stream.
    split at taken
    · contradiction
    · next closed =>
      obtain rfl := Option.some.inj taken
      exact inv.stopServing (by simpa using closed) rfl id rfl rfl rfl rfl rfl
  · next rest queue =>
    -- An empty message stands for the end of the stream.
    obtain rfl := Option.some.inj taken
    have settled (before : Settled s) : Settled { s with serving := false, toDaemon := rest } :=
      ⟨.inl (.inl rfl), before.unanswered, before.same⟩
    obtain ⟨place, at_⟩ : ∃ place, s.sender = place := ⟨_, rfl⟩
    cases place with
    | idle => exact Iff.mpr (inv_idle at_) (settled ((inv_idle at_).mp inv))
    | entering data => exact Iff.mpr (inv_entering at_) (settled ((inv_entering at_).mp inv))
    | firstWait data notified =>
      refine Iff.mpr (inv_firstWait at_) ?_
      cases (inv_firstWait at_).mp inv with
      | unread _ _ single nonempty =>
        obtain ⟨rfl, -⟩ := List.cons_eq_cons.mp (single.symm.trans queue)
        contradiction
      | answering _ _ _ empty => simp [empty] at queue
      | answered _ empty => simp [empty] at queue
      | stopped _ inside nonempty unanswered same =>
        have behind : data ∈ rest := by simpa [queue, nonempty] using inside
        exact .stopped (.inl rfl) behind nonempty unanswered same
    | secondWait data notified =>
      have empty := ((inv_secondWait at_).mp inv).2.2.2
      simp [empty] at queue
  · next first rest nonempty queue =>
    obtain rfl := Option.some.inj taken
    have busy : ¬ (s.Stopped ∨ s.toDaemon = []) := by
      rintro ((notServing | first) | empty)
      · simp [serves] at notServing
      · simp [queue] at first
        exact nonempty first
      · simp [empty] at queue
    obtain ⟨place, at_⟩ : ∃ place, s.sender = place := ⟨_, rfl⟩
    cases place with
    | idle => exact absurd ((inv_idle at_).mp inv).unread busy
    | entering data => exact absurd ((inv_entering at_).mp inv).unread busy
    | firstWait data notified =>
      refine Iff.mpr (inv_firstWait at_) ?_
      cases (inv_firstWait at_).mp inv with
      | unread isOpen _ single nonempty unanswered same =>
        obtain ⟨rfl, rfl⟩ := List.cons_eq_cons.mp (single.symm.trans queue)
        refine .answering (.answerTo result) isOpen serves rfl ?_ ?_
        · have before : s.answers = (s.listener.toList ++ s.toConnector).filter S3tpControl.isAnswer := by
            simp [ConnectorSystem.answers, ConnectorSystem.incoming, idle]
          rw [ConnectorSystem.answers, ConnectorSystem.incoming, List.filter_append, ← before, unanswered]
          simp
        · rw [S3tpControl.type_answerTo]
          change (if result = codeSuccess then _ else _) = s.succeeded ++ _
          split <;> simp [same]
      | answering _ _ _ empty => exact absurd (.inr empty) busy
      | answered _ empty => exact absurd (.inr empty) busy
      | stopped unreadable => exact absurd (.inl unreadable) busy
    | secondWait data notified => exact absurd (.inr ((inv_secondWait at_).mp inv).2.2.2) busy

/-- The connection is closed while no message is under way that may still be accepted. -/
theorem Inv.closeConnection (inv : Inv s) (patient : Patient s .closeConnection) : Inv s.closeConnection := by
  rw [Patient] at patient
  have position : s.closeConnection.sender = s.sender.notifyAll := rfl
  cases at_ : s.sender with
  | idle =>
    have before := (inv_idle at_).mp inv
    exact (inv_idle (position.trans (congrArg _ at_))).mpr ⟨before.unread, before.unanswered, before.same⟩
  | entering data =>
    have before := (inv_entering at_).mp inv
    exact (inv_entering (position.trans (congrArg _ at_))).mpr ⟨before.unread, before.unanswered, before.same⟩
  | firstWait data notified =>
    apply (inv_firstWait (position.trans (congrArg _ at_))).mpr
    rw [at_] at patient
    have refused (empty : s.toDaemon = []) (serves : s.serving = true) :
        Answered s ∧ s.connector.lastMessageAck = false := by
      rcases patient with (notServing | first) | answered
      · simp [serves] at notServing
      · simp [empty] at first
      · exact answered
    cases (inv_firstWait at_).mp inv with
    | unread _ serves queue nonempty unanswered same =>
      rcases patient with (notServing | first) | answered
      · simp [serves] at notServing
      · simp [queue, nonempty] at first
      · simp [answered.1.1] at queue
    | answering _ _ serves empty answer => simp [(refused empty serves).1.2] at answer
    | answered usable empty unanswered count =>
      have refused : s.connector.lastMessageAck = false := by
        rcases usable with ⟨-, serves⟩ | ⟨-, refused⟩
        · exact (refused empty serves).2
        · exact refused
      exact .answered (.inr ⟨rfl, refused⟩) empty unanswered count
    | stopped unreadable inside nonempty unanswered same =>
      exact .stopped unreadable inside nonempty unanswered same
  | secondWait data notified =>
    rw [at_] at patient
    contradiction

theorem inv_step {event : ConnectorEvent} (inv : Inv s) (patient : Patient s event)
    (stepped : s.step event = some t) : Inv t := by
  cases event with
  | send data =>
    simp only [ConnectorSystem.step] at stepped
    split at stepped
    · next at_ =>
      have settled := (inv_idle at_).mp inv
      split at stepped
      · obtain rfl := Option.some.inj stepped
        exact ⟨settled.unread, settled.unanswered, settled.same⟩
      · obtain rfl := Option.some.inj stepped
        exact Inv.sendFails settled (by decide)
    · contradiction
  | write =>
    simp only [ConnectorSystem.step] at stepped
    split at stepped
    · next data at_ =>
      obtain rfl := Option.some.inj stepped
      exact Inv.writeMessage ((inv_entering at_).mp inv) data
    · contradiction
  | wakeUp =>
    obtain rfl := Option.some.inj stepped
    exact inv.congr (.inr rfl) rfl rfl rfl rfl rfl rfl rfl
  | resume =>
    simp only [ConnectorSystem.step] at stepped
    split at stepped
    · next data at_ =>
      obtain rfl := Option.some.inj stepped
      rw [Patient, at_] at patient
      exact Inv.afterFirstWait ((inv_firstWait at_).mp inv) patient
    · next data at_ =>
      obtain rfl := Option.some.inj stepped
      obtain ⟨settled, isOpen, -, -⟩ := (inv_secondWait at_).mp inv
      rw [ConnectorSystem.afterSecondWait, if_pos isOpen]
      exact Inv.writeMessage settled data
    · contradiction
  | read =>
    simp only [ConnectorSystem.step] at stepped
    split at stepped
    · next control rest _ free queue =>
      obtain rfl := Option.some.inj stepped
      exact inv.read free queue
    · contradiction
  | readEnd =>
    simp only [ConnectorSystem.step] at stepped
    split at stepped
    · next ended =>
      obtain rfl := Option.some.inj stepped
      apply inv.closeConnection
      rw [Patient]
      split
      · exact .inl (.inl ended.2.2.2)
      · next at_ =>
        obtain ⟨-, -, serves, -⟩ := (inv_secondWait at_).mp inv
        simp [ended.2.2.2] at serves
      · trivial
    · contradiction
  | process =>
    obtain ⟨control, read, rfl⟩ := Option.map_eq_some_iff.mp stepped
    exact inv.process read
  | closeConnection =>
    obtain rfl := Option.some.inj stepped
    exact inv.closeConnection patient
  | take result =>
    simp only [ConnectorSystem.step] at stepped
    split at stepped
    · next ready =>
      obtain ⟨serves, idle⟩ := Bool.and_eq_true_iff.mp ready
      exact inv.takeMessage (by simpa using idle) serves stepped
    · contradiction
  | answer =>
    obtain ⟨control, answering, rfl⟩ := Option.map_eq_some_iff.mp stepped
    exact inv.answer answering
  | available =>
    simp only [ConnectorSystem.step] at stepped
    split at stepped
    · obtain rfl := Option.some.inj stepped
      exact inv.available
    · contradiction

end Steps

theorem inv_started : Inv .started := ⟨.inr rfl, rfl, rfl⟩

/-- In a run whose waits are patient the daemon accepts exactly the messages whose `send` succeeds. -/
theorem exactlyOnce_of_patient {events : List ConnectorEvent} {s : ConnectorSystem}
    (run : Run ConnectorSystem.step Patient .started events s) : ExactlyOnce s :=
  (run.invariant (fun _ _ _ inv patient stepped => inv_step inv patient stepped) inv_started).exactlyOnce

/-! ## A message that is accepted twice -/

/-- A message of one byte is accepted, and its `send` returns. -/
def sentOnce : ConnectorSystem where
  connector := { connected := true, lastMessageAck := true }
  returned := [([7], 1)]
  accepted := [[7]]

theorem exactlyOnce_of_patient_sentOnce : ExactlyOnce sentOnce := by
  have run : Run ConnectorSystem.step Patient .started
      [.send [7], .write, .take codeSuccess, .answer, .read, .process, .resume] sentOnce := by
    refine .cons trivial rfl (.cons trivial rfl (.cons trivial rfl (.cons trivial rfl (.cons trivial rfl
      (.cons trivial rfl (.cons ?_ rfl (.nil _)))))))
    exact fun _ => ⟨⟨rfl, rfl⟩, by decide⟩
  exact exactlyOnce_of_patient run

/-- The daemon announces availability while the first message is on its way. `send` takes this for a
refusal, and its second wait for the end of the congestion ends with the answer. -/
def impatient : List ConnectorEvent :=
  [.send [7], .write, .available, .read, .process, .resume, .take codeSuccess, .answer, .read, .process,
    .resume, .take codeSuccess]

theorem impatient_accepts : (impatient.foldlM ConnectorSystem.step .started).map
    (fun s => (s.accepted, s.succeeded)) = some ([[7], [7]], []) := by
  decide +kernel

/-- The message is written again and accepted again. -/
theorem not_exactlyOnce : ¬ ∀ (events : List ConnectorEvent) (s : ConnectorSystem),
    Run ConnectorSystem.step Always .started events s → ExactlyOnce s := by
  intro always
  obtain ⟨s, runs, facts⟩ := Option.map_eq_some_iff.mp impatient_accepts
  obtain ⟨accepted, succeeded⟩ := Prod.mk.inj facts
  rcases always impatient s (Run.always_iff.mpr runs) with same | ⟨data, -, one⟩
  · simp [accepted, succeeded] at same
  · simp [accepted, succeeded] at one

end S3tp.Soundness
