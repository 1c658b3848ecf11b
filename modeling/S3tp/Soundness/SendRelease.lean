import S3tp.Model.Concurrent.ConnectorThreads

/-! # Sends that are released

The waits in `send` have no predicate: the thread goes by what it finds after a notification, and whatever is
notified before it waits again it never hears of. The listener notifies it of every control message and in
`closeConnection`, but not where it only notes the end of the stream.

A thread in `send` is stranded if it is blocked although the connector is disconnected and its listener has stopped,
or although an `AVAILABLE` has been processed after a `NACK` for what it wrote last, and no control message is in
flight. As long as the listener notes the end of the stream only while nobody is blocked, nothing is written after
that, and a thread that a `NACK` has woken goes on before an `AVAILABLE` is processed, no thread is stranded.
-/

namespace S3tp.Soundness

open Model.Core Model.Concurrent Machine

namespace SendRelease

/-- The thread in `send` is blocked in `status_cond.wait`. -/
def Blocked : SendState → Prop
  | .firstWait _ notified | .secondWait _ notified => notified = false
  | _ => False

theorem cases_of_blocked {sender : SendState} (blocked : Blocked sender) :
    (∃ data, sender = .firstWait data false) ∨ ∃ data, sender = .secondWait data false := by
  cases sender with
  | idle | entering data => exact blocked.elim
  | firstWait data notified =>
    obtain rfl : notified = false := blocked
    exact .inl ⟨data, rfl⟩
  | secondWait data notified =>
    obtain rfl : notified = false := blocked
    exact .inr ⟨data, rfl⟩

/-- A `NACK` and, after it, an `AVAILABLE` have been processed since the message in progress was written. -/
def Released (s : ConnectorThreads) : Prop := [.nack, .available].Sublist s.heard

/-- Blocked with nobody left to release the thread. -/
def Stranded (s : ConnectorThreads) : Prop :=
  Blocked s.sender ∧ ((s.connector.connected = false ∧ s.listener = .stopped) ∨ (Released s ∧ s.inFlight = []))

/-- The listener notes the end of the stream only while nobody is blocked. It processes no `AVAILABLE` while the
thread in `send`, notified in its first wait and with a `NACK` processed, has not gone on. A thread that has tested
the connection finds it there when it writes, or does not succeed. -/
def Attentive (s : ConnectorThreads) : ConnectorThreadsEvent → Prop
  | .listener =>
    match s.listener with
    | .disconnecting => ¬ Blocked s.sender
    | .handling control => control.type = .available → .nack ∈ s.heard → ∀ data, s.sender ≠ .firstWait data true
    | _ => True
  | .write succeeds => ∀ data, s.sender = .entering data → s.writes data succeeds = true → s.connector.connected = true
  | _ => True

/-! ## What the thread in `send` knows -/

/-- A pair in a list that got one element longer was there before, or ends with that element. -/
theorem pair_sublist_concat {α : Type*} {a b x : α} {l : List α} (pair : [a, b].Sublist (l ++ [x])) :
    [a, b].Sublist l ∨ (x = b ∧ a ∈ l) := by
  obtain ⟨first, last, shape, early, late⟩ := List.sublist_append_iff.mp pair
  rcases List.sublist_cons_iff.mp late with none | ⟨rest, rfl, none⟩
  · obtain rfl := List.sublist_nil.mp none
    exact .inl (by simpa [shape] using early)
  · obtain rfl := List.sublist_nil.mp none
    have ends : [a] ++ [b] = first ++ [x] := shape
    obtain ⟨rfl, same⟩ := List.append_inj' ends rfl
    exact .inr ⟨(List.cons.inj same).1.symm, List.singleton_sublist.mp early⟩

/-- Where the thread waits, the connector is connected, unless it has been notified, and nothing has released it
that it has not gone on after. -/
structure Awaits (s : ConnectorThreads) : Prop where
  connected : Blocked s.sender → s.connector.connected = true
  fresh : ∀ data, s.sender = .firstWait data false → s.heard = []
  first : ∀ data notified, s.sender = .firstWait data notified → ¬ Released s
  second : ∀ data, s.sender = .secondWait data false → ¬ Released s

theorem Awaits.not_stranded {s : ConnectorThreads} (awaits : Awaits s) : ¬ Stranded s := by
  rintro ⟨blocked, ⟨disconnected, -⟩ | ⟨released, -⟩⟩
  · exact Bool.false_ne_true (disconnected.symm.trans (awaits.connected blocked))
  · rcases cases_of_blocked blocked with ⟨data, first⟩ | ⟨data, second⟩
    · exact awaits.first data false first released
    · exact awaits.second data second released

variable {s t : ConnectorThreads}

/-- Nobody is blocked once everybody has been notified. -/
theorem not_blocked_notifyAll (sender : SendState) : ¬ Blocked sender.notifyAll := by
  cases sender <;> simp [SendState.notifyAll, Blocked]

/-- A thread that is not in a wait need not know anything. -/
theorem Awaits.of_outside (first : ∀ data notified, s.sender ≠ .firstWait data notified)
    (second : ∀ data, s.sender ≠ .secondWait data false) : Awaits s where
  connected blocked := by
    rcases cases_of_blocked blocked with ⟨data, here⟩ | ⟨data, here⟩
    · exact absurd here (first data false)
    · exact absurd here (second data)
  fresh data here := absurd here (first data false)
  first data notified here := absurd here (first data notified)
  second data here := absurd here (second data)

theorem awaits_sendReturns (s : ConnectorThreads) (data : List UInt8) (result : ℤ) :
    Awaits (s.sendReturns data result) :=
  .of_outside (by simp [ConnectorThreads.sendReturns]) (by simp [ConnectorThreads.sendReturns])

/-- A step that leaves the thread in `send` and what it goes by alone. -/
theorem Awaits.congr (awaits : Awaits s) (sender : t.sender = s.sender) (heard : t.heard = s.heard)
    (connected : Blocked s.sender → t.connector.connected = s.connector.connected) : Awaits t where
  connected blocked := by
    rw [sender] at blocked
    rw [connected blocked]
    exact awaits.connected blocked
  fresh data here := heard.trans (awaits.fresh data (sender.symm.trans here))
  first data notified here := by
    rw [Released, heard]
    exact awaits.first data notified (sender.symm.trans here)
  second data here := by
    rw [Released, heard]
    exact awaits.second data (sender.symm.trans here)

/-- Notifying everybody blocks nobody. -/
theorem Awaits.of_notifyAll (sender : t.sender = s.sender.notifyAll)
    (released : ∀ data notified, s.sender = .firstWait data notified → ¬ Released t) : Awaits t where
  connected blocked := by
    rw [sender] at blocked
    exact absurd blocked (not_blocked_notifyAll s.sender)
  fresh data here := by
    cases before : s.sender <;> simp [sender, before, SendState.notifyAll] at here
  first data notified here := by
    cases before : s.sender with
    | firstWait data notified => exact released data notified before
    | _ => simp [sender, before, SendState.notifyAll] at here
  second data here := by
    cases before : s.sender <;> simp [sender, before, SendState.notifyAll] at here

/-- What is written is written anew, on a connection that is there. -/
theorem awaits_writeMessage {data : List UInt8} {succeeds : Bool}
    (there : s.writes data succeeds = true → s.connector.connected = true) : Awaits (s.writeMessage data succeeds) := by
  rw [ConnectorThreads.writeMessage]
  split
  · next succeeded =>
    refine ⟨fun _ => there succeeded, fun _ _ => rfl, fun _ _ _ released => ?_, fun _ here => ?_⟩
    · exact absurd released (by simp [Released])
    · exact absurd here (by simp)
  · exact awaits_sendReturns s data _

theorem awaits_listenerStep (awaits : Awaits s) (attentive : Attentive s .listener)
    (stepped : s.listenerStep = some t) : Awaits t := by
  cases here : s.listener with
  | testing =>
    simp only [ConnectorThreads.listenerStep, here] at stepped
    obtain rfl := Option.some.inj stepped
    exact awaits.congr rfl rfl fun _ => rfl
  | reading =>
    simp only [ConnectorThreads.listenerStep, here] at stepped
    split at stepped
    · contradiction
    · obtain rfl := Option.some.inj stepped
      exact awaits.congr rfl rfl fun _ => rfl
  | handling control =>
    simp only [ConnectorThreads.listenerStep, here] at stepped
    simp only [Attentive, here] at attentive
    obtain rfl := Option.some.inj stepped
    refine .of_notifyAll rfl fun data notified sender released => ?_
    -- A pair that is completed now was begun before, and the thread has not gone on since.
    rcases pair_sublist_concat released with before | ⟨available, nacked⟩
    · exact awaits.first data notified sender before
    · cases notified with
      | false =>
        rw [awaits.fresh data sender] at nacked
        exact absurd nacked (by simp)
      | true => exact attentive available nacked data sender
  | closing =>
    simp only [ConnectorThreads.listenerStep, here] at stepped
    obtain rfl := Option.some.inj stepped
    exact .of_notifyAll rfl fun data notified sender => awaits.first data notified sender
  | disconnecting =>
    simp only [ConnectorThreads.listenerStep, here] at stepped
    simp only [Attentive, here] at attentive
    obtain rfl := Option.some.inj stepped
    exact awaits.congr rfl rfl fun blocked => absurd blocked attentive
  | stopped =>
    simp [ConnectorThreads.listenerStep, here] at stepped

/-- Going on from the first wait, the thread has heard of everything that was processed. -/
theorem awaits_afterFirstWait {data : List UInt8} (awaits : Awaits s) (woken : s.sender = .firstWait data true) :
    Awaits (s.afterFirstWait data) := by
  rw [ConnectorThreads.afterFirstWait]
  split
  · exact awaits_sendReturns s data _
  · next connected =>
    split
    · exact awaits_sendReturns s data _
    · refine ⟨fun _ => by simpa using connected, fun _ here => ?_, fun _ _ here => ?_, fun _ _ => ?_⟩
      · exact absurd here (by simp)
      · exact absurd here (by simp)
      · exact awaits.first data true woken

theorem awaits_step {event : ConnectorThreadsEvent} (awaits : Awaits s) (attentive : Attentive s event)
    (stepped : s.step event = some t) : Awaits t := by
  cases event with
  | send data =>
    simp only [ConnectorThreads.step] at stepped
    split at stepped
    · split at stepped
      · obtain rfl := Option.some.inj stepped
        exact .of_outside (by simp) (by simp)
      · obtain rfl := Option.some.inj stepped
        exact awaits_sendReturns s data _
    · contradiction
  | write succeeds =>
    simp only [ConnectorThreads.step] at stepped
    split at stepped
    · next data entering =>
      obtain rfl := Option.some.inj stepped
      exact awaits_writeMessage (attentive data entering)
    · contradiction
  | resume succeeds =>
    simp only [ConnectorThreads.step] at stepped
    split at stepped
    · next data woken =>
      obtain rfl := Option.some.inj stepped
      exact awaits_afterFirstWait awaits woken
    · next data woken =>
      obtain rfl := Option.some.inj stepped
      rw [ConnectorThreads.afterSecondWait]
      split
      · next connected => exact awaits_writeMessage fun _ => connected
      · exact awaits_sendReturns s data _
    · contradiction
  | wakeUp =>
    obtain rfl := Option.some.inj stepped
    exact .of_notifyAll rfl fun data notified sender => awaits.first data notified sender
  | listener => exact awaits_listenerStep awaits attentive stepped
  | arrive reads =>
    obtain rfl := Option.some.inj stepped
    exact awaits.congr rfl rfl fun _ => rfl
  | closeConnection =>
    obtain rfl := Option.some.inj stepped
    exact .of_notifyAll rfl fun data notified sender => awaits.first data notified sender

/-! ## Whole runs -/

/-- In an attentive run no thread in `send` is ever stranded. -/
theorem not_stranded_of_attentive {events : List ConnectorThreadsEvent}
    (run : Run ConnectorThreads.step Attentive ConnectorThreads.started events s) : ¬ Stranded s := by
  have start : Awaits ConnectorThreads.started := .of_outside (by simp [ConnectorThreads.started])
    (by simp [ConnectorThreads.started])
  have awaits : Awaits s :=
    run.invariant (fun _ _ _ awaits attentive stepped => awaits_step awaits attentive stepped) start
  exact awaits.not_stranded

/-- What the daemon sends. -/
def nack : ListenerReads := .control (.got ⟨AppControlMessageType.nack.toByte, 0⟩)
def available : ListenerReads := .control (.got .availability)

/-- The thread has written its message; it waits for the queue to become available; the stream has ended; and the
queue has become available too early. -/
def written : ConnectorThreads := { sender := .firstWait [1] false }
def waiting : ConnectorThreads where
  connector := ⟨true, false, true⟩
  sender := .secondWait [1] false
  heard := [.nack]
def cutOff : ConnectorThreads := { written with connector := ⟨false, false, false⟩, listener := .stopped }
def missed : ConnectorThreads := { sender := .secondWait [1] false, heard := [.nack, .available] }

/-- The listener's steps with a message it finds. -/
def pass : List ConnectorThreadsEvent := List.replicate 3 .listener

/-- A message is refused, the thread goes on to its second wait, and the `AVAILABLE` that comes then makes it write
the message again. -/
theorem not_stranded_refused : ∃ s : ConnectorThreads, s.sender = .firstWait [1] false ∧ ¬ Stranded s := by
  have refused : Run ConnectorThreads.step Attentive ConnectorThreads.started
      ([.send [1], .write true, .arrive nack] ++ pass ++ [.resume true]) waiting := by
    refine .cons trivial rfl (.cons (fun _ _ _ => rfl) rfl (.cons trivial rfl (.cons trivial rfl (.cons trivial rfl
      (.cons ?_ rfl (.cons trivial rfl (.nil _)))))))
    exact fun other => absurd other (by decide)
  have resends : Run ConnectorThreads.step Attentive waiting (.arrive available :: pass ++ [.resume true]) written := by
    refine .cons trivial rfl (.cons trivial rfl (.cons trivial rfl (.cons ?_ rfl (.cons trivial rfl (.nil _)))))
    exact fun _ _ data first => absurd first (by simp [waiting])
  exact ⟨written, rfl, not_stranded_of_attentive (refused.append resends)⟩

/-- The stream ends after the type of a control message, and the listener notifies nobody. Or an `AVAILABLE` is
processed before the thread that the `NACK` has woken goes on to its second wait. -/
theorem exists_run_unreleased :
    (∃ events s, Run ConnectorThreads.step Always ConnectorThreads.started events s ∧ Stranded s ∧
      s.connector.connected = false) ∧
    ∃ events s, Run ConnectorThreads.step Always ConnectorThreads.started events s ∧ Stranded s ∧
      s.connector.connected = true := by
  have ends : Run ConnectorThreads.step Always ConnectorThreads.started
      ([.send [1], .write true, .arrive (.control .ended)] ++ pass) cutOff := Run.always_iff.mpr rfl
  have misses : Run ConnectorThreads.step Always ConnectorThreads.started
      ([.send [1], .write true, .arrive nack, .arrive available] ++ pass ++ pass ++ [.resume true]) missed :=
    Run.always_iff.mpr rfl
  refine ⟨⟨_, cutOff, ends, ⟨rfl, .inl ⟨rfl, rfl⟩⟩, rfl⟩, ⟨_, missed, misses, ⟨rfl, .inr ⟨?_, rfl⟩⟩, rfl⟩⟩
  exact List.Sublist.refl _

end SendRelease

end S3tp.Soundness
