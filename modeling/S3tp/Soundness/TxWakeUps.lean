import S3tp.Model.Concurrent.TxThreads
import S3tp.Soundness.OneByte
import Mathlib.Logic.Relation

/-! # Wake-ups for queued packets

The transmit thread tests for packets and waits under `tx_mutex`, but a caller writes to an empty queue and signals
without it. A signal between the test and the wait is lost. As long as none falls in between that something is left
to be sent for and nobody else is going to signal, no packet waits for the transmit thread without a signal to come.
-/

namespace S3tp.Soundness

open Model.Core Model.Concurrent Machine

namespace TxWakeUp

variable {ι : Type*} {s t : TxThreads ι}

/-! ## The transmit thread alone -/

/-- Steps of the transmit thread on a link in that state, one after the other. -/
abbrev TxGoes (link : LinkStatus) : TxThreads ι → TxThreads ι → Prop :=
  Relation.ReflTransGen fun s t => s.txStep link = some t

/-- From the test for packets on, the thread does what `dataTurn` does. -/
theorem txGoes_dataTurn (link : LinkStatus) (place : s.place = .testing .lock) (free : s.bufferMutex = none) :
    ∃ next txMutex, (next = .waiting ∨ next = .locking) ∧ TxGoes link s { s with
      tx := s.tx.dataTurn.1, link := s.link ++ s.tx.dataTurn.2, place := next, txMutex } := by
  obtain ⟨tx, txMutex, bufferMutex, here, caller, history⟩ := s
  obtain rfl : here = _ := place
  obtain rfl : bufferMutex = none := free
  have tests : TxGoes link ⟨tx, txMutex, none, .testing .lock, caller, history⟩
      ⟨tx, txMutex, some .tx, .testing (.unlock tx.outBuffer.packetsAvailable), caller, history⟩ :=
    .head rfl (.head rfl .refl)
  rw [TxModule.dataTurn_eq]
  cases available : tx.outBuffer.packetsAvailable with
  | false =>
    rw [available] at tests
    have unlocks : TxThreads.txStep ⟨tx, txMutex, some .tx, .testing (.unlock false), caller, history⟩ link =
        some ⟨{ tx with state := .waiting }, txMutex, none, .waiting, caller, history⟩ := rfl
    refine ⟨.waiting, txMutex, .inl rfl, ?_⟩
    simpa using tests.tail unlocks
  | true =>
    rw [available] at tests
    have fetches : TxGoes link ⟨tx, txMutex, some .tx, .testing (.unlock true), caller, history⟩
        ⟨{ tx with state := .running }, txMutex, some .tx, .fetching, caller, history⟩ := .head rfl (.head rfl .refl)
    have same : ({ tx with state := .running } : TxModule).nextPacket = tx.nextPacket := rfl
    cases next : tx.nextPacket with
    | none =>
      have finds : TxThreads.txStep ⟨{ tx with state := .running }, txMutex, some .tx, .fetching, caller, history⟩
          link = some ⟨{ tx with state := .running }, txMutex, some .tx, .fetchUnlocking none, caller, history⟩ := by
        simp [TxThreads.txStep, same, next]
      have ends : TxThreads.txStep ⟨{ tx with state := .running }, txMutex, some .tx, .fetchUnlocking none, caller,
          history⟩ link = some ⟨{ tx with state := .blocked }, txMutex, none, .waiting, caller, history⟩ := rfl
      refine ⟨.waiting, txMutex, .inl rfl, ?_⟩
      simpa using tests.trans (fetches.trans (.head finds (.single ends)))
    | some taken =>
      obtain ⟨packet, outBuffer⟩ := taken
      have takes : TxThreads.txStep ⟨{ tx with state := .running }, txMutex, some .tx, .fetching, caller, history⟩
          link = some ⟨{ tx with state := .running, outBuffer }, txMutex, some .tx, .fetchUnlocking (some packet),
            caller, history⟩ := by
        simp [TxThreads.txStep, same, next]
      refine ⟨.locking, none, .inr rfl, ?_⟩
      exact tests.trans (fetches.trans (.head takes (.head rfl (.head rfl (.head rfl .refl)))))

/-- An undisturbed turn ends about to wait or about to turn again, and has done what `iterate` does. -/
theorem txGoes_iterate (link : LinkStatus) (place : s.place = .turning) (active : s.tx.active = true)
    (free : s.bufferMutex = none) : ∃ next txMutex, (next = .waiting ∨ next = .locking) ∧
      TxGoes link s { s with
        tx := (s.tx.iterate link).1, link := s.link ++ (s.tx.iterate link).2, place := next, txMutex } := by
  obtain ⟨tx, txMutex, bufferMutex, here, caller, history⟩ := s
  obtain rfl : here = _ := place
  have running : tx.active = true := active
  rw [TxModule.iterate]
  split
  · next down =>
    have waits : TxThreads.txStep ⟨tx, txMutex, bufferMutex, .turning, caller, history⟩ link =
        some ⟨{ tx with state := .blocked }, txMutex, bufferMutex, .waiting, caller, history⟩ := by
      simp [TxThreads.txStep, running, down]
    refine ⟨.waiting, txMutex, .inl rfl, ?_⟩
    simpa using (Relation.ReflTransGen.refl.tail waits : TxGoes link _ _)
  · next up =>
    have turns : TxThreads.txStep ⟨tx, txMutex, bufferMutex, .turning, caller, history⟩ link =
        some ⟨(tx.syncTurn link).1, txMutex, bufferMutex, .testing .lock, caller, history ++ (tx.syncTurn link).2⟩ := by
      simp [TxThreads.txStep, running, up]
    obtain ⟨next, holder, ends, goes⟩ := txGoes_dataTurn (s := ⟨(tx.syncTurn link).1, txMutex, bufferMutex,
      .testing .lock, caller, history ++ (tx.syncTurn link).2⟩) link rfl free
    refine ⟨next, holder, ends, .head turns ?_⟩
    simpa using goes

/-! ## A caller alone -/

section Alone

variable [DecidableEq ι] {c : ι} {packet : S3tpPacket} {fragNo : UInt8} {more : Bool}

@[simp] theorem caller_callerAt (s : TxThreads ι) (c : ι) (place : CallerPlace) :
    (s.callerAt c place).caller c = place := by
  simp [TxThreads.callerAt]

/-- Steps of the caller, one after the other. -/
abbrev CallerGoes (c : ι) : TxThreads ι → TxThreads ι → Prop :=
  Relation.ReflTransGen fun s t => s.callerStep c = some t

/-- From the write on, the call writes and signals. -/
theorem callerGoes_writePacket (free : s.txMutex = none) (freeBuffer : s.bufferMutex = none) :
    ∃ place, CallerGoes c (s.callerAt c (.bufferLocking packet))
      ({ s with tx := s.tx.writePacket packet, place }.callerAt c .outside) ∧
      place = ({ s with tx := s.tx.writePacket packet } : TxThreads ι).signal.place := by
  obtain ⟨tx, txMutex, bufferMutex, place, caller, link⟩ := s
  obtain rfl : txMutex = none := free
  obtain rfl : bufferMutex = none := freeBuffer
  have locks : TxThreads.callerStep (.callerAt ⟨tx, none, none, place, caller, link⟩ c (.bufferLocking packet)) c =
      some (.callerAt ⟨tx, none, some (.caller c), place, caller, link⟩ c (.writing packet)) := by
    simp [TxThreads.callerStep, TxThreads.lockBuffer, TxThreads.callerAt]
  have writes : TxThreads.callerStep (.callerAt ⟨tx, none, some (.caller c), place, caller, link⟩ c (.writing packet))
      c = some (.callerAt ⟨tx.writePacket packet, none, some (.caller c), place, caller, link⟩ c .bufferUnlocking) := by
    simp [TxThreads.callerStep, TxThreads.callerAt]
  have unlocks : TxThreads.callerStep (.callerAt ⟨tx.writePacket packet, none, some (.caller c), place, caller, link⟩ c
      .bufferUnlocking) c =
      some (.callerAt ⟨tx.writePacket packet, none, none, place, caller, link⟩ c .signalling) := by
    simp [TxThreads.callerStep, TxThreads.unlockBuffer, TxThreads.callerAt]
  have signals : TxThreads.callerStep (.callerAt ⟨tx.writePacket packet, none, none, place, caller, link⟩ c .signalling)
      c = some (.callerAt (TxThreads.signal ⟨tx.writePacket packet, none, none, place, caller, link⟩) c .outside) := by
    simp [TxThreads.callerStep, TxThreads.signal, TxThreads.callerAt]
  exact ⟨_, .head locks (.head writes (.head unlocks (.single signals))), rfl⟩

/-- A call that nobody disturbs does what `enqueuePacket` does. -/
theorem callerGoes_enqueuePacket (free : s.txMutex = none) (freeBuffer : s.bufferMutex = none) :
    ∃ place, CallerGoes c (s.callerAt c (.locking packet fragNo more))
      ({ s with tx := (s.tx.enqueuePacket packet fragNo more).2, place }.callerAt c .outside) := by
  obtain ⟨tx, txMutex, bufferMutex, place, caller, link⟩ := s
  obtain rfl : txMutex = none := free
  have locks : TxThreads.callerStep (.callerAt ⟨tx, none, bufferMutex, place, caller, link⟩ c
      (.locking packet fragNo more)) c =
      some (.callerAt ⟨tx, some (.caller c), bufferMutex, place, caller, link⟩ c (.stamping packet fragNo more)) := by
    simp [TxThreads.callerStep, TxThreads.lockTx, TxThreads.callerAt]
  simp only [TxModule.enqueuePacket]
  cases stamps : tx.stampPacket packet fragNo more with
  | none =>
    have refuses : TxThreads.callerStep (.callerAt ⟨tx, some (.caller c), bufferMutex, place, caller, link⟩ c
        (.stamping packet fragNo more)) c =
        some (.callerAt ⟨tx, some (.caller c), bufferMutex, place, caller, link⟩ c .refusing) := by
      simp [TxThreads.callerStep, TxThreads.callerAt, stamps]
    have leaves : TxThreads.callerStep (.callerAt ⟨tx, some (.caller c), bufferMutex, place, caller, link⟩ c .refusing)
        c = some (.callerAt ⟨tx, none, bufferMutex, place, caller, link⟩ c .outside) := by
      simp [TxThreads.callerStep, TxThreads.unlockTx, TxThreads.callerAt]
    exact ⟨place, .head locks (.head refuses (.single leaves))⟩
  | some taken =>
    obtain ⟨stamped, next⟩ := taken
    have takes : TxThreads.callerStep (.callerAt ⟨tx, some (.caller c), bufferMutex, place, caller, link⟩ c
        (.stamping packet fragNo more)) c =
        some (.callerAt ⟨next, some (.caller c), bufferMutex, place, caller, link⟩ c (.unlocking stamped)) := by
      simp [TxThreads.callerStep, TxThreads.callerAt, stamps]
    have unlocks : TxThreads.callerStep (.callerAt ⟨next, some (.caller c), bufferMutex, place, caller, link⟩ c
        (.unlocking stamped)) c =
        some (.callerAt ⟨next, none, bufferMutex, place, caller, link⟩ c (.bufferLocking stamped)) := by
      simp [TxThreads.callerStep, TxThreads.unlockTx, TxThreads.callerAt]
    have writes : ∃ there, CallerGoes c (.callerAt ⟨next, none, bufferMutex, place, caller, link⟩ c
      (.bufferLocking stamped)) _ ∧ _ := callerGoes_writePacket rfl freeBuffer
    obtain ⟨there, goes, -⟩ := writes
    exact ⟨there, .head locks (.head takes (.head unlocks goes))⟩

end Alone

/-! ## No lost wake-up -/

/-- The transmit thread has found no packet, and waits next. -/
def AboutToWait (s : TxThreads ι) : Prop :=
  match s.place with
  | .testing (.unlock false) => True
  | .waiting => s.tx.state = .waiting
  | _ => False

/-- It sleeps until a packet arrives. -/
def Asleep (s : TxThreads ι) : Prop :=
  match s.place with
  | .blocked => s.tx.state = .waiting
  | _ => False

/-- The caller has written its packet and not signalled yet. -/
def Written : CallerPlace → Prop
  | .bufferUnlocking | .signalling => True
  | _ => False

/-- The buffer holds a packet. -/
def Holds (s : TxThreads ι) : Prop := ∃ port, s.tx.outBuffer.held port ≠ []

/-- From the test that finds nothing until it is woken, the transmit thread relies on signals for packets. -/
def sleeper : Sleeper (TxThreads ι) where
  drowsy s := AboutToWait s ∨ Asleep s
  work := Holds
  promised s := ∃ c, Written (s.caller c)

/-- A caller that signals while the transmit thread is about to wait leaves no packet behind that nobody else
announces, and every write finds a queue whose size field can count one packet more. -/
def SignalsInTime (s : TxThreads ι) : TxThreadsEvent ι → Prop
  | .caller c =>
    match s.caller c with
    | .writing packet => (s.tx.outBuffer.held packet.getPort).length + 1 < 2 ^ 16
    | .signalling => AboutToWait s → Holds s → ∃ other, other ≠ c ∧ Written (s.caller other)
    | _ => True
  | _ => True

/-- The transmit thread sleeps in state `WAITING`, the buffer holds a packet, and no call is between its write
and its signal. -/
def Overslept (s : TxThreads ι) : Prop := Asleep s ∧ Holds s ∧ ∀ c, ¬ Written (s.caller c)

section Steps

/-- In a consistent buffer the test tells whether there is a packet. -/
theorem not_holds_of_test (consistent : s.tx.outBuffer.Consistent) (empty : s.tx.outBuffer.packetsAvailable = false) :
    ¬ Holds s := by
  rintro ⟨port, some⟩
  exact some (consistent.held_eq_nil empty port)

/-- A test that finds nothing makes the transmit thread drowsy, and it stays so until it is blocked. -/
theorem txStep_careful {link : LinkStatus} (consistent : s.tx.outBuffer.Consistent)
    (stepped : s.txStep link = some t) : t.tx.outBuffer.Consistent ∧ sleeper.Careful s t := by
  cases TxThreads.of_txStep stepped with
  | locks | ends | givesUp | locksToTest | locksToFetch | fetchesNothing | blocks | runs | stamps | releases | sends =>
    exact ⟨consistent, .of_awake (by simp [sleeper, AboutToWait, Asleep])⟩
  | turns =>
    obtain ⟨blacklist, scheduled, packet, frame⟩ := s.tx.syncTurn_frame link
    refine ⟨?_, .of_awake (by simp [sleeper, AboutToWait, Asleep])⟩
    rw [frame]
    exact consistent
  | reads here =>
    cases available : s.tx.outBuffer.packetsAvailable with
    | false => exact ⟨consistent, .of_idle (not_holds_of_test consistent available)⟩
    | true => exact ⟨consistent, .of_awake (by simp [sleeper, AboutToWait, Asleep])⟩
  | waits here =>
    refine ⟨consistent, .of_iff ?_ Iff.rfl id⟩
    simp [sleeper, AboutToWait, here]
  | sleeps here =>
    refine ⟨consistent, .of_iff ?_ Iff.rfl id⟩
    simp [sleeper, AboutToWait, Asleep, here, TxThreads.unlockTx]
  | fetches here taken =>
    obtain ⟨port, popped⟩ := TxModule.nextPacket_eq_some taken
    exact ⟨(consistent.popPacketInternal popped).2.2.2, .of_awake (by simp [sleeper, AboutToWait, Asleep])⟩

/-- A signal wakes the transmit thread if it has blocked by then, and else leaves it where it is. -/
theorem signal_place (s : TxThreads ι) : ¬ Asleep s.signal ∧ (AboutToWait s.signal ↔ AboutToWait s) := by
  simp only [Asleep, AboutToWait, TxThreads.signal]
  cases s.place <;> simp

section Callers

variable [DecidableEq ι] {c : ι}

/-- A caller that has not written its packet takes back no promise. -/
theorem promised_callerAt {place : CallerPlace} (before : ¬ Written (s.caller c)) (others : t.caller = s.caller)
    (promised : sleeper.promised s) : sleeper.promised (t.callerAt c place) := by
  obtain ⟨other, written⟩ := promised
  have different : other ≠ c := by
    rintro rfl
    exact before written
  refine ⟨other, ?_⟩
  simp only [TxThreads.callerAt, Function.update_of_ne different, others]
  exact written

theorem promised_of_written {place : CallerPlace} (written : Written place) : sleeper.promised (t.callerAt c place) :=
  ⟨c, by simpa only [TxThreads.callerAt, Function.update_self] using written⟩

/-- Whoever writes a packet signals afterwards. -/
theorem callerStep_careful (consistent : s.tx.outBuffer.Consistent) (inTime : SignalsInTime s (.caller c))
    (stepped : s.callerStep c = some t) : t.tx.outBuffer.Consistent ∧ sleeper.Careful s t := by
  simp only [SignalsInTime] at inTime
  cases TxThreads.of_callerStep stepped with
  | locks here | isRefused here | leaves here | unlocks here | locksBuffer here =>
    exact ⟨consistent, .of_iff Iff.rfl Iff.rfl (promised_callerAt (by simp [here, Written]) rfl)⟩
  | stamps here stamps =>
    obtain ⟨-, -, rfl⟩ := TxModule.stampPacket_eq_some_iff.mp stamps
    exact ⟨consistent, .of_iff Iff.rfl Iff.rfl (promised_callerAt (by simp [here, Written]) rfl)⟩
  | @writes packet here =>
    simp only [here] at inTime
    have promised : sleeper.promised (({ s with tx := s.tx.writePacket packet } : TxThreads ι).callerAt c
        .bufferUnlocking) := promised_of_written trivial
    refine ⟨consistent.write _ packet (by rwa [TxModule.kept_outBuffer]), ?_⟩
    exact ⟨fun awake asleep => absurd asleep awake, fun _ _ _ _ => promised, fun _ _ _ => promised⟩
  | unlocksBuffer => exact ⟨consistent, .of_iff Iff.rfl Iff.rfl fun _ => promised_of_written trivial⟩
  | signals here =>
    simp only [here] at inTime
    obtain ⟨awake, waits⟩ := signal_place s
    refine ⟨consistent, ?_⟩
    rcases Classical.em (AboutToWait s) with waiting | elsewhere
    · -- The signal is lost.
      refine ⟨fun before _ => absurd (.inl waiting) before, fun _ _ idle busy => absurd busy idle, ?_⟩
      rintro - busy -
      obtain ⟨other, different, written⟩ := inTime waiting busy
      refine ⟨other, ?_⟩
      simpa only [TxThreads.callerAt, TxThreads.signal, Function.update_of_ne different] using written
    · refine .of_awake ?_
      rintro (about | asleep)
      · exact elsewhere (waits.mp about)
      · exact awake asleep

end Callers

/-- A signal that wakes no caller's promise away. -/
theorem signal_careful (held : t.tx.outBuffer = s.tx.outBuffer) (state : t.tx.state = s.tx.state)
    (place : t.place = s.signal.place) (callers : t.caller = s.caller) : sleeper.Careful s t := by
  have work : sleeper.work t ↔ sleeper.work s := by simp only [sleeper, Holds, held]
  have promised : sleeper.promised s → sleeper.promised t := by simp only [sleeper, callers, imp_self]
  cases here : s.place with
  | blocked =>
    have woken : t.place = .woken := by simp [place, TxThreads.signal, here]
    exact .of_awake (by simp [sleeper, AboutToWait, Asleep, woken])
  | _ =>
    have steady : t.place = s.place := by simp [place, TxThreads.signal, here]
    exact .of_iff (by simp only [sleeper, AboutToWait, Asleep, steady, state]) work promised

theorem step_careful [DecidableEq ι] {event : TxThreadsEvent ι} (consistent : s.tx.outBuffer.Consistent)
    (inTime : SignalsInTime s event) (stepped : s.step event = some t) :
    t.tx.outBuffer.Consistent ∧ sleeper.Careful s t := by
  cases TxThreads.of_step stepped with
  | tx => exact txStep_careful consistent stepped
  | caller => exact callerStep_careful consistent inTime stepped
  | enqueuePacket outside =>
    exact ⟨consistent, .of_iff Iff.rfl Iff.rfl (promised_callerAt (by simp [outside, Written]) rfl)⟩
  | wake => exact ⟨consistent, .of_awake (by simp [sleeper, AboutToWait, Asleep])⟩
  | closes => exact ⟨consistent, .of_iff Iff.rfl Iff.rfl id⟩
  | opens | scheduleSync | notifyLinkAvailability | stopRoutine =>
    exact ⟨consistent, signal_careful rfl rfl rfl rfl⟩

end Steps

section Runs

variable [DecidableEq ι]

/-- As long as every signal comes in time, the transmit thread does not oversleep. -/
theorem not_overslept_of_run {fresh : S3tpHeader} {events : List (TxThreadsEvent ι)} {s : TxThreads ι}
    (run : Run TxThreads.step SignalsInTime (TxThreads.started fresh) events s) : ¬ Overslept s := by
  rintro ⟨asleep, holds, quiet⟩
  have start : sleeper.Attended (TxThreads.started (ι := ι) fresh) := by
    rintro (waiting | asleep)
    · exact waiting.elim
    · exact asleep.elim
  have careful (u : TxThreads ι) (event : TxThreadsEvent ι) (v : TxThreads ι) (consistent : u.tx.outBuffer.Consistent)
      (inTime : SignalsInTime u event) (stepped : u.step event = some v) :
      v.tx.outBuffer.Consistent ∧ sleeper.Careful u v := step_careful consistent inTime stepped
  obtain ⟨-, attended⟩ := Sleeper.attended_of_run run careful Buffer.consistent_empty start
  obtain ⟨c, written⟩ := attended (.inr asleep) holds
  exact quiet c written

end Runs

/-- A link that takes frames. -/
def clear : LinkStatus where
  up := true
  bufferFull := false

/-- The packet of the first call, stamped. -/
def firstPacket : S3tpPacket := (atNumber 0).stamped (oneByte 0) 0 false

/-- The module of a single caller's transmit thread, before and after the first call has stamped its packet, and
after it has written it. -/
def unused : TxModule := (TxThreads.started (ι := Unit) default).tx
def stampedOn : TxModule := unused.advance 5
def writtenOn : TxModule := stampedOn.writePacket firstPacket

/-- Nobody but the transmit thread, at that place, holds a mutex. -/
def between (tx : TxModule) (txMutex : Option (TxThread Unit)) (place : TxPlace) (caller : CallerPlace) :
    TxThreads Unit where
  tx := tx
  txMutex := txMutex
  place := place
  caller := fun _ => caller

theorem held_stampedOn (port : UInt8) : stampedOn.outBuffer.held port = [] := Buffer.held_empty port

theorem holds_writtenOn {txMutex : Option (TxThread Unit)} {place : TxPlace} {caller : CallerPlace} :
    Holds (between writtenOn txMutex place caller) := by
  refine ⟨firstPacket.getPort, ?_⟩
  have written : (between writtenOn txMutex place caller).tx.outBuffer.held firstPacket.getPort = [firstPacket] := by
    have writes : writtenOn.outBuffer = stampedOn.outBuffer.write stampedOn.policy firstPacket := rfl
    have same : (between writtenOn txMutex place caller).tx = writtenOn := rfl
    rw [same, writes, Buffer.held_write_self, TxModule.kept_outBuffer, held_stampedOn]
    rfl
  simp [written]

/-- A call up to its write. -/
theorem run_stamping : Run TxThreads.step SignalsInTime (TxThreads.started (ι := Unit) default)
    (.enqueuePacket () (oneByte 0) 0 false :: List.replicate 3 (.caller ()))
    (between stampedOn none .locking (.bufferLocking firstPacket)) :=
  .cons trivial rfl (.cons trivial rfl (.cons trivial rfl (.cons trivial rfl (.nil _))))

/-- The transmit thread finds nothing. -/
theorem run_testing : Run TxThreads.step SignalsInTime
    (between stampedOn none .locking (.bufferLocking firstPacket)) (List.replicate 5 (.tx clear))
    (between stampedOn (some .tx) .waiting (.bufferLocking firstPacket)) :=
  .cons trivial rfl (.cons trivial rfl (.cons trivial rfl (.cons trivial rfl (.cons trivial rfl (.nil _)))))

/-- It is woken by the packet that is written while it waits. -/
theorem not_overslept_of_run_woken : ∃ s : TxThreads Unit, s.place = .woken ∧ Holds s ∧ ¬ Overslept s := by
  have blocks : (between stampedOn (some .tx) .waiting (.bufferLocking firstPacket)).step (.tx clear) =
      some (between stampedOn none .blocked (.bufferLocking firstPacket)) := rfl
  have room : SignalsInTime (between stampedOn none .blocked (.writing firstPacket)) (.caller ()) := by
    have fits : (stampedOn.outBuffer.held firstPacket.getPort).length + 1 < 2 ^ 16 := by
      rw [held_stampedOn]
      decide
    exact fits
  have writes : Run TxThreads.step SignalsInTime (between stampedOn none .blocked (.bufferLocking firstPacket))
      (List.replicate 4 (.caller ())) (between writtenOn none .woken .outside) :=
    .cons trivial rfl (.cons room rfl (.cons trivial rfl (.cons (fun about => about.elim) rfl (.nil _))))
  have waits : Run TxThreads.step SignalsInTime _ (.tx clear :: _) _ := .cons trivial blocks writes
  have run := run_stamping.append (run_testing.append waits)
  exact ⟨between writtenOn none .woken .outside, rfl, holds_writtenOn, not_overslept_of_run run⟩

/-- The signal falls between the test and the wait. -/
theorem exists_run_overslept : ∃ events s, Run TxThreads.step Always (TxThreads.started (ι := Unit) default) events s ∧
    Overslept s := by
  have blocks : (between writtenOn (some .tx) .waiting .outside).step (.tx clear) =
      some (between writtenOn none .blocked .outside) := rfl
  have lost : Run TxThreads.step Always (between stampedOn (some .tx) .waiting (.bufferLocking firstPacket))
      (List.replicate 4 (.caller ())) (between writtenOn (some .tx) .waiting .outside) :=
    .cons trivial rfl (.cons trivial rfl (.cons trivial rfl (.cons trivial rfl (.nil _))))
  have run := run_stamping.always.append (run_testing.always.append (lost.append (.cons trivial blocks (.nil _))))
  exact ⟨_, _, run, rfl, holds_writtenOn, fun _ => id⟩

end TxWakeUp

end S3tp.Soundness
