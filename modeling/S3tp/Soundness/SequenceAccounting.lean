import S3tp.Soundness.OneByte
import S3tp.Soundness.TxMutexes
import Mathlib.Data.Set.Card

/-! # Accounting for the sequence numbers of the transmitting module

Whenever `tx_mutex` is free, the two counters of a port show, modulo 256, how many packets of the port have been
accepted and how many the transmit thread has taken, and their difference how many are linked in the output buffer or
on their way to it.

While the transmit thread is inside the mutex it may have taken a packet it has not counted yet.
-/

namespace S3tp.Soundness

open Model.Core Model.Concurrent Machine

namespace SequenceAccounting

variable {ι : Type*}

/-- The ports of the packets accepted and of the packets taken, in order. -/
structure SequenceHistory where
  accepted : List UInt8 := []
  taken : List UInt8 := []

/-- What a step adds to the history: a call is accepted when its packet is stamped, and a packet is taken when it
leaves the output buffer. -/
def countSequences (s : TxThreads ι) (event : TxThreadsEvent ι) (history : SequenceHistory) : SequenceHistory :=
  match event with
  | .caller c =>
    match s.caller c with
    | .stamping packet fragNo moreFragments =>
      if (s.tx.stampPacket packet fragNo moreFragments).isSome then
        { history with accepted := history.accepted ++ [packet.getPort] }
      else history
    | _ => history
  | .tx _ =>
    match s.place with
    | .fetching =>
      { history with taken := history.taken ++ (s.tx.nextPacket.map fun next => next.1.getPort).toList }
    | _ => history
  | _ => history

/-- The port of a packet that is accepted but not written yet. -/
def pendingPort : CallerPlace → Option UInt8
  | .unlocking packet | .bufferLocking packet | .writing packet => some packet.getPort
  | _ => none

/-- The callers whose packet for the port is accepted but not written yet. -/
def pending (caller : ι → CallerPlace) (port : UInt8) : Set ι := {c | pendingPort (caller c) = some port}

/-- The counters of every port, and what is linked or on its way. -/
structure SequencesExact (s : TxThreads ι) (history : SequenceHistory) : Prop where
  accepted : ∀ port, s.tx.portSequence port = UInt8.ofNat (history.accepted.count port)
  taken : ∀ port, s.tx.toConsumePortSeq port = UInt8.ofNat (history.taken.count port)
  outstanding : ∀ port, s.tx.portSequence port - s.tx.toConsumePortSeq port =
    UInt8.ofNat ((s.tx.outBuffer.held port).length + (pending s.caller port).ncard)
  own : ∀ port, ∀ packet ∈ s.tx.outBuffer.held port, packet.getPort = port
  finite : ∀ port, (pending s.caller port).Finite

/-! ## The invariant -/

/-- The port of a packet the transmit thread has taken but not counted yet. -/
def fetchedPort : TxPlace → Option UInt8
  | .fetchUnlocking (some packet) => some packet.getPort
  | _ => none

structure Accounted (s : TxThreads ι) (history : SequenceHistory) : Prop where
  owned : s.Owned
  own : ∀ port, ∀ packet ∈ s.tx.outBuffer.held port, packet.getPort = port
  accepted : ∀ port, s.tx.portSequence port = UInt8.ofNat (history.accepted.count port)
  taken : ∀ port, s.tx.toConsumePortSeq port + (if fetchedPort s.place = some port then 1 else 0) =
    UInt8.ofNat (history.taken.count port)
  finite : ∀ port, (pending s.caller port).Finite
  balance : ∀ port, history.accepted.count port =
    history.taken.count port + (s.tx.outBuffer.held port).length + (pending s.caller port).ncard

section Invariant

variable {s t : TxThreads ι} {history : SequenceHistory}

theorem accounted_started (fresh : S3tpHeader) : Accounted (TxThreads.started (ι := ι) fresh) {} := by
  have nobody (port : UInt8) : pending (TxThreads.started (ι := ι) fresh).caller port = ∅ := by
    simp [pending, TxThreads.started, pendingPort]
  have empty (port : UInt8) : (TxThreads.started (ι := ι) fresh).tx.outBuffer.held port = [] := Buffer.held_empty port
  refine ⟨TxThreads.owned_started fresh, fun port packet member => ?_, fun port => rfl, fun port => rfl,
    fun port => ?_, fun port => ?_⟩
  · simp [empty] at member
  · simp [nobody]
  · simp [nobody, empty]

/-- A step that touches neither counters nor packets. -/
theorem Accounted.quiet (accounted : Accounted s history) (owned : t.Owned)
    (portSequence : t.tx.portSequence = s.tx.portSequence)
    (toConsumePortSeq : t.tx.toConsumePortSeq = s.tx.toConsumePortSeq)
    (outBuffer : t.tx.outBuffer = s.tx.outBuffer) (fetched : fetchedPort t.place = fetchedPort s.place)
    (callers : ∀ c, pendingPort (t.caller c) = pendingPort (s.caller c)) : Accounted t history := by
  have same (port : UInt8) : pending t.caller port = pending s.caller port := by simp only [pending, callers]
  refine ⟨owned, ?_, ?_, ?_, ?_, ?_⟩
  · rw [outBuffer]
    exact accounted.own
  · rw [portSequence]
    exact accounted.accepted
  · rw [toConsumePortSeq, fetched]
    exact accounted.taken
  · intro port
    rw [same]
    exact accounted.finite port
  · intro port
    rw [same, outBuffer]
    exact accounted.balance port

/-- When nobody is inside the mutex every packet taken is counted. -/
theorem Accounted.sequencesExact (accounted : Accounted s history) (free : s.txMutex = none) :
    SequencesExact s history := by
  have counted : fetchedPort s.place = none := by
    cases here : s.place with
    | fetchUnlocking next =>
      have held := accounted.owned.tx .tx (by simp [TxThreads.Inside, here])
      rw [free] at held
      contradiction
    | _ => rfl
  have taken (port : UInt8) : s.tx.toConsumePortSeq port = UInt8.ofNat (history.taken.count port) := by
    simpa [counted] using accounted.taken port
  refine ⟨accounted.accepted, taken, fun port => ?_, accounted.own, accounted.finite⟩
  rw [accounted.accepted, taken, accounted.balance, Nat.add_assoc, UInt8.ofNat_add, UInt8.add_comm]
  exact UInt8.add_sub_cancel _ _

/-! ## The transmit thread -/

/-- A packet is taken from the queue of its port. -/
theorem Accounted.fetches {packet : S3tpPacket} {outBuffer : Buffer} (accounted : Accounted s history)
    (here : s.place = .fetching) (next : s.tx.nextPacket = some (packet, outBuffer))
    (owned : TxThreads.Owned { s with tx := { s.tx with outBuffer }, place := .fetchUnlocking (some packet) }) :
    Accounted { s with tx := { s.tx with outBuffer }, place := .fetchUnlocking (some packet) }
      { history with taken := history.taken ++ [packet.getPort] } := by
  obtain ⟨port, popped⟩ := TxModule.nextPacket_eq_some next
  obtain ⟨head, queues⟩ := Buffer.held_of_popPacketInternal popped
  obtain rfl : packet.getPort = port := accounted.own port packet (by simp [head])
  have others (other : UInt8) (different : other ≠ packet.getPort) :
      outBuffer.held other = s.tx.outBuffer.held other := congrArg PriorityQueue.nodes (queues other different)
  have notFetched : fetchedPort s.place = none := by rw [here]; rfl
  refine ⟨owned, fun other left member => ?_, accounted.accepted, fun other => ?_, accounted.finite, fun other => ?_⟩
  · exact accounted.own other left (Buffer.mem_held_of_popPacketInternal popped member)
  · have before := accounted.taken other
    simp only [notFetched, reduceCtorEq, if_false] at before
    rw [List.count_append, UInt8.ofNat_add, ← before]
    rcases Classical.em (packet.getPort = other) with rfl | different
    · simp [fetchedPort]
    · simp [fetchedPort, different]
  · have before := accounted.balance other
    change history.accepted.count other = (history.taken ++ [packet.getPort]).count other +
      (outBuffer.held other).length + (pending s.caller other).ncard
    rcases Classical.em (packet.getPort = other) with rfl | different
    · rw [head, List.length_cons] at before
      simp only [List.count_append, List.count_singleton_self]
      omega
    · rw [others other (Ne.symm different), List.count_append, List.count_singleton, if_neg (by simpa using different)]
      exact before

/-- The packet taken is counted. -/
theorem Accounted.stamps {packet : S3tpPacket} (accounted : Accounted s history)
    (here : s.place = .fetchUnlocking (some packet))
    (owned : TxThreads.Owned { s.unlockBuffer with
      tx := s.tx.afterTaking packet s.tx.outBuffer
      place := .releasing (packet.setGlobalSequence s.tx.globalSeqNum) }) :
    Accounted { s.unlockBuffer with
      tx := s.tx.afterTaking packet s.tx.outBuffer
      place := .releasing (packet.setGlobalSequence s.tx.globalSeqNum) } history := by
  refine ⟨owned, accounted.own, accounted.accepted, fun port => ?_, accounted.finite, accounted.balance⟩
  have before := accounted.taken port
  rw [← before, here]
  rcases Classical.em (port = packet.getPort) with rfl | different
  · simp [fetchedPort, TxModule.afterTaking]
  · simp [fetchedPort, TxModule.afterTaking, different, Ne.symm different]

theorem Accounted.txStep {link : LinkStatus} (accounted : Accounted s history) (owned : t.Owned)
    (steps : s.TxSteps link t) : Accounted t (countSequences s (.tx link) history) := by
  have notFetching (other : s.place ≠ .fetching) : countSequences s (.tx link) history = history := by
    simp only [countSequences]
  cases steps with
  | locks here =>
    rw [notFetching (by rcases here with here | here <;> simp [here])]
    exact accounted.quiet owned rfl rfl rfl (by rcases here with here | here <;> rw [here] <;> rfl) fun _ => rfl
  | turns here =>
    obtain ⟨channelBlacklist, scheduledSync, syncPacket, frame⟩ := s.tx.syncTurn_frame link
    rw [notFetching (by simp [here])]
    exact accounted.quiet owned (by rw [frame]) (by rw [frame]) (by rw [frame]) (by rw [here]; rfl) fun _ => rfl
  | ends here | givesUp here | locksToTest here | reads here | runs here | waits here | sleeps here
  | locksToFetch here | blocks here | releases here | sends here =>
    rw [notFetching (by simp [here])]
    exact accounted.quiet owned rfl rfl rfl (by rw [here]; rfl) fun _ => rfl
  | fetchesNothing here nothing =>
    have same : countSequences s (.tx link) history = history := by
      simp only [countSequences, here, nothing, Option.map_none, Option.toList_none, List.append_nil]
    rw [same]
    exact accounted.quiet owned rfl rfl rfl (by rw [here]; rfl) fun _ => rfl
  | fetches here next =>
    simp only [countSequences, here, next, Option.map_some, Option.toList_some]
    exact accounted.fetches here next owned
  | stamps here =>
    rw [notFetching (by simp [here])]
    exact accounted.stamps here owned

end Invariant

/-! ## The callers -/

section Callers

variable [DecidableEq ι] {s t mid : TxThreads ι} {history : SequenceHistory} {c : ι} {place : CallerPlace}

theorem pendingPort_callerAt (d : ι) : pendingPort ((mid.callerAt c place).caller d) =
    if d = c then pendingPort place else pendingPort (mid.caller d) := by
  simp only [TxThreads.callerAt, Function.update_apply]
  split <;> rfl

/-- Who is pending when a caller has gone on. -/
theorem pending_callerAt (port : UInt8) : pending (mid.callerAt c place).caller port =
    if pendingPort place = some port then insert c (pending mid.caller port) else pending mid.caller port \ {c} := by
  ext d
  change pendingPort ((mid.callerAt c place).caller d) = some port ↔ _
  rw [pendingPort_callerAt]
  by_cases self : d = c
  · by_cases there : pendingPort place = some port <;> simp [self, there]
  · by_cases there : pendingPort place = some port <;> simp [self, there, pending]

/-- A caller goes on, with the same packet on its way if any. -/
theorem Accounted.quietCaller (accounted : Accounted s history) (owned : (mid.callerAt c place).Owned)
    (portSequence : mid.tx.portSequence = s.tx.portSequence)
    (toConsumePortSeq : mid.tx.toConsumePortSeq = s.tx.toConsumePortSeq)
    (outBuffer : mid.tx.outBuffer = s.tx.outBuffer) (fetched : fetchedPort mid.place = fetchedPort s.place)
    (callers : mid.caller = s.caller) (same : pendingPort place = pendingPort (s.caller c)) :
    Accounted (mid.callerAt c place) history := by
  refine accounted.quiet owned portSequence toConsumePortSeq outBuffer fetched fun d => ?_
  rw [pendingPort_callerAt, callers, same]
  split
  · next self => rw [self]
  · rfl

/-- A packet is accepted. -/
theorem Accounted.accepts {packet stamped : S3tpPacket} {fragNo : UInt8} {more : Bool} {tx : TxModule}
    (accounted : Accounted s history) (here : s.caller c = .stamping packet fragNo more)
    (stamps : s.tx.stampPacket packet fragNo more = some (stamped, tx))
    (owned : (({ s with tx } : TxThreads ι).callerAt c (.unlocking stamped)).Owned) :
    Accounted (({ s with tx } : TxThreads ι).callerAt c (.unlocking stamped))
      { history with accepted := history.accepted ++ [packet.getPort] } := by
  obtain ⟨-, rfl, rfl⟩ := TxModule.stampPacket_eq_some_iff.mp stamps
  have before (port : UInt8) : c ∉ pending s.caller port := by simp [pending, here, pendingPort]
  have after (port : UInt8) : pending (({ s with tx := s.tx.advance packet.getPort } : TxThreads ι).callerAt c
      (.unlocking (s.tx.stamped packet fragNo more))).caller port =
      if packet.getPort = port then insert c (pending s.caller port) else pending s.caller port := by
    rw [pending_callerAt, pendingPort, TxModule.stamped_getPort]
    simp [Set.sdiff_singleton_eq_self (before port)]
  refine ⟨owned, accounted.own, fun port => ?_, accounted.taken, fun port => ?_, fun port => ?_⟩
  · change Function.update s.tx.portSequence packet.getPort (s.tx.portSequence packet.getPort + 1) port =
      UInt8.ofNat ((history.accepted ++ [packet.getPort]).count port)
    rw [List.count_append, UInt8.ofNat_add, ← accounted.accepted port, List.count_singleton]
    rcases Classical.em (packet.getPort = port) with rfl | different
    · simp
    · simp [different, Ne.symm different]
  · rw [after]
    split
    · exact (accounted.finite port).insert c
    · exact accounted.finite port
  · have balance := accounted.balance port
    change (history.accepted ++ [packet.getPort]).count port =
      history.taken.count port + (s.tx.outBuffer.held port).length + _
    rw [after, List.count_append, List.count_singleton]
    rcases Classical.em (packet.getPort = port) with rfl | different
    · rw [if_pos rfl, Set.ncard_insert_of_notMem (before _) (accounted.finite _)]
      simp only [beq_self_eq_true, if_true]
      omega
    · rw [if_neg different, if_neg (by simpa using different)]
      exact balance

/-- An accepted packet is written. -/
theorem Accounted.writes {packet : S3tpPacket} (accounted : Accounted s history)
    (here : s.caller c = .writing packet)
    (owned : (({ s with tx := s.tx.writePacket packet } : TxThreads ι).callerAt c .bufferUnlocking).Owned) :
    Accounted (({ s with tx := s.tx.writePacket packet } : TxThreads ι).callerAt c .bufferUnlocking) history := by
  have after (port : UInt8) : pending (({ s with tx := s.tx.writePacket packet } : TxThreads ι).callerAt c
      .bufferUnlocking).caller port = pending s.caller port \ {c} := by
    rw [pending_callerAt, if_neg]
    exact nofun
  have written : (s.tx.writePacket packet).outBuffer = s.tx.outBuffer.write s.tx.policy packet := rfl
  refine ⟨owned, fun port other member => ?_, accounted.accepted, accounted.taken, fun port => ?_, fun port => ?_⟩
  · rcases Buffer.mem_held_write member with ⟨rfl, rfl⟩ | member
    · rfl
    · exact accounted.own port other member
  · rw [after]
    exact (accounted.finite port).sdiff
  · have balance := accounted.balance port
    change history.accepted.count port =
      history.taken.count port + ((s.tx.outBuffer.write s.tx.policy packet).held port).length + _
    rw [after]
    rcases Classical.em (port = packet.getPort) with rfl | different
    · have member : c ∈ pending s.caller packet.getPort := by simp [pending, here, pendingPort]
      have fewer := Set.ncard_sdiff_singleton_add_one member (accounted.finite _)
      rw [Buffer.held_write_self, TxModule.kept_outBuffer, List.length_insertFromTail]
      omega
    · have absent : c ∉ pending s.caller port := by simp [pending, here, pendingPort, Ne.symm different]
      rw [Buffer.held_write_of_ne _ _ different, Set.sdiff_singleton_eq_self absent]
      exact balance

omit [DecidableEq ι] in
theorem fetchedPort_signal (s : TxThreads ι) : fetchedPort s.signal.place = fetchedPort s.place := by
  cases here : s.place <;> simp [TxThreads.signal, here, fetchedPort]

theorem Accounted.callerStep (accounted : Accounted s history) (owned : t.Owned) (steps : s.CallerSteps c t) :
    Accounted t (countSequences s (.caller c) history) := by
  cases steps with
  | stamps here stamps =>
    simp only [countSequences, here, stamps, Option.isSome_some, if_true]
    exact accounted.accepts here stamps owned
  | isRefused here refused =>
    simp only [countSequences, here, refused, Option.isSome_none, Bool.false_eq_true, if_false]
    exact accounted.quietCaller owned rfl rfl rfl rfl rfl (by rw [here]; rfl)
  | writes here =>
    simp only [countSequences, here]
    exact accounted.writes here owned
  | signals here =>
    simp only [countSequences, here]
    exact accounted.quietCaller owned rfl rfl rfl (fetchedPort_signal s) rfl (by rw [here]; rfl)
  | locks here | leaves here | unlocks here | locksBuffer here | unlocksBuffer here =>
    simp only [countSequences, here]
    exact accounted.quietCaller owned rfl rfl rfl rfl rfl (by rw [here]; rfl)

theorem Accounted.step {event : TxThreadsEvent ι} (accounted : Accounted s history)
    (stepped : s.step event = some t) : Accounted t (countSequences s event history) := by
  have owned := accounted.owned.step stepped
  cases TxThreads.of_step stepped with
  | tx steps => exact accounted.txStep owned steps
  | caller steps => exact accounted.callerStep owned steps
  | enqueuePacket here => exact accounted.quietCaller owned rfl rfl rfl rfl rfl (by rw [here]; rfl)
  | wake here => exact accounted.quiet owned rfl rfl rfl (by rw [here]; rfl) fun _ => rfl
  | closes => exact accounted.quiet owned rfl rfl rfl rfl fun _ => rfl
  | opens | scheduleSync | notifyLinkAvailability | stopRoutine =>
    exact accounted.quiet owned rfl rfl rfl (fetchedPort_signal s) fun _ => rfl

end Callers

/-- In every run, the counters of all ports are exact whenever `tx_mutex` is free. -/
theorem sequencesExact_of_run [DecidableEq ι] {fresh : S3tpHeader} {events : List (TxThreadsEvent ι)}
    {s : TxThreads ι} {history : SequenceHistory}
    (run : Run (recorded TxThreads.step countSequences) Always (TxThreads.started fresh, {}) events (s, history))
    (free : s.txMutex = none) : SequencesExact s history := by
  have accounted : Accounted s history := by
    refine run.invariant (P := fun state => Accounted state.1 state.2) ?_ (accounted_started fresh)
    rintro ⟨s, history⟩ event ⟨t, history'⟩ accounted - stepped
    obtain ⟨stepped, rfl⟩ := recorded_eq_some_iff.mp stepped
    exact accounted.step stepped
  exact accounted.sequencesExact free

/-- A call up to its write: its packet is accepted and on its way. -/
theorem sequencesExact_of_run_onItsWay : ∃ s : TxThreads Unit,
    s.caller () = .bufferLocking ((atNumber 0).stamped (oneByte 0) 0 false) ∧ SequencesExact s ⟨[5], []⟩ := by
  have run : Run (recorded TxThreads.step countSequences) Always (TxThreads.started (ι := Unit) default, {})
      (.enqueuePacket () (oneByte 0) 0 false :: List.replicate 3 (.caller ()))
      (⟨(TxThreads.started (ι := Unit) default).tx.advance 5, none, none, .locking,
        fun _ => .bufferLocking ((atNumber 0).stamped (oneByte 0) 0 false), []⟩, ⟨[5], []⟩) :=
    .cons trivial rfl (.cons trivial rfl (.cons trivial rfl (.cons trivial rfl (.nil _))))
  exact ⟨_, rfl, sequencesExact_of_run run rfl⟩

end SequenceAccounting

end S3tp.Soundness
