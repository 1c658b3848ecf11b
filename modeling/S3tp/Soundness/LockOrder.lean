import S3tp.Model.Concurrent.ModuleLocks

/-! # Lock cycles between a module and its buffer

The modules take their own mutex first, then the buffer's, then a queue's. The callbacks of the
policy actor go the other way: they take the module's mutex under the buffer's and, in a push, under
the queue's. A cycle has to pass through such a callback, and the thread that holds the module's
mutex then waits for the buffer or the queue the callback is made from: the two have crossed.
-/

namespace S3tp.Soundness

open Machine Machine.LockState Model.Concurrent

/-! ## How mutexes are nested -/

/-- What a thread may take with what it holds, innermost first. -/
inductive Nests : List Mutex → Mutex → Prop
  | outermost (mutex : Mutex) : Nests [] mutex
  | bufferInModule (side : Side) : Nests [.module side] (.buffer side)
  | queueInModule (side : Side) (port : UInt8) : Nests [.module side] (.queue side port)
  | queueInBuffer (side : Side) (port : UInt8) : Nests [.buffer side] (.queue side port)
  | queueInBoth (side : Side) (port : UInt8) : Nests [.buffer side, .module side] (.queue side port)
  | windowCallback (side : Side) : Nests [.buffer side] (.module side)
  | compareCallback (side : Side) (port : UInt8) : Nests [.queue side port, .buffer side] (.module side)
  | syncCallback : Nests [.module .rx] (.module .tx)

abbrev Nested (held : List Mutex) (script : Script) : Prop := Balanced Nests held script

theorem nested_locked {held : List Mutex} {mutex : Mutex} {body : Script} (may : Nests held mutex)
    (inner : Nested (mutex :: held) body) : Nested held (locked mutex body) := Balanced.bracket may inner

theorem nested_critical {held : List Mutex} {mutex : Mutex} (may : Nests held mutex) :
    Nested held (locked mutex []) := nested_locked may .nil

/-! ## PriorityQueue and Buffer -/

section Queue

open PriorityQueueLocks

variable {held : List Mutex} {side : Side} {port : UInt8} (may : Nests held (.queue side port))

include may

theorem nested_isEmpty : Nested held (isEmpty side port) := nested_critical may

theorem nested_peek : Nested held (peek side port) := (nested_critical may).append (nested_critical may)

theorem nested_pop : Nested held (pop side port) := (nested_critical may).append (nested_critical may)

theorem nested_getSize : Nested held (getSize side port) := nested_critical may

theorem nested_clear : Nested held (PriorityQueueLocks.clear side port) := nested_critical may

end Queue

open PriorityQueueLocks BufferLocks TxModuleLocks RxModuleLocks

theorem nested_push (side : Side) (port : UInt8) (comparisons : ℕ) :
    Nested [.buffer side] (push side port comparisons) :=
  nested_locked (.queueInBuffer side port) (.flatMap fun _ _ => nested_critical (.compareCallback side port))

theorem nested_windowTest (side : Side) (port : UInt8) (found : Found) :
    Nested [.buffer side] (windowTest side port found) := by
  have may := Nests.queueInBuffer side port
  have callback : Nested [.buffer side] (maximumWindowExceeded side) := by
    cases side with
    | tx => exact .nil
    | rx => exact nested_critical (.windowCallback .rx)
  cases found with
  | empty => exact .nil
  | exceeded => exact ((nested_peek may).append callback).append (nested_clear may)
  | elements _ => exact (nested_peek may).append callback

/-- `write` is called with no mutex held. -/
theorem nested_write (side : Side) (port : UInt8) (found : Found) : Nested [] (write side port found) := by
  have may := Nests.queueInBuffer side port
  refine nested_locked (.outermost _) ?_
  exact (((nested_isEmpty may).append (nested_windowTest side port found)).append
    (nested_push side port _)).append (nested_getSize may)

theorem nested_popPacketInternal (side : Side) (port : UInt8) (popping : Popping) :
    Nested [.buffer side, .module side] (popPacketInternal side port popping) := by
  have may := Nests.queueInBoth side port
  cases popping with
  | absent => exact .nil
  | empty => exact nested_isEmpty may
  | invalid => exact (nested_isEmpty may).append (nested_peek may)
  | taken wasLast =>
    refine ((((nested_isEmpty may).append (nested_peek may)).append (nested_pop may)).append
      (nested_isEmpty may)).append ?_
    cases wasLast with
    | true => exact .nil
    | false => exact nested_getSize may

theorem nested_getNextPacket (side : Side) (port : UInt8) (popping : Popping) :
    Nested [.module side] (getNextPacket side port popping) :=
  nested_locked (.bufferInModule side) (nested_popPacketInternal side port popping)

theorem nested_getNextAvailablePacket (side : Side) (tried : List (UInt8 × Popping)) :
    Nested [.module side] (getNextAvailablePacket side tried) :=
  nested_locked (.bufferInModule side) (.flatMap fun (port, popping) _ => nested_popPacketInternal side port popping)

/-! ## The calls of the threads -/

theorem nested_enqueuePacket (enqueuing : Enqueuing) : Nested [] (enqueuePacket enqueuing) := by
  have stamping : Nested [] (locked (.module .tx) []) := nested_critical (.outermost _)
  cases enqueuing with
  | inactive => exact stamping
  | written port comparisons => exact stamping.append (nested_write .tx port _)

theorem nested_turn (turn : Turn) : Nested [.module .tx] (TxModuleLocks.turn turn) := by
  have waits : Nested [.module .tx] condWait := ⟨⟨rfl, .outermost _, trivial⟩, rfl⟩
  have asks : Nested [.module .tx] (packetsAvailable .tx) := nested_critical (.bufferInModule .tx)
  have fetches (fetching : Fetching) : Nested [.module .tx] (fetch fetching) := by
    cases fetching with
    | fragment port popping => exact nested_getNextPacket .tx port popping
    | any tried => exact nested_getNextAvailablePacket .tx tried
  cases turn with
  | blocked => exact waits
  | waiting => exact asks.append waits
  | refused fetching => exact (asks.append (fetches fetching)).append waits
  | sent fetching port =>
    refine (asks.append (fetches fetching)).append ?_
    have size : Nested [] (getSizeOfQueue .tx port) :=
      nested_locked (.outermost _) (nested_getSize (.queueInBuffer .tx port))
    constructor
    · exact ⟨rfl, size.disciplined_append ⟨.outermost _, trivial⟩⟩
    · change heldAfter [] (getSizeOfQueue .tx port ++ _) = _
      rw [heldAfter_append, size.restores]
      rfl

theorem nested_txRoutine (turns : List Turn) : Nested [] (txRoutine turns) :=
  nested_locked (.outermost _) (.flatMap fun turn _ => nested_turn turn)

theorem nested_isCompleteMessageForPortAvailable (port : UInt8) :
    Nested [.module .rx] (isCompleteMessageForPortAvailable port) :=
  (nested_critical (.bufferInModule .rx)).append (nested_critical (.queueInModule .rx port))

theorem nested_flushQueue (port : UInt8) (flushing : Flushing) : Nested [] (flushQueue port flushing) := by
  have asks : Nested [] (getQueue .rx ++ isEmpty .rx port) :=
    (nested_critical (.outermost _)).append (nested_isEmpty (.outermost _))
  have peeks : Nested [] (peek .rx port) := nested_peek (.outermost _)
  have clears : Nested [] (clearQueueForPort .rx port) :=
    nested_locked (.outermost _) (nested_clear (.queueInBuffer .rx port))
  cases flushing with
  | empty => exact asks
  | fresh => exact asks.append peeks
  | tooOld => exact (asks.append peeks).append clears

theorem nested_handleReceivedPacket (receiving : Receiving) : Nested [] (handleReceivedPacket receiving) := by
  have asks : Nested [] (locked (.module .rx) []) := nested_critical (.outermost _)
  cases receiving with
  | refused => exact asks
  | sync answers =>
    refine asks.append (nested_locked (.outermost _) ?_)
    cases answers with
    | true => exact nested_critical .syncCallback
    | false => exact .nil
  | closed => exact asks.append asks
  | written port found flush =>
    refine (((asks.append asks).append (nested_write .rx port found)).append
      (nested_locked (.outermost _) (nested_isCompleteMessageForPortAvailable port))).append ?_
    cases flush with
    | none => exact .nil
    | some ports => exact (nested_critical (.outermost _)).append (.flatMap fun (port, flushing) _ =>
        nested_flushQueue port flushing)

theorem nested_takePackets (port : UInt8) (wasLast : List Bool) :
    Nested [.module .rx] (takePackets port wasLast) :=
  .flatMap fun wasLast _ => nested_getNextPacket .rx port (.taken wasLast)

/-- A call that keeps the mutex is disciplined as far as it goes. -/
theorem disciplined_getNextCompleteMessage (consuming : Consuming) :
    Disciplined Nests [] (getNextCompleteMessage consuming) ∧
      ((∀ port wasLast, consuming ≠ .inconsistent port wasLast) → Nested [] (getNextCompleteMessage consuming)) := by
  have asks : Nested [] (locked (.module .rx) []) := nested_critical (.outermost _)
  have whole (script : Script) (nested : Nested [] script) (restores : Prop) :
      Disciplined Nests [] script ∧ (restores → Nested [] script) := ⟨nested.disciplined, fun _ => nested⟩
  cases consuming with
  | inactive => exact whole _ asks _
  | nothing => exact whole _ (asks.append asks) _
  | message port wasLast =>
    exact whole _ ((asks.append asks).append (nested_locked (.outermost _) ((nested_takePackets port wasLast).append
      (nested_isCompleteMessageForPortAvailable port)))) _
  | inconsistent port wasLast =>
    have taking : Disciplined Nests [] (.acquire (.module .rx) :: takePackets port wasLast) :=
      ⟨.outermost _, (nested_takePackets port wasLast).disciplined⟩
    exact ⟨(asks.append asks).disciplined_append taking, fun other => absurd rfl (other port wasLast)⟩

/-- Every thread nests its mutexes, unless the assembly thread goes on with the mutex kept. -/
theorem disciplined_script {ι : Type*} {w : Workload ι} (stops : w.StopsWhenInconsistent) (thread : Thread ι) :
    Disciplined Nests [] (w.script thread) := by
  cases thread with
  | client i => exact (Balanced.flatMap fun call _ => nested_enqueuePacket call).disciplined
  | tx => exact (nested_txRoutine w.turns).disciplined
  | link => exact (Balanced.flatMap fun call _ => nested_handleReceivedPacket call).disciplined
  | assembly =>
    change Disciplined Nests [] (w.consumed.flatMap getNextCompleteMessage)
    rcases List.eq_nil_or_concat' w.consumed with none | ⟨before, last, split⟩
    · rw [none]
      exact trivial
    · rw [split, List.flatMap_append, List.flatMap_singleton]
      have regular : Nested [] (before.flatMap getNextCompleteMessage) := by
        refine .flatMap fun call member => (disciplined_getNextCompleteMessage call).2 (stops call ?_)
        rw [split, List.dropLast_concat]
        exact member
      exact regular.disciplined_append (disciplined_getNextCompleteMessage last).1

/-! ## Cycles -/

/-- The order in which the mutexes are nested, callbacks of the policy actor apart. -/
def rank : Mutex → ℕ
  | .module .rx => 0
  | .buffer .rx => 1
  | .queue .rx _ => 2
  | .module .tx => 3
  | .buffer .tx => 4
  | .queue .tx _ => 5

/-- The mutexes of the transmitting module, which answers a sync frame and asks nothing back. -/
def OfTx : Mutex → Prop
  | .module side | .buffer side | .queue side _ => side = .tx

theorem ofTx_of_nests {held : List Mutex} {x y : Mutex} (nests : Nests held y) (holds : x ∈ held) (first : OfTx x) :
    OfTx y := by
  cases nests with
  | outermost => simp at holds
  | syncCallback => rfl
  | _ =>
    simp only [List.mem_cons, List.not_mem_nil, or_false] at holds
    rcases holds with rfl | rfl <;> exact first

section Cycles

variable {ι : Type*} {s : LockState (Thread ι) Mutex} {stack : Thread ι → List Mutex}

/-- From a thread that waits on the transmitting side the path stays on that side. -/
theorem ofTx_of_path (stacked : s.Stacked Nests stack) {t u : Thread ι} {x y : Mutex} (first : s.Awaits t x)
    (side : OfTx x) (path : Relation.ReflTransGen s.WaitsFor t u) (last : s.Awaits u y) : OfTx y := by
  induction path generalizing y with
  | refl => exact first.unique last ▸ side
  | tail _ edge ih =>
    obtain ⟨z, awaited, holds⟩ := edge
    exact ofTx_of_nests (stacked.allows last) ((stacked.holds _ _).mpr holds) (ih awaited)

/-- A mutex is on one stack only. -/
theorem stack_unique (stacked : s.Stacked Nests stack) {t u : Thread ι} {x : Mutex} (first : x ∈ stack t)
    (second : x ∈ stack u) : t = u :=
  Option.some.inj (((stacked.holds t x).mp first).symm.trans ((stacked.holds u x).mp second))

/-- A thread that holds a queue and waits is comparing, under the buffer's mutex. -/
theorem buffer_of_queue (stacked : s.Stacked Nests stack) {t : Thread ι} {x : Mutex} {side : Side} {port : UInt8}
    (awaited : s.Awaits t x) (inQueue : .queue side port ∈ stack t) : .buffer side ∈ stack t := by
  have nests := stacked.allows awaited
  generalize stack t = held at nests inQueue ⊢
  cases nests <;> simp_all

/-- A callback that waits for the module's mutex is on no cycle: the mutex's holder would wait for the
buffer or the queue the callback is made from. -/
theorem callback_not_in_cycle (stacked : s.Stacked Nests stack) (uncrossed : s.Uncrossed) {t : Thread ι} {side : Side}
    (awaited : s.Awaits t (.module side)) (inBuffer : .buffer side ∈ stack t) (outside : .module side ∉ stack t)
    (cycle : Relation.TransGen s.WaitsFor t t) : False := by
  obtain ⟨rest, now⟩ := id awaited
  obtain ⟨u, ⟨x, awaited', holds⟩, back⟩ := Relation.TransGen.head'_iff.mp cycle
  obtain rfl := awaited.unique awaited'
  have inModule := (stacked.holds u _).mpr holds
  have different : t ≠ u := by
    rintro rfl
    exact outside inModule
  -- The holder waits in turn.
  obtain ⟨v, ⟨y, awaits, held⟩, back'⟩ := (Relation.ReflTransGen.cases_head back).resolve_left different.symm
  obtain ⟨rest', now'⟩ := id awaits
  have crosses (z : Mutex) (own : z ∈ stack t) : y ≠ z := by
    rintro rfl
    exact uncrossed t u y (.module side) different
      ⟨(stacked.holds t _).mp own, by rw [now]; exact .inl rfl, holds, by rw [now']; exact .inl rfl⟩
  have nests := stacked.allows awaits
  have bufferElsewhere : .buffer side ∉ stack u := fun elsewhere => different (stack_unique stacked inBuffer elsewhere)
  generalize stack u = outer at nests inModule bufferElsewhere
  cases nests with
  | bufferInModule side' =>
    obtain rfl : side = side' := by simpa using inModule
    exact crosses _ inBuffer rfl
  | queueInModule side' port =>
    obtain rfl : side = side' := by simpa using inModule
    have inQueue := (stacked.holds v _).mpr held
    rcases Relation.ReflTransGen.cases_head back' with rfl | ⟨_, ⟨_, waits, -⟩, -⟩
    · exact crosses _ inQueue rfl
    · obtain rfl := stack_unique stacked (buffer_of_queue stacked waits inQueue) inBuffer
      exact crosses _ inQueue rfl
  | queueInBoth side' port =>
    obtain rfl : side = side' := by simpa using inModule
    exact bufferElsewhere (by simp)
  | syncCallback =>
    obtain rfl : side = .rx := by simpa using inModule
    exact absurd (ofTx_of_path stacked awaits rfl back awaited) (by simp [OfTx])
  | _ => simp at inModule

/-- Wherever a cycle could pass, mutexes are awaited in order. -/
theorem rank_lt_of_cycle (stacked : s.Stacked Nests stack) (uncrossed : s.Uncrossed) {t u : Thread ι} {x y : Mutex}
    (first : s.Awaits t x) (holds : s.holder x = some u) (second : s.Awaits u y)
    (back : Relation.ReflTransGen s.WaitsFor u t) : rank x < rank y := by
  have inside := (stacked.holds u x).mpr holds
  have cycle : Relation.TransGen s.WaitsFor u u := Relation.TransGen.tail' back ⟨x, first, holds⟩
  have nests := stacked.allows second
  have callback {side : Side} (awaited : s.Awaits u (.module side)) :=
    callback_not_in_cycle stacked uncrossed awaited
  generalize stack u = held at nests inside callback
  cases nests with
  | outermost => simp at inside
  | windowCallback side => exact (callback second (by simp) (by simp) cycle).elim
  | compareCallback side port => exact (callback second (by simp) (by simp) cycle).elim
  | bufferInModule side | queueInModule side port | queueInBuffer side port | queueInBoth side port =>
    simp only [List.mem_cons, List.not_mem_nil, or_false] at inside
    rcases inside with rfl | rfl <;> cases side <;> simp [rank]
  | syncCallback =>
    obtain rfl := List.mem_singleton.mp inside
    decide

end Cycles

/-- In a run in which no two threads cross there is no cycle of threads waiting for mutexes. -/
theorem not_deadlocked_of_uncrossed {ι : Type*} [DecidableEq ι] (w : Workload ι) (stops : w.StopsWhenInconsistent)
    {threads : List (Thread ι)} {s : LockState (Thread ι) Mutex}
    (run : Run LockState.step (fun s t => ¬ s.Crosses t) w.started threads s) : ¬ s.Deadlocked := by
  obtain ⟨⟨stack, stacked⟩, uncrossed⟩ :=
    stacked_run run (stacked_start (disciplined_script stops)) (uncrossed_start w.script)
  exact not_deadlocked_of_ascending rank fun t u x y first holds second back =>
    rank_lt_of_cycle stacked uncrossed first holds second back

/-- A client enqueues two packets on one port, the transmit thread looks for packets. -/
def twoPackets : Workload Unit where
  enqueued _ := [.written 5 0, .written 5 1]
  turns := [.waiting]
  received := []
  consumed := []

/-- The state after the client's first step. -/
def firstStep : LockState (Thread Unit) Mutex where
  script := Function.update twoPackets.script (.client ()) (twoPackets.script (.client ())).tail
  holder := Function.update (fun _ => none) (.module .tx) (some (.client ()))

theorem not_deadlocked_of_uncrossed_firstStep : ¬ firstStep.Deadlocked := by
  have straight : ¬ twoPackets.started.Crosses (.client ()) := by
    rintro ⟨_, _, _, _, -, -, held, -⟩
    exact absurd held (by simp [Workload.started])
  have stepped : twoPackets.started.step (.client ()) = some firstStep := rfl
  exact not_deadlocked_of_uncrossed twoPackets (by simp [Workload.StopsWhenInconsistent, twoPackets])
    (.cons straight stepped (.nil _))

/-- The client runs into the callback of its second push, the transmit thread starts. -/
def meeting : List (Thread Unit) := List.replicate 20 (.client ()) ++ [.tx]

/-- What the two threads wait for at that point, and who holds it. -/
theorem meeting_waits : (meeting.foldlM LockState.step twoPackets.started).map (fun s =>
      ((s.script (.client ())).head?, s.holder (.module .tx), (s.script .tx).head?, s.holder (.buffer .tx))) =
    some (some (.acquire (.module .tx)), some .tx, some (.acquire (.buffer .tx)), some (.client ())) := by
  decide +kernel

/-- The second push calls back for the module's mutex while the transmit thread, holding it, waits for
the buffer's. -/
theorem not_deadlock_free : ¬ ∀ (w : Workload Unit), w.StopsWhenInconsistent →
    ∀ (threads : List (Thread Unit)) (s : LockState (Thread Unit) Mutex),
    Run LockState.step Always w.started threads s → ¬ s.Deadlocked := by
  intro free
  obtain ⟨s, runs, facts⟩ := Option.map_eq_some_iff.mp meeting_waits
  simp only [Prod.mk.injEq] at facts
  obtain ⟨clientWaits, held, txWaits, held'⟩ := facts
  have stops : twoPackets.StopsWhenInconsistent := by simp [Workload.StopsWhenInconsistent, twoPackets]
  apply free twoPackets stops meeting s (Run.always_iff.mpr runs)
  have first : s.WaitsFor (.client ()) .tx := ⟨_, awaits_of_head? clientWaits, held⟩
  have second : s.WaitsFor .tx (.client ()) := ⟨_, awaits_of_head? txWaits, held'⟩
  exact ⟨.client (), .tail (.single first) second⟩

end S3tp.Soundness
