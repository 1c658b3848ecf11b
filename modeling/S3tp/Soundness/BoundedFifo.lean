import S3tp.Machine.Locks
import S3tp.Model.Concurrent.SimpleQueueThreads
import Mathlib.Data.Fintype.Basic

/-! # The simple queue as a bounded queue

A thread that is woken goes on without testing again, and `pop` hands out a reference to the element of a node it has
deleted. The queue is a bounded first-in first-out queue in every run in which neither shows: a woken thread that gets
the mutex finds what it was waiting for, and nobody writes to the memory of a deleted node before the caller of `pop`
has read it. Otherwise a queue can outgrow its capacity, a null pointer is followed, or a caller reads something that
was never pushed.
-/

namespace S3tp.Soundness

open Model.Core Model.Concurrent Machine

variable {ι α : Type}

/-- The elements pushed and popped, in order, what each thread has popped last, and for each call of `pop` what was
popped beside what its caller reads. -/
structure QueueHistory (ι α : Type) where
  pushed : List α := []
  popped : List α := []
  taken : ι → Option α := fun _ => none
  reads : List (Option α × Option α) := []

/-- The element of the head. -/
def frontElement (q : SimpleQueue α) : Option α := do
  let ref ← q.head
  let node ← q.heap.lookup ref
  some node.element

/-- What a step adds to the history. -/
def rememberQueue [DecidableEq ι] (s : SimpleQueueThreads ι α) (event : SimpleQueueEvent ι α)
    (history : QueueHistory ι α) : QueueHistory ι α :=
  match event with
  | .link thread _ =>
    match s.place thread with
    | .linking element => { history with pushed := history.pushed ++ [element] }
    | _ => history
  | .turn thread =>
    match s.place thread with
    | .unlinking =>
      { history with
        popped := history.popped ++ (frontElement s.queue).toList
        taken := Function.update history.taken thread (frontElement s.queue) }
    | _ => history
  | .read thread =>
    match s.place thread with
    | .popped ref => { history with reads := history.reads ++ [(history.taken thread, s.queue.deleted ref)] }
    | _ => history
  | _ => history

/-- The queue is bounded, whoever is about to unlink a node finds one, what was pushed has been popped in this order or
is still held, and every caller of `pop` reads the element that was popped. -/
structure BoundedFifo (capacity : ℤ) (s : SimpleQueueThreads ι α) (history : QueueHistory ι α) : Prop where
  size_le : s.queue.size ≤ capacity
  unlinks : ∀ thread, s.place thread = .unlinking → ∃ result, s.queue.unlink = some result
  fifo : ∃ cells, s.queue.Holds cells ∧ history.pushed = history.popped ++ cells.map Prod.snd
  reads : ∀ read ∈ history.reads, ∃ element, read = (some element, some element)

/-- The deleted node the thread has a reference to. -/
def reference : QueuePlace α → Option ℕ
  | .popSignalling ref | .popUnlocking ref | .popped ref => some ref
  | _ => none

/-- A call of `pop` has handed out a reference that is still to be read. -/
def Referenced (s : SimpleQueueThreads ι α) (address : ℕ) : Prop :=
  ∃ thread, reference (s.place thread) = some address

/-- A woken thread finds what it has waited for, room or an element. -/
def Finds (q : SimpleQueue α) : QueuePlace α → Prop
  | .pushWoken _ => q.size ≠ q.capacity
  | .popWoken => q.size ≠ 0
  | _ => True

/-- A woken thread that takes the mutex finds what it has waited for, and memory is not written to while there is a
reference to it. -/
def QueueUndisturbed (s : SimpleQueueThreads ι α) : SimpleQueueEvent ι α → Prop
  | .turn thread => Finds s.queue (s.place thread)
  | .link _ newNode => ¬ Referenced s newNode
  | .overwrite address _ => ¬ Referenced s address
  | _ => True

/-! ## What a step does -/

/-- The places between the taking and the releasing of the mutex. -/
def UnderMutex : QueuePlace α → Prop
  | .pushTesting _ | .linking _ | .pushSignalling | .pushUnlocking _ | .popTesting | .unlinking | .popSignalling _
  | .popUnlocking _ | .emptiness .read | .emptiness (.unlock _) => True
  | _ => False

/-- A thread stays where it is or stops waiting. -/
def StaysOrWakes (before after : QueuePlace α) : Prop :=
  after = before ∨ (∃ element, after = .pushWoken element) ∨ after = .popWoken

/-- A step that leaves the nodes alone. A thread gets to the nodes when it has tested the size or has been woken. -/
structure Moves (s t : SimpleQueueThreads ι α) (event : SimpleQueueEvent ι α) (thread : ι) : Prop where
  queue : t.queue = s.queue
  passes : Passes (UnderMutex (s.place thread)) (UnderMutex (t.place thread)) s.mutex t.mutex thread
  others : ∀ u, u ≠ thread → StaysOrWakes (s.place u) (t.place u)
  reference : reference (t.place thread) = none ∨ reference (t.place thread) = reference (s.place thread)
  links : ∀ element, t.place thread = .linking element → QueueUndisturbed s event → s.queue.size ≠ s.queue.capacity
  unlinks : t.place thread = .unlinking → QueueUndisturbed s event → s.queue.size ≠ 0 ∨ s.queue.head ≠ none

/-- All a step can do. -/
inductive Steps [DecidableEq ι] (s : SimpleQueueThreads ι α) (history : QueueHistory ι α) :
    SimpleQueueEvent ι α → SimpleQueueThreads ι α → QueueHistory ι α → Prop
  | moves {event t thread} (moves : Moves s t event thread) : Steps s history event t history
  | links {thread newNode element queue} (here : s.place thread = .linking element) (fresh : newNode ∉ s.queue.heap)
      (linked : s.queue.link newNode element = some queue) :
      Steps s history (.link thread newNode) { s.goTo thread .pushSignalling with queue }
        { history with pushed := history.pushed ++ [element] }
  | unlinks {thread ref queue} (here : s.place thread = .unlinking) (unlinked : s.queue.unlink = some (ref, queue)) :
      Steps s history (.turn thread) { s.goTo thread (.popSignalling ref) with queue }
        { history with
          popped := history.popped ++ (frontElement s.queue).toList
          taken := Function.update history.taken thread (frontElement s.queue) }
  | reads {thread ref} (here : s.place thread = .popped ref) :
      Steps s history (.read thread) (s.goTo thread .outside)
        { history with reads := history.reads ++ [(history.taken thread, s.queue.deleted ref)] }
  | overwrites {address content} (fresh : address ∉ s.queue.heap) :
      Steps s history (.overwrite address content) { s with queue := s.queue.overwrite address content } history

section Stepping

variable [DecidableEq ι] {s t : SimpleQueueThreads ι α} {history : QueueHistory ι α} {thread : ι} {p : QueuePlace α}

/-- A step of one thread. -/
theorem Moves.of_place {event : SimpleQueueEvent ι α} {before after : QueuePlace α} (here : s.place thread = before)
    (queue : t.queue = s.queue) (place : t.place = Function.update s.place thread after)
    (passes : Passes (UnderMutex before) (UnderMutex after) s.mutex t.mutex thread)
    (reference : Soundness.reference after = none ∨ Soundness.reference after = Soundness.reference before)
    (links : ∀ element, after = .linking element → QueueUndisturbed s event → s.queue.size ≠ s.queue.capacity)
    (unlinks : after = .unlinking → QueueUndisturbed s event → s.queue.size ≠ 0 ∨ s.queue.head ≠ none) :
    Moves s t event thread := by
  have there : t.place thread = after := by rw [place, Function.update_self]
  refine ⟨queue, by rwa [here, there], fun u other => .inl ?_, by rwa [here, there], by rwa [there], by rwa [there]⟩
  rw [place, Function.update_of_ne other]

omit [DecidableEq ι] in
theorem lock_eq_some (locked : s.lock thread = some t) : s.mutex = none ∧ t = { s with mutex := some thread } := by
  rw [SimpleQueueThreads.lock] at locked
  split at locked
  · next free => exact ⟨free, (Option.some.inj locked).symm⟩
  · contradiction

/-- A step that takes the mutex. -/
theorem Moves.of_lock {event : SimpleQueueEvent ι α} {before after : QueuePlace α} (here : s.place thread = before)
    (stepped : (s.lock thread).map (fun s => s.goTo thread after) = some t)
    (reference : Soundness.reference after = none)
    (links : ∀ element, after = .linking element → QueueUndisturbed s event → s.queue.size ≠ s.queue.capacity)
    (unlinks : after = .unlinking → QueueUndisturbed s event → s.queue.size ≠ 0 ∨ s.queue.head ≠ none) :
    Moves s t event thread := by
  obtain ⟨locked, took, rfl⟩ := Option.map_eq_some_iff.mp stepped
  obtain ⟨free, rfl⟩ := lock_eq_some took
  exact .of_place here rfl rfl (.inr (.inl ⟨free, rfl⟩)) (.inl reference) links unlinks

/-- A thread that begins a call. -/
theorem Moves.of_begin {event : SimpleQueueEvent ι α} (after : QueuePlace α)
    (stepped : (match s.place thread with
      | .outside => some (s.goTo thread after)
      | _ => none) = some t)
    (outside : ¬ UnderMutex after) (reference : Soundness.reference after = none)
    (notLinking : ∀ element, after ≠ .linking element) (notUnlinking : after ≠ .unlinking) :
    Moves s t event thread := by
  split at stepped
  · next here =>
    obtain rfl := Option.some.inj stepped
    exact .of_place here rfl rfl (.inl ⟨rfl, fun inside => absurd inside outside⟩) (.inl reference)
      (fun element linking => absurd linking (notLinking element)) fun unlinking => absurd unlinking notUnlinking
  · contradiction

/-- A thread that is woken is one that waits, and nobody else moves. -/
theorem wake_eq_some (woken : s.wake thread = some t) :
    ∃ after, ((∃ element, after = .pushWoken element) ∨ after = .popWoken) ∧ t.queue = s.queue ∧ t.mutex = s.mutex ∧
      t.place = Function.update s.place thread after := by
  rw [SimpleQueueThreads.wake] at woken
  split at woken
  · next element here =>
    obtain rfl := Option.some.inj woken
    exact ⟨.pushWoken element, .inl ⟨element, rfl⟩, rfl, rfl, rfl⟩
  · next here =>
    obtain rfl := Option.some.inj woken
    exact ⟨.popWoken, .inr rfl, rfl, rfl, rfl⟩
  · contradiction

theorem Moves.of_wake {event : SimpleQueueEvent ι α} (woken : s.wake thread = some t) : Moves s t event thread := by
  obtain ⟨after, isWoken, queue, mutex, place⟩ := wake_eq_some woken
  rcases isWoken with ⟨element, rfl⟩ | rfl
  · exact .of_place rfl queue place (.inl ⟨mutex, nofun⟩) (.inl rfl) nofun nofun
  · exact .of_place rfl queue place (.inl ⟨mutex, nofun⟩) (.inl rfl) nofun nofun

/-- A signal wakes somebody or nobody. -/
theorem signal_eq_some {waiting : List ι} {woken : Option ι} (signalled : s.signal waiting woken = some t) :
    t.queue = s.queue ∧ t.mutex = s.mutex ∧ ∀ u, StaysOrWakes (s.place u) (t.place u) := by
  cases woken with
  | none =>
    rw [SimpleQueueThreads.signal] at signalled
    split at signalled
    · obtain rfl := Option.some.inj signalled
      exact ⟨rfl, rfl, fun u => .inl rfl⟩
    · contradiction
  | some w =>
    rw [SimpleQueueThreads.signal] at signalled
    split at signalled
    · obtain ⟨after, isWoken, queue, mutex, place⟩ := wake_eq_some signalled
      refine ⟨queue, mutex, fun u => ?_⟩
      rw [place]
      rcases Classical.em (u = w) with rfl | other
      · rw [Function.update_self]
        exact .inr isWoken
      · rw [Function.update_of_ne other]
        exact .inl rfl
    · contradiction

/-- A thread that signals stays under the mutex. -/
theorem Moves.of_signal {event : SimpleQueueEvent ι α} {before after : QueuePlace α} {waiting : List ι}
    {woken : Option ι} (here : s.place thread = before)
    (stepped : (s.signal waiting woken).map (fun s => s.goTo thread after) = some t) (inside : UnderMutex before)
    (reference : Soundness.reference after = Soundness.reference before)
    (notLinking : ∀ element, after ≠ .linking element) (notUnlinking : after ≠ .unlinking) :
    Moves s t event thread := by
  obtain ⟨signalled, done, rfl⟩ := Option.map_eq_some_iff.mp stepped
  obtain ⟨queue, mutex, others⟩ := signal_eq_some done
  have there : (signalled.goTo thread after).place thread = after := Function.update_self ..
  refine ⟨queue, .inl ⟨mutex, fun _ => by rwa [here]⟩, fun u other => ?_, .inr (by rw [here, there, reference]), ?_, ?_⟩
  · have same : (signalled.goTo thread after).place u = signalled.place u := Function.update_of_ne other ..
    rw [same]
    exact others u
  · intro element atLinking
    exact absurd (there.symm.trans atLinking) (notLinking element)
  · intro atUnlinking
    exact absurd (there.symm.trans atUnlinking) notUnlinking

/-- The thread's next step. -/
theorem steps_of_turn (stepped : s.turn thread = some t) :
    Steps s history (.turn thread) t (rememberQueue s (.turn thread) history) := by
  have quiet (other : s.place thread ≠ .unlinking) : rememberQueue s (.turn thread) history = history := by
    simp only [rememberQueue]
  rw [SimpleQueueThreads.turn] at stepped
  split at stepped
  · next element here =>
    rw [quiet (by simp [here])]
    exact .moves (.of_lock here stepped rfl nofun nofun)
  · next element here =>
    rw [quiet (by simp [here])]
    split_ifs at stepped with full blocking
    · obtain rfl := Option.some.inj stepped
      exact .moves (.of_place here rfl rfl (.inr (.inr ⟨rfl, trivial, id⟩)) (.inl rfl) nofun nofun)
    · obtain rfl := Option.some.inj stepped
      exact .moves (.of_place here rfl rfl (.inl ⟨rfl, id⟩) (.inl rfl) nofun nofun)
    · obtain rfl := Option.some.inj stepped
      exact .moves (.of_place here rfl rfl (.inl ⟨rfl, id⟩) (.inl rfl) (fun _ _ _ => full) nofun)
  · next element here =>
    rw [quiet (by simp [here])]
    refine .moves (.of_lock here stepped rfl (fun _ _ undisturbed => ?_) nofun)
    simpa [QueueUndisturbed, Finds, here] using undisturbed
  · next result here =>
    rw [quiet (by simp [here])]
    obtain rfl := Option.some.inj stepped
    exact .moves (.of_place here rfl rfl (.inr (.inr ⟨rfl, trivial, id⟩)) (.inl rfl) nofun nofun)
  · next here =>
    rw [quiet (by simp [here])]
    exact .moves (.of_lock here stepped rfl nofun nofun)
  · next here =>
    rw [quiet (by simp [here])]
    split_ifs at stepped with empty blocking head
    · obtain rfl := Option.some.inj stepped
      exact .moves (.of_place here rfl rfl (.inr (.inr ⟨rfl, trivial, id⟩)) (.inl rfl) nofun nofun)
    · obtain rfl := Option.some.inj stepped
      refine .moves (.of_place here rfl rfl (.inl ⟨rfl, id⟩) (.inl rfl) nofun fun _ _ => .inr ?_)
      exact Option.isSome_iff_ne_none.mp head
    · obtain rfl := Option.some.inj stepped
      exact .moves (.of_place here rfl rfl (.inl ⟨rfl, id⟩) (.inl rfl) nofun fun _ _ => .inl empty)
  · next here =>
    rw [quiet (by simp [here])]
    refine .moves (.of_lock here stepped rfl nofun fun _ undisturbed => .inl ?_)
    simpa [QueueUndisturbed, Finds, here] using undisturbed
  · next here =>
    obtain ⟨⟨ref, queue⟩, unlinked, rfl⟩ := Option.map_eq_some_iff.mp stepped
    simp only [rememberQueue, here]
    exact .unlinks here unlinked
  · next ref here =>
    rw [quiet (by simp [here])]
    obtain rfl := Option.some.inj stepped
    exact .moves (.of_place here rfl rfl (.inr (.inr ⟨rfl, trivial, id⟩)) (.inr rfl) nofun nofun)
  · next here =>
    rw [quiet (by simp [here])]
    exact .moves (.of_lock here stepped rfl nofun nofun)
  · next here =>
    rw [quiet (by simp [here])]
    obtain rfl := Option.some.inj stepped
    exact .moves (.of_place here rfl rfl (.inl ⟨rfl, id⟩) (.inl rfl) nofun nofun)
  · next result here =>
    rw [quiet (by simp [here])]
    obtain rfl := Option.some.inj stepped
    exact .moves (.of_place here rfl rfl (.inr (.inr ⟨rfl, trivial, id⟩)) (.inl rfl) nofun nofun)
  · contradiction

theorem link_eq_some {newNode : ℕ} (stepped : s.step (.link thread newNode) = some t) :
    ∃ element queue, s.place thread = .linking element ∧ newNode ∉ s.queue.heap ∧
      s.queue.link newNode element = some queue ∧ t = { s.goTo thread .pushSignalling with queue } := by
  simp only [SimpleQueueThreads.step] at stepped
  split at stepped
  · next element here =>
    split at stepped
    · contradiction
    · next fresh =>
      obtain ⟨queue, linked, rfl⟩ := Option.map_eq_some_iff.mp stepped
      exact ⟨element, queue, here, fresh, linked, rfl⟩
  · contradiction

theorem of_queueStep {event : SimpleQueueEvent ι α} (stepped : s.step event = some t) :
    Steps s history event t (rememberQueue s event history) := by
  cases event with
  | push thread element => exact .moves (.of_begin (.pushLocking element) stepped id rfl nofun nofun)
  | pop thread => exact .moves (.of_begin .popLocking stepped id rfl nofun nofun)
  | isEmpty thread => exact .moves (.of_begin (.emptiness .lock) stepped id rfl nofun nofun)
  | turn thread => exact steps_of_turn stepped
  | link thread newNode =>
    obtain ⟨element, queue, here, fresh, linked, rfl⟩ := link_eq_some stepped
    simp only [rememberQueue, here]
    exact .links here fresh linked
  | signal thread woken =>
    simp only [SimpleQueueThreads.step] at stepped
    split at stepped
    · next here => exact .moves (.of_signal here stepped trivial rfl nofun nofun)
    · next ref here => exact .moves (.of_signal here stepped trivial rfl nofun nofun)
    · contradiction
  | wake thread => exact .moves (.of_wake stepped)
  | read thread =>
    simp only [SimpleQueueThreads.step] at stepped
    split at stepped
    · next ref here =>
      obtain rfl := Option.some.inj stepped
      simp only [rememberQueue, here]
      exact .reads here
    · contradiction
  | overwrite address content =>
    simp only [SimpleQueueThreads.step] at stepped
    split at stepped
    · contradiction
    · next fresh =>
      obtain rfl := Option.some.inj stepped
      exact .overwrites fresh

end Stepping

/-! ## The invariant -/

/-- One thread at a time is under the mutex. The one about to link a node has room for it, the one about to unlink one
has a node to unlink, and the memory a thread has a reference to holds what the thread popped. -/
structure QueueOrderly (capacity : ℤ) (s : SimpleQueueThreads ι α) (history : QueueHistory ι α) : Prop where
  guarded : Guarded (fun thread => UnderMutex (s.place thread)) s.mutex
  capacity_eq : s.queue.capacity = capacity
  size_le : s.queue.size ≤ capacity
  fifo : ∃ cells, s.queue.Holds cells ∧ history.pushed = history.popped ++ cells.map Prod.snd
  links : ∀ thread element, s.place thread = .linking element → s.queue.size ≠ s.queue.capacity
  unlinks : ∀ thread, s.place thread = .unlinking → s.queue.size ≠ 0 ∨ s.queue.head ≠ none
  references : ∀ thread ref, reference (s.place thread) = some ref → ref ∉ s.queue.heap ∧
    ∃ element, history.taken thread = some element ∧ s.queue.deleted ref = some element
  reads : ∀ read ∈ history.reads, ∃ element, read = (some element, some element)

section Invariant

variable {capacity : ℤ} {s t : SimpleQueueThreads ι α} {history : QueueHistory ι α} {thread : ι}

/-- A thread that finds a node unlinks it. -/
theorem QueueOrderly.unlink_eq (orderly : QueueOrderly capacity s history) (here : s.place thread = .unlinking) :
    ∃ ref element next cells, s.queue.Holds ((ref, element) :: cells) ∧ frontElement s.queue = some element ∧
      s.queue.unlink = some (ref, s.queue.shorten ref ⟨element, next⟩) ∧
      (s.queue.shorten ref ⟨element, next⟩).Holds cells ∧
      history.pushed = history.popped ++ element :: cells.map Prod.snd := by
  obtain ⟨cells, holds, fifo⟩ := orderly.fifo
  cases cells with
  | nil =>
    rcases orderly.unlinks thread here with size | head
    · exact absurd holds.size size
    · exact absurd holds.head_eq head
  | cons cell cells =>
    obtain ⟨ref, element⟩ := cell
    obtain ⟨next, unlinked, after⟩ := holds.unlink
    obtain ⟨link, found⟩ := holds.lookup List.mem_cons_self
    have head : s.queue.head = some ref := holds.head_eq
    exact ⟨ref, element, next, cells, holds, by simp [frontElement, head, found], unlinked, after, fifo⟩

/-- Nobody else is under the mutex. -/
theorem QueueOrderly.alone (orderly : QueueOrderly capacity s history) (inside : UnderMutex (s.place thread)) {u : ι}
    (other : u ≠ thread) : ¬ UnderMutex (s.place u) := by
  intro within
  exact other (Option.some.inj ((orderly.guarded u within).symm.trans (orderly.guarded thread inside)))

theorem QueueOrderly.moves {event : SimpleQueueEvent ι α} (orderly : QueueOrderly capacity s history)
    (undisturbed : QueueUndisturbed s event) (moves : Moves s t event thread) : QueueOrderly capacity t history := by
  obtain ⟨queue, passes, others, sameReference, links, unlinks⟩ := moves
  have elsewhere (P : QueuePlace α → Prop) (woken : ∀ element, ¬ P (.pushWoken element)) (woken' : ¬ P .popWoken)
      (u : ι) (other : u ≠ thread) (holds : P (t.place u)) : P (s.place u) := by
    rcases others u other with same | ⟨element, isWoken⟩ | isWoken
    · rwa [same] at holds
    · rw [isWoken] at holds
      exact absurd holds (woken element)
    · rw [isWoken] at holds
      exact absurd holds woken'
  refine ⟨?_, by rw [queue, orderly.capacity_eq], by rw [queue]; exact orderly.size_le,
    by rw [queue]; exact orderly.fifo, fun u element atLinking => ?_, fun u atUnlinking => ?_, fun u ref refers => ?_,
    orderly.reads⟩
  · exact orderly.guarded.passes passes (elsewhere UnderMutex (fun _ => id) id)
  · rw [queue]
    rcases Classical.em (u = thread) with rfl | other
    · exact links element atLinking undisturbed
    · exact orderly.links u element (elsewhere (· = .linking element) nofun nofun u other atLinking)
  · rw [queue]
    rcases Classical.em (u = thread) with rfl | other
    · exact unlinks atUnlinking undisturbed
    · exact orderly.unlinks u (elsewhere (· = .unlinking) nofun nofun u other atUnlinking)
  · rw [queue]
    rcases Classical.em (u = thread) with rfl | other
    · rcases sameReference with none | same
      · exact absurd (none.symm.trans refers) nofun
      · exact orderly.references u ref (same.symm.trans refers)
    · exact orderly.references u ref (elsewhere (reference · = some ref) nofun nofun u other refers)

theorem QueueOrderly.overwrites_step (orderly : QueueOrderly capacity s history) {address : ℕ} (content : α)
    (unreferenced : ¬ Referenced s address) :
    QueueOrderly capacity { s with queue := s.queue.overwrite address content } history := by
  obtain ⟨cells, holds, fifo⟩ := orderly.fifo
  refine ⟨orderly.guarded, orderly.capacity_eq, orderly.size_le, ⟨cells, holds.overwrite address content, fifo⟩,
    orderly.links, orderly.unlinks, ?_, orderly.reads⟩
  intro u ref refers
  obtain ⟨gone, element, taken, left⟩ := orderly.references u ref refers
  have different : ref ≠ address := by
    rintro rfl
    exact unreferenced ⟨u, refers⟩
  exact ⟨gone, element, taken, by simpa [SimpleQueue.overwrite, different] using left⟩

theorem orderly_started (capacity mode : ℤ) :
    QueueOrderly (SimpleQueue.create capacity mode : SimpleQueue α).capacity
      (SimpleQueueThreads.started capacity mode : SimpleQueueThreads ι α) {} := by
  refine ⟨nofun, rfl, ?_, ⟨[], SimpleQueue.holds_create capacity mode, rfl⟩, nofun, nofun, nofun, nofun⟩
  change 0 ≤ if 0 < capacity then capacity else simpleQueueDefaultCapacity
  split
  · omega
  · decide

theorem QueueOrderly.boundedFifo (orderly : QueueOrderly capacity s history) : BoundedFifo capacity s history := by
  refine ⟨orderly.size_le, fun thread here => ?_, orderly.fifo, orderly.reads⟩
  obtain ⟨ref, element, next, cells, -, -, unlinked, -, -⟩ := orderly.unlink_eq here
  exact ⟨_, unlinked⟩

variable [DecidableEq ι]

/-- While one thread stays under the mutex, whoever is under it is this thread. -/
theorem QueueOrderly.eq_of_underMutex (orderly : QueueOrderly capacity s history) (inside : UnderMutex (s.place thread))
    {after : QueuePlace α} {u : ι} (within : UnderMutex ((s.goTo thread after).place u)) : u = thread := by
  by_contra other
  have same : (s.goTo thread after).place u = s.place u := Function.update_of_ne other ..
  rw [same] at within
  exact orderly.alone inside other within

theorem QueueOrderly.links_step (orderly : QueueOrderly capacity s history) {newNode : ℕ} {element : α}
    {queue : SimpleQueue α} (unreferenced : ¬ Referenced s newNode) (here : s.place thread = .linking element)
    (fresh : newNode ∉ s.queue.heap) (linked : s.queue.link newNode element = some queue) :
    QueueOrderly capacity { s.goTo thread .pushSignalling with queue }
      { history with pushed := history.pushed ++ [element] } := by
  obtain ⟨cells, holds, fifo⟩ := orderly.fifo
  obtain ⟨heap, linked', after⟩ := holds.link fresh element
  obtain rfl := Option.some.inj (linked.symm.trans linked')
  have inside : UnderMutex (s.place thread) := by rw [here]; trivial
  have others (u : ι) (other : u ≠ thread) : (s.goTo thread .pushSignalling).place u = s.place u :=
    Function.update_of_ne other ..
  have self : (s.goTo thread .pushSignalling).place thread = .pushSignalling := Function.update_self ..
  have room := orderly.links thread element here
  have bounded := orderly.size_le
  have capacity_eq := orderly.capacity_eq
  refine ⟨?_, capacity_eq, ?_, ⟨_, after, ?_⟩, ?_, ?_, ?_, orderly.reads⟩
  · refine orderly.guarded.passes (.inl ⟨rfl, fun _ => inside⟩) fun u other within => ?_
    rwa [← others u other]
  · change s.queue.size + 1 ≤ capacity
    omega
  · simp [fifo]
  · intro u x atLinking
    obtain rfl := orderly.eq_of_underMutex inside (by rw [atLinking]; trivial)
    exact absurd (self.symm.trans atLinking) nofun
  · intro u atUnlinking
    obtain rfl := orderly.eq_of_underMutex inside (by rw [atUnlinking]; trivial)
    exact absurd (self.symm.trans atUnlinking) nofun
  · intro u ref refers
    rcases Classical.em (u = thread) with rfl | other
    · rw [self] at refers
      contradiction
    · rw [others u other] at refers
      obtain ⟨gone, element', taken, left⟩ := orderly.references u ref refers
      have different : ref ≠ newNode := by
        rintro rfl
        exact unreferenced ⟨u, refers⟩
      refine ⟨?_, element', taken, ?_⟩
      · rw [after.allocated, List.map_append, List.mem_append, ← holds.allocated]
        simp [gone, different]
      · simpa [SimpleQueue.lengthen, different] using left

theorem QueueOrderly.unlinks_step (orderly : QueueOrderly capacity s history) {ref : ℕ} {queue : SimpleQueue α}
    (here : s.place thread = .unlinking) (unlinked : s.queue.unlink = some (ref, queue)) :
    QueueOrderly capacity { s.goTo thread (.popSignalling ref) with queue }
      { history with
        popped := history.popped ++ (frontElement s.queue).toList
        taken := Function.update history.taken thread (frontElement s.queue) } := by
  obtain ⟨ref', element, next, cells, holds, front, unlinked', after, fifo⟩ := orderly.unlink_eq here
  obtain ⟨rfl, rfl⟩ := Prod.mk.inj (Option.some.inj (unlinked.symm.trans unlinked'))
  have inside : UnderMutex (s.place thread) := by rw [here]; trivial
  have others (u : ι) (other : u ≠ thread) : (s.goTo thread (.popSignalling ref)).place u = s.place u :=
    Function.update_of_ne other ..
  have self : (s.goTo thread (.popSignalling ref)).place thread = .popSignalling ref := Function.update_self ..
  have bounded := orderly.size_le
  refine ⟨?_, orderly.capacity_eq, ?_, ⟨cells, after, ?_⟩, ?_, ?_, ?_, orderly.reads⟩
  · refine orderly.guarded.passes (.inl ⟨rfl, fun _ => inside⟩) fun u other within => ?_
    rwa [← others u other]
  · change s.queue.size - 1 ≤ capacity
    omega
  · simp [fifo, front]
  · intro u x atLinking
    obtain rfl := orderly.eq_of_underMutex inside (by rw [atLinking]; trivial)
    exact absurd (self.symm.trans atLinking) nofun
  · intro u atUnlinking
    obtain rfl := orderly.eq_of_underMutex inside (by rw [atUnlinking]; trivial)
    exact absurd (self.symm.trans atUnlinking) nofun
  · intro u ref' refers
    rcases Classical.em (u = thread) with rfl | other
    · rw [self] at refers
      obtain rfl := Option.some.inj refers
      exact ⟨by simp [SimpleQueue.shorten], element, by simp [front], by simp [SimpleQueue.shorten]⟩
    · rw [others u other] at refers
      obtain ⟨gone, element', taken, left⟩ := orderly.references u ref' refers
      have different : ref' ≠ ref := by
        rintro rfl
        exact gone ((holds.allocated ref').mpr (by simp))
      exact ⟨by simp [SimpleQueue.shorten, gone], element', by simpa [other] using taken,
        by simpa [SimpleQueue.shorten, different] using left⟩

theorem QueueOrderly.reads_step (orderly : QueueOrderly capacity s history) {ref : ℕ}
    (here : s.place thread = .popped ref) : QueueOrderly capacity (s.goTo thread .outside)
      { history with reads := history.reads ++ [(history.taken thread, s.queue.deleted ref)] } := by
  obtain ⟨-, element, taken, left⟩ := orderly.references thread ref (by rw [here]; rfl)
  have moved : Moves s (s.goTo thread .outside) (.read thread) thread :=
    .of_place here rfl rfl (.inl ⟨rfl, id⟩) (.inl rfl) nofun nofun
  have undisturbed : QueueUndisturbed s (.read thread) := trivial
  have after := orderly.moves undisturbed moved
  refine ⟨after.guarded, after.capacity_eq, after.size_le, after.fifo, after.links, after.unlinks, after.references, ?_⟩
  intro read member
  rcases List.mem_append.mp member with before | now
  · exact orderly.reads read before
  · rw [List.mem_singleton.mp now, taken, left]
    exact ⟨element, rfl⟩

/-- In an undisturbed step the queue stays orderly. -/
theorem QueueOrderly.of_steps {event : SimpleQueueEvent ι α} {history' : QueueHistory ι α}
    (orderly : QueueOrderly capacity s history) (undisturbed : QueueUndisturbed s event)
    (steps : Steps s history event t history') : QueueOrderly capacity t history' := by
  cases steps with
  | moves moves => exact orderly.moves undisturbed moves
  | links here fresh linked => exact orderly.links_step undisturbed here fresh linked
  | unlinks here unlinked => exact orderly.unlinks_step here unlinked
  | reads here => exact orderly.reads_step here
  | overwrites => exact orderly.overwrites_step _ undisturbed

end Invariant

/-- In a run in which woken threads find what they waited for and memory is not written to while there is a reference
to it, the queue is a bounded first-in first-out queue. -/
theorem boundedFifo_of_undisturbed [DecidableEq ι] {capacity mode : ℤ} {events : List (SimpleQueueEvent ι α)}
    {s : SimpleQueueThreads ι α} {history : QueueHistory ι α}
    (run : Run (recorded SimpleQueueThreads.step rememberQueue) (fun state => QueueUndisturbed state.1)
      (.started capacity mode, {}) events (s, history)) :
    BoundedFifo (if 0 < capacity then capacity else simpleQueueDefaultCapacity) s history := by
  have start : QueueOrderly (if 0 < capacity then capacity else simpleQueueDefaultCapacity)
      (SimpleQueueThreads.started capacity mode : SimpleQueueThreads ι α) {} := orderly_started capacity mode
  have orderly : QueueOrderly (if 0 < capacity then capacity else simpleQueueDefaultCapacity) s history := by
    refine run.invariant (P := fun state => QueueOrderly _ state.1 state.2) ?_ start
    rintro ⟨s, history⟩ event ⟨t, history'⟩ orderly undisturbed stepped
    obtain ⟨stepped, rfl⟩ := recorded_eq_some_iff.mp stepped
    exact orderly.of_steps undisturbed (of_queueStep stepped)
  exact orderly.boundedFifo

/-- Two threads: the first waits for an element, and the second pushes one and wakes it. -/
def handedOver : List (SimpleQueueEvent Bool ℕ) :=
  [.pop false, .turn false, .turn false, .push true 7, .turn true, .turn true, .link true 1, .signal true (some false),
    .turn true, .turn false, .turn false, .signal false none, .turn false, .read false]

instance (q : SimpleQueue α) (place : QueuePlace α) : Decidable (Finds q place) :=
  match place with
  | .pushWoken _ => inferInstanceAs (Decidable (q.size ≠ q.capacity))
  | .popWoken => inferInstanceAs (Decidable (q.size ≠ 0))
  | .outside | .pushLocking _ | .pushTesting _ | .pushWaiting _ | .linking _ | .pushSignalling | .pushUnlocking _
  | .popLocking | .popTesting | .popWaiting | .unlinking | .popSignalling _ | .popUnlocking _ | .popped _
  | .emptiness _ => isTrue trivial

instance [Fintype ι] (s : SimpleQueueThreads ι α) (address : ℕ) : Decidable (Referenced s address) :=
  inferInstanceAs (Decidable (∃ thread, reference (s.place thread) = some address))

instance [Fintype ι] (s : SimpleQueueThreads ι α) (event : SimpleQueueEvent ι α) :
    Decidable (QueueUndisturbed s event) :=
  match event with
  | .turn thread => inferInstanceAs (Decidable (Finds s.queue (s.place thread)))
  | .link _ newNode => inferInstanceAs (Decidable (¬ Referenced s newNode))
  | .overwrite address _ => inferInstanceAs (Decidable (¬ Referenced s address))
  | .push _ _ | .pop _ | .isEmpty _ | .signal _ _ | .wake _ | .read _ => isTrue trivial

theorem boundedFifo_of_undisturbed_handedOver : ∃ (s : SimpleQueueThreads Bool ℕ) (history : QueueHistory Bool ℕ),
    BoundedFifo 1 s history ∧ history.reads = [(some 7, some 7)] := by
  have computed : ((handedOver.foldlM (fun (state : SimpleQueueThreads Bool ℕ × QueueHistory Bool ℕ) event =>
      if QueueUndisturbed state.1 event then recorded SimpleQueueThreads.step rememberQueue state event else none)
      (.started 1 simpleQueueBlocking, {})).map fun state => state.2.reads) = some [(some 7, some 7)] := by
    decide +kernel
  obtain ⟨⟨s, history⟩, reached, reads⟩ := Option.map_eq_some_iff.mp computed
  have run : Run (recorded SimpleQueueThreads.step rememberQueue) (fun state => QueueUndisturbed state.1)
      (.started 1 simpleQueueBlocking, {}) handedOver (s, history) := Run.iff_foldlM.mpr reached
  have fifo := boundedFifo_of_undisturbed run
  rw [if_pos (by decide)] at fifo
  exact ⟨s, history, fifo, reads⟩

/-! ## Runs that are disturbed -/

section Disturbed

variable [DecidableEq ι] {capacity : ℤ} {s t u : SimpleQueueThreads ι α} {history history' : QueueHistory ι α}
  {thread : ι}

/-- A woken thread that finds the queue empty follows a null pointer. -/
theorem not_boundedFifo_of_popWoken (orderly : QueueOrderly capacity s history) (woken : s.place thread = .popWoken)
    (empty : s.queue.size = 0) (stepped : s.step (.turn thread) = some t) : ¬ BoundedFifo capacity t history' := by
  intro fifo
  obtain ⟨cells, holds, -⟩ := orderly.fifo
  have none : cells = [] := List.eq_nil_of_length_eq_zero (by have := holds.size; omega)
  rw [SimpleQueueThreads.step, SimpleQueueThreads.turn, woken] at stepped
  obtain ⟨locked, took, rfl⟩ := Option.map_eq_some_iff.mp stepped
  obtain ⟨-, rfl⟩ := lock_eq_some took
  obtain ⟨result, unlinked⟩ := fifo.unlinks thread (Function.update_self ..)
  have head : s.queue.head = .none := by rw [holds.head_eq, none, firstOf_nil]
  simp [SimpleQueueThreads.goTo, SimpleQueue.unlink, head] at unlinked

/-- A woken thread that finds the queue full makes it outgrow its capacity. -/
theorem not_boundedFifo_of_pushWoken (orderly : QueueOrderly capacity s history) {element : α} {newNode : ℕ}
    (woken : s.place thread = .pushWoken element) (full : s.queue.size = s.queue.capacity)
    (stepped : s.step (.turn thread) = some t) (linked : t.step (.link thread newNode) = some u) :
    ¬ BoundedFifo capacity u history' := by
  intro fifo
  rw [SimpleQueueThreads.step, SimpleQueueThreads.turn, woken] at stepped
  obtain ⟨locked, took, rfl⟩ := Option.map_eq_some_iff.mp stepped
  obtain ⟨-, rfl⟩ := lock_eq_some took
  obtain ⟨_, queue, -, -, done, rfl⟩ := link_eq_some linked
  obtain ⟨heap, -, rfl⟩ := Option.map_eq_some_iff.mp done
  have bounded : s.queue.size + 1 ≤ capacity := fifo.size_le
  have capacity_eq := orderly.capacity_eq
  omega

end Disturbed

/-- The first thread waits for an element; the second pushes one and wakes it, but the third gets the mutex first. -/
def stolen : List (SimpleQueueEvent ℕ ℕ) :=
  [.pop 0, .turn 0, .turn 0, .push 1 7, .turn 1, .turn 1, .link 1 1, .signal 1 (some 0), .turn 1,
    .pop 2, .turn 2, .turn 2, .turn 2, .signal 2 none, .turn 2, .read 2, .turn 0]

/-- A thread pops an element, and a push takes over the memory of its node before it is read. -/
def reused : List (SimpleQueueEvent ℕ ℕ) :=
  [.push 0 7, .turn 0, .turn 0, .link 0 1, .signal 0 none, .turn 0, .pop 0, .turn 0, .turn 0, .turn 0, .signal 0 none,
    .turn 0, .push 1 8, .turn 1, .turn 1, .link 1 1, .read 0]

theorem not_boundedFifo_reused : ∃ (s : SimpleQueueThreads ℕ ℕ) (history : QueueHistory ℕ ℕ),
    Run (recorded SimpleQueueThreads.step rememberQueue) Always (.started 2 simpleQueueBlocking, {}) reused
      (s, history) ∧ ¬ BoundedFifo 2 s history := by
  have computed : ((reused.foldlM (recorded SimpleQueueThreads.step rememberQueue)
      (.started 2 simpleQueueBlocking, {})).map fun state => state.2.reads) = some [(some 7, none)] := by
    decide +kernel
  obtain ⟨⟨s, history⟩, reached, reads⟩ := Option.map_eq_some_iff.mp computed
  refine ⟨s, history, Run.always_iff.mpr reached, fun fifo => ?_⟩
  obtain ⟨element, same⟩ := fifo.reads (some 7, none) (by simp [show history.reads = _ from reads])
  simp at same

/-- A wake-up that is stolen lets a thread follow a null pointer. -/
theorem not_boundedFifo : ¬ ∀ (capacity : ℤ) (events : List (SimpleQueueEvent ℕ ℕ)) (s : SimpleQueueThreads ℕ ℕ)
    (history : QueueHistory ℕ ℕ), Run (recorded SimpleQueueThreads.step rememberQueue) Always
      (.started capacity simpleQueueBlocking, {}) events (s, history) →
      BoundedFifo (if 0 < capacity then capacity else simpleQueueDefaultCapacity) s history := by
  intro always
  have computed : ((stolen.foldlM (recorded SimpleQueueThreads.step rememberQueue)
      (.started 1 simpleQueueBlocking, {})).map fun state => (state.1.place 0, state.1.queue.unlink.isSome)) =
      some (.unlinking, false) := by
    decide +kernel
  obtain ⟨⟨s, history⟩, reached, atNode⟩ := Option.map_eq_some_iff.mp computed
  obtain ⟨here, nothing⟩ := Prod.mk.inj atNode
  obtain ⟨result, unlinked⟩ := (always 1 stolen s history (Run.always_iff.mpr reached)).unlinks 0 here
  simp [unlinked] at nothing

end S3tp.Soundness
