import S3tp.Machine.WakeUp
import S3tp.Model.Core.SimpleQueue

/-! # The threads at a simple queue

Any number of threads push to a simple queue, pop from it and ask whether it is empty. Each taking or releasing of
`q_mutex`, test, wait and signal is a step of its own, and so is what a thread does to the nodes between them. Waiting
releases the mutex. A thread that has been woken takes it again, in competition with the others, and goes on from where
it waited: what it had tested is not tested again.

A signal wakes one of the threads that wait, whichever it may be, and a wake-up may also come without a signal. The
caller of `pop` gets a reference and reads the element through it once the call has returned, while memory without a
node may be overwritten at any time.
-/

namespace S3tp.Model.Concurrent

open Core Machine

inductive QueuePlace (α : Type) where
  | outside
  | pushLocking (element : α)
  | pushTesting (element : α)
  | pushWaiting (element : α)
  | pushWoken (element : α)
  | linking (element : α)
  | pushSignalling
  | pushUnlocking (result : ℤ)
  | popLocking
  | popTesting
  | popWaiting
  | popWoken
  | unlinking
  | popSignalling (ref : ℕ)
  | popUnlocking (ref : ℕ)
  | popped (ref : ℕ)
  | emptiness (reading : Reading Bool)
deriving DecidableEq

inductive SimpleQueueEvent (ι α : Type) where
  | push (thread : ι) (element : α)
  | pop (thread : ι)
  | isEmpty (thread : ι)
  | turn (thread : ι)
  | link (thread : ι) (newNode : ℕ)
  | signal (thread : ι) (woken : Option ι)
  | wake (thread : ι)
  | read (thread : ι)
  | overwrite (address : ℕ) (content : α)

/-- `contentAdd` and `contentRmv` are the threads that wait for the two conditions. -/
structure SimpleQueueThreads (ι α : Type) where
  queue : SimpleQueue α
  mutex : Option ι := none
  contentAdd : List ι := []
  contentRmv : List ι := []
  place : ι → QueuePlace α := fun _ => .outside

namespace SimpleQueueThreads

variable {ι α : Type}

/-- A new queue that no thread uses yet. -/
def started (capacity mode : ℤ) : SimpleQueueThreads ι α := { queue := .create capacity mode }

/-- `pthread_mutex_lock(&q_mutex)`. -/
def lock (s : SimpleQueueThreads ι α) (thread : ι) : Option (SimpleQueueThreads ι α) :=
  match s.mutex with
  | none => some { s with mutex := some thread }
  | some _ => none

/-- `pthread_mutex_unlock(&q_mutex)`. -/
def unlock (s : SimpleQueueThreads ι α) : SimpleQueueThreads ι α := { s with mutex := none }

variable [DecidableEq ι]

def goTo (s : SimpleQueueThreads ι α) (thread : ι) (place : QueuePlace α) : SimpleQueueThreads ι α :=
  { s with place := Function.update s.place thread place }

/-- A thread that waits stops waiting. -/
def wake (s : SimpleQueueThreads ι α) (thread : ι) : Option (SimpleQueueThreads ι α) :=
  match s.place thread with
  | .pushWaiting element => some { s.goTo thread (.pushWoken element) with contentRmv := s.contentRmv.erase thread }
  | .popWaiting => some { s.goTo thread .popWoken with contentAdd := s.contentAdd.erase thread }
  | _ => none

/-- `pthread_cond_signal`, where `waiting` are the threads that wait for the condition. -/
def signal (s : SimpleQueueThreads ι α) (waiting : List ι) (woken : Option ι) : Option (SimpleQueueThreads ι α) :=
  match woken with
  | none => if waiting.isEmpty then some s else none
  | some thread => if thread ∈ waiting then s.wake thread else none

/-- The thread's next step, where there is no choice. -/
def turn (s : SimpleQueueThreads ι α) (thread : ι) : Option (SimpleQueueThreads ι α) :=
  match s.place thread with
  | .pushLocking element => (s.lock thread).map fun s => s.goTo thread (.pushTesting element)
  | .pushTesting element =>
    if s.queue.size = s.queue.capacity then
      if s.queue.mode = simpleQueueBlocking then
        some { s.unlock.goTo thread (.pushWaiting element) with contentRmv := s.contentRmv ++ [thread] }
      else some (s.goTo thread (.pushUnlocking simpleQueueFull))
    else some (s.goTo thread (.linking element))
  | .pushWoken element => (s.lock thread).map fun s => s.goTo thread (.linking element)
  | .pushUnlocking _ => some (s.unlock.goTo thread .outside)
  | .popLocking => (s.lock thread).map fun s => s.goTo thread .popTesting
  | .popTesting =>
    if s.queue.size = 0 then
      if s.queue.mode = simpleQueueBlocking then
        some { s.unlock.goTo thread .popWaiting with contentAdd := s.contentAdd ++ [thread] }
      -- `assert(head != NULL)`
      else if s.queue.head.isSome then some (s.goTo thread .unlinking)
      else none
    else some (s.goTo thread .unlinking)
  | .popWoken => (s.lock thread).map fun s => s.goTo thread .unlinking
  | .unlinking => s.queue.unlink.map fun (ref, queue) => { s.goTo thread (.popSignalling ref) with queue }
  | .popUnlocking ref => some (s.unlock.goTo thread (.popped ref))
  | .emptiness .lock => (s.lock thread).map fun s => s.goTo thread (.emptiness .read)
  | .emptiness .read => some (s.goTo thread (.emptiness (.unlock s.queue.isEmpty)))
  | .emptiness (.unlock _) => some (s.unlock.goTo thread .outside)
  | _ => none

def step (s : SimpleQueueThreads ι α) : SimpleQueueEvent ι α → Option (SimpleQueueThreads ι α)
  | .push thread element =>
    match s.place thread with
    | .outside => some (s.goTo thread (.pushLocking element))
    | _ => none
  | .pop thread =>
    match s.place thread with
    | .outside => some (s.goTo thread .popLocking)
    | _ => none
  | .isEmpty thread =>
    match s.place thread with
    | .outside => some (s.goTo thread (.emptiness .lock))
    | _ => none
  | .turn thread => s.turn thread
  | .link thread newNode =>
    match s.place thread with
    | .linking element =>
      if newNode ∈ s.queue.heap then none
      else (s.queue.link newNode element).map fun queue => { s.goTo thread .pushSignalling with queue }
    | _ => none
  | .signal thread woken =>
    match s.place thread with
    | .pushSignalling =>
      (s.signal s.contentAdd woken).map fun s => s.goTo thread (.pushUnlocking simpleQueuePushSuccess)
    | .popSignalling ref => (s.signal s.contentRmv woken).map fun s => s.goTo thread (.popUnlocking ref)
    | _ => none
  | .wake thread => s.wake thread
  | .read thread =>
    match s.place thread with
    | .popped _ => some (s.goTo thread .outside)
    | _ => none
  | .overwrite address content =>
    if address ∈ s.queue.heap then none else some { s with queue := s.queue.overwrite address content }

end SimpleQueueThreads

end S3tp.Model.Concurrent
