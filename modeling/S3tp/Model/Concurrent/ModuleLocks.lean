import S3tp.Machine.Locks

/-! # The mutexes of the modules and their buffers

The lock and unlock steps of the functions of `PriorityQueue`, `Buffer`, `TxModule` and `RxModule`,
one script for each path through a function. What a path meets in the queues is its parameter:
whether a queue is empty, how many elements a push compares, what a consumer takes. Assertions are
evaluated. Waiting on a condition variable releases the mutex and takes it again.

The policy actor's callbacks take the mutex of the module that owns the buffer. A queue is never
full, and following a null packet pointer ends a thread.
-/

namespace S3tp.Model.Concurrent

open Machine

inductive Side where
  | tx
  | rx
deriving DecidableEq, Repr

/-- `tx_mutex` and `rx_mutex`, and for either module the `buffer_mutex` of its buffer and the `q_mutex`
of the buffer's queues. -/
inductive Mutex where
  | module (side : Side)
  | buffer (side : Side)
  | queue (side : Side) (port : UInt8)
deriving DecidableEq, Repr

abbrev Script := List (LockAction Mutex)

/-- A critical section. -/
def locked (mutex : Mutex) (body : Script) : Script := .acquire mutex :: body ++ [.release mutex]

/-! ## PriorityQueue -/

namespace PriorityQueueLocks

variable (side : Side) (port : UInt8)

def isEmpty : Script := locked (.queue side port) []

def peek : Script := isEmpty side port ++ locked (.queue side port) []

def pop : Script := isEmpty side port ++ locked (.queue side port) []

def getSize : Script := locked (.queue side port) []

def clear : Script := locked (.queue side port) []

/-- The callback a push makes for each element it compares. -/
def comparePriority : Script := locked (.module side) []

def push (comparisons : ℕ) : Script :=
  locked (.queue side port) ((List.range comparisons).flatMap fun _ => comparePriority side)

end PriorityQueueLocks

/-! ## Buffer -/

namespace BufferLocks

open PriorityQueueLocks

variable (side : Side) (port : UInt8)

/-- The callback of the window test. The transmitting module answers without looking. -/
def maximumWindowExceeded : Side → Script
  | .tx => []
  | .rx => locked (.module .rx) []

/-- What `write` finds: an empty queue; one it clears; one whose elements the push compares. -/
inductive Found where
  | empty
  | exceeded
  | elements (furtherComparisons : ℕ)

def Found.comparisons : Found → ℕ
  | .empty | .exceeded => 0
  | .elements furtherComparisons => furtherComparisons + 1

/-- The part of `write` that deals with the elements already there. -/
def windowTest : Found → Script
  | .empty => []
  | .exceeded => peek side port ++ maximumWindowExceeded side ++ clear side port
  | .elements _ => peek side port ++ maximumWindowExceeded side

def write (found : Found) : Script :=
  locked (.buffer side) (isEmpty side port ++ windowTest side port found ++
    push side port found.comparisons ++ getSize side port)

/-- Paths through `popPacketInternal`: there is no queue yet, it is empty, its head may not leave, or
its head is taken. -/
inductive Popping where
  | absent
  | empty
  | invalid
  | taken (wasLast : Bool)

def popPacketInternal : Popping → Script
  | .absent => []
  | .empty => isEmpty side port
  | .invalid => isEmpty side port ++ peek side port
  | .taken wasLast => isEmpty side port ++ peek side port ++ pop side port ++ isEmpty side port ++
      (if wasLast then [] else getSize side port)

def getNextPacket (popping : Popping) : Script := locked (.buffer side) (popPacketInternal side port popping)

/-- The ports are tried one after the other. -/
def getNextAvailablePacket (tried : List (UInt8 × Popping)) : Script :=
  locked (.buffer side) (tried.flatMap fun (port, popping) => popPacketInternal side port popping)

def packetsAvailable : Script := locked (.buffer side) []

def getActiveQueues : Script := locked (.buffer side) []

def getQueue : Script := locked (.buffer side) []

def getSizeOfQueue : Script := locked (.buffer side) (getSize side port)

def clearQueueForPort : Script := locked (.buffer side) (clear side port)

end BufferLocks

/-! ## TxModule -/

namespace TxModuleLocks

open BufferLocks

/-- Paths through `enqueuePacket`: the module is inactive, or the packet is written to a queue, where
the push makes a number of comparisons. -/
inductive Enqueuing where
  | inactive
  | written (port : UInt8) (comparisons : ℕ)

def found : ℕ → Found
  | 0 => .empty
  | furtherComparisons + 1 => .elements furtherComparisons

def enqueuePacket : Enqueuing → Script
  | .inactive => locked (.module .tx) []
  | .written port comparisons => locked (.module .tx) [] ++ write .tx port (found comparisons)

/-- How a turn of `txRoutine` looks for a packet. -/
inductive Fetching where
  | fragment (port : UInt8) (popping : Popping)
  | any (tried : List (UInt8 × Popping))

def fetch : Fetching → Script
  | .fragment port popping => getNextPacket .tx port popping
  | .any tried => getNextAvailablePacket .tx tried

/-- `pthread_cond_wait(&tx_cond, &tx_mutex)`. -/
def condWait : Script := [.release (.module .tx), .acquire (.module .tx)]

/-- Paths through a turn: the link or all channels are down, the buffer is empty, no packet may leave,
or a packet is sent. -/
inductive Turn where
  | blocked
  | waiting
  | refused (fetching : Fetching)
  | sent (fetching : Fetching) (port : UInt8)

/-- A turn starts and ends with the mutex held, and releases it around `sendFrame`. -/
def turn : Turn → Script
  | .blocked => condWait
  | .waiting => packetsAvailable .tx ++ condWait
  | .refused fetching => packetsAvailable .tx ++ fetch fetching ++ condWait
  | .sent fetching port => packetsAvailable .tx ++ fetch fetching ++
      (.release (.module .tx) :: getSizeOfQueue .tx port ++ [.acquire (.module .tx)])

def txRoutine (turns : List Turn) : Script := locked (.module .tx) (turns.flatMap turn)

end TxModuleLocks

/-! ## RxModule -/

namespace RxModuleLocks

open PriorityQueueLocks BufferLocks

def isActive : Script := locked (.module .rx) []

def isPortOpen : Script := locked (.module .rx) []

def isNewMessageAvailable : Script := locked (.module .rx) []

/-- The scan of a queue, which also locks the queue itself. -/
def isCompleteMessageForPortAvailable (port : UInt8) : Script := getQueue .rx ++ locked (.queue .rx port) []

/-- What `flushQueues` finds at a port: an empty queue, a head that is new enough, a head that is not. -/
inductive Flushing where
  | empty
  | fresh
  | tooOld

def flushQueue (port : UInt8) : Flushing → Script
  | .empty => getQueue .rx ++ isEmpty .rx port
  | .fresh => getQueue .rx ++ isEmpty .rx port ++ peek .rx port
  | .tooOld => getQueue .rx ++ isEmpty .rx port ++ peek .rx port ++ clearQueueForPort .rx port

def flushQueues (ports : List (UInt8 × Flushing)) : Script :=
  getActiveQueues .rx ++ ports.flatMap fun (port, flushing) => flushQueue port flushing

/-- The callback `onSynchronization`, which may answer by scheduling a sync frame. -/
def onSynchronization (answers : Bool) : Script := if answers then locked (.module .tx) [] else []

/-- Paths through `handleReceivedPacket`: the module is inactive or the frame is refused, it is a sync
frame, its port is closed, or it is written, after which the window may be full. -/
inductive Receiving where
  | refused
  | sync (answers : Bool)
  | closed
  | written (port : UInt8) (found : Found) (flush : Option (List (UInt8 × Flushing)))

def handleReceivedPacket : Receiving → Script
  | .refused => isActive
  | .sync answers => isActive ++ locked (.module .rx) (onSynchronization answers)
  | .closed => isActive ++ isPortOpen
  | .written port found flush => isActive ++ isPortOpen ++ write .rx port found ++
      locked (.module .rx) (isCompleteMessageForPortAvailable port) ++ (flush.elim [] flushQueues)

/-- Paths through `getNextCompleteMessage`: the module is inactive, no message is available, a message
is taken packet by packet, or a packet is not the expected one and the mutex is not released. -/
inductive Consuming where
  | inactive
  | nothing
  | message (port : UInt8) (wasLast : List Bool)
  | inconsistent (port : UInt8) (wasLast : List Bool)

def takePackets (port : UInt8) (wasLast : List Bool) : Script :=
  wasLast.flatMap fun wasLast => getNextPacket .rx port (.taken wasLast)

def getNextCompleteMessage : Consuming → Script
  | .inactive => isActive
  | .nothing => isActive ++ isNewMessageAvailable
  | .message port wasLast => isActive ++ isNewMessageAvailable ++
      locked (.module .rx) (takePackets port wasLast ++ isCompleteMessageForPortAvailable port)
  | .inconsistent port wasLast => isActive ++ isNewMessageAvailable ++
      (.acquire (.module .rx) :: takePackets port wasLast)

end RxModuleLocks

/-! ## The threads -/

/-- Clients enqueue packets, one thread transmits, the link's callbacks run in one thread, and one
thread assembles messages. -/
inductive Thread (ι : Type*) where
  | client (i : ι)
  | tx
  | link
  | assembly
deriving DecidableEq

/-- What the threads do: the paths of their calls, one after the other. -/
structure Workload (ι : Type*) where
  enqueued : ι → List TxModuleLocks.Enqueuing
  turns : List TxModuleLocks.Turn
  received : List RxModuleLocks.Receiving
  consumed : List RxModuleLocks.Consuming

namespace Workload

variable {ι : Type*}

def script (w : Workload ι) : Thread ι → Script
  | .client i => (w.enqueued i).flatMap TxModuleLocks.enqueuePacket
  | .tx => TxModuleLocks.txRoutine w.turns
  | .link => w.received.flatMap RxModuleLocks.handleReceivedPacket
  | .assembly => w.consumed.flatMap RxModuleLocks.getNextCompleteMessage

/-- No thread has started. -/
def started (w : Workload ι) : LockState (Thread ι) Mutex := { script := w.script }

/-- The assembly thread does not call again after a call that has kept the mutex. -/
def StopsWhenInconsistent (w : Workload ι) : Prop :=
  ∀ call ∈ w.consumed.dropLast, ∀ port wasLast, call ≠ .inconsistent port wasLast

end Workload

end S3tp.Model.Concurrent
