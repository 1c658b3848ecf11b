import S3tp.Machine.WakeUp
import S3tp.Model.Core.TxModule

/-! # The threads at the transmitting module

The transmit thread runs `txRoutine`: it holds `tx_mutex` through a turn of its loop, tests for packets and takes
one under the buffer's mutex, and waits on `tx_cond` when it cannot go on. Any number of callers run
`enqueuePacket`: they stamp a packet under `tx_mutex`, write it under the buffer's mutex and signal with neither.
Each taking or releasing of one of these mutexes, test, signal and wait is a step of its own, and so is what a
thread does to the module between them. Waiting releases `tx_mutex` and takes it again.

Channels come and go, sync frames are scheduled, the link announces itself and the routine is stopped. A wake-up
may also come without a signal. `Buffer::write` asks the module, under `tx_mutex`, as soon as the queue is not
empty. `link` is a history: the frames in the order they were handed to `sendFrame`.
-/

namespace S3tp.Model.Core.TxModule

/-- The packet the loop takes next. -/
def nextPacket (tx : TxModule) : Option (S3tpPacket × Buffer) :=
  if tx.sendingFragments then tx.outBuffer.getNextPacket tx.policy tx.currentPort
  else tx.outBuffer.getNextAvailablePacket tx.policy

theorem dataTurn_eq (tx : TxModule) : tx.dataTurn =
    if !tx.outBuffer.packetsAvailable then ({ tx with state := .waiting }, [])
    else match tx.nextPacket with
      | none => ({ tx with state := .blocked }, [])
      | some (packet, buffer) => (tx.afterTaking packet buffer, [packet.setGlobalSequence tx.globalSeqNum]) := rfl

theorem nextPacket_eq_some {tx : TxModule} {packet : S3tpPacket} {buffer : Buffer}
    (taken : tx.nextPacket = some (packet, buffer)) :
    ∃ port, tx.outBuffer.popPacketInternal tx.policy port = some (packet, buffer) := by
  rw [nextPacket] at taken
  split at taken
  · exact ⟨_, taken⟩
  · exact Buffer.getNextAvailablePacket_eq_some taken

end S3tp.Model.Core.TxModule

namespace S3tp.Model.Concurrent

open Core Machine

/-- Who holds one of the mutexes. -/
inductive TxThread (ι : Type*) where
  | tx
  | caller (caller : ι)
deriving DecidableEq

inductive TxPlace where
  | locking
  | turning
  | testing (reading : Reading Bool)
  | waiting
  | blocked
  | woken
  | fetchLocking
  | fetching
  | fetchUnlocking (next : Option S3tpPacket)
  | releasing (packet : S3tpPacket)
  | sending (packet : S3tpPacket)
  | finished

inductive CallerPlace where
  | outside
  | locking (packet : S3tpPacket) (fragNo : UInt8) (moreFragments : Bool)
  | stamping (packet : S3tpPacket) (fragNo : UInt8) (moreFragments : Bool)
  | refusing
  | unlocking (packet : S3tpPacket)
  | bufferLocking (packet : S3tpPacket)
  | writing (packet : S3tpPacket)
  | bufferUnlocking
  | signalling

inductive TxThreadsEvent (ι : Type*) where
  | tx (link : LinkStatus)
  | enqueuePacket (caller : ι) (packet : S3tpPacket) (fragNo : UInt8) (moreFragments : Bool)
  | caller (caller : ι)
  | wake
  | setChannelAvailable (channel : UInt8) (available : Bool)
  | scheduleSync (syncId : UInt8)
  | notifyLinkAvailability
  | stopRoutine

structure TxThreads (ι : Type*) where
  tx : TxModule
  txMutex : Option (TxThread ι) := none
  bufferMutex : Option (TxThread ι) := none
  place : TxPlace := .locking
  caller : ι → CallerPlace := fun _ => .outside
  link : List S3tpPacket := []

namespace TxThreads

variable {ι : Type*}

/-- A module freshly reset whose routine has been started, with no call under way. -/
def started (fresh : S3tpHeader) : TxThreads ι := { tx := (TxModule.create fresh).reset.startRoutine }

/-- `pthread_mutex_lock(&tx_mutex)`. -/
def lockTx (s : TxThreads ι) (thread : TxThread ι) : Option (TxThreads ι) :=
  match s.txMutex with
  | none => some { s with txMutex := some thread }
  | some _ => none

/-- `pthread_mutex_lock(&buffer_mutex)`. -/
def lockBuffer (s : TxThreads ι) (thread : TxThread ι) : Option (TxThreads ι) :=
  match s.bufferMutex with
  | none => some { s with bufferMutex := some thread }
  | some _ => none

/-- `pthread_mutex_unlock(&tx_mutex)`. -/
def unlockTx (s : TxThreads ι) : TxThreads ι := { s with txMutex := none }

/-- `pthread_mutex_unlock(&buffer_mutex)`. -/
def unlockBuffer (s : TxThreads ι) : TxThreads ι := { s with bufferMutex := none }

/-- `pthread_cond_signal(&tx_cond)`. -/
def signal (s : TxThreads ι) : TxThreads ι :=
  { s with place := match s.place with
      | .blocked => .woken
      | place => place }

/-- The transmit thread's next step. -/
def txStep (s : TxThreads ι) (link : LinkStatus) : Option (TxThreads ι) :=
  match s.place with
  | .locking | .woken => (s.lockTx .tx).map fun s => { s with place := .turning }
  | .turning =>
    if !s.tx.active then some { s.unlockTx with place := .finished }
    else if !link.up || !s.tx.channelsAvailable then
      some { s with tx := { s.tx with state := .blocked }, place := .waiting }
    else some { s with tx := (s.tx.syncTurn link).1, link := s.link ++ (s.tx.syncTurn link).2, place := .testing .lock }
  | .testing .lock => (s.lockBuffer .tx).map fun s => { s with place := .testing .read }
  | .testing .read => some { s with place := .testing (.unlock s.tx.outBuffer.packetsAvailable) }
  | .testing (.unlock true) =>
    some { s.unlockBuffer with tx := { s.tx with state := .running }, place := .fetchLocking }
  | .testing (.unlock false) =>
    some { s.unlockBuffer with tx := { s.tx with state := .waiting }, place := .waiting }
  | .waiting => some { s.unlockTx with place := .blocked }
  | .fetchLocking => (s.lockBuffer .tx).map fun s => { s with place := .fetching }
  | .fetching =>
    match s.tx.nextPacket with
    | none => some { s with place := .fetchUnlocking none }
    | some (packet, outBuffer) =>
      some { s with tx := { s.tx with outBuffer }, place := .fetchUnlocking (some packet) }
  | .fetchUnlocking none => some { s.unlockBuffer with tx := { s.tx with state := .blocked }, place := .waiting }
  | .fetchUnlocking (some packet) =>
    some { s.unlockBuffer with
      tx := s.tx.afterTaking packet s.tx.outBuffer
      place := .releasing (packet.setGlobalSequence s.tx.globalSeqNum) }
  | .releasing packet => some { s.unlockTx with place := .sending packet }
  | .sending packet => some { s with link := s.link ++ [packet], place := .locking }
  | .blocked | .finished => none

variable [DecidableEq ι]

/-- The caller goes on to the place. -/
def callerAt (s : TxThreads ι) (caller : ι) (place : CallerPlace) : TxThreads ι :=
  { s with caller := Function.update s.caller caller place }

/-- The caller's next step in `enqueuePacket`. -/
def callerStep (s : TxThreads ι) (caller : ι) : Option (TxThreads ι) :=
  match s.caller caller with
  | .outside => none
  | .locking packet fragNo moreFragments =>
    (s.lockTx (.caller caller)).map fun s => s.callerAt caller (.stamping packet fragNo moreFragments)
  | .stamping packet fragNo moreFragments =>
    match s.tx.stampPacket packet fragNo moreFragments with
    | none => some (s.callerAt caller .refusing)
    | some (packet, tx) => some ({ s with tx }.callerAt caller (.unlocking packet))
  | .refusing => some (s.unlockTx.callerAt caller .outside)
  | .unlocking packet => some (s.unlockTx.callerAt caller (.bufferLocking packet))
  | .bufferLocking packet => (s.lockBuffer (.caller caller)).map fun s => s.callerAt caller (.writing packet)
  | .writing packet =>
    if (s.tx.outBuffer.queues packet.getPort).isEmpty = true ∨ s.txMutex.isNone = true then
      some ({ s with tx := s.tx.writePacket packet }.callerAt caller .bufferUnlocking)
    else none
  | .bufferUnlocking => some (s.unlockBuffer.callerAt caller .signalling)
  | .signalling => some (s.signal.callerAt caller .outside)

def step (s : TxThreads ι) : TxThreadsEvent ι → Option (TxThreads ι)
  | .tx link => s.txStep link
  | .enqueuePacket caller packet fragNo moreFragments =>
    match s.caller caller with
    | .outside => some (s.callerAt caller (.locking packet fragNo moreFragments))
    | _ => none
  | .caller caller => s.callerStep caller
  | .wake =>
    match s.place with
    | .blocked => some { s with place := .woken }
    | _ => none
  | .setChannelAvailable channel available =>
    if s.txMutex.isNone then
      some { (if available then s.signal else s) with tx := s.tx.setChannelAvailable channel available }
    else none
  | .scheduleSync syncId =>
    if s.txMutex.isNone then some { s.signal with tx := s.tx.scheduleSync syncId } else none
  | .notifyLinkAvailability => some s.signal
  | .stopRoutine => if s.txMutex.isNone then some { s.signal with tx := s.tx.stopRoutine } else none

omit [DecidableEq ι]

variable {s t : TxThreads ι}

theorem of_lockTx {thread : TxThread ι} (locks : s.lockTx thread = some t) :
    s.txMutex = none ∧ t = { s with txMutex := some thread } := by
  simp only [lockTx] at locks
  split at locks
  · next free => exact ⟨free, (Option.some.inj locks).symm⟩
  · contradiction

theorem of_lockBuffer {thread : TxThread ι} (locks : s.lockBuffer thread = some t) :
    s.bufferMutex = none ∧ t = { s with bufferMutex := some thread } := by
  simp only [lockBuffer] at locks
  split at locks
  · next free => exact ⟨free, (Option.some.inj locks).symm⟩
  · contradiction

/-- What the transmit thread can do, from where it is. -/
inductive TxSteps (s : TxThreads ι) (link : LinkStatus) : TxThreads ι → Prop where
  | locks (here : s.place = .locking ∨ s.place = .woken) (free : s.txMutex = none) :
      TxSteps s link { s with txMutex := some .tx, place := .turning }
  | ends (here : s.place = .turning) (stopped : s.tx.active = false) :
      TxSteps s link { s.unlockTx with place := .finished }
  | givesUp (here : s.place = .turning) (down : link.up = false ∨ s.tx.channelsAvailable = false) :
      TxSteps s link { s with tx := { s.tx with state := .blocked }, place := .waiting }
  | turns (here : s.place = .turning) :
      TxSteps s link
        { s with tx := (s.tx.syncTurn link).1, link := s.link ++ (s.tx.syncTurn link).2, place := .testing .lock }
  | locksToTest (here : s.place = .testing .lock) (free : s.bufferMutex = none) :
      TxSteps s link { s with bufferMutex := some .tx, place := .testing .read }
  | reads (here : s.place = .testing .read) :
      TxSteps s link { s with place := .testing (.unlock s.tx.outBuffer.packetsAvailable) }
  | runs (here : s.place = .testing (.unlock true)) :
      TxSteps s link { s.unlockBuffer with tx := { s.tx with state := .running }, place := .fetchLocking }
  | waits (here : s.place = .testing (.unlock false)) :
      TxSteps s link { s.unlockBuffer with tx := { s.tx with state := .waiting }, place := .waiting }
  | sleeps (here : s.place = .waiting) : TxSteps s link { s.unlockTx with place := .blocked }
  | locksToFetch (here : s.place = .fetchLocking) (free : s.bufferMutex = none) :
      TxSteps s link { s with bufferMutex := some .tx, place := .fetching }
  | fetchesNothing (here : s.place = .fetching) (nothing : s.tx.nextPacket = none) :
      TxSteps s link { s with place := .fetchUnlocking none }
  | fetches {packet : S3tpPacket} {outBuffer : Buffer} (here : s.place = .fetching)
      (taken : s.tx.nextPacket = some (packet, outBuffer)) :
      TxSteps s link { s with tx := { s.tx with outBuffer }, place := .fetchUnlocking (some packet) }
  | blocks (here : s.place = .fetchUnlocking none) :
      TxSteps s link { s.unlockBuffer with tx := { s.tx with state := .blocked }, place := .waiting }
  | stamps {packet : S3tpPacket} (here : s.place = .fetchUnlocking (some packet)) :
      TxSteps s link
        { s.unlockBuffer with
          tx := s.tx.afterTaking packet s.tx.outBuffer
          place := .releasing (packet.setGlobalSequence s.tx.globalSeqNum) }
  | releases {packet : S3tpPacket} (here : s.place = .releasing packet) :
      TxSteps s link { s.unlockTx with place := .sending packet }
  | sends {packet : S3tpPacket} (here : s.place = .sending packet) :
      TxSteps s link { s with link := s.link ++ [packet], place := .locking }

theorem of_txStep {link : LinkStatus} (stepped : s.txStep link = some t) : s.TxSteps link t := by
  cases here : s.place with
  | blocked | finished =>
    simp [txStep, here] at stepped
  | locking | woken =>
    simp only [txStep, here] at stepped
    obtain ⟨mid, locks, rfl⟩ := Option.map_eq_some_iff.mp stepped
    obtain ⟨free, rfl⟩ := of_lockTx locks
    exact .locks (by simp [here]) free
  | turning =>
    simp only [txStep, here] at stepped
    split at stepped
    · next stopped =>
      obtain rfl := Option.some.inj stepped
      exact .ends here (by simpa using stopped)
    split at stepped
    · next down =>
      obtain rfl := Option.some.inj stepped
      exact .givesUp here (by simpa using down)
    · obtain rfl := Option.some.inj stepped
      exact .turns here
  | testing reading =>
    cases reading with
    | lock =>
      simp only [txStep, here] at stepped
      obtain ⟨mid, locks, rfl⟩ := Option.map_eq_some_iff.mp stepped
      obtain ⟨free, rfl⟩ := of_lockBuffer locks
      exact .locksToTest here free
    | read =>
      simp only [txStep, here] at stepped
      obtain rfl := Option.some.inj stepped
      exact .reads here
    | unlock result =>
      cases result with
      | false =>
        simp only [txStep, here] at stepped
        obtain rfl := Option.some.inj stepped
        exact .waits here
      | true =>
        simp only [txStep, here] at stepped
        obtain rfl := Option.some.inj stepped
        exact .runs here
  | waiting =>
    simp only [txStep, here] at stepped
    obtain rfl := Option.some.inj stepped
    exact .sleeps here
  | fetchLocking =>
    simp only [txStep, here] at stepped
    obtain ⟨mid, locks, rfl⟩ := Option.map_eq_some_iff.mp stepped
    obtain ⟨free, rfl⟩ := of_lockBuffer locks
    exact .locksToFetch here free
  | fetching =>
    simp only [txStep, here] at stepped
    split at stepped
    · next nothing =>
      obtain rfl := Option.some.inj stepped
      exact .fetchesNothing here nothing
    · next packet outBuffer taken =>
      obtain rfl := Option.some.inj stepped
      exact .fetches here taken
  | fetchUnlocking next =>
    cases next with
    | none =>
      simp only [txStep, here] at stepped
      obtain rfl := Option.some.inj stepped
      exact .blocks here
    | some packet =>
      simp only [txStep, here] at stepped
      obtain rfl := Option.some.inj stepped
      exact .stamps here
  | releasing packet =>
    simp only [txStep, here] at stepped
    obtain rfl := Option.some.inj stepped
    exact .releases here
  | sending packet =>
    simp only [txStep, here] at stepped
    obtain rfl := Option.some.inj stepped
    exact .sends here

section Callers

variable [DecidableEq ι] {c : ι}

/-- What a caller can do inside `enqueuePacket`, from where it is. -/
inductive CallerSteps (s : TxThreads ι) (c : ι) : TxThreads ι → Prop where
  | locks {packet : S3tpPacket} {fragNo : UInt8} {more : Bool} (here : s.caller c = .locking packet fragNo more)
      (free : s.txMutex = none) :
      CallerSteps s c
        (({ s with txMutex := some (.caller c) } : TxThreads ι).callerAt c (.stamping packet fragNo more))
  | isRefused {packet : S3tpPacket} {fragNo : UInt8} {more : Bool} (here : s.caller c = .stamping packet fragNo more)
      (refused : s.tx.stampPacket packet fragNo more = none) : CallerSteps s c (s.callerAt c .refusing)
  | stamps {packet stamped : S3tpPacket} {fragNo : UInt8} {more : Bool} {tx : TxModule}
      (here : s.caller c = .stamping packet fragNo more)
      (stamps : s.tx.stampPacket packet fragNo more = some (stamped, tx)) :
      CallerSteps s c (({ s with tx } : TxThreads ι).callerAt c (.unlocking stamped))
  | leaves (here : s.caller c = .refusing) : CallerSteps s c (s.unlockTx.callerAt c .outside)
  | unlocks {packet : S3tpPacket} (here : s.caller c = .unlocking packet) :
      CallerSteps s c (s.unlockTx.callerAt c (.bufferLocking packet))
  | locksBuffer {packet : S3tpPacket} (here : s.caller c = .bufferLocking packet) (free : s.bufferMutex = none) :
      CallerSteps s c (({ s with bufferMutex := some (.caller c) } : TxThreads ι).callerAt c (.writing packet))
  | writes {packet : S3tpPacket} (here : s.caller c = .writing packet)
      (may : (s.tx.outBuffer.queues packet.getPort).isEmpty = true ∨ s.txMutex.isNone = true) :
      CallerSteps s c (({ s with tx := s.tx.writePacket packet } : TxThreads ι).callerAt c .bufferUnlocking)
  | unlocksBuffer (here : s.caller c = .bufferUnlocking) : CallerSteps s c (s.unlockBuffer.callerAt c .signalling)
  | signals (here : s.caller c = .signalling) : CallerSteps s c (s.signal.callerAt c .outside)

theorem of_callerStep (stepped : s.callerStep c = some t) : s.CallerSteps c t := by
  cases here : s.caller c with
  | outside =>
    simp [callerStep, here] at stepped
  | locking packet fragNo more =>
    simp only [callerStep, here] at stepped
    obtain ⟨mid, locks, rfl⟩ := Option.map_eq_some_iff.mp stepped
    obtain ⟨free, rfl⟩ := of_lockTx locks
    exact .locks here free
  | stamping packet fragNo more =>
    simp only [callerStep, here] at stepped
    split at stepped
    · next refused =>
      obtain rfl := Option.some.inj stepped
      exact .isRefused here refused
    · next stamped tx stamps =>
      obtain rfl := Option.some.inj stepped
      exact .stamps here stamps
  | refusing =>
    simp only [callerStep, here] at stepped
    obtain rfl := Option.some.inj stepped
    exact .leaves here
  | unlocking packet =>
    simp only [callerStep, here] at stepped
    obtain rfl := Option.some.inj stepped
    exact .unlocks here
  | bufferLocking packet =>
    simp only [callerStep, here] at stepped
    obtain ⟨mid, locks, rfl⟩ := Option.map_eq_some_iff.mp stepped
    obtain ⟨free, rfl⟩ := of_lockBuffer locks
    exact .locksBuffer here free
  | writing packet =>
    simp only [callerStep, here] at stepped
    split at stepped
    · next may =>
      obtain rfl := Option.some.inj stepped
      exact .writes here may
    · contradiction
  | bufferUnlocking =>
    simp only [callerStep, here] at stepped
    obtain rfl := Option.some.inj stepped
    exact .unlocksBuffer here
  | signalling =>
    simp only [callerStep, here] at stepped
    obtain rfl := Option.some.inj stepped
    exact .signals here

/-- What an event does. -/
inductive Steps (s : TxThreads ι) : TxThreadsEvent ι → TxThreads ι → Prop where
  | tx {link : LinkStatus} {t : TxThreads ι} (steps : s.TxSteps link t) : Steps s (.tx link) t
  | caller {c : ι} {t : TxThreads ι} (steps : s.CallerSteps c t) : Steps s (.caller c) t
  | enqueuePacket {c : ι} {packet : S3tpPacket} {fragNo : UInt8} {more : Bool} (here : s.caller c = .outside) :
      Steps s (.enqueuePacket c packet fragNo more) (s.callerAt c (.locking packet fragNo more))
  | wake (here : s.place = .blocked) : Steps s .wake { s with place := .woken }
  | opens {channel : UInt8} (free : s.txMutex = none) :
      Steps s (.setChannelAvailable channel true) { s.signal with tx := s.tx.setChannelAvailable channel true }
  | closes {channel : UInt8} (free : s.txMutex = none) :
      Steps s (.setChannelAvailable channel false) { s with tx := s.tx.setChannelAvailable channel false }
  | scheduleSync {syncId : UInt8} (free : s.txMutex = none) :
      Steps s (.scheduleSync syncId) { s.signal with tx := s.tx.scheduleSync syncId }
  | notifyLinkAvailability : Steps s .notifyLinkAvailability s.signal
  | stopRoutine (free : s.txMutex = none) : Steps s .stopRoutine { s.signal with tx := s.tx.stopRoutine }

theorem of_step {event : TxThreadsEvent ι} (stepped : s.step event = some t) : s.Steps event t := by
  cases event with
  | tx link => exact .tx (of_txStep stepped)
  | caller c => exact .caller (of_callerStep stepped)
  | enqueuePacket c packet fragNo more =>
    simp only [step] at stepped
    split at stepped
    · next here =>
      obtain rfl := Option.some.inj stepped
      exact .enqueuePacket here
    · contradiction
  | wake =>
    simp only [step] at stepped
    split at stepped
    · next here =>
      obtain rfl := Option.some.inj stepped
      exact .wake here
    · contradiction
  | setChannelAvailable channel available =>
    simp only [step] at stepped
    split at stepped
    · next free =>
      obtain rfl := Option.some.inj stepped
      cases available with
      | true => exact .opens (Option.isNone_iff_eq_none.mp free)
      | false => exact .closes (Option.isNone_iff_eq_none.mp free)
    · contradiction
  | scheduleSync syncId =>
    simp only [step] at stepped
    split at stepped
    · next free =>
      obtain rfl := Option.some.inj stepped
      exact .scheduleSync (Option.isNone_iff_eq_none.mp free)
    · contradiction
  | notifyLinkAvailability =>
    obtain rfl := Option.some.inj stepped
    exact .notifyLinkAvailability
  | stopRoutine =>
    simp only [step] at stepped
    split at stepped
    · next free =>
      obtain rfl := Option.some.inj stepped
      exact .stopRoutine (Option.isNone_iff_eq_none.mp free)
    · contradiction

/-- What was handed to the link stays handed to it. -/
theorem link_prefix_of_step {event : TxThreadsEvent ι} (stepped : s.step event = some t) : s.link <+: t.link := by
  cases of_step stepped with
  | tx steps => cases steps <;> first | exact List.prefix_rfl | exact List.prefix_append ..
  | caller steps => cases steps <;> exact List.prefix_rfl
  | enqueuePacket | wake | opens | closes | scheduleSync | notifyLinkAvailability | stopRoutine => exact List.prefix_rfl

end Callers

end TxThreads

end S3tp.Model.Concurrent
