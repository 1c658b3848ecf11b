import S3tp.Machine.WakeUp
import S3tp.Model.Concurrent.RxSystem

/-! # The threads at the receiving module

The assembly thread runs `assemblyRoutine`: under `s3tp_mutex` it tests for messages, waits on
`available_msg_cond` when it finds none, and consumes one otherwise. The link thread runs
`handleReceivedPacket` for one frame after the other, flags a port and signals under `rx_mutex`. Each
taking or releasing of one of these mutexes, test, signal and wait is a step of its own, and so is what a
thread does to the module between them. Waiting releases `s3tp_mutex` and takes it again.

Other threads take `s3tp_mutex` now and then, open and close ports, and stop the instance. A wake-up may
also come without a signal. The buffer's mutexes and `clients_mutex` are left out. `Buffer::write` asks the
module, under `rx_mutex`, as soon as the queue is not empty.
-/

namespace S3tp.Model.Core.RxModule

/-- `getNextCompleteMessage` from the point where it locks `rx_mutex` for good. -/
def takeFirst (rx : RxModule) : Option (Delivery × RxModule) :=
  match rx.availableMessages.begin? with
  | none => none
  | some port => (rx.assemble port [] 0).map fun (delivery, rx) =>
      (delivery, if delivery.error = codeSuccess then rx.refreshAvailability port else rx)

theorem getNextCompleteMessage_eq (rx : RxModule) : rx.getNextCompleteMessage =
    if !rx.active then some (⟨none, 0, moduleInactive, 0⟩, rx)
    else if !rx.isNewMessageAvailable then some (⟨none, 0, codeNoMessagesAvailable, 0⟩, rx)
    else rx.takeFirst := by
  rw [getNextCompleteMessage, takeFirst]
  split
  · rfl
  cases first : rx.availableMessages.begin? with
  | none =>
    have empty : rx.isNewMessageAvailable = false := by
      rw [isNewMessageAvailable, ByteMap.isEmpty_iff.mpr (ByteMap.begin?_eq_none_iff.mp first), Bool.not_true]
    simp [empty]
  | some port =>
    have flagged : rx.isNewMessageAvailable = true := by
      rw [isNewMessageAvailable, ByteMap.isEmpty_eq_false_iff.mpr ⟨port, ByteMap.isSome_of_begin? first⟩,
        Bool.not_false]
    simp only [flagged, Bool.not_true, Bool.false_eq_true, if_false]
    cases rx.assemble port [] 0 with
    | none => rfl
    | some result =>
      simp only [Option.map_some]
      split <;> rfl

end S3tp.Model.Core.RxModule

namespace S3tp.Model.Concurrent

open Core Machine

/-- Who holds one of the mutexes. -/
inductive RxThread where
  | assembly
  | link
  | other
deriving DecidableEq

/-- The critical sections of the assembly thread that only read: `isActive` in the loop's condition, the tests
of the loop and of `waitForNextAvailableMessage`, and those of `getNextCompleteMessage`. -/
inductive AssemblyTest where
  | loopActive
  | loopAvailable
  | waitAvailable
  | consumeActive
  | consumeAvailable
deriving DecidableEq

inductive AssemblyPlace where
  | locking
  | testing (test : AssemblyTest) (reading : Reading Bool)
  | waiting
  | blocked
  | woken
  | leaving
  | releasing
  | taking
  | assembling
  | untaking (delivery : Delivery)
  | forwarding (delivery : Delivery)
  | finished
deriving DecidableEq

/-- The critical sections of the link thread that only read. -/
inductive LinkTest where
  | active
  | portOpen
deriving DecidableEq

inductive LinkPlace where
  | outside
  | testing (test : LinkTest) (packet : S3tpPacket) (reading : Reading Bool)
  | syncLocking (packet : S3tpPacket)
  | synchronizing (packet : S3tpPacket)
  | syncUnlocking
  | writing (packet : S3tpPacket)
  | locking (packet : S3tpPacket)
  | scanning (packet : S3tpPacket)
  | flagging (packet : S3tpPacket)
  | signalling (packet : S3tpPacket)
  | unlocking (packet : S3tpPacket)
  | updating (packet : S3tpPacket)
deriving DecidableEq

inductive RxThreadsEvent where
  | assembly
  | call (packet : S3tpPacket)
  | link
  | wake
  | lock
  | unlock
  | openPort (port : UInt8)
  | closePort (port : UInt8)
  | stop

structure RxThreads where
  rx : RxModule
  /-- The flag of the `S3TP` instance. -/
  active : Bool := true
  s3tpMutex : Option RxThread := none
  rxMutex : Option RxThread := none
  assembly : AssemblyPlace := .locking
  link : LinkPlace := .outside

namespace RxThreads

/-- The instance has been initialized and its threads have been started. -/
def started : RxThreads := { rx := RxSystem.started.rx }

/-- `pthread_mutex_lock(&rx_mutex)`. -/
def lockRx (s : RxThreads) (thread : RxThread) : Option RxThreads :=
  if s.rxMutex = none then some { s with rxMutex := some thread } else none

/-- `pthread_mutex_unlock(&rx_mutex)`. -/
def unlockRx (s : RxThreads) : RxThreads := { s with rxMutex := none }

/-- `pthread_cond_signal(&available_msg_cond)`. -/
def signal (s : RxThreads) : RxThreads := { s with assembly := if s.assembly = .blocked then .woken else s.assembly }

/-- What a test of the assembly thread reads. -/
def answer (s : RxThreads) : AssemblyTest → Bool
  | .loopActive | .consumeActive => s.rx.active
  | .loopAvailable | .waitAvailable | .consumeAvailable => s.rx.isNewMessageAvailable

/-- Where the assembly thread goes from a test. -/
def afterTest : AssemblyTest → Bool → AssemblyPlace
  | .loopActive, true => .testing .loopAvailable .lock
  | .loopActive, false => .leaving
  | .loopAvailable, true => .releasing
  | .loopAvailable, false => .testing .waitAvailable .lock
  | .waitAvailable, true => .testing .loopActive .lock
  | .waitAvailable, false => .waiting
  | .consumeActive, true => .testing .consumeAvailable .lock
  | .consumeActive, false => .forwarding ⟨none, 0, moduleInactive, 0⟩
  | .consumeAvailable, true => .taking
  | .consumeAvailable, false => .forwarding ⟨none, 0, codeNoMessagesAvailable, 0⟩

/-- The assembly thread's next step. The loop's condition reads the instance's flag before `isActive`. -/
def assemblyStep (s : RxThreads) : Option RxThreads :=
  match s.assembly with
  | .locking | .woken =>
    if s.s3tpMutex = none then
      some { s with s3tpMutex := some .assembly
                    assembly := if s.active then .testing .loopActive .lock else .leaving }
    else none
  | .testing test .lock => (s.lockRx .assembly).map fun s => { s with assembly := .testing test .read }
  | .testing test .read => some { s with assembly := .testing test (.unlock (s.answer test)) }
  | .testing test (.unlock result) => some { s.unlockRx with assembly := afterTest test result }
  | .waiting => some { s with s3tpMutex := none, assembly := .blocked }
  | .leaving => some { s with s3tpMutex := none, assembly := .finished }
  | .releasing => some { s with s3tpMutex := none, assembly := .testing .consumeActive .lock }
  | .taking => (s.lockRx .assembly).map fun s => { s with assembly := .assembling }
  -- The error path does not release `rx_mutex`.
  | .assembling => s.rx.takeFirst.map fun (delivery, rx) =>
      { s with rx, assembly := if delivery.error = codeSuccess then .untaking delivery else .forwarding delivery }
  | .untaking delivery => some { s.unlockRx with assembly := .forwarding delivery }
  | .forwarding _ => some { s with assembly := .locking }
  | .blocked | .finished => none

/-- Where the link thread goes from a test. Between the two it checks the checksum and the type. -/
def afterLinkTest (packet : S3tpPacket) : LinkTest → Bool → LinkPlace
  | .active, false => .outside
  | .active, true =>
    if !packet.crcValid then .outside
    else if packet.header.getMessageType = msgSync then .syncLocking packet
    else if packet.header.getMessageType ≠ msgData then .outside
    else .testing .portOpen packet .lock
  | .portOpen, false => .outside
  | .portOpen, true => .writing packet

def linkAnswer (s : RxThreads) (packet : S3tpPacket) : LinkTest → Bool
  | .active => s.rx.active
  | .portOpen => s.rx.isPortOpen packet.getPort

/-- The link thread's next step in `handleReceivedPacket`. -/
def linkStep (s : RxThreads) : Option RxThreads :=
  match s.link with
  | .outside => none
  | .testing test packet .lock => (s.lockRx .link).map fun s => { s with link := .testing test packet .read }
  | .testing test packet .read => some { s with link := .testing test packet (.unlock (s.linkAnswer packet test)) }
  | .testing test packet (.unlock result) => some { s.unlockRx with link := afterLinkTest packet test result }
  | .syncLocking packet => (s.lockRx .link).map fun s => { s with link := .synchronizing packet }
  | .synchronizing packet =>
    some { s with rx := s.rx.synchronizeStatus (S3tpSync.ofBytes packet.payload), link := .syncUnlocking }
  | .syncUnlocking => some { s.unlockRx with link := .outside }
  | .writing packet =>
    if (s.rx.inBuffer.queues packet.getPort).isEmpty = true ∨ s.rxMutex = none then
      some { s with rx := s.rx.writePacket packet, link := .locking packet }
    else none
  | .locking packet => (s.lockRx .link).map fun s => { s with link := .scanning packet }
  | .scanning packet =>
    some { s with link := if s.rx.isCompleteMessageForPortAvailable packet.getPort then .flagging packet
                          else .unlocking packet }
  | .flagging packet =>
    some { s with rx := { s.rx with availableMessages := s.rx.availableMessages.insert packet.getPort 1 }
                  link := .signalling packet }
  | .signalling packet => some { s.signal with link := .unlocking packet }
  | .unlocking packet => some { s.unlockRx with link := .updating packet }
  | .updating packet => some { s with rx := s.rx.updateWindow packet, link := .outside }

def step (s : RxThreads) : RxThreadsEvent → Option RxThreads
  | .assembly => s.assemblyStep
  | .call packet => if s.link = .outside then some { s with link := .testing .active packet .lock } else none
  | .link => s.linkStep
  | .wake => if s.assembly = .blocked then some { s with assembly := .woken } else none
  | .lock => if s.s3tpMutex = none then some { s with s3tpMutex := some .other } else none
  | .unlock => if s.s3tpMutex = some .other then some { s with s3tpMutex := none } else none
  | .openPort port => if s.rxMutex = none then some { s with rx := (s.rx.openPort port).2 } else none
  | .closePort port => if s.rxMutex = none then some { s with rx := (s.rx.closePort port).2 } else none
  -- `stopModule` is called under `s3tp_mutex` and signals.
  | .stop => if s.s3tpMutex = some .other ∧ s.rxMutex = none then
      some { s.signal with rx := s.rx.stopModule, active := false } else none

end RxThreads

end S3tp.Model.Concurrent
