import S3tp.Soundness.OneByte

/-! # Which ports are flagged

A port should be flagged exactly if its queue begins with a complete message at the expected number.
Each operation keeps this under a condition of its own, which is also necessary: a sync frame must
not give or take a complete message by moving the expected number, a packet must not be linked
inside one, neither the window test nor a flush may clear one, and the scan must judge the queue
correctly whenever it is consulted.
-/

namespace S3tp.Soundness

open Model.Core Model.Core.RxModule Model.Concurrent Machine

/-- Flagged are the ports whose queues begin with a complete message at the expected number. -/
def FlagsExact (rx : RxModule) : Prop := ∀ port, (rx.availableMessages port).isSome = true ↔
  BeginsComplete (rx.currentPortSequence port) (rx.inBuffer.held port)

/-- The flags are exact, and consuming neither follows a null pointer nor meets an unexpected packet. -/
structure Available (rx : RxModule) : Prop where
  flags : FlagsExact rx
  consumable : ∃ delivery rx', rx.getNextCompleteMessage = some (delivery, rx') ∧
    delivery.error ≠ codeErrorInconsistentState

/-! ## The conditions on the operations -/

/-- The port's queue with the new packet linked. -/
def linked (rx : RxModule) (packet : S3tpPacket) : List S3tpPacket :=
  (rx.inBuffer.kept rx.policy packet).insertFromTail (Buffer.ahead rx.policy) packet

/-- The packets up to and including the new one. -/
def linkedUpTo (rx : RxModule) (packet : S3tpPacket) : List S3tpPacket :=
  (rx.inBuffer.kept rx.policy packet).rdropWhile (fun ref => !Buffer.ahead rx.policy ref packet) ++ [packet]

/-- No other flagged port is flushed. The packet's own port is flushed only if it is neither flagged
nor found complete. If it is flagged, the packets up to the new one still begin with a complete
message. If it is not, the scan judges the queue correctly. -/
structure SafeToReceive (rx : RxModule) (packet : S3tpPacket) : Prop where
  others : ∀ port, port ≠ packet.getPort → rx.Flushes packet port → rx.availableMessages port = none
  flushed : rx.Flushes packet packet.getPort → rx.availableMessages packet.getPort = none ∧
    scanComplete (rx.currentPortSequence packet.getPort) 0 (linked rx packet) = false
  flagged : ¬ rx.Flushes packet packet.getPort → (rx.availableMessages packet.getPort).isSome = true →
    BeginsComplete (rx.currentPortSequence packet.getPort) (linkedUpTo rx packet)
  unflagged : ¬ rx.Flushes packet packet.getPort → rx.availableMessages packet.getPort = none →
    ScanExact (rx.currentPortSequence packet.getPort) (linked rx packet)

/-- A number that is announced and not the expected one finds a queue that begins with a complete
message neither at the one nor at the other. -/
def SafeToSync (rx : RxModule) (sync : S3tpSync) : Prop :=
  ∀ (port : UInt8) (inRange : port.toNat < 128), sync.portSeq ⟨port.toNat, inRange⟩ = 0 ∨
    sync.portSeq ⟨port.toNat, inRange⟩ = rx.currentPortSequence port ∨
    (rx.availableMessages port = none ∧
      ¬ BeginsComplete (sync.portSeq ⟨port.toNat, inRange⟩) (rx.inBuffer.held port))

/-- The scan judges correctly what is left behind the message that is consumed. -/
def SafeToConsume (rx : RxModule) : Prop :=
  ∀ (port : UInt8) (message rest : List S3tpPacket), rx.active = true →
    rx.availableMessages.begin? = some port → rx.inBuffer.held port = message ++ rest →
    IsMessage (rx.currentPortSequence port) message →
    ScanExact (rx.currentPortSequence port + UInt8.ofNat message.length) rest

/-! ## Receiving -/

section Receiving

variable {rx : RxModule} (packet : S3tpPacket) (port : UInt8)

theorem isSome_of_not_none {flags : ByteMap UInt8} : flags port = none ↔ ¬ (flags port).isSome = true := by
  simp

theorem flagged_receiveData : ((rx.receiveData packet).availableMessages port).isSome = true ↔
    (rx.availableMessages port).isSome = true ∨
      (port = packet.getPort ∧ scanComplete (rx.currentPortSequence port) 0 (linked rx packet) = true) := by
  have found : (rx.writePacket packet).isCompleteMessageForPortAvailable packet.getPort =
      scanComplete (rx.currentPortSequence packet.getPort) 0 (linked rx packet) :=
    congrArg (scanComplete _ 0) (Buffer.held_write_self rx.inBuffer rx.policy packet)
  rw [receiveData_availableMessages, found]
  split
  · next complete =>
    rcases Classical.em (port = packet.getPort) with rfl | other
    · simp [complete]
    · simp [ByteMap.insert_of_ne _ _ other, other]
  · next incomplete =>
    refine ⟨.inl, ?_⟩
    rintro (flagged | ⟨rfl, complete⟩)
    · exact flagged
    · exact absurd complete incomplete

theorem held_receiveData : (rx.receiveData packet).inBuffer.held port =
    if rx.Flushes packet port then [] else if port = packet.getPort then linked rx packet
    else rx.inBuffer.held port := by
  rw [receiveData_held]
  rcases Classical.em (port = packet.getPort) with rfl | other
  · rw [if_pos rfl, writePacket, Buffer.held_write_self, linked]
  · rw [if_neg other, writePacket, Buffer.held_write_of_ne rx.inBuffer rx.policy other]

/-- In a queue that is still flagged, linking the packet keeps a complete message at the beginning
exactly if the packets up to it begin with one. -/
theorem beginsComplete_linked_iff {c : UInt8}
    (complete : BeginsComplete c (rx.inBuffer.held packet.getPort)) :
    BeginsComplete c (linked rx packet) ↔ BeginsComplete c (linkedUpTo rx packet) := by
  rw [linked, linkedUpTo, List.insertFromTail_eq_rdropWhile, Buffer.kept]
  split
  · simp
  · apply BeginsComplete.insert_iff
    rw [List.rdropWhile_append_rtakeWhile]
    exact complete

/-- The flags stay exact if and only if it is safe to receive the packet. -/
theorem flagsExact_receiveData_iff (exactly : FlagsExact rx) :
    FlagsExact (rx.receiveData packet) ↔ SafeToReceive rx packet := by
  have own := exactly packet.getPort
  constructor
  · intro after
    have ownAfter := after packet.getPort
    rw [flagged_receiveData, held_receiveData, receiveData_currentPortSequence] at ownAfter
    refine ⟨?_, ?_, ?_, ?_⟩
    · intro other different flushes
      have otherAfter := after other
      rw [flagged_receiveData, held_receiveData, if_pos flushes] at otherAfter
      rw [isSome_of_not_none]
      exact fun flagged => BeginsComplete.not_nil (otherAfter.mp (.inl flagged))
    · intro flushes
      rw [if_pos flushes] at ownAfter
      rw [isSome_of_not_none, ← Bool.not_eq_true]
      exact ⟨fun flagged => BeginsComplete.not_nil (ownAfter.mp (.inl flagged)),
        fun found => BeginsComplete.not_nil (ownAfter.mp (.inr ⟨rfl, found⟩))⟩
    · intro stays flagged
      rw [if_neg stays, if_pos rfl] at ownAfter
      exact (beginsComplete_linked_iff packet (own.mp flagged)).mp (ownAfter.mp (.inl flagged))
    · intro stays unflagged
      rw [if_neg stays, if_pos rfl] at ownAfter
      rw [scanExact_iff, ← ownAfter]
      simp [unflagged]
  · intro safe port
    rw [flagged_receiveData, held_receiveData, receiveData_currentPortSequence]
    rcases Classical.em (port = packet.getPort) with rfl | other
    · rcases Classical.em (rx.Flushes packet packet.getPort) with flushes | stays
      · have ⟨unflagged, missed⟩ := safe.flushed flushes
        simp [flushes, unflagged, missed, BeginsComplete.not_nil]
      · rw [if_neg stays, if_pos rfl]
        rcases Bool.eq_false_or_eq_true (rx.availableMessages packet.getPort).isSome with flagged | unflagged
        · have still := (beginsComplete_linked_iff packet (own.mp flagged)).mpr (safe.flagged stays flagged)
          simp [flagged, still]
        · have exactScan := safe.unflagged stays (by simpa using unflagged)
          rw [← scanExact_iff.mp exactScan]
          simp [unflagged]
    · rcases Classical.em (rx.Flushes packet port) with flushes | stays
      · simp [flushes, safe.others port other flushes, other, BeginsComplete.not_nil]
      · rw [if_neg stays, if_neg other, ← exactly port]
        simp [other]

end Receiving

/-! ## Synchronizing and consuming -/

/-- The flags stay exact if and only if it is safe to process the sync frame. -/
theorem flagsExact_synchronizeStatus_iff {rx : RxModule} (sync : S3tpSync) (exactly : FlagsExact rx) :
    FlagsExact (rx.synchronizeStatus sync) ↔ SafeToSync rx sync := by
  have current (port : UInt8) (inRange : port.toNat < 128) :
      (rx.synchronizeStatus sync).currentPortSequence port =
        if sync.portSeq ⟨port.toNat, inRange⟩ ≠ 0 then sync.portSeq ⟨port.toNat, inRange⟩
        else rx.currentPortSequence port := dif_pos inRange
  constructor
  · intro after port inRange
    have own := after port
    rw [current port inRange] at own
    rcases Classical.em (sync.portSeq ⟨port.toNat, inRange⟩ = 0) with unused | used
    · exact .inl unused
    rcases Classical.em (sync.portSeq ⟨port.toNat, inRange⟩ = rx.currentPortSequence port) with same | moved
    · exact .inr (.inl same)
    · rw [if_pos used] at own
      -- A queue cannot begin with messages at two numbers.
      have unflagged : ¬ (rx.availableMessages port).isSome = true := by
        intro flagged
        obtain ⟨head, first, number⟩ := ((exactly port).mp flagged).head
        obtain ⟨head', first', number'⟩ := (own.mp flagged).head
        obtain rfl := Option.mem_unique first first'
        exact moved (number'.symm.trans number)
      exact .inr (.inr ⟨isSome_of_not_none port |>.mpr unflagged, own.not.mp unflagged⟩)
  · intro safe port
    change (rx.availableMessages port).isSome = true ↔
      BeginsComplete ((rx.synchronizeStatus sync).currentPortSequence port) (rx.inBuffer.held port)
    rcases Nat.lt_or_ge port.toNat 128 with inRange | outside
    · rw [current port inRange]
      rcases safe port inRange with unused | same | ⟨unflagged, incomplete⟩
      · rw [if_neg (not_not.mpr unused)]
        exact exactly port
      · rw [same, ite_self]
        exact exactly port
      · have incompleteBefore := (exactly port).not.mp (by simp [unflagged])
        split
        · simp [unflagged, incomplete]
        · simp [unflagged, incompleteBefore]
    · have unmoved : (rx.synchronizeStatus sync).currentPortSequence port = rx.currentPortSequence port :=
        dif_neg (Nat.not_lt.mpr outside)
      rw [unmoved]
      exact exactly port

section Consuming

variable {rx : RxModule}

theorem flagged_refreshAvailability (port other : UInt8) :
    ((rx.refreshAvailability port).availableMessages other).isSome = true ↔
      if other = port then scanComplete (rx.currentPortSequence port) 0 (rx.inBuffer.held port) = true
      else (rx.availableMessages other).isSome = true := by
  have found : rx.isCompleteMessageForPortAvailable port =
    scanComplete (rx.currentPortSequence port) 0 (rx.inBuffer.held port) := rfl
  rw [refreshAvailability_frame, found]
  rcases Classical.em (other = port) with rfl | different
  · split <;> simp [*]
  · rw [if_neg different]
    split
    · simp only [ByteMap.insert_of_ne _ _ different]
    · simp only [ByteMap.erase_of_ne _ different]

/-- While the flags are exact, consuming either finds nothing to do or takes a whole message. -/
theorem consume_cases (exactly : FlagsExact rx) (consistent : rx.inBuffer.Consistent) :
    (∃ delivery, rx.getNextCompleteMessage = some (delivery, rx) ∧
      delivery.error ≠ codeErrorInconsistentState ∧
      ∀ port, rx.active = true → rx.availableMessages.begin? ≠ some port) ∨
    ∃ port message rest rx', rx.active = true ∧ rx.availableMessages.begin? = some port ∧
      rx.inBuffer.held port = message ++ rest ∧ IsMessage (rx.currentPortSequence port) message ∧
      rx.getNextCompleteMessage = some (⟨some (assembled message), lengthSum message, codeSuccess, port⟩,
        rx'.refreshAvailability port) ∧ Consumed rx rx' port message.length := by
  cases active : rx.active with
  | false => exact .inl ⟨_, by simp [getNextCompleteMessage, active]; rfl, by decide, by simp⟩
  | true =>
    cases first : rx.availableMessages.begin? with
    | none => exact .inl ⟨_, by simp [getNextCompleteMessage, active, first]; rfl, by decide, by simp⟩
    | some port =>
      obtain ⟨message, rest, held, complete⟩ := (exactly port).mp (ByteMap.isSome_of_begin? first)
      obtain ⟨rx', consumes, consumed⟩ :=
        getNextCompleteMessage_of_message active first (consistent.counted port) held complete
      exact .inr ⟨port, message, rest, rx', rfl, rfl, held, complete, consumes, consumed⟩

/-- The flags stay exact if and only if it is safe to consume. -/
theorem flagsExact_consume_iff {rx' : RxModule} {delivery : Delivery} (exactly : FlagsExact rx)
    (consistent : rx.inBuffer.Consistent) (consumes : rx.getNextCompleteMessage = some (delivery, rx')) :
    FlagsExact rx' ↔ SafeToConsume rx := by
  rcases consume_cases exactly consistent with ⟨_, idle, -, none⟩ |
    ⟨port, message, rest, mid, active, first, held, complete, consumes', consumed⟩
  · obtain ⟨-, rfl⟩ := Prod.mk.inj (Option.some.inj (consumes.symm.trans idle))
    exact ⟨fun _ port _ _ active first => absurd first (none port active), fun _ => exactly⟩
  · obtain ⟨-, rfl⟩ := Prod.mk.inj (Option.some.inj (consumes.symm.trans consumes'))
    have current : (mid.refreshAvailability port).currentPortSequence = Function.update rx.currentPortSequence
        port (rx.currentPortSequence port + UInt8.ofNat message.length) := by
      rw [refreshAvailability_frame]
      exact consumed.current
    have buffer : (mid.refreshAvailability port).inBuffer = mid.inBuffer := by rw [refreshAvailability_frame]
    have left : mid.inBuffer.held port = rest := by rw [consumed.held, held, List.drop_left]
    have safe_iff : SafeToConsume rx ↔
        ScanExact (rx.currentPortSequence port + UInt8.ofNat message.length) rest := by
      constructor
      · exact fun safe => safe port message rest active first held complete
      · intro scan port' message' rest' _ first' held' complete'
        obtain rfl := Option.some.inj (first.symm.trans first')
        obtain ⟨rfl, rfl⟩ := complete.append_inj complete' (held.symm.trans held')
        exact scan
    rw [safe_iff, scanExact_iff]
    constructor
    · intro after
      have own := after port
      rw [flagged_refreshAvailability, if_pos rfl, current, buffer, consumed.current, Function.update_self,
        left] at own
      exact own
    · intro scan other
      rw [flagged_refreshAvailability, current, buffer]
      rcases Classical.em (other = port) with rfl | different
      · rw [if_pos rfl, consumed.current, Function.update_self, left]
        exact scan
      · have flags : mid.availableMessages = rx.availableMessages := by rw [consumed.frame]
        rw [if_neg different, flags, Function.update_of_ne different, Buffer.held,
          consumed.others other different]
        exact exactly other

end Consuming

/-! ## Runs -/

/-- What an operation needs for the flags to stay exact. Opening and closing ports needs nothing, nor
does a frame that is refused. -/
def Safe (s : RxSystem) : RxEvent → Prop
  | .receive packet => (s.rx.accepts packet = true → SafeToReceive s.rx packet) ∧
      (s.rx.synchronizes packet = true → SafeToSync s.rx (S3tpSync.ofBytes packet.payload))
  | .consume => SafeToConsume s.rx
  | _ => True

/-- The size field of the queue can count the packet. -/
def Room (s : RxSystem) : RxEvent → Prop
  | .receive packet => s.rx.accepts packet = true → (s.rx.inBuffer.kept s.rx.policy packet).length + 1 < 2 ^ 16
  | _ => True

/-- The flags are exact after a step if and only if the step was safe. -/
theorem flagsExact_step_iff {s t : RxSystem} {event : RxEvent} (exactly : FlagsExact s.rx)
    (consistent : s.rx.inBuffer.Consistent) (stepped : s.step event = some t) :
    FlagsExact t.rx ↔ Safe s event := by
  cases event with
  | openPort port =>
    obtain ⟨openPorts, rfl⟩ := RxSystem.openPorts_of_openPort stepped
    exact ⟨fun _ => trivial, fun _ => exactly⟩
  | closePort port =>
    obtain ⟨openPorts, rfl⟩ := RxSystem.openPorts_of_closePort stepped
    exact ⟨fun _ => trivial, fun _ => exactly⟩
  | receive packet =>
    obtain ⟨rx, shape, rfl⟩ := RxSystem.of_receive stepped
    cases accepted : s.rx.accepts packet with
    | true =>
      have data : s.rx.synchronizes packet = false := by
        rw [← Bool.not_eq_true]
        exact fun synced => by simp [accepts_eq_false_of_synchronizes synced] at accepted
      rw [handleReceivedPacket_of_accepts accepted] at shape
      rw [shape, flagsExact_receiveData_iff packet exactly]
      simp [Safe, accepted, data]
    | false =>
      cases synced : s.rx.synchronizes packet with
      | true =>
        rw [handleReceivedPacket_of_synchronizes synced] at shape
        rw [shape, flagsExact_synchronizeStatus_iff _ exactly]
        simp [Safe, accepted, synced]
      | false =>
        rw [handleReceivedPacket_of_refused accepted synced] at shape
        simp [Safe, accepted, synced, shape, exactly]
  | consume =>
    obtain ⟨delivery, rx, consumes, rfl⟩ := RxSystem.of_consume stepped
    exact flagsExact_consume_iff exactly consistent consumes

/-- Steps keep the buffer consistent as long as the size fields can count the packets. -/
theorem consistent_step {s t : RxSystem} {event : RxEvent} (consistent : s.rx.inBuffer.Consistent)
    (room : Room s event) (stepped : s.step event = some t) : t.rx.inBuffer.Consistent := by
  cases event with
  | openPort port =>
    obtain ⟨openPorts, rfl⟩ := RxSystem.openPorts_of_openPort stepped
    exact consistent
  | closePort port =>
    obtain ⟨openPorts, rfl⟩ := RxSystem.openPorts_of_closePort stepped
    exact consistent
  | receive packet =>
    obtain ⟨rx, shape, rfl⟩ := RxSystem.of_receive stepped
    cases accepted : s.rx.accepts packet with
    | true =>
      rw [handleReceivedPacket_of_accepts accepted] at shape
      have written := consistent.write s.rx.policy packet (room accepted)
      exact shape ▸ receiveData_consistent s.rx packet written
    | false =>
      cases synced : s.rx.synchronizes packet with
      | true =>
        rw [handleReceivedPacket_of_synchronizes synced] at shape
        exact shape ▸ consistent
      | false =>
        rw [handleReceivedPacket_of_refused accepted synced] at shape
        exact shape ▸ consistent
  | consume =>
    obtain ⟨delivery, rx, consumes, rfl⟩ := RxSystem.of_consume stepped
    exact consistent_of_getNextCompleteMessage consistent consumes

/-- Exact flags let a message be consumed. -/
theorem FlagsExact.available {rx : RxModule} (exactly : FlagsExact rx) (consistent : rx.inBuffer.Consistent) :
    Available rx := by
  refine ⟨exactly, ?_⟩
  rcases consume_cases exactly consistent with ⟨delivery, idle, fine, -⟩ | ⟨_, _, _, _, -, -, -, -, consumes, -⟩
  · exact ⟨delivery, rx, idle, fine⟩
  · exact ⟨_, _, consumes, (by decide : codeSuccess ≠ codeErrorInconsistentState)⟩

theorem flagsExact_started : FlagsExact RxSystem.started.rx := by
  intro port
  have unflagged : RxSystem.started.rx.availableMessages port = none := rfl
  have empty : RxSystem.started.rx.inBuffer.held port = [] := rfl
  simp [unflagged, empty, BeginsComplete.not_nil]

theorem invariant_of_safe {events : List RxEvent} {s : RxSystem}
    (run : Run RxSystem.step (fun s event => Safe s event ∧ Room s event) .started events s) :
    FlagsExact s.rx ∧ s.rx.inBuffer.Consistent := by
  have start : FlagsExact RxSystem.started.rx ∧ RxSystem.started.rx.inBuffer.Consistent :=
    ⟨flagsExact_started, Buffer.consistent_empty⟩
  refine Run.invariant (P := fun s => FlagsExact s.rx ∧ s.rx.inBuffer.Consistent) run ?_ start
  rintro s event t ⟨exactly, consistent⟩ ⟨safe, room⟩ stepped
  exact ⟨(flagsExact_step_iff exactly consistent stepped).mpr safe,
    consistent_step consistent room stepped⟩

theorem linked_of_empty {rx : RxModule} {packet : S3tpPacket} (empty : rx.inBuffer.held packet.getPort = []) :
    linked rx packet = [packet] := by simp [linked, Buffer.kept, empty]

/-- At the beginning of a window nothing is flushed. -/
theorem not_flushes_of_lt {rx : RxModule} {packet : S3tpPacket} (room : (rx.receivingWindow + 1).toNat < 128)
    (port : UInt8) : ¬ rx.Flushes packet port := fun flushes => Nat.not_le.mpr room flushes.1

/-- A message of one byte for port 5. -/
abbrev byteOnPort5 : S3tpPacket := fragmentOf 0 0 0 false

/-- The receiver has port 5 open and nothing in its queues. -/
structure Listening (rx : RxModule) : Prop where
  active : rx.active = true
  free : rx.rxMutexHeld = false
  isOpen : (rx.openPorts 5).isSome
  buffer : rx.inBuffer = .empty
  expected : rx.currentPortSequence 5 = 0
  unflagged : ∀ port, rx.availableMessages port = none
  room : (rx.receivingWindow + 1).toNat < 128

theorem listening_listeningOn5 : Listening listeningOn5.rx := ⟨rfl, rfl, rfl, rfl, rfl, fun _ => rfl, by decide⟩

/-- The message is in its queue and flagged. -/
structure HoldsByte (rx : RxModule) : Prop where
  active : rx.active = true
  free : rx.rxMutexHeld = false
  first : rx.availableMessages.begin? = some 5
  counted : (rx.inBuffer.queues 5).Counted
  held : rx.inBuffer.held 5 = [byteOnPort5]
  expected : rx.currentPortSequence 5 = 0

/-- The receiver takes the message. -/
theorem Listening.receiveData {rx : RxModule} (listening : Listening rx) : HoldsByte (rx.receiveData byteOnPort5) := by
  have empty (port : UInt8) : rx.inBuffer.held port = [] := by rw [listening.buffer, Buffer.held_empty]
  have found : linked rx byteOnPort5 = [byteOnPort5] := linked_of_empty (empty _)
  refine ⟨?_, ?_, ?_, ?_, ?_, ?_⟩
  · rw [receiveData_active]
    exact listening.active
  · rw [receiveData_frame]
    exact listening.free
  · rw [ByteMap.begin?_eq_some_iff]
    constructor
    · rw [flagged_receiveData, found, listening.expected]
      refine .inr ⟨rfl, ?_⟩
      simp [scanComplete]
    · intro port flagged
      rw [flagged_receiveData, listening.unflagged] at flagged
      obtain ⟨rfl, -⟩ := flagged.resolve_left (by simp)
      exact UInt8.le_refl _
  · have consistent : rx.inBuffer.Consistent := by
      rw [listening.buffer]
      exact Buffer.consistent_empty
    have written : (rx.writePacket byteOnPort5).inBuffer.Consistent := by
      apply consistent.write
      simp [Buffer.kept, empty]
    exact (receiveData_consistent rx byteOnPort5 written).counted 5
  · rw [held_receiveData, if_neg (not_flushes_of_lt listening.room 5), if_pos (fragmentOf_getPort ..).symm, found]
  · rw [receiveData_currentPortSequence]
    exact listening.expected

theorem HoldsByte.available {rx : RxModule} (holds : HoldsByte rx) : rx.isNewMessageAvailable = true := by
  rw [isNewMessageAvailable, ByteMap.isEmpty_eq_false_iff.mpr ⟨5, ByteMap.isSome_of_begin? holds.first⟩]
  rfl

/-! ## A packet that clears a complete message -/

/-- A first message arrives. -/
def holdingFirst : RxSystem where
  rx := listeningOn5.rx.receiveData (fragmentOf 0 0 0 false)
  received := [fragmentOf 0 0 0 false]

/-- The second message is 200 global sequence numbers ahead. -/
def clearedBySecond : RxSystem where
  rx := holdingFirst.rx.receiveData (fragmentOf 200 1 0 false)
  received := [fragmentOf 0 0 0 false, fragmentOf 200 1 0 false]

theorem held_listeningOn5 (port : UInt8) : listeningOn5.rx.inBuffer.held port = [] := rfl

theorem held_holdingFirst : holdingFirst.rx.inBuffer.held 5 = [fragmentOf 0 0 0 false] :=
  listening_listeningOn5.receiveData.held

theorem beginsComplete_singleton (globalSeq number : UInt8) :
    BeginsComplete number [fragmentOf globalSeq number 0 false] :=
  ⟨[_], [], rfl, .last (by simp) (by simp) (by simp)⟩

/-- A packet that is a message of its own scans as such. -/
theorem scanExact_singleton (globalSeq number : UInt8) : ScanExact number [fragmentOf globalSeq number 0 false] := by
  have found : scanComplete number 0 [fragmentOf globalSeq number 0 false] = true := by simp [scanComplete]
  exact scanExact_iff.mpr ⟨fun _ => beginsComplete_singleton globalSeq number, fun _ => found⟩

theorem run_holdingFirst : Run RxSystem.step (fun s event => Safe s event ∧ Room s event) .started
    [.openPort 5, .receive (fragmentOf 0 0 0 false)] holdingFirst := by
  obtain ⟨accepted, stepped⟩ := step_receive_listeningOn5 0 0 0 false
  have stays (port : UInt8) : ¬ listeningOn5.rx.Flushes (fragmentOf 0 0 0 false) port :=
    not_flushes_of_lt (by decide) port
  have unflagged (port : UInt8) : listeningOn5.rx.availableMessages port = none := rfl
  have safe : Safe listeningOn5 (.receive (fragmentOf 0 0 0 false)) := by
    constructor
    · intro _
      refine ⟨fun port _ flushes => absurd flushes (stays port), fun flushes => absurd flushes (stays _),
        fun _ flagged => by simp [unflagged] at flagged, fun _ _ => ?_⟩
      rw [linked_of_empty (held_listeningOn5 _)]
      exact scanExact_singleton 0 0
    · intro synced
      simp [accepts_eq_false_of_synchronizes synced] at accepted
  have room : Room listeningOn5 (.receive (fragmentOf 0 0 0 false)) := by
    intro _
    simp [Buffer.kept, held_listeningOn5]
  exact .cons ⟨trivial, trivial⟩ step_openPort (.cons ⟨safe, room⟩ stepped (.nil _))

end S3tp.Soundness
