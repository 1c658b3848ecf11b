import S3tp.Soundness.Availability
import S3tp.Soundness.OneByte

/-! # Packets that arrive twice

Nothing keeps a packet out of a queue that holds it already or that has been read past it. A copy is
put in front of its equal and behind whatever is ahead of it, and it is never taken out but as the
expected packet or with the whole queue. As long as it stays at the tail of its queue, no scan gets
to it and the window treats the queues alike, the module behaves as if it had not come. In front of
a packet that is still to be read it stops the scan for good.
-/

namespace S3tp.Soundness

open Model.Core Model.Core.RxModule Model.Concurrent Machine

/-- Every frame that arrives is an accepted data packet. -/
def AcceptsAll (s : RxSystem) : RxEvent → Prop
  | .receive packet => s.rx.accepts packet = true
  | _ => True

/-- The packet is one of the last 127 that arrived. -/
def Recent (s : RxSystem) (packet : S3tpPacket) : Prop :=
  packet ∈ s.received.drop (s.received.length - 127)

/-- The messages that calls of `getNextCompleteMessage` have returned. -/
def messagesReturned (s : RxSystem) : List Delivery :=
  s.delivered.filter fun delivery => delivery.error = codeSuccess

/-- The copy goes to the tail of its queue, behind packets that are ahead of it and its equals. It
completes nothing there and makes the window clear nothing. -/
structure Harmless (rx : RxModule) (copy : S3tpPacket) : Prop where
  behind : ∀ other ∈ rx.inBuffer.held copy.getPort, other = copy ∨ Buffer.ahead rx.policy other copy = true
  kept : rx.inBuffer.windowExceeded rx.policy copy = false
  unflushed : ∀ port, rx.inBuffer.held port ≠ [] → ¬ rx.Flushes copy port
  complete : (rx.writePacket copy).isCompleteMessageForPortAvailable copy.getPort =
    rx.isCompleteMessageForPortAvailable copy.getPort
  room : (rx.inBuffer.held copy.getPort).length + 1 < 2 ^ 16

/-- The two modules find the same queues complete. -/
def ScanAlike (rx rx' : RxModule) : Prop :=
  ∀ port, rx'.isCompleteMessageForPortAvailable port = rx.isCompleteMessageForPortAvailable port

/-- A packet does the same to the two modules: it is not put behind the copy, it completes its queue
in both or in neither, and it clears the same queues, except that it may clear the copy alone. -/
structure ReceiveAlike (rx rx' : RxModule) (copy packet : S3tpPacket) : Prop where
  before : packet.getPort = copy.getPort → rx'.inBuffer.held copy.getPort ≠ rx.inBuffer.held copy.getPort →
    Buffer.ahead rx.policy copy packet = false
  written : rx.inBuffer.held packet.getPort ≠ [] →
    rx'.inBuffer.windowExceeded rx'.policy packet = rx.inBuffer.windowExceeded rx.policy packet
  complete : (rx'.writePacket packet).isCompleteMessageForPortAvailable packet.getPort =
    (rx.writePacket packet).isCompleteMessageForPortAvailable packet.getPort
  flushed : ∀ port, (rx.writePacket packet).inBuffer.held port ≠ [] →
    (rx'.Flushes packet port ↔ rx.Flushes packet port)

/-- What the steps behind the copy need. -/
def Alike (copy : S3tpPacket) (pair : RxSystem × RxSystem) (event : RxEvent) : Prop :=
  ScanAlike pair.1.rx pair.2.rx ∧ Room pair.1 event ∧ Room pair.2 event ∧
    ∀ packet, event = .receive packet →
      pair.1.rx.accepts packet = true ∧ ReceiveAlike pair.1.rx pair.2.rx copy packet

/-! ## Complete queues are flagged -/

/-- Without sync frames, every port whose queue begins with a complete message is flagged. -/
def Announced (rx : RxModule) : Prop :=
  ∀ port, rx.isCompleteMessageForPortAvailable port = true → (rx.availableMessages port).isSome = true

theorem isComplete_writePacket (rx : RxModule) (packet : S3tpPacket) :
    (rx.writePacket packet).isCompleteMessageForPortAvailable packet.getPort =
      scanComplete (rx.currentPortSequence packet.getPort) 0 (linked rx packet) :=
  congrArg (scanComplete _ 0) (Buffer.held_write_self rx.inBuffer rx.policy packet)

theorem Announced.receiveData {rx : RxModule} (announced : Announced rx) (packet : S3tpPacket) :
    Announced (rx.receiveData packet) := by
  intro port complete
  rw [isCompleteMessageForPortAvailable_eq, receiveData_currentPortSequence, held_receiveData] at complete
  rw [flagged_receiveData]
  split at complete
  · exact absurd complete Bool.false_ne_true
  split at complete
  · next own => exact .inr ⟨own, complete⟩
  · exact .inl (announced port complete)

/-- A call that does not return a message for a flagged port keeps the module's mutex. -/
theorem held_of_assemble {rx rx' : RxModule} {port : UInt8} {data : List UInt8} {len : UInt16}
    {delivery : Delivery} (assembles : rx.assemble port data len = some (delivery, rx'))
    (failed : delivery.error ≠ codeSuccess) : rx'.rxMutexHeld = true := by
  fun_induction assemble rx port data len with
  | case1 => contradiction
  | case2 =>
    obtain ⟨-, rfl⟩ := Prod.mk.inj (Option.some.inj assembles)
    rfl
  | case3 =>
    obtain ⟨rfl, -⟩ := Prod.mk.inj (Option.some.inj assembles)
    exact absurd rfl failed
  | case4 rx data len pkt inBuffer popped expected after data' len' flagged ih => exact ih assembles

theorem isComplete_of_untouched {rx rx' : RxModule} {port : UInt8} (untouched : Untouched rx rx' port) :
    rx'.isCompleteMessageForPortAvailable port = rx.isCompleteMessageForPortAvailable port := by
  rw [isCompleteMessageForPortAvailable, untouched.expected, Buffer.getQueue, untouched.queue]
  rfl

theorem Announced.consume {rx rx' : RxModule} {delivery : Delivery} (announced : Announced rx)
    (consumes : rx.getNextCompleteMessage = some (delivery, rx')) (free : rx'.rxMutexHeld = false) :
    Announced rx' := by
  rcases getNextCompleteMessage_cases consumes with ⟨rfl, -, -⟩ | ⟨port, mid, -, first, assembles, rfl⟩
  · exact announced
  · have success : delivery.error = codeSuccess := by
      by_contra failed
      rw [if_neg failed, held_of_assemble assembles failed] at free
      exact Bool.false_ne_true free.symm
    rw [if_pos success] at consumes ⊢
    intro other complete
    rcases Classical.em (other = port) with rfl | different
    · rw [refreshAvailability_frame] at complete
      rw [flagged_refreshAvailability, if_pos rfl]
      exact complete
    · have turn : rx.availableMessages.begin? ≠ some other := fun same =>
        different (Option.some.inj (same.symm.trans first))
      obtain ⟨untouched, -⟩ := untouched_of_getNextCompleteMessage turn consumes
      rw [isComplete_of_untouched untouched] at complete
      rw [untouched.flag]
      exact announced other complete

/-- While frames are accepted data packets, flags keep up with the queues. -/
structure UpToDate (s : RxSystem) : Prop where
  consistent : s.rx.inBuffer.Consistent
  announced : s.rx.rxMutexHeld = false → Announced s.rx

theorem upToDate_started : UpToDate .started where
  consistent := Buffer.consistent_empty
  announced _ _ complete := absurd complete Bool.false_ne_true

theorem UpToDate.step {s t : RxSystem} {event : RxEvent} (upToDate : UpToDate s)
    (met : AcceptsAll s event ∧ Room s event) (stepped : s.step event = some t) : UpToDate t where
  consistent := consistent_step upToDate.consistent met.2 stepped
  announced free := by
    have announced := upToDate.announced (RxSystem.not_held_of_step stepped)
    cases event with
    | openPort port =>
      obtain ⟨openPorts, rfl⟩ := RxSystem.openPorts_of_openPort stepped
      exact announced
    | closePort port =>
      obtain ⟨openPorts, rfl⟩ := RxSystem.openPorts_of_closePort stepped
      exact announced
    | receive packet =>
      obtain ⟨rx, received, rfl⟩ := RxSystem.of_receive_data met.1 stepped
      have further := announced.receiveData packet
      rwa [← received] at further
    | consume =>
      obtain ⟨delivery, rx, consumes, rfl⟩ := RxSystem.of_consume stepped
      exact announced.consume consumes free

theorem upToDate_of_run {events : List RxEvent} {s : RxSystem}
    (run : Run RxSystem.step (fun s event => AcceptsAll s event ∧ Room s event) .started events s) : UpToDate s :=
  run.invariant (fun _ _ _ upToDate met stepped => upToDate.step met stepped) upToDate_started

/-! ## A queue with the copy at its tail -/

/-- The queues are the same, except that the copy may be at the tail of its own. -/
structure Trails (copy : S3tpPacket) (rx rx' : RxModule) : Prop where
  active : rx'.active = rx.active
  openPorts : rx'.openPorts = rx.openPorts
  expected : rx'.currentPortSequence = rx.currentPortSequence
  mutex : rx'.rxMutexHeld = rx.rxMutexHeld
  consistent : rx.inBuffer.Consistent ∧ rx'.inBuffer.Consistent
  held : ∀ port, rx'.inBuffer.held port = rx.inBuffer.held port ∨
    port = copy.getPort ∧ rx'.inBuffer.held port = rx.inBuffer.held port ++ [copy]

namespace Trails

variable {copy : S3tpPacket} {rx rx' : RxModule}

/-- Taking the head of a queue in both. -/
theorem take (trails : Trails copy rx rx') {port : UInt8} {packet : S3tpPacket} {inBuffer : Buffer}
    (popped : rx.inBuffer.getNextPacket rx.policy port = some (packet, inBuffer)) :
    ∃ inBuffer', rx'.inBuffer.getNextPacket rx'.policy port = some (packet, inBuffer') ∧
      Trails copy (rx.afterTaking port inBuffer) (rx'.afterTaking port inBuffer') := by
  obtain ⟨head, -, others, left⟩ := trails.consistent.1.popPacketInternal popped
  have valid : rx'.policy.isElementValid packet = true := rfl
  obtain ⟨rest, start, alike⟩ : ∃ rest, rx'.inBuffer.held port = packet :: rest ∧
      (rest = inBuffer.held port ∨ port = copy.getPort ∧ rest = inBuffer.held port ++ [copy]) := by
    rcases trails.held port with same | ⟨own, more⟩
    · exact ⟨_, same.trans head, .inl rfl⟩
    · exact ⟨_, more.trans (by rw [head]; rfl), .inr ⟨own, rfl⟩⟩
  obtain ⟨inBuffer', taken, -, -⟩ :=
    Buffer.popPacketInternal_isSome (trails.consistent.2.counted port) start valid
  obtain ⟨head', -, others', left'⟩ := trails.consistent.2.popPacketInternal taken
  refine ⟨inBuffer', taken, trails.active, trails.openPorts, ?_, trails.mutex, ⟨left, left'⟩, fun other => ?_⟩
  · simp only [afterTaking, trails.expected]
  · rcases Classical.em (other = port) with rfl | different
    · have same : inBuffer'.held other = rest := (List.cons.inj (head'.symm.trans start)).2
      rw [← same] at alike
      exact alike
    · have queue := trails.held other
      rw [← others other different, ← others' other different] at queue
      exact queue

/-- Both assemble the same message. -/
theorem of_assemble {port : UInt8} {data : List UInt8} {len : UInt16} {delivery : Delivery} {left : RxModule}
    (assembles : rx.assemble port data len = some (delivery, left)) : ∀ {rx' : RxModule}, Trails copy rx rx' →
    ∃ left', rx'.assemble port data len = some (delivery, left') ∧ Trails copy left left' := by
  fun_induction assemble rx port data len with
  | case1 => contradiction
  | case2 rx data len pkt inBuffer popped unexpected =>
    intro rx' trails
    obtain ⟨rfl, rfl⟩ := Prod.mk.inj (Option.some.inj assembles)
    obtain ⟨inBuffer', taken, further⟩ := trails.take popped
    rw [← trails.expected] at unexpected
    refine ⟨_, by rw [assemble_of_pop taken, if_pos unexpected], ?_⟩
    exact ⟨trails.active, trails.openPorts, trails.expected, rfl, further.consistent, further.held⟩
  | case3 rx data len pkt inBuffer popped expected after data' len' =>
    rename_i final
    intro rx' trails
    obtain ⟨rfl, rfl⟩ := Prod.mk.inj (Option.some.inj assembles)
    obtain ⟨inBuffer', taken, further⟩ := trails.take popped
    rw [← trails.expected] at expected
    exact ⟨_, by rw [assemble_of_pop taken, if_neg expected, if_pos final], further⟩
  | case4 rx data len pkt inBuffer popped expected after data' len' flagged =>
    rename_i ih
    intro rx' trails
    obtain ⟨inBuffer', taken, further⟩ := trails.take popped
    obtain ⟨left', assembles', trails'⟩ := ih assembles further
    rw [← trails.expected] at expected
    refine ⟨left', ?_, trails'⟩
    rw [assemble_of_pop taken, if_neg expected, if_neg flagged, assembles']

theorem ahead (trails : Trails copy rx rx') : Buffer.ahead rx'.policy = Buffer.ahead rx.policy := by
  have compare : rx'.policy.comparePriority = rx.policy.comparePriority :=
    congrArg comparePortSequence trails.expected
  funext ref new
  rw [Buffer.ahead, compare, Buffer.ahead]

/-- A queue with the copy at its tail takes the packet in front of the copy. -/
theorem insert_or {ahead : S3tpPacket → S3tpPacket → Bool} {packet : S3tpPacket} {port : UInt8}
    {queue queue' : List S3tpPacket} (held : queue' = queue ∨ port = copy.getPort ∧ queue' = queue ++ [copy])
    (before : port = copy.getPort → queue' ≠ queue → ahead copy packet = false) :
    queue'.insertFromTail ahead packet = queue.insertFromTail ahead packet ∨
      port = copy.getPort ∧ queue'.insertFromTail ahead packet = queue.insertFromTail ahead packet ++ [copy] := by
  rcases held with rfl | ⟨own, rfl⟩
  · exact .inl rfl
  · exact .inr ⟨own, List.insertFromTail_concat ahead packet queue (before own (by simp))⟩

/-- The packet goes to the same place in both. -/
theorem write (trails : Trails copy rx rx') {packet : S3tpPacket} (alike : ReceiveAlike rx rx' copy packet)
    (port : UInt8) : (rx'.writePacket packet).inBuffer.held port = (rx.writePacket packet).inBuffer.held port ∨
      port = copy.getPort ∧ (rx'.writePacket packet).inBuffer.held port =
        (rx.writePacket packet).inBuffer.held port ++ [copy] := by
  rcases Classical.em (port = packet.getPort) with rfl | other
  · simp only [writePacket, Buffer.held_write_self, Buffer.kept, trails.ahead]
    have queue := trails.held packet.getPort
    have before : packet.getPort = copy.getPort →
        rx'.inBuffer.held packet.getPort ≠ rx.inBuffer.held packet.getPort →
        Buffer.ahead rx.policy copy packet = false := by
      intro own differ
      exact alike.before own (own ▸ differ)
    have agree : (if rx.inBuffer.windowExceeded rx.policy packet then [] else rx.inBuffer.held packet.getPort) =
        if rx'.inBuffer.windowExceeded rx'.policy packet then [] else rx.inBuffer.held packet.getPort := by
      rcases Classical.em (rx.inBuffer.held packet.getPort = []) with empty | nonempty
      · simp [empty]
      · rw [alike.written nonempty]
    rw [agree]
    cases rx'.inBuffer.windowExceeded rx'.policy packet with
    | true => exact .inl rfl
    | false => exact insert_or queue before
  · simp only [writePacket, Buffer.held_write_of_ne _ _ other]
    exact trails.held port

/-- Receiving the packet leaves the copy at its tail, if it is not cleared. -/
theorem receiveData (trails : Trails copy rx rx') {packet : S3tpPacket} (alike : ReceiveAlike rx rx' copy packet)
    (room : (rx.inBuffer.kept rx.policy packet).length + 1 < 2 ^ 16)
    (room' : (rx'.inBuffer.kept rx'.policy packet).length + 1 < 2 ^ 16) :
    Trails copy (rx.receiveData packet) (rx'.receiveData packet) where
  active := by simpa using trails.active
  openPorts := by simpa using trails.openPorts
  expected := by simpa using trails.expected
  mutex := by simpa using trails.mutex
  consistent := ⟨receiveData_consistent rx packet (trails.consistent.1.write _ packet room),
    receiveData_consistent rx' packet (trails.consistent.2.write _ packet room')⟩
  held port := by
    have written := trails.write alike port
    rw [receiveData_held, receiveData_held]
    rcases Classical.em ((rx.writePacket packet).inBuffer.held port = []) with empty | nonempty
    · rw [empty, ite_self]
      split
      · exact .inl rfl
      · rw [empty] at written
        exact written
    · rw [if_congr (alike.flushed port nonempty) rfl rfl]
      split
      · exact .inl rfl
      · exact written

end Trails

/-! ## The two modules side by side -/

/-- The same ports are flagged. -/
def FlagAlike (rx rx' : RxModule) : Prop :=
  ∀ port, (rx'.availableMessages port).isSome = (rx.availableMessages port).isSome

variable {copy : S3tpPacket}

theorem flagAlike_receiveData {rx rx' : RxModule} (flags : FlagAlike rx rx') {packet : S3tpPacket}
    (complete : (rx'.writePacket packet).isCompleteMessageForPortAvailable packet.getPort =
      (rx.writePacket packet).isCompleteMessageForPortAvailable packet.getPort) :
    FlagAlike (rx.receiveData packet) (rx'.receiveData packet) := by
  intro port
  rw [isComplete_writePacket, isComplete_writePacket] at complete
  rw [Bool.eq_iff_iff, flagged_receiveData, flagged_receiveData, flags port]
  refine or_congr_right (and_congr_right ?_)
  rintro rfl
  rw [complete]

/-- Consuming returns the same from both, and refreshes the flag alike if the queues still scan alike. -/
theorem Trails.consume {rx rx' left : RxModule} {delivery : Delivery} (trails : Trails copy rx rx')
    (flags : FlagAlike rx rx') (consumes : rx.getNextCompleteMessage = some (delivery, left)) :
    ∃ left', rx'.getNextCompleteMessage = some (delivery, left') ∧ Trails copy left left' ∧
      (ScanAlike left left' → FlagAlike left left') := by
  simp only [getNextCompleteMessage] at consumes
  simp only [getNextCompleteMessage, trails.active, ByteMap.begin?_congr flags]
  split at consumes
  · next inactive =>
    obtain ⟨rfl, rfl⟩ := Prod.mk.inj (Option.some.inj consumes)
    exact ⟨rx', if_pos inactive, trails, fun _ => flags⟩
  next active =>
  rw [if_neg active]
  split at consumes
  · obtain ⟨rfl, rfl⟩ := Prod.mk.inj (Option.some.inj consumes)
    exact ⟨rx', rfl, trails, fun _ => flags⟩
  next port _ =>
  split at consumes
  · contradiction
  next answer mid assembles =>
  obtain ⟨mid', assembles', further⟩ := Trails.of_assemble assembles trails
  have kept : FlagAlike mid mid' := by
    rw [FlagAlike, availableMessages_of_assemble assembles, availableMessages_of_assemble assembles']
    exact flags
  simp only [assembles']
  split at consumes
  · next success =>
    obtain ⟨rfl, rfl⟩ := Prod.mk.inj (Option.some.inj consumes)
    refine ⟨mid'.refreshAvailability port, if_pos success, ?_, fun scan other => ?_⟩
    · rw [refreshAvailability_frame, refreshAvailability_frame]
      exact ⟨further.active, further.openPorts, further.expected, further.mutex, further.consistent, further.held⟩
    · rw [Bool.eq_iff_iff, flagged_refreshAvailability, flagged_refreshAvailability]
      split
      · have own := scan port
        rw [refreshAvailability_frame, refreshAvailability_frame] at own
        rw [← Bool.eq_iff_iff]
        exact own
      · rw [kept other]
  · next failed =>
    obtain ⟨rfl, rfl⟩ := Prod.mk.inj (Option.some.inj consumes)
    exact ⟨mid', if_neg failed, further, fun _ => kept⟩

/-- The runs with and without the copy. -/
structure Twins (copy : S3tpPacket) (s t : RxSystem) : Prop where
  trails : Trails copy s.rx t.rx
  flags : ScanAlike s.rx t.rx → FlagAlike s.rx t.rx
  delivered : t.delivered = s.delivered

theorem Twins.setOpenPorts {s t : RxSystem} (twins : Twins copy s t) (openPorts : ByteMap UInt8) :
    Twins copy { s with rx := { s.rx with openPorts } } { t with rx := { t.rx with openPorts } } := by
  have trails := twins.trails
  exact ⟨⟨trails.active, rfl, trails.expected, trails.mutex, trails.consistent, trails.held⟩, twins.flags,
    twins.delivered⟩

theorem Twins.step {s t s' t' : RxSystem} {event : RxEvent} (twins : Twins copy s t)
    (alike : Alike copy (s, t) event) (stepped : s.step event = some s') (stepped' : t.step event = some t') :
    Twins copy s' t' := by
  obtain ⟨scan, room, room', receives⟩ := alike
  have flags := twins.flags scan
  have trails := twins.trails
  cases event with
  | openPort port =>
    have opened : (t.rx.openPort port).2.openPorts = (s.rx.openPort port).2.openPorts := by
      rw [RxModule.openPort, RxModule.openPort, trails.active, trails.openPorts]
      repeat' split
      all_goals simp [trails.openPorts]
    rw [RxSystem.of_openPort stepped, RxSystem.of_openPort stepped', openPort_frame s.rx, openPort_frame t.rx, opened]
    exact twins.setOpenPorts _
  | closePort port =>
    have closed : (t.rx.closePort port).2.openPorts = (s.rx.closePort port).2.openPorts := by
      rw [RxModule.closePort, RxModule.closePort, trails.active, trails.openPorts]
      repeat' split
      all_goals simp [trails.openPorts]
    rw [RxSystem.of_closePort stepped, RxSystem.of_closePort stepped', closePort_frame s.rx, closePort_frame t.rx,
      closed]
    exact twins.setOpenPorts _
  | receive packet =>
    obtain ⟨accepted, alike⟩ := receives packet rfl
    have accepted' : t.rx.accepts packet = true := by
      rw [← accepted]
      simp only [RxModule.accepts, isPortOpen, trails.active, trails.openPorts]
    obtain ⟨rx, received, rfl⟩ := RxSystem.of_receive_data accepted stepped
    obtain ⟨rx', received', rfl⟩ := RxSystem.of_receive_data accepted' stepped'
    have further := trails.receiveData alike (room accepted) (room' accepted')
    have flagged := flagAlike_receiveData flags alike.complete
    rw [← received, ← received'] at further flagged
    exact ⟨further, fun _ => flagged, twins.delivered⟩
  | consume =>
    obtain ⟨delivery, rx, consumes, rfl⟩ := RxSystem.of_consume stepped
    obtain ⟨delivery', rx', consumes', rfl⟩ := RxSystem.of_consume stepped'
    obtain ⟨left', answers, further, flagged⟩ := trails.consume flags consumes
    obtain ⟨rfl, rfl⟩ := Prod.mk.inj (Option.some.inj (consumes'.symm.trans answers))
    exact ⟨further, flagged, congrArg (· ++ [delivery']) twins.delivered⟩

/-- A harmless copy goes to the tail of its queue. -/
theorem twins_of_harmless {s t : RxSystem} (upToDate : UpToDate s) (accepted : s.rx.accepts copy = true)
    (harmless : Harmless s.rx copy) (stepped : s.step (.receive copy) = some t) : Twins copy s t := by
  have free := RxSystem.not_held_of_step stepped
  obtain ⟨rx, received, rfl⟩ := RxSystem.of_receive_data accepted stepped
  have written (port : UInt8) : (s.rx.writePacket copy).inBuffer.held port = s.rx.inBuffer.held port ∨
      port = copy.getPort ∧
        (s.rx.writePacket copy).inBuffer.held port = s.rx.inBuffer.held port ++ [copy] := by
    rcases Classical.em (port = copy.getPort) with rfl | other
    · right
      rw [held_writePacket _ _ harmless.kept]
      exact ⟨rfl, List.insertFromTail_eq_append_of_forall _ _ harmless.behind⟩
    · rw [writePacket, Buffer.held_write_of_ne _ _ other]
      exact .inl rfl
  have room : (s.rx.inBuffer.kept s.rx.policy copy).length + 1 < 2 ^ 16 := by
    simpa [Buffer.kept, harmless.kept] using harmless.room
  refine ⟨⟨by simp [received], by simp [received], by simp [received], by simp [received], ⟨upToDate.consistent, ?_⟩,
    fun port => ?_⟩, fun _ port => ?_, rfl⟩
  · rw [received]
    exact receiveData_consistent s.rx copy (upToDate.consistent.write _ copy room)
  · simp only [received]
    rw [receiveData_held]
    split
    · next flushes =>
      left
      by_contra nonempty
      exact harmless.unflushed port (Ne.symm nonempty) flushes
    · exact written port
  · simp only [received]
    rw [Bool.eq_iff_iff, flagged_receiveData]
    constructor
    · rintro (flagged | ⟨rfl, complete⟩)
      · exact flagged
      · rw [← isComplete_writePacket, harmless.complete] at complete
        exact upToDate.announced free _ complete
    · exact .inl

/-- The next packet arrives. -/
def withNext (s : RxSystem) (packet : S3tpPacket) : RxSystem :=
  { s with rx := s.rx.receiveData packet, received := s.received ++ [packet] }

/-- The port is open and the module's mutex is free. -/
def Ready (s : RxSystem) : Prop := s.rx.active = true ∧ s.rx.isPortOpen 5 = true ∧ s.rx.rxMutexHeld = false

instance (s : RxSystem) : Decidable (Ready s) := inferInstanceAs (Decidable (_ ∧ _))

theorem step_withNext {s : RxSystem} (ready : Ready s) (globalSeq number index : UInt8) (more : Bool) :
    s.rx.accepts (fragmentOf globalSeq number index more) = true ∧
      s.step (.receive (fragmentOf globalSeq number index more)) =
        some (withNext s (fragmentOf globalSeq number index more)) := by
  have accepted := accepts_fragmentOf globalSeq number index more ready.1 ready.2.1
  exact ⟨accepted, RxSystem.step_receive ready.2.2 accepted⟩

/-- A message of one packet has arrived and has been returned. -/
def returnedOnce : RxSystem :=
  ((withNext listeningOn5 (fragmentOf 0 0 0 false)).step .consume).getD listeningOn5

theorem run_returnedOnce : Run RxSystem.step (fun s event => AcceptsAll s event ∧ Room s event) .started
    [.openPort 5, .receive (fragmentOf 0 0 0 false), .consume] returnedOnce := by
  obtain ⟨accepted, received⟩ := step_withNext (s := listeningOn5) (by decide +kernel) 0 0 0 false
  have returned : ((withNext listeningOn5 (fragmentOf 0 0 0 false)).step .consume).isSome = true := by
    decide +kernel
  obtain ⟨left, consumed⟩ := Option.isSome_iff_exists.mp returned
  have same : returnedOnce = left := by rw [returnedOnce, consumed, Option.getD_some]
  refine .cons ⟨trivial, trivial⟩ step_openPort (.cons ⟨accepted, fun _ => ?_⟩ received
    (.cons ⟨trivial, trivial⟩ (same ▸ consumed) (.nil _)))
  decide +kernel

/-- What is decided for every byte holds of every port. -/
theorem forall_port {P : UInt8 → Prop} [DecidablePred P] (all : ByteMap.bytes.all P = true) (port : UInt8) :
    P port := of_decide_eq_true (List.all_eq_true.mp all port (ByteMap.mem_bytes port))

theorem harmless_returnedOnce : Harmless returnedOnce.rx (fragmentOf 0 0 0 false) where
  behind := by decide +kernel
  kept := by decide +kernel
  unflushed := forall_port (by decide +kernel)
  complete := by decide +kernel
  room := by decide +kernel

/-- The first half of a message has arrived. -/
def firstHalf : RxSystem := withNext listeningOn5 (fragmentOf 0 0 0 true)

theorem run_firstHalf :
    Run RxSystem.step AcceptsAll .started [.openPort 5, .receive (fragmentOf 0 0 0 true)] firstHalf := by
  obtain ⟨accepted, received⟩ := step_withNext (s := listeningOn5) (by decide +kernel) 0 0 0 true
  exact .cons trivial step_openPort (.cons accepted received (.nil _))

/-- The second half arrives, and what is complete is consumed. -/
theorem exists_secondHalf {s : RxSystem} (ready : Ready s) (returned : List Delivery)
    (consumes : ((withNext s (fragmentOf 0 1 1 false)).step .consume).map
      (fun t => (t.rx.isNewMessageAvailable, messagesReturned t)) = some (false, returned)) :
    ∃ t, Run RxSystem.step AcceptsAll s [.receive (fragmentOf 0 1 1 false), .consume] t ∧
      t.rx.isNewMessageAvailable = false ∧ messagesReturned t = returned := by
  obtain ⟨accepted, received⟩ := step_withNext ready 0 1 1 false
  obtain ⟨t, consumed, shown⟩ := Option.map_eq_some_iff.mp consumes
  obtain ⟨silent, same⟩ := Prod.mk.inj shown
  exact ⟨t, .cons accepted received (.cons trivial consumed (.nil _)), silent, same⟩

end S3tp.Soundness
