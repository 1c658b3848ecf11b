import S3tp.Soundness.Availability
import S3tp.Soundness.Reordering

/-! # After a loss

A queue whose message never becomes complete is discarded in the end, by the next packet written to
it or by the next flush. Nothing moves the expected number of the port on: it stays at the packet
that was lost or discarded. What arrives later is scanned against that number, so that later
messages are returned if the first of their packets happens to carry it, and otherwise never.
-/

namespace S3tp.Soundness

open Model.Core Model.Core.RxModule Model.Concurrent Machine

/-- A valid data frame for the port. -/
def isDataFor (p : UInt8) (packet : S3tpPacket) : Bool :=
  packet.crcValid && packet.header.getMessageType == msgData && packet.getPort == p

/-- Receiving the packet discards the queue of port `p`, on being written or by the flush behind it.
No message of the port is complete. -/
structure Discards (rx : RxModule) (packet : S3tpPacket) (p : UInt8) : Prop where
  accepted : rx.accepts packet = true
  unflagged : (rx.availableMessages p).isSome = false
  discarded : (packet.getPort = p ∧ rx.inBuffer.windowExceeded rx.policy packet = true) ∨ rx.Flushes packet p
  written : rx.isCompleteMessageForPortAvailable p = false
  flushed : rx.Flushes packet p → (rx.writePacket packet).isCompleteMessageForPortAvailable p = false

/-- Whole messages of the port, numbered on from `n`. The packet that the discarding write has kept,
if any, is the first of them. -/
structure LaterMessages (p : UInt8) (n : ℕ) (messages : List (List S3tpPacket)) (kept : List S3tpPacket) : Prop where
  stream : MessageStream n messages
  data : ∀ packet ∈ messages.flatten, isDataFor p packet = true
  kept : kept <+: messages.flatten

/-- What has arrived for the port since the discard. -/
def arrivals (p : UInt8) (kept : List S3tpPacket) (s : RxSystem) : List S3tpPacket :=
  kept ++ s.received.filter (isDataFor p)

/-- The messages of the port arrive in order and without further loss. There is any other traffic. -/
def InOrder (p : UInt8) (messages : List (List S3tpPacket)) (kept : List S3tpPacket) (s : RxSystem) :
    RxEvent → Prop
  | .receive packet =>
      (isDataFor p packet = true → s.rx.accepts packet = true ∧ arrivals p kept s ++ [packet] <+: messages.flatten ∧
        s.rx.inBuffer.windowExceeded s.rx.policy packet = false) ∧
      (s.rx.accepts packet = true → ¬ s.rx.Flushes packet p)
  | _ => True

/-- A packet that finds the queue of the port empty carries the expected number, and no queue grows to
a turn. A sync frame does not change the expected number under a queue. -/
def Resumes (p : UInt8) (s : RxSystem) : RxEvent → Prop
  | .receive packet =>
      (isDataFor p packet = true → (s.rx.inBuffer.held p).length < 256 ∧
        (s.rx.inBuffer.held p = [] → packet.header.seqPort = s.rx.currentPortSequence p)) ∧
      (s.rx.synchronizes packet = true → s.rx.inBuffer.held p ≠ [] →
        (s.rx.synchronizeStatus (S3tpSync.ofBytes packet.payload)).currentPortSequence p =
          s.rx.currentPortSequence p)
  | _ => True

/-- The messages returned on the port. -/
def returnedOn (p : UInt8) (s : RxSystem) : List Delivery :=
  s.delivered.filter fun delivery => delivery.error = codeSuccess ∧ delivery.port = p

/-- The first messages have been returned. If all of the next one has arrived, its first number is the
expected one, and the next call that takes the port's turn returns it. -/
def Recovers (p : UInt8) (n : ℕ) (messages : List (List S3tpPacket)) (kept : List S3tpPacket)
    (s : RxSystem) : Prop :=
  ∃ consumed remaining, messages = consumed ++ remaining ∧ returnedOn p s = consumed.map (deliveryOf p) ∧
    ∀ message later, remaining = message :: later → (consumed ++ [message]).flatten <+: arrivals p kept s →
      s.rx.currentPortSequence p = UInt8.ofNat (n + consumed.flatten.length) ∧
      (s.rx.availableMessages p).isSome = true ∧
      (s.rx.availableMessages.begin? = some p → s.rx.rxMutexHeld = false →
        ∃ t, s.step .consume = some t ∧ t.delivered = s.delivered ++ [deliveryOf p message])

/-! ## The queue that starts over -/

/-- The packets that have arrived of the messages not yet returned are queued, and the port is flagged
exactly if they scan as complete. -/
structure Recovering (p : UInt8) (n : ℕ) (messages consumed remaining : List (List S3tpPacket))
    (kept : List S3tpPacket) (s : RxSystem) : Prop where
  split : messages = consumed ++ remaining
  active : s.rx.active = true
  arrived : arrivals p kept s = consumed.flatten ++ s.rx.inBuffer.held p
  queued : s.rx.inBuffer.held p <+: remaining.flatten
  expected : s.rx.inBuffer.held p ≠ [] → s.rx.currentPortSequence p = UInt8.ofNat (n + consumed.flatten.length)
  counted : (s.rx.inBuffer.queues p).Counted
  flagged : (s.rx.availableMessages p).isSome = true ↔
    scanComplete (s.rx.currentPortSequence p) 0 (s.rx.inBuffer.held p) = true
  returned : returnedOn p s = consumed.map (deliveryOf p)

/-- The first packets of a row of messages scan as complete when they contain the first message. -/
theorem scanComplete_iff_of_stream {n : ℕ} {c : UInt8} {remaining : List (List S3tpPacket)}
    {queue : List S3tpPacket} (stream : MessageStream n remaining) (straight : Straight n remaining)
    (queued : queue <+: remaining.flatten) (expected : queue ≠ [] → c = UInt8.ofNat n) :
    scanComplete c 0 queue = true ↔ ∃ message later, remaining = message :: later ∧ message <+: queue := by
  rcases List.eq_nil_or_concat queue with rfl | ⟨_, _, nonempty⟩
  · have nothing : scanComplete c 0 [] = false := rfl
    rw [nothing]
    constructor
    · exact fun contra => absurd contra Bool.false_ne_true
    · rintro ⟨message, later, rfl, whole⟩
      exact absurd (List.prefix_nil.mp whole) stream.1.ne_nil
  · have some : queue ≠ [] := by simp [nonempty]
    rw [expected some]
    cases remaining with
    | nil => exact absurd (List.prefix_nil.mp queued) some
    | cons message later =>
      rw [scanComplete_iff_whole stream.1 straight.1 (List.flatten_cons ▸ queued)]
      constructor
      · exact fun whole => ⟨message, later, rfl, whole⟩
      · rintro ⟨first, rest, same, whole⟩
        obtain ⟨rfl, rfl⟩ := List.cons.inj same
        exact whole

section Discard

variable {rx : RxModule} {packet : S3tpPacket} {p : UInt8}

theorem active_of_accepts (accepted : rx.accepts packet = true) : rx.active = true := by
  simp only [RxModule.accepts, Bool.and_eq_true] at accepted
  exact accepted.1.1.1

theorem isDataFor_of_accepts (accepted : rx.accepts packet = true) (own : packet.getPort = p) :
    isDataFor p packet = true := by
  simp only [RxModule.accepts, Bool.and_eq_true] at accepted
  simp [isDataFor, accepted.1.1.2, accepted.1.2, own]

/-- A discard leaves nothing in the queue but the packet that was written behind it. -/
theorem Discards.kept (discards : Discards rx packet p) : (rx.receiveData packet).inBuffer.held p = [] ∨
    (rx.receiveData packet).inBuffer.held p = [packet] := by
  rw [held_receiveData]
  rcases Classical.em (rx.Flushes packet p) with flushes | stays
  · exact .inl (if_pos flushes)
  · obtain ⟨rfl, exceeded⟩ := discards.discarded.resolve_right stays
    right
    rw [if_neg stays, if_pos rfl, linked, Buffer.kept, exceeded]
    rfl

theorem Discards.counted (discards : Discards rx packet p) :
    ((rx.receiveData packet).inBuffer.queues p).Counted := by
  rw [receiveData_queues]
  rcases Classical.em (rx.Flushes packet p) with flushes | stays
  · rw [if_pos flushes]
    exact PriorityQueue.counted_empty
  · obtain ⟨rfl, exceeded⟩ := discards.discarded.resolve_right stays
    rw [if_neg stays]
    exact Buffer.counted_write_of_exceeded exceeded

theorem Discards.flagged (discards : Discards rx packet p) :
    ((rx.receiveData packet).availableMessages p).isSome = true ↔
      scanComplete (rx.currentPortSequence p) 0 ((rx.receiveData packet).inBuffer.held p) = true := by
  rw [flagged_receiveData, discards.unflagged, held_receiveData]
  rcases Classical.em (rx.Flushes packet p) with flushes | stays
  · have nothing : scanComplete (rx.currentPortSequence p) 0 [] = false := rfl
    rw [if_pos flushes, nothing]
    constructor
    · rintro (contra | ⟨rfl, complete⟩)
      · exact contra
      · have incomplete := discards.flushed flushes
        rw [isCompleteMessageForPortAvailable, Buffer.getQueue, ← Buffer.held, writePacket,
          Buffer.held_write_self, ← linked] at incomplete
        exact incomplete.symm.trans complete
    · exact fun contra => absurd contra Bool.false_ne_true
  · obtain ⟨rfl, -⟩ := discards.discarded.resolve_right stays
    simp [stays]

end Discard

namespace Recovering

variable {p : UInt8} {n : ℕ} {messages consumed remaining : List (List S3tpPacket)} {kept : List S3tpPacket}
  {s t : RxSystem}

/-- Right behind the discard nothing has been returned. -/
theorem start {rx rx' : RxModule} {packet : S3tpPacket} (discards : Discards rx packet p)
    (received : rx' = rx.receiveData packet) (later : LaterMessages p n messages (rx'.inBuffer.held p))
    (resumes : ∀ first ∈ (rx'.inBuffer.held p).head?, first.header.seqPort = rx.currentPortSequence p) :
    Recovering p n messages [] messages (rx'.inBuffer.held p) { rx := rx' } where
  split := rfl
  active := by
    rw [received, receiveData_active]
    exact active_of_accepts discards.accepted
  arrived := by simp [arrivals]
  queued := later.kept
  expected nonempty := by
    have held : rx'.inBuffer.held p = [packet] := by
      rw [received] at nonempty ⊢
      exact discards.kept.resolve_left nonempty
    have first := resumes packet (by simp [held])
    have consecutive := later.stream.consecutive
    obtain ⟨rest, whole⟩ := later.kept
    rw [held, List.singleton_append] at whole
    rw [← whole, Consecutive.cons_iff] at consecutive
    have same : rx'.currentPortSequence = rx.currentPortSequence := by rw [received, receiveData_currentPortSequence]
    simp [same, ← first, consecutive.1]
  counted := by
    have counted := discards.counted
    rwa [← received] at counted
  flagged := by
    have flagged := discards.flagged
    have same : rx'.currentPortSequence = rx.currentPortSequence := by rw [received, receiveData_currentPortSequence]
    rwa [← received, ← same] at flagged
  returned := rfl

theorem stream (recovering : Recovering p n messages consumed remaining kept s)
    (later : LaterMessages p n messages kept) : MessageStream (n + consumed.flatten.length) remaining :=
  (Along.append_iff.mp (recovering.split ▸ later.stream)).2

theorem straight (recovering : Recovering p n messages consumed remaining kept s) (straight : Straight n messages) :
    Straight (n + consumed.flatten.length) remaining :=
  (Along.append_iff.mp (recovering.split ▸ straight)).2

theorem ported (recovering : Recovering p n messages consumed remaining kept s)
    (later : LaterMessages p n messages kept) {packet : S3tpPacket} (member : packet ∈ s.rx.inBuffer.held p) :
    packet.getPort = p := by
  have among : packet ∈ messages.flatten := by
    rw [recovering.split, List.flatten_append, List.mem_append]
    exact .inr (recovering.queued.subset member)
  have data := later.data packet among
  simp only [isDataFor, Bool.and_eq_true, beq_iff_eq] at data
  exact data.2

/-- The port is flagged exactly when all of the next message has arrived. -/
theorem flagged_iff (recovering : Recovering p n messages consumed remaining kept s)
    (later : LaterMessages p n messages kept) (straight : Straight n messages) :
    (s.rx.availableMessages p).isSome = true ↔
      ∃ message later, remaining = message :: later ∧ message <+: s.rx.inBuffer.held p := by
  rw [recovering.flagged]
  exact scanComplete_iff_of_stream (recovering.stream later) (recovering.straight straight) recovering.queued
    recovering.expected

/-- What leaves the port alone and returns nothing on it keeps the invariant. -/
theorem congr (recovering : Recovering p n messages consumed remaining kept s)
    (active : t.rx.active = s.rx.active) (untouched : Untouched s.rx t.rx p)
    (arrived : t.received.filter (isDataFor p) = s.received.filter (isDataFor p))
    (returned : returnedOn p t = returnedOn p s) : Recovering p n messages consumed remaining kept t := by
  have held : t.rx.inBuffer.held p = s.rx.inBuffer.held p := congrArg PriorityQueue.nodes untouched.queue
  refine ⟨recovering.split, active.trans recovering.active, ?_, ?_, ?_, ?_, ?_, ?_⟩
  · rw [arrivals, arrived, held]
    exact recovering.arrived
  · rw [held]
    exact recovering.queued
  · rw [held, untouched.expected]
    exact recovering.expected
  · rw [untouched.queue]
    exact recovering.counted
  · rw [untouched.flag, untouched.expected, held]
    exact recovering.flagged
  · rw [returned]
    exact recovering.returned

/-- The next packet of the port goes to the tail of its queue. -/
theorem receive (recovering : Recovering p n messages consumed remaining kept s)
    (later : LaterMessages p n messages kept) (straight : Straight n messages) {packet : S3tpPacket}
    (data : isDataFor p packet = true)
    (next : arrivals p kept s ++ [packet] <+: messages.flatten)
    (inside : s.rx.inBuffer.windowExceeded s.rx.policy packet = false) (stays : ¬ s.rx.Flushes packet p)
    (short : (s.rx.inBuffer.held p).length < 256)
    (resumes : s.rx.inBuffer.held p = [] → packet.header.seqPort = s.rx.currentPortSequence p)
    {rx : RxModule} (received : rx = s.rx.receiveData packet) :
    Recovering p n messages consumed remaining kept { s with rx, received := s.received ++ [packet] } := by
  have own : packet.getPort = p := by
    simp only [isDataFor, Bool.and_eq_true, beq_iff_eq] at data
    exact data.2
  have queued : s.rx.inBuffer.held p ++ [packet] <+: remaining.flatten := by
    rw [recovering.arrived, recovering.split, List.flatten_append, List.append_assoc] at next
    exact (List.prefix_append_right_inj _).mp next
  have consecutive : Consecutive (n + consumed.flatten.length) (s.rx.inBuffer.held p ++ [packet]) := by
    obtain ⟨rest, whole⟩ := queued
    have all := (recovering.stream later).consecutive
    rw [← whole, Consecutive.append_iff] at all
    exact all.1
  have expected : s.rx.currentPortSequence p = UInt8.ofNat (n + consumed.flatten.length) := by
    rcases Classical.em (s.rx.inBuffer.held p = []) with empty | nonempty
    · rw [empty, List.nil_append, Consecutive.singleton_iff] at consecutive
      rw [← resumes empty, consecutive]
    · exact recovering.expected nonempty
  have compare : s.rx.policy.comparePriority = comparePortSequence s.rx.currentPortSequence := rfl
  have written : linked s.rx packet = s.rx.inBuffer.held p ++ [packet] := by
    rw [linked, Buffer.kept, inside, own]
    exact insertFromTail_next compare expected (fun _ => recovering.ported later) consecutive short
  have held : rx.inBuffer.held p = s.rx.inBuffer.held p ++ [packet] := by
    rw [received, held_receiveData, if_neg stays, if_pos own.symm, written]
  have same : rx.currentPortSequence = s.rx.currentPortSequence := by rw [received, receiveData_currentPortSequence]
  refine ⟨recovering.split, ?_, ?_, ?_, ?_, ?_, ?_, recovering.returned⟩
  · rw [received, receiveData_active]
    exact recovering.active
  · rw [arrivals, List.filter_append, ← List.append_assoc, ← arrivals, recovering.arrived, held]
    simp [data]
  · rw [held]
    exact queued
  · intro _
    rw [same]
    exact expected
  · rw [received, receiveData_queues, if_neg stays, ← own]
    refine Buffer.counted_write (own ▸ recovering.counted) ?_
    rw [Buffer.kept, inside, own]
    simp only [Bool.false_eq_true, if_false]
    omega
  · rw [held, same, received, flagged_receiveData, written, recovering.flagged]
    constructor
    · rintro (before | ⟨-, complete⟩)
      · -- A message that was complete is still there.
        have rows {queue : List S3tpPacket} (part : queue <+: remaining.flatten) :=
          scanComplete_iff_of_stream (recovering.stream later) (recovering.straight straight) part fun _ => expected
        obtain ⟨message, more, same, whole⟩ := (rows recovering.queued).mp before
        exact (rows queued).mpr ⟨message, more, same, whole.trans (List.prefix_append _ _)⟩
      · exact complete
    · exact fun complete => .inr ⟨own.symm, complete⟩

/-- A sync frame may set the expected number while the queue is empty. -/
theorem synchronize (recovering : Recovering p n messages consumed remaining kept s) {packet : S3tpPacket}
    (refused : isDataFor p packet = false) {sync : S3tpSync}
    (keeps : s.rx.inBuffer.held p ≠ [] →
      (s.rx.synchronizeStatus sync).currentPortSequence p = s.rx.currentPortSequence p) :
    Recovering p n messages consumed remaining kept
      { s with rx := s.rx.synchronizeStatus sync, received := s.received ++ [packet] } := by
  have received : (s.received ++ [packet]).filter (isDataFor p) = s.received.filter (isDataFor p) := by
    simp [refused]
  rcases Classical.em (s.rx.inBuffer.held p = []) with empty | nonempty
  · have arrived : arrivals p kept s = consumed.flatten ++ s.rx.inBuffer.held p := recovering.arrived
    refine ⟨recovering.split, recovering.active, ?_, recovering.queued, fun some => absurd empty some,
      recovering.counted, ?_, recovering.returned⟩
    · rw [arrivals, received]
      exact arrived
    · have flagged := recovering.flagged
      rw [empty] at flagged
      have held : (s.rx.synchronizeStatus sync).inBuffer.held p = [] := empty
      rw [held]
      exact flagged
  · exact recovering.congr rfl ⟨rfl, keeps nonempty, rfl⟩ received rfl

/-- The port's turn: the next message is returned. -/
theorem consume (recovering : Recovering p n messages consumed remaining kept s)
    (later : LaterMessages p n messages kept) (straight : Straight n messages)
    (turn : s.rx.availableMessages.begin? = some p) :
    ∃ message rest rx, remaining = message :: rest ∧
      s.rx.getNextCompleteMessage = some (deliveryOf p message, rx) ∧
      Recovering p n messages (consumed ++ [message]) rest kept
        { s with rx, delivered := s.delivered ++ [deliveryOf p message] } ∧
      rx.currentPortSequence p = UInt8.ofNat (n + (consumed ++ [message]).flatten.length) := by
  obtain ⟨message, rest, rfl, whole⟩ :=
    (recovering.flagged_iff later straight).mp (ByteMap.isSome_of_begin? turn)
  obtain ⟨isMessage, restStream⟩ := recovering.stream later
  obtain ⟨queue, held⟩ := whole
  have nonempty : s.rx.inBuffer.held p ≠ [] := by
    rw [← held]
    simp [isMessage.ne_nil]
  have expected := recovering.expected nonempty
  obtain ⟨rx', answers, taken⟩ := getNextCompleteMessage_of_message recovering.active turn recovering.counted
    held.symm (expected ▸ isMessage)
  have frame := rx'.refreshAvailability_frame p
  have left : rx'.inBuffer.held p = queue := by rw [taken.held, ← held, List.drop_left]
  have flattened : (consumed ++ [message]).flatten = consumed.flatten ++ message := by simp
  have moved : rx'.currentPortSequence p = UInt8.ofNat (n + (consumed ++ [message]).flatten.length) := by
    rw [taken.current, Function.update_self, expected, ← UInt8.ofNat_add, flattened, List.length_append,
      Nat.add_assoc]
  refine ⟨message, rest, _, rfl, answers, ?_, frame ▸ moved⟩
  refine ⟨by rw [recovering.split, List.append_assoc]; rfl, ?_, ?_, ?_, ?_, ?_, ?_, ?_⟩
  · rw [frame, taken.frame]
    exact recovering.active
  · have arrived : arrivals p kept s = consumed.flatten ++ s.rx.inBuffer.held p := recovering.arrived
    rw [frame, left, flattened, List.append_assoc, held]
    exact arrived
  · have queued := recovering.queued
    rw [← held, List.flatten_cons, List.prefix_append_right_inj] at queued
    rw [frame, left]
    exact queued
  · intro _
    rw [frame]
    exact moved
  · rw [frame]
    exact taken.counted
  · rw [flagged_refreshAvailability, if_pos rfl, frame]
  · have success : deliveryOf p message ∈ [deliveryOf p message] := List.mem_singleton_self _
    rw [returnedOn, List.filter_append, ← returnedOn, recovering.returned, List.map_append]
    simp [deliveryOf]

/-- Every step that meets the conditions keeps the invariant, and may return the next message. Without
a sync frame the expected number goes on with the messages. -/
theorem step (recovering : Recovering p n messages consumed remaining kept s)
    (later : LaterMessages p n messages kept) (straight : Straight n messages) {event : RxEvent}
    (met : InOrder p messages kept s event ∧ Resumes p s event) (stepped : s.step event = some t) :
    ∃ consumed' remaining', Recovering p n messages consumed' remaining' kept t ∧
      ((∀ packet, event = .receive packet → s.rx.synchronizes packet = false) →
        s.rx.currentPortSequence p = UInt8.ofNat (n + consumed.flatten.length) →
        t.rx.currentPortSequence p = UInt8.ofNat (n + consumed'.flatten.length)) := by
  cases event with
  | openPort port =>
    obtain ⟨openPorts, rfl⟩ := RxSystem.openPorts_of_openPort stepped
    exact ⟨_, _, recovering.congr rfl ⟨rfl, rfl, rfl⟩ rfl rfl, fun _ same => same⟩
  | closePort port =>
    obtain ⟨openPorts, rfl⟩ := RxSystem.openPorts_of_closePort stepped
    exact ⟨_, _, recovering.congr rfl ⟨rfl, rfl, rfl⟩ rfl rfl, fun _ same => same⟩
  | receive packet =>
    obtain ⟨⟨arrives, stays⟩, resumes, synchronizes⟩ := met
    cases accepted : s.rx.accepts packet with
    | true =>
      obtain ⟨rx, received, rfl⟩ := RxSystem.of_receive_data accepted stepped
      have unmoved : rx.currentPortSequence = s.rx.currentPortSequence := by
        rw [received, receiveData_currentPortSequence]
      rcases Classical.em (packet.getPort = p) with own | other
      · have data := isDataFor_of_accepts accepted own
        obtain ⟨-, next, inside⟩ := arrives data
        obtain ⟨short, continues⟩ := resumes data
        exact ⟨_, _, recovering.receive later straight data next inside (stays accepted) short continues received,
          fun _ same => (congrFun unmoved p).trans same⟩
      · have untouched := untouched_receiveData s.rx packet (Ne.symm other) (stays accepted)
        rw [← received] at untouched
        have active : rx.active = s.rx.active := by rw [received, receiveData_active]
        have refused : isDataFor p packet = false := by simp [isDataFor, other]
        exact ⟨_, _, recovering.congr active untouched (by simp [refused]) rfl,
          fun _ same => (congrFun unmoved p).trans same⟩
    | false =>
      have refused : isDataFor p packet = false := by
        by_contra data
        exact Bool.false_ne_true (accepted.symm.trans (arrives (by simpa using data)).1)
      obtain ⟨rx, received, rfl⟩ := RxSystem.of_receive stepped
      cases synced : s.rx.synchronizes packet with
      | true =>
        rw [handleReceivedPacket_of_synchronizes synced] at received
        subst received
        exact ⟨_, _, recovering.synchronize refused (synchronizes synced),
          fun unsynced => absurd (synced.symm.trans (unsynced packet rfl)) Bool.true_eq_false.mp⟩
      | false =>
        rw [handleReceivedPacket_of_refused accepted synced] at received
        subst received
        exact ⟨_, _, recovering.congr rfl (.refl _ _) (by simp [refused]) rfl, fun _ same => same⟩
  | consume =>
    obtain ⟨delivery, rx, consumes, rfl⟩ := RxSystem.of_consume stepped
    rcases Classical.em (s.rx.availableMessages.begin? = some p) with turn | elsewhere
    · obtain ⟨message, rest, rx', rfl, answers, further, moved⟩ := recovering.consume later straight turn
      obtain ⟨rfl, rfl⟩ := Prod.mk.inj (Option.some.inj (consumes.symm.trans answers))
      exact ⟨_, _, further, fun _ _ => moved⟩
    · obtain ⟨untouched, other⟩ := untouched_of_getNextCompleteMessage elsewhere consumes
      have active : rx.active = s.rx.active := by rw [(drains_of_getNextCompleteMessage consumes).frame]
      refine ⟨consumed, remaining, recovering.congr active untouched rfl ?_,
        fun _ same => untouched.expected.trans same⟩
      rw [returnedOn, List.filter_append, ← returnedOn]
      simpa using other

theorem recovers (recovering : Recovering p n messages consumed remaining kept s)
    (later : LaterMessages p n messages kept) (straight : Straight n messages) : Recovers p n messages kept s := by
  refine ⟨consumed, remaining, recovering.split, recovering.returned, ?_⟩
  rintro message rest rfl whole
  rw [recovering.arrived, List.flatten_append, List.prefix_append_right_inj] at whole
  have inQueue : message <+: s.rx.inBuffer.held p := by simpa using whole
  have nonempty : s.rx.inBuffer.held p ≠ [] := by
    rintro empty
    rw [empty] at inQueue
    exact (recovering.stream later).1.ne_nil (List.prefix_nil.mp inQueue)
  refine ⟨recovering.expected nonempty, (recovering.flagged_iff later straight).mpr ⟨message, rest, rfl, inQueue⟩,
    fun turn free => ?_⟩
  obtain ⟨first, others, rx, same, answers, -, -⟩ := recovering.consume later straight turn
  obtain ⟨rfl, rfl⟩ := List.cons.inj same
  exact ⟨_, by rw [RxSystem.step, if_neg (by simp [free]), answers]; rfl, rfl⟩

end Recovering

/-- No packet for the port carries number `c`, and no sync frame changes the expected number. -/
def Misses (p c : UInt8) (s : RxSystem) : RxEvent → Prop
  | .receive packet => (isDataFor p packet = true → packet.header.seqPort ≠ c) ∧
      (s.rx.synchronizes packet = true →
        (s.rx.synchronizeStatus (S3tpSync.ofBytes packet.payload)).currentPortSequence p = c)
  | _ => True

/-- The port expects number `c`, which no packet in its queue carries. -/
structure Wedged (p c : UInt8) (s : RxSystem) : Prop where
  expected : s.rx.currentPortSequence p = c
  missing : ∀ packet ∈ s.rx.inBuffer.held p, packet.header.seqPort ≠ c
  unflagged : (s.rx.availableMessages p).isSome = false
  returned : returnedOn p s = []

/-- The scan ends at a head with another number. -/
theorem scanComplete_of_missing {c : UInt8} {queue : List S3tpPacket}
    (missing : ∀ packet ∈ queue, packet.header.seqPort ≠ c) : scanComplete c 0 queue = false := by
  cases queue with
  | nil => rfl
  | cons head rest =>
    have other : head.header.seqPort.toNat ≠ c.toNat + (0 : UInt8).toNat := fun same =>
      missing head (List.mem_cons_self ..) (UInt8.toNat_inj.mp same)
    rw [scanComplete, if_pos other]

namespace Wedged

variable {p c : UInt8} {s t : RxSystem}

theorem congr (wedged : Wedged p c s) (untouched : Untouched s.rx t.rx p)
    (returned : returnedOn p t = returnedOn p s) : Wedged p c t where
  expected := untouched.expected.trans wedged.expected
  missing packet member := by
    apply wedged.missing packet
    rw [Buffer.held, ← untouched.queue]
    exact member
  unflagged := by
    rw [untouched.flag]
    exact wedged.unflagged
  returned := returned.trans wedged.returned

theorem receive (wedged : Wedged p c s) {packet : S3tpPacket}
    (misses : packet.getPort = p → packet.header.seqPort ≠ c) {rx : RxModule}
    (received : rx = s.rx.receiveData packet) :
    Wedged p c { s with rx, received := s.received ++ [packet] } := by
  have missing (own : packet.getPort = p) : ∀ other ∈ linked s.rx packet, other.header.seqPort ≠ c := by
    intro other member
    rw [linked, List.mem_insertFromTail, Buffer.kept] at member
    rcases member with rfl | member
    · exact misses own
    · split at member
      · exact absurd member List.not_mem_nil
      · exact wedged.missing other (own ▸ member)
  refine ⟨?_, ?_, ?_, wedged.returned⟩
  · rw [received, receiveData_currentPortSequence]
    exact wedged.expected
  · intro other (member : other ∈ rx.inBuffer.held p)
    rw [received, held_receiveData] at member
    split at member
    · exact absurd member List.not_mem_nil
    split at member
    · next own => exact missing own.symm other member
    · exact wedged.missing other member
  · rw [← Bool.not_eq_true, received, flagged_receiveData, wedged.unflagged, wedged.expected]
    rintro (contra | ⟨own, complete⟩)
    · exact Bool.false_ne_true contra
    · exact Bool.false_ne_true ((scanComplete_of_missing (missing own.symm)).symm.trans complete)

/-- Whatever happens, short of a packet or a sync frame with the missing number, the port stays as it
is. -/
theorem step (wedged : Wedged p c s) {event : RxEvent} (misses : Misses p c s event)
    (stepped : s.step event = some t) : Wedged p c t := by
  cases event with
  | openPort port =>
    obtain ⟨openPorts, rfl⟩ := RxSystem.openPorts_of_openPort stepped
    exact wedged.congr ⟨rfl, rfl, rfl⟩ rfl
  | closePort port =>
    obtain ⟨openPorts, rfl⟩ := RxSystem.openPorts_of_closePort stepped
    exact wedged.congr ⟨rfl, rfl, rfl⟩ rfl
  | receive packet =>
    cases accepted : s.rx.accepts packet with
    | true =>
      obtain ⟨rx, received, rfl⟩ := RxSystem.of_receive_data accepted stepped
      exact wedged.receive (fun own => misses.1 (isDataFor_of_accepts accepted own)) received
    | false =>
      obtain ⟨rx, received, rfl⟩ := RxSystem.of_receive stepped
      cases synced : s.rx.synchronizes packet with
      | true =>
        rw [handleReceivedPacket_of_synchronizes synced] at received
        subst received
        exact ⟨misses.2 synced, wedged.missing, wedged.unflagged, wedged.returned⟩
      | false =>
        rw [handleReceivedPacket_of_refused accepted synced] at received
        subst received
        exact wedged.congr (.refl _ _) rfl
  | consume =>
    obtain ⟨delivery, rx, consumes, rfl⟩ := RxSystem.of_consume stepped
    have turn : s.rx.availableMessages.begin? ≠ some p := by
      intro first
      exact Bool.false_ne_true (wedged.unflagged.symm.trans (ByteMap.isSome_of_begin? first))
    obtain ⟨untouched, other⟩ := untouched_of_getNextCompleteMessage turn consumes
    refine wedged.congr untouched ?_
    rw [returnedOn, List.filter_append, ← returnedOn]
    simpa using other

theorem run (wedged : Wedged p c s) {events : List RxEvent}
    (run : Run RxSystem.step (Misses p c) s events t) : Wedged p c t :=
  run.invariant (fun _ _ _ wedged misses stepped => wedged.step misses stepped) wedged

/-- Not even a message all of whose packets have arrived is returned. -/
theorem nothing_returned (wedged : Wedged p c s) {n : ℕ} {message : List S3tpPacket}
    {later : List (List S3tpPacket)} {kept : List S3tpPacket} (arrived : message <+: arrivals p kept s) :
    ¬ Recovers p n (message :: later) kept s := by
  rintro ⟨consumed, remaining, split, returned, next⟩
  rw [wedged.returned] at returned
  obtain rfl := List.map_eq_nil_iff.mp returned.symm
  obtain ⟨-, flagged, -⟩ := next message later split.symm (by simpa using arrived)
  exact Bool.false_ne_true (wedged.unflagged.symm.trans flagged)

end Wedged

/-! ## One packet lost -/

/-- Packet 0 has been lost, packet 1 is queued. -/
def withoutFirst : RxSystem where
  rx := listeningOn5.rx.receiveData (fragmentOf 0 1 0 false)
  received := [fragmentOf 0 1 0 false]

theorem run_withoutFirst : Run RxSystem.step Always .started
    [.openPort 5, .receive (fragmentOf 0 1 0 false)] withoutFirst :=
  .cons trivial step_openPort (.cons trivial (step_receive_listeningOn5 0 1 0 false).2 (.nil _))

/-- The next packet of the port comes 200 messages later. It discards the queue and takes its place. -/
def restarted (number : UInt8) : RxSystem where
  rx := withoutFirst.rx.receiveData (fragmentOf 200 number 0 false)
  received := [fragmentOf 0 1 0 false, fragmentOf 200 number 0 false]

theorem discards_withoutFirst {number : UInt8} (either : number = 0 ∨ number = 2) :
    Discards withoutFirst.rx (fragmentOf 200 number 0 false) 5 := by
  have exceeded : withoutFirst.rx.inBuffer.windowExceeded withoutFirst.rx.policy (fragmentOf 200 number 0 false) =
      true ∧ ¬ withoutFirst.rx.Flushes (fragmentOf 200 number 0 false) 5 := by
    rcases either with rfl | rfl <;> decide +kernel
  refine ⟨accepts_fragmentOf _ _ _ _ (by decide +kernel) (by decide +kernel), by decide +kernel,
    .inl ⟨fragmentOf_getPort _ _ _ _, exceeded.1⟩, by decide +kernel, fun flushes => absurd flushes exceeded.2⟩

theorem step_restarted (number : UInt8) : withoutFirst.step (.receive (fragmentOf 200 number 0 false)) =
    some (restarted number) := by
  have free : withoutFirst.rx.rxMutexHeld = false := by decide +kernel
  exact RxSystem.step_receive free
    (accepts_fragmentOf 200 number 0 false (by decide +kernel) (by decide +kernel))

/-- Two messages of one packet each, the first of which is left in the queue. -/
def nextTwo (number : UInt8) : List (List S3tpPacket) :=
  [[fragmentOf 200 number 0 false], [fragmentOf 201 (number + 1) 0 false]]

theorem held_restarted {number : UInt8} (either : number = 0 ∨ number = 2) :
    (restarted number).rx.inBuffer.held 5 = [fragmentOf 200 number 0 false] := by
  rcases either with rfl | rfl <;> decide +kernel

theorem laterMessages_nextTwo {number : UInt8} {n : ℕ} (numbered : UInt8.ofNat n = number) :
    LaterMessages 5 n (nextTwo number) [fragmentOf 200 number 0 false] where
  stream := by
    have next : UInt8.ofNat (n + 1) = number + 1 := by rw [UInt8.ofNat_succ, numbered]
    refine ⟨.last ?_ (by simp) (by simp), .last ?_ (by simp) (by simp), trivial⟩
    · simp [numbered]
    · simp [next]
  data packet member := by
    simp only [nextTwo, List.flatten_cons, List.flatten_nil, List.append_nil, List.mem_append,
      List.mem_singleton] at member
    rcases member with rfl | rfl <;> simp [isDataFor]
  kept := List.prefix_append _ _

theorem inOrder_nextTwo {number : UInt8} (either : number = 0 ∨ number = 2) :
    InOrder 5 (nextTwo number) [fragmentOf 200 number 0 false] { rx := (restarted number).rx }
      (.receive (fragmentOf 201 (number + 1) 0 false)) := by
  have accepted : (restarted number).rx.accepts (fragmentOf 201 (number + 1) 0 false) = true := by
    rcases either with rfl | rfl <;> exact accepts_fragmentOf _ _ _ _ (by decide +kernel) (by decide +kernel)
  have stays : (restarted number).rx.inBuffer.windowExceeded (restarted number).rx.policy
      (fragmentOf 201 (number + 1) 0 false) = false ∧
      ¬ (restarted number).rx.Flushes (fragmentOf 201 (number + 1) 0 false) 5 := by
    rcases either with rfl | rfl <;> decide +kernel
  simp only [InOrder, accepted, stays, not_false_eq_true, and_true, true_and, implies_true]
  intro _
  simp [arrivals, nextTwo]

theorem not_synchronizes_fragmentOf (rx : RxModule) (globalSeq number index : UInt8) (more : Bool) :
    ¬ rx.synchronizes (fragmentOf globalSeq number index more) = true := by
  have notSync : msgData ≠ msgSync := by decide
  simp [synchronizes, notSync]

end S3tp.Soundness
