import S3tp.Soundness.Sending

/-! # From one instance to another

What is returned for a port are messages of the payloads accepted on it, in order, and all of them once
nothing is queued, on its way or left to be returned. That holds in runs in which no queue grows to a turn
of the sequence numbers, no message crosses from 255 to 0 and the receiver clears no queue. The byte strings
are those accepted if no payload needs a third packet.
-/

namespace S3tp.Soundness

open Model.Core Model.Core.RxModule Model.Concurrent Machine

/-! ## What the receiver has got -/

/-- The packets received for the port are those of the messages consumed and those in its queue, and the
number expected next is that behind the former. -/
def Receiving (p : UInt8) (messages : List (List S3tpPacket)) (r : RxSystem) : Prop :=
  ∃ consumed remaining, Recovering p 0 messages consumed remaining [] r ∧
    r.rx.currentPortSequence p = UInt8.ofNat consumed.flatten.length

namespace Receiving

variable {p : UInt8} {messages : List (List S3tpPacket)} {link : List S3tpPacket} {r r' : RxSystem}

theorem started (p : UInt8) (messages : List (List S3tpPacket)) : Receiving p messages .started := by
  refine ⟨[], messages, ⟨rfl, rfl, rfl, List.nil_prefix, fun some => absurd rfl some, PriorityQueue.counted_empty,
    ?_, rfl⟩, rfl⟩
  constructor
  · exact fun contra => absurd contra Bool.false_ne_true
  · exact fun contra => absurd contra Bool.false_ne_true

/-- Frames that arrive in sequence are in order for the port, and find its queue going on. -/
theorem met {consumed remaining : List (List S3tpPacket)} (recovering : Recovering p 0 messages consumed remaining [] r)
    (expected : r.rx.currentPortSequence p = UInt8.ofNat consumed.flatten.length)
    (later : LaterMessages p 0 messages []) (sent : link.filter (isDataFor p) <+: messages.flatten)
    {event : RxEvent} (inSequence : InSequence link r event) :
    InOrder p messages [] r event ∧ Resumes p r event ∧
      ∀ packet, event = .receive packet → r.rx.synchronizes packet = false := by
  cases event with
  | openPort | closePort | consume => exact ⟨trivial, trivial, nofun⟩
  | receive packet =>
    obtain ⟨next, accepted, short, inside, stays⟩ := inSequence
    have unsynced : r.rx.synchronizes packet = false := by
      by_contra synced
      have refused := accepts_eq_false_of_synchronizes (by simpa using synced)
      exact Bool.false_ne_true (refused.symm.trans accepted)
    have among (data : isDataFor p packet = true) : arrivals p [] r ++ [packet] <+: messages.flatten := by
      have part := (next.filter (isDataFor p)).trans sent
      rw [List.filter_append, List.filter_singleton, data] at part
      exact part
    have own (data : isDataFor p packet = true) : packet.getPort = p := by
      simp only [isDataFor, Bool.and_eq_true, beq_iff_eq] at data
      exact data.2
    refine ⟨⟨fun data => ⟨accepted, among data, inside⟩, fun _ => stays p⟩,
      ⟨fun data => ⟨own data ▸ short, ?_⟩, ?_⟩, ?_⟩
    · intro empty
      have part := among data
      rw [recovering.arrived, empty, List.append_nil, recovering.split, List.flatten_append,
        List.prefix_append_right_inj] at part
      obtain ⟨rest, whole⟩ := part
      have numbered := (recovering.stream later).consecutive
      rw [← whole, List.singleton_append, Consecutive.cons_iff, Nat.zero_add] at numbered
      rw [numbered.1, expected]
    · exact fun synced => absurd (unsynced.symm.trans synced) Bool.false_ne_true
    · rintro _ ⟨⟩
      exact unsynced

theorem step (receiving : Receiving p messages r) (later : LaterMessages p 0 messages [])
    (straight : Straight 0 messages) (sent : link.filter (isDataFor p) <+: messages.flatten) {event : RxEvent}
    (inSequence : InSequence link r event)
    (stepped : r.step event = some r') : Receiving p messages r' := by
  obtain ⟨consumed, remaining, recovering, expected⟩ := receiving
  obtain ⟨inOrder, resumes, unsynced⟩ := met recovering expected later sent inSequence
  obtain ⟨consumed', remaining', further, moved⟩ := recovering.step later straight ⟨inOrder, resumes⟩ stepped
  refine ⟨consumed', remaining', further, ?_⟩
  rw [← Nat.zero_add consumed'.flatten.length]
  exact moved unsynced (by rw [Nat.zero_add]; exact expected)

theorem run (later : LaterMessages p 0 messages []) (straight : Straight 0 messages)
    (sent : link.filter (isDataFor p) <+: messages.flatten) {events : List RxEvent}
    (run : Run RxSystem.step (InSequence link) .started events r) : Receiving p messages r :=
  run.invariant (fun _ _ _ receiving inSequence stepped => receiving.step later straight sent inSequence stepped)
    (.started p messages)

end Receiving

/-! ## What has been returned -/

/-- The sender's output buffer and the link are empty, and the receiver has nothing more to return. -/
structure Drained (s : Connection UInt8) : Prop where
  queued : s.sender.tx.outBuffer.packetsAvailable = false
  inFlight : s.inFlight = []
  returned : s.receiver.rx.isNewMessageAvailable = false

namespace Underway

variable {s : Transfer} {p : UInt8} {accepted underWay consumed remaining : List (List S3tpPacket)}

/-- The messages consumed are the first of those whose payloads have been accepted. -/
theorem consumed_prefix (underway : Underway s p accepted underWay)
    (recovering : Recovering p 0 (accepted ++ underWay) consumed remaining [] s.connection.receiver)
    (received : arrivals p [] s.connection.receiver <+: s.connection.sender.link.filter (isDataFor p)) :
    consumed <+: accepted := by
  have split := recovering.split
  refine List.prefix_of_prefix_length_le ⟨remaining, split.symm⟩ (List.prefix_append _ _) ?_
  have lengths := congrArg List.length split
  simp only [List.length_append] at lengths
  rcases underway.unsent with rfl | ⟨message, rfl, short⟩
  · rw [List.length_nil] at lengths
    omega
  · by_contra more
    rw [List.length_singleton] at lengths
    obtain rfl : remaining = [] := List.length_eq_zero_iff.mp (by omega)
    have sent := received.length_le
    rw [recovering.arrived, List.length_append] at sent
    rw [split, List.append_nil] at short
    omega

/-- Once everything has been received and nothing more is available, they are all. -/
theorem consumed_eq (underway : Underway s p accepted underWay)
    (recovering : Recovering p 0 (accepted ++ underWay) consumed remaining [] s.connection.receiver)
    (first : consumed <+: accepted) (empty : s.connection.sender.tx.outBuffer.held p = [])
    (received : arrivals p [] s.connection.receiver = s.connection.sender.link.filter (isDataFor p))
    (unflagged : (s.connection.receiver.rx.availableMessages p).isSome = false) : consumed = accepted := by
  obtain ⟨left, rfl⟩ := first
  cases left with
  | nil => exact (List.append_nil _).symm
  | cons message rest =>
    exfalso
    have all := underway.all empty
    rw [← received, recovering.arrived, List.flatten_append, List.prefix_append_right_inj, List.flatten_cons] at all
    have split := recovering.split
    rw [List.append_assoc, List.append_cancel_left_eq] at split
    have flagged := (recovering.flagged_iff underway.later underway.straight).mpr
      ⟨message, rest ++ underWay, split.symm, (List.prefix_append _ _).trans all⟩
    exact Bool.false_ne_true (unflagged.symm.trans flagged)

end Underway

/-- In a run whose steps all meet the conditions, what is returned on a port is what the receiver makes of
the calls handed over for the payloads accepted on it. -/
theorem returned_of_run {fresh : S3tpHeader} {events : List TransferEvent} {s : Transfer}
    (run : Run Transfer.step (fun s event => Used s event ∧ Undamaged s event) (.started fresh) events s) (p : UInt8) :
    ∃ messages, List.Forall₂ Conveys (s.acceptedOn p) messages ∧
      s.connection.returnedOn p <+: messages.map (deliveryOf p) ∧
      (Drained s.connection → s.connection.returnedOn p = messages.map (deliveryOf p)) := by
  obtain ⟨sending, -, own, receives⟩ := (Sending.started fresh).run run
  obtain ⟨accepted, underWay, underway⟩ := sending.exists_underway p
  obtain ⟨consumed, remaining, recovering, -⟩ :=
    Receiving.run underway.later underway.straight underway.sent receives
  have received : arrivals p [] s.connection.receiver <+: s.connection.sender.link.filter (isDataFor p) :=
    sending.inOrder.filter _
  have first := underway.consumed_prefix recovering received
  have returned : s.connection.returnedOn p = consumed.map (deliveryOf p) := recovering.returned
  refine ⟨accepted, underway.conveys, returned ▸ first.map _, fun drained => ?_⟩
  have empty := sending.transmit.consistent.held_eq_nil drained.queued p
  have all : s.connection.receiver.received = s.connection.sender.link := by
    rw [← Connection.received_append_inFlight sending.inOrder, drained.inFlight, List.append_nil]
  have unflagged : (s.connection.receiver.rx.availableMessages p).isSome = false := by
    have none := drained.returned
    by_contra flagged
    rw [Bool.not_eq_false] at flagged
    rw [isNewMessageAvailable, ByteMap.isEmpty_eq_false_iff.mpr ⟨p, flagged⟩] at none
    exact Bool.false_ne_true none.symm
  rw [returned, underway.consumed_eq recovering first empty (congrArg (List.filter _) all) unflagged]

/-! ## The payloads themselves -/

/-- The payload is no longer than two packets. -/
def ShortPayload (_ : Transfer) : TransferEvent → Prop
  | .call m _ => m.len ≤ 2 * lenS3tpPdu
  | _ => True

/-- The byte strings returned on the port are the first of the payloads accepted on it, and all of them once
nothing is queued, under way or left to be returned. -/
structure EndToEnd (s : Transfer) (port : UInt8) : Prop where
  inOrder : (s.connection.returnedOn port).map (fun delivery => (delivery.data, delivery.len.toNat)) <+:
    (s.acceptedOn port).map fun m => (some m.data, m.len)
  complete : Drained s.connection →
    (s.connection.returnedOn port).map (fun delivery => (delivery.data, delivery.len.toNat)) =
      (s.acceptedOn port).map fun m => (some m.data, m.len)

/-- Only payloads that were handed over are under way, and only these are accepted. -/
structure Submitted (P : Submission → Prop) (s : Transfer) : Prop where
  accepted : ∀ m ∈ s.accepted, P m
  underWay : ∀ port, ∀ underWay ∈ s.calls port, P underWay.submission

namespace Submitted

variable {P : Submission → Prop} {s t : Transfer}

theorem update (submitted : Submitted P s) {port : UInt8} {call : Option CallUnderWay}
    (own : ∀ underWay ∈ call, P underWay.submission) :
    ∀ other, ∀ underWay ∈ Function.update s.calls port call other, P underWay.submission := by
  intro other underWay found
  rcases Classical.em (other = port) with rfl | different
  · exact own underWay (by simpa using found)
  · exact submitted.underWay other underWay (by simpa [different] using found)

theorem step (submitted : Submitted P s) {event : TransferEvent} (called : ∀ m fresh, event = .call m fresh → P m)
    (stepped : s.step event = some t) : Submitted P t := by
  cases event with
  | call m fresh =>
    obtain ⟨-, -, rfl | ⟨-, rfl⟩⟩ := Transfer.of_call stepped
    · exact submitted
    · refine ⟨submitted.accepted, submitted.update ?_⟩
      rintro _ ⟨⟩
      exact called m fresh rfl
  | enqueue port =>
    simp only [Transfer.step] at stepped
    split at stepped
    · next m call rest underWay =>
      split at stepped
      · obtain rfl := Option.some.inj stepped
        exact ⟨submitted.accepted, submitted.update fun _ found => absurd found (Option.not_mem_none _)⟩
      · obtain ⟨connection, -, rfl⟩ := Option.map_eq_some_iff.mp stepped
        refine ⟨submitted.accepted, submitted.update ?_⟩
        rintro _ ⟨⟩
        exact submitted.underWay port ⟨m, call :: rest⟩ underWay
    · contradiction
  | write port =>
    obtain ⟨m, remaining, connection, underWay, -, rfl⟩ := Transfer.of_write stepped
    split
    · refine ⟨?_, submitted.update fun _ found => absurd found (Option.not_mem_none _)⟩
      simp only [List.forall_mem_append, List.forall_mem_singleton]
      exact ⟨submitted.accepted, submitted.underWay port _ underWay⟩
    · exact ⟨submitted.accepted, submitted.underWay⟩
  | iterate | setChannelAvailable | deliver | openPort | closePort | consume =>
    obtain ⟨connection, -, rfl⟩ := Transfer.of_onConnection rfl stepped
    exact ⟨submitted.accepted, submitted.underWay⟩

end Submitted

/-- What is returned for payloads of one or two packets is these payloads. -/
theorem map_delivery_of_conveys {payloads : List Submission} {messages : List (List S3tpPacket)}
    (conveyed : List.Forall₂ Conveys payloads messages) (p : UInt8) :
    (∀ m ∈ payloads, m.len ≤ 2 * lenS3tpPdu) →
    (messages.map (deliveryOf p)).map (fun delivery => (delivery.data, delivery.len.toNat)) =
      payloads.map fun m => (some m.data, m.len) := by
  induction conveyed with
  | nil => exact fun _ => rfl
  | cons conveys _ ih =>
    intro short
    obtain ⟨own, others⟩ := List.forall_mem_cons.mp short
    obtain ⟨data, len⟩ := data_of_conveys_of_short conveys own p
    rw [List.map_cons, List.map_cons, List.map_cons, data, len, ih others]

/-- In a run whose payloads are short and whose steps all meet the conditions, the byte strings returned on
a port are the payloads accepted on it. -/
theorem endToEnd_of_undamaged (fresh : S3tpHeader) (events : List TransferEvent) (s : Transfer)
    (run : Run Transfer.step (fun s event => Used s event ∧ ShortPayload s event ∧ Undamaged s event) (.started fresh)
      events s) (port : UInt8) : EndToEnd s port := by
  have submitted : Submitted (fun m => m.len ≤ 2 * lenS3tpPdu) s := by
    refine run.invariant (fun _ event _ submitted met stepped => submitted.step ?_ stepped) ⟨nofun, nofun⟩
    rintro m fresh rfl
    exact met.2.1
  obtain ⟨messages, conveyed, inOrder, complete⟩ := returned_of_run (run.mono fun _ _ met => ⟨met.1, met.2.2⟩) port
  have short : ∀ m ∈ s.acceptedOn port, m.len ≤ 2 * lenS3tpPdu := fun m member =>
    submitted.accepted m (List.mem_filter.mp member).1
  have payloads := map_delivery_of_conveys conveyed port short
  constructor
  · rw [← payloads]
    exact inOrder.map _
  · intro drained
    rw [← payloads, complete drained]

/-! ## A payload on its own -/

/-- Nothing is queued, the channels are free, and within a message the loop goes on with the port. -/
structure AtRest (s : TxSystem UInt8) (p : UInt8) : Prop where
  empty : ∀ port, s.tx.outBuffer.held port = []
  channels : s.tx.channelBlacklist = .empty
  within : s.tx.sendingFragments = true → s.tx.currentPort = p
  zero : s.tx.globalSeqNum = 0

/-- A turn of the loop takes the one packet that is queued. -/
theorem dataTurn_of_only {tx : TxModule} {p : UInt8} {packet : S3tpPacket} (consistent : tx.outBuffer.Consistent)
    (within : tx.sendingFragments = true → tx.currentPort = p) (channels : tx.channelBlacklist = .empty)
    (own : tx.outBuffer.held p = [packet]) (others : ∀ port, port ≠ p → tx.outBuffer.held port = []) :
    ∃ buffer, tx.dataTurn = (tx.afterTaking packet buffer, [packet.setGlobalSequence tx.globalSeqNum]) ∧
      ∀ port, buffer.held port = [] := by
  have valid : tx.isElementValid packet = true := by
    simp [TxModule.isElementValid, TxModule.isChannelAvailable, channels]
  obtain ⟨frame, sends⟩ := TxModule.dataTurn_sends consistent within own valid
  rcases tx.dataTurn_cases with ⟨state, waits⟩ | ⟨port, head, buffer, popped, taken⟩
  · rw [waits] at sends
    exact absurd sends.symm (List.cons_ne_nil _ _)
  · obtain ⟨queued, -, rest, -⟩ := consistent.popPacketInternal popped
    obtain rfl : port = p := by
      by_contra other
      rw [others port other] at queued
      exact List.cons_ne_nil _ _ queued.symm
    obtain ⟨rfl, left⟩ := List.cons.inj (own.symm.trans queued)
    refine ⟨buffer, taken, fun other => ?_⟩
    rcases Classical.em (other = port) with rfl | different
    · exact left.symm
    · rw [rest other different, others other different]

/-- In an empty buffer the packet written is the only one. -/
theorem held_writePacket_of_empty {tx : TxModule} (empty : ∀ port, tx.outBuffer.held port = []) (packet : S3tpPacket) :
    (tx.writePacket packet).outBuffer.held packet.getPort = [packet] ∧
      ∀ port, port ≠ packet.getPort → (tx.writePacket packet).outBuffer.held port = [] := by
  constructor
  · rw [TxModule.writePacket, Buffer.held_write_self, Buffer.kept, empty]
    split <;> rfl
  · intro port other
    exact (Buffer.held_write_of_ne _ _ other).trans (empty port)

/-- What is enqueued while nothing else is queued leaves in the next turn. -/
theorem AtRest.sends {s : TxSystem UInt8} {p : UInt8} (atRest : AtRest s p) (inv : TransmitInvariant s)
    (unscheduled : s.tx.scheduledSync = false) (active : s.tx.active = true) (idle : s.pending p = none)
    {call : EnqueueCall} (own : call.packet.getPort = p) :
    ∃ s₁ s₂ s₃ frame, s.step (.enqueue p call.packet call.fragNo call.moreFragments) = some s₁ ∧
      s₁.step (.write p) = some s₂ ∧ s₂.step (.iterate ⟨true, false⟩) = some s₃ ∧ s₁.ShortBacklog (.write p) ∧
      s₃.link = s.link ++ [frame] ∧ frame.getPort = p ∧ frame.header.getGlobalSequence = 0 ∧
      s₃.pending p = none ∧ s₃.tx.portSequence p = s.tx.portSequence p + 1 ∧
      (∀ port, s₃.tx.outBuffer.held port = []) ∧ (call.moreFragments = true → AtRest s₃ p) := by
  have stamps := TxSystem.step_enqueue active idle call.packet call.fragNo call.moreFragments
  have invStamped := inv.enqueue own.symm stamps
  obtain ⟨packet, isPacket⟩ : ∃ packet, packet = s.tx.stamped call.packet call.fragNo call.moreFragments := ⟨_, rfl⟩
  have port : packet.getPort = p := by rw [isPacket, TxModule.stamped_getPort, own]
  have flags : packet.header.moreFragments = if call.moreFragments then 1 else 0 := by
    rw [isPacket, TxModule.stamped_moreFragments]
  rw [← isPacket, own] at stamps invStamped
  have empty : ∀ other, (s.tx.advance p).outBuffer.held other = [] := atRest.empty
  set stamped : TxSystem UInt8 := { s with
    tx := s.tx.advance p
    pending := Function.update s.pending p (some packet)
    enqueued := s.enqueued ++ [packet] } with isStamped
  have backlog : stamped.ShortBacklog (.write p) := by
    intro other found
    rw [show stamped.tx.outBuffer.held other.getPort = [] from empty _]
    exact Nat.zero_lt_succ _
  have writes : stamped.step (.write p) = some { stamped with
      tx := (s.tx.advance p).writePacket packet, pending := Function.update stamped.pending p none } :=
    TxSystem.step_write (by simp [isStamped])
  have consistent := (invStamped.write backlog writes).consistent
  obtain ⟨only, others⟩ := held_writePacket_of_empty empty packet
  rw [port] at only others
  obtain ⟨buffer, turn, left⟩ := dataTurn_of_only consistent atRest.within atRest.channels only others
  have channels : ((s.tx.advance p).writePacket packet).channelsAvailable = true := by
    have free : ((s.tx.advance p).writePacket packet).channelBlacklist = .empty := atRest.channels
    rw [TxModule.channelsAvailable, free]
    decide
  have iterates : ((s.tx.advance p).writePacket packet).iterate ⟨true, false⟩ =
      ((s.tx.advance p).writePacket packet).dataTurn := TxModule.iterate_eq_dataTurn rfl channels unscheduled
  rw [turn] at iterates
  refine ⟨stamped, _, { stamped with
      tx := ((s.tx.advance p).writePacket packet).afterTaking packet buffer
      pending := Function.update stamped.pending p none
      link := s.link ++ [packet.setGlobalSequence s.tx.globalSeqNum] }, packet.setGlobalSequence s.tx.globalSeqNum,
    stamps, writes, ?_, backlog, rfl, port, ?_, Function.update_self .., Function.update_self .., left, fun more => ?_⟩
  · rw [TxSystem.step, if_pos (show ((s.tx.advance p).writePacket packet).active = true from active)]
    simp only [iterates]
    rfl
  · rw [atRest.zero]
    exact S3tpHeader.getGlobalSequence_setGlobalSequence _ _
  · have going : packet.header.moreFragments ≠ 0 := by
      rw [flags, more]
      decide
    refine ⟨left, atRest.channels, fun _ => port, ?_⟩
    exact (if_neg going).trans atRest.zero

/-! ## A receiver that gets it -/

/-- So far `k` packets have been received for the port, all with global sequence number 0. -/
structure Awaiting (r : RxSystem) (p : UInt8) (k : ℕ) : Prop where
  portOpen : r.rx.isPortOpen p = true
  free : r.rx.rxMutexHeld = false
  lower : r.rx.toConsumeGlobalSeq = 0
  window : r.rx.receivingWindow = UInt8.ofNat k
  queue : (r.rx.inBuffer.held p).length = k
  numbers : ∀ packet ∈ r.rx.inBuffer.held p, packet.header.getGlobalSequence = 0
  others : ∀ port, port ≠ p → r.rx.availableMessages port = none

theorem Awaiting.receive {r : RxSystem} {p : UInt8} {k : ℕ} (awaiting : Awaiting r p k) (room : k + 1 < 128)
    {frame : S3tpPacket} (valid : isValidData frame = true) (own : frame.getPort = p)
    (number : frame.header.getGlobalSequence = 0) :
    r.rx.accepts frame = true ∧ r.rx.inBuffer.windowExceeded r.rx.policy frame = false ∧
      (∀ port, ¬ r.rx.Flushes frame port) ∧
      ∀ rx, rx = r.rx.receiveData frame → Awaiting { r with rx, received := r.received ++ [frame] } p (k + 1) := by
  have active : r.rx.active = true := by
    have portOpen := awaiting.portOpen
    simp only [isPortOpen, Bool.and_eq_true] at portOpen
    exact portOpen.2
  have next : (r.rx.receivingWindow + 1).toNat < 128 := by
    rw [awaiting.window, ← UInt8.ofNat_succ, UInt8.toNat_ofNat_of_lt_256 (by omega)]
    exact room
  have near (packet : S3tpPacket) (zero : packet.header.getGlobalSequence = 0) :
      (r.rx.relativeGlobalSeq packet).toNat < 128 := by
    rw [relativeGlobalSeq, zero, awaiting.lower]
    decide
  have inside : r.rx.inBuffer.windowExceeded r.rx.policy frame = false := by
    apply windowExceeded_eq_false
    intro head first
    rw [own] at first
    exact maximumWindowExceeded_eq_false _ (near head (awaiting.numbers head (List.mem_of_mem_head? first)))
      (near frame number)
  have stays (port : UInt8) : ¬ r.rx.Flushes frame port := not_flushes_of_lt next port
  simp only [isValidData, isData, Bool.and_eq_true, beq_iff_eq] at valid
  refine ⟨by simp [accepts, active, valid, own, awaiting.portOpen], inside, stays, fun rx received => ?_⟩
  have held : rx.inBuffer.held p = (r.rx.inBuffer.held p).insertFromTail (Buffer.ahead r.rx.policy) frame := by
    rw [received, held_receiveData, if_neg (stays p), if_pos own.symm, linked, Buffer.kept, inside, own]
    rfl
  obtain ⟨lower, window⟩ := receiveData_of_lt r.rx frame next
  rw [← received] at lower window
  refine ⟨?_, ?_, lower.trans awaiting.lower, ?_, ?_, ?_, ?_⟩
  · rw [received, receiveData_isPortOpen]
    exact awaiting.portOpen
  · rw [received, receiveData_rxMutexHeld]
    exact awaiting.free
  · rw [window, awaiting.window, UInt8.ofNat_succ]
  · rw [held, List.length_insertFromTail, awaiting.queue]
  · intro packet member
    rw [held, List.mem_insertFromTail] at member
    rcases member with rfl | member
    · exact number
    · exact awaiting.numbers packet member
  · intro port other
    rw [received, receiveData_availableMessages]
    split
    · rw [own, ByteMap.insert_of_ne _ _ other]
      exact awaiting.others port other
    · exact awaiting.others port other

/-! ## From one to the other -/

/-- The conditions are met, and no payload but this one is handed over. -/
def Alone (m : Submission) (s : Transfer) (event : TransferEvent) : Prop :=
  (Used s event ∧ Undamaged s event) ∧ ∀ other fresh, event = .call other fresh → other = m

/-- The packets of the first `k` calls have arrived. -/
structure Arrived (m : Submission) (k : ℕ) (s : Transfer) : Prop where
  sending : Sending s
  empty : ∀ port, s.connection.sender.tx.outBuffer.held port = []
  idle : s.connection.sender.pending m.port = none
  number : s.connection.sender.tx.portSequence m.port = UInt8.ofNat k
  flight : s.connection.inFlight = []
  awaiting : Awaiting s.connection.receiver m.port k
  delivered : s.connection.receiver.delivered = []

/-- The other calls are still to be made. -/
structure Crossing (m : Submission) (k : ℕ) (rest : List EnqueueCall) (s : Transfer) : Prop
    extends Arrived m k s where
  atRest : AtRest s.connection.sender m.port
  underWay : s.calls m.port = some ⟨m, rest⟩
  accepted : s.accepted = []

theorem Crossing.next {m : Submission} {k : ℕ} {call : EnqueueCall} {rest : List EnqueueCall} {s : Transfer}
    (crossing : Crossing m k (call :: rest) s) (room : k + 1 < 128) (more : rest ≠ [] → call.moreFragments = true) :
    ∃ t, Run Transfer.step (Alone m) s [.enqueue m.port, .write m.port, .iterate ⟨true, false⟩, .deliver] t ∧
      Arrived m (k + 1) t ∧ (rest = [] → t.accepted = [m]) ∧ (rest ≠ [] → Crossing m (k + 1) rest t) := by
  have sending := crossing.sending
  obtain ⟨_, _, booked⟩ := sending.booked m.port
  obtain ⟨s₁, s₂, s₃, frame, stamps, writes, iterates, backlog, link, own, zero, idle, number, empty, atRest⟩ :=
    crossing.atRest.sends sending.transmit sending.clean.unscheduled sending.active crossing.idle
      (booked.getPort crossing.underWay)
  have enqueued : s.step (.enqueue m.port) = some { s with
      connection := { s.connection with sender := s₁ }
      calls := Function.update s.calls m.port (some ⟨m, rest⟩) } := by
    simp [Transfer.step, crossing.underWay, sending.active, Connection.step, stamps]
  obtain ⟨calls, accepted, written, last, goesOn⟩ : ∃ calls accepted, Transfer.step { s with
        connection := { s.connection with sender := s₁ }
        calls := Function.update s.calls m.port (some ⟨m, rest⟩) } (.write m.port) =
          some ⟨{ s.connection with sender := s₂ }, calls, accepted⟩ ∧
      (rest = [] → accepted = [m]) ∧ (rest ≠ [] → calls m.port = some ⟨m, rest⟩ ∧ accepted = []) := by
    cases rest with
    | nil =>
      refine ⟨_, _, by simp [Transfer.step, Connection.step, writes]; exact ⟨rfl, rfl⟩, fun _ => ?_, by simp⟩
      rw [crossing.accepted, List.nil_append]
    | cons next rest =>
      refine ⟨_, _, by simp [Transfer.step, Connection.step, writes]; exact ⟨rfl, rfl⟩, by simp, fun _ => ?_⟩
      exact ⟨Function.update_self .., crossing.accepted⟩
  have turns : Transfer.step ⟨{ s.connection with sender := s₂ }, calls, accepted⟩ (.iterate ⟨true, false⟩) =
      some ⟨{ s.connection with sender := s₃ }, calls, accepted⟩ := by
    simp [Transfer.step, Transfer.onConnection, Connection.step, iterates]
  have sent : Run Transfer.step (Alone m) s [.enqueue m.port, .write m.port, .iterate ⟨true, false⟩]
      ⟨{ s.connection with sender := s₃ }, calls, accepted⟩ := by
    refine .cons ⟨⟨trivial, ?_⟩, by simp⟩ enqueued (.cons ⟨⟨trivial, backlog⟩, by simp⟩ written
      (.cons ⟨⟨trivial, trivial⟩, by simp⟩ turns (.nil _)))
    intro underWay found _ _ _
    rw [crossing.number]
    exact fun same => absurd (congrArg UInt8.toNat same) (by rw [UInt8.toNat_ofNat_of_lt_256 (by omega)]; simp; omega)
  have sendingSent := (sending.run (sent.mono fun _ _ met => met.1)).1
  have received : s.connection.receiver.received = s.connection.sender.link := by
    rw [← Connection.received_append_inFlight sending.inOrder, crossing.flight, List.append_nil]
  have flight : Connection.inFlight { s.connection with sender := s₃ } = [frame] := by
    rw [Connection.inFlight, link, received, List.drop_left]
  have valid : isValidData frame = true := sendingSent.clean.link frame (by simp [link])
  obtain ⟨accepts, inside, stays, awaits⟩ := crossing.awaiting.receive room valid own zero
  obtain ⟨rx, isReceived⟩ : ∃ rx, rx = s.connection.receiver.rx.receiveData frame := ⟨_, rfl⟩
  have delivers := Connection.step_deliver_data flight crossing.awaiting.free accepts
  rw [← isReceived] at delivers
  have arrives : Transfer.step ⟨{ s.connection with sender := s₃ }, calls, accepted⟩ .deliver = some
      ⟨⟨s₃, { s.connection.receiver with rx, received := s.connection.receiver.received ++ [frame] }⟩, calls,
        accepted⟩ := by
    simp only [Transfer.step, Transfer.onConnection, Option.bind_some, delivers]
    rfl
  have isOnly (other : S3tpPacket) (found : other ∈ (Connection.inFlight
      { s.connection with sender := s₃ }).head?) : other = frame := by
    simpa [flight, eq_comm] using found
  have crosses : Run Transfer.step (Alone m) s [.enqueue m.port, .write m.port, .iterate ⟨true, false⟩, .deliver]
      ⟨⟨s₃, { s.connection.receiver with rx, received := s.connection.receiver.received ++ [frame] }⟩, calls,
        accepted⟩ := by
    refine sent.append (.cons ⟨⟨fun other found => ?_, fun other found => ?_⟩, by simp⟩ arrives (.nil _))
    · rw [isOnly other found, own]
      exact crossing.awaiting.portOpen
    · rw [isOnly other found]
      refine ⟨?_, inside, stays⟩
      rw [own]
      exact lt_of_eq_of_lt crossing.awaiting.queue (by omega)
  have arrived : Arrived m (k + 1)
      ⟨⟨s₃, { s.connection.receiver with rx, received := s.connection.receiver.received ++ [frame] }⟩, calls,
        accepted⟩ := by
    refine ⟨(sending.run (crosses.mono fun _ _ met => met.1)).1, empty, idle, ?_, ?_, awaits rx isReceived,
      crossing.delivered⟩
    · rw [number, crossing.number, UInt8.ofNat_succ]
    · rw [Connection.inFlight, link, received]
      exact List.drop_length
  refine ⟨_, crosses, arrived, last, fun some => ?_⟩
  exact { arrived with atRest := atRest (more some), underWay := (goesOn some).1, accepted := (goesOn some).2 }

/-- All of them cross, one after the other. -/
theorem exists_run_crossing {m : Submission} {rest : List EnqueueCall} {i : ℕ} (indexed : Indexed i rest) :
    ∀ {k : ℕ} {s : Transfer}, Crossing m k rest s → k + rest.length < 128 →
    ∃ events t, Run Transfer.step (Alone m) s events t ∧ Arrived m (k + rest.length) t ∧ t.accepted = [m] := by
  induction indexed with
  | last =>
    intro k s crossing room
    obtain ⟨t, run, arrived, accepted, -⟩ := crossing.next room (fun some => absurd rfl some)
    exact ⟨_, t, run, arrived, accepted rfl⟩
  | @more i call rest _ flagged indexed ih =>
    intro k s crossing room
    rw [List.length_cons] at room
    have some : rest ≠ [] := by
      rintro rfl
      nomatch indexed
    obtain ⟨mid, run, -, -, further⟩ := crossing.next (by omega) (fun _ => flagged)
    obtain ⟨events, t, others, arrived, accepted⟩ := ih (further some) (by omega)
    refine ⟨_, t, run.append others, ?_, accepted⟩
    rw [List.length_cons, ← Nat.add_assoc, Nat.add_right_comm]
    exact arrived

/-- On a port that is open, everything handed over for one payload arrives. -/
theorem exists_run_arrived (m : Submission) (fresh : ℕ → S3tpHeader) (bound : m.port ≤ 127)
    (allowed : 1 ≤ m.len ∧ m.len ≤ maxPduLength) (room : (m.calls fresh).length < 128) :
    ∃ events t, Run Transfer.step (Alone m) (.started default) events t ∧
      Arrived m (m.calls fresh).length t ∧ t.accepted = [m] := by
  obtain ⟨listening, opens⟩ : ∃ listening, listening = (RxSystem.started.rx.openPort m.port).2 := ⟨_, rfl⟩
  have opened : listening = { RxSystem.started.rx with openPorts := ByteMap.empty.insert m.port 1 } := opens
  obtain ⟨s, isOpen⟩ : ∃ s : Transfer, s = ⟨⟨.started default, { rx := listening }⟩, fun _ => none, []⟩ := ⟨_, rfl⟩
  have openStep : (Transfer.started default).step (.openPort m.port) = some s := by
    rw [isOpen, opens]
    rfl
  have admitted : s.connection.sender.tx.admission m = codeSuccess := by
    rw [TxModule.admission, TxModule.checkTransmissionAvailability_eq_success, if_neg (not_not.mpr rfl),
      if_neg (Nat.not_lt.mpr allowed.2)]
    · rw [isOpen]
      exact TxState.noConfusion
    · rw [isOpen]
      rfl
  have called : s.step (.call m fresh) = some { s with
      calls := Function.update s.calls m.port (some ⟨m, m.calls fresh⟩) } := by
    have idle : s.calls m.port = none := by rw [isOpen]
    simp [Transfer.step, idle, admitted, bound]
  have begun : Run Transfer.step (Alone m) (.started default) [.openPort m.port, .call m fresh] { s with
      calls := Function.update s.calls m.port (some ⟨m, m.calls fresh⟩) } := by
    refine .cons ⟨⟨trivial, trivial⟩, by simp⟩ openStep (.cons ⟨⟨allowed, trivial⟩, ?_⟩ called (.nil _))
    rintro _ _ ⟨⟩
    rfl
  have sending := ((Sending.started default).run (begun.mono fun _ _ met => met.1)).1
  have crossing : Crossing m 0 (m.calls fresh) { s with
      calls := Function.update s.calls m.port (some ⟨m, m.calls fresh⟩) } := by
    subst isOpen
    refine ⟨⟨sending, fun _ => rfl, rfl, rfl, rfl, ?_, rfl⟩, ⟨fun _ => rfl, rfl, ?_, rfl⟩, ?_, rfl⟩
    · rw [opened]
      exact ⟨by simp [isPortOpen]; rfl, rfl, rfl, rfl, rfl, fun _ member => absurd member List.not_mem_nil,
        fun _ _ => rfl⟩
    · exact fun within => absurd within Bool.false_ne_true
    · simp
  obtain ⟨events, t, run, arrived, accepted⟩ := exists_run_crossing (indexed_calls m fresh) crossing (by omega)
  rw [Nat.zero_add] at arrived
  exact ⟨_, t, begun.append run, arrived, accepted⟩

/-- Then it is returned, as the receiver makes it of the calls. -/
theorem exists_run_returned (m : Submission) (fresh : ℕ → S3tpHeader) (bound : m.port ≤ 127)
    (allowed : 1 ≤ m.len ∧ m.len ≤ maxPduLength) (room : (m.calls fresh).length < 128) :
    ∃ events t packets, Run Transfer.step (Alone m) (.started default) events t ∧ t.accepted = [m] ∧
      Conveys m packets ∧ t.connection.returnedOn m.port = [deliveryOf m.port packets] := by
  obtain ⟨events, s, run, arrived, isAccepted⟩ := exists_run_arrived m fresh bound allowed room
  obtain ⟨sending, -, own, receives⟩ := (Sending.started default).run (run.mono fun _ _ met => met.1)
  obtain ⟨accepted, underWay, underway⟩ := sending.exists_underway m.port
  obtain ⟨consumed, remaining, recovering, -⟩ :=
    Receiving.run underway.later underway.straight underway.sent receives
  obtain ⟨packets, rfl, conveys⟩ : ∃ packets, accepted = [packets] ∧ Conveys m packets := by
    have conveyed := underway.conveys
    rw [Transfer.acceptedOn, isAccepted] at conveyed
    simp only [decide_true, List.filter_cons_of_pos, List.filter_nil] at conveyed
    rcases conveyed with _ | ⟨conveys, _ | _⟩
    exact ⟨_, rfl, conveys⟩
  obtain rfl : consumed = [] := by
    have returned := recovering.returned
    rw [returnedOn, arrived.delivered] at returned
    exact List.map_eq_nil_iff.mp returned.symm
  have split : packets :: underWay = remaining := recovering.split
  have whole : packets <+: s.connection.receiver.rx.inBuffer.held m.port := by
    have received : s.connection.receiver.received = s.connection.sender.link := by
      rw [← Connection.received_append_inFlight sending.inOrder, arrived.flight, List.append_nil]
    have all := underway.all (arrived.empty m.port)
    have inQueue : arrivals m.port [] s.connection.receiver = _ := recovering.arrived
    rw [List.flatten_nil, List.nil_append, arrivals, List.nil_append, received] at inQueue
    rw [← inQueue]
    simpa using all
  have flagged := (recovering.flagged_iff underway.later underway.straight).mpr ⟨packets, underWay, split.symm, whole⟩
  have turn : s.connection.receiver.rx.availableMessages.begin? = some m.port := by
    rw [ByteMap.begin?_eq_some_iff]
    refine ⟨flagged, fun port stored => ?_⟩
    rcases Classical.em (port = m.port) with rfl | other
    · exact UInt8.le_refl _
    · rw [arrived.awaiting.others port other] at stored
      exact absurd stored Bool.false_ne_true
  obtain ⟨message, rest, rx, same, answers, further, -⟩ := recovering.consume underway.later underway.straight turn
  obtain ⟨rfl, -⟩ := List.cons.inj (split.trans same)
  obtain ⟨receiver, isReceiver⟩ : ∃ receiver, receiver = { s.connection.receiver with
      rx, delivered := s.connection.receiver.delivered ++ [deliveryOf m.port packets] } := ⟨_, rfl⟩
  rw [← isReceiver] at further
  have consumes : s.step .consume = some { s with connection := { s.connection with receiver } } := by
    simp [Transfer.step, Transfer.onConnection, Connection.step, Connection.received, RxSystem.step,
      arrived.awaiting.free, answers, isReceiver]
  have last : Run Transfer.step (Alone m) s [.consume] { s with connection := { s.connection with receiver } } :=
    .cons ⟨⟨trivial, trivial⟩, by simp⟩ consumes (.nil _)
  exact ⟨_, _, packets, run.append last, isAccepted, conveys, further.returned⟩

/-- A payload of one byte is returned. -/
theorem endToEnd_of_undamaged_one : ∃ s : Transfer, EndToEnd s 5 ∧
    (s.connection.returnedOn 5).length = 1 ∧ s.acceptedOn 5 = [counting 1] := by
  have calls : ((counting 1).calls fun _ => default).length = 1 := rfl
  obtain ⟨events, s, packets, run, accepted, -, returned⟩ :=
    exists_run_returned (counting 1) (fun _ => default) (by decide) (by decide) (by rw [calls]; decide)
  refine ⟨s, endToEnd_of_undamaged default events s (run.mono fun s event met => ?_) 5, ?_, ?_⟩
  · refine ⟨met.1.1, ?_, met.1.2⟩
    cases event with
    | call m fresh =>
      obtain rfl := met.2 m fresh rfl
      exact (by decide : 1 ≤ 2 * lenS3tpPdu)
    | _ => trivial
  · exact congrArg List.length returned
  · rw [Transfer.acceptedOn, accepted]
    rfl

/-- The last byte of three fragments is read 991 bytes behind the payload's end. -/
theorem content_calls_1985 (fresh : ℕ → S3tpHeader) : content ((counting 1985).calls fresh) ≠ (counting 1985).data := by
  have long : lenS3tpPdu < (counting 1985).len := by decide
  have count : List.range (fragmentCount (counting 1985).len) = [0, 1, 2] := rfl
  have pdu (i source size : ℕ) (bound : size < 2 ^ 14) (same : (passCall (counting 1985) fresh i).packet =
      (counting 1985).packet (fresh (lenS3tpPdu * i)) source size) :
      (passCall (counting 1985) fresh i).packet.pdu = (counting 1985).copied source size := by
    rw [same, (counting 1985).pdu_packet _ _ _ bound]
  intro equal
  rw [Submission.calls, if_pos long, fragmentCalls_eq, count, ← Submission.copied_zero_len] at equal
  simp only [content, List.map_cons, List.map_nil, List.flatMap_cons, List.flatMap_nil, List.append_nil,
    pdu 0 0 992 (by decide) rfl, pdu 1 992 992 (by decide) rfl, pdu 2 2976 1 (by decide) rfl] at equal
  have first := (counting 1985).copied_append 0 992 993
  have second := (counting 1985).copied_append 992 992 1
  rw [← second] at first
  have last := List.append_cancel_left (List.append_cancel_left (equal.trans first.symm))
  exact absurd last (by decide)

/-- A payload of three packets is returned with another last byte. -/
theorem not_endToEnd : ¬ ∀ (fresh : S3tpHeader) (events : List TransferEvent) (s : Transfer),
    Run Transfer.step Used (.started fresh) events s → ∀ port, EndToEnd s port := by
  intro endToEnd
  have calls : ((counting 1985).calls fun _ => default).length = 3 := by
    have long : lenS3tpPdu < (counting 1985).len := by decide
    rw [Submission.calls, if_pos long, fragmentCalls_eq, List.length_map, List.length_range]
    decide
  obtain ⟨events, s, packets, run, accepted, conveys, returned⟩ :=
    exists_run_returned (counting 1985) (fun _ => default) (by decide) (by decide) (by rw [calls]; decide)
  have inOrder := (endToEnd default events s (run.mono fun _ _ met => met.1.1) 5).inOrder
  have payloads : s.acceptedOn 5 = [counting 1985] := by
    rw [Transfer.acceptedOn, accepted]
    rfl
  have once : s.connection.returnedOn 5 = [deliveryOf 5 packets] := returned
  obtain ⟨fresh, data, -⟩ := data_of_conveys conveys 5
  rw [once, payloads, List.map_singleton, List.map_singleton, data] at inOrder
  have same := (List.prefix_cons_iff.mp inOrder).resolve_left (List.cons_ne_nil _ _)
  obtain ⟨_, pair, -⟩ := same
  exact content_calls_1985 fresh (Option.some.inj (Prod.mk.inj (List.cons.inj pair).1).1)

end S3tp.Soundness
