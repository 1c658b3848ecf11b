import S3tp.Model.Concurrent.Connection
import S3tp.Soundness.GlobalOrder
import S3tp.Soundness.SyncAgreement

/-! # Sync frames on a healthy connection

A sync frame overwrites two things at the receiver: the numbers it expects on each port, and the last
global number it takes to be received. If the first are the numbers it expects already, it goes on as if
the frame had not come, but for where its window is. That plays a part only in which queues a data packet
makes the window clear. A sender without its sync frames hands the same data frames to the link.

The numbers a frame reports are those stamped, so the receiver expects another one as soon as a packet is
still to be consumed: what was sent before is never returned.
-/

namespace S3tp.Soundness

open Model.Core Model.Core.RxModule Model.Concurrent Machine

/-! ## A sender without its sync frames -/

/-- The module with nothing scheduled and another sync packet. -/
def withoutSync (tx : TxModule) (syncPacket : S3tpPacket) : TxModule := { tx with scheduledSync := false, syncPacket }

/-- The turn would send the sync frame if the buffer of its channel were not full. -/
def turnsAway (tx : TxModule) (link : LinkStatus) : Bool :=
  link.bufferFull && tx.sendsSync { link with bufferFull := false }

section Sender

variable (tx : TxModule) (syncPacket : S3tpPacket)

theorem dataTurn_withoutSync : (withoutSync tx syncPacket).dataTurn =
    (withoutSync tx.dataTurn.1 syncPacket, tx.dataTurn.2) := by
  have next : (if (withoutSync tx syncPacket).sendingFragments then
      (withoutSync tx syncPacket).outBuffer.getNextPacket (withoutSync tx syncPacket).policy
        (withoutSync tx syncPacket).currentPort
      else (withoutSync tx syncPacket).outBuffer.getNextAvailablePacket (withoutSync tx syncPacket).policy) =
      if tx.sendingFragments then tx.outBuffer.getNextPacket tx.policy tx.currentPort
      else tx.outBuffer.getNextAvailablePacket tx.policy := rfl
  have available : (withoutSync tx syncPacket).outBuffer = tx.outBuffer := rfl
  simp only [TxModule.dataTurn]
  rw [next, available]
  split
  · rfl
  split
  · rfl
  · rfl

/-- The sync block sends nothing but the sync frame, and leaves nothing else behind. -/
theorem syncTurn_withoutSync {link : LinkStatus} (up : link.up = true) (channels : tx.channelsAvailable = true)
    (taken : turnsAway tx link = false) (sync : tx.syncPacket.header.getMessageType = msgSync) :
    withoutSync (tx.syncTurn link).1 syncPacket = withoutSync tx syncPacket ∧
      (tx.syncTurn link).2.filter (fun frame => !isSyncFrame frame) = [] := by
  simp only [TxModule.syncTurn]
  split
  · next due =>
    have room : link.bufferFull = false := by
      simp only [Bool.and_eq_true] at due
      simpa [turnsAway, TxModule.sendsSync, up, channels, due] using taken
    rw [room, if_neg Bool.false_ne_true]
    have sent : tx.synchronizeStatus.syncPacket.header.getMessageType = msgSync := sync
    exact ⟨rfl, by simp [isSyncFrame, sent]⟩
  · exact ⟨rfl, rfl⟩

/-- A turn that turns no sync frame away hands the same data frames to the link. -/
theorem iterate_withoutSync {link : LinkStatus} (taken : turnsAway tx link = false)
    (sync : tx.syncPacket.header.getMessageType = msgSync)
    (data : ∀ frame ∈ (tx.syncTurn link).1.dataTurn.2, isSyncFrame frame = false) :
    (withoutSync tx syncPacket).iterate link =
      (withoutSync (tx.iterate link).1 syncPacket, (tx.iterate link).2.filter fun frame => !isSyncFrame frame) := by
  have channels : (withoutSync tx syncPacket).channelsAvailable = tx.channelsAvailable := rfl
  cases ready : !link.up || !tx.channelsAvailable with
  | true =>
    simp only [TxModule.iterate, channels, ready, if_true]
    rfl
  | false =>
    have quiet : (withoutSync tx syncPacket).syncTurn link = (withoutSync tx syncPacket, []) := rfl
    obtain ⟨up, open'⟩ : link.up = true ∧ tx.channelsAvailable = true := by simpa using ready
    obtain ⟨same, none⟩ := syncTurn_withoutSync tx syncPacket up open' taken sync
    simp only [TxModule.iterate, channels, ready, quiet, Bool.false_eq_true, if_false, List.nil_append,
      List.filter_append, none]
    rw [← same, dataTurn_withoutSync, List.filter_eq_self.mpr fun frame member => by simp [data frame member]]

end Sender

/-! ## A receiver with its window elsewhere -/

/-- The module with its window at another place. -/
def withWindow (rx : RxModule) (toConsumeGlobalSeq lastReceivedGlobalSeq : UInt8) : RxModule :=
  { rx with toConsumeGlobalSeq, lastReceivedGlobalSeq }

section Receiver

variable (rx : RxModule) (lower newest : UInt8)

@[simp] theorem withWindow_currentPortSequence :
    (withWindow rx lower newest).currentPortSequence = rx.currentPortSequence := rfl

theorem openPort_withWindow (port : UInt8) : ((withWindow rx lower newest).openPort port).2 =
    withWindow (rx.openPort port).2 lower newest := by
  have same : (withWindow rx lower newest).active = rx.active := rfl
  have ports : (withWindow rx lower newest).openPorts = rx.openPorts := rfl
  simp only [openPort, same, ports]
  repeat' split
  all_goals rfl

theorem closePort_withWindow (port : UInt8) : ((withWindow rx lower newest).closePort port).2 =
    withWindow (rx.closePort port).2 lower newest := by
  have same : (withWindow rx lower newest).active = rx.active := rfl
  have ports : (withWindow rx lower newest).openPorts = rx.openPorts := rfl
  simp only [closePort, same, ports]
  repeat' split
  all_goals rfl

theorem getNextPacket_withWindow (port : UInt8) :
    (withWindow rx lower newest).inBuffer.getNextPacket (withWindow rx lower newest).policy port =
      rx.inBuffer.getNextPacket rx.policy port := rfl

/-- Where the window is plays no part in assembling a message. -/
theorem assemble_withWindow (port : UInt8) (data : List UInt8) (len : UInt16) :
    (withWindow rx lower newest).assemble port data len =
      (rx.assemble port data len).map fun (delivery, rx) => (delivery, withWindow rx lower newest) := by
  fun_induction assemble rx port data len with
  | case1 rx data len none =>
    rw [assemble]
    split
    · rfl
    · next taken =>
      rw [getNextPacket_withWindow, none] at taken
      contradiction
  | case2 rx data len pkt inBuffer popped unexpected =>
    rw [← getNextPacket_withWindow rx lower newest] at popped
    rw [assemble_of_pop popped, withWindow_currentPortSequence, if_pos unexpected]
    rfl
  | case3 rx data len pkt inBuffer popped expected after data' len' =>
    rename_i final
    rw [← getNextPacket_withWindow rx lower newest] at popped
    rw [assemble_of_pop popped, withWindow_currentPortSequence, if_neg expected, if_pos final]
    rfl
  | case4 rx data len pkt inBuffer popped expected after data' len' flagged ih =>
    rw [← getNextPacket_withWindow rx lower newest] at popped
    rw [assemble_of_pop popped, withWindow_currentPortSequence, if_neg expected, if_neg flagged]
    exact ih

theorem refreshAvailability_withWindow (port : UInt8) : (withWindow rx lower newest).refreshAvailability port =
    withWindow (rx.refreshAvailability port) lower newest := by
  rw [refreshAvailability_frame, refreshAvailability_frame]
  rfl

/-- Nor does it in consuming one. -/
theorem getNextCompleteMessage_withWindow : (withWindow rx lower newest).getNextCompleteMessage =
    rx.getNextCompleteMessage.map fun (delivery, rx) => (delivery, withWindow rx lower newest) := by
  have active : (withWindow rx lower newest).active = rx.active := rfl
  have flags : (withWindow rx lower newest).availableMessages = rx.availableMessages := rfl
  simp only [getNextCompleteMessage, active, flags, assemble_withWindow]
  split
  · rfl
  split
  · rfl
  next port _ =>
  cases rx.assemble port [] 0 with
  | none => rfl
  | some answer =>
    simp only [Option.map_some, refreshAvailability_withWindow]
    split <;> rfl

/-- The packet makes the two modules clear the same queues: its own before it is linked, and those that
are too old once the window is full. -/
structure WindowAlike (rx rx' : RxModule) (packet : S3tpPacket) : Prop where
  written : rx'.inBuffer.windowExceeded rx'.policy packet = rx.inBuffer.windowExceeded rx.policy packet
  flushed : ∀ port, rx'.Flushes packet port ↔ rx.Flushes packet port

theorem writePacket_withWindow {packet : S3tpPacket} (alike : WindowAlike rx (withWindow rx lower newest) packet) :
    (withWindow rx lower newest).writePacket packet = withWindow (rx.writePacket packet) lower newest := by
  have same : (withWindow rx lower newest).inBuffer.write (withWindow rx lower newest).policy packet =
      rx.inBuffer.write rx.policy packet := Buffer.write_congr alike.written rfl
  rw [writePacket, same]
  rfl

theorem notifyIfComplete_withWindow (port : UInt8) : (withWindow rx lower newest).notifyIfComplete port =
    withWindow (rx.notifyIfComplete port) lower newest := by
  rw [notifyIfComplete_frame, notifyIfComplete_frame]
  rfl

/-- Where the window is plays a part in what it clears, and only there. -/
theorem updateWindow_withWindow (packet : S3tpPacket) (alike : 128 ≤ (rx.receivingWindow + 1).toNat →
    ∀ port ∈ rx.inBuffer.getActiveQueues,
      (withWindow rx lower newest).tooOld (rx.inBuffer.queues port) = rx.tooOld (rx.inBuffer.queues port)) :
    ∃ lower' newest', (withWindow rx lower newest).updateWindow packet =
      withWindow (rx.updateWindow packet) lower' newest' := by
  have size : (withWindow rx lower newest).receivingWindow = rx.receivingWindow := rfl
  rcases Nat.lt_or_ge (rx.receivingWindow + 1).toNat 128 with room | full
  · refine ⟨lower, (withWindow rx lower newest).newestGlobalSeq packet, ?_⟩
    rw [updateWindow_of_lt rx packet room, updateWindow_of_lt _ packet (size ▸ room)]
    rfl
  · have buffer : (withWindow rx lower newest).flushQueues.inBuffer = rx.flushQueues.inBuffer :=
      foldl_flushQueue_congr (alike full)
    refine ⟨(withWindow rx lower newest).newestGlobalSeq packet,
      (withWindow rx lower newest).newestGlobalSeq packet, ?_⟩
    rw [updateWindow_of_ge rx packet full, updateWindow_of_ge _ packet (size ▸ full), buffer]
    rfl

/-- Receiving a packet that makes both clear the same queues moves nothing but the window apart. -/
theorem receiveData_withWindow {packet : S3tpPacket} (alike : WindowAlike rx (withWindow rx lower newest) packet) :
    ∃ lower' newest', (withWindow rx lower newest).receiveData packet =
      withWindow (rx.receiveData packet) lower' newest' := by
  have written := writePacket_withWindow rx lower newest alike
  rw [receiveData, written, notifyIfComplete_withWindow, receiveData]
  apply updateWindow_withWindow
  rw [notifyIfComplete_frame]
  intro full port active
  have flushed := alike.flushed port
  rw [Flushes, Flushes, written] at flushed
  rw [Bool.eq_iff_iff]
  exact ⟨fun old => (flushed.mp ⟨full, active, old⟩).2.2, fun old => (flushed.mpr ⟨full, active, old⟩).2.2⟩

end Receiver

/-- The frame reports zero, or the number the module expects, for every port. -/
def ReportsExpected (rx : RxModule) (frame : S3tpPacket) : Prop :=
  ∀ port : Fin 128, (S3tpSync.ofBytes frame.payload).portSeq port = 0 ∨
    (S3tpSync.ofBytes frame.payload).portSeq port = rx.currentPortSequence (UInt8.ofNat port)

/-- Such a report moves nothing but the window. -/
theorem synchronizeStatus_of_reportsExpected {rx : RxModule} {frame : S3tpPacket}
    (expected : ReportsExpected rx frame) (lower newest : UInt8) :
    withWindow (rx.synchronizeStatus (S3tpSync.ofBytes frame.payload)) lower newest = withWindow rx lower newest := by
  have same : (rx.synchronizeStatus (S3tpSync.ofBytes frame.payload)).currentPortSequence =
      rx.currentPortSequence := by
    funext port
    simp only [synchronizeStatus]
    split
    · next inRange =>
      rcases expected ⟨port.toNat, inRange⟩ with zero | known
      · simp [zero]
      · simp [known]
    · rfl
  rw [withWindow, same]
  rfl

/-- A frame that changes nothing but the window can be left out. -/
theorem handleReceivedPacket_sync_withWindow {rx : RxModule} {frame : S3tpPacket} (sync : isSyncFrame frame = true)
    (expected : rx.synchronizes frame = true → ReportsExpected rx frame) (lower newest : UInt8) :
    withWindow (rx.handleReceivedPacket frame).2.2 lower newest = withWindow rx lower newest := by
  cases synced : rx.synchronizes frame with
  | true =>
    rw [handleReceivedPacket_of_synchronizes synced]
    exact synchronizeStatus_of_reportsExpected (expected synced) lower newest
  | false =>
    have refused : rx.accepts frame = false := by
      have type : frame.header.getMessageType = msgSync := by simpa [isSyncFrame] using sync
      have notData : msgSync ≠ msgData := by decide
      simp [accepts, type, notData]
    rw [handleReceivedPacket_of_refused refused synced]

theorem handleReceivedPacket_data_withWindow {rx : RxModule} {lower newest : UInt8} {frame : S3tpPacket}
    (data : isSyncFrame frame = false)
    (alike : rx.accepts frame = true → WindowAlike rx (withWindow rx lower newest) frame) :
    ∃ lower' newest', ((withWindow rx lower newest).handleReceivedPacket frame).2.2 =
      withWindow (rx.handleReceivedPacket frame).2.2 lower' newest' := by
  have same : (withWindow rx lower newest).accepts frame = rx.accepts frame := rfl
  cases accepted : rx.accepts frame with
  | true =>
    rw [handleReceivedPacket_of_accepts accepted, handleReceivedPacket_of_accepts (same.trans accepted)]
    simp only
    exact receiveData_withWindow rx lower newest (alike accepted)
  | false =>
    have unsynced : rx.synchronizes frame = false := by
      rw [isSyncFrame] at data
      simp [synchronizes, data]
    rw [handleReceivedPacket_of_refused accepted unsynced,
      handleReceivedPacket_of_refused (same.trans accepted) unsynced]
    exact ⟨lower, newest, rfl⟩

/-! ## One step of both connections -/

section Steps

variable {ι : Type*}

def dataOf (frames : List S3tpPacket) : List S3tpPacket := frames.filter fun frame => !isSyncFrame frame

/-- The sender without its sync frames. -/
def senderWithout (s : TxSystem ι) (syncPacket : S3tpPacket) : TxSystem ι :=
  { s with tx := withoutSync s.tx syncPacket, link := dataOf s.link }

/-- The receiver without the sync frames it got, and with its window elsewhere. -/
def receiverWithout (s : RxSystem) (lower newest : UInt8) : RxSystem :=
  { s with rx := withWindow s.rx lower newest, received := dataOf s.received }

/-- Every step of the sender that schedules no sync frame is one of the sender without them. -/
theorem step_senderWithout [DecidableEq ι] {s t : TxSystem ι} (loop : LoopInvariant s) (syncPacket : S3tpPacket)
    {event : TxEvent ι} (unscheduled : ∀ syncId, event ≠ .scheduleSync syncId)
    (taken : ∀ link, event = .iterate link → turnsAway s.tx link = false) (stepped : s.step event = some t) :
    (senderWithout s syncPacket).step event = some (senderWithout t syncPacket) := by
  cases event with
  | enqueue caller packet fragNo moreFragments =>
    have idle : (senderWithout s syncPacket).pending caller = none := TxSystem.idle_of_enqueue (s := s) stepped
    rcases TxSystem.cases_of_enqueue stepped with ⟨inactive, same⟩ | ⟨active, rfl⟩
    · have stays : (senderWithout s syncPacket).tx.active = false := inactive
      rw [same]
      exact TxSystem.step_enqueue_inactive stays idle packet fragNo moreFragments
    · have stays : (senderWithout s syncPacket).tx.active = true := active
      exact TxSystem.step_enqueue stays idle packet fragNo moreFragments
  | write caller =>
    obtain ⟨packet, pending, rfl⟩ := Option.map_eq_some_iff.mp stepped
    have pending' : (senderWithout s syncPacket).pending caller = some packet := pending
    rw [TxSystem.step_write pending']
    rfl
  | iterate link =>
    have active : (senderWithout s syncPacket).tx.active = s.tx.active := rfl
    have data : ∀ frame ∈ (s.tx.syncTurn link).1.dataTurn.2, isSyncFrame frame = false := by
      intro frame member
      have type : frame.header.getMessageType = msgData := by
        simpa [isData] using (loop.syncTurn link).data_of_dataTurn frame member
      rw [isSyncFrame, type]
      decide
    have turn := iterate_withoutSync s.tx syncPacket (taken link rfl) loop.sync data
    obtain ⟨running, rfl⟩ := TxSystem.of_iterate stepped
    rw [TxSystem.step_iterate (active.trans running)]
    simp only [turn, senderWithout, dataOf, List.filter_append]
  | setChannelAvailable =>
    obtain rfl := Option.some.inj stepped
    rfl
  | scheduleSync syncId => exact absurd rfl (unscheduled syncId)
  | stopRoutine =>
    obtain rfl := Option.some.inj stepped
    rfl

/-- So is every step of the receiver that receives nothing. -/
theorem step_receiverWithout {s t : RxSystem} (lower newest : UInt8) {event : RxEvent}
    (silent : ∀ packet, event ≠ .receive packet) (stepped : s.step event = some t) :
    (receiverWithout s lower newest).step event = some (receiverWithout t lower newest) := by
  have held : (receiverWithout s lower newest).rx.rxMutexHeld = false := by
    rw [← RxSystem.not_held_of_step stepped]
    rfl
  cases event with
  | openPort port =>
    obtain rfl := RxSystem.of_openPort stepped
    rw [RxSystem.step, if_neg (by simp [held])]
    simp only [receiverWithout, openPort_withWindow]
  | closePort port =>
    obtain rfl := RxSystem.of_closePort stepped
    rw [RxSystem.step, if_neg (by simp [held])]
    simp only [receiverWithout, closePort_withWindow]
  | receive packet => exact absurd rfl (silent packet)
  | consume =>
    obtain ⟨delivery, rx, consumes, rfl⟩ := RxSystem.of_consume stepped
    rw [RxSystem.step, if_neg (by simp [held])]
    simp only [receiverWithout, getNextCompleteMessage_withWindow, consumes]
    rfl

/-- And so is receiving a data frame, wherever that takes the window. -/
theorem receive_receiverWithout {s t : RxSystem} {lower newest : UInt8} {frame : S3tpPacket}
    (data : isSyncFrame frame = false)
    (alike : s.rx.accepts frame = true → WindowAlike s.rx (withWindow s.rx lower newest) frame)
    (stepped : s.step (.receive frame) = some t) : ∃ lower' newest',
    (receiverWithout s lower newest).step (.receive frame) = some (receiverWithout t lower' newest') := by
  have free := RxSystem.not_held_of_step stepped
  obtain ⟨rx, received, rfl⟩ := RxSystem.of_receive stepped
  obtain ⟨lower', newest', moved⟩ := handleReceivedPacket_data_withWindow data alike
  refine ⟨lower', newest', ?_⟩
  rw [← received] at moved
  have kept : dataOf (s.received ++ [frame]) = dataOf s.received ++ [frame] := by
    simp [dataOf, data]
  rw [RxSystem.step, if_neg (by simp [receiverWithout, withWindow, free])]
  simp only [receiverWithout, moved, kept]

/-- No turn finds a sync frame due and the buffer of its channel full: the frame is sent. -/
def Emits (pair : Connection ι × Connection ι) : ConnectionEvent ι → Prop
  | .sender (.iterate link) => turnsAway pair.1.sender.tx link = false
  | _ => True

/-- A sync frame that arrives reports what the receiver expects, and a data packet makes the windows of
the two receivers clear the same queues. -/
def Undisturbed (pair : Connection ι × Connection ι) : ConnectionEvent ι → Prop
  | .deliver => ∀ frame ∈ pair.1.inFlight.head?,
      (pair.1.receiver.rx.synchronizes frame = true → ReportsExpected pair.1.receiver.rx frame) ∧
      (pair.1.receiver.rx.accepts frame = true → WindowAlike pair.1.receiver.rx pair.2.receiver.rx frame)
  | _ => True

/-- The second connection is the first without its sync frames. -/
structure Mirrors (pair : Connection ι × Connection ι) : Prop where
  loop : LoopInvariant pair.1.sender
  received : pair.1.receiver.received <+: pair.1.sender.link
  sender : ∃ syncPacket, pair.2.sender = senderWithout pair.1.sender syncPacket
  receiver : ∃ lower newest, pair.2.receiver = receiverWithout pair.1.receiver lower newest

namespace Mirrors

variable {pair : Connection ι × Connection ι} {first : Connection ι} {event : ConnectionEvent ι}

theorem started (fresh : S3tpHeader) : Mirrors (Connection.started (ι := ι) fresh, Connection.started fresh) where
  loop := LoopInvariant.started fresh
  received := List.prefix_rfl
  sender := ⟨_, rfl⟩
  receiver := ⟨_, _, rfl⟩

theorem inFlight (mirrors : Mirrors pair) : pair.2.inFlight = dataOf pair.1.inFlight := by
  obtain ⟨syncPacket, sender⟩ := mirrors.sender
  obtain ⟨lower, newest, receiver⟩ := mirrors.receiver
  have split : dataOf pair.1.receiver.received ++ dataOf pair.1.inFlight = dataOf pair.1.sender.link := by
    rw [dataOf, dataOf, ← List.filter_append, Connection.received_append_inFlight mirrors.received]
    rfl
  have link : pair.2.sender.link = dataOf pair.1.sender.link := by rw [sender]; rfl
  have received : pair.2.receiver.received = dataOf pair.1.receiver.received := by rw [receiver]; rfl
  rw [Connection.inFlight, link, received, ← split, List.drop_left]

/-- What the first receiver does without receiving, the second does too. -/
theorem follow_receiver (mirrors : Mirrors pair) {event : RxEvent} (silent : ∀ packet, event ≠ .receive packet)
    {next : RxSystem} (steps : pair.1.receiver.step event = some next)
    (received : next.received <+: pair.1.sender.link) : ∃ next', pair.2.receiver.step event = some next' ∧
      Mirrors ({ pair.1 with receiver := next }, { pair.2 with receiver := next' }) := by
  obtain ⟨lower, newest, receiver⟩ := mirrors.receiver
  have follows := step_receiverWithout lower newest silent steps
  rw [← receiver] at follows
  exact ⟨_, follows, mirrors.loop, received, mirrors.sender, lower, newest, rfl⟩

/-- A step that concerns no sync frame is one of the second connection too. -/
theorem follow [DecidableEq ι] (mirrors : Mirrors pair) (emits : Emits pair event) (met : Undisturbed pair event)
    (spared : pair.1.concernsSync event = false) (stepped : pair.1.step event = some first) :
    ∃ second, pair.2.step event = some second ∧ Mirrors (first, second) := by
  have received := Connection.inOrder_of_step mirrors.received stepped
  obtain ⟨syncPacket, sender⟩ := mirrors.sender
  obtain ⟨lower, newest, receiver⟩ := mirrors.receiver
  cases event with
  | sender event =>
    obtain ⟨next, steps, rfl⟩ := Connection.of_sender stepped
    have unscheduled (syncId : UInt8) : event ≠ .scheduleSync syncId := by
      rintro rfl
      exact absurd spared Bool.true_eq_false.mp
    have taken (link : LinkStatus) (turn : event = .iterate link) : turnsAway pair.1.sender.tx link = false := by
      subst turn
      exact emits
    have follows := step_senderWithout mirrors.loop syncPacket unscheduled taken steps
    rw [← sender] at follows
    refine ⟨{ pair.2 with sender := senderWithout next syncPacket }, ?_, ?_⟩
    · rw [Connection.step, follows]
      rfl
    · exact ⟨mirrors.loop.step steps, received, ⟨syncPacket, rfl⟩, ⟨lower, newest, receiver⟩⟩
  | deliver =>
    obtain ⟨frame, rest, next, flight, steps, rfl⟩ := Connection.of_deliver stepped
    have data : isSyncFrame frame = false := by
      simpa [Connection.concernsSync, flight] using spared
    have flight' : pair.2.inFlight = frame :: dataOf rest := by
      rw [mirrors.inFlight, flight, dataOf, List.filter_cons_of_pos (by simp [data])]
      rfl
    have alike := (met frame (by simp [flight])).2
    rw [receiver] at alike
    obtain ⟨lower', newest', follows⟩ := receive_receiverWithout data alike steps
    rw [← receiver] at follows
    refine ⟨{ pair.2 with receiver := receiverWithout next lower' newest' }, ?_, ?_⟩
    · rw [Connection.step_deliver flight', follows]
      rfl
    · exact ⟨mirrors.loop, received, ⟨syncPacket, sender⟩, ⟨lower', newest', rfl⟩⟩
  | openPort port =>
    obtain ⟨next, steps, rfl⟩ := Connection.of_openPort stepped
    obtain ⟨next', follows, further⟩ := mirrors.follow_receiver (by simp) steps received
    exact ⟨_, congrArg (Option.map _) follows, further⟩
  | closePort port =>
    obtain ⟨next, steps, rfl⟩ := Connection.of_closePort stepped
    obtain ⟨next', follows, further⟩ := mirrors.follow_receiver (by simp) steps received
    exact ⟨_, congrArg (Option.map _) follows, further⟩
  | consume =>
    obtain ⟨next, steps, rfl⟩ := Connection.of_consume stepped
    obtain ⟨next', follows, further⟩ := mirrors.follow_receiver (by simp) steps received
    exact ⟨_, congrArg (Option.map _) follows, further⟩

/-- A step that schedules or delivers a sync frame leaves the second connection what the first is
without sync frames. -/
theorem spare [DecidableEq ι] (mirrors : Mirrors pair) (met : Undisturbed pair event)
    (concerns : pair.1.concernsSync event = true) (stepped : pair.1.step event = some first) :
    Mirrors (first, pair.2) := by
  have received := Connection.inOrder_of_step mirrors.received stepped
  obtain ⟨syncPacket, sender⟩ := mirrors.sender
  obtain ⟨lower, newest, receiver⟩ := mirrors.receiver
  cases event with
  | sender event =>
    cases event with
    | scheduleSync syncId =>
      obtain ⟨next, steps, rfl⟩ := Connection.of_sender stepped
      have loop := mirrors.loop.step steps
      obtain rfl := Option.some.inj steps
      exact ⟨loop, received, ⟨syncPacket, sender⟩, ⟨lower, newest, receiver⟩⟩
    | _ => contradiction
  | deliver =>
    obtain ⟨frame, rest, next, flight, steps, rfl⟩ := Connection.of_deliver stepped
    have sync : isSyncFrame frame = true := by
      simpa [Connection.concernsSync, flight] using concerns
    obtain ⟨rx, result, rfl⟩ := RxSystem.of_receive steps
    have same := handleReceivedPacket_sync_withWindow sync (met frame (by simp [flight])).1 lower newest
    rw [← result] at same
    refine ⟨mirrors.loop, received, ⟨syncPacket, sender⟩, lower, newest, ?_⟩
    have dropped : dataOf (pair.1.receiver.received ++ [frame]) = dataOf pair.1.receiver.received := by
      simp [dataOf, sync]
    rw [receiver, receiverWithout, receiverWithout, same, dropped]
  | _ => contradiction

theorem step [DecidableEq ι] {next : Connection ι × Connection ι} (mirrors : Mirrors pair)
    (met : Emits pair event ∧ Undisturbed pair event) (stepped : Connection.stepWithout pair event = some next) :
    Mirrors next := by
  rw [Connection.stepWithout] at stepped
  split at stepped
  · next concerns =>
    obtain ⟨first, steps, rfl⟩ := Option.map_eq_some_iff.mp stepped
    exact mirrors.spare met.2 concerns steps
  · next spared =>
    obtain ⟨steps, steps'⟩ := both_eq_some_iff.mp stepped
    obtain ⟨second, follows, further⟩ := mirrors.follow met.1 met.2 (by simpa using spared) steps
    obtain rfl : second = next.2 := Option.some.inj (follows.symm.trans steps')
    exact further

/-- The second connection is able to take every step of the first that it is not spared. -/
theorem exists_step [DecidableEq ι] (mirrors : Mirrors pair) (met : Emits pair event ∧ Undisturbed pair event)
    (stepped : pair.1.step event = some first) :
    ∃ second, Connection.stepWithout pair event = some (first, second) := by
  cases concerns : pair.1.concernsSync event with
  | true => exact ⟨pair.2, Connection.stepWithout_of_concernsSync concerns stepped⟩
  | false =>
    obtain ⟨second, follows, -⟩ := mirrors.follow met.1 met.2 concerns stepped
    exact ⟨second, Connection.stepWithout_of_spared concerns stepped follows⟩

end Mirrors

/-- In every run in which the sync frames are sent, report what the receiver expects, and leave the window
clearing the same queues, the messages returned are those returned without the sync frames. -/
theorem transparent_of_undisturbed {ι : Type*} [DecidableEq ι] (fresh : S3tpHeader)
    (events : List (ConnectionEvent ι)) (pair : Connection ι × Connection ι)
    (run : Run Connection.stepWithout (fun pair event => Emits pair event ∧ Undisturbed pair event)
      (.started fresh, .started fresh) events pair) (port : UInt8) :
    pair.1.returnedOn port = pair.2.returnedOn port := by
  have mirrors := run.invariant (P := Mirrors) (fun _ _ _ mirrors met stepped => mirrors.step met stepped)
    (Mirrors.started fresh)
  obtain ⟨lower, newest, receiver⟩ := mirrors.receiver
  rw [Connection.returnedOn, Connection.returnedOn, receiver]
  rfl

end Steps

/-! ## A sync frame after its packets and one before -/

/-- A started sender with one packet of port 5 waiting, and a receiver that has the port open. -/
def oneQueued : Connection UInt8 where
  sender := {
    tx := ((TxSystem.started (ι := UInt8) default).tx.advance (oneByte 0).getPort).writePacket firstOne
    pending := Function.update (Function.update (fun _ => none) 5 (some firstOne)) 5 none
    enqueued := [firstOne] }
  receiver := listeningOn5

theorem run_oneQueued : Run Connection.stepWithout (fun pair event => Emits pair event ∧ Undisturbed pair event)
    (.started default, .started default)
    [.openPort 5, .sender (.enqueue 5 (oneByte 0) 0 false), .sender (.write 5)] (oneQueued, oneQueued) :=
  .cons ⟨trivial, trivial⟩ rfl (.cons ⟨trivial, trivial⟩ rfl (.cons ⟨trivial, trivial⟩ rfl (.nil _)))

/-- The packet as it is sent. -/
def oneFrame : S3tpPacket := firstOne.setGlobalSequence 0

theorem oneFrame_eq : oneFrame = fragmentOf 0 0 0 false := rfl

/-- The packet has been sent. -/
def oneSent : Connection UInt8 :=
  { oneQueued with sender := { oneQueued.sender with
      tx := (oneQueued.sender.tx.iterate ⟨true, false⟩).1, link := [oneFrame] } }

/-- It has been sent behind a sync frame. -/
def syncSent : Connection UInt8 :=
  { oneQueued with sender := { oneWaiting with
      tx := (oneWaiting.tx.iterate ⟨true, false⟩).1, link := [oneWaiting.tx.synchronizeStatus.syncPacket, oneFrame] } }

theorem step_oneSent : oneQueued.step (.sender (.iterate ⟨true, false⟩)) = some oneSent := rfl

theorem step_syncSent : Connection.step { oneQueued with sender := oneWaiting } (.sender (.iterate ⟨true, false⟩)) =
    some syncSent := rfl

/-- The sync frame has arrived. -/
def syncArrived : Connection UInt8 :=
  { syncSent with receiver := { listeningOn5 with
      rx := listeningOn5.rx.synchronizeStatus oneWaiting.tx.syncStructure
      received := [oneWaiting.tx.synchronizeStatus.syncPacket] } }

theorem step_syncArrived : syncSent.step .deliver = some syncArrived := by
  have free : listeningOn5.rx.rxMutexHeld = false := by decide
  have sync : oneWaiting.tx.syncPacket.header.getMessageType = msgSync :=
    (TransmitInvariant.started default).sync
  have arrives := handleReceivedPacket_sync listeningOn5.rx oneWaiting.tx (by decide) sync
  have flight : syncSent.inFlight = [oneWaiting.tx.synchronizeStatus.syncPacket, oneFrame] := rfl
  rw [Connection.step_deliver flight]
  have receiver : syncSent.receiver = listeningOn5 := rfl
  rw [receiver, RxSystem.step, if_neg (by simp [free])]
  simp only [arrives]
  rfl

/-- The module's port is open and its mutex free. -/
theorem accepts_oneFrame {s : RxSystem} (active : s.rx.active = true) (portOpen : s.rx.isPortOpen 5 = true) :
    s.rx.accepts oneFrame = true := by
  rw [oneFrame_eq]
  exact accepts_fragmentOf 0 0 0 false active portOpen

/-- The data frame has arrived. -/
def oneArrived (s : Connection UInt8) : Connection UInt8 :=
  { s with receiver := { s.receiver with rx := s.receiver.rx.receiveData oneFrame
                                         received := s.receiver.received ++ [oneFrame] } }

theorem step_oneArrived : oneSent.step .deliver = some (oneArrived oneSent) :=
  Connection.step_deliver_data rfl (by decide) (accepts_oneFrame (by decide) (by decide))

theorem step_oneArrived_syncArrived : syncArrived.step .deliver = some (oneArrived syncArrived) :=
  Connection.step_deliver_data rfl (by decide) (accepts_oneFrame (by decide) (by decide))

/-- What is complete has been consumed. -/
def consumed (s : Connection UInt8) : Connection UInt8 := (s.step .consume).getD s

theorem step_consumed {s : Connection UInt8} (consumes : (s.step .consume).isSome = true) :
    s.step .consume = some (consumed s) := by
  obtain ⟨t, stepped⟩ := Option.isSome_iff_exists.mp consumes
  rw [consumed, stepped, Option.getD_some]

theorem sender_consumed (s : Connection UInt8) : (consumed s).sender = s.sender := by
  rw [consumed]
  cases stepped : s.step .consume with
  | none => rfl
  | some t =>
    obtain ⟨receiver, -, rfl⟩ := Connection.of_consume stepped
    rfl

theorem settled_of_sender {s : Connection UInt8} {sender : TxSystem UInt8} (same : s.sender = sender)
    (pending : sender.pending = oneQueued.sender.pending)
    (rest : sender.tx.outBuffer.packetsAvailable = false ∧ s.inFlight.length = 0 ∧
      s.receiver.rx.isNewMessageAvailable = false) : s.Settled where
  pending caller := by
    rw [same, pending, oneQueued, Function.update_idem, Function.update_eq_self_iff.mpr rfl]
  queued := same ▸ rest.1
  inFlight := List.length_eq_zero_iff.mp rest.2.1
  consumed := rest.2.2

/-- A sync frame is scheduled behind the packet that has been sent. -/
def announcingSent : TxSystem UInt8 := { oneSent.sender with tx := oneSent.sender.tx.scheduleSync 0 }

/-- The frame has been sent, too. -/
def announcedSent : TxSystem UInt8 :=
  { announcingSent with tx := (announcingSent.tx.iterate ⟨true, false⟩).1
                        link := [oneFrame, announcingSent.tx.synchronizeStatus.syncPacket] }

/-- The receiver once the packet has been consumed. -/
def oneConsumed : RxSystem := (consumed (oneArrived oneSent)).receiver

theorem run_oneConsumed : Run Connection.stepWithout (fun pair event => Emits pair event ∧ Undisturbed pair event)
    (oneQueued, oneQueued) [.sender (.iterate ⟨true, false⟩), .deliver, .consume]
    (⟨oneSent.sender, oneConsumed⟩, ⟨oneSent.sender, oneConsumed⟩) := by
  have accepted : oneSent.receiver.rx.accepts oneFrame = true := accepts_oneFrame (by decide) (by decide)
  have undisturbed : Undisturbed (oneSent, oneSent) .deliver := by
    intro frame found
    have flight : oneSent.inFlight = [oneFrame] := rfl
    obtain rfl : oneFrame = frame := by simpa [flight] using found
    refine ⟨fun synced => ?_, fun _ => ⟨rfl, fun _ => Iff.rfl⟩⟩
    exact absurd (accepted.symm.trans (accepts_eq_false_of_synchronizes synced)) Bool.true_eq_false.mp
  have split (s : Connection UInt8) (sender : s.sender = oneSent.sender) : s = ⟨oneSent.sender, s.receiver⟩ := by
    rw [← sender]
  have same : consumed (oneArrived oneSent) = ⟨oneSent.sender, oneConsumed⟩ := split _ (sender_consumed _)
  have consumes := step_consumed (s := oneArrived oneSent) (by decide +kernel)
  rw [same] at consumes
  have emits : turnsAway oneQueued.sender.tx ⟨true, false⟩ = false := by decide
  exact .cons ⟨emits, trivial⟩ (Connection.stepWithout_of_spared rfl step_oneSent step_oneSent)
    (.cons ⟨trivial, undisturbed⟩ (Connection.stepWithout_of_spared rfl step_oneArrived step_oneArrived)
    (.cons ⟨trivial, trivial⟩ (Connection.stepWithout_of_spared rfl consumes consumes) (.nil _)))

/-- The sync frame reports one packet on port 5, and that one has been consumed. -/
theorem reportsExpected_announcingSent :
    ReportsExpected oneConsumed.rx announcingSent.tx.synchronizeStatus.syncPacket := by
  have payload : S3tpSync.ofBytes announcingSent.tx.synchronizeStatus.syncPacket.payload =
      announcingSent.tx.syncStructure := S3tpSync.ofBytes_toBytes _
  rw [ReportsExpected, payload]
  decide +kernel

theorem returnedOn_of_delivered {s : Connection UInt8} (delivered : s.receiver.delivered = oneConsumed.delivered) :
    s.returnedOn 5 = [⟨some [0], 1, codeSuccess, 5⟩] := by
  have once : oneConsumed.delivered = [⟨some [0], 1, codeSuccess, 5⟩] := by decide +kernel
  rw [Connection.returnedOn, delivered, once]
  rfl

/-- A sync frame that leaves once everything has been consumed changes nothing. -/
theorem transparent_of_undisturbed_oneByte : ∃ pair : Connection UInt8 × Connection UInt8,
    pair.1.returnedOn 5 = pair.2.returnedOn 5 ∧ pair.1.returnedOn 5 = [⟨some [0], 1, codeSuccess, 5⟩] ∧
      pair.1.receiver.received.length = 2 := by
  set frame := announcingSent.tx.synchronizeStatus.syncPacket with isFrame
  have free : oneConsumed.rx.rxMutexHeld = false := by decide +kernel
  have flight : Connection.inFlight ⟨announcedSent, oneConsumed⟩ = [frame] := by
    have received : oneConsumed.received.length = 1 := by decide +kernel
    rw [Connection.inFlight, received]
    rfl
  have sync : frame.header.getMessageType = msgSync := by decide +kernel
  have turn : Connection.stepWithout (⟨announcingSent, oneConsumed⟩, ⟨oneSent.sender, oneConsumed⟩)
      (.sender (.iterate ⟨true, false⟩)) = some (⟨announcedSent, oneConsumed⟩, _) :=
    Connection.stepWithout_of_spared rfl rfl rfl
  have undisturbed {second : Connection UInt8} : Undisturbed (⟨announcedSent, oneConsumed⟩, second) .deliver := by
    intro other found
    obtain rfl : frame = other := by simpa [flight] using found
    refine ⟨fun _ => reportsExpected_announcingSent, fun accepted => ?_⟩
    have data : frame.header.getMessageType = msgData := by
      simp only [accepts, Bool.and_eq_true, beq_iff_eq] at accepted
      exact accepted.1.2
    exact absurd (sync.symm.trans data) (by decide)
  obtain ⟨rx, receives⟩ := RxSystem.exists_step_receive free frame
  have arrives : Connection.step ⟨announcedSent, oneConsumed⟩ .deliver = some ⟨announcedSent,
      { oneConsumed with rx, received := oneConsumed.received ++ [frame] }⟩ := by
    rw [Connection.step_deliver flight, receives]
    rfl
  have concerns : Connection.concernsSync ⟨announcedSent, oneConsumed⟩ .deliver = true := by
    simp [Connection.concernsSync, flight, isSyncFrame, sync]
  have scheduled : Connection.stepWithout (⟨oneSent.sender, oneConsumed⟩, ⟨oneSent.sender, oneConsumed⟩)
      (.sender (.scheduleSync 0)) = some (⟨announcingSent, oneConsumed⟩, ⟨oneSent.sender, oneConsumed⟩) :=
    Connection.stepWithout_of_concernsSync rfl rfl
  have emits : turnsAway announcingSent.tx ⟨true, false⟩ = false := by decide
  have run : Run Connection.stepWithout (fun pair event => Emits pair event ∧ Undisturbed pair event)
      (⟨oneSent.sender, oneConsumed⟩, ⟨oneSent.sender, oneConsumed⟩)
      [.sender (.scheduleSync 0), .sender (.iterate ⟨true, false⟩), .deliver] (_, _) :=
    .cons ⟨trivial, trivial⟩ scheduled (.cons ⟨emits, trivial⟩ turn
      (.cons ⟨trivial, undisturbed⟩ (Connection.stepWithout_of_concernsSync concerns arrives) (.nil _)))
  refine ⟨_, transparent_of_undisturbed default _ _ ((run_oneQueued.append run_oneConsumed).append run) 5, ?_, ?_⟩
  · exact returnedOn_of_delivered rfl
  · have received : oneConsumed.received.length = 1 := by decide +kernel
    simp [received]

/-- The packet that was waiting when the sync frame left is never returned. -/
theorem not_transparent : ¬ ∀ (fresh : S3tpHeader) (events : List (ConnectionEvent UInt8))
    (pair : Connection UInt8 × Connection UInt8),
    Run Connection.stepWithout Emits (.started fresh, .started fresh) events pair → pair.1.Settled →
    pair.2.Settled → ∀ port, pair.1.returnedOn port = pair.2.returnedOn port := by
  intro transparent
  have emits (pair : Connection UInt8 × Connection UInt8) (event : ConnectionEvent UInt8)
      (idle : ∀ link, event ≠ .sender (.iterate link)) : Emits pair event := by
    cases event with
    | sender event => cases event <;> simp_all [Emits]
    | _ => trivial
  have run : Run Connection.stepWithout Emits (oneQueued, oneQueued)
      [.sender (.scheduleSync 0), .sender (.iterate ⟨true, false⟩), .deliver, .deliver, .consume]
      (consumed (oneArrived syncArrived), consumed (oneArrived oneSent)) := by
    refine .cons (emits _ _ (by simp)) (Connection.stepWithout_of_concernsSync rfl rfl)
      (.cons (by decide : turnsAway oneWaiting.tx ⟨true, false⟩ = false)
        (Connection.stepWithout_of_spared rfl step_syncSent step_oneSent)
      (.cons (emits _ _ (by simp)) (Connection.stepWithout_of_concernsSync ?_ step_syncArrived)
      (.cons (emits _ _ (by simp))
        (Connection.stepWithout_of_spared ?_ step_oneArrived_syncArrived step_oneArrived)
      (.cons (emits _ _ (by simp)) (Connection.stepWithout_of_spared rfl (step_consumed ?_) (step_consumed ?_))
      (.nil _)))))
    · decide +kernel
    · decide +kernel
    · decide +kernel
    · decide +kernel
  have equal := transparent default _ _ ((run_oneQueued.mono fun _ _ met => met.1).append run)
    (settled_of_sender (sender_consumed _) rfl (by decide +kernel))
    (settled_of_sender (sender_consumed _) rfl (by decide +kernel)) 5
  have never : (consumed (oneArrived syncArrived)).returnedOn 5 = [] := by decide +kernel
  have once : (consumed (oneArrived oneSent)).returnedOn 5 = [⟨some [0], 1, codeSuccess, 5⟩] := by decide +kernel
  rw [never, once] at equal
  exact absurd equal (List.cons_ne_nil _ _).symm

end S3tp.Soundness
