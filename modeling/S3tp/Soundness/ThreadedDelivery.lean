import S3tp.Model.Concurrent.ThreadedLink
import S3tp.Soundness.AtomicTurns
import S3tp.Soundness.FramesInTurn
import S3tp.Soundness.Integrity

/-! # Messages between the threads of two instances

However the threads at either end are interleaved, what the assembly thread is returned is what a receiver behind a
link that is not to be trusted may return: no message mixes packets of two messages, and without sync frames the
messages returned on a port are the first of those stamped for it, each once and in order. The port has been given
fewer packets than there are sequence numbers, and the receiving instance is not stopped and takes no message of a
packet's port before the packet flushes the queues.

The sender's threads are seen as a run of `TxSystem` and the receiver's as one of `RxSystem`. The one followed by the
other is a run of `LossyLink`: a frame may arrive long after it was sent.
-/

namespace S3tp.Soundness.ThreadedDelivery

open Machine Model.Core Model.Concurrent
open AtomicTurns (stamps stamping Handed calls)
open FramesInTurn (RxHistory remember)
open Integrity (Tolerated Faithful IsEndOf)
open LossyLink (arriving isLast)

variable {ι : Type*}

/-! ## What is recorded -/

/-- The packets stamped, and what the receiver was handed and has returned. -/
structure LinkHistory where
  stamped : List S3tpPacket := []
  receiver : RxHistory := {}

/-- The messages returned for the port, oldest first. -/
def LinkHistory.returnedOn (h : LinkHistory) (port : UInt8) : List Delivery :=
  h.receiver.delivered.filter fun delivery => delivery.error = codeSuccess ∧ delivery.port = port

/-- The messages stamped for the port, each packet by packet. -/
def LinkHistory.messagesOn (h : LinkHistory) (port : UInt8) : List (List S3tpPacket) :=
  (h.stamped.filter (isDataOn port)).cutAfter isLast

def record (s : ThreadedLink ι) (event : ThreadedLinkEvent ι) (h : LinkHistory) : LinkHistory :=
  match ThreadedLink.onSender event, s.onReceiver event with
  | some own, _ => { h with stamped := h.stamped ++ stamps s.sender own }
  | none, some own => { h with receiver := remember s.receiver own h.receiver }
  | none, none => h

/-- Callers hand over sized packets, what arrives is as it was sent or altered in a way the checksum tells, and the
receiver is not disturbed. -/
def Orderly (s : ThreadedLink ι) : ThreadedLinkEvent ι → Prop
  | .sender (.enqueuePacket _ packet _ _) => SizedPacket packet
  | .sender _ => True
  | .receiver event => FramesInTurn.Undisturbed s.receiver event
  | .arrive index payload _ => ∀ sent ∈ s.sender.link[index]?, Tolerated sent payload

/-- No sync frame is scheduled either. -/
def OrderlyData (s : ThreadedLink ι) (event : ThreadedLinkEvent ι) : Prop :=
  Orderly s event ∧ ∀ syncId, event ≠ .sender (.scheduleSync syncId)

/-- The threads at both ends with what is recorded of them. -/
abbrev recording [DecidableEq ι] :
    ThreadedLink ι × LinkHistory → ThreadedLinkEvent ι → Option (ThreadedLink ι × LinkHistory) :=
  recorded ThreadedLink.step record

/-- One end takes a step, and the history of that end grows. -/
theorem cases_of_recording [DecidableEq ι] {w w' : ThreadedLink ι × LinkHistory} {event : ThreadedLinkEvent ι}
    (stepped : recording w event = some w') :
    (∃ own sender, event = .sender own ∧ w.1.sender.step own = some sender ∧
      w' = ({ w.1 with sender }, { w.2 with stamped := w.2.stamped ++ stamps w.1.sender own })) ∨
    ∃ own receiver, ThreadedLink.onSender event = none ∧ w.1.onReceiver event = some own ∧
      w.1.receiver.step own = some receiver ∧
      w' = ({ w.1 with receiver }, { w.2 with receiver := remember w.1.receiver own w.2.receiver }) := by
  obtain ⟨stepped, same⟩ := recorded_eq_some_iff.mp stepped
  rcases ThreadedLink.cases_of_step stepped with
    ⟨own, sender, rfl, steps, after⟩ | ⟨own, receiver, other, here, steps, after⟩
  · exact .inl ⟨own, sender, rfl, steps, Prod.ext after same⟩
  · simp only [record, other, here] at same
    exact .inr ⟨own, receiver, other, here, steps, Prod.ext after same⟩

/-! ## The sender -/

/-- The run is orderly, and if it is to be quiet no sync frame is scheduled. -/
def Proceeds (quiet : Prop) (s : ThreadedLink ι) (event : ThreadedLinkEvent ι) : Prop :=
  Orderly s event ∧ (quiet → ∀ syncId, event ≠ .sender (.scheduleSync syncId))

/-- What that is for the sender's threads, -/
def SendsSized (quiet : Prop) (_ : TxThreads ι) (event : TxThreadsEvent ι) : Prop :=
  (∀ c packet fragNo more, event = .enqueuePacket c packet fragNo more → SizedPacket packet) ∧
    (quiet → ∀ syncId, event ≠ .scheduleSync syncId)

/-- and what it is for the system they are seen as. -/
def SendsPackets (quiet : Prop) (a : TxSystem ι) (event : TxEvent ι) : Prop :=
  HandsOver a event ∧ (quiet → ∀ syncId, event ≠ .scheduleSync syncId)

variable {quiet : Prop}

theorem sendsPackets_of_calls {s : TxThreads ι} {a : TxSystem ι} {event : TxThreadsEvent ι}
    (handed : ∀ c, Handed SizedPacket (s.caller c)) (sends : SendsSized quiet s event) :
    ∀ call ∈ calls s event, SendsPackets quiet a call := by
  intro call member
  cases event with
  | tx | enqueuePacket | wake | notifyLinkAvailability => simp at member
  | scheduleSync syncId =>
    obtain rfl := List.mem_singleton.mp member
    exact ⟨trivial, fun isQuiet => absurd rfl (sends.2 isQuiet syncId)⟩
  | setChannelAvailable | stopRoutine =>
    obtain rfl := List.mem_singleton.mp member
    exact ⟨trivial, fun _ _ same => by cases same⟩
  | caller c =>
    have sized := handed c
    cases here : s.caller c with
    | stamping packet fragNo more =>
      simp only [calls, here, List.mem_singleton] at member sized
      subst member
      exact ⟨sized, fun _ _ same => by cases same⟩
    | writing packet =>
      simp only [calls, here, List.mem_singleton] at member
      subst member
      exact ⟨trivial, fun _ _ same => by cases same⟩
    | _ => simp [here] at member

/-- The sender alone is a run of the transmitting system that is ahead of the link. -/
theorem exists_run_sender [DecidableEq ι] {fresh : S3tpHeader} {events : List (TxThreadsEvent ι)} {s : TxThreads ι}
    {stamped : List S3tpPacket}
    (run : Run stamping (fun w => SendsSized quiet w.1) (TxThreads.started fresh, []) events (s, stamped)) :
    ∃ (turns : List (TxEvent ι)) (a : TxSystem ι),
      Run TxSystem.step (SendsPackets quiet) (TxSystem.started fresh) turns a ∧ a.enqueued = stamped ∧
        s.link <+: a.link := by
  have turn (a : TxSystem ι) (status : LinkStatus) : SendsPackets quiet a (.iterate status) :=
    ⟨trivial, fun _ _ same => by cases same⟩
  obtain ⟨turns, a, follows, seen, same⟩ := AtomicTurns.exists_run_stamped (SendsSized quiet) (fun _ => SizedPacket) run
    (fun _ c packet fragNo more sends => sends.1 c packet fragNo more rfl) turn
    fun _ _ _ _ handed sends => sendsPackets_of_calls handed sends
  obtain ⟨more, a', ahead, same', earlier⟩ := seen.exists_ahead (turn a)
  exact ⟨turns ++ more, a', follows.append ahead, same'.trans same, earlier⟩

/-! ## The receiver -/

/-- The copy of what may arrive of a frame that was sent. -/
def Arrives (link : List S3tpPacket) (packet : S3tpPacket) : Prop :=
  ∃ sent ∈ link, ∃ payload channel, Tolerated sent payload ∧ packet = S3tpPacket.ofFrame (arriving sent payload) channel

theorem Arrives.mono {link more : List S3tpPacket} {packet : S3tpPacket} (arrives : Arrives link packet)
    (grows : link <+: more) : Arrives more packet := by
  obtain ⟨sent, member, rest⟩ := arrives
  exact ⟨sent, grows.subset member, rest⟩

/-- What arrives at the receiver when it is handed a frame. -/
theorem arrives_of_call {s : ThreadedLink ι} {event : ThreadedLinkEvent ι} {packet : S3tpPacket}
    (met : Orderly s event) (here : s.onReceiver event = some (.call packet)) : Arrives s.sender.link packet := by
  cases event with
  | sender event => simp at here
  | receiver event => cases event <;> simp at here
  | arrive index payload channel =>
    obtain ⟨sent, found, same⟩ := Option.map_eq_some_iff.mp here
    obtain rfl := RxThreadsEvent.call.inj same
    exact ⟨sent, List.mem_of_getElem? found, payload, channel, met sent found, rfl⟩

theorem mem_received_remember {s : RxThreads} {event : RxThreadsEvent} {h : RxHistory} {packet : S3tpPacket}
    (member : packet ∈ (remember s event h).received) : packet ∈ h.received ∨ event = .call packet := by
  cases event with
  | call other =>
    rcases List.mem_append.mp member with before | now
    · exact .inl before
    · exact .inr (by rw [List.mem_singleton.mp now])
  | assembly =>
    left
    simp only [remember] at member
    split at member <;> exact member
  | link | wake | lock | unlock | openPort | closePort | stop => exact .inl member

theorem received_prefix_of_run {a b : RxSystem} {events : List RxEvent} (run : Run RxSystem.step Always a events b) :
    a.received <+: b.received := by
  refine run.invariant (P := fun b => a.received <+: b.received) ?_ List.prefix_rfl
  intro b event c earlier _ stepped
  cases event with
  | openPort =>
    obtain rfl := RxSystem.of_openPort stepped
    exact earlier
  | closePort =>
    obtain rfl := RxSystem.of_closePort stepped
    exact earlier
  | receive =>
    obtain ⟨rx, -, rfl⟩ := RxSystem.of_receive stepped
    exact earlier.trans (List.prefix_append ..)
  | consume =>
    obtain ⟨delivery, rx, -, rfl⟩ := RxSystem.of_consume stepped
    exact earlier

section Runs

variable [DecidableEq ι]

/-- Whatever the receiver is handed was sent. -/
theorem arrives_of_run {fresh : S3tpHeader} {events : List (ThreadedLinkEvent ι)} {w : ThreadedLink ι × LinkHistory}
    (run : Run recording (fun w => Proceeds quiet w.1) (ThreadedLink.started fresh, {}) events w) :
    ∀ packet ∈ w.2.receiver.received, Arrives w.1.sender.link packet := by
  refine run.invariant (P := fun w => ∀ packet ∈ w.2.receiver.received, Arrives w.1.sender.link packet) ?_ (by simp)
  intro w event w' before met stepped packet member
  rcases cases_of_recording stepped with ⟨own, sender, rfl, steps, rfl⟩ | ⟨own, receiver, -, here, -, rfl⟩
  · exact (before packet member).mono (TxThreads.link_prefix_of_step steps)
  · rcases mem_received_remember member with earlier | rfl
    · exact before packet earlier
    · have arrives : Arrives w.1.sender.link packet := arrives_of_call met.1 here
      exact arrives

/-! ## Either end alone -/

section Ends

variable {fresh : S3tpHeader} {events : List (ThreadedLinkEvent ι)} {s : ThreadedLink ι} {h : LinkHistory}
  (run : Run recording (fun w => Proceeds quiet w.1) (ThreadedLink.started fresh, {}) events (s, h))

include run

theorem exists_run_onSender : ∃ own, Run stamping (fun w => SendsSized quiet w.1) (TxThreads.started fresh, []) own
    (s.sender, h.stamped) := by
  refine ⟨_, run.component (fun w => (w.1.sender, w.2.stamped)) (fun _ event => ThreadedLink.onSender event) ?_ ?_⟩
  · intro w event w' stepped
    rcases cases_of_recording stepped with ⟨own, sender, rfl, steps, rfl⟩ | ⟨own, receiver, other, -, -, rfl⟩
    · exact .inr ⟨own, rfl, recorded_eq_some_iff.mpr ⟨steps, rfl⟩⟩
    · exact .inl ⟨other, rfl⟩
  · intro w event met own concerns
    cases event with
    | sender event =>
      obtain rfl := Option.some.inj concerns
      refine ⟨fun c packet fragNo more same => ?_, fun isQuiet syncId same => met.2 isQuiet syncId (same ▸ rfl)⟩
      subst same
      exact met.1
    | receiver | arrive => simp at concerns

theorem exists_run_onReceiver : ∃ own, Run (recorded RxThreads.step remember) (fun w => FramesInTurn.Undisturbed w.1)
    (RxThreads.started, {}) own (s.receiver, h.receiver) := by
  refine ⟨_, run.component (fun w => (w.1.receiver, w.2.receiver)) (fun w event => w.1.onReceiver event) ?_ ?_⟩
  · intro w event w' stepped
    rcases cases_of_recording stepped with ⟨own, sender, rfl, -, rfl⟩ | ⟨own, receiver, -, here, steps, rfl⟩
    · exact .inl ⟨rfl, rfl⟩
    · exact .inr ⟨own, here, recorded_eq_some_iff.mpr ⟨steps, rfl⟩⟩
  · intro w event met own concerns
    cases event with
    | sender => simp at concerns
    | arrive =>
      obtain ⟨sent, -, rfl⟩ := Option.map_eq_some_iff.mp concerns
      trivial
    | receiver event =>
      cases event with
      | call => simp at concerns
      | assembly | link | wake | lock | unlock | openPort | closePort | stop =>
        obtain rfl := Option.some.inj concerns
        exact met.1

end Ends

/-! ## One after the other -/

/-- The two systems with the link between them. -/
def linked (sender : TxSystem ι) (a : RxSystem) : LossyLink ι := { sender, rx := a.rx, delivered := a.delivered }

/-- What that is for the link. -/
def Follows (quiet : Prop) (s : LossyLink ι) (event : LossyEvent ι) : Prop :=
  Faithful s event ∧ (quiet → ∀ syncId, event ≠ .sender (.scheduleSync syncId))

theorem exists_run_sending {fresh : S3tpHeader} {turns : List (TxEvent ι)} {a : TxSystem ι}
    (run : Run TxSystem.step (SendsPackets quiet) (TxSystem.started fresh) turns a) :
    ∃ events, Run LossyLink.step (Follows quiet) (LossyLink.started fresh) events (linked a RxSystem.started) := by
  have follows : Run LossyLink.step (Follows quiet) (linked (TxSystem.started fresh) RxSystem.started)
      (trace TxSystem.step (fun _ event => [.sender event]) (TxSystem.started fresh) turns)
      (linked a RxSystem.started) := by
    refine run.refines (P := fun _ => True) (fun a => linked a RxSystem.started) trivial ?_
    intro a event b _ met stepped
    have silent (isQuiet : quiet) (syncId : UInt8) (same : LossyEvent.sender event = .sender (.scheduleSync syncId)) :
        False := met.2 isQuiet syncId (LossyEvent.sender.inj same)
    refine ⟨trivial, .cons ⟨met.1, silent⟩ ?_ (.nil _)⟩
    simp only [LossyLink.step, linked, stepped, Option.map_some]
  exact ⟨_, follows⟩

theorem exists_run_receiving {sender : TxSystem ι} {a b : RxSystem} {event : RxEvent}
    (isSealed : ∀ sent ∈ sender.link, Sealed sent) (active : a.rx.active = true)
    (arrives : ∀ packet, event = .receive packet → Arrives sender.link packet) (stepped : a.step event = some b) :
    b.rx.active = true ∧ ∃ lossy, Run LossyLink.step (Follows quiet) (linked sender a) [lossy] (linked sender b) := by
  have free := RxSystem.not_held_of_step stepped
  cases event with
  | openPort port =>
    obtain rfl := RxSystem.of_openPort stepped
    refine ⟨by rw [RxModule.openPort_frame]; exact active, .openPort port, .cons ⟨trivial, by simp⟩ ?_ (.nil _)⟩
    simp [LossyLink.step, linked, free]
  | closePort port =>
    obtain rfl := RxSystem.of_closePort stepped
    refine ⟨by rw [RxModule.closePort_frame]; exact active, .closePort port, .cons ⟨trivial, by simp⟩ ?_ (.nil _)⟩
    simp [LossyLink.step, linked, free]
  | receive packet =>
    obtain ⟨rx, rfl, rfl⟩ := RxSystem.of_receive stepped
    obtain ⟨sent, member, payload, channel, tolerated, rfl⟩ := arrives packet rfl
    obtain ⟨index, found⟩ := List.getElem?_of_mem member
    have handled := Integrity.handled_of_tolerated channel active (isSealed sent member) tolerated fun _ => 0
    refine ⟨(Integrity.handleReceivedPacket_active _ _).trans active, .arrive index payload channel fun _ => 0,
      .cons ⟨fun other among => ?_, by simp⟩ ?_ (.nil _)⟩
    · obtain rfl := Option.some.inj (found.symm.trans among)
      exact tolerated
    · simp [LossyLink.step, linked, free, found, handled, Integrity.ofFrame_arriving]
  | consume =>
    obtain ⟨delivery, rx, consumes, rfl⟩ := RxSystem.of_consume stepped
    refine ⟨?_, .consume, .cons ⟨trivial, by simp⟩ ?_ (.nil _)⟩
    · rw [(RxModule.drains_of_getNextCompleteMessage consumes).frame]
      exact active
    · simp [LossyLink.step, linked, free, consumes]

/-- What is received in the systems is what arrives over the link. -/
theorem exists_run_lossy {sender : TxSystem ι} {a b : RxSystem} {events : List RxEvent}
    (isSealed : ∀ sent ∈ sender.link, Sealed sent) (run : Run RxSystem.step Always a events b)
    (active : a.rx.active = true) (arrives : ∀ packet ∈ b.received, Arrives sender.link packet) :
    ∃ lossy, Run LossyLink.step (Follows quiet) (linked sender a) lossy (linked sender b) := by
  induction run with
  | nil a => exact ⟨[], .nil _⟩
  | @cons a mid b event events _ stepped rest ih =>
    have arrived (packet : S3tpPacket) (same : event = .receive packet) : Arrives sender.link packet := by
      subst same
      obtain ⟨rx, -, rfl⟩ := RxSystem.of_receive stepped
      exact arrives packet ((received_prefix_of_run rest).subset (by simp))
    obtain ⟨active', now, first⟩ := exists_run_receiving isSealed active arrived stepped
    obtain ⟨lossy, later⟩ := ih active' arrives
    exact ⟨[now] ++ lossy, first.append later⟩

/-- However the threads are interleaved, there is a link between the two systems on which the same is stamped and the
same is returned. -/
theorem exists_run_lossyLink (quiet : Prop) {fresh : S3tpHeader} {events : List (ThreadedLinkEvent ι)}
    {s : ThreadedLink ι} {history : LinkHistory}
    (run : Run recording (fun w => Proceeds quiet w.1) (ThreadedLink.started fresh, {}) events (s, history)) :
    ∃ (lossy : List (LossyEvent ι)) (l : LossyLink ι),
      Run LossyLink.step (Follows quiet) (LossyLink.started fresh) lossy l ∧
      l.sender.enqueued = history.stamped ∧ l.delivered = history.receiver.delivered := by
  obtain ⟨own, sends⟩ := exists_run_onSender run
  obtain ⟨turns, a, transmits, stamped, ahead⟩ := exists_run_sender sends
  obtain ⟨own', receives⟩ := exists_run_onReceiver run
  obtain ⟨turns', b, follows, seen⟩ := FramesInTurn.exists_run_seenAs receives
  have provenance : Provenance a :=
    transmits.invariant (fun _ _ _ before met stepped => before.step met.1 stepped) (.started fresh)
  have arrives (packet : S3tpPacket) (member : packet ∈ b.received) : Arrives a.link packet :=
    (arrives_of_run run packet (seen.isPrefix.subset member)).mono ahead
  obtain ⟨first, sent⟩ := exists_run_sending transmits
  have isSealed (frame : S3tpPacket) (member : frame ∈ a.link) : Sealed frame := (provenance.link frame member).1
  obtain ⟨later, received⟩ := exists_run_lossy isSealed follows rfl arrives
  exact ⟨first ++ later, linked a b, sent.append received, stamped, seen.delivered.symm⟩

variable {fresh : S3tpHeader} {events : List (ThreadedLinkEvent ι)} {s : ThreadedLink ι} {history : LinkHistory}

/-- No message that is returned mixes packets of two messages. -/
theorem ends_of_threads
    (run : Run recording (fun w => Orderly w.1) (ThreadedLink.started fresh, {}) events (s, history)) (port : UInt8)
    (few : (history.stamped.filter (isDataOn port)).length < 256) :
    ∀ delivery ∈ history.returnedOn port, ∃ message ∈ history.messagesOn port, IsEndOf message port delivery := by
  obtain ⟨lossy, l, follows, stamped, delivered⟩ :=
    exists_run_lossyLink False (run.mono fun _ _ met => ⟨met, False.elim⟩)
  have returns := Integrity.returnsEnds_of_run (follows.mono fun _ _ met => met.1) port
  rw [LinkHistory.returnedOn, LinkHistory.messagesOn, ← stamped, ← delivered]
  rw [← stamped] at few
  exact returns few

/-- Without sync frames the messages returned are the first of those stamped. -/
theorem returned_prefix_of_threads
    (run : Run recording (fun w => OrderlyData w.1) (ThreadedLink.started fresh, {}) events (s, history)) (port : UInt8)
    (few : (history.stamped.filter (isDataOn port)).length < 256) :
    history.returnedOn port <+: (history.messagesOn port).map (deliveryOf port) := by
  obtain ⟨lossy, l, follows, stamped, delivered⟩ :=
    exists_run_lossyLink True (run.mono fun _ _ met => ⟨met.1, fun _ => met.2⟩)
  have returns := Integrity.returnsFirst_of_run (follows.mono fun _ _ met => ⟨met.1, met.2 trivial⟩) port
  rw [LinkHistory.returnedOn, LinkHistory.messagesOn, ← stamped, ← delivered]
  rw [← stamped] at few
  exact returns.isPrefix few

end Runs

/-! ## One packet twice -/

instance (packet : S3tpPacket) : Decidable (SizedPacket packet) := inferInstanceAs (Decidable (_ ∧ _))

/-- What arrives is as it was sent. -/
def Intact (s : ThreadedLink ι) : ThreadedLinkEvent ι → Prop
  | .sender (.enqueuePacket _ packet _ _) => SizedPacket packet
  | .sender (.scheduleSync _) => False
  | .sender _ => True
  | .receiver event => FramesInTurn.Undisturbed s.receiver event
  | .arrive index payload _ => ∀ sent ∈ s.sender.link[index]?, payload = sent.pdu

instance (s : ThreadedLink ι) (event : ThreadedLinkEvent ι) : Decidable (Intact s event) := by
  unfold Intact
  split <;> infer_instance

theorem orderlyData_of_intact {s : ThreadedLink ι} {event : ThreadedLinkEvent ι} (intact : Intact s event) :
    OrderlyData s event := by
  cases event with
  | receiver => exact ⟨intact, by simp⟩
  | arrive => exact ⟨fun sent found => .inl (intact sent found), by simp⟩
  | sender event =>
    cases event with
    | scheduleSync => exact intact.elim
    | enqueuePacket => exact ⟨intact, by simp⟩
    | tx | caller | wake | setChannelAvailable | notifyLinkAvailability | stopRoutine => exact ⟨trivial, by simp⟩

/-- A packet is stamped, written and sent. -/
def packetSent : List (ThreadedLinkEvent UInt8) :=
  .sender (.enqueuePacket 5 (oneByte 0) 0 false) :: List.replicate 7 (.sender (.caller 5)) ++
    List.replicate 10 (.sender (.tx ⟨true, false⟩))

/-- It arrives twice. The message is taken when the second copy is in the queue and the queue has not been scanned. -/
def packetTaken : List (ThreadedLinkEvent UInt8) :=
  .receiver (.openPort 5) :: .arrive 0 [0] 0 :: List.replicate 13 (.receiver .link) ++
    .arrive 0 [0] 0 :: List.replicate 7 (.receiver .link) ++ List.replicate 17 (.receiver .assembly) ++
    List.replicate 4 (.receiver .link)

theorem exists_run_twice : ∃ s history,
    Run recording (fun w => OrderlyData w.1) (ThreadedLink.started default, {}) (packetSent ++ packetTaken)
      (s, history) ∧ (history.returnedOn 5).length = 1 ∧ (history.stamped.filter (isDataOn 5)).length < 256 := by
  have runs : ((packetSent ++ packetTaken).foldlM (fun w event => if Intact w.1 event then recording w event else none)
      (ThreadedLink.started default, {})).map (fun w => ((w.2.returnedOn 5).length,
        (w.2.stamped.filter (isDataOn 5)).length)) = some (1, 1) := by decide +kernel
  obtain ⟨⟨s, history⟩, runs, lengths⟩ := Option.map_eq_some_iff.mp runs
  obtain ⟨returned, stamped⟩ := Prod.mk.inj lengths
  have run := (Run.iff_foldlM.mpr runs).mono fun _ _ => orderlyData_of_intact
  exact ⟨s, history, run, returned, by rw [stamped]; decide⟩

theorem ends_of_threads_twice : ∃ history : LinkHistory, (∀ delivery ∈ history.returnedOn 5,
    ∃ message ∈ history.messagesOn 5, IsEndOf message 5 delivery) ∧ (history.returnedOn 5).length = 1 := by
  obtain ⟨s, history, run, returned, few⟩ := exists_run_twice
  exact ⟨history, ends_of_threads (run.mono fun _ _ met => met.1) 5 few, returned⟩

/-- The message is returned once. -/
theorem returned_prefix_of_threads_twice : ∃ history : LinkHistory,
    history.returnedOn 5 <+: (history.messagesOn 5).map (deliveryOf 5) ∧ (history.returnedOn 5).length = 1 := by
  obtain ⟨s, history, run, returned, few⟩ := exists_run_twice
  exact ⟨history, returned_prefix_of_threads run 5 few, returned⟩

end S3tp.Soundness.ThreadedDelivery
