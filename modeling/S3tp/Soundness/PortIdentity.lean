import S3tp.Model.Concurrent.Daemon
import S3tp.Soundness.GlobalOrder
import S3tp.Soundness.Sending

/-! # Ports and the clients that registered them

The daemon admits a client on any of the 256 ports, and the header has seven bits for the port. As long as only
clients on ports up to 127 hand messages over, each packet carries the port its client has registered, and the
queue, the sequence numbers and the frames of a port are those of its client alone.
-/

namespace S3tp.Soundness

open Model.Core Model.Concurrent Machine

/-! ## What the transmitting module holds has been stamped -/

/-- Every packet that is pending, held or sent has been stamped, and each port counts its own. -/
structure Sourced {ι : Type*} (s : TxSystem ι) : Prop where
  data : ∀ packet ∈ s.enqueued, isData packet = true
  pending : ∀ caller, ∀ packet ∈ s.pending caller, packet ∈ s.enqueued
  held : ∀ port, ∀ packet ∈ s.tx.outBuffer.held port, packet ∈ s.enqueued
  sent : ∀ frame ∈ dataFrames s, ∃ packet ∈ s.enqueued, ∃ globalSeq, frame = packet.setGlobalSequence globalSeq
  numbered : ∀ port, s.tx.portSequence port = UInt8.ofNat (s.enqueuedOn port).length

namespace Sourced

variable {ι : Type*} {s t : TxSystem ι}

theorem started (fresh : S3tpHeader) : Sourced (TxSystem.started fresh : TxSystem ι) where
  data _ member := by simp [TxSystem.started] at member
  pending _ _ member := by simp [TxSystem.started] at member
  held _ _ member := by simp [TxSystem.started, TxModule.reset, TxModule.startRoutine, Buffer.clear] at member
  sent _ member := by simp [dataFrames, TxSystem.started] at member
  numbered _ := rfl

theorem enqueue [DecidableEq ι] (sourced : Sourced s) {caller : ι} {packet : S3tpPacket} {fragNo : UInt8}
    {moreFragments : Bool} (stepped : s.step (.enqueue caller packet fragNo moreFragments) = some t) : Sourced t := by
  rcases TxSystem.cases_of_enqueue stepped with ⟨-, rfl⟩ | ⟨-, rfl⟩
  · exact sourced
  have isNew : isData (s.tx.stamped packet fragNo moreFragments) = true := by
    rw [isData, TxModule.stamped_getMessageType]
    rfl
  have earlier {other : S3tpPacket} (member : other ∈ s.enqueued) :
      other ∈ s.enqueued ++ [s.tx.stamped packet fragNo moreFragments] := List.mem_append_left _ member
  refine ⟨?_, ?_, fun port other member => earlier (sourced.held port other member), ?_, ?_⟩
  · simpa [or_imp, forall_and, isNew] using sourced.data
  · intro other held member
    rcases TxSystem.mem_pending_update member with ⟨-, isNew⟩ | before
    · obtain rfl := Option.some.inj isNew
      simp
    · exact earlier (sourced.pending other held before)
  · intro frame member
    obtain ⟨origin, stamped, sentAs⟩ := sourced.sent frame member
    exact ⟨origin, earlier stamped, sentAs⟩
  · intro port
    have own : isDataOn port (s.tx.stamped packet fragNo moreFragments) = decide (packet.getPort = port) := by
      simp [isDataOn, Bool.beq_eq_decide_eq]
    have before := sourced.numbered port
    simp only [TxModule.advance, TxSystem.enqueuedOn, List.filter_append, List.filter_singleton, own]
    rcases Classical.em (packet.getPort = port) with rfl | different
    · simp [TxSystem.enqueuedOn] at before ⊢
      rw [before]
    · simp [TxSystem.enqueuedOn, different, Ne.symm different] at before ⊢
      exact before

theorem write [DecidableEq ι] (sourced : Sourced s) {caller : ι} (stepped : s.step (.write caller) = some t) :
    Sourced t := by
  obtain ⟨packet, pending, rfl⟩ := Option.map_eq_some_iff.mp stepped
  refine ⟨sourced.data, ?_, ?_, sourced.sent, sourced.numbered⟩
  · intro other held member
    rcases TxSystem.mem_pending_update member with ⟨-, nothing⟩ | before
    · contradiction
    · exact sourced.pending other held before
  · intro port held member
    rcases Buffer.mem_held_write member with ⟨rfl, rfl⟩ | before
    · exact sourced.pending caller held pending
    · exact sourced.held port held before

/-- The packet that is sent has been held. -/
theorem dataTurn (sourced : Sourced s) : Sourced
    { s with tx := s.tx.dataTurn.1, link := s.link ++ s.tx.dataTurn.2 } := by
  rcases s.tx.dataTurn_cases with ⟨state, idle⟩ | ⟨port, packet, buffer, popped, sends⟩
  · rw [idle]
    refine ⟨sourced.data, sourced.pending, sourced.held, ?_, sourced.numbered⟩
    simpa [dataFrames] using sourced.sent
  rw [sends]
  have head := (Buffer.held_of_popPacketInternal popped).1
  refine ⟨sourced.data, sourced.pending, ?_, ?_, sourced.numbered⟩
  · intro other held member
    exact sourced.held other held (Buffer.mem_held_of_popPacketInternal popped member)
  · intro frame member
    simp only [dataFrames, List.filter_append, List.mem_append] at member
    rcases member with before | isNew
    · exact sourced.sent frame before
    · obtain rfl := List.mem_singleton.mp (List.mem_filter.mp isNew).1
      exact ⟨packet, sourced.held port packet (by simp [head]), _, rfl⟩

/-- A sync frame is no data frame. -/
theorem syncTurn (sourced : Sourced s) (inv : LoopInvariant s) (link : LinkStatus) : Sourced
    { s with tx := (s.tx.syncTurn link).1, link := s.link ++ (s.tx.syncTurn link).2 } := by
  have noData := LoopInvariant.sync_frames s.tx link inv.sync
  obtain ⟨channelBlacklist, scheduledSync, syncPacket, after⟩ := s.tx.syncTurn_frame link
  refine ⟨sourced.data, sourced.pending, ?_, ?_, ?_⟩
  · rw [after]
    exact sourced.held
  · simpa [dataFrames, noData] using sourced.sent
  · rw [after]
    exact sourced.numbered

theorem iterate (sourced : Sourced s) (inv : LoopInvariant s) (link : LinkStatus) :
    Sourced { s with tx := (s.tx.iterate link).1, link := s.link ++ (s.tx.iterate link).2 } := by
  rcases s.tx.iterate_cases link with idle | turn
  · rw [idle]
    refine ⟨sourced.data, sourced.pending, sourced.held, ?_, sourced.numbered⟩
    simpa [dataFrames] using sourced.sent
  · rw [turn, ← List.append_assoc]
    exact (sourced.syncTurn inv link).dataTurn

theorem step [DecidableEq ι] (sourced : Sourced s) (inv : LoopInvariant s) {event : TxEvent ι}
    (stepped : s.step event = some t) : Sourced t := by
  cases event with
  | enqueue caller packet fragNo moreFragments => exact sourced.enqueue stepped
  | write caller => exact sourced.write stepped
  | iterate link =>
    obtain ⟨-, rfl⟩ := TxSystem.of_iterate stepped
    exact sourced.iterate inv link
  | setChannelAvailable | scheduleSync | stopRoutine =>
    obtain rfl := Option.some.inj stepped
    exact ⟨sourced.data, sourced.pending, sourced.held, sourced.sent, sourced.numbered⟩

end Sourced

/-! ## Messages of the clients -/

/-- A packet is stamped for a client whose port the header can hold. -/
def InRange (s : Daemon) : DaemonEvent → Prop
  | .enqueue address => ∀ call ∈ s.calls address, call.submission.port ≤ 127
  | _ => True

/-- Each packet carries the port its client has registered, and what belongs to a port belongs to its client: the
packets that are queued for it, the data frames the other side receives on it, and its sequence number, which
counts the packets of its client. -/
structure PortIdentity (s : Daemon) : Prop where
  carried : ∀ made ∈ s.produced, made.2.getPort = made.1
  queued : ∀ port, ∀ packet ∈ s.sender.tx.outBuffer.held port, (port, packet) ∈ s.produced
  sent : ∀ frame ∈ dataFrames s.sender, ∃ packet globalSeq, (frame.getPort, packet) ∈ s.produced ∧
    frame = packet.setGlobalSequence globalSeq
  numbered : ∀ port, s.sender.tx.portSequence port =
    UInt8.ofNat (s.produced.filter fun made => made.1 = port).length

/-- The packets of the calls under way are filled with as much of their ports as the header holds. -/
structure Labelled (s : Daemon) : Prop where
  loop : LoopInvariant s.sender
  sourced : Sourced s.sender
  produced : s.produced.map Prod.snd = s.sender.enqueued
  carried : ∀ made ∈ s.produced, made.2.getPort = made.1
  calls : ∀ address, ∀ underWay ∈ s.calls address, ∀ call ∈ underWay.remaining,
    call.packet.getPort = underWay.submission.port &&& 0x7F

namespace Labelled

variable {s t : Daemon}

theorem started (fresh : S3tpHeader) : Labelled (Daemon.started fresh) where
  loop := .started fresh
  sourced := .started fresh
  produced := rfl
  carried _ member := by simp [Daemon.started] at member
  calls _ _ member := by simp [Daemon.started] at member

theorem congr (labelled : Labelled s) (sender : t.sender = s.sender) (produced : t.produced = s.produced)
    (calls : t.calls = s.calls) : Labelled t := by
  refine ⟨?_, ?_, ?_, ?_, ?_⟩
  · rw [sender]
    exact labelled.loop
  · rw [sender]
    exact labelled.sourced
  · rw [sender, produced]
    exact labelled.produced
  · rw [produced]
    exact labelled.carried
  · rw [calls]
    exact labelled.calls

/-- The transmitting module goes on without a new packet. -/
theorem onSender (labelled : Labelled s) {event : TxEvent ℕ} {sender : TxSystem ℕ}
    (stepped : s.sender.step event = some sender) (stamped : sender.enqueued = s.sender.enqueued) :
    Labelled { s with sender } where
  loop := labelled.loop.step stepped
  sourced := labelled.sourced.step labelled.loop stepped
  produced := labelled.produced.trans stamped.symm
  carried := labelled.carried
  calls := labelled.calls

theorem senderStep (labelled : Labelled s) {event : DaemonEvent} (inRange : InRange s event)
    (stepped : s.senderStep event = some t) : Labelled t := by
  cases event with
  | onApplicationMessage address memory len opts fresh =>
    simp only [Daemon.senderStep] at stepped
    split at stepped
    · contradiction
    split at stepped
    · contradiction
    split at stepped
    · obtain rfl := Option.some.inj stepped
      exact labelled
    · obtain rfl := Option.some.inj stepped
      refine ⟨labelled.loop, labelled.sourced, labelled.produced, labelled.carried, ?_⟩
      intro other underWay member call remains
      rcases Classical.em (other = address) with rfl | different
      · simp only [Function.update_self, Option.mem_def, Option.some.injEq] at member
        subst member
        exact (filled_of_mem_calls remains).1
      · exact labelled.calls other underWay (by simpa [different] using member) call remains
  | enqueue address =>
    simp only [Daemon.senderStep] at stepped
    split at stepped
    · next m call rest underWay =>
      obtain ⟨sender, steps, rfl⟩ := Option.map_eq_some_iff.mp stepped
      have own : call.packet.getPort = m.port := by
        rw [labelled.calls address _ underWay call (by simp)]
        exact and_127_of_le (inRange _ underWay)
      obtain ⟨enqueued, ofPort⟩ := TxSystem.enqueued_of_enqueue steps
      refine ⟨labelled.loop.step steps, labelled.sourced.step labelled.loop steps, ?_, ?_, ?_⟩
      · simp [enqueued, labelled.produced]
      · intro made member
        rcases List.mem_append.mp member with before | isNew
        · exact labelled.carried made before
        · obtain ⟨packet, pending, rfl⟩ := List.mem_map.mp isNew
          exact (ofPort packet (Option.mem_toList.mp pending)).trans own
      · intro other underWay' member call' remains
        rcases Classical.em (other = address) with rfl | different
        · simp only [Function.update_self, Option.mem_def, Option.some.injEq] at member
          subst member
          exact labelled.calls other _ underWay call' (List.mem_cons_of_mem _ remains)
        · exact labelled.calls other underWay' (by simpa [different] using member) call' remains
    · contradiction
  | write address =>
    simp only [Daemon.senderStep] at stepped
    split at stepped
    · contradiction
    · next m remaining underWay =>
      obtain ⟨sender, steps, rfl⟩ := Option.map_eq_some_iff.mp stepped
      have stamped : sender.enqueued = s.sender.enqueued := by
        obtain ⟨packet, -, rfl⟩ := Option.map_eq_some_iff.mp steps
        rfl
      obtain ⟨loop, sourced, produced, carried, calls⟩ := labelled.onSender steps stamped
      refine ⟨loop, sourced, produced, carried, ?_⟩
      intro other underWay' member
      have before : underWay' ∈ s.calls other := by
        split at member
        · rcases Classical.em (other = address) with rfl | different
          · simp at member
          · simpa [different] using member
        · exact member
      exact calls other underWay' before
  | iterate link =>
    obtain ⟨sender, steps, rfl⟩ := Option.map_eq_some_iff.mp stepped
    refine labelled.onSender steps ?_
    obtain ⟨-, rfl⟩ := TxSystem.of_iterate steps
    rfl
  | setChannelAvailable channel available =>
    have steps : s.sender.step (.setChannelAvailable channel available) = some _ := rfl
    obtain rfl := Option.some.inj stepped
    exact labelled.onSender steps rfl
  | scheduleSync syncId =>
    have steps : s.sender.step (.scheduleSync syncId) = some _ := rfl
    obtain rfl := Option.some.inj stepped
    exact labelled.onSender steps rfl
  | _ => contradiction

theorem step (labelled : Labelled s) {event : DaemonEvent} (inRange : InRange s event)
    (stepped : s.step event = some t) : Labelled t := by
  have alive := Daemon.alive_of_step stepped
  simp only [Daemon.step, alive, Bool.false_eq_true, if_false] at stepped
  cases event with
  | registry event =>
    obtain ⟨registry, rx, opening, rfl⟩ := Daemon.registryStep_frame stepped
    exact labelled.congr rfl rfl rfl
  | openPort =>
    obtain ⟨address, -, ⟨-, -, registry, rfl⟩ | ⟨client, -, rfl⟩⟩ := Daemon.openPortStep_cases stepped
    · exact labelled.congr rfl rfl rfl
    · exact labelled.congr rfl rfl rfl
  | receive | receiveData | consume | forward =>
    obtain ⟨registry, rx, handling, inHand, received, forwarded, rfl⟩ := Daemon.receiverStep_frame stepped
    exact labelled.congr rfl rfl rfl
  | onApplicationMessage | enqueue | write | iterate | setChannelAvailable | scheduleSync =>
    exact labelled.senderStep inRange stepped

theorem portIdentity (labelled : Labelled s) : PortIdentity s := by
  have origin {packet : S3tpPacket} (stamped : packet ∈ s.sender.enqueued) :
      (packet.getPort, packet) ∈ s.produced := by
    rw [← labelled.produced] at stamped
    obtain ⟨made, member, rfl⟩ := List.mem_map.mp stamped
    rw [labelled.carried made member]
    exact member
  refine ⟨labelled.carried, ?_, ?_, ?_⟩
  · intro port packet member
    obtain ⟨rfl, -⟩ := labelled.loop.queued port packet member
    exact origin (labelled.sourced.held _ packet member)
  · intro frame member
    obtain ⟨packet, stamped, globalSeq, rfl⟩ := labelled.sourced.sent frame member
    exact ⟨packet, globalSeq, origin stamped, rfl⟩
  · intro port
    have own (made : UInt8 × S3tpPacket) (member : made ∈ s.produced) :
        isDataOn port made.2 = decide (made.1 = port) := by
      have data : isData made.2 = true := by
        refine labelled.sourced.data made.2 ?_
        rw [← labelled.produced]
        exact List.mem_map_of_mem member
      rw [isData] at data
      rw [isDataOn, data, labelled.carried made member, Bool.true_and, Bool.beq_eq_decide_eq]
    rw [labelled.sourced.numbered port, TxSystem.enqueuedOn, ← labelled.produced, List.filter_map, List.length_map]
    congr 2
    exact List.filter_congr own

end Labelled

/-- While the header can hold the ports of the clients that hand messages over, each client has its port for
itself. -/
theorem portIdentity_of_inRange {fresh : S3tpHeader} {events : List DaemonEvent} {s : Daemon}
    (run : Run Daemon.step InRange (Daemon.started fresh) events s) : PortIdentity s :=
  (run.invariant (fun _ _ _ (labelled : Labelled _) inRange stepped => labelled.step inRange stepped)
    (.started fresh)).portIdentity

/-- A client connects on the port. -/
def connecting (port : UInt8) : List DaemonEvent :=
  [.registry .accept, .registry .endCleanup, .registry (.configure port 0), .registry .register, .openPort]

/-- A message of one byte of the client's. -/
def byteOf (client : Client) : Submission where
  channel := client.virtualChannel
  port := client.appPort
  memory := fun _ => 0
  len := 1
  opts := 0

theorem calls_byteOf (client : Client) (fresh : ℕ → S3tpHeader) :
    (byteOf client).calls fresh = [(byteOf client).simpleCall (fresh 0)] := by
  have small : ¬ lenS3tpPdu < 1 := by decide
  exact if_neg small

/-- The client's thread is in its loop, and nothing keeps the transmitting module from taking its message. -/
structure ReadyToCall (s : Daemon) (address : ℕ) (client : Client) : Prop where
  noFault : s.registry.fault = none
  running : s.registry.thread address = some .running
  object : s.client address = some client
  idle : s.calls address = none
  unpending : s.sender.pending address = none
  active : s.sender.tx.active = true
  admitted : s.sender.tx.admission (byteOf client) = codeSuccess

/-- The client's call is under way. -/
def calling (s : Daemon) (address : ℕ) (client : Client) : Daemon :=
  { s with calls := Function.update s.calls address (some ⟨byteOf client, (byteOf client).calls fun _ => default⟩) }

/-- The client hands over its message, and it is stamped. -/
theorem ReadyToCall.exists_run {s : Daemon} {address : ℕ} {client : Client} (ready : ReadyToCall s address client)
    {meets : Daemon → DaemonEvent → Prop}
    (calls : meets s (.onApplicationMessage address (fun _ => 0) 1 0 fun _ => default))
    (enqueues : meets (calling s address client) (.enqueue address)) :
    ∃ events t packet, Run Daemon.step meets s events t ∧ packet.getPort = client.appPort &&& 0x7F ∧
      t.produced = s.produced ++ [(client.appPort, packet)] := by
  have alive : s.registry.fault.isSome = false := by simp [ready.noFault]
  have call : s.step (.onApplicationMessage address (fun _ => 0) 1 0 fun _ => default) =
      some (calling s address client) := by
    have admitted := ready.admitted
    rw [byteOf] at admitted
    simp [Daemon.step, alive, Daemon.senderStep, ready.object, ready.running, ready.idle, admitted, calling, byteOf]
  set packet := s.sender.tx.stamped ((byteOf client).simpleCall default).packet 0 false with isPacket
  have stamps : s.sender.step (.enqueue address ((byteOf client).simpleCall default).packet 0 false) = some _ :=
    TxSystem.step_enqueue ready.active ready.unpending _ _ _
  have underWay : (calling s address client).calls address =
      some ⟨byteOf client, [(byteOf client).simpleCall default]⟩ := by
    simp [calling, calls_byteOf]
  have enqueue := Daemon.step_enqueue (s := calling s address client) alive underWay stamps
  refine ⟨_, _, packet, .cons calls call (.cons enqueues enqueue (.nil _)), ?_, ?_⟩
  · rw [isPacket, TxModule.stamped_getPort]
    exact (byteOf client).getPort_packet default 0 1
  · rw [isPacket]
    simp [calling, byteOf]

/-- Clients connect on two ports that the header does not tell apart. -/
theorem exists_run_connecting : ∃ s,
    Run Daemon.step InRange (Daemon.started default) (connecting 5 ++ connecting 133) s ∧ s.produced = [] ∧
      ReadyToCall s 0 ⟨5, 0, true⟩ ∧ ReadyToCall s 1 ⟨133, 0, true⟩ := by
  refine ⟨_, .cons trivial rfl (.cons trivial rfl (.cons trivial rfl (.cons trivial rfl (.cons trivial rfl (
    .cons trivial rfl (.cons trivial rfl (.cons trivial rfl (.cons trivial rfl (.cons trivial rfl (.nil _)))))))))),
    ?_, ?_, ?_⟩
  · rfl
  · exact ⟨rfl, rfl, rfl, rfl, rfl, rfl, by decide⟩
  · exact ⟨rfl, rfl, rfl, rfl, rfl, rfl, by decide⟩

/-- The first client hands over a message, and the second does not. -/
theorem portIdentity_of_inRange_one : ∃ s : Daemon, s.produced.map Prod.fst = [5] ∧ PortIdentity s := by
  obtain ⟨s, connects, none, ready, -⟩ := exists_run_connecting
  have fits : InRange (calling s 0 ⟨5, 0, true⟩) (.enqueue 0) := by
    intro call underWay
    simp only [calling, Function.update_self, Option.mem_def, Option.some.injEq] at underWay
    subst underWay
    decide
  obtain ⟨events, t, packet, run, -, produced⟩ := ready.exists_run trivial fits
  refine ⟨t, ?_, portIdentity_of_inRange (connects.append run)⟩
  simp [produced, none]

/-- The packet of the client on port 133 is a packet of port 5. -/
theorem exists_run_not_portIdentity :
    ∃ events s, Run Daemon.step Always (Daemon.started default) events s ∧ ¬ PortIdentity s := by
  obtain ⟨s, connects, none, -, ready⟩ := exists_run_connecting
  have message : ∃ events t packet, Run Daemon.step Always s events t ∧ _ ∧ _ := ready.exists_run trivial trivial
  obtain ⟨events, t, packet, run, ofPort, produced⟩ := message
  refine ⟨_, t, connects.always.append run, fun identity => ?_⟩
  have carried := identity.carried (133, packet) (by simp [produced])
  have clash : (133 : UInt8) &&& 0x7F ≠ 133 := by decide
  exact clash (ofPort.symm.trans carried)

end S3tp.Soundness
