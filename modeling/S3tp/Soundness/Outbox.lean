import S3tp.Machine.PriorityServer
import S3tp.Soundness.GlobalOrder
import S3tp.Soundness.TransmitOrder

/-! # The transmitting module as a server of ports

Seen from outside, the module is a server of queues by priority: the ports are the keys, a write submits a packet, a
turn of the loop on a link that is up serves one, and the packets of a message are a batch. The order by wrapping
numbers, the counter map and the search through it are not seen.
-/

namespace S3tp.Soundness.Outbox

open Model.Core Model.Concurrent Machine

/-- More packets of the message follow. -/
def goesOn (packet : S3tpPacket) : Bool := packet.header.moreFragments ≠ 0

/-- What the module shows of itself. -/
def server (s : TxSystem UInt8) : PriorityServer (Fin 256) S3tpPacket where
  queue port := (s.tx.outBuffer.held (UInt8.ofFin port)).map plain
  current := if s.tx.sendingFragments then some s.tx.currentPort.toFin else none
  served := (dataFrames s).map fun frame => (frame.getPort.toFin, plain frame)

/-- What an event means to the server. -/
def serverEvents (s : TxSystem UInt8) : TxEvent UInt8 → List (ServerEvent (Fin 256) S3tpPacket)
  | .write caller => (s.pending caller).toList.map fun packet => .submit packet.getPort.toFin (plain packet)
  | .iterate link =>
    if link.up && s.tx.channelsAvailable then
      [.serve fun packet => (s.tx.syncTurn link).1.isElementValid packet = true]
    else []
  | _ => []

/-! ## A turn of the loop -/

/-- The search through the ports ends at the first that yields a packet. -/
theorem least_of_getNextAvailablePacket {b next : Buffer} (consistent : b.Consistent) {policy : PolicyActor S3tpPacket}
    {packet : S3tpPacket} (taken : b.getNextAvailablePacket policy = some (packet, next)) :
    ∃ port, b.popPacketInternal policy port = some (packet, next) ∧
      ∀ other < port, b.popPacketInternal policy other = none := by
  rw [Buffer.getNextAvailablePacket] at taken
  split at taken
  · contradiction
  obtain ⟨before, port, after, keys, popped, silent⟩ := List.findSome?_eq_some_iff.mp taken
  refine ⟨port, popped, fun other below => ?_⟩
  by_contra yields
  obtain ⟨⟨first, left⟩, found⟩ := Option.ne_none_iff_exists'.mp yields
  have held := (Buffer.held_of_popPacketInternal found).1
  have among : other ∈ b.packetCounter.keys := by
    rw [ByteMap.mem_keys, consistent.counter other, held]
    rfl
  have ascending := b.packetCounter.keys_pairwise
  rw [keys, List.pairwise_append, List.pairwise_cons] at ascending
  rw [keys, List.mem_append, List.mem_cons] at among
  rcases among with earlier | rfl | later
  · exact yields (silent other earlier)
  · exact absurd below (UInt8.lt_irrefl other)
  · exact absurd (UInt8.lt_trans below (ascending.2.1.1 other later)) (UInt8.lt_irrefl other)

/-- The data block sends nothing, or the head of the current port within a message, or else that of the least port
that yields one. -/
theorem dataTurn_cases_least {tx : TxModule} (consistent : tx.outBuffer.Consistent) :
    (∃ state, tx.dataTurn = ({ tx with state }, [])) ∨
    ∃ port packet buffer, tx.outBuffer.popPacketInternal tx.policy port = some (packet, buffer) ∧
      (tx.sendingFragments = true → port = tx.currentPort) ∧
      (tx.sendingFragments = false → ∀ other < port, tx.outBuffer.popPacketInternal tx.policy other = none) ∧
      tx.dataTurn = (tx.afterTaking packet buffer, [packet.setGlobalSequence tx.globalSeqNum]) := by
  simp only [TxModule.dataTurn]
  split
  · exact .inl ⟨_, rfl⟩
  split
  · exact .inl ⟨_, rfl⟩
  next packet buffer taken =>
  right
  split at taken
  · next within => exact ⟨_, packet, buffer, taken, fun _ => rfl, fun between => by simp [within] at between, rfl⟩
  · next between =>
    obtain ⟨port, popped, silent⟩ := least_of_getNextAvailablePacket consistent taken
    exact ⟨port, packet, buffer, popped, fun within => absurd within between, fun _ => silent, rfl⟩

section Turn

variable {s : TxSystem UInt8} {allowed : S3tpPacket → Prop} {port : Fin 256}

theorem eligible_server_iff : (server s).Eligible allowed port ↔
    (∃ head ∈ (s.tx.outBuffer.held (UInt8.ofFin port)).head?, allowed (plain head)) ∧
    (s.tx.sendingFragments = true → s.tx.currentPort = UInt8.ofFin port) := by
  constructor
  · rintro ⟨⟨item, first, ok⟩, turn⟩
    rw [server, List.head?_map] at first
    obtain ⟨head, found, rfl⟩ := Option.map_eq_some_iff.mp first
    refine ⟨⟨head, found, ok⟩, fun within => ?_⟩
    obtain rfl := turn s.tx.currentPort.toFin (by simp [server, within])
    simp
  · rintro ⟨⟨head, found, ok⟩, turn⟩
    refine ⟨⟨plain head, ?_, ok⟩, fun current under => ?_⟩
    · rw [server, List.head?_map]
      exact Option.map_eq_some_iff.mpr ⟨head, found, rfl⟩
    · obtain ⟨within, rfl⟩ : s.tx.sendingFragments = true ∧ s.tx.currentPort.toFin = current := by
        simpa [server] using under
      rw [turn within]
      simp

/-- The data block serves the port whose turn it is. -/
theorem server_dataTurn (inv : LoopInvariant s) (consistent : s.tx.outBuffer.Consistent) :
    server { s with tx := s.tx.dataTurn.1, link := s.link ++ s.tx.dataTurn.2 } =
      (server s).serve goesOn fun packet => s.tx.isElementValid packet = true := by
  rcases dataTurn_cases_least consistent with ⟨state, idle⟩ | ⟨port, packet, buffer, popped, current, least, sends⟩
  · rw [PriorityServer.serve_of_not_eligible, idle]
    · simp [server, dataFrames]
    · intro other eligible
      obtain ⟨⟨head, found, valid⟩, turn⟩ := eligible_server_iff.mp eligible
      obtain ⟨rest, queued⟩ := List.head?_eq_some_iff.mp found
      obtain ⟨frame, sent⟩ := TxModule.dataTurn_sends consistent turn queued valid
      rw [idle] at sent
      contradiction
  · obtain ⟨head, valid, others, -⟩ := consistent.popPacketInternal popped
    obtain ⟨own, data⟩ := inv.queued port packet (by simp [head])
    have isLeast : IsLeast {port | (server s).Eligible (fun packet => s.tx.isElementValid packet = true) port}
        port.toFin := by
      constructor
      · refine eligible_server_iff.mpr ⟨⟨packet, by simp [head], valid⟩, fun within => ?_⟩
        simp [current within]
      · intro other eligible
        obtain ⟨⟨first, found, ok⟩, turn⟩ := eligible_server_iff.mp eligible
        cases within : s.tx.sendingFragments with
        | true =>
          rw [current within, turn within]
          simp
        | false =>
          by_contra below
          obtain ⟨rest, queued⟩ := List.head?_eq_some_iff.mp found
          have goes : s.tx.policy.isElementValid first = true := ok
          obtain ⟨next, yields, -⟩ := Buffer.popPacketInternal_isSome (consistent.counted _) queued goes
          rw [least within _ (by simpa [UInt8.lt_iff_toFin_lt] using below)] at yields
          contradiction
    have queued : (server s).queue port.toFin = plain packet :: (buffer.held port).map plain := by
      simp [server, head]
    rw [PriorityServer.serve_of_isLeast isLeast, PriorityServer.take_of_cons queued, sends]
    have queues : (fun other : Fin 256 => (buffer.held (UInt8.ofFin other)).map plain) =
        Function.update (server s).queue port.toFin ((buffer.held port).map plain) := by
      funext other
      rcases Classical.em (other = port.toFin) with rfl | different
      · simp
      · have ne : UInt8.ofFin other ≠ port := fun same => different (by rw [← same, UInt8.toFin_ofFin])
        rw [Function.update_of_ne different, others _ ne]
        rfl
    have frames : dataFrames { s with link := s.link ++ [packet.setGlobalSequence s.tx.globalSeqNum] } =
        dataFrames s ++ [packet.setGlobalSequence s.tx.globalSeqNum] := by
      have sent : isData (packet.setGlobalSequence s.tx.globalSeqNum) = true := data
      simp [dataFrames, sent]
    simp only [server, PriorityServer.mk.injEq]
    refine ⟨queues, ?_, ?_⟩
    · by_cases more : packet.header.moreFragments = 0
      · simp [TxModule.afterTaking, goesOn, plain, more]
      · simp [TxModule.afterTaking, goesOn, plain, more, own]
    · change (dataFrames { s with link := _ }).map _ = _
      rw [frames, List.map_append, List.map_singleton, S3tpPacket.setGlobalSequence_getPort, own,
        plain_setGlobalSequence]

end Turn

/-! ## Every step -/

section Steps

variable {s t : TxSystem UInt8}

/-- Nothing of this is seen from outside. -/
theorem server_congr (buffer : t.tx.outBuffer = s.tx.outBuffer)
    (sending : t.tx.sendingFragments = s.tx.sendingFragments) (port : t.tx.currentPort = s.tx.currentPort)
    (frames : dataFrames t = dataFrames s) : server t = server s := by
  simp only [server, buffer, sending, port, frames]

/-- A write submits the packet at the end of its port's queue. -/
theorem server_write (inv : TransmitInvariant s) {caller : UInt8} (short : s.ShortBacklog (.write caller))
    (stepped : s.step (.write caller) = some t) : ∃ packet, s.pending caller = some packet ∧
      (PriorityServer.step goesOn (server s) (.submit packet.getPort.toFin (plain packet))) = some (server t) := by
  have after := inv.write short stepped
  obtain ⟨packet, pending, rfl⟩ := Option.map_eq_some_iff.mp stepped
  refine ⟨packet, pending, congrArg some ?_⟩
  have own : packet.getPort = caller := (isDataOn_iff.mp (inv.caller caller packet pending)).2
  have queues : Function.update (server s).queue packet.getPort.toFin
      ((server s).queue packet.getPort.toFin ++ [plain packet]) = fun port : Fin 256 =>
        ((s.tx.writePacket packet).outBuffer.held (UInt8.ofFin port)).map plain := by
    funext port
    rcases Classical.em (port = packet.getPort.toFin) with rfl | different
    · have before := inv.stream caller
      rw [pending] at before
      have later := after.stream caller
      have same := before.symm.trans later
      simp only [Function.update_self, Option.toList_none, List.append_nil, Option.toList_some, List.map_append,
        TxSystem.sentOn, List.append_cancel_left_eq] at same
      rw [Function.update_self, UInt8.ofFin_toFin, own, ← same]
      simp [server]
    · have ne : UInt8.ofFin port ≠ packet.getPort := fun same => different (by rw [← same, UInt8.toFin_ofFin])
      rw [Function.update_of_ne different, TxModule.writePacket, Buffer.held_write_of_ne _ _ ne]
      rfl
  simp only [server, PriorityServer.mk.injEq]
  exact ⟨queues, rfl, rfl⟩

/-- A turn of the loop on a link that is up is a turn of the server. -/
theorem server_iterate_of_up (inv : LoopInvariant s) (consistent : s.tx.outBuffer.Consistent) {link : LinkStatus}
    (goes : (link.up && s.tx.channelsAvailable) = true) :
    server { s with tx := (s.tx.iterate link).1, link := s.link ++ (s.tx.iterate link).2 } =
      (server s).serve goesOn fun packet => (s.tx.syncTurn link).1.isElementValid packet = true := by
  have running : ¬ (!link.up || !s.tx.channelsAvailable) = true := by
    rw [← Bool.not_and, goes]
    exact Bool.false_ne_true
  rw [TxModule.iterate, if_neg running]
  have synced := inv.syncTurn link
  obtain ⟨channelBlacklist, scheduledSync, syncPacket, kept⟩ := s.tx.syncTurn_frame link
  have turn := server_dataTurn synced (by rw [kept]; exact consistent)
  have same : server { s with tx := (s.tx.syncTurn link).1, link := s.link ++ (s.tx.syncTurn link).2 } =
      server s := by
    refine server_congr ?_ ?_ ?_ ?_
    · rw [kept]
    · rw [kept]
    · rw [kept]
    · simp [dataFrames, LoopInvariant.sync_frames s.tx link inv.sync]
  rw [same, List.append_assoc] at turn
  exact turn

theorem server_iterate (inv : LoopInvariant s) (consistent : s.tx.outBuffer.Consistent) {link : LinkStatus}
    (stepped : s.step (.iterate link) = some t) :
    Run (PriorityServer.step goesOn) Always (server s) (serverEvents s (.iterate link)) (server t) := by
  obtain ⟨-, rfl⟩ := TxSystem.of_iterate stepped
  rw [serverEvents]
  split
  · next goes =>
    rw [server_iterate_of_up inv consistent goes]
    exact .cons trivial rfl (.nil _)
  · next stays =>
    have blocked : (!link.up || !s.tx.channelsAvailable) = true := by
      rw [← Bool.not_and, Bool.not_eq_true']
      exact Bool.not_eq_true _ ▸ stays
    rw [TxModule.iterate, if_pos blocked]
    exact Run.nil_iff.mpr (server_congr rfl rfl rfl (by simp [dataFrames]))

/-- Each step is what it means to the server. -/
theorem server_step (transmit : TransmitInvariant s) (loop : LoopInvariant s) {event : TxEvent UInt8}
    (short : s.ShortBacklog event) (stepped : s.step event = some t) :
    Run (PriorityServer.step goesOn) Always (server s) (serverEvents s event) (server t) := by
  cases event with
  | enqueue caller packet fragNo moreFragments =>
    rcases TxSystem.cases_of_enqueue stepped with ⟨-, rfl⟩ | ⟨-, rfl⟩
    · exact .nil _
    · exact Run.nil_iff.mpr rfl
  | write caller =>
    obtain ⟨packet, pending, submitted⟩ := server_write transmit short stepped
    rw [serverEvents, pending]
    exact .cons trivial submitted (.nil _)
  | iterate link => exact server_iterate loop transmit.consistent stepped
  | setChannelAvailable | scheduleSync | stopRoutine =>
    obtain rfl := Option.some.inj stepped
    exact Run.nil_iff.mpr rfl

/-- One caller writes on each port, and no write finds a full turn of packets queued. -/
def Orderly (s : TxSystem UInt8) (event : TxEvent UInt8) : Prop := s.OneCallerPerPort event ∧ s.ShortBacklog event

theorem invariants_of_run {fresh : S3tpHeader} {events : List (TxEvent UInt8)}
    (run : Run TxSystem.step Orderly (.started fresh) events s) : TransmitInvariant s ∧ LoopInvariant s :=
  ⟨(TransmitInvariant.started fresh).run run,
    run.invariant (fun _ _ _ inv _ stepped => inv.step stepped) (LoopInvariant.started fresh)⟩

/-- The module is the server: the data frames it hands to the link are those the server serves. -/
theorem refines_server (fresh : S3tpHeader) (events : List (TxEvent UInt8)) (s : TxSystem UInt8)
    (run : Run TxSystem.step Orderly (.started fresh) events s) :
    Run (PriorityServer.step goesOn) Always {} (trace TxSystem.step serverEvents (.started fresh) events)
      (server s) := by
  have started : server (TxSystem.started fresh) = {} := rfl
  rw [← started]
  refine run.refines server (P := fun u => TransmitInvariant u ∧ LoopInvariant u)
    ⟨TransmitInvariant.started fresh, LoopInvariant.started fresh⟩ ?_
  rintro u event v ⟨transmit, loop⟩ ⟨own, short⟩ stepped
  exact ⟨⟨transmit.step event own short stepped, loop.step stepped⟩, server_step transmit loop short stepped⟩

end Steps

/-! ## Serving until nothing is queued -/

section Drain

variable {s t : TxSystem UInt8}

/-- The module runs and all its channels are available. -/
structure Sending (s : TxSystem UInt8) : Prop where
  transmit : TransmitInvariant s
  loop : LoopInvariant s
  active : s.tx.active = true
  channels : s.tx.channelBlacklist = .empty

theorem channelBlacklist_dataTurn (tx : TxModule) : tx.dataTurn.1.channelBlacklist = tx.channelBlacklist := by
  rcases tx.dataTurn_cases with ⟨state, idle⟩ | ⟨port, packet, buffer, -, sends⟩
  · rw [idle]
  · rw [sends]
    rfl

/-- On a link with room the sync block takes no channel away. -/
theorem channelBlacklist_syncTurn (tx : TxModule) (up : Bool) :
    (tx.syncTurn ⟨up, false⟩).1.channelBlacklist = tx.channelBlacklist := by
  rw [TxModule.syncTurn]
  split
  · rw [if_neg Bool.false_ne_true]
    rfl
  · rfl

/-- A turn on a link that is up and has room is an open turn of the server. -/
theorem Sending.turn (sending : Sending s) : ∃ t event, s.step (.iterate ⟨true, false⟩) = some t ∧ Sending t ∧
    PriorityServer.IsOpenTurn (server s) event ∧ (server s).step goesOn event = some (server t) := by
  have goes : (true && s.tx.channelsAvailable) = true := by
    rw [TxModule.channelsAvailable, sending.channels]
    decide
  have stays := (channelBlacklist_syncTurn s.tx true).trans sending.channels
  have all (packet : S3tpPacket) : (s.tx.syncTurn ⟨true, false⟩).1.isElementValid packet = true := by
    rw [TxModule.isElementValid, TxModule.isChannelAvailable, stays]
    rfl
  have after : (s.tx.iterate ⟨true, false⟩).1.channelBlacklist = .empty := by
    rcases s.tx.iterate_cases ⟨true, false⟩ with idle | turn
    · rw [idle]
      exact sending.channels
    · rw [turn, channelBlacklist_dataTurn, stays]
  refine ⟨_, _, TxSystem.step_iterate sending.active ⟨true, false⟩,
    ⟨sending.transmit.iterate _, sending.loop.iterate _, ?_, after⟩, ⟨_, rfl, all⟩, ?_⟩
  · rw [TxModule.active_iterate]
    exact sending.active
  · exact congrArg some (server_iterate_of_up sending.loop sending.transmit.consistent goes).symm

/-- Turns of the loop are open turns of the server. -/
theorem Sending.turns (sending : Sending s) (n : ℕ) : ∃ t events,
    Run TxSystem.step Always s (List.replicate n (.iterate ⟨true, false⟩)) t ∧ Sending t ∧ events.length = n ∧
      Run (PriorityServer.step goesOn) PriorityServer.IsOpenTurn (server s) events (server t) := by
  induction n generalizing s with
  | zero => exact ⟨s, [], .nil s, sending, rfl, .nil _⟩
  | succ n ih =>
    obtain ⟨mid, event, stepped, after, isOpen, served⟩ := sending.turn
    obtain ⟨t, events, run, last, length, turns⟩ := ih after
    exact ⟨t, event :: events, .cons trivial stepped run, last, congrArg Nat.succ length, .cons isOpen served turns⟩

/-- Every message that is queued is whole: no queue ends within one, and the one that is being sent goes on. -/
structure QueuedWhole (tx : TxModule) : Prop where
  ended : ∀ port, ∀ packet ∈ (tx.outBuffer.held port).getLast?, packet.header.moreFragments = 0
  continued : tx.sendingFragments = true → tx.outBuffer.held tx.currentPort ≠ []

theorem QueuedWhole.whole (queued : QueuedWhole s.tx) : (server s).Whole goesOn where
  ended port packet member := by
    rw [server, List.getLast?_map] at member
    obtain ⟨last, among, rfl⟩ := Option.map_eq_some_iff.mp member
    have final : (plain last).header.moreFragments = 0 := queued.ended _ last among
    simp [goesOn, final]
  goesOn port under := by
    obtain ⟨within, rfl⟩ : s.tx.sendingFragments = true ∧ s.tx.currentPort.toFin = port := by
      simpa [server] using under
    simpa [server] using queued.continued within

/-- How many packets are queued. -/
def queued (tx : TxModule) : ℕ := ∑ port : Fin 256, (tx.outBuffer.held (UInt8.ofFin port)).length

theorem waiting_server : (server s).waiting Finset.univ = queued s.tx := by
  simp only [PriorityServer.waiting, server, List.length_map, queued]

theorem servedOn_server (s : TxSystem UInt8) (port : UInt8) :
    (server s).servedOn port.toFin = (s.sentOn port).map plain := by
  simp only [PriorityServer.servedOn, server, dataFrames, TxSystem.sentOn, List.filter_map, List.filter_filter,
    List.map_map]
  congr 1
  apply List.filter_congr
  intro frame _
  simp only [Function.comp_apply, UInt8.toFin_inj, isDataOn, isData]
  rw [Bool.and_comm, Bool.beq_eq_decide_eq frame.getPort]

/-- Everything that was queued has left: on each port in order, and port by port if the message that was being sent is
one of the least port. -/
structure Drained (s t : TxSystem UInt8) : Prop where
  empty : ∀ port, t.tx.outBuffer.held port = []
  between : t.tx.sendingFragments = false
  sent : ∀ port, (t.sentOn port).map plain = (s.sentOn port ++ s.tx.outBuffer.held port).map plain
  ascending : (s.tx.sendingFragments = true → ∀ port, s.tx.outBuffer.held port ≠ [] → s.tx.currentPort ≤ port) →
    ∃ new, dataFrames t = dataFrames s ++ new ∧ new.Pairwise fun earlier later => earlier.getPort ≤ later.getPort

/-- As many turns as packets are queued send them all, on a link that is up with all channels available. -/
theorem drained_of_turns (fresh : S3tpHeader) (events : List (TxEvent UInt8)) (s : TxSystem UInt8)
    (run : Run TxSystem.step Orderly (.started fresh) events s) (active : s.tx.active = true)
    (channels : s.tx.channelBlacklist = .empty) (whole : QueuedWhole s.tx) (n : ℕ) (enough : queued s.tx ≤ n) :
    ∃ t, Run TxSystem.step Always s (List.replicate n (.iterate ⟨true, false⟩)) t ∧ Drained s t := by
  obtain ⟨transmit, loop⟩ := invariants_of_run run
  have sending : Sending s := ⟨transmit, loop, active, channels⟩
  obtain ⟨t, turns, steps, after, length, served⟩ := sending.turns n
  have within : (server s).WaitsWithin Finset.univ := fun _ _ => Finset.mem_univ _
  obtain ⟨nothing, between⟩ := whole.whole.drained within served (by rw [waiting_server, length]; exact enough)
  have empty (port : UInt8) : t.tx.outBuffer.held port = [] := by
    simpa [server] using nothing port.toFin
  refine ⟨t, steps, empty, ?_, fun port => ?_, fun lowest => ?_⟩
  · simpa [server] using between
  · have inOrder := PriorityServer.servedOn_of_open served port.toFin
    rw [nothing, List.append_nil, servedOn_server, servedOn_server] at inOrder
    rw [inOrder, List.map_append]
    simp [server]
  · have isLowest : (server s).Lowest := by
      intro current under port waits
      obtain ⟨within, rfl⟩ : s.tx.sendingFragments = true ∧ s.tx.currentPort.toFin = current := by
        simpa [server] using under
      have below := lowest within (UInt8.ofFin port) (by simpa [server] using waits)
      simpa [UInt8.le_iff_toFin_le] using below
    obtain ⟨entries, split, ascending, -⟩ := PriorityServer.ascending_of_open isLowest served
    obtain ⟨more, link⟩ := TxSystem.link_prefix steps
    have frames : dataFrames t = dataFrames s ++ more.filter isData := by
      rw [dataFrames, ← link, List.filter_append, dataFrames]
    simp only [server, frames, List.map_append, List.append_cancel_left_eq] at split
    refine ⟨more.filter isData, frames, ?_⟩
    rw [← split, List.pairwise_map] at ascending
    simpa [UInt8.le_iff_toFin_le] using ascending

end Drain

/-! ## One packet -/

/-- A packet is written and sent. -/
def onePacket : List (TxEvent UInt8) := [.enqueue 5 (oneByte 0) 0 false, .write 5]

def onePacketQueued : TxSystem UInt8 := (onePacket.foldlM TxSystem.step (.started default)).getD (.started default)

theorem run_onePacketQueued : Run TxSystem.step Orderly (.started default) onePacket onePacketQueued :=
  .cons ⟨show 5 = (oneByte 0).getPort by decide, trivial⟩ rfl
    (.cons ⟨trivial, fun _ _ => (by decide : 0 < 256)⟩ rfl (.nil _))

theorem refines_server_one : ∃ s, Run (PriorityServer.step goesOn) Always {}
    (trace TxSystem.step serverEvents (.started default) (onePacket ++ [.iterate ⟨true, false⟩])) (server s) ∧
    (server s).served.length = 1 := by
  have sent : (onePacketQueued.step (.iterate ⟨true, false⟩)).map (fun s => (server s).served.length) = some 1 := by
    decide +kernel
  obtain ⟨s, stepped, served⟩ := Option.map_eq_some_iff.mp sent
  have met : Orderly onePacketQueued (.iterate ⟨true, false⟩) := ⟨trivial, trivial⟩
  have run := run_onePacketQueued.append (.cons met stepped (.nil s))
  exact ⟨s, refines_server default _ s run, served⟩

theorem drained_of_turns_one : ∃ t, Run TxSystem.step Always onePacketQueued [.iterate ⟨true, false⟩] t ∧
    Drained onePacketQueued t := by
  have whole : QueuedWhole onePacketQueued.tx := by
    refine ⟨fun port packet member => ?_, fun within => absurd within (by decide)⟩
    have stream := (invariants_of_run run_onePacketQueued).1.stream port
    have among : plain packet ∈ (onePacketQueued.enqueuedOn port).map plain := by
      rw [stream]
      exact List.mem_map_of_mem (List.mem_append_right _ (List.mem_append_left _ (List.mem_of_getLast? member)))
    obtain ⟨original, stamped, same⟩ := List.mem_map.mp among
    have single : ∀ packet ∈ onePacketQueued.enqueued, packet.header.moreFragments = 0 := by decide +kernel
    have final : (plain original).header.moreFragments = 0 := single original (List.mem_filter.mp stamped).1
    rw [same] at final
    exact final
  exact drained_of_turns default onePacket onePacketQueued run_onePacketQueued rfl rfl whole 1 (by decide +kernel)

end S3tp.Soundness.Outbox
