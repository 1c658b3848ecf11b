import S3tp.Model.Concurrent.TxSystem
import S3tp.Soundness.OneByte

/-! # The order of transmission on each port

While no write finds a full turn of packets queued on its port, the output queue of a port holds its
packets in the order they were stamped, and the three places a stamped packet can be in (the link,
the queue, its caller's hands) partition the port's history in order. The invariant numbers packets
without bound: a port's byte counters are residues of the lengths of its histories.

A backlog of 256 breaks the order: the next packet carries the offset's own sequence number and goes
to the head of the queue.
-/

namespace S3tp.Soundness

open Model.Core Model.Concurrent Machine

/-- A packet up to the global sequence number, which is filled in when the packet leaves. -/
def plain (packet : S3tpPacket) : S3tpPacket := packet.setGlobalSequence 0

@[simp] theorem plain_setGlobalSequence (packet : S3tpPacket) (globalSeq : UInt8) :
    plain (packet.setGlobalSequence globalSeq) = plain packet :=
  packet.setGlobalSequence_setGlobalSequence globalSeq 0

theorem consecutive_map_plain {n : ℕ} {packets : List S3tpPacket} :
    Consecutive n (packets.map plain) ↔ Consecutive n packets :=
  Consecutive.congr (by simp [plain, Function.comp_def])

theorem isDataOn_iff {port : UInt8} {packet : S3tpPacket} : isDataOn port packet = true ↔
    packet.header.getMessageType = msgData ∧ packet.getPort = port := by
  simp [isDataOn]

/-- A stamped packet is on the link, in its queue or with its caller, and these follow each other
in the order of stamping. -/
structure TransmitInvariant (s : TxSystem UInt8) : Prop where
  consistent : s.tx.outBuffer.Consistent
  sync : s.tx.syncPacket.header.getMessageType = msgSync
  data : ∀ port, ∀ packet ∈ s.tx.outBuffer.held port, isDataOn port packet = true
  caller : ∀ port, ∀ packet ∈ s.pending port, isDataOn port packet = true
  stream : ∀ port, (s.enqueuedOn port).map plain =
    (s.sentOn port ++ (s.tx.outBuffer.held port ++ (s.pending port).toList)).map plain
  numbered : ∀ port, Consecutive 0 (s.enqueuedOn port)
  stamped : ∀ port, s.tx.portSequence port = UInt8.ofNat (s.enqueuedOn port).length
  taken : ∀ port, s.tx.toConsumePortSeq port = UInt8.ofNat (s.sentOn port).length

namespace TransmitInvariant

variable {s : TxSystem UInt8}

theorem started (fresh : S3tpHeader) : TransmitInvariant (TxSystem.started fresh) where
  consistent := Buffer.consistent_empty
  sync := S3tpHeader.getMessageType_setMessageType_sync _
  data _ _ member := by simp [TxSystem.started, TxModule.startRoutine, TxModule.reset, Buffer.clear] at member
  caller _ _ member := by simp [TxSystem.started] at member
  stream _ := rfl
  numbered _ := rfl
  stamped _ := rfl
  taken _ := rfl

/-- The packets of a port that have left, and those that have not, numbered on from them. -/
theorem stream_consecutive (inv : TransmitInvariant s) (port : UInt8) :
    Consecutive 0 (s.sentOn port) ∧
      Consecutive (s.sentOn port).length (s.tx.outBuffer.held port ++ (s.pending port).toList) := by
  have numbered := consecutive_map_plain.mpr (inv.numbered port)
  rw [inv.stream, consecutive_map_plain, Consecutive.append_iff, Nat.zero_add] at numbered
  exact numbered

theorem sent_consecutive (inv : TransmitInvariant s) (port : UInt8) : Consecutive 0 (s.sentOn port) :=
  (inv.stream_consecutive port).1

theorem waiting_consecutive (inv : TransmitInvariant s) (port : UInt8) :
    Consecutive (s.sentOn port).length (s.tx.outBuffer.held port ++ (s.pending port).toList) :=
  (inv.stream_consecutive port).2

/-- The fields a step must leave alone for the invariant to carry over. -/
theorem congr {t : TxSystem UInt8} (inv : TransmitInvariant s)
    (outBuffer : t.tx.outBuffer = s.tx.outBuffer) (portSequence : t.tx.portSequence = s.tx.portSequence)
    (toConsume : t.tx.toConsumePortSeq = s.tx.toConsumePortSeq)
    (sync : t.tx.syncPacket.header.getMessageType = msgSync) (pending : t.pending = s.pending)
    (enqueued : t.enqueued = s.enqueued) (sent : ∀ port, t.sentOn port = s.sentOn port) :
    TransmitInvariant t where
  consistent := outBuffer ▸ inv.consistent
  sync := sync
  data := outBuffer ▸ inv.data
  caller := pending ▸ inv.caller
  stream port := by
    rw [TxSystem.enqueuedOn, enqueued, sent, outBuffer, pending]
    exact inv.stream port
  numbered port := by
    rw [TxSystem.enqueuedOn, enqueued]
    exact inv.numbered port
  stamped port := by
    rw [TxSystem.enqueuedOn, enqueued, portSequence]
    exact inv.stamped port
  taken port := by
    rw [sent, toConsume]
    exact inv.taken port

/-! ## Stamping -/

theorem enqueue {t : TxSystem UInt8} (inv : TransmitInvariant s) {caller : UInt8} {packet : S3tpPacket}
    {fragNo : UInt8} {moreFragments : Bool} (own : caller = packet.getPort)
    (stepped : s.step (.enqueue caller packet fragNo moreFragments) = some t) : TransmitInvariant t := by
  have free := TxSystem.idle_of_enqueue stepped
  rcases TxSystem.cases_of_enqueue stepped with ⟨-, rfl⟩ | ⟨-, rfl⟩
  · exact inv
  set fresh := s.tx.stamped packet fragNo moreFragments with freshDef
  have onOwn : isDataOn caller fresh = true := by
    rw [isDataOn_iff, freshDef, TxModule.stamped_getMessageType, TxModule.stamped_getPort, own]
    exact ⟨rfl, rfl⟩
  have onOther {port : UInt8} (other : port ≠ caller) : isDataOn port fresh = false := by
    rw [← Bool.not_eq_true, isDataOn_iff, freshDef, TxModule.stamped_getPort, ← own]
    exact fun same => other same.2.symm
  have number : fresh.header.seqPort = UInt8.ofNat (s.enqueuedOn caller).length := by
    rw [freshDef, TxModule.stamped_seqPort, ← own, inv.stamped]
  have enqueuedOwn : (s.enqueued ++ [fresh]).filter (isDataOn caller) = s.enqueuedOn caller ++ [fresh] := by
    simp [TxSystem.enqueuedOn, onOwn]
  have enqueuedOther {port : UInt8} (other : port ≠ caller) :
      (s.enqueued ++ [fresh]).filter (isDataOn port) = s.enqueuedOn port := by
    simp [TxSystem.enqueuedOn, onOther other]
  refine ⟨inv.consistent, inv.sync, inv.data, ?_, ?_, ?_, ?_, inv.taken⟩
  · intro port held member
    rcases TxSystem.mem_pending_update member with ⟨rfl, isNew⟩ | before
    · exact Option.some.inj isNew ▸ onOwn
    · exact inv.caller port held before
  · intro port
    by_cases same : port = caller
    · subst same
      have stream := inv.stream port
      simp only [free, Option.toList_none, List.append_nil] at stream
      change ((s.enqueued ++ [fresh]).filter (isDataOn port)).map plain = (s.sentOn port ++
        (s.tx.outBuffer.held port ++ (Function.update s.pending port (some fresh) port).toList)).map plain
      rw [enqueuedOwn, Function.update_self, Option.toList_some, ← List.append_assoc, List.map_append,
        List.map_append, stream]
    · simpa [TxSystem.enqueuedOn, TxSystem.sentOn, TxModule.advance, onOther same, same] using inv.stream port
  · intro port
    by_cases same : port = caller
    · subst same
      rw [TxSystem.enqueuedOn, enqueuedOwn, Consecutive.append_iff, Consecutive.singleton_iff, Nat.zero_add]
      exact ⟨inv.numbered port, number⟩
    · rw [TxSystem.enqueuedOn, enqueuedOther same]
      exact inv.numbered port
  · intro port
    by_cases same : port = caller
    · subst same
      rw [TxSystem.enqueuedOn, enqueuedOwn, List.length_append, List.length_singleton, UInt8.ofNat_succ,
        ← inv.stamped, ← own]
      exact Function.update_self ..
    · rw [TxSystem.enqueuedOn, enqueuedOther same, ← own]
      exact (Function.update_of_ne same ..).trans (inv.stamped port)

/-! ## Writing -/

theorem write {t : TxSystem UInt8} (inv : TransmitInvariant s) {caller : UInt8}
    (short : s.ShortBacklog (.write caller)) (stepped : s.step (.write caller) = some t) :
    TransmitInvariant t := by
  simp only [TxSystem.step, Option.map_eq_some_iff] at stepped
  obtain ⟨packet, pending, rfl⟩ := stepped
  obtain ⟨isData, own⟩ := isDataOn_iff.mp (inv.caller caller packet pending)
  have room := short packet pending
  have waiting := inv.waiting_consecutive caller
  rw [pending, Option.toList_some] at waiting
  have keeps := s.tx.kept_outBuffer packet
  have appended : (s.tx.outBuffer.write s.tx.policy packet).held caller =
      s.tx.outBuffer.held caller ++ [packet] := by
    rw [← own, Buffer.held_write_self, keeps, own]
    rw [own] at room
    exact insertFromTail_next rfl (inv.taken caller)
      (fun other member => inv.consistent.ported caller other member) waiting room
  have untouched {port : UInt8} (other : port ≠ caller) :
      (s.tx.outBuffer.write s.tx.policy packet).held port = s.tx.outBuffer.held port :=
    Buffer.held_write_of_ne _ _ (own ▸ other)
  refine ⟨inv.consistent.write _ _ (by rw [keeps]; omega), inv.sync, ?_, ?_, ?_, inv.numbered,
    inv.stamped, inv.taken⟩
  · intro port held member
    by_cases same : port = caller
    · subst same
      simp only [TxModule.writePacket, appended, List.mem_append, List.mem_singleton] at member
      rcases member with member | rfl
      · exact inv.data port held member
      · exact inv.caller port held pending
    · exact inv.data port held (by simpa [TxModule.writePacket, untouched same] using member)
  · intro port held member
    rcases TxSystem.mem_pending_update member with ⟨-, nothing⟩ | before
    · contradiction
    · exact inv.caller port held before
  · intro port
    have stream := inv.stream port
    by_cases same : port = caller
    · subst same
      rw [pending] at stream
      simpa [TxSystem.enqueuedOn, TxSystem.sentOn, TxModule.writePacket, appended] using stream
    · simpa [TxSystem.enqueuedOn, TxSystem.sentOn, TxModule.writePacket, untouched same, same] using stream

/-! ## A turn of the transmit loop -/

theorem sync_frames (tx : TxModule) (link : LinkStatus)
    (sync : tx.syncPacket.header.getMessageType = msgSync) (port : UInt8) :
    (tx.syncTurn link).2.filter (isDataOn port) = [] := by
  refine List.filter_eq_nil_iff.mpr fun frame member => ?_
  rw [isDataOn_iff, (tx.syncTurn_sync link sync).2 frame member]
  exact fun same => absurd same.1 (by decide)

/-- Taking the head of a queue moves it to the end of the link and the offset past it. -/
theorem dataTurn (inv : TransmitInvariant s) : TransmitInvariant
    { s with tx := s.tx.dataTurn.1, link := s.link ++ s.tx.dataTurn.2 } := by
  rcases s.tx.dataTurn_cases with ⟨state, idle⟩ | ⟨port, packet, buffer, popped, sends⟩
  · rw [idle]
    exact inv.congr rfl rfl rfl inv.sync rfl rfl (by simp [TxSystem.sentOn])
  rw [sends]
  obtain ⟨head, -, others, consistent⟩ := inv.consistent.popPacketInternal popped
  have isData := inv.data port packet (by simp [head])
  have own : packet.getPort = port := (isDataOn_iff.mp isData).2
  set frame := packet.setGlobalSequence s.tx.globalSeqNum with frameDef
  have onOwn : isDataOn port frame = true := isData
  have onOther {other : UInt8} (ne : other ≠ port) : isDataOn other frame = false := by
    rw [← Bool.not_eq_true, isDataOn_iff]
    exact fun same => ne (same.2.symm.trans own)
  have sentOwn : (s.link ++ [frame]).filter (isDataOn port) = s.sentOn port ++ [frame] := by
    simp [TxSystem.sentOn, onOwn]
  have sentOther {other : UInt8} (ne : other ≠ port) :
      (s.link ++ [frame]).filter (isDataOn other) = s.sentOn other := by
    simp [TxSystem.sentOn, onOther ne]
  refine ⟨consistent, inv.sync, ?_, inv.caller, ?_, inv.numbered, inv.stamped, ?_⟩
  · intro other held member
    by_cases same : other = port
    · subst same
      exact inv.data other held (by rw [head]; exact List.mem_cons_of_mem _ member)
    · exact inv.data other held (others other same ▸ member)
  · intro other
    have stream := inv.stream other
    by_cases same : other = port
    · subst same
      rw [head] at stream
      simp only [TxSystem.enqueuedOn, TxSystem.sentOn, sentOwn] at stream ⊢
      rw [stream]
      simp [TxModule.afterTaking, frameDef]
    · simp only [TxSystem.enqueuedOn, TxSystem.sentOn, sentOther same, TxModule.afterTaking,
        others other same] at stream ⊢
      exact stream
  · intro other
    simp only [TxModule.afterTaking, own]
    by_cases same : other = port
    · subst same
      rw [TxSystem.sentOn, sentOwn, List.length_append, List.length_singleton, UInt8.ofNat_succ,
        ← inv.taken, Function.update_self]
    · rw [TxSystem.sentOn, sentOther same, Function.update_of_ne same]
      exact inv.taken other

theorem iterate (inv : TransmitInvariant s) (link : LinkStatus) : TransmitInvariant
    { s with tx := (s.tx.iterate link).1, link := s.link ++ (s.tx.iterate link).2 } := by
  rcases s.tx.iterate_cases link with idle | turn
  · rw [idle]
    exact inv.congr rfl rfl rfl inv.sync rfl rfl (by simp [TxSystem.sentOn])
  · have isSync := (s.tx.syncTurn_sync link inv.sync).1
    have noData := sync_frames s.tx link inv.sync
    obtain ⟨channelBlacklist, scheduledSync, syncPacket, after⟩ := s.tx.syncTurn_frame link
    have synced : TransmitInvariant
        { s with tx := (s.tx.syncTurn link).1, link := s.link ++ (s.tx.syncTurn link).2 } := by
      refine inv.congr ?_ ?_ ?_ isSync rfl rfl (fun port => ?_)
      · rw [after]
      · rw [after]
      · rw [after]
      · simp [TxSystem.sentOn, noData]
    rw [turn, ← List.append_assoc]
    exact synced.dataTurn

/-! ## Every step -/

theorem step {t : TxSystem UInt8} (inv : TransmitInvariant s) (event : TxEvent UInt8)
    (own : s.OneCallerPerPort event) (short : s.ShortBacklog event) (stepped : s.step event = some t) :
    TransmitInvariant t := by
  cases event with
  | enqueue caller packet fragNo moreFragments => exact inv.enqueue own stepped
  | write caller => exact inv.write short stepped
  | iterate link =>
    obtain ⟨-, rfl⟩ := TxSystem.of_iterate stepped
    exact inv.iterate link
  | setChannelAvailable | scheduleSync | stopRoutine =>
    obtain rfl := Option.some.inj stepped
    exact inv.congr rfl rfl rfl inv.sync rfl rfl (fun _ => rfl)

theorem run {t : TxSystem UInt8} {events : List (TxEvent UInt8)} (inv : TransmitInvariant s)
    (run : Run TxSystem.step (fun s e => s.OneCallerPerPort e ∧ s.ShortBacklog e) s events t) :
    TransmitInvariant t :=
  run.invariant (fun _ e _ inv met stepped => inv.step e met.1 met.2 stepped) inv

end TransmitInvariant

/-! ## First in, first out -/

/-- The data frames of each port leave in the order they were stamped for it, each once; with
nothing queued or under way, all of them have left. -/
structure PortFifo (s : TxSystem UInt8) : Prop where
  inOrder : ∀ port, (s.sentOn port).map plain <+: (s.enqueuedOn port).map plain
  complete : ∀ port, s.tx.outBuffer.held port = [] → s.pending port = none →
    (s.sentOn port).map plain = (s.enqueuedOn port).map plain

/-- A started module transmits first in, first out on every port in every run whose writes each
find fewer than 256 packets queued on their port. -/
theorem portFifo_of_shortBacklog (fresh : S3tpHeader) (events : List (TxEvent UInt8)) (s : TxSystem UInt8)
    (run : Run TxSystem.step (fun s e => s.OneCallerPerPort e ∧ s.ShortBacklog e)
      (TxSystem.started fresh) events s) : PortFifo s := by
  have inv := (TransmitInvariant.started fresh).run run
  constructor
  · intro port
    rw [inv.stream, List.map_append]
    exact List.prefix_append _ _
  · intro port empty idle
    rw [inv.stream, empty, idle]
    simp

/-! ## A full turn of backlog -/

/-- The packet written behind a backlog of 256 overtakes all of it. -/
theorem TransmitInvariant.overtakes {s : TxSystem UInt8} (inv : TransmitInvariant s) {port : UInt8}
    {packet : S3tpPacket} (pending : s.pending port = some packet)
    (full : (s.tx.outBuffer.held port).length = 256) :
    (s.tx.writePacket packet).outBuffer.held port = packet :: s.tx.outBuffer.held port := by
  obtain ⟨-, own⟩ := isDataOn_iff.mp (inv.caller port packet pending)
  have waiting := inv.waiting_consecutive port
  rw [pending, Option.toList_some, Consecutive.append_iff, Consecutive.singleton_iff, full] at waiting
  obtain ⟨queued, number⟩ := waiting
  have keeps : s.tx.outBuffer.kept s.tx.policy packet = s.tx.outBuffer.held port := by
    rw [s.tx.kept_outBuffer, own]
  have written : (s.tx.writePacket packet).outBuffer.held port =
      (s.tx.outBuffer.held port).insertFromTail (Buffer.ahead s.tx.policy) packet := by
    rw [TxModule.writePacket, ← keeps, ← own]
    exact Buffer.held_write_self ..
  rw [written]
  apply List.insertFromTail_eq_cons
  intro other member
  obtain ⟨i, bound, rfl⟩ := List.getElem_of_mem member
  -- Relative to the offset, the new number is 256 and reads as zero.
  simp only [Buffer.ahead, TxModule.policy, TxModule.comparePriority, decide_eq_false_iff_not,
    comparePortSequence_neg_iff, inv.consistent.ported port _ member, inv.taken port, number,
    queued.getElem bound]
  rw [UInt8.ofNat_add_sub_ofNat, UInt8.ofNat_add_sub_ofNat]
  exact UInt8.not_lt.mpr (UInt8.le_iff_toNat_le.mpr (Nat.zero_le _))

/-- An undisturbed `enqueuePacket` on a port with a short backlog appends its packet. -/
theorem TransmitInvariant.enqueuePacket {s : TxSystem UInt8} (inv : TransmitInvariant s)
    (active : s.tx.active = true) {port : UInt8} (idle : s.pending port = none)
    (short : (s.tx.outBuffer.held port).length < 256) {packet : S3tpPacket} (own : packet.getPort = port)
    {fragNo : UInt8} {moreFragments : Bool} (admitted : s.Admitted (.enqueue port packet fragNo moreFragments)) :
    ∃ t, Run TxSystem.step (fun s e => s.OneCallerPerPort e ∧ s.Admitted e ∧ s.ShortBacklog e) s
        [.enqueue port packet fragNo moreFragments, .write port] t ∧
      t.tx.outBuffer.held port =
        s.tx.outBuffer.held port ++ [s.tx.stamped packet fragNo moreFragments] ∧
      (∀ other, other ≠ port → t.tx.outBuffer.held other = s.tx.outBuffer.held other) ∧
      t.pending = s.pending ∧ t.link = s.link ∧
      t.enqueued = s.enqueued ++ [s.tx.stamped packet fragNo moreFragments] ∧
      ∃ outBuffer portSequence, t.tx = { s.tx with outBuffer, portSequence } := by
  set fresh := s.tx.stamped packet fragNo moreFragments with freshDef
  have freshPort : fresh.getPort = port := by rw [freshDef, TxModule.stamped_getPort, own]
  obtain ⟨mid, shape⟩ : ∃ mid : TxSystem UInt8, mid = { s with
      tx := s.tx.advance packet.getPort
      pending := Function.update s.pending port (some fresh)
      enqueued := s.enqueued ++ [fresh] } := ⟨_, rfl⟩
  have stepped : s.step (.enqueue port packet fragNo moreFragments) = some mid :=
    (TxSystem.step_enqueue active idle packet fragNo moreFragments).trans (by rw [shape])
  have midInv := inv.enqueue own.symm stepped
  have midPending : mid.pending port = some fresh := by simp [shape]
  have midHeld (p : UInt8) : mid.tx.outBuffer.held p = s.tx.outBuffer.held p := by
    rw [shape]
    rfl
  have meets : mid.ShortBacklog (.write port) := by
    intro other member
    obtain rfl : fresh = other := by simpa [midPending] using member
    rw [freshPort, midHeld]
    exact short
  have written := TxSystem.step_write midPending
  have waiting := midInv.waiting_consecutive port
  rw [midPending, Option.toList_some, midHeld] at waiting
  have keeps : mid.tx.outBuffer.kept mid.tx.policy fresh = s.tx.outBuffer.held port := by
    rw [mid.tx.kept_outBuffer, freshPort, midHeld]
  refine ⟨_, .cons ⟨own.symm, admitted, trivial⟩ stepped (.cons ⟨trivial, trivial, meets⟩ written (.nil _)),
    ?_, ?_, ?_, ?_⟩
  · have self := Buffer.held_write_self mid.tx.outBuffer mid.tx.policy fresh
    rw [freshPort, keeps, insertFromTail_next rfl (midInv.taken port)
      (fun other member => inv.consistent.ported port other member) waiting short] at self
    exact self
  · intro other ne
    exact (Buffer.held_write_of_ne _ _ (freshPort ▸ ne)).trans (midHeld other)
  · simp [shape, ← idle]
  · exact ⟨by rw [shape], by rw [shape], _, _, by rw [shape]; rfl⟩

/-- As long as the transmit thread has not run, one-byte packets are admitted. -/
private theorem admitted_oneByte {s : TxSystem UInt8} (untouched : ∃ outBuffer portSequence,
      s.tx = { (TxModule.create default).startRoutine with outBuffer, portSequence }) (byte : UInt8) :
    s.Admitted (.enqueue 5 (oneByte byte) 0 false) := by
  obtain ⟨outBuffer, portSequence, module⟩ := untouched
  intro msgLen
  refine TxModule.checkTransmissionAvailability_eq_success ?_ ?_ _ msgLen
  · rw [module]
    exact TxState.noConfusion
  · rw [module]
    rfl

/-- Backlogs of up to a full turn can be built up before the transmit thread runs. -/
private theorem backlog (n : ℕ) (bound : n ≤ 256) : ∃ events s,
    Run TxSystem.step (fun s e => s.OneCallerPerPort e ∧ s.Admitted e ∧ s.ShortBacklog e)
        (TxSystem.started default) events s ∧
      (s.tx.outBuffer.held 5).length = n ∧ (∀ other, other ≠ 5 → s.tx.outBuffer.held other = []) ∧
      s.pending = (fun _ => none) ∧ s.link = [] ∧ (∀ packet ∈ s.enqueued, packet.payload = [0]) ∧
      s.enqueued.length = n ∧ ∃ outBuffer portSequence,
        s.tx = { (TxModule.create default).startRoutine with outBuffer, portSequence } := by
  induction n with
  | zero =>
    refine ⟨[], TxSystem.started default, .nil _, rfl, fun _ _ => rfl, rfl, rfl, ?_, rfl, _, _, rfl⟩
    intro packet member
    simp [TxSystem.started] at member
  | succ n ih =>
    obtain ⟨events, s, run, length, others, idle, link, payloads, count, buffer, numbers, module⟩ :=
      ih (by omega)
    have inv := (TransmitInvariant.started default).run (run.mono fun _ _ met => ⟨met.1, met.2.2⟩)
    have admitted : s.Admitted (.enqueue 5 (oneByte 0) 0 false) := admitted_oneByte ⟨_, _, module⟩ 0
    obtain ⟨t, more, held, othersSame, pending, linkSame, enqueued, buffer', numbers', moduleSame⟩ :=
      inv.enqueuePacket (by rw [module]; rfl) (congrFun idle 5) (by omega) (by decide) admitted
    refine ⟨_, t, run.append more, by simp [held, length], ?_, by rw [pending, idle],
      by rw [linkSame, link], ?_, by simp [enqueued, count], buffer', numbers', by rw [moduleSame, module]⟩
    · intro other ne
      rw [othersSame other ne, others other ne]
    · intro packet member
      rw [enqueued, List.mem_append, List.mem_singleton] at member
      rcases member with member | rfl
      · exact payloads packet member
      · rfl

/-- Every admission test passes, 257 one-byte messages are enqueued on port 5 before the transmit
thread runs, and the last of them is the first to leave. -/
theorem not_portFifo_of_backlog : ¬ ∀ (fresh : S3tpHeader) (events : List (TxEvent UInt8))
    (s : TxSystem UInt8), Run TxSystem.step (fun s e => s.OneCallerPerPort e ∧ s.Admitted e)
      (TxSystem.started fresh) events s → PortFifo s := by
  intro fifo
  obtain ⟨events, s, run, length, others, idle, link, payloads, count, buffer, numbers, module⟩ :=
    backlog 256 le_rfl
  have inv := (TransmitInvariant.started default).run (run.mono fun _ _ met => ⟨met.1, met.2.2⟩)
  set last := s.tx.stamped (oneByte 1) 0 false with lastDef
  have lastPort : last.getPort = 5 := by rw [lastDef, TxModule.stamped_getPort]; decide
  obtain ⟨stamped, shape⟩ : ∃ stamped : TxSystem UInt8, stamped = { s with
      tx := s.tx.advance (oneByte 1).getPort
      pending := Function.update s.pending 5 (some last)
      enqueued := s.enqueued ++ [last] } := ⟨_, rfl⟩
  have stamping : s.step (.enqueue 5 (oneByte 1) 0 false) = some stamped :=
    (TxSystem.step_enqueue (by rw [module]; rfl) (congrFun idle 5) (oneByte 1) 0 false).trans
      (by rw [shape])
  have stampedInv := inv.enqueue (by decide) stamping
  have pending : stamped.pending 5 = some last := by simp [shape]
  have stampedHeld (port : UInt8) : stamped.tx.outBuffer.held port = s.tx.outBuffer.held port := by
    rw [shape]
    rfl
  have overtaken := stampedInv.overtakes pending (by rw [stampedHeld, length])
  rw [stampedHeld] at overtaken
  set written := stamped.tx.writePacket last with writtenDef
  have writing := TxSystem.step_write pending
  have writtenModule : ∃ outBuffer portSequence, written =
      { (TxModule.create default).startRoutine with outBuffer, portSequence } :=
    ⟨_, _, by rw [writtenDef, shape, module]; rfl⟩
  obtain ⟨outBuffer, portSequence, writtenModule⟩ := writtenModule
  have consistent : written.outBuffer.Consistent :=
    stampedInv.consistent.write _ _ (by
      rw [stamped.tx.kept_outBuffer, lastPort, stampedHeld, length]
      omega)
  have elsewhere (port : UInt8) (ne : port ≠ 5) : written.outBuffer.held port = [] :=
    (Buffer.held_write_of_ne _ _ (lastPort ▸ ne)).trans ((stampedHeld port).trans (others port ne))
  -- The turn is not idle, and the only head there is belongs to the last message.
  obtain ⟨frame, sends⟩ := TxModule.dataTurn_sends consistent
    (fun within => absurd within (by rw [writtenModule]; exact Bool.false_ne_true)) overtaken
    (by rw [writtenModule]; rfl)
  have turn : written.iterate ⟨true, false⟩ = written.dataTurn :=
    TxModule.iterate_eq_dataTurn rfl
      (by rw [writtenModule]; exact (by decide : (TxModule.create default).channelsAvailable = true))
      (by rw [writtenModule]; rfl)
  have first : frame = last.setGlobalSequence written.globalSeqNum := by
    rcases written.dataTurn_cases with ⟨_, quiet⟩ | ⟨port, head, buffer, popped, sent⟩
    · simp [quiet] at sends
    · obtain ⟨queued, -, -, -⟩ := consistent.popPacketInternal popped
      have isFive : port = 5 := by
        by_contra ne
        simp [elsewhere port ne] at queued
      rw [isFive, overtaken] at queued
      obtain rfl : last = head := (List.cons.inj queued).1
      simpa [sent] using sends.symm
  set final : TxSystem UInt8 := { stamped with
    tx := (written.iterate ⟨true, false⟩).1
    pending := Function.update stamped.pending 5 none
    link := stamped.link ++ (written.iterate ⟨true, false⟩).2 } with finalDef
  have sending : TxSystem.step { stamped with
      tx := written, pending := Function.update stamped.pending 5 none } (.iterate ⟨true, false⟩) =
      some final := by
    have active : written.active = true := by rw [writtenModule]; rfl
    simp [TxSystem.step, active, finalDef]
  have whole : Run TxSystem.step (fun s e => s.OneCallerPerPort e ∧ s.Admitted e) (TxSystem.started default)
      (events ++ [.enqueue 5 (oneByte 1) 0 false, .write 5, .iterate ⟨true, false⟩]) final := by
    refine (run.mono fun _ _ met => ⟨met.1, met.2.1⟩).append ?_
    exact .cons ⟨show 5 = (oneByte 1).getPort by decide, admitted_oneByte ⟨_, _, module⟩ 1⟩ stamping
      (.cons ⟨trivial, trivial⟩ writing (.cons ⟨trivial, trivial⟩ sending (.nil _)))
  obtain ⟨tail, ordered⟩ := (fifo default _ final whole).inOrder 5
  have oldest : ∃ packet rest, s.enqueuedOn 5 = packet :: rest ∧ packet.payload = [0] := by
    have stream := congrArg List.length (inv.stream 5)
    rcases split : s.enqueuedOn 5 with _ | ⟨packet, rest⟩
    · simp only [split, List.map_nil, List.length_nil, List.length_map, List.length_append, length] at stream
      omega
    · have member : packet ∈ s.enqueuedOn 5 := by simp [split]
      exact ⟨packet, rest, rfl, payloads packet (List.mem_filter.mp member).1⟩
  obtain ⟨packet, rest, split, zero⟩ := oldest
  have newest : final.sentOn 5 = [frame] := by
    have onFive : isDataOn 5 frame = true := first ▸ stampedInv.caller 5 last pending
    simp [TxSystem.sentOn, finalDef, turn, sends, shape, link, onFive]
  have oldestStays : final.enqueuedOn 5 = packet :: (rest ++ [last].filter (isDataOn 5)) := by
    simp only [TxSystem.enqueuedOn, finalDef, shape, List.filter_append]
    exact congrArg (· ++ _) split
  rw [newest, oldestStays, List.map_singleton, List.map_cons, List.singleton_append] at ordered
  have same : (plain frame).payload = (plain packet).payload :=
    congrArg S3tpPacket.payload (List.cons.inj ordered).1
  change frame.payload = packet.payload at same
  rw [zero, first] at same
  exact absurd same (by decide : ([1] : List UInt8) ≠ [0])

/-- A message crosses in three steps. -/
theorem portFifo_of_shortBacklog_one : ∃ s, PortFifo s ∧ (s.sentOn 5).length = 1 :=
  ⟨_, portFifo_of_shortBacklog default
      [.enqueue 5 (oneByte 0) 0 false, .write 5, .iterate ⟨true, false⟩] _
      (.cons ⟨show 5 = (oneByte 0).getPort by decide, trivial⟩ rfl
        (.cons ⟨trivial, fun _ _ => (by decide : 0 < 256)⟩ rfl
          (.cons ⟨trivial, trivial⟩ rfl (.nil _)))), by decide +kernel⟩

end S3tp.Soundness
