import S3tp.Soundness.Sending

/-! # Where packets come from

Whoever holds a packet holds one that was stamped, up to the global sequence number, and every frame that a module
hands to the link matches its checksum. This holds whatever the number of callers and however far the numbers wrap.
-/

namespace S3tp.Soundness

open Model.Core Model.Concurrent Machine

/-! ## The frames that are sent -/

/-- A frame as a module sends it: its payload is there, is not too long and matches the checksum, and a sync frame
holds a sync structure. -/
structure Sealed (packet : S3tpPacket) : Prop where
  valid : packet.crcValid = true
  sized : packet.payload.length = packet.header.getPduLength.toNat
  short : packet.header.getPduLength.toNat ≤ lenS3tpPdu
  sync : packet.header.getMessageType = msgSync → S3tpSync.size ≤ packet.header.getPduLength.toNat

theorem Sealed.pdu_eq {packet : S3tpPacket} (isSealed : Sealed packet) : packet.pdu = packet.payload := by
  rw [S3tpPacket.pdu, ← isSealed.sized, List.take_length]

/-- The packet handed over holds a payload of the length its header says. -/
def SizedPacket (packet : S3tpPacket) : Prop :=
  packet.payload.length = packet.header.getPduLength.toNat ∧ packet.header.getPduLength.toNat ≤ lenS3tpPdu

theorem sealed_stamped {packet : S3tpPacket} (sized : SizedPacket packet) (tx : TxModule) (fragNo : UInt8)
    (moreFragments : Bool) : Sealed (tx.stamped packet fragNo moreFragments) where
  valid := by simp
  sized := by
    rw [TxModule.stamped_getPduLength, ← sized.1]
    cases moreFragments <;> rfl
  short := by simpa using sized.2
  sync isSync := by
    rw [TxModule.stamped_getMessageType] at isSync
    exact absurd isSync (by decide)

theorem Sealed.setGlobalSequence {packet : S3tpPacket} (isSealed : Sealed packet) (globalSeq : UInt8) :
    Sealed (packet.setGlobalSequence globalSeq) :=
  ⟨isSealed.valid, isSealed.sized, isSealed.short, isSealed.sync⟩

/-- The packet is a sync packet and holds a sync structure. -/
structure IsSyncPacket (packet : S3tpPacket) : Prop where
  type : packet.header.getMessageType = msgSync
  payload : packet.payload.length = S3tpSync.size
  length : packet.header.getPduLength.toNat = S3tpSync.size

theorem isSyncPacket_syncPrototype (fresh : S3tpHeader) : IsSyncPacket (TxModule.syncPrototype fresh) where
  type := S3tpHeader.getMessageType_setMessageType_sync _
  payload := by simp [TxModule.syncPrototype, S3tpPacket.ofPdu, S3tpSync.size]
  length := by
    have kept : (TxModule.syncPrototype fresh).header.getPduLength =
        ((fresh.setPduLength (UInt16.ofNat ({ syncId := 0 } : S3tpSync).toBytes.length)).setMessageType
          msgSync).getPduLength := rfl
    rw [kept, S3tpHeader.getPduLength_setMessageType, S3tpSync.length_toBytes,
      S3tpHeader.getPduLength_setPduLength_of_lt _ (by decide)]
    rfl

/-- The sync packet with another structure in it. -/
theorem IsSyncPacket.fill {packet : S3tpPacket} (isSync : IsSyncPacket packet) (sync : S3tpSync) :
    IsSyncPacket { packet with payload := sync.toBytes } := ⟨isSync.type, S3tpSync.length_toBytes sync, isSync.length⟩

theorem IsSyncPacket.sealed {packet : S3tpPacket} (isSync : IsSyncPacket packet) : Sealed packet.setCrc where
  valid := S3tpPacket.crcValid_setCrc _
  sized := isSync.payload.trans isSync.length.symm
  short := by
    have length : packet.setCrc.header.getPduLength.toNat = S3tpSync.size := isSync.length
    rw [length]
    decide
  sync _ := isSync.length.ge

/-! ## Where packets come from -/

/-- The packet is sealed and, up to its global sequence number, one of those stamped. -/
structure Known (enqueued : List S3tpPacket) (packet : S3tpPacket) : Prop where
  isSealed : Sealed packet
  stamped : plain packet ∈ enqueued.map plain

theorem Known.append {enqueued : List S3tpPacket} {packet : S3tpPacket} (known : Known enqueued packet)
    (more : List S3tpPacket) : Known (enqueued ++ more) packet :=
  ⟨known.isSealed, by rw [List.map_append]; exact List.mem_append_left _ known.stamped⟩

section Sender

variable {ι : Type*} {s t : TxSystem ι}

/-- Whoever holds a packet holds a known one, and the packets stamped for a port are numbered from 0. -/
structure Provenance (s : TxSystem ι) : Prop where
  sync : IsSyncPacket s.tx.syncPacket
  link : ∀ frame ∈ s.link, Sealed frame ∧ (frame.header.getMessageType = msgData → Known s.enqueued frame)
  held : ∀ port, ∀ packet ∈ s.tx.outBuffer.held port, Known s.enqueued packet
  pending : ∀ caller, ∀ packet ∈ s.pending caller, Known s.enqueued packet
  numbered : ∀ port, Consecutive 0 (s.enqueuedOn port)
  stamped : ∀ port, s.tx.portSequence port = UInt8.ofNat (s.enqueuedOn port).length

/-- A packet that is handed over is sized. -/
def HandsOver (_ : TxSystem ι) : TxEvent ι → Prop
  | .enqueue _ packet _ _ => SizedPacket packet
  | _ => True

namespace Provenance

theorem started (fresh : S3tpHeader) : Provenance (TxSystem.started fresh : TxSystem ι) where
  sync := isSyncPacket_syncPrototype fresh
  link _ member := by simp [TxSystem.started] at member
  held _ _ member := by simp [TxSystem.started, TxModule.reset, TxModule.startRoutine, Buffer.clear] at member
  pending _ _ member := by simp [TxSystem.started] at member
  numbered _ := rfl
  stamped _ := rfl

/-- A frame that carries data is a packet that was stamped for its port. -/
theorem exists_stamped (provenance : Provenance s) {frame : S3tpPacket} (sent : frame ∈ s.link)
    (data : frame.header.getMessageType = msgData) :
    ∃ packet ∈ s.enqueuedOn frame.getPort, plain packet = plain frame := by
  obtain ⟨packet, member, same⟩ := List.mem_map.mp ((provenance.link frame sent).2 data).stamped
  have alike : isDataOn frame.getPort packet = isDataOn frame.getPort frame := by
    change isDataOn frame.getPort (plain packet) = isDataOn frame.getPort (plain frame)
    rw [same]
  exact ⟨packet, List.mem_filter.mpr ⟨member, alike.trans (isDataOn_iff.mpr ⟨data, rfl⟩)⟩, same⟩

/-- What is left alone by a step that neither stamps a packet nor moves one. -/
theorem congr (provenance : Provenance s) (enqueued : t.enqueued = s.enqueued) (link : t.link = s.link)
    (pending : t.pending = s.pending) (outBuffer : t.tx.outBuffer = s.tx.outBuffer)
    (portSequence : t.tx.portSequence = s.tx.portSequence) (sync : IsSyncPacket t.tx.syncPacket) : Provenance t where
  sync := sync
  link := by rw [link, enqueued]; exact provenance.link
  held := by rw [outBuffer, enqueued]; exact provenance.held
  pending := by rw [pending, enqueued]; exact provenance.pending
  numbered := by simp only [TxSystem.enqueuedOn, enqueued]; exact provenance.numbered
  stamped := by simp only [TxSystem.enqueuedOn, enqueued, portSequence]; exact provenance.stamped

/-- The data block passes a packet from the buffer to the link. -/
theorem dataTurn (provenance : Provenance s) :
    Provenance { s with tx := s.tx.dataTurn.1, link := s.link ++ s.tx.dataTurn.2 } := by
  rcases s.tx.dataTurn_cases with ⟨state, idle⟩ | ⟨port, packet, buffer, popped, sends⟩
  · rw [idle]
    exact provenance.congr rfl (List.append_nil _) rfl rfl rfl provenance.sync
  · rw [sends]
    have known := provenance.held port packet (by simp [(Buffer.held_of_popPacketInternal popped).1])
    have numbered := known.isSealed.setGlobalSequence s.tx.globalSeqNum
    refine ⟨provenance.sync, ?_, ?_, provenance.pending, provenance.numbered, provenance.stamped⟩
    · intro frame member
      rcases List.mem_append.mp member with before | new
      · exact provenance.link frame before
      · obtain rfl := List.mem_singleton.mp new
        exact ⟨numbered, fun _ => ⟨numbered, by simpa using known.stamped⟩⟩
    · intro other left member
      exact provenance.held other left (Buffer.mem_held_of_popPacketInternal popped member)

/-- The sync block sends at most the sync frame. -/
theorem syncTurn (provenance : Provenance s) (link : LinkStatus) :
    Provenance { s with tx := (s.tx.syncTurn link).1, link := s.link ++ (s.tx.syncTurn link).2 } := by
  rcases s.tx.syncTurn_cases link with idle | blacklists | sends
  · rw [idle]
    exact provenance.congr rfl (List.append_nil _) rfl rfl rfl provenance.sync
  · rw [blacklists]
    exact provenance.congr rfl (List.append_nil _) rfl rfl rfl provenance.sync
  · rw [sends]
    have filled := provenance.sync.fill s.tx.syncStructure
    refine ⟨⟨filled.type, filled.payload, filled.length⟩, ?_, provenance.held, provenance.pending, provenance.numbered,
      provenance.stamped⟩
    intro frame member
    rcases List.mem_append.mp member with before | new
    · exact provenance.link frame before
    · obtain rfl := List.mem_singleton.mp new
      exact ⟨filled.sealed, fun data => absurd (data.symm.trans filled.type) (by decide)⟩

variable [DecidableEq ι]

/-- A packet that is stamped carries the next number of its port. -/
theorem enqueue (provenance : Provenance s) {caller : ι} {packet : S3tpPacket} {fragNo : UInt8} {moreFragments : Bool}
    (sized : SizedPacket packet) (stepped : s.step (.enqueue caller packet fragNo moreFragments) = some t) :
    Provenance t := by
  rcases TxSystem.cases_of_enqueue stepped with ⟨-, rfl⟩ | ⟨-, rfl⟩
  · exact provenance
  set fresh := s.tx.stamped packet fragNo moreFragments with freshDef
  have onPort (port : UInt8) : (s.enqueued ++ [fresh]).filter (isDataOn port) =
      s.enqueuedOn port ++ if packet.getPort = port then [fresh] else [] := by
    rw [List.filter_append, List.filter_singleton, TxSystem.enqueuedOn]
    congr 1
    simp [isDataOn, freshDef]
  refine ⟨provenance.sync, fun frame member => ?_, fun port other member => ?_, fun other held member => ?_,
    fun port => ?_, fun port => ?_⟩
  · exact ⟨(provenance.link frame member).1, fun data => ((provenance.link frame member).2 data).append _⟩
  · exact (provenance.held port other member).append _
  · rcases TxSystem.mem_pending_update member with ⟨-, isNew⟩ | before
    · obtain rfl := Option.some.inj isNew
      exact ⟨sealed_stamped sized s.tx fragNo moreFragments, by simp⟩
    · exact (provenance.pending other held before).append _
  · change Consecutive 0 ((s.enqueued ++ [fresh]).filter (isDataOn port))
    rw [onPort, Consecutive.append_iff, Nat.zero_add]
    refine ⟨provenance.numbered port, ?_⟩
    split
    · next own =>
      rw [Consecutive.singleton_iff, freshDef, TxModule.stamped_seqPort, own, provenance.stamped]
    · exact Consecutive.nil
  · change (s.tx.advance packet.getPort).portSequence port =
      UInt8.ofNat ((s.enqueued ++ [fresh]).filter (isDataOn port)).length
    rw [onPort, TxModule.advance]
    rcases Classical.em (port = packet.getPort) with rfl | other
    · simp [provenance.stamped]
    · simp [other, Ne.symm other, provenance.stamped]

theorem step (provenance : Provenance s) {event : TxEvent ι} (handsOver : HandsOver s event)
    (stepped : s.step event = some t) : Provenance t := by
  cases event with
  | enqueue caller packet fragNo moreFragments => exact provenance.enqueue handsOver stepped
  | write caller =>
    obtain ⟨packet, pending, rfl⟩ := Option.map_eq_some_iff.mp stepped
    refine ⟨provenance.sync, provenance.link, fun port other member => ?_, fun other held member => ?_,
      provenance.numbered, provenance.stamped⟩
    · rcases Buffer.mem_held_write member with ⟨-, rfl⟩ | before
      · exact provenance.pending caller other pending
      · exact provenance.held port other before
    · rcases TxSystem.mem_pending_update member with ⟨-, nothing⟩ | before
      · contradiction
      · exact provenance.pending other held before
  | iterate link =>
    obtain ⟨-, rfl⟩ := TxSystem.of_iterate stepped
    rcases s.tx.iterate_cases link with idle | turn
    · rw [idle]
      exact provenance.congr rfl (List.append_nil _) rfl rfl rfl provenance.sync
    · rw [turn, ← List.append_assoc]
      exact (provenance.syncTurn link).dataTurn
  | scheduleSync syncId =>
    obtain rfl := Option.some.inj stepped
    exact provenance.congr rfl rfl rfl rfl rfl (provenance.sync.fill _)
  | setChannelAvailable | stopRoutine =>
    obtain rfl := Option.some.inj stepped
    exact provenance.congr rfl rfl rfl rfl rfl provenance.sync

end Provenance

end Sender

end S3tp.Soundness
