import Mathlib.Data.List.Chain
import S3tp.Model.Concurrent.TxSystem
import S3tp.Soundness.OneByte

/-! # The global sequence of the data frames

Whatever is enqueued by whom, and however channels, link and sync frames interfere, the data frames
leave message by message: the frames of a message follow one another with the message's number, and the
next message has the next number. Three fields of the module remember the last frame: whether it ends
its message, its port, and the number of the frame to come. No turn of the loop changes them without
sending a frame.
-/

namespace S3tp.Soundness

open Model.Core Model.Concurrent Machine

def isData (packet : S3tpPacket) : Bool := packet.header.getMessageType == msgData

/-- The data frames handed to the link, oldest first. -/
def dataFrames {ι : Type*} (s : TxSystem ι) : List S3tpPacket := s.link.filter isData

/-- Within a message, port and number stay. After its last frame the number goes up by one. -/
def Follows (last next : S3tpPacket) : Prop :=
  if last.header.moreFragments ≠ 0 then
    next.getPort = last.getPort ∧ next.header.getGlobalSequence = last.header.getGlobalSequence
  else next.header.getGlobalSequence = last.header.getGlobalSequence + 1

/-- The frames are numbered message by message, from zero. -/
structure GloballyOrdered (frames : List S3tpPacket) : Prop where
  first : ∀ frame ∈ frames.head?, frame.header.getGlobalSequence = 0
  chain : frames.IsChain Follows

/-- The module would send this frame after those. -/
def Continues (frames : List S3tpPacket) (next : S3tpPacket) : Prop :=
  match frames.getLast? with
  | none => next.header.getGlobalSequence = 0
  | some last => Follows last next

theorem GloballyOrdered.append {frames : List S3tpPacket} (ordered : GloballyOrdered frames)
    {next : S3tpPacket} (continues : Continues frames next) : GloballyOrdered (frames ++ [next]) := by
  cases frames using List.reverseRecOn with
  | nil => exact ⟨by simpa [Continues] using continues, .singleton next⟩
  | append_singleton front last =>
    have follows : Follows last next := by simpa [Continues] using continues
    constructor
    · intro frame found
      apply ordered.first
      simpa using found
    · apply List.isChain_append.mpr
      exact ⟨ordered.chain, .singleton next, by simpa using follows⟩

/-- What the module remembers of the frames it has sent. -/
def Remembers (tx : TxModule) (frames : List S3tpPacket) : Prop :=
  match frames.getLast? with
  | none => tx.sendingFragments = false ∧ tx.globalSeqNum = 0
  | some last => if last.header.moreFragments ≠ 0 then
        tx.sendingFragments = true ∧ tx.currentPort = last.getPort ∧
          tx.globalSeqNum = last.header.getGlobalSequence
      else tx.sendingFragments = false ∧ tx.globalSeqNum = last.header.getGlobalSequence + 1

/-- A frame with the module's number, from its current port while it sends a message, continues the
frames. -/
theorem Remembers.continues {tx : TxModule} {frames : List S3tpPacket} (remembers : Remembers tx frames)
    {packet : S3tpPacket} (port : tx.sendingFragments = true → packet.getPort = tx.currentPort) :
    Continues frames (packet.setGlobalSequence tx.globalSeqNum) := by
  have number : (packet.setGlobalSequence tx.globalSeqNum).header.getGlobalSequence = tx.globalSeqNum :=
    S3tpHeader.getGlobalSequence_setGlobalSequence ..
  rw [Remembers] at remembers
  rw [Continues]
  split at remembers
  · rw [number]
    exact remembers.2
  · next last _ =>
    rw [Follows, number, S3tpPacket.setGlobalSequence_getPort]
    split at remembers
    · next within =>
      obtain ⟨sending, current, same⟩ := remembers
      rw [if_pos within]
      exact ⟨(port sending).trans current, same⟩
    · next complete =>
      rw [if_neg complete]
      exact remembers.2

/-- Taking a packet, the module remembers its frame. -/
theorem remembers_afterTaking (tx : TxModule) (packet : S3tpPacket) (buffer : Buffer)
    (frames : List S3tpPacket) : Remembers (tx.afterTaking packet buffer)
      (frames ++ [packet.setGlobalSequence tx.globalSeqNum]) := by
  rw [Remembers, List.getLast?_concat]
  simp only [S3tpPacket.setGlobalSequence_moreFragments, S3tpPacket.setGlobalSequence_getPort]
  have number : (packet.setGlobalSequence tx.globalSeqNum).header.getGlobalSequence = tx.globalSeqNum :=
    S3tpHeader.getGlobalSequence_setGlobalSequence ..
  rw [number]
  by_cases complete : packet.header.moreFragments = 0
  · simp [TxModule.afterTaking, complete]
  · simp [TxModule.afterTaking, complete]

/-- Only data packets are queued, each on its port, and the frames are ordered so far. -/
structure LoopInvariant {ι : Type*} (s : TxSystem ι) : Prop where
  queued : ∀ port, ∀ packet ∈ s.tx.outBuffer.held port, packet.getPort = port ∧ isData packet = true
  pending : ∀ caller, ∀ packet ∈ s.pending caller, isData packet = true
  sync : s.tx.syncPacket.header.getMessageType = msgSync
  ordered : GloballyOrdered (dataFrames s)
  remembers : Remembers s.tx (dataFrames s)

namespace LoopInvariant

variable {ι : Type*} {s : TxSystem ι}

theorem started (fresh : S3tpHeader) : LoopInvariant (TxSystem.started fresh : TxSystem ι) where
  queued _ _ member := by simp [TxSystem.started, TxModule.reset, TxModule.startRoutine, Buffer.clear] at member
  pending _ _ member := by simp [TxSystem.started] at member
  sync := S3tpHeader.getMessageType_setMessageType_sync _
  ordered := ⟨by simp [dataFrames, TxSystem.started], by simp [dataFrames, TxSystem.started]⟩
  remembers := ⟨rfl, rfl⟩

/-- The invariant reads the buffer, what the module remembers, and the data frames. -/
theorem congr {t : TxSystem ι} (inv : LoopInvariant s) (buffer : t.tx.outBuffer = s.tx.outBuffer)
    (pending : t.pending = s.pending) (sync : t.tx.syncPacket.header.getMessageType = msgSync)
    (sending : t.tx.sendingFragments = s.tx.sendingFragments) (port : t.tx.currentPort = s.tx.currentPort)
    (number : t.tx.globalSeqNum = s.tx.globalSeqNum) (frames : dataFrames t = dataFrames s) :
    LoopInvariant t := by
  refine ⟨by rw [buffer]; exact inv.queued, by rw [pending]; exact inv.pending, sync,
    by rw [frames]; exact inv.ordered, ?_⟩
  have remembers := inv.remembers
  rw [Remembers] at remembers ⊢
  rw [frames, sending, port, number]
  exact remembers

theorem enqueue [DecidableEq ι] {t : TxSystem ι} (inv : LoopInvariant s) {caller : ι} {packet : S3tpPacket}
    {fragNo : UInt8} {moreFragments : Bool}
    (stepped : s.step (.enqueue caller packet fragNo moreFragments) = some t) : LoopInvariant t := by
  rcases TxSystem.cases_of_enqueue stepped with ⟨-, rfl⟩ | ⟨-, rfl⟩
  · exact inv
  refine ⟨inv.queued, ?_, inv.sync, inv.ordered, inv.remembers⟩
  intro other held member
  rcases TxSystem.mem_pending_update member with ⟨-, isNew⟩ | before
  · obtain rfl := Option.some.inj isNew
    rw [isData, TxModule.stamped_getMessageType]
    rfl
  · exact inv.pending other held before

theorem write [DecidableEq ι] {t : TxSystem ι} (inv : LoopInvariant s) {caller : ι}
    (stepped : s.step (.write caller) = some t) : LoopInvariant t := by
  obtain ⟨packet, pending, rfl⟩ := Option.map_eq_some_iff.mp stepped
  refine ⟨?_, ?_, inv.sync, inv.ordered, inv.remembers⟩
  · intro port held member
    rcases Buffer.mem_held_write member with ⟨rfl, rfl⟩ | before
    · exact ⟨rfl, inv.pending caller held pending⟩
    · exact inv.queued port held before
  · intro other held member
    rcases TxSystem.mem_pending_update member with ⟨-, nothing⟩ | before
    · contradiction
    · exact inv.pending other held before

/-- The sync block hands no data frame to the link. -/
theorem sync_frames (tx : TxModule) (link : LinkStatus)
    (sync : tx.syncPacket.header.getMessageType = msgSync) : (tx.syncTurn link).2.filter isData = [] := by
  refine List.filter_eq_nil_iff.mpr fun frame member => ?_
  rw [isData, (tx.syncTurn_sync link sync).2 frame member]
  decide

/-- The data block sends data frames. -/
theorem data_of_dataTurn (inv : LoopInvariant s) : ∀ frame ∈ s.tx.dataTurn.2, isData frame = true := by
  intro frame member
  rcases s.tx.dataTurn_cases with ⟨_, idle⟩ | ⟨port, packet, buffer, popped, sends⟩
  · simp [idle] at member
  · obtain rfl : frame = packet.setGlobalSequence s.tx.globalSeqNum := by simpa [sends] using member
    have head := (Buffer.held_of_popPacketInternal popped).1
    exact (inv.queued port packet (by simp [head])).2

/-- A data block that sends continues the frames. -/
theorem dataTurn (inv : LoopInvariant s) : LoopInvariant
    { s with tx := s.tx.dataTurn.1, link := s.link ++ s.tx.dataTurn.2 } := by
  rcases s.tx.dataTurn_cases_port with ⟨state, idle⟩ | ⟨port, packet, buffer, current, popped, sends⟩
  · rw [idle]
    exact inv.congr rfl rfl inv.sync rfl rfl rfl (by simp [dataFrames])
  rw [sends]
  have head := (Buffer.held_of_popPacketInternal popped).1
  obtain ⟨own, data⟩ := inv.queued port packet (by simp [head])
  have sent : isData (packet.setGlobalSequence s.tx.globalSeqNum) = true := data
  have frames : (s.link ++ [packet.setGlobalSequence s.tx.globalSeqNum]).filter isData =
      dataFrames s ++ [packet.setGlobalSequence s.tx.globalSeqNum] := by
    simp [dataFrames, sent]
  have continues : Continues (dataFrames s) (packet.setGlobalSequence s.tx.globalSeqNum) :=
    inv.remembers.continues fun within => own.trans (current within)
  refine ⟨?_, inv.pending, inv.sync, ?_, ?_⟩
  · intro other held member
    exact inv.queued other held (Buffer.mem_held_of_popPacketInternal popped member)
  · rw [dataFrames, frames]
    exact inv.ordered.append continues
  · rw [dataFrames, frames]
    exact remembers_afterTaking s.tx packet buffer (dataFrames s)

/-- The sync block changes nothing the data frames depend on. -/
theorem syncTurn (inv : LoopInvariant s) (link : LinkStatus) : LoopInvariant
    { s with tx := (s.tx.syncTurn link).1, link := s.link ++ (s.tx.syncTurn link).2 } := by
  have isSync := (s.tx.syncTurn_sync link inv.sync).1
  have noData := sync_frames s.tx link inv.sync
  obtain ⟨channelBlacklist, scheduledSync, syncPacket, after⟩ := s.tx.syncTurn_frame link
  refine inv.congr ?_ rfl isSync ?_ ?_ ?_ ?_
  · rw [after]
  · rw [after]
  · rw [after]
  · rw [after]
  · simp [dataFrames, noData]

theorem iterate (inv : LoopInvariant s) (link : LinkStatus) : LoopInvariant
    { s with tx := (s.tx.iterate link).1, link := s.link ++ (s.tx.iterate link).2 } := by
  rcases s.tx.iterate_cases link with idle | turn
  · rw [idle]
    exact inv.congr rfl rfl inv.sync rfl rfl rfl (by simp [dataFrames])
  · rw [turn, ← List.append_assoc]
    exact (inv.syncTurn link).dataTurn

theorem step [DecidableEq ι] {t : TxSystem ι} (inv : LoopInvariant s) {event : TxEvent ι}
    (stepped : s.step event = some t) : LoopInvariant t := by
  cases event with
  | enqueue caller packet fragNo moreFragments => exact inv.enqueue stepped
  | write caller => exact inv.write stepped
  | iterate link =>
    obtain ⟨-, rfl⟩ := TxSystem.of_iterate stepped
    exact inv.iterate link
  | setChannelAvailable | scheduleSync | stopRoutine =>
    obtain rfl := Option.some.inj stepped
    exact inv.congr rfl rfl inv.sync rfl rfl rfl rfl

end LoopInvariant

/-- In every run of the loop the data frames are numbered message by message, from zero. -/
theorem globallyOrdered {ι : Type*} [DecidableEq ι] (fresh : S3tpHeader) (events : List (TxEvent ι))
    (s : TxSystem ι) (run : Run TxSystem.step Always (TxSystem.started fresh) events s) :
    GloballyOrdered (dataFrames s) :=
  (run.invariant (fun _ _ _ inv _ stepped => inv.step stepped) (LoopInvariant.started fresh)).ordered

/-- A message of two packets, enqueued by the caller, and the sync frame before it. -/
def twoFragments : List (TxEvent Unit) :=
  [.enqueue () (oneByte 0) 0 true, .write (), .scheduleSync 0, .iterate ⟨true, false⟩,
    .enqueue () (oneByte 1) 1 false, .write (), .iterate ⟨true, false⟩]

/-- Both leave with the number 0. -/
theorem globallyOrdered_two : ∃ s : TxSystem Unit, GloballyOrdered (dataFrames s) ∧
    (dataFrames s).map (fun frame => frame.header.getGlobalSequence) = [0, 0] :=
  ⟨_, globallyOrdered default twoFragments _
      (.cons trivial rfl (.cons trivial rfl (.cons trivial rfl (.cons trivial rfl (.cons trivial rfl
        (.cons trivial rfl (.cons trivial rfl (.nil _)))))))), by decide +kernel⟩

end S3tp.Soundness
