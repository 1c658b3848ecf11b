import Mathlib.Data.List.Infix
import S3tp.Model.Concurrent.Endpoints
import S3tp.Soundness.GlobalOrder

/-! # The number of sync frames

A scheduled sync frame sits in a single slot. A call that finds the slot taken overwrites what it would
have been sent for, so that every frame sent is charged to the last call before it: an initiator's frame
to a trigger of its own, a reply to a frame received from an initiator. The slot, the calls not made yet
and the frames sent together never exceed the causes.
-/

namespace S3tp.Soundness

open Model.Core Model.Concurrent Machine

def isSync (packet : S3tpPacket) : Bool := packet.header.getMessageType == msgSync

/-- The `syncId` a packet carries. -/
def syncIdOf (packet : S3tpPacket) : UInt8 := (S3tpSync.ofBytes packet.payload).syncId

/-- The packet is a sync frame with the id. -/
def isSyncOf (syncId : UInt8) (packet : S3tpPacket) : Bool := isSync packet && syncIdOf packet == syncId

/-- The number of sync frames with the id. -/
def syncCount (syncId : UInt8) (frames : List S3tpPacket) : ℕ := frames.countP (isSyncOf syncId)

/-- The slot holds a sync frame with the id that has not been sent. -/
def slotCount (syncId : UInt8) (tx : TxModule) : ℕ :=
  if tx.scheduledSync = true ∧ syncIdOf tx.syncPacket = syncId then 1 else 0

/-- No more initiator's frames than triggers, no more replies than initiator's frames received, and
altogether no more than two sync frames for each trigger. -/
structure NoSyncStorm {ι : Type*} (s : Network ι) : Prop where
  initiators : ∀ party, syncCount syncInitiator (s party).tx.link ≤ (s party).triggers
  replies : ∀ party, syncCount syncAck (s party).tx.link ≤
    syncCount syncInitiator ((s party.peer).tx.link.take (s party).taken)
  total : (s .left).tx.link.countP isSync + (s .right).tx.link.countP isSync ≤
    2 * ((s .left).triggers + (s .right).triggers)

/-! ## The slot -/

@[simp] theorem syncIdOf_scheduleSync (tx : TxModule) (syncId : UInt8) :
    syncIdOf (tx.scheduleSync syncId).syncPacket = syncId := by
  simp [syncIdOf, TxModule.scheduleSync]

@[simp] theorem syncIdOf_synchronizeStatus (tx : TxModule) :
    syncIdOf tx.synchronizeStatus.syncPacket = syncIdOf tx.syncPacket := by
  have payload : S3tpSync.ofBytes tx.synchronizeStatus.syncPacket.payload = tx.syncStructure :=
    S3tpSync.ofBytes_toBytes _
  rw [syncIdOf, payload]
  rfl

theorem dataTurn_frame (tx : TxModule) : tx.dataTurn.1.scheduledSync = tx.scheduledSync ∧
    tx.dataTurn.1.syncPacket = tx.syncPacket := by
  rcases tx.dataTurn_cases with ⟨_, idle⟩ | ⟨_, _, _, -, sends⟩
  · simp [idle]
  · simp [sends, TxModule.afterTaking]

theorem slotCount_congr {tx tx' : TxModule} (scheduled : tx'.scheduledSync = tx.scheduledSync)
    (packet : tx'.syncPacket = tx.syncPacket) (syncId : UInt8) : slotCount syncId tx' = slotCount syncId tx := by
  rw [slotCount, slotCount, scheduled, packet]

/-- The sync block sends the slot or leaves it. -/
theorem syncTurn_slot (tx : TxModule) (link : LinkStatus) (syncId : UInt8)
    (sync : tx.syncPacket.header.getMessageType = msgSync) :
    syncCount syncId (tx.syncTurn link).2 + slotCount syncId (tx.syncTurn link).1 = slotCount syncId tx := by
  have type : isSync tx.synchronizeStatus.syncPacket = true := by
    have : tx.synchronizeStatus.syncPacket.header.getMessageType = msgSync := sync
    simp [isSync, this]
  simp only [TxModule.syncTurn]
  split
  · next ready =>
    have scheduled := (Bool.and_eq_true_iff.mp ready).1
    split
    · simp [syncCount, slotCount, TxModule.setChannelAvailable]
    · simp only [syncCount, slotCount, scheduled, List.countP_singleton, isSyncOf, type,
        syncIdOf_synchronizeStatus, Bool.true_and, beq_iff_eq, true_and, Bool.false_eq_true, false_and,
        if_false, Nat.add_zero]
  · simp [syncCount]

theorem syncCount_append (syncId : UInt8) (first second : List S3tpPacket) :
    syncCount syncId (first ++ second) = syncCount syncId first + syncCount syncId second :=
  List.countP_append

/-- Data frames do not count. -/
theorem syncCount_of_data (syncId : UInt8) {frames : List S3tpPacket} (data : ∀ frame ∈ frames, isData frame = true) :
    syncCount syncId frames = 0 := by
  rw [syncCount, List.countP_eq_zero]
  intro frame member
  have type : frame.header.getMessageType = msgData := by simpa [isData] using data frame member
  have other : isSync frame = false := by
    rw [isSync, type]
    decide
  simp [isSyncOf, other]

section Transmitting

variable {ι : Type*} {s t : TxSystem ι}

/-- The sync frames with the id that have been sent or fill the slot. -/
def charge (syncId : UInt8) (s : TxSystem ι) : ℕ := syncCount syncId s.link + slotCount syncId s.tx

/-- A step that schedules nothing leaves the slot or sends it. -/
theorem charge_step [DecidableEq ι] (inv : LoopInvariant s) {event : TxEvent ι} (stepped : s.step event = some t)
    (quiet : ∀ syncId, event ≠ .scheduleSync syncId) (syncId : UInt8) : charge syncId t = charge syncId s := by
  rw [charge, charge]
  cases event with
  | enqueue caller packet fragNo moreFragments =>
    rcases TxSystem.cases_of_enqueue stepped with ⟨-, rfl⟩ | ⟨-, rfl⟩
    · rfl
    · rfl
  | write caller =>
    obtain ⟨packet, -, rfl⟩ := Option.map_eq_some_iff.mp stepped
    rfl
  | iterate link =>
    obtain ⟨-, rfl⟩ := TxSystem.of_iterate stepped
    rcases s.tx.iterate_cases link with idle | turn
    · rw [idle]
      simp [slotCount]
    · have synced := syncTurn_slot s.tx link syncId inv.sync
      have data : syncCount syncId (s.tx.syncTurn link).1.dataTurn.2 = 0 :=
        syncCount_of_data syncId (inv.syncTurn link).data_of_dataTurn
      have slot := slotCount_congr (dataTurn_frame (s.tx.syncTurn link).1).1
        (dataTurn_frame (s.tx.syncTurn link).1).2 syncId
      rw [turn, syncCount_append, syncCount_append, data, slot]
      omega
  | scheduleSync other => exact absurd rfl (quiet other)
  | setChannelAvailable | stopRoutine =>
    obtain rfl := Option.some.inj stepped
    rfl

end Transmitting

/-- What a receiver reports is the id of a sync frame. -/
theorem isSyncOf_of_reported {rx : RxModule} {frame : S3tpPacket} {syncId : UInt8}
    (reported : (rx.handleReceivedPacket frame).2.1 = some syncId) : isSyncOf syncId frame = true := by
  rw [RxModule.handleReceivedPacket] at reported
  split at reported
  · contradiction
  split at reported
  · contradiction
  split at reported
  · next sync => simpa [isSyncOf, isSync, sync, syncIdOf] using reported
  split at reported
  · contradiction
  split at reported
  · contradiction
  · contradiction

/-! ## The causes -/

/-- Every frame sent, the slot, and every call not made yet has a cause of its own. -/
structure Charged {ι : Type*} (e : Endpoint ι) (inbound : List S3tpPacket) : Prop where
  loop : LoopInvariant e.tx
  initiators : charge syncInitiator e.tx + e.triggered ≤ e.triggers
  replies : charge syncAck e.tx + e.replies ≤ syncCount syncInitiator (inbound.take e.taken)
  others : ∀ syncId, syncId ≠ syncInitiator → syncId ≠ syncAck → charge syncId e.tx = 0

theorem slotCount_scheduleSync (tx : TxModule) (syncId scheduled : UInt8) :
    slotCount syncId (tx.scheduleSync scheduled) = if scheduled = syncId then 1 else 0 := by
  rw [slotCount, syncIdOf_scheduleSync]
  simp [TxModule.scheduleSync]

section Scheduling

variable {ι : Type*} (e : Endpoint ι)

/-- Scheduling adds a frame of its own id at most, and may drop the one it overwrites. -/
theorem charge_synchronizeStatus (syncId scheduled : UInt8) :
    charge syncId (e.synchronizeStatus scheduled).tx ≤ charge syncId e.tx + if scheduled = syncId then 1 else 0 := by
  rw [Endpoint.synchronizeStatus]
  split
  · rw [charge, charge, slotCount_scheduleSync]
    dsimp only
    omega
  · omega

theorem loop_synchronizeStatus (loop : LoopInvariant e.tx) (scheduled : UInt8) :
    LoopInvariant (e.synchronizeStatus scheduled).tx := by
  rw [Endpoint.synchronizeStatus]
  split
  · exact loop.congr rfl rfl loop.sync rfl rfl rfl rfl
  · exact loop

/-- The call changes nothing but the slot. -/
theorem synchronizeStatus_frame (scheduled : UInt8) :
    e.synchronizeStatus scheduled = { e with tx := (e.synchronizeStatus scheduled).tx } := by
  rw [Endpoint.synchronizeStatus]
  split <;> rfl

end Scheduling

namespace Charged

variable {ι : Type*} {e : Endpoint ι} {inbound : List S3tpPacket}

/-- A trigger's call fills the slot. -/
theorem synchronize (charged : Charged e inbound) (due : e.triggered ≠ 0) :
    Charged { e.synchronizeStatus syncInitiator with triggered := e.triggered - 1 } inbound := by
  have added (syncId : UInt8) := charge_synchronizeStatus e syncId syncInitiator
  rw [synchronizeStatus_frame]
  refine ⟨loop_synchronizeStatus e charged.loop syncInitiator, ?_, ?_, ?_⟩
  · have own := added syncInitiator
    have initiators := charged.initiators
    rw [if_pos rfl] at own
    dsimp only
    omega
  · have other := added syncAck
    rw [if_neg (by decide)] at other
    exact Nat.le_trans (Nat.add_le_add_right other _) charged.replies
  · intro syncId notInitiator notAck
    have other := added syncId
    rw [if_neg notInitiator.symm, charged.others syncId notInitiator notAck] at other
    exact Nat.le_zero.mp other

/-- A reply fills the slot. -/
theorem reply (charged : Charged e inbound) (due : e.replies ≠ 0) :
    Charged { e.synchronizeStatus syncAck with replies := e.replies - 1 } inbound := by
  have added (syncId : UInt8) := charge_synchronizeStatus e syncId syncAck
  rw [synchronizeStatus_frame]
  refine ⟨loop_synchronizeStatus e charged.loop syncAck, ?_, ?_, ?_⟩
  · have other := added syncInitiator
    rw [if_neg (by decide)] at other
    exact Nat.le_trans (Nat.add_le_add_right other _) charged.initiators
  · have own := added syncAck
    have replies := charged.replies
    rw [if_pos rfl] at own
    dsimp only
    omega
  · intro syncId notInitiator notAck
    have other := added syncId
    rw [if_neg notAck.symm, charged.others syncId notInitiator notAck] at other
    exact Nat.le_zero.mp other

/-- Frames of the other instance only add causes. -/
theorem mono (charged : Charged e inbound) {more : List S3tpPacket} (grown : inbound <+: more) : Charged e more := by
  refine ⟨charged.loop, charged.initiators, charged.replies.trans ?_, charged.others⟩
  exact (grown.take e.taken).countP_le

/-- An initiator's frame that is reported has been received. -/
theorem receive (charged : Charged e inbound) {frame : S3tpPacket} (next : inbound[e.taken]? = some frame)
    (rx : RxSystem) : Charged { e with
      rx, taken := e.taken + 1,
      replies := if (e.rx.rx.handleReceivedPacket frame).2.1 = some syncInitiator then e.replies + 1
        else e.replies } inbound := by
  have replies := charged.replies
  refine ⟨charged.loop, charged.initiators, ?_, charged.others⟩
  change charge syncAck e.tx + (if (e.rx.rx.handleReceivedPacket frame).2.1 = some syncInitiator then e.replies + 1
    else e.replies) ≤ syncCount syncInitiator (inbound.take (e.taken + 1))
  rw [List.take_add_one, next, Option.toList_some, syncCount_append]
  split
  · next reported =>
    have counted : isSyncOf syncInitiator frame = true := isSyncOf_of_reported reported
    have one : syncCount syncInitiator [frame] = 1 := by rw [syncCount, List.countP_singleton, if_pos counted]
    omega
  · omega

theorem step [DecidableEq ι] {next : Endpoint ι} (charged : Charged e inbound) {event : EndpointEvent ι}
    (stepped : e.step inbound event = some next) : Charged next inbound := by
  cases event with
  | onConnected port =>
    obtain ⟨rx, -, rfl⟩ := Option.map_eq_some_iff.mp stepped
    exact ⟨charged.loop, Nat.add_le_add_right charged.initiators 1, charged.replies, charged.others⟩
  | cleanupClient port =>
    obtain rfl := Option.some.inj stepped
    exact ⟨charged.loop, charged.initiators, charged.replies, charged.others⟩
  | onLinkStatusChanged active =>
    simp only [Endpoint.step] at stepped
    split at stepped
    · obtain rfl := Option.some.inj stepped
      exact ⟨charged.loop, Nat.add_le_add_right charged.initiators 1, charged.replies, charged.others⟩
    · obtain rfl := Option.some.inj stepped
      exact charged
  | synchronize =>
    simp only [Endpoint.step] at stepped
    split at stepped
    · contradiction
    · next due =>
      obtain rfl := Option.some.inj stepped
      exact charged.synchronize due
  | reply =>
    simp only [Endpoint.step] at stepped
    split at stepped
    · contradiction
    · next due =>
      obtain rfl := Option.some.inj stepped
      exact charged.reply due
  | transmit event =>
    simp only [Endpoint.step] at stepped
    split at stepped
    · contradiction
    · next quiet =>
      obtain ⟨tx, sent, rfl⟩ := Option.map_eq_some_iff.mp stepped
      have same (syncId : UInt8) := charge_step charged.loop sent quiet syncId
      exact ⟨charged.loop.step sent, by rw [same]; exact charged.initiators,
        by rw [same]; exact charged.replies, fun syncId => by rw [same]; exact charged.others syncId⟩
  | receive =>
    simp only [Endpoint.step] at stepped
    split at stepped
    · contradiction
    · next frame found =>
      obtain ⟨rx, -, rfl⟩ := Option.map_eq_some_iff.mp stepped
      exact charged.receive found rx
  | serve event =>
    simp only [Endpoint.step] at stepped
    split at stepped
    · contradiction
    · obtain ⟨rx, -, rfl⟩ := Option.map_eq_some_iff.mp stepped
      exact ⟨charged.loop, charged.initiators, charged.replies, charged.others⟩

end Charged

/-! ## Both instances -/

/-- All sync frames are the initiator's or replies. -/
theorem countP_isSync {frames : List S3tpPacket} (others : ∀ syncId, syncId ≠ syncInitiator → syncId ≠ syncAck →
    syncCount syncId frames = 0) :
    frames.countP isSync = syncCount syncInitiator frames + syncCount syncAck frames := by
  have kinds : ∀ frame ∈ frames, isSync frame = true →
      syncIdOf frame = syncInitiator ∨ syncIdOf frame = syncAck := by
    intro frame member sync
    by_contra neither
    have none := others (syncIdOf frame) (fun same => neither (.inl same)) (fun same => neither (.inr same))
    rw [syncCount, List.countP_eq_zero] at none
    exact none frame member (by simp [isSyncOf, sync])
  induction frames with
  | nil => rfl
  | cons frame rest ih =>
    have later := ih
      (fun syncId notInitiator notAck => by
        have none := others syncId notInitiator notAck
        rw [← List.singleton_append, syncCount_append] at none
        omega)
      (fun other member => kinds other (List.mem_cons_of_mem _ member))
    have first : [frame].countP isSync = syncCount syncInitiator [frame] + syncCount syncAck [frame] := by
      rcases Bool.eq_false_or_eq_true (isSync frame) with sync | data
      · rcases kinds frame (by simp) sync with same | same
        · simp [syncCount, isSyncOf, sync, same]
          decide
        · simp [syncCount, isSyncOf, sync, same]
          decide
      · simp [syncCount, isSyncOf, data]
    rw [← List.singleton_append, List.countP_append, syncCount_append, syncCount_append, first, later]
    omega

section Networks

variable {ι : Type*} {s t : Network ι}

/-- Both instances are charged, each to what the other has sent. -/
def Balanced (s : Network ι) : Prop := ∀ party, Charged (s party) (s party.peer).tx.link

theorem balanced_started (fresh : Party → S3tpHeader) : Balanced (Network.started fresh : Network ι) := by
  intro party
  refine ⟨LoopInvariant.started (fresh party), ?_, ?_, fun syncId _ _ => ?_⟩
  · exact Nat.le_refl 0
  · exact Nat.le_refl 0
  · rfl

theorem balanced_step [DecidableEq ι] {event : Party × EndpointEvent ι} (balanced : Balanced s)
    (stepped : s.step event = some t) : Balanced t := by
  obtain ⟨next, moved, rfl⟩ := Option.map_eq_some_iff.mp stepped
  intro party
  rcases Party.eq_or_eq_peer event.1 party with rfl | rfl
  · rw [Function.update_self, Function.update_of_ne (Party.peer_ne _)]
    exact (balanced event.1).step moved
  · rw [Function.update_of_ne (Party.peer_ne _), Party.peer_peer, Function.update_self]
    have own := balanced event.1.peer
    rw [Party.peer_peer] at own
    exact own.mono (Endpoint.link_prefix_of_step moved)

theorem Balanced.bounded (balanced : Balanced s) : NoSyncStorm s := by
  have initiators (party : Party) : syncCount syncInitiator (s party).tx.link ≤ (s party).triggers := by
    have charged := (balanced party).initiators
    rw [charge] at charged
    omega
  have replies (party : Party) : syncCount syncAck (s party).tx.link ≤
      syncCount syncInitiator ((s party.peer).tx.link.take (s party).taken) := by
    have charged := (balanced party).replies
    rw [charge] at charged
    omega
  refine ⟨initiators, replies, ?_⟩
  have sum (party : Party) : (s party).tx.link.countP isSync ≤ (s party).triggers + (s party.peer).triggers := by
    have others (syncId : UInt8) (notInitiator : syncId ≠ syncInitiator) (notAck : syncId ≠ syncAck) :
        syncCount syncId (s party).tx.link = 0 := by
      have charged := (balanced party).others syncId notInitiator notAck
      rw [charge] at charged
      omega
    rw [countP_isSync others]
    have own := initiators party
    have caused := (replies party).trans ((List.take_sublist _ _).countP_le.trans (initiators party.peer))
    omega
  have left : _ ≤ (s .left).triggers + (s .right).triggers := sum .left
  have right : _ ≤ (s .right).triggers + (s .left).triggers := sum .right
  omega

end Networks

/-- In every run of two instances, sync frames answer triggers, at most two for each. -/
theorem noSyncStorm {ι : Type*} [DecidableEq ι] (fresh : Party → S3tpHeader)
    (events : List (Party × EndpointEvent ι)) (s : Network ι)
    (run : Run Network.step Always (Network.started fresh) events s) : NoSyncStorm s :=
  (run.invariant (fun _ _ _ balanced _ stepped => balanced_step balanced stepped)
    (balanced_started fresh)).bounded

/-- A client connects, the link comes up, and a single sync frame leaves for both. -/
def twoTriggers : List (Party × EndpointEvent Unit) :=
  [(.left, .onConnected 5), (.left, .synchronize), (.left, .onLinkStatusChanged true), (.left, .synchronize),
    (.left, .transmit (.iterate ⟨true, false⟩)), (.right, .receive)]

theorem noSyncStorm_two : ∃ s : Network Unit, NoSyncStorm s ∧
    ((s .left).triggers, syncCount syncInitiator (s .left).tx.link, (s .right).taken) = (2, 1, 1) :=
  ⟨_, noSyncStorm (fun _ => default) twoTriggers _
      (.cons trivial rfl (.cons trivial rfl (.cons trivial rfl (.cons trivial rfl (.cons trivial rfl
        (.cons trivial rfl (.nil _))))))), by decide +kernel⟩

end S3tp.Soundness
