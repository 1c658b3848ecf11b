import S3tp.Model.Core.RxModule
import S3tp.Soundness.TransmitOrder

/-! # What a sync frame agrees on

A sync frame reports the numbers stamped on each port, and a zero for a port that was not used. The
next data frame of a port carries the number of the packets sent on it. The receiver therefore
expects the right number exactly if nothing stamped is still waiting, or, where the report is zero,
if it expected that number before.
-/

namespace S3tp.Soundness

open Model.Core Model.Concurrent Machine

/-! ## What the receiver takes from a sync frame -/

/-- The expectation a report leaves a receiver with. -/
def expectation (reported old : UInt8) : UInt8 := if reported = 0 then old else reported

theorem currentPortSequence_synchronizeStatus (rx : RxModule) (tx : TxModule) {port : UInt8}
    (inRange : port.toNat < 128) : (rx.synchronizeStatus tx.syncStructure).currentPortSequence port =
      expectation (tx.portSequence port) (rx.currentPortSequence port) := by
  simp only [RxModule.synchronizeStatus, inRange, dite_true, TxModule.syncStructure, UInt8.ofNat_toNat,
    expectation, ne_eq, ite_not]

/-- An active receiver accepts every sync frame the module sends. -/
theorem handleReceivedPacket_sync (rx : RxModule) (tx : TxModule) (active : rx.active = true)
    (sync : tx.syncPacket.header.getMessageType = msgSync) :
    (rx.handleReceivedPacket tx.synchronizeStatus.syncPacket).2.2 = rx.synchronizeStatus tx.syncStructure := by
  have valid : tx.synchronizeStatus.syncPacket.crcValid = true := S3tpPacket.crcValid_setCrc _
  have type : tx.synchronizeStatus.syncPacket.header.getMessageType = msgSync := sync
  have payload : S3tpSync.ofBytes tx.synchronizeStatus.syncPacket.payload = tx.syncStructure :=
    S3tpSync.ofBytes_toBytes _
  simp [RxModule.handleReceivedPacket, active, valid, type, payload]

/-! ## What the sender sends next -/

/-- The frame that leaves first in a turn that sends a sync frame is that frame. -/
theorem iterate_sync {tx : TxModule} {link : LinkStatus} (sends : tx.sendsSync link = true) :
    ∃ data, (tx.iterate link).2 = tx.synchronizeStatus.syncPacket :: data := by
  simp only [TxModule.sendsSync, Bool.and_eq_true, Bool.not_eq_true'] at sends
  obtain ⟨⟨⟨⟨up, channels⟩, scheduled⟩, channel⟩, room⟩ := sends
  simp [TxModule.iterate, TxModule.syncTurn, up, channels, scheduled, channel, room]

/-- Between two states of a run, the next data frame of a port carries the number of those sent. -/
theorem next_seqPort {s t : TxSystem UInt8} (before : TransmitInvariant s) (after : TransmitInvariant t)
    {port : UInt8} {more : List S3tpPacket} (link : t.link = s.link ++ more) {next : S3tpPacket}
    (isNext : (more.filter (isDataOn port)).head? = some next) :
    next.header.seqPort = s.tx.toConsumePortSeq port := by
  obtain ⟨later, split⟩ := List.head?_eq_some_iff.mp isNext
  have sent : t.sentOn port = s.sentOn port ++ next :: later := by
    rw [TxSystem.sentOn, link, List.filter_append, split, TxSystem.sentOn]
  have numbered := after.sent_consecutive port
  rw [sent, Consecutive.append_iff, Consecutive.cons_iff, Nat.zero_add] at numbered
  rw [numbered.2.1, before.taken]

/-- The sync frame is not a data frame of any port. -/
theorem sync_first {s : TxSystem UInt8} (inv : TransmitInvariant s) (rest : List S3tpPacket) {port : UInt8}
    {next : S3tpPacket} (isNext : (rest.filter (isDataOn port)).head? = some next) :
    ((s.tx.synchronizeStatus.syncPacket :: rest).filter (isDataOn port)).head? = some next := by
  have notData : isDataOn port s.tx.synchronizeStatus.syncPacket = false := by
    rw [← Bool.not_eq_true, isDataOn_iff]
    exact fun same => absurd (same.1.symm.trans inv.sync) (by decide)
  rwa [List.filter_cons_of_neg (by simp [notData])]

/-- In a run that goes on with a turn that sends a sync frame, that frame is the next one. -/
theorem frame_eq_sync {s t : TxSystem UInt8} {link : LinkStatus} {after : List (TxEvent UInt8)}
    {meets : TxSystem UInt8 → TxEvent UInt8 → Prop} (sends : s.tx.sendsSync link = true)
    (run : Run TxSystem.step meets s (.iterate link :: after) t) {frame : S3tpPacket}
    {rest : List S3tpPacket} (frames : t.link = s.link ++ frame :: rest) :
    frame = s.tx.synchronizeStatus.syncPacket := by
  obtain ⟨mid, -, stepped, later⟩ := Run.cons_iff.mp run
  obtain ⟨data, first⟩ := iterate_sync sends
  obtain ⟨more, grown⟩ := TxSystem.link_prefix later
  obtain ⟨-, rfl⟩ := TxSystem.of_iterate stepped
  rw [← grown, first, List.append_assoc, List.append_cancel_left_eq] at frames
  exact (List.cons.inj frames).1.symm

/-- The first packet of a started module on port 5. -/
def firstOne : S3tpPacket := (TxSystem.started (ι := UInt8) default).tx.stamped (oneByte 0) 0 false

/-- A started module with a sync frame scheduled. -/
def announcing : TxSystem UInt8 := { tx := (TxSystem.started (ι := UInt8) default).tx.scheduleSync 0 }

/-- The module after the turn that sends the frame. -/
def announced : TxModule := { announcing.tx.synchronizeStatus with scheduledSync := false, state := .waiting }

/-- A started module with that packet waiting and a sync frame scheduled. -/
def oneWaiting : TxSystem UInt8 where
  tx := (((TxSystem.started (ι := UInt8) default).tx.advance (oneByte 0).getPort).writePacket
    firstOne).scheduleSync 0
  pending := Function.update (Function.update (fun _ => none) 5 (some firstOne)) 5 none
  enqueued := [firstOne]

end S3tp.Soundness
