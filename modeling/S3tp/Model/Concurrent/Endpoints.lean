import S3tp.Model.Concurrent.RxSystem
import S3tp.Model.Concurrent.TxSystem

/-! # Two instances over a link

Each instance transmits, receives the other's frames in the order they were sent, and synchronizes:
when a client connects, when the link comes up, and in reply to a sync frame of an initiator. The calls
of `synchronizeStatus` these lead to are made later, each under the mutex of the client registry, and do
nothing without a client. `triggers` is a history, `triggered` and `replies` count the calls not made
yet, and `taken` counts the frames received from the other instance.
-/

namespace S3tp.Model.Concurrent

open Core Machine

/-- `S3TP_SYNC_INITIATOR`. -/
def syncInitiator : UInt8 := 0x00

/-- `S3TP_SYNC_ACK`. -/
def syncAck : UInt8 := 0xFF

inductive EndpointEvent (ι : Type*) where
  | onConnected (port : UInt8)
  | cleanupClient (port : UInt8)
  | onLinkStatusChanged (active : Bool)
  | synchronize
  | reply
  | transmit (event : TxEvent ι)
  | receive
  | serve (event : RxEvent)

structure Endpoint (ι : Type*) where
  tx : TxSystem ι
  rx : RxSystem := .started
  clients : ByteMap Unit := .empty
  triggers : ℕ := 0
  triggered : ℕ := 0
  replies : ℕ := 0
  taken : ℕ := 0

namespace Endpoint

variable {ι : Type*}

/-- A sync message is only sent with at least one client. -/
def synchronizeStatus (e : Endpoint ι) (syncId : UInt8) : Endpoint ι :=
  if 0 < e.clients.size then { e with tx := { e.tx with tx := e.tx.tx.scheduleSync syncId } } else e

/-- A step of an instance that has been sent the inbound frames so far. Sync frames are scheduled, and
frames received, by the events of the instance only. -/
def step [DecidableEq ι] (e : Endpoint ι) (inbound : List S3tpPacket) :
    EndpointEvent ι → Option (Endpoint ι)
  | .onConnected port => (e.rx.step (.openPort port)).map fun rx =>
      { e with rx, clients := e.clients.insert port (), triggers := e.triggers + 1,
               triggered := e.triggered + 1 }
  | .cleanupClient port => some { e with clients := e.clients.erase port }
  | .onLinkStatusChanged active =>
      if active then some { e with triggers := e.triggers + 1, triggered := e.triggered + 1 } else some e
  | .synchronize =>
      if e.triggered = 0 then none
      else some { e.synchronizeStatus syncInitiator with triggered := e.triggered - 1 }
  | .reply =>
      if e.replies = 0 then none
      else some { e.synchronizeStatus syncAck with replies := e.replies - 1 }
  | .transmit event => match event with
    | .scheduleSync _ => none
    | event => (e.tx.step event).map fun tx => { e with tx }
  | .receive => match inbound[e.taken]? with
    | none => none
    | some frame => (e.rx.step (.receive frame)).map fun rx =>
      -- `onSynchronization` replies to an initiator only.
      let reported := (e.rx.rx.handleReceivedPacket frame).2.1
      { e with rx, taken := e.taken + 1,
               replies := if reported = some syncInitiator then e.replies + 1 else e.replies }
  | .serve event => match event with
    | .receive _ => none
    | event => (e.rx.step event).map fun rx => { e with rx }

theorem link_synchronizeStatus (e : Endpoint ι) (syncId : UInt8) :
    (e.synchronizeStatus syncId).tx.link = e.tx.link := by
  rw [synchronizeStatus]
  split <;> rfl

/-- What has been sent stays sent. -/
theorem link_prefix_of_step [DecidableEq ι] {e next : Endpoint ι} {inbound : List S3tpPacket}
    {event : EndpointEvent ι} (stepped : e.step inbound event = some next) : e.tx.link <+: next.tx.link := by
  cases event with
  | onConnected port =>
    obtain ⟨rx, -, rfl⟩ := Option.map_eq_some_iff.mp stepped
    exact List.prefix_rfl
  | cleanupClient port =>
    obtain rfl := Option.some.inj stepped
    exact List.prefix_rfl
  | onLinkStatusChanged active =>
    simp only [step] at stepped
    split at stepped <;> (obtain rfl := Option.some.inj stepped; exact List.prefix_rfl)
  | synchronize | reply =>
    simp only [step] at stepped
    split at stepped
    · contradiction
    · obtain rfl := Option.some.inj stepped
      exact link_synchronizeStatus e _ ▸ List.prefix_rfl
  | transmit event =>
    simp only [step] at stepped
    split at stepped
    · contradiction
    · obtain ⟨tx, sent, rfl⟩ := Option.map_eq_some_iff.mp stepped
      exact TxSystem.link_prefix_of_step sent
  | receive =>
    simp only [step] at stepped
    split at stepped
    · contradiction
    · obtain ⟨rx, -, rfl⟩ := Option.map_eq_some_iff.mp stepped
      exact List.prefix_rfl
  | serve event =>
    simp only [step] at stepped
    split at stepped
    · contradiction
    · obtain ⟨rx, -, rfl⟩ := Option.map_eq_some_iff.mp stepped
      exact List.prefix_rfl

end Endpoint

/-- The two instances. -/
inductive Party where
  | left
  | right
deriving DecidableEq

/-- The other instance. -/
def Party.peer : Party → Party
  | .left => .right
  | .right => .left

namespace Party

theorem peer_ne (party : Party) : party.peer ≠ party := by cases party <;> decide

@[simp] theorem peer_peer (party : Party) : party.peer.peer = party := by cases party <;> rfl

theorem eq_or_eq_peer (party other : Party) : other = party ∨ other = party.peer := by
  cases party <;> cases other <;> simp [peer]

end Party

/-- Both instances. The frames in flight are those the one has sent and the other not taken yet. -/
abbrev Network (ι : Type*) := Party → Endpoint ι

namespace Network

variable {ι : Type*}

/-- Two instances that have just been started. -/
def started (fresh : Party → S3tpHeader) : Network ι := fun party => { tx := .started (fresh party) }

def step [DecidableEq ι] (s : Network ι) (event : Party × EndpointEvent ι) : Option (Network ι) :=
  ((s event.1).step (s event.1.peer).tx.link event.2).map (Function.update s event.1)

end Network

end S3tp.Model.Concurrent
