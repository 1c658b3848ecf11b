import S3tp.Machine.Run
import S3tp.Model.Core.SendToLinkLayer

/-! # Concurrent use of the transmitting module

Any number of callers enqueue packets while the transmit thread loops, channels come and go, and
sync frames are scheduled. An `enqueuePacket` call is two events: the section under the module's
mutex with the checksum that follows it, and the write to the buffer. Between them the stamped
packet is `pending` in its caller. A turn of the transmit loop holds the mutex from its first test
until the packet is dequeued, and one thread hands all frames to the link, so a turn is one event.

`enqueued` and `link` are histories: the packets in the order they were stamped, and the frames in
the order they were handed to `sendFrame`.
-/

namespace S3tp.Model.Concurrent

open Core Machine

inductive TxEvent (ι : Type*) where
  | enqueue (caller : ι) (packet : S3tpPacket) (fragNo : UInt8) (moreFragments : Bool)
  | write (caller : ι)
  | iterate (link : LinkStatus)
  | setChannelAvailable (channel : UInt8) (available : Bool)
  | scheduleSync (syncId : UInt8)
  | stopRoutine

structure TxSystem (ι : Type*) where
  tx : TxModule
  pending : ι → Option S3tpPacket := fun _ => none
  enqueued : List S3tpPacket := []
  link : List S3tpPacket := []

/-- The packet is a data packet of the port. -/
def isDataOn (port : UInt8) (packet : S3tpPacket) : Bool :=
  packet.header.getMessageType == msgData && packet.getPort == port

namespace TxSystem

variable {ι : Type*}

/-- A module freshly reset and started, with nothing under way. -/
def started (fresh : S3tpHeader) : TxSystem ι := { tx := (TxModule.create fresh).reset.startRoutine }

def step [DecidableEq ι] (s : TxSystem ι) : TxEvent ι → Option (TxSystem ι)
  | .enqueue caller packet fragNo moreFragments =>
      if (s.pending caller).isSome then none
      else match s.tx.stampPacket packet fragNo moreFragments with
        | none => some s
        | some (packet, tx) => some { s with tx, pending := Function.update s.pending caller (some packet),
                                             enqueued := s.enqueued ++ [packet] }
  | .write caller =>
      (s.pending caller).map fun packet =>
        { s with tx := s.tx.writePacket packet, pending := Function.update s.pending caller none }
  | .iterate link =>
      if s.tx.active then
        some { s with tx := (s.tx.iterate link).1, link := s.link ++ (s.tx.iterate link).2 }
      else none
  | .setChannelAvailable channel available =>
      some { s with tx := s.tx.setChannelAvailable channel available }
  | .scheduleSync syncId => some { s with tx := s.tx.scheduleSync syncId }
  | .stopRoutine => some { s with tx := s.tx.stopRoutine }

/-- An idle caller of an active module gets its packet stamped. -/
theorem step_enqueue [DecidableEq ι] {s : TxSystem ι} (active : s.tx.active = true) {caller : ι}
    (idle : s.pending caller = none) (packet : S3tpPacket) (fragNo : UInt8) (moreFragments : Bool) :
    s.step (.enqueue caller packet fragNo moreFragments) = some { s with
      tx := s.tx.advance packet.getPort
      pending := Function.update s.pending caller (some (s.tx.stamped packet fragNo moreFragments))
      enqueued := s.enqueued ++ [s.tx.stamped packet fragNo moreFragments] } := by
  simp [step, idle, TxModule.stampPacket, active]

/-- An inactive module stamps nothing. -/
theorem step_enqueue_inactive [DecidableEq ι] {s : TxSystem ι} (inactive : s.tx.active = false) {caller : ι}
    (idle : s.pending caller = none) (packet : S3tpPacket) (fragNo : UInt8) (moreFragments : Bool) :
    s.step (.enqueue caller packet fragNo moreFragments) = some s := by
  simp [step, idle, TxModule.stampPacket, inactive]

/-- A caller starts one call at a time. -/
theorem idle_of_enqueue [DecidableEq ι] {s t : TxSystem ι} {caller : ι} {packet : S3tpPacket} {fragNo : UInt8}
    {moreFragments : Bool} (stepped : s.step (.enqueue caller packet fragNo moreFragments) = some t) :
    s.pending caller = none := by
  cases pending : s.pending caller with
  | none => rfl
  | some held => simp [step, pending] at stepped

/-- A call is refused by an inactive module, or its packet is stamped and pending in its caller. -/
theorem cases_of_enqueue [DecidableEq ι] {s t : TxSystem ι} {caller : ι} {packet : S3tpPacket} {fragNo : UInt8}
    {moreFragments : Bool} (stepped : s.step (.enqueue caller packet fragNo moreFragments) = some t) :
    (s.tx.active = false ∧ t = s) ∨ (s.tx.active = true ∧ t = { s with
      tx := s.tx.advance packet.getPort
      pending := Function.update s.pending caller (some (s.tx.stamped packet fragNo moreFragments))
      enqueued := s.enqueued ++ [s.tx.stamped packet fragNo moreFragments] }) := by
  have idle := idle_of_enqueue stepped
  cases active : s.tx.active with
  | false =>
    rw [step_enqueue_inactive active idle] at stepped
    exact .inl ⟨rfl, (Option.some.inj stepped).symm⟩
  | true =>
    rw [step_enqueue active idle] at stepped
    exact .inr ⟨rfl, (Option.some.inj stepped).symm⟩

/-- Nothing else happens when a call to an active module is under way. -/
theorem of_enqueue [DecidableEq ι] {s t : TxSystem ι} (active : s.tx.active = true) {caller : ι}
    {packet : S3tpPacket} {fragNo : UInt8} {moreFragments : Bool}
    (stepped : s.step (.enqueue caller packet fragNo moreFragments) = some t) : s.pending caller = none ∧ t = { s with
      tx := s.tx.advance packet.getPort
      pending := Function.update s.pending caller (some (s.tx.stamped packet fragNo moreFragments))
      enqueued := s.enqueued ++ [s.tx.stamped packet fragNo moreFragments] } := by
  refine ⟨idle_of_enqueue stepped, ?_⟩
  rcases cases_of_enqueue stepped with ⟨inactive, -⟩ | ⟨-, shape⟩
  · exact absurd (inactive.symm.trans active) Bool.false_ne_true
  · exact shape

/-- A packet that is pending has been before, or its caller has it now. -/
theorem mem_pending_update [DecidableEq ι] {pending : ι → Option S3tpPacket} {caller other : ι}
    {now : Option S3tpPacket} {held : S3tpPacket} (member : held ∈ Function.update pending caller now other) :
    (other = caller ∧ now = some held) ∨ held ∈ pending other := by
  rcases Classical.em (other = caller) with rfl | different
  · rw [Function.update_self] at member
    exact .inl ⟨rfl, member⟩
  · rw [Function.update_of_ne different] at member
    exact .inr member

theorem step_iterate [DecidableEq ι] {s : TxSystem ι} (active : s.tx.active = true) (link : LinkStatus) :
    s.step (.iterate link) =
      some { s with tx := (s.tx.iterate link).1, link := s.link ++ (s.tx.iterate link).2 } := if_pos active

/-- A turn is taken by an active module. -/
theorem of_iterate [DecidableEq ι] {s t : TxSystem ι} {link : LinkStatus}
    (stepped : s.step (.iterate link) = some t) : s.tx.active = true ∧
      t = { s with tx := (s.tx.iterate link).1, link := s.link ++ (s.tx.iterate link).2 } := by
  simp only [step] at stepped
  split at stepped
  · next active => exact ⟨active, (Option.some.inj stepped).symm⟩
  · contradiction

/-- A packet that is stamped is pending in its caller. -/
theorem enqueued_of_enqueue [DecidableEq ι] {s t : TxSystem ι} {caller : ι} {packet : S3tpPacket} {fragNo : UInt8}
    {moreFragments : Bool} (stepped : s.step (.enqueue caller packet fragNo moreFragments) = some t) :
    t.enqueued = s.enqueued ++ (t.pending caller).toList ∧
      ∀ stamped ∈ t.pending caller, stamped.getPort = packet.getPort := by
  have nothing := idle_of_enqueue stepped
  rcases cases_of_enqueue stepped with ⟨-, rfl⟩ | ⟨-, rfl⟩
  · simp [nothing]
  · simp

/-- A pending packet gets written. -/
theorem step_write [DecidableEq ι] {s : TxSystem ι} {caller : ι} {packet : S3tpPacket}
    (pending : s.pending caller = some packet) : s.step (.write caller) = some { s with
      tx := s.tx.writePacket packet, pending := Function.update s.pending caller none } := by
  simp [step, pending]

/-- Frames handed to the link stay handed to the link. -/
theorem link_prefix_of_step [DecidableEq ι] {s t : TxSystem ι} {event : TxEvent ι}
    (stepped : s.step event = some t) : s.link <+: t.link := by
  cases event with
  | enqueue caller packet fragNo moreFragments =>
    rcases cases_of_enqueue stepped with ⟨-, rfl⟩ | ⟨-, rfl⟩
    · exact List.prefix_rfl
    · exact List.prefix_rfl
  | write caller =>
    obtain ⟨packet, -, rfl⟩ := Option.map_eq_some_iff.mp stepped
    exact List.prefix_rfl
  | iterate link =>
    obtain ⟨-, rfl⟩ := of_iterate stepped
    exact List.prefix_append _ _
  | setChannelAvailable | scheduleSync | stopRoutine =>
    obtain rfl := Option.some.inj stepped
    exact List.prefix_rfl

theorem link_prefix [DecidableEq ι] {meets : TxSystem ι → TxEvent ι → Prop} {s t : TxSystem ι}
    {events : List (TxEvent ι)} (run : Run step meets s events t) : s.link <+: t.link :=
  run.invariant (P := fun u => s.link <+: u.link)
    (fun _ _ _ earlier _ stepped => earlier.trans (link_prefix_of_step stepped)) List.prefix_rfl

/-- The data packets stamped for a port, oldest first. -/
def enqueuedOn (s : TxSystem ι) (port : UInt8) : List S3tpPacket := s.enqueued.filter (isDataOn port)

/-- Packets that are stamped stay stamped. -/
theorem enqueuedOn_prefix_of_step [DecidableEq ι] {s t : TxSystem ι} {event : TxEvent ι}
    (stepped : s.step event = some t) (port : UInt8) : s.enqueuedOn port <+: t.enqueuedOn port := by
  refine List.IsPrefix.filter _ ?_
  cases event with
  | enqueue caller packet fragNo moreFragments =>
    rw [(enqueued_of_enqueue stepped).1]
    exact List.prefix_append _ _
  | write caller =>
    obtain ⟨packet, -, rfl⟩ := Option.map_eq_some_iff.mp stepped
    exact List.prefix_rfl
  | iterate link =>
    obtain ⟨-, rfl⟩ := of_iterate stepped
    exact List.prefix_rfl
  | setChannelAvailable | scheduleSync | stopRoutine =>
    obtain rfl := Option.some.inj stepped
    exact List.prefix_rfl

/-- The data frames handed to the link for a port, oldest first. -/
def sentOn (s : TxSystem ι) (port : UInt8) : List S3tpPacket := s.link.filter (isDataOn port)

/-- Each port has a caller of its own, as the daemon admits one client for a port. -/
def OneCallerPerPort (_ : TxSystem UInt8) : TxEvent UInt8 → Prop
  | .enqueue caller packet _ _ => caller = packet.getPort
  | _ => True

/-- A packet is only enqueued while the admission test passes for it, whatever the length of the
message it belongs to. -/
def Admitted (s : TxSystem ι) : TxEvent ι → Prop
  | .enqueue _ packet _ _ =>
      ∀ msgLen, s.tx.checkTransmissionAvailability packet.getPort packet.channel msgLen = codeSuccess
  | _ => True

/-- A write finds fewer than 256 packets in the queue of its port. -/
def ShortBacklog (s : TxSystem ι) : TxEvent ι → Prop
  | .write caller => ∀ packet ∈ s.pending caller, (s.tx.outBuffer.held packet.getPort).length < 256
  | _ => True

end TxSystem

end S3tp.Model.Concurrent
