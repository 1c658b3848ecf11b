import S3tp.Model.Concurrent.Transfer
import S3tp.Soundness.GlobalOrder
import S3tp.Soundness.Payloads
import S3tp.Soundness.TransmitOrder

/-! # What the sender has in hand

While payloads are transferred, the packets stamped for a port carry the calls of the payloads accepted
on it, in order, and behind them those that the call under way has made. They are on the link, in the
queue or with the caller in the order of stamping, and the receiver gets the frames of the link in that
order, too.
-/

namespace S3tp.Soundness

open Model.Core Model.Core.RxModule Model.Concurrent Machine

/-! ## A sender without sync frames -/

/-- A data packet with a valid checksum. -/
def isValidData (packet : S3tpPacket) : Bool := isData packet && packet.crcValid

/-- No sync frame is scheduled, and nothing but valid data packets is under way. -/
structure Clean {ι : Type*} (s : TxSystem ι) : Prop where
  unscheduled : s.tx.scheduledSync = false
  link : ∀ frame ∈ s.link, isValidData frame = true
  held : ∀ port, ∀ packet ∈ s.tx.outBuffer.held port, isValidData packet = true
  pending : ∀ caller, ∀ packet ∈ s.pending caller, isValidData packet = true

theorem isValidData_stamped (tx : TxModule) (packet : S3tpPacket) (fragNo : UInt8) (moreFragments : Bool) :
    isValidData (tx.stamped packet fragNo moreFragments) = true := by
  simp [isValidData, isData]

namespace Clean

variable {ι : Type*} {s t : TxSystem ι}

theorem started (fresh : S3tpHeader) : Clean (TxSystem.started fresh : TxSystem ι) where
  unscheduled := rfl
  link _ member := by simp [TxSystem.started] at member
  held _ _ member := by simp [TxSystem.started, TxModule.reset, TxModule.startRoutine, Buffer.clear] at member
  pending _ _ member := by simp [TxSystem.started] at member

theorem dataTurn (clean : Clean s) : Clean { s with tx := s.tx.dataTurn.1, link := s.link ++ s.tx.dataTurn.2 } := by
  rcases s.tx.dataTurn_cases with ⟨state, idle⟩ | ⟨port, packet, buffer, popped, sends⟩
  · rw [idle]
    exact ⟨clean.unscheduled, by simpa using clean.link, clean.held, clean.pending⟩
  · rw [sends]
    refine ⟨clean.unscheduled, ?_, ?_, clean.pending⟩
    · intro frame member
      rcases List.mem_append.mp member with before | new
      · exact clean.link frame before
      · obtain rfl := List.mem_singleton.mp new
        exact clean.held port packet (by simp [(Buffer.held_of_popPacketInternal popped).1])
    · intro other left member
      exact clean.held other left (Buffer.mem_held_of_popPacketInternal popped member)

theorem step [DecidableEq ι] (clean : Clean s) {event : TxEvent ι} (quiet : ∀ syncId, event ≠ .scheduleSync syncId)
    (stepped : s.step event = some t) : Clean t := by
  cases event with
  | enqueue caller packet fragNo moreFragments =>
    rcases TxSystem.cases_of_enqueue stepped with ⟨-, rfl⟩ | ⟨-, rfl⟩
    · exact clean
    refine ⟨clean.unscheduled, clean.link, clean.held, ?_⟩
    intro other held member
    rcases TxSystem.mem_pending_update member with ⟨-, isNew⟩ | before
    · obtain rfl := Option.some.inj isNew
      exact isValidData_stamped ..
    · exact clean.pending other held before
  | write caller =>
    obtain ⟨packet, pending, rfl⟩ := Option.map_eq_some_iff.mp stepped
    refine ⟨clean.unscheduled, clean.link, ?_, ?_⟩
    · intro port held member
      rcases Buffer.mem_held_write member with ⟨rfl, rfl⟩ | before
      · exact clean.pending caller held pending
      · exact clean.held port held before
    · intro other held member
      rcases TxSystem.mem_pending_update member with ⟨-, nothing⟩ | before
      · contradiction
      · exact clean.pending other held before
  | iterate link =>
    obtain ⟨-, rfl⟩ := TxSystem.of_iterate stepped
    rcases s.tx.iterate_cases link with idle | turn
    · rw [idle]
      exact ⟨clean.unscheduled, by simpa using clean.link, clean.held, clean.pending⟩
    · have none : s.tx.syncTurn link = (s.tx, []) := by simp [TxModule.syncTurn, clean.unscheduled]
      rw [turn, none]
      exact clean.dataTurn
  | scheduleSync syncId => exact absurd rfl (quiet syncId)
  | setChannelAvailable | stopRoutine =>
    obtain rfl := Option.some.inj stepped
    exact ⟨clean.unscheduled, clean.link, clean.held, clean.pending⟩

end Clean

/-! ## The calls under way -/

/-- The ports that are used are open at the receiver, and the payloads have a length that the interface
allows. -/
def Used (s : Transfer) : TransferEvent → Prop
  | .call m _ => 1 ≤ m.len ∧ m.len ≤ maxPduLength
  | .deliver => ∀ frame ∈ s.connection.inFlight.head?, s.connection.receiver.rx.isPortOpen frame.getPort = true
  | _ => True

/-- No packet with number 255 says that more follow, no queue grows to a turn, and no packet makes the
receiver clear a queue. -/
def Undamaged (s : Transfer) : TransferEvent → Prop
  | .enqueue port => ∀ underWay ∈ s.calls port, ∀ call ∈ underWay.remaining.head?, call.moreFragments = true →
      s.connection.sender.tx.portSequence port ≠ 255
  | .write port => s.connection.sender.ShortBacklog (.write port)
  | .deliver => ∀ frame ∈ s.connection.inFlight.head?,
      (s.connection.receiver.rx.inBuffer.held frame.getPort).length < 256 ∧
      s.connection.receiver.rx.inBuffer.windowExceeded s.connection.receiver.rx.policy frame = false ∧
      ∀ port, ¬ s.connection.receiver.rx.Flushes frame port
  | _ => True

/-- The packets stamped for the port carry the calls of the payloads accepted, and behind them those that
the call under way has made. -/
structure Booked (s : Transfer) (port : UInt8) (handed : List (List EnqueueCall)) (made : List EnqueueCall) :
    Prop where
  payloads : List.Forall₂ (fun m calls => ∃ fresh, calls = m.calls fresh) (s.acceptedOn port) handed
  stamped : List.Forall₂ Carries (handed.flatten ++ made) (s.connection.sender.enqueuedOn port)
  idle : s.calls port = none → made = [] ∧ s.connection.sender.pending port = none
  underWay : ∀ underWay ∈ s.calls port, underWay.submission.port = port ∧ port ≤ 127 ∧
    (∃ fresh, made ++ underWay.remaining = underWay.submission.calls fresh) ∧
    (underWay.remaining = [] → (s.connection.sender.pending port).isSome = true)
  begun : (s.connection.sender.pending port).isSome = true → made ≠ []

theorem Booked.congr {s t : Transfer} {port : UInt8} {handed : List (List EnqueueCall)} {made : List EnqueueCall}
    (booked : Booked s port handed made) (accepted : t.acceptedOn port = s.acceptedOn port)
    (enqueued : t.connection.sender.enqueuedOn port = s.connection.sender.enqueuedOn port)
    (calls : t.calls port = s.calls port)
    (pending : t.connection.sender.pending port = s.connection.sender.pending port) : Booked t port handed made where
  payloads := by rw [accepted]; exact booked.payloads
  stamped := by rw [enqueued]; exact booked.stamped
  idle := by rw [calls, pending]; exact booked.idle
  underWay := by rw [calls, pending]; exact booked.underWay
  begun := by rw [pending]; exact booked.begun

/-- The call that is made next fills its packet for the port. -/
theorem Booked.getPort {s : Transfer} {port : UInt8} {handed : List (List EnqueueCall)} {made : List EnqueueCall}
    (booked : Booked s port handed made) {m : Submission} {call : EnqueueCall} {rest : List EnqueueCall}
    (next : s.calls port = some ⟨m, call :: rest⟩) : call.packet.getPort = port := by
  obtain ⟨own, bound, ⟨fresh, split⟩, -⟩ := booked.underWay _ next
  have member : call ∈ m.calls fresh := by
    rw [← split]
    simp
  rw [(filled_of_mem_calls member).1, own, and_127_of_le bound]

/-- What the sender is to the receiver, and what it has in hand. -/
structure Sending (s : Transfer) : Prop where
  transmit : TransmitInvariant s.connection.sender
  clean : Clean s.connection.sender
  active : s.connection.sender.tx.active = true
  inOrder : s.connection.receiver.received <+: s.connection.sender.link
  booked : ∀ port, ∃ handed made, Booked s port handed made
  below : ∀ packet ∈ s.connection.sender.enqueued, packet.header.moreFragments ≠ 0 → packet.header.seqPort ≠ 255

namespace Sending

variable {s t : Transfer}

theorem started (fresh : S3tpHeader) : Sending (Transfer.started fresh) where
  transmit := TransmitInvariant.started fresh
  clean := Clean.started fresh
  active := rfl
  inOrder := List.prefix_rfl
  booked _ := ⟨[], [], .nil, .nil, fun _ => ⟨rfl, rfl⟩, nofun, nofun⟩
  below _ member := absurd member List.not_mem_nil

theorem call (sending : Sending s) {m : Submission} {fresh : ℕ → S3tpHeader}
    (stepped : s.step (.call m fresh) = some t) : Sending t := by
  obtain ⟨bound, idle, rfl | ⟨-, rfl⟩⟩ := Transfer.of_call stepped
  · exact sending
  refine ⟨sending.transmit, sending.clean, sending.active, sending.inOrder, fun port => ?_, sending.below⟩
  obtain ⟨handed, made, booked⟩ := sending.booked port
  rcases Classical.em (port = m.port) with rfl | other
  · obtain ⟨rfl, free⟩ := booked.idle idle
    refine ⟨handed, [], booked.payloads, booked.stamped, fun none => ?_, ?_, booked.begun⟩
    · simp at none
    · intro underWay found
      obtain rfl : ⟨m, m.calls fresh⟩ = underWay := by simpa using found
      refine ⟨rfl, bound, ⟨fresh, rfl⟩, fun none => ?_⟩
      have indexed := indexed_calls m fresh
      rw [show m.calls fresh = [] from none] at indexed
      nomatch indexed
  · exact ⟨handed, made, booked.congr rfl rfl (Function.update_of_ne other ..) rfl⟩

theorem enqueue (sending : Sending s) {port : UInt8} (undamaged : Undamaged s (.enqueue port))
    (stepped : s.step (.enqueue port) = some t) : Sending t := by
  obtain ⟨m, call, rest, connection, underWay, connects, rfl⟩ := Transfer.of_enqueue sending.active stepped
  have inOrder := Connection.inOrder_of_step sending.inOrder connects
  obtain ⟨sender, steps, rfl⟩ := Connection.of_sender connects
  obtain ⟨_, _, ownBooked⟩ := sending.booked port
  have own := ownBooked.getPort underWay
  have transmit :=
    sending.transmit.step (.enqueue port call.packet call.fragNo call.moreFragments) own.symm trivial steps
  have clean := sending.clean.step (by simp) steps
  obtain ⟨idle, rfl⟩ := TxSystem.of_enqueue sending.active steps
  set packet := s.connection.sender.tx.stamped call.packet call.fragNo call.moreFragments with packetDef
  have onPort (other : UInt8) : isDataOn other packet = decide (port = other) := by
    rw [packetDef, isDataOn, TxModule.stamped_getMessageType, TxModule.stamped_getPort, own]
    rfl
  refine ⟨transmit, clean, sending.active, inOrder, fun other => ?_, ?_⟩
  · obtain ⟨handed, made, booked⟩ := sending.booked other
    rcases Classical.em (other = port) with rfl | different
    · obtain ⟨same, bound, ⟨fresh, split⟩, -⟩ := booked.underWay _ underWay
      refine ⟨handed, made ++ [call], booked.payloads, ?_, fun none => ?_, ?_, fun _ => by simp⟩
      · have stamped : (s.connection.sender.enqueued ++ [packet]).filter (isDataOn other) =
            s.connection.sender.enqueuedOn other ++ [packet] := by
          simp [TxSystem.enqueuedOn, onPort]
        rw [TxSystem.enqueuedOn, stamped, ← List.append_assoc]
        exact List.rel_append booked.stamped (.cons (carries_stamped _ call) .nil)
      · simp at none
      · intro further found
        obtain rfl : ⟨m, rest⟩ = further := by simpa using found
        refine ⟨same, bound, ⟨fresh, by simpa using split⟩, fun _ => by simp⟩
    · refine ⟨handed, made, booked.congr rfl ?_ (Function.update_of_ne different ..)
        (Function.update_of_ne different ..)⟩
      simp [TxSystem.enqueuedOn, onPort, Ne.symm different]
  · intro other member
    rcases List.mem_append.mp member with before | new
    · exact sending.below other before
    · obtain rfl := List.mem_singleton.mp new
      rw [packetDef, TxModule.stamped_moreFragments, TxModule.stamped_seqPort, own]
      intro flagged
      refine undamaged _ underWay call rfl ?_
      by_contra final
      simp [final] at flagged

theorem write (sending : Sending s) {port : UInt8} (undamaged : Undamaged s (.write port))
    (stepped : s.step (.write port) = some t) : Sending t := by
  obtain ⟨m, remaining, connection, underWay, connects, rfl⟩ := Transfer.of_write stepped
  have inOrder := Connection.inOrder_of_step sending.inOrder connects
  obtain ⟨sender, steps, rfl⟩ := Connection.of_sender connects
  have transmit := sending.transmit.step (.write port) trivial undamaged steps
  have clean := sending.clean.step (by simp) steps
  obtain ⟨packet, pending, rfl⟩ := Option.map_eq_some_iff.mp steps
  have ownPort : m.port = port := by
    obtain ⟨_, _, booked⟩ := sending.booked port
    exact (booked.underWay _ underWay).1
  cases remaining with
  | nil =>
    refine ⟨transmit, clean, sending.active, inOrder, fun other => ?_, sending.below⟩
    obtain ⟨handed, made, booked⟩ := sending.booked other
    rcases Classical.em (other = port) with rfl | different
    · obtain ⟨same, bound, ⟨fresh, split⟩, -⟩ := booked.underWay _ underWay
      refine ⟨handed ++ [made], [], ?_, ?_, fun _ => ⟨rfl, ?_⟩, fun further found => ?_, fun some => ?_⟩
      · have accepted : (s.accepted ++ [m]).filter (fun m => m.port = other) = s.acceptedOn other ++ [m] := by
          simp [Transfer.acceptedOn, ownPort]
        rw [List.isEmpty_nil, if_pos rfl, Transfer.acceptedOn, accepted]
        exact List.rel_append booked.payloads (.cons ⟨fresh, by simpa using split⟩ .nil)
      · have flat : (handed ++ [made]).flatten ++ [] = handed.flatten ++ made := by simp
        rw [flat]
        exact booked.stamped
      · simp
      · simp at found
      · simp at some
    · refine ⟨handed, made, booked.congr ?_ rfl (Function.update_of_ne different ..)
        (Function.update_of_ne different ..)⟩
      simp [Transfer.acceptedOn, ownPort, Ne.symm different]
  | cons call rest =>
    refine ⟨transmit, clean, sending.active, inOrder, fun other => ?_, sending.below⟩
    obtain ⟨handed, made, booked⟩ := sending.booked other
    rcases Classical.em (other = port) with rfl | different
    · refine ⟨handed, made, booked.payloads, booked.stamped, fun none => ?_, fun further found => ?_,
        fun some => ?_⟩
      · exact absurd (underWay.symm.trans none) (by simp)
      · obtain ⟨same, bound, split, -⟩ := booked.underWay _ found
        obtain rfl : ⟨m, call :: rest⟩ = further := Option.some.inj (underWay.symm.trans found)
        exact ⟨same, bound, split, nofun⟩
      · simp at some
    · exact ⟨handed, made, booked.congr rfl rfl rfl (Function.update_of_ne different ..)⟩

/-- The loop and the channels change what is queued and sent, but nothing that a call has a hand in. -/
theorem loop (sending : Sending s) {event : TxEvent UInt8}
    (isLoop : (∃ link, event = .iterate link) ∨ ∃ channel available, event = .setChannelAvailable channel available)
    {connection : Connection UInt8} (connects : s.connection.step (.sender event) = some connection) :
    Sending { s with connection } := by
  have inOrder := Connection.inOrder_of_step sending.inOrder connects
  obtain ⟨sender, steps, rfl⟩ := Connection.of_sender connects
  obtain ⟨own, short, quiet⟩ : s.connection.sender.OneCallerPerPort event ∧ s.connection.sender.ShortBacklog event ∧
      ∀ syncId, event ≠ .scheduleSync syncId := by
    rcases isLoop with ⟨link, rfl⟩ | ⟨channel, available, rfl⟩
    · exact ⟨trivial, trivial, nofun⟩
    · exact ⟨trivial, trivial, nofun⟩
  obtain ⟨enqueued, pending, active⟩ : sender.enqueued = s.connection.sender.enqueued ∧
      sender.pending = s.connection.sender.pending ∧ sender.tx.active = s.connection.sender.tx.active := by
    rcases isLoop with ⟨link, rfl⟩ | ⟨channel, available, rfl⟩
    · obtain ⟨-, rfl⟩ := TxSystem.of_iterate steps
      exact ⟨rfl, rfl, TxModule.active_iterate _ _⟩
    · obtain rfl := Option.some.inj steps
      exact ⟨rfl, rfl, rfl⟩
  refine ⟨sending.transmit.step event own short steps, sending.clean.step quiet steps, active.trans sending.active,
    inOrder, fun port => ?_, ?_⟩
  · obtain ⟨handed, made, booked⟩ := sending.booked port
    refine ⟨handed, made, booked.congr rfl ?_ rfl (congrFun pending port)⟩
    exact congrArg (List.filter _) enqueued
  · have below := sending.below
    rwa [← enqueued] at below

/-- The receiver has no hand in it either. -/
theorem receiver (sending : Sending s) {receiver : RxSystem}
    (inOrder : receiver.received <+: s.connection.sender.link) :
    Sending { s with connection := { s.connection with receiver } } where
  transmit := sending.transmit
  clean := sending.clean
  active := sending.active
  inOrder := inOrder
  booked port := by
    obtain ⟨handed, made, booked⟩ := sending.booked port
    exact ⟨handed, made, booked.congr rfl rfl rfl rfl⟩
  below := sending.below

end Sending

/-! ## What arrives -/

/-- Frames arrive in the order of the link and find everything in place. -/
def InSequence (link : List S3tpPacket) (r : RxSystem) : RxEvent → Prop
  | .receive frame => r.received ++ [frame] <+: link ∧ r.rx.accepts frame = true ∧
      (r.rx.inBuffer.held frame.getPort).length < 256 ∧
      r.rx.inBuffer.windowExceeded r.rx.policy frame = false ∧ ∀ port, ¬ r.rx.Flushes frame port
  | _ => True

theorem InSequence.mono {link more : List S3tpPacket} (grown : link <+: more) {r : RxSystem} {event : RxEvent}
    (inSequence : InSequence link r event) : InSequence more r event := by
  cases event with
  | receive frame => exact ⟨inSequence.1.trans grown, inSequence.2⟩
  | openPort | closePort | consume => trivial

/-- Every step keeps what the sender has in hand, and is at most one step of the receiver. -/
theorem Sending.step {s t : Transfer} (sending : Sending s) {event : TransferEvent}
    (met : Used s event ∧ Undamaged s event) (stepped : s.step event = some t) : Sending t ∧
      (t.connection.receiver = s.connection.receiver ∨ ∃ own, InSequence t.connection.sender.link
        s.connection.receiver own ∧ s.connection.receiver.step own = some t.connection.receiver) := by
  cases event with
  | call m fresh =>
    refine ⟨sending.call stepped, .inl ?_⟩
    obtain ⟨-, -, rfl | ⟨-, rfl⟩⟩ := Transfer.of_call stepped
    · rfl
    · rfl
  | enqueue port =>
    refine ⟨sending.enqueue met.2 stepped, .inl ?_⟩
    obtain ⟨m, call, rest, connection, -, connects, rfl⟩ := Transfer.of_enqueue sending.active stepped
    obtain ⟨sender, -, rfl⟩ := Connection.of_sender connects
    rfl
  | write port =>
    refine ⟨sending.write met.2 stepped, .inl ?_⟩
    obtain ⟨m, remaining, connection, -, connects, rfl⟩ := Transfer.of_write stepped
    obtain ⟨sender, -, rfl⟩ := Connection.of_sender connects
    split <;> rfl
  | iterate link =>
    obtain ⟨connection, connects, rfl⟩ := Transfer.of_onConnection rfl stepped
    refine ⟨sending.loop (.inl ⟨link, rfl⟩) connects, .inl ?_⟩
    obtain ⟨sender, -, rfl⟩ := Connection.of_sender connects
    rfl
  | setChannelAvailable channel available =>
    obtain ⟨connection, connects, rfl⟩ := Transfer.of_onConnection rfl stepped
    refine ⟨sending.loop (.inr ⟨channel, available, rfl⟩) connects, .inl ?_⟩
    obtain ⟨sender, -, rfl⟩ := Connection.of_sender connects
    rfl
  | deliver =>
    obtain ⟨connection, connects, rfl⟩ := Transfer.of_onConnection rfl stepped
    have inOrder := Connection.inOrder_of_step sending.inOrder connects
    obtain ⟨frame, rest, receiver, flight, steps, rfl⟩ := Connection.of_deliver connects
    have isNext : frame ∈ s.connection.inFlight.head? := by simp [flight]
    have link := Connection.received_append_inFlight sending.inOrder
    rw [flight] at link
    have sent : frame ∈ s.connection.sender.link := by
      rw [← link]
      simp
    have valid := sending.clean.link frame sent
    simp only [isValidData, isData, Bool.and_eq_true, beq_iff_eq] at valid
    have portOpen : s.connection.receiver.rx.isPortOpen frame.getPort = true := met.1 frame isNext
    have active : s.connection.receiver.rx.active = true := by
      simp only [isPortOpen, Bool.and_eq_true] at portOpen
      exact portOpen.2
    have accepted : s.connection.receiver.rx.accepts frame = true := by
      simp [accepts, active, valid, portOpen]
    exact ⟨sending.receiver inOrder, .inr ⟨.receive frame, ⟨⟨rest, by simpa using link⟩, accepted,
      met.2 frame isNext⟩, steps⟩⟩
  | openPort port =>
    obtain ⟨connection, connects, rfl⟩ := Transfer.of_onConnection rfl stepped
    have inOrder := Connection.inOrder_of_step sending.inOrder connects
    obtain ⟨receiver, steps, rfl⟩ := Connection.of_openPort connects
    exact ⟨sending.receiver inOrder, .inr ⟨.openPort port, trivial, steps⟩⟩
  | closePort port =>
    obtain ⟨connection, connects, rfl⟩ := Transfer.of_onConnection rfl stepped
    have inOrder := Connection.inOrder_of_step sending.inOrder connects
    obtain ⟨receiver, steps, rfl⟩ := Connection.of_closePort connects
    exact ⟨sending.receiver inOrder, .inr ⟨.closePort port, trivial, steps⟩⟩
  | consume =>
    obtain ⟨connection, connects, rfl⟩ := Transfer.of_onConnection rfl stepped
    have inOrder := Connection.inOrder_of_step sending.inOrder connects
    obtain ⟨receiver, steps, rfl⟩ := Connection.of_consume connects
    exact ⟨sending.receiver inOrder, .inr ⟨.consume, trivial, steps⟩⟩

/-- A run of the transfer is one of its receiver, to which the frames arrive in the order of the link. -/
theorem Sending.run {s t : Transfer} {events : List TransferEvent} (sending : Sending s)
    (run : Run Transfer.step (fun s event => Used s event ∧ Undamaged s event) s events t) : Sending t ∧
      s.connection.sender.link <+: t.connection.sender.link ∧
      ∃ own, Run RxSystem.step (InSequence t.connection.sender.link) s.connection.receiver own
        t.connection.receiver := by
  induction run with
  | nil s => exact ⟨sending, List.prefix_rfl, [], .nil _⟩
  | @cons s mid t event events met stepped _ ih =>
    obtain ⟨further, receives⟩ := sending.step met stepped
    obtain ⟨last, grown, others, rest⟩ := ih further
    refine ⟨last, (Transfer.link_prefix_of_step stepped).trans grown, ?_⟩
    rcases receives with same | ⟨own, inSequence, steps⟩
    · rw [← same]
      exact ⟨others, rest⟩
    · exact ⟨own :: others, .cons (inSequence.mono grown) steps rest⟩

/-! ## The messages that the sender has in hand -/

/-- A call that would close the payload under way. -/
theorem Booked.exists_closing {s : Transfer} {port : UInt8} {handed : List (List EnqueueCall)}
    {made : List EnqueueCall} (booked : Booked s port handed made) :
    ∃ (underWay : List (List EnqueueCall)) (closing : Option EnqueueCall), underWay.flatten = made ++ closing.toList ∧
      (∀ group ∈ underWay, Indexed 0 group) ∧
      (∀ call ∈ closing, call.packet.getPort = port ∧ call.moreFragments = false) ∧
      (underWay = [] ∨ (∃ group, underWay = [group]) ∧
        ((s.connection.sender.pending port).isSome = true ∨ closing.isSome = true)) := by
  rcases Classical.em (made = []) with rfl | begun
  · exact ⟨[], none, rfl, nofun, nofun, .inl rfl⟩
  · cases underWay : s.calls port with
    | none => exact absurd (booked.idle underWay).1 begun
    | some call =>
      obtain ⟨m, remaining⟩ := call
      obtain ⟨-, -, ⟨fresh, split⟩, last⟩ := booked.underWay _ underWay
      have indexed := indexed_calls m fresh
      cases remaining with
      | nil =>
        have whole : made = m.calls fresh := by simpa using split
        exact ⟨[made], none, by simp, by simpa [whole] using indexed, nofun, .inr ⟨⟨_, rfl⟩, .inl (last rfl)⟩⟩
      | cons next rest =>
        rw [← show made ++ next :: rest = m.calls fresh from split] at indexed
        refine ⟨[made ++ [{ next with moreFragments := false }]], some { next with moreFragments := false }, by simp,
          ?_, ?_, .inr ⟨⟨_, rfl⟩, .inr rfl⟩⟩
        · simpa using indexed_closed indexed
        · have own : next.packet.getPort = port := booked.getPort underWay
          rintro _ ⟨⟩
          exact ⟨own, rfl⟩

/-- The global sequence number is none of what a call carries. -/
theorem carries_plain_iff {call : EnqueueCall} {packet : S3tpPacket} : Carries call (plain packet) ↔
    Carries call packet := by
  have index : (plain packet).header.getSubSequence = packet.header.getSubSequence :=
    packet.setGlobalSequence_getSubSequence 0
  constructor
  · exact fun carries => ⟨carries.pdu, carries.pduLength, carries.port, index.symm.trans carries.subSequence,
      carries.moreFragments⟩
  · exact fun carries => ⟨carries.pdu, carries.pduLength, carries.port, index.trans carries.subSequence,
      carries.moreFragments⟩

theorem forall₂_carries_map_plain_iff {calls : List EnqueueCall} {packets : List S3tpPacket} :
    List.Forall₂ Carries calls (packets.map plain) ↔ List.Forall₂ Carries calls packets := by
  rw [List.forall₂_map_right_iff]
  simp only [carries_plain_iff]

/-- Some packet carries the call, if there is one, with a given number. -/
theorem exists_carries_closing {p : UInt8} {closing : Option EnqueueCall}
    (closes : ∀ call ∈ closing, call.packet.getPort = p ∧ call.moreFragments = false) (n : ℕ) :
    ∃ ending, List.Forall₂ Carries closing.toList ending ∧ Consecutive n ending ∧
      ∀ packet ∈ ending, isDataFor p packet = true ∧ packet.header.moreFragments = 0 := by
  cases closing with
  | none => exact ⟨[], .nil, .nil, nofun⟩
  | some call =>
    obtain ⟨own, final⟩ := closes call rfl
    obtain ⟨packet, carries, number, data⟩ := exists_carries call n
    refine ⟨[packet], .cons carries .nil, Consecutive.singleton_iff.mpr number, ?_⟩
    rintro other member
    obtain rfl := List.mem_singleton.mp member
    exact ⟨own ▸ data, by rw [carries.moreFragments, final]; rfl⟩

/-- On a link with valid frames only, the data frames sent for a port are those that arrive for it. -/
theorem Clean.sentOn {ι : Type*} {s : TxSystem ι} (clean : Clean s) (p : UInt8) :
    s.link.filter (isDataFor p) = s.sentOn p := by
  apply List.filter_congr
  intro frame member
  have valid := clean.link frame member
  simp only [isValidData, isData, Bool.and_eq_true, beq_iff_eq] at valid
  simp [isDataFor, isDataOn, valid.1, valid.2]

theorem isDataFor_of_valid {p : UInt8} {packet : S3tpPacket} (valid : isValidData packet = true)
    (data : isDataOn p packet = true) : isDataFor p packet = true := by
  simp only [isValidData, Bool.and_eq_true] at valid
  simp only [isDataOn, Bool.and_eq_true] at data
  simp [isDataFor, valid.2, data.1, data.2]

/-- The calls handed over for the payloads accepted, and the packets that carry them. -/
theorem conveys_of_payloads {payloads : List Submission} {handed : List (List EnqueueCall)}
    (payload : List.Forall₂ (fun m calls => ∃ fresh, calls = m.calls fresh) payloads handed) :
    ∀ {accepted : List (List S3tpPacket)}, List.Forall₂ (List.Forall₂ Carries) handed accepted →
      List.Forall₂ Conveys payloads accepted := by
  induction payload with
  | nil =>
    rintro _ ⟨⟩
    exact .nil
  | cons first _ ih =>
    rintro _ ⟨⟩
    next carried later =>
    obtain ⟨fresh, rfl⟩ := first
    exact .cons ⟨fresh, carried⟩ (ih later)

theorem indexed_of_payloads {payloads : List Submission} {handed : List (List EnqueueCall)}
    (payload : List.Forall₂ (fun m calls => ∃ fresh, calls = m.calls fresh) payloads handed) :
    ∀ group ∈ handed, Indexed 0 group := by
  induction payload with
  | nil => nofun
  | cons first _ ih =>
    obtain ⟨fresh, rfl⟩ := first
    exact List.forall_mem_cons.mpr ⟨indexed_calls _ fresh, ih⟩

/-! ## The packets stamped for a port -/

/-- The packets sent for the port, those queued and the one with the caller. -/
def streamOn (s : TxSystem UInt8) (p : UInt8) : List S3tpPacket :=
  s.sentOn p ++ (s.tx.outBuffer.held p ++ (s.pending p).toList)

namespace Sending

variable {s : Transfer}

theorem numbered (sending : Sending s) (p : UInt8) : Consecutive 0 (streamOn s.connection.sender p) := by
  obtain ⟨sent, waiting⟩ := sending.transmit.stream_consecutive p
  rw [streamOn, Consecutive.append_iff, Nat.zero_add]
  exact ⟨sent, waiting⟩

theorem carried (sending : Sending s) {p : UInt8} {handed : List (List EnqueueCall)} {made : List EnqueueCall}
    (booked : Booked s p handed made) :
    List.Forall₂ Carries (handed.flatten ++ made) (streamOn s.connection.sender p) := by
  rw [← forall₂_carries_map_plain_iff, streamOn, ← sending.transmit.stream, forall₂_carries_map_plain_iff]
  exact booked.stamped

theorem data (sending : Sending s) (p : UInt8) :
    ∀ packet ∈ streamOn s.connection.sender p, isDataFor p packet = true := by
  intro packet member
  simp only [streamOn, List.mem_append, Option.mem_toList] at member
  rcases member with member | member | member
  · rw [← sending.clean.sentOn] at member
    exact (List.mem_filter.mp member).2
  · exact isDataFor_of_valid (sending.clean.held p packet member) (sending.transmit.data p packet member)
  · exact isDataFor_of_valid (sending.clean.pending p packet member) (sending.transmit.caller p packet member)

theorem straightOn (sending : Sending s) (p : UInt8) : ∀ packet ∈ streamOn s.connection.sender p,
    packet.header.moreFragments ≠ 0 → packet.header.seqPort ≠ 255 := by
  intro packet member flagged
  have alike := List.mem_map_of_mem (f := plain) member
  rw [streamOn, ← sending.transmit.stream] at alike
  obtain ⟨stamped, enqueued, same⟩ := List.mem_map.mp alike
  have below := sending.below stamped (List.mem_filter.mp enqueued).1
  have number : (plain stamped).header.seqPort = (plain packet).header.seqPort := by rw [same]
  have flags : (plain stamped).header.moreFragments = (plain packet).header.moreFragments := by rw [same]
  exact number ▸ below (flags ▸ flagged)

end Sending

/-- The packets stamped for the port are the messages of the payloads accepted and the beginning of that of
the call under way. Those not sent yet are at the end. -/
structure Underway (s : Transfer) (p : UInt8) (accepted underWay : List (List S3tpPacket)) : Prop where
  conveys : List.Forall₂ Conveys (s.acceptedOn p) accepted
  later : LaterMessages p 0 (accepted ++ underWay) []
  straight : Straight 0 (accepted ++ underWay)
  sent : s.connection.sender.link.filter (isDataFor p) <+: (accepted ++ underWay).flatten
  unsent : underWay = [] ∨ ∃ message, underWay = [message] ∧
    (s.connection.sender.link.filter (isDataFor p)).length < (accepted ++ underWay).flatten.length
  all : s.connection.sender.tx.outBuffer.held p = [] →
    accepted.flatten <+: s.connection.sender.link.filter (isDataFor p)

theorem Sending.exists_underway {s : Transfer} (sending : Sending s) (p : UInt8) :
    ∃ accepted underWay, Underway s p accepted underWay := by
  obtain ⟨handed, made, booked⟩ := sending.booked p
  obtain ⟨groups, closing, flat, indexed, closes, unsent⟩ := booked.exists_closing
  obtain ⟨ending, carriesEnding, numbersEnding, endingData⟩ :=
    exists_carries_closing closes (streamOn s.connection.sender p).length
  have joined : (handed ++ groups).flatten = handed.flatten ++ made ++ closing.toList := by
    rw [List.flatten_append, flat, List.append_assoc]
  have stream : List.Forall₂ Carries (handed ++ groups).flatten (streamOn s.connection.sender p ++ ending) := by
    rw [joined]
    exact List.rel_append (sending.carried booked) carriesEnding
  obtain ⟨rows, whole, grouped⟩ := exists_flatten_of_forall₂ stream
  obtain ⟨accepted, underWay, rfl, first, second⟩ : ∃ accepted underWay, rows = accepted ++ underWay ∧
      List.Forall₂ (List.Forall₂ Carries) handed accepted ∧
      List.Forall₂ (List.Forall₂ Carries) groups underWay := by
    refine ⟨rows.take handed.length, rows.drop handed.length, (List.take_append_drop ..).symm, ?_, ?_⟩
    · exact (List.forall₂_take_append rows handed groups grouped.flip).flip
    · exact (List.forall₂_drop_append rows handed groups grouped.flip).flip
  have messages : MessageStream 0 (accepted ++ underWay) := by
    refine stream_of_carries grouped ?_ ?_
    · exact List.forall_mem_append.mpr ⟨indexed_of_payloads booked.payloads, indexed⟩
    · rw [whole, Consecutive.append_iff, Nat.zero_add]
      exact ⟨sending.numbered p, numbersEnding⟩
  have sent := sending.clean.sentOn p
  have part : s.connection.sender.sentOn p <+: (accepted ++ underWay).flatten := by
    rw [whole, streamOn, List.append_assoc]
    exact List.prefix_append _ _
  refine ⟨accepted, underWay, conveys_of_payloads booked.payloads first, ⟨messages, ?_, List.nil_prefix⟩, ?_, ?_, ?_,
    ?_⟩
  · rw [whole]
    exact List.forall_mem_append.mpr ⟨sending.data p, fun packet member => (endingData packet member).1⟩
  · refine straight_of_stream messages ?_
    rw [whole]
    exact List.forall_mem_append.mpr ⟨sending.straightOn p, fun packet member flagged =>
      absurd (endingData packet member).2 flagged⟩
  · rw [sent]
    exact part
  · rcases unsent with rfl | ⟨⟨group, rfl⟩, left⟩
    · exact .inl (List.forall₂_nil_left_iff.mp second)
    · obtain ⟨message, rfl⟩ : ∃ message, underWay = [message] :=
        List.length_eq_one_iff.mp second.length_eq.symm
      refine .inr ⟨message, rfl, ?_⟩
      rw [sent, whole, streamOn]
      have same := carriesEnding.length_eq
      rcases left with pending | closing
      · obtain ⟨packet, pending⟩ := Option.isSome_iff_exists.mp pending
        simp only [pending, List.length_append, Option.toList_some, List.length_singleton]
        omega
      · obtain ⟨call, rfl⟩ := Option.isSome_iff_exists.mp closing
        simp only [List.length_append, ← same, Option.toList_some, List.length_singleton]
        omega
  · intro empty
    have both := (sending.carried booked).length_eq
    have own := (List.rel_flatten first).length_eq
    rw [sent]
    refine List.prefix_of_prefix_length_le (List.flatten_append ▸ List.prefix_append _ _) part ?_
    rw [← own]
    cases pending : s.connection.sender.pending p with
    | none =>
      simp only [streamOn, empty, pending, List.length_append, Option.toList_none, List.length_nil] at both
      omega
    | some packet =>
      have some := List.length_pos_iff.mpr (booked.begun (by simp [pending]))
      simp only [streamOn, empty, pending, List.length_append, Option.toList_some, List.length_singleton,
        List.length_nil] at both
      omega

end S3tp.Soundness
