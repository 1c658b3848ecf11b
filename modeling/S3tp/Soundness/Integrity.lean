import S3tp.Model.Concurrent.LossyLink
import S3tp.Soundness.Consumption
import S3tp.Soundness.Corruption
import S3tp.Soundness.FrameBounds
import S3tp.Soundness.OneByte
import S3tp.Soundness.Provenance
import S3tp.Soundness.Reordering

/-! # What a link that is not to be trusted can do

Frames may be lost, duplicated, reordered, and damaged in ways the checksum tells. While a port has been given fewer
packets than there are sequence numbers, no message that is returned mixes packets of two messages. Without sync
frames the messages returned on a port are the first of those stamped for it, each once and in order.

A number names one packet of the port, and a message is taken packet by packet in the order of their numbers, down to
one that says that no more follow.
-/

namespace S3tp.Soundness.Integrity

open Model.Core Model.Core.RxModule Model.Concurrent Machine LossyLink

/-! ## What arrives -/

/-- The payload of a frame that was sent, as it was or altered in a way the checksum tells. -/
def Tolerated (sent : S3tpPacket) (payload : List UInt8) : Prop :=
  payload = sent.pdu ∨ (payload.length = sent.pdu.length ∧ Detectable (flips sent.pdu payload))

section Arrival

variable {sent : S3tpPacket} {payload : List UInt8} (channel : UInt8)

theorem ofFrame_arriving (sent : S3tpPacket) (payload : List UInt8) (channel : UInt8) :
    S3tpPacket.ofFrame (arriving sent payload) channel = { header := sent.header, payload, channel } := by
  have rest : (arriving sent payload).drop S3tpHeader.size = payload := by
    rw [arriving, ← sent.header.length_toBytes, List.drop_left]
  rw [S3tpPacket.ofFrame, rest, arriving, S3tpHeader.ofBytes_toBytes_append]

/-- The checksum tells that the payload was altered. -/
theorem crcValid_of_detectable (isSealed : Sealed sent) (length : payload.length = sent.pdu.length)
    (detectable : Detectable (flips sent.pdu payload)) :
    (S3tpPacket.ofFrame (arriving sent payload) channel).crcValid = false := by
  have size : sent.pdu.length = sent.header.getPduLength.toNat := by rw [isSealed.pdu_eq, isSealed.sized]
  have stored : sent.header.crc = calcChecksum sent.pdu := by
    simpa [S3tpPacket.crcValid, verifyChecksum] using isSealed.valid
  have whole : (S3tpPacket.ofFrame (arriving sent payload) channel).pdu = payload := by
    rw [ofFrame_arriving, S3tpPacket.pdu, ← size, ← length, List.take_length]
  have header : (S3tpPacket.ofFrame (arriving sent payload) channel).header = sent.header := by rw [ofFrame_arriving]
  rw [S3tpPacket.crcValid, verifyChecksum, whole, header, stored, beq_eq_false_iff_ne]
  exact calcChecksum_ne length.symm (size.le.trans isSealed.short) detectable

/-- What arrives holds what is looked at. -/
theorem holds_arriving (isSealed : Sealed sent) (tolerated : Tolerated sent payload) :
    FrameBounds.Holds channel (arriving sent payload) := by
  have size : sent.pdu.length = sent.header.getPduLength.toNat := by rw [isSealed.pdu_eq, isSealed.sized]
  have length : payload.length = sent.header.getPduLength.toNat := by
    rcases tolerated with rfl | ⟨same, -⟩
    · exact size
    · exact same.trans size
  have frame : S3tpHeader.size ≤ (arriving sent payload).length := by
    rw [arriving, List.length_append, S3tpHeader.length_toBytes]
    exact Nat.le_add_right _ _
  refine ⟨(by decide : 6 ≤ S3tpHeader.size).trans frame, ?_, fun valid isSync => ?_, fun _ _ => frame⟩
  · rw [ofFrame_arriving]
    exact length.ge
  · rw [ofFrame_arriving] at isSync ⊢
    exact isSealed.sync isSync

/-- What arrives is handled as its bytes say. -/
theorem handled_of_tolerated {rx : RxModule} (active : rx.active = true) (isSealed : Sealed sent)
    (tolerated : Tolerated sent payload) (behind : ℕ → UInt8) :
    (PacketReads.handleFrame rx channel (arriving sent payload)).run (copied (arriving sent payload) behind) =
      rx.handleReceivedPacket { header := sent.header, payload, channel } := by
  have holds := holds_arriving channel isSealed tolerated
  have handled := FrameBounds.handled_eq rx channel (arriving sent payload) behind active (holds.within behind active)
  rw [FrameBounds.handled, ofFrame_arriving] at handled
  exact handled

/-- What arrives leaves the receiver as it was, or is handled as the frame that was sent. -/
theorem handled_arriving {rx : RxModule} (active : rx.active = true) (isSealed : Sealed sent)
    (tolerated : Tolerated sent payload) (behind : ℕ → UInt8) :
    ((PacketReads.handleFrame rx channel (arriving sent payload)).run (copied (arriving sent payload) behind)).2.2 =
      rx ∨
    ((PacketReads.handleFrame rx channel (arriving sent payload)).run (copied (arriving sent payload) behind)).2.2 =
      (rx.handleReceivedPacket { header := sent.header, payload := sent.pdu, channel }).2.2 := by
  rw [handled_of_tolerated channel active isSealed tolerated behind]
  rcases tolerated with rfl | ⟨length, detectable⟩
  · exact .inr rfl
  · left
    have invalid := crcValid_of_detectable channel isSealed length detectable
    rw [ofFrame_arriving] at invalid
    apply handleReceivedPacket_of_refused
    · simp [accepts, invalid]
    · simp [synchronizes, invalid]

end Arrival

/-! ## Packets told by their numbers -/

/-- What assembly looks at. -/
def content (packet : S3tpPacket) : UInt8 × UInt8 × UInt16 × List UInt8 :=
  (packet.header.seqPort, packet.header.moreFragments, packet.header.getPduLength, packet.pdu)

theorem content_plain (packet : S3tpPacket) : content (plain packet) = content packet := rfl

/-- Packets with the same contents make the same message. -/
theorem deliveryOf_congr {row segment : List S3tpPacket} (same : row.map content = segment.map content) (port : UInt8) :
    deliveryOf port row = deliveryOf port segment := by
  have data (packets : List S3tpPacket) :
      assembled packets = (packets.map content).flatMap (·.2.2.2) := by
    rw [assembled, List.flatMap_map]
    rfl
  have len (packets : List S3tpPacket) :
      lengthSum packets = ((packets.map content).map (·.2.2.1)).sum := by
    rw [lengthSum, List.map_map]
    rfl
  rw [deliveryOf, deliveryOf, data row, data segment, len row, len segment, same]

/-- They end a message alike. -/
theorem isPiece_congr {row segment : List S3tpPacket} (same : row.map content = segment.map content)
    (isPiece : row.IsPiece isLast) : segment.IsPiece isLast := by
  obtain ⟨front, last, rfl, unfinished, finished⟩ := isPiece.split
  obtain ⟨front', last', rfl, fronts, lasts⟩ : ∃ front' last', segment = front' ++ [last'] ∧
      front.map content = front'.map content ∧ content last = content last' := by
    rw [List.map_append, List.map_singleton, eq_comm, List.map_eq_append_iff] at same
    obtain ⟨front', back, rfl, fronts, backs⟩ := same
    obtain ⟨last', rfl, lasts⟩ := List.map_eq_singleton_iff.mp backs
    exact ⟨front', last', rfl, fronts.symm, lasts.symm⟩
  have flag (packet : S3tpPacket) : isLast packet = ((content packet).2.1 == 0) := rfl
  refine List.isPiece_concat _ (fun packet member => ?_) ?_
  · have among : content packet ∈ front.map content := fronts ▸ List.mem_map_of_mem member
    obtain ⟨other, earlier, alike⟩ := List.mem_map.mp among
    rw [flag, ← alike, ← flag]
    exact unfinished other earlier
  · rw [flag, ← lasts, ← flag]
    exact finished

/-- Packets that carry consecutive numbers from `n` on, and each occur among fewer than 256 numbered ones, are those
from place `n` on. -/
theorem prefix_drop_of_consecutive {stamped : List S3tpPacket} (numbered : Consecutive 0 stamped)
    (few : stamped.length < 256) {row : List S3tpPacket} {n : ℕ} (start : n < 256) (consecutive : Consecutive n row)
    (copies : ∀ packet ∈ row, content packet ∈ stamped.map content) :
    row.map content <+: (stamped.drop n).map content := by
  induction row generalizing n with
  | nil => exact List.nil_prefix
  | cons packet row ih =>
    obtain ⟨number, later⟩ := Consecutive.cons_iff.mp consecutive
    obtain ⟨own, others⟩ := List.forall_mem_cons.mp copies
    obtain ⟨original, member, alike⟩ := List.mem_map.mp own
    obtain ⟨i, bound, rfl⟩ := List.getElem_of_mem member
    have place : i = n := by
      have same : stamped[i].header.seqPort = packet.header.seqPort := congrArg Prod.fst alike
      rw [numbered.getElem bound, number, Nat.zero_add] at same
      have bytes := congrArg UInt8.toNat same
      rwa [UInt8.toNat_ofNat_of_lt_256 (by omega), UInt8.toNat_ofNat_of_lt_256 start] at bytes
    subst place
    rw [List.drop_eq_getElem_cons bound, List.map_cons, List.map_cons, alike, List.prefix_cons_inj]
    exact ih (by omega) later others

/-! ## What is returned -/

/-- The packets of a message that is returned, taken from the queue of the port in the order of their numbers. -/
structure Taken (rx : RxModule) (port : UInt8) (row : List S3tpPacket) : Prop where
  isPiece : row.IsPiece isLast
  consecutive : Consecutive (rx.currentPortSequence port).toNat row
  held : row ⊆ rx.inBuffer.held port

theorem taken_of_assemble {rx rx' : RxModule} {port : UInt8} {data : List UInt8} {len : UInt16} {delivery : Delivery}
    (assembles : rx.assemble port data len = some (delivery, rx')) (success : delivery.error = codeSuccess) :
    ∃ row, Taken rx port row ∧
      delivery = ⟨some (data ++ assembled row), len + lengthSum row, codeSuccess, port⟩ ∧
      rx'.currentPortSequence port = rx.currentPortSequence port + UInt8.ofNat row.length := by
  fun_induction assemble rx port data len with
  | case1 => contradiction
  | case2 rx data len packet inBuffer popped unexpected =>
    obtain ⟨rfl, -⟩ := Prod.mk.inj (Option.some.inj assembles)
    have failed : codeErrorInconsistentState ≠ codeSuccess := by decide
    exact absurd success failed
  | case3 rx data len packet inBuffer popped expected after data' len' final =>
    obtain ⟨rfl, rfl⟩ := Prod.mk.inj (Option.some.inj assembles)
    have head := (Buffer.held_of_popPacketInternal popped).1
    have last : isLast packet = true := beq_iff_eq.mpr final
    refine ⟨[packet], ⟨List.isPiece_concat [] (by simp) last, ?_, by simp [head]⟩, ?_, ?_⟩
    · rw [Consecutive.singleton_iff, UInt8.ofNat_toNat]
      exact not_not.mp expected
    · simp [assembled, lengthSum, data', len']
    · exact Function.update_self ..
  | case4 rx data len packet inBuffer popped expected after data' len' flagged ih =>
    obtain ⟨row, ⟨isPiece, consecutive, held⟩, rfl, moved⟩ := ih assembles
    have head := (Buffer.held_of_popPacketInternal popped).1
    have number : packet.header.seqPort = rx.currentPortSequence port := not_not.mp expected
    have next : after.currentPortSequence port = rx.currentPortSequence port + 1 := Function.update_self ..
    obtain ⟨front, last, rfl, unfinished, finished⟩ := isPiece.split
    refine ⟨packet :: (front ++ [last]), ⟨?_, ?_, ?_⟩, ?_, ?_⟩
    · exact List.isPiece_concat (packet :: front)
        (List.forall_mem_cons.mpr ⟨beq_eq_false_iff_ne.mpr flagged, unfinished⟩) finished
    · rw [Consecutive.cons_iff, UInt8.ofNat_toNat]
      refine ⟨number, (Consecutive.ofNat_congr ?_).mp consecutive⟩
      rw [next, UInt8.ofNat_toNat, UInt8.ofNat_succ, UInt8.ofNat_toNat]
    · rw [head]
      exact List.cons_subset_cons packet held
    · simp [assembled, lengthSum, data', len', UInt16.add_assoc]
    · rw [moved, next, List.length_cons, UInt8.ofNat_succ, UInt8.add_assoc, UInt8.add_comm 1]

/-- A call returns a message of the port, or it leaves what is expected there alone, or it never releases the mutex. -/
theorem consume_cases {rx rx' : RxModule} {delivery : Delivery}
    (consumes : rx.getNextCompleteMessage = some (delivery, rx')) (port : UInt8) :
    (∃ row, Taken rx port row ∧ delivery = deliveryOf port row ∧
      rx'.currentPortSequence port = rx.currentPortSequence port + UInt8.ofNat row.length) ∨
    (¬ (delivery.error = codeSuccess ∧ delivery.port = port) ∧
      (rx'.currentPortSequence port = rx.currentPortSequence port ∨ rx'.rxMutexHeld = true)) := by
  rcases Classical.em (rx.availableMessages.begin? = some port) with turn | turn
  · rcases getNextCompleteMessage_cases consumes with ⟨rfl, failed, -⟩ | ⟨first, mid, -, found, assembles, rfl⟩
    · exact .inr ⟨fun both => failed both.1, .inl rfl⟩
    obtain rfl := Option.some.inj (found.symm.trans turn)
    rcases assemble_fails assembles with ⟨success, -⟩ | ⟨failed, -, locked⟩
    · obtain ⟨row, taken, rfl, moved⟩ := taken_of_assemble assembles success
      refine .inl ⟨row, taken, by simp [deliveryOf], ?_⟩
      rw [if_pos success, refreshAvailability_frame]
      exact moved
    · exact .inr ⟨fun both => failed both.1, .inr (by rw [if_neg failed]; exact locked)⟩
  · obtain ⟨untouched, other⟩ := untouched_of_getNextCompleteMessage turn consumes
    exact .inr ⟨fun both => other both.1 both.2, .inl untouched.expected⟩

theorem handleReceivedPacket_active (rx : RxModule) (packet : S3tpPacket) :
    (rx.handleReceivedPacket packet).2.2.active = rx.active := by
  cases accepted : rx.accepts packet with
  | true => simp [handleReceivedPacket_of_accepts accepted]
  | false =>
    obtain ⟨current, last, unchanged⟩ := handleReceivedPacket_of_not_accepts accepted
    rw [unchanged]

/-- Only a sync frame touches the expected numbers. -/
theorem handleReceivedPacket_currentPortSequence {rx : RxModule} {packet : S3tpPacket}
    (notSync : packet.header.getMessageType ≠ msgSync) :
    (rx.handleReceivedPacket packet).2.2.currentPortSequence = rx.currentPortSequence := by
  cases accepted : rx.accepts packet with
  | true => simp [handleReceivedPacket_of_accepts accepted]
  | false => rw [handleReceivedPacket_of_refused accepted (by simp [synchronizes, notSync])]

theorem handleReceivedPacket_rxMutexHeld (rx : RxModule) (packet : S3tpPacket) :
    (rx.handleReceivedPacket packet).2.2.rxMutexHeld = rx.rxMutexHeld := by
  cases accepted : rx.accepts packet with
  | true => simp [handleReceivedPacket_of_accepts accepted]
  | false =>
    obtain ⟨current, last, unchanged⟩ := handleReceivedPacket_of_not_accepts accepted
    rw [unchanged]

/-! ## Runs -/

section Runs

variable {ι : Type*} {s t : LossyLink ι} {port : UInt8} {event : LossyEvent ι}

/-- The queue of the port holds packets that were stamped for it. -/
structure Received (s : LossyLink ι) (port : UInt8) : Prop where
  provenance : Provenance s.sender
  active : s.rx.active = true
  copies : ∀ packet ∈ s.rx.inBuffer.held port, content packet ∈ (s.sender.enqueuedOn port).map content

theorem Received.started (fresh : S3tpHeader) (port : UInt8) :
    Received (LossyLink.started fresh : LossyLink ι) port where
  provenance := .started fresh
  active := rfl
  copies packet member := by
    simp [LossyLink.started, RxSystem.started, RxModule.reset, RxModule.startModule, Buffer.clear] at member

/-- A frame that was sent brings a packet that was stamped, if any. -/
theorem Received.arrive (received : Received s port) {sent : S3tpPacket} (member : sent ∈ s.sender.link)
    (channel : UInt8) {packet : S3tpPacket} (held : packet ∈ (s.rx.handleReceivedPacket
      { header := sent.header, payload := sent.pdu, channel }).2.2.inBuffer.held port) :
    content packet ∈ (s.sender.enqueuedOn port).map content := by
  set arrived : S3tpPacket := { header := sent.header, payload := sent.pdu, channel } with arrivedDef
  cases accepted : s.rx.accepts arrived with
  | false =>
    obtain ⟨current, last, unchanged⟩ := handleReceivedPacket_of_not_accepts accepted
    rw [unchanged] at held
    exact received.copies packet held
  | true =>
    rw [handleReceivedPacket_of_accepts accepted, receiveData_held] at held
    split at held
    · contradiction
    rcases Buffer.mem_held_write held with ⟨own, rfl⟩ | before
    · have data : sent.header.getMessageType = msgData := by
        simp only [accepts, Bool.and_eq_true, beq_iff_eq] at accepted
        exact accepted.1.2
      obtain ⟨original, stamped, same⟩ := received.provenance.exists_stamped member data
      have whole : arrived.pdu = sent.pdu := by
        have isSealed := (received.provenance.link sent member).1
        rw [arrivedDef, S3tpPacket.pdu, isSealed.pdu_eq, ← isSealed.sized, List.take_length]
      have alike : content original = content arrived := by
        rw [← content_plain, same, content_plain, content, content, whole]
      have samePort : port = sent.getPort := own
      rw [samePort]
      exact alike ▸ List.mem_map_of_mem stamped
    · exact received.copies packet before

/-- What is returned was stamped as packets that carry the numbers from the expected one on. -/
theorem Received.exists_segment (received : Received s port) (few : (s.sender.enqueuedOn port).length < 256)
    {row : List S3tpPacket} (taken : Taken s.rx port row) : ∃ segment,
      segment <+: (s.sender.enqueuedOn port).drop (s.rx.currentPortSequence port).toNat ∧
      segment.IsPiece isLast ∧ deliveryOf port row = deliveryOf port segment ∧ row.length = segment.length := by
  have prefixed := prefix_drop_of_consecutive (received.provenance.numbered port) few (UInt8.toNat_lt _)
    taken.consecutive fun packet member => received.copies packet (taken.held member)
  obtain ⟨segment, among, same⟩ := List.prefix_map_iff.mp prefixed
  refine ⟨segment, among, isPiece_congr same taken.isPiece, deliveryOf_congr same port, ?_⟩
  rw [← List.length_map content, same, List.length_map]

/-- What is returned grows by the delivery if it is one of the port. -/
theorem returnedOn_append (s : LossyLink ι) (rx : RxModule) (delivery : Delivery) (port : UInt8) :
    LossyLink.returnedOn { s with rx, delivered := s.delivered ++ [delivery] } port = s.returnedOn port ++
      if delivery.error = codeSuccess ∧ delivery.port = port then [delivery] else [] := by
  simp only [LossyLink.returnedOn, List.filter_append, List.filter_singleton, Bool.cond_decide]

/-- A message that is returned is the end of one that was stamped. -/
def IsEndOf (message : List S3tpPacket) (port : UInt8) (delivery : Delivery) : Prop :=
  ∃ part, part ≠ [] ∧ part <:+ message ∧ delivery = deliveryOf port part

/-- While a port was given fewer than 256 packets, what is returned on it comes from messages stamped for it. -/
def ReturnsEnds (s : LossyLink ι) (port : UInt8) : Prop :=
  (s.sender.enqueuedOn port).length < 256 →
    ∀ delivery ∈ s.returnedOn port, ∃ message ∈ s.messagesOn port, IsEndOf message port delivery

/-- While a port was given fewer than 256 packets, the messages returned on it are the first of those stamped for it. -/
def ReturnsFirst (s : LossyLink ι) (port : UInt8) : Prop :=
  (s.sender.enqueuedOn port).length < 256 → ∃ pieces : List (List S3tpPacket),
    (∀ piece ∈ pieces, piece.IsPiece isLast) ∧ pieces.flatten <+: s.sender.enqueuedOn port ∧
    s.returnedOn port = pieces.map (deliveryOf port) ∧
    (s.rx.rxMutexHeld = false → s.rx.currentPortSequence port = UInt8.ofNat pieces.flatten.length)

/-- Where nothing is returned and what is expected stays, so does the row of pieces. -/
theorem ReturnsFirst.congr (returns : ReturnsFirst s port)
    (grows : s.sender.enqueuedOn port <+: t.sender.enqueuedOn port) (returned : t.returnedOn port = s.returnedOn port)
    (expected : t.rx.rxMutexHeld = false →
      s.rx.rxMutexHeld = false ∧ t.rx.currentPortSequence port = s.rx.currentPortSequence port) :
    ReturnsFirst t port := by
  intro few
  obtain ⟨pieces, isPiece, first, same, current⟩ := returns (grows.length_le.trans_lt few)
  refine ⟨pieces, isPiece, first.trans grows, returned.trans same, fun released => ?_⟩
  rw [(expected released).2]
  exact current (expected released).1

theorem ReturnsFirst.isPrefix (returns : ReturnsFirst s port) (few : (s.sender.enqueuedOn port).length < 256) :
    s.returnedOn port <+: (s.messagesOn port).map (deliveryOf port) := by
  obtain ⟨pieces, isPiece, ⟨rest, whole⟩, same, -⟩ := returns few
  rw [same, messagesOn, ← whole, List.cutAfter_flatten_append isPiece, List.map_append]
  exact List.prefix_append _ _

/-- What is handed over is sized, and what arrives is as it was sent or altered in a way the checksum tells. -/
def Faithful (s : LossyLink ι) : LossyEvent ι → Prop
  | .sender event => HandsOver s.sender event
  | .arrive index payload _ _ => ∀ sent ∈ s.sender.link[index]?, Tolerated sent payload
  | _ => True

/-- No sync frame is scheduled either. -/
def FaithfulData (s : LossyLink ι) (event : LossyEvent ι) : Prop :=
  Faithful s event ∧ ∀ syncId, event ≠ .sender (.scheduleSync syncId)

variable [DecidableEq ι]

theorem enqueuedOn_prefix (stepped : s.step event = some t) (port : UInt8) :
    s.sender.enqueuedOn port <+: t.sender.enqueuedOn port := by
  cases event with
  | sender event =>
    obtain ⟨sender, steps, rfl⟩ := of_sender stepped
    exact TxSystem.enqueuedOn_prefix_of_step steps port
  | arrive index payload channel behind =>
    obtain ⟨-, sent, -, rfl⟩ := of_arrive stepped
    exact List.prefix_rfl
  | openPort opened =>
    obtain ⟨-, rfl⟩ := of_openPort stepped
    exact List.prefix_rfl
  | closePort closed =>
    obtain ⟨-, rfl⟩ := of_closePort stepped
    exact List.prefix_rfl
  | consume =>
    obtain ⟨-, delivery, rx, -, rfl⟩ := of_consume stepped
    exact List.prefix_rfl

theorem Received.step (received : Received s port) (faithful : Faithful s event) (stepped : s.step event = some t) :
    Received t port := by
  cases event with
  | sender event =>
    have grows := enqueuedOn_prefix stepped port
    obtain ⟨sender, steps, rfl⟩ := of_sender stepped
    exact ⟨received.provenance.step faithful steps, received.active, fun packet held =>
      ((grows.map content).subset (received.copies packet held))⟩
  | arrive index payload channel behind =>
    obtain ⟨-, sent, found, rfl⟩ := of_arrive stepped
    have member := List.mem_of_getElem? found
    have isSealed := (received.provenance.link sent member).1
    rcases handled_arriving channel received.active isSealed (faithful sent found) behind with same | handled
    · rw [same]
      exact received
    · rw [handled]
      exact ⟨received.provenance, (handleReceivedPacket_active _ _).trans received.active, fun packet held =>
        received.arrive member channel held⟩
  | openPort opened =>
    obtain ⟨-, rfl⟩ := of_openPort stepped
    rw [openPort_frame]
    exact ⟨received.provenance, received.active, received.copies⟩
  | closePort closed =>
    obtain ⟨-, rfl⟩ := of_closePort stepped
    rw [closePort_frame]
    exact ⟨received.provenance, received.active, received.copies⟩
  | consume =>
    obtain ⟨-, delivery, rx, consumes, rfl⟩ := of_consume stepped
    have drains := drains_of_getNextCompleteMessage consumes
    refine ⟨received.provenance, ?_, fun packet held => received.copies packet ((drains.suffix port).subset held)⟩
    rw [drains.frame]
    exact received.active

theorem ReturnsEnds.step (returns : ReturnsEnds s port) (received : Received s port) (stepped : s.step event = some t) :
    ReturnsEnds t port := by
  intro few
  have grows := enqueuedOn_prefix stepped port
  have before := returns (grows.length_le.trans_lt few)
  have messages : ∀ message ∈ s.messagesOn port, message ∈ t.messagesOn port := by
    obtain ⟨more, longer⟩ := grows
    rw [messagesOn, messagesOn, ← longer]
    exact fun message member => (List.cutAfter_prefix_append _ more).subset member
  have kept : ∀ delivery ∈ s.returnedOn port, ∃ message ∈ t.messagesOn port, IsEndOf message port delivery := by
    intro delivery member
    obtain ⟨message, stamped, isEnd⟩ := before delivery member
    exact ⟨message, messages message stamped, isEnd⟩
  cases event with
  | sender event =>
    obtain ⟨sender, -, rfl⟩ := of_sender stepped
    exact kept
  | arrive index payload channel behind =>
    obtain ⟨-, sent, -, rfl⟩ := of_arrive stepped
    exact kept
  | openPort opened =>
    obtain ⟨-, rfl⟩ := of_openPort stepped
    exact kept
  | closePort closed =>
    obtain ⟨-, rfl⟩ := of_closePort stepped
    exact kept
  | consume =>
    obtain ⟨-, delivery, rx, consumes, rfl⟩ := of_consume stepped
    intro other member
    rw [returnedOn_append, List.mem_append] at member
    rcases member with earlier | new
    · exact kept other earlier
    rcases consume_cases consumes port with ⟨row, taken, rfl, -⟩ | ⟨failed, -⟩
    · obtain rfl : other = deliveryOf port row := by simpa [deliveryOf] using new
      obtain ⟨segment, among, isPiece, same, -⟩ := received.exists_segment few taken
      obtain ⟨after, rest⟩ := among
      obtain ⟨message, stamped, isEnd⟩ := List.exists_piece_of_infix isPiece
        ((s.sender.enqueuedOn port).take (s.rx.currentPortSequence port).toNat) after
      rw [List.append_assoc, rest, List.take_append_drop] at stamped
      exact ⟨message, stamped, segment, isPiece.nonempty, isEnd, same⟩
    · rw [if_neg failed] at new
      contradiction

/-- A call returns the next message. -/
theorem ReturnsFirst.consume (returns : ReturnsFirst s port) (received : Received s port)
    (stepped : s.step .consume = some t) : ReturnsFirst t port := by
  obtain ⟨free, delivery, rx, consumes, rfl⟩ := of_consume stepped
  rcases consume_cases consumes port with ⟨row, taken, rfl, moved⟩ | ⟨failed, expected⟩
  · intro few
    obtain ⟨pieces, isPiece, first, same, current⟩ := returns few
    have start : (s.rx.currentPortSequence port).toNat = pieces.flatten.length := by
      rw [current free, UInt8.toNat_ofNat_of_lt_256 (first.length_le.trans_lt few)]
    obtain ⟨segment, among, own, alike, length⟩ := received.exists_segment few taken
    refine ⟨pieces ++ [segment], ?_, ?_, ?_, fun _ => ?_⟩
    · intro piece member
      rcases List.mem_append.mp member with before | new
      · exact isPiece piece before
      · exact List.mem_singleton.mp new ▸ own
    · obtain ⟨rest, whole⟩ := first
      rw [start, ← whole, List.drop_left] at among
      change _ <+: s.sender.enqueuedOn port
      rw [List.flatten_append, List.flatten_singleton, ← whole, List.prefix_append_right_inj]
      exact among
    · rw [returnedOn_append, if_pos ⟨rfl, rfl⟩, same, alike, List.map_append, List.map_singleton]
    · rw [moved, current free, length, ← UInt8.ofNat_add, List.flatten_append, List.flatten_singleton,
        List.length_append]
  · refine returns.congr List.prefix_rfl ?_ fun released => ⟨free, ?_⟩
    · rw [returnedOn_append, if_neg failed, List.append_nil]
    · rcases expected with same | locked
      · exact same
      · exact absurd (released.symm.trans locked) Bool.false_ne_true

theorem ReturnsFirst.step (returns : ReturnsFirst s port) (received : Received s port) (clean : Clean s.sender)
    (faithful : Faithful s event) (stepped : s.step event = some t) : ReturnsFirst t port := by
  have grows := enqueuedOn_prefix stepped port
  cases event with
  | sender event =>
    obtain ⟨sender, -, rfl⟩ := of_sender stepped
    exact returns.congr grows rfl fun released => ⟨released, rfl⟩
  | arrive index payload channel behind =>
    obtain ⟨-, sent, found, rfl⟩ := of_arrive stepped
    have member := List.mem_of_getElem? found
    have isSealed := (received.provenance.link sent member).1
    have data : sent.header.getMessageType ≠ msgSync := by
      have valid := clean.link sent member
      simp only [isValidData, isData, Bool.and_eq_true, beq_iff_eq] at valid
      rw [valid.1]
      decide
    refine returns.congr grows rfl fun released => ?_
    rcases handled_arriving channel received.active isSealed (faithful sent found) behind with same | handled
    · rw [same] at released ⊢
      exact ⟨released, rfl⟩
    · rw [handled] at released ⊢
      rw [handleReceivedPacket_rxMutexHeld] at released
      exact ⟨released, congrFun (@handleReceivedPacket_currentPortSequence s.rx
        { header := sent.header, payload := sent.pdu, channel } data) port⟩
  | openPort opened =>
    obtain ⟨-, rfl⟩ := of_openPort stepped
    rw [openPort_frame]
    exact returns.congr grows rfl fun released => ⟨released, rfl⟩
  | closePort closed =>
    obtain ⟨-, rfl⟩ := of_closePort stepped
    rw [closePort_frame]
    exact returns.congr grows rfl fun released => ⟨released, rfl⟩
  | consume => exact returns.consume received stepped

theorem returnsEnds_of_run {fresh : S3tpHeader} {events : List (LossyEvent ι)}
    (run : Run LossyLink.step Faithful (.started fresh) events s) (port : UInt8) : ReturnsEnds s port := by
  have both : Received s port ∧ ReturnsEnds s port := by
    refine run.invariant (P := fun u => Received u port ∧ ReturnsEnds u port) ?_
      ⟨.started fresh port, fun _ _ member => by cases member⟩
    rintro u event v ⟨received, returns⟩ faithful stepped
    exact ⟨received.step faithful stepped, returns.step received stepped⟩
  exact both.2

/-- No message that is returned mixes packets of two messages, whatever the link loses, repeats, reorders or damages
in a way the checksum tells. -/
theorem ends_of_returned (fresh : S3tpHeader) (events : List (LossyEvent ι)) (s : LossyLink ι) (port : UInt8)
    (run : Run LossyLink.step Faithful (.started fresh) events s) (few : (s.sender.enqueuedOn port).length < 256) :
    ∀ delivery ∈ s.returnedOn port, ∃ message ∈ s.messagesOn port, IsEndOf message port delivery :=
  returnsEnds_of_run run port few

theorem clean_step (clean : Clean s.sender) (quiet : ∀ syncId, event ≠ .sender (.scheduleSync syncId))
    (stepped : s.step event = some t) : Clean t.sender := by
  cases event with
  | sender event =>
    obtain ⟨sender, steps, rfl⟩ := of_sender stepped
    exact clean.step (fun syncId same => quiet syncId (congrArg LossyEvent.sender same)) steps
  | arrive index payload channel behind =>
    obtain ⟨-, sent, -, rfl⟩ := of_arrive stepped
    exact clean
  | openPort opened =>
    obtain ⟨-, rfl⟩ := of_openPort stepped
    exact clean
  | closePort closed =>
    obtain ⟨-, rfl⟩ := of_closePort stepped
    exact clean
  | consume =>
    obtain ⟨-, delivery, rx, -, rfl⟩ := of_consume stepped
    exact clean

theorem returnsFirst_of_run {fresh : S3tpHeader} {events : List (LossyEvent ι)}
    (run : Run LossyLink.step FaithfulData (.started fresh) events s) (port : UInt8) : ReturnsFirst s port := by
  have all : Received s port ∧ Clean s.sender ∧ ReturnsFirst s port := by
    refine run.invariant (P := fun u => Received u port ∧ Clean u.sender ∧ ReturnsFirst u port) ?_
      ⟨.started fresh port, Clean.started fresh, fun _ => ⟨[], by simp, List.nil_prefix, rfl, fun _ => rfl⟩⟩
    rintro u event v ⟨received, clean, returns⟩ ⟨faithful, quiet⟩ stepped
    exact ⟨received.step faithful stepped, clean_step clean quiet stepped,
      returns.step received clean faithful stepped⟩
  exact all.2.2

/-- Without sync frames the messages returned are the first of those stamped for the port, each once and in order. -/
theorem returned_prefix_of_lossy (fresh : S3tpHeader) (events : List (LossyEvent ι)) (s : LossyLink ι) (port : UInt8)
    (run : Run LossyLink.step FaithfulData (.started fresh) events s)
    (few : (s.sender.enqueuedOn port).length < 256) :
    s.returnedOn port <+: (s.messagesOn port).map (deliveryOf port) :=
  (returnsFirst_of_run run port).isPrefix few

end Runs

/-! ## One packet twice -/

theorem sized_oneByte (byte : UInt8) : SizedPacket (oneByte byte) := by
  rw [SizedPacket, oneByte_getPduLength]
  exact ⟨rfl, by decide⟩

theorem sealed_fragmentOf (globalSeq number index : UInt8) (more : Bool) :
    Sealed (fragmentOf globalSeq number index more) :=
  (sealed_stamped (sized_oneByte index) (atNumber number) index more).setGlobalSequence globalSeq

/-- The port is open at the receiver, and a packet is sent. -/
def sending : List (LossyEvent UInt8) :=
  [.openPort 5, .sender (.enqueue 5 (oneByte 0) 0 false), .sender (.write 5), .sender (.iterate ⟨true, false⟩)]

def onePacketSent : LossyLink UInt8 := (sending.foldlM LossyLink.step (started default)).getD (started default)

theorem run_onePacketSent : Run LossyLink.step FaithfulData (started default) sending onePacketSent :=
  .cons ⟨trivial, nofun⟩ rfl (.cons ⟨sized_oneByte 0, nofun⟩ rfl
    (.cons ⟨trivial, nofun⟩ rfl (.cons ⟨trivial, nofun⟩ rfl (.nil _))))

/-- The packet has arrived. -/
def onceMore (s : LossyLink UInt8) : LossyLink UInt8 := { s with rx := s.rx.receiveData (fragmentOf 0 0 0 false) }

/-- The packet arrives as it was sent. -/
theorem run_onceMore {s : LossyLink UInt8} (sent : s.sender.link = [fragmentOf 0 0 0 false])
    (free : s.rx.rxMutexHeld = false) (active : s.rx.active = true) (portOpen : s.rx.isPortOpen 5 = true) :
    Run LossyLink.step FaithfulData s [.arrive 0 [0] 0 fun _ => 0] (onceMore s) := by
  have intact : Tolerated (fragmentOf 0 0 0 false) [0] := .inl (by decide)
  have accepted := accepts_fragmentOf 0 0 0 false active portOpen
  have handled := handled_of_tolerated 0 active (sealed_fragmentOf 0 0 0 false) intact fun _ => 0
  have same : ({ header := (fragmentOf 0 0 0 false).header, payload := [0], channel := 0 } : S3tpPacket) =
      fragmentOf 0 0 0 false := by decide +kernel
  rw [same, handleReceivedPacket_of_accepts accepted] at handled
  have stepped : s.step (.arrive 0 [0] 0 fun _ => 0) = some (onceMore s) := by
    simp only [LossyLink.step, free, sent, Bool.false_eq_true, if_false, List.getElem?_cons_zero, Option.map_some,
      handled, onceMore]
  refine .cons ⟨fun frame member => ?_, fun _ same => by cases same⟩ stepped (.nil _)
  rw [sent, List.getElem?_cons_zero] at member
  obtain rfl := Option.some.inj member
  exact intact

/-- The packet arrives twice, and what is complete is returned. -/
theorem exists_run_twice : ∃ s, Run LossyLink.step FaithfulData (started default) (sending ++
    ([.arrive 0 [0] 0 fun _ => 0] ++ ([.arrive 0 [0] 0 fun _ => 0] ++ [.consume]))) s ∧
      (s.returnedOn 5).length = 1 ∧ (s.sender.enqueuedOn 5).length < 256 := by
  have link : onePacketSent.sender.link = [fragmentOf 0 0 0 false] := by decide +kernel
  have consumes : ((onceMore (onceMore onePacketSent)).step .consume).map
      (fun s => ((s.returnedOn 5).length, (s.sender.enqueuedOn 5).length)) = some (1, 1) := by decide +kernel
  obtain ⟨s, consumed, shown⟩ := Option.map_eq_some_iff.mp consumes
  obtain ⟨returned, enqueued⟩ := Prod.mk.inj shown
  have once := run_onceMore link (by decide) (by decide) (by decide)
  have again := @run_onceMore (onceMore onePacketSent) link (by decide) (by decide) (by decide)
  exact ⟨s, run_onePacketSent.append (once.append (again.append (.cons ⟨trivial, nofun⟩ consumed (.nil _)))), returned,
    by rw [enqueued]; decide⟩

/-- The message is returned once. -/
theorem returned_prefix_of_lossy_twice : ∃ s : LossyLink UInt8, s.returnedOn 5 <+: (s.messagesOn 5).map (deliveryOf 5) ∧
    (s.returnedOn 5).length = 1 := by
  obtain ⟨s, run, returned, few⟩ := exists_run_twice
  exact ⟨s, returned_prefix_of_lossy default _ s 5 run few, returned⟩

theorem ends_of_returned_twice : ∃ s : LossyLink UInt8, (∀ delivery ∈ s.returnedOn 5, ∃ message ∈ s.messagesOn 5,
    IsEndOf message 5 delivery) ∧ (s.returnedOn 5).length = 1 := by
  obtain ⟨s, run, returned, few⟩ := exists_run_twice
  exact ⟨s, ends_of_returned default _ s 5 (run.mono fun _ _ met => met.1) few, returned⟩

end S3tp.Soundness.Integrity
