import S3tp.Model.Concurrent.RxSystem
import S3tp.Soundness.OneByte
import Mathlib.Data.List.Perm.Subperm

/-! # Reordering at the receiver

A row of at most 128 packets arrives in any order while complete messages are consumed. At any time
the queue holds, in sequence, the packets that have arrived of the messages not yet consumed: a
packet is inserted where it belongs, whatever has been consumed in between. The scan then finds the
first of these messages once all of it is there, unless its numbers run past 255, in which case it
is never found and nothing behind it is delivered.
-/

namespace S3tp.Soundness

open Model.Core Model.Core.RxModule Model.Concurrent Machine

/-! ## Scanning a message that is still arriving -/

/-- A number that lies ahead of the expected one is not taken for it. -/
theorem ne_expected {c seqPort : UInt8} {i k : ℕ} (number : seqPort = UInt8.ofNat (c.toNat + i + k))
    (positive : 0 < k) (small : k < 256) : seqPort.toNat ≠ c.toNat + (UInt8.ofNat i).toNat := by
  have bound := c.toNat_lt
  rw [number, UInt8.toNat_ofNat', UInt8.toNat_ofNat']
  omega

/-- Packets that all lie ahead of the expected number do not scan as complete. -/
theorem scanComplete_ahead (arrived : S3tpPacket → Bool) {c : UInt8} {i : ℕ} {packets : List S3tpPacket}
    (consecutive : Consecutive (c.toNat + i + 1) packets) (short : packets.length < 256) :
    scanComplete c (UInt8.ofNat i) (packets.filter arrived) = false := by
  cases found : packets.filter arrived with
  | nil => rfl
  | cons head rest =>
    have member : head ∈ packets := List.mem_of_mem_filter (found ▸ List.mem_cons_self ..)
    obtain ⟨k, bound, rfl⟩ := List.getElem_of_mem member
    have number : packets[k].header.seqPort = UInt8.ofNat (c.toNat + i + (k + 1)) := by
      rw [consecutive.getElem bound]
      congr 1
      omega
    have other := ne_expected number (Nat.succ_pos k) (by omega)
    rw [scanComplete, if_pos other]

/-- The scan accepts the number of the fragment it expects unless that number has crossed. -/
theorem number_iff_inside {c : UInt8} {i : ℕ} (small : i < 256) :
    (c + UInt8.ofNat i).toNat = c.toNat + (UInt8.ofNat i).toNat ↔ Inside c i 1 := by
  constructor
  · intro same
    have bound := (c + UInt8.ofNat i).toNat_lt
    rw [UInt8.toNat_ofNat_of_lt_256 small] at same
    exact .inr (by omega)
  · exact fun inside => toNat_add_ofNat_of_inside inside Nat.one_pos

/-- Of a message and what follows it, the packets that have arrived scan as complete exactly when
the whole message has arrived and its numbers do not cross from 255 to 0. -/
theorem scanComplete_filter (arrived : S3tpPacket → Bool) {c : UInt8} {i : ℕ}
    {message later : List S3tpPacket} (fragments : Fragments c i message)
    (consecutive : Consecutive (c.toNat + i) (message ++ later)) (short : i + (message ++ later).length ≤ 256) :
    scanComplete c (UInt8.ofNat i) ((message ++ later).filter arrived) = true ↔
      (∀ packet ∈ message, arrived packet = true) ∧ Inside c i message.length := by
  induction fragments with
  | @last i packet number index final =>
    rw [List.singleton_append] at consecutive short ⊢
    obtain ⟨-, ahead⟩ := Consecutive.cons_iff.mp consecutive
    rw [List.length_cons] at short
    have expected := number_iff_inside (c := c) (i := i) (by omega)
    cases here : arrived packet with
    | false => simp [here, scanComplete_ahead arrived ahead (by omega)]
    | true =>
      rw [List.filter_cons_of_pos here, scanComplete, number, index, List.length_singleton, ← expected]
      rcases Classical.em ((c + UInt8.ofNat i).toNat = c.toNat + (UInt8.ofNat i).toNat) with same | crossed
      · simp only [same, ne_eq, not_true_eq_false, if_false, and_false, final, and_true, if_true]
        simp [here]
      · simp only [crossed, ne_eq, not_false_eq_true, if_true, and_false, Bool.false_eq_true]
  | @more i packet rest number index flagged _ ih =>
    rw [List.cons_append] at consecutive short ⊢
    obtain ⟨-, ahead⟩ := Consecutive.cons_iff.mp consecutive
    rw [List.length_cons] at short
    have expected := number_iff_inside (c := c) (i := i) (by omega)
    cases here : arrived packet with
    | false =>
      rw [List.filter_cons_of_neg (by simp [here]), scanComplete_ahead arrived ahead (by omega)]
      simp [here]
    | true =>
      have later := ih ahead (by omega)
      rw [UInt8.ofNat_succ] at later
      rw [List.filter_cons_of_pos here, scanComplete, number, index, List.forall_mem_cons]
      rcases Classical.em ((c + UInt8.ofNat i).toNat = c.toNat + (UInt8.ofNat i).toNat) with same | crossed
      · simp only [same, ne_eq, not_true_eq_false, if_false, and_false, flagged, false_and, later, here, true_and]
        exact and_congr_right fun _ => inside_succ_iff
      · have outside : ¬ Inside c i (packet :: rest).length :=
          fun inside => crossed (expected.mpr (inside.mono (by simp)))
        simp only [crossed, ne_eq, not_false_eq_true, if_true, Bool.false_eq_true, outside, and_false]

/-! ## A row of messages for one port -/

/-- Valid packets of the port, forming whole messages numbered on from `c`, each message with one
global sequence number, these numbers counting the messages. -/
structure Arrivals (p c : UInt8) (messages : List (List S3tpPacket)) : Prop where
  stream : MessageStream c.toNat messages
  globalSeq : ∀ (j : ℕ) (bound : j < messages.length), ∀ packet ∈ messages[j],
    packet.header.getGlobalSequence = UInt8.ofNat j
  valid : ∀ packet ∈ messages.flatten, packet.crcValid = true ∧ packet.header.getMessageType = msgData ∧
    packet.getPort = p ∧ packet.header.getPduLength.toNat ≤ packet.payload.length
  short : messages.flatten.length ≤ 128

/-- A module that has the port open, expects `c` on it and holds nothing for it, at the start of a
window and with no message available. -/
structure Quiet (p c : UInt8) (rx : RxModule) : Prop where
  active : rx.active = true
  portOpen : rx.isPortOpen p = true
  free : rx.rxMutexHeld = false
  queue : rx.inBuffer.queues p = .empty
  window : rx.receivingWindow = 0
  toConsume : rx.toConsumeGlobalSeq = 0
  newest : rx.lastReceivedGlobalSeq = 0
  expected : rx.currentPortSequence p = c
  silent : rx.isNewMessageAvailable = false

/-- Each packet arrives once, and messages are consumed while there are any. -/
def Arrives (messages : List (List S3tpPacket)) (s : RxSystem) : RxEvent → Prop
  | .receive packet => packet ∈ messages.flatten ∧ packet ∉ s.received
  | .consume => s.rx.isNewMessageAvailable = true
  | _ => False

/-- What `getNextCompleteMessage` answers when it consumes the message. -/
def deliveryOf (p : UInt8) (message : List S3tpPacket) : Delivery where
  data := some (assembled message)
  len := lengthSum message
  error := codeSuccess
  port := p

namespace Arrivals

variable {p c : UInt8} {messages : List (List S3tpPacket)}

/-- The global sequence numbers stay in the first half of the turn. -/
theorem globalSeq_lt (arrivals : Arrivals p c messages) {packet : S3tpPacket}
    (member : packet ∈ messages.flatten) : packet.header.getGlobalSequence.toNat < 128 := by
  obtain ⟨message, among, inMessage⟩ := List.mem_flatten.mp member
  obtain ⟨j, bound, rfl⟩ := List.getElem_of_mem among
  have count := arrivals.stream.length_le
  have short := arrivals.short
  rw [arrivals.globalSeq j bound packet inMessage, UInt8.toNat_ofNat_of_lt_256 (by omega)]
  omega

theorem nodup (arrivals : Arrivals p c messages) : messages.flatten.Nodup :=
  arrivals.stream.consecutive.nodup (by have := arrivals.short; omega)

end Arrivals

/-- Some of the messages have been consumed; of the others, the packets that have arrived are queued
in sequence. -/
structure Progress (p c : UInt8) (messages consumed remaining : List (List S3tpPacket)) (s : RxSystem) : Prop where
  split : messages = consumed ++ remaining
  portOpen : s.rx.isPortOpen p = true
  active : s.rx.active = true
  free : s.rx.rxMutexHeld = false
  arrived : s.received ⊆ messages.flatten
  once : s.received.Nodup
  before : consumed.flatten ⊆ s.received
  held : s.rx.inBuffer.held p = remaining.flatten.filter (· ∈ s.received)
  counted : (s.rx.inBuffer.queues p).Counted
  expected : s.rx.currentPortSequence p = UInt8.ofNat (c.toNat + consumed.flatten.length)
  flagged : ∀ port, (s.rx.availableMessages port).isSome = true ↔
    port = p ∧ s.rx.isCompleteMessageForPortAvailable p = true
  window : s.received.length < 128 →
    s.rx.toConsumeGlobalSeq = 0 ∧ s.rx.receivingWindow = UInt8.ofNat s.received.length
  delivered : s.delivered = consumed.map (deliveryOf p)
  straight : Straight c.toNat consumed

/-- A queue that holds what has arrived of a row of messages begins with a complete message exactly
when the first of them has arrived and does not cross. -/
theorem complete_iff {rx : RxModule} {p : UInt8} {n : ℕ} {remaining : List (List S3tpPacket)}
    {received : List S3tpPacket} (stream : MessageStream n remaining) (short : remaining.flatten.length ≤ 128)
    (expected : rx.currentPortSequence p = UInt8.ofNat n)
    (held : rx.inBuffer.held p = remaining.flatten.filter (· ∈ received)) :
    rx.isCompleteMessageForPortAvailable p = true ↔ ∃ message later, remaining = message :: later ∧
      message ⊆ received ∧ Inside (UInt8.ofNat n) 0 message.length := by
  rw [isCompleteMessageForPortAvailable, Buffer.getQueue, ← Buffer.held, held, expected]
  cases remaining with
  | nil => simp [scanComplete]
  | cons message later =>
    have numbered : Consecutive ((UInt8.ofNat n).toNat + 0) (message ++ later.flatten) :=
      (Consecutive.ofNat_congr (by rw [Nat.add_zero, UInt8.ofNat_toNat])).mp
        (List.flatten_cons ▸ stream.consecutive)
    rw [List.flatten_cons] at short ⊢
    have scan := scanComplete_filter (· ∈ received) stream.1 numbered (by omega)
    simp only [decide_eq_true_eq] at scan
    rw [show (0 : UInt8) = UInt8.ofNat 0 from rfl, scan]
    simp [List.subset_def]

namespace Progress

variable {p c : UInt8} {messages consumed remaining : List (List S3tpPacket)} {s : RxSystem}

theorem start {rx : RxModule} (messages : List (List S3tpPacket)) (quiet : Quiet p c rx) :
    Progress p c messages [] messages { rx } where
  split := rfl
  portOpen := quiet.portOpen
  active := quiet.active
  free := quiet.free
  arrived := List.nil_subset _
  once := List.nodup_nil
  before := List.nil_subset _
  held := by
    have nothing (packets : List S3tpPacket) : packets.filter (· ∈ ([] : List S3tpPacket)) = [] := by simp
    rw [nothing, Buffer.held, quiet.queue]
    rfl
  counted := quiet.queue ▸ PriorityQueue.counted_empty
  expected := by simp [quiet.expected]
  flagged port := by
    have none : rx.availableMessages port = none :=
      ByteMap.isEmpty_iff.mp (by simpa [isNewMessageAvailable] using quiet.silent) port
    simp [none, isCompleteMessageForPortAvailable, Buffer.getQueue, quiet.queue, PriorityQueue.empty, scanComplete]
  window _ := ⟨quiet.toConsume, quiet.window⟩
  delivered := rfl
  straight := trivial

/-- The messages not yet consumed go on from the expected number. -/
theorem stream (progress : Progress p c messages consumed remaining s) (arrivals : Arrivals p c messages) :
    MessageStream (c.toNat + consumed.flatten.length) remaining :=
  (Along.append_iff.mp (progress.split ▸ arrivals.stream)).2

theorem remaining_short (progress : Progress p c messages consumed remaining s)
    (arrivals : Arrivals p c messages) : remaining.flatten.length ≤ 128 := by
  have short := arrivals.short
  rw [progress.split, List.flatten_append, List.length_append] at short
  omega

theorem mem_of_held (progress : Progress p c messages consumed remaining s) {packet : S3tpPacket}
    (member : packet ∈ s.rx.inBuffer.held p) : packet ∈ messages.flatten := by
  rw [progress.held] at member
  rw [progress.split, List.flatten_append]
  exact List.mem_append_right _ (List.mem_of_mem_filter member)

/-- There is room for a packet that has not arrived. -/
theorem received_lt (progress : Progress p c messages consumed remaining s) (arrivals : Arrivals p c messages)
    {packet : S3tpPacket} (member : packet ∈ messages.flatten) (new : packet ∉ s.received) :
    s.received.length < 128 := by
  have within : (packet :: s.received).Subperm messages.flatten :=
    (List.nodup_cons.mpr ⟨new, progress.once⟩).subperm (List.cons_subset.mpr ⟨member, progress.arrived⟩)
  have bound := within.length_le
  have short := arrivals.short
  rw [List.length_cons] at bound
  omega

/-- A packet of the row never makes the window test fire. -/
theorem not_windowExceeded (progress : Progress p c messages consumed remaining s)
    (arrivals : Arrivals p c messages) {packet : S3tpPacket} (member : packet ∈ messages.flatten)
    (new : packet ∉ s.received) : s.rx.inBuffer.windowExceeded s.rx.policy packet = false := by
  have offset := (progress.window (progress.received_lt arrivals member new)).1
  refine s.rx.windowExceeded_eq_false packet fun head found => maximumWindowExceeded_eq_false _ ?_ ?_
  · rw [(arrivals.valid packet member).2.2.1] at found
    simpa [relativeGlobalSeq, offset] using
      arrivals.globalSeq_lt (progress.mem_of_held (List.mem_of_mem_head? found))
  · simpa [relativeGlobalSeq, offset] using arrivals.globalSeq_lt member

/-- The packet goes to its place in the row. -/
theorem held_write (progress : Progress p c messages consumed remaining s) (arrivals : Arrivals p c messages)
    {packet : S3tpPacket} (member : packet ∈ messages.flatten) (new : packet ∉ s.received) :
    (s.rx.writePacket packet).inBuffer.held p =
      remaining.flatten.filter (· ∈ s.received ++ [packet]) := by
  have waits : packet ∈ remaining.flatten := by
    rw [progress.split, List.flatten_append, List.mem_append] at member
    exact member.resolve_left fun early => new (progress.before early)
  obtain ⟨front, back, place⟩ := List.append_of_mem waits
  have own := (arrivals.valid packet member).2.2.1
  have nodup : (front ++ packet :: back).Nodup := by
    have whole := arrivals.nodup
    rw [progress.split, List.flatten_append, place] at whole
    exact (List.nodup_append.mp whole).2.1
  have apart : packet ∉ front ∧ packet ∉ back := by
    have distinct := (List.nodup_middle.mp nodup)
    rw [List.nodup_cons, List.mem_append, not_or] at distinct
    exact distinct.1
  have unaffected {part : List S3tpPacket} (absent : packet ∉ part) :
      part.filter (· ∈ s.received ++ [packet]) = part.filter (· ∈ s.received) := by
    refine List.filter_congr fun other inPart => ?_
    have ne : other ≠ packet := fun same => absent (same ▸ inPart)
    simp [ne]
  have ported : ∀ other ∈ front ++ back, other.getPort = p := by
    intro other inRest
    refine (arrivals.valid other ?_).2.2.1
    rw [progress.split, List.flatten_append, place]
    simp only [List.mem_append, List.mem_cons] at inRest ⊢
    tauto
  have compare : s.rx.policy.comparePriority = comparePortSequence s.rx.currentPortSequence := rfl
  have inserted := insertFromTail_between compare progress.expected ported
    (place ▸ (progress.stream arrivals).consecutive)
    (place ▸ (progress.remaining_short arrivals).trans (by decide))
    (List.filter_subset_self (p := (· ∈ s.received)) front)
    (List.filter_subset_self (p := (· ∈ s.received)) back)
  rw [← own, held_writePacket _ _ (progress.not_windowExceeded arrivals member new), own, progress.held, place,
    List.filter_append, List.filter_cons_of_neg (by simpa using new), inserted, List.filter_append,
    List.filter_cons_of_pos (by simp), unaffected apart.1, unaffected apart.2]

/-- A packet arrives. -/
theorem receive (progress : Progress p c messages consumed remaining s) (arrivals : Arrivals p c messages)
    {packet : S3tpPacket} (member : packet ∈ messages.flatten) (new : packet ∉ s.received) :
    Progress p c messages consumed remaining
      { s with rx := s.rx.receiveData packet, received := s.received ++ [packet] } := by
  have frame := s.rx.receiveData_frame packet
  have room := progress.received_lt arrivals member new
  obtain ⟨offset, count⟩ := progress.window room
  have own := (arrivals.valid packet member).2.2.1
  have written := progress.held_write arrivals member new
  have fresh : s.rx.tooOld ((s.rx.writePacket packet).inBuffer.queues p) = false := by
    refine s.rx.tooOld_eq_false fun head found => ?_
    have queued : head ∈ (s.rx.writePacket packet).inBuffer.held p := List.mem_of_mem_head? found
    rw [written] at queued
    have among : head ∈ messages.flatten := by
      rw [progress.split, List.flatten_append]
      exact List.mem_append_right _ (List.mem_of_mem_filter queued)
    simpa [relativeGlobalSeq, offset] using arrivals.globalSeq_lt among
  have queue : (s.rx.receiveData packet).inBuffer.queues p = (s.rx.writePacket packet).inBuffer.queues p := by
    rw [receiveData_queues, if_neg fun flushes => Bool.false_ne_true (fresh.symm.trans flushes.2.2)]
  have expected : (s.rx.receiveData packet).currentPortSequence p =
      UInt8.ofNat (c.toNat + consumed.flatten.length) := by
    rw [frame]
    exact progress.expected
  have held : (s.rx.receiveData packet).inBuffer.held p =
      remaining.flatten.filter (· ∈ s.received ++ [packet]) := by
    rw [← written, Buffer.held, queue, Buffer.held]
  have complete : (s.rx.receiveData packet).isCompleteMessageForPortAvailable p =
      (s.rx.writePacket packet).isCompleteMessageForPortAvailable p := by
    rw [isCompleteMessageForPortAvailable, Buffer.getQueue, queue, frame]
    rfl
  have stays : s.rx.isCompleteMessageForPortAvailable p = true →
      (s.rx.receiveData packet).isCompleteMessageForPortAvailable p = true := by
    rw [complete_iff (progress.stream arrivals) (progress.remaining_short arrivals) progress.expected progress.held,
      complete_iff (progress.stream arrivals) (progress.remaining_short arrivals) expected held]
    rintro ⟨message, later, first, arrived, inside⟩
    exact ⟨message, later, first, List.subset_append_of_subset_left _ arrived, inside⟩
  have portOpen : (s.rx.receiveData packet).isPortOpen p = true := by
    rw [isPortOpen, receiveData_openPorts, receiveData_active]
    exact progress.portOpen
  have active : (s.rx.receiveData packet).active = true := (s.rx.receiveData_active packet).trans progress.active
  have free : (s.rx.receiveData packet).rxMutexHeld = false := by
    rw [frame]
    exact progress.free
  have counted : ((s.rx.receiveData packet).inBuffer.queues p).Counted := by
    rw [queue, ← own]
    refine Buffer.counted_write (own ▸ progress.counted) ?_
    rw [Buffer.kept, progress.not_windowExceeded arrivals member new, own, progress.held]
    have short := progress.remaining_short arrivals
    have fewer := List.length_filter_le (· ∈ s.received) remaining.flatten
    simp only [Bool.false_eq_true, if_false]
    omega
  have flagged (port : UInt8) : ((s.rx.receiveData packet).availableMessages port).isSome = true ↔
      port = p ∧ (s.rx.receiveData packet).isCompleteMessageForPortAvailable p = true := by
    rw [receiveData_availableMessages, own, ← complete]
    cases now : (s.rx.receiveData packet).isCompleteMessageForPortAvailable p with
    | true =>
      simp only [if_true, ByteMap.insert_apply, and_true]
      split
      · next same => simp [same]
      · next other => simp [progress.flagged port, other]
    | false =>
      have before : s.rx.isCompleteMessageForPortAvailable p = false := by
        rw [← Bool.not_eq_true]
        exact fun was => by simp [stays was] at now
      simp [progress.flagged port, before]
  have window (more : s.received.length + 1 < 128) : (s.rx.receiveData packet).toConsumeGlobalSeq = 0 ∧
      (s.rx.receiveData packet).receivingWindow = UInt8.ofNat (s.received.length + 1) := by
    have next : s.rx.receivingWindow + 1 = UInt8.ofNat (s.received.length + 1) := by
      rw [count, UInt8.ofNat_succ]
    obtain ⟨offsetSame, counted⟩ := s.rx.receiveData_of_lt packet (by
      rw [next, UInt8.toNat_ofNat_of_lt_256 (by omega)]
      exact more)
    exact ⟨offsetSame.trans offset, counted.trans next⟩
  generalize s.rx.receiveData packet = rx at portOpen active free held counted expected flagged window ⊢
  refine ⟨progress.split, portOpen, active, free, ?_, ?_, ?_, held, counted, expected, flagged, ?_, progress.delivered,
    progress.straight⟩
  · exact List.append_subset.mpr ⟨progress.arrived, by simpa using member⟩
  · refine List.nodup_append.mpr ⟨progress.once, List.nodup_singleton _, ?_⟩
    intro other inReceived last isLast same
    obtain rfl := List.mem_singleton.mp isLast
    exact new (same ▸ inReceived)
  · exact List.subset_append_of_subset_left _ progress.before
  · intro more
    rw [List.length_append, List.length_singleton] at more ⊢
    exact window more

/-- A message is consumed: it is the first of those that remain. -/
theorem consume (progress : Progress p c messages consumed remaining s) (arrivals : Arrivals p c messages)
    (available : s.rx.isNewMessageAvailable = true) :
    ∃ message later t, remaining = message :: later ∧ s.step .consume = some t ∧ t.received = s.received ∧
      Progress p c messages (consumed ++ [message]) later t := by
  have only (port : UInt8) (stored : (s.rx.availableMessages port).isSome = true) : port = p :=
    ((progress.flagged port).mp stored).1
  obtain ⟨port, stored⟩ : ∃ port, (s.rx.availableMessages port).isSome = true := by
    simpa [isNewMessageAvailable, ByteMap.isEmpty_eq_false_iff] using available
  obtain rfl := only port stored
  have first : s.rx.availableMessages.begin? = some port :=
    ByteMap.begin?_eq_some_iff.mpr ⟨stored, fun other isStored => (only other isStored).symm ▸ UInt8.le_refl _⟩
  obtain ⟨message, later, head, arrived, inside⟩ :=
    (complete_iff (progress.stream arrivals) (progress.remaining_short arrivals) progress.expected
      progress.held).mp ((progress.flagged port).mp stored).2
  subst head
  have queue : s.rx.inBuffer.held port = message ++ later.flatten.filter (· ∈ s.received) := by
    have whole : message.filter (· ∈ s.received) = message :=
      List.filter_eq_self.mpr fun packet inMessage => decide_eq_true (arrived inMessage)
    rw [progress.held, List.flatten_cons, List.filter_append, whole]
  obtain ⟨isMessage, laterStream⟩ := progress.stream arrivals
  obtain ⟨rx', answers, taken⟩ := getNextCompleteMessage_of_message progress.active first progress.counted queue
    (progress.expected ▸ isMessage)
  have frame := rx'.refreshAvailability_frame port
  have held : rx'.inBuffer.held port = later.flatten.filter (· ∈ s.received) := by
    rw [taken.held, queue, List.drop_left]
  have expected : rx'.currentPortSequence port =
      UInt8.ofNat (c.toNat + (consumed ++ [message]).flatten.length) := by
    rw [taken.current, Function.update_self, progress.expected, ← UInt8.ofNat_add]
    simp [Nat.add_assoc]
  refine ⟨message, later,
    { s with rx := rx'.refreshAvailability port, delivered := s.delivered ++ [deliveryOf port message] },
    rfl, by simp [RxSystem.step, progress.free, answers, deliveryOf], rfl, ?_⟩
  refine ⟨by rw [progress.split, List.append_assoc]; rfl, ?_, ?_, ?_, progress.arrived, progress.once, ?_, ?_, ?_,
    ?_, ?_, ?_, ?_, ?_⟩
  · rw [frame, taken.frame]
    exact progress.portOpen
  · rw [frame, taken.frame]
    exact progress.active
  · rw [frame, taken.frame]
    exact progress.free
  · rw [List.flatten_append, List.append_subset]
    exact ⟨progress.before, by simpa using arrived⟩
  · rw [frame]
    exact held
  · rw [frame]
    exact taken.counted
  · rw [frame]
    exact expected
  · intro other
    have same : (rx'.refreshAvailability port).isCompleteMessageForPortAvailable port =
        rx'.isCompleteMessageForPortAvailable port := by
      rw [frame]
      rfl
    have flagged := progress.flagged other
    have flags : rx'.availableMessages = s.rx.availableMessages := by rw [taken.frame]
    rw [same, frame, flags]
    cases rx'.isCompleteMessageForPortAvailable port with
    | true =>
      simp only [if_true, ByteMap.insert_apply, and_true]
      split
      · next same => simp [same]
      · next ne => simp [flagged, ne]
    | false =>
      simp only [Bool.false_eq_true, if_false, ByteMap.erase_apply, and_false, iff_false, Bool.not_eq_true]
      split
      · rfl
      · next ne => simpa [ne] using flagged
  · rw [frame, taken.frame]
    exact progress.window
  · rw [progress.delivered, List.map_append]
    rfl
  · exact Along.append_iff.mpr ⟨progress.straight, inside, trivial⟩

/-- A packet of the row is accepted. -/
theorem accepts (progress : Progress p c messages consumed remaining s) (arrivals : Arrivals p c messages)
    {packet : S3tpPacket} (member : packet ∈ messages.flatten) : s.rx.accepts packet = true := by
  obtain ⟨valid, type, own, -⟩ := arrivals.valid packet member
  simp [RxModule.accepts, progress.active, valid, type, own, progress.portOpen]

/-- Every step of a schedule makes progress. -/
theorem step (progress : Progress p c messages consumed remaining s) (arrivals : Arrivals p c messages)
    {event : RxEvent} {t : RxSystem} (met : Arrives messages s event) (stepped : s.step event = some t) :
    ∃ consumed remaining, Progress p c messages consumed remaining t := by
  cases event with
  | openPort port => exact met.elim
  | closePort port => exact met.elim
  | receive packet =>
    rw [RxSystem.step_receive progress.free (progress.accepts arrivals met.1)] at stepped
    obtain rfl := Option.some.inj stepped
    exact ⟨consumed, remaining, progress.receive arrivals met.1 met.2⟩
  | consume =>
    obtain ⟨message, later, next, -, consumes, -, further⟩ := progress.consume arrivals met
    obtain rfl := Option.some.inj (consumes.symm.trans stepped)
    exact ⟨consumed ++ [message], later, further⟩

theorem run (progress : Progress p c messages consumed remaining s) (arrivals : Arrivals p c messages)
    {events : List RxEvent} {t : RxSystem} (run : Run RxSystem.step (Arrives messages) s events t) :
    ∃ consumed remaining, Progress p c messages consumed remaining t :=
  run.invariant (P := fun u => ∃ consumed remaining, Progress p c messages consumed remaining u)
    (fun _ _ _ ⟨_, _, progress⟩ met stepped => progress.step arrivals met stepped) ⟨_, _, progress⟩

/-- What has not arrived yet can arrive. -/
theorem exists_arrival (arrivals : Arrivals p c messages) (todo : List S3tpPacket) : ∀ {s : RxSystem},
    Progress p c messages consumed remaining s → todo ⊆ messages.flatten →
    ∃ events t, Run RxSystem.step (Arrives messages) s events t ∧ todo ⊆ t.received ∧ s.received ⊆ t.received ∧
      Progress p c messages consumed remaining t := by
  induction todo with
  | nil => exact fun progress _ => ⟨[], _, .nil _, List.nil_subset _, List.Subset.refl _, progress⟩
  | cons packet rest ih =>
    intro s progress within
    obtain ⟨member, later⟩ := List.cons_subset.mp within
    rcases Classical.em (packet ∈ s.received) with here | new
    · obtain ⟨events, t, run, arrived, kept, progress'⟩ := ih progress later
      exact ⟨events, t, run, List.cons_subset.mpr ⟨kept here, arrived⟩, kept, progress'⟩
    · obtain ⟨events, t, run, arrived, kept, progress'⟩ := ih (progress.receive arrivals member new) later
      have received := List.append_subset.mp kept
      exact ⟨.receive packet :: events, t,
        .cons ⟨member, new⟩ (RxSystem.step_receive progress.free (progress.accepts arrivals member)) run,
        List.cons_subset.mpr ⟨received.2 (by simp), arrived⟩, received.1, progress'⟩

/-- What is available can be consumed. -/
theorem exists_silence (arrivals : Arrivals p c messages) (remaining : List (List S3tpPacket)) :
    ∀ {consumed : List (List S3tpPacket)} {s : RxSystem}, Progress p c messages consumed remaining s →
    ∃ events t consumed remaining, Run RxSystem.step (Arrives messages) s events t ∧
      t.received = s.received ∧ t.rx.isNewMessageAvailable = false ∧
      Progress p c messages consumed remaining t := by
  induction remaining with
  | nil =>
    intro consumed s progress
    cases available : s.rx.isNewMessageAvailable with
    | false => exact ⟨[], s, consumed, [], .nil _, rfl, available, progress⟩
    | true =>
      obtain ⟨message, later, -, none, -⟩ := progress.consume arrivals available
      exact absurd none (List.cons_ne_nil _ _).symm
  | cons first later ih =>
    intro consumed s progress
    cases available : s.rx.isNewMessageAvailable with
    | false => exact ⟨[], s, consumed, _, .nil _, rfl, available, progress⟩
    | true =>
      obtain ⟨message, rest, mid, same, stepped, received, further⟩ := progress.consume arrivals available
      obtain ⟨rfl, rfl⟩ := List.cons.inj same
      obtain ⟨events, t, consumed', remaining', run, kept, silent, progress'⟩ := ih further
      exact ⟨.consume :: events, t, consumed', remaining', .cons available stepped run, kept.trans received,
        silent, progress'⟩

end Progress

/-! ## The original messages, in order -/

/-- The error code, the port, the bytes and the length that a call of `getNextCompleteMessage` shows. -/
def shown (delivery : Delivery) : ℤ × UInt8 × Option (List UInt8) × ℕ :=
  (delivery.error, delivery.port, delivery.data, delivery.len.toNat)

/-- What it should show for a message. -/
def original (p : UInt8) (message : List S3tpPacket) : ℤ × UInt8 × Option (List UInt8) × ℕ :=
  (codeSuccess, p, some (assembled message), (assembled message).length)

/-- The messages returned are the original ones, in order, each once; all of them have been returned
once every packet has arrived and no message is available. -/
structure Reordered (p : UInt8) (messages : List (List S3tpPacket)) (s : RxSystem) : Prop where
  inOrder : s.delivered.map shown <+: messages.map (original p)
  complete : messages.flatten ⊆ s.received → s.rx.isNewMessageAvailable = false →
    s.delivered.map shown = messages.map (original p)

/-- A message is shown as it is exactly if its length fits into 16 bits. -/
theorem shown_deliveryOf {p c : UInt8} {messages : List (List S3tpPacket)} (arrivals : Arrivals p c messages)
    {message : List S3tpPacket} (among : message ∈ messages) :
    shown (deliveryOf p message) = original p message ↔ (assembled message).length < 2 ^ 16 := by
  have sum := toNat_lengthSum fun packet inMessage =>
    (arrivals.valid packet (List.mem_flatten_of_mem among inMessage)).2.2.2
  simp only [shown, original, deliveryOf, Prod.mk.injEq, true_and, sum]
  omega

/-- A row that is returned under some schedule that runs to the end does not cross, and its lengths
fit. -/
theorem deliverable_of_reordered {p c : UInt8} {messages : List (List S3tpPacket)}
    (arrivals : Arrivals p c messages) {rx : RxModule} (quiet : Quiet p c rx)
    (reordered : ∀ (events : List RxEvent) (t : RxSystem),
      Run RxSystem.step (Arrives messages) { rx } events t → Reordered p messages t) :
    Straight c.toNat messages ∧ ∀ message ∈ messages, (assembled message).length < 2 ^ 16 := by
  obtain ⟨arriving, full, toFull, all, -, progress⟩ :=
    Progress.exists_arrival arrivals messages.flatten (Progress.start messages quiet) (List.Subset.refl _)
  obtain ⟨consuming, t, consumed, remaining, toSilent, same, silent, final⟩ :=
    Progress.exists_silence arrivals _ progress
  have returned := (reordered _ t (toFull.append toSilent)).complete (same ▸ all) silent
  rw [final.delivered, List.map_map] at returned
  -- As many messages as there are have been consumed, so these are all of them.
  have whole : consumed = messages := by
    have count := congrArg List.length returned
    rw [List.length_map, List.length_map, final.split, List.length_append] at count
    rw [final.split, List.eq_nil_of_length_eq_zero (l := remaining) (by omega), List.append_nil]
  refine ⟨whole ▸ final.straight, fun message among => (shown_deliveryOf arrivals among).mp ?_⟩
  rw [whole] at returned
  exact List.map_inj_left.mp returned message among

/-- A row that does not cross and whose lengths fit is returned under every schedule. -/
theorem reordered_of_deliverable {p c : UInt8} {messages : List (List S3tpPacket)}
    (arrivals : Arrivals p c messages) {rx : RxModule} (quiet : Quiet p c rx)
    (straight : Straight c.toNat messages) (sizes : ∀ message ∈ messages, (assembled message).length < 2 ^ 16)
    {events : List RxEvent} {t : RxSystem} (run : Run RxSystem.step (Arrives messages) { rx } events t) :
    Reordered p messages t := by
  obtain ⟨consumed, remaining, progress⟩ := (Progress.start messages quiet).run arrivals run
  have among {message : List S3tpPacket} (early : message ∈ consumed) : message ∈ messages := by
    rw [progress.split]
    exact List.mem_append_left _ early
  have returned : t.delivered.map shown = consumed.map (original p) := by
    rw [progress.delivered, List.map_map]
    exact List.map_congr_left fun message early =>
      (shown_deliveryOf arrivals (among early)).mpr (sizes message (among early))
  constructor
  · rw [returned, progress.split, List.map_append]
    exact List.prefix_append _ _
  · intro all silent
    suffices none : remaining = [] by rw [returned, progress.split, none, List.append_nil]
    cases remaining with
    | nil => rfl
    | cons message later =>
      have arrived : message ⊆ t.received := by
        refine List.Subset.trans (fun packet inMessage => ?_) all
        rw [progress.split]
        simp [inMessage]
      have behind : Straight (c.toNat + consumed.flatten.length) (message :: later) :=
        (Along.append_iff.mp (progress.split ▸ straight)).2
      have complete := (complete_iff (progress.stream arrivals) (progress.remaining_short arrivals)
        progress.expected progress.held).mpr ⟨message, later, rfl, arrived, behind.1⟩
      have flagged := (progress.flagged p).mpr ⟨rfl, complete⟩
      have empty := ByteMap.isEmpty_iff.mp (by simpa [isNewMessageAvailable] using silent) p
      simp [empty] at flagged

/-- A module that has only port 5 open and expects number `c`. -/
def listening (c : UInt8) : RxModule :=
  { active := true, openPorts := ByteMap.empty.insert 5 1, currentPortSequence := fun _ => c }

theorem quiet_listening (c : UInt8) : Quiet 5 c (listening c) :=
  ⟨rfl, rfl, rfl, rfl, rfl, rfl, rfl, rfl,
    (by decide : (!(ByteMap.empty : ByteMap UInt8).isEmpty) = false)⟩

/-- A message of two fragments. -/
def pair (c : UInt8) : List (List S3tpPacket) := [[fragmentOf 0 c 0 true, fragmentOf 0 (c + 1) 1 false]]

theorem arrivals_pair (c : UInt8) : Arrivals 5 c (pair c) where
  stream := ⟨.more (by simp) (by simp) (by simp) (.last (by simp) (by simp) (by simp)), trivial⟩
  globalSeq j bound packet member := by
    obtain rfl : j = 0 := by simpa [pair] using bound
    simp only [pair, List.getElem_cons_zero, List.mem_cons, List.not_mem_nil, or_false] at member
    rcases member with rfl | rfl <;> exact fragmentOf_getGlobalSequence _ _ _ _
  valid packet member := by
    simp only [pair, List.flatten_cons, List.flatten_nil, List.append_nil, List.mem_cons, List.not_mem_nil,
      or_false] at member
    rcases member with rfl | rfl <;> simp [fragmentOf_payload]
  short := by simp [pair]

end S3tp.Soundness
