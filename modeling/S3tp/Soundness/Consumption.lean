import S3tp.Soundness.Admission
import S3tp.Soundness.Detection
import S3tp.Soundness.Payloads
import S3tp.Model.Core.Registry

/-! # Consuming a message

What `getNextCompleteMessage` does with the first flagged port, and what `assemblyRoutine` forwards of it.
It takes a message that the detector finds as the detector sees it. It stumbles over a packet with an
unexpected number only after it has taken that packet and those before it, and returns with the mutex
locked. The length it returns, and passes on, is the sum of the lengths in 16 bits.
-/

namespace S3tp.Soundness

open Model.Core Model.Core.RxModule Model.Concurrent

/-! ## What the detector has found -/

section Detected

variable {c : UInt8} {queue : List S3tpPacket} {i k : ℕ}

/-- The packets end with the first one that lacks the more-fragments flag. -/
def UpToLast (packets : List S3tpPacket) : Prop := ∃ front last, packets = front ++ [last] ∧
  (∀ packet ∈ front, packet.header.moreFragments ≠ 0) ∧ last.header.moreFragments = 0

theorem UpToLast.singleton {packet : S3tpPacket} (final : packet.header.moreFragments = 0) : UpToLast [packet] :=
  ⟨[], packet, rfl, by simp, final⟩

theorem UpToLast.cons {packet : S3tpPacket} {packets : List S3tpPacket} (flagged : packet.header.moreFragments ≠ 0)
    (upTo : UpToLast packets) : UpToLast (packet :: packets) := by
  obtain ⟨front, last, rfl, earlier, final⟩ := upTo
  exact ⟨packet :: front, last, rfl, List.forall_mem_cons.mpr ⟨flagged, earlier⟩, final⟩

/-- A number that the scan accepts is the one the loop expects. -/
theorem seqPort_eq_of_scanned {packet : S3tpPacket} (same : packet.header.seqPort.toNat = c.toNat + i % 256) :
    packet.header.seqPort = UInt8.ofNat (c.toNat + i) := by
  have bound := packet.header.seqPort.toNat_lt
  rw [← UInt8.toNat_inj, UInt8.toNat_ofNat']
  omega

/-- A scan that ends has seen the expected numbers up to the first last fragment. -/
theorem ScansTo.row : ∀ {k i : ℕ} {queue : List S3tpPacket}, ScansTo c i queue k →
    ∃ message rest, queue = message ++ rest ∧ UpToLast message ∧ Consecutive (c.toNat + i) message := by
  intro k
  induction k with
  | zero =>
    intro i queue scan
    obtain ⟨packet, first, number, final, -⟩ := scan.ends
    obtain ⟨rest, rfl⟩ := List.head?_eq_some_iff.mp ((List.head?_eq_getElem? ..).trans first)
    exact ⟨[packet], rest, rfl, .singleton final, Consecutive.singleton_iff.mpr (seqPort_eq_of_scanned number)⟩
  | succ k ih =>
    intro i queue scan
    obtain ⟨packet, first, -⟩ := scan.passes 0 (Nat.succ_pos k)
    obtain ⟨later, rfl⟩ := List.head?_eq_some_iff.mp ((List.head?_eq_getElem? ..).trans first)
    obtain ⟨⟨number, -⟩, scanLater⟩ := scansTo_succ_iff.mp scan
    have own := seqPort_eq_of_scanned number
    rcases Classical.em (packet.header.moreFragments = 0) with final | flagged
    · exact ⟨[packet], later, rfl, .singleton final, Consecutive.singleton_iff.mpr own⟩
    · obtain ⟨message, rest, rfl, upTo, numbered⟩ := ih scanLater
      exact ⟨packet :: message, rest, rfl, upTo.cons flagged, Consecutive.cons_iff.mpr ⟨own, numbered⟩⟩

end Detected

/-- Consuming takes exactly the packets of the port up to and including the first last fragment, and returns
their payloads joined. The port stays flagged if and only if the detector finds another message. -/
structure TakesMessage (rx : RxModule) (port : UInt8) (message rest : List S3tpPacket) (rx' : RxModule) : Prop where
  held : rx.inBuffer.held port = message ++ rest
  upToLast : UpToLast message
  returns : rx.getNextCompleteMessage = some (⟨some (assembled message), lengthSum message, codeSuccess, port⟩, rx')
  left : rx'.inBuffer.held port = rest
  expected : rx'.currentPortSequence port = rx.currentPortSequence port + UInt8.ofNat message.length
  others : ∀ other, other ≠ port → Untouched rx rx' other
  flagged : (rx'.availableMessages port).isSome = true ↔ rx'.isCompleteMessageForPortAvailable port = true

theorem flagged_refreshAvailability_self (rx : RxModule) (port : UInt8) :
    ((rx.refreshAvailability port).availableMessages port).isSome = true ↔
      (rx.refreshAvailability port).isCompleteMessageForPortAvailable port = true := by
  have same : (rx.refreshAvailability port).isCompleteMessageForPortAvailable port =
      rx.isCompleteMessageForPortAvailable port := by
    rw [refreshAvailability_frame]
    rfl
  rw [same, refreshAvailability_frame]
  split <;> simp [*]

/-- The assembler takes what the detector finds. -/
theorem assembler_agrees {rx : RxModule} {port : UInt8} (active : rx.active = true)
    (sizes : ∀ other, (rx.inBuffer.queues other).size.toNat = (rx.inBuffer.held other).length)
    (first : rx.availableMessages.begin? = some port) (found : rx.isCompleteMessageForPortAvailable port = true) :
    ∃ message rest rx', TakesMessage rx port message rest rx' := by
  obtain ⟨k, scan⟩ := (isCompleteMessageForPortAvailable_iff rx port).mp found
  obtain ⟨message, rest, held, upToLast, numbered⟩ := scan.row
  obtain ⟨front, last, rfl, flagged, final⟩ := upToLast
  have counted : (rx.inBuffer.queues port).Counted :=
    ⟨by rw [← Buffer.held, ← sizes port]; exact UInt16.toNat_lt _, sizes port⟩
  obtain ⟨mid, assembles, consumed⟩ := assemble_of_row flagged final numbered counted
    (by rw [held, List.append_assoc]; rfl) UInt8.ofNat_toNat.symm [] 0
  have length : (front ++ [last]).length = front.length + 1 := by simp
  have returns : rx.getNextCompleteMessage = some (⟨some (assembled (front ++ [last])), lengthSum (front ++ [last]),
      codeSuccess, port⟩, mid.refreshAvailability port) := by
    simp [getNextCompleteMessage, active, first, assembles]
  refine ⟨front ++ [last], rest, mid.refreshAvailability port, held, ⟨front, last, rfl, flagged, final⟩, returns,
    ?_, ?_, ?_, flagged_refreshAvailability_self mid port⟩
  · rw [refreshAvailability_frame]
    exact consumed.held.trans (by rw [held, ← length, List.drop_left])
  · rw [refreshAvailability_frame, length]
    exact (congrFun consumed.current port).trans (Function.update_self ..)
  · intro other ne
    have turn : rx.availableMessages.begin? ≠ some other := by
      rw [first]
      exact fun same => ne (Option.some.inj same).symm
    exact (untouched_of_getNextCompleteMessage turn returns).1

/-- A message of one packet. -/
theorem assembler_agrees_one : ∃ message rest rx',
    TakesMessage (holding 0 [fragmentOf 0 0 0 false]) 5 message rest rx' := by
  refine assembler_agrees rfl (fun other => ?_) (by decide) ?_
  · rcases Classical.em (other = 5) with rfl | different
    · rfl
    · simp [holding, Buffer.held, different, PriorityQueue.empty]
  · simp [isCompleteMessageForPortAvailable_eq, scanComplete]

/-! ## Failing calls -/

/-- Packets with the expected numbers and more fragments to come are followed, within the size field, by one
with another number. -/
def Stumbles (c : UInt8) (queue : PriorityQueue S3tpPacket) : Prop :=
  ∃ k < queue.size.toNat,
    (∀ i < k, ∃ packet ∈ queue.nodes[i]?, packet.header.seqPort = c + UInt8.ofNat i ∧
      packet.header.moreFragments ≠ 0) ∧
    ∃ packet ∈ queue.nodes[k]?, packet.header.seqPort ≠ c + UInt8.ofNat k

/-- The head is the stray packet, or the queue behind it stumbles. -/
theorem stumbles_iff {c : UInt8} {queue queue' : PriorityQueue S3tpPacket} {packet : S3tpPacket}
    (nonempty : queue.isEmpty = false) (popped : queue.pop = some (packet, queue')) :
    Stumbles c queue ↔ packet.header.seqPort ≠ c ∨
      (packet.header.seqPort = c ∧ packet.header.moreFragments ≠ 0 ∧ Stumbles (c + 1) queue') := by
  obtain ⟨nodes, size⟩ := PriorityQueue.pop_eq_some popped
  have positive : queue.size.toNat ≠ 0 := by
    intro zero
    rw [PriorityQueue.isEmpty, UInt16.toNat_inj.mp (zero.trans UInt16.toNat_zero.symm)] at nonempty
    exact absurd nonempty (by decide)
  have rest : queue'.size.toNat + 1 = queue.size.toNat := by
    have bound := queue.size.toNat_lt
    rw [size, UInt16.toNat_sub, UInt16.toNat_one]
    omega
  have next (i : ℕ) : c + UInt8.ofNat (i + 1) = c + 1 + UInt8.ofNat i := by
    rw [UInt8.ofNat_succ, UInt8.add_assoc, UInt8.add_comm 1]
  rw [Stumbles, nodes]
  constructor
  · rintro ⟨k, within, passed, stray⟩
    cases k with
    | zero => exact .inl (by simpa using stray)
    | succ k =>
      have first : packet.header.seqPort = c ∧ packet.header.moreFragments ≠ 0 := by
        simpa using passed 0 (Nat.succ_pos k)
      refine .inr ⟨first.1, first.2, k, by omega, fun i below => ?_, ?_⟩
      · have later := passed (i + 1) (Nat.succ_lt_succ below)
        rw [next] at later
        simpa using later
      · rw [next] at stray
        simpa using stray
  · rintro (stray | ⟨number, flagged, k, within, passed, stray⟩)
    · exact ⟨0, by omega, fun i below => absurd below (Nat.not_lt_zero i), packet, rfl, by simpa using stray⟩
    · refine ⟨k + 1, by omega, fun i below => ?_, ?_⟩
      · cases i with
        | zero => exact ⟨packet, rfl, by simpa using number, flagged⟩
        | succ i =>
          rw [next]
          simpa using passed i (Nat.lt_of_succ_lt_succ below)
      · rw [next]
        simpa using stray

theorem stumbles_iff_of_getNextPacket {rx : RxModule} {port : UInt8} {packet : S3tpPacket} {inBuffer : Buffer}
    (popped : rx.inBuffer.getNextPacket rx.policy port = some (packet, inBuffer)) (c : UInt8) :
    Stumbles c (rx.inBuffer.queues port) ↔ packet.header.seqPort ≠ c ∨
      (packet.header.seqPort = c ∧ packet.header.moreFragments ≠ 0 ∧ Stumbles (c + 1) (inBuffer.queues port)) := by
  have nonempty : (rx.inBuffer.queues port).isEmpty = false := by
    by_contra empty
    rw [Bool.not_eq_false] at empty
    simp [Buffer.getNextPacket, Buffer.popPacketInternal, empty] at popped
  obtain ⟨-, queue, unlinked, rfl⟩ := Buffer.popPacketInternal_eq_some popped
  simp only [Function.update_self]
  exact stumbles_iff nonempty unlinked

/-- Behind a packet that is taken the loop goes on with what is left. -/
theorem stumbles_iff_afterTaking {rx : RxModule} {port : UInt8} {packet : S3tpPacket} {inBuffer : Buffer}
    (popped : rx.inBuffer.getNextPacket rx.policy port = some (packet, inBuffer))
    (number : packet.header.seqPort = rx.currentPortSequence port) (flagged : packet.header.moreFragments ≠ 0) :
    Stumbles (rx.currentPortSequence port) (rx.inBuffer.queues port) ↔
      Stumbles ((rx.afterTaking port inBuffer).currentPortSequence port)
        ((rx.afterTaking port inBuffer).inBuffer.queues port) := by
  have current : (rx.afterTaking port inBuffer).currentPortSequence port = rx.currentPortSequence port + 1 :=
    Function.update_self ..
  rw [stumbles_iff_of_getNextPacket popped, current]
  simp [number, flagged, afterTaking]

/-- A queue that stumbles has a packet to take. -/
theorem getNextPacket_of_stumbles {rx : RxModule} {port : UInt8} {c : UInt8}
    (stumbles : Stumbles c (rx.inBuffer.queues port)) :
    ∃ taken, rx.inBuffer.getNextPacket rx.policy port = some taken := by
  obtain ⟨k, within, passed, packet, held, -⟩ := stumbles
  have nonempty : (rx.inBuffer.queues port).isEmpty = false := by
    rw [PriorityQueue.isEmpty, beq_eq_false_iff_ne]
    rintro zero
    rw [zero] at within
    exact absurd within (Nat.not_lt_zero k)
  have valid (packet : S3tpPacket) : rx.policy.isElementValid packet = true := rfl
  cases nodes : (rx.inBuffer.queues port).nodes with
  | nil => simp [nodes] at held
  | cons head rest =>
    simp [Buffer.getNextPacket, Buffer.popPacketInternal, nonempty, PriorityQueue.peek, PriorityQueue.pop, nodes, valid]

/-- The loop fails exactly on a queue that stumbles, and then it leaves the mutex locked. -/
theorem assemble_fails {rx rx' : RxModule} {port : UInt8} {data : List UInt8} {len : UInt16} {delivery : Delivery}
    (assembles : rx.assemble port data len = some (delivery, rx')) :
    (delivery.error = codeSuccess ∧ ¬ Stumbles (rx.currentPortSequence port) (rx.inBuffer.queues port)) ∨
    (delivery.error ≠ codeSuccess ∧ Stumbles (rx.currentPortSequence port) (rx.inBuffer.queues port) ∧
      rx'.rxMutexHeld = true) := by
  fun_induction assemble rx port data len with
  | case1 => contradiction
  | case2 rx data len packet inBuffer popped unexpected =>
    obtain ⟨rfl, rfl⟩ := Prod.mk.inj (Option.some.inj assembles)
    have failed : codeErrorInconsistentState ≠ codeSuccess := by decide
    exact .inr ⟨failed, (stumbles_iff_of_getNextPacket popped _).mpr (.inl unexpected), rfl⟩
  | case3 rx data len packet inBuffer popped expected after data' len' final =>
    obtain ⟨rfl, rfl⟩ := Prod.mk.inj (Option.some.inj assembles)
    refine .inl ⟨rfl, ?_⟩
    rw [stumbles_iff_of_getNextPacket popped]
    rintro (unexpected | ⟨-, flagged, -⟩)
    · exact expected unexpected
    · exact flagged final
  | case4 rx data len packet inBuffer popped expected after data' len' flagged ih =>
    rw [stumbles_iff_afterTaking popped (not_not.mp expected) flagged]
    exact ih assembles

/-- On a queue that stumbles the loop returns. -/
theorem assemble_of_stumbles {rx : RxModule} {port : UInt8}
    (stumbles : Stumbles (rx.currentPortSequence port) (rx.inBuffer.queues port)) (data : List UInt8) (len : UInt16) :
    ∃ delivery rx', rx.assemble port data len = some (delivery, rx') := by
  fun_induction assemble rx port data len with
  | case1 rx data len none =>
    obtain ⟨taken, popped⟩ := getNextPacket_of_stumbles stumbles
    exact absurd (none.symm.trans popped) (Option.some_ne_none taken).symm
  | case2 rx data len packet inBuffer popped unexpected => exact ⟨_, _, rfl⟩
  | case3 rx data len packet inBuffer popped expected after data' len' final => exact ⟨_, _, rfl⟩
  | case4 rx data len packet inBuffer popped expected after data' len' flagged ih =>
    apply ih
    exact (stumbles_iff_afterTaking popped (not_not.mp expected) flagged).mp stumbles

/-- A loop that fails ends the call. -/
theorem getNextCompleteMessage_of_failed {rx rx' : RxModule} {port : UInt8} {delivery : Delivery}
    (active : rx.active = true) (first : rx.availableMessages.begin? = some port)
    (assembles : rx.assemble port [] 0 = some (delivery, rx')) (failed : delivery.error ≠ codeSuccess) :
    rx.getNextCompleteMessage = some (delivery, rx') := by
  simp [getNextCompleteMessage, active, first, assembles, failed]

/-- The call has released the mutex, counts no byte and has changed nothing, and nothing is forwarded for it. -/
structure LeavesIntact (s : Registry) (rx rx' : RxModule) (delivery : Delivery) : Prop where
  released : rx'.rxMutexHeld = false
  len : delivery.len = 0
  queues : rx'.inBuffer.queues = rx.inBuffer.queues
  expected : rx'.currentPortSequence = rx.currentPortSequence
  flags : rx'.availableMessages = rx.availableMessages
  silent : s.sendCall delivery = none

/-- The first flagged port of an active module does not stumble. Without one there is no client on port 0. -/
def ConsumesCleanly (s : Registry) (rx : RxModule) : Prop :=
  match rx.active, rx.availableMessages.begin? with
  | true, some port => ¬ Stumbles (rx.currentPortSequence port) (rx.inBuffer.queues port)
  | _, _ => ∀ address, s.clients 0 ≠ some (some address)

theorem sendCall_eq_none_iff (s : Registry) (delivery : Delivery) :
    s.sendCall delivery = none ↔ ∀ address, s.clients delivery.port ≠ some (some address) := by
  rw [Registry.sendCall, Option.map_eq_none_iff, Option.eq_none_iff_forall_ne_some]
  simp only [ne_eq, Option.join_eq_some_iff]

/-- A call that finds nothing to consume changes nothing, and its port is 0. -/
theorem leavesIntact_iff_of_idle (s : Registry) {rx : RxModule} (free : rx.rxMutexHeld = false) (error : ℤ) :
    LeavesIntact s rx rx ⟨none, 0, error, 0⟩ ↔ ∀ address, s.clients 0 ≠ some (some address) := by
  rw [← sendCall_eq_none_iff s ⟨none, 0, error, 0⟩]
  constructor
  · exact fun intact => intact.silent
  · exact fun silent => ⟨free, rfl, rfl, rfl, rfl, silent⟩

/-- A failing call leaves the receiver intact and forwards nothing if and only if the first flagged port does not
stumble, or there is none and no client on port 0. A call that finds the mutex locked for good does not return. -/
theorem failedConsumption_iff (s : Registry) (rx : RxModule) :
    (∀ delivery rx', rx.rxMutexHeld = false → rx.getNextCompleteMessage = some (delivery, rx') →
        delivery.error ≠ codeSuccess → LeavesIntact s rx rx' delivery) ↔
      (rx.rxMutexHeld = false → ConsumesCleanly s rx) := by
  rcases Bool.eq_false_or_eq_true rx.rxMutexHeld with held | free
  · simp [held]
  -- A call that is refused, or finds nothing flagged, has one outcome.
  have idle (error : ℤ) (failed : error ≠ codeSuccess)
      (returns : rx.getNextCompleteMessage = some (⟨none, 0, error, 0⟩, rx)) :
      (∀ delivery rx', rx.rxMutexHeld = false → rx.getNextCompleteMessage = some (delivery, rx') →
        delivery.error ≠ codeSuccess → LeavesIntact s rx rx' delivery) ↔
      ∀ address, s.clients 0 ≠ some (some address) := by
    rw [← leavesIntact_iff_of_idle s free error]
    constructor
    · exact fun intact => intact _ _ free returns failed
    · intro intact delivery rx' _ returned _
      obtain ⟨rfl, rfl⟩ := Prod.mk.inj (Option.some.inj (returns.symm.trans returned))
      exact intact
  rw [ConsumesCleanly]
  split
  · next port active first =>
    constructor
    · intro intact _ stumbles
      obtain ⟨delivery, mid, assembles⟩ := assemble_of_stumbles stumbles [] 0
      rcases assemble_fails assembles with ⟨-, steady⟩ | ⟨failed, -, locked⟩
      · exact steady stumbles
      · have returns := getNextCompleteMessage_of_failed active first assembles failed
        exact Bool.false_ne_true ((intact delivery mid free returns failed).released.symm.trans locked)
    · intro steady delivery rx' _ returns failed
      rcases getNextCompleteMessage_cases returns with ⟨-, -, silent⟩ | ⟨port', mid, -, first', assembles, -⟩
      · exact absurd (first.symm.trans (silent active)) (Option.some_ne_none port)
      · obtain rfl := Option.some.inj (first.symm.trans first')
        rcases assemble_fails assembles with ⟨success, -⟩ | ⟨-, stumbles, -⟩
        · exact absurd success failed
        · exact absurd stumbles (steady free)
  · next inactive =>
    rw [forall_prop_of_true free]
    cases active : rx.active with
    | false => exact idle moduleInactive (by decide) (by simp [getNextCompleteMessage, active])
    | true =>
      cases first : rx.availableMessages.begin? with
      | none => exact idle codeNoMessagesAvailable (by decide) (by simp [getNextCompleteMessage, active, first])
      | some port => exact absurd first (inactive port active)

/-- A stray packet is taken out and the mutex stays locked. With port 0 registered, even a call that finds nothing
to consume sends its client an empty message. -/
theorem not_failedConsumption :
    (∃ delivery rx', (holding 1 [fragmentOf 0 0 0 false]).getNextCompleteMessage = some (delivery, rx') ∧
      delivery.error = codeErrorInconsistentState ∧ rx'.rxMutexHeld = true ∧ rx'.inBuffer.held 5 = []) ∧
    ∃ delivery, (RxModule.startModule {}).getNextCompleteMessage = some (delivery, RxModule.startModule {}) ∧
      delivery.error = codeNoMessagesAvailable ∧
      ({ clients := ByteMap.empty.insert 0 (some 7) } : Registry).sendCall delivery = some ⟨7, none, 0⟩ := by
  refine ⟨?_, ⟨_, rfl, rfl, rfl⟩⟩
  have counted : ((holding 1 [fragmentOf 0 0 0 false]).inBuffer.queues 5).Counted := ⟨by decide, rfl⟩
  obtain ⟨inBuffer, popped, taken⟩ := consumed_one counted rfl
  have stray : (fragmentOf 0 0 0 false).header.seqPort ≠
      (holding 1 [fragmentOf 0 0 0 false]).currentPortSequence 5 := by
    simp
  have assembles := assemble_of_pop popped [] 0
  rw [if_pos stray] at assembles
  have first : (holding 1 [fragmentOf 0 0 0 false]).availableMessages.begin? = some 5 := by decide
  have active : (holding 1 [fragmentOf 0 0 0 false]).active = true := rfl
  exact ⟨_, _, getNextCompleteMessage_of_failed active first assembles (by decide), rfl, rfl, taken.held⟩

/-! ## The length of a message -/

/-- The delivery holds the bytes of the message, and the length that is returned and the one that is passed on
are their number. -/
structure ExactLength (message : List S3tpPacket) (delivery : Delivery) : Prop where
  success : delivery.error = codeSuccess
  data : delivery.data = some (assembled message)
  bytes : (assembled message).length = (message.map (·.header.getPduLength.toNat)).sum
  returned : delivery.len.toNat = (assembled message).length
  passed : ∀ (s : Registry) (call : SendCall), s.sendCall delivery = some call →
    call.data = some (assembled message) ∧ call.len.toNat = (assembled message).length

/-- Packets that hold their bytes are joined to as many as they hold. -/
theorem length_assembled {packets : List S3tpPacket}
    (whole : ∀ packet ∈ packets, packet.header.getPduLength.toNat ≤ packet.payload.length) :
    (assembled packets).length = (packets.map (·.header.getPduLength.toNat)).sum := by
  induction packets with
  | nil => rfl
  | cons packet rest ih =>
    obtain ⟨first, later⟩ := List.forall_mem_cons.mp whole
    rw [List.map_cons, List.sum_cons, ← ih later, assembled, List.flatMap_cons, List.length_append, S3tpPacket.pdu,
      List.length_take, min_eq_left first, assembled]

/-- The length of a complete message is exact if and only if it fits into 16 bits. -/
theorem exactLength_iff {rx : RxModule} {port : UInt8} {message rest : List S3tpPacket} (active : rx.active = true)
    (first : rx.availableMessages.begin? = some port) (counted : (rx.inBuffer.queues port).Counted)
    (held : rx.inBuffer.held port = message ++ rest) (complete : IsMessage (rx.currentPortSequence port) message)
    (whole : ∀ packet ∈ message, packet.header.getPduLength.toNat ≤ packet.payload.length) :
    (∃ delivery rx', rx.getNextCompleteMessage = some (delivery, rx') ∧ ExactLength message delivery) ↔
      (message.map (·.header.getPduLength.toNat)).sum < 2 ^ 16 := by
  obtain ⟨rx', returns, -⟩ := getNextCompleteMessage_of_message active first counted held complete
  have bytes := length_assembled whole
  have sum := toNat_lengthSum whole
  constructor
  · rintro ⟨delivery, after, returned, exact⟩
    obtain ⟨rfl, -⟩ := Prod.mk.inj (Option.some.inj (returns.symm.trans returned))
    have same := sum.symm.trans exact.returned
    rw [← bytes, ← same]
    exact Nat.mod_lt _ (by decide)
  · intro short
    have same : (lengthSum message).toNat = (assembled message).length := by
      rw [sum, bytes, Nat.mod_eq_of_lt short]
    refine ⟨_, _, returns, rfl, rfl, bytes, same, fun s call calls => ?_⟩
    obtain ⟨address, -, rfl⟩ := Option.map_eq_some_iff.mp calls
    exact ⟨rfl, same⟩

/-- The packets an idle module stamps for a payload of port 5 that counts its bytes. -/
def stampedFor (len : ℕ) : List S3tpPacket :=
  (idleModule.enqueueAll (fun _ tx => tx) 0 ((counting len).calls fun _ => default)).2.1

/-- They are a message from number 0 on, and carry the bytes of the payload's calls. -/
theorem isMessage_stampedFor (len : ℕ) : IsMessage 0 (stampedFor len) ∧
    (∀ packet ∈ stampedFor len, packet.header.getPduLength.toNat ≤ packet.payload.length) ∧
    (assembled (stampedFor len)).length = len := by
  have filled {call : EnqueueCall} (member : call ∈ (counting len).calls fun _ => default) := filled_of_mem_calls member
  have alone (pass : ℕ) (tx : TxModule) : ((fun _ tx => tx : ℕ → TxModule → TxModule) pass tx).active = tx.active := rfl
  obtain ⟨-, carried, numbered⟩ := enqueueAll_carries alone (fun _ _ => rfl)
    (fun call member => (filled member).1) idleModule 0 0 rfl rfl
  refine ⟨fragments_of_carries (n := 0) (indexed_calls (counting len) _) carried numbered,
    whole_of_carries carried fun call member => (filled member).2, ?_⟩
  exact (congrArg List.length (assembled_of_carries carried)).trans (length_content_calls (counting len) _)

theorem length_stampedFor {len : ℕ} (positive : 1 ≤ len) : (stampedFor len).length = fragmentCount len :=
  (length_enqueueAll _ idleModule 0 (enqueueAll_success (fun _ _ => rfl) idleModule 0 rfl)).trans
    (length_calls (counting len) _ positive)

theorem counted_holding {number : UInt8} {queue : List S3tpPacket} (short : queue.length < 2 ^ 16) :
    ((holding number queue).inBuffer.queues 5).Counted :=
  ⟨short, (UInt16.toNat_ofNat' ..).trans (Nat.mod_eq_of_lt short)⟩

theorem begin?_holding (number : UInt8) (queue : List S3tpPacket) :
    (holding number queue).availableMessages.begin? = some 5 := by
  have flagged : (ByteMap.empty.insert 5 1 : ByteMap UInt8).begin? = some 5 := by decide
  exact flagged

/-- The length of a message of 993 bytes is exact. -/
theorem exactLength_993 : ∃ delivery rx',
    (holding 0 (stampedFor 993)).getNextCompleteMessage = some (delivery, rx') ∧
      ExactLength (stampedFor 993) delivery := by
  obtain ⟨complete, whole, bytes⟩ := isMessage_stampedFor 993
  have short : (stampedFor 993).length < 2 ^ 16 := by
    rw [length_stampedFor (by decide)]
    decide
  have held : (holding 0 (stampedFor 993)).inBuffer.held 5 = stampedFor 993 ++ [] := by
    rw [holding_held, List.append_nil]
  refine (exactLength_iff rfl (begin?_holding 0 _) (counted_holding short) held complete whole).mpr ?_
  rw [← length_assembled whole, bytes]
  decide

/-- 65536 bytes in 67 fragments are returned with length 0, and their client is sent that length. -/
theorem not_exactLength : ∃ delivery rx',
    (holding 0 (stampedFor 65536)).getNextCompleteMessage = some (delivery, rx') ∧ delivery.error = codeSuccess ∧
      delivery.data.map List.length = some 65536 ∧ delivery.len = 0 ∧
      ({ clients := ByteMap.empty.insert 5 (some 7) } : Registry).sendCall delivery = some ⟨7, delivery.data, 0⟩ := by
  obtain ⟨complete, whole, bytes⟩ := isMessage_stampedFor 65536
  have short : (stampedFor 65536).length < 2 ^ 16 := by
    rw [length_stampedFor (by decide)]
    decide
  have held : (holding 0 (stampedFor 65536)).inBuffer.held 5 = stampedFor 65536 ++ [] := by
    rw [holding_held, List.append_nil]
  obtain ⟨rx', returns, -⟩ :=
    getNextCompleteMessage_of_message rfl (begin?_holding 0 _) (counted_holding short) held complete
  have len : lengthSum (stampedFor 65536) = 0 := by
    rw [← UInt16.toNat_inj, toNat_lengthSum whole, bytes]
    rfl
  refine ⟨_, _, returns, rfl, congrArg some bytes, len, ?_⟩
  simp [Registry.sendCall, len]

end S3tp.Soundness
