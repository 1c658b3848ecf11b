import S3tp.Machine.Run
import S3tp.Model.Core.BufferMaps
import Mathlib.Data.Multiset.AddSub

/-! # Conservation of packets in a buffer

Whatever the policy answers, a packet that is written is returned once, is linked in the queue of its own port, or has
been discarded with that queue. This holds for every sequence of calls in which no queue is cleared that is a null
pointer: asking for a packet of a port that nothing has been written to leaves one behind, and clearing that port's
queue follows it.
-/

namespace S3tp.Soundness

open Model.Core Machine

variable {π : Type}

/-- The calls of a buffer, each with the answers the policy gives during it. -/
inductive MapsEvent (π : Type) where
  | write (policy : PolicyActor π) (packet : π)
  | getNextPacket (policy : PolicyActor π) (port : ℤ)
  | getNextAvailablePacket (policy : PolicyActor π)
  | clearQueueForPort (port : UInt8)
  | clear

def mapsStep (getPort : π → UInt8) (b : BufferMaps π) : MapsEvent π → Option (BufferMaps π)
  | .write policy packet => b.write getPort policy packet
  | .getNextPacket policy port => (b.getNextPacket policy port).map Prod.snd
  | .getNextAvailablePacket policy => (b.getNextAvailablePacket policy).map Prod.snd
  | .clearQueueForPort port => b.clearQueueForPort port
  | .clear => some b.clear

/-- What a call returns. -/
def packetReturned (b : BufferMaps π) : MapsEvent π → Option π
  | .getNextPacket policy port => (b.getNextPacket policy port).bind Prod.fst
  | .getNextAvailablePacket policy => (b.getNextAvailablePacket policy).bind Prod.fst
  | _ => none

/-- The packets written, returned and discarded, each under the port in its header. -/
structure PacketHistory (π : Type) where
  written : ℤ → Multiset π := fun _ => 0
  returned : ℤ → Multiset π := fun _ => 0
  discarded : ℤ → Multiset π := fun _ => 0

/-- The packets a call discards. -/
def packetsDiscarded (getPort : π → UInt8) (b : BufferMaps π) (event : MapsEvent π) (port : ℤ) : List π :=
  match event with
  | .write policy packet =>
    if port = portKey (getPort packet) ∧ BufferMaps.exceeded (b.queueAt port) policy packet = some true then
      b.linked port
    else []
  | .clearQueueForPort cleared => if port = portKey cleared then b.linked port else []
  | .clear => b.linked port
  | _ => []

/-- The packets under a port. -/
def underPort (getPort : π → UInt8) (packets : List π) (port : ℤ) : Multiset π :=
  packets.filter fun packet => portKey (getPort packet) = port

def packetsWritten : MapsEvent π → List π
  | .write _ packet => [packet]
  | _ => []

def rememberPackets (getPort : π → UInt8) (b : BufferMaps π) (event : MapsEvent π) (history : PacketHistory π) :
    PacketHistory π where
  written port := history.written port + underPort getPort (packetsWritten event) port
  returned port := history.returned port + underPort getPort (packetReturned b event).toList port
  discarded port := history.discarded port + packetsDiscarded getPort b event port

/-- Of the packets written for a port, each is returned, linked in the port's queue or discarded, and once only. -/
structure Conserved (getPort : π → UInt8) (b : BufferMaps π) (history : PacketHistory π) : Prop where
  balance : ∀ port, history.written port = history.returned port + b.linked port + history.discarded port
  own : ∀ port, ∀ packet ∈ b.linked port, portKey (getPort packet) = port

/-- The call does not clear a queue that is a null pointer. -/
def NotNull (b : BufferMaps π) : MapsEvent π → Prop
  | .clearQueueForPort port => b.queues.lookup (portKey port) ≠ some none
  | _ => True

instance (b : BufferMaps π) (event : MapsEvent π) : Decidable (NotNull b event) :=
  match event with
  | .clearQueueForPort port =>
    match null : b.queues.lookup (portKey port) with
    | some none => isFalse fun notNull => notNull null
    | none => isTrue fun other => nomatch null.symm.trans other
    | some (some _) => isTrue fun other => nomatch null.symm.trans other
  | .write _ _ | .getNextPacket _ _ | .getNextAvailablePacket _ | .clear => isTrue trivial

/-- At most one packet leaves the queue of the port, a head the policy lets go. -/
def TakesHead (policy : PolicyActor π) (port : ℤ) (b b' : BufferMaps π) (result : Option π) : Prop :=
  b.linked port = result.toList ++ b'.linked port ∧ ∀ packet ∈ result, policy.isElementValid packet = true

/-- A call leaves the queues and counters of other ports alone. A write discards a queue only if its head is outside
the window of the new packet. -/
def Localized (getPort : π → UInt8) (b b' : BufferMaps π) : MapsEvent π → Prop
  | .write policy packet => b.UnchangedBut (portKey (getPort packet)) b' ∧
    ((b'.linked (portKey (getPort packet))).Perm (packet :: b.linked (portKey (getPort packet))) ∨
      (b'.linked (portKey (getPort packet)) = [packet] ∧
        ∃ head ∈ (b.linked (portKey (getPort packet))).head?, policy.maximumWindowExceeded head packet = true))
  | .getNextPacket policy port => b.UnchangedBut port b' ∧
    TakesHead policy port b b' (packetReturned b (.getNextPacket policy port))
  | .getNextAvailablePacket policy => ∃ port, b.UnchangedBut port b' ∧
    TakesHead policy port b b' (packetReturned b (.getNextAvailablePacket policy))
  | .clearQueueForPort port => b.UnchangedBut (portKey port) b' ∧ b'.linked (portKey port) = []
  | .clear => b' = {}

/-! ## One call -/

/-- Nothing is lost or made up by a call. -/
structure PacketsBalanced (getPort : π → UInt8) (b b' : BufferMaps π) (event : MapsEvent π) : Prop where
  balance : ∀ port, b.linked port + underPort getPort (packetsWritten event) port =
    underPort getPort (packetReturned b event).toList port + b'.linked port + packetsDiscarded getPort b event port
  own : ∀ port, ∀ packet ∈ b'.linked port, portKey (getPort packet) = port

section Calls

variable {getPort : π → UInt8} {b b' : BufferMaps π} {policy : PolicyActor π} {port : ℤ}

@[simp] theorem underPort_nil (port : ℤ) : underPort getPort [] port = 0 := rfl

theorem underPort_singleton (packet : π) (port : ℤ) :
    underPort getPort [packet] port = if portKey (getPort packet) = port then {packet} else 0 := by
  rw [underPort, List.filter_singleton]
  by_cases same : portKey (getPort packet) = port <;> simp [same]

/-- What a pop takes and what it leaves. -/
theorem balance_of_popped {result : Option π} (own : ∀ port, ∀ packet ∈ b.linked port, portKey (getPort packet) = port)
    (popped : b.Popped policy port result b') (other : ℤ) :
    (b.linked other : Multiset π) = underPort getPort result.toList other + b'.linked other := by
  have head := popped.linked_eq.1
  rcases Classical.em (other = port) with rfl | different
  · rw [head]
    cases result with
    | none => simp
    | some packet =>
      have ofPort : portKey (getPort packet) = other := own other packet (by simp [head])
      rw [Option.toList_some, underPort_singleton, if_pos ofPort]
      rfl
  · rw [popped.unchangedBut.linked_eq different]
    cases result with
    | none => simp
    | some packet =>
      have ofPort : portKey (getPort packet) = port := own port packet (by simp [head])
      rw [Option.toList_some, underPort_singleton, if_neg (by rw [ofPort]; exact Ne.symm different), zero_add]

theorem own_of_popped {result : Option π} (own : ∀ port, ∀ packet ∈ b.linked port, portKey (getPort packet) = port)
    (popped : b.Popped policy port result b') (other : ℤ) (packet : π) (member : packet ∈ b'.linked other) :
    portKey (getPort packet) = other := by
  refine own other packet ?_
  rcases Classical.em (other = port) with rfl | different
  · rw [popped.linked_eq.1]
    exact List.mem_append_right _ member
  · rwa [← popped.unchangedBut.linked_eq different]

theorem write_conserves (wellFormed : b.WellFormed)
    (own : ∀ port, ∀ packet ∈ b.linked port, portKey (getPort packet) = port) (policy : PolicyActor π) (packet : π) :
    ∃ b', b.write getPort policy packet = some b' ∧ b'.WellFormed ∧ Localized getPort b b' (.write policy packet) ∧
      PacketsBalanced getPort b b' (.write policy packet) := by
  have perm : (b.extended policy (portKey (getPort packet)) packet).nodes.Perm
      (packet :: (b.kept policy (portKey (getPort packet)) packet).nodes) := List.insertFromTail_perm _ packet _
  refine ⟨_, wellFormed.write_eq getPort policy packet, wellFormed.count (wellFormed.size_extended policy _ packet),
    ⟨BufferMaps.unchangedBut_count, ?_⟩, fun port => ?_, ?_⟩
  · rw [BufferMaps.linked_count]
    rcases wellFormed.exceeded_eq policy (portKey (getPort packet)) packet with keeps | ⟨clears, exceeded⟩
    · exact .inl (by simpa [BufferMaps.kept, keeps, BufferMaps.linked] using perm)
    · refine .inr ⟨?_, exceeded⟩
      rw [BufferMaps.extended, BufferMaps.kept, if_pos clears]
      rfl
  · rcases Classical.em (port = portKey (getPort packet)) with rfl | different
    · rw [BufferMaps.linked_count, Multiset.coe_eq_coe.mpr perm, packetsWritten, underPort_singleton, if_pos rfl]
      by_cases clears : BufferMaps.exceeded (b.queueAt (portKey (getPort packet))) policy packet = some true
      · simp [BufferMaps.kept, clears, packetReturned, packetsDiscarded, PriorityQueue.empty, add_comm]
      · simp [BufferMaps.kept, clears, packetReturned, packetsDiscarded, BufferMaps.linked, add_comm]
    · rw [BufferMaps.unchangedBut_count.linked_eq different, packetsWritten, underPort_singleton,
        if_neg (Ne.symm different)]
      simp [packetReturned, packetsDiscarded, different]
  · intro port other member
    rcases Classical.em (port = portKey (getPort packet)) with rfl | different
    · rw [BufferMaps.linked_count, perm.mem_iff] at member
      rcases List.mem_cons.mp member with rfl | kept
      · rfl
      · rw [BufferMaps.kept] at kept
        split at kept
        · simp [PriorityQueue.empty] at kept
        · exact own _ other kept
    · rw [BufferMaps.unchangedBut_count.linked_eq different] at member
      exact own port other member

/-- Every call that clears no null pointer goes through, stays with its port and conserves the packets. -/
theorem call_conserves (wellFormed : b.WellFormed)
    (own : ∀ port, ∀ packet ∈ b.linked port, portKey (getPort packet) = port) {event : MapsEvent π}
    (notNull : NotNull b event) : ∃ b', mapsStep getPort b event = some b' ∧ b'.WellFormed ∧
      Localized getPort b b' event ∧ PacketsBalanced getPort b b' event := by
  cases event with
  | write policy packet => exact write_conserves wellFormed own policy packet
  | getNextPacket policy port =>
    obtain ⟨result, b', stepped, popped⟩ := wellFormed.popped policy port
    have taken : b.getNextPacket policy port = some (result, b') := stepped
    have returned : packetReturned b (.getNextPacket policy port) = result := by simp [packetReturned, taken]
    refine ⟨b', by simp [mapsStep, taken], popped.wellFormed wellFormed, ⟨popped.unchangedBut, ?_⟩, fun other => ?_,
      own_of_popped own popped⟩
    · rw [returned]
      exact popped.linked_eq
    · rw [returned, balance_of_popped own popped other]
      simp [packetsWritten, packetsDiscarded]
  | getNextAvailablePacket policy =>
    obtain ⟨result, b', stepped, taken⟩ := wellFormed.getNextAvailablePacket_eq policy
    have returned : packetReturned b (.getNextAvailablePacket policy) = result := by simp [packetReturned, stepped]
    refine ⟨b', by simp [mapsStep, stepped], ?_⟩
    rcases taken with ⟨rfl, rfl⟩ | ⟨port, head, rfl, popped⟩
    · refine ⟨wellFormed, ⟨0, fun _ _ => ⟨rfl, rfl⟩, ?_⟩, fun other => ?_, own⟩
      · rw [returned]
        exact ⟨rfl, nofun⟩
      · rw [returned]
        simp [packetsWritten, packetsDiscarded]
    · refine ⟨popped.wellFormed wellFormed, ⟨port, popped.unchangedBut, ?_⟩, fun other => ?_, own_of_popped own popped⟩
      · rw [returned]
        exact popped.linked_eq
      · rw [returned, balance_of_popped own popped other]
        simp [packetsWritten, packetsDiscarded]
  | clearQueueForPort port =>
    obtain ⟨b', stepped⟩ := Option.ne_none_iff_exists'.mp (mt BufferMaps.clearQueueForPort_eq_none_iff.mp notNull)
    have unchanged := BufferMaps.unchangedBut_clearQueueForPort stepped
    obtain ⟨after, empty⟩ := wellFormed.clearQueueForPort stepped
    refine ⟨b', stepped, after, ⟨unchanged, empty⟩, fun other => ?_, fun other packet member => ?_⟩
    · rcases Classical.em (other = portKey port) with rfl | different
      · simp [empty, packetsWritten, packetReturned, packetsDiscarded]
      · rw [unchanged.linked_eq different]
        simp [packetsWritten, packetReturned, packetsDiscarded, different]
    · rcases Classical.em (other = portKey port) with rfl | different
      · simp [empty] at member
      · rw [unchanged.linked_eq different] at member
        exact own other packet member
  | clear =>
    have empty (port : ℤ) : b.clear.linked port = [] := by
      simp [BufferMaps.clear, BufferMaps.linked, BufferMaps.queueAt, PriorityQueue.empty]
    refine ⟨_, rfl, BufferMaps.wellFormed_empty, rfl, fun other => ?_, fun other packet member => ?_⟩
    · rw [empty]
      simp [packetsWritten, packetReturned, packetsDiscarded]
    · simp [empty] at member

end Calls

/-! ## Sequences of calls -/

/-- A call goes through exactly if it clears no null pointer, and then it keeps to its port. -/
def CallsKeep (getPort : π → UInt8) (b : BufferMaps π) : Prop :=
  ∀ event, ((∃ b', mapsStep getPort b event = some b') ↔ NotNull b event) ∧
    ∀ b', mapsStep getPort b event = some b' → Localized getPort b b' event

theorem notNull_of_step {getPort : π → UInt8} {b : BufferMaps π} {event : MapsEvent π}
    (stepped : ∃ b', mapsStep getPort b event = some b') : NotNull b event := by
  cases event with
  | clearQueueForPort port =>
    obtain ⟨b', stepped⟩ := stepped
    intro null
    rw [mapsStep, BufferMaps.clearQueueForPort_eq_none_iff.mpr null] at stepped
    contradiction
  | _ => trivial

/-- Packets are conserved in every sequence of calls that clears no null pointer. -/
theorem conserved_of_notNull {getPort : π → UInt8} {events : List (MapsEvent π)} {b : BufferMaps π}
    {history : PacketHistory π}
    (run : Run (recorded (mapsStep getPort) (rememberPackets getPort)) (fun state => NotNull state.1) ({}, {}) events
      (b, history)) : Conserved getPort b history ∧ CallsKeep getPort b := by
  have kept : b.WellFormed ∧ Conserved getPort b history := by
    refine run.invariant (P := fun state => state.1.WellFormed ∧ Conserved getPort state.1 state.2) ?_
      ⟨BufferMaps.wellFormed_empty, fun port => rfl, nofun⟩
    rintro ⟨b, history⟩ event ⟨b', history'⟩ ⟨wellFormed, conserved⟩ notNull stepped
    obtain ⟨stepped, rfl⟩ := recorded_eq_some_iff.mp stepped
    obtain ⟨next, stepped', after, -, balanced⟩ := call_conserves wellFormed conserved.own notNull
    obtain rfl := Option.some.inj (stepped.symm.trans stepped')
    refine ⟨after, fun port => ?_, balanced.own⟩
    calc history.written port + underPort getPort (packetsWritten event) port
        = history.returned port + (b.linked port + underPort getPort (packetsWritten event) port) +
          history.discarded port := by rw [conserved.balance port]; ac_rfl
      _ = history.returned port + (underPort getPort (packetReturned b event).toList port + b'.linked port +
          packetsDiscarded getPort b event port) + history.discarded port := by rw [balanced.balance port]
      _ = history.returned port + underPort getPort (packetReturned b event).toList port + b'.linked port +
          (history.discarded port + packetsDiscarded getPort b event port) := by ac_rfl
  obtain ⟨wellFormed, conserved⟩ := kept
  refine ⟨conserved, fun event => ⟨⟨notNull_of_step, fun notNull => ?_⟩, fun b' stepped => ?_⟩⟩
  · obtain ⟨b', stepped, -⟩ := call_conserves wellFormed conserved.own notNull
    exact ⟨b', stepped⟩
  · obtain ⟨next, stepped', -, localized, -⟩ := call_conserves wellFormed conserved.own (notNull_of_step ⟨b', stepped⟩)
    obtain rfl := Option.some.inj (stepped.symm.trans stepped')
    exact localized

/-- Nothing has priority, every packet may leave, and no window is exceeded. -/
def indifferent : PolicyActor UInt8 where
  comparePriority _ _ := -1
  isElementValid _ := true
  maximumWindowExceeded _ _ := false

/-- A packet of port 6 is written and returned, and the queue of the port is cleared. -/
def packetBack : List (MapsEvent UInt8) :=
  [.write indifferent 6, .getNextAvailablePacket indifferent, .clearQueueForPort 6]

theorem conserved_of_notNull_returnedOnce : ∃ (b : BufferMaps UInt8) (history : PacketHistory UInt8),
    Conserved id b history ∧ history.written 6 = {6} ∧ history.returned 6 = {6} := by
  have computed : ((packetBack.foldlM (fun (state : BufferMaps UInt8 × PacketHistory UInt8) event =>
      if NotNull state.1 event then recorded (mapsStep id) (rememberPackets id) state event else none) ({}, {})).map
      fun state => (state.2.written 6, state.2.returned 6)) = some ({6}, {6}) := by
    decide +kernel
  obtain ⟨⟨b, history⟩, reached, histories⟩ := Option.map_eq_some_iff.mp computed
  obtain ⟨written, returned⟩ := Prod.mk.inj histories
  exact ⟨b, history, (conserved_of_notNull (Run.iff_foldlM.mpr reached)).1, written, returned⟩

/-- A packet of port 6 is written, port 5 is asked for one, and its queue is cleared. -/
def nullCleared : List (MapsEvent UInt8) :=
  [.write indifferent 6, .getNextPacket indifferent 5, .clearQueueForPort 5]

/-- Clearing the queue of a port that was only asked for a packet follows a null pointer. -/
theorem not_conserved : ¬ ∀ events : List (MapsEvent UInt8), ∃ (b : BufferMaps UInt8) (history : PacketHistory UInt8),
    Run (recorded (mapsStep id) (rememberPackets id)) Always ({}, {}) events (b, history) ∧
      Conserved id b history := by
  intro always
  obtain ⟨b, history, run, -⟩ := always nullCleared
  have stuck : (nullCleared.foldlM (recorded (mapsStep id) (rememberPackets id)) ({}, {})).isSome = false := by
    decide +kernel
  rw [Run.always_iff.mp run] at stuck
  contradiction

end S3tp.Soundness
