import S3tp.Model.Core.Window
import S3tp.Model.Concurrent.RxThreads

/-! # What may come before a consumption or after it

A consumption takes packets from the queue of one port. A packet that is written for another port, the flag that port is
given, ports that are opened or closed and the count of the window may as well come before it as after it.
-/

namespace S3tp.Model.Core

namespace Buffer

/-- What is taken from a port, and the queue that is left. -/
theorem popPacketInternal_eq_map (b : Buffer) (policy : PolicyActor S3tpPacket) (port : UInt8) :
    b.popPacketInternal policy port =
      ((if (b.queues port).isEmpty then none
        else (b.queues port).peek.bind fun head =>
          if policy.isElementValid head then (b.queues port).pop else none).map fun (packet, queue) =>
        (packet, ⟨Function.update b.queues port queue, if queue.isEmpty then b.packetCounter.erase port
          else b.packetCounter.insert port queue.getSize.toNat⟩)) := by
  simp only [popPacketInternal]
  split
  · rfl
  cases (b.queues port).peek with
  | none => rfl
  | some head =>
    simp only [Option.bind_eq_bind, Option.bind_some]
    split
    · cases (b.queues port).pop <;> rfl
    · rfl

/-- A write for another port leaves to be taken what was to be taken, and may come after it. -/
theorem popPacketInternal_write (b : Buffer) (policy policy' : PolicyActor S3tpPacket) {packet : S3tpPacket}
    {port : UInt8} (ne : port ≠ packet.getPort) (window : policy'.maximumWindowExceeded = policy.maximumWindowExceeded)
    (alike : ∀ ref ∈ b.held packet.getPort, policy'.comparePriority ref packet = policy.comparePriority ref packet) :
    (b.write policy packet).popPacketInternal policy port =
      (b.popPacketInternal policy port).map fun (taken, next) => (taken, next.write policy' packet) := by
  rw [popPacketInternal_eq_map, popPacketInternal_eq_map, queues_write_of_ne b policy ne, Option.map_map]
  congr 1
  funext popped
  obtain ⟨taken, queue⟩ := popped
  have exceeded (counter : ByteMap ℕ) : (⟨Function.update b.queues port queue, counter⟩ : Buffer).windowExceeded policy'
      packet = b.windowExceeded policy packet := by
    simp [windowExceeded, Function.update_of_ne ne.symm, window]
  have linked : (b.held packet.getPort).insertFromTail
      (fun ref new => decide (policy'.comparePriority ref new < 0)) packet =
        (b.held packet.getPort).insertFromTail (fun ref new => decide (policy.comparePriority ref new < 0)) packet :=
    List.insertFromTail_congr _ _ fun ref member => by rw [alike ref member]
  simp only [held] at linked
  simp only [Function.comp_apply, Prod.mk.injEq, true_and, write, exceeded]
  cases b.windowExceeded policy packet with
  | true =>
    simp only [if_true, PriorityQueue.push_eq, clearQueueForPort, Function.update_self, PriorityQueue.clear,
      PriorityQueue.empty, List.insertFromTail_nil]
    split <;> simp only [ByteMap.insert, ByteMap.erase, Function.update_comm ne, Function.update_idem]
  | false =>
    simp only [Bool.false_eq_true, if_false, PriorityQueue.push_eq, Function.update_of_ne ne.symm, linked]
    split <;> simp only [ByteMap.insert, ByteMap.erase, Function.update_comm ne]

end Buffer

namespace RxModule

/-- Whether `w` happens to the module before the port's packets are taken or after, it comes to the same. -/
structure PassesTaking (good : RxModule → Prop) (w : RxModule → RxModule) (port : UInt8) : Prop where
  expected rx : (w rx).currentPortSequence port = rx.currentPortSequence port
  empties rx : rx.inBuffer.getNextPacket rx.policy port = none →
    (w rx).inBuffer.getNextPacket (w rx).policy port = none
  takes rx pkt inBuffer : good rx → rx.inBuffer.getNextPacket rx.policy port = some (pkt, inBuffer) →
    ∃ inBuffer', (w rx).inBuffer.getNextPacket (w rx).policy port = some (pkt, inBuffer') ∧
      { w rx with inBuffer := inBuffer', rxMutexHeld := true } = w { rx with inBuffer, rxMutexHeld := true } ∧
      (w rx).afterTaking port inBuffer' = w (rx.afterTaking port inBuffer) ∧ good (rx.afterTaking port inBuffer)

theorem assemble_of_empty {rx : RxModule} {port : UInt8} (nothing : rx.inBuffer.getNextPacket rx.policy port = none)
    (data : List UInt8) (len : UInt16) : rx.assemble port data len = none := by
  rw [assemble]
  split
  · rfl
  · next popped => simp [nothing] at popped

theorem PassesTaking.assemble {good : RxModule → Prop} {w : RxModule → RxModule} {port : UInt8}
    (passes : PassesTaking good w port) (rx : RxModule) (data : List UInt8) (len : UInt16) (holds : good rx) :
    (w rx).assemble port data len = (rx.assemble port data len).map (Prod.map id w) := by
  fun_induction RxModule.assemble rx port data len with
  | case1 rx data len nothing => rw [assemble_of_empty (passes.empties rx nothing), Option.map_none]
  | case2 rx data len pkt inBuffer popped unexpected =>
    obtain ⟨inBuffer', taken, fails, -, -⟩ := passes.takes rx pkt inBuffer holds popped
    rw [assemble_of_pop taken, if_pos (by rwa [passes.expected]), fails]
    rfl
  | case3 rx data len pkt inBuffer popped expected after data' len' final =>
    obtain ⟨inBuffer', taken, -, takes, -⟩ := passes.takes rx pkt inBuffer holds popped
    rw [assemble_of_pop taken, if_neg (by rwa [passes.expected]), if_pos final, takes]
    rfl
  | case4 rx data len pkt inBuffer popped expected after data' len' flagged ih =>
    obtain ⟨inBuffer', taken, -, takes, holds⟩ := passes.takes rx pkt inBuffer holds popped
    rw [assemble_of_pop taken, if_neg (by rwa [passes.expected]), if_neg flagged, takes]
    exact ih holds

/-- The message of the first flagged port is taken before or after. -/
theorem PassesTaking.takeFirst {good : RxModule → Prop} {w : RxModule → RxModule} {port : UInt8}
    (passes : PassesTaking good w port) {rx : RxModule} (holds : good rx)
    (first : rx.availableMessages.begin? = some port) (first' : (w rx).availableMessages.begin? = some port)
    (refresh : ∀ rx, (w rx).refreshAvailability port = w (rx.refreshAvailability port)) :
    (w rx).takeFirst = rx.takeFirst.map (Prod.map id w) := by
  simp only [RxModule.takeFirst, first, first', passes.assemble rx [] 0 holds, Option.map_map]
  congr 1
  funext result
  obtain ⟨delivery, after⟩ := result
  simp only [Function.comp_apply, Prod.map_apply, id_eq, refresh]
  split <;> rfl

/-! ## Ports and the window -/

/-- The module with other ports open. -/
def withPorts (rx : RxModule) (openPorts : ByteMap UInt8) : RxModule := { rx with openPorts }

theorem takeFirst_withPorts (rx : RxModule) (openPorts : ByteMap UInt8) :
    (rx.withPorts openPorts).takeFirst = rx.takeFirst.map (Prod.map id fun rx => rx.withPorts openPorts) := by
  cases first : rx.availableMessages.begin? with
  | none => simp [RxModule.takeFirst, withPorts, first]
  | some port =>
    have passes : PassesTaking (fun _ => True) (fun rx => rx.withPorts openPorts) port :=
      { expected := fun _ => rfl
        empties := fun _ nothing => nothing
        takes := fun _ _ inBuffer _ popped => ⟨inBuffer, popped, rfl, rfl, trivial⟩ }
    refine passes.takeFirst trivial first first fun rx => ?_
    rw [refreshAvailability_frame, refreshAvailability_frame]
    rfl

/-- The window update by a packet that does not fill the window. -/
def count (rx : RxModule) (packet : S3tpPacket) : RxModule :=
  { rx with lastReceivedGlobalSeq := rx.newestGlobalSeq packet, receivingWindow := rx.receivingWindow + 1 }

/-- A packet may be counted before or after a message is taken. -/
theorem takeFirst_count (rx : RxModule) (packet : S3tpPacket) :
    (rx.count packet).takeFirst = rx.takeFirst.map (Prod.map id fun rx => rx.count packet) := by
  cases first : rx.availableMessages.begin? with
  | none => simp [RxModule.takeFirst, count, first]
  | some port =>
    have passes : PassesTaking (fun _ => True) (fun rx => rx.count packet) port :=
      { expected := fun _ => rfl
        empties := fun _ nothing => nothing
        takes := fun _ _ inBuffer _ popped => ⟨inBuffer, popped, rfl, rfl, trivial⟩ }
    refine passes.takeFirst trivial first first fun rx => ?_
    rw [refreshAvailability_frame, refreshAvailability_frame]
    rfl

theorem updateWindow_withPorts (rx : RxModule) (packet : S3tpPacket) (openPorts : ByteMap UInt8) :
    (rx.withPorts openPorts).updateWindow packet = (rx.updateWindow packet).withPorts openPorts := by
  rcases Nat.lt_or_ge (rx.receivingWindow + 1).toNat 128 with room | full
  · rw [updateWindow_of_lt rx packet room, updateWindow_of_lt (rx.withPorts openPorts) packet room]
    rfl
  · rw [updateWindow_of_ge rx packet full, updateWindow_of_ge (rx.withPorts openPorts) packet full]
    rfl

/-! ## A packet for another port -/

section Elsewhere

variable {packet : S3tpPacket} {port : UInt8}

/-- Whatever is queued for the port of the packet is a packet of that port. -/
def OwnQueue (packet : S3tpPacket) (rx : RxModule) : Prop :=
  ∀ ref ∈ rx.inBuffer.held packet.getPort, ref.getPort = packet.getPort

theorem passesTaking_writePacket (ne : port ≠ packet.getPort) :
    PassesTaking (OwnQueue packet) (fun rx => rx.writePacket packet) port where
  expected _ := rfl
  empties rx nothing := by
    have written := Buffer.popPacketInternal_write rx.inBuffer rx.policy rx.policy ne rfl fun _ _ => rfl
    rw [show rx.inBuffer.popPacketInternal rx.policy port = none from nothing] at written
    exact written
  takes rx pkt inBuffer own popped := by
    have same : rx.inBuffer.popPacketInternal rx.policy port = some (pkt, inBuffer) := popped
    have before := Buffer.popPacketInternal_write rx.inBuffer rx.policy rx.policy ne rfl fun _ _ => rfl
    have after := Buffer.popPacketInternal_write rx.inBuffer rx.policy (rx.afterTaking port inBuffer).policy ne rfl
      fun ref member => by
        have other : ref.getPort ≠ port := own ref member ▸ ne.symm
        simp [policy, comparePriority, comparePortSequence, afterTaking, Function.update_of_ne other]
    rw [same, Option.map_some] at before after
    have written := (Prod.mk.inj (Option.some.inj (before.symm.trans after))).2
    refine ⟨inBuffer.write rx.policy packet, before, rfl, ?_, fun ref member => own ref ?_⟩
    · simp only [writePacket, afterTaking] at written ⊢
      rw [written]
    · have queue := (Buffer.held_of_popPacketInternal same).2 packet.getPort ne.symm
      simpa [afterTaking, Buffer.held, queue] using member

theorem refreshAvailability_writePacket (ne : port ≠ packet.getPort) (rx : RxModule) :
    (rx.writePacket packet).refreshAvailability port = (rx.refreshAvailability port).writePacket packet := by
  have found : (rx.writePacket packet).isCompleteMessageForPortAvailable port =
      rx.isCompleteMessageForPortAvailable port := by
    rw [isCompleteMessageForPortAvailable_eq, writePacket, Buffer.held_write_of_ne _ _ ne]
    rfl
  rw [refreshAvailability_frame, refreshAvailability_frame rx, found]
  rfl

/-- A packet for another port may be written before or after the first flagged message is taken. -/
theorem takeFirst_writePacket {rx : RxModule} (own : OwnQueue packet rx)
    (first : rx.availableMessages.begin? = some port) (ne : port ≠ packet.getPort) :
    (rx.writePacket packet).takeFirst = rx.takeFirst.map (Prod.map id fun rx => rx.writePacket packet) :=
  (passesTaking_writePacket ne).takeFirst own first first (refreshAvailability_writePacket ne)

/-! ## The flag of another port -/

variable {other : UInt8}

theorem passesTaking_notifyIfComplete (ne : port ≠ other) :
    PassesTaking (fun _ => True) (fun rx => rx.notifyIfComplete other) port where
  expected rx := by rw [notifyIfComplete_frame]
  empties rx nothing := by
    rw [notifyIfComplete_frame]
    exact nothing
  takes rx pkt inBuffer _ popped := by
    have queue : inBuffer.held other = rx.inBuffer.held other := by
      rw [Buffer.held, (Buffer.held_of_popPacketInternal popped).2 other ne.symm, Buffer.held]
    have expected : (rx.afterTaking port inBuffer).currentPortSequence other = rx.currentPortSequence other :=
      Function.update_of_ne ne.symm ..
    have fails : ({ rx with inBuffer, rxMutexHeld := true } : RxModule).isCompleteMessageForPortAvailable other =
        rx.isCompleteMessageForPortAvailable other := by
      simp only [isCompleteMessageForPortAvailable_eq, queue]
    have takes : (rx.afterTaking port inBuffer).isCompleteMessageForPortAvailable other =
        rx.isCompleteMessageForPortAvailable other := by
      rw [isCompleteMessageForPortAvailable_eq, expected, isCompleteMessageForPortAvailable_eq, ← queue]
      rfl
    refine ⟨inBuffer, ?_, ?_, ?_, trivial⟩
    · rw [notifyIfComplete_frame]
      exact popped
    · rw [notifyIfComplete_frame, notifyIfComplete_frame, fails]
    · rw [notifyIfComplete_frame, notifyIfComplete_frame (rx.afterTaking port inBuffer), takes]
      rfl

theorem refreshAvailability_notifyIfComplete (ne : port ≠ other) (rx : RxModule) :
    (rx.notifyIfComplete other).refreshAvailability port = (rx.refreshAvailability port).notifyIfComplete other := by
  have notified : (rx.notifyIfComplete other).isCompleteMessageForPortAvailable port =
      rx.isCompleteMessageForPortAvailable port := by
    rw [notifyIfComplete_frame]
    rfl
  have refreshed : (rx.refreshAvailability port).isCompleteMessageForPortAvailable other =
      rx.isCompleteMessageForPortAvailable other := by
    rw [refreshAvailability_frame]
    rfl
  rw [refreshAvailability_frame, notifyIfComplete_frame (rx.refreshAvailability port), notified, refreshed,
    notifyIfComplete_frame, refreshAvailability_frame]
  simp only [RxModule.mk.injEq, true_and, and_true]
  split <;> split <;> simp only [ByteMap.insert, ByteMap.erase, Function.update_comm ne]

/-- If another port is first once the flag is set, it has been first before. -/
theorem begin?_of_notifyIfComplete {rx : RxModule} (ne : port ≠ other)
    (first : (rx.notifyIfComplete other).availableMessages.begin? = some port) :
    rx.availableMessages.begin? = some port := by
  obtain ⟨flagged, least⟩ := ByteMap.begin?_eq_some_iff.mp first
  simp only [notifyIfComplete_frame] at flagged least
  refine ByteMap.begin?_eq_some_iff.mpr ⟨?_, fun j stored => least j ?_⟩
  · split at flagged
    · rwa [ByteMap.insert_of_ne _ _ ne] at flagged
    · exact flagged
  · split
    · rw [ByteMap.insert_apply]
      split
      · rfl
      · exact stored
    · exact stored

/-- Another port may be flagged before or after the first flagged message is taken. -/
theorem takeFirst_notifyIfComplete {rx : RxModule}
    (first : (rx.notifyIfComplete other).availableMessages.begin? = some port) (ne : port ≠ other) :
    (rx.notifyIfComplete other).takeFirst = rx.takeFirst.map (Prod.map id fun rx => rx.notifyIfComplete other) :=
  (passesTaking_notifyIfComplete ne).takeFirst trivial (begin?_of_notifyIfComplete ne first) first
    (refreshAvailability_notifyIfComplete ne)

end Elsewhere

end RxModule

end S3tp.Model.Core
