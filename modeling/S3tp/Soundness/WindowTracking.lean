import S3tp.Soundness.OneByte

/-! # Tracking the receiving window

The window's lower end is a global sequence number, the newest number received is compared with the
distance from that end. As long as the end is 0 the two agree, and the module follows a stream of
numbers up to 127. Once the first full window has moved the end up, no further number counts as
newer, and a queue whose head lies below the end is cleared by the next packet written to it or by
the next flush, however close to the newest number it is.
-/

namespace S3tp.Soundness

open Model.Core Model.Core.RxModule Model.Concurrent Machine

/-! ## A stream without losses -/

/-- The packet's number is that of the last packet received or the next one. The first number is 0. -/
def FollowsOn (received : List S3tpPacket) (packet : S3tpPacket) : Prop :=
  match received.getLast? with
  | none => packet.header.getGlobalSequence = 0
  | some newest => packet.header.getGlobalSequence = newest.header.getGlobalSequence ∨
      packet.header.getGlobalSequence = newest.header.getGlobalSequence + 1

/-- Valid data packets of open ports arrive in order and without losses. Messages are consumed at any
time, and ports are opened and closed at any time. -/
def InOrderFeed (s : RxSystem) : RxEvent → Prop
  | .receive packet => s.rx.accepts packet = true ∧ FollowsOn s.received packet
  | _ => True

/-- A queue that is cleared on the arrival of the packet has a head 128 or more numbers behind it, and
the packet's number becomes the newest one. -/
structure KeepsFresh (rx : RxModule) (packet : S3tpPacket) : Prop where
  written : rx.inBuffer.windowExceeded rx.policy packet = true →
    ∀ head ∈ (rx.inBuffer.held packet.getPort).head?,
      128 ≤ (packet.header.getGlobalSequence - head.header.getGlobalSequence).toNat
  flushed : ∀ port, rx.Flushes packet port → ∀ head ∈ ((rx.writePacket packet).inBuffer.held port).head?,
    128 ≤ (packet.header.getGlobalSequence - head.header.getGlobalSequence).toNat
  newest : (rx.handleReceivedPacket packet).2.2.lastReceivedGlobalSeq = packet.header.getGlobalSequence

/-- The number is the newest one already or the window's lower end is still 0 and the number below
128, and no head that is looked at lies below the lower end. -/
structure WindowHolds (rx : RxModule) (packet : S3tpPacket) : Prop where
  number : packet.header.getGlobalSequence = rx.lastReceivedGlobalSeq ∨
    (rx.toConsumeGlobalSeq = 0 ∧ packet.header.getGlobalSequence.toNat < 128)
  written : ∀ head ∈ (rx.inBuffer.held packet.getPort).head?,
    rx.toConsumeGlobalSeq ≤ head.header.getGlobalSequence
  flushed : 128 ≤ (rx.receivingWindow + 1).toNat → ∀ port, ∀ head ∈ (rx.inBuffer.held port).head?,
    rx.toConsumeGlobalSeq ≤ head.header.getGlobalSequence

/-- The feed, as long as the window holds. -/
def FeedWhileWindowHolds (s : RxSystem) (event : RxEvent) : Prop :=
  InOrderFeed s event ∧ ∀ packet, event = .receive packet → WindowHolds s.rx packet

/-! ## The counters while the window holds -/

/-- All numbers lie in the first half of the turn, in the order lower end, heads, newest. -/
structure Tracking (s : RxSystem) : Prop where
  newest : s.rx.lastReceivedGlobalSeq = (s.received.getLast?.map (·.header.getGlobalSequence)).getD 0
  half : s.rx.lastReceivedGlobalSeq.toNat < 128
  lower : s.rx.toConsumeGlobalSeq ≤ s.rx.lastReceivedGlobalSeq
  held : ∀ port, ∀ packet ∈ s.rx.inBuffer.held port,
    packet.header.getGlobalSequence ≤ s.rx.lastReceivedGlobalSeq

theorem tracking_started : Tracking RxSystem.started where
  newest := rfl
  half := by decide
  lower := by decide
  held _ _ member := by simp [RxSystem.started, reset, startModule, Buffer.clear] at member

/-- Between the lower end and the middle of the turn, numbers keep their distance. -/
theorem toNat_relativeGlobalSeq {rx : RxModule} {packet : S3tpPacket}
    (above : rx.toConsumeGlobalSeq ≤ packet.header.getGlobalSequence) : (rx.relativeGlobalSeq packet).toNat =
      packet.header.getGlobalSequence.toNat - rx.toConsumeGlobalSeq.toNat := UInt8.toNat_sub_of_le _ _ above

namespace Tracking

variable {s : RxSystem} {packet : S3tpPacket}

/-- The next number is the newest one or its successor. -/
theorem next (tracking : Tracking s) (follows : FollowsOn s.received packet) :
    packet.header.getGlobalSequence = s.rx.lastReceivedGlobalSeq ∨
      packet.header.getGlobalSequence.toNat = s.rx.lastReceivedGlobalSeq.toNat + 1 := by
  have newest := tracking.newest
  have half := tracking.half
  rw [FollowsOn] at follows
  cases last : s.received.getLast? with
  | none =>
    simp only [last, Option.map_none, Option.getD_none] at follows newest
    exact .inl (follows.trans newest.symm)
  | some previous =>
    simp only [last, Option.map_some, Option.getD_some] at follows newest
    rcases follows with same | successor
    · exact .inl (same.trans newest.symm)
    · right
      rw [successor, ← newest, UInt8.toNat_add, show (1 : UInt8).toNat = 1 from rfl]
      omega

theorem number_lt (tracking : Tracking s) (holds : WindowHolds s.rx packet) :
    packet.header.getGlobalSequence.toNat < 128 := by
  rcases holds.number with same | ⟨-, small⟩
  · exact same ▸ tracking.half
  · exact small

theorem le_number (tracking : Tracking s) (follows : FollowsOn s.received packet) :
    s.rx.lastReceivedGlobalSeq ≤ packet.header.getGlobalSequence := by
  rw [UInt8.le_iff_toNat_le]
  rcases tracking.next follows with same | successor
  · rw [same]
  · omega

theorem lower_le_number (tracking : Tracking s) (follows : FollowsOn s.received packet) :
    s.rx.toConsumeGlobalSeq ≤ packet.header.getGlobalSequence :=
  UInt8.le_trans tracking.lower (tracking.le_number follows)

/-- The number is recognized as the newest. -/
theorem newestGlobalSeq (tracking : Tracking s) (follows : FollowsOn s.received packet)
    (holds : WindowHolds s.rx packet) : s.rx.newestGlobalSeq packet = packet.header.getGlobalSequence := by
  have distance := toNat_relativeGlobalSeq (tracking.lower_le_number follows)
  have small := tracking.number_lt holds
  rcases tracking.next follows with same | successor
  · rw [RxModule.newestGlobalSeq, ← same, ite_self]
  · rcases holds.number with same | ⟨start, -⟩
    · rw [same] at successor
      omega
    · -- The lower end is 0, where the distance from it is the number itself.
      rw [RxModule.newestGlobalSeq, if_pos]
      rw [start, UInt8.toNat_zero, Nat.sub_zero] at distance
      rw [isNewest, decide_eq_true_iff, receivingWindowSize, UInt8.lt_iff_toNat_lt, distance]
      omega

/-- A head the window's lower end has not passed is less than half a turn above it. -/
theorem head_lt (tracking : Tracking s) {port : UInt8} {head : S3tpPacket}
    (first : head ∈ (s.rx.inBuffer.held port).head?)
    (above : s.rx.toConsumeGlobalSeq ≤ head.header.getGlobalSequence) :
    (s.rx.relativeGlobalSeq head).toNat < 128 := by
  have bound := UInt8.le_iff_toNat_le.mp (tracking.held port head (List.mem_of_mem_head? first))
  have half := tracking.half
  rw [toNat_relativeGlobalSeq above]
  omega

theorem new_lt (tracking : Tracking s) (follows : FollowsOn s.received packet)
    (holds : WindowHolds s.rx packet) : (s.rx.relativeGlobalSeq packet).toNat < 128 := by
  have small := tracking.number_lt holds
  rw [toNat_relativeGlobalSeq (tracking.lower_le_number follows)]
  omega

/-- The write clears nothing. -/
theorem windowExceeded_eq_false (tracking : Tracking s) (follows : FollowsOn s.received packet)
    (holds : WindowHolds s.rx packet) : s.rx.inBuffer.windowExceeded s.rx.policy packet = false :=
  s.rx.windowExceeded_eq_false packet fun head first =>
    maximumWindowExceeded_eq_false s.rx (tracking.head_lt first (holds.written head first))
      (tracking.new_lt follows holds)

/-- The flush clears nothing. -/
theorem not_flushes (tracking : Tracking s) (follows : FollowsOn s.received packet)
    (holds : WindowHolds s.rx packet) (port : UInt8) : ¬ s.rx.Flushes packet port := by
  rintro ⟨full, -, old⟩
  refine Bool.false_ne_true ((s.rx.tooOld_eq_false ?_).symm.trans old)
  intro head (first : head ∈ ((s.rx.writePacket packet).inBuffer.held port).head?)
  have early (earlier : head ∈ (s.rx.inBuffer.held port).head?) :=
    tracking.head_lt earlier (holds.flushed full port head earlier)
  rcases Classical.em (port = packet.getPort) with rfl | other
  · have linked := s.rx.held_writePacket packet (tracking.windowExceeded_eq_false follows holds)
    rw [linked] at first
    rcases List.mem_head?_insertFromTail _ _ first with rfl | earlier
    · exact tracking.new_lt follows holds
    · exact early earlier
  · exact early (Buffer.held_write_of_ne _ _ other ▸ first)

theorem keepsFresh (tracking : Tracking s) (follows : FollowsOn s.received packet)
    (accepted : s.rx.accepts packet = true) (holds : WindowHolds s.rx packet) : KeepsFresh s.rx packet where
  written exceeded := by simp [tracking.windowExceeded_eq_false follows holds] at exceeded
  flushed port flushes := absurd flushes (tracking.not_flushes follows holds port)
  newest := by
    rw [handleReceivedPacket_of_accepts accepted, receiveData_lastReceivedGlobalSeq]
    exact tracking.newestGlobalSeq follows holds

/-! ## Every step keeps the counters in order -/

theorem receive (tracking : Tracking s) (follows : FollowsOn s.received packet)
    (holds : WindowHolds s.rx packet) {rx : RxModule} (received : rx = s.rx.receiveData packet) :
    Tracking { s with rx, received := s.received ++ [packet] } := by
  have newest : rx.lastReceivedGlobalSeq = packet.header.getGlobalSequence := by
    rw [received, receiveData_lastReceivedGlobalSeq]
    exact tracking.newestGlobalSeq follows holds
  constructor
  · simp [newest]
  · exact newest ▸ tracking.number_lt holds
  · simp only [newest]
    rcases Nat.lt_or_ge (s.rx.receivingWindow + 1).toNat 128 with room | full
    · rw [received, (receiveData_of_lt s.rx packet room).1]
      exact tracking.lower_le_number follows
    · rw [received, (receiveData_of_ge s.rx packet full).1, tracking.newestGlobalSeq follows holds]
      exact UInt8.le_refl _
  · intro port other (member : other ∈ rx.inBuffer.held port)
    simp only [newest]
    rw [received, Buffer.held, receiveData_queues, if_neg (tracking.not_flushes follows holds port),
      ← Buffer.held] at member
    have early (earlier : other ∈ s.rx.inBuffer.held port) :=
      UInt8.le_trans (tracking.held port other earlier) (tracking.le_number follows)
    rcases Classical.em (port = packet.getPort) with rfl | different
    · rw [s.rx.held_writePacket packet (tracking.windowExceeded_eq_false follows holds),
        List.mem_insertFromTail] at member
      rcases member with rfl | earlier
      · exact UInt8.le_refl _
      · exact early earlier
    · rw [writePacket, Buffer.held_write_of_ne _ _ different] at member
      exact early member

/-- Nothing but the arrival of a packet moves a counter or adds to a queue. -/
theorem of_drains {rx : RxModule} {delivered : List Delivery} (tracking : Tracking s) (drains : Drains s.rx rx) :
    Tracking { s with rx, delivered } := by
  have frame := drains.frame
  have newest : rx.lastReceivedGlobalSeq = s.rx.lastReceivedGlobalSeq := by rw [frame]
  have lower : rx.toConsumeGlobalSeq = s.rx.toConsumeGlobalSeq := by rw [frame]
  refine ⟨newest.trans tracking.newest, by simpa [newest] using tracking.half,
    by simpa [newest, lower] using tracking.lower, fun port packet member => ?_⟩
  simp only [newest]
  exact tracking.held port packet ((drains.suffix port).subset member)

theorem step {t : RxSystem} {event : RxEvent} (tracking : Tracking s) (met : FeedWhileWindowHolds s event)
    (stepped : s.step event = some t) : Tracking t := by
  cases event with
  | openPort port =>
    obtain ⟨openPorts, rfl⟩ := RxSystem.openPorts_of_openPort stepped
    exact ⟨tracking.newest, tracking.half, tracking.lower, tracking.held⟩
  | closePort port =>
    obtain ⟨openPorts, rfl⟩ := RxSystem.openPorts_of_closePort stepped
    exact ⟨tracking.newest, tracking.half, tracking.lower, tracking.held⟩
  | receive packet =>
    obtain ⟨⟨accepted, follows⟩, holds⟩ := met
    obtain ⟨rx, received, rfl⟩ := RxSystem.of_receive stepped
    rw [handleReceivedPacket_of_accepts accepted] at received
    dsimp only at received
    exact tracking.receive follows (holds packet rfl) received
  | consume =>
    obtain ⟨delivery, rx, consumes, rfl⟩ := RxSystem.of_consume stepped
    exact tracking.of_drains (drains_of_getNextCompleteMessage consumes)

end Tracking

/-- As long as every packet finds the window holding, no fresh queue is cleared and every packet's
number becomes the newest one. -/
theorem keepsFresh_of_windowHolds {events : List RxEvent} {s : RxSystem}
    (run : Run RxSystem.step FeedWhileWindowHolds .started events s) {packet : S3tpPacket}
    (next : FeedWhileWindowHolds s (.receive packet)) : KeepsFresh s.rx packet :=
  (run.invariant (fun _ _ _ tracking met stepped => tracking.step met stepped) tracking_started).keepsFresh
    next.1.2 next.1.1 (next.2 packet rfl)

theorem run_listeningOn5 : Run RxSystem.step FeedWhileWindowHolds .started [.openPort 5] listeningOn5 := by
  have opening : FeedWhileWindowHolds .started (.openPort 5) := ⟨trivial, by simp⟩
  exact .cons opening step_openPort (.nil _)

theorem first_follows : FollowsOn listeningOn5.received (fragmentOf 0 0 0 false) :=
  fragmentOf_getGlobalSequence 0 0 0 false

/-- The first packet of a stream. -/
theorem keepsFresh_of_windowHolds_first : KeepsFresh listeningOn5.rx (fragmentOf 0 0 0 false) := by
  have number := fragmentOf_getGlobalSequence 0 0 0 false
  have next : FeedWhileWindowHolds listeningOn5 (.receive (fragmentOf 0 0 0 false)) := by
    refine ⟨⟨accepts_fragmentOf 0 0 0 false (by decide) (by decide), first_follows⟩, fun packet same => ?_⟩
    obtain rfl := RxEvent.receive.inj same
    exact ⟨.inl number, fun _ _ => UInt8.zero_le, fun _ _ _ _ => UInt8.zero_le⟩
  exact keepsFresh_of_windowHolds run_listeningOn5 next

/-! ## What happens at the end of the first window -/

/-- The numbers 0 to 127 arrive one after the other. -/
theorem firstWindow (n : ℕ) (bound : n ≤ 127) : ∃ events s,
    Run RxSystem.step FeedWhileWindowHolds .started events s ∧ s.rx.active = true ∧
      s.rx.isPortOpen 5 = true ∧ s.rx.rxMutexHeld = false ∧ s.rx.toConsumeGlobalSeq = 0 ∧
      s.rx.receivingWindow = UInt8.ofNat n ∧
      FollowsOn s.received (fragmentOf (UInt8.ofNat n) (UInt8.ofNat n) 0 false) := by
  induction n with
  | zero =>
    exact ⟨_, listeningOn5, run_listeningOn5, by decide, by decide, by decide, by decide, by decide, first_follows⟩
  | succ n ih =>
    obtain ⟨events, s, run, active, portOpen, free, start, window, follows⟩ := ih (by omega)
    have accepted := accepts_fragmentOf (UInt8.ofNat n) (UInt8.ofNat n) 0 false active portOpen
    set packet := fragmentOf (UInt8.ofNat n) (UInt8.ofNat n) 0 false
    have holds : WindowHolds s.rx packet := by
      refine ⟨.inr ⟨start, ?_⟩, fun _ _ => start ▸ UInt8.zero_le, fun _ _ _ _ => start ▸ UInt8.zero_le⟩
      rw [fragmentOf_getGlobalSequence, UInt8.toNat_ofNat_of_lt_256 (by omega)]
      omega
    have room : (s.rx.receivingWindow + 1).toNat < 128 := by
      rw [window, ← UInt8.ofNat_succ, UInt8.toNat_ofNat_of_lt_256 (by omega)]
      omega
    have met : FeedWhileWindowHolds s (.receive packet) := by
      refine ⟨⟨accepted, follows⟩, ?_⟩
      rintro _ ⟨⟩
      exact holds
    obtain ⟨lower, count⟩ := receiveData_of_lt s.rx packet room
    refine ⟨_, _, run.append (.cons met (RxSystem.step_receive free accepted) (.nil _)), by simpa using active,
      by simpa using portOpen, by simpa using free, lower.trans start, by rw [count, window, UInt8.ofNat_succ], ?_⟩
    simp [FollowsOn, packet, UInt8.ofNat_succ]

/-- After the numbers 0 to 127 the next one does not count as newer. -/
theorem not_keepsFresh : ¬ ∀ (events : List RxEvent) (s : RxSystem) (packet : S3tpPacket),
    Run RxSystem.step InOrderFeed .started events s → InOrderFeed s (.receive packet) → KeepsFresh s.rx packet := by
  intro keeps
  obtain ⟨events, s, run, active, portOpen, free, start, window, follows⟩ := firstWindow 127 (by omega)
  have accepted := accepts_fragmentOf (UInt8.ofNat 127) (UInt8.ofNat 127) 0 false active portOpen
  have unrestricted : Run RxSystem.step InOrderFeed .started events s := run.mono fun _ _ met => met.1
  set packet := fragmentOf (UInt8.ofNat 127) (UInt8.ofNat 127) 0 false with packetDef
  have fed : InOrderFeed s (.receive packet) := ⟨accepted, follows⟩
  have newest := (keeps _ _ _ unrestricted fed).newest
  rw [handleReceivedPacket_of_accepts accepted, packetDef, fragmentOf_getGlobalSequence, ← packetDef] at newest
  have lower : (s.rx.receiveData packet).toConsumeGlobalSeq = 127 := by
    rw [(receiveData_of_ge s.rx packet (by rw [window]; decide)).1, ← receiveData_lastReceivedGlobalSeq]
    exact newest
  have acceptedNext : (s.rx.receiveData packet).accepts (fragmentOf 128 128 0 false) = true :=
    accepts_fragmentOf _ _ _ _ (by simpa using active) (by simpa using portOpen)
  have stepped := RxSystem.step_receive free accepted
  generalize s.rx.receiveData packet = rx at *
  have fedNext : InOrderFeed { s with rx, received := s.received ++ [packet] }
      (.receive (fragmentOf 128 128 0 false)) := ⟨acceptedNext, by simp [FollowsOn, packetDef]⟩
  have passed := (keeps _ _ _ (unrestricted.append (.cons fed stepped (.nil _))) fedNext).newest
  rw [handleReceivedPacket_of_accepts acceptedNext, receiveData_lastReceivedGlobalSeq] at passed
  -- The distance of 128 from the lower end is 1, which is not more than 127.
  have newest : rx.lastReceivedGlobalSeq = 127 := newest
  simp [newestGlobalSeq, isNewest, relativeGlobalSeq, lower, newest, receivingWindowSize] at passed

/-! ## The condition is exact -/

/-- A head the window's lower end has passed is cleared on any comparison with it. -/
theorem toNat_relativeGlobalSeq_of_lt {rx : RxModule} {packet : S3tpPacket}
    (below : packet.header.getGlobalSequence < rx.toConsumeGlobalSeq) : (rx.relativeGlobalSeq packet).toNat =
      256 + packet.header.getGlobalSequence.toNat - rx.toConsumeGlobalSeq.toNat := by
  have bound := rx.toConsumeGlobalSeq.toNat_lt
  rw [UInt8.lt_iff_toNat_lt] at below
  rw [relativeGlobalSeq, UInt8.toNat_sub]
  omega

namespace Tracking

variable {s : RxSystem} {packet : S3tpPacket}

/-- A number that becomes the newest one is no number the window has lost track of. -/
theorem number_of_keepsFresh (tracking : Tracking s) (next : InOrderFeed s (.receive packet))
    (keeps : KeepsFresh s.rx packet) : packet.header.getGlobalSequence = s.rx.lastReceivedGlobalSeq ∨
      (s.rx.toConsumeGlobalSeq = 0 ∧ packet.header.getGlobalSequence.toNat < 128) := by
  have newest := keeps.newest
  rw [handleReceivedPacket_of_accepts next.1, receiveData_lastReceivedGlobalSeq] at newest
  rcases tracking.next next.2 with same | successor
  · exact .inl same
  · right
    have distance := toNat_relativeGlobalSeq (tracking.lower_le_number next.2)
    have lower := UInt8.le_iff_toNat_le.mp tracking.lower
    rcases Bool.eq_false_or_eq_true (s.rx.isNewest packet) with newer | older
    · rw [isNewest, decide_eq_true_iff, receivingWindowSize, UInt8.lt_iff_toNat_lt, distance] at newer
      refine ⟨UInt8.toNat_inj.mp ?_, by omega⟩
      rw [UInt8.toNat_zero]
      omega
    · rw [RxModule.newestGlobalSeq, older, if_neg Bool.false_ne_true] at newest
      rw [newest] at successor
      omega

/-- No head below the lower end is 128 or more behind the new packet. -/
theorem behind_lt (tracking : Tracking s) (next : InOrderFeed s (.receive packet)) {port : UInt8}
    {head : S3tpPacket} (first : head ∈ (s.rx.inBuffer.held port).head?)
    (small : packet.header.getGlobalSequence.toNat < 128) :
    (packet.header.getGlobalSequence - head.header.getGlobalSequence).toNat < 128 := by
  have bound := tracking.held port head (List.mem_of_mem_head? first)
  have above := UInt8.le_trans bound (tracking.le_number next.2)
  rw [UInt8.toNat_sub_of_le _ _ above]
  omega

end Tracking

/-- In a consistent buffer, a packet that finds the window not holding gets a fresh queue cleared, or
its number is not taken for the newest. -/
theorem windowHolds_of_keepsFresh {s : RxSystem} {packet : S3tpPacket} (tracking : Tracking s)
    (next : InOrderFeed s (.receive packet)) (consistent : s.rx.inBuffer.Consistent)
    (written : (s.rx.writePacket packet).inBuffer.Consistent) (keeps : KeepsFresh s.rx packet) :
    WindowHolds s.rx packet := by
  have number := tracking.number_of_keepsFresh next keeps
  have small : packet.header.getGlobalSequence.toNat < 128 := by
    rcases number with same | ⟨-, small⟩
    · exact same ▸ tracking.half
    · exact small
  have distance := toNat_relativeGlobalSeq (tracking.lower_le_number next.2)
  have ahead := UInt8.le_iff_toNat_le.mp (tracking.lower_le_number next.2)
  -- A head below the lower end is far away from any number above it.
  have far {head : S3tpPacket} (below : head.header.getGlobalSequence < s.rx.toConsumeGlobalSeq) :
      128 ≤ (s.rx.relativeGlobalSeq head).toNat ∧ s.rx.maximumWindowExceeded head packet = true := by
    have position := toNat_relativeGlobalSeq_of_lt below
    rw [UInt8.lt_iff_toNat_lt] at below
    rw [maximumWindowExceeded, decide_eq_true_iff, distance, position, maxReorderingWindow]
    omega
  have own : ∀ head ∈ (s.rx.inBuffer.held packet.getPort).head?,
      s.rx.toConsumeGlobalSeq ≤ head.header.getGlobalSequence := by
    intro head first
    rw [← UInt8.not_lt]
    intro below
    have exceeded := (consistent.windowExceeded_eq_true_iff s.rx.policy packet).mpr ⟨head, first, (far below).2⟩
    have behind := keeps.written exceeded head first
    exact absurd (tracking.behind_lt next first small) (Nat.not_lt.mpr behind)
  refine ⟨number, own, fun full port head first => ?_⟩
  rcases Classical.em (port = packet.getPort) with rfl | other
  · exact own head first
  · rw [← UInt8.not_lt]
    intro below
    have kept := Buffer.held_write_of_ne s.rx.inBuffer s.rx.policy other
    have still : head ∈ ((s.rx.writePacket packet).inBuffer.held port).head? := kept ▸ first
    have flushes : s.rx.Flushes packet port :=
      ⟨full, written.mem_getActiveQueues.mpr (by rintro none; simp [none] at still),
        (s.rx.tooOld_eq_true_iff (written.counted port)).mpr ⟨head, still, (far below).1⟩⟩
    have behind := keeps.flushed port flushes head still
    exact absurd (tracking.behind_lt next first small) (Nat.not_lt.mpr behind)

end S3tp.Soundness
