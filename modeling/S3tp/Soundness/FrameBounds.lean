import S3tp.Model.Concurrent.RxSystem
import S3tp.Model.Core.FrameReads

/-! # Reading inside the frame

The length of the payload is taken from the header of whatever arrives. A frame is read inside its bounds, and is
refused when it lacks the payload it announces or the sync structure it is said to be, exactly when it holds the
header words that are looked at, that payload and that structure.
-/

namespace S3tp.Soundness.FrameBounds

open Machine Model.Core Model.Concurrent PacketReads

variable (rx : RxModule) (channel : UInt8) (frame : List UInt8) (behind : ℕ → UInt8)

/-- What `handleFrame` returns, reports and leaves. -/
def handled : ℤ × Option UInt8 × RxModule := (handleFrame rx channel frame).run (copied frame behind)

/-- The frame is turned down and the module is as it was. -/
def Refused : Prop := (handled rx channel frame behind).1 ≠ codeSuccess ∧ (handled rx channel frame behind).2.2 = rx

/-- The packet has gone to the buffer. -/
def Stored : Prop := (handled rx channel frame behind).1 = codeSuccess ∧ (handled rx channel frame behind).2.1 = none

/-- Only bytes of the frame are read: when it arrives, while its packet waits in the buffer and when the packet is
taken for a message, whatever has become of the memory behind it. A frame without the payload it announces is
refused, and so is a sync frame whose payload is no whole sync structure. -/
structure Respected : Prop where
  arrival : (handleFrame rx channel frame).Within (copied frame behind) (· < frame.length)
  waiting : Stored rx channel frame behind → ∀ later, getHeader.Within (copied frame later) (· < frame.length)
  assembly : Stored rx channel frame behind → ∀ expected later,
    (takePacket expected).Within (copied frame later) (· < frame.length)
  overlong : (S3tpPacket.ofFrame frame channel).payload.length <
    (S3tpPacket.ofFrame frame channel).header.getPduLength.toNat → Refused rx channel frame behind
  short : (S3tpPacket.ofFrame frame channel).header.getMessageType = msgSync →
    (S3tpPacket.ofFrame frame channel).pdu.length < S3tpSync.size → Refused rx channel frame behind

/-- The frame holds what is looked at: the words up to the length, the payload, and behind a checksum that matches the
sync structure or the rest of the header. -/
structure Holds : Prop where
  words : 6 ≤ frame.length
  payload : (S3tpPacket.ofFrame frame channel).header.getPduLength.toNat ≤
    (S3tpPacket.ofFrame frame channel).payload.length
  sync : (S3tpPacket.ofFrame frame channel).crcValid = true →
    (S3tpPacket.ofFrame frame channel).header.getMessageType = msgSync →
    S3tpSync.size ≤ (S3tpPacket.ofFrame frame channel).header.getPduLength.toNat
  data : (S3tpPacket.ofFrame frame channel).crcValid = true →
    (S3tpPacket.ofFrame frame channel).header.getMessageType = msgData → S3tpHeader.size ≤ frame.length

/-! ## Bounds of the parts -/

theorem within_sync {memory : ℕ → UInt8} {n : ℕ} :
    sync.Within memory (· < n) ↔ S3tpHeader.size + S3tpSync.size ≤ n := by
  simp only [sync, Loads.within_bind, within_payloadBytes, Loads.within_read, Loads.within_pure, and_true,
    S3tpHeader.size, S3tpSync.size]
  constructor
  · rintro ⟨ports, -⟩
    have last := ports 127 (by decide)
    omega
  · intro room
    refine ⟨fun i number => ?_, ?_, ?_⟩ <;> omega

theorem within_getHeader {memory : ℕ → UInt8} {n : ℕ} (eight : S3tpHeader.size ≤ n) :
    getHeader.Within memory (· < n) := by
  rw [S3tpHeader.size] at eight
  simp [getHeader, crc, seq, pduLength, seqPort, port]
  omega

/-! ## Arrival -/

/-- What is looked at behind a matching checksum. -/
theorem within_dispatch (six : 6 ≤ frame.length) :
    (dispatch rx frame channel).Within (padded frame) (· < frame.length) ↔
      ((S3tpHeader.ofBytes frame).getMessageType = msgSync → S3tpHeader.size + S3tpSync.size ≤ frame.length) ∧
      ((S3tpHeader.ofBytes frame).getMessageType = msgData → S3tpHeader.size ≤ frame.length) := by
  have type : getMessageType.Within (padded frame) (· < frame.length) :=
    (within_getMessageType _).mpr ⟨by omega, by omega⟩
  have distinct : msgSync ≠ msgData := by decide
  rw [dispatch, Loads.within_bind, run_getMessageType, and_iff_right type]
  split
  · next synced => simp [synced, distinct, within_sync]
  split
  · next synced other => simp [synced, other]
  · next synced data =>
    rw [not_not] at data
    have port : getPort.Within (padded frame) (· < frame.length) ↔ S3tpHeader.size ≤ frame.length :=
      within_getPort _
    rw [Loads.within_bind, port]
    constructor
    · rintro ⟨eight, -⟩
      exact ⟨fun wrong => absurd wrong synced, fun _ => eight⟩
    · rintro ⟨-, eight⟩
      refine ⟨eight data, ?_⟩
      split
      · rw [Loads.within_bind, within_getGlobalSequence]
        exact ⟨⟨by omega, by omega⟩, Loads.within_pure _⟩
      · simpa using within_getHeader (eight data)

/-- The bytes the checksum is computed over are those of the packet. -/
theorem run_verifyChecksum_padded (payload : (S3tpHeader.ofBytes frame).getPduLength.toNat ≤
    (frame.drop S3tpHeader.size).length) :
    (verifyChecksum S3tpHeader.size (S3tpHeader.ofBytes frame).getPduLength.toNat (S3tpHeader.ofBytes frame).crc).run
      (padded frame) = (S3tpPacket.ofFrame frame channel).crcValid := by
  rw [run_verifyChecksum, bytesAt_payload frame payload]
  rfl

/-- Exactly when reading stays inside the frame. -/
theorem within_handleFrame (active : rx.active = true) :
    (handleFrame rx channel frame).Within (padded frame) (· < frame.length) ↔
      6 ≤ frame.length ∧
      (S3tpHeader.ofBytes frame).getPduLength.toNat ≤ (frame.drop S3tpHeader.size).length ∧
      ((S3tpPacket.ofFrame frame channel).crcValid = true →
        (dispatch rx frame channel).Within (padded frame) (· < frame.length)) := by
  have going : ¬ (!rx.active) = true := by simp [active]
  rw [handleFrame, handleReceivedPacket, if_neg going, Loads.within_bind, run_getPduLength, Loads.within_bind,
    run_crc, Loads.within_bind, within_verifyChecksum, within_getPduLength, within_crc]
  have block : (∀ i < (S3tpHeader.ofBytes frame).getPduLength.toNat, S3tpHeader.size + i < frame.length) ↔
      (S3tpHeader.ofBytes frame).getPduLength.toNat ≤ (frame.drop S3tpHeader.size).length := by
    rw [List.length_drop]
    constructor
    · intro all
      rcases Nat.eq_zero_or_pos (S3tpHeader.ofBytes frame).getPduLength.toNat with none | some
      · omega
      · have last := all ((S3tpHeader.ofBytes frame).getPduLength.toNat - 1) (by omega)
        omega
    · intro fits i inside
      omega
  have words : 4 < frame.length ∧ 5 < frame.length ↔ 6 ≤ frame.length := by omega
  rw [block, words]
  refine and_congr_right fun six => ?_
  have checksum : 0 < frame.length ∧ 0 + 1 < frame.length := by omega
  rw [and_iff_right checksum]
  refine and_congr_right fun payload => ?_
  rw [run_verifyChecksum_padded channel frame payload]
  split
  · next refused =>
    simp only [Bool.not_eq_true'] at refused
    rw [Loads.within_bind, within_getGlobalSequence]
    refine iff_of_true ⟨⟨by omega, by omega⟩, Loads.within_pure _⟩ fun valid => ?_
    rw [refused] at valid
    contradiction
  · next passed =>
    simp only [Bool.not_eq_true', Bool.not_eq_false] at passed
    simp [passed]

/-- With its payload in the frame, what arrives is handled as the packet it is cast to. -/
theorem run_handleFrame (payload : (S3tpHeader.ofBytes frame).getPduLength.toNat ≤
    (frame.drop S3tpHeader.size).length) :
    (handleFrame rx channel frame).run (padded frame) =
      rx.handleReceivedPacket (S3tpPacket.ofFrame frame channel) := by
  rw [handleFrame, handleReceivedPacket, RxModule.handleReceivedPacket]
  split
  · rfl
  rw [Loads.run_bind, run_getPduLength, Loads.run_bind, run_crc, Loads.run_bind,
    run_verifyChecksum_padded channel frame payload]
  split
  · rfl
  rw [dispatch, Loads.run_bind, run_getMessageType]
  change _ = if (S3tpHeader.ofBytes frame).getMessageType = msgSync then _ else _
  split
  · rw [Loads.run_bind, run_sync]
    rfl
  change _ = if (S3tpHeader.ofBytes frame).getMessageType ≠ msgData then _ else _
  split
  · rfl
  rw [Loads.run_bind, run_getPort]
  change _ = if !rx.isPortOpen (S3tpHeader.ofBytes frame).getPort then _ else _
  split
  · rfl
  · rw [Loads.run_bind, run_getHeader]
    rfl

/-- Whatever lies behind a frame that is read inside its bounds. -/
theorem handled_eq (active : rx.active = true)
    (within : (handleFrame rx channel frame).Within (copied frame behind) (· < frame.length)) :
    handled rx channel frame behind = rx.handleReceivedPacket (S3tpPacket.ofFrame frame channel) := by
  have inside := (within_copied behind).mp within
  obtain ⟨-, payload, -⟩ := (within_handleFrame rx channel frame active).mp inside
  rw [handled, run_copied behind inside, run_handleFrame rx channel frame payload]

/-! ## Assembly -/

section Assembly

variable {rx frame}

/-- The frame has a header and the payload it announces. -/
structure Whole (frame : List UInt8) : Prop where
  header : S3tpHeader.size ≤ frame.length
  payload : (S3tpHeader.ofBytes frame).getPduLength.toNat ≤ (frame.drop S3tpHeader.size).length

/-- The packet of such a frame is taken for a message inside the frame. -/
theorem within_takePacket (whole : Whole frame) (expected : UInt8) :
    (takePacket expected).Within (copied frame behind) (· < frame.length) := by
  obtain ⟨header, payload⟩ := whole
  rw [List.length_drop] at payload
  rw [S3tpHeader.size] at header payload
  have length : getPduLength.Within (padded frame) (· < frame.length) :=
    (within_getPduLength _).mpr ⟨by omega, by omega⟩
  rw [within_copied, takePacket, Loads.within_bind]
  refine ⟨Loads.within_read.mpr (by omega), ?_⟩
  split
  · exact Loads.within_pure _
  · simp only [Loads.within_bind, length, run_getPduLength, within_payloadBytes, Loads.within_pure, and_true, true_and]
    refine ⟨fun i inside => ?_, (within_moreFragments _).mpr (by omega)⟩
    rw [S3tpHeader.size]
    omega

/-- The pass over a packet finds what the packet has. -/
theorem run_takePacket (whole : Whole frame) (expected : UInt8) :
    (takePacket expected).run (copied frame behind) =
      if (S3tpHeader.ofBytes frame).seqPort ≠ expected then none
      else some ((S3tpPacket.ofFrame frame channel).pdu, (S3tpHeader.ofBytes frame).getPduLength,
        (S3tpHeader.ofBytes frame).moreFragments) := by
  have within := (within_copied behind).mp (within_takePacket behind whole expected)
  rw [run_copied behind within, takePacket, Loads.run_bind, run_seqPort]
  split
  · rfl
  · rw [Loads.run_bind, run_getPduLength, Loads.run_bind, run_payloadBytes, Nat.add_zero,
      bytesAt_payload frame whole.payload, Loads.run_bind, run_getPduLength, Loads.run_bind, run_moreFragments]
    rfl

/-- The assembly of a message goes through such passes. -/
theorem assemble_of_frame {port : UInt8} {inBuffer : Buffer} (whole : Whole frame)
    (popped : rx.inBuffer.getNextPacket rx.policy port = some (S3tpPacket.ofFrame frame channel, inBuffer))
    (data : List UInt8) (len : UInt16) : rx.assemble port data len =
      match (takePacket (rx.currentPortSequence port)).run (copied frame behind) with
      | none => some (⟨none, len, codeErrorInconsistentState, 0⟩, { rx with inBuffer, rxMutexHeld := true })
      | some (bytes, count, more) =>
        if more = 0 then some (⟨some (data ++ bytes), len + count, codeSuccess, port⟩, rx.afterTaking port inBuffer)
        else (rx.afterTaking port inBuffer).assemble port (data ++ bytes) (len + count) := by
  rw [RxModule.assemble_of_pop popped, run_takePacket channel behind whole]
  change (if (S3tpHeader.ofBytes frame).seqPort ≠ rx.currentPortSequence port then _ else _) = _
  split
  · rfl
  · rfl

end Assembly

/-! ## Frames that hold what they announce -/

variable {rx channel frame behind}

/-- Without an answer for the main module, success means that the packet was written to the buffer. -/
theorem accepts_of_success {packet : S3tpPacket} (success : (rx.handleReceivedPacket packet).1 = codeSuccess)
    (silent : (rx.handleReceivedPacket packet).2.1 = none) : rx.accepts packet = true := by
  by_contra refused
  rw [Bool.not_eq_true] at refused
  cases synced : rx.synchronizes packet with
  | true => simp [RxModule.handleReceivedPacket_of_synchronizes synced] at silent
  | false =>
    obtain ⟨error, failed, answer⟩ := RxModule.exists_error_of_refused refused synced
    rw [answer] at success
    exact failed success

theorem Holds.whole (holds : Holds channel frame) (accepted : rx.accepts (S3tpPacket.ofFrame frame channel) = true) :
    Whole frame := by
  simp only [RxModule.accepts, Bool.and_eq_true, beq_iff_eq] at accepted
  exact ⟨holds.data accepted.1.1.2 accepted.1.2, holds.payload⟩

theorem Holds.within (behind : ℕ → UInt8) (holds : Holds channel frame) (active : rx.active = true) :
    (handleFrame rx channel frame).Within (copied frame behind) (· < frame.length) := by
  rw [within_copied, within_handleFrame rx channel frame active]
  refine ⟨holds.words, holds.payload, fun valid => ?_⟩
  refine (within_dispatch rx channel frame holds.words).mpr ⟨fun synced => ?_, holds.data valid⟩
  have announced := holds.sync valid synced
  have present : (S3tpPacket.ofFrame frame channel).header.getPduLength.toNat ≤ frame.length - S3tpHeader.size := by
    simpa [S3tpPacket.ofFrame] using holds.payload
  have positive : 0 < S3tpSync.size := by decide
  omega

/-- With a whole frame nothing goes wrong. -/
theorem Holds.respected (holds : Holds channel frame) (active : rx.active = true) :
    Respected rx channel frame behind := by
  have within := holds.within behind active
  have same := handled_eq rx channel frame behind active within
  have whole (stored : Stored rx channel frame behind) : Whole frame := by
    rw [Stored, same] at stored
    exact holds.whole (accepts_of_success stored.1 stored.2)
  refine ⟨within, fun stored later => within_getHeader (whole stored).header, fun stored expected later => ?_,
    fun overlong => ?_, fun type short => ?_⟩
  · exact within_takePacket later (whole stored) expected
  · exact absurd holds.payload (Nat.not_le_of_lt overlong)
  · have invalid : (S3tpPacket.ofFrame frame channel).crcValid = false := by
      by_contra valid
      rw [Bool.not_eq_false] at valid
      have announced := holds.sync valid type
      rw [S3tpPacket.pdu, List.length_take, Nat.min_eq_left holds.payload] at short
      omega
    have refused : handled rx channel frame behind = (codeErrorCrcInvalid, none, rx) := by
      rw [same]
      simp [RxModule.handleReceivedPacket, active, invalid]
    have failed : codeErrorCrcInvalid ≠ codeSuccess := by decide
    rw [Refused, refused]
    exact ⟨failed, rfl⟩

/-- A sync frame with a matching checksum is never turned down. -/
theorem Respected.holds (respected : Respected rx channel frame behind) (active : rx.active = true) :
    Holds channel frame := by
  have same := handled_eq rx channel frame behind active respected.arrival
  have inside := (within_copied behind).mp respected.arrival
  obtain ⟨six, payload, rest⟩ := (within_handleFrame rx channel frame active).mp inside
  refine ⟨six, payload, fun valid type => ?_, fun valid type => ?_⟩
  · by_contra! less
    have short : (S3tpPacket.ofFrame frame channel).pdu.length < S3tpSync.size :=
      lt_of_le_of_lt (List.length_take_le ..) less
    have success : (handled rx channel frame behind).1 = codeSuccess := by
      rw [same]
      simp [RxModule.handleReceivedPacket, active, valid, type]
    exact (respected.short type short).1 success
  · exact ((within_dispatch rx channel frame six).mp (rest valid)).2 type

/-- The bounds are respected exactly for the frames that hold what is looked at. -/
theorem respected_iff_holds (active : rx.active = true) :
    Respected rx channel frame behind ↔ Holds channel frame :=
  ⟨fun respected => respected.holds active, fun holds => holds.respected active⟩

/-- A data frame of nine bytes. -/
def wholeFrame : List UInt8 := [0, 0, 0, 0, 1, 0, 0, 5, 0]

/-- A sync frame without payload. -/
def bareSync : List UInt8 := [0, 0, 0, 0, 0, 0xC0, 0, 0]

theorem respected_wholeFrame : Respected { active := true } 3 wholeFrame fun _ => 0 := by
  have data : (S3tpPacket.ofFrame wholeFrame 3).header.getMessageType ≠ msgSync := by decide
  exact (respected_iff_holds rfl).mpr
    ⟨by decide, by decide, fun _ synced => absurd synced data, fun _ _ => by decide⟩

/-- The sync structure of a frame that ends with its header is read behind it. -/
theorem not_respected : ¬ ∀ (rx : RxModule) (channel : UInt8) (frame : List UInt8) (behind : ℕ → UInt8),
    rx.active = true → Respected rx channel frame behind := by
  intro always
  have holds := (always { active := true } 3 bareSync (fun _ => 0) rfl).holds rfl
  have whole : S3tpSync.size ≤ (S3tpPacket.ofFrame bareSync 3).header.getPduLength.toNat :=
    holds.sync (by decide +kernel) (by decide)
  exact absurd whole (by decide)

/-! ## What waits in the buffer -/

/-- The packet was copied from a frame that has its header and its payload. -/
def Backed (packet : S3tpPacket) : Prop := ∃ frame channel, packet = S3tpPacket.ofFrame frame channel ∧ Whole frame

/-- Whatever arrives is a frame that holds what is looked at. -/
def Arrives (_ : RxSystem) (event : RxEvent) : Prop := ∀ packet, event = .receive packet →
  ∃ frame channel, packet = S3tpPacket.ofFrame frame channel ∧ Holds channel frame

theorem backed_step {s t : RxSystem} {event : RxEvent}
    (backed : ∀ port, ∀ packet ∈ s.rx.inBuffer.held port, Backed packet) (arrives : Arrives s event)
    (stepped : s.step event = some t) : ∀ port, ∀ packet ∈ t.rx.inBuffer.held port, Backed packet := by
  cases event with
  | openPort port =>
    obtain ⟨_, rfl⟩ := RxSystem.openPorts_of_openPort stepped
    exact backed
  | closePort port =>
    obtain ⟨_, rfl⟩ := RxSystem.openPorts_of_closePort stepped
    exact backed
  | receive arrived =>
    obtain ⟨frame, channel, rfl, holds⟩ := arrives arrived rfl
    cases accepted : s.rx.accepts (S3tpPacket.ofFrame frame channel) with
    | true =>
      obtain ⟨_, rfl, rfl⟩ := RxSystem.of_receive_data accepted stepped
      intro port packet member
      rw [RxModule.receiveData_held] at member
      split at member
      · simp at member
      · rcases Buffer.mem_held_write member with ⟨-, rfl⟩ | before
        · exact ⟨frame, channel, rfl, holds.whole accepted⟩
        · exact backed port packet before
    | false =>
      obtain ⟨rx, same, rfl⟩ := RxSystem.of_receive stepped
      obtain ⟨_, _, unchanged⟩ := RxModule.handleReceivedPacket_of_not_accepts accepted
      rw [unchanged] at same
      subst same
      exact backed
  | consume =>
    obtain ⟨delivery, rx, consumes, rfl⟩ := RxSystem.of_consume stepped
    have drains := RxModule.drains_of_getNextCompleteMessage consumes
    exact fun port packet member => backed port packet ((drains.suffix port).subset member)

/-- In every use of the module to which only such frames arrive, each packet in the buffer can be taken for a message
inside the frame it came in. -/
theorem backed_of_run {events : List RxEvent} {s : RxSystem} (run : Run RxSystem.step Arrives .started events s)
    (port : UInt8) {packet : S3tpPacket} (member : packet ∈ s.rx.inBuffer.held port) :
    ∃ frame channel, packet = S3tpPacket.ofFrame frame channel ∧ ∀ expected later,
      (takePacket expected).Within (copied frame later) (· < frame.length) := by
  have start : ∀ port, ∀ packet ∈ RxSystem.started.rx.inBuffer.held port, Backed packet :=
    fun _ _ nowhere => absurd nowhere List.not_mem_nil
  have backed := run.invariant (P := fun s => ∀ port, ∀ packet ∈ s.rx.inBuffer.held port, Backed packet)
    (fun _ _ _ kept arrives stepped => backed_step kept arrives stepped) start
  obtain ⟨frame, channel, rfl, whole⟩ := backed port packet member
  exact ⟨frame, channel, rfl, fun expected later => within_takePacket later whole expected⟩

end S3tp.Soundness.FrameBounds
