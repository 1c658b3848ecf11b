import S3tp.Soundness.OneByte
import S3tp.Model.Core.Message

/-! # Detecting and assembling complete messages

`isCompleteMessageForPortAvailable` adds the expected number and the count of packets as `int`s, counts
the packets in a byte, and goes on behind a last fragment that does not carry its index. So it misses a
message whose numbers go from 255 to 0, and it can find one where there is none. Whatever it finds,
`getNextCompleteMessage` agrees with its numbers, and takes the packets up to the first last fragment.
-/

namespace S3tp.Soundness

open Model.Core Model.Core.RxModule Model.Concurrent

variable {c : UInt8} {queue : List S3tpPacket} {i k : ℕ}

/-- The queue starts with packets numbered `c`, ..., `c + k` modulo 256 that carry the sub-sequences `0`,
..., `k`, with the more-fragments flag on all but the last. -/
def StartsCompleteTo (c : UInt8) (queue : List S3tpPacket) (k : ℕ) : Prop :=
  ∀ i ≤ k, ∃ packet ∈ queue[i]?, packet.header.seqPort = c + UInt8.ofNat i ∧
    packet.header.getSubSequence.toNat = i ∧ (packet.header.moreFragments ≠ 0 ↔ i < k)

def StartsComplete (c : UInt8) (queue : List S3tpPacket) : Prop := ∃ k, StartsCompleteTo c queue k

/-! ## What the scan looks for -/

/-- Packet `i` carries its number, without a turn, and the more-fragments flag exactly if it carries its index. -/
def Passes (c : UInt8) (i : ℕ) (packet : S3tpPacket) : Prop :=
  packet.header.seqPort.toNat = c.toNat + i % 256 ∧
    (packet.header.moreFragments ≠ 0 ↔ packet.header.getSubSequence.toNat = i % 256)

/-- Packet `i` carries its number, without a turn, and its index, and is a last fragment. -/
def Ends (c : UInt8) (i : ℕ) (packet : S3tpPacket) : Prop :=
  packet.header.seqPort.toNat = c.toNat + i % 256 ∧ packet.header.moreFragments = 0 ∧
    packet.header.getSubSequence.toNat = i % 256

/-- The scan passes packets `0`, ..., `k - 1` of the queue and ends at packet `k`. -/
structure ScansTo (c : UInt8) (i : ℕ) (queue : List S3tpPacket) (k : ℕ) : Prop where
  passes : ∀ j < k, ∃ packet ∈ queue[j]?, Passes c (i + j) packet
  ends : ∃ packet ∈ queue[k]?, Ends c (i + k) packet

theorem scansTo_zero_iff {packet : S3tpPacket} : ScansTo c i (packet :: queue) 0 ↔ Ends c i packet := by
  constructor
  · intro scan
    simpa using scan.ends
  · exact fun ends => ⟨fun _ below => absurd below (Nat.not_lt_zero _), packet, rfl, ends⟩

theorem scansTo_succ_iff {packet : S3tpPacket} :
    ScansTo c i (packet :: queue) (k + 1) ↔ Passes c i packet ∧ ScansTo c (i + 1) queue k := by
  have shift (j : ℕ) : i + 1 + j = i + (j + 1) := by omega
  constructor
  · intro scan
    refine ⟨by simpa using scan.passes 0 (Nat.succ_pos k), fun j below => ?_, ?_⟩
    · have later := scan.passes (j + 1) (Nat.succ_lt_succ below)
      rw [← shift] at later
      simpa using later
    · have later := scan.ends
      rw [← shift] at later
      simpa using later
  · rintro ⟨first, later⟩
    refine ⟨fun j below => ?_, ?_⟩
    · cases j with
      | zero => exact ⟨packet, rfl, first⟩
      | succ j =>
        have passed := later.passes j (Nat.lt_of_succ_lt_succ below)
        rw [shift] at passed
        simpa using passed
    · have ended := later.ends
      rw [shift] at ended
      simpa using ended

theorem scanComplete_eq_true_iff {queue : List S3tpPacket} :
    ∀ {i : ℕ}, scanComplete c (UInt8.ofNat i) queue = true ↔ ∃ k, ScansTo c i queue k := by
  induction queue with
  | nil =>
    intro i
    constructor
    · intro found
      simp [scanComplete] at found
    · rintro ⟨k, scan⟩
      obtain ⟨packet, none, -⟩ := scan.ends
      simp at none
  | cons packet later ih =>
    intro i
    have index : packet.header.getSubSequence = UInt8.ofNat i ↔ packet.header.getSubSequence.toNat = i % 256 := by
      rw [← UInt8.toNat_inj, UInt8.toNat_ofNat']
    have split : (∃ k, ScansTo c i (packet :: later) k) ↔
        Ends c i packet ∨ (Passes c i packet ∧ ∃ k, ScansTo c (i + 1) later k) := by
      constructor
      · rintro ⟨_ | k, scan⟩
        · exact .inl (scansTo_zero_iff.mp scan)
        · obtain ⟨first, rest⟩ := scansTo_succ_iff.mp scan
          exact .inr ⟨first, k, rest⟩
      · rintro (ends | ⟨first, k, rest⟩)
        · exact ⟨0, scansTo_zero_iff.mpr ends⟩
        · exact ⟨k + 1, scansTo_succ_iff.mpr ⟨first, rest⟩⟩
    rw [split, ← ih, UInt8.ofNat_succ]
    simp only [scanComplete, Ends, Passes, ← index, UInt8.toNat_ofNat']
    split
    · next other => simp [other]
    next number =>
    rw [not_not] at number
    rcases Classical.em (packet.header.moreFragments = 0) with final | flagged
    · rcases Classical.em (packet.header.getSubSequence = UInt8.ofNat i) with own | other
      · simp [number, final, own]
      · simp [number, final, other]
    · rcases Classical.em (packet.header.getSubSequence = UInt8.ofNat i) with own | other
      · simp [number, flagged, own]
      · simp [number, flagged, other]

theorem isCompleteMessageForPortAvailable_iff (rx : RxModule) (port : UInt8) :
    rx.isCompleteMessageForPortAvailable port = true ↔
      ∃ k, ScansTo (rx.currentPortSequence port) 0 (rx.inBuffer.held port) k :=
  scanComplete_eq_true_iff

/-! ## Where detection goes wrong -/

/-- The queue starts with a complete message whose numbers go from 255 to 0. -/
def StartsAcrossTurn (c : UInt8) (queue : List S3tpPacket) : Prop :=
  ∃ k, StartsCompleteTo c queue k ∧ 256 ≤ c.toNat + k

/-- The scan ends behind more packets than a byte counts, or behind a last fragment that it has passed. -/
def StartsMisleading (c : UInt8) (queue : List S3tpPacket) : Prop :=
  ∃ k, ScansTo c 0 queue k ∧
    (256 ≤ k ∨ ∃ j < k, ∃ packet ∈ queue[j]?, packet.header.moreFragments = 0)

theorem StartsCompleteTo.lt (complete : StartsCompleteTo c queue k) : k < 256 := by
  obtain ⟨packet, -, -, index, -⟩ := complete k le_rfl
  have bound := packet.header.getSubSequence.toNat_lt
  omega

/-- Within a turn the scan passes the fragments of a message and ends at its last. -/
theorem StartsCompleteTo.scansTo (complete : StartsCompleteTo c queue k) (inTurn : c.toNat + k < 256) :
    ScansTo c 0 queue k := by
  have fragment (i : ℕ) (le : i ≤ k) : ∃ packet ∈ queue[i]?,
      packet.header.seqPort.toNat = c.toNat + (0 + i) % 256 ∧
      packet.header.getSubSequence.toNat = (0 + i) % 256 ∧ (packet.header.moreFragments ≠ 0 ↔ i < k) := by
    obtain ⟨packet, held, number, index, flag⟩ := complete i le
    refine ⟨packet, held, ?_, by omega, flag⟩
    rw [number, UInt8.toNat_add, UInt8.toNat_ofNat']
    omega
  refine ⟨fun j below => ?_, ?_⟩
  · obtain ⟨packet, held, number, index, flag⟩ := fragment j (Nat.le_of_lt below)
    exact ⟨packet, held, number, fun _ => index, fun _ => flag.mpr below⟩
  · obtain ⟨packet, held, number, index, flag⟩ := fragment k le_rfl
    exact ⟨packet, held, number, not_not.mp (flag.not.mpr (lt_irrefl k)), index⟩

/-- What the scan ends at within a byte, past no last fragment, is the end of a message. -/
theorem ScansTo.startsCompleteTo (scan : ScansTo c 0 queue k) (short : k < 256)
    (clean : ∀ j < k, ∀ packet ∈ queue[j]?, packet.header.moreFragments ≠ 0) : StartsCompleteTo c queue k := by
  have number {i : ℕ} {packet : S3tpPacket} (le : i ≤ k)
      (same : packet.header.seqPort.toNat = c.toNat + (0 + i) % 256) :
      packet.header.seqPort = c + UInt8.ofNat i := by
    have bound := packet.header.seqPort.toNat_lt
    rw [← UInt8.toNat_inj, UInt8.toNat_add, UInt8.toNat_ofNat']
    omega
  intro i le
  rcases Nat.lt_or_eq_of_le le with below | rfl
  · obtain ⟨packet, held, same, passed⟩ := scan.passes i below
    have flagged := clean i below packet held
    have index := passed.mp flagged
    exact ⟨packet, held, number le same, by omega, fun _ => below, fun _ => flagged⟩
  · obtain ⟨packet, held, same, final, index⟩ := scan.ends
    exact ⟨packet, held, number le same, by omega, fun flagged => absurd final flagged,
      fun below => absurd below (lt_irrefl _)⟩

/-- The scan of a queue that starts with a complete message can end only with it. -/
theorem StartsCompleteTo.eq_of_scansTo {k' : ℕ} (complete : StartsCompleteTo c queue k) (scan : ScansTo c 0 queue k') :
    k = k' := by
  have short := complete.lt
  rcases Nat.lt_trichotomy k k' with before | same | behind
  · obtain ⟨packet, held, -, index, flag⟩ := complete k le_rfl
    obtain ⟨packet', held', -, passed⟩ := scan.passes k before
    obtain rfl := Option.mem_unique held held'
    exact absurd (passed.mpr (by omega)) (flag.not.mpr (lt_irrefl k))
  · exact same
  · obtain ⟨packet, held, -, -, flag⟩ := complete k' (Nat.le_of_lt behind)
    obtain ⟨packet', held', -, final, -⟩ := scan.ends
    obtain rfl := Option.mem_unique held held'
    exact absurd final (flag.mpr behind)

/-- Detection is exact unless the queue starts with a complete message across a turn of the numbers, or with
packets that mislead the scan. -/
theorem detection_exact_iff (rx : RxModule) (port : UInt8) :
    (rx.isCompleteMessageForPortAvailable port = true ↔
        StartsComplete (rx.currentPortSequence port) (rx.inBuffer.held port)) ↔
      ¬ StartsAcrossTurn (rx.currentPortSequence port) (rx.inBuffer.held port) ∧
        ¬ StartsMisleading (rx.currentPortSequence port) (rx.inBuffer.held port) := by
  rw [isCompleteMessageForPortAvailable_iff]
  generalize rx.currentPortSequence port = c, rx.inBuffer.held port = queue
  constructor
  · intro exact
    refine ⟨?_, ?_⟩
    · rintro ⟨k, complete, crosses⟩
      obtain ⟨k', scan⟩ := exact.mpr ⟨k, complete⟩
      obtain rfl := complete.eq_of_scansTo scan
      obtain ⟨packet, -, number, -⟩ := scan.ends
      have bound := packet.header.seqPort.toNat_lt
      have short := complete.lt
      omega
    · rintro ⟨k', scan, misled⟩
      obtain ⟨k, complete⟩ := exact.mp ⟨k', scan⟩
      obtain rfl := complete.eq_of_scansTo scan
      rcases misled with long | ⟨j, below, packet, held, final⟩
      · exact absurd complete.lt (Nat.not_lt_of_le long)
      · obtain ⟨packet', held', -, -, flag⟩ := complete j (Nat.le_of_lt below)
        obtain rfl := Option.mem_unique held held'
        exact absurd final (flag.mpr below)
  · rintro ⟨inTurn, leading⟩
    constructor
    · rintro ⟨k, scan⟩
      refine ⟨k, scan.startsCompleteTo ?_ ?_⟩
      · by_contra long
        exact leading ⟨k, scan, .inl (Nat.le_of_not_lt long)⟩
      · intro j below packet held final
        exact leading ⟨k, scan, .inr ⟨j, below, packet, held, final⟩⟩
    · rintro ⟨k, complete⟩
      refine ⟨k, complete.scansTo ?_⟩
      by_contra crosses
      exact inTurn ⟨k, complete, Nat.le_of_not_lt crosses⟩

/-- A started receiver that holds the packets on port 5, expects the number there and has the port flagged. -/
def holding (number : UInt8) (queue : List S3tpPacket) : RxModule where
  active := true
  inBuffer :=
    { queues := Function.update (fun _ => .empty) 5 ⟨queue, UInt16.ofNat queue.length⟩
      packetCounter := ByteMap.empty.insert 5 queue.length }
  currentPortSequence := Function.update (fun _ => 0) 5 number
  availableMessages := ByteMap.empty.insert 5 1

@[simp] theorem holding_held (number : UInt8) (queue : List S3tpPacket) :
    (holding number queue).inBuffer.held 5 = queue := rfl

@[simp] theorem holding_currentPortSequence (number : UInt8) (queue : List S3tpPacket) :
    (holding number queue).currentPortSequence 5 = number := rfl

/-- Two fragments numbered 255 and 0 are missed. Two last fragments that both carry index 1 are found. -/
theorem not_detection_exact :
    (StartsComplete 255 [fragmentOf 0 255 0 true, fragmentOf 1 0 1 false] ∧
      (holding 255 [fragmentOf 0 255 0 true, fragmentOf 1 0 1 false]).isCompleteMessageForPortAvailable 5 = false) ∧
    ¬ StartsComplete 0 [fragmentOf 0 0 1 false, fragmentOf 1 1 1 false] ∧
      (holding 0 [fragmentOf 0 0 1 false, fragmentOf 1 1 1 false]).isCompleteMessageForPortAvailable 5 = true := by
  refine ⟨⟨⟨1, ?_⟩, ?_⟩, ?_, ?_⟩
  · intro i le
    interval_cases i
    · exact ⟨_, rfl, by simp⟩
    · exact ⟨_, rfl, by simp⟩
  · simp [isCompleteMessageForPortAvailable_eq, scanComplete]
  · rintro ⟨k, complete⟩
    obtain ⟨packet, held, -, index, -⟩ := complete 0 (Nat.zero_le k)
    obtain rfl := Option.some.inj held
    simp at index
  · simp [isCompleteMessageForPortAvailable_eq, scanComplete]

end S3tp.Soundness
