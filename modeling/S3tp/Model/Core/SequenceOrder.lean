import S3tp.Model.Core.Buffer
import S3tp.ToMathlib.ByteSequence
import Mathlib.Data.List.Nodup

/-! # Ordering packets by their distance from the next one to consume

Both modules compare two packets of a port by their port sequence numbers relative to a moving
offset, the number the next consumed packet should carry. Packets are numbered without bound here:
`Consecutive n packets` says that they carry `n`, `n + 1`, ... as far as a byte shows it. While the
queue spans at most one turn beyond the offset, the comparison is the true order.
-/

namespace S3tp.Model.Core

/-- The common body of `TxModule::comparePriority` and `RxModule::comparePriority`: the module
supplies the map it reads the offset from. -/
def comparePortSequence (offsets : UInt8 → UInt8) (element1 element2 : S3tpPacket) : ℤ :=
  let offset := offsets element1.getPort
  let seq1 := element1.header.seqPort - offset
  let seq2 := element2.header.seqPort - offset
  if seq1 < seq2 then -1 else if seq1 > seq2 then 1 else 0

/-- The packets carry consecutive port sequence numbers from `n` on. -/
def Consecutive (n : ℕ) (packets : List S3tpPacket) : Prop :=
  packets.map (·.header.seqPort) = (List.range' n packets.length).map UInt8.ofNat

theorem comparePortSequence_neg_iff (offsets : UInt8 → UInt8) (element1 element2 : S3tpPacket) :
    comparePortSequence offsets element1 element2 < 0 ↔
      element1.header.seqPort - offsets element1.getPort <
        element2.header.seqPort - offsets element1.getPort := by
  simp only [comparePortSequence]
  split_ifs with less more <;> simp [less]

namespace Consecutive

variable {n : ℕ} {packets more : List S3tpPacket} {packet : S3tpPacket}

@[simp] theorem nil : Consecutive n [] := rfl

theorem append_iff : Consecutive n (packets ++ more) ↔
    Consecutive n packets ∧ Consecutive (n + packets.length) more := by
  simp only [Consecutive, List.map_append, List.length_append, ← List.range'_append_1]
  constructor
  · intro same
    exact List.append_inj same (by simp)
  · rintro ⟨first, second⟩
    rw [first, second]

theorem singleton_iff : Consecutive n [packet] ↔ packet.header.seqPort = UInt8.ofNat n := by
  simp [Consecutive]

theorem cons_iff : Consecutive n (packet :: packets) ↔
    packet.header.seqPort = UInt8.ofNat n ∧ Consecutive (n + 1) packets := by
  rw [← List.singleton_append, append_iff, singleton_iff, List.length_singleton]

/-- Each packet's number by position. -/
theorem getElem (consecutive : Consecutive n packets) {i : ℕ} (bound : i < packets.length) :
    packets[i].header.seqPort = UInt8.ofNat (n + i) := by
  have entry := congrArg (·[i]?) consecutive
  simpa [bound] using entry

/-- Everything that does not touch the sequence numbers keeps a list consecutive. -/
theorem congr (same : packets.map (·.header.seqPort) = more.map (·.header.seqPort)) :
    Consecutive n packets ↔ Consecutive n more := by
  have length : packets.length = more.length := by simpa using congrArg List.length same
  rw [Consecutive, Consecutive, same, length]

/-- Numbers count modulo a turn. -/
theorem ofNat_congr {m : ℕ} (same : UInt8.ofNat n = UInt8.ofNat m) :
    Consecutive n packets ↔ Consecutive m packets := by
  induction packets generalizing n m with
  | nil => rfl
  | cons packet rest ih =>
    have next : UInt8.ofNat (n + 1) = UInt8.ofNat (m + 1) := by
      rw [UInt8.ofNat_succ, UInt8.ofNat_succ, same]
    rw [cons_iff, cons_iff, same, ih next]

end Consecutive

/-- Within one turn of the first number, every packet has a number of its own. -/
theorem Consecutive.nodup {n : ℕ} {packets : List S3tpPacket} (consecutive : Consecutive n packets)
    (short : packets.length ≤ 256) : packets.Nodup := by
  refine List.Nodup.of_map (fun packet : S3tpPacket => packet.header.seqPort) ?_
  rw [consecutive]
  refine List.Nodup.map_on ?_ List.nodup_range'
  intro i hi j hj same
  simp only [List.mem_range'_1] at hi hj
  have lower := congrArg UInt8.toNat same
  simp only [UInt8.toNat_ofNat'] at lower
  omega

/-- Packets of one port that are numbered on from the offset compare as their positions do. -/
theorem ahead_iff {policy : PolicyActor S3tpPacket} {offsets : UInt8 → UInt8}
    (compare : policy.comparePriority = comparePortSequence offsets) {port : UInt8} {n : ℕ}
    {packets : List S3tpPacket} (offset : offsets port = UInt8.ofNat n) (consecutive : Consecutive n packets)
    (short : packets.length ≤ 256) {i j : ℕ} (hi : i < packets.length) (hj : j < packets.length)
    (ported : packets[i].getPort = port) : Buffer.ahead policy packets[i] packets[j] = true ↔ i < j := by
  rw [Buffer.ahead, compare, decide_eq_true_eq, comparePortSequence_neg_iff, ported, offset,
    consecutive.getElem hi, consecutive.getElem hj]
  exact UInt8.ofNat_sub_lt_iff (by omega) (by omega)

/-- A packet goes between those that come before it in sequence and those that come after it. -/
theorem insertFromTail_between {policy : PolicyActor S3tpPacket} {offsets : UInt8 → UInt8}
    (compare : policy.comparePriority = comparePortSequence offsets) {port : UInt8} {n : ℕ}
    {front back front' back' : List S3tpPacket} {packet : S3tpPacket} (offset : offsets port = UInt8.ofNat n)
    (ported : ∀ other ∈ front ++ back, other.getPort = port)
    (consecutive : Consecutive n (front ++ packet :: back))
    (short : (front ++ packet :: back).length ≤ 256) (before : front' ⊆ front) (after : back' ⊆ back) :
    (front' ++ back').insertFromTail (Buffer.ahead policy) packet = front' ++ packet :: back' := by
  have here : front.length < (front ++ packet :: back).length := by simp
  have middle : (front ++ packet :: back)[front.length] = packet := by simp
  apply List.insertFromTail_append
  · intro last found
    obtain ⟨i, bound, rfl⟩ := List.getElem_of_mem (before (List.mem_of_getLast? found))
    have place : i < (front ++ packet :: back).length := by simp; omega
    have position : (front ++ packet :: back)[i] = front[i] := List.getElem_append_left bound
    have order := ahead_iff compare offset consecutive short place here
      (by rw [position]; exact ported _ (by simp))
    rw [position, middle] at order
    exact order.mpr bound
  · intro other member
    obtain ⟨i, bound, rfl⟩ := List.getElem_of_mem (after member)
    have place : front.length + (i + 1) < (front ++ packet :: back).length := by simp; omega
    have position : (front ++ packet :: back)[front.length + (i + 1)] = back[i] := by simp
    have order := ahead_iff compare offset consecutive short place here
      (by rw [position]; exact ported _ (by simp))
    rw [position, middle] at order
    rw [← Bool.not_eq_true, order]
    omega

/-- The next packet in sequence goes to the tail while it is less than a turn from the offset. -/
theorem insertFromTail_next {policy : PolicyActor S3tpPacket} {offsets : UInt8 → UInt8}
    (compare : policy.comparePriority = comparePortSequence offsets) {port : UInt8} {n : ℕ}
    {queue : List S3tpPacket} {packet : S3tpPacket} (offset : offsets port = UInt8.ofNat n)
    (ported : ∀ other ∈ queue, other.getPort = port) (consecutive : Consecutive n (queue ++ [packet]))
    (short : queue.length < 256) :
    queue.insertFromTail (Buffer.ahead policy) packet = queue ++ [packet] := by
  have placed : (queue ++ []).insertFromTail (Buffer.ahead policy) packet = queue ++ packet :: [] :=
    insertFromTail_between compare offset (by simpa using ported) consecutive (by simp; omega)
      (List.Subset.refl queue) (List.Subset.refl [])
  simpa using placed

end S3tp.Model.Core
