import S3tp.Model.Core.SendToLinkLayer
import S3tp.Model.Core.SequenceOrder
import Mathlib.Tactic.Ring

/-! # How a payload is split into fragments

Pass `i` of the fragmentation loop finds `i` full fragments written and the source pointer at their
sum over the earlier passes, so the third fragment is read one fragment too far. A payload is split
exactly if and only if it fits into two fragments.
-/

namespace S3tp.Soundness

open Model.Core

/-! ## The passes of the loop -/

/-- The number of fragments a payload of this length needs. -/
def fragmentCount (len : ℕ) : ℕ := (len + lenS3tpPdu - 1) / lenS3tpPdu

/-- Where pass `i` of the loop reads: the sum of the multiples of the fragment size up to `i`. -/
def sourceOffset (i : ℕ) : ℕ := lenS3tpPdu * (i * (i + 1) / 2)

theorem sourceOffset_succ (i : ℕ) : sourceOffset i + lenS3tpPdu * (i + 1) = sourceOffset (i + 1) := by
  have sum : (i + 1) * (i + 1 + 1) = i * (i + 1) + (i + 1) * 2 := by ring
  rw [sourceOffset, sourceOffset, ← Nat.mul_add, sum, Nat.add_mul_div_right _ _ (by decide)]

/-- From the third pass on the loop reads behind everything that is to be written by then. -/
theorem sourceOffset_ge {i : ℕ} (late : 2 ≤ i) : lenS3tpPdu * (i + 1) ≤ sourceOffset i := by
  refine Nat.mul_le_mul_left _ ((Nat.le_div_iff_mul_le (by decide)).mpr ?_)
  rw [Nat.mul_comm i]
  exact Nat.mul_le_mul_left _ late

/-- The call made in pass `i`. -/
def passCall (m : Submission) (fresh : ℕ → S3tpHeader) (i : ℕ) : EnqueueCall where
  source := sourceOffset i
  packet := m.fragment (fresh (lenS3tpPdu * i)) (lenS3tpPdu * i) (sourceOffset i)
  fragNo := UInt8.ofNat i
  moreFragments := decide (i + 1 < fragmentCount m.len)

theorem lt_fragmentCount_iff {len i : ℕ} : i < fragmentCount len ↔ lenS3tpPdu * i < len := by
  have size : lenS3tpPdu = 992 := rfl
  simp only [fragmentCount, size]
  omega

theorem fragmentCalls_from (m : Submission) (fresh : ℕ → S3tpHeader) (left : ℕ) : ∀ (i dataPtr : ℕ),
    i + left = fragmentCount m.len → (0 < left → dataPtr = sourceOffset i) →
    m.fragmentCalls fresh (min m.len (lenS3tpPdu * i)) dataPtr (UInt8.ofNat i) =
      (List.range' i left).map (passCall m fresh) := by
  induction left with
  | zero =>
    intro i dataPtr last _
    have done : ¬ lenS3tpPdu * i < m.len := by
      rw [← lt_fragmentCount_iff]
      omega
    rw [min_eq_left (not_lt.mp done), Submission.fragmentCalls, dif_neg (lt_irrefl _)]
    rfl
  | succ left ih =>
    intro i dataPtr count pointer
    have going : lenS3tpPdu * i < m.len := lt_fragmentCount_iff.mp (by omega)
    have total := m.written_fragment (fresh (lenS3tpPdu * i)) (sourceOffset i) going
    rw [← Nat.mul_succ] at total
    have more : min m.len (lenS3tpPdu * (i + 1)) < m.len ↔ i + 1 < fragmentCount m.len := by
      rw [lt_fragmentCount_iff, min_lt_iff, or_iff_right (lt_irrefl _)]
    rw [pointer (Nat.succ_pos _), min_eq_right going.le, Submission.fragmentCalls, dif_pos going]
    simp only [total, more]
    rw [← UInt8.ofNat_succ, ih (i + 1) _ (by omega), List.range'_succ, List.map_cons]
    · rfl
    · intro positive
      have full : lenS3tpPdu * (i + 1) < m.len := lt_fragmentCount_iff.mp (by omega)
      rw [min_eq_right full.le, sourceOffset_succ]

/-- The loop makes one call for each pass. -/
theorem fragmentCalls_eq (m : Submission) (fresh : ℕ → S3tpHeader) :
    m.fragmentCalls fresh 0 0 0 = (List.range (fragmentCount m.len)).map (passCall m fresh) := by
  rw [List.range_eq_range', ← fragmentCalls_from m fresh _ 0 0 (Nat.zero_add _) (fun _ => rfl),
    Nat.mul_zero, Nat.min_zero]
  rfl

/-! ## Handing the calls to the module -/

/-- The packet was stamped for the call. -/
structure Carries (call : EnqueueCall) (packet : S3tpPacket) : Prop where
  pdu : packet.pdu = call.packet.pdu
  pduLength : packet.header.getPduLength = call.packet.header.getPduLength
  port : packet.getPort = call.packet.getPort
  subSequence : packet.header.getSubSequence = call.fragNo
  moreFragments : packet.header.moreFragments = if call.moreFragments then 1 else 0

theorem carries_stamped (tx : TxModule) (call : EnqueueCall) :
    Carries call (tx.stamped call.packet call.fragNo call.moreFragments) where
  pdu := tx.stamped_pdu _ _ _
  pduLength := tx.stamped_getPduLength _ _ _
  port := tx.stamped_getPort _ _ _
  subSequence := tx.stamped_getSubSequence _ _ _
  moreFragments := tx.stamped_moreFragments _ _ _

/-- An active module whose other users leave the port alone accepts every call, and numbers the
packets one after the other. -/
theorem enqueueAll_carries {others : ℕ → TxModule → TxModule} {port : UInt8}
    (active : ∀ pass tx, (others pass tx).active = tx.active)
    (alone : ∀ pass tx, (others pass tx).portSequence port = tx.portSequence port)
    {calls : List EnqueueCall} (ported : ∀ call ∈ calls, call.packet.getPort = port) :
    ∀ (tx : TxModule) (pass n : ℕ), tx.active = true → tx.portSequence port = UInt8.ofNat n →
      (tx.enqueueAll others pass calls).1 = codeSuccess ∧
      List.Forall₂ Carries calls (tx.enqueueAll others pass calls).2.1 ∧
      Consecutive n (tx.enqueueAll others pass calls).2.1 := by
  induction calls with
  | nil => exact fun _ _ _ _ _ => ⟨rfl, .nil, .nil⟩
  | cons call rest ih =>
    intro tx pass n isActive number
    have ownPort : call.packet.getPort = port := ported call (by simp)
    have accepted : (others pass tx).stampPacket call.packet call.fragNo call.moreFragments =
        some ((others pass tx).stamped call.packet call.fragNo call.moreFragments,
          (others pass tx).advance port) :=
      TxModule.stampPacket_eq_some_iff.mpr ⟨(active pass tx).trans isActive, rfl, by rw [ownPort]⟩
    have next : (((others pass tx).advance port).writePacket
        ((others pass tx).stamped call.packet call.fragNo call.moreFragments)).portSequence port =
        UInt8.ofNat (n + 1) := by
      rw [UInt8.ofNat_succ, ← number, ← alone pass tx]
      exact Function.update_self ..
    obtain ⟨success, carried, numbered⟩ := ih (fun other member => ported other (by simp [member]))
      (((others pass tx).advance port).writePacket _) (pass + 1) (n + 1)
      ((active pass tx).trans isActive) next
    simp only [TxModule.enqueueAll, accepted]
    refine ⟨success, .cons (carries_stamped _ call) carried, Consecutive.cons_iff.mpr ⟨?_, numbered⟩⟩
    rw [TxModule.stamped_seqPort, ownPort, alone, number]

/-! ## Exact splits -/

/-- The packets enqueued for a payload split it exactly. -/
structure SplitsExactly (m : Submission) (calls : List EnqueueCall) (packets : List S3tpPacket) : Prop where
  count : packets.length = fragmentCount m.len
  inBounds : ∀ call ∈ calls, call.source + call.packet.payload.length ≤ m.len
  content : packets.flatMap S3tpPacket.pdu = m.data
  numbered : packets.map (·.header.getSubSequence) = (List.range packets.length).map UInt8.ofNat
  full : ∀ packet ∈ packets.dropLast, packet.header.getPduLength.toNat = lenS3tpPdu ∧
    packet.header.moreFragments = 1
  final : ∀ packet ∈ packets.getLast?, packet.header.getPduLength ≠ 0 ∧ packet.header.moreFragments = 0
  consecutive : ∃ n, Consecutive n packets

theorem fragmentCount_of_two {len : ℕ} (long : lenS3tpPdu < len) (short : len ≤ 2 * lenS3tpPdu) :
    fragmentCount len = 2 := by
  have size : lenS3tpPdu = 992 := rfl
  simp only [fragmentCount, size] at long short ⊢
  omega

/-- A payload of two fragments is read in two consecutive pieces. -/
theorem passCall_of_two (m : Submission) (fresh : ℕ → S3tpHeader) (long : lenS3tpPdu < m.len)
    (short : m.len ≤ 2 * lenS3tpPdu) :
    m.fragmentCalls fresh 0 0 0 =
      [⟨0, m.packet (fresh 0) 0 lenS3tpPdu, 0, true⟩,
       ⟨lenS3tpPdu, m.packet (fresh lenS3tpPdu) lenS3tpPdu (m.len - lenS3tpPdu), 1, false⟩] := by
  have first : ¬ m.len < 0 + lenS3tpPdu := by omega
  have second : (if m.len < lenS3tpPdu + lenS3tpPdu then m.len - lenS3tpPdu else lenS3tpPdu) =
      m.len - lenS3tpPdu := by split <;> omega
  rw [fragmentCalls_eq, fragmentCount_of_two long short]
  simp only [List.range_succ_eq_map, List.range_zero, List.map_cons, List.map_nil, passCall, sourceOffset,
    Submission.fragment, fragmentCount_of_two long short, Nat.mul_zero, Nat.mul_one, first, if_false, second]
  rfl

theorem splitsExactly_of_two {m : Submission} {fresh : ℕ → S3tpHeader} {packets : List S3tpPacket} {n : ℕ}
    (long : lenS3tpPdu < m.len) (short : m.len ≤ 2 * lenS3tpPdu)
    (carried : List.Forall₂ Carries (m.fragmentCalls fresh 0 0 0) packets) (numbered : Consecutive n packets) :
    SplitsExactly m (m.fragmentCalls fresh 0 0 0) packets := by
  have size : lenS3tpPdu = 992 := rfl
  rw [passCall_of_two m fresh long short] at carried ⊢
  obtain _ | ⟨first, _ | ⟨second, _ | _⟩⟩ := carried
  rename_i head tail
  have firstLength := m.getPduLength_packet (fresh 0) 0 lenS3tpPdu (by decide)
  have secondLength := m.getPduLength_packet (fresh lenS3tpPdu) lenS3tpPdu (m.len - lenS3tpPdu) (by omega)
  refine ⟨(fragmentCount_of_two long short).symm, ?_, ?_, ?_, ?_, ?_, n, numbered⟩
  · simp [Submission.packet, S3tpPacket.ofPdu, Submission.copied]
    omega
  · have joined := m.copied_append 0 lenS3tpPdu (m.len - lenS3tpPdu)
    rw [Nat.zero_add, Nat.add_sub_cancel' long.le, m.copied_zero_len] at joined
    simp only [List.flatMap_cons, List.flatMap_nil, List.append_nil, first.pdu, second.pdu,
      m.pdu_packet (fresh 0) 0 lenS3tpPdu (by decide),
      m.pdu_packet (fresh lenS3tpPdu) lenS3tpPdu (m.len - lenS3tpPdu) (by omega), joined]
  · simp only [List.map_cons, List.map_nil, first.subSequence, second.subSequence]
    rfl
  · simpa [first.pduLength, first.moreFragments] using firstLength
  · have positive : (m.packet (fresh lenS3tpPdu) lenS3tpPdu (m.len - lenS3tpPdu)).header.getPduLength ≠ 0 := by
      intro zero
      rw [zero] at secondLength
      simp at secondLength
      omega
    simpa [second.pduLength, second.moreFragments] using positive

/-- The last pass of three or more reads outside the payload. -/
theorem two_of_splitsExactly {m : Submission} {fresh : ℕ → S3tpHeader} {packets : List S3tpPacket}
    (exact : SplitsExactly m (m.fragmentCalls fresh 0 0 0) packets) : m.len ≤ 2 * lenS3tpPdu := by
  by_contra long
  have size : lenS3tpPdu = 992 := rfl
  obtain ⟨k, count⟩ : ∃ k, fragmentCount m.len = k + 3 := by
    have third : 2 < fragmentCount m.len := lt_fragmentCount_iff.mpr (by omega)
    exact ⟨fragmentCount m.len - 3, by omega⟩
  have lastPass : lenS3tpPdu * (k + 2) < m.len := lt_fragmentCount_iff.mp (by omega)
  have covered : ¬ lenS3tpPdu * (k + 3) < m.len := by
    rw [← lt_fragmentCount_iff]
    omega
  have bounds := exact.inBounds (passCall m fresh (k + 2)) (by
    rw [fragmentCalls_eq, count]
    exact List.mem_map.mpr ⟨k + 2, List.mem_range.mpr (by omega), rfl⟩)
  have far : lenS3tpPdu * (k + 3) ≤ (passCall m fresh (k + 2)).source := sourceOffset_ge (by omega)
  have bytes : 0 < (passCall m fresh (k + 2)).packet.payload.length := by
    simp only [passCall, Submission.fragment, Submission.packet, S3tpPacket.ofPdu, Submission.copied,
      List.length_map, List.length_range']
    split <;> omega
  omega

/-- A payload that needs fragmentation is split exactly if and only if it fits into two fragments. -/
theorem splitsExactly_iff (m : Submission) (fresh : ℕ → S3tpHeader) (others : ℕ → TxModule → TxModule)
    (tx : TxModule) (long : lenS3tpPdu < m.len) (active : tx.active = true)
    (steady : ∀ pass tx, (others pass tx).active = tx.active)
    (alone : ∀ pass tx, (others pass tx).portSequence (m.port &&& 0x7F) = tx.portSequence (m.port &&& 0x7F)) :
    SplitsExactly m (m.fragmentCalls fresh 0 0 0) (tx.fragmentPayload others fresh m).2.1 ↔
      m.len ≤ 2 * lenS3tpPdu := by
  refine ⟨two_of_splitsExactly, fun short => ?_⟩
  have ported : ∀ call ∈ m.fragmentCalls fresh 0 0 0, call.packet.getPort = m.port &&& 0x7F := by
    intro call member
    rw [fragmentCalls_eq] at member
    obtain ⟨i, -, rfl⟩ := List.mem_map.mp member
    exact m.getPort_packet _ _ _
  obtain ⟨-, carried, numbered⟩ := enqueueAll_carries steady alone ported tx 0 _ active
    (UInt8.ofNat_toNat (x := tx.portSequence (m.port &&& 0x7F))).symm
  exact splitsExactly_of_two long short carried numbered

/-- A payload of the given length on port 5, counting its bytes. -/
def counting (len : ℕ) : Submission := { channel := 0, port := 5, memory := UInt8.ofNat, len, opts := 0 }

/-- A started module that no one else uses. -/
def idleModule : TxModule := (TxModule.create default).startRoutine

/-- One byte more than a packet holds goes out in two fragments. -/
theorem splitsExactly_993 : SplitsExactly (counting 993) ((counting 993).fragmentCalls (fun _ => default) 0 0 0)
    (idleModule.fragmentPayload (fun _ tx => tx) (fun _ => default) (counting 993)).2.1 :=
  (splitsExactly_iff (counting 993) (fun _ => default) (fun _ tx => tx) idleModule (by decide) rfl
    (fun _ _ => rfl) (fun _ _ => rfl)).mpr (by decide)

/-- One byte more than two packets hold is read from 991 bytes behind the payload's end. -/
theorem not_splitsExactly_1985 :
    ¬ SplitsExactly (counting 1985) ((counting 1985).fragmentCalls (fun _ => default) 0 0 0)
      (idleModule.fragmentPayload (fun _ tx => tx) (fun _ => default) (counting 1985)).2.1 := by
  intro exact
  exact absurd (two_of_splitsExactly exact) (by decide)

end S3tp.Soundness
