import S3tp.Soundness.FragmentSplit
import S3tp.Soundness.Recovery

/-! # From payloads to messages

A payload is handed to the transmitting module in numbered calls, and the packets stamped for these are a
message. What the receiver puts together from them is what was copied for the calls: for a payload of one
or two packets the payload itself.
-/

namespace S3tp.Soundness

open Model.Core Model.Core.RxModule Model.Concurrent

/-! ## The calls of a payload -/

/-- The calls are numbered on from `i`, and all but the last say that more of them follow. -/
inductive Indexed : ℕ → List EnqueueCall → Prop
  | last {i : ℕ} {call : EnqueueCall} : call.fragNo = UInt8.ofNat i → call.moreFragments = false → Indexed i [call]
  | more {i : ℕ} {call : EnqueueCall} {rest : List EnqueueCall} : call.fragNo = UInt8.ofNat i →
      call.moreFragments = true → Indexed (i + 1) rest → Indexed i (call :: rest)

theorem indexed_passCalls (m : Submission) (fresh : ℕ → S3tpHeader) (left : ℕ) : ∀ {i : ℕ},
    i + (left + 1) = fragmentCount m.len → Indexed i ((List.range' i (left + 1)).map (passCall m fresh)) := by
  induction left with
  | zero =>
    intro i count
    refine .last rfl (decide_eq_false ?_)
    omega
  | succ left ih =>
    intro i count
    rw [List.range'_succ, List.map_cons]
    refine .more rfl (decide_eq_true ?_) (ih (by omega))
    omega

theorem indexed_calls (m : Submission) (fresh : ℕ → S3tpHeader) : Indexed 0 (m.calls fresh) := by
  rw [Submission.calls]
  split
  · next long =>
    have positive : 0 < fragmentCount m.len := lt_fragmentCount_iff.mpr (by omega)
    obtain ⟨left, count⟩ := Nat.exists_eq_succ_of_ne_zero positive.ne'
    rw [fragmentCalls_eq, count, List.range_eq_range']
    exact indexed_passCalls m fresh left (by omega)
  · exact .last rfl rfl

/-- Every call of a payload fills its packet. -/
theorem filled_of_mem_calls {m : Submission} {fresh : ℕ → S3tpHeader} {call : EnqueueCall}
    (member : call ∈ m.calls fresh) : call.packet.getPort = m.port &&& 0x7F ∧
      call.packet.header.getPduLength.toNat = call.packet.pdu.length := by
  obtain ⟨header, source, count, bound, same⟩ : ∃ header source count, count < 2 ^ 14 ∧
      call.packet = m.packet header source count := by
    have size : lenS3tpPdu = 992 := rfl
    rw [Submission.calls] at member
    split at member
    · rw [fragmentCalls_eq] at member
      obtain ⟨i, -, rfl⟩ := List.mem_map.mp member
      refine ⟨_, _, _, ?_, rfl⟩
      split <;> omega
    · obtain rfl := List.mem_singleton.mp member
      exact ⟨_, _, _, by omega, rfl⟩
  rw [same, m.getPort_packet, m.getPduLength_packet header source count bound, m.pdu_packet header source count bound]
  simp [Submission.copied]

/-- The bytes handed over in the calls. -/
def content (calls : List EnqueueCall) : List UInt8 := calls.flatMap fun call => call.packet.pdu

theorem length_passCall (m : Submission) (fresh : ℕ → S3tpHeader) (i : ℕ) :
    (passCall m fresh i).packet.pdu.length = min (m.len - lenS3tpPdu * i) lenS3tpPdu := by
  have size : lenS3tpPdu = 992 := rfl
  simp only [passCall, Submission.fragment]
  rw [m.pdu_packet _ _ _ (by split <;> omega), Submission.copied, List.length_map, List.length_range']
  split <;> omega

theorem length_content_passCalls (m : Submission) (fresh : ℕ → S3tpHeader) (left : ℕ) : ∀ {i : ℕ},
    i + left = fragmentCount m.len →
      (content ((List.range' i left).map (passCall m fresh))).length = m.len - lenS3tpPdu * i := by
  have size : lenS3tpPdu = 992 := rfl
  induction left with
  | zero =>
    intro i count
    have whole : m.len ≤ lenS3tpPdu * i := Nat.le_of_not_lt fun going => by
      have inside := lt_fragmentCount_iff.mpr going
      omega
    simp [content, Nat.sub_eq_zero_of_le whole]
  | succ left ih =>
    intro i count
    have later := ih (i := i + 1) (by omega)
    rw [content] at later
    rw [List.range'_succ, List.map_cons, content, List.flatMap_cons, List.length_append, later, length_passCall,
      Nat.mul_succ]
    have going := lt_fragmentCount_iff.mp (show i < fragmentCount m.len by omega)
    omega

/-- As many bytes are handed over as the payload has, wherever they are read. -/
theorem length_content_calls (m : Submission) (fresh : ℕ → S3tpHeader) : (content (m.calls fresh)).length = m.len := by
  rw [Submission.calls]
  split
  · rw [fragmentCalls_eq, List.range_eq_range', length_content_passCalls m fresh _ (Nat.zero_add _)]
    rfl
  · have size : lenS3tpPdu = 992 := rfl
    simp [content, Submission.simpleCall, m.pdu_packet (fresh 0) 0 m.len (by omega), Submission.copied]

/-- A payload of one or two packets is handed over as it is. -/
theorem content_calls {m : Submission} (fresh : ℕ → S3tpHeader) (short : m.len ≤ 2 * lenS3tpPdu) :
    content (m.calls fresh) = m.data := by
  have size : lenS3tpPdu = 992 := rfl
  rw [Submission.calls]
  split
  · next long =>
    have joined := m.copied_append 0 lenS3tpPdu (m.len - lenS3tpPdu)
    rw [Nat.zero_add, Nat.add_sub_cancel' long.le, m.copied_zero_len] at joined
    rw [passCall_of_two m fresh long short]
    simp only [content, List.flatMap_cons, List.flatMap_nil, List.append_nil,
      m.pdu_packet (fresh 0) 0 lenS3tpPdu (by decide),
      m.pdu_packet (fresh lenS3tpPdu) lenS3tpPdu (m.len - lenS3tpPdu) (by omega), joined]
  · next simple =>
    simp only [content, Submission.simpleCall, List.flatMap_cons, List.flatMap_nil, List.append_nil,
      m.pdu_packet (fresh 0) 0 m.len (by omega), m.copied_zero_len]

/-! ## The packets of a payload -/

theorem fragments_of_carries {i n : ℕ} {calls : List EnqueueCall} (indexed : Indexed i calls) :
    ∀ {packets : List S3tpPacket}, List.Forall₂ Carries calls packets → Consecutive (n + i) packets →
      Fragments (UInt8.ofNat n) i packets := by
  induction indexed with
  | @last i call index final =>
    rintro packets (_ | ⟨carries, _ | _⟩) numbered
    rw [Consecutive.singleton_iff, UInt8.ofNat_add] at numbered
    exact .last numbered (carries.subSequence.trans index) (by rw [carries.moreFragments, final]; rfl)
  | @more i call rest index flagged _ ih =>
    rintro packets (_ | ⟨carries, later⟩) numbered
    rw [Consecutive.cons_iff, UInt8.ofNat_add] at numbered
    refine .more numbered.1 (carries.subSequence.trans index) ?_ (ih later numbered.2)
    rw [carries.moreFragments, flagged]
    decide

theorem assembled_of_carries {calls : List EnqueueCall} {packets : List S3tpPacket}
    (carried : List.Forall₂ Carries calls packets) : assembled packets = content calls := by
  induction carried with
  | nil => rfl
  | cons carries _ ih =>
    rw [assembled] at ih
    rw [assembled, List.flatMap_cons, ih, carries.pdu]
    rfl

/-- Packets of calls that fill them hold all their bytes. -/
theorem whole_of_carries {calls : List EnqueueCall} {packets : List S3tpPacket}
    (carried : List.Forall₂ Carries calls packets)
    (filled : ∀ call ∈ calls, call.packet.header.getPduLength.toNat = call.packet.pdu.length) :
    ∀ packet ∈ packets, packet.header.getPduLength.toNat ≤ packet.payload.length := by
  induction carried with
  | nil => simp
  | @cons call packet _ _ carries _ ih =>
    obtain ⟨own, others⟩ := List.forall_mem_cons.mp filled
    refine List.forall_mem_cons.mpr ⟨?_, ih others⟩
    rw [← carries.pdu, ← carries.pduLength, S3tpPacket.pdu, List.length_take] at own
    omega

theorem toNat_lengthSum_of_carries {calls : List EnqueueCall} {packets : List S3tpPacket}
    (carried : List.Forall₂ Carries calls packets)
    (filled : ∀ call ∈ calls, call.packet.header.getPduLength.toNat = call.packet.pdu.length) :
    (lengthSum packets).toNat = (content calls).length % 2 ^ 16 := by
  rw [← assembled_of_carries carried]
  exact toNat_lengthSum (whole_of_carries carried filled)

/-- The packets carry the calls of the payload. -/
def Conveys (m : Submission) (packets : List S3tpPacket) : Prop :=
  ∃ fresh, List.Forall₂ Carries (m.calls fresh) packets

/-- What is returned for the packets of a payload is the bytes handed over in its calls. -/
theorem data_of_conveys {m : Submission} {packets : List S3tpPacket} (conveys : Conveys m packets) (p : UInt8) :
    ∃ fresh, (deliveryOf p packets).data = some (content (m.calls fresh)) ∧
      (deliveryOf p packets).len.toNat = (content (m.calls fresh)).length % 2 ^ 16 := by
  obtain ⟨fresh, carried⟩ := conveys
  refine ⟨fresh, congrArg some (assembled_of_carries carried), ?_⟩
  exact toNat_lengthSum_of_carries carried fun call member => (filled_of_mem_calls member).2

/-- For a payload of one or two packets that is the payload. -/
theorem data_of_conveys_of_short {m : Submission} {packets : List S3tpPacket} (conveys : Conveys m packets)
    (short : m.len ≤ 2 * lenS3tpPdu) (p : UInt8) :
    (deliveryOf p packets).data = some m.data ∧ (deliveryOf p packets).len.toNat = m.len := by
  obtain ⟨fresh, data, len⟩ := data_of_conveys conveys p
  have size : lenS3tpPdu = 992 := rfl
  have length : m.data.length = m.len := by simp [Submission.data]
  rw [content_calls fresh short] at data len
  rw [length, Nat.mod_eq_of_lt (by omega)] at len
  exact ⟨data, len⟩

/-! ## Rows of payloads -/

/-- What belongs to a row of groups can be grouped alike. -/
theorem exists_flatten_of_forall₂ {α β : Type*} {R : α → β → Prop} : ∀ {groups : List (List α)} {row : List β},
    List.Forall₂ R groups.flatten row → ∃ rows : List (List β), rows.flatten = row ∧
      List.Forall₂ (List.Forall₂ R) groups rows := by
  intro groups
  induction groups with
  | nil =>
    rintro row (_ | _)
    exact ⟨[], rfl, .nil⟩
  | cons group later ih =>
    intro row related
    rw [List.flatten_cons] at related
    have flipped : List.Forall₂ (flip R) row (group ++ later.flatten) := related.flip
    obtain ⟨rows, flat, further⟩ := ih (List.forall₂_drop_append row group later.flatten flipped).flip
    have first : List.Forall₂ R group (row.take group.length) :=
      (List.forall₂_take_append row group later.flatten flipped).flip
    exact ⟨row.take group.length :: rows, by rw [List.flatten_cons, flat, List.take_append_drop],
      .cons first further⟩

theorem stream_of_carries {groups : List (List EnqueueCall)} {rows : List (List S3tpPacket)}
    (carried : List.Forall₂ (List.Forall₂ Carries) groups rows) : ∀ {n : ℕ}, (∀ group ∈ groups, Indexed 0 group) →
    Consecutive n rows.flatten → MessageStream n rows := by
  induction carried with
  | nil => exact fun _ _ => trivial
  | cons first _ ih =>
    intro n indexed numbered
    obtain ⟨own, others⟩ := List.forall_mem_cons.mp indexed
    rw [List.flatten_cons, Consecutive.append_iff] at numbered
    exact ⟨fragments_of_carries own first numbered.1, ih others numbered.2⟩

/-- A message does not cross from 255 to 0 if no packet with number 255 says that more follow. -/
theorem inside_of_fragments {c : UInt8} {i : ℕ} {packets : List S3tpPacket} (fragments : Fragments c i packets) :
    (∀ packet ∈ packets, packet.header.moreFragments ≠ 0 → packet.header.seqPort ≠ 255) → c.toNat + i < 256 →
    c.toNat + i + packets.length ≤ 256 := by
  induction fragments with
  | last =>
    intro _ within
    rw [List.length_singleton]
    omega
  | @more i packet rest number _ flagged _ ih =>
    intro below within
    obtain ⟨own, others⟩ := List.forall_mem_cons.mp below
    have notLast : c.toNat + i ≠ 255 := by
      intro last
      refine own flagged (number.trans (UInt8.toNat_inj.mp ?_))
      rw [UInt8.toNat_add, UInt8.toNat_ofNat']
      have value : (255 : UInt8).toNat = 255 := rfl
      omega
    have further := ih others (by omega)
    rw [List.length_cons]
    omega

theorem straight_of_stream {rows : List (List S3tpPacket)} : ∀ {n : ℕ}, MessageStream n rows →
    (∀ packet ∈ rows.flatten, packet.header.moreFragments ≠ 0 → packet.header.seqPort ≠ 255) → Straight n rows := by
  induction rows with
  | nil => exact fun _ _ => trivial
  | cons message later ih =>
    intro n stream below
    have start := (UInt8.ofNat n).toNat_lt
    refine ⟨.inr (inside_of_fragments stream.1 ?_ (by omega)), ih stream.2 ?_⟩
    · exact fun packet member => below packet (by simp [member])
    · exact fun packet member => below packet (by rw [List.flatten_cons]; exact List.mem_append_right _ member)

/-! ## A payload under way -/

/-- Some packet carries the call, with a given number. -/
theorem exists_carries (call : EnqueueCall) (n : ℕ) : ∃ packet, Carries call packet ∧
    packet.header.seqPort = UInt8.ofNat n ∧ isDataFor call.packet.getPort packet = true := by
  let tx : TxModule := { TxModule.create default with portSequence := fun _ => UInt8.ofNat n }
  refine ⟨_, carries_stamped tx call, TxModule.stamped_seqPort .., ?_⟩
  simp [isDataFor]

/-- Calls that are cut short say that they are all, once the last says so. -/
theorem indexed_closed {made rest : List EnqueueCall} {next : EnqueueCall} : ∀ {i : ℕ},
    Indexed i (made ++ next :: rest) → Indexed i (made ++ [{ next with moreFragments := false }]) := by
  induction made with
  | nil =>
    rintro i (⟨index, -⟩ | ⟨index, -, -⟩)
    · exact .last index rfl
    · exact .last index rfl
  | cons call made ih =>
    intro i indexed
    generalize behind : made ++ next :: rest = tail at ih
    rw [List.cons_append, behind] at indexed
    cases indexed with
    | last => simp at behind
    | more index flagged further => exact .more index flagged (ih further)

end S3tp.Soundness
