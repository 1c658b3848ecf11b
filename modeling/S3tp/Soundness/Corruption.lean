import S3tp.Machine.ShiftRegister
import S3tp.Soundness.OneByte

/-! # Corrupted payloads

The checksum is what the payload's bits, followed by sixteen zeros, leave in a linear shift register, with
its bits reversed. The register's polynomial has a constant term, is divisible by `x + 1`, and shifting
the single bit brings it back after no fewer than 7936 turns, the number of bits of the longest payload. So
an odd number of flipped bits, flipped bits within sixteen consecutive ones, and two flipped bits all
change the checksum.
-/

namespace S3tp.Soundness

open Model.Core Model.Concurrent Machine

/-! ## The register -/

/-- The bit a shift pushes out. -/
def topBit (out : UInt16) : Bool := out >>> 15 != 0

theorem shiftRight_15 (out : UInt16) : out >>> 15 = 0 ∨ out >>> 15 = 1 := by
  have bound := out.toNat_lt
  have value : (out >>> 15).toNat = out.toNat / 32768 := by
    simp [UInt16.toNat_shiftRight, Nat.shiftRight_eq_div_pow]
  rcases Nat.lt_or_ge out.toNat 32768 with low | high
  · exact .inl (UInt16.toNat_inj.mp (by rw [value, UInt16.toNat_zero]; omega))
  · exact .inr (UInt16.toNat_inj.mp (by rw [value, UInt16.toNat_one]; omega))

theorem topBit_xor (a b : UInt16) : topBit (a ^^^ b) = (topBit a ^^ topBit b) := by
  rw [topBit, topBit, topBit, UInt16.shiftRight_xor]
  rcases shiftRight_15 a with low | high <;> rcases shiftRight_15 b with low' | high' <;> simp [*]

theorem shiftBit_zero (out : UInt16) :
    shiftBit out 0 = (out <<< 1) ^^^ (if topBit out then crc16 else 0) := by
  rw [shiftBit, topBit]
  simp only [UInt16.or_zero, bne_iff_ne]
  split <;> simp

theorem shiftBit_xor (a b : UInt16) : shiftBit (a ^^^ b) 0 = shiftBit a 0 ^^^ shiftBit b 0 := by
  have reductions : (if topBit (a ^^^ b) then crc16 else 0) =
      (if topBit a then crc16 else 0) ^^^ (if topBit b then crc16 else (0 : UInt16)) := by
    rw [topBit_xor]
    cases topBit a <;> cases topBit b <;> simp
  rw [shiftBit_zero, shiftBit_zero, shiftBit_zero, reductions, UInt16.shiftLeft_xor]
  ac_rfl

theorem toNat_shiftLeft_one (out : UInt16) : (out <<< 1).toNat = 2 * out.toNat % 65536 := by
  have shift : (1 : UInt16).toNat % 16 = 1 := by decide
  rw [UInt16.toNat_shiftLeft, shift, Nat.shiftLeft_eq]
  omega

theorem topBit_eq_false_iff (out : UInt16) : topBit out = false ↔ out.toNat < 32768 := by
  have value : (out >>> 15).toNat = out.toNat / 32768 := by
    simp [UInt16.toNat_shiftRight, Nat.shiftRight_eq_div_pow]
  rw [topBit, bne_eq_false_iff_eq, ← UInt16.toNat_inj, value, UInt16.toNat_zero]
  omega

theorem eq_zero_of_shiftBit (out : UInt16) (none : shiftBit out 0 = 0) : out = 0 := by
  rw [shiftBit_zero, UInt16.xor_eq_zero_iff] at none
  have value := congrArg UInt16.toNat none
  rw [toNat_shiftLeft_one] at value
  cases top : topBit out with
  | false =>
    have bound := (topBit_eq_false_iff out).mp top
    rw [top] at value
    have : 2 * out.toNat % 65536 = 0 := value
    exact UInt16.toNat_inj.mp (by rw [UInt16.toNat_zero]; omega)
  | true =>
    -- The constant term of the polynomial shows.
    rw [top] at value
    have : 2 * out.toNat % 65536 = 32773 := value
    omega

/-- The checksum's register. -/
def register : ShiftRegister UInt16 where
  xor := (· ^^^ ·)
  zero := 0
  shift out := shiftBit out 0
  input := 1
  xor_assoc := UInt16.xor_assoc
  xor_comm := UInt16.xor_comm
  xor_zero _ := UInt16.xor_zero
  xor_self _ := UInt16.xor_self
  shift_xor := shiftBit_xor
  eq_zero_of_shift := eq_zero_of_shiftBit

theorem shiftBit_one (out : UInt16) : shiftBit out 1 = shiftBit out 0 ^^^ 1 := by
  -- The lowest bit is free after the shift.
  have set : (out <<< (1 : UInt16)) ||| (1 : UInt16) = (out <<< 1) ^^^ 1 := by
    apply UInt16.toBitVec_inj.mp
    ext i
    simp
    rcases i with _ | i <;> simp
  simp only [shiftBit, set, UInt16.or_zero]
  split
  · ac_rfl
  · rfl

theorem toNat_shift (out : UInt16) : (shiftBit out 0).toNat =
   if 32768 ≤ out.toNat then Nat.xor (2 * out.toNat - 65536) 32773 else 2 * out.toNat := by
  rw [shiftBit_zero]
  have bound := out.toNat_lt
  cases top : topBit out with
  | false =>
    have low := (topBit_eq_false_iff out).mp top
    have rest : ¬ 32768 ≤ out.toNat := by omega
    simp only [rest, if_false, Bool.false_eq_true, UInt16.xor_zero, toNat_shiftLeft_one]
    omega
  | true =>
    have high := (topBit_eq_false_iff out).not.mp (by simp [top])
    have rest : 32768 ≤ out.toNat := by omega
    have left : 2 * out.toNat % 65536 = 2 * out.toNat - 65536 := by omega
    simp only [rest, if_true, UInt16.toNat_xor, toNat_shiftLeft_one, left]
    rfl

/-! ## What it detects -/

theorem topBit_eq (out : UInt16) : topBit out = out.toBitVec.getLsbD 15 := by
  have bit : out.toBitVec.getLsbD 15 = decide (out.toNat / 2 ^ 15 % 2 = 1) := by
    rw [BitVec.getLsbD, Nat.testBit_eq_decide_div_mod_eq]
    rfl
  have bound := out.toNat_lt
  rcases Bool.eq_false_or_eq_true (topBit out) with top | top
  · have high := (topBit_eq_false_iff out).not.mp (by simp [top])
    rw [top, bit, eq_comm, decide_eq_true_iff]
    omega
  · have low := (topBit_eq_false_iff out).mp top
    rw [top, bit, eq_comm, decide_eq_false_iff_not]
    omega

/-- The parity of the register. -/
def parity (out : UInt16) : Bool := (List.range 16).foldl (fun odd i => odd ^^ out.toBitVec.getLsbD i) false

/-- Folding sums of bits is summing the folds. -/
theorem foldl_xor (f g : ℕ → Bool) (places : List ℕ) (p q : Bool) :
    places.foldl (fun odd i => odd ^^ (f i ^^ g i)) (p ^^ q) =
      (places.foldl (fun odd i => odd ^^ f i) p ^^ places.foldl (fun odd i => odd ^^ g i) q) := by
  induction places generalizing p q with
  | nil => rfl
  | cons i places ih =>
    have swap : (p ^^ q ^^ (f i ^^ g i)) = ((p ^^ f i) ^^ (q ^^ g i)) := by
      cases p <;> cases q <;> cases f i <;> cases g i <;> rfl
    rw [List.foldl_cons, List.foldl_cons, List.foldl_cons, swap, ih]

theorem parity_xor (a b : UInt16) : parity (a ^^^ b) = (parity a ^^ parity b) := by
  simp only [parity, UInt16.toBitVec_xor, BitVec.getLsbD_xor]
  exact foldl_xor _ _ _ false false

/-- A plain shift loses the top bit. -/
theorem parity_shiftLeft (out : UInt16) : parity (out <<< 1) = (parity out ^^ topBit out) := by
  rw [topBit_eq]
  have bits (i : ℕ) (bound : i < 15) : (out <<< 1).toBitVec.getLsbD (i + 1) = out.toBitVec.getLsbD i := by
    simp
    omega
  have lowest : (out <<< 1).toBitVec.getLsbD 0 = false := by simp
  have places : List.range 16 = 0 :: (List.range 15).map (· + 1) := by decide
  have places' : List.range 16 = List.range 15 ++ [15] := by decide
  have moved : parity (out <<< 1) = (List.range 15).foldl (fun odd i => odd ^^ out.toBitVec.getLsbD i) false := by
    rw [parity, places, List.foldl_cons, lowest, List.foldl_map]
    apply List.foldl_ext
    intro odd i member
    rw [bits i (List.mem_range.mp member)]
  rw [moved, parity, places', List.foldl_append]
  simp

/-- The polynomial has an even number of terms. -/
theorem parity_shift (out : UInt16) : parity (shiftBit out 0) = parity out := by
  have reduction : parity (if topBit out then crc16 else 0) = topBit out := by
    cases topBit out <;> decide
  rw [shiftBit_zero, parity_xor, parity_shiftLeft, reduction]
  cases parity out <;> cases topBit out <;> rfl

/-- A burst of up to sixteen bits stays in the register as it is. -/
theorem feed_short (burst : List Bool) (short : burst.length ≤ 16) :
    (register.feed 0 burst).toNat < 2 ^ burst.length ∧ (true ∈ burst → register.feed 0 burst ≠ 0) := by
  induction burst using List.reverseRecOn with
  | nil => simp
  | append_singleton front bit ih =>
    rw [List.length_append, List.length_singleton] at short ⊢
    obtain ⟨bound, left⟩ := ih (by omega)
    set out := register.feed 0 front
    have top : out.toNat < 32768 := Nat.lt_of_lt_of_le bound (Nat.pow_le_pow_right (by decide) (by omega : _ ≤ 15))
    have shifted : (register.shift out).toNat = 2 * out.toNat := by
      have turn := toNat_shift out
      rwa [if_neg (by omega)] at turn
    have fed : register.feed 0 (front ++ [bit]) = register.shift out ^^^ (if bit then 1 else 0) := by
      rw [ShiftRegister.feed_append]
      rfl
    have room : 2 * out.toNat < 2 ^ (front.length + 1) := by
      rw [Nat.pow_succ]
      omega
    constructor
    · rw [fed, UInt16.toNat_xor, shifted]
      apply Nat.xor_lt_two_pow room
      cases bit with
      | false => exact Nat.two_pow_pos _
      | true => exact Nat.one_lt_two_pow (by omega)
    · intro member
      rw [fed]
      intro none
      have same := UInt16.xor_eq_zero_iff.mp none
      cases bit with
      | false =>
        have set : true ∈ front := by simpa using member
        exact left set (register.eq_zero_of_shift out same)
      | true =>
        -- The last bit shows in the lowest place.
        have value := congrArg UInt16.toNat same
        rw [shifted] at value
        have odd : 2 * out.toNat = 1 := value
        omega

/-- One turn with a zero, on numbers. -/
def shiftNat (out : ℕ) : ℕ := if 32768 ≤ out then Nat.xor (2 * out - 65536) 32773 else 2 * out

/-- None of the next turns brings the single bit. -/
def staysOff : ℕ → ℕ → Bool
  | 0, _ => true
  | turns + 1, out => out != 1 && staysOff turns (shiftNat out)

theorem iterate_ne_one {turns out : ℕ} (off : staysOff turns out = true) {i : ℕ} (early : i < turns) :
    shiftNat^[i] out ≠ 1 := by
  induction turns generalizing out i with
  | zero => omega
  | succ turns ih =>
    obtain ⟨here, later⟩ := Bool.and_eq_true_iff.mp off
    cases i with
    | zero => simpa using here
    | succ i =>
      rw [Function.iterate_succ_apply]
      exact ih later (by omega)

theorem toNat_iterate_shift (out : UInt16) (i : ℕ) :
    (register.shift^[i] out).toNat = shiftNat^[i] out.toNat := by
  induction i generalizing out with
  | zero => rfl
  | succ i ih =>
    have turn : (register.shift out).toNat = shiftNat out.toNat := toNat_shift out
    rw [Function.iterate_succ_apply, Function.iterate_succ_apply, ih, turn]

theorem staysOff_payload : staysOff 7935 (shiftNat 1) = true := by decide +kernel

/-- The single bit does not come back within the length of a payload. -/
theorem shift_ne_input (d : ℕ) (positive : 1 ≤ d) (bound : d < 7936) :
    register.shift^[d] register.input ≠ register.input := by
  obtain ⟨i, rfl⟩ := Nat.exists_eq_add_of_le' positive
  intro back
  have value := congrArg UInt16.toNat back
  rw [toNat_iterate_shift, Function.iterate_succ_apply] at value
  exact iterate_ne_one staysOff_payload (by omega) value

/-! ## The checksum -/

/-- The bits of a byte in the order they are read. -/
def byteBits (data : UInt8) : List Bool := (List.range 8).map fun bitsRead => dataBit data bitsRead != 0

/-- The bits of a payload, bytes in order, least significant bit first. -/
def payloadBits (data : List UInt8) : List Bool := data.flatMap byteBits

theorem payloadBits_cons (byte : UInt8) (data : List UInt8) :
    payloadBits (byte :: data) = byteBits byte ++ payloadBits data := rfl

theorem length_byteBits (data : UInt8) : (byteBits data).length = 8 := by simp [byteBits]

theorem length_payloadBits (data : List UInt8) : (payloadBits data).length = 8 * data.length := by
  induction data with
  | nil => rfl
  | cons byte data ih =>
    rw [payloadBits_cons, List.length_append, ih, length_byteBits, List.length_cons]
    omega

theorem dataBit_cases (data : UInt8) (bitsRead : ℕ) : dataBit data bitsRead = 0 ∨ dataBit data bitsRead = 1 := by
  have value : (dataBit data bitsRead).toNat = (data >>> UInt8.ofNat bitsRead).toNat % 2 := by
    rw [dataBit, UInt8.toNat_toUInt16, UInt8.toNat_and]
    exact Nat.and_one_is_mod _
  rcases Nat.mod_two_eq_zero_or_one (data >>> UInt8.ofNat bitsRead).toNat with even | odd
  · exact .inl (UInt16.toNat_inj.mp (value.trans even))
  · exact .inr (UInt16.toNat_inj.mp (value.trans odd))

theorem shiftBit_dataBit (out : UInt16) (data : UInt8) (bitsRead : ℕ) :
    shiftBit out (dataBit data bitsRead) = register.turn out (dataBit data bitsRead != 0) := by
  rcases dataBit_cases data bitsRead with clear | set
  · rw [clear]
    exact UInt16.xor_zero.symm
  · rw [set]
    exact shiftBit_one out

theorem shiftByte_eq_feed (out : UInt16) (data : UInt8) : shiftByte out data = register.feed out (byteBits data) := by
  rw [shiftByte, byteBits, ShiftRegister.feed, List.foldl_map]
  simp only [shiftBit_dataBit]

theorem foldl_shiftByte (out : UInt16) (data : List UInt8) :
    data.foldl shiftByte out = register.feed out (payloadBits data) := by
  induction data generalizing out with
  | nil => rfl
  | cons byte data ih =>
    rw [List.foldl_cons, ih, shiftByte_eq_feed, payloadBits_cons, ShiftRegister.feed_append]

theorem calcChecksum_eq (data : List UInt8) :
    calcChecksum data = reverseBits (register.feed 0 (payloadBits data ++ List.replicate 16 false)) := by
  rw [calcChecksum, List.foldl_const, List.length_range, ShiftRegister.feed_append, foldl_shiftByte,
    ShiftRegister.feed_replicate]
  rfl

theorem mask_eq (j : ℕ) (bound : j < 16) :
    ((0x8000 : UInt16) >>> UInt16.ofNat j).toBitVec = BitVec.twoPow 16 (15 - j) ∧
      ((1 : UInt16) <<< UInt16.ofNat j).toBitVec = BitVec.twoPow 16 j := by
  revert j
  decide

/-- The mask of a turn picks a bit of the register. -/
theorem and_mask_ne_zero_iff (out : UInt16) (j : ℕ) (bound : j < 16) :
    out &&& (0x8000 >>> UInt16.ofNat j) ≠ 0 ↔ out.toBitVec.getLsbD (15 - j) = true := by
  rw [ne_eq, ← UInt16.toBitVec_inj, UInt16.toBitVec_and, (mask_eq j bound).1, BitVec.and_twoPow]
  split
  · next set =>
    have nonzero : BitVec.twoPow 16 (15 - j) ≠ 0#16 := by
      clear set
      revert j
      decide
    simpa [set] using nonzero
  · next clear => simp [clear]

/-- A turn of the loop sets the bit it is about. -/
theorem getLsbD_foldl (out : UInt16) (places : List ℕ) (inRange : ∀ j ∈ places, j < 16) (crc : UInt16)
    (i : ℕ) :
    (places.foldl (fun crc j => if out &&& (0x8000 >>> UInt16.ofNat j) ≠ 0 then crc ||| (1 <<< UInt16.ofNat j)
      else crc) crc).toBitVec.getLsbD i =
      (crc.toBitVec.getLsbD i || (decide (i ∈ places) && out.toBitVec.getLsbD (15 - i))) := by
  induction places generalizing crc with
  | nil => simp
  | cons j places ih =>
    have here : j < 16 := inRange j (by simp)
    have turn : (if out &&& (0x8000 >>> UInt16.ofNat j) ≠ 0 then crc ||| (1 <<< UInt16.ofNat j)
        else crc).toBitVec.getLsbD i =
        (crc.toBitVec.getLsbD i || (decide (i = j) && out.toBitVec.getLsbD (15 - i))) := by
      rw [apply_ite UInt16.toBitVec, apply_ite (BitVec.getLsbD · i)]
      simp only [and_mask_ne_zero_iff out j here, UInt16.toBitVec_or, (mask_eq j here).2, BitVec.getLsbD_or,
        BitVec.getLsbD_twoPow]
      rcases Nat.decEq i j with other | same
      · simp [other, Ne.symm other]
      · subst same
        cases out.toBitVec.getLsbD (15 - i) <;> simp [here]
    rw [List.foldl_cons, ih (fun k member => inRange k (List.mem_cons_of_mem _ member)), turn]
    simp only [List.mem_cons, Bool.decide_or, Bool.or_assoc, Bool.and_or_distrib_right]

/-- Bit `15 - j` of the reversed register is bit `j` of the register. -/
theorem getLsbD_reverseBits (out : UInt16) {j : ℕ} (bound : j < 16) :
    (reverseBits out).toBitVec.getLsbD (15 - j) = out.toBitVec.getLsbD j := by
  have inRange : ∀ j ∈ List.range 16, j < 16 := fun j member => List.mem_range.mp member
  rw [reverseBits, getLsbD_foldl out _ inRange 0 (15 - j)]
  have back : 15 - (15 - j) = j := by omega
  have inside : 15 - j ∈ List.range 16 := List.mem_range.mpr (by omega)
  simp [back, inside]

/-- Reversing the bits loses nothing. -/
theorem reverseBits_injective : Function.Injective reverseBits := by
  intro a b same
  apply UInt16.toBitVec_inj.mp
  apply BitVec.eq_of_getLsbD_eq
  intro i bound
  rw [← getLsbD_reverseBits a bound, ← getLsbD_reverseBits b bound, same]

/-! ## Altered payloads -/

/-- Where two payloads of the same length differ, bit by bit. -/
def flips (original altered : List UInt8) : List Bool :=
  List.zipWith Bool.xor (payloadBits original) (payloadBits altered)

/-- An odd number of flipped bits, some flipped bits within sixteen consecutive ones, or two. -/
def Detectable (flipped : List Bool) : Prop :=
  Odd (flipped.count true) ∨
  (true ∈ flipped ∧ ∃ start, ∀ i, flipped[i]? = some true → start ≤ i ∧ i < start + 16) ∨
  flipped.count true = 2

/-- What is detectable leaves something in the register. -/
theorem feed_ne_zero {flipped : List Bool} (detectable : Detectable flipped) (bound : flipped.length ≤ 7936) :
    register.feed 0 flipped ≠ 0 := by
  rcases detectable with odd | ⟨set, start, within⟩ | two
  · exact register.feed_ne_zero_of_odd parity_xor parity_shift rfl odd
  · exact register.feed_ne_zero_of_burst (fun burst short => (feed_short burst short).2) set within
  · exact register.feed_ne_zero_of_two shift_ne_input bound two

/-- Payloads of the same length whose difference is detectable have different checksums. -/
theorem calcChecksum_ne {original altered : List UInt8} (length : original.length = altered.length)
    (short : original.length ≤ lenS3tpPdu) (detectable : Detectable (flips original altered)) :
    calcChecksum original ≠ calcChecksum altered := by
  intro same
  have bits : (payloadBits original).length = (payloadBits altered).length := by
    rw [length_payloadBits, length_payloadBits, length]
  have bound : (flips original altered).length ≤ 7936 := by
    have limit : lenS3tpPdu = 992 := rfl
    rw [flips, List.length_zipWith, ← bits, Nat.min_self, length_payloadBits]
    omega
  rw [calcChecksum_eq, calcChecksum_eq] at same
  have left := (register.feed_eq_iff (by simp [bits])).mp (reverseBits_injective same)
  rw [List.zipWith_append bits, List.zipWith_replicate] at left
  exact register.feed_append_replicate_ne_zero _ (feed_ne_zero detectable bound) left

/-- An active module refuses a frame that was valid before bits of its payload were flipped detectably,
and stays as it is. -/
theorem refused_of_detectable (rx : RxModule) (active : rx.active = true) (packet : S3tpPacket)
    (valid : packet.crcValid = true) (short : packet.header.getPduLength.toNat ≤ lenS3tpPdu)
    (payload : List UInt8) (length : payload.length = packet.payload.length)
    (detectable : Detectable (flips packet.pdu { packet with payload }.pdu)) :
    rx.handleReceivedPacket { packet with payload } = (codeErrorCrcInvalid, none, rx) := by
  have same : packet.pdu.length = { packet with payload }.pdu.length := by
    simp [S3tpPacket.pdu, length]
  have bound : packet.pdu.length ≤ lenS3tpPdu := (List.length_take_le _ _).trans short
  have stored : packet.header.crc = calcChecksum packet.pdu := by
    simpa [S3tpPacket.crcValid, verifyChecksum] using valid
  have invalid : { packet with payload }.crcValid = false := by
    have different := calcChecksum_ne same bound detectable
    rw [S3tpPacket.crcValid, verifyChecksum, beq_eq_false_iff_ne]
    rw [← stored] at different
    exact different
  rw [RxModule.handleReceivedPacket, if_neg (by simp [active]), if_pos (by simp [invalid])]

/-- A single flipped bit of a one-byte payload. -/
theorem refused_of_detectable_one : RxSystem.started.rx.handleReceivedPacket
    { (oneByte 0).setCrc with payload := [1] } = (codeErrorCrcInvalid, none, RxSystem.started.rx) :=
  refused_of_detectable RxSystem.started.rx rfl (oneByte 0).setCrc (S3tpPacket.crcValid_setCrc _) (by decide) [1] rfl
    (.inl (by decide))

end S3tp.Soundness
