import S3tp.Model.Core.Framing

/-! # The vote on a length

A length is sent three times so that one damaged copy can be outvoted. The loops of `read_length_safe` compare
the first copy with the second and the third, and the second with itself and the third. A row that counts two
makes a quorum: the last two copies decide alone. A length whose middle or last copy is damaged is refused,
although the other two copies agree.
-/

namespace S3tp.Soundness

open Model.Core

variable (len : S3tpIntroRedundant) {tally : Tally} {i j : ℕ}

/-! ## What the loops count -/

theorem compare_of_ne (differ : len.command i ≠ len.command j) (seen : tally.tempCount ≤ tally.count) :
    Tally.compare len i tally j = tally := by
  simp only [Tally.compare, if_neg differ, if_neg (not_lt.mpr seen)]

theorem compare_of_eq (equal : len.command i = len.command j) (seen : tally.tempCount + 1 ≤ tally.count) :
    Tally.compare len i tally j = { tally with tempCount := tally.tempCount + 1 } := by
  simp only [Tally.compare, if_pos equal, if_neg (not_lt.mpr seen)]

/-- A copy that occurs more often than any before becomes the length. -/
theorem compare_of_record (equal : len.command i = len.command j) (record : tally.count < tally.tempCount + 1) :
    Tally.compare len i tally j = ⟨len.command i, tally.tempCount + 1, tally.tempCount + 1⟩ := by
  simp only [Tally.compare, if_pos equal, if_pos record]

theorem tallyLoops_eq : Tally.loops len = Tally.row len (Tally.row len { outLength := len.command 0 } 0) 1 := by
  simp [Tally.loops, safeTransmissionCount, List.range_succ]

theorem tallyRow_eq : Tally.row len tally i =
    Tally.compare len i (Tally.compare len i { tally with tempCount := 0 } 1) 2 := by
  simp [Tally.row, safeTransmissionCount, List.range'_succ]

/-- The first row: how often the first copy occurs among the others. -/
theorem row_zero : (Tally.row len { outLength := len.command 0 } 0).outLength = len.command 0 ∧
    ((Tally.row len { outLength := len.command 0 } 0).count = 2 ↔
      len.command 0 = len.command 1 ∧ len.command 0 = len.command 2) ∧
    (Tally.row len { outLength := len.command 0 } 0).count ≤ 2 := by
  rw [tallyRow_eq]
  by_cases first : len.command 0 = len.command 1
  · rw [compare_of_record len first (by simp)]
    by_cases second : len.command 0 = len.command 2
    · rw [compare_of_record len second (by simp)]
      exact ⟨rfl, by simp [← first, ← second], le_refl 2⟩
    · rw [compare_of_ne len second (by simp)]
      exact ⟨rfl, by simp [second], by simp⟩
  · rw [compare_of_ne len first (by simp)]
    by_cases second : len.command 0 = len.command 2
    · rw [compare_of_record len second (by simp)]
      exact ⟨rfl, by simp [first], by simp⟩
    · rw [compare_of_ne len second (by simp)]
      exact ⟨rfl, by simp [first], by simp⟩

/-- The second row counts the second copy itself. -/
theorem row_one_self (seen : tally.count ≤ 2) :
    ∃ entered, Tally.row len tally 1 = Tally.compare len 1 entered 2 ∧ entered.tempCount = 1 ∧
      entered.count = max 1 tally.count ∧ (tally.count ≠ 0 → entered.outLength = tally.outLength) := by
  rw [tallyRow_eq]
  rcases Nat.eq_zero_or_pos tally.count with none | some
  · refine ⟨_, rfl, ?_⟩
    rw [compare_of_record len rfl (by simp [none])]
    exact ⟨rfl, by simp [none], fun counted => absurd none counted⟩
  · refine ⟨_, rfl, ?_⟩
    rw [compare_of_eq len rfl (by dsimp only; omega)]
    exact ⟨rfl, (max_eq_right some).symm, fun _ => rfl⟩

/-- There is a quorum if the last two copies are equal, and it is for their value. -/
theorem tallyLoops_of_eq (equal : len.command 1 = len.command 2) :
    (Tally.loops len).count = 2 ∧ (Tally.loops len).outLength = len.command 1 := by
  obtain ⟨first, unanimous, seen⟩ := row_zero len
  rw [tallyLoops_eq]
  obtain ⟨entered, same, temp, count, kept⟩ := row_one_self len seen
  rw [same]
  rcases Nat.lt_or_ge entered.count 2 with few | many
  · rw [compare_of_record len equal (by omega), temp]
    exact ⟨rfl, rfl⟩
  · -- All three copies are equal, the first row has found that out.
    rw [compare_of_eq len equal (by omega)]
    have two : (Tally.row len { outLength := len.command 0 } 0).count = 2 := by omega
    refine ⟨by change entered.count = 2; omega, ?_⟩
    change entered.outLength = len.command 1
    rw [kept (by omega), first]
    exact (unanimous.mp two).1

theorem tallyLoops_of_ne (differ : len.command 1 ≠ len.command 2) : (Tally.loops len).count = 1 := by
  obtain ⟨-, unanimous, seen⟩ := row_zero len
  rw [tallyLoops_eq]
  obtain ⟨entered, same, temp, count, -⟩ := row_one_self len seen
  have split : (Tally.row len { outLength := len.command 0 } 0).count ≠ 2 := by
    intro two
    obtain ⟨first, second⟩ := unanimous.mp two
    exact differ (first.symm.trans second)
  rw [same, compare_of_ne len differ (by omega)]
  omega

/-- A block that has been received in full. -/
theorem readLengthSafe_full : readLengthSafe S3tpIntroRedundant.size len =
    if len.command 1 = len.command 2 then (codeSuccess, some (len.command 1))
    else (codeErrorLengthCorrupt, some 0) := by
  have received : ¬ ((S3tpIntroRedundant.size : ℕ) : ℤ) < 0 ∧ ((S3tpIntroRedundant.size : ℕ) : ℤ) ≠ 0 := by decide
  rw [readLengthSafe, if_neg received.1, if_neg received.2]
  split
  · next equal =>
    obtain ⟨quorum, value⟩ := tallyLoops_of_eq len equal
    simp [quorum, value, safeTransmissionCount]
  · next differ => simp [tallyLoops_of_ne len differ, safeTransmissionCount]

/-! ## What a vote should say -/

/-- The value two of the three copies agree on is taken, and if no two agree the length is refused. -/
structure Voted (result : ℤ × Option ℕ) : Prop where
  quorum : ∀ i j, i < j → j < safeTransmissionCount → len.command i = len.command j →
    result = (codeSuccess, some (len.command i))
  none : (∀ i j, i < j → j < safeTransmissionCount → len.command i ≠ len.command j) →
    result = (codeErrorLengthCorrupt, some 0)

/-- The block with another value in one copy. -/
def damaged (copy value : ℕ) : S3tpIntroRedundant := ⟨Function.update len.command copy value⟩

variable {len}

theorem copies_cases {i j : ℕ} (less : i < j) (index : j < safeTransmissionCount) :
    i = 0 ∧ j = 1 ∨ i = 0 ∧ j = 2 ∨ i = 1 ∧ j = 2 := by
  rw [safeTransmissionCount] at index
  omega

theorem voted_of_eq (equal : len.command 1 = len.command 2) :
    Voted len (readLengthSafe S3tpIntroRedundant.size len) := by
  rw [readLengthSafe_full, if_pos equal]
  constructor
  · intro i j less index agree
    obtain ⟨rfl, rfl⟩ | ⟨rfl, rfl⟩ | ⟨rfl, rfl⟩ := copies_cases less index
    · rw [agree]
    · rw [agree, equal]
    · rfl
  · intro differ
    exact absurd equal (differ 1 2 (by decide) (by decide))

theorem voted_of_distinct (first : len.command 0 ≠ len.command 1) (second : len.command 0 ≠ len.command 2)
    (third : len.command 1 ≠ len.command 2) : Voted len (readLengthSafe S3tpIntroRedundant.size len) := by
  rw [readLengthSafe_full, if_neg third]
  constructor
  · intro i j less index agree
    obtain ⟨rfl, rfl⟩ | ⟨rfl, rfl⟩ | ⟨rfl, rfl⟩ := copies_cases less index
    · exact absurd agree first
    · exact absurd agree second
    · exact absurd agree third
  · exact fun _ => rfl

/-- The vote says what it should unless the first copy agrees with only one of the others. -/
theorem voted_iff : Voted len (readLengthSafe S3tpIntroRedundant.size len) ↔
    len.command 1 = len.command 2 ∨ len.command 0 ≠ len.command 1 ∧ len.command 0 ≠ len.command 2 := by
  constructor
  · intro voted
    by_contra outvoted
    rw [not_or, not_and_or, not_not, not_not] at outvoted
    obtain ⟨differ, agree⟩ := outvoted
    have refused : readLengthSafe S3tpIntroRedundant.size len = (codeErrorLengthCorrupt, some 0) := by
      rw [readLengthSafe_full, if_neg differ]
    have taken : readLengthSafe S3tpIntroRedundant.size len = (codeSuccess, some (len.command 0)) := by
      rcases agree with first | second
      · exact voted.quorum 0 1 (by decide) (by decide) first
      · exact voted.quorum 0 2 (by decide) (by decide) second
    rw [refused] at taken
    have codes : codeErrorLengthCorrupt = codeSuccess := congrArg Prod.fst taken
    exact absurd codes (by decide)
  · rintro (equal | ⟨first, second⟩)
    · exact voted_of_eq equal
    · by_cases third : len.command 1 = len.command 2
      · exact voted_of_eq third
      · exact voted_of_distinct first second third

/-- A length written in three copies survives a change to the first one, and to no other. -/
theorem vote_recovers_iff {length copy value : ℕ} (index : copy < safeTransmissionCount) :
    readLengthSafe S3tpIntroRedundant.size (damaged (redundantLength length) copy value) = (codeSuccess, some length) ↔
      copy = 0 ∨ value = length := by
  rw [readLengthSafe_full]
  have copies : copy = 0 ∨ copy = 1 ∨ copy = 2 := by
    rw [safeTransmissionCount] at index
    omega
  rcases copies with rfl | rfl | rfl
  · simp [damaged, redundantLength]
  · by_cases same : value = length <;> simp [damaged, redundantLength, same, codeErrorLengthCorrupt, codeSuccess]
  · by_cases same : length = value <;>
      simp [damaged, redundantLength, same, eq_comm, codeErrorLengthCorrupt, codeSuccess]

/-- The vote on three lengths, and on a length that was written in three copies of which one was changed. -/
theorem length_vote_iff (len : S3tpIntroRedundant) (length value : ℕ) (copy : Fin safeTransmissionCount) :
    (Voted len (readLengthSafe S3tpIntroRedundant.size len) ↔
      len.command 1 = len.command 2 ∨ len.command 0 ≠ len.command 1 ∧ len.command 0 ≠ len.command 2) ∧
    (readLengthSafe S3tpIntroRedundant.size (damaged (redundantLength length) copy value) =
      (codeSuccess, some length) ↔ copy.val = 0 ∨ value = length) :=
  ⟨voted_iff, vote_recovers_iff copy.isLt⟩

/-- The middle copy of 5 is damaged. -/
theorem length_vote_outvoted :
    ¬ ∀ len : S3tpIntroRedundant, Voted len (readLengthSafe S3tpIntroRedundant.size len) := by
  intro voted
  have taken := (voted (damaged (redundantLength 5) 1 7)).quorum 0 2 (by decide) (by decide) rfl
  exact absurd taken (by decide)

end S3tp.Soundness
