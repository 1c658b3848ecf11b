import Mathlib.Data.Bool.Count
import Mathlib.Tactic.Common

/-! # Linear shift registers

A register holds a vector over the field of two elements. Each turn shifts the vector linearly and adds
the input vector if the bit fed in is set. Feeding is linear in the bits, so what two bit strings of the
same length leave in the register differs by what their difference leaves there: a difference goes
undetected exactly if it leaves zero. When shifting is injective, zeros that follow or lead do not matter,
and whether a difference is detected is decided by the bits from the first to the last one that is set.
-/

namespace S3tp.Machine

/-- Vectors, with their sum and the shift. -/
structure ShiftRegister (V : Type*) where
  xor : V → V → V
  zero : V
  shift : V → V
  input : V
  xor_assoc : ∀ a b c, xor (xor a b) c = xor a (xor b c)
  xor_comm : ∀ a b, xor a b = xor b a
  xor_zero : ∀ a, xor a zero = a
  xor_self : ∀ a, xor a a = zero
  shift_xor : ∀ a b, shift (xor a b) = xor (shift a) (shift b)
  eq_zero_of_shift : ∀ a, shift a = zero → a = zero

namespace ShiftRegister

variable {V : Type*} (r : ShiftRegister V)

theorem zero_xor (a : V) : r.xor r.zero a = a := by rw [r.xor_comm, r.xor_zero]

theorem xor_left_comm (a b c : V) : r.xor a (r.xor b c) = r.xor b (r.xor a c) := by
  rw [← r.xor_assoc, r.xor_comm a b, r.xor_assoc]

/-- The sum of two vectors is zero exactly if they are the same. -/
theorem xor_eq_zero_iff {a b : V} : r.xor a b = r.zero ↔ a = b := by
  constructor
  · intro none
    calc a = r.xor a (r.xor b b) := by rw [r.xor_self, r.xor_zero]
      _ = r.xor r.zero b := by rw [← r.xor_assoc, none]
      _ = b := r.zero_xor b
  · rintro rfl
    exact r.xor_self a

theorem shift_zero : r.shift r.zero = r.zero := by
  have twice := r.shift_xor r.zero r.zero
  rw [r.xor_self, r.xor_self] at twice
  exact twice

/-- One turn: shift, and add the input vector for a set bit. -/
def turn (state : V) (bit : Bool) : V := r.xor (r.shift state) (if bit then r.input else r.zero)

/-- What feeding the bits, first to last, leaves in the register. -/
def feed (state : V) (bits : List Bool) : V := bits.foldl r.turn state

@[simp] theorem feed_nil (state : V) : r.feed state [] = state := rfl

@[simp] theorem feed_cons (state : V) (bit : Bool) (bits : List Bool) :
    r.feed state (bit :: bits) = r.feed (r.turn state bit) bits := rfl

theorem feed_append (state : V) (first second : List Bool) :
    r.feed state (first ++ second) = r.feed (r.feed state first) second := List.foldl_append

theorem turn_false (state : V) : r.turn state false = r.shift state := by
  simp [turn, r.xor_zero]

theorem turn_xor (a b : V) (x y : Bool) : r.turn (r.xor a b) (x ^^ y) = r.xor (r.turn a x) (r.turn b y) := by
  have inputs : (if x ^^ y then r.input else r.zero) =
      r.xor (if x then r.input else r.zero) (if y then r.input else r.zero) := by
    cases x <;> cases y <;> simp [r.xor_self, r.xor_zero, r.zero_xor]
  simp only [turn, r.shift_xor, inputs, r.xor_assoc]
  rw [r.xor_left_comm (r.shift b)]

/-- Feeding is linear. -/
theorem feed_xor (a b : V) {xs ys : List Bool} (length : xs.length = ys.length) :
    r.feed (r.xor a b) (List.zipWith Bool.xor xs ys) = r.xor (r.feed a xs) (r.feed b ys) := by
  induction xs generalizing a b ys with
  | nil =>
    obtain rfl := List.length_eq_zero_iff.mp length.symm
    rfl
  | cons x xs ih =>
    cases ys with
    | nil => simp at length
    | cons y ys =>
      have turned : r.turn (r.xor a b) (x.xor y) = r.xor (r.turn a x) (r.turn b y) := r.turn_xor a b x y
      rw [List.zipWith_cons_cons, feed_cons, turned]
      exact ih _ _ (by simpa using length)

/-- Two strings of the same length leave the same exactly if their difference leaves zero. -/
theorem feed_eq_iff {xs ys : List Bool} (length : xs.length = ys.length) :
    r.feed r.zero xs = r.feed r.zero ys ↔ r.feed r.zero (List.zipWith Bool.xor xs ys) = r.zero := by
  have linear := r.feed_xor r.zero r.zero length
  rw [r.xor_zero] at linear
  rw [linear, r.xor_eq_zero_iff]

/-! ## Zeros before and after -/

theorem feed_zero_replicate (n : ℕ) : r.feed r.zero (List.replicate n false) = r.zero := by
  induction n with
  | zero => rfl
  | succ n ih => rw [List.replicate_succ, feed_cons, turn_false, shift_zero, ih]

/-- Zeros that lead do not matter. -/
theorem feed_replicate_append (n : ℕ) (bits : List Bool) :
    r.feed r.zero (List.replicate n false ++ bits) = r.feed r.zero bits := by
  rw [feed_append, feed_zero_replicate]

theorem feed_replicate_eq_zero {state : V} {n : ℕ} (none : r.feed state (List.replicate n false) = r.zero) :
    state = r.zero := by
  induction n generalizing state with
  | zero => exact none
  | succ n ih =>
    rw [List.replicate_succ, feed_cons, turn_false] at none
    exact r.eq_zero_of_shift state (ih none)

/-- Zeros that follow do not hide anything. -/
theorem feed_append_replicate_ne_zero {state : V} {bits : List Bool} (n : ℕ) (left : r.feed state bits ≠ r.zero) :
    r.feed state (bits ++ List.replicate n false) ≠ r.zero := by
  rw [feed_append]
  exact fun none => left (r.feed_replicate_eq_zero none)

/-! ## Differences that are detected -/

/-- A parity that shifting keeps and the input vector flips counts the set bits. -/
theorem parity_feed {parity : V → Bool} (linear : ∀ a b, parity (r.xor a b) = (parity a ^^ parity b))
    (shifted : ∀ a, parity (r.shift a) = parity a) (flips : parity r.input = true) (state : V)
    (bits : List Bool) : parity (r.feed state bits) = (parity state ^^ decide (Odd (bits.count true))) := by
  have none : parity r.zero = false := by
    have twice := linear r.zero r.zero
    rw [r.xor_self] at twice
    simpa using twice
  induction bits generalizing state with
  | nil => simp
  | cons bit bits ih =>
    rw [feed_cons, ih, turn, linear, shifted]
    cases bit with
    | false => simp [none]
    | true =>
      simp only [if_true, flips, List.count_cons_self, Nat.odd_add_one, decide_not]
      cases parity state <;> simp

/-- An odd number of set bits leaves something. -/
theorem feed_ne_zero_of_odd {parity : V → Bool} (linear : ∀ a b, parity (r.xor a b) = (parity a ^^ parity b))
    (shifted : ∀ a, parity (r.shift a) = parity a) (flips : parity r.input = true) {bits : List Bool}
    (odd : Odd (bits.count true)) : r.feed r.zero bits ≠ r.zero := by
  intro none
  have left := r.parity_feed linear shifted flips r.zero bits
  rw [none] at left
  simp [odd] at left

/-- Set bits within a burst leave something, if no burst of that length leaves zero. -/
theorem feed_ne_zero_of_burst {width : ℕ}
    (short : ∀ burst : List Bool, burst.length ≤ width → true ∈ burst → r.feed r.zero burst ≠ r.zero)
    {bits : List Bool} {start : ℕ} (set : true ∈ bits)
    (within : ∀ i, bits[i]? = some true → start ≤ i ∧ i < start + width) :
    r.feed r.zero bits ≠ r.zero := by
  have before : bits.take start = List.replicate (bits.take start).length false := by
    apply List.eq_replicate_of_mem
    intro bit member
    obtain ⟨i, found⟩ := List.mem_iff_getElem?.mp member
    rw [List.getElem?_take] at found
    split at found
    · next early =>
      cases bit with
      | false => rfl
      | true => exact absurd (within i found).1 (by omega)
    · contradiction
  have after : bits.drop (start + width) = List.replicate (bits.drop (start + width)).length false := by
    apply List.eq_replicate_of_mem
    intro bit member
    obtain ⟨i, found⟩ := List.mem_iff_getElem?.mp member
    rw [List.getElem?_drop] at found
    cases bit with
    | false => rfl
    | true => exact absurd (within _ found).2 (by omega)
  have split : bits = bits.take start ++ (bits.drop start).take width ++ bits.drop (start + width) := by
    rw [List.append_assoc, ← List.drop_drop, List.take_append_drop, List.take_append_drop]
  have inside : true ∈ (bits.drop start).take width := by
    rw [split, List.mem_append, List.mem_append, before, after] at set
    simpa using set
  rw [split, before, after, List.append_assoc, feed_replicate_append]
  exact r.feed_append_replicate_ne_zero _ (short _ (List.length_take_le _ _) inside)

/-- A string with set bits is zeros up to the first one. -/
theorem eq_replicate_append_of_mem {bits : List Bool} (set : true ∈ bits) :
    ∃ n rest, bits = List.replicate n false ++ true :: rest := by
  induction bits with
  | nil => simp at set
  | cons bit bits ih =>
    cases bit with
    | true => exact ⟨0, bits, rfl⟩
    | false =>
      obtain ⟨n, rest, same⟩ := ih (by simpa using set)
      exact ⟨n + 1, rest, by rw [same, List.replicate_succ, List.cons_append]⟩

/-- A string with two set bits: the zeros before, between and after them. -/
theorem eq_of_count_two {bits : List Bool} (two : bits.count true = 2) : ∃ before between after,
    bits = List.replicate before false ++ true :: (List.replicate between false ++
      true :: List.replicate after false) := by
  obtain ⟨before, rest, same⟩ := eq_replicate_append_of_mem (List.count_pos_iff.mp (by omega : 0 < bits.count true))
  have one : rest.count true = 1 := by
    rw [same, List.count_append, List.count_replicate, List.count_cons_self] at two
    simpa using two
  obtain ⟨between, last, same'⟩ := eq_replicate_append_of_mem (List.count_pos_iff.mp (by omega : 0 < rest.count true))
  have none : last.count true = 0 := by
    rw [same', List.count_append, List.count_replicate, List.count_cons_self] at one
    simpa using one
  have zeros : last = List.replicate last.length false := by
    apply List.eq_replicate_of_mem
    intro bit member
    cases bit with
    | false => rfl
    | true => exact absurd member (List.count_eq_zero.mp none)
  exact ⟨before, between, last.length, by rw [same, same', ← zeros]⟩

theorem feed_replicate (state : V) (n : ℕ) : r.feed state (List.replicate n false) = r.shift^[n] state := by
  induction n generalizing state with
  | zero => rfl
  | succ n ih => rw [List.replicate_succ, feed_cons, turn_false, ih, Function.iterate_succ_apply]

/-- Two set bits leave something, if shifting the input vector up to their distance does not bring it back. -/
theorem feed_ne_zero_of_two {distance : ℕ}
    (apart : ∀ d, 1 ≤ d → d < distance → r.shift^[d] r.input ≠ r.input)
    {bits : List Bool} (bound : bits.length ≤ distance) (two : bits.count true = 2) :
    r.feed r.zero bits ≠ r.zero := by
  obtain ⟨before, between, after, rfl⟩ := eq_of_count_two two
  have first : r.turn r.zero true = r.input := by simp [turn, shift_zero, zero_xor]
  have second : r.feed r.zero (true :: (List.replicate between false ++ [true])) =
      r.xor (r.shift^[between + 1] r.input) r.input := by
    rw [feed_cons, first, feed_append, feed_replicate, feed_cons, feed_nil, turn, if_pos rfl,
      Function.iterate_succ_apply']
  have split : true :: (List.replicate between false ++ true :: List.replicate after false) =
      true :: (List.replicate between false ++ [true]) ++ List.replicate after false := by simp
  rw [feed_replicate_append, split]
  apply r.feed_append_replicate_ne_zero
  rw [second, ne_eq, r.xor_eq_zero_iff]
  apply apart
  · omega
  · simp only [List.length_append, List.length_cons, List.length_replicate] at bound
    omega

end ShiftRegister

end S3tp.Machine
