import Mathlib.Data.List.Basic
import Mathlib.Tactic.Common

/-! # Cutting a list behind its final elements

`List.cutAfter final l` are the pieces of `l` that end with an element that is final, in order. What follows the last
final element belongs to no piece. A list is cut up whole if it ends with a final element or is empty.
-/

namespace List

variable {α : Type*} {final : α → Bool}

/-- The pieces of the list that end with a final element. -/
def cutAfter (final : α → Bool) : List α → List (List α)
  | [] => []
  | x :: rest =>
    if final x then [x] :: cutAfter final rest
    else
      match cutAfter final rest with
      | [] => []
      | piece :: later => (x :: piece) :: later

/-- Elements that are not final, and one that is. -/
structure IsPiece (final : α → Bool) (piece : List α) : Prop where
  nonempty : piece ≠ []
  unfinished : ∀ x ∈ piece.dropLast, final x = false
  finished : ∀ x ∈ piece.getLast?, final x = true

theorem isPiece_concat (front : List α) {last : α} (unfinished : ∀ x ∈ front, final x = false)
    (finished : final last = true) : IsPiece final (front ++ [last]) where
  nonempty := by simp
  unfinished := by simpa using unfinished
  finished := by simpa using finished

theorem IsPiece.split {piece : List α} (isPiece : IsPiece final piece) : ∃ front last, piece = front ++ [last] ∧
    (∀ x ∈ front, final x = false) ∧ final last = true := by
  obtain ⟨nonempty, unfinished, finished⟩ := isPiece
  obtain ⟨front, last, rfl⟩ := (eq_nil_or_concat' piece).resolve_left nonempty
  exact ⟨front, last, rfl, by simpa using unfinished, by simpa using finished⟩

/-- What begins with a piece is cut behind it. -/
theorem cutAfter_append_of_isPiece {piece : List α} (isPiece : IsPiece final piece) (rest : List α) :
    cutAfter final (piece ++ rest) = piece :: cutAfter final rest := by
  obtain ⟨front, last, rfl, unfinished, finished⟩ := isPiece.split
  induction front with
  | nil => simp [cutAfter, finished]
  | cons x front ih =>
    obtain ⟨going, later⟩ := forall_mem_cons.mp unfinished
    rw [cons_append, cons_append, cutAfter, if_neg (by simp [going]),
      ih (isPiece_concat front later finished) later]

/-- Every list is a row of pieces and a rest without final elements. -/
theorem exists_rest (final : α → Bool) (l : List α) : ∃ rest, l = (cutAfter final l).flatten ++ rest ∧
    (∀ x ∈ rest, final x = false) ∧ ∀ piece ∈ cutAfter final l, IsPiece final piece := by
  induction l with
  | nil => exact ⟨[], rfl, by simp, by simp [cutAfter]⟩
  | cons x l ih =>
    obtain ⟨rest, split, unfinished, pieces⟩ := ih
    rw [cutAfter]
    split
    · next finished =>
      refine ⟨rest, by rw [flatten_cons, singleton_append, cons_append, ← split], unfinished, ?_⟩
      exact forall_mem_cons.mpr ⟨isPiece_concat [] (by simp) finished, pieces⟩
    · next going =>
      have going : final x = false := by simpa using going
      cases cut : cutAfter final l with
      | nil =>
        rw [cut] at split
        refine ⟨x :: rest, by rw [split]; rfl, forall_mem_cons.mpr ⟨going, unfinished⟩, by simp⟩
      | cons piece later =>
        rw [cut] at split pieces
        obtain ⟨first, others⟩ := forall_mem_cons.mp pieces
        obtain ⟨front, last, rfl, before, finished⟩ := first.split
        refine ⟨rest, by rw [flatten_cons, cons_append, cons_append, ← flatten_cons, ← split], unfinished, ?_⟩
        exact forall_mem_cons.mpr
          ⟨isPiece_concat (x :: front) (forall_mem_cons.mpr ⟨going, before⟩) finished, others⟩

/-- Nothing is cut out of a list without final elements. -/
theorem cutAfter_eq_nil {rest : List α} (unfinished : ∀ x ∈ rest, final x = false) : cutAfter final rest = [] := by
  induction rest with
  | nil => rfl
  | cons x rest ih =>
    obtain ⟨going, later⟩ := forall_mem_cons.mp unfinished
    rw [cutAfter, if_neg (by simp [going]), ih later]

/-- A row of pieces is cut into these. -/
theorem cutAfter_flatten_append {pieces : List (List α)} (isPiece : ∀ piece ∈ pieces, IsPiece final piece)
    (rest : List α) : cutAfter final (pieces.flatten ++ rest) = pieces ++ cutAfter final rest := by
  induction pieces with
  | nil => rfl
  | cons piece later ih =>
    obtain ⟨first, others⟩ := forall_mem_cons.mp isPiece
    rw [flatten_cons, append_assoc, cutAfter_append_of_isPiece first, ih others, cons_append]

/-- Whatever is appended leaves the pieces as they are. -/
theorem cutAfter_prefix_append (l more : List α) : cutAfter final l <+: cutAfter final (l ++ more) := by
  obtain ⟨rest, split, -, pieces⟩ := exists_rest final l
  have longer := cutAfter_flatten_append pieces (rest ++ more)
  rw [← append_assoc, ← split] at longer
  rw [longer]
  exact prefix_append _ _

/-- A part of the list that ends with its only final element is the end of a piece. -/
theorem exists_piece_of_infix {piece : List α} (isPiece : IsPiece final piece) (before after : List α) :
    ∃ whole ∈ cutAfter final (before ++ piece ++ after), piece <:+ whole := by
  obtain ⟨rest, split, unfinished, pieces⟩ := exists_rest final before
  obtain ⟨front, last, rfl, going, finished⟩ := isPiece.split
  have longer : IsPiece final (rest ++ (front ++ [last])) := by
    rw [← append_assoc]
    refine isPiece_concat _ (fun x member => ?_) finished
    rcases mem_append.mp member with earlier | later
    · exact unfinished x earlier
    · exact going x later
  refine ⟨rest ++ (front ++ [last]), ?_, suffix_append _ _⟩
  have regrouped : before ++ (front ++ [last]) ++ after =
      (cutAfter final before).flatten ++ ((rest ++ (front ++ [last])) ++ after) := by
    conv_lhs => rw [split]
    simp only [append_assoc]
  rw [regrouped, cutAfter_flatten_append pieces, cutAfter_append_of_isPiece longer]
  simp

end List
