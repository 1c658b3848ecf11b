import Mathlib.Data.List.DropRight
import Mathlib.Tactic.Common

/-! # Insertion by a scan from the tail

`List.insertFromTail ahead x l` walks `l` from its last element towards its first and puts `x`
right behind the first element met that is ahead of `x`; when there is none, `x` becomes the new
first element. The list may be arbitrary: what the scan guarantees without any order on it is
where the new element ends up, and that nothing else moves.
-/

namespace List

variable {α : Type*} (ahead : α → α → Bool) (x : α)

/-- The scan itself, over the reversed list. -/
def insertReversed : List α → List α
  | [] => [x]
  | ref :: rest => if ahead ref x then x :: ref :: rest else ref :: insertReversed rest

/-- Insert `x` behind the last element that is ahead of it. -/
def insertFromTail (l : List α) : List α := (insertReversed ahead x l.reverse).reverse

theorem insertReversed_split (l : List α) : ∃ passed rest, l = passed ++ rest ∧
    insertReversed ahead x l = passed ++ x :: rest ∧ (∀ y ∈ passed, ahead y x = false) ∧
    (∀ y ∈ rest.head?, ahead y x = true) := by
  induction l with
  | nil => exact ⟨[], [], rfl, rfl, by simp, by simp⟩
  | cons ref rest ih =>
    cases found : ahead ref x with
    | true => exact ⟨[], ref :: rest, rfl, by simp [insertReversed, found], by simp, by simpa using found⟩
    | false =>
      obtain ⟨passed, kept, same, inserted, skipped, stopped⟩ := ih
      refine ⟨ref :: passed, kept, by rw [same, cons_append], ?_, ?_, stopped⟩
      · simp [insertReversed, found, inserted]
      · simpa [found] using skipped

/-- Where the new element ends up: everything behind it was passed over, and the element it
follows, if any, is ahead of it. -/
theorem insertFromTail_split (l : List α) : ∃ kept passed, l = kept ++ passed ∧
    insertFromTail ahead x l = kept ++ x :: passed ∧ (∀ y ∈ passed, ahead y x = false) ∧
    (∀ y ∈ kept.getLast?, ahead y x = true) := by
  obtain ⟨passed, rest, same, inserted, skipped, stopped⟩ := insertReversed_split ahead x l.reverse
  refine ⟨rest.reverse, passed.reverse, ?_, ?_, by simpa using skipped, by simpa using stopped⟩
  · rw [← reverse_append, ← same, reverse_reverse]
  · simp [insertFromTail, inserted]

/-- A sorted list stays sorted: the last element before the new one is ahead of it, and so are those before. -/
theorem pairwise_insertFromTail {r : α → α → Prop} (trans : ∀ a b c, r a b → r b c → r a c)
    (before : ∀ y, ahead y x = true → r y x) (behind : ∀ y, ahead y x = false → r x y) {l : List α}
    (sorted : l.Pairwise r) : (insertFromTail ahead x l).Pairwise r := by
  obtain ⟨kept, passed, rfl, inserted, skipped, stopped⟩ := insertFromTail_split ahead x l
  obtain ⟨front, back, across⟩ := pairwise_append.mp sorted
  have new (y : α) (member : y ∈ kept) : r y x := by
    induction kept using reverseRecOn with
    | nil => simp at member
    | append_singleton rest last _ =>
      have isAhead : r last x := before last (stopped last (by simp))
      rcases mem_append.mp member with earlier | isLast
      · exact trans y last x ((pairwise_append.mp front).2.2 y earlier last (by simp)) isAhead
      · rwa [mem_singleton.mp isLast]
  rw [inserted]
  refine pairwise_append.mpr ⟨front, pairwise_cons.mpr ⟨fun y member => behind y (skipped y member), back⟩, ?_⟩
  intro a memberKept b memberLater
  rcases mem_cons.mp memberLater with rfl | memberPassed
  · exact new a memberKept
  · exact across a memberKept b memberPassed

@[simp] theorem insertFromTail_nil : insertFromTail ahead x [] = [x] := rfl

theorem insertFromTail_perm (l : List α) : (insertFromTail ahead x l).Perm (x :: l) := by
  obtain ⟨kept, passed, rfl, inserted, -, -⟩ := insertFromTail_split ahead x l
  rw [inserted]
  exact perm_middle

@[simp] theorem length_insertFromTail (l : List α) :
    (insertFromTail ahead x l).length = l.length + 1 := (insertFromTail_perm ahead x l).length_eq

@[simp] theorem mem_insertFromTail {l : List α} {y : α} :
    y ∈ insertFromTail ahead x l ↔ y = x ∨ y ∈ l := by
  rw [(insertFromTail_perm ahead x l).mem_iff, mem_cons]

theorem insertFromTail_ne_nil (l : List α) : insertFromTail ahead x l ≠ [] := by
  intro empty
  have := congrArg length empty
  simp at this

/-- The new first element is the old one or the inserted one. -/
theorem mem_head?_insertFromTail {l : List α} {y : α} (first : y ∈ (insertFromTail ahead x l).head?) :
    y = x ∨ y ∈ l.head? := by
  obtain ⟨kept, passed, rfl, inserted, -, -⟩ := insertFromTail_split ahead x l
  rw [inserted] at first
  cases kept with
  | nil => exact .inl (by simpa [eq_comm] using first)
  | cons front later => exact .inr (by simpa using first)

theorem insertReversed_append {passed : List α} (skipped : ∀ y ∈ passed, ahead y x = false) (rest : List α) :
    insertReversed ahead x (passed ++ rest) = passed ++ insertReversed ahead x rest := by
  induction passed with
  | nil => rfl
  | cons ref later ih =>
    simp only [forall_mem_cons] at skipped
    simp [insertReversed, skipped.1, ih skipped.2]

/-- The new element goes right behind a part whose last element is ahead of it, if nothing further
behind is. -/
theorem insertFromTail_append {front back : List α} (last : ∀ y ∈ front.getLast?, ahead y x = true)
    (passed : ∀ y ∈ back, ahead y x = false) :
    insertFromTail ahead x (front ++ back) = front ++ x :: back := by
  rw [insertFromTail, reverse_append, insertReversed_append ahead x (by simpa using passed)]
  induction front using List.reverseRecOn with
  | nil => simp [insertReversed]
  | append_singleton front ref _ =>
    have found : ahead ref x = true := last ref (by simp)
    simp [insertReversed, found]

/-- The new element goes behind what is left when the elements not ahead of it are dropped from the
tail. -/
theorem insertFromTail_eq_rdropWhile (l : List α) : insertFromTail ahead x l =
    l.rdropWhile (fun y => !ahead y x) ++ x :: l.rtakeWhile (fun y => !ahead y x) := by
  conv_lhs => rw [← rdropWhile_append_rtakeWhile (p := fun y => !ahead y x) (l := l)]
  apply insertFromTail_append
  · intro y last
    obtain ⟨nonempty, rfl⟩ := mem_getLast?_eq_getLast last
    simpa using rdropWhile_last_not _ _ nonempty
  · intro y passed
    simpa using mem_rtakeWhile_imp passed

/-- An element everything is ahead of goes to the tail. -/
theorem insertFromTail_eq_append {l : List α} (last : ∀ y ∈ l.getLast?, ahead y x = true) :
    insertFromTail ahead x l = l ++ [x] := by
  have appended := insertFromTail_append ahead x last (forall_mem_nil fun y => ahead y x = false)
  rwa [append_nil] at appended

/-- Where the element goes depends on what is ahead of it among the others. -/
theorem insertFromTail_congr {ahead' : α → α → Bool} {l : List α} (alike : ∀ y ∈ l, ahead' y x = ahead y x) :
    insertFromTail ahead' x l = insertFromTail ahead x l := by
  obtain ⟨kept, passed, rfl, inserted, skipped, last⟩ := insertFromTail_split ahead x l
  rw [inserted]
  refine insertFromTail_append ahead' x (fun y isLast => ?_) (fun y member => ?_)
  · rw [alike y (mem_append_left _ (mem_of_getLast? isLast)), last y isLast]
  · rw [alike y (mem_append_right _ member), skipped y member]

/-- An element that is not ahead of the new one stays at the tail. -/
theorem insertFromTail_concat (l : List α) {last : α} (passed : ahead last x = false) :
    insertFromTail ahead x (l ++ [last]) = insertFromTail ahead x l ++ [last] := by
  simp [insertFromTail, insertReversed, passed]

/-- Among elements that are ahead of it or equal to it, an element goes to the tail. -/
theorem insertFromTail_eq_append_of_forall {l : List α} (each : ∀ y ∈ l, y = x ∨ ahead y x = true) :
    insertFromTail ahead x l = l ++ [x] := by
  induction l using List.reverseRecOn with
  | nil => rfl
  | append_singleton front ref ih =>
    cases found : ahead ref x with
    | true => exact insertFromTail_eq_append ahead x (by simpa using found)
    | false =>
      have same : ref = x := (each ref (by simp)).resolve_right (by simp [found])
      have before := ih fun y member => each y (by simp [member])
      rw [insertFromTail_concat ahead x front found, before, same]

/-- An element that nothing is ahead of goes to the head. -/
theorem insertFromTail_eq_cons {l : List α} (none : ∀ y ∈ l, ahead y x = false) :
    insertFromTail ahead x l = x :: l := by
  have last : ∀ y ∈ getLast? ([] : List α), ahead y x = true := by simp
  simpa using insertFromTail_append ahead x last none

end List
