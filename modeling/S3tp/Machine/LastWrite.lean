import Mathlib.Data.List.Induction
import Mathlib.Tactic.Common

/-! # What a sequence of writes leaves

Each of the writes changes a state and may set the field that is looked at. A field that no write of another field
disturbs shows the last value written to it, whatever lies between.
-/

namespace S3tp.Machine

variable {σ ε β : Type*}

/-- The last value the writes set the field to, or what it showed before. -/
def lastWritten (value : ε → Option β) (before : β) (writes : List ε) : β :=
  (writes.filterMap value).getLast?.getD before

section Field

variable {value : ε → Option β} {before : β}

@[simp] theorem lastWritten_nil : lastWritten value before [] = before := rfl

@[simp] theorem lastWritten_concat (writes : List ε) (write : ε) :
    lastWritten value before (writes ++ [write]) = (value write).getD (lastWritten value before writes) := by
  cases written : value write with
  | none => simp [lastWritten, List.filterMap_append, written]
  | some v => simp [lastWritten, List.filterMap_append, written]

/-- Where every write sets the field or leaves it alone, the field shows the last value written to it. -/
theorem get_foldl {get : σ → β} {apply : σ → ε → σ} {writes : List ε}
    (law : ∀ write ∈ writes, ∀ s, get (apply s write) = (value write).getD (get s)) (s : σ) :
    get (writes.foldl apply s) = lastWritten value (get s) writes := by
  induction writes using List.reverseRecOn with
  | nil => rfl
  | append_singleton writes write ih =>
    have before := ih fun other member => law other (by simp [member])
    rw [List.foldl_append, List.foldl_cons, List.foldl_nil, law write (by simp), before, lastWritten_concat]

end Field

end S3tp.Machine
