import Mathlib.Algebra.BigOperators.Group.Finset.Basic
import Mathlib.Order.Bounds.Basic
import Mathlib.Order.WellFounded
import S3tp.Machine.Run

/-! # A server of queues by priority

Items wait in a queue for each key, first in, first out. They come in batches: `more item` says that the next item of
the key belongs to the same batch. While a batch is under way nothing else is served. Between batches the least key is
served whose first item is allowed.
-/

namespace S3tp.Machine

inductive ServerEvent (κ α : Type*) where
  | submit (key : κ) (item : α)
  | serve (allowed : α → Prop)

/-- The items that wait, the key of the batch that is under way, and what was served, oldest first. -/
structure PriorityServer (κ α : Type*) where
  queue : κ → List α := fun _ => []
  current : Option κ := none
  served : List (κ × α) := []

namespace PriorityServer

variable {κ α : Type*} {more : α → Bool} {s t : PriorityServer κ α} {key : κ}

/-- The first item of the key may leave, and no other key's batch is under way. -/
structure Eligible (s : PriorityServer κ α) (allowed : α → Prop) (key : κ) : Prop where
  head : ∃ item ∈ (s.queue key).head?, allowed item
  turn : ∀ current ∈ s.current, current = key

theorem eligible_iff_of_open {allowed : α → Prop} (all : ∀ item, allowed item) : s.Eligible allowed key ↔
    s.queue key ≠ [] ∧ ∀ current ∈ s.current, current = key := by
  constructor
  · rintro ⟨⟨item, first, -⟩, turn⟩
    refine ⟨?_, turn⟩
    rintro nothing
    simp [nothing] at first
  · rintro ⟨waits, turn⟩
    obtain ⟨item, rest, queued⟩ := List.exists_cons_of_ne_nil waits
    exact ⟨⟨item, by simp [queued], all item⟩, turn⟩

/-- How many items wait on the keys. -/
def waiting (s : PriorityServer κ α) (keys : Finset κ) : ℕ := ∑ key ∈ keys, (s.queue key).length

/-- Items wait on the keys only. -/
def WaitsWithin (s : PriorityServer κ α) (keys : Finset κ) : Prop := ∀ key, s.queue key ≠ [] → key ∈ keys

theorem WaitsWithin.queue_eq_nil {keys : Finset κ} (within : s.WaitsWithin keys) (none : s.waiting keys = 0) (key : κ) :
    s.queue key = [] := by
  by_contra waits
  rw [waiting, Finset.sum_eq_zero_iff] at none
  exact waits (List.length_eq_zero_iff.mp (none key (within key waits)))

variable [LinearOrder κ]

open Classical in
/-- The key whose turn it is. -/
noncomputable def next? (s : PriorityServer κ α) (allowed : α → Prop) : Option κ :=
  if least : ∃ key, IsLeast {key | s.Eligible allowed key} key then some least.choose else none

/-- The first item of the key leaves. -/
def take (more : α → Bool) (s : PriorityServer κ α) (key : κ) : PriorityServer κ α :=
  match s.queue key with
  | [] => s
  | item :: rest =>
    { queue := Function.update s.queue key rest
      current := if more item then some key else none
      served := s.served ++ [(key, item)] }

noncomputable def serve (more : α → Bool) (s : PriorityServer κ α) (allowed : α → Prop) : PriorityServer κ α :=
  match s.next? allowed with
  | none => s
  | some key => s.take more key

noncomputable def step (more : α → Bool) (s : PriorityServer κ α) : ServerEvent κ α → Option (PriorityServer κ α)
  | .submit key item => some { s with queue := Function.update s.queue key (s.queue key ++ [item]) }
  | .serve allowed => some (s.serve more allowed)

/-! ## What a turn can do -/

theorem next?_eq_some {allowed : α → Prop} (least : IsLeast {key | s.Eligible allowed key} key) :
    s.next? allowed = some key := by
  have exists_least : ∃ key, IsLeast {key | s.Eligible allowed key} key := ⟨key, least⟩
  rw [next?, dif_pos exists_least]
  exact congrArg some (exists_least.choose_spec.unique least)

theorem isLeast_of_next? {allowed : α → Prop} (next : s.next? allowed = some key) :
    IsLeast {key | s.Eligible allowed key} key := by
  rw [next?] at next
  split at next
  · next least =>
    obtain rfl := Option.some.inj next
    exact least.choose_spec
  · contradiction

theorem take_of_cons {item : α} {rest : List α} (queued : s.queue key = item :: rest) : s.take more key =
    { queue := Function.update s.queue key rest
      current := if more item then some key else none
      served := s.served ++ [(key, item)] } := by
  rw [take, queued]

/-- The least key whose turn it can be is served. -/
theorem serve_of_isLeast {allowed : α → Prop} (least : IsLeast {key | s.Eligible allowed key} key) :
    s.serve more allowed = s.take more key := by
  rw [serve, next?_eq_some least]

theorem serve_of_not_eligible {allowed : α → Prop} (none : ∀ key, ¬ s.Eligible allowed key) :
    s.serve more allowed = s := by
  have silent : s.next? allowed = Option.none := by
    rw [Option.eq_none_iff_forall_ne_some]
    exact fun key next => none key (isLeast_of_next? next).1
  rw [serve, silent]

/-- Nothing is served, or the first item of the least key whose turn it can be. -/
theorem serve_cases (more : α → Bool) (s : PriorityServer κ α) (allowed : α → Prop) : s.serve more allowed = s ∨
    ∃ key item rest, IsLeast {key | s.Eligible allowed key} key ∧ s.queue key = item :: rest ∧ allowed item ∧
      s.serve more allowed = s.take more key := by
  cases next : s.next? allowed with
  | none => exact .inl (by rw [serve, next])
  | some key =>
    have least := isLeast_of_next? next
    obtain ⟨item, first, ok⟩ := least.1.head
    obtain ⟨rest, queued⟩ := List.head?_eq_some_iff.mp first
    exact .inr ⟨key, item, rest, least, queued, ok, serve_of_isLeast least⟩

/-- Where some key can have its turn, one has. -/
theorem exists_isLeast [WellFoundedLT κ] {allowed : α → Prop} (eligible : s.Eligible allowed key) :
    ∃ least, IsLeast {key | s.Eligible allowed key} least := by
  obtain ⟨least, member, below⟩ := wellFounded_lt.has_min {key | s.Eligible allowed key} ⟨key, eligible⟩
  exact ⟨least, member, fun other among => not_lt.mp (below other among)⟩

/-! ## First in, first out -/

/-- The items of the key that were served, oldest first. -/
def servedOn (s : PriorityServer κ α) (key : κ) : List α :=
  (s.served.filter fun entry => entry.1 = key).map Prod.snd

/-- The items submitted on the key, oldest first. -/
def submittedOn (key : κ) (events : List (ServerEvent κ α)) : List α :=
  events.filterMap fun
    | .submit on item => if on = key then some item else none
    | .serve _ => none

theorem servedOn_take {item : α} {rest : List α} {other : κ} (queued : s.queue other = item :: rest) :
    (s.take more other).servedOn key ++ (s.take more other).queue key = s.servedOn key ++ s.queue key := by
  rw [take_of_cons queued]
  rcases Classical.em (other = key) with rfl | different
  · simp [servedOn, queued]
  · simp [servedOn, different, Ne.symm different]

/-- On each key, what was served and what waits is what was submitted, in that order. -/
theorem servedOn_append_queue {events : List (ServerEvent κ α)} (run : Run (step more) Always s events t) (key : κ) :
    t.servedOn key ++ t.queue key = s.servedOn key ++ s.queue key ++ submittedOn key events := by
  induction run with
  | nil => simp [submittedOn]
  | @cons s mid t event events _ stepped _ ih =>
    rw [ih]
    cases event with
    | submit on item =>
      obtain rfl := Option.some.inj stepped
      rcases Classical.em (on = key) with rfl | different
      · simp [submittedOn, servedOn]
      · simp [submittedOn, servedOn, different, Ne.symm different]
    | serve allowed =>
      obtain rfl := Option.some.inj stepped
      have same : (s.serve more allowed).servedOn key ++ (s.serve more allowed).queue key =
          s.servedOn key ++ s.queue key := by
        rcases s.serve_cases more allowed with idle | ⟨other, item, rest, -, queued, -, taken⟩
        · rw [idle]
        · rw [taken]
          exact servedOn_take queued
      rw [same]
      rfl

/-! ## Serving until nothing waits -/

/-- Every batch that waits is whole: no queue ends within one, and the one under way goes on. -/
structure Whole (more : α → Bool) (s : PriorityServer κ α) : Prop where
  ended : ∀ key, ∀ item ∈ (s.queue key).getLast?, more item = false
  goesOn : ∀ key ∈ s.current, s.queue key ≠ []

/-- Nothing waits below the key of the batch under way. -/
def Lowest (s : PriorityServer κ α) : Prop := ∀ current ∈ s.current, ∀ key, s.queue key ≠ [] → current ≤ key

/-- A turn that allows every item. -/
def IsOpenTurn (_ : PriorityServer κ α) (event : ServerEvent κ α) : Prop :=
  ∃ allowed : α → Prop, event = .serve allowed ∧ ∀ item, allowed item

theorem queue_take (more : α → Bool) {item : α} {rest : List α} (queued : s.queue key = item :: rest) (other : κ) :
    (s.take more key).queue other <:+ s.queue other := by
  rw [take_of_cons queued]
  rcases Classical.em (other = key) with rfl | different
  · simp [queued]
  · simp [different]

/-- Taking an item leaves the batches whole. -/
theorem Whole.take {item : α} {rest : List α} (whole : s.Whole more) (queued : s.queue key = item :: rest) :
    (s.take more key).Whole more where
  ended other last member := by
    obtain ⟨before, split⟩ := queue_take more queued other
    apply whole.ended other last
    rw [← split]
    exact List.mem_getLast?_append_of_mem_getLast? member
  goesOn other under := by
    rw [take_of_cons queued] at under ⊢
    have going : more item = true ∧ key = other := by simpa using under
    obtain ⟨going, rfl⟩ := going
    simp only [Function.update_self]
    rintro rfl
    have final := whole.ended key item (by simp [queued])
    exact absurd (final.symm.trans going) Bool.false_ne_true

/-- The key taken becomes the lowest. -/
theorem Lowest.take {item : α} {rest : List α} (queued : s.queue key = item :: rest)
    (below : ∀ other, s.queue other ≠ [] → key ≤ other) : (s.take more key).Lowest := by
  intro current under other waits
  have least : key ≤ other := by
    apply below
    intro nothing
    exact waits (List.suffix_nil.mp (nothing ▸ queue_take more queued other))
  rw [take_of_cons queued] at under
  obtain ⟨-, rfl⟩ : more item = true ∧ key = current := by simpa using under
  exact least

/-- An open turn serves nothing, or an item of a key below all that wait, if the batch under way is. -/
theorem serve_cases_of_open (more : α → Bool) (lowest : s.Lowest) {allowed : α → Prop} (all : ∀ item, allowed item) :
    s.serve more allowed = s ∨ ∃ key item rest, s.queue key = item :: rest ∧
      (∀ other, s.queue other ≠ [] → key ≤ other) ∧ s.serve more allowed = s.take more key := by
  rcases s.serve_cases more allowed with idle | ⟨key, item, rest, least, queued, -, taken⟩
  · exact .inl idle
  refine .inr ⟨key, item, rest, queued, fun other waits => ?_, taken⟩
  cases under : s.current with
  | none => exact least.2 ((eligible_iff_of_open all).mpr ⟨waits, by simp [under]⟩)
  | some current =>
    obtain rfl := least.1.turn current under
    exact lowest current under other waits

/-- Open turns go through the keys in ascending order. -/
theorem ascending_of_open {events : List (ServerEvent κ α)} (lowest : s.Lowest)
    (run : Run (step more) IsOpenTurn s events t) : ∃ new, t.served = s.served ++ new ∧
      new.Pairwise (fun earlier later => earlier.1 ≤ later.1) ∧ ∀ entry ∈ new, s.queue entry.1 ≠ [] := by
  induction run with
  | nil => exact ⟨[], by simp, .nil, by simp⟩
  | @cons s mid t event events isOpen stepped _ ih =>
    obtain ⟨allowed, rfl, all⟩ := isOpen
    obtain rfl := Option.some.inj stepped
    rcases s.serve_cases_of_open more lowest all with idle | ⟨key, item, rest, queued, below, taken⟩
    · rw [idle] at ih
      exact ih lowest
    · rw [taken] at ih
      obtain ⟨new, served, ascending, among⟩ := ih (Lowest.take queued below)
      have waited : ∀ entry ∈ new, s.queue entry.1 ≠ [] := fun entry member nothing =>
        among entry member (List.suffix_nil.mp (nothing ▸ queue_take more queued entry.1))
      refine ⟨(key, item) :: new, ?_, ?_, ?_⟩
      · rw [served, take_of_cons queued, List.append_assoc]
        rfl
      · exact List.pairwise_cons.mpr ⟨fun entry member => below entry.1 (waited entry member), ascending⟩
      · exact List.forall_mem_cons.mpr ⟨by simp [queued], waited⟩

/-- Open turns serve what waits on each key in its order. -/
theorem servedOn_of_open {events : List (ServerEvent κ α)} (run : Run (step more) IsOpenTurn s events t) (key : κ) :
    t.servedOn key ++ t.queue key = s.servedOn key ++ s.queue key := by
  have nothing : submittedOn key events = [] := by
    induction run with
    | nil => rfl
    | cons isOpen _ _ ih =>
      obtain ⟨allowed, rfl, -⟩ := isOpen
      exact ih
  rw [servedOn_append_queue run.always key, nothing, List.append_nil]

section Drain

variable {keys : Finset κ}

theorem WaitsWithin.take (more : α → Bool) {item : α} {rest : List α} (within : s.WaitsWithin keys)
    (queued : s.queue key = item :: rest) :
    (s.take more key).WaitsWithin keys ∧ (s.take more key).waiting keys + 1 = s.waiting keys := by
  have among : key ∈ keys := within key (by simp [queued])
  constructor
  · intro other waits
    apply within other
    intro nothing
    exact waits (List.suffix_nil.mp (nothing ▸ queue_take more queued other))
  · have others : ∀ other ∈ keys.erase key, ((s.take more key).queue other).length = (s.queue other).length := by
      intro other member
      simp [take_of_cons queued, Finset.ne_of_mem_erase member]
    rw [waiting, waiting, ← Finset.add_sum_erase keys _ among,
      ← Finset.add_sum_erase keys (fun key => (s.queue key).length) among, Finset.sum_congr rfl others,
      take_of_cons queued, queued]
    simp only [Function.update_self, List.length_cons]
    omega

/-- While something waits, whole batches are served on. -/
theorem Whole.serves [WellFoundedLT κ] (whole : s.Whole more) (waits : s.waiting keys ≠ 0) {allowed : α → Prop}
    (all : ∀ item, allowed item) :
    ∃ key item rest, s.queue key = item :: rest ∧ s.serve more allowed = s.take more key := by
  rcases s.serve_cases more allowed with idle | ⟨key, item, rest, -, queued, -, taken⟩
  · exfalso
    have eligible : ∃ key, s.Eligible allowed key := by
      cases under : s.current with
      | none =>
        obtain ⟨key, -, some⟩ := Finset.exists_ne_zero_of_sum_ne_zero waits
        exact ⟨key, (eligible_iff_of_open all).mpr ⟨fun nothing => some (by simp [nothing]), by simp [under]⟩⟩
      | some key =>
        refine ⟨key, (eligible_iff_of_open all).mpr ⟨whole.goesOn key under, fun other same => ?_⟩⟩
        exact Option.some.inj (same.symm.trans under)
    obtain ⟨key, eligible⟩ := eligible
    obtain ⟨least, isLeast⟩ := exists_isLeast eligible
    obtain ⟨item, first, -⟩ := isLeast.1.head
    obtain ⟨rest, queued⟩ := List.head?_eq_some_iff.mp first
    rw [serve_of_isLeast isLeast, take_of_cons queued] at idle
    have longer := congrArg (List.length ∘ served) idle
    simp at longer
  · exact ⟨key, item, rest, queued, taken⟩

/-- As many open turns as items wait serve them all. -/
theorem Whole.drained [WellFoundedLT κ] {events : List (ServerEvent κ α)} (whole : s.Whole more)
    (within : s.WaitsWithin keys) (run : Run (step more) IsOpenTurn s events t)
    (enough : s.waiting keys ≤ events.length) : (∀ key, t.queue key = []) ∧ t.current = none := by
  induction run with
  | nil s =>
    have nothing := within.queue_eq_nil (Nat.le_zero.mp enough)
    exact ⟨nothing, Option.eq_none_iff_forall_ne_some.mpr fun key under => whole.goesOn key under (nothing key)⟩
  | @cons s mid t event events isOpen stepped _ ih =>
    obtain ⟨allowed, rfl, all⟩ := isOpen
    obtain rfl := Option.some.inj stepped
    rcases Classical.em (s.waiting keys = 0) with nothing | waits
    · have idle : s.serve more allowed = s := serve_of_not_eligible fun key eligible =>
        ((eligible_iff_of_open all).mp eligible).1 (within.queue_eq_nil nothing key)
      rw [idle] at ih
      exact ih whole within (by omega)
    · obtain ⟨key, item, rest, queued, taken⟩ := whole.serves waits all
      rw [taken] at ih
      obtain ⟨still, fewer⟩ := within.take more queued
      simp only [List.length_cons] at enough
      exact ih (whole.take queued) still (by omega)

end Drain

end PriorityServer

end S3tp.Machine
