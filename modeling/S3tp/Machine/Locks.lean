import Mathlib.Data.List.Nodup
import Mathlib.Logic.Function.Basic
import Mathlib.Logic.Relation
import S3tp.Machine.Run

/-! # Threads that take and release mutexes

Each thread runs through a script of lock and unlock steps. A thread waits for another one when its
next step takes a mutex the other one holds, and a deadlock is a cycle of threads waiting for each
other. A nesting discipline is a relation between the mutexes a thread holds, innermost first, and
those it may take next.

Two threads have crossed when each holds a mutex that the other one goes on to take before it
releases its own. From there on neither can get past the other.

A section is guarded if whoever is inside holds its mutex, and stays so as threads pass one at a time.
-/

namespace S3tp.Machine

inductive LockAction (μ : Type*) where
  | acquire (x : μ)
  | release (x : μ)
deriving DecidableEq

/-- The same step on a mutex of another name. -/
def LockAction.map {μ ν : Type*} (f : μ → ν) : LockAction μ → LockAction ν
  | .acquire x => .acquire (f x)
  | .release x => .release (f x)

/-- What each thread has still to do, and who holds which mutex. -/
structure LockState (τ μ : Type*) where
  script : τ → List (LockAction μ)
  holder : μ → Option τ := fun _ => none

namespace LockState

variable {τ μ : Type*}

/-- The next step of the thread. A mutex is taken when it is free, and released by its holder. -/
def step [DecidableEq τ] [DecidableEq μ] (s : LockState τ μ) (t : τ) : Option (LockState τ μ) :=
  match s.script t with
  | [] => none
  | .acquire x :: rest =>
    if s.holder x = none then
      some ⟨Function.update s.script t rest, Function.update s.holder x (some t)⟩
    else none
  | .release x :: rest =>
    if s.holder x = some t then
      some ⟨Function.update s.script t rest, Function.update s.holder x none⟩
    else none

/-- The thread's next step takes the mutex. -/
def Awaits (s : LockState τ μ) (t : τ) (x : μ) : Prop := ∃ rest, s.script t = .acquire x :: rest

/-- The thread's next step takes a mutex the other one holds. -/
def WaitsFor (s : LockState τ μ) (t u : τ) : Prop := ∃ x, s.Awaits t x ∧ s.holder x = some u

/-- There is a cycle of threads each waiting for a mutex held by the next. -/
def Deadlocked (s : LockState τ μ) : Prop := ∃ t, Relation.TransGen s.WaitsFor t t

theorem awaits_of_head? {s : LockState τ μ} {t : τ} {x : μ} (next : (s.script t).head? = some (.acquire x)) :
    s.Awaits t x := List.head?_eq_some_iff.mp next

theorem Awaits.unique {s : LockState τ μ} {t : τ} {x y : μ} (first : s.Awaits t x) (second : s.Awaits t y) :
    x = y := by
  obtain ⟨rest, now⟩ := first
  obtain ⟨rest', now'⟩ := second
  rw [now, List.cons.injEq, LockAction.acquire.injEq] at now'
  exact now'.1

theorem step_cases [DecidableEq τ] [DecidableEq μ] {s next : LockState τ μ} {t : τ}
    (stepped : s.step t = some next) :
    (∃ x rest, s.script t = .acquire x :: rest ∧ s.holder x = none ∧
      next = ⟨Function.update s.script t rest, Function.update s.holder x (some t)⟩) ∨
    (∃ x rest, s.script t = .release x :: rest ∧ s.holder x = some t ∧
      next = ⟨Function.update s.script t rest, Function.update s.holder x none⟩) := by
  rw [step] at stepped
  split at stepped
  · contradiction
  · next x rest now =>
    split at stepped
    · next free => exact .inl ⟨x, rest, now, free, (Option.some.inj stepped).symm⟩
    · contradiction
  · next x rest now =>
    split at stepped
    · next own => exact .inr ⟨x, rest, now, own, (Option.some.inj stepped).symm⟩
    · contradiction

/-! ## Cycles -/

section Cycles

variable {s : LockState τ μ}

/-- There is no cycle if, wherever a cycle could pass, the mutex awaited next ranks higher. -/
theorem not_deadlocked_of_ascending (rank : μ → ℕ)
    (ascends : ∀ t u x y, s.Awaits t x → s.holder x = some u → s.Awaits u y →
      Relation.ReflTransGen s.WaitsFor u t → rank x < rank y) : ¬ s.Deadlocked := by
  rintro ⟨t, cycle⟩
  have climbs {u : τ} (path : Relation.TransGen s.WaitsFor t u) : Relation.ReflTransGen s.WaitsFor u t →
      ∀ x y, s.Awaits t x → s.Awaits u y → rank x < rank y := by
    induction path with
    | single edge =>
      intro back x y first last
      obtain ⟨x', awaited, held⟩ := edge
      obtain rfl := first.unique awaited
      exact ascends _ _ _ _ awaited held last back
    | tail earlier edge ih =>
      intro back x y first last
      obtain ⟨z, awaited, held⟩ := edge
      calc rank x < rank z := ih (.head ⟨z, awaited, held⟩ back) x z first awaited
        _ < rank y := ascends _ _ _ _ awaited held last (back.trans earlier.to_reflTransGen)
  obtain ⟨u, ⟨x, awaited, -⟩, -⟩ := Relation.TransGen.head'_iff.mp cycle
  exact Nat.lt_irrefl _ (climbs cycle .refl x x awaited awaited)

/-- Whoever leads to a cycle waits for somebody who does. -/
theorem onward {t u : τ} (cycle : Relation.TransGen s.WaitsFor u u) (leads : Relation.ReflTransGen s.WaitsFor t u) :
    ∃ x v, s.Awaits t x ∧ s.holder x = some v ∧ Relation.ReflTransGen s.WaitsFor v u := by
  obtain ⟨v, ⟨x, awaited, held⟩, back⟩ := Relation.TransGen.head'_iff.mp (.trans_right leads cycle)
  exact ⟨x, v, awaited, held, back⟩

/-- Mutexes that are awaited only on the way to their like are not left by a path that has come to them. -/
theorem closed_of_path {closed : μ → Prop}
    (keeps : ∀ t x y, s.holder x = some t → s.Awaits t y → closed x → closed y) {t u : τ} {x y : μ}
    (first : s.Awaits t x) (inside : closed x) (path : Relation.ReflTransGen s.WaitsFor t u) (last : s.Awaits u y) :
    closed y := by
  induction path generalizing y with
  | refl => exact first.unique last ▸ inside
  | tail _ edge ih =>
    obtain ⟨z, awaited, held⟩ := edge
    exact keeps _ z y held last (ih awaited)

end Cycles

/-! ## Crossing -/

/-- The script takes `y` before it releases `x`. -/
def GoesOn (x y : μ) : List (LockAction μ) → Prop
  | [] => False
  | .acquire z :: rest => z = y ∨ GoesOn x y rest
  | .release z :: rest => z ≠ x ∧ GoesOn x y rest

/-- Each of the threads holds a mutex the other one goes on to take before it releases its own. -/
structure Crossed (s : LockState τ μ) (t u : τ) (x y : μ) : Prop where
  first : s.holder x = some t
  firstGoesOn : GoesOn x y (s.script t)
  second : s.holder y = some u
  secondGoesOn : GoesOn y x (s.script u)

/-- The thread takes a mutex with which it crosses another thread. -/
def Crosses (s : LockState τ μ) (t : τ) : Prop :=
  ∃ x y rest u, s.script t = .acquire x :: rest ∧ GoesOn x y rest ∧
    s.holder y = some u ∧ u ≠ t ∧ GoesOn y x (s.script u)

/-- No two threads have crossed. -/
def Uncrossed (s : LockState τ μ) : Prop := ∀ t u x y, t ≠ u → ¬ s.Crossed t u x y

section Stepping

variable [DecidableEq τ] [DecidableEq μ] {s next : LockState τ μ} {t : τ}

/-- A mutex held after a step was held before, or has just been taken. -/
theorem holder_of_step (stepped : s.step t = some next) {u : τ} {x : μ} (held : next.holder x = some u) :
    s.holder x = some u ∨ (u = t ∧ s.script t = .acquire x :: next.script t) := by
  rcases step_cases stepped with ⟨z, rest, now, free, rfl⟩ | ⟨z, rest, now, own, rfl⟩
  · rcases Classical.em (x = z) with rfl | other
    · exact .inr ⟨by simpa [eq_comm] using held, by simpa using now⟩
    · exact .inl (by simpa [other] using held)
  · rcases Classical.em (x = z) with rfl | other
    · simp at held
    · exact .inl (by simpa [other] using held)

/-- What a script goes on to after a step it went on to before. -/
theorem goesOn_of_step (stepped : s.step t = some next) {u : τ} {x y : μ} (held : next.holder x = some u)
    (goesOn : GoesOn x y (next.script u)) : GoesOn x y (s.script u) := by
  rcases step_cases stepped with ⟨z, rest, now, free, rfl⟩ | ⟨z, rest, now, own, rfl⟩
  · rcases Classical.em (u = t) with rfl | other
    · rw [now]
      exact .inr (by simpa using goesOn)
    · simpa [other] using goesOn
  · have kept : x ≠ z := by
      rintro rfl
      simp at held
    rcases Classical.em (u = t) with rfl | other
    · rw [now]
      exact ⟨kept.symm, by simpa using goesOn⟩
    · simpa [other] using goesOn

/-- Threads cross only by a step that crosses. -/
theorem Uncrossed.step (uncrossed : s.Uncrossed) (straight : ¬ s.Crosses t) (stepped : s.step t = some next) :
    next.Uncrossed := by
  intro a b x y different crossed
  have firstBefore := goesOn_of_step stepped crossed.first crossed.firstGoesOn
  have secondBefore := goesOn_of_step stepped crossed.second crossed.secondGoesOn
  rcases holder_of_step stepped crossed.first with first | ⟨rfl, taken⟩
  · rcases holder_of_step stepped crossed.second with second | ⟨rfl, taken⟩
    · exact uncrossed a b x y different ⟨first, firstBefore, second, secondBefore⟩
    · exact straight ⟨y, x, _, a, taken, crossed.secondGoesOn, first, different, firstBefore⟩
  · rcases holder_of_step stepped crossed.second with second | ⟨same, -⟩
    · exact straight ⟨x, y, _, b, taken, crossed.firstGoesOn, second, different.symm, secondBefore⟩
    · exact different same.symm

/-- A thread that has crossed another one takes neither mutex and releases neither. -/
theorem goesOn_step (stepped : s.step t = some next) {u : τ} {x y : μ} (held : s.holder x = some u)
    (taken : ∃ v, v ≠ u ∧ s.holder y = some v) (goesOn : GoesOn x y (s.script u)) :
    next.holder x = some u ∧ GoesOn x y (next.script u) := by
  obtain ⟨v, other, held'⟩ := taken
  rcases step_cases stepped with ⟨z, rest, now, free, rfl⟩ | ⟨z, rest, now, own, rfl⟩
  · have kept : x ≠ z := by
      rintro rfl
      simp [held] at free
    refine ⟨by simpa [kept] using held, ?_⟩
    rcases Classical.em (u = t) with rfl | different
    · rw [now] at goesOn
      rcases goesOn with rfl | goesOn
      · simp [held'] at free
      · simpa using goesOn
    · simpa [different] using goesOn
  · rcases Classical.em (u = t) with rfl | different
    · rw [now] at goesOn
      exact ⟨by simpa [goesOn.1.symm] using held, by simpa using goesOn.2⟩
    · have kept : x ≠ z := by
        rintro rfl
        exact different (Option.some.inj (held.symm.trans own))
      exact ⟨by simpa [kept] using held, by simpa [different] using goesOn⟩

/-- Threads that have crossed stay so whatever happens. -/
theorem Crossed.step {a b : τ} {x y : μ} (crossed : s.Crossed a b x y) (different : a ≠ b)
    (stepped : s.step t = some next) : next.Crossed a b x y := by
  obtain ⟨first, firstGoesOn⟩ :=
    goesOn_step stepped crossed.first ⟨b, different.symm, crossed.second⟩ crossed.firstGoesOn
  obtain ⟨second, secondGoesOn⟩ :=
    goesOn_step stepped crossed.second ⟨a, different, crossed.first⟩ crossed.secondGoesOn
  exact ⟨first, firstGoesOn, second, secondGoesOn⟩

/-- Neither of them ever gets to the end of its script. -/
theorem Crossed.run {a b : τ} {x y : μ} {ts : List τ} (crossed : s.Crossed a b x y) (different : a ≠ b)
    (run : Run LockState.step Always s ts next) :
    next.Crossed a b x y ∧ next.script a ≠ [] ∧ next.script b ≠ [] := by
  have still : next.Crossed a b x y :=
    run.invariant (P := fun s => s.Crossed a b x y)
      (fun _ _ _ crossed _ stepped => Crossed.step crossed different stepped) crossed
  have unfinished {u v : μ} {script : List (LockAction μ)} (goesOn : GoesOn u v script) : script ≠ [] := by
    rintro rfl
    exact goesOn
  exact ⟨still, unfinished still.firstGoesOn, unfinished still.secondGoesOn⟩

end Stepping

end LockState

/-! ## Nesting disciplines -/

/-- The script takes mutexes only as the discipline allows and releases the innermost one first. -/
def Disciplined {μ : Type*} (allowed : List μ → μ → Prop) : List μ → List (LockAction μ) → Prop
  | _, [] => True
  | held, .acquire x :: rest => allowed held x ∧ Disciplined allowed (x :: held) rest
  | held, .release x :: rest => held.head? = some x ∧ Disciplined allowed held.tail rest

/-- What the thread holds after the script. -/
def heldAfter {μ : Type*} : List μ → List (LockAction μ) → List μ
  | held, [] => held
  | held, .acquire x :: rest => heldAfter (x :: held) rest
  | held, .release _ :: rest => heldAfter held.tail rest

section Discipline

variable {μ : Type*} {allowed : List μ → μ → Prop} {held : List μ} {script later : List (LockAction μ)}

theorem Disciplined.append_iff : Disciplined allowed held (script ++ later) ↔
    Disciplined allowed held script ∧ Disciplined allowed (heldAfter held script) later := by
  induction script generalizing held with
  | nil => simp [Disciplined, heldAfter]
  | cons action rest ih => cases action <;> simp [Disciplined, heldAfter, ih, and_assoc]

theorem heldAfter_append : heldAfter held (script ++ later) = heldAfter (heldAfter held script) later := by
  induction script generalizing held with
  | nil => rfl
  | cons action rest ih => cases action <;> exact ih

/-- A disciplined script that ends with what it started with. -/
structure Balanced (allowed : List μ → μ → Prop) (held : List μ) (script : List (LockAction μ)) : Prop where
  disciplined : Disciplined allowed held script
  restores : heldAfter held script = held

namespace Balanced

theorem nil : Balanced allowed held [] := ⟨trivial, rfl⟩

theorem disciplined_append (first : Balanced allowed held script) (second : Disciplined allowed held later) :
    Disciplined allowed held (script ++ later) :=
  Disciplined.append_iff.mpr ⟨first.disciplined, by rw [first.restores]; exact second⟩

theorem append (first : Balanced allowed held script) (second : Balanced allowed held later) :
    Balanced allowed held (script ++ later) where
  disciplined := first.disciplined_append second.disciplined
  restores := by rw [heldAfter_append, first.restores, second.restores]

theorem flatMap {α : Type*} {items : List α} {part : α → List (LockAction μ)}
    (each : ∀ item ∈ items, Balanced allowed held (part item)) : Balanced allowed held (items.flatMap part) := by
  induction items with
  | nil => exact nil
  | cons item rest ih =>
    rw [List.flatMap_cons]
    exact (each item (by simp)).append (ih fun other member => each other (by simp [member]))

theorem bracket {x : μ} (may : allowed held x) (body : Balanced allowed (x :: held) script) :
    Balanced allowed held (.acquire x :: script ++ [.release x]) where
  disciplined := ⟨may, body.disciplined_append ⟨rfl, trivial⟩⟩
  restores := by
    change heldAfter (x :: held) (script ++ [.release x]) = held
    rw [heldAfter_append, body.restores]
    rfl

/-- The innermost mutex may be released for a while. -/
theorem around {x : μ} (may : allowed held x) (body : Balanced allowed held script) :
    Balanced allowed (x :: held) (.release x :: script ++ [.acquire x]) where
  disciplined := ⟨rfl, body.disciplined_append ⟨may, trivial⟩⟩
  restores := by
    change heldAfter held (script ++ [.acquire x]) = x :: held
    rw [heldAfter_append, body.restores]
    rfl

end Balanced

/-- A disciplined script also keeps to the mutexes it mentions. -/
theorem Disciplined.and {P : μ → Prop} (disciplined : Disciplined allowed held script)
    (mentions : ∀ x, .acquire x ∈ script → P x) :
    Disciplined (fun held x => allowed held x ∧ P x) held script := by
  induction script generalizing held with
  | nil => trivial
  | cons action rest ih =>
    have later x (member : .acquire x ∈ rest) : P x := mentions x (by simp [member])
    cases action with
    | acquire x => exact ⟨⟨disciplined.1, mentions x (by simp)⟩, ih disciplined.2 later⟩
    | release x => exact ⟨disciplined.1, ih disciplined.2 later⟩

theorem Balanced.and {P : μ → Prop} (balanced : Balanced allowed held script)
    (mentions : ∀ x, .acquire x ∈ script → P x) : Balanced (fun held x => allowed held x ∧ P x) held script :=
  ⟨balanced.disciplined.and mentions, balanced.restores⟩

variable {ν : Type*} {f : μ → ν} {allowed' : List ν → ν → Prop} {below : List ν}

/-- Under other names and above other mutexes, a script is disciplined if what it may take may be taken there. -/
theorem Disciplined.map (allows : ∀ held x, allowed held x → allowed' (held.map f ++ below) (f x))
    (disciplined : Disciplined allowed held script) :
    Disciplined allowed' (held.map f ++ below) (script.map (LockAction.map f)) ∧
      heldAfter (held.map f ++ below) (script.map (LockAction.map f)) = (heldAfter held script).map f ++ below := by
  induction script generalizing held with
  | nil => exact ⟨trivial, rfl⟩
  | cons action rest ih =>
    cases action with
    | acquire x =>
      obtain ⟨later, after⟩ := ih disciplined.2
      exact ⟨⟨allows held x disciplined.1, later⟩, after⟩
    | release x =>
      obtain ⟨inner, disciplined⟩ := disciplined
      obtain ⟨outer, rfl⟩ : ∃ outer, held = x :: outer := List.head?_eq_some_iff.mp inner
      obtain ⟨later, after⟩ := ih disciplined
      exact ⟨⟨rfl, later⟩, after⟩

theorem Balanced.map (allows : ∀ held x, allowed held x → allowed' (held.map f ++ below) (f x))
    (balanced : Balanced allowed held script) :
    Balanced allowed' (held.map f ++ below) (script.map (LockAction.map f)) := by
  obtain ⟨disciplined, after⟩ := balanced.disciplined.map allows
  exact ⟨disciplined, by rw [after, balanced.restores]⟩

end Discipline

namespace LockState

variable {τ μ : Type*} {allowed : List μ → μ → Prop}

/-- Every thread holds the mutexes on its stack, and its script is disciplined. -/
structure Stacked (allowed : List μ → μ → Prop) (s : LockState τ μ) (stack : τ → List μ) : Prop where
  disciplined : ∀ t, Disciplined allowed (stack t) (s.script t)
  holds : ∀ t x, x ∈ stack t ↔ s.holder x = some t
  nodup : ∀ t, (stack t).Nodup

/-- A thread that waits is allowed to take what it waits for. -/
theorem Stacked.allows {s : LockState τ μ} {stack : τ → List μ} (stacked : s.Stacked allowed stack) {t : τ}
    {x : μ} (awaited : s.Awaits t x) : allowed (stack t) x := by
  obtain ⟨rest, now⟩ := awaited
  have disciplined := stacked.disciplined t
  rw [now] at disciplined
  exact disciplined.1

theorem stacked_start {script : τ → List (LockAction μ)} (disciplined : ∀ t, Disciplined allowed [] (script t)) :
    Stacked allowed { script } fun _ => [] where
  disciplined := disciplined
  holds _ _ := by simp
  nodup _ := List.nodup_nil

theorem uncrossed_start (script : τ → List (LockAction μ)) : Uncrossed { script } := by
  rintro t u x y - ⟨held, -, -, -⟩
  exact absurd held (by simp)

variable [DecidableEq τ] [DecidableEq μ]

theorem Stacked.step {s next : LockState τ μ} {stack : τ → List μ} {t : τ} (stacked : s.Stacked allowed stack)
    (stepped : s.step t = some next) : ∃ stack, next.Stacked allowed stack := by
  rcases step_cases stepped with ⟨x, rest, now, free, rfl⟩ | ⟨x, rest, now, own, rfl⟩
  · have disciplined := stacked.disciplined t
    rw [now] at disciplined
    have fresh (u : τ) : x ∉ stack u := by
      rw [stacked.holds, free]
      simp
    refine ⟨Function.update stack t (x :: stack t), ?_, ?_, ?_⟩
    · intro u
      rcases Classical.em (u = t) with rfl | other
      · simpa using disciplined.2
      · simpa [other] using stacked.disciplined u
    · intro u y
      rcases Classical.em (u = t) with rfl | other
      · rcases Classical.em (y = x) with rfl | different
        · simp
        · simp [different, stacked.holds]
      · rcases Classical.em (y = x) with rfl | different
        · simp [other, fresh, Ne.symm other]
        · simp [other, different, stacked.holds]
    · intro u
      rcases Classical.em (u = t) with rfl | other
      · simpa [fresh] using stacked.nodup u
      · simpa [other] using stacked.nodup u
  · have disciplined := stacked.disciplined t
    rw [now] at disciplined
    obtain ⟨inner, disciplined⟩ := disciplined
    obtain ⟨outer, shape⟩ : ∃ outer, stack t = x :: outer := List.head?_eq_some_iff.mp inner
    have nodup := stacked.nodup t
    rw [shape, List.nodup_cons] at nodup
    refine ⟨Function.update stack t outer, ?_, ?_, ?_⟩
    · intro u
      rcases Classical.em (u = t) with rfl | other
      · simpa [shape] using disciplined
      · simpa [other] using stacked.disciplined u
    · intro u y
      rcases Classical.em (u = t) with rfl | other
      · rcases Classical.em (y = x) with rfl | different
        · simp [nodup.1]
        · have held := stacked.holds u y
          simpa [shape, different] using held
      · rcases Classical.em (y = x) with rfl | different
        · have held := stacked.holds u y
          rw [own] at held
          simp [other, held, Ne.symm other]
        · simp [other, different, stacked.holds]
    · intro u
      rcases Classical.em (u = t) with rfl | other
      · simpa using nodup.2
      · simpa [other] using stacked.nodup u

/-- What a thread has to do is the end of what it had to do. -/
theorem script_isSuffix {s next : LockState τ μ} {t : τ} (stepped : s.step t = some next) (u : τ) :
    next.script u <:+ s.script u := by
  have shorter {action : LockAction μ} {rest : List (LockAction μ)} (now : s.script t = action :: rest) :
      Function.update s.script t rest u <:+ s.script u := by
    rcases Classical.em (u = t) with rfl | other
    · rw [Function.update_self, now]
      exact List.suffix_cons _ _
    · simp [other]
  rcases step_cases stepped with ⟨x, rest, now, -, rfl⟩ | ⟨x, rest, now, -, rfl⟩
  · exact shorter now
  · exact shorter now

/-- In a run without crossings, threads stay disciplined and uncrossed. -/
theorem stacked_run {s next : LockState τ μ} {stack : τ → List μ} {ts : List τ}
    (run : Run step (fun s t => ¬ s.Crosses t) s ts next) (stacked : s.Stacked allowed stack)
    (uncrossed : s.Uncrossed) : (∃ stack, next.Stacked allowed stack) ∧ next.Uncrossed := by
  induction run generalizing stack with
  | nil => exact ⟨⟨stack, stacked⟩, uncrossed⟩
  | cons straight stepped _ ih =>
    obtain ⟨stack, stacked⟩ := stacked.step stepped
    exact ih stacked (uncrossed.step straight stepped)

end LockState

/-! ## A section under a mutex -/

section Guarded

variable {τ : Type*} {inside inside' : τ → Prop} {holder holder' : Option τ} {t : τ}

/-- Whoever is inside the section holds its mutex. -/
def Guarded (inside : τ → Prop) (holder : Option τ) : Prop := ∀ t, inside t → holder = some t

/-- A thread goes on: it stays in or out or leaves without touching the mutex, enters taking it free, or leaves
releasing it. -/
def Passes (inside inside' : Prop) (holder holder' : Option τ) (t : τ) : Prop :=
  (holder' = holder ∧ (inside' → inside)) ∨ (holder = none ∧ holder' = some t) ∨
    (holder' = none ∧ inside ∧ ¬ inside')

theorem Guarded.mono (guarded : Guarded inside holder) (fewer : ∀ u, inside' u → inside u) :
    Guarded inside' holder := fun u within => guarded u (fewer u within)

/-- A section stays guarded as long as one thread at a time passes, and nobody else gets in. -/
theorem Guarded.passes (guarded : Guarded inside holder) (passes : Passes (inside t) (inside' t) holder holder' t)
    (others : ∀ u, u ≠ t → inside' u → inside u) : Guarded inside' holder' := by
  rcases passes with ⟨rfl, stays⟩ | ⟨rfl, rfl⟩ | ⟨rfl, own, leaves⟩
  · refine guarded.mono fun u within => ?_
    rcases Classical.em (u = t) with rfl | other
    · exact stays within
    · exact others u other within
  · intro u within
    rcases Classical.em (u = t) with rfl | other
    · rfl
    · exact absurd (guarded u (others u other within)) (by simp)
  · intro u within
    rcases Classical.em (u = t) with rfl | other
    · exact absurd within leaves
    · have held := (guarded t own).symm.trans (guarded u (others u other within))
      exact absurd (Option.some.inj held).symm other

/-- Whoever holds the mutex is inside its section. -/
def Manned (inside : τ → Prop) (holder : Option τ) : Prop := ∀ t, holder = some t → inside t

/-- A section stays manned as long as one thread at a time goes on, which stays in, enters with the mutex, or releases
it. -/
theorem Manned.passes (manned : Manned inside holder)
    (passes : (holder' = holder ∧ (inside t → inside' t)) ∨ (holder' = some t ∧ inside' t) ∨ holder' = none)
    (others : ∀ u, u ≠ t → inside u → inside' u) : Manned inside' holder' := by
  intro u held
  rcases passes with ⟨rfl, stays⟩ | ⟨rfl, enters⟩ | rfl
  · rcases Classical.em (u = t) with rfl | other
    · exact stays (manned u held)
    · exact others u other (manned u held)
  · obtain rfl := Option.some.inj held
    exact enters
  · contradiction

end Guarded

end S3tp.Machine
