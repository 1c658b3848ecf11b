import S3tp.Machine.Run

/-! # Wake-ups that are not lost

A thread that finds nothing to do goes to sleep, and another thread that gives it something to do wakes it up
afterwards. From the test that finds nothing until it is woken the sleeper is drowsy. It is attended to if,
whenever it is drowsy and there is work, some thread still promises to wake it. What a single step must do for
that is stated once, and holds for every sleeper whose steps do it.
-/

namespace S3tp.Machine

/-- Where a thread is in a critical section that reads a value. -/
inductive Reading (α : Type*) where
  | lock
  | read
  | unlock (result : α)
deriving DecidableEq

/-- A thread that sleeps while there is no work, as far as a state shows it. -/
structure Sleeper (σ : Type*) where
  drowsy : σ → Prop
  work : σ → Prop
  promised : σ → Prop

namespace Sleeper

variable {σ ε : Type*} {step : σ → ε → Option σ} {meets : σ → ε → Prop} {sleeper : Sleeper σ} {s t : σ}

def Attended (sleeper : Sleeper σ) (s : σ) : Prop := sleeper.drowsy s → sleeper.work s → sleeper.promised s

/-- The sleeper gets drowsy only where there is no work. Whoever makes work for a drowsy sleeper promises to wake
it, and a promise is given up only with the sleeper awake or the work done. -/
structure Careful (sleeper : Sleeper σ) (s t : σ) : Prop where
  dozes : ¬ sleeper.drowsy s → sleeper.drowsy t → ¬ sleeper.work t
  offers : sleeper.drowsy s → sleeper.drowsy t → ¬ sleeper.work s → sleeper.work t → sleeper.promised t
  keeps : sleeper.drowsy t → sleeper.work t → sleeper.promised s → sleeper.promised t

/-- A step that touches neither the sleeper nor the work, and no promise. -/
theorem Careful.of_iff (drowsy : sleeper.drowsy t ↔ sleeper.drowsy s) (work : sleeper.work t ↔ sleeper.work s)
    (promised : sleeper.promised s → sleeper.promised t) : sleeper.Careful s t where
  dozes awake asleep := absurd (drowsy.mp asleep) awake
  offers _ _ idle busy := absurd (work.mp busy) idle
  keeps _ _ := promised

/-- A step that leaves the sleeper awake. -/
theorem Careful.of_awake (awake : ¬ sleeper.drowsy t) : sleeper.Careful s t where
  dozes _ asleep := absurd asleep awake
  offers _ asleep := absurd asleep awake
  keeps asleep := absurd asleep awake

/-- A step that leaves no work. -/
theorem Careful.of_idle (idle : ¬ sleeper.work t) : sleeper.Careful s t where
  dozes _ _ := idle
  offers _ _ _ busy := absurd busy idle
  keeps _ busy := absurd busy idle

theorem Attended.after (attended : sleeper.Attended s) (careful : sleeper.Careful s t) : sleeper.Attended t := by
  intro asleep busy
  rcases Classical.em (sleeper.drowsy s) with drowsy | awake
  · rcases Classical.em (sleeper.work s) with before | idle
    · exact careful.keeps asleep busy (attended drowsy before)
    · exact careful.offers drowsy asleep idle busy
  · exact absurd busy (careful.dozes awake asleep)

/-- In a run of careful steps the sleeper is attended to. -/
theorem attended_of_run {inv : σ → Prop} {events : List ε} (run : Run step meets s events t)
    (careful : ∀ s e t, inv s → meets s e → step s e = some t → inv t ∧ sleeper.Careful s t)
    (start : inv s) (attended : sleeper.Attended s) : inv t ∧ sleeper.Attended t := by
  refine run.invariant (P := fun u => inv u ∧ sleeper.Attended u) ?_ ⟨start, attended⟩
  rintro u e v ⟨holds, before⟩ met stepped
  obtain ⟨kept, steps⟩ := careful u e v holds met stepped
  exact ⟨kept, before.after steps⟩

end Sleeper

end S3tp.Machine
