import Mathlib.Tactic.Common

/-! # Finite runs of a labeled machine whose steps meet a condition

A machine is a partial step function: `step s e = some t` when event `e` is enabled in `s` and
leads to `t`. `Run step meets s es t` is a finite run from `s` to `t` carrying exactly the events
`es`, every step of which meets the condition `meets` in the state it starts from. An unrestricted
run takes `meets` to be `Always`. Every prefix of a run is a run, so a property of the endpoints
of all runs is a property of all states a run passes through.
-/

namespace S3tp.Machine

variable {σ ε ω : Type*}

/-- The condition every step meets. -/
def Always (_ : σ) (_ : ε) : Prop := True

/-- A finite run carrying exactly its events, every step meeting the condition. -/
inductive Run (step : σ → ε → Option σ) (meets : σ → ε → Prop) : σ → List ε → σ → Prop
  | nil (s : σ) : Run step meets s [] s
  | cons {s mid t : σ} {e : ε} {es : List ε} :
      meets s e → step s e = some mid → Run step meets mid es t → Run step meets s (e :: es) t

namespace Run

variable {step : σ → ε → Option σ} {meets meets' : σ → ε → Prop} {s mid t : σ}

theorem nil_iff : Run step meets s [] t ↔ t = s := by
  constructor
  · rintro ⟨⟩
    rfl
  · rintro rfl
    exact .nil _

theorem cons_iff {e : ε} {es : List ε} :
    Run step meets s (e :: es) t ↔
      ∃ mid, meets s e ∧ step s e = some mid ∧ Run step meets mid es t := by
  constructor
  · rintro (_ | ⟨met, stepped, rest⟩)
    exact ⟨_, met, stepped, rest⟩
  · rintro ⟨mid, met, stepped, rest⟩
    exact .cons met stepped rest

/-- Runs compose at their shared endpoint. -/
theorem append {first second : List ε} (left : Run step meets s first mid)
    (right : Run step meets mid second t) : Run step meets s (first ++ second) t := by
  induction left with
  | nil => exact right
  | cons met stepped _ ih => exact .cons met stepped (ih right)

/-- A run over a concatenation is a run over either part, meeting in between. -/
theorem append_iff {first second : List ε} : Run step meets s (first ++ second) t ↔
    ∃ mid, Run step meets s first mid ∧ Run step meets mid second t := by
  refine ⟨fun run => ?_, fun ⟨_, left, right⟩ => left.append right⟩
  induction first generalizing s with
  | nil => exact ⟨s, .nil s, run⟩
  | cons e es ih =>
    rcases run with _ | ⟨met, stepped, rest⟩
    obtain ⟨mid, left, right⟩ := ih rest
    exact ⟨mid, .cons met stepped left, right⟩

/-- A weaker condition is met by the same run. -/
theorem mono {es : List ε} (weaker : ∀ s e, meets s e → meets' s e)
    (run : Run step meets s es t) : Run step meets' s es t := by
  induction run with
  | nil => exact .nil _
  | cons met stepped _ ih => exact .cons (weaker _ _ met) stepped ih

theorem always {es : List ε} (run : Run step meets s es t) : Run step Always s es t :=
  run.mono fun _ _ _ => trivial

/-- What one step preserves, a whole run preserves. -/
theorem invariant {P : σ → Prop} {es : List ε} (run : Run step meets s es t)
    (preserve : ∀ s e t, P s → meets s e → step s e = some t → P t) (start : P s) : P t := by
  induction run with
  | nil => exact start
  | cons met stepped _ ih => exact ih (preserve _ _ _ start met stepped)

/-- Where every step of a kind uses up some of what is left, and no step adds to it, a run has no more steps of the
kind than were left. -/
theorem countdown {P : σ → Prop} {kind : ε → Bool} {left : σ → ℕ} {es : List ε} (run : Run step meets s es t)
    (uses : ∀ s e t, P s → step s e = some t → P t ∧ left t + (if kind e then 1 else 0) ≤ left s) (start : P s) :
    P t ∧ left t + es.countP kind ≤ left s := by
  induction run with
  | nil s => exact ⟨start, Nat.le_refl _⟩
  | @cons s mid t e es met stepped _ ih =>
    obtain ⟨after, used⟩ := uses _ _ _ start stepped
    obtain ⟨last, rest⟩ := ih after
    refine ⟨last, ?_⟩
    rw [List.countP_cons]
    omega

/-- The unrestricted runs are the successful folds of the step function. -/
theorem always_iff {es : List ε} : Run step Always s es t ↔ es.foldlM step s = some t := by
  induction es generalizing s with
  | nil => simp [nil_iff, eq_comm]
  | cons e es ih => simp [cons_iff, Always, List.foldlM_cons, Option.bind_eq_some_iff, ih]

/-- Where the condition is decidable, the runs that meet it are computed. -/
theorem iff_foldlM [∀ s e, Decidable (meets s e)] {es : List ε} : Run step meets s es t ↔
    es.foldlM (fun s e => if meets s e then step s e else none) s = some t := by
  induction es generalizing s with
  | nil => simp [nil_iff, eq_comm]
  | cons e es ih => simp [cons_iff, List.foldlM_cons, Option.bind_eq_some_iff, ih, and_assoc]

end Run

/-! ## Two runs on the same events -/

/-- Both machines of a pair take the step. -/
def both (step : σ → ε → Option σ) (pair : σ × σ) (e : ε) : Option (σ × σ) :=
  (step pair.1 e).bind fun s => (step pair.2 e).map fun t => (s, t)

theorem both_eq_some_iff {step : σ → ε → Option σ} {pair pair' : σ × σ} {e : ε} :
    both step pair e = some pair' ↔ step pair.1 e = some pair'.1 ∧ step pair.2 e = some pair'.2 := by
  simp only [both, Option.bind_eq_some_iff, Option.map_eq_some_iff]
  constructor
  · rintro ⟨s, first, t, second, rfl⟩
    exact ⟨first, second⟩
  · rintro ⟨first, second⟩
    exact ⟨_, first, _, second, rfl⟩

/-! ## Projections -/

/-- A run projects to a run of another machine when every step does: one whose event is dropped leaves the other
machine where it is, and the other machine can follow any other. -/
theorem Run.exists_project {τ δ : Type*} {step : σ → ε → Option σ} {meets : σ → ε → Prop} {step' : τ → δ → Option τ}
    {project : ε → Option δ} {related : σ → τ → Prop} {s s' : σ} {es : List ε} (run : Run step meets s es s')
    (drops : ∀ s e s' t, related s t → step s e = some s' → project e = none → related s' t)
    (follows : ∀ s e s' t d, related s t → step s e = some s' → project e = some d →
      ∃ t', step' t d = some t' ∧ related s' t') :
    ∀ t, related s t → ∃ t', Run step' Always t (es.filterMap project) t' ∧ related s' t' := by
  induction run with
  | nil => exact fun t start => ⟨t, .nil t, start⟩
  | @cons s mid s' e es met stepped rest ih =>
    intro t start
    cases event : project e with
    | none =>
      obtain ⟨t', projected, last⟩ := ih t (drops s e mid t start stepped event)
      exact ⟨t', by rwa [List.filterMap_cons_none event], last⟩
    | some d =>
      obtain ⟨t₁, followed, after⟩ := follows s e mid t d start stepped event
      obtain ⟨t', projected, last⟩ := ih t₁ after
      exact ⟨t', by rw [List.filterMap_cons_some event]; exact .cons trivial followed projected, last⟩

/-- The events of another machine that the steps from a state on stand for, each read off the state it happens in. -/
def trace {δ : Type*} (step : σ → ε → Option σ) (project : σ → ε → List δ) : σ → List ε → List δ
  | _, [] => []
  | s, e :: es =>
    match step s e with
    | none => []
    | some t => project s e ++ trace step project t es

/-- A run is a run of another machine, seen through a function on the states, when every step is. -/
theorem Run.refines {τ δ : Type*} {step : σ → ε → Option σ} {meets : σ → ε → Prop} {step' : τ → δ → Option τ}
    {meets' : τ → δ → Prop} {project : σ → ε → List δ} {P : σ → Prop} {s t : σ} {es : List ε} (shown : σ → τ)
    (run : Run step meets s es t) (start : P s)
    (simulates : ∀ s e t, P s → meets s e → step s e = some t →
      P t ∧ Run step' meets' (shown s) (project s e) (shown t)) :
    Run step' meets' (shown s) (trace step project s es) (shown t) := by
  induction run with
  | nil s => exact .nil _
  | cons met stepped _ ih =>
    obtain ⟨kept, follows⟩ := simulates _ _ _ start met stepped
    rw [trace, stepped]
    exact follows.append (ih kept)

/-- A run is matched by a run of another machine when every step is, from states that are related. The kept events of
the other run are those that the steps stand for, in their order. -/
theorem Run.exists_matched {τ δ : Type*} {step : σ → ε → Option σ} {meets : σ → ε → Prop} {step' : τ → δ → Option τ}
    {meets' : τ → δ → Prop} {related : σ → τ → Prop} {project : σ → ε → List δ} {kept : δ → Bool} {s s' : σ}
    {es : List ε} (run : Run step meets s es s')
    (matched : ∀ s e s' t, related s t → meets s e → step s e = some s' →
      ∃ ds t', Run step' meets' t ds t' ∧ ds.filter kept = project s e ∧ related s' t') :
    ∀ t, related s t →
      ∃ ds t', Run step' meets' t ds t' ∧ ds.filter kept = trace step project s es ∧ related s' t' := by
  induction run with
  | nil => exact fun t start => ⟨[], t, .nil t, rfl, start⟩
  | cons met stepped _ ih =>
    intro t start
    obtain ⟨ds, t₁, follows, same, after⟩ := matched _ _ _ t start met stepped
    obtain ⟨later, t', rest, same', last⟩ := ih t₁ after
    refine ⟨ds ++ later, t', follows.append rest, ?_, last⟩
    rw [trace, stepped, List.filter_append, same, same']

/-- A part of a machine, which takes a step of its own when an event concerns it and stays as it is otherwise, runs as
the machine does. -/
theorem Run.component {τ δ : Type*} {step : σ → ε → Option σ} {meets : σ → ε → Prop} {step' : τ → δ → Option τ}
    {meets' : τ → δ → Prop} {s t : σ} {es : List ε} (shown : σ → τ) (concern : σ → ε → Option δ)
    (run : Run step meets s es t)
    (part : ∀ s e t, step s e = some t → (concern s e = none ∧ shown t = shown s) ∨
      ∃ d, concern s e = some d ∧ step' (shown s) d = some (shown t))
    (met : ∀ s e, meets s e → ∀ d ∈ concern s e, meets' (shown s) d) :
    Run step' meets' (shown s) (trace step (fun s e => (concern s e).toList) s es) (shown t) := by
  refine run.refines (P := fun _ => True) shown trivial fun s e t _ meets stepped => ⟨trivial, ?_⟩
  obtain ⟨none, same⟩ | ⟨d, event, stepped'⟩ := part s e t stepped
  · rw [none, same]
    exact .nil _
  · rw [event]
    exact .cons (met s e meets d event) stepped' (.nil _)

/-! ## A run with a history -/

/-- The machine with a history beside it, to which every step may add. -/
def recorded (step : σ → ε → Option σ) (record : σ → ε → ω → ω) (pair : σ × ω) (e : ε) : Option (σ × ω) :=
  (step pair.1 e).map fun t => (t, record pair.1 e pair.2)

theorem recorded_eq_some_iff {step : σ → ε → Option σ} {record : σ → ε → ω → ω} {pair pair' : σ × ω} {e : ε} :
    recorded step record pair e = some pair' ↔ step pair.1 e = some pair'.1 ∧ pair'.2 = record pair.1 e pair.2 := by
  simp only [recorded, Option.map_eq_some_iff]
  constructor
  · rintro ⟨t, stepped, rfl⟩
    exact ⟨stepped, rfl⟩
  · rintro ⟨stepped, same⟩
    exact ⟨pair'.1, stepped, by rw [← same]⟩

/-! ## Components that answer -/

/-- The machine whose steps are the calls of a component. It keeps what they answered. -/
def answering (call : σ → ε → Option (ω × σ)) (pair : σ × List ω) (e : ε) : Option (σ × List ω) :=
  (call pair.1 e).map fun result => (result.2, pair.2 ++ [result.1])

/-- A component whose calls another one answers alike, from states that are related, is answered alike all along a
run. -/
theorem Run.answers_alike {τ : Type*} {call : σ → ε → Option (ω × σ)} {call' : τ → ε → Option (ω × τ)}
    {meets : σ × List ω → ε → Prop} {related : σ → τ → Prop} {es : List ε} {s s' : σ × List ω}
    (run : Run (answering call) meets s es s')
    (alike : ∀ s t e answer s', related s t → call s e = some (answer, s') →
      ∃ t', call' t e = some (answer, t') ∧ related s' t') :
    ∀ t, related s.1 t → ∃ t', Run (answering call') Always (t, s.2) es (t', s'.2) ∧ related s'.1 t' := by
  induction run with
  | nil s => exact fun t start => ⟨t, .nil _, start⟩
  | @cons s mid s' e es met stepped _ ih =>
    intro t start
    obtain ⟨⟨answer, s₁⟩, called, rfl⟩ := Option.map_eq_some_iff.mp stepped
    obtain ⟨t₁, called', after⟩ := alike s.1 t e answer s₁ start called
    obtain ⟨t', rest, last⟩ := ih t₁ after
    refine ⟨t', .cons trivial ?_ rest, last⟩
    rw [answering, called']
    rfl

end S3tp.Machine
