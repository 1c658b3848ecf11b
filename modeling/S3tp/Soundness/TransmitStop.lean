import S3tp.Soundness.OneByte
import S3tp.Soundness.TxMutexes

/-! # Stopping the transmit thread

`stopRoutine` clears the flag under `tx_mutex`, signals, and joins the transmit thread. The thread is outside the
mutex then, so it finds the flag cleared when it next holds it: it never waits again, takes no packet any more, and a
join comes back as soon as whoever is inside `enqueuePacket` leaves the mutex.
-/

namespace S3tp.Model.Concurrent

open Core Machine

/-- The places of a thread that cannot wait any more once the flag is cleared. -/
@[simp] def TxPlace.Ending : TxPlace → Prop
  | .sending _ | .locking | .woken | .turning | .finished => True
  | _ => False

/-- The steps from there to the end of the routine. -/
def TxPlace.remaining : TxPlace → ℕ
  | .sending _ => 3
  | .locking | .woken => 2
  | .turning => 1
  | _ => 0

/-- The packet that is about to be handed to the link. -/
def TxPlace.underway : TxPlace → List S3tpPacket
  | .sending packet => [packet]
  | _ => []

/-- A step of the transmit thread. -/
def TxThreadsEvent.isTx {ι : Type*} : TxThreadsEvent ι → Bool
  | .tx _ => true
  | _ => false

namespace TxThreads

variable {ι : Type*} {s t : TxThreads ι}

/-! ## Whoever holds the mutex is inside -/

theorem manned_started (fresh : S3tpHeader) :
    Manned (started (ι := ι) fresh).Inside (started (ι := ι) fresh).txMutex := by
  intro thread held
  cases held

theorem manned_txStep {link : LinkStatus} (manned : Manned s.Inside s.txMutex) (stepped : s.txStep link = some t) :
    Manned t.Inside t.txMutex := by
  have others (callers : t.caller = s.caller) (u : TxThread ι) (other : u ≠ .tx) (within : s.Inside u) :
      t.Inside u := by
    cases u with
    | tx => exact absurd rfl other
    | caller c => exact (congrArg (fun caller => (caller c).Inside) callers).mpr within
  cases of_txStep stepped with
  | locks => exact manned.passes (t := .tx) (.inr (.inl ⟨rfl, trivial⟩)) (others rfl)
  | ends | sleeps | releases => exact manned.passes (t := .tx) (.inr (.inr rfl)) (others rfl)
  | givesUp | turns | locksToTest | reads | runs | waits | locksToFetch | fetchesNothing | fetches | blocks | stamps =>
    exact manned.passes (t := .tx) (.inl ⟨rfl, fun _ => trivial⟩) (others rfl)
  | sends here => exact manned.passes (t := .tx) (.inl ⟨rfl, by simp [Inside, here]⟩) (others rfl)

/-- Nobody but a woken transmit thread has moved. -/
theorem manned_of_signal (manned : Manned s.Inside s.txMutex) (callers : t.caller = s.caller)
    (place : t.place = s.signal.place) (txMutex : t.txMutex = s.txMutex) : Manned t.Inside t.txMutex := by
  rw [txMutex]
  rintro (_ | c) held
  · have inside : t.place.Inside ↔ s.place.Inside := by
      rw [place]
      exact (inside_signal s).1
    exact inside.mpr (manned .tx held)
  · exact (congrArg (fun caller => (caller c).Inside) callers).mpr (manned (.caller c) held)

section Callers

variable [DecidableEq ι] {mid : TxThreads ι} {c : ι} {place : CallerPlace}

/-- A caller goes on. -/
theorem manned_callerAt (manned : Manned s.Inside s.txMutex) (callers : mid.caller = s.caller)
    (inside : s.place.Inside → mid.place.Inside)
    (passes : (mid.txMutex = s.txMutex ∧ ((s.caller c).Inside → place.Inside)) ∨
      (mid.txMutex = some (.caller c) ∧ place.Inside) ∨ mid.txMutex = none) :
    Manned (mid.callerAt c place).Inside (mid.callerAt c place).txMutex := by
  have moved : (mid.callerAt c place).caller c = place := Function.update_self ..
  refine manned.passes (t := .caller c) (by simp only [Inside, moved]; exact passes) ?_
  rintro (_ | d) other within
  · exact inside within
  · have different : d ≠ c := fun same => other (congrArg TxThread.caller same)
    simpa [Inside, callerAt, Function.update_of_ne different, callers] using within

theorem manned_callerStep (manned : Manned s.Inside s.txMutex) (stepped : s.callerStep c = some t) :
    Manned t.Inside t.txMutex := by
  cases of_callerStep stepped with
  | locks => exact manned_callerAt manned rfl id (.inr (.inl ⟨rfl, trivial⟩))
  | isRefused | stamps => exact manned_callerAt manned rfl id (.inl ⟨rfl, fun _ => trivial⟩)
  | leaves | unlocks => exact manned_callerAt manned rfl id (.inr (.inr rfl))
  | locksBuffer here | writes here | unlocksBuffer here =>
    exact manned_callerAt manned rfl id (.inl ⟨rfl, by simp [here]⟩)
  | signals here => exact manned_callerAt manned rfl (inside_signal s).1.mpr (.inl ⟨rfl, by simp [here]⟩)

theorem manned_step {event : TxThreadsEvent ι} (manned : Manned s.Inside s.txMutex) (stepped : s.step event = some t) :
    Manned t.Inside t.txMutex := by
  cases of_step stepped with
  | tx => exact manned_txStep manned stepped
  | caller => exact manned_callerStep manned stepped
  | enqueuePacket here => exact manned_callerAt manned rfl id (.inl ⟨rfl, by simp [here]⟩)
  | wake here =>
    rintro (_ | c) held
    · simpa [Inside, here] using manned .tx held
    · exact manned (.caller c) held
  | closes => exact manned
  | opens | scheduleSync | notifyLinkAvailability | stopRoutine => exact manned_of_signal manned rfl rfl rfl

end Callers

/-! ## The routine ends -/

/-- The flag is cleared and the transmit thread cannot wait any more. -/
structure Ending (s : TxThreads ι) : Prop where
  stopped : s.tx.active = false
  place : s.place.Ending
  manned : Manned s.Inside s.txMutex

variable [DecidableEq ι]

/-- The thread that clears the flag holds `tx_mutex`, so the transmit thread is outside. -/
theorem ending_of_stopRoutine (owned : s.Owned) (manned : Manned s.Inside s.txMutex)
    (stops : s.step .stopRoutine = some t) : t.Ending ∧ t.link = s.link ∧ t.place.underway = s.place.underway := by
  cases of_step stops with
  | stopRoutine free =>
    have outside : ¬ s.place.Inside := by
      intro inside
      have held := owned.tx .tx inside
      rw [free] at held
      contradiction
    refine ⟨⟨rfl, ?_, manned_step manned stops⟩, rfl, ?_⟩
    · cases here : s.place <;> simp_all [signal]
    · cases here : s.place <;> simp [signal, here, TxPlace.underway]

/-- What one step does to a routine that is ending. -/
structure EndingStep (s t : TxThreads ι) (ofTx : Bool) : Prop where
  ending : t.Ending
  remaining : t.place.remaining + (if ofTx then 1 else 0) ≤ s.place.remaining
  link : t.link ++ t.place.underway = s.link ++ s.place.underway

theorem Ending.quiet (ending : s.Ending) {event : TxThreadsEvent ι} (stepped : s.step event = some t)
    (stopped : t.tx.active = false) (place : t.place = s.place ∨ t.place = s.signal.place) (link : t.link = s.link) :
    EndingStep s t false := by
  have same : t.place = s.place := by
    rcases place with same | signalled
    · exact same
    · have ahead := ending.place
      cases here : s.place <;> simp_all [signal]
  refine ⟨⟨stopped, same ▸ ending.place, manned_step ending.manned stepped⟩, ?_, ?_⟩
  · simp [same]
  · rw [link, same]

theorem Ending.step {event : TxThreadsEvent ι} (ending : s.Ending) (stepped : s.step event = some t) :
    EndingStep s t event.isTx := by
  have manned := manned_step ending.manned stepped
  have ahead := ending.place
  cases of_step stepped with
  | tx steps =>
    cases steps with
    | locks here =>
      refine ⟨⟨ending.stopped, trivial, manned⟩, ?_, ?_⟩ <;>
        rcases here with here | here <;> simp [here, TxPlace.remaining, TxPlace.underway, TxThreadsEvent.isTx]
    | ends here =>
      exact ⟨⟨ending.stopped, trivial, manned⟩, by simp [here, TxPlace.remaining, TxThreadsEvent.isTx],
        by simp [here, TxPlace.underway, unlockTx]⟩
    | sends here =>
      exact ⟨⟨ending.stopped, trivial, manned⟩, by simp [here, TxPlace.remaining, TxThreadsEvent.isTx],
        by simp [here, TxPlace.underway]⟩
    -- The flag is read before the link and the channels.
    | givesUp here | turns here => simp [TxThreads.step, txStep, here, ending.stopped, unlockTx] at stepped
    | locksToTest here | reads here | runs here | waits here | sleeps here | locksToFetch here | fetchesNothing here
    | fetches here | blocks here | stamps here | releases here => simp [here] at ahead
  | caller steps =>
    cases steps with
    | signals => exact ending.quiet stepped ending.stopped (.inr rfl) rfl
    | locks | isRefused | leaves | unlocks | locksBuffer | writes | unlocksBuffer =>
      exact ending.quiet stepped ending.stopped (.inl rfl) rfl
    | stamps here stamps =>
      obtain ⟨active, -⟩ := TxModule.stampPacket_eq_some_iff.mp stamps
      rw [ending.stopped] at active
      contradiction
  | enqueuePacket | closes => exact ending.quiet stepped ending.stopped (.inl rfl) rfl
  | wake here => simp [here] at ahead
  | opens | scheduleSync | notifyLinkAvailability => exact ending.quiet stepped ending.stopped (.inr rfl) rfl
  | stopRoutine => exact ending.quiet stepped rfl (.inr rfl) rfl

/-- Whoever is inside `enqueuePacket` finds the flag cleared and leaves the mutex. -/
theorem Ending.exists_run_free (ending : s.Ending) (outside : ¬ s.place.Inside) : ∃ events t, events.length ≤ 2 ∧
    Run TxThreads.step Always s events t ∧ t.txMutex = none ∧ t.place = s.place ∧ t.tx.active = false := by
  cases held : s.txMutex with
  | none => exact ⟨[], s, Nat.zero_le _, .nil s, held, rfl, ending.stopped⟩
  | some thread =>
    have inside := ending.manned thread held
    cases thread with
    | tx => exact absurd inside outside
    | caller c =>
      cases here : s.caller c with
      | stamping packet fragNo more =>
        have refused : s.tx.stampPacket packet fragNo more = none := by simp [TxModule.stampPacket, ending.stopped]
        have refuses : s.step (.caller c) = some (s.callerAt c .refusing) := by
          simp [TxThreads.step, callerStep, here, refused]
        have leaves : (s.callerAt c .refusing).step (.caller c) =
            some ((s.callerAt c .refusing).unlockTx.callerAt c .outside) := by
          simp [TxThreads.step, callerStep, callerAt]
        exact ⟨[_, _], _, Nat.le_refl 2, .cons trivial refuses (.cons trivial leaves (.nil _)), rfl, rfl,
          ending.stopped⟩
      | refusing =>
        have leaves : s.step (.caller c) = some (s.unlockTx.callerAt c .outside) := by
          simp [TxThreads.step, callerStep, here]
        exact ⟨[_], _, Nat.le_succ 1, .cons trivial leaves (.nil _), rfl, rfl, ending.stopped⟩
      | unlocking packet =>
        have unlocks : s.step (.caller c) = some (s.unlockTx.callerAt c (.bufferLocking packet)) := by
          simp [TxThreads.step, callerStep, here]
        exact ⟨[_], _, Nat.le_succ 1, .cons trivial unlocks (.nil _), rfl, rfl, ending.stopped⟩
      | outside | locking | bufferLocking | writing | bufferUnlocking | signalling => simp [Inside, here] at inside

/-- The thread locks the mutex, finds the flag cleared and ends. -/
theorem exists_run_finished (stopped : s.tx.active = false) (free : s.txMutex = none)
    (here : s.place = .locking ∨ s.place = .woken) (link : LinkStatus) :
    ∃ t, Run TxThreads.step Always s [.tx link, .tx link] t ∧ t.place = .finished := by
  have locks : s.step (.tx link) = some { s with txMutex := some .tx, place := .turning } := by
    rcases here with here | here <;> simp [TxThreads.step, txStep, here, lockTx, free]
  have ends : ({ s with txMutex := some .tx, place := .turning } : TxThreads ι).step (.tx link) =
      some { s with txMutex := none, place := .finished } := by
    simp [TxThreads.step, txStep, stopped, unlockTx]
  exact ⟨_, .cons trivial locks (.cons trivial ends (.nil _)), rfl⟩

/-- From a routine that is ending, its end is a few steps away. -/
theorem Ending.exists_run_finished (ending : s.Ending) (link : LinkStatus) : ∃ events t, events.length ≤ 5 ∧
    Run TxThreads.step Always s events t ∧ t.place = .finished := by
  have ahead := ending.place
  cases here : s.place with
  | finished => exact ⟨[], s, Nat.zero_le _, .nil s, here⟩
  | turning =>
    have ends : s.step (.tx link) = some { s.unlockTx with place := .finished } := by
      simp [TxThreads.step, txStep, here, ending.stopped, unlockTx]
    exact ⟨[_], _, Nat.le_add_left 1 4, .cons trivial ends (.nil _), rfl⟩
  | locking | woken =>
    obtain ⟨events, mid, short, run, free, same, stopped⟩ := ending.exists_run_free (by simp [here])
    obtain ⟨t, rest, last⟩ := TxThreads.exists_run_finished stopped free (by simp [same, here]) link
    exact ⟨_, t, by simp; omega, run.append rest, last⟩
  | sending packet =>
    obtain ⟨events, mid, short, run, free, same, stopped⟩ := ending.exists_run_free (by simp [here])
    have sends : mid.step (.tx link) = some { mid with link := mid.link ++ [packet], place := .locking } := by
      simp [TxThreads.step, txStep, same, here]
    obtain ⟨t, rest, last⟩ := TxThreads.exists_run_finished
      (s := { mid with link := mid.link ++ [packet], place := .locking }) stopped free (.inl rfl) link
    exact ⟨_, t, by simp; omega, run.append (.cons trivial sends rest), last⟩
  | testing | waiting | blocked | fetchLocking | fetching | fetchUnlocking | releasing => simp [here] at ahead

end TxThreads

end S3tp.Model.Concurrent

namespace S3tp.Soundness.TransmitStop

open Model.Core Model.Concurrent TxThreads Machine

variable {ι : Type*} [DecidableEq ι]

/-- A packet is written, and the transmit thread takes it and lets go of the mutex. -/
def takingOne : List (TxThreadsEvent Unit) :=
  .enqueuePacket () (oneByte 0) 0 false :: List.replicate 7 (.caller ()) ++ List.replicate 9 (.tx ⟨true, false⟩)

/-- The routine is stopped, and the thread goes on. -/
def stoppedThen : List (TxThreadsEvent Unit) := [.stopRoutine, .tx ⟨true, false⟩]

end S3tp.Soundness.TransmitStop
