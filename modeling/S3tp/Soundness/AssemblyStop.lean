import S3tp.Soundness.OneByte
import S3tp.Soundness.RxMutexes

/-! # Stopping the assembly thread

`S3TP::stop` clears both flags under `s3tp_mutex`, the module's under `rx_mutex` too, signals, releases the mutexes and
joins the assembly thread. The thread is outside both mutexes then. At most it consumes the message it has found, and
the loop's condition ends it: it does not wait again. A consumption that fails keeps `rx_mutex`, which the rest of the
way does not need.
-/

namespace S3tp.Model.Concurrent

open Core Core.RxModule Machine

/-- The places of a thread that cannot wait any more once the flags are cleared. -/
@[simp] def AssemblyPlace.Ending : AssemblyPlace → Prop
  | .testing .consumeActive (.unlock result) => result = false
  | .testing test _ => ¬ test.OfLoop
  | .waiting | .blocked | .releasing => False
  | _ => True

/-- The steps from there to the end of the routine. -/
@[simp] def AssemblyPlace.remaining : AssemblyPlace → ℕ
  | .testing .consumeAvailable .lock => 9
  | .testing .consumeAvailable .read => 8
  | .testing .consumeAvailable (.unlock _) => 7
  | .taking | .testing _ .lock => 6
  | .assembling | .testing _ .read => 5
  | .untaking _ | .testing _ (.unlock _) => 4
  | .forwarding _ => 3
  | .locking | .woken => 2
  | .leaving => 1
  | _ => 0

/-- The places to which a thread keeps `rx_mutex` when it meets an unexpected packet. -/
@[simp] def AssemblyPlace.PastTaking : AssemblyPlace → Prop
  | .forwarding _ | .locking | .leaving | .finished => True
  | _ => False

/-- The steps to the end of the critical section. -/
@[simp] def LinkPlace.remaining : LinkPlace → ℕ
  | .scanning _ => 4
  | .flagging _ => 3
  | .signalling _ | .synchronizing _ | .testing _ _ .read => 2
  | .unlocking _ | .syncUnlocking | .testing _ _ (.unlock _) => 1
  | _ => 0

/-- A step of the assembly thread. -/
def RxThreadsEvent.isAssembly : RxThreadsEvent → Bool
  | .assembly => true
  | _ => false

namespace RxThreads

variable {s t : RxThreads}

/-- The thread can be the one that holds `rx_mutex`. -/
def MayHoldRx (s : RxThreads) : RxThread → Prop
  | .assembly => s.assembly.InsideRx ∨ s.assembly.PastTaking
  | .link => s.link.InsideRx
  | .other => False

/-- The flags are cleared and the assembly thread cannot wait any more. -/
structure Ending (s : RxThreads) : Prop where
  stopped : s.active = false ∧ s.rx.active = false
  place : s.assembly.Ending
  s3tp : ∀ thread, s.s3tpMutex = some thread → thread = .other ∨ s.assembly = .leaving
  rx : Manned s.MayHoldRx s.rxMutex

/-- The thread that clears the flags holds both mutexes, so the assembly thread is outside. -/
theorem ending_of_stop (owned : s.Owned) (stops : s.step .stop = some t) :
    t.Ending ∧ t.assembly.remaining ≤ 9 := by
  simp only [step] at stops
  split at stops
  · next free =>
    obtain rfl := Option.some.inj stops
    have outsideS3tp : ¬ s.assembly.InsideS3tp := by
      intro inside
      have held := owned.s3tp inside
      rw [free.1] at held
      contradiction
    have outsideRx : ¬ s.assembly.InsideRx := by
      intro inside
      have held := owned.rx .assembly inside
      rw [free.2] at held
      contradiction
    refine ⟨⟨⟨rfl, rfl⟩, ?_, fun thread held => ?_, fun thread held => ?_⟩, ?_⟩
    · cases here : s.assembly with
      | testing test reading => cases test <;> cases reading <;> simp_all [signal]
      | _ => simp_all [signal]
    · exact .inl (Option.some.inj (held.symm.trans free.1))
    · exact absurd (held.symm.trans free.2) (by simp)
    · cases here : s.assembly with
      | testing test reading => cases test <;> cases reading <;> simp [signal, here]
      | _ => simp [signal, here]
  · contradiction

/-- Nobody but the link thread has moved. -/
theorem Ending.quiet (ending : s.Ending) (stopped : t.active = false ∧ t.rx.active = false)
    (assembly : t.assembly = s.assembly ∨ t.assembly = s.signal.assembly)
    (s3tp : ∀ thread, t.s3tpMutex = some thread → thread = .other ∨ s.s3tpMutex = some thread)
    (rx : (t.rxMutex = s.rxMutex ∧ (s.link.InsideRx → t.link.InsideRx)) ∨
      (t.rxMutex = some .link ∧ t.link.InsideRx) ∨ t.rxMutex = none) : t.Ending ∧ t.assembly = s.assembly := by
  have same : t.assembly = s.assembly := by
    rcases assembly with same | signalled
    · exact same
    · have ahead := ending.place
      cases here : s.assembly <;> simp_all [signal]
  refine ⟨⟨stopped, same ▸ ending.place, fun thread held => ?_, ?_⟩, same⟩
  · rw [same]
    rcases s3tp thread held with other | before
    · exact .inl other
    · exact ending.s3tp thread before
  · refine ending.rx.passes (t := .link) rx ?_
    rintro (_ | _ | _) other within
    · simpa only [MayHoldRx, same] using within
    · exact absurd rfl other
    · exact within

/-- The assembly thread goes on. -/
theorem Ending.goesOn (ending : s.Ending) (stopped : t.active = false ∧ t.rx.active = false)
    (place : t.assembly.Ending) (link : t.link = s.link)
    (s3tp : t.s3tpMutex = none ∨ t.assembly = .leaving ∨
      (t.s3tpMutex = s.s3tpMutex ∧ s.assembly ≠ .leaving))
    (rx : (t.rxMutex = s.rxMutex ∧ (s.MayHoldRx .assembly → t.MayHoldRx .assembly)) ∨
      (t.rxMutex = some .assembly ∧ t.MayHoldRx .assembly) ∨ t.rxMutex = none) : t.Ending := by
  refine ⟨stopped, place, fun thread held => ?_, ?_⟩
  · rcases s3tp with free | leaving | ⟨same, other⟩
    · rw [free] at held
      contradiction
    · exact .inr leaving
    · exact .inl ((ending.s3tp thread (same ▸ held)).resolve_right other)
  · refine ending.rx.passes (t := .assembly) rx ?_
    rintro (_ | _ | _) other within
    · exact absurd rfl other
    · exact (congrArg LinkPlace.InsideRx link).mpr within
    · exact within

theorem takeFirst_active {rx rx' : RxModule} {delivery : Delivery} (taken : rx.takeFirst = some (delivery, rx')) :
    rx'.active = rx.active := by
  simp only [takeFirst] at taken
  split at taken
  · contradiction
  · obtain ⟨⟨delivery, mid⟩, assembles, same⟩ := Option.map_eq_some_iff.mp taken
    obtain ⟨rfl, rfl⟩ := Prod.mk.inj same
    have drained : mid.active = rx.active := by rw [(drains_of_assemble assembles).frame]
    split
    · rw [refreshAvailability_frame]
      exact drained
    · exact drained

theorem Ending.assemblyStep (ending : s.Ending) (stepped : s.assemblyStep = some t) :
    t.Ending ∧ t.assembly.remaining < s.assembly.remaining := by
  have ahead := ending.place
  have stopped := ending.stopped
  cases of_assemblyStep stepped with
  | locks here free =>
    rw [stopped.1]
    refine ⟨ending.goesOn ⟨rfl, stopped.2⟩ trivial rfl (.inr (.inl rfl)) (.inl ⟨rfl, ?_⟩), ?_⟩
    · exact fun _ => .inr trivial
    · rcases here with here | here <;> simp [here]
  | @locksToTest test here free =>
    rw [here] at ahead
    refine ⟨ending.goesOn stopped ?_ rfl (.inr (.inr ⟨rfl, by simp [here]⟩)) (.inr (.inl ⟨rfl, .inl trivial⟩)), ?_⟩
    · cases test <;> simp at ahead ⊢
    · cases test <;> simp [here] at ahead ⊢
  | @reads test here =>
    rw [here] at ahead
    refine ⟨ending.goesOn stopped ?_ rfl (.inr (.inr ⟨rfl, by simp [here]⟩)) (.inl ⟨rfl, fun _ => .inl trivial⟩), ?_⟩
    · cases test <;> simp [answer, stopped.2] at ahead ⊢
    · cases test <;> simp [here] at ahead ⊢
  | @unlocks test result here =>
    rw [here] at ahead
    refine ⟨ending.goesOn stopped ?_ rfl (.inr (.inr ⟨rfl, by simp [here]⟩)) (.inr (.inr rfl)), ?_⟩
    · cases test <;> cases result <;> simp [afterTest] at ahead ⊢
    · cases test <;> cases result <;> simp [here, afterTest] at ahead ⊢
  | leaves here =>
    exact ⟨ending.goesOn stopped trivial rfl (.inl rfl) (.inl ⟨rfl, fun _ => .inr trivial⟩), by simp [here]⟩
  | locksToTake here =>
    exact ⟨ending.goesOn stopped trivial rfl (.inr (.inr ⟨rfl, by simp [here]⟩)) (.inr (.inl ⟨rfl, .inl trivial⟩)),
      by simp [here]⟩
  | @takes delivery rx here taken =>
    have inactive : rx.active = false := (takeFirst_active taken).trans stopped.2
    by_cases success : delivery.error = codeSuccess
    · simp only [success, if_true]
      exact ⟨ending.goesOn ⟨stopped.1, inactive⟩ trivial rfl (.inr (.inr ⟨rfl, by simp [here]⟩))
        (.inl ⟨rfl, fun _ => .inl trivial⟩), by simp [here]⟩
    · simp only [success, if_false]
      exact ⟨ending.goesOn ⟨stopped.1, inactive⟩ trivial rfl (.inr (.inr ⟨rfl, by simp [here]⟩))
        (.inl ⟨rfl, fun _ => .inr trivial⟩), by simp [here]⟩
  | untakes here =>
    exact ⟨ending.goesOn stopped trivial rfl (.inr (.inr ⟨rfl, by simp [here]⟩)) (.inr (.inr rfl)), by simp [here]⟩
  | forwards here =>
    exact ⟨ending.goesOn stopped trivial rfl (.inr (.inr ⟨rfl, by simp [here]⟩)) (.inl ⟨rfl, fun _ => .inr trivial⟩),
      by simp [here]⟩
  | sleeps here | releases here => simp [here] at ahead

theorem Ending.linkStep (ending : s.Ending) (stepped : s.linkStep = some t) :
    t.Ending ∧ t.assembly = s.assembly := by
  have steps := of_linkStep stepped
  refine ending.quiet ⟨steps.active.1.trans ending.stopped.1, steps.active.2.trans ending.stopped.2⟩ steps.assembly
    (fun thread held => .inr (steps.s3tpMutex ▸ held)) ?_
  rcases steps.rxMutex with ⟨same, inside⟩ | ⟨-, taken, inside⟩ | ⟨freed, -, -⟩
  · exact .inl ⟨same, inside.mpr⟩
  · exact .inr (.inl ⟨taken, inside⟩)
  · exact .inr (.inr freed)

/-- A step of the assembly thread is one of the last ones, and no other step delays it. -/
theorem Ending.step {event : RxThreadsEvent} (ending : s.Ending) (stepped : s.step event = some t) :
    t.Ending ∧ t.assembly.remaining + (if event.isAssembly then 1 else 0) ≤ s.assembly.remaining := by
  have quiet (kept : t.Ending ∧ t.assembly = s.assembly) :
      t.Ending ∧ t.assembly.remaining + (if false = true then 1 else 0) ≤ s.assembly.remaining :=
    ⟨kept.1, by simp [kept.2]⟩
  cases event with
  | assembly => exact ending.assemblyStep stepped
  | link => exact quiet (ending.linkStep stepped)
  | call packet =>
    simp only [RxThreads.step] at stepped
    split at stepped
    · next outside =>
      obtain rfl := Option.some.inj stepped
      exact quiet (ending.quiet ending.stopped (.inl rfl) (fun _ held => .inr held) (.inl ⟨rfl, by simp [outside]⟩))
    · contradiction
  | wake =>
    simp only [RxThreads.step] at stepped
    split at stepped
    · next blocked =>
      have ahead := ending.place
      simp [blocked] at ahead
    · contradiction
  | lock =>
    simp only [RxThreads.step] at stepped
    split at stepped
    · obtain rfl := Option.some.inj stepped
      exact quiet (ending.quiet ending.stopped (.inl rfl) (fun _ held => .inl (Option.some.inj held).symm)
        (.inl ⟨rfl, id⟩))
    · contradiction
  | unlock =>
    simp only [RxThreads.step] at stepped
    split at stepped
    · obtain rfl := Option.some.inj stepped
      exact quiet (ending.quiet ending.stopped (.inl rfl) (fun _ held => by cases held) (.inl ⟨rfl, id⟩))
    · contradiction
  | openPort port =>
    simp only [RxThreads.step] at stepped
    split at stepped
    · obtain rfl := Option.some.inj stepped
      exact quiet (ending.quiet ⟨ending.stopped.1, by rw [openPort_frame]; exact ending.stopped.2⟩ (.inl rfl)
        (fun _ held => .inr held) (.inl ⟨rfl, id⟩))
    · contradiction
  | closePort port =>
    simp only [RxThreads.step] at stepped
    split at stepped
    · obtain rfl := Option.some.inj stepped
      exact quiet (ending.quiet ⟨ending.stopped.1, by rw [closePort_frame]; exact ending.stopped.2⟩ (.inl rfl)
        (fun _ held => .inr held) (.inl ⟨rfl, id⟩))
    · contradiction
  | stop =>
    simp only [RxThreads.step] at stepped
    split at stepped
    · obtain rfl := Option.some.inj stepped
      exact quiet (ending.quiet ⟨rfl, rfl⟩ (.inr rfl) (fun _ held => .inr held) (.inl ⟨rfl, id⟩))
    · contradiction

/-- A step in the link thread's critical section, one of the last ones. -/
theorem exists_linkStep_inside (inside : s.link.InsideRx) : ∃ t, s.linkStep = some t ∧
    (t.rxMutex = none ∨ (t.link.InsideRx ∧ t.link.remaining < s.link.remaining)) := by
  cases here : s.link with
  | testing test packet reading =>
    simp only [RxThreads.linkStep, here]
    cases reading with
    | lock => simp [here] at inside
    | read => exact ⟨_, rfl, .inr ⟨trivial, by simp⟩⟩
    | unlock result => exact ⟨_, rfl, .inl rfl⟩
  | synchronizing packet | flagging packet | signalling packet =>
    simp only [RxThreads.linkStep, here]
    exact ⟨_, rfl, .inr ⟨trivial, by simp⟩⟩
  | scanning packet =>
    simp only [RxThreads.linkStep, here]
    refine ⟨_, rfl, .inr ?_⟩
    split <;> simp
  | syncUnlocking | unlocking packet =>
    simp only [RxThreads.linkStep, here]
    exact ⟨_, rfl, .inl rfl⟩
  | outside | syncLocking | writing | locking | updating => simp [here] at inside

/-- The link thread leaves its critical section. -/
theorem Ending.exists_run_rxFree (ending : s.Ending) (inside : s.link.InsideRx) : ∃ events t,
    Run RxThreads.step Always s events t ∧ t.Ending ∧ t.rxMutex = none ∧ t.assembly = s.assembly := by
  induction left : s.link.remaining using Nat.strong_induction_on generalizing s with
  | _ left ih =>
    obtain ⟨mid, steps, next⟩ := exists_linkStep_inside inside
    obtain ⟨still, same⟩ := ending.linkStep steps
    rcases next with free | ⟨inside', fewer⟩
    · exact ⟨[.link], mid, .cons trivial steps (.nil _), still, free, same⟩
    · obtain ⟨events, t, run, last, free, there⟩ := ih _ (left ▸ fewer) still inside' rfl
      exact ⟨.link :: events, t, .cons trivial steps run, last, free, there.trans same⟩

/-- A thread that wants `rx_mutex` gets it once the link thread has left it. -/
theorem Ending.exists_run_rxFree_of_outside (ending : s.Ending) (outside : ¬ s.MayHoldRx .assembly) : ∃ events t,
    Run RxThreads.step Always s events t ∧ t.Ending ∧ t.rxMutex = none ∧ t.assembly = s.assembly := by
  cases held : s.rxMutex with
  | none => exact ⟨[], s, .nil s, ending, held, rfl⟩
  | some thread =>
    have may := ending.rx thread held
    cases thread with
    | assembly => exact absurd may outside
    | link => exact ending.exists_run_rxFree may
    | other => exact may.elim

/-- The other threads let go of `s3tp_mutex`. -/
theorem Ending.exists_run_s3tpFree (ending : s.Ending) (other : s.assembly ≠ .leaving) : ∃ events t,
    Run RxThreads.step Always s events t ∧ t.Ending ∧ t.s3tpMutex = none ∧ t.assembly = s.assembly := by
  cases held : s.s3tpMutex with
  | none => exact ⟨[], s, .nil s, ending, held, rfl⟩
  | some thread =>
    obtain rfl := (ending.s3tp thread held).resolve_right other
    have unlocks : s.step .unlock = some { s with s3tpMutex := none } := by simp [RxThreads.step, held]
    exact ⟨[.unlock], _, .cons trivial unlocks (.nil _), (ending.step unlocks).1, rfl, rfl⟩

/-- The thread follows a null pointer in the queue it consumes from. -/
def MeetsNull (s : RxThreads) : Prop := s.assembly = .assembling ∧ s.rx.takeFirst = none

/-- The assembly thread gets ahead, unless it has ended or follows a null pointer. -/
theorem Ending.exists_run_ahead (ending : s.Ending) (unfinished : s.assembly ≠ .finished) (sound : ¬ s.MeetsNull) :
    ∃ events t, Run RxThreads.step Always s events t ∧ t.Ending ∧ t.assembly.remaining < s.assembly.remaining := by
  have step {events : List RxThreadsEvent} {mid : RxThreads} (run : Run RxThreads.step Always s events mid)
      (still : mid.Ending) (same : mid.assembly = s.assembly) (enabled : mid.assemblyStep.isSome = true) :
      ∃ events t, Run RxThreads.step Always s events t ∧ t.Ending ∧ t.assembly.remaining < s.assembly.remaining := by
    obtain ⟨t, steps⟩ := Option.isSome_iff_exists.mp enabled
    have goes : mid.step .assembly = some t := steps
    obtain ⟨last, fewer⟩ := still.assemblyStep steps
    exact ⟨_, t, run.append (.cons trivial goes (.nil t)), last, same ▸ fewer⟩
  have ahead := ending.place
  cases here : s.assembly with
  | locking | woken =>
    obtain ⟨events, mid, run, still, free, same⟩ := ending.exists_run_s3tpFree (by simp [here])
    rw [← here]
    exact step run still same (by simp [RxThreads.assemblyStep, same, here, free])
  | taking =>
    obtain ⟨events, mid, run, still, free, same⟩ := ending.exists_run_rxFree_of_outside (by simp [MayHoldRx, here])
    rw [← here]
    exact step run still same (by simp [RxThreads.assemblyStep, same, here, lockRx, free])
  | testing test reading =>
    cases reading with
    | lock =>
      obtain ⟨events, mid, run, still, free, same⟩ := ending.exists_run_rxFree_of_outside (by simp [MayHoldRx, here])
      rw [← here]
      exact step run still same (by simp [RxThreads.assemblyStep, same, here, lockRx, free])
    | read | unlock =>
      rw [← here]
      exact step (.nil s) ending rfl (by simp [RxThreads.assemblyStep, here])
  | assembling =>
    rw [← here]
    cases taken : s.rx.takeFirst with
    | none => exact absurd ⟨here, taken⟩ sound
    | some result => exact step (.nil s) ending rfl (by simp [RxThreads.assemblyStep, here, taken])
  | leaving | untaking | forwarding =>
    rw [← here]
    exact step (.nil s) ending rfl (by simp [RxThreads.assemblyStep, here])
  | finished => exact absurd here unfinished
  | waiting | blocked | releasing => simp [here] at ahead

theorem Ending.exists_run_finished (ending : s.Ending) : ∃ events t, Run RxThreads.step Always s events t ∧
    (t.assembly = .finished ∨ t.MeetsNull) := by
  induction left : s.assembly.remaining using Nat.strong_induction_on generalizing s with
  | _ left ih =>
    rcases Classical.em (s.assembly = .finished ∨ s.MeetsNull) with done | going
    · exact ⟨[], s, .nil s, done⟩
    · rw [not_or] at going
      obtain ⟨events, mid, run, still, fewer⟩ := ending.exists_run_ahead going.1 going.2
      obtain ⟨rest, t, run', last⟩ := ih _ (left ▸ fewer) still rfl
      exact ⟨events ++ rest, t, run.append run', last⟩

end RxThreads

end S3tp.Model.Concurrent

namespace S3tp.Soundness.AssemblyStop

open Model.Core Model.Concurrent RxThreads Machine

/-- A packet arrives, and the assembly thread finds the message. -/
def findingOne : List RxThreadsEvent :=
  .openPort 5 :: .call (fragmentOf 0 0 0 false) :: List.replicate 13 .link ++ List.replicate 11 .assembly ++ [.lock]

/-- The instance is stopped, and the thread goes on to its end. -/
def stoppedThen : List RxThreadsEvent := .stop :: .unlock :: List.replicate 9 .assembly

end S3tp.Soundness.AssemblyStop
