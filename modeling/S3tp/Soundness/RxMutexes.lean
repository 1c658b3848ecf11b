import S3tp.Machine.Locks
import S3tp.Model.Core.Window
import S3tp.Model.Concurrent.RxThreads

/-! # Who is inside the mutexes of the receiving module

From where they are in their code it is told which of the assembly thread and the link thread is inside `rx_mutex`, and
whether the assembly thread is inside `s3tp_mutex`. In every run a thread inside a mutex is the one that holds it. The
converse does not hold: a consumption that fails leaves `rx_mutex` held.
-/

namespace S3tp.Model.Concurrent

open Core Core.RxModule Machine

/-- The tests of the loop, which are made under `s3tp_mutex`. -/
@[simp] def AssemblyTest.OfLoop : AssemblyTest → Prop
  | .loopActive | .loopAvailable | .waitAvailable => True
  | .consumeActive | .consumeAvailable => False

/-- Inside `s3tp_mutex`. -/
@[simp] def AssemblyPlace.InsideS3tp : AssemblyPlace → Prop
  | .testing test _ => test.OfLoop
  | .waiting | .leaving | .releasing => True
  | _ => False

/-- Inside `rx_mutex`. -/
@[simp] def AssemblyPlace.InsideRx : AssemblyPlace → Prop
  | .testing _ .read | .testing _ (.unlock _) | .assembling | .untaking _ => True
  | _ => False

@[simp] def LinkPlace.InsideRx : LinkPlace → Prop
  | .testing _ _ .read | .testing _ _ (.unlock _) | .synchronizing _ | .syncUnlocking | .scanning _ | .flagging _
  | .signalling _ | .unlocking _ => True
  | _ => False

namespace RxThreads

variable {s t : RxThreads}

/-- The thread is inside `rx_mutex`. -/
def InsideRx (s : RxThreads) : RxThread → Prop
  | .assembly => s.assembly.InsideRx
  | .link => s.link.InsideRx
  | .other => False

/-- Each mutex is held by the thread that is inside it. -/
structure Owned (s : RxThreads) : Prop where
  s3tp : s.assembly.InsideS3tp → s.s3tpMutex = some .assembly
  rx : Guarded s.InsideRx s.rxMutex

theorem owned_started : started.Owned where
  s3tp inside := inside.elim
  rx thread inside := by cases thread <;> exact inside.elim

theorem lockRx_eq_some_iff {thread : RxThread} :
    s.lockRx thread = some t ↔ s.rxMutex = none ∧ t = { s with rxMutex := some thread } := by
  rw [lockRx]
  split
  · next free => simp [free, eq_comm]
  · next held => simp [held]

/-- What the assembly thread can do, from where it is. -/
inductive AssemblySteps (s : RxThreads) : RxThreads → Prop where
  | locks (here : s.assembly = .locking ∨ s.assembly = .woken) (free : s.s3tpMutex = none) :
      AssemblySteps s { s with
        s3tpMutex := some .assembly, assembly := if s.active then .testing .loopActive .lock else .leaving }
  | locksToTest {test : AssemblyTest} (here : s.assembly = .testing test .lock) (free : s.rxMutex = none) :
      AssemblySteps s { s with rxMutex := some .assembly, assembly := .testing test .read }
  | reads {test : AssemblyTest} (here : s.assembly = .testing test .read) :
      AssemblySteps s { s with assembly := .testing test (.unlock (s.answer test)) }
  | unlocks {test : AssemblyTest} {result : Bool} (here : s.assembly = .testing test (.unlock result)) :
      AssemblySteps s { s.unlockRx with assembly := afterTest test result }
  | sleeps (here : s.assembly = .waiting) : AssemblySteps s { s with s3tpMutex := none, assembly := .blocked }
  | leaves (here : s.assembly = .leaving) : AssemblySteps s { s with s3tpMutex := none, assembly := .finished }
  | releases (here : s.assembly = .releasing) :
      AssemblySteps s { s with s3tpMutex := none, assembly := .testing .consumeActive .lock }
  | locksToTake (here : s.assembly = .taking) (free : s.rxMutex = none) :
      AssemblySteps s { s with rxMutex := some .assembly, assembly := .assembling }
  | takes {delivery : Delivery} {rx : RxModule} (here : s.assembly = .assembling)
      (taken : s.rx.takeFirst = some (delivery, rx)) :
      AssemblySteps s { s with
        rx, assembly := if delivery.error = codeSuccess then .untaking delivery else .forwarding delivery }
  | untakes {delivery : Delivery} (here : s.assembly = .untaking delivery) :
      AssemblySteps s { s.unlockRx with assembly := .forwarding delivery }
  | forwards {delivery : Delivery} (here : s.assembly = .forwarding delivery) :
      AssemblySteps s { s with assembly := .locking }

theorem of_assemblyStep (stepped : s.assemblyStep = some t) : s.AssemblySteps t := by
  cases here : s.assembly with
  | blocked | finished =>
    simp [assemblyStep, here] at stepped
  | locking | woken =>
    simp only [assemblyStep, here] at stepped
    split at stepped
    · next free =>
      obtain rfl := Option.some.inj stepped
      exact .locks (by simp [here]) free
    · contradiction
  | testing test reading =>
    cases reading with
    | lock =>
      simp only [assemblyStep, here] at stepped
      obtain ⟨mid, locks, rfl⟩ := Option.map_eq_some_iff.mp stepped
      obtain ⟨free, rfl⟩ := lockRx_eq_some_iff.mp locks
      exact .locksToTest here free
    | read =>
      simp only [assemblyStep, here] at stepped
      obtain rfl := Option.some.inj stepped
      exact .reads here
    | unlock result =>
      simp only [assemblyStep, here] at stepped
      obtain rfl := Option.some.inj stepped
      exact .unlocks here
  | waiting =>
    simp only [assemblyStep, here] at stepped
    obtain rfl := Option.some.inj stepped
    exact .sleeps here
  | leaving =>
    simp only [assemblyStep, here] at stepped
    obtain rfl := Option.some.inj stepped
    exact .leaves here
  | releasing =>
    simp only [assemblyStep, here] at stepped
    obtain rfl := Option.some.inj stepped
    exact .releases here
  | taking =>
    simp only [assemblyStep, here] at stepped
    obtain ⟨mid, locks, rfl⟩ := Option.map_eq_some_iff.mp stepped
    obtain ⟨free, rfl⟩ := lockRx_eq_some_iff.mp locks
    exact .locksToTake here free
  | assembling =>
    simp only [assemblyStep, here] at stepped
    obtain ⟨⟨delivery, rx⟩, taken, rfl⟩ := Option.map_eq_some_iff.mp stepped
    exact .takes here taken
  | untaking delivery =>
    simp only [assemblyStep, here] at stepped
    obtain rfl := Option.some.inj stepped
    exact .untakes here
  | forwarding delivery =>
    simp only [assemblyStep, here] at stepped
    obtain rfl := Option.some.inj stepped
    exact .forwards here

/-- What the link thread does outside the module: it moves on in or out of `rx_mutex`, takes it to go in, or releases
it to go out. -/
structure LinkSteps (s t : RxThreads) : Prop where
  assembly : t.assembly = s.assembly ∨ t.assembly = s.signal.assembly
  s3tpMutex : t.s3tpMutex = s.s3tpMutex
  active : t.active = s.active ∧ t.rx.active = s.rx.active
  rxMutex : (t.rxMutex = s.rxMutex ∧ (t.link.InsideRx ↔ s.link.InsideRx)) ∨
    (s.rxMutex = none ∧ t.rxMutex = some .link ∧ t.link.InsideRx) ∨
    (t.rxMutex = none ∧ s.link.InsideRx ∧ ¬ t.link.InsideRx)

theorem not_insideRx_afterLinkTest (packet : S3tpPacket) (test : LinkTest) (result : Bool) :
    ¬ (afterLinkTest packet test result).InsideRx := by
  cases test <;> cases result <;> simp only [afterLinkTest]
  all_goals repeat' split
  all_goals simp

theorem of_linkStep (stepped : s.linkStep = some t) : LinkSteps s t := by
  cases here : s.link with
  | outside => simp [linkStep, here] at stepped
  | testing test packet reading =>
    cases reading with
    | lock =>
      simp only [linkStep, here] at stepped
      obtain ⟨mid, locks, rfl⟩ := Option.map_eq_some_iff.mp stepped
      obtain ⟨free, rfl⟩ := lockRx_eq_some_iff.mp locks
      exact ⟨.inl rfl, rfl, ⟨rfl, rfl⟩, .inr (.inl ⟨free, rfl, trivial⟩)⟩
    | read =>
      simp only [linkStep, here] at stepped
      obtain rfl := Option.some.inj stepped
      exact ⟨.inl rfl, rfl, ⟨rfl, rfl⟩, .inl ⟨rfl, by simp [here]⟩⟩
    | unlock result =>
      simp only [linkStep, here] at stepped
      obtain rfl := Option.some.inj stepped
      have out := not_insideRx_afterLinkTest packet test result
      exact ⟨.inl rfl, rfl, ⟨rfl, rfl⟩, .inr (.inr ⟨rfl, by simp [here], out⟩)⟩
  | syncLocking packet | locking packet =>
    simp only [linkStep, here] at stepped
    obtain ⟨mid, locks, rfl⟩ := Option.map_eq_some_iff.mp stepped
    obtain ⟨free, rfl⟩ := lockRx_eq_some_iff.mp locks
    exact ⟨.inl rfl, rfl, ⟨rfl, rfl⟩, .inr (.inl ⟨free, rfl, trivial⟩)⟩
  | synchronizing packet | flagging packet =>
    simp only [linkStep, here] at stepped
    obtain rfl := Option.some.inj stepped
    exact ⟨.inl rfl, rfl, ⟨rfl, rfl⟩, .inl ⟨rfl, by simp [here]⟩⟩
  | signalling packet =>
    simp only [linkStep, here] at stepped
    obtain rfl := Option.some.inj stepped
    exact ⟨.inr rfl, rfl, ⟨rfl, rfl⟩, .inl ⟨rfl, by simp [here]⟩⟩
  | scanning packet =>
    simp only [linkStep, here] at stepped
    obtain rfl := Option.some.inj stepped
    refine ⟨.inl rfl, rfl, ⟨rfl, rfl⟩, .inl ⟨rfl, ?_⟩⟩
    split <;> simp [here]
  | syncUnlocking | unlocking packet =>
    simp only [linkStep, here] at stepped
    obtain rfl := Option.some.inj stepped
    exact ⟨.inl rfl, rfl, ⟨rfl, rfl⟩, .inr (.inr ⟨rfl, by simp [here], id⟩)⟩
  | writing packet =>
    simp only [linkStep, here] at stepped
    split at stepped
    · obtain rfl := Option.some.inj stepped
      exact ⟨.inl rfl, rfl, ⟨rfl, rfl⟩, .inl ⟨rfl, by simp [here]⟩⟩
    · contradiction
  | updating packet =>
    simp only [linkStep, here] at stepped
    obtain rfl := Option.some.inj stepped
    exact ⟨.inl rfl, rfl, ⟨rfl, by rw [updateWindow_frame]⟩, .inl ⟨rfl, by simp [here]⟩⟩

/-! ## Every step keeps the mutexes owned -/

/-- A signal wakes nobody into a mutex. -/
theorem insideRx_signal (s : RxThreads) : (s.signal.assembly.InsideRx ↔ s.assembly.InsideRx) ∧
    (s.signal.assembly.InsideS3tp ↔ s.assembly.InsideS3tp) := by
  cases here : s.assembly <;> simp [signal, here]

theorem not_insideRx_afterTest (test : AssemblyTest) (result : Bool) : ¬ (afterTest test result).InsideRx := by
  cases test <;> cases result <;> simp [afterTest]

theorem insideS3tp_afterTest {test : AssemblyTest} {result : Bool} (inside : (afterTest test result).InsideS3tp) :
    test.OfLoop := by
  cases test <;> cases result <;> simp [afterTest] at inside ⊢

/-- The assembly thread goes on. -/
theorem Owned.assembly_passes (owned : s.Owned) (link : t.link = s.link)
    (s3tp : t.assembly.InsideS3tp → t.s3tpMutex = some .assembly)
    (rx : Passes s.assembly.InsideRx t.assembly.InsideRx s.rxMutex t.rxMutex .assembly) : t.Owned := by
  refine ⟨s3tp, owned.rx.passes (t := .assembly) rx ?_⟩
  rintro (_ | _ | _) other inside
  · exact absurd rfl other
  · exact (congrArg LinkPlace.InsideRx link).mp inside
  · exact inside.elim

theorem Owned.assemblyStep (owned : s.Owned) (stepped : s.assemblyStep = some t) : t.Owned := by
  cases of_assemblyStep stepped with
  | locks here free =>
    refine owned.assembly_passes rfl (fun _ => rfl) (.inl ⟨rfl, fun inside => ?_⟩)
    cases active : s.active <;> simp [active] at inside
  | locksToTest here free =>
    exact owned.assembly_passes rfl (fun inside => owned.s3tp (by rw [here]; exact inside)) (.inr (.inl ⟨free, rfl⟩))
  | reads here =>
    exact owned.assembly_passes rfl (fun inside => owned.s3tp (by rw [here]; exact inside))
      (.inl ⟨rfl, by simp [here]⟩)
  | unlocks here =>
    exact owned.assembly_passes rfl (fun inside => owned.s3tp (by rw [here]; exact insideS3tp_afterTest inside))
      (.inr (.inr ⟨rfl, by simp [here], not_insideRx_afterTest _ _⟩))
  | sleeps | leaves | releases => exact owned.assembly_passes rfl (fun inside => inside.elim) (.inl ⟨rfl, False.elim⟩)
  | forwards => exact owned.assembly_passes rfl (fun inside => inside.elim) (.inl ⟨rfl, False.elim⟩)
  | locksToTake here free => exact owned.assembly_passes rfl (fun inside => inside.elim) (.inr (.inl ⟨free, rfl⟩))
  | @takes delivery rx here =>
    refine owned.assembly_passes rfl (fun inside => ?_) (.inl ⟨rfl, by simp [here]⟩)
    by_cases success : delivery.error = codeSuccess <;> simp [success] at inside
  | untakes here =>
    exact owned.assembly_passes rfl (fun inside => inside.elim) (.inr (.inr ⟨rfl, by simp [here], id⟩))

theorem Owned.linkStep (owned : s.Owned) (stepped : s.linkStep = some t) : t.Owned := by
  have steps := of_linkStep stepped
  have same : (t.assembly.InsideRx ↔ s.assembly.InsideRx) ∧ (t.assembly.InsideS3tp ↔ s.assembly.InsideS3tp) := by
    rcases steps.assembly with same | signalled
    · simp [same]
    · rw [signalled]
      exact insideRx_signal s
  refine ⟨fun inside => steps.s3tpMutex.trans (owned.s3tp (same.2.mp inside)), ?_⟩
  refine owned.rx.passes (t := .link) ?_ ?_
  · rcases steps.rxMutex with ⟨kept, iff⟩ | ⟨free, taken, -⟩ | ⟨freed, within, out⟩
    · exact .inl ⟨kept, iff.mp⟩
    · exact .inr (.inl ⟨free, taken⟩)
    · exact .inr (.inr ⟨freed, within, out⟩)
  · rintro (_ | _ | _) other inside
    · exact same.1.mp inside
    · exact absurd rfl other
    · exact inside.elim

/-- Nobody but a woken assembly thread has moved. -/
theorem Owned.of_signal (owned : s.Owned) (link : t.link = s.link) (assembly : t.assembly = s.signal.assembly)
    (s3tpMutex : t.s3tpMutex = s.s3tpMutex) (rxMutex : t.rxMutex = s.rxMutex) : t.Owned := by
  obtain ⟨insideRx, insideS3tp⟩ := insideRx_signal s
  refine owned.assembly_passes link (fun inside => ?_) (.inl ⟨rxMutex, by rw [assembly]; exact insideRx.mp⟩)
  rw [assembly] at inside
  exact s3tpMutex.trans (owned.s3tp (insideS3tp.mp inside))

theorem Owned.step {event : RxThreadsEvent} (owned : s.Owned) (stepped : s.step event = some t) : t.Owned := by
  cases event with
  | assembly => exact owned.assemblyStep stepped
  | link => exact owned.linkStep stepped
  | call packet =>
    simp only [RxThreads.step] at stepped
    split at stepped
    · obtain rfl := Option.some.inj stepped
      refine ⟨owned.s3tp, owned.rx.mono fun thread inside => ?_⟩
      cases thread <;> first | exact inside | exact inside.elim
    · contradiction
  | wake =>
    simp only [RxThreads.step] at stepped
    split at stepped
    · obtain rfl := Option.some.inj stepped
      exact owned.assembly_passes rfl (fun inside => inside.elim) (.inl ⟨rfl, False.elim⟩)
    · contradiction
  | lock =>
    simp only [RxThreads.step] at stepped
    split at stepped
    · next free =>
      obtain rfl := Option.some.inj stepped
      refine ⟨fun inside => ?_, owned.rx⟩
      have held := owned.s3tp inside
      rw [free] at held
      contradiction
    · contradiction
  | unlock =>
    simp only [RxThreads.step] at stepped
    split at stepped
    · next mine =>
      obtain rfl := Option.some.inj stepped
      refine ⟨fun inside => ?_, owned.rx⟩
      have held := owned.s3tp inside
      rw [mine] at held
      contradiction
    · contradiction
  | openPort port | closePort port =>
    simp only [RxThreads.step] at stepped
    split at stepped
    · obtain rfl := Option.some.inj stepped
      exact ⟨owned.s3tp, owned.rx⟩
    · contradiction
  | stop =>
    simp only [RxThreads.step] at stepped
    split at stepped
    · obtain rfl := Option.some.inj stepped
      exact owned.of_signal rfl rfl rfl rfl
    · contradiction

end RxThreads

end S3tp.Model.Concurrent
