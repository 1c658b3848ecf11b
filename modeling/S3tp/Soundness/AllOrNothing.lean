import S3tp.Model.Concurrent.LinkLayerCall
import S3tp.Soundness.FragmentSplit

/-! # All of a payload or nothing

A payload is enqueued fragment by fragment, and each call of `enqueuePacket` asks anew whether the module is active.
When the routine is stopped between two of them, `sendToLinkLayer` returns an error with the fragments before still
in the queue and their sequence numbers spent. Unless that happens, a success means that every fragment was inserted,
and an error that none was and that no number was spent.

What would have happened without the call is the run of the others' steps alone.
-/

namespace S3tp.Soundness

open Model.Core Model.Concurrent Machine

namespace Submitting

variable {ι : Type*} [DecidableEq ι] {c : ι} {m : Submission} {fresh : ℕ → S3tpHeader}

/-- The queue the packets of a payload go to. -/
def portOf (m : Submission) : UInt8 := m.port &&& 0x7F

/-- With a success every fragment has been inserted into the queue of the port; with an error none has, and the port
sequences are what the others alone would have made them. -/
structure AllOrNothing (m : Submission) (fresh : ℕ → S3tpHeader) (start : TxSystem ι)
    (events : List (LinkLayerEvent ι)) (s : LinkLayerCall ι) : Prop where
  all : s.place = .returned codeSuccess →
    List.Forall₂ Carries (m.calls fresh) s.inserted ∧ ∀ packet ∈ s.inserted, packet.getPort = portOf m
  nothing : ∀ status, s.place = .returned status → status ≠ codeSuccess → s.inserted = [] ∧
    ∃ t, Run TxSystem.step Always start (events.filterMap LinkLayerEvent.other?) t ∧
      s.system.tx.portSequence = t.tx.portSequence

/-- Some packets of the payload have been stamped and others have not. -/
def Midway (s : LinkLayerCall ι) : Prop :=
  match s.place with
  | .enqueuing rest => s.inserted ≠ [] ∧ rest ≠ []
  | .writing rest => rest ≠ []
  | _ => False

/-- The routine is not stopped in the middle of a payload. -/
def Undivided (s : LinkLayerCall ι) : LinkLayerEvent ι → Prop
  | .other .stopRoutine => ¬ Midway s
  | _ => True

/-! ## The calls of a payload -/

theorem getPort_of_mem_calls {call : EnqueueCall} (member : call ∈ m.calls fresh) :
    call.packet.getPort = portOf m := by
  rw [Submission.calls] at member
  split at member
  · rw [fragmentCalls_eq] at member
    obtain ⟨i, -, rfl⟩ := List.mem_map.mp member
    exact m.getPort_packet _ _ _
  · obtain rfl := List.mem_singleton.mp member
    exact m.getPort_packet _ _ _

/-- Carried packets go to the port. -/
theorem getPort_of_forall₂ {packets : List S3tpPacket} (carried : List.Forall₂ Carries (m.calls fresh) packets) :
    ∀ packet ∈ packets, packet.getPort = portOf m := by
  intro packet member
  obtain ⟨i, bound, rfl⟩ := List.mem_iff_getElem.mp member
  have called : i < (m.calls fresh).length := carried.length_eq ▸ bound
  have carries : Carries (m.calls fresh)[i] packets[i] := (List.forall₂_iff_get.mp carried).2 i called bound
  exact carries.port.trans (getPort_of_mem_calls (List.getElem_mem called))

/-! ## What the call has done -/

/-- Where the call is tells what has been inserted, what it has stamped, and what is still to come. -/
def Stage (c : ι) (m : Submission) (fresh : ℕ → S3tpHeader) (s : LinkLayerCall ι) : Prop :=
  match s.place with
  | .enqueuing rest => s.system.pending c = none ∧
      (∃ done, m.calls fresh = done ++ rest ∧ List.Forall₂ Carries done s.inserted) ∧
      (s.inserted ≠ [] → rest ≠ [] → s.system.tx.active = true)
  | .writing rest =>
      (∃ done call packet, m.calls fresh = done ++ call :: rest ∧ List.Forall₂ Carries done s.inserted ∧
        s.system.pending c = some packet ∧ Carries call packet) ∧
      (rest ≠ [] → s.system.tx.active = true)
  | .returned status => s.system.pending c = none ∧
      (status = codeSuccess → List.Forall₂ Carries (m.calls fresh) s.inserted) ∧
      (status ≠ codeSuccess → s.inserted = [])
  | _ => s.system.pending c = none ∧ s.inserted = []

omit [DecidableEq ι] in
/-- The queue refuses nothing. -/
theorem inserts_eq_true (s : LinkLayerCall ι) (packet : S3tpPacket) : s.inserts packet = true := by
  simp [LinkLayerCall.inserts, PriorityQueue.push_eq]

variable {s t : LinkLayerCall ι}

omit [DecidableEq ι] in
theorem stage_of_testing (here : s.place.Testing) :
    Stage c m fresh s ↔ s.system.pending c = none ∧ s.inserted = [] := by
  cases place : s.place with
  | enqueuing | writing | returned =>
    rw [place] at here
    exact here.elim
  | _ => simp only [Stage, place]

theorem stage_callStep (stage : Stage c m fresh s) (steps : s.CallSteps c m fresh t) : Stage c m fresh t := by
  cases steps with
  | fails here error =>
    obtain ⟨idle, nothing⟩ := (stage_of_testing here).mp stage
    exact ⟨idle, fun success => absurd success error, fun _ => nothing⟩
  | passes here there =>
    obtain ⟨idle, nothing⟩ := (stage_of_testing here).mp stage
    rcases there with isTest | rfl
    · exact (stage_of_testing isTest).mpr ⟨idle, nothing⟩
    · exact ⟨idle, ⟨[], rfl, by rw [nothing]; exact .nil⟩, fun some => absurd nothing some⟩
  | returns here =>
    simp only [Stage, here] at stage
    obtain ⟨idle, ⟨done, shape, carried⟩, -⟩ := stage
    rw [List.append_nil] at shape
    exact ⟨idle, fun _ => shape ▸ carried, fun error => absurd rfl error⟩
  | isRefused here inactive =>
    simp only [Stage, here] at stage
    obtain ⟨idle, -, steady⟩ := stage
    -- Nothing can have been stamped before.
    have nothing : s.inserted = [] := by
      by_contra some
      exact Bool.false_ne_true (inactive.symm.trans (steady some (by simp)))
    exact ⟨idle, fun success => absurd success (by decide), fun _ => nothing⟩
  | stamps here active idle =>
    simp only [Stage, here] at stage
    obtain ⟨-, ⟨done, shape, carried⟩, -⟩ := stage
    exact ⟨⟨done, _, _, shape, carried, Function.update_self .., carries_stamped _ _⟩, fun _ => active⟩
  | writes here pending =>
    simp only [Stage, here] at stage
    obtain ⟨⟨done, call, stamped, shape, carried, held, carries⟩, running⟩ := stage
    obtain rfl := Option.some.inj (pending.symm.trans held)
    refine ⟨Function.update_self .., ⟨done ++ [call], by simpa using shape, ?_⟩, fun _ more => running more⟩
    simp only [List.filter_cons, inserts_eq_true, if_true, List.filter_nil]
    exact List.rel_append carried (.cons carries .nil)

/-- The others touch no packet of the call, and nobody but `stopRoutine` stops the module. -/
theorem of_other {s t : TxSystem ι} {event : TxEvent ι} (notOwn : event.caller? ≠ some c)
    (stepped : s.step event = some t) : t.pending c = s.pending c ∧
      (t.tx.active = s.tx.active ∨ event = .stopRoutine) := by
  cases event with
  | enqueue d packet fragNo more =>
    have other : c ≠ d := fun same => notOwn (congrArg some same.symm)
    rcases TxSystem.cases_of_enqueue stepped with ⟨-, rfl⟩ | ⟨-, rfl⟩
    · exact ⟨rfl, .inl rfl⟩
    · exact ⟨Function.update_of_ne other .., .inl rfl⟩
  | write d =>
    have other : c ≠ d := fun same => notOwn (congrArg some same.symm)
    obtain ⟨packet, -, rfl⟩ := Option.map_eq_some_iff.mp stepped
    exact ⟨Function.update_of_ne other .., .inl rfl⟩
  | iterate link =>
    obtain ⟨-, rfl⟩ := TxSystem.of_iterate stepped
    exact ⟨rfl, .inl (s.tx.active_iterate link)⟩
  | setChannelAvailable | scheduleSync =>
    obtain rfl := Option.some.inj stepped
    exact ⟨rfl, .inl rfl⟩
  | stopRoutine =>
    obtain rfl := Option.some.inj stepped
    exact ⟨rfl, .inr rfl⟩

theorem stage_other {event : TxEvent ι} {system : TxSystem ι} (stage : Stage c m fresh s)
    (undivided : Undivided s (.other event)) (notOwn : event.caller? ≠ some c)
    (stepped : s.system.step event = some system) : Stage c m fresh { s with system } := by
  obtain ⟨pending, active⟩ := of_other notOwn stepped
  have running (midway : Midway s) : system.tx.active = s.system.tx.active := by
    rcases active with same | rfl
    · exact same
    · exact absurd midway undivided
  cases here : s.place with
  | enqueuing rest =>
    simp only [Stage, here] at stage ⊢
    simp only [Midway, here] at running
    obtain ⟨idle, done, steady⟩ := stage
    exact ⟨pending.trans idle, done, fun some more => (running ⟨some, more⟩).trans (steady some more)⟩
  | writing rest =>
    simp only [Stage, here] at stage ⊢
    simp only [Midway, here] at running
    obtain ⟨⟨done, call, packet, shape, carried, held, carries⟩, steady⟩ := stage
    exact ⟨⟨done, call, packet, shape, carried, pending.trans held, carries⟩,
      fun more => (running more).trans (steady more)⟩
  | _ =>
    simp only [Stage, here] at stage ⊢
    exact ⟨pending.trans stage.1, stage.2⟩

theorem stage_step {event : LinkLayerEvent ι} (stage : Stage c m fresh s) (undivided : Undivided s event)
    (stepped : s.step c m fresh event = some t) : Stage c m fresh t := by
  cases event with
  | call active => exact stage_callStep stage (LinkLayerCall.of_callStep stepped)
  | other event =>
    obtain ⟨notOwn, system, steps, rfl⟩ := LinkLayerCall.of_other stepped
    exact stage_other stage undivided notOwn steps

/-! ## What the others have done alone -/

/-- The number of packets that the call has stamped. -/
def stamps (c : ι) (s : LinkLayerCall ι) : ℕ := s.inserted.length + (s.system.pending c).toList.length

/-- The calls of `enqueuePacket` that are left. -/
def remaining (s : LinkLayerCall ι) : List EnqueueCall :=
  match s.place with
  | .enqueuing rest | .writing rest => rest
  | _ => []

/-- Without the call everything the others go by is the same, but for the numbers that the call has spent. -/
structure Without (c : ι) (m : Submission) (fresh : ℕ → S3tpHeader) (s : LinkLayerCall ι) (t : TxSystem ι) : Prop where
  calls : ∀ call ∈ remaining s, call ∈ m.calls fresh
  active : t.tx.active = s.system.tx.active
  pending : ∀ d, d ≠ c → (t.pending d).isSome = (s.system.pending d).isSome
  portSequence : ∀ port, s.system.tx.portSequence port =
    t.tx.portSequence port + if port = portOf m then UInt8.ofNat (stamps c s) else 0

variable {alone : TxSystem ι}

omit [DecidableEq ι] in
/-- A step that stamps nothing and touches nothing of the others. -/
theorem Without.stays (without : Without c m fresh s alone) (calls : ∀ call ∈ remaining t, call ∈ m.calls fresh)
    (system : t.system = s.system) (inserted : t.inserted = s.inserted) : Without c m fresh t alone := by
  refine ⟨calls, ?_, ?_, ?_⟩
  · rw [system]
    exact without.active
  · rw [system]
    exact without.pending
  · rw [stamps, system, inserted]
    exact without.portSequence

omit [DecidableEq ι] in
theorem remaining_of_testing (here : s.place.Testing) : remaining s = [] := by
  cases place : s.place with
  | enqueuing | writing =>
    rw [place] at here
    exact here.elim
  | _ => simp only [remaining, place]

theorem Without.drops (without : Without c m fresh s alone) (steps : s.CallSteps c m fresh t) :
    Without c m fresh t alone := by
  have calls := without.calls
  cases steps with
  | fails | returns | isRefused => exact without.stays (by simp [remaining]) rfl rfl
  | @passes place here there =>
    refine without.stays ?_ rfl rfl
    rcases there with isTest | rfl
    · have nothing : remaining { s with place } = [] := remaining_of_testing isTest
      simp [nothing]
    · simp [remaining]
  | @stamps call rest here active idle =>
    simp only [remaining, here] at calls
    have port : call.packet.getPort = portOf m := getPort_of_mem_calls (calls call (by simp))
    refine ⟨fun later member => calls later (List.mem_cons_of_mem _ member), without.active, fun d other => ?_,
      fun other => ?_⟩
    · simpa [other] using without.pending d other
    · have before := without.portSequence other
      simp only [stamps, idle, Option.toList_none, List.length_nil, Nat.add_zero] at before
      simp only [stamps, Function.update_self, Option.toList_some, List.length_singleton, TxModule.advance, port,
        UInt8.ofNat_succ]
      rcases Classical.em (other = portOf m) with rfl | different
      · rw [if_pos rfl] at before ⊢
        rw [Function.update_self, before, UInt8.add_assoc]
      · rw [if_neg different] at before ⊢
        rw [Function.update_of_ne different, before]
  | writes here pending =>
    simp only [remaining, here] at calls
    refine ⟨calls, without.active, fun d other => ?_, fun other => ?_⟩
    · simpa [other] using without.pending d other
    · have before := without.portSequence other
      simpa [stamps, pending, inserts_eq_true, TxModule.writePacket] using before

omit [DecidableEq ι] in
/-- Both go on by the same. -/
theorem Without.both {system after : TxSystem ι} (without : Without c m fresh s alone)
    (active : after.tx.active = system.tx.active)
    (pending : ∀ d, d ≠ c → (after.pending d).isSome = (system.pending d).isSome)
    (own : system.pending c = s.system.pending c)
    (portSequence : ∀ port, (system.tx.portSequence port = s.system.tx.portSequence port ∧
        after.tx.portSequence port = alone.tx.portSequence port) ∨
      (system.tx.portSequence port = s.system.tx.portSequence port + 1 ∧
        after.tx.portSequence port = alone.tx.portSequence port + 1)) :
    Without c m fresh { s with system } after := by
  refine ⟨without.calls, active, pending, fun port => ?_⟩
  have before := without.portSequence port
  have same : stamps c { s with system } = stamps c s := by simp only [stamps, own]
  rw [same]
  rcases portSequence port with ⟨beside, alone⟩ | ⟨beside, alone⟩
  · rw [beside, alone]
    exact before
  · rw [beside, alone, before, UInt8.add_assoc, UInt8.add_comm _ 1, ← UInt8.add_assoc]

/-- The others can do without the call what they do beside it. -/
theorem Without.follows {event : TxEvent ι} {system : TxSystem ι} (without : Without c m fresh s alone)
    (notOwn : event.caller? ≠ some c) (stepped : s.system.step event = some system) :
    ∃ after, alone.step event = some after ∧ Without c m fresh { s with system } after := by
  have own := (of_other notOwn stepped).1
  have untouched (d : ι) (caller : event.caller? = some d) : d ≠ c := by
    rintro rfl
    exact notOwn caller
  cases event with
  | enqueue d packet fragNo more =>
    have pending := without.pending d (untouched d rfl)
    have free := TxSystem.idle_of_enqueue stepped
    have freeAlone : alone.pending d = none := by simpa [free] using pending
    cases running : s.system.tx.active with
    | false =>
      rw [TxSystem.step_enqueue_inactive running free] at stepped
      obtain rfl := Option.some.inj stepped
      have refuses := TxSystem.step_enqueue_inactive (without.active.trans running) freeAlone packet fragNo more
      exact ⟨alone, refuses, without⟩
    | true =>
      rw [TxSystem.step_enqueue running free] at stepped
      obtain rfl := Option.some.inj stepped
      refine ⟨_, TxSystem.step_enqueue (without.active.trans running) freeAlone packet fragNo more, ?_⟩
      refine without.both without.active (fun e other => ?_) own fun port => ?_
      · rcases Classical.em (e = d) with rfl | different
        · simp
        · simpa [different] using without.pending e other
      · rcases Classical.em (port = packet.getPort) with rfl | different
        · exact .inr ⟨Function.update_self .., Function.update_self ..⟩
        · exact .inl ⟨Function.update_of_ne different .., Function.update_of_ne different ..⟩
  | write d =>
    obtain ⟨packet, held, rfl⟩ := Option.map_eq_some_iff.mp stepped
    have pending := without.pending d (untouched d rfl)
    rw [held] at pending
    obtain ⟨stamped, heldAlone⟩ := Option.isSome_iff_exists.mp pending
    refine ⟨_, TxSystem.step_write heldAlone, ?_⟩
    refine without.both without.active (fun e other => ?_) own fun _ => .inl ⟨rfl, rfl⟩
    rcases Classical.em (e = d) with rfl | different
    · simp
    · simpa [different] using without.pending e other
  | iterate link =>
    obtain ⟨running, rfl⟩ := TxSystem.of_iterate stepped
    refine ⟨_, TxSystem.step_iterate (without.active.trans running) link, ?_⟩
    refine without.both ?_ without.pending own fun port => .inl ⟨?_, ?_⟩
    · exact (alone.tx.active_iterate link).trans (without.active.trans (s.system.tx.active_iterate link).symm)
    · exact congrFun (s.system.tx.portSequence_iterate link) port
    · exact congrFun (alone.tx.portSequence_iterate link) port
  | setChannelAvailable | scheduleSync =>
    obtain rfl := Option.some.inj stepped
    exact ⟨_, rfl, without.both without.active without.pending own fun _ => .inl ⟨rfl, rfl⟩⟩
  | stopRoutine =>
    obtain rfl := Option.some.inj stepped
    exact ⟨_, rfl, without.both rfl without.pending own fun _ => .inl ⟨rfl, rfl⟩⟩

/-! ## Whole runs -/

/-- An active module that is not blocked lets the payload through to the loop. -/
theorem run_tests {start : TxSystem ι} (flowing : start.tx.state ≠ .blocked)
    (available : start.tx.isChannelAvailable m.channel = true) (short : m.len ≤ maxPduLength) :
    Run (LinkLayerCall.step c m fresh) Undivided { system := start } (List.replicate 4 (.call true))
      ⟨start, .enqueuing (m.calls fresh), []⟩ := by
  have first : LinkLayerCall.step c m fresh ⟨start, .testingState, []⟩ (.call true) =
      some ⟨start, .testingQueue, []⟩ := by
    simp [LinkLayerCall.step, LinkLayerCall.callStep, TxModule.getCurrentState, flowing]
  have second : LinkLayerCall.step c m fresh ⟨start, .testingQueue, []⟩ (.call true) =
      some ⟨start, .testingChannel, []⟩ := by
    simp [LinkLayerCall.step, LinkLayerCall.callStep, TxModule.isQueueAvailable_eq_true]
  have third : LinkLayerCall.step c m fresh ⟨start, .testingChannel, []⟩ (.call true) =
      some ⟨start, .enqueuing (m.calls fresh), []⟩ := by
    simp [LinkLayerCall.step, LinkLayerCall.callStep, available, Nat.not_lt_of_le short]
  exact .cons trivial rfl (.cons trivial first (.cons trivial second (.cons trivial third (.nil _))))

/-- An active module takes the next packet. -/
theorem run_enqueue {system : TxSystem ι} (active : system.tx.active = true) (idle : system.pending c = none)
    (call : EnqueueCall) (rest : List EnqueueCall) (inserted : List S3tpPacket) :
    ∃ after : TxSystem ι, after.tx.active = true ∧ after.pending c = none ∧
      Run (LinkLayerCall.step c m fresh) Undivided ⟨system, .enqueuing (call :: rest), inserted⟩
        (List.replicate 2 (.call true))
        ⟨after, .enqueuing rest, inserted ++ [system.tx.stamped call.packet call.fragNo call.moreFragments]⟩ := by
  have stamps := TxSystem.step_enqueue active idle call.packet call.fragNo call.moreFragments
  generalize system.tx.stamped call.packet call.fragNo call.moreFragments = stamped at stamps ⊢
  generalize mid : ({ system with
    tx := system.tx.advance call.packet.getPort
    pending := Function.update system.pending c (some stamped)
    enqueued := system.enqueued ++ [stamped] } : TxSystem ι) = between at stamps
  have pending : between.pending c = some stamped := by simp [← mid]
  have running : between.tx.active = true := by rw [← mid]; exact active
  have first : LinkLayerCall.step c m fresh ⟨system, .enqueuing (call :: rest), inserted⟩ (.call true) =
      some ⟨between, .writing rest, inserted⟩ := by
    simp [LinkLayerCall.step, LinkLayerCall.callStep, stamps, pending]
  have second : LinkLayerCall.step c m fresh ⟨between, .writing rest, inserted⟩ (.call true) = some
      ⟨{ between with tx := between.tx.writePacket stamped, pending := Function.update between.pending c none },
        .enqueuing rest, inserted ++ [stamped]⟩ := by
    simp [LinkLayerCall.step, LinkLayerCall.callStep, TxSystem.step_write pending, pending, inserts_eq_true]
  exact ⟨{ between with tx := between.tx.writePacket stamped, pending := Function.update between.pending c none },
    running, Function.update_self .., .cons trivial first (.cons trivial second (.nil _))⟩

/-- A module that stays active takes every packet. -/
theorem run_loop (rest : List EnqueueCall) : ∀ {system : TxSystem ι} (inserted : List S3tpPacket),
    system.tx.active = true → system.pending c = none → ∃ events s,
      Run (LinkLayerCall.step c m fresh) Undivided ⟨system, .enqueuing rest, inserted⟩ events s ∧
      s.place = .returned codeSuccess := by
  induction rest with
  | nil => exact fun inserted _ _ => ⟨[.call true], _, .cons trivial rfl (.nil _), rfl⟩
  | cons call rest ih =>
    intro system inserted active idle
    obtain ⟨after, running, free, enqueues⟩ := run_enqueue active idle call rest inserted
    obtain ⟨events, s, goesOn, returned⟩ := ih _ running free
    exact ⟨_, s, enqueues.append goesOn, returned⟩

/-- Nobody has used the module yet. -/
def untouched : TxSystem Unit := .started default

/-- The tests let a payload of two fragments through. -/
theorem run_tests_993 : Run (LinkLayerCall.step () (counting 993) fun _ => default) Undivided
    { system := untouched } (List.replicate 4 (.call true))
    ⟨untouched, .enqueuing ((counting 993).calls fun _ => default), []⟩ := run_tests (by decide) rfl (by decide)

end Submitting

end S3tp.Soundness
