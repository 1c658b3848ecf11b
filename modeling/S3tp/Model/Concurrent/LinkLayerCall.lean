import S3tp.Model.Concurrent.TxSystem

/-! # A call of `sendToLinkLayer` among other threads

The call reads the instance's own flag, makes the three tests of `checkTransmissionAvailability` one after the other,
and then its calls of `enqueuePacket`, each in the two steps of the transmitting module. Between any two of these
steps the transmit thread, other callers and whoever stops the routine or changes a channel go on. While the call is
under way its thread makes no other.

`inserted` is a history: the packets of the call that their queue has not refused.
-/

namespace S3tp.Model.Concurrent

open Core Machine

/-- Where the call is. In the loop it knows which calls of `enqueuePacket` are left. -/
inductive LinkLayerPlace where
  | entering
  | testingState
  | testingQueue
  | testingChannel
  | enqueuing (rest : List EnqueueCall)
  | writing (rest : List EnqueueCall)
  | returned (status : ℤ)

/-- The call has not come to its loop yet. -/
def LinkLayerPlace.Testing : LinkLayerPlace → Prop
  | .entering | .testingState | .testingQueue | .testingChannel => True
  | _ => False

/-- A step of the call, for which `active` is the instance's own flag, or of the others. -/
inductive LinkLayerEvent (ι : Type*) where
  | call (active : Bool)
  | other (event : TxEvent ι)

structure LinkLayerCall (ι : Type*) where
  system : TxSystem ι
  place : LinkLayerPlace := .entering
  inserted : List S3tpPacket := []

/-- The caller whose step it is. -/
def TxEvent.caller? {ι : Type*} : TxEvent ι → Option ι
  | .enqueue caller .. | .write caller => some caller
  | _ => none

/-- The step of the others. -/
def LinkLayerEvent.other? {ι : Type*} : LinkLayerEvent ι → Option (TxEvent ι)
  | .call _ => none
  | .other event => some event

namespace LinkLayerCall

variable {ι : Type*} [DecidableEq ι]

/-- The queue of its port does not refuse the packet. -/
def inserts (s : LinkLayerCall ι) (packet : S3tpPacket) : Bool :=
  ((s.system.tx.outBuffer.queues packet.getPort).push packet s.system.tx.policy).isSome

/-- The call's next step. -/
def callStep (caller : ι) (m : Submission) (fresh : ℕ → S3tpHeader) (active : Bool) (s : LinkLayerCall ι) :
    Option (LinkLayerCall ι) :=
  match s.place with
  | .entering => some { s with place := if active then .testingState else .returned codeInternalError }
  | .testingState => some { s with
      place := if s.system.tx.getCurrentState = .blocked then .returned codeLinkUnavailable else .testingQueue }
  | .testingQueue => some { s with
      place := if s.system.tx.isQueueAvailable m.port (TxModule.noPackets (UInt16.ofNat m.len)) then .testingChannel
        else .returned codeQueueFull }
  | .testingChannel => some { s with
      place := if !s.system.tx.isChannelAvailable m.channel then .returned codeChannelBroken
        else if maxPduLength < m.len then .returned codeErrorMaxMessageSize
        else .enqueuing (m.calls fresh) }
  | .enqueuing [] => some { s with place := .returned codeSuccess }
  | .enqueuing (call :: rest) =>
    (s.system.step (.enqueue caller call.packet call.fragNo call.moreFragments)).map fun system =>
      { s with system, place := if (system.pending caller).isSome then .writing rest else .returned codeInactiveError }
  | .writing rest =>
    (s.system.step (.write caller)).map fun system =>
      { system
        place := .enqueuing rest
        inserted := s.inserted ++ (s.system.pending caller).toList.filter s.inserts }
  | .returned _ => none

def step (caller : ι) (m : Submission) (fresh : ℕ → S3tpHeader) (s : LinkLayerCall ι) :
    LinkLayerEvent ι → Option (LinkLayerCall ι)
  | .call active => s.callStep caller m fresh active
  | .other event =>
    if event.caller? = some caller then none
    else (s.system.step event).map fun system => { s with system }

/-- What the call can do, from where it is. -/
inductive CallSteps (caller : ι) (m : Submission) (fresh : ℕ → S3tpHeader) (s : LinkLayerCall ι) :
    LinkLayerCall ι → Prop where
  | fails {status : ℤ} (here : s.place.Testing) (error : status ≠ codeSuccess) :
      CallSteps caller m fresh s { s with place := .returned status }
  | passes {place : LinkLayerPlace} (here : s.place.Testing)
      (there : place.Testing ∨ place = .enqueuing (m.calls fresh)) : CallSteps caller m fresh s { s with place }
  | returns (here : s.place = .enqueuing []) : CallSteps caller m fresh s { s with place := .returned codeSuccess }
  | isRefused {call : EnqueueCall} {rest : List EnqueueCall} (here : s.place = .enqueuing (call :: rest))
      (inactive : s.system.tx.active = false) :
      CallSteps caller m fresh s { s with place := .returned codeInactiveError }
  | stamps {call : EnqueueCall} {rest : List EnqueueCall} (here : s.place = .enqueuing (call :: rest))
      (active : s.system.tx.active = true) (idle : s.system.pending caller = none) :
      CallSteps caller m fresh s
        { s with
          system := { s.system with
            tx := s.system.tx.advance call.packet.getPort
            pending := Function.update s.system.pending caller
              (some (s.system.tx.stamped call.packet call.fragNo call.moreFragments))
            enqueued := s.system.enqueued ++ [s.system.tx.stamped call.packet call.fragNo call.moreFragments] }
          place := .writing rest }
  | writes {packet : S3tpPacket} {rest : List EnqueueCall} (here : s.place = .writing rest)
      (pending : s.system.pending caller = some packet) :
      CallSteps caller m fresh s
        { system := { s.system with
            tx := s.system.tx.writePacket packet
            pending := Function.update s.system.pending caller none }
          place := .enqueuing rest
          inserted := s.inserted ++ [packet].filter s.inserts }

theorem of_callStep {caller : ι} {m : Submission} {fresh : ℕ → S3tpHeader} {active : Bool} {s t : LinkLayerCall ι}
    (stepped : s.callStep caller m fresh active = some t) : s.CallSteps caller m fresh t := by
  have testing {place : LinkLayerPlace} (here : s.place = place) (isTest : place.Testing) : s.place.Testing := by
    rwa [here]
  cases here : s.place with
  | entering =>
    simp only [callStep, here] at stepped
    obtain rfl := Option.some.inj stepped
    cases active with
    | true => exact .passes (testing here trivial) (.inl trivial)
    | false => exact .fails (testing here trivial) (by decide)
  | testingState =>
    simp only [callStep, here] at stepped
    obtain rfl := Option.some.inj stepped
    split
    · exact .fails (testing here trivial) (by decide)
    · exact .passes (testing here trivial) (.inl trivial)
  | testingQueue =>
    simp only [callStep, here] at stepped
    obtain rfl := Option.some.inj stepped
    split
    · exact .passes (testing here trivial) (.inl trivial)
    · exact .fails (testing here trivial) (by decide)
  | testingChannel =>
    simp only [callStep, here] at stepped
    obtain rfl := Option.some.inj stepped
    split
    · exact .fails (testing here trivial) (by decide)
    split
    · exact .fails (testing here trivial) (by decide)
    · exact .passes (testing here trivial) (.inr rfl)
  | enqueuing rest =>
    cases rest with
    | nil =>
      simp only [callStep, here] at stepped
      obtain rfl := Option.some.inj stepped
      exact .returns here
    | cons call rest =>
      simp only [callStep, here] at stepped
      obtain ⟨system, enqueues, rfl⟩ := Option.map_eq_some_iff.mp stepped
      have idle := TxSystem.idle_of_enqueue enqueues
      rcases TxSystem.cases_of_enqueue enqueues with ⟨inactive, rfl⟩ | ⟨running, rfl⟩
      · rw [idle]
        exact .isRefused here inactive
      · simp only [Function.update_self, Option.isSome_some, if_true]
        exact .stamps here running idle
  | writing rest =>
    simp only [callStep, here] at stepped
    obtain ⟨system, writes, rfl⟩ := Option.map_eq_some_iff.mp stepped
    obtain ⟨packet, pending, rfl⟩ := Option.map_eq_some_iff.mp writes
    rw [pending]
    exact .writes here pending
  | returned status => simp [callStep, here] at stepped

/-- A step of the others is one of the system. -/
theorem of_other {caller : ι} {m : Submission} {fresh : ℕ → S3tpHeader} {s t : LinkLayerCall ι} {event : TxEvent ι}
    (stepped : s.step caller m fresh (.other event) = some t) : event.caller? ≠ some caller ∧
      ∃ system, s.system.step event = some system ∧ t = { s with system } := by
  rw [step] at stepped
  split at stepped
  · contradiction
  · next notOwn =>
    obtain ⟨system, steps, rfl⟩ := Option.map_eq_some_iff.mp stepped
    exact ⟨notOwn, system, steps, rfl⟩

end LinkLayerCall

end S3tp.Model.Concurrent
