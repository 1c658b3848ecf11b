import S3tp.Soundness.Availability
import S3tp.Model.Concurrent.RxThreads
import Mathlib.Logic.Relation

/-! # Wake-ups for received messages

The assembly thread tests for messages under `rx_mutex` and waits under `s3tp_mutex`, so the link thread can flag
a port and signal in between. Nobody is waiting then, and the signal is lost. As long as no signal falls between
the second test and the wait, no message waits for the assembly thread without a signal to come.
-/

namespace S3tp.Soundness

open Model.Core Model.Core.RxModule Model.Concurrent Machine

namespace RxWakeUp

/-! ## The threads alone -/

/-- Steps of the link thread, one after the other. -/
abbrev LinkGoes : RxThreads → RxThreads → Prop := Relation.ReflTransGen fun s t => s.linkStep = some t

/-- Steps of the assembly thread, one after the other. -/
abbrev AssemblyGoes : RxThreads → RxThreads → Prop := Relation.ReflTransGen fun s t => s.assemblyStep = some t

section Alone

variable {s t : RxThreads} {packet : S3tpPacket}

/-- A test that is not disturbed. -/
theorem linkGoes_test {test : LinkTest} (place : s.link = .testing test packet .lock) (free : s.rxMutex = none) :
    LinkGoes s { s with link := RxThreads.afterLinkTest packet test (s.linkAnswer packet test) } := by
  obtain ⟨rx, active, s3tpMutex, rxMutex, assembly, link⟩ := s
  obtain rfl : link = _ := place
  obtain rfl : rxMutex = none := free
  refine .head (b := ⟨rx, active, s3tpMutex, some .link, assembly, .testing test packet .read⟩) rfl ?_
  exact .head rfl (.head rfl .refl)

theorem assemblyGoes_test {test : AssemblyTest} (place : s.assembly = .testing test .lock) (free : s.rxMutex = none) :
    AssemblyGoes s { s with assembly := RxThreads.afterTest test (s.answer test) } := by
  obtain ⟨rx, active, s3tpMutex, rxMutex, assembly, link⟩ := s
  obtain rfl : assembly = _ := place
  obtain rfl : rxMutex = none := free
  refine .head (b := ⟨rx, active, s3tpMutex, some .assembly, .testing test .read, link⟩) rfl ?_
  exact .head rfl (.head rfl .refl)

/-- The data packet of an open port goes through its three critical sections. -/
theorem linkGoes_data (place : s.link = .writing packet) (free : s.rxMutex = none) :
    ∃ assembly, LinkGoes s { s with rx := s.rx.receiveData packet, link := .outside, assembly } ∧
      (s.assembly ≠ .blocked → assembly = s.assembly) := by
  obtain ⟨rx, active, s3tpMutex, rxMutex, assembly, link⟩ := s
  obtain rfl : link = _ := place
  obtain rfl : rxMutex = none := free
  have write : RxThreads.linkStep ⟨rx, active, s3tpMutex, none, assembly, .writing packet⟩ =
      some ⟨rx.writePacket packet, active, s3tpMutex, none, assembly, .locking packet⟩ := by
    simp [RxThreads.linkStep]
  have lock : RxThreads.linkStep ⟨rx.writePacket packet, active, s3tpMutex, none, assembly, .locking packet⟩ =
      some ⟨rx.writePacket packet, active, s3tpMutex, some .link, assembly, .scanning packet⟩ := rfl
  simp only [receiveData, notifyIfComplete]
  rcases Bool.eq_false_or_eq_true ((rx.writePacket packet).isCompleteMessageForPortAvailable packet.getPort) with
    complete | incomplete
  · have scan : RxThreads.linkStep ⟨rx.writePacket packet, active, s3tpMutex, some .link, assembly, .scanning packet⟩ =
        some ⟨rx.writePacket packet, active, s3tpMutex, some .link, assembly, .flagging packet⟩ := by
      simp [RxThreads.linkStep, complete]
    rw [if_pos complete]
    exact ⟨if assembly = .blocked then .woken else assembly,
      .head write (.head lock (.head scan (.head rfl (.head rfl (.head rfl (.head rfl .refl)))))),
      fun awake => if_neg awake⟩
  · have scan : RxThreads.linkStep ⟨rx.writePacket packet, active, s3tpMutex, some .link, assembly, .scanning packet⟩ =
        some ⟨rx.writePacket packet, active, s3tpMutex, some .link, assembly, .unlocking packet⟩ := by
      simp [RxThreads.linkStep, incomplete]
    rw [if_neg (by simp [incomplete])]
    exact ⟨assembly, .head write (.head lock (.head scan (.head rfl (.head rfl .refl)))), fun _ => rfl⟩

/-- A sync frame goes through one. -/
theorem linkGoes_sync (place : s.link = .syncLocking packet) (free : s.rxMutex = none) :
    LinkGoes s { s with rx := s.rx.synchronizeStatus (S3tpSync.ofBytes packet.payload), link := .outside } := by
  obtain ⟨rx, active, s3tpMutex, rxMutex, assembly, link⟩ := s
  obtain rfl : link = _ := place
  obtain rfl : rxMutex = none := free
  have lock : RxThreads.linkStep ⟨rx, active, s3tpMutex, none, assembly, .syncLocking packet⟩ =
      some ⟨rx, active, s3tpMutex, some .link, assembly, .synchronizing packet⟩ := rfl
  exact .head lock (.head rfl (.head rfl .refl))

/-- An undisturbed call does to the module what `handleReceivedPacket` does. -/
theorem linkGoes_handleReceivedPacket (place : s.link = .testing .active packet .lock) (free : s.rxMutex = none) :
    ∃ assembly, LinkGoes s { s with rx := (s.rx.handleReceivedPacket packet).2.2, link := .outside, assembly } ∧
      (s.assembly ≠ .blocked → assembly = s.assembly) := by
  have tested := linkGoes_test place free
  have next : RxThreads.afterLinkTest packet .active (s.linkAnswer packet .active) =
      if !s.rx.active then .outside else if !packet.crcValid then .outside
      else if packet.header.getMessageType = msgSync then .syncLocking packet
      else if packet.header.getMessageType ≠ msgData then .outside
      else .testing .portOpen packet .lock := by
    rw [RxThreads.linkAnswer]
    cases s.rx.active <;> rfl
  rw [next] at tested
  simp only [handleReceivedPacket]
  split at tested
  · next inactive =>
    rw [if_pos inactive]
    exact ⟨s.assembly, tested, fun _ => rfl⟩
  next active =>
  rw [if_neg active]
  split at tested
  · next damaged =>
    rw [if_pos damaged]
    exact ⟨s.assembly, tested, fun _ => rfl⟩
  next valid =>
  rw [if_neg valid]
  split at tested
  · next sync =>
    rw [if_pos sync]
    exact ⟨s.assembly, tested.trans (linkGoes_sync rfl free), fun _ => rfl⟩
  next other =>
  rw [if_neg other]
  split at tested
  · next unknown =>
    rw [if_pos unknown]
    exact ⟨s.assembly, tested, fun _ => rfl⟩
  next data =>
  rw [if_neg data]
  have opened : LinkGoes { s with link := .testing .portOpen packet .lock } _ := linkGoes_test rfl free
  have onward := tested.trans opened
  cases isOpen : s.rx.isPortOpen packet.getPort with
  | false =>
    simp only [RxThreads.afterLinkTest, RxThreads.linkAnswer, isOpen] at onward
    exact ⟨s.assembly, onward, fun _ => rfl⟩
  | true =>
    simp only [RxThreads.afterLinkTest, RxThreads.linkAnswer, isOpen] at onward
    have data : ∃ assembly, LinkGoes { s with link := .writing packet } _ ∧ _ := linkGoes_data rfl free
    obtain ⟨assembly, writes, steady⟩ := data
    simp only [Bool.not_true, Bool.false_eq_true, if_false]
    exact ⟨assembly, onward.trans writes, steady⟩

/-- An undisturbed call returns what `getNextCompleteMessage` returns. -/
theorem assemblyGoes_getNextCompleteMessage {rx' : RxModule} {delivery : Delivery}
    (place : s.assembly = .testing .consumeActive .lock) (free : s.rxMutex = none)
    (consumes : s.rx.getNextCompleteMessage = some (delivery, rx')) :
    ∃ rxMutex, AssemblyGoes s { s with rx := rx', rxMutex, assembly := .forwarding delivery } := by
  have tested := assemblyGoes_test place free
  rw [getNextCompleteMessage_eq] at consumes
  split at consumes
  · next inactive =>
    obtain ⟨rfl, rfl⟩ := Prod.mk.inj (Option.some.inj consumes)
    have answer : s.answer .consumeActive = false := by simpa [RxThreads.answer] using inactive
    rw [answer] at tested
    exact ⟨s.rxMutex, tested⟩
  next going =>
  have answer : s.answer .consumeActive = true := by simpa [RxThreads.answer] using going
  rw [answer] at tested
  have tests : AssemblyGoes { s with assembly := .testing .consumeAvailable .lock } _ := assemblyGoes_test rfl free
  have onward := tested.trans tests
  split at consumes
  · next silent =>
    obtain ⟨rfl, rfl⟩ := Prod.mk.inj (Option.some.inj consumes)
    have found : s.rx.isNewMessageAvailable = false := by simpa using silent
    simp only [RxThreads.afterTest, RxThreads.answer, found] at onward
    exact ⟨s.rxMutex, onward⟩
  next flagged =>
  have found : s.rx.isNewMessageAvailable = true := by simpa using flagged
  simp only [RxThreads.afterTest, RxThreads.answer, found] at onward
  obtain ⟨rx, active, s3tpMutex, rxMutex, assembly, link⟩ := s
  obtain rfl : rxMutex = none := free
  have lock : RxThreads.assemblyStep ⟨rx, active, s3tpMutex, none, .taking, link⟩ =
      some ⟨rx, active, s3tpMutex, some .assembly, .assembling, link⟩ := rfl
  have takes : RxThreads.assemblyStep ⟨rx, active, s3tpMutex, some .assembly, .assembling, link⟩ =
      some ⟨rx', active, s3tpMutex, some .assembly,
        if delivery.error = codeSuccess then .untaking delivery else .forwarding delivery, link⟩ := by
    simp [RxThreads.assemblyStep, consumes]
  rcases Classical.em (delivery.error = codeSuccess) with success | failed
  · rw [if_pos success] at takes
    exact ⟨none, onward.trans (.head lock (.head takes (.head rfl .refl)))⟩
  · rw [if_neg failed] at takes
    exact ⟨some .assembly, onward.trans (.head lock (.head takes .refl))⟩

end Alone

/-! ## No lost wake-up -/

/-- The assembly thread has found no message in its second test, and waits next. -/
def AboutToWait (s : RxThreads) : Prop :=
  s.assembly = .testing .waitAvailable (.unlock false) ∨ s.assembly = .waiting

/-- From then until it is woken, it relies on a signal for the messages that are flagged. -/
def sleeper : Sleeper RxThreads where
  drowsy s := AboutToWait s ∨ s.assembly = .blocked
  work s := s.rx.isNewMessageAvailable = true
  promised s := ∃ packet, s.link = .signalling packet

/-- The link thread does not signal while the assembly thread is about to wait. -/
def SignalsInTime (s : RxThreads) : RxThreadsEvent → Prop
  | .link => sleeper.promised s → ¬ AboutToWait s
  | _ => True

/-- The assembly thread sleeps, a message is flagged, and the link thread is outside its function. -/
def Stranded (s : RxThreads) : Prop :=
  s.assembly = .blocked ∧ s.rx.isNewMessageAvailable = true ∧ s.link = .outside

section Steps

variable {s t : RxThreads}

theorem of_lockRx {thread : RxThread} (locks : s.lockRx thread = some t) : t = { s with rxMutex := some thread } := by
  rw [RxThreads.lockRx] at locks
  split at locks
  · exact (Option.some.inj locks).symm
  · contradiction

/-- The link thread signals, it flags and is about to signal, or it leaves the flags and the other thread alone. -/
theorem linkStep_cases (stepped : s.linkStep = some t) :
    (sleeper.promised s ∧ t.assembly = s.signal.assembly) ∨ (sleeper.promised t ∧ t.assembly = s.assembly) ∨
    (¬ sleeper.promised s ∧ t.assembly = s.assembly ∧ t.rx.availableMessages = s.rx.availableMessages) := by
  have quiet {place : LinkPlace} (here : s.link = place) (other : ∀ packet, place ≠ .signalling packet) :
      ¬ sleeper.promised s := fun ⟨packet, signalling⟩ => other packet (here.symm.trans signalling)
  cases here : s.link with
  | outside =>
    simp [RxThreads.linkStep, here] at stepped
  | signalling packet =>
    simp only [RxThreads.linkStep, here] at stepped
    obtain rfl := Option.some.inj stepped
    exact .inl ⟨⟨packet, here⟩, rfl⟩
  | flagging packet =>
    simp only [RxThreads.linkStep, here] at stepped
    obtain rfl := Option.some.inj stepped
    exact .inr (.inl ⟨⟨packet, rfl⟩, rfl⟩)
  | updating packet =>
    simp only [RxThreads.linkStep, here] at stepped
    obtain rfl := Option.some.inj stepped
    exact .inr (.inr ⟨quiet here (by simp), rfl, by rw [updateWindow_frame]⟩)
  | writing packet =>
    simp only [RxThreads.linkStep, here] at stepped
    split at stepped
    · obtain rfl := Option.some.inj stepped
      exact .inr (.inr ⟨quiet here (by simp), rfl, rfl⟩)
    · contradiction
  | syncLocking packet | locking packet =>
    simp only [RxThreads.linkStep, here] at stepped
    obtain ⟨mid, locks, rfl⟩ := Option.map_eq_some_iff.mp stepped
    obtain rfl := of_lockRx locks
    exact .inr (.inr ⟨quiet here (by simp), rfl, rfl⟩)
  | synchronizing packet | syncUnlocking | scanning packet | unlocking packet =>
    simp only [RxThreads.linkStep, here] at stepped
    obtain rfl := Option.some.inj stepped
    exact .inr (.inr ⟨quiet here (by simp), rfl, rfl⟩)
  | testing test packet reading =>
    cases reading with
    | lock =>
      simp only [RxThreads.linkStep, here] at stepped
      obtain ⟨mid, locks, rfl⟩ := Option.map_eq_some_iff.mp stepped
      obtain rfl := of_lockRx locks
      exact .inr (.inr ⟨quiet here (by simp), rfl, rfl⟩)
    | read | unlock result =>
      simp only [RxThreads.linkStep, here] at stepped
      obtain rfl := Option.some.inj stepped
      exact .inr (.inr ⟨quiet here (by simp), rfl, rfl⟩)

theorem not_drowsy_iff : ¬ sleeper.drowsy s ↔ s.assembly ≠ .testing .waitAvailable (.unlock false) ∧
    s.assembly ≠ .waiting ∧ s.assembly ≠ .blocked := by
  simp only [sleeper, AboutToWait, not_or, and_assoc]

/-- A test that finds nothing makes the assembly thread drowsy, and it stays so until it is blocked. -/
theorem assemblyStep_careful (stepped : s.assemblyStep = some t) : sleeper.Careful s t := by
  have awake {place : AssemblyPlace} (there : t.assembly = place) (other : place ≠ .waiting ∧ place ≠ .blocked ∧
      place ≠ .testing .waitAvailable (.unlock false)) : sleeper.Careful s t :=
    .of_awake (not_drowsy_iff.mpr (by rw [there]; exact ⟨other.2.2, other.1, other.2.1⟩))
  cases here : s.assembly with
  | blocked | finished =>
    simp [RxThreads.assemblyStep, here] at stepped
  | locking | woken =>
    simp only [RxThreads.assemblyStep, here] at stepped
    split at stepped
    · obtain rfl := Option.some.inj stepped
      refine awake rfl ?_
      split <;> simp
    · contradiction
  | waiting =>
    simp only [RxThreads.assemblyStep, here] at stepped
    obtain rfl := Option.some.inj stepped
    refine .of_iff ?_ Iff.rfl id
    simp [sleeper, AboutToWait, here]
  | leaving | releasing | untaking delivery | forwarding delivery =>
    simp only [RxThreads.assemblyStep, here] at stepped
    obtain rfl := Option.some.inj stepped
    exact awake rfl (by simp)
  | taking =>
    simp only [RxThreads.assemblyStep, here] at stepped
    obtain ⟨mid, locks, rfl⟩ := Option.map_eq_some_iff.mp stepped
    exact awake rfl (by simp)
  | assembling =>
    simp only [RxThreads.assemblyStep, here] at stepped
    obtain ⟨⟨delivery, rx⟩, takes, rfl⟩ := Option.map_eq_some_iff.mp stepped
    refine awake rfl ?_
    split <;> simp
  | testing test reading =>
    cases reading with
    | lock =>
      simp only [RxThreads.assemblyStep, here] at stepped
      obtain ⟨mid, locks, rfl⟩ := Option.map_eq_some_iff.mp stepped
      exact awake rfl (by simp)
    | read =>
      simp only [RxThreads.assemblyStep, here] at stepped
      obtain rfl := Option.some.inj stepped
      rcases Bool.eq_false_or_eq_true s.rx.isNewMessageAvailable with some | none
      · refine awake rfl ?_
        cases test <;> simp [RxThreads.answer, some]
      · exact .of_idle (by simp [sleeper, none])
    | unlock result =>
      simp only [RxThreads.assemblyStep, here] at stepped
      obtain rfl := Option.some.inj stepped
      rcases Classical.em (test = .waitAvailable ∧ result = false) with ⟨rfl, rfl⟩ | other
      · refine .of_iff ?_ Iff.rfl id
        simp [sleeper, AboutToWait, here, RxThreads.afterTest]
      · refine awake rfl ?_
        cases test <;> cases result <;> simp [RxThreads.afterTest] at other ⊢

theorem drowsy_congr (there : t.assembly = s.assembly) : sleeper.drowsy t ↔ sleeper.drowsy s := by
  simp only [sleeper, AboutToWait, there]

theorem work_congr (flags : t.rx.availableMessages = s.rx.availableMessages) : sleeper.work t ↔ sleeper.work s := by
  simp only [sleeper, isNewMessageAvailable, flags]

/-- A signal wakes the assembly thread if it has blocked by then. -/
theorem not_drowsy_signal (inTime : ¬ AboutToWait s) (there : t.assembly = s.signal.assembly) : ¬ sleeper.drowsy t := by
  rw [AboutToWait, not_or] at inTime
  rw [not_drowsy_iff, there, RxThreads.signal]
  split
  · simp
  · next awake => exact ⟨inTime.1, inTime.2, awake⟩

/-- The link thread wakes the assembly thread behind every flag. -/
theorem linkStep_careful (inTime : sleeper.promised s → ¬ AboutToWait s) (stepped : s.linkStep = some t) :
    sleeper.Careful s t := by
  rcases linkStep_cases stepped with ⟨signals, there⟩ | ⟨promised, there⟩ | ⟨quiet, there, flags⟩
  · exact .of_awake (not_drowsy_signal (inTime signals) there)
  · exact ⟨fun awake asleep => absurd ((drowsy_congr there).mp asleep) awake, fun _ _ _ _ => promised,
      fun _ _ _ => promised⟩
  · exact .of_iff (drowsy_congr there) (work_congr flags) fun signals => absurd signals quiet

theorem step_careful {event : RxThreadsEvent} (inTime : SignalsInTime s event) (stepped : s.step event = some t) :
    sleeper.Careful s t := by
  cases event with
  | assembly => exact assemblyStep_careful stepped
  | link => exact linkStep_careful inTime stepped
  | call packet =>
    simp only [RxThreads.step] at stepped
    split at stepped
    · next outside =>
      obtain rfl := Option.some.inj stepped
      refine .of_iff Iff.rfl Iff.rfl ?_
      rintro ⟨other, signalling⟩
      exact absurd (outside.symm.trans signalling) (by simp)
    · contradiction
  | wake =>
    simp only [RxThreads.step] at stepped
    split at stepped
    · obtain rfl := Option.some.inj stepped
      exact .of_awake (not_drowsy_iff.mpr (by simp))
    · contradiction
  | lock | unlock =>
    simp only [RxThreads.step] at stepped
    split at stepped
    · obtain rfl := Option.some.inj stepped
      exact .of_iff Iff.rfl Iff.rfl id
    · contradiction
  | openPort port =>
    simp only [RxThreads.step] at stepped
    split at stepped
    · obtain rfl := Option.some.inj stepped
      exact .of_iff Iff.rfl (work_congr (by rw [openPort_frame])) id
    · contradiction
  | closePort port =>
    simp only [RxThreads.step] at stepped
    split at stepped
    · obtain rfl := Option.some.inj stepped
      exact .of_iff Iff.rfl (work_congr (by rw [closePort_frame])) id
    · contradiction
  | stop =>
    simp only [RxThreads.step] at stepped
    split at stepped
    · obtain rfl := Option.some.inj stepped
      rcases Classical.em (s.assembly = .blocked) with asleep | awake
      · exact .of_awake (not_drowsy_iff.mpr (by simp [RxThreads.signal, asleep]))
      · exact .of_iff (drowsy_congr (if_neg awake)) Iff.rfl id
    · contradiction

end Steps

/-- As long as the link thread signals in time, the assembly thread is not stranded. -/
theorem not_stranded_of_run {events : List RxThreadsEvent} {s : RxThreads}
    (run : Run RxThreads.step SignalsInTime RxThreads.started events s) : ¬ Stranded s := by
  rintro ⟨asleep, flagged, outside⟩
  have start : sleeper.Attended RxThreads.started := by
    intro drowsy
    exact absurd drowsy (not_drowsy_iff.mpr (by simp [RxThreads.started]))
  have careful (u : RxThreads) (event : RxThreadsEvent) (v : RxThreads) (_ : True) (inTime : SignalsInTime u event)
      (stepped : u.step event = some v) : True ∧ sleeper.Careful u v := ⟨trivial, step_careful inTime stepped⟩
  obtain ⟨-, attended⟩ := Sleeper.attended_of_run run careful trivial start
  obtain ⟨packet, signalling⟩ := attended (.inr asleep) flagged
  exact absurd (outside.symm.trans signalling) (by simp)

theorem LinkGoes.run {meets : RxThreads → RxThreadsEvent → Prop} (goes : LinkGoes s t)
    (met : ∀ u, LinkGoes s u → meets u .link) : ∃ events, Run RxThreads.step meets s events t := by
  induction goes with
  | refl => exact ⟨[], .nil s⟩
  | @tail u v before stepped ih =>
    obtain ⟨events, run⟩ := ih
    have links : u.step .link = some v := stepped
    exact ⟨events ++ [.link], run.append (.cons (met u before) links (.nil _))⟩

/-- The link thread does not bring the assembly thread to wait. -/
theorem not_aboutToWait_of_linkGoes (goes : LinkGoes s t) (elsewhere : ¬ AboutToWait s) : ¬ AboutToWait t := by
  induction goes with
  | refl => exact elsewhere
  | tail _ stepped ih =>
    rcases linkStep_cases stepped with ⟨-, there⟩ | ⟨-, there⟩ | ⟨-, there, -⟩
    · rw [AboutToWait, there, RxThreads.signal]
      split
      · simp
      · exact ih
    · rwa [AboutToWait, there]
    · rwa [AboutToWait, there]

/-- Port 5 is open, and the assembly thread has found no message. -/
def findingNothing : RxThreads :=
  { rx := listeningOn5.rx, s3tpMutex := some .assembly, assembly := .waiting }

theorem run_findingNothing : Run RxThreads.step SignalsInTime RxThreads.started
    (.openPort 5 :: List.replicate 10 .assembly) findingNothing := by
  repeat' first | exact Run.nil _ | refine Run.cons trivial rfl ?_

theorem isNewMessageAvailable_listeningOn5 :
    (listeningOn5.rx.receiveData (fragmentOf 0 0 0 false)).isNewMessageAvailable = true :=
  listening_listeningOn5.receiveData.available

/-- There a message arrives. -/
def messageArriving (place : AssemblyPlace) (holder : Option RxThread) : RxThreads where
  rx := listeningOn5.rx
  s3tpMutex := holder
  assembly := place
  link := .testing .active (fragmentOf 0 0 0 false) .lock

/-- The message is received and flagged. -/
theorem linkGoes_messageArriving (place : AssemblyPlace) (holder : Option RxThread) : ∃ rx assembly,
    rx.isNewMessageAvailable = true ∧ (place ≠ .blocked → assembly = place) ∧
    LinkGoes (messageArriving place holder) { rx, s3tpMutex := holder, assembly } := by
  obtain ⟨accepted, -⟩ := step_receive_listeningOn5 0 0 0 false
  have received : ((messageArriving place holder).rx.handleReceivedPacket (fragmentOf 0 0 0 false)).2.2 =
      listeningOn5.rx.receiveData (fragmentOf 0 0 0 false) := by
    have same : (messageArriving place holder).rx = listeningOn5.rx := rfl
    rw [same, handleReceivedPacket_of_accepts accepted]
  have handled : ∃ assembly, LinkGoes (messageArriving place holder) _ ∧ _ := linkGoes_handleReceivedPacket rfl rfl
  obtain ⟨assembly, goes, steady⟩ := handled
  rw [received] at goes
  exact ⟨_, assembly, isNewMessageAvailable_listeningOn5, steady, goes⟩

/-- The assembly thread is woken by the message it waits for. -/
theorem not_stranded_of_run_woken : ∃ rx assembly, rx.isNewMessageAvailable = true ∧
    ¬ Stranded { rx, assembly } := by
  obtain ⟨rx, assembly, flagged, -, goes⟩ := linkGoes_messageArriving .blocked none
  have elsewhere : ¬ AboutToWait (messageArriving .blocked none) := by simp [AboutToWait, messageArriving]
  have inTime (u : RxThreads) (before : LinkGoes (messageArriving .blocked none) u) : SignalsInTime u .link :=
    fun _ => not_aboutToWait_of_linkGoes before elsewhere
  obtain ⟨events, run⟩ := goes.run inTime
  have blocks : findingNothing.step .assembly = some { rx := listeningOn5.rx, assembly := .blocked } := rfl
  have called : RxThreads.step { rx := listeningOn5.rx, assembly := .blocked } (.call (fragmentOf 0 0 0 false)) =
      some (messageArriving .blocked none) := rfl
  have waits : Run RxThreads.step SignalsInTime findingNothing [.assembly, .call (fragmentOf 0 0 0 false)]
      (messageArriving .blocked none) := .cons trivial blocks (.cons trivial called (.nil _))
  exact ⟨rx, assembly, flagged, not_stranded_of_run (run_findingNothing.append (waits.append run))⟩

/-- The assembly thread goes on to wait without having been woken. -/
theorem exists_run_stranded : ∃ events s, Run RxThreads.step Always RxThreads.started events s ∧ Stranded s := by
  obtain ⟨rx, assembly, flagged, steady, goes⟩ := linkGoes_messageArriving .waiting (some .assembly)
  obtain rfl : assembly = .waiting := steady (by simp)
  have always (u : RxThreads) (_ : LinkGoes (messageArriving .waiting (some .assembly)) u) :
      Always u RxThreadsEvent.link := trivial
  obtain ⟨events, run⟩ := goes.run always
  have called : findingNothing.step (.call (fragmentOf 0 0 0 false)) =
      some (messageArriving .waiting (some .assembly)) := rfl
  have blocks : RxThreads.step { rx, s3tpMutex := some .assembly, assembly := .waiting } .assembly =
      some { rx, assembly := .blocked } := rfl
  exact ⟨_, _, run_findingNothing.always.append (.cons trivial called (run.append (.cons trivial blocks (.nil _)))),
    rfl, flagged, rfl⟩

end RxWakeUp

end S3tp.Soundness
