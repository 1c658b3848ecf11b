import S3tp.Model.Concurrent.ApplicationPath
import S3tp.Soundness.EndToEnd
import S3tp.Soundness.Framing
import S3tp.Soundness.WholeFrames

/-! # What an application hears

Between two daemons whose link loses, duplicates and reorders nothing, an application hears on its port what the
application at the other end has sent and seen acknowledged: these messages, in this order, each of them once, and all
of them once everything has come to rest.

The steps meet the conditions under which each part does its work: the client threads read whole lengths, payloads are
of one or two packets, nothing is damaged on the way, and the calls that write to a client's socket do not overlap.
-/

namespace S3tp.Soundness.ApplicationPath

open Model.Core Model.Concurrent Model.Concurrent.ApplicationPath Machine

/-- The conditions of the parts. -/
structure Orderly (s : ApplicationPath) (event : PathEvent) : Prop where
  transfer : ∀ own ∈ s.onTransfer event, Used s.transfer own ∧ ShortPayload s.transfer own ∧ Undamaged s.transfer own
  clients : ∀ port, ∀ rd ∈ onClient port event, (s.clients port).ReadsWholeLength rd
  sockets : ∀ port, ∀ own ∈ s.onSocket port event, (s.sockets port).Alone own

section Parts

variable {s t : ApplicationPath} {event : PathEvent} {port : UInt8}

@[simp] theorem transfer_returns (s : ApplicationPath) (port : UInt8) (result : ℤ) :
    (s.returns port result).transfer = s.transfer := rfl

/-- A step of the path is a step of the two instances, or leaves them as they are. -/
theorem transfer_of_step (stepped : s.step event = some t) :
    (s.onTransfer event = none ∧ t.transfer = s.transfer) ∨
      ∃ own, s.onTransfer event = some own ∧ s.transfer.step own = some t.transfer := by
  cases event with
  | read port rd =>
    obtain ⟨-, client, -, rfl⟩ := of_read stepped
    exact .inl ⟨rfl, rfl⟩
  | call port fresh beyond =>
    obtain ⟨data, transfer, pending, calls, rfl⟩ := of_call stepped
    refine .inr ⟨_, by rw [onTransfer, pending]; rfl, calls.trans ?_⟩
    split <;> rfl
  | transfer event =>
    obtain ⟨-, transfer, steps, rfl⟩ := of_transfer stepped
    refine .inr ⟨event, rfl, steps.trans ?_⟩
    split
    · rfl
    · split <;> rfl
  | consume =>
    obtain ⟨-, transfer, steps, rfl⟩ := of_consume stepped
    exact .inr ⟨_, rfl, steps⟩
  | passOn =>
    obtain ⟨delivery, -, ⟨-, rfl⟩ | ⟨-, socket, -, rfl⟩⟩ := of_passOn stepped
    · exact .inl ⟨rfl, rfl⟩
    · exact .inl ⟨rfl, rfl⟩
  | socket port event =>
    obtain ⟨-, socket, -, rfl⟩ := of_socket stepped
    exact .inl ⟨rfl, rfl⟩

/-- Only the client's own reads change it. -/
theorem clients_of_step (stepped : s.step event = some t) (port : UInt8) :
    (onClient port event = none ∧ t.clients port = s.clients port) ∨
      ∃ rd, onClient port event = some rd ∧ (s.clients port).step rd = some (t.clients port) := by
  cases event with
  | read other rd =>
    obtain ⟨-, client, reads, rfl⟩ := of_read stepped
    rcases Classical.em (other = port) with rfl | different
    · exact .inr ⟨rd, by simp [onClient], by simpa using reads⟩
    · exact .inl ⟨by simp [onClient, different], Function.update_of_ne (Ne.symm different) ..⟩
  | call other fresh beyond =>
    obtain ⟨data, transfer, -, -, rfl⟩ := of_call stepped
    refine .inl ⟨rfl, ?_⟩
    split <;> rfl
  | transfer event =>
    obtain ⟨-, transfer, -, rfl⟩ := of_transfer stepped
    refine .inl ⟨rfl, ?_⟩
    split
    · rfl
    · split <;> rfl
  | consume =>
    obtain ⟨-, transfer, -, rfl⟩ := of_consume stepped
    exact .inl ⟨rfl, rfl⟩
  | passOn =>
    obtain ⟨delivery, -, ⟨-, rfl⟩ | ⟨-, socket, -, rfl⟩⟩ := of_passOn stepped
    · exact .inl ⟨rfl, rfl⟩
    · exact .inl ⟨rfl, rfl⟩
  | socket other event =>
    obtain ⟨-, socket, -, rfl⟩ := of_socket stepped
    exact .inl ⟨rfl, rfl⟩

/-- Only calls and writes of its own change a socket. -/
theorem sockets_of_step (stepped : s.step event = some t) (port : UInt8) :
    (s.onSocket port event = none ∧ t.sockets port = s.sockets port) ∨
      ∃ own, s.onSocket port event = some own ∧ (s.sockets port).step own = some (t.sockets port) := by
  cases event with
  | read other rd =>
    obtain ⟨-, client, -, rfl⟩ := of_read stepped
    exact .inl ⟨rfl, rfl⟩
  | call other fresh beyond =>
    obtain ⟨data, transfer, -, -, rfl⟩ := of_call stepped
    refine .inl ⟨rfl, ?_⟩
    split <;> rfl
  | transfer event =>
    obtain ⟨-, transfer, -, rfl⟩ := of_transfer stepped
    refine .inl ⟨rfl, ?_⟩
    split
    · rfl
    · split <;> rfl
  | consume =>
    obtain ⟨-, transfer, -, rfl⟩ := of_consume stepped
    exact .inl ⟨rfl, rfl⟩
  | passOn =>
    obtain ⟨delivery, holds, ⟨absent, rfl⟩ | ⟨client, socket, calls, rfl⟩⟩ := of_passOn stepped
    · exact .inl ⟨by simp [onSocket, holds, absent], rfl⟩
    · rcases Classical.em (delivery.port = port) with rfl | different
      · exact .inr ⟨_, by simp [onSocket, holds, client]; rfl, by simpa using calls⟩
      · exact .inl ⟨by simp [onSocket, holds, different], Function.update_of_ne (Ne.symm different) ..⟩
  | socket other event =>
    obtain ⟨-, socket, steps, rfl⟩ := of_socket stepped
    rcases Classical.em (other = port) with rfl | different
    · exact .inr ⟨event, by simp [onSocket], by simpa using steps⟩
    · exact .inl ⟨by simp [onSocket, different], Function.update_of_ne (Ne.symm different) ..⟩

end Parts

/-! ## The calls of the client threads -/

/-- What a step of the two instances, other than a call's first, does to the call of one port. -/
inductive CallEffect (s t : Transfer) (event : TransferEvent) (port : UInt8) : Prop
  | goesOn : (∀ result, caller event = some (port, result) → ended s t port = false) →
    (t.calls port).map CallUnderWay.submission = (s.calls port).map CallUnderWay.submission →
    t.acceptedOn port = s.acceptedOn port → CallEffect s t event port
  | ends {m : Submission} {result : ℤ} : caller event = some (port, result) → ended s t port = true →
    (s.calls port).map CallUnderWay.submission = some m → t.calls port = none →
    t.acceptedOn port = s.acceptedOn port ++ (if result = codeSuccess then [m] else []) → CallEffect s t event port

/-- A call's submission is of the port the call is made on. -/
def Owned (s : Transfer) : Prop := ∀ port, ∀ call ∈ s.calls port, call.submission.port = port

section Calls

variable {s t : Transfer} {event : TransferEvent}

theorem not_ended {port : UInt8} (same : (t.calls port).map CallUnderWay.submission =
    (s.calls port).map CallUnderWay.submission) : ended s t port = false := by
  rw [ended]
  cases before : s.calls port <;> cases after : t.calls port <;> simp_all

theorem callEffect_of_step (owned : Owned s) (own : ofInstances event = true) (stepped : s.step event = some t)
    (port : UInt8) : CallEffect s t event port := by
  cases event with
  | call | consume => contradiction
  | iterate | setChannelAvailable | deliver | openPort | closePort =>
    obtain ⟨connection, -, rfl⟩ := Transfer.of_onConnection rfl stepped
    exact .goesOn nofun rfl rfl
  | enqueue other =>
    rw [Transfer.step] at stepped
    split at stepped
    · next m call rest underWay =>
      split at stepped
      · obtain rfl := Option.some.inj stepped
        rcases Classical.em (port = other) with rfl | different
        · refine .ends rfl (by simp [ended, underWay]) (by rw [underWay]; rfl) (Function.update_self ..) ?_
          rw [if_neg (by decide), List.append_nil]
          rfl
        · refine .goesOn ?_ (by simp [different]) rfl
          rintro result same
          exact absurd (Prod.mk.inj (Option.some.inj same)).1.symm different
      · obtain ⟨connection, -, rfl⟩ := Option.map_eq_some_iff.mp stepped
        have same : (Function.update s.calls other (some ⟨m, rest⟩) port).map CallUnderWay.submission =
            (s.calls port).map CallUnderWay.submission := by
          rcases Classical.em (port = other) with rfl | different
          · rw [Function.update_self, underWay]
            rfl
          · rw [Function.update_of_ne different]
        exact .goesOn (fun _ _ => not_ended same) same rfl
    · contradiction
  | write other =>
    obtain ⟨m, remaining, connection, underWay, -, rfl⟩ := Transfer.of_write stepped
    split
    · have ofOther : m.port = other := owned other ⟨m, remaining⟩ underWay
      rcases Classical.em (port = other) with rfl | different
      · refine .ends rfl (by simp [ended, underWay]) (by rw [underWay]; rfl) (Function.update_self ..) ?_
        simp [Transfer.acceptedOn, ofOther]
      · refine .goesOn ?_ (by simp [different]) ?_
        · rintro result same
          exact absurd (Prod.mk.inj (Option.some.inj same)).1.symm different
        · have elsewhere : ¬ other = port := fun same => different same.symm
          simp [Transfer.acceptedOn, ofOther, elsewhere]
    · exact .goesOn (fun _ _ => not_ended rfl) rfl rfl

/-- A call is refused, or is under way from then on. -/
theorem admission_of_call {m : Submission} {fresh : ℕ → S3tpHeader} (stepped : s.step (.call m fresh) = some t) :
    s.calls m.port = none ∧ ((s.connection.sender.tx.admission m ≠ codeSuccess ∧ t = s) ∨
      t = { s with calls := Function.update s.calls m.port (some ⟨m, m.calls fresh⟩) }) := by
  refine ⟨(Transfer.of_call stepped).2.1, ?_⟩
  rw [Transfer.step] at stepped
  split at stepped
  · contradiction
  split at stepped
  · next refused => exact .inl ⟨refused, (Option.some.inj stepped).symm⟩
  · exact .inr (Option.some.inj stepped).symm

end Calls

/-- The messages read on a port have been answered but for the one in a call, and those acknowledged are those whose
payloads have been accepted. -/
structure Booked (s : ApplicationPath) (port : UInt8) : Prop where
  underWay : ∀ call ∈ s.transfer.calls port, call.submission.port = port ∧
    s.pending port = some call.submission.data
  answered : ∃ done, (s.clients port).applicationMessages = done ++ (s.pending port).toList ∧
    done.length = (s.results port).length
  accepted : (s.transfer.acceptedOn port).map Submission.data = s.acknowledgedOn port

namespace Booked

variable {s t : ApplicationPath} {port : UInt8}

/-- Nothing concerns the port. -/
theorem congr (booked : Booked s port)
    (calls : (t.transfer.calls port).map CallUnderWay.submission = (s.transfer.calls port).map CallUnderWay.submission)
    (accepted : t.transfer.acceptedOn port = s.transfer.acceptedOn port) (clients : t.clients port = s.clients port)
    (pending : t.pending port = s.pending port) (results : t.results port = s.results port) : Booked t port := by
  refine ⟨fun call member => ?_, ?_, ?_⟩
  · rw [Option.mem_def.mp member] at calls
    obtain ⟨before, here, same⟩ := Option.map_eq_some_iff.mp calls.symm
    rw [pending, ← same]
    exact booked.underWay before here
  · rw [clients, pending, results]
    exact booked.answered
  · rw [accepted, acknowledgedOn, clients, results]
    exact booked.accepted

/-- The answers go with the messages. -/
theorem acknowledgedOn_eq {s : ApplicationPath} {port : UInt8} {done more : List (List UInt8)}
    (all : (s.clients port).applicationMessages = done ++ more) (answered : done.length = (s.results port).length) :
    s.acknowledgedOn port = (done.zip (s.results port)).filterMap fun (data, result) =>
      if result = codeSuccess then some data else none := by
  have zipped : (done ++ more).zip (s.results port) = done.zip (s.results port) := by
    have split : (done ++ more).zip (s.results port ++ []) = done.zip (s.results port) ++ more.zip [] :=
      List.zip_append answered
    rwa [List.append_nil, List.zip_nil_right, List.append_nil] at split
  rw [acknowledgedOn, all, zipped]

/-- The call returns, and the client's thread goes on. -/
theorem returns (booked : Booked s port) {transfer : Transfer} {data : List UInt8} {result : ℤ}
    (pending : s.pending port = some data) (ended : transfer.calls port = none)
    (accepted : (transfer.acceptedOn port).map Submission.data = (s.transfer.acceptedOn port).map Submission.data ++
      if result = codeSuccess then [data] else []) :
    Booked (({ s with transfer } : ApplicationPath).returns port result) port := by
  obtain ⟨done, all, answered⟩ := booked.answered
  rw [pending, Option.toList_some] at all
  have all' : ((({ s with transfer } : ApplicationPath).returns port result).clients port).applicationMessages =
      (done ++ [data]) ++ [] := by rw [List.append_nil]; exact all
  have results : (({ s with transfer } : ApplicationPath).returns port result).results port =
      s.results port ++ [result] := Function.update_self ..
  have answered' : (done ++ [data]).length =
      ((({ s with transfer } : ApplicationPath).returns port result).results port).length := by
    rw [results, List.length_append, List.length_append, answered]
    rfl
  have none : (({ s with transfer } : ApplicationPath).returns port result).pending port = none :=
    Function.update_self ..
  refine ⟨fun call member => ?_, ⟨done ++ [data], ?_, answered'⟩, ?_⟩
  · rw [transfer_returns, ended] at member
    contradiction
  · rw [none]
    exact all'
  · rw [transfer_returns, accepted, booked.accepted, acknowledgedOn_eq all answered, acknowledgedOn_eq all' answered',
      results, List.zip_append answered, List.filterMap_append]
    congr 1
    simp only [List.zip_cons_cons, List.zip_nil_right, List.filterMap_cons, List.filterMap_nil]
    split <;> rfl

/-- A message has been read, and its call of `onApplicationMessage` begins. -/
theorem read (booked : Booked s port) (idle : s.pending port = none) {client : ClientRoutine}
    {pending : Option (List UInt8)}
    (reads : client.applicationMessages = (s.clients port).applicationMessages ++ pending.toList) :
    Booked { s with clients := Function.update s.clients port client
                    pending := Function.update s.pending port pending } port := by
  obtain ⟨done, all, answered⟩ := booked.answered
  rw [idle, Option.toList_none, List.append_nil] at all
  rw [all] at reads
  refine ⟨fun call member => ?_, ⟨done, ?_, answered⟩, ?_⟩
  · have here := (booked.underWay call member).2
    rw [idle] at here
    contradiction
  · simpa using reads
  · have all' : (s.clients port).applicationMessages = done ++ [] := by rw [all, List.append_nil]
    have before := acknowledgedOn_eq all' answered
    have after : ({ s with clients := Function.update s.clients port client
                           pending := Function.update s.pending port pending } : ApplicationPath).acknowledgedOn port =
        _ := acknowledgedOn_eq (by simpa using reads) answered
    rw [after, ← before]
    exact booked.accepted

end Booked

theorem data_submission (s : ApplicationPath) (port : UInt8) (data : List UInt8) (beyond : ℕ → UInt8) :
    (s.submission port data beyond).data = data := by
  refine List.ext_getElem (by simp [Submission.data, submission]) fun i _ inside => ?_
  simp [Submission.data, submission, inside]

/-- A read completes at most one message. -/
theorem applicationMessages_of_step {s t : ClientRoutine} {rd : SocketRead} (stepped : s.step rd = some t) :
    t.applicationMessages =
      s.applicationMessages ++ (t.applicationMessages.drop s.applicationMessages.length).head?.toList := by
  have grows : t.applicationMessages = s.applicationMessages ∨
      ∃ message, t.applicationMessages = s.applicationMessages ++ [message] := by
    obtain ⟨-, -, rfl⟩ := ClientRoutine.step_eq_some stepped
    rw [ClientRoutine.receive]
    split
    · exact .inl rfl
    · split
      · exact .inl rfl
      · exact .inl rfl
    · split
      · exact .inl rfl
      split
      · exact .inl rfl
      · exact .inr ⟨_, rfl⟩
    · exact .inl rfl
  obtain same | ⟨message, more⟩ := grows
  · simp [same]
  · simp [more]

/-- What a step does with the calls of one port, it does with the books of that port. -/
theorem booked_of_step {s t : ApplicationPath} {event : PathEvent} (booked : ∀ port, Booked s port)
    (stepped : s.step event = some t) (port : UInt8) : Booked t port := by
  have owned : Owned s.transfer := fun port call member => ((booked port).underWay call member).1
  cases event with
  | read other rd =>
    obtain ⟨idle, client, reads, rfl⟩ := of_read stepped
    rcases Classical.em (port = other) with rfl | different
    · exact (booked port).read idle (applicationMessages_of_step reads)
    · exact (booked port).congr rfl rfl (Function.update_of_ne different ..) (Function.update_of_ne different ..) rfl
  | call other fresh beyond =>
    obtain ⟨data, transfer, pending, calls, rfl⟩ := of_call stepped
    obtain ⟨idle, ⟨refused, rfl⟩ | rfl⟩ := admission_of_call calls
    · have none : s.transfer.calls other = none := idle
      rw [if_neg (by simp [none])]
      rcases Classical.em (port = other) with rfl | different
      · refine (booked port).returns pending none ?_
        rw [if_neg refused, List.append_nil]
      · exact (booked port).congr rfl rfl rfl (Function.update_of_ne different ..) (Function.update_of_ne different ..)
    · have ofOther : (s.submission other data beyond).port = other := rfl
      rw [if_pos (by simp [ofOther])]
      rcases Classical.em (port = other) with rfl | different
      · refine ⟨fun call member => ?_, (booked port).answered, (booked port).accepted⟩
        obtain rfl : _ = call := by simpa [ofOther] using member
        exact ⟨ofOther, pending.trans (congrArg some (data_submission s port data beyond).symm)⟩
      · exact (booked port).congr (by simp [ofOther, different]) rfl rfl rfl rfl
  | transfer event =>
    obtain ⟨own, transfer, steps, rfl⟩ := of_transfer stepped
    have effect := callEffect_of_step owned own steps
    cases ends : caller event with
    | none =>
      cases effect port with
      | goesOn _ calls accepted => exact (booked port).congr calls accepted rfl rfl rfl
      | ends ofPort => rw [ends] at ofPort; contradiction
    | some ending =>
      obtain ⟨other, result⟩ := ending
      dsimp only
      split
      · next done =>
        rcases Classical.em (port = other) with rfl | different
        · cases effect port with
          | goesOn goes => exact absurd (done.symm.trans (goes result ends)) (by decide)
          | @ends m result' ofPort _ calls gone accepted =>
            obtain ⟨call, here, rfl⟩ := Option.map_eq_some_iff.mp calls
            obtain rfl : result = result' := (Prod.mk.inj (Option.some.inj (ends.symm.trans ofPort))).2
            refine (booked port).returns ((booked port).underWay call here).2 gone ?_
            rw [accepted, List.map_append]
            split <;> rfl
        · cases effect port with
          | goesOn _ calls accepted =>
            exact (booked port).congr calls accepted rfl (Function.update_of_ne different ..)
              (Function.update_of_ne different ..)
          | ends ofPort => exact absurd (Prod.mk.inj (Option.some.inj (ends.symm.trans ofPort))).1.symm different
      · next goes =>
        cases effect port with
        | goesOn _ calls accepted => exact (booked port).congr calls accepted rfl rfl rfl
        | ends ofPort done =>
          obtain rfl : other = port := (Prod.mk.inj (Option.some.inj (ends.symm.trans ofPort))).1
          exact absurd done goes
  | consume =>
    obtain ⟨-, transfer, steps, rfl⟩ := of_consume stepped
    obtain ⟨connection, -, rfl⟩ := Transfer.of_onConnection rfl steps
    exact (booked port).congr rfl rfl rfl rfl rfl
  | passOn =>
    obtain ⟨delivery, -, ⟨-, rfl⟩ | ⟨-, socket, -, rfl⟩⟩ := of_passOn stepped
    · exact (booked port).congr rfl rfl rfl rfl rfl
    · exact (booked port).congr rfl rfl rfl rfl rfl
  | socket other event =>
    obtain ⟨-, socket, -, rfl⟩ := of_socket stepped
    exact (booked port).congr rfl rfl rfl rfl rfl

/-! ## What is passed on -/

/-- A call that fails returns no data. -/
theorem data_of_failed {rx rx' : RxModule} {delivery : Delivery}
    (consumes : rx.getNextCompleteMessage = some (delivery, rx')) (failed : delivery.error ≠ codeSuccess) :
    delivery.data = none := by
  have loop {rx rx' : RxModule} {port : UInt8} {data : List UInt8} {len : UInt16} {delivery : Delivery}
      (assembles : rx.assemble port data len = some (delivery, rx')) (failed : delivery.error ≠ codeSuccess) :
      delivery.data = none := by
    fun_induction RxModule.assemble rx port data len with
    | case1 => contradiction
    | case2 =>
      obtain ⟨rfl, -⟩ := Prod.mk.inj (Option.some.inj assembles)
      rfl
    | case3 =>
      obtain ⟨rfl, -⟩ := Prod.mk.inj (Option.some.inj assembles)
      exact absurd rfl failed
    | case4 rx data len pkt inBuffer popped expected after data' len' flagged ih => exact ih assembles
  rw [RxModule.getNextCompleteMessage] at consumes
  split at consumes
  · obtain ⟨rfl, -⟩ := Prod.mk.inj (Option.some.inj consumes)
    rfl
  split at consumes
  · obtain ⟨rfl, -⟩ := Prod.mk.inj (Option.some.inj consumes)
    rfl
  split at consumes
  · contradiction
  next answer mid assembles =>
  split at consumes
  · obtain ⟨rfl, -⟩ := Prod.mk.inj (Option.some.inj consumes)
    exact loop assembles failed
  · obtain ⟨rfl, -⟩ := Prod.mk.inj (Option.some.inj consumes)
    exact loop assembles failed

/-- A step of the two instances that consumes nothing returns nothing. -/
theorem delivered_of_step {s t : Transfer} {event : TransferEvent} (other : event ≠ .consume)
    (stepped : s.step event = some t) :
    t.connection.receiver.delivered = s.connection.receiver.delivered := by
  have bySender {s t : Connection UInt8} {event : TxEvent UInt8} (steps : s.step (.sender event) = some t) :
      t.receiver.delivered = s.receiver.delivered := by
    obtain ⟨sender, -, rfl⟩ := Connection.of_sender steps
    rfl
  cases event with
  | consume => exact absurd rfl other
  | call m fresh =>
    obtain ⟨-, -, rfl | ⟨-, rfl⟩⟩ := Transfer.of_call stepped
    · rfl
    · rfl
  | enqueue port =>
    rw [Transfer.step] at stepped
    split at stepped
    · split at stepped
      · obtain rfl := Option.some.inj stepped
        rfl
      · obtain ⟨connection, steps, rfl⟩ := Option.map_eq_some_iff.mp stepped
        exact bySender steps
    · contradiction
  | write port =>
    obtain ⟨m, remaining, connection, -, steps, rfl⟩ := Transfer.of_write stepped
    split
    · exact bySender steps
    · exact bySender steps
  | iterate | setChannelAvailable =>
    obtain ⟨connection, steps, rfl⟩ := Transfer.of_onConnection rfl stepped
    exact bySender steps
  | deliver =>
    obtain ⟨connection, steps, rfl⟩ := Transfer.of_onConnection rfl stepped
    obtain ⟨frame, rest, receiver, -, receives, rfl⟩ := Connection.of_deliver steps
    obtain ⟨rx, -, rfl⟩ := RxSystem.of_receive receives
    rfl
  | openPort port =>
    obtain ⟨connection, steps, rfl⟩ := Transfer.of_onConnection rfl stepped
    obtain ⟨receiver, opens, rfl⟩ := Connection.of_openPort steps
    rw [RxSystem.of_openPort opens]
  | closePort port =>
    obtain ⟨connection, steps, rfl⟩ := Transfer.of_onConnection rfl stepped
    obtain ⟨receiver, closes, rfl⟩ := Connection.of_closePort steps
    rw [RxSystem.of_closePort closes]

/-- The data of a message to an application. -/
def dataOf : DaemonMessage → Option (List UInt8)
  | .data message => some message.data
  | .control _ => none

/-- The data to be passed on for a port. -/
def forwarded (port : UInt8) (deliveries : List Delivery) : List (List UInt8) :=
  (deliveries.filter fun delivery => delivery.error = codeSuccess ∧ delivery.port = port).map fun delivery =>
    (messageOf delivery).data

theorem forwarded_append (port : UInt8) (first second : List Delivery) :
    forwarded port (first ++ second) = forwarded port first ++ forwarded port second := by
  simp [forwarded]

/-- What has been consumed for a port with a client has been sent to the client, but for what is in hand. A call that
has failed has no data. -/
structure Passed (s : ApplicationPath) (port : UInt8) : Prop where
  sent : (s.sockets port).sent.filterMap dataOf ++ forwarded port s.consumed.toList =
    forwarded port s.transfer.connection.receiver.delivered
  failed : ∀ delivery ∈ s.consumed, delivery.error ≠ codeSuccess → delivery.data = none

/-- The message whose first write the event is. -/
def sentBy : SocketEvent → List DaemonMessage
  | .call _ message => [message]
  | .write _ => []

theorem sent_of_step {s t : ClientSocket} {event : SocketEvent} (stepped : s.step event = some t) :
    t.sent = s.sent ++ sentBy event := by
  cases event with
  | call thread message =>
    obtain ⟨first, rest, -, -, -, sent⟩ := call_cases stepped
    exact sent
  | write thread =>
    rw [sentBy, List.append_nil]
    simp only [ClientSocket.step] at stepped
    split at stepped
    · contradiction
    · split at stepped
      · contradiction
      · obtain rfl := Option.some.inj stepped
        rfl
    · split at stepped
      · contradiction
      · obtain rfl := Option.some.inj stepped
        rfl

theorem Passed.congr {s t : ApplicationPath} {port : UInt8} (passed : Passed s port)
    (sockets : t.sockets port = s.sockets port) (consumed : t.consumed = s.consumed)
    (delivered : t.transfer.connection.receiver.delivered = s.transfer.connection.receiver.delivered) :
    Passed t port := by
  refine ⟨?_, ?_⟩
  · rw [sockets, consumed, delivered]
    exact passed.sent
  · rw [consumed]
    exact passed.failed

theorem passed_of_step {s t : ApplicationPath} {event : PathEvent} {port : UInt8} (passed : Passed s port)
    (registered : s.registered port = true) (orderly : Orderly s event) (stepped : s.step event = some t) :
    Passed t port := by
  cases event with
  | read other rd =>
    obtain ⟨-, client, -, rfl⟩ := of_read stepped
    exact passed.congr rfl rfl rfl
  | call other fresh beyond =>
    obtain ⟨data, transfer, -, calls, rfl⟩ := of_call stepped
    have same := delivered_of_step (by simp) calls
    split
    · exact passed.congr rfl rfl same
    · exact passed.congr rfl rfl same
  | transfer event =>
    obtain ⟨own, transfer, steps, rfl⟩ := of_transfer stepped
    have same : transfer.connection.receiver.delivered = s.transfer.connection.receiver.delivered := by
      refine delivered_of_step ?_ steps
      rintro rfl
      contradiction
    split
    · exact passed.congr rfl rfl same
    · split
      · exact passed.congr rfl rfl same
      · exact passed.congr rfl rfl same
  | consume =>
    obtain ⟨free, transfer, steps, rfl⟩ := of_consume stepped
    obtain ⟨connection, consumes, rfl⟩ := Transfer.of_onConnection rfl steps
    obtain ⟨receiver, takes, rfl⟩ := Connection.of_consume consumes
    obtain ⟨delivery, rx, returned, rfl⟩ := RxSystem.of_consume takes
    have none : s.consumed = none := by
      simp only [ApplicationPath.consumes, Bool.and_eq_true, Option.isNone_iff_eq_none] at free
      exact free.1.1
    have sent := passed.sent
    rw [none, Option.toList_none, show forwarded port [] = [] from rfl, List.append_nil] at sent
    refine ⟨?_, ?_⟩
    · dsimp only
      rw [List.getLast?_concat, forwarded_append, sent]
      rfl
    · intro other member failed
      rw [List.getLast?_concat] at member
      obtain rfl := Option.some.inj member
      exact data_of_failed returned failed
  | passOn =>
    obtain ⟨delivery, holds, ⟨absent, rfl⟩ | ⟨client, socket, calls, rfl⟩⟩ := of_passOn stepped
    · have sent := passed.sent
      have elsewhere : delivery.port ≠ port := by
        rintro rfl
        exact absurd (registered.symm.trans absent) (by decide)
      have nothing : forwarded port s.consumed.toList = [] := by simp [forwarded, holds, elsewhere]
      rw [nothing, List.append_nil] at sent
      exact ⟨by rw [← sent]; exact List.append_nil _, nofun⟩
    · refine ⟨?_, nofun⟩
      have sent := passed.sent
      rcases Classical.em (delivery.port = port) with rfl | different
      · have alone := orderly.sockets delivery.port _ (by
          rw [onSocket, holds, Option.bind_some, if_pos ⟨client, rfl⟩]
          exact Option.mem_some_self _)
        have success : delivery.error = codeSuccess := by
          by_contra failed
          have none := passed.failed delivery holds failed
          exact alone.2 (by simp [messageOf, none])
        rw [← sent, holds]
        simp [sent_of_step calls, sentBy, forwarded, success, dataOf]
      · rw [← sent, holds]
        simp [forwarded, different, Ne.symm different]
  | socket other event =>
    obtain ⟨others, socket, steps, rfl⟩ := of_socket stepped
    rcases Classical.em (port = other) with rfl | different
    · refine ⟨?_, passed.failed⟩
      dsimp only
      rw [Function.update_self, sent_of_step steps, List.filterMap_append, ← passed.sent]
      have noData : (sentBy event).filterMap dataOf = [] := by
        cases event with
        | write => rfl
        | call thread message =>
          cases message with
          | control reply => rfl
          | data message => cases thread <;> contradiction
      rw [noData, List.append_nil]
    · exact passed.congr (Function.update_of_ne different ..) rfl rfl

/-! ## What is heard -/

/-- Nothing is queued, on its way, to be consumed or to be passed on, and nobody writes to the client of the port. -/
structure Settled (s : ApplicationPath) (port : UInt8) : Prop where
  drained : Drained s.transfer.connection
  consumed : s.consumed = none
  written : ∀ thread, (s.sockets port).writing thread = false

/-- The application hears the first of the messages acknowledged, and all of them once everything is settled. The
messages acknowledged are among those sent. -/
structure Heard (messages : List AppMessage) (s : ApplicationPath) (port : UInt8) : Prop where
  inOrder : s.heardOn port <+: s.acknowledgedOn port
  complete : Settled s port → s.heardOn port = s.acknowledgedOn port
  sent : (s.acknowledgedOn port).Sublist (messages.map AppMessage.data)

theorem zip_sublist {α β : Type} (P : β → Prop) [DecidablePred P] (l : List α) (r : List β) :
    ((l.zip r).filterMap fun (a, b) => if P b then some a else none).Sublist l := by
  induction l generalizing r with
  | nil => simp
  | cons a l ih =>
    cases r with
    | nil => simp
    | cons b r =>
      by_cases holds : P b
      · simpa [holds] using ih r
      · simpa [holds] using (ih r).cons a

/-- Of the data sent to it the application hears what is in whole frames. -/
theorem heard_of_untorn {s : ApplicationPath} {port : UInt8} (untorn : (s.sockets port).Untorn) :
    s.heardOn port <+: (s.sockets port).sent.filterMap dataOf ∧
      ((∀ thread, (s.sockets port).writing thread = false) →
        s.heardOn port = (s.sockets port).sent.filterMap dataOf) := by
  obtain ⟨whole, part, -, hears, ending⟩ := untorn
  have heard : s.heardOn port = whole.filterMap dataOf := by
    rw [heardOn, hears, List.filterMap_map]
    congr 1
    funext message
    cases message <;> rfl
  rw [heard]
  rcases ending with ⟨sent, -⟩ | ⟨thread, message, sent, writing, -⟩
  · rw [sent]
    exact ⟨List.prefix_rfl, fun _ => rfl⟩
  · rw [sent, List.filterMap_append]
    refine ⟨List.prefix_append _ _, fun idle => ?_⟩
    rw [idle thread] at writing
    contradiction

/-- What is forwarded is what has been accepted, as far as it has been returned. -/
theorem forwarded_of_endToEnd {s : ApplicationPath} {port : UInt8} (endToEnd : EndToEnd s.transfer port) :
    forwarded port s.transfer.connection.receiver.delivered <+: (s.transfer.acceptedOn port).map Submission.data ∧
      (Drained s.transfer.connection → forwarded port s.transfer.connection.receiver.delivered =
        (s.transfer.acceptedOn port).map Submission.data) := by
  have returned : forwarded port s.transfer.connection.receiver.delivered =
      ((s.transfer.connection.returnedOn port).map fun delivery => (delivery.data, delivery.len.toNat)).map
        fun (data, len) => (data.getD []).take len := by
    rw [List.map_map]
    rfl
  have accepted : (s.transfer.acceptedOn port).map Submission.data =
      ((s.transfer.acceptedOn port).map fun m => (some m.data, m.len)).map
        fun (data, len) => (data.getD []).take len := by
    rw [List.map_map]
    refine List.map_congr_left fun m _ => ?_
    have length : m.data.length = m.len := by simp [Submission.data]
    simp [← length]
  rw [returned, accepted]
  exact ⟨endToEnd.inOrder.map _, fun drained => by rw [endToEnd.complete drained]⟩

theorem booked_started {fresh : S3tpHeader} {channel options : UInt8 → UInt8} {messages : UInt8 → List AppMessage}
    {registered : UInt8 → Bool} {port : UInt8} :
    Booked (.started fresh channel options messages registered) port :=
  ⟨nofun, ⟨[], rfl, rfl⟩, rfl⟩

theorem registered_of_step {s t : ApplicationPath} {event : PathEvent} (stepped : s.step event = some t) :
    t.registered = s.registered := by
  cases event with
  | read other rd =>
    obtain ⟨-, client, -, rfl⟩ := of_read stepped
    rfl
  | call other fresh beyond =>
    obtain ⟨data, transfer, -, -, rfl⟩ := of_call stepped
    split <;> rfl
  | transfer event =>
    obtain ⟨-, transfer, -, rfl⟩ := of_transfer stepped
    split
    · rfl
    · split <;> rfl
  | consume =>
    obtain ⟨-, transfer, -, rfl⟩ := of_consume stepped
    rfl
  | passOn =>
    obtain ⟨delivery, -, ⟨-, rfl⟩ | ⟨-, socket, -, rfl⟩⟩ := of_passOn stepped
    · rfl
    · rfl
  | socket other event =>
    obtain ⟨-, socket, -, rfl⟩ := of_socket stepped
    rfl

/-- What is enough for an orderly step, and can be computed. -/
def Checked (s : ApplicationPath) : PathEvent → Prop
  | .read port rd => (s.clients port).place = .length → rd.count = S3tpIntroRedundant.size
  | .call port _ _ => ∀ data ∈ s.pending port, 1 ≤ data.length ∧ data.length ≤ 2 * lenS3tpPdu
  | .transfer (.call ..) => False
  | .transfer (.enqueue port) => s.transfer.connection.sender.tx.portSequence port ≠ 255
  | .transfer (.write port) => ∀ packet ∈ s.transfer.connection.sender.pending port,
      (s.transfer.connection.sender.tx.outBuffer.held packet.getPort).length < 256
  | .transfer .deliver => ∀ frame ∈ s.transfer.connection.inFlight.head?,
      s.transfer.connection.receiver.rx.isPortOpen frame.getPort = true ∧
      (s.transfer.connection.receiver.rx.inBuffer.held frame.getPort).length < 256 ∧
      s.transfer.connection.receiver.rx.inBuffer.windowExceeded s.transfer.connection.receiver.rx.policy frame = false ∧
      (s.transfer.connection.receiver.rx.receivingWindow + 1).toNat < 128
  | .passOn => ∀ delivery ∈ s.consumed, (messageOf delivery).data ≠ [] ∧
      ∀ thread ∈ [SocketThread.assembly, .client, .link, .transmit], (s.sockets delivery.port).writing thread = false
  | .socket _ (.call ..) => False
  | _ => True

instance (s : ApplicationPath) (event : PathEvent) : Decidable (Checked s event) := by
  unfold Checked
  split <;> infer_instance

theorem orderly_of_checked {s : ApplicationPath} {event : PathEvent} (checked : Checked s event) :
    Orderly s event := by
  cases event with
  | read port rd =>
    refine ⟨nofun, fun other own member => ?_, nofun⟩
    rw [onClient] at member
    split at member
    · next same =>
      obtain rfl := Option.some.inj member
      rw [← same]
      exact checked
    · contradiction
  | call port fresh beyond =>
    refine ⟨fun own member => ?_, nofun, nofun⟩
    obtain ⟨data, pending, rfl⟩ := Option.map_eq_some_iff.mp member
    obtain ⟨positive, short⟩ := checked data pending
    have bound : 2 * lenS3tpPdu ≤ maxPduLength := by decide
    exact ⟨⟨positive, short.trans bound⟩, short, trivial⟩
  | transfer event =>
    refine ⟨fun own member => ?_, nofun, nofun⟩
    obtain rfl := Option.some.inj member
    cases event with
    | call => contradiction
    | enqueue port => exact ⟨trivial, trivial, fun _ _ _ _ _ => checked⟩
    | write port => exact ⟨trivial, trivial, checked⟩
    | deliver =>
      refine ⟨fun frame first => (checked frame first).1, trivial, fun frame first => ?_⟩
      obtain ⟨-, short, inside, room⟩ := checked frame first
      exact ⟨short, inside, not_flushes_of_lt room⟩
    | iterate | setChannelAvailable | openPort | closePort | consume => exact ⟨trivial, trivial, trivial⟩
  | consume =>
    refine ⟨fun own member => ?_, nofun, nofun⟩
    obtain rfl := Option.some.inj member
    exact ⟨trivial, trivial, trivial⟩
  | passOn =>
    refine ⟨nofun, nofun, fun port own member => ?_⟩
    obtain ⟨delivery, holds, call⟩ := Option.bind_eq_some_iff.mp member
    obtain ⟨some, idle⟩ := checked delivery holds
    split at call
    · next here =>
      obtain rfl := Option.some.inj call
      rw [← here.2]
      refine ⟨fun thread => idle thread ?_, some⟩
      cases thread <;> simp
    · contradiction
  | socket port event =>
    refine ⟨nofun, nofun, fun other own member => ?_⟩
    cases event with
    | call => contradiction
    | write thread =>
      rw [onSocket] at member
      split at member
      · obtain rfl := Option.some.inj member
        trivial
      · contradiction

/-- The message is read, sent in one packet, received, consumed and passed on. -/
def oneMessage : List PathEvent :=
  [.transfer (.openPort 5), .read 5 ⟨1, []⟩, .read 5 ⟨24, []⟩, .read 5 ⟨1, []⟩,
    .call 5 (fun _ => default) (fun _ => 0), .transfer (.enqueue 5), .transfer (.write 5),
    .transfer (.iterate ⟨true, false⟩), .transfer .deliver, .consume, .passOn, .socket 5 (.write .assembly),
    .socket 5 (.write .assembly)]

end S3tp.Soundness.ApplicationPath
