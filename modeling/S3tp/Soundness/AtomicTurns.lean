import S3tp.Soundness.GlobalOrder
import S3tp.Soundness.TransmitOrder
import S3tp.Soundness.TxMutexes

/-! # A turn of the transmit loop is one event

`TxSystem` has a turn of the loop as one event, and the two halves of a call as two. `TxThreads` has each step at a
mutex. Whatever the threads do, some run of `TxSystem` does the same: a turn happens there when the thread has taken
its packet or found none to take, and callers that write into the buffer during the turn have written before it.
-/

namespace S3tp.Soundness.AtomicTurns

open Machine Model.Core Model.Concurrent

variable {ι : Type*}

/-! ## Writing and the sync block -/

theorem syncTurn_outBuffer (tx : TxModule) (outBuffer : Buffer) (status : LinkStatus) :
    TxModule.syncTurn { tx with outBuffer } status =
      ({ (tx.syncTurn status).1 with outBuffer }, (tx.syncTurn status).2) := by
  simp only [TxModule.syncTurn, TxModule.isChannelAvailable]
  split
  · split <;> rfl
  · rfl

/-- A write asks the module for the numbers it has taken from the ports, and for nothing else. -/
theorem writePacket_congr {tx tx' : TxModule} (buffer : tx'.outBuffer = tx.outBuffer)
    (taken : tx'.toConsumePortSeq = tx.toConsumePortSeq) (packet : S3tpPacket) :
    tx'.writePacket packet = { tx' with outBuffer := (tx.writePacket packet).outBuffer } := by
  have compare : tx'.policy.comparePriority = tx.policy.comparePriority := by
    change comparePortSequence tx'.toConsumePortSeq = comparePortSequence tx.toConsumePortSeq
    rw [taken]
  have exceeded : tx.outBuffer.windowExceeded tx'.policy packet = tx.outBuffer.windowExceeded tx.policy packet := by
    simp [Buffer.windowExceeded, TxModule.policy]
  simp only [TxModule.writePacket, buffer, Buffer.write_congr exceeded compare]

/-- It makes no difference whether a packet is written before the sync block or after it. -/
theorem syncTurn_writePacket (tx : TxModule) (packet : S3tpPacket) (status : LinkStatus) :
    (tx.writePacket packet).syncTurn status = ((tx.syncTurn status).1.writePacket packet, (tx.syncTurn status).2) := by
  obtain ⟨channelBlacklist, scheduledSync, syncPacket, after⟩ := tx.syncTurn_frame status
  have same : (tx.syncTurn status).1.writePacket packet =
      { (tx.syncTurn status).1 with outBuffer := (tx.writePacket packet).outBuffer } :=
    writePacket_congr (by rw [after]) (by rw [after]) packet
  rw [same]
  exact syncTurn_outBuffer tx _ status

/-- A buffer that holds packets goes on holding some. -/
theorem packetsAvailable_writePacket (tx : TxModule) (packet : S3tpPacket) :
    (tx.writePacket packet).outBuffer.packetsAvailable = true := by
  have counted : ((tx.writePacket packet).outBuffer.packetCounter packet.getPort).isSome := by
    cases exceeded : tx.outBuffer.windowExceeded tx.policy packet <;>
      simp [TxModule.writePacket, Buffer.write, exceeded, PriorityQueue.push_eq, Buffer.clearQueueForPort]
  rw [Buffer.packetsAvailable, ByteMap.isEmpty_eq_false_iff.mpr ⟨_, counted⟩]
  rfl

/-! ## How the threads are seen -/

/-- The packet a caller has stamped and not written yet. -/
@[simp] def inHand : CallerPlace → Option S3tpPacket
  | .unlocking packet | .bufferLocking packet | .writing packet => some packet
  | _ => none

/-- The thread is outside the loop, or is done with the turn, or has not found the link and a channel in it yet. -/
@[simp] def Between : TxPlace → Prop
  | .locking | .turning | .waiting | .blocked | .woken | .finished => True
  | _ => False

/-- Where a turn looks for packets. -/
@[simp] def LooksAt : TxPlace → Prop
  | .testing _ | .fetchLocking | .fetching | .fetchUnlocking none => True
  | _ => False

/-- What the thread knows of the buffer by then. -/
@[simp] def Found : TxPlace → TxModule → Prop
  | .testing (.unlock result), tx => tx.outBuffer.packetsAvailable = result
  | .fetchLocking, tx | .fetching, tx => tx.outBuffer.packetsAvailable = true
  | .fetchUnlocking none, tx => tx.outBuffer.packetsAvailable = true ∧ tx.nextPacket = none
  | _, _ => True

/-- The turn has begun: the link is up, there is a channel, and the sync block is over. -/
structure Begun (s : TxThreads ι) (a : TxSystem ι) (status : LinkStatus) : Prop where
  active : a.tx.active = true
  up : status.up = true
  channels : a.tx.channelsAvailable = true
  link : s.link = a.link ++ (a.tx.syncTurn status).2

/-- The event is not a turn of the loop. -/
@[simp] def isCall : TxEvent ι → Bool
  | .iterate _ => false
  | _ => true

/-- The loop of the system stands where the transmit thread has completed its last turn. -/
inductive Shown (s : TxThreads ι) (a : TxSystem ι) : Prop
  | between (here : Between s.place) (tx : s.tx = a.tx) (link : s.link = a.link)
  | looking {status : LinkStatus} (begun : Begun s a status) (here : LooksAt s.place) (found : Found s.place s.tx)
      (tx : ∃ state, s.tx = { (a.tx.syncTurn status).1 with state })
  | taken {status : LinkStatus} {packet : S3tpPacket} {outBuffer : Buffer} (begun : Begun s a status)
      (here : s.place = .fetchUnlocking (some packet))
      (available : (a.tx.syncTurn status).1.outBuffer.packetsAvailable = true)
      (next : (a.tx.syncTurn status).1.nextPacket = some (packet, outBuffer))
      (tx : ∃ state, s.tx = { (a.tx.syncTurn status).1 with state, outBuffer })
  | sends {packet : S3tpPacket} (here : s.place = .releasing packet ∨ s.place = .sending packet) (tx : s.tx = a.tx)
      (link : a.link = s.link ++ [packet])

/-- The state of the system that the threads are seen as. -/
structure SeenAs (s : TxThreads ι) (a : TxSystem ι) : Prop where
  owned : s.Owned
  shown : Shown s a
  pending : ∀ c, a.pending c = inHand (s.caller c)

theorem seenAs_started (fresh : S3tpHeader) : SeenAs (TxThreads.started (ι := ι) fresh) (TxSystem.started fresh) where
  owned := TxThreads.owned_started fresh
  shown := .between trivial rfl rfl
  pending _ := rfl

variable {s t : TxThreads ι} {a : TxSystem ι}

theorem Shown.isBetween (shown : Shown s a) (here : Between s.place) : s.tx = a.tx ∧ s.link = a.link := by
  cases shown with
  | between _ tx link => exact ⟨tx, link⟩
  | looking _ inside => cases place : s.place <;> simp [place] at here inside
  | taken _ inside => simp [inside] at here
  | sends inside => rcases inside with inside | inside <;> simp [inside] at here

theorem Shown.isLooking {place : TxPlace} (shown : Shown s a) (here : s.place = place) (inside : LooksAt place) :
    ∃ status, Begun s a status ∧ Found place s.tx ∧ ∃ state, s.tx = { (a.tx.syncTurn status).1 with state } := by
  subst here
  cases shown with
  | between here => cases place : s.place <;> simp [place] at here inside
  | looking begun _ found tx => exact ⟨_, begun, found, tx⟩
  | taken _ here => simp [here] at inside
  | sends here => rcases here with here | here <;> simp [here] at inside

theorem Shown.isTaken {packet : S3tpPacket} (shown : Shown s a) (here : s.place = .fetchUnlocking (some packet)) :
    ∃ status outBuffer, Begun s a status ∧ (a.tx.syncTurn status).1.outBuffer.packetsAvailable = true ∧
      (a.tx.syncTurn status).1.nextPacket = some (packet, outBuffer) ∧
      ∃ state, s.tx = { (a.tx.syncTurn status).1 with state, outBuffer } := by
  cases shown with
  | between inside => simp [here] at inside
  | looking _ inside => simp [here] at inside
  | taken begun here' available next tx =>
    obtain rfl : _ = packet := by simpa using here'.symm.trans here
    exact ⟨_, _, begun, available, next, tx⟩
  | sends inside => simp [here] at inside

theorem Shown.isSending {packet : S3tpPacket} (shown : Shown s a)
    (here : s.place = .releasing packet ∨ s.place = .sending packet) : s.tx = a.tx ∧ a.link = s.link ++ [packet] := by
  cases shown with
  | between inside => rcases here with here | here <;> simp [here] at inside
  | looking _ inside => rcases here with here | here <;> simp [here] at inside
  | taken _ inside => rcases here with here | here <;> simp [here] at inside
  | sends here' tx link => rcases here with here | here <;> rcases here' with here' | here' <;> simp_all

/-- What the transmit thread does at the head of its loop. -/
theorem of_turning {link : LinkStatus} (here : s.place = .turning) (stepped : s.txStep link = some t) :
    (t = { s.unlockTx with place := .finished }) ∨
    (s.tx.active = true ∧ (link.up = false ∨ s.tx.channelsAvailable = false) ∧
      t = { s with tx := { s.tx with state := .blocked }, place := .waiting }) ∨
    (s.tx.active = true ∧ link.up = true ∧ s.tx.channelsAvailable = true ∧
      t = { s with
        tx := (s.tx.syncTurn link).1, link := s.link ++ (s.tx.syncTurn link).2, place := .testing .lock }) := by
  simp only [TxThreads.txStep, here] at stepped
  split at stepped
  · exact .inl (Option.some.inj stepped).symm
  · next active =>
    have active : s.tx.active = true := by simpa using active
    split at stepped
    · next down => exact .inr (.inl ⟨active, by simpa using down, (Option.some.inj stepped).symm⟩)
    · next up =>
      obtain ⟨up, channels⟩ : link.up = true ∧ s.tx.channelsAvailable = true := by simpa using up
      exact .inr (.inr ⟨active, up, channels, (Option.some.inj stepped).symm⟩)

/-! ## The transmit thread -/

section Turn

variable {status : LinkStatus} {meets : TxSystem ι → TxEvent ι → Prop}

theorem Begun.iterate (begun : Begun s a status) : a.tx.iterate status =
    ((a.tx.syncTurn status).1.dataTurn.1, (a.tx.syncTurn status).2 ++ (a.tx.syncTurn status).1.dataTurn.2) := by
  simp [TxModule.iterate, begun.up, begun.channels]

theorem Begun.congr (begun : Begun s a status) (link : t.link = s.link) : Begun t a status :=
  { begun with link := link.trans begun.link }

variable [DecidableEq ι]

/-- The turn is over, and the system takes it. -/
theorem Begun.step (begun : Begun s a status) (turns : ∀ status, meets a (.iterate status)) {tx : TxModule}
    {sent : List S3tpPacket} (data : (a.tx.syncTurn status).1.dataTurn = (tx, sent)) :
    Run TxSystem.step meets a [.iterate status] { a with tx, link := s.link ++ sent } := by
  refine .cons (turns status) ?_ (.nil _)
  rw [TxSystem.step_iterate begun.active, begun.iterate, data, begun.link, List.append_assoc]

/-- What the transmit thread does is a turn, or nothing yet. -/
theorem shown_txStep {link : LinkStatus} (turns : ∀ status, meets a (.iterate status)) (shown : Shown s a)
    (stepped : s.txStep link = some t) : ∃ events a', Run TxSystem.step meets a events a' ∧
      events.filter isCall = [] ∧ Shown t a' ∧ a'.pending = a.pending ∧ a'.enqueued = a.enqueued := by
  have still (shown : Shown t a) : ∃ events a', Run TxSystem.step meets a events a' ∧
      events.filter isCall = [] ∧ Shown t a' ∧ a'.pending = a.pending ∧ a'.enqueued = a.enqueued :=
    ⟨[], a, .nil a, rfl, shown, rfl, rfl⟩
  rcases Classical.em (s.place = .turning) with here | elsewhere
  · obtain ⟨tx, same⟩ := shown.isBetween (by simp [here])
    rcases of_turning here stepped with rfl | ⟨active, down, rfl⟩ | ⟨active, up, channels, rfl⟩
    · exact still (.between trivial tx same)
    · have idle : a.tx.iterate link = ({ a.tx with state := .blocked }, []) := by
        rcases down with down | down <;> simp [TxModule.iterate, down, ← tx]
      refine ⟨[.iterate link], _, .cons (turns link) (TxSystem.step_iterate (tx ▸ active) link) (.nil _), rfl, ?_, rfl,
        rfl⟩
      exact .between trivial (by rw [idle, tx]) (by simp [idle, same])
    · exact still (.looking ⟨tx ▸ active, up, tx ▸ channels, by rw [same, tx]⟩ trivial trivial ⟨_, by rw [tx]⟩)
  · cases TxThreads.of_txStep stepped with
    | ends here | givesUp here | turns here => exact absurd here elsewhere
    | locks here free =>
      obtain ⟨tx, same⟩ := shown.isBetween (by rcases here with here | here <;> simp [here])
      exact still (.between trivial tx same)
    | locksToTest here free =>
      obtain ⟨status, begun, -, tx⟩ := shown.isLooking here trivial
      exact still (.looking (begun.congr rfl) trivial trivial tx)
    | reads here =>
      obtain ⟨status, begun, -, tx⟩ := shown.isLooking here trivial
      exact still (.looking (begun.congr rfl) trivial rfl tx)
    | runs here =>
      obtain ⟨status, begun, available, state, tx⟩ := shown.isLooking here trivial
      exact still (.looking (begun.congr rfl) trivial available ⟨.running, by rw [tx]⟩)
    | waits here =>
      obtain ⟨status, begun, empty, state, tx⟩ := shown.isLooking here trivial
      simp only [Found, tx] at empty
      have data : (a.tx.syncTurn status).1.dataTurn = ({ (a.tx.syncTurn status).1 with state := .waiting }, []) := by
        rw [TxModule.dataTurn_eq, if_pos (by simpa using empty)]
      exact ⟨_, _, begun.step turns data, rfl, .between trivial (by rw [tx]) (List.append_nil _).symm, rfl, rfl⟩
    | sleeps here =>
      obtain ⟨tx, same⟩ := shown.isBetween (by simp [here])
      exact still (.between trivial tx same)
    | locksToFetch here free =>
      obtain ⟨status, begun, available, tx⟩ := shown.isLooking here trivial
      exact still (.looking (begun.congr rfl) trivial available tx)
    | fetchesNothing here stuck =>
      obtain ⟨status, begun, available, tx⟩ := shown.isLooking here trivial
      exact still (.looking (begun.congr rfl) trivial ⟨available, stuck⟩ tx)
    | fetches here taken =>
      obtain ⟨status, begun, available, state, tx⟩ := shown.isLooking here trivial
      simp only [Found, tx] at available taken
      exact still (.taken (begun.congr rfl) rfl available taken ⟨state, by rw [tx]⟩)
    | blocks here =>
      obtain ⟨status, begun, ⟨available, stuck⟩, state, tx⟩ := shown.isLooking here trivial
      simp only [tx] at available stuck
      have data : (a.tx.syncTurn status).1.dataTurn = ({ (a.tx.syncTurn status).1 with state := .blocked }, []) := by
        have stuck : (a.tx.syncTurn status).1.nextPacket = none := stuck
        rw [TxModule.dataTurn_eq, if_neg (by simp [available]), stuck]
      exact ⟨_, _, begun.step turns data, rfl, .between trivial (by rw [tx]) (List.append_nil _).symm, rfl, rfl⟩
    | @stamps packet here =>
      obtain ⟨status, outBuffer, begun, available, next, state, tx⟩ := shown.isTaken here
      have data : (a.tx.syncTurn status).1.dataTurn = ((a.tx.syncTurn status).1.afterTaking packet outBuffer,
          [packet.setGlobalSequence (a.tx.syncTurn status).1.globalSeqNum]) := by
        rw [TxModule.dataTurn_eq, if_neg (by simp [available]), next]
      exact ⟨_, _, begun.step turns data, rfl, .sends (.inl (by rw [tx])) (by rw [tx]; rfl) rfl, rfl, rfl⟩
    | @releases packet here =>
      obtain ⟨tx, same⟩ := shown.isSending (.inl here)
      exact still (.sends (.inr rfl) tx same)
    | @sends packet here =>
      obtain ⟨tx, same⟩ := shown.isSending (.inr here)
      exact still (.between trivial tx same.symm)

end Turn

/-! ## Callers and the rest -/

/-- A signal moves a blocked thread only. -/
theorem woken_of_signal (place : t.place = s.place ∨ t.place = s.signal.place) :
    t.place = s.place ∨ (s.place = .blocked ∧ t.place = .woken) := by
  rcases place with same | signalled
  · exact .inl same
  · rw [signalled]
    cases here : s.place <;> simp [TxThreads.signal, here]

/-- Nothing has changed, but that the transmit thread may have been woken. -/
theorem Shown.congr {a' : TxSystem ι} (shown : Shown s a) (place : t.place = s.place ∨ t.place = s.signal.place)
    (tx : t.tx = s.tx) (link : t.link = s.link) (tx' : a'.tx = a.tx) (link' : a'.link = a.link) : Shown t a' := by
  have woken := woken_of_signal place
  have begins {status : LinkStatus} (begun : Begun s a status) : Begun t a' status :=
    { active := tx' ▸ begun.active
      up := begun.up
      channels := tx' ▸ begun.channels
      link := by rw [link, begun.link, link', tx'] }
  cases shown with
  | between here same same' =>
    refine .between ?_ (by rw [tx, same, tx']) (by rw [link, same', link'])
    rcases woken with place | ⟨-, place⟩ <;> simp_all
  | looking begun here found same =>
    obtain place := woken.resolve_right fun asleep => by simp [asleep.1] at here
    exact .looking (begins begun) (place ▸ here) (by rw [place, tx]; exact found) (by rw [tx, tx']; exact same)
  | taken begun here available next same =>
    obtain place := woken.resolve_right fun asleep => by simp [asleep.1] at here
    exact .taken (begins begun) (place.trans here) (by rw [tx']; exact available) (by rw [tx']; exact next)
      (by rw [tx, tx']; exact same)
  | sends here same same' =>
    obtain place := woken.resolve_right fun asleep => by simp [asleep.1] at here
    exact .sends (by rw [place]; exact here) (by rw [tx, same, tx']) (by rw [link', same', link])

/-- Outside `tx_mutex` the transmit thread has nothing half done. -/
theorem Shown.tx_eq (shown : Shown s a) (outside : ¬ s.place.Inside) : s.tx = a.tx := by
  cases shown with
  | between _ tx => exact tx
  | looking _ here => cases place : s.place <;> simp_all
  | taken _ here => simp [here] at outside
  | sends _ tx => exact tx

/-- With the transmit thread outside `tx_mutex`, what is done to the module is done to that of the system. -/
theorem Shown.changed {a' : TxSystem ι} (shown : Shown s a) (outside : ¬ s.place.Inside)
    (place : t.place = s.place ∨ t.place = s.signal.place) (tx : t.tx = a'.tx) (link : t.link = s.link)
    (link' : a'.link = a.link) : Shown t a' := by
  have woken := woken_of_signal place
  cases shown with
  | between here _ same =>
    refine .between ?_ tx (by rw [link, same, link'])
    rcases woken with place | ⟨-, place⟩ <;> simp_all
  | looking _ here => cases place : s.place <;> simp_all
  | taken _ here => simp [here] at outside
  | sends here _ same =>
    obtain place := woken.resolve_right fun asleep => by simp [asleep.1] at here
    exact .sends (by rw [place]; exact here) tx (by rw [link', same, link])

/-- A write during the turn is a write before it. -/
theorem Shown.write (shown : Shown s a) (owned : s.Owned) {c : ι} {packet : S3tpPacket}
    (here : s.caller c = .writing packet) {a' : TxSystem ι} (tx : a'.tx = a.tx.writePacket packet)
    (link : a'.link = a.link) (place : t.place = s.place)
    (tx' : t.tx = s.tx.writePacket packet) (link' : t.link = s.link) : Shown t a' := by
  have apart (within : s.place.InsideBuffer) : False := by
    have other := owned.buffer (.caller c) (by simp [TxThreads.InsideBuffer, here])
    have own := owned.buffer .tx within
    simp [own] at other
  cases shown with
  | between inside same same' =>
    exact .between (place ▸ inside) (by rw [tx', same, tx]) (by rw [link', same', link])
  | @looking status begun inside found same =>
    obtain ⟨state, same⟩ := same
    have commutes := syncTurn_writePacket a.tx packet status
    have begun' : Begun t a' status :=
      { active := by rw [tx]; exact begun.active
        up := begun.up
        channels := by rw [tx]; exact begun.channels
        link := by rw [link', begun.link, link, tx, commutes] }
    refine .looking begun' (place ▸ inside) ?_ ⟨state, ?_⟩
    · rw [place, tx']
      cases at_ : s.place with
      | testing reading =>
        cases reading with
        | unlock => exact (apart (by simp [at_])).elim
        | lock | read => trivial
      | fetchLocking => exact packetsAvailable_writePacket s.tx packet
      | fetching | fetchUnlocking => exact (apart (by simp [at_])).elim
      | _ => simp [at_] at inside
    · rw [tx', same, tx, commutes]
      rfl
  | taken _ inside => exact (apart (by simp [inside])).elim
  | sends inside same same' =>
    exact .sends (by rw [place]; exact inside) (by rw [tx', same, tx]) (by rw [link, same', link'])

/-- What the step is for the system, unless it is one of the transmit thread. -/
@[simp] def calls (s : TxThreads ι) : TxThreadsEvent ι → List (TxEvent ι)
  | .caller c =>
    match s.caller c with
    | .stamping packet fragNo more => [.enqueue c packet fragNo more]
    | .writing _ => [.write c]
    | _ => []
  | .setChannelAvailable channel available => [.setChannelAvailable channel available]
  | .scheduleSync syncId => [.scheduleSync syncId]
  | .stopRoutine => [.stopRoutine]
  | .tx _ | .enqueuePacket .. | .wake | .notifyLinkAvailability => []

/-- The packet that the step stamps. -/
@[simp] def stamps (s : TxThreads ι) : TxThreadsEvent ι → List S3tpPacket
  | .caller c =>
    match s.caller c with
    | .stamping packet fragNo more => ((s.tx.stampPacket packet fragNo more).map Prod.fst).toList
    | _ => []
  | _ => []

/-- Whoever is inside `tx_mutex`, the transmit thread is not. -/
theorem outside_of_inside (owned : s.Owned) {c : ι} (inside : (s.caller c).Inside) : ¬ s.place.Inside := by
  intro within
  have other := owned.tx (.caller c) inside
  rw [owned.tx .tx within] at other
  cases other

theorem outside_of_free (owned : s.Owned) (free : s.txMutex = none) : ¬ s.place.Inside := by
  intro within
  have held := owned.tx .tx within
  rw [free] at held
  cases held

theorem caller_txStep {link : LinkStatus} (stepped : s.txStep link = some t) : t.caller = s.caller := by
  cases TxThreads.of_txStep stepped <;> rfl

section Callers

variable [DecidableEq ι] {c : ι}

theorem pending_update (pending : ∀ d, a.pending d = inHand (s.caller d)) {now : Option S3tpPacket}
    {place : CallerPlace} (same : now = inHand place) (d : ι) :
    Function.update a.pending c now d = inHand (Function.update s.caller c place d) := by
  rcases Classical.em (d = c) with rfl | other
  · rw [Function.update_self, Function.update_self, same]
  · rw [Function.update_of_ne other, Function.update_of_ne other, pending d]

/-- A caller has taken or released a mutex, and nothing else. -/
theorem pending_callerAt (pending : ∀ d, a.pending d = inHand (s.caller d)) {place : CallerPlace}
    (same : inHand (s.caller c) = inHand place) (d : ι) :
    a.pending d = inHand (Function.update s.caller c place d) := by
  have updated := pending_update (c := c) pending ((pending c).trans same) d
  rwa [Function.update_eq_self] at updated

/-- The system goes on as the threads do, with these calls and these packets stamped. -/
def GoesOn (meets : TxSystem ι → TxEvent ι → Prop) (a : TxSystem ι) (t : TxThreads ι) (calls : List (TxEvent ι))
    (stamped : List S3tpPacket) : Prop :=
  ∃ events a', Run TxSystem.step meets a events a' ∧ events.filter isCall = calls ∧ SeenAs t a' ∧
    a'.enqueued = a.enqueued ++ stamped

variable {meets : TxSystem ι → TxEvent ι → Prop}

theorem GoesOn.still (seen : SeenAs t a) : GoesOn meets a t [] [] :=
  ⟨[], a, .nil a, rfl, seen, (List.append_nil _).symm⟩

theorem GoesOn.call {event : TxEvent ι} {a' : TxSystem ι} {stamped : List S3tpPacket} (called : isCall event = true)
    (met : ∀ call ∈ [event], meets a call) (stepped : a.step event = some a') (seen : SeenAs t a')
    (enqueued : a'.enqueued = a.enqueued ++ stamped) : GoesOn meets a t [event] stamped :=
  ⟨[event], a', .cons (met event (List.mem_singleton_self event)) stepped (.nil a'),
    by rw [List.filter_cons_of_pos called, List.filter_nil], seen, enqueued⟩

/-- What a step of a caller is for the system. -/
theorem SeenAs.callerStep (seen : SeenAs s a) (met : ∀ call ∈ calls s (.caller c), meets a call)
    (stepped : s.callerStep c = some t) : GoesOn meets a t (calls s (.caller c)) (stamps s (.caller c)) := by
  have owned := seen.owned.callerStep stepped
  cases TxThreads.of_callerStep stepped with
  | locks here | leaves here | unlocks here | locksBuffer here | unlocksBuffer here =>
    simp only [calls, stamps, here]
    exact .still ⟨owned, seen.shown.congr (.inl rfl) rfl rfl rfl rfl, pending_callerAt seen.pending (by simp [here])⟩
  | signals here =>
    simp only [calls, stamps, here]
    exact .still ⟨owned, seen.shown.congr (.inr rfl) rfl rfl rfl rfl, pending_callerAt seen.pending (by simp [here])⟩
  | isRefused here refused =>
    have outside := outside_of_inside seen.owned (c := c) (by simp [here])
    have idle : a.pending c = none := by simp [seen.pending, here]
    rw [seen.shown.tx_eq outside] at refused
    have inactive : a.tx.active = false := by
      cases active : a.tx.active <;> simp [TxModule.stampPacket, active] at refused ⊢
    simp only [calls, stamps, here, seen.shown.tx_eq outside, refused] at met ⊢
    refine .call rfl met (TxSystem.step_enqueue_inactive inactive idle ..) ⟨owned, ?_, ?_⟩ (List.append_nil _).symm
    · exact seen.shown.congr (.inl rfl) rfl rfl rfl rfl
    · exact pending_callerAt seen.pending (by simp [here])
  | stamps here stamps =>
    have outside := outside_of_inside seen.owned (c := c) (by simp [here])
    have idle : a.pending c = none := by simp [seen.pending, here]
    rw [seen.shown.tx_eq outside] at stamps
    obtain ⟨active, rfl, rfl⟩ := TxModule.stampPacket_eq_some_iff.mp stamps
    simp only [calls, AtomicTurns.stamps, here, seen.shown.tx_eq outside, stamps] at met ⊢
    refine .call rfl met (TxSystem.step_enqueue active idle ..) ⟨owned, ?_, pending_update seen.pending rfl⟩ rfl
    exact seen.shown.changed outside (.inl rfl) rfl rfl rfl
  | writes here =>
    have pending := seen.pending c
    simp only [here, inHand] at pending
    simp only [calls, stamps, here] at met ⊢
    refine .call rfl met (TxSystem.step_write pending) ⟨owned, ?_, pending_update seen.pending rfl⟩
      (List.append_nil _).symm
    exact seen.shown.write seen.owned here rfl rfl rfl rfl rfl

/-- What a step of the threads is for the system. -/
theorem SeenAs.step {event : TxThreadsEvent ι} (seen : SeenAs s a) (turns : ∀ status, meets a (.iterate status))
    (met : ∀ call ∈ calls s event, meets a call) (stepped : s.step event = some t) :
    GoesOn meets a t (calls s event) (stamps s event) := by
  have owned := seen.owned.step stepped
  cases TxThreads.of_step stepped with
  | tx =>
    obtain ⟨events, a', run, noCall, shown, pending, enqueued⟩ := shown_txStep turns seen.shown stepped
    refine ⟨events, a', run, noCall, ⟨owned, shown, ?_⟩, by simp [enqueued]⟩
    rw [pending, caller_txStep stepped]
    exact seen.pending
  | caller => exact seen.callerStep met stepped
  | enqueuePacket here =>
    exact .still ⟨owned, seen.shown.congr (.inl rfl) rfl rfl rfl rfl, pending_callerAt seen.pending (by simp [here])⟩
  | wake here =>
    have woken : TxPlace.woken = s.signal.place := by simp [TxThreads.signal, here]
    exact .still ⟨owned, seen.shown.congr (.inr woken) rfl rfl rfl rfl, seen.pending⟩
  | notifyLinkAvailability => exact .still ⟨owned, seen.shown.congr (.inr rfl) rfl rfl rfl rfl, seen.pending⟩
  | opens free | scheduleSync free | stopRoutine free =>
    have outside := outside_of_free seen.owned free
    refine .call rfl met rfl ⟨owned, ?_, seen.pending⟩ (List.append_nil _).symm
    exact seen.shown.changed outside (.inr rfl) (by rw [← seen.shown.tx_eq outside]) rfl rfl
  | closes free =>
    have outside := outside_of_free seen.owned free
    refine .call rfl met rfl ⟨owned, ?_, seen.pending⟩ (List.append_nil _).symm
    exact seen.shown.changed outside (.inl rfl) (by rw [← seen.shown.tx_eq outside]) rfl rfl

/-- The frames handed to the link are the first of those that the system hands to it when the turn is over. -/
theorem SeenAs.exists_ahead (seen : SeenAs s a) (turns : ∀ status, meets a (.iterate status)) :
    ∃ events a', Run TxSystem.step meets a events a' ∧ a'.enqueued = a.enqueued ∧ s.link <+: a'.link := by
  have ahead {status : LinkStatus} (begun : Begun s a status) : ∃ events a', Run TxSystem.step meets a events a' ∧
      a'.enqueued = a.enqueued ∧ s.link <+: a'.link :=
    ⟨_, _, begun.step turns rfl, rfl, List.prefix_append ..⟩
  cases seen.shown with
  | between _ _ same => exact ⟨[], a, .nil a, rfl, by simp [same]⟩
  | looking begun => exact ahead begun
  | taken begun => exact ahead begun
  | sends _ _ same => exact ⟨[], a, .nil a, rfl, by simp [same]⟩

/-! ## Packets on their way to be stamped -/

/-- What is known of a packet that a caller has handed over, until it is stamped. -/
@[simp] def Handed (good : S3tpPacket → Prop) : CallerPlace → Prop
  | .locking packet _ _ | .stamping packet _ _ => good packet
  | _ => True

theorem handed_step {good : ι → S3tpPacket → Prop} {event : TxThreadsEvent ι}
    (handed : ∀ c, Handed (good c) (s.caller c))
    (met : ∀ c packet fragNo more, event = .enqueuePacket c packet fragNo more → good c packet)
    (stepped : s.step event = some t) (c : ι) : Handed (good c) (t.caller c) := by
  have moves {mid : TxThreads ι} {d : ι} {place : CallerPlace} (callers : mid.caller = s.caller)
      (handed' : Handed (good d) place) : Handed (good c) ((mid.callerAt d place).caller c) := by
    simp only [TxThreads.callerAt, callers]
    rcases Classical.em (c = d) with rfl | other
    · rwa [Function.update_self]
    · rw [Function.update_of_ne other]
      exact handed c
  cases TxThreads.of_step stepped with
  | tx steps =>
    rw [caller_txStep stepped]
    exact handed c
  | @caller d _ steps =>
    cases steps with
    | locks here =>
      have handed' := handed d
      rw [here] at handed'
      exact moves rfl handed'
    | isRefused | stamps | leaves | unlocks | locksBuffer | writes | unlocksBuffer | signals =>
      exact moves rfl trivial
  | enqueuePacket => exact moves rfl (met _ _ _ _ rfl)
  | wake | opens | closes | scheduleSync | notifyLinkAvailability | stopRoutine => exact handed c

/-- The threads and the packets stamped so far. -/
abbrev stamping : TxThreads ι × List S3tpPacket → TxThreadsEvent ι → Option (TxThreads ι × List S3tpPacket) :=
  recorded TxThreads.step fun s event stamped => stamped ++ stamps s event

/-- A run of the threads that meets `kept` is one of the system that meets `meets`, with the same packets stamped. -/
theorem exists_run_stamped (kept : TxThreads ι → TxThreadsEvent ι → Prop) (good : ι → S3tpPacket → Prop)
    {fresh : S3tpHeader} {events : List (TxThreadsEvent ι)} {stamped : List S3tpPacket}
    (run : Run stamping (fun w event => kept w.1 event) (TxThreads.started fresh, []) events (s, stamped))
    (hands : ∀ s c packet fragNo more, kept s (.enqueuePacket c packet fragNo more) → good c packet)
    (turns : ∀ a status, meets a (.iterate status))
    (met : ∀ s a event, SeenAs s a → (∀ c, Handed (good c) (s.caller c)) → kept s event →
      ∀ call ∈ calls s event, meets a call) :
    ∃ turns a, Run TxSystem.step meets (TxSystem.started fresh) turns a ∧ SeenAs s a ∧ a.enqueued = stamped := by
  have matched (w : TxThreads ι × List S3tpPacket) (event : TxThreadsEvent ι) (w' : TxThreads ι × List S3tpPacket)
      (a : TxSystem ι) (related : SeenAs w.1 a ∧ a.enqueued = w.2 ∧ ∀ c, Handed (good c) (w.1.caller c))
      (isKept : kept w.1 event) (stepped : stamping w event = some w') :
      ∃ turns a', Run TxSystem.step meets a turns a' ∧ turns.filter isCall = calls w.1 event ∧ SeenAs w'.1 a' ∧
        a'.enqueued = w'.2 ∧ ∀ c, Handed (good c) (w'.1.caller c) := by
    obtain ⟨seen, same, handed⟩ := related
    obtain ⟨stepped, more⟩ := recorded_eq_some_iff.mp stepped
    obtain ⟨events, a', follows, called, after, enqueued⟩ : GoesOn meets a w'.1 (calls w.1 event) (stamps w.1 event) :=
      seen.step (turns a) (met _ _ _ seen handed isKept) stepped
    have handed' := handed_step handed (fun c packet fragNo more same => hands w.1 c packet fragNo more (same ▸ isKept))
      stepped
    exact ⟨events, a', follows, called, after, by rw [enqueued, same, more], handed'⟩
  obtain ⟨events, a, follows, -, seen, same, -⟩ :=
    run.exists_matched matched _ ⟨seenAs_started fresh, rfl, fun _ => trivial⟩
  exact ⟨events, a, follows, seen, same⟩

/-! ## Runs -/

/-- Every run of the threads is one of the system, which is called as the threads are, in the same order. Where the
transmit thread is not in the middle of a turn, module and link are those of the system. -/
theorem exists_run_of_threads {fresh : S3tpHeader} {events : List (TxThreadsEvent ι)}
    (run : Run TxThreads.step Always (TxThreads.started fresh) events s) : ∃ turns a,
    Run TxSystem.step Always (TxSystem.started fresh) turns a ∧
      turns.filter isCall = trace TxThreads.step calls (TxThreads.started fresh) events ∧ SeenAs s a ∧
      (Between s.place → s.tx = a.tx ∧ s.link = a.link) := by
  have matched (s : TxThreads ι) (event : TxThreadsEvent ι) (t : TxThreads ι) (a : TxSystem ι) (seen : SeenAs s a)
      (_ : Always s event) (stepped : s.step event = some t) : ∃ turns a', Run TxSystem.step Always a turns a' ∧
        turns.filter isCall = calls s event ∧ SeenAs t a' := by
    obtain ⟨turns, a', follows, called, seen, -⟩ : GoesOn Always a t (calls s event) (stamps s event) :=
      seen.step (fun _ => trivial) (fun _ _ => trivial) stepped
    exact ⟨turns, a', follows, called, seen⟩
  obtain ⟨turns, a, follows, called, seen⟩ := run.exists_matched matched _ (seenAs_started fresh)
  exact ⟨turns, a, follows, called, seen, seen.shown.isBetween⟩

end Callers

/-- Two packets are stamped. One is written before the turn of the loop, the other during the turn. -/
def writtenInTurn : List (TxThreadsEvent UInt8) :=
  .enqueuePacket 5 (oneByte 1) 0 false :: List.replicate 3 (.caller 5) ++
    .enqueuePacket 3 { oneByte 2 with header := { (oneByte 2).header with port := 3 } } 0 false ::
      List.replicate 7 (.caller 3) ++
    .scheduleSync 0 :: List.replicate 2 (.tx ⟨true, false⟩) ++ List.replicate 3 (.caller 5) ++
    List.replicate 7 (.tx ⟨true, false⟩)

/-- The system stamps both, writes both and schedules the sync frame. -/
theorem exists_run_of_threads_writtenInTurn : ∃ (s : TxThreads UInt8) (turns : List (TxEvent UInt8))
    (a : TxSystem UInt8), Run TxThreads.step Always (TxThreads.started default) writtenInTurn s ∧
      Run TxSystem.step Always (TxSystem.started default) turns a ∧ (turns.filter isCall).length = 5 ∧ SeenAs s a := by
  have runs : (writtenInTurn.foldlM TxThreads.step (TxThreads.started default)).isSome := by decide +kernel
  obtain ⟨s, runs⟩ := Option.isSome_iff_exists.mp runs
  have run := Run.always_iff.mpr runs
  obtain ⟨turns, a, follows, called, seen, -⟩ := exists_run_of_threads run
  refine ⟨s, turns, a, run, follows, ?_, seen⟩
  rw [called]
  decide +kernel

/-! ## First in, first out -/

/-- Each port has a caller of its own, as the daemon admits one client for a port. -/
def OneCallerPerPort (_ : TxThreads UInt8) : TxThreadsEvent UInt8 → Prop
  | .enqueuePacket c packet _ _ => c = packet.getPort
  | _ => True

/-- A write finds fewer than 256 packets in the queue of its port. -/
def ShortBacklog (s : TxThreads UInt8) : TxThreadsEvent UInt8 → Prop
  | .caller c =>
    match s.caller c with
    | .writing packet => (s.tx.outBuffer.held packet.getPort).length < 256
    | _ => True
  | _ => True

/-- Under these conditions the order of transmission is that of stamping. -/
abbrev Kept (a : TxSystem UInt8) (event : TxEvent UInt8) : Prop := a.OneCallerPerPort event ∧ a.ShortBacklog event

/-- The packet to be stamped is of the caller's port. -/
abbrev Own (c : UInt8) : CallerPlace → Prop := Handed fun packet => c = packet.getPort

/-- The data frames of a port leave in the order the packets were stamped, each once, and message by message with
those of the other ports. Once nothing of a port is queued or under way, all of it has left. -/
structure FirstInFirstOut (s : TxThreads UInt8) (stamped : List S3tpPacket) : Prop where
  inOrder : ∀ port, (s.link.filter (isDataOn port)).map plain <+: (stamped.filter (isDataOn port)).map plain
  numbered : ∀ port, Consecutive 0 (s.link.filter (isDataOn port))
  messages : GloballyOrdered (s.link.filter isData)
  complete : Between s.place → ∀ port, s.tx.outBuffer.held port = [] → inHand (s.caller port) = none →
    (s.link.filter (isDataOn port)).map plain = (stamped.filter (isDataOn port)).map plain

section Ports

variable {s t : TxThreads UInt8} {a : TxSystem UInt8}

/-- Outside `buffer_mutex` the transmit thread has taken nothing from the buffer. -/
theorem SeenAs.outBuffer_eq (seen : SeenAs s a) (outside : ¬ s.place.InsideBuffer) :
    s.tx.outBuffer = a.tx.outBuffer := by
  cases seen.shown with
  | between _ tx => rw [tx]
  | @looking status _ _ _ tx =>
    obtain ⟨state, tx⟩ := tx
    obtain ⟨channelBlacklist, scheduledSync, syncPacket, after⟩ := a.tx.syncTurn_frame status
    rw [tx, after]
  | taken _ here => simp [here] at outside
  | sends _ tx => rw [tx]

/-- The conditions on the threads are those on the system. -/
theorem SeenAs.met {event : TxThreadsEvent UInt8} (seen : SeenAs s a) (own : ∀ c, Own c (s.caller c))
    (short : ShortBacklog s event) : ∀ call ∈ calls s event, Kept a call := by
  intro call member
  cases event with
  | tx | enqueuePacket | wake | notifyLinkAvailability => simp at member
  | setChannelAvailable | scheduleSync | stopRoutine =>
    obtain rfl := List.mem_singleton.mp member
    exact ⟨trivial, trivial⟩
  | caller c =>
    cases here : s.caller c with
    | stamping packet fragNo more =>
      have own' := own c
      simp only [calls, here, List.mem_singleton] at member own'
      subst member
      exact ⟨own', trivial⟩
    | writing packet =>
      have outside : ¬ s.place.InsideBuffer := by
        intro within
        have other := seen.owned.buffer (.caller c) (by simp [TxThreads.InsideBuffer, here])
        rw [seen.owned.buffer .tx within] at other
        cases other
      simp only [calls, here, List.mem_singleton] at member
      subst member
      refine ⟨trivial, fun pending isPending => ?_⟩
      have same : pending = packet := by simpa [seen.pending, here, eq_comm] using isPending
      simp only [ShortBacklog, here] at short
      rw [same, ← seen.outBuffer_eq outside]
      exact short
    | _ => simp [here] at member

theorem ordered_of_prefix {frames more : List S3tpPacket} (ordered : GloballyOrdered more)
    (earlier : frames <+: more) : GloballyOrdered frames := by
  obtain ⟨later, rfl⟩ := earlier
  refine ⟨fun frame first => ordered.first frame ?_, ordered.chain.left_of_append⟩
  cases frames with
  | nil => simp at first
  | cons head tail => exact first

/-- With one caller for each port, and short queues at every write, the threads send first in, first out. -/
theorem firstInFirstOut_of_threads {fresh : S3tpHeader} {events : List (TxThreadsEvent UInt8)}
    {stamped : List S3tpPacket}
    (run : Run stamping (fun w event => OneCallerPerPort w.1 event ∧ ShortBacklog w.1 event)
      (TxThreads.started fresh, []) events (s, stamped)) : FirstInFirstOut s stamped := by
  obtain ⟨turns, a, follows, seen, stampedAll⟩ : ∃ turns a, Run TxSystem.step Kept (TxSystem.started fresh) turns a ∧
      SeenAs s a ∧ a.enqueued = stamped :=
    exists_run_stamped (fun s event => OneCallerPerPort s event ∧ ShortBacklog s event)
      (fun c packet => c = packet.getPort) run (fun _ _ _ _ _ met => met.1) (fun _ _ => ⟨trivial, trivial⟩)
      fun _ _ _ seen own met => seen.met own met.2
  have inv := (TransmitInvariant.started fresh).run follows
  -- In the middle of a turn the system is taken to its end: the frames of the threads are among the first there.
  obtain ⟨more, a', ahead, same, earlier⟩ : ∃ turns a', Run TxSystem.step Kept a turns a' ∧
      a'.enqueued = a.enqueued ∧ s.link <+: a'.link := seen.exists_ahead fun _ => ⟨trivial, trivial⟩
  have inv' := inv.run ahead
  have loop : LoopInvariant a' :=
    (follows.append ahead).invariant (fun _ _ _ inv _ stepped => inv.step stepped) (LoopInvariant.started fresh)
  have onPort (port : UInt8) : s.link.filter (isDataOn port) <+: a'.sentOn port := earlier.filter _
  have all (port : UInt8) : stamped.filter (isDataOn port) = a'.enqueuedOn port := by
    rw [TxSystem.enqueuedOn, same, stampedAll]
  constructor
  · intro port
    rw [all, inv'.stream, List.map_append]
    exact ((onPort port).map plain).trans (List.prefix_append ..)
  · intro port
    obtain ⟨later, whole⟩ := onPort port
    have numbered := inv'.sent_consecutive port
    rw [← whole, Consecutive.append_iff] at numbered
    exact numbered.1
  · exact ordered_of_prefix loop.ordered (earlier.filter _)
  · intro between port empty idle
    obtain ⟨tx, link⟩ := seen.shown.isBetween between
    have stream := inv.stream port
    rw [TxSystem.enqueuedOn, TxSystem.sentOn, stampedAll, ← link, ← tx, empty, seen.pending, idle] at stream
    simpa using stream.symm

instance (s : TxThreads UInt8) (event : TxThreadsEvent UInt8) : Decidable (OneCallerPerPort s event) := by
  unfold OneCallerPerPort
  split <;> infer_instance

instance (s : TxThreads UInt8) (event : TxThreadsEvent UInt8) : Decidable (ShortBacklog s event) := by
  unfold ShortBacklog
  split
  · split <;> infer_instance
  · infer_instance

/-- The loop takes another turn. -/
def anotherTurn : List (TxThreadsEvent UInt8) := List.replicate 11 (.tx ⟨true, false⟩)

/-- After another turn both packets have left, behind the sync frame. -/
theorem firstInFirstOut_of_threads_writtenInTurn : ∃ s stamped, FirstInFirstOut s stamped ∧
    s.link.length = 3 ∧ stamped.length = 2 := by
  have runs : ((writtenInTurn ++ anotherTurn).foldlM
      (fun w event => if OneCallerPerPort w.1 event ∧ ShortBacklog w.1 event then stamping w event else none)
      (TxThreads.started default, [])).map (fun w => (w.1.link.length, w.2.length)) = some (3, 2) := by decide +kernel
  obtain ⟨⟨s, stamped⟩, runs, lengths⟩ := Option.map_eq_some_iff.mp runs
  obtain ⟨sent, all⟩ := Prod.mk.inj lengths
  exact ⟨s, stamped, firstInFirstOut_of_threads (Run.iff_foldlM.mpr runs), sent, all⟩

end Ports

end S3tp.Soundness.AtomicTurns
