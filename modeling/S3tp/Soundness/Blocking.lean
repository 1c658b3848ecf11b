import S3tp.Model.Core.SendToLinkLayer
import S3tp.Soundness.OneByte
import S3tp.Soundness.TxMutexes

/-! # Going to sleep blocked

The transmit thread goes to sleep in state `BLOCKED` when the link is down, when no channel is left, and when a
fetch comes back without a packet. The last is taken for a blocked channel. Within a message it also happens when
the next fragment is not queued yet and another port has a packet, and then every client is refused.

A run remembers what the link answered in the turn that led to the last sleep, and the module as it went to sleep.
As long as the next fragment is queued when it is fetched, nothing is written for an available channel between a
fetch without a packet and the sleep, no queue outgrows its size field, and only virtual channels are taken away,
the thread has a reason each time.
-/

namespace S3tp.Soundness

open Model.Core Model.Concurrent Machine

namespace Blocking

variable {ι : Type*}

/-- The transmit thread as it went to sleep: what the link had answered in that turn, and the module. -/
structure Nap where
  linkUp : Bool
  tx : TxModule

/-- What is remembered of a run: the link's last answer, and the last time the transmit thread went to sleep. -/
structure Memory where
  linkUp : Bool := true
  nap : Option Nap := none

def remember (s : TxThreads ι) (event : TxThreadsEvent ι) (memory : Memory) : Memory :=
  match event, s.place with
  | .tx link, .turning => { memory with linkUp := link.up }
  | .tx _, .waiting => { memory with nap := some ⟨memory.linkUp, s.tx⟩ }
  | _, _ => memory

/-- All virtual channels are blacklisted. -/
def NoChannel (tx : TxModule) : Prop :=
  ∀ channel : UInt8, channel.toNat < s3tpVirtualChannels → tx.isChannelAvailable channel = false

/-- What has to go next is on a blacklisted channel: the next fragment of the message that is being sent, or else
the head of every queue that is not empty. -/
def NextBlacklisted (tx : TxModule) : Prop :=
  if tx.sendingFragments then
    ∃ next ∈ (tx.outBuffer.held tx.currentPort).head?, tx.isChannelAvailable next.channel = false
  else (∃ port, tx.outBuffer.held port ≠ []) ∧
    ∀ port, ∀ head ∈ (tx.outBuffer.held port).head?, tx.isChannelAvailable head.channel = false

/-- There was a reason to go to sleep. -/
def Nap.Justified (nap : Nap) : Prop := nap.linkUp = false ∨ NoChannel nap.tx ∨ NextBlacklisted nap.tx

/-- The transmit thread has found every queue blocked and is about to sleep. -/
structure Resigned (w : TxThreads ι × Memory) : Prop where
  waiting : w.1.place = .waiting
  blocked : w.1.tx.state = .blocked
  linkUp : w.2.linkUp = true
  channels : w.1.tx.channelsAvailable = true
  between : w.1.tx.sendingFragments = false

/-- Within a message the transmit thread finds the next fragment queued. A packet written while it has resigned
is on a blacklisted channel, and every write finds a queue whose size field can count one packet more. Only
virtual channels are taken away. -/
def InOrder (w : TxThreads ι × Memory) : TxThreadsEvent ι → Prop
  | .tx _ => w.1.place = .fetching → w.1.tx.channelsAvailable = true → w.1.tx.sendingFragments = true →
      w.1.tx.outBuffer.held w.1.tx.currentPort ≠ []
  | .caller c => ∀ packet, w.1.caller c = .writing packet →
      (w.1.tx.outBuffer.held packet.getPort).length + 1 < 2 ^ 16 ∧
        (Resigned w → w.1.tx.isChannelAvailable packet.channel = false)
  | .setChannelAvailable channel false => channel.toNat < s3tpVirtualChannels
  | _ => True

/-! ## What a fetch without a packet has found -/

/-- The reasons the module itself can give. -/
def Found (tx : TxModule) : Prop := tx.channelsAvailable = false ∨ NextBlacklisted tx

/-- Every channel that is blacklisted is a virtual one. -/
def OnlyVirtual (tx : TxModule) : Prop :=
  ∀ channel, tx.isChannelAvailable channel = false → channel.toNat < s3tpVirtualChannels

theorem noChannel_of_channelsAvailable {tx : TxModule} (virtual : OnlyVirtual tx)
    (none : tx.channelsAvailable = false) : NoChannel tx := by
  have full : s3tpVirtualChannels ≤ tx.channelBlacklist.size := by
    simpa [TxModule.channelsAvailable] using none
  have below (k : UInt8) (listed : (tx.channelBlacklist k).isSome) : k.toNat < s3tpVirtualChannels :=
    virtual k (by simpa [TxModule.isChannelAvailable, Option.isSome_iff_ne_none] using listed)
  intro channel lt
  have listed := ByteMap.isSome_of_le_size below full lt
  simpa [TxModule.isChannelAvailable, Option.isSome_iff_ne_none] using listed

/-- A consistent buffer with packets holds one for some port. -/
theorem exists_held {b : Buffer} (consistent : b.Consistent) (available : b.packetsAvailable = true) :
    ∃ port, b.held port ≠ [] := by
  have nonempty : b.packetCounter.isEmpty = false := by simpa [Buffer.packetsAvailable] using available
  obtain ⟨port, counted⟩ := ByteMap.isEmpty_eq_false_iff.mp nonempty
  refine ⟨port, ?_⟩
  rw [consistent.counter port] at counted
  intro nothing
  simp [nothing] at counted

/-- The head of a queue that yields no packet is on a blacklisted channel. -/
theorem nextBlacklisted_of_nextPacket {tx : TxModule} (consistent : tx.outBuffer.Consistent)
    (holds : ∃ port, tx.outBuffer.held port ≠ [])
    (queued : tx.sendingFragments = true → tx.outBuffer.held tx.currentPort ≠ [])
    (nothing : tx.nextPacket = none) : NextBlacklisted tx := by
  have refused {port : UInt8} {head : S3tpPacket} {rest : List S3tpPacket}
      (first : tx.outBuffer.held port = head :: rest)
      (takes : tx.isChannelAvailable head.channel = true → tx.nextPacket.isSome) :
      tx.isChannelAvailable head.channel = false := by
    rw [← Bool.not_eq_true]
    intro available
    have taken := takes available
    simp [nothing] at taken
  rw [NextBlacklisted]
  split
  · next within =>
    obtain ⟨head, rest, first⟩ := List.exists_cons_of_ne_nil (queued within)
    refine ⟨head, by simp [first], refused first fun available => ?_⟩
    obtain ⟨next, popped, -⟩ := Buffer.popPacketInternal_isSome (consistent.counted _) first
      (show tx.policy.isElementValid head = true from available)
    simp [TxModule.nextPacket, within, Buffer.getNextPacket, popped]
  · next between =>
    refine ⟨holds, fun port head member => ?_⟩
    obtain ⟨rest, first⟩ := List.head?_eq_some_iff.mp member
    refine refused first fun available => ?_
    have taken := consistent.getNextAvailablePacket_isSome first
      (show tx.policy.isElementValid head = true from available)
    simpa [TxModule.nextPacket, between] using taken

/-! ## What a write leaves of it -/

theorem exists_held_writePacket {tx : TxModule} (packet : S3tpPacket) :
    ∃ port, (tx.writePacket packet).outBuffer.held port ≠ [] := by
  refine ⟨packet.getPort, ?_⟩
  have written := Buffer.held_write_self tx.outBuffer tx.policy packet
  exact fun nothing => List.insertFromTail_ne_nil _ _ _ (written.symm.trans nothing)

/-- A packet on a blacklisted channel in a queue of its own changes nothing, and within a message no packet in a
queue of its own does. -/
theorem nextBlacklisted_writePacket {tx : TxModule} {packet : S3tpPacket}
    (alone : tx.outBuffer.held packet.getPort = [])
    (blacklisted : tx.sendingFragments = false → tx.isChannelAvailable packet.channel = false)
    (next : NextBlacklisted tx) : NextBlacklisted (tx.writePacket packet) := by
  have others {port : UInt8} (other : port ≠ packet.getPort) :
      (tx.writePacket packet).outBuffer.held port = tx.outBuffer.held port := Buffer.held_write_of_ne _ _ other
  have own : (tx.writePacket packet).outBuffer.held packet.getPort = [packet] := by
    have written := Buffer.held_write_self tx.outBuffer tx.policy packet
    rw [tx.kept_outBuffer, alone] at written
    exact written
  have same : (tx.writePacket packet).sendingFragments = tx.sendingFragments := rfl
  rw [NextBlacklisted] at next ⊢
  rw [same]
  split at next
  · next within =>
    obtain ⟨head, member, listed⟩ := next
    have different : tx.currentPort ≠ packet.getPort := by
      intro equal
      rw [equal, alone] at member
      simp at member
    rw [if_pos within]
    refine ⟨head, ?_, listed⟩
    rw [show (tx.writePacket packet).currentPort = tx.currentPort from rfl, others different]
    exact member
  · next between =>
    rw [if_neg between]
    refine ⟨exists_held_writePacket packet, fun port head member => ?_⟩
    rcases Classical.em (port = packet.getPort) with rfl | other
    · rw [own] at member
      obtain rfl : packet = head := by simpa using member
      exact blacklisted (by simpa using between)
    · rw [others other] at member
      exact next.2 port head member

/-! ## Every step -/

/-- What the transmit thread knows where it is. -/
def Knows (w : TxThreads ι × Memory) : Prop :=
  match w.1.place with
  | .testing (.unlock true) | .fetchLocking | .fetching => ∃ port, w.1.tx.outBuffer.held port ≠ []
  | .fetchUnlocking none => Found w.1.tx
  | .waiting => w.1.tx.state = .blocked → w.2.linkUp = false ∨ Found w.1.tx
  | _ => True

/-- The module reports that it is blocked only from a sleep on, or just before one. -/
def ReportsBlocked (w : TxThreads ι × Memory) : Prop :=
  w.1.tx.state = .blocked → w.1.place = .waiting ∨ ∃ nap ∈ w.2.nap, nap.tx.state = .blocked

/-- The transmit thread knows why it goes to sleep, and has had a reason whenever it did. -/
structure Explained (w : TxThreads ι × Memory) : Prop where
  owned : w.1.Owned
  consistent : w.1.tx.outBuffer.Consistent
  virtual : OnlyVirtual w.1.tx
  knows : Knows w
  reports : ReportsBlocked w
  justified : ∀ nap ∈ w.2.nap, nap.tx.state = .blocked → nap.Justified

theorem explained_started (fresh : S3tpHeader) : Explained (TxThreads.started (ι := ι) fresh, {}) where
  owned := TxThreads.owned_started fresh
  consistent := Buffer.consistent_empty
  virtual channel listed := absurd listed (by
    simp [TxModule.isChannelAvailable, TxThreads.started, TxModule.startRoutine, TxModule.reset, TxModule.create])
  knows := trivial
  reports blocked := absurd blocked (by
    simp [TxThreads.started, TxModule.startRoutine, TxModule.reset, TxModule.create])
  justified nap member := absurd member (by simp)

/-- Outside `tx_mutex` there is nothing to know. -/
theorem knows_of_outside {w : TxThreads ι × Memory} (outside : ¬ w.1.place.Inside) : Knows w := by
  rw [Knows]
  split <;> simp_all

variable {w w' : TxThreads ι × Memory}

/-- The sync block takes no channel away but its own. -/
theorem onlyVirtual_syncTurn {tx : TxModule} (virtual : OnlyVirtual tx) (link : LinkStatus) :
    OnlyVirtual (tx.syncTurn link).1 := by
  rcases tx.syncTurn_cases link with idle | blacklists | sends
  · rwa [idle]
  · rw [blacklists]
    intro channel listed
    rcases Classical.em (channel = defaultSyncChannel) with rfl | other
    · decide
    · refine virtual channel ?_
      simpa [TxModule.isChannelAvailable, TxModule.setChannelAvailable, ByteMap.insert_of_ne _ _ other] using listed
  · rwa [sends]

/-- The transmit thread goes on and its last sleep stays what it was. -/
theorem Explained.goes {t : TxThreads ι} {memory : Memory} (inv : Explained w) (owned : t.Owned)
    (consistent : t.tx.outBuffer.Consistent) (virtual : OnlyVirtual t.tx) (knows : Knows (t, memory))
    (same : memory.nap = w.2.nap) (reports : t.tx.state = .blocked → t.place = .waiting ∨
      (w.1.tx.state = .blocked ∧ w.1.place ≠ .waiting)) : Explained (t, memory) where
  owned := owned
  consistent := consistent
  virtual := virtual
  knows := knows
  reports blocked := by
    rcases reports blocked with waits | ⟨before, other⟩
    · exact .inl waits
    · exact .inr (same ▸ (inv.reports before).resolve_left other)
  justified := same ▸ inv.justified

/-- Only going to sleep changes what is remembered of the last sleep. -/
theorem nap_remember {link : LinkStatus} (other : w.1.place ≠ .waiting) :
    (remember w.1 (.tx link) w.2).nap = w.2.nap := by
  cases here : w.1.place with
  | waiting => exact absurd here other
  | turning => simp [remember, here]
  | _ => simp [remember, here]

/-- The transmit thread goes on without a sleep, and the state stays. -/
theorem Explained.quiet {t : TxThreads ι} {link : LinkStatus} (inv : Explained w) (owned : t.Owned)
    (consistent : t.tx.outBuffer.Consistent) (virtual : OnlyVirtual t.tx)
    (knows : Knows (t, remember w.1 (.tx link) w.2)) (state : t.tx.state = w.1.tx.state)
    (other : w.1.place ≠ .waiting) : Explained (t, remember w.1 (.tx link) w.2) :=
  inv.goes owned consistent virtual knows (nap_remember other)
    fun blocked => .inr ⟨state.symm.trans blocked, other⟩

theorem explained_txStep {link : LinkStatus} (inv : Explained w)
    (queued : w.1.place = .fetching → w.1.tx.channelsAvailable = true → w.1.tx.sendingFragments = true →
      w.1.tx.outBuffer.held w.1.tx.currentPort ≠ [])
    {t : TxThreads ι} (stepped : w.1.txStep link = some t) : Explained (t, remember w.1 (.tx link) w.2) := by
  have owned := inv.owned.txStep stepped
  have knows := inv.knows
  cases TxThreads.of_txStep stepped with
  | locks here =>
    exact inv.quiet owned inv.consistent inv.virtual trivial rfl (by rcases here with here | here <;> simp [here])
  | ends here | releases here | sends here | locksToTest here =>
    exact inv.quiet owned inv.consistent inv.virtual trivial rfl (by simp [here])
  | givesUp here down =>
    exact inv.goes owned inv.consistent inv.virtual (fun _ => down.imp (by simp [remember, here]) .inl)
      (by simp [remember, here]) fun _ => .inl rfl
  | turns here =>
    obtain ⟨blacklist, scheduled, packet, frame⟩ := w.1.tx.syncTurn_frame link
    exact inv.quiet owned (by rw [frame]; exact inv.consistent) (onlyVirtual_syncTurn inv.virtual link) trivial
      (by rw [frame]) (by simp [here])
  | reads here =>
    refine inv.quiet owned inv.consistent inv.virtual ?_ rfl (by simp [here])
    cases available : w.1.tx.outBuffer.packetsAvailable with
    | false => trivial
    | true => exact exists_held inv.consistent available
  | waits here =>
    exact inv.goes owned inv.consistent inv.virtual (fun blocked => absurd blocked (by simp))
      (by simp [remember, here]) fun _ => .inl rfl
  | runs here =>
    simp only [Knows, here] at knows
    exact inv.goes owned inv.consistent inv.virtual knows (by simp [remember, here])
      fun blocked => absurd blocked (by simp)
  | locksToFetch here =>
    simp only [Knows, here] at knows
    exact inv.quiet owned inv.consistent inv.virtual knows rfl (by simp [here])
  | fetchesNothing here nothing =>
    simp only [Knows, here] at knows
    refine inv.quiet owned inv.consistent inv.virtual ?_ rfl (by simp [here])
    -- The fetch comes back without a packet.
    cases channels : w.1.tx.channelsAvailable with
    | false => exact .inl channels
    | true => exact .inr (nextBlacklisted_of_nextPacket inv.consistent knows (queued here channels) nothing)
  | fetches here taken =>
    obtain ⟨port, popped⟩ := TxModule.nextPacket_eq_some taken
    exact inv.quiet owned (inv.consistent.popPacketInternal popped).2.2.2 inv.virtual trivial rfl (by simp [here])
  | blocks here =>
    simp only [Knows, here] at knows
    exact inv.goes owned inv.consistent inv.virtual (fun _ => .inr knows) (by simp [remember, here]) fun _ => .inl rfl
  | stamps here =>
    exact inv.goes owned inv.consistent inv.virtual trivial (by simp [remember, here])
      fun blocked => absurd blocked (by simp [TxModule.afterTaking])
  | sleeps here =>
    simp only [Knows, here] at knows
    have asleep : remember w.1 (.tx link) w.2 = { w.2 with nap := some ⟨w.2.linkUp, w.1.tx⟩ } := by
      simp [remember, here]
    rw [asleep]
    refine ⟨owned, inv.consistent, inv.virtual, trivial, fun blocked => .inr ⟨_, rfl, blocked⟩, ?_⟩
    rintro nap member blocked
    obtain rfl := Option.some.inj member
    rcases knows blocked with down | none | next
    · exact .inl down
    · exact .inr (.inl (noChannel_of_channelsAvailable inv.virtual none))
    · exact .inr (.inr next)

/-- A signal leaves the transmit thread where it is, or wakes it. -/
theorem signal_place (s : TxThreads ι) :
    s.signal.place = s.place ∨ (s.signal.place = .woken ∧ s.place = .blocked) := by
  cases here : s.place <;> simp [TxThreads.signal, here]

/-- A step that leaves the module alone and the transmit thread where it is, or wakes it. -/
theorem Explained.beside {t : TxThreads ι} (inv : Explained w) (owned : t.Owned) (tx : t.tx = w.1.tx)
    (place : t.place = w.1.place ∨ (t.place = .woken ∧ w.1.place = .blocked)) : Explained (t, w.2) := by
  refine ⟨owned, tx ▸ inv.consistent, tx ▸ inv.virtual, ?_, ?_, inv.justified⟩
  · rcases place with same | ⟨woken, -⟩
    · have knows := inv.knows
      rw [Knows] at knows ⊢
      simpa only [tx, same] using knows
    · exact knows_of_outside (by simp [woken])
  · intro blocked
    have before : w.1.tx.state = .blocked := by rw [← tx]; exact blocked
    rcases inv.reports before with waits | napped
    · rcases place with same | ⟨-, asleep⟩
      · exact .inl (same.trans waits)
      · exact absurd (asleep.symm.trans waits) (by simp)
    · exact .inr napped

/-- Nobody is inside `tx_mutex` when the module is changed under it from outside. -/
theorem Explained.changed {t : TxThreads ι} (inv : Explained w) (free : w.1.txMutex = none) (owned : t.Owned)
    (place : t.place = w.1.place ∨ (t.place = .woken ∧ w.1.place = .blocked))
    (outBuffer : t.tx.outBuffer = w.1.tx.outBuffer) (state : t.tx.state = w.1.tx.state) (virtual : OnlyVirtual t.tx) :
    Explained (t, w.2) := by
  have outside : ¬ w.1.place.Inside := by
    intro inside
    simp [inv.owned.tx .tx inside] at free
  have after : ¬ t.place.Inside := by
    rcases place with same | ⟨woken, -⟩
    · rwa [same]
    · simp [woken]
  refine inv.goes owned (outBuffer ▸ inv.consistent) virtual (knows_of_outside after) rfl
    fun blocked => .inr ⟨state.symm.trans blocked, ?_⟩
  intro waits
  simp [waits] at outside

/-- A write into a queue while the transmit thread is inside `tx_mutex` finds the queue empty. -/
theorem held_eq_nil_of_writing {packet : S3tpPacket} (consistent : w.1.tx.outBuffer.Consistent)
    (holder : w.1.txMutex = some .tx)
    (may : (w.1.tx.outBuffer.queues packet.getPort).isEmpty = true ∨ w.1.txMutex.isNone = true) :
    w.1.tx.outBuffer.held packet.getPort = [] := by
  rcases may with empty | free
  · exact (consistent.counted _).isEmpty_iff.mp empty
  · simp [holder] at free

section Callers

variable [DecidableEq ι] {c : ι}

/-- What the transmit thread knows outlasts a write. -/
theorem knows_writePacket {packet : S3tpPacket} (inv : Explained w) (writing : w.1.caller c = .writing packet)
    (may : (w.1.tx.outBuffer.queues packet.getPort).isEmpty = true ∨ w.1.txMutex.isNone = true)
    (resigned : Resigned w → w.1.tx.isChannelAvailable packet.channel = false) :
    Knows (({ w.1 with tx := w.1.tx.writePacket packet } : TxThreads ι).callerAt c .bufferUnlocking, w.2) := by
  have knows := inv.knows
  have keepsOut (inside : w.1.place.InsideBuffer) : False := by
    have own : w.1.InsideBuffer (.caller c) := by simp [TxThreads.InsideBuffer, writing]
    have same := (inv.owned.buffer .tx inside).symm.trans (inv.owned.buffer (.caller c) own)
    exact absurd (Option.some.inj same) (by simp)
  rw [Knows] at knows
  cases here : w.1.place with
  | testing reading =>
    cases reading with
    | lock => simp [Knows, TxThreads.callerAt, here]
    | read => exact (keepsOut (by simp [here])).elim
    | unlock result => exact (keepsOut (by simp [here])).elim
  | fetching => exact (keepsOut (by simp [here])).elim
  | fetchUnlocking next => exact (keepsOut (by simp [here])).elim
  | fetchLocking =>
    simp only [Knows, TxThreads.callerAt, here]
    exact exists_held_writePacket packet
  | waiting =>
    simp only [here] at knows
    simp only [Knows, TxThreads.callerAt, here]
    intro blocked
    cases up : w.2.linkUp with
    | false => exact .inl rfl
    | true =>
    refine .inr ?_
    rcases knows blocked with down | none | next
    · simp [up] at down
    · exact .inl none
    cases channels : w.1.tx.channelsAvailable with
    | false => exact .inl channels
    | true =>
    have holder : w.1.txMutex = some .tx := inv.owned.tx .tx (by simp [TxThreads.Inside, here])
    have alone := held_eq_nil_of_writing inv.consistent holder may
    exact .inr (nextBlacklisted_writePacket alone (fun between => resigned ⟨here, blocked, up, channels, between⟩) next)
  | _ => simp [Knows, TxThreads.callerAt, here]

theorem explained_callerStep (inv : Explained w)
    (orderly : ∀ packet, w.1.caller c = .writing packet →
      (w.1.tx.outBuffer.held packet.getPort).length + 1 < 2 ^ 16 ∧
        (Resigned w → w.1.tx.isChannelAvailable packet.channel = false))
    {t : TxThreads ι} (stepped : w.1.callerStep c = some t) : Explained (t, w.2) := by
  have owned := inv.owned.callerStep stepped
  cases TxThreads.of_callerStep stepped with
  | locks | isRefused | leaves | unlocks | locksBuffer | unlocksBuffer => exact inv.beside owned rfl (.inl rfl)
  | stamps here stamps =>
    obtain ⟨-, -, rfl⟩ := TxModule.stampPacket_eq_some_iff.mp stamps
    exact ⟨owned, inv.consistent, inv.virtual, inv.knows, inv.reports, inv.justified⟩
  | @writes packet here may =>
    obtain ⟨room, resigned⟩ := orderly packet here
    exact ⟨owned, inv.consistent.write _ packet (by rwa [TxModule.kept_outBuffer]), inv.virtual,
      knows_writePacket inv here may resigned, inv.reports, inv.justified⟩
  | signals => exact inv.beside owned rfl (signal_place w.1)

theorem explained_step {event : TxThreadsEvent ι} (inv : Explained w) (orderly : InOrder w event)
    (stepped : recorded TxThreads.step remember w event = some w') : Explained w' := by
  obtain ⟨t, memory⟩ := w'
  obtain ⟨stepped, rfl⟩ := recorded_eq_some_iff.mp stepped
  have owned := inv.owned.step stepped
  cases TxThreads.of_step stepped with
  | tx => exact explained_txStep inv orderly stepped
  | caller => exact explained_callerStep inv orderly stepped
  | enqueuePacket => exact inv.beside owned rfl (.inl rfl)
  | wake asleep => exact inv.beside owned rfl (.inr ⟨rfl, asleep⟩)
  | @opens channel free =>
    refine inv.changed free owned (signal_place w.1) rfl rfl fun other listed => inv.virtual other ?_
    rcases Classical.em (other = channel) with rfl | different
    · simp [TxModule.isChannelAvailable, TxModule.setChannelAvailable] at listed
    · simpa [TxModule.isChannelAvailable, TxModule.setChannelAvailable, ByteMap.erase_of_ne _ different] using listed
  | @closes channel free =>
    refine inv.changed free owned (.inl rfl) rfl rfl fun other listed => ?_
    rcases Classical.em (other = channel) with rfl | different
    · exact orderly
    · refine inv.virtual other ?_
      simpa [TxModule.isChannelAvailable, TxModule.setChannelAvailable, ByteMap.insert_of_ne _ _ different]
        using listed
  | scheduleSync free | stopRoutine free => exact inv.changed free owned (signal_place w.1) rfl rfl inv.virtual
  | notifyLinkAvailability => exact inv.beside owned rfl (signal_place w.1)

end Callers

/-! ## Whole runs -/

theorem checkTransmissionAvailability_eq_linkUnavailable {tx : TxModule} {port channel : UInt8} {msgLen : UInt16}
    (refused : tx.checkTransmissionAvailability port channel msgLen = codeLinkUnavailable) : tx.state = .blocked := by
  by_contra flowing
  simp only [TxModule.checkTransmissionAvailability, TxModule.getCurrentState, flowing, if_false,
    TxModule.isQueueAvailable_eq_true, Bool.not_true, Bool.false_eq_true] at refused
  cases available : tx.isChannelAvailable channel with
  | false => simp [available, codeChannelBroken, codeLinkUnavailable] at refused
  | true => simp [available, codeSuccess, codeLinkUnavailable] at refused

/-- What is asked of a state and the memory of the run that led there. -/
structure OnlyBlocked (w : TxThreads ι × Memory) : Prop where
  slept : ∀ nap ∈ w.2.nap, nap.tx.state = .blocked → nap.Justified
  refused : w.1.txMutex = none → ∀ port channel msgLen,
    w.1.tx.checkTransmissionAvailability port channel msgLen = codeLinkUnavailable →
      ∃ nap ∈ w.2.nap, nap.tx.state = .blocked ∧ nap.Justified

/-- In a run in order the transmit thread goes to sleep blocked, and a client is told that the link is unavailable,
only for a reason. -/
theorem onlyBlocked_of_inOrder [DecidableEq ι] {fresh : S3tpHeader} {events : List (TxThreadsEvent ι)}
    {w : TxThreads ι × Memory}
    (run : Run (recorded TxThreads.step remember) InOrder (TxThreads.started fresh, {}) events w) : OnlyBlocked w := by
  have inv : Explained w := run.invariant (fun _ _ _ inv orderly stepped => explained_step inv orderly stepped)
    (explained_started fresh)
  refine ⟨inv.justified, fun free port channel msgLen refused => ?_⟩
  rcases inv.reports (checkTransmissionAvailability_eq_linkUnavailable refused) with waits | ⟨nap, member, blocked⟩
  · have holder := inv.owned.tx .tx (by simp [TxThreads.Inside, waits])
    exact absurd (free.symm.trans holder) (by simp)
  · exact ⟨nap, member, blocked, inv.justified nap member blocked⟩

/-- On a link that is down the transmit thread goes to sleep blocked. -/
theorem onlyBlocked_linkDown : ∃ w : TxThreads Unit × Memory, w.1.place = .blocked ∧ w.1.tx.state = .blocked ∧
    OnlyBlocked w := by
  have run : Run (recorded TxThreads.step remember) InOrder (TxThreads.started (ι := Unit) default, {})
      (List.replicate 3 (.tx ⟨false, false⟩)) _ :=
    .cons (fun fetching => absurd fetching (by simp [TxThreads.started])) rfl
      (.cons (fun fetching => absurd fetching (by simp)) rfl
        (.cons (fun fetching => absurd fetching (by simp)) rfl (.nil _)))
  exact ⟨_, rfl, rfl, onlyBlocked_of_inOrder run⟩

/-! ## Undisturbed calls and turns -/

/-- A link that takes frames. -/
def ready : LinkStatus where
  up := true
  bufferFull := false

section Undisturbed

variable {tx : TxModule} {caller : ι → CallerPlace} (link : List S3tpPacket) (memory : Memory)

/-- A call stamps its packet, writes it and signals, while the transmit thread is elsewhere. -/
theorem run_call [DecidableEq ι] (active : tx.active = true) {c : ι} (outside : caller c = .outside)
    (packet : S3tpPacket) (fragNo : UInt8) (more : Bool) :
    Run (recorded TxThreads.step remember) Always (⟨tx, none, none, .locking, caller, link⟩, memory)
      (.enqueuePacket c packet fragNo more :: List.replicate 7 (.caller c))
      (⟨(tx.advance packet.getPort).writePacket (tx.stamped packet fragNo more), none, none, .locking, caller, link⟩,
        memory) := by
  have stamps : tx.stampPacket packet fragNo more = some (tx.stamped packet fragNo more, tx.advance packet.getPort) :=
    TxModule.stampPacket_eq_some_iff.mpr ⟨active, rfl, rfl⟩
  have restored : Function.update caller c .outside = caller := by rw [← outside, Function.update_eq_self]
  have calls : recorded TxThreads.step remember (⟨tx, none, none, .locking, caller, link⟩, memory)
      (.enqueuePacket c packet fragNo more) = some (⟨tx, none, none, .locking,
        Function.update caller c (.locking packet fragNo more), link⟩, memory) := by
    simp [recorded, TxThreads.step, outside, TxThreads.callerAt, remember]
  have goes {s t : TxThreads ι} (stepped : s.callerStep c = some t) :
      recorded TxThreads.step remember (s, memory) (.caller c) = some (t, memory) := by
    simp [recorded, TxThreads.step, stepped, remember]
  refine .cons trivial calls ?_
  refine .cons trivial (goes (t := ⟨tx, some (.caller c), none, .locking,
    Function.update caller c (.stamping packet fragNo more), link⟩) ?_) ?_
  · simp [TxThreads.callerStep, TxThreads.lockTx, TxThreads.callerAt]
  generalize tx.stamped packet fragNo more = stamped at stamps ⊢
  generalize tx.advance packet.getPort = advanced at stamps ⊢
  refine .cons trivial (goes (t := ⟨advanced, some (.caller c), none, .locking,
    Function.update caller c (.unlocking stamped), link⟩) ?_) ?_
  · simp [TxThreads.callerStep, TxThreads.callerAt, stamps]
  refine .cons trivial (goes (t := ⟨advanced, none, none, .locking,
    Function.update caller c (.bufferLocking stamped), link⟩) ?_) ?_
  · simp [TxThreads.callerStep, TxThreads.unlockTx, TxThreads.callerAt]
  refine .cons trivial (goes (t := ⟨advanced, none, some (.caller c), .locking,
    Function.update caller c (.writing stamped), link⟩) ?_) ?_
  · simp [TxThreads.callerStep, TxThreads.lockBuffer, TxThreads.callerAt]
  refine .cons trivial (goes (t := ⟨advanced.writePacket stamped, none, some (.caller c), .locking,
    Function.update caller c .bufferUnlocking, link⟩) ?_) ?_
  · simp [TxThreads.callerStep, TxThreads.callerAt]
  refine .cons trivial (goes (t := ⟨advanced.writePacket stamped, none, none, .locking,
    Function.update caller c .signalling, link⟩) ?_) ?_
  · simp [TxThreads.callerStep, TxThreads.unlockBuffer, TxThreads.callerAt]
  refine .cons trivial (goes ?_) (.nil _)
  simp [TxThreads.callerStep, TxThreads.signal, TxThreads.callerAt, restored]

/-- A step of the transmit thread in a run with its memory. -/
theorem recorded_tx [DecidableEq ι] {s t : TxThreads ι} {link : LinkStatus} (stepped : s.txStep link = some t) :
    recorded TxThreads.step remember (s, memory) (.tx link) = some (t, remember s (.tx link) memory) :=
  recorded_eq_some_iff.mpr ⟨stepped, rfl⟩

/-- A turn up to the fetch. -/
theorem run_toFetch [DecidableEq ι] (active : tx.active = true) (channels : tx.channelsAvailable = true)
    (quiet : tx.scheduledSync = false) (available : tx.outBuffer.packetsAvailable = true) :
    Run (recorded TxThreads.step remember) Always (⟨tx, none, none, .locking, caller, link⟩, memory)
      (List.replicate 6 (.tx ready))
      (⟨{ tx with state := .running }, some .tx, some .tx, .fetching, caller, link⟩,
        { memory with linkUp := true }) := by
  have turns : TxThreads.txStep ⟨tx, some .tx, none, .turning, caller, link⟩ ready =
      some ⟨tx, some .tx, none, .testing .lock, caller, link⟩ := by
    simp [TxThreads.txStep, active, channels, ready, TxModule.syncTurn, quiet]
  have tests : TxThreads.txStep ⟨tx, some .tx, some .tx, .testing .read, caller, link⟩ ready =
      some ⟨tx, some .tx, some .tx, .testing (.unlock true), caller, link⟩ := by
    simp [TxThreads.txStep, available]
  exact .cons trivial rfl (.cons trivial (recorded_tx memory turns) (.cons trivial rfl
    (.cons trivial (recorded_tx _ tests) (.cons trivial rfl (.cons trivial rfl (.nil _))))))

/-- A fetch that takes a packet ends with the packet on the link. -/
theorem run_taken [DecidableEq ι] {packet : S3tpPacket} {outBuffer : Buffer}
    (taken : tx.nextPacket = some (packet, outBuffer)) :
    Run (recorded TxThreads.step remember) Always (⟨tx, some .tx, some .tx, .fetching, caller, link⟩, memory)
      (List.replicate 4 (.tx ready)) (⟨tx.afterTaking packet outBuffer, none, none, .locking, caller,
        link ++ [packet.setGlobalSequence tx.globalSeqNum]⟩, memory) := by
  have fetches : TxThreads.txStep ⟨tx, some .tx, some .tx, .fetching, caller, link⟩ ready =
      some ⟨{ tx with outBuffer }, some .tx, some .tx, .fetchUnlocking (some packet), caller, link⟩ := by
    simp [TxThreads.txStep, taken]
  exact .cons trivial (recorded_tx memory fetches) (.cons trivial rfl (.cons trivial rfl (.cons trivial rfl (.nil _))))

/-- A fetch that comes back without a packet ends in sleep. -/
theorem run_nothing [DecidableEq ι] (nothing : tx.nextPacket = none) :
    Run (recorded TxThreads.step remember) Always (⟨tx, some .tx, some .tx, .fetching, caller, link⟩, memory)
      (List.replicate 3 (.tx ready)) (⟨{ tx with state := .blocked }, none, none, .blocked, caller, link⟩,
        { memory with nap := some ⟨memory.linkUp, { tx with state := .blocked }⟩ }) := by
  have fetches : TxThreads.txStep ⟨tx, some .tx, some .tx, .fetching, caller, link⟩ ready =
      some ⟨tx, some .tx, some .tx, .fetchUnlocking none, caller, link⟩ := by
    simp [TxThreads.txStep, nothing]
  exact .cons trivial (recorded_tx memory fetches) (.cons trivial rfl (.cons trivial rfl (.nil _)))

end Undisturbed

/-! ## A message cut off by a packet on another port -/

/-- A packet of one byte for port 6. -/
def forPort6 : S3tpPacket where
  header := { crc := 0, seq := 0, pduLength := 1, seqPort := 0, port := 6 }
  payload := [0]

/-- The module as it is started, and with the first fragment of a message queued on port 5. -/
def idle : TxModule := (TxThreads.started (ι := Bool) default).tx
def fragmentQueued : TxModule := (idle.advance 5).writePacket (idle.stamped (oneByte 0) 0 true)

/-- What the fetch takes, the module afterwards, and with a packet queued on port 6 before the next fragment. -/
def fetched : S3tpPacket × Buffer := ({ fragmentQueued with state := .running } : TxModule).nextPacket.get rfl
def cutOff : TxModule := ({ fragmentQueued with state := .running } : TxModule).afterTaking fetched.1 fetched.2
def otherQueued : TxModule := (cutOff.advance 6).writePacket (cutOff.stamped forPort6 0 false)

/-- What has gone to the link. -/
def sent : List S3tpPacket := [fetched.1.setGlobalSequence 0]

/-- No call is under way, and the transmit thread is about to turn. -/
def betweenTurns (tx : TxModule) (link : List S3tpPacket) : TxThreads Bool × Memory :=
  (⟨tx, none, none, .locking, fun _ => .outside, link⟩, {})

/-- The transmit thread has gone to sleep over the next fragment that is missing. -/
def asleep : TxThreads Bool × Memory :=
  (⟨{ otherQueued with state := .blocked }, none, none, .blocked, fun _ => .outside, sent⟩,
    ⟨true, some ⟨true, { otherQueued with state := .blocked }⟩⟩)

theorem run_asleep : ∃ events,
    Run (recorded TxThreads.step remember) Always (TxThreads.started (ι := Bool) default, {}) events asleep := by
  have taken : ({ fragmentQueued with state := .running } : TxModule).nextPacket = some fetched :=
    (Option.some_get _).symm
  have nothing : ({ otherQueued with state := .running } : TxModule).nextPacket = none := rfl
  have first : Run (recorded TxThreads.step remember) Always (betweenTurns idle []) _
      (betweenTurns fragmentQueued []) := run_call [] {} rfl (c := false) rfl (oneByte 0) 0 true
  have sends : Run (recorded TxThreads.step remember) Always (betweenTurns fragmentQueued []) _
      (betweenTurns cutOff sent) := (run_toFetch [] {} rfl rfl rfl rfl).append (run_taken [] {} taken)
  have second : Run (recorded TxThreads.step remember) Always (betweenTurns cutOff sent) _
      (betweenTurns otherQueued sent) := run_call sent {} rfl (c := true) rfl forPort6 0 false
  have sleeps : Run (recorded TxThreads.step remember) Always (betweenTurns otherQueued sent) _ asleep :=
    (run_toFetch sent {} rfl rfl rfl rfl).append (run_nothing sent {} nothing)
  exact ⟨_, first.append (sends.append (second.append sleeps))⟩

/-- Nothing was blacklisted. -/
theorem not_onlyBlocked_asleep : ¬ OnlyBlocked asleep := by
  intro only
  rcases only.slept _ rfl rfl with down | none | next
  · exact absurd down (by decide)
  · have listed := none 0 (by decide)
    have available : asleep.1.tx.isChannelAvailable 0 = true := rfl
    exact absurd (listed.symm.trans available) (by decide)
  · have within : asleep.1.tx.sendingFragments = true := rfl
    have missing : asleep.1.tx.outBuffer.held asleep.1.tx.currentPort = [] := rfl
    have queued : ∃ next ∈ (asleep.1.tx.outBuffer.held asleep.1.tx.currentPort).head?,
        asleep.1.tx.isChannelAvailable next.channel = false := (if_pos within).mp next
    obtain ⟨head, member, -⟩ := queued
    rw [missing] at member
    exact absurd member (by simp)

/-- A client on port 7 is told that the link is unavailable. -/
theorem exists_run_not_onlyBlocked : ∃ events w,
    Run (recorded TxThreads.step remember) Always (TxThreads.started (ι := Bool) default, {}) events w ∧
    ¬ OnlyBlocked w ∧ w.1.txMutex = none ∧ w.1.tx.checkTransmissionAvailability 7 1 1 = codeLinkUnavailable := by
  obtain ⟨events, run⟩ := run_asleep
  exact ⟨events, asleep, run, not_onlyBlocked_asleep, rfl, rfl⟩

end Blocking

end S3tp.Soundness
