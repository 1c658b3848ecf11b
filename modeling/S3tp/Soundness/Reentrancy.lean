import S3tp.Model.Core.Registry

/-! # Locking the registry twice

A client whose socket fails calls back into `S3TP`, which locks `clients_mutex`. All operations that
write to sockets hold it already, and so does the cleanup when it closes a connection. So an operation
returns exactly if nothing it writes fails and nothing it cleans up is connected.
-/

namespace S3tp.Soundness

open Model.Core

/-- The computation never locks the mutex it holds, and returns with the mutex released. -/
structure ReleasesMutex (result : EStateM.Result Fault Registry Unit) : Prop where
  neverRelocks : ∀ s, result ≠ .error .selfDeadlock s
  returns : ∃ s, result = .ok () s ∧ s.clientsMutexHeld = false

theorem releasesMutex_ok {s : Registry} (released : s.clientsMutexHeld = false) : ReleasesMutex (.ok () s) :=
  ⟨nofun, s, rfl, released⟩

theorem not_releasesMutex_error (s : Registry) : ¬ ReleasesMutex (.error .selfDeadlock s) :=
  fun releases => releases.neverRelocks s rfl

/-! ## Cleaning up -/

/-- The entries that are not null point to clients of their ports. -/
def Keyed (s : Registry) : Prop :=
  ∀ port address, s.clients port = some (some address) → ∃ client, s.heap address = some client ∧ client.appPort = port

/-- The client is registered for the port. -/
def Serves (s : Registry) (port : UInt8) (client : Client) : Prop :=
  ∃ address, s.clients port = some (some address) ∧ s.heap address = some client

variable {s next : Registry} {port : UInt8}

/-- The registry without the port's client. -/
structure Without (port : UInt8) (s next : Registry) : Prop where
  keyed : Keyed next
  held : next.clientsMutexHeld = true
  serves : ∀ other client, Serves next other client ↔ other ≠ port ∧ Serves s other client

theorem without_self (keyed : Keyed s) (held : s.clientsMutexHeld = true) (vacant : ∀ client, ¬ Serves s port client) :
    Without port s s := by
  refine ⟨keyed, held, fun other client => ⟨fun serves => ⟨?_, serves⟩, And.right⟩⟩
  rintro rfl
  exact vacant client serves

theorem without_insert_null (keyed : Keyed s) (held : s.clientsMutexHeld = true) (absent : s.clients port = none) :
    Without port s { s with clients := s.clients.insert port none } := by
  have entries (other : UInt8) (address : ℕ) : s.clients.insert port none other = some (some address) ↔
      s.clients other = some (some address) := by
    rcases Classical.em (other = port) with rfl | different
    · simp [absent]
    · rw [ByteMap.insert_of_ne _ _ different]
  refine ⟨fun other address entry => keyed other address ((entries other address).mp entry), held, ?_⟩
  intro other client
  constructor
  · rintro ⟨address, entry, object⟩
    have before := (entries other address).mp entry
    refine ⟨?_, address, before, object⟩
    rintro rfl
    simp [absent] at before
  · rintro ⟨-, address, entry, object⟩
    exact ⟨address, (entries other address).mpr entry, object⟩

theorem without_erase (keyed : Keyed s) (held : s.clientsMutexHeld = true) {address : ℕ}
    (registered : s.clients port = some (some address)) :
    Without port s ({ s with clients := s.clients.erase port }.assign address none) := by
  -- No other entry points to the deleted object.
  have elsewhere {other : UInt8} {a : ℕ} (different : other ≠ port) (entry : s.clients other = some (some a)) :
      a ≠ address := by
    rintro rfl
    obtain ⟨client, object, ofPort⟩ := keyed port a registered
    obtain ⟨client', object', ofOther⟩ := keyed other a entry
    obtain rfl : client = client' := Option.some.inj (object.symm.trans object')
    exact different (ofOther.symm.trans ofPort)
  have entries {other : UInt8} {a : ℕ} (entry : s.clients.erase port other = some (some a)) :
      other ≠ port ∧ s.clients other = some (some a) := by
    rcases Classical.em (other = port) with rfl | different
    · simp at entry
    · exact ⟨different, by rwa [ByteMap.erase_of_ne _ different] at entry⟩
  have heap {other : UInt8} {a : ℕ} (different : other ≠ port) (entry : s.clients other = some (some a)) :
      Function.update s.heap address none a = s.heap a := Function.update_of_ne (elsewhere different entry) ..
  refine ⟨fun other a entry => ?_, held, fun other client => ⟨?_, ?_⟩⟩
  · obtain ⟨different, before⟩ := entries entry
    obtain ⟨client, object, ofOther⟩ := keyed other a before
    exact ⟨client, (heap different before).trans object, ofOther⟩
  · rintro ⟨a, entry, object⟩
    obtain ⟨different, before⟩ := entries entry
    exact ⟨different, a, before, (heap different before).symm.trans object⟩
  · rintro ⟨different, a, entry, object⟩
    exact ⟨a, (ByteMap.erase_of_ne _ different).trans entry, (heap different entry).trans object⟩

/-- The port's client is taken out and deleted, unless it is connected. -/
theorem run_cleanupPort (keyed : Keyed s) (held : s.clientsMutexHeld = true) :
    (∃ client, Serves s port client ∧ client.connected = true ∧
      ∃ t, (cleanupPort port).run s = .error .selfDeadlock t) ∨
    ((∀ client, Serves s port client → client.connected = false) ∧
      ∃ next, (cleanupPort port).run s = .ok () next ∧ Without port s next) := by
  rw [cleanupPort, EStateM.run_bind]
  match entry : s.clients port with
  | none =>
    have vacant (client : Client) : ¬ Serves s port client := by simp [Serves, entry]
    rw [run_takeDisconnected_absent entry]
    exact .inr ⟨fun client serves => absurd serves (vacant client), _, rfl, without_insert_null keyed held entry⟩
  | some none =>
    have vacant (client : Client) : ¬ Serves s port client := by simp [Serves, entry]
    rw [run_takeDisconnected_null entry]
    exact .inr ⟨fun client serves => absurd serves (vacant client), _, rfl, without_self keyed held vacant⟩
  | some (some address) =>
    obtain ⟨client, object, ofPort⟩ := keyed port address entry
    have only (other : Client) (serves : Serves s port other) : other = client := by
      obtain ⟨a, entry', object'⟩ := serves
      rw [entry, Option.some.injEq, Option.some.injEq] at entry'
      rw [← entry', object] at object'
      exact (Option.some.inj object').symm
    cases connected : client.connected with
    | true =>
      rw [run_takeDisconnected_connected held entry object connected]
      exact .inl ⟨client, ⟨address, entry, object⟩, connected, _, rfl⟩
    | false =>
      rw [run_takeDisconnected_closed entry object connected, ofPort]
      refine .inr ⟨fun other serves => only other serves ▸ connected, _, ?_, without_erase keyed held entry⟩
      exact run_delete object

theorem run_cleanupPorts (ports : List UInt8) (keyed : Keyed s) (held : s.clientsMutexHeld = true) :
    ((∀ port ∈ ports, ∀ client, Serves s port client → client.connected = false) ∧
      ∃ t, (cleanupPorts ports).run s = .ok () t) ∨
    ((∃ port ∈ ports, ∃ client, Serves s port client ∧ client.connected = true) ∧
      ∃ t, (cleanupPorts ports).run s = .error .selfDeadlock t) := by
  induction ports generalizing s with
  | nil => exact .inl ⟨by simp, s, rfl⟩
  | cons port ports ih =>
    rw [cleanupPorts, EStateM.run_bind]
    rcases run_cleanupPort keyed held with ⟨client, serves, connected, t, run⟩ | ⟨closed, next, run, without⟩
    · rw [run]
      exact .inr ⟨⟨port, by simp, client, serves, connected⟩, t, rfl⟩
    · rw [run]
      rcases ih without.keyed without.held with
        ⟨quiet, t, later⟩ | ⟨⟨other, member, client, serves, connected⟩, t, later⟩
      · refine .inl ⟨fun other member client serves => ?_, t, later⟩
        rcases Classical.em (other = port) with rfl | different
        · exact closed client serves
        · exact quiet other (List.mem_of_ne_of_mem different member) client
            ((without.serves other client).mpr ⟨different, serves⟩)
      · exact .inr ⟨⟨other, by simp [member], client, ((without.serves other client).mp serves).2, connected⟩, t, later⟩

theorem releases_cleanupClients (keyed : Keyed s) (free : s.clientsMutexHeld = false)
    (results : ClientPtr → WriteResults) :
    ReleasesMutex (cleanupClients.run s) ↔ RegistryOperation.Accepted s results .cleanupClients := by
  have locked : Keyed { s with clientsMutexHeld := true } := keyed
  rw [cleanupClients, underClientsMutex, EStateM.run_bind, run_lockClients_free free]
  dsimp only
  rw [EStateM.run_bind, EStateM.run_bind, EStateM.run_get]
  dsimp only
  rw [EStateM.run_bind]
  rcases run_cleanupPorts s.disconnectedClients locked rfl with
    ⟨quiet, t, run⟩ | ⟨⟨port, member, client, serves, connected⟩, t, run⟩
  · rw [run]
    refine iff_of_true (releasesMutex_ok rfl) fun port member address client entry object => ?_
    exact quiet port member client ⟨address, entry, object⟩
  · rw [run]
    refine iff_of_false (not_releasesMutex_error t) fun quiet => ?_
    obtain ⟨address, entry, object⟩ := serves
    simp [quiet port member address client entry object] at connected

/-! ## All operations -/

theorem keyed_of_registered (registered : s.Registered) : Keyed s := by
  intro port address entry
  obtain ⟨_, client, same, object, ofPort⟩ := registered port _ entry
  obtain rfl := Option.some.inj same
  exact ⟨client, object, ofPort⟩

theorem releases_of_onlyWrites (registered : s.Registered) (free : s.clientsMutexHeld = false)
    (results : ClientPtr → WriteResults) {operation : RegistryOperation} (onlyWrites : operation.OnlyWrites s) :
    ReleasesMutex ((operation.perform results).run s) ↔ operation.Accepted s results := by
  rcases run_perform registered free results onlyWrites with ⟨accepted, run⟩ | ⟨refused, address, client, -, run⟩
  · rw [run]
    exact iff_of_true (releasesMutex_ok free) accepted
  · rw [run]
    exact iff_of_false (not_releasesMutex_error _) refused

/-- One client is registered, for port 5. -/
def oneClient : Registry where
  heap := Function.update (fun _ => none) 0 (some { appPort := 5, virtualChannel := 0 })
  clients := ByteMap.empty.insert 5 (some 0)

theorem oneClient_registered : oneClient.Registered := by
  intro port cli entry
  rcases Classical.em (port = 5) with rfl | other
  · exact ⟨0, { appPort := 5, virtualChannel := 0 }, by simpa [oneClient, eq_comm] using entry, rfl, rfl⟩
  · simp [oneClient, ByteMap.insert_of_ne _ _ other] at entry

/-- A message of one byte for its port. -/
def oneDelivery : Delivery := ⟨some [1], 1, codeSuccess, 5⟩

/-- The message is empty: its last write returns zero. -/
def emptyDelivery : Delivery := ⟨some [], 0, codeSuccess, 5⟩

end S3tp.Soundness
