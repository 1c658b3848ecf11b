import S3tp.Soundness.Reentrancy

/-! # Tearing the clients down

The loop of the destructor runs until no client is registered. Killing a client closes its connection, and
the callback notes the port for the next cleanup: neither takes the client out of the map, and no cleanup
comes any more. So the loop ends at once or not at all, and kills the client of the least port in every pass.
-/

namespace S3tp.Soundness

open Model.Core

/-! ## Computations that leave the map alone -/

/-- A computation that returns has not changed `clients`. -/
def KeepsClients {α : Type} (body : RegistryM α) : Prop :=
  ∀ s result t, body.run s = .ok result t → t.clients = s.clients

section Computations

variable {α β : Type} {cli : ClientPtr}

theorem keepsClients_pure (result : α) : KeepsClients (pure result : RegistryM α) := by
  intro s _ t returned
  cases returned
  rfl

theorem keepsClients_throw (fault : Fault) : KeepsClients (throw fault : RegistryM α) := by
  intro s _ t returned
  cases returned

theorem keepsClients_modify {f : Registry → Registry} (same : ∀ s, (f s).clients = s.clients) :
    KeepsClients (modify f : RegistryM Unit) := by
  intro s _ t returned
  cases returned
  exact same s

/-- What a sequence that returns has done. -/
theorem run_bind_eq_ok {first : RegistryM α} {next : α → RegistryM β} {s t : Registry} {result : β}
    (returned : (first >>= next).run s = .ok result t) :
    ∃ value mid, first.run s = .ok value mid ∧ (next value).run mid = .ok result t := by
  rw [EStateM.run_bind] at returned
  cases begun : first.run s with
  | ok value mid => exact ⟨value, mid, rfl, by rw [begun] at returned; exact returned⟩
  | error fault mid =>
    rw [begun] at returned
    cases returned

theorem KeepsClients.bind {first : RegistryM α} {next : α → RegistryM β} (kept : KeepsClients first)
    (later : ∀ value, KeepsClients (next value)) : KeepsClients (first >>= next) := by
  intro s result t returned
  obtain ⟨value, mid, begun, ended⟩ := run_bind_eq_ok returned
  rw [later value mid result t ended, kept s value mid begun]

theorem keepsClients_get : KeepsClients (get : RegistryM Registry) := by
  intro s _ t returned
  cases returned
  rfl

theorem keepsClients_lock : KeepsClients lockClients := by
  intro s _ t returned
  rcases Bool.eq_false_or_eq_true s.clientsMutexHeld with held | free
  · rw [run_lockClients_held held] at returned
    cases returned
  · rw [run_lockClients_free free] at returned
    cases returned
    rfl

theorem keepsClients_unlock : KeepsClients unlockClients := keepsClients_modify fun _ => rfl

theorem keepsClients_dereference (cli : ClientPtr) : KeepsClients (dereference cli) := by
  cases cli with
  | none => exact keepsClients_throw _
  | some address =>
    apply keepsClients_get.bind
    intro s
    split
    · exact keepsClients_throw _
    · exact keepsClients_pure _

theorem keepsClients_onDisconnected (cli : ClientPtr) : KeepsClients (onDisconnected cli) := by
  apply keepsClients_lock.bind
  intro _
  apply KeepsClients.bind
  · exact (keepsClients_dereference cli).bind fun _ => keepsClients_modify fun _ => rfl
  · exact fun _ => keepsClients_unlock

theorem keepsClients_close (cli : ClientPtr) : KeepsClients (Client.close cli) := by
  apply (keepsClients_dereference cli).bind
  intro client
  cases cli with
  | none => exact keepsClients_throw _
  | some address => exact keepsClients_modify fun _ => rfl

theorem keepsClients_handleConnectionClosed (cli : ClientPtr) : KeepsClients (Client.handleConnectionClosed cli) :=
  (keepsClients_close cli).bind fun _ => keepsClients_onDisconnected cli

/-- Killing a client does not take it out of the map. -/
theorem keepsClients_kill (cli : ClientPtr) : KeepsClients (Client.kill cli) := by
  apply KeepsClients.bind
  · exact (keepsClients_dereference cli).bind fun _ => keepsClients_pure _
  · intro connected
    split
    · exact keepsClients_pure _
    · exact (keepsClients_close cli).bind fun _ => keepsClients_onDisconnected cli

theorem keepsClients_connectionsClosed (clis : List ClientPtr) : KeepsClients (connectionsClosed clis) := by
  induction clis with
  | nil => exact keepsClients_pure _
  | cons cli others ih => exact (keepsClients_handleConnectionClosed cli).bind fun _ => ih

end Computations

/-! ## The loop -/

variable {s t : Registry} {closed : ℕ → List ClientPtr} {passes : ℕ} {killed : List ClientPtr} {ended : Bool}

/-- The loop ends, and has killed every registered client once. -/
def TornDown (s : Registry) (closed : ℕ → List ClientPtr) : Prop :=
  ∃ passes killed t, (killClients closed passes).run s = .ok (killed, true) t ∧
    killed.Perm (s.clients.keys.map fun port => (s.clients port).getD none)

theorem killClients_of_none (none : s.clients.begin? = none) :
    (killClients closed (passes + 1)).run s = .ok ([], true) s := by
  rw [killClients, EStateM.run_bind, EStateM.run_get]
  dsimp only
  rw [none]
  rfl

/-- A pass of the loop kills the first client and leaves the map as it is. -/
theorem killClients_succ {port : UInt8} (first : s.clients.begin? = some port)
    (ran : (killClients closed (passes + 1)).run s = .ok (killed, ended) t) :
    ∃ mid others, mid.clients = s.clients ∧ killed = (s.clients port).getD none :: others ∧
      (killClients (fun pass => closed (pass + 1)) passes).run mid = .ok (others, ended) t := by
  rw [killClients, EStateM.run_bind, EStateM.run_get] at ran
  dsimp only at ran
  rw [first, EStateM.run_bind, EStateM.run_get] at ran
  dsimp only at ran
  obtain ⟨_, unlocked, unlocking, ran⟩ := run_bind_eq_ok ran
  obtain ⟨_, interrupted, closing, ran⟩ := run_bind_eq_ok ran
  obtain ⟨_, dead, killing, ran⟩ := run_bind_eq_ok ran
  obtain ⟨_, mid, locking, ran⟩ := run_bind_eq_ok ran
  obtain ⟨rest, last, looping, ran⟩ := run_bind_eq_ok ran
  cases ran
  refine ⟨mid, rest.1, ?_, rfl, looping⟩
  calc mid.clients = dead.clients := keepsClients_lock _ _ _ locking
    _ = interrupted.clients := keepsClients_kill _ _ _ _ killing
    _ = unlocked.clients := keepsClients_connectionsClosed _ _ _ _ closing
    _ = s.clients := keepsClients_unlock _ _ _ unlocking

/-- With a client registered the loop has not ended after any number of passes, and has killed the client of the
least port in each of them. -/
theorem killClients_repeats {port : UInt8} (first : s.clients.begin? = some port)
    (ran : (killClients closed passes).run s = .ok (killed, ended) t) :
    ended = false ∧ killed = List.replicate passes ((s.clients port).getD none) := by
  induction passes generalizing s closed killed with
  | zero =>
    cases ran
    exact ⟨rfl, rfl⟩
  | succ passes ih =>
    obtain ⟨mid, others, same, rfl, looping⟩ := killClients_succ first ran
    obtain ⟨going, repeated⟩ := ih (by rw [same]; exact first) looping
    rw [same] at repeated
    exact ⟨going, by rw [repeated, List.replicate_succ]⟩

theorem registered_disconnect (registered : s.Registered) {address : ℕ} {client : Client}
    (object : s.heap address = some client) : (s.disconnect address client).Registered := by
  intro port cli entry
  obtain ⟨other, client', rfl, object', ofPort⟩ := registered port cli entry
  by_cases same : other = address
  · subst same
    obtain rfl : client = client' := Option.some.inj (object.symm.trans object')
    exact ⟨other, { client with connected := false }, rfl, by simp [Registry.disconnect, Registry.assign], ofPort⟩
  · exact ⟨other, client', rfl, by simpa [Registry.disconnect, Registry.assign, same] using object', ofPort⟩

/-- Killing a client that exists returns. -/
theorem run_kill_free (registered : s.Registered) (free : s.clientsMutexHeld = false) {address : ℕ} {client : Client}
    (object : s.heap address = some client) : ∃ next, (Client.kill (some address)).run s = .ok () next ∧
      next.Registered ∧ next.clientsMutexHeld = false := by
  rw [Client.kill, EStateM.run_bind, run_isConnected object]
  dsimp only
  cases connected : client.connected with
  | false => exact ⟨s, rfl, registered, free⟩
  | true =>
    have still : (s.disconnect address client).heap address = some { client with connected := false } := by
      simp [Registry.disconnect, Registry.assign]
    simp only [Bool.not_true, Bool.false_eq_true, if_false]
    rw [Client.closeConnection, EStateM.run_bind, run_close object]
    exact ⟨_, run_onDisconnected_free free still, registered_disconnect registered object, rfl⟩

/-- Nothing stops the loop either: every pass returns. -/
theorem killClients_runs (registered : s.Registered) (held : s.clientsMutexHeld = true) (passes : ℕ) :
    ∃ result t, (killClients (fun _ => []) passes).run s = .ok result t := by
  induction passes generalizing s with
  | zero => exact ⟨_, s, rfl⟩
  | succ passes ih =>
    cases first : s.clients.begin? with
    | none => exact ⟨_, s, killClients_of_none first⟩
    | some port =>
      obtain ⟨cli, entry⟩ := Option.isSome_iff_exists.mp (ByteMap.isSome_of_begin? first)
      obtain ⟨address, client, rfl, object, -⟩ := registered port cli entry
      obtain ⟨next, killed, kept, free⟩ :=
        run_kill_free (s := { s with clientsMutexHeld := false }) registered rfl object
      obtain ⟨result, t, looping⟩ := ih (s := { next with clientsMutexHeld := true }) kept rfl
      refine ⟨(some address :: result.1, result.2), t, ?_⟩
      rw [killClients, EStateM.run_bind, EStateM.run_get]
      dsimp only
      rw [first, EStateM.run_bind, EStateM.run_get]
      dsimp only
      have unlocked : unlockClients.run s = .ok () { s with clientsMutexHeld := false } := rfl
      have nobody (u : Registry) : (connectionsClosed []).run u = .ok () u := rfl
      rw [entry, EStateM.run_bind, unlocked]
      dsimp only
      rw [EStateM.run_bind, nobody]
      dsimp only [Option.getD_some]
      rw [EStateM.run_bind, killed]
      dsimp only
      rw [EStateM.run_bind, run_lockClients_free free]
      dsimp only
      rw [EStateM.run_bind, looping]
      rfl

/-- The destructor gets past its loop exactly if no client is registered. -/
theorem teardown_iff (s : Registry) (closed : ℕ → List ClientPtr) :
    TornDown s closed ↔ ∀ port, s.clients port = none := by
  rw [← ByteMap.begin?_eq_none_iff]
  constructor
  · rintro ⟨passes, killed, t, ran, -⟩
    cases first : s.clients.begin? with
    | none => rfl
    | some port => exact absurd (killClients_repeats first ran).1 (by simp)
  · intro none
    refine ⟨1, [], s, killClients_of_none none, ?_⟩
    have keys : s.clients.keys = [] := List.head?_eq_none_iff.mp none
    rw [keys]
    exact List.Perm.nil

/-- One connected client is registered. -/
theorem teardown_oneClient :
    ¬ ∀ s : Registry, s.Registered → s.clientsMutexHeld = true → ∀ closed, TornDown s closed := by
  intro ends
  obtain ⟨passes, killed, t, ran, -⟩ :=
    ends { oneClient with clientsMutexHeld := true } oneClient_registered rfl fun _ => []
  have first : ({ oneClient with clientsMutexHeld := true } : Registry).clients.begin? = some 5 := rfl
  exact Bool.noConfusion (killClients_repeats first ran).1

end S3tp.Soundness
