import S3tp.Model.Concurrent.DaemonLocks
import S3tp.Soundness.LockOrder

/-! # How the daemon deadlocks

Above the modules, `s3tp_mutex` comes first, then `rx_mutex`, then `clients_mutex`, then the clients and the
transmitting module. Against that order go the callbacks of the policy actor, a thread that has kept `rx_mutex`, a
client's thread that closes its port while it is waited for, and the writes to clients that fail. Each of them can close
a circle of threads in one way, and nothing else can.
-/

namespace S3tp.Soundness.Deadlocks

open Machine Machine.LockState Model.Concurrent Model.Concurrent.DaemonLocks

variable {ι : Type*}

/-! ## How mutexes are nested -/

/-- What a thread may take with what it holds, innermost first. At the bottom is what others wait for when they join
it. -/
inductive Allowed : List (DaemonMutex ι) → DaemonMutex ι → Prop
  | nested {held : List Mutex} {x : Mutex} {t : DaemonThread ι} (nests : Nests held x) (transmits : t = .tx → OfTx x) :
      Allowed (held.map .inner ++ [.alive t]) (.inner x)
  | s3tp {t : DaemonThread ι} (other : t ≠ .tx) : Allowed [.alive t] .s3tp
  | clients {t : DaemonThread ι} (other : t ≠ .tx) : Allowed [.alive t] .clients
  | client {t : DaemonThread ι} (other : t ≠ .tx) (i : ι) : Allowed [.alive t] (.client i)
  | joinAssembly : Allowed [.alive .stopper] (.alive .assembly)
  | moduleInS3tp {t : DaemonThread ι} (other : t ≠ .tx) (side : Side) :
      Allowed [.s3tp, .alive t] (.inner (.module side))
  | joinTx : Allowed [.s3tp, .alive .stopper] (.alive .tx)
  | clientInClients {t : DaemonThread ι} (other : t ≠ .tx) (i : ι) : Allowed [.clients, .alive t] (.client i)
  | joinClient (i : ι) : Allowed [.clients, .alive .main] (.alive (.client i))
  | syncInClients {t : DaemonThread ι} : Allowed [.clients, .alive t] (.inner (.module .tx))
  | clientsInModule {t : DaemonThread ι} (other : t ≠ .tx) : Allowed [.inner (.module .rx), .alive t] .clients
  | clientInBoth {t : DaemonThread ι} (other : t ≠ .tx) (i : ι) :
      Allowed [.clients, .inner (.module .rx), .alive t] (.client i)
  | syncInBoth {t : DaemonThread ι} : Allowed [.clients, .inner (.module .rx), .alive t] (.inner (.module .tx))
  | s3tpInModule : Allowed [.inner (.module .rx), .alive .assembly] .s3tp
  | again {held : List (DaemonMutex ι)} {x : DaemonMutex ι} (own : x ∈ held)
      (which : x = .clients ∨ x = .inner (.module .rx)) : Allowed held x

abbrev Nested (held : List (DaemonMutex ι)) (script : DaemonScript ι) : Prop := Balanced Allowed held script

variable {held : List (DaemonMutex ι)} {t : DaemonThread ι}

theorem nested_under {mutex : DaemonMutex ι} {body : DaemonScript ι} (may : Allowed held mutex)
    (inner : Nested (mutex :: held) body) : Nested held (under mutex body) := Balanced.bracket may inner

theorem nested_critical {mutex : DaemonMutex ι} (may : Allowed held mutex) : Nested held (under mutex []) :=
  nested_under may .nil

/-- What the modules do, all threads but the transmit thread may do. -/
theorem nested_inModules {script : Script} (other : t ≠ .tx) (nested : Soundness.Nested [] script) :
    Nested [.alive t] (inModules script) := by
  have allows (held : List Mutex) (x : Mutex) (nests : Nests held x) :
      Allowed (held.map .inner ++ [.alive t]) (.inner x) := .nested nests fun same => absurd same other
  exact nested.map allows

theorem allowed_module (other : t ≠ .tx) (side : Side) : Allowed [.alive t] (.inner (.module side)) :=
  @Allowed.nested ι [] (.module side) t (.outermost _) fun same => absurd same other

theorem nested_inModule (other : t ≠ .tx) (side : Side) : Nested [.alive t] (inModule side) :=
  nested_critical (allowed_module other side)

/-! ## The calls of the threads -/

theorem nested_isConnected (other : t ≠ .tx) (i : ι) : Nested [.alive t] (isConnected i) :=
  nested_critical (.client other i)

theorem nested_closeConnection (other : t ≠ .tx) (i : ι) : Nested [.alive t] (closeConnection i) :=
  (nested_isConnected other i).append (nested_critical (.clients other))

/-- A failed write takes `clients_mutex` again. -/
theorem nested_writing (may : Allowed held .clients) (inner : ∀ i, Allowed (.clients :: held) (.client i))
    (clients : Writing ι) : Nested held (writing clients) := by
  cases clients with
  | succeeded => exact nested_critical may
  | failed i =>
    exact nested_under may ((nested_critical (inner i)).append (nested_critical (.again (by simp) (.inl rfl))))

theorem nested_synchronizeStatus (may : Allowed held .clients)
    (inner : Allowed (.clients :: held) (.inner (.module .tx))) (any : Bool) : Nested held (synchronizeStatus any) := by
  refine nested_under may ?_
  cases any with
  | true => exact nested_critical inner
  | false => exact .nil

theorem nested_cleanupClients (killed : List ι) : Nested [.alive .main] (cleanupClients killed) :=
  nested_under (.clients (by simp)) (.flatMap fun i _ =>
    (nested_critical (.clientInClients (by simp) i)).append (nested_critical (.joinClient i)))

theorem nested_onConnected : Nested [.alive .main] (onConnected (ι := ι)) :=
  ((nested_critical (.clients (by simp))).append (nested_inModule (by simp) .rx)).append
    (nested_synchronizeStatus (.clients (by simp)) .syncInClients true)

theorem nested_acceptPass (accepting : Accepting ι) : Nested [.alive .main] (acceptPass accepting) := by
  have looks : Nested [.alive .main] (getClientConnectedToPort (ι := ι)) := nested_critical (.clients (by simp))
  cases accepting with
  | unread killed => exact nested_cleanupClients killed
  | refused killed => exact (nested_cleanupClients killed).append looks
  | accepted killed => exact ((nested_cleanupClients killed).append looks).append nested_onConnected

theorem nested_stop : Nested [.alive .stopper] (stop (ι := ι)) := by
  have other : DaemonThread.stopper (ι := ι) ≠ .tx := by simp
  refine ((nested_under (.s3tp other) ?_).append (nested_critical .joinAssembly)).append (nested_critical (.s3tp other))
  exact ((nested_critical (.moduleInS3tp other .tx)).append (nested_critical .joinTx)).append
    (nested_critical (.moduleInS3tp other .rx))

theorem nested_sendToLinkLayer (other : t ≠ .tx) (handing : Handing) :
    Nested [.alive t] (sendToLinkLayer handing) := by
  have tests : Nested [.alive t] (under .s3tp []) := nested_critical (.s3tp other)
  have asks := nested_inModule other .tx
  cases handing with
  | inactive => exact tests
  | blocked => exact tests.append asks
  | tested port packets =>
    have size : Soundness.Nested [] (BufferLocks.getSizeOfQueue .tx port) :=
      nested_locked (.outermost _) (nested_getSize (.queueInBuffer .tx port))
    exact ((((tests.append asks).append (nested_inModules other size)).append asks)).append
      (nested_inModules other (.flatMap fun call _ => nested_enqueuePacket call))

theorem nested_clientPass (other : t ≠ .tx) (i : ι) (handing : Handing) : Nested [.alive t] (clientPass i handing) :=
  ((nested_isConnected other i).append (nested_isConnected other i)).append (nested_sendToLinkLayer other handing)

theorem nested_handleReceivedPacket (any : Bool) (receiving : RxModuleLocks.Receiving) :
    Nested [.alive .link] (DaemonLocks.handleReceivedPacket (ι := ι) any receiving) := by
  have other : DaemonThread.link (ι := ι) ≠ .tx := by simp
  cases receiving with
  | sync answers =>
    refine (nested_inModule other .rx).append (nested_under (allowed_module other .rx) ?_)
    cases answers with
    | true => exact nested_synchronizeStatus (.clientsInModule other) .syncInBoth any
    | false => exact .nil
  | _ => exact nested_inModules other (Soundness.nested_handleReceivedPacket _)

theorem nested_linkEvent (event : LinkEvent ι) : Nested [.alive .link] (linkEvent event) := by
  have other : DaemonThread.link (ι := ι) ≠ .tx := by simp
  have takes := allowed_module other .rx
  have writes (clients : Writing ι) : Nested [.inner (.module .rx), .alive .link] (writing clients) :=
    nested_writing (.clientsInModule other) (.clientInBoth other) clients
  cases event with
  | frame any receiving => exact nested_handleReceivedPacket any receiving
  | linkDown => exact nested_inModule other .rx
  | linkUp any clients =>
    have asks := nested_synchronizeStatus (.clientsInModule other) .syncInBoth any
    exact nested_under takes (asks.append (writes clients))
  | bufferEmpty clients =>
    have asks : Allowed [.inner (.module .rx), .alive .link] (.inner (.module .tx)) :=
      @Allowed.nested ι [.module .rx] (.module .tx) .link .syncCallback (by simp)
    exact nested_under takes ((nested_critical asks).append (writes clients))

/-- The tests of `rx_mutex` that `assemblyRoutine` makes with `s3tp_mutex`. -/
theorem nested_rxInS3tp : Nested [.s3tp, .alive .assembly] (inModule (ι := ι) .rx) :=
  nested_critical (.moduleInS3tp (by simp) .rx)

theorem nested_assemblyPass (assembling : Assembling ι) :
    Nested [.s3tp, .alive .assembly] (assemblyPass assembling) := by
  have other : DaemonThread.assembly (ι := ι) ≠ .tx := by simp
  cases assembling with
  | waits blocks =>
    refine ((nested_rxInS3tp.append nested_rxInS3tp).append nested_rxInS3tp).append ?_
    cases blocks with
    | true => exact Balanced.nil.around (.s3tp other)
    | false => exact .nil
  | forwards consuming releases clients =>
    have fetches : Nested [.alive (.assembly (ι := ι))]
        (inModules (RxModuleLocks.getNextCompleteMessage consuming)) := by
      refine nested_inModules other ((disciplined_getNextCompleteMessage consuming).2 ?_)
      rintro port wasLast rfl
      exact releases
    have both := fetches.append (nested_writing (.clients other) (.clientInClients other) clients)
    exact (nested_rxInS3tp.append nested_rxInS3tp).append (both.around (.s3tp other))

theorem disciplined_ending (last : Ending ι) : Disciplined Allowed [.s3tp, .alive .assembly] (ending last) := by
  have other : DaemonThread.assembly (ι := ι) ≠ .tx := by simp
  cases last with
  | inactive tests =>
    have releases : Disciplined Allowed [.s3tp, .alive (.assembly (ι := ι))]
        [.release .s3tp, .release (.alive .assembly)] := ⟨rfl, rfl, trivial⟩
    cases tests with
    | true => exact nested_rxInS3tp.disciplined_append releases
    | false => exact releases
  | keeping port wasLast clients tests =>
    have asks := nested_inModule other .rx
    have takes : Nested [.inner (.module .rx), .alive (.assembly (ι := ι))]
        (inModules (RxModuleLocks.takePackets port wasLast)) := by
      have allows (held : List Mutex) (x : Mutex) (nests : Nests held x) :
          Allowed (held.map .inner ++ [.alive (.assembly (ι := ι))]) (.inner x) :=
        .nested nests fun same => absurd same other
      exact (nested_takePackets port wasLast).map allows
    have writes := nested_writing (.clientsInModule other) (.clientInBoth other) clients
    have goesOn : Disciplined Allowed [.inner (.module .rx), .alive (.assembly (ι := ι))]
        [.acquire .s3tp, if tests then .acquire (.inner (.module .rx)) else .release .s3tp] := by
      cases tests with
      | true => exact ⟨.s3tpInModule, .again (by simp) (.inr rfl), trivial⟩
      | false => exact ⟨.s3tpInModule, rfl, trivial⟩
    refine (nested_rxInS3tp.append nested_rxInS3tp).disciplined_append ⟨rfl, ?_⟩
    have keeps := takes.disciplined_append (writes.disciplined_append goesOn)
    rw [← List.append_assoc] at keeps
    exact (asks.append asks).disciplined_append ⟨allowed_module other .rx, keeps⟩

theorem disciplined_leaving (i : ι) (tests : Bool) : Disciplined Allowed [.alive (.client i)] (leaving i tests) := by
  have other : DaemonThread.client i ≠ .tx := by simp
  refine Balanced.disciplined_append ((nested_inModule other .rx).append ?_) ⟨rfl, trivial⟩
  cases tests with
  | true => exact nested_isConnected other i
  | false => exact .nil

theorem disciplined_closing (i : ι) (last : Closing) : Disciplined Allowed [.alive (.client i)] (closing i last) := by
  have other : DaemonThread.client i ≠ .tx := by simp
  have asks := nested_isConnected other i
  have closes := nested_closeConnection other i
  cases last with
  | atRead => exact (asks.append closes).disciplined_append (disciplined_leaving i false)
  | inPayload => exact (asks.append closes).disciplined_append (disciplined_leaving i true)
  | inReply handing =>
    exact ((nested_clientPass other i handing).append closes).disciplined_append (disciplined_leaving i true)
  | elsewhere reads =>
    refine Balanced.disciplined_append (asks.append ?_) ⟨rfl, trivial⟩
    cases reads with
    | true => exact asks
    | false => exact .nil

/-! ## The transmit thread -/

section Transmitting

open PriorityQueueLocks BufferLocks TxModuleLocks

variable {x : Mutex}

theorem acquire_mem_locked {mutex : Mutex} {body : Script} :
    .acquire x ∈ locked mutex body ↔ x = mutex ∨ .acquire x ∈ body := by simp [locked]

theorem ofTx_of_popPacketInternal {port : UInt8} {popping : Popping}
    (member : .acquire x ∈ popPacketInternal .tx port popping) : OfTx x := by
  obtain rfl : x = .queue .tx port := by
    cases popping with
    | absent => simp [popPacketInternal] at member
    | taken wasLast =>
      cases wasLast <;> simpa [popPacketInternal, isEmpty, peek, pop, getSize, acquire_mem_locked] using member
    | _ => simpa [popPacketInternal, isEmpty, peek, acquire_mem_locked] using member
  rfl

theorem ofTx_of_fetch {fetching : Fetching} (member : .acquire x ∈ fetch fetching) : OfTx x := by
  cases fetching with
  | fragment port popping =>
    rcases acquire_mem_locked.mp member with rfl | popped
    · rfl
    · exact ofTx_of_popPacketInternal popped
  | any tried =>
    rcases acquire_mem_locked.mp member with rfl | popped
    · rfl
    · obtain ⟨_, -, popped⟩ := List.mem_flatMap.mp popped
      exact ofTx_of_popPacketInternal popped

theorem ofTx_of_turn {turn : Turn} (member : .acquire x ∈ TxModuleLocks.turn turn) : OfTx x := by
  have waits (within : .acquire x ∈ condWait) : OfTx x := by
    obtain rfl : x = .module .tx := by simpa [condWait] using within
    rfl
  have asks (within : .acquire x ∈ packetsAvailable .tx) : OfTx x := by
    obtain rfl : x = .buffer .tx := by simpa [packetsAvailable, acquire_mem_locked] using within
    rfl
  cases turn with
  | blocked => exact waits member
  | waiting => exact (List.mem_append.mp member).elim asks waits
  | refused fetching =>
    rcases List.mem_append.mp member with first | last
    · exact (List.mem_append.mp first).elim asks ofTx_of_fetch
    · exact waits last
  | sent fetching port =>
    rcases List.mem_append.mp member with first | last
    · exact (List.mem_append.mp first).elim asks ofTx_of_fetch
    · obtain (rfl | rfl) | rfl : (x = .buffer .tx ∨ x = .queue .tx port) ∨ x = .module .tx := by
        simpa [getSizeOfQueue, getSize, acquire_mem_locked] using last
      all_goals rfl

theorem ofTx_of_txRoutine {turns : List Turn} (member : .acquire x ∈ txRoutine turns) : OfTx x := by
  rcases acquire_mem_locked.mp member with rfl | taken
  · rfl
  · obtain ⟨_, -, taken⟩ := List.mem_flatMap.mp taken
    exact ofTx_of_turn taken

theorem nested_transmitting (turns : List Turn) : Nested [.alive (.tx (ι := ι))] (inModules (txRoutine turns)) := by
  have allows (held : List Mutex) (x : Mutex) (may : Nests held x ∧ OfTx x) :
      Allowed (held.map .inner ++ [.alive (.tx (ι := ι))]) (.inner x) := .nested may.1 fun _ => may.2
  exact ((nested_txRoutine turns).and fun _ => ofTx_of_txRoutine).map allows

end Transmitting

/-- Every thread nests its mutexes. -/
theorem disciplined_script (w : DaemonWorkload ι) (t : DaemonThread ι) :
    Disciplined Allowed [.alive t] (w.script t) := by
  cases t with
  | main => exact (Balanced.flatMap fun pass _ => nested_acceptPass pass).disciplined
  | stopper =>
    change Disciplined Allowed _ (if w.stops then stop else [])
    split
    · exact nested_stop.disciplined
    · trivial
  | client i =>
    exact Balanced.disciplined_append (.flatMap fun handing _ => nested_clientPass (by simp) i handing)
      (disciplined_closing i (w.closed i))
  | tx => exact (nested_transmitting w.turns).disciplined_append ⟨rfl, trivial⟩
  | link => exact (Balanced.flatMap fun event _ => nested_linkEvent event).disciplined
  | assembly =>
    exact ⟨.s3tp (by simp), Balanced.disciplined_append (.flatMap fun pass _ => nested_assemblyPass pass)
      (disciplined_ending w.ended)⟩

/-! ## What holds in every run -/

/-- With nothing held nothing may be taken. -/
theorem nil_of_disciplined {script : DaemonScript ι} (disciplined : Disciplined Allowed [] script) : script = [] := by
  have nonempty {held : List (DaemonMutex ι)} {x : DaemonMutex ι} (may : Allowed held x) : held ≠ [] := by
    cases may with
    | again own => exact List.ne_nil_of_mem own
    | _ => simp
  cases script with
  | nil => rfl
  | cons action rest =>
    cases action with
    | acquire x => exact absurd rfl (nonempty disciplined.1)
    | release x => simp [Disciplined] at disciplined

/-- A thread does not join itself. -/
theorem ne_alive_of_allowed {above : List (DaemonMutex ι)} {x : DaemonMutex ι}
    (may : Allowed (above ++ [.alive t]) x) : x ≠ .alive t := by
  rintro rfl
  have bottom : (above ++ [DaemonMutex.alive t]).getLast? = some (.alive t) := by simp
  generalize above ++ [DaemonMutex.alive t] = held at may bottom
  cases may with
  | again own which => simp at which
  | _ => simp at bottom

/-- Giving up its end is the last thing a thread does. -/
theorem ends_of_disciplined {script rest : DaemonScript ι} {above : List (DaemonMutex ι)}
    (disciplined : Disciplined Allowed (above ++ [.alive t]) script) (fresh : .alive t ∉ above)
    (ends : .release (.alive t) :: rest <:+ script) : rest = [] := by
  induction script generalizing above with
  | nil => simp at ends
  | cons action later ih =>
    rcases List.suffix_cons_iff.mp ends with same | within
    · obtain ⟨rfl, rfl⟩ := List.cons.inj same
      obtain ⟨inner, disciplined⟩ := disciplined
      cases above with
      | nil => exact nil_of_disciplined disciplined
      | cons x above =>
        obtain rfl : x = .alive t := by simpa using inner
        simp at fresh
    · cases action with
      | acquire x =>
        have other := ne_alive_of_allowed disciplined.1
        have goesOn : Disciplined Allowed ((x :: above) ++ [.alive t]) later := disciplined.2
        exact ih goesOn (by simp [fresh, other.symm]) within
      | release x =>
        cases above with
        | nil =>
          obtain rfl := nil_of_disciplined disciplined.2
          simp at within
        | cons y above => exact ih disciplined.2 (fun member => fresh (by simp [member])) within

/-- A client's thread is joined under `clients_mutex`. -/
theorem held_of_joinClient {i : ι} (may : Allowed held (.alive (.client i))) : held = [.clients, .alive .main] := by
  cases may with
  | again own which => simp at which
  | joinClient => rfl

/-- What holds in every state the daemon gets to. -/
structure Reached (w : DaemonWorkload ι) (s : LockState (DaemonThread ι) (DaemonMutex ι)) : Prop where
  stacked : ∃ stack, s.Stacked Allowed stack
  remains : ∀ t, s.script t <:+ w.script t
  lives : ∀ t, s.holder (.alive t) = some t ∨ s.script t = []
  listed : ∀ t i, s.Awaits t (.alive (.client i)) → Listed s i

variable {w : DaemonWorkload ι} {s next : LockState (DaemonThread ι) (DaemonMutex ι)}

theorem reached_started (w : DaemonWorkload ι) : Reached w w.started where
  stacked := by
    refine ⟨fun t => [.alive t], disciplined_script w, fun t x => ?_, fun t => List.nodup_singleton _⟩
    cases x <;> simp [DaemonWorkload.started]
  remains _ := List.suffix_refl _
  lives _ := .inl rfl
  listed t i := by
    rintro ⟨rest, now⟩
    have disciplined := disciplined_script w t
    rw [show w.script t = _ from now] at disciplined
    exact absurd (held_of_joinClient disciplined.1) (by simp)

theorem Reached.step [DecidableEq ι] (reached : Reached w s) (lists : KillsListed s t)
    (stepped : s.step t = some next) : Reached w next where
  stacked := by
    obtain ⟨stack, stacked⟩ := reached.stacked
    exact stacked.step stepped
  remains u := (script_isSuffix stepped u).trans (reached.remains u)
  lives u := by
    have finished (done : s.script u = []) : next.script u = [] :=
      List.suffix_nil.mp (done ▸ script_isSuffix stepped u)
    rcases reached.lives u with held | done
    · rcases step_cases stepped with ⟨x, rest, now, free, rfl⟩ | ⟨x, rest, now, own, rfl⟩
      · have other : DaemonMutex.alive u ≠ x := by
          rintro rfl
          simp [held] at free
        exact .inl (by simpa [other] using held)
      · rcases Classical.em (x = .alive u) with rfl | other
        · obtain rfl : u = t := Option.some.inj (held.symm.trans own)
          have ends : .release (.alive u) :: rest <:+ w.script u := now ▸ reached.remains u
          have disciplined : Disciplined Allowed ([] ++ [.alive u]) (w.script u) := disciplined_script w u
          obtain rfl := ends_of_disciplined disciplined (by simp) ends
          exact .inr (by simp)
        · exact .inl (by simpa [Ne.symm other] using held)
    · exact .inr (finished done)
  listed u i awaited := by
    have still : Listed s i → Listed next i := fun ⟨tests, leaves⟩ =>
      ⟨tests, (script_isSuffix stepped _).trans leaves⟩
    rcases Classical.em (u = t) with rfl | other
    · obtain ⟨later, now'⟩ := awaited
      rcases step_cases stepped with ⟨x, rest, now, -, rfl⟩ | ⟨x, rest, now, -, rfl⟩
      all_goals
        obtain rfl : rest = _ := by simpa using now'
        exact still (by simpa [KillsListed, now] using lists)
    · refine still (reached.listed u i ?_)
      rcases step_cases stepped with ⟨x, rest, now, -, rfl⟩ | ⟨x, rest, now, -, rfl⟩
      all_goals simpa [Awaits, other] using awaited

theorem reached_of_run [DecidableEq ι] {threads : List (DaemonThread ι)}
    (run : Run LockState.step KillsListed w.started threads s) : Reached w s :=
  run.invariant (fun _ _ _ reached lists stepped => Reached.step reached lists stepped) (reached_started w)

/-! ## Standstills -/

/-- The four ways in which threads of the daemon wait for each other in a circle. -/
inductive Standstill (s : LockState (DaemonThread ι) (DaemonMutex ι)) : Prop
  /-- A queue of a module compares, or its buffer tests the window, and calls back for the module's mutex while the
  module waits for the buffer or the queue. -/
  | calledBack {t u : DaemonThread ι} {side : Side} {x : Mutex}
      (buffered : x = .buffer side ∨ ∃ port, x = .queue side port) (holds : s.holder (.inner x) = some t)
      (awaits : s.Awaits t (.inner (.module side)))
      (holds' : s.holder (.inner (.module side)) = some u) (awaits' : s.Awaits u (.inner x))
  /-- A thread takes `clients_mutex` again, as a write under it has failed, or `rx_mutex`, which it has kept. -/
  | again {t : DaemonThread ι} {x : DaemonMutex ι} (which : x = .clients ∨ x = .inner (.module .rx))
      (holds : s.holder x = some t) (awaits : s.Awaits t x)
  /-- A thread that has kept `rx_mutex` takes `s3tp_mutex`, and whoever holds that one stops the receiving module. -/
  | kept {t u : DaemonThread ι} (holds : s.holder (.inner (.module .rx)) = some t) (awaits : s.Awaits t .s3tp)
      (holds' : s.holder .s3tp = some u) (awaits' : s.Awaits u (.inner (.module .rx)))
  /-- Under `clients_mutex` a thread waits for the end of a client's thread, which is about to close its port, while a
  callback of the link holds `rx_mutex` and is about to go through the clients. -/
  | joining {t u : DaemonThread ι} {i : ι} (holds : s.holder .clients = some t)
      (joins : s.Awaits t (.alive (.client i))) (lives : s.holder (.alive (.client i)) = some (.client i))
      (closes : s.Awaits (.client i) (.inner (.module .rx))) (holds' : s.holder (.inner (.module .rx)) = some u)
      (awaits : s.Awaits u .clients)

theorem deadlocked_of_standstill (standstill : Standstill s) : s.Deadlocked := by
  cases standstill with
  | @calledBack t u side x buffered holds awaits holds' awaits' =>
    exact ⟨t, .tail (.single ⟨_, awaits, holds'⟩) ⟨_, awaits', holds⟩⟩
  | @again t x which holds awaits => exact ⟨t, .single ⟨_, awaits, holds⟩⟩
  | @kept t u holds awaits holds' awaits' =>
    exact ⟨t, .tail (.single ⟨_, awaits, holds'⟩) ⟨_, awaits', holds⟩⟩
  | @joining t u i holds joins lives closes holds' awaits =>
    exact ⟨t, .tail (.tail (.single ⟨_, joins, lives⟩) ⟨_, closes, holds'⟩) ⟨_, awaits, holds⟩⟩

section Cycles

variable {stack : DaemonThread ι → List (DaemonMutex ι)} {u : DaemonThread ι} {x y : DaemonMutex ι}

/-- The mutexes of the transmitting module, and the end of its thread. -/
def Transmits : DaemonMutex ι → Prop
  | .inner x => OfTx x
  | .alive t => t = .tx
  | _ => False

variable (stacked : s.Stacked Allowed stack) (moves : ¬ Standstill s)

include stacked moves

/-- Nobody takes what he holds. -/
theorem not_again (awaits : s.Awaits t y) (own : y ∈ stack t) : y ≠ .clients ∧ y ≠ .inner (.module .rx) := by
  have holds := (stacked.holds t y).mp own
  exact ⟨fun which => moves (.again (.inl which) holds awaits), fun which => moves (.again (.inr which) holds awaits)⟩

/-- The transmitting module asks nothing back. -/
theorem transmits_of_holder (holds : s.holder x = some t) (awaits : s.Awaits t y) (inside : Transmits x) :
    Transmits y := by
  have may := stacked.allows awaits
  have member := (stacked.holds t x).mpr holds
  have fresh := not_again stacked moves awaits
  generalize stack t = held at may member fresh
  cases may with
  | @nested held z t' nests transmits =>
    rcases List.mem_append.mp member with above | bottom
    · obtain ⟨z', own, rfl⟩ := List.mem_map.mp above
      exact ofTx_of_nests nests own inside
    · obtain rfl := List.mem_singleton.mp bottom
      exact transmits inside
  | again own which => exact absurd which (not_or.mpr (fresh own))
  | joinTx | syncInClients | syncInBoth => rfl
  | _ =>
    simp only [List.mem_cons, List.not_mem_nil, or_false] at member
    rcases member with rfl | rfl | rfl <;> simp_all [Transmits, OfTx]

/-- Nobody waits with the mutex of a client. -/
theorem not_awaits_of_client {i : ι} (holds : s.holder (.client i) = some t) : ¬ s.Awaits t y := by
  intro awaits
  have may := stacked.allows awaits
  have member := (stacked.holds t _).mpr holds
  have fresh := not_again stacked moves awaits
  generalize stack t = held at may member fresh
  cases may with
  | again own which => exact absurd which (not_or.mpr (fresh own))
  | _ => simp at member

/-- With the mutex of a queue, a thread waits for the module to compare. -/
theorem compares_of_queue {side : Side} {port : UInt8} (holds : s.holder (.inner (.queue side port)) = some t)
    (awaits : s.Awaits t y) : .inner (.buffer side) ∈ stack t ∧ y = .inner (.module side) := by
  have may := stacked.allows awaits
  have member := (stacked.holds t _).mpr holds
  have fresh := not_again stacked moves awaits
  generalize stack t = held at may member fresh ⊢
  cases may with
  | nested nests => cases nests <;> simp_all
  | again own which => exact absurd which (not_or.mpr (fresh own))
  | _ => simp at member

/-- With the mutex of a buffer, a thread waits for the module or for one of the queues. -/
theorem awaits_of_buffer {side : Side} (holds : s.holder (.inner (.buffer side)) = some t) (awaits : s.Awaits t y) :
    y = .inner (.module side) ∨ ∃ port, y = .inner (.queue side port) := by
  have may := stacked.allows awaits
  have member := (stacked.holds t _).mpr holds
  have fresh := not_again stacked moves awaits
  generalize stack t = held at may member fresh
  cases may with
  | nested nests => cases nests <;> simp_all
  | again own which => exact absurd which (not_or.mpr (fresh own))
  | _ => simp at member

/-- With the mutex of a module, nobody on the way to a circle waits for the buffer or one of the queues. -/
theorem not_inward (cycle : Relation.TransGen s.WaitsFor u u) {side : Side} {x : Mutex}
    (buffered : x = .buffer side ∨ ∃ port, x = .queue side port) (holds : s.holder (.inner (.module side)) = some t)
    (awaits : s.Awaits t (.inner x)) (back : Relation.ReflTransGen s.WaitsFor t u) : False := by
  obtain ⟨_, v, awaits', holds', back⟩ := onward cycle back
  obtain rfl := awaits.unique awaits'
  obtain ⟨y, v', waits, taken, back⟩ := onward cycle back
  rcases buffered with rfl | ⟨port, rfl⟩
  · rcases awaits_of_buffer stacked moves holds' waits with rfl | ⟨port, rfl⟩
    · exact moves (.calledBack (.inl rfl) holds' waits holds awaits)
    · -- Whoever compares in the queue has the buffer too.
      obtain ⟨_, _, waits', -, -⟩ := onward cycle back
      obtain ⟨inBuffer, -⟩ := compares_of_queue stacked moves taken waits'
      obtain rfl : v' = v := Option.some.inj (((stacked.holds _ _).mp inBuffer).symm.trans holds')
      have same := waits.unique waits'
      obtain ⟨-, rfl⟩ := compares_of_queue stacked moves taken waits'
      simp at same
  · obtain ⟨-, rfl⟩ := compares_of_queue stacked moves holds' waits
    exact moves (.calledBack (.inr ⟨port, rfl⟩) holds' waits holds awaits)

/-- Whoever waits and holds the end of a thread is that thread. -/
theorem eq_of_alive (lives : ∀ t, s.holder (.alive t) = some t ∨ s.script t = []) {v : DaemonThread ι}
    (holds : s.holder (.alive v) = some t) (awaits : s.Awaits t y) : t = v := by
  have goesOn : s.script t ≠ [] := by
    obtain ⟨rest, now⟩ := awaits
    simp [now]
  have own := (stacked.holds t _).mpr ((lives t).resolve_right goesOn)
  have member := (stacked.holds t _).mpr holds
  have may := stacked.allows awaits
  have fresh := not_again stacked moves awaits
  generalize stack t = held at may own member fresh
  cases may with
  | again within which => exact absurd which (not_or.mpr (fresh within))
  | _ => simp_all

omit stacked moves in
/-- A client's thread that is on the list closes its port, or tests the connection a last time. -/
theorem awaits_of_listed {i : ι} (listed : Listed s i) (awaits : s.Awaits (.client i) y) :
    y = .inner (.module .rx) ∨ y = .client i := by
  obtain ⟨tests, leaves⟩ := listed
  obtain ⟨rest, now⟩ := awaits
  have member : .acquire y ∈ leaving i tests := leaves.subset (by simp [now])
  cases tests with
  | true => simpa [leaving, inModule, isConnected, under] using member
  | false => exact .inl (by simpa [leaving, inModule, under] using member)

/-- With `s3tp_mutex`, a thread waits for the receiving module, or for what the transmitting one gives back. -/
theorem awaits_of_s3tp (holds : s.holder .s3tp = some t) (awaits : s.Awaits t y) :
    y = .inner (.module .rx) ∨ Transmits y := by
  have may := stacked.allows awaits
  have member := (stacked.holds t _).mpr holds
  have fresh := not_again stacked moves awaits
  generalize stack t = held at may member fresh
  cases may with
  | again own which => exact absurd which (not_or.mpr (fresh own))
  | moduleInS3tp other side =>
    cases side with
    | rx => exact .inl rfl
    | tx => exact .inr rfl
  | joinTx => exact .inr rfl
  | _ => simp at member

/-- With `clients_mutex`, a thread waits for a client, or for what the transmitting module gives back. -/
theorem awaits_of_clients (holds : s.holder .clients = some t) (awaits : s.Awaits t y) :
    (∃ i, y = .client i) ∨ (∃ i, y = .alive (.client i)) ∨ Transmits y := by
  have may := stacked.allows awaits
  have member := (stacked.holds t _).mpr holds
  have fresh := not_again stacked moves awaits
  generalize stack t = held at may member fresh
  cases may with
  | again own which => exact absurd which (not_or.mpr (fresh own))
  | clientInClients other i | clientInBoth other i => exact .inl ⟨i, rfl⟩
  | joinClient i => exact .inr (.inl ⟨i, rfl⟩)
  | syncInClients | syncInBoth => exact .inr (.inr rfl)
  | _ => simp at member

/-- No circle passes through a thread that waits for the receiving module. -/
theorem rx_not_awaited (lives : ∀ t, s.holder (.alive t) = some t ∨ s.script t = [])
    (listed : ∀ t i, s.Awaits t (.alive (.client i)) → Listed s i) (awaited : s.Awaits u (.inner (.module .rx))) :
    ¬ Relation.TransGen s.WaitsFor u u := by
  intro cycle
  obtain ⟨_, v, first, holds, back⟩ := onward cycle .refl
  obtain rfl := awaited.unique first
  obtain ⟨y, v', awaits, holds', back'⟩ := onward cycle back
  have away {t : DaemonThread ι} {y : DaemonMutex ι} (awaits : s.Awaits t y)
      (back : Relation.ReflTransGen s.WaitsFor t u) (transmits : Transmits y) : False := by
    have end' := closed_of_path (fun _ _ _ => transmits_of_holder stacked moves) awaits transmits back awaited
    simp [Transmits, OfTx] at end'
  have may := stacked.allows awaits
  have member := (stacked.holds v _).mpr holds
  have fresh := not_again stacked moves awaits
  generalize stack v = held at may member fresh
  cases may with
  | again within which => exact absurd which (not_or.mpr (fresh within))
  | nested nests =>
    cases nests with
    | bufferInModule side =>
      obtain rfl : side = .rx := by simpa [eq_comm] using member
      exact not_inward stacked moves cycle (.inl rfl) holds awaits back
    | queueInModule side port =>
      obtain rfl : side = .rx := by simpa [eq_comm] using member
      exact not_inward stacked moves cycle (.inr ⟨port, rfl⟩) holds awaits back
    | queueInBoth side port =>
      obtain rfl : side = .rx := by simpa [eq_comm] using member
      exact not_inward stacked moves cycle (.inr ⟨port, rfl⟩) holds awaits back
    | syncCallback => exact away awaits back rfl
    | _ => simp at member
  | syncInBoth => exact away awaits back rfl
  | clientInBoth other i =>
    obtain ⟨z, _, waits, -, -⟩ := onward cycle back'
    exact not_awaits_of_client stacked moves holds' waits
  | s3tpInModule =>
    obtain ⟨z, _, waits, -, -⟩ := onward cycle back'
    rcases awaits_of_s3tp stacked moves holds' waits with rfl | transmits
    · exact moves (.kept holds awaits holds' waits)
    · exact away waits back' transmits
  | clientsInModule other =>
    obtain ⟨z, v'', waits, taken, back''⟩ := onward cycle back'
    obtain ⟨z', v''', waits', taken', back'''⟩ := onward cycle back''
    rcases awaits_of_clients stacked moves holds' waits with ⟨i, rfl⟩ | ⟨i, rfl⟩ | transmits
    · exact not_awaits_of_client stacked moves taken waits'
    · -- The thread that is joined closes its port.
      obtain rfl := eq_of_alive stacked moves lives taken waits'
      rcases awaits_of_listed (listed v' i waits) waits' with rfl | rfl
      · exact moves (.joining holds' waits taken waits' holds awaits)
      · obtain ⟨_, _, waits, -, -⟩ := onward cycle back'''
        exact not_awaits_of_client stacked moves taken' waits
    · exact away waits back' transmits
  | _ => simp at member

/-- No circle passes through a thread that waits for the transmitting module. -/
theorem tx_not_awaited (awaited : s.Awaits u (.inner (.module .tx))) : ¬ Relation.TransGen s.WaitsFor u u := by
  intro cycle
  obtain ⟨_, v, first, holds, back⟩ := onward cycle .refl
  obtain rfl := awaited.unique first
  obtain ⟨y, v', awaits, holds', back'⟩ := onward cycle back
  have may := stacked.allows awaits
  have member := (stacked.holds v _).mpr holds
  have fresh := not_again stacked moves awaits
  generalize stack v = held at may member fresh
  cases may with
  | again within which => exact absurd which (not_or.mpr (fresh within))
  | nested nests =>
    cases nests with
    | bufferInModule side =>
      obtain rfl : side = .tx := by simpa [eq_comm] using member
      exact not_inward stacked moves cycle (.inl rfl) holds awaits back
    | queueInModule side port =>
      obtain rfl : side = .tx := by simpa [eq_comm] using member
      exact not_inward stacked moves cycle (.inr ⟨port, rfl⟩) holds awaits back
    | queueInBoth side port =>
      obtain rfl : side = .tx := by simpa [eq_comm] using member
      exact not_inward stacked moves cycle (.inr ⟨port, rfl⟩) holds awaits back
    | _ => simp at member
  | _ => simp at member

/-- The order in which the mutexes are nested where no thread calls back. -/
def rank : DaemonMutex ι → ℕ
  | .alive .main | .alive .stopper | .alive .link => 0
  | .alive .assembly => 1
  | .s3tp => 2
  | .alive .tx => 3
  | .inner (.module .rx) => 4
  | .inner (.buffer .rx) => 5
  | .inner (.queue .rx _) => 6
  | .clients => 7
  | .alive (.client _) => 8
  | .client _ => 9
  | .inner (.module .tx) => 10
  | .inner (.buffer .tx) => 11
  | .inner (.queue .tx _) => 12

omit stacked moves in
/-- Of the ends of threads only those that are joined rank high. -/
theorem rank_alive (other : t ≠ .tx) (joined : ∀ i, t = .client i → y = .client i) (above : 1 < rank y) :
    rank (.alive t) < rank y := by
  cases t with
  | client i =>
    obtain rfl := joined i rfl
    simp [rank]
  | tx => exact absurd rfl other
  | _ => exact Nat.lt_of_le_of_lt (by simp [rank]) above

omit stacked moves in
/-- Where nobody waits for a module, and whoever is joined waits for its own mutex, mutexes are taken in order. -/
theorem rank_lt_of_allowed (may : Allowed held y) (inside : x ∈ held)
    (fresh : y ∈ held → y ≠ .clients ∧ y ≠ .inner (.module .rx))
    (notModule : ∀ side, y ≠ .inner (.module side)) (notKept : x = .inner (.module .rx) → y ≠ .s3tp)
    (joined : ∀ t i, x = .alive t → t = .client i → y = .client i) : rank x < rank y := by
  cases may with
  | again within which => exact absurd which (not_or.mpr (fresh within))
  | moduleInS3tp other side => exact absurd rfl (notModule side)
  | syncInClients | syncInBoth => exact absurd rfl (notModule .tx)
  | @nested held z t nests transmits =>
    rcases List.mem_append.mp inside with above | bottom
    · obtain ⟨z', own, rfl⟩ := List.mem_map.mp above
      cases nests with
      | outermost => simp at own
      | windowCallback side | compareCallback side port => exact absurd rfl (notModule side)
      | syncCallback => exact absurd rfl (notModule .tx)
      | bufferInModule side | queueInModule side port | queueInBuffer side port | queueInBoth side port =>
        simp only [List.mem_cons, List.not_mem_nil, or_false] at own
        rcases own with rfl | rfl <;> cases side <;> simp [rank]
    · obtain rfl := List.mem_singleton.mp bottom
      rcases Classical.em (t = .tx) with rfl | other
      · have side := transmits rfl
        cases z <;> cases side <;> simp [rank]
      · refine rank_alive other (fun i => joined t i rfl) ?_
        rcases z with side | side | ⟨side, port⟩ <;> cases side <;> simp [rank]
  | s3tp other | clients other | client other =>
    obtain rfl := List.mem_singleton.mp inside
    exact rank_alive other (fun i => joined _ i rfl) (by simp [rank])
  | joinAssembly =>
    obtain rfl := List.mem_singleton.mp inside
    simp [rank]
  | s3tpInModule =>
    rcases List.mem_cons.mp inside with rfl | bottom
    · exact absurd rfl (notKept rfl)
    · obtain rfl := List.mem_singleton.mp bottom
      simp [rank]
  | joinTx | joinClient =>
    simp only [List.mem_cons, List.not_mem_nil, or_false] at inside
    rcases inside with rfl | rfl <;> simp [rank]
  | clientInClients other | clientsInModule other =>
    simp only [List.mem_cons, List.not_mem_nil, or_false] at inside
    rcases inside with rfl | rfl
    · simp [rank]
    · exact rank_alive other (fun i => joined _ i rfl) (by simp [rank])
  | clientInBoth other =>
    simp only [List.mem_cons, List.not_mem_nil, or_false] at inside
    rcases inside with rfl | rfl | rfl
    · simp [rank]
    · simp [rank]
    · exact rank_alive other (fun i => joined _ i rfl) (by simp [rank])

theorem rank_lt_of_cycle (lives : ∀ t, s.holder (.alive t) = some t ∨ s.script t = [])
    (listed : ∀ t i, s.Awaits t (.alive (.client i)) → Listed s i) (first : s.Awaits t x) (holds : s.holder x = some u)
    (second : s.Awaits u y) (back : Relation.ReflTransGen s.WaitsFor u t) : rank x < rank y := by
  have cycle : Relation.TransGen s.WaitsFor u u := Relation.TransGen.tail' back ⟨x, first, holds⟩
  have notModule (side : Side) : y ≠ .inner (.module side) := by
    rintro rfl
    cases side with
    | rx => exact rx_not_awaited stacked moves lives listed second cycle
    | tx => exact tx_not_awaited stacked moves second cycle
  refine rank_lt_of_allowed (stacked.allows second) ((stacked.holds u x).mpr holds)
    (not_again stacked moves second) notModule ?_ ?_
  · rintro rfl -
    exact rx_not_awaited stacked moves lives listed first (.head' ⟨_, first, holds⟩ back)
  · rintro _ i rfl rfl
    obtain rfl := eq_of_alive stacked moves lives holds second
    exact (awaits_of_listed (listed t i first) second).resolve_left (notModule .rx)

end Cycles

/-- The daemon is in a deadlock exactly when threads wait for each other in one of the four ways. -/
theorem deadlocked_iff [DecidableEq ι] (w : DaemonWorkload ι) {threads : List (DaemonThread ι)}
    {s : LockState (DaemonThread ι) (DaemonMutex ι)} (run : Run LockState.step KillsListed w.started threads s) :
    s.Deadlocked ↔ Standstill s := by
  refine ⟨fun deadlocked => ?_, deadlocked_of_standstill⟩
  by_contra moves
  have reached := reached_of_run run
  obtain ⟨stack, stacked⟩ := reached.stacked
  refine not_deadlocked_of_ascending rank (fun t u x y first holds second back => ?_) deadlocked
  exact rank_lt_of_cycle stacked moves reached.lives reached.listed first holds second back

/-- A client is disconnected, a new one is accepted, and the link comes up. -/
def comingUp : DaemonWorkload Unit where
  accepted := [.unread [()]]
  stops := false
  handed _ := []
  closed _ := .atRead
  turns := []
  events := [.linkUp true .succeeded]
  assembled := []
  ended := .inactive false

/-- The client's thread puts its port on the list, the main loop comes to wait for it, the link takes `rx_mutex`. -/
def meetingInThree : List (DaemonThread Unit) :=
  List.replicate 6 (.client ()) ++ List.replicate 3 .main ++ [.link]

theorem comingUp_waits : (meetingInThree.foldlM (fun s t => if KillsListed s t then LockState.step s t else none)
      comingUp.started).map (fun s =>
        [((s.script .main).head?, s.holder (.alive (.client ()))),
          ((s.script (.client ())).head?, s.holder (.inner (.module .rx))),
          ((s.script .link).head?, s.holder .clients)]) =
    some [(some (.acquire (.alive (.client ()))), some (.client ())),
      (some (.acquire (.inner (.module .rx))), some .link), (some (.acquire .clients), some .main)] := by
  decide +kernel

/-- The main loop waits for the client's thread, which waits for the link's, which waits for the main loop. -/
theorem deadlocked_iff_comingUp : ∃ s, Run LockState.step KillsListed comingUp.started meetingInThree s ∧
    s.Deadlocked := by
  obtain ⟨s, runs, facts⟩ := Option.map_eq_some_iff.mp comingUp_waits
  simp only [List.cons.injEq, Prod.mk.injEq, and_true] at facts
  obtain ⟨⟨joins, lives⟩, ⟨closes, blocks⟩, goesOn, holds⟩ := facts
  have run := Run.iff_foldlM.mpr runs
  exact ⟨s, run, (deadlocked_iff comingUp run).mpr (.joining holds (awaits_of_head? joins) lives
    (awaits_of_head? closes) blocks (awaits_of_head? goesOn))⟩

end S3tp.Soundness.Deadlocks
