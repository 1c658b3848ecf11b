import S3tp.Model.Concurrent.ModuleLocks

/-! # The mutexes of the daemon

The lock and unlock steps of `S3TP`, `Client` and the main loop of the daemon, above those of the modules: one script
for each path through a function. Joining a thread is taking a mutex that the thread holds as long as it lives.

Under `clients_mutex`, clients are written to. A write that fails closes the connection of its client, and closing it
takes `clients_mutex` once more. What would come after that is left out. The assembly thread may keep `rx_mutex`; what
comes after it takes it again is left out, and so is its end with the mutex kept. Every client is there from the start.
-/

namespace S3tp.Model.Concurrent

open Machine

/-- The main loop, the thread that stops the daemon, the clients' threads, the transmit thread, the thread of the link's
callbacks and the assembly thread. -/
inductive DaemonThread (ι : Type*) where
  | main
  | stopper
  | client (i : ι)
  | tx
  | link
  | assembly
deriving DecidableEq

/-- `s3tp_mutex`, `clients_mutex`, the `client_mutex` of each client, the end of each thread, and the mutexes of the
modules. -/
inductive DaemonMutex (ι : Type*) where
  | s3tp
  | clients
  | client (i : ι)
  | alive (thread : DaemonThread ι)
  | inner (mutex : Mutex)
deriving DecidableEq

abbrev DaemonScript (ι : Type*) := List (LockAction (DaemonMutex ι))

namespace DaemonLocks

open BufferLocks TxModuleLocks RxModuleLocks

variable {ι : Type*}

/-- A critical section. -/
def under (mutex : DaemonMutex ι) (body : DaemonScript ι) : DaemonScript ι := .acquire mutex :: body ++ [.release mutex]

/-- The lock steps of a function of the modules. -/
def inModules (script : Script) : DaemonScript ι := script.map (LockAction.map .inner)

/-- A function of a module that takes the module's mutex and nothing else: `openPort`, `closePort`, `stopModule`,
`isActive` and `isNewMessageAvailable`; `scheduleSync`, `setChannelAvailable`, `isChannelAvailable` and
`getCurrentState`. -/
def inModule (side : Side) : DaemonScript ι := under (.inner (.module side)) []

/-- `pthread_join`. -/
def join (thread : DaemonThread ι) : DaemonScript ι := under (.alive thread) []

/-! ## Client -/

def isConnected (i : ι) : DaemonScript ι := under (.client i) []

/-- What `onDisconnected` does once the port is on the list of those to be cleaned up: it closes the port. A thread that
tests the connection again finds it closed, and ends. -/
def leaving (i : ι) (tests : Bool) : DaemonScript ι :=
  inModule .rx ++ (if tests then isConnected i else []) ++ [.release (.alive (.client i))]

/-- `closeConnection` and `handleConnectionClosed` take the same mutexes, up to the list. -/
def closeConnection (i : ι) : DaemonScript ι := under (.client i) [] ++ under .clients []

/-- Writing to clients under `clients_mutex`: all there is to be written is written, or a write to a client fails. -/
inductive Writing (ι : Type*) where
  | succeeded
  | failed (i : ι)

def writing : Writing ι → DaemonScript ι
  | .succeeded => under .clients []
  | .failed i => under .clients (closeConnection i)

/-! ## S3TP -/

/-- A sync frame is scheduled if there is a client. -/
def synchronizeStatus (any : Bool) : DaemonScript ι := under .clients (if any then inModule .tx else [])

/-- A client that is taken off the map is disconnected, so that it remains to wait for its thread. -/
def kill (i : ι) : DaemonScript ι := isConnected i ++ join (.client i)

def cleanupClients (killed : List ι) : DaemonScript ι := under .clients (killed.flatMap kill)

def getClientConnectedToPort : DaemonScript ι := under .clients []

def onConnected : DaemonScript ι := under .clients [] ++ inModule .rx ++ synchronizeStatus true

/-- `stopRoutine` and `stopModule` under `s3tp_mutex`, and the transceiver is stopped under it. -/
def stop : DaemonScript ι :=
  under .s3tp (inModule .tx ++ join .tx ++ inModule .rx) ++ join .assembly ++ under .s3tp []

/-- Paths through `sendToLinkLayer`: the daemon is not active, the transmitting module is blocked, or as many packets
are enqueued as the other tests let pass. -/
inductive Handing where
  | inactive
  | blocked
  | tested (port : UInt8) (packets : List Enqueuing)

def sendToLinkLayer : Handing → DaemonScript ι
  | .inactive => under .s3tp []
  | .blocked => under .s3tp [] ++ inModule .tx
  | .tested port packets => under .s3tp [] ++ inModule .tx ++ inModules (getSizeOfQueue .tx port) ++ inModule .tx ++
      inModules (packets.flatMap enqueuePacket)

/-! ## The threads -/

/-- A message is read, handed on and answered. -/
def clientPass (i : ι) (handing : Handing) : DaemonScript ι :=
  isConnected i ++ isConnected i ++ sendToLinkLayer handing

/-- How `clientRoutine` comes to its end: it reads the end of the stream where a message would start, or inside one, or
it cannot answer, or another thread has closed the connection before it reads or while it does. -/
inductive Closing where
  | atRead
  | inPayload
  | inReply (handing : Handing)
  | elsewhere (reads : Bool)

def closing (i : ι) : Closing → DaemonScript ι
  | .atRead => isConnected i ++ closeConnection i ++ leaving i false
  | .inPayload => isConnected i ++ closeConnection i ++ leaving i true
  | .inReply handing => clientPass i handing ++ closeConnection i ++ leaving i true
  | .elsewhere reads =>
    isConnected i ++ (if reads then isConnected i else []) ++ [.release (.alive (.client i))]

def clientRoutine (i : ι) (passes : List Handing) (last : Closing) : DaemonScript ι :=
  passes.flatMap (clientPass i) ++ closing i last

/-- A pass of `startDaemon`: the configuration cannot be read, the client is refused or cannot be answered, or there is
a new client. -/
inductive Accepting (ι : Type*) where
  | unread (killed : List ι)
  | refused (killed : List ι)
  | accepted (killed : List ι)

def acceptPass : Accepting ι → DaemonScript ι
  | .unread killed => cleanupClients killed
  | .refused killed => cleanupClients killed ++ getClientConnectedToPort
  | .accepted killed => cleanupClients killed ++ getClientConnectedToPort ++ onConnected

/-- `handleReceivedPacket`, with the callback that a sync frame is answered in. -/
def handleReceivedPacket (any : Bool) : Receiving → DaemonScript ι
  | .sync answers => inModule .rx ++ under (.inner (.module .rx)) (if answers then synchronizeStatus any else [])
  | receiving => inModules (RxModuleLocks.handleReceivedPacket receiving)

/-- The callbacks of the link, which make those of the status interface under `rx_mutex`. -/
inductive LinkEvent (ι : Type*) where
  | frame (any : Bool) (receiving : Receiving)
  | linkDown
  | linkUp (any : Bool) (writing : Writing ι)
  | bufferEmpty (writing : Writing ι)

def linkEvent : LinkEvent ι → DaemonScript ι
  | .frame any receiving => handleReceivedPacket any receiving
  | .linkDown => inModule .rx
  | .linkUp any clients => under (.inner (.module .rx)) (synchronizeStatus any ++ writing clients)
  | .bufferEmpty clients => under (.inner (.module .rx)) (inModule .tx ++ writing clients)

/-- The call releases `rx_mutex`. -/
def Releases : Consuming → Prop
  | .inconsistent _ _ => False
  | _ => True

/-- Passes of `assemblyRoutine`: no message is available, so that the thread waits unless one has come by then, or a
message is fetched and forwarded. -/
inductive Assembling (ι : Type*) where
  | waits (blocks : Bool)
  | forwards (consuming : Consuming) (releases : Releases consuming) (writing : Writing ι)

def assemblyPass : Assembling ι → DaemonScript ι
  | .waits blocks => inModule .rx ++ inModule .rx ++ inModule .rx ++
      (if blocks then [.release .s3tp, .acquire .s3tp] else [])
  | .forwards consuming _ clients => inModule .rx ++ inModule .rx ++
      (.release .s3tp :: inModules (getNextCompleteMessage consuming) ++ writing clients ++ [.acquire .s3tp])

/-- How `assemblyRoutine` comes to its end: it finds one of the flags cleared, or a packet is not the expected one and
`rx_mutex` is kept when the flags are tested, the second one under that mutex. -/
inductive Ending (ι : Type*) where
  | inactive (tests : Bool)
  | keeping (port : UInt8) (wasLast : List Bool) (writing : Writing ι) (tests : Bool)

def ending : Ending ι → DaemonScript ι
  | .inactive tests => (if tests then inModule .rx else []) ++ [.release .s3tp, .release (.alive .assembly)]
  | .keeping port wasLast clients tests => inModule .rx ++ inModule .rx ++
      (.release .s3tp :: inModules (getNextCompleteMessage (.inconsistent port wasLast)) ++ writing clients ++
        [.acquire .s3tp, if tests then .acquire (.inner (.module .rx)) else .release .s3tp])

def assemblyRoutine (passes : List (Assembling ι)) (last : Ending ι) : DaemonScript ι :=
  .acquire .s3tp :: passes.flatMap assemblyPass ++ ending last

end DaemonLocks

open DaemonLocks

/-- What the threads of the daemon do: the paths of their calls, one after the other. -/
structure DaemonWorkload (ι : Type*) where
  accepted : List (Accepting ι)
  stops : Bool
  handed : ι → List Handing
  closed : ι → Closing
  turns : List TxModuleLocks.Turn
  events : List (LinkEvent ι)
  assembled : List (Assembling ι)
  ended : Ending ι

namespace DaemonWorkload

variable {ι : Type*}

def script (w : DaemonWorkload ι) : DaemonThread ι → DaemonScript ι
  | .main => w.accepted.flatMap acceptPass
  | .stopper => if w.stops then stop else []
  | .client i => clientRoutine i (w.handed i) (w.closed i)
  | .tx => inModules (TxModuleLocks.txRoutine w.turns) ++ [.release (.alive .tx)]
  | .link => w.events.flatMap linkEvent
  | .assembly => assemblyRoutine w.assembled w.ended

/-- All threads have been created. -/
def started (w : DaemonWorkload ι) : LockState (DaemonThread ι) (DaemonMutex ι) where
  script := w.script
  holder
    | .alive thread => some thread
    | _ => none

end DaemonWorkload

section Listing

variable {ι : Type*}

/-- The client's thread has put its port on the list of those to be cleaned up. -/
def Listed (s : LockState (DaemonThread ι) (DaemonMutex ι)) (i : ι) : Prop :=
  ∃ tests, s.script (.client i) <:+ leaving i tests

instance [DecidableEq ι] (s : LockState (DaemonThread ι) (DaemonMutex ι)) (i : ι) : Decidable (Listed s i) :=
  decidable_of_iff (s.script (.client i) <:+ leaving i false ∨ s.script (.client i) <:+ leaving i true)
    (by rw [Listed, Bool.exists_bool])

/-- `cleanupClients` comes to wait for the threads of clients on the list only. -/
def KillsListed (s : LockState (DaemonThread ι) (DaemonMutex ι)) (thread : DaemonThread ι) : Prop :=
  match s.script thread with
  | _ :: .acquire (.alive (.client i)) :: _ => Listed s i
  | _ => True

instance [DecidableEq ι] (s : LockState (DaemonThread ι) (DaemonMutex ι)) (thread : DaemonThread ι) :
    Decidable (KillsListed s thread) := by
  unfold KillsListed
  split <;> infer_instance

end Listing

end S3tp.Model.Concurrent
