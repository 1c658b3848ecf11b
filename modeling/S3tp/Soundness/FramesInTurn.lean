import S3tp.Soundness.Interchange
import S3tp.Soundness.OneByte
import S3tp.Soundness.RxMutexes

/-! # A frame is received in one turn

`RxSystem` handles a frame in one step. In `RxThreads` the critical sections of `handleReceivedPacket` are steps of
their own, and messages are taken between them. Whatever the threads do, some run of `RxSystem` does the same: there a
message of another port is taken before the frame is received and a message of its own port after that, and ports that
are opened or closed meanwhile are so afterwards. The exception is a frame whose window update flushes the queues: a
message of its port may not be taken between the write and the flush.
-/

namespace S3tp.Soundness.FramesInTurn

open Machine Model.Core Model.Core.RxModule Model.Concurrent

/-- The frames handed to `handleReceivedPacket`, and what has been taken. -/
structure RxHistory where
  received : List S3tpPacket := []
  delivered : List Delivery := []

def remember (s : RxThreads) (event : RxThreadsEvent) (h : RxHistory) : RxHistory :=
  match event with
  | .call packet => { h with received := h.received ++ [packet] }
  | .assembly =>
    match s.assembly, s.rx.takeFirst with
    | .assembling, some (delivery, _) => { h with delivered := h.delivered ++ [delivery] }
    | _, _ => h
  | _ => h

/-! ## Where the link thread is with a frame -/

/-- The packet is in the buffer, and the window has not been updated. -/
@[simp] def written : LinkPlace → Option S3tpPacket
  | .locking packet | .scanning packet | .flagging packet | .signalling packet | .unlocking packet
  | .updating packet => some packet
  | _ => none

/-- The packet was found to be a data packet of an open port. -/
@[simp] def accepted : LinkPlace → Option S3tpPacket
  | .testing .portOpen packet (.unlock true) | .writing packet => some packet
  | place => written place

/-- Nothing has been decided about the packet. -/
@[simp] def unreceived : LinkPlace → Option S3tpPacket
  | .testing .active packet _ | .testing .portOpen packet .lock | .testing .portOpen packet .read
  | .syncLocking packet | .synchronizing packet => some packet
  | _ => none

/-- What is known of it by then. -/
@[simp] def Known : LinkPlace → Prop
  | .testing .active _ (.unlock result) => result = true
  | .testing .portOpen packet .lock | .testing .portOpen packet .read =>
    packet.crcValid = true ∧ packet.header.getMessageType = msgData
  | .syncLocking packet | .synchronizing packet => packet.crcValid = true ∧ packet.header.getMessageType = msgSync
  | _ => True

/-- What has been done with an accepted packet. -/
@[simp] def halfDone (rx : RxModule) : LinkPlace → RxModule
  | .locking packet | .scanning packet | .flagging packet => rx.writePacket packet
  | .signalling packet | .unlocking packet | .updating packet =>
    (rx.writePacket packet).notifyIfComplete packet.getPort
  | _ => rx

/-- The instance is not stopped, and no message of a packet's port is taken between the write of the packet and a window
update that flushes the queues. -/
def Undisturbed (s : RxThreads) : RxThreadsEvent → Prop
  | .assembly => s.assembly = .assembling → ∀ packet ∈ written s.link,
    s.rx.availableMessages.begin? = some packet.getPort → (s.rx.receivingWindow + 1).toNat < receivingWindowSize
  | .stop => False
  | _ => True

/-! ## The module -/

/-- What is true of the module between two steps of the system. -/
structure Sound (rx : RxModule) : Prop where
  active : rx.active = true
  free : rx.rxMutexHeld = false
  flags : ∀ port, (rx.availableMessages port).isSome → rx.availableMessages port = some 1
  own : ∀ port, ∀ ref ∈ rx.inBuffer.held port, ref.getPort = port

theorem sound_started : Sound RxSystem.started.rx where
  active := rfl
  free := rfl
  flags _ stored := by cases stored
  own _ _ member := by cases member

section Module

variable {rx rx' : RxModule} {delivery : Delivery} {packet : S3tpPacket}

theorem flags_insert {flags : ByteMap UInt8} (ones : ∀ port, (flags port).isSome → flags port = some 1) (other : UInt8)
    (port : UInt8) (stored : (flags.insert other 1 port).isSome) : flags.insert other 1 port = some 1 := by
  rw [ByteMap.insert_apply] at stored ⊢
  split
  · rfl
  · next ne => exact ones port (by rwa [if_neg ne] at stored)

theorem flags_erase {flags : ByteMap UInt8} (ones : ∀ port, (flags port).isSome → flags port = some 1) (other : UInt8)
    (port : UInt8) (stored : (flags.erase other port).isSome) : flags.erase other port = some 1 := by
  rw [ByteMap.erase_apply] at stored ⊢
  split
  · next same => simp [same] at stored
  · next ne => exact ones port (by rwa [if_neg ne] at stored)

theorem Sound.withPorts (sound : Sound rx) (openPorts : ByteMap UInt8) : Sound (rx.withPorts openPorts) :=
  ⟨sound.active, sound.free, sound.flags, sound.own⟩

theorem Sound.receiveData (sound : Sound rx) (packet : S3tpPacket) : Sound (rx.receiveData packet) where
  active := by rw [receiveData_active, sound.active]
  free := by rw [receiveData_rxMutexHeld, sound.free]
  flags port stored := by
    rw [receiveData_availableMessages] at stored ⊢
    split
    · next complete => exact flags_insert sound.flags _ port (by rwa [if_pos complete] at stored)
    · next incomplete => exact sound.flags port (by rwa [if_neg incomplete] at stored)
  own port ref member := by
    rw [receiveData_held] at member
    split at member
    · cases member
    · rcases Buffer.mem_held_write member with ⟨rfl, rfl⟩ | before
      · rfl
      · exact sound.own port ref before

theorem Sound.handleReceivedPacket (sound : Sound rx) (packet : S3tpPacket) :
    Sound (rx.handleReceivedPacket packet).2.2 := by
  cases accepts : rx.accepts packet with
  | true =>
    rw [handleReceivedPacket_of_accepts accepts]
    exact sound.receiveData packet
  | false =>
    obtain ⟨currentPortSequence, lastReceivedGlobalSeq, after⟩ := handleReceivedPacket_of_not_accepts accepts
    rw [after]
    exact ⟨sound.active, sound.free, sound.flags, sound.own⟩

theorem rxMutexHeld_of_assemble {port : UInt8} {data : List UInt8} {len : UInt16}
    (assembles : rx.assemble port data len = some (delivery, rx')) (success : delivery.error = codeSuccess) :
    rx'.rxMutexHeld = rx.rxMutexHeld := by
  fun_induction RxModule.assemble rx port data len with
  | case1 => contradiction
  | case2 =>
    obtain ⟨rfl, rfl⟩ := Prod.mk.inj (Option.some.inj assembles)
    exact absurd success (by simp [codeErrorInconsistentState, codeSuccess])
  | case3 =>
    obtain ⟨rfl, rfl⟩ := Prod.mk.inj (Option.some.inj assembles)
    rfl
  | case4 rx data len pkt inBuffer popped expected after data' len' flagged ih => exact ih assembles

/-- The message of the first flagged port is taken, and the flag is set anew. -/
theorem of_takeFirst (taken : rx.takeFirst = some (delivery, rx')) : ∃ port mid,
    rx.availableMessages.begin? = some port ∧ rx.assemble port [] 0 = some (delivery, mid) ∧
      rx' = if delivery.error = codeSuccess then mid.refreshAvailability port else mid := by
  rw [RxModule.takeFirst] at taken
  split at taken
  · contradiction
  · next port first =>
    obtain ⟨⟨answer, mid⟩, assembles, same⟩ := Option.map_eq_some_iff.mp taken
    obtain ⟨rfl, rfl⟩ := Prod.mk.inj same
    exact ⟨port, mid, first, assembles, rfl⟩

theorem getNextCompleteMessage_of_takeFirst (active : rx.active = true)
    (taken : rx.takeFirst = some (delivery, rx')) : rx.getNextCompleteMessage = some (delivery, rx') := by
  obtain ⟨port, -, first, -⟩ := of_takeFirst taken
  have flagged : rx.isNewMessageAvailable = true := by
    rw [isNewMessageAvailable, ByteMap.isEmpty_eq_false_iff.mpr ⟨port, ByteMap.isSome_of_begin? first⟩]
    rfl
  rw [getNextCompleteMessage_eq, active, flagged]
  exact taken

/-- A message that is taken leaves the module as sound as it was. -/
theorem Sound.takeFirst (sound : Sound rx) (taken : rx.takeFirst = some (delivery, rx'))
    (success : delivery.error = codeSuccess) : Sound rx' := by
  have drains := drains_of_getNextCompleteMessage (getNextCompleteMessage_of_takeFirst sound.active taken)
  obtain ⟨port, mid, first, assembles, rfl⟩ := of_takeFirst taken
  rw [if_pos success] at drains ⊢
  refine ⟨by rw [drains.frame]; exact sound.active, ?_, fun other stored => ?_, fun other ref member => ?_⟩
  · rw [refreshAvailability_frame]
    exact (rxMutexHeld_of_assemble assembles success).trans sound.free
  · rw [refreshAvailability_frame] at stored ⊢
    have ones := availableMessages_of_assemble assembles ▸ sound.flags
    simp only at stored ⊢
    split
    · next complete => exact flags_insert ones _ other (by rwa [if_pos complete] at stored)
    · next incomplete => exact flags_erase ones _ other (by rwa [if_neg incomplete] at stored)
  · exact sound.own other ref ((drains.suffix other).subset member)

end Module

/-! ## Opening and closing ports -/

/-- Ports can be opened and closed to get from the ones to the others. -/
def Reaches (openPorts openPorts' : ByteMap UInt8) : Prop :=
  ∀ a : RxSystem, a.rx.active = true → a.rx.rxMutexHeld = false → a.rx.openPorts = openPorts →
    ∃ events, Run RxSystem.step Always a events { a with rx := a.rx.withPorts openPorts' }

theorem Reaches.refl (openPorts : ByteMap UInt8) : Reaches openPorts openPorts := by
  rintro a - - rfl
  exact ⟨[], .nil a⟩

/-- An operation of the system that looks at the open ports and changes nothing else. -/
structure PortOperation (event : RxEvent) (operation : RxModule → RxModule) : Prop where
  step {a : RxSystem} : a.rx.rxMutexHeld = false → a.step event = some { a with rx := operation a.rx }
  congr {rx rx' : RxModule} : rx'.active = rx.active → rx'.openPorts = rx.openPorts →
    operation rx' = rx'.withPorts (operation rx).openPorts

theorem portOperation_openPort (port : UInt8) :
    PortOperation (.openPort port) (fun rx => (rx.openPort port).2) where
  step free := by simp [RxSystem.step, free]
  congr {rx rx'} active ports := by
    have same : (rx'.openPort port).2.openPorts = (rx.openPort port).2.openPorts := by
      simp only [openPort, active, ports]
      repeat' split
      all_goals simp [ports]
    rw [openPort_frame, same]
    rfl

theorem portOperation_closePort (port : UInt8) :
    PortOperation (.closePort port) (fun rx => (rx.closePort port).2) where
  step free := by simp [RxSystem.step, free]
  congr {rx rx'} active ports := by
    have same : (rx'.closePort port).2.openPorts = (rx.closePort port).2.openPorts := by
      simp only [closePort, active, ports]
      repeat' split
      all_goals simp [ports]
    rw [closePort_frame, same]
    rfl

section Ports

variable {port : RxEvent} {operation : RxModule → RxModule}

theorem Reaches.operate (operates : PortOperation port operation) {openPorts : ByteMap UInt8} {rx : RxModule}
    (active : rx.active = true) (reaches : Reaches openPorts rx.openPorts) :
    Reaches openPorts (operation rx).openPorts := by
  intro a isActive free ports
  obtain ⟨events, run⟩ := reaches a isActive free ports
  have operated : operation (a.rx.withPorts rx.openPorts) = (a.rx.withPorts rx.openPorts).withPorts _ :=
    operates.congr (isActive.trans active.symm) rfl
  have stepped := operates.step (a := { a with rx := a.rx.withPorts rx.openPorts }) free
  rw [operated] at stepped
  exact ⟨events ++ [port], run.append (.cons trivial stepped (.nil _))⟩

end Ports

/-! ## How the threads are seen -/

/-- The system has received the frame, or it will. -/
inductive Shown (s : RxThreads) (received : List S3tpPacket) (a : RxSystem) : Prop
  | between (here : accepted s.link = none) (known : Known s.link) (rx : s.rx = a.rx)
      (frames : received = a.received ++ (unreceived s.link).toList)
  | underway {packet : S3tpPacket} {openPorts : ByteMap UInt8} (here : accepted s.link = some packet)
      (accepts : a.rx.accepts packet = true) (reaches : Reaches a.rx.openPorts openPorts)
      (rx : s.rx = (halfDone a.rx s.link).withPorts openPorts) (frames : received = a.received ++ [packet])
  | ahead {packet : S3tpPacket} (here : written s.link = some packet)
      (room : (s.rx.receivingWindow + 1).toNat < 128) (rx : a.rx = s.rx.count packet)
      (flagged : s.rx.isCompleteMessageForPortAvailable packet.getPort = true →
        (s.rx.availableMessages packet.getPort).isSome) (frames : received = a.received)

/-- Where the port gets flagged, its queue begins with a complete message. -/
def Complete (s : RxThreads) : Prop :=
  ∀ packet, s.link = .flagging packet → s.rx.isCompleteMessageForPortAvailable packet.getPort = true

/-- The system goes on to a state that the threads are seen as, with nothing consumed. -/
def Receives (t : RxThreads) (received : List S3tpPacket) (a : RxSystem) : Prop :=
  ∃ events a', Run RxSystem.step Always a events a' ∧ a'.delivered = a.delivered ∧ Sound a'.rx ∧ Shown t received a' ∧
    Complete t

section Link

variable {s t : RxThreads} {a : RxSystem} {received : List S3tpPacket} {packet : S3tpPacket}

theorem Receives.still (sound : Sound a.rx) (shown : Shown t received a) (complete : Complete t) :
    Receives t received a := ⟨[], a, .nil a, rfl, sound, shown, complete⟩

theorem msgData_ne_msgSync : msgData ≠ msgSync := by decide

/-- The frame is received at once. -/
theorem Receives.receive (sound : Sound a.rx) (frames : received = a.received ++ [packet])
    (rx : t.rx = (a.rx.handleReceivedPacket packet).2.2) (here : accepted t.link = none) (known : Known t.link)
    (nothing : unreceived t.link = none) (complete : Complete t) : Receives t received a := by
  have stepped : a.step (.receive packet) = some
      { a with rx := (a.rx.handleReceivedPacket packet).2.2, received := a.received ++ [packet] } := by
    simp [RxSystem.step, sound.free]
  refine ⟨[.receive packet], _, .cons trivial stepped (.nil _), rfl, sound.handleReceivedPacket packet, ?_, complete⟩
  exact .between here known rx (by rw [nothing, frames, Option.toList_none, List.append_nil])

/-- An accepted packet is received, and the ports are opened and closed as they were meanwhile. -/
theorem exists_run_receiveData (sound : Sound a.rx) (accepts : a.rx.accepts packet = true) {openPorts : ByteMap UInt8}
    (reaches : Reaches a.rx.openPorts openPorts) : ∃ events, Run RxSystem.step Always a events
      { a with rx := (a.rx.receiveData packet).withPorts openPorts, received := a.received ++ [packet] } := by
  have stepped := RxSystem.step_receive sound.free accepts
  obtain ⟨events, run⟩ := reaches { a with rx := a.rx.receiveData packet, received := a.received ++ [packet] }
    (by rw [receiveData_active, sound.active]) (by rw [receiveData_rxMutexHeld, sound.free]) (receiveData_openPorts ..)
  exact ⟨_, .cons trivial stepped run⟩

theorem Shown.isBetween (shown : Shown s received a) (here : accepted s.link = none) :
    Known s.link ∧ s.rx = a.rx ∧ received = a.received ++ (unreceived s.link).toList := by
  cases shown with
  | between _ known rx frames => exact ⟨known, rx, frames⟩
  | underway here' => rw [here] at here'; contradiction
  | ahead here' => cases place : s.link <;> simp [place] at here here'

theorem Shown.isPrefix (shown : Shown s received a) : a.received <+: received := by
  cases shown with
  | between _ _ _ frames => exact ⟨_, frames.symm⟩
  | underway _ _ _ _ frames => exact ⟨_, frames.symm⟩
  | ahead _ _ _ _ frames => rw [frames]

/-- The link thread has gone on and done nothing to the module. -/
theorem Shown.moves (shown : Shown s received a) (rx : t.rx = s.rx) (accepts : accepted t.link = accepted s.link)
    (writes : written t.link = written s.link) (waits : unreceived t.link = unreceived s.link)
    (known : Known s.link → Known t.link) (done : halfDone a.rx t.link = halfDone a.rx s.link) :
    Shown t received a := by
  cases shown with
  | between here isKnown same frames =>
    exact .between (accepts.trans here) (known isKnown) (rx.trans same) (by rw [waits, frames])
  | underway here isAccepted reaches same frames =>
    exact .underway (accepts.trans here) isAccepted reaches (by rw [rx, done, same]) frames
  | ahead here room same flagged frames =>
    exact .ahead (writes.trans here) (by rwa [rx]) (by rw [rx, same]) (by rwa [rx]) frames

/-- A frame that fails a check is received and changes nothing. -/
theorem Receives.refuse (sound : Sound a.rx) (frames : received = a.received ++ [packet]) (rx : t.rx = a.rx)
    (refused : a.rx.accepts packet = false) (noSync : a.rx.synchronizes packet = false) (here : accepted t.link = none)
    (known : Known t.link) (nothing : unreceived t.link = none) (complete : Complete t) : Receives t received a :=
  .receive sound frames (by rw [handleReceivedPacket_of_refused refused noSync, rx]) here known nothing complete

/-- The link thread has taken or released `rx_mutex`, signalled or passed a test. -/
theorem Receives.moves (sound : Sound a.rx) (shown : Shown s received a) (rx : t.rx = s.rx)
    (accepts : accepted t.link = accepted s.link) (writes : written t.link = written s.link)
    (waits : unreceived t.link = unreceived s.link) (known : Known s.link → Known t.link)
    (done : halfDone a.rx t.link = halfDone a.rx s.link) (complete : Complete t) : Receives t received a :=
  .still sound (shown.moves rx accepts writes waits known done) complete

/-- What the link thread can do, from where it is. -/
inductive LinkGoes (s : RxThreads) : RxThreads → Prop
  | locksToTest {test : LinkTest} {packet : S3tpPacket} (here : s.link = .testing test packet .lock) :
      LinkGoes s { s with rxMutex := some .link, link := .testing test packet .read }
  | reads {test : LinkTest} {packet : S3tpPacket} (here : s.link = .testing test packet .read) :
      LinkGoes s { s with link := .testing test packet (.unlock (s.linkAnswer packet test)) }
  | unlocks {test : LinkTest} {packet : S3tpPacket} {result : Bool}
      (here : s.link = .testing test packet (.unlock result)) :
      LinkGoes s { s.unlockRx with link := RxThreads.afterLinkTest packet test result }
  | locksToSync {packet : S3tpPacket} (here : s.link = .syncLocking packet) :
      LinkGoes s { s with rxMutex := some .link, link := .synchronizing packet }
  | synchronizes {packet : S3tpPacket} (here : s.link = .synchronizing packet) :
      LinkGoes s { s with rx := s.rx.synchronizeStatus (S3tpSync.ofBytes packet.payload), link := .syncUnlocking }
  | unlocksSync (here : s.link = .syncUnlocking) : LinkGoes s { s.unlockRx with link := .outside }
  | writes {packet : S3tpPacket} (here : s.link = .writing packet) :
      LinkGoes s { s with rx := s.rx.writePacket packet, link := .locking packet }
  | locksToScan {packet : S3tpPacket} (here : s.link = .locking packet) :
      LinkGoes s { s with rxMutex := some .link, link := .scanning packet }
  | finds {packet : S3tpPacket} (here : s.link = .scanning packet)
      (found : s.rx.isCompleteMessageForPortAvailable packet.getPort = true) :
      LinkGoes s { s with link := .flagging packet }
  | findsNothing {packet : S3tpPacket} (here : s.link = .scanning packet)
      (found : s.rx.isCompleteMessageForPortAvailable packet.getPort = false) :
      LinkGoes s { s with link := .unlocking packet }
  | flags {packet : S3tpPacket} (here : s.link = .flagging packet) :
      LinkGoes s { s with
        rx := { s.rx with availableMessages := s.rx.availableMessages.insert packet.getPort 1 }
        link := .signalling packet }
  | signals {packet : S3tpPacket} (here : s.link = .signalling packet) :
      LinkGoes s { s.signal with link := .unlocking packet }
  | unlocksScan {packet : S3tpPacket} (here : s.link = .unlocking packet) :
      LinkGoes s { s.unlockRx with link := .updating packet }
  | updates {packet : S3tpPacket} (here : s.link = .updating packet) :
      LinkGoes s { s with rx := s.rx.updateWindow packet, link := .outside }

theorem linkGoes_of_linkStep (stepped : s.linkStep = some t) : LinkGoes s t := by
  cases here : s.link with
  | outside => simp [RxThreads.linkStep, here] at stepped
  | testing test packet reading =>
    cases reading with
    | lock =>
      simp only [RxThreads.linkStep, here] at stepped
      obtain ⟨mid, locks, rfl⟩ := Option.map_eq_some_iff.mp stepped
      obtain ⟨free, rfl⟩ := RxThreads.lockRx_eq_some_iff.mp locks
      exact .locksToTest here
    | read =>
      simp only [RxThreads.linkStep, here] at stepped
      obtain rfl := Option.some.inj stepped
      exact .reads here
    | unlock result =>
      simp only [RxThreads.linkStep, here] at stepped
      obtain rfl := Option.some.inj stepped
      exact .unlocks here
  | syncLocking packet =>
    simp only [RxThreads.linkStep, here] at stepped
    obtain ⟨mid, locks, rfl⟩ := Option.map_eq_some_iff.mp stepped
    obtain ⟨free, rfl⟩ := RxThreads.lockRx_eq_some_iff.mp locks
    exact .locksToSync here
  | synchronizing packet =>
    simp only [RxThreads.linkStep, here] at stepped
    obtain rfl := Option.some.inj stepped
    exact .synchronizes here
  | syncUnlocking =>
    simp only [RxThreads.linkStep, here] at stepped
    obtain rfl := Option.some.inj stepped
    exact .unlocksSync here
  | writing packet =>
    simp only [RxThreads.linkStep, here] at stepped
    split at stepped
    · obtain rfl := Option.some.inj stepped
      exact .writes here
    · contradiction
  | locking packet =>
    simp only [RxThreads.linkStep, here] at stepped
    obtain ⟨mid, locks, rfl⟩ := Option.map_eq_some_iff.mp stepped
    obtain ⟨free, rfl⟩ := RxThreads.lockRx_eq_some_iff.mp locks
    exact .locksToScan here
  | scanning packet =>
    simp only [RxThreads.linkStep, here] at stepped
    obtain rfl := Option.some.inj stepped
    cases found : s.rx.isCompleteMessageForPortAvailable packet.getPort with
    | true => exact .finds here found
    | false => exact .findsNothing here found
  | flagging packet =>
    simp only [RxThreads.linkStep, here] at stepped
    obtain rfl := Option.some.inj stepped
    exact .flags here
  | signalling packet =>
    simp only [RxThreads.linkStep, here] at stepped
    obtain rfl := Option.some.inj stepped
    exact .signals here
  | unlocking packet =>
    simp only [RxThreads.linkStep, here] at stepped
    obtain rfl := Option.some.inj stepped
    exact .unlocksScan here
  | updating packet =>
    simp only [RxThreads.linkStep, here] at stepped
    obtain rfl := Option.some.inj stepped
    exact .updates here

theorem accepted_of_written {place : LinkPlace} (here : written place = some packet) :
    accepted place = some packet := by
  cases place <;> simp at here ⊢ <;> exact here

/-- An accepted packet that has not been written is under way. -/
theorem Shown.isUnderway (shown : Shown s received a) (here : accepted s.link = some packet)
    (before : written s.link = none) : a.rx.accepts packet = true ∧ received = a.received ++ [packet] ∧
      ∃ openPorts, Reaches a.rx.openPorts openPorts ∧ s.rx = (halfDone a.rx s.link).withPorts openPorts := by
  cases shown with
  | between here' => rw [here] at here'; contradiction
  | underway here' accepts reaches same frames =>
    obtain rfl := Option.some.inj (here.symm.trans here')
    exact ⟨accepts, frames, _, reaches, same⟩
  | ahead here' => rw [before] at here'; contradiction

/-- A packet that has been written is under way, or has been received but for the count of the window. -/
theorem Shown.isWritten (shown : Shown s received a) (here : written s.link = some packet) :
    (a.rx.accepts packet = true ∧ received = a.received ++ [packet] ∧
      ∃ openPorts, Reaches a.rx.openPorts openPorts ∧ s.rx = (halfDone a.rx s.link).withPorts openPorts) ∨
    ((s.rx.receivingWindow + 1).toNat < 128 ∧ a.rx = s.rx.count packet ∧
      (s.rx.isCompleteMessageForPortAvailable packet.getPort = true →
        (s.rx.availableMessages packet.getPort).isSome) ∧ received = a.received) := by
  cases shown with
  | between here' => rw [accepted_of_written here] at here'; contradiction
  | underway here' accepts reaches same frames =>
    obtain rfl := Option.some.inj ((accepted_of_written here).symm.trans here')
    exact .inl ⟨accepts, frames, _, reaches, same⟩
  | ahead here' room same flagged frames =>
    obtain rfl := Option.some.inj (here.symm.trans here')
    exact .inr ⟨room, same, flagged, frames⟩

/-- The test whether the port is open decides about a data packet. -/
theorem receives_readPort (sound : Sound a.rx) (shown : Shown s received a)
    (here : s.link = .testing .portOpen packet .read) (rx : t.rx = s.rx)
    (link : t.link = .testing .portOpen packet (.unlock (s.rx.isPortOpen packet.getPort))) : Receives t received a := by
  obtain ⟨known, same, frames⟩ := shown.isBetween (by simp [here])
  rw [here] at known frames
  obtain ⟨valid, data⟩ := known
  have complete : Complete t := fun _ flagging => by simp [link] at flagging
  rw [same] at link
  cases isOpen : a.rx.isPortOpen packet.getPort with
  | true =>
    rw [isOpen] at link
    have accepts : a.rx.accepts packet = true := by simp [RxModule.accepts, sound.active, valid, data, isOpen]
    exact .still sound (.underway (by rw [link]; rfl) accepts (.refl _) (by rw [rx, same, link]; rfl) frames) complete
  | false =>
    rw [isOpen] at link
    have refused : a.rx.accepts packet = false := by simp [RxModule.accepts, isOpen]
    have noSync : a.rx.synchronizes packet = false := by simp [synchronizes, data, msgData_ne_msgSync]
    refine .refuse sound frames (rx.trans same) refused noSync ?_ ?_ ?_ complete
    all_goals simp [link]

/-- Checksum and type decide about a packet that is no data packet. -/
theorem receives_check (sound : Sound a.rx) (shown : Shown s received a) {result : Bool}
    (here : s.link = .testing .active packet (.unlock result)) (rx : t.rx = s.rx)
    (link : t.link = RxThreads.afterLinkTest packet .active result) : Receives t received a := by
  obtain ⟨known, same, frames⟩ := shown.isBetween (by simp [here])
  rw [here] at known frames
  obtain rfl : result = true := known
  cases valid : packet.crcValid with
  | false =>
    have after : t.link = .outside := by simp [link, RxThreads.afterLinkTest, valid]
    have refused : a.rx.accepts packet = false := by simp [RxModule.accepts, valid]
    refine .refuse sound frames (rx.trans same) refused (by simp [synchronizes, valid]) ?_ ?_ ?_ ?_
    all_goals simp [after, Complete]
  | true =>
    rcases Classical.em (packet.header.getMessageType = msgSync) with sync | noSync
    · have after : t.link = .syncLocking packet := by simp [link, RxThreads.afterLinkTest, valid, sync]
      refine .moves sound shown rx ?_ ?_ ?_ ?_ ?_ ?_
      all_goals simp [here, after, valid, sync, Complete]
    rcases Classical.em (packet.header.getMessageType = msgData) with data | noData
    · have after : t.link = .testing .portOpen packet .lock := by
        simp [link, RxThreads.afterLinkTest, valid, data, msgData_ne_msgSync]
      refine .moves sound shown rx ?_ ?_ ?_ ?_ ?_ ?_
      all_goals simp [here, after, valid, data, Complete]
    · have after : t.link = .outside := by simp [link, RxThreads.afterLinkTest, valid, noSync, noData]
      refine .refuse sound frames (rx.trans same) (by simp [RxModule.accepts, noData]) (by simp [synchronizes, noSync])
        ?_ ?_ ?_ ?_
      all_goals simp [after, Complete]

/-- The port gets its flag, if it does not have it. -/
theorem receives_flag (sound : Sound a.rx) (shown : Shown s received a) (here : s.link = .flagging packet)
    (found : s.rx.isCompleteMessageForPortAvailable packet.getPort = true)
    (rx : t.rx = { s.rx with availableMessages := s.rx.availableMessages.insert packet.getPort 1 })
    (link : t.link = .signalling packet) : Receives t received a := by
  have complete : Complete t := fun _ flagging => by simp [link] at flagging
  have inBuffer : written s.link = some packet := by simp [here]
  rcases shown.isWritten inBuffer with ⟨accepts, frames, openPorts, reaches, same⟩ | ⟨room, same, flagged, frames⟩
  · rw [here] at same
    have isComplete : (a.rx.writePacket packet).isCompleteMessageForPortAvailable packet.getPort = true := by
      rw [same] at found
      exact found
    refine .still sound (.underway (by rw [link]; rfl) accepts reaches ?_ frames) complete
    rw [rx, link, same]
    simp only [halfDone, notifyIfComplete, isComplete, if_true]
    rfl
  · have isFlagged : s.rx.availableMessages packet.getPort = some 1 := by
      have ones := sound.flags packet.getPort
      rw [same] at ones
      exact ones (flagged found)
    have nothing : t.rx = s.rx := by rw [rx, ByteMap.insert, ← isFlagged, Function.update_eq_self]
    exact .still sound (.ahead (by rw [link]; rfl) (by rwa [nothing]) (by rw [nothing, same]) (by rwa [nothing]) frames)
      complete

/-- What the link thread does is to receive the frame, or nothing yet. -/
theorem receives_linkStep (sound : Sound a.rx) (shown : Shown s received a) (complete : Complete s)
    (stepped : s.linkStep = some t) : Receives t received a := by
  cases linkGoes_of_linkStep stepped with
  | @locksToTest test _ here =>
    refine .moves sound shown rfl ?_ ?_ ?_ ?_ ?_ ?_
    all_goals cases test <;> simp [here, Complete]
  | locksToSync here | unlocksSync here | locksToScan here | signals here | unlocksScan here =>
    refine .moves sound shown rfl ?_ ?_ ?_ ?_ ?_ ?_
    all_goals simp [here, Complete]
  | @reads test packet here =>
    cases test with
    | active =>
      obtain ⟨-, same, -⟩ := shown.isBetween (by simp [here])
      refine .moves sound shown rfl ?_ ?_ ?_ ?_ ?_ ?_
      all_goals simp [here, Complete, RxThreads.linkAnswer, same, sound.active]
    | portOpen => exact receives_readPort sound shown here rfl rfl
  | @unlocks test packet result here =>
    cases test with
    | active => exact receives_check sound shown here rfl rfl
    | portOpen =>
      refine .moves sound shown rfl ?_ ?_ ?_ ?_ ?_ ?_
      all_goals cases result <;> simp [here, Complete, RxThreads.afterLinkTest]
  | @synchronizes packet here =>
    obtain ⟨⟨valid, sync⟩, same, frames⟩ := here ▸ shown.isBetween (by simp [here])
    have synced : a.rx.synchronizes packet = true := by simp [RxModule.synchronizes, sound.active, valid, sync]
    refine .receive sound frames ?_ rfl trivial rfl fun _ flagging => by simp at flagging
    rw [handleReceivedPacket_of_synchronizes synced, same]
  | @writes packet here =>
    have under : accepted s.link = some packet := by simp [here]
    obtain ⟨accepts, frames, openPorts, reaches, same⟩ := shown.isUnderway under (by simp [here])
    refine .still sound (.underway rfl accepts reaches ?_ frames) fun _ flagging => by simp at flagging
    rw [same, here]
    rfl
  | @finds packet here found =>
    refine .moves sound shown rfl ?_ ?_ ?_ ?_ ?_ fun other flagging => ?_
    any_goals simp [here]
    obtain rfl : packet = other := by simpa using flagging
    exact found
  | @findsNothing packet here found =>
    have inBuffer : written s.link = some packet := by simp [here]
    rcases shown.isWritten inBuffer with ⟨accepts, frames, openPorts, reaches, same⟩ | ⟨room, same, flagged, frames⟩
    · rw [here] at same
      have incomplete : (a.rx.writePacket packet).isCompleteMessageForPortAvailable packet.getPort = false := by
        rw [same] at found
        exact found
      refine .still sound (.underway rfl accepts reaches ?_ frames) fun _ flagging => by simp at flagging
      simp [same, notifyIfComplete, incomplete]
    · exact .still sound (.ahead rfl room same flagged frames) fun _ flagging => by simp at flagging
  | @flags packet here => exact receives_flag sound shown here (complete packet here) rfl rfl
  | @updates packet here =>
    have inBuffer : written s.link = some packet := by simp [here]
    rcases shown.isWritten inBuffer with ⟨accepts, frames, openPorts, reaches, same⟩ | ⟨room, same, flagged, frames⟩
    · obtain ⟨events, run⟩ := exists_run_receiveData sound accepts reaches
      refine ⟨events, _, run, rfl, (sound.receiveData packet).withPorts _, ?_, fun _ flagging => by simp at flagging⟩
      refine .between rfl trivial ?_ (by simp [frames])
      rw [same, here]
      exact updateWindow_withPorts _ packet _
    · refine .still sound (.between rfl trivial ?_ (by simp [frames])) fun _ flagging => by simp at flagging
      rw [same]
      exact updateWindow_of_lt s.rx packet room

/-! ## Taking a message -/

/-- With a frame in hand a message of another port may be taken before it is received. -/
theorem takeFirst_halfDone {rx : RxModule} {place : LinkPlace} {port : UInt8} (outside : ¬ place.InsideRx)
    (own : ∀ port, ∀ ref ∈ rx.inBuffer.held port, ref.getPort = port)
    (first : (halfDone rx place).availableMessages.begin? = some port)
    (elsewhere : ∀ packet ∈ written place, port ≠ packet.getPort) :
    (halfDone rx place).takeFirst = rx.takeFirst.map (Prod.map id fun rx => halfDone rx place) := by
  have same : rx.takeFirst = rx.takeFirst.map (Prod.map id fun rx => rx) := by
    cases rx.takeFirst <;> rfl
  cases place with
  | outside | syncLocking | synchronizing | syncUnlocking | writing => exact same
  | testing test packet reading => exact same
  | scanning | flagging | signalling | unlocking => simp at outside
  | locking packet => exact takeFirst_writePacket (own _) first (elsewhere packet rfl)
  | updating packet =>
    have ne := elsewhere packet rfl
    have last : ((rx.writePacket packet).notifyIfComplete packet.getPort).availableMessages.begin? = some port := first
    have flagged := begin?_of_notifyIfComplete ne last
    have before := takeFirst_writePacket (own _) flagged ne
    simp only [halfDone]
    rw [takeFirst_notifyIfComplete last ne, before, Option.map_map]
    rfl

/-- What has been taken is taken from the system, too. -/
def Takes (t : RxThreads) (received : List S3tpPacket) (a : RxSystem) (delivery : Delivery) : Prop :=
  ∃ events a', Run RxSystem.step Always a events a' ∧ a'.delivered = a.delivered ++ [delivery] ∧
    a'.received <+: received ∧
    (delivery.error = codeSuccess → Sound a'.rx ∧ Shown t received a')

theorem step_consume {rx : RxModule} {delivery : Delivery} (sound : Sound a.rx)
    (taken : a.rx.takeFirst = some (delivery, rx)) :
    a.step .consume = some { a with rx, delivered := a.delivered ++ [delivery] } := by
  simp [RxSystem.step, sound.free, getNextCompleteMessage_of_takeFirst sound.active taken]

theorem Takes.of_ahead {rx : RxModule} {delivery : Delivery} (sound : Sound a.rx) (here : written s.link = some packet)
    (room : (s.rx.receivingWindow + 1).toNat < 128) (same : a.rx = s.rx.count packet)
    (flagged : s.rx.isCompleteMessageForPortAvailable packet.getPort = true →
      (s.rx.availableMessages packet.getPort).isSome) (frames : received = a.received)
    (taken : s.rx.takeFirst = some (delivery, rx)) (link : t.link = s.link) (after : t.rx = rx) :
    Takes t received a delivery := by
  have active : s.rx.active = true := by
    have isActive := sound.active
    rwa [same] at isActive
  have consumes := getNextCompleteMessage_of_takeFirst active taken
  have taken' : a.rx.takeFirst = some (delivery, rx.count packet) := by
    rw [same, takeFirst_count, taken]
    rfl
  refine ⟨[.consume], _, .cons trivial (step_consume sound taken') (.nil _), rfl, by simp [frames], fun success => ?_⟩
  refine ⟨sound.takeFirst taken' success, .ahead (link ▸ here) ?_ (by rw [after]) (fun found => ?_) frames⟩
  · rw [after, (drains_of_getNextCompleteMessage consumes).frame]
    exact room
  · rw [after] at found ⊢
    rcases Classical.em (s.rx.availableMessages.begin? = some packet.getPort) with own | other
    · obtain ⟨port, mid, first, -, rfl⟩ := of_takeFirst taken
      obtain rfl : packet.getPort = port := by simpa [own] using first
      rw [if_pos success, refreshAvailability_frame] at found ⊢
      have isComplete : mid.isCompleteMessageForPortAvailable packet.getPort = true := found
      simp [isComplete]
    · obtain ⟨untouched, -⟩ := untouched_of_getNextCompleteMessage other consumes
      rw [untouched.flag]
      apply flagged
      rw [isCompleteMessageForPortAvailable_eq, Buffer.held] at found ⊢
      rwa [untouched.queue, untouched.expected] at found

theorem notifyIfComplete_of_flagged {rx : RxModule} {port : UInt8} (flagged : rx.availableMessages port = some 1) :
    rx.notifyIfComplete port = rx := by
  have nothing : rx.availableMessages.insert port 1 = rx.availableMessages := by
    rw [ByteMap.insert, ← flagged, Function.update_eq_self]
  rw [notifyIfComplete, nothing]
  split <;> rfl

/-- The packet of a flagged port is received as soon as it is written, but for the count of the window. -/
theorem receiveData_of_written {openPorts : ByteMap UInt8} (sound : Sound a.rx) (outside : ¬ s.link.InsideRx)
    (here : written s.link = some packet) (same : s.rx = (halfDone a.rx s.link).withPorts openPorts)
    (flagged : (s.rx.availableMessages packet.getPort).isSome) (room : (s.rx.receivingWindow + 1).toNat < 128) :
    (a.rx.receiveData packet).withPorts openPorts = s.rx.count packet := by
  cases place : s.link with
  | outside | testing | syncLocking | synchronizing | syncUnlocking | writing => simp [place] at here
  | scanning | flagging | signalling | unlocking => simp [place] at outside
  | locking other =>
    obtain rfl : other = packet := by simpa [place] using here
    rw [place] at same
    rw [same] at flagged room ⊢
    have isFlagged : (a.rx.writePacket other).availableMessages other.getPort = some 1 := sound.flags _ flagged
    rw [receiveData, notifyIfComplete_of_flagged isFlagged, ← updateWindow_withPorts]
    exact updateWindow_of_lt _ _ room
  | updating other =>
    obtain rfl : other = packet := by simpa [place] using here
    rw [place] at same
    rw [same] at room ⊢
    rw [receiveData, ← updateWindow_withPorts]
    exact updateWindow_of_lt _ _ room

theorem Takes.of_shown {rx : RxModule} {delivery : Delivery} (sound : Sound a.rx) (shown : Shown s received a)
    (outside : ¬ s.link.InsideRx) (apart : ∀ packet ∈ written s.link,
      s.rx.availableMessages.begin? = some packet.getPort → (s.rx.receivingWindow + 1).toNat < receivingWindowSize)
    (taken : s.rx.takeFirst = some (delivery, rx)) (link : t.link = s.link) (after : t.rx = rx) :
    Takes t received a delivery := by
  cases shown with
  | between here known same frames =>
    rw [same] at taken
    refine ⟨[.consume], _, .cons trivial (step_consume sound taken) (.nil _), rfl, by simp [frames], fun success => ?_⟩
    exact ⟨sound.takeFirst taken success, .between (link ▸ here) (link ▸ known) after (by rw [link]; exact frames)⟩
  | ahead here room same flagged frames => exact .of_ahead sound here room same flagged frames taken link after
  | @underway packet openPorts here accepts reaches same frames =>
    obtain ⟨port, -, first, -, -⟩ := of_takeFirst taken
    rcases Classical.em (∀ packet ∈ written s.link, port ≠ packet.getPort) with elsewhere | own
    · have half : (halfDone a.rx s.link).availableMessages.begin? = some port := by
        rw [same] at first
        exact first
      rw [same, takeFirst_withPorts, takeFirst_halfDone outside sound.own half elsewhere, Option.map_map] at taken
      obtain ⟨⟨answer, rx'⟩, taken', pair⟩ := Option.map_eq_some_iff.mp taken
      obtain ⟨rfl, rfl⟩ := Prod.mk.inj pair
      have consumes := step_consume sound taken'
      refine ⟨[.consume], _, .cons trivial consumes (.nil _), rfl, by simp [frames], fun success => ?_⟩
      have frame := (drains_of_getNextCompleteMessage (getNextCompleteMessage_of_takeFirst sound.active taken')).frame
      refine ⟨sound.takeFirst taken' success, .underway (link ▸ here) ?_ (?_ : Reaches _ openPorts) ?_ frames⟩
      · rw [frame]
        exact accepts
      · rw [frame]
        exact reaches
      · rw [after, link]
    · push Not at own
      obtain ⟨other, isWritten, rfl⟩ := own
      obtain rfl : other = packet := Option.some.inj ((accepted_of_written isWritten).symm.trans here)
      have room := apart other isWritten first
      have flagged : (s.rx.availableMessages other.getPort).isSome := ByteMap.isSome_of_begin? first
      obtain ⟨events, run⟩ := exists_run_receiveData sound accepts reaches
      have same' := receiveData_of_written sound outside isWritten same flagged room
      obtain ⟨more, a', takes, delivered, earlier, success⟩ : Takes t received
          { a with rx := (a.rx.receiveData other).withPorts openPorts, received := a.received ++ [other] } delivery :=
        .of_ahead ((sound.receiveData other).withPorts openPorts) isWritten room same' (fun _ => flagged) frames taken
          link after
      exact ⟨events ++ more, a', run.append takes, delivered, earlier, success⟩

end Link

/-! ## Every step -/

/-- Nothing has failed so far. -/
structure Going (w : RxThreads × RxHistory) (a : RxSystem) : Prop where
  sound : Sound a.rx
  shown : Shown w.1 w.2.received a
  complete : Complete w.1
  succeeded : ∀ delivery ∈ a.delivered, delivery.error = codeSuccess

/-- A consumption has failed and has left `rx_mutex` held. -/
structure Wedged (w : RxThreads × RxHistory) (a : RxSystem) : Prop where
  held : w.1.rxMutex = some .assembly
  outside : ¬ w.1.assembly.InsideRx
  frames : a.received <+: w.2.received
  failed : ∃ delivery ∈ a.delivered, delivery.error ≠ codeSuccess

/-- The state of the system that the threads are seen as. -/
structure SeenAs (w : RxThreads × RxHistory) (a : RxSystem) : Prop where
  owned : w.1.Owned
  delivered : w.2.delivered = a.delivered
  goes : Going w a ∨ Wedged w a

/-- The system goes on to a state that has taken what the threads have taken. -/
def Advances (w : RxThreads × RxHistory) (a : RxSystem) : Prop :=
  ∃ events a', Run RxSystem.step Always a events a' ∧ w.2.delivered = a'.delivered ∧ (Going w a' ∨ Wedged w a')

theorem seenAs_started : SeenAs (RxThreads.started, {}) RxSystem.started where
  owned := RxThreads.owned_started
  delivered := rfl
  goes := by
    refine .inl ⟨sound_started, .between rfl trivial rfl rfl, fun _ flagging => ?_, fun _ among => ?_⟩
    · cases flagging
    · cases among

section Step

variable {s t : RxThreads} {event : RxThreadsEvent} {h : RxHistory} {a : RxSystem}

theorem received_prefix_remember (s : RxThreads) (event : RxThreadsEvent) (h : RxHistory) :
    h.received <+: (remember s event h).received := by
  cases event with
  | call packet => exact List.prefix_append _ _
  | assembly =>
    simp only [remember]
    split <;> exact List.prefix_rfl
  | _ => exact List.prefix_rfl

theorem remember_of_not_assembling (elsewhere : s.assembly ≠ .assembling) : remember s .assembly h = h := by
  simp only [remember]
  split
  · next here _ => exact absurd here elsewhere
  · rfl

theorem delivered_remember (elsewhere : s.assembly ≠ .assembling) :
    (remember s event h).delivered = h.delivered := by
  cases event with
  | assembly => rw [remember_of_not_assembling elsewhere]
  | _ => rfl

/-- Nobody gets `rx_mutex` any more. -/
theorem Wedged.step (wedged : Wedged (s, h) a) (owned : s.Owned) (stepped : s.step event = some t) :
    Wedged (t, remember s event h) a ∧ (remember s event h).delivered = h.delivered := by
  obtain ⟨(held : s.rxMutex = _), (outside : ¬ s.assembly.InsideRx), (frames : a.received <+: h.received), failed⟩ :=
    wedged
  have elsewhere : s.assembly ≠ .assembling := fun here => outside (by rw [here]; trivial)
  suffices stays : t.rxMutex = some .assembly ∧ ¬ t.assembly.InsideRx from
    ⟨⟨stays.1, stays.2, frames.trans (received_prefix_remember s event h), failed⟩, delivered_remember elsewhere⟩
  have linkOut : ¬ s.link.InsideRx := by
    intro within
    have other := owned.rx .link within
    rw [held] at other
    cases other
  cases event with
  | assembly =>
    cases RxThreads.of_assemblyStep stepped with
    | locks =>
      refine ⟨held, ?_⟩
      cases active : s.active <;> simp
    | locksToTest _ free | locksToTake _ free => exact absurd (held.symm.trans free) (by simp)
    | reads here | unlocks here | takes here | untakes here => exact (outside (by rw [here]; trivial)).elim
    | sleeps | leaves | releases | forwards => exact ⟨held, id⟩
  | link =>
    have steps := RxThreads.of_linkStep stepped
    refine ⟨?_, ?_⟩
    · rcases steps.rxMutex with ⟨kept, -⟩ | ⟨free, -⟩ | ⟨-, within, -⟩
      · exact kept.trans held
      · exact absurd (held.symm.trans free) (by simp)
      · exact absurd within linkOut
    · rcases steps.assembly with same | signalled
      · rwa [same]
      · rwa [signalled, (RxThreads.insideRx_signal s).1]
  | call packet | lock | unlock =>
    simp only [RxThreads.step] at stepped
    split at stepped
    · obtain rfl := Option.some.inj stepped
      exact ⟨held, outside⟩
    · contradiction
  | wake =>
    simp only [RxThreads.step] at stepped
    split at stepped
    · obtain rfl := Option.some.inj stepped
      exact ⟨held, id⟩
    · contradiction
  | openPort port | closePort port =>
    simp [RxThreads.step, held] at stepped
  | stop =>
    simp [RxThreads.step, held] at stepped

/-- Nobody has done anything to the module. -/
theorem Going.moves (going : Going (s, h) a) (rx : t.rx = s.rx) (link : t.link = s.link) : Going (t, h) a where
  sound := going.sound
  shown := going.shown.moves rx (by rw [link]) (by rw [link]) (by rw [link]) (by rw [link]; exact id) (by rw [link])
  complete packet flagging := by
    rw [rx]
    exact going.complete packet (link.symm.trans flagging)
  succeeded := going.succeeded

theorem halfDone_active (rx : RxModule) (place : LinkPlace) : (halfDone rx place).active = rx.active := by
  cases place with
  | signalling | unlocking | updating => simp [notifyIfComplete_frame, writePacket]
  | _ => rfl

/-- Ports are opened and closed at once, or after the frame that is under way. -/
theorem Going.operate {port : RxEvent} {operation : RxModule → RxModule} (going : Going (s, h) a)
    (operates : PortOperation port operation) (delivered : h.delivered = a.delivered) (rx : t.rx = operation s.rx)
    (link : t.link = s.link) : Advances (t, h) a := by
  obtain ⟨sound, shown, complete, succeeded⟩ := going
  have frame (rx : RxModule) : operation rx = rx.withPorts (operation rx).openPorts := operates.congr rfl rfl
  have complete' : Complete t := by
    intro packet flagging
    rw [rx, frame]
    exact complete packet (link.symm.trans flagging)
  have sound' : Sound (operation a.rx) := by
    rw [frame]
    exact sound.withPorts _
  have once : Run RxSystem.step Always a [port] { a with rx := operation a.rx } :=
    .cons trivial (operates.step sound.free) (.nil _)
  cases shown with
  | between here known same frames =>
    refine ⟨_, _, once, delivered, .inl ⟨sound', .between ?_ ?_ ?_ ?_, complete', succeeded⟩⟩
    · rw [link]
      exact here
    · rw [link]
      exact known
    · rw [rx, show s.rx = a.rx from same]
    · rw [link]
      exact frames
  | @underway packet openPorts here accepts reaches same frames =>
    obtain rfl : openPorts = s.rx.openPorts := by rw [show s.rx = _ from same]; rfl
    have active : s.rx.active = true := by
      rw [show s.rx = _ from same]
      exact (halfDone_active a.rx s.link).trans sound.active
    have further : Reaches a.rx.openPorts (operation s.rx).openPorts := reaches.operate operates active
    refine ⟨[], a, .nil a, delivered, .inl ⟨sound, .underway ?_ accepts further ?_ frames, complete', succeeded⟩⟩
    · rw [link]
      exact here
    · have ports := congrArg (fun rx => rx.withPorts (operation s.rx).openPorts) same
      rw [rx, frame, link]
      exact ports
  | @ahead packet here room same flagged frames =>
    have after : operation a.rx = a.rx.withPorts (operation s.rx).openPorts :=
      operates.congr (by rw [show a.rx = _ from same]; rfl) (by rw [show a.rx = _ from same]; rfl)
    have here' : written t.link = some packet := by rw [link]; exact here
    refine ⟨_, _, once, delivered, .inl ⟨sound', .ahead here' ?_ ?_ ?_ frames, complete', succeeded⟩⟩
    · rw [rx, frame]
      exact room
    · rw [after, rx, frame, show a.rx = _ from same]
      rfl
    · rw [rx, frame]
      exact flagged

/-- The system does nothing while the threads do nothing to the module. -/
theorem Going.idles (going : Going (s, h) a) (delivered : h.delivered = a.delivered) (rx : t.rx = s.rx)
    (link : t.link = s.link) : Advances (t, h) a :=
  ⟨[], a, .nil a, delivered, .inl (going.moves rx link)⟩

/-- The assembly thread takes a message, or the consumption fails. -/
theorem Going.takes {delivery : Delivery} {rx : RxModule} (going : Going (s, h) a) (owned : s.Owned)
    (delivered : h.delivered = a.delivered) (met : Undisturbed s .assembly) (here : s.assembly = .assembling)
    (taken : s.rx.takeFirst = some (delivery, rx)) :
    Advances ({ s with
      rx, assembly := if delivery.error = codeSuccess then .untaking delivery else .forwarding delivery },
      { h with delivered := h.delivered ++ [delivery] }) a := by
  have inside : s.assembly.InsideRx := by rw [here]; trivial
  have outside : ¬ s.link.InsideRx := by
    intro within
    have other := owned.rx .link within
    rw [owned.rx .assembly inside] at other
    cases other
  obtain ⟨events, a', run, delivered', earlier, success⟩ := Takes.of_shown
    (t := { s with
      rx, assembly := if delivery.error = codeSuccess then .untaking delivery else .forwarding delivery })
    going.sound going.shown outside (met here) taken rfl rfl
  refine ⟨events, a', run, by rw [delivered', delivered], ?_⟩
  rcases Classical.em (delivery.error = codeSuccess) with succeeds | fails
  · obtain ⟨sound, shown⟩ := success succeeds
    refine .inl ⟨sound, shown, fun packet flagging => ?_, fun other among => ?_⟩
    · exact (outside (by rw [show s.link = _ from flagging]; trivial)).elim
    · rw [delivered'] at among
      rcases List.mem_append.mp among with before | now
      · exact going.succeeded other before
      · rwa [List.mem_singleton.mp now]
  · refine .inr ⟨owned.rx .assembly inside, ?_, earlier, delivery, by simp [delivered'], fails⟩
    simp [fails]

theorem Going.step (going : Going (s, h) a) (owned : s.Owned) (delivered : h.delivered = a.delivered)
    (met : Undisturbed s event) (stepped : s.step event = some t) : Advances (t, remember s event h) a := by
  cases event with
  | assembly =>
    cases RxThreads.of_assemblyStep stepped with
    | @takes delivery rx here taken =>
      have remembered : remember s .assembly h = { h with delivered := h.delivered ++ [delivery] } := by
        simp only [remember, here, taken]
      rw [remembered]
      exact going.takes owned delivered met here taken
    | locks here =>
      rw [remember_of_not_assembling (by rcases here with here | here <;> simp [here])]
      exact going.idles delivered rfl rfl
    | locksToTest here | reads here | unlocks here | sleeps here | leaves here | releases here | locksToTake here
    | untakes here | forwards here =>
      rw [remember_of_not_assembling (by simp [here])]
      exact going.idles delivered rfl rfl
  | link =>
    obtain ⟨events, a', run, same, sound, shown, complete⟩ :=
      receives_linkStep going.sound going.shown going.complete stepped
    exact ⟨events, a', run, delivered.trans same.symm, .inl ⟨sound, shown, complete, same ▸ going.succeeded⟩⟩
  | call packet =>
    simp only [RxThreads.step] at stepped
    split at stepped
    · next here =>
      obtain rfl := Option.some.inj stepped
      obtain ⟨-, same, (frames : h.received = _)⟩ := going.shown.isBetween (by simp [here])
      refine ⟨[], a, .nil a, delivered, .inl ⟨going.sound, .between rfl trivial same ?_, ?_, going.succeeded⟩⟩
      · simp [remember, frames, here]
      · intro _ flagging
        simp at flagging
    · contradiction
  | wake | lock | unlock =>
    simp only [RxThreads.step] at stepped
    split at stepped
    · obtain rfl := Option.some.inj stepped
      exact going.idles delivered rfl rfl
    · contradiction
  | openPort port =>
    simp only [RxThreads.step] at stepped
    split at stepped
    · obtain rfl := Option.some.inj stepped
      exact going.operate (portOperation_openPort port) delivered rfl rfl
    · contradiction
  | closePort port =>
    simp only [RxThreads.step] at stepped
    split at stepped
    · obtain rfl := Option.some.inj stepped
      exact going.operate (portOperation_closePort port) delivered rfl rfl
    · contradiction
  | stop => exact met.elim

theorem SeenAs.step {w w' : RxThreads × RxHistory} (seen : SeenAs w a) (met : Undisturbed w.1 event)
    (stepped : recorded RxThreads.step remember w event = some w') :
    ∃ events a', Run RxSystem.step Always a events a' ∧ SeenAs w' a' := by
  obtain ⟨stepped, same⟩ := recorded_eq_some_iff.mp stepped
  obtain ⟨t, h⟩ := w'
  obtain rfl : h = remember w.1 event w.2 := same
  have owned := seen.owned.step stepped
  rcases seen.goes with going | wedged
  · obtain ⟨events, a', run, delivered, goes⟩ := going.step seen.owned seen.delivered met stepped
    exact ⟨events, a', run, owned, delivered, goes⟩
  · obtain ⟨wedged, delivered⟩ := wedged.step seen.owned stepped
    exact ⟨[], a, .nil a, owned, delivered.trans seen.delivered, .inr wedged⟩

end Step

theorem exists_run_seenAs {events : List RxThreadsEvent} {w : RxThreads × RxHistory}
    (run : Run (recorded RxThreads.step remember) (fun w => Undisturbed w.1) (RxThreads.started, {}) events w) :
    ∃ turns a, Run RxSystem.step Always RxSystem.started turns a ∧ SeenAs w a := by
  have matched (w : RxThreads × RxHistory) (event : RxThreadsEvent) (w' : RxThreads × RxHistory) (a : RxSystem)
      (seen : SeenAs w a) (met : Undisturbed w.1 event) (stepped : recorded RxThreads.step remember w event = some w') :
      ∃ turns a', Run RxSystem.step Always a turns a' ∧ turns.filter (fun _ => false) = [] ∧ SeenAs w' a' := by
    obtain ⟨turns, a', follows, after⟩ := seen.step met stepped
    exact ⟨turns, a', follows, List.filter_false turns, after⟩
  obtain ⟨turns, a, follows, -, seen⟩ := run.exists_matched matched _ seenAs_started
  exact ⟨turns, a, follows, seen⟩

theorem SeenAs.isPrefix (seen : SeenAs (s, history) a) : a.received <+: history.received := by
  rcases seen.goes with going | wedged
  · exact going.shown.isPrefix
  · exact wedged.frames

/-- Every run of the threads is one of the system in which the same frames are received and the same messages are taken.
-/
theorem exists_run_of_rxThreads {events : List RxThreadsEvent} {s : RxThreads} {history : RxHistory}
    (run : Run (recorded RxThreads.step remember) (fun w => Undisturbed w.1) (RxThreads.started, {}) events
      (s, history)) : ∃ turns a, Run RxSystem.step Always RxSystem.started turns a ∧
    a.delivered = history.delivered ∧ a.received <+: history.received ∧
    (s.link = .outside → (∀ delivery ∈ history.delivered, delivery.error = codeSuccess) →
      s.rx = a.rx ∧ a.received = history.received) := by
  obtain ⟨turns, a, follows, seen⟩ := exists_run_seenAs run
  refine ⟨turns, a, follows, seen.delivered.symm, seen.isPrefix, fun here succeeded => ?_⟩
  rcases seen.goes with going | wedged
  · obtain ⟨-, same, frames⟩ := going.shown.isBetween (by simp [show s.link = _ from here])
    exact ⟨same, by simpa [here, eq_comm] using frames⟩
  · obtain ⟨delivery, among, fails⟩ := wedged.failed
    exact absurd (succeeded delivery (seen.delivered ▸ among)) fails

instance (s : RxThreads) (event : RxThreadsEvent) : Decidable (Undisturbed s event) := by
  unfold Undisturbed
  split <;> infer_instance

/-- A message is taken from port 5 between the end of its flagging and the update of the window. -/
def takenBeforeUpdate : List RxThreadsEvent :=
  [.openPort 5, .call (fragmentOf 0 0 0 false)] ++ List.replicate 12 .link ++ List.replicate 17 .assembly ++ [.link]

/-- In one turn the frame is received first. -/
theorem exists_run_of_rxThreads_beforeUpdate : ∃ s history turns a,
    Run (recorded RxThreads.step remember) (fun w => Undisturbed w.1) (RxThreads.started, {}) takenBeforeUpdate
      (s, history) ∧ Run RxSystem.step Always RxSystem.started turns a ∧
    a.delivered = [⟨some [0], 1, codeSuccess, 5⟩] ∧ a.received = [fragmentOf 0 0 0 false] ∧ s.rx = a.rx := by
  have runs : (takenBeforeUpdate.foldlM
      (fun w event => if Undisturbed w.1 event then recorded RxThreads.step remember w event else none)
      (RxThreads.started, {})).map (fun w => (w.1.link, w.2.received, w.2.delivered)) =
        some (.outside, [fragmentOf 0 0 0 false], [⟨some [0], 1, codeSuccess, 5⟩]) := by decide +kernel
  obtain ⟨⟨s, history⟩, runs, shows⟩ := Option.map_eq_some_iff.mp runs
  simp only [Prod.mk.injEq] at shows
  obtain ⟨outside, received, delivered⟩ := shows
  have run := Run.iff_foldlM.mpr runs
  obtain ⟨turns, a, follows, same, -, whole⟩ := exists_run_of_rxThreads run
  obtain ⟨alike, all⟩ := whole outside (by simp [delivered])
  exact ⟨s, history, turns, a, run, follows, same.trans delivered, all.trans received, alike⟩

end S3tp.Soundness.FramesInTurn
