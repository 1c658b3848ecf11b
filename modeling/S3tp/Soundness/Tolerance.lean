import S3tp.Model.Core.Listener
import S3tp.Soundness.Framing
import S3tp.Soundness.LengthVote

/-! # Damage on the sockets of applications

Types are far apart, and lengths are sent three times, so that a flipped bit does no harm. What is tolerated is one
flipped bit in either half of a type, and anything in the first copy of a length. A stream that is damaged nowhere
else is heard by the connector's listener as it was sent, and read by the daemon's client thread as it was sent. The
client thread does not look at the types at all.
-/

namespace S3tp.Soundness.Tolerance

open Machine Model.Core Model.Core.ClientRoutine

/-! ## Types and lengths -/

/-- At most one bit has been flipped in either half of the byte. -/
def Close (sent received : UInt8) : Prop :=
  bitsSet (sent ^^^ received) 4 ≤ 1 ∧ bitsSet ((sent ^^^ received) >>> 4) 4 ≤ 1

instance (sent received : UInt8) : Decidable (Close sent received) := by
  unfold Close
  infer_instance

/-- A type survives it. -/
theorem interpretation_of_close (type : AppControlMessageType) {received : UInt8} (close : Close type.toByte received) :
    safeMessageTypeInterpretation received = type := by
  have each : ∀ byte : Fin 256, Close type.toByte (UInt8.ofFin byte) →
      safeMessageTypeInterpretation (UInt8.ofFin byte) = type := by
    cases type <;> decide +kernel
  exact each received.toFin close

/-- Only the first of the three copies may have been changed. -/
def Outvoted (length : ℕ) (intro : S3tpIntroRedundant) : Prop :=
  intro.command 1 = length ∧ intro.command 2 = length

theorem readLengthSafe_of_outvoted {length : ℕ} {intro : S3tpIntroRedundant} (outvoted : Outvoted length intro)
    (fits : length < 2 ^ 64) (more : List UInt8) :
    readLengthSafe S3tpIntroRedundant.size (.ofBytes (intro.toBytes ++ more)) = (codeSuccess, some length) := by
  obtain ⟨second, third⟩ := outvoted
  have copy (i : ℕ) (index : i < safeTransmissionCount) (same : intro.command i = length) :
      (S3tpIntroRedundant.ofBytes (intro.toBytes ++ more)).command i = length := by
    rw [intro.command_ofBytes_toBytes more index (by rw [same]; exact fits), same]
  rw [readLengthSafe_full, copy 1 (by decide) second, copy 2 (by decide) third, if_pos rfl]

/-! ## What the listener hears -/

/-- What arrives of a message whose frame was damaged no more than is tolerated. -/
inductive Damaged : DaemonMessage → List UInt8 → Prop
  | data {message : AppMessage} {type : UInt8} {intro : S3tpIntroRedundant} (close : Close appDataMessage type)
    (outvoted : Outvoted message.data.length intro) :
    Damaged (.data message) (type :: (intro.toBytes ++ message.data))
  | control {kind : AppControlMessageType} {error type received : UInt8} (close : Close appControlMessage type)
    (kindClose : Close kind.toByte received) : Damaged (.control ⟨kind.toByte, error⟩) [type, received, error]

/-- The application gets the same data, or the connector the same answer. -/
inductive Alike : Heard → Heard → Prop
  | data (bytes : List UInt8) : Alike (.data bytes) (.data bytes)
  | control {sent received : S3tpControl} (type : received.type = sent.type) (error : received.error = sent.error) :
    Alike (.control sent) (.control received)

variable {message : DaemonMessage} {frame : List UInt8}

/-- A damaged frame is heard in one pass, as a whole one is. -/
theorem listenerPass_damaged (damaged : Damaged message frame) (nonempty : message.Nonempty) :
    ∃ heard, Alike message.heard heard ∧ ∀ rest, listenerPass (frame ++ rest) = .goesOn (some heard) rest := by
  cases damaged with
  | @data message type intro close outvoted =>
    have interpreted := interpretation_of_close .ack close
    refine ⟨.data message.data, .data _, fun rest => ?_⟩
    have length := intro.length_toBytes
    have size : ¬ (intro.toBytes ++ (message.data ++ rest)).length < S3tpIntroRedundant.size := by
      rw [List.length_append, length]
      omega
    have read := readLengthSafe_of_outvoted outvoted message.fits []
    rw [List.append_nil] at read
    have positive : message.data.length ≠ 0 := fun none => nonempty (List.length_eq_zero_iff.mp none)
    rw [List.cons_append, List.append_assoc, listenerPass, interpreted, if_neg (by decide), if_pos (by decide),
      receiveDataMessage, if_neg size, List.take_left' length, List.drop_left' length, read]
    dsimp only
    rw [if_neg (by decide), if_neg positive, if_neg (by simp), List.take_left, List.drop_left]
  | @control kind error type received close kindClose =>
    have interpreted := interpretation_of_close .reserved close
    refine ⟨.control ⟨received, error⟩, .control ?_ rfl, fun rest => ?_⟩
    · rw [S3tpControl.type, S3tpControl.type, interpretation_of_close kind kindClose,
        safeMessageTypeInterpretation_toByte]
    · rw [List.cons_append, listenerPass, interpreted, if_pos (by decide)]
      rfl

/-- As many passes as there are frames hear what each of them says. -/
theorem asyncListener_of_passes {frames : List (List UInt8)} {heard : List Heard}
    (passes : List.Forall₂ (fun frame heard => ∀ rest, listenerPass (frame ++ rest) = .goesOn (some heard) rest)
      frames heard) {part : List UInt8} (waits : listenerPass part = .waits) {turns : ℕ}
    (enough : frames.length ≤ turns) : asyncListener turns (frames.flatten ++ part) = (heard, part) := by
  induction passes generalizing turns with
  | nil =>
    cases turns with
    | zero => rfl
    | succ turns =>
      rw [List.flatten_nil, List.nil_append, asyncListener, waits]
  | cons first rest ih =>
    cases turns with
    | zero => simp at enough
    | succ turns =>
      have later := ih (Nat.le_of_succ_le_succ enough)
      rw [List.flatten_cons, List.append_assoc, asyncListener, first]
      dsimp only
      rw [later]
      rfl

theorem ne_nil_of_damaged (damaged : Damaged message frame) : frame ≠ [] := by
  cases damaged <;> simp

/-- The connector after it has heard a message. -/
def updatedBy (connector : S3tpConnector) : Heard → S3tpConnector
  | .data _ => connector
  | .control reply => connector.receiveControlMessage reply

theorem updatedBy_of_alike {connector : S3tpConnector} {sent heard : Heard} (alike : Alike sent heard) :
    updatedBy connector heard = updatedBy connector sent := by
  cases alike with
  | data bytes => rfl
  | control type => simp only [updatedBy, S3tpConnector.receiveControlMessage, type]

theorem foldl_updatedBy {sent heard : List Heard} (alike : List.Forall₂ Alike sent heard) (connector : S3tpConnector) :
    heard.foldl updatedBy connector = sent.foldl updatedBy connector := by
  induction alike generalizing connector with
  | nil => rfl
  | cons first rest ih => rw [List.foldl_cons, List.foldl_cons, updatedBy_of_alike first, ih]

/-- What arrives of an application's frame, not an empty one, whose type and first copy of the length were damaged. -/
inductive Garbled : AppMessage → List UInt8 → Prop
  | intro {message : AppMessage} {type : UInt8} {intro : S3tpIntroRedundant} (nonempty : message.data ≠ [])
    (outvoted : Outvoted message.data.length intro) : Garbled message (type :: (intro.toBytes ++ message.data))

/-- The two routines stand at the same place of their streams, the first of which is damaged. -/
inductive Shadows : ClientRoutine → ClientRoutine → Prop
  | type {messages : List AppMessage} {frames passedOn : List (List UInt8)}
    (garbled : List.Forall₂ Garbled messages frames) :
    Shadows ⟨frames.flatten, .type, passedOn⟩ ⟨messages.flatMap AppMessage.frame, .type, passedOn⟩
  | length {message : AppMessage} {intro : S3tpIntroRedundant} {messages : List AppMessage}
    {frames passedOn : List (List UInt8)} (nonempty : message.data ≠ [])
    (outvoted : Outvoted message.data.length intro) (garbled : List.Forall₂ Garbled messages frames) :
    Shadows ⟨intro.toBytes ++ (message.data ++ frames.flatten), .length, passedOn⟩
      ⟨writeLengthSafe message.data.length ++ (message.data ++ messages.flatMap AppMessage.frame), .length, passedOn⟩
  | payload {len : ℕ} {taken left : List UInt8} {messages : List AppMessage} {frames passedOn : List (List UInt8)}
    (whole : taken.length + left.length = len) (more : left ≠ []) (garbled : List.Forall₂ Garbled messages frames) :
    Shadows ⟨left ++ frames.flatten, .payload len taken, passedOn⟩
      ⟨left ++ messages.flatMap AppMessage.frame, .payload len taken, passedOn⟩

theorem length_of_garbled {messages : List AppMessage} {frames : List (List UInt8)}
    (garbled : List.Forall₂ Garbled messages frames) :
    frames.flatten.length = (messages.flatMap AppMessage.frame).length := by
  induction garbled with
  | nil => rfl
  | cons first rest ih =>
    obtain ⟨nonempty, outvoted⟩ := first
    simp only [List.flatten_cons, List.flatMap_cons, List.length_append, AppMessage.length_frame, List.length_cons,
      S3tpIntroRedundant.length_toBytes, ih]
    omega

variable {d c d' : ClientRoutine} {rd : SocketRead}

theorem Shadows.same (shadows : Shadows d c) : d.place = c.place ∧ d.applicationMessages = c.applicationMessages ∧
    d.socket.length = c.socket.length := by
  cases shadows with
  | type garbled => exact ⟨rfl, rfl, length_of_garbled garbled⟩
  | length nonempty outvoted garbled => exact ⟨rfl, rfl, by simp [length_of_garbled garbled]⟩
  | payload whole more garbled => exact ⟨rfl, rfl, by simp [length_of_garbled garbled]⟩

theorem Shadows.returns_iff (shadows : Shadows d c) (count : ℕ) : d.Returns count ↔ c.Returns count := by
  obtain ⟨place, -, length⟩ := shadows.same
  rw [Returns, Returns, requested, requested, place, length]

/-- Bytes that are read do the same to both routines. -/
theorem Shadows.receive (shadows : Shadows d c) (returns : d.Returns rd.count) (whole : d.ReadsWholeLength rd) :
    Shadows (d.receive rd) (c.receive rd) := by
  cases shadows with
  | @type messages frames passedOn garbled =>
    obtain ⟨positive, asked, there⟩ : 0 < rd.count ∧ rd.count ≤ 1 ∧ rd.count ≤ frames.flatten.length := returns
    obtain one : rd.count = 1 := by omega
    cases garbled with
    | nil => simp at there; omega
    | @cons message frame messages frames first rest =>
      obtain ⟨nonempty, outvoted⟩ := first
      simp only [ClientRoutine.receive, one, AppMessage.frame, List.flatten_cons, List.flatMap_cons, List.cons_append,
        List.append_assoc, List.drop_succ_cons, List.drop_zero]
      exact .length nonempty outvoted rest
  | @length message intro messages frames passedOn nonempty outvoted garbled =>
    have entire : rd.count = S3tpIntroRedundant.size := whole rfl
    have damaged := readLengthSafe_of_outvoted outvoted message.fits (rd.memory.drop rd.count)
    have undamaged := readLengthSafe_writeLengthSafe message.fits (rd.memory.drop rd.count)
    rw [← entire] at damaged undamaged
    simp only [ClientRoutine.receive]
    rw [List.take_left' (by rw [entire, intro.length_toBytes]), List.drop_left' (by rw [entire, intro.length_toBytes]),
      damaged, List.take_left' (by rw [entire, length_writeLengthSafe]),
      List.drop_left' (by rw [entire, length_writeLengthSafe]), undamaged]
    exact .payload (by simp) nonempty garbled
  | @payload len taken left messages frames passedOn length more garbled =>
    have asks : ClientRoutine.requested ⟨left ++ frames.flatten, .payload len taken, passedOn⟩ = left.length := by
      simp only [requested]
      omega
    have some := List.length_pos_iff.mpr more
    rw [Returns, asks, if_neg (by omega)] at returns
    obtain ⟨positive, asked, -⟩ := returns
    simp only [ClientRoutine.receive, if_neg positive.ne', List.take_append_of_le_length asked,
      List.drop_append_of_le_length asked]
    split
    · next unfinished =>
      refine .payload ?_ (List.ne_nil_of_length_pos ?_) garbled
      · simp only [List.length_append, List.length_take, List.length_drop]
        omega
      · rw [List.length_drop]
        omega
    · have last : rd.count = left.length := by omega
      rw [last, List.drop_length, List.nil_append, List.nil_append]
      exact .type garbled

theorem Shadows.step (shadows : Shadows d c) (whole : d.ReadsWholeLength rd) (stepped : d.step rd = some d') :
    c.step rd = some (c.receive rd) ∧ Shadows d' (c.receive rd) := by
  obtain ⟨running, returns, rfl⟩ := step_eq_some stepped
  have running' : c.place ≠ .closed := shadows.same.1 ▸ running
  refine ⟨?_, shadows.receive returns whole⟩
  rw [ClientRoutine.step, if_pos ⟨running', (shadows.returns_iff rd.count).mp returns⟩]

theorem Shadows.run {reads : List SocketRead} (run : Run ClientRoutine.step ReadsWholeLength d reads d') :
    ∀ c, Shadows d c → ∃ c', Run ClientRoutine.step ReadsWholeLength c reads c' ∧ Shadows d' c' := by
  induction run with
  | nil d => exact fun c shadows => ⟨c, .nil c, shadows⟩
  | @cons d mid d' rd reads whole stepped rest ih =>
    intro c shadows
    obtain ⟨stepped', after⟩ := shadows.step whole stepped
    obtain ⟨c', run, last⟩ := ih _ after
    have whole' : c.ReadsWholeLength rd := fun isLength => whole (shadows.same.1.trans isLength)
    exact ⟨c', .cons whole' stepped' run, last⟩

/-- On a stream whose types and first copies of lengths are damaged at will, the client thread does what it does on the
undamaged one, read by read. So it passes on the messages, all of them once it has read all it can. -/
theorem recovered_of_garbled {messages : List AppMessage} {frames : List (List UInt8)} {reads : List SocketRead}
    {s : ClientRoutine} (garbled : List.Forall₂ Garbled messages frames)
    (run : Run ClientRoutine.step ReadsWholeLength ⟨frames.flatten, .type, []⟩ reads s) :
    (∃ c, Run ClientRoutine.step ReadsWholeLength (start messages) reads c ∧ c.place = s.place ∧
      c.applicationMessages = s.applicationMessages) ∧
    s.applicationMessages <+: messages.map AppMessage.data ∧ (s.Finished → Recovered messages s) := by
  obtain ⟨c, run', shadows⟩ := Shadows.run run (start messages) (.type garbled)
  obtain ⟨place, passedOn, length⟩ := shadows.same
  have nonempty : ∀ message ∈ messages, message.data ≠ [] := by
    clear run run' shadows
    induction garbled with
    | nil => simp
    | cons first rest ih =>
      obtain ⟨some, -⟩ := first
      simpa [some] using ih
  have onTrack := onTrack_of_run nonempty run' (onTrack_start messages)
  refine ⟨⟨c, run', place.symm, passedOn.symm⟩, passedOn ▸ onTrack.isPrefix, fun finished => ?_⟩
  have finished' : c.Finished := by
    intro rd positive
    have stuck := finished rd positive
    rw [ClientRoutine.step, if_neg]
    rintro ⟨running, returns⟩
    rw [ClientRoutine.step, if_pos ⟨place ▸ running, (shadows.returns_iff rd.count).mpr returns⟩] at stuck
    contradiction
  obtain ⟨all, boundary, exhausted⟩ := onTrack.recovered (exhausted_of_finished finished' onTrack.running onTrack.asks)
  refine ⟨passedOn.trans all, place.trans boundary, List.length_eq_zero_iff.mp ?_⟩
  rw [length, exhausted]
  rfl

/-! ## One frame each way -/

/-- A bit of the type is flipped, and so is one of the length. -/
def oneFlippedIntro : S3tpIntroRedundant := ⟨fun copy => if copy = 0 then 5 else 1⟩

theorem recovered_of_garbled_oneByte : ∃ s, Recovered [oneByteMessage] s ∧
    Run ClientRoutine.step ReadsWholeLength ⟨0x77 :: (oneFlippedIntro.toBytes ++ [1]), .type, []⟩ wholeReads s := by
  have garbled : List.Forall₂ Garbled [oneByteMessage] [0x77 :: (oneFlippedIntro.toBytes ++ oneByteMessage.data)] :=
    .cons (.intro (by decide) ⟨rfl, rfl⟩) .nil
  have run : Run ClientRoutine.step ReadsWholeLength
      ⟨[0x77 :: (oneFlippedIntro.toBytes ++ oneByteMessage.data)].flatten, .type, []⟩ wholeReads ⟨[], .type, [[1]]⟩ :=
    .cons nofun rfl (.cons (fun _ => rfl) rfl (.cons nofun rfl (.nil _)))
  have finished : Finished ⟨[], .type, [[1]]⟩ := by
    intro rd positive
    simp [ClientRoutine.step, Returns, requested, positive.ne']
  exact ⟨_, (recovered_of_garbled garbled run).2.2 finished, by simpa [oneByteMessage] using run⟩

end S3tp.Soundness.Tolerance
