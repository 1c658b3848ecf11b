import S3tp.Model.Core.Framing

/-! # The connector's listener

What `S3tpConnector::asyncListener` makes of the bytes written to its socket, when every `read` waits
until it can return all it asks for. A length of zero makes the next read return zero, which is taken
for the end of the stream. An application without a listener calls `recv` or `recvRaw`, which read from
the socket themselves.
-/

namespace S3tp.Model.Core

/-- A message from the daemon: `Client::send` passes on data, `Client::sendControlMessage` a control
message. -/
inductive DaemonMessage where
  | data (message : AppMessage)
  | control (reply : S3tpControl)
deriving DecidableEq

/-- What the listener calls `onNewMessage` or updates the connector with. -/
inductive Heard where
  | data (bytes : List UInt8)
  | control (reply : S3tpControl)
deriving DecidableEq

namespace DaemonMessage

def writes : DaemonMessage → List (List UInt8)
  | .data message => message.writes
  | .control reply => reply.writes

/-- The whole frame. -/
def frame (message : DaemonMessage) : List UInt8 := message.writes.flatten

def heard : DaemonMessage → Heard
  | .data message => .data message.data
  | .control reply => .control reply

/-- Not a data message without data. -/
def Nonempty : DaemonMessage → Prop
  | .data message => message.data ≠ []
  | .control _ => True

instance : DecidablePred Nonempty
  | .data message => inferInstanceAs (Decidable (message.data ≠ []))
  | .control _ => inferInstanceAs (Decidable True)

end DaemonMessage

/-- How a pass of the listener's loop ends: it waits for bytes, it has stopped, or it goes on with the
bytes after those it has read. -/
inductive ListenerPass where
  | waits
  | stops
  | goesOn (heard : Option Heard) (rest : List UInt8)
deriving DecidableEq

/-- What `receiveControlMessage` reads. -/
def receiveControlMessage : List UInt8 → ListenerPass
  | controlMessageType :: error :: rest => .goesOn (some (.control ⟨controlMessageType, error⟩)) rest
  | _ => .waits

/-- What `receiveDataMessage` reads. -/
def receiveDataMessage (stream : List UInt8) : ListenerPass :=
  if stream.length < S3tpIntroRedundant.size then .waits
  else
    let rest := stream.drop S3tpIntroRedundant.size
    match readLengthSafe S3tpIntroRedundant.size (.ofBytes (stream.take S3tpIntroRedundant.size)) with
    | (_, none) => .stops
    | (error, some len) =>
      if error < 0 then .stops
      else if len = 0 then .stops
      else if rest.length < len then .waits
      else .goesOn (some (.data (rest.take len))) (rest.drop len)

/-- The body of the loop in `asyncListener`. -/
def listenerPass : List UInt8 → ListenerPass
  | [] => .waits
  | byte :: stream =>
    let type := (safeMessageTypeInterpretation byte).toByte
    if type = appControlMessage then receiveControlMessage stream
    else if type = appDataMessage then receiveDataMessage stream
    else .goesOn none stream

/-- What the listener hears in so many passes, and the bytes it leaves. -/
def asyncListener : ℕ → List UInt8 → List Heard × List UInt8
  | 0, stream => ([], stream)
  | passes + 1, stream =>
    match listenerPass stream with
    | .waits | .stops => ([], stream)
    | .goesOn heard rest =>
      let (later, left) := asyncListener passes rest
      (heard.toList ++ later, left)

/-- A pass reads the type at least, so there are not more of them than bytes. -/
def listen (stream : List UInt8) : List Heard × List UInt8 := asyncListener stream.length stream

/-! ## Receiving synchronously -/

/-- `CODE_ERROR_INVALID_LENGTH`. -/
def codeErrorInvalidLength : ℤ := -9

/-- `MIN`, which is defined as `MAX` is. -/
def minMacro (a b : ℕ) : ℕ := if a > b then a else b

/-- How a call ends: it waits for bytes, or it returns, with the connector and the bytes of the stream it leaves. -/
inductive Received (α : Type) where
  | waits
  | returns (result : α) (connector : S3tpConnector) (rest : List UInt8)

namespace S3tpConnector

variable (c : S3tpConnector)

/-- What `read_length_safe` returns where it does not wait. -/
def readLength (stream : List UInt8) : ℤ × Option ℕ :=
  readLengthSafe S3tpIntroRedundant.size (.ofBytes (stream.take S3tpIntroRedundant.size))

/-- `recv`: the value returned, and what the caller's buffer of `len` bytes has been filled with. -/
def recv (stream : List UInt8) (len : ℕ) : Received (ℤ × List UInt8) :=
  if !c.connected then .returns (codeErrorSocketNoConn, []) c stream
  else if stream.length < S3tpIntroRedundant.size then .waits
  else
    let rest := stream.drop S3tpIntroRedundant.size
    let (error, msgLen) := readLength stream
    if error = codeErrorSocketNoConn then .returns (error, []) { c with connected := false } rest
    else if error < 0 then .returns (error, []) c.closeConnection rest
    else if msgLen.getD 0 > len then .returns (codeErrorInvalidLength, []) c.closeConnection rest
    else
      let len := minMacro len (msgLen.getD 0)
      if len = 0 then .returns (codeErrorSocketNoConn, []) { c with connected := false } rest
      else if rest.length < len then .waits
      else .returns ((len : ℤ).bmod (2 ^ 32), rest.take len) c (rest.drop len)

/-- `recvRaw`: the buffer returned, `*len` and `*error` afterwards. -/
def recvRaw (stream : List UInt8) (len : ℕ) : Received (Option (List UInt8) × ℕ × ℤ) :=
  if !c.connected then .returns (none, 0, codeErrorSocketNoConn) c stream
  else if stream.length < S3tpIntroRedundant.size then .waits
  else
    let rest := stream.drop S3tpIntroRedundant.size
    let (error, _) := readLength stream
    if error = codeErrorSocketNoConn then .returns (none, 0, error) { c with connected := false } rest
    else if error < 0 then .returns (none, 0, error) c.closeConnection rest
    else if len = 0 then .returns (none, 0, codeErrorSocketNoConn) { c with connected := false } rest
    else if rest.length < len then .waits
    else .returns (some (rest.take len), len, error) c (rest.drop len)

end S3tpConnector

/-! ## Whole frames -/

variable {message : DaemonMessage}

theorem listenerPass_data (stream : List UInt8) :
    listenerPass (appDataMessage :: stream) = receiveDataMessage stream := by
  have other : (safeMessageTypeInterpretation appDataMessage).toByte ≠ appControlMessage := by decide
  have same : (safeMessageTypeInterpretation appDataMessage).toByte = appDataMessage := by decide
  rw [listenerPass, if_neg other, if_pos same]

theorem readLengthSafe_take_writeLengthSafe (message : AppMessage) (rest : List UInt8) :
    readLengthSafe S3tpIntroRedundant.size (.ofBytes ((writeLengthSafe message.data.length ++ rest).take
      S3tpIntroRedundant.size)) = (codeSuccess, some message.data.length) := by
  rw [List.take_left' (length_writeLengthSafe _), ← List.append_nil (writeLengthSafe _)]
  exact readLengthSafe_writeLengthSafe message.fits []

theorem receiveDataMessage_writeLengthSafe (message : AppMessage) (nonempty : message.data ≠ []) (rest : List UInt8) :
    receiveDataMessage (writeLengthSafe message.data.length ++ rest) =
      if rest.length < message.data.length then .waits
      else .goesOn (some (.data (rest.take message.data.length))) (rest.drop message.data.length) := by
  have long : ¬ (writeLengthSafe message.data.length ++ rest).length < S3tpIntroRedundant.size := by
    rw [List.length_append, length_writeLengthSafe]
    omega
  have positive : message.data.length ≠ 0 := fun none => nonempty (List.length_eq_zero_iff.mp none)
  rw [receiveDataMessage, if_neg long, readLengthSafe_take_writeLengthSafe, List.drop_left' (length_writeLengthSafe _)]
  dsimp only
  rw [if_neg (by decide), if_neg positive]

/-- A whole frame is read in one pass. -/
theorem listenerPass_frame (nonempty : message.Nonempty) (rest : List UInt8) :
    listenerPass (message.frame ++ rest) = .goesOn (some message.heard) rest := by
  cases message with
  | control reply => rfl
  | data message =>
    have split : (DaemonMessage.data message).frame ++ rest =
        appDataMessage :: (writeLengthSafe message.data.length ++ (message.data ++ rest)) := by
      simp [DaemonMessage.frame, DaemonMessage.writes, AppMessage.writes]
    rw [split, listenerPass_data, receiveDataMessage_writeLengthSafe message nonempty, if_neg (by simp), List.take_left,
      List.drop_left]
    rfl

/-- The listener waits for the end of a frame that has been written in part. -/
theorem listenerPass_part (nonempty : message.Nonempty) {written left : List (List UInt8)}
    (parts : message.writes = written ++ left) (unfinished : left ≠ []) :
    listenerPass written.flatten = .waits := by
  cases message with
  | control reply =>
    rcases written with _ | ⟨first, _ | ⟨second, more⟩⟩
    · rfl
    · simp only [DaemonMessage.writes, S3tpControl.writes, List.cons_append, List.cons.injEq] at parts
      rw [← parts.1]
      rfl
    · simp [DaemonMessage.writes, S3tpControl.writes, unfinished] at parts
  | data message =>
    rcases written with _ | ⟨first, _ | ⟨second, _ | ⟨third, more⟩⟩⟩
    · rfl
    · simp only [DaemonMessage.writes, AppMessage.writes, List.cons_append, List.cons.injEq] at parts
      rw [← parts.1]
      rfl
    · simp only [DaemonMessage.writes, AppMessage.writes, List.cons_append, List.cons.injEq] at parts
      have positive : ([] : List UInt8).length < message.data.length := List.length_pos_iff.mpr nonempty
      have flat : [first, second].flatten = appDataMessage :: (writeLengthSafe message.data.length ++ []) := by
        rw [← parts.1, ← parts.2.1]
        rfl
      rw [flat, listenerPass_data, receiveDataMessage_writeLengthSafe message nonempty, if_pos positive]
    · simp [DaemonMessage.writes, AppMessage.writes, unfinished] at parts

theorem frame_ne_nil (message : DaemonMessage) : message.frame ≠ [] := by
  cases message <;> simp [DaemonMessage.frame, DaemonMessage.writes, AppMessage.writes, S3tpControl.writes]

theorem asyncListener_frames {messages : List DaemonMessage} (nonempty : ∀ message ∈ messages, message.Nonempty)
    {part : List UInt8} (waits : listenerPass part = .waits) {passes : ℕ} (enough : messages.length ≤ passes) :
    asyncListener passes (messages.flatMap DaemonMessage.frame ++ part) = (messages.map DaemonMessage.heard, part) := by
  induction messages generalizing passes with
  | nil =>
    cases passes with
    | zero => rfl
    | succ passes =>
      rw [List.flatMap_nil, List.nil_append, asyncListener, waits]
      rfl
  | cons message messages ih =>
    cases passes with
    | zero => simp at enough
    | succ passes =>
      have later := ih (fun other member => nonempty other (by simp [member])) (Nat.le_of_succ_le_succ enough)
      rw [List.flatMap_cons, List.append_assoc, asyncListener, listenerPass_frame (nonempty message (by simp))]
      dsimp only
      rw [later]
      rfl

/-- Of whole frames and a part of one more, the listener hears the whole frames. -/
theorem listen_frames {messages : List DaemonMessage} (nonempty : ∀ message ∈ messages, message.Nonempty)
    {part : List UInt8} (waits : listenerPass part = .waits) :
    listen (messages.flatMap DaemonMessage.frame ++ part) = (messages.map DaemonMessage.heard, part) := by
  apply asyncListener_frames nonempty waits
  have each (messages : List DaemonMessage) : messages.length ≤ (messages.flatMap DaemonMessage.frame).length := by
    induction messages with
    | nil => exact le_rfl
    | cons message messages ih =>
      have first := List.length_pos_iff.mpr (frame_ne_nil message)
      rw [List.flatMap_cons, List.length_append, List.length_cons]
      omega
  calc messages.length ≤ (messages.flatMap DaemonMessage.frame).length := each messages
    _ ≤ _ := by simp

end S3tp.Model.Core
