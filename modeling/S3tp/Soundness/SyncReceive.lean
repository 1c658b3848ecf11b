import S3tp.Model.Core.Listener

/-! # Receiving synchronously

The daemon starts every frame with a type byte. The listener reads it, `recv` and `recvRaw` do not: they take it for
the first byte of the length block. The lengths they read are those of the block shifted by one byte, 256 times the
length. And both read as many bytes as the caller's length says. A frame is never decoded: a call that leaves the
stream behind the frame has read one byte more than the payload has.
-/

namespace S3tp.Soundness

open Model.Core

/-! ## The shifted length block -/

/-- Without its type byte a frame starts with the length block of another length. -/
theorem frame_eq_shifted (message : AppMessage) (small : message.data.length < 2 ^ 56) :
    message.frame = writeLengthSafe (256 * message.data.length) ++ 0 :: message.data := by
  have top : UInt8.ofNat (message.data.length / 256 ^ 7) = 0 := by
    rw [Nat.div_eq_of_lt (by omega)]
    rfl
  have word : littleEndian 8 message.data.length = littleEndian 7 message.data.length ++ [0] := by
    rw [littleEndian_succ, top]
  have copies (n : ℕ) : writeLengthSafe n = littleEndian 8 n ++ (littleEndian 8 n ++ littleEndian 8 n) := by
    simp [writeLengthSafe, redundantLength, S3tpIntroRedundant.toBytes, safeTransmissionCount, sizeofSizeT,
      List.range_succ]
  have type : appDataMessage = 0 := rfl
  rw [AppMessage.frame, copies, copies, littleEndian_mul, word, type]
  simp only [List.append_assoc, List.cons_append, List.nil_append]

variable (c : S3tpConnector) (message : AppMessage) (later : List UInt8)

/-- The length that is read from a frame. -/
theorem readLength_frame (small : message.data.length < 2 ^ 56) :
    S3tpConnector.readLength (message.frame ++ later) = (codeSuccess, some (256 * message.data.length)) := by
  have fits : 256 * message.data.length < 2 ^ 64 := by omega
  rw [S3tpConnector.readLength, frame_eq_shifted message small, List.append_assoc,
    List.take_left' (length_writeLengthSafe _), ← List.append_nil (writeLengthSafe _)]
  exact readLengthSafe_writeLengthSafe fits []

/-- A buffer of less than 256 times the payload is taken for too small, and the connection is closed. -/
theorem recv_frame_refused (connected : c.connected = true) (small : message.data.length < 2 ^ 56) {len : ℕ}
    (short : len < 256 * message.data.length) : c.recv (message.frame ++ later) len =
      .returns (codeErrorInvalidLength, []) c.closeConnection
        ((message.frame ++ later).drop S3tpIntroRedundant.size) := by
  have long : ¬ (message.frame ++ later).length < S3tpIntroRedundant.size := by
    rw [List.length_append, message.length_frame]
    omega
  have refused : (some (256 * message.data.length)).getD 0 > len := short
  have codes : codeSuccess ≠ codeErrorSocketNoConn ∧ ¬ codeSuccess < 0 := by decide
  have going : ¬ (!c.connected) = true := by simp [connected]
  rw [S3tpConnector.recv, if_neg going, if_neg long, readLength_frame message later small]
  simp only [if_neg codes.1, if_neg codes.2, if_pos refused]

/-! ## What a call would have to do -/

/-- `recv` returns the length of the payload, stores the payload, and leaves what follows the frame. -/
def RecvDecodes (len : ℕ) : Prop :=
  c.recv (message.frame ++ later) len = .returns (message.data.length, message.data) c later

/-- `recvRaw`, called with this value in `*len`, returns the payload and its length, and leaves what follows the
frame. -/
def RecvRawDecodes (len : ℕ) : Prop :=
  c.recvRaw (message.frame ++ later) len = .returns (some message.data, message.data.length, codeSuccess) c later

variable {c message later}

/-- A call that leaves what follows the frame has taken one byte more than the payload has. -/
theorem length_of_rest {len : ℕ} (there : ¬ ((message.frame ++ later).drop S3tpIntroRedundant.size).length < len)
    (rest : ((message.frame ++ later).drop S3tpIntroRedundant.size).drop len = later) :
    len = message.data.length + 1 := by
  have size := congrArg List.length rest
  rw [List.length_drop, List.length_drop, List.length_append, message.length_frame] at size
  rw [List.length_drop, List.length_append, message.length_frame] at there
  omega

/-- A call of `recv` that returns a length has read as many bytes as it says, modulo the size of an `int`. -/
theorem recv_eq_returns {stream buffer rest : List UInt8} {len : ℕ} {result : ℤ} {next : S3tpConnector}
    (ran : c.recv stream len = .returns (result, buffer) next rest) (counts : 0 ≤ result) :
    ∃ count : ℕ, ¬ (stream.drop S3tpIntroRedundant.size).length < count ∧ result = (count : ℤ).bmod (2 ^ 32) ∧
      rest = (stream.drop S3tpIntroRedundant.size).drop count := by
  have codes : codeErrorSocketNoConn < 0 ∧ codeErrorInvalidLength < 0 := by decide
  simp only [S3tpConnector.recv] at ran
  split at ran
  · simp only [Received.returns.injEq, Prod.mk.injEq] at ran
    omega
  split at ran
  · contradiction
  split at ran
  · simp only [Received.returns.injEq, Prod.mk.injEq] at ran
    omega
  split at ran
  · simp only [Received.returns.injEq, Prod.mk.injEq] at ran
    omega
  split at ran
  · simp only [Received.returns.injEq, Prod.mk.injEq] at ran
    omega
  split at ran
  · simp only [Received.returns.injEq, Prod.mk.injEq] at ran
    omega
  split at ran
  · contradiction
  · next there =>
    simp only [Received.returns.injEq, Prod.mk.injEq] at ran
    exact ⟨_, there, ran.1.1.symm, ran.2.2.symm⟩

theorem not_recvDecodes (len : ℕ) : ¬ RecvDecodes c message later len := by
  intro decodes
  obtain ⟨count, there, result, rest⟩ := recv_eq_returns decodes (Int.natCast_nonneg _)
  obtain rfl := length_of_rest there rest.symm
  -- One byte more is another value, also of an `int`.
  have residue : (message.data.length : ℤ) % 2 ^ 32 = _ := congrArg (· % (2 ^ 32 : ℤ)) result
  have wrapped : ((message.data.length + 1 : ℕ) : ℤ).bmod (2 ^ 32) % (2 ^ 32 : ℤ) =
      ((message.data.length + 1 : ℕ) : ℤ) % (2 ^ 32 : ℤ) := Int.bmod_emod
  rw [wrapped] at residue
  omega

/-- A call of `recvRaw` that returns a buffer has read as many bytes as `*len` said. -/
theorem recvRaw_eq_returns {stream buffer rest : List UInt8} {len count : ℕ} {error : ℤ} {next : S3tpConnector}
    (ran : c.recvRaw stream len = .returns (some buffer, count, error) next rest) :
    ¬ (stream.drop S3tpIntroRedundant.size).length < len ∧ count = len ∧
      rest = (stream.drop S3tpIntroRedundant.size).drop len := by
  simp only [S3tpConnector.recvRaw] at ran
  split at ran
  · simp at ran
  split at ran
  · contradiction
  split at ran
  · simp at ran
  split at ran
  · simp at ran
  split at ran
  · simp at ran
  split at ran
  · contradiction
  · next there =>
    simp only [Received.returns.injEq, Prod.mk.injEq] at ran
    exact ⟨there, ran.1.2.1.symm, ran.2.2.symm⟩

theorem not_recvRawDecodes (len : ℕ) : ¬ RecvRawDecodes c message later len := by
  intro decodes
  obtain ⟨there, count, rest⟩ := recvRaw_eq_returns decodes
  have more := length_of_rest there rest.symm
  omega

/-- Whatever is sent and however large the buffer is, neither call decodes the frame that the listener decodes. -/
theorem receive_never_decodes (c : S3tpConnector) (message : AppMessage) (nonempty : message.data ≠ [])
    (later : List UInt8) (len : ℕ) :
    ¬ RecvDecodes c message later len ∧ ¬ RecvRawDecodes c message later len ∧
      listenerPass (message.frame ++ later) = .goesOn (some (.data message.data)) later := by
  refine ⟨not_recvDecodes len, not_recvRawDecodes len, ?_⟩
  have heard := listenerPass_frame (show (DaemonMessage.data message).Nonempty from nonempty) later
  rw [DaemonMessage.frame, DaemonMessage.writes, message.flatten_writes] at heard
  exact heard

/-- A message of one byte. -/
def oneByteSent : AppMessage := ⟨[7], by decide⟩

theorem receive_never_decodes_oneByte : ¬ RecvDecodes .init oneByteSent [] 1 ∧ ¬ RecvRawDecodes .init oneByteSent [] 1 ∧
    listenerPass (oneByteSent.frame ++ []) = .goesOn (some (.data [7])) [] :=
  receive_never_decodes .init oneByteSent (by decide) [] 1

/-- Its buffer is refused. -/
theorem not_receive_decodes : ¬ ∀ (message : AppMessage), message.data ≠ [] → ∀ (later : List UInt8) (len : ℕ),
    message.data.length ≤ len → RecvDecodes .init message later len := by
  intro decodes
  have decoded := decodes oneByteSent (by decide) [] 1 (by decide)
  rw [RecvDecodes, recv_frame_refused .init oneByteSent [] rfl (by decide) (by decide)] at decoded
  simp [codeErrorInvalidLength, oneByteSent] at decoded

end S3tp.Soundness
