import S3tp.Model.Core.MessageSampler
import S3tp.Machine.Run

/-! # What the sampler takes from a stream

Between calls the buffer is empty or starts with a position that is accepted as the start of a message, so a search
finds it at once and what is moved is exactly what follows. The bytes that have been copied into the buffer are then
the messages handed out, the bytes dropped between them, and what the buffer still holds, in this order. This
needs the sum of the lengths in `append` not to wrap.
-/

namespace S3tp.Soundness

open Machine Model.Core Model.Core.MessageSampler

/-! ## Streams taken apart -/

/-- A stream as the messages that were taken from it and the bytes still held. What the callbacks saw of the stream
when they decided about a position is what the buffer held from there on. -/
inductive Sampled (callbacks : SamplerCallbacks) : List UInt8 → List (List UInt8) → List UInt8 → Prop
  | held (contents : List UInt8) : Sampled callbacks contents [] contents
  | message {block later contents seen : List UInt8} {messages : List (List UInt8)} :
    seen <+: block ++ later → block <+: seen → block ≠ [] → callbacks.isStartOfMessage seen ≠ 0 →
    (callbacks.getMessageLength seen).toUInt32.toNat = block.length → callbacks.isMessageValid block ≠ 0 →
    Sampled callbacks later messages contents → Sampled callbacks (block ++ later) (block :: messages) contents
  | rejected {byte : UInt8} {later contents seen : List UInt8} {messages : List (List UInt8)} :
    seen <+: byte :: later → seen ≠ [] → callbacks.isStartOfMessage seen = 0 →
    Sampled callbacks later messages contents → Sampled callbacks (byte :: later) messages contents
  | invalid {byte : UInt8} {later contents seen block : List UInt8} {messages : List (List UInt8)} :
    seen <+: byte :: later → block <+: seen → block ≠ [] → callbacks.isStartOfMessage seen ≠ 0 →
    (callbacks.getMessageLength seen).toUInt32.toNat = block.length → callbacks.isMessageValid block = 0 →
    Sampled callbacks later messages contents → Sampled callbacks (byte :: later) messages contents

section Sampled

variable {callbacks : SamplerCallbacks} {stream middle contents : List UInt8} {messages later : List (List UInt8)}

/-- Bytes that arrive are held. -/
theorem Sampled.append (sampled : Sampled callbacks stream messages contents) (more : List UInt8) :
    Sampled callbacks (stream ++ more) messages (contents ++ more) := by
  induction sampled with
  | held contents => exact .held _
  | message seen block nonempty start length valid _ ih =>
    rw [List.append_assoc]
    refine .message ?_ block nonempty start length valid ih
    rw [← List.append_assoc]
    exact seen.trans (List.prefix_append _ _)
  | rejected seen nonempty start _ ih => exact .rejected (seen.trans (List.prefix_append _ _)) nonempty start ih
  | invalid seen block nonempty start length valid _ ih =>
    exact .invalid (seen.trans (List.prefix_append _ _)) block nonempty start length valid ih

/-- What is held is taken apart later. -/
theorem Sampled.trans (sampled : Sampled callbacks stream messages middle)
    (rest : Sampled callbacks middle later contents) : Sampled callbacks stream (messages ++ later) contents := by
  induction sampled with
  | held contents => exact rest
  | message seen block nonempty start length valid _ ih =>
    exact .message seen block nonempty start length valid (ih rest)
  | rejected seen nonempty start _ ih => exact .rejected seen nonempty start (ih rest)
  | invalid seen block nonempty start length valid _ ih =>
    exact .invalid seen block nonempty start length valid (ih rest)

/-- Bytes are dropped while no position is accepted. -/
theorem sampled_drop {k : ℕ} (bound : k ≤ contents.length)
    (rejected : ∀ position < k, callbacks.isStartOfMessage (contents.drop position) = 0) :
    Sampled callbacks contents [] (contents.drop k) := by
  induction contents generalizing k with
  | nil =>
    rw [List.drop_nil]
    exact .held []
  | cons byte contents ih =>
    cases k with
    | zero => exact .held _
    | succ k =>
      have later : ∀ position < k, callbacks.isStartOfMessage (contents.drop position) = 0 :=
        fun position less => rejected (position + 1) (by omega)
      exact .rejected (List.prefix_refl _) (List.cons_ne_nil _ _) (rejected 0 (by omega))
        (ih (by simpa using bound) later)

end Sampled

/-! ## The calls -/

variable {callbacks : SamplerCallbacks} {ms : MessageSampler}

/-- The buffer is empty or starts at a position accepted as the start of a message. -/
def Started (callbacks : SamplerCallbacks) (ms : MessageSampler) : Prop :=
  ms.contents = [] ∨ callbacks.isStartOfMessage ms.contents ≠ 0

theorem contents_eq (ms : MessageSampler) : ms.contents = bytesAt ms.bufStart 0 ms.lenBuf.toNat := rfl

theorem length_contents (ms : MessageSampler) : ms.contents.length = ms.lenBuf.toNat := by
  rw [contents_eq, length_bytesAt]

theorem bytesFrom_eq (ms : MessageSampler) (position : ℕ) : ms.bytesFrom position = ms.contents.drop position := by
  rw [contents_eq, drop_bytesAt, Nat.zero_add]
  rfl

/-- The buffer after its first bytes have been removed. -/
theorem contents_moved (ms : MessageSampler) {k count : ℕ} {lenBuf : UInt32} (size : lenBuf.toNat = count)
    (all : k + count = ms.lenBuf.toNat) :
    (⟨copyTo ms.bufStart 0 (fun i => ms.bufStart (k + i)) count, lenBuf⟩ : MessageSampler).contents =
      ms.contents.drop k := by
  have rest : ms.lenBuf.toNat - k = count := by omega
  rw [contents_eq, contents_eq, size, bytesAt_copyTo, bytesAt_shift, drop_bytesAt, Nat.zero_add, rest]

theorem findStart_eq_some {position : ℕ} (found : findStart callbacks ms = some position) :
    callbacks.isStartOfMessage (ms.contents.drop position) ≠ 0 ∧
      ∀ earlier < position, callbacks.isStartOfMessage (ms.contents.drop earlier) = 0 := by
  simp only [findStart, List.find?_range_eq_some, bytesFrom_eq] at found
  obtain ⟨accepted, -, rejected⟩ := found
  exact ⟨by simpa using accepted, fun earlier less => by simpa using rejected earlier less⟩

theorem findStart_eq_none (none : findStart callbacks ms = none) :
    ∀ position < ms.lenBuf.toNat, callbacks.isStartOfMessage (ms.contents.drop position) = 0 := by
  intro position inside
  have all := List.find?_eq_none.mp none position (List.mem_range.mpr inside)
  rw [← bytesFrom_eq]
  simpa using all

/-- The search finds the start of the buffer. -/
theorem findStart_of_started (started : Started callbacks ms) (nonempty : ms.contents ≠ []) :
    findStart callbacks ms = some 0 := by
  have accepted := started.resolve_left nonempty
  have inside : 0 < ms.lenBuf.toNat := by
    rw [← length_contents]
    exact List.length_pos_of_ne_nil nonempty
  simp only [findStart, List.find?_range_eq_some, bytesFrom_eq, List.drop_zero]
  exact ⟨by simpa using accepted, List.mem_range.mpr inside, fun j less => absurd less (Nat.not_lt_zero j)⟩

/-- The tail is removed up to the next position that is accepted. -/
theorem removeTail_spec (callbacks : SamplerCallbacks) (ms : MessageSampler) :
    Sampled callbacks ms.contents [] (removeTail callbacks ms).contents ∧
      Started callbacks (removeTail callbacks ms) := by
  have size := length_contents ms
  have moved : (removeTail callbacks ms).contents =
      ms.contents.drop ((findStart callbacks ms).getD ms.lenBuf.toNat) := by
    have bound := trashBytes_le callbacks ms
    simp only [removeTail]
    split
    · exact contents_moved ms (toNat_sub_ofNat bound) (by omega)
    · next nothing =>
      have zero : (findStart callbacks ms).getD ms.lenBuf.toNat = 0 := by omega
      rw [zero, List.drop_zero]
  rw [Started, moved]
  cases found : findStart callbacks ms with
  | none =>
    have rejected := findStart_eq_none found
    refine ⟨sampled_drop (by simp [size]) rejected, .inl ?_⟩
    exact List.drop_eq_nil_of_le size.le
  | some position =>
    have inside := findStart_lt callbacks found
    obtain ⟨accepted, rejected⟩ := findStart_eq_some found
    exact ⟨sampled_drop (by rw [size]; exact inside.le) rejected, .inr accepted⟩

/-- The buffer without its first bytes. -/
def without (ms : MessageSampler) (k : UInt32) : MessageSampler :=
  ⟨copyTo ms.bufStart 0 (fun i => ms.bufStart (k.toNat + i)) (ms.lenBuf.toNat - k.toNat), ms.lenBuf - k⟩

theorem lenBuf_without {k : UInt32} (bound : k.toNat ≤ ms.lenBuf.toNat) :
    (without ms k).lenBuf.toNat = ms.lenBuf.toNat - k.toNat := by
  have le : k ≤ ms.lenBuf := UInt32.le_iff_toNat_le.mpr bound
  rw [without, UInt32.toNat_sub_of_le _ _ le]

theorem contents_without {k : UInt32} (bound : k.toNat ≤ ms.lenBuf.toNat) :
    (without ms k).contents = ms.contents.drop k.toNat :=
  contents_moved ms (lenBuf_without bound) (by omega)

/-- A call of `sample` on a buffer that starts with a message, named by its parts. -/
theorem sample_of_start (found : findStart callbacks ms = some 0) (pMessage : Bool) (length : UInt32)
    {msgLen : UInt32} (size : (callbacks.getMessageLength ms.contents).toUInt32 = msgLen) {message : List UInt8}
    (block : bytesAt ms.bufStart 0 msgLen.toNat = message) : sample callbacks ms pMessage length =
      if 0 < msgLen ∧ msgLen.toNat ≤ ms.lenBuf.toNat then
        if callbacks.isMessageValid message ≠ 0 then
          if pMessage ∧ msgLen ≤ length then
            ((msgLen.toNat : ℤ), some message, removeTail callbacks (without ms msgLen))
          else (errInsufficientMemory, none, ms)
        else sample callbacks (removeTail callbacks (without ms 1)) pMessage length
      else (0, none, ms) := by
  subst size block
  conv_lhs => rw [sample]
  split
  · next none => simp [none] at found
  · next position here =>
    obtain rfl : position = 0 := Option.some.inj (here.symm.trans found)
    have first : ms.bytesFrom 0 = ms.contents := rfl
    simp only [Nat.sub_zero, Nat.zero_add, first]
    have one : (1 : UInt32).toNat = 1 := rfl
    split
    · next complete =>
      have le := UInt32.le_iff_toNat_le.mpr complete.2
      split
      · split
        · rw [without, UInt32.toNat_sub_of_le _ _ le]
        · rfl
      · rfl
    · rfl

section Block

variable {msgLen : UInt32} {message : List UInt8} (complete : 0 < msgLen ∧ msgLen.toNat ≤ ms.lenBuf.toNat)
  (block : bytesAt ms.bufStart 0 msgLen.toNat = message)
include complete block

/-- The block is what the buffer starts with. -/
theorem contents_eq_block_append : ms.contents = message ++ ms.contents.drop msgLen.toNat := by
  rw [← block, ← take_bytesAt ms.bufStart 0 complete.2, ← contents_eq, List.take_append_drop]

theorem block_isPrefix_contents : message <+: ms.contents := by
  rw [contents_eq_block_append complete block]
  exact List.prefix_append _ _

omit complete in
theorem length_block : message.length = msgLen.toNat := by rw [← block, length_bytesAt]

theorem block_ne_nil : message ≠ [] := by
  apply List.ne_nil_of_length_pos
  rw [length_block block]
  exact UInt32.lt_iff_toNat_lt.mp complete.1

variable (accepted : callbacks.isStartOfMessage ms.contents ≠ 0)
  (size : (callbacks.getMessageLength ms.contents).toUInt32 = msgLen)
include accepted size

/-- A valid block is handed out, and the tail behind it removed. -/
theorem sampled_of_valid (valid : callbacks.isMessageValid message ≠ 0) :
    Sampled callbacks ms.contents [message] (removeTail callbacks (without ms msgLen)).contents := by
  have removed := (removeTail_spec callbacks (without ms msgLen)).1
  rw [contents_without complete.2] at removed
  have shape := contents_eq_block_append complete block
  have seen : ms.contents <+: message ++ ms.contents.drop msgLen.toNat := by rw [← shape]
  have taken := Sampled.message seen (block_isPrefix_contents complete block) (block_ne_nil complete block) accepted
    (by rw [size, length_block block]) valid removed
  rw [← shape] at taken
  exact taken

/-- At an invalid block the first byte goes, and the tail behind it. -/
theorem sampled_of_invalid (invalid : callbacks.isMessageValid message = 0) :
    Sampled callbacks ms.contents [] (removeTail callbacks (without ms 1)).contents := by
  have one : (1 : UInt32).toNat = 1 := rfl
  have nonempty : ms.contents ≠ [] :=
    fun empty => block_ne_nil complete block (List.prefix_nil.mp (empty ▸ block_isPrefix_contents complete block))
  have inside : (1 : UInt32).toNat ≤ ms.lenBuf.toNat := by
    rw [one, ← length_contents]
    exact List.length_pos_of_ne_nil nonempty
  have dropped := (removeTail_spec callbacks (without ms 1)).1
  rw [contents_without inside, one] at dropped
  obtain ⟨byte, rest, first⟩ := List.exists_cons_of_ne_nil nonempty
  have seen : ms.contents <+: byte :: rest := by rw [first]
  rw [first, List.drop_one, List.tail_cons] at dropped
  have taken := Sampled.invalid seen (block_isPrefix_contents complete block) (block_ne_nil complete block) accepted
    (by rw [size, length_block block]) invalid dropped
  rw [← first] at taken
  exact taken

end Block

/-- Removing bytes and the tail behind them makes the buffer shorter by as many at least. -/
theorem lenBuf_removeTail_without_le {k : UInt32} (bound : k.toNat ≤ ms.lenBuf.toNat) :
    (removeTail callbacks (without ms k)).lenBuf.toNat ≤ ms.lenBuf.toNat - k.toNat := by
  rw [← lenBuf_without bound]
  exact lenBuf_removeTail_le callbacks _

/-- What `sample` does to a buffer that starts where a message may start. -/
theorem sample_spec (started : Started callbacks ms) (pMessage : Bool) (length : UInt32) :
    Sampled callbacks ms.contents (sample callbacks ms pMessage length).2.1.toList
      (sample callbacks ms pMessage length).2.2.contents ∧
    Started callbacks (sample callbacks ms pMessage length).2.2 ∧
    (sample callbacks ms pMessage length).2.2.lenBuf.toNat ≤ ms.lenBuf.toNat := by
  induction size : ms.lenBuf.toNat using Nat.strongRecOn generalizing ms with
  | ind n ih =>
    subst size
    rcases Classical.em (ms.contents = []) with empty | nonempty
    · have none : findStart callbacks ms = none := by
        have zero : ms.lenBuf.toNat = 0 := by rw [← length_contents, empty, List.length_nil]
        rw [findStart, zero]
        rfl
      rw [sample]
      split
      · exact ⟨.held _, started, le_refl _⟩
      · next position here => simp [none] at here
    · have found := findStart_of_started started nonempty
      have accepted := started.resolve_left nonempty
      generalize size : (callbacks.getMessageLength ms.contents).toUInt32 = msgLen
      generalize block : bytesAt ms.bufStart 0 msgLen.toNat = message
      rw [sample_of_start found pMessage length size block]
      split
      · next complete =>
        split
        · next valid =>
          split
          · exact ⟨sampled_of_valid complete block accepted size valid, (removeTail_spec callbacks _).2,
              (lenBuf_removeTail_without_le complete.2).trans (Nat.sub_le _ _)⟩
          · exact ⟨.held _, started, le_refl _⟩
        · next invalid =>
          have dropped := sampled_of_invalid complete block accepted size (by simpa using invalid)
          have starts := (removeTail_spec callbacks (without ms 1)).2
          have one : (1 : UInt32).toNat = 1 := rfl
          have positive := UInt32.lt_iff_toNat_lt.mp complete.1
          rw [UInt32.toNat_zero] at positive
          have shorter : (removeTail callbacks (without ms 1)).lenBuf.toNat < ms.lenBuf.toNat := by
            have fewer : (removeTail callbacks (without ms 1)).lenBuf.toNat ≤ ms.lenBuf.toNat - (1 : UInt32).toNat :=
              lenBuf_removeTail_without_le (by omega)
            omega
          obtain ⟨sampled, ends, bound⟩ := ih _ shorter starts rfl
          exact ⟨dropped.trans sampled, ends, bound.trans shorter.le⟩
      · exact ⟨.held _, started, le_refl _⟩

/-- What `append` does, as long as the sum of the lengths does not wrap. -/
theorem append_spec (started : Started callbacks ms) (bound : ms.lenBuf ≤ msgSamplerBufferSize)
    (data : ℕ → UInt8) {length : UInt32} (sum : ms.lenBuf.toNat + length.toNat < 2 ^ 32) :
    Sampled callbacks (ms.contents ++ bytesAt data 0 (append callbacks ms (some data) length).1.toNat) []
      (append callbacks ms (some data) length).2.contents ∧
    Started callbacks (append callbacks ms (some data) length).2 ∧
    (append callbacks ms (some data) length).2.lenBuf ≤ msgSamplerBufferSize := by
  have limit : msgSamplerBufferSize.toNat = 1024 := rfl
  have small : ms.lenBuf.toNat ≤ 1024 := UInt32.le_iff_toNat_le.mp bound
  simp only [append]
  split
  · generalize copies : (if ms.lenBuf + length < msgSamplerBufferSize then length
      else msgSamplerBufferSize - ms.lenBuf) = bytesToCopy
    have room : ms.lenBuf.toNat + bytesToCopy.toNat ≤ 1024 := by
      rw [← copies]
      split
      · next short =>
        have value := UInt32.lt_iff_toNat_lt.mp short
        rw [UInt32.toNat_add, Nat.mod_eq_of_lt sum, limit] at value
        exact value.le
      · rw [UInt32.toNat_sub_of_le _ _ bound, limit]
        omega
    have size : (ms.lenBuf + bytesToCopy).toNat = ms.lenBuf.toNat + bytesToCopy.toNat := by
      rw [UInt32.toNat_add]
      omega
    have contents : (⟨copyTo ms.bufStart ms.lenBuf.toNat data bytesToCopy.toNat, ms.lenBuf + bytesToCopy⟩ :
        MessageSampler).contents = ms.contents ++ bytesAt data 0 bytesToCopy.toNat := by
      rw [contents_eq, size, bytesAt_append, Nat.zero_add, bytesAt_copyTo,
        bytesAt_copyTo_of_le _ _ _ (Nat.zero_add _).le, contents_eq]
    obtain ⟨dropped, starts⟩ := removeTail_spec callbacks
      ⟨copyTo ms.bufStart ms.lenBuf.toNat data bytesToCopy.toNat, ms.lenBuf + bytesToCopy⟩
    rw [contents] at dropped
    refine ⟨dropped, starts, ?_⟩
    apply UInt32.le_iff_toNat_le.mpr
    apply (lenBuf_removeTail_le callbacks _).trans
    rw [size, limit]
    exact room
  · refine ⟨?_, started, bound⟩
    have none : bytesAt data 0 (0 : UInt32).toNat = [] := rfl
    rw [none, List.append_nil]
    exact .held _

/-! ## Whole streams -/

inductive SamplerCall where
  | append (data : Option (ℕ → UInt8)) (length : UInt32)
  | sample (pMessage : Bool) (length : UInt32)

/-- A sampler with the bytes `append` has reported as copied and the messages `sample` has copied out. -/
structure Sampling where
  ms : MessageSampler
  stream : List UInt8 := []
  messages : List (List UInt8) := []

namespace Sampling

/-- The bytes that are copied from behind a pointer. -/
def copied (data : Option (ℕ → UInt8)) (count : ℕ) : List UInt8 := (data.map (bytesAt · 0 count)).getD []

def step (callbacks : SamplerCallbacks) (s : Sampling) : SamplerCall → Option Sampling
  | .append data length =>
    let (bytesToCopy, ms) := s.ms.append callbacks data length
    some { s with ms, stream := s.stream ++ copied data bytesToCopy.toNat }
  | .sample pMessage length =>
    let (_, message, ms) := s.ms.sample callbacks pMessage length
    some { s with ms, messages := s.messages ++ message.toList }

/-- `init_msg_sampler`, on a buffer that holds anything. -/
def start (memory : ℕ → UInt8) : Sampling := { ms := ⟨memory, 0⟩ }

/-- The sum that `append` computes does not wrap. -/
def SumFits (s : Sampling) : SamplerCall → Prop
  | .append data length => data = none ∨ s.ms.lenBuf.toNat + length.toNat < 2 ^ 32
  | .sample .. => True

/-- The buffer is not overrun, it is empty or starts where a message may start, and the stream is accounted for. -/
structure Sound (callbacks : SamplerCallbacks) (s : Sampling) : Prop where
  bound : s.ms.lenBuf ≤ msgSamplerBufferSize
  started : Started callbacks s.ms
  sampled : Sampled callbacks s.stream s.messages s.ms.contents

theorem sound_start (memory : ℕ → UInt8) : (start memory).Sound callbacks where
  bound := UInt32.le_iff_toNat_le.mpr (Nat.zero_le _)
  started := .inl rfl
  sampled := .held []

theorem Sound.step {s t : Sampling} (sound : s.Sound callbacks) {call : SamplerCall} (fits : s.SumFits call)
    (stepped : s.step callbacks call = some t) : t.Sound callbacks := by
  cases call with
  | append data length =>
    obtain rfl := Option.some.inj stepped
    cases data with
    | none => exact ⟨sound.bound, sound.started, by simpa [copied, MessageSampler.append] using sound.sampled⟩
    | some data =>
      obtain ⟨dropped, starts, bound⟩ :=
        append_spec sound.started sound.bound data (fits.resolve_left (Option.some_ne_none data))
      have taken := (sound.sampled.append _).trans dropped
      rw [List.append_nil] at taken
      exact ⟨bound, starts, taken⟩
  | sample pMessage length =>
    obtain rfl := Option.some.inj stepped
    obtain ⟨taken, starts, shorter⟩ := sample_spec sound.started pMessage length
    refine ⟨?_, starts, sound.sampled.trans taken⟩
    exact UInt32.le_iff_toNat_le.mpr (shorter.trans (UInt32.le_iff_toNat_le.mp sound.bound))

/-- Every byte is a message. -/
def single : SamplerCallbacks := ⟨fun _ => 1, fun _ => 1, fun _ => 1⟩

theorem step_append {callbacks : SamplerCallbacks} {s : Sampling} {data : ℕ → UInt8} {length count : UInt32}
    {ms : MessageSampler} (appended : append callbacks s.ms (some data) length = (count, ms)) :
    s.step callbacks (.append (some data) length) =
      some { s with ms, stream := s.stream ++ bytesAt data 0 count.toNat } := by
  rw [step, appended]
  rfl

theorem step_sample {callbacks : SamplerCallbacks} {s : Sampling} {pMessage : Bool} {length : UInt32} {result : ℤ}
    {message : Option (List UInt8)} {ms : MessageSampler}
    (sampled : sample callbacks s.ms pMessage length = (result, message, ms)) :
    s.step callbacks (.sample pMessage length) = some { s with ms, messages := s.messages ++ message.toList } := by
  rw [step, sampled]

/-- A byte in the buffer. -/
def oneByteHeld : MessageSampler := ⟨copyTo (fun _ => 0) 0 (fun _ => 7) 1, 1⟩

/-- Every position may start a message, but no message is ever complete. -/
def waiting : SamplerCallbacks := ⟨fun _ => 1, fun _ => 0, fun _ => 0⟩

/-- Nothing may leave the buffer. -/
theorem sampled_waiting {stream contents : List UInt8} {messages : List (List UInt8)}
    (sampled : Sampled waiting stream messages contents) : stream = contents := by
  have starts (seen : List UInt8) : waiting.isStartOfMessage seen ≠ 0 := (by decide : (1 : Int32) ≠ 0)
  cases sampled with
  | held => rfl
  | message seen block nonempty start length =>
    exact absurd (List.length_eq_zero_iff.mp length.symm) nonempty
  | rejected seen nonempty start => exact absurd start (starts _)
  | invalid seen block nonempty start length =>
    exact absurd (List.length_eq_zero_iff.mp length.symm) nonempty

/-- The sum of the lengths is zero, so everything is copied, and the buffer is taken for empty. -/
theorem append_wraps (data : ℕ → UInt8) : append waiting oneByteHeld (some data) 0xFFFFFFFF =
    (0xFFFFFFFF, ⟨copyTo oneByteHeld.bufStart 1 data 0xFFFFFFFF, 0⟩) := by
  have sum : oneByteHeld.lenBuf + 0xFFFFFFFF = 0 := by decide
  have few : (0 : UInt32) < msgSamplerBufferSize := by decide
  have some : (0 : UInt32) < 0xFFFFFFFF := by decide
  have nothing (memory : ℕ → UInt8) : removeTail waiting ⟨memory, 0⟩ = ⟨memory, 0⟩ := rfl
  simp only [append, sum, if_pos few, if_pos some, nothing]
  rfl

end Sampling

end S3tp.Soundness
