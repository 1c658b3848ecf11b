import S3tp.Model.Core.RxModule
import Mathlib.Data.UInt

/-! # Messages in a queue

A message is a row of packets that carry consecutive port sequence numbers and their own index as
sub-sequence number, with the more-fragments flag on all but the last. A queue begins with at most
one message at a given number, and consuming it takes exactly its packets. The scan for a complete
message finds it unless its numbers cross from 255 to 0, and it finds nothing else unless it has
stepped over a last fragment that carries another index than its own.
-/

namespace S3tp.Model.Core

/-- Fragments `i`, `i + 1`, ... of a message starting at number `c`, down to its last. -/
inductive Fragments (c : UInt8) : ℕ → List S3tpPacket → Prop
  | last {i : ℕ} {packet : S3tpPacket} : packet.header.seqPort = c + UInt8.ofNat i →
      packet.header.getSubSequence = UInt8.ofNat i → packet.header.moreFragments = 0 →
      Fragments c i [packet]
  | more {i : ℕ} {packet : S3tpPacket} {rest : List S3tpPacket} :
      packet.header.seqPort = c + UInt8.ofNat i → packet.header.getSubSequence = UInt8.ofNat i →
      packet.header.moreFragments ≠ 0 → Fragments c (i + 1) rest → Fragments c i (packet :: rest)

/-- The packets are a complete message whose first number is `c`. -/
abbrev IsMessage (c : UInt8) (packets : List S3tpPacket) : Prop := Fragments c 0 packets

/-- The queue begins with a complete message at number `c`. -/
def BeginsComplete (c : UInt8) (queue : List S3tpPacket) : Prop :=
  ∃ message rest, queue = message ++ rest ∧ IsMessage c message

namespace Fragments

variable {c : UInt8} {i : ℕ} {packets more : List S3tpPacket}

theorem ne_nil (fragments : Fragments c i packets) : packets ≠ [] := by
  cases fragments <;> exact List.cons_ne_nil _ _

theorem length_pos (fragments : Fragments c i packets) : 0 < packets.length :=
  List.length_pos_iff.mpr fragments.ne_nil

/-- Only the last one is without the flag. -/
theorem split (fragments : Fragments c i packets) : ∃ front last, packets = front ++ [last] ∧
    (∀ packet ∈ front, packet.header.moreFragments ≠ 0) ∧ last.header.moreFragments = 0 := by
  induction fragments with
  | @last i packet _ _ final => exact ⟨[], packet, rfl, by simp, final⟩
  | @more i packet rest _ _ flagged _ ih =>
    obtain ⟨front, last, rfl, earlier, final⟩ := ih
    exact ⟨packet :: front, last, rfl, List.forall_mem_cons.mpr ⟨flagged, earlier⟩, final⟩

/-- Each fragment carries its own number. -/
theorem seqPort (fragments : Fragments c i packets) {k : ℕ} (bound : k < packets.length) :
    packets[k].header.seqPort = c + UInt8.ofNat (i + k) := by
  induction fragments generalizing k with
  | last number =>
    obtain rfl : k = 0 := by simpa using bound
    exact number
  | @more i packet rest number _ _ _ ih =>
    cases k with
    | zero => exact number
    | succ k =>
      have later := ih (k := k) (by simpa using bound)
      rw [List.getElem_cons_succ, later]
      congr 2
      omega

/-- Two messages at one number that begin the same queue are the same. -/
theorem append_inj (first : Fragments c i packets) : ∀ {other rest rest' : List S3tpPacket},
    Fragments c i other → packets ++ rest = other ++ rest' → packets = other ∧ rest = rest' := by
  induction first with
  | last _ _ final =>
    intro other rest rest' second same
    cases second with
    | last => simpa using same
    | more _ _ flagged _ =>
      obtain ⟨rfl, -⟩ := List.cons.inj same
      exact absurd final flagged
  | more _ _ flagged _ ih =>
    intro other rest rest' second same
    cases second with
    | last _ _ final =>
      obtain ⟨rfl, -⟩ := List.cons.inj same
      exact absurd final flagged
    | more _ _ _ tail =>
      obtain ⟨rfl, behind⟩ := List.cons.inj same
      obtain ⟨rfl, rfl⟩ := ih tail behind
      exact ⟨rfl, rfl⟩

end Fragments

namespace BeginsComplete

variable {c : UInt8} {queue : List S3tpPacket}

theorem not_nil : ¬ BeginsComplete c [] := by
  rintro ⟨message, rest, split, fragments⟩
  exact fragments.ne_nil (List.append_eq_nil_iff.mp split.symm).1

theorem head (complete : BeginsComplete c queue) : ∃ head ∈ queue.head?, head.header.seqPort = c := by
  obtain ⟨message, rest, rfl, fragments⟩ := complete
  cases fragments with
  | last number _ _ => exact ⟨_, rfl, by simpa using number⟩
  | more number _ _ _ => exact ⟨_, rfl, by simpa using number⟩

theorem append (complete : BeginsComplete c queue) (more : List S3tpPacket) :
    BeginsComplete c (queue ++ more) := by
  obtain ⟨message, rest, rfl, fragments⟩ := complete
  exact ⟨message, rest ++ more, List.append_assoc .., fragments⟩

/-- A packet linked into a queue that begins with a complete message leaves one at its beginning
only if the packets up to and including the new one begin with it. -/
theorem insert_iff {front back : List S3tpPacket} (complete : BeginsComplete c (front ++ back))
    (packet : S3tpPacket) : BeginsComplete c (front ++ packet :: back) ↔ BeginsComplete c (front ++ [packet]) := by
  have joined : front ++ packet :: back = (front ++ [packet]) ++ back := by simp
  constructor
  · rintro ⟨message, rest, split, fragments⟩
    rcases Nat.lt_or_ge (front.length + 1) message.length with long | short
    · -- The fragment behind the new one would be the same as before, with another number.
      exfalso
      obtain ⟨before, rest', split', fragments'⟩ := complete
      rcases Nat.lt_or_ge front.length before.length with reaches | within
      · obtain ⟨next, later, rfl⟩ : ∃ next later, back = next :: later := by
          cases back with
          | nil =>
            have count := congrArg List.length split'
            simp only [List.append_nil, List.length_append] at count
            omega
          | cons next later => exact ⟨next, later, rfl⟩
        have moved : message[front.length + 1] = next := by
          have same := congrArg (·[front.length + 1]?) split
          simpa [List.getElem?_append_left long, List.getElem?_eq_getElem long, eq_comm] using same
        have unmoved : before[front.length] = next := by
          have same := congrArg (·[front.length]?) split'
          simpa [List.getElem?_append_left reaches, List.getElem?_eq_getElem reaches, eq_comm] using same
        have numbers := (fragments.seqPort long).symm.trans
          ((congrArg (·.header.seqPort) (moved.trans unmoved.symm)).trans (fragments'.seqPort reaches))
        have bytes := congrArg UInt8.toNat numbers
        simp only [UInt8.toNat_add, UInt8.toNat_ofNat'] at bytes
        omega
      · obtain ⟨behind, rfl⟩ := List.prefix_of_prefix_length_le ⟨rest', split'.symm⟩
          (List.prefix_append front back) within
        have regrouped : before ++ (behind ++ packet :: back) = message ++ rest := by
          rw [← List.append_assoc, split]
        have same := (fragments'.append_inj fragments regrouped).1
        rw [same] at long
        simp only [List.length_append] at long
        omega
    · obtain ⟨behind, same⟩ := List.prefix_of_prefix_length_le ⟨rest, split.symm⟩
        ⟨back, joined.symm⟩ (by simpa using short)
      exact ⟨message, behind, same.symm, fragments⟩
  · intro whole
    rw [joined]
    exact whole.append back

end BeginsComplete

/-! ## Rows of messages -/

/-- Every message of a row has the property at its first number, counted on from `n`. -/
def Along (holds : ℕ → List S3tpPacket → Prop) : ℕ → List (List S3tpPacket) → Prop
  | _, [] => True
  | n, message :: later => holds n message ∧ Along holds (n + message.length) later

theorem Along.append_iff {holds : ℕ → List S3tpPacket → Prop} {n : ℕ} {messages more : List (List S3tpPacket)} :
    Along holds n (messages ++ more) ↔
      Along holds n messages ∧ Along holds (n + messages.flatten.length) more := by
  induction messages generalizing n with
  | nil => simp [Along]
  | cons message later ih =>
    simp only [List.cons_append, Along, ih, List.flatten_cons, List.length_append, and_assoc, Nat.add_assoc]

/-- The messages follow each other from number `n` on. -/
abbrev MessageStream : ℕ → List (List S3tpPacket) → Prop := Along fun n message => IsMessage (UInt8.ofNat n) message

theorem Fragments.consecutive {n i : ℕ} {packets : List S3tpPacket}
    (fragments : Fragments (UInt8.ofNat n) i packets) : Consecutive (n + i) packets := by
  generalize start : UInt8.ofNat n = c at fragments
  induction fragments with
  | last number _ _ =>
    rw [Consecutive.singleton_iff, number, ← start, UInt8.ofNat_add]
  | more number _ _ _ ih =>
    rw [Consecutive.cons_iff, number, ← start, UInt8.ofNat_add]
    exact ⟨rfl, ih⟩

namespace MessageStream

variable {n : ℕ} {messages : List (List S3tpPacket)}

theorem consecutive (stream : MessageStream n messages) : Consecutive n messages.flatten := by
  induction messages generalizing n with
  | nil => exact Consecutive.nil
  | cons message later ih =>
    rw [List.flatten_cons, Consecutive.append_iff]
    exact ⟨stream.1.consecutive, ih stream.2⟩

theorem length_le (stream : MessageStream n messages) : messages.length ≤ messages.flatten.length := by
  induction messages generalizing n with
  | nil => rfl
  | cons message later ih =>
    have bound := ih stream.2
    have positive := stream.1.length_pos
    simp only [List.length_cons, List.flatten_cons, List.length_append]
    omega

end MessageStream

/-! ## The scan -/

/-- The numbers of `count` fragments from `i` on do not cross from 255 to 0 behind the message's
first. For a message that starts at 0 that is always so. -/
def Inside (c : UInt8) (i count : ℕ) : Prop := c = 0 ∨ c.toNat + i + count ≤ 256

/-- No message of the row crosses from 255 to 0. -/
abbrev Straight : ℕ → List (List S3tpPacket) → Prop :=
  Along fun n message => Inside (UInt8.ofNat n) 0 message.length

/-- The queue begins with a complete message whose numbers cross from 255 to 0. -/
def Crosses (c : UInt8) (queue : List S3tpPacket) : Prop :=
  ∃ message rest, queue = message ++ rest ∧ IsMessage c message ∧ ¬ Inside c 0 message.length

/-- The scan steps over a last fragment whose sub-sequence number is not its index. -/
def scanSkips (current : UInt8) : UInt8 → List S3tpPacket → Bool
  | _, [] => false
  | fragment, pkt :: next =>
    let hdr := pkt.header
    if hdr.seqPort.toNat ≠ current.toNat + fragment.toNat then false
    else if hdr.moreFragments ≠ 0 ∧ hdr.getSubSequence ≠ fragment then false
    else if hdr.moreFragments = 0 then hdr.getSubSequence ≠ fragment
    else scanSkips current (fragment + 1) next

theorem Inside.mono {c : UInt8} {i count fewer : ℕ} (inside : Inside c i count) (le : fewer ≤ count) :
    Inside c i fewer := inside.imp_right fun bound => by omega

theorem inside_succ_iff {c : UInt8} {i count : ℕ} : Inside c (i + 1) count ↔ Inside c i (count + 1) := by
  have sum : c.toNat + (i + 1) + count = c.toNat + i + (count + 1) := by omega
  rw [Inside, Inside, sum]

/-- Within one turn the expected number is the byte sum. -/
theorem toNat_add_ofNat_of_inside {c : UInt8} {i count : ℕ} (inside : Inside c i count) (positive : 0 < count) :
    (c + UInt8.ofNat i).toNat = c.toNat + (UInt8.ofNat i).toNat := by
  rcases inside with rfl | inside
  · simp
  · rw [UInt8.toNat_add, UInt8.toNat_ofNat_of_lt_256 (by omega)]
    omega

/-- The scan tells whether the queue begins with a complete message: no message at its beginning
crosses, and the scan does not find one behind a fragment it has stepped over. -/
def ScanExact (c : UInt8) (queue : List S3tpPacket) : Prop :=
  ¬ Crosses c queue ∧ (scanSkips c 0 queue = true → RxModule.scanComplete c 0 queue = false)

namespace RxModule

/-- The scan finds a message whose numbers do not cross. -/
theorem scanComplete_of_fragments {c : UInt8} {i : ℕ} {packets : List S3tpPacket}
    (fragments : Fragments c i packets) (rest : List S3tpPacket) (inside : Inside c i packets.length) :
    scanComplete c (UInt8.ofNat i) (packets ++ rest) = true := by
  induction fragments with
  | last number index final =>
    simp [scanComplete, number, index, final, toNat_add_ofNat_of_inside inside (by simp)]
  | @more i packet later number index flagged _ ih =>
    have found := ih (inside_succ_iff.mpr inside)
    rw [UInt8.ofNat_succ] at found
    simp [scanComplete, number, index, flagged, toNat_add_ofNat_of_inside inside (by simp), found]

/-- What the scan finds is a message whose numbers do not cross, unless it has skipped. -/
theorem fragments_of_scanComplete {c : UInt8} {queue : List S3tpPacket} : ∀ {i : ℕ}, Inside c i 0 →
    scanComplete c (UInt8.ofNat i) queue = true → scanSkips c (UInt8.ofNat i) queue = false →
    ∃ message rest, queue = message ++ rest ∧ Fragments c i message ∧ Inside c i message.length := by
  induction queue with
  | nil =>
    intro i _ found _
    simp [scanComplete] at found
  | cons packet later ih =>
    intro i inside found clean
    simp only [scanComplete, scanSkips] at found clean
    have bound := packet.header.seqPort.toNat_lt
    split at found
    · contradiction
    next same =>
    rw [not_not] at same
    have number : packet.header.seqPort = c + UInt8.ofNat i := by
      apply UInt8.toNat_inj.mp
      rw [UInt8.toNat_add]
      omega
    have further : Inside c i 1 := by
      rcases inside with zero | inside
      · exact .inl zero
      · rcases Nat.lt_or_ge i 256 with small | large
        · rw [UInt8.toNat_ofNat_of_lt_256 small] at same
          exact .inr (by omega)
        · exact .inl (UInt8.toNat_inj.mp (by simp; omega))
    rw [if_neg (not_not.mpr same)] at clean
    split at found
    · contradiction
    next indexed =>
    rw [if_neg indexed] at clean
    rcases Classical.em (packet.header.moreFragments = 0) with final | flagged
    · rw [if_pos final, decide_eq_false_iff_not, not_not] at clean
      exact ⟨[packet], later, rfl, .last number clean final, further⟩
    · rw [if_neg flagged] at clean
      rw [if_neg (fun both => flagged both.1), ← UInt8.ofNat_succ] at found
      rw [← UInt8.ofNat_succ] at clean
      have index : packet.header.getSubSequence = UInt8.ofNat i := by
        by_contra other
        exact indexed ⟨flagged, other⟩
      obtain ⟨message, rest, rfl, fragments, within⟩ := ih further found clean
      exact ⟨packet :: message, rest, rfl, .more number index flagged fragments, inside_succ_iff.mp within⟩

/-- Part of a message that lacks its last packet does not scan as complete. -/
theorem scanComplete_of_part {c : UInt8} {i : ℕ} {message : List S3tpPacket}
    (fragments : Fragments c i message) {queue : List S3tpPacket} (part : queue <+: message)
    (short : queue.length < message.length) : scanComplete c (UInt8.ofNat i) queue = false := by
  induction fragments generalizing queue with
  | last =>
    obtain rfl := List.eq_nil_of_length_eq_zero (l := queue) (by simpa using short)
    rfl
  | @more i packet rest number index flagged _ ih =>
    rcases List.prefix_cons_iff.mp part with rfl | ⟨queue', rfl, part'⟩
    · rfl
    · have later := ih part' (by simpa using short)
      rw [UInt8.ofNat_succ] at later
      rw [scanComplete]
      split
      · rfl
      · simp [flagged, index, later]

/-- The first packets of a message and what follows scan as complete when they contain the message. -/
theorem scanComplete_iff_whole {c : UInt8} {message later queue : List S3tpPacket}
    (fragments : IsMessage c message) (inside : Inside c 0 message.length) (part : queue <+: message ++ later) :
    scanComplete c 0 queue = true ↔ message <+: queue := by
  rcases Nat.lt_or_ge queue.length message.length with short | long
  · have inMessage := List.prefix_of_prefix_length_le part (List.prefix_append message later) short.le
    have scan := scanComplete_of_part fragments inMessage short
    rw [show (0 : UInt8) = UInt8.ofNat 0 from rfl, scan]
    constructor
    · exact fun contra => absurd contra Bool.false_ne_true
    · exact fun whole => absurd whole.length_le (Nat.not_le.mpr short)
  · have whole := List.prefix_of_prefix_length_le (List.prefix_append message later) part long
    obtain ⟨rest, rfl⟩ := whole
    have scan := scanComplete_of_fragments fragments rest inside
    exact ⟨fun _ => List.prefix_append _ _, fun _ => scan⟩

/-- In a queue that begins with a complete message the scan does not skip. -/
theorem scanSkips_of_fragments {c : UInt8} {i : ℕ} {message : List S3tpPacket}
    (fragments : Fragments c i message) (rest : List S3tpPacket) :
    scanSkips c (UInt8.ofNat i) (message ++ rest) = false := by
  induction fragments with
  | last number index final => simp [scanSkips, index, final]
  | more number index flagged _ ih =>
    rw [UInt8.ofNat_succ] at ih
    simp [scanSkips, index, flagged, ih]

/-- The scan finds no message that crosses. -/
theorem inside_of_scanComplete {c : UInt8} {queue message rest : List S3tpPacket}
    (found : scanComplete c 0 queue = true) (split : queue = message ++ rest) (fragments : IsMessage c message) :
    Inside c 0 message.length := by
  have start : Inside c 0 0 := .inr (by have := c.toNat_lt; omega)
  obtain ⟨message', rest', split', fragments', inside⟩ := fragments_of_scanComplete start found
    (split ▸ scanSkips_of_fragments fragments rest)
  rw [(fragments.append_inj fragments' (split.symm.trans split')).1]
  exact inside

/-- These are the only two ways in which the scan goes wrong. -/
theorem scanExact_iff {c : UInt8} {queue : List S3tpPacket} :
    ScanExact c queue ↔ (scanComplete c 0 queue = true ↔ BeginsComplete c queue) := by
  have start : Inside c 0 0 := .inr (by have := c.toNat_lt; omega)
  constructor
  · rintro ⟨straight, clean⟩
    constructor
    · intro found
      have unskipped : scanSkips c 0 queue = false := by
        rw [← Bool.not_eq_true]
        exact fun skips => by simp [clean skips] at found
      obtain ⟨message, rest, split, fragments, -⟩ := fragments_of_scanComplete start found unskipped
      exact ⟨message, rest, split, fragments⟩
    · rintro ⟨message, rest, split, fragments⟩
      rw [split]
      refine scanComplete_of_fragments fragments rest ?_
      by_contra outside
      exact straight ⟨message, rest, split, fragments, outside⟩
  · intro exactly
    constructor
    · rintro ⟨message, rest, split, fragments, outside⟩
      exact outside (inside_of_scanComplete (exactly.mpr ⟨message, rest, split, fragments⟩) split fragments)
    · intro skips
      rw [← Bool.not_eq_true]
      intro found
      obtain ⟨message, rest, rfl, fragments⟩ := exactly.mp found
      have unskipped : scanSkips c 0 (message ++ rest) = false := scanSkips_of_fragments fragments rest
      simp [unskipped] at skips

/-! ## Consuming -/

/-- The 16-bit sum of the packets' lengths. -/
def lengthSum (packets : List S3tpPacket) : UInt16 := (packets.map (·.header.getPduLength)).sum

/-- The bytes of the packets, joined. -/
def assembled (packets : List S3tpPacket) : List UInt8 := packets.flatMap S3tpPacket.pdu

/-- The 16-bit sum shows the number of bytes joined, modulo its range. -/
theorem toNat_lengthSum {packets : List S3tpPacket}
    (whole : ∀ packet ∈ packets, packet.header.getPduLength.toNat ≤ packet.payload.length) :
    (lengthSum packets).toNat = (assembled packets).length % 2 ^ 16 := by
  induction packets with
  | nil => rfl
  | cons packet rest ih =>
    obtain ⟨first, later⟩ := List.forall_mem_cons.mp whole
    have size : packet.pdu.length = packet.header.getPduLength.toNat := by
      rw [S3tpPacket.pdu, List.length_take, min_eq_left first]
    have tail := ih later
    rw [lengthSum] at tail ⊢
    have joined : (assembled (packet :: rest)).length = packet.pdu.length + (assembled rest).length := by
      rw [assembled, List.flatMap_cons, List.length_append, assembled]
    rw [List.map_cons, List.sum_cons, UInt16.toNat_add, tail, joined, size]
    omega

/-- The first `count` packets of the port's queue have been consumed, and nothing else happened. -/
structure Consumed (rx rx' : RxModule) (port : UInt8) (count : ℕ) : Prop where
  frame : rx' = { rx with inBuffer := rx'.inBuffer, currentPortSequence := rx'.currentPortSequence }
  current : rx'.currentPortSequence =
    Function.update rx.currentPortSequence port (rx.currentPortSequence port + UInt8.ofNat count)
  held : rx'.inBuffer.held port = (rx.inBuffer.held port).drop count
  others : ∀ other, other ≠ port → rx'.inBuffer.queues other = rx.inBuffer.queues other
  counted : (rx'.inBuffer.queues port).Counted
  consistent : rx.inBuffer.Consistent → rx'.inBuffer.Consistent

/-- Taking the head of a queue. -/
theorem consumed_one {rx : RxModule} {port : UInt8} {packet : S3tpPacket} {rest : List S3tpPacket}
    (counted : (rx.inBuffer.queues port).Counted) (held : rx.inBuffer.held port = packet :: rest) :
    ∃ inBuffer, rx.inBuffer.getNextPacket rx.policy port = some (packet, inBuffer) ∧
      Consumed rx (rx.afterTaking port inBuffer) port 1 := by
  have valid : rx.policy.isElementValid packet = true := rfl
  obtain ⟨inBuffer, popped, left, stillCounted⟩ := Buffer.popPacketInternal_isSome counted held valid
  refine ⟨inBuffer, popped, rfl, rfl, ?_, ?_, stillCounted, ?_⟩
  · rw [held, List.drop_one, List.tail_cons]
    exact left
  · exact (Buffer.held_of_popPacketInternal popped).2
  · exact fun consistent => (consistent.popPacketInternal popped).2.2.2

theorem Consumed.trans {rx mid rx' : RxModule} {port : UInt8} {first second : ℕ}
    (left : Consumed rx mid port first) (right : Consumed mid rx' port second) :
    Consumed rx rx' port (first + second) where
  frame := by rw [right.frame, left.frame]
  current := by
    rw [right.current, left.current, Function.update_idem, Function.update_self, UInt8.ofNat_add, UInt8.add_assoc]
  held := by rw [right.held, left.held, List.drop_drop]
  others other ne := (right.others other ne).trans (left.others other ne)
  counted := right.counted
  consistent start := right.consistent (left.consistent start)

/-- The loop takes packets with the expected numbers up to and including the first last fragment. -/
theorem assemble_of_row {front : List S3tpPacket} {last : S3tpPacket} {n : ℕ}
    (flagged : ∀ packet ∈ front, packet.header.moreFragments ≠ 0) (final : last.header.moreFragments = 0)
    (numbered : Consecutive n (front ++ [last])) : ∀ {rx : RxModule} {port : UInt8} {rest : List S3tpPacket},
    (rx.inBuffer.queues port).Counted → rx.inBuffer.held port = front ++ last :: rest →
    rx.currentPortSequence port = UInt8.ofNat n → ∀ (data : List UInt8) (len : UInt16),
    ∃ rx', rx.assemble port data len = some (⟨some (data ++ assembled (front ++ [last])),
        len + lengthSum (front ++ [last]), codeSuccess, port⟩, rx') ∧
      Consumed rx rx' port (front.length + 1) := by
  induction front generalizing n with
  | nil =>
    intro rx port rest counted held current data len
    obtain ⟨inBuffer, popped, taken⟩ := consumed_one counted held
    have number := Consecutive.singleton_iff.mp numbered
    refine ⟨_, ?_, taken⟩
    simp [assemble_of_pop popped, number, current, final, assembled, lengthSum]
  | cons packet front ih =>
    intro rx port rest counted held current data len
    obtain ⟨inBuffer, popped, taken⟩ := consumed_one counted held
    obtain ⟨number, numbered'⟩ := Consecutive.cons_iff.mp numbered
    obtain ⟨goesOn, flagged'⟩ := List.forall_mem_cons.mp flagged
    have left : (rx.afterTaking port inBuffer).inBuffer.held port = front ++ last :: rest := by
      rw [taken.held, held]; rfl
    obtain ⟨rx', assembles, consumed⟩ := ih flagged' numbered' taken.counted left
      (by rw [taken.current, Function.update_self, current, UInt8.ofNat_add])
      (data ++ packet.pdu) (len + packet.header.getPduLength)
    refine ⟨rx', ?_, by rw [List.length_cons, Nat.add_comm]; exact taken.trans consumed⟩
    rw [assemble_of_pop popped, if_neg (by simp [number, current]), if_neg goesOn, assembles]
    simp [assembled, lengthSum, UInt16.add_assoc]

/-- The loop takes the fragments of a message that heads the queue, and stops behind its last. -/
theorem assemble_of_fragments {c : UInt8} {packets : List S3tpPacket}
    (fragments : IsMessage c packets) {rx : RxModule} {port : UInt8} {rest : List S3tpPacket}
    (counted : (rx.inBuffer.queues port).Counted) (held : rx.inBuffer.held port = packets ++ rest)
    (current : rx.currentPortSequence port = c) (data : List UInt8) (len : UInt16) :
    ∃ rx', rx.assemble port data len =
        some (⟨some (data ++ assembled packets), len + lengthSum packets, codeSuccess, port⟩, rx') ∧
      Consumed rx rx' port packets.length := by
  have start : c = UInt8.ofNat c.toNat := UInt8.ofNat_toNat.symm
  have numbered : Consecutive c.toNat packets := Fragments.consecutive (i := 0) (start ▸ fragments)
  obtain ⟨front, last, rfl, flagged, final⟩ := fragments.split
  have found := assemble_of_row flagged final numbered counted (by rw [held, List.append_assoc]; rfl)
    (current.trans start) data len
  rwa [List.length_append, List.length_singleton]

/-- Consuming from a flagged port whose queue begins with a complete message returns that message. -/
theorem getNextCompleteMessage_of_message {rx : RxModule} {port : UInt8} {message rest : List S3tpPacket}
    (active : rx.active = true) (flagged : rx.availableMessages.begin? = some port)
    (counted : (rx.inBuffer.queues port).Counted) (held : rx.inBuffer.held port = message ++ rest)
    (complete : IsMessage (rx.currentPortSequence port) message) : ∃ rx',
    rx.getNextCompleteMessage = some (⟨some (assembled message), lengthSum message, codeSuccess, port⟩,
      rx'.refreshAvailability port) ∧ Consumed rx rx' port message.length := by
  obtain ⟨rx', assembles, consumed⟩ := assemble_of_fragments complete counted held (by simp) [] 0
  exact ⟨rx', by simp [getNextCompleteMessage, active, flagged, assembles], consumed⟩

end RxModule

end S3tp.Model.Core
