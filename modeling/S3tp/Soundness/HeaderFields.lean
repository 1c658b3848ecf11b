import S3tp.Machine.LastWrite
import S3tp.Model.Core.Header

/-! # Header fields under any calls

Six fields share three words, and each setter keeps by a mask what is not its own. All of them but one keep the
other field of their word. `setPduLength` keeps bit 14 of its word and clears bit 15, and both belong to the message
type: a type of 2 or 3 does not survive a length that is set after it.
-/

namespace S3tp.Soundness

open Model.Core Machine

/-- A call of one of the setters. -/
inductive HeaderCall where
  | setPort (port : UInt8)
  | setMoreFragments
  | unsetMoreFragments
  | setGlobalSequence (globalSeq : UInt8)
  | setSubSequence (subSeq : UInt8)
  | setPduLength (pduLen : UInt16)
  | setMessageType (type : UInt8)
deriving DecidableEq

namespace HeaderCall

def run (h : S3tpHeader) : HeaderCall → S3tpHeader
  | setPort port => h.setPort port
  | setMoreFragments => h.setMoreFragments
  | unsetMoreFragments => h.unsetMoreFragments
  | setGlobalSequence globalSeq => h.setGlobalSequence globalSeq
  | setSubSequence subSeq => h.setSubSequence subSeq
  | setPduLength pduLen => h.setPduLength pduLen
  | setMessageType type => h.setMessageType type

/-- The argument fits its field. -/
def InRange : HeaderCall → Prop
  | setPort port => port ≤ 127
  | setPduLength pduLen => pduLen ≤ 0x3FFF
  | setMessageType type => type ≤ 3
  | _ => True

/-! ## What a call sets each field to, if anything -/

def port? : HeaderCall → Option UInt8
  | setPort port => some port
  | _ => none

def moreFragments? : HeaderCall → Option UInt8
  | setMoreFragments => some 1
  | unsetMoreFragments => some 0
  | _ => none

def globalSequence? : HeaderCall → Option UInt8
  | setGlobalSequence globalSeq => some globalSeq
  | _ => none

def subSequence? : HeaderCall → Option UInt8
  | setSubSequence subSeq => some subSeq
  | _ => none

def pduLength? : HeaderCall → Option UInt16
  | setPduLength pduLen => some pduLen
  | _ => none

def messageType? : HeaderCall → Option UInt8
  | setMessageType type => some type
  | _ => none

end HeaderCall

open HeaderCall

/-- After the calls each getter returns what its own field was set to last, or what it returned before. -/
structure FieldsHold (h : S3tpHeader) (calls : List HeaderCall) : Prop where
  port : (calls.foldl run h).getPort = lastWritten port? h.getPort calls
  moreFragments : (calls.foldl run h).moreFragments = lastWritten moreFragments? h.moreFragments calls
  globalSequence : (calls.foldl run h).getGlobalSequence = lastWritten globalSequence? h.getGlobalSequence calls
  subSequence : (calls.foldl run h).getSubSequence = lastWritten subSequence? h.getSubSequence calls
  pduLength : (calls.foldl run h).getPduLength = lastWritten pduLength? h.getPduLength calls
  messageType : (calls.foldl run h).getMessageType = lastWritten messageType? h.getMessageType calls

/-- A length is set after which no type is. -/
def SetsLengthLast (calls : List HeaderCall) : Prop :=
  ∃ before pduLen after, calls = before ++ .setPduLength pduLen :: after ∧ ∀ type, .setMessageType type ∉ after

section Calls

variable {calls : List HeaderCall} (h : S3tpHeader)

/-! ## The fields that every setter but their own keeps -/

theorem port_foldl (inRange : ∀ call ∈ calls, call.InRange) :
    (calls.foldl run h).getPort = lastWritten port? h.getPort calls := by
  refine get_foldl (fun call member s => ?_) h
  have bound := inRange call member
  cases call with
  | setPort port => exact (s.getPort_setPort port).trans (and_127_of_le bound)
  | setMoreFragments => exact s.getPort_setMoreFragments
  | unsetMoreFragments => exact s.getPort_unsetMoreFragments
  | _ => rfl

theorem moreFragments_foldl (inRange : ∀ call ∈ calls, call.InRange) :
    (calls.foldl run h).moreFragments = lastWritten moreFragments? h.moreFragments calls := by
  refine get_foldl (fun call member s => ?_) h
  have bound := inRange call member
  cases call with
  | setPort port => exact s.moreFragments_setPort bound
  | setMoreFragments => exact s.moreFragments_setMoreFragments
  | unsetMoreFragments => exact s.moreFragments_unsetMoreFragments
  | _ => rfl

theorem globalSequence_foldl :
    (calls.foldl run h).getGlobalSequence = lastWritten globalSequence? h.getGlobalSequence calls := by
  refine get_foldl (fun call _ s => ?_) h
  cases call with
  | setGlobalSequence globalSeq => exact s.getGlobalSequence_setGlobalSequence globalSeq
  | setSubSequence subSeq => exact s.getGlobalSequence_setSubSequence subSeq
  | _ => rfl

theorem subSequence_foldl :
    (calls.foldl run h).getSubSequence = lastWritten subSequence? h.getSubSequence calls := by
  refine get_foldl (fun call _ s => ?_) h
  cases call with
  | setGlobalSequence globalSeq => exact s.getSubSequence_setGlobalSequence globalSeq
  | setSubSequence subSeq => exact s.getSubSequence_setSubSequence subSeq
  | _ => rfl

theorem pduLength_foldl (inRange : ∀ call ∈ calls, call.InRange) :
    (calls.foldl run h).getPduLength = lastWritten pduLength? h.getPduLength calls := by
  refine get_foldl (fun call member s => ?_) h
  have bound := inRange call member
  cases call with
  | setPduLength pduLen =>
    have small : pduLen.toNat ≤ 0x3FFF := bound
    exact s.getPduLength_setPduLength_of_lt (by omega)
  | setMessageType type => exact s.getPduLength_setMessageType type
  | _ => rfl

/-! ## The message type -/

theorem setsLengthLast_concat (call : HeaderCall) : SetsLengthLast (calls ++ [call]) ↔
    call.pduLength?.isSome = true ∨ (call.messageType? = none ∧ SetsLengthLast calls) := by
  constructor
  · rintro ⟨before, pduLen, after, split, none⟩
    rcases List.eq_nil_or_concat after with rfl | ⟨later, last, rfl⟩
    · obtain ⟨-, same⟩ := List.append_inj' split rfl
      obtain rfl := List.singleton_inj.mp same
      exact .inl rfl
    · rw [List.concat_eq_append, ← List.cons_append, ← List.append_assoc] at split
      obtain ⟨rfl, same⟩ := List.append_inj' split rfl
      obtain rfl := List.singleton_inj.mp same
      refine .inr ⟨?_, before, pduLen, later, rfl, fun type member => none type (by simp [member])⟩
      cases call with
      | setMessageType type => exact absurd (by simp) (none type)
      | _ => rfl
  · rintro (sets | ⟨keeps, before, pduLen, after, rfl, none⟩)
    · cases call with
      | setPduLength pduLen => exact ⟨calls, pduLen, [], rfl, by simp⟩
      | _ => contradiction
    · refine ⟨before, pduLen, after ++ [call], by simp, fun type member => ?_⟩
      rcases List.mem_append.mp member with earlier | last
      · exact none type earlier
      · obtain rfl := List.mem_singleton.mp last
        contradiction

open Classical in
/-- A length that is set last leaves the lower bit of the type. -/
theorem messageType_foldl (inRange : ∀ call ∈ calls, call.InRange) : (calls.foldl run h).getMessageType =
    if SetsLengthLast calls then lastWritten messageType? h.getMessageType calls &&& 1
    else lastWritten messageType? h.getMessageType calls := by
  induction calls using List.reverseRecOn with
  | nil =>
    have never : ¬ SetsLengthLast [] := by
      rintro ⟨before, pduLen, after, split, -⟩
      simp at split
    rw [if_neg never]
    rfl
  | append_singleton calls call ih =>
    have before := ih fun other member => inRange other (by simp [member])
    have bound := inRange call (by simp)
    rw [List.foldl_append, List.foldl_cons, List.foldl_nil, lastWritten_concat]
    generalize calls.foldl run h = s at before ⊢
    cases call with
    | setPduLength pduLen =>
      rw [if_pos ((setsLengthLast_concat _).mpr (.inl rfl))]
      have lost : (s.setPduLength pduLen).getMessageType = s.getMessageType &&& 1 :=
        s.getMessageType_setPduLength bound
      refine lost.trans ?_
      rw [before]
      split
      · rw [UInt8.and_assoc]
        rfl
      · rfl
    | setMessageType type =>
      have visible : ¬ SetsLengthLast (calls ++ [.setMessageType type]) := by
        rw [setsLengthLast_concat]
        simp [pduLength?, messageType?]
      rw [if_neg visible]
      exact s.getMessageType_setMessageType bound
    | _ =>
      simp only [setsLengthLast_concat, pduLength?, messageType?, Option.isSome_none, Bool.false_eq_true, true_and,
        false_or, Option.getD_none]
      exact before

/-- The lower bit is the whole type if there is no upper one. -/
theorem and_one_eq_self_iff {type : UInt8} (bound : type ≤ 3) : type &&& 1 = type ↔ type ≤ 1 := by
  have small : type.toNat ≤ 3 := bound
  rw [← UInt8.toNat_inj, UInt8.toNat_and, UInt8.le_iff_toNat_le]
  generalize type.toNat = n at small
  interval_cases n <;> simp

theorem lastWritten_messageType_le (inRange : ∀ call ∈ calls, call.InRange) :
    lastWritten messageType? h.getMessageType calls ≤ 3 := by
  induction calls using List.reverseRecOn with
  | nil => exact h.getMessageType_le
  | append_singleton calls call ih =>
    have before := ih fun other member => inRange other (by simp [member])
    have bound := inRange call (by simp)
    rw [lastWritten_concat]
    cases call with
    | setMessageType type => exact bound
    | _ => exact before

/-- The fields are independent exactly if the type has no upper bit, or no length is set after it. -/
theorem fieldsHold_iff (inRange : ∀ call ∈ calls, call.InRange) : FieldsHold h calls ↔
    lastWritten messageType? h.getMessageType calls ≤ 1 ∨ ¬ SetsLengthLast calls := by
  have shown := messageType_foldl h inRange
  have bound := lastWritten_messageType_le h inRange
  constructor
  · intro hold
    rw [hold.messageType] at shown
    by_contra fails
    obtain ⟨upper, last⟩ := not_or.mp fails
    rw [if_pos (not_not.mp last)] at shown
    exact upper ((and_one_eq_self_iff bound).mp shown.symm)
  · intro keeps
    refine ⟨port_foldl h inRange, moreFragments_foldl h inRange, globalSequence_foldl h, subSequence_foldl h,
      pduLength_foldl h inRange, shown.trans ?_⟩
    split
    · next last => exact (and_one_eq_self_iff bound).mpr (keeps.resolve_right (not_not.mpr last))
    · rfl

end Calls

/-- The calls of a data packet, in the order the code makes them. -/
theorem fieldsHold_data : FieldsHold default
    [.setPduLength 3, .setPort 5, .setMessageType msgData, .setSubSequence 2, .unsetMoreFragments,
      .setGlobalSequence 9] := by
  refine (fieldsHold_iff default fun call member => ?_).mpr (.inl (by decide))
  simp only [List.mem_cons, List.not_mem_nil, or_false] at member
  rcases member with rfl | rfl | rfl | rfl | rfl | rfl <;> simp [InRange, msgData]

/-- A sync header loses its type to a length that is set after it. -/
theorem not_fieldsHold : ¬ ∀ (h : S3tpHeader) (calls : List HeaderCall), (∀ call ∈ calls, call.InRange) →
    FieldsHold h calls := by
  intro independent
  have inRange : ∀ call ∈ [HeaderCall.setMessageType msgSync, .setPduLength 0], call.InRange := by
    intro call member
    simp only [List.mem_cons, List.not_mem_nil, or_false] at member
    rcases member with rfl | rfl <;> simp [InRange, msgSync]
  have shown := (independent default _ inRange).messageType
  exact absurd shown (by decide)

end S3tp.Soundness
