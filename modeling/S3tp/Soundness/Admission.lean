import S3tp.Soundness.FragmentSplit

/-! # The count of packets that the admission test asks room for

The test is given the low 16 bits of the length, the loop of `fragmentPayload` all of them. The two counts
agree on lengths that lose no bit, and on no others: a 17th bit stands for 66 or 67 packets.
-/

namespace S3tp.Soundness

open Model.Core

/-- Calls that all come back with success have handed over one packet each. -/
theorem length_enqueueAll (others : ℕ → TxModule → TxModule) {calls : List EnqueueCall} :
    ∀ (tx : TxModule) (pass : ℕ), (tx.enqueueAll others pass calls).1 = codeSuccess →
      (tx.enqueueAll others pass calls).2.1.length = calls.length := by
  induction calls with
  | nil => exact fun _ _ _ => rfl
  | cons call rest ih =>
    intro tx pass accepted
    cases stamp : (others pass tx).stampPacket call.packet call.fragNo call.moreFragments with
    | none =>
      simp only [TxModule.enqueueAll, stamp] at accepted
      exact absurd accepted (by decide)
    | some stamped =>
      simp only [TxModule.enqueueAll, stamp] at accepted ⊢
      rw [List.length_cons, List.length_cons, ih _ _ accepted]

/-- A payload with at least one byte is handed over in as many calls as it needs packets. -/
theorem length_calls (m : Submission) (fresh : ℕ → S3tpHeader) (positive : 1 ≤ m.len) :
    (m.calls fresh).length = fragmentCount m.len := by
  have size : lenS3tpPdu = 992 := rfl
  rw [Submission.calls]
  split
  · rw [fragmentCalls_eq, List.length_map, List.length_range]
  · simp only [fragmentCount, size] at *
    rw [List.length_singleton]
    omega

/-- The test counts the packets that the low 16 bits of the length need. -/
theorem toNat_noPackets (msgLen : UInt16) : (TxModule.noPackets msgLen).toNat = fragmentCount msgLen.toNat := by
  have size : lenS3tpPdu = 992 := rfl
  have one : (1 : UInt8).toNat = 1 := rfl
  have bound := msgLen.toNat_lt
  simp only [TxModule.noPackets, fragmentCount, size]
  split
  · rw [UInt8.toNat_add, UInt8.toNat_ofNat', one]
    omega
  · rw [UInt8.toNat_ofNat']
    omega

/-- The lengths that `sendToLinkLayer` takes. -/
theorem le_of_admission {tx : TxModule} {m : Submission} (admitted : tx.admission m = codeSuccess) :
    m.len ≤ maxPduLength := by
  by_contra long
  simp only [TxModule.admission] at admitted
  split at admitted
  · next refused => exact refused admitted
  · rw [if_pos (Nat.lt_of_not_le long)] at admitted
    exact absurd admitted (by decide)

/-- An accepted payload was enqueued in one packet for each call. -/
theorem length_sendToLinkLayer {others : ℕ → TxModule → TxModule} {fresh : ℕ → S3tpHeader} {tx : TxModule}
    {m : Submission} (accepted : (tx.sendToLinkLayer true others fresh m).1 = codeSuccess) :
    tx.admission m = codeSuccess ∧ (tx.sendToLinkLayer true others fresh m).2.1.length = (m.calls fresh).length := by
  rw [TxModule.sendToLinkLayer_eq] at accepted ⊢
  split at accepted
  · next admitted => exact ⟨admitted, by rw [if_pos admitted]; exact length_enqueueAll others tx 0 accepted⟩
  · next refused => exact absurd accepted refused

/-- The test asks room for as many packets as `sendToLinkLayer` enqueues if and only if the length fits into
16 bits. -/
theorem admissionCount_iff (m : Submission) (fresh : ℕ → S3tpHeader) (others : ℕ → TxModule → TxModule) (tx : TxModule)
    (positive : 1 ≤ m.len) (accepted : (tx.sendToLinkLayer true others fresh m).1 = codeSuccess) :
    (TxModule.noPackets (UInt16.ofNat m.len)).toNat = (tx.sendToLinkLayer true others fresh m).2.1.length ↔
      m.len < 2 ^ 16 := by
  have size : lenS3tpPdu = 992 := rfl
  obtain ⟨admitted, length⟩ := length_sendToLinkLayer accepted
  have short : m.len ≤ 126976 := le_of_admission admitted
  rw [length, length_calls m fresh positive, toNat_noPackets, UInt16.toNat_ofNat']
  simp only [fragmentCount, size]
  omega

/-- A module that stays active takes every call. -/
theorem enqueueAll_success {others : ℕ → TxModule → TxModule}
    (steady : ∀ pass tx, (others pass tx).active = tx.active) {calls : List EnqueueCall} :
    ∀ (tx : TxModule) (pass : ℕ), tx.active = true → (tx.enqueueAll others pass calls).1 = codeSuccess := by
  induction calls with
  | nil => exact fun _ _ _ => rfl
  | cons call rest ih =>
    intro tx pass active
    have running : (others pass tx).active = true := (steady pass tx).trans active
    have stamps := TxModule.stampPacket_eq_some_iff.mpr
      ⟨running, (rfl : (others pass tx).stamped call.packet call.fragNo call.moreFragments = _), rfl⟩
    simp only [TxModule.enqueueAll, stamps]
    exact ih _ _ running

theorem idleModule_success (len : ℕ) (short : len ≤ maxPduLength) :
    (idleModule.sendToLinkLayer true (fun _ tx => tx) (fun _ => default) (counting len)).1 = codeSuccess := by
  have available : idleModule.checkTransmissionAvailability (counting len).port (counting len).channel
      (UInt16.ofNat (counting len).len) = codeSuccess :=
    TxModule.checkTransmissionAvailability_eq_success (by decide) rfl _ _
  have admitted : idleModule.admission (counting len) = codeSuccess := by
    rw [TxModule.admission, available]
    exact if_neg (Nat.not_lt_of_le short)
  rw [TxModule.sendToLinkLayer_eq, if_pos admitted]
  exact enqueueAll_success (fun _ _ => rfl) idleModule 0 rfl

/-- Room is asked for the two packets of 993 bytes. -/
theorem admissionCount_993 :
    (TxModule.noPackets (UInt16.ofNat (counting 993).len)).toNat =
      (idleModule.sendToLinkLayer true (fun _ tx => tx) (fun _ => default) (counting 993)).2.1.length :=
  (admissionCount_iff (counting 993) (fun _ => default) (fun _ tx => tx) idleModule (by decide)
    (idleModule_success 993 (by decide))).mpr (by decide)

/-- No room is asked for 65536 bytes, which go out in 67 packets. -/
theorem admissionCount_65536 :
    (TxModule.noPackets (UInt16.ofNat (counting 65536).len)).toNat = 0 ∧
      (idleModule.sendToLinkLayer true (fun _ tx => tx) (fun _ => default) (counting 65536)).2.1.length = 67 := by
  have accepted := idleModule_success 65536 (by decide)
  obtain ⟨-, length⟩ := length_sendToLinkLayer accepted
  rw [length, length_calls _ _ (by decide)]
  exact ⟨by decide, by decide⟩

end S3tp.Soundness
