import TrueFamily.Transaction.Refinement.Storing

/-!
# Acquisition methods refine their steps

For each method on acquisitions two theorems, on a journal that represents a history. `_sound`: if
the method returns, the history has a step for the call with the same result, and the journal then
represents the history after the step. `_complete`: if the history has such a step, the method
returns its result.
-/

namespace TrueFamily.Transaction

open Checked Sorting InMemoryBridgeOperationJournal BridgeOperationAttempt

variable [DigestJson]

namespace Represents

variable {journal next : Journal} {history history' : History} {result : JournalResult}
  {record : FenceAcquisitionRecord}

/-- A known operation ID of an acquisition is answered by the record with this intent. -/
theorem existingAcquisition_eq_ok (h : Represents journal history)
    {intent : FenceAcquisitionIntent} :
    journal.existingAcquisition .acquisition intent = .ok record ↔
      record.intent = intent ∧ ∃ attempt index,
        history.AcquisitionAt intent.operationId attempt index record := by
  simp only [existingAcquisition, bind_eq_ok, exists_unit, check_eq_ok, pure_eq_ok,
    h.getAcquisition_eq_ok]
  constructor
  · rintro ⟨found, hat, heq, rfl⟩
    exact ⟨heq, hat⟩
  · rintro ⟨heq, hat⟩
    exact ⟨record, hat, heq, rfl⟩

theorem newAcquisition_eq_ok (h : Represents journal history) {intent : FenceAcquisitionIntent}
    {updated : BridgeOperationAttempt} :
    journal.newAcquisition intent = .ok (record, updated) ↔ ∃ attempt,
      history.Holds attempt ∧ attempt.slot = (intent.planId, intent.attempt)
        ∧ assertMayAcquire attempt intent.provider = .ok () ∧ history.NewEpoch intent
        ∧ (attempt.addAcquisition intent).WellFormed
        ∧ record = LifecycleRecord.recorded intent ∧ updated = attempt.addAcquisition intent := by
  simp only [newAcquisition, bind_eq_ok, exists_unit, pure_eq_ok, h.getAttempt_eq_ok,
    h.assertNewEpoch_eq_ok, LifecycleRecord.postInit_eq_ok,
    BridgeOperationAttempt.postInit_eq_ok, Prod.mk.injEq]
  constructor
  · rintro ⟨attempt, ⟨hheld, hslot⟩, hmay, hepoch, _, hwf, rfl, rfl⟩
    exact ⟨attempt, hheld, hslot, hmay, hepoch, hwf, rfl, rfl⟩
  · rintro ⟨attempt, hheld, hslot, hmay, hepoch, hwf, rfl, rfl⟩
    refine ⟨attempt, ⟨hheld, hslot⟩, hmay, hepoch, ?_, hwf, rfl, rfl⟩
    exact hwf.acquisitions.record_wf _ (mem_sortedBy.2 (List.mem_append_right _ (by simp)))

theorem recordAcquisitionIntent_sound (h : Represents journal history)
    {intent : FenceAcquisitionIntent}
    (hrun : (recordAcquisitionIntent intent).run journal = (.ok record, next)) :
    ∃ history', HistoryStep history (.recordAcquisitionIntent intent) (.acquisition record)
      history' ∧ Represents next history' := by
  simp only [recordAcquisitionIntent, Method.run_lift_bind_ok, Method.run_get_bind] at hrun
  obtain ⟨_, hpost, hrun⟩ := hrun
  have hwf := FenceAcquisitionIntent.postInit_eq_ok.1 hpost
  cases hkind : journal.identityIndex.get? (.acquire intent.operationId) with
  | some kind =>
    rw [hkind] at hrun
    obtain ⟨hexisting, rfl⟩ := Method.run_lift_ok.1 hrun
    obtain ⟨rfl, _⟩ := h.identityIndex_eq_some_iff.1 hkind
    obtain ⟨heq, attempt, index, hat⟩ := h.existingAcquisition_eq_ok.1 hexisting
    exact ⟨history, .recordAcquisitionIntent_again hwf hat heq, h⟩
  | none =>
    have hfresh := h.identityIndex_eq_none_iff.1 hkind
    rw [hkind] at hrun
    simp only [Method.run_lift_bind_ok, Method.run_bind_ok_iff
      (fun _ _ => run_storeAttempt)] at hrun
    obtain ⟨⟨found, updated⟩, hnew, _, hrun⟩ := hrun
    obtain ⟨attempt, hheld, hslot, hmay, hepoch, hupdated, rfl, rfl⟩ :=
      h.newAcquisition_eq_ok.1 hnew
    rw [Method.run_bind_of_ok (h.run_claim_new _ (.acquire intent.operationId)
      (show IdentityKind.acquisition = _ from rfl)), Method.run_modify_bind] at hrun
    obtain ⟨rfl, rfl⟩ := Method.run_pure_ok.1 hrun
    exact ⟨_, .recordAcquisitionIntent hwf ⟨hfresh, hheld, hslot, hmay, hepoch⟩ hupdated,
      h.addAcquisition hheld hfresh hupdated _ rfl⟩

theorem recordAcquisitionIntent_complete (h : Represents journal history)
    {intent : FenceAcquisitionIntent}
    (hstep : HistoryStep history (.recordAcquisitionIntent intent) result history') :
    ∃ record next, result = .acquisition record
      ∧ (recordAcquisitionIntent intent).run journal = (.ok record, next)
      ∧ Represents next history' := by
  simp only [recordAcquisitionIntent, Method.run_lift_bind_ok, Method.run_get_bind]
  cases hstep with
  | @recordAcquisitionIntent_again _ attempt index record hwf hat heq =>
    refine ⟨record, journal, rfl, ⟨(), FenceAcquisitionIntent.postInit_eq_ok.2 hwf, ?_⟩, h⟩
    rw [h.identityIndex_eq_some_iff.2 ⟨rfl, attempt, hat.holds, acquire_mem_operationIds.2
      (hat.id_eq ▸ List.mem_map_of_mem (List.mem_of_getElem? hat.get))⟩]
    exact Method.run_lift_ok.2 ⟨h.existingAcquisition_eq_ok.2 ⟨heq, attempt, index, hat⟩, rfl⟩
  | @recordAcquisitionIntent _ attempt hwf hadmits hupdated =>
    refine ⟨_, _, rfl, ⟨(), FenceAcquisitionIntent.postInit_eq_ok.2 hwf, ?_⟩,
      h.addAcquisition hadmits.holds hadmits.unclaimed hupdated (LifecycleRecord.recorded intent,
        (attempt.addAcquisition intent).acquisitions.idxOf (LifecycleRecord.recorded intent)) rfl⟩
    rw [h.identityIndex_eq_none_iff.2 hadmits.unclaimed]
    simp only [Method.run_lift_bind_ok, Method.run_bind_ok_iff (fun _ _ => run_storeAttempt)]
    refine ⟨_, h.newAcquisition_eq_ok.2 ⟨attempt, hadmits.holds, hadmits.slot_eq,
      hadmits.mayAcquire, hadmits.newEpoch, hupdated, rfl, rfl⟩, hupdated, ?_⟩
    rw [Method.run_bind_of_ok (h.run_claim_new _ (.acquire intent.operationId)
      (show IdentityKind.acquisition = _ from rfl)), Method.run_modify_bind]
    exact Method.run_pure_ok.2 ⟨rfl, rfl⟩

theorem armAcquisition_sound (h : Represents journal history)
    {operationId : AcquireOperationId}
    (hrun : (armAcquisition operationId).run journal = (.ok record, next)) :
    ∃ history', HistoryStep history (.armAcquisition operationId) (.acquisition record) history'
      ∧ Represents next history' := by
  simp only [armAcquisition, Method.run_get_bind, Method.run_lift_bind_ok,
    h.getAcquisition_eq_ok] at hrun
  obtain ⟨found, ⟨attempt, index, hat⟩, hrun⟩ := hrun
  split at hrun
  · rename_i hstate
    obtain ⟨rfl, rfl⟩ := Method.run_pure_ok.1 hrun
    exact ⟨history, .armAcquisition_again hat hstate, h⟩
  · obtain ⟨updated, harm, hrun⟩ := Method.run_lift_bind_ok.1 hrun
    obtain ⟨_, _, rfl⟩ := LifecycleRecord.arm_eq_ok.1 harm
    have hid := hat.id_eq
    rw [Method.run_bind_ok_iff (h.run_replaceAcquisition (hid.symm ▸ hat))] at hrun
    obtain ⟨hwf, hrun⟩ := hrun
    obtain ⟨rfl, rfl⟩ := Method.run_pure_ok.1 hrun
    refine ⟨_, .armAcquisition hat harm hwf, ?_⟩
    exact h.storeAcquisition hat rfl rfl hwf

theorem armAcquisition_complete (h : Represents journal history)
    {operationId : AcquireOperationId}
    (hstep : HistoryStep history (.armAcquisition operationId) result history') :
    ∃ record next, result = .acquisition record
      ∧ (armAcquisition operationId).run journal = (.ok record, next)
      ∧ Represents next history' := by
  simp only [armAcquisition, Method.run_get_bind, Method.run_lift_bind_ok,
    h.getAcquisition_eq_ok]
  cases hstep with
  | @armAcquisition_again _ attempt index record hat hstate =>
    refine ⟨record, journal, rfl, ⟨record, ⟨attempt, index, hat⟩, ?_⟩, h⟩
    rw [if_pos hstate]
    exact Method.run_pure_ok.2 ⟨rfl, rfl⟩
  | @armAcquisition _ attempt index record updated hat harm hwf =>
    obtain ⟨hstate, _, hupdated⟩ := LifecycleRecord.arm_eq_ok.1 harm
    have hintent : updated.intent = record.intent := by rw [hupdated]
    refine ⟨updated, _, rfl, ⟨record, ⟨attempt, index, hat⟩, ?_⟩,
      h.storeAcquisition hat hintent (by rw [hupdated]) hwf⟩
    rw [if_neg (by rw [hstate]; decide), Method.run_lift_bind_ok]
    refine ⟨updated, harm, ?_⟩
    have hid : updated.intent.operationId = operationId := by rw [hintent, hat.id_eq]
    rw [Method.run_bind_ok_iff (h.run_replaceAcquisition (hid.symm ▸ hat))]
    exact ⟨hwf, Method.run_pure_ok.2 ⟨rfl, rfl⟩⟩

/-- No receipt is held under an acquisition whose record has none. -/
theorem not_owns_acquisition (h : Represents journal history)
    {operationId : AcquireOperationId} {attempt : BridgeOperationAttempt} {index : ℕ}
    (hat : history.AcquisitionAt operationId attempt index record) (hnone : record.receipt = none)
    (receiptId : ReceiptId) : ¬ history.Owns receiptId (.acquire operationId) := by
  rintro ⟨found, hheld, hown⟩
  have hmem : .acquire operationId ∈ attempt.operationIds := acquire_mem_operationIds.2
    (hat.id_eq ▸ List.mem_map_of_mem (List.mem_of_getElem? hat.get))
  rw [h.eq_of_claims hheld hat.holds hown.mem_operationIds hmem] at hown
  obtain ⟨other, hother, hid, hreceipt⟩ := owns_acquire_iff.1 hown
  have heq : other = record := eq_of_acquisitionId (h.wellFormed _ hat.holds) hother
    (List.mem_of_getElem? hat.get) (hid.trans hat.id_eq.symm)
  rw [heq, AcquisitionRecord.receiptId?, hnone] at hreceipt
  cases hreceipt

theorem acknowledgedAcquisition_eq_ok (h : Represents journal history)
    {receipt : AcquisitionLifecycleReceipt} {attempt : BridgeOperationAttempt} {index : ℕ}
    {updated : FenceAcquisitionRecord}
    (hat : history.AcquisitionAt receipt.operationId attempt index record)
    (hnone : record.receipt = none) :
    journal.acknowledgedAcquisition record receipt = .ok updated ↔
      ¬ history.Received receipt.receiptId ∧ receipt.validateFor record.intent = .ok ()
        ∧ record.acknowledge receipt = .ok updated := by
  simp only [acknowledgedAcquisition, bind_eq_ok, exists_unit, rewrap_eq_ok,
    h.not_received_iff (h.not_owns_acquisition hat hnone _)]

/-- Storing an acquisition record that got its receipt, and claiming the receipt. -/
theorem storeAcquisitionReceipt (h : Represents journal history)
    {receipt : AcquisitionLifecycleReceipt} {attempt : BridgeOperationAttempt} {index : ℕ}
    {updated : FenceAcquisitionRecord}
    (hat : history.AcquisitionAt receipt.operationId attempt index record)
    (hnone : record.receipt = none) (hfresh : ¬ history.Received receipt.receiptId)
    (hack : record.acknowledge receipt = .ok updated)
    (hwf : (attempt.setAcquisition index updated).WellFormed) :
    Represents ((journal.withAttempt (attempt.setAcquisition index updated)).withReceipt
        receipt.receiptId (.acquire receipt.operationId))
      (history.set (attempt.setAcquisition index updated)) := by
  obtain ⟨_, _, hupdated⟩ := LifecycleRecord.acknowledge_eq_ok.1 hack
  refine h.storeReceipt hat.holds (sameIds_setAcquisition hat.get (by rw [hupdated])) ?_ hfresh hwf
  rw [← hat.id_eq]
  exact owns_setAcquisition_receipt hat.get (by rw [hupdated])
    (by rw [AcquisitionRecord.receiptId?, hnone]; rfl) (by rw [hupdated]; rfl)

theorem recordAcquisitionReceipt_sound (h : Represents journal history)
    {receipt : AcquisitionLifecycleReceipt}
    (hrun : (recordAcquisitionReceipt receipt).run journal = (.ok record, next)) :
    ∃ history', HistoryStep history (.recordAcquisitionReceipt receipt) (.acquisition record)
      history' ∧ Represents next history' := by
  simp only [recordAcquisitionReceipt, Method.run_get_bind, Method.run_lift_bind_ok,
    h.getAcquisition_eq_ok] at hrun
  obtain ⟨_, hpost, found, ⟨attempt, index, hat⟩, hrun⟩ := hrun
  cases hreceipt : found.receipt with
  | some existing =>
    rw [hreceipt] at hrun
    obtain ⟨hsame, hrun⟩ := Method.run_require_bind_ok.1 hrun
    obtain ⟨rfl, rfl⟩ := Method.run_pure_ok.1 hrun
    exact ⟨history, .recordAcquisitionReceipt_again hpost hat (hsame ▸ hreceipt), h⟩
  | none =>
    rw [hreceipt] at hrun
    obtain ⟨updated, hnew, hrun⟩ := Method.run_lift_bind_ok.1 hrun
    obtain ⟨hfresh, hvalid, hack⟩ := (h.acknowledgedAcquisition_eq_ok hat hreceipt).1 hnew
    obtain ⟨_, _, hupdated⟩ := LifecycleRecord.acknowledge_eq_ok.1 hack
    have hid : updated.intent.operationId = receipt.operationId := by rw [hupdated, hat.id_eq]
    rw [Method.run_bind_ok_iff (h.run_replaceAcquisition (hid.symm ▸ hat))] at hrun
    obtain ⟨hwf, hrun⟩ := hrun
    rw [Method.run_modify_bind] at hrun
    obtain ⟨rfl, rfl⟩ := Method.run_pure_ok.1 hrun
    exact ⟨_, .recordAcquisitionReceipt hpost hat hreceipt hfresh hvalid hack hwf,
      h.storeAcquisitionReceipt hat hreceipt hfresh hack hwf⟩

theorem recordAcquisitionReceipt_complete (h : Represents journal history)
    {receipt : AcquisitionLifecycleReceipt}
    (hstep : HistoryStep history (.recordAcquisitionReceipt receipt) result history') :
    ∃ record next, result = .acquisition record
      ∧ (recordAcquisitionReceipt receipt).run journal = (.ok record, next)
      ∧ Represents next history' := by
  simp only [recordAcquisitionReceipt, Method.run_get_bind, Method.run_lift_bind_ok,
    h.getAcquisition_eq_ok]
  cases hstep with
  | @recordAcquisitionReceipt_again _ attempt index record hpost hat hreceipt =>
    refine ⟨record, journal, rfl, ⟨(), hpost, record, ⟨attempt, index, hat⟩, ?_⟩, h⟩
    rw [hreceipt]
    exact Method.run_require_bind_ok.2 ⟨rfl, Method.run_pure_ok.2 ⟨rfl, rfl⟩⟩
  | @recordAcquisitionReceipt _ attempt index record updated hpost hat hreceipt hfresh hvalid hack
      hwf =>
    obtain ⟨_, _, hupdated⟩ := LifecycleRecord.acknowledge_eq_ok.1 hack
    have hid : updated.intent.operationId = receipt.operationId := by rw [hupdated, hat.id_eq]
    refine ⟨updated, _, rfl, ⟨(), hpost, record, ⟨attempt, index, hat⟩, ?_⟩,
      h.storeAcquisitionReceipt hat hreceipt hfresh hack hwf⟩
    rw [hreceipt]
    refine Method.run_lift_bind_ok.2
      ⟨updated, (h.acknowledgedAcquisition_eq_ok hat hreceipt).2 ⟨hfresh, hvalid, hack⟩, ?_⟩
    rw [Method.run_bind_ok_iff (h.run_replaceAcquisition (hid.symm ▸ hat)), Method.run_modify_bind]
    exact ⟨hwf, Method.run_pure_ok.2 ⟨rfl, rfl⟩⟩

theorem blockAcquisition_sound (h : Represents journal history)
    {operationId : AcquireOperationId} {reasonCode : BridgeBlockReason}
    (hrun : (blockAcquisition operationId reasonCode).run journal = (.ok record, next)) :
    ∃ history', HistoryStep history (.blockAcquisition operationId reasonCode)
      (.acquisition record) history' ∧ Represents next history' := by
  simp only [blockAcquisition, Method.run_get_bind, Method.run_lift_bind_ok,
    h.getAcquisition_eq_ok] at hrun
  obtain ⟨found, ⟨attempt, index, hat⟩, hrun⟩ := hrun
  split at hrun
  · rename_i hstate
    obtain ⟨hreason, hrun⟩ := Method.run_require_bind_ok.1 hrun
    obtain ⟨rfl, rfl⟩ := Method.run_pure_ok.1 hrun
    exact ⟨history, .blockAcquisition_again hat hstate hreason, h⟩
  · simp only [Method.run_lift_bind_ok] at hrun
    obtain ⟨location, hloc, current, hget, updated, hblock, _, _, hrun⟩ := hrun
    rw [h.acquisitionLocation_of_at hat, Except.ok.injEq] at hloc
    subst hloc
    rw [h.getAttempt_self hat.holds, Except.ok.injEq] at hget
    subst hget
    rw [Method.run_bind_ok_iff (fun _ _ => run_storeAttempt)] at hrun
    obtain ⟨hwf, hrun⟩ := hrun
    obtain ⟨rfl, rfl⟩ := Method.run_pure_ok.1 hrun
    exact ⟨_, .blockAcquisition hat hblock hwf, h.storeBlockedAcquisition hat hblock hwf⟩

theorem blockAcquisition_complete (h : Represents journal history)
    {operationId : AcquireOperationId} {reasonCode : BridgeBlockReason}
    (hstep : HistoryStep history (.blockAcquisition operationId reasonCode) result history') :
    ∃ record next, result = .acquisition record
      ∧ (blockAcquisition operationId reasonCode).run journal = (.ok record, next)
      ∧ Represents next history' := by
  simp only [blockAcquisition, Method.run_get_bind, Method.run_lift_bind_ok,
    h.getAcquisition_eq_ok]
  cases hstep with
  | @blockAcquisition_again _ _ attempt index record hat hstate hreason =>
    refine ⟨record, journal, rfl, ⟨record, ⟨attempt, index, hat⟩, ?_⟩, h⟩
    rw [if_pos hstate]
    exact Method.run_require_bind_ok.2 ⟨hreason, Method.run_pure_ok.2 ⟨rfl, rfl⟩⟩
  | @blockAcquisition _ _ attempt index record updated hat hblock hwf =>
    have hstate := (LifecycleRecord.block_eq_ok.1 hblock).1
    refine ⟨updated, _, rfl, ⟨record, ⟨attempt, index, hat⟩, ?_⟩,
      h.storeBlockedAcquisition hat hblock hwf⟩
    rw [if_neg (by rcases hstate with hs | hs <;> rw [hs] <;> decide)]
    simp only [Method.run_lift_bind_ok]
    refine ⟨_, h.acquisitionLocation_of_at hat, attempt, h.getAttempt_self hat.holds, updated,
      hblock, (), BridgeOperationAttempt.postInit_eq_ok.2 hwf, ?_⟩
    rw [Method.run_bind_ok_iff (fun _ _ => run_storeAttempt)]
    exact ⟨hwf, Method.run_pure_ok.2 ⟨rfl, rfl⟩⟩

end Represents

end TrueFamily.Transaction
