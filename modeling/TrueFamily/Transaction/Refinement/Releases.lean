import TrueFamily.Transaction.Refinement.Storing

/-!
# Release methods refine their steps

For each method on releases two theorems, on a journal that represents a history. `_sound`: if
the method returns, the history has a step for the call with the same result, and the journal then
represents the history after the step. `_complete`: if the history has such a step, the method
returns its result.
-/

namespace TrueFamily.Transaction

open Checked Sorting InMemoryBridgeOperationJournal BridgeOperationAttempt

variable [DigestJson]

namespace Represents

variable {journal next : Journal} {history history' : History} {result : JournalResult}
  {record : FenceReleaseRecord}

/-- A known operation ID of a release is answered by the record with this intent. -/
theorem existingRelease_eq_ok (h : Represents journal history)
    {intent : FenceReleaseIntent} :
    journal.existingRelease .release intent = .ok record ↔
      record.intent = intent ∧ ∃ attempt index,
        history.ReleaseAt intent.operationId attempt index record := by
  simp only [existingRelease, bind_eq_ok, exists_unit, check_eq_ok, pure_eq_ok,
    h.getRelease_eq_ok]
  constructor
  · rintro ⟨found, hat, heq, rfl⟩
    exact ⟨heq, hat⟩
  · rintro ⟨heq, hat⟩
    exact ⟨record, hat, heq, rfl⟩

theorem newRelease_eq_ok (h : Represents journal history) {intent : FenceReleaseIntent}
    (hfresh : ¬ history.Claims (.release intent.operationId))
    {updated : BridgeOperationAttempt} :
    journal.newRelease intent = .ok (record, updated) ↔ ∃ attempt boundary,
      history.AdmitsRelease attempt intent boundary
        ∧ (attempt.addRelease intent boundary).WellFormed
        ∧ record = LifecycleRecord.recorded intent
        ∧ updated = attempt.addRelease intent boundary := by
  simp only [newRelease, bind_eq_ok, exists_unit, check_eq_ok, forAll_eq_ok, Option.mem_toList,
    pure_eq_ok, h.getAttempt_eq_ok, LifecycleRecord.postInit_eq_ok,
    BridgeOperationAttempt.postInit_eq_ok, Prod.mk.injEq]
  constructor
  · rintro ⟨attempt, ⟨hheld, hslot⟩, hstate, hacquired, boundary, hboundary, hresolved, hcontiguous,
      hretries, _, hwf, rfl, rfl⟩
    exact ⟨attempt, boundary, ⟨hfresh, hheld, hslot, hstate, hacquired, hboundary, hresolved,
      hcontiguous, hretries⟩, hwf, rfl, rfl⟩
  · rintro ⟨attempt, boundary, hadmits, hwf, rfl, rfl⟩
    refine ⟨attempt, ⟨hadmits.holds, hadmits.slot_eq⟩, hadmits.mayRelease, hadmits.acquired,
      boundary, hadmits.boundary_eq, hadmits.resolved, hadmits.contiguous, hadmits.retries, ?_, hwf,
      rfl, rfl⟩
    exact hwf.releases.record_wf _ (mem_sortedBy.2 (List.mem_append_right _ (by simp)))

theorem recordReleaseIntent_sound (h : Represents journal history)
    {intent : FenceReleaseIntent}
    (hrun : (recordReleaseIntent intent).run journal = (.ok record, next)) :
    ∃ history', HistoryStep history (.recordReleaseIntent intent) (.release record)
      history' ∧ Represents next history' := by
  simp only [recordReleaseIntent, Method.run_lift_bind_ok, Method.run_get_bind] at hrun
  obtain ⟨_, hpost, hrun⟩ := hrun
  have hwf := FenceReleaseIntent.postInit_eq_ok.1 hpost
  cases hkind : journal.identityIndex.get? (.release intent.operationId) with
  | some kind =>
    rw [hkind] at hrun
    obtain ⟨hexisting, rfl⟩ := Method.run_lift_ok.1 hrun
    obtain ⟨rfl, _⟩ := h.identityIndex_eq_some_iff.1 hkind
    obtain ⟨heq, attempt, index, hat⟩ := h.existingRelease_eq_ok.1 hexisting
    exact ⟨history, .recordReleaseIntent_again hwf hat heq, h⟩
  | none =>
    have hfresh := h.identityIndex_eq_none_iff.1 hkind
    rw [hkind] at hrun
    simp only [Method.run_lift_bind_ok, Method.run_bind_ok_iff
      (fun _ _ => run_storeAttempt)] at hrun
    obtain ⟨⟨found, updated⟩, hnew, _, hrun⟩ := hrun
    obtain ⟨attempt, boundary, hadmits, hupdated, rfl, rfl⟩ := (h.newRelease_eq_ok hfresh).1 hnew
    rw [Method.run_bind_of_ok (h.run_claim_new _ (.release intent.operationId)
      (show IdentityKind.release = _ from rfl)), Method.run_modify_bind] at hrun
    obtain ⟨rfl, rfl⟩ := Method.run_pure_ok.1 hrun
    exact ⟨_, .recordReleaseIntent hwf hadmits hupdated,
      h.addRelease hadmits.holds hfresh hupdated _ rfl⟩

theorem recordReleaseIntent_complete (h : Represents journal history)
    {intent : FenceReleaseIntent}
    (hstep : HistoryStep history (.recordReleaseIntent intent) result history') :
    ∃ record next, result = .release record
      ∧ (recordReleaseIntent intent).run journal = (.ok record, next)
      ∧ Represents next history' := by
  simp only [recordReleaseIntent, Method.run_lift_bind_ok, Method.run_get_bind]
  cases hstep with
  | @recordReleaseIntent_again _ attempt index record hwf hat heq =>
    refine ⟨record, journal, rfl, ⟨(), FenceReleaseIntent.postInit_eq_ok.2 hwf, ?_⟩, h⟩
    rw [h.identityIndex_eq_some_iff.2 ⟨rfl, attempt, hat.holds, release_mem_operationIds.2
      (hat.id_eq ▸ List.mem_map_of_mem (List.mem_of_getElem? hat.get))⟩]
    exact Method.run_lift_ok.2 ⟨h.existingRelease_eq_ok.2 ⟨heq, attempt, index, hat⟩, rfl⟩
  | @recordReleaseIntent _ attempt boundary hwf hadmits hupdated =>
    refine ⟨_, _, rfl, ⟨(), FenceReleaseIntent.postInit_eq_ok.2 hwf, ?_⟩,
      h.addRelease hadmits.holds hadmits.unclaimed hupdated (LifecycleRecord.recorded intent,
        (attempt.addRelease intent boundary).releases.idxOf (LifecycleRecord.recorded intent)) rfl⟩
    rw [h.identityIndex_eq_none_iff.2 hadmits.unclaimed]
    simp only [Method.run_lift_bind_ok, Method.run_bind_ok_iff (fun _ _ => run_storeAttempt)]
    refine ⟨_, (h.newRelease_eq_ok hadmits.unclaimed).2
      ⟨attempt, boundary, hadmits, hupdated, rfl, rfl⟩, hupdated, ?_⟩
    rw [Method.run_bind_of_ok (h.run_claim_new _ (.release intent.operationId)
      (show IdentityKind.release = _ from rfl)), Method.run_modify_bind]
    exact Method.run_pure_ok.2 ⟨rfl, rfl⟩

theorem armRelease_sound (h : Represents journal history)
    {operationId : ReleaseOperationId}
    (hrun : (armRelease operationId).run journal = (.ok record, next)) :
    ∃ history', HistoryStep history (.armRelease operationId) (.release record) history'
      ∧ Represents next history' := by
  simp only [armRelease, Method.run_get_bind, Method.run_lift_bind_ok,
    h.getRelease_eq_ok] at hrun
  obtain ⟨found, ⟨attempt, index, hat⟩, hrun⟩ := hrun
  split at hrun
  · rename_i hstate
    obtain ⟨rfl, rfl⟩ := Method.run_pure_ok.1 hrun
    exact ⟨history, .armRelease_again hat hstate, h⟩
  · obtain ⟨updated, harm, hrun⟩ := Method.run_lift_bind_ok.1 hrun
    obtain ⟨_, _, rfl⟩ := LifecycleRecord.arm_eq_ok.1 harm
    have hid := hat.id_eq
    rw [Method.run_bind_ok_iff (h.run_replaceRelease (hid.symm ▸ hat))] at hrun
    obtain ⟨hwf, hrun⟩ := hrun
    obtain ⟨rfl, rfl⟩ := Method.run_pure_ok.1 hrun
    refine ⟨_, .armRelease hat harm hwf, ?_⟩
    exact h.storeRelease hat rfl rfl hwf

theorem armRelease_complete (h : Represents journal history)
    {operationId : ReleaseOperationId}
    (hstep : HistoryStep history (.armRelease operationId) result history') :
    ∃ record next, result = .release record
      ∧ (armRelease operationId).run journal = (.ok record, next)
      ∧ Represents next history' := by
  simp only [armRelease, Method.run_get_bind, Method.run_lift_bind_ok,
    h.getRelease_eq_ok]
  cases hstep with
  | @armRelease_again _ attempt index record hat hstate =>
    refine ⟨record, journal, rfl, ⟨record, ⟨attempt, index, hat⟩, ?_⟩, h⟩
    rw [if_pos hstate]
    exact Method.run_pure_ok.2 ⟨rfl, rfl⟩
  | @armRelease _ attempt index record updated hat harm hwf =>
    obtain ⟨hstate, _, hupdated⟩ := LifecycleRecord.arm_eq_ok.1 harm
    have hintent : updated.intent = record.intent := by rw [hupdated]
    refine ⟨updated, _, rfl, ⟨record, ⟨attempt, index, hat⟩, ?_⟩,
      h.storeRelease hat hintent (by rw [hupdated]) hwf⟩
    rw [if_neg (by rw [hstate]; decide), Method.run_lift_bind_ok]
    refine ⟨updated, harm, ?_⟩
    have hid : updated.intent.operationId = operationId := by rw [hintent, hat.id_eq]
    rw [Method.run_bind_ok_iff (h.run_replaceRelease (hid.symm ▸ hat))]
    exact ⟨hwf, Method.run_pure_ok.2 ⟨rfl, rfl⟩⟩

/-- No receipt is held under a release whose record has none. -/
theorem not_owns_release (h : Represents journal history)
    {operationId : ReleaseOperationId} {attempt : BridgeOperationAttempt} {index : ℕ}
    (hat : history.ReleaseAt operationId attempt index record) (hnone : record.receipt = none)
    (receiptId : ReceiptId) : ¬ history.Owns receiptId (.release operationId) := by
  rintro ⟨found, hheld, hown⟩
  have hmem : .release operationId ∈ attempt.operationIds := release_mem_operationIds.2
    (hat.id_eq ▸ List.mem_map_of_mem (List.mem_of_getElem? hat.get))
  rw [h.eq_of_claims hheld hat.holds hown.mem_operationIds hmem] at hown
  obtain ⟨other, hother, hid, hreceipt⟩ := owns_release_iff.1 hown
  have heq : other = record := eq_of_releaseId (h.wellFormed _ hat.holds) hother
    (List.mem_of_getElem? hat.get) (hid.trans hat.id_eq.symm)
  rw [heq, ReleaseRecord.receiptId?, hnone] at hreceipt
  cases hreceipt

theorem acknowledgedRelease_eq_ok (h : Represents journal history)
    {receipt : ReleaseLifecycleReceipt} {attempt : BridgeOperationAttempt} {index : ℕ}
    {updated : FenceReleaseRecord}
    (hat : history.ReleaseAt receipt.operationId attempt index record)
    (hnone : record.receipt = none) :
    journal.acknowledgedRelease record receipt = .ok updated ↔
      ¬ history.Received receipt.receiptId ∧ receipt.validateFor record.intent = .ok ()
        ∧ record.acknowledge receipt = .ok updated := by
  simp only [acknowledgedRelease, bind_eq_ok, exists_unit, rewrap_eq_ok,
    h.not_received_iff (h.not_owns_release hat hnone _)]

/-- Storing a release record that got its receipt, and claiming the receipt. -/
theorem storeReleaseReceipt (h : Represents journal history)
    {receipt : ReleaseLifecycleReceipt} {attempt : BridgeOperationAttempt} {index : ℕ}
    {updated : FenceReleaseRecord}
    (hat : history.ReleaseAt receipt.operationId attempt index record)
    (hnone : record.receipt = none) (hfresh : ¬ history.Received receipt.receiptId)
    (hack : record.acknowledge receipt = .ok updated)
    (hwf : (attempt.setRelease index updated).WellFormed) :
    Represents ((journal.withAttempt (attempt.setRelease index updated)).withReceipt
        receipt.receiptId (.release receipt.operationId))
      (history.set (attempt.setRelease index updated)) := by
  obtain ⟨_, _, hupdated⟩ := LifecycleRecord.acknowledge_eq_ok.1 hack
  refine h.storeReceipt hat.holds (sameIds_setRelease hat.get (by rw [hupdated])) ?_ hfresh hwf
  rw [← hat.id_eq]
  exact owns_setRelease_receipt hat.get (by rw [hupdated])
    (by rw [ReleaseRecord.receiptId?, hnone]; rfl) (by rw [hupdated]; rfl)

theorem recordReleaseReceipt_sound (h : Represents journal history)
    {receipt : ReleaseLifecycleReceipt}
    (hrun : (recordReleaseReceipt receipt).run journal = (.ok record, next)) :
    ∃ history', HistoryStep history (.recordReleaseReceipt receipt) (.release record)
      history' ∧ Represents next history' := by
  simp only [recordReleaseReceipt, Method.run_get_bind, Method.run_lift_bind_ok,
    h.getRelease_eq_ok] at hrun
  obtain ⟨_, hpost, found, ⟨attempt, index, hat⟩, hrun⟩ := hrun
  cases hreceipt : found.receipt with
  | some existing =>
    rw [hreceipt] at hrun
    obtain ⟨hsame, hrun⟩ := Method.run_require_bind_ok.1 hrun
    obtain ⟨rfl, rfl⟩ := Method.run_pure_ok.1 hrun
    exact ⟨history, .recordReleaseReceipt_again hpost hat (hsame ▸ hreceipt), h⟩
  | none =>
    rw [hreceipt] at hrun
    obtain ⟨updated, hnew, hrun⟩ := Method.run_lift_bind_ok.1 hrun
    obtain ⟨hfresh, hvalid, hack⟩ := (h.acknowledgedRelease_eq_ok hat hreceipt).1 hnew
    obtain ⟨_, _, hupdated⟩ := LifecycleRecord.acknowledge_eq_ok.1 hack
    have hid : updated.intent.operationId = receipt.operationId := by rw [hupdated, hat.id_eq]
    rw [Method.run_bind_ok_iff (h.run_replaceRelease (hid.symm ▸ hat))] at hrun
    obtain ⟨hwf, hrun⟩ := hrun
    rw [Method.run_modify_bind] at hrun
    obtain ⟨rfl, rfl⟩ := Method.run_pure_ok.1 hrun
    exact ⟨_, .recordReleaseReceipt hpost hat hreceipt hfresh hvalid hack hwf,
      h.storeReleaseReceipt hat hreceipt hfresh hack hwf⟩

theorem recordReleaseReceipt_complete (h : Represents journal history)
    {receipt : ReleaseLifecycleReceipt}
    (hstep : HistoryStep history (.recordReleaseReceipt receipt) result history') :
    ∃ record next, result = .release record
      ∧ (recordReleaseReceipt receipt).run journal = (.ok record, next)
      ∧ Represents next history' := by
  simp only [recordReleaseReceipt, Method.run_get_bind, Method.run_lift_bind_ok,
    h.getRelease_eq_ok]
  cases hstep with
  | @recordReleaseReceipt_again _ attempt index record hpost hat hreceipt =>
    refine ⟨record, journal, rfl, ⟨(), hpost, record, ⟨attempt, index, hat⟩, ?_⟩, h⟩
    rw [hreceipt]
    exact Method.run_require_bind_ok.2 ⟨rfl, Method.run_pure_ok.2 ⟨rfl, rfl⟩⟩
  | @recordReleaseReceipt _ attempt index record updated hpost hat hreceipt hfresh hvalid hack
      hwf =>
    obtain ⟨_, _, hupdated⟩ := LifecycleRecord.acknowledge_eq_ok.1 hack
    have hid : updated.intent.operationId = receipt.operationId := by rw [hupdated, hat.id_eq]
    refine ⟨updated, _, rfl, ⟨(), hpost, record, ⟨attempt, index, hat⟩, ?_⟩,
      h.storeReleaseReceipt hat hreceipt hfresh hack hwf⟩
    rw [hreceipt]
    refine Method.run_lift_bind_ok.2
      ⟨updated, (h.acknowledgedRelease_eq_ok hat hreceipt).2 ⟨hfresh, hvalid, hack⟩, ?_⟩
    rw [Method.run_bind_ok_iff (h.run_replaceRelease (hid.symm ▸ hat)), Method.run_modify_bind]
    exact ⟨hwf, Method.run_pure_ok.2 ⟨rfl, rfl⟩⟩

end Represents

end TrueFamily.Transaction
