import TrueFamily.Transaction.Representation

/-!
# Storing records

The steps that the journal's methods share, on a journal that represents a history: the lookups
of a known record, the `_replace_*` methods, what storing a changed record does to the history,
and the reading of the epoch checks.
-/

namespace TrueFamily.Transaction

open Checked Sorting InMemoryBridgeOperationJournal BridgeOperationAttempt

variable [DigestJson]

/-! ## Storing -/

theorem run_storeAttempt {journal next : Journal} {attempt : BridgeOperationAttempt} {u : Unit} :
    (storeAttempt attempt).run journal = (.ok u, next) ↔
      attempt.WellFormed ∧ next = journal.withAttempt attempt := by
  simp only [storeAttempt, Method.run_bind_ok, Method.run_lift_ok, Method.run_modify_ok]
  constructor
  · rintro ⟨_, _, ⟨hwf, rfl⟩, hnext⟩
    exact ⟨BridgeOperationAttempt.postInit_eq_ok.1 hwf, hnext⟩
  · rintro ⟨hwf, hnext⟩
    exact ⟨(), journal, ⟨BridgeOperationAttempt.postInit_eq_ok.2 hwf, rfl⟩, hnext⟩

theorem keeps_storeAttempt (journal : Journal) (attempt : BridgeOperationAttempt) :
    (storeAttempt attempt).Keeps journal := by
  rw [storeAttempt, Method.keeps_lift_bind]
  exact fun _ _ => (Method.returns_modify _ _).keeps

namespace Represents

variable {journal next : Journal} {history : History} {attempt : BridgeOperationAttempt}
  {index : ℕ}

theorem getAttempt_self (h : Represents journal history) (hheld : history.Holds attempt) :
    journal.getAttempt attempt.planId attempt.attempt = .ok attempt :=
  h.getAttempt_eq_ok.2 ⟨hheld, rfl⟩

theorem acquisitionLocation_of_at (h : Represents journal history)
    {operationId : AcquireOperationId} {record : FenceAcquisitionRecord}
    (hat : history.AcquisitionAt operationId attempt index record) :
    journal.acquisitionLocation operationId
      = .ok ⟨attempt.planId, attempt.attempt, index⟩ :=
  h.acquisitionLocation_eq_ok.2 ⟨attempt, record, hat, rfl⟩

theorem objectLocation_of_at (h : Represents journal history)
    {operationId : ObjectOperationId} {record : BridgeOperationRecord}
    (hat : history.OperationAt operationId attempt index record) :
    journal.objectLocation operationId = .ok ⟨attempt.planId, attempt.attempt, index⟩ :=
  h.objectLocation_eq_ok.2 ⟨attempt, record, hat, rfl⟩

theorem releaseLocation_of_at (h : Represents journal history)
    {operationId : ReleaseOperationId} {record : FenceReleaseRecord}
    (hat : history.ReleaseAt operationId attempt index record) :
    journal.releaseLocation operationId = .ok ⟨attempt.planId, attempt.attempt, index⟩ :=
  h.releaseLocation_eq_ok.2 ⟨attempt, record, hat, rfl⟩

theorem run_replaceAcquisition (h : Represents journal history)
    {record updated : FenceAcquisitionRecord}
    (hat : history.AcquisitionAt updated.intent.operationId attempt index record) (u : Unit)
    (next : Journal) : (replaceAcquisition updated).run journal = (.ok u, next) ↔
      (attempt.setAcquisition index updated).WellFormed
        ∧ next = journal.withAttempt (attempt.setAcquisition index updated) := by
  simp only [replaceAcquisition, Method.run_get_bind, Method.run_lift_bind_ok, run_storeAttempt]
  constructor
  · rintro ⟨location, hloc, found, hget, _, _, hwf, hnext⟩
    rw [h.acquisitionLocation_of_at hat, Except.ok.injEq] at hloc
    subst hloc
    rw [h.getAttempt_self hat.holds, Except.ok.injEq] at hget
    subst hget
    exact ⟨hwf, hnext⟩
  · intro ⟨hwf, hnext⟩
    exact ⟨_, h.acquisitionLocation_of_at hat, attempt, h.getAttempt_self hat.holds, (),
      BridgeOperationAttempt.postInit_eq_ok.2 hwf, hwf, hnext⟩

theorem run_replaceRelease (h : Represents journal history)
    {record updated : FenceReleaseRecord}
    (hat : history.ReleaseAt updated.intent.operationId attempt index record) (u : Unit)
    (next : Journal) : (replaceRelease updated).run journal = (.ok u, next) ↔
      (attempt.setRelease index updated).WellFormed
        ∧ next = journal.withAttempt (attempt.setRelease index updated) := by
  simp only [replaceRelease, Method.run_get_bind, Method.run_lift_bind_ok, run_storeAttempt]
  constructor
  · rintro ⟨location, hloc, found, hget, _, _, hwf, hnext⟩
    rw [h.releaseLocation_of_at hat, Except.ok.injEq] at hloc
    subst hloc
    rw [h.getAttempt_self hat.holds, Except.ok.injEq] at hget
    subst hget
    exact ⟨hwf, hnext⟩
  · intro ⟨hwf, hnext⟩
    exact ⟨_, h.releaseLocation_of_at hat, attempt, h.getAttempt_self hat.holds, (),
      BridgeOperationAttempt.postInit_eq_ok.2 hwf, hwf, hnext⟩

/-- `_replace_object`, which keeps a blocked attempt from arming a write. -/
theorem run_replaceObject (h : Represents journal history)
    {record updated : BridgeOperationRecord} {allowRecovery : Bool}
    (hat : history.OperationAt updated.intent.operationId attempt index record) (u : Unit)
    (next : Journal) : (replaceObject updated allowRecovery).run journal = (.ok u, next) ↔
      ((¬ (attempt.state = .blocked ∧ ¬ allowRecovery) ∨ updated.intent.kind = .rollback)
        ∧ (attempt.setOperation index updated).WellFormed)
        ∧ next = journal.withAttempt (attempt.setOperation index updated) := by
  simp only [replaceObject, Method.run_get_bind, Method.run_lift_bind_ok,
    Method.run_require_bind_ok, run_storeAttempt]
  constructor
  · rintro ⟨location, hloc, found, hget, hallowed, _, _, hwf, hnext⟩
    rw [h.objectLocation_of_at hat, Except.ok.injEq] at hloc
    subst hloc
    rw [h.getAttempt_self hat.holds, Except.ok.injEq] at hget
    subst hget
    exact ⟨⟨hallowed, hwf⟩, hnext⟩
  · rintro ⟨⟨hallowed, hwf⟩, hnext⟩
    exact ⟨_, h.objectLocation_of_at hat, attempt, h.getAttempt_self hat.holds, hallowed, (),
      BridgeOperationAttempt.postInit_eq_ok.2 hwf, hwf, hnext⟩

/-- `_claim_identity` right after a store never raises. -/
theorem run_claim_new (h : Represents journal history) (attempt : BridgeOperationAttempt)
    (operationId : OperationId) {kind : IdentityKind} (hkind : kind = operationId.kind) :
    (claimIdentity operationId kind).run (journal.withAttempt attempt)
      = (.ok (), withIdentity (journal.withAttempt attempt) operationId) := by
  rw [hkind]
  have hkinds : KindsMatch (journal.withAttempt attempt) := h.kindsMatch
  exact run_claimIdentity hkinds operationId

/-- Storing an acquisition record that changed neither intent nor receipt. -/
theorem storeAcquisition (h : Represents journal history) {operationId : AcquireOperationId}
    {record updated : FenceAcquisitionRecord}
    (hat : history.AcquisitionAt operationId attempt index record)
    (hintent : updated.intent = record.intent) (hreceipt : updated.receipt = record.receipt)
    (hwf : (attempt.setAcquisition index updated).WellFormed) :
    Represents (journal.withAttempt (attempt.setAcquisition index updated))
      (history.set (attempt.setAcquisition index updated)) :=
  h.store hat.holds (sameIds_setAcquisition hat.get (congrArg _ hintent))
    (owns_setAcquisition hat.get (congrArg _ hintent)
      (congrArg (Option.map AcquisitionLifecycleReceipt.receiptId) hreceipt)) hwf

/-- Storing a blocked acquisition record with its blocked attempt. -/
theorem storeBlockedAcquisition (h : Represents journal history)
    {operationId : AcquireOperationId} {record updated : FenceAcquisitionRecord}
    {reasonCode : BridgeBlockReason}
    (hat : history.AcquisitionAt operationId attempt index record)
    (hblock : record.block reasonCode = .ok updated)
    (hwf : ((attempt.setAcquisition index updated).blocked reasonCode).WellFormed) :
    Represents (journal.withAttempt ((attempt.setAcquisition index updated).blocked reasonCode))
      (history.set ((attempt.setAcquisition index updated).blocked reasonCode)) := by
  obtain ⟨_, _, hupdated⟩ := LifecycleRecord.block_eq_ok.1 hblock
  exact h.store hat.holds ((sameIds_setAcquisition hat.get (by rw [hupdated])).blocked reasonCode)
    (owns_setAcquisition hat.get (by rw [hupdated]) (by rw [hupdated]; rfl)) hwf

/-- Storing a release record that changed neither intent nor receipt. -/
theorem storeRelease (h : Represents journal history) {operationId : ReleaseOperationId}
    {record updated : FenceReleaseRecord}
    (hat : history.ReleaseAt operationId attempt index record)
    (hintent : updated.intent = record.intent) (hreceipt : updated.receipt = record.receipt)
    (hwf : (attempt.setRelease index updated).WellFormed) :
    Represents (journal.withAttempt (attempt.setRelease index updated))
      (history.set (attempt.setRelease index updated)) :=
  h.store hat.holds (sameIds_setRelease hat.get (congrArg _ hintent))
    (owns_setRelease hat.get (congrArg _ hintent)
      (congrArg (Option.map ReleaseLifecycleReceipt.receiptId) hreceipt)) hwf

/-- Storing an object record that changed neither intent nor receipt. -/
theorem storeOperation (h : Represents journal history) {operationId : ObjectOperationId}
    {record updated : BridgeOperationRecord}
    (hat : history.OperationAt operationId attempt index record)
    (hintent : updated.intent = record.intent) (hreceipt : updated.receipt = record.receipt)
    (hwf : (attempt.setOperation index updated).WellFormed) :
    Represents (journal.withAttempt (attempt.setOperation index updated))
      (history.set (attempt.setOperation index updated)) :=
  h.store hat.holds (sameIds_setOperation hat.get (congrArg _ hintent))
    (owns_setOperation hat.get (congrArg _ hintent) hreceipt) hwf

/-- Storing a blocked object record with its blocked attempt. -/
theorem storeBlockedOperation (h : Represents journal history)
    {operationId : ObjectOperationId} {record updated : BridgeOperationRecord}
    {reasonCode : BridgeBlockReason}
    (hat : history.OperationAt operationId attempt index record)
    (hblock : record.block reasonCode = .ok updated)
    (hwf : ((attempt.setOperation index updated).blocked reasonCode).WellFormed) :
    Represents (journal.withAttempt ((attempt.setOperation index updated).blocked reasonCode))
      (history.set ((attempt.setOperation index updated).blocked reasonCode)) := by
  obtain ⟨_, _, hupdated⟩ := BridgeOperationRecord.block_eq_ok.1 hblock
  exact h.store hat.holds ((sameIds_setOperation hat.get (by rw [hupdated])).blocked reasonCode)
    (owns_setOperation hat.get (by rw [hupdated]) (by rw [hupdated])) hwf

/-- A receipt that no other operation holds is held by none, if its own operation has no
receipt. -/
theorem not_received_iff (h : Represents journal history) {receiptId : ReceiptId}
    {operationId : OperationId} (hown : ¬ history.Owns receiptId operationId) :
    journal.assertReceiptUnclaimed receiptId operationId = .ok () ↔
      ¬ history.Received receiptId := by
  rw [assertReceiptUnclaimed, check_eq_ok]
  constructor
  · rintro hall ⟨existing, howned⟩
    rw [hall existing (h.receiptIndex_eq_some_iff.2 howned)] at howned
    exact hown howned
  · intro hno existing hget
    exact absurd ⟨existing, h.receiptIndex_eq_some_iff.1 hget⟩ hno

/-! ## Epochs -/

theorem mem_attempts_iff (h : Represents journal history) :
    attempt ∈ journal.attempts.values.flatten ↔ history.Holds attempt := by
  simp only [List.mem_flatten, Dict.mem_values_iff]
  constructor
  · rintro ⟨attempts, ⟨planId, hget⟩, hmem⟩
    have hlist : history planId = attempts := by
      rw [← h.attempts planId, attemptsFor, hget]
      rfl
    exact (h.located.holds_of_mem (hlist ▸ hmem)).1
  · intro hheld
    have hmem := hheld.mem
    rw [← h.attempts, attemptsFor] at hmem
    cases hget : journal.attempts.get? attempt.planId with
    | none =>
      rw [hget] at hmem
      cases hmem
    | some attempts =>
      rw [hget] at hmem
      exact ⟨attempts, ⟨_, hget⟩, hmem⟩

theorem mem_intents_iff (h : Represents journal history) {intent : FenceAcquisitionIntent} :
    intent ∈ (journal.attempts.values.flatten.flatMap (·.acquisitions)).map (·.intent) ↔
      history.Acquires intent := by
  simp only [List.mem_map, List.mem_flatMap, h.mem_attempts_iff, History.Acquires]
  constructor
  · rintro ⟨record, ⟨attempt, hheld, hmem⟩, heq⟩
    exact ⟨attempt, hheld, record, hmem, heq⟩
  · rintro ⟨attempt, hheld, record, hmem, heq⟩
    exact ⟨record, ⟨attempt, hheld, hmem⟩, heq⟩

theorem mem_providerIntents_iff (h : Represents journal history) {provider : Provider}
    {intent : FenceAcquisitionIntent} : intent ∈ journal.providerIntents provider ↔
      history.Acquires intent ∧ intent.provider = provider := by
  rw [providerIntents, List.mem_filter, h.mem_intents_iff, decide_eq_true_iff]

theorem assertNewEpoch_eq_ok (h : Represents journal history) {intent : FenceAcquisitionIntent} :
    journal.assertNewEpoch intent.provider intent.epoch intent.requestedAt = .ok () ↔
      history.NewEpoch intent := by
  simp only [assertNewEpoch, bind_eq_ok, exists_unit, forAll_eq_ok, Option.mem_toList,
    check_eq_ok, providerEpochHighWater, forall_max?_lt_iff, forall_max?_le_iff,
    List.forall_mem_map, h.mem_providerIntents_iff, and_imp, History.NewEpoch]
  constructor
  · rintro ⟨hlt, hle⟩ earlier hacquires hprovider
    exact ⟨hlt earlier hacquires hprovider, hle earlier hacquires hprovider⟩
  · intro hnew
    exact ⟨fun earlier ha hp => (hnew earlier ha hp).1, fun earlier ha hp => (hnew earlier ha hp).2⟩

theorem providerEpochHighWater_eq_some_iff (h : Represents journal history)
    {provider : Provider} {epoch : ℕ} :
    journal.providerEpochHighWater provider = some epoch ↔ history.HighWater provider epoch := by
  rw [providerEpochHighWater, max?_eq_some_iff, List.forall_mem_map, List.mem_map]
  simp only [h.mem_providerIntents_iff, and_imp, History.HighWater, and_assoc]

theorem providerEpochHighWater_eq_none_iff (h : Represents journal history)
    {provider : Provider} : journal.providerEpochHighWater provider = none ↔
      ∀ intent, history.Acquires intent → intent.provider ≠ provider := by
  rw [providerEpochHighWater, List.max?_eq_none_iff, List.map_eq_nil_iff,
    List.eq_nil_iff_forall_not_mem]
  simp only [h.mem_providerIntents_iff, not_and, ne_eq]

end Represents

end TrueFamily.Transaction
