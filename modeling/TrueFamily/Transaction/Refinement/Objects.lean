import TrueFamily.Transaction.Refinement.Storing

/-!
# Object methods refine their steps

The `_sound` and `_complete` theorems of the methods on object operations, as for acquisitions and
releases.
-/

namespace TrueFamily.Transaction

open Checked Sorting InMemoryBridgeOperationJournal BridgeOperationAttempt

variable [DigestJson]

namespace Represents

variable {journal next : Journal} {history history' : History} {result : JournalResult}
  {record updated : BridgeOperationRecord} {attempt : BridgeOperationAttempt} {index : ℕ}

/-! ## Intents -/

/-- A known operation ID of an object operation is answered by the record with this intent. -/
theorem existingOperation_eq_ok (h : Represents journal history)
    {intent : BridgeOperationIntent} :
    journal.existingOperation .object intent = .ok record ↔
      record.intent = intent ∧ ∃ attempt index,
        history.OperationAt intent.operationId attempt index record := by
  simp only [existingOperation, bind_eq_ok, exists_unit, check_eq_ok, pure_eq_ok,
    h.getOperation_eq_ok]
  constructor
  · rintro ⟨found, hat, heq, rfl⟩
    exact ⟨heq, hat⟩
  · rintro ⟨heq, hat⟩
    exact ⟨record, hat, heq, rfl⟩

/-- The epoch check of `record_intent` compares with every acquisition of an earlier attempt. -/
theorem forall_priorEpochs_lt_iff (h : Represents journal history)
    {intent : BridgeOperationIntent} {bound : ℕ} :
    (∀ highest, (journal.priorEpochs intent).max? = some highest → highest < bound) ↔
      ∀ prior ∈ history intent.planId, prior.attempt < intent.attempt →
        ∀ item ∈ prior.acquisitions, item.intent.provider = intent.provider →
          item.intent.epoch < bound := by
  rw [forall_max?_lt_iff, priorEpochs, List.forall_mem_map, h.attempts]
  simp only [List.mem_filter, List.mem_flatMap, decide_eq_true_iff]
  constructor
  · intro hall prior hprior hlt item hitem hprovider
    exact hall item ⟨⟨prior, ⟨hprior, hlt⟩, hitem⟩, hprovider⟩
  · rintro hall item ⟨⟨prior, ⟨hprior, hlt⟩, hitem⟩, hprovider⟩
    exact hall prior hprior hlt item hitem hprovider

theorem newOperation_eq_ok (h : Represents journal history) {intent : BridgeOperationIntent}
    (hfresh : ¬ history.Claims (.object intent.operationId)) {next : BridgeOperationAttempt} :
    journal.newOperation intent = .ok (record, next) ↔ ∃ attempt,
      history.AdmitsOperation attempt intent ∧ (attempt.addOperation intent).WellFormed
        ∧ record = BridgeOperationRecord.recorded intent
        ∧ next = attempt.addOperation intent := by
  simp only [newOperation, bind_eq_ok, exists_unit, check_eq_ok, forAll_eq_ok, Option.mem_toList,
    pure_eq_ok, h.getAttempt_eq_ok, h.forall_priorEpochs_lt_iff,
    BridgeOperationRecord.postInit_eq_ok, BridgeOperationAttempt.postInit_eq_ok, Prod.mk.injEq]
  constructor
  · rintro ⟨attempt, ⟨hheld, hslot⟩, hmay, hacquired, hunreleased, hwrite, hepochs, hcontiguous, _,
      hwf, rfl, rfl⟩
    exact ⟨attempt, ⟨hfresh, hheld, hslot, hmay, hacquired, hunreleased, hwrite, hepochs,
      hcontiguous⟩, hwf, rfl, rfl⟩
  · rintro ⟨attempt, hadmits, hwf, rfl, rfl⟩
    refine ⟨attempt, ⟨hadmits.holds, hadmits.slot_eq⟩, hadmits.mayOperate, hadmits.acquired,
      hadmits.unreleased, hadmits.before_release, hadmits.newerEpoch, hadmits.contiguous, ?_, hwf,
      rfl, rfl⟩
    exact hwf.operations.record_wf _ (List.mem_append_right _ (by simp))

theorem recordIntent_sound (h : Represents journal history) {intent : BridgeOperationIntent}
    (hrun : (recordIntent intent).run journal = (.ok record, next)) :
    ∃ history', HistoryStep history (.recordIntent intent) (.operation record) history'
      ∧ Represents next history' := by
  simp only [recordIntent, Method.run_lift_bind_ok, Method.run_get_bind] at hrun
  obtain ⟨_, hpost, hrun⟩ := hrun
  have hwf := BridgeOperationIntent.postInit_eq_ok.1 hpost
  cases hkind : journal.identityIndex.get? (.object intent.operationId) with
  | some kind =>
    rw [hkind] at hrun
    obtain ⟨hexisting, rfl⟩ := Method.run_lift_ok.1 hrun
    obtain ⟨rfl, _⟩ := h.identityIndex_eq_some_iff.1 hkind
    obtain ⟨heq, attempt, index, hat⟩ := h.existingOperation_eq_ok.1 hexisting
    exact ⟨history, .recordIntent_again hwf hat heq, h⟩
  | none =>
    have hfresh := h.identityIndex_eq_none_iff.1 hkind
    rw [hkind] at hrun
    simp only [Method.run_lift_bind_ok, Method.run_bind_ok_iff (fun _ _ => run_storeAttempt)]
      at hrun
    obtain ⟨⟨found, updated⟩, hnew, _, hrun⟩ := hrun
    obtain ⟨attempt, hadmits, hupdated, rfl, rfl⟩ := (h.newOperation_eq_ok hfresh).1 hnew
    rw [Method.run_bind_of_ok (h.run_claim_new _ (.object intent.operationId)
      (show IdentityKind.object = _ from rfl)), Method.run_modify_bind] at hrun
    obtain ⟨rfl, rfl⟩ := Method.run_pure_ok.1 hrun
    exact ⟨_, .recordIntent hwf hadmits hupdated,
      h.addOperation hadmits.holds hfresh hupdated hadmits.contiguous⟩

theorem recordIntent_complete (h : Represents journal history) {intent : BridgeOperationIntent}
    (hstep : HistoryStep history (.recordIntent intent) result history') :
    ∃ record next, result = .operation record
      ∧ (recordIntent intent).run journal = (.ok record, next)
      ∧ Represents next history' := by
  simp only [recordIntent, Method.run_lift_bind_ok, Method.run_get_bind]
  cases hstep with
  | @recordIntent_again _ attempt index record hwf hat heq =>
    refine ⟨record, journal, rfl, ⟨(), BridgeOperationIntent.postInit_eq_ok.2 hwf, ?_⟩, h⟩
    rw [h.identityIndex_eq_some_iff.2 ⟨rfl, attempt, hat.holds, object_mem_operationIds.2
      (hat.id_eq ▸ List.mem_map_of_mem (List.mem_of_getElem? hat.get))⟩]
    exact Method.run_lift_ok.2 ⟨h.existingOperation_eq_ok.2 ⟨heq, attempt, index, hat⟩, rfl⟩
  | @recordIntent _ attempt hwf hadmits hupdated =>
    refine ⟨_, _, rfl, ⟨(), BridgeOperationIntent.postInit_eq_ok.2 hwf, ?_⟩,
      h.addOperation hadmits.holds hadmits.unclaimed hupdated hadmits.contiguous⟩
    rw [h.identityIndex_eq_none_iff.2 hadmits.unclaimed]
    simp only [Method.run_lift_bind_ok, Method.run_bind_ok_iff (fun _ _ => run_storeAttempt)]
    refine ⟨_, (h.newOperation_eq_ok hadmits.unclaimed).2 ⟨attempt, hadmits, hupdated, rfl, rfl⟩,
      hupdated, ?_⟩
    rw [Method.run_bind_of_ok (h.run_claim_new _ (.object intent.operationId)
      (show IdentityKind.object = _ from rfl)), Method.run_modify_bind]
    exact Method.run_pure_ok.2 ⟨rfl, rfl⟩

/-! ## Arming -/

theorem armedOperation_eq_ok (h : Represents journal history) {operationId : ObjectOperationId}
    {authorization : BridgeDispatchAuthorization}
    (hat : history.OperationAt operationId attempt index record) :
    journal.armedOperation operationId record authorization = .ok updated ↔
      History.AdmitsArming attempt record authorization
        ∧ record.arm authorization = .ok updated := by
  simp only [armedOperation, bind_eq_ok, exists_unit, check_eq_ok, rewrap_eq_ok,
    h.objectLocation_of_at hat, Except.ok.injEq, exists_eq_left', h.getAttempt_self hat.holds]
  constructor
  · rintro ⟨hauth, hfresh, hlater, hblocked, hacquired, hunreleased, harm⟩
    exact ⟨⟨hauth, hfresh, hlater, hblocked, hacquired, hunreleased⟩, harm⟩
  · rintro ⟨hadmits, harm⟩
    exact ⟨hadmits.authorized, hadmits.fresh, hadmits.after_release, hadmits.compensates,
      hadmits.acquired, hadmits.unreleased, harm⟩

theorem armOperation_sound (h : Represents journal history) {operationId : ObjectOperationId}
    {authorization : BridgeDispatchAuthorization}
    (hrun : (armOperation operationId authorization).run journal = (.ok record, next)) :
    ∃ history', HistoryStep history (.armOperation operationId authorization) (.operation record)
      history' ∧ Represents next history' := by
  simp only [armOperation, Method.run_get_bind, Method.run_lift_bind_ok,
    h.getOperation_eq_ok] at hrun
  obtain ⟨_, hpost, found, ⟨attempt, index, hat⟩, hrun⟩ := hrun
  split at hrun
  · rename_i hstate
    obtain ⟨hsame, hrun⟩ := Method.run_require_bind_ok.1 hrun
    obtain ⟨rfl, rfl⟩ := Method.run_pure_ok.1 hrun
    exact ⟨history, .armOperation_again hpost hat hstate hsame, h⟩
  · obtain ⟨updated, harmed, hrun⟩ := Method.run_lift_bind_ok.1 hrun
    obtain ⟨hadmits, harm⟩ := (h.armedOperation_eq_ok hat).1 harmed
    obtain ⟨_, _, hupdated⟩ := BridgeOperationRecord.arm_eq_ok.1 harm
    have hid : updated.intent.operationId = operationId := by rw [hupdated, hat.id_eq]
    rw [Method.run_bind_ok_iff (h.run_replaceObject (hid.symm ▸ hat))] at hrun
    obtain ⟨⟨_, hwf⟩, hrun⟩ := hrun
    obtain ⟨rfl, rfl⟩ := Method.run_pure_ok.1 hrun
    exact ⟨_, .armOperation hpost hat hadmits harm hwf,
      h.storeOperation hat (by rw [hupdated]) (by rw [hupdated]) hwf⟩

theorem armOperation_complete (h : Represents journal history) {operationId : ObjectOperationId}
    {authorization : BridgeDispatchAuthorization}
    (hstep : HistoryStep history (.armOperation operationId authorization) result history') :
    ∃ record next, result = .operation record
      ∧ (armOperation operationId authorization).run journal = (.ok record, next)
      ∧ Represents next history' := by
  simp only [armOperation, Method.run_get_bind, Method.run_lift_bind_ok, h.getOperation_eq_ok]
  cases hstep with
  | @armOperation_again _ _ attempt index record hpost hat hstate hsame =>
    refine ⟨record, journal, rfl, ⟨(), hpost, record, ⟨attempt, index, hat⟩, ?_⟩, h⟩
    rw [if_pos hstate]
    exact Method.run_require_bind_ok.2 ⟨hsame, Method.run_pure_ok.2 ⟨rfl, rfl⟩⟩
  | @armOperation _ _ attempt index record updated hpost hat hadmits harm hwf =>
    obtain ⟨hstate, _, hupdated⟩ := BridgeOperationRecord.arm_eq_ok.1 harm
    have hid : updated.intent.operationId = operationId := by rw [hupdated, hat.id_eq]
    refine ⟨updated, _, rfl, ⟨(), hpost, record, ⟨attempt, index, hat⟩, ?_⟩,
      h.storeOperation hat (by rw [hupdated]) (by rw [hupdated]) hwf⟩
    rw [if_neg (by rw [hstate]; decide), Method.run_lift_bind_ok]
    refine ⟨updated, (h.armedOperation_eq_ok hat).2 ⟨hadmits, harm⟩, ?_⟩
    rw [Method.run_bind_ok_iff (h.run_replaceObject (hid.symm ▸ hat))]
    refine ⟨⟨?_, hwf⟩, Method.run_pure_ok.2 ⟨rfl, rfl⟩⟩
    by_cases hblocked : attempt.state = .blocked
    · exact Or.inr (by rw [hupdated]; exact hadmits.compensates hblocked)
    · exact Or.inl fun hboth => hblocked hboth.1

/-! ## Receipts -/

/-- No receipt is held under an object operation whose record has none. -/
theorem not_owns_operation (h : Represents journal history) {operationId : ObjectOperationId}
    (hat : history.OperationAt operationId attempt index record) (hnone : record.receipt = none)
    (receiptId : ReceiptId) : ¬ history.Owns receiptId (.object operationId) := by
  rintro ⟨found, hheld, hown⟩
  have hmem : .object operationId ∈ attempt.operationIds := object_mem_operationIds.2
    (hat.id_eq ▸ List.mem_map_of_mem (List.mem_of_getElem? hat.get))
  rw [h.eq_of_claims hheld hat.holds hown.mem_operationIds hmem] at hown
  obtain ⟨other, hother, hid, hreceipt⟩ := owns_object_iff.1 hown
  have heq : other = record := eq_of_objectId (h.wellFormed _ hat.holds) hother
    (List.mem_of_getElem? hat.get) (hid.trans hat.id_eq.symm)
  rw [heq, hnone] at hreceipt
  cases hreceipt

theorem acknowledgedOperation_eq_ok (h : Represents journal history)
    {receipt : BridgeOperationReceipt}
    (hat : history.OperationAt receipt.operationId attempt index record)
    (hnone : record.receipt = none) :
    journal.acknowledgedOperation record receipt = .ok updated ↔
      history.AdmitsReceipt record receipt ∧ record.acknowledge receipt = .ok updated := by
  simp only [acknowledgedOperation, bind_eq_ok, exists_unit, rewrap_eq_ok,
    h.not_received_iff (h.not_owns_operation hat hnone _)]
  constructor
  · rintro ⟨hfresh, ⟨hbound, hauth⟩, hack⟩
    exact ⟨⟨hnone, hfresh, hbound, hauth⟩, hack⟩
  · rintro ⟨hadmits, hack⟩
    exact ⟨hadmits.unclaimed, ⟨hadmits.bound, hadmits.authorized⟩, hack⟩

/-- Storing an object record that got its receipt, and claiming the receipt. -/
theorem storeOperationReceipt (h : Represents journal history) {receipt : BridgeOperationReceipt}
    (hat : history.OperationAt receipt.operationId attempt index record)
    (hadmits : history.AdmitsReceipt record receipt)
    (hack : record.acknowledge receipt = .ok updated)
    (hwf : (attempt.setOperation index updated).WellFormed) :
    Represents ((journal.withAttempt (attempt.setOperation index updated)).withReceipt
        receipt.receiptId (.object receipt.operationId))
      (history.set (attempt.setOperation index updated)) := by
  obtain ⟨_, _, hupdated⟩ := BridgeOperationRecord.acknowledge_eq_ok.1 hack
  refine h.storeReceipt hat.holds (sameIds_setOperation hat.get (by rw [hupdated])) ?_
    hadmits.unclaimed hwf
  rw [← hat.id_eq]
  exact owns_setOperation_receipt hat.get (by rw [hupdated]) hadmits.missing
    (by rw [hupdated]; rfl)

theorem recordReceipt_sound (h : Represents journal history) {receipt : BridgeOperationReceipt}
    (hrun : (recordReceipt receipt).run journal = (.ok record, next)) :
    ∃ history', HistoryStep history (.recordReceipt receipt) (.operation record) history'
      ∧ Represents next history' := by
  simp only [recordReceipt, Method.run_get_bind, Method.run_lift_bind_ok,
    h.getOperation_eq_ok] at hrun
  obtain ⟨_, hpost, found, ⟨attempt, index, hat⟩, hrun⟩ := hrun
  cases hreceipt : found.receipt with
  | some existing =>
    rw [hreceipt] at hrun
    obtain ⟨hsame, hrun⟩ := Method.run_require_bind_ok.1 hrun
    obtain ⟨rfl, rfl⟩ := Method.run_pure_ok.1 hrun
    exact ⟨history, .recordReceipt_again hpost hat (hsame ▸ hreceipt), h⟩
  | none =>
    rw [hreceipt] at hrun
    obtain ⟨updated, hnew, hrun⟩ := Method.run_lift_bind_ok.1 hrun
    obtain ⟨hadmits, hack⟩ := (h.acknowledgedOperation_eq_ok hat hreceipt).1 hnew
    obtain ⟨_, _, hupdated⟩ := BridgeOperationRecord.acknowledge_eq_ok.1 hack
    have hid : updated.intent.operationId = receipt.operationId := by rw [hupdated, hat.id_eq]
    rw [Method.run_bind_ok_iff (h.run_replaceObject (hid.symm ▸ hat))] at hrun
    obtain ⟨⟨_, hwf⟩, hrun⟩ := hrun
    rw [Method.run_modify_bind] at hrun
    obtain ⟨rfl, rfl⟩ := Method.run_pure_ok.1 hrun
    exact ⟨_, .recordReceipt hpost hat hadmits hack hwf,
      h.storeOperationReceipt hat hadmits hack hwf⟩

theorem recordReceipt_complete (h : Represents journal history)
    {receipt : BridgeOperationReceipt}
    (hstep : HistoryStep history (.recordReceipt receipt) result history') :
    ∃ record next, result = .operation record
      ∧ (recordReceipt receipt).run journal = (.ok record, next)
      ∧ Represents next history' := by
  simp only [recordReceipt, Method.run_get_bind, Method.run_lift_bind_ok, h.getOperation_eq_ok]
  cases hstep with
  | @recordReceipt_again _ attempt index record hpost hat hreceipt =>
    refine ⟨record, journal, rfl, ⟨(), hpost, record, ⟨attempt, index, hat⟩, ?_⟩, h⟩
    rw [hreceipt]
    exact Method.run_require_bind_ok.2 ⟨rfl, Method.run_pure_ok.2 ⟨rfl, rfl⟩⟩
  | @recordReceipt _ attempt index record updated hpost hat hadmits hack hwf =>
    obtain ⟨_, _, hupdated⟩ := BridgeOperationRecord.acknowledge_eq_ok.1 hack
    have hid : updated.intent.operationId = receipt.operationId := by rw [hupdated, hat.id_eq]
    refine ⟨updated, _, rfl, ⟨(), hpost, record, ⟨attempt, index, hat⟩, ?_⟩,
      h.storeOperationReceipt hat hadmits hack hwf⟩
    rw [hadmits.missing]
    refine Method.run_lift_bind_ok.2
      ⟨updated, (h.acknowledgedOperation_eq_ok hat hadmits.missing).2 ⟨hadmits, hack⟩, ?_⟩
    rw [Method.run_bind_ok_iff (h.run_replaceObject (hid.symm ▸ hat)), Method.run_modify_bind]
    exact ⟨⟨Or.inl fun hboth => hboth.2 rfl, hwf⟩, Method.run_pure_ok.2 ⟨rfl, rfl⟩⟩

/-! ## Verifications -/

theorem appendVerification_eq_ok {verification : BridgeOperationVerification} :
    appendVerification record verification = .ok updated ↔
      (record.state = .acknowledged ∧ record.verify verification = .ok updated)
        ∨ (record.state = .verified ∧ record.refreshVerification verification = .ok updated) := by
  unfold appendVerification
  cases record.state <;> simp

/-- An appended verification keeps the intent and the receipt. -/
theorem appendVerification_keeps {verification : BridgeOperationVerification}
    (h : appendVerification record verification = .ok updated) :
    updated.intent = record.intent ∧ updated.receipt = record.receipt := by
  rcases appendVerification_eq_ok.1 h with ⟨_, hverify⟩ | ⟨_, hrefresh⟩
  · obtain ⟨_, _, rfl⟩ := BridgeOperationRecord.verify_eq_ok.1 hverify
    exact ⟨rfl, rfl⟩
  · obtain ⟨_, _, _, rfl⟩ := BridgeOperationRecord.refreshVerification_eq_ok.1 hrefresh
    exact ⟨rfl, rfl⟩

theorem getAttempt_of_operationAt (h : Represents journal history)
    {operationId : ObjectOperationId}
    (hat : history.OperationAt operationId attempt index record) :
    journal.getAttempt record.intent.planId record.intent.attempt = .ok attempt := by
  have hbelongs := (h.wellFormed _ hat.holds).operations.belongs record
    (List.mem_of_getElem? hat.get)
  rw [hbelongs.1, hbelongs.2.2.2]
  exact h.getAttempt_self hat.holds

theorem verifiedOperation_eq_ok (h : Represents journal history)
    {verification : BridgeOperationVerification}
    (hat : history.OperationAt verification.operationId attempt index record)
    (hunknown : verification ∉ record.verifications) :
    journal.verifiedOperation record verification = .ok updated ↔
      History.AdmitsVerification attempt record verification
        ∧ appendVerification record verification = .ok updated := by
  simp only [verifiedOperation, bind_eq_ok, exists_unit, check_eq_ok,
    h.getAttempt_of_operationAt hat, Except.ok.injEq, exists_eq_left']
  cases hreceipt : record.receipt with
  | none =>
    simp only [reduceCtorEq, and_false, false_iff]
    rintro ⟨hadmits, _⟩
    obtain ⟨receipt, hsome, _⟩ := hadmits.bound
    rw [hreceipt] at hsome
    cases hsome
  | some receipt =>
    simp only [bind_eq_ok, exists_unit, rewrap_eq_ok]
    constructor
    · rintro ⟨hunsettled, hbound, hupdated⟩
      exact ⟨⟨hunknown, hunsettled, receipt, hreceipt, hbound⟩, hupdated⟩
    · rintro ⟨hadmits, hupdated⟩
      obtain ⟨_, hsome, hbound⟩ := hadmits.bound
      rw [hreceipt, Option.some.injEq] at hsome
      exact ⟨hadmits.unsettled, hsome ▸ hbound, hupdated⟩

theorem recordVerification_sound (h : Represents journal history)
    {verification : BridgeOperationVerification}
    (hrun : (recordVerification verification).run journal = (.ok record, next)) :
    ∃ history', HistoryStep history (.recordVerification verification) (.operation record)
      history' ∧ Represents next history' := by
  simp only [recordVerification, Method.run_get_bind, Method.run_lift_bind_ok,
    h.getOperation_eq_ok] at hrun
  obtain ⟨_, hpost, found, ⟨attempt, index, hat⟩, hrun⟩ := hrun
  split at hrun
  · rename_i hmem
    obtain ⟨rfl, rfl⟩ := Method.run_pure_ok.1 hrun
    exact ⟨history, .recordVerification_again hpost hat hmem, h⟩
  · rename_i hunknown
    obtain ⟨updated, hnew, hrun⟩ := Method.run_lift_bind_ok.1 hrun
    obtain ⟨hadmits, happend⟩ := (h.verifiedOperation_eq_ok hat hunknown).1 hnew
    obtain ⟨hintent, hreceipt⟩ := appendVerification_keeps happend
    have hid : updated.intent.operationId = verification.operationId := by
      rw [hintent, hat.id_eq]
    rw [Method.run_bind_ok_iff (h.run_replaceObject (hid.symm ▸ hat))] at hrun
    obtain ⟨⟨_, hwf⟩, hrun⟩ := hrun
    obtain ⟨rfl, rfl⟩ := Method.run_pure_ok.1 hrun
    exact ⟨_, .recordVerification hpost hat hadmits happend hwf,
      h.storeOperation hat hintent hreceipt hwf⟩

theorem recordVerification_complete (h : Represents journal history)
    {verification : BridgeOperationVerification}
    (hstep : HistoryStep history (.recordVerification verification) result history') :
    ∃ record next, result = .operation record
      ∧ (recordVerification verification).run journal = (.ok record, next)
      ∧ Represents next history' := by
  simp only [recordVerification, Method.run_get_bind, Method.run_lift_bind_ok,
    h.getOperation_eq_ok]
  cases hstep with
  | @recordVerification_again _ attempt index record hpost hat hmem =>
    refine ⟨record, journal, rfl, ⟨(), hpost, record, ⟨attempt, index, hat⟩, ?_⟩, h⟩
    rw [if_pos hmem]
    exact Method.run_pure_ok.2 ⟨rfl, rfl⟩
  | @recordVerification _ attempt index record updated hpost hat hadmits happend hwf =>
    obtain ⟨hintent, hreceipt⟩ := appendVerification_keeps happend
    have hid : updated.intent.operationId = verification.operationId := by
      rw [hintent, hat.id_eq]
    refine ⟨updated, _, rfl, ⟨(), hpost, record, ⟨attempt, index, hat⟩, ?_⟩,
      h.storeOperation hat hintent hreceipt hwf⟩
    rw [if_neg hadmits.unknown, Method.run_lift_bind_ok]
    refine ⟨updated, (h.verifiedOperation_eq_ok hat hadmits.unknown).2 ⟨hadmits, happend⟩, ?_⟩
    rw [Method.run_bind_ok_iff (h.run_replaceObject (hid.symm ▸ hat))]
    exact ⟨⟨Or.inl fun hboth => hboth.2 rfl, hwf⟩, Method.run_pure_ok.2 ⟨rfl, rfl⟩⟩

/-! ## Blocking -/

theorem blockOperation_sound (h : Represents journal history)
    {operationId : ObjectOperationId} {reasonCode : BridgeBlockReason}
    (hrun : (blockOperation operationId reasonCode).run journal = (.ok record, next)) :
    ∃ history', HistoryStep history (.blockOperation operationId reasonCode)
      (.operation record) history' ∧ Represents next history' := by
  simp only [blockOperation, Method.run_get_bind, Method.run_lift_bind_ok,
    h.getOperation_eq_ok] at hrun
  obtain ⟨found, ⟨attempt, index, hat⟩, hrun⟩ := hrun
  split at hrun
  · rename_i hstate
    obtain ⟨hreason, hrun⟩ := Method.run_require_bind_ok.1 hrun
    obtain ⟨rfl, rfl⟩ := Method.run_pure_ok.1 hrun
    exact ⟨history, .blockOperation_again hat hstate hreason, h⟩
  · simp only [Method.run_lift_bind_ok, Method.run_require_bind_ok] at hrun
    obtain ⟨location, hloc, current, hget, hopen, updated, hblock, _, _, hrun⟩ := hrun
    rw [h.objectLocation_of_at hat, Except.ok.injEq] at hloc
    subst hloc
    rw [h.getAttempt_self hat.holds, Except.ok.injEq] at hget
    subst hget
    rw [Method.run_bind_ok_iff (fun _ _ => run_storeAttempt)] at hrun
    obtain ⟨hwf, hrun⟩ := hrun
    obtain ⟨rfl, rfl⟩ := Method.run_pure_ok.1 hrun
    exact ⟨_, .blockOperation hat hopen hblock hwf, h.storeBlockedOperation hat hblock hwf⟩

theorem blockOperation_complete (h : Represents journal history)
    {operationId : ObjectOperationId} {reasonCode : BridgeBlockReason}
    (hstep : HistoryStep history (.blockOperation operationId reasonCode) result history') :
    ∃ record next, result = .operation record
      ∧ (blockOperation operationId reasonCode).run journal = (.ok record, next)
      ∧ Represents next history' := by
  simp only [blockOperation, Method.run_get_bind, Method.run_lift_bind_ok, h.getOperation_eq_ok]
  cases hstep with
  | @blockOperation_again _ _ attempt index record hat hstate hreason =>
    refine ⟨record, journal, rfl, ⟨record, ⟨attempt, index, hat⟩, ?_⟩, h⟩
    rw [if_pos hstate]
    exact Method.run_require_bind_ok.2 ⟨hreason, Method.run_pure_ok.2 ⟨rfl, rfl⟩⟩
  | @blockOperation _ _ attempt index record updated hat hopen hblock hwf =>
    have hstate := (BridgeOperationRecord.block_eq_ok.1 hblock).1
    refine ⟨updated, _, rfl, ⟨record, ⟨attempt, index, hat⟩, ?_⟩,
      h.storeBlockedOperation hat hblock hwf⟩
    rw [if_neg hstate]
    simp only [Method.run_lift_bind_ok, Method.run_require_bind_ok]
    refine ⟨_, h.objectLocation_of_at hat, attempt, h.getAttempt_self hat.holds, hopen, updated,
      hblock, (), BridgeOperationAttempt.postInit_eq_ok.2 hwf, ?_⟩
    rw [Method.run_bind_ok_iff (fun _ _ => run_storeAttempt)]
    exact ⟨hwf, Method.run_pure_ok.2 ⟨rfl, rfl⟩⟩

end Represents

end TrueFamily.Transaction
