import TrueFamily.Transaction.AttemptValidity

/-!
# The validator accepts exactly the valid attempts

Each loop of `_validate_attempt` has one lemma that gives the closed form of its accumulators and
the facts its body established. `validateAttempt_eq_ok` puts them together.
-/

namespace TrueFamily.Transaction

open Checked Sorting

variable [DigestJson]

/-! ## The loops -/

omit [DigestJson] in
theorem claimOperationId_eq_ok {operationIds : List OperationId} {operationId : OperationId} :
    claimOperationId operationIds operationId = .ok () ↔ operationId ∉ operationIds := by
  simp [claimOperationId]

omit [DigestJson] in
theorem claimLocalReceipt_eq_ok {receiptIds : List ReceiptId} {receiptId : Option ReceiptId} :
    claimLocalReceipt receiptIds receiptId = .ok () ↔
      ∀ id, receiptId = some id → id ∉ receiptIds := by
  simp [claimLocalReceipt, Option.mem_toList]

/-- What the acquisition loop has built after `before`. -/
def acquisitionScan (before : List FenceAcquisitionRecord) : AcquisitionScan where
  operationIds := before.map fun item => .acquire item.intent.operationId
  receiptIds := before.filterMap AcquisitionRecord.receiptId?
  acquisitionById := Dict.comprehension (·.intent.operationId) id before
  providerEpoch := Dict.comprehension (·.intent.provider) (·.intent.epoch) before

omit [DigestJson] in
private theorem filterMap_singleton {α β : Type} (f : α → Option β) (x : α) :
    [x].filterMap f = (f x).toList := by
  cases h : f x <;> simp [h]

omit [DigestJson] in
theorem foldl_acquisitionScan (before : List FenceAcquisitionRecord) :
    before.foldl AcquisitionScan.next {} = acquisitionScan before := by
  induction before using List.reverseRecOn with
  | nil => rfl
  | append_singleton before last ih =>
    rw [List.foldl_append, ih]
    simp only [List.foldl_cons, List.foldl_nil, AcquisitionScan.next, acquisitionScan,
      Dict.comprehension_concat, List.map_append, List.filterMap_append, filterMap_singleton]
    rfl

theorem acquisitionLoop_eq_ok {attempt : BridgeOperationAttempt} {scan : AcquisitionScan} :
    (sortedBy acquisitionSortKey attempt.acquisitions = attempt.acquisitions ∧
      forEach (AcquisitionScan.body attempt) AcquisitionScan.next {} attempt.acquisitions
        = .ok scan) ↔
      scan = acquisitionScan attempt.acquisitions
        ∧ AcquisitionsWellFormed attempt
        ∧ (acquisitionScan attempt.acquisitions).operationIds.Nodup
        ∧ (acquisitionScan attempt.acquisitions).receiptIds.Nodup := by
  have hepochs := forallSplit_group_iff_pairwise (fun item => item.intent.provider)
    (R := fun a b => a.intent.epoch < b.intent.epoch) (fun _ _ _ h h' => lt_trans h h')
    attempt.acquisitions
  have hids := forallSplit_notMem_iff_nodup
    (fun item => some (OperationId.acquire item.intent.operationId)) List.nodup_nil
    attempt.acquisitions
  have hreceipts := forallSplit_notMem_iff_nodup AcquisitionRecord.receiptId? List.nodup_nil
    attempt.acquisitions
  simp only [Option.some.injEq, forall_eq', List.filterMap_eq_map', List.nil_append]
    at hids hreceipts
  rw [forEach_eq_ok_iff, sortedBy_eq_self_iff]
  simp only [foldl_acquisitionScan, AcquisitionScan.body, bind_unit_eq_ok,
    LifecycleRecord.postInit_eq_ok, check_eq_ok, forAll_eq_ok, Option.mem_toList,
    claimOperationId_eq_ok, claimLocalReceipt_eq_ok, acquisitionScan, Dict.get?_comprehension,
    Option.map_eq_some_iff, forall_exists_index, and_imp, forall_apply_eq_imp_iff₂,
    forallSplit_and, forallSplit_const, hepochs, hids, hreceipts]
  constructor
  · rintro ⟨hsorted, hscan, hwf, hbelongs, hepochs, hids, hreceipts⟩
    exact ⟨hscan, ⟨hsorted, hwf, hbelongs, hepochs⟩, hids, hreceipts⟩
  · rintro ⟨hscan, ⟨hsorted, hwf, hbelongs, hepochs⟩, hids, hreceipts⟩
    exact ⟨hsorted, hscan, hwf, hbelongs, hepochs, hids, hreceipts⟩

/-- What the operation loop has built after `before`, from the claims of the acquisitions. -/
def operationScan (operationIds : List OperationId) (receiptIds : List ReceiptId)
    (before : List BridgeOperationRecord) : OperationScan where
  operationIds := operationIds ++ before.map fun item => .object item.intent.operationId
  receiptIds := receiptIds ++ before.filterMap fun item => item.receipt.map (·.receiptId)
  writesByKey := Dict.comprehension (·.intent.key) id
    (before.filter fun item => decide (item.intent.kind = .write))
  writesById := Dict.comprehension (·.intent.operationId) id
    (before.filter fun item => decide (item.intent.kind = .write))
  rollbacks := Dict.groupBy (·.intent.parentOperationId)
    (before.filter fun item => decide (item.intent.kind ≠ .write))
  objectEpoch := Dict.comprehension (·.intent.provider) (·.intent.fence.epoch) before
  count := before.length

omit [DigestJson] in
theorem foldl_operationScan (operationIds : List OperationId) (receiptIds : List ReceiptId)
    (before : List BridgeOperationRecord) :
    before.foldl OperationScan.next { operationIds, receiptIds }
      = operationScan operationIds receiptIds before := by
  induction before using List.reverseRecOn with
  | nil => simp [operationScan, Dict.comprehension, Dict.groupBy]
  | append_singleton before last ih =>
    rw [List.foldl_append, ih]
    simp only [List.foldl_cons, List.foldl_nil, OperationScan.next, operationScan,
      Dict.comprehension_concat, List.map_append, List.filterMap_append, List.filter_append,
      List.length_append, filterMap_singleton, List.append_assoc]
    by_cases hk : last.intent.kind = .write
    · simp [hk, Dict.comprehension_concat]
    · simp [hk, Dict.groupBy_concat]

omit [DigestJson] in
/-- Looking an acquisition up by its ID finds the member with that ID. -/
theorem acquisitionById_eq_some_iff {attempt : BridgeOperationAttempt}
    (hids : (acquisitionScan attempt.acquisitions).operationIds.Nodup)
    {acquisitionId : AcquireOperationId} {record : FenceAcquisitionRecord} :
    (acquisitionScan attempt.acquisitions).acquisitionById.get? acquisitionId = some record ↔
      record ∈ attempt.acquisitions ∧ record.intent.operationId = acquisitionId := by
  have hnodup : (attempt.acquisitions.map fun item => item.intent.operationId).Nodup := by
    have hmap : (acquisitionScan attempt.acquisitions).operationIds
        = (attempt.acquisitions.map fun item => item.intent.operationId).map .acquire := by
      simp [acquisitionScan]
    rw [hmap] at hids
    exact hids.of_map _
  simp only [acquisitionScan]
  rw [Dict.get?_comprehension_eq_some_iff hnodup]
  constructor
  · intro ⟨x, hx, hid, heq⟩
    exact heq ▸ ⟨hx, hid⟩
  · intro ⟨hmem, hid⟩
    exact ⟨record, hmem, hid, rfl⟩

omit [DigestJson] in
theorem acquiresFence_iff {attempt : BridgeOperationAttempt} {fence : FenceBinding}
    (hids : (acquisitionScan attempt.acquisitions).operationIds.Nodup) :
    acquiresFence ((acquisitionScan attempt.acquisitions).acquisitionById.get?
        fence.acquisitionOperationId) fence ↔
      ∃ acquisition receipt, Fenced attempt fence acquisition receipt := by
  simp only [acquiresFence, Option.map_eq_some_iff, Option.bind_eq_some_iff,
    acquisitionById_eq_some_iff hids]
  constructor
  · intro ⟨receipt, ⟨acquisition, ⟨hmem, hid⟩, hack⟩, hbinding⟩
    exact ⟨acquisition, receipt, hmem, hid, hack, hbinding⟩
  · intro ⟨acquisition, receipt, h⟩
    exact ⟨receipt, ⟨acquisition, ⟨h.mem, h.operationId_eq⟩, h.acknowledged⟩, h.binding_eq⟩

omit [DigestJson] in
/-- Looking an expected write up by its key finds the member with that key. -/
theorem expectedByKey_eq_some_iff {expectedWrites : List BridgeExpectedWrite}
    (hsorted : expectedWrites.Pairwise fun a b => a.key < b.key) {key : ObjectKey}
    {spec : BridgeExpectedWrite} :
    (Dict.comprehension BridgeExpectedWrite.key id expectedWrites).get? key = some spec ↔
      spec ∈ expectedWrites ∧ spec.key = key := by
  have hnodup : (expectedWrites.map BridgeExpectedWrite.key).Nodup := by
    rw [List.nodup_iff_pairwise_ne, List.pairwise_map]
    exact hsorted.imp fun h => ne_of_lt h
  rw [Dict.get?_comprehension_eq_some_iff hnodup]
  constructor
  · intro ⟨x, hx, hkey, heq⟩
    exact heq ▸ ⟨hx, hkey⟩
  · intro ⟨hmem, hkey⟩
    exact ⟨spec, hmem, hkey, rfl⟩

omit [DigestJson] in
theorem key_eq_of_matches {intent : BridgeOperationIntent} {spec : BridgeExpectedWrite}
    (h : intentMatchesExpected intent spec) : spec.key = intent.key := by
  rw [BridgeExpectedWrite.key, BridgeOperationIntent.key, h.2.1, h.2.2.1]

omit [DigestJson] in
theorem validateWrite_eq_ok {expectedWrites : List BridgeExpectedWrite}
    (hsorted : expectedWrites.Pairwise fun a b => a.key < b.key)
    {operationIds : List OperationId} {receiptIds : List ReceiptId}
    {before : List BridgeOperationRecord} {intent : BridgeOperationIntent} :
    OperationScan.validateWrite (Dict.comprehension BridgeExpectedWrite.key id expectedWrites)
        (operationScan operationIds receiptIds before) intent = .ok () ↔
      (∃ spec ∈ expectedWrites, intentMatchesExpected intent spec)
        ∧ ∀ previous ∈ before, previous.intent.kind = .write →
          previous.intent.key ≠ intent.key := by
  have hfree : (operationScan operationIds receiptIds before).writesByKey.get? intent.key = none ↔
      ∀ previous ∈ before, previous.intent.kind = .write → previous.intent.key ≠ intent.key := by
    simp [operationScan, Dict.get?_comprehension_eq_none_iff]
  unfold OperationScan.validateWrite
  cases hget : (Dict.comprehension BridgeExpectedWrite.key id expectedWrites).get? intent.key with
  | none =>
    simp only [reduceCtorEq, false_iff]
    rintro ⟨⟨spec, hmem, hmatch⟩, _⟩
    rw [(expectedByKey_eq_some_iff hsorted).2 ⟨hmem, key_eq_of_matches hmatch⟩] at hget
    cases hget
  | some spec =>
    have hspec := (expectedByKey_eq_some_iff hsorted).1 hget
    simp only [bind_unit_eq_ok, check_eq_ok, hspec.2, hfree]
    constructor
    · rintro ⟨hmatch, hnone⟩
      exact ⟨⟨spec, hspec.1, hmatch⟩, hnone⟩
    · rintro ⟨⟨spec', hmem, hmatch⟩, hnone⟩
      -- Two expected writes with one key are the same.
      have hsame := (expectedByKey_eq_some_iff hsorted).2 ⟨hmem, key_eq_of_matches hmatch⟩
      rw [hget] at hsame
      rw [Option.some.inj hsame]
      exact ⟨hmatch, hnone⟩

omit [DigestJson] in
/-- Looking a write up by its ID finds the earlier write with that ID. -/
theorem writesById_eq_some_iff {operationIds : List OperationId} {receiptIds : List ReceiptId}
    {before : List BridgeOperationRecord}
    (hids : (before.map fun item => item.intent.operationId).Nodup)
    {operationId : ObjectOperationId} {record : BridgeOperationRecord} :
    (operationScan operationIds receiptIds before).writesById.get? operationId = some record ↔
      record ∈ before ∧ record.intent.kind = .write ∧ record.intent.operationId = operationId := by
  have hnodup : ((before.filter fun item => decide (item.intent.kind = .write)).map
      fun item => item.intent.operationId).Nodup :=
    hids.sublist ((List.filter_sublist).map _)
  simp only [operationScan]
  rw [Dict.get?_comprehension_eq_some_iff hnodup]
  constructor
  · intro ⟨x, hx, hid, heq⟩
    rw [List.mem_filter] at hx
    exact heq ▸ ⟨hx.1, by simpa using hx.2, hid⟩
  · intro ⟨hmem, hkind, hid⟩
    exact ⟨record, List.mem_filter.2 ⟨hmem, by simpa using hkind⟩, hid, rfl⟩

omit [DigestJson] in
theorem getD_rollbacks (operationIds : List OperationId) (receiptIds : List ReceiptId)
    (before : List BridgeOperationRecord) (parentId : ObjectOperationId) :
    ((operationScan operationIds receiptIds before).rollbacks.get? (some parentId)).getD []
      = rollbackChain before parentId := by
  simp only [operationScan]
  rw [Dict.getD_get?_groupBy, List.filter_filter, rollbackChain]
  refine List.filter_congr fun item _ => ?_
  rw [← Bool.decide_and, decide_eq_decide]
  exact and_comm

omit [DigestJson] in
theorem validateRollback_eq_ok {operationIds : List OperationId} {receiptIds : List ReceiptId}
    {before : List BridgeOperationRecord}
    (hids : (before.map fun item => item.intent.operationId).Nodup)
    {record : BridgeOperationRecord} :
    (operationScan operationIds receiptIds before).validateRollback record.intent = .ok () ↔
      ∃ parent, RollbackAdmitted before record parent := by
  have hparent : ∀ parent, record.intent.parentOperationId.bind
        (operationScan operationIds receiptIds before).writesById.get? = some parent ↔
      parent ∈ before ∧ parent.intent.kind = .write
        ∧ record.intent.parentOperationId = some parent.intent.operationId := by
    intro parent
    simp only [Option.bind_eq_some_iff, writesById_eq_some_iff hids]
    constructor
    · rintro ⟨parentId, hid, hmem, hkind, heq⟩
      exact ⟨hmem, hkind, heq ▸ hid⟩
    · rintro ⟨hmem, hkind, heq⟩
      exact ⟨_, heq, hmem, hkind, rfl⟩
  unfold OperationScan.validateRollback
  split
  · rename_i hnone
    simp only [reduceCtorEq, false_iff]
    rintro ⟨parent, h⟩
    rw [(hparent parent).2 ⟨h.mem, h.kind_eq, h.parent_eq⟩] at hnone
    cases hnone
  · rename_i parent hsome
    have hfound := (hparent parent).1 hsome
    simp only [bind_eq_ok, exists_unit, check_eq_ok, getD_rollbacks]
    -- The parent is determined by its ID, so the code's parent is the only candidate.
    have hunique : ∀ parent', RollbackAdmitted before record parent' → parent' = parent := by
      intro parent' h
      have hsome' := (hparent parent').2 ⟨h.mem, h.kind_eq, h.parent_eq⟩
      exact Option.some.inj (hsome'.symm.trans hsome)
    unfold OperationScan.requiredEpoch
    cases hlast : (rollbackChain before parent.intent.operationId).getLast? with
    | none =>
      have hnil : rollbackChain before parent.intent.operationId = [] :=
        List.getLast?_eq_none_iff.1 hlast
      constructor
      · rintro ⟨heligible, n, hn, hundoes⟩
        cases hn
        exact ⟨parent, hfound.1, hfound.2.1, hfound.2.2, heligible, fun _ => hundoes,
          fun previous h => by rw [hlast] at h; cases h⟩
      · rintro ⟨parent', h⟩
        have heq := hunique parent' h
        subst heq
        exact ⟨h.eligible, _, rfl, h.first hnil⟩
    | some previous =>
      simp only [bind_unit_eq_ok, check_eq_ok, pure_eq_ok]
      constructor
      · rintro ⟨heligible, n, ⟨hproven, hn⟩, hundoes⟩
        subst hn
        refine ⟨parent, hfound.1, hfound.2.1, hfound.2.2, heligible, fun hnil => ?_,
          fun previous' h => ?_⟩
        · rw [hnil] at hlast
          cases hlast
        · rw [hlast] at h
          cases h
          exact ⟨hproven, hundoes⟩
      · rintro ⟨parent', h⟩
        have heq := hunique parent' h
        subst heq
        exact ⟨h.eligible, _, ⟨(h.retry previous hlast).1, rfl⟩, (h.retry previous hlast).2⟩

omit [DigestJson] in
theorem validateKind_eq_ok {expectedByKey : Dict ObjectKey BridgeExpectedWrite}
    {scan : OperationScan} {intent : BridgeOperationIntent} :
    OperationScan.validateKind expectedByKey scan intent = .ok () ↔
      (intent.kind = .write → OperationScan.validateWrite expectedByKey scan intent = .ok ())
        ∧ (intent.kind ≠ .write → scan.validateRollback intent = .ok ()) := by
  unfold OperationScan.validateKind
  cases intent.kind <;> simp

theorem operationLoop_eq_ok {attempt : BridgeOperationAttempt} {scan : OperationScan}
    (hsorted : attempt.expectedWrites.Pairwise fun a b => a.key < b.key)
    (hids : (acquisitionScan attempt.acquisitions).operationIds.Nodup)
    (hreceipts : (acquisitionScan attempt.acquisitions).receiptIds.Nodup) :
    let acquired := acquisitionScan attempt.acquisitions
    let closed := operationScan acquired.operationIds acquired.receiptIds attempt.operations
    forEach (OperationScan.body attempt acquired.acquisitionById
        (Dict.comprehension BridgeExpectedWrite.key id attempt.expectedWrites))
      OperationScan.next
      { operationIds := acquired.operationIds, receiptIds := acquired.receiptIds }
      attempt.operations = .ok scan ↔
      scan = closed ∧ OperationsWellFormed attempt
        ∧ closed.operationIds.Nodup ∧ closed.receiptIds.Nodup := by
  intro acquired closed
  have hepochs := forallSplit_group_iff_pairwise (fun item => item.intent.provider)
    (R := fun a b => a.intent.fence.epoch ≤ b.intent.fence.epoch) (fun _ _ _ h h' => le_trans h h')
    attempt.operations
  have hclaims := forallSplit_notMem_iff_nodup
    (fun item => some (OperationId.object item.intent.operationId)) hids attempt.operations
  have hlocal := forallSplit_notMem_iff_nodup (fun item => item.receipt.map (·.receiptId))
    hreceipts attempt.operations
  simp only [Option.some.injEq, forall_eq', List.filterMap_eq_map'] at hclaims
  have honce := forallSplit_forall_mem
    (fun a b => a.intent.kind = .write → b.intent.kind = .write → a.intent.key ≠ b.intent.key)
    attempt.operations
  have hwrites : ForallSplit (fun before item => item.intent.kind = .write →
        OperationScan.validateWrite
          (Dict.comprehension BridgeExpectedWrite.key id attempt.expectedWrites)
          (operationScan acquired.operationIds acquired.receiptIds before) item.intent = .ok ())
        attempt.operations ↔
      (∀ item ∈ attempt.operations, item.intent.kind = .write →
        ∃ spec ∈ attempt.expectedWrites, intentMatchesExpected item.intent spec)
      ∧ attempt.operations.Pairwise fun a b =>
        a.intent.kind = .write → b.intent.kind = .write → a.intent.key ≠ b.intent.key := by
    rw [← honce, ← forallSplit_const, ← forallSplit_and]
    refine forallSplit_congr fun before item after _ => ?_
    rw [validateWrite_eq_ok hsorted, imp_and]
    refine and_congr_right fun _ => ?_
    exact ⟨fun h previous hp hk hi => h hi previous hp hk,
      fun h hi previous hp hk => h previous hp hk hi⟩
  rw [forEach_eq_ok_iff]
  simp only [foldl_operationScan, OperationScan.body, bind_unit_eq_ok, check_eq_ok,
    BridgeOperationRecord.postInit_eq_ok, forAll_eq_ok, Option.mem_toList,
    claimOperationId_eq_ok, claimLocalReceipt_eq_ok, acquiresFence_iff hids, acquired,
    validateKind_eq_ok, forallSplit_and, forallSplit_const]
  -- The rollback branch looks its parent up by ID, so it needs the earlier IDs distinct.
  have hrollbacks : closed.operationIds.Nodup →
      (ForallSplit (fun before item => item.intent.kind ≠ .write →
          (operationScan acquired.operationIds acquired.receiptIds before).validateRollback
            item.intent = .ok ()) attempt.operations ↔
        ForallSplit (fun before item => item.intent.kind ≠ .write →
          ∃ parent, RollbackAdmitted before item parent) attempt.operations) := by
    intro hnodup
    refine forallSplit_congr fun before item after hsplit => imp_congr_right fun _ => ?_
    refine validateRollback_eq_ok ?_
    have hobjects : (attempt.operations.map fun item =>
        OperationId.object item.intent.operationId).Nodup := (List.nodup_append.1 hnodup).2.1
    rw [hsplit, List.map_append, List.nodup_append] at hobjects
    have hbefore := hobjects.1
    rw [← Function.comp_def OperationId.object, ← List.map_map] at hbefore
    exact hbefore.of_map _
  have hepoch : ForallSplit (fun before item => ∀ epoch,
        (operationScan acquired.operationIds acquired.receiptIds before).objectEpoch.get?
          item.intent.provider = some epoch → epoch ≤ item.intent.fence.epoch)
        attempt.operations ↔
      attempt.operations.Pairwise fun a b =>
        a.intent.provider = b.intent.provider → a.intent.fence.epoch ≤ b.intent.fence.epoch := by
    rw [← hepochs]
    simp only [operationScan, Dict.get?_comprehension, Option.map_eq_some_iff,
      forall_exists_index, and_imp, forall_apply_eq_imp_iff₂]
  constructor
  · rintro ⟨hscan, hwf, ⟨hbelongs, hsequence⟩, hfree, hfenced, hep, hrec, hfresh, hw, hr⟩
    have hnodup : closed.operationIds.Nodup := hclaims.1 hfree
    exact ⟨hscan, ⟨hwf, hbelongs, hsequence, hfenced, hepoch.1 hep, hfresh, (hwrites.1 hw).1,
      (hwrites.1 hw).2, (hrollbacks hnodup).1 hr⟩, hnodup, hlocal.1 hrec⟩
  · rintro ⟨hscan, h, hnodup, hrec⟩
    exact ⟨hscan, h.record_wf, ⟨h.belongs, h.sequence⟩, hclaims.2 hnodup, h.fenced,
      hepoch.2 h.epochs, hlocal.2 hrec, h.fresh, hwrites.2 ⟨h.covered, h.write_once⟩,
      (hrollbacks hnodup).2 h.rollback⟩

/-- What the release loop has built after `before`, from the earlier claims. -/
def releaseScan (operationIds : List OperationId) (receiptIds : List ReceiptId)
    (before : List FenceReleaseRecord) : ReleaseScan where
  operationIds := operationIds ++ before.map fun item => .release item.intent.operationId
  receiptIds := receiptIds ++ before.filterMap ReleaseRecord.receiptId?
  releasesByAcquisition := Dict.groupBy (·.intent.acquisitionOperationId) before

omit [DigestJson] in
theorem foldl_releaseScan (operationIds : List OperationId) (receiptIds : List ReceiptId)
    (before : List FenceReleaseRecord) :
    before.foldl ReleaseScan.next { operationIds, receiptIds }
      = releaseScan operationIds receiptIds before := by
  induction before using List.reverseRecOn with
  | nil => simp [releaseScan, Dict.groupBy]
  | append_singleton before last ih =>
    rw [List.foldl_append, ih]
    simp only [List.foldl_cons, List.foldl_nil, ReleaseScan.next, releaseScan,
      Dict.groupBy_concat, List.map_append, List.filterMap_append, filterMap_singleton,
      List.append_assoc]
    rfl

omit [DigestJson] in
theorem validateAcquired_eq_ok {attempt : BridgeOperationAttempt} {source : FenceReleaseIntent}
    (hids : (acquisitionScan attempt.acquisitions).operationIds.Nodup) :
    ReleaseScan.validateAcquired (acquisitionScan attempt.acquisitions).acquisitionById source
        = .ok () ↔
      ∃ acquisition ∈ attempt.acquisitions,
        acquisition.intent.operationId = source.acquisitionOperationId
          ∧ ∃ receipt, source.Releases acquisition receipt := by
  unfold ReleaseScan.validateAcquired
  split
  · rename_i hnone
    simp only [reduceCtorEq, false_iff]
    intro ⟨acquisition, hmem, hid, _⟩
    rw [(acquisitionById_eq_some_iff hids).2 ⟨hmem, hid⟩] at hnone
    cases hnone
  · rename_i acquisition hsome
    have hfound := (acquisitionById_eq_some_iff hids).1 hsome
    rw [validateReleaseIntentAcquisition_eq_ok]
    constructor
    · intro h
      exact ⟨acquisition, hfound.1, hfound.2, h⟩
    · intro ⟨acquisition', hmem, hid, h⟩
      have hsame := (acquisitionById_eq_some_iff hids).2 ⟨hmem, hid⟩
      rw [hsome] at hsame
      rw [Option.some.inj hsame]
      exact h

theorem releaseLoop_eq_ok {attempt : BridgeOperationAttempt} {scan : ReleaseScan}
    {operationIds : List OperationId} {receiptIds : List ReceiptId}
    (hids : (acquisitionScan attempt.acquisitions).operationIds.Nodup)
    (hclaimed : operationIds.Nodup) (hreceipts : receiptIds.Nodup) :
    let closed := releaseScan operationIds receiptIds attempt.releases
    forEach (ReleaseScan.body attempt (acquisitionScan attempt.acquisitions).acquisitionById)
      ReleaseScan.next { operationIds, receiptIds } attempt.releases = .ok scan ↔
      scan = closed
        ∧ (∀ item ∈ attempt.releases, item.WellFormed)
        ∧ (∀ item ∈ attempt.releases, belongsTo item.intent.planId item.intent.planDigest
          item.intent.manifestDigest item.intent.attempt attempt)
        ∧ (∀ item ∈ attempt.releases, ∃ acquisition ∈ attempt.acquisitions,
          acquisition.intent.operationId = item.intent.acquisitionOperationId
            ∧ ∃ receipt, item.intent.Releases acquisition receipt)
        ∧ closed.operationIds.Nodup ∧ closed.receiptIds.Nodup := by
  intro closed
  have hclaims := forallSplit_notMem_iff_nodup
    (fun item => some (OperationId.release item.intent.operationId)) hclaimed attempt.releases
  have hlocal := forallSplit_notMem_iff_nodup ReleaseRecord.receiptId? hreceipts attempt.releases
  simp only [Option.some.injEq, forall_eq', List.filterMap_eq_map'] at hclaims
  rw [forEach_eq_ok_iff]
  simp only [foldl_releaseScan, ReleaseScan.body, bind_unit_eq_ok, check_eq_ok,
    LifecycleRecord.postInit_eq_ok, claimOperationId_eq_ok, claimLocalReceipt_eq_ok,
    validateAcquired_eq_ok hids, forallSplit_and, forallSplit_const]
  constructor
  · rintro ⟨hscan, hwf, hbelongs, hfree, hacquired, hrec⟩
    exact ⟨hscan, hwf, hbelongs, hacquired, hclaims.1 hfree, hlocal.1 hrec⟩
  · rintro ⟨hscan, hwf, hbelongs, hacquired, hnodup, hrec⟩
    exact ⟨hscan, hwf, hbelongs, hclaims.2 hnodup, hacquired, hlocal.2 hrec⟩

/-! ## Releases and fence order -/

omit [DigestJson] in
theorem validateReleasedOperations_eq_ok {attempt : BridgeOperationAttempt}
    {acquisitionId : AcquireOperationId} {first : FenceReleaseRecord} :
    validateReleasedOperations attempt acquisitionId first = .ok () ↔
      EffectsSettled attempt acquisitionId first.intent.requestedAt := by
  simp only [validateReleasedOperations, bind_unit_eq_ok, check_eq_ok, forAll_eq_ok,
    fencedOperations, List.mem_filter, decide_eq_true_eq, and_imp, EffectsSettled]
  constructor
  · rintro ⟨h, h'⟩ record hmem hid
    exact ⟨h record hmem hid, h' record hmem hid⟩
  · intro h
    exact ⟨fun record hmem hid => (h record hmem hid).1,
      fun record hmem hid => (h record hmem hid).2⟩

omit [DigestJson] in
theorem releaseChains_eq_ok {attempt : BridgeOperationAttempt}
    {operationIds : List OperationId} {receiptIds : List ReceiptId} :
    (∀ entry ∈ (releaseScan operationIds receiptIds
        attempt.releases).releasesByAcquisition.entries,
      validateReleaseChain attempt entry = .ok ()) ↔
      (∀ acquisitionId, ForallSplit
        (fun earlier release => release.intent.releaseAttempt = earlier.length + 1)
        (releaseChain attempt acquisitionId))
      ∧ (∀ acquisitionId, ForallSplit
        (fun earlier release => ∀ previous, earlier.getLast? = some previous →
          retriesRelease previous release.intent) (releaseChain attempt acquisitionId))
      ∧ ∀ acquisitionId first, (releaseChain attempt acquisitionId).head? = some first →
        EffectsSettled attempt acquisitionId first.intent.requestedAt := by
  have hchain : ∀ acquisitionId,
      validateReleaseChain attempt (acquisitionId, releaseChain attempt acquisitionId) = .ok () ↔
        ForallSplit (fun earlier release => release.intent.releaseAttempt = earlier.length + 1)
          (releaseChain attempt acquisitionId)
        ∧ ForallSplit (fun earlier release => ∀ previous, earlier.getLast? = some previous →
          retriesRelease previous release.intent) (releaseChain attempt acquisitionId)
        ∧ ∀ first, (releaseChain attempt acquisitionId).head? = some first →
          EffectsSettled attempt acquisitionId first.intent.requestedAt := by
    intro acquisitionId
    simp only [validateReleaseChain, validateReleaseRetry, bind_unit_eq_ok, forEachAfter_eq_ok,
      check_eq_ok, forAll_eq_ok, Option.mem_toList, forallSplit_and,
      validateReleasedOperations_eq_ok, and_assoc]
  have hentries : (∀ entry ∈ (releaseScan operationIds receiptIds
        attempt.releases).releasesByAcquisition.entries,
      validateReleaseChain attempt entry = .ok ()) ↔
      ∀ acquisitionId,
        validateReleaseChain attempt (acquisitionId, releaseChain attempt acquisitionId)
          = .ok () := by
    simp only [Dict.mem_entries_iff, releaseScan, Dict.get?_groupBy_eq_some_iff, Prod.forall]
    constructor
    · intro h acquisitionId
      by_cases hne : releaseChain attempt acquisitionId = []
      · rw [hchain, hne]
        simp
      · exact h acquisitionId _ ⟨rfl, hne⟩
    · rintro h acquisitionId chain ⟨hchain, _⟩
      rw [hchain]
      exact h acquisitionId
  rw [hentries]
  simp only [hchain, forall_and]

omit [DigestJson] in
theorem validateReleasePhase_eq_ok {attempt : BridgeOperationAttempt} :
    validateReleasePhase attempt = .ok () ↔
      (∀ n, attempt.releasePhaseSequence = some n → ∀ record ∈ attempt.operations.take n,
        operationEffectResolved record ∧ record.intent.kind = .write)
      ∧ ∀ n, attempt.releasePhaseSequence = some n → ∀ record ∈ attempt.operations.drop n,
        record.intent.kind ≠ .write := by
  unfold validateReleasePhase
  cases attempt.releasePhaseSequence with
  | none => simp
  | some n =>
    simp only [bind_unit_eq_ok, check_eq_ok, Option.some.injEq, forall_eq']
    constructor
    · rintro ⟨h1, h2, h3⟩
      exact ⟨fun r hr => ⟨h1 r hr, h2 r hr⟩, h3⟩
    · rintro ⟨h12, h3⟩
      exact ⟨fun r hr => (h12 r hr).1, fun r hr => (h12 r hr).2, h3⟩

omit [DigestJson] in
private theorem getD_get?_releases {attempt : BridgeOperationAttempt}
    {operationIds : List OperationId} {receiptIds : List ReceiptId}
    (acquisitionId : AcquireOperationId) :
    (((releaseScan operationIds receiptIds attempt.releases).releasesByAcquisition.get?
      acquisitionId).getD []) = releaseChain attempt acquisitionId := by
  simp only [releaseScan, Dict.getD_get?_groupBy, releaseChain]

omit [DigestJson] in
theorem validateNewerFence_eq_ok {attempt : BridgeOperationAttempt}
    {operationIds : List OperationId} {receiptIds : List ReceiptId}
    {previous current : FenceAcquisitionRecord} :
    validateNewerFence
        (releaseScan operationIds receiptIds attempt.releases).releasesByAcquisition
        (previous, current) = .ok () ↔
      FenceClosed attempt previous current.intent.requestedAt := by
  simp only [validateNewerFence, getD_get?_releases]
  by_cases hun : acquisitionProvenUndispatched previous
  · rw [if_pos hun]
    exact ⟨fun _ => .undispatched hun, fun _ => rfl⟩
  rw [if_neg hun]
  by_cases hstate : previous.state = .noEffect
  · rw [if_pos hstate, check_eq_ok, any_decide_iff]
    constructor
    · intro ⟨receipt, hr, hle⟩
      refine .tombstoned receipt ?_ hle
      rw [LifecycleRecord.tombstone?_eq_some]
      exact ⟨hstate, LifecycleRecord.noEffectReceipt?_eq_some.1 hr⟩
    · intro h
      cases h with
      | undispatched h => exact absurd h hun
      | tombstoned receipt hr hle =>
        rw [LifecycleRecord.tombstone?_eq_some] at hr
        exact ⟨receipt, LifecycleRecord.noEffectReceipt?_eq_some.2 hr.2, hle⟩
      | released acquired release receipt ha =>
        rw [LifecycleRecord.acknowledged?_eq_some, hstate] at ha
        exact absurd ha.1 (by decide)
  · rw [if_neg hstate, check_eq_ok, any_decide_iff]
    simp only [Option.isSome_iff_exists, Option.bind_eq_some_iff]
    constructor
    · intro ⟨⟨acquired, ha⟩, receipt, ⟨release, hlast, hr⟩, hle⟩
      exact .released acquired release receipt ha hlast hr hle
    · intro h
      cases h with
      | undispatched h => exact absurd h hun
      | tombstoned receipt hr =>
        rw [LifecycleRecord.tombstone?_eq_some] at hr
        exact absurd hr.1 hstate
      | released acquired release receipt ha hlast hr hle =>
        exact ⟨⟨acquired, ha⟩, receipt, ⟨release, hlast, hr⟩, hle⟩

omit [DigestJson] in
theorem fenceOrder_eq_ok {attempt : BridgeOperationAttempt}
    {operationIds : List OperationId} {receiptIds : List ReceiptId} :
    forAll (fun providerAcquisitions =>
        forAll (validateNewerFence
            (releaseScan operationIds receiptIds attempt.releases).releasesByAcquisition)
          (providerAcquisitions.zip providerAcquisitions.tail))
        (Dict.groupBy (fun item => item.intent.provider) attempt.acquisitions).values = .ok () ↔
      ∀ provider, (attempt.acquisitions.filter fun item =>
          decide (item.intent.provider = provider)).IsChain fun previous current =>
        FenceClosed attempt previous current.intent.requestedAt := by
  have hpair : ∀ pair, validateNewerFence
      (releaseScan operationIds receiptIds attempt.releases).releasesByAcquisition pair = .ok () ↔
        FenceClosed attempt pair.1 pair.2.intent.requestedAt :=
    fun _ => validateNewerFence_eq_ok
  simp only [forAll_eq_ok, hpair, Dict.mem_values_iff, Dict.get?_groupBy_eq_some_iff,
    forall_mem_zip_tail_iff_isChain
      (R := fun previous current => FenceClosed attempt previous current.intent.requestedAt)]
  constructor
  · intro h provider
    by_cases hne : (attempt.acquisitions.filter fun item =>
        decide (item.intent.provider = provider)) = []
    · rw [hne]
      exact List.isChain_nil
    · exact h _ ⟨provider, rfl, hne⟩
  · rintro h group ⟨provider, hgroup, _⟩
    rw [hgroup]
    exact h provider

/-! ## The state -/

omit [DigestJson] in
theorem validateTerminalVerification_eq_ok {attempt : BridgeOperationAttempt}
    {terminalAt : Datetime} (ht : attempt.terminalAt = some terminalAt)
    {record : BridgeOperationRecord} :
    validateTerminalVerification record attempt = .ok () ↔
      TerminalVerification attempt terminalAt record := by
  unfold validateTerminalVerification TerminalVerification
  cases record.verification with
  | none => simp
  | some verification => simp [ht]

omit [DigestJson] in
theorem validateTerminalReleases_eq_ok {terminalAt : Datetime} {chain : List FenceReleaseRecord} :
    validateTerminalReleases terminalAt chain = .ok () ↔
      ∃ release receipt, DurablyReleased terminalAt chain release receipt := by
  simp only [validateTerminalReleases, bind_unit_eq_ok, check_eq_ok, forAll_eq_ok, any_decide_iff,
    Option.bind_eq_some_iff]
  constructor
  · rintro ⟨_, htomb, receipt, ⟨release, hlast, hack⟩, hle⟩
    exact ⟨release, receipt, hlast, hack, hle, htomb⟩
  · rintro ⟨release, receipt, h⟩
    refine ⟨?_, h.tombstoned, receipt, ⟨release, h.last, h.acknowledged⟩, h.durable_le⟩
    intro hnil
    have hlast := h.last
    rw [hnil] at hlast
    cases hlast

omit [DigestJson] in
theorem validateTerminalAcquisition_eq_ok {attempt : BridgeOperationAttempt}
    {operationIds : List OperationId} {receiptIds : List ReceiptId} {terminalAt : Datetime}
    {record : FenceAcquisitionRecord} :
    validateTerminalAcquisition terminalAt
        (releaseScan operationIds receiptIds attempt.releases).releasesByAcquisition
        (record.intent.operationId, record) = .ok () ↔
      AcquisitionEnded attempt terminalAt record := by
  unfold validateTerminalAcquisition
  simp only [getD_get?_releases]
  split
  -- each branch of the check is one way to end, and the state excludes the other two
  · rename_i hstate
    rw [check_eq_ok, any_decide_iff]
    constructor
    · intro ⟨⟨receipt, hr, hle⟩, hnil⟩
      refine .tombstoned receipt ?_ hle hnil
      rw [LifecycleRecord.tombstone?_eq_some]
      exact ⟨hstate, LifecycleRecord.noEffectReceipt?_eq_some.1 hr⟩
    · intro h
      cases h with
      | tombstoned receipt hr hle hnil =>
        rw [LifecycleRecord.tombstone?_eq_some] at hr
        exact ⟨⟨receipt, LifecycleRecord.noEffectReceipt?_eq_some.2 hr.2, hle⟩, hnil⟩
      | undispatched h => exact absurd (hstate.symm.trans h.1) (by decide)
      | released acquired release receipt ha =>
        rw [LifecycleRecord.acknowledged?_eq_some, hstate] at ha
        exact absurd ha.1 (by decide)
  · rename_i hstate
    rw [check_eq_ok]
    constructor
    · intro ⟨hun, hnil⟩
      exact .undispatched hun hnil
    · intro h
      cases h with
      | tombstoned receipt hr =>
        rw [LifecycleRecord.tombstone?_eq_some, hstate] at hr
        exact absurd hr.1 (by decide)
      | undispatched hun hnil => exact ⟨hun, hnil⟩
      | released acquired release receipt ha =>
        rw [LifecycleRecord.acknowledged?_eq_some, hstate] at ha
        exact absurd ha.1 (by decide)
  · rename_i hne hnb
    rw [bind_unit_eq_ok, check_eq_ok, any_decide_iff, validateTerminalReleases_eq_ok]
    constructor
    · intro ⟨⟨acquired, ha, hle⟩, release, receipt, h⟩
      exact .released acquired release receipt ha hle h
    · intro h
      cases h with
      | tombstoned receipt hr =>
        rw [LifecycleRecord.tombstone?_eq_some] at hr
        exact absurd hr.1 hne
      | undispatched h => exact absurd h.1 hnb
      | released acquired release receipt ha hle h =>
        exact ⟨⟨acquired, ha, hle⟩, release, receipt, h⟩

omit [DigestJson] in
/-- The entries of the acquisition dictionary are the acquisitions under their IDs. -/
theorem mem_acquisitionById_entries {attempt : BridgeOperationAttempt}
    (hids : (acquisitionScan attempt.acquisitions).operationIds.Nodup)
    (entry : AcquireOperationId × FenceAcquisitionRecord) :
    entry ∈ (acquisitionScan attempt.acquisitions).acquisitionById.entries ↔
      entry.2 ∈ attempt.acquisitions ∧ entry.1 = entry.2.intent.operationId := by
  rw [Dict.mem_entries_iff, acquisitionById_eq_some_iff hids, eq_comm (a := entry.1)]

omit [DigestJson] in
theorem validateTerminalLifecycle_eq_ok {attempt : BridgeOperationAttempt}
    {operationIds : List OperationId} {receiptIds : List ReceiptId} {terminalAt : Datetime}
    (hids : (acquisitionScan attempt.acquisitions).operationIds.Nodup)
    (hacquired : ∀ item ∈ attempt.releases, ∃ acquisition ∈ attempt.acquisitions,
      acquisition.intent.operationId = item.intent.acquisitionOperationId) :
    validateTerminalLifecycle terminalAt
        (acquisitionScan attempt.acquisitions).acquisitionById
        (releaseScan operationIds receiptIds attempt.releases).releasesByAcquisition = .ok () ↔
      attempt.acquisitions ≠ []
        ∧ ∀ record ∈ attempt.acquisitions, AcquisitionEnded attempt terminalAt record := by
  have hempty : (acquisitionScan attempt.acquisitions).acquisitionById.entries ≠ [] ↔
      attempt.acquisitions ≠ [] := by
    constructor
    · intro h hnil
      obtain ⟨entry, hentry⟩ := List.exists_mem_of_ne_nil _ h
      have hmem := ((mem_acquisitionById_entries hids _).1 hentry).1
      rw [hnil] at hmem
      cases hmem
    · intro h
      obtain ⟨record, hrecord⟩ := List.exists_mem_of_ne_nil _ h
      exact List.ne_nil_of_mem
        ((mem_acquisitionById_entries hids (record.intent.operationId, record)).2
          ⟨hrecord, rfl⟩)
  -- every release belongs to an acquisition of the attempt
  have hkeys : ∀ acquisitionId ∈ (releaseScan operationIds receiptIds
        attempt.releases).releasesByAcquisition.keys,
      acquisitionId ∈ (acquisitionScan attempt.acquisitions).acquisitionById.keys := by
    intro acquisitionId hkey
    rw [Dict.mem_keys_iff] at hkey ⊢
    obtain ⟨group, hgroup⟩ := Option.ne_none_iff_exists'.1 hkey
    simp only [releaseScan, Dict.get?_groupBy_eq_some_iff] at hgroup
    obtain ⟨release, hrelease⟩ := List.exists_mem_of_ne_nil _ hgroup.2
    rw [hgroup.1, List.mem_filter] at hrelease
    obtain ⟨acquisition, hmem, hid⟩ := hacquired release hrelease.1
    have hrelid : release.intent.acquisitionOperationId = acquisitionId := by
      simpa using hrelease.2
    rw [(acquisitionById_eq_some_iff hids).2 ⟨hmem, hid.trans hrelid⟩]
    exact Option.some_ne_none _
  simp only [validateTerminalLifecycle, bind_unit_eq_ok, check_eq_ok, forAll_eq_ok, hempty]
  constructor
  · rintro ⟨hne, hended, _⟩
    refine ⟨hne, fun record hmem => ?_⟩
    exact validateTerminalAcquisition_eq_ok.1
      (hended _ ((mem_acquisitionById_entries hids (_, record)).2 ⟨hmem, rfl⟩))
  · rintro ⟨hne, hended⟩
    refine ⟨hne, fun entry hentry => ?_, hkeys⟩
    obtain ⟨acquisitionId, record⟩ := entry
    obtain ⟨hmem, hid⟩ := (mem_acquisitionById_entries hids _).1 hentry
    simp only at hid hmem
    rw [hid]
    exact validateTerminalAcquisition_eq_ok.2 (hended record hmem)

omit [DigestJson] in
/-- The write dictionary enumerates the writes. -/
theorem mem_writesByKey_values {operationIds : List OperationId} {receiptIds : List ReceiptId}
    {operations : List BridgeOperationRecord}
    (honce : operations.Pairwise fun a b =>
      a.intent.kind = .write → b.intent.kind = .write → a.intent.key ≠ b.intent.key)
    {record : BridgeOperationRecord} :
    record ∈ (operationScan operationIds receiptIds operations).writesByKey.values ↔
      record ∈ operations ∧ record.intent.kind = .write := by
  have hnodup : ((operations.filter fun item => decide (item.intent.kind = .write)).map
      fun item => item.intent.key).Nodup := by
    rw [List.nodup_iff_pairwise_ne, List.pairwise_map, List.pairwise_filter]
    refine honce.imp fun h => ?_
    simpa using h
  simp only [Dict.mem_values_iff, operationScan, Dict.get?_comprehension_eq_some_iff hnodup,
    List.mem_filter, decide_eq_true_eq, id]
  constructor
  · intro ⟨key, x, hx, _, heq⟩
    exact heq ▸ hx
  · intro h
    exact ⟨_, record, h, rfl, rfl⟩

omit [DigestJson] in
theorem mem_writesByKey_keys {operationIds : List OperationId} {receiptIds : List ReceiptId}
    {operations : List BridgeOperationRecord} {key : ObjectKey} :
    key ∈ (operationScan operationIds receiptIds operations).writesByKey.keys ↔
      ∃ record ∈ operations, record.intent.kind = .write ∧ record.intent.key = key := by
  simp [Dict.mem_keys_iff, operationScan, Dict.get?_comprehension_eq_none_iff]

omit [DigestJson] in
theorem mem_expectedByKey_keys {expectedWrites : List BridgeExpectedWrite} {key : ObjectKey} :
    key ∈ (Dict.comprehension BridgeExpectedWrite.key id expectedWrites).keys ↔
      ∃ spec ∈ expectedWrites, spec.key = key := by
  simp [Dict.mem_keys_iff, Dict.get?_comprehension_eq_none_iff]

omit [DigestJson] in
theorem validateCompensation_eq_ok {attempt : BridgeOperationAttempt} {terminalAt : Datetime}
    (ht : attempt.terminalAt = some terminalAt) {record : BridgeOperationRecord}
    {chain : List BridgeOperationRecord} :
    validateCompensation attempt record chain = .ok () ↔
      eligibleRollbackParent record ∧ ∃ final, chain.getLast? = some final
        ∧ (∀ item ∈ chain.dropLast, rollbackProvenNoEffect item)
        ∧ verifiedOutcome final .applied ∧ TerminalVerification attempt terminalAt final := by
  simp only [validateCompensation, bind_unit_eq_ok, check_eq_ok, forAll_eq_ok, Option.mem_toList,
    validateTerminalVerification_eq_ok ht]
  constructor
  · rintro ⟨⟨heligible, hne⟩, hproven, hfinal⟩
    obtain ⟨final, hlast⟩ := Option.ne_none_iff_exists'.1 (mt List.getLast?_eq_none_iff.1 hne)
    exact ⟨heligible, final, hlast, hproven, hfinal final hlast⟩
  · rintro ⟨heligible, final, hlast, hproven, hverified, hfresh⟩
    refine ⟨⟨heligible, fun hnil => ?_⟩, hproven, fun item hitem => ?_⟩
    · rw [hnil] at hlast
      cases hlast
    · rw [hlast] at hitem
      cases hitem
      exact ⟨hverified, hfresh⟩

omit [DigestJson] in
/-- Outcomes of eligible parents and of verified records come with a verification. -/
theorem verification_ne_none_of_terminal {attempt : BridgeOperationAttempt}
    {terminalAt : Datetime} {record : BridgeOperationRecord}
    (h : TerminalVerification attempt terminalAt record) : record.verification ≠ none := by
  obtain ⟨verification, hv, _⟩ := h
  rw [hv]
  exact Option.some_ne_none _

omit [DigestJson] in
theorem validateRestoredWrite_eq_ok {attempt : BridgeOperationAttempt} {terminalAt : Datetime}
    (ht : attempt.terminalAt = some terminalAt)
    {operationIds : List OperationId} {receiptIds : List ReceiptId}
    {record : BridgeOperationRecord} :
    validateRestoredWrite attempt
        (operationScan operationIds receiptIds attempt.operations).rollbacks record = .ok () ↔
      WriteRestored attempt terminalAt record := by
  simp only [validateRestoredWrite, getD_rollbacks]
  -- the three ways in which a write counts as restored, in the order of the checks
  by_cases hun : provenUndispatched record
  · rw [if_pos hun, check_eq_ok]
    constructor
    · exact .undispatched hun
    · intro h
      cases h with
      | undispatched _ hnil => exact hnil
      | noEffect receipt hs => exact absurd (hs.symm.trans hun.1) (by decide)
      | compensated receipt final _ hr =>
        rw [hun.2.2.2.1] at hr
        cases hr
  rw [if_neg hun]
  cases hr : record.receipt with
  | none =>
    simp only [reduceCtorEq, false_iff]
    intro h
    cases h with
    | undispatched h => exact hun h
    | noEffect receipt _ hr' => rw [hr] at hr'; cases hr'
    | compensated receipt final _ hr' => rw [hr] at hr'; cases hr'
  | some receipt =>
    cases hv : record.verification with
    | none =>
      simp only [reduceCtorEq, false_iff]
      intro h
      cases h with
      | undispatched h => exact hun h
      | noEffect _ _ _ _ _ hterm => exact verification_ne_none_of_terminal hterm hv
      | compensated _ _ helig => exact helig.2.1 hv
    | some verification =>
      -- with a receipt and a verification, the outcome decides
      dsimp only
      cases ho : receipt.outcome with
      | noEffect =>
        simp only [bind_unit_eq_ok, check_eq_ok, validateTerminalVerification_eq_ok ht]
        constructor
        · rintro ⟨hs, hnil, hterm⟩
          exact .noEffect receipt hs hr ho hnil hterm
        · intro h
          cases h with
          | undispatched h => exact absurd h hun
          | noEffect receipt' hs _ _ hnil hterm => exact ⟨hs, hnil, hterm⟩
          | compensated receipt' final _ hr' ho' =>
            rw [hr] at hr'
            cases hr'
            exact absurd (ho.symm.trans ho') (by decide)
      | applied =>
        simp only [validateCompensation_eq_ok ht]
        constructor
        · rintro ⟨helig, final, hlast, hproven, hverified, hterm⟩
          exact .compensated receipt final helig hr ho hlast hproven hverified hterm
        · intro h
          cases h with
          | undispatched h => exact absurd h hun
          | noEffect receipt' _ hr' ho' =>
            rw [hr] at hr'
            cases hr'
            exact absurd (ho.symm.trans ho') (by decide)
          | compensated _ final helig _ _ hlast hproven hverified hterm =>
            exact ⟨helig, final, hlast, hproven, hverified, hterm⟩

omit [DigestJson] in
theorem fullyCovered_iff {attempt : BridgeOperationAttempt} {operationIds : List OperationId}
    {receiptIds : List ReceiptId} :
    (∀ key ∈ (Dict.comprehension BridgeExpectedWrite.key id attempt.expectedWrites).keys,
        key ∈ (operationScan operationIds receiptIds attempt.operations).writesByKey.keys) ↔
      FullyCovered attempt := by
  simp only [mem_expectedByKey_keys, mem_writesByKey_keys, FullyCovered]
  constructor
  · intro h spec hspec
    exact h _ ⟨spec, hspec, rfl⟩
  · intro h key ⟨spec, hspec, hkey⟩
    rw [← hkey]
    exact h spec hspec

omit [DigestJson] in
/-- A rollback chain of the dictionary is nonempty, so an empty one means no rollback. -/
theorem no_rollback_iff {operations : List BridgeOperationRecord}
    {operationIds : List OperationId} {receiptIds : List ReceiptId} :
    (∀ chain ∈ (operationScan operationIds receiptIds operations).rollbacks.values, chain = []) ↔
      ∀ record ∈ operations, record.intent.kind = .write := by
  simp only [operationScan, Dict.mem_values_iff, Dict.get?_groupBy_eq_some_iff]
  constructor
  · intro h record hmem
    by_contra hkind
    have hgroup : record ∈ (operations.filter fun item => decide (item.intent.kind ≠ .write)).filter
        fun item => decide (item.intent.parentOperationId = record.intent.parentOperationId) := by
      simpa using ⟨hmem, hkind⟩
    have hnil := h _ ⟨_, rfl, List.ne_nil_of_mem hgroup⟩
    rw [hnil] at hgroup
    cases hgroup
  · intro h chain ⟨parentId, hchain, _⟩
    rw [hchain, List.filter_eq_nil_iff]
    intro record hrecord
    rw [List.mem_filter] at hrecord
    simpa [h record hrecord.1] using hrecord.2

theorem validateState_eq_ok {attempt : BridgeOperationAttempt} {operationIds : List OperationId}
    {receiptIds : List ReceiptId} {claimedIds : List OperationId}
    {claimedReceipts : List ReceiptId}
    (hids : (acquisitionScan attempt.acquisitions).operationIds.Nodup)
    (hops : OperationsWellFormed attempt)
    (hacquired : ∀ item ∈ attempt.releases, ∃ acquisition ∈ attempt.acquisitions,
      acquisition.intent.operationId = item.intent.acquisitionOperationId) :
    validateState attempt (acquisitionScan attempt.acquisitions).acquisitionById
        (Dict.comprehension BridgeExpectedWrite.key id attempt.expectedWrites)
        (operationScan operationIds receiptIds attempt.operations).writesByKey
        (operationScan operationIds receiptIds attempt.operations).rollbacks
        (releaseScan claimedIds claimedReceipts attempt.releases).releasesByAcquisition = .ok () ↔
      StateWellFormed attempt := by
  unfold validateState StateWellFormed
  cases hs : attempt.state with
  | «open» => simp only [bind_unit_eq_ok, check_eq_ok, and_assoc]
  | blocked =>
    simp only [bind_unit_eq_ok, check_eq_ok]
    constructor
    · rintro ⟨⟨h1, h2⟩, h3⟩
      exact ⟨h1, h3, h2⟩
    · rintro ⟨h1, h2, h3⟩
      exact ⟨⟨h1, h3⟩, h2⟩
  | committed =>
    cases ht : attempt.terminalAt with
    | none =>
      simp only [reduceCtorEq, false_iff]
      rintro ⟨terminalAt, h⟩
      rw [h.terminalAt_eq] at ht
      cases ht
    | some terminalAt =>
      -- the second half of the comparison holds already
      have hsubset : ∀ key ∈ (operationScan operationIds receiptIds
            attempt.operations).writesByKey.keys,
          key ∈ (Dict.comprehension BridgeExpectedWrite.key id attempt.expectedWrites).keys := by
        intro key hkey
        obtain ⟨record, hmem, hkind, hkey⟩ := mem_writesByKey_keys.1 hkey
        obtain ⟨spec, hspec, hmatch⟩ := hops.covered record hmem hkind
        exact mem_expectedByKey_keys.2 ⟨spec, hspec, (key_eq_of_matches hmatch).trans hkey⟩
      simp only [bind_unit_eq_ok, check_eq_ok, forAll_eq_ok, fullyCovered_iff, no_rollback_iff,
        validateTerminalLifecycle_eq_ok hids hacquired, mem_writesByKey_values hops.write_once,
        validateCommittedWrite, validateTerminalVerification_eq_ok ht]
      constructor
      · rintro ⟨⟨hreason, hblocked⟩, ⟨_, hcovered⟩, ⟨hne, hended⟩, hwrites, hcommitted⟩
        exact ⟨terminalAt, ht, hreason, hblocked, hcovered, hne, hended, hwrites,
          fun record hmem => (hcommitted record ⟨hmem, hwrites record hmem⟩).1,
          fun record hmem => (hcommitted record ⟨hmem, hwrites record hmem⟩).2⟩
      · rintro ⟨terminalAt', h⟩
        have heq : terminalAt' = terminalAt := Option.some.inj (h.terminalAt_eq.symm.trans ht)
        subst heq
        exact ⟨⟨h.reasonCode_eq, h.unblocked⟩, ⟨hsubset, h.covered⟩, ⟨h.acquired, h.ended⟩,
          h.no_rollback, fun record hmem => ⟨h.applied record hmem.1, h.fresh record hmem.1⟩⟩
  | restored =>
    cases ht : attempt.terminalAt with
    | none =>
      simp only [reduceCtorEq, false_iff]
      rintro ⟨terminalAt, h⟩
      rw [h.terminalAt_eq] at ht
      cases ht
    | some terminalAt =>
      simp only [bind_unit_eq_ok, check_eq_ok, forAll_eq_ok, fullyCovered_iff,
        validateTerminalLifecycle_eq_ok hids hacquired, mem_writesByKey_values hops.write_once,
        validateRestoredWrite_eq_ok ht]
      constructor
      · rintro ⟨hreason, hcovered, ⟨hne, hended⟩, hrestored⟩
        exact ⟨terminalAt, ht, hreason, hcovered, hne, hended,
          fun record hmem hkind => hrestored record ⟨hmem, hkind⟩⟩
      · rintro ⟨terminalAt', h⟩
        have heq : terminalAt' = terminalAt := Option.some.inj (h.terminalAt_eq.symm.trans ht)
        subst heq
        exact ⟨h.reasonCode_iff, h.covered_or, ⟨h.acquired, h.ended⟩,
          fun record hmem => h.restored record hmem.1 hmem.2⟩

/-! ## The whole validator -/

omit [DigestJson] in
/-- Expected writes are canonically sorted and unique exactly when their keys increase. -/
theorem keys_sorted_iff (expectedWrites : List BridgeExpectedWrite) :
    (expectedWrites.map (·.key) = sortedBy id (expectedWrites.map (·.key))
      ∧ (expectedWrites.map (·.key)).Nodup) ↔
      expectedWrites.Pairwise fun a b => a.key < b.key := by
  rw [eq_comm, sortedBy_eq_self_iff, List.nodup_iff_pairwise_ne, List.pairwise_map,
    List.pairwise_map, ← List.pairwise_and_iff]
  simp only [id, lt_iff_le_and_ne]

theorem validateHeader_eq_ok {attempt : BridgeOperationAttempt} :
    validateHeader attempt = .ok () ↔ HeaderWellFormed attempt
      ∧ (∀ n, attempt.releasePhaseSequence = some n → n ≤ attempt.operations.length)
      ∧ (attempt.releases ≠ [] ↔ attempt.releasePhaseSequence ≠ none) := by
  simp only [validateHeader, validatePositiveInteger, validateFreshnessSeconds,
    BridgeExpectedWrite.postInit, bind_unit_eq_ok, check_eq_ok, forAll_eq_ok, Option.mem_toList,
    keys_sorted_iff]
  constructor
  · rintro ⟨h1, h2, ⟨h3, h4⟩, h5, h6, h7, h8, h9⟩
    exact ⟨⟨h1, h2, h3, h4, h5, h6, h7⟩, h8, h9⟩
  · rintro ⟨⟨h1, h2, h3, h4, h5, h6, h7⟩, h8, h9⟩
    exact ⟨h1, h2, ⟨h3, h4⟩, h5, h6, h7, h8, h9⟩

/-- `_validate_attempt` accepts exactly the well-formed attempts. -/
theorem validateAttempt_eq_ok {attempt : BridgeOperationAttempt} :
    validateAttempt attempt = .ok () ↔ attempt.WellFormed := by
  -- the scans collect the identifiers of the attempt in its own order
  have hids : (operationScan (acquisitionScan attempt.acquisitions).operationIds
      (acquisitionScan attempt.acquisitions).receiptIds attempt.operations).operationIds
        ++ attempt.releases.map (fun item => .release item.intent.operationId)
      = attempt.operationIds := rfl
  have hreceipts : (operationScan (acquisitionScan attempt.acquisitions).operationIds
      (acquisitionScan attempt.acquisitions).receiptIds attempt.operations).receiptIds
        ++ attempt.releases.filterMap ReleaseRecord.receiptId?
      = attempt.receiptIds := rfl
  simp only [validateAttempt, bind_eq_ok, exists_unit, check_eq_ok]
  constructor
  · rintro ⟨hheader, hsorted, acquired, hacquired, operated, hoperated, hphase, hrsorted, released,
      hreleased, hchains, horder, hstate⟩
    obtain ⟨hheader, hle, hiff⟩ := validateHeader_eq_ok.1 hheader
    obtain ⟨rfl, hacq, haids, hareceipts⟩ := acquisitionLoop_eq_ok.1 ⟨hsorted, hacquired⟩
    obtain ⟨rfl, hops, hoids, horeceipts⟩ :=
      (operationLoop_eq_ok hheader.keys_sorted haids hareceipts).1 hoperated
    obtain ⟨rfl, hrwf, hrbelongs, hracquired, hrids, hrreceipts⟩ :=
      (releaseLoop_eq_ok haids hoids horeceipts).1 hreleased
    obtain ⟨hcontiguous, hretries, hsettled⟩ := releaseChains_eq_ok.1 (forAll_eq_ok.1 hchains)
    obtain ⟨hclosed, hlater⟩ := validateReleasePhase_eq_ok.1 hphase
    have hknown : ∀ item ∈ attempt.releases, ∃ acquisition ∈ attempt.acquisitions,
        acquisition.intent.operationId = item.intent.acquisitionOperationId := by
      intro item hmem
      obtain ⟨acquisition, hacq, hid, _⟩ := hracquired item hmem
      exact ⟨acquisition, hacq, hid⟩
    exact {
      header := hheader
      acquisitions := hacq
      operations := hops
      releasePhase := ⟨hle, hiff, hclosed, hlater⟩
      releases := ⟨sortedBy_eq_self_iff.1 hrsorted, hrwf, hrbelongs, hracquired, hcontiguous,
        hretries, hsettled⟩
      operationIds_nodup := hids ▸ hrids
      receiptIds_nodup := hreceipts ▸ hrreceipts
      fenceOrder := fenceOrder_eq_ok.1 horder
      state_ok := (validateState_eq_ok haids hops hknown).1 hstate }
  · intro h
    have hrids := h.operationIds_nodup
    have hrreceipts := h.receiptIds_nodup
    rw [← hids] at hrids
    rw [← hreceipts] at hrreceipts
    -- the loops check prefixes of the identifiers, which are distinct as the whole is
    have hoids := (List.nodup_append.1 hrids).1
    have horeceipts := (List.nodup_append.1 hrreceipts).1
    have haids : (acquisitionScan attempt.acquisitions).operationIds.Nodup :=
      (List.nodup_append.1 hoids).1
    have hareceipts : (acquisitionScan attempt.acquisitions).receiptIds.Nodup :=
      (List.nodup_append.1 horeceipts).1
    have hknown : ∀ item ∈ attempt.releases, ∃ acquisition ∈ attempt.acquisitions,
        acquisition.intent.operationId = item.intent.acquisitionOperationId := by
      intro item hmem
      obtain ⟨acquisition, hacq, hid, _⟩ := h.releases.acquired item hmem
      exact ⟨acquisition, hacq, hid⟩
    have hacquired := acquisitionLoop_eq_ok.2 ⟨rfl, h.acquisitions, haids, hareceipts⟩
    refine ⟨validateHeader_eq_ok.2 ⟨h.header, h.releasePhase.le_length,
      h.releasePhase.released_iff⟩, hacquired.1, _, hacquired.2, _,
      (operationLoop_eq_ok h.header.keys_sorted haids hareceipts).2
        ⟨rfl, h.operations, hoids, horeceipts⟩,
      validateReleasePhase_eq_ok.2 ⟨h.releasePhase.closed, h.releasePhase.later⟩,
      sortedBy_eq_self_iff.2 h.releases.sorted, _,
      (releaseLoop_eq_ok haids hoids horeceipts).2 ⟨rfl, h.releases.record_wf, h.releases.belongs,
        h.releases.acquired, hrids, hrreceipts⟩,
      forAll_eq_ok.2 (releaseChains_eq_ok.2
        ⟨h.releases.contiguous, h.releases.retries, h.releases.settled⟩),
      fenceOrder_eq_ok.2 h.fenceOrder,
      (validateState_eq_ok haids h.operations hknown).2 h.state_ok⟩

@[simp] theorem BridgeOperationAttempt.postInit_eq_ok {self : BridgeOperationAttempt} :
    self.postInit = .ok () ↔ self.WellFormed :=
  validateAttempt_eq_ok

end TrueFamily.Transaction
