import TrueFamily.Transaction.Attempt

/-!
# What a valid attempt is

`BridgeOperationAttempt.WellFormed` states what `_validate_attempt` establishes as a structure
of facts about the whole histories, with no accumulator and no order of checks. Later modules
reason about attempts through it only.
-/

namespace TrueFamily.Transaction

open Checked Sorting

variable [DigestJson]

/-- The rollbacks of one write, in order. -/
def rollbackChain (operations : List BridgeOperationRecord) (parentId : ObjectOperationId) :
    List BridgeOperationRecord :=
  operations.filter fun item =>
    decide (item.intent.kind ≠ .write ∧ item.intent.parentOperationId = some parentId)

/-- The releases of one fence, in order. -/
def releaseChain (attempt : BridgeOperationAttempt) (acquisitionId : AcquireOperationId) :
    List FenceReleaseRecord :=
  attempt.releases.filter fun item =>
    decide (item.intent.acquisitionOperationId = acquisitionId)

omit [DigestJson] in
theorem mem_rollbackChain {operations : List BridgeOperationRecord}
    {parentId : ObjectOperationId} {record : BridgeOperationRecord} :
    record ∈ rollbackChain operations parentId ↔ record ∈ operations
      ∧ record.intent.kind ≠ .write ∧ record.intent.parentOperationId = some parentId := by
  simp [rollbackChain]

omit [DigestJson] in
theorem rollbackChain_append (first second : List BridgeOperationRecord)
    (parentId : ObjectOperationId) : rollbackChain (first ++ second) parentId
      = rollbackChain first parentId ++ rollbackChain second parentId :=
  List.filter_append ..

omit [DigestJson] in
/-- A split of a rollback chain comes from a split of the operations. -/
theorem exists_split_of_rollbackChain {operations earlier later : List BridgeOperationRecord}
    {record : BridgeOperationRecord} {parentId : ObjectOperationId}
    (h : rollbackChain operations parentId = earlier ++ record :: later) :
    ∃ before after, operations = before ++ record :: after
      ∧ rollbackChain before parentId = earlier := by
  obtain ⟨first, second, rfl, hfirst, hsecond⟩ := List.filter_eq_append_iff.1 h
  obtain ⟨skipped, after, rfl, hskipped, _, _⟩ := List.filter_eq_cons_iff.1 hsecond
  refine ⟨first ++ skipped, after, by simp, ?_⟩
  rw [rollbackChain_append, rollbackChain, hfirst, rollbackChain,
    List.filter_eq_nil_iff.2 hskipped, List.append_nil]

omit [DigestJson] in
theorem mem_releaseChain {attempt : BridgeOperationAttempt}
    {acquisitionId : AcquireOperationId} {release : FenceReleaseRecord} :
    release ∈ releaseChain attempt acquisitionId ↔
      release ∈ attempt.releases ∧ release.intent.acquisitionOperationId = acquisitionId := by
  simp [releaseChain]

namespace BridgeOperationAttempt

/-- Every operation identity of the attempt. -/
def operationIds (attempt : BridgeOperationAttempt) : List OperationId :=
  attempt.acquisitions.map (fun item => .acquire item.intent.operationId)
    ++ attempt.operations.map (fun item => .object item.intent.operationId)
    ++ attempt.releases.map (fun item => .release item.intent.operationId)

/-- Every receipt identity of the attempt. -/
def receiptIds (attempt : BridgeOperationAttempt) : List ReceiptId :=
  attempt.acquisitions.filterMap AcquisitionRecord.receiptId?
    ++ attempt.operations.filterMap (fun item => item.receipt.map (·.receiptId))
    ++ attempt.releases.filterMap ReleaseRecord.receiptId?

end BridgeOperationAttempt

/-! ## The parts of a valid attempt -/

/-- The fields that no operation of the journal changes. -/
structure HeaderWellFormed (attempt : BridgeOperationAttempt) : Prop where
  planBinding : validatePlanBinding attempt.planId attempt.planDigest = .ok ()
  attempt_pos : 1 ≤ attempt.attempt
  freshness_pos : 1 ≤ attempt.maxObservationAgeSeconds
  freshness_le : attempt.maxObservationAgeSeconds ≤ 86400
  expected_ne_nil : attempt.expectedWrites ≠ []
  pre_ne_post : ∀ item ∈ attempt.expectedWrites, item.preFingerprint ≠ item.postFingerprint
  keys_sorted : attempt.expectedWrites.Pairwise fun a b => a.key < b.key

structure AcquisitionsWellFormed (attempt : BridgeOperationAttempt) : Prop where
  sorted : attempt.acquisitions.Pairwise fun a b => acquisitionSortKey a ≤ acquisitionSortKey b
  record_wf : ∀ record ∈ attempt.acquisitions, record.WellFormed
  belongs : ∀ record ∈ attempt.acquisitions, belongsTo record.intent.planId
    record.intent.planDigest record.intent.manifestDigest record.intent.attempt attempt
  epochs : attempt.acquisitions.Pairwise fun a b =>
    a.intent.provider = b.intent.provider → a.intent.epoch < b.intent.epoch

/-- The fence of an operation is acquired, acknowledged and bound by its receipt. -/
structure Fenced (attempt : BridgeOperationAttempt) (fence : FenceBinding)
    (acquisition : FenceAcquisitionRecord) (receipt : FenceAcquisitionReceipt) : Prop where
  mem : acquisition ∈ attempt.acquisitions
  operationId_eq : acquisition.intent.operationId = fence.acquisitionOperationId
  acknowledged : acquisition.acknowledged? = some receipt
  binding_eq : receipt.binding = fence

/-- A rollback `record` is admitted after `before`: it undoes an earlier eligible write, and
the last rollback of that write, if any, is proven to have had no effect. -/
structure RollbackAdmitted (before : List BridgeOperationRecord) (record : BridgeOperationRecord)
    (parent : BridgeOperationRecord) : Prop where
  mem : parent ∈ before
  kind_eq : parent.intent.kind = .write
  parent_eq : record.intent.parentOperationId = some parent.intent.operationId
  eligible : eligibleRollbackParent parent
  first : rollbackChain before parent.intent.operationId = [] →
    OperationScan.undoes record.intent parent parent.intent.fence.epoch
  retry : ∀ previous, (rollbackChain before parent.intent.operationId).getLast? = some previous →
    rollbackProvenNoEffect previous
      ∧ OperationScan.undoes record.intent parent previous.intent.fence.epoch

structure OperationsWellFormed (attempt : BridgeOperationAttempt) : Prop where
  record_wf : ∀ record ∈ attempt.operations, record.WellFormed
  belongs : ∀ record ∈ attempt.operations, belongsTo record.intent.planId
    record.intent.planDigest record.intent.manifestDigest record.intent.attempt attempt
  sequence : ForallSplit (fun before record => record.intent.sequence = before.length + 1)
    attempt.operations
  fenced : ∀ record ∈ attempt.operations, ∃ acquisition receipt,
    Fenced attempt record.intent.fence acquisition receipt
  epochs : attempt.operations.Pairwise fun a b =>
    a.intent.provider = b.intent.provider → a.intent.fence.epoch ≤ b.intent.fence.epoch
  fresh : ∀ record ∈ attempt.operations, ∀ authorization,
    record.authorization = some authorization →
      observationFresh authorization.observedAt authorization.authorizedAt attempt
  covered : ∀ record ∈ attempt.operations, record.intent.kind = .write →
    ∃ spec ∈ attempt.expectedWrites, intentMatchesExpected record.intent spec
  write_once : attempt.operations.Pairwise fun a b =>
    a.intent.kind = .write → b.intent.kind = .write → a.intent.key ≠ b.intent.key
  rollback : ForallSplit (fun before record => record.intent.kind ≠ .write →
    ∃ parent, RollbackAdmitted before record parent) attempt.operations

structure ReleasePhaseWellFormed (attempt : BridgeOperationAttempt) : Prop where
  le_length : ∀ n, attempt.releasePhaseSequence = some n → n ≤ attempt.operations.length
  released_iff : attempt.releases ≠ [] ↔ attempt.releasePhaseSequence ≠ none
  closed : ∀ n, attempt.releasePhaseSequence = some n → ∀ record ∈ attempt.operations.take n,
    operationEffectResolved record ∧ record.intent.kind = .write
  later : ∀ n, attempt.releasePhaseSequence = some n → ∀ record ∈ attempt.operations.drop n,
    record.intent.kind ≠ .write

/-- The operations of a fence whose first release is requested at `requestedAt`. -/
def EffectsSettled (attempt : BridgeOperationAttempt) (acquisitionId : AcquireOperationId)
    (requestedAt : Datetime) : Prop :=
  ∀ record ∈ attempt.operations, record.intent.fence.acquisitionOperationId = acquisitionId →
    operationEffectResolved record
      ∧ (provenUndispatched record
        ∨ ∃ verification ∈ record.verifications, verification.verifiedAt ≤ requestedAt)

structure ReleasesWellFormed (attempt : BridgeOperationAttempt) : Prop where
  sorted : attempt.releases.Pairwise fun a b => releaseSortKey a ≤ releaseSortKey b
  record_wf : ∀ record ∈ attempt.releases, record.WellFormed
  belongs : ∀ record ∈ attempt.releases, belongsTo record.intent.planId
    record.intent.planDigest record.intent.manifestDigest record.intent.attempt attempt
  acquired : ∀ record ∈ attempt.releases, ∃ acquisition ∈ attempt.acquisitions,
    acquisition.intent.operationId = record.intent.acquisitionOperationId
      ∧ ∃ receipt, record.intent.Releases acquisition receipt
  contiguous : ∀ acquisitionId, ForallSplit
    (fun earlier release => release.intent.releaseAttempt = earlier.length + 1)
    (releaseChain attempt acquisitionId)
  retries : ∀ acquisitionId, ForallSplit
    (fun earlier release => ∀ previous, earlier.getLast? = some previous →
      retriesRelease previous release.intent)
    (releaseChain attempt acquisitionId)
  settled : ∀ acquisitionId first, (releaseChain attempt acquisitionId).head? = some first →
    EffectsSettled attempt acquisitionId first.intent.requestedAt

/-- Why a newer fence of the same provider may be requested at `requestedAt`. -/
inductive FenceClosed (attempt : BridgeOperationAttempt) (previous : FenceAcquisitionRecord)
    (requestedAt : Datetime) : Prop
  | undispatched : acquisitionProvenUndispatched previous → FenceClosed attempt previous requestedAt
  | tombstoned (receipt : FenceAcquisitionNoEffectReceipt) :
      previous.tombstone? = some receipt → receipt.durableAt ≤ requestedAt →
      FenceClosed attempt previous requestedAt
  | released (acquired : FenceAcquisitionReceipt) (release : FenceReleaseRecord)
      (receipt : FenceReleaseReceipt) :
      previous.acknowledged? = some acquired →
      (releaseChain attempt previous.intent.operationId).getLast? = some release →
      release.acknowledged? = some receipt → receipt.durableAt ≤ requestedAt →
      FenceClosed attempt previous requestedAt

/-- `_validate_terminal_verification` at a terminal time. -/
def TerminalVerification (attempt : BridgeOperationAttempt) (terminalAt : Datetime)
    (record : BridgeOperationRecord) : Prop :=
  ∃ verification, record.verification = some verification
    ∧ observationFresh verification.observedAt terminalAt attempt
    ∧ verification.verifiedAt ≤ terminalAt

/-- The last release of a fence is acknowledged, and the ones before it are tombstoned, all
durably before `terminalAt`. -/
structure DurablyReleased (terminalAt : Datetime) (chain : List FenceReleaseRecord)
    (release : FenceReleaseRecord) (receipt : FenceReleaseReceipt) : Prop where
  last : chain.getLast? = some release
  acknowledged : release.acknowledged? = some receipt
  durable_le : receipt.durableAt ≤ terminalAt
  tombstoned : ∀ earlier ∈ chain.dropLast, ∃ tombstone,
    earlier.tombstone? = some tombstone ∧ tombstone.durableAt ≤ terminalAt

/-- The end of an acquisition in a terminal attempt. -/
inductive AcquisitionEnded (attempt : BridgeOperationAttempt) (terminalAt : Datetime)
    (record : FenceAcquisitionRecord) : Prop
  | tombstoned (receipt : FenceAcquisitionNoEffectReceipt) :
      record.tombstone? = some receipt → receipt.durableAt ≤ terminalAt →
      releaseChain attempt record.intent.operationId = [] →
      AcquisitionEnded attempt terminalAt record
  | undispatched : acquisitionProvenUndispatched record →
      releaseChain attempt record.intent.operationId = [] →
      AcquisitionEnded attempt terminalAt record
  | released (acquired : FenceAcquisitionReceipt) (release : FenceReleaseRecord)
      (receipt : FenceReleaseReceipt) :
      record.acknowledged? = some acquired → acquired.durableAt ≤ terminalAt →
      DurablyReleased terminalAt (releaseChain attempt record.intent.operationId) release receipt →
      AcquisitionEnded attempt terminalAt record

/-- The end of a write in a restored attempt. -/
inductive WriteRestored (attempt : BridgeOperationAttempt) (terminalAt : Datetime)
    (record : BridgeOperationRecord) : Prop
  | undispatched : provenUndispatched record →
      rollbackChain attempt.operations record.intent.operationId = [] →
      WriteRestored attempt terminalAt record
  | noEffect (receipt : BridgeOperationReceipt) :
      record.state = .verified → record.receipt = some receipt → receipt.outcome = .noEffect →
      rollbackChain attempt.operations record.intent.operationId = [] →
      TerminalVerification attempt terminalAt record →
      WriteRestored attempt terminalAt record
  | compensated (receipt : BridgeOperationReceipt) (final : BridgeOperationRecord) :
      eligibleRollbackParent record → record.receipt = some receipt →
      receipt.outcome = .applied →
      (rollbackChain attempt.operations record.intent.operationId).getLast? = some final →
      (∀ item ∈ (rollbackChain attempt.operations record.intent.operationId).dropLast,
        rollbackProvenNoEffect item) →
      verifiedOutcome final .applied →
      TerminalVerification attempt terminalAt final →
      WriteRestored attempt terminalAt record

/-- Every expected key has a write. -/
def FullyCovered (attempt : BridgeOperationAttempt) : Prop :=
  ∀ spec ∈ attempt.expectedWrites, ∃ record ∈ attempt.operations,
    record.intent.kind = .write ∧ record.intent.key = spec.key

structure CommittedWellFormed (attempt : BridgeOperationAttempt) (terminalAt : Datetime) :
    Prop where
  terminalAt_eq : attempt.terminalAt = some terminalAt
  reasonCode_eq : attempt.reasonCode = none
  unblocked : ¬ blockedEvidence attempt
  covered : FullyCovered attempt
  acquired : attempt.acquisitions ≠ []
  ended : ∀ record ∈ attempt.acquisitions, AcquisitionEnded attempt terminalAt record
  no_rollback : ∀ record ∈ attempt.operations, record.intent.kind = .write
  applied : ∀ record ∈ attempt.operations, verifiedOutcome record .applied
  fresh : ∀ record ∈ attempt.operations, TerminalVerification attempt terminalAt record

structure RestoredWellFormed (attempt : BridgeOperationAttempt) (terminalAt : Datetime) :
    Prop where
  terminalAt_eq : attempt.terminalAt = some terminalAt
  reasonCode_iff : blockedEvidence attempt ↔ attempt.reasonCode ≠ none
  covered_or : FullyCovered attempt ∨ blockedEvidence attempt ∨ noEffectAcquisitionEvidence attempt
  acquired : attempt.acquisitions ≠ []
  ended : ∀ record ∈ attempt.acquisitions, AcquisitionEnded attempt terminalAt record
  restored : ∀ record ∈ attempt.operations, record.intent.kind = .write →
    WriteRestored attempt terminalAt record

/-- What each state requires of the records. -/
def StateWellFormed (attempt : BridgeOperationAttempt) : Prop :=
  match attempt.state with
  | .open => attempt.reasonCode = none ∧ attempt.terminalAt = none ∧ ¬ blockedEvidence attempt
  | .blocked =>
    attempt.reasonCode ≠ none ∧ attempt.terminalAt = none ∧ blockedEvidence attempt
  | .committed => ∃ terminalAt, CommittedWellFormed attempt terminalAt
  | .restored => ∃ terminalAt, RestoredWellFormed attempt terminalAt

/-- A valid attempt. -/
structure BridgeOperationAttempt.WellFormed (attempt : BridgeOperationAttempt) : Prop where
  header : HeaderWellFormed attempt
  acquisitions : AcquisitionsWellFormed attempt
  operations : OperationsWellFormed attempt
  releasePhase : ReleasePhaseWellFormed attempt
  releases : ReleasesWellFormed attempt
  operationIds_nodup : attempt.operationIds.Nodup
  receiptIds_nodup : attempt.receiptIds.Nodup
  fenceOrder : ∀ provider, (attempt.acquisitions.filter fun item =>
      decide (item.intent.provider = provider)).IsChain fun previous current =>
    FenceClosed attempt previous current.intent.requestedAt
  state_ok : StateWellFormed attempt

end TrueFamily.Transaction
