import TrueFamily.Lib.Dict
import TrueFamily.Lib.Sorting
import TrueFamily.Transaction.OperationRecord

/-!
# Transaction attempts

One attempt of a plan holds its expected writes and every acquisition, object operation and
release recorded for it. `_validate_attempt` replays these records in order against local
dictionaries; here each of its loops is a `forEach` whose accumulators are a structure of
their own, with the source's dictionaries as fields.
-/

namespace TrueFamily.Transaction

open Checked Sorting

variable [DigestJson]

/-! ## Expected writes and attempts -/

/-- `BridgeExpectedWrite`. -/
structure BridgeExpectedWrite where
  provider : Provider
  objectKey : CanonicalText
  expectedRevision : Revision
  preFingerprint : Digest
  postFingerprint : Digest
  deriving DecidableEq

/-- A provider and an object key, ordered as the pair of texts is. -/
abbrev ObjectKey := Lex (Provider × CanonicalText)

namespace BridgeExpectedWrite

def postInit (self : BridgeExpectedWrite) : Except PyError Unit :=
  check (self.preFingerprint ≠ self.postFingerprint)
    (.valueError "Expected write preimage and postimage must differ.")

/-- `key`. -/
def key (self : BridgeExpectedWrite) : ObjectKey := toLex (self.provider, self.objectKey)

end BridgeExpectedWrite

/-- The manifest key that an intent writes. -/
def BridgeOperationIntent.key (intent : BridgeOperationIntent) : ObjectKey :=
  toLex (intent.provider, intent.objectKey)

/-- `BridgeOperationAttempt`. -/
structure BridgeOperationAttempt where
  planId : PlanId
  planDigest : Digest
  manifestDigest : Digest
  attempt : ℕ
  state : BridgeAttemptState
  maxObservationAgeSeconds : ℕ
  expectedWrites : List BridgeExpectedWrite
  acquisitions : List FenceAcquisitionRecord := []
  operations : List BridgeOperationRecord := []
  releases : List FenceReleaseRecord := []
  releasePhaseSequence : Option ℕ := none
  reasonCode : Option BridgeBlockReason := none
  terminalAt : Option Datetime := none
  deriving DecidableEq

/-! ## Predicates on records -/

/-- `_intent_matches_expected`. -/
def intentMatchesExpected (intent : BridgeOperationIntent) (expected : BridgeExpectedWrite) :
    Prop :=
  intent.kind = .write
    ∧ intent.provider = expected.provider
    ∧ intent.objectKey = expected.objectKey
    ∧ sameRevision intent.expectedRevision expected.expectedRevision
    ∧ intent.preFingerprint = expected.preFingerprint
    ∧ intent.postFingerprint = expected.postFingerprint

instance (intent : BridgeOperationIntent) (expected : BridgeExpectedWrite) :
    Decidable (intentMatchesExpected intent expected) := by
  unfold intentMatchesExpected; infer_instance

/-- `_eligible_rollback_parent`. -/
def eligibleRollbackParent (record : BridgeOperationRecord) : Prop :=
  (record.state = .verified ∨ (record.state = .blocked ∧ record.blockedFrom = some .verified))
    ∧ record.verification ≠ none
    ∧ record.receipt.map (·.outcome) = some .applied

instance (record : BridgeOperationRecord) : Decidable (eligibleRollbackParent record) := by
  unfold eligibleRollbackParent; infer_instance

/-- `_verified_outcome`. -/
def verifiedOutcome (record : BridgeOperationRecord) (outcome : BridgeReceiptOutcome) : Prop :=
  record.state = .verified
    ∧ record.verification ≠ none
    ∧ record.receipt.map (·.outcome) = some outcome

instance (record : BridgeOperationRecord) (outcome : BridgeReceiptOutcome) :
    Decidable (verifiedOutcome record outcome) := by
  unfold verifiedOutcome; infer_instance

/-- `_proven_undispatched`. -/
def provenUndispatched (record : BridgeOperationRecord) : Prop :=
  record.state = .blocked
    ∧ record.blockedFrom = some .intentRecorded
    ∧ record.authorization = none
    ∧ record.receipt = none
    ∧ record.verifications = []

instance (record : BridgeOperationRecord) : Decidable (provenUndispatched record) := by
  unfold provenUndispatched; infer_instance

/-- `_rollback_proven_no_effect`. -/
def rollbackProvenNoEffect (record : BridgeOperationRecord) : Prop :=
  provenUndispatched record ∨ verifiedOutcome record .noEffect

instance (record : BridgeOperationRecord) : Decidable (rollbackProvenNoEffect record) := by
  unfold rollbackProvenNoEffect; infer_instance

/-- `_operation_effect_resolved`. -/
def operationEffectResolved (record : BridgeOperationRecord) : Prop :=
  record.state = .verified
    ∨ (record.state = .blocked
      ∧ (provenUndispatched record
        ∨ (record.blockedFrom = some .verified ∧ record.receipt ≠ none
          ∧ record.verifications ≠ [])))

instance (record : BridgeOperationRecord) : Decidable (operationEffectResolved record) := by
  unfold operationEffectResolved; infer_instance

/-- `_acquisition_proven_undispatched`. -/
def acquisitionProvenUndispatched (record : FenceAcquisitionRecord) : Prop :=
  record.state = .blocked ∧ record.blockedFrom = some .intentRecorded ∧ record.receipt = none

instance (record : FenceAcquisitionRecord) :
    Decidable (acquisitionProvenUndispatched record) := by
  unfold acquisitionProvenUndispatched; infer_instance

/-- `_observation_fresh`. -/
def observationFresh (observedAt at' : Datetime) (attempt : BridgeOperationAttempt) : Prop :=
  observedAt ≤ at' ∧ withinSeconds observedAt at' attempt.maxObservationAgeSeconds

instance (observedAt at' : Datetime) (attempt : BridgeOperationAttempt) :
    Decidable (observationFresh observedAt at' attempt) := by
  unfold observationFresh; infer_instance

/-- The acquisition is acknowledged and its receipt binds exactly this fence. -/
def acquiresFence (acquisition : Option FenceAcquisitionRecord) (fence : FenceBinding) : Prop :=
  (acquisition.bind (·.acknowledged?)).map (·.binding) = some fence

instance (acquisition : Option FenceAcquisitionRecord) (fence : FenceBinding) :
    Decidable (acquiresFence acquisition fence) := by
  unfold acquiresFence; infer_instance

/-- The release retry rule: `previous` ended in a tombstone that was durable before the new
request, and both expect the same inventory revision. -/
def retriesRelease (previous : FenceReleaseRecord) (intent : FenceReleaseIntent) : Prop :=
  previous.tombstone?.any (fun receipt => decide (receipt.durableAt ≤ intent.requestedAt)) = true
    ∧ sameRevision intent.expectedInventoryRevision previous.intent.expectedInventoryRevision

instance (previous : FenceReleaseRecord) (intent : FenceReleaseIntent) :
    Decidable (retriesRelease previous intent) := by
  unfold retriesRelease; infer_instance

/-- `_acquisition_sort_key`. -/
def acquisitionSortKey (record : FenceAcquisitionRecord) : Provider ×ₗ ℕ ×ₗ ℕ :=
  toLex (record.intent.provider,
    toLex (record.intent.epoch, record.intent.operationId.hex.toNat))

/-- `_release_sort_key`. -/
def releaseSortKey (record : FenceReleaseRecord) : Provider ×ₗ ℕ ×ₗ ℕ ×ₗ ℕ :=
  toLex (record.intent.provider, toLex (record.intent.epoch,
    toLex (record.intent.releaseAttempt, record.intent.operationId.hex.toNat)))

/-- The record belongs to this attempt of this plan. -/
def belongsTo (planId : PlanId) (planDigest manifestDigest : Digest) (number : ℕ)
    (attempt : BridgeOperationAttempt) : Prop :=
  planId = attempt.planId ∧ planDigest = attempt.planDigest
    ∧ manifestDigest = attempt.manifestDigest ∧ number = attempt.attempt

instance (planId : PlanId) (planDigest manifestDigest : Digest) (number : ℕ)
    (attempt : BridgeOperationAttempt) :
    Decidable (belongsTo planId planDigest manifestDigest number attempt) := by
  unfold belongsTo; infer_instance

/-- The operations of an attempt that use one fence. -/
def fencedOperations (attempt : BridgeOperationAttempt) (acquisitionId : AcquireOperationId) :
    List BridgeOperationRecord :=
  attempt.operations.filter fun item =>
    decide (item.intent.fence.acquisitionOperationId = acquisitionId)

/-- `_acquisition_for_id`. -/
def acquisitionForId (attempt : BridgeOperationAttempt) (operationId : AcquireOperationId) :
    Option FenceAcquisitionRecord :=
  attempt.acquisitions.find? fun item => decide (item.intent.operationId = operationId)

/-! ## The loops of `_validate_attempt` -/

/-- `_claim_local_receipt`, and nothing for a record without a receipt. -/
def claimLocalReceipt (receiptIds : List ReceiptId) (receiptId : Option ReceiptId) :
    Except PyError Unit :=
  forAll (fun receiptId => check (receiptId ∉ receiptIds)
    (.valueError "Attempt receipt identities must be unique.")) receiptId.toList

/-- `if source.operation_id in operation_ids: raise`. -/
def claimOperationId (operationIds : List OperationId) (operationId : OperationId) :
    Except PyError Unit :=
  check (operationId ∉ operationIds)
    (.valueError "Attempt operation identities must be unique.")

/-- The local variables of the acquisition loop. -/
structure AcquisitionScan where
  operationIds : List OperationId := []
  receiptIds : List ReceiptId := []
  acquisitionById : Dict AcquireOperationId FenceAcquisitionRecord := .empty
  providerEpoch : Dict Provider ℕ := .empty

namespace AcquisitionScan

def next (scan : AcquisitionScan) (acquisition : FenceAcquisitionRecord) : AcquisitionScan where
  operationIds := scan.operationIds ++ [.acquire acquisition.intent.operationId]
  receiptIds := scan.receiptIds ++ (AcquisitionRecord.receiptId? acquisition).toList
  acquisitionById := scan.acquisitionById.set acquisition.intent.operationId acquisition
  providerEpoch := scan.providerEpoch.set acquisition.intent.provider acquisition.intent.epoch

def body (attempt : BridgeOperationAttempt) (scan : AcquisitionScan)
    (acquisition : FenceAcquisitionRecord) : Except PyError Unit := do
  acquisition.postInit
  let source := acquisition.intent
  check (belongsTo source.planId source.planDigest source.manifestDigest source.attempt attempt)
    (.valueError "Acquisition does not match its attempt.")
  forAll (fun previousEpoch => check (previousEpoch < source.epoch)
    (.valueError "Provider acquisition epochs must strictly increase."))
    (scan.providerEpoch.get? source.provider).toList
  claimOperationId scan.operationIds (.acquire source.operationId)
  claimLocalReceipt scan.receiptIds (AcquisitionRecord.receiptId? acquisition)

end AcquisitionScan

/-- The local variables of the operation loop; `count` operations have been seen. -/
structure OperationScan where
  operationIds : List OperationId
  receiptIds : List ReceiptId
  writesByKey : Dict ObjectKey BridgeOperationRecord := .empty
  writesById : Dict ObjectOperationId BridgeOperationRecord := .empty
  rollbacks : Dict (Option ObjectOperationId) (List BridgeOperationRecord) := .empty
  objectEpoch : Dict Provider ℕ := .empty
  count : ℕ := 0

namespace OperationScan

/-- A write is found under its key and its ID, a rollback under its parent's ID. -/
def next (scan : OperationScan) (record : BridgeOperationRecord) : OperationScan where
  operationIds := scan.operationIds ++ [.object record.intent.operationId]
  receiptIds := scan.receiptIds ++ (record.receipt.map (·.receiptId)).toList
  writesByKey :=
    if record.intent.kind = .write then scan.writesByKey.set record.intent.key record
    else scan.writesByKey
  writesById :=
    if record.intent.kind = .write then scan.writesById.set record.intent.operationId record
    else scan.writesById
  rollbacks :=
    if record.intent.kind = .write then scan.rollbacks
    else scan.rollbacks.appendTo record.intent.parentOperationId record
  objectEpoch := scan.objectEpoch.set record.intent.provider record.intent.fence.epoch
  count := scan.count + 1

/-- The write branch of the loop. -/
def validateWrite (expectedByKey : Dict ObjectKey BridgeExpectedWrite) (scan : OperationScan)
    (intent : BridgeOperationIntent) : Except PyError Unit :=
  match expectedByKey.get? intent.key with
  | none => .error (.valueError "Write intent is outside exact expected coverage.")
  | some spec => do
    check (intentMatchesExpected intent spec)
      (.valueError "Write intent is outside exact expected coverage.")
    check (scan.writesByKey.get? spec.key = none)
      (.valueError "Expected write has more than one write intent.")

/-- `required_epoch`: the epoch that the next rollback of `parent` has to exceed. -/
def requiredEpoch (parent : BridgeOperationRecord) (rollbackChain : List BridgeOperationRecord) :
    Except PyError ℕ :=
  match rollbackChain.getLast? with
  | none => .ok parent.intent.fence.epoch
  | some previousRollback => do
    check (rollbackProvenNoEffect previousRollback)
      (.valueError "Rollback retry requires exact proven prior no-effect.")
    return previousRollback.intent.fence.epoch

/-- The rollback undoes exactly its parent, under a newer fence than `requiredEpoch`. -/
def undoes (intent : BridgeOperationIntent) (parent : BridgeOperationRecord)
    (requiredEpoch : ℕ) : Prop :=
  intent.provider = parent.intent.provider
    ∧ intent.objectKey = parent.intent.objectKey
    ∧ intent.preFingerprint = parent.intent.postFingerprint
    ∧ intent.postFingerprint = parent.intent.preFingerprint
    ∧ parent.receipt.any (fun receipt =>
        sameRevision intent.expectedRevision receipt.resultRevision) = true
    ∧ requiredEpoch < intent.fence.epoch

instance (intent : BridgeOperationIntent) (parent : BridgeOperationRecord)
    (requiredEpoch : ℕ) : Decidable (undoes intent parent requiredEpoch) := by
  unfold undoes; infer_instance

/-- The rollback branch of the loop. -/
def validateRollback (scan : OperationScan) (intent : BridgeOperationIntent) :
    Except PyError Unit :=
  match intent.parentOperationId.bind scan.writesById.get? with
  | none => .error (.valueError
      "Rollback parent must be an earlier durable verified applied write.")
  | some parent => do
    check (eligibleRollbackParent parent) (.valueError
      "Rollback parent must be an earlier durable verified applied write.")
    let epoch ← requiredEpoch parent
      ((scan.rollbacks.get? (some parent.intent.operationId)).getD [])
    check (undoes intent parent epoch)
      (.valueError "Rollback does not exactly and newly fence its parent.")

/-- The two branches of the loop. -/
def validateKind (expectedByKey : Dict ObjectKey BridgeExpectedWrite) (scan : OperationScan)
    (intent : BridgeOperationIntent) : Except PyError Unit :=
  match intent.kind with
  | .write => validateWrite expectedByKey scan intent
  | .rollback => validateRollback scan intent

def body (attempt : BridgeOperationAttempt)
    (acquisitionById : Dict AcquireOperationId FenceAcquisitionRecord)
    (expectedByKey : Dict ObjectKey BridgeExpectedWrite) (scan : OperationScan)
    (record : BridgeOperationRecord) : Except PyError Unit := do
  record.postInit
  let intent := record.intent
  check (belongsTo intent.planId intent.planDigest intent.manifestDigest intent.attempt attempt
      ∧ intent.sequence = scan.count + 1)
    (.valueError "Object operation does not match attempt sequence.")
  claimOperationId scan.operationIds (.object intent.operationId)
  check (acquiresFence (acquisitionById.get? intent.fence.acquisitionOperationId) intent.fence)
    (.valueError "Object operation lacks its acquired fence receipt.")
  forAll (fun previousEpoch => check (previousEpoch ≤ intent.fence.epoch)
    (.valueError "Object operation fence epochs cannot regress."))
    (scan.objectEpoch.get? intent.provider).toList
  claimLocalReceipt scan.receiptIds (record.receipt.map (·.receiptId))
  forAll (fun authorization =>
      check (observationFresh authorization.observedAt authorization.authorizedAt attempt)
        (.valueError "Object dispatch authorization is stale."))
    record.authorization.toList
  validateKind expectedByKey scan intent

end OperationScan

/-- The local variables of the release loop. -/
structure ReleaseScan where
  operationIds : List OperationId
  receiptIds : List ReceiptId
  releasesByAcquisition : Dict AcquireOperationId (List FenceReleaseRecord) := .empty

namespace ReleaseScan

def next (scan : ReleaseScan) (release : FenceReleaseRecord) : ReleaseScan where
  operationIds := scan.operationIds ++ [.release release.intent.operationId]
  receiptIds := scan.receiptIds ++ (ReleaseRecord.receiptId? release).toList
  releasesByAcquisition :=
    scan.releasesByAcquisition.appendTo release.intent.acquisitionOperationId release

/-- The release names a known acquisition and repeats its receipt. -/
def validateAcquired (acquisitionById : Dict AcquireOperationId FenceAcquisitionRecord)
    (source : FenceReleaseIntent) : Except PyError Unit :=
  match acquisitionById.get? source.acquisitionOperationId with
  | none => .error (.valueError "Release references an unknown acquisition.")
  | some acquisition => validateReleaseIntentAcquisition source acquisition

def body (attempt : BridgeOperationAttempt)
    (acquisitionById : Dict AcquireOperationId FenceAcquisitionRecord) (scan : ReleaseScan)
    (release : FenceReleaseRecord) : Except PyError Unit := do
  release.postInit
  let source := release.intent
  check (belongsTo source.planId source.planDigest source.manifestDigest source.attempt attempt)
    (.valueError "Release does not match its attempt.")
  claimOperationId scan.operationIds (.release source.operationId)
  validateAcquired acquisitionById source
  claimLocalReceipt scan.receiptIds (ReleaseRecord.receiptId? release)

end ReleaseScan

/-! ## Release phase, release chains and fence order -/

/-- The release phase boundary: every closed operation is a resolved write, and every later
operation is a rollback. -/
def validateReleasePhase (attempt : BridgeOperationAttempt) : Except PyError Unit :=
  match attempt.releasePhaseSequence with
  | none => .ok ()
  | some releasePhaseSequence => do
    let closedOperations := attempt.operations.take releasePhaseSequence
    let laterOperations := attempt.operations.drop releasePhaseSequence
    check (∀ item ∈ closedOperations, operationEffectResolved item)
      (.valueError "Release phase closed an unresolved operation.")
    check (∀ item ∈ closedOperations, item.intent.kind = .write)
      (.valueError "Release phase boundary includes a rollback.")
    check (∀ item ∈ laterOperations, item.intent.kind ≠ .write)
      (.valueError "Normal write appears after release phase boundary.")

/-- One release of a chain, after the earlier releases of the same fence. -/
def validateReleaseRetry (earlier : List FenceReleaseRecord) (release : FenceReleaseRecord) :
    Except PyError Unit := do
  check (release.intent.releaseAttempt = earlier.length + 1)
    (.valueError "Release attempts are not contiguous.")
  forAll (fun previous => check (retriesRelease previous release.intent)
    (.valueError "Release retry lacks a durable prior no-effect tombstone."))
    earlier.getLast?.toList

/-- The operations of a fence when its first release begins. -/
def validateReleasedOperations (attempt : BridgeOperationAttempt)
    (acquisitionId : AcquireOperationId) (firstRelease : FenceReleaseRecord) :
    Except PyError Unit := do
  check (∀ item ∈ fencedOperations attempt acquisitionId, operationEffectResolved item)
    (.valueError "Fence release began with unresolved object operations.")
  forAll (fun operation =>
      check (provenUndispatched operation ∨ ∃ verification ∈ operation.verifications,
          verification.verifiedAt ≤ firstRelease.intent.requestedAt)
        (.valueError "Fence release lacks pre-release effect verification."))
    (fencedOperations attempt acquisitionId)

/-- The body of the loop over `releases_by_acquisition.items()`; no chain there is empty. -/
def validateReleaseChain (attempt : BridgeOperationAttempt)
    (entry : AcquireOperationId × List FenceReleaseRecord) : Except PyError Unit := do
  forEachAfter validateReleaseRetry entry.2
  forAll (validateReleasedOperations attempt entry.1) entry.2.head?.toList

/-- The newer fence `current` of a provider follows an older one that never came to be, was
tombstoned, or was durably released. -/
def validateNewerFence (releasesByAcquisition : Dict AcquireOperationId (List FenceReleaseRecord))
    (pair : FenceAcquisitionRecord × FenceAcquisitionRecord) : Except PyError Unit :=
  let previous := pair.1
  let requestedAt := pair.2.intent.requestedAt
  if acquisitionProvenUndispatched previous then
    .ok ()
  else if previous.state = .noEffect then
    check (previous.noEffectReceipt?.any fun receipt => decide (receipt.durableAt ≤ requestedAt))
      (.valueError "A newer fence predates the prior acquisition tombstone.")
  else
    let priorRelease :=
      ((releasesByAcquisition.get? previous.intent.operationId).getD []).getLast?
    check (previous.acknowledged?.isSome ∧ (priorRelease.bind (·.acknowledged?)).any
        fun receipt => decide (receipt.durableAt ≤ requestedAt))
      (.valueError "A newer provider fence requires durable prior release.")

/-! ## Terminal checks -/

/-- `_validate_terminal_verification`. -/
def validateTerminalVerification (record : BridgeOperationRecord)
    (attempt : BridgeOperationAttempt) : Except PyError Unit :=
  match record.verification, attempt.terminalAt with
  | some verification, some terminalAt =>
    check (observationFresh verification.observedAt terminalAt attempt
        ∧ verification.verifiedAt ≤ terminalAt)
      (.valueError "Terminal verification evidence is stale.")
  | _, _ => .error (.valueError "Terminal operation lacks verification evidence.")

/-- The last release of a chain in `_validate_terminal_lifecycle`. -/
def validateTerminalReleases (terminalAt : Datetime) (releaseChain : List FenceReleaseRecord) :
    Except PyError Unit := do
  check (releaseChain ≠ []) (.valueError "Terminal attempt lacks durable fence release.")
  forAll (fun release =>
      check (release.tombstone?.any fun receipt => decide (receipt.durableAt ≤ terminalAt))
        (.valueError "Release retry history contains uncertain effects."))
    releaseChain.dropLast
  check ((releaseChain.getLast?.bind (·.acknowledged?)).any
      fun receipt => decide (receipt.durableAt ≤ terminalAt))
    (.valueError "Applied fence lacks a final durable release.")

/-- The loop body of `_validate_terminal_lifecycle`. -/
def validateTerminalAcquisition (terminalAt : Datetime)
    (releases : Dict AcquireOperationId (List FenceReleaseRecord))
    (entry : AcquireOperationId × FenceAcquisitionRecord) : Except PyError Unit :=
  let acquisition := entry.2
  let releaseChain := (releases.get? entry.1).getD []
  match acquisition.state with
  | .noEffect =>
    check (acquisition.noEffectReceipt?.any (fun receipt => decide (receipt.durableAt ≤ terminalAt))
        ∧ releaseChain = [])
      (.valueError "Terminal acquisition tombstone is incomplete.")
  | .blocked =>
    check (acquisitionProvenUndispatched acquisition ∧ releaseChain = [])
      (.valueError "Blocked acquisition effect remains uncertain.")
  | _ => do
    check (acquisition.acknowledged?.any fun receipt => decide (receipt.durableAt ≤ terminalAt))
      (.valueError "Terminal attempt has incomplete fence acquisition.")
    validateTerminalReleases terminalAt releaseChain

/-- `_validate_terminal_lifecycle`. -/
def validateTerminalLifecycle (terminalAt : Datetime)
    (acquisitions : Dict AcquireOperationId FenceAcquisitionRecord)
    (releases : Dict AcquireOperationId (List FenceReleaseRecord)) : Except PyError Unit := do
  check (acquisitions.entries ≠ [])
    (.valueError "Terminal attempt requires acquired fences.")
  forAll (validateTerminalAcquisition terminalAt releases) acquisitions.entries
  check (∀ operationId ∈ releases.keys, operationId ∈ acquisitions.keys)
    (.valueError "Terminal release references unknown acquisition.")

/-- A write of a committed attempt. -/
def validateCommittedWrite (attempt : BridgeOperationAttempt) (record : BridgeOperationRecord) :
    Except PyError Unit := do
  check (verifiedOutcome record .applied)
    (.valueError "Committed write must be verified and applied.")
  validateTerminalVerification record attempt

/-- The applied case of `validateRestoredWrite`. -/
def validateCompensation (attempt : BridgeOperationAttempt) (record : BridgeOperationRecord)
    (rollbackChain : List BridgeOperationRecord) : Except PyError Unit := do
  check (eligibleRollbackParent record ∧ rollbackChain ≠ [])
    (.valueError "Applied write lacks exact verified rollback.")
  check (∀ item ∈ rollbackChain.dropLast, rollbackProvenNoEffect item)
    (.valueError "Rollback retry chain contains uncertain effects.")
  forAll (fun finalRollback => do
      check (verifiedOutcome finalRollback .applied)
        (.valueError "Applied write lacks final verified compensation.")
      validateTerminalVerification finalRollback attempt)
    rollbackChain.getLast?.toList

/-- A write of a restored attempt. -/
def validateRestoredWrite (attempt : BridgeOperationAttempt)
    (rollbacks : Dict (Option ObjectOperationId) (List BridgeOperationRecord))
    (record : BridgeOperationRecord) : Except PyError Unit :=
  let rollbackChain := (rollbacks.get? (some record.intent.operationId)).getD []
  if provenUndispatched record then
    check (rollbackChain = []) (.valueError "Undispatched write cannot have a rollback.")
  else
    match record.receipt, record.verification with
    | some receipt, some _ =>
      match receipt.outcome with
      | .noEffect => do
        check (record.state = .verified)
          (.valueError "No-effect write has uncertain terminal state.")
        check (rollbackChain = []) (.valueError "No-effect write cannot have a rollback.")
        validateTerminalVerification record attempt
      | .applied => validateCompensation attempt record rollbackChain
    | _, _ => .error (.valueError "Restored write must have a verified durable outcome.")

/-- `blocked_evidence`. -/
def blockedEvidence (attempt : BridgeOperationAttempt) : Prop :=
  (∃ item ∈ attempt.acquisitions, item.state = .blocked)
    ∨ (∃ item ∈ attempt.operations, item.state = .blocked)
    ∨ (∃ item ∈ attempt.releases, item.state = .blocked)

instance (attempt : BridgeOperationAttempt) : Decidable (blockedEvidence attempt) := by
  unfold blockedEvidence; infer_instance

/-- `no_effect_acquisition_evidence`. -/
def noEffectAcquisitionEvidence (attempt : BridgeOperationAttempt) : Prop :=
  ∃ item ∈ attempt.acquisitions, item.state = .noEffect

instance (attempt : BridgeOperationAttempt) : Decidable (noEffectAcquisitionEvidence attempt) := by
  unfold noEffectAcquisitionEvidence; infer_instance

/-- The state part of `_validate_attempt`, over the dictionaries that its loops built. -/
def validateState (attempt : BridgeOperationAttempt)
    (acquisitionById : Dict AcquireOperationId FenceAcquisitionRecord)
    (expectedByKey : Dict ObjectKey BridgeExpectedWrite)
    (writesByKey : Dict ObjectKey BridgeOperationRecord)
    (rollbacks : Dict (Option ObjectOperationId) (List BridgeOperationRecord))
    (releasesByAcquisition : Dict AcquireOperationId (List FenceReleaseRecord)) :
    Except PyError Unit :=
  match attempt.state with
  | .open => do
    check (attempt.reasonCode = none ∧ attempt.terminalAt = none)
      (.valueError "Open attempt cannot have terminal metadata.")
    check (¬ blockedEvidence attempt)
      (.valueError "Open attempt cannot contain blocked operations.")
  | .blocked => do
    check (attempt.reasonCode ≠ none ∧ blockedEvidence attempt)
      (.valueError "Blocked attempt requires fixed blocked evidence.")
    check (attempt.terminalAt = none)
      (.valueError "Compensatable blocked attempt is not terminalized.")
  | .committed =>
    match attempt.terminalAt with
    | none => .error (.valueError "Terminal attempt requires its terminal time.")
    | some terminalAt => do
      check (attempt.reasonCode = none ∧ ¬ blockedEvidence attempt)
        (.valueError "Committed attempt cannot retain blocked evidence.")
      check ((∀ key ∈ writesByKey.keys, key ∈ expectedByKey.keys)
          ∧ ∀ key ∈ expectedByKey.keys, key ∈ writesByKey.keys)
        (.valueError "Committed attempt lacks exact expected-write coverage.")
      validateTerminalLifecycle terminalAt acquisitionById releasesByAcquisition
      check (∀ rollbackChain ∈ rollbacks.values, rollbackChain = [])
        (.valueError "Committed attempt cannot contain rollbacks.")
      forAll (validateCommittedWrite attempt) writesByKey.values
  | .restored =>
    match attempt.terminalAt with
    | none => .error (.valueError "Terminal attempt requires its terminal time.")
    | some terminalAt => do
      check (blockedEvidence attempt ↔ attempt.reasonCode ≠ none)
        (.valueError "Restored blocked evidence and reason must agree.")
      check ((∀ key ∈ expectedByKey.keys, key ∈ writesByKey.keys)
          ∨ blockedEvidence attempt ∨ noEffectAcquisitionEvidence attempt)
        (.valueError "Missing writes require immutable abort evidence.")
      validateTerminalLifecycle terminalAt acquisitionById releasesByAcquisition
      forAll (validateRestoredWrite attempt rollbacks) writesByKey.values

/-! ## `_validate_attempt` -/

/-- The checks before the loops. -/
def validateHeader (attempt : BridgeOperationAttempt) : Except PyError Unit := do
  validatePlanBinding attempt.planId attempt.planDigest
  validatePositiveInteger attempt.attempt "Attempt number"
  validateFreshnessSeconds attempt.maxObservationAgeSeconds
  check (attempt.expectedWrites ≠ [])
    (.valueError "Attempt requires a non-empty expected-write tuple.")
  forAll BridgeExpectedWrite.postInit attempt.expectedWrites
  let expectedKeys := attempt.expectedWrites.map (·.key)
  check (expectedKeys = sortedBy id expectedKeys ∧ expectedKeys.Nodup)
    (.valueError "Expected writes must be unique and canonically sorted.")
  forAll (fun releasePhaseSequence => check (releasePhaseSequence ≤ attempt.operations.length)
    (.valueError "Release phase sequence exceeds operation history."))
    attempt.releasePhaseSequence.toList
  check (attempt.releases ≠ [] ↔ attempt.releasePhaseSequence ≠ none)
    (.valueError "Release records and release phase boundary must agree.")

/-- `_validate_attempt`. -/
def validateAttempt (attempt : BridgeOperationAttempt) : Except PyError Unit := do
  validateHeader attempt
  check (sortedBy acquisitionSortKey attempt.acquisitions = attempt.acquisitions)
    (.valueError "Acquisitions are not canonically sorted.")
  let acquired ← forEach (AcquisitionScan.body attempt) AcquisitionScan.next {}
    attempt.acquisitions
  let expectedByKey := Dict.comprehension BridgeExpectedWrite.key id attempt.expectedWrites
  let operated ← forEach (OperationScan.body attempt acquired.acquisitionById expectedByKey)
    OperationScan.next
    { operationIds := acquired.operationIds, receiptIds := acquired.receiptIds }
    attempt.operations
  validateReleasePhase attempt
  check (sortedBy releaseSortKey attempt.releases = attempt.releases)
    (.valueError "Releases are not canonically sorted.")
  let released ← forEach (ReleaseScan.body attempt acquired.acquisitionById) ReleaseScan.next
    { operationIds := operated.operationIds, receiptIds := operated.receiptIds }
    attempt.releases
  forAll (validateReleaseChain attempt) released.releasesByAcquisition.entries
  let acquisitionsByProvider := Dict.groupBy (·.intent.provider) attempt.acquisitions
  forAll (fun providerAcquisitions =>
      forAll (validateNewerFence released.releasesByAcquisition)
        (providerAcquisitions.zip providerAcquisitions.tail))
    acquisitionsByProvider.values
  validateState attempt acquired.acquisitionById expectedByKey operated.writesByKey
    operated.rollbacks released.releasesByAcquisition

namespace BridgeOperationAttempt

/-- `BridgeOperationAttempt.__post_init__`. -/
def postInit (self : BridgeOperationAttempt) : Except PyError Unit :=
  validateAttempt self

/-- `BridgeOperationAttempt.open`. -/
def «open» (planId : PlanId) (planDigest manifestDigest : Digest) (attempt : ℕ)
    (maxObservationAgeSeconds : ℕ) (expectedWrites : List BridgeExpectedWrite) :
    Except PyError BridgeOperationAttempt := do
  let opened : BridgeOperationAttempt :=
    { planId, planDigest, manifestDigest, attempt, state := .open, maxObservationAgeSeconds,
      expectedWrites }
  opened.postInit
  return opened

end BridgeOperationAttempt

/-! ## Compensation and retry -/

/-- The rollback chains of `_provider_needs_compensation` and `_retry_expected_writes`. -/
def rollbackChains (attempt : BridgeOperationAttempt) :
    Dict (Option ObjectOperationId) (List BridgeOperationRecord) :=
  Dict.groupBy (·.intent.parentOperationId)
    (attempt.operations.filter fun item => decide (item.intent.kind = .rollback))

/-- `_provider_needs_compensation`. -/
def providerNeedsCompensation (attempt : BridgeOperationAttempt) (provider : Provider) : Prop :=
  ∃ item ∈ attempt.operations,
    item.intent.provider = provider ∧ item.intent.kind = .write ∧ eligibleRollbackParent item
      ∧ ∀ last ∈ (((rollbackChains attempt).get? (some item.intent.operationId)).getD []).getLast?,
          rollbackProvenNoEffect last

instance (attempt : BridgeOperationAttempt) (provider : Provider) :
    Decidable (providerNeedsCompensation attempt provider) := by
  unfold providerNeedsCompensation; infer_instance

/-- The revision that `_retry_expected_writes` expects an object to be left at. -/
def retryRevision (attempt : BridgeOperationAttempt)
    (writes : Dict ObjectKey BridgeOperationRecord) (expected : BridgeExpectedWrite) :
    Except PyError Revision :=
  match writes.get? expected.key with
  | none => .ok expected.expectedRevision
  | some write =>
    if provenUndispatched write then
      .ok expected.expectedRevision
    else
      match write.receipt with
      | none => .error (.valueError "Restored retry write lacks a receipt.")
      | some receipt =>
        match receipt.outcome with
        | .noEffect => .ok receipt.resultRevision
        | .applied =>
          let rollbackChain :=
            ((rollbackChains attempt).get? (some write.intent.operationId)).getD []
          match rollbackChain.getLast?.bind (·.receipt) with
          | none => .error (.valueError "Restored retry write lacks rollback receipt.")
          | some rollback => .ok rollback.resultRevision

/-- The loop of `_retry_expected_writes`. -/
def retryWrites (attempt : BridgeOperationAttempt)
    (writes : Dict ObjectKey BridgeOperationRecord) :
    List BridgeExpectedWrite → Except PyError (List BridgeExpectedWrite)
  | [] => .ok []
  | expected :: rest => do
    let revision ← retryRevision attempt writes expected
    let retry := { expected with expectedRevision := revision }
    retry.postInit
    return retry :: (← retryWrites attempt writes rest)

/-- `_retry_expected_writes`. -/
def retryExpectedWrites (attempt : BridgeOperationAttempt) :
    Except PyError (List BridgeExpectedWrite) := do
  check (attempt.state = .restored)
    (.valueError "Retry coverage requires a restored attempt.")
  let writes := Dict.comprehension (fun item => item.intent.key) id
    (attempt.operations.filter fun item => decide (item.intent.kind = .write))
  retryWrites attempt writes attempt.expectedWrites

end TrueFamily.Transaction
