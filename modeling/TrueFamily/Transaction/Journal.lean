import Mathlib.Logic.Relation
import TrueFamily.Lib.Method
import TrueFamily.Transaction.AttemptCheck

/-!
# The journal

`InMemoryBridgeOperationJournal`: the attempts of every plan, and indexes that find an operation
by its identity. Mutators are `Method`s: they read the journal, check, and assign. Every check
runs before the first assignment except in `append_attempt`, which creates an empty list for an
unknown plan first.

A mutator that stores a new record is split where the source calls `_store_attempt`: the `new…`
function computes the record and the updated attempt, or raises; the method then stores and
indexes them.
-/

namespace TrueFamily.Transaction

open Checked Sorting

variable [DigestJson]

/-! ## State -/

/-- The kind that `_identity_index` records for an operation ID. -/
inductive IdentityKind
  | acquisition | object | release
  deriving DecidableEq, Repr

/-- The kind of operation that an ID names by its tag. -/
def OperationId.kind : OperationId → IdentityKind
  | .acquire _ => .acquisition
  | .object _ => .object
  | .release _ => .release

/-- `tuple[str, int, int]`: where a record is found. -/
structure Location where
  planId : PlanId
  attempt : ℕ
  index : ℕ
  deriving DecidableEq

/-- `InMemoryBridgeOperationJournal`. -/
structure InMemoryBridgeOperationJournal where
  attempts : Dict PlanId (List BridgeOperationAttempt) := .empty
  objectIndex : Dict ObjectOperationId Location := .empty
  acquisitionIndex : Dict AcquireOperationId Location := .empty
  releaseIndex : Dict ReleaseOperationId Location := .empty
  identityIndex : Dict OperationId IdentityKind := .empty
  receiptIndex : Dict ReceiptId OperationId := .empty
  deriving DecidableEq

abbrev Journal := InMemoryBridgeOperationJournal

/-- A method of the journal. -/
abbrev JournalMethod (α : Type) := Method Journal PyError α

namespace InMemoryBridgeOperationJournal

/-! ## Queries -/

/-- `attempts_for`. -/
def attemptsFor (journal : Journal) (planId : PlanId) : List BridgeOperationAttempt :=
  (journal.attempts.get? planId).getD []

/-- The acquisition intents of one provider, over all plans and attempts. -/
def providerIntents (journal : Journal) (provider : Provider) : List FenceAcquisitionIntent :=
  ((journal.attempts.values.flatten.flatMap (·.acquisitions)).map (·.intent)).filter
    fun intent => decide (intent.provider = provider)

/-- `provider_epoch_high_water`. -/
def providerEpochHighWater (journal : Journal) (provider : Provider) : Option ℕ :=
  ((journal.providerIntents provider).map (·.epoch)).max?

/-- `get_attempt`. -/
def getAttempt (journal : Journal) (planId : PlanId) (attempt : ℕ) :
    Except PyError BridgeOperationAttempt := do
  validatePositiveInteger attempt "Journal attempt"
  match (journal.attempts.get? planId).bind fun attempts => attempts[attempt - 1]? with
  | some found => .ok found
  | none => .error (.keyError "Unknown bridge operation attempt.")

/-- `self._attempts[location.plan_id][location.attempt - 1]`. -/
def attemptAt (journal : Journal) (location : Location) :
    Except PyError BridgeOperationAttempt :=
  match journal.attempts.get? location.planId with
  | none => .error (.keyError "plan_id")
  | some attempts =>
    match attempts[location.attempt - 1]? with
    | none => .error (.indexError "list index out of range")
    | some attempt => .ok attempt

/-- `items[index]`. -/
def item {α : Type} (items : List α) (index : ℕ) : Except PyError α :=
  match items[index]? with
  | none => .error (.indexError "tuple index out of range")
  | some found => .ok found

/-- `_object_location`. -/
def objectLocation (journal : Journal) (operationId : ObjectOperationId) :
    Except PyError Location :=
  match journal.objectIndex.get? operationId with
  | none => .error (.keyError "Unknown object operation.")
  | some location => .ok location

/-- `_acquisition_location`. -/
def acquisitionLocation (journal : Journal) (operationId : AcquireOperationId) :
    Except PyError Location :=
  match journal.acquisitionIndex.get? operationId with
  | none => .error (.keyError "Unknown fence acquisition.")
  | some location => .ok location

/-- `_release_location`. -/
def releaseLocation (journal : Journal) (operationId : ReleaseOperationId) :
    Except PyError Location :=
  match journal.releaseIndex.get? operationId with
  | none => .error (.keyError "Unknown fence release.")
  | some location => .ok location

/-- `get_operation`. -/
def getOperation (journal : Journal) (operationId : ObjectOperationId) :
    Except PyError BridgeOperationRecord := do
  let location ← journal.objectLocation operationId
  let attempt ← journal.attemptAt location
  item attempt.operations location.index

/-- `get_acquisition`. -/
def getAcquisition (journal : Journal) (operationId : AcquireOperationId) :
    Except PyError FenceAcquisitionRecord := do
  let location ← journal.acquisitionLocation operationId
  let attempt ← journal.attemptAt location
  item attempt.acquisitions location.index

/-- `get_release`. -/
def getRelease (journal : Journal) (operationId : ReleaseOperationId) :
    Except PyError FenceReleaseRecord := do
  let location ← journal.releaseLocation operationId
  let attempt ← journal.attemptAt location
  item attempt.releases location.index

/-! ## Assertions -/

/-- `_assert_new_epoch`. -/
def assertNewEpoch (journal : Journal) (provider : Provider) (epoch : ℕ)
    (requestedAt : Datetime) : Except PyError Unit := do
  forAll (fun highWater => check (highWater < epoch)
    (.journalConflict "Provider acquisition epoch regressed the global high-water mark."))
    (journal.providerEpochHighWater provider).toList
  let priorRequests := (journal.providerIntents provider).map (·.requestedAt)
  forAll (fun latest => check (latest ≤ requestedAt)
    (.journalConflict "Provider acquisition request predates the global epoch history."))
    priorRequests.max?.toList

/-- The key by which `_assert_global_epoch_history` orders the intents of a provider. -/
def historySortKey (intent : FenceAcquisitionIntent) : Datetime ×ₗ ℕ ×ₗ ℕ :=
  toLex (intent.requestedAt, toLex (intent.epoch, intent.operationId.hex.toNat))

/-- `_assert_global_epoch_history`. -/
def assertGlobalEpochHistory (journal : Journal) (candidate : BridgeOperationAttempt) :
    Except PyError Unit :=
  let recorded := (journal.attempts.values.flatten.flatMap (·.acquisitions)).map (·.intent)
  let histories := Dict.groupBy (·.provider)
    (recorded ++ candidate.acquisitions.map (·.intent))
  forAll (fun entry =>
      let epochs := (sortedBy historySortKey entry.2).map (·.epoch)
      check (∀ pair ∈ epochs.zip epochs.tail, pair.1 < pair.2)
        (.journalConflict ("Provider " ++ entry.1.name
          ++ " has non-monotonic cross-plan epochs.")))
    histories.entries

/-- `_assert_prepopulated_retry_epochs`. -/
def assertPrepopulatedRetryEpochs (attempt : BridgeOperationAttempt)
    (previousAttempts : List BridgeOperationAttempt) : Except PyError Unit :=
  let epochsOf (provider : Provider) (records : List FenceAcquisitionRecord) : List ℕ :=
    (records.filter fun item => decide (item.intent.provider = provider)).map (·.intent.epoch)
  forAll (fun provider =>
      let prior := epochsOf provider (previousAttempts.flatMap (·.acquisitions))
      let current := epochsOf provider attempt.acquisitions
      match prior.max?, current.min? with
      | some highest, some lowest =>
        check (highest < lowest)
          (.journalConflict "Pre-populated retry contains a regressed provider epoch.")
      | _, _ => .ok ())
    Provider.all

/-- `_attempt_identity_rows`. -/
def attemptIdentityRows (attempt : BridgeOperationAttempt) :
    List (OperationId × Option ReceiptId) :=
  attempt.acquisitions.map (fun item =>
      (.acquire item.intent.operationId, AcquisitionRecord.receiptId? item))
    ++ attempt.operations.map (fun item =>
      (.object item.intent.operationId, item.receipt.map (·.receiptId)))
    ++ attempt.releases.map (fun item =>
      (.release item.intent.operationId, ReleaseRecord.receiptId? item))

/-- `_assert_unclaimed_attempt`: no row repeats an identity of the journal or of an earlier
row. -/
def assertUnclaimedAttempt (journal : Journal) (attempt : BridgeOperationAttempt) :
    Except PyError Unit :=
  forEachAfter (fun earlier row => do
      check (row.1 ∉ earlier.map Prod.fst ∧ journal.identityIndex.get? row.1 = none)
        (.journalConflict "Operation ID is globally immutable.")
      forAll (fun receiptId =>
          check (receiptId ∉ earlier.filterMap Prod.snd
              ∧ journal.receiptIndex.get? receiptId = none)
            (.journalConflict "Receipt ID is globally immutable."))
        row.2.toList)
    (attemptIdentityRows attempt)

/-- `_assert_receipt_unclaimed`. -/
def assertReceiptUnclaimed (journal : Journal) (receiptId : ReceiptId)
    (operationId : OperationId) : Except PyError Unit :=
  check (∀ existing ∈ journal.receiptIndex.get? receiptId, existing = operationId)
    (.journalConflict "Receipt ID is bound to another operation.")

/-! ## Assignments -/

/-- The assignment of `_store_attempt`. -/
def withAttempt (journal : Journal) (attempt : BridgeOperationAttempt) : Journal :=
  { journal with
    attempts := journal.attempts.set attempt.planId
      ((journal.attemptsFor attempt.planId).set (attempt.attempt - 1) attempt) }

/-- `_store_attempt`. -/
def storeAttempt (attempt : BridgeOperationAttempt) : JournalMethod Unit := do
  attempt.postInit
  Method.modify fun journal => journal.withAttempt attempt

/-- `_claim_identity`. -/
def claimIdentity (operationId : OperationId) (kind : IdentityKind) : JournalMethod Unit := do
  let journal ← Method.get
  Method.require (∀ existing ∈ journal.identityIndex.get? operationId, existing = kind)
    (.journalConflict "Operation ID changed operation kind.")
  Method.modify fun journal =>
    { journal with identityIndex := journal.identityIndex.set operationId kind }

/-- `self._receipt_index[receipt_id] = operation_id`. -/
def withReceipt (journal : Journal) (receiptId : ReceiptId) (operationId : OperationId) :
    Journal :=
  { journal with receiptIndex := journal.receiptIndex.set receiptId operationId }

/-- The receipt assignment of `_index_attempt`. -/
def withReceipt? (journal : Journal) (receiptId : Option ReceiptId) (operationId : OperationId) :
    Journal :=
  match receiptId with
  | none => journal
  | some receiptId => journal.withReceipt receiptId operationId

/-- `self._acquisition_index[operation_id] = (plan_id, attempt, index)`. -/
def withAcquisitionLocation (journal : Journal) (attempt : BridgeOperationAttempt)
    (entry : FenceAcquisitionRecord × ℕ) : Journal :=
  { journal with
    acquisitionIndex := journal.acquisitionIndex.set entry.1.intent.operationId
      ⟨attempt.planId, attempt.attempt, entry.2⟩ }

/-- `self._object_index[operation_id] = (plan_id, attempt, index)`. -/
def withObjectLocation (journal : Journal) (attempt : BridgeOperationAttempt)
    (entry : BridgeOperationRecord × ℕ) : Journal :=
  { journal with
    objectIndex := journal.objectIndex.set entry.1.intent.operationId
      ⟨attempt.planId, attempt.attempt, entry.2⟩ }

/-- `self._release_index[operation_id] = (plan_id, attempt, index)`. -/
def withReleaseLocation (journal : Journal) (attempt : BridgeOperationAttempt)
    (entry : FenceReleaseRecord × ℕ) : Journal :=
  { journal with
    releaseIndex := journal.releaseIndex.set entry.1.intent.operationId
      ⟨attempt.planId, attempt.attempt, entry.2⟩ }

/-- `_reindex_acquisitions`. -/
def reindexAcquisitions (journal : Journal) (attempt : BridgeOperationAttempt) : Journal :=
  attempt.acquisitions.zipIdx.foldl (fun journal entry =>
    journal.withAcquisitionLocation attempt entry) journal

/-- `_reindex_releases`. -/
def reindexReleases (journal : Journal) (attempt : BridgeOperationAttempt) : Journal :=
  attempt.releases.zipIdx.foldl (fun journal entry =>
    journal.withReleaseLocation attempt entry) journal

/-- `_index_attempt`. -/
def indexAttempt (attempt : BridgeOperationAttempt) : JournalMethod Unit := do
  Method.forEach (fun entry : FenceAcquisitionRecord × ℕ => do
      let operationId := .acquire entry.1.intent.operationId
      claimIdentity operationId .acquisition
      Method.modify fun journal => (journal.withAcquisitionLocation attempt entry).withReceipt?
        (AcquisitionRecord.receiptId? entry.1) operationId)
    attempt.acquisitions.zipIdx
  Method.forEach (fun entry : BridgeOperationRecord × ℕ => do
      let operationId := .object entry.1.intent.operationId
      claimIdentity operationId .object
      Method.modify fun journal => (journal.withObjectLocation attempt entry).withReceipt?
        (entry.1.receipt.map (·.receiptId)) operationId)
    attempt.operations.zipIdx
  Method.forEach (fun entry : FenceReleaseRecord × ℕ => do
      let operationId := .release entry.1.intent.operationId
      claimIdentity operationId .release
      Method.modify fun journal => (journal.withReleaseLocation attempt entry).withReceipt?
        (ReleaseRecord.receiptId? entry.1) operationId)
    attempt.releases.zipIdx

/-- The assignment of `_replace_acquisition`. -/
def replaceAcquisition (record : FenceAcquisitionRecord) : JournalMethod Unit := do
  let journal ← Method.get
  let location ← journal.acquisitionLocation record.intent.operationId
  let attempt ← journal.getAttempt location.planId location.attempt
  let updated := { attempt with acquisitions := attempt.acquisitions.set location.index record }
  updated.postInit
  storeAttempt updated

/-- `_replace_release`. -/
def replaceRelease (record : FenceReleaseRecord) : JournalMethod Unit := do
  let journal ← Method.get
  let location ← journal.releaseLocation record.intent.operationId
  let attempt ← journal.getAttempt location.planId location.attempt
  let updated := { attempt with releases := attempt.releases.set location.index record }
  updated.postInit
  storeAttempt updated

/-- `_replace_object`. -/
def replaceObject (record : BridgeOperationRecord) (allowRecovery : Bool) :
    JournalMethod Unit := do
  let journal ← Method.get
  let location ← journal.objectLocation record.intent.operationId
  let attempt ← journal.getAttempt location.planId location.attempt
  Method.require (¬ (attempt.state = .blocked ∧ ¬ allowRecovery) ∨ record.intent.kind = .rollback)
    (.journalConflict "Blocked attempt rejects new write dispatch.")
  let updated := { attempt with operations := attempt.operations.set location.index record }
  updated.postInit
  storeAttempt updated

/-! ## Appending attempts -/

/-- The checks of `append_attempt` against the previous attempts of the plan. -/
def assertRetry (attempt : BridgeOperationAttempt) (attempts : List BridgeOperationAttempt) :
    Except PyError Unit :=
  match attempts.getLast? with
  | none =>
    check (attempt.attempt = 1) (.journalConflict "The first attempt must be attempt one.")
  | some previous => do
    check (previous.state = .restored)
      (.journalConflict "A retry is allowed only after a restored attempt.")
    let retryWrites ← retryExpectedWrites previous
    check (previous.planDigest = attempt.planDigest
        ∧ previous.manifestDigest = attempt.manifestDigest
        ∧ retryWrites = attempt.expectedWrites
        ∧ previous.maxObservationAgeSeconds = attempt.maxObservationAgeSeconds)
      (.journalConflict "A retry changed immutable attempt scope.")
    assertPrepopulatedRetryEpochs attempt attempts

/-- `append_attempt`. -/
def appendAttempt (attempt : BridgeOperationAttempt) : JournalMethod BridgeOperationAttempt := do
  attempt.postInit
  -- `self._attempts.setdefault(attempt.plan_id, [])`
  Method.modify fun journal =>
    { journal with
      attempts := journal.attempts.set attempt.planId (journal.attemptsFor attempt.planId) }
  let journal ← Method.get
  let attempts := journal.attemptsFor attempt.planId
  match attempts[attempt.attempt - 1]? with
  | some existing =>
    Method.require (existing = attempt)
      (.journalConflict "An existing attempt has conflicting data.")
    return existing
  | none =>
    Method.require (attempt.attempt = attempts.length + 1)
      (.journalConflict "Attempts must be appended contiguously.")
    assertRetry attempt attempts
    journal.assertUnclaimedAttempt attempt
    journal.assertGlobalEpochHistory attempt
    Method.modify fun journal =>
      { journal with attempts := journal.attempts.set attempt.planId (attempts ++ [attempt]) }
    indexAttempt attempt
    return attempt

/-! ## Acquisitions -/

/-- `record_acquisition_intent` on a known operation ID. -/
def existingAcquisition (journal : Journal) (kind : IdentityKind)
    (intent : FenceAcquisitionIntent) : Except PyError FenceAcquisitionRecord :=
  match kind with
  | .acquisition => do
    let existing ← journal.getAcquisition intent.operationId
    check (existing.intent = intent)
      (.journalConflict "Acquisition operation ID is not immutable.")
    return existing
  | _ => .error (.journalConflict "Acquisition operation ID is not immutable.")

/-- Which attempts may acquire a fence of a provider. -/
def assertMayAcquire (attempt : BridgeOperationAttempt) (provider : Provider) :
    Except PyError Unit :=
  match attempt.state with
  | .blocked =>
    check (providerNeedsCompensation attempt provider)
      (.journalConflict "Blocked attempts may acquire only for required compensation.")
  | .open => .ok ()
  | _ => .error (.journalConflict "A terminal attempt cannot acquire a fence.")

/-- `record_acquisition_intent` up to the store. -/
def newAcquisition (journal : Journal) (intent : FenceAcquisitionIntent) :
    Except PyError (FenceAcquisitionRecord × BridgeOperationAttempt) := do
  let attempt ← journal.getAttempt intent.planId intent.attempt
  assertMayAcquire attempt intent.provider
  journal.assertNewEpoch intent.provider intent.epoch intent.requestedAt
  let record : FenceAcquisitionRecord := LifecycleRecord.recorded intent
  record.postInit
  let updated := { attempt with
    acquisitions := sortedBy acquisitionSortKey (attempt.acquisitions ++ [record]) }
  updated.postInit
  return (record, updated)

/-- `record_acquisition_intent`. -/
def recordAcquisitionIntent (intent : FenceAcquisitionIntent) :
    JournalMethod FenceAcquisitionRecord := do
  intent.postInit
  let journal ← Method.get
  match journal.identityIndex.get? (.acquire intent.operationId) with
  | some existingKind => journal.existingAcquisition existingKind intent
  | none =>
    let (record, updated) ← journal.newAcquisition intent
    storeAttempt updated
    claimIdentity (.acquire intent.operationId) .acquisition
    Method.modify fun journal =>
      (journal.withAcquisitionLocation updated
        (record, updated.acquisitions.idxOf record)).reindexAcquisitions updated
    return record

/-- `arm_acquisition`. -/
def armAcquisition (operationId : AcquireOperationId) : JournalMethod FenceAcquisitionRecord := do
  let journal ← Method.get
  let record ← journal.getAcquisition operationId
  if record.state = .dispatchArmed then
    return record
  else
    let updated ← record.arm
    replaceAcquisition updated
    return updated

/-- `record_acquisition_receipt`, for a record without a receipt. -/
def acknowledgedAcquisition (journal : Journal) (record : FenceAcquisitionRecord)
    (receipt : AcquisitionLifecycleReceipt) : Except PyError FenceAcquisitionRecord := do
  journal.assertReceiptUnclaimed receipt.receiptId (.acquire receipt.operationId)
  rewrap (receipt.validateFor record.intent)
    (PyError.onInvalid (.journalConflict "Acquisition receipt does not match."))
  rewrap (record.acknowledge receipt)
    (PyError.onTransition (.journalConflict "Acquisition receipt arrived in an invalid state."))

/-- `record_acquisition_receipt`. -/
def recordAcquisitionReceipt (receipt : AcquisitionLifecycleReceipt) :
    JournalMethod FenceAcquisitionRecord := do
  receipt.postInit
  let journal ← Method.get
  let record ← journal.getAcquisition receipt.operationId
  match record.receipt with
  | some existing =>
    Method.require (existing = receipt)
      (.journalConflict "Acquisition has a conflicting receipt.")
    return record
  | none =>
    let updated ← journal.acknowledgedAcquisition record receipt
    replaceAcquisition updated
    Method.modify fun journal =>
      journal.withReceipt receipt.receiptId (.acquire receipt.operationId)
    return updated

/-- `block_acquisition`. -/
def blockAcquisition (operationId : AcquireOperationId) (reasonCode : BridgeBlockReason) :
    JournalMethod FenceAcquisitionRecord := do
  let journal ← Method.get
  let record ← journal.getAcquisition operationId
  if record.state = .blocked then
    Method.require (record.reasonCode = some reasonCode)
      (.journalConflict "Blocked acquisition reason is immutable.")
    return record
  else
    let location ← journal.acquisitionLocation operationId
    let attempt ← journal.getAttempt location.planId location.attempt
    let blocked ← record.block reasonCode
    let updated := { attempt with
      state := .blocked
      acquisitions := attempt.acquisitions.set location.index blocked
      reasonCode := attempt.reasonCode.or (some reasonCode)
      terminalAt := none }
    updated.postInit
    storeAttempt updated
    return blocked

/-! ## Releases -/

/-- `record_release_intent` on a known operation ID. -/
def existingRelease (journal : Journal) (kind : IdentityKind) (intent : FenceReleaseIntent) :
    Except PyError FenceReleaseRecord :=
  match kind with
  | .release => do
    let existing ← journal.getRelease intent.operationId
    check (existing.intent = intent)
      (.journalConflict "Release operation ID is not immutable.")
    return existing
  | _ => .error (.journalConflict "Release operation ID is not immutable.")

/-- The release repeats the receipt of a journaled acquisition. -/
def assertAcquired (attempt : BridgeOperationAttempt) (intent : FenceReleaseIntent) :
    Except PyError Unit :=
  match acquisitionForId attempt intent.acquisitionOperationId with
  | none => .error (.journalConflict "Release acquisition is not journaled.")
  | some acquisition => validateReleaseIntentAcquisition intent acquisition

/-- The release phase boundary that a new release leaves behind. -/
def releaseBoundary (attempt : BridgeOperationAttempt) : Except PyError ℕ :=
  if attempt.releases = [] then do
    check (attempt.releasePhaseSequence = none)
      (.journalConflict "Release phase boundary is inconsistent.")
    check (∀ item ∈ attempt.operations, operationEffectResolved item)
      (.journalConflict "Release phase requires every recorded operation to resolve.")
    return attempt.operations.length
  else
    match attempt.releasePhaseSequence with
    | none => .error (.journalConflict "Release phase lacks its durable boundary.")
    | some releasePhaseSequence => .ok releasePhaseSequence

/-- `prior_releases`. -/
def priorReleases (attempt : BridgeOperationAttempt) (acquisitionId : AcquireOperationId) :
    List FenceReleaseRecord :=
  sortedBy (fun item : FenceReleaseRecord => item.intent.releaseAttempt)
    (attempt.releases.filter fun item =>
      decide (item.intent.acquisitionOperationId = acquisitionId))

/-- `record_release_intent` up to the store. -/
def newRelease (journal : Journal) (intent : FenceReleaseIntent) :
    Except PyError (FenceReleaseRecord × BridgeOperationAttempt) := do
  let attempt ← journal.getAttempt intent.planId intent.attempt
  check (attempt.state = .open ∨ attempt.state = .blocked)
    (.journalConflict "A terminal attempt cannot release a fence.")
  assertAcquired attempt intent
  let releasePhaseSequence ← releaseBoundary attempt
  check (∀ item ∈ fencedOperations attempt intent.acquisitionOperationId,
      operationEffectResolved item)
    (.journalConflict "A fence cannot be released with unresolved object operations.")
  let prior := priorReleases attempt intent.acquisitionOperationId
  check (intent.releaseAttempt = prior.length + 1)
    (.journalConflict "Release attempts must be contiguous.")
  forAll (fun previous => check (retriesRelease previous intent)
    (.journalConflict "A release retry requires a durable prior no-effect tombstone."))
    prior.getLast?.toList
  let record : FenceReleaseRecord := LifecycleRecord.recorded intent
  record.postInit
  let updated := { attempt with
    releases := sortedBy releaseSortKey (attempt.releases ++ [record])
    releasePhaseSequence := some releasePhaseSequence }
  updated.postInit
  return (record, updated)

/-- `record_release_intent`. -/
def recordReleaseIntent (intent : FenceReleaseIntent) : JournalMethod FenceReleaseRecord := do
  intent.postInit
  let journal ← Method.get
  match journal.identityIndex.get? (.release intent.operationId) with
  | some existingKind => journal.existingRelease existingKind intent
  | none =>
    let (record, updated) ← journal.newRelease intent
    storeAttempt updated
    claimIdentity (.release intent.operationId) .release
    Method.modify fun journal =>
      (journal.withReleaseLocation updated
        (record, updated.releases.idxOf record)).reindexReleases updated
    return record

/-- `arm_release`. -/
def armRelease (operationId : ReleaseOperationId) : JournalMethod FenceReleaseRecord := do
  let journal ← Method.get
  let record ← journal.getRelease operationId
  if record.state = .dispatchArmed then
    return record
  else
    let updated ← record.arm
    replaceRelease updated
    return updated

/-- `record_release_receipt`, for a record without a receipt. -/
def acknowledgedRelease (journal : Journal) (record : FenceReleaseRecord)
    (receipt : ReleaseLifecycleReceipt) : Except PyError FenceReleaseRecord := do
  journal.assertReceiptUnclaimed receipt.receiptId (.release receipt.operationId)
  rewrap (receipt.validateFor record.intent)
    (PyError.onInvalid (.journalConflict "Release receipt does not match."))
  rewrap (record.acknowledge receipt)
    (PyError.onTransition (.journalConflict "Release receipt arrived in an invalid state."))

/-- `record_release_receipt`. -/
def recordReleaseReceipt (receipt : ReleaseLifecycleReceipt) :
    JournalMethod FenceReleaseRecord := do
  receipt.postInit
  let journal ← Method.get
  let record ← journal.getRelease receipt.operationId
  match record.receipt with
  | some existing =>
    Method.require (existing = receipt)
      (.journalConflict "Release has a conflicting receipt.")
    return record
  | none =>
    let updated ← journal.acknowledgedRelease record receipt
    replaceRelease updated
    Method.modify fun journal =>
      journal.withReceipt receipt.receiptId (.release receipt.operationId)
    return updated

/-! ## Object operations -/

/-- `record_intent` on a known operation ID. -/
def existingOperation (journal : Journal) (kind : IdentityKind)
    (intent : BridgeOperationIntent) : Except PyError BridgeOperationRecord :=
  match kind with
  | .object => do
    let existing ← journal.getOperation intent.operationId
    check (existing.intent = intent)
      (.journalConflict "Object operation ID is not immutable.")
    return existing
  | _ => .error (.journalConflict "Object operation ID is not immutable.")

/-- Which attempts may record an object operation. -/
def assertMayOperate (attempt : BridgeOperationAttempt) (kind : BridgeOperationKind) :
    Except PyError Unit :=
  match attempt.state with
  | .blocked =>
    check (kind = .rollback)
      (.journalConflict "Blocked attempts permit only compensating rollback intents.")
  | .open => .ok ()
  | _ => .error (.journalConflict "A terminal attempt cannot add operations.")

/-- `prior_epochs`: the provider's epochs in earlier attempts of the plan. -/
def priorEpochs (journal : Journal) (intent : BridgeOperationIntent) : List ℕ :=
  ((((journal.attemptsFor intent.planId).filter fun prior =>
      decide (prior.attempt < intent.attempt)).flatMap (·.acquisitions)).filter fun item =>
    decide (item.intent.provider = intent.provider)).map (·.intent.epoch)

/-- `record_intent` up to the store. -/
def newOperation (journal : Journal) (intent : BridgeOperationIntent) :
    Except PyError (BridgeOperationRecord × BridgeOperationAttempt) := do
  let attempt ← journal.getAttempt intent.planId intent.attempt
  assertMayOperate attempt intent.kind
  check (acquiresFence (acquisitionForId attempt intent.fence.acquisitionOperationId)
      intent.fence)
    (.journalConflict "Object operations require a journaled acknowledged acquisition.")
  check (∀ item ∈ attempt.releases,
      item.intent.acquisitionOperationId ≠ intent.fence.acquisitionOperationId)
    (.journalConflict "A released fence cannot accept operations.")
  check (¬ (intent.kind = .write ∧ attempt.releasePhaseSequence ≠ none))
    (.journalConflict "Normal writes cannot begin after the release phase.")
  forAll (fun highest => check (highest < intent.fence.epoch)
    (.journalConflict "Object intent regressed the provider epoch high-water mark."))
    (journal.priorEpochs intent).max?.toList
  check (intent.sequence = attempt.operations.length + 1)
    (.journalConflict "Object operation sequences must be contiguous.")
  let record := BridgeOperationRecord.recorded intent
  record.postInit
  let updated := { attempt with operations := attempt.operations ++ [record] }
  updated.postInit
  return (record, updated)

/-- `record_intent`. -/
def recordIntent (intent : BridgeOperationIntent) : JournalMethod BridgeOperationRecord := do
  intent.postInit
  let journal ← Method.get
  match journal.identityIndex.get? (.object intent.operationId) with
  | some existingKind => journal.existingOperation existingKind intent
  | none =>
    let (record, updated) ← journal.newOperation intent
    storeAttempt updated
    claimIdentity (.object intent.operationId) .object
    Method.modify fun journal => journal.withObjectLocation updated (record, intent.sequence - 1)
    return record

/-- The checks of `arm_operation`, and the armed record. -/
def armedOperation (journal : Journal) (operationId : ObjectOperationId)
    (record : BridgeOperationRecord) (authorization : BridgeDispatchAuthorization) :
    Except PyError BridgeOperationRecord := do
  rewrap (authorization.validateFor record.intent)
    (PyError.onInvalid
      (.journalConflict "Dispatch authorization does not match object intent."))
  let location ← journal.objectLocation operationId
  let attempt ← journal.getAttempt location.planId location.attempt
  check (observationFresh authorization.observedAt authorization.authorizedAt attempt)
    (.journalConflict "Dispatch authorization observation is stale.")
  check (∀ releasePhaseSequence ∈ attempt.releasePhaseSequence,
      releasePhaseSequence < record.intent.sequence)
    (.journalConflict "A release-closed operation cannot later be armed.")
  check (attempt.state = .blocked → record.intent.kind = .rollback)
    (.journalConflict "Blocked attempts cannot arm non-rollback operations.")
  let acquisition := acquisitionForId attempt record.intent.fence.acquisitionOperationId
  check (acquisition.bind (·.acknowledged?)).isSome
    (.journalConflict "Object dispatch requires an acknowledged acquisition.")
  check (∀ item ∈ attempt.releases,
      item.intent.acquisitionOperationId ≠ record.intent.fence.acquisitionOperationId)
    (.journalConflict "Object dispatch cannot follow fence release.")
  record.arm authorization

/-- `arm_operation`. -/
def armOperation (operationId : ObjectOperationId)
    (authorization : BridgeDispatchAuthorization) : JournalMethod BridgeOperationRecord := do
  authorization.postInit
  let journal ← Method.get
  let record ← journal.getOperation operationId
  if record.state = .dispatchArmed then
    Method.require (record.authorization = some authorization)
      (.journalConflict "Armed object operation authorization is immutable.")
    return record
  else
    let updated ← journal.armedOperation operationId record authorization
    replaceObject updated false
    return updated

/-- `receipt.validate_authorization(record.authorization)`, or no authorization. -/
def validateAuthorized (record : BridgeOperationRecord) (receipt : BridgeOperationReceipt) :
    Except PyError Unit :=
  match record.authorization with
  | none => .error (.valueError "Object receipt lacks dispatch authorization.")
  | some authorization => validateReceiptAuthorizationBinding receipt authorization

/-- `record_receipt`, for a record without a receipt. -/
def acknowledgedOperation (journal : Journal) (record : BridgeOperationRecord)
    (receipt : BridgeOperationReceipt) : Except PyError BridgeOperationRecord := do
  journal.assertReceiptUnclaimed receipt.receiptId (.object receipt.operationId)
  rewrap (do
      validateObjectReceiptBinding receipt record.intent
      validateAuthorized record receipt)
    (PyError.onInvalid (.journalConflict "Object receipt does not match intent."))
  rewrap (record.acknowledge receipt)
    (PyError.onTransition (.journalConflict "Object receipt arrived in an invalid state."))

/-- `record_receipt`. -/
def recordReceipt (receipt : BridgeOperationReceipt) : JournalMethod BridgeOperationRecord := do
  receipt.postInit
  let journal ← Method.get
  let record ← journal.getOperation receipt.operationId
  match record.receipt with
  | some existing =>
    Method.require (existing = receipt)
      (.journalConflict "Object operation has a conflicting receipt.")
    return record
  | none =>
    let updated ← journal.acknowledgedOperation record receipt
    replaceObject updated true
    Method.modify fun journal =>
      journal.withReceipt receipt.receiptId (.object receipt.operationId)
    return updated

/-- The transition that a new verification makes. -/
def appendVerification (record : BridgeOperationRecord)
    (verification : BridgeOperationVerification) : Except PyError BridgeOperationRecord :=
  match record.state with
  | .acknowledged => record.verify verification
  | .verified => record.refreshVerification verification
  | _ => .error (.transitionError "Verification arrived outside an appendable state.")

/-- `record_verification` of a verification that the record does not hold. -/
def verifiedOperation (journal : Journal) (record : BridgeOperationRecord)
    (verification : BridgeOperationVerification) : Except PyError BridgeOperationRecord := do
  let attempt ← journal.getAttempt record.intent.planId record.intent.attempt
  check (¬ (attempt.state = .committed ∨ attempt.state = .restored))
    (.journalConflict "Terminal attempt verification history is immutable.")
  match record.receipt with
  | none => .error (.journalConflict "Verification requires a durable receipt.")
  | some receipt => do
    rewrap (verification.validateFor record.intent receipt)
      (PyError.onInvalid (.journalConflict "Verification does not match receipt."))
    rewrap (appendVerification record verification)
      (PyError.onTransition
        (.journalConflict "Object verification arrived in an invalid state."))

/-- `record_verification`. -/
def recordVerification (verification : BridgeOperationVerification) :
    JournalMethod BridgeOperationRecord := do
  verification.postInit
  let journal ← Method.get
  let record ← journal.getOperation verification.operationId
  if verification ∈ record.verifications then
    return record
  else
    let updated ← journal.verifiedOperation record verification
    replaceObject updated true
    return updated

/-- `block_operation`. -/
def blockOperation (operationId : ObjectOperationId) (reasonCode : BridgeBlockReason) :
    JournalMethod BridgeOperationRecord := do
  let journal ← Method.get
  let record ← journal.getOperation operationId
  if record.state = .blocked then
    Method.require (record.reasonCode = some reasonCode)
      (.journalConflict "Blocked operation reason is immutable.")
    return record
  else
    let location ← journal.objectLocation operationId
    let attempt ← journal.getAttempt location.planId location.attempt
    Method.require (attempt.state = .open ∨ attempt.state = .blocked)
      (.journalConflict "Terminal attempt cannot be blocked again.")
    let blocked ← record.block reasonCode
    let updated := { attempt with
      state := .blocked
      operations := attempt.operations.set location.index blocked
      reasonCode := attempt.reasonCode.or (some reasonCode)
      terminalAt := none }
    updated.postInit
    storeAttempt updated
    return blocked

/-! ## Attempt states -/

/-- The reason that a closed attempt keeps. -/
def closingReason (current : BridgeOperationAttempt) (state : BridgeAttemptState)
    (reasonCode : Option BridgeBlockReason) : Except PyError (Option BridgeBlockReason) :=
  match current.state with
  | .blocked => do
    check (state = .restored)
      (.journalConflict "A blocked attempt may only become exactly restored.")
    return current.reasonCode
  | .open => .ok reasonCode
  | _ => .error (.journalConflict "A terminal attempt cannot change state.")

/-- `set_attempt_state`, for a call that changes the attempt. -/
def closedAttempt (current : BridgeOperationAttempt) (state : BridgeAttemptState)
    (reasonCode : Option BridgeBlockReason) (terminalAt : Option Datetime) :
    Except PyError BridgeOperationAttempt := do
  let reasonCode ← closingReason current state reasonCode
  check (state ≠ .open) (.journalConflict "An open attempt cannot transition to open.")
  let updated := { current with state, reasonCode, terminalAt }
  updated.postInit
  return updated

/-- The call repeats what the attempt already is. -/
def repeatsState (current : BridgeOperationAttempt) (state : BridgeAttemptState)
    (reasonCode : Option BridgeBlockReason) (terminalAt : Option Datetime) : Prop :=
  current.state = state ∧ current.terminalAt = terminalAt
    ∧ (current.reasonCode = reasonCode
      ∨ (state = .restored ∧ reasonCode = none ∧ current.reasonCode ≠ none))

instance (current : BridgeOperationAttempt) (state : BridgeAttemptState)
    (reasonCode : Option BridgeBlockReason) (terminalAt : Option Datetime) :
    Decidable (repeatsState current state reasonCode terminalAt) := by
  unfold repeatsState; infer_instance

/-- `set_attempt_state`. -/
def setAttemptState (planId : PlanId) (attempt : ℕ) (state : BridgeAttemptState)
    (reasonCode : Option BridgeBlockReason) (terminalAt : Option Datetime) :
    JournalMethod BridgeOperationAttempt := do
  let journal ← Method.get
  let current ← journal.getAttempt planId attempt
  if repeatsState current state reasonCode terminalAt then
    return current
  else
    let updated ← closedAttempt current state reasonCode terminalAt
    storeAttempt updated
    return updated

/-! ## Calls -/

end InMemoryBridgeOperationJournal

/-- A call of a public method, with its arguments. -/
inductive JournalCall
  | appendAttempt (attempt : BridgeOperationAttempt)
  | recordAcquisitionIntent (intent : FenceAcquisitionIntent)
  | armAcquisition (operationId : AcquireOperationId)
  | recordAcquisitionReceipt (receipt : AcquisitionLifecycleReceipt)
  | blockAcquisition (operationId : AcquireOperationId) (reasonCode : BridgeBlockReason)
  | recordReleaseIntent (intent : FenceReleaseIntent)
  | armRelease (operationId : ReleaseOperationId)
  | recordReleaseReceipt (receipt : ReleaseLifecycleReceipt)
  | recordIntent (intent : BridgeOperationIntent)
  | armOperation (operationId : ObjectOperationId) (authorization : BridgeDispatchAuthorization)
  | recordReceipt (receipt : BridgeOperationReceipt)
  | recordVerification (verification : BridgeOperationVerification)
  | blockOperation (operationId : ObjectOperationId) (reasonCode : BridgeBlockReason)
  | setAttemptState (planId : PlanId) (attempt : ℕ) (state : BridgeAttemptState)
      (reasonCode : Option BridgeBlockReason) (terminalAt : Option Datetime)
  | attemptsFor (planId : PlanId)
  | providerEpochHighWater (provider : Provider)
  | getAttempt (planId : PlanId) (attempt : ℕ)
  | getOperation (operationId : ObjectOperationId)
  | getAcquisition (operationId : AcquireOperationId)
  | getRelease (operationId : ReleaseOperationId)
  deriving DecidableEq

/-- What a call returns. -/
inductive JournalResult
  | attempt (attempt : BridgeOperationAttempt)
  | attempts (attempts : List BridgeOperationAttempt)
  | acquisition (record : FenceAcquisitionRecord)
  | operation (record : BridgeOperationRecord)
  | release (record : FenceReleaseRecord)
  | highWater (epoch : Option ℕ)
  deriving DecidableEq

namespace InMemoryBridgeOperationJournal

/-- A query: it reads the journal and changes nothing. -/
def query (f : Journal → Except PyError JournalResult) : JournalMethod JournalResult := do
  let journal ← Method.get
  f journal

/-- Run one call. -/
def exec : JournalCall → JournalMethod JournalResult
  | .appendAttempt attempt => .attempt <$> appendAttempt attempt
  | .recordAcquisitionIntent intent => .acquisition <$> recordAcquisitionIntent intent
  | .armAcquisition operationId => .acquisition <$> armAcquisition operationId
  | .recordAcquisitionReceipt receipt => .acquisition <$> recordAcquisitionReceipt receipt
  | .blockAcquisition operationId reasonCode =>
    .acquisition <$> blockAcquisition operationId reasonCode
  | .recordReleaseIntent intent => .release <$> recordReleaseIntent intent
  | .armRelease operationId => .release <$> armRelease operationId
  | .recordReleaseReceipt receipt => .release <$> recordReleaseReceipt receipt
  | .recordIntent intent => .operation <$> recordIntent intent
  | .armOperation operationId authorization =>
    .operation <$> armOperation operationId authorization
  | .recordReceipt receipt => .operation <$> recordReceipt receipt
  | .recordVerification verification => .operation <$> recordVerification verification
  | .blockOperation operationId reasonCode => .operation <$> blockOperation operationId reasonCode
  | .setAttemptState planId attempt state reasonCode terminalAt =>
    .attempt <$> setAttemptState planId attempt state reasonCode terminalAt
  | .attemptsFor planId => query fun journal => .ok (.attempts (journal.attemptsFor planId))
  | .providerEpochHighWater provider =>
    query fun journal => .ok (.highWater (journal.providerEpochHighWater provider))
  | .getAttempt planId attempt =>
    query fun journal => .attempt <$> journal.getAttempt planId attempt
  | .getOperation operationId =>
    query fun journal => .operation <$> journal.getOperation operationId
  | .getAcquisition operationId =>
    query fun journal => .acquisition <$> journal.getAcquisition operationId
  | .getRelease operationId => query fun journal => .release <$> journal.getRelease operationId

/-- One call, which returns or raises. -/
def Step (journal next : Journal) : Prop :=
  ∃ call result, (exec call).run journal = (result, next)

/-- A state that some sequence of calls reaches from the empty journal. -/
def Reachable (journal : Journal) : Prop :=
  Relation.ReflTransGen Step {} journal

/-- The journal after a list of calls, returned or raised. -/
def after (calls : List JournalCall) (journal : Journal) : Journal :=
  calls.foldl (fun journal call => ((exec call).run journal).2) journal

theorem reachable_after (calls : List JournalCall) : Reachable (after calls {}) := by
  suffices ∀ journal, Reachable journal → Reachable (after calls journal) from
    this {} .refl
  induction calls with
  | nil => exact fun _ h => h
  | cons call calls ih =>
    intro journal hreach
    have hstep : Step journal ((exec call).run journal).2 := ⟨call, _, rfl⟩
    exact ih _ (hreach.tail hstep)

end InMemoryBridgeOperationJournal

end TrueFamily.Transaction
