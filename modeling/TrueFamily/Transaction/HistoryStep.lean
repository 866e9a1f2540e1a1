import TrueFamily.Transaction.History

/-!
# Steps of a history

What each call of the journal does to the history, with no index in sight. A call that repeats
what is recorded already returns the record and changes nothing; any other call is admitted
under its conditions, and then rewrites one attempt or appends one. A call that raises makes no
step.
-/

namespace TrueFamily.Transaction

open Checked Sorting InMemoryBridgeOperationJournal

variable [DigestJson]

/-! ## Changes of an attempt -/

namespace BridgeOperationAttempt

def setAcquisition (attempt : BridgeOperationAttempt) (index : ℕ)
    (record : FenceAcquisitionRecord) : BridgeOperationAttempt :=
  { attempt with acquisitions := attempt.acquisitions.set index record }

def setOperation (attempt : BridgeOperationAttempt) (index : ℕ)
    (record : BridgeOperationRecord) : BridgeOperationAttempt :=
  { attempt with operations := attempt.operations.set index record }

def setRelease (attempt : BridgeOperationAttempt) (index : ℕ)
    (record : FenceReleaseRecord) : BridgeOperationAttempt :=
  { attempt with releases := attempt.releases.set index record }

/-- The attempt with a recorded acquisition intent at its place in the order. -/
def addAcquisition (attempt : BridgeOperationAttempt) (intent : FenceAcquisitionIntent) :
    BridgeOperationAttempt :=
  { attempt with
    acquisitions := sortedBy acquisitionSortKey
      (attempt.acquisitions ++ [LifecycleRecord.recorded intent]) }

/-- The attempt with a recorded object intent at its end. -/
def addOperation (attempt : BridgeOperationAttempt) (intent : BridgeOperationIntent) :
    BridgeOperationAttempt :=
  { attempt with operations := attempt.operations ++ [BridgeOperationRecord.recorded intent] }

/-- The attempt with a recorded release intent at its place in the order. -/
def addRelease (attempt : BridgeOperationAttempt) (intent : FenceReleaseIntent)
    (boundary : ℕ) : BridgeOperationAttempt :=
  { attempt with
    releases := sortedBy releaseSortKey (attempt.releases ++ [LifecycleRecord.recorded intent])
    releasePhaseSequence := some boundary }

/-- The attempt when one of its records was blocked. -/
def blocked (attempt : BridgeOperationAttempt) (reasonCode : BridgeBlockReason) :
    BridgeOperationAttempt :=
  { attempt with
    state := .blocked
    reasonCode := attempt.reasonCode.or (some reasonCode)
    terminalAt := none }

section

omit [DigestJson]
variable (attempt : BridgeOperationAttempt)

@[simp] theorem addAcquisition_operations (intent : FenceAcquisitionIntent) :
    (attempt.addAcquisition intent).operations = attempt.operations := rfl

@[simp] theorem addAcquisition_releases (intent : FenceAcquisitionIntent) :
    (attempt.addAcquisition intent).releases = attempt.releases := rfl

@[simp] theorem addRelease_acquisitions (intent : FenceReleaseIntent) (boundary : ℕ) :
    (attempt.addRelease intent boundary).acquisitions = attempt.acquisitions := rfl

@[simp] theorem addRelease_operations (intent : FenceReleaseIntent) (boundary : ℕ) :
    (attempt.addRelease intent boundary).operations = attempt.operations := rfl

@[simp] theorem recorded_intent {ι α ν : Type} (intent : ι) :
    (LifecycleRecord.recorded intent : LifecycleRecord ι α ν).intent = intent := rfl

end

end BridgeOperationAttempt

/-! ## Admission -/

/-- Two acquisitions of a provider are requested in the order of their epochs. -/
def FenceAcquisitionIntent.Ordered (a b : FenceAcquisitionIntent) : Prop :=
  Agree (·.requestedAt) (·.epoch) a b

namespace History

/-- The history has recorded this acquisition intent. -/
def Acquires (history : History) (intent : FenceAcquisitionIntent) : Prop :=
  ∃ attempt, history.Holds attempt ∧ ∃ record ∈ attempt.acquisitions, record.intent = intent

/-- The receipt is held somewhere. -/
def Received (history : History) (receiptId : ReceiptId) : Prop :=
  ∃ operationId, history.Owns receiptId operationId

/-- A new acquisition is above every epoch of its provider, and not requested before one. -/
def NewEpoch (history : History) (intent : FenceAcquisitionIntent) : Prop :=
  ∀ earlier, history.Acquires earlier → earlier.provider = intent.provider →
    earlier.epoch < intent.epoch ∧ earlier.requestedAt ≤ intent.requestedAt

/-- Any two acquisitions of a provider, in whatever plans, are requested in the order of their
epochs. -/
def EpochOrdered (history : History) : Prop :=
  ∀ a b, history.Acquires a → history.Acquires b → a.operationId ≠ b.operationId →
    a.provider = b.provider → a.Ordered b

/-- The latest epoch of a provider. -/
def HighWater (history : History) (provider : Provider) (epoch : ℕ) : Prop :=
  (∃ intent, history.Acquires intent ∧ intent.provider = provider ∧ intent.epoch = epoch)
    ∧ ∀ intent, history.Acquires intent → intent.provider = provider → intent.epoch ≤ epoch

/-- When an attempt may be appended. -/
structure AdmitsAttempt (history : History) (attempt : BridgeOperationAttempt) : Prop where
  number_eq : attempt.attempt = (history attempt.planId).length + 1
  retry : assertRetry attempt (history attempt.planId) = .ok ()
  ids_unclaimed : ∀ operationId ∈ attempt.operationIds, ¬ history.Claims operationId
  receipts_unclaimed : ∀ receiptId ∈ attempt.receiptIds, ¬ history.Received receiptId
  epochOrdered : (history.append attempt).EpochOrdered

/-- When an acquisition may be recorded. -/
structure AdmitsAcquisition (history : History) (attempt : BridgeOperationAttempt)
    (intent : FenceAcquisitionIntent) : Prop where
  unclaimed : ¬ history.Claims (.acquire intent.operationId)
  holds : history.Holds attempt
  slot_eq : attempt.slot = (intent.planId, intent.attempt)
  mayAcquire : assertMayAcquire attempt intent.provider = .ok ()
  newEpoch : history.NewEpoch intent

/-- When a release may be recorded. -/
structure AdmitsRelease (history : History) (attempt : BridgeOperationAttempt)
    (intent : FenceReleaseIntent) (boundary : ℕ) : Prop where
  unclaimed : ¬ history.Claims (.release intent.operationId)
  holds : history.Holds attempt
  slot_eq : attempt.slot = (intent.planId, intent.attempt)
  mayRelease : attempt.state = .open ∨ attempt.state = .blocked
  acquired : assertAcquired attempt intent = .ok ()
  boundary_eq : releaseBoundary attempt = .ok boundary
  resolved : ∀ item ∈ fencedOperations attempt intent.acquisitionOperationId,
    operationEffectResolved item
  contiguous : intent.releaseAttempt
    = (priorReleases attempt intent.acquisitionOperationId).length + 1
  retries : ∀ previous,
    (priorReleases attempt intent.acquisitionOperationId).getLast? = some previous →
      retriesRelease previous intent

/-- When an object operation may be recorded. -/
structure AdmitsOperation (history : History) (attempt : BridgeOperationAttempt)
    (intent : BridgeOperationIntent) : Prop where
  unclaimed : ¬ history.Claims (.object intent.operationId)
  holds : history.Holds attempt
  slot_eq : attempt.slot = (intent.planId, intent.attempt)
  mayOperate : assertMayOperate attempt intent.kind = .ok ()
  acquired : acquiresFence (acquisitionForId attempt intent.fence.acquisitionOperationId)
    intent.fence
  unreleased : ∀ item ∈ attempt.releases,
    item.intent.acquisitionOperationId ≠ intent.fence.acquisitionOperationId
  before_release : ¬ (intent.kind = .write ∧ attempt.releasePhaseSequence ≠ none)
  newerEpoch : ∀ prior ∈ history intent.planId, prior.attempt < intent.attempt →
    ∀ item ∈ prior.acquisitions, item.intent.provider = intent.provider →
      item.intent.epoch < intent.fence.epoch
  contiguous : intent.sequence = attempt.operations.length + 1

/-- When a recorded object operation may be armed. -/
structure AdmitsArming (attempt : BridgeOperationAttempt) (record : BridgeOperationRecord)
    (authorization : BridgeDispatchAuthorization) : Prop where
  authorized : authorization.validateFor record.intent = .ok ()
  fresh : observationFresh authorization.observedAt authorization.authorizedAt attempt
  after_release : ∀ boundary, attempt.releasePhaseSequence = some boundary →
    boundary < record.intent.sequence
  compensates : attempt.state = .blocked → record.intent.kind = .rollback
  acquired : ((acquisitionForId attempt record.intent.fence.acquisitionOperationId).bind
    (·.acknowledged?)).isSome
  unreleased : ∀ item ∈ attempt.releases,
    item.intent.acquisitionOperationId ≠ record.intent.fence.acquisitionOperationId

/-- When a receipt may be recorded for a record without one. -/
structure AdmitsReceipt (history : History) (record : BridgeOperationRecord)
    (receipt : BridgeOperationReceipt) : Prop where
  missing : record.receipt = none
  unclaimed : ¬ history.Received receipt.receiptId
  bound : validateObjectReceiptBinding receipt record.intent = .ok ()
  authorized : validateAuthorized record receipt = .ok ()

/-- When a verification may be appended to a record. -/
structure AdmitsVerification (attempt : BridgeOperationAttempt) (record : BridgeOperationRecord)
    (verification : BridgeOperationVerification) : Prop where
  unknown : verification ∉ record.verifications
  unsettled : ¬ (attempt.state = .committed ∨ attempt.state = .restored)
  bound : ∃ receipt, record.receipt = some receipt
    ∧ verification.validateFor record.intent receipt = .ok ()

end History

/-! ## Steps -/

open History in
/-- What a call that returns does to the history. -/
inductive HistoryStep (history : History) : JournalCall → JournalResult → History → Prop
  | appendAttempt_again {attempt} : attempt.WellFormed → history.Holds attempt →
      HistoryStep history (.appendAttempt attempt) (.attempt attempt) history
  | appendAttempt {attempt} : attempt.WellFormed → history.AdmitsAttempt attempt →
      HistoryStep history (.appendAttempt attempt) (.attempt attempt) (history.append attempt)
  | recordAcquisitionIntent_again {intent attempt index record} : intent.WellFormed →
      history.AcquisitionAt intent.operationId attempt index record → record.intent = intent →
      HistoryStep history (.recordAcquisitionIntent intent) (.acquisition record) history
  | recordAcquisitionIntent {intent attempt} : intent.WellFormed →
      history.AdmitsAcquisition attempt intent → (attempt.addAcquisition intent).WellFormed →
      HistoryStep history (.recordAcquisitionIntent intent)
        (.acquisition (LifecycleRecord.recorded intent))
        (history.set (attempt.addAcquisition intent))
  | armAcquisition_again {operationId attempt index record} :
      history.AcquisitionAt operationId attempt index record → record.state = .dispatchArmed →
      HistoryStep history (.armAcquisition operationId) (.acquisition record) history
  | armAcquisition {operationId attempt index record updated} :
      history.AcquisitionAt operationId attempt index record → record.arm = .ok updated →
      (attempt.setAcquisition index updated).WellFormed →
      HistoryStep history (.armAcquisition operationId) (.acquisition updated)
        (history.set (attempt.setAcquisition index updated))
  | recordAcquisitionReceipt_again {receipt : AcquisitionLifecycleReceipt} {attempt index record} :
      receipt.postInit = .ok () →
      history.AcquisitionAt receipt.operationId attempt index record →
      record.receipt = some receipt →
      HistoryStep history (.recordAcquisitionReceipt receipt) (.acquisition record) history
  | recordAcquisitionReceipt {receipt : AcquisitionLifecycleReceipt}
    {attempt index record updated} :
      receipt.postInit = .ok () →
      history.AcquisitionAt receipt.operationId attempt index record → record.receipt = none →
      ¬ history.Received receipt.receiptId → receipt.validateFor record.intent = .ok () →
      record.acknowledge receipt = .ok updated →
      (attempt.setAcquisition index updated).WellFormed →
      HistoryStep history (.recordAcquisitionReceipt receipt) (.acquisition updated)
        (history.set (attempt.setAcquisition index updated))
  | blockAcquisition_again {operationId reasonCode attempt index record} :
      history.AcquisitionAt operationId attempt index record → record.state = .blocked →
      record.reasonCode = some reasonCode →
      HistoryStep history (.blockAcquisition operationId reasonCode) (.acquisition record) history
  | blockAcquisition {operationId reasonCode attempt index record updated} :
      history.AcquisitionAt operationId attempt index record →
      record.block reasonCode = .ok updated →
      ((attempt.setAcquisition index updated).blocked reasonCode).WellFormed →
      HistoryStep history (.blockAcquisition operationId reasonCode) (.acquisition updated)
        (history.set ((attempt.setAcquisition index updated).blocked reasonCode))
  | recordReleaseIntent_again {intent attempt index record} : intent.WellFormed →
      history.ReleaseAt intent.operationId attempt index record → record.intent = intent →
      HistoryStep history (.recordReleaseIntent intent) (.release record) history
  | recordReleaseIntent {intent attempt boundary} : intent.WellFormed →
      history.AdmitsRelease attempt intent boundary →
      (attempt.addRelease intent boundary).WellFormed →
      HistoryStep history (.recordReleaseIntent intent)
        (.release (LifecycleRecord.recorded intent))
        (history.set (attempt.addRelease intent boundary))
  | armRelease_again {operationId attempt index record} :
      history.ReleaseAt operationId attempt index record → record.state = .dispatchArmed →
      HistoryStep history (.armRelease operationId) (.release record) history
  | armRelease {operationId attempt index record updated} :
      history.ReleaseAt operationId attempt index record → record.arm = .ok updated →
      (attempt.setRelease index updated).WellFormed →
      HistoryStep history (.armRelease operationId) (.release updated)
        (history.set (attempt.setRelease index updated))
  | recordReleaseReceipt_again {receipt : ReleaseLifecycleReceipt} {attempt index record} :
      receipt.postInit = .ok () →
      history.ReleaseAt receipt.operationId attempt index record →
      record.receipt = some receipt →
      HistoryStep history (.recordReleaseReceipt receipt) (.release record) history
  | recordReleaseReceipt {receipt : ReleaseLifecycleReceipt} {attempt index record updated} :
      receipt.postInit = .ok () →
      history.ReleaseAt receipt.operationId attempt index record → record.receipt = none →
      ¬ history.Received receipt.receiptId → receipt.validateFor record.intent = .ok () →
      record.acknowledge receipt = .ok updated →
      (attempt.setRelease index updated).WellFormed →
      HistoryStep history (.recordReleaseReceipt receipt) (.release updated)
        (history.set (attempt.setRelease index updated))
  | recordIntent_again {intent attempt index record} : intent.WellFormed →
      history.OperationAt intent.operationId attempt index record → record.intent = intent →
      HistoryStep history (.recordIntent intent) (.operation record) history
  | recordIntent {intent attempt} : intent.WellFormed →
      history.AdmitsOperation attempt intent → (attempt.addOperation intent).WellFormed →
      HistoryStep history (.recordIntent intent)
        (.operation (BridgeOperationRecord.recorded intent))
        (history.set (attempt.addOperation intent))
  | armOperation_again {operationId authorization attempt index record} :
      authorization.postInit = .ok () → history.OperationAt operationId attempt index record →
      record.state = .dispatchArmed → record.authorization = some authorization →
      HistoryStep history (.armOperation operationId authorization) (.operation record) history
  | armOperation {operationId authorization attempt index record updated} :
      authorization.postInit = .ok () → history.OperationAt operationId attempt index record →
      AdmitsArming attempt record authorization → record.arm authorization = .ok updated →
      (attempt.setOperation index updated).WellFormed →
      HistoryStep history (.armOperation operationId authorization) (.operation updated)
        (history.set (attempt.setOperation index updated))
  | recordReceipt_again {receipt attempt index record} : receipt.postInit = .ok () →
      history.OperationAt receipt.operationId attempt index record →
      record.receipt = some receipt →
      HistoryStep history (.recordReceipt receipt) (.operation record) history
  | recordReceipt {receipt attempt index record updated} : receipt.postInit = .ok () →
      history.OperationAt receipt.operationId attempt index record →
      history.AdmitsReceipt record receipt → record.acknowledge receipt = .ok updated →
      (attempt.setOperation index updated).WellFormed →
      HistoryStep history (.recordReceipt receipt) (.operation updated)
        (history.set (attempt.setOperation index updated))
  | recordVerification_again {verification attempt index record} :
      verification.postInit = .ok () →
      history.OperationAt verification.operationId attempt index record →
      verification ∈ record.verifications →
      HistoryStep history (.recordVerification verification) (.operation record) history
  | recordVerification {verification attempt index record updated} :
      verification.postInit = .ok () →
      history.OperationAt verification.operationId attempt index record →
      AdmitsVerification attempt record verification →
      appendVerification record verification = .ok updated →
      (attempt.setOperation index updated).WellFormed →
      HistoryStep history (.recordVerification verification) (.operation updated)
        (history.set (attempt.setOperation index updated))
  | blockOperation_again {operationId reasonCode attempt index record} :
      history.OperationAt operationId attempt index record → record.state = .blocked →
      record.reasonCode = some reasonCode →
      HistoryStep history (.blockOperation operationId reasonCode) (.operation record) history
  | blockOperation {operationId reasonCode attempt index record updated} :
      history.OperationAt operationId attempt index record →
      attempt.state = .open ∨ attempt.state = .blocked →
      record.block reasonCode = .ok updated →
      ((attempt.setOperation index updated).blocked reasonCode).WellFormed →
      HistoryStep history (.blockOperation operationId reasonCode) (.operation updated)
        (history.set ((attempt.setOperation index updated).blocked reasonCode))
  | setAttemptState_again {attempt state reasonCode terminalAt} : history.Holds attempt →
      repeatsState attempt state reasonCode terminalAt →
      HistoryStep history
        (.setAttemptState attempt.planId attempt.attempt state reasonCode terminalAt)
        (.attempt attempt) history
  | setAttemptState {attempt state reasonCode terminalAt updated} : history.Holds attempt →
      ¬ repeatsState attempt state reasonCode terminalAt →
      closedAttempt attempt state reasonCode terminalAt = .ok updated →
      HistoryStep history
        (.setAttemptState attempt.planId attempt.attempt state reasonCode terminalAt)
        (.attempt updated) (history.set updated)
  | attemptsFor {planId} :
      HistoryStep history (.attemptsFor planId) (.attempts (history planId)) history
  | highWater {provider epoch} : history.HighWater provider epoch →
      HistoryStep history (.providerEpochHighWater provider) (.highWater (some epoch)) history
  | noHighWater {provider} :
      (∀ intent, history.Acquires intent → intent.provider ≠ provider) →
      HistoryStep history (.providerEpochHighWater provider) (.highWater none) history
  | getAttempt {attempt} : history.Holds attempt →
      HistoryStep history (.getAttempt attempt.planId attempt.attempt) (.attempt attempt) history
  | getOperation {operationId attempt index record} :
      history.OperationAt operationId attempt index record →
      HistoryStep history (.getOperation operationId) (.operation record) history
  | getAcquisition {operationId attempt index record} :
      history.AcquisitionAt operationId attempt index record →
      HistoryStep history (.getAcquisition operationId) (.acquisition record) history
  | getRelease {operationId attempt index record} :
      history.ReleaseAt operationId attempt index record →
      HistoryStep history (.getRelease operationId) (.release record) history

end TrueFamily.Transaction
