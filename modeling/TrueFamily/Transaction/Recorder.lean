import TrueFamily.Transaction.AppendOnly

/-!
# The transaction recorder

`BridgeTransactionRecorder` checks an observation of the host and the current fence before it
changes the journal. The answers of the fence authority are arguments of a call: they may be
different at every call, and a query may raise.
-/

namespace TrueFamily.Transaction

open Checked InMemoryBridgeOperationJournal

/-! ## Answers and comparisons -/

/-- What the `FenceAuthority` answers during one call. -/
structure FenceAuthorityAnswers where
  currentBinding : Provider → Except PyError (Option FenceBinding)
  acquisitionReceipt : AcquireOperationId → Except PyError (Option AcquisitionLifecycleReceipt)
  releaseReceipt : ReleaseOperationId → Except PyError (Option ReleaseLifecycleReceipt)

/-- `_observation_identity_matches`. -/
def observationIdentityMatches (observation : BridgeObjectObservation)
    (intent : BridgeOperationIntent) : Prop :=
  observation.provider = intent.provider ∧ observation.objectKey = intent.objectKey

instance (observation : BridgeObjectObservation) (intent : BridgeOperationIntent) :
    Decidable (observationIdentityMatches observation intent) := by
  unfold observationIdentityMatches; infer_instance

/-- `_observation_is_preimage`. -/
def observationIsPreimage (observation : BridgeObjectObservation)
    (intent : BridgeOperationIntent) : Prop :=
  observationIdentityMatches observation intent
    ∧ sameRevision observation.revision intent.expectedRevision
    ∧ observation.fingerprint = intent.preFingerprint

instance (observation : BridgeObjectObservation) (intent : BridgeOperationIntent) :
    Decidable (observationIsPreimage observation intent) := by
  unfold observationIsPreimage; infer_instance

/-- `_observation_is_postimage`. -/
def observationIsPostimage (observation : BridgeObjectObservation)
    (intent : BridgeOperationIntent) : Prop :=
  observationIdentityMatches observation intent
    ∧ observation.fingerprint = intent.postFingerprint

instance (observation : BridgeObjectObservation) (intent : BridgeOperationIntent) :
    Decidable (observationIsPostimage observation intent) := by
  unfold observationIsPostimage; infer_instance

/-- `_observation_matches_receipt`. -/
def observationMatchesReceipt (observation : BridgeObjectObservation)
    (receipt : BridgeOperationReceipt) : Prop :=
  observation.provider = receipt.provider
    ∧ observation.objectKey = receipt.objectKey
    ∧ sameRevision observation.revision receipt.resultRevision
    ∧ observation.fingerprint = receipt.resultFingerprint
    ∧ receipt.durableAt ≤ observation.observedAt

instance (observation : BridgeObjectObservation) (receipt : BridgeOperationReceipt) :
    Decidable (observationMatchesReceipt observation receipt) := by
  unfold observationMatchesReceipt; infer_instance

/-- `_fence_live_at`. -/
def fenceLiveAt (fence : FenceBinding) (at' : Datetime) : Prop :=
  fence.acquiredAt ≤ at' ∧ at' < fence.expiresAt

instance (fence : FenceBinding) (at' : Datetime) : Decidable (fenceLiveAt fence at') := by
  unfold fenceLiveAt; infer_instance

/-- `BridgeTransactionRecorder`, without the journal and the authority that it is built over. -/
structure BridgeTransactionRecorder where
  maxObservationAgeSeconds : ℕ
  freshness_ok : validateFreshnessSeconds maxObservationAgeSeconds = .ok ()

namespace BridgeTransactionRecorder

variable [DigestJson]

/-! ## Helpers -/

/-- `_attempt_for_intent`. -/
def attemptForIntent (self : BridgeTransactionRecorder) (journal : Journal)
    (intent : BridgeOperationIntent) : Except PyError BridgeOperationAttempt := do
  let attempt ← journal.getAttempt intent.planId intent.attempt
  check (attempt.maxObservationAgeSeconds = self.maxObservationAgeSeconds)
    (.transactionBlocked .lifecycleMismatch)
  return attempt

/-- `_require_current_live_fence`. -/
def requireCurrentLiveFence (authority : FenceAuthorityAnswers) (fence : FenceBinding)
    (at' : Datetime) : Except PyError Unit := do
  let current ← authority.currentBinding fence.provider
  check (current = some fence) (.transactionBlocked .staleFence)
  check (fenceLiveAt fence at') (.transactionBlocked .expiredFence)

/-- Block the operation and raise `BridgeTransactionBlocked`. -/
def blockAndRaise {α : Type} (operationId : ObjectOperationId) (reasonCode : BridgeBlockReason) :
    JournalMethod α := do
  let _ ← blockOperation operationId reasonCode
  Method.raise (.transactionBlocked reasonCode)

/-- `_block`. -/
def block (operationId : ObjectOperationId) (reasonCode : BridgeBlockReason) :
    JournalMethod BridgeReconciliationAction := do
  let _ ← blockOperation operationId reasonCode
  return .block

/-- Authorize the dispatch of a preimage and arm the operation. -/
def authorizeAndArm (operationId : ObjectOperationId) (intent : BridgeOperationIntent)
    (observation : BridgeObjectObservation) (at' : Datetime) :
    JournalMethod BridgeOperationRecord := do
  let authorization ← BridgeDispatchAuthorization.create intent observation at'
  armOperation operationId authorization

/-! ## Attempts -/

/-- `BridgeOperationAttempt.open`, before `__post_init__`. -/
def openAttempt (self : BridgeTransactionRecorder) (planId : PlanId)
    (planDigest manifestDigest : Digest) (attempt : ℕ) (expectedWrites : List BridgeExpectedWrite) :
    BridgeOperationAttempt where
  planId := planId
  planDigest := planDigest
  manifestDigest := manifestDigest
  attempt := attempt
  state := .open
  maxObservationAgeSeconds := self.maxObservationAgeSeconds
  expectedWrites := expectedWrites

/-- `begin_attempt`. -/
def beginAttempt (self : BridgeTransactionRecorder) (planId : PlanId)
    (planDigest manifestDigest : Digest) (attempt : ℕ) (expectedWrites : List BridgeExpectedWrite) :
    JournalMethod BridgeOperationAttempt := do
  (self.openAttempt planId planDigest manifestDigest attempt expectedWrites).postInit
  appendAttempt (self.openAttempt planId planDigest manifestDigest attempt expectedWrites)

/-- `finish_attempt`. -/
def finishAttempt (self : BridgeTransactionRecorder) (planId : PlanId) (attempt : ℕ)
    (state : BridgeAttemptState) (at' : Datetime) : JournalMethod BridgeOperationAttempt := do
  Method.require (state = .committed ∨ state = .restored)
    (.valueError "Finish accepts only committed or restored state.")
  let journal ← Method.get
  let current ← journal.getAttempt planId attempt
  Method.require (current.maxObservationAgeSeconds = self.maxObservationAgeSeconds)
    (.transactionBlocked .lifecycleMismatch)
  setAttemptState planId attempt state none (some at')

/-! ## Fences -/

/-- `reconcile_acquisition`, on a recorded intent. -/
def reconcileAcquisitionIntent (authority : FenceAuthorityAnswers)
    (operationId : AcquireOperationId) (intent : FenceAcquisitionIntent) (at' : Datetime) :
    JournalMethod BridgeReconciliationAction := do
  Method.require (intent.requestedAt ≤ at') (.transactionBlocked .lifecycleMismatch)
  if intent.expiresAt ≤ at' then
    let _ ← blockAcquisition operationId .expiredFence
    return .block
  else
    let known ← authority.acquisitionReceipt operationId
    let current ← authority.currentBinding intent.provider
    let _ ← armAcquisition operationId
    return if known ≠ none ∨ current ≠ none then .queryReceipt else .dispatch

/-- `reconcile_acquisition`. -/
def reconcileAcquisition (authority : FenceAuthorityAnswers) (operationId : AcquireOperationId)
    (at' : Datetime) : JournalMethod BridgeReconciliationAction := do
  let journal ← Method.get
  let record ← journal.getAcquisition operationId
  match record.state with
  | .blocked => return .block
  | .acknowledged | .noEffect => return .complete
  | .dispatchArmed => return .queryReceipt
  | .intentRecorded => reconcileAcquisitionIntent authority operationId record.intent at'

/-- `reconcile_release`, on a recorded intent. -/
def reconcileReleaseIntent (authority : FenceAuthorityAnswers) (operationId : ReleaseOperationId)
    (intent : FenceReleaseIntent) (at' : Datetime) :
    JournalMethod BridgeReconciliationAction := do
  Method.require (intent.requestedAt ≤ at') (.transactionBlocked .lifecycleMismatch)
  let known ← authority.releaseReceipt operationId
  let current ← authority.currentBinding intent.provider
  let _ ← armRelease operationId
  return if known ≠ none ∨ ¬ bindingMatchesRelease current intent then .queryReceipt else .dispatch

/-- `reconcile_release`. -/
def reconcileRelease (authority : FenceAuthorityAnswers) (operationId : ReleaseOperationId)
    (at' : Datetime) : JournalMethod BridgeReconciliationAction := do
  let journal ← Method.get
  let record ← journal.getRelease operationId
  match record.state with
  | .blocked => return .block
  | .acknowledged | .noEffect => return .complete
  | .dispatchArmed => return .queryReceipt
  | .intentRecorded => reconcileReleaseIntent authority operationId record.intent at'

/-! ## Object operations -/

/-- `prepare`. -/
def prepare (authority : FenceAuthorityAnswers) (intent : BridgeOperationIntent) (at' : Datetime) :
    JournalMethod BridgeOperationRecord := do
  intent.postInit
  requireCurrentLiveFence authority intent.fence at'
  recordIntent intent

/-- `arm`, from the check of the fence on. -/
def armFenced (authority : FenceAuthorityAnswers) (operationId : ObjectOperationId)
    (intent : BridgeOperationIntent) (observation : BridgeObjectObservation) (at' : Datetime) :
    JournalMethod BridgeOperationRecord :=
  match requireCurrentLiveFence authority intent.fence at' with
  | .ok () => authorizeAndArm operationId intent observation at'
  | .error (.transactionBlocked reasonCode) => blockAndRaise operationId reasonCode
  | .error e => Method.raise e

/-- `arm`. -/
def arm (self : BridgeTransactionRecorder) (authority : FenceAuthorityAnswers)
    (operationId : ObjectOperationId) (observation : BridgeObjectObservation) (at' : Datetime) :
    JournalMethod BridgeOperationRecord := do
  let journal ← Method.get
  let record ← journal.getOperation operationId
  Method.require (record.state = .intentRecorded)
    (.transitionError "Only a recorded object intent may be armed.")
  let attempt ← self.attemptForIntent journal record.intent
  Method.require (observationFresh observation.observedAt at' attempt
      ∧ record.intent.fence.acquisitionDurableAt ≤ observation.observedAt)
    (.transactionBlocked .staleObservation)
  if observationIsPostimage observation record.intent then
    blockAndRaise operationId .lifecycleMismatch
  else if ¬ observationIsPreimage observation record.intent then
    blockAndRaise operationId .observationMismatch
  else
    armFenced authority operationId record.intent observation at'

/-- `reconcile` of a recorded intent whose preimage was observed, from the check of the fence
on. -/
def reconcileFenced (authority : FenceAuthorityAnswers) (operationId : ObjectOperationId)
    (intent : BridgeOperationIntent) (observation : BridgeObjectObservation) (at' : Datetime) :
    JournalMethod BridgeReconciliationAction :=
  match requireCurrentLiveFence authority intent.fence at' with
  | .ok () => do
    let _ ← authorizeAndArm operationId intent observation at'
    return .dispatch
  | .error (.transactionBlocked reasonCode) => block operationId reasonCode
  | .error e => Method.raise e

/-- `reconcile` of a recorded intent. -/
def reconcileIntent (authority : FenceAuthorityAnswers) (operationId : ObjectOperationId)
    (intent : BridgeOperationIntent) (observation : BridgeObjectObservation) (at' : Datetime) :
    JournalMethod BridgeReconciliationAction :=
  if observation.observedAt < intent.fence.acquisitionDurableAt then
    return .refreshObservation
  else if observationIsPostimage observation intent then
    block operationId .lifecycleMismatch
  else if ¬ observationIsPreimage observation intent then
    block operationId .observationMismatch
  else
    reconcileFenced authority operationId intent observation at'

/-- `reconcile` of an acknowledged operation. -/
def reconcileAcknowledged (operationId : ObjectOperationId) (record : BridgeOperationRecord)
    (observation : BridgeObjectObservation) : JournalMethod BridgeReconciliationAction :=
  match record.receipt with
  | none => block operationId .receiptMismatch
  | some receipt =>
    if observationMatchesReceipt observation receipt then return .verifyReceipt
    else block operationId .observationMismatch

/-- `reconcile` of a verified operation. -/
def reconcileVerified (operationId : ObjectOperationId) (record : BridgeOperationRecord)
    (attempt : BridgeOperationAttempt) (observation : BridgeObjectObservation) (at' : Datetime) :
    JournalMethod BridgeReconciliationAction :=
  match record.receipt, record.verification with
  | some receipt, some verification =>
    if observationMatchesReceipt observation receipt then
      if verification.observedAt < observation.observedAt then return .verifyReceipt
      else if observationFresh verification.observedAt at' attempt then return .complete
      else return .refreshObservation
    else block operationId .verifiedDrift
  | _, _ => block operationId .verifiedDrift

/-- `reconcile`, on an observation. -/
def reconcileObserved (self : BridgeTransactionRecorder) (authority : FenceAuthorityAnswers)
    (operationId : ObjectOperationId) (record : BridgeOperationRecord)
    (observation : BridgeObjectObservation) (at' : Datetime) :
    JournalMethod BridgeReconciliationAction := do
  let journal ← Method.get
  let attempt ← self.attemptForIntent journal record.intent
  if ¬ observationFresh observation.observedAt at' attempt then
    return .refreshObservation
  else if ¬ observationIdentityMatches observation record.intent then
    block operationId (if record.state = .verified then .verifiedDrift else .observationMismatch)
  else
    match record.state with
    | .intentRecorded => reconcileIntent authority operationId record.intent observation at'
    | .acknowledged => reconcileAcknowledged operationId record observation
    | _ => reconcileVerified operationId record attempt observation at'

/-- `reconcile`. -/
def reconcile (self : BridgeTransactionRecorder) (authority : FenceAuthorityAnswers)
    (operationId : ObjectOperationId) (observation : Option BridgeObjectObservation)
    (at' : Datetime) : JournalMethod BridgeReconciliationAction := do
  let journal ← Method.get
  let record ← journal.getOperation operationId
  match record.state, observation with
  | .blocked, _ => return .block
  | .dispatchArmed, _ => return .queryReceipt
  | _, none => return .refreshObservation
  | _, some observation => self.reconcileObserved authority operationId record observation at'

/-- `verify_receipt` of an observation that is not the latest evidence again. -/
def appendObservation (operationId : ObjectOperationId) (intent : BridgeOperationIntent)
    (receipt : BridgeOperationReceipt) (observation : BridgeObjectObservation) (at' : Datetime) :
    JournalMethod BridgeOperationRecord :=
  match BridgeOperationVerification.create intent receipt observation at' with
  | .ok verification => recordVerification verification
  | .error (.typeError _) | .error (.valueError _) =>
    blockAndRaise operationId .observationMismatch
  | .error e => Method.raise e

/-- The observation is the latest durable evidence again. -/
def repeatsVerification (observation : BridgeObjectObservation) (intent : BridgeOperationIntent)
    (latest : BridgeOperationVerification) : Prop :=
  observation.observedAt = latest.observedAt
    ∧ sameRevision observation.revision latest.revision
    ∧ observation.fingerprint = latest.fingerprint
    ∧ observationIdentityMatches observation intent

instance (observation : BridgeObjectObservation) (intent : BridgeOperationIntent)
    (latest : BridgeOperationVerification) :
    Decidable (repeatsVerification observation intent latest) := by
  unfold repeatsVerification; infer_instance

/-- `verify_receipt`, against the stored receipt. -/
def verifyAgainst (operationId : ObjectOperationId) (record : BridgeOperationRecord)
    (receipt : BridgeOperationReceipt) (observation : BridgeObjectObservation) (at' : Datetime) :
    JournalMethod BridgeOperationRecord :=
  match record.verification with
  | none => appendObservation operationId record.intent receipt observation at'
  | some latest =>
    if observation.observedAt ≤ latest.observedAt then
      if repeatsVerification observation record.intent latest then return record
      else Method.raise
        (.transitionError "Refreshed observation must be newer than durable evidence.")
    else appendObservation operationId record.intent receipt observation at'

/-- `verify_receipt`. -/
def verifyReceipt (self : BridgeTransactionRecorder) (operationId : ObjectOperationId)
    (observation : BridgeObjectObservation) (at' : Datetime) :
    JournalMethod BridgeOperationRecord := do
  let journal ← Method.get
  let record ← journal.getOperation operationId
  Method.require (record.state = .acknowledged ∨ record.state = .verified)
    (.transitionError "Only an acknowledged or verified operation may be verified.")
  let attempt ← self.attemptForIntent journal record.intent
  Method.require (observationFresh observation.observedAt at' attempt)
    (.transactionBlocked .staleObservation)
  match record.receipt with
  | none => blockAndRaise operationId .receiptMismatch
  | some receipt => verifyAgainst operationId record receipt observation at'

end BridgeTransactionRecorder

end TrueFamily.Transaction
