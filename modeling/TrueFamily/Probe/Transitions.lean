import TrueFamily.Probe.Record

/-!
# The contract of the physical probe: transitions

The methods of `ProbeRecoveryRecord` that return the next record, and the records that they reach
from `arm`. Every one of them ends in the constructor, so that its result is validated.
-/

namespace TrueFamily.Probe

open Checked JsonValue TrueFamily.Preflight

def directProofWindowMs : ℤ := 10000

/-- `_POST_CHALLENGE_SEQUENCE_RESERVE`. -/
def postChallengeSequenceReserve : ℤ := maxRestoreAttempts + maxUnclaimedSafetyAttempts

/-- `_POST_NOOP_SEQUENCE_RESERVE`. -/
def postNoopSequenceReserve : ℤ := 1 + postChallengeSequenceReserve

/-- `_full_phase_deadline`. -/
def fullPhaseDeadline (nowMs operationDeadlineMs windowMs : ℤ) : Result ℤ := do
  checkSafeMilliseconds nowMs "current time"
  checkSafeMilliseconds operationDeadlineMs "operation deadline"
  checkPositive windowMs "phase window"
  let deadline ← checkedAdd nowMs windowMs "full phase deadline"
  check (deadline ≤ operationDeadlineMs)
    "A full proof window does not remain within operation authority."
  return deadline

/-- `_require_new_sequence`. -/
def requireNewSequence (sequence : Option ℤ) (used : List ℤ) (reserveAfter : ℤ) : Result ℤ :=
  match sequence with
  | none => .error (capitalize "next command sequence" ++ " must be a strict integer.")
  | some sequence => do
    check (0 ≤ sequence ∧ sequence ≤ 0xfffe)
      (capitalize "next command sequence" ++ " is outside the generated sequence range.")
    check (sequence ∉ used) "Command sequence must be distinct."
    checkNonnegative reserveAfter "reserved sequence capacity"
    check (used.length + 1 + reserveAfter ≤ maxUsedSequences)
      "Command would consume reserved restoration sequence capacity."
    return sequence

/-- `ProbeCommandProof.__post_init__`, with the one profile. -/
def ProbeCommandProof.validate (proof : ProbeCommandProof) : Result Unit := do
  brtProfile.validateTarget proof.target "proof target"
  if proof.purpose.isPhysical = true then checkUint16 proof.sequence "physical proof sequence"
  else
    check (0 ≤ proof.sequence ∧ proof.sequence ≤ 0xfffe)
      (capitalize "command proof sequence" ++ " is outside the generated sequence range.")

/-- `ExpectedProbeProof.accepts`. -/
def ExpectedProbeProof.Accepts (expected : ExpectedProbeProof) (proof : ProbeCommandProof) : Prop :=
  proof.purpose = expected.purpose ∧ proof.target = expected.target
    ∧ ∀ sequence ∈ expected.sequence, proof.sequence = sequence

instance (expected : ExpectedProbeProof) (proof : ProbeCommandProof) :
    Decidable (expected.Accepts proof) := instDecidableAnd

/-- `_validate_request_binding`. -/
def validateRequestBinding (record : ProbeRecoveryRecord) (bootId requestId : Text)
    (requestDeadlineMs nowMs : ℤ) : Result Unit := do
  checkPattern bootPattern bootId "boot ID"
  checkPattern requestPattern requestId "request ID"
  validateFreshDeadline requestDeadlineMs nowMs maxRequestWindowMs "request deadline"
  check (record.lastRequestDeadlineMs < requestDeadlineMs)
    "Request deadline must advance monotonically."
  check (¬ (bootId = record.boundBootId ∧ requestId ∈ record.consumedRequestIds))
    "Request ID has already been consumed."
  check (¬ (bootId = record.boundBootId
    ∧ maxConsumedRequestIds ≤ record.consumedRequestIds.length))
    "Consumed request ID capacity is exhausted for this boot."

/-- `_next_consumed_ids`. -/
def nextConsumedIds (record : ProbeRecoveryRecord) (bootId requestId : Text) : List Text :=
  if bootId = record.boundBootId then record.consumedRequestIds ++ [requestId] else [requestId]

namespace ProbeRecoveryRecord

section

variable [Sha256]

/-- The constructor: a record that is not valid is not built. -/
def build (record : ProbeRecoveryRecord) : Result ProbeRecoveryRecord := do
  record.validate
  return record

/-- `_transition`, of the record with the changes that `replace` makes. -/
def transition (record changed : ProbeRecoveryRecord) : Result ProbeRecoveryRecord := do
  check (record.generation < maxGeneration) "Probe generation limit is exhausted."
  check (changed.operationDeadlineMs = record.operationDeadlineMs)
    "Operation authority is immutable."
  build { changed with generation := record.generation + 1 }

/-- The record that `_terminal` creates, before its result ID is calculated. -/
def terminalValues (record : ProbeRecoveryRecord) (outcome : ProbeOutcome)
    (proofs : List ProbeCommandProof) (usedSequences : List ℤ) (failure : Option Text)
    (resultNotBeforeMs : ℤ) : ProbeRecoveryRecord :=
  { record with
    phase := .resultPendingAck
    generation := record.generation + 1
    expectedProofDeadlineMs := 0
    restoreRequired := false
    remediationAfterRestore := false
    usedSequences := usedSequences
    proofs := proofs
    expectedProof := none
    outcome := some outcome
    failureCode := failure
    resultId := none
    resultNotBeforeMs := resultNotBeforeMs
    cleanupAllowed := false }

/-- `_terminal`; `from_dict` builds the proofs again before it builds the record. -/
def terminal (record : ProbeRecoveryRecord) (outcome : ProbeOutcome)
    (proofs : List ProbeCommandProof) (usedSequences : List ℤ) (failureCode : Option Text)
    (nowMs : ℤ) : Result ProbeRecoveryRecord := do
  let failure := failureCode.orElse fun _ => record.failureCode
  let resultNotBeforeMs ← checkedAdd nowMs resultSettlingWindowMs "result settling time"
  check (resultNotBeforeMs < record.operationDeadlineMs)
    "Result settling cannot complete within operation authority."
  let values := record.terminalValues outcome proofs usedSequences failure resultNotBeforeMs
  let resultId ← calculateResultId values.entries
  forAll ProbeCommandProof.validate proofs
  build { values with resultId := some resultId }

/-- `begin_restore`, with its optional arguments. -/
def beginRestore (record : ProbeRecoveryRecord) (sequence : Option ℤ) (failureCode : Option Text)
    (nowMs : ℤ) (proofs : Option (List ProbeCommandProof)) (usedSequences : Option (List ℤ))
    (remediationAfterRestore : Option Bool) : Result ProbeRecoveryRecord := do
  check (record.phase ∈ [ProbePhase.awaitingChallengeResponse, .awaitingRestoreResponse,
    .resultPendingAck, .remediationRequired]) "Restore is not available in this phase."
  failureCode.elim (.ok ()) validateFailureCode
  let remediation := remediationAfterRestore.getD (record.remediationAfterRestore
    || decide (record.phase = .remediationRequired)
    || failureCode.any fun code => decide (code ∈ remediationAfterRestoreCodes))
  let attempts := record.restoreAttempts + 1
  check (attempts ≤ maxRestoreAttempts) "Restore attempt limit is exhausted."
  let baseUsed := usedSequences.getD record.usedSequences
  let sequence ← requireNewSequence sequence baseUsed
    (maxRestoreAttempts - attempts + maxUnclaimedSafetyAttempts)
  let deadline ← fullPhaseDeadline nowMs record.operationDeadlineMs directProofWindowMs
  let expected : ExpectedProbeProof := ⟨.restore, some sequence, record.intendedTarget⟩
  expected.validate
  record.transition { record with
    phase := .awaitingRestoreResponse
    expectedProofDeadlineMs := deadline
    usedSequences := baseUsed ++ [sequence]
    proofs := proofs.getD record.proofs
    expectedProof := some expected
    restoreRequired := true
    remediationAfterRestore := remediation
    restoreAttempts := attempts
    failureCode := failureCode
    outcome := none
    resultId := none
    resultNotBeforeMs := 0
    cleanupAllowed := false }

/-- The changes of `to_remediation`. -/
def remediated (record : ProbeRecoveryRecord) (failureCode : Text) (restoreRequired : Bool) :
    ProbeRecoveryRecord :=
  { record with
    phase := .remediationRequired
    expectedProof := none
    expectedProofDeadlineMs := 0
    restoreRequired := restoreRequired
    remediationAfterRestore := false
    outcome := none
    failureCode := some failureCode
    resultId := none
    resultNotBeforeMs := 0
    cleanupAllowed := false }

/-- `to_remediation`. -/
def toRemediation (record : ProbeRecoveryRecord) (failureCode : Text) (restoreRequired : Bool) :
    Result ProbeRecoveryRecord := do
  validateFailureCode failureCode
  if record.generation < maxGeneration then
    record.transition (record.remediated failureCode restoreRequired)
  else build (record.remediated failureCode restoreRequired)

/-- The next step that `accept_proof` takes once the proof is accepted. -/
def advance (record : ProbeRecoveryRecord) (proofs : List ProbeCommandProof)
    (usedSequences : List ℤ) (nowMs : ℤ) (nextSequence : Option ℤ) : Result ProbeRecoveryRecord :=
  match record.phase with
  | .awaitingPhysicalTarget1 => do
    let expected : ExpectedProbeProof := ⟨.physicalTarget2, none, record.physicalTargets.2⟩
    expected.validate
    let deadline ← boundedPhaseDeadline nowMs record.operationDeadlineMs physicalProofWindowMs
    record.transition { record with
      phase := .awaitingPhysicalTarget2
      proofs := proofs
      usedSequences := usedSequences
      expectedProof := some expected
      expectedProofDeadlineMs := deadline }
  | .awaitingPhysicalTarget2 => do
    let sequence ← requireNewSequence nextSequence usedSequences postNoopSequenceReserve
    let expected : ExpectedProbeProof := ⟨.noop, some sequence, record.intendedTarget⟩
    expected.validate
    let deadline ← boundedPhaseDeadline nowMs record.operationDeadlineMs directProofWindowMs
    record.transition { record with
      phase := .awaitingNoopResponse
      proofs := proofs
      usedSequences := usedSequences ++ [sequence]
      expectedProof := some expected
      expectedProofDeadlineMs := deadline }
  | .awaitingNoopResponse => do
    let sequence ← requireNewSequence nextSequence usedSequences postChallengeSequenceReserve
    let expected : ExpectedProbeProof := ⟨.challenge, some sequence, record.challengeTarget⟩
    expected.validate
    let deadline ← boundedPhaseDeadline nowMs record.operationDeadlineMs directProofWindowMs
    record.transition { record with
      phase := .awaitingChallengeResponse
      proofs := proofs
      usedSequences := usedSequences ++ [sequence]
      expectedProof := some expected
      expectedProofDeadlineMs := deadline
      restoreRequired := true }
  | .awaitingChallengeResponse =>
    record.beginRestore nextSequence record.failureCode nowMs (some proofs) (some usedSequences)
      none
  | .awaitingRestoreResponse =>
    if record.remediationAfterRestore = true then
      record.toRemediation (record.failureCode.getD (chars "restart_recovery")) false
    else
      record.terminal (if record.failureCode = none then .verified else .failedRestored) proofs
        usedSequences none nowMs
  | _ => .error "No proof is accepted in the current phase."

/-- `accept_proof`. -/
def acceptProof (record : ProbeRecoveryRecord) (proof : ProbeCommandProof) (nowMs : ℤ)
    (nextSequence : Option ℤ) : Result ProbeRecoveryRecord := do
  check (∃ expected ∈ record.expectedProof, expected.Accepts proof)
    "Observed proof does not match the expected proof."
  checkSafeMilliseconds nowMs "proof time"
  check (nowMs < record.expectedProofDeadlineMs) "Observed proof arrived after its deadline."
  if proof.purpose.isPhysical = true then do
    check (proof.sequence ∉ record.usedSequences) "Physical proof sequence is not fresh."
    record.advance (record.proofs ++ [proof]) (record.usedSequences ++ [proof.sequence]) nowMs
      nextSequence
  else do
    check (proof.sequence ∈ record.usedSequences) "Command response sequence was never dispatched."
    record.advance (record.proofs ++ [proof]) record.usedSequences nowMs nextSequence

/-- `reuse_restore`. -/
def reuseRestore (record : ProbeRecoveryRecord) (bootId : Text) (nowMs : ℤ) :
    Result ProbeRecoveryRecord := do
  check (record.phase = .awaitingRestoreResponse ∧ record.expectedProof ≠ none
    ∧ 1 ≤ record.restoreAttempts) "No persisted restore can be reused."
  checkPattern bootPattern bootId "boot ID"
  let deadline ← fullPhaseDeadline nowMs record.operationDeadlineMs directProofWindowMs
  record.transition { record with
    boundBootId := bootId
    expectedProofDeadlineMs := deadline
    failureCode := some (record.failureCode.getD (chars "restart_recovery")) }

/-- `fail_safe`. -/
def failSafe (record : ProbeRecoveryRecord) (failureCode : Text) (nowMs : ℤ) (bootId : Text) :
    Result ProbeRecoveryRecord := do
  check (record.restoreRequired = false ∧ ¬ IsTerminal record.phase)
    "A safe failure is not available in this phase."
  checkPattern bootPattern bootId "boot ID"
  check (bootId = record.boundBootId) "Safe terminalization requires the bound boot."
  validateFailureCode failureCode
  record.terminal .failedSafe record.proofs record.usedSequences (some failureCode) nowMs

/-- `resume`. -/
def resume (record : ProbeRecoveryRecord) (bootId requestId : Text)
    (requestDeadlineMs nowMs : ℤ) (nextSequence : Option ℤ) : Result ProbeRecoveryRecord := do
  check (record.restoreRequired = false ∧ ¬ IsTerminal record.phase)
    "This recovery phase cannot be resumed."
  check (nowMs < record.operationDeadlineMs) "The operation deadline has expired."
  validateRequestBinding record bootId requestId requestDeadlineMs nowMs
  let deadline ← boundedPhaseDeadline nowMs record.operationDeadlineMs
    (if record.phase = .awaitingNoopResponse then directProofWindowMs else physicalProofWindowMs)
  let bound : ProbeRecoveryRecord := { record with
    boundBootId := bootId
    consumedRequestIds := nextConsumedIds record bootId requestId
    lastRequestDeadlineMs := requestDeadlineMs
    expectedProofDeadlineMs := deadline }
  if record.phase = .awaitingNoopResponse then do
    let sequence ← requireNewSequence nextSequence record.usedSequences postNoopSequenceReserve
    let expected : ExpectedProbeProof := ⟨.noop, some sequence, record.intendedTarget⟩
    expected.validate
    record.transition { bound with
      usedSequences := record.usedSequences ++ [sequence]
      expectedProof := some expected }
  else record.transition bound

/-- `acknowledge`. -/
def acknowledge (record : ProbeRecoveryRecord) (bootId requestId : Text)
    (requestDeadlineMs : ℤ) (resultId : Text) (nowMs : ℤ) : Result ProbeRecoveryRecord := do
  check (record.phase = .resultPendingAck ∧ record.resultId = some resultId)
    "Acknowledgement does not match a pending result."
  checkSafeMilliseconds nowMs "acknowledgement time"
  check (bootId = record.boundBootId) "Result acknowledgement must use the bound boot."
  check (nowMs < record.operationDeadlineMs) "The operation deadline has expired."
  check (record.resultNotBeforeMs ≤ nowMs) "Result acknowledgement is still settling."
  validateRequestBinding record bootId requestId requestDeadlineMs nowMs
  record.transition { record with
    phase := .quiescent
    boundBootId := bootId
    consumedRequestIds := nextConsumedIds record bootId requestId
    lastRequestDeadlineMs := requestDeadlineMs
    expectedProofDeadlineMs := 0
    cleanupAllowed := true }

/-- One transition of the record. -/
inductive Step : ProbeRecoveryRecord → ProbeRecoveryRecord → Prop
  | acceptProof {record next : ProbeRecoveryRecord} (proof : ProbeCommandProof) (nowMs : ℤ)
      (nextSequence : Option ℤ) : proof.validate = .ok () →
      record.acceptProof proof nowMs nextSequence = .ok next → Step record next
  | beginRestore {record next : ProbeRecoveryRecord} (sequence : Option ℤ)
      (failureCode : Option Text) (nowMs : ℤ) (proofs : Option (List ProbeCommandProof))
      (usedSequences : Option (List ℤ)) (remediationAfterRestore : Option Bool) :
      (∀ given ∈ proofs, ∀ proof ∈ given, proof.validate = .ok ()) →
      record.beginRestore sequence failureCode nowMs proofs usedSequences remediationAfterRestore
        = .ok next → Step record next
  | reuseRestore {record next : ProbeRecoveryRecord} (bootId : Text) (nowMs : ℤ) :
      record.reuseRestore bootId nowMs = .ok next → Step record next
  | failSafe {record next : ProbeRecoveryRecord} (failureCode : Text) (nowMs : ℤ)
      (bootId : Text) : record.failSafe failureCode nowMs bootId = .ok next → Step record next
  | toRemediation {record next : ProbeRecoveryRecord} (failureCode : Text)
      (restoreRequired : Bool) :
      record.toRemediation failureCode restoreRequired = .ok next → Step record next
  | resume {record next : ProbeRecoveryRecord} (bootId requestId : Text)
      (requestDeadlineMs nowMs : ℤ) (nextSequence : Option ℤ) :
      record.resume bootId requestId requestDeadlineMs nowMs nextSequence = .ok next →
      Step record next
  | acknowledge {record next : ProbeRecoveryRecord} (bootId requestId : Text)
      (requestDeadlineMs : ℤ) (resultId : Text) (nowMs : ℤ) :
      record.acknowledge bootId requestId requestDeadlineMs resultId nowMs = .ok next →
      Step record next

/-- The records that the transitions reach from `arm`. -/
inductive Reachable : ProbeRecoveryRecord → Prop
  | arm {record : ProbeRecoveryRecord} (candidate : NormalizedCandidateIdentity)
      (setTopic operationId bootId requestId : Text)
      (requestDeadlineMs operationDeadlineMs intendedTarget : ℤ) (physicalTargets : ℤ × ℤ)
      (nowMs : ℤ) :
      ProbeRecoveryRecord.arm brtProfile candidate setTopic operationId bootId requestId
        requestDeadlineMs operationDeadlineMs intendedTarget physicalTargets nowMs = .ok record →
      Reachable record
  | step {record next : ProbeRecoveryRecord} : Reachable record → Step record next → Reachable next

end

end ProbeRecoveryRecord

end TrueFamily.Probe
