import TrueFamily.Probe.Request

/-!
# The contract of the physical probe: the durable record

`ProbeRecoveryRecord` with the four validators that its constructor runs, and `arm`, which creates
the first record of an operation.
-/

namespace TrueFamily.Probe

open Checked JsonValue TrueFamily.Preflight

/-! ## Proofs -/

inductive ProbePurpose
  | physicalTarget1
  | physicalTarget2
  | noop
  | challenge
  | restore
  deriving DecidableEq, Repr

namespace ProbePurpose

/-- The value of the enumeration. -/
def value : ProbePurpose → String
  | .physicalTarget1 => "physical_target_1"
  | .physicalTarget2 => "physical_target_2"
  | .noop => "noop"
  | .challenge => "challenge"
  | .restore => "restore"

/-- `_PURPOSE_ORDER.index`. -/
def index : ProbePurpose → ℤ
  | .physicalTarget1 => 0
  | .physicalTarget2 => 1
  | .noop => 2
  | .challenge => 3
  | .restore => 4

def isPhysical : ProbePurpose → Bool
  | .physicalTarget1 | .physicalTarget2 => true
  | _ => false

end ProbePurpose

/-- `ProbeCommandProof`; there is one frame kind, `commandDataResponse`. -/
structure ProbeCommandProof where
  purpose : ProbePurpose
  sequence : ℤ
  target : ℤ
  deriving DecidableEq

/-- `ExpectedProbeProof`. -/
structure ExpectedProbeProof where
  purpose : ProbePurpose
  sequence : Option ℤ
  target : ℤ
  deriving DecidableEq

/-- The projection of a proof. -/
def proofDict (purpose : ProbePurpose) (sequence : Value) (target : ℤ) : Value :=
  .obj
    [(chars "purpose", .str (chars purpose.value)),
      (chars "frame_kind", .str (chars "commandDataResponse")), (chars "sequence", sequence),
      (chars "target", .int target)]

/-- `ProbeCommandProof.as_dict`. -/
def ProbeCommandProof.asDict (proof : ProbeCommandProof) : Value :=
  proofDict proof.purpose (.int proof.sequence) proof.target

/-- `ExpectedProbeProof.as_dict`. -/
def ExpectedProbeProof.asDict (expected : ExpectedProbeProof) : Value :=
  proofDict expected.purpose ((expected.sequence.map .int).getD .null) expected.target

/-- `ExpectedProbeProof.__post_init__`. -/
def ExpectedProbeProof.validate (expected : ExpectedProbeProof) : Result Unit :=
  match expected.purpose.isPhysical, expected.sequence with
  | true, none => .ok ()
  | true, some _ => .error "A physical response sequence cannot be predicted."
  | false, none => .error (capitalize "expected command sequence" ++ " must be a strict integer.")
  | false, some sequence =>
    check (0 ≤ sequence ∧ sequence ≤ 0xfffe)
      (capitalize "expected command sequence" ++ " is outside the generated sequence range.")

inductive ProbeOutcome
  | verified
  | failedSafe
  | failedRestored
  deriving DecidableEq, Repr

def ProbeOutcome.value : ProbeOutcome → String
  | .verified => "verified"
  | .failedSafe => "failed_safe"
  | .failedRestored => "failed_restored"

/-! ## The record -/

/-- `ProbeRecoveryRecord`. -/
structure ProbeRecoveryRecord where
  schema : Text
  protocolId : Text
  protocolVersion : ℤ
  buildId : Text
  profileId : Text
  profileVersion : ℤ
  candidateIeee : Text
  candidateSetTopic : Text
  operationId : Text
  boundBootId : Text
  phase : ProbePhase
  generation : ℤ
  operationDeadlineMs : ℤ
  lastRequestDeadlineMs : ℤ
  expectedProofDeadlineMs : ℤ
  intendedTarget : ℤ
  challengeTarget : ℤ
  physicalTargets : ℤ × ℤ
  restoreRequired : Bool
  remediationAfterRestore : Bool
  restoreAttempts : ℤ
  consumedRequestIds : List Text
  usedSequences : List ℤ
  proofs : List ProbeCommandProof
  expectedProof : Option ExpectedProbeProof
  outcome : Option ProbeOutcome
  failureCode : Option Text
  resultId : Option Text
  resultNotBeforeMs : ℤ
  cleanupAllowed : Bool
  deriving DecidableEq

/-- The value of a phase. -/
def ProbePhase.value (phase : ProbePhase) : String :=
  ((ProbePhase.values.find? fun entry => entry.2 = phase).map Prod.fst).getD ""

/-- `None` or the value of an optional field. -/
def optional {α : Type} (toValue : α → Value) (value : Option α) : Value :=
  (value.map toValue).getD .null

namespace ProbeRecoveryRecord

variable (record : ProbeRecoveryRecord)

/-- The items of `as_dict`. -/
def entries : List (String × Value) :=
  [("schema", .str record.schema), ("protocol_id", .str record.protocolId),
    ("protocol_version", .int record.protocolVersion), ("build_id", .str record.buildId),
    ("profile_id", .str record.profileId), ("profile_version", .int record.profileVersion),
    ("candidate_ieee", .str record.candidateIeee),
    ("candidate_set_topic", .str record.candidateSetTopic),
    ("operation_id", .str record.operationId), ("bound_boot_id", .str record.boundBootId),
    ("phase", .str (chars record.phase.value)), ("generation", .int record.generation),
    ("operation_deadline_ms", .int record.operationDeadlineMs),
    ("last_request_deadline_ms", .int record.lastRequestDeadlineMs),
    ("expected_proof_deadline_ms", .int record.expectedProofDeadlineMs),
    ("intended_target", .int record.intendedTarget),
    ("challenge_target", .int record.challengeTarget),
    ("physical_targets", .arr [.int record.physicalTargets.1, .int record.physicalTargets.2]),
    ("restore_required", .bool record.restoreRequired),
    ("remediation_after_restore", .bool record.remediationAfterRestore),
    ("restore_attempts", .int record.restoreAttempts),
    ("consumed_request_ids", .arr (record.consumedRequestIds.map .str)),
    ("used_sequences", .arr (record.usedSequences.map .int)),
    ("proofs", .arr (record.proofs.map ProbeCommandProof.asDict)),
    ("expected_proof", optional ExpectedProbeProof.asDict record.expectedProof),
    ("outcome", optional (fun outcome => .str (chars outcome.value)) record.outcome),
    ("failure_code", optional .str record.failureCode),
    ("result_id", optional .str record.resultId),
    ("result_not_before_ms", .int record.resultNotBeforeMs),
    ("cleanup_allowed", .bool record.cleanupAllowed)]

/-- `as_dict`. -/
def asDict : Value := .obj (record.entries.map fun entry => (chars entry.1, entry.2))

end ProbeRecoveryRecord

/-- The fields of `calculate_result_id`. -/
def resultIdFields : List String :=
  ["operation_id", "profile_id", "profile_version", "intended_target", "challenge_target",
    "proofs", "outcome", "failure_code"]

/-- `calculate_result_id`, of a record's dictionary. -/
def calculateResultId [Sha256] (entries : List (String × Value)) : Result Text := do
  let body := .obj ((entries.filter fun entry => entry.1 ∈ resultIdFields).map fun entry =>
    (chars entry.1, entry.2))
  let _ ← canonicalJsonText body maxStateJsonBytes
  return chars "tfpp-result-"
    ++ (hexdigest (valueFrame body "true-family-physical-probe/result/v2")).take 24

def failureCodes : List Text :=
  [chars "competing_frame", chars "competing_write", chars "control_drift",
    chars "deadline_expired", chars "dispatch_failed", chars "dispatch_timeout",
    chars "identity_mismatch", chars "journal_uncertain", chars "proof_mismatch",
    chars "queue_overflow", chars "restart_recovery", chars "restore_exhausted"]

def remediationAfterRestoreCodes : List Text :=
  [chars "competing_frame", chars "competing_write", chars "control_drift", chars "queue_overflow"]

/-- `_validate_failure_code`. -/
def validateFailureCode (code : Text) : Result Unit :=
  check (code ∈ failureCodes) "Failure code is not an allowlisted fixed value."

/-! ## The validators -/

namespace ProbeRecoveryRecord

/-- `_validate_recovery_scalars`. -/
def validateScalars (record : ProbeRecoveryRecord) : Result PhysicalProbeProfile := do
  check (record.schema = chars "true-family-physical-probe-state-v2"
    ∧ record.protocolId = chars "true-family-physical-probe")
    "Recovery record schema or protocol is incompatible."
  check (record.protocolVersion = 2
    ∧ record.buildId = chars "tfpp-v2-z2m-2.12.1-zh-10.6.1-zhc-26.76.0")
    "Recovery record build identity is incompatible."
  let profile ← profileOf record.profileId record.profileVersion
  checkPattern ieeePattern record.candidateIeee "candidate IEEE address"
  checkSetTopic record.candidateSetTopic
  checkPattern operationPattern record.operationId "operation ID"
  checkPattern bootPattern record.boundBootId "bound boot ID"
  checkNonnegative record.generation "record generation"
  check (1 ≤ record.generation ∧ record.generation ≤ maxGeneration)
    "Record generation is outside its bound."
  checkSafeMilliseconds record.operationDeadlineMs "operation deadline"
  checkSafeMilliseconds record.lastRequestDeadlineMs "last request deadline"
  checkSafeMilliseconds record.expectedProofDeadlineMs "expected proof deadline"
  checkSafeMilliseconds record.resultNotBeforeMs "result not-before time"
  profile.validateTarget record.intendedTarget "intended target"
  profile.validateTarget record.challengeTarget "challenge target"
  let challengeTarget ← profile.challengeTarget record.intendedTarget
  check (record.challengeTarget = challengeTarget) "Stored challenge target is not canonical."
  checkNonnegative record.restoreAttempts "restore attempts"
  check (record.restoreAttempts ≤ maxRestoreAttempts) "Restore attempts exceed their bound."
  match record.failureCode with
  | none => return profile
  | some code => do
    validateFailureCode code
    return profile

/-- The target that a proof of a purpose has. -/
def targetOf (record : ProbeRecoveryRecord) : ProbePurpose → ℤ
  | .physicalTarget1 => record.physicalTargets.1
  | .physicalTarget2 => record.physicalTargets.2
  | .noop => record.intendedTarget
  | .challenge => record.challengeTarget
  | .restore => record.intendedTarget

/-- The loop over the proofs, after a proof with this index. -/
def validateProofs (record : ProbeRecoveryRecord) (profile : PhysicalProbeProfile) :
    ℤ → List ProbeCommandProof → Result Unit
  | _, [] => .ok ()
  | lastIndex, proof :: proofs => do
    profile.validateTarget proof.target "proof target"
    check (lastIndex < proof.purpose.index) "Stored proofs are duplicated or out of order."
    check (proof.sequence ∈ record.usedSequences) "Stored proof sequence is not in the used set."
    check (proof.target = record.targetOf proof.purpose) "Stored proof target is not canonical."
    validateProofs record profile proof.purpose.index proofs

/-- The checks of the proof that is expected. -/
def validateExpected (record : ProbeRecoveryRecord) (profile : PhysicalProbeProfile) :
    Result Unit :=
  match record.expectedProof with
  | none => .ok ()
  | some expected => do
    profile.validateTarget expected.target "expected target"
    check (∀ sequence ∈ expected.sequence, sequence ∈ record.usedSequences)
      "Expected command sequence is not in the used set."

/-- `_validate_recovery_collections`. -/
def validateCollections (record : ProbeRecoveryRecord) (profile : PhysicalProbeProfile) :
    Result Unit := do
  validatePhysicalTargets record.physicalTargets record.intendedTarget profile
  check (1 ≤ record.consumedRequestIds.length
    ∧ record.consumedRequestIds.length ≤ maxConsumedRequestIds)
    "Consumed request IDs are outside their bound."
  forAll (fun requestId => checkPattern requestPattern requestId "consumed request ID")
    record.consumedRequestIds
  check record.consumedRequestIds.Nodup "Consumed request IDs must be unique."
  check (record.usedSequences.length ≤ maxUsedSequences) "Used sequences are outside their bound."
  forAll (fun sequence => checkUint16 sequence "used sequence") record.usedSequences
  check record.usedSequences.Nodup "Used sequences must be unique."
  check (record.proofs.length ≤ maxProofs) "Proofs are outside their bound."
  validateProofs record profile (-1) record.proofs
  validateExpected record profile

/-- The phases without a proof to come. -/
def IsTerminal (phase : ProbePhase) : Prop :=
  phase ∈ [ProbePhase.resultPendingAck, .quiescent, .remediationRequired]

instance (phase : ProbePhase) : Decidable (IsTerminal phase) := List.instDecidableMemOfLawfulBEq _ _

/-- The purposes of the accepted proofs. -/
def purposes (record : ProbeRecoveryRecord) : List ProbePurpose :=
  record.proofs.map ProbeCommandProof.purpose

/-- `_PHASE_PURPOSE`. -/
def purposeOf : ProbePhase → ProbePurpose
  | .awaitingPhysicalTarget1 => .physicalTarget1
  | .awaitingPhysicalTarget2 => .physicalTarget2
  | .awaitingNoopResponse => .noop
  | .awaitingChallengeResponse => .challenge
  | _ => .restore

/-- `valid_histories`. -/
def validHistories : ProbePhase → List (List ProbePurpose)
  | .awaitingPhysicalTarget1 => [[]]
  | .awaitingPhysicalTarget2 => [[.physicalTarget1]]
  | .awaitingNoopResponse => [[.physicalTarget1, .physicalTarget2]]
  | .awaitingChallengeResponse => [[.physicalTarget1, .physicalTarget2, .noop]]
  | .awaitingRestoreResponse =>
    [[.physicalTarget1, .physicalTarget2, .noop],
      [.physicalTarget1, .physicalTarget2, .noop, .challenge],
      [.physicalTarget1, .physicalTarget2, .noop, .challenge, .restore]]
  | _ => []

/-- `_validate_recovery_phase`, in the phase that needs remediation. -/
def validateRemediation (record : ProbeRecoveryRecord) : Result Unit := do
  check (record.outcome = none ∧ record.resultId = none ∧ record.resultNotBeforeMs = 0
    ∧ record.remediationAfterRestore = false ∧ record.cleanupAllowed = false)
    "Remediation state cannot claim a result or cleanup."
  check (record.failureCode ≠ none) "Remediation state requires a fixed failure code."

/-- `_validate_recovery_phase`, in a phase with a result. -/
def validateResult [Sha256] (record : ProbeRecoveryRecord) : Result Unit := do
  check (record.restoreRequired = false) "Result state cannot require restore."
  match record.outcome, record.resultId with
  | some outcome, some resultId => do
    check (0 < record.resultNotBeforeMs ∧ record.remediationAfterRestore = false)
      "Result state has invalid settling or remediation metadata."
    check (record.resultNotBeforeMs < record.operationDeadlineMs)
      "Result settling exceeds operation authority."
    let bound ← checkedAdd record.operationDeadlineMs resultSettlingWindowMs
      "result settling bound"
    check (record.resultNotBeforeMs ≤ bound) "Result settling time exceeds its durable bound."
    checkPattern resultIdPattern resultId "result ID"
    let calculated ← calculateResultId record.entries
    check (calculated = resultId) "Stored result ID is not canonical."
    check (¬ (outcome = .verified ∧ record.failureCode ≠ none))
      "Verified result cannot contain a failure code."
    check (¬ (outcome ≠ .verified ∧ record.failureCode = none))
      "Failed result requires a fixed failure code."
    check (record.cleanupAllowed = decide (record.phase = .quiescent))
      "Cleanup is allowed only after result acknowledgement."
    check (outcome = .verified → record.purposes
      = [.physicalTarget1, .physicalTarget2, .noop, .challenge, .restore])
      "Verified result requires every ordered proof."
    check (outcome = .failedRestored → record.purposes
      ∈ [[ProbePurpose.physicalTarget1, .physicalTarget2, .noop, .restore],
        [.physicalTarget1, .physicalTarget2, .noop, .challenge, .restore]])
      "Failed restored result has incomplete proof history."
    check (outcome = .failedSafe → record.purposes
      ∈ [[], [ProbePurpose.physicalTarget1], [.physicalTarget1, .physicalTarget2]])
      "Safe failure has impossible proof history."
    check (¬ ((outcome = .failedSafe ∧ record.restoreAttempts ≠ 0)
      ∨ (outcome ≠ .failedSafe ∧ record.restoreAttempts < 1)))
      "Result restore-attempt count is inconsistent."
  | _, _ => .error "Result state requires an outcome and result ID."

/-- The checks of an active phase that concern the proof to come. -/
def validateActiveProof (record : ProbeRecoveryRecord) : Result Unit :=
  match record.expectedProof with
  | none => .error "Active phase and expected proof do not match."
  | some expected => do
    check (expected.purpose = purposeOf record.phase)
      "Active phase and expected proof do not match."
    check (0 < record.expectedProofDeadlineMs
      ∧ record.expectedProofDeadlineMs ≤ record.operationDeadlineMs)
      "Active proof deadline is invalid."
    check (expected.target = record.targetOf (purposeOf record.phase))
      "Expected proof target is not canonical."

/-- `_validate_recovery_phase`, in a phase that awaits a proof. -/
def validateActive (record : ProbeRecoveryRecord) : Result Unit := do
  check (record.outcome = none ∧ record.resultId = none ∧ record.cleanupAllowed = false)
    "Active record contains terminal fields."
  check (record.resultNotBeforeMs = 0) "Active record cannot carry result settling time."
  check (¬ (record.phase ≠ .awaitingRestoreResponse ∧ record.remediationAfterRestore = true))
    "Remediation intent is valid only during restore."
  validateActiveProof record
  check (record.restoreRequired = decide (record.phase = .awaitingChallengeResponse
    ∨ record.phase = .awaitingRestoreResponse))
    "Restore-required flag does not match the phase."
  check (record.purposes ∈ validHistories record.phase)
    "Active phase has incomplete proof history."
  if record.phase = .awaitingRestoreResponse then do
    check (1 ≤ record.restoreAttempts ∧ record.restoreAttempts ≤ maxRestoreAttempts)
      "Restore phase requires a bounded attempt count."
    check (¬ ((∃ code ∈ record.failureCode, code ∈ remediationAfterRestoreCodes)
      ∧ record.remediationAfterRestore = false))
      "Safety restore must retain remediation intent."
    check (¬ (record.purposes ≠ [.physicalTarget1, .physicalTarget2, .noop, .challenge]
      ∧ record.failureCode = none)) "Fallback restore requires a failure code."
  else do
    check (record.restoreAttempts = 0) "Restore attempts are nonzero before restore phase."
    check (record.failureCode = none) "Active failure code is allowed only during restore."

/-- `_validate_recovery_phase`. -/
def validatePhase [Sha256] (record : ProbeRecoveryRecord) : Result Unit :=
  if IsTerminal record.phase then do
    check (record.expectedProof = none ∧ record.expectedProofDeadlineMs = 0)
      "Terminal state cannot expect another proof."
    if record.phase = .remediationRequired then record.validateRemediation
    else record.validateResult
  else record.validateActive

/-- The sequences that a phase reserves. -/
def requiredSequences (record : ProbeRecoveryRecord) : ℤ :=
  match record.phase with
  | .awaitingPhysicalTarget1 => 3 + (1 + (maxRestoreAttempts + maxUnclaimedSafetyAttempts))
  | .awaitingPhysicalTarget2 => 2 + (1 + (maxRestoreAttempts + maxUnclaimedSafetyAttempts))
  | .awaitingNoopResponse => 1 + (maxRestoreAttempts + maxUnclaimedSafetyAttempts)
  | .awaitingChallengeResponse => maxRestoreAttempts + maxUnclaimedSafetyAttempts
  | .awaitingRestoreResponse =>
    maxRestoreAttempts - record.restoreAttempts + maxUnclaimedSafetyAttempts
  | _ => maxUnclaimedSafetyAttempts

/-- `_validate_recovery_sequence_capacity`. -/
def validateSequenceCapacity (record : ProbeRecoveryRecord) : Result Unit :=
  check (record.usedSequences.length + record.requiredSequences ≤ maxUsedSequences)
    "Recovery record consumed reserved restoration sequence capacity."

/-- `ProbeRecoveryRecord.__post_init__`. -/
def validate [Sha256] (record : ProbeRecoveryRecord) : Result Unit := do
  let profile ← record.validateScalars
  record.validateCollections profile
  record.validatePhase
  record.validateSequenceCapacity
  let _ ← canonicalJsonText record.asDict maxStateJsonBytes

/-- `ProbeRecoveryRecord.arm`. -/
def arm [Sha256] (profile : PhysicalProbeProfile) (candidate : NormalizedCandidateIdentity)
    (candidateSetTopic operationId bootId requestId : Text)
    (requestDeadlineMs operationDeadlineMs intendedTarget : ℤ) (physicalTargets : ℤ × ℤ)
    (nowMs : ℤ) : Result ProbeRecoveryRecord := do
  candidate.requireProfile profile
  checkSetTopic candidateSetTopic
  checkPattern operationPattern operationId "operation ID"
  checkPattern bootPattern bootId "boot ID"
  checkPattern requestPattern requestId "request ID"
  validateFreshDeadline requestDeadlineMs nowMs maxRequestWindowMs "request deadline"
  validateFreshDeadline operationDeadlineMs nowMs maxOperationWindowMs "operation deadline"
  check (requestDeadlineMs < operationDeadlineMs)
    "Operation deadline must follow the request deadline."
  profile.validateTarget intendedTarget "intended target"
  validatePhysicalTargets physicalTargets intendedTarget profile
  let expectedDeadline ← boundedPhaseDeadline nowMs operationDeadlineMs physicalProofWindowMs
  let challengeTarget ← profile.challengeTarget intendedTarget
  let expected : ExpectedProbeProof := ⟨.physicalTarget1, none, physicalTargets.1⟩
  expected.validate
  let record : ProbeRecoveryRecord :=
    { schema := chars "true-family-physical-probe-state-v2"
      protocolId := chars "true-family-physical-probe"
      protocolVersion := 2
      buildId := chars "tfpp-v2-z2m-2.12.1-zh-10.6.1-zhc-26.76.0"
      profileId := profile.profileId
      profileVersion := profile.profileVersion
      candidateIeee := candidate.ieeeAddress
      candidateSetTopic := candidateSetTopic
      operationId := operationId
      boundBootId := bootId
      phase := .awaitingPhysicalTarget1
      generation := 1
      operationDeadlineMs := operationDeadlineMs
      lastRequestDeadlineMs := requestDeadlineMs
      expectedProofDeadlineMs := expectedDeadline
      intendedTarget := intendedTarget
      challengeTarget := challengeTarget
      physicalTargets := physicalTargets
      restoreRequired := false
      remediationAfterRestore := false
      restoreAttempts := 0
      consumedRequestIds := [requestId]
      usedSequences := []
      proofs := []
      expectedProof := some expected
      outcome := none
      failureCode := none
      resultId := none
      resultNotBeforeMs := 0
      cleanupAllowed := false }
  record.validate
  return record

end ProbeRecoveryRecord

end TrueFamily.Probe
