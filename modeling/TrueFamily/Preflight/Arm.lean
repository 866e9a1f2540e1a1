import TrueFamily.Preflight.Prearm

/-!
# The arm permit

`authorize_arm` and `verify_arm_permit`: the permit for one exact ARM publication, computed from
the raw evidence and the clock, and its comparison with a permit that a caller presents.
-/

namespace TrueFamily.Preflight

open Checked JsonValue

def armPermitSchema : Text := chars "true-family-probe-arm-permit-v1"
def armRequestDigestDomain : String := "true-family-physical-probe/arm-request/v1"
def armWireDigestDomain : String := "true-family-physical-probe/arm-wire/v1"
def requestTopicDigestDomain : String := "true-family-physical-probe/request-topic/v1"
def armPermitDigestDomain : String := "true-family-physical-probe/arm-permit/v1"

/-! ## The request -/

def armRequestFields : List String :=
  ["action", "protocol_id", "protocol_version", "build_id", "profile_id", "profile_version",
    "boot_id", "request_id", "operation_id", "nonce", "phase", "generation",
    "request_deadline_ms", "candidate", "intended_target", "physical_targets",
    "operation_deadline_ms"]

/-- The fields of a request whose values are fixed. -/
def armRequestValues : List (String × Value) :=
  [("action", str "arm"), ("protocol_id", protocolId), ("protocol_version", protocolVersion),
    ("build_id", buildId), ("profile_id", profileId), ("profile_version", profileVersion),
    ("phase", str "quiescent"), ("generation", .int 0)]

/-- `_require_target`, with a step of one. -/
def requireTarget (value : Value) (code : PreflightErrorCode) : Checks ℤ := do
  let target ← requireIntegerRange value 0 35 code
  check ((target - 0) % 1 = 0) code
  return target

/-- `_require_future_deadline`. -/
def requireFutureDeadline (value : Value) (nowMs maximumWindowMs : ℤ) (code : PreflightErrorCode) :
    Checks ℤ := do
  let deadline ← requireSafeInteger value code
  check (nowMs < deadline ∧ deadline ≤ nowMs + maximumWindowMs) code
  return deadline

/-- What `_normalize_arm_request` returns. -/
structure ArmRequest where
  bootId : Text
  requestId : Text
  operationId : Text
  nonce : Text
  requestDeadlineMs : ℤ
  candidate : List (Text × Value)
  intendedTarget : ℤ
  firstTarget : ℤ
  secondTarget : ℤ
  operationDeadlineMs : ℤ

/-- The dictionary that `_normalize_arm_request` returns. -/
def ArmRequest.normalized (request : ArmRequest) : Value :=
  dict
    [("action", str "arm"), ("protocol_id", protocolId), ("protocol_version", protocolVersion),
      ("build_id", buildId), ("profile_id", profileId), ("profile_version", profileVersion),
      ("boot_id", .str request.bootId), ("request_id", .str request.requestId),
      ("operation_id", .str request.operationId), ("nonce", .str request.nonce),
      ("phase", str "quiescent"), ("generation", .int 0),
      ("request_deadline_ms", .int request.requestDeadlineMs),
      ("candidate", .obj request.candidate), ("intended_target", .int request.intendedTarget),
      ("physical_targets", .arr [.int request.firstTarget, .int request.secondTarget]),
      ("operation_deadline_ms", .int request.operationDeadlineMs)]

/-- The two items of `physical_targets`. -/
def requirePair (value : Value) (code : PreflightErrorCode) : Checks (Value × Value) :=
  match value with
  | .arr [first, second] => .ok (first, second)
  | _ => .error code

/-- `_normalize_arm_request`. -/
def normalizeArmRequest (value : Value) (prearm : PreArmAttestation) (nowMs : ℤ) :
    Checks ArmRequest := do
  let code := PreflightErrorCode.armRejected
  validateJsonTree value code
  let request ← requireMapping value armRequestFields code
  check (hasExactValues request armRequestValues = true) code
  let bootId ← requirePattern bootPattern (field request "boot_id") code
  let requestId ← requirePattern requestPattern (field request "request_id") code
  let operationId ← requirePattern operationPattern (field request "operation_id") code
  let nonce ← requirePattern noncePattern (field request "nonce") code
  check (bootId = prearm.bootId) code
  let identity ← normalizeIdentity (field request "candidate") code
  let intendedTarget ← requireTarget (field request "intended_target") code
  let targets ← requirePair (field request "physical_targets") code
  let firstTarget ← requireTarget targets.1 code
  let secondTarget ← requireTarget targets.2 code
  check (firstTarget ≠ secondTarget ∧ secondTarget = intendedTarget) code
  let requestDeadline ← requireFutureDeadline (field request "request_deadline_ms") nowMs
    maxRequestWindowMs code
  check (requestDeadline ≤ prearm.expiresAtMs) code
  let operationDeadline ← requireFutureDeadline (field request "operation_deadline_ms") nowMs
    maxOperationWindowMs code
  check (requestDeadline < operationDeadline) code
  return ⟨bootId, requestId, operationId, nonce, requestDeadline, identity, intendedTarget,
    firstTarget, secondTarget, operationDeadline⟩

/-! ## The permit -/

/-- `ProbeArmPermit`; `ProbePermitAction` has the one member `ARM`. -/
structure ProbeArmPermit where
  schema : Text
  permitDigest : Text
  deploymentSnapshotDigest : Text
  prearmSnapshotDigest : Text
  requestDigest : Text
  canonicalPayloadDigest : Text
  requestTopicDigest : Text
  collectionEpochDigest : Text
  expectedOwnerDigest : Text
  fenceDigest : Text
  allowedAction : Unit
  qos : ℤ
  retain : Bool
  oneShotRequired : Bool
  consumptionEnforced : Bool
  commandsAuthorized : Bool
  expiresAtMs : ℤ
  deriving DecidableEq

/-- `_validate_permit_report`. -/
def ProbeArmPermit.validate (report : ProbeArmPermit) : Checks Unit := do
  let code := PreflightErrorCode.armRejected
  check (report.schema = armPermitSchema) code
  check ([report.permitDigest, report.deploymentSnapshotDigest, report.prearmSnapshotDigest,
    report.requestDigest, report.canonicalPayloadDigest, report.requestTopicDigest,
    report.collectionEpochDigest, report.expectedOwnerDigest, report.fenceDigest].all
      digestPattern = true) code
  check (report.qos = 1 ∧ report.retain = false ∧ report.oneShotRequired = true
    ∧ report.consumptionEnforced = false ∧ report.commandsAuthorized = false) code
  let _ ← requireSafeInteger (.int report.expiresAtMs) code

section

variable [Sha256]

/-- What `authorize_arm` computes from the pre-arm report and the normalized request. -/
def permitArm (prearmSnapshot : Value) (armRequestJson : Text) (prearm : PreArmAttestation)
    (request : ArmRequest) : Checks ProbeArmPermit := do
  let code := PreflightErrorCode.armRejected
  let requestDigest ← digest request.normalized armRequestDigestDomain code
  check (requestDigest = prearm.armRequestDigest) code
  let identityDigest ← digest (.obj request.candidate) candidateIdentityDigestDomain code
  check (identityDigest = prearm.candidateIdentityDigest) code
  let canonicalPayloadDigest := wireDigest armRequestJson armWireDigestDomain
  let prearmData ← requireMapping prearmSnapshot prearmFields code
  let candidateData ← requireMapping (field prearmData "candidate") prearmCandidateFields code
  let baseTopic ← requireBaseTopic (field candidateData "base_topic") code
  let candidateIdentity ← requireMapping (field candidateData "identity") identityFields code
  let scope := dict
    [("base_topic", .str baseTopic), ("friendly_name", field candidateData "friendly_name"),
      ("candidate_ieee", field candidateIdentity "ieee_address"),
      ("set_topic", field candidateData "set_topic")]
  check (aclAllows scope (.inl .orchestrator) (.inl .publish) (prefixed baseTopic requestTopic)
    (some 1) (some false) = true) code
  let requestTopicDigest := wireDigest (prefixed baseTopic requestTopic) requestTopicDigestDomain
  let permitProjection := dict
    [("schema", .str armPermitSchema),
      ("deployment_snapshot_digest", .str prearm.deploymentSnapshotDigest),
      ("prearm_snapshot_digest", .str prearm.snapshotDigest),
      ("request_digest", .str requestDigest),
      ("canonical_payload_digest", .str canonicalPayloadDigest),
      ("request_topic_digest", .str requestTopicDigest),
      ("collection_epoch_digest", .str prearm.collectionEpochDigest),
      ("expected_owner_digest", .str prearm.expectedOwnerDigest),
      ("fence_digest", .str prearm.fenceDigest), ("allowed_action", str "arm"), ("qos", .int 1),
      ("retain", .bool false), ("one_shot_required", .bool true),
      ("consumption_enforced", .bool false), ("commands_authorized", .bool false),
      ("expires_at_ms", .int request.requestDeadlineMs)]
  let permitDigest ← digest permitProjection armPermitDigestDomain code
  let permit : ProbeArmPermit :=
    { schema := armPermitSchema
      permitDigest := permitDigest
      deploymentSnapshotDigest := prearm.deploymentSnapshotDigest
      prearmSnapshotDigest := prearm.snapshotDigest
      requestDigest := requestDigest
      canonicalPayloadDigest := canonicalPayloadDigest
      requestTopicDigest := requestTopicDigest
      collectionEpochDigest := prearm.collectionEpochDigest
      expectedOwnerDigest := prearm.expectedOwnerDigest
      fenceDigest := prearm.fenceDigest
      allowedAction := ()
      qos := 1
      retain := false
      oneShotRequired := true
      consumptionEnforced := false
      commandsAuthorized := false
      expiresAtMs := request.requestDeadlineMs }
  permit.validate
  return permit

/-- `authorize_arm`. -/
def authorizeArm (deploymentSnapshot prearmSnapshot : Value) (armRequestJson : Text)
    (nowMs : ℤ) : Checks ProbeArmPermit := do
  let prearm ← validatePrearm prearmSnapshot deploymentSnapshot nowMs
  let parsedRequest ← rewrap (parseCanonicalMapping armRequestJson maxSnapshotJsonBytes)
    fun _ => some .armRejected
  let request ← normalizeArmRequest parsedRequest prearm nowMs
  permitArm prearmSnapshot armRequestJson prearm request

/-- `verify_arm_permit`. -/
def verifyArmPermit (permit : ProbeArmPermit) (deploymentSnapshot prearmSnapshot : Value)
    (armRequestJson : Text) (nowMs : ℤ) : Checks Bool := do
  let expected ← authorizeArm deploymentSnapshot prearmSnapshot armRequestJson nowMs
  check (permit = expected) .armRejected
  return true

end

/-! ## A chain of evidence -/

section

variable [Sha256]

/-- The clock of the chain, as late as a proof window of a minute allows. -/
def sampleNow : ℤ := 9007199254680991

def sampleEpochDigest : Text := hexdigest [1]

def sampleProcessDigest : Text := hexdigest [2]

def sampleOwnerDigest : Text :=
  hexdigest (valueFrame (dict
    [("collection_epoch_digest", .str sampleEpochDigest),
      ("process_instance_digest", .str sampleProcessDigest),
      ("artifact_digest", .str artifactDigest),
      ("extension_path_digest", .str extensionPathDigest),
      ("journal_path_digest", .str journalPathDigest)]) ownerDigestDomain)

def sampleAclDigest : Text := hexdigest (valueFrame sampleProbeScope.policy aclDigestDomain)

def sampleIdentity : List (Text × Value) :=
  [(chars "ieee_address", str "0x00158d0001a2b3c4"), (chars "model", str "BRT-100-TRV"),
    (chars "vendor", str "Moes"), (chars "zigbee_model", str "TS0601"),
    (chars "manufacturer_fingerprint", str "_TZE200_b6wax7g0"), (chars "endpoint_id", .int 1),
    (chars "cluster_name", str "manuSpecificTuya"), (chars "cluster_id", .int 0xef00)]

def sampleCandidate : CandidateScope where
  baseTopic := chars "zigbee2mqtt"
  friendlyName := chars "kitchen"
  setTopic := chars "kitchen/set"
  identity := sampleIdentity

def sampleLifecycle : Value :=
  dict
    [("collection_epoch_digest", .str sampleEpochDigest),
      ("process_instance_digest", .str sampleProcessDigest),
      ("expected_owner_digest", .str sampleOwnerDigest)]

def sampleDeployment : Value :=
  dict
    [("schema", .str deploymentSnapshotSchema), ("manifest_schema", .str manifestSchema),
      ("manifest_version", .int 1), ("manifest_digest", .str manifestDigest),
      ("protocol", dict protocolValues), ("observed_at_ms", .int (sampleNow - 1500)),
      ("expires_at_ms", .int (sampleNow + 58500)),
      ("runtime", dict (runtimeValues.map fun entry => (entry.1, dict entry.2))),
      ("artifact", dict (manifestArtifact ++ [("matching_files", .int 1),
        ("external_converters", .arr []), ("unreviewed_command_extensions", .arr [])])),
      ("deployment", dict deploymentStateValues), ("controls", dict controlValues),
      ("writer_inventory", dict (writerFields.map fun name => (name, .bool false))),
      ("lifecycle", sampleLifecycle),
      ("fence", dict
        [("configuration_generation", .int 3), ("configuration_digest", .str (hexdigest [3])),
          ("acl_generation", .int 4), ("acl_digest", .str sampleAclDigest)]),
      ("candidate_scope", sampleCandidate.normalized),
      ("effective_acl", sampleProbeScope.policy)]

def sampleRequest : ArmRequest where
  bootId := chars "tfpp-boot-0123456789abcdef0123456789abcdef"
  requestId := chars "tfpp-req-0123456789abcdef01234567"
  operationId := chars "tfpp-op-0123456789abcdef01234567"
  nonce := chars "tfpp-nonce-0123456789abcdef0123456789abcdef"
  requestDeadlineMs := sampleNow + 3500
  candidate := sampleIdentity
  intendedTarget := 21
  firstTarget := 19
  secondTarget := 21
  operationDeadlineMs := sampleNow + 60000

def sampleRequestText : Text := canonicalText sampleRequest.normalized

def sampleOwner (pathDigest : Text) : Value :=
  .arr [dict
    [("owner_digest", .str sampleOwnerDigest), ("collection_epoch_digest", .str sampleEpochDigest),
      ("process_instance_digest", .str sampleProcessDigest), ("extension_class", extensionClass),
      ("artifact_digest", .str artifactDigest), ("path_digest", .str pathDigest),
      ("previous_owner_drained", .bool true), ("late_completions", .int 0)]]

def samplePrearmCandidate : Value :=
  let identityDigest : Value :=
    .str (hexdigest (valueFrame (.obj sampleIdentity) candidateIdentityDigestDomain))
  let scopeDigest : Value :=
    .str (hexdigest (valueFrame sampleCandidate.normalized candidateScopeDigestDomain))
  dict
    [("base_topic", str "zigbee2mqtt"), ("friendly_name", str "kitchen"),
      ("set_topic", str "kitchen/set"), ("identity", .obj sampleIdentity),
      ("identity_digest_before", identityDigest), ("identity_digest_after", identityDigest),
      ("scope_digest_before", scopeDigest), ("scope_digest_after", scopeDigest),
      ("selected_endpoint_id", .int 1), ("endpoint_inventory_complete", .bool true),
      ("endpoints", .arr [dict [("endpoint_id", .int 1), ("has_pending_requests_api", .bool true),
        ("pending", .bool false)]]),
      ("groups", .arr []), ("rename_events", .int 0), ("group_events", .int 0)]

def samplePrearm : Value :=
  let configurationDigest : Value := .str (hexdigest [3])
  dict
    [("schema", .str prearmSnapshotSchema),
      ("deployment_snapshot_digest",
        .str (hexdigest (valueFrame sampleDeployment deploymentDigestDomain))),
      ("manifest_digest", .str manifestDigest), ("protocol", dict protocolValues),
      ("observed_at_ms", .int (sampleNow - 500)), ("expires_at_ms", .int (sampleNow + 4500)),
      ("boot", dict
        [("boot_id_before", .str sampleRequest.bootId),
          ("boot_id_after", .str sampleRequest.bootId),
          ("generation_before", .int 5), ("generation_after", .int 5)]),
      ("lifecycle", sampleLifecycle),
      ("fence", dict
        [("configuration_generation_before", .int 3), ("configuration_generation_after", .int 3),
          ("configuration_digest_before", configurationDigest),
          ("configuration_digest_after", configurationDigest),
          ("acl_generation_before", .int 4), ("acl_generation_after", .int 4),
          ("acl_digest_before", .str sampleAclDigest),
          ("acl_digest_after", .str sampleAclDigest)]),
      ("source_inventory", dict sourceInventoryValues),
      ("loaders", sampleOwner extensionPathDigest),
      ("journal_owners", sampleOwner journalPathDigest),
      ("journal_observation", dict (journalObservationValues (sampleNow - 500))),
      ("candidate", samplePrearmCandidate),
      ("pending_work", dict (pendingFields.map fun name => (name, .int 0))),
      ("probe_state", dict probeIdleValues),
      ("expected_arm_request_digest",
        .str (hexdigest (valueFrame sampleRequest.normalized armRequestDigestDomain)))]

end

/-- The chain of evidence is authorized, and what its permit names has distinct digests. -/
theorem sample_permit :
    ∃ permit, @authorizeArm checksum (@sampleDeployment checksum) (@samplePrearm checksum)
        sampleRequestText sampleNow = .ok permit
      ∧ [permit.deploymentSnapshotDigest, permit.prearmSnapshotDigest,
        permit.canonicalPayloadDigest, @hexdigest checksum
          (valueFrame (.obj sampleIdentity) candidateIdentityDigestDomain)].Nodup := by
  -- one evaluation for both, since most of it is the digests of the snapshots
  have hok : (@authorizeArm checksum (@sampleDeployment checksum) (@samplePrearm checksum)
      sampleRequestText sampleNow).toOption.any (fun permit =>
        [permit.deploymentSnapshotDigest, permit.prearmSnapshotDigest,
          permit.canonicalPayloadDigest, @hexdigest checksum
            (valueFrame (.obj sampleIdentity) candidateIdentityDigestDomain)].Nodup) = true := by
    decide +kernel
  cases hpermit : @authorizeArm checksum (@sampleDeployment checksum) (@samplePrearm checksum)
      sampleRequestText sampleNow with
  | error code =>
    rw [hpermit] at hok
    cases hok
  | ok permit =>
    rw [hpermit] at hok
    exact ⟨permit, rfl, of_decide_eq_true hok⟩

/-- The chain of evidence is authorized. -/
theorem sample_authorized :
    ∃ permit, @authorizeArm checksum (@sampleDeployment checksum) (@samplePrearm checksum)
      sampleRequestText sampleNow = .ok permit := by
  obtain ⟨permit, hpermit, -⟩ := sample_permit
  exact ⟨permit, hpermit⟩

end TrueFamily.Preflight
