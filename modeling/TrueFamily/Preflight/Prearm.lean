import TrueFamily.Preflight.Deployment

/-!
# The pre-arm report

`validate_prearm`: the deployment snapshot is attested again, and the pre-arm snapshot is read
against that report and the clock.
-/

namespace TrueFamily.Preflight

open Checked JsonValue

def prearmSnapshotSchema : Text := chars "true-family-probe-prearm-snapshot-v1"
def prearmAttestationSchema : Text := chars "true-family-probe-prearm-attestation-v1"
def prearmDigestDomain : String := "true-family-physical-probe/prearm/v1"

/-- `PreArmAttestation`. -/
structure PreArmAttestation where
  schema : Text
  deploymentSnapshotDigest : Text
  snapshotDigest : Text
  manifestDigest : Text
  aclDigest : Text
  observedAtMs : ℤ
  expiresAtMs : ℤ
  collectionEpochDigest : Text
  processInstanceDigest : Text
  expectedOwnerDigest : Text
  candidateIdentityDigest : Text
  candidateScopeDigest : Text
  configurationGeneration : ℤ
  configurationDigest : Text
  aclGeneration : ℤ
  fenceDigest : Text
  bootId : Text
  armRequestDigest : Text
  deriving DecidableEq

/-- `_validate_prearm_report`. -/
def PreArmAttestation.validate (report : PreArmAttestation) : Checks Unit := do
  let code := PreflightErrorCode.prearmRejected
  check (report.schema = prearmAttestationSchema) code
  check ([report.deploymentSnapshotDigest, report.snapshotDigest, report.manifestDigest,
    report.aclDigest, report.collectionEpochDigest, report.processInstanceDigest,
    report.expectedOwnerDigest, report.candidateIdentityDigest, report.candidateScopeDigest,
    report.configurationDigest, report.fenceDigest, report.armRequestDigest].all
      digestPattern = true) code
  let _ ← requireSafeInteger (.int report.observedAtMs) code
  let _ ← requireSafeInteger (.int report.expiresAtMs) code
  let _ ← requirePositiveInteger (.int report.configurationGeneration) code
  let _ ← requirePositiveInteger (.int report.aclGeneration) code
  check (bootPattern report.bootId = true) code

/-! ## Parts of the snapshot -/

/-- `_require_prearm_fence`, with the values that the fields must have. -/
def prearmFenceValues (deployment : DeploymentAttestation) : List (String × Value) :=
  [("configuration_generation_before", .int deployment.configurationGeneration),
    ("configuration_generation_after", .int deployment.configurationGeneration),
    ("configuration_digest_before", .str deployment.configurationDigest),
    ("configuration_digest_after", .str deployment.configurationDigest),
    ("acl_generation_before", .int deployment.aclGeneration),
    ("acl_generation_after", .int deployment.aclGeneration),
    ("acl_digest_before", .str deployment.aclDigest),
    ("acl_digest_after", .str deployment.aclDigest)]

/-- The lifecycle that `validate_prearm` expects. -/
def prearmLifecycleValues (deployment : DeploymentAttestation) : List (String × Value) :=
  [("collection_epoch_digest", .str deployment.collectionEpochDigest),
    ("process_instance_digest", .str deployment.processInstanceDigest),
    ("expected_owner_digest", .str deployment.expectedOwnerDigest)]

/-- `_require_stable_boot`. -/
def requireStableBoot (value : Value) (code : PreflightErrorCode) : Checks Text := do
  let boot ← requireMapping value
    ["boot_id_before", "boot_id_after", "generation_before", "generation_after"] code
  let before ← requirePattern bootPattern (field boot "boot_id_before") code
  check (isStr before (field boot "boot_id_after") = true) code
  let generation ← requirePositiveInteger (field boot "generation_before") code
  check (isInt generation (field boot "generation_after") = true) code
  return before

def sourceInventoryValues : List (String × Value) :=
  [("installed_sha256", artifactSha256), ("loaded_sha256", artifactSha256),
    ("retained_inventory_sha256", artifactSha256), ("inventory_entries", .int 1),
    ("raw_source_exposed_to_orchestrator", .bool false)]

def requireSourceInventory (value : Value) (code : PreflightErrorCode) : Checks Unit := do
  let inventory ← requireMapping value (sourceInventoryValues.map Prod.fst) code
  check (hasExactValues inventory sourceInventoryValues = true) code

section

variable [Sha256]

/-- `expected` of `_require_single_owner`. -/
def ownerValues (deployment : DeploymentAttestation) (expectedPathDigest : Text) :
    List (String × Value) :=
  [("owner_digest", .str deployment.expectedOwnerDigest),
    ("collection_epoch_digest", .str deployment.collectionEpochDigest),
    ("process_instance_digest", .str deployment.processInstanceDigest),
    ("extension_class", extensionClass), ("artifact_digest", .str artifactDigest),
    ("path_digest", .str expectedPathDigest), ("previous_owner_drained", .bool true),
    ("late_completions", .int 0)]

/-- `_require_single_owner`. -/
def requireSingleOwner (value : Value) (deployment : DeploymentAttestation)
    (expectedPathDigest : Text) (code : PreflightErrorCode) : Checks Unit :=
  match value with
  | .arr [item] => do
    let owner ← requireMapping item
      ((ownerValues deployment expectedPathDigest).map Prod.fst) code
    check (hasExactValues owner (ownerValues deployment expectedPathDigest) = true) code
  | _ => .error code

/-- `expected` of `_require_journal_observation`. -/
def journalObservationValues (observedAtMs : ℤ) : List (String × Value) :=
  [("observed_at_ms", .int observedAtMs), ("journal_path", journalPath),
    ("journal_path_digest", .str journalPathDigest), ("main_present", .bool false),
    ("matching_temps", .int 0), ("matching_aliases", .int 0),
    ("recovery_evidence_present", .bool false), ("write_in_flight", .bool false)]

def requireJournalObservation (value : Value) (observedAtMs : ℤ) (code : PreflightErrorCode) :
    Checks Unit := do
  let journal ← requireMapping value ((journalObservationValues observedAtMs).map Prod.fst) code
  check (hasExactValues journal (journalObservationValues observedAtMs) = true) code

end

/-- The body of the loop over the endpoints of the candidate. -/
def requireEndpoint (code : PreflightErrorCode) (value : Value) : Checks ℤ := do
  let endpoint ← requireMapping value ["endpoint_id", "has_pending_requests_api", "pending"] code
  let endpointId ← requireIntegerRange (field endpoint "endpoint_id") 1 240 code
  check (isBool true (field endpoint "has_pending_requests_api") = true
    ∧ isBool false (field endpoint "pending") = true) code
  return endpointId

def prearmCandidateFields : List String :=
  ["base_topic", "friendly_name", "set_topic", "identity", "identity_digest_before",
    "identity_digest_after", "scope_digest_before", "scope_digest_after", "selected_endpoint_id",
    "endpoint_inventory_complete", "endpoints", "groups", "rename_events", "group_events"]

/-- The endpoints of a candidate. -/
def requireEndpoints (value : Value) (code : PreflightErrorCode) : Checks (List ℤ) :=
  match value with
  | .arr [] => .error code
  | .arr endpoints => collect (requireEndpoint code) endpoints
  | _ => .error code

section

variable [Sha256]

/-- `_require_prearm_candidate`. -/
def requirePrearmCandidate (value : Value) (code : PreflightErrorCode) :
    Checks (Text × Text × ProbeAclPlan) := do
  let candidate ← requireMapping value prearmCandidateFields code
  let (normalized, identityDigest, scopeDigest) ← normalizeCandidateScope candidate code
  check (isStr identityDigest (field candidate "identity_digest_before") = true
    ∧ isStr identityDigest (field candidate "identity_digest_after") = true
    ∧ isStr scopeDigest (field candidate "scope_digest_before") = true
    ∧ isStr scopeDigest (field candidate "scope_digest_after") = true) code
  check (isInt 1 (field candidate "selected_endpoint_id") = true
    ∧ isBool true (field candidate "endpoint_inventory_complete") = true) code
  let endpointIds ← requireEndpoints (field candidate "endpoints") code
  -- sorted and without repetition
  check (endpointIds.Pairwise (fun left right => left < right) ∧ 1 ∈ endpointIds
    ∧ sameLeaf (field normalized.identity "endpoint_id") (field candidate "selected_endpoint_id")
      = true) code
  check (isInt 0 (field candidate "rename_events") = true
    ∧ isInt 0 (field candidate "group_events") = true) code
  let plan ← buildAclPlan normalized.aclScope
  return (identityDigest, scopeDigest, plan)

end

def pendingFields : List String :=
  ["probe_fifo", "dispatch", "journal_write", "publication_retry", "orchestrator_outbound",
    "broker_queued_request", "retained_request"]

/-- `_require_all_zero`. -/
def requireAllZero (value : Value) (expectedFields : List String) (code : PreflightErrorCode) :
    Checks Unit := do
  let counters ← requireMapping value expectedFields code
  check (expectedFields.all (fun name => isInt 0 (field counters name)) = true) code

def probeIdleValues : List (String × Value) :=
  [("ready", .bool true), ("phase", str "idle"), ("generation", .int 0),
    ("record_present", .bool false), ("remediation_required", .bool false),
    ("arm_accepted_count", .int 0), ("endpoint_commands_since_loader_start", .int 0)]

def requireProbeIdle (value : Value) (code : PreflightErrorCode) : Checks Unit := do
  let state ← requireMapping value (probeIdleValues.map Prod.fst) code
  check (hasExactValues state probeIdleValues = true) code

/-! ## The report -/

def prearmFields : List String :=
  ["schema", "deployment_snapshot_digest", "manifest_digest", "protocol", "observed_at_ms",
    "expires_at_ms", "boot", "lifecycle", "fence", "source_inventory", "loaders",
    "journal_owners", "journal_observation", "candidate", "pending_work", "probe_state",
    "expected_arm_request_digest"]

/-- The pre-arm window lies strictly inside the deployment window, and the clock inside both. -/
def requireNestedWindow (deployment : DeploymentAttestation) (data : List (Text × Value))
    (nowMs : ℤ) (code : PreflightErrorCode) : Checks Unit :=
  check (deployment.observedAtMs < intField data "observed_at_ms"
    ∧ intField data "observed_at_ms" < nowMs ∧ nowMs < intField data "expires_at_ms"
    ∧ intField data "expires_at_ms" ≤ deployment.expiresAtMs) code

section

variable [Sha256]

/-- What `validate_prearm` does after its checks of the clock. -/
def reportPrearm (deployment : DeploymentAttestation) (data : List (Text × Value))
    (code : PreflightErrorCode) : Checks PreArmAttestation := do
  let lifecycle ← requireMapping (field data "lifecycle") lifecycleFields code
  check (hasExactValues lifecycle (prearmLifecycleValues deployment) = true) code
  let derivedOwner ← deriveExpectedOwnerDigest (field lifecycle "collection_epoch_digest")
    (field lifecycle "process_instance_digest")
  check (isStr derivedOwner (field lifecycle "expected_owner_digest") = true) code
  let fence ← requireMapping (field data "fence") ((prearmFenceValues deployment).map Prod.fst) code
  check (hasExactValues fence (prearmFenceValues deployment) = true) code
  let bootId ← requireStableBoot (field data "boot") code
  requireSourceInventory (field data "source_inventory") code
  requireSingleOwner (field data "loaders") deployment extensionPathDigest code
  requireSingleOwner (field data "journal_owners") deployment journalPathDigest code
  requireJournalObservation (field data "journal_observation") (intField data "observed_at_ms") code
  let (identityDigest, candidateScopeDigest, candidatePlan) ←
    requirePrearmCandidate (field data "candidate") code
  check (identityDigest = deployment.candidateIdentityDigest
    ∧ candidateScopeDigest = deployment.candidateScopeDigest
    ∧ candidatePlan.policyDigest = deployment.aclDigest) code
  requireAllZero (field data "pending_work") pendingFields code
  requireProbeIdle (field data "probe_state") code
  let armRequestDigest ← requireDigest (field data "expected_arm_request_digest") code
  let snapshotDigest ← digest (.obj data) prearmDigestDomain code
  let report : PreArmAttestation :=
    { schema := prearmAttestationSchema
      deploymentSnapshotDigest := deployment.snapshotDigest
      snapshotDigest := snapshotDigest
      manifestDigest := deployment.manifestDigest
      aclDigest := deployment.aclDigest
      observedAtMs := intField data "observed_at_ms"
      expiresAtMs := intField data "expires_at_ms"
      collectionEpochDigest := deployment.collectionEpochDigest
      processInstanceDigest := deployment.processInstanceDigest
      expectedOwnerDigest := deployment.expectedOwnerDigest
      candidateIdentityDigest := identityDigest
      candidateScopeDigest := candidateScopeDigest
      configurationGeneration := deployment.configurationGeneration
      configurationDigest := deployment.configurationDigest
      aclGeneration := deployment.aclGeneration
      fenceDigest := deployment.fenceDigest
      bootId := bootId
      armRequestDigest := armRequestDigest }
  report.validate
  return report

/-- `validate_prearm`. -/
def validatePrearm (prearmSnapshot deploymentSnapshot : Value) (nowMs : ℤ) :
    Checks PreArmAttestation := do
  let deployment ← attestDeployment deploymentSnapshot nowMs
  let code := PreflightErrorCode.prearmRejected
  let _ ← requireSafeInteger (.int nowMs) code
  validateJsonTree prearmSnapshot code
  let data ← requireMapping prearmSnapshot prearmFields code
  check (isStr prearmSnapshotSchema (field data "schema") = true) code
  check (isStr deployment.snapshotDigest (field data "deployment_snapshot_digest") = true) code
  check (isStr deployment.manifestDigest (field data "manifest_digest") = true) code
  requireProtocol (field data "protocol") code
  requireFreshWindow (field data "observed_at_ms") (field data "expires_at_ms") nowMs
    maxPrearmWindowMs code
  requireNestedWindow deployment data nowMs code
  reportPrearm deployment data code

end

end TrueFamily.Preflight
