import TrueFamily.Preflight.Acl

/-!
# The deployment report

`attest_deployment`: the checks of one deployment snapshot and the report they end in. The
snapshot is read against the pinned manifest, the ACL plan of its candidate and the clock.
-/

namespace TrueFamily.Preflight

open Checked JsonValue

/-! ## Constants -/

def manifestSchema : Text := chars "true-family-brt-probe-manifest-v1"
def deploymentSnapshotSchema : Text := chars "true-family-probe-deployment-snapshot-v1"
def deploymentAttestationSchema : Text := chars "true-family-probe-deployment-attestation-v1"

def protocolId : Value := str "true-family-physical-probe"
def protocolVersion : Value := .int 2
def stateSchema : Value := str "true-family-physical-probe-state-v2"
def buildId : Value := str "tfpp-v2-z2m-2.12.1-zh-10.6.1-zhc-26.76.0"
def profileId : Value := str "moes-brt-100-trv"
def profileVersion : Value := .int 2

def artifactSource : Value := str "custom_components/true_family/probe/true_family_brt_probe.mjs"
def deployedFilename : Value := str "true_family_brt_probe.mjs"
def extensionClass : Value := str "TrueFamilyBrtProbeExtension"
def artifactByteLength : Value := .int 164691
def artifactSha256 : Value :=
  str "1d40f5a0d8b01ad7e7eb6c92b52319285f76bdbff8abbff0b6743046258645c1"
def extensionDeploymentPath : Value := str "external_extensions/true_family_brt_probe.mjs"
def journalPath : Value := str "true_family_brt_probe.state.json"

def ownerDigestDomain : String := "true-family-physical-probe/owner/v1"
def fenceDigestDomain : String := "true-family-physical-probe/fence/v1"
def deploymentDigestDomain : String := "true-family-physical-probe/deployment/v1"
def candidateIdentityDigestDomain : String := "true-family-physical-probe/candidate-identity/v1"
def candidateScopeDigestDomain : String := "true-family-physical-probe/candidate-scope/v1"

/-- The fields of `_require_protocol` with their values. -/
def protocolValues : List (String × Value) :=
  [("protocol_id", protocolId), ("protocol_version", protocolVersion),
    ("state_schema", stateSchema), ("build_id", buildId), ("profile_id", profileId),
    ("profile_version", profileVersion)]

/-- `expected` of `_require_runtime`. -/
def runtimeValues : List (String × List (String × Value)) :=
  [("node", [("version", str "20.19.2")]),
    ("zigbee2mqtt",
      [("version", str "2.12.1"), ("commit", str "aa909a8a62f76e2dd98ace3a172bca88ee56f5fe"),
        ("tree", str "fd134890cc89e628caa48f6f235862b0bfe40c45"),
        ("npm_integrity", str ("sha512-OucrVP2raFmMEKK+4r7qHOSamAmaM4WI0WYLbLRhZ1s73frVDcppzD/"
          ++ "6BHGPWFIalJrxGrdKHYSbRmpQqLUt5w=="))]),
    ("zigbee_herdsman",
      [("version", str "10.6.1"), ("commit", str "b9f67e9bc2ba90f93be28fd4c21aa487f941f9a1")]),
    ("zigbee_herdsman_converters",
      [("version", str "26.76.0"), ("commit", str "1d15c0ca29d2ec80c9bc67f9186e072e15129487")])]

/-- `_EXPECTED_MANIFEST_DATA["artifact"]`. -/
def manifestArtifact : List (String × Value) :=
  [("source", artifactSource), ("deployed_filename", deployedFilename),
    ("extension_class", extensionClass), ("byte_length", artifactByteLength),
    ("sha256", artifactSha256)]

/-- `_EXPECTED_MANIFEST_DATA`. -/
def expectedManifestData : Value :=
  dict
    [("schema", .str manifestSchema), ("manifest_version", .int 1),
      ("artifact", dict manifestArtifact), ("protocol", dict protocolValues),
      ("runtime", dict (runtimeValues.map fun entry => (entry.1, dict entry.2))),
      ("topics", dict
        [("ready", .str readyTopic), ("status", .str statusTopic), ("request", .str requestTopic),
          ("response", .str responseTopic), ("result", .str resultTopic), ("ack", .str ackTopic),
          ("ack_response", .str ackResponseTopic)]),
      ("deployment", dict
        [("extension_path", extensionDeploymentPath), ("journal_path", journalPath),
          ("fresh_deployment_only", .bool true),
          ("dynamic_mqtt_extension_save_forbidden", .bool true),
          ("dynamic_mqtt_extension_remove_forbidden", .bool true),
          ("dynamic_mqtt_converter_save_forbidden", .bool true),
          ("dynamic_mqtt_converter_remove_forbidden", .bool true),
          ("required_loader_count", .int 1), ("required_journal_owner_count", .int 1),
          ("existing_journal_forbidden", .bool true), ("existing_temp_forbidden", .bool true),
          ("existing_alias_forbidden", .bool true)])]

section

variable [Sha256]

/-- `MANIFEST_DIGEST`. -/
def manifestDigest : Text :=
  hexdigest (valueFrame expectedManifestData "true-family-physical-probe/manifest/v1")

/-- `ARTIFACT_DIGEST`. -/
def artifactDigest : Text :=
  hexdigest (valueFrame (dict manifestArtifact) "true-family-physical-probe/artifact/v1")

/-- `EXTENSION_PATH_DIGEST`. -/
def extensionPathDigest : Text :=
  hexdigest (valueFrame (dict [("relative_path", extensionDeploymentPath)])
    "true-family-physical-probe/extension-path/v1")

/-- `JOURNAL_PATH_DIGEST`. -/
def journalPathDigest : Text :=
  hexdigest (valueFrame (dict [("relative_path", journalPath)])
    "true-family-physical-probe/journal-path/v1")

/-- `derive_expected_owner_digest`. -/
def deriveExpectedOwnerDigest (collectionEpochDigest processInstanceDigest : Value) :
    Checks Text := do
  let code := PreflightErrorCode.deploymentRejected
  let epoch ← requireDigest collectionEpochDigest code
  let process ← requireDigest processInstanceDigest code
  digest (dict
    [("collection_epoch_digest", .str epoch), ("process_instance_digest", .str process),
      ("artifact_digest", .str artifactDigest),
      ("extension_path_digest", .str extensionPathDigest),
      ("journal_path_digest", .str journalPathDigest)]) ownerDigestDomain code

end

/-! ## Parts of the snapshot -/

def requireProtocol (value : Value) (code : PreflightErrorCode) : Checks Unit := do
  let protocol ← requireMapping value (protocolValues.map Prod.fst) code
  check (hasExactValues protocol protocolValues = true) code

def requireRuntime (value : Value) (code : PreflightErrorCode) : Checks Unit := do
  let runtime ← requireMapping value (runtimeValues.map Prod.fst) code
  forAll (fun entry => do
    let item ← requireMapping (field runtime entry.1) (entry.2.map Prod.fst) code
    check (hasExactValues item entry.2 = true) code) runtimeValues

def requireArtifact (value : Value) (code : PreflightErrorCode) : Checks Unit := do
  let artifact ← requireMapping value
    (manifestArtifact.map Prod.fst
      ++ ["matching_files", "external_converters", "unreviewed_command_extensions"]) code
  check (hasExactValues artifact (manifestArtifact ++ [("matching_files", .int 1)]) = true) code
  check (isEmptyList (field artifact "external_converters") = true) code
  check (isEmptyList (field artifact "unreviewed_command_extensions") = true) code

section

variable [Sha256]

/-- `expected` of `_require_deployment_state`. -/
def deploymentStateValues : List (String × Value) :=
  [("extension_path", extensionDeploymentPath),
    ("extension_path_digest", .str extensionPathDigest), ("journal_path", journalPath),
    ("journal_path_digest", .str journalPathDigest), ("journal_main_present", .bool false),
    ("matching_journal_temps", .int 0), ("matching_journal_aliases", .int 0),
    ("recovery_evidence_present", .bool false), ("journal_write_in_flight", .bool false),
    ("loader_count", .int 1), ("journal_owner_count", .int 1),
    ("dynamic_mqtt_extension_save_allowed", .bool false),
    ("dynamic_mqtt_extension_remove_allowed", .bool false),
    ("dynamic_mqtt_converter_save_allowed", .bool false),
    ("dynamic_mqtt_converter_remove_allowed", .bool false)]

def requireDeploymentState (value : Value) (code : PreflightErrorCode) : Checks Unit := do
  let state ← requireMapping value (deploymentStateValues.map Prod.fst) code
  check (hasExactValues state deploymentStateValues = true) code

def requireManifestBinding (data : List (Text × Value)) (code : PreflightErrorCode) :
    Checks Unit :=
  check (isStr manifestSchema (field data "manifest_schema") = true
    ∧ isInt 1 (field data "manifest_version") = true
    ∧ isStr manifestDigest (field data "manifest_digest") = true) code

end

def controlValues : List (String × Value) :=
  [("advanced_enable_external_js", .bool true), ("frontend_enabled", .bool false),
    ("payload_debug_enabled", .bool false), ("debug_to_frontend_enabled", .bool false)]

def requireControls (value : Value) (code : PreflightErrorCode) : Checks Unit := do
  let controls ← requireMapping value (controlValues.map Prod.fst) code
  check (hasExactValues controls controlValues = true) code

def writerFields : List String :=
  ["home_assistant_candidate_writer", "automation", "script", "scheduler", "frontend",
    "other_mqtt_clients", "unreviewed_in_process_extensions"]

def requireWriters (value : Value) (code : PreflightErrorCode) : Checks Unit := do
  let writers ← requireMapping value writerFields code
  check (writerFields.all (fun name => isBool false (field writers name)) = true) code

/-- `_require_fresh_window`. -/
def requireFreshWindow (observedAtMs expiresAtMs : Value) (nowMs maximumWindowMs : ℤ)
    (code : PreflightErrorCode) : Checks Unit := do
  let observed ← requireSafeInteger observedAtMs code
  let expires ← requireSafeInteger expiresAtMs code
  check (observed ≤ nowMs ∧ nowMs < expires) code
  check (expires - observed ≤ maximumWindowMs) code
  check (nowMs - observed < maximumWindowMs) code

/-! ## The candidate -/

def identityFields : List String :=
  ["ieee_address", "model", "vendor", "zigbee_model", "manufacturer_fingerprint", "endpoint_id",
    "cluster_name", "cluster_id"]

/-- `_PROFILE_ALIASES`: model and vendor by fingerprint. -/
def profileAliases : List (Text × Text × Text) :=
  [(chars "_TZE200_b6wax7g0", (chars "BRT-100-TRV"), (chars "Moes")),
    (chars "_TZE200_qsoecqlk", (chars "Powerswitch-ZK(W)"), (chars "Sibling")),
    (chars "_TZE200_6y7kyjga", (chars "BRT-100-TRV"), (chars "Moes"))]

/-- `_normalize_identity`. -/
def normalizeIdentity (value : Value) (code : PreflightErrorCode) :
    Checks (List (Text × Value)) := do
  let identity ← requireMapping value identityFields code
  let _ ← requirePattern ieeePattern (field identity "ieee_address") code
  let fingerprint ← requirePattern fingerprintPattern (field identity "manufacturer_fingerprint")
    code
  forAll (fun name => do
    let _ ← requireCanonicalText (field identity name) 96 code)
    ["model", "vendor", "zigbee_model", "cluster_name"]
  let _ ← requirePositiveInteger (field identity "endpoint_id") code
  let _ ← requireIntegerRange (field identity "cluster_id") 0 0xffff code
  match profileAliases.lookup fingerprint with
  | none => .error code
  | some (model, vendor) => do
    check (isStr model (field identity "model") = true
      ∧ isStr vendor (field identity "vendor") = true
      ∧ isStr (chars "TS0601") (field identity "zigbee_model") = true
      ∧ isInt 1 (field identity "endpoint_id") = true
      ∧ isStr (chars "manuSpecificTuya") (field identity "cluster_name") = true
      ∧ isInt 0xef00 (field identity "cluster_id") = true) code
    return identityFields.map fun name => (chars name, field identity name)

def candidateScopeFields : List String :=
  ["base_topic", "friendly_name", "set_topic", "identity", "groups"]

/-- A candidate that `_normalize_candidate_scope` has normalized. -/
structure CandidateScope where
  baseTopic : Text
  friendlyName : Text
  setTopic : Text
  identity : List (Text × Value)

/-- `normalized`. -/
def CandidateScope.normalized (candidate : CandidateScope) : Value :=
  dict
    [("base_topic", .str candidate.baseTopic), ("friendly_name", .str candidate.friendlyName),
      ("set_topic", .str candidate.setTopic), ("identity", .obj candidate.identity),
      ("groups", .arr [])]

/-- The scope for which `build_acl_plan` is called. -/
def CandidateScope.aclScope (candidate : CandidateScope) : Value :=
  dict
    [("base_topic", .str candidate.baseTopic), ("friendly_name", .str candidate.friendlyName),
      ("candidate_ieee", field candidate.identity "ieee_address"),
      ("set_topic", .str candidate.setTopic)]

section

variable [Sha256]

/-- `_normalize_candidate_scope`, of the fields of a candidate. -/
def normalizeCandidateScope (candidate : List (Text × Value)) (code : PreflightErrorCode) :
    Checks (CandidateScope × Text × Text) := do
  let baseTopic ← requireBaseTopic (field candidate "base_topic") code
  let friendlyName ← requireFriendlyName (field candidate "friendly_name") code
  let setTopic ← requireSetTopic (field candidate "set_topic") friendlyName code
  let identity ← normalizeIdentity (field candidate "identity") code
  check (isEmptyList (field candidate "groups") = true) code
  let normalized : CandidateScope := ⟨baseTopic, friendlyName, setTopic, identity⟩
  let identityDigest ← digest (.obj identity) candidateIdentityDigestDomain code
  let scopeDigest ← digest normalized.normalized candidateScopeDigestDomain code
  return (normalized, identityDigest, scopeDigest)

end

/-! ## Strict equality -/

mutual

/-- `_strict_json_equal`. -/
def strictJsonEqual : Value → Value → Bool
  | .obj left, .obj right =>
    (left.all fun entry => decide (entry.1 ∈ right.map Prod.fst))
      && (right.all fun entry => decide (entry.1 ∈ left.map Prod.fst))
      && strictEntriesEqual left right
  | .arr left, .arr right => strictItemsEqual left right
  | left, right => sameLeaf left right

def strictItemsEqual : List Value → List Value → Bool
  | [], [] => true
  | left :: lefts, right :: rights => strictJsonEqual left right && strictItemsEqual lefts rights
  | _, _ => false

def strictEntriesEqual : List (Text × Value) → List (Text × Value) → Bool
  | [], _ => true
  | (key, left) :: lefts, right =>
    strictJsonEqual left ((right.lookup key).getD .null) && strictEntriesEqual lefts right

end

/-! ## The report -/

/-- `DeploymentAttestation`. -/
structure DeploymentAttestation where
  schema : Text
  snapshotDigest : Text
  manifestDigest : Text
  artifactDigest : Text
  aclDigest : Text
  observedAtMs : ℤ
  expiresAtMs : ℤ
  collectionEpochDigest : Text
  processInstanceDigest : Text
  expectedOwnerDigest : Text
  candidateIdentityDigest : Text
  candidateScopeDigest : Text
  configurationGeneration : ℤ
  configurationDigest : Text
  aclGeneration : ℤ
  fenceDigest : Text
  deriving DecidableEq

/-- `_validate_deployment_report`. -/
def DeploymentAttestation.validate (report : DeploymentAttestation) : Checks Unit := do
  let code := PreflightErrorCode.deploymentRejected
  check (report.schema = deploymentAttestationSchema) code
  check ([report.snapshotDigest, report.manifestDigest, report.artifactDigest, report.aclDigest,
    report.collectionEpochDigest, report.processInstanceDigest, report.expectedOwnerDigest,
    report.candidateIdentityDigest, report.candidateScopeDigest, report.configurationDigest,
    report.fenceDigest].all digestPattern = true) code
  let _ ← requireSafeInteger (.int report.observedAtMs) code
  let _ ← requireSafeInteger (.int report.expiresAtMs) code
  let _ ← requirePositiveInteger (.int report.configurationGeneration) code
  let _ ← requirePositiveInteger (.int report.aclGeneration) code

def deploymentFields : List String :=
  ["schema", "manifest_schema", "manifest_version", "manifest_digest", "protocol",
    "observed_at_ms", "expires_at_ms", "runtime", "artifact", "deployment", "controls",
    "writer_inventory", "lifecycle", "fence", "candidate_scope", "effective_acl"]

def lifecycleFields : List String :=
  ["collection_epoch_digest", "process_instance_digest", "expected_owner_digest"]

def deploymentFenceFields : List String :=
  ["configuration_generation", "configuration_digest", "acl_generation", "acl_digest"]

/-- `data[name]` of an integer field that has passed its check. -/
def intField (data : List (Text × Value)) (name : String) : ℤ :=
  match field data name with
  | .int number => number
  | _ => 0

section

variable [Sha256]

/-- The checks of `attest_deployment` before the candidate, apart from the clock. -/
def requireDeploymentParts (data : List (Text × Value)) (code : PreflightErrorCode) :
    Checks Unit := do
  requireRuntime (field data "runtime") code
  requireArtifact (field data "artifact") code
  requireDeploymentState (field data "deployment") code
  requireControls (field data "controls") code
  requireWriters (field data "writer_inventory") code

/-- What `attest_deployment` does after the parts: the candidate, the plan, the lifecycle and the
fence, and the report. -/
def reportDeployment (data : List (Text × Value)) (code : PreflightErrorCode) :
    Checks DeploymentAttestation := do
  let candidateData ← requireMapping (field data "candidate_scope") candidateScopeFields code
  let (candidate, identityDigest, candidateScopeDigest) ←
    normalizeCandidateScope candidateData code
  let plan ← buildAclPlan candidate.aclScope
  check (strictJsonEqual (field data "effective_acl") plan.effectivePolicy = true) code
  let lifecycle ← requireMapping (field data "lifecycle") lifecycleFields code
  let collectionEpochDigest ← requireDigest (field lifecycle "collection_epoch_digest") code
  let processInstanceDigest ← requireDigest (field lifecycle "process_instance_digest") code
  let expectedOwnerDigest ← deriveExpectedOwnerDigest (.str collectionEpochDigest)
    (.str processInstanceDigest)
  check (isStr expectedOwnerDigest (field lifecycle "expected_owner_digest") = true) code
  let fence ← requireMapping (field data "fence") deploymentFenceFields code
  let configurationGeneration ←
    requirePositiveInteger (field fence "configuration_generation") code
  let configurationDigest ← requireDigest (field fence "configuration_digest") code
  let aclGeneration ← requirePositiveInteger (field fence "acl_generation") code
  check (isStr plan.policyDigest (field fence "acl_digest") = true) code
  let fenceProjection := dict
    [("collection_epoch_digest", .str collectionEpochDigest),
      ("process_instance_digest", .str processInstanceDigest),
      ("expected_owner_digest", .str expectedOwnerDigest),
      ("configuration_generation", .int configurationGeneration),
      ("configuration_digest", .str configurationDigest),
      ("acl_generation", .int aclGeneration), ("acl_digest", .str plan.policyDigest),
      ("candidate_scope_digest", .str candidateScopeDigest)]
  let fenceDigest ← digest fenceProjection fenceDigestDomain code
  let snapshotDigest ← digest (.obj data) deploymentDigestDomain code
  let report : DeploymentAttestation :=
    { schema := deploymentAttestationSchema
      snapshotDigest := snapshotDigest
      manifestDigest := manifestDigest
      artifactDigest := artifactDigest
      aclDigest := plan.policyDigest
      observedAtMs := intField data "observed_at_ms"
      expiresAtMs := intField data "expires_at_ms"
      collectionEpochDigest := collectionEpochDigest
      processInstanceDigest := processInstanceDigest
      expectedOwnerDigest := expectedOwnerDigest
      candidateIdentityDigest := identityDigest
      candidateScopeDigest := candidateScopeDigest
      configurationGeneration := configurationGeneration
      configurationDigest := configurationDigest
      aclGeneration := aclGeneration
      fenceDigest := fenceDigest }
  report.validate
  return report

/-- `attest_deployment`. -/
def attestDeployment (snapshot : Value) (nowMs : ℤ) : Checks DeploymentAttestation := do
  let code := PreflightErrorCode.deploymentRejected
  let _ ← requireSafeInteger (.int nowMs) code
  validateJsonTree snapshot code
  let data ← requireMapping snapshot deploymentFields code
  check (isStr deploymentSnapshotSchema (field data "schema") = true) code
  requireManifestBinding data code
  requireProtocol (field data "protocol") code
  requireFreshWindow (field data "observed_at_ms") (field data "expires_at_ms") nowMs
    maxDeploymentWindowMs code
  requireDeploymentParts data code
  reportDeployment data code

end

end TrueFamily.Preflight
