import TrueFamily.Probe.Contract

/-!
# The contract of the physical probe: messages

Canonical JSON with the limits of the probe, and the requests: `parse_canonical_json` and
`ProbeRequest.from_dict` with the checks of the constructor.
-/

namespace TrueFamily.Probe

open Checked JsonValue TrueFamily.Preflight

/-! ## Canonical JSON -/

/-- The start of `walk`. -/
def enterProbeNode (depth nodes : ℕ) : Result ℕ := do
  check (nodes + 1 ≤ maxProbeJsonNodes ∧ depth ≤ maxProbeJsonDepth)
    "JSON value exceeds its structural bound."
  return nodes + 1

mutual

/-- `walk`, with the number of nodes walked so far. -/
def walk : Value → ℕ → ℕ → Result ℕ
  | .null, depth, nodes => enterProbeNode depth nodes
  | .bool _, depth, nodes => enterProbeNode depth nodes
  | .int number, depth, nodes => do
    let nodes ← enterProbeNode depth nodes
    check (-maxSafeInteger ≤ number ∧ number ≤ maxSafeInteger)
      "JSON integer exceeds the safe range."
    return nodes
  | .str text, depth, nodes => do
    let nodes ← enterProbeNode depth nodes
    check (text.length ≤ maxJsonStringLength) "JSON string exceeds its length bound."
    return nodes
  | .arr items, depth, nodes => do
    let nodes ← enterProbeNode depth nodes
    walkItems items (depth + 1) nodes
  | .obj entries, depth, nodes => do
    let nodes ← enterProbeNode depth nodes
    walkEntries entries (depth + 1) nodes
  | .float _, depth, nodes => do
    let _ ← enterProbeNode depth nodes
    .error "JSON value contains an unsupported type."

def walkItems : List Value → ℕ → ℕ → Result ℕ
  | [], _, nodes => .ok nodes
  | item :: items, depth, nodes => do
    let nodes ← walk item depth nodes
    walkItems items depth nodes

def walkEntries : List (Text × Value) → ℕ → ℕ → Result ℕ
  | [], _, nodes => .ok nodes
  | (key, item) :: entries, depth, nodes => do
    check (key.length ≤ 96) "JSON object key is not bounded text."
    let nodes ← walk item depth nodes
    walkEntries entries depth nodes

end

/-- `_validate_json_tree` of the contract. -/
def validateProbeTree (value : Value) : Result Unit := do
  let _ ← walk value 0 0

/-- `canonical_json`. -/
def canonicalJsonText (value : Value) (maximumBytes : ℕ) : Result Text := do
  checkPositive maximumBytes "JSON byte limit"
  validateProbeTree value
  check ((Unicode.utf8 (canonicalText value)).length ≤ maximumBytes)
    "Canonical JSON exceeds its byte limit."
  return canonicalText value

/-- `parse_canonical_json`. -/
def parseCanonicalJson (text : Text) (maximumBytes : ℕ) : Result Value := do
  check (text ≠ [] ∧ (Unicode.utf8 text).length ≤ maximumBytes)
    "Canonical JSON input is empty or oversized."
  let value ← (loadsDistinct text).elim (.error "Canonical JSON input is malformed.") .ok
  check (value matches .obj _) "Canonical JSON root must be a plain object."
  let canonical ← canonicalJsonText value maximumBytes
  check (canonical = text) "JSON input is not in canonical form."
  return value

/-! ## Enumerations -/

inductive ProbePhase
  | awaitingPhysicalTarget1
  | awaitingPhysicalTarget2
  | awaitingNoopResponse
  | awaitingChallengeResponse
  | awaitingRestoreResponse
  | resultPendingAck
  | quiescent
  | remediationRequired
  deriving DecidableEq, Repr

/-- The values of `ProbePhase`. -/
def ProbePhase.values : List (String × ProbePhase) :=
  [("awaiting_physical_target_1", .awaitingPhysicalTarget1),
    ("awaiting_physical_target_2", .awaitingPhysicalTarget2),
    ("awaiting_noop_response", .awaitingNoopResponse),
    ("awaiting_challenge_response", .awaitingChallengeResponse),
    ("awaiting_restore_response", .awaitingRestoreResponse),
    ("result_pending_ack", .resultPendingAck), ("quiescent", .quiescent),
    ("remediation_required", .remediationRequired)]

inductive ProbeAction
  | arm
  | resume
  | ack
  deriving DecidableEq, Repr

/-- The values of `ProbeAction`. -/
def ProbeAction.values : List (String × ProbeAction) :=
  [("arm", .arm), ("resume", .resume), ("ack", .ack)]

/-- `_parse_enum`. -/
def parseEnum {α : Type} (values : List (String × α)) (value : Value) (label : String) :
    Result α :=
  match value with
  | .str text =>
    match values.find? fun entry => text = chars entry.1 with
    | some entry => .ok entry.2
    | none => .error (capitalize label ++ " is unsupported.")
  | _ => .error (capitalize label ++ " must be text.")

/-! ## Requests -/

/-- `ProbeRequest`. -/
structure ProbeRequest where
  action : ProbeAction
  profileId : Text
  profileVersion : ℤ
  bootId : Text
  requestId : Text
  operationId : Text
  nonce : Text
  phase : ProbePhase
  generation : ℤ
  requestDeadlineMs : ℤ
  candidate : Option NormalizedCandidateIdentity
  intendedTarget : Option ℤ
  physicalTargets : Option (ℤ × ℤ)
  operationDeadlineMs : Option ℤ
  resultId : Option Text
  deriving DecidableEq

def commonRequestFields : List String :=
  ["action", "protocol_id", "protocol_version", "build_id", "profile_id", "profile_version",
    "boot_id", "request_id", "operation_id", "nonce", "phase", "generation",
    "request_deadline_ms"]

/-- `_ARM_REQUEST_FIELDS` of the contract. -/
def armFields : List String :=
  commonRequestFields ++ ["candidate", "intended_target", "physical_targets",
    "operation_deadline_ms"]

def ackRequestFields : List String := commonRequestFields ++ ["result_id"]

/-- `_RESULT_ID_PATTERN`. -/
def resultIdPattern : Text → Bool := hexAfter (chars "tfpp-result-") 24

/-- The fields that `from_dict` expects. -/
def ProbeAction.fields : ProbeAction → List String
  | .arm => armFields
  | .ack => ackRequestFields
  | .resume => commonRequestFields

/-- `physical_targets`, a list of two. -/
def readTargets (value : Value) : Result (Option (Value × Value)) :=
  match value with
  | .null => .ok none
  | .arr [first, second] => .ok (some (first, second))
  | _ => .error "Request physical targets must be a two-item list."

/-- The candidate of a request. -/
def readCandidate (value : Value) : Result (Option NormalizedCandidateIdentity) :=
  match value with
  | .null => .ok none
  | value => do
    let identity ← NormalizedCandidateIdentity.fromProjection value
    return some identity

/-- The fields that every request has, checked by the constructor. -/
structure CommonRequest where
  profile : PhysicalProbeProfile
  profileId : Text
  profileVersion : ℤ
  bootId : Text
  requestId : Text
  operationId : Text
  nonce : Text
  generation : ℤ
  requestDeadlineMs : ℤ

/-- The checks with which `ProbeRequest.__post_init__` starts. -/
def readCommon (data : List (Text × Value)) : Result CommonRequest := do
  let profileId ← readPattern profileIdPattern (field data "profile_id") "profile ID"
  let profileVersion ← requireInteger (field data "profile_version") "profile version"
  let profile ← profileOf profileId profileVersion
  let bootId ← readPattern bootPattern (field data "boot_id") "request boot ID"
  let requestId ← readPattern requestPattern (field data "request_id") "request ID"
  let operationId ← readPattern operationPattern (field data "operation_id") "operation ID"
  let nonce ← readPattern noncePattern (field data "nonce") "request nonce"
  let generation ← requireInteger (field data "generation") "request generation"
  checkNonnegative generation "request generation"
  check (generation ≤ maxGeneration) "Request generation exceeds its bound."
  let requestDeadlineMs ← requireInteger (field data "request_deadline_ms") "request deadline"
  checkSafeMilliseconds requestDeadlineMs "request deadline"
  return ⟨profile, profileId, profileVersion, bootId, requestId, operationId, nonce, generation,
    requestDeadlineMs⟩

/-- The branch of the constructor for an arm request. -/
def readArm (data : List (Text × Value)) (common : CommonRequest) (phase : ProbePhase)
    (candidate : Option NormalizedCandidateIdentity) (targets : Option (Value × Value)) :
    Result ProbeRequest :=
  match candidate, targets with
  | none, _ => .error "Arm request must target quiescence with a candidate."
  | some identity, none => do
    check (phase = .quiescent) "Arm request must target quiescence with a candidate."
    identity.requireProfile common.profile
    .error "Arm request requires exact target fields."
  | some identity, some (first, second) => do
    check (phase = .quiescent) "Arm request must target quiescence with a candidate."
    identity.requireProfile common.profile
    check (¬ (field data "intended_target" matches .null))
      "Arm request requires exact target fields."
    let intendedTarget ← requireInteger (field data "intended_target") "intended target"
    common.profile.validateTarget intendedTarget "intended target"
    let firstTarget ← requireInteger first "physical target"
    let secondTarget ← requireInteger second "physical target"
    validatePhysicalTargets (firstTarget, secondTarget) intendedTarget common.profile
    let operationDeadlineMs ←
      requireInteger (field data "operation_deadline_ms") "operation deadline"
    checkSafeMilliseconds operationDeadlineMs "operation deadline"
    return ⟨.arm, common.profileId, common.profileVersion, common.bootId, common.requestId,
      common.operationId, common.nonce, phase, common.generation, common.requestDeadlineMs,
      some identity, some intendedTarget, some (firstTarget, secondTarget),
      some operationDeadlineMs, none⟩

/-- The branches of the constructor for the other requests; their fields are exact, so that they
have no arm fields. -/
def readOther (data : List (Text × Value)) (common : CommonRequest) (action : ProbeAction)
    (phase : ProbePhase) : Result ProbeRequest := do
  let request (resultId : Option Text) : ProbeRequest :=
    ⟨action, common.profileId, common.profileVersion, common.bootId, common.requestId,
      common.operationId, common.nonce, phase, common.generation, common.requestDeadlineMs,
      none, none, none, none, resultId⟩
  if action = .ack then
    check (phase = .resultPendingAck) "Ack request must target a pending result."
    let resultId ← readPattern resultIdPattern (field data "result_id") "result ID"
    return request (some resultId)
  else
    check (phase ∉ [ProbePhase.resultPendingAck, .quiescent, .remediationRequired])
      "Resume request has unexpected fields or phase."
    return request none

/-- `ProbeRequest.from_dict`. -/
def ProbeRequest.fromDict (value : Value) : Result ProbeRequest :=
  match value with
  | .obj entries => do
    let action ← parseEnum ProbeAction.values (field entries "action") "probe action"
    let data ← requireExactFields value action.fields "probe request"
    check (isStr (chars "true-family-physical-probe") (field data "protocol_id") = true
      ∧ isInt 2 (field data "protocol_version") = true)
      "Probe request protocol identity is incompatible."
    check (isStr (chars "tfpp-v2-z2m-2.12.1-zh-10.6.1-zhc-26.76.0") (field data "build_id") = true)
      "Probe request build identity is incompatible."
    let targets ← readTargets (field data "physical_targets")
    let phase ← parseEnum ProbePhase.values (field data "phase") "request phase"
    let candidate ← readCandidate (field data "candidate")
    let common ← readCommon data
    match action with
    | .arm => readArm data common phase candidate targets
    | action => readOther data common action phase
  | _ => .error "Probe request must be a plain object."

end TrueFamily.Probe
