import TrueFamily.Preflight.Canonical

/-!
# The contract of the physical probe: values

The strict checks of the probe's contract, its profile and the identity of a candidate. A check
raises a `PhysicalProbeError` with a fixed text, in which the label of the value is capitalized. The
patterns, the characters of a text and the parser are those of the preflight, which spells them the
same.
-/

namespace TrueFamily.Probe

open Checked JsonValue TrueFamily.Preflight

/-- What a function of the contract returns, or the text of the `PhysicalProbeError` it raises. -/
abbrev Result := Except String

def maxStateJsonBytes : ℕ := 16384
def maxMessageJsonBytes : ℕ := 4096
def maxProbeJsonDepth : ℕ := 12
def maxProbeJsonNodes : ℕ := 320
def maxConsumedRequestIds : ℕ := 32
def maxProofs : ℕ := 5
def maxUsedSequences : ℕ := 16
def maxGeneration : ℤ := 64
def maxRestoreAttempts : ℤ := 3
def maxUnclaimedSafetyAttempts : ℤ := 3
def physicalProofWindowMs : ℤ := 60000
def resultSettlingWindowMs : ℤ := 2000

/-! ## Strict checks -/

/-- `label.capitalize()`. -/
def capitalize (label : String) : String := label.toLower.capitalize

def requireInteger (value : Value) (label : String) : Result ℤ :=
  match value with
  | .int number => .ok number
  | _ => .error (capitalize label ++ " must be a strict integer.")

/-- The range of `_require_nonnegative_integer`. -/
def checkNonnegative (number : ℤ) (label : String) : Result Unit :=
  check (0 ≤ number) (capitalize label ++ " cannot be negative.")

/-- The range of `_require_positive_integer`. -/
def checkPositive (number : ℤ) (label : String) : Result Unit :=
  check (0 < number) (capitalize label ++ " must be positive.")

/-- The range of `_require_uint16`. -/
def checkUint16 (number : ℤ) (label : String) : Result Unit :=
  check (0 ≤ number ∧ number ≤ 0xffff) (capitalize label ++ " is outside uint16.")

/-- The range of `_require_safe_milliseconds`. -/
def checkSafeMilliseconds (number : ℤ) (label : String) : Result Unit :=
  check (0 ≤ number ∧ number ≤ maxSafeInteger)
    (capitalize label ++ " is outside safe milliseconds.")

/-- `_require_pattern`, of a text. -/
def checkPattern (pattern : Text → Bool) (text : Text) (label : String) : Result Unit :=
  check (pattern text = true) (capitalize label ++ " is malformed.")

/-- `_require_pattern`, of any value. -/
def readPattern (pattern : Text → Bool) (value : Value) (label : String) : Result Text :=
  match value with
  | .str text => do
    checkPattern pattern text label
    return text
  | _ => .error (capitalize label ++ " is malformed.")

/-- The condition of `_require_text`. -/
def IsBoundedText (text : Text) (maximum : ℕ) : Prop :=
  text ≠ [] ∧ hasBoundaryWhitespace text = false ∧ text.length ≤ maximum
    ∧ text.all (fun c => decide (0x1f < c.toNat)) = true

instance (text : Text) (maximum : ℕ) : Decidable (IsBoundedText text maximum) := instDecidableAnd

/-- `_require_text`, of a text. -/
def checkText (text : Text) (label : String) (maximum : ℕ) : Result Unit :=
  check (IsBoundedText text maximum) (capitalize label ++ " must be canonical bounded text.")

/-- `_require_text`, of any value. -/
def readText (value : Value) (label : String) (maximum : ℕ) : Result Text :=
  match value with
  | .str text => do
    checkText text label maximum
    return text
  | _ => .error (capitalize label ++ " must be canonical bounded text.")

/-- `_require_set_topic`. -/
def checkSetTopic (topic : Text) : Result Unit := do
  checkText topic "candidate set topic" 160
  check ((chars "/set").isSuffixOf topic = true ∧ startsWithSlash topic = false
    ∧ hasDoubleSlash topic = false ∧ hasWildcard topic = false) "Candidate set topic is not exact."

/-- `_require_exact_fields`. -/
def requireExactFields (value : Value) (expected : List String) (label : String) :
    Result (List (Text × Value)) :=
  match value with
  | .obj entries => do
    check ((∀ entry ∈ entries, ∃ name ∈ expected, entry.1 = chars name)
      ∧ ∀ name ∈ expected, ∃ entry ∈ entries, entry.1 = chars name)
      (capitalize label ++ " has missing or unexpected fields.")
    return entries
  | _ => .error (capitalize label ++ " has missing or unexpected fields.")

/-- `_checked_add`. -/
def checkedAdd (value increment : ℤ) (label : String) : Result ℤ := do
  checkSafeMilliseconds value label
  checkPositive increment (label ++ " increment")
  check (value + increment ≤ maxSafeInteger) (capitalize label ++ " exceeds safe milliseconds.")
  return value + increment

/-- `_validate_fresh_deadline`. -/
def validateFreshDeadline (deadlineMs nowMs maximumWindowMs : ℤ) (label : String) :
    Result Unit := do
  checkSafeMilliseconds deadlineMs label
  checkSafeMilliseconds nowMs "current time"
  check (nowMs < deadlineMs ∧ deadlineMs ≤ nowMs + maximumWindowMs)
    (capitalize label ++ " is stale or too far ahead.")

/-- `_bounded_phase_deadline`. -/
def boundedPhaseDeadline (nowMs operationDeadlineMs windowMs : ℤ) : Result ℤ := do
  checkSafeMilliseconds nowMs "current time"
  checkSafeMilliseconds operationDeadlineMs "operation deadline"
  checkPositive windowMs "phase window"
  let added ← checkedAdd nowMs windowMs "phase deadline"
  let deadline := min added operationDeadlineMs
  check (nowMs < deadline) "No time remains for the next proof phase."
  return deadline

/-! ## The profile -/

/-- `ResolvedIdentityAlias`. -/
structure ResolvedIdentityAlias where
  manufacturerFingerprint : Text
  model : Text
  vendor : Text
  deriving DecidableEq

/-- `PhysicalProbeProfile`, the fields that the contract reads. -/
structure PhysicalProbeProfile where
  profileId : Text
  profileVersion : ℤ
  zigbeeModel : Text
  resolvedAliases : List ResolvedIdentityAlias
  endpointId : ℤ
  clusterName : Text
  clusterId : ℤ
  minimumTarget : ℤ
  maximumTarget : ℤ
  targetStep : ℤ
  challengeDelta : ℤ

/-- `BRT_PROFILE`. -/
def brtProfile : PhysicalProbeProfile where
  profileId := chars "moes-brt-100-trv"
  profileVersion := 2
  zigbeeModel := chars "TS0601"
  resolvedAliases :=
    [⟨chars "_TZE200_b6wax7g0", chars "BRT-100-TRV", chars "Moes"⟩,
      ⟨chars "_TZE200_qsoecqlk", chars "Powerswitch-ZK(W)", chars "Sibling"⟩,
      ⟨chars "_TZE200_6y7kyjga", chars "BRT-100-TRV", chars "Moes"⟩]
  endpointId := 1
  clusterName := chars "manuSpecificTuya"
  clusterId := 0xef00
  minimumTarget := 0
  maximumTarget := 35
  targetStep := 1
  challengeDelta := 1

/-- `_PROFILE_ID_PATTERN`. -/
def profileIdPattern (text : Text) : Bool :=
  decide (3 ≤ text.length ∧ text.length ≤ 64) && text.head?.any isLowerAlphanumeric
    && text.all fun c => isLowerAlphanumeric c || decide (c = '-')

/-- `_profile`. -/
def profileOf (profileId : Text) (profileVersion : ℤ) : Result PhysicalProbeProfile := do
  checkPattern profileIdPattern profileId "profile ID"
  checkPositive profileVersion "profile version"
  check (profileId = brtProfile.profileId ∧ profileVersion = brtProfile.profileVersion)
    "Probe profile identity is unsupported."
  return brtProfile

namespace PhysicalProbeProfile

variable (profile : PhysicalProbeProfile)

/-- `resolved_alias`. -/
def resolvedAlias (fingerprint : Text) : Result ResolvedIdentityAlias := do
  checkPattern fingerprintPattern fingerprint "manufacturer fingerprint"
  match profile.resolvedAliases.find? fun entry => entry.manufacturerFingerprint = fingerprint with
  | some resolved => .ok resolved
  | none => .error "Manufacturer fingerprint is not in the probe profile."

/-- `validate_target`, of an integer. -/
def validateTarget (target : ℤ) (label : String) : Result Unit := do
  check (profile.minimumTarget ≤ target ∧ target ≤ profile.maximumTarget)
    (capitalize label ++ " is outside the profile range.")
  check ((target - profile.minimumTarget) % profile.targetStep = 0)
    (capitalize label ++ " is not on the profile step.")

/-- `challenge_target`. -/
def challengeTarget (intendedTarget : ℤ) : Result ℤ := do
  profile.validateTarget intendedTarget "intended target"
  let higher := intendedTarget + profile.challengeDelta
  let challenge :=
    if higher ≤ profile.maximumTarget then higher else intendedTarget - profile.challengeDelta
  profile.validateTarget challenge "challenge target"
  check (|challenge - intendedTarget| = profile.challengeDelta)
    "Challenge target is not exactly one challenge delta away."
  return challenge

end PhysicalProbeProfile

/-- `_validate_physical_targets`. -/
def validatePhysicalTargets (targets : ℤ × ℤ) (intendedTarget : ℤ)
    (profile : PhysicalProbeProfile) : Result Unit := do
  profile.validateTarget targets.1 "physical target"
  profile.validateTarget targets.2 "physical target"
  check (targets.1 ≠ targets.2 ∧ targets.2 = intendedTarget)
    "Physical targets must be distinct and end at the intended target."

/-! ## The candidate -/

/-- `NormalizedCandidateIdentity`. -/
structure NormalizedCandidateIdentity where
  ieeeAddress : Text
  model : Text
  vendor : Text
  zigbeeModel : Text
  manufacturerFingerprint : Text
  endpointId : ℤ
  clusterName : Text
  clusterId : ℤ
  deriving DecidableEq

def candidateFields : List String :=
  ["ieee_address", "model", "vendor", "zigbee_model", "manufacturer_fingerprint", "endpoint_id",
    "cluster_name", "cluster_id"]

/-- `from_projection`, with the checks of the constructor. -/
def NormalizedCandidateIdentity.fromProjection (value : Value) :
    Result NormalizedCandidateIdentity := do
  let data ← requireExactFields value candidateFields "candidate identity"
  let ieeeAddress ← readPattern ieeePattern (field data "ieee_address") "candidate IEEE address"
  let model ← readText (field data "model") "candidate model" 96
  let vendor ← readText (field data "vendor") "candidate vendor" 96
  let zigbeeModel ← readText (field data "zigbee_model") "candidate Zigbee model" 96
  let clusterName ← readText (field data "cluster_name") "candidate cluster name" 96
  let fingerprint ← readPattern fingerprintPattern (field data "manufacturer_fingerprint")
    "candidate manufacturer fingerprint"
  let endpointId ← requireInteger (field data "endpoint_id") "candidate endpoint"
  checkPositive endpointId "candidate endpoint"
  let clusterId ← requireInteger (field data "cluster_id") "candidate cluster ID"
  check (0 ≤ clusterId ∧ clusterId ≤ 0xffff) "Candidate cluster ID is outside its range."
  return ⟨ieeeAddress, model, vendor, zigbeeModel, fingerprint, endpointId, clusterName, clusterId⟩

/-- `require_profile`. -/
def NormalizedCandidateIdentity.requireProfile (identity : NormalizedCandidateIdentity)
    (profile : PhysicalProbeProfile) : Result Unit := do
  let resolved ← profile.resolvedAlias identity.manufacturerFingerprint
  check (identity.model = resolved.model ∧ identity.vendor = resolved.vendor
    ∧ identity.zigbeeModel = profile.zigbeeModel ∧ identity.endpointId = profile.endpointId
    ∧ identity.clusterName = profile.clusterName ∧ identity.clusterId = profile.clusterId)
    "Candidate identity does not match the probe profile."

end TrueFamily.Probe
