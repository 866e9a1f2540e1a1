import Mathlib.Data.Prod.Lex
import TrueFamily.Lib.Checked
import TrueFamily.Migration.Canonical

/-!
# Migration plans

The planner of `ReferenceMigrationCoordinator`: the documents of every provider, what may be
replaced in them, and the digest of the plan that is issued. SHA-256 is a parameter: `Sha256` maps
an ASCII text to the text that `hexdigest` returns.
-/

namespace TrueFamily.Migration

open Checked Sorting
open JsonValue (Text intText isDigit isHex)
open Projection hiding collect

/-! ## Documents -/

/-- `Revision`. -/
inductive Revision
  | string (value : Text)
  | integer (value : ℤ)
  deriving DecidableEq, Repr

/-- `ReferenceDocument`, with the checks of `__post_init__`. A `dict` has a key once. -/
structure ReferenceDocument where
  provider : Text
  objectId : Text
  revision : Revision
  payload : Payload
  writable : Bool
  provider_ne : provider ≠ []
  objectId_ne : objectId ≠ []
  revision_ne : revision ≠ .string []
  keysDistinct : KeysDistinct payload

/-- `PlannedDocument`. -/
structure PlannedDocument where
  provider : Text
  objectId : Text
  revision : Revision
  writable : Bool
  fingerprint : Text
  postFingerprint : Text
  exactPaths : List ReferencePath
  deriving DecidableEq, Repr

/-- `MigrationPlan`. -/
structure MigrationPlan where
  planId : Text
  digest : Text
  roomId : Text
  roomRevision : ℤ
  oldEntityId : Text
  logicalUniqueId : Text
  targetEntityId : Option Text
  providerTargets : List (Text × Text)
  providers : List Text
  referencesExpected : Bool
  documents : List PlannedDocument
  exactReplacements : ℤ
  deriving DecidableEq, Repr

/-- `MigrationSubject`. -/
structure MigrationSubject where
  roomId : Text
  roomRevision : ℤ
  oldEntityId : Text
  logicalUniqueId : Text
  providerTargets : List (Text × Text)
  deriving DecidableEq, Repr

/-- The arguments of `create_plan`. -/
structure PlanRequest where
  roomId : Text
  roomRevision : ℤ
  oldEntityId : Text
  logicalUniqueId : Text
  targetEntityId : Option Text
  providerTargets : Option (List (Text × Text))
  requiredProviders : List Text
  referencesExpected : Bool

/-- `TRUE_FAMILY_PROVIDER_MANIFEST`. -/
def providerManifest : List Text :=
  ["active_yaml".toList, "config_entry".toList, "external_writers".toList, "lovelace".toList,
    "scheduler".toList]

/-! ## Patterns -/

/-- `[a-z0-9_]`. -/
def isIdCharacter (c : Char) : Bool := decide ('a' ≤ c ∧ c ≤ 'z') || isDigit c || c == '_'

/-- A text that matches a fixed start and `[a-z0-9_]+` after it. -/
def isNamed (start text : Text) : Bool :=
  start.isPrefixOf text && decide (start.length < text.length)
    && (text.drop start.length).all isIdCharacter

/-- `_CLIMATE_ENTITY_PATTERN.fullmatch`. -/
def isClimateEntity (text : Text) : Bool := isNamed "climate.".toList text

/-- `_LOGICAL_UNIQUE_ID_PATTERN.fullmatch`. -/
def isLogicalUniqueId (text : Text) : Bool := isNamed "logical_valve_".toList text

/-- `_SHA256_PATTERN.fullmatch`. -/
def isDigest (text : Text) : Bool := decide (text.length = 64) && text.all isHex

/-- `hashlib.sha256(...).hexdigest()`. -/
class Sha256 where
  hexdigest : Text → Text
  isDigest_hexdigest : ∀ text, isDigest (hexdigest text) = true

export Sha256 (hexdigest isDigest_hexdigest)

/-! ## Errors -/

/-- What blocks a plan, with what its message names. -/
inductive Reason
  /-- A message of `_validate_plan_request`. -/
  | request (message : String)
  | missingProviders (names : List Text)
  | omittedProviders (names : List Text)
  | targetNotClimate (provider : Text)
  | targetUnsafe (provider : Text)
  /-- The authoritative room state could not be resolved. -/
  | unresolved
  /-- The requested fields do not match server-owned room state. -/
  | otherSubject
  | notEnumerated (provider : Text)
  | wrongProvider (objectId : Text)
  | duplicateObject (provider objectId : Text)
  | malformed (provider objectId : Text)
  | notWritable (provider objectId : Text)
  | embedded (provider objectId : Text) (paths : List ReferencePath)
  /-- No safe exact entity references were found. -/
  | noReferences
  deriving DecidableEq, Repr

/-- What the planner raises. -/
inductive PlanError
  /-- `MigrationPlanningBlocked`. -/
  | blocked (reasons : List Reason)
  /-- `MalformedReferenceDocumentError`. -/
  | malformed
  /-- `ValueError`. -/
  | value
  /-- `KeyError`. -/
  | key
  /-- A deterministic plan ID collision occurred. -/
  | collision
  deriving DecidableEq, Repr

/-! ## Fingerprints, scans and replacements -/

section

variable [Sha256] [JinjaParser]

omit [JinjaParser] in
/-- `_payload_fingerprint`. -/
def payloadFingerprint (payload : Payload) : Except PlanError Text := do
  check (validatePayload payload = true) .malformed
  return hexdigest (canonicalJson payload)

omit [JinjaParser] in
/-- `canonical_document_fingerprint`. -/
def canonicalDocumentFingerprint (document : ReferenceDocument) : Except PlanError Text :=
  payloadFingerprint document.payload

omit [Sha256] in
/-- `scan_references`. -/
def scanReferences (payload : Payload) (oldEntityId : Text) (provider : Option Text) :
    Except PlanError SemanticReferenceScan := do
  check (oldEntityId ≠ []) .value
  check (validatePayload payload = true) .malformed
  match scanSemanticReferences payload oldEntityId provider with
  | some scan => return scan
  | none => throw .value

omit [Sha256] in
/-- `_replace_exact_scalars`. -/
def replaceExactScalars (payload : Payload) (oldEntityId targetEntityId : Text)
    (provider : Option Text) : Except PlanError (Payload × ℕ) := do
  check (validatePayload payload = true) .malformed
  match replaceSemanticReferences payload oldEntityId targetEntityId provider with
  | some result => return result
  | none => throw .value

/-! ## The digest of a plan -/

/-- The `repr` of a `bool`. -/
def boolPayload (value : Bool) : Payload :=
  .scalar (if value then "True".toList else "False".toList)

/-- An `int`, by its `repr`. -/
def intPayload (value : ℤ) : Payload := .scalar (intText value)

/-- A string or `None`. -/
def optionalPayload : Option Text → Payload
  | none => .scalar "None".toList
  | some text => .str text

/-- A `dict` whose keys are field names. -/
def fieldsPayload (fields : List (String × Payload)) : Payload :=
  .dict (fields.map fun field => (field.1.toList, field.2))

/-- `_canonical_revision`. -/
def canonicalRevision : Revision → Payload
  | .integer value => fieldsPayload [("type", .str "integer".toList), ("value", intPayload value)]
  | .string value => fieldsPayload [("type", .str "string".toList), ("value", .str value)]

/-- An entry of `_canonical_path`. -/
def canonicalPart : PathPart → Payload
  | .index index => fieldsPayload [("type", .str "index".toList), ("value", intPayload index)]
  | .key key => fieldsPayload [("type", .str "key".toList), ("value", .str key)]

/-- `_canonical_path`. -/
def canonicalPath (path : ReferencePath) : Payload := .list (path.map canonicalPart)

/-- A document of a digest payload. -/
def digestDocument (document : PlannedDocument) : Payload :=
  fieldsPayload [("provider", .str document.provider), ("object_id", .str document.objectId),
    ("revision", canonicalRevision document.revision), ("writable", boolPayload document.writable),
    ("fingerprint", .str document.fingerprint),
    ("post_fingerprint", .str document.postFingerprint),
    ("exact_paths", .list (document.exactPaths.map canonicalPath))]

/-- The `digest_payload` of `create_plan` and of `_validate_journaled_completion`. -/
def digestPayload (roomId : Text) (roomRevision : ℤ) (oldEntityId logicalUniqueId : Text)
    (targetEntityId : Option Text) (targets : List (Text × Text)) (providers : List Text)
    (referencesExpected : Bool) (documents : List PlannedDocument) : Payload :=
  fieldsPayload [("schema", intPayload 1), ("room_id", .str roomId),
    ("room_revision", intPayload roomRevision), ("old_entity_id", .str oldEntityId),
    ("logical_unique_id", .str logicalUniqueId),
    ("target_entity_id", optionalPayload targetEntityId),
    ("provider_targets", .dict (targets.map fun target => (target.1, .str target.2))),
    ("providers", .list (providers.map .str)),
    ("references_expected", boolPayload referencesExpected),
    ("documents", .list (documents.map digestDocument))]

omit [JinjaParser] in
/-- The ID of the plan with a digest. -/
def planIdOf (digest : Text) : Text :=
  "tf-reference-".toList ++ (hexdigest ("reference-plan:".toList ++ digest)).take 24

end

/-! ## The coordinator -/

/-- `ReferenceMigrationCoordinator`, as far as `create_plan` reads it. Its providers are those of
the manifest; `listDocuments` has nothing for one whose `list_documents` raises. -/
structure ReferenceMigrationCoordinator where
  blocked : Bool
  listDocuments : Text → Option (List ReferenceDocument)
  /-- `resolve_subject` of the authority, which may raise. -/
  resolveSubject : Text → Option MigrationSubject
  /-- The values of `_plans`. -/
  plans : List MigrationPlan

/-- The reasons when a condition holds. -/
def reasonIf (condition : Prop) [Decidable condition] (reason : Reason) : List Reason :=
  if condition then [reason] else []

/-- The targets of `_validate_plan_request`. -/
def targetReasons (request : PlanRequest) : List Reason :=
  match request.providerTargets with
  | none =>
    match request.targetEntityId with
    | none => [.request "The target entity ID must be a canonical climate entity ID."]
    | some target =>
      if isClimateEntity target = false then
        [.request "The target entity ID must be a canonical climate entity ID."]
      else reasonIf (request.oldEntityId = target)
        (.request "The old and target entity IDs must differ.")
  | some targets =>
    reasonIf (request.targetEntityId ≠ none)
        (.request "Use either one target entity or provider-specific targets, not both.")
      ++ reasonIf (¬ (targets.map Prod.fst ⊆ request.requiredProviders
            ∧ request.requiredProviders ⊆ targets.map Prod.fst))
        (.request "Provider-specific targets must cover every provider exactly.")
      ++ targets.flatMap fun target =>
        if isClimateEntity target.2 = false then [.targetNotClimate target.1]
        else reasonIf (target.2 = request.oldEntityId) (.targetUnsafe target.1)

/-- `_validate_plan_request`, for arguments of the declared types. -/
def validatePlanRequest (request : PlanRequest) : List Reason :=
  let reasons := reasonIf (request.roomId = []) (.request "A non-empty room ID is required.")
    ++ reasonIf (request.oldEntityId = []) (.request "A non-empty old entity ID is required.")
    ++ reasonIf (request.logicalUniqueId = [])
      (.request "A non-empty logical unique ID is required.")
    ++ reasonIf (request.roomRevision < 0) (.request "Room revision cannot be negative.")
  if request.requiredProviders = [] then
    reasons ++ [.request "A non-empty explicit required-provider set is required."]
  else if [] ∈ request.requiredProviders then
    reasons ++ [.request "Required provider names must be non-empty strings."]
  else
    let missing := sortedBy id (request.requiredProviders.dedup.filter (· ∉ providerManifest))
    let omitted := sortedBy id (providerManifest.filter (· ∉ request.requiredProviders))
    reasons ++ reasonIf (missing ≠ []) (.missingProviders missing)
      ++ reasonIf (omitted ≠ []) (.omittedProviders omitted)
      ++ reasonIf (request.oldEntityId ≠ [] ∧ isClimateEntity request.oldEntityId = false)
        (.request "The old entity ID must be a canonical climate entity ID.")
      ++ reasonIf (request.logicalUniqueId ≠ [] ∧ isLogicalUniqueId request.logicalUniqueId = false)
        (.request "The logical unique ID is malformed.")
      ++ targetReasons request

/-- `mapping[key]`. -/
def item {α : Type} (mapping : List (Text × α)) (key : Text) : Except PlanError α :=
  match mapping.find? fun entry => decide (entry.1 = key) with
  | some entry => .ok entry.2
  | none => .error .key

/-- `_normalize_provider_targets`. -/
def normalizeProviderTargets (providerNames : List Text) (targetEntityId : Option Text)
    (providerTargets : Option (List (Text × Text))) : Except PlanError (List (Text × Text)) :=
  match providerTargets, targetEntityId with
  | some targets, _ => collect (fun name => do return (name, ← item targets name)) providerNames
  | none, none => .error (.blocked [.request "A migration target is required."])
  | none, some target => .ok (providerNames.map fun name => (name, target))

/-- What the loop over the documents has found. -/
structure Discovery where
  reasons : List Reason
  seen : List (Text × Text)
  documents : List PlannedDocument
  exactReplacements : ℕ

section

variable [Sha256] [JinjaParser]

/-- The fingerprint and the scan of a document, or nothing where it is malformed. -/
def inspectDocument (oldEntityId providerName : Text) (document : ReferenceDocument) :
    Except PlanError (Option (Text × SemanticReferenceScan)) :=
  let inspected : Except PlanError (Text × SemanticReferenceScan) := do
    let fingerprint ← canonicalDocumentFingerprint document
    let scan ← scanReferences document.payload oldEntityId (some providerName)
    return (fingerprint, scan)
  match inspected with
  | .ok result => .ok (some result)
  | .error .malformed => .ok none
  | .error error => .error error

/-- The body of the loop over the documents of a provider. -/
def planDocument (oldEntityId : Text) (targets : List (Text × Text)) (providerName : Text)
    (found : Discovery) (document : ReferenceDocument) : Except PlanError Discovery :=
  let seen := found.seen ++ [(providerName, document.objectId)]
  if document.provider ≠ providerName then
    .ok { found with reasons := found.reasons ++ [.wrongProvider document.objectId] }
  else if (providerName, document.objectId) ∈ found.seen then
    .ok { found with
      reasons := found.reasons ++ [.duplicateObject providerName document.objectId] }
  else do
    match ← inspectDocument oldEntityId providerName document with
    | none =>
      return { found with
        seen := seen, reasons := found.reasons ++ [.malformed providerName document.objectId] }
    | some (fingerprint, scan) =>
      let target ← item targets providerName
      let (replacedPayload, replacedCount) ←
        replaceExactScalars document.payload oldEntityId target (some providerName)
      let postFingerprint ← payloadFingerprint replacedPayload
      return {
        reasons := found.reasons
          ++ reasonIf (document.writable = false) (.notWritable providerName document.objectId)
          ++ reasonIf (scan.blocked ≠ [])
            (.embedded providerName document.objectId (scan.blocked.map (·.path)))
        seen := seen
        documents := found.documents ++ [{
          provider := providerName, objectId := document.objectId
          revision := document.revision, writable := document.writable
          fingerprint := fingerprint, postFingerprint := postFingerprint
          exactPaths := scan.replaceablePaths }]
        exactReplacements := found.exactReplacements + replacedCount }

/-- The loop over the documents of a provider. -/
def planDocuments (oldEntityId : Text) (targets : List (Text × Text)) (providerName : Text) :
    Discovery → List ReferenceDocument → Except PlanError Discovery
  | found, [] => .ok found
  | found, document :: documents => do
    let found ← planDocument oldEntityId targets providerName found document
    planDocuments oldEntityId targets providerName found documents

/-- The body of the loop over the providers. -/
def planProvider (self : ReferenceMigrationCoordinator) (oldEntityId : Text)
    (targets : List (Text × Text)) (found : Discovery) (providerName : Text) :
    Except PlanError Discovery :=
  match self.listDocuments providerName with
  | none => .ok { found with reasons := found.reasons ++ [.notEnumerated providerName] }
  | some documents =>
    planDocuments oldEntityId targets providerName found
      (sortedBy ReferenceDocument.objectId documents)

/-- The loop over the providers. -/
def planProviders (self : ReferenceMigrationCoordinator) (oldEntityId : Text)
    (targets : List (Text × Text)) : Discovery → List Text → Except PlanError Discovery
  | found, [] => .ok found
  | found, providerName :: providerNames => do
    let found ← planProvider self oldEntityId targets found providerName
    planProviders self oldEntityId targets found providerNames

/-- The plan that `create_plan` builds from what it has found. -/
def planOf (request : PlanRequest) (providerNames : List Text) (targets : List (Text × Text))
    (found : Discovery) : MigrationPlan :=
  let documents := sortedBy (fun document => toLex (document.provider, document.objectId))
    found.documents
  let digest := hexdigest (canonicalJson (digestPayload request.roomId request.roomRevision
    request.oldEntityId request.logicalUniqueId request.targetEntityId targets providerNames
    request.referencesExpected documents))
  { planId := planIdOf digest
    digest := digest
    roomId := request.roomId
    roomRevision := request.roomRevision
    oldEntityId := request.oldEntityId
    logicalUniqueId := request.logicalUniqueId
    targetEntityId := request.targetEntityId
    providerTargets := sortedBy toLex targets
    providers := providerNames
    referencesExpected := request.referencesExpected
    documents := documents
    exactReplacements := found.exactReplacements }

omit [Sha256] [JinjaParser] in
/-- The end of `create_plan`: an issued plan is returned again. -/
def ReferenceMigrationCoordinator.record (self : ReferenceMigrationCoordinator)
    (plan : MigrationPlan) : Except PlanError (MigrationPlan × List MigrationPlan) :=
  match self.plans.find? fun existing => decide (existing.planId = plan.planId) with
  | some existing => do
    check (existing = plan) .collision
    return (existing, self.plans)
  | none => .ok (plan, self.plans ++ [plan])

/-- `create_plan`: the plan, and the plans that the coordinator then has. The journal's
`set_state`, which comes last, is left out. -/
def ReferenceMigrationCoordinator.createPlan (self : ReferenceMigrationCoordinator)
    (request : PlanRequest) : Except PlanError (MigrationPlan × List MigrationPlan) := do
  check (self.blocked = false) (.blocked [.request "Reference migrations are blocked."])
  let reasons := validatePlanRequest request
  check (reasons = []) (.blocked reasons)
  let providerNames := sortedBy id request.requiredProviders.dedup
  let targets ← normalizeProviderTargets providerNames request.targetEntityId
    request.providerTargets
  let requested : MigrationSubject := {
    roomId := request.roomId, roomRevision := request.roomRevision
    oldEntityId := request.oldEntityId, logicalUniqueId := request.logicalUniqueId
    providerTargets := sortedBy toLex targets }
  check (self.resolveSubject request.roomId ≠ none) (.blocked [.unresolved])
  check (self.resolveSubject request.roomId = some requested) (.blocked [.otherSubject])
  let found ← planProviders self request.oldEntityId targets ⟨[], [], [], 0⟩ providerNames
  let reasons := found.reasons
    ++ reasonIf (request.referencesExpected = true ∧ found.exactReplacements = 0) .noReferences
  check (reasons = []) (.blocked reasons)
  self.record (planOf request providerNames targets found)

end

end TrueFamily.Migration
