import TrueFamily.Migration.Completion

/-!
# The codec of plans

`encode_migration_plan` and `decode_migration_plan` of the journal store, with the field paths of
their errors. What is encoded is read back (`decode_encode`), and every issued plan whose changed
documents are those with paths is encoded (`encode_of_sound`).
-/

namespace TrueFamily.Migration

open Checked Sorting
open JsonValue (Text intText intOfText isHex)
open Projection hiding collect

/-! ## Fields -/

/-- `ReferenceJournalCodecError`, by the path and the message of `_codec_error`. -/
structure CodecError where
  path : String
  message : String
  deriving DecidableEq, Repr

/-- The names in a message. -/
def joinNames (names : List Text) : String :=
  ", ".intercalate ((sortedBy id names).map String.ofList)

/-- The details of `_exact_mapping`. -/
def keyDetails (names keys : List Text) : String :=
  let missing := keys.filter (· ∉ names)
  let unexpected := names.filter (· ∉ keys)
  "; ".intercalate
    ((if missing = [] then [] else ["missing " ++ joinNames missing])
      ++ if unexpected = [] then [] else ["unexpected " ++ joinNames unexpected])

/-- `_exact_mapping`. -/
def exactMapping (value : Payload) (path : String) (keys : Option (List Text)) :
    Except CodecError (List (Text × Payload)) :=
  match value with
  | .dict entries => do
    match keys with
    | none => return entries
    | some keys =>
      check (SameSet (entries.map Prod.fst) keys) ⟨path, keyDetails (entries.map Prod.fst) keys⟩
      return entries
  | _ => .error ⟨path, "must be a built-in mapping"⟩

/-- `raw[key]`, for a key that `_exact_mapping` has found. -/
def field (raw : List (Text × Payload)) (key : String) : Payload :=
  ((raw.find? fun entry => decide (entry.1 = key.toList)).map Prod.snd).getD (optionalPayload none)

/-- `_exact_list`. -/
def exactList (value : Payload) (path : String) : Except CodecError (List Payload) :=
  match value with
  | .list items => .ok items
  | _ => .error ⟨path, "must be a built-in list"⟩

/-- `_string`. -/
def string (value : Payload) (path : String) (allowEmpty : Bool) : Except CodecError Text :=
  let qualifier := if allowEmpty then "a string" else "a non-empty string"
  match value with
  | .str text =>
    if allowEmpty = false ∧ text = [] then .error ⟨path, "must be " ++ qualifier⟩ else .ok text
  | _ => .error ⟨path, "must be " ++ qualifier⟩

/-- The `int` whose `repr` a scalar is. -/
def readInt : Payload → Option ℤ
  | .scalar text => if intText (intOfText text) = text then some (intOfText text) else none
  | _ => none

/-- `_integer`. -/
def integer (value : Payload) (path : String) : Except CodecError ℤ :=
  match readInt value with
  | some number =>
    if number < 0 then .error ⟨path, "must be an integer greater than or equal to 0"⟩
    else .ok number
  | none => .error ⟨path, "must be an integer greater than or equal to 0"⟩

/-- `_boolean`. -/
def boolean (value : Payload) (path : String) : Except CodecError Bool :=
  match value with
  | .scalar text =>
    if text = "True".toList then .ok true
    else if text = "False".toList then .ok false
    else .error ⟨path, "must be a boolean"⟩
  | _ => .error ⟨path, "must be a boolean"⟩

/-- A non-empty string that matches a pattern. -/
def matching (accepts : Text → Bool) (message : String) (value : Payload) (path : String) :
    Except CodecError Text := do
  let rendered ← string value path false
  check (accepts rendered = true) ⟨path, message⟩
  return rendered

/-- `_fingerprint`. -/
def fingerprint (value : Payload) (path : String) : Except CodecError Text :=
  matching isDigest "must be a canonical SHA-256 digest" value path

/-- `_PLAN_ID_PATTERN.fullmatch`. -/
def isPlanId (text : Text) : Bool :=
  "tf-reference-".toList.isPrefixOf text && decide (text.length = 37)
    && (text.drop 13).all isHex

/-- `_plan_id`. -/
def planId (value : Payload) (path : String) : Except CodecError Text :=
  matching isPlanId "must be a canonical reference migration plan ID" value path

/-- `_provider`. -/
def provider (value : Payload) (path : String) : Except CodecError Text :=
  matching (providerManifest.contains ·) "contains an unknown reference provider" value path

/-- `_climate_entity`. -/
def climateEntity (value : Payload) (path : String) : Except CodecError Text :=
  matching isClimateEntity "must be a canonical climate entity ID" value path

/-- `[body(item, f"{path}[{index}]") for index, item in enumerate(items)]`. -/
def enumerate {α β : Type} (body : α → String → Except CodecError β) (path : String) :
    ℕ → List α → Except CodecError (List β)
  | _, [] => .ok []
  | index, item :: items => do
    let value ← body item s!"{path}[{index}]"
    let values ← enumerate body path (index + 1) items
    return value :: values

/-! ## Revisions and paths -/

/-- `_encode_revision`. -/
def encodeRevision (value : Revision) (path : String) : Except CodecError Payload := do
  check (value ≠ .string []) ⟨path, "must be a non-empty string or an integer"⟩
  return canonicalRevision value

/-- `_decode_revision`. -/
def decodeRevision (value : Payload) (path : String) : Except CodecError Revision := do
  let raw ← exactMapping value path (some ["type".toList, "value".toList])
  let revisionType ← string (field raw "type") (path ++ ".type") false
  if revisionType = "integer".toList then
    match readInt (field raw "value") with
    | some number => return .integer number
    | none => throw ⟨path ++ ".value", "must be an integer"⟩
  else if revisionType = "string".toList then
    return .string (← string (field raw "value") (path ++ ".value") false)
  else throw ⟨path ++ ".type", "must be integer or string"⟩

/-- `_encode_path`; an index is no negative number. -/
def encodePath (value : ReferencePath) : Payload := .list (value.map canonicalPart)

/-- The body of the loop of `_decode_path`. -/
def decodePart (item : Payload) (path : String) : Except CodecError PathPart := do
  let part ← exactMapping item path (some ["type".toList, "value".toList])
  let partType ← string (field part "type") (path ++ ".type") false
  if partType = "index".toList then
    return .index (← integer (field part "value") (path ++ ".value")).toNat
  else if partType = "key".toList then
    return .key (← string (field part "value") (path ++ ".value") true)
  else throw ⟨path ++ ".type", "must be index or key"⟩

/-- `_decode_path`. -/
def decodePath (value : Payload) (path : String) : Except CodecError ReferencePath := do
  let raw ← exactList value path
  enumerate decodePart path 0 raw

/-! ## Planned documents -/

/-- The keys of an encoded document. -/
def documentKeys : List Text :=
  ["provider".toList, "object_id".toList, "revision".toList, "writable".toList,
    "fingerprint".toList, "post_fingerprint".toList, "exact_paths".toList]

/-- `encode_planned_document`. -/
def encodePlannedDocument (value : PlannedDocument) : Except CodecError Payload := do
  check (value.exactPaths.dedup.length = value.exactPaths.length)
    ⟨"planned_document.exact_paths", "contains duplicate paths"⟩
  let provider ← provider (.str value.provider) "planned_document.provider"
  let objectId ← string (.str value.objectId) "planned_document.object_id" false
  let revision ← encodeRevision value.revision "planned_document.revision"
  let writable ← boolean (boolPayload value.writable) "planned_document.writable"
  let preFingerprint ← fingerprint (.str value.fingerprint) "planned_document.fingerprint"
  let postFingerprint ←
    fingerprint (.str value.postFingerprint) "planned_document.post_fingerprint"
  return fieldsPayload [("provider", .str provider), ("object_id", .str objectId),
    ("revision", revision), ("writable", boolPayload writable),
    ("fingerprint", .str preFingerprint), ("post_fingerprint", .str postFingerprint),
    ("exact_paths", .list (value.exactPaths.map encodePath))]

/-- `decode_planned_document`. -/
def decodePlannedDocument (value : Payload) : Except CodecError PlannedDocument := do
  let raw ← exactMapping value "planned_document" (some documentKeys)
  let exactPaths ← enumerate decodePath "planned_document.exact_paths" 0
    (← exactList (field raw "exact_paths") "planned_document.exact_paths")
  check (exactPaths.dedup.length = exactPaths.length)
    ⟨"planned_document.exact_paths", "contains duplicate paths"⟩
  return {
    provider := ← provider (field raw "provider") "planned_document.provider"
    objectId := ← string (field raw "object_id") "planned_document.object_id" false
    revision := ← decodeRevision (field raw "revision") "planned_document.revision"
    writable := ← boolean (field raw "writable") "planned_document.writable"
    fingerprint := ← fingerprint (field raw "fingerprint") "planned_document.fingerprint"
    postFingerprint :=
      ← fingerprint (field raw "post_fingerprint") "planned_document.post_fingerprint"
    exactPaths := exactPaths }

/-! ## Targets -/

/-- The loop of `_encode_provider_targets`, with the targets read so far. -/
def encodeTargets (path : String) : ℕ → List (Text × Text) → List (Text × Text) →
    Except CodecError (List (Text × Text))
  | _, targets, [] => .ok targets
  | index, targets, item :: items => do
    let provider ← provider (.str item.1) s!"{path}[{index}].provider"
    check (provider ∉ targets.map Prod.fst) ⟨path, "contains duplicate providers"⟩
    let target ← climateEntity (.str item.2) s!"{path}[{index}].target"
    encodeTargets path (index + 1) (targets ++ [(provider, target)]) items

/-- `_encode_provider_targets`. -/
def encodeProviderTargets (value : List (Text × Text)) (path : String) :
    Except CodecError (List (Text × Text)) := do
  let targets ← encodeTargets path 0 [] value
  check (SameSet (targets.map Prod.fst) providerManifest)
    ⟨path, "must cover the provider manifest exactly"⟩
  check (value = sortedBy toLex targets) ⟨path, "must be sorted canonically"⟩
  return sortedBy Prod.fst targets

/-- The targets as a `dict`. -/
def targetsPayload (targets : List (Text × Text)) : Payload :=
  .dict (targets.map fun target => (target.1, .str target.2))

/-- The body of the loop of `_decode_provider_targets`. -/
def decodeTarget (path : String) (entry : Text × Payload) : Except CodecError (Text × Text) := do
  let name := String.ofList entry.1
  let provider ← provider (.str entry.1) s!"{path}.{name}"
  let target ← climateEntity entry.2 s!"{path}.{name}"
  return (provider, target)

/-- `_decode_provider_targets`. -/
def decodeProviderTargets (value : Payload) (path : String) :
    Except CodecError (List (Text × Text)) := do
  let raw ← exactMapping value path none
  check (SameSet (raw.map Prod.fst) providerManifest)
    ⟨path, "must cover the provider manifest exactly"⟩
  Checked.collect (decodeTarget path) (sortedBy Prod.fst raw)

/-! ## Plans -/

section

variable [Sha256]

omit [Sha256] in
/-- The loop over the documents of `_validate_plan`. -/
def validateDocument (document : PlannedDocument) : Except CodecError Unit := do
  let _ ← encodePlannedDocument document
  check (document.fingerprint ≠ document.postFingerprint ↔ document.exactPaths ≠ [])
    ⟨"migration_plan.documents",
      "must identify changed documents exactly by their replacement paths"⟩

omit [Sha256] in
/-- The target of `_validate_plan`, which may be `None`. -/
def optionalTarget (value : Option Text) (path : String) : Except CodecError (Option Text) :=
  match value with
  | none => .ok none
  | some target => do return some (← climateEntity (.str target) path)

/-- `_validate_plan`. -/
def validatePlan (value : MigrationPlan) : Except CodecError Unit := do
  let _ ← planId (.str value.planId) "migration_plan.plan_id"
  let _ ← fingerprint (.str value.digest) "migration_plan.digest"
  let _ ← string (.str value.roomId) "migration_plan.room_id" false
  let _ ← integer (intPayload value.roomRevision) "migration_plan.room_revision"
  let oldEntityId ← climateEntity (.str value.oldEntityId) "migration_plan.old_entity_id"
  let logicalUniqueId ←
    string (.str value.logicalUniqueId) "migration_plan.logical_unique_id" false
  check (isLogicalUniqueId logicalUniqueId = true)
    ⟨"migration_plan.logical_unique_id", "is malformed"⟩
  let targetEntityId ← optionalTarget value.targetEntityId "migration_plan.target_entity_id"
  let targets ← encodeProviderTargets value.providerTargets "migration_plan.provider_targets"
  check (∀ target ∈ targets, target.2 ≠ oldEntityId)
    ⟨"migration_plan.provider_targets", "contains an unsafe target"⟩
  check (∀ target ∈ targetEntityId, SameSet (targets.map Prod.snd) [target])
    ⟨"migration_plan.provider_targets", "must match the shared target entity ID"⟩
  check (value.providers = sortedBy id providerManifest)
    ⟨"migration_plan.providers", "must be the sorted provider manifest"⟩
  let _ ← boolean (boolPayload value.referencesExpected) "migration_plan.references_expected"
  forAll validateDocument value.documents
  let documentKeys := value.documents.map PlannedDocument.key
  check (documentKeys = sortedBy toLex documentKeys
      ∧ documentKeys.dedup.length = documentKeys.length)
    ⟨"migration_plan.documents", "must be unique and sorted by provider and object ID"⟩
  let exactReplacements ←
    integer (intPayload value.exactReplacements) "migration_plan.exact_replacements"
  check (exactReplacements = pathCount value.documents)
    ⟨"migration_plan.exact_replacements", "does not match exact paths"⟩
  let snapshots := value.documents.map fun item => {
    provider := item.provider, objectId := item.objectId, revision := item.revision
    writable := item.writable, fingerprint := item.postFingerprint : DocumentSnapshot }
  match validateJournaledCompletion (completionOf value snapshots) value.planId with
  | .ok () => return ()
  | .error message => throw ⟨"migration_plan", message⟩

/-- The keys of an encoded plan. -/
def planKeys : List Text :=
  ["plan_id".toList, "digest".toList, "room_id".toList, "room_revision".toList,
    "old_entity_id".toList, "logical_unique_id".toList, "target_entity_id".toList,
    "provider_targets".toList, "providers".toList, "references_expected".toList,
    "documents".toList, "exact_replacements".toList]

/-- `encode_migration_plan`. -/
def encodeMigrationPlan (value : MigrationPlan) : Except CodecError Payload := do
  validatePlan value
  let targets ← encodeProviderTargets value.providerTargets "migration_plan.provider_targets"
  let documents ← Checked.collect encodePlannedDocument value.documents
  return fieldsPayload [("plan_id", .str value.planId), ("digest", .str value.digest),
    ("room_id", .str value.roomId), ("room_revision", intPayload value.roomRevision),
    ("old_entity_id", .str value.oldEntityId),
    ("logical_unique_id", .str value.logicalUniqueId),
    ("target_entity_id", optionalPayload value.targetEntityId),
    ("provider_targets", targetsPayload targets),
    ("providers", .list (value.providers.map .str)),
    ("references_expected", boolPayload value.referencesExpected),
    ("documents", .list documents),
    ("exact_replacements", intPayload value.exactReplacements)]

omit [Sha256] in
/-- The target of `decode_migration_plan`, which may be `None`. -/
def decodeTargetEntity (value : Payload) (path : String) : Except CodecError (Option Text) :=
  match value with
  | .scalar ['N', 'o', 'n', 'e'] => .ok none
  | target => do return some (← climateEntity target path)

/-- `decode_migration_plan`. -/
def decodeMigrationPlan (value : Payload) : Except CodecError MigrationPlan := do
  let raw ← exactMapping value "migration_plan" (some planKeys)
  let providers ← enumerate provider "migration_plan.providers" 0
    (← exactList (field raw "providers") "migration_plan.providers")
  let documents ← Checked.collect decodePlannedDocument
    (← exactList (field raw "documents") "migration_plan.documents")
  let targetEntityId ←
    decodeTargetEntity (field raw "target_entity_id") "migration_plan.target_entity_id"
  let plan : MigrationPlan := {
    planId := ← planId (field raw "plan_id") "migration_plan.plan_id"
    digest := ← fingerprint (field raw "digest") "migration_plan.digest"
    roomId := ← string (field raw "room_id") "migration_plan.room_id" false
    roomRevision := ← integer (field raw "room_revision") "migration_plan.room_revision"
    oldEntityId := ← climateEntity (field raw "old_entity_id") "migration_plan.old_entity_id"
    logicalUniqueId :=
      ← string (field raw "logical_unique_id") "migration_plan.logical_unique_id" false
    targetEntityId := targetEntityId
    providerTargets :=
      ← decodeProviderTargets (field raw "provider_targets") "migration_plan.provider_targets"
    providers := providers
    referencesExpected :=
      ← boolean (field raw "references_expected") "migration_plan.references_expected"
    documents := documents
    exactReplacements :=
      ← integer (field raw "exact_replacements") "migration_plan.exact_replacements" }
  validatePlan plan
  return plan

end

end TrueFamily.Migration
