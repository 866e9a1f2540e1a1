import Mathlib.Data.Char
import Mathlib.Data.List.Dedup
import Mathlib.Data.List.Lex
import TrueFamily.Lib.Checked
import TrueFamily.Lib.Sorting
import TrueFamily.Projection.Template

/-!
# The scan for references

`scan_semantic_references` over a payload, and `_validate_config_entry_reference_template` of the
config-entry provider, which scans a template for the entities that its own pattern finds.
-/

namespace TrueFamily.Projection

open Checked Sorting
open JsonValue (Text utf8Length)

/-! ## Payloads and paths -/

/-- A payload. -/
inductive Payload
  | dict (entries : List (Text × Payload))
  | list (items : List Payload)
  | str (text : Text)
  /-- A scalar that is no string, by its `repr`. -/
  | scalar (text : Text)

/-- `PathPart`. -/
inductive PathPart
  | key (key : Text)
  | index (index : ℕ)
  deriving DecidableEq, Repr

/-- `ReferencePath`. -/
abbrev ReferencePath := List PathPart

/-- `BlockedSemanticReference`. -/
structure BlockedSemanticReference where
  path : ReferencePath
  text : Text
  mappingKey : Bool
  deriving DecidableEq, Repr

/-- `SemanticReferenceScan`. -/
structure SemanticReferenceScan where
  replaceablePaths : List ReferencePath
  blocked : List BlockedSemanticReference
  deriving DecidableEq, Repr

instance : Append SemanticReferenceScan where
  append first second := ⟨first.replaceablePaths ++ second.replaceablePaths,
    first.blocked ++ second.blocked⟩

/-! ## Fields -/

/-- `_COMMON_SCALAR_REFERENCE_FIELDS`. -/
def commonScalarReferenceFields : List Text :=
  ["climate_entity".toList, "entities".toList, "entity".toList, "entity_id".toList,
    "heater".toList, "source_entity".toList, "target".toList, "target_sensor".toList,
    "temperature_sensor".toList]

/-- `_SCALAR_FIELDS_BY_PROVIDER.get(provider, frozenset())`, or the common fields. -/
def scalarFields : Option Text → List Text
  | none => commonScalarReferenceFields
  | some provider =>
    if provider ∈ ["active_yaml".toList, "config_entry".toList] then commonScalarReferenceFields
    else if provider = "lovelace".toList then "camera_image".toList :: commonScalarReferenceFields
    else if provider ∈ ["external_writers".toList, "scheduler".toList] then
      ["entities".toList, "entity_id".toList, "target".toList]
    else []

/-- `_TEMPLATE_PROVIDERS`. -/
def templateProviders : List Text :=
  ["active_yaml".toList, "config_entry".toList, "lovelace".toList]

/-- `_TEMPLATE_FIELDS`. -/
def templateFields : List Text :=
  ["availability_template".toList, "condition".toList, "entity_picture_template".toList,
    "icon_template".toList, "state".toList, "state_template".toList, "template".toList,
    "value_template".toList]

/-- The key of a part of a path. -/
def PathPart.key? : PathPart → Option Text
  | .key field => some field
  | .index _ => none

/-- `_is_scalar_reference_path`. -/
def isScalarReferencePath (path : ReferencePath) (provider : Option Text) : Bool :=
  (path.reverse.findSome? PathPart.key?).any fun field => (scalarFields provider).contains field

/-- `_is_template_path`. -/
def isTemplatePath (path : ReferencePath) : Bool :=
  (path.getLast?.bind PathPart.key?).any fun field => templateFields.contains field

/-- `"{{" in value or "{%" in value`. -/
def hasJinja (text : Text) : Bool :=
  (Splitting.find "\x7b\x7b".toList text).isSome || (Splitting.find "\x7b%".toList text).isSome

/-! ## The scan -/

section

variable [JinjaParser]

/-- The scan of a string. -/
def scanText (oldEntityId : Text) (provider : Option Text) (text : Text) (path : ReferencePath) :
    SemanticReferenceScan :=
  let replaceable : SemanticReferenceScan := ⟨[path], []⟩
  let blocked : SemanticReferenceScan := ⟨[], [⟨path, text, false⟩]⟩
  let nothing : SemanticReferenceScan := ⟨[], []⟩
  if text = oldEntityId then
    if isScalarReferencePath path provider then replaceable else blocked
  else if hasJinja text then
    let analysis := analyzeTemplate text oldEntityId
    if isScalarReferencePath path provider then blocked
    else if !isTemplatePath path || provider.any (!templateProviders.contains ·) then
      if analysis.blocked || decide (analysis.replaceableCount ≠ 0) then blocked else nothing
    else if analysis.blocked || decide (1 < analysis.replaceableCount) then blocked
    else if analysis.replaceableCount = 1 then replaceable
    else nothing
  else if containsCompleteEntity text oldEntityId then blocked
  else nothing

/-- The scan of a key. -/
def scanKey (oldEntityId key : Text) (path : ReferencePath) : SemanticReferenceScan :=
  if containsCompleteEntity key oldEntityId then ⟨[], [⟨path, key, true⟩]⟩ else ⟨[], []⟩

mutual

/-- `walk`. -/
def walk (oldEntityId : Text) (provider : Option Text) : Payload → ReferencePath →
    SemanticReferenceScan
  | .dict entries, path =>
    ((sortedBy Prod.fst (walkEntries oldEntityId provider entries path)).map Prod.snd).foldr
      (· ++ ·) ⟨[], []⟩
  | .list items, path => walkItems oldEntityId provider items path 0
  | .str text, path => scanText oldEntityId provider text path
  | .scalar _, _ => ⟨[], []⟩

/-- The entries of a `dict`, each with its key. -/
def walkEntries (oldEntityId : Text) (provider : Option Text) : List (Text × Payload) →
    ReferencePath → List (Text × SemanticReferenceScan)
  | [], _ => []
  | (key, value) :: entries, path =>
    (key, scanKey oldEntityId key (path ++ [.key key])
        ++ walk oldEntityId provider value (path ++ [.key key]))
      :: walkEntries oldEntityId provider entries path

def walkItems (oldEntityId : Text) (provider : Option Text) : List Payload → ReferencePath → ℕ →
    SemanticReferenceScan
  | [], _, _ => ⟨[], []⟩
  | item :: items, path, index => walk oldEntityId provider item (path ++ [.index index])
      ++ walkItems oldEntityId provider items path (index + 1)

end

/-- `scan_semantic_references`; nothing where it raises `ValueError`. -/
def scanSemanticReferences (payload : Payload) (oldEntityId : Text) (provider : Option Text) :
    Option SemanticReferenceScan :=
  if oldEntityId ≠ [] ∧ provider ≠ some [] then some (walk oldEntityId provider payload [])
  else none

/-! ## Templates of config entries -/

/-- `ConfigEntryReferenceSnapshotError`, and the `ValueError` of a scan. -/
inductive EntryError
  | snapshot (message : String)
  | value
  deriving DecidableEq, Repr

/-- `_CONFIG_ENTRY_REFERENCE_TEMPLATE_MAX_BYTES`. -/
def templateMaxBytes : ℕ := 16384

/-- `_CONFIG_ENTRY_REFERENCE_TEMPLATE_MAX_ENTITIES`. -/
def templateMaxEntities : ℕ := 64

/-- `_CONFIG_ENTRY_REFERENCE_VALIDATION_ENTITY`. -/
def validationEntity : Text := "sensor.true_family_reference_validation_sentinel".toList

/-- The scan of a template under its field, for one entity. -/
def checkEntity (field value entityId : Text) : Except EntryError Unit :=
  match scanSemanticReferences (.dict [(field, .str value)]) entityId
      (some "config_entry".toList) with
  | none => .error .value
  | some scan =>
    check (scan.blocked = [])
      (.snapshot "Config-entry reference template is dynamic or ambiguous.")

/-- The loop over the entities. -/
def checkEntities (field value : Text) : List Text → Except EntryError Unit
  | [] => .ok ()
  | entityId :: entityIds => do
    checkEntity field value entityId
    checkEntities field value entityIds

/-- `_validate_config_entry_reference_template`. The text has no lone surrogate, which `encode`
would refuse. -/
def validateConfigEntryReferenceTemplate (field value : Text) : Except EntryError Text := do
  check ((field = "availability_template".toList ∨ field = "state".toList) ∧ value ≠ []
      ∧ '\x00' ∉ value ∧ value.length ≤ templateMaxBytes ∧ utf8Length value ≤ templateMaxBytes)
    (.snapshot "Selected config-entry reference object has an invalid shape.")
  let entityIds := (foundEntities value).dedup
  check (entityIds.length ≤ templateMaxEntities)
    (.snapshot "Config-entry reference template is too complex.")
  checkEntities field value (sortedBy id (validationEntity :: entityIds).dedup)
  return value

end

end TrueFamily.Projection
