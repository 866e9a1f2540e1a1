import TrueFamily.Migration.Codec
import TrueFamily.Migration.Order

/-!
# Plans are stored

What the store encodes it decodes to the same plan (`decode_encode`), and it encodes every issued
plan whose documents change exactly where they have paths; where SHA-256 has no collision between
a payload and what it becomes, that is every issued plan.
-/

namespace TrueFamily.Migration

open Checked Sorting
open JsonValue (Text intText intOfText isHex)
open Projection hiding collect

/-! ## Fields are read back -/

section

variable {path : String}

theorem string_str {text text' : Text} {allowEmpty : Bool} :
    string (.str text) path allowEmpty = .ok text' ↔
      (allowEmpty = true ∨ text ≠ []) ∧ text' = text := by
  unfold string
  simp only
  split
  · rename_i h
    simp [h.1, h.2]
  · cases allowEmpty <;> simp_all [eq_comm]

theorem matching_str {accepts : Text → Bool} {message : String} {text text' : Text} :
    matching accepts message (.str text) path = .ok text' ↔
      text ≠ [] ∧ accepts text = true ∧ text' = text := by
  unfold matching
  simp only [bind_eq_ok, exists_unit, string_str, check_eq_ok, pure_eq_ok]
  constructor
  · rintro ⟨_, ⟨hne, rfl⟩, haccepts, rfl⟩
    exact ⟨hne.resolve_left (by simp), haccepts, rfl⟩
  · rintro ⟨hne, haccepts, rfl⟩
    exact ⟨_, ⟨Or.inr hne, rfl⟩, haccepts, rfl⟩

theorem readInt_intPayload (value : ℤ) : readInt (intPayload value) = some value := by
  unfold readInt intPayload
  simp only [JsonValue.intOfText_intText, if_true]

theorem integer_intPayload {value value' : ℤ} :
    integer (intPayload value) path = .ok value' ↔ 0 ≤ value ∧ value' = value := by
  rw [integer, readInt_intPayload]
  simp only
  split
  · rename_i h
    simp [h]
  · rename_i h
    rw [Except.ok.injEq]
    exact ⟨fun heq => ⟨not_lt.1 h, heq.symm⟩, fun heq => heq.2.symm⟩

theorem boolean_boolPayload (value : Bool) : boolean (boolPayload value) path = .ok value := by
  cases value <;> rfl

theorem exactMapping_fieldsPayload {fields : List (String × Payload)} {keys : List Text}
    (h : fields.map (fun field => field.1.toList) = keys) :
    exactMapping (fieldsPayload fields) path (some keys) =
      .ok (fields.map fun field => (field.1.toList, field.2)) := by
  have hkeys : (fields.map fun field => (field.1.toList, field.2)).map Prod.fst = keys := by
    rw [List.map_map]
    exact h
  have hsame : SameSet ((fields.map fun field => (field.1.toList, field.2)).map Prod.fst) keys :=
    hkeys ▸ ⟨List.Subset.refl _, List.Subset.refl _⟩
  unfold fieldsPayload exactMapping
  exact bind_unit_eq_ok.2 ⟨check_eq_ok.2 hsame, rfl⟩

theorem field_cons_self {key : String} {value : Payload} {raw : List (Text × Payload)} :
    field ((key.toList, value) :: raw) key = value := by
  simp [field]

theorem field_cons_ne {first key : String} (h : first ≠ key) {value : Payload}
    {raw : List (Text × Payload)} : field ((first.toList, value) :: raw) key = field raw key := by
  have hne : first.toList ≠ key.toList := fun heq => h (String.toList_inj.1 heq)
  rw [field, field, List.find?_cons, decide_eq_false hne]

theorem enumerate_eq_ok {α β : Type} {body : α → String → Except CodecError β} {f : β → α} :
    ∀ {values : List β} {index : ℕ}, (∀ value ∈ values, ∀ path, body (f value) path = .ok value) →
      enumerate body path index (values.map f) = .ok values
  | [], _, _ => rfl
  | value :: values, index, h => by
    obtain ⟨hvalue, hvalues⟩ := List.forall_mem_cons.1 h
    rw [List.map_cons, enumerate, hvalue, enumerate_eq_ok hvalues]
    rfl

/-! ## Revisions and paths -/

theorem decodeRevision_encode {value : Revision} (h : value ≠ .string []) :
    decodeRevision (canonicalRevision value) path = .ok value := by
  cases value with
  | integer value =>
    refine bind_eq_ok.2 ⟨_, exactMapping_fieldsPayload rfl, ?_⟩
    simp (disch := decide) only [List.map_cons, List.map_nil, field_cons_self, field_cons_ne]
    refine bind_eq_ok.2 ⟨_, string_str.2 ⟨Or.inr (by decide), rfl⟩, ?_⟩
    rw [if_pos rfl, readInt_intPayload]
    rfl
  | string value =>
    refine bind_eq_ok.2 ⟨_, exactMapping_fieldsPayload rfl, ?_⟩
    simp (disch := decide) only [List.map_cons, List.map_nil, field_cons_self, field_cons_ne]
    refine bind_eq_ok.2 ⟨_, string_str.2 ⟨Or.inr (by decide), rfl⟩, ?_⟩
    rw [if_neg (by decide), if_pos rfl]
    exact bind_eq_ok.2 ⟨value, string_str.2 ⟨Or.inr fun hnil => h (hnil ▸ rfl), rfl⟩, rfl⟩

theorem decodePart_encode (part : PathPart) : decodePart (canonicalPart part) path = .ok part := by
  cases part with
  | index index =>
    refine bind_eq_ok.2 ⟨_, exactMapping_fieldsPayload rfl, ?_⟩
    simp (disch := decide) only [List.map_cons, List.map_nil, field_cons_self, field_cons_ne]
    refine bind_eq_ok.2 ⟨_, string_str.2 ⟨Or.inr (by decide), rfl⟩, ?_⟩
    rw [if_pos rfl]
    exact bind_eq_ok.2 ⟨index, integer_intPayload.2 ⟨Int.natCast_nonneg _, rfl⟩, rfl⟩
  | key key =>
    refine bind_eq_ok.2 ⟨_, exactMapping_fieldsPayload rfl, ?_⟩
    simp (disch := decide) only [List.map_cons, List.map_nil, field_cons_self, field_cons_ne]
    refine bind_eq_ok.2 ⟨_, string_str.2 ⟨Or.inr (by decide), rfl⟩, ?_⟩
    rw [if_neg (by decide), if_pos rfl]
    exact bind_eq_ok.2 ⟨key, string_str.2 ⟨Or.inl rfl, rfl⟩, rfl⟩

theorem decodePath_encode (value : ReferencePath) :
    decodePath (encodePath value) path = .ok value :=
  enumerate_eq_ok fun part _ _ => decodePart_encode part

end

/-! ## Documents -/

/-- What an encoded document is. -/
structure DocumentValid (document : PlannedDocument) : Prop where
  provider : document.provider ∈ providerManifest
  objectId : document.objectId ≠ []
  revision : document.revision ≠ .string []
  fingerprint : isDigest document.fingerprint = true
  postFingerprint : isDigest document.postFingerprint = true
  paths : document.exactPaths.Nodup

/-- The text of a document that is valid. -/
def documentPayload (value : PlannedDocument) : Payload :=
  fieldsPayload [("provider", .str value.provider), ("object_id", .str value.objectId),
    ("revision", canonicalRevision value.revision), ("writable", boolPayload value.writable),
    ("fingerprint", .str value.fingerprint), ("post_fingerprint", .str value.postFingerprint),
    ("exact_paths", .list (value.exactPaths.map encodePath))]

theorem nil_not_digest : isDigest [] = false := by decide

theorem fingerprint_str {text text' : Text} {path : String} :
    fingerprint (.str text) path = .ok text' ↔ isDigest text = true ∧ text' = text := by
  rw [fingerprint, matching_str]
  refine ⟨fun h => h.2, fun h => ⟨fun hnil => ?_, h⟩⟩
  rw [hnil, nil_not_digest] at h
  cases h.1

theorem provider_str {text text' : Text} {path : String} :
    provider (.str text) path = .ok text' ↔ text ∈ providerManifest ∧ text' = text := by
  rw [provider, matching_str, List.contains_iff_mem]
  refine ⟨fun h => h.2, fun h => ⟨fun hnil => ?_, h⟩⟩
  exact absurd (hnil ▸ h.1) (by decide)

theorem climateEntity_str {text text' : Text} {path : String} :
    climateEntity (.str text) path = .ok text' ↔ isClimateEntity text = true ∧ text' = text := by
  rw [climateEntity, matching_str]
  refine ⟨fun h => h.2, fun h => ⟨fun hnil => ?_, h⟩⟩
  rw [hnil, nil_not_climate] at h
  cases h.1

theorem encodePlannedDocument_eq_ok {document : PlannedDocument} {data : Payload} :
    encodePlannedDocument document = .ok data ↔
      DocumentValid document ∧ data = documentPayload document := by
  unfold encodePlannedDocument encodeRevision
  simp only [bind_eq_ok, exists_unit, check_eq_ok, provider_str, string_str, fingerprint_str,
    boolean_boolPayload, pure_eq_ok, dedup_length_eq_iff, Bool.false_eq_true, false_or,
    Except.ok.injEq]
  constructor
  · rintro ⟨hpaths, _, ⟨hprovider, rfl⟩, _, ⟨hobject, rfl⟩, _, ⟨hrevision, rfl⟩, _, rfl, _,
      ⟨hpre, rfl⟩, _, ⟨hpost, rfl⟩, rfl⟩
    exact ⟨⟨hprovider, hobject, hrevision, hpre, hpost, hpaths⟩, rfl⟩
  · rintro ⟨h, rfl⟩
    exact ⟨h.paths, _, ⟨h.provider, rfl⟩, _, ⟨h.objectId, rfl⟩, _, ⟨h.revision, rfl⟩, _, rfl, _,
      ⟨h.fingerprint, rfl⟩, _, ⟨h.postFingerprint, rfl⟩, rfl⟩

theorem decodePlannedDocument_encode {document : PlannedDocument} (h : DocumentValid document) :
    decodePlannedDocument (documentPayload document) = .ok document := by
  have hpaths : enumerate decodePath "planned_document.exact_paths" 0
      (document.exactPaths.map encodePath) = .ok document.exactPaths :=
    enumerate_eq_ok fun value _ _ => decodePath_encode value
  unfold decodePlannedDocument
  refine bind_eq_ok.2 ⟨_, exactMapping_fieldsPayload rfl, ?_⟩
  simp (disch := decide) only [List.map_cons, List.map_nil, field_cons_self, field_cons_ne]
  exact bind_eq_ok.2 ⟨_, rfl, bind_eq_ok.2
    ⟨_, hpaths, bind_unit_eq_ok.2 ⟨check_eq_ok.2 (dedup_length_eq_iff.2 h.paths), bind_eq_ok.2
    ⟨_, provider_str.2 ⟨h.provider, rfl⟩, bind_eq_ok.2 ⟨_, string_str.2 ⟨Or.inr h.objectId, rfl⟩,
    bind_eq_ok.2 ⟨_, decodeRevision_encode h.revision, bind_eq_ok.2
    ⟨_, boolean_boolPayload document.writable, bind_eq_ok.2
    ⟨_, fingerprint_str.2 ⟨h.fingerprint, rfl⟩, bind_eq_ok.2
    ⟨_, fingerprint_str.2 ⟨h.postFingerprint, rfl⟩, rfl⟩⟩⟩⟩⟩⟩⟩⟩⟩

/-! ## Targets -/

theorem encodeTargets_eq_ok {path : String} {items result : List (Text × Text)} {index : ℕ}
    {targets : List (Text × Text)} :
    encodeTargets path index targets items = .ok result ↔
      (∀ item ∈ items, item.1 ∈ providerManifest ∧ isClimateEntity item.2 = true)
        ∧ (items.map Prod.fst).Nodup ∧ (∀ item ∈ items, item.1 ∉ targets.map Prod.fst)
        ∧ result = targets ++ items := by
  induction items generalizing index targets with
  | nil =>
    rw [encodeTargets, Except.ok.injEq, List.append_nil]
    exact ⟨fun h => by simp [h], fun h => h.2.2.2.symm⟩
  | cons item items ih =>
    rw [encodeTargets]
    simp only [bind_eq_ok, exists_unit, check_eq_ok, provider_str, climateEntity_str, ih,
      List.map_append, List.map_cons, List.map_nil, List.mem_append, List.mem_singleton, not_or,
      List.append_assoc, List.singleton_append, List.nodup_cons, List.forall_mem_cons]
    constructor
    · rintro ⟨_, ⟨hprovider, rfl⟩, hfresh, _, ⟨hclimate, rfl⟩, hitems, hnodup, hnew, rfl⟩
      refine ⟨⟨⟨hprovider, hclimate⟩, hitems⟩, ⟨fun hmem => ?_, hnodup⟩,
        ⟨hfresh, fun other hmem => (hnew other hmem).1⟩, rfl⟩
      obtain ⟨other, hother, heq⟩ := List.mem_map.1 hmem
      exact (hnew other hother).2 heq
    · rintro ⟨⟨⟨hprovider, hclimate⟩, hitems⟩, ⟨hdistinct, hnodup⟩, ⟨hfresh, hnew⟩, rfl⟩
      refine ⟨_, ⟨hprovider, rfl⟩, hfresh, _, ⟨hclimate, rfl⟩, hitems, hnodup,
        fun other hmem => ⟨hnew other hmem, fun heq => ?_⟩, rfl⟩
      exact hdistinct (List.mem_map.2 ⟨other, hmem, heq⟩)

/-- Targets that are encoded. -/
structure TargetsValid (targets : List (Text × Text)) : Prop where
  climate : ∀ target ∈ targets, isClimateEntity target.2 = true
  distinct : (targets.map Prod.fst).Nodup
  covered : SameSet (targets.map Prod.fst) providerManifest
  sorted : sortedBy toLex targets = targets

theorem TargetsValid.sorted_fst {targets : List (Text × Text)} (h : TargetsValid targets) :
    sortedBy Prod.fst targets = targets := by
  refine sortedBy_eq_self_iff.2 ((sortedBy_eq_self_iff.1 h.sorted).imp fun hle => ?_)
  rcases Prod.Lex.toLex_le_toLex.1 hle with hlt | ⟨heq, -⟩
  · exact le_of_lt hlt
  · exact le_of_eq heq

theorem encodeProviderTargets_eq_ok {value result : List (Text × Text)} {path : String} :
    encodeProviderTargets value path = .ok result ↔ TargetsValid value ∧ result = value := by
  unfold encodeProviderTargets
  simp only [bind_eq_ok, exists_unit, check_eq_ok, encodeTargets_eq_ok, pure_eq_ok]
  constructor
  · rintro ⟨targets, ⟨hitems, hnodup, -, htargets⟩, hcovered, hsorted, rfl⟩
    rw [List.nil_append] at htargets
    rw [htargets] at hcovered hsorted ⊢
    have hvalid : TargetsValid value :=
      ⟨fun target hmem => (hitems target hmem).2, hnodup, hcovered, hsorted.symm⟩
    exact ⟨hvalid, hvalid.sorted_fst⟩
  · rintro ⟨h, rfl⟩
    refine ⟨result, ⟨fun target hmem => ⟨h.covered.1 (List.mem_map_of_mem hmem),
      h.climate target hmem⟩, h.distinct, fun _ _ => List.not_mem_nil, rfl⟩, h.covered,
      h.sorted.symm, h.sorted_fst.symm⟩

theorem decodeProviderTargets_encode {targets : List (Text × Text)} {path : String}
    (h : TargetsValid targets) :
    decodeProviderTargets (targetsPayload targets) path = .ok targets := by
  have hkeys : (targets.map fun target => (target.1, Payload.str target.2)).map Prod.fst =
      targets.map Prod.fst := by
    rw [List.map_map]
    rfl
  have hsorted : sortedBy Prod.fst (targets.map fun target => (target.1, Payload.str target.2)) =
      targets.map fun target => (target.1, Payload.str target.2) := by
    refine sortedBy_eq_self_iff.2 (List.pairwise_map.2 ?_)
    exact sortedBy_eq_self_iff.1 h.sorted_fst
  refine bind_eq_ok.2 ⟨_, rfl, bind_unit_eq_ok.2 ⟨check_eq_ok.2 (hkeys ▸ h.covered), ?_⟩⟩
  rw [hsorted, collect_eq_ok, List.forall₂_map_left_iff]
  refine List.forall₂_same.2 fun target hmem => ?_
  exact bind_eq_ok.2 ⟨_, provider_str.2 ⟨h.covered.1 (List.mem_map_of_mem hmem), rfl⟩,
    bind_eq_ok.2 ⟨_, climateEntity_str.2 ⟨h.climate target hmem, rfl⟩, rfl⟩⟩

/-! ## Plans -/

section

variable [Sha256]

/-- A plan that the store accepts. -/
structure PlanValid (plan : MigrationPlan) : Prop where
  planId : isPlanId plan.planId = true
  digest : isDigest plan.digest = true
  roomId : plan.roomId ≠ []
  roomRevision : 0 ≤ plan.roomRevision
  oldEntityId : isClimateEntity plan.oldEntityId = true
  logicalUniqueId : isLogicalUniqueId plan.logicalUniqueId = true
  target : ∀ target, plan.targetEntityId = some target → isClimateEntity target = true
  targets : TargetsValid plan.providerTargets
  safe : ∀ target ∈ plan.providerTargets, target.2 ≠ plan.oldEntityId
  shared : ∀ target, plan.targetEntityId = some target →
    SameSet (plan.providerTargets.map Prod.snd) [target]
  providers : plan.providers = providerManifest
  documents : ∀ document ∈ plan.documents, DocumentValid document
  changes : ChangesExact plan
  ordered : plan.documents.map PlannedDocument.key =
    sortedBy toLex (plan.documents.map PlannedDocument.key)
  distinct : (plan.documents.map PlannedDocument.key).Nodup
  count : plan.exactReplacements = pathCount plan.documents
  completed : validateJournaledCompletion (completionOf plan (plan.documents.map fun item => {
    provider := item.provider, objectId := item.objectId, revision := item.revision
    writable := item.writable, fingerprint := item.postFingerprint : DocumentSnapshot }))
      plan.planId = .ok ()

omit [Sha256] in
theorem nil_not_planId : isPlanId [] = false := by decide

omit [Sha256] in
theorem planId_str {text text' : Text} {path : String} :
    planId (.str text) path = .ok text' ↔ isPlanId text = true ∧ text' = text := by
  rw [planId, matching_str]
  refine ⟨fun h => h.2, fun h => ⟨fun hnil => ?_, h⟩⟩
  rw [hnil, nil_not_planId] at h
  cases h.1

omit [Sha256] in
theorem optionalTarget_eq_ok {value result : Option Text} {path : String} :
    optionalTarget value path = .ok result ↔
      (∀ target, value = some target → isClimateEntity target = true) ∧ result = value := by
  cases value with
  | none =>
    rw [optionalTarget, Except.ok.injEq]
    exact ⟨fun h => ⟨fun _ hsome => (nomatch hsome), h.symm⟩, fun h => h.2.symm⟩
  | some target =>
    simp only [optionalTarget, bind_eq_ok, climateEntity_str, pure_eq_ok]
    constructor
    · rintro ⟨_, ⟨hclimate, rfl⟩, rfl⟩
      exact ⟨fun other heq => Option.some.inj heq ▸ hclimate, rfl⟩
    · rintro ⟨hclimate, rfl⟩
      exact ⟨target, ⟨hclimate target rfl, rfl⟩, rfl⟩

omit [Sha256] in
theorem decodeTargetEntity_encode {value : Option Text} {path : String}
    (h : ∀ target, value = some target → isClimateEntity target = true) :
    decodeTargetEntity (optionalPayload value) path = .ok value := by
  cases value with
  | none => rfl
  | some target => exact bind_eq_ok.2 ⟨_, climateEntity_str.2 ⟨h target rfl, rfl⟩, rfl⟩

omit [Sha256] in
theorem validateDocument_eq_ok {document : PlannedDocument} :
    validateDocument document = .ok () ↔ DocumentValid document ∧
      (document.fingerprint ≠ document.postFingerprint ↔ document.exactPaths ≠ []) := by
  unfold validateDocument
  simp only [bind_eq_ok, encodePlannedDocument_eq_ok, check_eq_ok]
  constructor
  · rintro ⟨_, ⟨h, -⟩, hchange⟩
    exact ⟨h, hchange⟩
  · rintro ⟨h, hchange⟩
    exact ⟨_, ⟨h, rfl⟩, hchange⟩

theorem validatePlan_eq_ok {plan : MigrationPlan} :
    validatePlan plan = .ok () ↔ PlanValid plan := by
  have hmanifest : sortedBy id providerManifest = providerManifest := by decide +kernel
  unfold validatePlan
  simp only [bind_eq_ok, exists_unit, check_eq_ok, planId_str, fingerprint_str, string_str,
    integer_intPayload, climateEntity_str, optionalTarget_eq_ok, encodeProviderTargets_eq_ok,
    boolean_boolPayload, forAll_eq_ok, validateDocument_eq_ok, dedup_length_eq_iff, hmanifest,
    Bool.false_eq_true, false_or]
  constructor
  · rintro ⟨_, ⟨hplanId, rfl⟩, _, ⟨hdigest, rfl⟩, _, ⟨hroom, rfl⟩, _, ⟨hrevision, rfl⟩, _,
      ⟨hold, rfl⟩, _, ⟨-, rfl⟩, hlogical, _, ⟨htarget, rfl⟩, _, ⟨htargets, rfl⟩, hsafe, hshared,
      hproviders, _, -, hdocuments, ⟨hordered, hdistinct⟩, _, ⟨-, rfl⟩, hcount, hcompleted⟩
    refine ⟨hplanId, hdigest, hroom, hrevision, hold, hlogical, htarget, htargets, hsafe, hshared,
      hproviders, fun document hmem => (hdocuments document hmem).1,
      fun document hmem => (hdocuments document hmem).2, hordered, hdistinct, hcount, ?_⟩
    split at hcompleted
    · assumption
    · cases hcompleted
  · intro h
    refine ⟨_, ⟨h.planId, rfl⟩, _, ⟨h.digest, rfl⟩, _, ⟨h.roomId, rfl⟩, _, ⟨h.roomRevision, rfl⟩,
      _, ⟨h.oldEntityId, rfl⟩, _, ⟨?_, rfl⟩, h.logicalUniqueId, _, ⟨h.target, rfl⟩, _,
      ⟨h.targets, rfl⟩, h.safe, h.shared, h.providers, _, rfl,
      fun document hmem => ⟨h.documents document hmem, h.changes document hmem⟩,
      ⟨h.ordered, h.distinct⟩, _, ⟨?_, rfl⟩, h.count, ?_⟩
    · intro hnil
      have hlogical := h.logicalUniqueId
      rw [hnil, nil_not_logical] at hlogical
      cases hlogical
    · rw [h.count]
      exact Int.natCast_nonneg _
    · rw [h.completed]
      rfl

theorem encodeMigrationPlan_eq_ok {plan : MigrationPlan} {data : Payload} :
    encodeMigrationPlan plan = .ok data ↔ PlanValid plan ∧
      data = fieldsPayload [("plan_id", .str plan.planId), ("digest", .str plan.digest),
        ("room_id", .str plan.roomId), ("room_revision", intPayload plan.roomRevision),
        ("old_entity_id", .str plan.oldEntityId),
        ("logical_unique_id", .str plan.logicalUniqueId),
        ("target_entity_id", optionalPayload plan.targetEntityId),
        ("provider_targets", targetsPayload plan.providerTargets),
        ("providers", .list (plan.providers.map .str)),
        ("references_expected", boolPayload plan.referencesExpected),
        ("documents", .list (plan.documents.map documentPayload)),
        ("exact_replacements", intPayload plan.exactReplacements)] := by
  have hcollect (h : PlanValid plan) : Checked.collect encodePlannedDocument plan.documents =
      .ok (plan.documents.map documentPayload) := by
    rw [collect_eq_ok, List.forall₂_map_right_iff]
    exact List.forall₂_same.2 fun document hmem =>
      encodePlannedDocument_eq_ok.2 ⟨h.documents document hmem, rfl⟩
  unfold encodeMigrationPlan
  simp only [bind_unit_eq_ok, validatePlan_eq_ok]
  refine and_congr_right fun h => ?_
  simp only [bind_eq_ok, encodeProviderTargets_eq_ok, hcollect h, Except.ok.injEq, pure_eq_ok]
  constructor
  · rintro ⟨_, ⟨-, rfl⟩, _, rfl, rfl⟩
    rfl
  · rintro rfl
    exact ⟨_, ⟨h.targets, rfl⟩, _, rfl, rfl⟩

/-- What is encoded is decoded to the same plan. -/
theorem decode_encode {plan : MigrationPlan} {data : Payload}
    (h : encodeMigrationPlan plan = .ok data) : decodeMigrationPlan data = .ok plan := by
  obtain ⟨hvalid, rfl⟩ := encodeMigrationPlan_eq_ok.1 h
  have hproviders : enumerate provider "migration_plan.providers" 0
      (plan.providers.map .str) = .ok plan.providers :=
    enumerate_eq_ok fun name hmem _ => provider_str.2 ⟨hvalid.providers ▸ hmem, rfl⟩
  have hdocuments : Checked.collect decodePlannedDocument (plan.documents.map documentPayload) =
      .ok plan.documents := by
    rw [collect_eq_ok, List.forall₂_map_left_iff]
    exact List.forall₂_same.2 fun document hmem =>
      decodePlannedDocument_encode (hvalid.documents document hmem)
  unfold decodeMigrationPlan
  refine bind_eq_ok.2 ⟨_, exactMapping_fieldsPayload rfl, ?_⟩
  simp (disch := decide) only [List.map_cons, List.map_nil, field_cons_self, field_cons_ne]
  refine bind_eq_ok.2 ⟨_, rfl, bind_eq_ok.2
    ⟨_, hproviders, bind_eq_ok.2 ⟨_, rfl, bind_eq_ok.2 ⟨_, hdocuments, bind_eq_ok.2
    ⟨_, decodeTargetEntity_encode hvalid.target,
    bind_eq_ok.2 ⟨_, planId_str.2 ⟨hvalid.planId, rfl⟩, bind_eq_ok.2
    ⟨_, fingerprint_str.2 ⟨hvalid.digest, rfl⟩, bind_eq_ok.2
    ⟨_, string_str.2 ⟨Or.inr hvalid.roomId, rfl⟩, bind_eq_ok.2
    ⟨_, integer_intPayload.2 ⟨hvalid.roomRevision, rfl⟩, bind_eq_ok.2
    ⟨_, climateEntity_str.2 ⟨hvalid.oldEntityId, rfl⟩, bind_eq_ok.2
    ⟨_, string_str.2 ⟨Or.inr ?_, rfl⟩, bind_eq_ok.2
    ⟨_, decodeProviderTargets_encode hvalid.targets, bind_eq_ok.2
    ⟨_, boolean_boolPayload plan.referencesExpected, bind_eq_ok.2
    ⟨_, integer_intPayload.2 ⟨?_, rfl⟩, bind_unit_eq_ok.2
    ⟨validatePlan_eq_ok.2 hvalid, rfl⟩⟩⟩⟩⟩⟩⟩⟩⟩⟩⟩⟩⟩⟩⟩
  · intro hnil
    have hlogical := hvalid.logicalUniqueId
    rw [hnil, nil_not_logical] at hlogical
    cases hlogical
  · rw [hvalid.count]
    exact Int.natCast_nonneg _

/-! ## Issued plans are encoded -/

omit [Sha256] in
theorem isDigest_iff {text : Text} :
    isDigest text = true ↔ text.length = 64 ∧ ∀ c ∈ text, isHex c = true := by
  rw [isDigest, Bool.and_eq_true, decide_eq_true_iff, List.all_eq_true]

omit [Sha256] in
theorem length_start : "tf-reference-".toList.length = 13 := by decide +kernel

theorem length_planIdOf (digest : Text) : (planIdOf digest).length = 37 := by
  have hlength := (isDigest_iff.1 (isDigest_hexdigest ("reference-plan:".toList ++ digest))).1
  unfold planIdOf
  rw [List.length_append, List.length_take, hlength, length_start]
  decide

theorem drop_planIdOf (digest : Text) : (planIdOf digest).drop 13 =
    (hexdigest ("reference-plan:".toList ++ digest)).take 24 :=
  List.drop_left' length_start

theorem isPlanId_planIdOf (digest : Text) : isPlanId (planIdOf digest) = true := by
  have hhex := (isDigest_iff.1 (isDigest_hexdigest ("reference-plan:".toList ++ digest))).2
  rw [isPlanId, drop_planIdOf, length_planIdOf, Bool.and_eq_true, Bool.and_eq_true,
    List.isPrefixOf_iff_prefix, List.all_eq_true]
  exact ⟨⟨List.prefix_append _ _, rfl⟩, fun c hmem => hhex c (List.mem_of_mem_take hmem)⟩

theorem Sound.planValid {plan : MigrationPlan} (h : Sound plan) (hchanges : ChangesExact plan) :
    PlanValid plan := by
  have hsome : plan.providerTargets ≠ [] := by
    intro hnil
    have hcovered := h.covered
    rw [hnil] at hcovered
    cases hcovered
  refine
    { planId := h.planId ▸ isPlanId_planIdOf _, digest := ?_, roomId := h.roomId
      roomRevision := h.roomRevision, oldEntityId := h.oldEntityId
      logicalUniqueId := h.logicalUniqueId, target := fun target heq => (h.shared target heq).1
      targets := ⟨h.climate, ?_, ?_, h.sorted⟩, safe := h.safe, shared := ?_
      providers := h.providers
      documents := fun document hmem => ⟨h.known document hmem, h.objectIds document hmem,
        h.revisions document hmem, (h.fingerprints document hmem).1,
        (h.fingerprints document hmem).2, h.paths document hmem⟩
      changes := hchanges, ordered := ?_, distinct := h.distinct, count := h.count
      completed := validateJournaledCompletion_of_sound h ⟨?_, ?_, ?_⟩ }
  · rw [h.digest]
    exact isDigest_hexdigest _
  · rw [h.covered]
    decide
  · rw [h.covered]
    exact ⟨List.Subset.refl _, List.Subset.refl _⟩
  · intro target heq
    have hall := (h.shared target heq).2
    constructor
    · intro other hmem
      obtain ⟨entry, hentry, rfl⟩ := List.mem_map.1 hmem
      exact List.mem_singleton.2 (hall entry hentry)
    · intro other hmem
      obtain ⟨entry, hentry⟩ := List.exists_mem_of_ne_nil _ hsome
      rw [List.mem_singleton.1 hmem, ← hall entry hentry]
      exact List.mem_map_of_mem hentry
  · exact (sortedBy_eq_self_iff.2 (List.pairwise_map.2 h.ordered)).symm
  · rw [List.map_map]
    exact h.distinct
  · rw [List.map_map]
    exact ⟨List.Subset.refl _, List.Subset.refl _⟩
  · intro snapshot hmem document hdocument hkey
    obtain ⟨item, hitem, rfl⟩ := List.mem_map.1 hmem
    obtain rfl := List.inj_on_of_nodup_map h.distinct hitem hdocument hkey
    exact ⟨rfl, rfl⟩

/-! ## Changed documents -/

section

variable [JinjaParser] {self : ReferenceMigrationCoordinator} {request : PlanRequest}

/-- What `_replace_exact_scalars` makes of the payload of a document. -/
def postPayload (old target name : Text) (document : ReferenceDocument) : Payload :=
  mapStrings (replacement (walk old (some name) document.payload []).replaceablePaths old target)
    document.payload []

/-- SHA-256 has no collision between the payload of a document and what it becomes. -/
def HashedApart (self : ReferenceMigrationCoordinator) (request : PlanRequest) : Prop :=
  ∀ name ∈ providerManifest, ∀ document ∈ self.listed name,
    hexdigest (canonicalJson document.payload) = hexdigest (canonicalJson
      (postPayload request.oldEntityId (targetFor request name) name document)) →
    canonicalJson document.payload = canonicalJson
      (postPayload request.oldEntityId (targetFor request name) name document)

omit [Sha256] in
/-- A document has paths exactly when its canonical text changes. -/
theorem canonicalJson_postPayload_ne_iff {old target name : Text} (htarget : target ≠ old)
    (document : ReferenceDocument) :
    canonicalJson document.payload ≠ canonicalJson (postPayload old target name document) ↔
      (walk old (some name) document.payload []).replaceablePaths ≠ [] := by
  constructor
  · intro hchanged hnil
    refine hchanged ?_
    have hid : ∀ found ∈ strings document.payload [],
        replacement [] old target found.1 found.2 = found.2 := fun found _ =>
      if_pos List.not_mem_nil
    rw [postPayload, hnil, mapStrings_eq_self _ _ _ hid]
  · intro hpaths hsame
    obtain ⟨path, hpath⟩ := List.exists_mem_of_ne_nil _ hpaths
    obtain ⟨found, hmem, hfound⟩ :=
      List.mem_flatMap.1 ((perm_replaceablePaths document.payload []).mem_iff.1 hpath)
    have hreplaceable : found.1 ∈ (walk old (some name) document.payload []).replaceablePaths :=
      (mem_replaceablePaths_iff document.keysDistinct hmem).2 (List.ne_nil_of_mem hfound)
    exact (replacement_ne_iff document.keysDistinct htarget hmem).2 hreplaceable
      (canonicalJson_inj hsame.symm found hmem)

/-- In an issued plan the changed documents are those with paths. -/
theorem ReferenceMigrationCoordinator.Issues.changesExact (h : Issues self request)
    (hapart : HashedApart self request) : ChangesExact (self.planFor request) := by
  intro document hmem
  have hmem : document ∈ self.plannedAll request := by
    simpa [planFor, planOf, Discovery.extended] using hmem
  obtain ⟨name, hname, listed, hlisted, rfl⟩ := mem_plannedAll hmem
  have hsafe := h.valid.validTargets.safe name hname
  refine Iff.trans ?_ (canonicalJson_postPayload_ne_iff hsafe listed)
  exact not_congr ⟨hapart name hname listed hlisted, congrArg hexdigest⟩

end

end

end TrueFamily.Migration
