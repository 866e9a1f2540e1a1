import TrueFamily.Migration.Plan

/-!
# When a plan is issued

`create_plan` gathers reasons in loops that never drop one, so a plan is issued exactly when no step
finds a reason; the plan is then the one that the documents alone determine (`createPlan_eq_ok`).
-/

namespace TrueFamily.Migration

open Checked Sorting
open JsonValue (Text)
open Projection hiding collect

/-! ## The request -/

@[simp] theorem reasonIf_eq_nil {condition : Prop} [Decidable condition] {reason : Reason} :
    reasonIf condition reason = [] ↔ ¬ condition := by
  unfold reasonIf
  split <;> simp_all

/-- A request that gives no reason. -/
structure ValidRequest (request : PlanRequest) : Prop where
  roomId : request.roomId ≠ []
  roomRevision : 0 ≤ request.roomRevision
  oldEntityId : isClimateEntity request.oldEntityId = true
  logicalUniqueId : isLogicalUniqueId request.logicalUniqueId = true
  required : ∀ name, name ∈ request.requiredProviders ↔ name ∈ providerManifest
  targets : targetReasons request = []

theorem nil_not_climate : isClimateEntity [] = false := by decide

theorem ne_nil_of_climate {text : Text} (h : isClimateEntity text = true) : text ≠ [] := by
  rintro rfl
  rw [nil_not_climate] at h
  cases h

theorem nil_not_logical : isLogicalUniqueId [] = false := by decide

theorem validatePlanRequest_eq_nil {request : PlanRequest}
    (h : validatePlanRequest request = []) : ValidRequest request := by
  unfold validatePlanRequest at h
  simp only at h
  split at h
  · simp at h
  · split at h
    · simp at h
    · simp only [List.append_eq_nil_iff, reasonIf_eq_nil, not_not, not_and,
        Bool.not_eq_false] at h
      obtain ⟨⟨⟨⟨⟨⟨⟨⟨hroom, hold⟩, hlogical⟩, hrevision⟩, hmissing⟩, homitted⟩, holdClimate⟩,
        hlogicalId⟩, htargets⟩ := h
      have hempty {items : List Text} (hsorted : sortedBy id items = []) : items = [] :=
        List.perm_nil.1 (hsorted ▸ (perm_sortedBy id items).symm)
      refine ⟨hroom, not_lt.1 hrevision, holdClimate hold, hlogicalId hlogical, fun name => ?_,
        htargets⟩
      constructor
      · intro hmem
        have hnot := List.filter_eq_nil_iff.1 (hempty hmissing) name (List.mem_dedup.2 hmem)
        simpa using hnot
      · intro hmem
        have hnot := List.filter_eq_nil_iff.1 (hempty homitted) name hmem
        simpa using hnot

theorem validatePlanRequest_of_valid {request : PlanRequest} (h : ValidRequest request) :
    validatePlanRequest request = [] := by
  have hold := ne_nil_of_climate h.oldEntityId
  have hlogical : request.logicalUniqueId ≠ [] := by
    intro hnil
    have hid := h.logicalUniqueId
    rw [hnil, nil_not_logical] at hid
    cases hid
  have hrequired : request.requiredProviders ≠ [] := by
    intro hnil
    have hmem := (h.required "lovelace".toList).2 (by decide)
    rw [hnil] at hmem
    cases hmem
  have hnames : [] ∉ request.requiredProviders := by
    rw [h.required]
    decide
  have hmissing : request.requiredProviders.dedup.filter (· ∉ providerManifest) = [] := by
    refine List.filter_eq_nil_iff.2 fun name hmem => ?_
    simpa using (h.required name).1 (List.mem_dedup.1 hmem)
  have homitted : providerManifest.filter (· ∉ request.requiredProviders) = [] := by
    refine List.filter_eq_nil_iff.2 fun name hmem => ?_
    simpa using (h.required name).2 hmem
  unfold validatePlanRequest
  simp only
  rw [if_neg hrequired, if_neg hnames, hmissing, homitted, h.targets]
  simp [reasonIf, h.roomId, hold, hlogical, not_lt.2 h.roomRevision, h.oldEntityId,
    h.logicalUniqueId, sortedBy]

theorem validatePlanRequest_eq_nil_iff {request : PlanRequest} :
    validatePlanRequest request = [] ↔ ValidRequest request :=
  ⟨validatePlanRequest_eq_nil, validatePlanRequest_of_valid⟩

/-- The names of the providers of a valid request. -/
theorem ValidRequest.providerNames {request : PlanRequest} (h : ValidRequest request) :
    sortedBy id request.requiredProviders.dedup = providerManifest := by
  have hperm : (sortedBy id request.requiredProviders.dedup).Perm providerManifest := by
    refine (perm_sortedBy _ _).trans ?_
    refine (List.perm_ext_iff_of_nodup (List.nodup_dedup _) (by decide)).2 fun name => ?_
    rw [List.mem_dedup, h.required]
  refine hperm.eq_of_pairwise (fun a b _ _ hab hba => le_antisymm hab hba)
    (pairwise_sortedBy id _) ?_
  decide +kernel

/-! ### Targets -/

/-- The target of a provider. -/
def targetOf (targets : List (Text × Text)) (name : Text) : Text :=
  ((targets.find? fun entry => decide (entry.1 = name)).map Prod.snd).getD []

theorem exists_find? {α : Type} {entries : List (Text × α)} {name : Text}
    (h : name ∈ entries.map Prod.fst) :
    ∃ value, entries.find? (fun entry => decide (entry.1 = name)) = some (name, value)
      ∧ (name, value) ∈ entries := by
  obtain ⟨entry, hentry, hname⟩ := List.mem_map.1 h
  have hsome : (entries.find? fun entry => decide (entry.1 = name)).isSome :=
    List.find?_isSome.2 ⟨entry, hentry, decide_eq_true hname⟩
  obtain ⟨⟨key, value⟩, hfind⟩ := Option.isSome_iff_exists.1 hsome
  have hkey : key = name := by simpa using List.find?_some hfind
  exact ⟨value, hkey ▸ hfind, hkey ▸ List.mem_of_find?_eq_some hfind⟩

theorem mem_targetOf {targets : List (Text × Text)} {name : Text}
    (h : name ∈ targets.map Prod.fst) : (name, targetOf targets name) ∈ targets := by
  obtain ⟨value, hfind, hmem⟩ := exists_find? h
  rw [targetOf, hfind]
  exact hmem

theorem item_eq_ok {targets : List (Text × Text)} {name : Text} (h : name ∈ targets.map Prod.fst) :
    item targets name = .ok (targetOf targets name) := by
  obtain ⟨value, hfind, -⟩ := exists_find? h
  rw [item, targetOf, hfind]
  rfl

theorem targetOf_map (T : Text → Text) {names : List Text} {name : Text} (h : name ∈ names) :
    targetOf (names.map fun name => (name, T name)) name = T name := by
  have hitem : name ∈ (names.map fun name => (name, T name)).map Prod.fst := by
    simpa using h
  obtain ⟨other, -, heq⟩ := List.mem_map.1 (mem_targetOf hitem)
  rw [← (Prod.mk.inj heq).2, (Prod.mk.inj heq).1]

/-- Where the targets of a request come from. -/
def targetFor (request : PlanRequest) (name : Text) : Text :=
  match request.providerTargets with
  | some targets => targetOf targets name
  | none => request.targetEntityId.getD []

/-- The targets of a request, in the order of the providers. -/
def targetsOf (request : PlanRequest) : List (Text × Text) :=
  providerManifest.map fun name => (name, targetFor request name)

/-- What the targets of a valid request are. -/
structure ValidTargets (request : PlanRequest) : Prop where
  normalized : normalizeProviderTargets providerManifest request.targetEntityId
    request.providerTargets = .ok (targetsOf request)
  climate : ∀ name ∈ providerManifest, isClimateEntity (targetFor request name) = true
  safe : ∀ name ∈ providerManifest, targetFor request name ≠ request.oldEntityId
  shared : ∀ target, request.targetEntityId = some target →
    ∀ name ∈ providerManifest, targetFor request name = target

theorem collect_items {targets : List (Text × Text)} {names : List Text}
    (h : ∀ name ∈ names, name ∈ targets.map Prod.fst) :
    collect (fun name => do return (name, ← item targets name)) names =
      .ok (names.map fun name => (name, targetOf targets name)) := by
  induction names with
  | nil => rfl
  | cons name names ih =>
    obtain ⟨hname, hnames⟩ := List.forall_mem_cons.1 h
    rw [collect, ih hnames, item_eq_ok hname]
    rfl

theorem ValidRequest.validTargets {request : PlanRequest} (h : ValidRequest request) :
    ValidTargets request := by
  have hreasons := h.targets
  unfold targetReasons at hreasons
  cases hproviders : request.providerTargets with
  | none =>
    rw [hproviders] at hreasons
    cases htarget : request.targetEntityId with
    | none => simp [htarget] at hreasons
    | some target =>
      rw [htarget] at hreasons
      simp only at hreasons
      -- one target for all providers
      have hfor : ∀ name, targetFor request name = target := fun name => by
        rw [targetFor, hproviders, htarget]
        rfl
      split at hreasons
      · cases hreasons
      · rename_i hclimate
        rw [reasonIf_eq_nil] at hreasons
        refine ⟨?_, fun name _ => hfor name ▸ (Bool.not_eq_false _ ▸ hclimate),
          fun name _ => ?_, ?_⟩
        · rw [hproviders, htarget, normalizeProviderTargets, targetsOf]
          exact congrArg _ (List.map_congr_left fun name _ => by rw [hfor name])
        · rw [hfor name]
          exact Ne.symm hreasons
        · intro other hother name _
          rw [htarget] at hother
          exact (hfor name).trans (Option.some.inj hother)
  | some targets =>
    rw [hproviders] at hreasons
    simp only [List.append_eq_nil_iff, reasonIf_eq_nil, not_not] at hreasons
    obtain ⟨⟨htarget, -, hcovered⟩, hsafe⟩ := hreasons
    have hfor : ∀ name, targetFor request name = targetOf targets name := fun name => by
      rw [targetFor, hproviders]
    have hmem : ∀ name ∈ providerManifest, name ∈ targets.map Prod.fst := fun name hname =>
      hcovered ((h.required name).2 hname)
    -- a target for each provider, checked one by one
    have hgood : ∀ name ∈ providerManifest, isClimateEntity (targetOf targets name) = true ∧
        targetOf targets name ≠ request.oldEntityId := by
      intro name hname
      have hnone := List.flatMap_eq_nil_iff.1 hsafe _ (mem_targetOf (hmem name hname))
      split at hnone
      · cases hnone
      · rename_i hclimate
        exact ⟨Bool.not_eq_false _ ▸ hclimate, reasonIf_eq_nil.1 hnone⟩
    refine ⟨?_, fun name hname => hfor name ▸ (hgood name hname).1,
      fun name hname => hfor name ▸ (hgood name hname).2, fun target hsome => ?_⟩
    · rw [hproviders, normalizeProviderTargets, collect_items hmem, targetsOf]
      exact congrArg _ (List.map_congr_left fun name _ => by rw [hfor name])
    · rw [htarget] at hsome
      cases hsome

/-! ## One document -/

section

variable [Sha256] [JinjaParser] {old target name : Text} {targets : List (Text × Text)}

/-- What is planned for a document. -/
def plannedDocument (old target name : Text) (document : ReferenceDocument) : PlannedDocument :=
  let paths := (walk old (some name) document.payload []).replaceablePaths
  { provider := name, objectId := document.objectId, revision := document.revision
    writable := document.writable
    fingerprint := hexdigest (canonicalJson document.payload)
    postFingerprint := hexdigest (canonicalJson
      (mapStrings (replacement paths old target) document.payload []))
    exactPaths := paths }

/-- A document that gives no reason. -/
structure Plannable (old name : Text) (document : ReferenceDocument) : Prop where
  provider : document.provider = name
  valid : validatePayload document.payload = true
  writable : document.writable = true
  free : (walk old (some name) document.payload []).blocked = []

/-- The discovery with some planned documents more. -/
def Discovery.extended (found : Discovery) (documents : List PlannedDocument) : Discovery where
  reasons := []
  seen := found.seen ++ documents.map fun document => (document.provider, document.objectId)
  documents := found.documents ++ documents
  exactReplacements := found.exactReplacements
    + (documents.map fun document => document.exactPaths.length).sum

omit [Sha256] [JinjaParser] in
theorem Discovery.extended_extended (found : Discovery) (first second : List PlannedDocument) :
    (found.extended first).extended second = found.extended (first ++ second) := by
  simp [Discovery.extended, Nat.add_assoc]

omit [Sha256] [JinjaParser] in
theorem Discovery.extended_nil {found : Discovery} (h : found.reasons = []) :
    found.extended [] = found := by
  cases found
  cases h
  simp [Discovery.extended]

omit [Sha256] in
theorem scanSemanticReferences_eq (hold : old ≠ []) (hname : name ≠ []) (payload : Payload) :
    scanSemanticReferences payload old (some name) = some (walk old (some name) payload []) :=
  if_pos ⟨hold, fun h => hname (Option.some.inj h)⟩

theorem inspectDocument_eq (hold : old ≠ []) (hname : name ≠ []) (document : ReferenceDocument) :
    inspectDocument old name document =
      .ok (if validatePayload document.payload = true then
        some (hexdigest (canonicalJson document.payload), walk old (some name) document.payload [])
      else none) := by
  unfold inspectDocument canonicalDocumentFingerprint payloadFingerprint scanReferences
  by_cases hvalid : validatePayload document.payload = true
  · simp only [check, if_pos hvalid, if_pos hold, scanSemanticReferences_eq hold hname]
    rfl
  · simp only [check, if_neg hvalid]
    rfl

/-- A document is planned without a reason exactly when it can be. -/
theorem planDocument_eq_ok (hold : old ≠ []) (hname : name ≠ [])
    (htarget : item targets name = .ok target) {document : ReferenceDocument}
    {found found' : Discovery} :
    (planDocument old targets name found document = .ok found' ∧ found'.reasons = []) ↔
      found.reasons = [] ∧ Plannable old name document
        ∧ (name, document.objectId) ∉ found.seen
        ∧ found' = found.extended [plannedDocument old target name document] := by
  unfold planDocument
  simp only
  split
  -- each reason for a refusal is one that a plannable document excludes
  · rename_i hother
    refine iff_of_false ?_ fun ⟨_, hplan, _⟩ => hother hplan.provider
    rintro ⟨h, hreasons⟩
    obtain rfl := Except.ok.inj h
    simp at hreasons
  · rename_i hprovider
    rw [not_not] at hprovider
    split
    · rename_i hseen
      refine iff_of_false ?_ fun ⟨_, _, hfresh, _⟩ => hfresh hseen
      rintro ⟨h, hreasons⟩
      obtain rfl := Except.ok.inj h
      simp at hreasons
    · rename_i hfresh
      rw [inspectDocument_eq hold hname]
      by_cases hvalid : validatePayload document.payload = true
      · have hreplaced : replaceExactScalars document.payload old target (some name) = .ok
            (mapStrings (replacement (walk old (some name) document.payload []).replaceablePaths
              old target) document.payload [],
            (walk old (some name) document.payload []).replaceablePaths.length) := by
          obtain ⟨-, -, hreplaced⟩ := @replaceSemanticReferences_eq _ old target (some name) _
            document.keysDistinct _ (scanSemanticReferences_eq hold hname document.payload)
          rw [replaceExactScalars, check, if_pos hvalid, hreplaced]
          rfl
        have hpost : ∀ f, payloadFingerprint (mapStrings f document.payload []) =
            .ok (hexdigest (canonicalJson (mapStrings f document.payload []))) := by
          intro f
          rw [payloadFingerprint, check, validatePayload_mapStrings, if_pos hvalid]
          rfl
        rw [if_pos hvalid]
        -- nothing raises on a valid payload, so the step is evaluated call by call
        change (item targets name >>= _) = _ ∧ _ ↔ _
        rw [htarget]
        change (replaceExactScalars document.payload old target (some name) >>= _) = _ ∧ _ ↔ _
        rw [hreplaced]
        change (payloadFingerprint _ >>= _) = _ ∧ _ ↔ _
        rw [hpost]
        change Except.ok _ = _ ∧ _ ↔ _
        constructor
        · rintro ⟨h, hreasons⟩
          obtain rfl := Except.ok.inj h
          simp only [List.append_eq_nil_iff, reasonIf_eq_nil, not_not, Bool.not_eq_false]
            at hreasons
          obtain ⟨⟨hnone, hwritable⟩, hfree⟩ := hreasons
          refine ⟨hnone, ⟨hprovider, hvalid, hwritable, hfree⟩, hfresh, ?_⟩
          simp [Discovery.extended, plannedDocument, hnone, hwritable, hfree, reasonIf]
        · rintro ⟨hnone, hplan, -, rfl⟩
          refine ⟨?_, rfl⟩
          simp [Discovery.extended, plannedDocument, hnone, hplan.writable, hplan.free, reasonIf]
      · rw [if_neg hvalid]
        refine iff_of_false ?_ fun ⟨_, hplan, _⟩ => hvalid hplan.valid
        rintro ⟨h, hreasons⟩
        obtain rfl := Except.ok.inj h
        simp at hreasons

/-! ## All documents -/

/-- The loop over the documents of a provider. -/
theorem planDocuments_eq_ok (hold : old ≠ []) (hname : name ≠ [])
    (htarget : item targets name = .ok target) {found' : Discovery} :
    ∀ {documents : List ReferenceDocument} {found : Discovery},
      (planDocuments old targets name found documents = .ok found' ∧ found'.reasons = []) ↔
        found.reasons = [] ∧ (∀ document ∈ documents, Plannable old name document)
          ∧ (documents.map (·.objectId)).Nodup
          ∧ (∀ document ∈ documents, (name, document.objectId) ∉ found.seen)
          ∧ found' = found.extended (documents.map (plannedDocument old target name)) := by
  intro documents
  induction documents with
  | nil =>
    intro found
    rw [planDocuments, Except.ok.injEq]
    constructor
    · rintro ⟨rfl, hnone⟩
      simp [hnone, Discovery.extended_nil]
    · rintro ⟨hnone, -, -, -, rfl⟩
      rw [List.map_nil, Discovery.extended_nil hnone]
      exact ⟨rfl, hnone⟩
  | cons document documents ih =>
    intro found
    -- the induction is on the documents; what was found before is general
    have hstep := @planDocument_eq_ok _ _ old target name targets hold hname htarget document found
    rw [planDocuments, bind_eq_ok]
    constructor
    · rintro ⟨⟨mid, hmid, hrest⟩, hnone⟩
      obtain ⟨hmidNone, hplan, hnodup, hfresh, rfl⟩ := ih.1 ⟨hrest, hnone⟩
      obtain ⟨hfoundNone, hfirst, hnew, rfl⟩ := hstep.1 ⟨hmid, hmidNone⟩
      simp only [Discovery.extended, List.mem_append, not_or, List.map_cons, List.map_nil,
        List.mem_singleton, plannedDocument, Prod.mk.injEq, true_and] at hfresh
      refine ⟨hfoundNone, List.forall_mem_cons.2 ⟨hfirst, hplan⟩, ?_,
        List.forall_mem_cons.2 ⟨hnew, fun other hmem => (hfresh other hmem).1⟩, ?_⟩
      · refine List.nodup_cons.2 ⟨fun hmem => ?_, hnodup⟩
        obtain ⟨other, hother, heq⟩ := List.mem_map.1 hmem
        exact (hfresh other hother).2 heq
      · rw [Discovery.extended_extended]
        rfl
    · rintro ⟨hnone, hplan, hnodup, hfresh, rfl⟩
      obtain ⟨hfirst, hplan⟩ := List.forall_mem_cons.1 hplan
      obtain ⟨hnew, hfresh⟩ := List.forall_mem_cons.1 hfresh
      obtain ⟨hdistinct, hnodup⟩ := List.nodup_cons.1 hnodup
      have hmid := hstep.2 ⟨hnone, hfirst, hnew, rfl⟩
      have hrest := ih.2 ⟨hmid.2, hplan, hnodup, ?_, ?_⟩
      · exact ⟨⟨_, hmid.1, hrest.1⟩, rfl⟩
      · intro other hmem
        simp only [Discovery.extended, List.mem_append, not_or, List.map_cons, List.map_nil,
          List.mem_singleton, plannedDocument, Prod.mk.injEq, true_and]
        exact ⟨hfresh other hmem, fun heq => hdistinct (List.mem_map.2 ⟨other, hmem, heq⟩)⟩
      · rw [Discovery.extended_extended]
        rfl

/-- The documents that a provider lists, none where it raises. -/
def ReferenceMigrationCoordinator.listed (self : ReferenceMigrationCoordinator) (name : Text) :
    List ReferenceDocument :=
  sortedBy ReferenceDocument.objectId ((self.listDocuments name).getD [])

/-- What is planned for a provider. -/
def ReferenceMigrationCoordinator.planned (self : ReferenceMigrationCoordinator) (old : Text)
    (targets : List (Text × Text)) (name : Text) : List PlannedDocument :=
  (self.listed name).map (plannedDocument old (targetOf targets name) name)

/-- What is planned for a provider is in the order of the object IDs. -/
theorem pairwise_planned (self : ReferenceMigrationCoordinator) (old : Text)
    (targets : List (Text × Text)) (name : Text) :
    (self.planned old targets name).Pairwise fun a b => a.objectId ≤ b.objectId :=
  List.pairwise_map.2 (pairwise_sortedBy ReferenceDocument.objectId _)

theorem objectIds_planned (self : ReferenceMigrationCoordinator) (old : Text)
    (targets : List (Text × Text)) (name : Text) :
    (self.planned old targets name).map (·.objectId) =
      (self.listed name).map (·.objectId) := by
  rw [ReferenceMigrationCoordinator.planned, List.map_map]
  rfl

/-- A provider that gives no reason. -/
structure Ready (coordinator : ReferenceMigrationCoordinator) (old name : Text) : Prop where
  listed : coordinator.listDocuments name ≠ none
  plannable : ∀ document ∈ coordinator.listed name, Plannable old name document
  distinct : ((coordinator.listed name).map (·.objectId)).Nodup

/-- A step drops no reason. -/
theorem planDocument_grows {document : ReferenceDocument} {found found' : Discovery}
    (h : planDocument old targets name found document = .ok found') :
    found.reasons <+: found'.reasons := by
  unfold planDocument at h
  simp only at h
  split at h
  · obtain rfl := Except.ok.inj h
    exact List.prefix_append _ _
  · split at h
    · obtain rfl := Except.ok.inj h
      exact List.prefix_append _ _
    · obtain ⟨inspected, -, h⟩ := bind_eq_ok.1 h
      cases inspected with
      | none =>
        obtain rfl := Except.ok.inj h
        exact List.prefix_append _ _
      | some result =>
        obtain ⟨target', -, h⟩ := bind_eq_ok.1 h
        obtain ⟨replaced, -, h⟩ := bind_eq_ok.1 h
        obtain ⟨post, -, h⟩ := bind_eq_ok.1 h
        obtain rfl := Except.ok.inj h
        simp only [List.append_assoc]
        exact List.prefix_append _ _

theorem planDocuments_grows {found' : Discovery} : ∀ {documents : List ReferenceDocument}
    {found : Discovery}, planDocuments old targets name found documents = .ok found' →
      found.reasons <+: found'.reasons
  | [], _, h => by
    obtain rfl := Except.ok.inj h
    exact List.prefix_rfl
  | document :: documents, _, h => by
    obtain ⟨mid, hmid, hrest⟩ := bind_eq_ok.1 h
    exact (planDocument_grows hmid).trans (planDocuments_grows hrest)

theorem planProviders_grows {self : ReferenceMigrationCoordinator} {found' : Discovery} :
    ∀ {names : List Text} {found : Discovery},
      planProviders self old targets found names = .ok found' → found.reasons <+: found'.reasons
  | [], _, h => by
    obtain rfl := Except.ok.inj h
    exact List.prefix_rfl
  | name :: names, found, h => by
    obtain ⟨mid, hmid, hrest⟩ := bind_eq_ok.1 h
    refine List.IsPrefix.trans ?_ (planProviders_grows hrest)
    unfold planProvider at hmid
    split at hmid
    · obtain rfl := Except.ok.inj hmid
      exact List.prefix_append _ _
    · exact planDocuments_grows hmid

/-- Where there is no reason in the end, there was none. -/
theorem planProviders_reasons {self : ReferenceMigrationCoordinator} {names : List Text}
    {found found' : Discovery} (h : planProviders self old targets found names = .ok found')
    (hnone : found'.reasons = []) : found.reasons = [] :=
  List.prefix_nil.1 (hnone ▸ planProviders_grows h)

/-- The loop over the providers. -/
theorem planProviders_eq_ok {self : ReferenceMigrationCoordinator} (hold : old ≠ [])
    {found' : Discovery} : ∀ {names : List Text} {found : Discovery},
      (∀ name ∈ names, name ≠ [] ∧ name ∈ targets.map Prod.fst) → names.Nodup →
        (∀ key ∈ found.seen, key.1 ∉ names) →
          ((planProviders self old targets found names = .ok found' ∧ found'.reasons = []) ↔
            found.reasons = [] ∧ (∀ name ∈ names, Ready self old name)
              ∧ found' = found.extended (names.flatMap (self.planned old targets))) := by
  intro names
  induction names with
  | nil =>
    intro found _ _ _
    rw [planProviders, Except.ok.injEq]
    constructor
    · rintro ⟨rfl, hnone⟩
      simp [hnone, Discovery.extended_nil]
    · rintro ⟨hnone, -, rfl⟩
      rw [List.flatMap_nil, Discovery.extended_nil hnone]
      exact ⟨rfl, hnone⟩
  | cons name names ih =>
    intro found hnames hnodup hseen
    obtain ⟨⟨hname, hmem⟩, hnames⟩ := List.forall_mem_cons.1 hnames
    obtain ⟨hdistinct, hnodup⟩ := List.nodup_cons.1 hnodup
    have htarget : item targets name = .ok (targetOf targets name) := item_eq_ok hmem
    have hfresh : ∀ document : ReferenceDocument, (name, document.objectId) ∉ found.seen :=
      fun document hkey => hseen _ hkey List.mem_cons_self
    have hseen' : ∀ key ∈ (found.extended (self.planned old targets name)).seen,
        key.1 ∉ names := by
      intro key hkey hin
      rcases List.mem_append.1 hkey with hkey | hkey
      · exact hseen key hkey (List.mem_cons_of_mem _ hin)
      · obtain ⟨planned, hplanned, rfl⟩ := List.mem_map.1 hkey
        obtain ⟨document, -, rfl⟩ := List.mem_map.1 hplanned
        exact hdistinct hin
    rw [planProviders, bind_eq_ok]
    cases hlist : self.listDocuments name with
    | none =>
      refine iff_of_false ?_ fun ⟨_, hready, _⟩ => (hready name List.mem_cons_self).listed hlist
      rintro ⟨⟨mid, hmid, hrest⟩, hnone⟩
      rw [planProvider, hlist] at hmid
      obtain rfl := Except.ok.inj hmid
      -- the reason stays
      have hgrow := planProviders_reasons hrest hnone
      simp at hgrow
    | some documents =>
      have hlisted : self.listed name = sortedBy ReferenceDocument.objectId documents := by
        rw [ReferenceMigrationCoordinator.listed, hlist]
        rfl
      have hprovider : ∀ mid, planProvider self old targets found name = .ok mid ↔
          planDocuments old targets name found (self.listed name) = .ok mid := fun mid => by
        rw [planProvider, hlist, hlisted]
      simp only [hprovider]
      constructor
      · rintro ⟨⟨mid, hmid, hrest⟩, hnone⟩
        have hmidNone := planProviders_reasons hrest hnone
        obtain ⟨hfoundNone, hplan, hids, -, rfl⟩ :=
          (planDocuments_eq_ok hold hname htarget).1 ⟨hmid, hmidNone⟩
        obtain ⟨-, hready, rfl⟩ := (ih hnames hnodup hseen').1 ⟨hrest, hnone⟩
        refine ⟨hfoundNone, List.forall_mem_cons.2 ⟨⟨?_, hplan, hids⟩, hready⟩, ?_⟩
        · rw [hlist]
          exact Option.some_ne_none _
        · rw [Discovery.extended_extended, List.flatMap_cons]
      · rintro ⟨hnone, hready, rfl⟩
        obtain ⟨hfirst, hready⟩ := List.forall_mem_cons.1 hready
        have hmid := (planDocuments_eq_ok hold hname htarget).2 ⟨hnone, hfirst.plannable,
          hfirst.distinct, fun document _ => hfresh document, rfl⟩
        have hrest := (ih hnames hnodup hseen').2 ⟨rfl, hready, by
          rw [Discovery.extended_extended, ← List.flatMap_cons]⟩
        exact ⟨⟨_, hmid.1, hrest.1⟩, rfl⟩

/-! ## The plan -/

/-- The subject that a request names. -/
def subjectOf (request : PlanRequest) : MigrationSubject where
  roomId := request.roomId
  roomRevision := request.roomRevision
  oldEntityId := request.oldEntityId
  logicalUniqueId := request.logicalUniqueId
  providerTargets := sortedBy toLex (targetsOf request)

namespace ReferenceMigrationCoordinator

/-- The documents that are planned, one provider after another. -/
def plannedAll (self : ReferenceMigrationCoordinator) (request : PlanRequest) :
    List PlannedDocument :=
  providerManifest.flatMap (self.planned request.oldEntityId (targetsOf request))

/-- The plan for a request. -/
def planFor (self : ReferenceMigrationCoordinator) (request : PlanRequest) : MigrationPlan :=
  planOf request providerManifest (targetsOf request)
    (Discovery.extended ⟨[], [], [], 0⟩ (self.plannedAll request))

/-- When the coordinator issues a plan, or refuses a collision. -/
structure Issues (coordinator : ReferenceMigrationCoordinator) (request : PlanRequest) : Prop where
  unblocked : coordinator.blocked = false
  valid : ValidRequest request
  subject : coordinator.resolveSubject request.roomId = some (subjectOf request)
  ready : ∀ name ∈ providerManifest, Ready coordinator request.oldEntityId name
  expected : request.referencesExpected = true →
    ((coordinator.plannedAll request).map fun document => document.exactPaths.length).sum ≠ 0

/-- `create_plan` returns exactly when nothing gives a reason, and records the plan for the
request. -/
theorem createPlan_eq_ok {self : ReferenceMigrationCoordinator} {request : PlanRequest}
    {result : MigrationPlan × List MigrationPlan} :
    self.createPlan request = .ok result ↔
      Issues self request ∧ self.record (self.planFor request) = .ok result := by
  have hnames : ∀ name ∈ providerManifest,
      name ≠ [] ∧ name ∈ (targetsOf request).map Prod.fst := by
    intro name hmem
    refine ⟨fun hnil => absurd (hnil ▸ hmem) (by decide), ?_⟩
    simpa [targetsOf] using hmem
  have hloop (hold : request.oldEntityId ≠ []) {found : Discovery} :=
    @planProviders_eq_ok _ _ request.oldEntityId (targetsOf request) self hold found
      providerManifest ⟨[], [], [], 0⟩ hnames (by decide) (fun _ h => absurd h List.not_mem_nil)
  unfold createPlan
  simp only [bind_unit_eq_ok, check_eq_ok, validatePlanRequest_eq_nil_iff]
  constructor
  · rintro ⟨hunblocked, hrequest, htargets⟩
    have hold := ne_nil_of_climate hrequest.oldEntityId
    rw [hrequest.providerNames, hrequest.validTargets.normalized] at htargets
    obtain ⟨targets, htargets, h⟩ := bind_eq_ok.1 htargets
    obtain rfl := Except.ok.inj htargets
    simp only [bind_unit_eq_ok, check_eq_ok] at h
    obtain ⟨-, hsubject, h⟩ := h
    obtain ⟨found, hfound, h⟩ := bind_eq_ok.1 h
    simp only [bind_unit_eq_ok, check_eq_ok, List.append_eq_nil_iff, reasonIf_eq_nil] at h
    obtain ⟨⟨hnone, hexpected⟩, h⟩ := h
    obtain ⟨-, hready, rfl⟩ := (hloop hold).1 ⟨hfound, hnone⟩
    refine ⟨⟨hunblocked, hrequest, hsubject, hready, fun htrue hzero => hexpected ⟨htrue, ?_⟩⟩, h⟩
    exact (Nat.zero_add _).trans hzero
  · rintro ⟨hissues, h⟩
    have hold := ne_nil_of_climate hissues.valid.oldEntityId
    refine ⟨hissues.unblocked, hissues.valid, ?_⟩
    rw [hissues.valid.providerNames, hissues.valid.validTargets.normalized]
    refine bind_eq_ok.2 ⟨_, rfl, ?_⟩
    simp only [bind_unit_eq_ok, check_eq_ok]
    refine ⟨?_, hissues.subject, bind_eq_ok.2 ⟨_, ((hloop hold).2 ⟨rfl, hissues.ready, rfl⟩).1, ?_⟩⟩
    · rw [hissues.subject]
      exact Option.some_ne_none _
    · simp only [bind_unit_eq_ok, check_eq_ok, List.append_eq_nil_iff, reasonIf_eq_nil]
      refine ⟨⟨rfl, fun hnone => hissues.expected hnone.1 ?_⟩, h⟩
      exact (Nat.zero_add _).symm.trans hnone.2

end ReferenceMigrationCoordinator

end

end TrueFamily.Migration
