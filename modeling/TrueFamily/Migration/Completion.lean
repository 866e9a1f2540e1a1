import TrueFamily.Lib.Dict
import TrueFamily.Migration.Issued

/-!
# Completed plans

`_validate_journaled_completion`: what the journal accepts as the completion of a plan. It builds
the digest of the plan again. An issued plan is `Sound`, and a sound plan is accepted together with
snapshots of documents that have the planned fingerprints.
-/

namespace TrueFamily.Migration

open Checked Sorting
open JsonValue (Text)
open Projection hiding collect

/-! ## Records -/

/-- `MigrationState`. -/
inductive MigrationState
  | planned
  | applying
  | complete
  | failed
  | blocked
  deriving DecidableEq, Repr

/-- `MigrationResult`. -/
structure MigrationResult where
  planId : Text
  digest : Text
  state : MigrationState
  changedDocuments : ℤ
  exactReplacements : ℤ
  idempotent : Bool
  deriving DecidableEq, Repr

/-- `_DocumentSnapshot`. -/
structure DocumentSnapshot where
  provider : Text
  objectId : Text
  revision : Revision
  writable : Bool
  fingerprint : Text
  deriving DecidableEq, Repr

/-- `JournaledCompletion`. -/
structure JournaledCompletion where
  plan : MigrationPlan
  result : MigrationResult
  documents : List DocumentSnapshot

/-- The provider and the object ID. -/
def PlannedDocument.key (document : PlannedDocument) : Text × Text :=
  (document.provider, document.objectId)

def DocumentSnapshot.key (snapshot : DocumentSnapshot) : Text × Text :=
  (snapshot.provider, snapshot.objectId)

/-- Two lists with the same elements, as sets. -/
def SameSet {α : Type} (first second : List α) : Prop := first ⊆ second ∧ second ⊆ first

instance {α : Type} [DecidableEq α] (first second : List α) : Decidable (SameSet first second) :=
  inferInstanceAs (Decidable (_ ∧ _))

/-- `dict(provider_targets)`. -/
def targetDict (targets : List (Text × Text)) : Dict Text Text :=
  Dict.comprehension Prod.fst Prod.snd targets

/-- The number of exact paths of the documents. -/
def pathCount (documents : List PlannedDocument) : ℕ :=
  (documents.map fun document => document.exactPaths.length).sum

/-- The number of documents that change. -/
def changedCount (documents : List PlannedDocument) : ℕ :=
  documents.countP fun document => !document.exactPaths.isEmpty

section

variable [Sha256]

/-- The digest that `_validate_journaled_completion` expects of a plan. -/
def expectedDigest (plan : MigrationPlan) : Text :=
  hexdigest (canonicalJson (digestPayload plan.roomId plan.roomRevision plan.oldEntityId
    plan.logicalUniqueId plan.targetEntityId (targetDict plan.providerTargets).entries
    plan.providers plan.referencesExpected plan.documents))

/-- The check of one document against its snapshot. -/
def checkSnapshot (snapshots : Dict (Text × Text) DocumentSnapshot) (document : PlannedDocument) :
    Except String Unit :=
  match snapshots.get? document.key with
  | none => .error "KeyError"
  | some snapshot =>
    check (snapshot.fingerprint = document.postFingerprint
        ∧ snapshot.writable = document.writable)
      "A completed provider snapshot is invalid."

/-- `_validate_journaled_completion`, for a completion of the declared type. -/
def validateJournaledCompletion (completion : JournaledCompletion) (expectedPlanId : Text) :
    Except String Unit := do
  let plan := completion.plan
  let result := completion.result
  check (plan.planId = expectedPlanId ∧ result.planId = expectedPlanId)
    "The reference completion journal has mismatched plan IDs."
  check (plan.providers = sortedBy id providerManifest)
    "The completed plan has an incomplete provider manifest."
  check (SameSet (targetDict plan.providerTargets).keys providerManifest)
    "The completed plan has incomplete provider targets."
  check ((plan.documents.map PlannedDocument.key).dedup.length = plan.documents.length)
    "The completed plan contains duplicate documents."
  check (∀ document ∈ plan.documents, document.provider ∈ providerManifest)
    "The completed plan contains an unknown provider."
  check (plan.digest = expectedDigest plan ∧ plan.planId = planIdOf (expectedDigest plan))
    "The completed plan digest is invalid."
  check (result.digest = plan.digest ∧ result.state = .complete
      ∧ result.changedDocuments = changedCount plan.documents
      ∧ result.exactReplacements = plan.exactReplacements ∧ result.idempotent = false
      ∧ plan.exactReplacements = pathCount plan.documents)
    "The completed migration result is invalid."
  let snapshots := Dict.comprehension DocumentSnapshot.key id completion.documents
  check (snapshots.entries.length = completion.documents.length
      ∧ SameSet snapshots.keys (plan.documents.map PlannedDocument.key))
    "The completed provider snapshots are incomplete."
  forAll (checkSnapshot snapshots) plan.documents

/-! ## Sound plans -/

omit [Sha256] in
theorem dedup_length_eq_iff {α : Type} [DecidableEq α] {items : List α} :
    items.dedup.length = items.length ↔ items.Nodup := by
  constructor
  · intro h
    exact List.dedup_eq_self.1 ((List.dedup_sublist items).eq_of_length h)
  · intro h
    rw [h.dedup]

omit [Sha256] in
/-- Entries with distinct keys are the entries of their `dict`. -/
theorem entries_comprehension {α κ ν : Type} [DecidableEq κ] (key : α → κ) (value : α → ν)
    (items : List α) (h : (items.map key).Nodup) :
    (Dict.comprehension key value items).entries = items.map fun x => (key x, value x) := by
  induction items using List.reverseRecOn with
  | nil => rfl
  | append_singleton items x ih =>
    rw [List.map_append, List.nodup_append] at h
    have hentries := ih h.1
    have hnew : key x ∉ (Dict.comprehension key value items).entries.map Prod.fst := by
      rw [hentries, List.map_map]
      exact fun hmem => h.2.2 (key x) hmem (key x) (by simp) rfl
    rw [Dict.comprehension_concat, Dict.set, dif_neg hnew, List.map_append, ← hentries]
    rfl

/-- What holds of every issued plan. -/
structure Sound (plan : MigrationPlan) : Prop where
  digest : plan.digest = expectedDigest plan
  planId : plan.planId = planIdOf plan.digest
  roomId : plan.roomId ≠ []
  roomRevision : 0 ≤ plan.roomRevision
  oldEntityId : isClimateEntity plan.oldEntityId = true
  logicalUniqueId : isLogicalUniqueId plan.logicalUniqueId = true
  providers : plan.providers = providerManifest
  covered : plan.providerTargets.map Prod.fst = providerManifest
  sorted : sortedBy toLex plan.providerTargets = plan.providerTargets
  climate : ∀ target ∈ plan.providerTargets, isClimateEntity target.2 = true
  safe : ∀ target ∈ plan.providerTargets, target.2 ≠ plan.oldEntityId
  shared : ∀ targetEntityId, plan.targetEntityId = some targetEntityId →
    isClimateEntity targetEntityId = true ∧
      ∀ target ∈ plan.providerTargets, target.2 = targetEntityId
  ordered : plan.documents.Pairwise fun a b => toLex a.key ≤ toLex b.key
  distinct : (plan.documents.map PlannedDocument.key).Nodup
  known : ∀ document ∈ plan.documents, document.provider ∈ providerManifest
  objectIds : ∀ document ∈ plan.documents, document.objectId ≠ []
  revisions : ∀ document ∈ plan.documents, document.revision ≠ .string []
  fingerprints : ∀ document ∈ plan.documents,
    isDigest document.fingerprint = true ∧ isDigest document.postFingerprint = true
  paths : ∀ document ∈ plan.documents, document.exactPaths.Nodup
  count : plan.exactReplacements = pathCount plan.documents

/-- The changed documents of a plan are those with paths. -/
def ChangesExact (plan : MigrationPlan) : Prop :=
  ∀ document ∈ plan.documents,
    document.fingerprint ≠ document.postFingerprint ↔ document.exactPaths ≠ []

/-- The completion of a plan with the snapshots of its documents. -/
def completionOf (plan : MigrationPlan) (documents : List DocumentSnapshot) :
    JournaledCompletion where
  plan := plan
  result := {
    planId := plan.planId, digest := plan.digest, state := .complete
    changedDocuments := changedCount plan.documents
    exactReplacements := plan.exactReplacements, idempotent := false }
  documents := documents

/-- The snapshots of the documents of a plan after it has been applied. -/
structure Snapshots (plan : MigrationPlan) (snapshots : List DocumentSnapshot) : Prop where
  distinct : (snapshots.map DocumentSnapshot.key).Nodup
  same : SameSet (snapshots.map DocumentSnapshot.key) (plan.documents.map PlannedDocument.key)
  fingerprints : ∀ snapshot ∈ snapshots, ∀ document ∈ plan.documents,
    snapshot.key = document.key → snapshot.fingerprint = document.postFingerprint
      ∧ snapshot.writable = document.writable

/-- A sound plan is accepted together with its snapshots. -/
theorem validateJournaledCompletion_of_sound {plan : MigrationPlan} (h : Sound plan)
    {snapshots : List DocumentSnapshot} (hsnapshots : Snapshots plan snapshots) :
    validateJournaledCompletion (completionOf plan snapshots) plan.planId = .ok () := by
  have hentries := entries_comprehension DocumentSnapshot.key id snapshots hsnapshots.distinct
  have hkeys : (Dict.comprehension DocumentSnapshot.key id snapshots).keys =
      snapshots.map DocumentSnapshot.key := by
    rw [Dict.keys, hentries, List.map_map]
    rfl
  have htargets : (targetDict plan.providerTargets).keys = providerManifest := by
    rw [Dict.keys, targetDict, entries_comprehension Prod.fst Prod.snd _ ?_, List.map_map]
    · exact h.covered
    · rw [h.covered]
      decide
  have hmanifest : sortedBy id providerManifest = providerManifest := by decide +kernel
  refine bind_unit_eq_ok.2 ⟨check_eq_ok.2 ⟨rfl, rfl⟩, bind_unit_eq_ok.2
    ⟨check_eq_ok.2 (h.providers.trans hmanifest.symm), bind_unit_eq_ok.2 ⟨check_eq_ok.2 ?_,
    bind_unit_eq_ok.2 ⟨check_eq_ok.2 ?_, bind_unit_eq_ok.2 ⟨check_eq_ok.2 h.known,
    bind_unit_eq_ok.2 ⟨check_eq_ok.2 ⟨h.digest, h.digest ▸ h.planId⟩, bind_unit_eq_ok.2
    ⟨check_eq_ok.2 ⟨rfl, rfl, rfl, rfl, rfl, h.count⟩, bind_unit_eq_ok.2
    ⟨check_eq_ok.2 ⟨?_, ?_⟩, forAll_eq_ok.2 ?_⟩⟩⟩⟩⟩⟩⟩⟩
  · change SameSet (targetDict plan.providerTargets).keys providerManifest
    rw [htargets]
    exact ⟨List.Subset.refl _, List.Subset.refl _⟩
  · exact (dedup_length_eq_iff.2 h.distinct).trans (List.length_map _)
  · rw [completionOf, hentries, List.length_map]
  · rw [completionOf, hkeys]
    exact hsnapshots.same
  · intro document hmem
    obtain ⟨snapshot, hsnapshot, hkey⟩ :=
      List.mem_map.1 (hsnapshots.same.2 (List.mem_map_of_mem hmem))
    have hget : (Dict.comprehension DocumentSnapshot.key id snapshots).get? document.key =
        some snapshot := by
      rw [Dict.get?_eq_some_iff, hentries]
      exact List.mem_map.2 ⟨snapshot, hsnapshot, Prod.ext hkey rfl⟩
    rw [checkSnapshot, completionOf, hget]
    exact check_eq_ok.2 (hsnapshots.fingerprints snapshot hsnapshot document hmem hkey)

/-! ## Issued plans are sound -/

section

variable [JinjaParser] {self : ReferenceMigrationCoordinator} {request : PlanRequest}

omit [Sha256] [JinjaParser] in
theorem sorted_targetsOf (request : PlanRequest) :
    sortedBy toLex (targetsOf request) = targetsOf request := by
  refine sortedBy_eq_self_iff.2 (List.pairwise_map.2 ?_)
  have hmanifest : providerManifest.Pairwise fun a b => a < b := by decide +kernel
  exact hmanifest.imp fun hlt => Prod.Lex.toLex_le_toLex.2 (Or.inl hlt)

omit [Sha256] [JinjaParser] in
theorem map_fst_targetsOf (request : PlanRequest) :
    (targetsOf request).map Prod.fst = providerManifest := by
  rw [targetsOf, List.map_map]
  exact List.map_id _

/-- The documents of a provider that is ready. -/
theorem mem_plannedAll {document : PlannedDocument} (h : document ∈ self.plannedAll request) :
    ∃ name ∈ providerManifest, ∃ listed ∈ self.listed name,
      document = plannedDocument request.oldEntityId (targetFor request name) name listed := by
  obtain ⟨name, hname, hmem⟩ := List.mem_flatMap.1 h
  obtain ⟨listed, hlisted, rfl⟩ := List.mem_map.1 hmem
  refine ⟨name, hname, listed, hlisted, ?_⟩
  rw [targetsOf, targetOf_map (targetFor request) hname]

omit [Sha256] in
/-- The replaceable paths of a payload are distinct. -/
theorem nodup_replaceablePaths {old : Text} {provider : Option Text} {payload : Payload}
    (hkeys : KeysDistinct payload) : (walk old provider payload []).replaceablePaths.Nodup := by
  refine (perm_replaceablePaths payload []).nodup_iff.2 ?_
  have hpaths := nodup_paths payload [] hkeys
  have hsub : (((strings payload []).flatMap fun found =>
      (scanText old provider found.2 found.1).replaceablePaths)).Sublist
        ((strings payload []).map Prod.fst) := by
    induction strings payload [] with
    | nil => exact List.Sublist.slnil
    | cons found rest ih =>
      rw [List.flatMap_cons, List.map_cons]
      by_cases hempty : (scanText old provider found.2 found.1).replaceablePaths = []
      · rw [hempty]
        exact ih.cons _
      · rw [(replaceable_cases hempty).1]
        exact ih.cons_cons _
  exact hpaths.sublist hsub

theorem nodup_keys_plannedAll (hready : ∀ name ∈ providerManifest,
    Ready self request.oldEntityId name) :
    ((self.plannedAll request).map PlannedDocument.key).Nodup := by
  rw [ReferenceMigrationCoordinator.plannedAll, List.map_flatMap, List.nodup_flatMap]
  constructor
  · intro name hname
    refine List.Nodup.of_map Prod.snd ?_
    rw [List.map_map]
    have hids := (hready name hname).distinct
    rwa [← objectIds_planned self request.oldEntityId (targetsOf request) name] at hids
  · have hmanifest : providerManifest.Nodup := by decide
    refine hmanifest.imp fun {a b} hne => ?_
    rw [Function.onFun, List.disjoint_left]
    intro key hfirst hsecond
    obtain ⟨first, hmem, rfl⟩ := List.mem_map.1 hfirst
    obtain ⟨listed, -, rfl⟩ := List.mem_map.1 hmem
    obtain ⟨second, hmem, heq⟩ := List.mem_map.1 hsecond
    obtain ⟨listed', -, rfl⟩ := List.mem_map.1 hmem
    exact hne (congrArg Prod.fst heq).symm

/-- An issued plan is sound. -/
theorem ReferenceMigrationCoordinator.Issues.sound (h : Issues self request) :
    Sound (self.planFor request) := by
  have hvalid := h.valid.validTargets
  have hdocuments : ∀ document ∈ (self.planFor request).documents,
      document ∈ self.plannedAll request := by
    intro document hmem
    simpa [planFor, planOf, Discovery.extended] using hmem
  -- the plan sorts its documents, which changes no set and no count
  have hperm : (self.planFor request).documents.Perm (self.plannedAll request) := by
    have hsorted := perm_sortedBy (fun document : PlannedDocument =>
      toLex (document.provider, document.objectId)) (self.plannedAll request)
    simpa [planFor, planOf, Discovery.extended] using hsorted
  have htarget : ∀ target ∈ (self.planFor request).providerTargets,
      ∃ name ∈ providerManifest, target = (name, targetFor request name) := by
    intro target hmem
    have hmem : target ∈ targetsOf request := mem_sortedBy.1 hmem
    obtain ⟨name, hname, rfl⟩ := List.mem_map.1 hmem
    exact ⟨name, hname, rfl⟩
  have hproviderTargets : (self.planFor request).providerTargets = targetsOf request :=
    sorted_targetsOf request
  refine
    { digest := ?_, planId := rfl, roomId := h.valid.roomId, roomRevision := h.valid.roomRevision
      oldEntityId := h.valid.oldEntityId, logicalUniqueId := h.valid.logicalUniqueId
      providers := rfl, covered := ?_, sorted := sortedBy_sortedBy _ _, climate := ?_, safe := ?_
      shared := ?_, ordered := pairwise_sortedBy _ _, distinct := ?_, known := ?_
      objectIds := ?_, revisions := ?_, fingerprints := ?_, paths := ?_, count := ?_ }
  · rw [expectedDigest, hproviderTargets, targetDict,
      entries_comprehension Prod.fst Prod.snd _ (by rw [map_fst_targetsOf]; decide)]
    have hid : (targetsOf request).map (fun target => (target.1, target.2)) = targetsOf request :=
      List.map_id _
    rw [hid]
    rfl
  · rw [hproviderTargets, map_fst_targetsOf]
  · intro target hmem
    obtain ⟨name, hname, rfl⟩ := htarget target hmem
    exact hvalid.climate name hname
  · intro target hmem
    obtain ⟨name, hname, rfl⟩ := htarget target hmem
    exact hvalid.safe name hname
  · intro targetEntityId hsome
    refine ⟨?_, fun target hmem => ?_⟩
    · have hlovelace : "lovelace".toList ∈ providerManifest := by decide
      exact hvalid.shared _ hsome _ hlovelace ▸ hvalid.climate _ hlovelace
    · obtain ⟨name, hname, rfl⟩ := htarget target hmem
      exact hvalid.shared _ hsome name hname
  · exact (hperm.map _).nodup_iff.2 (nodup_keys_plannedAll h.ready)
  · intro document hmem
    obtain ⟨name, hname, listed, -, rfl⟩ := mem_plannedAll (hdocuments document hmem)
    exact hname
  · intro document hmem
    obtain ⟨name, -, listed, -, rfl⟩ := mem_plannedAll (hdocuments document hmem)
    exact listed.objectId_ne
  · intro document hmem
    obtain ⟨name, -, listed, -, rfl⟩ := mem_plannedAll (hdocuments document hmem)
    exact listed.revision_ne
  · intro document hmem
    obtain ⟨name, -, listed, -, rfl⟩ := mem_plannedAll (hdocuments document hmem)
    exact ⟨isDigest_hexdigest _, isDigest_hexdigest _⟩
  · intro document hmem
    obtain ⟨name, -, listed, -, rfl⟩ := mem_plannedAll (hdocuments document hmem)
    exact nodup_replaceablePaths listed.keysDistinct
  · have hsum := (hperm.map fun document => document.exactPaths.length).sum_eq
    rw [pathCount, hsum]
    simp [planFor, planOf, Discovery.extended]

end

end

end TrueFamily.Migration
