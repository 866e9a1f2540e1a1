import TrueFamily.Migration.Issued

/-!
# Plans do not depend on order

A plan is the same for every order in which the providers list their documents and for every order
of the keys in their payloads (`createPlan_order`).
-/

namespace TrueFamily.Migration

open Sorting
open JsonValue (Text)
open Projection hiding collect

/-! ## Listings -/

/-- The documents differ in the order of the keys in their payloads only. -/
structure SameDocument (first second : ReferenceDocument) : Prop where
  provider : first.provider = second.provider
  objectId : first.objectId = second.objectId
  revision : first.revision = second.revision
  writable : first.writable = second.writable
  payload : Same first.payload second.payload

theorem SameDocument.symm {first second : ReferenceDocument} (h : SameDocument first second) :
    SameDocument second first :=
  ⟨h.provider.symm, h.objectId.symm, h.revision.symm, h.writable.symm, h.payload.symm⟩

/-- Two listings of the same documents, in any order. -/
def SameListing (first second : Option (List ReferenceDocument)) : Prop :=
  match first, second with
  | none, none => True
  | some documents, some documents' =>
    ∃ middle, documents.Perm middle ∧ List.Forall₂ SameDocument middle documents'
  | _, _ => False

theorem SameListing.symm {first second : Option (List ReferenceDocument)}
    (h : SameListing first second) : SameListing second first := by
  cases first with
  | none =>
    cases second with
    | none => trivial
    | some _ => exact h
  | some documents =>
    cases second with
    | none => exact h
    | some documents' =>
      obtain ⟨middle, hperm, hsame⟩ := h
      have hback : Relation.Comp (List.Forall₂ SameDocument) List.Perm documents' documents :=
        ⟨middle, (List.Forall₂.imp (fun _ _ => SameDocument.symm) (List.Forall₂.flip hsame)),
          hperm.symm⟩
      rw [List.forall₂_comp_perm_eq_perm_comp_forall₂] at hback
      exact hback

theorem exists_sameDocument {documents documents' : List ReferenceDocument}
    (h : List.Forall₂ SameDocument documents documents') :
    ∀ document ∈ documents', ∃ first ∈ documents, SameDocument first document := by
  induction h with
  | nil => exact fun _ hmem => absurd hmem List.not_mem_nil
  | cons hfirst _ ih =>
    refine List.forall_mem_cons.2 ⟨⟨_, List.mem_cons_self, hfirst⟩, fun document hmem => ?_⟩
    obtain ⟨first, hmem, hsame⟩ := ih document hmem
    exact ⟨first, List.mem_cons_of_mem _ hmem, hsame⟩

section

variable [Sha256] [JinjaParser] {old target name : Text}

theorem SameDocument.planned {first second : ReferenceDocument} (h : SameDocument first second) :
    plannedDocument old target name first = plannedDocument old target name second := by
  simp only [plannedDocument, h.objectId, h.revision, h.writable, h.payload.canonicalJson_eq,
    h.payload.walk_eq, (h.payload.mapStrings _).canonicalJson_eq]

omit [Sha256] in
theorem SameDocument.plannable {first second : ReferenceDocument} (h : SameDocument first second)
    (hplan : Plannable old name first) : Plannable old name second where
  provider := h.provider ▸ hplan.provider
  valid := h.payload.validatePayload_eq ▸ hplan.valid
  writable := h.writable ▸ hplan.writable
  free := h.payload.walk_eq old (some name) ▸ hplan.free

/-! ## One provider -/

variable {self other : ReferenceMigrationCoordinator}

/-- A provider that lists the same documents is as ready, and the same is planned for it. -/
theorem Ready.of_sameListing (h : SameListing (self.listDocuments name) (other.listDocuments name))
    (hready : Ready self old name) (targets : List (Text × Text)) :
    Ready other old name ∧ other.planned old targets name = self.planned old targets name := by
  obtain ⟨documents, hlist⟩ := Option.ne_none_iff_exists'.1 hready.listed
  cases hother : other.listDocuments name with
  | none =>
    rw [hlist, hother] at h
    exact h.elim
  | some documents' =>
    rw [hlist, hother] at h
    obtain ⟨middle, hperm, hsame⟩ := h
    have hself : (self.listed name).Perm middle := by
      rw [ReferenceMigrationCoordinator.listed, hlist]
      exact (perm_sortedBy _ _).trans hperm
    have hlisted : (other.listed name).Perm documents' := by
      rw [ReferenceMigrationCoordinator.listed, hother]
      exact perm_sortedBy _ _
    have hids : ((other.listed name).map (·.objectId)).Perm
        ((self.listed name).map (·.objectId)) := by
      have heq : middle.map (·.objectId) = documents'.map (·.objectId) :=
        List.forall₂_eq_eq_eq ▸ List.forall₂_map_left_iff.2
          (List.forall₂_map_right_iff.2 (hsame.imp fun _ _ => SameDocument.objectId))
      exact (hlisted.map _).trans (heq ▸ (hself.map _).symm)
    have hplanned : (other.planned old targets name).Perm (self.planned old targets name) := by
      have heq : middle.map (plannedDocument old (targetOf targets name) name) =
          documents'.map (plannedDocument old (targetOf targets name) name) :=
        List.forall₂_eq_eq_eq ▸ List.forall₂_map_left_iff.2
          (List.forall₂_map_right_iff.2 (hsame.imp fun _ _ => SameDocument.planned))
      exact (hlisted.map _).trans (heq ▸ (hself.map _).symm)
    refine ⟨⟨hother ▸ Option.some_ne_none _, fun document hmem => ?_,
      hids.nodup_iff.2 hready.distinct⟩, ?_⟩
    · obtain ⟨first, hfirst, hdocument⟩ := exists_sameDocument hsame document
        (hlisted.mem_iff.1 hmem)
      exact hdocument.plannable (hready.plannable first (hself.mem_iff.2 hfirst))
    · -- both are in the order of their object IDs, which are distinct
      refine hplanned.eq_of_pairwise (fun a b ha hb hab hba => ?_)
        (pairwise_planned other old targets name) (pairwise_planned self old targets name)
      have hnodup : ((self.planned old targets name).map (·.objectId)).Nodup :=
        (objectIds_planned self old targets name).symm ▸ hready.distinct
      exact List.inj_on_of_nodup_map hnodup (hplanned.mem_iff.1 ha) hb (le_antisymm hab hba)

/-! ## The plan -/

namespace ReferenceMigrationCoordinator

/-- The coordinator with providers that list other documents. -/
def withListings (self : ReferenceMigrationCoordinator)
    (listDocuments : Text → Option (List ReferenceDocument)) : ReferenceMigrationCoordinator :=
  { self with listDocuments := listDocuments }

theorem createPlan_of_sameListing {self : ReferenceMigrationCoordinator}
    {listDocuments : Text → Option (List ReferenceDocument)} {request : PlanRequest}
    {result : MigrationPlan × List MigrationPlan}
    (hlistings : ∀ name ∈ providerManifest,
      SameListing (self.listDocuments name) (listDocuments name))
    (h : self.createPlan request = .ok result) :
    (self.withListings listDocuments).createPlan request = .ok result := by
  obtain ⟨hissues, hrecord⟩ := createPlan_eq_ok.1 h
  have hsame : ∀ name ∈ providerManifest, _ := fun name hmem =>
    @Ready.of_sameListing _ _ request.oldEntityId name self (self.withListings listDocuments)
      (hlistings name hmem) (hissues.ready name hmem) (targetsOf request)
  have hplanned : (self.withListings listDocuments).plannedAll request =
      self.plannedAll request :=
    List.flatMap_congr fun name hmem => (hsame name hmem).2
  refine createPlan_eq_ok.2 ⟨⟨hissues.unblocked, hissues.valid, hissues.subject,
    fun name hmem => (hsame name hmem).1, ?_⟩, ?_⟩
  · rw [hplanned]
    exact hissues.expected
  · rw [planFor, hplanned]
    exact hrecord

/-- `create_plan` returns the same for every order of the documents in their listings and of the
keys in their payloads. -/
theorem createPlan_order {self : ReferenceMigrationCoordinator}
    {listDocuments : Text → Option (List ReferenceDocument)}
    (hlistings : ∀ name ∈ providerManifest,
      SameListing (self.listDocuments name) (listDocuments name))
    (request : PlanRequest) (result : MigrationPlan × List MigrationPlan) :
    self.createPlan request = .ok result ↔
      (self.withListings listDocuments).createPlan request = .ok result :=
  ⟨createPlan_of_sameListing hlistings, fun h =>
    @createPlan_of_sameListing _ _ (self.withListings listDocuments) self.listDocuments request
      result (fun name hmem => (hlistings name hmem).symm) h⟩

end ReferenceMigrationCoordinator

end

/-! ## Dashboards with one reference -/

namespace Sample

/-- A dashboard with one reference. -/
def dashboard (entityId : Text) : Payload :=
  .dict [("title".toList, .str "Heating".toList), ("entity".toList, .str entityId)]

/-- The same dashboard with its keys in order. -/
def sortedDashboard (entityId : Text) : Payload :=
  .dict [("entity".toList, .str entityId), ("title".toList, .str "Heating".toList)]

def oldId : Text := "climate.a".toList

def targetId : Text := "climate.b".toList

def preDigest : Text :=
  "241cf5450650301f27efa86b4b0f368ac7c5363db7ded361f009e9431e08fc66".toList

def postDigest : Text :=
  "b22333c2e96cdea07f6e1333ad2faf58c3d5a899968a3d89867720408c6aab65".toList

/-- What is planned for the dashboard. -/
def planned : PlannedDocument where
  provider := "lovelace".toList
  objectId := "dash".toList
  revision := .integer 3
  writable := true
  fingerprint := preDigest
  postFingerprint := postDigest
  exactPaths := [[.key "entity".toList]]

/-- The text whose digest is the digest of the plan. -/
def planText : Text :=
  canonicalJson (digestPayload "hall".toList 1 oldId "logical_valve_a".toList (some targetId)
    (providerManifest.map fun name => (name, targetId)) providerManifest true [planned])

def planDigest : Text :=
  "d02bde93b9815b99879f4cb485e7bcf35a2e81afc012412f70797d9d8c8c768d".toList

/-- The text whose digest is the digest of the plan for two such dashboards. -/
def pairText : Text :=
  canonicalJson (digestPayload "hall".toList 1 oldId "logical_valve_a".toList (some targetId)
    (providerManifest.map fun name => (name, targetId)) providerManifest true
    [{ planned with objectId := "attic".toList }, planned])

def pairDigest : Text :=
  "f99596d961107345b82d93f2adc231ccfa89b8b68131c95cd13791c391cb21d3".toList

/-- SHA-256 on the texts of the samples. -/
def digestOf (text : Text) : Text :=
  if text = canonicalJson (dashboard oldId) then preDigest
  else if text = canonicalJson (dashboard targetId) then postDigest
  else if text = planText then planDigest
  else if text = "reference-plan:".toList ++ planDigest then
    "27e613c37dcab59cc1ad37c3b0dd632755e284cbd1a08d9447feb0d0caf340e1".toList
  else if text = pairText then pairDigest
  else if text = "reference-plan:".toList ++ pairDigest then
    "7344530910a48321941a4c1f44b308e1afc5b6687c7ff8e403de7c64e2ecd2c5".toList
  else List.replicate 64 '0'

scoped instance : Sha256 where
  hexdigest := digestOf
  isDigest_hexdigest text := by
    unfold digestOf
    split_ifs <;> decide +kernel

/-- No template is read. -/
scoped instance : JinjaParser where
  parse _ := none

def document (payload : Payload) (h : KeysDistinct payload) : ReferenceDocument where
  provider := "lovelace".toList
  objectId := "dash".toList
  revision := .integer 3
  payload := payload
  writable := true
  provider_ne := by decide
  objectId_ne := by decide
  revision_ne := by decide
  keysDistinct := h

def firstDocument : ReferenceDocument :=
  document (dashboard oldId) ⟨by decide, trivial, trivial, trivial⟩

def secondDocument : ReferenceDocument :=
  document (sortedDashboard oldId) ⟨by decide, trivial, trivial, trivial⟩

/-- The same dashboard under another name. -/
def atticDocument : ReferenceDocument :=
  { firstDocument with
    objectId := "attic".toList
    objectId_ne := by decide }

/-- The other providers have no documents. -/
def listDocuments (dashboards : List ReferenceDocument) (name : Text) :
    Option (List ReferenceDocument) :=
  some (if name = "lovelace".toList then dashboards else [])

def request : PlanRequest where
  roomId := "hall".toList
  roomRevision := 1
  oldEntityId := oldId
  logicalUniqueId := "logical_valve_a".toList
  targetEntityId := some targetId
  providerTargets := none
  requiredProviders := providerManifest
  referencesExpected := true

def coordinatorOf (dashboards : List ReferenceDocument) : ReferenceMigrationCoordinator where
  blocked := false
  listDocuments := listDocuments dashboards
  resolveSubject _ := some (subjectOf request)
  plans := []

/-- The dashboards are listed the other way round, and one has its keys in order. -/
theorem listings : ∀ name ∈ providerManifest,
    SameListing ((coordinatorOf [firstDocument, atticDocument]).listDocuments name)
      (listDocuments [atticDocument, secondDocument] name) := by
  intro name _
  change SameListing (listDocuments [firstDocument, atticDocument] name)
    (listDocuments [atticDocument, secondDocument] name)
  unfold listDocuments
  split
  · refine ⟨[atticDocument, firstDocument], List.Perm.swap _ _ _,
      List.Forall₂.cons ⟨rfl, rfl, rfl, rfl, rfl⟩ (List.Forall₂.cons ?_ List.Forall₂.nil)⟩
    exact ⟨rfl, rfl, rfl, rfl, rfl⟩
  · exact ⟨[], List.Perm.refl _, List.Forall₂.nil⟩

/-- A plan with two documents is issued, and it does not depend on the order of the listing and of
the keys. -/
theorem created_reordered : ∃ plan plans,
    (coordinatorOf [firstDocument, atticDocument]).createPlan request = .ok (plan, plans) ∧
      plan.documents.length = 2 ∧
      ((coordinatorOf [firstDocument, atticDocument]).withListings
        (listDocuments [atticDocument, secondDocument])).createPlan request =
          .ok (plan, plans) := by
  have hlength : ((coordinatorOf [firstDocument, atticDocument]).createPlan request).toOption.map
      (·.1.documents.length) = some 2 := by decide +kernel
  cases hcreated : (coordinatorOf [firstDocument, atticDocument]).createPlan request with
  | error e =>
    rw [hcreated] at hlength
    cases hlength
  | ok result =>
    rw [hcreated] at hlength
    exact ⟨result.1, result.2, rfl, Option.some.inj hlength,
      (ReferenceMigrationCoordinator.createPlan_order listings request result).1 hcreated⟩

end Sample

end TrueFamily.Migration
