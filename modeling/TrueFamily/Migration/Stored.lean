import TrueFamily.Migration.RoundTrip

/-!
# The planner and the store agree

Every plan that the planner issues is one that the store encodes and reads back, and that it
accepts as completed together with the snapshots of its documents (`createPlan_stored`).
-/

namespace TrueFamily.Migration

open Checked Sorting
open JsonValue (Text)
open Projection hiding collect

section

variable [Sha256] [JinjaParser] {self : ReferenceMigrationCoordinator} {request : PlanRequest}
  {plan : MigrationPlan} {plans : List MigrationPlan}

omit [Sha256] [JinjaParser] in
/-- What `create_plan` returns is the plan that it has built. -/
theorem ReferenceMigrationCoordinator.record_eq {built : MigrationPlan}
    (h : self.record built = .ok (plan, plans)) : plan = built := by
  unfold record at h
  split at h
  · obtain ⟨hsame, heq⟩ := bind_unit_eq_ok.1 h
    rw [check_eq_ok] at hsame
    rw [← hsame]
    exact (Prod.mk.inj (pure_eq_ok.1 heq)).1
  · exact (Prod.mk.inj (Except.ok.inj h)).1.symm

/-- Where SHA-256 has no collision between a payload of the inventory and what it becomes, an
issued plan is encoded, decoded to itself, and accepted as completed with its snapshots. -/
theorem createPlan_stored (hapart : HashedApart self request)
    (h : self.createPlan request = .ok (plan, plans)) :
    (∃ data, encodeMigrationPlan plan = .ok data ∧ decodeMigrationPlan data = .ok plan) ∧
      ∀ snapshots, Snapshots plan snapshots →
        validateJournaledCompletion (completionOf plan snapshots) plan.planId = .ok () := by
  obtain ⟨hissues, hrecord⟩ := ReferenceMigrationCoordinator.createPlan_eq_ok.1 h
  obtain rfl := ReferenceMigrationCoordinator.record_eq hrecord
  have hvalid := hissues.sound.planValid (hissues.changesExact hapart)
  refine ⟨⟨_, encodeMigrationPlan_eq_ok.2 ⟨hvalid, rfl⟩, ?_⟩, fun snapshots hsnapshots => ?_⟩
  · exact decode_encode (encodeMigrationPlan_eq_ok.2 ⟨hvalid, rfl⟩)
  · exact validateJournaledCompletion_of_sound hissues.sound hsnapshots

end

/-! ## A sample -/

namespace Sample

def coordinator : ReferenceMigrationCoordinator := coordinatorOf [firstDocument]

def plan : MigrationPlan where
  planId := "tf-reference-27e613c37dcab59cc1ad37c3".toList
  digest := planDigest
  roomId := "hall".toList
  roomRevision := 1
  oldEntityId := oldId
  logicalUniqueId := "logical_valve_a".toList
  targetEntityId := some targetId
  providerTargets := providerManifest.map fun name => (name, targetId)
  providers := providerManifest
  referencesExpected := true
  documents := [planned]
  exactReplacements := 1

theorem created : coordinator.createPlan request = .ok (plan, [plan]) := by decide +kernel

theorem hashedApart : HashedApart coordinator request := by
  intro name _ found hfound hsame
  have hlisted : coordinator.listed name =
      if name = "lovelace".toList then [firstDocument] else [] := by
    change sortedBy ReferenceDocument.objectId
      (if name = "lovelace".toList then [firstDocument] else []) = _
    split <;> rfl
  rw [hlisted] at hfound
  split at hfound
  · rename_i hlovelace
    obtain rfl := List.mem_singleton.1 hfound
    have hpost : postPayload request.oldEntityId (targetFor request name) name firstDocument =
        dashboard targetId := by
      rw [hlovelace]
      rfl
    have hne : hexdigest (canonicalJson (dashboard oldId)) ≠
        hexdigest (canonicalJson (dashboard targetId)) := by decide +kernel
    rw [hpost] at hsame
    exact absurd hsame hne
  · cases hfound

/-- The plan of the sample is stored. -/
theorem stored : ∃ data, encodeMigrationPlan plan = .ok data ∧
    decodeMigrationPlan data = .ok plan :=
  (createPlan_stored hashedApart created).1

end Sample

end TrueFamily.Migration
