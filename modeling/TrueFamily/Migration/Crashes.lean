import TrueFamily.Migration.Restored
import TrueFamily.Migration.Stored

/-!
# Any number of attempts

After a plan has been issued, `apply`, `recover_incomplete` and new coordinators may follow in any
order, and any call may fail or be the last one of its process. The documents are then all migrated
or all as before, unless the journal has the plan as incomplete; and then a recovery makes them all
as before (`attempts_atomic`).
-/

namespace TrueFamily.Migration

open Checked Sorting
open JsonValue (Text)
open Projection hiding collect
open Run (Triple Reads)

section

variable [Sha256] [JinjaParser] {plan : MigrationPlan} {before : Inventory} {service s : Service}
  {request : PlanRequest}

/-! ## The plan that is issued -/

omit [Sha256] [JinjaParser] in
theorem mem_planner_listed {name : Text} {document : ReferenceDocument} :
    document ∈ service.planner.listed name ↔
      service.providers.documents.get? (name, document.objectId) = some document := by
  rw [ReferenceMigrationCoordinator.listed, mem_sortedBy]
  exact mem_listed

/-- A plan is issued for the documents of the providers. -/
theorem issued_of_createPlan {plans : List MigrationPlan}
    (hapart : HashedApart service.planner request)
    (h : service.planner.createPlan request = .ok (plan, plans)) :
    Issued plan service.providers.documents := by
  obtain ⟨hissues, hrecord⟩ := ReferenceMigrationCoordinator.createPlan_eq_ok.1 h
  obtain rfl := ReferenceMigrationCoordinator.record_eq hrecord
  have hdocuments : ∀ planned, planned ∈ (service.planner.planFor request).documents ↔
      planned ∈ service.planner.plannedAll request := by
    intro planned
    simp [ReferenceMigrationCoordinator.planFor, planOf, Discovery.extended, mem_sortedBy]
  have hlisted : ∀ key document, service.providers.documents.get? key = some document →
      document.key = key ∧ key.1 ∈ providerManifest ∧ document ∈ service.planner.listed key.1 := by
    intro key document hget
    have hkey := service.providers.keyed key document hget
    refine ⟨hkey, service.providers.known key document hget, mem_planner_listed.2 ?_⟩
    rw [← hkey] at hget ⊢
    exact hget
  refine ⟨hissues.sound, hissues.changesExact hapart, fun key document hget => ?_,
    fun key document hget => ?_, fun planned hmem hnone => ?_⟩
  · obtain ⟨hkey, hmanifest, hmem⟩ := hlisted key document hget
    have hplannable := (hissues.ready key.1 hmanifest).plannable document hmem
    exact ⟨hkey, hmanifest, hplannable.valid, hplannable.writable⟩
  · obtain ⟨hkey, hmanifest, hmem⟩ := hlisted key document hget
    have hprovider : document.provider = key.1 := congrArg Prod.fst hkey
    have htargets : (service.planner.planFor request).providerTargets = targetsOf request :=
      sorted_targetsOf request
    rw [hdocuments, htargets, hprovider]
    exact List.mem_flatMap.2 ⟨key.1, hmanifest, List.mem_map.2 ⟨document, hmem, rfl⟩⟩
  · obtain ⟨name, -, document, hlisted, rfl⟩ := mem_plannedAll ((hdocuments planned).1 hmem)
    have hget := mem_planner_listed.1 hlisted
    rw [plannedDocument, PlannedDocument.key, hget] at hnone
    cases hnone

omit [Sha256] [JinjaParser] in
/-- Nothing is known of a plan. -/
structure Unknown (planId : Text) (s : Service) : Prop where
  plan : s.memory.plans.get? planId = none
  state : s.memory.states.get? planId = none
  originals : s.journal.originals.get? planId = none
  completion : s.journal.completions.get? planId = none

/-- The service after `create_plan` has returned. -/
theorem triple_createPlan :
    Triple (· = service) (createPlan request)
      (fun plan s => (∃ plans, service.planner.createPlan request = .ok (plan, plans))
        ∧ (service.memory.plans.get? plan.planId = none →
          s = (service.issuing plan).withState plan.planId .planned))
      fun _ _ => True := by
  refine Triple.service fun start hstart => ?_
  obtain rfl := hstart.symm
  refine Reads.triple_bind Reads.checked (fun _ => trivial) ?_
  rintro ⟨plan, plans⟩ hplan
  have hplan : service.planner.createPlan request = .ok (plan, plans) := by
    cases hcreated : service.planner.createPlan request with
    | error error =>
      rw [hcreated] at hplan
      cases hplan
    | ok result =>
      rw [hcreated] at hplan
      exact congrArg _ (Except.ok.inj hplan)
  simp only
  split
  · rename_i hknown
    exact Triple.pure fun s _ => ⟨⟨plans, hplan⟩, fun hnone => absurd hnone hknown⟩
  · refine Triple.bind (m := fun _ s => s = service.issuing plan)
      (Triple.modify fun s hs => congrArg (fun s : Service => s.issuing plan) hs) fun _ =>
        Triple.bind (triple_setState (fun _ _ => ⟨trivial, trivial⟩) fun _ _ => trivial) fun _ =>
          Triple.pure ?_
    rintro _ ⟨s, rfl, rfl⟩
    exact ⟨⟨plans, hplan⟩, fun _ => rfl⟩

/-- A plan has been issued, and nothing has been done with it. -/
theorem consistent_of_issued (hunknown : Unknown plan.planId service) :
    Consistent plan service.providers.documents
      ((service.issuing plan).withState plan.planId .planned) := by
  have horiginals : ((service.issuing plan).withState plan.planId .planned).journal.originalsFor
      plan.planId = [] := by
    change (service.journal.originals.get? plan.planId).getD [] = []
    rw [hunknown.originals]
    rfl
  have huntouched := Untouched.refl plan service.providers.documents
  refine Recorded.withState ⟨?_, ?_, ?_, ?_⟩ (by decide) (fun _ => huntouched.partly)
    (fun _ => huntouched) (fun _ _ => huntouched) ?_
  · intro entry hmem
    exact absurd (horiginals ▸ hmem) List.not_mem_nil
  · exact (congrArg _ (congrArg _ horiginals)).mpr List.nodup_nil
  · intro found hfound
    have hget : (service.memory.plans.set plan.planId plan).get? plan.planId = some plan :=
      Dict.get?_set_self _ _ _
    exact Option.some.inj (hfound.symm.trans hget)
  · intro found hfound
    have hnone := hunknown.completion
    rw [show service.journal.completions.get? plan.planId = some found from hfound] at hnone
    cases hnone
  · unfold Service.rememberedOf Service.issuing
    simp only
    rw [if_pos hunknown.state, Dict.get?_set_self]
    decide

/-! ## Attempts -/

/-- What may be done with a plan. -/
inductive Operation
  | apply (digest : Text)
  | recover
  | restart
  deriving DecidableEq, Repr

def perform (planId : Text) : Operation → Run Unit
  | .apply digest => do let _ ← apply planId digest
  | .recover => recoverIncomplete planId
  | .restart => restart

/-- The service after some attempts, each with its own faults. -/
def attempts (planId : Text) : List (Operation × List Fault) → Service → Service
  | [], s => s
  | (operation, faults) :: others, s =>
    attempts planId others ((perform planId operation).run ⟨s, faults⟩).2.service

/-- One attempt. -/
theorem triple_operation (hissued : Issued plan before) (operation : Operation) :
    Triple (Consistent plan before) (perform plan.planId operation)
      (fun _ => Consistent plan before)
      fun _ => Consistent plan before := by
  cases operation with
  | apply digest =>
    exact Triple.bind (Triple.imp (triple_apply hissued) (fun _ => id) (fun _ _ => id)
      fun _ _ h => h.1) fun _ => Triple.pure fun s hs => hs.1
  | recover =>
    exact Triple.imp (triple_recoverIncomplete hissued) (fun _ => id) (fun _ _ h => h.1.1)
      fun _ _ => id
  | restart => exact triple_restart

/-- Any number of attempts. -/
theorem attempts_consistent (hissued : Issued plan before) :
    ∀ {operations : List (Operation × List Fault)} {s : Service}, Consistent plan before s →
      Consistent plan before (attempts plan.planId operations s)
  | [], _, h => h
  | (operation, faults) :: operations, s, h => by
    rw [attempts]
    refine attempts_consistent hissued ?_
    have hends := triple_operation hissued operation ⟨s, faults⟩ h
    unfold Method.Ends at hends
    generalize (perform plan.planId operation).run ⟨s, faults⟩ = outcome at hends
    rcases outcome with ⟨_ | _, w⟩ <;> exact hends

/-- What an outcome of `apply` says: it returns only where every document has been migrated, none
refers to the old entity any more and the journal has the plan as complete; it raises
`MigrationApplyFailed` only where every document is as before, and `MigrationRestoreFailed` only
where the coordinator is blocked. -/
def Tells (plan : MigrationPlan) (before : Inventory) : Except Stop MigrationResult × World → Prop
  | (.ok _, w) => Migrated plan before w.service.providers.documents
      ∧ NoReferences plan w.service.providers.documents
      ∧ w.service.stateOf plan.planId = some .complete
  | (.error (.raised (.applyFailed _)), w) => Untouched plan before w.service.providers.documents
  | (.error (.raised (.restoreFailed _)), w) => w.service.memory.blocked = true
  | _ => True

section

variable {faults : List Fault} {created : World}
  (hapart : HashedApart service.planner request)
  (hunknown : Unknown plan.planId service)
  (hcreated : (createPlan request).run ⟨service, faults⟩ = (.ok plan, created))
include hapart hunknown hcreated

theorem consistent_of_createPlan : Issued plan service.providers.documents
    ∧ Consistent plan service.providers.documents created.service := by
  have hends := @triple_createPlan _ _ service request ⟨service, faults⟩ rfl
  unfold Method.Ends at hends
  rw [hcreated] at hends
  obtain ⟨⟨plans, hplan⟩, hservice⟩ := hends
  rw [hservice hunknown.plan]
  exact ⟨issued_of_createPlan hapart hplan, consistent_of_issued hunknown⟩

/-- After any attempts to apply, to recover and to restart, whatever calls have failed and wherever
processes have died, the plan has changed all of its documents or none, or it is incomplete; and
then a recovery without faults makes every document what it was. -/
theorem attempts_atomic (operations : List (Operation × List Fault)) :
    let s := attempts plan.planId operations created.service
    (IsIncomplete (s.stateOf plan.planId) ∧ ∃ t, Returns (recoverIncomplete plan.planId) s () t
        ∧ Untouched plan service.providers.documents t.providers.documents
        ∧ t.stateOf plan.planId = some .failed)
      ∨ s.stateOf plan.planId = some .complete
        ∧ Migrated plan service.providers.documents s.providers.documents
      ∨ Untouched plan service.providers.documents s.providers.documents := by
  intro s
  obtain ⟨hissued, hconsistent⟩ := consistent_of_createPlan hapart hunknown hcreated
  have hs : Consistent plan service.providers.documents s := attempts_consistent hissued hconsistent
  rcases @isIncomplete_cases (s.stateOf plan.planId) with hstate | hstate | ⟨hstate, hne⟩
  · obtain ⟨t, hreturns⟩ := returns_recoverIncomplete hissued hs hstate
    have hends := triple_recoverIncomplete hissued ⟨s, []⟩ hs
    unfold Method.Ends at hends
    rw [hreturns] at hends
    exact Or.inl ⟨hstate, t, hreturns, hends.1.2, hends.2⟩
  · exact Or.inr (Or.inl ⟨hstate, (hs.complete hstate).1⟩)
  · exact Or.inr (Or.inr (hs.settled hstate hne))

/-- What `apply` tells its caller after any attempts. -/
theorem apply_tells {operations : List (Operation × List Fault)} {digest : Text}
    {faults' : List Fault} {outcome : Except Stop MigrationResult × World}
    (houtcome : (apply plan.planId digest).run
      ⟨attempts plan.planId operations created.service, faults'⟩ = outcome) :
    Tells plan service.providers.documents outcome := by
  obtain ⟨hissued, hconsistent⟩ := consistent_of_createPlan hapart hunknown hcreated
  have hends := @triple_apply _ _ plan service.providers.documents hissued digest
    ⟨attempts plan.planId operations created.service, faults'⟩
    (attempts_consistent hissued hconsistent)
  unfold Method.Ends at hends
  rw [houtcome] at hends
  obtain ⟨stop | result, w⟩ := outcome
  · rcases stop with _ | (_ | _ | _ | _ | _ | _)
    · trivial
    · trivial
    · trivial
    · exact hends.2
    · exact hends.2
    · trivial
    · trivial
  · exact hends.2

end

end

/-! ## A sample -/

namespace Sample

def providers : InMemoryReferenceProviders where
  documents := Dict.empty.set firstDocument.key firstDocument
  writeCounts := Dict.empty
  keyed key document h := by
    rw [Dict.get?_set] at h
    split at h
    · rename_i heq
      rw [← Option.some.inj h, heq]
    · cases h
  known key document h := by
    rw [Dict.get?_set] at h
    split at h
    · rename_i heq
      rw [heq]
      decide
    · cases h

/-- A coordinator that has issued no plan. -/
def service : Service where
  memory := ⟨Dict.empty, Dict.empty, Dict.empty, false⟩
  providers := providers
  journal := ⟨Dict.empty, Dict.empty, Dict.empty⟩
  subjects := Dict.empty.set "hall".toList (subjectOf request)

/-- The coordinator after it has issued the plan. -/
def issued : Service := (service.issuing plan).withState plan.planId .planned

theorem listDocuments_service : service.planner.listDocuments = coordinator.listDocuments := by
  funext name
  change some (sortedBy ReferenceDocument.objectId (([(firstDocument.key, firstDocument)].filter
      fun entry => decide (entry.1.1 = name)).map Prod.snd)) =
    some (if name = "lovelace".toList then [firstDocument] else [])
  by_cases hname : name = "lovelace".toList
  · subst hname
    rfl
  · rw [if_neg hname, List.filter_cons_of_neg fun heq => hname (of_decide_eq_true heq).symm]
    rfl

theorem listed_service : service.planner.listed = coordinator.listed := by
  unfold ReferenceMigrationCoordinator.listed
  rw [listDocuments_service]

theorem created_service : service.planner.createPlan request = .ok (plan, [plan]) := by
  obtain ⟨hissues, hrecord⟩ := ReferenceMigrationCoordinator.createPlan_eq_ok.1 created
  have hplanned : service.planner.plannedAll request = coordinator.plannedAll request := by
    unfold ReferenceMigrationCoordinator.plannedAll ReferenceMigrationCoordinator.planned
    rw [listed_service]
  refine ReferenceMigrationCoordinator.createPlan_eq_ok.2
    ⟨⟨rfl, hissues.valid, rfl, fun name hmem => ?_, ?_⟩, ?_⟩
  · obtain ⟨hlisted, hplannable, hdistinct⟩ := hissues.ready name hmem
    rw [← listDocuments_service] at hlisted
    rw [← listed_service] at hplannable hdistinct
    exact ⟨hlisted, hplannable, hdistinct⟩
  · rw [hplanned]
    exact hissues.expected
  · rw [ReferenceMigrationCoordinator.planFor, hplanned]
    exact hrecord

theorem run_createPlan : (createPlan request).run ⟨service, []⟩ = (.ok plan, ⟨issued, []⟩) := by
  have hchecked : (service.planner.createPlan request).mapError ApplyError.plan =
      .ok (plan, [plan]) := by
    rw [created_service]
    rfl
  have hplanId : plan.planId ≠ [] := by decide
  exact Returns.bind Returns.service (Returns.bind (Returns.checked hchecked)
    (Returns.bind Returns.modify (Returns.bind (returns_setState hplanId) Returns.pure)))

theorem unknown : Unknown plan.planId service := ⟨rfl, rfl, rfl, rfl⟩

theorem hashedApart_service : HashedApart service.planner request := by
  unfold HashedApart
  rw [listed_service]
  exact hashedApart

/-- The process dies after the write of the dashboard, and another one starts. -/
def crash : List (Operation × List Fault) :=
  [(.apply planDigest, List.replicate 14 .none ++ [.dies]), (.restart, [])]

def crashed : Service := attempts plan.planId crash issued

theorem crashed_applying : crashed.stateOf plan.planId = some .applying
    ∧ (crashed.providers.documents.get? firstDocument.key).map (canonicalJson ·.payload) =
      some (canonicalJson (dashboard targetId)) := by decide +kernel

/-- The dashboard that was written before the crash is restored. -/
theorem crashed_restored : ∃ t, Returns (recoverIncomplete plan.planId) crashed () t
    ∧ Untouched plan service.providers.documents t.providers.documents
    ∧ t.stateOf plan.planId = some .failed := by
  have hatomic := attempts_atomic hashedApart_service unknown run_createPlan crash
  simp only at hatomic
  rw [show attempts plan.planId crash issued = crashed from rfl] at hatomic
  rcases hatomic with h | h | h
  · exact h.2
  · have hstate := crashed_applying.1.symm.trans h.1
    cases hstate
  · obtain ⟨document, hget, hpayload⟩ := Option.map_eq_some_iff.1 crashed_applying.2
    have hbefore : service.providers.documents.get? firstDocument.key = some firstDocument :=
      Dict.get?_set_self _ _ _
    rw [(Untouched.payload h hbefore hget).2] at hpayload
    exact absurd hpayload (by decide +kernel)

def applied : World := ((apply plan.planId planDigest).run ⟨issued, []⟩).2

def result : MigrationResult where
  planId := plan.planId
  digest := planDigest
  state := .complete
  changedDocuments := 1
  exactReplacements := 1
  idempotent := false

theorem run_apply :
    (apply plan.planId planDigest).run ⟨issued, []⟩ = (.ok result, applied) := by
  refine Prod.ext ?_ ?_
  · decide +kernel
  · dsimp only [applied]

/-- The plan of the sample is applied. -/
theorem applied_migrated : Tells plan service.providers.documents (.ok result, applied) :=
  @apply_tells _ _ _ _ _ _ _ hashedApart_service unknown run_createPlan [] _ _ _ run_apply

end Sample

end TrueFamily.Migration
