import TrueFamily.Migration.Outcome

/-!
# However applying ends

At whatever call `apply` fails or dies, what is recorded of the plan is consistent (`triple_apply`).
-/

namespace TrueFamily.Migration

open Checked Sorting
open JsonValue (Text)
open Projection hiding collect
open Run (Triple Reads)

section

variable [Sha256] [JinjaParser] {plan : MigrationPlan} {before : Inventory} {start s : Service}
  {keys : DocumentKey → Prop}

/-! ## Rolling back -/

/-- The coordinator is blocked while the plan is incomplete. -/
theorem triple_block {failed : List Failure} {α : Type} :
    Triple (fun s => Consistent plan before s ∧ IsIncomplete (s.stateOf plan.planId))
      (do
        remember plan.planId .blocked
        setBlocked true
        setState plan.planId .blocked
        Run.raise (.restoreFailed failed) : Run α)
      (fun _ _ => False) (Stopped plan before) := by
  have hblocked : ∀ s, Consistent plan before s →
      Consistent plan before ((s.remembering plan.planId .blocked).withBlocked true) := fun s hs =>
    (hs.remembering (fun _ hstate => absurd (Or.inr rfl) hstate) nofun).withBlocked nofun
  have hstate : ∀ s, Consistent plan before s → IsIncomplete (s.stateOf plan.planId) →
      Consistent plan before
        (((s.remembering plan.planId .blocked).withBlocked true).withState plan.planId .blocked) :=
    fun s hs hincomplete => (hblocked s hs).recorded.withState (by decide)
      (fun _ => hs.incomplete hincomplete) (fun hstate => absurd (Or.inr rfl) hstate) nofun
      ((rememberedOf_remembering s plan.planId .blocked).trans_ne (by decide))
  refine Triple.bind triple_remember fun _ => Triple.bind triple_setBlocked fun _ =>
    Triple.bind (triple_setState ?_ ?_) fun _ => Triple.raise ?_
  · rintro _ ⟨_, ⟨s, hs, rfl⟩, rfl⟩
    exact (hblocked s hs.1).stopped
  · rintro _ ⟨_, ⟨s, hs, rfl⟩, rfl⟩
    exact ⟨hstate s hs.1 hs.2, trivial⟩
  · rintro _ ⟨_, ⟨_, ⟨s, hs, rfl⟩, rfl⟩, rfl⟩
    exact ⟨hstate s hs.1 hs.2, rfl⟩

omit [Sha256] in
/-- The originals of an inventory of untouched documents. -/
theorem Untouched.isInventory (h : Untouched plan before s.providers.documents)
    {originals : Inventory}
    (horiginals : ∀ key, originals.get? key = s.providers.documents.get? key) :
    IsInventory before originals where
  same key := by rw [horiginals, h.same]
  original key document hget := by
    rw [horiginals] at hget
    obtain ⟨original, hbefore⟩ := exists_of_same (h.same key) hget
    rw [IsOriginal, s.providers.keyed key document hget]
    exact ⟨original, hbefore, (h.payload hbefore hget).2, (h.payload hbefore hget).1⟩
  keyed key document hget := s.providers.keyed key document (horiginals key ▸ hget)

theorem triple_rollBack (hissued : Issued plan before) (hbegun : Begun plan before start)
    (hkeys : ∀ key, keys key → start.journaled plan.planId key) {attempted : List Attempted}
    {originals : Inventory} (hattempted : ∀ item ∈ attempted, IsOriginal before item.1)
    (hinventory : IsInventory before originals) :
    Triple (Within start plan before keys) (rollBack plan attempted originals) (fun _ _ => False)
      (Stopped plan before) := by
  unfold rollBack
  refine Triple.bind (Triple.imp (triple_restoreOriginals hissued hattempted hinventory)
    (fun _ => id) (fun _ _ => id) ?_) fun failed => ?_
  · rintro _ s ⟨rfl, hs⟩
    exact (hbegun.consistent hkeys hs).stopped.1
  · split
    · exact triple_giveUp fun s hs => ⟨hbegun.consistent hkeys hs.1, hs.2 ‹_›⟩
    · refine Triple.imp triple_block ?_ (fun _ _ => id) fun _ _ => id
      rintro s ⟨hs, -⟩
      refine ⟨hbegun.consistent hkeys hs, Or.inl ?_⟩
      obtain ⟨providers, rfl, -⟩ := hs
      exact hbegun.state

/-! ## Applying -/

/-- `apply` has returned. -/
def Applied (plan : MigrationPlan) (before : Inventory) (s : Service) : Prop :=
  Consistent plan before s ∧ Migrated plan before s.providers.documents
    ∧ NoReferences plan s.providers.documents ∧ s.stateOf plan.planId = some .complete

/-- Nothing is changed yet. -/
def Unchanged (plan : MigrationPlan) (before : Inventory) (s : Service) : Prop :=
  Consistent plan before s ∧ Untouched plan before s.providers.documents

theorem Consistent.unchanged (h : Consistent plan before s) (hblocked : s.memory.blocked = false)
    {state : MigrationState} (hstate : s.rememberedOf plan.planId = some state)
    (hplanned : state = .planned ∨ state = .failed) : Unchanged plan before s := by
  refine ⟨h, (h.remembered hblocked ?_).resolve_right ?_⟩ <;> rw [hstate] <;>
    rcases hplanned with rfl | rfl <;> simp [IsIncomplete]

/-- From the journaling of the originals on. -/
theorem triple_applyChanges (hissued : Issued plan before) {originals : Inventory}
    {changes : List Change} (hinventory : IsInventory before originals)
    (hchanges : changesOf plan originals = .ok changes) :
    Triple (Unchanged plan before) (applyChanges plan originals changes)
      (fun _ => Applied plan before) (Stopped plan before) := by
  have hremembering : ∀ s, Unchanged plan before s →
      Consistent plan before (s.remembering plan.planId .applying) := fun s hs =>
    hs.1.remembering (fun _ hstate => absurd (Or.inl rfl) hstate) nofun
  have hbegun : ∀ s, Unchanged plan before s →
      Begun plan before ((s.remembering plan.planId .applying).withState plan.planId .applying) :=
    fun s hs => ⟨⟨hs.1.recorded.originals, hs.1.recorded.distinct, hs.1.recorded.plan_eq,
      hs.1.recorded.completion⟩, hs.2, stateOf_withState _ _ _, rememberedOf_remembering _ _ _⟩
  have hbegunConsistent : ∀ s, Begun plan before s → Consistent plan before s := fun s hs =>
    hs.consistent (fun _ => False.elim) (hs.within _)
  have horiginal : ∀ change ∈ changes, IsOriginal before change.original := fun change hmem =>
    (@changesOf_allowed _ _ plan before (fun _ => True) hissued originals hinventory changes
      hchanges (fun _ _ => trivial) change hmem).original
  unfold applyChanges
  refine Triple.bind triple_remember fun _ => Triple.bind (triple_setState ?_ ?_) fun _ => ?_
  · rintro _ ⟨s, hs, rfl⟩
    exact (hremembering s hs).stopped
  · rintro _ ⟨s, hs, rfl⟩
    exact ⟨hbegunConsistent _ (hbegun s hs), trivial⟩
  refine Triple.bind (m := fun _ s => Begun plan before s
      ∧ ∀ change ∈ changes, s.journaled plan.planId change.original.key)
    (Triple.catching (c := fun _ => Begun plan before) ?_ fun _ =>
      (triple_giveUp fun s hs => ⟨hbegunConsistent s hs, hs.untouched⟩).post_imp
        fun _ _ => False.elim) fun _ => Triple.of_forall fun start hstart => ?_
  · refine Triple.imp (@triple_recordOriginals _ _ plan before hissued changes (fun _ => False)
      horiginal) ?_ (fun _ s hs => ⟨hs.1, hs.2.2⟩) ?_
    · rintro _ ⟨_, ⟨s, hs, rfl⟩, rfl⟩
      exact ⟨hbegun s hs, fun _ => False.elim⟩
    · rintro (_ | error) s hs
      · exact (hbegunConsistent s hs).stopped.1
      · exact hs
  -- Everything that is written from here on has been journaled.
  obtain ⟨hstart, hjournaled⟩ := hstart
  have hallowed := @changesOf_allowed _ _ plan before (start.journaled plan.planId) hissued
    originals
    hinventory changes hchanges hjournaled
  have hwithin : ∀ t, Within start plan before (start.journaled plan.planId) t →
      Consistent plan before t := fun t ht => hstart.consistent (fun _ => id) ht
  refine Triple.bind (Triple.imp (@triple_writeChanges _ _ plan before _ start changes hallowed) ?_
    (fun _ _ => id) ?_) ?_
  · rintro _ rfl
    exact hstart.within _
  · rintro _ t ⟨rfl, ht⟩
    exact (hwithin t ht).stopped.1
  rintro ⟨outcome, attempted⟩
  refine Triple.bind (m := fun final t => (Within start plan before (start.journaled plan.planId) t
      ∧ ∀ item ∈ attempted, IsOriginal before item.1)
    ∧ ∀ documents, final = .ok documents →
        (∀ key, documents.get? key = t.providers.documents.get? key)
          ∧ assertPostApply plan documents = .ok ()) ?_ fun final => ?_
  · cases outcome with
    | error error => exact Triple.pure fun t ht => ⟨ht, nofun⟩
    | ok _ =>
      refine Triple.imp (Reads.attempted fun t _ => reads_finalInventory hissued) (fun _ => id)
        (fun _ _ => id) ?_
      rintro _ t ⟨rfl, ht⟩
      exact (hwithin t ht.1).stopped.1
  · refine Triple.of_forall fun t ht => ?_
    obtain ⟨⟨ht, hattempted⟩, hfinal⟩ := ht
    cases final with
    | error error =>
      exact Triple.imp (triple_rollBack hissued hstart (fun _ => id) hattempted hinventory)
        (fun _ heq => heq ▸ ht) (fun _ _ => False.elim) fun _ _ => id
    | ok documents =>
      refine Triple.imp (triple_complete hissued) ?_ (fun _ _ => id) fun _ _ => id
      rintro _ rfl
      obtain ⟨hdocuments, hchecked⟩ := hfinal documents rfl
      obtain ⟨providers, rfl, hpartly⟩ := ht
      obtain ⟨hmigrated, hfree⟩ := migrated_of_postApply hissued hpartly hdocuments hchecked
      exact ⟨⟨⟨hstart.recorded.originals, hstart.recorded.distinct, hstart.recorded.plan_eq,
        hstart.recorded.completion⟩, hpartly, hmigrated, hfree, hstart.remembered,
        Or.inl hstart.state⟩, hstart.state, hdocuments⟩

omit [Sha256] in
/-- Making up the changes does not say that anything was written. -/
theorem changesOf_error {originals : Inventory} {error : ApplyError}
    (h : changesOf plan originals = .error error) (before : Inventory) (s : Service) :
    Told plan before (.raised error) s := by
  obtain ⟨planned, h⟩ := collect_eq_error h
  rcases bind_eq_error.1 h with h | ⟨original, -, h⟩
  · unfold Inventory.item at h
    split at h
    · cases h
    · obtain rfl := Except.error.inj h
      trivial
  · split at h
    · obtain rfl := Except.error.inj h
      trivial
    · split at h
      · obtain rfl := Except.error.inj h
        trivial
      · rcases bind_eq_error.1 h with h | ⟨_, -, h⟩
        · obtain rfl := (check_eq_error.1 h).2
          trivial
        · cases h

/-- A plan that is applied for the first time, or again. -/
theorem triple_applyPlanned (hissued : Issued plan before) :
    Triple (Unchanged plan before) (applyPlanned plan) (fun _ => Applied plan before)
      (Stopped plan before) := by
  have hremembering : ∀ s, Unchanged plan before s →
      Consistent plan before (s.remembering plan.planId .blocked) := fun s hs =>
    hs.1.remembering (fun _ hstate => absurd (Or.inr rfl) hstate) nofun
  unfold applyPlanned
  refine Triple.bind (m := fun originals s => Unchanged plan before s
      ∧ ∀ key, originals.get? key = s.providers.documents.get? key)
    (Triple.catching (c := fun _ => Unchanged plan before) ?_ fun _ => ?_)
    fun originals => Triple.of_forall fun start hstart => ?_
  · refine Reads.triple (fun s _ => reads_preflight hissued) ?_
    rintro (_ | error) s hs
    · exact hs.1.stopped.1
    · exact hs
  · have hstate : ∀ s, Unchanged plan before s → Consistent plan before
        ((s.remembering plan.planId .blocked).withState plan.planId .failed) := fun s hs =>
      (hremembering s hs).recorded.withState (by decide) (fun _ => hs.2.partly) (fun _ => hs.2)
        (fun _ _ => hs.2) ((rememberedOf_remembering s plan.planId .blocked).trans_ne (by decide))
    refine Triple.bind triple_remember fun _ => Triple.bind (triple_setState ?_ ?_) fun _ =>
      Triple.raise ?_
    · rintro _ ⟨s, hs, rfl⟩
      exact (hremembering s hs).stopped
    · rintro _ ⟨s, hs, rfl⟩
      exact ⟨hstate s hs, trivial⟩
    · rintro _ ⟨_, ⟨s, hs, rfl⟩, rfl⟩
      exact ⟨hstate s hs, trivial⟩
  · have hinventory := hstart.1.2.isInventory hstart.2
    split
    · rename_i changes hchanges
      refine Triple.imp (triple_applyChanges hissued hinventory hchanges) ?_ (fun _ _ => id)
        fun _ _ => id
      rintro _ rfl
      exact hstart.1
    · refine Triple.bind triple_remember fun _ => Triple.raise ?_
      rintro _ ⟨s, rfl, rfl⟩
      exact ⟨hremembering s hstart.1, trivial⟩
    · rename_i error _ herror
      refine Triple.raise ?_
      rintro _ rfl
      exact ⟨hstart.1.1, changesOf_error herror before _⟩

/-- A replay checks that the documents are still migrated. -/
theorem triple_replayCompleted (hissued : Issued plan before) :
    Triple (fun s => Consistent plan before s ∧ s.rememberedOf plan.planId = some .complete)
      (replayCompleted plan) (fun _ => Applied plan before) (Stopped plan before) := by
  refine Triple.service fun start hstart => ?_
  split
  · refine Triple.raise ?_
    rintro _ rfl
    exact hstart.1.stopped.2
  · rename_i completion _
    refine Triple.bind (m := fun _ => Applied plan before)
      (Triple.catching (c := fun _ => Consistent plan before) ?_ fun _ => ?_)
      fun _ => Triple.pure fun _ => id
    · have hreads : Reads (do
          assertAuthority plan
          let inventory ← fetchInventory plan.providers Dict.empty
          let found ← Run.checked (snapshots inventory)
          Run.require (found = completion.documents) .stale
          Run.checked (assertPostApply plan inventory)) start fun _ => Applied plan before start :=
        Reads.bind reads_assertAuthority fun _ _ => Reads.bind
          (reads_fullInventory fun name hname => by rwa [hissued.sound.providers])
          fun inventory hinventory => Reads.bind Reads.checked fun _ _ =>
            Reads.bind Reads.require fun _ _ => Reads.checked.imp fun _ hchecked =>
              let hmigrated := migrated_of_postApply hissued hstart.1.partly hinventory hchecked
              ⟨hstart.1, hmigrated.1, hmigrated.2, hstart.1.durable hstart.2⟩
      refine Triple.imp hreads (fun _ => id) ?_ ?_
      · rintro _ _ ⟨rfl, happlied⟩
        exact happlied
      · rintro (_ | error) _ rfl
        · exact hstart.1.stopped.1
        · exact hstart.1
    · refine Triple.bind triple_remember fun _ => Triple.raise ?_
      rintro _ ⟨s, hs, rfl⟩
      exact ⟨hs.remembering (fun _ hstate => absurd (Or.inr rfl) hstate) nofun, trivial⟩

/-- However `apply` ends, the journal and the documents are consistent. -/
theorem triple_apply (hissued : Issued plan before) {digest : Text} :
    Triple (Consistent plan before) (apply plan.planId digest) (fun _ => Applied plan before)
      (Stopped plan before) := by
  refine Triple.service fun start hstart => ?_
  simp only
  split
  · refine Triple.raise ?_
    rintro _ rfl
    exact ⟨hstart, trivial⟩
  · rename_i found hfound
    obtain rfl : plan = found := (hstart.recorded.plan_eq found hfound).symm
    refine Triple.require (fun _ s hs => hs ▸ ⟨hstart, trivial⟩) fun _ =>
      Triple.require (fun hblocked s hs => hs ▸ ⟨hstart, (Bool.not_eq_false _).mp hblocked⟩)
        fun hblocked => ?_
    have hraise {error : ApplyError} {α : Type} (htold : Told plan before (.raised error) start) :
        Triple (· = start) (Run.raise error : Run α) (fun _ => Applied plan before)
          (Stopped plan before) := Triple.raise fun s hs => hs ▸ ⟨hstart, htold⟩
    split
    · exact hraise trivial
    · exact hraise trivial
    · exact hraise trivial
    · refine Triple.imp (triple_replayCompleted hissued) ?_ (fun _ _ => id) fun _ _ => id
      rintro _ rfl
      exact ⟨hstart, ‹_›⟩
    all_goals
      refine Triple.imp (triple_applyPlanned hissued) ?_ (fun _ _ => id) fun _ _ => id
      rintro _ rfl
      exact hstart.unchanged hblocked ‹_› (by decide)

end

end TrueFamily.Migration
