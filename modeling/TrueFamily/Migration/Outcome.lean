import TrueFamily.Migration.Writes

/-!
# What holds between the documents, the journal and the coordinator

`Consistent plan before s`: a plan that the journal has as incomplete has its originals journaled,
one that is complete has migrated every document, and any other has changed nothing. The steps of
`apply` keep this up to its end (`triple_complete`), at whatever call they fail or die.
-/

namespace TrueFamily.Migration

open Checked Sorting
open JsonValue (Text)
open Projection hiding collect
open Run (Triple Reads)

section

variable [Sha256] [JinjaParser]

/-- A journaled original, with the fingerprint of what the plan makes of it. -/
def JournaledOriginal.Sound (entry : JournaledOriginal) (plan : MigrationPlan)
    (before : Inventory) : Prop :=
  ∃ original, before.get? entry.document.key = some original
    ∧ entry.document.payload = original.payload ∧ entry.document.writable = original.writable
    ∧ entry.postFingerprint = hexdigest (canonicalJson (plan.postOf original))

omit [Sha256] [JinjaParser] in
/-- The keys of the journaled originals. -/
def Service.journaled (s : Service) (planId : Text) (key : DocumentKey) : Prop :=
  ∃ entry ∈ s.journal.originalsFor planId, entry.document.key = key

/-- The state of a plan in the journal. -/
def Service.stateOf (s : Service) (planId : Text) : Option MigrationState :=
  s.journal.states.get? planId

/-- The state of a plan in the coordinator. -/
def Service.rememberedOf (s : Service) (planId : Text) : Option MigrationState :=
  s.memory.states.get? planId

omit [Sha256] [JinjaParser] in
/-- The plan may have changed documents. -/
def IsIncomplete (state : Option MigrationState) : Prop :=
  state = some .applying ∨ state = some .blocked

/-- What is recorded about a plan. -/
structure Recorded (plan : MigrationPlan) (before : Inventory) (s : Service) : Prop where
  originals : ∀ entry ∈ s.journal.originalsFor plan.planId, entry.Sound plan before
  distinct : ((s.journal.originalsFor plan.planId).map fun entry => entry.document.key).Nodup
  plan_eq : ∀ found, s.memory.plans.get? plan.planId = some found → found = plan
  completion : ∀ found, s.journal.completions.get? plan.planId = some found → found.plan = plan

/-- The documents, the journal and the coordinator agree about a plan. -/
structure Consistent (plan : MigrationPlan) (before : Inventory) (s : Service) : Prop where
  recorded : Recorded plan before s
  incomplete : IsIncomplete (s.stateOf plan.planId) →
    Partly plan before (s.journaled plan.planId) s.providers.documents
  complete : s.stateOf plan.planId = some .complete →
    Migrated plan before s.providers.documents
      ∧ s.journal.completions.get? plan.planId ≠ none
  settled : ¬ IsIncomplete (s.stateOf plan.planId) → s.stateOf plan.planId ≠ some .complete →
    Untouched plan before s.providers.documents
  remembered : s.memory.blocked = false → ¬ IsIncomplete (s.rememberedOf plan.planId) →
    Untouched plan before s.providers.documents
      ∨ s.rememberedOf plan.planId = some .complete
  durable : s.rememberedOf plan.planId = some .complete → s.stateOf plan.planId = some .complete

variable {plan : MigrationPlan} {before : Inventory} {s : Service}

omit [Sha256] [JinjaParser] in
theorem isIncomplete_cases {state : Option MigrationState} : IsIncomplete state ∨
    state = some .complete ∨ (¬ IsIncomplete state ∧ state ≠ some .complete) := by
  unfold IsIncomplete
  rcases state with _ | (_ | _ | _ | _ | _) <;> simp

omit [Sha256] in
theorem Migrated.partly {documents : Inventory} (h : Migrated plan before documents) :
    Partly plan before (fun _ => True) documents where
  same := h.same
  contents key original document hbefore hget :=
    let ⟨hwritable, hpayload⟩ := h.contents key original document hbefore hget
    ⟨hwritable, Or.inr ⟨trivial, hpayload⟩⟩

/-- Whatever the state is, every document has one of its two payloads. -/
theorem Consistent.partly (h : Consistent plan before s) :
    Partly plan before (fun _ => True) s.providers.documents := by
  rcases @isIncomplete_cases (s.stateOf plan.planId) with hstate | hstate | ⟨hstate, hne⟩
  · exact (h.incomplete hstate).imp fun _ _ => trivial
  · exact (h.complete hstate).1.partly
  · exact (h.settled hstate hne).partly

/-! ## Steps of the coordinator -/

omit [Sha256] [JinjaParser] in
theorem rememberedOf_remembering (s : Service) (planId : Text) (state : MigrationState) :
    (s.remembering planId state).rememberedOf planId = some state :=
  Dict.get?_set_self _ _ _

/-- The coordinator remembers another state. -/
theorem Consistent.remembering (h : Consistent plan before s) {state : MigrationState}
    (hstate : s.memory.blocked = false → ¬ IsIncomplete (some state) →
      Untouched plan before s.providers.documents
        ∨ state = .complete)
    (hdurable : state = .complete → s.stateOf plan.planId = some .complete) :
    Consistent plan before (s.remembering plan.planId state) where
  recorded := ⟨h.recorded.originals, h.recorded.distinct, h.recorded.plan_eq, h.recorded.completion⟩
  incomplete := h.incomplete
  complete := h.complete
  settled := h.settled
  remembered hblocked hincomplete := by
    rw [rememberedOf_remembering] at hincomplete ⊢
    exact (hstate hblocked hincomplete).imp_right (congrArg some)
  durable hcomplete := by
    rw [rememberedOf_remembering] at hcomplete
    exact hdurable (Option.some.inj hcomplete)

/-- The coordinator is blocked, or has a plan that has changed nothing. -/
theorem Consistent.withBlocked (h : Consistent plan before s) {blocked : Bool}
    (hblocked : blocked = false → Untouched plan before s.providers.documents) :
    Consistent plan before (s.withBlocked blocked) where
  recorded := ⟨h.recorded.originals, h.recorded.distinct, h.recorded.plan_eq, h.recorded.completion⟩
  incomplete := h.incomplete
  complete := h.complete
  settled := h.settled
  remembered hfalse _ := Or.inl (hblocked hfalse)
  durable := h.durable

omit [Sha256] [JinjaParser] in
theorem stateOf_withState (s : Service) (planId : Text) (state : MigrationState) :
    (s.withState planId state).stateOf planId = some state :=
  Dict.get?_set_self _ _ _

/-- The journal has another state than `complete`. -/
theorem Recorded.withState (h : Recorded plan before s) {state : MigrationState}
    (hne : state ≠ .complete)
    (hincomplete : IsIncomplete (some state) →
      Partly plan before (s.journaled plan.planId) s.providers.documents)
    (hsettled : ¬ IsIncomplete (some state) → Untouched plan before s.providers.documents)
    (hremembered : s.memory.blocked = false → ¬ IsIncomplete (s.rememberedOf plan.planId) →
      Untouched plan before s.providers.documents)
    (hdurable : s.rememberedOf plan.planId ≠ some .complete) :
    Consistent plan before (s.withState plan.planId state) where
  recorded := ⟨h.originals, h.distinct, h.plan_eq, h.completion⟩
  incomplete hstate := hincomplete (stateOf_withState s plan.planId state ▸ hstate)
  complete hstate := by
    rw [stateOf_withState] at hstate
    exact absurd (Option.some.inj hstate) hne
  settled hstate _ := hsettled (stateOf_withState s plan.planId state ▸ hstate)
  remembered hblocked hstate := Or.inl (hremembered hblocked hstate)
  durable hcomplete := absurd hcomplete hdurable

omit [Sha256] [JinjaParser] in
/-- A state is journaled: the call may fail before or after that. -/
theorem triple_setState {pre : Service → Prop} {planId : Text} {state : MigrationState}
    {e : Stop → Service → Prop}
    (hbefore : ∀ s, pre s → e .died s ∧ e (.raised .failed) s)
    (hafter : ∀ s, pre s → e (.raised .failed) (s.withState planId state)) :
    Triple pre (setState planId state) (fun _ t => ∃ s, pre s ∧ t = s.withState planId state)
      e := by
  refine Triple.call (Triple.require (fun _ s hs => (hbefore s hs).2) fun _ =>
    Triple.modify fun s hs => ⟨s, hs, rfl⟩) hbefore ?_
  rintro _ _ ⟨s, hs, rfl⟩
  exact hafter s hs

omit [Sha256] [JinjaParser] in
theorem triple_remember {pre : Service → Prop} {planId : Text} {state : MigrationState}
    {exc : Stop → Service → Prop} :
    Triple pre (remember planId state)
      (fun _ t => ∃ s, pre s ∧ t = s.remembering planId state) exc :=
  Triple.modify fun s hs => ⟨s, hs, rfl⟩

omit [Sha256] [JinjaParser] in
theorem triple_setBlocked {pre : Service → Prop} {blocked : Bool} {exc : Stop → Service → Prop} :
    Triple pre (setBlocked blocked) (fun _ t => ∃ s, pre s ∧ t = s.withBlocked blocked) exc :=
  Triple.modify fun s hs => ⟨s, hs, rfl⟩

/-! ## What an exception says -/

/-- What `apply` tells its caller when it raises. -/
def Told (plan : MigrationPlan) (before : Inventory) : Stop → Service → Prop
  | .raised (.applyFailed _), s => Untouched plan before s.providers.documents
  | .raised (.restoreFailed _), s => s.memory.blocked = true
  | _, _ => True

/-- How `apply` may end without a result. -/
def Stopped (plan : MigrationPlan) (before : Inventory) (stop : Stop) (s : Service) : Prop :=
  Consistent plan before s ∧ Told plan before stop s

theorem Consistent.stopped (h : Consistent plan before s) :
    Stopped plan before .died s ∧ Stopped plan before (.raised .failed) s :=
  ⟨⟨h, trivial⟩, ⟨h, trivial⟩⟩

/-- The plan is given up, with every document as before. -/
theorem triple_giveUp {pre : Service → Prop} {rolledBack : Bool} {α : Type}
    (hpre : ∀ s, pre s → Consistent plan before s ∧ Untouched plan before s.providers.documents) :
    Triple pre
      (do
        remember plan.planId .failed
        setState plan.planId .failed
        Run.raise (.applyFailed rolledBack) : Run α)
      (fun _ _ => False) (Stopped plan before) := by
  have hremembering : ∀ s, pre s →
      Consistent plan before (s.remembering plan.planId .failed) := fun s hs =>
    (hpre s hs).1.remembering (fun _ _ => Or.inl (hpre s hs).2) nofun
  have hstate : ∀ s, pre s → Consistent plan before
      ((s.remembering plan.planId .failed).withState plan.planId .failed) := fun s hs =>
    (hremembering s hs).recorded.withState (by decide) (fun _ => (hpre s hs).2.partly)
      (fun _ => (hpre s hs).2) (fun _ _ => (hpre s hs).2)
      (by rw [rememberedOf_remembering]; decide)
  refine Triple.bind triple_remember fun _ => Triple.bind (triple_setState ?_ ?_) fun _ =>
    Triple.raise ?_
  · rintro _ ⟨s, hs, rfl⟩
    exact (hremembering s hs).stopped
  · rintro _ ⟨s, hs, rfl⟩
    exact (hstate s hs).stopped.2
  · rintro _ ⟨_, ⟨s, hs, rfl⟩, rfl⟩
    exact ⟨hstate s hs, (hpre s hs).2⟩

/-! ## Journaling the originals -/

/-- `apply` has begun, and nothing is written yet. -/
structure Begun (plan : MigrationPlan) (before : Inventory) (s : Service) : Prop where
  recorded : Recorded plan before s
  untouched : Untouched plan before s.providers.documents
  state : s.stateOf plan.planId = some .applying
  remembered : s.rememberedOf plan.planId = some .applying

/-- While `apply` writes, the documents are partly migrated. -/
theorem Begun.consistent {keys : DocumentKey → Prop} {t : Service} (h : Begun plan before s)
    (hkeys : ∀ key, keys key → s.journaled plan.planId key) (ht : Within s plan before keys t) :
    Consistent plan before t := by
  obtain ⟨providers, rfl, hpartly⟩ := ht
  have hincomplete : IsIncomplete (s.stateOf plan.planId) := Or.inl h.state
  refine ⟨⟨h.recorded.originals, h.recorded.distinct, h.recorded.plan_eq, h.recorded.completion⟩,
    fun _ => hpartly.imp hkeys, fun hstate => ?_, fun hstate => absurd hincomplete hstate,
    fun _ hremembered => absurd (Or.inl h.remembered) hremembered, fun hremembered => ?_⟩
  · have hstate : s.stateOf plan.planId = some .complete := hstate
    rw [h.state] at hstate
    cases hstate
  · have hremembered : s.rememberedOf plan.planId = some .complete := hremembered
    rw [h.remembered] at hremembered
    cases hremembered

theorem Begun.within (h : Begun plan before s) (keys : DocumentKey → Prop) :
    Within s plan before keys s :=
  ⟨s.providers, rfl, h.untouched.partly⟩

omit [Sha256] [JinjaParser] in
theorem originalsFor_set (journal : InMemoryReferenceJournal) (planId : Text)
    (originals : List JournaledOriginal) :
    InMemoryReferenceJournal.originalsFor
      { journal with originals := journal.originals.set planId originals } planId = originals := by
  rw [InMemoryReferenceJournal.originalsFor, Dict.get?_set_self]
  rfl

/-- An original is journaled, or it was. -/
theorem triple_recordOriginal {document : ReferenceDocument} {postFingerprint : Text}
    (hsound : JournaledOriginal.Sound ⟨document, postFingerprint⟩ plan before)
    {keys : DocumentKey → Prop} :
    Triple (fun s => Begun plan before s ∧ ∀ key, keys key → s.journaled plan.planId key)
      (recordOriginal plan.planId document postFingerprint)
      (fun _ s => Begun plan before s
        ∧ ∀ key, keys key ∨ key = document.key → s.journaled plan.planId key)
      fun _ => Begun plan before := by
  refine Triple.call (Triple.require (fun _ _ hs => hs.1) fun _ => Triple.require
    (fun _ _ hs => hs.1) fun _ => Triple.service fun s hs => ?_)
    (fun _ hs => ⟨hs.1, hs.1⟩) fun _ _ hs => hs.1
  simp only
  split
  -- the key is journaled already; a different original for it raises
  · rename_i existing hexisting
    refine Triple.imp (Reads.require) (fun _ => id) ?_ ?_
    · rintro _ _ ⟨rfl, -⟩
      refine ⟨hs.1, fun key hkey => hkey.elim (hs.2 key) ?_⟩
      rintro rfl
      exact ⟨existing, List.mem_of_find?_eq_some hexisting,
        by simpa using List.find?_some hexisting⟩
    · rintro _ _ rfl
      exact hs.1
  · rename_i hnone
    refine Triple.modify ?_
    rintro s rfl
    have hnew : ∀ entry ∈ s.journal.originalsFor plan.planId,
        entry.document.key ≠ document.key := by
      simpa [List.find?_eq_none] using hnone
    -- the entry is new, so the keys stay distinct
    have hentries := originalsFor_set s.journal plan.planId
      (s.journal.originalsFor plan.planId ++ [⟨document, postFingerprint⟩])
    refine ⟨⟨⟨?_, ?_, hs.1.recorded.plan_eq, hs.1.recorded.completion⟩, hs.1.untouched, hs.1.state,
      hs.1.remembered⟩, fun key hkey => ?_⟩
    · simp only [hentries]
      exact List.forall_mem_append.2 ⟨hs.1.recorded.originals,
        fun entry hmem => List.mem_singleton.1 hmem ▸ hsound⟩
    · simp only [hentries]
      rw [List.map_append, List.nodup_append]
      refine ⟨hs.1.recorded.distinct, List.nodup_singleton _, ?_⟩
      rintro key hkey _ hother rfl
      obtain ⟨entry, hentry, rfl⟩ := List.mem_map.1 hkey
      exact hnew entry hentry (List.mem_singleton.1 hother)
    · unfold Service.journaled
      simp only [hentries]
      rcases hkey with hkey | rfl
      · obtain ⟨entry, hentry, heq⟩ := hs.2 key hkey
        exact ⟨entry, List.mem_append_left _ hentry, heq⟩
      · exact ⟨_, List.mem_append_right _ (List.mem_singleton.2 rfl), rfl⟩

/-- The originals of the changes are journaled before anything is written. -/
theorem triple_recordOriginals (hissued : Issued plan before) : ∀ {changes : List Change}
    {keys : DocumentKey → Prop}, (∀ change ∈ changes, IsOriginal before change.original) →
      Triple (fun s => Begun plan before s ∧ ∀ key, keys key → s.journaled plan.planId key)
        (recordOriginals plan changes)
        (fun _ s => Begun plan before s ∧ (∀ key, keys key → s.journaled plan.planId key)
          ∧ ∀ change ∈ changes, s.journaled plan.planId change.original.key)
        fun _ => Begun plan before
  | [], _, _ => Triple.pure fun s hs => ⟨hs.1, hs.2, fun _ hmem => absurd hmem List.not_mem_nil⟩
  | change :: changes, keys, h => by
    obtain ⟨⟨original, hbefore, hpayload, hwritable⟩, h⟩ := List.forall_mem_cons.1 h
    refine Triple.bind (m := fun _ s => Begun plan before s
      ∧ ∀ key, keys key ∨ key = change.original.key → s.journaled plan.planId key) ?_
      fun _ => (triple_recordOriginals hissued h).post_imp ?_
    · simp only [hissued.plannedFor_eq hbefore rfl]
      exact triple_recordOriginal ⟨original, hbefore, hpayload, hwritable, rfl⟩
    · rintro _ s ⟨hbegun, hkeys, hchanges⟩
      exact ⟨hbegun, fun key hkey => hkeys key (Or.inl hkey),
        List.forall_mem_cons.2 ⟨hkeys _ (Or.inr rfl), hchanges⟩⟩

/-! ## Completing -/

/-- The snapshots of a migrated inventory. -/
theorem Migrated.snapshots (hissued : Issued plan before) {documents inventory : Inventory}
    (h : Migrated plan before documents)
    (hinventory : ∀ key, inventory.get? key = documents.get? key) :
    ∃ found, snapshots inventory = .ok found := by
  refine exists_collect fun entry hmem => ?_
  have hget : documents.get? entry.1 = some entry.2 := by
    rw [← hinventory, Dict.get?_eq_some_iff]
    exact mem_sortedBy.1 hmem
  rw [fingerprintOf_eq_ok.2 ⟨h.valid hissued hget, rfl⟩]
  exact ⟨_, rfl⟩

/-- What is known while a completion is recorded. -/
structure Finishing (plan : MigrationPlan) (before : Inventory) (s : Service) : Prop where
  recorded : Recorded plan before s
  partly : Partly plan before (s.journaled plan.planId) s.providers.documents
  migrated : Migrated plan before s.providers.documents
  free : NoReferences plan s.providers.documents
  remembered : s.rememberedOf plan.planId = some .applying
  state : s.stateOf plan.planId = some .applying ∨
    s.stateOf plan.planId = some .complete ∧ s.journal.completions.get? plan.planId ≠ none

theorem Finishing.consistent (h : Finishing plan before s) : Consistent plan before s where
  recorded := h.recorded
  incomplete _ := h.partly
  complete hstate := ⟨h.migrated, h.state.elim (fun hstate' => by
    rw [hstate'] at hstate
    cases hstate) And.right⟩
  settled hstate hne := h.state.elim (fun hstate' => absurd (Or.inl hstate') hstate)
    fun hcomplete => absurd hcomplete.1 hne
  remembered _ hstate := absurd (Or.inl h.remembered) hstate
  durable hcomplete := by
    rw [h.remembered] at hcomplete
    cases hcomplete

/-- The completion is recorded. -/
theorem triple_recordCompletion {result : MigrationResult} {found : List DocumentSnapshot} :
    Triple (fun s => Finishing plan before s ∧ s.stateOf plan.planId = some .applying)
      (recordCompletion ⟨plan, result, found⟩)
      (fun _ s => Finishing plan before s ∧ s.stateOf plan.planId = some .applying
        ∧ s.journal.completions.get? plan.planId ≠ none)
      fun _ => Finishing plan before := by
  refine Triple.call (Triple.bind (Reads.triple (fun _ _ => Reads.checked) fun _ _ hs => hs.1)
    fun _ => Triple.service fun s hs => Triple.require (fun _ t ht => ht ▸ hs.1.1) fun _ =>
      Triple.modify ?_) (fun _ hs => ⟨hs.1, hs.1⟩) fun _ _ hs => hs.1
  rintro s rfl
  obtain ⟨⟨hfinishing, hstate⟩, -⟩ := hs
  have hget : (s.journal.completions.set plan.planId ⟨plan, result, found⟩).get? plan.planId =
      some ⟨plan, result, found⟩ := Dict.get?_set_self _ _ _
  refine ⟨⟨⟨hfinishing.recorded.originals, hfinishing.recorded.distinct,
    hfinishing.recorded.plan_eq, fun other hother => ?_⟩, hfinishing.partly, hfinishing.migrated,
    hfinishing.free, hfinishing.remembered, Or.inl hstate⟩, hstate, ?_⟩
  · obtain rfl := Option.some.inj (hget.symm.trans hother)
    rfl
  · exact hget ▸ Option.some_ne_none _

/-- A completion that is not recorded blocks the coordinator. -/
theorem triple_refuseCompletion {α : Type} :
    Triple (Finishing plan before)
      (do
        remember plan.planId .blocked
        setBlocked true
        let _ ← Run.attempt (setState plan.planId .blocked)
        Run.raise (.restoreFailed []) : Run α)
      (fun _ _ => False) (Stopped plan before) := by
  have hblocked : ∀ s, Finishing plan before s →
      Consistent plan before ((s.remembering plan.planId .blocked).withBlocked true) := fun s hs =>
    (hs.consistent.remembering (fun _ hstate => absurd (Or.inr rfl) hstate) nofun).withBlocked
      nofun
  have hstate : ∀ s, Finishing plan before s → Consistent plan before
      (((s.remembering plan.planId .blocked).withBlocked true).withState plan.planId .blocked) :=
    fun s hs => (hblocked s hs).recorded.withState (by decide) (fun _ => hs.partly)
      (fun hstate => absurd (Or.inr rfl) hstate) nofun
      ((rememberedOf_remembering s plan.planId .blocked).trans_ne (by decide))
  refine Triple.bind triple_remember fun _ => Triple.bind triple_setBlocked fun _ =>
    Triple.bind (m := fun _ s => Consistent plan before s ∧ s.memory.blocked = true)
      (Triple.attempt (Triple.imp (triple_setState (e := fun stop s =>
        Consistent plan before s ∧ s.memory.blocked = true) ?_ ?_) (fun _ => id) ?_ ?_))
      fun _ => Triple.raise fun s hs => hs
  · rintro _ ⟨_, ⟨s, hs, rfl⟩, rfl⟩
    exact ⟨⟨hblocked s hs, rfl⟩, ⟨hblocked s hs, rfl⟩⟩
  · rintro _ ⟨_, ⟨s, hs, rfl⟩, rfl⟩
    exact ⟨hstate s hs, rfl⟩
  · rintro _ _ ⟨_, ⟨_, ⟨s, hs, rfl⟩, rfl⟩, rfl⟩
    exact ⟨hstate s hs, rfl⟩
  · rintro (_ | error) s hs
    · exact ⟨hs.1, trivial⟩
    · exact hs

/-- The end of `apply`. -/
theorem triple_complete (hissued : Issued plan before) {changes : List Change}
    {documents : Inventory} :
    Triple
      (fun s => Finishing plan before s ∧ s.stateOf plan.planId = some .applying
        ∧ ∀ key, documents.get? key = s.providers.documents.get? key)
      (complete plan changes documents)
      (fun _ s => Consistent plan before s ∧ Migrated plan before s.providers.documents
        ∧ NoReferences plan s.providers.documents ∧ s.stateOf plan.planId = some .complete)
      (Stopped plan before) := by
  refine Triple.of_forall fun start hstart => ?_
  obtain ⟨found, hfound⟩ := hstart.1.migrated.snapshots hissued hstart.2.2
  unfold complete
  rw [hfound]
  refine Triple.checked_ok (Triple.bind (m := fun _ s => Finishing plan before s
      ∧ s.stateOf plan.planId = some .complete ∧ s.journal.completions.get? plan.planId ≠ none)
    (Triple.catching (c := fun _ => Finishing plan before) ?_ fun _ => ?_)
    fun _ => Triple.bind (m := fun _ t => ∃ s, (Finishing plan before s
        ∧ s.stateOf plan.planId = some .complete)
      ∧ t = s.withCompleted plan.planId _) (Triple.modify fun s hs => ⟨s, ⟨hs.1, hs.2.1⟩, rfl⟩)
        fun _ => Triple.bind triple_remember fun _ => Triple.pure ?_)
  -- whatever stops here leaves the documents migrated
  · have hstopped : ∀ stop s, Finishing plan before s →
        Run.Caught (fun _ => Finishing plan before) (Stopped plan before .died) stop s := by
      rintro (_ | error) s hs
      · exact hs.consistent.stopped.1
      · exact hs
    refine Triple.bind (Triple.imp triple_recordCompletion ?_ (fun _ _ => id) hstopped) fun _ =>
      Triple.imp (triple_setState (e := fun _ => Finishing plan before) ?_ ?_) (fun _ => id) ?_
        hstopped
    · rintro s rfl
      exact ⟨hstart.1, hstart.2.1⟩
    · exact fun s hs => ⟨hs.1, hs.1⟩
    · rintro s ⟨hs, -, hcompletion⟩
      exact ⟨⟨hs.recorded.originals, hs.recorded.distinct, hs.recorded.plan_eq,
        hs.recorded.completion⟩, hs.partly, hs.migrated, hs.free, hs.remembered,
        Or.inr ⟨stateOf_withState s plan.planId .complete, hcompletion⟩⟩
    · rintro _ _ ⟨s, ⟨hs, -, hcompletion⟩, rfl⟩
      have hcomplete := stateOf_withState s plan.planId .complete
      exact ⟨⟨⟨hs.recorded.originals, hs.recorded.distinct, hs.recorded.plan_eq,
        hs.recorded.completion⟩, hs.partly, hs.migrated, hs.free, hs.remembered,
        Or.inr ⟨hcomplete, hcompletion⟩⟩, hcomplete, hcompletion⟩
  · exact triple_refuseCompletion.post_imp fun _ _ => False.elim
  · rintro _ ⟨_, ⟨s, ⟨hs, hstate⟩, rfl⟩, rfl⟩
    have hconsistent : ∀ completion, Consistent plan before
        (s.withCompleted plan.planId completion) := fun _ =>
      ⟨⟨hs.recorded.originals, hs.recorded.distinct, hs.recorded.plan_eq, hs.recorded.completion⟩,
        hs.consistent.incomplete, hs.consistent.complete, hs.consistent.settled,
        hs.consistent.remembered, hs.consistent.durable⟩
    exact ⟨(hconsistent _).remembering (fun _ _ => Or.inr rfl) fun _ => hstate, hs.migrated,
      hs.free, hstate⟩

end

end TrueFamily.Migration
