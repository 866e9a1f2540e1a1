import TrueFamily.Setup.Entry

/-!
# No cleanup is lost

Between any two calls of setup and unload, a runtime that still has callbacks to release is held
by the entry or registered, and a journal adapter was asked to close or belongs to a runtime that
is held. `Inv` is what every call preserves; `Idle` is the world in which a setup may open a
journal: nothing is registered and everything created before has been released.
-/

namespace TrueFamily.Setup

open Method

/-! ## What the runtime's methods leave -/

namespace TrueFamilyRuntime

variable {start : TrueFamilyRuntime}

/-- A completed shutdown left no subscription. -/
def Consistent (start : TrueFamilyRuntime) : Prop :=
  start.shutdownComplete = true → start.subscriptions = 0

theorem Consistent.cleanupPending_iff (h : start.Consistent) :
    start.cleanupPending = true ↔ start.shutdownComplete = false := by
  unfold cleanupPending hasSubscriptions
  cases hcomplete : start.shutdownComplete with
  | false => simp
  | true => simp [h hcomplete]

/-- The runtime keeps its journal and the record of its closing. -/
structure SameJournal (start next : TrueFamilyRuntime) : Prop where
  journal_eq : next.referenceJournal = start.referenceJournal
  closed_eq : next.referenceJournalClosed = start.referenceJournalClosed

/-- The runtime keeps everything but its subscriptions. -/
structure SameProgress (start next : TrueFamilyRuntime) : Prop extends SameJournal start next where
  startup_eq : next.startupComplete = start.startupComplete
  shutdown_eq : next.shutdownComplete = start.shutdownComplete

theorem SameProgress.refl (start : TrueFamilyRuntime) : start.SameProgress start :=
  ⟨⟨rfl, rfl⟩, rfl, rfl⟩

theorem SameProgress.trans {next last : TrueFamilyRuntime} (h : start.SameProgress next)
    (h' : next.SameProgress last) : start.SameProgress last :=
  ⟨⟨h'.journal_eq.trans h.journal_eq, h'.closed_eq.trans h.closed_eq⟩,
    h'.startup_eq.trans h.startup_eq, h'.shutdown_eq.trans h.shutdown_eq⟩

theorem ends_unsubscribeInstalled (removable : ℕ → Bool) :
    Ends (unsubscribeInstalled removable) start fun result next =>
      start.SameProgress next ∧ (start.subscriptions = 0 → next.subscriptions = 0)
        ∧ (result = .ok () → next.subscriptions = 0) := by
  unfold unsubscribeInstalled
  refine ends_bind.2 (ends_get.2 (ends_bind.2 (ends_modify.2 ?_)))
  refine ends_lift.2 ⟨⟨⟨rfl, rfl⟩, rfl, rfl⟩, fun hnone => ?_, fun hok => ?_⟩
  · show remaining removable start.subscriptions = 0
    rw [hnone]
    rfl
  · exact Checked.check_eq_ok.1 hok

theorem ends_mqttAsyncShutdown (removable : ℕ → Bool) :
    Ends (mqttAsyncShutdown removable) start fun result next =>
      start.SameProgress next ∧ (start.subscriptions = 0 → next.subscriptions = 0)
        ∧ (result = .ok () → next.subscriptions = 0) := by
  unfold mqttAsyncShutdown
  refine (ends_unsubscribeInstalled removable).bind ?_ ?_
  · rintro ⟨⟩ next ⟨hsame, hnone, hok⟩
    refine ends_modify.2 ⟨?_, hnone, fun _ => hok rfl⟩
    exact ⟨⟨hsame.journal_eq, hsame.closed_eq⟩, hsame.startup_eq, hsame.shutdown_eq⟩
  · rintro e next ⟨hsame, hnone, _⟩
    exact ⟨hsame, hnone, fun h => by cases h⟩

theorem ends_orReplacementError {x : RuntimeMethod Unit}
    {Q : Except PyError Unit → TrueFamilyRuntime → Prop} (h : Ends x start Q) :
    Ends (orReplacementError x) start fun result next =>
      (result = .ok () ∧ Q (.ok ()) next) ∨
        ∃ e raised, result = .error e ∧ Q (.error raised) next := by
  refine h.handle ?_ ?_
  · rintro ⟨⟩ next hQ
    exact Or.inl ⟨rfl, hQ⟩
  · intro e next hQ
    exact Or.inr ⟨_, e, rfl, hQ⟩

/-- A shutdown that returns is complete, and one that raises leaves the shutdown as it was. -/
structure ShutDown (start : TrueFamilyRuntime) (result : Except PyError Unit)
    (next : TrueFamilyRuntime) : Prop extends SameJournal start next where
  startup_eq : next.startupComplete = start.startupComplete
  consistent : next.Consistent
  complete : result = .ok () → next.shutdownComplete = true
  kept : ∀ e, result = .error e → next.shutdownComplete = start.shutdownComplete

theorem SameProgress.shutDown {next : TrueFamilyRuntime} {e : PyError} (h : start.SameProgress next)
    (hconsistent : start.Consistent) (hnone : start.subscriptions = 0 → next.subscriptions = 0) :
    start.ShutDown (.error e) next where
  toSameJournal := h.toSameJournal
  startup_eq := h.startup_eq
  consistent hcomplete := hnone (hconsistent (h.shutdown_eq.symm.trans hcomplete))
  complete hok := by cases hok
  kept _ _ := h.shutdown_eq

/-- The last step of a shutdown. -/
theorem ends_complete {first : TrueFamilyRuntime} (hsame : first.SameProgress start)
    (hconsistent : first.Consistent) (hnone : first.subscriptions = 0 → start.subscriptions = 0)
    (removable : ℕ → Bool) :
    Ends (do
        orReplacementError (mqttAsyncShutdown removable)
        modify fun self => { self with shutdownComplete := true }) start first.ShutDown := by
  refine (ends_orReplacementError (ends_mqttAsyncShutdown removable)).bind ?_ ?_
  · rintro ⟨⟩ next (⟨_, hnext, _, hok⟩ | ⟨_, _, hraise, _⟩)
    · have hall := hsame.trans hnext
      refine ends_modify.2 ⟨⟨hall.journal_eq, hall.closed_eq⟩, hall.startup_eq, fun _ => hok rfl,
        fun _ => rfl, fun _ h => by cases h⟩
    · cases hraise
  · rintro e next (⟨hok, _⟩ | ⟨_, _, _, hnext, hsub, _⟩)
    · cases hok
    · exact (hsame.trans hnext).shutDown hconsistent fun h => hsub (hnone h)

theorem ends_asyncShutdown (hconsistent : start.Consistent) (choices : ShutdownChoices) :
    Ends (asyncShutdown choices) start start.ShutDown := by
  have hraised : ∀ e, start.ShutDown (.error e) start := fun e =>
    (SameProgress.refl start).shutDown hconsistent id
  unfold asyncShutdown
  refine ends_bind.2 (ends_get.2 ?_)
  dsimp only
  split
  · rename_i hcomplete
    exact ends_pure.2 ⟨⟨rfl, rfl⟩, rfl, hconsistent, fun _ => hcomplete, fun _ h => by cases h⟩
  · split
    · exact ends_complete (SameProgress.refl start) hconsistent id choices.removable
    · refine Ends.bind (P := fun result next => next = start) ?_ ?_ ?_
      · exact ends_lift.2 rfl
      · rintro ⟨⟩ next rfl
        refine Ends.bind (P := fun result other => other = next) ?_ ?_ ?_
        · exact ends_lift.2 rfl
        · rintro ⟨⟩ other rfl
          refine (ends_orReplacementError (Q := fun _ last => last = other)
            (ends_lift.2 rfl)).bind ?_ ?_
          · rintro ⟨⟩ last (⟨_, rfl⟩ | ⟨_, _, hraise, _⟩)
            · exact ends_complete (SameProgress.refl last) hconsistent id choices.removable
            · cases hraise
          · rintro e last (⟨hok, _⟩ | ⟨_, _, _, rfl⟩)
            · cases hok
            · exact hraised e
        · rintro e other rfl
          exact hraised e
      · rintro e next rfl
        exact hraised e

/-! ### Setup -/

/-- The method changes nothing but the subscriptions. -/
def MovesOnly {α : Type} (x : RuntimeMethod α) : Prop :=
  ∀ start, Ends x start fun _ next => start.SameProgress next

theorem movesOnly_lift {α : Type} (y : Except PyError α) :
    MovesOnly (liftM y : RuntimeMethod α) :=
  fun start => ends_lift.2 (SameProgress.refl start)

theorem movesOnly_raise {α : Type} (e : PyError) : MovesOnly (raise e : RuntimeMethod α) :=
  fun start => ends_raise.2 (SameProgress.refl start)

theorem movesOnly_pure {α : Type} (a : α) : MovesOnly (pure a : RuntimeMethod α) :=
  fun start => ends_pure.2 (SameProgress.refl start)

theorem MovesOnly.bind {α β : Type} {x : RuntimeMethod α} {f : α → RuntimeMethod β}
    (hx : MovesOnly x) (hf : ∀ a, MovesOnly (f a)) : MovesOnly (x >>= f) :=
  fun start => (hx start).bind (fun a next h => (hf a next).imp fun _ _ h' => h.trans h')
    fun _ _ h => h

theorem MovesOnly.handle {α : Type} {x : RuntimeMethod α} {f : PyError → RuntimeMethod α}
    (hx : MovesOnly x) (hf : ∀ e, MovesOnly (f e)) : MovesOnly (x.handle f) :=
  fun start => (hx start).handle (fun _ _ h => h)
    fun e next h => (hf e next).imp fun _ _ h' => h.trans h'

theorem movesOnly_unsubscribeInstalled (removable : ℕ → Bool) :
    MovesOnly (unsubscribeInstalled removable) :=
  fun _ => (ends_unsubscribeInstalled removable).imp fun _ _ h => h.1

theorem movesOnly_subscribe (topic : Ending) : MovesOnly (subscribe topic) :=
  (movesOnly_lift topic).bind fun _ _ => ends_modify.2 ⟨⟨rfl, rfl⟩, rfl, rfl⟩

theorem movesOnly_mqttAsyncSetup (choices : SetupChoices) :
    MovesOnly (mqttAsyncSetup choices) := by
  refine MovesOnly.bind (fun start => ends_get.2 (SameProgress.refl start)) fun self => ?_
  refine (movesOnly_lift _).bind fun _ => (movesOnly_lift _).bind fun _ => MovesOnly.bind ?_
    fun _ start => ends_modify.2 ⟨⟨rfl, rfl⟩, rfl, rfl⟩
  refine MovesOnly.handle ?_ fun e => ?_
  · exact (movesOnly_subscribe _).bind fun _ => (movesOnly_subscribe _).bind fun _ =>
      (movesOnly_subscribe _).bind fun _ => movesOnly_subscribe _
  · exact ((movesOnly_unsubscribeInstalled _).handle fun _ => movesOnly_pure _).bind fun _ =>
      movesOnly_raise _

/-- A setup that returns is complete and not shut down; one that raises is cancelled or unsafe. -/
structure SetUp (start : TrueFamilyRuntime) (result : Except PyError Unit)
    (next : TrueFamilyRuntime) : Prop extends SameJournal start next where
  consistent : next.Consistent
  complete : result = .ok () → next.startupComplete = true ∧ next.shutdownComplete = false
  raised : ∀ e, result = .error e → e = .cancelled ∨ e = .setupSafetyError

/-- The cleanup after a failed setup completes the shutdown only without subscriptions. -/
theorem ends_asyncCleanupFailedSetup (hconsistent : start.Consistent) (removable : ℕ → Bool) :
    Ends (asyncCleanupFailedSetup removable) start fun result next =>
      start.SameJournal next ∧ next.Consistent ∧ result = .ok () := by
  unfold asyncCleanupFailedSetup
  refine Ends.handle (P := fun _ next => start.SameJournal next ∧ next.Consistent) ?_ ?_ ?_
  · refine (ends_mqttAsyncShutdown removable).bind ?_ ?_
    · rintro ⟨⟩ next ⟨hsame, _, hok⟩
      exact ends_modify.2 ⟨⟨hsame.journal_eq, hsame.closed_eq⟩, fun _ => hok rfl⟩
    · rintro e next ⟨hsame, hnone, _⟩
      exact ⟨hsame.toSameJournal, fun h => hnone (hconsistent (hsame.shutdown_eq.symm.trans h))⟩
  · rintro ⟨⟩ next ⟨hsame, hnext⟩
    exact ⟨hsame, hnext, rfl⟩
  · rintro e next ⟨hsame, hnext⟩
    exact ends_pure.2 ⟨hsame, hnext, rfl⟩

theorem ends_asyncSetup (hfresh : start.shutdownComplete = false) (choices : SetupChoices) :
    Ends (asyncSetup choices) start start.SetUp := by
  have hmoved : ∀ {next}, start.SameProgress next → next.Consistent := fun h hcomplete => by
    rw [h.shutdown_eq, hfresh] at hcomplete
    cases hcomplete
  unfold asyncSetup
  refine Ends.handle (P := fun result next => start.SameJournal next ∧ next.Consistent
    ∧ (result = .ok () → next.startupComplete = true ∧ next.shutdownComplete = false)) ?_ ?_ ?_
  · refine (movesOnly_mqttAsyncSetup choices start).bind ?_ ?_
    · rintro ⟨⟩ next hsame
      refine (movesOnly_lift choices.reconcile next).bind ?_ ?_
      · rintro ⟨⟩ last hlast
        have hall := hsame.trans hlast
        exact ends_modify.2 ⟨⟨hall.journal_eq, hall.closed_eq⟩, (hmoved hall : last.Consistent),
          fun _ => ⟨rfl, hall.shutdown_eq.trans hfresh⟩⟩
      · intro e last hlast
        have hall := hsame.trans hlast
        exact ⟨hall.toSameJournal, hmoved hall, fun h => by cases h⟩
    · intro e next hsame
      exact ⟨hsame.toSameJournal, hmoved hsame, fun h => by cases h⟩
  · rintro ⟨⟩ next ⟨hsame, hnext, hcomplete⟩
    exact ⟨hsame, hnext, hcomplete, fun _ h => by cases h⟩
  · rintro e next ⟨hsame, hnext, _⟩
    refine (ends_asyncCleanupFailedSetup hnext choices.removableAfter).bind ?_ ?_
    · rintro ⟨⟩ last ⟨hlast, hconsistent, _⟩
      refine ends_raise.2 ⟨⟨hlast.journal_eq.trans hsame.journal_eq,
        hlast.closed_eq.trans hsame.closed_eq⟩, hconsistent, fun h => (by cases h), ?_⟩
      rintro e' ⟨rfl⟩
      by_cases hcancelled : e = .cancelled <;> simp [hcancelled]
    · rintro e' last ⟨_, _, hok⟩
      cases hok

end TrueFamilyRuntime

/-! ## The invariant -/

namespace World

variable (world : World)

/-- The entry holds the runtime, or it is registered. -/
def Holds (runtime : ℕ) : Prop :=
  world.runtimeData = some runtime ∨ world.registered = some runtime

/-- An entry of the log against those before it: a journal is opened only after the shutdown of the
runtime that the entry held, and the closing of its journal, have returned. -/
def InOrder (before : List Event) : Event → Prop
  | .opened _ (some previous) =>
    .shutdownReturned previous ∈ before ∧ .closeReturned previous ∈ before
  | _ => True

/-- No unfinished cleanup is lost. -/
structure Kept : Prop where
  pending : ∀ runtime < world.created, (world.runtimes runtime).cleanupPending = true →
    world.Holds runtime
  journals : ∀ journal < world.opened, world.askedToClose journal = true
    ∨ ∃ runtime < world.created, world.Holds runtime
      ∧ (world.runtimes runtime).referenceJournal = some journal
  registered : ∀ runtime, world.registered = some runtime →
    runtime < world.created ∧ (world.runtimes runtime).startupComplete = true
  ordered : Checked.ForallSplit InOrder world.log

/-- What every call preserves. -/
structure Inv : Prop extends Kept world where
  consistent : ∀ runtime, (world.runtimes runtime).Consistent
  registered_held : ∀ runtime, world.registered = some runtime →
    world.runtimeData = some runtime
  held_created : ∀ runtime, world.runtimeData = some runtime → runtime < world.created
  shutdown_logged : ∀ runtime, world.runtimeData = some runtime →
    (world.runtimes runtime).shutdownComplete = true → .shutdownReturned runtime ∈ world.log
  closed_asked : ∀ runtime journal, (world.runtimes runtime).referenceJournalClosed = true →
    (world.runtimes runtime).referenceJournal = some journal →
      world.askedToClose journal = true

/-- The world in which a setup may open a journal. -/
structure Idle : Prop extends Inv world where
  unregistered : world.registered = none
  released : ∀ runtime < world.created, (world.runtimes runtime).cleanupPending = false
  asked : ∀ journal < world.opened, world.askedToClose journal = true
  close_logged : ∀ runtime, world.runtimeData = some runtime → .closeReturned runtime ∈ world.log

end World

/-! ## Steps on one runtime -/

/-- What the shutdown of a runtime and the closing of its journal may change. -/
structure OnOnly (runtime : ℕ) (world next : World) : Prop where
  data_eq : next.runtimeData = world.runtimeData
  registered_eq : next.registered = world.registered
  created_eq : next.created = world.created
  opened_eq : next.opened = world.opened
  others : ∀ other ≠ runtime, next.runtimes other = world.runtimes other
  journal_eq : (next.runtimes runtime).referenceJournal = (world.runtimes runtime).referenceJournal
  startup_eq : (next.runtimes runtime).startupComplete = (world.runtimes runtime).startupComplete
  consistent : (world.runtimes runtime).Consistent → (next.runtimes runtime).Consistent
  asked : ∀ journal, world.askedToClose journal = true → next.askedToClose journal = true
  logged : ∀ event ∈ world.log, event ∈ next.log
  ordered : Checked.ForallSplit World.InOrder world.log →
    Checked.ForallSplit World.InOrder next.log
  shutdown_logged : ((world.runtimes runtime).shutdownComplete = true →
      .shutdownReturned runtime ∈ world.log) →
    (next.runtimes runtime).shutdownComplete = true → .shutdownReturned runtime ∈ next.log
  closed_asked : (∀ journal, (world.runtimes runtime).referenceJournalClosed = true →
      (world.runtimes runtime).referenceJournal = some journal →
        world.askedToClose journal = true) →
    ∀ journal, (next.runtimes runtime).referenceJournalClosed = true →
      (next.runtimes runtime).referenceJournal = some journal → next.askedToClose journal = true

namespace OnOnly

variable {runtime : ℕ} {world next last : World}

theorem refl (runtime : ℕ) (world : World) : OnOnly runtime world world :=
  ⟨rfl, rfl, rfl, rfl, fun _ _ => rfl, rfl, rfl, id, fun _ => id, fun _ => id, id, id, id⟩

theorem trans (h : OnOnly runtime world next) (h' : OnOnly runtime next last) :
    OnOnly runtime world last where
  data_eq := h'.data_eq.trans h.data_eq
  registered_eq := h'.registered_eq.trans h.registered_eq
  created_eq := h'.created_eq.trans h.created_eq
  opened_eq := h'.opened_eq.trans h.opened_eq
  others other hne := (h'.others other hne).trans (h.others other hne)
  journal_eq := h'.journal_eq.trans h.journal_eq
  startup_eq := h'.startup_eq.trans h.startup_eq
  consistent hc := h'.consistent (h.consistent hc)
  asked journal hj := h'.asked journal (h.asked journal hj)
  logged event he := h'.logged event (h.logged event he)
  ordered ho := h'.ordered (h.ordered ho)
  shutdown_logged hl := h'.shutdown_logged (h.shutdown_logged hl)
  closed_asked hc := h'.closed_asked (h.closed_asked hc)

theorem record (runtime : ℕ) (world : World) {event : Event}
    (hevent : World.InOrder world.log event) :
    OnOnly runtime world { world with log := world.log ++ [event] } where
  data_eq := rfl
  registered_eq := rfl
  created_eq := rfl
  opened_eq := rfl
  others _ _ := rfl
  journal_eq := rfl
  startup_eq := rfl
  consistent := id
  asked _ := id
  logged _ := List.mem_append_left _
  ordered h := Checked.forallSplit_concat.2 ⟨h, hevent⟩
  shutdown_logged h hcomplete := List.mem_append_left _ (h hcomplete)
  closed_asked := id

theorem asked_update {world : World} {journal other : ℕ}
    (h : other = journal ∨ world.askedToClose other = true) :
    Function.update world.askedToClose journal true other = true := by
  by_cases heq : other = journal
  · rw [heq, Function.update_self]
  · rw [Function.update_of_ne heq]
    exact h.resolve_left heq

theorem ask (runtime : ℕ) (world : World) (journal : ℕ) : OnOnly runtime world
    { world with askedToClose := Function.update world.askedToClose journal true } where
  data_eq := rfl
  registered_eq := rfl
  created_eq := rfl
  opened_eq := rfl
  others _ _ := rfl
  journal_eq := rfl
  startup_eq := rfl
  consistent := id
  asked _ hother := asked_update (Or.inr hother)
  logged _ := id
  ordered := id
  shutdown_logged := id
  closed_asked h other hclosed hjournal := asked_update (Or.inr (h other hclosed hjournal))

/-- The record that the journal of a runtime is closed, after it was asked to. -/
theorem close {journal : ℕ} (hjournal : (world.runtimes runtime).referenceJournal = some journal)
    (hasked : world.askedToClose journal = true) : OnOnly runtime world
      { world with
        runtimes := Function.update world.runtimes runtime
          { (world.runtimes runtime) with referenceJournalClosed := true } } := by
  refine ⟨rfl, rfl, rfl, rfl, fun other hne => Function.update_of_ne hne _ _, ?_, ?_, ?_,
    fun _ => id, fun _ => id, id, ?_, ?_⟩ <;> simp only [Function.update_self]
  · exact id
  · exact id
  · intro _ other _ hother
    rw [hjournal] at hother
    rw [← Option.some.inj hother]
    exact hasked

end OnOnly

section

variable {world : World} {runtime : ℕ}

theorem ends_onRuntime {α : Type} {x : RuntimeMethod α} {Q : Except PyError α → World → Prop}
    {P : Except PyError α → TrueFamilyRuntime → Prop} (h : Ends x (world.runtimes runtime) P)
    (himp : ∀ result next, P result next →
      Q result { world with runtimes := Function.update world.runtimes runtime next }) :
    Ends (onRuntime runtime x) world Q :=
  himp _ _ h

/-- The shutdown of a runtime that is consistent. -/
theorem ends_shutDown (hconsistent : (world.runtimes runtime).Consistent)
    (choices : TrueFamilyRuntime.ShutdownChoices) :
    Ends (shutDown runtime choices) world fun result next => OnOnly runtime world next
      ∧ (result = .ok () → (next.runtimes runtime).shutdownComplete = true
        ∧ .shutdownReturned runtime ∈ next.log) := by
  have hupdate : ∀ {result next}, (world.runtimes runtime).ShutDown result next →
      (world.runtimes runtime).shutdownComplete = next.shutdownComplete →
      OnOnly runtime world
        { world with runtimes := Function.update world.runtimes runtime next } := by
    intro result next hnext hkept
    refine ⟨rfl, rfl, rfl, rfl, fun other hne => Function.update_of_ne hne _ _, ?_, ?_, ?_,
      fun _ => id, fun _ => id, id, ?_, ?_⟩ <;> simp only [Function.update_self]
    · exact hnext.journal_eq
    · exact hnext.startup_eq
    · exact fun _ => hnext.consistent
    · rw [hkept]
      exact id
    · rw [hnext.closed_eq, hnext.journal_eq]
      exact id
  unfold shutDown
  refine Ends.bind (P := fun result next => ∃ runtime',
      (world.runtimes runtime).ShutDown result runtime'
    ∧ next = { world with runtimes := Function.update world.runtimes runtime runtime' })
    ⟨_, TrueFamilyRuntime.ends_asyncShutdown hconsistent choices, rfl⟩ ?_ ?_
  · rintro ⟨⟩ next ⟨runtime', hnext, rfl⟩
    have hcomplete := hnext.complete rfl
    refine ends_modify.2 ⟨?_, fun _ => ⟨?_, List.mem_append_right _ (List.mem_singleton_self _)⟩⟩
    · refine ⟨rfl, rfl, rfl, rfl, fun other hne => Function.update_of_ne hne _ _, ?_, ?_, ?_,
        fun _ => id, fun _ => List.mem_append_left _,
        fun h => Checked.forallSplit_concat.2 ⟨h, trivial⟩,
        fun _ _ => List.mem_append_right _ (List.mem_singleton_self _), ?_⟩ <;>
        simp only [Function.update_self]
      · exact hnext.journal_eq
      · exact hnext.startup_eq
      · exact fun _ => hnext.consistent
      · rw [hnext.closed_eq, hnext.journal_eq]
        exact id
    · simp only [Function.update_self]
      exact hcomplete
  · rintro e next ⟨runtime', hnext, rfl⟩
    exact ⟨hupdate hnext (hnext.kept e rfl).symm, fun h => by cases h⟩

/-- Closing the journal of a runtime asks the journal to close, whether or not it then closes. -/
structure JournalAsked (runtime : ℕ) (world next : World) : Prop
    extends OnOnly runtime world next where
  shutdown_eq : (next.runtimes runtime).shutdownComplete
    = (world.runtimes runtime).shutdownComplete
  subscriptions_eq : (next.runtimes runtime).subscriptions
    = (world.runtimes runtime).subscriptions
  journal_asked : ∀ journal, (world.runtimes runtime).referenceJournal = some journal →
    next.askedToClose journal = true

theorem ends_asyncCloseReferenceJournal (hclosed : ∀ journal,
      (world.runtimes runtime).referenceJournalClosed = true →
        (world.runtimes runtime).referenceJournal = some journal →
          world.askedToClose journal = true) (close : Ending) :
    Ends (asyncCloseReferenceJournal runtime close) world fun _ next =>
      JournalAsked runtime world next := by
  have hsame := OnOnly.refl runtime world
  refine ends_bind.2 (ends_get.2 ?_)
  dsimp only
  cases hjournal : (world.runtimes runtime).referenceJournal with
  | none => exact ends_pure.2 ⟨hsame, rfl, rfl, fun _ h => by rw [hjournal] at h; cases h⟩
  | some journal =>
    dsimp only
    split
    · rename_i hdone
      exact ends_pure.2 ⟨hsame, rfl, rfl, fun other hother => hclosed other hdone hother⟩
    · have hask := OnOnly.ask runtime world journal
      have hasked : ∀ other, (world.runtimes runtime).referenceJournal = some other →
          Function.update world.askedToClose journal true other = true := by
        intro other hother
        rw [hjournal] at hother
        rw [← Option.some.inj hother, Function.update_self]
      refine Ends.bind (P := fun _ next => next
        = { world with askedToClose := Function.update world.askedToClose journal true }) ?_ ?_ ?_
      · exact ends_bind.2 (ends_modify.2 (ends_lift.2 rfl))
      · rintro ⟨⟩ next rfl
        refine ends_onRuntime (P := fun _ next => next
          = { (world.runtimes runtime) with referenceJournalClosed := true }) (ends_modify.2 rfl) ?_
        rintro _ next rfl
        refine ⟨hask.trans (OnOnly.close hjournal (hasked journal hjournal)), ?_, ?_, hasked⟩ <;>
          simp only [Function.update_self]
      · rintro e next rfl
        exact ⟨hask, rfl, rfl, hasked⟩

theorem ends_closeReferenceJournal (hclosed : ∀ journal,
      (world.runtimes runtime).referenceJournalClosed = true →
        (world.runtimes runtime).referenceJournal = some journal →
          world.askedToClose journal = true) (close : Ending) :
    Ends (closeReferenceJournal runtime close) world fun result next =>
      JournalAsked runtime world next ∧ (result = .ok () → .closeReturned runtime ∈ next.log) := by
  refine (ends_asyncCloseReferenceJournal hclosed close).bind ?_ ?_
  · rintro ⟨⟩ next h
    refine ends_modify.2 ⟨⟨h.toOnOnly.trans (OnOnly.record runtime next trivial), h.shutdown_eq,
      h.subscriptions_eq, h.journal_asked⟩, fun _ => ?_⟩
    exact List.mem_append_right _ (List.mem_singleton_self _)
  · rintro e next h
    exact ⟨h, fun hok => by cases hok⟩

end

/-! ## The invariant along the steps -/

namespace World

variable {world next : World} {runtime journal : ℕ}

/-- A held runtime may be shut down and its journal closed, as far as they go. -/
theorem Inv.onOnly (h : world.Inv) (hheld : world.runtimeData = some runtime)
    (hstep : OnOnly runtime world next) : next.Inv where
  pending other hcreated hpending := by
    unfold Holds
    rw [hstep.data_eq, hstep.registered_eq]
    -- the step concerns this runtime; what holds of the others is untouched
    by_cases hother : other = runtime
    · exact Or.inl (hother ▸ hheld)
    · rw [hstep.others other hother] at hpending
      exact h.pending other (hstep.created_eq ▸ hcreated) hpending
  journals other hopened := by
    rcases h.journals other (hstep.opened_eq ▸ hopened) with
      hasked | ⟨owner, hcreated, hholds, hown⟩
    · exact Or.inl (hstep.asked other hasked)
    · refine Or.inr ⟨owner, hstep.created_eq ▸ hcreated, ?_, ?_⟩
      · unfold Holds
        rw [hstep.data_eq, hstep.registered_eq]
        exact hholds
      · by_cases howner : owner = runtime
        · rw [howner, hstep.journal_eq, ← howner]
          exact hown
        · rw [hstep.others owner howner]
          exact hown
  registered other hother := by
    rw [hstep.registered_eq] at hother
    obtain ⟨hcreated, hstartup⟩ := h.registered other hother
    refine ⟨hstep.created_eq ▸ hcreated, ?_⟩
    by_cases heq : other = runtime
    · rw [heq, hstep.startup_eq, ← heq]
      exact hstartup
    · rw [hstep.others other heq]
      exact hstartup
  ordered := hstep.ordered h.ordered
  consistent other := by
    by_cases heq : other = runtime
    · rw [heq]
      exact hstep.consistent (h.consistent runtime)
    · rw [hstep.others other heq]
      exact h.consistent other
  registered_held other hother := by
    rw [hstep.data_eq]
    exact h.registered_held other (hstep.registered_eq ▸ hother)
  held_created other hother := by
    rw [hstep.created_eq]
    exact h.held_created other (hstep.data_eq ▸ hother)
  shutdown_logged other hother := by
    rw [hstep.data_eq, hheld] at hother
    obtain rfl := Option.some.inj hother
    exact hstep.shutdown_logged (h.shutdown_logged runtime hheld)
  closed_asked other := by
    by_cases heq : other = runtime
    · rw [heq]
      exact hstep.closed_asked (h.closed_asked runtime)
    · rw [hstep.others other heq]
      exact fun journal hclosed hjournal => hstep.asked journal
        (h.closed_asked other journal hclosed hjournal)

/-- A world in which a setup has created a runtime that nothing holds yet, and everything older is
released. -/
structure Opening (world : World) (runtime journal : ℕ) : Prop where
  created : runtime < world.created
  unheld : world.runtimeData ≠ some runtime
  journal_eq : (world.runtimes runtime).referenceJournal = some journal
  unregistered : world.registered = none
  released : ∀ other < world.created, other ≠ runtime →
    (world.runtimes other).cleanupPending = false
  asked : ∀ other < world.opened, other ≠ journal → world.askedToClose other = true
  ordered : Checked.ForallSplit InOrder world.log
  consistent : ∀ other, (world.runtimes other).Consistent
  held_created : ∀ other, world.runtimeData = some other → other < world.created
  shutdown_logged : ∀ other, world.runtimeData = some other →
    (world.runtimes other).shutdownComplete = true → .shutdownReturned other ∈ world.log
  closed_asked : ∀ other journal, (world.runtimes other).referenceJournalClosed = true →
    (world.runtimes other).referenceJournal = some journal →
      world.askedToClose journal = true

/-- The entry takes the new runtime over. -/
theorem Opening.retain (h : world.Opening runtime journal)
    (hlogged : (world.runtimes runtime).shutdownComplete = true →
      .shutdownReturned runtime ∈ world.log) :
    World.Inv { world with runtimeData := some runtime } where
  pending other hcreated hpending := by
    by_cases hother : other = runtime
    · exact Or.inl (hother ▸ rfl)
    · rw [h.released other hcreated hother] at hpending
      cases hpending
  journals other hopened := by
    by_cases hother : other = journal
    · exact Or.inr ⟨runtime, h.created, Or.inl rfl, hother ▸ h.journal_eq⟩
    · exact Or.inl (h.asked other hopened hother)
  registered other hother := by
    rw [h.unregistered] at hother
    cases hother
  ordered := h.ordered
  consistent := h.consistent
  registered_held other hother := by
    rw [h.unregistered] at hother
    cases hother
  held_created other hother := Option.some.inj hother ▸ h.created
  shutdown_logged other hother := Option.some.inj hother ▸ hlogged
  closed_asked := h.closed_asked

/-- The new runtime is dropped after it released everything. -/
theorem Opening.drop (h : world.Opening runtime journal)
    (hreleased : (world.runtimes runtime).cleanupPending = false)
    (hasked : world.askedToClose journal = true) : world.Inv where
  pending other hcreated hpending := by
    by_cases hother : other = runtime
    · rw [hother, hreleased] at hpending
      cases hpending
    · rw [h.released other hcreated hother] at hpending
      cases hpending
  journals other hopened := by
    by_cases hother : other = journal
    · exact Or.inl (hother ▸ hasked)
    · exact Or.inl (h.asked other hopened hother)
  registered other hother := by
    rw [h.unregistered] at hother
    cases hother
  ordered := h.ordered
  consistent := h.consistent
  registered_held other hother := by
    rw [h.unregistered] at hother
    cases hother
  held_created := h.held_created
  shutdown_logged := h.shutdown_logged
  closed_asked := h.closed_asked

theorem Opening.onOnly (h : world.Opening runtime journal) (hstep : OnOnly runtime world next) :
    next.Opening runtime journal where
  created := hstep.created_eq ▸ h.created
  unheld := hstep.data_eq ▸ h.unheld
  journal_eq := hstep.journal_eq.trans h.journal_eq
  unregistered := hstep.registered_eq.trans h.unregistered
  released other hcreated hother := by
    rw [hstep.others other hother]
    exact h.released other (hstep.created_eq ▸ hcreated) hother
  asked other hopened hother :=
    hstep.asked other (h.asked other (hstep.opened_eq ▸ hopened) hother)
  ordered := hstep.ordered h.ordered
  consistent other := by
    by_cases heq : other = runtime
    · rw [heq]
      exact hstep.consistent (h.consistent runtime)
    · rw [hstep.others other heq]
      exact h.consistent other
  held_created other hother := by
    rw [hstep.created_eq]
    exact h.held_created other (hstep.data_eq ▸ hother)
  shutdown_logged other hother hcomplete := by
    rw [hstep.data_eq] at hother
    have hne : other ≠ runtime := fun heq => h.unheld (heq ▸ hother)
    rw [hstep.others other hne] at hcomplete
    exact hstep.logged _ (h.shutdown_logged other hother hcomplete)
  closed_asked other := by
    by_cases heq : other = runtime
    · rw [heq]
      exact hstep.closed_asked (h.closed_asked runtime)
    · rw [hstep.others other heq]
      exact fun journal hclosed hjournal => hstep.asked journal
        (h.closed_asked other journal hclosed hjournal)

/-- The new runtime is set up, as far as that goes. -/
theorem Opening.setUp (h : world.Opening runtime journal) {next : TrueFamilyRuntime}
    (hsame : (world.runtimes runtime).SameJournal next) (hconsistent : next.Consistent) :
    World.Opening { world with runtimes := Function.update world.runtimes runtime next }
      runtime journal where
  created := h.created
  unheld := h.unheld
  journal_eq := by
    simp only [Function.update_self]
    exact hsame.journal_eq.trans h.journal_eq
  unregistered := h.unregistered
  released other hcreated hother := by
    simp only [Function.update_of_ne hother]
    exact h.released other hcreated hother
  asked := h.asked
  ordered := h.ordered
  consistent other := by
    by_cases heq : other = runtime
    · simp only [heq, Function.update_self]
      exact hconsistent
    · simp only [Function.update_of_ne heq]
      exact h.consistent other
  held_created := h.held_created
  shutdown_logged other hother := by
    have hne : other ≠ runtime := fun heq => h.unheld (heq ▸ hother)
    simp only [Function.update_of_ne hne]
    exact h.shutdown_logged other hother
  closed_asked other := by
    by_cases heq : other = runtime
    · simp only [heq, Function.update_self, hsame.closed_eq, hsame.journal_eq]
      exact h.closed_asked runtime
    · simp only [Function.update_of_ne heq]
      exact h.closed_asked other

/-! ### Idle worlds -/

/-- Nothing is registered, and the runtime that the entry still holds is released. -/
theorem Inv.idle (h : world.Inv) (hunregistered : world.registered = none)
    (hheld : ∀ runtime, world.runtimeData = some runtime →
      (world.runtimes runtime).cleanupPending = false
        ∧ (∀ journal, (world.runtimes runtime).referenceJournal = some journal →
          world.askedToClose journal = true)
        ∧ .closeReturned runtime ∈ world.log) : world.Idle where
  toInv := h
  unregistered := hunregistered
  released runtime hcreated := by
    by_contra hpending
    rcases h.pending runtime hcreated (by simpa using hpending) with hdata | hregistered
    · exact hpending (hheld runtime hdata).1
    · rw [hunregistered] at hregistered
      cases hregistered
  asked journal hopened := by
    rcases h.journals journal hopened with hasked | ⟨runtime, _, hholds, hown⟩
    · exact hasked
    · rcases hholds with hdata | hregistered
      · exact (hheld runtime hdata).2.1 journal hown
      · rw [hunregistered] at hregistered
        cases hregistered
  close_logged runtime hdata := (hheld runtime hdata).2.2

/-- The world after a journal was loaded. -/
def loaded (world : World) : World :=
  { world with
    opened := world.opened + 1
    log := world.log ++ [.opened world.opened world.runtimeData] }

theorem Idle.ordered_loaded (h : world.Idle) :
    Checked.ForallSplit InOrder world.loaded.log := by
  refine Checked.forallSplit_concat.2 ⟨h.ordered, ?_⟩
  cases hdata : world.runtimeData with
  | none => trivial
  | some previous =>
    have hreleased := h.released previous (h.held_created previous hdata)
    have hcomplete : (world.runtimes previous).shutdownComplete = true := by
      by_contra hnot
      rw [Bool.not_eq_true, ← (h.consistent previous).cleanupPending_iff, hreleased] at hnot
      cases hnot
    exact ⟨h.shutdown_logged previous hdata hcomplete, h.close_logged previous hdata⟩

/-- The loaded journal is closed when the rest of the first stage fails. -/
theorem Idle.unused (h : world.Idle) : World.Inv { world.loaded with
    askedToClose := Function.update world.askedToClose world.opened true } where
  pending := h.pending
  journals journal hopened := by
    refine Or.inl (OnOnly.asked_update ?_)
    have hopened : journal < world.opened + 1 := hopened
    by_cases hlast : journal = world.opened
    · exact Or.inl hlast
    · exact Or.inr (h.asked journal (by omega))
  registered := h.registered
  ordered := h.ordered_loaded
  consistent := h.consistent
  registered_held := h.registered_held
  held_created := h.held_created
  shutdown_logged runtime hdata hcomplete :=
    List.mem_append_left _ (h.shutdown_logged runtime hdata hcomplete)
  closed_asked runtime journal hclosed hjournal :=
    OnOnly.asked_update (Or.inr (h.closed_asked runtime journal hclosed hjournal))

/-- The loaded journal goes to the new runtime. -/
theorem Idle.opening (h : world.Idle) : World.Opening { world.loaded with
    created := world.created + 1
    runtimes := Function.update world.runtimes world.created
      { referenceJournal := some world.opened } } world.created world.opened where
  created := Nat.lt_succ_self _
  unheld hdata := absurd (h.held_created world.created hdata) (lt_irrefl _)
  journal_eq := by simp only [Function.update_self]
  unregistered := h.unregistered
  released other hcreated hother := by
    simp only [Function.update_of_ne hother]
    have hcreated : other < world.created + 1 := hcreated
    exact h.released other (by omega)
  asked other hopened hother := by
    have hopened : other < world.opened + 1 := hopened
    exact h.asked other (by omega)
  ordered := h.ordered_loaded
  consistent other := by
    by_cases heq : other = world.created
    · simp only [heq, Function.update_self]
      exact fun _ => rfl
    · simp only [Function.update_of_ne heq]
      exact h.consistent other
  held_created other hother := Nat.lt_succ_of_lt (h.held_created other hother)
  shutdown_logged other hother := by
    have hne : other ≠ world.created := fun heq =>
      absurd (h.held_created other hother) (by omega)
    simp only [Function.update_of_ne hne]
    exact fun hcomplete => List.mem_append_left _ (h.shutdown_logged other hother hcomplete)
  closed_asked other journal := by
    by_cases heq : other = world.created
    · simp only [heq, Function.update_self]
      intro hclosed
      cases hclosed
    · simp only [Function.update_of_ne heq]
      exact h.closed_asked other journal

end World

/-! ## Setup -/

section

variable {world : World} {runtime journal : ℕ}

/-- However a step ends whose errors are only renamed, what it left is the same. -/
theorem ends_renamed {σ ε α : Type} {x : Method σ ε α} {s : σ} {P : Except ε α → σ → Prop}
    (h : Ends x s P) (rename : ε → ε) : Ends (x.handle fun e => raise (rename e)) s
      fun result t => match result with
        | .ok a => P (.ok a) t
        | .error _ => ∃ e, P (.error e) t :=
  h.handle (fun _ _ hP => hP) fun e _ hP => ends_raise.2 ⟨e, hP⟩

/-- The journal of a runtime that was shut down is closed. -/
theorem ends_closePrevious (h : world.Inv) (hdata : world.runtimeData = some runtime)
    (hregistered : world.registered ≠ some runtime)
    (hreleased : (world.runtimes runtime).cleanupPending = false) (close : Ending) :
    Ends (orRaise .notReady (closeReferenceJournal runtime close)) world fun result next =>
      next.Inv ∧ (result = .ok () → next.Idle) := by
  refine (ends_renamed (ends_closeReferenceJournal (h.closed_asked runtime) close) _).imp ?_
  rintro (e | ⟨⟩) next hends
  · obtain ⟨_, hasked, _⟩ := hends
    exact ⟨h.onOnly hdata hasked.toOnOnly, fun hok => by cases hok⟩
  · obtain ⟨hasked, hlogged⟩ := hends
    have hnext := h.onOnly hdata hasked.toOnOnly
    refine ⟨hnext, fun _ => hnext.idle ?_ fun other hother => ?_⟩
    · rw [hasked.registered_eq]
      by_contra hsome
      obtain ⟨other, hother⟩ := Option.ne_none_iff_exists'.1 hsome
      have hheld := h.registered_held other hother
      rw [hdata] at hheld
      exact hregistered (Option.some.inj hheld ▸ hother)
    · rw [hasked.data_eq, hdata] at hother
      obtain rfl := Option.some.inj hother
      refine ⟨?_, fun journal hjournal => ?_, hlogged rfl⟩
      · unfold TrueFamilyRuntime.cleanupPending TrueFamilyRuntime.hasSubscriptions at hreleased ⊢
        rw [hasked.shutdown_eq, hasked.subscriptions_eq]
        exact hreleased
      · exact hasked.journal_asked journal (hasked.journal_eq.symm.trans hjournal)

theorem ends_releasePrevious (h : world.Inv) (choices : SetupChoices) :
    Ends (releasePrevious choices) world fun result next =>
      next.Inv ∧ (result = .ok () → next.Idle) := by
  refine ends_bind.2 (ends_get.2 ?_)
  dsimp only
  cases hdata : world.runtimeData with
  | none =>
    have hnone : ∀ runtime, world.runtimeData ≠ some runtime := fun runtime hheld => by
      rw [hdata] at hheld
      cases hheld
    refine ends_pure.2 ⟨h, fun _ => h.idle ?_ fun runtime hheld => absurd hheld (hnone runtime)⟩
    by_contra hregistered
    obtain ⟨runtime, hregistered⟩ := Option.ne_none_iff_exists'.1 hregistered
    have hheld := h.registered_held runtime hregistered
    rw [hdata] at hheld
    cases hheld
  | some previous =>
    dsimp only
    refine Ends.bind (P := fun result next => next = world
      ∧ (result = .ok () → world.registered ≠ some previous)) ?_ ?_ ?_
    · exact ends_lift.2 ⟨rfl, fun hok => Checked.check_eq_ok.1 hok⟩
    · rintro ⟨⟩ next ⟨rfl, hregistered⟩
      have hother := hregistered rfl
      split
      · refine (ends_renamed (ends_shutDown (h.consistent previous) choices.previousShutdown)
          _).bind ?_ ?_
        · rintro ⟨⟩ last ⟨hstep, hcomplete⟩
          have hlast := h.onOnly hdata hstep
          refine ends_closePrevious hlast (hstep.data_eq.trans hdata)
            (by rw [hstep.registered_eq]; exact hother) ?_ _
          rw [← Bool.not_eq_true, (hlast.consistent previous).cleanupPending_iff,
            (hcomplete rfl).1]
          simp
        · rintro e last ⟨_, hstep, _⟩
          exact ⟨h.onOnly hdata hstep, fun hok => by cases hok⟩
      · rename_i hpending
        exact ends_closePrevious h hdata hother (by simpa using hpending) _
    · rintro e next ⟨rfl, _⟩
      exact ⟨h, fun hok => by cases hok⟩

/-- The first stage creates a runtime with its journal, or leaves nothing behind. -/
theorem ends_openRuntime (h : world.Idle) (choices : SetupChoices) :
    Ends (openRuntime choices) world fun result next => match result with
      | .ok runtime => ∃ journal, next.Opening runtime journal
        ∧ (next.runtimes runtime).shutdownComplete = false
      | .error _ => next.Inv := by
  unfold openRuntime
  refine Ends.bind (P := fun result next => match result with
    | .ok journal => journal = world.opened ∧ next = world.loaded
    | .error _ => next = world) ?_ ?_ ?_
  · refine (ends_renamed (P := fun result next => match result with
      | .ok journal => journal = world.opened ∧ next = world.loaded
      | .error _ => next = world) ?_ _).imp ?_
    · refine Ends.bind (P := fun _ next => next = world) (ends_lift.2 rfl) ?_ fun _ _ h => h
      rintro ⟨⟩ next rfl
      refine Ends.bind (P := fun _ last => last = next) (ends_lift.2 rfl) ?_ fun _ _ h => h
      rintro ⟨⟩ last rfl
      exact ends_bind.2 (ends_get.2 (ends_bind.2 (ends_modify.2 (ends_pure.2 ⟨rfl, rfl⟩))))
    · rintro (e | journal) next hends
      · obtain ⟨_, hnext⟩ := hends
        exact hnext
      · exact hends
  · rintro journal next ⟨rfl, rfl⟩
    refine (ends_renamed (P := fun result next => match result with
      | .ok runtime => runtime = world.created ∧ next = { world.loaded with
          created := world.created + 1
          runtimes := Function.update world.runtimes world.created
            { referenceJournal := some world.opened } }
      | .error _ => next = world.loaded) ?_ _).handle ?_ ?_
    · refine Ends.bind (P := fun _ next => next = world.loaded) (ends_lift.2 rfl) ?_ fun _ _ h => h
      rintro ⟨⟩ next rfl
      exact ends_bind.2 (ends_get.2 (ends_bind.2 (ends_modify.2 (ends_pure.2 ⟨rfl, rfl⟩))))
    · rintro runtime next ⟨rfl, rfl⟩
      refine ⟨world.opened, h.opening, ?_⟩
      simp only [Function.update_self]
    · rintro e next ⟨_, rfl⟩
      refine Ends.bind (P := fun _ next => next.Inv) ?_ ?_ fun _ _ h => h
      · exact ends_bind.2 (ends_modify.2 (ends_lift.2 h.unused))
      · rintro ⟨⟩ next hnext
        exact ends_raise.2 hnext
  · rintro e next rfl
    exact h.toInv

/-- However a warned step ends, what it left is the same. -/
theorem ends_orWarn {x : Coroutine Unit} {P : World → Prop}
    (h : Ends x world fun _ next => P next) :
    Ends (orWarn x) world fun _ next => P next := by
  refine Ends.handle h (fun _ _ hP => hP) fun e next hP => ?_
  by_cases hcancelled : e = .cancelled
  · rw [if_pos hcancelled]
    exact ends_raise.2 hP
  · rw [if_neg hcancelled]
    exact ends_pure.2 hP

/-- A new runtime without subscriptions closes its journal and is dropped. -/
theorem World.Opening.ends_close (h : world.Opening runtime journal)
    (hreleased : (world.runtimes runtime).cleanupPending = false) (close : Ending) :
    Ends (orWarn (closeReferenceJournal runtime close)) world fun _ next => next.Inv := by
  refine ends_orWarn ((ends_closeReferenceJournal (h.closed_asked runtime) close).imp ?_)
  rintro result next ⟨hasked, _⟩
  refine (h.onOnly hasked.toOnOnly).drop ?_ (hasked.journal_asked journal h.journal_eq)
  unfold TrueFamilyRuntime.cleanupPending TrueFamilyRuntime.hasSubscriptions at hreleased ⊢
  rw [hasked.shutdown_eq, hasked.subscriptions_eq]
  exact hreleased

/-- A new runtime whose cleanup is pending is retained. -/
theorem World.Opening.retain_pending (h : world.Opening runtime journal)
    (hpending : (world.runtimes runtime).cleanupPending = true) :
    World.Inv { world with runtimeData := some runtime } := by
  rw [(h.consistent runtime).cleanupPending_iff] at hpending
  refine h.retain fun hcomplete => ?_
  rw [hpending] at hcomplete
  cases hcomplete

/-- A setup of the runtime that failed never returns, and loses nothing: the runtime's setup is
cancelled or unsafe, so the branch that would drop a cancelled shutdown is not taken. -/
theorem ends_setupFailed (h : world.Opening runtime journal) (choices : SetupChoices) {e : PyError}
    (he : e = .cancelled ∨ e = .setupSafetyError) :
    Ends (setupFailed runtime choices e) world fun result next =>
      next.Inv ∧ ∃ raised, result = .error raised := by
  have hraise : ∀ {next : World} (raised : PyError), next.Inv →
      Ends (raise raised : Coroutine Unit) next fun result last =>
        last.Inv ∧ ∃ raised, result = .error raised :=
    fun raised hnext => ends_raise.2 ⟨hnext, raised, rfl⟩
  have hclose : (world.runtimes runtime).cleanupPending = false → ∀ raised,
      Ends (orWarn (closeReferenceJournal runtime choices.close) >>= fun _ =>
        (raise raised : Coroutine Unit)) world fun result next =>
          next.Inv ∧ ∃ raised, result = .error raised := fun hreleased raised =>
    (h.ends_close hreleased choices.close).bind (fun _ _ hnext => hraise raised hnext)
      fun e' _ hnext => ⟨hnext, e', rfl⟩
  refine ends_bind.2 (ends_get.2 ?_)
  rcases he with rfl | rfl <;> dsimp only <;> split
  · rename_i hpending
    exact ends_bind.2 (ends_modify.2 (hraise _ (h.retain_pending hpending)))
  · rename_i hpending
    exact hclose (by simpa using hpending) _
  · rename_i hpending
    exact ends_bind.2 (ends_modify.2 (hraise _ (h.retain_pending hpending)))
  · rename_i hpending
    exact hclose (by simpa using hpending) _

/-- Platforms that could not be set up never make the setup return, and nothing is lost: the entry
holds the runtime. -/
theorem ends_forwardFailed (h : world.Inv) (hdata : world.runtimeData = some runtime)
    (choices : SetupChoices) (e : PyError) :
    Ends (forwardFailed runtime choices e) world fun result next =>
      next.Inv ∧ ∃ raised, result = .error raised := by
  have hstop := ends_shutDown (h.consistent runtime) choices.shutdown
  have hclose : ∀ {next : World}, next.Inv → next.runtimeData = some runtime →
      Ends (closeReferenceJournal runtime choices.close) next fun _ last => last.Inv :=
    fun hnext hheld => (ends_closeReferenceJournal (hnext.closed_asked runtime) _).imp
      fun _ _ hends => hnext.onOnly hheld hends.1.toOnOnly
  unfold forwardFailed
  split
  · refine Ends.bind (P := fun _ next => next.Inv ∧ next.runtimeData = some runtime) ?_ ?_ ?_
    · refine Ends.handle (P := fun _ next => next.Inv ∧ next.runtimeData = some runtime) ?_
        (fun _ _ hnext => hnext) fun raised next hnext => ?_
      · refine hstop.bind ?_ ?_
        · rintro ⟨⟩ next ⟨hstep, _⟩
          exact ends_pure.2 ⟨h.onOnly hdata hstep, hstep.data_eq.trans hdata⟩
        · rintro raised next ⟨hstep, _⟩
          exact ⟨h.onOnly hdata hstep, hstep.data_eq.trans hdata⟩
      · split
        · exact ends_raise.2 hnext
        · exact ends_pure.2 hnext
    · rintro stopped next ⟨hnext, hheld⟩
      split
      · refine (ends_orWarn (hclose hnext hheld)).bind ?_ ?_
        · rintro ⟨⟩ last hlast
          exact ends_raise.2 ⟨hlast, _, rfl⟩
        · exact fun raised last hlast => ⟨hlast, raised, rfl⟩
      · exact ends_raise.2 ⟨hnext, _, rfl⟩
    · rintro raised next ⟨hnext, _⟩
      exact ⟨hnext, raised, rfl⟩
  · refine (ends_renamed hstop _).bind ?_ ?_
    · rintro ⟨⟩ next ⟨hstep, _⟩
      have hnext := h.onOnly hdata hstep
      refine (ends_renamed (hclose hnext (hstep.data_eq.trans hdata)) _).bind ?_ ?_
      · rintro ⟨⟩ last hlast
        exact ends_raise.2 ⟨hlast, e, rfl⟩
      · rintro raised last ⟨_, hlast⟩
        exact ⟨hlast, raised, rfl⟩
    · rintro raised next ⟨_, hstep, _⟩
      exact ⟨h.onOnly hdata hstep, raised, rfl⟩

/-- A runtime that is held and set up may be registered. -/
theorem World.Inv.register (h : world.Inv) (hdata : world.runtimeData = some runtime)
    (hstartup : (world.runtimes runtime).startupComplete = true) :
    World.Inv { world with registered := some runtime } where
  pending other hcreated hpending := by
    rcases h.pending other hcreated hpending with hother | hother
    · exact Or.inl hother
    · exact Or.inl (h.registered_held other hother)
  journals other hopened := by
    rcases h.journals other hopened with hasked | ⟨owner, hcreated, hholds, hown⟩
    · exact Or.inl hasked
    · refine Or.inr ⟨owner, hcreated, Or.inl ?_, hown⟩
      exact hholds.elim id (h.registered_held owner)
  registered other hother := by
    obtain rfl := Option.some.inj hother
    exact ⟨h.held_created runtime hdata, hstartup⟩
  ordered := h.ordered
  consistent := h.consistent
  registered_held other hother := by
    obtain rfl := Option.some.inj hother
    exact hdata
  held_created := h.held_created
  shutdown_logged := h.shutdown_logged
  closed_asked := h.closed_asked

theorem ends_asyncSetupEntry (h : world.Inv) (choices : SetupChoices) :
    Ends (asyncSetupEntry choices) world fun _ next => next.Inv := by
  refine (ends_releasePrevious h choices).bind ?_ fun _ _ hnext => hnext.1
  rintro ⟨⟩ idle ⟨_, hidle⟩
  refine (ends_openRuntime (hidle rfl) choices).bind ?_ fun _ _ hnext => hnext
  rintro runtime opening ⟨journal, hopening, hfresh⟩
  -- the runtime's own setup
  refine Ends.bind (P := fun result next => match result with
    | .ok _ => next.Opening runtime journal ∧ (next.runtimes runtime).startupComplete = true
      ∧ (next.runtimes runtime).shutdownComplete = false
    | .error _ => next.Inv) ?_ ?_ fun _ _ hnext => hnext
  · refine Ends.handle (P := fun result next => next.Opening runtime journal
      ∧ (result = .ok () → (next.runtimes runtime).startupComplete = true
        ∧ (next.runtimes runtime).shutdownComplete = false)
      ∧ ∀ e, result = .error e → e = .cancelled ∨ e = .setupSafetyError) ?_ ?_ ?_
    · refine ends_onRuntime (TrueFamilyRuntime.ends_asyncSetup hfresh choices.runtimeSetup) ?_
      intro result next hnext
      refine ⟨hopening.setUp hnext.toSameJournal hnext.consistent, ?_, hnext.raised⟩
      simp only [Function.update_self]
      exact hnext.complete
    · rintro ⟨⟩ next ⟨hnext, hcomplete, _⟩
      exact ⟨hnext, hcomplete rfl⟩
    · rintro e next ⟨hnext, _, hraised⟩
      refine (ends_setupFailed hnext choices (hraised e rfl)).imp ?_
      rintro _ last ⟨hlast, raised, rfl⟩
      exact hlast
  · rintro ⟨⟩ next ⟨hnext, hstartup, hrunning⟩
    have hheld : World.Inv { next with runtimeData := some runtime } := by
      refine hnext.retain fun hcomplete => ?_
      rw [hrunning] at hcomplete
      cases hcomplete
    refine ends_bind.2 (ends_modify.2 ?_)
    -- the platforms
    refine Ends.bind (P := fun result last => last.Inv
      ∧ (result = .ok () → last = { next with runtimeData := some runtime })) ?_ ?_
      fun _ _ hlast => hlast.1
    · refine Ends.handle (P := fun _ last => last = { next with runtimeData := some runtime })
        (ends_lift.2 rfl) ?_ ?_
      · rintro ⟨⟩ last rfl
        exact ⟨hheld, fun _ => rfl⟩
      · rintro e last rfl
        refine (ends_forwardFailed hheld rfl choices e).imp ?_
        rintro _ final ⟨hfinal, raised, rfl⟩
        exact ⟨hfinal, fun hok => by cases hok⟩
    · rintro ⟨⟩ last ⟨_, heq⟩
      obtain rfl := heq rfl
      exact ends_bind.2 (ends_modify.2 (ends_pure.2 (hheld.register rfl hstartup)))

/-! ## Unload -/

/-- A runtime that released everything may be unregistered, and the entry may forget it. -/
theorem World.Inv.unregister (h : world.Inv) : World.Inv { world with registered := none } where
  pending other hcreated hpending :=
    Or.inl ((h.pending other hcreated hpending).elim id (h.registered_held other))
  journals other hopened := by
    rcases h.journals other hopened with hasked | ⟨owner, hcreated, hholds, hown⟩
    · exact Or.inl hasked
    · exact Or.inr ⟨owner, hcreated, Or.inl (hholds.elim id (h.registered_held owner)), hown⟩
  registered _ hother := by cases hother
  ordered := h.ordered
  consistent := h.consistent
  registered_held _ hother := by cases hother
  held_created := h.held_created
  shutdown_logged := h.shutdown_logged
  closed_asked := h.closed_asked

theorem World.Idle.forget (h : world.Idle) : World.Inv { world with runtimeData := none } where
  pending other hcreated hpending := by
    rw [h.released other hcreated] at hpending
    cases hpending
  journals other hopened := Or.inl (h.asked other hopened)
  registered := h.registered
  ordered := h.ordered
  consistent := h.consistent
  registered_held other hother := by
    rw [h.unregistered] at hother
    cases hother
  held_created _ hother := by cases hother
  shutdown_logged _ hother := by cases hother
  closed_asked := h.closed_asked

/-- An unload loses nothing, and one that returned `True` has released everything. -/
theorem ends_asyncUnloadEntry (h : world.Inv) (choices : UnloadChoices) :
    Ends (asyncUnloadEntry choices) world fun result next =>
      next.Inv ∧ (result = .ok true → next.Idle) := by
  refine ends_bind.2 (ends_get.2 ?_)
  dsimp only
  cases hdata : world.runtimeData with
  | none => exact ends_raise.2 ⟨h, fun hok => by cases hok⟩
  | some runtime =>
    dsimp only
    -- the shutdown comes first; what it raises is turned into a result or raised again
    refine Ends.bind (P := fun result next => next.Inv ∧ next.runtimeData = some runtime
      ∧ (result = .ok true → (next.runtimes runtime).cleanupPending = false)) ?_ ?_ ?_
    · refine Ends.handle (P := fun result next => next.Inv ∧ next.runtimeData = some runtime
        ∧ (result = .ok true → (next.runtimes runtime).cleanupPending = false)) ?_
        (fun _ _ hnext => hnext) fun raised next hnext => ?_
      · refine (ends_shutDown (h.consistent runtime) choices.shutdown).bind ?_ ?_
        · rintro ⟨⟩ next ⟨hstep, hcomplete⟩
          have hnext := h.onOnly hdata hstep
          refine ends_pure.2 ⟨hnext, hstep.data_eq.trans hdata, fun _ => ?_⟩
          rw [← Bool.not_eq_true, (hnext.consistent runtime).cleanupPending_iff,
            (hcomplete rfl).1]
          simp
        · rintro raised next ⟨hstep, _⟩
          exact ⟨h.onOnly hdata hstep, hstep.data_eq.trans hdata, fun hok => by cases hok⟩
      · split
        · exact ends_pure.2 ⟨hnext.1, hnext.2.1, fun hok => by cases hok⟩
        · exact ends_raise.2 ⟨hnext.1, hnext.2.1, fun hok => by cases hok⟩
    · rintro stopped next ⟨hnext, hheld, hreleased⟩
      cases stopped with
      | false => exact ends_pure.2 ⟨hnext, fun hok => by cases hok⟩
      | true =>
        refine Ends.bind (P := fun _ last => last = next) (ends_lift.2 rfl) ?_ ?_
        · rintro unloadOk last rfl
          cases unloadOk with
          | false => exact ends_pure.2 ⟨hnext, fun hok => by cases hok⟩
          | true =>
            -- everything has stopped, so the journal is closed and the entry forgets its runtime
            refine (ends_closeReferenceJournal (hnext.closed_asked runtime) _).bind ?_ ?_
            · rintro ⟨⟩ final ⟨hasked, hlogged⟩
              have hfinal := (hnext.onOnly hheld hasked.toOnOnly).unregister
              refine ends_bind.2 (ends_modify.2 (ends_pure.2 ⟨hfinal, fun _ => ?_⟩))
              refine hfinal.idle rfl fun other hother => ?_
              have hother : final.runtimeData = some other := hother
              rw [hasked.data_eq, hheld] at hother
              obtain rfl := Option.some.inj hother
              refine ⟨?_, fun journal hjournal => ?_, hlogged rfl⟩
              · have hdone := hreleased rfl
                unfold TrueFamilyRuntime.cleanupPending TrueFamilyRuntime.hasSubscriptions
                  at hdone ⊢
                rw [hasked.shutdown_eq, hasked.subscriptions_eq]
                exact hdone
              · exact hasked.journal_asked journal (hasked.journal_eq.symm.trans hjournal)
            · rintro raised final ⟨hasked, _⟩
              exact ⟨hnext.onOnly hheld hasked.toOnOnly, fun hok => by cases hok⟩
        · rintro raised last rfl
          exact ⟨hnext, fun hok => by cases hok⟩
    · rintro raised next ⟨hnext, _, _⟩
      exact ⟨hnext, fun hok => by cases hok⟩

/-! ## Runs -/

theorem World.inv_empty : World.Inv {} where
  pending _ hcreated := absurd hcreated (Nat.not_lt_zero _)
  journals _ hopened := absurd hopened (Nat.not_lt_zero _)
  registered _ hother := by cases hother
  ordered := Checked.forallSplit_nil
  consistent _ _ := rfl
  registered_held _ hother := by cases hother
  held_created _ hother := by cases hother
  shutdown_logged _ hother := by cases hother
  closed_asked _ _ hclosed := by cases hclosed

theorem Call.inv_perform (h : world.Inv) (call : Call) : (call.perform world).Inv := by
  cases call with
  | setup choices => exact ends_asyncSetupEntry h choices
  | unload choices deletes =>
    obtain ⟨hnext, hidle⟩ := ends_asyncUnloadEntry h choices
    simp only [Call.perform]
    split
    · rename_i hok
      cases deletes with
      | false => exact hnext
      | true => exact (hidle hok).forget
    · exact hnext

end

/-- After any sequence of setups and unloads, whatever their awaited steps did, no unfinished
cleanup is lost. -/
theorem cleanup_kept (calls : List Call) : (World.after calls).Kept := by
  suffices h : ∀ world : World, world.Inv → (calls.foldl Call.perform world).Inv from
    (h {} World.inv_empty).toKept
  induction calls with
  | nil => exact fun _ h => h
  | cons call calls ih => exact fun world h => ih _ (Call.inv_perform h call)

/-- A setup whose steps all return registers the first runtime. -/
example :
    (World.after [.setup {
      previousShutdown := ⟨false, .ok (), fun _ => true⟩
      previousClose := .ok ()
      journalId := .ok ()
      load := .ok ()
      parse := .ok ()
      closeUnused := .ok ()
      runtimeSetup := ⟨.ok (), .ok (), .ok (), .ok (), .ok (), fun _ => true, .ok (), fun _ => true⟩
      forward := .ok ()
      shutdown := ⟨false, .ok (), fun _ => true⟩
      close := .ok () }]).registered = some 0 := by
  decide

end TrueFamily.Setup
