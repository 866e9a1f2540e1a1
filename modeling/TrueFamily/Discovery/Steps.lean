import TrueFamily.Discovery.Invariant
import TrueFamily.Lib.Trace

/-!
# The steps keep the invariant

Discovery, operations, closes, setup, unload and reload keep the invariant as long as operations
are started on a registered runtime's journal only: an operation on a journal whose setup still
runs consumes the setup's pending reload, or is active when the setup consumes it.
-/

namespace TrueFamily.Discovery.World

variable {w w' : World} {j k : ℕ}

/-! ## Discovery -/

/-- What holds at an await, outside setup and for an entry that is not loaded, depends on the
entry's state and its registered runtime. -/
theorem AtTask.of_state {task : Task} (h : AtTask w task) (hstate : w'.state = w.state)
    (hregistered : w'.registered = w.registered) (hsetup : w.state ≠ .setupInProgress)
    (hloaded : w.state ≠ .loaded) : AtTask w' task := by
  cases task
  case idle =>
    refine ⟨by rwa [hstate], hstate ▸ h.2.1, by rw [hstate, hregistered]; exact h.2.2.1,
      fun hl => absurd (hstate ▸ hl) hloaded⟩
  case openJournal | setupRuntime | forwardSetups => exact absurd h.1.1 hsetup
  case shutdown | unloadPlatforms | closeJournal | unloaded =>
    exact ⟨hstate.trans h.1, hregistered.trans h.2⟩
  all_goals exact absurd h.1 hsetup

/-- While a setup runs, its pending reload makes up for any endpoint. -/
theorem AtTask.of_pending {task : Task} (h : AtTask w task) (hstate : w'.state = w.state)
    (hregistered : w'.registered = w.registered) (hruntime : w'.runtimeData = w.runtimeData)
    (hjournals : w'.journals = w.journals) (hpending : w'.pending = some ⟨none⟩)
    (hsetup : w.state = .setupInProgress) : AtTask w' task := by
  have hopened : ∀ j, Opened w j → Opened w' j := by
    rintro j ⟨hclosing, endpoint, hendpoint, -⟩
    exact ⟨by rwa [hjournals], endpoint, by rwa [hjournals], .inr hpending⟩
  have hsetting : SettingUp w → SettingUp w' := fun hset =>
    ⟨hstate.trans hset.1, hregistered.trans hset.2⟩
  cases task
  case idle => exact absurd hsetup h.1
  case openJournal => exact ⟨hsetting h.1, .inr hpending⟩
  case setupRuntime j => exact ⟨hsetting h.1, hopened j h.2⟩
  case forwardSetups j => exact ⟨hsetting h.1, hopened j h.2.1, hruntime.trans h.2.2⟩
  case shutdown | unloadPlatforms | closeJournal | unloaded =>
    have hother := h.1
    rw [hsetup] at hother
    cases hother
  all_goals exact hsetting h

/-- The invariant, of a step that leaves the journals and what runs alone. -/
theorem Invariant.of_eq (h : Invariant w) (hjournals : w'.journals = w.journals)
    (hregistered : w'.registered = w.registered) (hrunning : w'.running = w.running)
    (htask : AtTask w' w.running) : Invariant w' where
  drained := h.drained.of_eq hjournals hregistered
  closing := by
    rw [hjournals, hrunning]
    exact h.closing
  task := by
    rw [hrunning]
    exact htask

/-- A loaded entry keeps an endpoint change in a scheduled reload or in one that waits for the
active operation. -/
theorem InUse.discovery {endpoint : RemoteJournalEndpoint} (h : InUse w j)
    (hstate : w.state = .loaded) : InUse (w.asyncStepHassio endpoint) j := by
  obtain ⟨hregistered, hruntime, hclosing, opened, hopened, hcurrent⟩ := h
  by_cases hsame : w.endpoint = some endpoint
  · have hworld : w.asyncStepHassio endpoint = { w with endpoint := some endpoint } := by
      simp [asyncStepHassio, hstate, hsame, retryable]
    rw [hworld]
    exact ⟨hregistered, hruntime, hclosing, opened, hopened, hsame ▸ hcurrent⟩
  · by_cases hbusy : (w.journals j).migrationOperationInProgress = true
    · have hworld : w.asyncStepHassio endpoint =
          { w with endpoint := some endpoint, pending := some ⟨some j⟩ } := by
        simp [asyncStepHassio, hstate, hsame, retryable, referenceJournalReloadIsSafe, hruntime,
          hregistered, hbusy, markReferenceJournalReloadPending]
      have hactive : 0 < (w.journals j).activeOperations := by
        simpa [ReferenceJournal.migrationOperationInProgress, hclosing] using hbusy
      rw [hworld]
      exact ⟨hregistered, hruntime, hclosing, opened, hopened, .inr (.inr ⟨rfl, hactive⟩)⟩
    · have hworld : w.asyncStepHassio endpoint =
          { w with endpoint := some endpoint, pending := none, scheduled := w.scheduled + 1 } := by
        simp [asyncStepHassio, hstate, hsame, retryable, referenceJournalReloadIsSafe, hruntime,
          hregistered, hbusy, clearReferenceJournalReloadPending, asyncScheduleReload]
      rw [hworld]
      exact ⟨hregistered, hruntime, hclosing, opened, hopened, .inr (.inl (Nat.succ_pos _))⟩

/-- Discovery leaves everything but the endpoint, the pending reload, its listeners and the
scheduled reloads alone. -/
theorem asyncStepHassio_frame (w : World) (endpoint : RemoteJournalEndpoint) :
    ∃ pending listeners scheduled, w.asyncStepHassio endpoint =
      { w with endpoint := some endpoint, pending := pending, listeners := listeners
               scheduled := scheduled } := by
  unfold asyncStepHassio
  dsimp only
  split
  · unfold markReferenceJournalSetupReloadPending
    split <;> exact ⟨_, _, _, rfl⟩
  · split
    · split
      · split
        · exact ⟨_, _, _, rfl⟩
        · split <;> exact ⟨_, _, _, rfl⟩
      · exact ⟨_, _, _, rfl⟩
    · exact ⟨_, _, _, rfl⟩

/-- The cached endpoint again, during setup, changes nothing. -/
theorem discovery_unchanged {endpoint : RemoteJournalEndpoint}
    (hstate : w.state = .setupInProgress) (hsame : w.endpoint = some endpoint) :
    w.asyncStepHassio endpoint = w := by
  have hworld : w.asyncStepHassio endpoint = { w with endpoint := some endpoint } := by
    simp [asyncStepHassio, hstate, hsame, retryable]
  rw [hworld, ← hsame]

/-- A new endpoint during setup leaves the setup's reload pending. -/
theorem discovery_pending {endpoint : RemoteJournalEndpoint} (hstate : w.state = .setupInProgress)
    (hchanged : w.endpoint ≠ some endpoint) :
    (w.asyncStepHassio endpoint).pending = some ⟨none⟩ := by
  unfold asyncStepHassio markReferenceJournalSetupReloadPending
  simp only [hstate, hchanged, ne_eq, not_false_eq_true, decide_true, and_self, if_true]
  split
  · assumption
  · rfl

theorem Invariant.discovery (h : Invariant w) (endpoint : RemoteJournalEndpoint) :
    Invariant (w.asyncStepHassio endpoint) := by
  obtain ⟨pending, listeners, scheduled, hworld⟩ := w.asyncStepHassio_frame endpoint
  have hjournals : (w.asyncStepHassio endpoint).journals = w.journals := by rw [hworld]
  have hregistered : (w.asyncStepHassio endpoint).registered = w.registered := by rw [hworld]
  have hrunning : (w.asyncStepHassio endpoint).running = w.running := by rw [hworld]
  have hstate : (w.asyncStepHassio endpoint).state = w.state := by rw [hworld]
  refine h.of_eq hjournals hregistered hrunning ?_
  by_cases hsetup : w.state = .setupInProgress
  · by_cases hchanged : w.endpoint = some endpoint
    · rw [discovery_unchanged hsetup hchanged]
      exact h.task
    · exact h.task.of_pending hstate hregistered (by rw [hworld]) hjournals
        (discovery_pending hsetup hchanged) hsetup
  · by_cases hloaded : w.state = .loaded
    · obtain ⟨hidle, j, hj⟩ := h.inUse hloaded
      rw [hidle]
      exact ⟨by simp [hstate, hloaded], by simp [hstate, hloaded],
        by simp [hstate, hloaded, retryable],
        fun _ => ⟨j, hj.discovery hloaded⟩⟩
    · exact h.task.of_state hstate hregistered hsetup hloaded

/-! ## Operations -/

/-- A registered runtime is not being set up. -/
theorem Invariant.state_of_registered (h : Invariant w) (hregistered : w.registered = some j) :
    w.state ≠ .setupInProgress := by
  intro hsetup
  have htask := h.task
  cases hrunning : w.running <;> rw [hrunning] at htask
  case idle => exact htask.1 hsetup
  case openJournal | setupRuntime | forwardSetups =>
    have hother := htask.1.2
    rw [hregistered] at hother
    cases hother
  case shutdown | unloadPlatforms | closeJournal | unloaded =>
    have hother := htask.1
    rw [hsetup] at hother
    cases hother
  all_goals
    have hother := htask.2
    rw [hregistered] at hother
    cases hother

/-- What a change of the active operations of one journal leaves alone. -/
theorem countOperations_journals (w : World) (j : ℕ) (n : ℕ → ℕ) (k : ℕ) :
    ((w.countOperations j n).journals k).closing = (w.journals k).closing ∧
      ((w.countOperations j n).journals k).closed = (w.journals k).closed ∧
      ((w.countOperations j n).journals k).endpoint = (w.journals k).endpoint ∧
      ((w.countOperations j n).journals k).activeOperations =
        if k = j then n (w.journals k).activeOperations else (w.journals k).activeOperations := by
  rw [countOperations, modifyJournal_journals]
  split
  · exact ⟨rfl, rfl, rfl, rfl⟩
  · exact ⟨rfl, rfl, rfl, rfl⟩

/-- The active operations of the registered journal change. -/
theorem Invariant.countOperations {n : ℕ → ℕ} (h : Invariant w)
    (hregistered : w.registered = some j) (hopen : (w.journals j).closed = false ∨ n 0 = 0)
    (hjournals : w'.journals = (w.countOperations j n).journals)
    (hregistered' : w'.registered = w.registered) (hstate : w'.state = w.state)
    (hrunning : w'.running = w.running)
    (huse : w.state = .loaded → InUse w j → InUse w' j) : Invariant w' where
  drained := by
    refine ⟨fun k hk => ?_, fun k hk => ?_⟩
    · rw [hjournals, (w.countOperations_journals j n k).2.2.2] at hk
      rw [hregistered']
      split at hk
      · rename_i hkj
        rw [hkj]
        exact hregistered
      · exact h.drained.active k hk
    · rw [hjournals, (w.countOperations_journals j n k).2.1] at hk
      rw [hjournals, (w.countOperations_journals j n k).2.2.2, h.drained.closed k hk]
      split
      · rename_i hkj
        rw [hkj] at hk
        rcases hopen with hopen | hzero
        · rw [hopen] at hk
          cases hk
        · exact hzero
      · rfl
  closing := fun k hk hkclosed => by
    rw [hjournals, (w.countOperations_journals j n k).1] at hk
    rw [hjournals, (w.countOperations_journals j n k).2.1] at hkclosed
    rw [hrunning]
    exact h.closing k hk hkclosed
  task := by
    have hsetup := h.state_of_registered hregistered
    rw [hrunning]
    by_cases hloaded : w.state = .loaded
    · obtain ⟨hidle, loaded, hin⟩ := h.inUse hloaded
      have hj : loaded = j := by
        rw [← Option.some.injEq, ← hin.registered, hregistered]
      subst hj
      rw [hidle]
      exact ⟨by simp [hstate, hloaded], by simp [hstate, hloaded],
        by simp [hstate, hloaded, retryable], fun _ => ⟨loaded, huse hloaded hin⟩⟩
    · exact h.task.of_state hstate hregistered' hsetup hloaded

/-- An operation starts on the registered journal. -/
theorem Invariant.startOperation (h : Invariant w) (hregistered : w.registered = some j)
    (hstep : w.startOperation j = some w') : Invariant w' := by
  unfold World.startOperation at hstep
  split at hstep
  · cases hstep
  · rename_i hguard
    cases hstep
    simp only [not_or, Bool.not_eq_true] at hguard
    obtain ⟨hclosing, -, hendpoint, hactive⟩ := w.countOperations_journals j (· + 1) j
    refine h.countOperations hregistered (.inl hguard.2.1) rfl rfl rfl rfl fun _ huse => ?_
    obtain ⟨endpoint, hopened, hcurrent⟩ := huse.current
    refine ⟨huse.registered, huse.runtimeData, hclosing.trans huse.notClosing, endpoint,
      hendpoint.trans hopened, hcurrent.imp_right (Or.imp_right fun hpending => ?_)⟩
    refine ⟨hpending.1, ?_⟩
    rw [hactive, if_pos rfl]
    exact Nat.succ_pos _

/-- An operation ends; the last one schedules the reload that waits for it. -/
theorem Invariant.endOperation (h : Invariant w) (hstep : w.endOperation j = some w') :
    Invariant w' := by
  unfold World.endOperation at hstep
  split at hstep
  · cases hstep
  · rename_i hcount
    have hregistered := h.drained.active j (Nat.pos_of_ne_zero hcount)
    obtain ⟨hclosing, -, hendpoint, hactive⟩ := w.countOperations_journals j (· - 1) j
    dsimp only at hstep
    split at hstep <;> cases hstep
    · rename_i hlast
      refine h.countOperations (n := (· - 1)) hregistered (.inr rfl) (schedulePending_journals _ j)
        (schedulePending_registered _ j) (schedulePending_state _ j)
        (schedulePending_running _ j) fun hloaded huse => ?_
      obtain ⟨endpoint, hopened, hcurrent⟩ := huse.current
      refine ⟨(schedulePending_registered _ j).trans huse.registered,
        (schedulePending_runtimeData _ j).trans huse.runtimeData,
        by simpa using hclosing.trans huse.notClosing, endpoint,
        by simpa using hendpoint.trans hopened, ?_⟩
      rcases hcurrent with hcached | hscheduled | ⟨hpending, -⟩
      · exact .inl ((schedulePending_endpoint _ j).trans hcached)
      · exact .inr (.inl (Nat.lt_of_lt_of_le hscheduled
          (schedulePending_scheduled (w.countOperations j (· - 1)) j)))
      · refine .inr (.inl (schedulePending_owner (w := w.countOperations j (· - 1)) hpending hloaded
          huse.runtimeData huse.registered ?_))
        simp [ReferenceJournal.migrationOperationInProgress, hlast, hclosing, huse.notClosing]
    · rename_i hmore
      refine h.countOperations (n := (· - 1)) hregistered (.inr rfl) rfl rfl rfl rfl
        fun _ huse => ?_
      obtain ⟨endpoint, hopened, hcurrent⟩ := huse.current
      exact ⟨huse.registered, huse.runtimeData, hclosing.trans huse.notClosing, endpoint,
        hendpoint.trans hopened, hcurrent.imp_right (Or.imp_right fun hpending =>
          ⟨hpending.1, Nat.pos_of_ne_zero hmore⟩)⟩

theorem releaseOwnership_journals (w : World) (j k : ℕ) : (w.releaseOwnership j).journals k =
    if k = j then { w.journals k with closed := true } else w.journals k :=
  w.modifyJournal_journals j (fun journal => { journal with closed := true }) k

/-- The close of a journal, whose operations have ended, is finished. -/
theorem Invariant.asyncFinishClose (h : Invariant w) (hstep : w.asyncFinishClose j = some w') :
    Invariant w' := by
  unfold World.asyncFinishClose at hstep
  split at hstep
  · rename_i hguard
    obtain ⟨hclosing, hclosed, hidle⟩ := hguard
    have hcloses := h.closing j hclosing hclosed
    cases hstep
    refine ⟨⟨fun k hk => ?_, fun k hk => ?_⟩, fun k hk hkclosed => ?_, ?_⟩
    · rw [schedulePending_journals, releaseOwnership_journals] at hk
      rw [schedulePending_registered]
      split at hk
      · exact h.drained.active k hk
      · exact h.drained.active k hk
    · rw [schedulePending_journals, releaseOwnership_journals] at hk ⊢
      split at hk
      · rename_i hkj
        rw [if_pos hkj, hkj]
        exact hidle
      · rename_i hkj
        rw [if_neg hkj]
        exact h.drained.closed k hk
    · rw [schedulePending_journals, releaseOwnership_journals] at hk hkclosed
      rw [schedulePending_running]
      split at hkclosed
      · cases hkclosed
      · rename_i hkj
        rw [if_neg hkj] at hk
        exact h.closing k hk hkclosed
    · rw [schedulePending_running]
      have htask := h.task
      have hrunning : (w.releaseOwnership j).running = w.running := rfl
      rw [hrunning]
      cases htaskEq : w.running <;> rw [htaskEq] at htask hcloses
      case closePrevious | closeFailed =>
        exact ⟨(schedulePending_state _ j).trans htask.1,
          (schedulePending_registered _ j).trans htask.2⟩
      case closeJournal =>
        exact ⟨(schedulePending_state _ j).trans htask.1,
          (schedulePending_registered _ j).trans htask.2⟩
      all_goals cases hcloses
  · cases hstep

/-! ## Runs -/

theorem Invariant.unload (h : Invariant w) (hstep : w.unload = some w') : Invariant w' := by
  unfold World.unload at hstep
  split at hstep
  · cases hstep
  · rename_i hrunning
    rw [Decidable.not_not] at hrunning
    have hs := h.settled (by rw [hrunning]; rfl)
    split at hstep
    · rename_i hloaded
      obtain ⟨-, j, huse⟩ := h.inUse hloaded
      exact beginUnload_invariant h.drained hs huse.registered huse.runtimeData hstep
    · split at hstep
      · rename_i hretry
        cases hstep
        have hset := h.drained.setState_idle hs (h.registered_eq_none hretry)
          .notLoaded rfl
        have hawait : (w.setState .notLoaded).await .idle = w.setState .notLoaded := by
          obtain ⟨_, _, _, hframe⟩ := w.setState_frame .notLoaded
          rw [hframe, World.await, hrunning]
        rwa [hawait] at hset
      · cases hstep

theorem Invariant.reload {cleanupPending : Bool} (h : Invariant w)
    (hstep : w.reload cleanupPending = some w') : Invariant w' := by
  unfold World.reload at hstep
  split at hstep
  · cases hstep
  · rename_i hguard
    simp only [not_or, Decidable.not_not] at hguard
    have hs := h.settled (by rw [hguard.1]; rfl)
    dsimp only at hstep
    split at hstep
    · rename_i hloaded
      obtain ⟨-, j, huse⟩ := h.inUse hloaded
      exact beginUnload_invariant (w := { w with scheduled := w.scheduled - 1 })
        (h.drained.of_eq rfl rfl) (hs.of_eq rfl) huse.registered huse.runtimeData hstep
    · rename_i hloaded
      split at hstep <;> cases hstep
      · rename_i hretry
        have hregistered := h.registered_eq_none hretry
        exact beginSetup_invariant (h.drained.of_eq (by simp) (by simp)) (hs.of_eq (by simp))
          (by simpa using hregistered) cleanupPending
      · have htask := h.task
        refine h.of_eq rfl rfl rfl (htask.of_state rfl rfl ?_ hloaded)
        rw [hguard.1] at htask
        exact htask.1

/-- An operation is started on the journal of a registered runtime. -/
def operationRegistered (w : World) : Event → Bool
  | .startOperation j => decide (w.registered = some j)
  | _ => true

/-- A step that starts no operation on another journal. -/
def registeredStep (w : World) (event : Event) : Option World :=
  if w.operationRegistered event then w.step event else none

theorem registeredStep_eq_some {event : Event} (h : w.registeredStep event = some w') :
    w.operationRegistered event = true ∧ w.step event = some w' := by
  unfold registeredStep at h
  split at h
  · exact ⟨‹_›, h⟩
  · cases h

theorem Invariant.step {event : Event} (h : Invariant w)
    (hstep : w.registeredStep event = some w') : Invariant w' := by
  obtain ⟨hoperation, hstep⟩ := registeredStep_eq_some hstep
  cases event with
  | discovery endpoint =>
    cases hstep
    exact h.discovery endpoint
  | startOperation j => exact h.startOperation (of_decide_eq_true hoperation) hstep
  | endOperation j => exact h.endOperation hstep
  | finishClose j => exact h.asyncFinishClose hstep
  | setup cleanupPending =>
    simp only [World.step] at hstep
    split at hstep
    · rename_i hguard
      cases hstep
      exact beginSetup_invariant h.drained (h.settled (by rw [hguard.1]; rfl))
        (h.registered_eq_none hguard.2) cleanupPending
    · cases hstep
  | unload => exact h.unload hstep
  | reload cleanupPending => exact h.reload hstep
  | resume r => exact h.resume hstep

/-- Home Assistant starts without an endpoint and without a journal. -/
theorem invariant_start : Invariant {} where
  drained := ⟨fun _ hk => absurd hk (Nat.lt_irrefl _), fun _ _ => rfl⟩
  closing := fun _ hk => by cases hk
  task := ⟨by decide, by decide, fun _ => rfl, fun hloaded => by cases hloaded⟩

/-- A step of a run that starts operations on the journal of a registered runtime only. -/
abbrev RegisteredStep (w : World) (event : Event) (w' : World) : Prop :=
  w.registeredStep event = some w'

theorem Invariant.of_run {events : List Event} (h : Trace.Run RegisteredStep {} events w) :
    Invariant w :=
  h.invariant invariant_start fun _ _ _ hinv hstep => hinv.step hstep

end TrueFamily.Discovery.World
