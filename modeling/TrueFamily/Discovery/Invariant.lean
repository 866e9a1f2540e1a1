import TrueFamily.Discovery.Frame

/-!
# Setup and unload keep the endpoint

While a setup attempt has a journal open, its endpoint is the cached one or the setup's reload is
pending; once the entry is loaded, its endpoint is the cached one, or a reload is scheduled, or one
is pending for the end of an active operation. `Invariant` says so at each await of setup and
unload, and `Invariant.resume` takes it from one await to the next.
-/

namespace TrueFamily.Discovery.World

variable {w w' : World} {j k : ℕ}

/-! ## The invariant -/

/-- A setup attempt has the journal `j` open. -/
structure Opened (w : World) (j : ℕ) : Prop where
  notClosing : (w.journals j).closing = false
  current : ∃ endpoint, (w.journals j).endpoint = some endpoint ∧
    (w.endpoint = some endpoint ∨ w.pending = some ⟨none⟩)

/-- The loaded entry uses the journal `j`. -/
structure InUse (w : World) (j : ℕ) : Prop where
  registered : w.registered = some j
  runtimeData : w.runtimeData = some j
  notClosing : (w.journals j).closing = false
  current : ∃ endpoint, (w.journals j).endpoint = some endpoint ∧
    (w.endpoint = some endpoint ∨ 0 < w.scheduled ∨
      (w.pending = some ⟨some j⟩ ∧ 0 < (w.journals j).activeOperations))

/-- A setup attempt is running. -/
def SettingUp (w : World) : Prop := w.state = .setupInProgress ∧ w.registered = none

/-- What holds at each await of setup and unload, and between them. -/
def AtTask (w : World) : Task → Prop
  | .idle => w.state ≠ .setupInProgress ∧ w.state ≠ .unloadInProgress ∧
      (retryable w.state = true → w.registered = none) ∧ (w.state = .loaded → ∃ j, InUse w j)
  | .openJournal endpoint =>
    SettingUp w ∧ (w.endpoint = some endpoint ∨ w.pending = some ⟨none⟩)
  | .setupRuntime j => SettingUp w ∧ Opened w j
  | .forwardSetups j => SettingUp w ∧ Opened w j ∧ w.runtimeData = some j
  | .shutdown j | .unloadPlatforms j | .closeJournal j =>
    w.state = .unloadInProgress ∧ w.registered = some j
  | .unloaded => w.state = .unloadInProgress ∧ w.registered = none
  | _ => SettingUp w

/-- What holds in every reachable state. -/
structure Invariant (w : World) : Prop where
  drained : Drained w
  closing : ∀ k, (w.journals k).closing = true → (w.journals k).closed = false →
    closedBy w.running = some k
  task : AtTask w w.running

/-- An entry that can be set up has no registered runtime. -/
theorem Invariant.registered_eq_none (h : Invariant w) (hstate : retryable w.state = true) :
    w.registered = none := by
  have htask := h.task
  cases hrunning : w.running <;> rw [hrunning] at htask
  case idle => exact htask.2.2.1 hstate
  case unloaded => exact htask.2
  case openJournal | setupRuntime | forwardSetups => exact htask.1.2
  case shutdown | unloadPlatforms | closeJournal =>
    rw [htask.1] at hstate
    cases hstate
  all_goals exact htask.2

/-- A loaded entry is between setup and unload. -/
theorem Invariant.inUse (h : Invariant w) (hstate : w.state = .loaded) :
    w.running = .idle ∧ ∃ j, InUse w j := by
  have htask := h.task
  cases hrunning : w.running <;> rw [hrunning] at htask
  case idle => exact ⟨rfl, htask.2.2.2 hstate⟩
  case openJournal | setupRuntime | forwardSetups =>
    have hother := htask.1.1
    rw [hstate] at hother
    cases hother
  all_goals
    have hother := htask.1
    rw [hstate] at hother
    cases hother

/-- The close of a journal is finished where no task awaits one. -/
theorem Invariant.settled (h : Invariant w) (hcloses : closedBy w.running = none) : Settled w := by
  intro k hk
  by_contra hclosed
  rw [Bool.not_eq_true] at hclosed
  have hother := h.closing k hk hclosed
  rw [hcloses] at hother
  cases hother

/-- The close of a journal is finished once the journal is closed whose close is awaited. -/
theorem Invariant.settled_of_closed (h : Invariant w) (hcloses : closedBy w.running = some j)
    (hj : (w.journals j).closed = true) : Settled w := by
  intro k hk
  by_contra hclosed
  rw [Bool.not_eq_true] at hclosed
  have hother := h.closing k hk hclosed
  rw [hcloses, Option.some.injEq] at hother
  rw [← hother] at hclosed
  rw [hj] at hclosed
  cases hclosed

theorem AtTask.await {task : Task} (h : AtTask w task) (next : Task) :
    AtTask (w.await next) task := by
  cases task
  case idle =>
    refine ⟨h.1, h.2.1, h.2.2.1, fun hstate => ?_⟩
    obtain ⟨j, hj⟩ := h.2.2.2 hstate
    exact ⟨j, hj.registered, hj.runtimeData, hj.notClosing, hj.current⟩
  case setupRuntime j => exact ⟨h.1, h.2.notClosing, h.2.current⟩
  case forwardSetups j => exact ⟨h.1, ⟨h.2.1.notClosing, h.2.1.current⟩, h.2.2⟩
  all_goals exact h

/-- Setup or unload goes on to another await. -/
theorem Drained.await (h : Drained w) (hsettled : Settled w) (task : Task)
    (htask : AtTask w task) : Invariant (w.await task) where
  drained := h.of_eq rfl rfl
  closing := fun k hk hclosed => absurd (hsettled k hk) (by
    have hclosed' : (w.journals k).closed = false := hclosed
    simp [hclosed'])
  task := htask.await task

/-- Setup or unload goes on to await the close of a journal. -/
theorem Drained.await_close (h : Drained w) (hsettled : Settled w) (task : Task)
    (hcloses : closedBy task = some j) (htask : AtTask (w.asyncClose j) task) :
    Invariant ((w.asyncClose j).await task) where
  drained := (h.asyncClose j).of_eq rfl rfl
  closing := fun k hk hclosed => by
    have hk' : ((w.asyncClose j).journals k).closing = true := hk
    have hclosed' : ((w.asyncClose j).journals k).closed = false := hclosed
    rw [(w.asyncClose_journals j k).2.1] at hclosed'
    rcases (w.asyncClose_journals j k).2.2 hk' with rfl | hbefore
    · exact hcloses
    · rw [hsettled k hbefore] at hclosed'
      cases hclosed'
  task := htask.await task

/-! ## Setup -/

theorem SettingUp.asyncClose (h : SettingUp w) (j : ℕ) : SettingUp (w.asyncClose j) :=
  ⟨(asyncClose_state w j).trans h.1, (asyncClose_registered w j).trans h.2⟩

/-- A failed attempt closes the journal that it opened. -/
theorem Drained.closeOpened (h : Drained w) (hsettled : Settled w) (hsetup : SettingUp w)
    (j : ℕ) : Invariant (w.closeOpened j) :=
  h.await_close hsettled (.closeFailed j) rfl (hsetup.asyncClose j)

theorem Drained.clear (h : Drained w) : Drained w.clearReferenceJournalReloadPending :=
  h.of_eq rfl rfl

theorem Drained.setRuntimeData (h : Drained w) (runtime : Option ℕ) :
    Drained { w with runtimeData := runtime } :=
  h.of_eq rfl rfl

theorem Drained.createJournal (h : Drained w) (endpoint : RemoteJournalEndpoint) :
    Drained (w.createJournal endpoint) := by
  refine ⟨fun k hk => ?_, fun k hk => ?_⟩
  · by_cases hnew : k = w.opened
    · subst hnew
      simp [World.createJournal] at hk
    · simp only [World.createJournal, Function.update_of_ne hnew] at hk
      exact h.active k hk
  · by_cases hnew : k = w.opened
    · subst hnew
      simp [World.createJournal]
    · simp only [World.createJournal, Function.update_of_ne hnew] at hk ⊢
      exact h.closed k hk

theorem Settled.createJournal (h : Settled w) (endpoint : RemoteJournalEndpoint) :
    Settled (w.createJournal endpoint) := by
  intro k hk
  by_cases hnew : k = w.opened
  · subst hnew
    simp [World.createJournal] at hk
  · simp only [World.createJournal, Function.update_of_ne hnew] at hk ⊢
    exact h k hk

/-- The journal is opened with the endpoint that was read, which is still the cached one or the
setup's reload is pending. -/
theorem opened_createJournal {endpoint : RemoteJournalEndpoint}
    (hcurrent : w.endpoint = some endpoint ∨ w.pending = some ⟨none⟩) :
    Opened (w.createJournal endpoint) w.opened where
  notClosing := by simp [World.createJournal]
  current := ⟨endpoint, by simp [World.createJournal], hcurrent⟩

theorem beginSetup_invariant (h : Drained w) (hsettled : Settled w)
    (hregistered : w.registered = none) (cleanupPending : Bool) :
    Invariant (w.beginSetup cleanupPending) := by
  have hdrained : Drained (w.setState .setupInProgress) := h.of_eq (by simp) (by simp)
  have hsettled' : Settled (w.setState .setupInProgress) := hsettled.of_eq (by simp)
  have hsetup : SettingUp (w.setState .setupInProgress) := ⟨by simp, by simp [hregistered]⟩
  unfold beginSetup
  dsimp only
  split
  · exact hdrained.await hsettled' .loadJournal hsetup
  · split
    · exact hdrained.await hsettled' .failing hsetup
    · split
      · exact hdrained.await hsettled' (.shutdownPrevious _) hsetup
      · exact hdrained.await_close hsettled' (.closePrevious _) rfl (hsetup.asyncClose _)

/-- The setup attempt succeeds: the entry is loaded, and the pending reload of the setup is
scheduled. -/
theorem loaded_invariant (h : Drained w) (hsettled : Settled w)
    (htask : AtTask w (.forwardSetups j)) :
    Invariant (((({ w with registered := some j } :
      World).asyncSchedulePendingReferenceJournalReload j).setState .loaded).await .idle) := by
  obtain ⟨⟨hstate, hregistered⟩, ⟨hclosing, endpoint, hendpoint, hcurrent⟩, hruntime⟩ := htask
  have hquiescent : Quiescent w := h.quiescent hregistered
  have hidle : (w.journals j).migrationOperationInProgress = false := by
    simp [ReferenceJournal.migrationOperationInProgress, hquiescent j, hclosing]
  refine Drained.await ⟨fun k hk => ?_, fun k hk => ?_⟩ (hsettled.of_eq (by simp))
    .idle ⟨by simp, by simp, by simp [retryable], fun _ => ⟨j, ?_⟩⟩
  · rw [setState_journals, schedulePending_journals] at hk
    exact absurd (hquiescent k) (Nat.pos_iff_ne_zero.1 hk)
  · rw [setState_journals, schedulePending_journals]
    exact hquiescent k
  · refine ⟨by simp, by simpa using hruntime, by simpa using hclosing, endpoint,
      by simpa using hendpoint, ?_⟩
    rcases hcurrent with hcached | hpending
    · exact .inl (by simpa using hcached)
    · refine .inr (.inl ?_)
      rw [setState_scheduled _ _ rfl]
      exact schedulePending_setup (w := { w with registered := some j }) hpending hstate hruntime
        rfl hidle

/-! ## Unload -/

theorem beginUnload_invariant (h : Drained w) (hsettled : Settled w)
    (hregistered : w.registered = some j) (hruntime : w.runtimeData = some j)
    (hstep : w.beginUnload = some w') : Invariant w' := by
  simp only [beginUnload, hruntime, Option.map_some, Option.some.injEq] at hstep
  subst hstep
  exact Drained.await (h.of_eq (by simp) (by simp)) (hsettled.of_eq (by simp))
    (.shutdown j) ⟨by simp, by simpa using hregistered⟩

theorem Drained.failUnload (h : Drained w) (hsettled : Settled w) : Invariant w.failUnload :=
  Drained.await (h.of_eq (by simp) (by simp)) (hsettled.of_eq (by simp)) .idle
    ⟨by simp, by simp, by simp [retryable], by simp⟩

/-- An entry without a registered runtime is set up or unloaded no longer. -/
theorem Drained.setState_idle (h : Drained w) (hsettled : Settled w)
    (hregistered : w.registered = none) (state : ConfigEntryState)
    (hstate : retryable state = true) : Invariant ((w.setState state).await .idle) := by
  refine Drained.await (h.of_eq (by simp) (by simp)) (hsettled.of_eq (by simp)) .idle
    ⟨?_, ?_, fun _ => by simpa using hregistered, ?_⟩
  all_goals
    rw [setState_state]
    rintro rfl
    cases hstate

/-- Each stretch of setup or unload keeps the invariant. -/
theorem Invariant.resume {r : Resumption} (h : Invariant w) (hstep : w.resume r = some w') :
    Invariant w' := by
  have hd := h.drained
  have htask := h.task
  unfold World.resume at hstep
  cases hrunning : w.running <;> rw [hrunning] at htask hstep <;> dsimp only at hstep
  case idle => cases hstep
  -- the journal of an earlier setup goes first
  case shutdownPrevious j =>
    have hs := h.settled (by rw [hrunning]; rfl)
    split at hstep <;> cases hstep
    · exact hd.await_close hs (.closePrevious j) rfl (SettingUp.asyncClose htask j)
    · exact hd.await hs .failing htask
  case closePrevious j =>
    split at hstep
    · cases hstep
    · rename_i hclosed
      have hs := h.settled_of_closed (by rw [hrunning]; rfl) (Bool.eq_true_of_not_eq_false hclosed)
      split at hstep <;> cases hstep
      · exact hd.await hs .loadJournal htask
      · exact hd.await hs .failing htask
  case loadJournal =>
    have hs := h.settled (by rw [hrunning]; rfl)
    split at hstep
    · rename_i endpoint _ hendpoint
      cases hstep
      exact hd.await hs (.openJournal endpoint) ⟨htask, .inl hendpoint⟩
    · cases hstep
    · cases hstep
      exact hd.clear.await hs .failing htask
  -- the endpoint is the cached one, or the reload of this setup is pending
  case openJournal endpoint =>
    have hs := h.settled (by rw [hrunning]; rfl)
    obtain ⟨hsetup, hcurrent⟩ := htask
    split at hstep
    · cases hstep
      exact hd.clear.await hs .failing hsetup
    · split at hstep
      · cases hstep
      · split at hstep <;> cases hstep
        · exact (hd.createJournal endpoint).await (hs.createJournal endpoint)
            (.setupRuntime w.opened) ⟨hsetup, opened_createJournal hcurrent⟩
        · exact (hd.createJournal endpoint).clear.closeOpened (hs.createJournal endpoint) hsetup
            w.opened
  case setupRuntime j =>
    have hs := h.settled (by rw [hrunning]; rfl)
    obtain ⟨hsetup, hopened⟩ := htask
    split at hstep
    · cases hstep
      exact (hd.setRuntimeData (some j)).await hs (.forwardSetups j)
        ⟨hsetup, ⟨hopened.notClosing, hopened.current⟩, rfl⟩
    · cases hstep
      exact hd.clear.await hs (.shutdownFailed j) hsetup
    · split at hstep <;> cases hstep
      · exact (hd.clear.setRuntimeData (some j)).await hs .failing hsetup
      · exact hd.clear.closeOpened hs hsetup j
  -- a setup that failed shuts down what it had opened
  case shutdownFailed j =>
    have hs := h.settled (by rw [hrunning]; rfl)
    split at hstep <;> cases hstep
    · exact hd.closeOpened hs htask j
    · exact hd.await hs .failing htask
    · exact (hd.setRuntimeData (some j)).await hs .failing htask
  case forwardSetups j =>
    have hs := h.settled (by rw [hrunning]; rfl)
    split at hstep <;> cases hstep
    · rw [← hrunning]
      exact loaded_invariant hd hs htask
    · exact hd.clear.await hs (.shutdownForwarded j) htask.1
  case shutdownForwarded j =>
    have hs := h.settled (by rw [hrunning]; rfl)
    split at hstep <;> cases hstep
    · exact hd.closeOpened hs htask j
    · exact hd.await hs .failing htask
  case closeFailed j =>
    split at hstep
    · cases hstep
    · rename_i hclosed
      have hs := h.settled_of_closed (by rw [hrunning]; rfl) (Bool.eq_true_of_not_eq_false hclosed)
      cases hstep
      exact hd.await hs .failing htask
  case failing =>
    have hs := h.settled (by rw [hrunning]; rfl)
    cases hstep
    exact hd.setState_idle hs htask.2 _ (by split <;> rfl)
  -- an unload that fails leaves the entry as it was
  case shutdown j =>
    have hs := h.settled (by rw [hrunning]; rfl)
    split at hstep <;> cases hstep
    · exact hd.await hs (.unloadPlatforms j) htask
    · exact hd.failUnload hs
  case unloadPlatforms j =>
    have hs := h.settled (by rw [hrunning]; rfl)
    split at hstep <;> cases hstep
    · exact hd.await_close hs (.closeJournal j) rfl
        ⟨(asyncClose_state w j).trans htask.1, (asyncClose_registered w j).trans htask.2⟩
    · exact hd.failUnload hs
  case closeJournal j =>
    split at hstep
    · cases hstep
    · rename_i hclosed
      have hjclosed := Bool.eq_true_of_not_eq_false hclosed
      have hs := h.settled_of_closed (by rw [hrunning]; rfl) hjclosed
      split at hstep <;> cases hstep
      · have hquiescent := hd.quiescent_of_registered htask.2 (hd.closed j hjclosed)
        have hunregistered : Drained { w with registered := none } :=
          ⟨fun k hk => absurd (hquiescent k) (Nat.pos_iff_ne_zero.1 hk), hd.closed⟩
        exact hunregistered.await hs .unloaded ⟨htask.1, rfl⟩
      · exact hd.failUnload hs
  case unloaded =>
    have hs := h.settled (by rw [hrunning]; rfl)
    cases hstep
    rw [← hrunning]
    exact (hd.setRuntimeData none).setState_idle hs htask.2 .notLoaded rfl

end TrueFamily.Discovery.World
