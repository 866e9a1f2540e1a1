import TrueFamily.Discovery.Steps

/-!
# No endpoint change is lost

What the invariant says about a loaded entry, and that no step schedules a reload while an
operation is active. Two runs show a reload that waits for an operation of the loaded entry, and
one that an operation during the setup loses.
-/

namespace TrueFamily.Discovery.World

variable {w w' : World} {j k : ℕ}

/-! ## Reloads are not scheduled under active operations -/

/-- An entry with a registered runtime is not one that can be set up. -/
theorem Invariant.not_retryable (h : Invariant w) (hregistered : w.registered = some j) :
    retryable w.state = false := by
  by_contra hretry
  rw [Bool.not_eq_false] at hretry
  rw [h.registered_eq_none hretry] at hregistered
  cases hregistered

/-- Discovery schedules no reload while an operation is active. -/
theorem Invariant.discovery_quiescent {endpoint : RemoteJournalEndpoint} (h : Invariant w)
    (hscheduled : w.scheduled < (w.asyncStepHassio endpoint).scheduled) : Quiescent w := by
  cases hregistered : w.registered with
  | none => exact h.drained.quiescent hregistered
  | some j =>
    have hsetup := h.state_of_registered hregistered
    have hretry := h.not_retryable hregistered
    refine h.drained.quiescent_of_registered hregistered ?_
    by_contra hactive
    have hbusy : (w.journals j).migrationOperationInProgress = true := by
      simp [ReferenceJournal.migrationOperationInProgress, Nat.pos_of_ne_zero hactive]
    refine absurd hscheduled ?_
    unfold asyncStepHassio
    simp only [hsetup, false_and, if_false, hretry]
    by_cases hloaded : w.state = .loaded
    · obtain ⟨-, loaded, huse⟩ := h.inUse hloaded
      have hruntime := huse.runtimeData
      rw [← huse.registered, hregistered] at hruntime
      simp [referenceJournalReloadIsSafe, hruntime, hregistered, hbusy, hloaded,
        markReferenceJournalReloadPending]
      split <;> exact Nat.le_refl _
    · simp [hloaded]

theorem beginSetup_registered (w : World) (cleanupPending : Bool) :
    (w.beginSetup cleanupPending).registered = w.registered := by
  unfold beginSetup
  dsimp only
  split
  · simp [await]
  · split
    · simp [await]
    · split <;> simp [await]

theorem beginUnload_scheduled (hstep : w.beginUnload = some w') :
    w'.scheduled = w.scheduled := by
  unfold beginUnload at hstep
  cases hruntime : w.runtimeData with
  | none =>
    rw [hruntime] at hstep
    cases hstep
  | some runtime =>
    rw [hruntime] at hstep
    cases hstep
    exact setState_scheduled w .unloadInProgress rfl

theorem failUnload_scheduled (w : World) : w.failUnload.scheduled = w.scheduled :=
  setState_scheduled w .failedUnload rfl

/-- Setup and unload schedule a reload of an entry without a registered runtime, or of one whose
journal has no operation. -/
theorem Invariant.resume_scheduled {r : Resumption} (h : Invariant w)
    (hstep : w.resume r = some w') (hscheduled : w.scheduled < w'.scheduled) :
    w'.registered = none ∨
      ∃ j, w'.registered = some j ∧ (w'.journals j).activeOperations = 0 := by
  have htask := h.task
  unfold World.resume at hstep
  cases hrunning : w.running <;> rw [hrunning] at htask hstep <;> dsimp only at hstep
  case idle => cases hstep
  -- here the journal becomes the registered one
  case forwardSetups j =>
    split at hstep <;> cases hstep
    · have hquiescent := h.drained.quiescent htask.1.2
      refine .inr ⟨j, by simp [await], ?_⟩
      simpa [await] using hquiescent j
    · exact .inl htask.1.2
  case openJournal endpoint =>
    split at hstep
    · cases hstep
      exact .inl htask.1.2
    · split at hstep
      · cases hstep
      · split at hstep <;> cases hstep
        · exact .inl htask.1.2
        · exact .inl ((asyncClose_registered _ _).trans htask.1.2)
  case setupRuntime j =>
    split at hstep
    · cases hstep
      exact .inl htask.1.2
    · cases hstep
      exact .inl htask.1.2
    · split at hstep <;> cases hstep
      · exact .inl htask.1.2
      · exact .inl ((asyncClose_registered _ _).trans htask.1.2)
  case loadJournal =>
    split at hstep <;> cases hstep
    · exact .inl htask.2
    · exact .inl htask.2
  case shutdownPrevious j =>
    split at hstep <;> cases hstep
    · exact .inl ((asyncClose_registered _ _).trans htask.2)
    · exact .inl htask.2
  case closePrevious j =>
    split at hstep
    · cases hstep
    · split at hstep <;> cases hstep
      · exact .inl htask.2
      · exact .inl htask.2
  case shutdownFailed j =>
    split at hstep <;> cases hstep
    · exact .inl ((asyncClose_registered _ _).trans htask.2)
    · exact .inl htask.2
    · exact .inl htask.2
  case shutdownForwarded j =>
    split at hstep <;> cases hstep
    · exact .inl ((asyncClose_registered _ _).trans htask.2)
    · exact .inl htask.2
  case closeFailed j =>
    split at hstep <;> cases hstep
    exact .inl htask.2
  case failing =>
    cases hstep
    exact .inl ((setState_registered _ _).trans htask.2)
  -- an unload schedules nothing before it has closed the journal
  case shutdown j =>
    split at hstep <;> cases hstep
    · exact absurd hscheduled (Nat.lt_irrefl _)
    · exact absurd hscheduled (by rw [failUnload_scheduled]; exact Nat.lt_irrefl _)
  case unloadPlatforms j =>
    split at hstep <;> cases hstep
    · exact absurd hscheduled (by simp [await, asyncClose_scheduled])
    · exact absurd hscheduled (by rw [failUnload_scheduled]; exact Nat.lt_irrefl _)
  case closeJournal j =>
    split at hstep
    · cases hstep
    · split at hstep <;> cases hstep
      · exact .inl rfl
      · exact absurd hscheduled (by rw [failUnload_scheduled]; exact Nat.lt_irrefl _)
  case unloaded =>
    cases hstep
    exact .inl ((setState_registered _ _).trans htask.2)

/-- A step that schedules a reload leaves no operation active. -/
theorem Invariant.scheduled_quiescent {event : Event} (h : Invariant w)
    (hstep : w.registeredStep event = some w') (hscheduled : w.scheduled < w'.scheduled) :
    Quiescent w' := by
  have hnext := h.step hstep
  have hnone : w'.registered = none → Quiescent w' := hnext.drained.quiescent
  obtain ⟨-, hstep⟩ := registeredStep_eq_some hstep
  cases event with
  | discovery endpoint =>
    cases hstep
    obtain ⟨_, _, _, hframe⟩ := w.asyncStepHassio_frame endpoint
    have hquiescent := h.discovery_quiescent hscheduled
    intro k
    rw [hframe]
    exact hquiescent k
  | startOperation j =>
    simp only [World.step, World.startOperation] at hstep
    split at hstep <;> cases hstep
    exact absurd hscheduled (Nat.lt_irrefl _)
  | endOperation j =>
    simp only [World.step, World.endOperation] at hstep
    split at hstep
    · cases hstep
    · split at hstep <;> cases hstep
      -- the last operation has ended
      · rename_i hlast
        obtain ⟨hregistered, -⟩ :=
          of_schedulePending_scheduled (w := w.countOperations j (· - 1)) hscheduled
        refine hnext.drained.quiescent_of_registered
          ((schedulePending_registered _ j).trans hregistered) ?_
        rw [schedulePending_journals]
        exact hlast
      · exact absurd hscheduled (Nat.lt_irrefl _)
  | finishClose j =>
    simp only [World.step, World.asyncFinishClose] at hstep
    split at hstep <;> cases hstep
    -- a journal that is closing still counts as an operation in progress
    rename_i hguard
    obtain ⟨-, hidle⟩ := of_schedulePending_scheduled (w := w.releaseOwnership j) hscheduled
    rw [releaseOwnership_journals, if_pos rfl] at hidle
    simp [ReferenceJournal.migrationOperationInProgress, hguard.1] at hidle
  | setup cleanupPending =>
    simp only [World.step] at hstep
    split at hstep <;> cases hstep
    rename_i hguard
    exact hnone ((beginSetup_registered w cleanupPending).trans (h.registered_eq_none hguard.2))
  | unload =>
    simp only [World.step, World.unload] at hstep
    split at hstep
    · cases hstep
    · split at hstep
      · rename_i hloaded
        refine absurd hscheduled ?_
        rw [beginUnload_scheduled hstep]
        exact Nat.lt_irrefl _
      · split at hstep <;> cases hstep
        rename_i hretry
        exact hnone ((setState_registered w _).trans (h.registered_eq_none hretry))
  | reload cleanupPending =>
    simp only [World.step, World.reload] at hstep
    split at hstep
    · cases hstep
    · split at hstep
      · refine absurd hscheduled ?_
        rw [beginUnload_scheduled hstep]
        exact Nat.not_lt.2 (Nat.sub_le _ _)
      · split at hstep <;> cases hstep
        · rename_i hretry
          exact hnone ((beginSetup_registered _ cleanupPending).trans
            ((setState_registered _ _).trans (h.registered_eq_none hretry)))
        · exact absurd hscheduled (Nat.not_lt.2 (Nat.sub_le _ _))
  | resume r =>
    -- the stretches of setup and unload
    rcases h.resume_scheduled hstep hscheduled with hunregistered | ⟨j, hregistered, hidle⟩
    · exact hnone hunregistered
    · exact hnext.drained.quiescent_of_registered hregistered hidle

/-! ## No endpoint change is lost -/

/-- When the entry is loaded, no reload is scheduled and no operation is active, the journal in use
was opened with the cached endpoint. -/
def EndpointKept (w : World) : Prop :=
  w.state = .loaded → w.scheduled = 0 → w.Quiescent →
    ∃ endpoint, w.endpointInUse = some endpoint ∧ w.endpoint = some endpoint

/-- A step schedules no reload while an operation is active. -/
def ReloadHarmless (w w' : World) : Prop := w.scheduled < w'.scheduled → w'.Quiescent

/-- In a run that starts operations on the journal of a registered runtime only, no endpoint
change is lost, and no reload is scheduled while an operation is active. -/
theorem endpoint_kept {events : List Event} (h : Trace.Run RegisteredStep {} events w) :
    w.EndpointKept ∧ ∀ event w', RegisteredStep w event w' → w.ReloadHarmless w' := by
  have hinv := Invariant.of_run h
  refine ⟨fun hloaded hscheduled hquiescent => ?_, fun event w' hstep hlt =>
    hinv.scheduled_quiescent hstep hlt⟩
  obtain ⟨-, j, huse⟩ := hinv.inUse hloaded
  obtain ⟨endpoint, hopened, hcurrent⟩ := huse.current
  refine ⟨endpoint, ?_, ?_⟩
  · rw [endpointInUse, huse.registered]
    exact hopened
  · rcases hcurrent with hcached | hsome | ⟨-, hactive⟩
    · exact hcached
    · exact absurd hscheduled (Nat.pos_iff_ne_zero.1 hsome)
    · exact absurd (hquiescent j) (Nat.pos_iff_ne_zero.1 hactive)

namespace Sample

/-- Two boots of the App. -/
def firstBoot : RemoteJournalEndpoint := ⟨1, 1⟩

def secondBoot : RemoteJournalEndpoint := ⟨2, 2⟩

/-- The App is discovered, and the entry is set up until its platforms are. -/
def setupEvents : List Event :=
  [.discovery firstBoot, .reload false, .resume {}, .resume {}, .resume {}]

/-- The App boots again while an operation of the loaded entry is active, whose end has the entry
unloaded and set up again. -/
def keptEvents : List Event :=
  setupEvents ++ [.resume {}, .startOperation 0, .discovery secondBoot, .endOperation 0,
    .reload false, .resume {}, .resume {}, .finishClose 0, .resume {}, .resume {},
    .setup false, .resume {}, .resume {}, .resume {}, .resume {}]

/-- The App boots again during the setup, and an operation on its journal starts and ends. -/
def lostEvents : List Event :=
  setupEvents ++ [.discovery secondBoot, .startOperation 0, .endOperation 0, .resume {}]

/-- The entry when it is loaded with the second boot's endpoint. -/
def kept : World := (keptEvents.foldlM World.registeredStep {}).get (by decide)

/-- The loaded entry that missed the second boot. -/
def lost : World := (lostEvents.foldlM World.step {}).get (by decide)

end Sample

open Sample

/-- The second boot's endpoint is in use after the reload that waited for the operation. -/
theorem kept_reloaded : kept.endpointInUse = some secondBoot ∧ kept.endpoint = some secondBoot := by
  have hrun : Trace.Run RegisteredStep {} keptEvents kept :=
    Trace.Run.of_foldlM (Option.some_get _).symm
  obtain ⟨endpoint, hin, hcached⟩ := (endpoint_kept hrun).1 (by decide) (by decide)
    (fun j => by
      match j with
      | 0 => rfl
      | 1 => rfl
      | _ + 2 => rfl)
  have hsecond : kept.endpoint = some secondBoot := by decide
  rw [hsecond] at hcached
  cases hcached
  exact ⟨hin, hsecond⟩

/-- The operation's end consumes the reload that waits for the setup, and the loaded entry keeps
the first boot's endpoint. -/
theorem lost_reload : ¬ ∀ (events : List Event) (w : World),
    Trace.Run (fun w event w' => w.step event = some w') {} events w →
    w.EndpointKept ∧ ∀ event w', w.step event = some w' → w.ReloadHarmless w' := by
  intro hall
  have hrun : Trace.Run (fun w event w' => World.step w event = some w') {} lostEvents lost :=
    Trace.Run.of_foldlM (Option.some_get _).symm
  obtain ⟨endpoint, hin, hcached⟩ := (hall lostEvents lost hrun).1 (by decide) (by decide)
    (fun j => by
      match j with
      | 0 => rfl
      | _ + 1 => rfl)
  have hfirst : lost.endpointInUse = some firstBoot := by decide
  have hsecond : lost.endpoint = some secondBoot := by decide
  rw [hfirst] at hin
  rw [hsecond, ← hin] at hcached
  exact absurd hcached (by decide)

end TrueFamily.Discovery.World
