import TrueFamily.Discovery.Entry

/-!
# What the steps of the entry leave alone

A pending reload that is consumed changes the pending and the scheduled reloads only, a state
change these and the listeners, a close only `closing` of its journal.
-/

namespace TrueFamily.Discovery.World

variable {w w' : World} {j k : ℕ}

/-! ## What the steps leave alone -/

theorem asyncSchedulePendingReferenceJournalReload_frame (w : World) (j : ℕ) :
    ∃ pending scheduled, w.asyncSchedulePendingReferenceJournalReload j =
      { w with pending := pending, scheduled := scheduled } ∧ w.scheduled ≤ scheduled := by
  unfold asyncSchedulePendingReferenceJournalReload
  split
  · exact ⟨w.pending, w.scheduled, rfl, Nat.le_refl _⟩
  · split
    · exact ⟨w.pending, w.scheduled, rfl, Nat.le_refl _⟩
    · split
      · exact ⟨none, w.scheduled, rfl, Nat.le_refl _⟩
      · exact ⟨none, w.scheduled + 1, rfl, Nat.le_succ _⟩

theorem setState_frame (w : World) (state : ConfigEntryState) :
    ∃ pending listeners scheduled, w.setState state =
      { w with state := state, pending := pending, listeners := listeners
               scheduled := scheduled } := by
  unfold setState
  split
  · exact ⟨_, _, _, rfl⟩
  · split
    · exact ⟨_, _, _, rfl⟩
    · exact ⟨_, _, _, rfl⟩

section Frame

variable (w : World) (j : ℕ) (s : ConfigEntryState)

@[simp] theorem schedulePending_state :
    (w.asyncSchedulePendingReferenceJournalReload j).state = w.state := by
  obtain ⟨_, _, h, -⟩ := w.asyncSchedulePendingReferenceJournalReload_frame j
  rw [h]

@[simp] theorem schedulePending_endpoint :
    (w.asyncSchedulePendingReferenceJournalReload j).endpoint = w.endpoint := by
  obtain ⟨_, _, h, -⟩ := w.asyncSchedulePendingReferenceJournalReload_frame j
  rw [h]

@[simp] theorem schedulePending_runtimeData :
    (w.asyncSchedulePendingReferenceJournalReload j).runtimeData = w.runtimeData := by
  obtain ⟨_, _, h, -⟩ := w.asyncSchedulePendingReferenceJournalReload_frame j
  rw [h]

@[simp] theorem schedulePending_registered :
    (w.asyncSchedulePendingReferenceJournalReload j).registered = w.registered := by
  obtain ⟨_, _, h, -⟩ := w.asyncSchedulePendingReferenceJournalReload_frame j
  rw [h]

@[simp] theorem schedulePending_journals :
    (w.asyncSchedulePendingReferenceJournalReload j).journals = w.journals := by
  obtain ⟨_, _, h, -⟩ := w.asyncSchedulePendingReferenceJournalReload_frame j
  rw [h]

@[simp] theorem schedulePending_running :
    (w.asyncSchedulePendingReferenceJournalReload j).running = w.running := by
  obtain ⟨_, _, h, -⟩ := w.asyncSchedulePendingReferenceJournalReload_frame j
  rw [h]

theorem schedulePending_scheduled :
    w.scheduled ≤ (w.asyncSchedulePendingReferenceJournalReload j).scheduled := by
  obtain ⟨_, _, h, hle⟩ := w.asyncSchedulePendingReferenceJournalReload_frame j
  rw [h]
  exact hle

@[simp] theorem setState_state : (w.setState s).state = s := by
  obtain ⟨_, _, _, h⟩ := w.setState_frame s
  rw [h]

@[simp] theorem setState_endpoint : (w.setState s).endpoint = w.endpoint := by
  obtain ⟨_, _, _, h⟩ := w.setState_frame s
  rw [h]

@[simp] theorem setState_runtimeData : (w.setState s).runtimeData = w.runtimeData := by
  obtain ⟨_, _, _, h⟩ := w.setState_frame s
  rw [h]

@[simp] theorem setState_registered : (w.setState s).registered = w.registered := by
  obtain ⟨_, _, _, h⟩ := w.setState_frame s
  rw [h]

@[simp] theorem setState_journals : (w.setState s).journals = w.journals := by
  obtain ⟨_, _, _, h⟩ := w.setState_frame s
  rw [h]

/-- Only an entry that its setup or unload leaves retryable has its reload scheduled. -/
theorem setState_scheduled (h : retryable s = false) :
    (w.setState s).scheduled = w.scheduled := by
  unfold setState
  rw [h]
  split
  · rfl
  · rw [if_neg (by simp)]

@[simp] theorem asyncClose_state : (w.asyncClose j).state = w.state := by
  unfold asyncClose
  split <;> simp [modifyJournal]

@[simp] theorem asyncClose_runtimeData : (w.asyncClose j).runtimeData = w.runtimeData := by
  unfold asyncClose
  split <;> simp [modifyJournal]

@[simp] theorem asyncClose_registered : (w.asyncClose j).registered = w.registered := by
  unfold asyncClose
  split <;> simp [modifyJournal]

end Frame

/-! ## The pending reload -/

/-- The setup's pending reload is scheduled for the journal that the setup registered. -/
theorem schedulePending_setup (hpending : w.pending = some ⟨none⟩)
    (hstate : w.state = .setupInProgress) (hruntime : w.runtimeData = some j)
    (hregistered : w.registered = some j)
    (hidle : (w.journals j).migrationOperationInProgress = false) :
    0 < (w.asyncSchedulePendingReferenceJournalReload j).scheduled := by
  unfold asyncSchedulePendingReferenceJournalReload
  rw [hpending]
  simp [PendingReferenceJournalReload.expectedState, hstate, hruntime, hregistered, hidle,
    asyncScheduleReload]

/-- A reload that waits for a journal is scheduled at the end of its last operation. -/
theorem schedulePending_owner (hpending : w.pending = some ⟨some j⟩)
    (hstate : w.state = .loaded) (hruntime : w.runtimeData = some j)
    (hregistered : w.registered = some j)
    (hidle : (w.journals j).migrationOperationInProgress = false) :
    0 < (w.asyncSchedulePendingReferenceJournalReload j).scheduled := by
  unfold asyncSchedulePendingReferenceJournalReload
  rw [hpending]
  simp [PendingReferenceJournalReload.expectedState, hstate, hruntime, hregistered, hidle,
    asyncScheduleReload]

/-- A pending reload is scheduled for a registered journal without work in progress only. -/
theorem of_schedulePending_scheduled
    (h : w.scheduled < (w.asyncSchedulePendingReferenceJournalReload j).scheduled) :
    w.registered = some j ∧ (w.journals j).migrationOperationInProgress = false := by
  unfold asyncSchedulePendingReferenceJournalReload at h
  split at h
  · exact absurd h (Nat.lt_irrefl _)
  · split at h
    · exact absurd h (Nat.lt_irrefl _)
    · split at h
      · exact absurd h (Nat.lt_irrefl _)
      · rename_i hchecks
        simp only [not_or, Decidable.not_not] at hchecks
        obtain ⟨-, -, hregistered, hruntime, hidle⟩ := hchecks
        exact ⟨hregistered.trans hruntime, hidle⟩

/-- The close of a journal schedules no reload. -/
theorem asyncClose_scheduled (w : World) (j : ℕ) :
    (w.asyncClose j).scheduled = w.scheduled := by
  unfold asyncClose
  split
  · rfl
  · refine Nat.le_antisymm (Nat.le_of_not_lt fun hlt => ?_)
      (schedulePending_scheduled (w.modifyJournal j _) j)
    have hidle := (of_schedulePending_scheduled (w := w.modifyJournal j _) hlt).2
    simp [modifyJournal, ReferenceJournal.migrationOperationInProgress] at hidle

/-! ## The journals -/

/-- The journal whose close a task awaits. -/
def closedBy : Task → Option ℕ
  | .closePrevious j | .closeFailed j | .closeJournal j => some j
  | _ => none

/-- Operations are active on the registered journal only, and on none that is closed. -/
structure Drained (w : World) : Prop where
  active : ∀ k, 0 < (w.journals k).activeOperations → w.registered = some k
  closed : ∀ k, (w.journals k).closed = true → (w.journals k).activeOperations = 0

/-- No journal is being closed. -/
def Settled (w : World) : Prop :=
  ∀ k, (w.journals k).closing = true → (w.journals k).closed = true

theorem Drained.of_eq (h : Drained w) (hjournals : w'.journals = w.journals)
    (hregistered : w'.registered = w.registered) : Drained w' := by
  refine ⟨?_, ?_⟩
  · rw [hjournals, hregistered]
    exact h.active
  · rw [hjournals]
    exact h.closed

theorem Settled.of_eq (h : Settled w) (hjournals : w'.journals = w.journals) : Settled w' := by
  unfold Settled
  rw [hjournals]
  exact h

/-- No operation is active before the runtime is registered. -/
theorem Drained.quiescent (h : Drained w) (hregistered : w.registered = none) :
    Quiescent w := by
  intro k
  by_contra hactive
  have hk := h.active k (Nat.pos_of_ne_zero hactive)
  rw [hregistered] at hk
  cases hk

/-- No operation is active when none is on the registered journal. -/
theorem Drained.quiescent_of_registered (h : Drained w) (hregistered : w.registered = some j)
    (hidle : (w.journals j).activeOperations = 0) : Quiescent w := by
  intro k
  by_contra hactive
  have hk := h.active k (Nat.pos_of_ne_zero hactive)
  rw [hregistered, Option.some.injEq] at hk
  rw [← hk] at hactive
  exact hactive hidle

theorem modifyJournal_journals (w : World) (j : ℕ) (f : ReferenceJournal → ReferenceJournal)
    (k : ℕ) : (w.modifyJournal j f).journals k =
      if k = j then f (w.journals k) else w.journals k := by
  by_cases hk : k = j
  · subst hk
    simp [modifyJournal]
  · simp [modifyJournal, hk]

/-- The close of a journal sets its `closing` and nothing else. -/
theorem asyncClose_journals (w : World) (j k : ℕ) :
    ((w.asyncClose j).journals k).activeOperations = (w.journals k).activeOperations ∧
      ((w.asyncClose j).journals k).closed = (w.journals k).closed ∧
      (((w.asyncClose j).journals k).closing = true → k = j ∨ (w.journals k).closing = true) := by
  unfold asyncClose
  split
  · exact ⟨rfl, rfl, .inr⟩
  · rw [schedulePending_journals, modifyJournal_journals]
    split
    · exact ⟨rfl, rfl, fun _ => .inl ‹_›⟩
    · exact ⟨rfl, rfl, .inr⟩

theorem Drained.asyncClose (h : Drained w) (j : ℕ) : Drained (w.asyncClose j) := by
  refine ⟨fun k hk => ?_, fun k hk => ?_⟩
  · rw [(w.asyncClose_journals j k).1] at hk
    rw [asyncClose_registered]
    exact h.active k hk
  · rw [(w.asyncClose_journals j k).2.1] at hk
    rw [(w.asyncClose_journals j k).1]
    exact h.closed k hk

end TrueFamily.Discovery.World
