import Mathlib.Data.BitVec
import Mathlib.Logic.Function.Basic

/-!
# Journal-App discovery and the config entry

The endpoint that Supervisor discovery caches, the one pending reload, and everything that sets
or consumes it: the discovery flow, the setup and unload of the config entry, and the start, end
and close of the operations of a journal adapter. What runs between two awaits is one step.

There is one enabled entry of the integration. A runtime owns one journal adapter for life, so
both are named by the number of the adapter. A reload that is scheduled waits until no setup or
unload of the entry is running.
-/

namespace TrueFamily.Discovery

/-! ## The state -/

/-- `RemoteJournalEndpoint`: the one trusted slug fixes everything but the boot ID of 32
hexadecimal digits and the key of 64. -/
structure RemoteJournalEndpoint where
  bootId : BitVec 128
  hmacKey : BitVec 256
  deriving DecidableEq

/-- `ConfigEntryState`, the states that an entry of this integration has. -/
inductive ConfigEntryState
  | loaded | setupError | setupRetry | notLoaded | failedUnload | setupInProgress
  | unloadInProgress
  deriving DecidableEq, Repr

/-- `_PendingReferenceJournalReload`, of the one entry. -/
structure PendingReferenceJournalReload where
  journal : Option ℕ
  deriving DecidableEq

/-- The state in which the entry must be for the reload to be scheduled. -/
def PendingReferenceJournalReload.expectedState (self : PendingReferenceJournalReload) :
    ConfigEntryState :=
  if self.journal = none then .setupInProgress else .loaded

/-- The part of `HomeAssistantReferenceJournal` that reloads depend on. -/
structure ReferenceJournal where
  endpoint : Option RemoteJournalEndpoint := none
  activeOperations : ℕ := 0
  closing : Bool := false
  closed : Bool := false

/-- `migration_operation_in_progress`. -/
def ReferenceJournal.migrationOperationInProgress (self : ReferenceJournal) : Bool :=
  decide (0 < self.activeOperations) || self.closing

/-- What the entry's setup or unload awaits. -/
inductive Task
  /-- Neither is running. -/
  | idle
  /-- Setup: `previous_runtime.async_shutdown()`. -/
  | shutdownPrevious (runtime : ℕ)
  /-- Setup: `previous_runtime.async_close_reference_journal()`. -/
  | closePrevious (runtime : ℕ)
  /-- Setup: `async_load_reference_journal`, before it reads the cached endpoint. -/
  | loadJournal
  /-- Setup: `async_load_reference_journal`, with the endpoint it read. -/
  | openJournal (endpoint : RemoteJournalEndpoint)
  /-- Setup: `runtime.async_setup()`. -/
  | setupRuntime (runtime : ℕ)
  /-- Setup: `runtime.async_shutdown()` after any other failure of the runtime's setup. -/
  | shutdownFailed (runtime : ℕ)
  /-- Setup: `async_forward_entry_setups`. -/
  | forwardSetups (runtime : ℕ)
  /-- Setup: `runtime.async_shutdown()` after the platforms failed. -/
  | shutdownForwarded (runtime : ℕ)
  /-- Setup: the close of the journal that the failed attempt opened. -/
  | closeFailed (runtime : ℕ)
  /-- Setup: an exception on its way to Home Assistant. -/
  | failing
  /-- Unload: `runtime.async_shutdown()`. -/
  | shutdown (runtime : ℕ)
  /-- Unload: `async_unload_platforms`. -/
  | unloadPlatforms (runtime : ℕ)
  /-- Unload: `_async_close_runtime_reference_journal`. -/
  | closeJournal (runtime : ℕ)
  /-- Unload: the callbacks that Home Assistant runs after it. -/
  | unloaded
  deriving DecidableEq

/-- The entry, its runtimes and journals, and what `hass.data` has about them. -/
structure World where
  /-- `DATA_REFERENCE_JOURNAL_ENDPOINT`. -/
  endpoint : Option RemoteJournalEndpoint := none
  /-- `DATA_REFERENCE_JOURNAL_RELOAD_PENDING`. -/
  pending : Option PendingReferenceJournalReload := none
  /-- `entry.state`. -/
  state : ConfigEntryState := .notLoaded
  /-- `entry.runtime_data`. -/
  runtimeData : Option ℕ := none
  /-- `hass.data[DOMAIN][entry.entry_id]`. -/
  registered : Option ℕ := none
  /-- The owner in `REFERENCE_JOURNAL_RUNTIME_DATA`. -/
  owner : Option ℕ := none
  /-- How many journals were opened. -/
  opened : ℕ := 0
  journals : ℕ → ReferenceJournal := fun _ => {}
  /-- How many `async_setup_state_changed` listeners the entry has. -/
  listeners : ℕ := 0
  /-- How many reloads of the entry are scheduled. -/
  scheduled : ℕ := 0
  running : Task := .idle

namespace World

/-- Change one journal. -/
def modifyJournal (w : World) (j : ℕ) (f : ReferenceJournal → ReferenceJournal) : World :=
  { w with journals := Function.update w.journals j (f (w.journals j)) }

/-- `hass.config_entries.async_schedule_reload`. -/
def asyncScheduleReload (w : World) : World := { w with scheduled := w.scheduled + 1 }

/-! ## The pending reload -/

/-- `mark_reference_journal_reload_pending`. -/
def markReferenceJournalReloadPending (w : World) (journal : ℕ) : World :=
  { w with pending := some ⟨some journal⟩ }

/-- `mark_reference_journal_setup_reload_pending`, and the listener for a mark that is new. -/
def markReferenceJournalSetupReloadPending (w : World) : World :=
  if w.pending = some ⟨none⟩ then w
  else { w with pending := some ⟨none⟩, listeners := w.listeners + 1 }

/-- `clear_reference_journal_reload_pending`. -/
def clearReferenceJournalReloadPending (w : World) : World := { w with pending := none }

/-- `async_schedule_pending_reference_journal_reload`. -/
def asyncSchedulePendingReferenceJournalReload (w : World) (journal : ℕ) : World :=
  match w.pending with
  | none => w
  | some pending =>
    if pending.journal ≠ none ∧ pending.journal ≠ some journal then w
    else if w.state ≠ pending.expectedState ∨ w.runtimeData = none ∨
        w.registered ≠ w.runtimeData ∨ w.runtimeData ≠ some journal ∨
        (w.journals journal).migrationOperationInProgress ≠ false then
      { w with pending := none }
    else ({ w with pending := none } : World).asyncScheduleReload

/-! ## Discovery -/

/-- `reference_journal_reload_is_safe`. -/
def referenceJournalReloadIsSafe (w : World) : Bool :=
  if w.state ≠ .loaded then true
  else
    match w.runtimeData with
    | none => false
    | some runtime =>
      if w.registered ≠ some runtime then false
      else !(w.journals runtime).migrationOperationInProgress

/-- The states that an entry leaves by being set up. -/
def retryable : ConfigEntryState → Bool
  | .notLoaded | .setupError | .setupRetry => true
  | _ => false

/-- `async_step_hassio` with a valid discovery. -/
def asyncStepHassio (w : World) (endpoint : RemoteJournalEndpoint) : World :=
  let endpointChanged := decide (w.endpoint ≠ some endpoint)
  let w : World := { w with endpoint := some endpoint }
  if w.state = .setupInProgress ∧ endpointChanged then w.markReferenceJournalSetupReloadPending
  else if retryable w.state ∨ (w.state = .loaded ∧ endpointChanged) then
    if w.referenceJournalReloadIsSafe = false then
      match w.runtimeData with
      | none => w.clearReferenceJournalReloadPending
      | some journal =>
        if (w.journals journal).migrationOperationInProgress then
          w.markReferenceJournalReloadPending journal
        else w.clearReferenceJournalReloadPending
    else w.clearReferenceJournalReloadPending.asyncScheduleReload
  else w

/-- The entry changes its state, and every `async_setup_state_changed` is called. -/
def setState (w : World) (state : ConfigEntryState) : World :=
  if state = .setupInProgress then { w with state := state }
  else if retryable state ∧ 0 < w.listeners then
    { w with state := state, pending := none, listeners := 0
             scheduled := w.scheduled + w.listeners }
  else { w with state := state, listeners := 0 }

/-! ## The journal adapter -/

/-- Change the count of the active operations. -/
def countOperations (w : World) (j : ℕ) (n : ℕ → ℕ) : World :=
  w.modifyJournal j fun journal =>
    { journal with activeOperations := n journal.activeOperations }

/-- `async_run` up to its await. -/
def startOperation (w : World) (j : ℕ) : Option World :=
  if (w.journals j).closing ∨ (w.journals j).closed ∨ w.owner ≠ some j then none
  else some (w.countOperations j (· + 1))

/-- The `finally` clause of `async_run`. -/
def endOperation (w : World) (j : ℕ) : Option World :=
  if (w.journals j).activeOperations = 0 then none
  else
    let w := w.countOperations j (· - 1)
    if (w.journals j).activeOperations = 0 then
      some (w.asyncSchedulePendingReferenceJournalReload j)
    else some w

/-- `async_close` up to its await. -/
def asyncClose (w : World) (j : ℕ) : World :=
  if (w.journals j).closed ∨ (w.journals j).closing then w
  else (w.modifyJournal j fun journal =>
    { journal with closing := true }).asyncSchedulePendingReferenceJournalReload j

/-- The end of `_async_finish_close`: the process ownership is relinquished. -/
def releaseOwnership (w : World) (j : ℕ) : World :=
  { w.modifyJournal j fun journal => { journal with closed := true } with
    owner := if w.owner = some j then none else w.owner }

/-- `_async_finish_close`: the operations that were accepted have ended. -/
def asyncFinishClose (w : World) (j : ℕ) : Option World :=
  if (w.journals j).closing = true ∧ (w.journals j).closed = false ∧
      (w.journals j).activeOperations = 0 then
    some ((w.releaseOwnership j).asyncSchedulePendingReferenceJournalReload j)
  else none

/-- `HomeAssistantReferenceJournal.async_create`, once no process owner is left. -/
def createJournal (w : World) (endpoint : RemoteJournalEndpoint) : World :=
  { w with
    journals := Function.update w.journals w.opened { endpoint := some endpoint }
    owner := some w.opened
    opened := w.opened + 1 }

/-! ## Setup and unload -/

/-- How an awaited call ends. -/
inductive Ending
  | returns
  /-- `asyncio.CancelledError`. -/
  | cancelled
  /-- `RuntimeSetupSafetyError`. -/
  | setupSafetyError
  /-- Any other exception. -/
  | raises
  deriving DecidableEq

/-- How the awaited call of the running setup or unload ends, and what it reads next. -/
structure Resumption where
  ending : Ending := .returns
  /-- `runtime.cleanup_pending`. -/
  cleanupPending : Bool := false
  /-- Whether the persisted setup data is valid. -/
  dataValid : Bool := true
  /-- Whether the exception of a failed setup leaves the entry in `SETUP_RETRY`. -/
  retries : Bool := false

/-- The setup or unload goes on to another await. -/
def await (w : World) (task : Task) : World := { w with running := task }

/-- Await the close of the journal that a failed setup attempt opened. -/
def closeOpened (w : World) (j : ℕ) : World := (w.asyncClose j).await (.closeFailed j)

/-- `async_setup_entry` up to its first await. -/
def beginSetup (w : World) (cleanupPending : Bool) : World :=
  let w := w.setState .setupInProgress
  match w.runtimeData with
  | none => w.await .loadJournal
  | some previous =>
    if w.registered = some previous then w.await .failing
    else if cleanupPending then w.await (.shutdownPrevious previous)
    else (w.asyncClose previous).await (.closePrevious previous)

/-- `async_unload_entry` up to its first await. -/
def beginUnload (w : World) : Option World :=
  w.runtimeData.map fun runtime => (w.setState .unloadInProgress).await (.shutdown runtime)

/-- The unload failed. -/
def failUnload (w : World) : World := (w.setState .failedUnload).await .idle

/-- The awaited call of the setup or unload ends, which then runs up to its next await. -/
def resume (w : World) (r : Resumption) : Option World :=
  match w.running with
  | .idle => none
  | .shutdownPrevious j =>
    if r.ending = .returns then some ((w.asyncClose j).await (.closePrevious j))
    else some (w.await .failing)
  | .closePrevious j =>
    if (w.journals j).closed = false then none
    else if r.ending = .returns then some (w.await .loadJournal)
    else some (w.await .failing)
  | .loadJournal =>
    match r.ending, w.endpoint with
    | .returns, some endpoint => some (w.await (.openJournal endpoint))
    | .returns, none => none
    | _, _ => some (w.clearReferenceJournalReloadPending.await .failing)
  | .openJournal endpoint =>
    if r.ending ≠ .returns then some (w.clearReferenceJournalReloadPending.await .failing)
    else if w.owner ≠ none then none
    else if r.dataValid then some ((w.createJournal endpoint).await (.setupRuntime w.opened))
    else some ((w.createJournal endpoint).clearReferenceJournalReloadPending.closeOpened w.opened)
  | .setupRuntime j =>
    match r.ending with
    | .returns => some (({ w with runtimeData := some j } : World).await (.forwardSetups j))
    | .raises => some (w.clearReferenceJournalReloadPending.await (.shutdownFailed j))
    | _ =>
      let w := w.clearReferenceJournalReloadPending
      if r.cleanupPending then some (({ w with runtimeData := some j } : World).await .failing)
      else some (w.closeOpened j)
  | .shutdownFailed j =>
    match r.ending with
    | .returns => some (w.closeOpened j)
    | .cancelled => some (w.await .failing)
    | _ => some (({ w with runtimeData := some j } : World).await .failing)
  | .forwardSetups j =>
    if r.ending = .returns then
      let w : World := { w with registered := some j }
      some (((w.asyncSchedulePendingReferenceJournalReload j).setState .loaded).await .idle)
    else some (w.clearReferenceJournalReloadPending.await (.shutdownForwarded j))
  | .shutdownForwarded j =>
    if r.ending = .returns then some (w.closeOpened j) else some (w.await .failing)
  | .closeFailed j =>
    if (w.journals j).closed = false then none else some (w.await .failing)
  | .failing =>
    some ((w.setState (if r.retries then .setupRetry else .setupError)).await .idle)
  | .shutdown j =>
    if r.ending = .returns then some (w.await (.unloadPlatforms j)) else some w.failUnload
  | .unloadPlatforms j =>
    if r.ending = .returns then some ((w.asyncClose j).await (.closeJournal j))
    else some w.failUnload
  | .closeJournal j =>
    if (w.journals j).closed = false then none
    else if r.ending = .returns then
      some (({ w with registered := none } : World).await .unloaded)
    else some w.failUnload
  | .unloaded =>
    some ((({ w with runtimeData := none } : World).setState .notLoaded).await .idle)

/-- What can happen to the entry. -/
inductive Event
  /-- Supervisor discovers the journal App with a valid endpoint. -/
  | discovery (endpoint : RemoteJournalEndpoint)
  /-- An operation is started on a journal, by `async_run`. -/
  | startOperation (journal : ℕ)
  | endOperation (journal : ℕ)
  | finishClose (journal : ℕ)
  /-- Home Assistant sets the entry up. -/
  | setup (cleanupPending : Bool)
  /-- Home Assistant unloads the entry. -/
  | unload
  /-- A scheduled reload gets its turn. -/
  | reload (cleanupPending : Bool)
  | resume (r : Resumption)

/-- Home Assistant unloads the entry: one that is not loaded has nothing to unload. -/
def unload (w : World) : Option World :=
  if w.running ≠ .idle then none
  else if w.state = .loaded then w.beginUnload
  else if retryable w.state then some (w.setState .notLoaded)
  else none

/-- A scheduled reload gets its turn. It sets an entry up at once that has nothing to unload,
and is dropped for one that failed to unload. -/
def reload (w : World) (cleanupPending : Bool) : Option World :=
  if w.running ≠ .idle ∨ w.scheduled = 0 then none
  else
    let w : World := { w with scheduled := w.scheduled - 1 }
    if w.state = .loaded then w.beginUnload
    else if retryable w.state then some ((w.setState .notLoaded).beginSetup cleanupPending)
    else some w

/-- One step of the event loop. -/
def step (w : World) : Event → Option World
  | .discovery endpoint => some (w.asyncStepHassio endpoint)
  | .startOperation j => w.startOperation j
  | .endOperation j => w.endOperation j
  | .finishClose j => w.asyncFinishClose j
  | .setup cleanupPending =>
    if w.running = .idle ∧ retryable w.state then some (w.beginSetup cleanupPending) else none
  | .unload => w.unload
  | .reload cleanupPending => w.reload cleanupPending
  | .resume r => w.resume r

/-- The endpoint that the journal in use was opened with. -/
def endpointInUse (w : World) : Option RemoteJournalEndpoint :=
  w.registered.bind fun j => (w.journals j).endpoint

/-- No journal operation is active. -/
def Quiescent (w : World) : Prop := ∀ j, (w.journals j).activeOperations = 0

end World

end TrueFamily.Discovery
