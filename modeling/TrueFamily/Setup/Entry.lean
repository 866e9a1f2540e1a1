import Mathlib.Logic.Function.Basic
import TrueFamily.Lib.Handler

/-!
# Setup and unload of the config entry

`async_setup_entry` and `async_unload_entry`, with the setup and shutdown of `TrueFamilyRuntime`
that they await. Every awaited step of another component is a choice: it returns, or raises any
exception, a cancellation among them. A choice record lists the steps of one call.

The world keeps every runtime that was created and every journal adapter that was opened, whether
or not something still refers to them. Its log is not part of the program: it records the calls
that returned.
-/

namespace TrueFamily.Setup

open Method

/-! ## Exceptions -/

/-- The exceptions that the clauses of setup and unload tell apart. -/
inductive PyError
  /-- `asyncio.CancelledError`, which is no `Exception`. -/
  | cancelled
  /-- `ReferenceJournalBusyError` and the like: the journal is temporarily unavailable. -/
  | unavailable
  /-- `KeyError`, `ValueError` and the like: the persisted setup data is invalid. -/
  | invalid
  /-- `ReplacementError`. -/
  | replacementError
  /-- `RuntimeSetupSafetyError`. -/
  | setupSafetyError
  /-- `ConfigEntryNotReady`. -/
  | notReady
  /-- `ConfigEntryError`. -/
  | entryError
  /-- Any other exception. -/
  | other
  deriving DecidableEq, Repr

/-- How an awaited step of another component ends. -/
abbrev Ending := Except PyError Unit

/-! ## The runtime -/

/-- The fields of `TrueFamilyRuntime`, and of the MQTT client it owns, that setup and shutdown
use. The subscriptions are installed and removed in one order, so they are counted. -/
structure TrueFamilyRuntime where
  referenceJournal : Option ℕ := none
  subscriptions : ℕ := 0
  subscribed : Bool := false
  startupComplete : Bool := false
  shutdownComplete : Bool := false
  referenceJournalClosed : Bool := false

/-- A method of the runtime. -/
abbrev RuntimeMethod (α : Type) := Method TrueFamilyRuntime PyError α

namespace TrueFamilyRuntime

/-- `has_subscriptions`. -/
def hasSubscriptions (self : TrueFamilyRuntime) : Bool := decide (self.subscriptions ≠ 0)

/-- `cleanup_pending`. -/
def cleanupPending (self : TrueFamilyRuntime) : Bool :=
  !self.shutdownComplete || self.hasSubscriptions

/-- `has_shutdown_safety_coverage`: the first three subscriptions are the roles it needs. -/
def hasShutdownSafetyCoverage (self : TrueFamilyRuntime) : Bool :=
  self.subscribed && decide (3 ≤ self.subscriptions)

/-- The subscriptions left when removing them from the last one on stops at the first that
cannot be removed. -/
def remaining (removable : ℕ → Bool) : ℕ → ℕ
  | 0 => 0
  | n + 1 => if removable n then remaining removable n else n + 1

/-- `_unsubscribe_installed`. -/
def unsubscribeInstalled (removable : ℕ → Bool) : RuntimeMethod Unit := do
  let self ← get
  let left := remaining removable self.subscriptions
  modify fun self => { self with subscriptions := left }
  require (left = 0) .other

/-- `Zigbee2MqttClient.async_shutdown`. -/
def mqttAsyncShutdown (removable : ℕ → Bool) : RuntimeMethod Unit := do
  unsubscribeInstalled removable
  modify fun self => { self with subscribed := false }

/-- The steps that the runtime's setup awaits. -/
structure SetupChoices where
  waitForClient : Ending
  stateTopic : Ending
  infoTopic : Ending
  responseTopic : Ending
  eventTopic : Ending
  removable : ℕ → Bool
  reconcile : Ending
  removableAfter : ℕ → Bool

/-- `self._subscriptions.append(... await mqtt.async_subscribe(...))`. -/
def subscribe (topic : Ending) : RuntimeMethod Unit := do
  liftM topic
  modify fun self => { self with subscriptions := self.subscriptions + 1 }

/-- `Zigbee2MqttClient.async_setup`. -/
def mqttAsyncSetup (choices : SetupChoices) : RuntimeMethod Unit := do
  let self ← get
  require (self.subscribed = false ∧ self.hasSubscriptions = false) .other
  liftM choices.waitForClient
  handle (do
      subscribe choices.stateTopic
      subscribe choices.infoTopic
      subscribe choices.responseTopic
      subscribe choices.eventTopic)
    (fun e => do
      handle (unsubscribeInstalled choices.removable) fun _ => pure ()
      raise (if e = .cancelled then .cancelled else .other))
  modify fun self => { self with subscribed := true }

/-- `_async_cleanup_failed_setup`. -/
def asyncCleanupFailedSetup (removable : ℕ → Bool) : RuntimeMethod Unit :=
  handle (do
      mqttAsyncShutdown removable
      modify fun self => { self with shutdownComplete := true })
    fun _ => pure ()

/-- `async_setup`. -/
def asyncSetup (choices : SetupChoices) : RuntimeMethod Unit :=
  handle (do
      mqttAsyncSetup choices
      liftM choices.reconcile
      modify fun self => { self with startupComplete := true })
    fun e => do
      asyncCleanupFailedSetup choices.removableAfter
      raise (if e = .cancelled then .cancelled else .setupSafetyError)

/-- The steps that the runtime's shutdown awaits. -/
structure ShutdownChoices where
  /-- Waiting for the tasks and the locks is cancelled. -/
  drainCancelled : Bool
  reconcile : Ending
  removable : ℕ → Bool

/-- Turn every exception but a cancellation into `ReplacementError`. -/
def orReplacementError (x : RuntimeMethod Unit) : RuntimeMethod Unit :=
  handle x fun e => raise (if e = .cancelled then .cancelled else .replacementError)

/-- `async_shutdown`. -/
def asyncShutdown (choices : ShutdownChoices) : RuntimeMethod Unit := do
  let self ← get
  if self.shutdownComplete then
    return ()
  else if self.startupComplete = false then
    orReplacementError (mqttAsyncShutdown choices.removable)
    modify fun self => { self with shutdownComplete := true }
  else
    require (choices.drainCancelled = false) .cancelled
    require (self.hasShutdownSafetyCoverage = true) .replacementError
    orReplacementError (liftM choices.reconcile)
    orReplacementError (mqttAsyncShutdown choices.removable)
    modify fun self => { self with shutdownComplete := true }

end TrueFamilyRuntime

/-! ## The world -/

/-- What the log records: that a shutdown of a runtime or the closing of its journal returned, and
that a journal was opened while the entry held a runtime. -/
inductive Event
  | shutdownReturned (runtime : ℕ)
  | closeReturned (runtime : ℕ)
  | opened (journal : ℕ) (previous : Option ℕ)
  deriving DecidableEq, Repr

/-- The entry, `hass.data` and everything that setup calls have created. -/
structure World where
  runtimes : ℕ → TrueFamilyRuntime := fun _ => {}
  created : ℕ := 0
  askedToClose : ℕ → Bool := fun _ => false
  opened : ℕ := 0
  /-- `entry.runtime_data`, if the entry has it. -/
  runtimeData : Option ℕ := none
  /-- `hass.data[DOMAIN].get(entry.entry_id)`. -/
  registered : Option ℕ := none
  log : List Event := []

/-- A coroutine of setup or unload. -/
abbrev Coroutine (α : Type) := Method World PyError α

/-- Call a method of a runtime. -/
def onRuntime {α : Type} (runtime : ℕ) (x : RuntimeMethod α) : Coroutine α := fun world =>
  let ended := x.run (world.runtimes runtime)
  (ended.1, { world with runtimes := Function.update world.runtimes runtime ended.2 })

/-- Record an event. -/
def record (event : Event) : Coroutine Unit :=
  modify fun world => { world with log := world.log ++ [event] }

/-- `await runtime.async_shutdown()`. -/
def shutDown (runtime : ℕ) (choices : TrueFamilyRuntime.ShutdownChoices) : Coroutine Unit := do
  onRuntime runtime (TrueFamilyRuntime.asyncShutdown choices)
  record (.shutdownReturned runtime)

/-- `await reference_journal.async_close()`. -/
def closeJournal (journal : ℕ) (close : Ending) : Coroutine Unit := do
  modify fun world =>
    { world with askedToClose := Function.update world.askedToClose journal true }
  liftM close

/-- `async_close_reference_journal`. -/
def asyncCloseReferenceJournal (runtime : ℕ) (close : Ending) : Coroutine Unit := do
  let world ← get
  match (world.runtimes runtime).referenceJournal with
  | none => pure ()
  | some journal =>
    if (world.runtimes runtime).referenceJournalClosed then
      pure ()
    else
      closeJournal journal close
      onRuntime runtime (modify fun self => { self with referenceJournalClosed := true })

/-- `await runtime.async_close_reference_journal()`. -/
def closeReferenceJournal (runtime : ℕ) (close : Ending) : Coroutine Unit := do
  asyncCloseReferenceJournal runtime close
  record (.closeReturned runtime)

/-! ## Setup -/

/-- The steps that one setup awaits, in the order in which it may await them. -/
structure SetupChoices where
  previousShutdown : TrueFamilyRuntime.ShutdownChoices
  previousClose : Ending
  journalId : Ending
  load : Ending
  parse : Ending
  closeUnused : Ending
  runtimeSetup : TrueFamilyRuntime.SetupChoices
  forward : Ending
  shutdown : TrueFamilyRuntime.ShutdownChoices
  close : Ending

/-- `except asyncio.CancelledError: raise` and `except Exception as err: raise e from err`. -/
def orRaise (e : PyError) (x : Coroutine Unit) : Coroutine Unit :=
  handle x fun raised => raise (if raised = .cancelled then .cancelled else e)

/-- `except Exception: _LOGGER.warning(...)`. -/
def orWarn (x : Coroutine Unit) : Coroutine Unit :=
  handle x fun raised => if raised = .cancelled then raise .cancelled else pure ()

/-- The runtime that the entry still holds is shut down and its journal closed. -/
def releasePrevious (choices : SetupChoices) : Coroutine Unit := do
  let world ← get
  match world.runtimeData with
  | none => pure ()
  | some previous =>
    require (world.registered ≠ some previous) .notReady
    if (world.runtimes previous).cleanupPending then
      orRaise .notReady (shutDown previous choices.previousShutdown)
    orRaise .notReady (closeReferenceJournal previous choices.previousClose)

/-- The two `except` clauses that sort the exceptions of the first stage. -/
def sortErrors {α : Type} (x : Coroutine α) : Coroutine α :=
  handle x fun e => raise (match e with
    | .unavailable => .notReady
    | .invalid => .entryError
    | e => e)

/-- `await async_load_reference_journal(hass, journal_id=journal_id)`. -/
def loadReferenceJournal (load : Ending) : Coroutine ℕ := do
  liftM load
  let world ← get
  modify fun world => { world with
    opened := world.opened + 1
    log := world.log ++ [.opened world.opened world.runtimeData] }
  return world.opened

/-- `runtime = TrueFamilyRuntime(...)`, and the assignment of its journal. -/
def createRuntime (journal : ℕ) : Coroutine ℕ := do
  let world ← get
  modify fun world => { world with
    created := world.created + 1
    runtimes := Function.update world.runtimes world.created { referenceJournal := some journal } }
  return world.created

/-- The first `try`. Until the journal is loaded there is none to close. -/
def openRuntime (choices : SetupChoices) : Coroutine ℕ := do
  let journal ← sortErrors do
    liftM choices.journalId
    loadReferenceJournal choices.load
  handle (sortErrors do
      liftM choices.parse
      createRuntime journal)
    fun e => do
      closeJournal journal choices.closeUnused
      raise e

/-- `entry.runtime_data = runtime`. -/
def retain (runtime : ℕ) : Coroutine Unit :=
  modify fun world => { world with runtimeData := some runtime }

/-- The `except` clauses of `runtime.async_setup()`. -/
def setupFailed (runtime : ℕ) (choices : SetupChoices) (e : PyError) : Coroutine Unit := do
  let world ← get
  match e with
  | .cancelled =>
    if (world.runtimes runtime).cleanupPending then
      retain runtime
    else
      orWarn (closeReferenceJournal runtime choices.close)
    raise .cancelled
  | .setupSafetyError =>
    if (world.runtimes runtime).cleanupPending then
      retain runtime
      raise .notReady
    else
      orWarn (closeReferenceJournal runtime choices.close)
      raise .notReady
  | _ =>
    handle (shutDown runtime choices.shutdown) fun raised => do
      if raised = .cancelled then
        raise .cancelled
      else
        retain runtime
        raise .notReady
    orWarn (closeReferenceJournal runtime choices.close)
    raise .notReady

/-- The `except` clauses of `async_forward_entry_setups`. -/
def forwardFailed (runtime : ℕ) (choices : SetupChoices) (e : PyError) : Coroutine Unit :=
  if e = .cancelled then do
    let stopped ← handle (do
        shutDown runtime choices.shutdown
        return true)
      fun raised => if raised = .cancelled then raise .cancelled else pure false
    if stopped then
      orWarn (closeReferenceJournal runtime choices.close)
    raise .cancelled
  else do
    orRaise .notReady (shutDown runtime choices.shutdown)
    orRaise .notReady (closeReferenceJournal runtime choices.close)
    raise e

/-- `async_setup_entry`. -/
def asyncSetupEntry (choices : SetupChoices) : Coroutine Bool := do
  releasePrevious choices
  let runtime ← openRuntime choices
  handle (onRuntime runtime (TrueFamilyRuntime.asyncSetup choices.runtimeSetup))
    (setupFailed runtime choices)
  retain runtime
  handle (liftM choices.forward) (forwardFailed runtime choices)
  modify fun world => { world with registered := some runtime }
  return true

/-! ## Unload -/

/-- The steps that one unload awaits. -/
structure UnloadChoices where
  shutdown : TrueFamilyRuntime.ShutdownChoices
  unloadPlatforms : Except PyError Bool
  close : Ending

/-- `async_unload_entry`. -/
def asyncUnloadEntry (choices : UnloadChoices) : Coroutine Bool := do
  let world ← get
  match world.runtimeData with
  | none => raise .other
  | some runtime =>
    let stopped ← handle (do
        shutDown runtime choices.shutdown
        return true)
      fun e => if e = .replacementError ∨ e = .setupSafetyError then pure false else raise e
    if stopped then
      let unloadOk ← liftM choices.unloadPlatforms
      if unloadOk then
        closeReferenceJournal runtime choices.close
        modify fun world => { world with registered := none }
        return true
      else
        return false
    else
      return false

/-! ## Runs -/

/-- A call of Home Assistant. After an unload that returned `True` it deletes `runtime_data`, or the
next setup comes first. -/
inductive Call
  | setup (choices : SetupChoices)
  | unload (choices : UnloadChoices) (deletes : Bool)

/-- The world after a call, returned or raised. -/
def Call.perform (world : World) : Call → World
  | .setup choices => ((asyncSetupEntry choices).run world).2
  | .unload choices deletes =>
    let ended := (asyncUnloadEntry choices).run world
    match ended.1 with
    | .ok true => if deletes then { ended.2 with runtimeData := none } else ended.2
    | _ => ended.2

/-- The world after a sequence of calls. -/
def World.after (calls : List Call) : World := calls.foldl Call.perform {}

end TrueFamily.Setup
