import TrueFamily.Lib.Trace
import TrueFamily.Mqtt.Parse
import TrueFamily.Runtime.Bindings

/-!
# The life of the replacement sessions

`TrueFamilyRuntime` as tasks that run between two of their awaits. Inside the mutation lock a task
waits only for the bridge client: for a close barrier or for the opening of joining (`Await`). Only
the callback for a bridge state runs meanwhile. What a task reads from outside (the event, the
rooms, the clock, whether the client has a closed baseline) is an argument.
-/

namespace TrueFamily.Runtime

open JsonValue
open TrueFamily.Mqtt (BridgePermitState)

/-- What the life of a session depends on. -/
structure Session where
  phase : ReplacementPhase
  joinOpenAcknowledged : Bool
  joinClosed : Bool
  hasCandidate : Bool
  deriving DecidableEq

/-- The phases that `_set_terminal` sets. -/
def ReplacementPhase.isTerminal : ReplacementPhase → Bool
  | .complete | .failed | .cancelled | .rolledBack => true
  | _ => false

/-- What a task does once joining is closed for its session. -/
inductive Purpose
  | openFailed
  | openUnsafe
  | fail
  | announced
  | interviewed
  | cancel
  deriving DecidableEq

/-- What `async_handle_bridge_event` decides for the active session, before it waits. -/
inductive Verdict
  | ignore
  | fail
  | joined
  | announced
  | interviewed
  deriving DecidableEq

/-- An operation that first reconciles the bridge where that is required. -/
inductive Operation
  | start (sessionId : Text)
  | event (verdict : Verdict)
  | commit (sessionId : Text)
  | cancel (sessionId : Text)
  | reconcile
  deriving DecidableEq

/-- Where the holder of the mutation lock waits. -/
inductive Await
  | remedy (operation : Operation)
  | opening (sessionId : Text)
  | closing (sessionId : Text) (purpose : Purpose)
  deriving DecidableEq

/-- The part of the runtime that the sessions live in. `operations` are the sessions whose
binding is being tested, outside the mutation lock. -/
structure Lifecycle where
  sessions : Dict Text Session
  activeSessionId : Option Text
  joinOwnerSessionId : Option Text
  bridgeRequiresClosure : Bool
  closing : Bool
  operations : List Text
  holder : Option Await
  deriving DecidableEq

namespace Lifecycle

def init : Lifecycle where
  sessions := .empty
  activeSessionId := none
  joinOwnerSessionId := none
  bridgeRequiresClosure := true
  closing := false
  operations := []
  holder := none

/-- `active_session`, with its id. -/
def activeSession (runtime : Lifecycle) : Option (Text × Session) :=
  runtime.activeSessionId.bind fun sessionId =>
    (runtime.sessions.get? sessionId).map fun session => (sessionId, session)

def putSession (runtime : Lifecycle) (sessionId : Text) (session : Session) : Lifecycle :=
  { runtime with sessions := runtime.sessions.set sessionId session }

/-- `_set_terminal`. -/
def setTerminal (runtime : Lifecycle) (sessionId : Text) (session : Session)
    (phase : ReplacementPhase) : Lifecycle :=
  { runtime.putSession sessionId { session with phase := phase } with
    activeSessionId :=
      if runtime.activeSessionId = some sessionId then none else runtime.activeSessionId }

/-- The task waits inside the mutation lock. -/
def wait (runtime : Lifecycle) (await : Await) : Lifecycle := { runtime with holder := some await }

/-- Every session has its joining closed. -/
def closeSessions (sessions : Dict Text Session) : Dict Text Session :=
  ⟨sessions.entries.map fun entry => (entry.1, { entry.2 with joinClosed := true }), by
    rw [List.map_map]
    exact sessions.nodup_keys⟩

/-- `_mark_global_join_closed`. -/
def markGlobalJoinClosed (runtime : Lifecycle) : Lifecycle :=
  { runtime with
    sessions := closeSessions runtime.sessions
    joinOwnerSessionId := none
    bridgeRequiresClosure := false }

/-- `_handle_bridge_permit_state`, once the state is found to be neither attributed nor closed. -/
def handleUnsafe (runtime : Lifecycle) : Lifecycle :=
  let runtime := { runtime with bridgeRequiresClosure := true }
  let found := runtime.activeSession.orElse fun _ =>
    runtime.joinOwnerSessionId.bind fun sessionId =>
      (runtime.sessions.get? sessionId).map fun session => (sessionId, session)
  match found with
  | none => runtime
  | some (sessionId, session) =>
    if session.phase.isTerminal = true then runtime
    else runtime.setTerminal sessionId session .failed

/-- `_handle_bridge_permit_state`. Where no session owns joining, the owner is `None`. -/
def handleBridgePermitState (runtime : Lifecycle) :
    Option BridgePermitState → Option Text → Lifecycle
  | none, _ => runtime.handleUnsafe
  | some state, attributedTransaction =>
    if state.online = true ∧ state.permitJoin = true
      ∧ attributedTransaction = runtime.joinOwnerSessionId then runtime
    else if state.online = true ∧ state.permitJoin = false then runtime
    else runtime.handleUnsafe

/-! ## Closing joining -/

/-- The shortcut of `_async_close_join_confirmed`. -/
def provedClosed (runtime : Lifecycle) (session : Session) (baseline : Bool) : Bool :=
  session.joinClosed && !runtime.bridgeRequiresClosure && baseline

/-- The end of `_async_fail`, and of the failures of `_async_start_pairing` and `_async_cancel`. -/
def finishClose (runtime : Lifecycle) (sessionId : Text) (session : Session) (closed : Bool) :
    Purpose → Lifecycle
  | .openFailed => runtime.setTerminal sessionId session .failed
  | .openUnsafe =>
    if session.phase = .failed then runtime else runtime.setTerminal sessionId session .failed
  | .fail => runtime.setTerminal sessionId session .failed
  | .cancel =>
    if closed = false ∧ session.joinOpenAcknowledged = true then
      runtime.setTerminal sessionId session .failed
    else runtime.setTerminal sessionId session .cancelled
  | .announced => runtime.putSession sessionId { session with phase := .readyToCommit }
  | .interviewed => runtime.putSession sessionId { session with phase := .verifying }

/-- `_async_attempt_close`, and what follows where it does not wait. -/
def attemptClose (runtime : Lifecycle) (sessionId : Text) (session : Session) (baseline : Bool)
    (purpose : Purpose) : Lifecycle :=
  if runtime.provedClosed session baseline = true then
    runtime.finishClose sessionId session true purpose
  else if session.joinOpenAcknowledged = false ∧ purpose ≠ .openFailed ∧ purpose ≠ .openUnsafe then
    runtime.finishClose sessionId session session.joinClosed purpose
  else runtime.wait (.closing sessionId purpose)

/-- `_async_close_join_confirmed` for an announced or an interviewed device. -/
def closeConfirmed (runtime : Lifecycle) (sessionId : Text) (session : Session) (baseline : Bool)
    (purpose : Purpose) : Lifecycle :=
  if runtime.provedClosed session baseline = true then
    runtime.finishClose sessionId session true purpose
  else runtime.wait (.closing sessionId purpose)

/-! ## Operations -/

/-- `_async_start_pairing` up to the opening, with the ID of the new session. -/
def start (runtime : Lifecycle) (sessionId : Text) (baseline : Bool) : Option Lifecycle :=
  if runtime.activeSession ≠ none ∨ runtime.operations ≠ [] then none
  else if runtime.joinOwnerSessionId ≠ none ∧ runtime.bridgeRequiresClosure = false then none
  else if runtime.bridgeRequiresClosure = true ∨ baseline = false then
    some (runtime.wait (.remedy (.start sessionId)))
  else
    some ({ runtime.putSession sessionId
          { phase := .awaitingPairing
            joinOpenAcknowledged := false
            joinClosed := false
            hasCandidate := false } with
        activeSessionId := some sessionId
        joinOwnerSessionId := some sessionId }.wait (.opening sessionId))

/-- `async_handle_bridge_event` for the active session. -/
def handleEvent (runtime : Lifecycle) (verdict : Verdict) (baseline : Bool) : Lifecycle :=
  match runtime.activeSession with
  | none => runtime
  | some (sessionId, session) =>
    if session.joinOpenAcknowledged = false then runtime
    else
      match verdict with
      | .ignore => runtime
      | .fail => runtime.attemptClose sessionId session baseline .fail
      | .joined =>
        if session.hasCandidate = true then runtime
        else
          runtime.putSession sessionId
            { session with
              hasCandidate := true
              phase := .interviewing }
      | .announced =>
        if session.phase ≠ .awaitingPairing ∧ session.phase ≠ .interviewing then runtime
        else
          let session := { session with hasCandidate := true }
          (runtime.putSession sessionId session).closeConfirmed
            sessionId session baseline .announced
      | .interviewed =>
        if (session.phase ≠ .awaitingPairing ∧ session.phase ≠ .interviewing)
            ∨ session.hasCandidate = false then runtime
        else runtime.closeConfirmed sessionId session baseline .interviewed

/-- `async_commit` up to the test. -/
def commit (runtime : Lifecycle) (sessionId : Text) : Option Lifecycle :=
  match runtime.sessions.get? sessionId with
  | none => none
  | some session =>
    if session.phase ≠ .readyToCommit then none
    else
      some
        { runtime.putSession sessionId { session with phase := .testing } with
          operations := runtime.operations ++ [sessionId] }

/-- `_async_cancel`. -/
def cancel (runtime : Lifecycle) (sessionId : Text) (baseline : Bool) : Option Lifecycle :=
  match runtime.sessions.get? sessionId with
  | none => none
  | some session =>
    if session.phase = .testing ∨ session.phase.isTerminal = true then none
    else some (runtime.attemptClose sessionId session baseline .cancel)

/-- An operation once the bridge is reconciled. -/
def perform (runtime : Lifecycle) (baseline : Bool) : Operation → Option Lifecycle
  | .start sessionId => runtime.start sessionId baseline
  | .event verdict => some (runtime.handleEvent verdict baseline)
  | .commit sessionId => runtime.commit sessionId
  | .cancel sessionId => runtime.cancel sessionId baseline
  | .reconcile => some runtime

/-- An operation that takes the mutation lock and reconciles where that is required. -/
def reconcileAndPerform (runtime : Lifecycle) (baseline : Bool) : Operation → Option Lifecycle
  | .start sessionId => runtime.start sessionId baseline
  | operation =>
    if runtime.bridgeRequiresClosure = true then some (runtime.wait (.remedy operation))
    else runtime.perform baseline operation

/-! ## The end of a wait -/

/-- The barrier of a `remedy` completes or raises. -/
def endRemedy (runtime : Lifecycle) (closed baseline : Bool) (operation : Operation) : Lifecycle :=
  if closed = true then
    (runtime.markGlobalJoinClosed.perform baseline operation).getD runtime.markGlobalJoinClosed
  else { runtime with bridgeRequiresClosure := true }

/-- `async_open_join` returns or raises. -/
def endOpening (runtime : Lifecycle) (sessionId : Text) (session : Session)
    (opened baseline : Bool) : Lifecycle :=
  if opened = false then runtime.attemptClose sessionId session baseline .openFailed
  else if runtime.bridgeRequiresClosure = true ∨ session.phase = .failed then
    runtime.attemptClose sessionId session baseline .openUnsafe
  else if runtime.closing = true then
    runtime.attemptClose sessionId session baseline .openFailed
  else runtime.putSession sessionId { session with joinOpenAcknowledged := true }

/-- The barrier of a session completes or raises. -/
def endClosing (runtime : Lifecycle) (sessionId : Text) (closed baseline : Bool)
    (purpose : Purpose) : Lifecycle :=
  if closed = true then
    let runtime := runtime.markGlobalJoinClosed
    match runtime.sessions.get? sessionId with
    | none => runtime
    | some session => runtime.finishClose sessionId session true purpose
  else
    match runtime.sessions.get? sessionId with
    | none => runtime
    | some session =>
      if purpose = .announced ∨ purpose = .interviewed then
        runtime.attemptClose sessionId session baseline .fail
      else
        { runtime with bridgeRequiresClosure := true }.finishClose sessionId session false purpose

/-! ## Tasks without a wait -/

/-- `_async_pairing_timeout`. -/
def pairingTimeout (runtime : Lifecycle) (sessionId : Text) (baseline : Bool) : Lifecycle :=
  match runtime.sessions.get? sessionId with
  | none => runtime
  | some session =>
    if session.phase = .awaitingPairing ∨ session.phase = .interviewing then
      runtime.attemptClose sessionId session baseline .fail
    else runtime

/-- A turn of `_async_wait_for_candidate_binding`: the candidate is found, or it is reserved or not
discovered in time. -/
def candidateTurn (runtime : Lifecycle) (sessionId : Text) (found baseline : Bool) : Lifecycle :=
  match runtime.sessions.get? sessionId with
  | none => runtime
  | some session =>
    if session.phase ≠ .verifying then runtime
    else if found = true then
      runtime.putSession sessionId { session with phase := .readyToCommit }
    else runtime.attemptClose sessionId session baseline .fail

/-- The test of a binding is over: `_async_test_and_commit` raises, or commits or fails to. -/
def endTest (runtime : Lifecycle) (sessionId : Text) (passed committed : Bool) : Bool × Lifecycle :=
  let runtime := { runtime with operations := runtime.operations.erase sessionId }
  match runtime.sessions.get? sessionId with
  | none => (false, runtime)
  | some session =>
    if passed = false then (false, runtime.setTerminal sessionId session .failed)
    else if session.phase ≠ .testing then (false, runtime)
    else if committed = true then (true, runtime.setTerminal sessionId session .complete)
    else (false, runtime.setTerminal sessionId session .failed)

/-! ## Steps -/

inductive Event
  | notified (state : Option BridgePermitState) (attributedTransaction : Option Text)
  | committed (sessionId : Text)
  | task
  deriving DecidableEq

/-- What one step does: the callback, a task up to its next wait, or the end of a wait. -/
inductive Step : Lifecycle → Event → Lifecycle → Prop
  | notified (runtime : Lifecycle) (state : Option BridgePermitState)
      (attributedTransaction : Option Text) :
      Step runtime (.notified state attributedTransaction)
        (runtime.handleBridgePermitState state attributedTransaction)
  | begins {runtime next : Lifecycle} (operation : Operation) (baseline : Bool) :
      runtime.holder = none →
      runtime.closing = false ∨ (∃ sessionId, operation = .cancel sessionId)
        ∨ operation = .reconcile →
      (∀ sessionId, operation = .start sessionId → runtime.sessions.get? sessionId = none) →
      runtime.reconcileAndPerform baseline operation = some next → Step runtime .task next
  | endRemedy {runtime : Lifecycle} {operation : Operation} (closed baseline : Bool) :
      runtime.holder = some (.remedy operation) →
      Step runtime .task ({ runtime with holder := none }.endRemedy closed baseline operation)
  | endOpening {runtime : Lifecycle} {sessionId : Text} {session : Session}
      (opened baseline : Bool) :
      runtime.holder = some (.opening sessionId) →
      runtime.sessions.get? sessionId = some session →
      Step runtime .task
        ({ runtime with holder := none }.endOpening sessionId session opened baseline)
  | endClosing {runtime : Lifecycle} {sessionId : Text} {purpose : Purpose}
      (closed baseline : Bool) :
      runtime.holder = some (.closing sessionId purpose) →
      Step runtime .task
        ({ runtime with holder := none }.endClosing sessionId closed baseline purpose)
  | interrupted {runtime : Lifecycle} {await : Await} : runtime.holder = some await →
      Step runtime .task { runtime with holder := none }
  | pairingTimeout {runtime : Lifecycle} (sessionId : Text) (baseline : Bool) :
      runtime.holder = none → Step runtime .task (runtime.pairingTimeout sessionId baseline)
  | candidateTurn {runtime : Lifecycle} (sessionId : Text) (found baseline : Bool) :
      runtime.holder = none → Step runtime .task (runtime.candidateTurn sessionId found baseline)
  | committed {runtime next : Lifecycle} {sessionId : Text} :
      runtime.holder = none → sessionId ∈ runtime.operations →
      runtime.endTest sessionId true true = (true, next) →
      Step runtime (.committed sessionId) next
  | tested {runtime next : Lifecycle} {sessionId : Text} (passed committed : Bool) :
      runtime.holder = none → sessionId ∈ runtime.operations →
      runtime.endTest sessionId passed committed = (false, next) → Step runtime .task next
  | abandoned {runtime : Lifecycle} (sessionId : Text) :
      Step runtime .task { runtime with operations := runtime.operations.erase sessionId }
  | shutdown (runtime : Lifecycle) : Step runtime .task { runtime with closing := true }
  | closed (runtime : Lifecycle) : Step runtime .task runtime.markGlobalJoinClosed

end Lifecycle

end TrueFamily.Runtime
