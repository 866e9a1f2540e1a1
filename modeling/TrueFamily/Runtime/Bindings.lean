import TrueFamily.Lib.Trace
import TrueFamily.Runtime.RoomCodec

/-!
# Commits and rollbacks of the runtime

The rooms of the runtime change in two places: at the end of a commit and at the end of a rollback,
each after an unlocked test and in one piece under the mutation lock. What the other tasks do to
the sessions in between is left open. What comes from outside, the valve that the registries name
and whether the config entry is stored, is an argument.
-/

namespace TrueFamily.Runtime

open JsonValue

inductive ReplacementPhase
  | awaitingPairing
  | interviewing
  | verifying
  | readyToCommit
  | testing
  | complete
  | failed
  | cancelled
  | rolledBack
  deriving DecidableEq, Repr

/-- What a commit reads and writes of a `ReplacementSession`. -/
structure ReplacementSession where
  roomId : Text
  expectedRevision : ℤ
  oldBinding : Option RoomBinding
  phase : ReplacementPhase
  candidateBinding : Option RoomBinding
  failureReason : Option String
  committedRevision : Option ℤ
  audit : List String

/-- The rooms, the rooms in the data of the config entry, and the sessions. -/
structure TrueFamilyRuntime where
  rooms : Dict Text RoomSlot
  stored : Data
  sessions : Dict Text ReplacementSession

namespace TrueFamilyRuntime

/-- `_persist_rooms`; `async_update_entry` stores all of it or raises. -/
def persistRooms (runtime : TrueFamilyRuntime) (stores : Bool) : Option TrueFamilyRuntime :=
  if stores = true then some { runtime with stored := roomsAsDict runtime.rooms } else none

/-- The runtime once a room has changed. -/
def putRoom (runtime : TrueFamilyRuntime) (room : RoomSlot) : TrueFamilyRuntime :=
  { runtime with rooms := runtime.rooms.set room.roomId room }

/-- `_validate_plan`. -/
def ValidPlan (room : RoomSlot) (session : ReplacementSession) : Prop :=
  room.revision = session.expectedRevision ∧ room.binding = session.oldBinding

instance (room : RoomSlot) (session : ReplacementSession) : Decidable (ValidPlan room session) :=
  instDecidableAnd

/-- `_assert_binding_available`. -/
def Available (runtime : TrueFamilyRuntime) (binding : RoomBinding) (roomId : Text) : Prop :=
  ∀ other ∈ runtime.rooms.values, other.roomId ≠ roomId → ∀ allocated ∈ other.bindings,
    allocated.fields.registryEntryId ≠ binding.fields.registryEntryId
      ∧ allocated.fields.ieeeAddress ≠ binding.fields.ieeeAddress

instance (runtime : TrueFamilyRuntime) (binding : RoomBinding) (roomId : Text) :
    Decidable (runtime.Available binding roomId) := List.decidableBAll _ _

/-- The binding that the commit may store: the one that was tested, as the registries name it. -/
def refreshed (tested : RoomBinding) : Except String (Option RoomBinding) → Option RoomBinding
  | .ok (some binding) =>
    if binding.fields.registryEntryId = tested.fields.registryEntryId
      ∧ binding.fields.ieeeAddress = tested.fields.ieeeAddress then some binding else none
  | _ => none

/-- The runtime once a session has ended. -/
def putSession (runtime : TrueFamilyRuntime) (sessionId : Text) (session : ReplacementSession) :
    TrueFamilyRuntime :=
  { runtime with sessions := runtime.sessions.set sessionId session }

/-- The end of a commit that raises: the room as it was, and a failed session. -/
def failCommit (runtime : TrueFamilyRuntime) (sessionId : Text) (session : ReplacementSession)
    (room changed : RoomSlot) : Except String Unit × TrueFamilyRuntime :=
  (.error "The verified binding could not be persisted.",
    (runtime.putRoom { changed with
      binding := room.binding
      previousBinding := room.previousBinding
      revision := room.revision }).putSession sessionId
      { session with
        phase := .failed
        failureReason := some "The verified binding could not be persisted." })

/-- The room once a binding is committed. -/
def committed (room : RoomSlot) (binding : RoomBinding) : RoomSlot :=
  { room with
    previousBinding := room.binding
    binding := some binding
    revision := room.revision + 1 }

/-- The end of `_async_test_and_commit`, after the test of a binding. `resolved` is what
`_resolve_candidate_binding` returns or raises. -/
def finishCommit (runtime : TrueFamilyRuntime) (sessionId : Text) (tested : RoomBinding)
    (resolved : Except String (Option RoomBinding)) (stores : Bool) :
    Except String Unit × TrueFamilyRuntime :=
  match runtime.sessions.get? sessionId with
  | none => (.error "Unknown replacement session.", runtime)
  | some session =>
    match runtime.rooms.get? session.roomId with
    | none => (.error "Unknown room.", runtime)
    | some room =>
      if session.phase ≠ .testing then
        (.error "The replacement changed while the valve was being tested.", runtime)
      else if ¬ ValidPlan room session then runtime.failCommit sessionId session room room
      else
        match refreshed tested resolved with
        | none => runtime.failCommit sessionId session room room
        | some binding =>
          let session := { session with candidateBinding := some binding }
          if ¬ runtime.Available binding room.roomId then
            runtime.failCommit sessionId session room room
          else if ∃ old ∈ room.binding,
              old.fields.registryEntryId = binding.fields.registryEntryId then
            (.ok (), runtime.putSession sessionId
              { session with
                phase := .complete
                committedRevision := some room.revision
                audit := session.audit ++ ["Existing room valve reconnected and verified."] })
          else
            match (runtime.putRoom (committed room binding)).persistRooms stores with
            | none =>
              (runtime.putRoom (committed room binding)).failCommit sessionId session room
                (committed room binding)
            | some runtime =>
              (.ok (), runtime.putSession sessionId
                { session with
                  phase := .complete
                  committedRevision := some (room.revision + 1)
                  audit := session.audit
                    ++ ["Verified binding committed after target restoration."] })

/-- The room once its previous binding is restored. -/
def swapped (room : RoomSlot) (current previous : RoomBinding) : RoomSlot :=
  { room with
    binding := some previous
    previousBinding := some current
    revision := room.revision + 1 }

/-- The end of `_async_test_and_rollback`, after the test of the previous binding. `resolves` is
whether `_resolve_binding_entity_id` returns. -/
def finishRollback (runtime : TrueFamilyRuntime) (roomId : Text) (expectedRevision : ℤ)
    (current previous : RoomBinding) (resolves stores : Bool) :
    Except String Unit × TrueFamilyRuntime :=
  match runtime.rooms.get? roomId with
  | none => (.error "Unknown room.", runtime)
  | some room =>
    if ¬ (room.revision = expectedRevision ∧ room.binding = some current
        ∧ room.previousBinding = some previous) then
      (.error "The rollback plan changed during testing.", runtime)
    else if resolves = false then
      (.error "The physical MQTT climate binding is invalid.", runtime)
    else if ¬ runtime.Available previous roomId then
      (.error "The valve is reserved by another room or rollback path.", runtime)
    else
      match (runtime.putRoom (swapped room current previous)).persistRooms stores with
      | none =>
        (.error "The rollback could not be persisted.",
          (runtime.putRoom (swapped room current previous)).putRoom
            { swapped room current previous with
              binding := some current
              previousBinding := some previous
              revision := room.revision })
      | some runtime => (.ok (), runtime)

/-- What happens to the rooms. -/
inductive Event
  | session
  | commit (sessionId roomId : Text)
  | rollback (roomId : Text)
  | raised (message : String)

/-- One step: the sessions change, a commit ends or a rollback ends. -/
inductive Step : TrueFamilyRuntime → Event → TrueFamilyRuntime → Prop
  | session (runtime : TrueFamilyRuntime) (sessions : Dict Text ReplacementSession) :
      Step runtime .session { runtime with sessions := sessions }
  | commit {runtime next : TrueFamilyRuntime} {session : ReplacementSession} (sessionId : Text)
      (tested : RoomBinding) (resolved : Except String (Option RoomBinding)) (stores : Bool) :
      runtime.sessions.get? sessionId = some session →
      runtime.finishCommit sessionId tested resolved stores = (.ok (), next) →
      Step runtime (.commit sessionId session.roomId) next
  | commitRaised {runtime next : TrueFamilyRuntime} {message : String} (sessionId : Text)
      (tested : RoomBinding) (resolved : Except String (Option RoomBinding)) (stores : Bool) :
      runtime.finishCommit sessionId tested resolved stores = (.error message, next) →
      Step runtime (.raised message) next
  | rollback {runtime next : TrueFamilyRuntime} (roomId : Text) (expectedRevision : ℤ)
      (current previous : RoomBinding) (resolves stores : Bool) :
      runtime.finishRollback roomId expectedRevision current previous resolves stores
        = (.ok (), next) → Step runtime (.rollback roomId) next
  | rollbackRaised {runtime next : TrueFamilyRuntime} {message : String} (roomId : Text)
      (expectedRevision : ℤ) (current previous : RoomBinding) (resolves stores : Bool) :
      runtime.finishRollback roomId expectedRevision current previous resolves stores
        = (.error message, next) → Step runtime (.raised message) next

end TrueFamilyRuntime

end TrueFamily.Runtime
