import TrueFamily.Lib.Dict
import Mathlib.Data.Int.Notation

/-!
# The replacement engine

The pure engine that swaps the valve of a room: its data, and its calls. A call returns its result
or its error together with the engine that it leaves, since several of them change the session
before they raise.
-/

namespace TrueFamily.Backend

inductive ReplacementPhase
  | awaitingPairing
  | interviewing
  | readyToCommit
  | testing
  | complete
  | failed
  | rolledBack
  deriving DecidableEq, Repr

structure DeviceBinding where
  registryEntryId : String
  climateEntityId : String
  ieeeAddress : String
  model : String
  manufacturer : String
  z2mFriendlyName : String
  deriving DecidableEq, Repr

structure RoomSlot where
  roomId : String
  displayName : String
  allowedModels : List String
  binding : DeviceBinding
  revision : ℤ := 0

structure DeviceIdentity where
  ieeeAddress : String
  friendlyName : String
  model : Option String := none
  manufacturer : Option String := none
  supported : Option Bool := none
  deriving DecidableEq, Repr

/-- A permit-join request, with the two fields of its payload. -/
structure CommandIntent where
  topic : String
  time : ℤ
  transaction : String
  deriving DecidableEq, Repr

structure BridgeEvent where
  eventType : String
  ieeeAddress : String
  friendlyName : String
  interviewStatus : Option String := none
  supported : Option Bool := none
  model : Option String := none
  manufacturer : Option String := none

/-- A time with a timezone: its local time and its offset, in microseconds. -/
structure AwareTime where
  localTime : ℤ
  utcOffset : ℤ

namespace AwareTime

/-- The instant, by which times of different timezones are compared. -/
def instant (time : AwareTime) : ℤ := time.localTime - time.utcOffset

/-- `datetime.max`, from `datetime.min`. -/
def maxLocalTime : ℤ := 3652059 * 86400 * 1000000 - 1

/-- `time + timedelta(seconds=...)`, unless it overflows. -/
def plusSeconds (time : AwareTime) (seconds : ℤ) : Option AwareTime :=
  if time.localTime + seconds * 1000000 ≤ maxLocalTime then
    some { time with localTime := time.localTime + seconds * 1000000 }
  else none

end AwareTime

inductive DateTime
  | naive
  | aware (time : AwareTime)

structure ReplacementSession where
  sessionId : String
  roomId : String
  expectedRevision : ℤ
  startedAt : AwareTime
  pairingDeadline : AwareTime
  oldBinding : DeviceBinding
  phase : ReplacementPhase := .awaitingPairing
  candidate : Option DeviceIdentity := none
  candidateEntityId : Option String := none
  failureReason : Option String := none
  joinClosed : Bool := false
  audit : List String := []

namespace ReplacementSession

/-- `record`. -/
def record (session : ReplacementSession) (message : String) : ReplacementSession :=
  { session with audit := session.audit ++ [message] }

/-- The phases of `_active_session`. -/
def IsActive (session : ReplacementSession) : Prop :=
  session.phase ∈ [ReplacementPhase.awaitingPairing, .interviewing, .readyToCommit, .testing]

instance (session : ReplacementSession) : Decidable session.IsActive :=
  List.instDecidableMemOfLawfulBEq _ _

/-- The pairing window is over in a phase that is bound by it. -/
def Expired (session : ReplacementSession) (now : AwareTime) : Prop :=
  session.phase ∈ [ReplacementPhase.awaitingPairing, .interviewing]
    ∧ session.pairingDeadline.instant ≤ now.instant

instance (session : ReplacementSession) (now : AwareTime) : Decidable (session.Expired now) :=
  instDecidableAnd

end ReplacementSession

inductive ReplacementError
  | valueError (message : String)
  | overflowError
  | keyError
  | rejected (message : String)
  | staleRevision (message : String)
  deriving DecidableEq, Repr

def permitJoinRequestTopic : String := "zigbee2mqtt/bridge/request/permit_join"

/-- `permit_join_intent`. -/
def permitJoinIntent (seconds : ℤ) (transaction : String) : CommandIntent :=
  ⟨permitJoinRequestTopic, seconds, transaction⟩

/-- `close_join_intent`. -/
def closeJoinIntent (transaction : String) : CommandIntent := permitJoinIntent 0 transaction

/-- `ReplacementEngine`. -/
structure Engine where
  rooms : Dict String RoomSlot
  sessions : Dict String ReplacementSession

/-- What a call returns or raises, and the engine that it leaves. -/
abbrev Outcome (α : Type) : Type := Except ReplacementError α × Engine

namespace Engine

/-- `__init__`. -/
def init (rooms : List RoomSlot) : Except ReplacementError Engine :=
  if (rooms.map RoomSlot.roomId).Nodup then
    .ok ⟨Dict.comprehension RoomSlot.roomId id rooms, Dict.empty⟩
  else .error (.valueError "Room IDs must be unique.")

/-- `_active_session`. -/
def activeSession (engine : Engine) : Option ReplacementSession :=
  engine.sessions.values.find? fun session => decide session.IsActive

/-- The engine once a session has changed. -/
def putSession (engine : Engine) (session : ReplacementSession) : Engine :=
  { engine with sessions := engine.sessions.set session.sessionId session }

/-- The engine once a room has changed. -/
def putRoom (engine : Engine) (room : RoomSlot) : Engine :=
  { engine with rooms := engine.rooms.set room.roomId room }

/-- The session that `_fail` leaves. -/
def failed (session : ReplacementSession) (reason : String) : ReplacementSession :=
  { session with
    phase := .failed
    failureReason := some reason
    joinClosed := true }.record s!"Replacement failed: {reason}"

/-- `_fail`. -/
def fail (engine : Engine) (session : ReplacementSession) (reason : String) :
    List CommandIntent × Engine :=
  (if session.joinClosed = true then [] else [closeJoinIntent session.sessionId],
    engine.putSession (failed session reason))

def naiveTime : ReplacementError :=
  .valueError "Replacement timestamps must include a timezone."

/-- The session that `start` creates. -/
def started (room : RoomSlot) (now deadline : AwareTime) (sessionId : String) :
    ReplacementSession :=
  { sessionId := sessionId
    roomId := room.roomId
    expectedRevision := room.revision
    startedAt := now
    pairingDeadline := deadline
    oldBinding := room.binding : ReplacementSession }.record
      s!"Replacement started for {room.displayName}."

/-- `start`, with the new ID that it draws. -/
def start (engine : Engine) (roomId : String) (now : DateTime) (pairingSeconds : ℤ)
    (sessionId : String) : Outcome (ReplacementSession × List CommandIntent) :=
  match now with
  | .naive => (.error naiveTime, engine)
  | .aware now =>
    if pairingSeconds < 15 ∨ 60 < pairingSeconds then
      (.error (.rejected "Customer pairing must use a 15 to 60 second window."), engine)
    else if engine.activeSession.isSome = true then
      (.error (.rejected "Another replacement transaction is already active."), engine)
    else
      match engine.rooms.get? roomId with
      | none => (.error (.rejected s!"Unknown room: {roomId}."), engine)
      | some room =>
        match now.plusSeconds pairingSeconds with
        | none => (.error .overflowError, engine)
        | some deadline =>
          (.ok (started room now deadline sessionId, [permitJoinIntent pairingSeconds sessionId]),
            engine.putSession (started room now deadline sessionId))

/-- The session once a device has joined. -/
def joined (session : ReplacementSession) (event : BridgeEvent) : ReplacementSession :=
  { session with
    candidate := some { ieeeAddress := event.ieeeAddress, friendlyName := event.friendlyName }
    phase := .interviewing }.record "One candidate joined; waiting for its interview."

/-- The session once an interview is reported, whatever it says. -/
def interviewing (session : ReplacementSession) (event : BridgeEvent) : ReplacementSession :=
  { session with
    candidate := some (session.candidate.getD
      { ieeeAddress := event.ieeeAddress, friendlyName := event.friendlyName })
    phase := .interviewing }

/-- The session once an interview is successful. -/
def identified (session : ReplacementSession) (event : BridgeEvent) : ReplacementSession :=
  { interviewing session event with
    candidate := some
      { ieeeAddress := event.ieeeAddress
        friendlyName := event.friendlyName
        model := event.model
        manufacturer := event.manufacturer
        supported := event.supported } }

/-- `event.model`, as a message shows it. -/
def modelText (event : BridgeEvent) : String := event.model.getD "None"

/-- `event.model or "unknown"`. -/
def modelOrUnknown (event : BridgeEvent) : String :=
  if event.model.getD "" = "" then "unknown" else event.model.getD ""

/-- The session once its candidate is approved. -/
def approved (session : ReplacementSession) (event : BridgeEvent) : ReplacementSession :=
  { identified session event with
    phase := .readyToCommit
    joinClosed := true }.record s!"Approved candidate verified as {modelText event}."

/-- `handle_bridge_event`, from the interview on. -/
def handleInterview (engine : Engine) (session : ReplacementSession) (event : BridgeEvent) :
    Outcome (List CommandIntent) :=
  if event.interviewStatus = some "started" then
    (.ok [], engine.putSession ((interviewing session event).record "Candidate interview started."))
  else if event.interviewStatus ≠ some "successful" then
    let (intents, engine) := engine.fail (interviewing session event)
      "The candidate interview failed."
    (.ok intents, engine)
  else
    match engine.rooms.get? session.roomId with
    | none => (.error .keyError, engine.putSession (identified session event))
    | some room =>
      if event.supported ≠ some true then
        let (intents, engine) :=
          engine.fail (identified session event) "The joined device is not supported."
        (.ok intents, engine)
      else if event.model.any (fun model => decide (model ∈ room.allowedModels)) = false then
        let (intents, engine) := engine.fail (identified session event)
          s!"Model {modelOrUnknown event} is not approved for this room."
        (.ok intents, engine)
      else (.ok [closeJoinIntent session.sessionId], engine.putSession (approved session event))

/-- `handle_bridge_event`. -/
def handleBridgeEvent (engine : Engine) (event : BridgeEvent) (now : DateTime) :
    Outcome (List CommandIntent) :=
  match now with
  | .naive => (.error naiveTime, engine)
  | .aware now =>
    match engine.activeSession with
    | none => (.ok [], engine)
    | some session =>
      if session.Expired now then
        let (intents, engine) := engine.fail session "The pairing window expired."
        (.ok intents, engine)
      else if event.eventType = "device_announce" then (.ok [], engine)
      else if session.candidate.any (fun candidate =>
          decide (candidate.ieeeAddress ≠ event.ieeeAddress)) = true then
        let (intents, engine) :=
          engine.fail session "More than one device joined the pairing window."
        (.ok intents, engine)
      else if event.eventType = "device_joined" then
        (.ok [], engine.putSession (joined session event))
      else if event.eventType ≠ "device_interview" then (.ok [], engine)
      else engine.handleInterview session event

/-- `tick`. -/
def tick (engine : Engine) (now : DateTime) : Outcome (List CommandIntent) :=
  match now with
  | .naive => (.error naiveTime, engine)
  | .aware now =>
    match engine.activeSession with
    | none => (.ok [], engine)
    | some session =>
      if session.Expired now then
        let (intents, engine) := engine.fail session "The pairing window expired."
        (.ok intents, engine)
      else (.ok [], engine)

/-- Whether another room has the registry entry or the address of a candidate. -/
def IsAllocated (engine : Engine) (room : RoomSlot) (registryEntryId ieeeAddress : String) : Prop :=
  ∃ other ∈ engine.rooms.values, other.roomId ≠ room.roomId
    ∧ (other.binding.registryEntryId = registryEntryId ∨ other.binding.ieeeAddress = ieeeAddress)

instance (engine : Engine) (room : RoomSlot) (registryEntryId ieeeAddress : String) :
    Decidable (engine.IsAllocated room registryEntryId ieeeAddress) :=
  List.decidableBEx _ _

/-- The binding that `commit` creates. -/
def bindingOf (registryEntryId climateEntityId : String) (candidate : DeviceIdentity)
    (model : String) : DeviceBinding :=
  { registryEntryId := registryEntryId
    climateEntityId := climateEntityId
    ieeeAddress := candidate.ieeeAddress
    model := model
    manufacturer :=
      if candidate.manufacturer.getD "" = "" then "Unknown" else candidate.manufacturer.getD ""
    z2mFriendlyName := candidate.friendlyName }

/-- The session once its candidate is committed. -/
def committing (session : ReplacementSession) (climateEntityId : String) : ReplacementSession :=
  { session with
    candidateEntityId := some climateEntityId
    phase := .testing }.record "Candidate binding committed; awaiting setpoint read-back."

/-- The engine once a candidate is committed. -/
def swap (engine : Engine) (session : ReplacementSession) (room : RoomSlot)
    (binding : DeviceBinding) : Engine :=
  (engine.putRoom { room with binding := binding, revision := room.revision + 1 }).putSession
    (committing session binding.climateEntityId)

/-- `commit`. -/
def commit (engine : Engine) (sessionId registryEntryId climateEntityId : String) :
    Outcome ReplacementSession :=
  match engine.sessions.get? sessionId with
  | none => (.error (.rejected "Unknown replacement session."), engine)
  | some session =>
    if session.phase ≠ .readyToCommit then
      (.error (.rejected "The replacement is not ready to commit."), engine)
    else
      match engine.rooms.get? session.roomId with
      | none => (.error .keyError, engine)
      | some room =>
        if room.revision ≠ session.expectedRevision then
          (.error (.staleRevision "The room revision is stale."),
            (engine.fail session "The room binding changed during replacement.").2)
        else
          match session.candidate, session.candidate.bind DeviceIdentity.model with
          | some candidate, some model =>
            if "climate.".toList.isPrefixOf climateEntityId.toList = false then
              (.error (.rejected "Candidate entity must be in the climate domain."),
                (engine.fail session "The candidate does not expose a climate entity.").2)
            else if engine.IsAllocated room registryEntryId candidate.ieeeAddress then
              (.error (.rejected "Candidate is already allocated."),
                (engine.fail session "The candidate is already bound to another room.").2)
            else
              let binding := bindingOf registryEntryId climateEntityId candidate model
              (.ok (committing session climateEntityId), engine.swap session room binding)
          | _, _ =>
            (.error (.rejected "Candidate identity is incomplete."),
              (engine.fail session "The candidate identity is incomplete.").2)

/-- The session that `rollback` leaves. -/
def rolledBack (session : ReplacementSession) (reason : String) : ReplacementSession :=
  { session with
    failureReason := some reason
    phase := .rolledBack }.record s!"Previous binding restored: {reason}"

/-- The engine once the binding of before the session is restored. -/
def restore (engine : Engine) (session : ReplacementSession) (room : RoomSlot) (reason : String) :
    Engine :=
  (engine.putRoom { room with
    binding := session.oldBinding, revision := room.revision + 1 }).putSession
    (rolledBack session reason)

/-- `rollback`. -/
def rollback (engine : Engine) (sessionId reason : String) : Outcome ReplacementSession :=
  match engine.sessions.get? sessionId with
  | none => (.error (.rejected "Unknown replacement session."), engine)
  | some session =>
    if session.phase ∉ [ReplacementPhase.testing, .complete] then
      (.error (.rejected "No committed binding is available to roll back."), engine)
    else
      match engine.rooms.get? session.roomId with
      | none => (.error .keyError, engine)
      | some room => (.ok (rolledBack session reason), engine.restore session room reason)

/-- The session once its read-back is confirmed. -/
def completed (session : ReplacementSession) : ReplacementSession :=
  { session with phase := .complete }.record
    "Replacement completed after verified setpoint read-back."

/-- `confirm_readback`. `differs` is the comparison of the two temperatures,
`abs(reported_temperature - expected_temperature) > tolerance`. -/
def confirmReadback (engine : Engine) (sessionId entityId : String) (differs : Bool) :
    Outcome Bool :=
  match engine.sessions.get? sessionId with
  | none => (.error (.rejected "Unknown replacement session."), engine)
  | some session =>
    if session.phase ≠ .testing then
      (.error (.rejected "The replacement is not awaiting read-back."), engine)
    else if session.candidateEntityId ≠ some entityId then
      let (result, engine) :=
        engine.rollback sessionId "Read-back came from the wrong climate entity."
      (result.map fun _ => false, engine)
    else if differs = true then
      let (result, engine) :=
        engine.rollback sessionId "The replacement did not confirm its test target."
      (result.map fun _ => false, engine)
    else (.ok true, engine.putSession (completed session))

end Engine

end TrueFamily.Backend
