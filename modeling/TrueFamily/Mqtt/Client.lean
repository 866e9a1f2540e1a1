import TrueFamily.Lib.Trace
import TrueFamily.Mqtt.Parse

/-!
# The bridge client

`Zigbee2MqttClient` between its setup and its shutdown: the callbacks of the three topics, and the
requests that open or close joining, which run between two of their awaits. `notified` lists the
calls of the permit-state handler.
-/

namespace TrueFamily.Mqtt

open JsonValue
open TrueFamily.Runtime (Data chars field)

/-- The fields of one open request. -/
structure OpenAttribution where
  transaction : Option Text
  requestGeneration : ℕ
  requestStartedAt : Option ℤ
  acknowledged : Bool
  acknowledgedAt : Option ℤ
  expectedEnd : Option ℤ
  attributionDeadline : ℤ
  windowDeadline : ℤ
  infoGeneration : ℕ
  provisionalState : Option BridgePermitState

/-- `_clear_open_attribution`. -/
def OpenAttribution.cleared : OpenAttribution :=
  ⟨none, 0, none, false, none, none, 0, 0, 0, none⟩

/-- A pending request and its future. -/
structure Pending where
  seconds : ℤ
  result : Option (Except Unit ℤ)

/-- A future of an open request that is not done gets an exception. -/
def Pending.fail (pending : Pending) : Pending :=
  if 0 < pending.seconds ∧ pending.result.isNone then { pending with result := some (.error ()) }
  else pending

/-- A request that is suspended: where, and with which generations. -/
inductive Request
  | waitOnline (transaction : Text) (generation : ℕ)
  | closeAck (transaction : Text) (requestGeneration : ℕ)
  | closeProof (requestGeneration generation : ℕ)
  | openAck (transaction : Text) (requestGeneration : ℕ)
  | openProof (requestGeneration generation : ℕ) (acknowledgedAt : ℤ)

structure Client where
  subscribed : Bool
  generation : ℕ
  setupGeneration : ℕ
  unsafeGeneration : ℕ
  unattributedOpenGeneration : ℕ
  online : Option Bool
  onlineGeneration : ℕ
  bridgeStateInvalid : Bool
  permitJoin : Option Bool
  permitJoinEnd : Option ℤ
  permitRetained : Bool
  permitInitialRetained : Bool
  bridgeInfoSeen : Bool
  permitGeneration : ℕ
  permitObservedAt : Option ℤ
  permitObservedMonotonic : Option ℤ
  closedProofGeneration : ℕ
  activeCloseRequestGeneration : Option ℕ
  attribution : OpenAttribution
  pending : Dict Text Pending
  requests : List Request
  notified : List (Option BridgePermitState × Option Text)

namespace Client

/-- `__init__`. -/
def init : Client where
  subscribed := false
  generation := 0
  setupGeneration := 0
  unsafeGeneration := 0
  unattributedOpenGeneration := 0
  online := none
  onlineGeneration := 0
  bridgeStateInvalid := false
  permitJoin := none
  permitJoinEnd := none
  permitRetained := false
  permitInitialRetained := false
  bridgeInfoSeen := false
  permitGeneration := 0
  permitObservedAt := none
  permitObservedMonotonic := none
  closedProofGeneration := 0
  activeCloseRequestGeneration := none
  attribution := .cleared
  pending := .empty
  requests := []
  notified := []

/-! ## States and notifications -/

/-- `_next_generation`. -/
def nextGeneration (client : Client) : Client :=
  { client with generation := client.generation + 1 }

/-- `_mark_unsafe`. -/
def markUnsafe (client : Client) (generation : ℕ) : Client :=
  { client with
    unsafeGeneration := generation
    closedProofGeneration := 0
    attribution := .cleared }

/-- `_notify_permit_state`. -/
def notifyPermitState (client : Client) (state : Option BridgePermitState)
    (transaction : Option Text) : Client :=
  { client with notified := client.notified ++ [(state, transaction)] }

/-- `_current_permit_state`. -/
def currentPermitState (client : Client) : Option BridgePermitState :=
  match client.online, client.permitJoin, client.permitObservedAt with
  | some online, some permitJoin, some observedAt =>
    some
      { online := online
        onlineGeneration := client.onlineGeneration
        generation := client.permitGeneration
        observedAt := observedAt
        permitJoin := permitJoin
        permitJoinEnd := client.permitJoinEnd
        retained := client.permitRetained
        initialRetained := client.permitInitialRetained }
  | _, _, _ => none

/-- `_reject_open_state`. -/
def rejectOpenState (client : Client) (state : BridgePermitState) : Client :=
  { client with
    unattributedOpenGeneration := max client.unattributedOpenGeneration state.generation
    attribution :=
      { client.attribution with provisionalState := none } }.notifyPermitState none none

/-- `_is_provisional_open_candidate`. -/
def isProvisionalOpenCandidate (client : Client) (clock : Clock) (state : BridgePermitState) :
    Bool :=
  client.attribution.requestStartedAt.any (fun startedAt => decide (startedAt ≤ state.observedAt))
    && decide (client.attribution.requestGeneration < state.generation) && !state.retained
    && decide (clock.monotonic ≤ client.attribution.attributionDeadline)
    && decide (clock.monotonic ≤ client.attribution.windowDeadline)

/-- `_is_valid_open_candidate`. -/
def isValidOpenCandidate (client : Client) (clock : Clock) (state : BridgePermitState) : Bool :=
  client.isProvisionalOpenCandidate clock state
    && client.attribution.expectedEnd.any fun expectedEnd => state.permitJoinEnd.any fun finish =>
      decide (|finish - expectedEnd| ≤ Decoder.permitJoinEndClockSkew)

/-- `_notify_classified_permit_state`, with `_classify_open_state`. -/
def notifyClassifiedPermitState (client : Client) (clock : Clock) :
    Option BridgePermitState → Client
  | none => client.notifyPermitState none none
  | some state =>
    if state.online = false ∨ state.permitJoin = false then
      if client.attribution.provisionalState.any
          fun provisional => decide (provisional.generation < state.generation) then
        client.rejectOpenState state
      else client.notifyPermitState (some state) none
    else
      match client.attribution.transaction with
      | none =>
        { client with
          unattributedOpenGeneration := max client.unattributedOpenGeneration state.generation }
        |>.notifyPermitState (some state) none
      | some transaction =>
        if client.attribution.acknowledged = false then
          if client.isProvisionalOpenCandidate clock state = false then client.rejectOpenState state
          else
            match client.attribution.provisionalState with
            | none =>
              { client with
                attribution := { client.attribution with provisionalState := some state } }
            | some provisional =>
              if provisional.generation = state.generation then client
              else client.rejectOpenState state
        else if client.isValidOpenCandidate clock state = false then client.rejectOpenState state
        else
          { client with
            attribution := { client.attribution with infoGeneration := state.generation } }
          |>.notifyPermitState (some state) (some transaction)

/-! ## Callbacks -/

/-- `bridge_state_received`. -/
def bridgeStateReceived (client : Client) (decoder : Decoder) (message : Message) (clock : Clock) :
    Client :=
  let client := client.nextGeneration
  match readState decoder message with
  | .raised => client
  | .rejected =>
    { client with online := none, bridgeStateInvalid := true }.markUnsafe client.generation
      |>.notifyPermitState none none
  | .parsed online =>
    let wasOnline := client.online
    let client :=
      { client with
        online := some online
        onlineGeneration := client.generation
        bridgeStateInvalid := false }
    if online = true ∧ wasOnline = some true then
      (client.markUnsafe client.generation).notifyPermitState none none
    else
      let client := if online = false then client.markUnsafe client.generation else client
      client.notifyClassifiedPermitState clock client.currentPermitState

/-- `bridge_info_received`. -/
def bridgeInfoReceived (client : Client) (decoder : Decoder) (message : Message) (clock : Clock) :
    Client :=
  let seen := client.bridgeInfoSeen
  let client := client.nextGeneration
  match readInfo decoder message clock with
  | .raised => { client with bridgeInfoSeen := true }
  | .rejected =>
    { client with
      bridgeInfoSeen := true
      permitJoin := none
      permitJoinEnd := none
      permitRetained := false
      permitInitialRetained := false
      permitGeneration := client.generation
      permitObservedAt := none
      permitObservedMonotonic := none }.markUnsafe client.generation
      |>.notifyPermitState none none
  | .parsed (retained, permitJoin, permitJoinEnd) =>
    let initialRetained := retained && !seen
    let client :=
      { client with
        bridgeInfoSeen := true
        permitJoin := some permitJoin
        permitJoinEnd := permitJoinEnd
        permitRetained := retained
        permitInitialRetained := initialRetained
        permitGeneration := client.generation
        permitObservedAt := some clock.now
        permitObservedMonotonic := some clock.monotonic
        closedProofGeneration := if permitJoin = true then 0 else client.closedProofGeneration }
    if retained = true
      ∧ (initialRetained = false ∨ client.activeCloseRequestGeneration ≠ none) then
      (client.markUnsafe client.generation).notifyPermitState none none
    else client.notifyClassifiedPermitState clock client.currentPermitState

/-- Every pending future of an open request that is not done gets an exception. -/
def failPending (pending : Dict Text Pending) : Dict Text Pending :=
  ⟨pending.entries.map fun entry => (entry.1, entry.2.fail), by
    rw [List.map_map]
    exact pending.nodup_keys⟩

/-- `_reject_provisional_open`. -/
def rejectProvisionalOpen (client : Client) (fails : Bool) : Client :=
  match client.attribution.provisionalState with
  | none => client
  | some state =>
    let client := client.rejectOpenState state
    if fails = true then { client with pending := failPending client.pending }
    else client

/-- `_commit_provisional_open`. -/
def commitProvisionalOpen (client : Client) (clock : Clock) (transaction : Text) : Client :=
  match client.attribution.provisionalState with
  | none => client
  | some state =>
    let client :=
      { client with attribution := { client.attribution with provisionalState := none } }
    if client.attribution.transaction ≠ some transaction
      ∨ client.isValidOpenCandidate clock state = false then client.rejectOpenState state
    else
      { client with
        attribution := { client.attribution with infoGeneration := state.generation } }
      |>.notifyPermitState (some state) (some transaction)

/-- The future of a transaction is done. -/
def resolve (client : Client) (transaction : Text) (seconds : ℤ) (result : Except Unit ℤ) :
    Client :=
  { client with pending := client.pending.set transaction ⟨seconds, some result⟩ }

/-- The time of a response. -/
def acknowledgedSeconds (data : List (Text × Data)) : Option ℤ :=
  match field data "data" with
  | .obj entries =>
    match field entries "time" with
    | .int seconds => some seconds
    | _ => none
  | _ => none

/-- The status of a response is `ok`. -/
def isOk (data : List (Text × Data)) : Bool :=
  match field data "status" with
  | .str text => decide (text = chars "ok")
  | _ => false

/-- A response acknowledges a request. -/
def acknowledges (message : Message) (data : List (Text × Data)) (seconds : ℤ) : Bool :=
  isOk data && decide (message.retain = some false)
    && decide (acknowledgedSeconds data = some seconds)

/-- `join_response_received`. -/
def joinResponseReceived (client : Client) (decoder : Decoder) (message : Message)
    (clock : Clock) : Client :=
  match decoder.decodeObject message.payload with
  | .raised => client
  | .rejected => client.rejectProvisionalOpen true
  | .parsed data =>
    match field data "transaction" with
    | .str transaction =>
      match client.pending.get? transaction with
      | none => client.rejectProvisionalOpen true
      | some pending =>
        if pending.result.isSome then client
        else if acknowledges message data pending.seconds = false then
          let client :=
            if 0 < pending.seconds then client.rejectProvisionalOpen false else client
          client.resolve transaction pending.seconds (.error ())
        else if 0 < pending.seconds then
          if client.attribution.transaction ≠ some transaction then
            (client.rejectProvisionalOpen false).resolve transaction pending.seconds (.error ())
          else
            { client with
              attribution :=
                { client.attribution with
                  acknowledged := true
                  acknowledgedAt := some clock.now } }.commitProvisionalOpen clock transaction
            |>.resolve transaction pending.seconds (.ok clock.now)
        else client.resolve transaction pending.seconds (.ok clock.now)
    | _ => client.rejectProvisionalOpen true

/-! ## The closed baseline -/

def baselineMaxAge : ℤ := 15 * 1000000

/-- `current_closed_baseline`, at a reading of the loop's clock. -/
def currentClosedBaseline (client : Client) (monotonic : ℤ) : Option BridgePermitState :=
  if client.subscribed = false ∨ client.closedProofGeneration ≤ client.setupGeneration then none
  else
    match client.currentPermitState, client.permitObservedMonotonic with
    | some state, some observed =>
      if state.online = false ∨ state.permitJoin = true ∨ state.retained = true
        ∨ state.generation < client.closedProofGeneration
        ∨ baselineMaxAge < monotonic - observed then none
      else some state
    | _, _ => none

/-! ## Requests -/

/-- `_validate_transaction`. -/
def validTransaction (transaction : Text) : Bool :=
  decide (1 ≤ transaction.length ∧ transaction.length ≤ 128)
    && transaction.all fun c => c.isAlphanum || "._:-".toList.contains c

/-- What a step of the client shows: a message, or what a request does. -/
inductive Event
  | setup
  | state (message : Message)
  | info (message : Message) (clock : Clock)
  | response (message : Message)
  | openRequested (transaction : Text)
  | opened (acknowledgedAt : ℤ)
  | closed (observedAt : ℤ)
  | waiting
  | failed

def permitJoinResponse : ℤ := 10 * 1000000

def permitJoinOpenInfo : ℤ := 10 * 1000000

/-- `_begin_open_attribution`. -/
def beginOpenAttribution (client : Client) (transaction : Text) (seconds : ℤ) (clock : Clock) :
    Client :=
  { client with
    closedProofGeneration := 0
    attribution :=
      { transaction := some transaction
        requestGeneration := client.generation
        requestStartedAt := some clock.now
        acknowledged := false
        acknowledgedAt := none
        expectedEnd := some (clock.now + seconds * 1000000)
        attributionDeadline := clock.monotonic + permitJoinResponse + permitJoinOpenInfo
        windowDeadline := clock.monotonic + seconds * 1000000 + Decoder.permitJoinEndClockSkew
        infoGeneration := 0
        provisionalState := none } }

/-- The request is suspended. -/
def suspend (client : Client) (request : Request) : Client :=
  { client with requests := client.requests ++ [request] }

/-- `_async_request_join` up to its publication. -/
def requestJoin (client : Client) (seconds : ℤ) (transaction : Text) (request : Request) :
    Option Client :=
  if client.pending.get? transaction ≠ none then none
  else
    some ({ client with pending := client.pending.set transaction ⟨seconds, none⟩ }.suspend request)

/-- The end of a close request, whatever happened. -/
def finishClose (client : Client) : Client := { client with activeCloseRequestGeneration := none }

/-- `async_open_join` up to its publication. -/
def openJoin (client : Client) (seconds : ℤ) (transaction : Text) (clock : Clock) :
    Event × Client :=
  if seconds < 15 ∨ 60 < seconds then (.failed, client)
  else if client.currentClosedBaseline clock.monotonic = none then (.failed, client)
  else if validTransaction transaction = false then (.failed, client)
  else
    let client := client.beginOpenAttribution transaction seconds clock
    (.openRequested transaction,
      (client.requestJoin seconds transaction (.openAck transaction client.generation)).getD client)

/-- `async_reconcile_join_closed` from the wait for the bridge to its publication. -/
def enterClose (client : Client) (transaction : Text) : Event × Client :=
  match client.online with
  | none =>
    if client.bridgeStateInvalid = true then (.failed, client)
    else (.waiting, client.suspend (.waitOnline transaction client.generation))
  | some false => (.failed, client)
  | some true =>
    let client := { client with activeCloseRequestGeneration := some client.generation }
    match client.requestJoin 0 transaction (.closeAck transaction client.generation) with
    | none => (.failed, client.finishClose)
    | some client => (.waiting, client)

/-- `async_reconcile_join_closed` up to its first await. -/
def reconcileJoinClosed (client : Client) (transaction : Text) : Event × Client :=
  if client.subscribed = false ∨ validTransaction transaction = false then (.failed, client)
  else client.enterClose transaction

/-- One turn of the loop of `async_reconcile_join_closed`. -/
def checkClosed (client : Client) (requestGeneration : ℕ) : Event × Client :=
  if requestGeneration < client.unsafeGeneration ∨ client.online ≠ some true then
    (.failed, client.finishClose)
  else
    match client.currentPermitState with
    | some state =>
      if state.online = true ∧ requestGeneration < state.generation ∧ state.permitJoin = false
        ∧ state.retained = false then
        (.closed state.observedAt,
          { client with
            closedProofGeneration := state.generation
            attribution := .cleared }.finishClose)
      else (.waiting, client.suspend (.closeProof requestGeneration client.generation))
    | none => (.waiting, client.suspend (.closeProof requestGeneration client.generation))

/-- One turn of the loop of `async_open_join`. -/
def checkOpened (client : Client) (requestGeneration : ℕ) (acknowledgedAt : ℤ) : Event × Client :=
  if requestGeneration < client.unsafeGeneration
    ∨ requestGeneration < client.unattributedOpenGeneration ∨ client.online ≠ some true then
    (.failed, client)
  else if client.attribution.acknowledged = true
    ∧ requestGeneration < client.attribution.infoGeneration then (.opened acknowledgedAt, client)
  else
    (.waiting, client.suspend (.openProof requestGeneration client.generation acknowledgedAt))

/-- The request is no longer pending. -/
def popPending (client : Client) (transaction : Text) : Client :=
  { client with pending := client.pending.erase transaction }

/-- A suspended request that can go on does; the others stay. -/
def resume (client : Client) : Request → Option (Event × Client)
  | .waitOnline transaction generation =>
    if generation < client.generation then some (client.enterClose transaction) else none
  | .closeAck transaction requestGeneration =>
    match (client.pending.get? transaction).bind Pending.result with
    | some (.ok _) => some ((client.popPending transaction).checkClosed requestGeneration)
    | some (.error _) => some (.failed, (client.popPending transaction).finishClose)
    | none => none
  | .closeProof requestGeneration generation =>
    if generation < client.generation then some (client.checkClosed requestGeneration) else none
  | .openAck transaction requestGeneration =>
    match (client.pending.get? transaction).bind Pending.result with
    | some (.ok acknowledgedAt) =>
      some ((client.popPending transaction).checkOpened requestGeneration acknowledgedAt)
    | some (.error _) => some (.failed, client.popPending transaction)
    | none => none
  | .openProof requestGeneration generation acknowledgedAt =>
    if generation < client.generation then
      some (client.checkOpened requestGeneration acknowledgedAt)
    else none

/-- A suspended request that times out, is cancelled or cannot be published. -/
def interrupt (client : Client) : Request → Client
  | .waitOnline _ _ => client
  | .closeAck transaction _ => (client.popPending transaction).finishClose
  | .closeProof _ _ => client.finishClose
  | .openAck transaction _ => client.popPending transaction
  | .openProof _ _ _ => client

/-- One step: the end of the setup, a message, or a request up to its next await. -/
inductive Step (decoder : Decoder) : Client → Event → Client → Prop
  | setup {client : Client} : client.subscribed = false →
      Step decoder client .setup
        { client with subscribed := true, setupGeneration := client.generation }
  | state (client : Client) (message : Message) (clock : Clock) :
      Step decoder client (.state message) (client.bridgeStateReceived decoder message clock)
  | info (client : Client) (message : Message) (clock : Clock) :
      Step decoder client (.info message clock) (client.bridgeInfoReceived decoder message clock)
  | response (client : Client) (message : Message) (clock : Clock) :
      Step decoder client (.response message) (client.joinResponseReceived decoder message clock)
  | openJoin {client next : Client} {event : Event} (seconds : ℤ) (transaction : Text)
      (clock : Clock) : client.openJoin seconds transaction clock = (event, next) →
      Step decoder client event next
  | closeJoin {client next : Client} {event : Event} (transaction : Text) :
      client.reconcileJoinClosed transaction = (event, next) → Step decoder client event next
  | resume {client next : Client} {event : Event} {before after : List Request}
    {request : Request} :
      client.requests = before ++ request :: after →
      { client with requests := before ++ after }.resume request = some (event, next) →
      Step decoder client event next
  | interrupt {client : Client} {before after : List Request} {request : Request} :
      client.requests = before ++ request :: after →
      Step decoder client .failed
        ({ client with requests := before ++ after }.interrupt request)

end Client

end TrueFamily.Mqtt
