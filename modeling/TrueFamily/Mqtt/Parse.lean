import TrueFamily.Runtime.Rooms

/-!
# Bridge payloads

The parsers of `bridge/state`, `bridge/info` and the permit-join response. The standard library
decodes texts: its `json.loads` returns a value, raises the error that the parsers turn into a
`BridgeEventError`, or raises something else (a number with too many digits, too deep a nesting).
Times are in microseconds.
-/

namespace TrueFamily.Mqtt

open JsonValue
open TrueFamily.Runtime (Data chars field HasFields)

/-- A parser returns a value, raises a `BridgeEventError`, or raises another exception. -/
inductive Parse (α : Type)
  | parsed (value : α)
  | rejected
  | raised
  deriving DecidableEq

/-- One parser after another. -/
def Parse.bind {α β : Type} (parse : Parse α) (next : α → Parse β) : Parse β :=
  match parse with
  | .parsed value => next value
  | .rejected => .rejected
  | .raised => .raised

inductive Payload
  | bytes (octets : List (Fin 256))
  | str (text : Text)
  | mapping (data : List (Text × Data))
  | other

/-- `bytes.decode("utf-8")` and `json.loads`, whose `JSONDecodeError` is `rejected`. -/
structure Decoder where
  decode : List (Fin 256) → Option Text
  loads : Text → Parse Data

/-- A message; `retain` is `none` where its metadata is no bool. -/
structure Message where
  payload : Payload
  retain : Option Bool

structure Clock where
  now : ℤ
  monotonic : ℤ

structure BridgePermitState where
  online : Bool
  onlineGeneration : ℕ
  generation : ℕ
  observedAt : ℤ
  permitJoin : Bool
  permitJoinEnd : Option ℤ
  retained : Bool
  initialRetained : Bool
  deriving DecidableEq

namespace Decoder

variable (decoder : Decoder)

/-- The object of a text. -/
def loadObject (text : Text) : Parse (List (Text × Data)) :=
  (decoder.loads text).bind fun
    | .obj data => .parsed data
    | _ => .rejected

/-- `_decode_object`. -/
def decodeObject : Payload → Parse (List (Text × Data))
  | .bytes octets =>
    match decoder.decode octets with
    | none => .rejected
    | some text => decoder.loadObject text
  | .str text => decoder.loadObject text
  | .mapping data => .parsed data
  | .other => .rejected

/-- `parse_bridge_state`: whether the bridge is online. -/
def parseBridgeState (payload : Payload) : Parse Bool :=
  (decoder.decodeObject payload).bind fun data =>
    if ¬ HasFields data ["state"] then .rejected
    else
      match field data "state" with
      | .str text =>
        if text = chars "online" then .parsed true
        else if text = chars "offline" then .parsed false
        else .rejected
      | _ => .rejected

def permitJoinEndClockSkew : ℤ := 5 * 1000000

def permitJoinEndMax : ℤ := 254 * 1000000

/-- `permit_join_end`, in seconds or milliseconds since 1970. -/
def permitJoinEnd (rawEnd : ℤ) : Option ℤ :=
  if 0 ≤ rawEnd ∧ rawEnd ≤ 253402300799 then some (rawEnd * 1000000)
  else if 1000000000000 ≤ rawEnd ∧ rawEnd ≤ 253402300799999 then some (rawEnd * 1000)
  else none

/-- `parse_bridge_info`: the permit state and its end. -/
def parseBridgeInfo (payload : Payload) (observedAt : ℤ) : Parse (Bool × Option ℤ) :=
  (decoder.decodeObject payload).bind fun data =>
    match field data "permit_join" with
    | .bool permitJoin =>
      match data.lookup (chars "permit_join_end") with
      | none => .parsed (permitJoin, none)
      | some (.int rawEnd) =>
        if permitJoin = false then .rejected
        else
          match permitJoinEnd rawEnd with
          | none => .rejected
          | some finish =>
            if -permitJoinEndClockSkew ≤ finish - observedAt
              ∧ finish - observedAt ≤ permitJoinEndMax + permitJoinEndClockSkew then
              .parsed (permitJoin, some finish)
            else .rejected
      | some _ => .rejected
    | _ => .rejected

end Decoder

/-- `_strict_message_retain`. -/
def strictMessageRetain (message : Message) : Parse Bool :=
  match message.retain with
  | some retain => .parsed retain
  | none => .rejected

/-- What the state callback reads of a message. -/
def readState (decoder : Decoder) (message : Message) : Parse Bool :=
  (strictMessageRetain message).bind fun _ => decoder.parseBridgeState message.payload

/-- What the info callback reads of a message: retained, the permit state and its end. -/
def readInfo (decoder : Decoder) (message : Message) (clock : Clock) :
    Parse (Bool × Bool × Option ℤ) :=
  (strictMessageRetain message).bind fun retained =>
    (decoder.parseBridgeInfo message.payload clock.now).bind fun parsed =>
      .parsed (retained, parsed)

end TrueFamily.Mqtt
