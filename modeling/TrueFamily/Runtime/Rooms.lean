import TrueFamily.Lib.Dict
import TrueFamily.Preflight.Texts

/-!
# Rooms and their bindings

The binding of a room, the room slots, and their form in the data of the config entry. A
`RoomBinding` passes the checks of its constructor. Every check raises a `ValueError`, here its
message.
-/

namespace TrueFamily.Runtime

open Checked JsonValue

abbrev Data := JsonValue Unit

/-- A function that may raise a `ValueError`. -/
abbrev Checks := Except String

/-! ## Bindings -/

/-- `str.isspace` of a character. -/
def isSpace (c : Char) : Bool :=
  decide ((9 ≤ c.toNat ∧ c.toNat ≤ 13) ∨ (28 ≤ c.toNat ∧ c.toNat ≤ 32) ∨ c.toNat = 0x85
    ∨ c.toNat = 0xa0 ∨ c.toNat = 0x1680 ∨ (0x2000 ≤ c.toNat ∧ c.toNat ≤ 0x200a)
    ∨ c.toNat = 0x2028 ∨ c.toNat = 0x2029 ∨ c.toNat = 0x202f ∨ c.toNat = 0x205f
    ∨ c.toNat = 0x3000)

/-- A text that is not empty and equals its `strip()`. -/
def isCanonical (text : Text) : Bool :=
  !text.isEmpty && !text.head?.any isSpace && !text.getLast?.any isSpace

/-- The characters of an ASCII literal. -/
def chars (literal : String) : Text := TrueFamily.Preflight.chars literal

/-- `IEEE_PATTERN.fullmatch`. -/
def ieeePattern : Text → Bool := TrueFamily.Preflight.ieeePattern

/-- The fields of a `RoomBinding`. -/
structure BindingFields where
  registryEntryId : Text
  climateEntityId : Text
  mqttUniqueId : Text
  deviceIdentifier : Text
  ieeeAddress : Text
  model : Text
  manufacturer : Text
  z2mFriendlyName : Text
  deriving DecidableEq

namespace BindingFields

/-- The fields by name, in the order in which `__post_init__` reads them. -/
def entries (fields : BindingFields) : List (String × Text) :=
  [("registry_entry_id", fields.registryEntryId), ("climate_entity_id", fields.climateEntityId),
    ("mqtt_unique_id", fields.mqttUniqueId), ("device_identifier", fields.deviceIdentifier),
    ("ieee_address", fields.ieeeAddress), ("model", fields.model),
    ("manufacturer", fields.manufacturer), ("z2m_friendly_name", fields.z2mFriendlyName)]

/-- `RoomBinding.__post_init__`. -/
def postInit (fields : BindingFields) : Checks Unit := do
  forAll (fun (entry : String × Text) => check (isCanonical entry.2 = true)
    s!"Binding field {entry.1} must be canonical text.") fields.entries
  check ((chars "climate.").isPrefixOf fields.climateEntityId = true)
    "A binding must reference a climate entity."
  check ((chars "climate.true_family_").isPrefixOf fields.climateEntityId = false)
    "A logical True Family valve cannot bind to itself."
  check (ieeePattern fields.ieeeAddress = true)
    "A binding must contain a normalized Zigbee IEEE address."
  check (fields.mqttUniqueId = fields.ieeeAddress ++ chars "_climate_zigbee2mqtt")
    "A binding MQTT unique ID must match its IEEE address."
  check (fields.deviceIdentifier = chars "zigbee2mqtt_" ++ fields.ieeeAddress)
    "A binding device identifier must match its IEEE address."

end BindingFields

/-- `RoomBinding`. -/
structure RoomBinding where
  fields : BindingFields
  valid : fields.postInit = .ok ()

instance : DecidableEq RoomBinding := fun first second =>
  decidable_of_iff (first.fields = second.fields) (by
    cases first
    cases second
    simp)

/-- `data[name]`, for a key that is known to be there. -/
def field (data : List (Text × Data)) (name : String) : Data :=
  (data.lookup (chars name)).getD .null

/-- `set(data) == set(names)`. -/
def HasFields (data : List (Text × Data)) (names : List String) : Prop :=
  (∀ entry ∈ data, ∃ name ∈ names, entry.1 = chars name)
    ∧ ∀ name ∈ names, ∃ entry ∈ data, entry.1 = chars name

instance (data : List (Text × Data)) (names : List String) : Decidable (HasFields data names) :=
  instDecidableAnd

namespace RoomBinding

def fieldNames : List String :=
  ["registry_entry_id", "climate_entity_id", "mqtt_unique_id", "device_identifier",
    "ieee_address", "model", "manufacturer", "z2m_friendly_name"]

/-- `as_dict`. -/
def asDict (binding : RoomBinding) : Data :=
  .obj (binding.fields.entries.map fun entry => (chars entry.1, .str entry.2))

/-- The constructor: a binding whose fields do not pass is not built. -/
def build (fields : BindingFields) : Checks RoomBinding :=
  match h : fields.postInit with
  | .ok () => .ok ⟨fields, h⟩
  | .error message => .error message

/-- A field of the constructor, which checks that it is a canonical text. -/
def readText (data : List (Text × Data)) (name : String) : Checks Text :=
  match field data name with
  | .str text => do
    check (isCanonical text = true) s!"Binding field {name} must be canonical text."
    return text
  | _ => .error s!"Binding field {name} must be canonical text."

/-- `from_dict`. -/
def fromDict : Data → Checks RoomBinding
  | .obj data => do
    check (HasFields data fieldNames) "A persisted binding has missing or unexpected fields."
    let registryEntryId ← readText data "registry_entry_id"
    let climateEntityId ← readText data "climate_entity_id"
    let mqttUniqueId ← readText data "mqtt_unique_id"
    let deviceIdentifier ← readText data "device_identifier"
    let ieeeAddress ← readText data "ieee_address"
    let model ← readText data "model"
    let manufacturer ← readText data "manufacturer"
    let z2mFriendlyName ← readText data "z2m_friendly_name"
    build ⟨registryEntryId, climateEntityId, mqttUniqueId, deviceIdentifier, ieeeAddress, model,
      manufacturer, z2mFriendlyName⟩
  | _ => .error "A persisted binding must be a mapping."

end RoomBinding

/-! ## Room slots -/

structure RoomSlot where
  roomId : Text
  displayName : Text
  allowedModels : List Text
  allowedManufacturers : List Text
  binding : Option RoomBinding
  previousBinding : Option RoomBinding
  bootstrapBinding : Option RoomBinding
  revision : ℤ
  deriving DecidableEq

/-- `None` or the data of an optional field. -/
def optional {α : Type} (toData : α → Data) (value : Option α) : Data :=
  (value.map toData).getD .null

/-- The bindings that a room reserves. -/
def RoomSlot.bindings (room : RoomSlot) : List RoomBinding :=
  [room.binding, room.previousBinding, room.bootstrapBinding].reduceOption

namespace RoomSlot

def fieldNames : List String :=
  ["room_id", "display_name", "allowed_models", "allowed_manufacturers", "binding",
    "previous_binding", "bootstrap_binding", "revision"]

/-- `__post_init__`. -/
def postInit (room : RoomSlot) : Checks Unit := do
  check (room.roomId ≠ [] ∧ room.displayName ≠ []) "Room ID and display name are required."
  check (room.allowedModels ≠ [] ∧ ∀ model ∈ room.allowedModels, model ≠ [])
    "At least one approved TRV model is required."
  check (room.allowedManufacturers ≠ []
    ∧ ∀ manufacturer ∈ room.allowedManufacturers, manufacturer ≠ [])
    "At least one approved TRV manufacturer is required."
  check (0 ≤ room.revision) "Room revision cannot be negative."

/-- `as_dict`. -/
def asDict (room : RoomSlot) : Data :=
  .obj
    [(chars "room_id", .str room.roomId), (chars "display_name", .str room.displayName),
      (chars "allowed_models", .arr (room.allowedModels.map .str)),
      (chars "allowed_manufacturers", .arr (room.allowedManufacturers.map .str)),
      (chars "binding", optional RoomBinding.asDict room.binding),
      (chars "previous_binding", optional RoomBinding.asDict room.previousBinding),
      (chars "bootstrap_binding", optional RoomBinding.asDict room.bootstrapBinding),
      (chars "revision", .int room.revision)]

/-- A text of a persisted room. -/
def readText (data : List (Text × Data)) (name : String) : Checks Text :=
  match field data name with
  | .str text => do
    check (text ≠ []) s!"Persisted room {name} must be text."
    return text
  | _ => .error s!"Persisted room {name} must be text."

/-- An item of a text list. -/
def readItem (name : String) : Data → Checks Text
  | .str text => do
    check (text ≠ []) s!"Persisted room {name} must be a text list."
    return text
  | _ => .error s!"Persisted room {name} must be a text list."

/-- A text list of a persisted room. -/
def readTexts (data : List (Text × Data)) (name : String) : Checks (List Text) :=
  match field data name with
  | .arr items => collect (readItem name) items
  | _ => .error s!"Persisted room {name} must be a text list."

/-- A binding of a persisted room. -/
def readBinding (data : List (Text × Data)) (name : String) : Checks (Option RoomBinding) :=
  match field data name with
  | .null => .ok none
  | value => do
    let binding ← RoomBinding.fromDict value
    return some binding

/-- `from_dict`. -/
def fromDict : Data → Checks RoomSlot
  | .obj data => do
    check (HasFields data fieldNames) "A persisted room has missing or unexpected fields."
    match field data "revision" with
    | .int revision => do
      let roomId ← readText data "room_id"
      let displayName ← readText data "display_name"
      let allowedModels ← readTexts data "allowed_models"
      let allowedManufacturers ← readTexts data "allowed_manufacturers"
      let binding ← readBinding data "binding"
      let previousBinding ← readBinding data "previous_binding"
      let bootstrapBinding ← readBinding data "bootstrap_binding"
      let room : RoomSlot := ⟨roomId, displayName, allowedModels, allowedManufacturers, binding,
        previousBinding, bootstrapBinding, revision⟩
      room.postInit
      return room
    | _ => .error "A persisted room revision must be an integer."
  | _ => .error "A persisted room must be a mapping."

end RoomSlot

/-! ## All rooms -/

/-- The IDs of `DEFAULT_ROOM_NAMES`. -/
def defaultRoomIds : List String :=
  ["living_room", "kitchen", "downstairs_bathroom", "guest_room", "our_bedroom", "clarks_room",
    "upstairs_bathroom"]

/-- `rooms_as_dict`. -/
def roomsAsDict (rooms : Dict Text RoomSlot) : Data :=
  .obj (rooms.entries.map fun entry => (entry.1, entry.2.asDict))

/-- The loop over the stored rooms. -/
def readRooms (rooms : Dict Text RoomSlot) : List (Text × Data) → Checks (Dict Text RoomSlot)
  | [] => .ok rooms
  | (storedRoomId, roomData) :: data => do
    let room ← RoomSlot.fromDict roomData
    check (room.roomId = storedRoomId) "Stored room ID does not match its room payload."
    check (rooms.get? room.roomId = none) "Duplicate room ID."
    readRooms (rooms.set room.roomId room) data

/-- `owners.setdefault(key, room_id)`, as the dictionary that it leaves. -/
def setDefault (owners : Dict Text Text) (key roomId : Text) : Dict Text Text :=
  if owners.get? key = none then owners.set key roomId else owners

/-- The loop over the bindings of the rooms, with the owners of registry entries and addresses. -/
def checkOwners (registryOwners ieeeOwners : Dict Text Text) :
    List (Text × RoomBinding) → Checks Unit
  | [] => .ok ()
  | (roomId, binding) :: bindings => do
    check ((∀ owner ∈ registryOwners.get? binding.fields.registryEntryId, owner = roomId)
      ∧ ∀ owner ∈ ieeeOwners.get? binding.fields.ieeeAddress, owner = roomId)
      "A physical valve is allocated to multiple rooms."
    checkOwners (setDefault registryOwners binding.fields.registryEntryId roomId)
      (setDefault ieeeOwners binding.fields.ieeeAddress roomId) bindings

/-- The bindings of the rooms, each with its room. -/
def allBindings (rooms : List RoomSlot) : List (Text × RoomBinding) :=
  rooms.flatMap fun room => room.bindings.map fun binding => (room.roomId, binding)

/-- `rooms_from_dict`. -/
def roomsFromDict : Data → Checks (Dict Text RoomSlot)
  | .obj data => do
    check (HasFields data defaultRoomIds)
      "Persisted rooms must match the canonical seven-room set."
    let rooms ← readRooms .empty data
    checkOwners .empty .empty (allBindings rooms.values)
    return rooms
  | _ => .error "Persisted rooms must match the canonical seven-room set."

end TrueFamily.Runtime
