import TrueFamily.Transaction.Values

/-!
# Lifecycle records

`FenceAcquisitionRecord` and `FenceReleaseRecord` are one state machine over two kinds of
intent: recorded, armed for dispatch, and then acknowledged, tombstoned or blocked. Their
validators and transition methods differ only in the noun of their messages, so both are this
record at their own intent and receipt types.
-/

namespace TrueFamily.Transaction

open Checked

/-- The receipt of a lifecycle operation: an acknowledgement or a tombstone. -/
inductive LifecycleReceipt (α ν : Type)
  | applied (receipt : α)
  | noEffect (receipt : ν)
  deriving DecidableEq

/-- The current durable projection of one lifecycle operation. -/
structure LifecycleRecord (ι α ν : Type) where
  intent : ι
  state : FenceLifecycleState
  receipt : Option (LifecycleReceipt α ν) := none
  reasonCode : Option BridgeBlockReason := none
  blockedFrom : Option FenceLifecycleState := none
  deriving DecidableEq

/-- What a kind of lifecycle operation supplies: its noun, in both cases, the validator of its
intents, and the validator of a receipt against an intent. -/
class LifecycleOperation (ι : Type) (α ν : outParam Type) where
  noun : String
  title : String
  requireIntent : ι → Except PyError Unit
  requireReceipt : LifecycleReceipt α ν → Except PyError Unit
  validateFor : LifecycleReceipt α ν → ι → Except PyError Unit
  requireReceipt_of_validateFor :
    ∀ receipt intent, validateFor receipt intent = .ok () → requireReceipt receipt = .ok ()

/-- `record.blocked_from in {INTENT_RECORDED, DISPATCH_ARMED}`. -/
def BlockableFrom (blockedFrom : Option FenceLifecycleState) : Prop :=
  blockedFrom = some .intentRecorded ∨ blockedFrom = some .dispatchArmed

instance (blockedFrom : Option FenceLifecycleState) : Decidable (BlockableFrom blockedFrom) := by
  unfold BlockableFrom; infer_instance

namespace LifecycleRecord

variable {ι α ν : Type} [LifecycleOperation ι α ν]

/-- `isinstance(record.receipt, ...Receipt)`. -/
def appliedReceipt? (self : LifecycleRecord ι α ν) : Option α :=
  match self.receipt with
  | some (.applied receipt) => some receipt
  | _ => none

/-- `isinstance(record.receipt, ...NoEffectReceipt)`. -/
def noEffectReceipt? (self : LifecycleRecord ι α ν) : Option ν :=
  match self.receipt with
  | some (.noEffect receipt) => some receipt
  | _ => none

/-- The receipt of a record whose state is `ACKNOWLEDGED`. -/
def acknowledged? (self : LifecycleRecord ι α ν) : Option α :=
  if self.state = .acknowledged then self.appliedReceipt? else none

/-- The tombstone of a record whose state is `NO_EFFECT`. -/
def tombstone? (self : LifecycleRecord ι α ν) : Option ν :=
  if self.state = .noEffect then self.noEffectReceipt? else none

/-- The evidence that a lifecycle record validator requires in each state. -/
def validateEvidence (self : LifecycleRecord ι α ν) : Except PyError Unit :=
  match self.state with
  | .intentRecorded | .dispatchArmed =>
    check (self.receipt.isNone ∧ self.reasonCode = none ∧ self.blockedFrom = none)
      (.valueError ("Pre-ack " ++ LifecycleOperation.noun ι ++ " contains later evidence."))
  | .acknowledged =>
    check (self.appliedReceipt?.isSome ∧ self.reasonCode = none ∧ self.blockedFrom = none)
      (.valueError ("Acknowledged " ++ LifecycleOperation.noun ι
        ++ " requires only its receipt."))
  | .noEffect =>
    check (self.noEffectReceipt?.isSome ∧ self.reasonCode = none ∧ self.blockedFrom = none)
      (.valueError ("No-effect " ++ LifecycleOperation.noun ι
        ++ " requires only its tombstone."))
  | .blocked =>
    check (self.receipt.isNone ∧ self.reasonCode ≠ none ∧ BlockableFrom self.blockedFrom)
      (.valueError ("Blocked " ++ LifecycleOperation.noun ι ++ " lacks exact source state."))

/-- `_validate_acquisition_record`, `_validate_release_record`. -/
def postInit (self : LifecycleRecord ι α ν) : Except PyError Unit := do
  LifecycleOperation.requireIntent self.intent
  forAll (fun receipt => do
    LifecycleOperation.requireReceipt (ι := ι) receipt
    LifecycleOperation.validateFor receipt self.intent) self.receipt.toList
  self.validateEvidence

/-- `recorded`, before `__post_init__`. -/
def recorded (intent : ι) : LifecycleRecord ι α ν :=
  { intent, state := .intentRecorded }

/-- `arm`. -/
def arm (self : LifecycleRecord ι α ν) : Except PyError (LifecycleRecord ι α ν) := do
  check (self.state = .intentRecorded)
    (.transitionError (LifecycleOperation.title ι ++ " cannot be armed."))
  let updated := { self with state := .dispatchArmed }
  updated.postInit
  return updated

/-- The state an acknowledgement leads to. -/
def stateOf : LifecycleReceipt α ν → FenceLifecycleState
  | .applied _ => .acknowledged
  | .noEffect _ => .noEffect

/-- `acknowledge`. -/
def acknowledge (self : LifecycleRecord ι α ν) (receipt : LifecycleReceipt α ν) :
    Except PyError (LifecycleRecord ι α ν) := do
  check (self.state = .dispatchArmed)
    (.transitionError (LifecycleOperation.title ι ++ " cannot be acknowledged."))
  let updated := { self with state := stateOf receipt, receipt := some receipt }
  updated.postInit
  return updated

/-- `block`. -/
def block (self : LifecycleRecord ι α ν) (reasonCode : BridgeBlockReason) :
    Except PyError (LifecycleRecord ι α ν) := do
  check (self.state = .intentRecorded ∨ self.state = .dispatchArmed)
    (.transitionError (LifecycleOperation.title ι ++ " cannot be blocked."))
  let updated :=
    { self with state := .blocked, reasonCode := some reasonCode, blockedFrom := some self.state }
  updated.postInit
  return updated

/-! ## What a valid record holds -/

/-- What the fields beside the state hold in each state. -/
def Evidence (record : LifecycleRecord ι α ν) : Prop :=
  match record.state with
  | .intentRecorded | .dispatchArmed =>
    record.receipt = none ∧ record.reasonCode = none ∧ record.blockedFrom = none
  | .acknowledged =>
    (∃ receipt, record.receipt = some (.applied receipt))
      ∧ record.reasonCode = none ∧ record.blockedFrom = none
  | .noEffect =>
    (∃ receipt, record.receipt = some (.noEffect receipt))
      ∧ record.reasonCode = none ∧ record.blockedFrom = none
  | .blocked =>
    record.receipt = none ∧ record.reasonCode ≠ none ∧ BlockableFrom record.blockedFrom

structure WellFormed (record : LifecycleRecord ι α ν) : Prop where
  intent_ok : LifecycleOperation.requireIntent record.intent = .ok ()
  receipt_ok : ∀ receipt, record.receipt = some receipt →
    LifecycleOperation.validateFor receipt record.intent = .ok ()
  evidence : record.Evidence

omit [LifecycleOperation ι α ν] in
@[simp] theorem appliedReceipt?_eq_some {self : LifecycleRecord ι α ν} {receipt : α} :
    self.appliedReceipt? = some receipt ↔ self.receipt = some (.applied receipt) := by
  unfold appliedReceipt?
  split <;> simp_all

omit [LifecycleOperation ι α ν] in
@[simp] theorem noEffectReceipt?_eq_some {self : LifecycleRecord ι α ν} {receipt : ν} :
    self.noEffectReceipt? = some receipt ↔ self.receipt = some (.noEffect receipt) := by
  unfold noEffectReceipt?
  split <;> simp_all

omit [LifecycleOperation ι α ν] in
@[simp] theorem acknowledged?_eq_some {self : LifecycleRecord ι α ν} {receipt : α} :
    self.acknowledged? = some receipt ↔
      self.state = .acknowledged ∧ self.receipt = some (.applied receipt) := by
  unfold acknowledged?
  split <;> simp_all

omit [LifecycleOperation ι α ν] in
@[simp] theorem tombstone?_eq_some {self : LifecycleRecord ι α ν} {receipt : ν} :
    self.tombstone? = some receipt ↔
      self.state = .noEffect ∧ self.receipt = some (.noEffect receipt) := by
  unfold tombstone?
  split <;> simp_all

theorem validateEvidence_eq_ok {self : LifecycleRecord ι α ν} :
    self.validateEvidence = .ok () ↔ self.Evidence := by
  unfold validateEvidence Evidence
  cases self.state <;> simp [Option.isSome_iff_exists]

@[simp] theorem postInit_eq_ok {self : LifecycleRecord ι α ν} :
    self.postInit = .ok () ↔ self.WellFormed := by
  simp only [postInit, bind_unit_eq_ok, forAll_eq_ok, Option.mem_toList, validateEvidence_eq_ok]
  constructor
  · rintro ⟨h1, h2, h3⟩
    exact ⟨h1, fun receipt h => (h2 receipt h).2, h3⟩
  · rintro ⟨h1, h2, h3⟩
    refine ⟨h1, fun receipt h => ?_, h3⟩
    exact ⟨LifecycleOperation.requireReceipt_of_validateFor _ _ (h2 receipt h), h2 receipt h⟩

/-! ## Transitions -/

/-- The transitions that the three methods allow. -/
inductive Transition : LifecycleRecord ι α ν → LifecycleRecord ι α ν → Prop
  | arm {record : LifecycleRecord ι α ν} : record.state = .intentRecorded →
      Transition record { record with state := .dispatchArmed }
  | acknowledge {record : LifecycleRecord ι α ν} {receipt : LifecycleReceipt α ν} :
      record.state = .dispatchArmed →
      Transition record { record with state := stateOf receipt, receipt := some receipt }
  | block {record : LifecycleRecord ι α ν} {reasonCode : BridgeBlockReason} :
      record.state = .intentRecorded ∨ record.state = .dispatchArmed →
      Transition record
        { record with
          state := .blocked, reasonCode := some reasonCode, blockedFrom := some record.state }

theorem arm_eq_ok {self updated : LifecycleRecord ι α ν} :
    self.arm = .ok updated ↔ self.state = .intentRecorded
      ∧ ({ self with state := .dispatchArmed } : LifecycleRecord ι α ν).WellFormed
      ∧ updated = { self with state := .dispatchArmed } := by
  simp only [arm, bind_unit_eq_ok, check_eq_ok, postInit_eq_ok, pure_eq_ok]

theorem acknowledge_eq_ok {self updated : LifecycleRecord ι α ν}
    {receipt : LifecycleReceipt α ν} :
    self.acknowledge receipt = .ok updated ↔ self.state = .dispatchArmed
      ∧ ({ self with state := stateOf receipt, receipt := some receipt } :
          LifecycleRecord ι α ν).WellFormed
      ∧ updated = { self with state := stateOf receipt, receipt := some receipt } := by
  simp only [acknowledge, bind_unit_eq_ok, check_eq_ok, postInit_eq_ok, pure_eq_ok]

theorem block_eq_ok {self updated : LifecycleRecord ι α ν} {reasonCode : BridgeBlockReason} :
    self.block reasonCode = .ok updated ↔
      (self.state = .intentRecorded ∨ self.state = .dispatchArmed)
      ∧ ({ self with
            state := .blocked, reasonCode := some reasonCode, blockedFrom := some self.state } :
          LifecycleRecord ι α ν).WellFormed
      ∧ updated = { self with
          state := .blocked, reasonCode := some reasonCode, blockedFrom := some self.state } := by
  simp only [block, bind_unit_eq_ok, check_eq_ok, postInit_eq_ok, pure_eq_ok]

end LifecycleRecord

end TrueFamily.Transaction
