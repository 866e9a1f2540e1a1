import TrueFamily.Transaction.Lifecycle
import TrueFamily.Transaction.Payload

/-!
# Fence acquisitions

The journal-before-acquisition intent, the two durable outcomes the host ledger can report for
it (an acknowledgement, or a tombstone for a dispatch that never arrived) and the record that
projects one acquisition operation. `postInit` is each class's `__post_init__`; `WellFormed`
names what it establishes.
-/

namespace TrueFamily.Transaction

open Checked

variable [DigestJson]

/-! ## Intents -/

/-- `FenceAcquisitionIntent`. -/
structure FenceAcquisitionIntent extends AcquisitionIntentFields where
  operationId : AcquireOperationId
  intentDigest : Digest
  deriving DecidableEq

namespace FenceAcquisitionIntent

def postInit (self : FenceAcquisitionIntent) : Except PyError Unit := do
  validatePlanBinding self.planId self.planDigest
  validatePositiveInteger self.attempt "Acquisition attempt"
  check (self.requestedAt < self.expiresAt)
    (.valueError "Acquisition expiry must follow its request.")
  let digest := digestJson (.acquisitionIntent self.toAcquisitionIntentFields)
  check (self.intentDigest = digest)
    (.valueError "Acquisition intent digest is not canonical.")
  check (self.operationId = ⟨digest.prefix24⟩)
    (.valueError "Acquisition operation ID is not canonical.")

/-- `FenceAcquisitionIntent.create`, before `__post_init__`. -/
def ofFields (values : AcquisitionIntentFields) : FenceAcquisitionIntent :=
  let digest := digestJson (.acquisitionIntent values)
  { values with operationId := ⟨digest.prefix24⟩, intentDigest := digest }

structure WellFormed (intent : FenceAcquisitionIntent) : Prop where
  planBinding : validatePlanBinding intent.planId intent.planDigest = .ok ()
  attempt_pos : 1 ≤ intent.attempt
  requested_lt_expires : intent.requestedAt < intent.expiresAt
  intentDigest_eq :
    intent.intentDigest = digestJson (.acquisitionIntent intent.toAcquisitionIntentFields)
  operationId_eq :
    intent.operationId
      = ⟨(digestJson (.acquisitionIntent intent.toAcquisitionIntentFields)).prefix24⟩

@[simp] theorem postInit_eq_ok {self : FenceAcquisitionIntent} :
    self.postInit = .ok () ↔ self.WellFormed := by
  simp only [postInit, validatePositiveInteger, bind_unit_eq_ok, check_eq_ok]
  constructor
  · rintro ⟨h1, h2, h3, h4, h5⟩
    exact ⟨h1, h2, h3, h4, h5⟩
  · rintro ⟨h1, h2, h3, h4, h5⟩
    exact ⟨h1, h2, h3, h4, h5⟩

end FenceAcquisitionIntent

/-! ## Bindings -/

namespace FenceBinding

def postInit (self : FenceBinding) : Except PyError Unit := do
  check (self.acquiredAt ≤ self.acquisitionDurableAt)
    (.valueError "Fence durability cannot predate acquisition.")
  check (self.acquiredAt < self.expiresAt)
    (.valueError "Fence expiry must follow acquisition.")

structure WellFormed (fence : FenceBinding) : Prop where
  acquired_le_durable : fence.acquiredAt ≤ fence.acquisitionDurableAt
  acquired_lt_expires : fence.acquiredAt < fence.expiresAt

omit [DigestJson] in
@[simp] theorem postInit_eq_ok {self : FenceBinding} :
    self.postInit = .ok () ↔ self.WellFormed := by
  simp only [postInit, bind_unit_eq_ok, check_eq_ok]
  constructor
  · rintro ⟨h1, h2⟩
    exact ⟨h1, h2⟩
  · rintro ⟨h1, h2⟩
    exact ⟨h1, h2⟩

end FenceBinding

/-! ## Receipts -/

/-- `FenceAcquisitionReceipt`. -/
structure FenceAcquisitionReceipt extends AcquisitionReceiptFields where
  receiptId : ReceiptId
  receiptDigest : Digest
  deriving DecidableEq

namespace FenceAcquisitionReceipt

def postInit (self : FenceAcquisitionReceipt) : Except PyError Unit := do
  check (sameRevision self.expectedInventoryRevision self.acquiredInventoryRevision)
    (.valueError "Fence acquisition changed the inventory revision.")
  check (self.acquiredAt ≤ self.acknowledgedAt ∧ self.acknowledgedAt < self.expiresAt
      ∧ self.acknowledgedAt ≤ self.durableAt)
    (.valueError "Acquisition receipt timestamps are inconsistent.")
  let expected := receiptIdentity (.fenceAcquisition self.toAcquisitionReceiptFields)
  check (self.receiptId = expected.1 ∧ self.receiptDigest = expected.2)
    (.valueError "Acquisition receipt identity is not canonical.")

/-- The fence that this receipt establishes, `FenceAcquisitionReceipt.binding`. -/
def binding (self : FenceAcquisitionReceipt) : FenceBinding where
  provider := self.provider
  writerId := self.writerId
  tokenDigest := self.tokenDigest
  epoch := self.epoch
  fenceRevision := self.fenceRevision
  baseRevision := self.acquiredInventoryRevision
  scopeDigest := self.scopeDigest
  acquiredAt := self.acquiredAt
  acquisitionDurableAt := self.durableAt
  expiresAt := self.expiresAt
  acquisitionOperationId := self.operationId
  acquisitionReceiptId := self.receiptId
  acquisitionReceiptDigest := self.receiptDigest

/-- `FenceAcquisitionReceipt.create`, before `__post_init__` and `validate_for`. -/
def ofFields (values : AcquisitionReceiptFields) : FenceAcquisitionReceipt :=
  let identity := receiptIdentity (.fenceAcquisition values)
  { values with receiptId := identity.1, receiptDigest := identity.2 }

structure WellFormed (receipt : FenceAcquisitionReceipt) : Prop where
  inventory_eq : receipt.expectedInventoryRevision = receipt.acquiredInventoryRevision
  acquired_le_acknowledged : receipt.acquiredAt ≤ receipt.acknowledgedAt
  acknowledged_lt_expires : receipt.acknowledgedAt < receipt.expiresAt
  acknowledged_le_durable : receipt.acknowledgedAt ≤ receipt.durableAt
  identity_eq : (receipt.receiptId, receipt.receiptDigest)
    = receiptIdentity (.fenceAcquisition receipt.toAcquisitionReceiptFields)

@[simp] theorem postInit_eq_ok {self : FenceAcquisitionReceipt} :
    self.postInit = .ok () ↔ self.WellFormed := by
  simp only [postInit, bind_unit_eq_ok, check_eq_ok, sameRevision_iff]
  constructor
  · rintro ⟨h1, ⟨h2, h3, h4⟩, h5, h6⟩
    exact ⟨h1, h2, h3, h4, Prod.ext h5 h6⟩
  · rintro ⟨h1, h2, h3, h4, h5⟩
    exact ⟨h1, ⟨h2, h3, h4⟩, congrArg Prod.fst h5, congrArg Prod.snd h5⟩

/-- Building the binding of a well-formed receipt never raises. -/
theorem WellFormed.binding {self : FenceAcquisitionReceipt} (h : self.WellFormed) :
    self.binding.WellFormed where
  acquired_le_durable := le_trans h.acquired_le_acknowledged h.acknowledged_le_durable
  acquired_lt_expires := lt_of_le_of_lt h.acquired_le_acknowledged h.acknowledged_lt_expires

end FenceAcquisitionReceipt

/-- `FenceAcquisitionNoEffectReceipt`, the tombstone of an acquisition. -/
structure FenceAcquisitionNoEffectReceipt extends AcquisitionNoEffectFields where
  receiptId : ReceiptId
  receiptDigest : Digest
  deriving DecidableEq

namespace FenceAcquisitionNoEffectReceipt

def postInit (self : FenceAcquisitionNoEffectReceipt) : Except PyError Unit := do
  check (self.outcome = .noEffect)
    (.valueError "Acquisition tombstone outcome must be no-effect.")
  check (self.evidence = .operationLedger)
    (.valueError "Acquisition tombstone requires operation-ledger evidence.")
  check (self.durable = true)
    (.valueError "Acquisition tombstone must be durably persisted.")
  check (self.acknowledgedAt ≤ self.durableAt)
    (.valueError "Acquisition tombstone durability predates acknowledgement.")
  let expected := receiptIdentity (.fenceAcquisitionNoEffect self.toAcquisitionNoEffectFields)
  check (self.receiptId = expected.1 ∧ self.receiptDigest = expected.2)
    (.valueError "Acquisition tombstone identity is not canonical.")

/-- `FenceAcquisitionNoEffectReceipt.create`, before `__post_init__` and `validate_for`. -/
def ofFields (values : AcquisitionNoEffectFields) : FenceAcquisitionNoEffectReceipt :=
  let identity := receiptIdentity (.fenceAcquisitionNoEffect values)
  { values with receiptId := identity.1, receiptDigest := identity.2 }

structure WellFormed (receipt : FenceAcquisitionNoEffectReceipt) : Prop where
  outcome_eq : receipt.outcome = .noEffect
  evidence_eq : receipt.evidence = .operationLedger
  durable_eq : receipt.durable = true
  acknowledged_le_durable : receipt.acknowledgedAt ≤ receipt.durableAt
  identity_eq : (receipt.receiptId, receipt.receiptDigest)
    = receiptIdentity (.fenceAcquisitionNoEffect receipt.toAcquisitionNoEffectFields)

@[simp] theorem postInit_eq_ok {self : FenceAcquisitionNoEffectReceipt} :
    self.postInit = .ok () ↔ self.WellFormed := by
  simp only [postInit, bind_unit_eq_ok, check_eq_ok]
  constructor
  · rintro ⟨h1, h2, h3, h4, h5, h6⟩
    exact ⟨h1, h2, h3, h4, Prod.ext h5 h6⟩
  · rintro ⟨h1, h2, h3, h4, h5⟩
    exact ⟨h1, h2, h3, h4, congrArg Prod.fst h5, congrArg Prod.snd h5⟩

end FenceAcquisitionNoEffectReceipt

/-! ## Binding a receipt to its intent -/

/-- `_validate_acquisition_receipt_binding`. -/
def validateAcquisitionReceiptBinding (receipt : FenceAcquisitionReceipt)
    (intent : FenceAcquisitionIntent) : Except PyError Unit := do
  intent.postInit
  receipt.postInit
  check (receipt.operationId = intent.operationId
      ∧ receipt.intentDigest = intent.intentDigest
      ∧ receipt.provider = intent.provider
      ∧ receipt.writerId = intent.writerId
      ∧ sameRevision receipt.expectedInventoryRevision intent.expectedInventoryRevision
      ∧ receipt.scopeDigest = intent.scopeDigest
      ∧ receipt.epoch = intent.epoch
      ∧ receipt.expiresAt = intent.expiresAt)
    (.valueError "Acquisition receipt does not match its intent.")
  check (intent.requestedAt ≤ receipt.acquiredAt
      ∧ receipt.acquiredAt ≤ receipt.acknowledgedAt
      ∧ receipt.acknowledgedAt < intent.expiresAt
      ∧ receipt.acknowledgedAt ≤ receipt.durableAt)
    (.valueError "Acquisition receipt timing is not authoritative.")

structure FenceAcquisitionReceipt.ValidFor (receipt : FenceAcquisitionReceipt)
    (intent : FenceAcquisitionIntent) : Prop where
  intent_wf : intent.WellFormed
  receipt_wf : receipt.WellFormed
  operationId_eq : receipt.operationId = intent.operationId
  intentDigest_eq : receipt.intentDigest = intent.intentDigest
  provider_eq : receipt.provider = intent.provider
  writerId_eq : receipt.writerId = intent.writerId
  expectedInventoryRevision_eq :
    receipt.expectedInventoryRevision = intent.expectedInventoryRevision
  scopeDigest_eq : receipt.scopeDigest = intent.scopeDigest
  epoch_eq : receipt.epoch = intent.epoch
  expiresAt_eq : receipt.expiresAt = intent.expiresAt
  requested_le_acquired : intent.requestedAt ≤ receipt.acquiredAt

@[simp] theorem validateAcquisitionReceiptBinding_eq_ok {receipt : FenceAcquisitionReceipt}
    {intent : FenceAcquisitionIntent} :
    validateAcquisitionReceiptBinding receipt intent = .ok () ↔ receipt.ValidFor intent := by
  simp only [validateAcquisitionReceiptBinding, bind_unit_eq_ok, check_eq_ok, sameRevision_iff,
    FenceAcquisitionIntent.postInit_eq_ok, FenceAcquisitionReceipt.postInit_eq_ok]
  constructor
  · rintro ⟨hi, hr, ⟨h1, h2, h3, h4, h5, h6, h7, h8⟩, h9, -⟩
    exact ⟨hi, hr, h1, h2, h3, h4, h5, h6, h7, h8, h9⟩
  · rintro ⟨hi, hr, h1, h2, h3, h4, h5, h6, h7, h8, h9⟩
    exact ⟨hi, hr, ⟨h1, h2, h3, h4, h5, h6, h7, h8⟩, h9, hr.acquired_le_acknowledged,
      h8 ▸ hr.acknowledged_lt_expires, hr.acknowledged_le_durable⟩

/-- `_validate_acquisition_no_effect_binding`. -/
def validateAcquisitionNoEffectBinding (receipt : FenceAcquisitionNoEffectReceipt)
    (intent : FenceAcquisitionIntent) : Except PyError Unit := do
  intent.postInit
  receipt.postInit
  check (receipt.operationId = intent.operationId
      ∧ receipt.intentDigest = intent.intentDigest
      ∧ receipt.provider = intent.provider
      ∧ receipt.writerId = intent.writerId
      ∧ sameRevision receipt.expectedInventoryRevision intent.expectedInventoryRevision
      ∧ receipt.scopeDigest = intent.scopeDigest
      ∧ receipt.epoch = intent.epoch)
    (.valueError "Acquisition tombstone does not match its full intent.")
  check (intent.expiresAt ≤ receipt.acknowledgedAt ∧ receipt.acknowledgedAt ≤ receipt.durableAt)
    (.valueError "Acquisition tombstone requires authoritative post-expiry durability.")

structure FenceAcquisitionNoEffectReceipt.ValidFor (receipt : FenceAcquisitionNoEffectReceipt)
    (intent : FenceAcquisitionIntent) : Prop where
  intent_wf : intent.WellFormed
  receipt_wf : receipt.WellFormed
  operationId_eq : receipt.operationId = intent.operationId
  intentDigest_eq : receipt.intentDigest = intent.intentDigest
  provider_eq : receipt.provider = intent.provider
  writerId_eq : receipt.writerId = intent.writerId
  expectedInventoryRevision_eq :
    receipt.expectedInventoryRevision = intent.expectedInventoryRevision
  scopeDigest_eq : receipt.scopeDigest = intent.scopeDigest
  epoch_eq : receipt.epoch = intent.epoch
  expires_le_acknowledged : intent.expiresAt ≤ receipt.acknowledgedAt

@[simp] theorem validateAcquisitionNoEffectBinding_eq_ok
    {receipt : FenceAcquisitionNoEffectReceipt} {intent : FenceAcquisitionIntent} :
    validateAcquisitionNoEffectBinding receipt intent = .ok () ↔ receipt.ValidFor intent := by
  simp only [validateAcquisitionNoEffectBinding, bind_unit_eq_ok, check_eq_ok, sameRevision_iff,
    FenceAcquisitionIntent.postInit_eq_ok, FenceAcquisitionNoEffectReceipt.postInit_eq_ok]
  constructor
  · rintro ⟨hi, hr, ⟨h1, h2, h3, h4, h5, h6, h7⟩, h8, -⟩
    exact ⟨hi, hr, h1, h2, h3, h4, h5, h6, h7, h8⟩
  · rintro ⟨hi, hr, h1, h2, h3, h4, h5, h6, h7, h8⟩
    exact ⟨hi, hr, ⟨h1, h2, h3, h4, h5, h6, h7⟩, h8, hr.acknowledged_le_durable⟩

/-! ## Records -/

/-- `FenceAcquisitionReceipt | FenceAcquisitionNoEffectReceipt`. -/
abbrev AcquisitionLifecycleReceipt :=
  LifecycleReceipt FenceAcquisitionReceipt FenceAcquisitionNoEffectReceipt

/-- `FenceAcquisitionRecord`. -/
abbrev FenceAcquisitionRecord :=
  LifecycleRecord FenceAcquisitionIntent FenceAcquisitionReceipt FenceAcquisitionNoEffectReceipt

namespace AcquisitionLifecycleReceipt

def operationId : AcquisitionLifecycleReceipt → AcquireOperationId
  | .applied receipt => receipt.operationId
  | .noEffect receipt => receipt.operationId

def receiptId : AcquisitionLifecycleReceipt → ReceiptId
  | .applied receipt => receipt.receiptId
  | .noEffect receipt => receipt.receiptId

/-- `_require_acquisition_lifecycle_receipt`. -/
def postInit : AcquisitionLifecycleReceipt → Except PyError Unit
  | .applied receipt => receipt.postInit
  | .noEffect receipt => receipt.postInit

def validateFor (self : AcquisitionLifecycleReceipt) (intent : FenceAcquisitionIntent) :
    Except PyError Unit :=
  match self with
  | .applied receipt => validateAcquisitionReceiptBinding receipt intent
  | .noEffect receipt => validateAcquisitionNoEffectBinding receipt intent

end AcquisitionLifecycleReceipt

instance : LifecycleOperation FenceAcquisitionIntent FenceAcquisitionReceipt
    FenceAcquisitionNoEffectReceipt where
  noun := "acquisition"
  title := "Acquisition"
  requireIntent := FenceAcquisitionIntent.postInit
  requireReceipt := AcquisitionLifecycleReceipt.postInit
  validateFor := AcquisitionLifecycleReceipt.validateFor
  requireReceipt_of_validateFor := by
    rintro (receipt | receipt) intent h
    · exact FenceAcquisitionReceipt.postInit_eq_ok.2
        (validateAcquisitionReceiptBinding_eq_ok.1 h).receipt_wf
    · exact FenceAcquisitionNoEffectReceipt.postInit_eq_ok.2
        (validateAcquisitionNoEffectBinding_eq_ok.1 h).receipt_wf

namespace AcquisitionRecord

/-- The receipt ID of a record that has a receipt. -/
def receiptId? (record : FenceAcquisitionRecord) : Option ReceiptId :=
  record.receipt.map AcquisitionLifecycleReceipt.receiptId

theorem applied_valid {record : FenceAcquisitionRecord} {receipt : FenceAcquisitionReceipt}
    (h : record.WellFormed) (hr : record.receipt = some (.applied receipt)) :
    receipt.ValidFor record.intent :=
  validateAcquisitionReceiptBinding_eq_ok.1 (h.receipt_ok _ hr)

theorem intent_wf {record : FenceAcquisitionRecord} (h : record.WellFormed) :
    record.intent.WellFormed :=
  FenceAcquisitionIntent.postInit_eq_ok.1 h.intent_ok

end AcquisitionRecord

end TrueFamily.Transaction
