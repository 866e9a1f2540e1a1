import TrueFamily.Transaction.Acquisition

/-!
# Fence releases

The journal-before-release intent of one acquired fence, the acknowledgement or tombstone of
its dispatch, and the record of one release operation. A release intent copies the identity of
the fence from the acquisition receipt; `validateReleaseIntentAcquisition` compares the copies.
-/

namespace TrueFamily.Transaction

open Checked

variable [DigestJson]

/-! ## Intents -/

/-- `FenceReleaseIntent`. -/
structure FenceReleaseIntent extends ReleaseIntentFields where
  operationId : ReleaseOperationId
  intentDigest : Digest
  deriving DecidableEq

namespace FenceReleaseIntent

def postInit (self : FenceReleaseIntent) : Except PyError Unit := do
  validatePlanBinding self.planId self.planDigest
  validatePositiveInteger self.attempt "Release attempt"
  validatePositiveInteger self.releaseAttempt "Release dispatch attempt"
  let digest := digestJson (.releaseIntent self.toReleaseIntentFields)
  check (self.intentDigest = digest) (.valueError "Release intent digest is not canonical.")
  check (self.operationId = ⟨digest.prefix24⟩)
    (.valueError "Release operation ID is not canonical.")

/-- `FenceReleaseIntent.create`, before `__post_init__`. -/
def ofFields (values : ReleaseIntentFields) : FenceReleaseIntent :=
  let digest := digestJson (.releaseIntent values)
  { values with operationId := ⟨digest.prefix24⟩, intentDigest := digest }

structure WellFormed (intent : FenceReleaseIntent) : Prop where
  planBinding : validatePlanBinding intent.planId intent.planDigest = .ok ()
  attempt_pos : 1 ≤ intent.attempt
  releaseAttempt_pos : 1 ≤ intent.releaseAttempt
  intentDigest_eq : intent.intentDigest = digestJson (.releaseIntent intent.toReleaseIntentFields)
  operationId_eq : intent.operationId
    = ⟨(digestJson (.releaseIntent intent.toReleaseIntentFields)).prefix24⟩

@[simp] theorem postInit_eq_ok {self : FenceReleaseIntent} :
    self.postInit = .ok () ↔ self.WellFormed := by
  simp only [postInit, validatePositiveInteger, bind_unit_eq_ok, check_eq_ok]
  constructor
  · rintro ⟨h1, h2, h3, h4, h5⟩
    exact ⟨h1, h2, h3, h4, h5⟩
  · rintro ⟨h1, h2, h3, h4, h5⟩
    exact ⟨h1, h2, h3, h4, h5⟩

end FenceReleaseIntent

/-! ## Receipts -/

/-- `FenceReleaseReceipt`. -/
structure FenceReleaseReceipt extends ReleaseReceiptFields where
  receiptId : ReceiptId
  receiptDigest : Digest
  deriving DecidableEq

namespace FenceReleaseReceipt

def postInit (self : FenceReleaseReceipt) : Except PyError Unit := do
  validatePositiveInteger self.releaseAttempt "Release receipt dispatch attempt"
  check (sameRevision self.expectedInventoryRevision self.finalInventoryRevision)
    (.valueError "Fence release changed the inventory revision.")
  check (self.releasedAt ≤ self.acknowledgedAt ∧ self.acknowledgedAt ≤ self.durableAt)
    (.valueError "Release receipt timestamps are inconsistent.")
  let expected := receiptIdentity (.fenceRelease self.toReleaseReceiptFields)
  check (self.receiptId = expected.1 ∧ self.receiptDigest = expected.2)
    (.valueError "Release receipt identity is not canonical.")

/-- `FenceReleaseReceipt.create`, before `__post_init__` and `validate_for`. -/
def ofFields (values : ReleaseReceiptFields) : FenceReleaseReceipt :=
  let identity := receiptIdentity (.fenceRelease values)
  { values with receiptId := identity.1, receiptDigest := identity.2 }

structure WellFormed (receipt : FenceReleaseReceipt) : Prop where
  releaseAttempt_pos : 1 ≤ receipt.releaseAttempt
  inventory_eq : receipt.expectedInventoryRevision = receipt.finalInventoryRevision
  released_le_acknowledged : receipt.releasedAt ≤ receipt.acknowledgedAt
  acknowledged_le_durable : receipt.acknowledgedAt ≤ receipt.durableAt
  identity_eq : (receipt.receiptId, receipt.receiptDigest)
    = receiptIdentity (.fenceRelease receipt.toReleaseReceiptFields)

@[simp] theorem postInit_eq_ok {self : FenceReleaseReceipt} :
    self.postInit = .ok () ↔ self.WellFormed := by
  simp only [postInit, validatePositiveInteger, bind_unit_eq_ok, check_eq_ok, sameRevision_iff]
  constructor
  · rintro ⟨h1, h2, ⟨h3, h4⟩, h5, h6⟩
    exact ⟨h1, h2, h3, h4, Prod.ext h5 h6⟩
  · rintro ⟨h1, h2, h3, h4, h5⟩
    exact ⟨h1, h2, ⟨h3, h4⟩, congrArg Prod.fst h5, congrArg Prod.snd h5⟩

end FenceReleaseReceipt

/-- `FenceReleaseNoEffectReceipt`, the tombstone of a release dispatch. -/
structure FenceReleaseNoEffectReceipt extends ReleaseNoEffectFields where
  receiptId : ReceiptId
  receiptDigest : Digest
  deriving DecidableEq

namespace FenceReleaseNoEffectReceipt

def postInit (self : FenceReleaseNoEffectReceipt) : Except PyError Unit := do
  validatePositiveInteger self.releaseAttempt "Release tombstone dispatch attempt"
  check (self.outcome = .noEffect)
    (.valueError "Release tombstone outcome must be no-effect.")
  check (self.evidence = .operationLedger)
    (.valueError "Release tombstone requires operation-ledger evidence.")
  check (self.durable = true) (.valueError "Release tombstone must be durably persisted.")
  check (self.acknowledgedAt ≤ self.durableAt)
    (.valueError "Release tombstone durability predates acknowledgement.")
  let expected := receiptIdentity (.fenceReleaseNoEffect self.toReleaseNoEffectFields)
  check (self.receiptId = expected.1 ∧ self.receiptDigest = expected.2)
    (.valueError "Release tombstone identity is not canonical.")

/-- `FenceReleaseNoEffectReceipt.create`, before `__post_init__` and `validate_for`. -/
def ofFields (values : ReleaseNoEffectFields) : FenceReleaseNoEffectReceipt :=
  let identity := receiptIdentity (.fenceReleaseNoEffect values)
  { values with receiptId := identity.1, receiptDigest := identity.2 }

structure WellFormed (receipt : FenceReleaseNoEffectReceipt) : Prop where
  releaseAttempt_pos : 1 ≤ receipt.releaseAttempt
  outcome_eq : receipt.outcome = .noEffect
  evidence_eq : receipt.evidence = .operationLedger
  durable_eq : receipt.durable = true
  acknowledged_le_durable : receipt.acknowledgedAt ≤ receipt.durableAt
  identity_eq : (receipt.receiptId, receipt.receiptDigest)
    = receiptIdentity (.fenceReleaseNoEffect receipt.toReleaseNoEffectFields)

@[simp] theorem postInit_eq_ok {self : FenceReleaseNoEffectReceipt} :
    self.postInit = .ok () ↔ self.WellFormed := by
  simp only [postInit, validatePositiveInteger, bind_unit_eq_ok, check_eq_ok]
  constructor
  · rintro ⟨h1, h2, h3, h4, h5, h6, h7⟩
    exact ⟨h1, h2, h3, h4, h5, Prod.ext h6 h7⟩
  · rintro ⟨h1, h2, h3, h4, h5, h6⟩
    exact ⟨h1, h2, h3, h4, h5, congrArg Prod.fst h6, congrArg Prod.snd h6⟩

end FenceReleaseNoEffectReceipt

/-! ## Binding a receipt to its intent -/

/-- `_validate_release_receipt_binding`. -/
def validateReleaseReceiptBinding (receipt : FenceReleaseReceipt) (intent : FenceReleaseIntent) :
    Except PyError Unit := do
  intent.postInit
  receipt.postInit
  check (receipt.operationId = intent.operationId
      ∧ receipt.intentDigest = intent.intentDigest
      ∧ receipt.releaseAttempt = intent.releaseAttempt
      ∧ receipt.provider = intent.provider
      ∧ receipt.writerId = intent.writerId
      ∧ receipt.acquisitionOperationId = intent.acquisitionOperationId
      ∧ receipt.acquisitionReceiptId = intent.acquisitionReceiptId
      ∧ receipt.acquisitionReceiptDigest = intent.acquisitionReceiptDigest
      ∧ receipt.tokenDigest = intent.tokenDigest
      ∧ receipt.scopeDigest = intent.scopeDigest
      ∧ receipt.epoch = intent.epoch
      ∧ sameRevision receipt.expectedInventoryRevision intent.expectedInventoryRevision)
    (.valueError "Release receipt does not match its intent.")
  check (intent.requestedAt ≤ receipt.releasedAt
      ∧ receipt.releasedAt ≤ receipt.acknowledgedAt
      ∧ receipt.acknowledgedAt ≤ receipt.durableAt)
    (.valueError "Release receipt timing is not authoritative.")

structure FenceReleaseReceipt.ValidFor (receipt : FenceReleaseReceipt)
    (intent : FenceReleaseIntent) : Prop where
  intent_wf : intent.WellFormed
  receipt_wf : receipt.WellFormed
  operationId_eq : receipt.operationId = intent.operationId
  intentDigest_eq : receipt.intentDigest = intent.intentDigest
  releaseAttempt_eq : receipt.releaseAttempt = intent.releaseAttempt
  provider_eq : receipt.provider = intent.provider
  writerId_eq : receipt.writerId = intent.writerId
  acquisitionOperationId_eq : receipt.acquisitionOperationId = intent.acquisitionOperationId
  acquisitionReceiptId_eq : receipt.acquisitionReceiptId = intent.acquisitionReceiptId
  acquisitionReceiptDigest_eq :
    receipt.acquisitionReceiptDigest = intent.acquisitionReceiptDigest
  tokenDigest_eq : receipt.tokenDigest = intent.tokenDigest
  scopeDigest_eq : receipt.scopeDigest = intent.scopeDigest
  epoch_eq : receipt.epoch = intent.epoch
  expectedInventoryRevision_eq :
    receipt.expectedInventoryRevision = intent.expectedInventoryRevision
  requested_le_released : intent.requestedAt ≤ receipt.releasedAt

@[simp] theorem validateReleaseReceiptBinding_eq_ok {receipt : FenceReleaseReceipt}
    {intent : FenceReleaseIntent} :
    validateReleaseReceiptBinding receipt intent = .ok () ↔ receipt.ValidFor intent := by
  simp only [validateReleaseReceiptBinding, bind_unit_eq_ok, check_eq_ok, sameRevision_iff,
    FenceReleaseIntent.postInit_eq_ok, FenceReleaseReceipt.postInit_eq_ok]
  constructor
  · rintro ⟨hi, hr, ⟨h1, h2, h3, h4, h5, h6, h7, h8, h9, h10, h11, h12⟩, h13, -⟩
    exact ⟨hi, hr, h1, h2, h3, h4, h5, h6, h7, h8, h9, h10, h11, h12, h13⟩
  · rintro ⟨hi, hr, h1, h2, h3, h4, h5, h6, h7, h8, h9, h10, h11, h12, h13⟩
    exact ⟨hi, hr, ⟨h1, h2, h3, h4, h5, h6, h7, h8, h9, h10, h11, h12⟩, h13,
      hr.released_le_acknowledged, hr.acknowledged_le_durable⟩

/-- `_validate_release_no_effect_binding`. -/
def validateReleaseNoEffectBinding (receipt : FenceReleaseNoEffectReceipt)
    (intent : FenceReleaseIntent) : Except PyError Unit := do
  intent.postInit
  receipt.postInit
  check (receipt.operationId = intent.operationId
      ∧ receipt.intentDigest = intent.intentDigest
      ∧ receipt.releaseAttempt = intent.releaseAttempt
      ∧ receipt.provider = intent.provider
      ∧ receipt.writerId = intent.writerId
      ∧ receipt.acquisitionOperationId = intent.acquisitionOperationId
      ∧ receipt.acquisitionReceiptId = intent.acquisitionReceiptId
      ∧ receipt.acquisitionReceiptDigest = intent.acquisitionReceiptDigest
      ∧ receipt.tokenDigest = intent.tokenDigest
      ∧ receipt.scopeDigest = intent.scopeDigest
      ∧ receipt.epoch = intent.epoch
      ∧ sameRevision receipt.expectedInventoryRevision intent.expectedInventoryRevision)
    (.valueError "Release tombstone does not match its full intent.")
  check (intent.requestedAt ≤ receipt.acknowledgedAt
      ∧ receipt.acknowledgedAt ≤ receipt.durableAt)
    (.valueError "Release tombstone timing is not authoritative.")

structure FenceReleaseNoEffectReceipt.ValidFor (receipt : FenceReleaseNoEffectReceipt)
    (intent : FenceReleaseIntent) : Prop where
  intent_wf : intent.WellFormed
  receipt_wf : receipt.WellFormed
  operationId_eq : receipt.operationId = intent.operationId
  intentDigest_eq : receipt.intentDigest = intent.intentDigest
  releaseAttempt_eq : receipt.releaseAttempt = intent.releaseAttempt
  provider_eq : receipt.provider = intent.provider
  writerId_eq : receipt.writerId = intent.writerId
  acquisitionOperationId_eq : receipt.acquisitionOperationId = intent.acquisitionOperationId
  acquisitionReceiptId_eq : receipt.acquisitionReceiptId = intent.acquisitionReceiptId
  acquisitionReceiptDigest_eq :
    receipt.acquisitionReceiptDigest = intent.acquisitionReceiptDigest
  tokenDigest_eq : receipt.tokenDigest = intent.tokenDigest
  scopeDigest_eq : receipt.scopeDigest = intent.scopeDigest
  epoch_eq : receipt.epoch = intent.epoch
  expectedInventoryRevision_eq :
    receipt.expectedInventoryRevision = intent.expectedInventoryRevision
  requested_le_acknowledged : intent.requestedAt ≤ receipt.acknowledgedAt

@[simp] theorem validateReleaseNoEffectBinding_eq_ok {receipt : FenceReleaseNoEffectReceipt}
    {intent : FenceReleaseIntent} :
    validateReleaseNoEffectBinding receipt intent = .ok () ↔ receipt.ValidFor intent := by
  simp only [validateReleaseNoEffectBinding, bind_unit_eq_ok, check_eq_ok, sameRevision_iff,
    FenceReleaseIntent.postInit_eq_ok, FenceReleaseNoEffectReceipt.postInit_eq_ok]
  constructor
  · rintro ⟨hi, hr, ⟨h1, h2, h3, h4, h5, h6, h7, h8, h9, h10, h11, h12⟩, h13, -⟩
    exact ⟨hi, hr, h1, h2, h3, h4, h5, h6, h7, h8, h9, h10, h11, h12, h13⟩
  · rintro ⟨hi, hr, h1, h2, h3, h4, h5, h6, h7, h8, h9, h10, h11, h12, h13⟩
    exact ⟨hi, hr, ⟨h1, h2, h3, h4, h5, h6, h7, h8, h9, h10, h11, h12⟩, h13,
      hr.acknowledged_le_durable⟩

/-! ## Records -/

/-- `FenceReleaseReceipt | FenceReleaseNoEffectReceipt`. -/
abbrev ReleaseLifecycleReceipt :=
  LifecycleReceipt FenceReleaseReceipt FenceReleaseNoEffectReceipt

/-- `FenceReleaseRecord`. -/
abbrev FenceReleaseRecord :=
  LifecycleRecord FenceReleaseIntent FenceReleaseReceipt FenceReleaseNoEffectReceipt

namespace ReleaseLifecycleReceipt

def operationId : ReleaseLifecycleReceipt → ReleaseOperationId
  | .applied receipt => receipt.operationId
  | .noEffect receipt => receipt.operationId

def receiptId : ReleaseLifecycleReceipt → ReceiptId
  | .applied receipt => receipt.receiptId
  | .noEffect receipt => receipt.receiptId

/-- `_require_release_lifecycle_receipt`. -/
def postInit : ReleaseLifecycleReceipt → Except PyError Unit
  | .applied receipt => receipt.postInit
  | .noEffect receipt => receipt.postInit

def validateFor (self : ReleaseLifecycleReceipt) (intent : FenceReleaseIntent) :
    Except PyError Unit :=
  match self with
  | .applied receipt => validateReleaseReceiptBinding receipt intent
  | .noEffect receipt => validateReleaseNoEffectBinding receipt intent

end ReleaseLifecycleReceipt

instance : LifecycleOperation FenceReleaseIntent FenceReleaseReceipt
    FenceReleaseNoEffectReceipt where
  noun := "release"
  title := "Release"
  requireIntent := FenceReleaseIntent.postInit
  requireReceipt := ReleaseLifecycleReceipt.postInit
  validateFor := ReleaseLifecycleReceipt.validateFor
  requireReceipt_of_validateFor := by
    rintro (receipt | receipt) intent h
    · exact FenceReleaseReceipt.postInit_eq_ok.2
        (validateReleaseReceiptBinding_eq_ok.1 h).receipt_wf
    · exact FenceReleaseNoEffectReceipt.postInit_eq_ok.2
        (validateReleaseNoEffectBinding_eq_ok.1 h).receipt_wf

namespace ReleaseRecord

/-- The receipt ID of a record that has a receipt. -/
def receiptId? (record : FenceReleaseRecord) : Option ReceiptId :=
  record.receipt.map ReleaseLifecycleReceipt.receiptId

theorem applied_valid {record : FenceReleaseRecord} {receipt : FenceReleaseReceipt}
    (h : record.WellFormed) (hr : record.receipt = some (.applied receipt)) :
    receipt.ValidFor record.intent :=
  validateReleaseReceiptBinding_eq_ok.1 (h.receipt_ok _ hr)

theorem noEffect_valid {record : FenceReleaseRecord} {receipt : FenceReleaseNoEffectReceipt}
    (h : record.WellFormed) (hr : record.receipt = some (.noEffect receipt)) :
    receipt.ValidFor record.intent :=
  validateReleaseNoEffectBinding_eq_ok.1 (h.receipt_ok _ hr)

theorem intent_wf {record : FenceReleaseRecord} (h : record.WellFormed) :
    record.intent.WellFormed :=
  FenceReleaseIntent.postInit_eq_ok.1 h.intent_ok

end ReleaseRecord

/-! ## Release of an acquisition -/

/-- `_validate_release_intent_acquisition`. -/
def validateReleaseIntentAcquisition (intent : FenceReleaseIntent)
    (acquisition : FenceAcquisitionRecord) : Except PyError Unit :=
  match acquisition.state, acquisition.receipt with
  | .acknowledged, some (.applied receipt) =>
    check (intent.planId = acquisition.intent.planId
        ∧ intent.planDigest = acquisition.intent.planDigest
        ∧ intent.manifestDigest = acquisition.intent.manifestDigest
        ∧ intent.attempt = acquisition.intent.attempt
        ∧ intent.provider = receipt.provider
        ∧ intent.writerId = receipt.writerId
        ∧ intent.acquisitionOperationId = receipt.operationId
        ∧ intent.acquisitionReceiptId = receipt.receiptId
        ∧ intent.acquisitionReceiptDigest = receipt.receiptDigest
        ∧ intent.tokenDigest = receipt.tokenDigest
        ∧ intent.scopeDigest = receipt.scopeDigest
        ∧ intent.epoch = receipt.epoch
        ∧ receipt.durableAt ≤ intent.requestedAt)
      (.valueError "Release intent does not match its acquisition.")
  | _, _ => .error (.valueError "Release requires acknowledged acquisition evidence.")

/-- `_binding_matches_release`. -/
def bindingMatchesRelease (binding : Option FenceBinding) (intent : FenceReleaseIntent) : Prop :=
  ∃ fence, binding = some fence
    ∧ fence.provider = intent.provider
    ∧ fence.writerId = intent.writerId
    ∧ fence.tokenDigest = intent.tokenDigest
    ∧ fence.epoch = intent.epoch
    ∧ fence.scopeDigest = intent.scopeDigest
    ∧ fence.acquisitionOperationId = intent.acquisitionOperationId
    ∧ fence.acquisitionReceiptId = intent.acquisitionReceiptId
    ∧ fence.acquisitionReceiptDigest = intent.acquisitionReceiptDigest

instance (binding : Option FenceBinding) (intent : FenceReleaseIntent) :
    Decidable (bindingMatchesRelease binding intent) :=
  match binding with
  | none => isFalse fun ⟨_, h, _⟩ => by cases h
  | some fence => decidable_of_iff (fence.provider = intent.provider
    ∧ fence.writerId = intent.writerId
    ∧ fence.tokenDigest = intent.tokenDigest
    ∧ fence.epoch = intent.epoch
    ∧ fence.scopeDigest = intent.scopeDigest
    ∧ fence.acquisitionOperationId = intent.acquisitionOperationId
    ∧ fence.acquisitionReceiptId = intent.acquisitionReceiptId
    ∧ fence.acquisitionReceiptDigest = intent.acquisitionReceiptDigest)
    ⟨fun h => ⟨fence, rfl, h⟩, fun ⟨_, hfence, h⟩ => Option.some.inj hfence ▸ h⟩

structure FenceReleaseIntent.Releases (intent : FenceReleaseIntent)
    (acquisition : FenceAcquisitionRecord) (receipt : FenceAcquisitionReceipt) : Prop where
  state_eq : acquisition.state = .acknowledged
  receipt_eq : acquisition.receipt = some (.applied receipt)
  planId_eq : intent.planId = acquisition.intent.planId
  planDigest_eq : intent.planDigest = acquisition.intent.planDigest
  manifestDigest_eq : intent.manifestDigest = acquisition.intent.manifestDigest
  attempt_eq : intent.attempt = acquisition.intent.attempt
  provider_eq : intent.provider = receipt.provider
  writerId_eq : intent.writerId = receipt.writerId
  acquisitionOperationId_eq : intent.acquisitionOperationId = receipt.operationId
  acquisitionReceiptId_eq : intent.acquisitionReceiptId = receipt.receiptId
  acquisitionReceiptDigest_eq : intent.acquisitionReceiptDigest = receipt.receiptDigest
  tokenDigest_eq : intent.tokenDigest = receipt.tokenDigest
  scopeDigest_eq : intent.scopeDigest = receipt.scopeDigest
  epoch_eq : intent.epoch = receipt.epoch
  durable_le_requested : receipt.durableAt ≤ intent.requestedAt

omit [DigestJson] in
@[simp] theorem validateReleaseIntentAcquisition_eq_ok {intent : FenceReleaseIntent}
    {acquisition : FenceAcquisitionRecord} :
    validateReleaseIntentAcquisition intent acquisition = .ok () ↔
      ∃ receipt, intent.Releases acquisition receipt := by
  constructor
  · intro h
    unfold validateReleaseIntentAcquisition at h
    split at h
    · rename_i receipt hs hr
      obtain ⟨h1, h2, h3, h4, h5, h6, h7, h8, h9, h10, h11, h12, h13⟩ := check_eq_ok.1 h
      exact ⟨receipt, hs, hr, h1, h2, h3, h4, h5, h6, h7, h8, h9, h10, h11, h12, h13⟩
    · cases h
  · rintro ⟨receipt, hs, hr, h1, h2, h3, h4, h5, h6, h7, h8, h9, h10, h11, h12, h13⟩
    unfold validateReleaseIntentAcquisition
    rw [hs, hr]
    exact check_eq_ok.2 ⟨h1, h2, h3, h4, h5, h6, h7, h8, h9, h10, h11, h12, h13⟩

end TrueFamily.Transaction
