import TrueFamily.Transaction.Release

/-!
# Object operations

One conditional mutation of one provider object: the canonical intent, the dispatch
authorization that a fresh preimage read gives, the durable receipt, the read-back
verifications, and the append-only record that projects them.
-/

namespace TrueFamily.Transaction

open Checked

variable [DigestJson]

/-! ## Intents -/

/-- `BridgeOperationIntent`. -/
structure BridgeOperationIntent extends ObjectIntentFields where
  operationId : ObjectOperationId
  intentDigest : Digest
  deriving DecidableEq

namespace BridgeOperationIntent

/-- `_validate_object_intent_fields`. -/
def validateFields (self : BridgeOperationIntent) : Except PyError Unit := do
  validatePlanBinding self.planId self.planDigest
  validatePositiveInteger self.attempt "Object intent attempt"
  validatePositiveInteger self.sequence "Object intent sequence"
  check (self.preFingerprint ≠ self.postFingerprint)
    (.valueError "Object preimage and postimage must differ.")
  self.fence.postInit
  check (self.fence.provider = self.provider)
    (.valueError "Object intent and fence providers do not match.")
  match self.kind with
  | .write =>
    check (self.parentOperationId = none)
      (.valueError "Write intent cannot have a parent operation.")
  | .rollback =>
    check (self.parentOperationId ≠ none)
      (.valueError "Rollback intent requires a parent write.")

def postInit (self : BridgeOperationIntent) : Except PyError Unit := do
  self.validateFields
  let digest := digestJson (.objectIntent self.toObjectIntentFields)
  check (self.intentDigest = digest ∧ self.operationId = ⟨digest.prefix24⟩)
    (.valueError "Object operation identity is not canonical.")

/-- `BridgeOperationIntent.create`, before `__post_init__`. -/
def ofFields (values : ObjectIntentFields) : BridgeOperationIntent :=
  let digest := digestJson (.objectIntent values)
  { values with operationId := ⟨digest.prefix24⟩, intentDigest := digest }

structure WellFormed (intent : BridgeOperationIntent) : Prop where
  planBinding : validatePlanBinding intent.planId intent.planDigest = .ok ()
  attempt_pos : 1 ≤ intent.attempt
  sequence_pos : 1 ≤ intent.sequence
  pre_ne_post : intent.preFingerprint ≠ intent.postFingerprint
  fence_wf : intent.fence.WellFormed
  fence_provider : intent.fence.provider = intent.provider
  parent_of_write : intent.kind = .write → intent.parentOperationId = none
  parent_of_rollback : intent.kind = .rollback → intent.parentOperationId ≠ none
  intentDigest_eq : intent.intentDigest = digestJson (.objectIntent intent.toObjectIntentFields)
  operationId_eq : intent.operationId
    = ⟨(digestJson (.objectIntent intent.toObjectIntentFields)).prefix24⟩

@[simp] theorem postInit_eq_ok {self : BridgeOperationIntent} :
    self.postInit = .ok () ↔ self.WellFormed := by
  simp only [postInit, validateFields, validatePositiveInteger, bind_unit_eq_ok, check_eq_ok,
    FenceBinding.postInit_eq_ok]
  constructor
  · rintro ⟨⟨h1, h2, h3, h4, h5, h6, h7⟩, h8, h9⟩
    refine ⟨h1, h2, h3, h4, h5, h6, fun hk => ?_, fun hk => ?_, h8, h9⟩
    · rw [hk] at h7
      exact check_eq_ok.1 h7
    · rw [hk] at h7
      exact check_eq_ok.1 h7
  · rintro ⟨h1, h2, h3, h4, h5, h6, h7, h8, h9, h10⟩
    refine ⟨⟨h1, h2, h3, h4, h5, h6, ?_⟩, h9, h10⟩
    cases hk : self.kind with
    | write => exact check_eq_ok.2 (h7 hk)
    | rollback => exact check_eq_ok.2 (h8 hk)

end BridgeOperationIntent

/-! ## Observations -/

/-- `BridgeObjectObservation`: payload-free read-back of one provider object. -/
structure BridgeObjectObservation where
  provider : Provider
  objectKey : CanonicalText
  revision : Revision
  fingerprint : Digest
  observedAt : Datetime
  deriving DecidableEq

/-! ## Dispatch authorizations -/

/-- `BridgeDispatchAuthorization`. -/
structure BridgeDispatchAuthorization extends AuthorizationFields where
  authorizationDigest : Digest
  deriving DecidableEq

/-- `_validate_authorization_binding`, after the two `__post_init__` calls. -/
def authorizationMatches (authorization : BridgeDispatchAuthorization)
    (intent : BridgeOperationIntent) : Prop :=
  authorization.operationId = intent.operationId
    ∧ authorization.intentDigest = intent.intentDigest
    ∧ authorization.provider = intent.provider
    ∧ authorization.objectKey = intent.objectKey
    ∧ authorization.fenceAcquisitionOperationId = intent.fence.acquisitionOperationId
    ∧ authorization.fenceAcquisitionReceiptId = intent.fence.acquisitionReceiptId
    ∧ authorization.fenceAcquisitionReceiptDigest = intent.fence.acquisitionReceiptDigest
    ∧ sameRevision authorization.revision intent.expectedRevision
    ∧ authorization.fingerprint = intent.preFingerprint

instance (authorization : BridgeDispatchAuthorization) (intent : BridgeOperationIntent) :
    Decidable (authorizationMatches authorization intent) := by
  unfold authorizationMatches; infer_instance

namespace BridgeDispatchAuthorization

def postInit (self : BridgeDispatchAuthorization) : Except PyError Unit := do
  check (self.observedAt ≤ self.authorizedAt)
    (.valueError "Dispatch authorization cannot predate its observation.")
  check (self.authorizationDigest = digestJson (.authorization self.toAuthorizationFields))
    (.valueError "Dispatch authorization digest is not canonical.")

/-- `_validate_authorization_binding`. -/
def validateFor (self : BridgeDispatchAuthorization) (intent : BridgeOperationIntent) :
    Except PyError Unit := do
  intent.postInit
  self.postInit
  check (authorizationMatches self intent)
    (.valueError "Dispatch authorization does not match its full intent.")
  check (intent.fence.acquisitionDurableAt ≤ self.observedAt
      ∧ self.observedAt ≤ self.authorizedAt
      ∧ self.authorizedAt < intent.fence.expiresAt)
    (.valueError "Dispatch authorization timing is outside its fence.")

/-- The `values` of `BridgeDispatchAuthorization.create`. -/
def fieldsOf (intent : BridgeOperationIntent) (observation : BridgeObjectObservation)
    (authorizedAt : Datetime) : AuthorizationFields where
  operationId := intent.operationId
  intentDigest := intent.intentDigest
  provider := intent.provider
  objectKey := intent.objectKey
  fenceAcquisitionOperationId := intent.fence.acquisitionOperationId
  fenceAcquisitionReceiptId := intent.fence.acquisitionReceiptId
  fenceAcquisitionReceiptDigest := intent.fence.acquisitionReceiptDigest
  revision := observation.revision
  fingerprint := observation.fingerprint
  observedAt := observation.observedAt
  authorizedAt := authorizedAt

/-- `BridgeDispatchAuthorization.create`. -/
def create (intent : BridgeOperationIntent) (observation : BridgeObjectObservation)
    (authorizedAt : Datetime) : Except PyError BridgeDispatchAuthorization := do
  intent.postInit
  let values := fieldsOf intent observation authorizedAt
  let authorization : BridgeDispatchAuthorization :=
    { values with authorizationDigest := digestJson (.authorization values) }
  authorization.postInit
  authorization.validateFor intent
  return authorization

structure ValidFor (authorization : BridgeDispatchAuthorization)
    (intent : BridgeOperationIntent) : Prop where
  intent_wf : intent.WellFormed
  operationId_eq : authorization.operationId = intent.operationId
  intentDigest_eq : authorization.intentDigest = intent.intentDigest
  provider_eq : authorization.provider = intent.provider
  objectKey_eq : authorization.objectKey = intent.objectKey
  fenceAcquisitionOperationId_eq :
    authorization.fenceAcquisitionOperationId = intent.fence.acquisitionOperationId
  fenceAcquisitionReceiptId_eq :
    authorization.fenceAcquisitionReceiptId = intent.fence.acquisitionReceiptId
  fenceAcquisitionReceiptDigest_eq :
    authorization.fenceAcquisitionReceiptDigest = intent.fence.acquisitionReceiptDigest
  revision_eq : authorization.revision = intent.expectedRevision
  fingerprint_eq : authorization.fingerprint = intent.preFingerprint
  authorizationDigest_eq : authorization.authorizationDigest
    = digestJson (.authorization authorization.toAuthorizationFields)
  durable_le_observed : intent.fence.acquisitionDurableAt ≤ authorization.observedAt
  observed_le_authorized : authorization.observedAt ≤ authorization.authorizedAt
  authorized_lt_expires : authorization.authorizedAt < intent.fence.expiresAt

@[simp] theorem validateFor_eq_ok {self : BridgeDispatchAuthorization}
    {intent : BridgeOperationIntent} :
    self.validateFor intent = .ok () ↔ self.ValidFor intent := by
  simp only [validateFor, postInit, authorizationMatches, bind_unit_eq_ok, check_eq_ok,
    sameRevision_iff, BridgeOperationIntent.postInit_eq_ok]
  constructor
  · rintro ⟨hi, ⟨-, hd⟩, ⟨h1, h2, h3, h4, h5, h6, h7, h8, h9⟩, h10, h11, h12⟩
    exact ⟨hi, h1, h2, h3, h4, h5, h6, h7, h8, h9, hd, h10, h11, h12⟩
  · rintro ⟨hi, h1, h2, h3, h4, h5, h6, h7, h8, h9, hd, h10, h11, h12⟩
    exact ⟨hi, ⟨h11, hd⟩, ⟨h1, h2, h3, h4, h5, h6, h7, h8, h9⟩, h10, h11, h12⟩

theorem ValidFor.postInit {authorization : BridgeDispatchAuthorization}
    {intent : BridgeOperationIntent} (h : authorization.ValidFor intent) :
    authorization.postInit = .ok () := by
  simp only [BridgeDispatchAuthorization.postInit, bind_unit_eq_ok, check_eq_ok]
  exact ⟨h.observed_le_authorized, h.authorizationDigest_eq⟩

theorem create_eq_ok {intent : BridgeOperationIntent} {observation : BridgeObjectObservation}
    {authorizedAt : Datetime} {authorization : BridgeDispatchAuthorization} :
    create intent observation authorizedAt = .ok authorization ↔
      authorization.ValidFor intent
        ∧ authorization.toAuthorizationFields = fieldsOf intent observation authorizedAt := by
  simp only [create, bind_unit_eq_ok, pure_eq_ok, validateFor_eq_ok,
    BridgeOperationIntent.postInit_eq_ok]
  constructor
  · rintro ⟨-, -, h, rfl⟩
    exact ⟨h, rfl⟩
  · rintro ⟨h, hf⟩
    obtain ⟨values, digest⟩ := authorization
    obtain rfl : values = fieldsOf intent observation authorizedAt := hf
    have hd : digest = digestJson (.authorization (fieldsOf intent observation authorizedAt)) :=
      h.authorizationDigest_eq
    subst hd
    exact ⟨h.intent_wf, h.postInit, h, rfl⟩

end BridgeDispatchAuthorization

/-! ## Receipts -/

/-- `BridgeOperationReceipt`. -/
structure BridgeOperationReceipt extends ObjectReceiptFields where
  receiptId : ReceiptId
  receiptDigest : Digest
  deriving DecidableEq

namespace BridgeOperationReceipt

/-- The authorization fields that a receipt repeats. -/
def authorizationFields (self : BridgeOperationReceipt) : AuthorizationFields where
  operationId := self.operationId
  intentDigest := self.intentDigest
  provider := self.provider
  objectKey := self.objectKey
  fenceAcquisitionOperationId := self.fenceAcquisitionOperationId
  fenceAcquisitionReceiptId := self.fenceAcquisitionReceiptId
  fenceAcquisitionReceiptDigest := self.fenceAcquisitionReceiptDigest
  revision := self.previousRevision
  fingerprint := self.preFingerprint
  observedAt := self.authorizationObservedAt
  authorizedAt := self.authorizedAt

/-- The effect time that an applied outcome requires. -/
def validateEffectTime (self : BridgeOperationReceipt) : Except PyError Unit :=
  match self.effectAt with
  | none => .error (.valueError "Applied outcome requires an effect time.")
  | some effectAt =>
    check (max self.authorizationObservedAt self.authorizedAt ≤ effectAt)
      (.valueError "Applied effect predates dispatch authorization.")

/-- The outcome part of `BridgeOperationReceipt.__post_init__`. -/
def validateOutcome (self : BridgeOperationReceipt) : Except PyError Unit :=
  match self.outcome with
  | .applied => do
    check (self.evidence = .dispatchAck)
      (.valueError "Applied outcome requires dispatch acknowledgement.")
    self.validateEffectTime
    check (¬ sameRevision self.previousRevision self.resultRevision)
      (.valueError "Applied outcome must change the typed revision.")
  | .noEffect => do
    check (self.evidence = .operationLedger)
      (.valueError "No-effect outcome requires operation-ledger evidence.")
    check (self.effectAt = none)
      (.valueError "No-effect outcome cannot claim an effect time.")
    check (sameRevision self.previousRevision self.resultRevision)
      (.valueError "No-effect outcome must preserve the exact revision.")

def postInit (self : BridgeOperationReceipt) : Except PyError Unit := do
  check (self.authorizationObservedAt ≤ self.authorizedAt)
    (.valueError "Receipt authorization predates its observation.")
  check (self.preFingerprint ≠ self.postFingerprint)
    (.valueError "Receipt preimage and postimage must differ.")
  check (self.authorizationDigest = digestJson (.authorization self.authorizationFields))
    (.valueError "Receipt authorization digest is not canonical.")
  check (self.durable = true) (.valueError "Operation receipt must be durably persisted.")
  check (self.acknowledgedAt ≤ self.durableAt)
    (.valueError "Object receipt durability predates acknowledgement.")
  self.validateOutcome
  let expected := receiptIdentity (.objectOperation self.toObjectReceiptFields)
  check (self.receiptId = expected.1 ∧ self.receiptDigest = expected.2)
    (.valueError "Object receipt identity is not canonical.")

/-- `BridgeOperationReceipt.create`, before `__post_init__` and the two bindings. -/
def ofFields (values : ObjectReceiptFields) : BridgeOperationReceipt :=
  let identity := receiptIdentity (.objectOperation values)
  { values with receiptId := identity.1, receiptDigest := identity.2 }

/-- `result_fingerprint`. -/
def resultFingerprint (self : BridgeOperationReceipt) : Digest :=
  match self.outcome with
  | .applied => self.postFingerprint
  | .noEffect => self.preFingerprint

/-- What a receipt of each outcome says about its effect. -/
inductive Outcome (receipt : BridgeOperationReceipt) : Prop
  | applied (effectAt : Datetime) :
      receipt.outcome = .applied → receipt.evidence = .dispatchAck →
      receipt.effectAt = some effectAt → receipt.authorizationObservedAt ≤ effectAt →
      receipt.authorizedAt ≤ effectAt → receipt.previousRevision ≠ receipt.resultRevision →
      Outcome receipt
  | noEffect :
      receipt.outcome = .noEffect → receipt.evidence = .operationLedger →
      receipt.effectAt = none → receipt.previousRevision = receipt.resultRevision →
      Outcome receipt

structure WellFormed (receipt : BridgeOperationReceipt) : Prop where
  observed_le_authorized : receipt.authorizationObservedAt ≤ receipt.authorizedAt
  pre_ne_post : receipt.preFingerprint ≠ receipt.postFingerprint
  authorizationDigest_eq :
    receipt.authorizationDigest = digestJson (.authorization receipt.authorizationFields)
  durable_eq : receipt.durable = true
  acknowledged_le_durable : receipt.acknowledgedAt ≤ receipt.durableAt
  outcome_ok : receipt.Outcome
  identity_eq : (receipt.receiptId, receipt.receiptDigest)
    = receiptIdentity (.objectOperation receipt.toObjectReceiptFields)

omit [DigestJson] in
theorem validateOutcome_eq_ok {self : BridgeOperationReceipt} :
    self.validateOutcome = .ok () ↔ self.Outcome := by
  unfold validateOutcome validateEffectTime
  constructor
  · intro h
    cases ho : self.outcome with
    | applied =>
      rw [ho] at h
      cases he : self.effectAt with
      | none => simp [he] at h
      | some effectAt =>
        simp only [he, bind_unit_eq_ok, check_eq_ok, max_le_iff, sameRevision_iff] at h
        exact .applied effectAt ho h.1 he h.2.1.1 h.2.1.2 h.2.2
    | noEffect =>
      rw [ho] at h
      simp only [bind_unit_eq_ok, check_eq_ok, sameRevision_iff] at h
      exact .noEffect ho h.1 h.2.1 h.2.2
  · rintro (⟨effectAt, ho, h1, he, h2, h3, h4⟩ | ⟨ho, h1, h2, h3⟩)
    · rw [ho]
      simp only [he, bind_unit_eq_ok, check_eq_ok, max_le_iff, sameRevision_iff]
      exact ⟨h1, ⟨h2, h3⟩, h4⟩
    · rw [ho]
      simp only [bind_unit_eq_ok, check_eq_ok, sameRevision_iff]
      exact ⟨h1, h2, h3⟩

@[simp] theorem postInit_eq_ok {self : BridgeOperationReceipt} :
    self.postInit = .ok () ↔ self.WellFormed := by
  simp only [postInit, bind_unit_eq_ok, check_eq_ok, validateOutcome_eq_ok]
  constructor
  · rintro ⟨h1, h2, h3, h4, h5, h6, h7, h8⟩
    exact ⟨h1, h2, h3, h4, h5, h6, Prod.ext h7 h8⟩
  · rintro ⟨h1, h2, h3, h4, h5, h6, h7⟩
    exact ⟨h1, h2, h3, h4, h5, h6, congrArg Prod.fst h7, congrArg Prod.snd h7⟩

end BridgeOperationReceipt

/-- The identity part of `_validate_object_receipt_binding`. -/
def receiptMatches (receipt : BridgeOperationReceipt) (intent : BridgeOperationIntent) : Prop :=
  receipt.operationId = intent.operationId
    ∧ receipt.intentDigest = intent.intentDigest
    ∧ receipt.kind = intent.kind
    ∧ receipt.provider = intent.provider
    ∧ receipt.objectKey = intent.objectKey
    ∧ receipt.fenceTokenDigest = intent.fence.tokenDigest
    ∧ receipt.fenceEpoch = intent.fence.epoch
    ∧ receipt.fenceScopeDigest = intent.fence.scopeDigest
    ∧ receipt.fenceWriterId = intent.fence.writerId
    ∧ receipt.fenceAcquisitionOperationId = intent.fence.acquisitionOperationId
    ∧ receipt.fenceAcquisitionReceiptId = intent.fence.acquisitionReceiptId
    ∧ receipt.fenceAcquisitionReceiptDigest = intent.fence.acquisitionReceiptDigest
    ∧ intent.fence.acquisitionDurableAt ≤ receipt.authorizationObservedAt
    ∧ receipt.authorizationObservedAt ≤ receipt.authorizedAt
    ∧ receipt.authorizedAt < intent.fence.expiresAt
    ∧ sameRevision receipt.previousRevision intent.expectedRevision
    ∧ receipt.preFingerprint = intent.preFingerprint
    ∧ receipt.postFingerprint = intent.postFingerprint

instance (receipt : BridgeOperationReceipt) (intent : BridgeOperationIntent) :
    Decidable (receiptMatches receipt intent) := by
  unfold receiptMatches; infer_instance

/-- The effect window of an applied receipt in `_validate_object_receipt_binding`. -/
def effectInLease (receipt : BridgeOperationReceipt) (intent : BridgeOperationIntent) : Prop :=
  match receipt.effectAt with
  | none => False
  | some effectAt =>
    intent.fence.acquisitionDurableAt ≤ effectAt
      ∧ receipt.authorizedAt ≤ effectAt
      ∧ effectAt ≤ receipt.acknowledgedAt
      ∧ receipt.acknowledgedAt < intent.fence.expiresAt

instance (receipt : BridgeOperationReceipt) (intent : BridgeOperationIntent) :
    Decidable (effectInLease receipt intent) := by
  unfold effectInLease; split <;> infer_instance

/-- `_validate_object_receipt_binding`. -/
def validateObjectReceiptBinding (receipt : BridgeOperationReceipt)
    (intent : BridgeOperationIntent) : Except PyError Unit := do
  intent.postInit
  receipt.postInit
  check (receiptMatches receipt intent)
    (.valueError "Object receipt does not match its complete intent.")
  check (receipt.acknowledgedAt ≤ receipt.durableAt)
    (.valueError "Object receipt durability predates acknowledgement.")
  match receipt.outcome with
  | .applied =>
    check (effectInLease receipt intent)
      (.valueError "Applied receipt lacks in-lease effect evidence.")
  | .noEffect =>
    check (intent.fence.expiresAt ≤ receipt.acknowledgedAt)
      (.valueError "No-effect ledger outcome requires lease expiry.")

structure BridgeOperationReceipt.ValidFor (receipt : BridgeOperationReceipt)
    (intent : BridgeOperationIntent) : Prop where
  intent_wf : intent.WellFormed
  receipt_wf : receipt.WellFormed
  matches_intent : receiptMatches receipt intent
  applied : receipt.outcome = .applied → effectInLease receipt intent
  noEffect : receipt.outcome = .noEffect → intent.fence.expiresAt ≤ receipt.acknowledgedAt

@[simp] theorem validateObjectReceiptBinding_eq_ok {receipt : BridgeOperationReceipt}
    {intent : BridgeOperationIntent} :
    validateObjectReceiptBinding receipt intent = .ok () ↔ receipt.ValidFor intent := by
  simp only [validateObjectReceiptBinding, bind_unit_eq_ok, check_eq_ok,
    BridgeOperationIntent.postInit_eq_ok, BridgeOperationReceipt.postInit_eq_ok]
  constructor
  · rintro ⟨hi, hr, hm, -, ho⟩
    refine ⟨hi, hr, hm, fun h => ?_, fun h => ?_⟩
    · rw [h] at ho
      exact check_eq_ok.1 ho
    · rw [h] at ho
      exact check_eq_ok.1 ho
  · rintro ⟨hi, hr, hm, ha, hn⟩
    refine ⟨hi, hr, hm, hr.acknowledged_le_durable, ?_⟩
    cases h : receipt.outcome with
    | applied => exact check_eq_ok.2 (ha h)
    | noEffect => exact check_eq_ok.2 (hn h)

/-- `_validate_receipt_authorization_binding`, after `_require_authorization`. -/
def receiptMatchesAuthorization (receipt : BridgeOperationReceipt)
    (authorization : BridgeDispatchAuthorization) : Prop :=
  receipt.operationId = authorization.operationId
    ∧ receipt.intentDigest = authorization.intentDigest
    ∧ receipt.provider = authorization.provider
    ∧ receipt.objectKey = authorization.objectKey
    ∧ receipt.fenceAcquisitionOperationId = authorization.fenceAcquisitionOperationId
    ∧ receipt.fenceAcquisitionReceiptId = authorization.fenceAcquisitionReceiptId
    ∧ receipt.fenceAcquisitionReceiptDigest = authorization.fenceAcquisitionReceiptDigest
    ∧ sameRevision receipt.previousRevision authorization.revision
    ∧ receipt.preFingerprint = authorization.fingerprint
    ∧ receipt.authorizationObservedAt = authorization.observedAt
    ∧ receipt.authorizedAt = authorization.authorizedAt
    ∧ receipt.authorizationDigest = authorization.authorizationDigest

instance (receipt : BridgeOperationReceipt) (authorization : BridgeDispatchAuthorization) :
    Decidable (receiptMatchesAuthorization receipt authorization) := by
  unfold receiptMatchesAuthorization; infer_instance

/-- `_validate_receipt_authorization_binding`. -/
def validateReceiptAuthorizationBinding (receipt : BridgeOperationReceipt)
    (authorization : BridgeDispatchAuthorization) : Except PyError Unit := do
  authorization.postInit
  check (receiptMatchesAuthorization receipt authorization)
    (.valueError "Object receipt does not match persisted authorization.")

/-! ## Verifications -/

/-- `BridgeOperationVerification`. -/
structure BridgeOperationVerification where
  operationId : ObjectOperationId
  intentDigest : Digest
  receiptId : ReceiptId
  receiptDigest : Digest
  provider : Provider
  objectKey : CanonicalText
  revision : Revision
  fingerprint : Digest
  observedAt : Datetime
  verifiedAt : Datetime
  deriving DecidableEq

/-- The binding part of `_validate_verification_binding`. -/
def verificationMatches (verification : BridgeOperationVerification)
    (intent : BridgeOperationIntent) (receipt : BridgeOperationReceipt) : Prop :=
  verification.operationId = intent.operationId
    ∧ verification.intentDigest = intent.intentDigest
    ∧ verification.receiptId = receipt.receiptId
    ∧ verification.receiptDigest = receipt.receiptDigest
    ∧ verification.provider = intent.provider
    ∧ verification.objectKey = intent.objectKey
    ∧ sameRevision verification.revision receipt.resultRevision
    ∧ verification.fingerprint = receipt.resultFingerprint
    ∧ receipt.durableAt ≤ verification.observedAt

instance (verification : BridgeOperationVerification) (intent : BridgeOperationIntent)
    (receipt : BridgeOperationReceipt) :
    Decidable (verificationMatches verification intent receipt) := by
  unfold verificationMatches; infer_instance

namespace BridgeOperationVerification

def postInit (self : BridgeOperationVerification) : Except PyError Unit :=
  check (self.observedAt ≤ self.verifiedAt)
    (.valueError "Verification cannot precede its observation.")

/-- `_validate_verification_binding`. -/
def validateFor (self : BridgeOperationVerification) (intent : BridgeOperationIntent)
    (receipt : BridgeOperationReceipt) : Except PyError Unit := do
  validateObjectReceiptBinding receipt intent
  self.postInit
  check (verificationMatches self intent receipt)
    (.valueError "Verification does not match its intent and receipt.")

/-- `BridgeOperationVerification.create`. -/
def create (intent : BridgeOperationIntent) (receipt : BridgeOperationReceipt)
    (observation : BridgeObjectObservation) (verifiedAt : Datetime) :
    Except PyError BridgeOperationVerification := do
  validateObjectReceiptBinding receipt intent
  let verification : BridgeOperationVerification :=
    { operationId := intent.operationId
      intentDigest := intent.intentDigest
      receiptId := receipt.receiptId
      receiptDigest := receipt.receiptDigest
      provider := intent.provider
      objectKey := intent.objectKey
      revision := observation.revision
      fingerprint := observation.fingerprint
      observedAt := observation.observedAt
      verifiedAt }
  verification.postInit
  verification.validateFor intent receipt
  return verification

structure ValidFor (verification : BridgeOperationVerification) (intent : BridgeOperationIntent)
    (receipt : BridgeOperationReceipt) : Prop where
  receipt_valid : receipt.ValidFor intent
  observed_le_verified : verification.observedAt ≤ verification.verifiedAt
  matches_receipt : verificationMatches verification intent receipt

@[simp] theorem validateFor_eq_ok {self : BridgeOperationVerification}
    {intent : BridgeOperationIntent} {receipt : BridgeOperationReceipt} :
    self.validateFor intent receipt = .ok () ↔ self.ValidFor intent receipt := by
  simp only [validateFor, postInit, bind_unit_eq_ok, check_eq_ok,
    validateObjectReceiptBinding_eq_ok]
  constructor
  · rintro ⟨h1, h2, h3⟩
    exact ⟨h1, h2, h3⟩
  · rintro ⟨h1, h2, h3⟩
    exact ⟨h1, h2, h3⟩

omit [DigestJson] in
theorem durable_le_observed {verification : BridgeOperationVerification}
    {intent : BridgeOperationIntent} {receipt : BridgeOperationReceipt}
    (h : verificationMatches verification intent receipt) :
    receipt.durableAt ≤ verification.observedAt :=
  h.2.2.2.2.2.2.2.2

/-- `verification` is causally newer than `previous` in a verification history. -/
def Newer (verification previous : BridgeOperationVerification) : Prop :=
  previous.observedAt < verification.observedAt ∧ previous.verifiedAt ≤ verification.verifiedAt

instance (verification previous : BridgeOperationVerification) :
    Decidable (verification.Newer previous) := by
  unfold Newer; infer_instance

omit [DigestJson] in
theorem Newer.trans {v w u : BridgeOperationVerification} (h : v.Newer w) (h' : w.Newer u) :
    v.Newer u :=
  ⟨lt_trans h'.1 h.1, le_trans h'.2 h.2⟩

end BridgeOperationVerification

end TrueFamily.Transaction
