import TrueFamily.Transaction.Values

/-!
# Canonical payloads and their digests

Every intent, receipt and authorization names itself by the SHA-256 digest of a canonical JSON
object with a fixed set of keys. The `…Fields` structures are these objects: the keyword
arguments that a `create` constructor collects in `values`, which are also what the
`_…_data_from_fields` function turns into JSON. `Payload` lists everything the module hashes.

`_digest_json` is a parameter: nothing in this development depends on which digest function
it is, so the results hold of SHA-256 over canonical JSON in particular.
-/

namespace TrueFamily.Transaction

/-- `_acquisition_intent_data_from_fields`. -/
structure AcquisitionIntentFields where
  planId : PlanId
  planDigest : Digest
  manifestDigest : Digest
  attempt : ℕ
  provider : Provider
  writerId : CanonicalText
  expectedInventoryRevision : Revision
  scopeDigest : Digest
  epoch : ℕ
  requestedAt : Datetime
  expiresAt : Datetime
  deriving DecidableEq

/-- `_acquisition_receipt_data_from_fields`. -/
structure AcquisitionReceiptFields where
  operationId : AcquireOperationId
  intentDigest : Digest
  provider : Provider
  writerId : CanonicalText
  expectedInventoryRevision : Revision
  acquiredInventoryRevision : Revision
  fenceRevision : Revision
  scopeDigest : Digest
  epoch : ℕ
  tokenDigest : FenceTokenDigest
  acquiredAt : Datetime
  expiresAt : Datetime
  acknowledgedAt : Datetime
  durableAt : Datetime
  deriving DecidableEq

/-- `_acquisition_no_effect_data_from_fields`. -/
structure AcquisitionNoEffectFields where
  operationId : AcquireOperationId
  intentDigest : Digest
  provider : Provider
  writerId : CanonicalText
  expectedInventoryRevision : Revision
  scopeDigest : Digest
  epoch : ℕ
  outcome : BridgeReceiptOutcome
  evidence : BridgeReceiptEvidence
  acknowledgedAt : Datetime
  durableAt : Datetime
  durable : Bool
  deriving DecidableEq

/-- `_release_intent_data_from_fields`. -/
structure ReleaseIntentFields where
  planId : PlanId
  planDigest : Digest
  manifestDigest : Digest
  attempt : ℕ
  releaseAttempt : ℕ
  provider : Provider
  writerId : CanonicalText
  acquisitionOperationId : AcquireOperationId
  acquisitionReceiptId : ReceiptId
  acquisitionReceiptDigest : Digest
  tokenDigest : FenceTokenDigest
  scopeDigest : Digest
  epoch : ℕ
  expectedInventoryRevision : Revision
  requestedAt : Datetime
  deriving DecidableEq

/-- `_release_receipt_data_from_fields`. -/
structure ReleaseReceiptFields where
  operationId : ReleaseOperationId
  intentDigest : Digest
  releaseAttempt : ℕ
  provider : Provider
  writerId : CanonicalText
  acquisitionOperationId : AcquireOperationId
  acquisitionReceiptId : ReceiptId
  acquisitionReceiptDigest : Digest
  tokenDigest : FenceTokenDigest
  scopeDigest : Digest
  epoch : ℕ
  expectedInventoryRevision : Revision
  finalInventoryRevision : Revision
  releasedAt : Datetime
  acknowledgedAt : Datetime
  durableAt : Datetime
  deriving DecidableEq

/-- `_release_no_effect_data_from_fields`. -/
structure ReleaseNoEffectFields where
  operationId : ReleaseOperationId
  intentDigest : Digest
  releaseAttempt : ℕ
  provider : Provider
  writerId : CanonicalText
  acquisitionOperationId : AcquireOperationId
  acquisitionReceiptId : ReceiptId
  acquisitionReceiptDigest : Digest
  tokenDigest : FenceTokenDigest
  scopeDigest : Digest
  epoch : ℕ
  expectedInventoryRevision : Revision
  outcome : BridgeReceiptOutcome
  evidence : BridgeReceiptEvidence
  acknowledgedAt : Datetime
  durableAt : Datetime
  durable : Bool
  deriving DecidableEq

/-- `FenceBinding`: a writer lease bound to its durable acquisition receipt. -/
structure FenceBinding where
  provider : Provider
  writerId : CanonicalText
  tokenDigest : FenceTokenDigest
  epoch : ℕ
  fenceRevision : Revision
  baseRevision : Revision
  scopeDigest : Digest
  acquiredAt : Datetime
  acquisitionDurableAt : Datetime
  expiresAt : Datetime
  acquisitionOperationId : AcquireOperationId
  acquisitionReceiptId : ReceiptId
  acquisitionReceiptDigest : Digest
  deriving DecidableEq

/-- `_object_intent_data_from_fields`. -/
structure ObjectIntentFields where
  planId : PlanId
  planDigest : Digest
  manifestDigest : Digest
  attempt : ℕ
  sequence : ℕ
  kind : BridgeOperationKind
  provider : Provider
  objectKey : CanonicalText
  expectedRevision : Revision
  preFingerprint : Digest
  postFingerprint : Digest
  fence : FenceBinding
  parentOperationId : Option ObjectOperationId
  deriving DecidableEq

/-- `_authorization_data_from_fields`. -/
structure AuthorizationFields where
  operationId : ObjectOperationId
  intentDigest : Digest
  provider : Provider
  objectKey : CanonicalText
  fenceAcquisitionOperationId : AcquireOperationId
  fenceAcquisitionReceiptId : ReceiptId
  fenceAcquisitionReceiptDigest : Digest
  revision : Revision
  fingerprint : Digest
  observedAt : Datetime
  authorizedAt : Datetime
  deriving DecidableEq

/-- `_object_receipt_data_from_fields`. -/
structure ObjectReceiptFields where
  operationId : ObjectOperationId
  intentDigest : Digest
  kind : BridgeOperationKind
  provider : Provider
  objectKey : CanonicalText
  fenceTokenDigest : FenceTokenDigest
  fenceEpoch : ℕ
  fenceScopeDigest : Digest
  fenceWriterId : CanonicalText
  fenceAcquisitionOperationId : AcquireOperationId
  fenceAcquisitionReceiptId : ReceiptId
  fenceAcquisitionReceiptDigest : Digest
  authorizationDigest : Digest
  authorizationObservedAt : Datetime
  authorizedAt : Datetime
  previousRevision : Revision
  resultRevision : Revision
  preFingerprint : Digest
  postFingerprint : Digest
  outcome : BridgeReceiptOutcome
  evidence : BridgeReceiptEvidence
  effectAt : Option Datetime
  acknowledgedAt : Datetime
  durableAt : Datetime
  durable : Bool
  deriving DecidableEq

/-- The content of a receipt; its constructor is the domain that `_receipt_identity` adds. -/
inductive ReceiptContent
  | fenceAcquisition (values : AcquisitionReceiptFields)
  | fenceAcquisitionNoEffect (values : AcquisitionNoEffectFields)
  | fenceRelease (values : ReleaseReceiptFields)
  | fenceReleaseNoEffect (values : ReleaseNoEffectFields)
  | objectOperation (values : ObjectReceiptFields)
  deriving DecidableEq

/-- Everything that is hashed. -/
inductive Payload
  | referencePlan (planDigest : Digest)
  | acquisitionIntent (values : AcquisitionIntentFields)
  | releaseIntent (values : ReleaseIntentFields)
  | objectIntent (values : ObjectIntentFields)
  | authorization (values : AuthorizationFields)
  | receiptIdentity (content : ReceiptContent)
  | receiptDigest (receiptId : ReceiptId) (content : ReceiptContent)
  deriving DecidableEq

/-- The digest function, `_digest_json` over the canonical JSON of a payload. -/
class DigestJson where
  digestJson : Payload → Digest

export DigestJson (digestJson)

variable [DigestJson]

/-- `_receipt_identity`. -/
def receiptIdentity (content : ReceiptContent) : ReceiptId × Digest :=
  let receiptId : ReceiptId := ⟨(digestJson (.receiptIdentity content)).prefix24⟩
  (receiptId, digestJson (.receiptDigest receiptId content))

open Checked in
/-- `_validate_plan_binding`. -/
def validatePlanBinding (planId : PlanId) (planDigest : Digest) : Except PyError Unit :=
  check (planId = ⟨(digestJson (.referencePlan planDigest)).prefix24⟩)
    (.valueError "Reference plan ID does not match its digest.")

end TrueFamily.Transaction
