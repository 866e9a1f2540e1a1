import TrueFamily.Transaction.Codec.Record
import TrueFamily.Transaction.Release

/-!
# Codecs of the fence records

Acquisition and release intents, their receipts of both outcomes, and the fence binding. Each
record has its fields as they are written, its encoder, the reader of its fields and its decoder;
`decode…_eq_ok` says that the decoder accepts exactly the encodings of the valid records.
-/

namespace TrueFamily.Transaction

open Checked JsonValue

variable {φ : Type} [FloatText φ] [DigestJson]

/-! ## Acquisition intents -/

def acquisitionIntentDict (value : FenceAcquisitionIntent) : List (String × JsonValue φ) :=
  [("operation_id", encodeAcquireOperationId value.operationId),
    ("intent_digest", encodeDigest value.intentDigest),
    ("plan_id", encodePlanId value.planId),
    ("plan_digest", encodeDigest value.planDigest),
    ("manifest_digest", encodeDigest value.manifestDigest),
    ("attempt", encodeInteger value.attempt),
    ("provider", encodeName value.provider),
    ("writer_id", encodeString value.writerId),
    ("expected_inventory_revision", encodeRevision value.expectedInventoryRevision),
    ("scope_digest", encodeDigest value.scopeDigest),
    ("epoch", encodeInteger value.epoch),
    ("requested_at", encodeTimestamp value.requestedAt),
    ("expires_at", encodeTimestamp value.expiresAt)]

/-- `encode_fence_acquisition_intent`. -/
def encodeFenceAcquisitionIntent : FenceAcquisitionIntent → Except CodecError (JsonValue φ) :=
  encodeRecord "acquisition_intent" FenceAcquisitionIntent.postInit acquisitionIntentDict

def readFenceAcquisitionIntent (raw : List (Text × JsonValue φ)) :
    Except CodecError FenceAcquisitionIntent := do
  let operationId ← decodeAcquireOperationId (entry raw "operation_id")
    "acquisition_intent.operation_id"
  let intentDigest ← decodeDigest (entry raw "intent_digest") "acquisition_intent.intent_digest"
  let planText ← decodeString (entry raw "plan_id") "acquisition_intent.plan_id"
  let planDigest ← decodeDigest (entry raw "plan_digest") "acquisition_intent.plan_digest"
  let manifestDigest ← decodeDigest (entry raw "manifest_digest")
    "acquisition_intent.manifest_digest"
  let attempt ← decodePositiveInteger (entry raw "attempt") "acquisition_intent.attempt"
  let provider ← decodeProvider (entry raw "provider") "acquisition_intent.provider"
  let writerId ← decodeString (entry raw "writer_id") "acquisition_intent.writer_id"
  let expectedInventoryRevision ← decodeRevision (entry raw "expected_inventory_revision")
    "acquisition_intent.expected_inventory_revision"
  let scopeDigest ← decodeDigest (entry raw "scope_digest") "acquisition_intent.scope_digest"
  let epoch ← decodeNonnegativeInteger (entry raw "epoch") "acquisition_intent.epoch"
  let requestedAt ← decodeTimestamp (entry raw "requested_at") "acquisition_intent.requested_at"
  let expiresAt ← decodeTimestamp (entry raw "expires_at") "acquisition_intent.expires_at"
  let planId ← constructPlanId "acquisition_intent" planText
  return { operationId, intentDigest, planId, planDigest, manifestDigest, attempt, provider,
             writerId, expectedInventoryRevision, scopeDigest, epoch, requestedAt, expiresAt }

/-- `decode_fence_acquisition_intent`. -/
def decodeFenceAcquisitionIntent : JsonValue φ → Except CodecError FenceAcquisitionIntent :=
  decodeRecord "acquisition_intent"
    ["operation_id", "intent_digest", "plan_id", "plan_digest", "manifest_digest", "attempt",
      "provider", "writer_id", "expected_inventory_revision", "scope_digest", "epoch",
      "requested_at", "expires_at"]
    readFenceAcquisitionIntent FenceAcquisitionIntent.postInit encodeFenceAcquisitionIntent

omit [FloatText φ] in
theorem encodeFenceAcquisitionIntent_eq_ok {a : FenceAcquisitionIntent} {encoded : JsonValue φ} :
    encodeFenceAcquisitionIntent a = .ok encoded ↔
      a.WellFormed ∧ encoded = dictOf (acquisitionIntentDict a) :=
  encodeRecord_eq_ok fun _ => FenceAcquisitionIntent.postInit_eq_ok

theorem decodeFenceAcquisitionIntent_eq_ok {value : JsonValue φ} {a : FenceAcquisitionIntent} :
    decodeFenceAcquisitionIntent value = .ok a ↔
      value = dictOf (acquisitionIntentDict a) ∧ a.WellFormed ∧ Representable value := by
  refine decodeRecord_eq_ok (fun a => 1 ≤ a.attempt) (fun _ => rfl) (by decide)
    (fun raw a => ?_) (fun _ => FenceAcquisitionIntent.postInit_eq_ok)
    (fun _ _ => encodeFenceAcquisitionIntent_eq_ok)
    (fun _ h _ => h.attempt_pos)
  obtain ⟨⟨⟩⟩ := a
  simp [readFenceAcquisitionIntent, acquisitionIntentDict, bind_eq_ok, pure_eq_ok, encodePlanId,
    -bind_pure_comp]
  constructor <;> intro h <;> simp only [h, and_self]

/-! ## Acquisition receipts -/

def acquisitionReceiptDict (value : FenceAcquisitionReceipt) : List (String × JsonValue φ) :=
  [("operation_id", encodeAcquireOperationId value.operationId),
    ("intent_digest", encodeDigest value.intentDigest),
    ("receipt_id", encodeReceiptId value.receiptId),
    ("outcome", encodeName BridgeReceiptOutcome.applied),
    ("provider", encodeName value.provider),
    ("writer_id", encodeString value.writerId),
    ("expected_inventory_revision", encodeRevision value.expectedInventoryRevision),
    ("acquired_inventory_revision", encodeRevision value.acquiredInventoryRevision),
    ("fence_revision", encodeRevision value.fenceRevision),
    ("scope_digest", encodeDigest value.scopeDigest),
    ("epoch", encodeInteger value.epoch),
    ("token_digest", encodeFenceTokenDigest value.tokenDigest),
    ("acquired_at", encodeTimestamp value.acquiredAt),
    ("expires_at", encodeTimestamp value.expiresAt),
    ("acknowledged_at", encodeTimestamp value.acknowledgedAt),
    ("durable_at", encodeTimestamp value.durableAt),
    ("receipt_digest", encodeDigest value.receiptDigest)]

/-- `encode_fence_acquisition_receipt`. -/
def encodeFenceAcquisitionReceipt : FenceAcquisitionReceipt → Except CodecError (JsonValue φ) :=
  encodeRecord "acquisition_receipt" FenceAcquisitionReceipt.postInit acquisitionReceiptDict

def readFenceAcquisitionReceipt (raw : List (Text × JsonValue φ)) :
    Except CodecError FenceAcquisitionReceipt := do
  let outcome ← decodeEnum BridgeReceiptOutcome (entry raw "outcome") "acquisition_receipt.outcome"
  check (outcome = .applied)
    (.codec "acquisition_receipt" "applied receipt has a non-applied outcome")
  let operationId ← decodeAcquireOperationId (entry raw "operation_id")
    "acquisition_receipt.operation_id"
  let intentDigest ← decodeDigest (entry raw "intent_digest") "acquisition_receipt.intent_digest"
  let receiptId ← decodeReceiptId (entry raw "receipt_id") "acquisition_receipt.receipt_id"
  let provider ← decodeProvider (entry raw "provider") "acquisition_receipt.provider"
  let writerId ← decodeString (entry raw "writer_id") "acquisition_receipt.writer_id"
  let expectedInventoryRevision ← decodeRevision (entry raw "expected_inventory_revision")
    "acquisition_receipt.expected_inventory_revision"
  let acquiredInventoryRevision ← decodeRevision (entry raw "acquired_inventory_revision")
    "acquisition_receipt.acquired_inventory_revision"
  let fenceRevision ← decodeRevision (entry raw "fence_revision")
    "acquisition_receipt.fence_revision"
  let scopeDigest ← decodeDigest (entry raw "scope_digest") "acquisition_receipt.scope_digest"
  let epoch ← decodeNonnegativeInteger (entry raw "epoch") "acquisition_receipt.epoch"
  let tokenDigest ← decodeFenceTokenDigest (entry raw "token_digest")
    "acquisition_receipt.token_digest"
  let acquiredAt ← decodeTimestamp (entry raw "acquired_at") "acquisition_receipt.acquired_at"
  let expiresAt ← decodeTimestamp (entry raw "expires_at") "acquisition_receipt.expires_at"
  let acknowledgedAt ← decodeTimestamp (entry raw "acknowledged_at")
    "acquisition_receipt.acknowledged_at"
  let durableAt ← decodeTimestamp (entry raw "durable_at") "acquisition_receipt.durable_at"
  let receiptDigest ← decodeDigest (entry raw "receipt_digest") "acquisition_receipt.receipt_digest"
  return { operationId, intentDigest, receiptId, provider, writerId, expectedInventoryRevision,
             acquiredInventoryRevision, fenceRevision, scopeDigest, epoch, tokenDigest,
             acquiredAt, expiresAt, acknowledgedAt, durableAt, receiptDigest }

/-- `decode_fence_acquisition_receipt`. -/
def decodeFenceAcquisitionReceipt : JsonValue φ → Except CodecError FenceAcquisitionReceipt :=
  decodeRecord "acquisition_receipt"
    ["operation_id", "intent_digest", "receipt_id", "outcome", "provider", "writer_id",
      "expected_inventory_revision", "acquired_inventory_revision", "fence_revision",
      "scope_digest", "epoch", "token_digest", "acquired_at", "expires_at", "acknowledged_at",
      "durable_at", "receipt_digest"]
    readFenceAcquisitionReceipt FenceAcquisitionReceipt.postInit encodeFenceAcquisitionReceipt

theorem decodeFenceAcquisitionReceipt_eq_ok {value : JsonValue φ} {a : FenceAcquisitionReceipt} :
    decodeFenceAcquisitionReceipt value = .ok a ↔
      value = dictOf (acquisitionReceiptDict a) ∧ a.WellFormed ∧ Representable value := by
  refine decodeRecord_eq_ok (fun _ => True) (fun _ => rfl) (by decide)
    (fun raw a => ?_) (fun _ => FenceAcquisitionReceipt.postInit_eq_ok)
    (fun _ _ => encodeRecord_eq_ok fun _ => FenceAcquisitionReceipt.postInit_eq_ok)
    (fun _ _ _ => trivial)
  obtain ⟨⟨⟩⟩ := a
  simp [readFenceAcquisitionReceipt, acquisitionReceiptDict, bind_eq_ok, pure_eq_ok,
    -bind_pure_comp]
  constructor <;> intro h <;> simp only [h, and_self]

/-! ## Acquisition tombstones -/

def acquisitionNoEffectReceiptDict (value : FenceAcquisitionNoEffectReceipt) :
    List (String × JsonValue φ) :=
  [("operation_id", encodeAcquireOperationId value.operationId),
    ("intent_digest", encodeDigest value.intentDigest),
    ("receipt_id", encodeReceiptId value.receiptId),
    ("provider", encodeName value.provider),
    ("writer_id", encodeString value.writerId),
    ("expected_inventory_revision", encodeRevision value.expectedInventoryRevision),
    ("scope_digest", encodeDigest value.scopeDigest),
    ("epoch", encodeInteger value.epoch),
    ("outcome", encodeName value.outcome),
    ("evidence", encodeName value.evidence),
    ("acknowledged_at", encodeTimestamp value.acknowledgedAt),
    ("durable_at", encodeTimestamp value.durableAt),
    ("durable", encodeBoolean value.durable),
    ("receipt_digest", encodeDigest value.receiptDigest)]

/-- `encode_fence_acquisition_no_effect_receipt`. -/
def encodeFenceAcquisitionNoEffectReceipt : FenceAcquisitionNoEffectReceipt →
    Except CodecError (JsonValue φ) :=
  encodeRecord "acquisition_no_effect_receipt" FenceAcquisitionNoEffectReceipt.postInit
    acquisitionNoEffectReceiptDict

def readFenceAcquisitionNoEffectReceipt (raw : List (Text × JsonValue φ)) :
    Except CodecError FenceAcquisitionNoEffectReceipt := do
  let operationId ← decodeAcquireOperationId (entry raw "operation_id")
    "acquisition_no_effect_receipt.operation_id"
  let intentDigest ← decodeDigest (entry raw "intent_digest")
    "acquisition_no_effect_receipt.intent_digest"
  let receiptId ← decodeReceiptId (entry raw "receipt_id")
    "acquisition_no_effect_receipt.receipt_id"
  let provider ← decodeProvider (entry raw "provider") "acquisition_no_effect_receipt.provider"
  let writerId ← decodeString (entry raw "writer_id") "acquisition_no_effect_receipt.writer_id"
  let expectedInventoryRevision ← decodeRevision (entry raw "expected_inventory_revision")
    "acquisition_no_effect_receipt.expected_inventory_revision"
  let scopeDigest ← decodeDigest (entry raw "scope_digest")
    "acquisition_no_effect_receipt.scope_digest"
  let epoch ← decodeNonnegativeInteger (entry raw "epoch") "acquisition_no_effect_receipt.epoch"
  let outcome ← decodeEnum BridgeReceiptOutcome (entry raw "outcome")
    "acquisition_no_effect_receipt.outcome"
  let evidence ← decodeEnum BridgeReceiptEvidence (entry raw "evidence")
    "acquisition_no_effect_receipt.evidence"
  let acknowledgedAt ← decodeTimestamp (entry raw "acknowledged_at")
    "acquisition_no_effect_receipt.acknowledged_at"
  let durableAt ← decodeTimestamp (entry raw "durable_at")
    "acquisition_no_effect_receipt.durable_at"
  let durable ← decodeBoolean (entry raw "durable") "acquisition_no_effect_receipt.durable"
  let receiptDigest ← decodeDigest (entry raw "receipt_digest")
    "acquisition_no_effect_receipt.receipt_digest"
  return { operationId, intentDigest, receiptId, provider, writerId, expectedInventoryRevision,
             scopeDigest, epoch, outcome, evidence, acknowledgedAt, durableAt, durable,
             receiptDigest }

/-- `decode_fence_acquisition_no_effect_receipt`. -/
def decodeFenceAcquisitionNoEffectReceipt : JsonValue φ →
    Except CodecError FenceAcquisitionNoEffectReceipt :=
  decodeRecord "acquisition_no_effect_receipt"
    ["operation_id", "intent_digest", "receipt_id", "provider", "writer_id",
      "expected_inventory_revision", "scope_digest", "epoch", "outcome", "evidence",
      "acknowledged_at", "durable_at", "durable", "receipt_digest"]
    readFenceAcquisitionNoEffectReceipt FenceAcquisitionNoEffectReceipt.postInit
    encodeFenceAcquisitionNoEffectReceipt

theorem decodeFenceAcquisitionNoEffectReceipt_eq_ok {value : JsonValue φ}
    {a : FenceAcquisitionNoEffectReceipt} :
    decodeFenceAcquisitionNoEffectReceipt value = .ok a ↔
      value = dictOf (acquisitionNoEffectReceiptDict a) ∧ a.WellFormed ∧ Representable value := by
  refine decodeRecord_eq_ok (fun _ => True) (fun _ => rfl) (by decide)
    (fun raw a => ?_) (fun _ => FenceAcquisitionNoEffectReceipt.postInit_eq_ok)
    (fun _ _ => encodeRecord_eq_ok fun _ => FenceAcquisitionNoEffectReceipt.postInit_eq_ok)
    (fun _ _ _ => trivial)
  obtain ⟨⟨⟩⟩ := a
  simp [readFenceAcquisitionNoEffectReceipt, acquisitionNoEffectReceiptDict, bind_eq_ok,
    pure_eq_ok, -bind_pure_comp, -Bool.exists_bool]

/-! ## Fence bindings -/

def fenceBindingDict (value : FenceBinding) : List (String × JsonValue φ) :=
  [("provider", encodeName value.provider),
    ("writer_id", encodeString value.writerId),
    ("token_digest", encodeFenceTokenDigest value.tokenDigest),
    ("epoch", encodeInteger value.epoch),
    ("fence_revision", encodeRevision value.fenceRevision),
    ("base_revision", encodeRevision value.baseRevision),
    ("scope_digest", encodeDigest value.scopeDigest),
    ("acquired_at", encodeTimestamp value.acquiredAt),
    ("acquisition_durable_at", encodeTimestamp value.acquisitionDurableAt),
    ("expires_at", encodeTimestamp value.expiresAt),
    ("acquisition_operation_id", encodeAcquireOperationId value.acquisitionOperationId),
    ("acquisition_receipt_id", encodeReceiptId value.acquisitionReceiptId),
    ("acquisition_receipt_digest", encodeDigest value.acquisitionReceiptDigest)]

/-- `encode_fence_binding`. -/
def encodeFenceBinding : FenceBinding → Except CodecError (JsonValue φ) :=
  encodeRecord "fence" FenceBinding.postInit fenceBindingDict

def readFenceBinding (raw : List (Text × JsonValue φ)) :
    Except CodecError FenceBinding := do
  let provider ← decodeProvider (entry raw "provider") "fence.provider"
  let writerId ← decodeString (entry raw "writer_id") "fence.writer_id"
  let tokenDigest ← decodeFenceTokenDigest (entry raw "token_digest") "fence.token_digest"
  let epoch ← decodeNonnegativeInteger (entry raw "epoch") "fence.epoch"
  let fenceRevision ← decodeRevision (entry raw "fence_revision") "fence.fence_revision"
  let baseRevision ← decodeRevision (entry raw "base_revision") "fence.base_revision"
  let scopeDigest ← decodeDigest (entry raw "scope_digest") "fence.scope_digest"
  let acquiredAt ← decodeTimestamp (entry raw "acquired_at") "fence.acquired_at"
  let acquisitionDurableAt ← decodeTimestamp (entry raw "acquisition_durable_at")
    "fence.acquisition_durable_at"
  let expiresAt ← decodeTimestamp (entry raw "expires_at") "fence.expires_at"
  let acquisitionOperationId ← decodeAcquireOperationId (entry raw "acquisition_operation_id")
    "fence.acquisition_operation_id"
  let acquisitionReceiptId ← decodeReceiptId (entry raw "acquisition_receipt_id")
    "fence.acquisition_receipt_id"
  let acquisitionReceiptDigest ← decodeDigest (entry raw "acquisition_receipt_digest")
    "fence.acquisition_receipt_digest"
  return { provider, writerId, tokenDigest, epoch, fenceRevision, baseRevision, scopeDigest,
             acquiredAt, acquisitionDurableAt, expiresAt, acquisitionOperationId,
             acquisitionReceiptId, acquisitionReceiptDigest }

/-- `decode_fence_binding`. -/
def decodeFenceBinding : JsonValue φ → Except CodecError FenceBinding :=
  decodeRecord "fence"
    ["provider", "writer_id", "token_digest", "epoch", "fence_revision", "base_revision",
      "scope_digest", "acquired_at", "acquisition_durable_at", "expires_at",
      "acquisition_operation_id", "acquisition_receipt_id", "acquisition_receipt_digest"]
    readFenceBinding FenceBinding.postInit encodeFenceBinding

omit [DigestJson] in
theorem decodeFenceBinding_eq_ok {value : JsonValue φ} {a : FenceBinding} :
    decodeFenceBinding value = .ok a ↔
      value = dictOf (fenceBindingDict a) ∧ a.WellFormed ∧ Representable value := by
  refine decodeRecord_eq_ok (fun _ => True) (fun _ => rfl) (by decide)
    (fun raw a => ?_) (fun _ => FenceBinding.postInit_eq_ok)
    (fun _ _ => encodeRecord_eq_ok fun _ => FenceBinding.postInit_eq_ok) (fun _ _ _ => trivial)
  cases a
  simp [readFenceBinding, fenceBindingDict, bind_eq_ok, pure_eq_ok, -bind_pure_comp]

/-! ## Release intents -/

def releaseIntentDict (value : FenceReleaseIntent) : List (String × JsonValue φ) :=
  [("operation_id", encodeReleaseOperationId value.operationId),
    ("intent_digest", encodeDigest value.intentDigest),
    ("plan_id", encodePlanId value.planId),
    ("plan_digest", encodeDigest value.planDigest),
    ("manifest_digest", encodeDigest value.manifestDigest),
    ("attempt", encodeInteger value.attempt),
    ("release_attempt", encodeInteger value.releaseAttempt),
    ("provider", encodeName value.provider),
    ("writer_id", encodeString value.writerId),
    ("acquisition_operation_id", encodeAcquireOperationId value.acquisitionOperationId),
    ("acquisition_receipt_id", encodeReceiptId value.acquisitionReceiptId),
    ("acquisition_receipt_digest", encodeDigest value.acquisitionReceiptDigest),
    ("token_digest", encodeFenceTokenDigest value.tokenDigest),
    ("scope_digest", encodeDigest value.scopeDigest),
    ("epoch", encodeInteger value.epoch),
    ("expected_inventory_revision", encodeRevision value.expectedInventoryRevision),
    ("requested_at", encodeTimestamp value.requestedAt)]

/-- `encode_fence_release_intent`. -/
def encodeFenceReleaseIntent : FenceReleaseIntent → Except CodecError (JsonValue φ) :=
  encodeRecord "release_intent" FenceReleaseIntent.postInit releaseIntentDict

def readFenceReleaseIntent (raw : List (Text × JsonValue φ)) :
    Except CodecError FenceReleaseIntent := do
  let operationId ← decodeReleaseOperationId (entry raw "operation_id")
    "release_intent.operation_id"
  let intentDigest ← decodeDigest (entry raw "intent_digest") "release_intent.intent_digest"
  let planText ← decodeString (entry raw "plan_id") "release_intent.plan_id"
  let planDigest ← decodeDigest (entry raw "plan_digest") "release_intent.plan_digest"
  let manifestDigest ← decodeDigest (entry raw "manifest_digest") "release_intent.manifest_digest"
  let attempt ← decodePositiveInteger (entry raw "attempt") "release_intent.attempt"
  let releaseAttempt ← decodePositiveInteger (entry raw "release_attempt")
    "release_intent.release_attempt"
  let provider ← decodeProvider (entry raw "provider") "release_intent.provider"
  let writerId ← decodeString (entry raw "writer_id") "release_intent.writer_id"
  let acquisitionOperationId ← decodeAcquireOperationId (entry raw "acquisition_operation_id")
    "release_intent.acquisition_operation_id"
  let acquisitionReceiptId ← decodeReceiptId (entry raw "acquisition_receipt_id")
    "release_intent.acquisition_receipt_id"
  let acquisitionReceiptDigest ← decodeDigest (entry raw "acquisition_receipt_digest")
    "release_intent.acquisition_receipt_digest"
  let tokenDigest ← decodeFenceTokenDigest (entry raw "token_digest") "release_intent.token_digest"
  let scopeDigest ← decodeDigest (entry raw "scope_digest") "release_intent.scope_digest"
  let epoch ← decodeNonnegativeInteger (entry raw "epoch") "release_intent.epoch"
  let expectedInventoryRevision ← decodeRevision (entry raw "expected_inventory_revision")
    "release_intent.expected_inventory_revision"
  let requestedAt ← decodeTimestamp (entry raw "requested_at") "release_intent.requested_at"
  let planId ← constructPlanId "release_intent" planText
  return { operationId, intentDigest, planId, planDigest, manifestDigest, attempt, releaseAttempt,
             provider, writerId, acquisitionOperationId, acquisitionReceiptId,
             acquisitionReceiptDigest, tokenDigest, scopeDigest, epoch, expectedInventoryRevision,
             requestedAt }

/-- `decode_fence_release_intent`. -/
def decodeFenceReleaseIntent : JsonValue φ → Except CodecError FenceReleaseIntent :=
  decodeRecord "release_intent"
    ["operation_id", "intent_digest", "plan_id", "plan_digest", "manifest_digest", "attempt",
      "release_attempt", "provider", "writer_id", "acquisition_operation_id",
      "acquisition_receipt_id", "acquisition_receipt_digest", "token_digest", "scope_digest",
      "epoch", "expected_inventory_revision", "requested_at"]
    readFenceReleaseIntent FenceReleaseIntent.postInit encodeFenceReleaseIntent

omit [FloatText φ] in
theorem encodeFenceReleaseIntent_eq_ok {a : FenceReleaseIntent} {encoded : JsonValue φ} :
    encodeFenceReleaseIntent a = .ok encoded ↔
      a.WellFormed ∧ encoded = dictOf (releaseIntentDict a) :=
  encodeRecord_eq_ok fun _ => FenceReleaseIntent.postInit_eq_ok

theorem decodeFenceReleaseIntent_eq_ok {value : JsonValue φ} {a : FenceReleaseIntent} :
    decodeFenceReleaseIntent value = .ok a ↔
      value = dictOf (releaseIntentDict a) ∧ a.WellFormed ∧ Representable value := by
  refine decodeRecord_eq_ok (fun a => 1 ≤ a.attempt ∧ 1 ≤ a.releaseAttempt) (fun _ => rfl)
    (by decide)
    (fun raw a => ?_) (fun _ => FenceReleaseIntent.postInit_eq_ok)
    (fun _ _ => encodeFenceReleaseIntent_eq_ok)
    (fun _ h _ => ⟨h.attempt_pos, h.releaseAttempt_pos⟩)
  obtain ⟨⟨⟩⟩ := a
  simp [readFenceReleaseIntent, releaseIntentDict, bind_eq_ok, pure_eq_ok, encodePlanId,
    -bind_pure_comp]
  constructor <;> intro h <;> simp only [h, and_self]

/-! ## Release receipts -/

def releaseReceiptDict (value : FenceReleaseReceipt) : List (String × JsonValue φ) :=
  [("operation_id", encodeReleaseOperationId value.operationId),
    ("intent_digest", encodeDigest value.intentDigest),
    ("receipt_id", encodeReceiptId value.receiptId),
    ("release_attempt", encodeInteger value.releaseAttempt),
    ("outcome", encodeName BridgeReceiptOutcome.applied),
    ("provider", encodeName value.provider),
    ("writer_id", encodeString value.writerId),
    ("acquisition_operation_id", encodeAcquireOperationId value.acquisitionOperationId),
    ("acquisition_receipt_id", encodeReceiptId value.acquisitionReceiptId),
    ("acquisition_receipt_digest", encodeDigest value.acquisitionReceiptDigest),
    ("token_digest", encodeFenceTokenDigest value.tokenDigest),
    ("scope_digest", encodeDigest value.scopeDigest),
    ("epoch", encodeInteger value.epoch),
    ("expected_inventory_revision", encodeRevision value.expectedInventoryRevision),
    ("final_inventory_revision", encodeRevision value.finalInventoryRevision),
    ("released_at", encodeTimestamp value.releasedAt),
    ("acknowledged_at", encodeTimestamp value.acknowledgedAt),
    ("durable_at", encodeTimestamp value.durableAt),
    ("receipt_digest", encodeDigest value.receiptDigest)]

/-- `encode_fence_release_receipt`. -/
def encodeFenceReleaseReceipt : FenceReleaseReceipt → Except CodecError (JsonValue φ) :=
  encodeRecord "release_receipt" FenceReleaseReceipt.postInit releaseReceiptDict

def readFenceReleaseReceipt (raw : List (Text × JsonValue φ)) :
    Except CodecError FenceReleaseReceipt := do
  let outcome ← decodeEnum BridgeReceiptOutcome (entry raw "outcome") "release_receipt.outcome"
  check (outcome = .applied)
    (.codec "release_receipt" "applied receipt has a non-applied outcome")
  let operationId ← decodeReleaseOperationId (entry raw "operation_id")
    "release_receipt.operation_id"
  let intentDigest ← decodeDigest (entry raw "intent_digest") "release_receipt.intent_digest"
  let receiptId ← decodeReceiptId (entry raw "receipt_id") "release_receipt.receipt_id"
  let releaseAttempt ← decodePositiveInteger (entry raw "release_attempt")
    "release_receipt.release_attempt"
  let provider ← decodeProvider (entry raw "provider") "release_receipt.provider"
  let writerId ← decodeString (entry raw "writer_id") "release_receipt.writer_id"
  let acquisitionOperationId ← decodeAcquireOperationId (entry raw "acquisition_operation_id")
    "release_receipt.acquisition_operation_id"
  let acquisitionReceiptId ← decodeReceiptId (entry raw "acquisition_receipt_id")
    "release_receipt.acquisition_receipt_id"
  let acquisitionReceiptDigest ← decodeDigest (entry raw "acquisition_receipt_digest")
    "release_receipt.acquisition_receipt_digest"
  let tokenDigest ← decodeFenceTokenDigest (entry raw "token_digest") "release_receipt.token_digest"
  let scopeDigest ← decodeDigest (entry raw "scope_digest") "release_receipt.scope_digest"
  let epoch ← decodeNonnegativeInteger (entry raw "epoch") "release_receipt.epoch"
  let expectedInventoryRevision ← decodeRevision (entry raw "expected_inventory_revision")
    "release_receipt.expected_inventory_revision"
  let finalInventoryRevision ← decodeRevision (entry raw "final_inventory_revision")
    "release_receipt.final_inventory_revision"
  let releasedAt ← decodeTimestamp (entry raw "released_at") "release_receipt.released_at"
  let acknowledgedAt ← decodeTimestamp (entry raw "acknowledged_at")
    "release_receipt.acknowledged_at"
  let durableAt ← decodeTimestamp (entry raw "durable_at") "release_receipt.durable_at"
  let receiptDigest ← decodeDigest (entry raw "receipt_digest") "release_receipt.receipt_digest"
  return { operationId, intentDigest, receiptId, releaseAttempt, provider, writerId,
             acquisitionOperationId, acquisitionReceiptId, acquisitionReceiptDigest, tokenDigest,
             scopeDigest, epoch, expectedInventoryRevision, finalInventoryRevision, releasedAt,
             acknowledgedAt, durableAt, receiptDigest }

/-- `decode_fence_release_receipt`. -/
def decodeFenceReleaseReceipt : JsonValue φ → Except CodecError FenceReleaseReceipt :=
  decodeRecord "release_receipt"
    ["operation_id", "intent_digest", "receipt_id", "release_attempt", "outcome", "provider",
      "writer_id", "acquisition_operation_id", "acquisition_receipt_id",
      "acquisition_receipt_digest", "token_digest", "scope_digest", "epoch",
      "expected_inventory_revision", "final_inventory_revision", "released_at", "acknowledged_at",
      "durable_at", "receipt_digest"]
    readFenceReleaseReceipt FenceReleaseReceipt.postInit encodeFenceReleaseReceipt

theorem decodeFenceReleaseReceipt_eq_ok {value : JsonValue φ} {a : FenceReleaseReceipt} :
    decodeFenceReleaseReceipt value = .ok a ↔
      value = dictOf (releaseReceiptDict a) ∧ a.WellFormed ∧ Representable value := by
  refine decodeRecord_eq_ok (fun a => 1 ≤ a.releaseAttempt) (fun _ => rfl) (by decide)
    (fun raw a => ?_) (fun _ => FenceReleaseReceipt.postInit_eq_ok)
    (fun _ _ => encodeRecord_eq_ok fun _ => FenceReleaseReceipt.postInit_eq_ok)
    (fun _ h _ => h.releaseAttempt_pos)
  obtain ⟨⟨⟩⟩ := a
  simp [readFenceReleaseReceipt, releaseReceiptDict, bind_eq_ok, pure_eq_ok, -bind_pure_comp]
  constructor <;> intro h <;> simp only [h, and_self]

/-! ## Release tombstones -/

def releaseNoEffectReceiptDict (value : FenceReleaseNoEffectReceipt) :
    List (String × JsonValue φ) :=
  [("operation_id", encodeReleaseOperationId value.operationId),
    ("intent_digest", encodeDigest value.intentDigest),
    ("receipt_id", encodeReceiptId value.receiptId),
    ("release_attempt", encodeInteger value.releaseAttempt),
    ("provider", encodeName value.provider),
    ("writer_id", encodeString value.writerId),
    ("acquisition_operation_id", encodeAcquireOperationId value.acquisitionOperationId),
    ("acquisition_receipt_id", encodeReceiptId value.acquisitionReceiptId),
    ("acquisition_receipt_digest", encodeDigest value.acquisitionReceiptDigest),
    ("token_digest", encodeFenceTokenDigest value.tokenDigest),
    ("scope_digest", encodeDigest value.scopeDigest),
    ("epoch", encodeInteger value.epoch),
    ("expected_inventory_revision", encodeRevision value.expectedInventoryRevision),
    ("outcome", encodeName value.outcome),
    ("evidence", encodeName value.evidence),
    ("acknowledged_at", encodeTimestamp value.acknowledgedAt),
    ("durable_at", encodeTimestamp value.durableAt),
    ("durable", encodeBoolean value.durable),
    ("receipt_digest", encodeDigest value.receiptDigest)]

/-- `encode_fence_release_no_effect_receipt`. -/
def encodeFenceReleaseNoEffectReceipt : FenceReleaseNoEffectReceipt →
    Except CodecError (JsonValue φ) :=
  encodeRecord "release_no_effect_receipt" FenceReleaseNoEffectReceipt.postInit
    releaseNoEffectReceiptDict

def readFenceReleaseNoEffectReceipt (raw : List (Text × JsonValue φ)) :
    Except CodecError FenceReleaseNoEffectReceipt := do
  let operationId ← decodeReleaseOperationId (entry raw "operation_id")
    "release_no_effect_receipt.operation_id"
  let intentDigest ← decodeDigest (entry raw "intent_digest")
    "release_no_effect_receipt.intent_digest"
  let receiptId ← decodeReceiptId (entry raw "receipt_id") "release_no_effect_receipt.receipt_id"
  let releaseAttempt ← decodePositiveInteger (entry raw "release_attempt")
    "release_no_effect_receipt.release_attempt"
  let provider ← decodeProvider (entry raw "provider") "release_no_effect_receipt.provider"
  let writerId ← decodeString (entry raw "writer_id") "release_no_effect_receipt.writer_id"
  let acquisitionOperationId ← decodeAcquireOperationId (entry raw "acquisition_operation_id")
    "release_no_effect_receipt.acquisition_operation_id"
  let acquisitionReceiptId ← decodeReceiptId (entry raw "acquisition_receipt_id")
    "release_no_effect_receipt.acquisition_receipt_id"
  let acquisitionReceiptDigest ← decodeDigest (entry raw "acquisition_receipt_digest")
    "release_no_effect_receipt.acquisition_receipt_digest"
  let tokenDigest ← decodeFenceTokenDigest (entry raw "token_digest")
    "release_no_effect_receipt.token_digest"
  let scopeDigest ← decodeDigest (entry raw "scope_digest") "release_no_effect_receipt.scope_digest"
  let epoch ← decodeNonnegativeInteger (entry raw "epoch") "release_no_effect_receipt.epoch"
  let expectedInventoryRevision ← decodeRevision (entry raw "expected_inventory_revision")
    "release_no_effect_receipt.expected_inventory_revision"
  let outcome ← decodeEnum BridgeReceiptOutcome (entry raw "outcome")
    "release_no_effect_receipt.outcome"
  let evidence ← decodeEnum BridgeReceiptEvidence (entry raw "evidence")
    "release_no_effect_receipt.evidence"
  let acknowledgedAt ← decodeTimestamp (entry raw "acknowledged_at")
    "release_no_effect_receipt.acknowledged_at"
  let durableAt ← decodeTimestamp (entry raw "durable_at") "release_no_effect_receipt.durable_at"
  let durable ← decodeBoolean (entry raw "durable") "release_no_effect_receipt.durable"
  let receiptDigest ← decodeDigest (entry raw "receipt_digest")
    "release_no_effect_receipt.receipt_digest"
  return { operationId, intentDigest, receiptId, releaseAttempt, provider, writerId,
             acquisitionOperationId, acquisitionReceiptId, acquisitionReceiptDigest, tokenDigest,
             scopeDigest, epoch, expectedInventoryRevision, outcome, evidence, acknowledgedAt,
             durableAt, durable, receiptDigest }

/-- `decode_fence_release_no_effect_receipt`. -/
def decodeFenceReleaseNoEffectReceipt : JsonValue φ →
    Except CodecError FenceReleaseNoEffectReceipt :=
  decodeRecord "release_no_effect_receipt"
    ["operation_id", "intent_digest", "receipt_id", "release_attempt", "provider", "writer_id",
      "acquisition_operation_id", "acquisition_receipt_id", "acquisition_receipt_digest",
      "token_digest", "scope_digest", "epoch", "expected_inventory_revision", "outcome",
      "evidence", "acknowledged_at", "durable_at", "durable", "receipt_digest"]
    readFenceReleaseNoEffectReceipt FenceReleaseNoEffectReceipt.postInit
    encodeFenceReleaseNoEffectReceipt

theorem decodeFenceReleaseNoEffectReceipt_eq_ok {value : JsonValue φ}
    {a : FenceReleaseNoEffectReceipt} :
    decodeFenceReleaseNoEffectReceipt value = .ok a ↔
      value = dictOf (releaseNoEffectReceiptDict a) ∧ a.WellFormed ∧ Representable value := by
  refine decodeRecord_eq_ok (fun a => 1 ≤ a.releaseAttempt) (fun _ => rfl) (by decide)
    (fun raw a => ?_) (fun _ => FenceReleaseNoEffectReceipt.postInit_eq_ok)
    (fun _ _ => encodeRecord_eq_ok fun _ => FenceReleaseNoEffectReceipt.postInit_eq_ok)
    (fun _ h _ => h.releaseAttempt_pos)
  obtain ⟨⟨⟩⟩ := a
  simp [readFenceReleaseNoEffectReceipt, releaseNoEffectReceiptDict, bind_eq_ok, pure_eq_ok,
    -bind_pure_comp, -Bool.exists_bool]
  constructor <;> intro h <;> simp only [h, and_self]

end TrueFamily.Transaction
