import TrueFamily.Transaction.Attempt
import TrueFamily.Transaction.Codec.Lifecycle

/-!
# Codecs of the object operations

The intent with its fence, the authorization, the receipt, the verifications, and the record that
holds them.
-/

namespace TrueFamily.Transaction

open Checked JsonValue

variable {φ : Type} [FloatText φ] [DigestJson]

/-! ## Intents -/

/-- The fields of an intent whose fence is written as `fence`. -/
def objectIntentDictWith (value : BridgeOperationIntent) (fence : JsonValue φ) :
    List (String × JsonValue φ) :=
  [("operation_id", encodeObjectOperationId value.operationId),
    ("intent_digest", encodeDigest value.intentDigest),
    ("plan_id", encodePlanId value.planId),
    ("plan_digest", encodeDigest value.planDigest),
    ("manifest_digest", encodeDigest value.manifestDigest),
    ("attempt", encodeInteger value.attempt),
    ("sequence", encodeInteger value.sequence),
    ("kind", encodeName value.kind),
    ("provider", encodeName value.provider),
    ("object_key", encodeString value.objectKey),
    ("expected_revision", encodeRevision value.expectedRevision),
    ("pre_fingerprint", encodeDigest value.preFingerprint),
    ("post_fingerprint", encodeDigest value.postFingerprint),
    ("fence", fence),
    ("parent_operation_id", encodeOption encodeObjectOperationId value.parentOperationId)]

def objectIntentDict (value : BridgeOperationIntent) : List (String × JsonValue φ) :=
  objectIntentDictWith value (dictOf (fenceBindingDict value.fence))

/-- `encode_bridge_operation_intent`. -/
def encodeBridgeOperationIntent (value : BridgeOperationIntent) :
    Except CodecError (JsonValue φ) := do
  construct "object_intent" value.postInit
  let fence ← encodeFenceBinding value.fence
  return dictOf (objectIntentDictWith value fence)

def readBridgeOperationIntent (raw : List (Text × JsonValue φ)) :
    Except CodecError BridgeOperationIntent := do
  let parentOperationId ← decodeOption
    (fun value => decodeObjectOperationId value "object_intent.parent_operation_id")
    (entry raw "parent_operation_id")
  let operationId ← decodeObjectOperationId (entry raw "operation_id") "object_intent.operation_id"
  let intentDigest ← decodeDigest (entry raw "intent_digest") "object_intent.intent_digest"
  let planText ← decodeString (entry raw "plan_id") "object_intent.plan_id"
  let planDigest ← decodeDigest (entry raw "plan_digest") "object_intent.plan_digest"
  let manifestDigest ← decodeDigest (entry raw "manifest_digest") "object_intent.manifest_digest"
  let attempt ← decodePositiveInteger (entry raw "attempt") "object_intent.attempt"
  let sequence ← decodePositiveInteger (entry raw "sequence") "object_intent.sequence"
  let kind ← decodeEnum BridgeOperationKind (entry raw "kind") "object_intent.kind"
  let provider ← decodeProvider (entry raw "provider") "object_intent.provider"
  let objectKey ← decodeString (entry raw "object_key") "object_intent.object_key"
  let expectedRevision ← decodeRevision (entry raw "expected_revision")
    "object_intent.expected_revision"
  let preFingerprint ← decodeDigest (entry raw "pre_fingerprint") "object_intent.pre_fingerprint"
  let postFingerprint ← decodeDigest (entry raw "post_fingerprint") "object_intent.post_fingerprint"
  let fence ← decodeFenceBinding (entry raw "fence")
  let planId ← constructPlanId "object_intent" planText
  return { operationId, intentDigest, planId, planDigest, manifestDigest, attempt, sequence, kind,
             provider, objectKey, expectedRevision, preFingerprint, postFingerprint, fence,
             parentOperationId }

/-- `decode_bridge_operation_intent`. -/
def decodeBridgeOperationIntent : JsonValue φ → Except CodecError BridgeOperationIntent :=
  decodeRecord "object_intent"
    ["operation_id", "intent_digest", "plan_id", "plan_digest", "manifest_digest", "attempt",
      "sequence", "kind", "provider", "object_key", "expected_revision", "pre_fingerprint",
      "post_fingerprint", "fence", "parent_operation_id"]
    readBridgeOperationIntent BridgeOperationIntent.postInit encodeBridgeOperationIntent

omit [FloatText φ] [DigestJson] in
theorem decodeParent_eq_ok {value : JsonValue φ} {path : String} {a : Option ObjectOperationId} :
    decodeOption (fun value => decodeObjectOperationId value path) value = .ok a ↔
      value = encodeOption encodeObjectOperationId a := by
  have hdecode : ∀ (value : JsonValue φ) (a : ObjectOperationId),
      decodeObjectOperationId value path = .ok a ↔ value = encodeObjectOperationId a ∧ True := by
    simp
  rw [decodeOption_eq_ok (fun _ => True) hdecode (by simp [encodeObjectOperationId])]
  simp

omit [FloatText φ] in
theorem encodeBridgeOperationIntent_eq_ok {a : BridgeOperationIntent} {encoded : JsonValue φ} :
    encodeBridgeOperationIntent a = .ok encoded ↔
      a.WellFormed ∧ encoded = dictOf (objectIntentDict a) := by
  have hfence : ∀ encoded : JsonValue φ, encodeFenceBinding a.fence = .ok encoded ↔
      a.fence.WellFormed ∧ encoded = dictOf (fenceBindingDict a.fence) :=
    fun encoded => encodeRecord_eq_ok fun _ => FenceBinding.postInit_eq_ok
  simp only [encodeBridgeOperationIntent, bind_eq_ok, exists_unit, construct_eq_ok, pure_eq_ok,
    BridgeOperationIntent.postInit_eq_ok, hfence]
  constructor
  · rintro ⟨ha, fence, ⟨_, rfl⟩, rfl⟩
    exact ⟨ha, rfl⟩
  · rintro ⟨ha, rfl⟩
    exact ⟨ha, _, ⟨ha.fence_wf, rfl⟩, rfl⟩

theorem decodeBridgeOperationIntent_eq_ok {value : JsonValue φ} {a : BridgeOperationIntent} :
    decodeBridgeOperationIntent value = .ok a ↔
      value = dictOf (objectIntentDict a) ∧ a.WellFormed ∧ Representable value := by
  refine decodeRecord_eq_ok (fun a => (1 ≤ a.attempt ∧ 1 ≤ a.sequence) ∧ a.fence.WellFormed
      ∧ Representable (dictOf (φ := φ) (fenceBindingDict a.fence)))
    (fun _ => rfl) (by decide) (fun raw a => ?_)
    (fun _ => BridgeOperationIntent.postInit_eq_ok)
    (fun _ _ => encodeBridgeOperationIntent_eq_ok) (fun a h hrepresentable => ?_)
  · have hfence : ∀ (value : JsonValue φ) (fence : FenceBinding),
        decodeFenceBinding value = .ok fence ↔ value = dictOf (fenceBindingDict fence)
          ∧ fence.WellFormed ∧ Representable (dictOf (φ := φ) (fenceBindingDict fence)) :=
      fun value fence => decodeFenceBinding_eq_ok.trans representable_congr
    obtain ⟨⟨⟩⟩ := a
    simp [readBridgeOperationIntent, objectIntentDict, objectIntentDictWith, bind_eq_ok, pure_eq_ok,
      encodePlanId, decodeParent_eq_ok, hfence, -bind_pure_comp]
    constructor <;> intro h <;> simp only [h, and_self]
  · exact ⟨⟨h.attempt_pos, h.sequence_pos⟩, h.fence_wf,
      Representable.field "fence" hrepresentable (by simp [objectIntentDict, objectIntentDictWith])⟩

/-! ## Dispatch authorizations -/

/-- `BridgeDispatchAuthorization` constructs the value. -/
def BridgeDispatchAuthorization.Accepted (value : BridgeDispatchAuthorization) : Prop :=
  value.postInit = .ok ()

def authorizationDict (value : BridgeDispatchAuthorization) : List (String × JsonValue φ) :=
  [("operation_id", encodeObjectOperationId value.operationId),
    ("intent_digest", encodeDigest value.intentDigest),
    ("provider", encodeName value.provider),
    ("object_key", encodeString value.objectKey),
    ("fence_acquisition_operation_id", encodeAcquireOperationId value.fenceAcquisitionOperationId),
    ("fence_acquisition_receipt_id", encodeReceiptId value.fenceAcquisitionReceiptId),
    ("fence_acquisition_receipt_digest", encodeDigest value.fenceAcquisitionReceiptDigest),
    ("revision", encodeRevision value.revision),
    ("fingerprint", encodeDigest value.fingerprint),
    ("observed_at", encodeTimestamp value.observedAt),
    ("authorized_at", encodeTimestamp value.authorizedAt),
    ("authorization_digest", encodeDigest value.authorizationDigest)]

/-- `encode_bridge_dispatch_authorization`. -/
def encodeBridgeDispatchAuthorization : BridgeDispatchAuthorization →
    Except CodecError (JsonValue φ) :=
  encodeRecord "dispatch_authorization" BridgeDispatchAuthorization.postInit authorizationDict

def readBridgeDispatchAuthorization (raw : List (Text × JsonValue φ)) :
    Except CodecError BridgeDispatchAuthorization := do
  let operationId ← decodeObjectOperationId (entry raw "operation_id")
    "dispatch_authorization.operation_id"
  let intentDigest ← decodeDigest (entry raw "intent_digest") "dispatch_authorization.intent_digest"
  let provider ← decodeProvider (entry raw "provider") "dispatch_authorization.provider"
  let objectKey ← decodeString (entry raw "object_key") "dispatch_authorization.object_key"
  let fenceAcquisitionOperationId ← decodeAcquireOperationId
    (entry raw "fence_acquisition_operation_id")
    "dispatch_authorization.fence_acquisition_operation_id"
  let fenceAcquisitionReceiptId ← decodeReceiptId (entry raw "fence_acquisition_receipt_id")
    "dispatch_authorization.fence_acquisition_receipt_id"
  let fenceAcquisitionReceiptDigest ← decodeDigest (entry raw "fence_acquisition_receipt_digest")
    "dispatch_authorization.fence_acquisition_receipt_digest"
  let revision ← decodeRevision (entry raw "revision") "dispatch_authorization.revision"
  let fingerprint ← decodeDigest (entry raw "fingerprint") "dispatch_authorization.fingerprint"
  let observedAt ← decodeTimestamp (entry raw "observed_at") "dispatch_authorization.observed_at"
  let authorizedAt ← decodeTimestamp (entry raw "authorized_at")
    "dispatch_authorization.authorized_at"
  let authorizationDigest ← decodeDigest (entry raw "authorization_digest")
    "dispatch_authorization.authorization_digest"
  return { operationId, intentDigest, provider, objectKey, fenceAcquisitionOperationId,
             fenceAcquisitionReceiptId, fenceAcquisitionReceiptDigest, revision, fingerprint,
             observedAt, authorizedAt, authorizationDigest }

/-- `decode_bridge_dispatch_authorization`. -/
def decodeBridgeDispatchAuthorization : JsonValue φ →
    Except CodecError BridgeDispatchAuthorization :=
  decodeRecord "dispatch_authorization"
    ["operation_id", "intent_digest", "provider", "object_key",
      "fence_acquisition_operation_id", "fence_acquisition_receipt_id",
      "fence_acquisition_receipt_digest", "revision", "fingerprint", "observed_at",
      "authorized_at", "authorization_digest"]
    readBridgeDispatchAuthorization BridgeDispatchAuthorization.postInit
    encodeBridgeDispatchAuthorization

omit [FloatText φ] in
theorem encodeBridgeDispatchAuthorization_eq_ok {a : BridgeDispatchAuthorization}
    {encoded : JsonValue φ} :
    encodeBridgeDispatchAuthorization a = .ok encoded ↔
      a.Accepted ∧ encoded = dictOf (authorizationDict a) :=
  encodeRecord_eq_ok fun _ => Iff.rfl

theorem decodeBridgeDispatchAuthorization_eq_ok {value : JsonValue φ}
    {a : BridgeDispatchAuthorization} :
    decodeBridgeDispatchAuthorization value = .ok a ↔
      value = dictOf (authorizationDict a) ∧ a.Accepted ∧ Representable value := by
  refine decodeRecord_eq_ok (fun _ => True) (fun _ => rfl) (by decide)
    (fun raw a => ?_) (fun _ => Iff.rfl)
    (fun _ _ => encodeBridgeDispatchAuthorization_eq_ok) (fun _ _ _ => trivial)
  obtain ⟨⟨⟩⟩ := a
  simp [readBridgeDispatchAuthorization, authorizationDict, bind_eq_ok, pure_eq_ok,
    -bind_pure_comp]

/-! ## Receipts -/

def objectReceiptDict (value : BridgeOperationReceipt) : List (String × JsonValue φ) :=
  [("operation_id", encodeObjectOperationId value.operationId),
    ("intent_digest", encodeDigest value.intentDigest),
    ("receipt_id", encodeReceiptId value.receiptId),
    ("kind", encodeName value.kind),
    ("provider", encodeName value.provider),
    ("object_key", encodeString value.objectKey),
    ("fence_token_digest", encodeFenceTokenDigest value.fenceTokenDigest),
    ("fence_epoch", encodeInteger value.fenceEpoch),
    ("fence_scope_digest", encodeDigest value.fenceScopeDigest),
    ("fence_writer_id", encodeString value.fenceWriterId),
    ("fence_acquisition_operation_id", encodeAcquireOperationId value.fenceAcquisitionOperationId),
    ("fence_acquisition_receipt_id", encodeReceiptId value.fenceAcquisitionReceiptId),
    ("fence_acquisition_receipt_digest", encodeDigest value.fenceAcquisitionReceiptDigest),
    ("authorization_digest", encodeDigest value.authorizationDigest),
    ("authorization_observed_at", encodeTimestamp value.authorizationObservedAt),
    ("authorized_at", encodeTimestamp value.authorizedAt),
    ("previous_revision", encodeRevision value.previousRevision),
    ("result_revision", encodeRevision value.resultRevision),
    ("pre_fingerprint", encodeDigest value.preFingerprint),
    ("post_fingerprint", encodeDigest value.postFingerprint),
    ("outcome", encodeName value.outcome),
    ("evidence", encodeName value.evidence),
    ("effect_at", encodeOption encodeTimestamp value.effectAt),
    ("acknowledged_at", encodeTimestamp value.acknowledgedAt),
    ("durable_at", encodeTimestamp value.durableAt),
    ("durable", encodeBoolean value.durable),
    ("receipt_digest", encodeDigest value.receiptDigest)]

/-- `encode_bridge_operation_receipt`. -/
def encodeBridgeOperationReceipt : BridgeOperationReceipt → Except CodecError (JsonValue φ) :=
  encodeRecord "object_receipt" BridgeOperationReceipt.postInit objectReceiptDict

def readBridgeOperationReceipt (raw : List (Text × JsonValue φ)) :
    Except CodecError BridgeOperationReceipt := do
  let effectAt ← decodeOption (fun value => decodeTimestamp value "object_receipt.effect_at")
    (entry raw "effect_at")
  let operationId ← decodeObjectOperationId (entry raw "operation_id") "object_receipt.operation_id"
  let intentDigest ← decodeDigest (entry raw "intent_digest") "object_receipt.intent_digest"
  let receiptId ← decodeReceiptId (entry raw "receipt_id") "object_receipt.receipt_id"
  let kind ← decodeEnum BridgeOperationKind (entry raw "kind") "object_receipt.kind"
  let provider ← decodeProvider (entry raw "provider") "object_receipt.provider"
  let objectKey ← decodeString (entry raw "object_key") "object_receipt.object_key"
  let fenceTokenDigest ← decodeFenceTokenDigest (entry raw "fence_token_digest")
    "object_receipt.fence_token_digest"
  let fenceEpoch ← decodeNonnegativeInteger (entry raw "fence_epoch") "object_receipt.fence_epoch"
  let fenceScopeDigest ← decodeDigest (entry raw "fence_scope_digest")
    "object_receipt.fence_scope_digest"
  let fenceWriterId ← decodeString (entry raw "fence_writer_id") "object_receipt.fence_writer_id"
  let fenceAcquisitionOperationId ← decodeAcquireOperationId
    (entry raw "fence_acquisition_operation_id")
    "object_receipt.fence_acquisition_operation_id"
  let fenceAcquisitionReceiptId ← decodeReceiptId (entry raw "fence_acquisition_receipt_id")
    "object_receipt.fence_acquisition_receipt_id"
  let fenceAcquisitionReceiptDigest ← decodeDigest (entry raw "fence_acquisition_receipt_digest")
    "object_receipt.fence_acquisition_receipt_digest"
  let authorizationDigest ← decodeDigest (entry raw "authorization_digest")
    "object_receipt.authorization_digest"
  let authorizationObservedAt ← decodeTimestamp (entry raw "authorization_observed_at")
    "object_receipt.authorization_observed_at"
  let authorizedAt ← decodeTimestamp (entry raw "authorized_at") "object_receipt.authorized_at"
  let previousRevision ← decodeRevision (entry raw "previous_revision")
    "object_receipt.previous_revision"
  let resultRevision ← decodeRevision (entry raw "result_revision") "object_receipt.result_revision"
  let preFingerprint ← decodeDigest (entry raw "pre_fingerprint") "object_receipt.pre_fingerprint"
  let postFingerprint ← decodeDigest (entry raw "post_fingerprint")
    "object_receipt.post_fingerprint"
  let outcome ← decodeEnum BridgeReceiptOutcome (entry raw "outcome") "object_receipt.outcome"
  let evidence ← decodeEnum BridgeReceiptEvidence (entry raw "evidence") "object_receipt.evidence"
  let acknowledgedAt ← decodeTimestamp (entry raw "acknowledged_at")
    "object_receipt.acknowledged_at"
  let durableAt ← decodeTimestamp (entry raw "durable_at") "object_receipt.durable_at"
  let durable ← decodeBoolean (entry raw "durable") "object_receipt.durable"
  let receiptDigest ← decodeDigest (entry raw "receipt_digest") "object_receipt.receipt_digest"
  return { operationId, intentDigest, receiptId, kind, provider, objectKey, fenceTokenDigest,
             fenceEpoch, fenceScopeDigest, fenceWriterId, fenceAcquisitionOperationId,
             fenceAcquisitionReceiptId, fenceAcquisitionReceiptDigest, authorizationDigest,
             authorizationObservedAt, authorizedAt, previousRevision, resultRevision,
             preFingerprint, postFingerprint, outcome, evidence, effectAt, acknowledgedAt,
             durableAt, durable, receiptDigest }

/-- `decode_bridge_operation_receipt`. -/
def decodeBridgeOperationReceipt : JsonValue φ → Except CodecError BridgeOperationReceipt :=
  decodeRecord "object_receipt"
    ["operation_id", "intent_digest", "receipt_id", "kind", "provider", "object_key",
      "fence_token_digest", "fence_epoch", "fence_scope_digest", "fence_writer_id",
      "fence_acquisition_operation_id", "fence_acquisition_receipt_id",
      "fence_acquisition_receipt_digest", "authorization_digest", "authorization_observed_at",
      "authorized_at", "previous_revision", "result_revision", "pre_fingerprint",
      "post_fingerprint", "outcome", "evidence", "effect_at", "acknowledged_at", "durable_at",
      "durable", "receipt_digest"]
    readBridgeOperationReceipt BridgeOperationReceipt.postInit encodeBridgeOperationReceipt

omit [FloatText φ] [DigestJson] in
theorem decodeOptionalTimestamp_eq_ok {value : JsonValue φ} {path : String}
    {a : Option Datetime} :
    decodeOption (fun value => decodeTimestamp value path) value = .ok a ↔
      value = encodeOption encodeTimestamp a := by
  have hdecode : ∀ (value : JsonValue φ) (a : Datetime),
      decodeTimestamp value path = .ok a ↔ value = encodeTimestamp a ∧ True := by
    simp
  rw [decodeOption_eq_ok (fun _ => True) hdecode (by simp [encodeTimestamp])]
  simp

omit [FloatText φ] in
theorem encodeBridgeOperationReceipt_eq_ok {a : BridgeOperationReceipt} {encoded : JsonValue φ} :
    encodeBridgeOperationReceipt a = .ok encoded ↔
      a.WellFormed ∧ encoded = dictOf (objectReceiptDict a) :=
  encodeRecord_eq_ok fun _ => BridgeOperationReceipt.postInit_eq_ok

theorem decodeBridgeOperationReceipt_eq_ok {value : JsonValue φ} {a : BridgeOperationReceipt} :
    decodeBridgeOperationReceipt value = .ok a ↔
      value = dictOf (objectReceiptDict a) ∧ a.WellFormed ∧ Representable value := by
  refine decodeRecord_eq_ok (fun _ => True) (fun _ => rfl) (by decide)
    (fun raw a => ?_) (fun _ => BridgeOperationReceipt.postInit_eq_ok)
    (fun _ _ => encodeBridgeOperationReceipt_eq_ok)
    (fun _ _ _ => trivial)
  obtain ⟨⟨⟩⟩ := a
  simp [readBridgeOperationReceipt, objectReceiptDict, bind_eq_ok, pure_eq_ok,
    decodeOptionalTimestamp_eq_ok, -bind_pure_comp, -Bool.exists_bool]
  constructor <;> intro h <;> simp only [h, and_self]

/-! ## Verifications -/

/-- `BridgeOperationVerification` constructs the value. -/
def BridgeOperationVerification.Accepted (value : BridgeOperationVerification) : Prop :=
  value.postInit = .ok ()

def verificationDict (value : BridgeOperationVerification) : List (String × JsonValue φ) :=
  [("operation_id", encodeObjectOperationId value.operationId),
    ("intent_digest", encodeDigest value.intentDigest),
    ("receipt_id", encodeReceiptId value.receiptId),
    ("receipt_digest", encodeDigest value.receiptDigest),
    ("provider", encodeName value.provider),
    ("object_key", encodeString value.objectKey),
    ("revision", encodeRevision value.revision),
    ("fingerprint", encodeDigest value.fingerprint),
    ("observed_at", encodeTimestamp value.observedAt),
    ("verified_at", encodeTimestamp value.verifiedAt)]

/-- `encode_bridge_operation_verification`. -/
def encodeBridgeOperationVerification : BridgeOperationVerification →
    Except CodecError (JsonValue φ) :=
  encodeRecord "verification" BridgeOperationVerification.postInit verificationDict

def readBridgeOperationVerification (raw : List (Text × JsonValue φ)) :
    Except CodecError BridgeOperationVerification := do
  let operationId ← decodeObjectOperationId (entry raw "operation_id") "verification.operation_id"
  let intentDigest ← decodeDigest (entry raw "intent_digest") "verification.intent_digest"
  let receiptId ← decodeReceiptId (entry raw "receipt_id") "verification.receipt_id"
  let receiptDigest ← decodeDigest (entry raw "receipt_digest") "verification.receipt_digest"
  let provider ← decodeProvider (entry raw "provider") "verification.provider"
  let objectKey ← decodeString (entry raw "object_key") "verification.object_key"
  let revision ← decodeRevision (entry raw "revision") "verification.revision"
  let fingerprint ← decodeDigest (entry raw "fingerprint") "verification.fingerprint"
  let observedAt ← decodeTimestamp (entry raw "observed_at") "verification.observed_at"
  let verifiedAt ← decodeTimestamp (entry raw "verified_at") "verification.verified_at"
  return { operationId, intentDigest, receiptId, receiptDigest, provider, objectKey, revision,
             fingerprint, observedAt, verifiedAt }

/-- `decode_bridge_operation_verification`. -/
def decodeBridgeOperationVerification : JsonValue φ →
    Except CodecError BridgeOperationVerification :=
  decodeRecord "verification"
    ["operation_id", "intent_digest", "receipt_id", "receipt_digest", "provider", "object_key",
      "revision", "fingerprint", "observed_at", "verified_at"]
    readBridgeOperationVerification BridgeOperationVerification.postInit
    encodeBridgeOperationVerification

omit [FloatText φ] [DigestJson] in
theorem encodeBridgeOperationVerification_eq_ok {a : BridgeOperationVerification}
    {encoded : JsonValue φ} :
    encodeBridgeOperationVerification a = .ok encoded ↔
      a.Accepted ∧ encoded = dictOf (verificationDict a) :=
  encodeRecord_eq_ok fun _ => Iff.rfl

omit [DigestJson] in
theorem decodeBridgeOperationVerification_eq_ok {value : JsonValue φ}
    {a : BridgeOperationVerification} :
    decodeBridgeOperationVerification value = .ok a ↔
      value = dictOf (verificationDict a) ∧ a.Accepted ∧ Representable value := by
  refine decodeRecord_eq_ok (fun _ => True) (fun _ => rfl) (by decide)
    (fun raw a => ?_) (fun _ => Iff.rfl)
    (fun _ _ => encodeBridgeOperationVerification_eq_ok) (fun _ _ _ => trivial)
  cases a
  simp [readBridgeOperationVerification, verificationDict, bind_eq_ok, pure_eq_ok,
    -bind_pure_comp]

/-! ## Records -/

/-- The codecs of the parts of a record. -/
def objectIntentCodec : RecordCodec φ BridgeOperationIntent where
  encode := encodeBridgeOperationIntent
  decode := decodeBridgeOperationIntent
  data a := dictOf (objectIntentDict a)

def dispatchAuthorizationCodec : RecordCodec φ BridgeDispatchAuthorization where
  encode := encodeBridgeDispatchAuthorization
  decode := decodeBridgeDispatchAuthorization
  data a := dictOf (authorizationDict a)

def objectReceiptCodec : RecordCodec φ BridgeOperationReceipt where
  encode := encodeBridgeOperationReceipt
  decode := decodeBridgeOperationReceipt
  data a := dictOf (objectReceiptDict a)

def objectVerificationCodec : RecordCodec φ BridgeOperationVerification where
  encode := encodeBridgeOperationVerification
  decode := decodeBridgeOperationVerification
  data a := dictOf (verificationDict a)

theorem objectIntentCodec_exact :
    (objectIntentCodec (φ := φ)).Exact BridgeOperationIntent.WellFormed :=
  ⟨fun _ _ => encodeBridgeOperationIntent_eq_ok, fun _ _ => decodeBridgeOperationIntent_eq_ok⟩

theorem dispatchAuthorizationCodec_exact :
    (dispatchAuthorizationCodec (φ := φ)).Exact BridgeDispatchAuthorization.Accepted :=
  ⟨fun _ _ => encodeBridgeDispatchAuthorization_eq_ok,
    fun _ _ => decodeBridgeDispatchAuthorization_eq_ok⟩

theorem objectReceiptCodec_exact :
    (objectReceiptCodec (φ := φ)).Exact BridgeOperationReceipt.WellFormed :=
  ⟨fun _ _ => encodeBridgeOperationReceipt_eq_ok, fun _ _ => decodeBridgeOperationReceipt_eq_ok⟩

omit [DigestJson] in
theorem objectVerificationCodec_exact :
    (objectVerificationCodec (φ := φ)).Exact BridgeOperationVerification.Accepted :=
  ⟨fun _ _ => encodeBridgeOperationVerification_eq_ok,
    fun _ _ => decodeBridgeOperationVerification_eq_ok⟩

/-- `encode_bridge_operation_record`. -/
def encodeBridgeOperationRecord (value : BridgeOperationRecord) :
    Except CodecError (JsonValue φ) := do
  construct "object_record" value.postInit
  let intent ← objectIntentCodec.encode value.intent
  let authorization ← dispatchAuthorizationCodec.encodeOption value.authorization
  let receipt ← objectReceiptCodec.encodeOption value.receipt
  let verifications ← objectVerificationCodec.encodeItems value.verifications
  return dictOf
    [("intent", intent),
      ("state", encodeName value.state),
      ("authorization", authorization),
      ("receipt", receipt),
      ("verifications", verifications),
      ("reason_code", encodeOption encodeName value.reasonCode),
      ("blocked_from", encodeOption encodeName value.blockedFrom)]

def readBridgeOperationRecord (raw : List (Text × JsonValue φ)) :
    Except CodecError BridgeOperationRecord := do
  let receipt ← decodeOption objectReceiptCodec.decode (entry raw "receipt")
  let authorization ← decodeOption dispatchAuthorizationCodec.decode (entry raw "authorization")
  let verifications ← objectVerificationCodec.decodeItems (entry raw "verifications")
    "object_record.verifications"
  let intent ← objectIntentCodec.decode (entry raw "intent")
  let state ← decodeEnum BridgeOperationState (entry raw "state") "object_record.state"
  let reasonCode ← decodeOptionalEnum BridgeBlockReason (entry raw "reason_code")
    "object_record.reason_code"
  let blockedFrom ← decodeOptionalEnum BridgeOperationState (entry raw "blocked_from")
    "object_record.blocked_from"
  return { intent, state, authorization, receipt, verifications, reasonCode, blockedFrom }

/-- `decode_bridge_operation_record`. -/
def decodeBridgeOperationRecord : JsonValue φ → Except CodecError BridgeOperationRecord :=
  decodeRecord "object_record"
    ["intent", "state", "authorization", "receipt", "verifications", "reason_code",
      "blocked_from"]
    readBridgeOperationRecord BridgeOperationRecord.postInit encodeBridgeOperationRecord

/-- What a record is written as. -/
def objectRecordDict (value : BridgeOperationRecord) : List (String × JsonValue φ) :=
  [("intent", objectIntentCodec.data value.intent),
    ("state", encodeName value.state),
    ("authorization", encodeOption dispatchAuthorizationCodec.data value.authorization),
    ("receipt", encodeOption objectReceiptCodec.data value.receipt),
    ("verifications", .arr (value.verifications.map objectVerificationCodec.data)),
    ("reason_code", encodeOption encodeName value.reasonCode),
    ("blocked_from", encodeOption encodeName value.blockedFrom)]

def objectRecordCodec : RecordCodec φ BridgeOperationRecord where
  encode := encodeBridgeOperationRecord
  decode := decodeBridgeOperationRecord
  data a := dictOf (objectRecordDict a)

/-- The parts of a valid record are valid. -/
structure BridgeOperationRecord.PartsValid (record : BridgeOperationRecord) : Prop where
  intent : record.intent.WellFormed
  authorization : ∀ x ∈ record.authorization, x.Accepted
  receipt : ∀ x ∈ record.receipt, x.WellFormed
  verifications : ∀ x ∈ record.verifications, x.Accepted

theorem BridgeOperationRecord.WellFormed.partsValid {record : BridgeOperationRecord}
    (h : record.WellFormed) : record.PartsValid where
  intent := h.intent_wf
  authorization x hx := (h.authorization_valid x hx).postInit
  receipt x hx := (h.receipt_valid x hx).1.receipt_wf
  verifications x hx := by
    obtain ⟨receipt, _, hvalid⟩ := h.verification_valid x hx
    exact check_eq_ok.2 hvalid.observed_le_verified

theorem encodeBridgeOperationRecord_eq_ok {a : BridgeOperationRecord} {encoded : JsonValue φ} :
    encodeBridgeOperationRecord a = .ok encoded ↔
      a.WellFormed ∧ encoded = dictOf (objectRecordDict a) := by
  simp only [encodeBridgeOperationRecord, bind_eq_ok, exists_unit, construct_eq_ok, pure_eq_ok,
    BridgeOperationRecord.postInit_eq_ok, objectIntentCodec_exact.encode_eq_ok,
    dispatchAuthorizationCodec_exact.encodeOption_eq_ok,
    objectReceiptCodec_exact.encodeOption_eq_ok,
    objectVerificationCodec_exact.encodeItems_eq_ok]
  constructor
  · rintro ⟨ha, _, ⟨_, rfl⟩, _, ⟨_, rfl⟩, _, ⟨_, rfl⟩, _, ⟨_, rfl⟩, rfl⟩
    exact ⟨ha, rfl⟩
  · rintro ⟨ha, rfl⟩
    have h := ha.partsValid
    exact ⟨ha, _, ⟨h.intent, rfl⟩, _, ⟨h.authorization, rfl⟩, _, ⟨h.receipt, rfl⟩, _,
      ⟨h.verifications, rfl⟩, rfl⟩

omit [FloatText φ] [DigestJson] in
/-- An optional part of a representable dictionary. -/
theorem encodeOption_some {α : Type} {data : α → JsonValue φ} {a : Option α} {x : α}
    (h : x ∈ a) : encodeOption data a = data x := by
  obtain rfl := Option.mem_def.1 h
  rfl

theorem decodeBridgeOperationRecord_eq_ok {value : JsonValue φ} {a : BridgeOperationRecord} :
    decodeBridgeOperationRecord value = .ok a ↔
      value = dictOf (objectRecordDict a) ∧ a.WellFormed ∧ Representable value := by
  refine decodeRecord_eq_ok (fun a =>
      (a.intent.WellFormed ∧ Representable (objectIntentCodec (φ := φ).data a.intent))
      ∧ (∀ x ∈ a.authorization, x.Accepted
        ∧ Representable (dispatchAuthorizationCodec (φ := φ).data x))
      ∧ (∀ x ∈ a.receipt, x.WellFormed ∧ Representable (objectReceiptCodec (φ := φ).data x))
      ∧ ∀ x ∈ a.verifications, x.Accepted
        ∧ Representable (objectVerificationCodec (φ := φ).data x))
    (fun _ => rfl) (by decide) (fun raw a => ?_)
    (fun _ => BridgeOperationRecord.postInit_eq_ok)
    (fun _ _ => encodeBridgeOperationRecord_eq_ok) (fun a ha hrepresentable => ?_)
  · have hintent : ∀ (value : JsonValue φ) (a : BridgeOperationIntent),
        objectIntentCodec.decode value = .ok a ↔ value = objectIntentCodec.data a
          ∧ a.WellFormed ∧ Representable (objectIntentCodec (φ := φ).data a) :=
      fun value a => (objectIntentCodec_exact.decode_eq_ok value a).trans representable_congr
    obtain ⟨intent, state, authorization, receipt, verifications, reasonCode, blockedFrom⟩ := a
    simp only [readBridgeOperationRecord, bind_eq_ok, pure_eq_ok, hintent,
      objectReceiptCodec_exact.decodeOption_eq_ok fun _ => dictOf_ne_null _,
      dispatchAuthorizationCodec_exact.decodeOption_eq_ok fun _ => dictOf_ne_null _,
      objectVerificationCodec_exact.decodeItems_eq_ok, decodeEnum_eq_ok, decodeOptionalEnum_eq_ok,
      BridgeOperationRecord.mk.injEq, objectRecordDict, List.forall_mem_cons, List.not_mem_nil,
      false_imp_iff, implies_true, and_true]
    constructor
    · rintro ⟨_, ⟨hr, hrv⟩, _, ⟨ha, hav⟩, _, ⟨hv, hvv⟩, _, ⟨hi, hiv⟩, _, hs, _, hc, _, hb, rfl,
        rfl, rfl, rfl, rfl, rfl, rfl⟩
      exact ⟨⟨hi, hs, ha, hr, hv, hc, hb⟩, hiv, hav, hrv, hvv⟩
    · rintro ⟨⟨hi, hs, ha, hr, hv, hc, hb⟩, hiv, hav, hrv, hvv⟩
      exact ⟨_, ⟨hr, hrv⟩, _, ⟨ha, hav⟩, _, ⟨hv, hvv⟩, _, ⟨hi, hiv⟩, _, hs, _, hc, _, hb, rfl,
        rfl, rfl, rfl, rfl, rfl, rfl⟩
  · have h := ha.partsValid
    have hfield := representable_dictOf.1 hrepresentable
    simp only [objectRecordDict, List.forall_mem_cons, representable_arr,
      List.forall_mem_map] at hfield
    obtain ⟨hi, _, hauthorization, hreceipt, hverifications, _⟩ := hfield
    refine ⟨⟨h.intent, hi⟩, fun x hx => ⟨h.authorization x hx, ?_⟩,
      fun x hx => ⟨h.receipt x hx, ?_⟩, fun x hx => ⟨h.verifications x hx, hverifications x hx⟩⟩
    · rw [encodeOption_some hx] at hauthorization
      exact hauthorization
    · rw [encodeOption_some hx] at hreceipt
      exact hreceipt

theorem objectRecordCodec_exact :
    (objectRecordCodec (φ := φ)).Exact BridgeOperationRecord.WellFormed :=
  ⟨fun _ _ => encodeBridgeOperationRecord_eq_ok, fun _ _ => decodeBridgeOperationRecord_eq_ok⟩

end TrueFamily.Transaction
