import TrueFamily.Transaction.Codec.Fences

/-!
# Codecs of the lifecycle records

`FenceAcquisitionRecord` and `FenceReleaseRecord` are written alike. A `LifecycleCodec` is what
the two codecs differ in: their path and the codecs of the intent and of the two receipts.
-/

namespace TrueFamily.Transaction

open Checked JsonValue

variable {φ : Type} [FloatText φ]

structure LifecycleCodec (φ ι α ν : Type) where
  path : String
  intent : RecordCodec φ ι
  applied : RecordCodec φ α
  noEffect : RecordCodec φ ν

namespace LifecycleCodec

variable {ι α ν : Type} (codec : LifecycleCodec φ ι α ν)

/-- `_encode_acquisition_lifecycle_receipt`, `_encode_release_lifecycle_receipt`. -/
def encodeReceipt : Option (LifecycleReceipt α ν) → Except CodecError (JsonValue φ)
  | none => .ok .null
  | some (.applied receipt) => codec.applied.encode receipt
  | some (.noEffect receipt) => codec.noEffect.encode receipt

/-- A receipt of the outcome that a dictionary claims. -/
def decodeOutcome (raw : JsonValue φ) (outcome : JsonValue φ) :
    Except CodecError (LifecycleReceipt α ν) :=
  match outcome with
  | .str text =>
    match ofName BridgeReceiptOutcome text with
    | some .applied => do
      let receipt ← codec.applied.decode raw
      return .applied receipt
    | some .noEffect => do
      let receipt ← codec.noEffect.decode raw
      return .noEffect receipt
    | none => .error (.codec (codec.path ++ ".receipt") "has an unknown outcome")
  | _ => .error (.codec (codec.path ++ ".receipt") "has an unknown outcome")

/-- The receipt of a record, `receipt.get("outcome")` first. -/
def decodeReceipt (raw : JsonValue φ) : Except CodecError (Option (LifecycleReceipt α ν)) :=
  match raw with
  | .null => .ok none
  | .obj entries => do
    let receipt ← codec.decodeOutcome (.obj entries) (entry entries "outcome")
    return some receipt
  | _ => .error (.codec (codec.path ++ ".receipt") "must be a built-in dict")

variable [LifecycleOperation ι α ν]

/-- `encode_fence_acquisition_record`, `encode_fence_release_record`. -/
def encodeRecord (value : LifecycleRecord ι α ν) : Except CodecError (JsonValue φ) := do
  construct codec.path value.postInit
  let intent ← codec.intent.encode value.intent
  let receipt ← codec.encodeReceipt value.receipt
  return dictOf
    [("intent", intent),
      ("state", encodeName value.state),
      ("receipt", receipt),
      ("reason_code", encodeOption encodeName value.reasonCode),
      ("blocked_from", encodeOption encodeName value.blockedFrom)]

def readRecord (raw : List (Text × JsonValue φ)) :
    Except CodecError (LifecycleRecord ι α ν) := do
  let receipt ← codec.decodeReceipt (entry raw "receipt")
  let intent ← codec.intent.decode (entry raw "intent")
  let state ← decodeEnum FenceLifecycleState (entry raw "state") (codec.path ++ ".state")
  let reasonCode ← decodeOptionalEnum BridgeBlockReason (entry raw "reason_code")
    (codec.path ++ ".reason_code")
  let blockedFrom ← decodeOptionalEnum FenceLifecycleState (entry raw "blocked_from")
    (codec.path ++ ".blocked_from")
  return { intent, state, receipt, reasonCode, blockedFrom }

/-- `decode_fence_acquisition_record`, `decode_fence_release_record`. -/
def decodeRecord : JsonValue φ → Except CodecError (LifecycleRecord ι α ν) :=
  Transaction.decodeRecord codec.path
    ["intent", "state", "receipt", "reason_code", "blocked_from"]
    codec.readRecord LifecycleRecord.postInit codec.encodeRecord

/-! ## What the codecs accept -/

/-- What a receipt is written as. -/
def receiptData : LifecycleReceipt α ν → JsonValue φ
  | .applied receipt => codec.applied.data receipt
  | .noEffect receipt => codec.noEffect.data receipt

/-- What a record is written as. -/
def recordDict (value : LifecycleRecord ι α ν) : List (String × JsonValue φ) :=
  [("intent", codec.intent.data value.intent),
    ("state", encodeName value.state),
    ("receipt", encodeOption codec.receiptData value.receipt),
    ("reason_code", encodeOption encodeName value.reasonCode),
    ("blocked_from", encodeOption encodeName value.blockedFrom)]

/-- The codecs of the parts are exact, and a receipt is a dictionary with its own outcome. -/
structure Exact (intentValid : ι → Prop) (receiptValid : LifecycleReceipt α ν → Prop) :
    Prop where
  intent : codec.intent.Exact intentValid
  applied : codec.applied.Exact fun receipt => receiptValid (.applied receipt)
  noEffect : codec.noEffect.Exact fun receipt => receiptValid (.noEffect receipt)
  applied_outcome : ∀ receipt, ∃ entries, codec.applied.data receipt = .obj entries
    ∧ entry entries "outcome" = encodeName BridgeReceiptOutcome.applied
  noEffect_outcome : ∀ receipt, receiptValid (.noEffect receipt) →
    ∃ entries, codec.noEffect.data receipt = .obj entries
      ∧ entry entries "outcome" = encodeName BridgeReceiptOutcome.noEffect

variable {codec} {intentValid : ι → Prop} {receiptValid : LifecycleReceipt α ν → Prop}

omit [LifecycleOperation ι α ν] in
theorem Exact.encodeReceipt_eq_ok (h : codec.Exact intentValid receiptValid)
    {receipt : Option (LifecycleReceipt α ν)} {encoded : JsonValue φ} :
    codec.encodeReceipt receipt = .ok encoded ↔
      (∀ x ∈ receipt, receiptValid x) ∧ encoded = encodeOption codec.receiptData receipt := by
  match receipt with
  | none => simp [encodeReceipt, encodeOption, eq_comm]
  | some (.applied receipt) =>
    simp [encodeReceipt, encodeOption, receiptData, h.applied.encode_eq_ok]
  | some (.noEffect receipt) =>
    simp [encodeReceipt, encodeOption, receiptData, h.noEffect.encode_eq_ok]

omit [LifecycleOperation ι α ν] in
theorem Exact.decodeOutcome_eq_ok (h : codec.Exact intentValid receiptValid)
    {entries : List (Text × JsonValue φ)} {receipt : LifecycleReceipt α ν} :
    codec.decodeOutcome (.obj entries) (entry entries "outcome") = .ok receipt ↔
      .obj entries = codec.receiptData receipt ∧ receiptValid receipt
        ∧ Representable (.obj entries) := by
  constructor
  · intro hdecode
    unfold decodeOutcome at hdecode
    split at hdecode
    · split at hdecode
      · simp only [bind_eq_ok, pure_eq_ok, h.applied.decode_eq_ok] at hdecode
        obtain ⟨a, ha, rfl⟩ := hdecode
        exact ha
      · simp only [bind_eq_ok, pure_eq_ok, h.noEffect.decode_eq_ok] at hdecode
        obtain ⟨a, ha, rfl⟩ := hdecode
        exact ha
      · cases hdecode
    · cases hdecode
  · rintro ⟨hdata, hvalid, hrepresentable⟩
    have hname : ∀ outcome : BridgeReceiptOutcome,
        ofName BridgeReceiptOutcome (Named.name outcome).toList = some outcome :=
      fun outcome => ofName_eq_some.2 rfl
    cases receipt with
    | applied receipt =>
      obtain ⟨entries', hentries, houtcome⟩ := h.applied_outcome receipt
      obtain rfl := JsonValue.obj.inj (hdata.trans hentries)
      rw [houtcome, encodeName, decodeOutcome, hname]
      simp only [bind_eq_ok, pure_eq_ok, h.applied.decode_eq_ok]
      exact ⟨receipt, ⟨hdata, hvalid, hrepresentable⟩, rfl⟩
    | noEffect receipt =>
      obtain ⟨entries', hentries, houtcome⟩ := h.noEffect_outcome receipt hvalid
      obtain rfl := JsonValue.obj.inj (hdata.trans hentries)
      rw [houtcome, encodeName, decodeOutcome, hname]
      simp only [bind_eq_ok, pure_eq_ok, h.noEffect.decode_eq_ok]
      exact ⟨receipt, ⟨hdata, hvalid, hrepresentable⟩, rfl⟩

omit [LifecycleOperation ι α ν] in
/-- A receipt is a dictionary. -/
theorem Exact.receiptData_obj (h : codec.Exact intentValid receiptValid)
    {receipt : LifecycleReceipt α ν} (hvalid : receiptValid receipt) :
    ∃ entries, codec.receiptData receipt = .obj entries := by
  cases receipt with
  | applied receipt => exact ⟨_, (h.applied_outcome receipt).choose_spec.1⟩
  | noEffect receipt => exact ⟨_, (h.noEffect_outcome receipt hvalid).choose_spec.1⟩

omit [LifecycleOperation ι α ν] in
theorem Exact.decodeReceipt_eq_ok (h : codec.Exact intentValid receiptValid)
    {value : JsonValue φ} {receipt : Option (LifecycleReceipt α ν)} :
    codec.decodeReceipt value = .ok receipt ↔
      value = encodeOption codec.receiptData receipt
        ∧ ∀ x ∈ receipt, receiptValid x ∧ Representable (codec.receiptData x) := by
  unfold decodeReceipt
  constructor
  · intro hdecode
    split at hdecode
    · cases hdecode
      exact ⟨rfl, fun x hx => nomatch hx⟩
    · simp only [bind_eq_ok, pure_eq_ok, h.decodeOutcome_eq_ok] at hdecode
      obtain ⟨x, ⟨hdata, hvalid, hrepresentable⟩, rfl⟩ := hdecode
      refine ⟨hdata, fun y hy => ?_⟩
      obtain rfl := Option.some.inj hy
      exact ⟨hvalid, hdata ▸ hrepresentable⟩
    · cases hdecode
  · rintro ⟨rfl, hvalid⟩
    cases receipt with
    | none => rfl
    | some x =>
      obtain ⟨hx, hrepresentable⟩ := hvalid x rfl
      obtain ⟨entries, hentries⟩ := h.receiptData_obj hx
      rw [encodeOption, hentries]
      simp only [bind_eq_ok, pure_eq_ok, h.decodeOutcome_eq_ok]
      rw [hentries] at hrepresentable
      exact ⟨x, ⟨hentries.symm, hx, hrepresentable⟩, rfl⟩

theorem Exact.encodeRecord_eq_ok (h : codec.Exact intentValid receiptValid)
    (hintent : ∀ record : LifecycleRecord ι α ν, record.WellFormed → intentValid record.intent)
    (hreceipt : ∀ record : LifecycleRecord ι α ν, record.WellFormed → ∀ x ∈ record.receipt,
      receiptValid x) {record : LifecycleRecord ι α ν} {encoded : JsonValue φ} :
    codec.encodeRecord record = .ok encoded ↔
      record.WellFormed ∧ encoded = dictOf (codec.recordDict record) := by
  simp only [encodeRecord, bind_eq_ok, exists_unit, construct_eq_ok, pure_eq_ok,
    LifecycleRecord.postInit_eq_ok, h.intent.encode_eq_ok, h.encodeReceipt_eq_ok]
  constructor
  · rintro ⟨hrecord, intent, ⟨_, rfl⟩, receipt, ⟨_, rfl⟩, rfl⟩
    exact ⟨hrecord, rfl⟩
  · rintro ⟨hrecord, rfl⟩
    exact ⟨hrecord, _, ⟨hintent record hrecord, rfl⟩, _, ⟨hreceipt record hrecord, rfl⟩, rfl⟩

/-- The decoder of a lifecycle record accepts exactly the encodings of the valid records. -/
theorem Exact.decodeRecord_eq_ok (h : codec.Exact intentValid receiptValid)
    (hintent : ∀ record : LifecycleRecord ι α ν, record.WellFormed → intentValid record.intent)
    (hreceipt : ∀ record : LifecycleRecord ι α ν, record.WellFormed → ∀ x ∈ record.receipt,
      receiptValid x) {value : JsonValue φ} {record : LifecycleRecord ι α ν} :
    codec.decodeRecord value = .ok record ↔
      value = dictOf (codec.recordDict record) ∧ record.WellFormed ∧ Representable value := by
  refine Transaction.decodeRecord_eq_ok
    (fun record => intentValid record.intent ∧ Representable (codec.intent.data record.intent)
      ∧ ∀ x ∈ record.receipt, receiptValid x ∧ Representable (codec.receiptData x))
    (fun _ => rfl) (by decide) (fun raw record => ?_)
    (fun _ => LifecycleRecord.postInit_eq_ok)
    (fun _ _ => h.encodeRecord_eq_ok hintent hreceipt) (fun record hrecord hrepresentable => ?_)
  · simp only [readRecord, bind_eq_ok, pure_eq_ok, h.decodeReceipt_eq_ok, h.intent.decode_eq_ok]
    obtain ⟨intent, state, receipt, reasonCode, blockedFrom⟩ := record
    simp only [recordDict, List.forall_mem_cons, List.not_mem_nil, false_imp_iff,
      implies_true, and_true, decodeEnum_eq_ok, decodeOptionalEnum_eq_ok,
      LifecycleRecord.mk.injEq]
    constructor
    · rintro ⟨_, ⟨hr, hvalid⟩, _, ⟨hi, hiv, hir⟩, _, hs, _, hc, _, hb, rfl, rfl, rfl, rfl, rfl⟩
      exact ⟨⟨hi, hs, hr, hc, hb⟩, hiv, hi ▸ hir, hvalid⟩
    · rintro ⟨⟨hi, hs, hr, hc, hb⟩, hiv, hir, hvalid⟩
      exact ⟨_, ⟨hr, hvalid⟩, _, ⟨hi, hiv, hi ▸ hir⟩, _, hs, _, hc, _, hb, rfl, rfl, rfl, rfl,
        rfl⟩
  · have hfield : Representable (codec.intent.data record.intent) :=
      Representable.field "intent" hrepresentable (by simp [recordDict])
    refine ⟨hintent record hrecord, hfield, fun x hx => ⟨hreceipt record hrecord x hx, ?_⟩⟩
    have hfield : Representable (encodeOption codec.receiptData record.receipt) :=
      Representable.field "receipt" hrepresentable (by simp [recordDict])
    rw [show record.receipt = some x from hx] at hfield
    exact hfield

end LifecycleCodec

/-! ## Acquisition records -/

section Acquisition

variable [DigestJson]

def acquisitionIntentCodec : RecordCodec φ FenceAcquisitionIntent where
  encode := encodeFenceAcquisitionIntent
  decode := decodeFenceAcquisitionIntent
  data a := dictOf (acquisitionIntentDict a)

def acquisitionReceiptCodec : RecordCodec φ FenceAcquisitionReceipt where
  encode := encodeFenceAcquisitionReceipt
  decode := decodeFenceAcquisitionReceipt
  data a := dictOf (acquisitionReceiptDict a)

def acquisitionNoEffectReceiptCodec : RecordCodec φ FenceAcquisitionNoEffectReceipt where
  encode := encodeFenceAcquisitionNoEffectReceipt
  decode := decodeFenceAcquisitionNoEffectReceipt
  data a := dictOf (acquisitionNoEffectReceiptDict a)

/-- What the codec of a `FenceAcquisitionRecord` supplies. -/
def acquisitionLifecycle :
    LifecycleCodec φ FenceAcquisitionIntent FenceAcquisitionReceipt
      FenceAcquisitionNoEffectReceipt where
  path := "acquisition_record"
  intent := acquisitionIntentCodec
  applied := acquisitionReceiptCodec
  noEffect := acquisitionNoEffectReceiptCodec

/-- `encode_fence_acquisition_record`, `decode_fence_acquisition_record`. -/
def acquisitionRecordCodec : RecordCodec φ FenceAcquisitionRecord where
  encode := acquisitionLifecycle.encodeRecord
  decode := acquisitionLifecycle.decodeRecord
  data a := dictOf (acquisitionLifecycle.recordDict a)

theorem acquisitionLifecycle_exact :
    (acquisitionLifecycle (φ := φ)).Exact FenceAcquisitionIntent.WellFormed fun receipt =>
      AcquisitionLifecycleReceipt.postInit receipt = .ok () where
  intent :=
    ⟨fun _ _ => encodeFenceAcquisitionIntent_eq_ok,
      fun _ _ => decodeFenceAcquisitionIntent_eq_ok⟩
  applied := by
    refine ⟨fun a encoded => ?_, fun value a => ?_⟩
    · exact encodeRecord_eq_ok fun _ => Iff.rfl
    · rw [AcquisitionLifecycleReceipt.postInit, FenceAcquisitionReceipt.postInit_eq_ok]
      exact decodeFenceAcquisitionReceipt_eq_ok
  noEffect := by
    refine ⟨fun a encoded => ?_, fun value a => ?_⟩
    · exact encodeRecord_eq_ok fun _ => Iff.rfl
    · rw [AcquisitionLifecycleReceipt.postInit, FenceAcquisitionNoEffectReceipt.postInit_eq_ok]
      exact decodeFenceAcquisitionNoEffectReceipt_eq_ok
  applied_outcome receipt :=
    dictOf_item (by simp [acquisitionReceiptDict]) (by simp [acquisitionReceiptDict])
  noEffect_outcome receipt h := by
    have houtcome := (FenceAcquisitionNoEffectReceipt.postInit_eq_ok.1 h).outcome_eq
    refine dictOf_item (by simp [acquisitionNoEffectReceiptDict]) ?_
    simp [acquisitionNoEffectReceiptDict, houtcome]

/-- The decoder of `acquisition` records accepts exactly the encodings of the valid ones. -/
theorem acquisitionRecordCodec_exact :
    (acquisitionRecordCodec (φ := φ)).Exact LifecycleRecord.WellFormed where
  encode_eq_ok record encoded := by
    exact acquisitionLifecycle_exact.encodeRecord_eq_ok (fun _ h => AcquisitionRecord.intent_wf h)
      fun record h x hx => LifecycleOperation.requireReceipt_of_validateFor _ _ (h.receipt_ok x hx)
  decode_eq_ok value record := by
    exact acquisitionLifecycle_exact.decodeRecord_eq_ok (fun _ h => AcquisitionRecord.intent_wf h)
      fun record h x hx => LifecycleOperation.requireReceipt_of_validateFor _ _ (h.receipt_ok x hx)

end Acquisition

/-! ## Release records -/

section Release

variable [DigestJson]

def releaseIntentCodec : RecordCodec φ FenceReleaseIntent where
  encode := encodeFenceReleaseIntent
  decode := decodeFenceReleaseIntent
  data a := dictOf (releaseIntentDict a)

def releaseReceiptCodec : RecordCodec φ FenceReleaseReceipt where
  encode := encodeFenceReleaseReceipt
  decode := decodeFenceReleaseReceipt
  data a := dictOf (releaseReceiptDict a)

def releaseNoEffectReceiptCodec : RecordCodec φ FenceReleaseNoEffectReceipt where
  encode := encodeFenceReleaseNoEffectReceipt
  decode := decodeFenceReleaseNoEffectReceipt
  data a := dictOf (releaseNoEffectReceiptDict a)

/-- What the codec of a `FenceReleaseRecord` supplies. -/
def releaseLifecycle :
    LifecycleCodec φ FenceReleaseIntent FenceReleaseReceipt FenceReleaseNoEffectReceipt where
  path := "release_record"
  intent := releaseIntentCodec
  applied := releaseReceiptCodec
  noEffect := releaseNoEffectReceiptCodec

/-- `encode_fence_release_record`, `decode_fence_release_record`. -/
def releaseRecordCodec : RecordCodec φ FenceReleaseRecord where
  encode := releaseLifecycle.encodeRecord
  decode := releaseLifecycle.decodeRecord
  data a := dictOf (releaseLifecycle.recordDict a)

theorem releaseLifecycle_exact :
    (releaseLifecycle (φ := φ)).Exact FenceReleaseIntent.WellFormed fun receipt =>
      ReleaseLifecycleReceipt.postInit receipt = .ok () where
  intent :=
    ⟨fun _ _ => encodeFenceReleaseIntent_eq_ok,
      fun _ _ => decodeFenceReleaseIntent_eq_ok⟩
  applied := by
    refine ⟨fun a encoded => ?_, fun value a => ?_⟩
    · exact encodeRecord_eq_ok fun _ => Iff.rfl
    · rw [ReleaseLifecycleReceipt.postInit, FenceReleaseReceipt.postInit_eq_ok]
      exact decodeFenceReleaseReceipt_eq_ok
  noEffect := by
    refine ⟨fun a encoded => ?_, fun value a => ?_⟩
    · exact encodeRecord_eq_ok fun _ => Iff.rfl
    · rw [ReleaseLifecycleReceipt.postInit, FenceReleaseNoEffectReceipt.postInit_eq_ok]
      exact decodeFenceReleaseNoEffectReceipt_eq_ok
  applied_outcome receipt :=
    dictOf_item (by simp [releaseReceiptDict]) (by simp [releaseReceiptDict])
  noEffect_outcome receipt h := by
    have houtcome := (FenceReleaseNoEffectReceipt.postInit_eq_ok.1 h).outcome_eq
    refine dictOf_item (by simp [releaseNoEffectReceiptDict]) ?_
    simp [releaseNoEffectReceiptDict, houtcome]

/-- The decoder of `release` records accepts exactly the encodings of the valid ones. -/
theorem releaseRecordCodec_exact :
    (releaseRecordCodec (φ := φ)).Exact LifecycleRecord.WellFormed where
  encode_eq_ok record encoded := by
    exact releaseLifecycle_exact.encodeRecord_eq_ok (fun _ h => ReleaseRecord.intent_wf h)
      fun record h x hx => LifecycleOperation.requireReceipt_of_validateFor _ _ (h.receipt_ok x hx)
  decode_eq_ok value record := by
    exact releaseLifecycle_exact.decodeRecord_eq_ok (fun _ h => ReleaseRecord.intent_wf h)
      fun record h x hx => LifecycleOperation.requireReceipt_of_validateFor _ _ (h.receipt_ok x hx)

end Release

end TrueFamily.Transaction
