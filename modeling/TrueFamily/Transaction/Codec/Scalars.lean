import TrueFamily.Lib.Calendar
import TrueFamily.Lib.FixedText
import TrueFamily.Transaction.Codec.Raw

/-!
# Codecs of the scalar fields

The text, number or small dictionary that each scalar type is written as, with its decoder. Every
decoder accepts exactly the encodings: `decode…_eq_ok` says that it returns a value exactly on
what that value is written as. Timestamps are the ones of `datetime.isoformat`, with microseconds
only where there are any.
-/

namespace TrueFamily.Transaction

open Checked JsonValue

variable {φ : Type}

/-! ## Texts with a fixed form -/

/-- The members of a finite type, each with its own text. -/
class Named (α : Type) where
  members : List α
  name : α → String
  mem_members : ∀ a, a ∈ members
  name_injective : Function.Injective name

/-- The member that a text names. -/
def ofName (α : Type) [Named α] (text : Text) : Option α :=
  (Named.members : List α).find? fun member => decide ((Named.name member).toList = text)

theorem ofName_eq_some {α : Type} [Named α] {text : Text} {a : α} :
    ofName α text = some a ↔ text = (Named.name a).toList := by
  unfold ofName
  constructor
  · intro h
    have hfound := List.find?_some h
    exact (of_decide_eq_true hfound).symm
  · intro h
    cases hfind : (Named.members : List α).find? fun member =>
        decide ((Named.name member).toList = text) with
    | none =>
      have hnone := List.find?_eq_none.1 hfind a (Named.mem_members a)
      exact absurd (decide_eq_true h.symm) hnone
    | some member =>
      have hfound := List.find?_some hfind
      have hname := (of_decide_eq_true hfound).trans h
      rw [Named.name_injective (String.toList_inj.1 hname)]

instance : Named Provider where
  members := Provider.all
  name := Provider.name
  mem_members := Provider.mem_all
  name_injective := by intro a b; cases a <;> cases b <;> decide

instance : Named BridgeOperationKind where
  members := [.write, .rollback]
  name
    | .write => "write"
    | .rollback => "rollback"
  mem_members := by intro a; cases a <;> simp
  name_injective := by intro a b; cases a <;> cases b <;> decide

instance : Named BridgeOperationState where
  members := [.intentRecorded, .dispatchArmed, .acknowledged, .verified, .blocked]
  name
    | .intentRecorded => "intent_recorded"
    | .dispatchArmed => "dispatch_armed"
    | .acknowledged => "acknowledged"
    | .verified => "verified"
    | .blocked => "blocked"
  mem_members := by intro a; cases a <;> simp
  name_injective := by intro a b; cases a <;> cases b <;> decide

instance : Named FenceLifecycleState where
  members := [.intentRecorded, .dispatchArmed, .acknowledged, .noEffect, .blocked]
  name
    | .intentRecorded => "intent_recorded"
    | .dispatchArmed => "dispatch_armed"
    | .acknowledged => "acknowledged"
    | .noEffect => "no_effect"
    | .blocked => "blocked"
  mem_members := by intro a; cases a <;> simp
  name_injective := by intro a b; cases a <;> cases b <;> decide

instance : Named BridgeAttemptState where
  members := [.open, .committed, .restored, .blocked]
  name
    | .open => "open"
    | .committed => "committed"
    | .restored => "restored"
    | .blocked => "blocked"
  mem_members := by intro a; cases a <;> simp
  name_injective := by intro a b; cases a <;> cases b <;> decide

instance : Named BridgeReceiptOutcome where
  members := [.applied, .noEffect]
  name
    | .applied => "applied"
    | .noEffect => "no_effect"
  mem_members := by intro a; cases a <;> simp
  name_injective := by intro a b; cases a <;> cases b <;> decide

instance : Named BridgeReceiptEvidence where
  members := [.dispatchAck, .operationLedger]
  name
    | .dispatchAck => "dispatch_ack"
    | .operationLedger => "operation_ledger"
  mem_members := by intro a; cases a <;> simp
  name_injective := by intro a b; cases a <;> cases b <;> decide

instance : Named BridgeBlockReason where
  members := [.staleFence, .expiredFence, .staleObservation, .observationMismatch,
    .receiptMismatch, .verifiedDrift, .lifecycleMismatch, .incompleteCoverage, .explicitAbort]
  name
    | .staleFence => "stale_fence"
    | .expiredFence => "expired_fence"
    | .staleObservation => "stale_observation"
    | .observationMismatch => "observation_mismatch"
    | .receiptMismatch => "receipt_mismatch"
    | .verifiedDrift => "verified_drift"
    | .lifecycleMismatch => "lifecycle_mismatch"
    | .incompleteCoverage => "incomplete_coverage"
    | .explicitAbort => "explicit_abort"
  mem_members := by intro a; cases a <;> simp
  name_injective := by intro a b; cases a <;> cases b <;> decide

/-- The value of a member. -/
def encodeName {α : Type} [Named α] (a : α) : JsonValue φ := .str (Named.name a).toList

/-- `_decode_provider`. -/
def decodeProvider (value : JsonValue φ) (path : String) : Except CodecError Provider :=
  match value with
  | .str text =>
    match ofName Provider text with
    | some provider => .ok provider
    | none => .error (.codec path "must name one provider in the manifest")
  | _ => .error (.codec path "must name one provider in the manifest")

/-- `_decode_enum`. -/
def decodeEnum (α : Type) [Named α] (value : JsonValue φ) (path : String) :
    Except CodecError α :=
  match value with
  | .str text =>
    match ofName α text with
    | some member => .ok member
    | none => .error (.codec path "contains an unknown enum value")
  | _ => .error (.codec path "must be a string enum value")

@[simp] theorem decodeProvider_eq_ok {value : JsonValue φ} {path : String} {provider : Provider} :
    decodeProvider value path = .ok provider ↔ value = encodeName provider := by
  cases value <;> simp only [decodeProvider, encodeName, reduceCtorEq, JsonValue.str.injEq]
  rename_i text
  rw [← ofName_eq_some]
  split <;> simp_all

@[simp] theorem decodeEnum_eq_ok {α : Type} [Named α] {value : JsonValue φ} {path : String}
    {a : α} : decodeEnum α value path = .ok a ↔ value = encodeName a := by
  cases value <;> simp only [decodeEnum, encodeName, reduceCtorEq, JsonValue.str.injEq]
  rename_i text
  rw [← ofName_eq_some]
  split <;> simp_all

/-! ## Digests and identifiers -/

/-- The hexadecimal digits of `4 * width` bits. -/
def hexText {w : ℕ} (width : ℕ) (bits : BitVec w) : Text := lowerHex.write width bits.toNat

/-- The bits that a tag and `width` hexadecimal digits spell. -/
def readHex (w width : ℕ) (tag : String) (text : Text) : Option (BitVec w) :=
  if text.take tag.toList.length = tag.toList
      ∧ (text.drop tag.toList.length).length = width then
    (lowerHex.read (text.drop tag.toList.length)).map (BitVec.ofNat w)
  else none

theorem readHex_eq_some {w width : ℕ} (hwidth : lowerHex.base ^ width = 2 ^ w) {tag : String}
    {text : Text} {bits : BitVec w} :
    readHex w width tag text = some bits ↔ text = tag.toList ++ hexText width bits := by
  unfold readHex hexText
  constructor
  · intro h
    split_ifs at h with htext
    obtain ⟨n, hread, rfl⟩ := Option.map_eq_some_iff.1 h
    rw [Alphabet.read_eq_some_iff, htext.2, hwidth] at hread
    rw [BitVec.toNat_ofNat, Nat.mod_eq_of_lt hread.1, hread.2]
    have hsplit := List.take_append_drop tag.toList.length text
    rw [htext.1] at hsplit
    exact hsplit.symm
  · rintro rfl
    rw [List.take_left', List.drop_left', if_pos ⟨rfl, Alphabet.length_write _ _ _⟩,
      Alphabet.read_write, Option.map_some, BitVec.ofNat_toNat, BitVec.setWidth_eq]
    · rw [hwidth]
      exact bits.isLt
    · rfl
    · rfl

/-- A string that is a tag and hexadecimal digits: `fullmatch` of an identifier pattern. -/
def decodeHex (w width : ℕ) (tag : String) (value : JsonValue φ) (path detail : String) :
    Except CodecError (BitVec w) :=
  match value with
  | .str text =>
    match readHex w width tag text with
    | some bits => .ok bits
    | none => .error (.codec path detail)
  | _ => .error (.codec path detail)

theorem decodeHex_eq_ok {w width : ℕ} (hwidth : lowerHex.base ^ width = 2 ^ w) {tag : String}
    {value : JsonValue φ} {path detail : String} {bits : BitVec w} :
    decodeHex w width tag value path detail = .ok bits
      ↔ value = .str (tag.toList ++ hexText width bits) := by
  cases value <;> simp only [decodeHex, reduceCtorEq, JsonValue.str.injEq]
  rw [← readHex_eq_some hwidth]
  split <;> simp_all

theorem base_pow_64 : lowerHex.base ^ 64 = 2 ^ 256 := by decide

theorem base_pow_24 : lowerHex.base ^ 24 = 2 ^ 96 := by decide

def encodeDigest (digest : Digest) : JsonValue φ := .str ("".toList ++ hexText 64 digest.bits)

/-- `_decode_digest`. -/
def decodeDigest (value : JsonValue φ) (path : String) : Except CodecError Digest := do
  let bits ← decodeHex 256 64 "" value path "must be a lowercase SHA-256 digest"
  return ⟨bits⟩

def encodeFenceTokenDigest (digest : FenceTokenDigest) : JsonValue φ :=
  .str ("tf-fence-token-sha256-v1:".toList ++ hexText 64 digest.hex)

/-- `_decode_fence_token_digest`. -/
def decodeFenceTokenDigest (value : JsonValue φ) (path : String) :
    Except CodecError FenceTokenDigest := do
  let bits ← decodeHex 256 64 "tf-fence-token-sha256-v1:" value path
    "must be a branded fence-token digest"
  return ⟨bits⟩

def encodeObjectOperationId (id : ObjectOperationId) : JsonValue φ :=
  .str ("tf-bridge-".toList ++ hexText 24 id.hex)

/-- `_decode_operation_id`, with `_OBJECT_OPERATION_ID_PATTERN`. -/
def decodeObjectOperationId (value : JsonValue φ) (path : String) :
    Except CodecError ObjectOperationId := do
  let bits ← decodeHex 96 24 "tf-bridge-" value path "must be a canonical operation ID"
  return ⟨bits⟩

def encodeAcquireOperationId (id : AcquireOperationId) : JsonValue φ :=
  .str ("tf-fence-acquire-".toList ++ hexText 24 id.hex)

/-- `_decode_operation_id`, with `_ACQUIRE_OPERATION_ID_PATTERN`. -/
def decodeAcquireOperationId (value : JsonValue φ) (path : String) :
    Except CodecError AcquireOperationId := do
  let bits ← decodeHex 96 24 "tf-fence-acquire-" value path "must be a canonical operation ID"
  return ⟨bits⟩

def encodeReleaseOperationId (id : ReleaseOperationId) : JsonValue φ :=
  .str ("tf-fence-release-".toList ++ hexText 24 id.hex)

/-- `_decode_operation_id`, with `_RELEASE_OPERATION_ID_PATTERN`. -/
def decodeReleaseOperationId (value : JsonValue φ) (path : String) :
    Except CodecError ReleaseOperationId := do
  let bits ← decodeHex 96 24 "tf-fence-release-" value path "must be a canonical operation ID"
  return ⟨bits⟩

def encodeReceiptId (id : ReceiptId) : JsonValue φ :=
  .str ("tf-receipt-".toList ++ hexText 24 id.hex)

/-- `_decode_receipt_id`. -/
def decodeReceiptId (value : JsonValue φ) (path : String) : Except CodecError ReceiptId := do
  let bits ← decodeHex 96 24 "tf-receipt-" value path "must be a canonical receipt ID"
  return ⟨bits⟩

section

variable {value : JsonValue φ} {path : String}

/-- Digits that are wrapped in a type of their own. -/
theorem decodeHex_wrapped_eq_ok {w width : ℕ} {α : Type} (wrap : BitVec w → α)
    (unwrap : α → BitVec w) (hwidth : lowerHex.base ^ width = 2 ^ w)
    (hunwrap : ∀ bits, unwrap (wrap bits) = bits) (hwrap : ∀ a, wrap (unwrap a) = a)
    {tag detail : String} {a : α} :
    (do
      let bits ← decodeHex w width tag value path detail
      return wrap bits) = .ok a ↔ value = .str (tag.toList ++ hexText width (unwrap a)) := by
  simp only [bind_eq_ok, decodeHex_eq_ok hwidth, pure_eq_ok]
  constructor
  · rintro ⟨bits, h, rfl⟩
    rwa [hunwrap]
  · intro h
    exact ⟨unwrap a, h, (hwrap a).symm⟩

@[simp] theorem decodeDigest_eq_ok {digest : Digest} :
    decodeDigest value path = .ok digest ↔ value = encodeDigest digest :=
  decodeHex_wrapped_eq_ok Digest.mk Digest.bits base_pow_64 (fun _ => rfl) fun _ => rfl

@[simp] theorem decodeFenceTokenDigest_eq_ok {digest : FenceTokenDigest} :
    decodeFenceTokenDigest value path = .ok digest ↔ value = encodeFenceTokenDigest digest :=
  decodeHex_wrapped_eq_ok FenceTokenDigest.mk FenceTokenDigest.hex base_pow_64
    (fun _ => rfl) fun _ => rfl

@[simp] theorem decodeObjectOperationId_eq_ok {id : ObjectOperationId} :
    decodeObjectOperationId value path = .ok id ↔ value = encodeObjectOperationId id :=
  decodeHex_wrapped_eq_ok ObjectOperationId.mk ObjectOperationId.hex base_pow_24
    (fun _ => rfl) fun _ => rfl

@[simp] theorem decodeAcquireOperationId_eq_ok {id : AcquireOperationId} :
    decodeAcquireOperationId value path = .ok id ↔ value = encodeAcquireOperationId id :=
  decodeHex_wrapped_eq_ok AcquireOperationId.mk AcquireOperationId.hex base_pow_24
    (fun _ => rfl) fun _ => rfl

@[simp] theorem decodeReleaseOperationId_eq_ok {id : ReleaseOperationId} :
    decodeReleaseOperationId value path = .ok id ↔ value = encodeReleaseOperationId id :=
  decodeHex_wrapped_eq_ok ReleaseOperationId.mk ReleaseOperationId.hex base_pow_24
    (fun _ => rfl) fun _ => rfl

@[simp] theorem decodeReceiptId_eq_ok {id : ReceiptId} :
    decodeReceiptId value path = .ok id ↔ value = encodeReceiptId id :=
  decodeHex_wrapped_eq_ok ReceiptId.mk ReceiptId.hex base_pow_24 (fun _ => rfl) fun _ => rfl

end

/-! ## Texts -/

def encodeString (text : CanonicalText) : JsonValue φ := .str text.text.toList

/-- `_decode_string`. -/
def decodeString (value : JsonValue φ) (path : String) : Except CodecError CanonicalText :=
  match value with
  | .str text =>
    if h : isCanonicalText (String.ofList text) = true then .ok ⟨String.ofList text, h⟩
    else .error (.codec path "must be canonical non-empty text")
  | _ => .error (.codec path "must be canonical non-empty text")

@[simp] theorem decodeString_eq_ok {value : JsonValue φ} {path : String} {text : CanonicalText} :
    decodeString value path = .ok text ↔ value = encodeString text := by
  cases value <;> simp only [decodeString, encodeString, reduceCtorEq, JsonValue.str.injEq]
  rename_i chars
  obtain ⟨s, hs⟩ := text
  split_ifs with h
  · simp only [Except.ok.injEq, CanonicalText.mk.injEq]
    constructor
    · rintro rfl
      rw [String.toList_ofList]
    · rintro rfl
      rw [String.ofList_toList]
  · simp only [false_iff]
    rintro rfl
    rw [String.ofList_toList] at h
    exact h hs

def planIdText (planId : PlanId) : Text := "tf-reference-".toList ++ hexText 24 planId.hex

/-- What `_validate_plan_binding` makes of a text that is no plan ID at all. -/
def constructPlanId (path : String) (text : CanonicalText) : Except CodecError PlanId :=
  match readHex 96 24 "tf-reference-" text.text.toList with
  | some bits => .ok ⟨bits⟩
  | none => .error (.codec path "Reference plan ID does not match its digest.")

/-- The digits of a numeral. -/
theorem exists_digit_of_mem {alphabet : Alphabet} {width n : ℕ} {c : Char}
    (h : c ∈ alphabet.write width n) : ∃ d < alphabet.base, c = alphabet.digit d := by
  induction width with
  | zero => cases h
  | succ width ih =>
    rcases List.mem_cons.1 h with rfl | hrest
    · exact ⟨_, Nat.mod_lt _ alphabet.base_pos, rfl⟩
    · exact ih hrest

/-- Texts of visible characters are canonical. -/
theorem isCanonicalText_of_visible {text : Text} (hne : text ≠ []) (hlength : text.length ≤ 1024)
    (hvisible : ∀ c ∈ text, 33 ≤ c.val ∧ c.val ≤ 122) :
    isCanonicalText (String.ofList text) = true := by
  have hspace : ∀ c ∈ text, isSpace c = false := by
    intro c hc
    obtain ⟨hlow, hhigh⟩ := hvisible c hc
    simp only [UInt32.le_iff_toNat_le] at hlow hhigh
    simp only [isSpace, Bool.or_eq_false_iff, Bool.and_eq_false_iff, decide_eq_false_iff_not,
      beq_eq_false_iff_ne, ne_eq, UInt32.le_iff_toNat_le, ← UInt32.toNat_inj]
    simp at hlow hhigh ⊢
    omega
  have hcontrol : ∀ c ∈ text, (!(decide (c.val < 32) || c.val == 127)) = true := by
    intro c hc
    obtain ⟨hlow, hhigh⟩ := hvisible c hc
    simp only [UInt32.le_iff_toNat_le] at hlow hhigh
    simp only [Bool.not_eq_true', Bool.or_eq_false_iff, decide_eq_false_iff_not,
      beq_eq_false_iff_ne, ne_eq, UInt32.lt_iff_toNat_lt, ← UInt32.toNat_inj]
    simp at hlow hhigh ⊢
    omega
  have hhead : text.head?.any isSpace = false := by
    rw [Option.any_eq_false]
    intro c hc
    exact hspace c (List.mem_of_mem_head? hc)
  have hlast : text.getLast?.any isSpace = false := by
    rw [Option.any_eq_false]
    intro c hc
    exact hspace c (List.mem_of_getLast? hc)
  unfold isCanonicalText
  rw [String.toList_ofList, hhead, hlast, List.all_eq_true.2 hcontrol,
    decide_eq_true hlength, List.isEmpty_eq_false_iff.2 hne]
  rfl

theorem length_hexText {w width : ℕ} (bits : BitVec w) : (hexText width bits).length = width :=
  Alphabet.length_write _ _ _

theorem length_planIdText (planId : PlanId) : (planIdText planId).length = 37 := by
  have htag : "tf-reference-".toList.length = 13 := by decide
  unfold planIdText
  rw [List.length_append, length_hexText, htag]

/-- A plan ID is canonical text. -/
theorem isCanonicalText_planIdText (planId : PlanId) :
    isCanonicalText (String.ofList (planIdText planId)) = true := by
  have htag : "tf-reference-".toList.all (fun c => decide (33 ≤ c.val ∧ c.val ≤ 122)) = true := by
    decide
  have hdigits : ∀ d < 16, 33 ≤ (lowerHexDigit d).val ∧ (lowerHexDigit d).val ≤ 122 := by
    decide
  have hlength := length_planIdText planId
  have hne : planIdText planId ≠ [] := by
    rw [← List.length_pos_iff, hlength]
    decide
  have hvisible : ∀ c ∈ planIdText planId, 33 ≤ c.val ∧ c.val ≤ 122 := by
    intro c hc
    rcases List.mem_append.1 hc with htagged | hdigit
    · exact of_decide_eq_true (List.all_eq_true.1 htag c htagged)
    · obtain ⟨d, hd, rfl⟩ := exists_digit_of_mem hdigit
      exact hdigits d hd
  exact isCanonicalText_of_visible hne (by rw [hlength]; decide) hvisible

/-- The text of a plan ID. -/
def canonicalPlanId (planId : PlanId) : CanonicalText :=
  ⟨String.ofList (planIdText planId), isCanonicalText_planIdText planId⟩

def encodePlanId (planId : PlanId) : JsonValue φ := encodeString (canonicalPlanId planId)

theorem constructPlanId_eq_ok_iff {path : String} {text : CanonicalText} {planId : PlanId} :
    constructPlanId path text = .ok planId ↔ text.text.toList = planIdText planId := by
  unfold constructPlanId planIdText
  obtain ⟨hex⟩ := planId
  rw [← readHex_eq_some base_pow_24]
  split <;> simp_all

@[simp] theorem constructPlanId_eq_ok {path : String} {text : CanonicalText} {planId : PlanId} :
    constructPlanId path text = .ok planId ↔ text = canonicalPlanId planId := by
  rw [constructPlanId_eq_ok_iff]
  generalize hcanonical : canonicalPlanId planId = canonical
  have htext : canonical.text.toList = planIdText planId := by
    rw [← hcanonical]
    exact String.toList_ofList
  rw [← htext, String.toList_inj, CanonicalText.text_injective.eq_iff]

/-! ## Integers and booleans -/

def encodeInteger (n : ℕ) : JsonValue φ := .int n

def encodeBoolean (b : Bool) : JsonValue φ := .bool b

/-- `_decode_positive_integer`. -/
def decodePositiveInteger (value : JsonValue φ) (path : String) : Except CodecError ℕ :=
  match value with
  | .int n =>
    if 1 ≤ n then .ok n.toNat else .error (.codec path "must be a positive integer")
  | _ => .error (.codec path "must be a positive integer")

/-- `_decode_nonnegative_integer`. -/
def decodeNonnegativeInteger (value : JsonValue φ) (path : String) : Except CodecError ℕ :=
  match value with
  | .int n =>
    if 0 ≤ n then .ok n.toNat else .error (.codec path "must be a non-negative integer")
  | _ => .error (.codec path "must be a non-negative integer")

/-- `_decode_boolean`. -/
def decodeBoolean (value : JsonValue φ) (path : String) : Except CodecError Bool :=
  match value with
  | .bool b => .ok b
  | _ => .error (.codec path "must be a literal boolean")

section

variable {value : JsonValue φ} {path : String} {n : ℕ}

@[simp] theorem decodePositiveInteger_eq_ok :
    decodePositiveInteger value path = .ok n ↔ value = encodeInteger n ∧ 1 ≤ n := by
  cases value <;>
    simp only [decodePositiveInteger, encodeInteger, reduceCtorEq, JsonValue.int.injEq, false_and]
  split_ifs with h
  · rw [Except.ok.injEq]
    omega
  · simp only [false_iff]
    omega

@[simp] theorem decodeNonnegativeInteger_eq_ok :
    decodeNonnegativeInteger value path = .ok n ↔ value = encodeInteger n := by
  cases value <;>
    simp only [decodeNonnegativeInteger, encodeInteger, reduceCtorEq, JsonValue.int.injEq]
  split_ifs with h
  · rw [Except.ok.injEq]
    omega
  · simp only [false_iff]
    omega

@[simp] theorem decodeBoolean_eq_ok {b : Bool} :
    decodeBoolean value path = .ok b ↔ value = encodeBoolean b := by
  cases value <;> simp [decodeBoolean, encodeBoolean]

end

/-! ## Optional fields -/

/-- `None if x is None else encode(x)`. -/
def encodeOption {α : Type} (encode : α → JsonValue φ) : Option α → JsonValue φ
  | none => .null
  | some a => encode a

/-- `x = None if raw is None else decode(raw)`. -/
def decodeOption {α : Type} (decode : JsonValue φ → Except CodecError α) (value : JsonValue φ) :
    Except CodecError (Option α) :=
  match value with
  | .null => .ok none
  | value => do
    let a ← decode value
    return some a

theorem decodeOption_eq_ok {α : Type} {decode : JsonValue φ → Except CodecError α}
    {encode : α → JsonValue φ} (valid : α → Prop)
    (hdecode : ∀ value a, decode value = .ok a ↔ value = encode a ∧ valid a)
    (hnull : ∀ a, encode a ≠ .null) {value : JsonValue φ} {a : Option α} :
    decodeOption decode value = .ok a ↔ value = encodeOption encode a ∧ ∀ x ∈ a, valid x := by
  unfold decodeOption
  split
  · cases a with
    | none => simp [encodeOption]
    | some a =>
      simp only [encodeOption, Except.ok.injEq, reduceCtorEq, false_iff, not_and]
      exact fun heq => absurd heq.symm (hnull a)
  · rename_i hne
    simp only [bind_eq_ok, pure_eq_ok, hdecode]
    cases a with
    | none =>
      simp only [encodeOption, reduceCtorEq, and_false, exists_false, false_iff, not_and]
      exact fun heq => absurd heq hne
    | some a => simp [encodeOption]

/-- `_decode_reason`, `_decode_optional_enum`. -/
def decodeOptionalEnum (α : Type) [Named α] (value : JsonValue φ) (path : String) :
    Except CodecError (Option α) :=
  decodeOption (fun value => decodeEnum α value path) value

@[simp] theorem decodeOptionalEnum_eq_ok {α : Type} [Named α] {value : JsonValue φ}
    {path : String} {a : Option α} :
    decodeOptionalEnum α value path = .ok a ↔ value = encodeOption encodeName a := by
  have hdecode : ∀ (value : JsonValue φ) (a : α),
      decodeEnum α value path = .ok a ↔ value = encodeName a ∧ True := by simp
  rw [decodeOptionalEnum, decodeOption_eq_ok (fun _ => True) hdecode (by simp [encodeName])]
  simp

/-! ## Revisions -/

/-- `_encode_revision`. -/
def encodeRevision (value : Revision) : JsonValue φ :=
  match value with
  | .integer n => dictOf [("type", .str "integer".toList), ("value", .int n)]
  | .text s _ => dictOf [("type", .str "string".toList), ("value", .str s.toList)]

/-- The value of a typed revision. -/
def revisionOf (revisionType revision : JsonValue φ) (path : String) : Except CodecError Revision :=
  match revisionType, revision with
  | .str revisionType, .int n =>
    if revisionType = "integer".toList then
      if 0 ≤ n then .ok (.integer n.toNat)
      else .error (.codec path "contains an invalid integer revision")
    else .error (.codec path "contains a malformed typed revision")
  | .str revisionType, .str text =>
    if revisionType = "string".toList then
      if h : isRevisionText (String.ofList text) = true then .ok (.text (String.ofList text) h)
      else .error (.codec path "contains an invalid string revision")
    else .error (.codec path "contains a malformed typed revision")
  | _, _ => .error (.codec path "contains a malformed typed revision")

/-- `_decode_revision`. -/
def decodeRevision (value : JsonValue φ) (path : String) : Except CodecError Revision := do
  let raw ← exactDict value path ["type", "value"]
  revisionOf (entry raw "type") (entry raw "value") path

theorem revisionOf_eq_ok {revisionType revision : JsonValue φ} {path : String} {r : Revision} :
    revisionOf revisionType revision path = .ok r ↔
      match r with
      | .integer n => revisionType = .str "integer".toList ∧ revision = .int n
      | .text s _ => revisionType = .str "string".toList ∧ revision = .str s.toList := by
  unfold revisionOf
  split
  · rename_i n
    cases r with
    | integer m =>
      split_ifs with htype hn
      · simp only [Except.ok.injEq, Revision.integer.injEq, htype, true_and, JsonValue.int.injEq]
        omega
      · simp only [htype, true_and, JsonValue.int.injEq, false_iff]
        omega
      · simp only [false_iff, not_and, JsonValue.str.injEq]
        exact fun heq => absurd heq htype
    | text s hs => split_ifs <;> simp
  · rename_i text
    cases r with
    | integer m => split_ifs <;> simp
    | text s hs =>
      split_ifs with htype htext
      · simp only [Except.ok.injEq, Revision.text.injEq, htype, true_and, JsonValue.str.injEq]
        constructor
        · rintro rfl
          rw [String.toList_ofList]
        · rintro rfl
          rw [String.ofList_toList]
      · simp only [htype, true_and, JsonValue.str.injEq, false_iff]
        rintro rfl
        rw [String.ofList_toList] at htext
        exact htext hs
      · simp only [false_iff, not_and, JsonValue.str.injEq]
        exact fun heq => absurd heq htype
  · rename_i hint hstr
    cases r with
    | integer m =>
      simp only [reduceCtorEq, false_iff, not_and]
      exact fun htype hrevision => hint _ _ htype hrevision
    | text s hs =>
      simp only [reduceCtorEq, false_iff, not_and]
      exact fun htype hrevision => hstr _ _ htype hrevision

@[simp] theorem decodeRevision_eq_ok {value : JsonValue φ} {path : String} {r : Revision} :
    decodeRevision value path = .ok r ↔ value = encodeRevision r := by
  have hfields : ∀ (revisionType revision : JsonValue φ), value
      = dictOf [("type", revisionType), ("value", revision)] ↔ ∃ entries, value = .obj entries
        ∧ entries.map Prod.fst = Sorting.sortedBy id (["type", "value"].map String.toList)
        ∧ entry entries "type" = revisionType ∧ entry entries "value" = revision := by
    intro revisionType revision
    have hnodup : ([("type", revisionType), ("value", revision)].map Prod.fst).Nodup := by
      simp
    constructor
    · intro heq
      refine ⟨_, heq, ?_⟩
      simpa using (obj_eq_dictOf_iff hnodup).1 rfl
    · rintro ⟨entries, rfl, hkeys, htype, hrevision⟩
      refine (obj_eq_dictOf_iff hnodup).2 ⟨hkeys, ?_⟩
      simp [htype, hrevision]
  simp only [decodeRevision, bind_eq_ok, exactDict_eq_ok, revisionOf_eq_ok]
  cases r with
  | integer n =>
    rw [encodeRevision, hfields]
    constructor
    · rintro ⟨entries, ⟨h1, h2⟩, h3⟩
      exact ⟨entries, h1, h2, h3⟩
    · rintro ⟨entries, h1, h2, h3⟩
      exact ⟨entries, ⟨h1, h2⟩, h3⟩
  | text s hs =>
    rw [encodeRevision, hfields]
    constructor
    · rintro ⟨entries, ⟨h1, h2⟩, h3⟩
      exact ⟨entries, h1, h2, h3⟩
    · rintro ⟨entries, h1, h2, h3⟩
      exact ⟨entries, ⟨h1, h2⟩, h3⟩

/-! ## Timestamps -/

/-- The seconds since `datetime.min`, as the text of a date and a time. -/
def secondsText (seconds : ℕ) : Text :=
  let date := Calendar.ordToYmd (seconds / 86400 + 1)
  decimal.write 4 date.1 ++ '-' :: (decimal.write 2 date.2.1 ++ '-' :: (decimal.write 2 date.2.2
    ++ 'T' :: (decimal.write 2 (seconds / 3600 % 24) ++ ':' :: (decimal.write 2 (seconds / 60 % 60)
      ++ ':' :: decimal.write 2 (seconds % 60)))))

/-- `value.isoformat(timespec=timespec)`, without the offset. -/
def isoformat (value : Datetime) : Text :=
  let microsecond := value.val % 1000000
  if microsecond = 0 then secondsText (value.val / 1000000)
  else secondsText (value.val / 1000000) ++ '.' :: decimal.write 6 microsecond

/-- `_encode_timestamp`. -/
def encodeTimestamp (value : Datetime) : JsonValue φ := .str (isoformat value ++ ['Z'])

/-- A field of a timestamp and what follows the separator after it. -/
def readField (width : ℕ) (text : Text) : Option (ℕ × Text) :=
  (decimal.read (text.take width)).map fun n => (n, text.drop (width + 1))

/-- The instant a number of microseconds after `datetime.min`. -/
def ofMicroseconds (n : ℕ) : Option Datetime :=
  if h : n < datetimeMax + 1 then some ⟨n, h⟩ else none

theorem ofMicroseconds_val (value : Datetime) : ofMicroseconds value.val = some value :=
  dif_pos value.isLt

/-- `datetime.fromisoformat`, on the texts that `isoformat` writes for UTC, without the offset.
What it makes of any other text does not count: `_decode_timestamp` then refuses the text, which
is not the encoding of the result. -/
def fromisoformat (text : Text) : Option Datetime := do
  let (year, text) ← readField 4 text
  let (month, text) ← readField 2 text
  let (day, text) ← readField 2 text
  let (hour, text) ← readField 2 text
  let (minute, text) ← readField 2 text
  let (second, text) ← readField 2 text
  let microsecond ← decimal.read text
  let value := (((Calendar.ymdToOrd year month day - 1) * 24 + hour) * 60 + minute) * 60 + second
  ofMicroseconds (value * 1000000 + microsecond)

/-- `_decode_timestamp`. -/
def decodeTimestamp (value : JsonValue φ) (path : String) : Except CodecError Datetime :=
  match value with
  | .str text =>
    if text.getLast? = some 'Z' then
      match fromisoformat text.dropLast with
      | none => .error (.codec path "must be a canonical UTC timestamp")
      | some decoded =>
        if isoformat decoded ++ ['Z'] = text then .ok decoded
        else .error (.codec path "must be a canonical UTC timestamp")
    else .error (.codec path "must be a canonical UTC timestamp")
  | _ => .error (.codec path "must be a canonical UTC timestamp")

theorem readField_append {width n : ℕ} (h : n < decimal.base ^ width) (c : Char) (rest : Text) :
    readField width (decimal.write width n ++ c :: rest) = some (n, rest) := by
  have hlength := decimal.length_write width n
  rw [readField, List.take_left' hlength, decimal.read_write h, Option.map_some]
  rw [List.drop_append, List.drop_of_length_le (by omega), hlength]
  simp

theorem readField_end {width n : ℕ} (h : n < decimal.base ^ width) :
    readField width (decimal.write width n) = some (n, []) := by
  have hlength := decimal.length_write width n
  rw [readField, List.take_of_length_le (by omega), decimal.read_write h, Option.map_some,
    List.drop_of_length_le (by omega)]

/-- The date and time that a timestamp spells, and its fraction. -/
theorem fromisoformat_fields (fraction : Text) {year month day hour minute second : ℕ}
    (hyear : year < 10000) (hmonth : month < 100) (hday : day < 100) (hhour : hour < 100)
    (hminute : minute < 100)
    (hsecond : readField 2 (decimal.write 2 second ++ fraction)
      = some (second, fraction.drop 1)) :
    fromisoformat (decimal.write 4 year ++ '-' :: (decimal.write 2 month ++ '-'
      :: (decimal.write 2 day ++ 'T' :: (decimal.write 2 hour ++ ':' :: (decimal.write 2 minute
        ++ ':' :: (decimal.write 2 second ++ fraction))))))
      = (decimal.read (fraction.drop 1)).bind fun microsecond =>
        let value :=
          (((Calendar.ymdToOrd year month day - 1) * 24 + hour) * 60 + minute) * 60 + second
        ofMicroseconds (value * 1000000 + microsecond) := by
  simp only [fromisoformat, readField_append (show year < decimal.base ^ 4 from hyear),
    readField_append (show month < decimal.base ^ 2 from hmonth),
    readField_append (show day < decimal.base ^ 2 from hday),
    readField_append (show hour < decimal.base ^ 2 from hhour),
    readField_append (show minute < decimal.base ^ 2 from hminute), hsecond,
    Option.bind_eq_bind, Option.bind_some]

/-- The fields of a number of seconds add up to it. -/
theorem seconds_fields (seconds : ℕ) :
    (((seconds / 86400 + 1 - 1) * 24 + seconds / 3600 % 24) * 60 + seconds / 60 % 60) * 60
      + seconds % 60 = seconds := by
  omega

/-- `fromisoformat` reads back what `isoformat` writes. -/
theorem fromisoformat_isoformat (value : Datetime) :
    fromisoformat (isoformat value) = some value := by
  have hordinal : value.val / 1000000 / 86400 + 1 ≤ 3652059 := by
    have hbound := value.isLt
    unfold datetimeMax at hbound
    omega
  rw [isoformat]
  conv_rhs => rw [← ofMicroseconds_val]
  generalize value.val = micros at *
  obtain ⟨hyear, hmonth, hday⟩ := Calendar.ordToYmd_lt (by omega) hordinal
  have hord : Calendar.ymdToOrd _ _ _ = micros / 1000000 / 86400 + 1 :=
    Calendar.ymdToOrd_ordToYmd (by omega)
  have hhour : micros / 1000000 / 3600 % 24 < 100 := by omega
  have hminute : micros / 1000000 / 60 % 60 < 100 := by omega
  have hsecond : micros / 1000000 % 60 < decimal.base ^ 2 :=
    lt_of_lt_of_le (Nat.mod_lt _ (by decide)) (show 60 ≤ 100 by decide)
  have hsum : micros / 1000000 * 1000000 + micros % 1000000 = micros := by omega
  dsimp only [secondsText]
  split_ifs with hzero
  · have hread := fromisoformat_fields [] hyear hmonth hday hhour hminute
      ((congrArg _ (List.append_nil _)).trans (readField_end hsecond))
    rw [List.append_nil] at hread
    rw [hread, hord, seconds_fields, List.drop_nil, Alphabet.read, Option.bind_some]
    rw [hzero] at hsum
    exact congrArg ofMicroseconds hsum
  · have hbase : decimal.base ^ 6 = 1000000 := by decide
    have hmicro : micros % 1000000 < decimal.base ^ 6 := by
      rw [hbase]
      exact Nat.mod_lt _ (by decide)
    have hread := fromisoformat_fields ('.' :: decimal.write 6 (micros % 1000000)) hyear hmonth
      hday hhour hminute (readField_append hsecond _ _)
    simp only [List.append_assoc, List.cons_append]
    rw [hread, hord, seconds_fields, List.drop_succ_cons, List.drop_zero,
      decimal.read_write hmicro, Option.bind_some]
    exact congrArg ofMicroseconds hsum

@[simp] theorem decodeTimestamp_eq_ok {value : JsonValue φ} {path : String} {t : Datetime} :
    decodeTimestamp value path = .ok t ↔ value = encodeTimestamp t := by
  cases value <;> simp only [decodeTimestamp, encodeTimestamp, reduceCtorEq, JsonValue.str.injEq]
  rename_i text
  constructor
  · intro h
    split_ifs at h with hlast
    split at h
    · cases h
    · split_ifs at h with htext
      cases h
      exact htext.symm
  · rintro rfl
    rw [if_pos (List.getLast?_concat ..), List.dropLast_concat, fromisoformat_isoformat]
    simp

end TrueFamily.Transaction
