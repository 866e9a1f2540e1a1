import TrueFamily.Transaction.Codec.Scalars
import TrueFamily.Transaction.Payload

/-!
# Record codecs

Every record is written as a dictionary of its fields, after its own validator, and read by four
steps: the exact keys, the fields, the constructor, and the comparison of the input with the
encoding of the result. `decodeRecord_eq_ok` says what the four steps accept: the encodings of the
valid records that JSON can represent.
-/

namespace TrueFamily.Transaction

open Checked JsonValue

variable {φ : Type} [FloatText φ]

/-! ## Canonical JSON -/

/-- `sys.int_info.default_max_str_digits`: an integer with more decimal digits has no text. -/
def maxStrDigits : ℕ := 4300

/-- `json.dumps` with `allow_nan=False` has a text for the node. -/
def isDumpable : JsonValue φ → Bool
  | .int value => decide ((natText value.natAbs).length ≤ maxStrDigits)
  | .float value => FloatText.isFinite value
  | _ => true

/-- `json.dumps` has a text for the value. -/
def Representable (value : JsonValue φ) : Prop := allNodes isDumpable value = true

instance (value : JsonValue φ) : Decidable (Representable value) := by
  unfold Representable; infer_instance

/-- `_canonical_json`. -/
def canonicalJson (value : JsonValue φ) : Except PyError Text := do
  check (Representable value)
    (.valueError "Bridge metadata cannot be represented canonically.")
  return render value

/-- `_roundtrip`. -/
def roundtrip (raw encoded : JsonValue φ) (path : String) : Except CodecError Unit :=
  match canonicalJson raw, canonicalJson encoded with
  | .ok left, .ok right => check (left = right) (.codec path "is not canonical")
  | _, _ => .error (.codec path "cannot be represented canonically")

theorem canonicalJson_eq_ok {value : JsonValue φ} {text : Text} :
    canonicalJson value = .ok text ↔ Representable value ∧ render value = text := by
  simp only [canonicalJson, bind_unit_eq_ok, check_eq_ok, pure_eq_ok]
  rw [eq_comm]

/-- A value agrees with itself exactly when it has a text. -/
theorem roundtrip_self {raw : JsonValue φ} {path : String} :
    roundtrip raw raw path = .ok () ↔ Representable raw := by
  unfold roundtrip
  constructor
  · intro h
    split at h
    · rename_i hleft _
      exact (canonicalJson_eq_ok.1 hleft).1
    · cases h
  · intro h
    rw [canonicalJson_eq_ok.2 ⟨h, rfl⟩]
    exact check_eq_ok.2 rfl

theorem representable_dictOf {fields : List (String × JsonValue φ)} :
    Representable (dictOf fields) ↔ ∀ field ∈ fields, Representable field.2 := by
  unfold Representable dictOf
  rw [allNodes, Bool.and_eq_true, allEntries_iff]
  simp only [isDumpable, true_and, Sorting.mem_sortedBy, List.forall_mem_map]

theorem representable_int {value : ℕ} :
    Representable (JsonValue.int (φ := φ) value) ↔ (natText value).length ≤ maxStrDigits := by
  unfold Representable
  rw [allNodes.eq_3 _ _ (by simp) (by simp), isDumpable, decide_eq_true_iff, Int.natAbs_natCast]

/-- Powers of ten have one digit more than their exponent. -/
theorem lt_natText_length {n k : ℕ} (h : 10 ^ k ≤ n) : k < (natText n).length := by
  have hn : n ≠ 0 := (Nat.pos_of_ne_zero (by positivity) |>.trans_le h).ne'
  have hdigits : n < 10 ^ (Nat.digits 10 n).length :=
    Nat.lt_base_pow_length_digits (by norm_num)
  rw [natText, if_neg hn, List.length_map, List.length_reverse]
  exact (Nat.pow_lt_pow_iff_right (by norm_num)).1 (h.trans_lt hdigits)

theorem representable_arr {items : List (JsonValue φ)} :
    Representable (.arr items) ↔ ∀ item ∈ items, Representable item := by
  unfold Representable
  rw [allNodes, Bool.and_eq_true, allItems_iff]
  simp [isDumpable]

theorem Representable.field {fields : List (String × JsonValue φ)} (key : String)
    {value : JsonValue φ} (h : Representable (dictOf fields)) (hmem : (key, value) ∈ fields) :
    Representable value :=
  representable_dictOf.1 h _ hmem

/-! ## Records -/

variable {α : Type}

/-- The body of an encoder whose fields are no records. -/
def encodeRecord (path : String) (postInit : α → Except PyError Unit)
    (fields : α → List (String × JsonValue φ)) (value : α) : Except CodecError (JsonValue φ) := do
  construct path (postInit value)
  return dictOf (fields value)

/-- The body of a decoder. -/
def decodeRecord (path : String) (keys : List String)
    (read : List (Text × JsonValue φ) → Except CodecError α)
    (postInit : α → Except PyError Unit) (encode : α → Except CodecError (JsonValue φ))
    (value : JsonValue φ) : Except CodecError α := do
  let raw ← exactDict value path keys
  let result ← read raw
  construct path (postInit result)
  let encoded ← encode result
  roundtrip value encoded path
  return result

variable {path : String} {keys : List String}
  {read : List (Text × JsonValue φ) → Except CodecError α}
  {postInit : α → Except PyError Unit} {encode : α → Except CodecError (JsonValue φ)}
  {fields : α → List (String × JsonValue φ)} {valid : α → Prop} {value : JsonValue φ} {a : α}

omit [FloatText φ] in
theorem encodeRecord_eq_ok (hvalid : ∀ a, postInit a = .ok () ↔ valid a) {encoded : JsonValue φ} :
    encodeRecord path postInit fields a = .ok encoded ↔ valid a ∧ encoded = dictOf (fields a) := by
  simp only [encodeRecord, bind_unit_eq_ok, construct_eq_ok, hvalid, pure_eq_ok]

/-- A decoder accepts the encodings of the valid records that JSON can represent. -/
theorem decodeRecord_eq_ok (nested : α → Prop) (hkeys : ∀ a, (fields a).map Prod.fst = keys)
    (hnodup : keys.Nodup)
    (hread : ∀ raw a, read raw = .ok a ↔
      (∀ field ∈ fields a, entry raw field.1 = field.2) ∧ nested a)
    (hvalid : ∀ a, postInit a = .ok () ↔ valid a)
    (hencode : ∀ a encoded, encode a = .ok encoded ↔ valid a ∧ encoded = dictOf (fields a))
    (hnested : ∀ a, valid a → Representable (dictOf (fields a)) → nested a) :
    decodeRecord path keys read postInit encode value = .ok a ↔
      value = dictOf (fields a) ∧ valid a ∧ Representable value := by
  have hobj : ∀ a raw, JsonValue.obj raw = dictOf (fields a) ↔
      raw.map Prod.fst = Sorting.sortedBy id (keys.map String.toList)
        ∧ ∀ field ∈ fields a, entry raw field.1 = field.2 := by
    intro a raw
    rw [obj_eq_dictOf_iff (hkeys a ▸ hnodup), hkeys]
  simp only [decodeRecord, bind_eq_ok, exists_unit, exactDict_eq_ok, hread, construct_eq_ok,
    hvalid, hencode, pure_eq_ok]
  constructor
  · rintro ⟨raw, ⟨rfl, hraw⟩, b, ⟨hitems, _⟩, hb, encoded, ⟨_, rfl⟩, hround, rfl⟩
    have hvalue := (hobj a raw).2 ⟨hraw, hitems⟩
    rw [hvalue] at hround ⊢
    exact ⟨rfl, hb, roundtrip_self.1 hround⟩
  · rintro ⟨rfl, ha, hrepresentable⟩
    obtain ⟨hraw, hitems⟩ := (hobj a _).1 rfl
    exact ⟨_, ⟨rfl, hraw⟩, a, ⟨hitems, hnested a ha hrepresentable⟩, ha, _, ⟨ha, rfl⟩,
      roundtrip_self.2 hrepresentable, rfl⟩

theorem representable_congr {value data : JsonValue φ} {valid : Prop} :
    value = data ∧ valid ∧ Representable value ↔ value = data ∧ valid ∧ Representable data := by
  constructor
  · rintro ⟨rfl, h⟩
    exact ⟨rfl, h⟩
  · rintro ⟨rfl, h⟩
    exact ⟨rfl, h⟩

/-! ## Codecs inside records -/

/-- An encoder with its decoder. `data` is what an encoded record is written as. -/
structure RecordCodec (φ α : Type) where
  encode : α → Except CodecError (JsonValue φ)
  decode : JsonValue φ → Except CodecError α
  data : α → JsonValue φ

namespace RecordCodec

/-- The decoder of a record accepts exactly the encodings of the valid records that JSON can
represent. -/
structure Exact (codec : RecordCodec φ α) (valid : α → Prop) : Prop where
  encode_eq_ok : ∀ a encoded, codec.encode a = .ok encoded ↔ valid a ∧ encoded = codec.data a
  decode_eq_ok : ∀ value a, codec.decode value = .ok a ↔
    value = codec.data a ∧ valid a ∧ Representable value

/-- An optional record. -/
def encodeOption (codec : RecordCodec φ α) : Option α → Except CodecError (JsonValue φ)
  | none => .ok .null
  | some a => codec.encode a

/-- A tuple of records. -/
def encodeItems (codec : RecordCodec φ α) (items : List α) : Except CodecError (JsonValue φ) := do
  let encoded ← collect codec.encode items
  return .arr encoded

/-- `tuple(decode(item) for item in _exact_list(value, path))`. -/
def decodeItems (codec : RecordCodec φ α) (value : JsonValue φ) (path : String) :
    Except CodecError (List α) :=
  match value with
  | .arr items => collect codec.decode items
  | _ => .error (.codec path "must be a built-in list")

variable {codec : RecordCodec φ α}

theorem Exact.encodeOption_eq_ok (h : codec.Exact valid) {a : Option α} {encoded : JsonValue φ} :
    codec.encodeOption a = .ok encoded ↔
      (∀ x ∈ a, valid x) ∧ encoded = Transaction.encodeOption codec.data a := by
  cases a with
  | none => simp [encodeOption, Transaction.encodeOption, eq_comm]
  | some a => simp [encodeOption, Transaction.encodeOption, h.encode_eq_ok]

theorem Exact.decodeOption_eq_ok (h : codec.Exact valid) (hnull : ∀ a, codec.data a ≠ .null)
    {value : JsonValue φ} {a : Option α} :
    decodeOption codec.decode value = .ok a ↔
      value = Transaction.encodeOption codec.data a
        ∧ ∀ x ∈ a, valid x ∧ Representable (codec.data x) :=
  Transaction.decodeOption_eq_ok (fun x => valid x ∧ Representable (codec.data x))
    (fun value a => (h.decode_eq_ok value a).trans representable_congr) hnull

theorem Exact.encodeItems_eq_ok (h : codec.Exact valid) {items : List α} {encoded : JsonValue φ} :
    codec.encodeItems items = .ok encoded ↔
      (∀ a ∈ items, valid a) ∧ encoded = .arr (items.map codec.data) := by
  have hcollect : ∀ values, collect codec.encode items = .ok values ↔
      (∀ a ∈ items, valid a) ∧ values = items.map codec.data := by
    intro values
    simp only [collect_eq_ok, h.encode_eq_ok]
    induction items generalizing values with
    | nil => simp
    | cons a items ih =>
      simp only [List.forall₂_cons_left_iff, ih, List.forall_mem_cons, List.map_cons]
      constructor
      · rintro ⟨_, _, ⟨ha, rfl⟩, ⟨hitems, rfl⟩, rfl⟩
        exact ⟨⟨ha, hitems⟩, rfl⟩
      · rintro ⟨⟨ha, hitems⟩, rfl⟩
        exact ⟨_, _, ⟨ha, rfl⟩, ⟨hitems, rfl⟩, rfl⟩
  simp only [encodeItems, bind_eq_ok, pure_eq_ok, hcollect]
  constructor
  · rintro ⟨_, ⟨hitems, rfl⟩, rfl⟩
    exact ⟨hitems, rfl⟩
  · rintro ⟨hitems, rfl⟩
    exact ⟨_, ⟨hitems, rfl⟩, rfl⟩

theorem Exact.decodeItems_eq_ok (h : codec.Exact valid) {value : JsonValue φ} {items : List α} :
    codec.decodeItems value path = .ok items ↔
      value = .arr (items.map codec.data)
        ∧ ∀ a ∈ items, valid a ∧ Representable (codec.data a) := by
  have hcollect : ∀ values, collect codec.decode values = .ok items ↔
      values = items.map codec.data ∧ ∀ a ∈ items, valid a ∧ Representable (codec.data a) := by
    intro values
    simp only [collect_eq_ok, h.decode_eq_ok]
    induction items generalizing values with
    | nil => simp
    | cons a items ih =>
      simp only [List.forall₂_cons_right_iff, ih, List.forall_mem_cons, List.map_cons]
      constructor
      · rintro ⟨_, _, ⟨rfl, ha⟩, ⟨rfl, hitems⟩, rfl⟩
        exact ⟨rfl, ha, hitems⟩
      · rintro ⟨rfl, ha, hitems⟩
        exact ⟨_, _, ⟨rfl, ha⟩, ⟨rfl, hitems⟩, rfl⟩
  unfold decodeItems
  split
  · rw [hcollect, JsonValue.arr.injEq]
  · rename_i hne
    simp only [reduceCtorEq, false_iff, not_and]
    exact fun heq => absurd heq (hne _)

end RecordCodec

end TrueFamily.Transaction
