import TrueFamily.Providers.ProjectedCopy

/-!
# Snapshots of provider documents

`ProviderDocumentSnapshot` with the accounting of its size, and the planner's side: the canonical
JSON and the fingerprint of a reference document. A snapshot is made exactly of the documents within
the limits, and it agrees with the planner about them, whatever happens later to the containers that
it was made from (`snapshot_agrees`).
-/

namespace TrueFamily.Providers

open PyHeap
open JsonValue (Text FloatText)
open PyValue (render sortKeys Same)
open TrueFamily.Transaction (Provider)

/-- `_REFERENCE_SNAPSHOT_MAX_OBJECT_KEY_BYTES`. -/
def maxObjectKeyBytes : ℕ := 512

/-! ## The header -/

/-- `Revision`, before it is validated. -/
inductive RawRevision
  | integer (value : ℤ)
  | text (value : PyText)
  deriving DecidableEq

/-- The names of `TRUE_FAMILY_PROVIDER_MANIFEST`. -/
def providerManifest : List PyText :=
  [Provider.activeYaml, .configEntry, .externalWriters, .lovelace, .scheduler].map fun provider =>
    PyText.ofString provider.name

/-- `_validate_provider`; nothing where it raises. -/
def validateProvider (provider : PyText) : Option Unit :=
  if provider ∈ providerManifest then some () else none

/-- The bytes of a code point in `encode("utf-8")`. -/
def utf8Size (c : CodePoint) : ℕ :=
  if c.val < 0x80 then 1 else if c.val < 0x800 then 2 else if c.val < 0x10000 then 3 else 4

/-- `len(value.encode("utf-8"))`; nothing where a surrogate has no encoding. -/
def utf8Length (value : PyText) : Option ℕ :=
  if value.any fun c => decide (0xd800 ≤ c.val ∧ c.val ≤ 0xdfff) then none
  else some (value.map utf8Size).sum

/-- `_validate_snapshot_object_key`. -/
def validateSnapshotObjectKey (objectKey : PyText) : Option Unit :=
  if maxObjectKeyBytes < objectKey.length then none
  else if isNonemptyString objectKey = false then none
  else do
    let bytes ← utf8Length objectKey
    if maxObjectKeyBytes < bytes then none else some ()

/-- `_validate_revision`, after the check of the length of a text. -/
def validateRevision : RawRevision → Option Unit
  | .integer value => if value < 0 then none else some ()
  | .text value =>
    if maxDocumentBytes < value.length then none
    else if isNonemptyString value = false then none
    else some ()

section

variable {φ : Type} [FloatText φ]

/-- `_canonical_revision_json_size`. -/
def canonicalRevisionJsonSize (φ : Type) [FloatText φ] (revision : RawRevision) (remaining : ℤ) :
    Option ℕ := do
  let kind :=
    match revision with
    | .integer _ => "integer"
    | .text _ => "string"
  let size := "\x7b\"kind\":".toList.length
  let kindSize ← boundedJsonStringSize (PyText.ofString kind) (remaining - size)
  let size := size + kindSize + ",\"value\":".toList.length
  let valueSize ←
    match revision with
    | .integer value =>
      (canonicalScalarText (.int value : PyValue φ) (remaining - size - 1)).map List.length
    | .text value => boundedJsonStringSize value (remaining - size - 1)
  let size := size + valueSize + 1
  if remaining < size then none else some size

/-- `_canonical_document_overhead`. -/
def canonicalDocumentOverhead (φ : Type) [FloatText φ] (provider objectId : PyText)
    (revision : RawRevision) : Option ℕ := do
  validateProvider provider
  validateSnapshotObjectKey objectId
  validateRevision revision
  let limit : ℤ := maxDocumentBytes
  let size := "\x7b\"object_key\":".toList.length
  let keySize ← boundedJsonStringSize objectId (limit - size)
  let size := size + keySize + ",\"payload\":".toList.length + ",\"provider\":".toList.length
  let providerSize ← boundedJsonStringSize provider (limit - size)
  let size := size + providerSize + ",\"revision\":".toList.length
  let revisionSize ← canonicalRevisionJsonSize φ revision (limit - size - 1)
  let size := size + revisionSize + 1
  if limit < size then none else some size

/-! ### Its text -/

/-- The typed revision. -/
def RawRevision.toJson : RawRevision → PyValue φ
  | .integer value => .obj [(PyText.ofString "kind", .str (PyText.ofString "integer")),
      (PyText.ofString "value", .int value)]
  | .text value => .obj [(PyText.ofString "kind", .str (PyText.ofString "string")),
      (PyText.ofString "value", .str value)]

/-- The document of which the size is bounded. -/
def documentJson (provider objectId : PyText) (revision : RawRevision) (payload : PyValue φ) :
    PyValue φ :=
  .obj [(PyText.ofString "object_key", .str objectId), (PyText.ofString "payload", payload),
    (PyText.ofString "provider", .str provider), (PyText.ofString "revision", revision.toJson)]

/-- The length of its canonical text besides the payload. -/
def documentOverhead (φ : Type) [FloatText φ] (provider objectId : PyText)
    (revision : RawRevision) : ℕ :=
  50 + stringSize objectId + stringSize provider + textSize (revision.toJson : PyValue φ)

/-- A valid key. -/
structure KeyValid (objectKey : PyText) : Prop where
  length : objectKey.length ≤ maxObjectKeyBytes
  nonempty : isNonemptyString objectKey = true
  bytes : ∃ bytes, utf8Length objectKey = some bytes ∧ bytes ≤ maxObjectKeyBytes

/-- A valid revision: an integer that is not negative and not too long, or a canonical string. -/
def RevisionValid : RawRevision → Prop
  | .integer value => 0 ≤ value ∧ bitLength value ≤ maxIntegerBits
  | .text value => isNonemptyString value = true

/-- The provider, the key and the revision are valid. -/
structure HeaderValid (provider objectId : PyText) (revision : RawRevision) : Prop where
  provider : provider ∈ providerManifest
  key : KeyValid objectId
  revision : RevisionValid revision

theorem textSize_document (provider objectId : PyText) (revision : RawRevision)
    (payload : PyValue φ) : textSize (documentJson provider objectId revision payload) =
      documentOverhead φ provider objectId revision + textSize payload := by
  have hkey : stringSize (PyText.ofString "object_key") = 12 := by decide
  have hpayload : stringSize (PyText.ofString "payload") = 9 := by decide
  have hprovider : stringSize (PyText.ofString "provider") = 10 := by decide
  have hrevision : stringSize (PyText.ofString "revision") = 10 := by decide
  have hstr : ∀ value, textSize (.str value : PyValue φ) = stringSize value := fun _ => rfl
  rw [documentJson, textSize_obj, documentOverhead]
  simp only [List.map_cons, List.map_nil, List.sum_cons, List.sum_nil, List.length_cons,
    List.length_nil, hkey, hpayload, hprovider, hrevision, hstr]
  omega

/-! ### Its checks -/

theorem validateProvider_eq_some {provider : PyText} {result : Unit} :
    validateProvider provider = some result ↔ provider ∈ providerManifest := by
  rw [validateProvider]
  split <;> simp [*]

theorem validateSnapshotObjectKey_eq_some {objectKey : PyText} {result : Unit} :
    validateSnapshotObjectKey objectKey = some result ↔ KeyValid objectKey := by
  rw [validateSnapshotObjectKey]
  split
  · rename_i hlong
    exact iff_of_false (by simp) fun h => absurd h.length (not_le.2 hlong)
  · rename_i hshort
    split
    · rename_i hempty
      exact iff_of_false (by simp) fun h => absurd h.nonempty (by simp [hempty])
    · rename_i hnonempty
      rw [Option.bind_eq_bind, Option.bind_eq_some_iff]
      constructor
      · rintro ⟨bytes, hbytes, hcheck⟩
        split at hcheck
        · cases hcheck
        · rename_i hle
          exact ⟨not_lt.1 hshort, Bool.not_eq_false _ ▸ hnonempty, bytes, hbytes, not_lt.1 hle⟩
      · rintro ⟨-, -, bytes, hbytes, hle⟩
        exact ⟨bytes, hbytes, if_neg (not_lt.2 hle)⟩

theorem length_le_stringSize (value : PyText) : value.length + 2 ≤ stringSize value := by
  have hpoints : value.length ≤ (value.flatMap PyValue.escapePoint).length := by
    induction value with
    | nil => exact Nat.le_refl _
    | cons c value ih =>
      have hpoint := PyValue.length_escapePoint_pos c
      rw [List.flatMap_cons, List.length_append, List.length_cons]
      omega
  rw [stringSize, PyValue.stringTail, List.length_append, List.length_singleton]
  omega

/-- The size of the typed revision. -/
theorem canonicalRevisionJsonSize_eq_some {revision : RawRevision} {remaining : ℤ} {result : ℕ} :
    canonicalRevisionJsonSize φ revision remaining = some result ↔
      (∀ value, revision = .integer value → bitLength value ≤ maxIntegerBits) ∧
        (textSize (revision.toJson : PyValue φ) : ℤ) ≤ remaining ∧
          result = textSize (revision.toJson : PyValue φ) := by
  -- the literal parts of the text
  have hkind : stringSize (PyText.ofString "kind") = 6 := by decide
  have hvalue : stringSize (PyText.ofString "value") = 7 := by decide
  have hinteger : stringSize (PyText.ofString "integer") = 9 := by decide
  have hstring : stringSize (PyText.ofString "string") = 8 := by decide
  have hopen : "\x7b\"kind\":".toList.length = 8 := by decide
  have hnext : ",\"value\":".toList.length = 9 := by decide
  have hstr : ∀ value, textSize (.str value : PyValue φ) = stringSize value := fun _ => rfl
  cases revision with
  | integer value =>
    have hsize : textSize (RawRevision.toJson (.integer value) : PyValue φ) =
        27 + textSize (.int value : PyValue φ) := by
      rw [RawRevision.toJson, textSize_obj]
      simp only [List.map_cons, List.map_nil, List.sum_cons, List.sum_nil, List.length_cons,
        List.length_nil, hkind, hvalue, hstr, hinteger]
      omega
    have hscalar := fun text remaining => @canonicalScalarText_eq_some φ _ (.int value) text
      remaining (Or.inl ⟨value, rfl⟩)
    simp only [canonicalRevisionJsonSize, Option.bind_eq_bind, Option.bind_eq_some_iff,
      Option.map_eq_some_iff, boundedJsonStringSize_eq_some, hscalar, hsize, hopen, hnext, hinteger]
    have hlength : textSize (.int value : PyValue φ) =
      (render (.int value : PyValue φ)).length := rfl
    constructor
    · rintro ⟨_, ⟨-, rfl⟩, _, ⟨_, ⟨hfits, -, rfl⟩, rfl⟩, hcheck⟩
      split at hcheck
      · cases hcheck
      · rename_i hshort
        obtain rfl := Option.some.inj hcheck
        refine ⟨fun other hother => ?_, ?_, ?_⟩
        · obtain rfl := RawRevision.integer.inj hother
          exact hfits
        · rw [hlength]
          omega
        · omega
    · rintro ⟨hfits, hbound, rfl⟩
      rw [hlength] at hbound ⊢
      refine ⟨_, ⟨by omega, rfl⟩, _,
        ⟨_, ⟨hfits value rfl, by omega, rfl⟩, rfl⟩, ?_⟩
      rw [if_neg (by omega)]
      exact congrArg some (by omega)
  | text value =>
    have hsize : textSize (RawRevision.toJson (.text value) : PyValue φ) =
        26 + stringSize value := by
      rw [RawRevision.toJson, textSize_obj]
      simp only [List.map_cons, List.map_nil, List.sum_cons, List.sum_nil, List.length_cons,
        List.length_nil, hkind, hvalue, hstr, hstring]
      omega
    simp only [canonicalRevisionJsonSize, Option.bind_eq_bind, Option.bind_eq_some_iff,
      boundedJsonStringSize_eq_some, hsize, hopen, hnext, hstring]
    constructor
    · rintro ⟨_, ⟨-, rfl⟩, _, ⟨-, rfl⟩, hcheck⟩
      split at hcheck
      · cases hcheck
      · rename_i hshort
        obtain rfl := Option.some.inj hcheck
        refine ⟨fun other hother => (nomatch hother), ?_, by omega⟩
        omega
    · rintro ⟨-, hbound, rfl⟩
      refine ⟨_, ⟨by omega, rfl⟩, _, ⟨by omega, rfl⟩, ?_⟩
      rw [if_neg (by omega)]
      exact congrArg some (by omega)

/-- What `_validate_revision` accepts. -/
def RevisionChecked : RawRevision → Prop
  | .integer value => 0 ≤ value
  | .text value => value.length ≤ maxDocumentBytes ∧ isNonemptyString value = true

theorem validateRevision_eq_some {revision : RawRevision} {result : Unit} :
    validateRevision revision = some result ↔ RevisionChecked revision := by
  cases revision with
  | integer value =>
    rw [validateRevision]
    split
    · rename_i hnegative
      exact iff_of_false (by simp) (not_le.2 hnegative)
    · rename_i hnegative
      exact iff_of_true rfl (not_lt.1 hnegative)
  | text value =>
    rw [validateRevision]
    split
    · rename_i hlong
      exact iff_of_false (by simp) fun h => absurd h.1 (not_le.2 hlong)
    · rename_i hshort
      split
      · rename_i hempty
        exact iff_of_false (by simp) fun h => absurd h.2 (by simp [hempty])
      · rename_i hnonempty
        exact iff_of_true rfl ⟨not_lt.1 hshort, Bool.not_eq_false _ ▸ hnonempty⟩

/-- The size of the document besides the payload. -/
theorem canonicalDocumentOverhead_eq_some {provider objectId : PyText} {revision : RawRevision}
    {result : ℕ} : canonicalDocumentOverhead φ provider objectId revision = some result ↔
      HeaderValid provider objectId revision ∧
        documentOverhead φ provider objectId revision ≤ maxDocumentBytes ∧
          result = documentOverhead φ provider objectId revision := by
  have hkey : "\x7b\"object_key\":".toList.length = 14 := by decide
  have hpayload : ",\"payload\":".toList.length = 11 := by decide
  have hprovider : ",\"provider\":".toList.length = 12 := by decide
  have hrevision : ",\"revision\":".toList.length = 12 := by decide
  simp only [canonicalDocumentOverhead, Option.bind_eq_bind, Option.bind_eq_some_iff,
    validateProvider_eq_some, validateSnapshotObjectKey_eq_some, validateRevision_eq_some,
    boundedJsonStringSize_eq_some, canonicalRevisionJsonSize_eq_some, hkey, hpayload, hprovider,
    hrevision, documentOverhead]
  constructor
  · rintro ⟨_, hmanifest, _, hvalid, _, hrevised, _, ⟨-, rfl⟩, _, ⟨-, rfl⟩, _, ⟨hbits, -, rfl⟩,
      hcheck⟩
    split at hcheck
    · cases hcheck
    · rename_i hshort
      obtain rfl := Option.some.inj hcheck
      refine ⟨⟨hmanifest, hvalid, ?_⟩, by omega, by omega⟩
      cases revision with
      | integer value => exact ⟨hrevised, hbits value rfl⟩
      | text value => exact hrevised.2
  · rintro ⟨⟨hmanifest, hvalid, hrevised⟩, hbound, rfl⟩
    have hchecks : RevisionChecked revision ∧
        ∀ value, revision = .integer value → bitLength value ≤ maxIntegerBits := by
      cases revision with
      | integer value =>
        refine ⟨hrevised.1, fun other hother => ?_⟩
        obtain rfl := RawRevision.integer.inj hother
        exact hrevised.2
      | text value =>
        refine ⟨⟨?_, hrevised⟩, fun other hother => nomatch hother⟩
        -- the text alone would exceed the limit of the document
        have hlength := length_le_stringSize value
        have hsize : stringSize value ≤
            textSize (RawRevision.toJson (.text value) : PyValue φ) := by
          rw [RawRevision.toJson, textSize_obj]
          simp only [List.map_cons, List.map_nil, List.sum_cons, List.sum_nil]
          have hstr : textSize (.str value : PyValue φ) = stringSize value := rfl
          omega
        omega
    refine ⟨(), hmanifest, (), hvalid, (), hchecks.1, _, ⟨by omega, rfl⟩, _,
      ⟨by omega, rfl⟩, _, ⟨hchecks.2, by omega, rfl⟩, ?_⟩
    rw [if_neg (by omega)]
    exact congrArg some (by omega)

/-! ## The snapshot -/

variable {δ : Type} [DecidableEq δ] (sha256 : Text → δ)

/-- `ProviderDocumentSnapshot`. -/
structure ProviderDocumentSnapshot (φ δ : Type) where
  provider : PyText
  objectId : PyText
  revision : RawRevision
  payload : Ref φ
  fingerprint : δ
  canonicalPayloadSize : ℕ
  canonicalDocumentSize : ℕ
  canonicalNodeCount : ℕ

/-- `ProviderDocumentSnapshot.__init__` with `_prepare_provider_document_snapshot`; nothing where it
raises. -/
def ProviderDocumentSnapshot.init (heap : Heap φ) (provider objectId : PyText)
    (revision : RawRevision) (payload : Ref φ) :
    Option (Heap φ × ProviderDocumentSnapshot φ δ) := do
  let overhead ← canonicalDocumentOverhead φ provider objectId revision
  let (heap, canonicalPayload, payloadSize, nodeCount) ←
    validateAndCopyProjectedPayload heap payload (maxDocumentBytes - overhead)
  let value ← heap.value .mutable canonicalPayload
  let streamed ← streamCanonicalJson value payloadSize
  if streamed.length ≠ payloadSize then none
  else do
    let (heap, frozen) ← freezeProjectedPayload heap.length heap canonicalPayload
    return (heap,
      { provider := provider
        objectId := objectId
        revision := revision
        payload := frozen
        fingerprint := sha256 streamed
        canonicalPayloadSize := payloadSize
        canonicalDocumentSize := overhead + payloadSize
        canonicalNodeCount := nodeCount })

/-- `_validate_snapshot_document`, which is `_recompute_snapshot_document`: the fingerprint, the
size of the document and the nodes. -/
def validateSnapshotDocument (heap : Heap φ) (document : ProviderDocumentSnapshot φ δ) :
    Option (δ × ℕ × ℕ) := do
  let overhead ← canonicalDocumentOverhead φ document.provider document.objectId document.revision
  let (payloadSize, nodeCount) ←
    preflightFrozenProjectedPayload heap document.payload (maxDocumentBytes - overhead)
  let value ← heap.value .frozen document.payload
  let streamed ← streamCanonicalJson value payloadSize
  let documentSize := overhead + payloadSize
  if streamed.length ≠ payloadSize ∨ document.canonicalPayloadSize ≠ payloadSize
      ∨ document.canonicalDocumentSize ≠ documentSize ∨ document.canonicalNodeCount ≠ nodeCount
      ∨ document.fingerprint ≠ sha256 streamed then none
  else some (sha256 streamed, documentSize, nodeCount)

/-! ## The planner's side -/

/-- `ReferenceDocument`, not writable. -/
structure ReferenceDocument (φ : Type) where
  provider : PyText
  objectId : PyText
  revision : RawRevision
  payload : Ref φ

/-- `as_reference_document`, with the checks of `ReferenceDocument`. -/
def ProviderDocumentSnapshot.asReferenceDocument (heap : Heap φ)
    (self : ProviderDocumentSnapshot φ δ) : Option (Heap φ × ReferenceDocument φ) := do
  let (heap, payload) ← copyProjectedPayload heap self.payload
  if self.provider = [] ∨ self.objectId = [] ∨ self.revision = .text [] then none
  else some (heap,
    { provider := self.provider
      objectId := self.objectId
      revision := self.revision
      payload := payload })

mutual

/-- `validate` of `_validate_payload`. A value that was read has no cycle. -/
def validateValue : PyValue φ → ℕ → Bool
  | .obj entries, depth => decide (depth ≤ 100) && validateEntries entries (depth + 1)
  | .arr items, depth => decide (depth ≤ 100) && validateItems items (depth + 1)
  | .float value, depth => decide (depth ≤ 100) && FloatText.isFinite value
  | _, depth => decide (depth ≤ 100)

def validateItems : List (PyValue φ) → ℕ → Bool
  | [], _ => true
  | item :: items, depth => validateValue item depth && validateItems items depth

def validateEntries : List (PyText × PyValue φ) → ℕ → Bool
  | [], _ => true
  | (_, item) :: entries, depth => validateValue item depth && validateEntries entries depth

end

/-- `canonical_document_fingerprint`, which is `_payload_fingerprint` of the payload. -/
def canonicalDocumentFingerprint (heap : Heap φ) (document : ReferenceDocument φ) : Option δ := do
  let payload ← heap.value .mutable document.payload
  if isContainer payload && validateValue payload 0 then some (sha256 (canonicalJson payload))
  else none

/-! ## Agreement -/

theorem validateItems_eq_all (items : List (PyValue φ)) (depth : ℕ) :
    validateItems items depth = items.all (validateValue · depth) := by
  induction items with
  | nil => rfl
  | cons item items ih => rw [validateItems, ih, List.all_cons]

theorem validateEntries_eq_all (entries : List (PyText × PyValue φ)) (depth : ℕ) :
    validateEntries entries depth = (entries.map Prod.snd).all (validateValue · depth) := by
  induction entries with
  | nil => rfl
  | cons entry entries ih => rw [validateEntries, ih, List.map_cons, List.all_cons]

/-- The planner accepts the values that the snapshots accept. -/
theorem validateValue_of_fits (value : PyValue φ) : ∀ depth,
    depth + depthOf value ≤ maxPayloadDepth → ScalarsFit value →
      validateValue value depth = true := by
  induction value using children_induction with
  | _ value ih =>
    intro depth hdepth hfits
    have hle : depth ≤ maxPayloadDepth := Nat.le_of_add_right_le hdepth
    rw [depthOf_le_iff hle] at hdepth
    have hchildren : ∀ item ∈ childrenOf value, validateValue item (depth + 1) = true :=
      fun item hmem => ih item hmem _ (hdepth item hmem) ((scalarsFit_iff.1 hfits).2 item hmem)
    have hlimit : decide (depth ≤ 100) = true := decide_eq_true hle
    cases value with
    | obj entries =>
      rw [validateValue, hlimit, validateEntries_eq_all, Bool.true_and]
      exact List.all_eq_true.2 hchildren
    | arr items =>
      rw [validateValue, hlimit, validateItems_eq_all, Bool.true_and]
      exact List.all_eq_true.2 hchildren
    | float value =>
      rw [validateValue, hlimit, Bool.true_and]
      exact hfits
    | _ => exact hlimit

/-- The documents of which a snapshot is made. -/
structure Acceptable (provider objectId : PyText) (revision : RawRevision) (payload : PyValue φ) :
    Prop where
  header : HeaderValid provider objectId revision
  container : isContainer payload = true
  depth : depthOf payload ≤ maxPayloadDepth
  nodes : nodeCount payload ≤ maxPayloadNodes
  scalars : ScalarsFit payload
  size : (canonicalJson (documentJson provider objectId revision payload)).length ≤ maxDocumentBytes

variable {provider objectId : PyText} {revision : RawRevision} {payload : PyValue φ}

theorem withinLimits_iff : Acceptable provider objectId revision payload ↔
    HeaderValid provider objectId revision ∧
      documentOverhead φ provider objectId revision ≤ maxDocumentBytes ∧
        WithinLimits payload
          (maxDocumentBytes - documentOverhead φ provider objectId revision : ℤ) := by
  have hsize : (canonicalJson (documentJson provider objectId revision payload)).length =
    documentOverhead φ provider objectId revision + textSize payload :=
      textSize_document provider objectId revision payload
  constructor
  · rintro ⟨hheader, hcontainer, hdepth, hnodes, hscalars, hbound⟩
    rw [hsize] at hbound
    exact ⟨hheader, by omega, hcontainer, hdepth, hnodes, hscalars, by omega⟩
  · rintro ⟨hheader, -, hcontainer, hdepth, hnodes, hscalars, hbound⟩
    refine ⟨hheader, hcontainer, hdepth, hnodes, hscalars, ?_⟩
    rw [hsize]
    omega

/-- The snapshot that is made of an acceptable document, with its immutable payload. -/
def snapshotOf (provider objectId : PyText) (revision : RawRevision) (payload : PyValue φ)
    (frozen : Ref φ) : ProviderDocumentSnapshot φ δ where
  provider := provider
  objectId := objectId
  revision := revision
  payload := frozen
  fingerprint := sha256 (canonicalJson payload)
  canonicalPayloadSize := textSize payload
  canonicalDocumentSize := documentOverhead φ provider objectId revision + textSize payload
  canonicalNodeCount := nodeCount payload

theorem textSize_sortKeys (payload : PyValue φ) :
    textSize (sortKeys payload) = textSize payload := by
  rw [textSize, canonicalJson_sortKeys, textSize]

theorem streamCanonicalJson_sortKeys (hscalars : ScalarsFit payload) :
    streamCanonicalJson (sortKeys payload) (textSize payload) = some (canonicalJson payload) :=
  streamCanonicalJson_eq_some.2 ⟨(scalarsFit_sortKeys payload).2 hscalars,
    (textSize_sortKeys payload).le, (canonicalJson_sortKeys payload).symm⟩

section

variable {heap heap' : Heap φ} {root : Ref φ} {footprint : List ℕ}

omit [DecidableEq δ] in
theorem acceptable_of_init {result : Heap φ × ProviderDocumentSnapshot φ δ}
    (h : heap.Holds .mutable root payload footprint) (hnodup : footprint.Nodup)
    (hinit : ProviderDocumentSnapshot.init sha256 heap provider objectId revision root =
      some result) : Acceptable provider objectId revision payload := by
  simp only [ProviderDocumentSnapshot.init, Option.bind_eq_bind, Option.bind_eq_some_iff,
    canonicalDocumentOverhead_eq_some] at hinit
  obtain ⟨overhead, ⟨hheader, hbound, rfl⟩, copied, hcopied, -⟩ := hinit
  exact withinLimits_iff.2 ⟨hheader, hbound, withinLimits_of_copied h hnodup hcopied⟩

omit [DecidableEq δ] in
/-- Of an acceptable document a copy is made, and of the copy an immutable one. -/
theorem init_of_acceptable (h : heap.Holds .mutable root payload footprint)
    (hnodup : footprint.Nodup) (haccept : Acceptable provider objectId revision payload) :
    ∃ mid copied heap' frozen,
      validateAndCopyProjectedPayload heap root
          (maxDocumentBytes - documentOverhead φ provider objectId revision : ℤ) =
        some (mid, copied.ref, textSize payload, nodeCount payload) ∧
      copied.value = sortKeys payload ∧ heap.Made .mutable none mid [copied] ∧
      frozen.value = sortKeys payload ∧ mid.Made .frozen none heap' [frozen] ∧
      ProviderDocumentSnapshot.init sha256 heap provider objectId revision root =
        some (heap', snapshotOf sha256 provider objectId revision payload frozen.ref) := by
  obtain ⟨hheader, hbound, hlimits⟩ := withinLimits_iff.1 haccept
  obtain ⟨mid, copied, hcopy, hvalue, hmade⟩ := copied_of_withinLimits h hnodup hlimits
  obtain ⟨hholds, hdistinct, -⟩ := hmade.part
  have hread : mid.value .mutable copied.ref = some (sortKeys payload) :=
    hvalue ▸ hholds.value_eq_some hdistinct
  obtain ⟨heap', frozen, hfreeze, hfrozen, hmade'⟩ := freezeProjectedPayload_made hholds mid.length
    (hholds.length_le hdistinct) mid (Heap.Kept.refl mid)
  refine ⟨mid, copied, heap', frozen, hcopy, hvalue, hmade, hfrozen.trans hvalue, hmade', ?_⟩
  have hoverhead := canonicalDocumentOverhead_eq_some (φ := φ).2 ⟨hheader, hbound, rfl⟩
  rw [ProviderDocumentSnapshot.init]
  simp only [hoverhead, Option.bind_eq_bind, Option.bind_some, hcopy, hread,
    streamCanonicalJson_sortKeys hlimits.scalars]
  have hlength : ¬ (canonicalJson payload).length ≠ textSize payload := not_not.2 rfl
  rw [if_neg hlength, hfreeze]
  rfl

/-! ### A snapshot in a heap -/

variable {frozen : Ref φ}

/-- The recomputation agrees with a snapshot that was made. -/
theorem validateSnapshotDocument_snapshotOf
    (h : heap.Holds .frozen frozen (sortKeys payload) footprint) (hnodup : footprint.Nodup)
    (haccept : Acceptable provider objectId revision payload) :
    preflightFrozenProjectedPayload heap frozen
        (maxDocumentBytes - documentOverhead φ provider objectId revision : ℤ) =
      some (textSize payload, nodeCount payload) ∧
    validateSnapshotDocument sha256 heap
        (snapshotOf sha256 provider objectId revision payload frozen) =
      some (sha256 (canonicalJson payload),
        documentOverhead φ provider objectId revision + textSize payload, nodeCount payload) := by
  obtain ⟨hheader, hbound, hlimits⟩ := withinLimits_iff.1 haccept
  have hread := h.value_eq_some hnodup
  have hpreflight : preflightFrozenProjectedPayload heap frozen
      (maxDocumentBytes - documentOverhead φ provider objectId revision : ℤ) =
        some (textSize payload, nodeCount payload) := by
    rw [preflightFrozenProjectedPayload, hread, Option.bind_eq_bind, Option.bind_some]
    refine (projectedSize_eq_some (fun entries => List.reverse_perm _)
      fun items => List.reverse_perm _).2 ⟨hlimits.sortKeys, ?_⟩
    rw [textSize_sortKeys, nodeCount_sortKeys]
  have hoverhead := canonicalDocumentOverhead_eq_some (φ := φ).2 ⟨hheader, hbound, rfl⟩
  refine ⟨hpreflight, ?_⟩
  rw [validateSnapshotDocument]
  simp only [snapshotOf, hoverhead, Option.bind_eq_bind, Option.bind_some, hpreflight, hread,
    streamCanonicalJson_sortKeys hlimits.scalars]
  exact if_neg (by simp [textSize])

omit [DecidableEq δ] in
/-- The planner's document has a copy of the payload. -/
theorem asReferenceDocument_snapshotOf
    (h : heap.Holds .frozen frozen (sortKeys payload) footprint) (hnodup : footprint.Nodup)
    (haccept : Acceptable provider objectId revision payload) :
    ∃ heap' copied,
      (snapshotOf sha256 provider objectId revision payload frozen).asReferenceDocument
        heap = some (heap', ⟨provider, objectId, revision, copied⟩) ∧
      heap'.value .mutable copied = some (sortKeys payload) := by
  obtain ⟨-, -, hlimits⟩ := withinLimits_iff.1 haccept
  have hprovider : provider ≠ [] := by
    have hnames : providerManifest.all (fun name => !name.isEmpty) = true := by decide
    have hname := List.all_eq_true.1 hnames provider haccept.header.provider
    rintro rfl
    cases hname
  have hkey : objectId ≠ [] := by
    rintro rfl
    cases haccept.header.key.nonempty
  have hrevision : revision ≠ .text [] := by
    rintro rfl
    have hvalid := haccept.header.revision
    cases hvalid
  obtain ⟨heap', copied, hcopy, hvalue, hmade⟩ := copyProjectedValue_made h heap.length
    (h.length_le hnodup) heap (Heap.Kept.refl heap)
  have hcopied : copyProjectedPayload heap frozen = some (heap', copied.ref) := by
    obtain ⟨address, rfl⟩ := h.exists_address hlimits.sortKeys.container
    exact hcopy
  obtain ⟨hholds, hdistinct, -⟩ := hmade.part
  have hread := hholds.value_eq_some hdistinct
  rw [hvalue, PyValue.sortKeys_sortKeys] at hread
  refine ⟨heap', copied.ref, ?_, hread⟩
  rw [ProviderDocumentSnapshot.asReferenceDocument]
  simp only [snapshotOf, hcopied, Option.bind_eq_bind, Option.bind_some]
  exact if_neg (by simp [hprovider, hkey, hrevision])

end

/-- What making the snapshot did: the copy and the snapshot's payload are in new containers, and the
older containers are as before. -/
structure Copied (heap : Heap φ) (root : Ref φ) (heap' : Heap φ)
    (snapshot : ProviderDocumentSnapshot φ δ) (provider objectId : PyText) (revision : RawRevision)
    (payload : PyValue φ) : Prop where
  kept : heap.Kept heap'
  /-- The copy of the validator, and what it counted. -/
  copied : ∃ overhead mid canonical footprint,
    canonicalDocumentOverhead φ provider objectId revision = some overhead ∧
      validateAndCopyProjectedPayload heap root (maxDocumentBytes - overhead) =
          some (mid, canonical, (canonicalJson payload).length, snapshot.canonicalNodeCount) ∧
        mid.Holds .mutable canonical (sortKeys payload) footprint ∧ footprint.Nodup ∧
          ∀ address ∈ footprint, heap.length ≤ address
  frozen : ∃ footprint, heap'.Holds .frozen snapshot.payload (sortKeys payload) footprint ∧
    footprint.Nodup ∧ ∀ address ∈ footprint, heap.length ≤ address

/-- What a snapshot has in common with the planner, in a heap. -/
structure Agrees (heap : Heap φ) (snapshot : ProviderDocumentSnapshot φ δ)
    (provider objectId : PyText) (revision : RawRevision) (payload : PyValue φ) : Prop where
  /-- The payload, and the bytes that are hashed. -/
  streamed : ∃ value, heap.value .frozen snapshot.payload = some value ∧ Same value payload ∧
    streamCanonicalJson value snapshot.canonicalPayloadSize = some (canonicalJson payload)
  fingerprint : snapshot.fingerprint = sha256 (canonicalJson payload)
  payloadSize : snapshot.canonicalPayloadSize = (canonicalJson payload).length
  preflight : ∃ overhead, canonicalDocumentOverhead φ provider objectId revision = some overhead ∧
    preflightFrozenProjectedPayload heap snapshot.payload (maxDocumentBytes - overhead) =
      some ((canonicalJson payload).length, snapshot.canonicalNodeCount)
  documentSize : snapshot.canonicalDocumentSize =
    (canonicalJson (documentJson provider objectId revision payload)).length
  /-- The document of the planner, with the payload and its fingerprint. -/
  document : ∃ heap' document value, snapshot.asReferenceDocument heap = some (heap', document) ∧
    heap'.value .mutable document.payload = some value ∧ Same value payload ∧
      canonicalDocumentFingerprint sha256 heap' document = some snapshot.fingerprint
  validated : validateSnapshotDocument sha256 heap snapshot = some (snapshot.fingerprint,
    snapshot.canonicalDocumentSize, snapshot.canonicalNodeCount)

/-- A snapshot agrees in every heap that has its payload. -/
theorem agrees_snapshotOf {heap : Heap φ} {frozen : Ref φ} {footprint : List ℕ}
    (h : heap.Holds .frozen frozen (sortKeys payload) footprint) (hnodup : footprint.Nodup)
    (haccept : Acceptable provider objectId revision payload) :
    Agrees sha256 heap (snapshotOf sha256 provider objectId revision payload frozen) provider
      objectId revision payload := by
  obtain ⟨hheader, hbound, hlimits⟩ := withinLimits_iff.1 haccept
  obtain ⟨hpreflight, hvalidated⟩ := validateSnapshotDocument_snapshotOf sha256 h hnodup haccept
  obtain ⟨heap', copied, hdocument, hread⟩ :=
    asReferenceDocument_snapshotOf sha256 h hnodup haccept
  have hsame : Same (sortKeys payload) payload := PyValue.sortKeys_sortKeys payload
  have hvalid := validateValue_of_fits (sortKeys payload) 0
    (by rw [Nat.zero_add]; exact hlimits.sortKeys.depth) hlimits.sortKeys.scalars
  have hfingerprint : canonicalDocumentFingerprint sha256 heap'
      ⟨provider, objectId, revision, copied⟩ = some (sha256 (canonicalJson payload)) := by
    rw [canonicalDocumentFingerprint]
    simp only [hread, Option.bind_eq_bind, Option.bind_some, hlimits.sortKeys.container, hvalid,
      canonicalJson_sortKeys]
    rfl
  exact
    { streamed := ⟨_, h.value_eq_some hnodup, hsame, streamCanonicalJson_sortKeys hlimits.scalars⟩
      fingerprint := rfl
      payloadSize := rfl
      preflight := ⟨_, canonicalDocumentOverhead_eq_some.2 ⟨hheader, hbound, rfl⟩, hpreflight⟩
      documentSize := (textSize_document provider objectId revision payload).symm
      document := ⟨heap', _, _, hdocument, hread, hsame, hfingerprint⟩
      validated := hvalidated }

/-- A snapshot is made exactly of the documents within the limits. It leaves the caller's containers
as they are, and agrees with the planner in every later heap, whatever was done to them. -/
theorem snapshot_agrees {heap : Heap φ} {root : Ref φ} {payload : PyValue φ} {footprint : List ℕ}
    (h : heap.Holds .mutable root payload footprint) (hnodup : footprint.Nodup)
    (provider objectId : PyText) (revision : RawRevision) :
    ((∃ result, ProviderDocumentSnapshot.init sha256 heap provider objectId revision root =
        some result) ↔ Acceptable provider objectId revision payload) ∧
      ∀ heap' snapshot, ProviderDocumentSnapshot.init sha256 heap provider objectId revision root =
        some (heap', snapshot) →
          Copied heap root heap' snapshot provider objectId revision payload ∧
            ∀ later, Heap.SameFrom heap.length heap' later →
              Agrees sha256 later snapshot provider objectId revision payload := by
  constructor
  · constructor
    · rintro ⟨result, hresult⟩
      exact acceptable_of_init sha256 h hnodup hresult
    · intro haccept
      obtain ⟨-, -, heap', frozen, -, -, -, -, -, hinit⟩ :=
        init_of_acceptable sha256 h hnodup haccept
      exact ⟨_, hinit⟩
  · intro heap' snapshot hsnapshot
    have haccept := acceptable_of_init sha256 h hnodup hsnapshot
    obtain ⟨hheader, hbound, -⟩ := withinLimits_iff.1 haccept
    obtain ⟨mid, copied, after, frozen, hcopy, hvalue, hmade, hfrozen, hmade', hinit⟩ :=
      init_of_acceptable sha256 h hnodup haccept
    obtain ⟨rfl, rfl⟩ := Prod.mk.inj (Option.some.inj (hinit.symm.trans hsnapshot))
    obtain ⟨hcopied, hcopies, hnew⟩ := hmade.part
    obtain ⟨hholds, hdistinct, hfresh⟩ := hmade'.part
    rw [hvalue] at hcopied
    rw [hfrozen] at hholds
    have hfresh : ∀ address ∈ frozen.footprint, heap.length ≤ address := fun address hmem =>
      hmade.grows.trans (hfresh address hmem)
    refine ⟨?_, fun later hlater => agrees_snapshotOf sha256
      (hlater.holds hholds hfresh) hdistinct haccept⟩
    exact
      { kept := hmade.kept_of_none.trans hmade'.kept_of_none
        copied := ⟨_, mid, copied.ref, copied.footprint,
          canonicalDocumentOverhead_eq_some.2 ⟨hheader, hbound, rfl⟩, hcopy,
          hcopied, hcopies, hnew⟩
        frozen := ⟨_, hholds, hdistinct, hfresh⟩ }

end

/-! ## A payload that is changed later -/

namespace Sample

/-- The one float `0.0`. -/
scoped instance floatText : FloatText Unit where
  isFinite _ := true
  repr _ := ['0', '.', '0']
  ofText _ := ()

/-- A dict with a list and `None`. -/
def callerHeap : Heap Unit :=
  [.mapping .mutable (Dict.empty.assign
      [(PyText.ofString "b", .container 1), (PyText.ofString "a", .none)]),
    .sequence .mutable [.scalar ⟨.int 1, rfl⟩, .scalar ⟨.float (), rfl⟩]]

def callerPayload : PyValue Unit :=
  .obj [(PyText.ofString "b", .arr [.int 1, .float ()]), (PyText.ofString "a", .null)]

theorem callerHeap_holds : callerHeap.Holds .mutable (.container 0) callerPayload [0, 1] := by
  let one : Held Unit := ⟨.scalar ⟨.int 1, rfl⟩, .int 1, []⟩
  let zero : Held Unit := ⟨.scalar ⟨.float (), rfl⟩, .float (), []⟩
  have hlist : callerHeap.Holds .mutable (.container 1) (.arr [.int 1, .float ()]) [1] := by
    refine .sequence [one, zero] rfl fun part hmem => ?_
    rcases List.mem_cons.1 hmem with rfl | hmem
    · exact .scalar ⟨.int 1, rfl⟩
    · obtain rfl := List.mem_singleton.1 hmem
      exact .scalar ⟨.float (), rfl⟩
  refine .mapping [(PyText.ofString "b", ⟨.container 1, .arr [.int 1, .float ()], [1]⟩),
    (PyText.ofString "a", ⟨.none, .null, []⟩)] rfl (Dict.entries_assign (by decide))
    fun part hmem => ?_
  rcases List.mem_cons.1 hmem with rfl | hmem
  · exact hlist
  · obtain rfl := List.mem_singleton.1 hmem
    exact .scalar ⟨.null, rfl⟩

theorem caller_acceptable : Acceptable (PyText.ofString "lovelace") (PyText.ofString "dashboard")
    (.integer 3) callerPayload where
  header :=
    { provider := by decide
      key := ⟨by decide, by decide, 9, by decide⟩
      revision := by unfold RevisionValid; decide }
  container := rfl
  depth := by decide
  nodes := by decide
  scalars :=
    have hone : bitLength 1 ≤ maxIntegerBits := by decide
    ⟨⟨hone, rfl, trivial⟩, trivial, trivial⟩
  size := by decide +kernel

/-- The caller replaces an item of the list after the snapshot was made. -/
theorem changed_payload_agrees : ∃ heap' snapshot,
    ProviderDocumentSnapshot.init id callerHeap (PyText.ofString "lovelace")
        (PyText.ofString "dashboard") (.integer 3) (.container 0) = some (heap', snapshot) ∧
      Agrees id (heap'.attach 1 (.index 0) .none) snapshot (PyText.ofString "lovelace")
        (PyText.ofString "dashboard") (.integer 3) callerPayload := by
  obtain ⟨haccepted, hagrees⟩ := snapshot_agrees id callerHeap_holds (by decide)
    (PyText.ofString "lovelace") (PyText.ofString "dashboard") (.integer 3)
  obtain ⟨result, hinit⟩ := haccepted.2 caller_acceptable
  exact ⟨result.1, result.2, hinit, (hagrees result.1 result.2 hinit).2 _
    (Heap.SameFrom.attach (by decide) result.1 (.index 0) .none)⟩

end Sample

end TrueFamily.Providers
