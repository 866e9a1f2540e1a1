import TrueFamily.Transaction.AttemptCheck
import TrueFamily.Transaction.Causality
import TrueFamily.Transaction.Codec.Operations

/-!
# The codec of the attempts

The expected writes, the whole attempt with the digest of its write coverage, and the round trip:
the decoder of attempts accepts exactly the encodings of the valid attempts that JSON can
represent.
-/

namespace TrueFamily.Transaction

open Checked JsonValue

/-- The digest of the coverage that `bridge_expected_write_coverage_digest` hashes: `_digest_json`
over the canonical JSON of the expected writes. -/
class CoverageDigest where
  coverageDigest : List BridgeExpectedWrite → Digest

export CoverageDigest (coverageDigest)

section

variable {φ : Type} [FloatText φ]

/-! ## Expected writes -/

/-- `BridgeExpectedWrite` constructs the value. -/
def BridgeExpectedWrite.Accepted (value : BridgeExpectedWrite) : Prop := value.postInit = .ok ()

def expectedWriteDict (value : BridgeExpectedWrite) : List (String × JsonValue φ) :=
  [("provider", encodeName value.provider),
    ("object_key", encodeString value.objectKey),
    ("expected_revision", encodeRevision value.expectedRevision),
    ("pre_fingerprint", encodeDigest value.preFingerprint),
    ("post_fingerprint", encodeDigest value.postFingerprint)]

/-- `encode_bridge_expected_write`. -/
def encodeBridgeExpectedWrite : BridgeExpectedWrite → Except CodecError (JsonValue φ) :=
  encodeRecord "expected_write" BridgeExpectedWrite.postInit expectedWriteDict

def readBridgeExpectedWrite (raw : List (Text × JsonValue φ)) :
    Except CodecError BridgeExpectedWrite := do
  let provider ← decodeProvider (entry raw "provider") "expected_write.provider"
  let objectKey ← decodeString (entry raw "object_key") "expected_write.object_key"
  let expectedRevision ← decodeRevision (entry raw "expected_revision")
    "expected_write.expected_revision"
  let preFingerprint ← decodeDigest (entry raw "pre_fingerprint") "expected_write.pre_fingerprint"
  let postFingerprint ← decodeDigest (entry raw "post_fingerprint")
    "expected_write.post_fingerprint"
  return { provider, objectKey, expectedRevision, preFingerprint, postFingerprint }

/-- `decode_bridge_expected_write`. -/
def decodeBridgeExpectedWrite : JsonValue φ → Except CodecError BridgeExpectedWrite :=
  decodeRecord "expected_write"
    ["provider", "object_key", "expected_revision", "pre_fingerprint", "post_fingerprint"]
    readBridgeExpectedWrite BridgeExpectedWrite.postInit encodeBridgeExpectedWrite

omit [FloatText φ] in
theorem encodeBridgeExpectedWrite_eq_ok {a : BridgeExpectedWrite} {encoded : JsonValue φ} :
    encodeBridgeExpectedWrite a = .ok encoded ↔
      a.Accepted ∧ encoded = dictOf (expectedWriteDict a) :=
  encodeRecord_eq_ok fun _ => Iff.rfl

theorem decodeBridgeExpectedWrite_eq_ok {value : JsonValue φ} {a : BridgeExpectedWrite} :
    decodeBridgeExpectedWrite value = .ok a ↔
      value = dictOf (expectedWriteDict a) ∧ a.Accepted ∧ Representable value := by
  refine decodeRecord_eq_ok (fun _ => True) (fun _ => rfl) (by decide)
    (fun raw a => ?_) (fun _ => Iff.rfl)
    (fun _ _ => encodeBridgeExpectedWrite_eq_ok) (fun _ _ _ => trivial)
  cases a
  simp [readBridgeExpectedWrite, expectedWriteDict, bind_eq_ok, pure_eq_ok, -bind_pure_comp]

def expectedWriteCodec : RecordCodec φ BridgeExpectedWrite where
  encode := encodeBridgeExpectedWrite
  decode := decodeBridgeExpectedWrite
  data a := dictOf (expectedWriteDict a)

theorem expectedWriteCodec_exact :
    (expectedWriteCodec (φ := φ)).Exact BridgeExpectedWrite.Accepted :=
  ⟨fun _ _ => encodeBridgeExpectedWrite_eq_ok, fun _ _ => decodeBridgeExpectedWrite_eq_ok⟩

/-! ## Write coverage -/

variable [CoverageDigest]

/-- Every revision of the coverage has a text. -/
def CoverageRepresentable (expectedWrites : List BridgeExpectedWrite) : Prop :=
  ∀ x ∈ expectedWrites, ∀ n, x.expectedRevision = .integer n →
    (natText n).length ≤ maxStrDigits

instance (revision : Revision) :
    Decidable (∀ n, revision = .integer n → (natText n).length ≤ maxStrDigits) :=
  match revision with
  | .integer n => decidable_of_iff ((natText n).length ≤ maxStrDigits)
      ⟨fun h _ heq => Revision.integer.inj heq ▸ h, fun h => h n rfl⟩
  | .text _ _ => isTrue fun _ heq => nomatch heq

instance (expectedWrites : List BridgeExpectedWrite) :
    Decidable (CoverageRepresentable expectedWrites) := by
  unfold CoverageRepresentable; infer_instance

/-- `bridge_expected_write_coverage_digest`. -/
def bridgeExpectedWriteCoverageDigest (expectedWrites : List BridgeExpectedWrite) :
    Except PyError Digest := do
  check (expectedWrites ≠ []) (.valueError "Expected-write coverage requires a non-empty tuple.")
  forAll BridgeExpectedWrite.postInit expectedWrites
  let keys := expectedWrites.map (·.key)
  check (keys = Sorting.sortedBy id keys ∧ keys.Nodup)
    (.valueError "Expected-write coverage must be unique and sorted.")
  check (CoverageRepresentable expectedWrites)
    (.valueError "Bridge metadata cannot be represented canonically.")
  return coverageDigest expectedWrites

/-- The coverage digest of an attempt, where its `ValueError` is not caught. -/
def attemptCoverageDigest (value : BridgeOperationAttempt) : Except CodecError Digest :=
  match bridgeExpectedWriteCoverageDigest value.expectedWrites with
  | .ok digest => .ok digest
  | .error error => .error (.raised error)

/-! ## Attempts -/

variable [DigestJson]

/-- The fields of an attempt whose records are written as the arguments. -/
def attemptDictWith (value : BridgeOperationAttempt) (coverage : Digest)
    (expectedWrites acquisitions operations releases : JsonValue φ) :
    List (String × JsonValue φ) :=
  [("plan_id", encodePlanId value.planId),
    ("plan_digest", encodeDigest value.planDigest),
    ("manifest_digest", encodeDigest value.manifestDigest),
    ("attempt", encodeInteger value.attempt),
    ("state", encodeName value.state),
    ("max_observation_age_seconds", encodeInteger value.maxObservationAgeSeconds),
    ("expected_write_coverage_digest", encodeDigest coverage),
    ("expected_writes", expectedWrites),
    ("acquisitions", acquisitions),
    ("operations", operations),
    ("releases", releases),
    ("release_phase_sequence", encodeOption encodeInteger value.releasePhaseSequence),
    ("reason_code", encodeOption encodeName value.reasonCode),
    ("terminal_at", encodeOption encodeTimestamp value.terminalAt)]

/-- `encode_bridge_operation_attempt`. -/
def encodeBridgeOperationAttempt (value : BridgeOperationAttempt) :
    Except CodecError (JsonValue φ) := do
  construct "attempt" value.postInit
  let coverage ← attemptCoverageDigest value
  let expectedWrites ← expectedWriteCodec.encodeItems value.expectedWrites
  let acquisitions ← acquisitionRecordCodec.encodeItems value.acquisitions
  let operations ← objectRecordCodec.encodeItems value.operations
  let releases ← releaseRecordCodec.encodeItems value.releases
  return dictOf (attemptDictWith value coverage expectedWrites acquisitions operations releases)

/-- The fields of an attempt, and the coverage digest that it claims. -/
def readBridgeOperationAttempt (raw : List (Text × JsonValue φ)) :
    Except CodecError (BridgeOperationAttempt × Digest) := do
  let terminalAt ← decodeOption (fun value => decodeTimestamp value "attempt.terminal_at")
    (entry raw "terminal_at")
  let coverage ← decodeDigest (entry raw "expected_write_coverage_digest")
    "attempt.expected_write_coverage_digest"
  let releasePhaseSequence ← decodeOption
    (fun value => decodeNonnegativeInteger value "attempt.release_phase_sequence")
    (entry raw "release_phase_sequence")
  let planText ← decodeString (entry raw "plan_id") "attempt.plan_id"
  let planDigest ← decodeDigest (entry raw "plan_digest") "attempt.plan_digest"
  let manifestDigest ← decodeDigest (entry raw "manifest_digest") "attempt.manifest_digest"
  let attempt ← decodePositiveInteger (entry raw "attempt") "attempt.attempt"
  let state ← decodeEnum BridgeAttemptState (entry raw "state") "attempt.state"
  let maxObservationAgeSeconds ← decodePositiveInteger (entry raw "max_observation_age_seconds")
    "attempt.max_observation_age_seconds"
  let expectedWrites ← expectedWriteCodec.decodeItems (entry raw "expected_writes")
    "attempt.expected_writes"
  let acquisitions ← acquisitionRecordCodec.decodeItems (entry raw "acquisitions")
    "attempt.acquisitions"
  let operations ← objectRecordCodec.decodeItems (entry raw "operations") "attempt.operations"
  let releases ← releaseRecordCodec.decodeItems (entry raw "releases") "attempt.releases"
  let reasonCode ← decodeOptionalEnum BridgeBlockReason (entry raw "reason_code")
    "attempt.reason_code"
  let planId ← constructPlanId "attempt" planText
  return ({ planId, planDigest, manifestDigest, attempt, state, maxObservationAgeSeconds,
            expectedWrites, acquisitions, operations, releases, releasePhaseSequence, reasonCode,
            terminalAt }, coverage)

/-- The keys of an attempt. -/
def attemptKeys : List String :=
  ["plan_id", "plan_digest", "manifest_digest", "attempt", "state",
    "max_observation_age_seconds", "expected_write_coverage_digest", "expected_writes",
    "acquisitions", "operations", "releases", "release_phase_sequence", "reason_code",
    "terminal_at"]

/-- `decode_bridge_operation_attempt`. -/
def decodeBridgeOperationAttempt (value : JsonValue φ) :
    Except CodecError BridgeOperationAttempt := do
  let raw ← exactDict value "attempt" attemptKeys
  let (result, coverage) ← readBridgeOperationAttempt raw
  construct "attempt" result.postInit
  let expected ← attemptCoverageDigest result
  check (expected = coverage) (.codec "attempt" "expected-write coverage digest does not match")
  let encoded ← encodeBridgeOperationAttempt result
  roundtrip value encoded "attempt"
  return result

/-! ## The round trip -/

/-- What an attempt is written as. -/
def attemptDict (value : BridgeOperationAttempt) : List (String × JsonValue φ) :=
  attemptDictWith value (coverageDigest value.expectedWrites)
    (.arr (value.expectedWrites.map expectedWriteCodec.data))
    (.arr (value.acquisitions.map acquisitionRecordCodec.data))
    (.arr (value.operations.map objectRecordCodec.data))
    (.arr (value.releases.map releaseRecordCodec.data))

theorem attemptCoverageDigest_eq_ok {attempt : BridgeOperationAttempt} (h : attempt.WellFormed)
    {digest : Digest} :
    attemptCoverageDigest attempt = .ok digest ↔
      CoverageRepresentable attempt.expectedWrites
        ∧ digest = coverageDigest attempt.expectedWrites := by
  obtain ⟨hkeys, hnodup⟩ :=
    (keys_sorted_iff attempt.expectedWrites).2 h.header.keys_sorted
  have hcoverage : ∀ digest, bridgeExpectedWriteCoverageDigest attempt.expectedWrites = .ok digest
      ↔ CoverageRepresentable attempt.expectedWrites
        ∧ digest = coverageDigest attempt.expectedWrites := by
    intro digest
    simp only [bridgeExpectedWriteCoverageDigest, bind_unit_eq_ok, check_eq_ok, forAll_eq_ok,
      BridgeExpectedWrite.postInit, pure_eq_ok]
    constructor
    · rintro ⟨_, _, _, hrepresentable, rfl⟩
      exact ⟨hrepresentable, rfl⟩
    · rintro ⟨hrepresentable, rfl⟩
      exact ⟨h.header.expected_ne_nil, h.header.pre_ne_post, ⟨hkeys, hnodup⟩, hrepresentable, rfl⟩
  rw [← hcoverage]
  unfold attemptCoverageDigest
  cases bridgeExpectedWriteCoverageDigest attempt.expectedWrites with
  | ok written => simp only [Except.ok.injEq]
  | error error => simp only [reduceCtorEq]

omit [CoverageDigest] [DigestJson] in
/-- The revisions of an expected write have texts if the write has one. -/
theorem coverageRepresentable_of_data {expectedWrites : List BridgeExpectedWrite}
    (h : ∀ x ∈ expectedWrites, Representable ((expectedWriteCodec (φ := φ)).data x)) :
    CoverageRepresentable expectedWrites := by
  intro x hx n hn
  have hrevision : Representable (encodeRevision (φ := φ) x.expectedRevision) :=
    (List.forall_mem_cons.1 (List.forall_mem_cons.1 (List.forall_mem_cons.1
      (representable_dictOf.1 (h x hx))).2).2).1
  rw [hn] at hrevision
  have hvalue : Representable (JsonValue.int (φ := φ) n) :=
    (List.forall_mem_cons.1 (List.forall_mem_cons.1 (representable_dictOf.1 hrevision)).2).1
  exact representable_int.1 hvalue

/-- The records of a valid attempt are valid. -/
theorem encodeBridgeOperationAttempt_eq_ok {a : BridgeOperationAttempt} {encoded : JsonValue φ} :
    encodeBridgeOperationAttempt a = .ok encoded ↔
      a.WellFormed ∧ CoverageRepresentable a.expectedWrites
        ∧ encoded = dictOf (attemptDict a) := by
  simp only [encodeBridgeOperationAttempt, bind_eq_ok, exists_unit, construct_eq_ok, pure_eq_ok,
    BridgeOperationAttempt.postInit_eq_ok, expectedWriteCodec_exact.encodeItems_eq_ok,
    acquisitionRecordCodec_exact.encodeItems_eq_ok, objectRecordCodec_exact.encodeItems_eq_ok,
    releaseRecordCodec_exact.encodeItems_eq_ok]
  constructor
  · rintro ⟨ha, digest, hdigest, _, ⟨_, rfl⟩, _, ⟨_, rfl⟩, _, ⟨_, rfl⟩, _, ⟨_, rfl⟩, rfl⟩
    obtain ⟨hcoverage, rfl⟩ := (attemptCoverageDigest_eq_ok ha).1 hdigest
    exact ⟨ha, hcoverage, rfl⟩
  · rintro ⟨ha, hcoverage, rfl⟩
    exact ⟨ha, _, (attemptCoverageDigest_eq_ok ha).2 ⟨hcoverage, rfl⟩, _,
      ⟨fun x hx => check_eq_ok.2 (ha.header.pre_ne_post x hx), rfl⟩, _,
      ⟨ha.acquisitions.record_wf, rfl⟩, _, ⟨ha.operations.record_wf, rfl⟩, _,
      ⟨ha.releases.record_wf, rfl⟩, rfl⟩

/-- The records of an attempt are accepted by their constructors and have texts. -/
structure RecordsReadable (φ : Type) [FloatText φ] (a : BridgeOperationAttempt) : Prop where
  expectedWrites : ∀ x ∈ a.expectedWrites, x.Accepted
    ∧ Representable ((expectedWriteCodec (φ := φ)).data x)
  acquisitions : ∀ x ∈ a.acquisitions, x.WellFormed
    ∧ Representable ((acquisitionRecordCodec (φ := φ)).data x)
  operations : ∀ x ∈ a.operations, x.WellFormed
    ∧ Representable ((objectRecordCodec (φ := φ)).data x)
  releases : ∀ x ∈ a.releases, x.WellFormed
    ∧ Representable ((releaseRecordCodec (φ := φ)).data x)

theorem BridgeOperationAttempt.WellFormed.recordsReadable {a : BridgeOperationAttempt}
    (ha : a.WellFormed) (h : Representable (dictOf (attemptDict (φ := φ) a))) :
    RecordsReadable φ a := by
  have hfield := representable_dictOf.1 h
  simp only [attemptDict, attemptDictWith, List.forall_mem_cons, representable_arr,
    List.forall_mem_map] at hfield
  obtain ⟨_, _, _, _, _, _, _, hwrites, hacquisitions, hoperations, hreleases, _⟩ := hfield
  exact ⟨fun x hx => ⟨check_eq_ok.2 (ha.header.pre_ne_post x hx), hwrites x hx⟩,
    fun x hx => ⟨ha.acquisitions.record_wf x hx, hacquisitions x hx⟩,
    fun x hx => ⟨ha.operations.record_wf x hx, hoperations x hx⟩,
    fun x hx => ⟨ha.releases.record_wf x hx, hreleases x hx⟩⟩

omit [FloatText φ] [CoverageDigest] [DigestJson] in
theorem decodeOptionalInteger_eq_ok {value : JsonValue φ} {path : String} {a : Option ℕ} :
    decodeOption (fun value => decodeNonnegativeInteger value path) value = .ok a ↔
      value = encodeOption encodeInteger a := by
  have hdecode : ∀ (value : JsonValue φ) (a : ℕ),
      decodeNonnegativeInteger value path = .ok a ↔ value = encodeInteger a ∧ True := by
    simp
  rw [decodeOption_eq_ok (fun _ => True) hdecode (by simp [encodeInteger])]
  simp

omit [CoverageDigest] in
/-- Reading the fields of an attempt. -/
theorem readBridgeOperationAttempt_eq_ok {raw : List (Text × JsonValue φ)}
    {a : BridgeOperationAttempt} {coverage : Digest} :
    readBridgeOperationAttempt raw = .ok (a, coverage) ↔
      (∀ field ∈ attemptDictWith a coverage (.arr (a.expectedWrites.map expectedWriteCodec.data))
          (.arr (a.acquisitions.map acquisitionRecordCodec.data))
          (.arr (a.operations.map objectRecordCodec.data))
          (.arr (a.releases.map releaseRecordCodec.data)), entry raw field.1 = field.2)
        ∧ (1 ≤ a.attempt ∧ 1 ≤ a.maxObservationAgeSeconds) ∧ RecordsReadable φ a := by
  have hreadable : RecordsReadable φ a ↔
      (∀ x ∈ a.expectedWrites, x.Accepted ∧ Representable ((expectedWriteCodec (φ := φ)).data x))
        ∧ (∀ x ∈ a.acquisitions, x.WellFormed
          ∧ Representable ((acquisitionRecordCodec (φ := φ)).data x))
        ∧ (∀ x ∈ a.operations, x.WellFormed
          ∧ Representable ((objectRecordCodec (φ := φ)).data x))
        ∧ ∀ x ∈ a.releases, x.WellFormed
          ∧ Representable ((releaseRecordCodec (φ := φ)).data x) :=
    ⟨fun ⟨h1, h2, h3, h4⟩ => ⟨h1, h2, h3, h4⟩, fun ⟨h1, h2, h3, h4⟩ => ⟨h1, h2, h3, h4⟩⟩
  rw [hreadable]
  cases a
  simp [readBridgeOperationAttempt, attemptDictWith, bind_eq_ok, pure_eq_ok, encodePlanId,
    decodeOptionalTimestamp_eq_ok, decodeOptionalInteger_eq_ok,
    expectedWriteCodec_exact.decodeItems_eq_ok, acquisitionRecordCodec_exact.decodeItems_eq_ok,
    objectRecordCodec_exact.decodeItems_eq_ok, releaseRecordCodec_exact.decodeItems_eq_ok,
    -bind_pure_comp]
  constructor
  · rintro ⟨h1, h2, h3, h4, h5, h6, ⟨h7, h7'⟩, h8, ⟨h9, h9'⟩, ⟨h10, h10'⟩, ⟨h11, h11'⟩,
      ⟨h12, h12'⟩, ⟨h13, h13'⟩, h14⟩
    exact ⟨⟨h4, h5, h6, h7, h8, h9, h2, h10, h11, h12, h13, h3, h14, h1⟩, ⟨h7', h9'⟩,
      h10', h11', h12', h13'⟩
  · rintro ⟨⟨h4, h5, h6, h7, h8, h9, h2, h10, h11, h12, h13, h3, h14, h1⟩, ⟨h7', h9'⟩,
      h10', h11', h12', h13'⟩
    exact ⟨h1, h2, h3, h4, h5, h6, ⟨h7, h7'⟩, h8, ⟨h9, h9'⟩, ⟨h10, h10'⟩, ⟨h11, h11'⟩,
      ⟨h12, h12'⟩, ⟨h13, h13'⟩, h14⟩

/-- The decoder of attempts accepts exactly the encodings of the valid attempts that JSON can
represent. -/
theorem decodeBridgeOperationAttempt_eq_ok {value : JsonValue φ} {a : BridgeOperationAttempt} :
    decodeBridgeOperationAttempt value = .ok a ↔
      value = dictOf (attemptDict a) ∧ a.WellFormed ∧ Representable value := by
  have hobj : ∀ (a : BridgeOperationAttempt) (raw : List (Text × JsonValue φ)),
      JsonValue.obj raw = dictOf (attemptDict a) ↔
        raw.map Prod.fst = Sorting.sortedBy id (attemptKeys.map String.toList)
          ∧ ∀ field ∈ attemptDict a, entry raw field.1 = field.2 := by
    intro a raw
    have hkeys : (attemptDict (φ := φ) a).map Prod.fst = attemptKeys := rfl
    rw [obj_eq_dictOf_iff (hkeys ▸ (by decide : attemptKeys.Nodup)), hkeys]
  simp only [decodeBridgeOperationAttempt, bind_eq_ok, exists_unit, exactDict_eq_ok, check_eq_ok,
    construct_eq_ok, BridgeOperationAttempt.postInit_eq_ok, encodeBridgeOperationAttempt_eq_ok,
    pure_eq_ok, Prod.exists]
  constructor
  · rintro ⟨raw, ⟨hobject, hraw⟩, b, coverage, hread, hb, digest, hdigest, hcheck, encoded,
      ⟨_, _, hencoded⟩, hround, hresult⟩
    obtain ⟨hitems, _⟩ := readBridgeOperationAttempt_eq_ok.1 hread
    obtain ⟨_, hcoverage⟩ := (attemptCoverageDigest_eq_ok hb).1 hdigest
    rw [← hcheck, hcoverage] at hitems
    have hvalue : value = dictOf (attemptDict b) := hobject.trans ((hobj b raw).2 ⟨hraw, hitems⟩)
    rw [hencoded, ← hvalue] at hround
    rw [hresult]
    exact ⟨hvalue, hb, roundtrip_self.1 hround⟩
  · rintro ⟨rfl, ha, hrepresentable⟩
    obtain ⟨hraw, hitems⟩ := (hobj a _).1 rfl
    have hreadable := BridgeOperationAttempt.WellFormed.recordsReadable ha hrepresentable
    have hcoverage := coverageRepresentable_of_data fun x hx => (hreadable.expectedWrites x hx).2
    exact ⟨_, ⟨rfl, hraw⟩, a, coverageDigest a.expectedWrites,
      readBridgeOperationAttempt_eq_ok.2
        ⟨hitems, ⟨ha.header.attempt_pos, ha.header.freshness_pos⟩, hreadable⟩, ha, _,
      (attemptCoverageDigest_eq_ok ha).2 ⟨hcoverage, rfl⟩, rfl, _, ⟨ha, hcoverage, rfl⟩,
      roundtrip_self.2 hrepresentable, rfl⟩

/-- The encoding of a valid attempt reads back as the attempt exactly when every integer in it has
a text, and whatever the decoder accepts is the encoding of its result. -/
theorem attempt_codec_roundtrip (attempt : BridgeOperationAttempt) :
    (attempt.postInit = .ok () →
      ((∃ raw : JsonValue φ, encodeBridgeOperationAttempt attempt = .ok raw
          ∧ decodeBridgeOperationAttempt raw = .ok attempt) ↔
        Representable (dictOf (attemptDict (φ := φ) attempt))))
      ∧ ∀ raw : JsonValue φ, decodeBridgeOperationAttempt raw = .ok attempt →
        encodeBridgeOperationAttempt attempt = .ok raw := by
  have hcoverage : attempt.WellFormed → Representable (dictOf (attemptDict (φ := φ) attempt)) →
      CoverageRepresentable attempt.expectedWrites := fun hvalid hrepresentable =>
    coverageRepresentable_of_data fun x hx =>
      ((hvalid.recordsReadable hrepresentable).expectedWrites x hx).2
  constructor
  · intro hvalid
    rw [BridgeOperationAttempt.postInit_eq_ok] at hvalid
    constructor
    · rintro ⟨raw, _, hdecode⟩
      obtain ⟨rfl, _, hrepresentable⟩ := decodeBridgeOperationAttempt_eq_ok.1 hdecode
      exact hrepresentable
    · intro hrepresentable
      exact ⟨_, encodeBridgeOperationAttempt_eq_ok.2
          ⟨hvalid, hcoverage hvalid hrepresentable, rfl⟩,
        decodeBridgeOperationAttempt_eq_ok.2 ⟨rfl, hvalid, hrepresentable⟩⟩
  · intro raw hdecode
    obtain ⟨rfl, hvalid, hrepresentable⟩ := decodeBridgeOperationAttempt_eq_ok.1 hdecode
    exact encodeBridgeOperationAttempt_eq_ok.2 ⟨hvalid, hcoverage hvalid hrepresentable, rfl⟩

end

namespace Sample

/-- No sample writes a float. -/
scoped instance floatText : FloatText Unit where
  isFinite _ := true
  repr _ := "0.5".toList
  ofText _ := ()

/-- SHA-256 over the canonical JSON of the coverage of the sample attempts. -/
scoped instance sampleCoverageDigest : CoverageDigest where
  coverageDigest expectedWrites :=
    if expectedWrites = [expectedWrite] then
      ⟨0x1960209592e38790850ad5168e585590665b50ad2ac54eeb0cf22020f99edc26⟩
    else ⟨0⟩

/-- The next attempt of a plan that was attempted very often. -/
def lateAttempt : BridgeOperationAttempt where
  planId := firstPlanId
  planDigest := firstPlan
  manifestDigest := planDigest 0xea
  attempt := 10 ^ maxStrDigits
  state := .open
  maxObservationAgeSeconds := 60
  expectedWrites := [expectedWrite]

end Sample

open Sample in
/-- The finished attempt is read back from its encoding. -/
theorem committed_codec_roundtrip :
    ∃ raw : JsonValue Unit, encodeBridgeOperationAttempt committed = .ok raw
      ∧ decodeBridgeOperationAttempt raw = .ok committed :=
  ((attempt_codec_roundtrip committed).1 validateAttempt_committed).2 (by decide +kernel)

open Sample in
/-- An attempt number of 4301 digits is valid, and has no canonical text. -/
theorem attempt_number_without_text :
    ¬ ∀ attempt : BridgeOperationAttempt, attempt.postInit = .ok () →
      ∃ raw : JsonValue Unit, encodeBridgeOperationAttempt attempt = .ok raw
        ∧ decodeBridgeOperationAttempt raw = .ok attempt := by
  intro hall
  obtain ⟨raw, _, hdecode⟩ := hall lateAttempt (by decide +kernel)
  obtain ⟨rfl, _, hrepresentable⟩ := decodeBridgeOperationAttempt_eq_ok.1 hdecode
  have hattempt : Representable (JsonValue.int (φ := Unit) lateAttempt.attempt) :=
    (List.forall_mem_cons.1 (List.forall_mem_cons.1 (List.forall_mem_cons.1
      (List.forall_mem_cons.1 (representable_dictOf.1 hrepresentable)).2).2).2).1
  have hlength := representable_int.1 hattempt
  have hlong : maxStrDigits < (natText lateAttempt.attempt).length := lt_natText_length le_rfl
  exact absurd hlength (not_le.2 hlong)

end TrueFamily.Transaction
