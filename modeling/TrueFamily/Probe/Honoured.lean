import TrueFamily.Probe.Permitted

/-!
# A permit is honoured

A request that the preflight authorizes is parsed by the contract with the same fields, and the
contract arms a record for it until the permit expires, as long as the clock leaves room for a proof
window (`permit_honoured`). At the end of the range of the clock it does not (`sample_unhonoured`).
-/

namespace TrueFamily.Probe

open Checked JsonValue TrueFamily.Preflight

/-! ## The message -/

/-- The fields of an arm request, as they stand in the message. -/
def ProbeRequest.armEntries (request : ProbeRequest) : List (String × Value) :=
  [("action", .str (chars "arm")), ("profile_id", .str request.profileId),
    ("profile_version", .int request.profileVersion), ("boot_id", .str request.bootId),
    ("request_id", .str request.requestId), ("operation_id", .str request.operationId),
    ("nonce", .str request.nonce), ("phase", .str (chars request.phase.value)),
    ("generation", .int request.generation),
    ("request_deadline_ms", .int request.requestDeadlineMs),
    ("intended_target", optional .int request.intendedTarget),
    ("physical_targets", optional (fun targets => .arr [.int targets.1, .int targets.2])
      request.physicalTargets),
    ("operation_deadline_ms", optional .int request.operationDeadlineMs)]

/-- The request that the contract reads where the preflight has read this one. -/
def probeRequestOf (request : ArmRequest) (identity : NormalizedCandidateIdentity) :
    ProbeRequest :=
  { action := .arm
    profileId := brtProfile.profileId
    profileVersion := brtProfile.profileVersion
    bootId := request.bootId
    requestId := request.requestId
    operationId := request.operationId
    nonce := request.nonce
    phase := .quiescent
    generation := 0
    requestDeadlineMs := request.requestDeadlineMs
    candidate := some identity
    intendedTarget := some request.intendedTarget
    physicalTargets := some (request.firstTarget, request.secondTarget)
    operationDeadlineMs := some request.operationDeadlineMs
    resultId := none }

theorem validateTarget_eq_ok {target : ℤ} (label : String) (h : 0 ≤ target ∧ target ≤ 35) :
    brtProfile.validateTarget target label = .ok () := by
  simp only [PhysicalProbeProfile.validateTarget, bind_unit_eq_ok, check_eq_ok]
  have hminimum : brtProfile.minimumTarget = 0 := rfl
  have hmaximum : brtProfile.maximumTarget = 35 := rfl
  have hstep : brtProfile.targetStep = 1 := rfl
  rw [hminimum, hmaximum, hstep]
  omega

theorem validatePhysicalTargets_eq_ok {targets : ℤ × ℤ} {intendedTarget : ℤ}
    (hfirst : 0 ≤ targets.1 ∧ targets.1 ≤ 35) (hsecond : 0 ≤ targets.2 ∧ targets.2 ≤ 35)
    (h : targets.1 ≠ targets.2 ∧ targets.2 = intendedTarget) :
    validatePhysicalTargets targets intendedTarget brtProfile = .ok () := by
  simp only [validatePhysicalTargets, bind_unit_eq_ok, check_eq_ok]
  exact ⟨validateTarget_eq_ok _ hfirst, validateTarget_eq_ok _ hsecond, h⟩

variable {data : List (Text × Value)} {request : ArmRequest}
  {identity : NormalizedCandidateIdentity} {nowMs : ℤ}

theorem RequestRead.secondTarget (h : RequestRead data request identity nowMs) :
    0 ≤ request.secondTarget ∧ request.secondTarget ≤ 35 := by
  rw [h.targets.2]
  exact h.intendedTarget.2

theorem profileOf_brtProfile :
    profileOf brtProfile.profileId brtProfile.profileVersion = .ok brtProfile := by
  simp only [profileOf, checkPattern, checkPositive, bind_unit_eq_ok, check_eq_ok, pure_eq_ok]
  exact ⟨by decide, by decide, ⟨trivial, trivial⟩, trivial⟩

theorem RequestRead.readCommon (h : RequestRead data request identity nowMs) :
    readCommon data = .ok ⟨brtProfile, brtProfile.profileId, brtProfile.profileVersion,
      request.bootId, request.requestId, request.operationId, request.nonce, 0,
      request.requestDeadlineMs⟩ := by
  have hfixed := h.fixed
  simp only [armRequestValues, List.forall_mem_cons] at hfixed
  obtain ⟨-, -, -, -, hprofileId, hprofileVersion, -, hgeneration, -⟩ := hfixed
  simp only [Probe.readCommon, bind_eq_ok, exists_unit, check_eq_ok, pure_eq_ok, checkNonnegative,
    checkSafeMilliseconds]
  refine ⟨brtProfile.profileId, ?_, brtProfile.profileVersion, ?_, brtProfile, ?_,
    request.bootId, ?_, request.requestId, ?_, request.operationId, ?_, request.nonce, ?_, 0, ?_,
    by decide, by decide, request.requestDeadlineMs, ?_, h.requestDeadline.2.1, rfl⟩
  · rw [hprofileId]
    exact readPattern_eq_ok _ (by decide)
  · rw [hprofileVersion]
    rfl
  · exact profileOf_brtProfile
  · rw [h.bootId.1, readPattern_eq_ok _ h.bootId.2]
  · rw [h.requestId.1, readPattern_eq_ok _ h.requestId.2]
  · rw [h.operationId.1, readPattern_eq_ok _ h.operationId.2]
  · rw [h.nonce.1, readPattern_eq_ok _ h.nonce.2]
  · rw [hgeneration]
    rfl
  · rw [h.requestDeadline.1]
    rfl

/-- The contract reads the request. -/
theorem RequestRead.fromDict (h : RequestRead data request identity nowMs) :
    ProbeRequest.fromDict (.obj data) = .ok (probeRequestOf request identity) := by
  obtain ⟨candidateData, hcandidate, hidentity⟩ := h.candidate
  have hfixed := h.fixed
  simp only [armRequestValues, List.forall_mem_cons] at hfixed
  obtain ⟨haction, hprotocolId, hprotocolVersion, hbuildId, -, -, hphase, -, -⟩ := hfixed
  simp only [ProbeRequest.fromDict, bind_eq_ok, exists_unit, check_eq_ok]
  refine ⟨.arm, ?_, data, requireExactFields_eq_ok _ h.keys, ⟨isStr_eq.2 hprotocolId,
    isInt_eq.2 hprotocolVersion⟩, isStr_eq.2 hbuildId,
    some (.int request.firstTarget, .int request.secondTarget), ?_, .quiescent, ?_, some identity,
    ?_, _, h.readCommon, ?_⟩
  · rw [haction]
    decide
  · rw [h.physicalTargets]
    rfl
  · rw [hphase]
    decide
  · rw [hcandidate]
    simp only [readCandidate, bind_eq_ok, pure_eq_ok]
    exact ⟨identity, hidentity.fromProjection, rfl⟩
  · simp only [readArm, bind_eq_ok, exists_unit, check_eq_ok, pure_eq_ok, checkSafeMilliseconds]
    refine ⟨trivial, hidentity.requireProfile, ?_, request.intendedTarget, ?_,
      validateTarget_eq_ok _ h.intendedTarget.2, request.firstTarget, rfl, request.secondTarget,
      rfl, validatePhysicalTargets_eq_ok h.firstTarget h.secondTarget h.targets,
      request.operationDeadlineMs, ?_, h.operationDeadline.2.1, rfl⟩
    · rw [h.intendedTarget.1]
      simp
    · rw [h.intendedTarget.1]
      rfl
    · rw [h.operationDeadline.1]
      rfl

/-- The message has the fields of the request. -/
theorem RequestRead.sameFields (h : RequestRead data request identity nowMs) :
    (∀ entry ∈ (probeRequestOf request identity).armEntries,
        valueAt (.obj data) [entry.1] = entry.2)
      ∧ ∀ entry ∈ identity.entries, valueAt (.obj data) ["candidate", entry.1] = entry.2 := by
  have hfixed := h.fixed
  simp only [armRequestValues, List.forall_mem_cons] at hfixed
  obtain ⟨haction, -, -, -, hprofileId, hprofileVersion, hphase, hgeneration, -⟩ := hfixed
  constructor
  · simp only [ProbeRequest.armEntries, probeRequestOf, List.forall_mem_cons, valueAt]
    exact ⟨haction, hprofileId, hprofileVersion, h.bootId.1, h.requestId.1, h.operationId.1,
      h.nonce.1, hphase, hgeneration, h.requestDeadline.1, h.intendedTarget.1, h.physicalTargets,
      h.operationDeadline.1, fun _ hmem => by cases hmem⟩
  · obtain ⟨candidateData, hcandidate, hidentity⟩ := h.candidate
    intro entry hmem
    rw [valueAt, hcandidate, valueAt, valueAt]
    exact hidentity.fields entry hmem

theorem parseCanonicalMapping_eq_ok {text : Text} {value : Value}
    (h : parseCanonicalMapping text maxSnapshotJsonBytes = .ok value) :
    text ≠ [] ∧ loadsDistinct text = some value ∧ canonicalText value = text
      ∧ allNodes distinctKeys value = true := by
  simp only [parseCanonicalMapping, canonicalJson, bind_eq_ok, exists_unit, check_eq_ok,
    pure_eq_ok] at h
  obtain ⟨-, ⟨hne, -⟩, -, loaded, hloaded, -, canonical, ⟨-, -, rfl⟩, hcanonical, rfl⟩ := h
  cases hloads : loadsDistinct text with
  | none =>
    rw [hloads] at hloaded
    cases hloaded
  | some found =>
    rw [hloads] at hloaded
    cases hloaded
    exact ⟨hne, rfl, hcanonical, (Option.filter_eq_some_iff.1 hloads).2⟩

/-- The message is within the limits of the contract, which parses the same value. -/
theorem RequestRead.parse (h : RequestRead data request identity nowMs) {text : Text}
    (hparse : parseCanonicalMapping text maxSnapshotJsonBytes = .ok (.obj data)) :
    (Unicode.utf8 text).length ≤ maxMessageJsonBytes
      ∧ parseCanonicalJson text maxMessageJsonBytes = .ok (.obj data) := by
  obtain ⟨hne, hloads, htext, -⟩ := parseCanonicalMapping_eq_ok hparse
  have hbounded := h.bounded
  have hsize : dictSize requestCost (armFields.map chars) ≤ maxMessageJsonBytes := by decide
  have hencode : canonicalJsonText (.obj data) maxMessageJsonBytes = .ok text := by
    rw [← htext]
    exact canonicalJsonText_eq_ok hbounded (by decide) hsize (by decide)
  have hbytes : (Unicode.utf8 text).length ≤ maxMessageJsonBytes := by
    rw [← htext]
    exact ((length_utf8_sortKeys hbounded.visible).trans hbounded.size).trans hsize
  refine ⟨hbytes, ?_⟩
  simp only [parseCanonicalJson, bind_eq_ok, exists_unit, check_eq_ok, pure_eq_ok]
  exact ⟨⟨hne, hbytes⟩, .obj data, by rw [hloads]; rfl, rfl, text, hencode, rfl, rfl⟩

/-! ## The set topic -/

/-- A topic that the contract lets pass as the set topic of a candidate. -/
theorem checkSetTopic_of_require {value : Value} {friendlyName topic : Text}
    {code : PreflightErrorCode} (h : requireSetTopic value friendlyName code = .ok topic) :
    value = .str topic ∧ checkSetTopic topic = .ok () ∧ topic.length ≤ 160 ∧ Visible topic := by
  simp only [requireSetTopic, bind_eq_ok, exists_unit, check_eq_ok, pure_eq_ok] at h
  obtain ⟨text, htext, ⟨hset, hslash, hdouble, hwildcard⟩, rfl⟩ := h
  unfold requireCanonicalText at htext
  split at htext
  · rename_i found
    simp only [bind_unit_eq_ok, check_eq_ok, pure_eq_ok] at htext
    obtain ⟨⟨hne, hlength⟩, ⟨hboundary, hcontrol⟩, rfl⟩ := htext
    have hsuffix : (chars "/set").isSuffixOf topic = true := by
      rw [List.isSuffixOf_iff_suffix, hset]
      exact List.suffix_append _ _
    refine ⟨rfl, ?_, hlength, fun c hmem => ?_⟩
    · simp only [checkSetTopic, checkText, bind_unit_eq_ok, check_eq_ok]
      exact ⟨⟨hne, hboundary, hlength, hcontrol⟩, hsuffix, hslash, hdouble, hwildcard⟩
    · have := of_decide_eq_true (List.all_eq_true.1 hcontrol c hmem)
      omega
  · cases htext

section

variable [Sha256]

/-- The set topic of a pre-arm snapshot whose report exists. -/
theorem validatePrearm_setTopic {prearm deployment : Value} {report : PreArmAttestation}
    (h : validatePrearm prearm deployment nowMs = .ok report) :
    SafeInteger nowMs ∧ ∃ topic, valueAt prearm ["candidate", "set_topic"] = .str topic
      ∧ checkSetTopic topic = .ok () ∧ topic.length ≤ 160 ∧ Visible topic := by
  simp only [validatePrearm, bind_eq_ok, exists_unit, requireSafeInteger_eq_ok] at h
  obtain ⟨deploymentReport, -, _, ⟨hclock, hsafe⟩, -, prearmData, hprearmData, -, -, -, -, -, -,
    hreport⟩ := h
  cases hclock
  simp only [reportPrearm, bind_eq_ok, exists_unit, check_eq_ok] at hreport
  obtain ⟨_, -, -, _, -, -, _, -, -, _, -, -, -, -, -, ⟨_, _, _⟩, hcandidate, -⟩ := hreport
  simp only [requirePrearmCandidate, bind_eq_ok, exists_unit] at hcandidate
  obtain ⟨candidate, hmapping, ⟨_, _, _⟩, hscope, -⟩ := hcandidate
  simp only [normalizeCandidateScope, bind_eq_ok] at hscope
  obtain ⟨_, -, friendlyName, -, topic, htopic, -⟩ := hscope
  obtain ⟨hvalue, htopic⟩ := checkSetTopic_of_require htopic
  refine ⟨hsafe, topic, ?_, htopic⟩
  rw [requireMapping_eq_ok hprearmData, valueAt, requireMapping_eq_ok hmapping, valueAt, valueAt]
  exact hvalue

end

/-! ## The record -/

/-- `_RECOVERY_FIELDS`, in the order of `as_dict`. -/
def recoveryFields : List String :=
  ["schema", "protocol_id", "protocol_version", "build_id", "profile_id", "profile_version",
    "candidate_ieee", "candidate_set_topic", "operation_id", "bound_boot_id", "phase",
    "generation", "operation_deadline_ms", "last_request_deadline_ms",
    "expected_proof_deadline_ms", "intended_target", "challenge_target", "physical_targets",
    "restore_required", "remediation_after_restore", "restore_attempts", "consumed_request_ids",
    "used_sequences", "proofs", "expected_proof", "outcome", "failure_code", "result_id",
    "result_not_before_ms", "cleanup_allowed"]

/-- The target of the challenge, one step away. -/
def challengeOf (intendedTarget : ℤ) : ℤ :=
  if intendedTarget + 1 ≤ 35 then intendedTarget + 1 else intendedTarget - 1

theorem challengeTarget_eq_ok {intendedTarget : ℤ} (h : 0 ≤ intendedTarget ∧ intendedTarget ≤ 35) :
    brtProfile.challengeTarget intendedTarget = .ok (challengeOf intendedTarget)
      ∧ 0 ≤ challengeOf intendedTarget ∧ challengeOf intendedTarget ≤ 35 := by
  have hrange : 0 ≤ challengeOf intendedTarget ∧ challengeOf intendedTarget ≤ 35 := by
    unfold challengeOf
    split_ifs <;> omega
  have hdelta : |challengeOf intendedTarget - intendedTarget| = 1 := by
    unfold challengeOf
    split_ifs <;> simp
  refine ⟨?_, hrange⟩
  simp only [PhysicalProbeProfile.challengeTarget, bind_unit_eq_ok, check_eq_ok, pure_eq_ok]
  exact ⟨validateTarget_eq_ok _ h, validateTarget_eq_ok _ hrange, hdelta, rfl⟩

/-- The record that `arm` creates. -/
def armedRecord (request : ArmRequest) (identity : NormalizedCandidateIdentity) (setTopic : Text)
    (expectedDeadline : ℤ) : ProbeRecoveryRecord :=
  { schema := chars "true-family-physical-probe-state-v2"
    protocolId := chars "true-family-physical-probe"
    protocolVersion := 2
    buildId := chars "tfpp-v2-z2m-2.12.1-zh-10.6.1-zhc-26.76.0"
    profileId := brtProfile.profileId
    profileVersion := brtProfile.profileVersion
    candidateIeee := identity.ieeeAddress
    candidateSetTopic := setTopic
    operationId := request.operationId
    boundBootId := request.bootId
    phase := .awaitingPhysicalTarget1
    generation := 1
    operationDeadlineMs := request.operationDeadlineMs
    lastRequestDeadlineMs := request.requestDeadlineMs
    expectedProofDeadlineMs := expectedDeadline
    intendedTarget := request.intendedTarget
    challengeTarget := challengeOf request.intendedTarget
    physicalTargets := (request.firstTarget, request.secondTarget)
    restoreRequired := false
    remediationAfterRestore := false
    restoreAttempts := 0
    consumedRequestIds := [request.requestId]
    usedSequences := []
    proofs := []
    expectedProof := some ⟨.physicalTarget1, none, request.firstTarget⟩
    outcome := none
    failureCode := none
    resultId := none
    resultNotBeforeMs := 0
    cleanupAllowed := false }

section

variable {setTopic : Text} {expectedDeadline : ℤ}

/-- The bytes of the values of a record. -/
def recordCost (key : Text) : ℕ :=
  if key = chars "candidate_set_topic" then 642
  else if key = chars "expected_proof" then
    dictSize (fun _ => 78) (["purpose", "frame_kind", "sequence", "target"].map chars)
  else 174

/-- The proof that is expected first is within the limits. -/
theorem bounded_firstProof (h : 0 ≤ request.firstTarget ∧ request.firstTarget ≤ 35) :
    Bounded (proofDict .physicalTarget1 .null request.firstTarget) 1 5
      (dictSize (fun _ => 78) (["purpose", "frame_kind", "sequence", "target"].map chars)) := by
  have hsafe : maxSafeInteger = 9007199254740991 := rfl
  suffices hbounded : Bounded (proofDict .physicalTarget1 .null request.firstTarget) 1
      (1 + (["purpose", "frame_kind", "sequence", "target"].map chars).length * 1)
      (dictSize (fun _ => 78) (["purpose", "frame_kind", "sequence", "target"].map chars)) from
    hbounded
  refine bounded_obj (fun _ => 78) (by decide) (List.Perm.refl _) (by decide) ?_
  simp only [List.forall_mem_cons]
  refine ⟨?_, ?_, ?_, ?_, fun _ hmem => by cases hmem⟩
  · exact bounded_str (by decide) le_rfl (by decide) (isVisible_iff.1 (by decide))
      (by decide)
  · exact bounded_str (by decide) le_rfl (by decide) (isVisible_iff.1 (by decide))
      (by decide)
  · exact bounded_null (by decide) le_rfl (by decide)
  · exact bounded_int (by decide) le_rfl (by omega) (by decide)

/-- The record is within the limits of the durable state. -/
theorem RequestRead.boundedRecord (h : RequestRead data request identity nowMs)
    (htopic : setTopic.length ≤ 160 ∧ Visible setTopic)
    (hdeadline : 0 ≤ expectedDeadline ∧ expectedDeadline ≤ maxSafeInteger) :
    Bounded (armedRecord request identity setTopic expectedDeadline).asDict 0 151
      (dictSize recordCost (recoveryFields.map chars)) := by
  obtain ⟨candidateData, -, hidentity⟩ := h.candidate
  obtain ⟨hbootLength, hbootVisible⟩ := hexAfter_text (by decide) h.bootId.2
  obtain ⟨hrequestLength, hrequestVisible⟩ := hexAfter_text (by decide) h.requestId.2
  obtain ⟨hoperationLength, hoperationVisible⟩ := hexAfter_text (by decide) h.operationId.2
  obtain ⟨hieeeLength, hieeeVisible⟩ := hexAfter_text (by decide) hidentity.ieee
  have hboot : request.bootId.length = 42 := hbootLength
  have hrequest : request.requestId.length = 33 := hrequestLength
  have hoperation : request.operationId.length = 32 := hoperationLength
  have hieee : identity.ieeeAddress.length = 18 := hieeeLength
  have hlimit : maxJsonStringLength = 512 := rfl
  have hsafe : maxSafeInteger = 9007199254740991 := rfl
  have hdepth : (1 : ℕ) ≤ maxProbeJsonDepth := by decide
  have hintended := h.intendedTarget.2
  have hchallenge := (challengeTarget_eq_ok hintended).2
  have hfirst := h.firstTarget
  have hsecond := h.secondTarget
  -- one fact for each kind of field
  have hconst : ∀ text : Text, text.length ≤ 43 ∧ isVisible text = true → ∀ size,
      174 ≤ size → Bounded (.str text) 1 5 size := fun text htext size hsize =>
    bounded_str hdepth (by decide) (by omega) (isVisible_iff.1 htext.2) (by omega)
  have hint : ∀ number : ℤ, 0 ≤ number ∧ number ≤ maxSafeInteger → ∀ size, 16 ≤ size →
      Bounded (.int number) 1 5 size := fun number hnumber size hsize =>
    bounded_int hdepth (by decide) hnumber hsize
  have hflag : ∀ flag size, 5 ≤ size → Bounded (.bool flag) 1 5 size := fun flag size hsize =>
    bounded_bool hdepth (by decide) hsize
  have hnone : ∀ size, 4 ≤ size → Bounded .null 1 5 size := fun size hsize =>
    bounded_null hdepth (by decide) hsize
  have hempty : ∀ size, 2 ≤ size → Bounded (.arr []) 1 5 size := fun size hsize =>
    bounded_empty hdepth (by decide) hsize
  suffices hbounded : Bounded (armedRecord request identity setTopic expectedDeadline).asDict 0
      (1 + (recoveryFields.map chars).length * 5)
      (dictSize recordCost (recoveryFields.map chars)) from hbounded
  refine bounded_obj recordCost (by decide) (List.Perm.refl _) (by decide) ?_
  simp only [ProbeRecoveryRecord.entries, armedRecord, List.map_cons, List.map_nil,
    List.forall_mem_cons, optional, Option.map_none, Option.map_some, Option.getD_none,
    Option.getD_some]
  -- in the order of the durable fields
  refine ⟨?_, ?_, ?_, ?_, ?_, ?_, ?_, ?_, ?_, ?_, ?_, ?_, ?_, ?_, ?_, ?_, ?_, ?_, ?_, ?_, ?_, ?_,
    ?_, ?_, ?_, ?_, ?_, ?_, ?_, ?_, fun _ hmem => by cases hmem⟩
  · exact hconst _ (by decide) _ (by decide)
  · exact hconst _ (by decide) _ (by decide)
  · exact hint _ (by decide) _ (by decide)
  · exact hconst _ (by decide) _ (by decide)
  · exact hconst _ (by decide) _ (by decide)
  · exact hint _ (by decide) _ (by decide)
  · exact hconst _ ⟨by omega, isVisible_iff.2 hieeeVisible⟩ _ (by decide)
  · have hcost : recordCost (chars "candidate_set_topic") = 642 := by decide
    rw [hcost]
    exact bounded_str hdepth (by decide) (by omega) htopic.2 (by omega)
  · exact hconst _ ⟨by omega, isVisible_iff.2 hoperationVisible⟩ _ (by decide)
  · exact hconst _ ⟨by omega, isVisible_iff.2 hbootVisible⟩ _ (by decide)
  · exact hconst _ (by decide) _ (by decide)
  · exact hint _ (by decide) _ (by decide)
  · exact hint _ h.operationDeadline.2.1 _ (by decide)
  · exact hint _ h.requestDeadline.2.1 _ (by decide)
  · exact hint _ hdeadline _ (by decide)
  · exact hint _ (by omega) _ (by decide)
  · exact hint _ (by omega) _ (by decide)
  · have hitems : ∀ item ∈ [JsonValue.int request.firstTarget, .int request.secondTarget],
        Bounded item 2 2 85 := by
      simp only [List.forall_mem_cons]
      exact ⟨bounded_int (by decide) (by decide) (by omega) (by decide),
        bounded_int (by decide) (by decide) (by omega) (by decide), fun _ hmem => by cases hmem⟩
    have hcost : recordCost (chars "physical_targets") = 174 := by decide
    rw [hcost]
    exact bounded_arr hdepth hitems
  · exact hflag _ _ (by decide)
  · exact hflag _ _ (by decide)
  · exact hint _ (by decide) _ (by decide)
  · have hitems : ∀ item ∈ [JsonValue.str request.requestId], Bounded item 2 4 171 := by
      simp only [List.forall_mem_cons]
      exact ⟨bounded_str (by decide) (by decide) (by omega) hrequestVisible (by omega),
        fun _ hmem => by cases hmem⟩
    have hcost : recordCost (chars "consumed_request_ids") = 174 := by decide
    have hlist := bounded_arr hdepth hitems
    rw [List.length_singleton] at hlist
    rw [hcost]
    exact hlist
  · exact hempty _ (by decide)
  · exact hempty _ (by decide)
  · have hcost : recordCost (chars "expected_proof")
        = dictSize (fun _ => 78) (["purpose", "frame_kind", "sequence", "target"].map chars) := by
      decide
    rw [hcost]
    exact bounded_firstProof hfirst
  · exact hnone _ (by decide)
  · exact hnone _ (by decide)
  · exact hnone _ (by decide)
  · exact hint _ (by decide) _ (by decide)
  · exact hflag _ _ (by decide)

/-- The record passes every validator of its constructor. -/
theorem RequestRead.validateRecord [Sha256] (h : RequestRead data request identity nowMs)
    (htopic : checkSetTopic setTopic = .ok () ∧ setTopic.length ≤ 160 ∧ Visible setTopic)
    (hdeadline : 0 < expectedDeadline ∧ expectedDeadline ≤ request.operationDeadlineMs) :
    (armedRecord request identity setTopic expectedDeadline).validate = .ok () := by
  obtain ⟨candidateData, -, hidentity⟩ := h.candidate
  have hsafe := h.operationDeadline.2.1
  obtain ⟨hchallenge, hchallengeRange⟩ := challengeTarget_eq_ok h.intendedTarget.2
  have hbounded := h.boundedRecord htopic.2 ⟨by omega, hdeadline.2.trans hsafe.2⟩
  have hgeneration : (1 : ℤ) ≤ maxGeneration := by decide
  have hattempts : (0 : ℤ) ≤ maxRestoreAttempts := by decide
  have hconsumed : 1 ≤ maxConsumedRequestIds := by decide
  -- the four validators and the encoding, in the order of the constructor
  have hscalars : (armedRecord request identity setTopic expectedDeadline).validateScalars
      = .ok brtProfile := by
    simp only [ProbeRecoveryRecord.validateScalars, bind_eq_ok, exists_unit,
      check_eq_ok, checkPattern, checkNonnegative, checkSafeMilliseconds]
    exact ⟨⟨rfl, rfl⟩, ⟨rfl, rfl⟩, brtProfile, profileOf_brtProfile, hidentity.ieee, htopic.1,
      h.operationId.2, h.bootId.2, zero_le_one, ⟨le_rfl, hgeneration⟩, hsafe, h.requestDeadline.2.1,
      ⟨hdeadline.1.le, hdeadline.2.trans hsafe.2⟩, ⟨le_rfl, hsafe.1.trans hsafe.2⟩,
      validateTarget_eq_ok _ h.intendedTarget.2, validateTarget_eq_ok _ hchallengeRange, _,
      hchallenge, rfl, le_rfl, hattempts, rfl⟩
  have hcollections : (armedRecord request identity setTopic expectedDeadline).validateCollections
      brtProfile = .ok () := by
    simp only [ProbeRecoveryRecord.validateCollections, bind_unit_eq_ok, check_eq_ok, forAll_eq_ok,
      checkPattern]
    refine ⟨validatePhysicalTargets_eq_ok h.firstTarget h.secondTarget h.targets,
      ⟨le_rfl, hconsumed⟩, ?_, List.nodup_singleton _, Nat.zero_le _, ?_, List.nodup_nil,
      Nat.zero_le _, rfl, ?_⟩
    · exact List.forall_mem_singleton.2 h.requestId.2
    · exact fun _ hmem => by cases hmem
    · have hexpected : ∀ sequence ∈ (none : Option ℤ), sequence ∈ ([] : List ℤ) := fun _ hmem => by
        cases hmem
      have htarget := validateTarget_eq_ok "expected target" h.firstTarget
      simp only [ProbeRecoveryRecord.validateExpected, armedRecord, bind_unit_eq_ok]
      exact ⟨htarget, check_eq_ok.2 hexpected⟩
  have hphase :
      (armedRecord request identity setTopic expectedDeadline).validatePhase = .ok () := by
    have hactive : ¬ ProbeRecoveryRecord.IsTerminal .awaitingPhysicalTarget1 := by decide
    have hearly : ¬ (ProbePhase.awaitingPhysicalTarget1 = .awaitingChallengeResponse
        ∨ ProbePhase.awaitingPhysicalTarget1 = .awaitingRestoreResponse) := by decide
    have hphase' : ¬ ProbePhase.awaitingPhysicalTarget1 = .awaitingRestoreResponse := by decide
    rw [ProbeRecoveryRecord.validatePhase]
    refine (if_neg hactive).trans ?_
    simp only [ProbeRecoveryRecord.validateActive, bind_unit_eq_ok, check_eq_ok]
    refine ⟨⟨rfl, rfl, rfl⟩, rfl, fun himpossible => ?_, ?_, ?_, List.mem_singleton.2 rfl, ?_⟩
    · exact absurd himpossible.2 Bool.false_ne_true
    · simp only [ProbeRecoveryRecord.validateActiveProof, armedRecord, bind_unit_eq_ok]
      exact ⟨check_eq_ok.2 rfl, check_eq_ok.2 hdeadline, check_eq_ok.2 rfl⟩
    · exact (decide_eq_false hearly).symm
    · refine (if_neg hphase').trans ?_
      simp only [bind_unit_eq_ok, check_eq_ok]
      exact ⟨rfl, rfl⟩
  have hcapacity :
      (armedRecord request identity setTopic expectedDeadline).validateSequenceCapacity
        = .ok () := by
    have hreserved : ((0 : ℕ) : ℤ) + (3 + (1 + (maxRestoreAttempts + maxUnclaimedSafetyAttempts)))
        ≤ maxUsedSequences := by decide
    simp only [ProbeRecoveryRecord.validateSequenceCapacity, check_eq_ok]
    exact hreserved
  have hencode := canonicalJsonText_eq_ok hbounded (by decide)
    (show dictSize recordCost (recoveryFields.map chars) ≤ maxStateJsonBytes by decide)
    (by decide)
  simp only [ProbeRecoveryRecord.validate, bind_eq_ok, exists_unit]
  exact ⟨brtProfile, hscalars, hcollections, hphase, hcapacity, _, hencode, rfl⟩

/-- The contract arms the record at every time before the deadline of the request that leaves room
for a proof window. -/
theorem RequestRead.arm [Sha256] (h : RequestRead data request identity nowMs)
    (htopic : checkSetTopic setTopic = .ok () ∧ setTopic.length ≤ 160 ∧ Visible setTopic)
    {t : ℤ} (hstart : 0 ≤ nowMs ∧ nowMs ≤ t) (hend : t < request.requestDeadlineMs)
    (hroom : t + physicalProofWindowMs ≤ maxSafeInteger) :
    ProbeRecoveryRecord.arm brtProfile identity setTopic request.operationId request.bootId
        request.requestId request.requestDeadlineMs request.operationDeadlineMs
        request.intendedTarget (request.firstTarget, request.secondTarget) t
      = .ok (armedRecord request identity setTopic
        (min (t + physicalProofWindowMs) request.operationDeadlineMs)) := by
  obtain ⟨candidateData, -, hidentity⟩ := h.candidate
  obtain ⟨-, hrequestSafe, -, hrequestWindow⟩ := h.requestDeadline
  obtain ⟨-, hoperationSafe, -, hoperationWindow⟩ := h.operationDeadline
  have horder := h.order
  have hwindow : physicalProofWindowMs = 60000 := rfl
  have hclock : 0 ≤ t ∧ t ≤ maxSafeInteger := by omega
  have hdeadline : t < min (t + physicalProofWindowMs) request.operationDeadlineMs := by
    rw [lt_min_iff]
    omega
  have hbounded : boundedPhaseDeadline t request.operationDeadlineMs physicalProofWindowMs
      = .ok (min (t + physicalProofWindowMs) request.operationDeadlineMs) := by
    simp only [boundedPhaseDeadline, checkedAdd, checkSafeMilliseconds, checkPositive, bind_eq_ok,
      exists_unit, check_eq_ok, pure_eq_ok]
    exact ⟨hclock, hoperationSafe, by decide, _, ⟨hclock, by decide, hroom, rfl⟩, hdeadline, rfl⟩
  have hvalidate := h.validateRecord htopic
    ⟨(hclock.1.trans_lt hdeadline), min_le_right (t + physicalProofWindowMs) _⟩
  simp only [ProbeRecoveryRecord.arm, bind_eq_ok, exists_unit, check_eq_ok, pure_eq_ok,
    checkPattern, validateFreshDeadline, checkSafeMilliseconds]
  exact ⟨hidentity.requireProfile, htopic.1, h.operationId.2, h.bootId.2, h.requestId.2,
    ⟨hrequestSafe, hclock, hend, by omega⟩, ⟨hoperationSafe, hclock, by omega, by omega⟩, horder,
    validateTarget_eq_ok _ h.intendedTarget.2,
    validatePhysicalTargets_eq_ok h.firstTarget h.secondTarget h.targets, _, hbounded, _,
    (challengeTarget_eq_ok h.intendedTarget.2).1, rfl, hvalidate, rfl⟩

end

/-! ## The permit -/

/-- What the contract does with a request that is authorized at a time: it reads the same fields
from the message, and it arms a record with them until the permit expires. -/
structure Honoured [Sha256] (text : Text) (prearm value : Value) (permit : ProbeArmPermit)
    (nowMs : ℤ) (request : ProbeRequest) (identity : NormalizedCandidateIdentity)
    (setTopic : Text) (intendedTarget : ℤ) (physicalTargets : ℤ × ℤ) (operationDeadlineMs : ℤ) :
    Prop where
  parsed : parseCanonicalMapping text maxSnapshotJsonBytes = .ok value
    ∧ parseCanonicalJson text maxMessageJsonBytes = .ok value
  accepted : ProbeRequest.fromDict value = .ok request
  hasCandidate : request.candidate = some identity
  hasIntendedTarget : request.intendedTarget = some intendedTarget
  hasPhysicalTargets : request.physicalTargets = some physicalTargets
  hasOperationDeadline : request.operationDeadlineMs = some operationDeadlineMs
  expires : permit.expiresAtMs = request.requestDeadlineMs
  sameFields : ∀ entry ∈ request.armEntries, valueAt value [entry.1] = entry.2
  sameCandidate : ∀ entry ∈ identity.entries, valueAt value ["candidate", entry.1] = entry.2
  sameSetTopic : valueAt prearm ["candidate", "set_topic"] = .str setTopic
  armed : ∀ t, nowMs ≤ t → t < permit.expiresAtMs → t + physicalProofWindowMs ≤ maxSafeInteger →
    ∃ record, ProbeRecoveryRecord.arm brtProfile identity setTopic request.operationId
        request.bootId request.requestId request.requestDeadlineMs operationDeadlineMs
        intendedTarget physicalTargets t = .ok record
      ∧ record.phase = .awaitingPhysicalTarget1 ∧ record.candidateIeee = identity.ieeeAddress
      ∧ record.candidateSetTopic = setTopic ∧ record.operationId = request.operationId
      ∧ record.boundBootId = request.bootId ∧ record.intendedTarget = intendedTarget
      ∧ record.physicalTargets = physicalTargets
      ∧ record.lastRequestDeadlineMs = permit.expiresAtMs
      ∧ record.operationDeadlineMs = operationDeadlineMs
      ∧ record.expectedProofDeadlineMs = min (t + physicalProofWindowMs) operationDeadlineMs

/-- A request that the preflight authorizes is within the limit of a message, and it is honoured. -/
theorem permit_honoured [Sha256] {deployment prearm : Value} {text : Text} {nowMs : ℤ}
    {permit : ProbeArmPermit} (h : authorizeArm deployment prearm text nowMs = .ok permit) :
    (Unicode.utf8 text).length ≤ maxMessageJsonBytes
      ∧ ∃ value request identity setTopic intendedTarget physicalTargets operationDeadlineMs,
        Honoured text prearm value permit nowMs request identity setTopic intendedTarget
          physicalTargets operationDeadlineMs := by
  simp only [authorizeArm, bind_eq_ok, rewrap_eq_ok] at h
  obtain ⟨report, hprearm, value, hvalue, request, hrequest, hpermit⟩ := h
  obtain ⟨hclock, setTopic, hsetTopic, htopic⟩ := validatePrearm_setTopic hprearm
  obtain ⟨-, -, -, hdistinct⟩ := parseCanonicalMapping_eq_ok hvalue
  obtain ⟨data, identity, rfl, hread⟩ := requestRead_of_normalize hrequest hdistinct
  obtain ⟨hbytes, hparse⟩ := hread.parse hvalue
  obtain ⟨hfields, hcandidateFields⟩ := hread.sameFields
  have hexpires := permitArm_expires hpermit
  refine ⟨hbytes, .obj data, probeRequestOf request identity, identity, setTopic,
    request.intendedTarget, (request.firstTarget, request.secondTarget),
    request.operationDeadlineMs,
    ⟨hvalue, hparse⟩, hread.fromDict, rfl, rfl, rfl, rfl, hexpires, hfields, hcandidateFields,
    hsetTopic, fun t hstart hend hroom => ?_⟩
  rw [hexpires] at hend
  exact ⟨_, hread.arm htopic ⟨hclock.1, hstart⟩ hend hroom, rfl, rfl, rfl, rfl, rfl, rfl, rfl,
    hexpires.symm, rfl, rfl⟩

/-! ## The end of the range of the clock -/

/-- Where a proof window does not fit before the last safe millisecond, nothing is armed. -/
theorem arm_ne_ok [Sha256] {profile : PhysicalProbeProfile}
    {candidate : NormalizedCandidateIdentity} {setTopic operationId bootId requestId : Text}
    {requestDeadlineMs operationDeadlineMs intendedTarget : ℤ} {physicalTargets : ℤ × ℤ} {t : ℤ}
    (hroom : maxSafeInteger < t + physicalProofWindowMs) (record : ProbeRecoveryRecord) :
    ProbeRecoveryRecord.arm profile candidate setTopic operationId bootId requestId
      requestDeadlineMs operationDeadlineMs intendedTarget physicalTargets t ≠ .ok record := by
  intro h
  simp only [ProbeRecoveryRecord.arm, boundedPhaseDeadline, checkedAdd, bind_eq_ok, exists_unit,
    check_eq_ok, pure_eq_ok] at h
  obtain ⟨-, -, -, -, -, -, -, -, -, -, _, ⟨-, -, -, _, ⟨-, -, hfits, -⟩, -⟩, -⟩ := h
  omega

/-- The request that is parsed has the deadline of the sample. -/
def hasSampleDeadline : Preflight.Checks Value → Bool
  | .ok (.obj data) => isInt (sampleNow + 3500) (field data "request_deadline_ms")
  | _ => false

/-- The deadline of the request of the chain. -/
theorem sample_deadline {data : List (Text × Value)}
    (h : parseCanonicalMapping sampleRequestText maxSnapshotJsonBytes = .ok (.obj data)) :
    field data "request_deadline_ms" = .int (sampleNow + 3500) := by
  have hfield : hasSampleDeadline
      (parseCanonicalMapping sampleRequestText maxSnapshotJsonBytes) = true := by decide +kernel
  rw [h] at hfield
  exact isInt_eq.1 hfield

/-- One millisecond after the chain is authorized, its permit is valid and nothing can be armed. -/
theorem sample_unhonoured :
    ∃ permit, @authorizeArm checksum (@sampleDeployment checksum) (@samplePrearm checksum)
        sampleRequestText sampleNow = .ok permit
      ∧ sampleNow + physicalProofWindowMs ≤ maxSafeInteger
      ∧ ∃ t, sampleNow ≤ t ∧ t < permit.expiresAtMs
        ∧ ∀ profile candidate setTopic operationId bootId requestId requestDeadlineMs
          operationDeadlineMs intendedTarget physicalTargets record,
          @ProbeRecoveryRecord.arm checksum profile candidate setTopic operationId bootId requestId
            requestDeadlineMs operationDeadlineMs intendedTarget physicalTargets t
              ≠ .ok record := by
  obtain ⟨permit, hpermit⟩ := sample_authorized
  obtain ⟨_, _, data, _, _, -, -, hparsed, -, -, hdeadline, -, -⟩ :=
    @authorizeArm_deadlines checksum _ _ _ _ _ hpermit
  rw [sample_deadline hparsed, JsonValue.int.injEq] at hdeadline
  refine ⟨permit, hpermit, by decide, sampleNow + 1, by omega, by omega, ?_⟩
  intros
  exact @arm_ne_ok checksum _ _ _ _ _ _ _ _ _ _ _ (by decide) _

/-- The chain is honoured at the time at which it is authorized. -/
theorem sample_permit_honoured :
    ∃ (permit : ProbeArmPermit) (request : ProbeRequest) (identity : NormalizedCandidateIdentity)
      (setTopic : Text) (intendedTarget : ℤ) (physicalTargets : ℤ × ℤ) (operationDeadlineMs : ℤ)
      (record : ProbeRecoveryRecord),
      @authorizeArm checksum (@sampleDeployment checksum) (@samplePrearm checksum)
          sampleRequestText sampleNow = .ok permit
        ∧ @ProbeRecoveryRecord.arm checksum brtProfile identity setTopic
          request.operationId request.bootId request.requestId
          request.requestDeadlineMs operationDeadlineMs intendedTarget physicalTargets sampleNow
            = .ok record
        ∧ record.phase = .awaitingPhysicalTarget1 := by
  obtain ⟨permit, hpermit⟩ := sample_authorized
  obtain ⟨_, _, data, _, _, -, -, hparsed, -, -, hdeadline, -, -⟩ :=
    @authorizeArm_deadlines checksum _ _ _ _ _ hpermit
  rw [sample_deadline hparsed, JsonValue.int.injEq] at hdeadline
  obtain ⟨-, _, request, identity, setTopic, intendedTarget, physicalTargets, operationDeadlineMs,
    hhonoured⟩ := @permit_honoured checksum _ _ _ _ _ hpermit
  obtain ⟨record, harm, hphase, -⟩ :=
    @Honoured.armed checksum _ _ _ _ _ _ _ _ _ _ _ hhonoured sampleNow le_rfl (by omega) (by decide)
  exact ⟨permit, request, identity, setTopic, intendedTarget, physicalTargets, operationDeadlineMs,
    record, hpermit, harm, hphase⟩

end TrueFamily.Probe
