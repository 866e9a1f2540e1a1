import TrueFamily.Preflight.PermitBinding
import TrueFamily.Probe.Bounds
import TrueFamily.Probe.Record

/-!
# What a permit says about the request

What the preflight has checked when it authorizes a request, in the words of the contract: the
fields of the request (`RequestRead`), of its candidate (`CandidateRead`) and the set topic.
-/

namespace TrueFamily.Probe

open Checked JsonValue TrueFamily.Preflight

/-! ## Reading a value back -/

/-- The keys of a dictionary are exactly these, and none is repeated. -/
structure ExactKeys (data : List (Text × Value)) (names : List String) : Prop where
  distinct : (data.map Prod.fst).Nodup
  expected : ∀ entry ∈ data, ∃ name ∈ names, entry.1 = chars name
  present : ∀ name ∈ names, ∃ entry ∈ data, entry.1 = chars name

theorem requireMapping_exactKeys {value : Value} {names : List String} {code : PreflightErrorCode}
    {data : List (Text × Value)} (h : requireMapping value names code = .ok data)
    (hdistinct : (data.map Prod.fst).Nodup) : ExactKeys data names := by
  have hvalue := requireMapping_eq_ok h
  subst hvalue
  simp only [requireMapping, bind_unit_eq_ok, check_eq_ok] at h
  exact ⟨hdistinct, h.1.1, h.1.2⟩

theorem requireExactFields_eq_ok {data : List (Text × Value)} {names : List String}
    (label : String) (h : ExactKeys data names) :
    requireExactFields (.obj data) names label = .ok data := by
  simp only [requireExactFields, bind_unit_eq_ok, check_eq_ok, pure_eq_ok]
  exact ⟨⟨h.expected, h.present⟩, trivial⟩

theorem requirePattern_matches {pattern : Text → Bool} {value : Value} {code : PreflightErrorCode}
    {text : Text} (h : requirePattern pattern value code = .ok text) :
    value = .str text ∧ pattern text = true := by
  have hvalue := requirePattern_eq_ok h
  subst hvalue
  simp only [requirePattern, bind_unit_eq_ok, check_eq_ok] at h
  exact ⟨rfl, h.1⟩

theorem requireTarget_range {value : Value} {code : PreflightErrorCode} {target : ℤ}
    (h : requireTarget value code = .ok target) :
    value = .int target ∧ 0 ≤ target ∧ target ≤ 35 := by
  simp only [requireTarget, requireIntegerRange, bind_eq_ok, exists_unit, check_eq_ok, pure_eq_ok,
    requireSafeInteger_eq_ok] at h
  obtain ⟨_, ⟨_, ⟨hvalue, -⟩, hrange, rfl⟩, -, rfl⟩ := h
  exact ⟨hvalue, hrange⟩

theorem readPattern_eq_ok {pattern : Text → Bool} {text : Text} (label : String)
    (h : pattern text = true) : readPattern pattern (.str text) label = .ok text := by
  simp only [readPattern, checkPattern, bind_unit_eq_ok, check_eq_ok, pure_eq_ok]
  exact ⟨h, trivial⟩

theorem readText_eq_ok {text : Text} {maximum : ℕ} (label : String)
    (h : IsBoundedText text maximum) : readText (.str text) label maximum = .ok text := by
  simp only [readText, checkText, bind_unit_eq_ok, check_eq_ok, pure_eq_ok]
  exact ⟨h, trivial⟩

/-! ## The candidate -/

/-- The items of `as_projection`. -/
def NormalizedCandidateIdentity.entries (identity : NormalizedCandidateIdentity) :
    List (String × Value) :=
  [("ieee_address", .str identity.ieeeAddress), ("model", .str identity.model),
    ("vendor", .str identity.vendor), ("zigbee_model", .str identity.zigbeeModel),
    ("manufacturer_fingerprint", .str identity.manufacturerFingerprint),
    ("endpoint_id", .int identity.endpointId), ("cluster_name", .str identity.clusterName),
    ("cluster_id", .int identity.clusterId)]

/-- The candidate of the profile with this address and this alias. -/
def candidateOf (ieeeAddress : Text) (known : ResolvedIdentityAlias) :
    NormalizedCandidateIdentity :=
  ⟨ieeeAddress, known.model, known.vendor, brtProfile.zigbeeModel, known.manufacturerFingerprint,
    brtProfile.endpointId, brtProfile.clusterName, brtProfile.clusterId⟩

/-- A dictionary of a candidate that the preflight lets pass. -/
structure CandidateRead (data : List (Text × Value)) (identity : NormalizedCandidateIdentity) :
    Prop where
  keys : ExactKeys data candidateFields
  fields : ∀ entry ∈ identity.entries, field data entry.1 = entry.2
  ieee : ieeePattern identity.ieeeAddress = true
  known : ∃ known ∈ brtProfile.resolvedAliases, identity = candidateOf identity.ieeeAddress known

theorem candidateRead_of_normalize {data : List (Text × Value)} {code : PreflightErrorCode}
    {normalized : List (Text × Value)} (h : normalizeIdentity (.obj data) code = .ok normalized)
    (hdistinct : (data.map Prod.fst).Nodup) : ∃ identity, CandidateRead data identity := by
  simp only [normalizeIdentity, bind_eq_ok] at h
  obtain ⟨entries, hentries, ieee, hieee, fingerprint, hfingerprint, _, -, _, -, _, -, hprofile⟩ :=
    h
  have hdata := requireMapping_eq_ok hentries
  rw [JsonValue.obj.injEq] at hdata
  subst hdata
  obtain ⟨hieeeField, hieeePattern⟩ := requirePattern_matches hieee
  obtain ⟨hfingerprintField, -⟩ := requirePattern_matches hfingerprint
  split at hprofile
  · cases hprofile
  · rename_i model vendor hlookup
    simp only [bind_eq_ok, exists_unit, check_eq_ok, isStr_eq, isInt_eq] at hprofile
    obtain ⟨⟨hmodel, hvendor, hzigbee, hendpoint, hname, hcluster⟩, -⟩ := hprofile
    refine ⟨candidateOf ieee ⟨fingerprint, model, vendor⟩,
      requireMapping_exactKeys hentries hdistinct,
      ?_, hieeePattern, ⟨fingerprint, model, vendor⟩, ?_, rfl⟩
    · simp only [NormalizedCandidateIdentity.entries, candidateOf, List.forall_mem_cons]
      exact ⟨hieeeField, hmodel, hvendor, hzigbee, hfingerprintField, hendpoint, hname, hcluster,
        fun _ hmem => by cases hmem⟩
    · obtain ⟨before, after, heq, -⟩ := List.lookup_eq_some_iff.1 hlookup
      have hmem : (fingerprint, model, vendor) ∈ profileAliases := by
        rw [heq]
        exact List.mem_append_right _ List.mem_cons_self
      have hsame : brtProfile.resolvedAliases
          = profileAliases.map fun entry => ⟨entry.1, entry.2.1, entry.2.2⟩ := rfl
      rw [hsame]
      exact List.mem_map_of_mem hmem

/-- The texts of an alias are within the bounds of the contract. -/
theorem alias_texts : ∀ known ∈ brtProfile.resolvedAliases,
    IsBoundedText known.model 96 ∧ IsBoundedText known.vendor 96
      ∧ fingerprintPattern known.manufacturerFingerprint = true
      ∧ brtProfile.resolvedAliases.find?
        (fun entry => entry.manufacturerFingerprint = known.manufacturerFingerprint) = some known
      ∧ 4 * known.model.length + 2 ≤ 74 ∧ 4 * known.vendor.length + 2 ≤ 74
      ∧ 4 * known.manufacturerFingerprint.length + 2 ≤ 74
      ∧ isVisible known.model = true ∧ isVisible known.vendor = true
      ∧ isVisible known.manufacturerFingerprint = true := by
  decide

variable {data : List (Text × Value)} {identity : NormalizedCandidateIdentity}

theorem resolvedAlias_eq_ok {known : ResolvedIdentityAlias}
    (hmem : known ∈ brtProfile.resolvedAliases) :
    brtProfile.resolvedAlias known.manufacturerFingerprint = .ok known := by
  obtain ⟨-, -, hpattern, hfind, -⟩ := alias_texts known hmem
  simp only [PhysicalProbeProfile.resolvedAlias, checkPattern, bind_unit_eq_ok, check_eq_ok]
  exact ⟨hpattern, by rw [hfind]⟩

theorem CandidateRead.requireProfile (h : CandidateRead data identity) :
    identity.requireProfile brtProfile = .ok () := by
  obtain ⟨known, hmem, heq⟩ := h.known
  generalize identity.ieeeAddress = ieeeAddress at heq
  subst heq
  simp only [NormalizedCandidateIdentity.requireProfile, bind_eq_ok, check_eq_ok]
  exact ⟨known, resolvedAlias_eq_ok hmem, rfl, rfl, rfl, rfl, rfl, rfl⟩

theorem CandidateRead.fromProjection (h : CandidateRead data identity) :
    NormalizedCandidateIdentity.fromProjection (.obj data) = .ok identity := by
  obtain ⟨known, hmem, heq⟩ := h.known
  obtain ⟨hmodel, hvendor, hpattern, -⟩ := alias_texts known hmem
  have hieee := h.ieee
  have hfields := h.fields
  have hkeys := h.keys
  generalize identity.ieeeAddress = ieeeAddress at heq hieee
  subst heq
  simp only [NormalizedCandidateIdentity.entries, candidateOf, List.forall_mem_cons] at hfields
  obtain ⟨hieeeField, hmodelField, hvendorField, hzigbee, hfingerprint, hendpoint, hname, hcluster,
    -⟩ := hfields
  simp only [NormalizedCandidateIdentity.fromProjection, bind_eq_ok, exists_unit, check_eq_ok,
    pure_eq_ok, checkPositive]
  refine ⟨data, requireExactFields_eq_ok _ hkeys, ieeeAddress, ?_, known.model, ?_, known.vendor,
    ?_, brtProfile.zigbeeModel, ?_, brtProfile.clusterName, ?_, known.manufacturerFingerprint, ?_,
    brtProfile.endpointId, ?_, by decide, brtProfile.clusterId, ?_, by decide, rfl⟩
  · rw [hieeeField, readPattern_eq_ok _ hieee]
  · rw [hmodelField, readText_eq_ok _ hmodel]
  · rw [hvendorField, readText_eq_ok _ hvendor]
  · rw [hzigbee, readText_eq_ok _ (by decide)]
  · rw [hname, readText_eq_ok _ (by decide)]
  · rw [hfingerprint, readPattern_eq_ok _ hpattern]
  · rw [hendpoint]
    rfl
  · rw [hcluster]
    rfl

/-- The bytes of the values of a candidate. -/
def candidateCost (_ : Text) : ℕ := 74

theorem CandidateRead.bounded (h : CandidateRead data identity) {depth : ℕ}
    (hdepth : depth + 1 ≤ maxProbeJsonDepth) :
    Bounded (.obj data) depth 9 (dictSize candidateCost (candidateFields.map chars)) := by
  obtain ⟨known, hmem, heq⟩ := h.known
  obtain ⟨-, -, -, -, hmodel, hvendor, hfingerprint, hmodelVisible, hvendorVisible,
    hfingerprintVisible⟩ := alias_texts known hmem
  rw [isVisible_iff] at hmodelVisible hvendorVisible hfingerprintVisible
  obtain ⟨hieeeLength, hieeeVisible⟩ := hexAfter_text (by decide) h.ieee
  have hstart : (chars "0x").length = 2 := by decide
  have hlimit : maxJsonStringLength = 512 := rfl
  have hfields := h.fields
  have hkeys := h.keys
  generalize identity.ieeeAddress = ieeeAddress at heq hieeeLength hieeeVisible
  subst heq
  simp only [NormalizedCandidateIdentity.entries, candidateOf, List.forall_mem_cons] at hfields
  obtain ⟨hieeeField, hmodelField, hvendorField, hzigbee, hfingerprintField, hendpoint, hname,
    hcluster, -⟩ := hfields
  suffices hbounded : Bounded (.obj data) depth (1 + (candidateFields.map chars).length * 1)
      (dictSize candidateCost (candidateFields.map chars)) from hbounded
  refine bounded_obj candidateCost (by omega)
    (perm_keys hkeys.distinct (by decide) ⟨hkeys.expected, hkeys.present⟩)
    (by decide) ?_
  refine @forall_entries data candidateFields (fun key value =>
    Bounded value (depth + 1) 1 (candidateCost key)) hkeys.distinct hkeys.expected ?_
  simp only [candidateFields, List.forall_mem_cons, candidateCost, hieeeField, hmodelField,
    hvendorField, hzigbee, hfingerprintField, hendpoint, hname, hcluster]
  refine ⟨?_, ?_, ?_, ?_, ?_, ?_, ?_, ?_, fun _ hmem => by cases hmem⟩
  · exact bounded_str hdepth le_rfl (by omega) hieeeVisible (by omega)
  · exact bounded_str hdepth le_rfl (by omega) hmodelVisible hmodel
  · exact bounded_str hdepth le_rfl (by omega) hvendorVisible hvendor
  · exact bounded_str hdepth le_rfl (by decide) (isVisible_iff.1 (by decide)) (by decide)
  · exact bounded_str hdepth le_rfl (by omega) hfingerprintVisible hfingerprint
  · exact bounded_int hdepth le_rfl (by decide) (by decide)
  · exact bounded_str hdepth le_rfl (by decide) (isVisible_iff.1 (by decide)) (by decide)
  · exact bounded_int hdepth le_rfl (by decide) (by decide)

/-! ## The request -/

/-- A dictionary of a request that the preflight lets pass at a time. -/
structure RequestRead (data : List (Text × Value)) (request : ArmRequest)
    (identity : NormalizedCandidateIdentity) (nowMs : ℤ) : Prop where
  keys : ExactKeys data armFields
  fixed : ∀ entry ∈ armRequestValues, field data entry.1 = entry.2
  bootId : field data "boot_id" = .str request.bootId ∧ bootPattern request.bootId = true
  requestId : field data "request_id" = .str request.requestId
    ∧ requestPattern request.requestId = true
  operationId : field data "operation_id" = .str request.operationId
    ∧ operationPattern request.operationId = true
  nonce : field data "nonce" = .str request.nonce ∧ noncePattern request.nonce = true
  candidate : ∃ entries, field data "candidate" = .obj entries ∧ CandidateRead entries identity
  intendedTarget : field data "intended_target" = .int request.intendedTarget
    ∧ 0 ≤ request.intendedTarget ∧ request.intendedTarget ≤ 35
  physicalTargets : field data "physical_targets"
    = .arr [.int request.firstTarget, .int request.secondTarget]
  firstTarget : 0 ≤ request.firstTarget ∧ request.firstTarget ≤ 35
  targets : request.firstTarget ≠ request.secondTarget
    ∧ request.secondTarget = request.intendedTarget
  requestDeadline : field data "request_deadline_ms" = .int request.requestDeadlineMs
    ∧ SafeInteger request.requestDeadlineMs ∧ nowMs < request.requestDeadlineMs
    ∧ request.requestDeadlineMs ≤ nowMs + maxRequestWindowMs
  operationDeadline : field data "operation_deadline_ms" = .int request.operationDeadlineMs
    ∧ SafeInteger request.operationDeadlineMs ∧ nowMs < request.operationDeadlineMs
    ∧ request.operationDeadlineMs ≤ nowMs + maxOperationWindowMs
  order : request.requestDeadlineMs < request.operationDeadlineMs

theorem requirePair_eq_ok {value : Value} {code : PreflightErrorCode} {pair : Value × Value}
    (h : requirePair value code = .ok pair) : value = .arr [pair.1, pair.2] := by
  unfold requirePair at h
  split at h
  · cases h
    rfl
  · cases h

theorem distinct_of_allNodes {entries : List (Text × Value)}
    (h : allNodes distinctKeys (.obj entries) = true) :
    (entries.map Prod.fst).Nodup ∧ ∀ entry ∈ entries, allNodes distinctKeys entry.2 = true := by
  rw [allNodes, Bool.and_eq_true, allEntries_iff] at h
  exact ⟨of_decide_eq_true h.1, h.2⟩

theorem requestRead_of_normalize {value : Value} {prearm : PreArmAttestation} {nowMs : ℤ}
    {request : ArmRequest} (h : normalizeArmRequest value prearm nowMs = .ok request)
    (hdistinct : allNodes distinctKeys value = true) :
    ∃ data identity, value = .obj data ∧ RequestRead data request identity nowMs := by
  simp only [normalizeArmRequest, bind_eq_ok, exists_unit, check_eq_ok, pure_eq_ok,
    requireFutureDeadline_eq_ok] at h
  obtain ⟨-, data, hdata, hvalues, bootId, hbootId, requestId, hrequestId, operationId,
    hoperationId, nonce, hnonce, -, normalized, hnormalized, intendedTarget, hintended,
    ⟨first, second⟩, hpair, firstTarget, hfirst, secondTarget, hsecond, htargets, requestDeadline,
    hrequestDeadline, -, operationDeadline, hoperationDeadline, horder, rfl⟩ := h
  have hvalue := requireMapping_eq_ok hdata
  subst hvalue
  obtain ⟨hkeys, hentries⟩ := distinct_of_allNodes hdistinct
  have hexact := requireMapping_exactKeys hdata hkeys
  obtain ⟨candidateData, hcandidateData⟩ : ∃ entries, field data "candidate" = .obj entries := by
    simp only [normalizeIdentity, bind_eq_ok] at hnormalized
    obtain ⟨entries, hentries, -⟩ := hnormalized
    exact ⟨entries, requireMapping_eq_ok hentries⟩
  -- the candidate stands in the request, so that none of its keys is repeated either
  have hcandidateDistinct : allNodes distinctKeys (field data "candidate") = true := by
    obtain ⟨entry, hmem, hkey⟩ := hexact.present "candidate" (by decide)
    rw [field, ← hkey, lookup_of_mem hkeys hmem]
    exact hentries entry hmem
  rw [hcandidateData] at hnormalized hcandidateDistinct
  obtain ⟨identity, hidentity⟩ :=
    candidateRead_of_normalize hnormalized (distinct_of_allNodes hcandidateDistinct).1
  obtain ⟨hfirstValue, hfirstRange⟩ := requireTarget_range hfirst
  obtain ⟨hsecondValue, -⟩ := requireTarget_range hsecond
  refine ⟨data, identity, rfl, hexact, fun entry hmem => field_of_hasExactValues hvalues hmem,
    requirePattern_matches hbootId, requirePattern_matches hrequestId,
    requirePattern_matches hoperationId, requirePattern_matches hnonce,
    ⟨candidateData, hcandidateData, hidentity⟩, requireTarget_range hintended, ?_, hfirstRange,
    htargets, hrequestDeadline, hoperationDeadline, horder⟩
  rw [requirePair_eq_ok hpair, hfirstValue, hsecondValue]

/-- The bytes of the values of a request. -/
def requestCost (key : Text) : ℕ :=
  if key ∈ ["protocol_version", "profile_version", "generation", "request_deadline_ms",
    "intended_target", "operation_deadline_ms"].map chars then 16
  else if key = chars "physical_targets" then 36
  else if key = chars "candidate" then dictSize candidateCost (candidateFields.map chars)
  else 174

variable {request : ArmRequest} {nowMs : ℤ}

/-- The whole request is within the limits of a message. -/
theorem RequestRead.bounded (h : RequestRead data request identity nowMs) :
    Bounded (.obj data) 0 154 (dictSize requestCost (armFields.map chars)) := by
  obtain ⟨candidateData, hcandidate, hidentity⟩ := h.candidate
  have hfixed := h.fixed
  simp only [armRequestValues, List.forall_mem_cons] at hfixed
  obtain ⟨haction, hprotocolId, hprotocolVersion, hbuildId, hprofileId, hprofileVersion, hphase,
    hgeneration, -⟩ := hfixed
  obtain ⟨hbootLength, hbootVisible⟩ := hexAfter_text (by decide) h.bootId.2
  obtain ⟨hrequestLength, hrequestVisible⟩ := hexAfter_text (by decide) h.requestId.2
  obtain ⟨hoperationLength, hoperationVisible⟩ := hexAfter_text (by decide) h.operationId.2
  obtain ⟨hnonceLength, hnonceVisible⟩ := hexAfter_text (by decide) h.nonce.2
  have hboot : request.bootId.length = 42 := hbootLength
  have hrequest : request.requestId.length = 33 := hrequestLength
  have hoperation : request.operationId.length = 32 := hoperationLength
  have hnonce : request.nonce.length = 43 := hnonceLength
  have hlimit : maxJsonStringLength = 512 := rfl
  have hsafe : maxSafeInteger = 9007199254740991 := rfl
  have hdepth : (1 : ℕ) ≤ maxProbeJsonDepth := by decide
  have hintended := h.intendedTarget.2
  have hfirst := h.firstTarget
  have htargets := h.targets.2
  suffices hbounded : Bounded (.obj data) 0 (1 + (armFields.map chars).length * 9)
      (dictSize requestCost (armFields.map chars)) from hbounded
  refine bounded_obj requestCost (by decide)
    (perm_keys h.keys.distinct (by decide) ⟨h.keys.expected, h.keys.present⟩)
    (by decide) ?_
  refine @forall_entries data armFields (fun key value =>
    Bounded value 1 9 (requestCost key)) h.keys.distinct h.keys.expected ?_
  simp only [armFields, commonRequestFields, List.cons_append, List.nil_append,
    List.forall_mem_cons, haction, hprotocolId, hprotocolVersion, hbuildId, hprofileId,
    hprofileVersion, hphase, hgeneration, h.bootId.1, h.requestId.1, h.operationId.1, h.nonce.1,
    hcandidate, h.intendedTarget.1, h.physicalTargets, h.requestDeadline.1, h.operationDeadline.1]
  -- one fact for each kind of field
  have hconst : ∀ text : Text, text.length ≤ 43 ∧ isVisible text = true →
      ∀ size, 174 ≤ size →
      Bounded (.str text) 1 9 size := fun text htext size hsize =>
    bounded_str hdepth (by decide) (by omega) (isVisible_iff.1 htext.2) (by omega)
  have hint : ∀ number : ℤ, 0 ≤ number ∧ number ≤ maxSafeInteger → ∀ size, 16 ≤ size →
      Bounded (.int number) 1 9 size := fun number hnumber size hsize =>
    bounded_int hdepth (by decide) hnumber hsize
  -- in the order of the fields of a request
  refine ⟨?_, ?_, ?_, ?_, ?_, ?_, ?_, ?_, ?_, ?_, ?_, ?_, ?_, ?_, ?_, ?_, ?_,
    fun _ hmem => by cases hmem⟩
  · exact hconst (chars "arm") (by decide) _ (by decide)
  · exact hconst (chars "true-family-physical-probe") (by decide) _ (by decide)
  · exact hint 2 (by decide) _ (by decide)
  · exact hconst (chars "tfpp-v2-z2m-2.12.1-zh-10.6.1-zhc-26.76.0") (by decide) _
      (by decide)
  · exact hconst (chars "moes-brt-100-trv") (by decide) _ (by decide)
  · exact hint 2 (by decide) _ (by decide)
  · exact hconst _ ⟨by omega, isVisible_iff.2 hbootVisible⟩ _ (by decide)
  · exact hconst _ ⟨by omega, isVisible_iff.2 hrequestVisible⟩ _ (by decide)
  · exact hconst _ ⟨by omega, isVisible_iff.2 hoperationVisible⟩ _ (by decide)
  · exact hconst _ ⟨by omega, isVisible_iff.2 hnonceVisible⟩ _ (by decide)
  · exact hconst (chars "quiescent") (by decide) _ (by decide)
  · exact hint 0 (by decide) _ (by decide)
  · exact hint _ h.requestDeadline.2.1 _ (by decide)
  · have hcost : requestCost (chars "candidate")
        = dictSize candidateCost (candidateFields.map chars) := by decide
    rw [hcost]
    exact hidentity.bounded (by decide)
  · exact hint _ (by omega) _ (by decide)
  · have hitems : ∀ item ∈ [JsonValue.int request.firstTarget, .int request.secondTarget],
        Bounded item 2 4 16 := by
      simp only [List.forall_mem_cons]
      exact ⟨bounded_int (by decide) (by decide) (by omega) le_rfl,
        bounded_int (by decide) (by decide) (by omega) le_rfl, fun _ hmem => by cases hmem⟩
    exact bounded_arr hdepth hitems
  · exact hint _ h.operationDeadline.2.1 _ (by decide)

end TrueFamily.Probe
