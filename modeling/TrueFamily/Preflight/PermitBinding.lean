import TrueFamily.Preflight.PermitWindow

/-!
# What a permit binds

A permit carries the digests of the deployment snapshot, of the pre-arm snapshot and of the bytes of
the request. Where SHA-256 is injective on what was hashed, equal permits come from equal evidence,
and within one chain of evidence the three inputs agree on the boot, the candidate, the policy, the
generations, the process and its owner (`permit_binds_evidence`).
-/

namespace TrueFamily.Preflight

open Checked JsonValue Sorting

/-! ## Fields -/

/-- `value[name][...]`. -/
def valueAt : Value → List String → Value
  | value, [] => value
  | .obj data, name :: path => valueAt (field data name) path
  | _, _ :: _ => .null

/-- Equal as JSON values, whatever the order of the keys of an object. -/
def SameJson (v w : Value) : Prop := sortKeys v = sortKeys w

theorem isStr_eq {text : Text} {v : Value} : isStr text v = true ↔ v = .str text := by
  cases v <;> simp [isStr]

theorem isInt_eq {number : ℤ} {v : Value} : isInt number v = true ↔ v = .int number := by
  cases v <;> simp [isInt]

theorem eq_of_sameLeaf {v w : Value} (h : sameLeaf v w = true) : v = w := by
  cases v <;> cases w <;> simp_all [sameLeaf]

theorem field_of_hasExactValues {data : List (Text × Value)} {expected : List (String × Value)}
    (h : hasExactValues data expected = true) {entry : String × Value} (hmem : entry ∈ expected) :
    field data entry.1 = entry.2 :=
  eq_of_sameLeaf (List.all_eq_true.1 h entry hmem)

theorem requirePattern_eq_ok {pattern : Text → Bool} {value : Value} {code : PreflightErrorCode}
    {text : Text} (h : requirePattern pattern value code = .ok text) : value = .str text := by
  unfold requirePattern at h
  split at h
  · simp only [bind_unit_eq_ok, pure_eq_ok] at h
    rw [h.2]
  · cases h

theorem requirePositiveInteger_eq_ok {value : Value} {code : PreflightErrorCode} {number : ℤ}
    (h : requirePositiveInteger value code = .ok number) : value = .int number := by
  simp only [requirePositiveInteger, bind_eq_ok, exists_unit, check_eq_ok, pure_eq_ok,
    requireSafeInteger_eq_ok] at h
  obtain ⟨_, ⟨hvalue, -⟩, -, rfl⟩ := h
  exact hvalue

/-! ## Identities -/

/-- The identity in the order of `_IDENTITY_FIELDS`. -/
def identityOf (value : Value) : Value :=
  .obj (identityFields.map fun name => (chars name, valueAt value [name]))

/-- The fields of an identity are leaves. -/
def IsIdentity (value : Value) : Prop :=
  ∀ name ∈ identityFields, sortKeys (valueAt value [name]) = valueAt value [name]

theorem normalizeIdentity_eq_ok {value : Value} {code : PreflightErrorCode}
    {identity : List (Text × Value)} (h : normalizeIdentity value code = .ok identity) :
    .obj identity = identityOf value ∧ IsIdentity value := by
  simp only [normalizeIdentity, bind_eq_ok] at h
  obtain ⟨data, hdata, ieee, hieee, fingerprint, hfingerprint, _, -, _, -, _, -, hprofile⟩ := h
  have hvalue := requireMapping_eq_ok hdata
  split at hprofile
  · cases hprofile
  · simp only [bind_eq_ok, exists_unit, check_eq_ok, pure_eq_ok, isStr_eq, isInt_eq] at hprofile
    obtain ⟨⟨hmodel, hvendor, hzigbee, hendpoint, hname, hcluster⟩, rfl⟩ := hprofile
    rw [hvalue]
    refine ⟨rfl, ?_⟩
    have hieee' := requirePattern_eq_ok hieee
    have hfingerprint' := requirePattern_eq_ok hfingerprint
    simp only [IsIdentity, identityFields, List.forall_mem_cons, valueAt, hmodel, hvendor, hzigbee,
      hendpoint, hname, hcluster, hieee', hfingerprint', sortKeys, true_and]
    exact fun _ hmem => by cases hmem

/-- Two dictionaries with the same keys that are equal up to their order are equal at every key. -/
theorem eq_of_sameJson_obj {keys : List Text} {f g : Text → Value}
    (h : SameJson (.obj (keys.map fun key => (key, f key)))
      (.obj (keys.map fun key => (key, g key)))) :
    ∀ key ∈ keys, sortKeys (f key) = sortKeys (g key) := by
  intro key hmem
  simp only [SameJson, sortKeys, sortEntries_eq_map, List.map_map, JsonValue.obj.injEq] at h
  have hsame : sortedBy Prod.fst (keys.map fun key => (key, sortKeys (f key)))
      = sortedBy Prod.fst (keys.map fun key => (key, sortKeys (g key))) := h
  have hentry : (key, sortKeys (f key)) ∈ keys.map fun key => (key, sortKeys (g key)) := by
    have hfirst : (key, sortKeys (f key)) ∈
        sortedBy Prod.fst (keys.map fun key => (key, sortKeys (f key))) :=
      mem_sortedBy.2 (List.mem_map.2 ⟨key, hmem, rfl⟩)
    rw [hsame] at hfirst
    exact mem_sortedBy.1 hfirst
  obtain ⟨other, -, heq⟩ := List.mem_map.1 hentry
  obtain ⟨rfl, hvalue⟩ := Prod.mk.inj heq
  exact hvalue.symm

/-- What an object has under a key. -/
def valueUnder : Value → Text → Value
  | .obj data, key => (data.lookup key).getD .null
  | _, _ => .null

theorem identity_eq {v w : Value} (hv : IsIdentity v) (hw : IsIdentity w)
    (h : SameJson (identityOf v) (identityOf w)) :
    ∀ name ∈ identityFields, valueAt v [name] = valueAt w [name] := by
  have hkeys : ∀ v : Value, identityOf v =
      .obj ((identityFields.map chars).map fun key => (key, valueUnder v key)) := by
    intro v
    rw [identityOf, List.map_map]
    cases v <;> rfl
  rw [hkeys v, hkeys w] at h
  intro name hmem
  have hsorted := eq_of_sameJson_obj h (chars name) (List.mem_map_of_mem hmem)
  have hfield : ∀ v : Value, valueAt v [name] = valueUnder v (chars name) := by
    intro v
    cases v <;> rfl
  rw [← hv name hmem, ← hw name hmem, hfield v, hfield w]
  exact hsorted

/-! ## What the reports say about their snapshots -/

section

variable [Sha256]

theorem normalizeCandidateScope_eq_ok {candidate : List (Text × Value)} {code : PreflightErrorCode}
    {normalized : CandidateScope} {identityDigest scopeDigest : Text}
    (h : normalizeCandidateScope candidate code = .ok (normalized, identityDigest, scopeDigest)) :
    IsIdentity (field candidate "identity")
      ∧ Everywhere IsJson (identityOf (field candidate "identity"))
      ∧ identityDigest
        = hexdigest (valueFrame (identityOf (field candidate "identity"))
          candidateIdentityDigestDomain) := by
  simp only [normalizeCandidateScope, bind_eq_ok, exists_unit, pure_eq_ok, Prod.mk.injEq] at h
  obtain ⟨_, -, _, -, _, -, identity, hidentity, -, digest, hdigest, _, -, -, rfl, -⟩ := h
  obtain ⟨hnormal, hleaves⟩ := normalizeIdentity_eq_ok hidentity
  rw [hnormal] at hdigest
  exact ⟨hleaves, digest_eq_ok hdigest⟩

/-- What a deployment report says about its snapshot. -/
structure DeploymentReported (snapshot : Value) (report : DeploymentAttestation) : Prop where
  isJson : Everywhere IsJson snapshot
  snapshotDigest : report.snapshotDigest = hexdigest (valueFrame snapshot deploymentDigestDomain)
  isIdentity : IsIdentity (valueAt snapshot ["candidate_scope", "identity"])
  identityIsJson : Everywhere IsJson (identityOf (valueAt snapshot ["candidate_scope", "identity"]))
  identityDigest : report.candidateIdentityDigest
    = hexdigest (valueFrame (identityOf (valueAt snapshot ["candidate_scope", "identity"]))
      candidateIdentityDigestDomain)
  epoch : valueAt snapshot ["lifecycle", "collection_epoch_digest"]
    = .str report.collectionEpochDigest
  process : valueAt snapshot ["lifecycle", "process_instance_digest"]
    = .str report.processInstanceDigest
  owner : valueAt snapshot ["lifecycle", "expected_owner_digest"]
    = .str report.expectedOwnerDigest
  configurationGeneration : valueAt snapshot ["fence", "configuration_generation"]
    = .int report.configurationGeneration
  configurationDigest : valueAt snapshot ["fence", "configuration_digest"]
    = .str report.configurationDigest
  aclGeneration : valueAt snapshot ["fence", "acl_generation"] = .int report.aclGeneration
  aclDigest : valueAt snapshot ["fence", "acl_digest"] = .str report.aclDigest

theorem reportDeployment_reported {data : List (Text × Value)} {code : PreflightErrorCode}
    {report : DeploymentAttestation} (h : reportDeployment data code = .ok report) :
    DeploymentReported (.obj data) report := by
  simp only [reportDeployment, bind_eq_ok, exists_unit, check_eq_ok, pure_eq_ok] at h
  obtain ⟨candidate, hcandidate, ⟨normalized, identityDigest, scopeDigest⟩, hscope, plan, -, -,
    lifecycle, hlifecycle, epoch, hepoch, process, hprocess, owner, -, howner, fence, hfence,
    configurationGeneration, hconfigurationGeneration, configurationDigest, hconfigurationDigest,
    aclGeneration, haclGeneration, haclDigest, _, -, snapshotDigest, hsnapshotDigest, -, rfl⟩ := h
  have hcandidate' := requireMapping_eq_ok hcandidate
  have hlifecycle' := requireMapping_eq_ok hlifecycle
  have hfence' := requireMapping_eq_ok hfence
  obtain ⟨hidentity, hidentityJson, hidentityDigest⟩ := normalizeCandidateScope_eq_ok hscope
  obtain ⟨hjson, hdigest⟩ := digest_eq_ok hsnapshotDigest
  refine ⟨hjson, hdigest, ?_, ?_, ?_, ?_, ?_, ?_, ?_, ?_, ?_, ?_⟩
  all_goals simp only [valueAt, hcandidate', hlifecycle', hfence']
  · exact hidentity
  · exact hidentityJson
  · exact hidentityDigest
  · exact requirePattern_eq_ok hepoch
  · exact requirePattern_eq_ok hprocess
  · exact isStr_eq.1 howner
  · exact requirePositiveInteger_eq_ok hconfigurationGeneration
  · exact requirePattern_eq_ok hconfigurationDigest
  · exact requirePositiveInteger_eq_ok haclGeneration
  · exact isStr_eq.1 haclDigest

theorem requirePrearmCandidate_eq_ok {value : Value} {code : PreflightErrorCode}
    {identityDigest scopeDigest : Text} {plan : ProbeAclPlan}
    (h : requirePrearmCandidate value code = .ok (identityDigest, scopeDigest, plan)) :
    IsIdentity (valueAt value ["identity"])
      ∧ Everywhere IsJson (identityOf (valueAt value ["identity"]))
      ∧ identityDigest = hexdigest (valueFrame (identityOf (valueAt value ["identity"]))
        candidateIdentityDigestDomain) := by
  simp only [requirePrearmCandidate, bind_eq_ok, exists_unit, pure_eq_ok, Prod.mk.injEq] at h
  obtain ⟨candidate, hcandidate, ⟨_, _, _⟩, hscope, -, -, _, -, -, -, _, -, rfl, -, -⟩ := h
  rw [requireMapping_eq_ok hcandidate]
  exact normalizeCandidateScope_eq_ok hscope

theorem requireSingleOwner_eq_ok {value : Value} {deployment : DeploymentAttestation}
    {pathDigest : Text} {code : PreflightErrorCode}
    (h : requireSingleOwner value deployment pathDigest code = .ok ()) :
    ∃ owner, value = .arr [owner]
      ∧ valueAt owner ["owner_digest"] = .str deployment.expectedOwnerDigest
      ∧ valueAt owner ["collection_epoch_digest"] = .str deployment.collectionEpochDigest
      ∧ valueAt owner ["process_instance_digest"] = .str deployment.processInstanceDigest := by
  unfold requireSingleOwner at h
  split at h
  · rename_i item
    simp only [bind_eq_ok, check_eq_ok] at h
    obtain ⟨owner, howner, hvalues⟩ := h
    have hfield := fun entry hmem => @field_of_hasExactValues _ _ hvalues entry hmem
    refine ⟨item, rfl, ?_⟩
    rw [requireMapping_eq_ok howner]
    exact ⟨hfield ("owner_digest", _) (by simp [ownerValues]),
      hfield ("collection_epoch_digest", _) (by simp [ownerValues]),
      hfield ("process_instance_digest", _) (by simp [ownerValues])⟩
  · cases h

/-- What a pre-arm report says about its snapshot and the deployment it was read against. -/
structure PrearmReported (deployment : DeploymentAttestation) (snapshot : Value)
    (report : PreArmAttestation) : Prop where
  isJson : Everywhere IsJson snapshot
  snapshotDigest : report.snapshotDigest = hexdigest (valueFrame snapshot prearmDigestDomain)
  deploymentSnapshotDigest : report.deploymentSnapshotDigest = deployment.snapshotDigest
  isIdentity : IsIdentity (valueAt snapshot ["candidate", "identity"])
  identityIsJson : Everywhere IsJson (identityOf (valueAt snapshot ["candidate", "identity"]))
  identityDigest : report.candidateIdentityDigest
    = hexdigest (valueFrame (identityOf (valueAt snapshot ["candidate", "identity"]))
      candidateIdentityDigestDomain)
  sameIdentity : report.candidateIdentityDigest = deployment.candidateIdentityDigest
  lifecycle : ∀ entry ∈ prearmLifecycleValues deployment,
    valueAt snapshot ["lifecycle", entry.1] = entry.2
  fence : ∀ entry ∈ prearmFenceValues deployment, valueAt snapshot ["fence", entry.1] = entry.2
  bootBefore : valueAt snapshot ["boot", "boot_id_before"] = .str report.bootId
  bootAfter : valueAt snapshot ["boot", "boot_id_after"] = .str report.bootId
  owners : ∀ name ∈ ["loaders", "journal_owners"], ∃ owner, valueAt snapshot [name] = .arr [owner]
    ∧ valueAt owner ["owner_digest"] = .str deployment.expectedOwnerDigest
    ∧ valueAt owner ["collection_epoch_digest"] = .str deployment.collectionEpochDigest
    ∧ valueAt owner ["process_instance_digest"] = .str deployment.processInstanceDigest

omit [Sha256] in
theorem requireStableBoot_eq_ok {value : Value} {code : PreflightErrorCode} {bootId : Text}
    (h : requireStableBoot value code = .ok bootId) :
    valueAt value ["boot_id_before"] = .str bootId
      ∧ valueAt value ["boot_id_after"] = .str bootId := by
  simp only [requireStableBoot, bind_eq_ok, exists_unit, check_eq_ok, pure_eq_ok] at h
  obtain ⟨boot, hboot, before, hbefore, hafter, _, -, -, rfl⟩ := h
  rw [requireMapping_eq_ok hboot]
  exact ⟨requirePattern_eq_ok hbefore, isStr_eq.1 hafter⟩

theorem reportPrearm_reported {deployment : DeploymentAttestation} {data : List (Text × Value)}
    {code : PreflightErrorCode} {report : PreArmAttestation}
    (h : reportPrearm deployment data code = .ok report) :
    PrearmReported deployment (.obj data) report := by
  simp only [reportPrearm, bind_eq_ok, exists_unit, check_eq_ok, pure_eq_ok] at h
  obtain ⟨lifecycle, hlifecycle, hlifecycleValues, _, -, -, fence, hfence, hfenceValues, bootId,
    hboot, -, hloaders, howners, -, ⟨identityDigest, scopeDigest, plan⟩, hcandidate,
    ⟨hidentitySame, -, -⟩, -, -, _, -, snapshotDigest, hsnapshotDigest, -, rfl⟩ := h
  obtain ⟨hidentity, hidentityJson, hidentityDigest⟩ := requirePrearmCandidate_eq_ok hcandidate
  obtain ⟨hbefore, hafter⟩ := requireStableBoot_eq_ok hboot
  obtain ⟨hjson, hdigest⟩ := digest_eq_ok hsnapshotDigest
  have hlifecycle' := requireMapping_eq_ok hlifecycle
  have hfence' := requireMapping_eq_ok hfence
  refine ⟨hjson, hdigest, rfl, hidentity, hidentityJson, hidentityDigest, hidentitySame,
    fun entry hmem => ?_, fun entry hmem => ?_, hbefore, hafter, ?_⟩
  · simp only [valueAt, hlifecycle']
    exact field_of_hasExactValues hlifecycleValues hmem
  · simp only [valueAt, hfence']
    exact field_of_hasExactValues hfenceValues hmem
  · simp only [List.forall_mem_cons]
    exact ⟨requireSingleOwner_eq_ok hloaders, requireSingleOwner_eq_ok howners,
      fun _ hmem => by cases hmem⟩

omit [Sha256] in
/-- What a normalized request says about the one that was parsed. -/
theorem normalizeArmRequest_reported {value : Value} {prearm : PreArmAttestation} {t : ℤ}
    {request : ArmRequest} (h : normalizeArmRequest value prearm t = .ok request) :
    valueAt value ["boot_id"] = .str prearm.bootId ∧ IsIdentity (valueAt value ["candidate"])
      ∧ .obj request.candidate = identityOf (valueAt value ["candidate"]) := by
  simp only [normalizeArmRequest, bind_eq_ok, exists_unit, check_eq_ok, pure_eq_ok] at h
  obtain ⟨-, data, hdata, -, bootId, hbootId, _, -, _, -, _, -, hboot, identity, hidentity, _, -, _,
    -, _, -, _, -, -, _, -, -, _, -, -, rfl⟩ := h
  rw [requireMapping_eq_ok hdata]
  obtain ⟨hnormal, hleaves⟩ := normalizeIdentity_eq_ok hidentity
  refine ⟨?_, hleaves, hnormal⟩
  rw [← hboot]
  exact requirePattern_eq_ok hbootId

theorem permitArm_reported {prearmSnapshot : Value} {text : Text} {prearm : PreArmAttestation}
    {request : ArmRequest} {permit : ProbeArmPermit}
    (h : permitArm prearmSnapshot text prearm request = .ok permit) :
    permit.deploymentSnapshotDigest = prearm.deploymentSnapshotDigest
      ∧ permit.prearmSnapshotDigest = prearm.snapshotDigest
      ∧ permit.canonicalPayloadDigest = hexdigest (wireFrame text armWireDigestDomain)
      ∧ Everywhere IsJson (.obj request.candidate)
      ∧ prearm.candidateIdentityDigest
        = hexdigest (valueFrame (.obj request.candidate) candidateIdentityDigestDomain) := by
  simp only [permitArm, bind_eq_ok, exists_unit, check_eq_ok, pure_eq_ok] at h
  obtain ⟨_, -, -, identityDigest, hidentityDigest, hsame, _, -, _, -, _, -, _, -, -, _, -, -,
      rfl⟩ :=
    h
  obtain ⟨hjson, hdigest⟩ := digest_eq_ok hidentityDigest
  exact ⟨rfl, rfl, rfl, hjson, by rw [← hsame, hdigest]⟩

end

/-! ## The chain of evidence -/

/-- The request that `authorize_arm` parses. -/
def parsedRequest (text : Text) : Value :=
  match parseCanonicalMapping text maxSnapshotJsonBytes with
  | .ok value => value
  | .error _ => .null

/-- The three inputs of a permit agree. -/
structure EvidenceAgrees (deployment prearm request : Value) : Prop where
  bootId : ∀ name ∈ ["boot_id_before", "boot_id_after"],
    valueAt prearm ["boot", name] = valueAt request ["boot_id"]
  identity : ∀ name ∈ identityFields,
    valueAt request ["candidate", name] = valueAt prearm ["candidate", "identity", name]
      ∧ valueAt prearm ["candidate", "identity", name]
        = valueAt deployment ["candidate_scope", "identity", name]
  configurationGeneration :
    ∀ name ∈ ["configuration_generation_before", "configuration_generation_after"],
      valueAt prearm ["fence", name] = valueAt deployment ["fence", "configuration_generation"]
  configurationDigest : ∀ name ∈ ["configuration_digest_before", "configuration_digest_after"],
    valueAt prearm ["fence", name] = valueAt deployment ["fence", "configuration_digest"]
  aclGeneration : ∀ name ∈ ["acl_generation_before", "acl_generation_after"],
    valueAt prearm ["fence", name] = valueAt deployment ["fence", "acl_generation"]
  aclDigest : ∀ name ∈ ["acl_digest_before", "acl_digest_after"],
    valueAt prearm ["fence", name] = valueAt deployment ["fence", "acl_digest"]
  lifecycle : ∀ name ∈ lifecycleFields,
    valueAt prearm ["lifecycle", name] = valueAt deployment ["lifecycle", name]
  owners : ∀ name ∈ ["loaders", "journal_owners"], ∃ owner, valueAt prearm [name] = .arr [owner]
    ∧ valueAt owner ["owner_digest"] = valueAt deployment ["lifecycle", "expected_owner_digest"]
    ∧ valueAt owner ["collection_epoch_digest"]
      = valueAt deployment ["lifecycle", "collection_epoch_digest"]
    ∧ valueAt owner ["process_instance_digest"]
      = valueAt deployment ["lifecycle", "process_instance_digest"]

/-- The bytes of an identity that are hashed. -/
def identityFrame (value : Value) : List ℕ :=
  valueFrame (identityOf value) candidateIdentityDigestDomain

/-- What is hashed of the evidence and compared by its digest. -/
def hashedInputs (deployment prearm : Value) (text : Text) : List (List ℕ) :=
  [valueFrame deployment deploymentDigestDomain, valueFrame prearm prearmDigestDomain,
    wireFrame text armWireDigestDomain,
    identityFrame (valueAt deployment ["candidate_scope", "identity"]),
    identityFrame (valueAt prearm ["candidate", "identity"]),
    identityFrame (valueAt (parsedRequest text) ["candidate"])]

theorem valueAt_cons {v : Value} (names : List String) {name : String} (h : names ≠ []) :
    valueAt v (names ++ [name]) = valueAt (valueAt v names) [name] := by
  induction names generalizing v with
  | nil => exact absurd rfl h
  | cons first names ih =>
    cases v with
    | obj data =>
      cases names with
      | nil => rfl
      | cons second names => exact ih (by simp)
    | _ => rfl

section

variable [Sha256]

/-- What `authorize_arm` has read when it returns a permit. -/
theorem authorizeArm_reported {deployment prearm : Value} {text : Text} {t : ℤ}
    {permit : ProbeArmPermit} (h : authorizeArm deployment prearm text t = .ok permit) :
    ∃ deploymentReport prearmReport request, DeploymentReported deployment deploymentReport
      ∧ PrearmReported deploymentReport prearm prearmReport
      ∧ normalizeArmRequest (parsedRequest text) prearmReport t = .ok request
      ∧ permitArm prearm text prearmReport request = .ok permit := by
  simp only [authorizeArm, bind_eq_ok, rewrap_eq_ok] at h
  obtain ⟨prearmReport, hprearm, parsed, hparsed, request, hrequest, hpermit⟩ := h
  simp only [validatePrearm, bind_eq_ok, exists_unit] at hprearm
  obtain ⟨deploymentReport, hdeployment, _, -, -, prearmData, hprearmData, -, -, -, -, -, -,
    hreportPrearm⟩ := hprearm
  simp only [attestDeployment, bind_eq_ok, exists_unit] at hdeployment
  obtain ⟨_, -, -, deploymentData, hdeploymentData, -, -, -, -, -, hreportDeployment⟩ := hdeployment
  have hprearmValue := requireMapping_eq_ok hprearmData
  have hdeploymentValue := requireMapping_eq_ok hdeploymentData
  subst hprearmValue hdeploymentValue
  have hrequestValue : parsedRequest text = parsed := by rw [parsedRequest, hparsed]
  rw [← hrequestValue] at hrequest
  exact ⟨deploymentReport, prearmReport, request, reportDeployment_reported hreportDeployment,
    reportPrearm_reported hreportPrearm, hrequest, hpermit⟩

/-- The digests that a permit names are those of the snapshots and of the text. -/
theorem authorizeArm_digests {deployment prearm : Value} {text : Text} {t : ℤ}
    {permit : ProbeArmPermit} (h : authorizeArm deployment prearm text t = .ok permit) :
    permit.deploymentSnapshotDigest = hexdigest (valueFrame deployment deploymentDigestDomain)
      ∧ permit.prearmSnapshotDigest = hexdigest (valueFrame prearm prearmDigestDomain)
      ∧ permit.canonicalPayloadDigest = hexdigest (wireFrame text armWireDigestDomain) := by
  obtain ⟨report, prearmReport, request, hdeployment, hprearm, -, hpermit⟩ :=
    authorizeArm_reported h
  obtain ⟨hsnapshot, hprearmSnapshot, hpayload, -, -⟩ := permitArm_reported hpermit
  refine ⟨?_, ?_, hpayload⟩
  · rw [hsnapshot, hprearm.deploymentSnapshotDigest, hdeployment.snapshotDigest]
  · rw [hprearmSnapshot, hprearm.snapshotDigest]

/-- Where the hash is injective on what was hashed, the inputs of a permit agree. -/
theorem evidenceAgrees {deployment prearm : Value} {text : Text} {t : ℤ} {permit : ProbeArmPermit}
    (h : authorizeArm deployment prearm text t = .ok permit)
    (hinj : Set.InjOn hexdigest {input | input ∈ hashedInputs deployment prearm text}) :
    EvidenceAgrees deployment prearm (parsedRequest text) := by
  obtain ⟨deploymentReport, prearmReport, request, hdeployment, hprearm, hrequest, hpermit⟩ :=
    authorizeArm_reported h
  obtain ⟨hboot, hrequestIdentity, hcandidate⟩ := normalizeArmRequest_reported hrequest
  obtain ⟨-, -, -, hcandidateJson, hcandidateDigest⟩ := permitArm_reported hpermit
  rw [hcandidate] at hcandidateJson hcandidateDigest
  -- equal digests of identities are digests of equal identities
  have hrequestFrame : identityFrame (valueAt (parsedRequest text) ["candidate"])
      = identityFrame (valueAt prearm ["candidate", "identity"]) := by
    refine hinj (by simp [hashedInputs]) (by simp [hashedInputs]) ?_
    rw [identityFrame, identityFrame, ← hcandidateDigest, ← hprearm.identityDigest]
  have hprearmFrame : identityFrame (valueAt prearm ["candidate", "identity"])
      = identityFrame (valueAt deployment ["candidate_scope", "identity"]) := by
    refine hinj (by simp [hashedInputs]) (by simp [hashedInputs]) ?_
    rw [identityFrame, identityFrame, ← hprearm.identityDigest, ← hdeployment.identityDigest,
      hprearm.sameIdentity]
  have hrequestSame := identity_eq hrequestIdentity hprearm.isIdentity
    (valueFrame_injective hcandidateJson hprearm.identityIsJson hrequestFrame)
  have hprearmSame := identity_eq hprearm.isIdentity hdeployment.isIdentity
    (valueFrame_injective hprearm.identityIsJson hdeployment.identityIsJson hprearmFrame)
  have hpath : ∀ name, valueAt (parsedRequest text) ["candidate", name]
      = valueAt (valueAt (parsedRequest text) ["candidate"]) [name] := fun name =>
    valueAt_cons ["candidate"] (by simp)
  have hprearmPath : ∀ name, valueAt prearm ["candidate", "identity", name]
      = valueAt (valueAt prearm ["candidate", "identity"]) [name] := fun name =>
    valueAt_cons ["candidate", "identity"] (by simp)
  have hdeploymentPath : ∀ name, valueAt deployment ["candidate_scope", "identity", name]
      = valueAt (valueAt deployment ["candidate_scope", "identity"]) [name] := fun name =>
    valueAt_cons ["candidate_scope", "identity"] (by simp)
  have hfence := hprearm.fence
  have hlifecycle := hprearm.lifecycle
  simp only [prearmFenceValues, List.forall_mem_cons] at hfence
  simp only [prearmLifecycleValues, List.forall_mem_cons] at hlifecycle
  obtain ⟨hfence₁, hfence₂, hfence₃, hfence₄, hfence₅, hfence₆, hfence₇, hfence₈, -⟩ := hfence
  obtain ⟨hlifecycle₁, hlifecycle₂, hlifecycle₃, -⟩ := hlifecycle
  constructor
  · simp [hprearm.bootBefore, hprearm.bootAfter, hboot]
  · intro name hmem
    rw [hpath, hprearmPath, hdeploymentPath]
    exact ⟨hrequestSame name hmem, hprearmSame name hmem⟩
  · simp [hfence₁, hfence₂, hdeployment.configurationGeneration]
  · simp [hfence₃, hfence₄, hdeployment.configurationDigest]
  · simp [hfence₅, hfence₆, hdeployment.aclGeneration]
  · simp [hfence₇, hfence₈, hdeployment.aclDigest]
  · simp [lifecycleFields, hlifecycle₁, hlifecycle₂, hlifecycle₃, hdeployment.epoch,
      hdeployment.process, hdeployment.owner]
  · rw [hdeployment.owner, hdeployment.epoch, hdeployment.process]
    exact hprearm.owners

/-- Where SHA-256 is injective on what was hashed for two authorized chains of evidence, equal
permits come from one request text and from snapshots that are equal as JSON values; and in each
chain the three inputs agree on the boot, the candidate's identity, the policy, the generations, the
process, the epoch and the owner. -/
theorem permit_binds_evidence {deployment prearm deployment' prearm' : Value} {text text' : Text}
    {t t' : ℤ} {permit permit' : ProbeArmPermit}
    (h : authorizeArm deployment prearm text t = .ok permit)
    (h' : authorizeArm deployment' prearm' text' t' = .ok permit')
    (hinj : Set.InjOn hexdigest {input | input ∈ hashedInputs deployment prearm text
      ∨ input ∈ hashedInputs deployment' prearm' text'}) :
    (permit = permit' → text = text' ∧ SameJson deployment deployment' ∧ SameJson prearm prearm')
      ∧ EvidenceAgrees deployment prearm (parsedRequest text)
      ∧ EvidenceAgrees deployment' prearm' (parsedRequest text') := by
  refine ⟨?_, evidenceAgrees h (hinj.mono fun _ => Or.inl), evidenceAgrees h'
    (hinj.mono fun _ => Or.inr)⟩
  rintro rfl
  obtain ⟨hsnapshot, hprearmSnapshot, hpayload⟩ := authorizeArm_digests h
  obtain ⟨hsnapshot', hprearmSnapshot', hpayload'⟩ := authorizeArm_digests h'
  obtain ⟨report, prearmReport, request, hdeployment, hprearm, -, -⟩ := authorizeArm_reported h
  obtain ⟨report', prearmReport', request', hdeployment', hprearm', -, -⟩ :=
    authorizeArm_reported h'
  have htext : wireFrame text armWireDigestDomain = wireFrame text' armWireDigestDomain :=
    hinj (Or.inl (by simp [hashedInputs])) (Or.inr (by simp [hashedInputs]))
      (by rw [← hpayload, ← hpayload'])
  have hdeploymentFrame : valueFrame deployment deploymentDigestDomain
      = valueFrame deployment' deploymentDigestDomain :=
    hinj (Or.inl (by simp [hashedInputs])) (Or.inr (by simp [hashedInputs]))
      (by rw [← hsnapshot, ← hsnapshot'])
  have hprearmFrame : valueFrame prearm prearmDigestDomain
      = valueFrame prearm' prearmDigestDomain :=
    hinj (Or.inl (by simp [hashedInputs])) (Or.inr (by simp [hashedInputs]))
      (by rw [← hprearmSnapshot, ← hprearmSnapshot'])
  exact ⟨wireFrame_injective htext,
    valueFrame_injective hdeployment.isJson hdeployment'.isJson hdeploymentFrame,
    valueFrame_injective hprearm.isJson hprearm'.isJson hprearmFrame⟩

end

/-- The chain of evidence with itself; the three identities are hashed from the same bytes. -/
theorem sample_permit_binds :
    EvidenceAgrees (@sampleDeployment checksum) (@samplePrearm checksum)
      (parsedRequest sampleRequestText) := by
  obtain ⟨permit, hpermit, hdistinct⟩ := sample_permit
  obtain ⟨hsnapshot, hprearmSnapshot, hpayload⟩ := @authorizeArm_digests checksum _ _ _ _ _ hpermit
  rw [hsnapshot, hprearmSnapshot, hpayload] at hdistinct
  have hdeploymentIdentity : identityFrame
      (valueAt (@sampleDeployment checksum) ["candidate_scope", "identity"])
      = valueFrame (.obj sampleIdentity) candidateIdentityDigestDomain := by decide +kernel
  have hprearmIdentity : identityFrame
      (valueAt (@samplePrearm checksum) ["candidate", "identity"])
      = valueFrame (.obj sampleIdentity) candidateIdentityDigestDomain := by decide +kernel
  have hrequestIdentity : identityFrame (valueAt (parsedRequest sampleRequestText) ["candidate"])
      = valueFrame (.obj sampleIdentity) candidateIdentityDigestDomain := by decide +kernel
  have hinj := @List.inj_on_of_nodup_map _ _ (@hexdigest checksum)
    [valueFrame (@sampleDeployment checksum) deploymentDigestDomain,
      valueFrame (@samplePrearm checksum) prearmDigestDomain,
      wireFrame sampleRequestText armWireDigestDomain,
      valueFrame (.obj sampleIdentity) candidateIdentityDigestDomain] hdistinct
  have hsubset : ∀ input ∈ @hashedInputs (@sampleDeployment checksum) (@samplePrearm checksum)
      sampleRequestText, input ∈ [valueFrame (@sampleDeployment checksum) deploymentDigestDomain,
        valueFrame (@samplePrearm checksum) prearmDigestDomain,
        wireFrame sampleRequestText armWireDigestDomain,
        valueFrame (.obj sampleIdentity) candidateIdentityDigestDomain] := by
    simp [hashedInputs, hdeploymentIdentity, hprearmIdentity, hrequestIdentity]
  refine (@permit_binds_evidence checksum _ _ _ _ _ _ _ _ _ _ hpermit hpermit ?_).2.1
  rintro x (hx | hx) y (hy | hy) hsame <;>
    exact hinj (hsubset x hx) (hsubset y hy) hsame

end TrueFamily.Preflight
