import TrueFamily.Preflight.Arm

/-!
# When a permit is valid

The clock enters `authorize_arm` through five checks: the freshness of the two snapshots, the
nesting of their windows and the two deadlines of the request. Each function's spec says that the
clock decides only whether it returns, not what, and in which interval it does; together they make
the permit valid on one interval that ends at the deadline of the request (`permit_interval`).
-/

namespace TrueFamily.Preflight

open Checked JsonValue

/-! ## The checks of the clock -/

def SafeInteger (number : ℤ) : Prop := 0 ≤ number ∧ number ≤ maxSafeInteger

/-- The clock is inside a window that is not too long. -/
def InWindow (observed expires maximum nowMs : ℤ) : Prop :=
  observed ≤ nowMs ∧ nowMs < expires ∧ expires - observed ≤ maximum ∧ nowMs - observed < maximum

theorem requireSafeInteger_eq_ok {value : Value} {code : PreflightErrorCode} {number : ℤ} :
    requireSafeInteger value code = .ok number ↔ value = .int number ∧ SafeInteger number := by
  unfold requireSafeInteger
  split
  · rename_i i
    simp only [bind_unit_eq_ok, check_eq_ok, pure_eq_ok, JsonValue.int.injEq]
    constructor
    · rintro ⟨hsafe, rfl⟩
      exact ⟨rfl, hsafe⟩
    · rintro ⟨rfl, hsafe⟩
      exact ⟨hsafe, rfl⟩
  · rename_i hne
    constructor
    · intro h
      cases h
    · rintro ⟨rfl, -⟩
      exact absurd rfl (hne number)

theorem requireMapping_eq_ok {value : Value} {fields : List String} {code : PreflightErrorCode}
    {data : List (Text × Value)} (h : requireMapping value fields code = .ok data) :
    value = .obj data := by
  unfold requireMapping at h
  split at h
  · simp only [bind_unit_eq_ok, pure_eq_ok] at h
    rw [h.2]
  · cases h

theorem requireFreshWindow_eq_ok {observedAtMs expiresAtMs : Value} {nowMs maximum : ℤ}
    {code : PreflightErrorCode} :
    requireFreshWindow observedAtMs expiresAtMs nowMs maximum code = .ok () ↔
      ∃ observed expires, observedAtMs = .int observed ∧ SafeInteger observed
        ∧ expiresAtMs = .int expires ∧ SafeInteger expires
        ∧ InWindow observed expires maximum nowMs := by
  simp only [requireFreshWindow, bind_eq_ok, exists_unit, check_eq_ok, requireSafeInteger_eq_ok,
    InWindow]
  constructor
  · rintro ⟨observed, ⟨hobserved, hsafe⟩, expires, ⟨hexpires, hsafe'⟩, ⟨h₁, h₂⟩, h₃, h₄⟩
    exact ⟨observed, expires, hobserved, hsafe, hexpires, hsafe', h₁, h₂, h₃, h₄⟩
  · rintro ⟨observed, expires, hobserved, hsafe, hexpires, hsafe', h₁, h₂, h₃, h₄⟩
    exact ⟨observed, ⟨hobserved, hsafe⟩, expires, ⟨hexpires, hsafe'⟩, ⟨h₁, h₂⟩, h₃, h₄⟩

theorem requireFutureDeadline_eq_ok {value : Value} {nowMs maximum : ℤ}
    {code : PreflightErrorCode} {deadline : ℤ} :
    requireFutureDeadline value nowMs maximum code = .ok deadline ↔
      value = .int deadline ∧ SafeInteger deadline ∧ nowMs < deadline
        ∧ deadline ≤ nowMs + maximum := by
  simp only [requireFutureDeadline, bind_eq_ok, exists_unit, check_eq_ok, pure_eq_ok,
    requireSafeInteger_eq_ok]
  constructor
  · rintro ⟨number, ⟨hvalue, hsafe⟩, hwindow, rfl⟩
    exact ⟨hvalue, hsafe, hwindow⟩
  · rintro ⟨hvalue, hsafe, hwindow⟩
    exact ⟨deadline, ⟨hvalue, hsafe⟩, hwindow, rfl⟩

theorem intField_eq {data : List (Text × Value)} {name : String} {number : ℤ}
    (h : field data name = .int number) : intField data name = number := by
  rw [intField, h]

/-! ## The reports -/

section

variable [Sha256]

theorem reportDeployment_times {data : List (Text × Value)} {code : PreflightErrorCode}
    {report : DeploymentAttestation} (h : reportDeployment data code = .ok report) :
    report.observedAtMs = intField data "observed_at_ms"
      ∧ report.expiresAtMs = intField data "expires_at_ms" := by
  simp only [reportDeployment, bind_eq_ok, exists_unit, pure_eq_ok] at h
  obtain ⟨_, -, _, -, _, -, -, _, -, _, -, _, -, _, -, -, _, -, _, -, _, -, _, -, -, _, -, _, -, -,
    rfl⟩ := h
  exact ⟨rfl, rfl⟩

theorem reportPrearm_times {deployment : DeploymentAttestation} {data : List (Text × Value)}
    {code : PreflightErrorCode} {report : PreArmAttestation}
    (h : reportPrearm deployment data code = .ok report) :
    report.observedAtMs = intField data "observed_at_ms"
      ∧ report.expiresAtMs = intField data "expires_at_ms" := by
  simp only [reportPrearm, bind_eq_ok, exists_unit, pure_eq_ok] at h
  obtain ⟨_, -, -, _, -, -, _, -, -, _, -, -, -, -, -, _, -, -, -, -, _, -, _, -, -, rfl⟩ := h
  exact ⟨rfl, rfl⟩

/-- The snapshot and its report have one window, and the report is the same throughout it. -/
theorem attestDeployment_window {snapshot : Value} {t : ℤ} {report : DeploymentAttestation}
    (h : attestDeployment snapshot t = .ok report) :
    ∃ data, snapshot = .obj data ∧ field data "expires_at_ms" = .int report.expiresAtMs
      ∧ SafeInteger report.observedAtMs ∧ SafeInteger report.expiresAtMs
      ∧ report.expiresAtMs - report.observedAtMs ≤ maxDeploymentWindowMs
      ∧ ∀ t' report', attestDeployment snapshot t' = .ok report' ↔ report' = report
        ∧ SafeInteger t'
        ∧ InWindow report.observedAtMs report.expiresAtMs maxDeploymentWindowMs t' := by
  have hsame := h
  simp only [attestDeployment, bind_eq_ok, exists_unit, check_eq_ok, requireSafeInteger_eq_ok,
    requireFreshWindow_eq_ok] at hsame
  obtain ⟨_, ⟨-, -⟩, htree, data, hdata, hschema, hmanifest, hprotocol,
    ⟨observed, expires, hobserved, hsafe, hexpires, hsafe', hwindow⟩, hparts, hreport⟩ := hsame
  obtain ⟨htimes, htimes'⟩ := reportDeployment_times hreport
  rw [intField_eq hobserved] at htimes
  rw [intField_eq hexpires] at htimes'
  refine ⟨data, requireMapping_eq_ok hdata, by rw [hexpires, htimes'], by rw [htimes]; exact hsafe,
    by rw [htimes']; exact hsafe', by rw [htimes, htimes']; exact hwindow.2.2.1,
    fun t' report' => ?_⟩
  rw [htimes, htimes']
  simp only [attestDeployment, bind_eq_ok, exists_unit, check_eq_ok, requireSafeInteger_eq_ok,
    requireFreshWindow_eq_ok]
  constructor
  · rintro ⟨_, ⟨hclock, hsafeClock⟩, -, data', hdata', -, -, -,
      ⟨observed', expires', hobserved', -, hexpires', -, hwindow'⟩, -, hreport'⟩
    rw [hdata, Except.ok.injEq] at hdata'
    subst hdata'
    rw [hobserved, JsonValue.int.injEq] at hobserved'
    rw [hexpires, JsonValue.int.injEq] at hexpires'
    rw [hreport, Except.ok.injEq] at hreport'
    rw [JsonValue.int.injEq] at hclock
    subst hobserved' hexpires' hclock
    exact ⟨hreport'.symm, hsafeClock, hwindow'⟩
  · rintro ⟨rfl, hsafeClock, hwindow'⟩
    exact ⟨t', ⟨rfl, hsafeClock⟩, htree, data, hdata, hschema, hmanifest, hprotocol,
      ⟨observed, expires, hobserved, hsafe, hexpires, hsafe', hwindow'⟩, hparts, hreport⟩

/-- A pre-arm report is the same throughout the window of its snapshot, which lies inside the
window of the deployment. -/
theorem validatePrearm_window {prearmSnapshot deploymentSnapshot : Value} {t : ℤ}
    {report : PreArmAttestation}
    (h : validatePrearm prearmSnapshot deploymentSnapshot t = .ok report) :
    ∃ data deployment, prearmSnapshot = .obj data
      ∧ field data "expires_at_ms" = .int report.expiresAtMs
      ∧ attestDeployment deploymentSnapshot t = .ok deployment
      ∧ report.expiresAtMs ≤ deployment.expiresAtMs
      ∧ ∀ t' report', validatePrearm prearmSnapshot deploymentSnapshot t' = .ok report' ↔
        report' = report ∧ report.observedAtMs < t' ∧ t' < report.expiresAtMs := by
  have hsame := h
  simp only [validatePrearm, bind_eq_ok, exists_unit, check_eq_ok, requireSafeInteger_eq_ok,
    requireFreshWindow_eq_ok] at hsame
  obtain ⟨deployment, hdeployment, _, ⟨-, -⟩, htree, data, hdata, hschema, hsnapshot, hmanifest,
    hprotocol, ⟨observed, expires, hobserved, hsafe, hexpires, hsafe', hwindow⟩, hnested,
    hreport⟩ := hsame
  obtain ⟨htimes, htimes'⟩ := reportPrearm_times hreport
  simp only [requireNestedWindow, check_eq_ok, intField_eq hobserved, intField_eq hexpires]
    at hnested
  rw [intField_eq hobserved] at htimes
  rw [intField_eq hexpires] at htimes'
  obtain ⟨-, -, -, hsafeStart, hsafeEnd, hlength, hattest⟩ := attestDeployment_window hdeployment
  refine ⟨data, deployment, requireMapping_eq_ok hdata, by rw [hexpires, htimes'], hdeployment,
    by rw [htimes']; exact hnested.2.2.2, fun t' report' => ?_⟩
  rw [htimes, htimes']
  simp only [validatePrearm, bind_eq_ok, exists_unit, check_eq_ok, requireSafeInteger_eq_ok,
    requireFreshWindow_eq_ok, hattest]
  constructor
  -- nothing but the windows looks at the clock, so the report is the same
  · rintro ⟨_, ⟨rfl, -, -⟩, _, -, -, data', hdata', -, -, -, -, -, hnested', hreport'⟩
    rw [hdata, Except.ok.injEq] at hdata'
    subst hdata'
    rw [hreport, Except.ok.injEq] at hreport'
    simp only [requireNestedWindow, check_eq_ok, intField_eq hobserved, intField_eq hexpires]
      at hnested'
    exact ⟨hreport'.symm, hnested'.2.1, hnested'.2.2.1⟩
  · rintro ⟨rfl, hafter, hbefore⟩
    -- a time in the window of the snapshot is one in the window of the deployment
    have hsafeClock : SafeInteger t' := by
      simp only [SafeInteger] at hsafeStart hsafeEnd ⊢
      omega
    have hinside :
        InWindow deployment.observedAtMs deployment.expiresAtMs maxDeploymentWindowMs t' := by
      simp only [InWindow]
      omega
    have hinside' : InWindow observed expires maxPrearmWindowMs t' := by
      simp only [InWindow] at hwindow ⊢
      omega
    refine ⟨deployment, ⟨rfl, hsafeClock, hinside⟩, t', ⟨rfl, hsafeClock⟩, htree, data, hdata,
      hschema, hsnapshot, hmanifest, hprotocol,
      ⟨observed, expires, hobserved, hsafe, hexpires, hsafe', hinside'⟩, ?_, hreport⟩
    simp only [requireNestedWindow, check_eq_ok, intField_eq hobserved, intField_eq hexpires]
    exact ⟨hnested.1, hafter, hbefore, hnested.2.2.2⟩

omit [Sha256] in
/-- A normalized request is the same as long as both its deadlines lie in their windows. -/
theorem normalizeArmRequest_window {value : Value} {prearm : PreArmAttestation} {t : ℤ}
    {request : ArmRequest} (h : normalizeArmRequest value prearm t = .ok request) :
    ∃ data, value = .obj data ∧ field data "request_deadline_ms" = .int request.requestDeadlineMs
      ∧ request.requestDeadlineMs ≤ prearm.expiresAtMs
      ∧ request.requestDeadlineMs < request.operationDeadlineMs
      ∧ ∀ t' request', normalizeArmRequest value prearm t' = .ok request' ↔ request' = request
        ∧ (t' < request.requestDeadlineMs
          ∧ request.requestDeadlineMs ≤ t' + maxRequestWindowMs)
        ∧ (t' < request.operationDeadlineMs
          ∧ request.operationDeadlineMs ≤ t' + maxOperationWindowMs) := by
  have hsame := h
  simp only [normalizeArmRequest, bind_eq_ok, exists_unit, check_eq_ok, pure_eq_ok,
    requireFutureDeadline_eq_ok] at hsame
  obtain ⟨htree, data, hdata, hvalues, bootId, hbootId, requestId, hrequestId, operationId,
    hoperationId, nonce, hnonce, hboot, identity, hidentity, intended, hintended, targets, htargets,
    first, hfirst, second, hsecond, hdistinct, deadline, ⟨hdeadline, hsafe, -⟩, hexpires,
    operationDeadline, ⟨hoperationDeadline, hsafe', -⟩, horder, rfl⟩ := hsame
  refine ⟨data, requireMapping_eq_ok hdata, hdeadline, hexpires, horder, fun t' request' => ?_⟩
  simp only [normalizeArmRequest, bind_eq_ok, exists_unit, check_eq_ok, pure_eq_ok,
    requireFutureDeadline_eq_ok, htree, hdata, hvalues, hbootId, hrequestId, hoperationId, hnonce,
    hidentity, hintended, htargets, hfirst, hsecond, hdeadline, hoperationDeadline,
    Except.ok.injEq, JsonValue.int.injEq, exists_eq_left', true_and]
  constructor
  · rintro ⟨-, -, deadline', ⟨rfl, -, hwindow⟩, -, operationDeadline', ⟨rfl, -, hwindow'⟩, -, rfl⟩
    exact ⟨rfl, hwindow, hwindow'⟩
  · rintro ⟨rfl, hwindow, hwindow'⟩
    exact ⟨hboot, hdistinct, deadline, ⟨rfl, hsafe, hwindow⟩, hexpires, operationDeadline,
      ⟨rfl, hsafe', hwindow'⟩, horder, rfl⟩

theorem permitArm_expires {prearmSnapshot : Value} {text : Text} {prearm : PreArmAttestation}
    {request : ArmRequest} {permit : ProbeArmPermit}
    (h : permitArm prearmSnapshot text prearm request = .ok permit) :
    permit.expiresAtMs = request.requestDeadlineMs := by
  simp only [permitArm, bind_eq_ok, exists_unit, pure_eq_ok] at h
  obtain ⟨_, -, -, _, -, -, _, -, _, -, _, -, _, -, -, _, -, -, rfl⟩ := h
  rfl

/-! ## The interval -/

/-- The times at which a triple of evidence is authorized, once it is at one, form the interval
that ends at the deadline of the request, and the permit is the same at all of them. -/
theorem authorizeArm_window {deploymentSnapshot prearmSnapshot : Value} {text : Text} {t : ℤ}
    {permit : ProbeArmPermit}
    (h : authorizeArm deploymentSnapshot prearmSnapshot text t = .ok permit) :
    ∃ start, ∀ t' permit',
      authorizeArm deploymentSnapshot prearmSnapshot text t' = .ok permit' ↔
        permit' = permit ∧ start ≤ t' ∧ t' < permit.expiresAtMs := by
  have hsame := h
  simp only [authorizeArm, bind_eq_ok, rewrap_eq_ok] at hsame
  obtain ⟨prearm, hprearm, parsed, hparsed, request, hrequest, hpermit⟩ := hsame
  obtain ⟨-, -, -, -, -, -, hvalidate⟩ := validatePrearm_window hprearm
  obtain ⟨-, -, -, hexpires, horder, hnormalize⟩ := normalizeArmRequest_window hrequest
  refine ⟨max (prearm.observedAtMs + 1) (max (request.requestDeadlineMs - maxRequestWindowMs)
    (request.operationDeadlineMs - maxOperationWindowMs)), fun t' permit' => ?_⟩
  simp only [authorizeArm, bind_eq_ok, rewrap_eq_ok, hvalidate, hparsed, Except.ok.injEq,
    exists_eq_left', max_le_iff]
  rw [permitArm_expires hpermit]
  constructor
  · rintro ⟨_, ⟨rfl, hafter, -⟩, request', hrequest', hpermit'⟩
    obtain ⟨rfl, hdeadline, hoperation⟩ := (hnormalize t' request').1 hrequest'
    rw [hpermit, Except.ok.injEq] at hpermit'
    exact ⟨hpermit'.symm, ⟨by omega, by omega, by omega⟩, hdeadline.1⟩
  · rintro ⟨rfl, ⟨hafter, hdeadline, hoperation⟩, hbefore⟩
    refine ⟨prearm, ⟨rfl, by omega, by omega⟩, request, ?_, hpermit⟩
    exact (hnormalize t' request).2 ⟨rfl, ⟨hbefore, by omega⟩, by omega, by omega⟩

/-- The deadlines of an authorized triple are nested. -/
theorem authorizeArm_deadlines {deploymentSnapshot prearmSnapshot : Value} {text : Text} {t : ℤ}
    {permit : ProbeArmPermit}
    (h : authorizeArm deploymentSnapshot prearmSnapshot text t = .ok permit) :
    ∃ deploymentData prearmData requestData deploymentExpires prearmExpires,
      deploymentSnapshot = .obj deploymentData ∧ prearmSnapshot = .obj prearmData
      ∧ parseCanonicalMapping text maxSnapshotJsonBytes = .ok (.obj requestData)
      ∧ field deploymentData "expires_at_ms" = .int deploymentExpires
      ∧ field prearmData "expires_at_ms" = .int prearmExpires
      ∧ field requestData "request_deadline_ms" = .int permit.expiresAtMs
      ∧ permit.expiresAtMs ≤ prearmExpires ∧ prearmExpires ≤ deploymentExpires := by
  simp only [authorizeArm, bind_eq_ok, rewrap_eq_ok] at h
  obtain ⟨prearm, hprearm, parsed, hparsed, request, hrequest, hpermit⟩ := h
  obtain ⟨prearmData, deployment, rfl, hexpires, hdeployment, hnested, -⟩ :=
    validatePrearm_window hprearm
  obtain ⟨deploymentData, rfl, hexpires', -⟩ := attestDeployment_window hdeployment
  obtain ⟨requestData, rfl, hdeadline, hbefore, -⟩ := normalizeArmRequest_window hrequest
  rw [← permitArm_expires hpermit] at hdeadline hbefore
  exact ⟨deploymentData, prearmData, requestData, deployment.expiresAtMs, prearm.expiresAtMs, rfl,
    rfl, hparsed, hexpires', hexpires, hdeadline, hbefore, hnested⟩

/-- A permit that is authorized at one time is authorized, and verified, at every later time before
the deadline of its request; from the deadline on nothing is. The authorized times have no gap,
and the deadline lies within the windows of both snapshots. -/
theorem permit_interval {deploymentSnapshot prearmSnapshot : Value} {text : Text} {t₀ : ℤ}
    {permit : ProbeArmPermit}
    (h : authorizeArm deploymentSnapshot prearmSnapshot text t₀ = .ok permit) :
    (∀ t, t₀ ≤ t → t < permit.expiresAtMs →
        authorizeArm deploymentSnapshot prearmSnapshot text t = .ok permit
          ∧ verifyArmPermit permit deploymentSnapshot prearmSnapshot text t = .ok true)
      ∧ (∀ t, permit.expiresAtMs ≤ t →
        ∃ code, authorizeArm deploymentSnapshot prearmSnapshot text t = .error code)
      ∧ (∀ t₁ t t₂, t₁ ≤ t → t ≤ t₂ →
        (authorizeArm deploymentSnapshot prearmSnapshot text t₁).isOk = true →
        (authorizeArm deploymentSnapshot prearmSnapshot text t₂).isOk = true →
          (authorizeArm deploymentSnapshot prearmSnapshot text t).isOk = true)
      ∧ ∃ deploymentData prearmData requestData deploymentExpires prearmExpires,
        deploymentSnapshot = .obj deploymentData ∧ prearmSnapshot = .obj prearmData
        ∧ parseCanonicalMapping text maxSnapshotJsonBytes = .ok (.obj requestData)
        ∧ field deploymentData "expires_at_ms" = .int deploymentExpires
        ∧ field prearmData "expires_at_ms" = .int prearmExpires
        ∧ field requestData "request_deadline_ms" = .int permit.expiresAtMs
        ∧ permit.expiresAtMs ≤ prearmExpires ∧ prearmExpires ≤ deploymentExpires := by
  obtain ⟨start, hinterval⟩ := authorizeArm_window h
  have hstart := ((hinterval t₀ permit).1 h).2.1
  -- the authorized times are one interval, which starts where the latest window does
  have hisOk : ∀ t, (authorizeArm deploymentSnapshot prearmSnapshot text t).isOk = true ↔
      start ≤ t ∧ t < permit.expiresAtMs := by
    intro t
    constructor
    · intro hok
      cases hauthorize : authorizeArm deploymentSnapshot prearmSnapshot text t with
      | error code =>
        rw [hauthorize] at hok
        cases hok
      | ok permit' => exact ((hinterval t permit').1 hauthorize).2
    · intro htime
      rw [(hinterval t permit).2 ⟨rfl, htime⟩]
      rfl
  refine ⟨fun t hafter hbefore => ?_, fun t hlate => ?_, fun t₁ t t₂ hlow hhigh hok₁ hok₂ => ?_,
    authorizeArm_deadlines h⟩
  · have hsame := (hinterval t permit).2 ⟨rfl, by omega, hbefore⟩
    refine ⟨hsame, ?_⟩
    simp only [verifyArmPermit, bind_eq_ok, exists_unit, check_eq_ok, pure_eq_ok, and_true]
    exact ⟨permit, hsame, rfl⟩
  · cases hauthorize : authorizeArm deploymentSnapshot prearmSnapshot text t with
    | error code => exact ⟨code, rfl⟩
    | ok permit' =>
      have := ((hinterval t permit').1 hauthorize).2.2
      omega
  · rw [hisOk] at hok₁ hok₂ ⊢
    omega

end

theorem sample_permit_expires :
    ∃ permit, @authorizeArm checksum (@sampleDeployment checksum) (@samplePrearm checksum)
        sampleRequestText sampleNow = .ok permit
      ∧ ∃ code, @authorizeArm checksum (@sampleDeployment checksum) (@samplePrearm checksum)
        sampleRequestText permit.expiresAtMs = .error code := by
  obtain ⟨permit, hpermit⟩ := sample_authorized
  exact ⟨permit, hpermit, (@permit_interval checksum _ _ _ _ _ hpermit).2.1 _ (le_refl _)⟩

end TrueFamily.Preflight
