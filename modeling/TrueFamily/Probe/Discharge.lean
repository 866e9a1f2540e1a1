import TrueFamily.Probe.Limits

/-!
# A restore obligation can be discharged

What the validators say about a phase that awaits a proof (`Active`), and the transitions that are
open in it: a restore can be started while attempts and generations remain, and the expected proof
is accepted (`obligation_dischargeable`).
-/

namespace TrueFamily.Probe

open Checked JsonValue TrueFamily.Preflight

namespace ProbeRecoveryRecord

variable {record : ProbeRecoveryRecord}

/-! ## Phases that await a proof -/

/-- The history with the challenge and without the restore. -/
def challenged : List ProbePurpose := [.physicalTarget1, .physicalTarget2, .noop, .challenge]

/-- What `_validate_recovery_phase` says about a record that awaits a proof. -/
structure Active (record : ProbeRecoveryRecord) : Prop where
  phase : ¬ IsTerminal record.phase
  result : record.outcome = none ∧ record.resultId = none ∧ record.cleanupAllowed = false
  notBefore : record.resultNotBeforeMs = 0
  remediation : record.remediationAfterRestore = true → record.phase = .awaitingRestoreResponse
  expected : ∃ expected, record.expectedProof = some expected
    ∧ expected.purpose = purposeOf record.phase
    ∧ expected.target = record.targetOf (purposeOf record.phase)
  deadline : 0 < record.expectedProofDeadlineMs
    ∧ record.expectedProofDeadlineMs ≤ record.operationDeadlineMs
  required : record.restoreRequired = decide (record.phase = .awaitingChallengeResponse
    ∨ record.phase = .awaitingRestoreResponse)
  history : record.purposes ∈ validHistories record.phase
  restoring : record.phase = .awaitingRestoreResponse →
    (1 ≤ record.restoreAttempts ∧ record.restoreAttempts ≤ maxRestoreAttempts)
      ∧ (∀ code ∈ record.failureCode, code ∈ remediationAfterRestoreCodes →
        record.remediationAfterRestore = true)
      ∧ (record.failureCode = none → record.purposes = challenged)
  before : record.phase ≠ .awaitingRestoreResponse →
    record.restoreAttempts = 0 ∧ record.failureCode = none

theorem validateActiveProof_eq_ok : record.validateActiveProof = .ok () ↔
    (∃ expected, record.expectedProof = some expected ∧ expected.purpose = purposeOf record.phase
        ∧ expected.target = record.targetOf (purposeOf record.phase))
      ∧ 0 < record.expectedProofDeadlineMs
      ∧ record.expectedProofDeadlineMs ≤ record.operationDeadlineMs := by
  unfold validateActiveProof
  split
  · rename_i hnone
    rw [hnone]
    simp
  · rename_i expected hsome
    rw [hsome]
    simp only [bind_unit_eq_ok, check_eq_ok, Option.some.injEq, exists_eq_left']
    constructor
    · rintro ⟨hpurpose, hdeadline, htarget⟩
      exact ⟨⟨hpurpose, htarget⟩, hdeadline⟩
    · rintro ⟨⟨hpurpose, htarget⟩, hdeadline⟩
      exact ⟨hpurpose, hdeadline, htarget⟩

theorem active_of_validate (hphase : ¬ IsTerminal record.phase)
    (h : record.validateActive = .ok ()) : Active record := by
  simp only [validateActive, bind_unit_eq_ok, check_eq_ok, validateActiveProof_eq_ok] at h
  obtain ⟨hresult, hnotBefore, hremediation, ⟨hexpected, hdeadline⟩,
    hrequired, hhistory, hrest⟩ := h
  refine ⟨hphase, hresult, hnotBefore, fun hrem => ?_, hexpected, hdeadline, hrequired, hhistory,
    fun hrestore => ?_, fun hother => ?_⟩
  · by_contra hne
    exact hremediation ⟨hne, hrem⟩
  · rw [if_pos hrestore] at hrest
    simp only [bind_unit_eq_ok, check_eq_ok] at hrest
    obtain ⟨hattempts, hsafety, hfallback⟩ := hrest
    refine ⟨hattempts, fun code hcode hmem => ?_, fun hnone => ?_⟩
    · by_contra hfalse
      rw [Bool.not_eq_true] at hfalse
      exact hsafety ⟨⟨code, hcode, hmem⟩, hfalse⟩
    · by_contra hne
      exact hfallback ⟨hne, hnone⟩
  · rw [if_neg hother] at hrest
    simp only [bind_unit_eq_ok, check_eq_ok] at hrest
    exact hrest

theorem Active.validate (h : Active record) : record.validateActive = .ok () := by
  simp only [validateActive, bind_unit_eq_ok, check_eq_ok, validateActiveProof_eq_ok]
  refine ⟨h.result, h.notBefore, fun hbad => hbad.1 (h.remediation hbad.2),
    ⟨h.expected, h.deadline⟩, h.required, h.history, ?_⟩
  by_cases hrestore : record.phase = .awaitingRestoreResponse
  · obtain ⟨hattempts, hsafety, hfallback⟩ := h.restoring hrestore
    rw [if_pos hrestore]
    simp only [bind_unit_eq_ok, check_eq_ok]
    refine ⟨hattempts, ?_, fun hbad => hbad.1 (hfallback hbad.2)⟩
    rintro ⟨⟨code, hcode, hmem⟩, hfalse⟩
    rw [hsafety code hcode hmem] at hfalse
    cases hfalse
  · rw [if_neg hrestore]
    simp only [bind_unit_eq_ok, check_eq_ok]
    exact h.before hrestore

/-! ## Changed records -/

/-- The checks of a sequence that is added to the used ones. -/
theorem used_append {used : List ℤ} {sequence : ℤ} {reserve : ℤ} (hreserve : 0 ≤ reserve)
    (hused : ∀ sequence ∈ used, 0 ≤ sequence ∧ sequence ≤ 0xffff) (hnodup : used.Nodup)
    (hrange : 0 ≤ sequence ∧ sequence ≤ 0xffff) (hfresh : sequence ∉ used)
    (hroom : used.length + 1 + reserve ≤ (maxUsedSequences : ℤ)) :
    (used ++ [sequence]).length ≤ maxUsedSequences
      ∧ (∀ other ∈ used ++ [sequence], 0 ≤ other ∧ other ≤ 0xffff)
      ∧ (used ++ [sequence]).Nodup := by
  refine ⟨?_, ?_, ?_⟩
  · rw [List.length_append, List.length_singleton]
    omega
  · intro other hmem
    rcases List.mem_append.1 hmem with hmem | hmem
    · exact hused other hmem
    · rw [List.mem_singleton.1 hmem]
      exact hrange
  · rw [List.nodup_append]
    refine ⟨hnodup, List.nodup_singleton _, fun a ha b hb => ?_⟩
    rw [List.mem_singleton.1 hb]
    rintro rfl
    exact hfresh ha

theorem ProofFits.mono {other : ProbeRecoveryRecord} {proof : ProbeCommandProof}
    (h : record.ProofFits proof) (htargets : other.targetOf = record.targetOf)
    (hused : ∀ sequence ∈ record.usedSequences, sequence ∈ other.usedSequences) :
    other.ProofFits proof :=
  ⟨h.1, hused _ h.2.1, by rw [htargets]; exact h.2.2⟩

theorem requireNewSequence_eq_ok {used : List ℤ} {sequence reserve : ℤ} (hreserve : 0 ≤ reserve)
    (hrange : 0 ≤ sequence ∧ sequence ≤ 0xfffe) (hfresh : sequence ∉ used)
    (hroom : used.length + 1 + reserve ≤ (maxUsedSequences : ℤ)) :
    requireNewSequence (some sequence) used reserve = .ok sequence := by
  simp only [requireNewSequence, checkNonnegative, bind_unit_eq_ok, check_eq_ok, pure_eq_ok]
  exact ⟨hrange, hfresh, hreserve, hroom, trivial⟩

theorem fullPhaseDeadline_eq_ok {nowMs operationDeadlineMs windowMs : ℤ} (hnow : 0 ≤ nowMs)
    (hwindow : 0 < windowMs) (hfits : nowMs + windowMs ≤ operationDeadlineMs)
    (hsafe : operationDeadlineMs ≤ maxSafeInteger) :
    fullPhaseDeadline nowMs operationDeadlineMs windowMs = .ok (nowMs + windowMs) := by
  simp only [fullPhaseDeadline, checkedAdd, checkSafeMilliseconds, checkPositive, bind_eq_ok,
    exists_unit, check_eq_ok, pure_eq_ok]
  exact ⟨by omega, by omega, hwindow, _, ⟨by omega, hwindow, by omega, rfl⟩, hfits, rfl⟩

theorem boundedPhaseDeadline_eq_ok {nowMs operationDeadlineMs windowMs : ℤ} (hnow : 0 ≤ nowMs)
    (hwindow : 0 < windowMs) (hfits : nowMs + windowMs ≤ operationDeadlineMs)
    (hsafe : operationDeadlineMs ≤ maxSafeInteger) :
    boundedPhaseDeadline nowMs operationDeadlineMs windowMs = .ok (nowMs + windowMs) := by
  have hmin : min (nowMs + windowMs) operationDeadlineMs = nowMs + windowMs := min_eq_left hfits
  simp only [boundedPhaseDeadline, checkedAdd, checkSafeMilliseconds, checkPositive, bind_eq_ok,
    exists_unit, check_eq_ok, pure_eq_ok]
  refine ⟨by omega, by omega, hwindow, _, ⟨by omega, hwindow, by omega, rfl⟩, ?_, ?_⟩
  · rw [hmin]
    omega
  · rw [hmin]

section

variable [Sha256]

theorem transition_eq_ok {changed next : ProbeRecoveryRecord} :
    record.transition changed = .ok next ↔ record.generation < maxGeneration
      ∧ changed.operationDeadlineMs = record.operationDeadlineMs
      ∧ { changed with generation := record.generation + 1 : ProbeRecoveryRecord }.validate = .ok ()
      ∧ next = { changed with generation := record.generation + 1 } := by
  simp only [transition, build, bind_unit_eq_ok, check_eq_ok, pure_eq_ok]

theorem Active.validatePhase (h : Active record) : record.validatePhase = .ok () := by
  unfold ProbeRecoveryRecord.validatePhase
  rw [if_neg h.phase]
  exact h.validate

/-! ## Starting a restore -/

/-- The record that `begin_restore` creates. -/
def restoring (record : ProbeRecoveryRecord) (proofs : List ProbeCommandProof)
    (failureCode : Option Text) (sequence deadline : ℤ) (remediation : Bool) :
    ProbeRecoveryRecord :=
  { record with
    phase := .awaitingRestoreResponse
    generation := record.generation + 1
    expectedProofDeadlineMs := deadline
    usedSequences := record.usedSequences ++ [sequence]
    proofs := proofs
    expectedProof := some ⟨.restore, some sequence, record.intendedTarget⟩
    restoreRequired := true
    remediationAfterRestore := remediation
    restoreAttempts := record.restoreAttempts + 1
    failureCode := failureCode
    outcome := none
    resultId := none
    resultNotBeforeMs := 0
    cleanupAllowed := false }

/-- Whether the restore is to be followed by remediation. -/
def restoreFollowedBy (record : ProbeRecoveryRecord) (failureCode : Option Text) : Bool :=
  record.remediationAfterRestore || decide (record.phase = .remediationRequired)
    || failureCode.any fun code => decide (code ∈ remediationAfterRestoreCodes)

/-- A restore can be started with a fresh sequence while attempts, generations and a full window
remain. -/
theorem beginRestore_succeeds (hs : Scalars record) (hc : Collections record)
    {given : Option (List ProbeCommandProof)} {givenUsed : Option (List ℤ)}
    {proofs : List ProbeCommandProof} {failureCode : Option Text} {sequence nowMs : ℤ}
    (hgiven : given.getD record.proofs = proofs)
    (hgivenUsed : givenUsed.getD record.usedSequences = record.usedSequences)
    (hphase : record.phase ∈ [ProbePhase.awaitingChallengeResponse, .awaitingRestoreResponse,
      .resultPendingAck, .remediationRequired])
    (hgeneration : record.generation < maxGeneration)
    (hattempts : record.restoreAttempts < maxRestoreAttempts)
    (hlength : proofs.length ≤ maxProofs)
    (horder : ((-1) :: (proofs.map ProbeCommandProof.purpose).map ProbePurpose.index).IsChain
      (· < ·))
    (hfits : ∀ proof ∈ proofs, record.ProofFits proof)
    (hhistory : proofs.map ProbeCommandProof.purpose
      ∈ validHistories .awaitingRestoreResponse)
    (hcode : ∀ code ∈ failureCode, code ∈ failureCodes)
    (hfallback : failureCode = none → proofs.map ProbeCommandProof.purpose = challenged)
    (hrange : 0 ≤ sequence ∧ sequence ≤ 0xfffe) (hfresh : sequence ∉ record.usedSequences)
    (hroom : record.usedSequences.length + 1
      + (maxRestoreAttempts - (record.restoreAttempts + 1) + maxUnclaimedSafetyAttempts)
        ≤ (maxUsedSequences : ℤ))
    (hnow : 0 ≤ nowMs) (hwindow : nowMs + directProofWindowMs ≤ record.operationDeadlineMs) :
    record.beginRestore (some sequence) failureCode nowMs given givenUsed none
      = .ok (record.restoring proofs failureCode sequence (nowMs + directProofWindowMs)
        (record.restoreFollowedBy failureCode)) := by
  have hmaxAttempts : maxRestoreAttempts = 3 := rfl
  have hmaxUnclaimed : maxUnclaimedSafetyAttempts = 3 := rfl
  have hdirect : directProofWindowMs = 10000 := rfl
  have hmaxGeneration : maxGeneration = 64 := rfl
  have hlow := hs.restoreAttempts.1
  have hfirst := hs.generation.1
  have hsafe := hs.operationDeadline
  obtain ⟨husedLength, hused, husedNodup⟩ := used_append (by omega) hc.used hc.usedNodup
    ⟨hrange.1, hrange.2.trans (by decide)⟩ hfresh hroom
  have hgenerationSafe : 1 ≤ record.generation + 1 ∧ record.generation + 1 ≤ maxGeneration := by
    omega
  have hdeadlineSafe : SafeInteger (nowMs + directProofWindowMs) :=
    ⟨by omega, hwindow.trans hsafe.2⟩
  have hzeroSafe : SafeInteger 0 := ⟨le_rfl, hsafe.1.trans hsafe.2⟩
  have hattemptsSafe : 0 ≤ record.restoreAttempts + 1
      ∧ record.restoreAttempts + 1 ≤ maxRestoreAttempts := by omega
  -- the state that is built passes its own check, field by field
  have hscalars : Scalars (record.restoring proofs failureCode sequence
      (nowMs + directProofWindowMs) (record.restoreFollowedBy failureCode)) :=
    ⟨hs.schema, hs.build, hs.profile, hs.ieee, hs.setTopic, hs.operationId, hs.boundBootId,
      hgenerationSafe, hs.operationDeadline, hs.lastRequestDeadline, hdeadlineSafe, hzeroSafe,
      hs.intendedTarget, hs.challengeTarget, hattemptsSafe, hcode⟩
  have hcollections : Collections (record.restoring proofs failureCode sequence
      (nowMs + directProofWindowMs) (record.restoreFollowedBy failureCode)) :=
    ⟨hc.firstTarget, hc.secondTarget, hc.targets, hc.consumedLength, hc.consumed, hc.consumedNodup,
      husedLength, hused, husedNodup, hlength, horder,
      fun proof hmem => (hfits proof hmem).mono rfl fun _ hold => List.mem_append_left _ hold,
      fun _ hmem => by cases hmem; exact hs.intendedTarget,
      fun _ hmem other hother => by
        cases hmem
        cases hother
        exact List.mem_append_right _ List.mem_cons_self⟩
  have hawaits : ¬ IsTerminal .awaitingRestoreResponse := by decide
  have hactive : Active (record.restoring proofs failureCode sequence
      (nowMs + directProofWindowMs) (record.restoreFollowedBy failureCode)) :=
    ⟨hawaits, ⟨rfl, rfl, rfl⟩, rfl, fun _ => rfl, ⟨_, rfl, rfl, rfl⟩,
      ⟨by show 0 < nowMs + directProofWindowMs; omega, hwindow⟩, rfl, hhistory,
      fun _ => ⟨⟨by show 1 ≤ record.restoreAttempts + 1; omega, hattemptsSafe.2⟩,
        fun code hmem hsafety => by
          have hsome : failureCode = some code := hmem
          have hany : (failureCode.any fun code => decide (code ∈ remediationAfterRestoreCodes))
              = true := by
            rw [hsome]
            exact decide_eq_true hsafety
          show record.restoreFollowedBy failureCode = true
          rw [restoreFollowedBy, hany, Bool.or_true],
        hfallback⟩,
      fun hother => absurd rfl hother⟩
  -- the window has room for this sequence and the attempts that may follow
  have hcapacity : (record.restoring proofs failureCode sequence
      (nowMs + directProofWindowMs)
      (record.restoreFollowedBy failureCode)).validateSequenceCapacity = .ok () := by
    refine check_eq_ok.2 ?_
    show (((record.usedSequences ++ [sequence]).length : ℕ) : ℤ)
      + (maxRestoreAttempts - (record.restoreAttempts + 1) + maxUnclaimedSafetyAttempts)
        ≤ maxUsedSequences
    rw [List.length_append, List.length_singleton]
    push_cast
    exact hroom
  have hvalid := validate_eq_ok hscalars hcollections (fun _ hmem => by cases hmem)
    hactive.validatePhase hcapacity
  have hcodeChecked : failureCode.elim (.ok ()) validateFailureCode = .ok () := by
    cases hfailure : failureCode with
    | none => rfl
    | some code => exact check_eq_ok.2 (hcode code hfailure)
  simp only [beginRestore, bind_eq_ok, exists_unit, check_eq_ok, hgiven, hgivenUsed,
    transition_eq_ok]
  exact ⟨hphase, hcodeChecked, by omega, sequence,
    requireNewSequence_eq_ok (by omega) hrange hfresh hroom, _,
    fullPhaseDeadline_eq_ok hnow (by decide) hwindow hsafe.2, check_eq_ok.2 hrange, hgeneration,
    trivial, hvalid, rfl⟩

/-! ## The phases before the challenge -/

/-- The record with which a phase before the restore is entered. -/
def entering (record : ProbeRecoveryRecord) (phase : ProbePhase)
    (proofs : List ProbeCommandProof) (usedSequences : List ℤ) (expected : ExpectedProbeProof)
    (deadline : ℤ) (restoreRequired : Bool) : ProbeRecoveryRecord :=
  { record with
    phase := phase
    generation := record.generation + 1
    proofs := proofs
    usedSequences := usedSequences
    expectedProof := some expected
    expectedProofDeadlineMs := deadline
    restoreRequired := restoreRequired }

/-- A phase before the restore can be entered with a longer history. -/
theorem entering_valid (hs : Scalars record) (hc : Collections record)
    (ha : Active record) {phase : ProbePhase} {proofs : List ProbeCommandProof}
    {usedSequences : List ℤ} {expected : ExpectedProbeProof} {deadline : ℤ} {restoreRequired : Bool}
    (hphase : record.phase ≠ .awaitingRestoreResponse)
    (hnext : ¬ IsTerminal phase ∧ phase ≠ .awaitingRestoreResponse)
    (hgeneration : record.generation < maxGeneration)
    (hlength : proofs.length ≤ maxProofs)
    (horder : ((-1) :: (proofs.map ProbeCommandProof.purpose).map ProbePurpose.index).IsChain
      (· < ·))
    (hhistory : proofs.map ProbeCommandProof.purpose ∈ validHistories phase)
    (hused : usedSequences.length ≤ maxUsedSequences
      ∧ (∀ other ∈ usedSequences, 0 ≤ other ∧ other ≤ 0xffff) ∧ usedSequences.Nodup)
    (hfits : ∀ proof ∈ proofs, (0 ≤ proof.target ∧ proof.target ≤ 35)
      ∧ proof.sequence ∈ usedSequences ∧ proof.target = record.targetOf proof.purpose)
    (hexpected : expected.purpose = purposeOf phase
      ∧ expected.target = record.targetOf (purposeOf phase)
      ∧ ∀ sequence ∈ expected.sequence, sequence ∈ usedSequences)
    (hdeadline : 0 < deadline ∧ deadline ≤ record.operationDeadlineMs)
    (hrequired : restoreRequired = decide (phase = .awaitingChallengeResponse
      ∨ phase = .awaitingRestoreResponse))
    (hcapacity : (record.entering phase proofs usedSequences expected deadline
      restoreRequired).validateSequenceCapacity = .ok ()) :
    (record.entering phase proofs usedSequences expected deadline restoreRequired).validate
      = .ok () := by
  have hsafe := hs.operationDeadline
  obtain ⟨hattempts, hfailure⟩ := ha.before hphase
  have htargetRange : 0 ≤ expected.target ∧ expected.target ≤ 35 := by
    rw [hexpected.2.1]
    cases purposeOf phase
    · exact hc.firstTarget
    · exact hc.secondTarget
    · exact hs.intendedTarget
    · exact hs.challengeRange
    · exact hs.intendedTarget
  have hgenerationSafe : 1 ≤ record.generation + 1 ∧ record.generation + 1 ≤ maxGeneration := by
    have := hs.generation
    omega
  have hdeadlineSafe : SafeInteger deadline := ⟨hdeadline.1.le, hdeadline.2.trans hsafe.2⟩
  -- the record with the new phase passes its own check, field by field
  have hscalars : Scalars (record.entering phase proofs usedSequences expected deadline
      restoreRequired) :=
    ⟨hs.schema, hs.build, hs.profile, hs.ieee, hs.setTopic, hs.operationId, hs.boundBootId,
      hgenerationSafe, hs.operationDeadline, hs.lastRequestDeadline, hdeadlineSafe,
      hs.resultNotBefore, hs.intendedTarget, hs.challengeTarget, hs.restoreAttempts, hs.failureCode⟩
  have hcollections : Collections (record.entering phase proofs usedSequences expected deadline
      restoreRequired) :=
    ⟨hc.firstTarget, hc.secondTarget, hc.targets, hc.consumedLength, hc.consumed, hc.consumedNodup,
      hused.1, hused.2.1, hused.2.2, hlength, horder, hfits,
      fun _ hmem => by cases hmem; exact htargetRange,
      fun _ hmem => by cases hmem; exact hexpected.2.2⟩
  have hremediation : record.remediationAfterRestore = true → phase = .awaitingRestoreResponse :=
    fun hrem => absurd (ha.remediation hrem) hphase
  have hactive : Active (record.entering phase proofs usedSequences expected deadline
      restoreRequired) :=
    ⟨hnext.1, ha.result, ha.notBefore, hremediation, ⟨_, rfl, hexpected.1, hexpected.2.1⟩,
      hdeadline, hrequired, hhistory, fun hrestore => absurd hrestore hnext.2,
      fun _ => ⟨hattempts, hfailure⟩⟩
  have hresultId : record.resultId = none := ha.result.2.1
  refine validate_eq_ok hscalars hcollections (fun resultId hmem => ?_) hactive.validatePhase
    hcapacity
  have hsome : record.resultId = some resultId := hmem
  rw [hresultId] at hsome
  cases hsome

/-! ## The end of a restore -/

/-- The record with which the remediation is latched. -/
def latching (record : ProbeRecoveryRecord) (code : Text) : ProbeRecoveryRecord :=
  { record.remediated code false with generation := record.generation + 1 }

/-- A record that awaits the restore can be latched for remediation once the valve is back. -/
theorem toRemediation_succeeds (hs : Scalars record) (hc : Collections record)
    (hphase : record.phase = .awaitingRestoreResponse)
    (hcapacity : record.validateSequenceCapacity = .ok ())
    (hgeneration : record.generation < maxGeneration) {code : Text} (hcode : code ∈ failureCodes) :
    ∃ next, record.toRemediation code false = .ok next := by
  have hmaxAttempts : maxRestoreAttempts = 3 := rfl
  have hmaxUnclaimed : maxUnclaimedSafetyAttempts = 3 := rfl
  have hattempts := hs.restoreAttempts
  have hsafe := hs.operationDeadline
  have hgenerationSafe : 1 ≤ record.generation + 1 ∧ record.generation + 1 ≤ maxGeneration := by
    have := hs.generation
    omega
  have hzeroSafe : SafeInteger 0 := ⟨le_rfl, hsafe.1.trans hsafe.2⟩
  have hscalars : Scalars (record.latching code) :=
    ⟨hs.schema, hs.build, hs.profile, hs.ieee, hs.setTopic, hs.operationId, hs.boundBootId,
      hgenerationSafe, hs.operationDeadline, hs.lastRequestDeadline, hzeroSafe, hzeroSafe,
      hs.intendedTarget, hs.challengeTarget, hs.restoreAttempts,
      fun _ hmem => by cases hmem; exact hcode⟩
  have hcollections : Collections (record.latching code) :=
    ⟨hc.firstTarget, hc.secondTarget, hc.targets, hc.consumedLength, hc.consumed, hc.consumedNodup,
      hc.usedLength, hc.used, hc.usedNodup, hc.proofsLength, hc.order, hc.proofs,
      (fun _ hmem => by cases hmem), (fun _ hmem => by cases hmem)⟩
  have hterminal : IsTerminal .remediationRequired := by decide
  have hlatched : (record.latching code).validatePhase = .ok () := by
    unfold ProbeRecoveryRecord.validatePhase
    refine (if_pos hterminal).trans ?_
    simp only [bind_unit_eq_ok, check_eq_ok]
    refine ⟨⟨rfl, rfl⟩, (if_pos rfl).trans ?_⟩
    simp only [validateRemediation, bind_unit_eq_ok, check_eq_ok]
    exact ⟨⟨rfl, rfl, rfl, rfl, rfl⟩, fun hnone => by cases hnone⟩
  -- the attempts that are given up free the room that the phase needs
  have hroom : (record.latching code).validateSequenceCapacity = .ok () := by
    have hbefore : (record.usedSequences.length : ℤ)
        + (maxRestoreAttempts - record.restoreAttempts + maxUnclaimedSafetyAttempts)
          ≤ maxUsedSequences := by
      have hcheck := check_eq_ok.1 hcapacity
      rw [requiredSequences, hphase] at hcheck
      exact hcheck
    refine check_eq_ok.2 ?_
    show (record.usedSequences.length : ℤ) + maxUnclaimedSafetyAttempts ≤ maxUsedSequences
    omega
  have hvalid := validate_eq_ok hscalars hcollections (fun _ hmem => by cases hmem) hlatched hroom
  refine ⟨record.latching code, ?_⟩
  simp only [toRemediation, validateFailureCode, bind_unit_eq_ok, check_eq_ok]
  refine ⟨hcode, ?_⟩
  rw [if_pos hgeneration, transition_eq_ok]
  exact ⟨hgeneration, rfl, hvalid, rfl⟩

end

end ProbeRecoveryRecord

end TrueFamily.Probe
