import TrueFamily.Probe.Honoured
import TrueFamily.Probe.Transitions

/-!
# Valid records

What the validators of the constructor say about a record, as facts about its fields: `Scalars` and
`Collections`. A record that satisfies them is within the limits of the durable state.
-/

namespace TrueFamily.Probe

open Checked JsonValue TrueFamily.Preflight

theorem validateTarget_eq_ok_iff {target : ℤ} {label : String} :
    brtProfile.validateTarget target label = .ok () ↔ 0 ≤ target ∧ target ≤ 35 := by
  refine ⟨fun h => ?_, validateTarget_eq_ok label⟩
  simp only [PhysicalProbeProfile.validateTarget, bind_unit_eq_ok, check_eq_ok] at h
  exact h.1

theorem profileOf_eq_ok {profileId : Text} {profileVersion : ℤ} {profile : PhysicalProbeProfile} :
    profileOf profileId profileVersion = .ok profile ↔
      (profileId = brtProfile.profileId ∧ profileVersion = brtProfile.profileVersion)
        ∧ profile = brtProfile := by
  constructor
  · intro h
    simp only [profileOf, bind_unit_eq_ok, check_eq_ok, pure_eq_ok] at h
    exact ⟨h.2.2.1, h.2.2.2⟩
  · rintro ⟨⟨rfl, rfl⟩, rfl⟩
    exact profileOf_brtProfile

namespace ProbeRecoveryRecord

/-! ## Scalars -/

/-- What `_validate_recovery_scalars` says about a record. -/
structure Scalars (record : ProbeRecoveryRecord) : Prop where
  schema : record.schema = chars "true-family-physical-probe-state-v2"
    ∧ record.protocolId = chars "true-family-physical-probe"
  build : record.protocolVersion = 2
    ∧ record.buildId = chars "tfpp-v2-z2m-2.12.1-zh-10.6.1-zhc-26.76.0"
  profile : record.profileId = brtProfile.profileId
    ∧ record.profileVersion = brtProfile.profileVersion
  ieee : ieeePattern record.candidateIeee = true
  setTopic : checkSetTopic record.candidateSetTopic = .ok ()
  operationId : operationPattern record.operationId = true
  boundBootId : bootPattern record.boundBootId = true
  generation : 1 ≤ record.generation ∧ record.generation ≤ maxGeneration
  operationDeadline : SafeInteger record.operationDeadlineMs
  lastRequestDeadline : SafeInteger record.lastRequestDeadlineMs
  expectedProofDeadline : SafeInteger record.expectedProofDeadlineMs
  resultNotBefore : SafeInteger record.resultNotBeforeMs
  intendedTarget : 0 ≤ record.intendedTarget ∧ record.intendedTarget ≤ 35
  challengeTarget : record.challengeTarget = challengeOf record.intendedTarget
  restoreAttempts : 0 ≤ record.restoreAttempts ∧ record.restoreAttempts ≤ maxRestoreAttempts
  failureCode : ∀ code ∈ record.failureCode, code ∈ failureCodes

variable {record : ProbeRecoveryRecord}

theorem Scalars.challengeRange (h : Scalars record) :
    0 ≤ record.challengeTarget ∧ record.challengeTarget ≤ 35 := by
  rw [h.challengeTarget]
  exact (challengeTarget_eq_ok h.intendedTarget).2

theorem validateScalars_eq_ok {profile : PhysicalProbeProfile} :
    record.validateScalars = .ok profile ↔ Scalars record ∧ profile = brtProfile := by
  simp only [validateScalars, bind_eq_ok, exists_unit, check_eq_ok, checkPattern, checkNonnegative,
    checkSafeMilliseconds, profileOf_eq_ok]
  constructor
  · rintro ⟨hschema, hbuild, _, ⟨hprofile, rfl⟩, hieee, htopic, hoperation, hboot, -, hgeneration,
      hoperationDeadline, hlast, hexpected, hnotBefore, hintended, -, _, hchallenge, hsame,
      hattempts, hattempts', hcode⟩
    rw [validateTarget_eq_ok_iff] at hintended
    rw [(challengeTarget_eq_ok hintended).1, Except.ok.injEq] at hchallenge
    have hprofile' : profile = brtProfile ∧ ∀ code ∈ record.failureCode, code ∈ failureCodes := by
      split at hcode
      · rename_i hnone
        rw [hnone]
        exact ⟨by simpa using hcode, fun _ hmem => by cases hmem⟩
      · rename_i code hsome
        simp only [validateFailureCode, bind_unit_eq_ok, check_eq_ok, pure_eq_ok] at hcode
        rw [hsome]
        exact ⟨hcode.2, fun _ hmem => by cases hmem; exact hcode.1⟩
    exact ⟨⟨hschema, hbuild, hprofile, hieee, htopic, hoperation, hboot, hgeneration,
      hoperationDeadline, hlast, hexpected, hnotBefore, hintended, by rw [hsame, hchallenge],
      ⟨hattempts, hattempts'⟩, hprofile'.2⟩, hprofile'.1⟩
  · rintro ⟨h, rfl⟩
    refine ⟨h.schema, h.build, brtProfile, ⟨h.profile, rfl⟩, h.ieee, h.setTopic, h.operationId,
      h.boundBootId, by have := h.generation; omega, h.generation, h.operationDeadline,
      h.lastRequestDeadline, h.expectedProofDeadline, h.resultNotBefore,
      validateTarget_eq_ok _ h.intendedTarget, validateTarget_eq_ok _ h.challengeRange, _,
      (challengeTarget_eq_ok h.intendedTarget).1, h.challengeTarget, h.restoreAttempts.1,
      h.restoreAttempts.2, ?_⟩
    split
    · rfl
    · rename_i code hsome
      simp only [validateFailureCode, bind_unit_eq_ok, check_eq_ok, pure_eq_ok]
      exact ⟨h.failureCode code hsome, trivial⟩

/-! ## Collections -/

/-- What the loop over the proofs says about one of them. -/
def ProofFits (record : ProbeRecoveryRecord) (proof : ProbeCommandProof) : Prop :=
  (0 ≤ proof.target ∧ proof.target ≤ 35) ∧ proof.sequence ∈ record.usedSequences
    ∧ proof.target = record.targetOf proof.purpose

theorem validateProofs_eq_ok {proofs : List ProbeCommandProof} {lastIndex : ℤ} :
    record.validateProofs brtProfile lastIndex proofs = .ok () ↔
      (lastIndex :: (proofs.map ProbeCommandProof.purpose).map ProbePurpose.index).IsChain (· < ·)
        ∧ ∀ proof ∈ proofs, record.ProofFits proof := by
  induction proofs generalizing lastIndex with
  | nil => simp [validateProofs]
  | cons proof proofs ih =>
    simp only [validateProofs, bind_unit_eq_ok, check_eq_ok, validateTarget_eq_ok_iff, ih,
      List.map_cons, List.isChain_cons_cons, List.forall_mem_cons, ProofFits]
    constructor
    · rintro ⟨htarget, hindex, hused, hsame, hchain, hrest⟩
      exact ⟨⟨hindex, hchain⟩, ⟨htarget, hused, hsame⟩, hrest⟩
    · rintro ⟨⟨hindex, hchain⟩, ⟨htarget, hused, hsame⟩, hrest⟩
      exact ⟨htarget, hindex, hused, hsame, hchain, hrest⟩

/-- What `_validate_recovery_collections` says about a record. -/
structure Collections (record : ProbeRecoveryRecord) : Prop where
  firstTarget : 0 ≤ record.physicalTargets.1 ∧ record.physicalTargets.1 ≤ 35
  secondTarget : 0 ≤ record.physicalTargets.2 ∧ record.physicalTargets.2 ≤ 35
  targets : record.physicalTargets.1 ≠ record.physicalTargets.2
    ∧ record.physicalTargets.2 = record.intendedTarget
  consumedLength : 1 ≤ record.consumedRequestIds.length
    ∧ record.consumedRequestIds.length ≤ maxConsumedRequestIds
  consumed : ∀ requestId ∈ record.consumedRequestIds, requestPattern requestId = true
  consumedNodup : record.consumedRequestIds.Nodup
  usedLength : record.usedSequences.length ≤ maxUsedSequences
  used : ∀ sequence ∈ record.usedSequences, 0 ≤ sequence ∧ sequence ≤ 0xffff
  usedNodup : record.usedSequences.Nodup
  proofsLength : record.proofs.length ≤ maxProofs
  order : ((-1) :: record.purposes.map ProbePurpose.index).IsChain (· < ·)
  proofs : ∀ proof ∈ record.proofs, record.ProofFits proof
  expectedTarget : ∀ expected ∈ record.expectedProof, 0 ≤ expected.target ∧ expected.target ≤ 35
  expectedSequence : ∀ expected ∈ record.expectedProof, ∀ sequence ∈ expected.sequence,
    sequence ∈ record.usedSequences

theorem validateExpected_eq_ok : record.validateExpected brtProfile = .ok () ↔
    (∀ expected ∈ record.expectedProof, 0 ≤ expected.target ∧ expected.target ≤ 35)
      ∧ ∀ expected ∈ record.expectedProof, ∀ sequence ∈ expected.sequence,
        sequence ∈ record.usedSequences := by
  unfold validateExpected
  split
  · rename_i hnone
    rw [hnone]
    simp
  · rename_i expected hsome
    rw [hsome]
    simp only [bind_unit_eq_ok, check_eq_ok, validateTarget_eq_ok_iff, Option.mem_some_iff,
      forall_eq']

theorem validateCollections_eq_ok :
    record.validateCollections brtProfile = .ok () ↔ Collections record := by
  simp only [validateCollections, validatePhysicalTargets, bind_unit_eq_ok, check_eq_ok,
    forAll_eq_ok, checkPattern, checkUint16, validateTarget_eq_ok_iff, validateProofs_eq_ok,
    validateExpected_eq_ok]
  constructor
  · rintro ⟨⟨hfirst, hsecond, htargets⟩, hlength, hconsumed, hnodup, husedLength, hused, husedNodup,
      hproofsLength, ⟨horder, hproofs⟩, hexpected, hsequence⟩
    exact ⟨hfirst, hsecond, htargets, hlength, hconsumed, hnodup, husedLength, hused, husedNodup,
      hproofsLength, horder, hproofs, hexpected, hsequence⟩
  · intro h
    exact ⟨⟨h.firstTarget, h.secondTarget, h.targets⟩, h.consumedLength, h.consumed,
      h.consumedNodup, h.usedLength, h.used, h.usedNodup, h.proofsLength, ⟨h.order, h.proofs⟩,
      h.expectedTarget, h.expectedSequence⟩

end ProbeRecoveryRecord

end TrueFamily.Probe
