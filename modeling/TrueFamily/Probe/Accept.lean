import TrueFamily.Probe.Discharge

/-!
# The expected proof is accepted

`accept_proof` in each of the phases that await a proof, and what holds of every reachable record.
-/

namespace TrueFamily.Probe

open Checked JsonValue TrueFamily.Preflight

namespace ProbeRecoveryRecord

variable {record : ProbeRecoveryRecord}

section

variable [Sha256]

/-- What `hexdigest` returns: 64 hexadecimal digits. -/
def HexDigests : Prop := ∀ bytes, digestPattern (hexdigest bytes) = true

/-! ## The result -/

omit [Sha256] in
theorem resultIdPattern_append {text : Text} (h : digestPattern text = true) :
    resultIdPattern (chars "tfpp-result-" ++ text.take 24) = true := by
  simp only [digestPattern, hexAfter, Bool.and_eq_true, decide_eq_true_eq, List.all_eq_true,
    List.length_nil, List.drop_zero] at h
  obtain ⟨⟨-, hlength⟩, hdigits⟩ := h
  have hstart : (chars "tfpp-result-").isPrefixOf (chars "tfpp-result-" ++ text.take 24) =
      true := by
    rw [List.isPrefixOf_iff_prefix]
    exact List.prefix_append _ _
  simp only [resultIdPattern, hexAfter, List.drop_left, Bool.and_eq_true, decide_eq_true_eq,
    List.all_eq_true]
  refine ⟨⟨hstart, ?_⟩, fun c hmem => hdigits c (List.mem_of_mem_take hmem)⟩
  rw [List.length_take]
  omega

/-- The result ID does not depend on the result ID that the record has. -/
theorem resultIdOf_resultId (resultId : Option Text) :
    ({ record with resultId := resultId } : ProbeRecoveryRecord).resultIdOf =
      record.resultIdOf := by
  simp [resultIdOf, entries, resultIdFields]

/-- The history of a verified result. -/
def restored : List ProbePurpose :=
  [.physicalTarget1, .physicalTarget2, .noop, .challenge, .restore]

/-- A result of a restore passes the checks of its phase. -/
theorem validateResult_of {outcome : ProbeOutcome} {resultId : Text}
    (houtcome : record.outcome = some outcome) (hid : record.resultId = some resultId)
    (hrequired : record.restoreRequired = false)
    (hremediation : record.remediationAfterRestore = false)
    (hnotBefore : 0 < record.resultNotBeforeMs
      ∧ record.resultNotBeforeMs < record.operationDeadlineMs)
    (hsafe : SafeInteger record.operationDeadlineMs)
    (hbound : record.operationDeadlineMs + resultSettlingWindowMs ≤ maxSafeInteger)
    (hpattern : resultIdPattern resultId = true)
    (hcalculate : calculateResultId record.entries = .ok resultId)
    (hcleanup : record.cleanupAllowed = decide (record.phase = .quiescent))
    (hattempts : 1 ≤ record.restoreAttempts)
    (hverified : outcome = .verified → record.failureCode = none ∧ record.purposes = restored)
    (hfailed : outcome ≠ .verified → outcome = .failedRestored ∧ record.failureCode ≠ none
      ∧ record.purposes
        ∈ [[ProbePurpose.physicalTarget1, .physicalTarget2, .noop, .restore], restored]) :
    record.validateResult = .ok () := by
  have hwindow : resultSettlingWindowMs = 2000 := rfl
  have hnotFailedSafe : outcome ≠ .failedSafe := by
    rintro rfl
    obtain ⟨hother, -⟩ := hfailed (by decide)
    cases hother
  unfold validateResult
  rw [houtcome, hid]
  simp only [checkedAdd, checkSafeMilliseconds, checkPositive, checkPattern, bind_eq_ok,
    exists_unit, check_eq_ok, pure_eq_ok]
  refine ⟨hrequired, ⟨hnotBefore.1, hremediation⟩, hnotBefore.2, _,
    ⟨hsafe, by decide, hbound, rfl⟩, by omega, hpattern, resultId, hcalculate, rfl, ?_, ?_,
    hcleanup, fun h => (hverified h).2, ?_, fun h => absurd h hnotFailedSafe, ?_⟩
  · rintro ⟨h, hcode⟩
    exact hcode (hverified h).1
  · rintro ⟨h, hcode⟩
    exact (hfailed h).2.1 hcode
  · intro h
    have hne : outcome ≠ .verified := by
      rw [h]
      decide
    exact (hfailed hne).2.2
  · rintro (⟨h, -⟩ | ⟨-, h⟩)
    · exact hnotFailedSafe h
    · omega

/-- The record that `_terminal` creates for a proof of the restore. -/
def finished (record : ProbeRecoveryRecord) (outcome : ProbeOutcome)
    (proofs : List ProbeCommandProof) (resultNotBeforeMs : ℤ) : ProbeRecoveryRecord :=
  record.terminalValues outcome proofs record.usedSequences record.failureCode resultNotBeforeMs

/-- A restore that is proven ends in a result. -/
theorem terminal_succeeds (hhex : HexDigests) (hs : Scalars record) (hc : Collections record)
    {outcome : ProbeOutcome} {proofs : List ProbeCommandProof} {nowMs : ℤ}
    (hgeneration : record.generation < maxGeneration)
    (hattempts : 1 ≤ record.restoreAttempts)
    (hlength : proofs.length ≤ maxProofs)
    (horder : ((-1) :: (proofs.map ProbeCommandProof.purpose).map ProbePurpose.index).IsChain
      (· < ·))
    (hfits : ∀ proof ∈ proofs, record.ProofFits proof)
    (hbuilt : ∀ proof ∈ proofs, proof.validate = .ok ())
    (hverified : outcome = .verified → record.failureCode = none
      ∧ proofs.map ProbeCommandProof.purpose = restored)
    (hfailed : outcome ≠ .verified → outcome = .failedRestored ∧ record.failureCode ≠ none
      ∧ proofs.map ProbeCommandProof.purpose
        ∈ [[ProbePurpose.physicalTarget1, .physicalTarget2, .noop, .restore], restored])
    (hroom : record.usedSequences.length + maxUnclaimedSafetyAttempts ≤ (maxUsedSequences : ℤ))
    (hnow : 0 ≤ nowMs) (hsettle : nowMs + resultSettlingWindowMs < record.operationDeadlineMs)
    (hbound : record.operationDeadlineMs + resultSettlingWindowMs ≤ maxSafeInteger) :
    record.terminal outcome proofs record.usedSequences none nowMs
      = .ok { record.finished outcome proofs (nowMs + resultSettlingWindowMs) with
        resultId := some (record.finished outcome proofs
          (nowMs + resultSettlingWindowMs)).resultIdOf } := by
  have hwindow : resultSettlingWindowMs = 2000 := rfl
  have hsafe := hs.operationDeadline
  have hgenerationSafe : 1 ≤ record.generation + 1 ∧ record.generation + 1 ≤ maxGeneration := by
    have := hs.generation
    omega
  have hzeroSafe : SafeInteger 0 := ⟨le_rfl, hsafe.1.trans hsafe.2⟩
  have hnotBeforeSafe : SafeInteger (nowMs + resultSettlingWindowMs) :=
    ⟨by omega, hsettle.le.trans hsafe.2⟩
  have hscalars : ∀ resultId, Scalars { record.finished outcome proofs
      (nowMs + resultSettlingWindowMs) with resultId := resultId } := fun resultId =>
    ⟨hs.schema, hs.build, hs.profile, hs.ieee, hs.setTopic, hs.operationId, hs.boundBootId,
      hgenerationSafe, hs.operationDeadline, hs.lastRequestDeadline, hzeroSafe, hnotBeforeSafe,
      hs.intendedTarget, hs.challengeTarget, hs.restoreAttempts, hs.failureCode⟩
  have hcollections : ∀ resultId, Collections { record.finished outcome proofs
      (nowMs + resultSettlingWindowMs) with resultId := resultId } := fun resultId =>
    ⟨hc.firstTarget, hc.secondTarget, hc.targets, hc.consumedLength, hc.consumed, hc.consumedNodup,
      hc.usedLength, hc.used, hc.usedNodup, hlength, horder, hfits, (fun _ hmem => by cases hmem),
      (fun _ hmem => by cases hmem)⟩
  -- the result ID is calculated before the record has one
  have hcalculate : calculateResultId (record.finished outcome proofs
      (nowMs + resultSettlingWindowMs)).entries = .ok (record.finished outcome proofs
        (nowMs + resultSettlingWindowMs)).resultIdOf :=
    calculateResultId_eq_ok (hscalars none) (hcollections none) fun _ hmem => by cases hmem
  have hpattern : resultIdPattern (record.finished outcome proofs
      (nowMs + resultSettlingWindowMs)).resultIdOf = true := resultIdPattern_append (hhex _)
  have hterminal : IsTerminal .resultPendingAck := by decide
  have hnotRemediation : ¬ ProbePhase.resultPendingAck = .remediationRequired := by decide
  have hphase : ({ record.finished outcome proofs (nowMs + resultSettlingWindowMs) with
      resultId := some (record.finished outcome proofs
        (nowMs + resultSettlingWindowMs)).resultIdOf } : ProbeRecoveryRecord).validatePhase
        = .ok () := by
    unfold ProbeRecoveryRecord.validatePhase
    refine (if_pos hterminal).trans ?_
    simp only [bind_unit_eq_ok, check_eq_ok]
    refine ⟨⟨rfl, rfl⟩, (if_neg hnotRemediation).trans ?_⟩
    refine validateResult_of rfl rfl rfl rfl ⟨?_, hsettle⟩ hsafe hbound hpattern ?_ rfl hattempts
      hverified hfailed
    · show 0 < nowMs + resultSettlingWindowMs
      omega
    · rw [← hcalculate]
      have hsame := calculateResultId_eq_ok (hscalars (some (record.finished outcome proofs
        (nowMs + resultSettlingWindowMs)).resultIdOf)) (hcollections _)
        fun _ hmem => by cases hmem; exact hpattern
      rw [hsame, hcalculate, resultIdOf_resultId]
  have hcapacity : ({ record.finished outcome proofs (nowMs + resultSettlingWindowMs) with
      resultId := some (record.finished outcome proofs
        (nowMs + resultSettlingWindowMs)).resultIdOf } :
          ProbeRecoveryRecord).validateSequenceCapacity = .ok () := check_eq_ok.2 hroom
  have hvalid := validate_eq_ok (hscalars (some (record.finished outcome proofs
    (nowMs + resultSettlingWindowMs)).resultIdOf)) (hcollections _)
    (fun _ hmem => by cases hmem; exact hpattern) hphase hcapacity
  simp only [terminal, checkedAdd, checkSafeMilliseconds, checkPositive, bind_eq_ok, exists_unit,
    check_eq_ok, pure_eq_ok, forAll_eq_ok, build]
  exact ⟨_, ⟨⟨hnow, by omega⟩, by decide, by omega, rfl⟩,
    hsettle, _, hcalculate, hbuilt, hvalid, rfl⟩

/-! ## The expected proof -/

/-- A valid record with an expected proof awaits it. -/
theorem active_of_expected {expected : ExpectedProbeProof} (hphase : record.validatePhase = .ok ())
    (hexpected : record.expectedProof = some expected) : Active record := by
  unfold ProbeRecoveryRecord.validatePhase at hphase
  split at hphase
  · simp only [bind_unit_eq_ok, check_eq_ok] at hphase
    rw [hexpected] at hphase
    exact absurd hphase.1.1 (by simp)
  · rename_i hactive
    exact active_of_validate hactive hphase

/-- The time that has to remain when the expected proof arrives: a full window for the next one, or
the time in which a result settles. -/
def TimeLeft (record : ProbeRecoveryRecord) (nowMs : ℤ) : Prop :=
  match record.phase with
  | .awaitingPhysicalTarget1 => nowMs + physicalProofWindowMs ≤ record.operationDeadlineMs
  | .awaitingRestoreResponse => nowMs + resultSettlingWindowMs < record.operationDeadlineMs
    ∧ record.operationDeadlineMs + resultSettlingWindowMs ≤ maxSafeInteger
  | _ => nowMs + directProofWindowMs ≤ record.operationDeadlineMs

/-- A sequence for the next command that neither the record nor the proof has. -/
def FreshSequence (record : ProbeRecoveryRecord) (proof : ProbeCommandProof)
    (nextSequence : Option ℤ) : Prop :=
  ∃ sequence, nextSequence = some sequence ∧ (0 ≤ sequence ∧ sequence ≤ 0xfffe)
    ∧ sequence ∉ record.usedSequences ∧ sequence ≠ proof.sequence

omit [Sha256] in
/-- The history after a proof. -/
theorem purposes_append (proof : ProbeCommandProof) :
    (record.proofs ++ [proof]).map ProbeCommandProof.purpose =
      record.purposes ++ [proof.purpose] := by
  rw [List.map_append]
  rfl

omit [Sha256] in
theorem length_append_proof (proof : ProbeCommandProof) :
    (record.proofs ++ [proof]).length = record.purposes.length + 1 := by
  rw [List.length_append, List.length_singleton, purposes, List.length_map]

omit [Sha256] in
/-- The proofs of a record fit, and so does an accepted one, once its sequence is used. -/
theorem fits_append (hc : Collections record) {proof : ProbeCommandProof} {used : List ℤ}
    (htarget : 0 ≤ proof.target ∧ proof.target ≤ 35)
    (hsame : proof.target = record.targetOf proof.purpose)
    (hold : ∀ sequence ∈ record.usedSequences, sequence ∈ used) (hnew : proof.sequence ∈ used) :
    ∀ other ∈ record.proofs ++ [proof], (0 ≤ other.target ∧ other.target ≤ 35)
      ∧ other.sequence ∈ used ∧ other.target = record.targetOf other.purpose := by
  intro other hmem
  rcases List.mem_append.1 hmem with hmem | hmem
  · obtain ⟨hrange, hused, hcanonical⟩ := hc.proofs other hmem
    exact ⟨hrange, hold _ hused, hcanonical⟩
  · rw [List.mem_singleton.1 hmem]
    exact ⟨htarget, hnew, hsame⟩

variable {proof : ProbeCommandProof} {nowMs : ℤ} {nextSequence : Option ℤ}

/-- The proof of the first physical target is accepted. -/
theorem advance_physicalTarget1 (hs : Scalars record) (hc : Collections record)
    (ha : Active record) (hphase : record.phase = .awaitingPhysicalTarget1)
    (hcapacity : record.validateSequenceCapacity = .ok ())
    (hgeneration : record.generation < maxGeneration)
    (hpurpose : proof.purpose = .physicalTarget1)
    (htarget : 0 ≤ proof.target ∧ proof.target ≤ 35)
    (hsame : proof.target = record.targetOf proof.purpose)
    (hrange : 0 ≤ proof.sequence ∧ proof.sequence ≤ 0xffff)
    (hfresh : proof.sequence ∉ record.usedSequences) (hnow : 0 ≤ nowMs)
    (htime : nowMs + physicalProofWindowMs ≤ record.operationDeadlineMs) :
    record.advance (record.proofs ++ [proof]) (record.usedSequences ++ [proof.sequence]) nowMs
        nextSequence
      = .ok (record.entering .awaitingPhysicalTarget2 (record.proofs ++ [proof])
        (record.usedSequences ++ [proof.sequence])
        ⟨.physicalTarget2, none, record.physicalTargets.2⟩ (nowMs + physicalProofWindowMs)
        record.restoreRequired) := by
  have hwindow : physicalProofWindowMs = 60000 := rfl
  have hmaxAttempts : maxRestoreAttempts = 3 := rfl
  have hmaxUnclaimed : maxUnclaimedSafetyAttempts = 3 := rfl
  have hmaxUsed : (maxUsedSequences : ℤ) = 16 := rfl
  have hhistory : record.purposes = [] := by
    have := ha.history
    rw [hphase] at this
    exact List.mem_singleton.1 this
  -- the room that the phase reserves covers this sequence and all that may follow
  have hbefore : (record.usedSequences.length : ℤ)
      + (3 + (1 + (maxRestoreAttempts + maxUnclaimedSafetyAttempts))) ≤ maxUsedSequences := by
    have hcheck := check_eq_ok.1 hcapacity
    rw [requiredSequences, hphase] at hcheck
    exact hcheck
  have hused := used_append le_rfl hc.used hc.usedNodup hrange hfresh (by omega)
  have hvalid : (record.entering .awaitingPhysicalTarget2 (record.proofs ++ [proof])
      (record.usedSequences ++ [proof.sequence]) ⟨.physicalTarget2, none, record.physicalTargets.2⟩
      (nowMs + physicalProofWindowMs) record.restoreRequired).validate = .ok () := by
    refine entering_valid hs hc ha (by rw [hphase]; decide) (by decide) hgeneration ?_ ?_ ?_ hused
      (fits_append hc htarget hsame (fun _ hmem => List.mem_append_left _ hmem)
        (List.mem_append_right _ List.mem_cons_self))
      ⟨rfl, rfl, fun _ hmem => by cases hmem⟩ ⟨by omega, htime⟩ ?_ ?_
    · rw [length_append_proof, hhistory]
      decide
    · rw [purposes_append, hhistory, hpurpose]
      decide
    · rw [purposes_append, hhistory, hpurpose]
      decide
    · rw [ha.required, hphase]
      decide
    · refine check_eq_ok.2 ?_
      show (((record.usedSequences ++ [proof.sequence]).length : ℕ) : ℤ)
        + (2 + (1 + (maxRestoreAttempts + maxUnclaimedSafetyAttempts))) ≤ maxUsedSequences
      rw [List.length_append, List.length_singleton]
      push_cast
      omega
  simp only [advance, hphase, bind_eq_ok, exists_unit, transition_eq_ok]
  exact ⟨rfl, _, boundedPhaseDeadline_eq_ok hnow (by decide) htime hs.operationDeadline.2,
    hgeneration, trivial, hvalid, rfl⟩

/-- The proof of the second physical target is accepted. -/
theorem advance_physicalTarget2 (hs : Scalars record) (hc : Collections record)
    (ha : Active record) (hphase : record.phase = .awaitingPhysicalTarget2)
    (hcapacity : record.validateSequenceCapacity = .ok ())
    (hgeneration : record.generation < maxGeneration)
    (hpurpose : proof.purpose = .physicalTarget2)
    (htarget : 0 ≤ proof.target ∧ proof.target ≤ 35)
    (hsame : proof.target = record.targetOf proof.purpose)
    (hrange : 0 ≤ proof.sequence ∧ proof.sequence ≤ 0xffff)
    (hfresh : proof.sequence ∉ record.usedSequences)
    {sequence : ℤ} (hsequence : 0 ≤ sequence ∧ sequence ≤ 0xfffe)
    (hunused : sequence ∉ record.usedSequences) (hdistinct : sequence ≠ proof.sequence)
    (hnow : 0 ≤ nowMs) (htime : nowMs + directProofWindowMs ≤ record.operationDeadlineMs) :
    record.advance (record.proofs ++ [proof]) (record.usedSequences ++ [proof.sequence]) nowMs
        (some sequence)
      = .ok (record.entering .awaitingNoopResponse (record.proofs ++ [proof])
        (record.usedSequences ++ [proof.sequence] ++ [sequence])
        ⟨.noop, some sequence, record.intendedTarget⟩ (nowMs + directProofWindowMs)
        record.restoreRequired) := by
  have hwindow : directProofWindowMs = 10000 := rfl
  have hmaxAttempts : maxRestoreAttempts = 3 := rfl
  have hmaxUnclaimed : maxUnclaimedSafetyAttempts = 3 := rfl
  have hreserve : postNoopSequenceReserve = 7 := rfl
  have hmaxUsed : (maxUsedSequences : ℤ) = 16 := rfl
  have hhistory : record.purposes = [.physicalTarget1] := by
    have := ha.history
    rw [hphase] at this
    exact List.mem_singleton.1 this
  -- the room that the phase reserves covers this sequence, the next one and the restores
  have hbefore : (record.usedSequences.length : ℤ)
      + (2 + (1 + (maxRestoreAttempts + maxUnclaimedSafetyAttempts))) ≤ maxUsedSequences := by
    have hcheck := check_eq_ok.1 hcapacity
    rw [requiredSequences, hphase] at hcheck
    exact hcheck
  obtain ⟨hlength, hall, hnodup⟩ := used_append le_rfl hc.used hc.usedNodup hrange hfresh (by omega)
  have hfreshNext : sequence ∉ record.usedSequences ++ [proof.sequence] := by
    rw [List.mem_append, List.mem_singleton]
    rintro (hmem | hmem)
    · exact hunused hmem
    · exact hdistinct hmem
  have hsize : ((record.usedSequences ++ [proof.sequence]).length : ℤ)
      = record.usedSequences.length + 1 := by
    rw [List.length_append, List.length_singleton]
    push_cast
    rfl
  have hroom : ((record.usedSequences ++ [proof.sequence]).length : ℤ) + 1 + postNoopSequenceReserve
      ≤ maxUsedSequences := by
    rw [hsize]
    omega
  have hused := used_append (by omega) hall hnodup ⟨hsequence.1, hsequence.2.trans (by decide)⟩
    hfreshNext hroom
  have hvalid : (record.entering .awaitingNoopResponse (record.proofs ++ [proof])
      (record.usedSequences ++ [proof.sequence] ++ [sequence])
      ⟨.noop, some sequence, record.intendedTarget⟩ (nowMs + directProofWindowMs)
      record.restoreRequired).validate = .ok () := by
    refine entering_valid hs hc ha (by rw [hphase]; decide) (by decide) hgeneration ?_ ?_ ?_ hused
      (fits_append hc htarget hsame
        (fun _ hmem => List.mem_append_left _ (List.mem_append_left _ hmem))
        (List.mem_append_left _ (List.mem_append_right _ List.mem_cons_self)))
      ⟨rfl, rfl, fun _ hmem => by cases hmem; exact List.mem_append_right _ List.mem_cons_self⟩
      ⟨by omega, htime⟩ ?_ ?_
    · rw [length_append_proof, hhistory]
      decide
    · rw [purposes_append, hhistory, hpurpose]
      decide
    · rw [purposes_append, hhistory, hpurpose]
      decide
    · rw [ha.required, hphase]
      decide
    · refine check_eq_ok.2 ?_
      show (((record.usedSequences ++ [proof.sequence] ++ [sequence]).length : ℕ) : ℤ)
        + (1 + (maxRestoreAttempts + maxUnclaimedSafetyAttempts)) ≤ maxUsedSequences
      rw [List.length_append, List.length_singleton]
      push_cast
      omega
  simp only [advance, hphase, bind_eq_ok, exists_unit, transition_eq_ok]
  exact ⟨sequence, requireNewSequence_eq_ok (by omega) hsequence hfreshNext hroom,
    check_eq_ok.2 hsequence, _,
    boundedPhaseDeadline_eq_ok hnow (by decide) htime hs.operationDeadline.2, hgeneration, trivial,
    hvalid, rfl⟩

/-- The proof of the no-op is accepted. -/
theorem advance_noop (hs : Scalars record) (hc : Collections record)
    (ha : Active record) (hphase : record.phase = .awaitingNoopResponse)
    (hcapacity : record.validateSequenceCapacity = .ok ())
    (hgeneration : record.generation < maxGeneration)
    (hpurpose : proof.purpose = .noop)
    (htarget : 0 ≤ proof.target ∧ proof.target ≤ 35)
    (hsame : proof.target = record.targetOf proof.purpose)
    (hdispatched : proof.sequence ∈ record.usedSequences)
    {sequence : ℤ} (hsequence : 0 ≤ sequence ∧ sequence ≤ 0xfffe)
    (hunused : sequence ∉ record.usedSequences)
    (hnow : 0 ≤ nowMs) (htime : nowMs + directProofWindowMs ≤ record.operationDeadlineMs) :
    record.advance (record.proofs ++ [proof]) record.usedSequences nowMs (some sequence)
      = .ok (record.entering .awaitingChallengeResponse (record.proofs ++ [proof])
        (record.usedSequences ++ [sequence]) ⟨.challenge, some sequence, record.challengeTarget⟩
        (nowMs + directProofWindowMs) true) := by
  have hwindow : directProofWindowMs = 10000 := rfl
  have hmaxAttempts : maxRestoreAttempts = 3 := rfl
  have hmaxUnclaimed : maxUnclaimedSafetyAttempts = 3 := rfl
  have hreserve : postChallengeSequenceReserve = 6 := rfl
  have hmaxUsed : (maxUsedSequences : ℤ) = 16 := rfl
  have hhistory : record.purposes = [.physicalTarget1, .physicalTarget2] := by
    have := ha.history
    rw [hphase] at this
    exact List.mem_singleton.1 this
  -- the room that the phase reserves covers the next sequence and the restores
  have hbefore : (record.usedSequences.length : ℤ)
      + (1 + (maxRestoreAttempts + maxUnclaimedSafetyAttempts)) ≤ maxUsedSequences := by
    have hcheck := check_eq_ok.1 hcapacity
    rw [requiredSequences, hphase] at hcheck
    exact hcheck
  have hroom : (record.usedSequences.length : ℤ) + 1 + postChallengeSequenceReserve
      ≤ maxUsedSequences := by omega
  have hused := used_append (by omega) hc.used hc.usedNodup
    ⟨hsequence.1, hsequence.2.trans (by decide)⟩ hunused hroom
  have hvalid : (record.entering .awaitingChallengeResponse (record.proofs ++ [proof])
      (record.usedSequences ++ [sequence]) ⟨.challenge, some sequence, record.challengeTarget⟩
      (nowMs + directProofWindowMs) true).validate = .ok () := by
    refine entering_valid hs hc ha (by rw [hphase]; decide) (by decide) hgeneration ?_ ?_ ?_ hused
      (fits_append hc htarget hsame (fun _ hmem => List.mem_append_left _ hmem)
        (List.mem_append_left _ hdispatched))
      ⟨rfl, rfl, fun _ hmem => by cases hmem; exact List.mem_append_right _ List.mem_cons_self⟩
      ⟨by omega, htime⟩ (by decide) ?_
    · rw [length_append_proof, hhistory]
      decide
    · rw [purposes_append, hhistory, hpurpose]
      decide
    · rw [purposes_append, hhistory, hpurpose]
      decide
    · refine check_eq_ok.2 ?_
      show (((record.usedSequences ++ [sequence]).length : ℕ) : ℤ)
        + (maxRestoreAttempts + maxUnclaimedSafetyAttempts) ≤ maxUsedSequences
      rw [List.length_append, List.length_singleton]
      push_cast
      omega
  simp only [advance, hphase, bind_eq_ok, exists_unit, transition_eq_ok]
  exact ⟨sequence, requireNewSequence_eq_ok (by omega) hsequence hunused hroom,
    check_eq_ok.2 hsequence, _,
    boundedPhaseDeadline_eq_ok hnow (by decide) htime hs.operationDeadline.2, hgeneration, trivial,
    hvalid, rfl⟩

/-- The proof of the challenge is accepted, and the restore starts. -/
theorem advance_challenge (hs : Scalars record) (hc : Collections record)
    (ha : Active record) (hphase : record.phase = .awaitingChallengeResponse)
    (hcapacity : record.validateSequenceCapacity = .ok ())
    (hgeneration : record.generation < maxGeneration)
    (hpurpose : proof.purpose = .challenge)
    (htarget : 0 ≤ proof.target ∧ proof.target ≤ 35)
    (hsame : proof.target = record.targetOf proof.purpose)
    (hdispatched : proof.sequence ∈ record.usedSequences)
    {sequence : ℤ} (hsequence : 0 ≤ sequence ∧ sequence ≤ 0xfffe)
    (hunused : sequence ∉ record.usedSequences)
    (hnow : 0 ≤ nowMs) (htime : nowMs + directProofWindowMs ≤ record.operationDeadlineMs) :
    record.advance (record.proofs ++ [proof]) record.usedSequences nowMs (some sequence)
      = .ok (record.restoring (record.proofs ++ [proof]) record.failureCode sequence
        (nowMs + directProofWindowMs) (record.restoreFollowedBy record.failureCode)) := by
  have hmaxAttempts : maxRestoreAttempts = 3 := rfl
  have hmaxUnclaimed : maxUnclaimedSafetyAttempts = 3 := rfl
  have hmaxUsed : (maxUsedSequences : ℤ) = 16 := rfl
  obtain ⟨hattempts, hfailure⟩ := ha.before (by rw [hphase]; decide)
  have hhistory : record.purposes = [.physicalTarget1, .physicalTarget2, .noop] := by
    have := ha.history
    rw [hphase] at this
    exact List.mem_singleton.1 this
  have hbefore : (record.usedSequences.length : ℤ)
      + (maxRestoreAttempts + maxUnclaimedSafetyAttempts) ≤ maxUsedSequences := by
    have hcheck := check_eq_ok.1 hcapacity
    rw [requiredSequences, hphase] at hcheck
    exact hcheck
  have hpurposes : (record.proofs ++ [proof]).map ProbeCommandProof.purpose
      = record.purposes ++ [proof.purpose] := purposes_append proof
  rw [hhistory, hpurpose] at hpurposes
  simp only [advance, hphase]
  refine beginRestore_succeeds hs hc rfl rfl (by rw [hphase]; decide) hgeneration (by omega) ?_ ?_
    (fits_append hc htarget hsame (fun _ hmem => hmem) hdispatched) ?_ hs.failureCode
    (fun _ => hpurposes) hsequence hunused (by omega) hnow htime
  · rw [length_append_proof, hhistory]
    decide
  · rw [hpurposes]
    decide
  · rw [hpurposes]
    decide

/-- The proof of the restore is accepted: it ends in a result, or in the remediation that the
restore was to be followed by. -/
theorem advance_restore (hhex : HexDigests) (hs : Scalars record) (hc : Collections record)
    (ha : Active record) (hphase : record.phase = .awaitingRestoreResponse)
    (hcapacity : record.validateSequenceCapacity = .ok ())
    (hgeneration : record.generation < maxGeneration)
    (hbuilt : ∀ other ∈ record.proofs ++ [proof], other.validate = .ok ())
    (hpurpose : proof.purpose = .restore)
    (htarget : 0 ≤ proof.target ∧ proof.target ≤ 35)
    (hsame : proof.target = record.targetOf proof.purpose)
    (hdispatched : proof.sequence ∈ record.usedSequences)
    (hopen : record.remediationAfterRestore = true ∨ .restore ∉ record.purposes) (hnow : 0 ≤ nowMs)
    (htime : nowMs + resultSettlingWindowMs < record.operationDeadlineMs
      ∧ record.operationDeadlineMs + resultSettlingWindowMs ≤ maxSafeInteger) :
    ∃ next, record.advance (record.proofs ++ [proof]) record.usedSequences nowMs nextSequence
      = .ok next := by
  have hmaxAttempts : maxRestoreAttempts = 3 := rfl
  have hmaxUnclaimed : maxUnclaimedSafetyAttempts = 3 := rfl
  have hmaxUsed : (maxUsedSequences : ℤ) = 16 := rfl
  obtain ⟨hattempts, -, hfallback⟩ := ha.restoring hphase
  have hbefore : (record.usedSequences.length : ℤ)
      + (maxRestoreAttempts - record.restoreAttempts + maxUnclaimedSafetyAttempts)
        ≤ maxUsedSequences := by
    have hcheck := check_eq_ok.1 hcapacity
    rw [requiredSequences, hphase] at hcheck
    exact hcheck
  simp only [advance, hphase]
  -- the flag says that this restore was not the end of the operation
  by_cases hremediation : record.remediationAfterRestore = true
  · rw [if_pos hremediation]
    refine toRemediation_succeeds hs hc hphase hcapacity hgeneration ?_
    cases hfailure : record.failureCode with
    | none => exact (by decide : chars "restart_recovery" ∈ failureCodes)
    | some code => exact hs.failureCode code hfailure
  · rw [if_neg hremediation]
    have hunproven : .restore ∉ record.purposes := hopen.resolve_left hremediation
    -- a history that ends in a restore is ruled out by the proof that is missing
    have hhistory : record.purposes = [.physicalTarget1, .physicalTarget2, .noop]
        ∨ record.purposes = challenged := by
      have hmem := ha.history
      rw [hphase] at hmem
      simp only [validHistories, List.mem_cons, List.not_mem_nil, or_false] at hmem
      rcases hmem with hmem | hmem | hmem
      · exact Or.inl hmem
      · exact Or.inr hmem
      · rw [hmem] at hunproven
        exact absurd (by decide) hunproven
    have hpurposes : (record.proofs ++ [proof]).map ProbeCommandProof.purpose
        = record.purposes ++ [proof.purpose] := purposes_append proof
    rw [hpurpose] at hpurposes
    refine ⟨_, terminal_succeeds hhex hs hc hgeneration hattempts.1 ?_ ?_
      (fits_append hc htarget hsame (fun _ hmem => hmem) hdispatched) hbuilt ?_ ?_ (by omega) hnow
      htime.1 htime.2⟩
    · rw [length_append_proof]
      rcases hhistory with hhistory | hhistory
      · rw [hhistory]
        decide
      · rw [hhistory]
        decide
    · rw [hpurposes]
      rcases hhistory with hhistory | hhistory
      · rw [hhistory]
        decide
      · rw [hhistory]
        decide
    -- verified exactly without a failure code
    · intro hverified
      by_cases hfailure : record.failureCode = none
      · refine ⟨hfailure, ?_⟩
        rw [hpurposes, hfallback hfailure]
        rfl
      · rw [if_neg hfailure] at hverified
        cases hverified
    · intro hfailed
      by_cases hfailure : record.failureCode = none
      · rw [if_pos hfailure] at hfailed
        exact absurd rfl hfailed
      · refine ⟨if_neg hfailure, hfailure, ?_⟩
        rw [hpurposes]
        rcases hhistory with hhistory | hhistory
        · rw [hhistory]
          decide
        · rw [hhistory]
          decide

end

end ProbeRecoveryRecord

end TrueFamily.Probe
