import TrueFamily.Probe.Accept

/-!
# Reachable records

A reachable record is valid, and its proofs are built by their constructor (`Sound`). The
obligations that it records can be discharged (`obligation_dischargeable`).
-/

namespace TrueFamily.Probe

open Checked JsonValue TrueFamily.Preflight

namespace ProbeRecoveryRecord

variable {record next : ProbeRecoveryRecord}

section

variable [Sha256]

/-! ## The invariant -/

/-- The record is valid, and so are its proofs and the proof that it expects. -/
structure Sound (record : ProbeRecoveryRecord) : Prop where
  valid : record.validate = .ok ()
  built : ∀ proof ∈ record.proofs, proof.validate = .ok ()
  expects : ∀ expected ∈ record.expectedProof, expected.validate = .ok ()

theorem Sound.of_transition {changed : ProbeRecoveryRecord}
    (h : record.transition changed = .ok next)
    (hbuilt : ∀ proof ∈ changed.proofs, proof.validate = .ok ())
    (hexpects : ∀ expected ∈ changed.expectedProof, expected.validate = .ok ()) : Sound next := by
  obtain ⟨-, -, hvalid, rfl⟩ := transition_eq_ok.1 h
  exact ⟨hvalid, hbuilt, hexpects⟩

theorem Sound.arm {profile : PhysicalProbeProfile} {candidate : NormalizedCandidateIdentity}
    {setTopic operationId bootId requestId : Text}
    {requestDeadlineMs operationDeadlineMs intendedTarget : ℤ} {physicalTargets : ℤ × ℤ}
    {nowMs : ℤ}
    (h : ProbeRecoveryRecord.arm profile candidate setTopic operationId bootId requestId
      requestDeadlineMs operationDeadlineMs intendedTarget physicalTargets nowMs = .ok record) :
    Sound record := by
  simp only [ProbeRecoveryRecord.arm, bind_eq_ok, exists_unit, pure_eq_ok] at h
  obtain ⟨-, -, -, -, -, -, -, -, -, -, _, -, _, -, hexpected, hvalid, rfl⟩ := h
  exact ⟨hvalid, fun _ hmem => absurd hmem List.not_mem_nil,
    fun _ hmem => by cases hmem; exact hexpected⟩

theorem Sound.terminal {outcome : ProbeOutcome} {proofs : List ProbeCommandProof}
    {usedSequences : List ℤ} {failureCode : Option Text} {nowMs : ℤ}
    (h : record.terminal outcome proofs usedSequences failureCode nowMs = .ok next) :
    Sound next := by
  simp only [ProbeRecoveryRecord.terminal, build, bind_eq_ok, exists_unit, pure_eq_ok,
    forAll_eq_ok] at h
  obtain ⟨_, -, -, _, -, hbuilt, hvalid, rfl⟩ := h
  exact ⟨hvalid, hbuilt, fun _ hmem => by cases hmem⟩

theorem Sound.beginRestore {sequence : Option ℤ} {failureCode : Option Text} {nowMs : ℤ}
    {proofs : Option (List ProbeCommandProof)} {usedSequences : Option (List ℤ)}
    {remediation : Option Bool}
    (h : record.beginRestore sequence failureCode nowMs proofs usedSequences remediation = .ok next)
    (hbuilt : ∀ proof ∈ proofs.getD record.proofs, proof.validate = .ok ()) : Sound next := by
  simp only [ProbeRecoveryRecord.beginRestore, bind_eq_ok, exists_unit] at h
  obtain ⟨-, -, -, _, -, _, -, hexpected, htransition⟩ := h
  exact .of_transition htransition hbuilt fun _ hmem => by cases hmem; exact hexpected

theorem Sound.toRemediation {failureCode : Text} {restoreRequired : Bool} (hsound : Sound record)
    (h : record.toRemediation failureCode restoreRequired = .ok next) : Sound next := by
  simp only [ProbeRecoveryRecord.toRemediation, bind_unit_eq_ok] at h
  obtain ⟨-, h⟩ := h
  split at h
  · exact .of_transition h hsound.built fun _ hmem => by cases hmem
  · simp only [build, bind_unit_eq_ok, pure_eq_ok] at h
    obtain ⟨hvalid, rfl⟩ := h
    exact ⟨hvalid, hsound.built, fun _ hmem => by cases hmem⟩

theorem Sound.advance {proofs : List ProbeCommandProof} {usedSequences : List ℤ} {nowMs : ℤ}
    {nextSequence : Option ℤ} (hsound : Sound record)
    (hbuilt : ∀ proof ∈ proofs, proof.validate = .ok ())
    (h : record.advance proofs usedSequences nowMs nextSequence = .ok next) : Sound next := by
  unfold ProbeRecoveryRecord.advance at h
  split at h
  · simp only [bind_eq_ok, exists_unit] at h
    obtain ⟨hexpected, _, -, htransition⟩ := h
    exact .of_transition htransition hbuilt fun _ hmem => by cases hmem; exact hexpected
  · simp only [bind_eq_ok, exists_unit] at h
    obtain ⟨_, -, hexpected, _, -, htransition⟩ := h
    exact .of_transition htransition hbuilt fun _ hmem => by cases hmem; exact hexpected
  · simp only [bind_eq_ok, exists_unit] at h
    obtain ⟨_, -, hexpected, _, -, htransition⟩ := h
    exact .of_transition htransition hbuilt fun _ hmem => by cases hmem; exact hexpected
  · exact .beginRestore h hbuilt
  · split at h
    · exact hsound.toRemediation h
    · exact .terminal h
  · cases h

/-- The step that an accepted proof takes. -/
theorem advance_of_acceptProof {proof : ProbeCommandProof} {nowMs : ℤ} {nextSequence : Option ℤ}
    (h : record.acceptProof proof nowMs nextSequence = .ok next) :
    record.advance (record.proofs ++ [proof])
      (if proof.purpose.isPhysical = true then record.usedSequences ++ [proof.sequence]
        else record.usedSequences) nowMs nextSequence = .ok next := by
  simp only [ProbeRecoveryRecord.acceptProof, bind_unit_eq_ok] at h
  obtain ⟨-, -, -, h⟩ := h
  split at h
  · rename_i hphysical
    rw [if_pos hphysical]
    exact (bind_unit_eq_ok.1 h).2
  · rename_i hcommand
    rw [if_neg hcommand]
    exact (bind_unit_eq_ok.1 h).2

theorem Sound.acceptProof {proof : ProbeCommandProof} {nowMs : ℤ} {nextSequence : Option ℤ}
    (hsound : Sound record) (hproof : proof.validate = .ok ())
    (h : record.acceptProof proof nowMs nextSequence = .ok next) : Sound next := by
  have hbuilt : ∀ other ∈ record.proofs ++ [proof], other.validate = .ok () := by
    intro other hmem
    rcases List.mem_append.1 hmem with hmem | hmem
    · exact hsound.built other hmem
    · rw [List.mem_singleton.1 hmem]
      exact hproof
  exact hsound.advance hbuilt (advance_of_acceptProof h)

theorem Sound.reuseRestore {bootId : Text} {nowMs : ℤ} (hsound : Sound record)
    (h : record.reuseRestore bootId nowMs = .ok next) : Sound next := by
  simp only [ProbeRecoveryRecord.reuseRestore, bind_eq_ok, exists_unit] at h
  obtain ⟨-, -, _, -, htransition⟩ := h
  exact .of_transition htransition hsound.built hsound.expects

theorem Sound.resume {bootId requestId : Text} {requestDeadlineMs nowMs : ℤ}
    {nextSequence : Option ℤ} (hsound : Sound record)
    (h : record.resume bootId requestId requestDeadlineMs nowMs nextSequence = .ok next) :
    Sound next := by
  simp only [ProbeRecoveryRecord.resume, bind_eq_ok, exists_unit] at h
  obtain ⟨-, -, -, _, -, h⟩ := h
  split at h
  · simp only [bind_eq_ok, exists_unit] at h
    obtain ⟨_, -, hexpected, htransition⟩ := h
    exact .of_transition htransition hsound.built fun _ hmem => by cases hmem; exact hexpected
  · exact .of_transition h hsound.built hsound.expects

theorem Sound.acknowledge {bootId requestId resultId : Text} {requestDeadlineMs nowMs : ℤ}
    (hsound : Sound record)
    (h : record.acknowledge bootId requestId requestDeadlineMs resultId nowMs = .ok next) :
    Sound next := by
  simp only [ProbeRecoveryRecord.acknowledge, bind_unit_eq_ok] at h
  obtain ⟨-, -, -, -, -, -, htransition⟩ := h
  exact .of_transition htransition hsound.built hsound.expects

/-- Every transition keeps the invariant. -/
theorem Step.sound (h : Step record next) (hsound : Sound record) : Sound next := by
  cases h with
  | acceptProof proof nowMs nextSequence hproof h => exact hsound.acceptProof hproof h
  | beginRestore sequence failureCode nowMs proofs usedSequences remediation hbuilt h =>
    refine .beginRestore h ?_
    cases proofs with
    | none => exact hsound.built
    | some given => exact hbuilt given rfl
  | reuseRestore bootId nowMs h => exact hsound.reuseRestore h
  | failSafe failureCode nowMs bootId h =>
    simp only [ProbeRecoveryRecord.failSafe, bind_unit_eq_ok] at h
    exact .terminal h.2.2.2.2
  | toRemediation failureCode restoreRequired h => exact hsound.toRemediation h
  | resume bootId requestId requestDeadlineMs nowMs nextSequence h => exact hsound.resume h
  | acknowledge bootId requestId requestDeadlineMs resultId nowMs h => exact hsound.acknowledge h

/-- Every reachable record satisfies the invariant. -/
theorem Reachable.sound (h : Reachable record) : Sound record := by
  induction h with
  | arm candidate setTopic operationId bootId requestId requestDeadlineMs operationDeadlineMs
      intendedTarget physicalTargets nowMs h => exact .arm h
  | step _ hstep ih => exact hstep.sound ih

/-! ## Obligations -/

/-- What the expected proof needs when it is presented: it is timely, a physical sequence is fresh,
and the next command has a fresh sequence where there is one. -/
structure Presented (record : ProbeRecoveryRecord) (expected : ExpectedProbeProof)
    (proof : ProbeCommandProof) (nowMs : ℤ) (nextSequence : Option ℤ) : Prop where
  built : proof.validate = .ok ()
  accepts : expected.Accepts proof
  start : 0 ≤ nowMs
  timely : nowMs < record.expectedProofDeadlineMs
  left : TimeLeft record nowMs
  fresh : proof.purpose.isPhysical = true → proof.sequence ∉ record.usedSequences
  next : record.phase ∈ [ProbePhase.awaitingPhysicalTarget2, .awaitingNoopResponse,
    .awaitingChallengeResponse] → FreshSequence record proof nextSequence

omit [Sha256] in
/-- A proof of a command carries the sequence that was dispatched. -/
theorem Presented.dispatched {expected : ExpectedProbeProof} {proof : ProbeCommandProof} {nowMs : ℤ}
    {nextSequence : Option ℤ} (h : Presented record expected proof nowMs nextSequence)
    (hc : Collections record) (hexpected : record.expectedProof = some expected)
    (hvalid : expected.validate = .ok ()) (hcommand : expected.purpose.isPhysical = false) :
    proof.sequence ∈ record.usedSequences := by
  unfold ExpectedProbeProof.validate at hvalid
  cases hsequence : expected.sequence with
  | none =>
    rw [hcommand, hsequence] at hvalid
    cases hvalid
  | some sequence =>
    rw [h.accepts.2.2 sequence hsequence]
    exact hc.expectedSequence expected hexpected sequence hsequence

omit [Sha256] in
theorem proof_validate_eq_ok {proof : ProbeCommandProof} (h : proof.validate = .ok ()) :
    (0 ≤ proof.target ∧ proof.target ≤ 35)
      ∧ (proof.purpose.isPhysical = true → 0 ≤ proof.sequence ∧ proof.sequence ≤ 0xffff) := by
  simp only [ProbeCommandProof.validate, bind_unit_eq_ok, validateTarget_eq_ok_iff] at h
  refine ⟨h.1, fun hphysical => ?_⟩
  rw [if_pos hphysical] at h
  exact check_eq_ok.1 h.2

/-- The expected proof is accepted in a sound record whose generations are not used up. -/
theorem Sound.accepts (hhex : HexDigests) (hsound : Sound record)
    (hgeneration : record.generation < maxGeneration) {expected : ExpectedProbeProof}
    {proof : ProbeCommandProof} {nowMs : ℤ} {nextSequence : Option ℤ}
    (hexpected : record.expectedProof = some expected)
    (hopen : record.remediationAfterRestore = true ∨ .restore ∉ record.purposes)
    (h : Presented record expected proof nowMs nextSequence) :
    ∃ next, record.acceptProof proof nowMs nextSequence = .ok next := by
  obtain ⟨hs, hc, hphase, hcapacity⟩ := of_validate hsound.valid
  have ha := active_of_expected hphase hexpected
  obtain ⟨other, hother, hpurpose, hcanonical⟩ := ha.expected
  obtain rfl : expected = other := Option.some.inj (hexpected.symm.trans hother)
  obtain ⟨hpurposeProof, htargetProof, -⟩ := h.accepts
  rw [hpurpose] at hpurposeProof
  have hsame : proof.target = record.targetOf proof.purpose := by
    rw [htargetProof, hcanonical, hpurposeProof]
  obtain ⟨htarget, hrange⟩ := proof_validate_eq_ok h.built
  have hclock : 0 ≤ nowMs ∧ nowMs ≤ maxSafeInteger :=
    ⟨h.start, (h.timely.le.trans ha.deadline.2).trans hs.operationDeadline.2⟩
  have hdispatched : expected.purpose.isPhysical = false → proof.sequence ∈ record.usedSequences :=
    h.dispatched hc hexpected (hsound.expects expected hexpected)
  have hbuilt : ∀ other ∈ record.proofs ++ [proof], other.validate = .ok () := by
    intro other hmem
    rcases List.mem_append.1 hmem with hmem | hmem
    · exact hsound.built other hmem
    · rw [List.mem_singleton.1 hmem]
      exact h.built
  have hleft := h.left
  have hnext := h.next
  -- a physical proof brings its sequence with it, a command used one that was dispatched
  have hphysical : ∀ next, proof.purpose.isPhysical = true →
      record.advance (record.proofs ++ [proof]) (record.usedSequences ++ [proof.sequence]) nowMs
        nextSequence = .ok next → record.acceptProof proof nowMs nextSequence = .ok next := by
    intro next hpurpose hadvance
    simp only [ProbeRecoveryRecord.acceptProof, bind_unit_eq_ok, check_eq_ok, checkSafeMilliseconds,
      if_pos hpurpose]
    exact ⟨⟨expected, hexpected, h.accepts⟩, hclock, h.timely, h.fresh hpurpose, hadvance⟩
  have hcommand : ∀ next, proof.purpose.isPhysical = false →
      record.advance (record.proofs ++ [proof]) record.usedSequences nowMs nextSequence = .ok next →
      record.acceptProof proof nowMs nextSequence = .ok next := by
    intro next hpurpose hadvance
    have hused := hdispatched (by rw [← h.accepts.1]; exact hpurpose)
    simp only [ProbeRecoveryRecord.acceptProof, bind_unit_eq_ok, check_eq_ok, checkSafeMilliseconds,
      if_neg (Bool.eq_false_iff.1 hpurpose)]
    exact ⟨⟨expected, hexpected, h.accepts⟩, hclock, h.timely, hused, hadvance⟩
  -- one lemma for each awaited proof
  cases hawaited : record.phase with
  | awaitingPhysicalTarget1 =>
    rw [hawaited] at hpurposeProof
    have hkind : proof.purpose.isPhysical = true := by rw [hpurposeProof]; rfl
    rw [TimeLeft, hawaited] at hleft
    exact ⟨_, hphysical _ hkind (advance_physicalTarget1 hs hc ha hawaited hcapacity hgeneration
      hpurposeProof htarget hsame (hrange hkind) (h.fresh hkind) h.start hleft)⟩
  | awaitingPhysicalTarget2 =>
    rw [hawaited] at hpurposeProof
    have hkind : proof.purpose.isPhysical = true := by rw [hpurposeProof]; rfl
    rw [TimeLeft, hawaited] at hleft
    obtain ⟨sequence, rfl, hsequence, hunused, hdistinct⟩ := hnext (by rw [hawaited]; decide)
    exact ⟨_, hphysical _ hkind (advance_physicalTarget2 hs hc ha hawaited hcapacity hgeneration
      hpurposeProof htarget hsame (hrange hkind) (h.fresh hkind) hsequence hunused hdistinct h.start
      hleft)⟩
  | awaitingNoopResponse =>
    rw [hawaited] at hpurpose hpurposeProof
    have hkind : proof.purpose.isPhysical = false := by rw [hpurposeProof]; rfl
    have hused := hdispatched (by rw [hpurpose]; rfl)
    rw [TimeLeft, hawaited] at hleft
    obtain ⟨sequence, rfl, hsequence, hunused, -⟩ := hnext (by rw [hawaited]; decide)
    exact ⟨_, hcommand _ hkind (advance_noop hs hc ha hawaited hcapacity hgeneration hpurposeProof
      htarget hsame hused hsequence hunused h.start hleft)⟩
  | awaitingChallengeResponse =>
    rw [hawaited] at hpurpose hpurposeProof
    have hkind : proof.purpose.isPhysical = false := by rw [hpurposeProof]; rfl
    have hused := hdispatched (by rw [hpurpose]; rfl)
    rw [TimeLeft, hawaited] at hleft
    obtain ⟨sequence, rfl, hsequence, hunused, -⟩ := hnext (by rw [hawaited]; decide)
    exact ⟨_, hcommand _ hkind (advance_challenge hs hc ha hawaited hcapacity hgeneration
      hpurposeProof htarget hsame hused hsequence hunused h.start hleft)⟩
  | awaitingRestoreResponse =>
    rw [hawaited] at hpurpose hpurposeProof
    have hkind : proof.purpose.isPhysical = false := by rw [hpurposeProof]; rfl
    have hused := hdispatched (by rw [hpurpose]; rfl)
    rw [TimeLeft, hawaited] at hleft
    obtain ⟨next, hadvance⟩ := advance_restore hhex hs hc ha hawaited hcapacity hgeneration hbuilt
      hpurposeProof htarget hsame hused hopen h.start hleft
    exact ⟨next, hcommand next hkind hadvance⟩
  | resultPendingAck => exact absurd (by rw [hawaited]; decide) ha.phase
  | quiescent => exact absurd (by rw [hawaited]; decide) ha.phase
  | remediationRequired => exact absurd (by rw [hawaited]; decide) ha.phase

/-- The expected proof leads a reachable record to the one that its step determines. -/
theorem Reachable.accepts (hhex : HexDigests) (h : Reachable record)
    (hgeneration : record.generation < maxGeneration) {expected : ExpectedProbeProof}
    {proof : ProbeCommandProof} {nowMs : ℤ} {nextSequence : Option ℤ} {target : ProbeRecoveryRecord}
    (hexpected : record.expectedProof = some expected)
    (hopen : record.remediationAfterRestore = true ∨ .restore ∉ record.purposes)
    (hpresented : Presented record expected proof nowMs nextSequence)
    (htarget : ∀ next, record.advance (record.proofs ++ [proof])
      (if proof.purpose.isPhysical = true then record.usedSequences ++ [proof.sequence]
        else record.usedSequences) nowMs nextSequence = .ok next → next = target) :
    Reachable target := by
  obtain ⟨next, haccept⟩ := h.sound.accepts hhex hgeneration hexpected hopen hpresented
  have hnext : next = target := htarget next (advance_of_acceptProof haccept)
  exact hnext ▸ h.step (.acceptProof proof nowMs nextSequence hpresented.built haccept)

/-- A restore can be started in a sound record that owes one. -/
theorem Sound.restores (hsound : Sound record) (hgeneration : record.generation < maxGeneration)
    (hawaited : record.phase ∈ [ProbePhase.awaitingChallengeResponse, .awaitingRestoreResponse])
    (hattempts : record.restoreAttempts < maxRestoreAttempts) {code : Text}
    (hcode : code ∈ failureCodes) {sequence nowMs : ℤ} (hrange : 0 ≤ sequence ∧ sequence ≤ 0xfffe)
    (hfresh : sequence ∉ record.usedSequences) (hnow : 0 ≤ nowMs)
    (hwindow : nowMs + directProofWindowMs ≤ record.operationDeadlineMs) :
    ∃ next, record.beginRestore (some sequence) (some code) nowMs none none none = .ok next := by
  have hmaxAttempts : maxRestoreAttempts = 3 := rfl
  have hmaxUnclaimed : maxUnclaimedSafetyAttempts = 3 := rfl
  have hmaxUsed : (maxUsedSequences : ℤ) = 16 := rfl
  obtain ⟨hs, hc, hphase, hcapacity⟩ := of_validate hsound.valid
  have hactive : ¬ IsTerminal record.phase := by
    intro hterminal
    rcases List.mem_pair.1 hawaited with hphase | hphase <;> rw [hphase] at hterminal <;>
      exact absurd hterminal (by decide)
  have ha : Active record := by
    unfold ProbeRecoveryRecord.validatePhase at hphase
    rw [if_neg hactive] at hphase
    exact active_of_validate hactive hphase
  have hcheck := check_eq_ok.1 hcapacity
  refine ⟨_, beginRestore_succeeds hs hc rfl rfl ?_ hgeneration hattempts hc.proofsLength hc.order
    hc.proofs ?_ (fun _ hmem => by cases hmem; exact hcode)
    (fun hnone => by cases hnone) hrange hfresh
    ?_ hnow hwindow⟩
  · rcases List.mem_pair.1 hawaited with hphase | hphase <;> rw [hphase] <;> decide
  · have hhistory := ha.history
    rcases List.mem_pair.1 hawaited with hphase | hphase <;> rw [hphase] at hhistory
    · have hproofs : record.proofs.map ProbeCommandProof.purpose
          = [.physicalTarget1, .physicalTarget2, .noop] := List.mem_singleton.1 hhistory
      rw [Option.getD_none, hproofs]
      decide
    · exact hhistory
  · rcases List.mem_pair.1 hawaited with hphase | hphase
    · rw [requiredSequences, hphase] at hcheck
      have hzero := (ha.before (by rw [hphase]; decide)).1
      dsimp only at hcheck
      omega
    · rw [requiredSequences, hphase] at hcheck
      dsimp only at hcheck
      omega

/-- A reachable record whose generations are not used up can start the restore that it owes, and it
accepts the proof that it expects; a restore that was proven once is proven again only on the way to
remediation. -/
theorem obligation_dischargeable (hhex : HexDigests) (h : Reachable record)
    (hgeneration : record.generation < maxGeneration) :
    (record.restoreRequired = true →
      record.phase ∈ [ProbePhase.awaitingChallengeResponse, .awaitingRestoreResponse] →
      record.restoreAttempts < maxRestoreAttempts →
      ∀ code ∈ failureCodes, ∀ sequence nowMs : ℤ, 0 ≤ sequence ∧ sequence ≤ 0xfffe →
        sequence ∉ record.usedSequences → 0 ≤ nowMs →
        nowMs + directProofWindowMs ≤ record.operationDeadlineMs →
        ∃ next, record.beginRestore (some sequence) (some code) nowMs none none none = .ok next)
    ∧ ∀ expected ∈ record.expectedProof,
      (record.remediationAfterRestore = true ∨ .restore ∉ record.purposes) →
      ∀ proof nowMs nextSequence, Presented record expected proof nowMs nextSequence →
        ∃ next, record.acceptProof proof nowMs nextSequence = .ok next :=
  ⟨fun _ hphase hattempts _ hcode _ _ hrange hfresh hnow hwindow =>
      h.sound.restores hgeneration hphase hattempts hcode hrange hfresh hnow hwindow,
    fun _ hexpected hopen _ _ _ hpresented =>
      h.sound.accepts hhex hgeneration hexpected hopen hpresented⟩

end

/-! ## A record that is resumed too often -/

theorem isLowerHex_hexDigit : ∀ n < 16, isLowerHex (hexDigit n) = true := by decide

/-- The checksum has the shape of a digest. -/
theorem hexDigests_checksum : @HexDigests checksum := by
  intro bytes
  have hlength : ∀ width n, (bigEndian width n).length = width := by
    intro width
    induction width with
    | zero => exact fun _ => rfl
    | succ width ih => exact fun n => congrArg Nat.succ (ih n)
  have hbytes : ∀ width n, ∀ byte ∈ bigEndian width n, byte < 256 := by
    intro width
    induction width with
    | zero => exact fun _ _ hmem => by cases hmem
    | succ width ih =>
      intro n byte hmem
      rcases List.mem_cons.1 hmem with rfl | hmem
      · exact Nat.mod_lt _ (by decide)
      · exact ih n byte hmem
  have htext : ∀ octets : List ℕ, (hexText octets).length = 2 * octets.length := by
    intro octets
    induction octets with
    | nil => rfl
    | cons byte octets ih =>
      have hcons : hexText (byte :: octets)
          = hexDigit (byte / 16) :: hexDigit (byte % 16) :: hexText octets := rfl
      rw [hcons, List.length_cons, List.length_cons, ih, List.length_cons]
      omega
  simp only [digestPattern, hexAfter, List.length_nil, List.drop_zero, Bool.and_eq_true,
    decide_eq_true_eq, List.all_eq_true]
  refine ⟨⟨rfl, ?_⟩, fun c hmem => ?_⟩
  · exact (htext _).trans (congrArg (2 * ·) (hlength _ _))
  · obtain ⟨byte, hbyte, hmem⟩ := List.mem_flatMap.1 hmem
    have hlt := hbytes _ _ byte hbyte
    rcases List.mem_pair.1 hmem with rfl | rfl
    · exact isLowerHex_hexDigit _ (by omega)
    · exact isLowerHex_hexDigit _ (by omega)

def firstBoot : Text := chars "tfpp-boot-0123456789abcdef0123456789abcdef"

def secondBoot : Text := chars "tfpp-boot-fedcba9876543210fedcba9876543210"

def requestName : Text := chars "tfpp-req-0123456789abcdef01234567"

/-- The boots alternate. -/
def bootAfter (resumes : ℕ) : Text := if resumes % 2 = 0 then firstBoot else secondBoot

/-- An armed record, at the first millisecond. -/
def armedSample : ProbeRecoveryRecord where
  schema := chars "true-family-physical-probe-state-v2"
  protocolId := chars "true-family-physical-probe"
  protocolVersion := 2
  buildId := chars "tfpp-v2-z2m-2.12.1-zh-10.6.1-zhc-26.76.0"
  profileId := brtProfile.profileId
  profileVersion := brtProfile.profileVersion
  candidateIeee := chars "0x00158d0001a2b3c4"
  candidateSetTopic := chars "kitchen/set"
  operationId := chars "tfpp-op-0123456789abcdef01234567"
  boundBootId := firstBoot
  phase := .awaitingPhysicalTarget1
  generation := 1
  operationDeadlineMs := 60000
  lastRequestDeadlineMs := 1
  expectedProofDeadlineMs := 60000
  intendedTarget := 21
  challengeTarget := challengeOf 21
  physicalTargets := (19, 21)
  restoreRequired := false
  remediationAfterRestore := false
  restoreAttempts := 0
  consumedRequestIds := [requestName]
  usedSequences := []
  proofs := []
  expectedProof := some ⟨.physicalTarget1, none, 19⟩
  outcome := none
  failureCode := none
  resultId := none
  resultNotBeforeMs := 0
  cleanupAllowed := false

/-- The armed record after some resumes. -/
def resumed (resumes : ℕ) : ProbeRecoveryRecord :=
  { armedSample with
    boundBootId := bootAfter resumes
    generation := 1 + resumes
    lastRequestDeadlineMs := 1 + resumes }

theorem bootPattern_bootAfter (resumes : ℕ) : bootPattern (bootAfter resumes) = true := by
  unfold bootAfter
  split
  · decide
  · decide

theorem armedSample_scalars : Scalars armedSample where
  schema := ⟨rfl, rfl⟩
  build := ⟨rfl, rfl⟩
  profile := ⟨rfl, rfl⟩
  ieee := by decide
  setTopic := by rfl
  operationId := by decide
  boundBootId := by decide
  generation := by decide
  operationDeadline := ⟨by decide, by decide⟩
  lastRequestDeadline := ⟨by decide, by decide⟩
  expectedProofDeadline := ⟨by decide, by decide⟩
  resultNotBefore := ⟨by decide, by decide⟩
  intendedTarget := by decide
  challengeTarget := rfl
  restoreAttempts := by decide
  failureCode := fun _ hmem => by cases hmem

theorem armedSample_collections : Collections armedSample where
  firstTarget := by decide
  secondTarget := by decide
  targets := by decide
  consumedLength := by decide
  consumed := by decide
  consumedNodup := by decide
  usedLength := by decide
  used := fun _ hmem => by cases hmem
  usedNodup := by decide
  proofsLength := by decide
  order := by decide
  proofs := fun _ hmem => by cases hmem
  expectedTarget := by
    intro expected hmem
    cases hmem
    decide
  expectedSequence := by
    intro expected hmem sequence hsequence
    cases hmem
    cases hsequence

theorem armedSample_active : Active armedSample where
  phase := by decide
  result := ⟨rfl, rfl, rfl⟩
  notBefore := rfl
  remediation := fun hbad => by cases hbad
  expected := ⟨_, rfl, rfl, rfl⟩
  deadline := by decide
  required := by decide
  history := by decide
  restoring := fun hbad => by cases hbad
  before := fun _ => ⟨rfl, rfl⟩

theorem resumed_valid {resumes : ℕ} (h : resumes ≤ 63) :
    @ProbeRecoveryRecord.validate checksum (resumed resumes) = .ok () := by
  have hmaxGeneration : maxGeneration = 64 := rfl
  have hsafe : maxSafeInteger = 9007199254740991 := rfl
  have hs := armedSample_scalars
  have hc := armedSample_collections
  have ha := armedSample_active
  have hgeneration : 1 ≤ (1 + resumes : ℤ) ∧ (1 + resumes : ℤ) ≤ maxGeneration := by omega
  have hdeadline : SafeInteger (1 + resumes) := ⟨by omega, by omega⟩
  have hs' : Scalars (resumed resumes) :=
    ⟨hs.schema, hs.build, hs.profile, hs.ieee, hs.setTopic, hs.operationId,
      bootPattern_bootAfter resumes, hgeneration, hs.operationDeadline, hdeadline,
      hs.expectedProofDeadline, hs.resultNotBefore, hs.intendedTarget, hs.challengeTarget,
      hs.restoreAttempts, hs.failureCode⟩
  have hc' : Collections (resumed resumes) :=
    ⟨hc.firstTarget, hc.secondTarget, hc.targets, hc.consumedLength, hc.consumed, hc.consumedNodup,
      hc.usedLength, hc.used, hc.usedNodup, hc.proofsLength, hc.order, hc.proofs, hc.expectedTarget,
      hc.expectedSequence⟩
  have ha' : Active (resumed resumes) :=
    ⟨ha.phase, ha.result, ha.notBefore, ha.remediation, ha.expected, ha.deadline, ha.required,
      ha.history, ha.restoring, ha.before⟩
  exact @validate_eq_ok _ checksum hs' hc' (fun _ hmem => by cases hmem)
    (@Active.validatePhase _ checksum ha') (by rfl)

theorem resumed_deadline : boundedPhaseDeadline 0 60000 physicalProofWindowMs = .ok 60000 := by rfl

theorem resumed_armed : ∃ candidate : NormalizedCandidateIdentity,
    @ProbeRecoveryRecord.arm checksum brtProfile candidate (chars "kitchen/set")
      (chars "tfpp-op-0123456789abcdef01234567") firstBoot requestName 1 60000 21 (19, 21) 0
        = .ok (resumed 0) := by
  refine ⟨⟨chars "0x00158d0001a2b3c4", chars "BRT-100-TRV", chars "Moes", chars "TS0601",
    chars "_TZE200_b6wax7g0", 1, chars "manuSpecificTuya", 0xef00⟩, ?_⟩
  have hvalid := resumed_valid (Nat.zero_le 63)
  simp only [ProbeRecoveryRecord.arm, bind_eq_ok, exists_unit, check_eq_ok, pure_eq_ok,
    checkPattern, validateFreshDeadline, checkSafeMilliseconds]
  exact ⟨rfl, rfl, by decide, by decide, by decide, ⟨by decide, by decide, by decide, by decide⟩,
    ⟨by decide, by decide, by decide, by decide⟩, by decide, rfl, rfl, _, resumed_deadline, _, rfl,
    rfl, hvalid, rfl⟩

theorem bootAfter_succ_ne (resumes : ℕ) : bootAfter (resumes + 1) ≠ bootAfter resumes := by
  have hne : secondBoot ≠ firstBoot := by decide
  unfold bootAfter
  split
  · rw [if_neg (by omega)]
    exact hne.symm
  · rw [if_pos (by omega)]
    exact hne

theorem resumed_succ {resumes : ℕ} (h : resumes < 63) :
    @ProbeRecoveryRecord.resume checksum (resumed resumes) (bootAfter (resumes + 1)) requestName
      (1 + (resumes + 1 : ℕ)) 0 none = .ok (resumed (resumes + 1)) := by
  have hvalid := resumed_valid (Nat.succ_le_of_lt h)
  have hsafe : maxSafeInteger = 9007199254740991 := rfl
  have hwindow : maxRequestWindowMs = 60000 := rfl
  have hmaxGeneration : maxGeneration = 64 := rfl
  have hactive : (resumed resumes).restoreRequired = false
      ∧ ¬ IsTerminal (resumed resumes).phase := ⟨rfl, armedSample_active.phase⟩
  have hphase : ¬ (resumed resumes).phase = .awaitingNoopResponse := by
    show ¬ ProbePhase.awaitingPhysicalTarget1 = .awaitingNoopResponse
    decide
  have hbinding : validateRequestBinding (resumed resumes) (bootAfter (resumes + 1)) requestName
      (1 + (resumes + 1 : ℕ)) 0 = .ok () := by
    simp only [validateRequestBinding, validateFreshDeadline, bind_unit_eq_ok, check_eq_ok,
      checkPattern, checkSafeMilliseconds]
    refine ⟨bootPattern_bootAfter _, by decide,
      ⟨⟨by omega, by omega⟩, by decide, by omega, by omega⟩,
      ?_, fun hbad => bootAfter_succ_ne resumes hbad.1,
      fun hbad => bootAfter_succ_ne resumes hbad.1⟩
    show (1 + resumes : ℤ) < 1 + (resumes + 1 : ℕ)
    omega
  have hconsumed : nextConsumedIds (resumed resumes) (bootAfter (resumes + 1)) requestName
      = [requestName] := if_neg (bootAfter_succ_ne resumes)
  have hgeneration : (1 + resumes : ℤ) + 1 = 1 + (resumes + 1 : ℕ) := by push_cast; ring
  simp only [ProbeRecoveryRecord.resume, bind_eq_ok, exists_unit, check_eq_ok, if_neg hphase,
    hconsumed]
  have hopen : (0 : ℤ) < 60000 := by decide
  refine ⟨hactive, hopen, hbinding, _, resumed_deadline, ?_⟩
  rw [@transition_eq_ok _ checksum]
  have hnext : ({ resumed resumes with
      boundBootId := bootAfter (resumes + 1)
      consumedRequestIds := [requestName]
      lastRequestDeadlineMs := 1 + (resumes + 1 : ℕ)
      expectedProofDeadlineMs := 60000
      generation := (resumed resumes).generation + 1 } : ProbeRecoveryRecord)
        = resumed (resumes + 1) := by
    have hsame : (resumed resumes).generation + 1 = (resumed (resumes + 1)).generation :=
      hgeneration
    rw [hsame]
    rfl
  refine ⟨?_, rfl, ?_, hnext.symm⟩
  · show (1 + resumes : ℤ) < maxGeneration
    omega
  · exact (congrArg (@ProbeRecoveryRecord.validate checksum) hnext).trans hvalid

theorem resumed_reachable {resumes : ℕ} (h : resumes ≤ 63) :
    @Reachable checksum (resumed resumes) := by
  induction resumes with
  | zero =>
    obtain ⟨candidate, harm⟩ := resumed_armed
    exact @Reachable.arm checksum _ candidate _ _ _ _ _ _ _ _ _ harm
  | succ resumes ih =>
    exact @Reachable.step checksum _ _ (ih (Nat.le_of_succ_le h))
      (@Step.resume checksum _ _ _ _ _ _ _ (resumed_succ h))

/-- The proof of the first physical target. -/
def firstProof : ProbeCommandProof := ⟨.physicalTarget1, 7, 19⟩

theorem armedSample_timely : 0 < armedSample.expectedProofDeadlineMs := by decide

theorem firstProof_presented (resumes : ℕ) :
    Presented (resumed resumes) ⟨.physicalTarget1, none, 19⟩ firstProof 0 none where
  built := by rfl
  accepts := ⟨rfl, rfl, fun _ hmem => by cases hmem⟩
  start := le_rfl
  timely := armedSample_timely
  left := by
    show (0 : ℤ) + physicalProofWindowMs ≤ 60000
    decide
  fresh := fun _ => List.not_mem_nil
  next := fun hbad => absurd hbad (by show ProbePhase.awaitingPhysicalTarget1 ∉ _; decide)

/-- The proof of the second physical target. -/
def secondProof : ProbeCommandProof := ⟨.physicalTarget2, 8, 21⟩

/-- The response to the command that changes nothing. -/
def noopProof : ProbeCommandProof := ⟨.noop, 9, 21⟩

/-- The armed record after its first proof. -/
def provenOnce : ProbeRecoveryRecord :=
  { armedSample with
    phase := .awaitingPhysicalTarget2
    generation := 2
    usedSequences := [7]
    proofs := [firstProof]
    expectedProof := some ⟨.physicalTarget2, none, 21⟩ }

/-- The record after both physical proofs. -/
def provenTwice : ProbeRecoveryRecord :=
  { provenOnce with
    phase := .awaitingNoopResponse
    generation := 3
    usedSequences := [7, 8, 9]
    proofs := [firstProof, secondProof]
    expectedProof := some ⟨.noop, some 9, 21⟩
    expectedProofDeadlineMs := 10000 }

/-- The record that owes a restore. -/
def owing : ProbeRecoveryRecord :=
  { provenTwice with
    phase := .awaitingChallengeResponse
    generation := 4
    usedSequences := [7, 8, 9, 10]
    proofs := [firstProof, secondProof, noopProof]
    expectedProof := some ⟨.challenge, some 10, 22⟩
    restoreRequired := true }

theorem secondProof_presented :
    Presented provenOnce ⟨.physicalTarget2, none, 21⟩ secondProof 0 (some 9) where
  built := by rfl
  accepts := ⟨rfl, rfl, fun _ hmem => by cases hmem⟩
  start := le_rfl
  timely := by decide
  left := by
    show (0 : ℤ) + directProofWindowMs ≤ 60000
    decide
  fresh := fun _ => by decide
  next := fun _ => ⟨9, rfl, by decide, by decide, by decide⟩

theorem noopProof_presented :
    Presented provenTwice ⟨.noop, some 9, 21⟩ noopProof 0 (some 10) where
  built := by rfl
  accepts := ⟨rfl, rfl, fun sequence hmem => by cases hmem; rfl⟩
  start := le_rfl
  timely := by decide
  left := by
    show (0 : ℤ) + directProofWindowMs ≤ 60000
    decide
  fresh := fun hbad => by cases hbad
  next := fun _ => ⟨10, rfl, by decide, by decide, by decide⟩

theorem directDeadline : boundedPhaseDeadline 0 60000 directProofWindowMs = .ok 10000 := by rfl

theorem provenOnce_reachable : @Reachable checksum provenOnce := by
  refine @Reachable.accepts _ checksum hexDigests_checksum
    (resumed_reachable (Nat.zero_le 63)) (by decide) _ _ _ _ _ rfl (Or.inr List.not_mem_nil)
    (firstProof_presented 0) fun next hadvance => ?_
  have hphase : (resumed 0).phase = .awaitingPhysicalTarget1 := rfl
  simp only [advance, hphase, bind_eq_ok, exists_unit, @transition_eq_ok _ checksum] at hadvance
  obtain ⟨-, _, hdeadline, -, -, -, rfl⟩ := hadvance
  -- the deadline of the next phase is bounded by that of the operation
  cases resumed_deadline.symm.trans hdeadline
  rfl

theorem provenTwice_reachable : @Reachable checksum provenTwice := by
  refine @Reachable.accepts _ checksum hexDigests_checksum
    provenOnce_reachable (by decide) _ _ _ _ _ rfl (Or.inr (by decide)) secondProof_presented
    fun next hadvance => ?_
  have hphase : provenOnce.phase = .awaitingPhysicalTarget2 := rfl
  simp only [advance, hphase, bind_eq_ok, exists_unit, @transition_eq_ok _ checksum] at hadvance
  obtain ⟨_, hsequence, -, _, hdeadline, -, -, -, rfl⟩ := hadvance
  cases hsequence
  cases directDeadline.symm.trans hdeadline
  rfl

theorem owing_reachable : @Reachable checksum owing := by
  refine @Reachable.accepts _ checksum hexDigests_checksum
    provenTwice_reachable (by decide) _ _ _ _ _ rfl (Or.inr (by decide)) noopProof_presented
    fun next hadvance => ?_
  have hphase : provenTwice.phase = .awaitingNoopResponse := rfl
  simp only [advance, hphase, bind_eq_ok, exists_unit, @transition_eq_ok _ checksum] at hadvance
  obtain ⟨_, hsequence, -, _, hdeadline, -, -, -, rfl⟩ := hadvance
  cases hsequence
  cases directDeadline.symm.trans hdeadline
  rfl

/-- The record that owes a restore starts it, and the armed record accepts its first proof. -/
theorem armed_dischargeable :
    (∃ next, @ProbeRecoveryRecord.beginRestore checksum owing (some 11)
        (some (chars "restart_recovery")) 0 none none none = .ok next)
      ∧ ∃ next, @ProbeRecoveryRecord.acceptProof checksum (resumed 0) firstProof 0 none
        = .ok next := by
  constructor
  · exact (@obligation_dischargeable _ checksum hexDigests_checksum owing_reachable
      (by decide)).1 rfl
      (by decide) (by decide) _ (by decide) 11 0 (by decide) (by decide) le_rfl (by decide)
  · exact (@obligation_dischargeable _ checksum hexDigests_checksum
      (resumed_reachable (Nat.zero_le 63)) (by decide)).2 _ rfl (Or.inr List.not_mem_nil) _ _ _
      (firstProof_presented 0)

/-- After the last generation the expected proof is refused. -/
theorem resumed_refused :
    ¬ ∀ record, @Reachable checksum record → ∀ expected ∈ record.expectedProof,
      ∀ proof nowMs nextSequence, Presented record expected proof nowMs nextSequence →
        ∃ next, @ProbeRecoveryRecord.acceptProof checksum record proof nowMs nextSequence
          = .ok next := by
  intro hall
  obtain ⟨next, h⟩ := hall (resumed 63) (resumed_reachable le_rfl) _ rfl _ _ _
    (firstProof_presented 63)
  have hphase : (resumed 63).phase = .awaitingPhysicalTarget1 := rfl
  have hadvance := @advance_of_acceptProof _ _ checksum _ _ _ h
  simp only [advance, hphase, bind_eq_ok, exists_unit, @transition_eq_ok _ checksum] at hadvance
  obtain ⟨-, _, -, hgeneration, -⟩ := hadvance
  exact absurd hgeneration (by decide)

end ProbeRecoveryRecord

end TrueFamily.Probe
