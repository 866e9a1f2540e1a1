import TrueFamily.Transaction.Refinement

/-!
# Changes of an attempt

`AttemptChange` lists what a step may do to the attempt it rewrites, and `HistoryStep.cases` says
that every step leaves the history, appends an attempt or changes one so. The invariants of
reachable journals are derived from these few cases.

A terminal attempt is settled: none of its records is waiting for an outcome, so no change applies
to it (`AttemptChange.not_terminal`), although several methods of the journal do not look at the
state of the attempt.
-/

namespace TrueFamily.Transaction

open Checked Sorting InMemoryBridgeOperationJournal BridgeOperationAttempt

variable [DigestJson]

/-! ## Terminal attempts are settled -/

/-- The attempt is committed or restored. -/
def BridgeOperationAttempt.Terminal (attempt : BridgeOperationAttempt) : Prop :=
  attempt.state = .committed ∨ attempt.state = .restored

namespace BridgeOperationAttempt.WellFormed

variable {attempt : BridgeOperationAttempt}

/-- Every acquisition of a terminal attempt came to its end. -/
theorem acquisition_ended (h : attempt.WellFormed) (hterminal : attempt.Terminal)
    {record : FenceAcquisitionRecord} (hmem : record ∈ attempt.acquisitions) :
    ∃ terminalAt, AcquisitionEnded attempt terminalAt record := by
  have hstate := h.state_ok
  unfold StateWellFormed at hstate
  rcases hterminal with hcommitted | hrestored
  · rw [hcommitted] at hstate
    obtain ⟨terminalAt, hwf⟩ := hstate
    exact ⟨terminalAt, hwf.ended record hmem⟩
  · rw [hrestored] at hstate
    obtain ⟨terminalAt, hwf⟩ := hstate
    exact ⟨terminalAt, hwf.ended record hmem⟩

theorem acquisition_settled (h : attempt.WellFormed) (hterminal : attempt.Terminal)
    {record : FenceAcquisitionRecord} (hmem : record ∈ attempt.acquisitions) :
    record.state ≠ .intentRecorded ∧ record.state ≠ .dispatchArmed := by
  obtain ⟨terminalAt, hended⟩ := h.acquisition_ended hterminal hmem
  cases hended with
  | tombstoned receipt htombstone _ _ =>
    rw [(LifecycleRecord.tombstone?_eq_some.1 htombstone).1]
    decide
  | undispatched hundispatched _ =>
    rw [hundispatched.1]
    decide
  | released acquired _ _ hacknowledged _ _ =>
    rw [(LifecycleRecord.acknowledged?_eq_some.1 hacknowledged).1]
    decide

theorem release_settled (h : attempt.WellFormed) (hterminal : attempt.Terminal)
    {record : FenceReleaseRecord} (hmem : record ∈ attempt.releases) :
    record.state = .acknowledged ∨ record.state = .noEffect := by
  obtain ⟨acquisition, hacquisition, hid, _⟩ := h.releases.acquired record hmem
  have hchain : record ∈ releaseChain attempt acquisition.intent.operationId :=
    mem_releaseChain.2 ⟨hmem, hid.symm⟩
  obtain ⟨terminalAt, hended⟩ := h.acquisition_ended hterminal hacquisition
  cases hended with
  | tombstoned _ _ _ hempty =>
    rw [hempty] at hchain
    cases hchain
  | undispatched _ hempty =>
    rw [hempty] at hchain
    cases hchain
  | released _ release receipt _ _ hreleased =>
    -- the chain is tombstones with one acknowledged release at its end
    rw [← List.dropLast_append_getLast? release hreleased.last, List.mem_append,
      List.mem_singleton] at hchain
    rcases hchain with hearlier | hlast
    · obtain ⟨tombstone, htombstone, _⟩ := hreleased.tombstoned record hearlier
      exact Or.inr (LifecycleRecord.tombstone?_eq_some.1 htombstone).1
    · rw [hlast]
      exact Or.inl (LifecycleRecord.acknowledged?_eq_some.1 hreleased.acknowledged).1

theorem operation_settled (h : attempt.WellFormed) (hterminal : attempt.Terminal)
    {record : BridgeOperationRecord} (hmem : record ∈ attempt.operations) :
    record.state = .verified ∨ record.state = .blocked := by
  have hstate := h.state_ok
  unfold StateWellFormed at hstate
  rcases hterminal with hcommitted | hrestored
  · rw [hcommitted] at hstate
    obtain ⟨terminalAt, hwf⟩ := hstate
    exact Or.inl (hwf.applied record hmem).1
  · rw [hrestored] at hstate
    obtain ⟨terminalAt, hwf⟩ := hstate
    by_cases hkind : record.intent.kind = .write
    · cases hwf.restored record hmem hkind with
      | undispatched hundispatched _ => exact Or.inr hundispatched.1
      | noEffect _ hverified _ _ _ _ => exact Or.inl hverified
      | compensated _ _ heligible _ _ _ _ _ _ =>
        rcases heligible.1 with hverified | ⟨hblocked, _⟩
        · exact Or.inl hverified
        · exact Or.inr hblocked
    · -- a rollback is in the chain of its parent, which the parent's end describes
      obtain ⟨before, after, hsplit⟩ := List.append_of_mem hmem
      obtain ⟨parent, hadmitted⟩ := h.operations.rollback before record after hsplit hkind
      have hparent : parent ∈ attempt.operations := by
        rw [hsplit]
        exact List.mem_append_left _ hadmitted.mem
      have hchain : record ∈ rollbackChain attempt.operations parent.intent.operationId :=
        mem_rollbackChain.2 ⟨hmem, hkind, hadmitted.parent_eq⟩
      cases hwf.restored parent hparent hadmitted.kind_eq with
      | undispatched _ hempty =>
        rw [hempty] at hchain
        cases hchain
      | noEffect _ _ _ _ hempty _ =>
        rw [hempty] at hchain
        cases hchain
      | compensated _ final _ _ _ hlast hearlier hfinal _ =>
        rw [← List.dropLast_append_getLast? final hlast, List.mem_append,
          List.mem_singleton] at hchain
        rcases hchain with hretried | rfl
        · rcases hearlier record hretried with hundispatched | hverified
          · exact Or.inr hundispatched.1
          · exact Or.inl hverified.1
        · exact Or.inl hfinal.1

end BridgeOperationAttempt.WellFormed

/-! ## Changes -/

/-- What a step may do to the attempt that it rewrites. -/
inductive AttemptChange (history : History) (attempt : BridgeOperationAttempt) :
    BridgeOperationAttempt → Prop
  | addAcquisition {intent} : history.AdmitsAcquisition attempt intent →
      AttemptChange history attempt (attempt.addAcquisition intent)
  | addRelease {intent boundary} : history.AdmitsRelease attempt intent boundary →
      AttemptChange history attempt (attempt.addRelease intent boundary)
  | addOperation {intent} : history.AdmitsOperation attempt intent →
      AttemptChange history attempt (attempt.addOperation intent)
  | setAcquisition {index record updated} : attempt.acquisitions[index]? = some record →
      record.Transition updated →
      AttemptChange history attempt (attempt.setAcquisition index updated)
  | setRelease {index record updated} : attempt.releases[index]? = some record →
      record.Transition updated →
      AttemptChange history attempt (attempt.setRelease index updated)
  | setOperation {index record updated} : attempt.operations[index]? = some record →
      record.Transition updated →
      ¬ attempt.Terminal ∨ record.state = .intentRecorded ∨ record.state = .dispatchArmed →
      AttemptChange history attempt (attempt.setOperation index updated)
  | blockAcquisition {index record updated reasonCode} :
      attempt.acquisitions[index]? = some record → record.Transition updated →
      AttemptChange history attempt ((attempt.setAcquisition index updated).blocked reasonCode)
  | blockOperation {index record updated reasonCode} :
      attempt.operations[index]? = some record → record.Transition updated →
      attempt.state = .open ∨ attempt.state = .blocked →
      AttemptChange history attempt ((attempt.setOperation index updated).blocked reasonCode)
  | close {state reasonCode terminalAt updated} :
      closedAttempt attempt state reasonCode terminalAt = .ok updated →
      AttemptChange history attempt updated

/-- A step leaves the history, appends an attempt or changes one. -/
theorem HistoryStep.cases {history history' : History} {call : JournalCall}
    {result : JournalResult} (h : HistoryStep history call result history') :
    history' = history
      ∨ (∃ attempt : BridgeOperationAttempt, attempt.WellFormed ∧ history.AdmitsAttempt attempt
        ∧ history' = history.append attempt)
      ∨ ∃ attempt updated, history.Holds attempt ∧ AttemptChange history attempt updated
        ∧ updated.WellFormed ∧ history' = history.set updated := by
  cases h with
  | appendAttempt hwf hadmits => exact Or.inr (Or.inl ⟨_, hwf, hadmits, rfl⟩)
  | recordAcquisitionIntent _ hadmits hwf =>
    exact Or.inr (Or.inr ⟨_, _, hadmits.holds, .addAcquisition hadmits, hwf, rfl⟩)
  | armAcquisition hat harm hwf =>
    obtain ⟨hstate, _, rfl⟩ := LifecycleRecord.arm_eq_ok.1 harm
    exact Or.inr (Or.inr ⟨_, _, hat.holds, .setAcquisition hat.get (.arm hstate), hwf, rfl⟩)
  | recordAcquisitionReceipt _ hat _ _ _ hack hwf =>
    obtain ⟨hstate, _, rfl⟩ := LifecycleRecord.acknowledge_eq_ok.1 hack
    exact Or.inr (Or.inr ⟨_, _, hat.holds, .setAcquisition hat.get (.acknowledge hstate), hwf, rfl⟩)
  | blockAcquisition hat hblock hwf =>
    obtain ⟨hstate, _, rfl⟩ := LifecycleRecord.block_eq_ok.1 hblock
    exact Or.inr (Or.inr ⟨_, _, hat.holds, .blockAcquisition hat.get (.block hstate), hwf, rfl⟩)
  | recordReleaseIntent _ hadmits hwf =>
    exact Or.inr (Or.inr ⟨_, _, hadmits.holds, .addRelease hadmits, hwf, rfl⟩)
  | armRelease hat harm hwf =>
    obtain ⟨hstate, _, rfl⟩ := LifecycleRecord.arm_eq_ok.1 harm
    exact Or.inr (Or.inr ⟨_, _, hat.holds, .setRelease hat.get (.arm hstate), hwf, rfl⟩)
  | recordReleaseReceipt _ hat _ _ _ hack hwf =>
    obtain ⟨hstate, _, rfl⟩ := LifecycleRecord.acknowledge_eq_ok.1 hack
    exact Or.inr (Or.inr ⟨_, _, hat.holds, .setRelease hat.get (.acknowledge hstate), hwf, rfl⟩)
  | recordIntent _ hadmits hwf =>
    exact Or.inr (Or.inr ⟨_, _, hadmits.holds, .addOperation hadmits, hwf, rfl⟩)
  | armOperation _ hat _ harm hwf =>
    obtain ⟨hstate, _, rfl⟩ := BridgeOperationRecord.arm_eq_ok.1 harm
    exact Or.inr (Or.inr ⟨_, _, hat.holds,
      .setOperation hat.get (.arm _ hstate) (Or.inr (Or.inl hstate)), hwf, rfl⟩)
  | recordReceipt _ hat _ hack hwf =>
    obtain ⟨hstate, _, rfl⟩ := BridgeOperationRecord.acknowledge_eq_ok.1 hack
    exact Or.inr (Or.inr ⟨_, _, hat.holds,
      .setOperation hat.get (.acknowledge _ hstate) (Or.inr (Or.inr hstate)), hwf, rfl⟩)
  | recordVerification _ hat hadmits hverify hwf =>
    rcases Represents.appendVerification_eq_ok.1 hverify with ⟨_, hverify⟩ | ⟨_, hverify⟩
    · obtain ⟨hstate, _, rfl⟩ := BridgeOperationRecord.verify_eq_ok.1 hverify
      exact Or.inr (Or.inr ⟨_, _, hat.holds,
        .setOperation hat.get (.verify _ hstate) (Or.inl hadmits.unsettled), hwf, rfl⟩)
    · obtain ⟨hstate, _, _, rfl⟩ := BridgeOperationRecord.refreshVerification_eq_ok.1 hverify
      exact Or.inr (Or.inr ⟨_, _, hat.holds,
        .setOperation hat.get (.refresh _ hstate) (Or.inl hadmits.unsettled), hwf, rfl⟩)
  | blockOperation hat hopen hblock hwf =>
    obtain ⟨hstate, _, rfl⟩ := BridgeOperationRecord.block_eq_ok.1 hblock
    exact Or.inr (Or.inr ⟨_, _, hat.holds, .blockOperation hat.get (.block _ hstate) hopen, hwf,
      rfl⟩)
  | setAttemptState hheld _ hclosed =>
    obtain ⟨_, _, _, _, hwf⟩ := Represents.closedAttempt_eq_ok.1 hclosed
    exact Or.inr (Or.inr ⟨_, _, hheld, .close hclosed, hwf, rfl⟩)
  -- a repeated call or a query
  | _ => exact Or.inl rfl

omit [DigestJson] in
/-- Only a record without an outcome changes. -/
theorem LifecycleRecord.Transition.pending {ι α ν : Type} [LifecycleOperation ι α ν]
    {record updated : LifecycleRecord ι α ν} (h : record.Transition updated) :
    record.state = .intentRecorded ∨ record.state = .dispatchArmed := by
  cases h with
  | arm hstate => exact Or.inl hstate
  | acknowledge hstate => exact Or.inr hstate
  | block hstate => exact hstate

omit [DigestJson] in
theorem LifecycleRecord.Transition.intent_eq {ι α ν : Type} [LifecycleOperation ι α ν]
    {record updated : LifecycleRecord ι α ν} (h : record.Transition updated) :
    updated.intent = record.intent := by
  cases h <;> rfl

section Guards

variable {attempt : BridgeOperationAttempt}

omit [DigestJson] in
theorem open_or_blocked_of_mayAcquire {provider : Provider}
    (h : assertMayAcquire attempt provider = .ok ()) :
    attempt.state = .open ∨ attempt.state = .blocked := by
  unfold assertMayAcquire at h
  cases hstate : attempt.state <;> simp [hstate] at h ⊢

omit [DigestJson] in
theorem open_or_blocked_of_mayOperate {kind : BridgeOperationKind}
    (h : assertMayOperate attempt kind = .ok ()) :
    attempt.state = .open ∨ attempt.state = .blocked := by
  unfold assertMayOperate at h
  cases hstate : attempt.state <;> simp [hstate] at h ⊢

omit [DigestJson] in
theorem open_or_blocked_of_closingReason {state : BridgeAttemptState}
    {reasonCode reason : Option BridgeBlockReason}
    (h : closingReason attempt state reasonCode = .ok reason) :
    attempt.state = .open ∨ attempt.state = .blocked := by
  unfold closingReason at h
  cases hstate : attempt.state <;> simp [hstate] at h ⊢

end Guards

/-- No change applies to a terminal attempt. -/
theorem AttemptChange.not_terminal {history : History} {attempt updated : BridgeOperationAttempt}
    (h : AttemptChange history attempt updated) (hwf : attempt.WellFormed) :
    ¬ attempt.Terminal := by
  intro hterminal
  have hclosed : ¬ (attempt.state = .open ∨ attempt.state = .blocked) := by
    rcases hterminal with hstate | hstate <;> rw [hstate] <;> decide
  cases h with
  | addAcquisition hadmits => exact hclosed (open_or_blocked_of_mayAcquire hadmits.mayAcquire)
  | addRelease hadmits => exact hclosed hadmits.mayRelease
  | addOperation hadmits => exact hclosed (open_or_blocked_of_mayOperate hadmits.mayOperate)
  | setAcquisition hget htransition =>
    obtain ⟨hintent, harmed⟩ := hwf.acquisition_settled hterminal (List.mem_of_getElem? hget)
    exact htransition.pending.elim hintent harmed
  | setRelease hget htransition =>
    have hpending := htransition.pending
    rcases hwf.release_settled hterminal (List.mem_of_getElem? hget) with hstate | hstate <;>
      rw [hstate] at hpending <;> simp at hpending
  | setOperation hget htransition hstate =>
    rcases hwf.operation_settled hterminal (List.mem_of_getElem? hget) with hsettled | hsettled <;>
      simp [hsettled, hterminal] at hstate
  | blockAcquisition hget htransition =>
    obtain ⟨hintent, harmed⟩ := hwf.acquisition_settled hterminal (List.mem_of_getElem? hget)
    exact htransition.pending.elim hintent harmed
  | blockOperation _ _ hopen => exact hclosed hopen
  | close hclosing =>
    obtain ⟨reason, hreason, _⟩ := Represents.closedAttempt_eq_ok.1 hclosing
    exact hclosed (open_or_blocked_of_closingReason hreason)

end TrueFamily.Transaction
