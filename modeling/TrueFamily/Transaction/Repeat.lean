import TrueFamily.Transaction.Reload

/-!
# Errors and repeated calls

A call that raises leaves the journal as it was, up to an empty list of a new plan. A call that
returned answers the same when it is made again, and changes nothing more, because every method
looks for its record before it stores one.

`set_attempt_state` misses one repetition: a blocked attempt that is restored keeps its own
reason, and the call that named another one is then taken for a new change of a terminal attempt.
-/

namespace TrueFamily.Transaction

open Checked Sorting InMemoryBridgeOperationJournal BridgeOperationAttempt

/-! ## Records after a write -/

namespace History

variable {history : History} {attempt next : BridgeOperationAttempt} {index : ℕ}

theorem AcquisitionAt.after_set {operationId : AcquireOperationId}
    {record updated : FenceAcquisitionRecord}
    (hat : history.AcquisitionAt operationId attempt index record)
    (hslot : attempt.slot = next.slot)
    (hrecords : next.acquisitions = attempt.acquisitions.set index updated)
    (hintent : updated.intent = record.intent) :
    (history.set next).AcquisitionAt operationId next index updated where
  holds := hat.holds.after_set hslot
  get := by
    rw [hrecords]
    exact List.getElem?_set_self (List.getElem?_eq_some_iff.1 hat.get).1
  id_eq := by rw [hintent, hat.id_eq]

theorem ReleaseAt.after_set {operationId : ReleaseOperationId}
    {record updated : FenceReleaseRecord}
    (hat : history.ReleaseAt operationId attempt index record)
    (hslot : attempt.slot = next.slot)
    (hrecords : next.releases = attempt.releases.set index updated)
    (hintent : updated.intent = record.intent) :
    (history.set next).ReleaseAt operationId next index updated where
  holds := hat.holds.after_set hslot
  get := by
    rw [hrecords]
    exact List.getElem?_set_self (List.getElem?_eq_some_iff.1 hat.get).1
  id_eq := by rw [hintent, hat.id_eq]

theorem OperationAt.after_set {operationId : ObjectOperationId}
    {record updated : BridgeOperationRecord}
    (hat : history.OperationAt operationId attempt index record)
    (hslot : attempt.slot = next.slot)
    (hrecords : next.operations = attempt.operations.set index updated)
    (hintent : updated.intent = record.intent) :
    (history.set next).OperationAt operationId next index updated where
  holds := hat.holds.after_set hslot
  get := by
    rw [hrecords]
    exact List.getElem?_set_self (List.getElem?_eq_some_iff.1 hat.get).1
  id_eq := by rw [hintent, hat.id_eq]

/-- A recorded acquisition is found again at its place in the order. -/
theorem AdmitsAcquisition.recorded_at {intent : FenceAcquisitionIntent}
    (hadmits : history.AdmitsAcquisition attempt intent) :
    ∃ index, (history.set (attempt.addAcquisition intent)).AcquisitionAt intent.operationId
      (attempt.addAcquisition intent) index (LifecycleRecord.recorded intent) := by
  have hmem : (LifecycleRecord.recorded intent : FenceAcquisitionRecord)
      ∈ (attempt.addAcquisition intent).acquisitions :=
    mem_sortedBy.2 (List.mem_append_right _ (List.mem_singleton_self _))
  obtain ⟨index, hget⟩ := List.mem_iff_getElem?.1 hmem
  exact ⟨index, hadmits.holds.after_set rfl, hget, rfl⟩

/-- A recorded release is found again at its place in the order. -/
theorem AdmitsRelease.recorded_at {intent : FenceReleaseIntent} {boundary : ℕ}
    (hadmits : history.AdmitsRelease attempt intent boundary) :
    ∃ index, (history.set (attempt.addRelease intent boundary)).ReleaseAt intent.operationId
      (attempt.addRelease intent boundary) index (LifecycleRecord.recorded intent) := by
  have hmem : (LifecycleRecord.recorded intent : FenceReleaseRecord)
      ∈ (attempt.addRelease intent boundary).releases :=
    mem_sortedBy.2 (List.mem_append_right _ (List.mem_singleton_self _))
  obtain ⟨index, hget⟩ := List.mem_iff_getElem?.1 hmem
  exact ⟨index, hadmits.holds.after_set rfl, hget, rfl⟩

theorem AdmitsOperation.recorded_at {intent : BridgeOperationIntent} [DigestJson]
    (hadmits : history.AdmitsOperation attempt intent) :
    (history.set (attempt.addOperation intent)).OperationAt intent.operationId
      (attempt.addOperation intent) attempt.operations.length
      (BridgeOperationRecord.recorded intent) where
  holds := hadmits.holds.after_set rfl
  get := List.getElem?_concat_length
  id_eq := rfl

end History

section

variable [DigestJson]

/-! ## Repeated calls -/

namespace InMemoryBridgeOperationJournal

/-- The call names a reason for a blocked attempt that is not the attempt's own. -/
def OverridesReason (journal : Journal) : JournalCall → Prop
  | .setAttemptState planId number _ (some reasonCode) _ =>
    ∃ attempt, journal.getAttempt planId number = .ok attempt ∧ attempt.state = .blocked
      ∧ attempt.reasonCode ≠ some reasonCode
  | _ => False

end InMemoryBridgeOperationJournal

/-- What a closed attempt keeps: its place, and the new state and time. -/
theorem closedAttempt_spec {attempt updated : BridgeOperationAttempt} {state : BridgeAttemptState}
    {reasonCode : Option BridgeBlockReason} {terminalAt : Option Datetime}
    (hclosed : closedAttempt attempt state reasonCode terminalAt = .ok updated) :
    updated.slot = attempt.slot ∧ updated.state = state ∧ updated.terminalAt = terminalAt
      ∧ (attempt.state = .open ∧ updated.reasonCode = reasonCode
        ∨ attempt.state = .blocked ∧ state = .restored
          ∧ updated.reasonCode = attempt.reasonCode) := by
  obtain ⟨reason, hreason, _, rfl, _⟩ := Represents.closedAttempt_eq_ok.1 hclosed
  refine ⟨rfl, rfl, rfl, ?_⟩
  unfold closingReason at hreason
  cases hstate : attempt.state with
  | blocked =>
    rw [hstate] at hreason
    obtain ⟨_, hrestored, hreason⟩ := bind_eq_ok.1 hreason
    exact Or.inr ⟨rfl, check_eq_ok.1 hrestored, pure_eq_ok.1 hreason⟩
  | «open» =>
    rw [hstate] at hreason
    exact Or.inl ⟨rfl, (Except.ok.inj hreason).symm⟩
  | committed => simp [hstate] at hreason
  | restored => simp [hstate] at hreason

/-- An attempt that was just closed is what the same call asks for, unless the call named a
reason that a blocked attempt did not take over. -/
theorem repeatsState_of_closed {attempt updated : BridgeOperationAttempt}
    {state : BridgeAttemptState} {reasonCode : Option BridgeBlockReason}
    {terminalAt : Option Datetime}
    (hclosed : closedAttempt attempt state reasonCode terminalAt = .ok updated)
    (hown : ∀ reason, reasonCode = some reason → attempt.state = .blocked →
      attempt.reasonCode = some reason) :
    repeatsState updated state reasonCode terminalAt := by
  obtain ⟨_, hstate, hterminal, hreason⟩ := closedAttempt_spec hclosed
  refine ⟨hstate, hterminal, ?_⟩
  rcases hreason with ⟨_, hreason⟩ | ⟨hblocked, hrestored, hreason⟩
  · exact Or.inl hreason
  · rw [hreason]
    cases hcode : reasonCode with
    | some reason => exact Or.inl (hown reason hcode hblocked)
    | none =>
      by_cases hnone : attempt.reasonCode = none
      · exact Or.inl hnone
      · exact Or.inr ⟨hrestored, rfl, hnone⟩

/-- A step that is taken again finds its record and keeps the history. -/
theorem HistoryStep.again {history history' : History} {call : JournalCall}
    {result : JournalResult} (h : HistoryStep history call result history')
    (hown : ∀ attempt state reason terminalAt, history.Holds attempt →
      call = .setAttemptState attempt.planId attempt.attempt state (some reason) terminalAt →
      attempt.state = .blocked → attempt.reasonCode = some reason) :
    HistoryStep history' call result history' := by
  cases h with
  -- the steps that changed the history: the record is now there, as the call would make it
  | appendAttempt hwf hadmits =>
    have hheld := (History.writes_append hadmits.number_eq _).2 (Or.inl rfl)
    exact .appendAttempt_again hwf hheld
  | recordAcquisitionIntent hintent hadmits _ =>
    obtain ⟨index, hat⟩ := hadmits.recorded_at
    exact .recordAcquisitionIntent_again hintent hat rfl
  | armAcquisition hat harm _ =>
    obtain ⟨_, _, rfl⟩ := LifecycleRecord.arm_eq_ok.1 harm
    exact .armAcquisition_again (hat.after_set rfl rfl rfl) rfl
  | recordAcquisitionReceipt hreceipt hat _ _ _ hack _ =>
    obtain ⟨_, _, rfl⟩ := LifecycleRecord.acknowledge_eq_ok.1 hack
    exact .recordAcquisitionReceipt_again hreceipt (hat.after_set rfl rfl rfl) rfl
  | blockAcquisition hat hblock _ =>
    obtain ⟨_, _, rfl⟩ := LifecycleRecord.block_eq_ok.1 hblock
    exact .blockAcquisition_again (hat.after_set rfl rfl rfl) rfl rfl
  | recordReleaseIntent hintent hadmits _ =>
    obtain ⟨index, hat⟩ := hadmits.recorded_at
    exact .recordReleaseIntent_again hintent hat rfl
  | armRelease hat harm _ =>
    obtain ⟨_, _, rfl⟩ := LifecycleRecord.arm_eq_ok.1 harm
    exact .armRelease_again (hat.after_set rfl rfl rfl) rfl
  | recordReleaseReceipt hreceipt hat _ _ _ hack _ =>
    obtain ⟨_, _, rfl⟩ := LifecycleRecord.acknowledge_eq_ok.1 hack
    exact .recordReleaseReceipt_again hreceipt (hat.after_set rfl rfl rfl) rfl
  | recordIntent hintent hadmits _ =>
    exact .recordIntent_again hintent hadmits.recorded_at rfl
  | armOperation hauthorization hat _ harm _ =>
    obtain ⟨_, _, rfl⟩ := BridgeOperationRecord.arm_eq_ok.1 harm
    exact .armOperation_again hauthorization (hat.after_set rfl rfl rfl) rfl rfl
  | recordReceipt hreceipt hat _ hack _ =>
    obtain ⟨_, _, rfl⟩ := BridgeOperationRecord.acknowledge_eq_ok.1 hack
    exact .recordReceipt_again hreceipt (hat.after_set rfl rfl rfl) rfl
  | recordVerification hverification hat _ hverify _ =>
    have hintent := (Represents.appendVerification_keeps hverify).1
    refine .recordVerification_again hverification (hat.after_set rfl rfl hintent) ?_
    rcases Represents.appendVerification_eq_ok.1 hverify with ⟨_, hverify⟩ | ⟨_, hverify⟩
    · obtain ⟨_, _, rfl⟩ := BridgeOperationRecord.verify_eq_ok.1 hverify
      exact List.mem_singleton_self _
    · obtain ⟨_, _, _, rfl⟩ := BridgeOperationRecord.refreshVerification_eq_ok.1 hverify
      exact List.mem_append_right _ (List.mem_singleton_self _)
  | blockOperation hat _ hblock _ =>
    obtain ⟨_, _, rfl⟩ := BridgeOperationRecord.block_eq_ok.1 hblock
    exact .blockOperation_again (hat.after_set rfl rfl rfl) rfl rfl
  | @setAttemptState attempt state reasonCode terminalAt updated hheld _ hclosed =>
    have hslot := (closedAttempt_spec hclosed).1
    have hrepeats := repeatsState_of_closed hclosed fun reason hcode hblocked =>
      hown attempt state reason terminalAt hheld (by rw [hcode]) hblocked
    obtain ⟨hplan, hnumber⟩ := Prod.mk.inj hslot
    rw [← show updated.planId = attempt.planId from hplan,
      ← show updated.attempt = attempt.attempt from hnumber]
    exact .setAttemptState_again (hheld.after_set hslot.symm) hrepeats
  -- the steps that found their record already, and the queries
  | appendAttempt_again hwf hheld => exact .appendAttempt_again hwf hheld
  | recordAcquisitionIntent_again hintent hat heq =>
    exact .recordAcquisitionIntent_again hintent hat heq
  | armAcquisition_again hat hstate => exact .armAcquisition_again hat hstate
  | recordAcquisitionReceipt_again hreceipt hat heq =>
    exact .recordAcquisitionReceipt_again hreceipt hat heq
  | blockAcquisition_again hat hstate hreason => exact .blockAcquisition_again hat hstate hreason
  | recordReleaseIntent_again hintent hat heq => exact .recordReleaseIntent_again hintent hat heq
  | armRelease_again hat hstate => exact .armRelease_again hat hstate
  | recordReleaseReceipt_again hreceipt hat heq =>
    exact .recordReleaseReceipt_again hreceipt hat heq
  | recordIntent_again hintent hat heq => exact .recordIntent_again hintent hat heq
  | armOperation_again hauthorization hat hstate heq =>
    exact .armOperation_again hauthorization hat hstate heq
  | recordReceipt_again hreceipt hat heq => exact .recordReceipt_again hreceipt hat heq
  | recordVerification_again hverification hat hmem =>
    exact .recordVerification_again hverification hat hmem
  | blockOperation_again hat hstate hreason => exact .blockOperation_again hat hstate hreason
  | setAttemptState_again hheld hrepeats => exact .setAttemptState_again hheld hrepeats
  | attemptsFor => exact .attemptsFor
  | highWater hmark => exact .highWater hmark
  | noHighWater hmark => exact .noHighWater hmark
  | getAttempt hheld => exact .getAttempt hheld
  | getOperation hat => exact .getOperation hat
  | getAcquisition hat => exact .getAcquisition hat
  | getRelease hat => exact .getRelease hat

/-- What `set_attempt_state` does to the attempt in a slot. -/
theorem HistoryStep.closes {history history' : History} {planId : PlanId} {number : ℕ}
    {state : BridgeAttemptState} {reasonCode : Option BridgeBlockReason}
    {terminalAt : Option Datetime} {result : JournalResult}
    (h : HistoryStep history (.setAttemptState planId number state reasonCode terminalAt)
      result history') :
    ∃ attempt, history.Holds attempt ∧ attempt.slot = (planId, number)
      ∧ (repeatsState attempt state reasonCode terminalAt ∨ ∃ updated,
        closedAttempt attempt state reasonCode terminalAt = .ok updated
          ∧ history' = history.set updated) := by
  cases h with
  | setAttemptState_again hheld hrepeats => exact ⟨_, hheld, rfl, Or.inl hrepeats⟩
  | setAttemptState hheld _ hclosed => exact ⟨_, hheld, rfl, Or.inr ⟨_, hclosed, rfl⟩⟩

/-- Closing a blocked attempt with a foreign reason cannot be taken again: the attempt is
terminal, and its reason is not the one that the call names. -/
theorem HistoryStep.not_again {history history' history'' : History}
    {attempt : BridgeOperationAttempt} {planId : PlanId} {number : ℕ} {state : BridgeAttemptState}
    {reason : BridgeBlockReason} {terminalAt : Option Datetime} {result result' : JournalResult}
    (hheld : history.Holds attempt) (hslot : attempt.slot = (planId, number))
    (hblocked : attempt.state = .blocked) (hother : attempt.reasonCode ≠ some reason)
    (h : HistoryStep history (.setAttemptState planId number state (some reason) terminalAt)
      result history') :
    ¬ HistoryStep history' (.setAttemptState planId number state (some reason) terminalAt)
      result' history'' := by
  intro hagain
  have hforeign : ∀ {found : BridgeOperationAttempt}, found.reasonCode = attempt.reasonCode →
      ¬ repeatsState found state (some reason) terminalAt := by
    rintro found hsame ⟨_, _, hreason | ⟨_, hnone, _⟩⟩
    · exact hother (hsame.symm.trans hreason)
    · cases hnone
  obtain ⟨found, hfound, hslot', hcase⟩ := h.closes
  obtain rfl := hfound.unique hheld (hslot'.trans hslot.symm)
  obtain ⟨updated, hclosed, rfl⟩ := hcase.resolve_left (hforeign rfl)
  obtain ⟨hsame, hstate, _, hreason⟩ := closedAttempt_spec hclosed
  rw [hblocked] at hreason
  obtain ⟨_, hrestored, hreason⟩ := hreason.resolve_left fun h => nomatch h.1
  obtain ⟨next, hnext, hslot'', hcase⟩ := hagain.closes
  obtain rfl := hnext.unique (hfound.after_set hsame.symm)
    (hslot''.trans (hslot.symm.trans hsame.symm))
  obtain ⟨_, hclosed', _⟩ := hcase.resolve_left (hforeign hreason)
  rcases (closedAttempt_spec hclosed').2.2.2 with ⟨hopen, _⟩ | ⟨hopen, _⟩ <;>
    rw [hstate, hrestored] at hopen <;> cases hopen

/-! ## Journals -/

namespace InMemoryBridgeOperationJournal

/-- In every reachable state, a call that raises leaves a journal that cannot be told apart from
the one before it, and a call that returned returns the same again and changes nothing, unless
it named a foreign reason for a blocked attempt. -/
theorem raises_unchanged_repeats_unchanged {journal : Journal} (hreach : Reachable journal)
    (call : JournalCall) :
    (∀ e next, (exec call).run journal = (.error e, next) → ObservablyEqual journal next)
      ∧ ∀ result next, (exec call).run journal = (.ok result, next) →
        ((∃ next', (exec call).run next = (.ok result, next') ∧ ObservablyEqual next next')
          ↔ ¬ journal.OverridesReason call) := by
  obtain ⟨history, _, hrep⟩ := hreach.represents
  refine ⟨fun e next hrun => hrep.observablyEqual (hrep.exec_raises hrun), ?_⟩
  intro result next hrun
  obtain ⟨history', hstep, hnext⟩ := hrep.exec_sound hrun
  constructor
  · rintro ⟨next', hrepeat, _⟩ hoverrides
    obtain ⟨history'', hagain, _⟩ := hnext.exec_sound hrepeat
    cases call with
    | setAttemptState planId number state reasonCode terminalAt =>
      cases reasonCode with
      | none => exact hoverrides
      | some reason =>
        obtain ⟨attempt, hget, hblocked, hother⟩ := hoverrides
        obtain ⟨hheld, hslot⟩ := hrep.getAttempt_eq_ok.1 hget
        exact hstep.not_again hheld hslot hblocked hother hagain
    | _ => exact hoverrides
  · intro hkept
    have hagain : HistoryStep history' call result history' := by
      refine hstep.again fun attempt state reason terminalAt hheld hcall hblocked => ?_
      by_contra hother
      subst hcall
      exact hkept ⟨attempt, hrep.getAttempt_self hheld, hblocked, hother⟩
    obtain ⟨next', hrun', hnext'⟩ := hnext.exec_complete hagain
    exact ⟨next', hrun', hnext.observablyEqual hnext'⟩

end InMemoryBridgeOperationJournal

end

namespace Sample

/-- An attempt that was given up before it asked for its fence. -/
def aborted : BridgeOperationAttempt :=
  { opened secondPlanId secondPlan {
      intent := secondIntent
      state := .blocked
      reasonCode := some .explicitAbort
      blockedFrom := some .intentRecorded } with
    state := .blocked
    reasonCode := some .explicitAbort }

/-- The call that restores it, with the reason that the caller gives. -/
def restoreAborted (reasonCode : BridgeBlockReason) : JournalCall :=
  .setAttemptState secondPlanId 1 .restored (some reasonCode) (some (second 200))

/-- What it returns. -/
def restoredAborted : JournalResult :=
  .attempt { aborted with state := .restored, terminalAt := some (second 200) }

end Sample

open Sample in
/-- Restoring the aborted attempt under another reason returns, and raises when it is repeated. -/
theorem restore_aborted_again :
    ∃ next, (exec (restoreAborted .staleFence)).run (after [.appendAttempt aborted] {})
        = (.ok restoredAborted, next)
      ∧ ((exec (restoreAborted .staleFence)).run next).1
        = .error (.journalConflict "A terminal attempt cannot change state.") :=
  ⟨after [.appendAttempt aborted, restoreAborted .staleFence] {},
    Prod.ext (by decide) rfl, by decide⟩

open Sample in
/-- The aborted attempt is restored under its own reason, and the call repeated. -/
theorem restore_aborted_repeats :
    ∃ next, (exec (restoreAborted .explicitAbort)).run (after [.appendAttempt aborted] {})
        = (.ok restoredAborted, next)
      ∧ ∃ next', (exec (restoreAborted .explicitAbort)).run next = (.ok restoredAborted, next')
        ∧ ObservablyEqual next next' := by
  have hfound : (after [.appendAttempt aborted] {}).getAttempt secondPlanId 1 = .ok aborted := by
    decide
  have hrun : (exec (restoreAborted .explicitAbort)).run (after [.appendAttempt aborted] {})
      = (.ok restoredAborted, after [.appendAttempt aborted, restoreAborted .explicitAbort] {}) :=
    Prod.ext (by decide) rfl
  obtain ⟨_, hrepeats⟩ := raises_unchanged_repeats_unchanged
    (reachable_after [.appendAttempt aborted]) (restoreAborted .explicitAbort)
  refine ⟨_, hrun, (hrepeats _ _ hrun).2 ?_⟩
  rintro ⟨attempt, hget, _, hother⟩
  obtain rfl := Except.ok.inj (hfound.symm.trans hget)
  exact hother rfl

end TrueFamily.Transaction
