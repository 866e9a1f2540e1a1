import TrueFamily.Transaction.Refinement.Acquisitions
import TrueFamily.Transaction.Refinement.Releases
import TrueFamily.Transaction.Refinement.Objects
import TrueFamily.Transaction.Refinement.Attempts

/-!
# The journal refines its history

A call on a journal that represents a history returns exactly when the history has a step for it,
with the same result (`exec_sound`, `exec_complete`). A call that raises leaves the history as it
was (`exec_raises`), although `append_attempt` may leave an empty list behind.

So every reachable journal represents a reachable history: `Reachable.represents`.
-/

namespace TrueFamily.Transaction

open Checked Sorting InMemoryBridgeOperationJournal BridgeOperationAttempt

variable [DigestJson]

/-! ## Calls that raise -/

section Raises

variable (journal : Journal)

theorem keeps_storeAttempt_bind {α : Type} (attempt : BridgeOperationAttempt)
    {f : Unit → JournalMethod α} (hf : (f ()).Returns (journal.withAttempt attempt)) :
    (storeAttempt attempt >>= f).Keeps journal := by
  refine (keeps_storeAttempt journal attempt).bind fun u next hrun => ?_
  obtain ⟨_, hnext⟩ := run_storeAttempt.1 hrun
  rw [hnext]
  exact hf

theorem keeps_replaceAcquisition (record : FenceAcquisitionRecord) :
    (replaceAcquisition record).Keeps journal := by
  simp only [replaceAcquisition, Method.keeps_get_bind, Method.keeps_lift_bind]
  intros
  exact keeps_storeAttempt _ _

theorem keeps_replaceRelease (record : FenceReleaseRecord) :
    (replaceRelease record).Keeps journal := by
  simp only [replaceRelease, Method.keeps_get_bind, Method.keeps_lift_bind]
  intros
  exact keeps_storeAttempt _ _

theorem keeps_replaceObject (record : BridgeOperationRecord) (allowRecovery : Bool) :
    (replaceObject record allowRecovery).Keeps journal := by
  simp only [replaceObject, Method.keeps_get_bind, Method.keeps_lift_bind,
    Method.keeps_require_bind]
  intros
  exact keeps_storeAttempt _ _

omit [DigestJson] in
/-- `_claim_identity` right after a store returns. -/
theorem returns_claim {α : Type} {journal : Journal} (h : KindsMatch journal)
    (attempt : BridgeOperationAttempt) (operationId : OperationId) {f : Unit → JournalMethod α}
    (hf : ∀ next, (f ()).Returns next) :
    (claimIdentity operationId operationId.kind >>= f).Returns (journal.withAttempt attempt) := by
  intro e next hrun
  have hkinds : KindsMatch (journal.withAttempt attempt) := h
  rw [Method.run_bind_of_ok (run_claimIdentity hkinds operationId)] at hrun
  exact hf _ e next hrun

variable {journal}

theorem keeps_recordAcquisitionIntent (h : KindsMatch journal) (intent : FenceAcquisitionIntent) :
    (recordAcquisitionIntent intent).Keeps journal := by
  simp only [recordAcquisitionIntent, Method.keeps_get_bind, Method.keeps_lift_bind]
  intro _ _
  split
  · exact Method.keeps_lift _ _
  · rw [Method.keeps_lift_bind]
    intro stored _
    refine keeps_storeAttempt_bind _ _ (returns_claim h _ (.acquire intent.operationId) ?_)
    exact fun _ => (Method.returns_modify _ _).bind fun _ _ _ => Method.returns_pure _ _

theorem keeps_armAcquisition (operationId : AcquireOperationId) :
    (armAcquisition operationId).Keeps journal := by
  simp only [armAcquisition, Method.keeps_get_bind, Method.keeps_lift_bind]
  intro record _
  split
  · exact Method.keeps_pure _ _
  · rw [Method.keeps_lift_bind]
    intro updated _
    exact (keeps_replaceAcquisition _ _).bind fun _ _ _ => Method.returns_pure _ _

theorem keeps_recordAcquisitionReceipt (receipt : AcquisitionLifecycleReceipt) :
    (recordAcquisitionReceipt receipt).Keeps journal := by
  simp only [recordAcquisitionReceipt, Method.keeps_get_bind, Method.keeps_lift_bind]
  intro _ _ record _
  split
  · rw [Method.keeps_require_bind]
    exact fun _ => Method.keeps_pure _ _
  · rw [Method.keeps_lift_bind]
    intro updated _
    exact (keeps_replaceAcquisition _ _).bind fun _ _ _ =>
      (Method.returns_modify _ _).bind fun _ _ _ => Method.returns_pure _ _

theorem keeps_blockAcquisition (operationId : AcquireOperationId)
    (reasonCode : BridgeBlockReason) :
    (blockAcquisition operationId reasonCode).Keeps journal := by
  simp only [blockAcquisition, Method.keeps_get_bind, Method.keeps_lift_bind]
  intro record _
  split
  · rw [Method.keeps_require_bind]
    exact fun _ => Method.keeps_pure _ _
  · simp only [Method.keeps_lift_bind]
    intros
    exact keeps_storeAttempt_bind _ _ (Method.returns_pure _ _)

theorem keeps_recordReleaseIntent (h : KindsMatch journal) (intent : FenceReleaseIntent) :
    (recordReleaseIntent intent).Keeps journal := by
  simp only [recordReleaseIntent, Method.keeps_get_bind, Method.keeps_lift_bind]
  intro _ _
  split
  · exact Method.keeps_lift _ _
  · rw [Method.keeps_lift_bind]
    intro stored _
    refine keeps_storeAttempt_bind _ _ (returns_claim h _ (.release intent.operationId) ?_)
    exact fun _ => (Method.returns_modify _ _).bind fun _ _ _ => Method.returns_pure _ _

theorem keeps_armRelease (operationId : ReleaseOperationId) :
    (armRelease operationId).Keeps journal := by
  simp only [armRelease, Method.keeps_get_bind, Method.keeps_lift_bind]
  intro record _
  split
  · exact Method.keeps_pure _ _
  · rw [Method.keeps_lift_bind]
    intro updated _
    exact (keeps_replaceRelease _ _).bind fun _ _ _ => Method.returns_pure _ _

theorem keeps_recordReleaseReceipt (receipt : ReleaseLifecycleReceipt) :
    (recordReleaseReceipt receipt).Keeps journal := by
  simp only [recordReleaseReceipt, Method.keeps_get_bind, Method.keeps_lift_bind]
  intro _ _ record _
  split
  · rw [Method.keeps_require_bind]
    exact fun _ => Method.keeps_pure _ _
  · rw [Method.keeps_lift_bind]
    intro updated _
    exact (keeps_replaceRelease _ _).bind fun _ _ _ =>
      (Method.returns_modify _ _).bind fun _ _ _ => Method.returns_pure _ _

theorem keeps_recordIntent (h : KindsMatch journal) (intent : BridgeOperationIntent) :
    (recordIntent intent).Keeps journal := by
  simp only [recordIntent, Method.keeps_get_bind, Method.keeps_lift_bind]
  intro _ _
  split
  · exact Method.keeps_lift _ _
  · rw [Method.keeps_lift_bind]
    intro stored _
    refine keeps_storeAttempt_bind _ _ (returns_claim h _ (.object intent.operationId) ?_)
    exact fun _ => (Method.returns_modify _ _).bind fun _ _ _ => Method.returns_pure _ _

theorem keeps_armOperation (operationId : ObjectOperationId)
    (authorization : BridgeDispatchAuthorization) :
    (armOperation operationId authorization).Keeps journal := by
  simp only [armOperation, Method.keeps_get_bind, Method.keeps_lift_bind]
  intro _ _ record _
  split
  · rw [Method.keeps_require_bind]
    exact fun _ => Method.keeps_pure _ _
  · rw [Method.keeps_lift_bind]
    intro updated _
    exact (keeps_replaceObject _ _ _).bind fun _ _ _ => Method.returns_pure _ _

theorem keeps_recordReceipt (receipt : BridgeOperationReceipt) :
    (recordReceipt receipt).Keeps journal := by
  simp only [recordReceipt, Method.keeps_get_bind, Method.keeps_lift_bind]
  intro _ _ record _
  split
  · rw [Method.keeps_require_bind]
    exact fun _ => Method.keeps_pure _ _
  · rw [Method.keeps_lift_bind]
    intro updated _
    exact (keeps_replaceObject _ _ _).bind fun _ _ _ =>
      (Method.returns_modify _ _).bind fun _ _ _ => Method.returns_pure _ _

theorem keeps_recordVerification (verification : BridgeOperationVerification) :
    (recordVerification verification).Keeps journal := by
  simp only [recordVerification, Method.keeps_get_bind, Method.keeps_lift_bind]
  intro _ _ record _
  split
  · exact Method.keeps_pure _ _
  · rw [Method.keeps_lift_bind]
    intro updated _
    exact (keeps_replaceObject _ _ _).bind fun _ _ _ => Method.returns_pure _ _

theorem keeps_blockOperation (operationId : ObjectOperationId)
    (reasonCode : BridgeBlockReason) :
    (blockOperation operationId reasonCode).Keeps journal := by
  simp only [blockOperation, Method.keeps_get_bind, Method.keeps_lift_bind]
  intro record _
  split
  · rw [Method.keeps_require_bind]
    exact fun _ => Method.keeps_pure _ _
  · simp only [Method.keeps_lift_bind, Method.keeps_require_bind]
    intros
    exact keeps_storeAttempt_bind _ _ (Method.returns_pure _ _)

theorem keeps_setAttemptState (planId : PlanId) (number : ℕ) (state : BridgeAttemptState)
    (reasonCode : Option BridgeBlockReason) (terminalAt : Option Datetime) :
    (setAttemptState planId number state reasonCode terminalAt).Keeps journal := by
  simp only [setAttemptState, Method.keeps_get_bind, Method.keeps_lift_bind]
  intro current _
  split
  · exact Method.keeps_pure _ _
  · rw [Method.keeps_lift_bind]
    intro updated _
    exact keeps_storeAttempt_bind _ _ (Method.returns_pure _ _)

omit [DigestJson] in
theorem keeps_query (f : Journal → Except PyError JournalResult) : (query f).Keeps journal := by
  rw [query, Method.keeps_get_bind]
  exact Method.keeps_lift _ _

omit [DigestJson] in
theorem returns_indexAttempt {journal : Journal} (h : KindsMatch journal)
    (attempt : BridgeOperationAttempt) : (indexAttempt attempt).Returns journal := by
  intro e next hrun
  rw [run_indexAttempt h] at hrun
  cases hrun

omit [DigestJson] in
theorem keeps_appendChecked (h : KindsMatch journal) (attempt : BridgeOperationAttempt) :
    (Represents.appendChecked attempt).Keeps journal := by
  rw [Represents.appendChecked, Method.keeps_get_bind]
  dsimp only
  split
  · rw [Method.keeps_require_bind]
    exact fun _ => Method.keeps_pure _ _
  · simp only [Method.keeps_require_bind, Method.keeps_lift_bind]
    intros
    refine Method.Returns.keeps ((Method.returns_modify _ _).bind fun _ next hrun => ?_)
    rw [Method.run_modify_ok.1 hrun]
    have hkinds : KindsMatch { journal with
        attempts := journal.attempts.set attempt.planId
          (journal.attemptsFor attempt.planId ++ [attempt]) } := h
    exact (returns_indexAttempt hkinds attempt).bind fun _ _ _ => Method.returns_pure _ _

end Raises

namespace Represents

variable {journal next : Journal} {history history' : History} {call : JournalCall}
  {result : JournalResult}

theorem appendAttempt_raises (h : Represents journal history) {attempt : BridgeOperationAttempt}
    {e : PyError} (hrun : (appendAttempt attempt).run journal = (.error e, next)) :
    Represents next history := by
  rw [show appendAttempt attempt = (do
    attempt.postInit
    Method.modify fun journal => defaulted journal attempt.planId
    appendChecked attempt) from rfl] at hrun
  rcases Method.run_bind_error.1 hrun with hrun | ⟨_, _, hok, hrun⟩
  · rw [(Method.run_lift_error.1 hrun).2]
    exact h
  · rw [(Method.run_lift_ok.1 hok).2, Method.run_modify_bind] at hrun
    have hdefault := h.setDefault attempt.planId
    rw [keeps_appendChecked hdefault.kindsMatch attempt e next hrun]
    exact hdefault

/-- A call that raises leaves the history as it was. -/
theorem exec_raises (h : Represents journal history) {e : PyError}
    (hrun : (exec call).run journal = (.error e, next)) : Represents next history := by
  have hkinds := h.kindsMatch
  have of_keeps : (exec call).Keeps journal → Represents next history := by
    intro hkeeps
    rw [hkeeps e next hrun]
    exact h
  cases call with
  | appendAttempt attempt => exact h.appendAttempt_raises (Method.run_map_error.1 hrun)
  | recordAcquisitionIntent intent =>
    exact of_keeps (Method.keeps_map.2 (keeps_recordAcquisitionIntent hkinds _))
  | armAcquisition operationId => exact of_keeps (Method.keeps_map.2 (keeps_armAcquisition _))
  | recordAcquisitionReceipt receipt =>
    exact of_keeps (Method.keeps_map.2 (keeps_recordAcquisitionReceipt _))
  | blockAcquisition operationId reasonCode =>
    exact of_keeps (Method.keeps_map.2 (keeps_blockAcquisition _ _))
  | recordReleaseIntent intent =>
    exact of_keeps (Method.keeps_map.2 (keeps_recordReleaseIntent hkinds _))
  | armRelease operationId => exact of_keeps (Method.keeps_map.2 (keeps_armRelease _))
  | recordReleaseReceipt receipt =>
    exact of_keeps (Method.keeps_map.2 (keeps_recordReleaseReceipt _))
  | recordIntent intent => exact of_keeps (Method.keeps_map.2 (keeps_recordIntent hkinds _))
  | armOperation operationId authorization =>
    exact of_keeps (Method.keeps_map.2 (keeps_armOperation _ _))
  | recordReceipt receipt => exact of_keeps (Method.keeps_map.2 (keeps_recordReceipt _))
  | recordVerification verification =>
    exact of_keeps (Method.keeps_map.2 (keeps_recordVerification _))
  | blockOperation operationId reasonCode =>
    exact of_keeps (Method.keeps_map.2 (keeps_blockOperation _ _))
  | setAttemptState planId number state reasonCode terminalAt =>
    exact of_keeps (Method.keeps_map.2 (keeps_setAttemptState _ _ _ _ _))
  | attemptsFor planId => exact of_keeps (keeps_query _)
  | providerEpochHighWater provider => exact of_keeps (keeps_query _)
  | getAttempt planId number => exact of_keeps (keeps_query _)
  | getOperation operationId => exact of_keeps (keeps_query _)
  | getAcquisition operationId => exact of_keeps (keeps_query _)
  | getRelease operationId => exact of_keeps (keeps_query _)

/-! ## Calls that return -/

omit [DigestJson] in
theorem run_query_ok {f : Journal → Except PyError JournalResult} :
    (query f).run journal = (.ok result, next) ↔ f journal = .ok result ∧ next = journal := by
  rw [query, Method.run_get_bind]
  exact Method.run_lift_ok

/-- What a call returns is what a step of the history returns. -/
theorem exec_sound (h : Represents journal history)
    (hrun : (exec call).run journal = (.ok result, next)) :
    ∃ history', HistoryStep history call result history' ∧ Represents next history' := by
  cases call with
  | appendAttempt attempt =>
    obtain ⟨found, hcall, rfl⟩ := Method.run_map_ok.1 hrun
    exact h.appendAttempt_sound hcall
  | recordAcquisitionIntent intent =>
    obtain ⟨record, hcall, rfl⟩ := Method.run_map_ok.1 hrun
    exact h.recordAcquisitionIntent_sound hcall
  | armAcquisition operationId =>
    obtain ⟨record, hcall, rfl⟩ := Method.run_map_ok.1 hrun
    exact h.armAcquisition_sound hcall
  | recordAcquisitionReceipt receipt =>
    obtain ⟨record, hcall, rfl⟩ := Method.run_map_ok.1 hrun
    exact h.recordAcquisitionReceipt_sound hcall
  | blockAcquisition operationId reasonCode =>
    obtain ⟨record, hcall, rfl⟩ := Method.run_map_ok.1 hrun
    exact h.blockAcquisition_sound hcall
  | recordReleaseIntent intent =>
    obtain ⟨record, hcall, rfl⟩ := Method.run_map_ok.1 hrun
    exact h.recordReleaseIntent_sound hcall
  | armRelease operationId =>
    obtain ⟨record, hcall, rfl⟩ := Method.run_map_ok.1 hrun
    exact h.armRelease_sound hcall
  | recordReleaseReceipt receipt =>
    obtain ⟨record, hcall, rfl⟩ := Method.run_map_ok.1 hrun
    exact h.recordReleaseReceipt_sound hcall
  | recordIntent intent =>
    obtain ⟨record, hcall, rfl⟩ := Method.run_map_ok.1 hrun
    exact h.recordIntent_sound hcall
  | armOperation operationId authorization =>
    obtain ⟨record, hcall, rfl⟩ := Method.run_map_ok.1 hrun
    exact h.armOperation_sound hcall
  | recordReceipt receipt =>
    obtain ⟨record, hcall, rfl⟩ := Method.run_map_ok.1 hrun
    exact h.recordReceipt_sound hcall
  | recordVerification verification =>
    obtain ⟨record, hcall, rfl⟩ := Method.run_map_ok.1 hrun
    exact h.recordVerification_sound hcall
  | blockOperation operationId reasonCode =>
    obtain ⟨record, hcall, rfl⟩ := Method.run_map_ok.1 hrun
    exact h.blockOperation_sound hcall
  | setAttemptState planId number state reasonCode terminalAt =>
    obtain ⟨found, hcall, rfl⟩ := Method.run_map_ok.1 hrun
    exact h.setAttemptState_sound hcall
  | attemptsFor planId =>
    obtain ⟨hresult, rfl⟩ := run_query_ok.1 hrun
    rw [h.attempts, Except.ok.injEq] at hresult
    subst hresult
    exact ⟨history, .attemptsFor, h⟩
  | providerEpochHighWater provider =>
    obtain ⟨hresult, rfl⟩ := run_query_ok.1 hrun
    rw [Except.ok.injEq] at hresult
    subst hresult
    cases hmark : providerEpochHighWater next provider with
    | none =>
      exact ⟨history, .noHighWater (h.providerEpochHighWater_eq_none_iff.1 hmark), h⟩
    | some epoch =>
      exact ⟨history, .highWater (h.providerEpochHighWater_eq_some_iff.1 hmark), h⟩
  | getAttempt planId number =>
    obtain ⟨hresult, rfl⟩ := run_query_ok.1 hrun
    obtain ⟨found, hget, rfl⟩ := map_eq_ok.1 hresult
    obtain ⟨hheld, hslot⟩ := h.getAttempt_eq_ok.1 hget
    obtain ⟨rfl, rfl⟩ := Prod.mk.inj hslot
    exact ⟨history, .getAttempt hheld, h⟩
  | getOperation operationId =>
    obtain ⟨hresult, rfl⟩ := run_query_ok.1 hrun
    obtain ⟨found, hget, rfl⟩ := map_eq_ok.1 hresult
    obtain ⟨attempt, index, hat⟩ := h.getOperation_eq_ok.1 hget
    exact ⟨history, .getOperation hat, h⟩
  | getAcquisition operationId =>
    obtain ⟨hresult, rfl⟩ := run_query_ok.1 hrun
    obtain ⟨found, hget, rfl⟩ := map_eq_ok.1 hresult
    obtain ⟨attempt, index, hat⟩ := h.getAcquisition_eq_ok.1 hget
    exact ⟨history, .getAcquisition hat, h⟩
  | getRelease operationId =>
    obtain ⟨hresult, rfl⟩ := run_query_ok.1 hrun
    obtain ⟨found, hget, rfl⟩ := map_eq_ok.1 hresult
    obtain ⟨attempt, index, hat⟩ := h.getRelease_eq_ok.1 hget
    exact ⟨history, .getRelease hat, h⟩

/-- Every step of the history is a call that returns. -/
theorem exec_complete (h : Represents journal history)
    (hstep : HistoryStep history call result history') :
    ∃ next, (exec call).run journal = (.ok result, next) ∧ Represents next history' := by
  cases call with
  | appendAttempt attempt =>
    obtain ⟨found, next, rfl, hrun, hnext⟩ := h.appendAttempt_complete hstep
    exact ⟨next, Method.run_map_ok.2 ⟨found, hrun, rfl⟩, hnext⟩
  | recordAcquisitionIntent intent =>
    obtain ⟨record, next, rfl, hrun, hnext⟩ := h.recordAcquisitionIntent_complete hstep
    exact ⟨next, Method.run_map_ok.2 ⟨record, hrun, rfl⟩, hnext⟩
  | armAcquisition operationId =>
    obtain ⟨record, next, rfl, hrun, hnext⟩ := h.armAcquisition_complete hstep
    exact ⟨next, Method.run_map_ok.2 ⟨record, hrun, rfl⟩, hnext⟩
  | recordAcquisitionReceipt receipt =>
    obtain ⟨record, next, rfl, hrun, hnext⟩ := h.recordAcquisitionReceipt_complete hstep
    exact ⟨next, Method.run_map_ok.2 ⟨record, hrun, rfl⟩, hnext⟩
  | blockAcquisition operationId reasonCode =>
    obtain ⟨record, next, rfl, hrun, hnext⟩ := h.blockAcquisition_complete hstep
    exact ⟨next, Method.run_map_ok.2 ⟨record, hrun, rfl⟩, hnext⟩
  | recordReleaseIntent intent =>
    obtain ⟨record, next, rfl, hrun, hnext⟩ := h.recordReleaseIntent_complete hstep
    exact ⟨next, Method.run_map_ok.2 ⟨record, hrun, rfl⟩, hnext⟩
  | armRelease operationId =>
    obtain ⟨record, next, rfl, hrun, hnext⟩ := h.armRelease_complete hstep
    exact ⟨next, Method.run_map_ok.2 ⟨record, hrun, rfl⟩, hnext⟩
  | recordReleaseReceipt receipt =>
    obtain ⟨record, next, rfl, hrun, hnext⟩ := h.recordReleaseReceipt_complete hstep
    exact ⟨next, Method.run_map_ok.2 ⟨record, hrun, rfl⟩, hnext⟩
  | recordIntent intent =>
    obtain ⟨record, next, rfl, hrun, hnext⟩ := h.recordIntent_complete hstep
    exact ⟨next, Method.run_map_ok.2 ⟨record, hrun, rfl⟩, hnext⟩
  | armOperation operationId authorization =>
    obtain ⟨record, next, rfl, hrun, hnext⟩ := h.armOperation_complete hstep
    exact ⟨next, Method.run_map_ok.2 ⟨record, hrun, rfl⟩, hnext⟩
  | recordReceipt receipt =>
    obtain ⟨record, next, rfl, hrun, hnext⟩ := h.recordReceipt_complete hstep
    exact ⟨next, Method.run_map_ok.2 ⟨record, hrun, rfl⟩, hnext⟩
  | recordVerification verification =>
    obtain ⟨record, next, rfl, hrun, hnext⟩ := h.recordVerification_complete hstep
    exact ⟨next, Method.run_map_ok.2 ⟨record, hrun, rfl⟩, hnext⟩
  | blockOperation operationId reasonCode =>
    obtain ⟨record, next, rfl, hrun, hnext⟩ := h.blockOperation_complete hstep
    exact ⟨next, Method.run_map_ok.2 ⟨record, hrun, rfl⟩, hnext⟩
  | setAttemptState planId number state reasonCode terminalAt =>
    obtain ⟨found, next, rfl, hrun, hnext⟩ := h.setAttemptState_complete hstep
    exact ⟨next, Method.run_map_ok.2 ⟨found, hrun, rfl⟩, hnext⟩
  | attemptsFor planId =>
    cases hstep
    exact ⟨journal, run_query_ok.2 ⟨by rw [h.attempts], rfl⟩, h⟩
  | providerEpochHighWater provider =>
    cases hstep with
    | highWater hmark =>
      rw [← h.providerEpochHighWater_eq_some_iff] at hmark
      exact ⟨journal, run_query_ok.2 ⟨by rw [hmark], rfl⟩, h⟩
    | noHighWater hmark =>
      rw [← h.providerEpochHighWater_eq_none_iff] at hmark
      exact ⟨journal, run_query_ok.2 ⟨by rw [hmark], rfl⟩, h⟩
  | getAttempt planId number =>
    cases hstep with
    | getAttempt hheld =>
      refine ⟨journal, run_query_ok.2 ⟨?_, rfl⟩, h⟩
      exact map_eq_ok.2 ⟨_, h.getAttempt_self hheld, rfl⟩
  | getOperation operationId =>
    cases hstep with
    | getOperation hat =>
      refine ⟨journal, run_query_ok.2 ⟨?_, rfl⟩, h⟩
      exact map_eq_ok.2 ⟨_, h.getOperation_eq_ok.2 ⟨_, _, hat⟩, rfl⟩
  | getAcquisition operationId =>
    cases hstep with
    | getAcquisition hat =>
      refine ⟨journal, run_query_ok.2 ⟨?_, rfl⟩, h⟩
      exact map_eq_ok.2 ⟨_, h.getAcquisition_eq_ok.2 ⟨_, _, hat⟩, rfl⟩
  | getRelease operationId =>
    cases hstep with
    | getRelease hat =>
      refine ⟨journal, run_query_ok.2 ⟨?_, rfl⟩, h⟩
      exact map_eq_ok.2 ⟨_, h.getRelease_eq_ok.2 ⟨_, _, hat⟩, rfl⟩

/-! ## Runs -/

/-- The history is what `attempts_for` returns. -/
theorem eq_attemptsFor (h : Represents journal history) : history = attemptsFor journal :=
  funext fun planId => (h.attempts planId).symm

end Represents

/-- A step of the history, whatever is called. -/
def History.Step (history history' : History) : Prop :=
  ∃ call result, HistoryStep history call result history'

/-- A history that some sequence of steps reaches from the empty one. -/
def History.Reachable (history : History) : Prop :=
  Relation.ReflTransGen History.Step (fun _ => []) history

/-- One call makes at most one step of the history. -/
theorem Represents.step {journal next : Journal} {history : History}
    (h : Represents journal history) (hstep : Step journal next) :
    ∃ history', (history' = history ∨ history.Step history') ∧ Represents next history' := by
  obtain ⟨call, result, hrun⟩ := hstep
  cases result with
  | error e => exact ⟨history, Or.inl rfl, h.exec_raises hrun⟩
  | ok result =>
    obtain ⟨history', hstep, hnext⟩ := h.exec_sound hrun
    exact ⟨history', Or.inr ⟨call, result, hstep⟩, hnext⟩

/-- Every reachable journal represents a reachable history. -/
theorem InMemoryBridgeOperationJournal.Reachable.represents {journal : Journal}
    (h : Reachable journal) : ∃ history, history.Reachable ∧ Represents journal history := by
  induction h with
  | refl => exact ⟨_, Relation.ReflTransGen.refl, represents_empty⟩
  | tail _ hstep ih =>
    obtain ⟨history, hreach, hrep⟩ := ih
    obtain ⟨history', rfl | hnext, hrep'⟩ := hrep.step hstep
    · exact ⟨history', hreach, hrep'⟩
    · exact ⟨history', hreach.tail hnext, hrep'⟩

/-- The journal represents a history that some steps reach, and the two step together. -/
structure RefinesHistory (journal : Journal) (history : History) : Prop where
  reachable : history.Reachable
  represents : Represents journal history
  returns : ∀ call result next, (exec call).run journal = (.ok result, next) →
    ∃ history', HistoryStep history call result history' ∧ Represents next history'
  steps : ∀ call result history', HistoryStep history call result history' →
    ∃ next, (exec call).run journal = (.ok result, next) ∧ Represents next history'
  raises : ∀ call e next, (exec call).run journal = (.error e, next) → Represents next history

/-- After every sequence of calls the journal, with its indexes, refines its history. -/
theorem InMemoryBridgeOperationJournal.journal_refines_history (calls : List JournalCall) :
    ∃ history, RefinesHistory (after calls {}) history := by
  obtain ⟨history, hreach, hrep⟩ := (reachable_after calls).represents
  exact ⟨history, hreach, hrep, fun _ _ _ => hrep.exec_sound, fun _ _ _ => hrep.exec_complete,
    fun _ _ _ => hrep.exec_raises⟩

end TrueFamily.Transaction
