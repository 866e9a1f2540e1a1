import TrueFamily.Lib.Trace
import TrueFamily.Transaction.Recorder

/-!
# Calls of the recorder

Every public call of the recorder makes at most one call of the journal that may change it
(`exec_makesOneCall`), so what a run of the recorder reaches, the journal reaches. A call that
hands out a dispatch has armed the operation in that same call.
-/

namespace TrueFamily.Transaction

open Checked InMemoryBridgeOperationJournal

/-! ## Calls -/

/-- A call of a public method, with its arguments and the answers that the authority gives it. -/
inductive RecorderCall
  | beginAttempt (planId : PlanId) (planDigest manifestDigest : Digest) (attempt : ℕ)
      (expectedWrites : List BridgeExpectedWrite)
  | prepareAcquisition (intent : FenceAcquisitionIntent)
  | reconcileAcquisition (authority : FenceAuthorityAnswers) (operationId : AcquireOperationId)
      (at' : Datetime)
  | acknowledgeAcquisition (receipt : AcquisitionLifecycleReceipt)
  | prepareRelease (intent : FenceReleaseIntent)
  | reconcileRelease (authority : FenceAuthorityAnswers) (operationId : ReleaseOperationId)
      (at' : Datetime)
  | acknowledgeRelease (receipt : ReleaseLifecycleReceipt)
  | prepare (authority : FenceAuthorityAnswers) (intent : BridgeOperationIntent) (at' : Datetime)
  | arm (authority : FenceAuthorityAnswers) (operationId : ObjectOperationId)
      (observation : BridgeObjectObservation) (at' : Datetime)
  | acknowledge (receipt : BridgeOperationReceipt)
  | reconcile (authority : FenceAuthorityAnswers) (operationId : ObjectOperationId)
      (observation : Option BridgeObjectObservation) (at' : Datetime)
  | verifyReceipt (operationId : ObjectOperationId) (observation : BridgeObjectObservation)
      (at' : Datetime)
  | finishAttempt (planId : PlanId) (attempt : ℕ) (state : BridgeAttemptState) (at' : Datetime)

/-- What a call returns. -/
inductive RecorderResult
  | stored (value : JournalResult)
  | action (action : BridgeReconciliationAction)
  deriving DecidableEq

/-- One call with its outcome. -/
structure RecorderEvent where
  call : RecorderCall
  outcome : Except PyError RecorderResult

/-- The operation whose dispatch the call hands out: `arm` returned, or a reconciliation returned
`DISPATCH`. -/
def RecorderEvent.dispatched (event : RecorderEvent) : Option OperationId :=
  match event.call, event.outcome with
  | .arm _ operationId _ _, .ok _ => some (.object operationId)
  | .reconcile _ operationId _ _, .ok (.action .dispatch) => some (.object operationId)
  | .reconcileAcquisition _ operationId _, .ok (.action .dispatch) => some (.acquire operationId)
  | .reconcileRelease _ operationId _, .ok (.action .dispatch) => some (.release operationId)
  | _, _ => none

/-- The observation and the time that the call was given. -/
def RecorderCall.observed : RecorderCall → Option (BridgeObjectObservation × Datetime)
  | .arm _ _ observation at' => some (observation, at')
  | .reconcile _ _ (some observation) at' => some (observation, at')
  | .verifyReceipt _ observation at' => some (observation, at')
  | _ => none

namespace BridgeTransactionRecorder

variable [DigestJson]

/-- Run one call. -/
def exec (self : BridgeTransactionRecorder) : RecorderCall → JournalMethod RecorderResult
  | .beginAttempt planId planDigest manifestDigest attempt expectedWrites =>
    (.stored ∘ .attempt) <$>
      self.beginAttempt planId planDigest manifestDigest attempt expectedWrites
  | .prepareAcquisition intent => (.stored ∘ .acquisition) <$> recordAcquisitionIntent intent
  | .reconcileAcquisition authority operationId at' =>
    .action <$> reconcileAcquisition authority operationId at'
  | .acknowledgeAcquisition receipt =>
    (.stored ∘ .acquisition) <$> recordAcquisitionReceipt receipt
  | .prepareRelease intent => (.stored ∘ .release) <$> recordReleaseIntent intent
  | .reconcileRelease authority operationId at' =>
    .action <$> reconcileRelease authority operationId at'
  | .acknowledgeRelease receipt => (.stored ∘ .release) <$> recordReleaseReceipt receipt
  | .prepare authority intent at' => (.stored ∘ .operation) <$> prepare authority intent at'
  | .arm authority operationId observation at' =>
    (.stored ∘ .operation) <$> self.arm authority operationId observation at'
  | .acknowledge receipt => (.stored ∘ .operation) <$> recordReceipt receipt
  | .reconcile authority operationId observation at' =>
    .action <$> self.reconcile authority operationId observation at'
  | .verifyReceipt operationId observation at' =>
    (.stored ∘ .operation) <$> self.verifyReceipt operationId observation at'
  | .finishAttempt planId attempt state at' =>
    (.stored ∘ .attempt) <$> self.finishAttempt planId attempt state at'

/-- A call that returns or raises. -/
def Step (self : BridgeTransactionRecorder) (journal : Journal) (event : RecorderEvent)
    (next : Journal) : Prop :=
  (self.exec event.call).run journal = (event.outcome, next)

/-- A run of calls over a journal that starts empty. -/
abbrev Run (self : BridgeTransactionRecorder) (events : List RecorderEvent) (journal : Journal) :
    Prop :=
  Trace.Run self.Step {} events journal

/-- The events of a list of calls, and the journal after them. -/
def trace (self : BridgeTransactionRecorder) : List RecorderCall → Journal →
    List RecorderEvent × Journal
  | [], journal => ([], journal)
  | call :: calls, journal =>
    let answer := (self.exec call).run journal
    let rest := self.trace calls answer.2
    (⟨call, answer.1⟩ :: rest.1, rest.2)

theorem run_trace (self : BridgeTransactionRecorder) (calls : List RecorderCall) :
    self.Run (self.trace calls {}).1 (self.trace calls {}).2 := by
  suffices ∀ events journal, self.Run events journal →
      self.Run (events ++ (self.trace calls journal).1) (self.trace calls journal).2 from
    this [] {} .start
  induction calls with
  | nil =>
    intro events journal hrun
    rw [trace, List.append_nil]
    exact hrun
  | cons call calls ih =>
    intro events journal hrun
    have hstep : self.Step journal ⟨call, ((self.exec call).run journal).1⟩
        ((self.exec call).run journal).2 := rfl
    have hrest := ih _ _ (hrun.snoc hstep)
    rwa [List.append_assoc] at hrest

/-! ## One call of the journal -/

/-- The calls that the recorder makes of the journal: it opens empty attempts, and never blocks
what is armed. -/
def Admits (journal : Journal) : JournalCall → Prop
  | .appendAttempt attempt =>
    attempt.acquisitions = [] ∧ attempt.operations = [] ∧ attempt.releases = []
  | .blockAcquisition operationId _ => ∃ record,
    journal.getAcquisition operationId = .ok record ∧ record.state = .intentRecorded
  | .blockOperation operationId _ => ∃ record,
    journal.getOperation operationId = .ok record ∧ record.state ≠ .dispatchArmed
  | _ => True

/-- The method leaves the journal alone or makes one admitted call of it. -/
def MakesOneCall {α : Type} (x : JournalMethod α) (journal : Journal) : Prop :=
  ∀ result next, x.run journal = (result, next) → next = journal
    ∨ ∃ call answer, Admits journal call
      ∧ (InMemoryBridgeOperationJournal.exec call).run journal = (answer, next)

section Rules

omit [DigestJson]
variable [DigestJson] {α β : Type} {journal : Journal}

theorem makesOneCall_pure (a : α) : MakesOneCall (pure a) journal := by
  intro result next hrun
  exact Or.inl (Prod.mk.inj hrun).2.symm

theorem makesOneCall_raise (e : PyError) :
    MakesOneCall (Method.raise e : JournalMethod α) journal := by
  intro result next hrun
  exact Or.inl (Prod.mk.inj hrun).2.symm

theorem makesOneCall_lift_bind {x : Except PyError α} {f : α → JournalMethod β}
    (h : ∀ a, x = .ok a → MakesOneCall (f a) journal) :
    MakesOneCall ((liftM x : JournalMethod α) >>= f) journal := by
  intro result next hrun
  rcases Method.run_lift_bind_cases hrun with ⟨_, _, hnext⟩ | ⟨a, hx, hf⟩
  · exact Or.inl hnext
  · exact h a hx result next hf

theorem makesOneCall_require_bind {c : Prop} [Decidable c] {e : PyError}
    {f : Unit → JournalMethod β} (h : c → MakesOneCall (f ()) journal) :
    MakesOneCall (Method.require c e >>= f) journal := by
  intro result next hrun
  rcases Method.run_require_bind_cases hrun with ⟨_, _, hnext⟩ | ⟨hc, hf⟩
  · exact Or.inl hnext
  · exact h hc result next hf

/-- A journal method is the one call. -/
theorem makesOneCall_exec {x : JournalMethod α} {wrap : α → JournalResult} (call : JournalCall)
    (hcall : InMemoryBridgeOperationJournal.exec call = wrap <$> x)
    (hadmits : Admits journal call) :
    MakesOneCall x journal := by
  intro result next hrun
  refine Or.inr ⟨call, wrap <$> result, hadmits, ?_⟩
  rw [hcall]
  cases result with
  | error e => exact Method.run_map_error.2 hrun
  | ok a => exact Method.run_map_ok.2 ⟨a, hrun, rfl⟩

/-- What only returns or raises after the call makes no further one. -/
theorem MakesOneCall.bind {x : JournalMethod α} {f : α → JournalMethod β}
    (h : MakesOneCall x journal)
    (hf : ∀ a s result next, (f a).run s = (result, next) → next = s) :
    MakesOneCall (x >>= f) journal := by
  intro result next hrun
  rcases Method.run_bind_cases hrun with ⟨e, hx, _⟩ | ⟨a, s, hx, hrun⟩
  · exact h _ next hx
  · rw [hf a s result next hrun]
    exact h _ s hx

theorem MakesOneCall.map {x : JournalMethod α} {f : α → β} (h : MakesOneCall x journal) :
    MakesOneCall (f <$> x) journal := by
  intro result next hrun
  obtain ⟨inner, hx, _⟩ := Method.run_map_cases hrun
  exact h inner next hx

end Rules

/-! ### The methods -/

section Methods

variable {journal : Journal} {self : BridgeTransactionRecorder}

theorem blockOperation_makesOneCall {operationId : ObjectOperationId}
    {reasonCode : BridgeBlockReason} {record : BridgeOperationRecord}
    (hget : journal.getOperation operationId = .ok record)
    (hstate : record.state ≠ .dispatchArmed) :
    MakesOneCall (blockOperation operationId reasonCode) journal :=
  makesOneCall_exec (.blockOperation operationId reasonCode) rfl ⟨record, hget, hstate⟩

theorem blockAndRaise_makesOneCall {α : Type} {operationId : ObjectOperationId}
    {reasonCode : BridgeBlockReason} {record : BridgeOperationRecord}
    (hget : journal.getOperation operationId = .ok record)
    (hstate : record.state ≠ .dispatchArmed) :
    MakesOneCall (blockAndRaise operationId reasonCode : JournalMethod α) journal :=
  (blockOperation_makesOneCall hget hstate).bind fun _ _ _ _ hrun => (Prod.mk.inj hrun).2.symm

theorem block_makesOneCall {operationId : ObjectOperationId}
    {reasonCode : BridgeBlockReason} {record : BridgeOperationRecord}
    (hget : journal.getOperation operationId = .ok record)
    (hstate : record.state ≠ .dispatchArmed) :
    MakesOneCall (block operationId reasonCode) journal :=
  (blockOperation_makesOneCall hget hstate).bind fun _ _ _ _ hrun => (Prod.mk.inj hrun).2.symm

theorem authorizeAndArm_makesOneCall (operationId : ObjectOperationId)
    (intent : BridgeOperationIntent) (observation : BridgeObjectObservation) (at' : Datetime) :
    MakesOneCall (authorizeAndArm operationId intent observation at') journal :=
  makesOneCall_lift_bind fun authorization _ =>
    makesOneCall_exec (.armOperation operationId authorization) rfl trivial

theorem beginAttempt_makesOneCall (planId : PlanId) (planDigest manifestDigest : Digest)
    (attempt : ℕ) (expectedWrites : List BridgeExpectedWrite) : MakesOneCall
      (self.beginAttempt planId planDigest manifestDigest attempt expectedWrites) journal :=
  makesOneCall_lift_bind fun _ _ => makesOneCall_exec (.appendAttempt _) rfl ⟨rfl, rfl, rfl⟩

theorem finishAttempt_makesOneCall (planId : PlanId) (attempt : ℕ) (state : BridgeAttemptState)
    (at' : Datetime) : MakesOneCall (self.finishAttempt planId attempt state at') journal :=
  makesOneCall_require_bind fun _ => makesOneCall_lift_bind fun _ _ =>
    makesOneCall_require_bind fun _ => makesOneCall_exec (.setAttemptState _ _ _ _ _) rfl trivial

theorem reconcileAcquisition_makesOneCall (authority : FenceAuthorityAnswers)
    (operationId : AcquireOperationId) (at' : Datetime) :
    MakesOneCall (reconcileAcquisition authority operationId at') journal := by
  refine makesOneCall_lift_bind fun record hget => ?_
  cases hstate : record.state with
  | blocked => exact makesOneCall_pure _
  | acknowledged => exact makesOneCall_pure _
  | noEffect => exact makesOneCall_pure _
  | dispatchArmed => exact makesOneCall_pure _
  | intentRecorded =>
    refine makesOneCall_require_bind fun _ => ?_
    split
    · exact (makesOneCall_exec (.blockAcquisition operationId .expiredFence) rfl
        ⟨record, hget, hstate⟩).bind fun _ _ _ _ hrun => (Prod.mk.inj hrun).2.symm
    · refine makesOneCall_lift_bind fun _ _ => makesOneCall_lift_bind fun _ _ => ?_
      exact (makesOneCall_exec (.armAcquisition operationId) rfl trivial).bind
        fun _ _ _ _ hrun => (Prod.mk.inj hrun).2.symm

theorem reconcileRelease_makesOneCall (authority : FenceAuthorityAnswers)
    (operationId : ReleaseOperationId) (at' : Datetime) :
    MakesOneCall (reconcileRelease authority operationId at') journal := by
  refine makesOneCall_lift_bind fun record _ => ?_
  cases hstate : record.state with
  | blocked => exact makesOneCall_pure _
  | acknowledged => exact makesOneCall_pure _
  | noEffect => exact makesOneCall_pure _
  | dispatchArmed => exact makesOneCall_pure _
  | intentRecorded =>
    refine makesOneCall_require_bind fun _ => ?_
    refine makesOneCall_lift_bind fun _ _ => makesOneCall_lift_bind fun _ _ => ?_
    exact (makesOneCall_exec (.armRelease operationId) rfl trivial).bind
      fun _ _ _ _ hrun => (Prod.mk.inj hrun).2.symm

theorem prepare_makesOneCall (authority : FenceAuthorityAnswers) (intent : BridgeOperationIntent)
    (at' : Datetime) : MakesOneCall (prepare authority intent at') journal :=
  makesOneCall_lift_bind fun _ _ => makesOneCall_lift_bind fun _ _ =>
    makesOneCall_exec (.recordIntent intent) rfl trivial

theorem armFenced_makesOneCall {authority : FenceAuthorityAnswers}
    {operationId : ObjectOperationId} {intent : BridgeOperationIntent}
    {observation : BridgeObjectObservation} {at' : Datetime} {record : BridgeOperationRecord}
    (hget : journal.getOperation operationId = .ok record)
    (hstate : record.state ≠ .dispatchArmed) :
    MakesOneCall (armFenced authority operationId intent observation at') journal := by
  unfold armFenced
  split
  · exact authorizeAndArm_makesOneCall _ _ _ _
  · exact blockAndRaise_makesOneCall hget hstate
  · exact makesOneCall_raise _

theorem arm_makesOneCall (authority : FenceAuthorityAnswers) (operationId : ObjectOperationId)
    (observation : BridgeObjectObservation) (at' : Datetime) :
    MakesOneCall (self.arm authority operationId observation at') journal := by
  refine makesOneCall_lift_bind fun record hget => makesOneCall_require_bind fun hintent =>
    makesOneCall_lift_bind fun attempt _ => makesOneCall_require_bind fun _ => ?_
  have hstate : record.state ≠ .dispatchArmed := by rw [hintent]; decide
  split
  · exact blockAndRaise_makesOneCall hget hstate
  · split
    · exact blockAndRaise_makesOneCall hget hstate
    · exact armFenced_makesOneCall hget hstate

theorem reconcileIntent_makesOneCall {authority : FenceAuthorityAnswers}
    {operationId : ObjectOperationId} {intent : BridgeOperationIntent}
    {observation : BridgeObjectObservation} {at' : Datetime} {record : BridgeOperationRecord}
    (hget : journal.getOperation operationId = .ok record)
    (hstate : record.state ≠ .dispatchArmed) :
    MakesOneCall (reconcileIntent authority operationId intent observation at') journal := by
  unfold reconcileIntent
  split
  · exact makesOneCall_pure _
  · split
    · exact block_makesOneCall hget hstate
    · split
      · exact block_makesOneCall hget hstate
      · unfold reconcileFenced
        split
        · exact (authorizeAndArm_makesOneCall _ _ _ _).bind
            fun _ _ _ _ hrun => (Prod.mk.inj hrun).2.symm
        · exact block_makesOneCall hget hstate
        · exact makesOneCall_raise _

theorem reconcileObserved_makesOneCall {authority : FenceAuthorityAnswers}
    {operationId : ObjectOperationId} {observation : BridgeObjectObservation} {at' : Datetime}
    {record : BridgeOperationRecord} (hget : journal.getOperation operationId = .ok record)
    (hstate : record.state ≠ .dispatchArmed) : MakesOneCall
      (self.reconcileObserved authority operationId record observation at') journal := by
  refine makesOneCall_lift_bind fun attempt _ => ?_
  split
  · exact makesOneCall_pure _
  · split
    · exact block_makesOneCall hget hstate
    · split
      · exact reconcileIntent_makesOneCall hget hstate
      · unfold reconcileAcknowledged
        split
        · exact block_makesOneCall hget hstate
        · split
          · exact makesOneCall_pure _
          · exact block_makesOneCall hget hstate
      · unfold reconcileVerified
        split
        · split
          · split
            · exact makesOneCall_pure _
            · split <;> exact makesOneCall_pure _
          · exact block_makesOneCall hget hstate
        · exact block_makesOneCall hget hstate

theorem reconcile_makesOneCall (authority : FenceAuthorityAnswers)
    (operationId : ObjectOperationId) (observation : Option BridgeObjectObservation)
    (at' : Datetime) :
    MakesOneCall (self.reconcile authority operationId observation at') journal := by
  refine makesOneCall_lift_bind fun record hget => ?_
  split
  · exact makesOneCall_pure _
  · exact makesOneCall_pure _
  · exact makesOneCall_pure _
  · rename_i hunarmed
    exact reconcileObserved_makesOneCall hget hunarmed

theorem appendObservation_makesOneCall {operationId : ObjectOperationId}
    {intent : BridgeOperationIntent} {receipt : BridgeOperationReceipt}
    {observation : BridgeObjectObservation} {at' : Datetime} {record : BridgeOperationRecord}
    (hget : journal.getOperation operationId = .ok record)
    (hstate : record.state ≠ .dispatchArmed) :
    MakesOneCall (appendObservation operationId intent receipt observation at') journal := by
  unfold appendObservation
  split
  · exact makesOneCall_exec (.recordVerification _) rfl trivial
  · exact blockAndRaise_makesOneCall hget hstate
  · exact blockAndRaise_makesOneCall hget hstate
  · exact makesOneCall_raise _

theorem verifyReceipt_makesOneCall (operationId : ObjectOperationId)
    (observation : BridgeObjectObservation) (at' : Datetime) :
    MakesOneCall (self.verifyReceipt operationId observation at') journal := by
  refine makesOneCall_lift_bind fun record hget => makesOneCall_require_bind fun hdone =>
    makesOneCall_lift_bind fun attempt _ => makesOneCall_require_bind fun _ => ?_
  have hstate : record.state ≠ .dispatchArmed := by
    rcases hdone with hdone | hdone <;> rw [hdone] <;> decide
  split
  · exact blockAndRaise_makesOneCall hget hstate
  · unfold verifyAgainst
    split
    · exact appendObservation_makesOneCall hget hstate
    · split
      · split
        · exact makesOneCall_pure _
        · exact makesOneCall_raise _
      · exact appendObservation_makesOneCall hget hstate

/-- Every call of the recorder makes at most one call of the journal that may change it. -/
theorem exec_makesOneCall (self : BridgeTransactionRecorder) (call : RecorderCall)
    (journal : Journal) : MakesOneCall (self.exec call) journal := by
  cases call with
  | beginAttempt => exact (beginAttempt_makesOneCall _ _ _ _ _).map
  | prepareAcquisition intent =>
    exact (makesOneCall_exec (.recordAcquisitionIntent intent) rfl trivial).map
  | reconcileAcquisition => exact (reconcileAcquisition_makesOneCall _ _ _).map
  | acknowledgeAcquisition receipt =>
    exact (makesOneCall_exec (.recordAcquisitionReceipt receipt) rfl trivial).map
  | prepareRelease intent =>
    exact (makesOneCall_exec (.recordReleaseIntent intent) rfl trivial).map
  | reconcileRelease => exact (reconcileRelease_makesOneCall _ _ _).map
  | acknowledgeRelease receipt =>
    exact (makesOneCall_exec (.recordReleaseReceipt receipt) rfl trivial).map
  | prepare => exact (prepare_makesOneCall _ _ _).map
  | arm => exact (arm_makesOneCall _ _ _ _).map
  | acknowledge receipt => exact (makesOneCall_exec (.recordReceipt receipt) rfl trivial).map
  | reconcile => exact (reconcile_makesOneCall _ _ _ _).map
  | verifyReceipt => exact (verifyReceipt_makesOneCall _ _ _).map
  | finishAttempt => exact (finishAttempt_makesOneCall _ _ _ _).map

end Methods

end BridgeTransactionRecorder

end TrueFamily.Transaction
