import TrueFamily.Transaction.Dispatch
import TrueFamily.Transaction.Storing

/-!
# What `reconcile` answers

`reconcile` decides from the record, and the journal then checks the whole attempt. The two agree
except where the attempt refuses what the record alone allows: a blocked attempt arms no write,
and a rollback that was retried cannot be blocked. `reconcile_actionable` says that these, and an
authority that does not answer, are the only cases in which it raises.
-/

namespace TrueFamily.Transaction

open Checked InMemoryBridgeOperationJournal BridgeOperationAttempt

section

variable [DigestJson]

/-! ## Reconciliation -/

namespace BridgeTransactionRecorder

section Specification

variable (self : BridgeTransactionRecorder) (authority : FenceAuthorityAnswers)
  (journal : Journal) (operationId : ObjectOperationId) (at' : Datetime)

/-- `verify_receipt` succeeds and appends exactly one verification. -/
def Verifies (observation : BridgeObjectObservation) : Prop :=
  ∃ record verification updated next, journal.getOperation operationId = .ok record
    ∧ (self.verifyReceipt operationId observation at').run journal = (.ok updated, next)
    ∧ next.getOperation operationId = .ok updated
    ∧ updated.verifications = record.verifications ++ [verification]

/-- What each action promises about the journal after `reconcile`. -/
def Keeps (observation : Option BridgeObjectObservation) (next : Journal) :
    BridgeReconciliationAction → Prop
  | .block => ∃ updated, next.getOperation operationId = .ok updated ∧ updated.state = .blocked
  | .dispatch => ∃ updated,
    next.getOperation operationId = .ok updated ∧ updated.state = .dispatchArmed
  | .verifyReceipt => next = journal ∧ ∃ given, observation = some given
    ∧ self.Verifies journal operationId at' given
  | .queryReceipt | .refreshObservation | .complete => next = journal

/-- `reconcile` returns an action, and the journal is as the action says. -/
def Actionable (observation : Option BridgeObjectObservation) : Prop :=
  ∃ action next, (self.reconcile authority operationId observation at').run journal
      = (.ok action, next)
    ∧ self.Keeps journal operationId at' observation next action

/-- `reconcile` of a recorded intent reaches the check of its fence. -/
structure ReachesFence (record : BridgeOperationRecord) (attempt : BridgeOperationAttempt)
    (observation : BridgeObjectObservation) (at' : Datetime) : Prop where
  state_eq : record.state = .intentRecorded
  fresh : observationFresh observation.observedAt at' attempt
  after_acquisition : record.intent.fence.acquisitionDurableAt ≤ observation.observedAt
  preimage : observationIsPreimage observation record.intent

/-- The cases in which `reconcile` raises. -/
inductive Refuses (record : BridgeOperationRecord) (attempt : BridgeOperationAttempt)
    (observation : BridgeObjectObservation) : Prop
  | unanswered {e : PyError} : ReachesFence record attempt observation at' →
      authority.currentBinding record.intent.fence.provider = .error e →
      (∀ reasonCode, e ≠ .transactionBlocked reasonCode) → Refuses record attempt observation
  | blockedAttempt : ReachesFence record attempt observation at' →
      authority.currentBinding record.intent.fence.provider = .ok (some record.intent.fence) →
      fenceLiveAt record.intent.fence at' → attempt.state = .blocked →
      record.intent.kind = .write → Refuses record attempt observation
  | superseded : record.state = .verified → observationFresh observation.observedAt at' attempt →
      (∀ receipt, record.receipt = some receipt → ¬ observationMatchesReceipt observation receipt) →
      Superseded attempt record → Refuses record attempt observation

end Specification

section Runs

variable {self : BridgeTransactionRecorder} {authority : FenceAuthorityAnswers}
  {journal next : Journal} {history : History} {operationId : ObjectOperationId} {at' : Datetime}
  {attempt : BridgeOperationAttempt} {index : ℕ} {record : BridgeOperationRecord}
  {observation : BridgeObjectObservation}

omit [DigestJson] in
theorem attemptForIntent_of_fresh
    (hattempt : journal.getAttempt record.intent.planId record.intent.attempt = .ok attempt)
    (hfreshness : attempt.maxObservationAgeSeconds = self.maxObservationAgeSeconds) :
    self.attemptForIntent journal record.intent = .ok attempt := by
  simp only [attemptForIntent, bind_eq_ok, exists_unit, check_eq_ok, pure_eq_ok]
  exact ⟨attempt, hattempt, hfreshness, rfl⟩

/-- `reconcile` on an observation of an operation that is neither blocked nor armed. -/
theorem run_reconcile_observed (hget : journal.getOperation operationId = .ok record)
    (hblocked : record.state ≠ .blocked) (harmed : record.state ≠ .dispatchArmed) :
    (self.reconcile authority operationId (some observation) at').run journal
      = (self.reconcileObserved authority operationId record observation at').run journal := by
  rw [reconcile, Method.run_get_bind, Method.run_bind_of_ok (Method.run_lift_ok.2 ⟨hget, rfl⟩)]
  cases hs : record.state with
  | blocked => exact absurd hs hblocked
  | dispatchArmed => exact absurd hs harmed
  | intentRecorded => rfl
  | acknowledged => rfl
  | verified => rfl

theorem run_reconcileObserved
    (hattempt : self.attemptForIntent journal record.intent = .ok attempt) :
    (self.reconcileObserved authority operationId record observation at').run journal
      = (if ¬ observationFresh observation.observedAt at' attempt then
          pure .refreshObservation
        else if ¬ observationIdentityMatches observation record.intent then
          block operationId
            (if record.state = .verified then .verifiedDrift else .observationMismatch)
        else
          match record.state with
          | .intentRecorded => reconcileIntent authority operationId record.intent observation at'
          | .acknowledged => reconcileAcknowledged operationId record observation
          | _ => reconcileVerified operationId record attempt observation at' :
          JournalMethod BridgeReconciliationAction).run journal := by
  rw [reconcileObserved, Method.run_get_bind]
  exact Method.run_bind_of_ok (Method.run_lift_ok.2 ⟨hattempt, rfl⟩)

/-- Blocking an operation that no later rollback depends on. -/
theorem run_block (h : Represents journal history)
    (hat : history.OperationAt operationId attempt index record)
    (hattempt : attempt.state = .open ∨ attempt.state = .blocked) (hstate : record.state ≠ .blocked)
    (hlast : record.state = .verified → ¬ Superseded attempt record)
    (reasonCode : BridgeBlockReason) :
    ∃ next, (block operationId reasonCode).run journal = (.ok .block, next)
      ∧ ∃ updated, next.getOperation operationId = .ok updated ∧ updated.state = .blocked := by
  obtain ⟨updated, next, hrun, hget, hblocked⟩ :=
    h.run_blockOperation hat hattempt hstate hlast reasonCode
  exact ⟨next, Method.run_bind_ok.2 ⟨updated, next, hrun, Method.run_pure_ok.2 ⟨rfl, rfl⟩⟩,
    updated, hget, hblocked⟩

omit [DigestJson] in
theorem identity_of_matches {receipt : BridgeOperationReceipt}
    (hvalid : receiptMatches receipt record.intent)
    (hmatches : observationMatchesReceipt observation receipt) :
    observationIdentityMatches observation record.intent := by
  obtain ⟨_, _, _, hprovider, hkey, _⟩ := hvalid
  exact ⟨hmatches.1.trans hprovider, hmatches.2.1.trans hkey⟩

/-- The authorization of a preimage that reached a live fence. -/
theorem create_authorization (hwf : record.intent.WellFormed)
    (hreaches : ReachesFence record attempt observation at')
    (hlive : fenceLiveAt record.intent.fence at') :
    ∃ authorization, BridgeDispatchAuthorization.create record.intent observation at'
        = .ok authorization
      ∧ authorization.ValidFor record.intent
      ∧ observationFresh authorization.observedAt authorization.authorizedAt attempt := by
  obtain ⟨⟨hprovider, hkey⟩, hrevision, hfingerprint⟩ := hreaches.preimage
  let authorization : BridgeDispatchAuthorization :=
    { BridgeDispatchAuthorization.fieldsOf record.intent observation at' with
      authorizationDigest := digestJson
        (.authorization (BridgeDispatchAuthorization.fieldsOf record.intent observation at')) }
  have hvalid : authorization.ValidFor record.intent :=
    { intent_wf := hwf
      operationId_eq := rfl
      intentDigest_eq := rfl
      provider_eq := rfl
      objectKey_eq := rfl
      fenceAcquisitionOperationId_eq := rfl
      fenceAcquisitionReceiptId_eq := rfl
      fenceAcquisitionReceiptDigest_eq := rfl
      revision_eq := sameRevision_iff.1 hrevision
      fingerprint_eq := hfingerprint
      authorizationDigest_eq := rfl
      durable_le_observed := hreaches.after_acquisition
      observed_le_authorized := hreaches.fresh.1
      authorized_lt_expires := hlive.2 }
  exact ⟨authorization, BridgeDispatchAuthorization.create_eq_ok.2 ⟨hvalid, rfl⟩, hvalid,
    hreaches.fresh⟩

/-- The verification of an observation of the receipt. -/
theorem create_verification {receipt : BridgeOperationReceipt}
    (hvalid : receipt.ValidFor record.intent)
    (hmatches : observationMatchesReceipt observation receipt)
    (htime : observation.observedAt ≤ at') :
    ∃ verification, BridgeOperationVerification.create record.intent receipt observation at'
        = .ok verification
      ∧ verification.ValidFor record.intent receipt
      ∧ verification.observedAt = observation.observedAt ∧ verification.verifiedAt = at' := by
  obtain ⟨_, _, _, hprovider, hkey, _⟩ := hvalid.matches_intent
  obtain ⟨hprovider', hkey', hrevision, hfingerprint, hdurable⟩ := hmatches
  have hverifies : ({
      operationId := record.intent.operationId
      intentDigest := record.intent.intentDigest
      receiptId := receipt.receiptId
      receiptDigest := receipt.receiptDigest
      provider := record.intent.provider
      objectKey := record.intent.objectKey
      revision := observation.revision
      fingerprint := observation.fingerprint
      observedAt := observation.observedAt
      verifiedAt := at' } : BridgeOperationVerification).ValidFor record.intent receipt :=
    ⟨hvalid, htime, rfl, rfl, rfl, rfl, rfl, rfl, hrevision, hfingerprint, hdurable⟩
  refine ⟨_, ?_, hverifies, rfl, rfl⟩
  simp only [BridgeOperationVerification.create, bind_unit_eq_ok,
    validateObjectReceiptBinding_eq_ok, BridgeOperationVerification.validateFor_eq_ok, pure_eq_ok]
  exact ⟨hvalid, check_eq_ok.2 htime, hverifies, trivial⟩

/-! ### Verifying a receipt -/

/-- Evidence that is newer than the latest is newer than all. -/
theorem newer_than_all {verification : BridgeOperationVerification}
    (hwf : record.WellFormed)
    (hlatest : ∀ latest, record.verification = some latest →
      latest.observedAt < verification.observedAt)
    (htime : ∀ previous ∈ record.verifications, previous.verifiedAt ≤ verification.verifiedAt) :
    ∀ previous ∈ record.verifications, verification.Newer previous := by
  intro previous hmem
  refine ⟨?_, htime previous hmem⟩
  cases hlast : record.verifications.getLast? with
  | none =>
    rw [List.getLast?_eq_none_iff.1 hlast] at hmem
    cases hmem
  | some latest =>
    obtain ⟨earlier, hsplit⟩ := List.getLast?_eq_some_iff.1 hlast
    have hlt := hlatest latest hlast
    have hnewer := hwf.verifications_newer
    rw [hsplit, List.pairwise_append] at hnewer
    rw [hsplit, List.mem_append, List.mem_singleton] at hmem
    rcases hmem with hmem | rfl
    · exact lt_trans (hnewer.2.2 previous hmem latest (by simp)).1 hlt
    · exact hlt

theorem run_verifyReceipt (h : Represents journal history)
    (hat : history.OperationAt operationId attempt index record)
    (hopen : attempt.state = .open ∨ attempt.state = .blocked)
    (hattempt : self.attemptForIntent journal record.intent = .ok attempt)
    (hstate : record.state = .acknowledged ∨ record.state = .verified)
    (hfresh : observationFresh observation.observedAt at' attempt)
    {receipt : BridgeOperationReceipt} (hreceipt : record.receipt = some receipt)
    (hmatches : observationMatchesReceipt observation receipt)
    (hlatest : ∀ latest, record.verification = some latest →
      latest.observedAt < observation.observedAt)
    (htime : ∀ previous ∈ record.verifications, previous.verifiedAt ≤ at') :
    self.Verifies journal operationId at' observation := by
  have hget : journal.getOperation operationId = .ok record :=
    h.getOperation_eq_ok.2 ⟨attempt, index, hat⟩
  have hwf := (h.wellFormed attempt hat.holds).operations.record_wf record hat.mem
  obtain ⟨verification, hcreate, hvalid, hobserved, hverified⟩ :=
    create_verification (hwf.receipt_valid receipt hreceipt).1 hmatches hfresh.1
  have hnewer := newer_than_all hwf (hobserved ▸ hlatest) (hverified ▸ htime)
  obtain ⟨updated, next, hrun, hnext, happended⟩ :=
    h.run_recordVerification hat hopen hstate hreceipt hvalid hnewer
  refine ⟨record, verification, updated, next, hget, ?_, hnext, happended⟩
  have happend : (appendObservation operationId record.intent receipt observation at').run journal
      = (.ok updated, next) := by
    rw [appendObservation, hcreate]
    exact hrun
  rw [verifyReceipt, Method.run_get_bind, Method.run_lift_bind_ok]
  refine ⟨record, hget, ?_⟩
  rw [Method.run_require_bind_ok, Method.run_lift_bind_ok]
  refine ⟨hstate, attempt, hattempt, ?_⟩
  rw [Method.run_require_bind_ok, hreceipt]
  refine ⟨hfresh, ?_⟩
  show (verifyAgainst operationId record receipt observation at').run journal = _
  unfold verifyAgainst
  cases hlast : record.verification with
  | none => exact happend
  | some latest =>
    show (if _ then _ else _ : JournalMethod BridgeOperationRecord).run journal = _
    rw [if_neg (not_le.2 (hlatest latest hlast))]
    exact happend

/-! ### The fence -/

/-- What the check of the fence leads to when it does not raise an unexpected error. -/
theorem run_reconcileFenced (h : Represents journal history)
    (hat : history.OperationAt operationId attempt index record)
    (hopen : attempt.state = .open ∨ attempt.state = .blocked)
    (hreaches : ReachesFence record attempt observation at')
    (hanswers : ¬ Refuses authority at' record attempt observation) :
    ∃ action next, (reconcileFenced authority operationId record.intent observation at').run journal
        = (.ok action, next)
      ∧ self.Keeps journal operationId at' (some observation) next action := by
  have hwf := (h.wellFormed attempt hat.holds).operations.record_wf record hat.mem
  -- a fence that is stale or expired blocks the operation
  have hblock : ∀ reasonCode, ∃ action next, (block operationId reasonCode).run journal
        = (.ok action, next)
      ∧ self.Keeps journal operationId at' (some observation) next action := by
    intro reasonCode
    obtain ⟨next, hrun, hkeeps⟩ := run_block h hat hopen (by simp [hreaches.state_eq])
      (by simp [hreaches.state_eq]) reasonCode
    exact ⟨.block, next, hrun, hkeeps⟩
  unfold reconcileFenced requireCurrentLiveFence
  cases hcurrent : authority.currentBinding record.intent.fence.provider with
  | error e =>
    by_cases he : ∃ reasonCode, e = .transactionBlocked reasonCode
    · obtain ⟨reasonCode, rfl⟩ := he
      exact hblock reasonCode
    · exact absurd (.unanswered hreaches hcurrent fun reasonCode heq => he ⟨reasonCode, heq⟩)
        hanswers
  | ok current =>
    by_cases hsame : current = some record.intent.fence
    · by_cases hlive : fenceLiveAt record.intent.fence at'
      · obtain ⟨authorization, hcreate, hvalid, hfresh⟩ :=
          create_authorization hwf.intent_wf hreaches hlive
        -- in a blocked attempt only a rollback may go on
        have hcompensates : attempt.state = .blocked → record.intent.kind = .rollback := by
          intro hblocked
          cases hkind : record.intent.kind with
          | rollback => rfl
          | write =>
            subst hsame
            exact absurd (.blockedAttempt hreaches hcurrent hlive hblocked hkind) hanswers
        obtain ⟨updated, next, harm, hget, harmed⟩ :=
          h.run_armOperation hat hopen hreaches.state_eq hcompensates hvalid hfresh
        refine ⟨.dispatch, next, ?_, updated, hget, harmed⟩
        simp only [check, hsame, hlive, if_true, bind, Except.bind]
        refine Method.run_bind_ok.2 ⟨updated, next, ?_, Method.run_pure_ok.2 ⟨rfl, rfl⟩⟩
        exact Method.run_lift_bind_ok.2 ⟨authorization, hcreate, harm⟩
      · simp only [check, hsame, hlive, if_true, if_false, bind, Except.bind]
        exact hblock .expiredFence
    · simp only [check, hsame, if_false, bind, Except.bind]
      exact hblock .staleFence

/-! ### Each state of the record -/

theorem run_reconcileIntent (h : Represents journal history)
    (hat : history.OperationAt operationId attempt index record)
    (hopen : attempt.state = .open ∨ attempt.state = .blocked)
    (hstate : record.state = .intentRecorded)
    (hfresh : observationFresh observation.observedAt at' attempt)
    (hanswers : ¬ Refuses authority at' record attempt observation) :
    ∃ action next, (reconcileIntent authority operationId record.intent observation at').run journal
        = (.ok action, next)
      ∧ self.Keeps journal operationId at' (some observation) next action := by
  unfold reconcileIntent
  split
  · exact ⟨.refreshObservation, journal, rfl, rfl⟩
  · rename_i hafter
    split
    · obtain ⟨next, hrun, hkeeps⟩ :=
        run_block h hat hopen (by simp [hstate]) (by simp [hstate]) .lifecycleMismatch
      exact ⟨.block, next, hrun, hkeeps⟩
    · split
      · obtain ⟨next, hrun, hkeeps⟩ :=
          run_block h hat hopen (by simp [hstate]) (by simp [hstate]) .observationMismatch
        exact ⟨.block, next, hrun, hkeeps⟩
      · rename_i hpreimage
        exact run_reconcileFenced h hat hopen
          ⟨hstate, hfresh, not_lt.1 hafter, not_not.1 hpreimage⟩ hanswers

theorem run_reconcileAcknowledged (h : Represents journal history)
    (hat : history.OperationAt operationId attempt index record)
    (hopen : attempt.state = .open ∨ attempt.state = .blocked)
    (hattempt : self.attemptForIntent journal record.intent = .ok attempt)
    (hstate : record.state = .acknowledged)
    (hfresh : observationFresh observation.observedAt at' attempt) :
    ∃ action next, (reconcileAcknowledged operationId record observation).run journal
        = (.ok action, next)
      ∧ self.Keeps journal operationId at' (some observation) next action := by
  have hwf := (h.wellFormed attempt hat.holds).operations.record_wf record hat.mem
  obtain ⟨_, _, _, _, hempty, _⟩ := hwf.acknowledged_or_verified (Or.inl hstate)
  have hnil := hempty hstate
  have hblock : ∀ reasonCode, ∃ action next, (block operationId reasonCode).run journal
        = (.ok action, next)
      ∧ self.Keeps journal operationId at' (some observation) next action := by
    intro reasonCode
    obtain ⟨next, hrun, hkeeps⟩ :=
      run_block h hat hopen (by simp [hstate]) (by simp [hstate]) reasonCode
    exact ⟨.block, next, hrun, hkeeps⟩
  unfold reconcileAcknowledged
  split
  · exact hblock .receiptMismatch
  · rename_i receipt hreceipt
    split
    · rename_i hmatches
      refine ⟨.verifyReceipt, journal, rfl, rfl, observation, rfl, ?_⟩
      refine run_verifyReceipt h hat hopen hattempt (Or.inl hstate) hfresh hreceipt hmatches ?_ ?_
      · intro latest hlatest
        rw [BridgeOperationRecord.verification, hnil] at hlatest
        cases hlatest
      · intro previous hmem
        rw [hnil] at hmem
        cases hmem
    · exact hblock .observationMismatch

theorem run_reconcileVerified (h : Represents journal history)
    (hat : history.OperationAt operationId attempt index record)
    (hopen : attempt.state = .open ∨ attempt.state = .blocked)
    (hattempt : self.attemptForIntent journal record.intent = .ok attempt)
    (hstate : record.state = .verified)
    (hfresh : observationFresh observation.observedAt at' attempt)
    (htime : ∀ previous ∈ record.verifications, previous.verifiedAt ≤ at')
    (hanswers : ¬ Refuses authority at' record attempt observation) :
    ∃ action next, (reconcileVerified operationId record attempt observation at').run journal
        = (.ok action, next)
      ∧ self.Keeps journal operationId at' (some observation) next action := by
  have hwf := (h.wellFormed attempt hat.holds).operations.record_wf record hat.mem
  obtain ⟨_, hreceipt, _, _, _, hsome⟩ := hwf.acknowledged_or_verified (Or.inr hstate)
  obtain ⟨receipt, hreceipt⟩ := Option.ne_none_iff_exists'.1 hreceipt
  have hlatest : record.verification = some (record.verifications.getLast (hsome hstate)) :=
    List.getLast?_eq_getLast_of_ne_nil (hsome hstate)
  unfold reconcileVerified
  rw [hreceipt, hlatest]
  dsimp only
  split
  · rename_i hmatches
    split
    · rename_i hnewer
      refine ⟨.verifyReceipt, journal, rfl, rfl, observation, rfl, ?_⟩
      refine run_verifyReceipt h hat hopen hattempt (Or.inr hstate) hfresh hreceipt hmatches ?_
        htime
      intro latest hfound
      rw [hlatest, Option.some.injEq] at hfound
      rw [← hfound]
      exact hnewer
    · split
      · exact ⟨.complete, journal, rfl, rfl⟩
      · exact ⟨.refreshObservation, journal, rfl, rfl⟩
  · rename_i hdrift
    have hlast : ¬ Superseded attempt record := by
      refine fun hsuperseded => hanswers (.superseded hstate hfresh (fun found hfound => ?_)
        hsuperseded)
      rw [hreceipt, Option.some.injEq] at hfound
      rw [← hfound]
      exact hdrift
    obtain ⟨next, hrun, hkeeps⟩ :=
      run_block h hat hopen (by simp [hstate]) (fun _ => hlast) .verifiedDrift
    exact ⟨.block, next, hrun, hkeeps⟩

/-- `reconcile` acts on every observation that it does not refuse. -/
theorem actionable_of_not_refuses (h : Represents journal history)
    (hat : history.OperationAt operationId attempt index record)
    (hopen : attempt.state = .open ∨ attempt.state = .blocked)
    (hattempt : self.attemptForIntent journal record.intent = .ok attempt)
    (htime : ∀ previous ∈ record.verifications, previous.verifiedAt ≤ at')
    (hblocked : record.state ≠ .blocked) (harmed : record.state ≠ .dispatchArmed)
    (hanswers : ¬ Refuses authority at' record attempt observation) :
    self.Actionable authority journal operationId at' (some observation) := by
  have hget : journal.getOperation operationId = .ok record :=
    h.getOperation_eq_ok.2 ⟨attempt, index, hat⟩
  have hwf := (h.wellFormed attempt hat.holds).operations.record_wf record hat.mem
  unfold Actionable
  rw [run_reconcile_observed hget hblocked harmed, run_reconcileObserved hattempt]
  split
  · exact ⟨.refreshObservation, journal, rfl, rfl⟩
  · rename_i hfresh
    have hfresh := not_not.1 hfresh
    split
    · rename_i hidentity
      have hlast : record.state = .verified → ¬ Superseded attempt record := by
        intro hstate hsuperseded
        refine hanswers (.superseded hstate hfresh (fun receipt hreceipt hmatches => ?_)
          hsuperseded)
        exact hidentity
          (identity_of_matches (hwf.receipt_valid receipt hreceipt).1.matches_intent hmatches)
      obtain ⟨next, hrun, hkeeps⟩ := run_block h hat hopen hblocked hlast
        (if record.state = .verified then .verifiedDrift else .observationMismatch)
      exact ⟨.block, next, hrun, hkeeps⟩
    · cases hstate : record.state with
      | blocked => exact absurd hstate hblocked
      | dispatchArmed => exact absurd hstate harmed
      | intentRecorded => exact run_reconcileIntent h hat hopen hstate hfresh hanswers
      | acknowledged => exact run_reconcileAcknowledged h hat hopen hattempt hstate hfresh
      | verified => exact run_reconcileVerified h hat hopen hattempt hstate hfresh htime hanswers

/-- `reconcile` raises on every observation that it refuses. -/
theorem not_actionable_of_refuses (h : Represents journal history)
    (hget : journal.getOperation operationId = .ok record)
    (hgetAttempt : journal.getAttempt record.intent.planId record.intent.attempt = .ok attempt)
    (hattempt : self.attemptForIntent journal record.intent = .ok attempt)
    (hrefuses : Refuses authority at' record attempt observation) :
    ¬ self.Actionable authority journal operationId at' (some observation) := by
  obtain ⟨index, hat⟩ := h.operationAt hget hgetAttempt
  have hwf := (h.wellFormed attempt hat.holds).operations.record_wf record hat.mem
  rintro ⟨action, next, hrun, _⟩
  -- what reaches the fence has passed every earlier branch
  have hfenced : ReachesFence record attempt observation at' →
      (reconcileFenced authority operationId record.intent observation at').run journal
        = (.ok action, next) := by
    intro hreaches
    have hpost : ¬ observationIsPostimage observation record.intent := fun hpost =>
      hwf.intent_wf.pre_ne_post (hreaches.preimage.2.2.symm.trans hpost.2)
    rw [run_reconcile_observed hget (by simp [hreaches.state_eq]) (by simp [hreaches.state_eq]),
      run_reconcileObserved hattempt, if_neg (not_not.2 hreaches.fresh),
      if_neg (not_not.2 hreaches.preimage.1), hreaches.state_eq] at hrun
    simp only [reconcileIntent, if_neg (not_lt.2 hreaches.after_acquisition), if_neg hpost,
      if_neg (not_not.2 hreaches.preimage)] at hrun
    exact hrun
  cases hrefuses with
  | @unanswered e hreaches hcurrent hunexpected =>
    have hrun := hfenced hreaches
    have hraises : requireCurrentLiveFence authority record.intent.fence at' = .error e := by
      rw [requireCurrentLiveFence, hcurrent]
      rfl
    unfold reconcileFenced at hrun
    rw [hraises] at hrun
    -- an expected refusal of the fence would block the operation instead of raising
    split at hrun
    · rename_i heq
      cases heq
    · rename_i reasonCode heq
      cases heq
      exact hunexpected _ rfl
    · exact Method.run_raise_ok.1 hrun
  | blockedAttempt hreaches hcurrent hlive hblocked hwrite =>
    have hrun := hfenced hreaches
    have hpasses : requireCurrentLiveFence authority record.intent.fence at' = .ok () := by
      simp only [requireCurrentLiveFence, hcurrent, check, if_true, hlive, bind, Except.bind]
    unfold reconcileFenced at hrun
    rw [hpasses] at hrun
    obtain ⟨updated, s, hauthorize, _⟩ := Method.run_bind_ok.1 hrun
    obtain ⟨authorization, _, harm⟩ := Method.run_lift_bind_ok.1 hauthorize
    exact h.armOperation_blocked hget hgetAttempt hreaches.state_eq hblocked hwrite harm
  | superseded hstate hfresh hdrift hsuperseded =>
    have hraises : ∀ reasonCode a, (block operationId reasonCode).run journal ≠ (.ok a, next) := by
      intro reasonCode a hblock
      obtain ⟨updated, s, hblock, _⟩ := Method.run_bind_ok.1 hblock
      exact h.blockOperation_superseded hget hgetAttempt hstate hsuperseded reasonCode hblock
    rw [run_reconcile_observed hget (by simp [hstate]) (by simp [hstate]),
      run_reconcileObserved hattempt, if_neg (not_not.2 hfresh)] at hrun
    split at hrun
    · exact hraises _ _ hrun
    · rw [hstate] at hrun
      obtain ⟨_, hreceipt, _, _, _, hsome⟩ := hwf.acknowledged_or_verified (Or.inr hstate)
      obtain ⟨receipt, hreceipt⟩ := Option.ne_none_iff_exists'.1 hreceipt
      have hlatest : record.verification = some (record.verifications.getLast (hsome hstate)) :=
        List.getLast?_eq_getLast_of_ne_nil (hsome hstate)
      simp only [reconcileVerified, hreceipt, hlatest, if_neg (hdrift receipt hreceipt)] at hrun
      exact hraises _ _ hrun

end Runs

/-- In every state that the recorder reaches, `reconcile` of an operation of an open or blocked
attempt returns an action that the journal keeps, exactly when the observation is not one that it
refuses. -/
theorem reconcile_actionable {self : BridgeTransactionRecorder} {events : List RecorderEvent}
    {journal : Journal} (hrun : self.Run events journal) {operationId : ObjectOperationId}
    {record : BridgeOperationRecord} {attempt : BridgeOperationAttempt}
    (hget : journal.getOperation operationId = .ok record)
    (hattempt : journal.getAttempt record.intent.planId record.intent.attempt = .ok attempt)
    (hopen : attempt.state = .open ∨ attempt.state = .blocked)
    (hfreshness : attempt.maxObservationAgeSeconds = self.maxObservationAgeSeconds)
    (authority : FenceAuthorityAnswers) (observation : Option BridgeObjectObservation)
    {at' : Datetime} (htime : ∀ previous ∈ record.verifications, previous.verifiedAt ≤ at') :
    self.Actionable authority journal operationId at' observation ↔
      ∀ given, observation = some given → ¬ Refuses authority at' record attempt given := by
  obtain ⟨history, _, h⟩ := hrun.reachable.represents
  obtain ⟨index, hat⟩ := h.operationAt hget hattempt
  have hfor := attemptForIntent_of_fresh hattempt hfreshness
  constructor
  · rintro hactionable given rfl hrefuses
    exact not_actionable_of_refuses h hget hattempt hfor hrefuses hactionable
  · intro hanswers
    by_cases hblocked : record.state = .blocked
    · refine ⟨.block, journal, ?_, record, hget, hblocked⟩
      rw [reconcile, Method.run_get_bind, Method.run_lift_bind_ok]
      refine ⟨record, hget, ?_⟩
      rw [hblocked]
      rfl
    · by_cases harmed : record.state = .dispatchArmed
      · refine ⟨.queryReceipt, journal, ?_, rfl⟩
        rw [reconcile, Method.run_get_bind, Method.run_lift_bind_ok]
        refine ⟨record, hget, ?_⟩
        rw [harmed]
        rfl
      · cases observation with
        | none =>
          refine ⟨.refreshObservation, journal, ?_, rfl⟩
          rw [reconcile, Method.run_get_bind, Method.run_lift_bind_ok]
          refine ⟨record, hget, ?_⟩
          cases hstate : record.state with
          | blocked => exact absurd hstate hblocked
          | dispatchArmed => exact absurd hstate harmed
          | intentRecorded => rfl
          | acknowledged => rfl
          | verified => rfl
        | some observation =>
          exact actionable_of_not_refuses h hat hopen hfor htime hblocked harmed
            (hanswers observation rfl)

end BridgeTransactionRecorder

end

/-! ## A blocked attempt with a second write -/

namespace TwoWrites

open Sample (second planDigest firstPlan firstPlanId firstIntent firstReceipt objectFields
  objectIntent expectedWrite recorder answers preimage)

def morningKey : CanonicalText := ⟨"schedule.morning", by decide⟩

/-- The second write of the first plan. -/
def morningFields : ObjectIntentFields :=
  { objectFields with sequence := 2, objectKey := morningKey }

def morningDigest : Digest :=
  ⟨0x572e68104404c28204193a266c972e5ba53c2a806d839c080864a424c5653c17⟩

def morningIntent : BridgeOperationIntent :=
  { morningFields with
    operationId := ⟨morningDigest.prefix24⟩
    intentDigest := morningDigest }

def morningPreimage : BridgeObjectObservation := { preimage with objectKey := morningKey }

/-- The authorization that `reconcile` creates for it. -/
def morningAuthorization : AuthorizationFields :=
  BridgeDispatchAuthorization.fieldsOf morningIntent morningPreimage (second 5)

scoped instance digestJson : DigestJson where
  digestJson payload :=
    (((.objectIntent morningFields, morningDigest) :: (.authorization morningAuthorization,
        ⟨0x9dbda35aad57931d86c6ca19f9ddd0a7054d3bfc304d1c32a4b22172471d6b0f⟩) ::
        Sample.digests).find? fun entry => decide (entry.1 = payload)).elim ⟨0⟩ Prod.snd

/-- Acquire the fence of the first plan and prepare both of its writes. -/
def prepareCalls : List RecorderCall :=
  [.beginAttempt firstPlanId firstPlan (planDigest 0xea) 1
      [expectedWrite, { expectedWrite with objectKey := morningKey }],
    .prepareAcquisition firstIntent,
    .reconcileAcquisition (answers none) firstIntent.operationId (second 0),
    .acknowledgeAcquisition (.applied firstReceipt),
    .prepare (answers (some firstReceipt.binding)) objectIntent (second 4),
    .prepare (answers (some firstReceipt.binding)) morningIntent (second 4)]

/-- Then reconcile the first write with an object that has drifted. -/
def driftCalls : List RecorderCall :=
  prepareCalls ++ [.reconcile (answers (some firstReceipt.binding)) objectIntent.operationId
    (some { preimage with fingerprint := planDigest 0xcc }) (second 5)]

/-- The attempt after both writes are prepared. -/
def preparedAttempt : BridgeOperationAttempt :=
  { Sample.opened firstPlanId firstPlan (Sample.acquired firstIntent firstReceipt) with
    expectedWrites := [expectedWrite, { expectedWrite with objectKey := morningKey }]
    operations := [.recorded objectIntent, .recorded morningIntent] }

/-- The attempt after its first write has drifted. -/
def driftedAttempt : BridgeOperationAttempt :=
  { preparedAttempt with
    state := .blocked
    operations := [
      { intent := objectIntent
        state := .blocked
        reasonCode := some .observationMismatch
        blockedFrom := some .intentRecorded },
      .recorded morningIntent]
    reasonCode := some .observationMismatch }

/-- The first write of the prepared attempt is reconciled with its preimage. -/
theorem prepared_write_actionable :
    recorder.Actionable (answers (some firstReceipt.binding)) (recorder.trace prepareCalls {}).2
      objectIntent.operationId (second 5) (some preimage) := by
  have hget : (recorder.trace prepareCalls {}).2.getOperation objectIntent.operationId
      = .ok (.recorded objectIntent) := by
    decide
  have hattempt : (recorder.trace prepareCalls {}).2.getAttempt firstPlanId 1
      = .ok preparedAttempt := by
    decide
  refine (BridgeTransactionRecorder.reconcile_actionable (recorder.run_trace prepareCalls) hget
    hattempt (Or.inl rfl) rfl _ _ fun _ hmem => absurd hmem List.not_mem_nil).2 ?_
  intro given _ hrefuses
  cases hrefuses with
  | unanswered _ hcurrent _ => cases hcurrent
  | blockedAttempt _ _ _ hblocked _ => cases hblocked
  | superseded hstate _ _ _ => cases hstate

/-- The drift of the first write blocks the attempt, and reconciling the second one with its
preimage raises. -/
theorem blocked_attempt_conflict :
    (recorder.trace driftCalls {}).2.getOperation morningIntent.operationId
        = .ok (.recorded morningIntent)
      ∧ (recorder.trace driftCalls {}).2.getAttempt firstPlanId 1 = .ok driftedAttempt
      ∧ driftedAttempt.maxObservationAgeSeconds = recorder.maxObservationAgeSeconds
      ∧ ((recorder.reconcile (answers (some firstReceipt.binding)) morningIntent.operationId
          (some morningPreimage) (second 5)).run (recorder.trace driftCalls {}).2).1
        = .error (.journalConflict "Blocked attempts cannot arm non-rollback operations.")
      ∧ ¬ recorder.Actionable (answers (some firstReceipt.binding)) (recorder.trace driftCalls {}).2
          morningIntent.operationId (second 5) (some morningPreimage) := by
  have hraises : ((recorder.reconcile (answers (some firstReceipt.binding))
      morningIntent.operationId (some morningPreimage) (second 5)).run
        (recorder.trace driftCalls {}).2).1
      = .error (.journalConflict "Blocked attempts cannot arm non-rollback operations.") := by
    decide
  refine ⟨by decide, by decide, rfl, hraises, ?_⟩
  rintro ⟨action, next, hrun, _⟩
  rw [hrun] at hraises
  cases hraises

end TwoWrites

end TrueFamily.Transaction
