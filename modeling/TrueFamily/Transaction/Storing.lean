import TrueFamily.Transaction.Refinement
import TrueFamily.Transaction.Replacement

/-!
# Storing one operation of an attempt

The records that arming, verifying and blocking store, with what they keep for the rest of the
attempt. An operation of an open or blocked attempt can be blocked, armed or verified
(`run_blockOperation`, `run_armOperation`, `run_recordVerification`) with two exceptions: a
blocked attempt arms no write, and a rollback that was retried cannot be blocked.
-/

namespace TrueFamily.Transaction

open Checked InMemoryBridgeOperationJournal BridgeOperationAttempt

variable [DigestJson]

/-! ## Records that reconciliation stores -/

namespace BridgeOperationRecord

variable {record : BridgeOperationRecord}

theorem WellFormed.blocked (h : record.WellFormed) (hstate : record.state ≠ .blocked)
    (reasonCode : BridgeBlockReason) :
    ({ record with
        state := .blocked, reasonCode := some reasonCode, blockedFrom := some record.state } :
      BridgeOperationRecord).WellFormed := by
  refine ⟨h.intent_wf, h.authorization_valid, h.receipt_valid, h.verification_valid,
    h.verifications_newer, ?_⟩
  have he := h.evidence
  unfold Evidence at he ⊢
  split at he <;> simp_all

/-- A recorded intent has no evidence. -/
theorem WellFormed.recorded (h : record.WellFormed) (hstate : record.state = .intentRecorded) :
    record.receipt = none ∧ record.verifications = [] ∧ record.reasonCode = none
      ∧ record.blockedFrom = none := by
  have he := h.evidence
  unfold Evidence at he
  split at he <;> simp_all

theorem WellFormed.armed (h : record.WellFormed) (hstate : record.state = .intentRecorded)
    {authorization : BridgeDispatchAuthorization} (hvalid : authorization.ValidFor record.intent) :
    ({ record with state := .dispatchArmed, authorization := some authorization } :
      BridgeOperationRecord).WellFormed := by
  obtain ⟨hreceipt, hverifications, hreason, hblocked⟩ := h.recorded hstate
  refine ⟨h.intent_wf, ?_, ?_, ?_, ?_, ?_⟩
  · intro found hfound
    cases hfound
    exact hvalid
  · intro receipt hfound
    rw [hreceipt] at hfound
    cases hfound
  · intro verification hmem
    rw [hverifications] at hmem
    cases hmem
  · show record.verifications.Pairwise _
    rw [hverifications]
    exact List.Pairwise.nil
  · simp only [Evidence, hblocked]
    exact ⟨by simp, hreceipt, hverifications, hreason⟩

/-- A record that awaits or has verifications. -/
theorem WellFormed.acknowledged_or_verified (h : record.WellFormed)
    (hstate : record.state = .acknowledged ∨ record.state = .verified) :
    record.authorization ≠ none ∧ record.receipt ≠ none ∧ record.reasonCode = none
      ∧ record.blockedFrom = none
      ∧ (record.state = .acknowledged → record.verifications = [])
      ∧ (record.state = .verified → record.verifications ≠ []) := by
  have he := h.evidence
  unfold Evidence at he
  split at he <;> simp_all

theorem WellFormed.verifiedWith (h : record.WellFormed)
    (hstate : record.state = .acknowledged ∨ record.state = .verified)
    {verification : BridgeOperationVerification} {receipt : BridgeOperationReceipt}
    (hreceipt : record.receipt = some receipt)
    (hvalid : verification.ValidFor record.intent receipt)
    (hnewer : ∀ previous ∈ record.verifications, verification.Newer previous) :
    ({ record with
        state := .verified, verifications := record.verifications ++ [verification] } :
      BridgeOperationRecord).WellFormed := by
  obtain ⟨hauthorization, hsome, hreason, hblocked, _, _⟩ := h.acknowledged_or_verified hstate
  refine ⟨h.intent_wf, h.authorization_valid, h.receipt_valid, ?_, ?_, ?_⟩
  · intro found hmem
    rcases List.mem_append.1 hmem with hmem | hmem
    · exact h.verification_valid found hmem
    · rw [List.mem_singleton.1 hmem]
      exact ⟨receipt, hreceipt, hvalid⟩
  · rw [List.pairwise_append]
    refine ⟨h.verifications_newer, List.pairwise_singleton _ _, ?_⟩
    intro previous hmem found hfound
    rw [List.mem_singleton.1 hfound]
    exact hnewer previous hmem
  · simp only [Evidence, hblocked]
    exact ⟨hauthorization, hsome, by simp, hreason⟩

end BridgeOperationRecord

/-! ## What they keep -/

section Refreshed

variable {attempt : BridgeOperationAttempt} {record : BridgeOperationRecord}
  {before after : List BridgeOperationRecord}

omit [DigestJson] in
theorem verified_of_noEffect (hstate : record.state ≠ .blocked)
    (h : rollbackProvenNoEffect record) : record.state = .verified :=
  h.elim (fun hundispatched => absurd hundispatched.1 hstate) (·.1)

theorem refreshes_blocked (h : attempt.WellFormed) (hmem : record ∈ attempt.operations)
    (hstate : record.state ≠ .blocked) (hlast : record.state = .verified →
      ¬ Superseded attempt record) (reasonCode : BridgeBlockReason) :
    Refreshes attempt record
      { record with
        state := .blocked, reasonCode := some reasonCode, blockedFrom := some record.state } where
  wellFormed := (h.operations.record_wf record hmem).blocked hstate reasonCode
  intent_eq := rfl
  receipt_eq := rfl
  verifications_kept := fun _ hverification => hverification
  fresh := h.operations.fresh record hmem
  eligible := by
    intro ⟨hverified, hrest⟩
    have hverified' : record.state = .verified := hverified.resolve_right fun hb => hstate hb.1
    exact ⟨Or.inr ⟨rfl, congrArg some hverified'⟩, hrest⟩
  resolved := by
    intro hresolved
    have hverified : record.state = .verified := hresolved.resolve_right fun hb => hstate hb.1
    obtain ⟨_, hreceipt, _, _, _, hverifications⟩ :=
      (h.operations.record_wf record hmem).acknowledged_or_verified (Or.inr hverified)
    exact Or.inr ⟨rfl, Or.inr ⟨congrArg some hverified, hreceipt, hverifications hverified⟩⟩
  undispatched := fun hundispatched => absurd hundispatched.1 hstate
  noEffect := fun hproven => Or.inr (hlast (verified_of_noEffect hstate hproven))

theorem refreshes_armed (h : attempt.WellFormed) (hmem : record ∈ attempt.operations)
    (hstate : record.state = .intentRecorded) {authorization : BridgeDispatchAuthorization}
    (hvalid : authorization.ValidFor record.intent)
    (hfresh : observationFresh authorization.observedAt authorization.authorizedAt attempt) :
    Refreshes attempt record
      { record with state := .dispatchArmed, authorization := some authorization } where
  wellFormed := (h.operations.record_wf record hmem).armed hstate hvalid
  intent_eq := rfl
  receipt_eq := rfl
  verifications_kept := fun _ hverification => hverification
  fresh := by
    intro found hfound
    cases hfound
    exact hfresh
  eligible := by
    intro heligible
    have := heligible.1
    simp [hstate] at this
  resolved := by
    intro hresolved
    unfold operationEffectResolved at hresolved
    simp [hstate] at hresolved
  undispatched := by
    intro hundispatched
    have := hundispatched.1
    simp [hstate] at this
  noEffect := by
    intro hproven
    have := verified_of_noEffect (by simp [hstate]) hproven
    simp [hstate] at this

theorem refreshes_verified (h : attempt.WellFormed) (hmem : record ∈ attempt.operations)
    (hstate : record.state = .acknowledged ∨ record.state = .verified)
    {verification : BridgeOperationVerification} {receipt : BridgeOperationReceipt}
    (hreceipt : record.receipt = some receipt)
    (hvalid : verification.ValidFor record.intent receipt)
    (hnewer : ∀ previous ∈ record.verifications, verification.Newer previous) :
    Refreshes attempt record
      { record with
        state := .verified, verifications := record.verifications ++ [verification] } where
  wellFormed := (h.operations.record_wf record hmem).verifiedWith hstate hreceipt hvalid hnewer
  intent_eq := rfl
  receipt_eq := rfl
  verifications_kept := fun _ hverification => List.mem_append_left _ hverification
  fresh := h.operations.fresh record hmem
  eligible := by
    intro ⟨_, _, happlied⟩
    exact ⟨Or.inl rfl, by simp [BridgeOperationRecord.verification], happlied⟩
  resolved := fun _ => Or.inl rfl
  undispatched := by
    intro hundispatched
    have := hundispatched.1
    rcases hstate with hs | hs <;> simp [hs] at this
  noEffect := by
    intro hproven
    refine Or.inl (Or.inr ?_)
    rcases hproven with hundispatched | ⟨_, _, houtcome⟩
    · have := hundispatched.1
      rcases hstate with hs | hs <;> simp [hs] at this
    · exact ⟨rfl, by simp [BridgeOperationRecord.verification], houtcome⟩

/-! ## The state of the attempt -/

omit [DigestJson] in
theorem blockedEvidence_replaced (hsplit : attempt.operations = before ++ record :: after)
    {updated : BridgeOperationRecord} (hrecord : record.state ≠ .blocked)
    (hupdated : updated.state ≠ .blocked) {state : BridgeAttemptState}
    {reasonCode : Option BridgeBlockReason} {terminalAt : Option Datetime} :
    blockedEvidence (replaced attempt (before ++ updated :: after) state reasonCode terminalAt)
      ↔ blockedEvidence attempt := by
  unfold blockedEvidence
  rw [hsplit]
  simp [replaced, or_and_right, exists_or, hrecord, hupdated]

/-- An open or blocked attempt stays as it is when neither record is blocked. -/
theorem state_replaced (h : attempt.WellFormed)
    (hstate : attempt.state = .open ∨ attempt.state = .blocked)
    (hsplit : attempt.operations = before ++ record :: after)
    {updated : BridgeOperationRecord} (hrecord : record.state ≠ .blocked)
    (hupdated : updated.state ≠ .blocked) :
    StateWellFormed (replaced attempt (before ++ updated :: after) attempt.state
      attempt.reasonCode attempt.terminalAt) := by
  have hok := h.state_ok
  unfold StateWellFormed at hok ⊢
  rw [blockedEvidence_replaced hsplit hrecord hupdated]
  rcases hstate with hs | hs
  · rw [hs] at hok
    simp only [replaced, hs]
    exact hok
  · rw [hs] at hok
    simp only [replaced, hs]
    exact hok

omit [DigestJson] in
theorem state_blocked (attempt : BridgeOperationAttempt) {updated : BridgeOperationRecord}
    (hupdated : updated.state = .blocked) (reasonCode : BridgeBlockReason) :
    StateWellFormed (replaced attempt (before ++ updated :: after) .blocked
      (attempt.reasonCode.or (some reasonCode)) none) := by
  show _ ≠ none ∧ _ = none ∧ blockedEvidence _
  refine ⟨?_, rfl, Or.inr (Or.inl ⟨updated, ?_, hupdated⟩)⟩
  · show attempt.reasonCode.or (some reasonCode) ≠ none
    cases attempt.reasonCode <;> simp
  · show updated ∈ before ++ updated :: after
    simp

end Refreshed

/-! ## Steps of the journal -/

section Steps

variable {journal : Journal} {history : History} {operationId : ObjectOperationId}
  {attempt : BridgeOperationAttempt} {index : ℕ} {record updated : BridgeOperationRecord}

omit [DigestJson] in
theorem exists_split_of_getElem? {α : Type} {items : List α} {i : ℕ} {x : α}
    (h : items[i]? = some x) : ∃ before after, items = before ++ x :: after
      ∧ ∀ y, items.set i y = before ++ y :: after := by
  obtain ⟨hlt, rfl⟩ := List.getElem?_eq_some_iff.1 h
  refine ⟨items.take i, items.drop (i + 1), ?_, fun y => ?_⟩
  · rw [← List.drop_eq_getElem_cons hlt, List.take_append_drop]
  · rw [List.set_eq_take_append_cons_drop, if_pos hlt]

omit [DigestJson] in
theorem History.OperationAt.mem (hat : history.OperationAt operationId attempt index record) :
    record ∈ attempt.operations :=
  List.mem_of_getElem? hat.get

/-- A stored operation is found again. -/
theorem Represents.getOperation_set {next : Journal} {stored : BridgeOperationAttempt}
    (hnext : Represents next (history.set stored))
    (hat : history.OperationAt operationId attempt index record)
    (hslot : attempt.slot = stored.slot)
    (hops : stored.operations = attempt.operations.set index updated)
    (hintent : updated.intent = record.intent) : next.getOperation operationId = .ok updated := by
  refine hnext.getOperation_eq_ok.2 ⟨stored, index, ?_, ?_, ?_⟩
  · exact (hat.holds.writes_set hslot stored).2 (Or.inl rfl)
  · rw [hops, List.getElem?_set_self (List.getElem?_eq_some_iff.1 hat.get).1]
  · rw [hintent]
    exact hat.id_eq

/-- An operation that no later rollback depends on can be blocked. -/
theorem Represents.run_blockOperation (h : Represents journal history)
    (hat : history.OperationAt operationId attempt index record)
    (hattempt : attempt.state = .open ∨ attempt.state = .blocked) (hstate : record.state ≠ .blocked)
    (hlast : record.state = .verified → ¬ Superseded attempt record)
    (reasonCode : BridgeBlockReason) :
    ∃ updated next, (blockOperation operationId reasonCode).run journal = (.ok updated, next)
      ∧ next.getOperation operationId = .ok updated ∧ updated.state = .blocked := by
  have hwf := h.wellFormed attempt hat.holds
  have hrefreshes := refreshes_blocked hwf hat.mem hstate hlast reasonCode
  obtain ⟨before, after, hsplit, hset⟩ := exists_split_of_getElem? hat.get
  have hblocked := replaced_wellFormed hwf hsplit hrefreshes
    (state_blocked attempt rfl reasonCode)
  rw [← hset] at hblocked
  have hblock := BridgeOperationRecord.block_eq_ok.2 ⟨hstate, hrefreshes.wellFormed, rfl⟩
  obtain ⟨stored, next, heq, hrun, hnext⟩ :=
    h.blockOperation_complete (.blockOperation hat hattempt hblock hblocked)
  cases heq
  exact ⟨_, next, hrun, hnext.getOperation_set hat rfl rfl rfl, rfl⟩

/-- Storing an operation that is not blocked keeps an open or blocked attempt valid. -/
theorem setOperation_wellFormed (hwf : attempt.WellFormed)
    (hget : attempt.operations[index]? = some record)
    (hattempt : attempt.state = .open ∨ attempt.state = .blocked) (hstate : record.state ≠ .blocked)
    (hrefreshes : Refreshes attempt record updated) (hupdated : updated.state ≠ .blocked) :
    (attempt.setOperation index updated).WellFormed := by
  obtain ⟨before, after, hsplit, hset⟩ := exists_split_of_getElem? hget
  have hstored := replaced_wellFormed hwf hsplit hrefreshes
    (state_replaced hwf hattempt hsplit hstate hupdated)
  rw [← hset] at hstored
  exact hstored

/-- A recorded intent stands after the release phase, and its fence is not released. -/
theorem not_released (hwf : attempt.WellFormed) (hmem : record ∈ attempt.operations)
    (hstate : record.state = .intentRecorded) :
    (∀ boundary, attempt.releasePhaseSequence = some boundary → boundary < record.intent.sequence)
      ∧ ∀ item ∈ attempt.releases,
        item.intent.acquisitionOperationId ≠ record.intent.fence.acquisitionOperationId := by
  have hunresolved : ¬ operationEffectResolved record := by
    unfold operationEffectResolved
    simp [hstate]
  constructor
  · intro boundary hboundary
    by_contra hle
    obtain ⟨before, after, hsplit⟩ := List.append_of_mem hmem
    have hsequence := hwf.sequence_eq hsplit
    refine hunresolved (hwf.releasePhase.closed boundary hboundary record ?_).1
    rw [hsplit, show boundary = before.length + ((boundary - before.length - 1) + 1) by omega,
      List.take_length_add_append, List.take_succ_cons]
    simp
  · intro item hitem heq
    have hchain : item ∈ releaseChain attempt item.intent.acquisitionOperationId :=
      mem_releaseChain.2 ⟨hitem, rfl⟩
    obtain ⟨first, hfirst⟩ : ∃ first,
        (releaseChain attempt item.intent.acquisitionOperationId).head? = some first := by
      rw [← Option.isSome_iff_exists, List.isSome_head?]
      exact List.ne_nil_of_mem hchain
    exact hunresolved (hwf.releases.settled _ first hfirst record hmem heq.symm).1

omit [DigestJson] in
/-- The acquisition of a fence is found by its ID. -/
theorem Fenced.acquired {fence : FenceBinding} {acquisition : FenceAcquisitionRecord}
    {receipt : FenceAcquisitionReceipt} (hfenced : Fenced attempt fence acquisition receipt)
    (hids : attempt.acquisitionIds.Nodup) :
    ((acquisitionForId attempt fence.acquisitionOperationId).bind (·.acknowledged?)).isSome := by
  have hfind : acquisitionForId attempt fence.acquisitionOperationId = some acquisition := by
    unfold acquisitionForId
    cases hfound : attempt.acquisitions.find? fun item =>
        decide (item.intent.operationId = fence.acquisitionOperationId) with
    | none =>
      have hnone := List.find?_eq_none.1 hfound acquisition hfenced.mem
      exact absurd (decide_eq_true hfenced.operationId_eq) hnone
    | some found =>
      have hid : found.intent.operationId = fence.acquisitionOperationId := by
        simpa using List.find?_some hfound
      exact congrArg some (List.inj_on_of_nodup_map hids (List.mem_of_find?_eq_some hfound)
        hfenced.mem (hid.trans hfenced.operationId_eq.symm))
  rw [hfind]
  simp [hfenced.acknowledged]

/-- A recorded intent can be armed, unless it is a write of a blocked attempt. -/
theorem Represents.run_armOperation (h : Represents journal history)
    (hat : history.OperationAt operationId attempt index record)
    (hattempt : attempt.state = .open ∨ attempt.state = .blocked)
    (hstate : record.state = .intentRecorded)
    (hcompensates : attempt.state = .blocked → record.intent.kind = .rollback)
    {authorization : BridgeDispatchAuthorization} (hvalid : authorization.ValidFor record.intent)
    (hfresh : observationFresh authorization.observedAt authorization.authorizedAt attempt) :
    ∃ updated next, (armOperation operationId authorization).run journal = (.ok updated, next)
      ∧ next.getOperation operationId = .ok updated ∧ updated.state = .dispatchArmed := by
  have hwf := h.wellFormed attempt hat.holds
  have hrefreshes := refreshes_armed hwf hat.mem hstate hvalid hfresh
  have hstored := setOperation_wellFormed hwf hat.get hattempt (by simp [hstate]) hrefreshes
    (by simp)
  obtain ⟨hafter, hunreleased⟩ := not_released hwf hat.mem hstate
  obtain ⟨acquisition, receipt, hfenced⟩ := hwf.operations.fenced record hat.mem
  have hadmits : History.AdmitsArming attempt record authorization :=
    { authorized := BridgeDispatchAuthorization.validateFor_eq_ok.2 hvalid
      fresh := hfresh
      after_release := hafter
      compensates := hcompensates
      acquired := hfenced.acquired hwf.acquisitionIds_nodup
      unreleased := hunreleased }
  have harm := BridgeOperationRecord.arm_eq_ok.2 ⟨hstate, hrefreshes.wellFormed, rfl⟩
  obtain ⟨stored, next, heq, hrun, hnext⟩ :=
    h.armOperation_complete (.armOperation hvalid.postInit hat hadmits harm hstored)
  cases heq
  exact ⟨_, next, hrun, hnext.getOperation_set hat rfl rfl rfl, rfl⟩

/-- Evidence that is newer than all of the record's is appended to it. -/
theorem appendVerification_newer {verification : BridgeOperationVerification}
    (hwf : record.WellFormed) (hstate : record.state = .acknowledged ∨ record.state = .verified)
    (hnewer : ∀ previous ∈ record.verifications, verification.Newer previous)
    (hupdated : ({ record with
        state := .verified, verifications := record.verifications ++ [verification] } :
      BridgeOperationRecord).WellFormed) :
    appendVerification record verification = .ok { record with
      state := .verified, verifications := record.verifications ++ [verification] } := by
  obtain ⟨_, _, _, _, hempty, hsome⟩ := hwf.acknowledged_or_verified hstate
  rw [Represents.appendVerification_eq_ok]
  rcases hstate with hs | hs
  · have hnil := hempty hs
    rw [hnil, List.nil_append] at hupdated ⊢
    exact Or.inl ⟨hs, BridgeOperationRecord.verify_eq_ok.2 ⟨hs, hupdated, rfl⟩⟩
  · have hsame : ({ record with
        state := .verified, verifications := record.verifications ++ [verification] } :
        BridgeOperationRecord)
        = { record with verifications := record.verifications ++ [verification] } := by rw [hs]
    rw [hsame] at hupdated ⊢
    have hlatest : record.verification = some (record.verifications.getLast (hsome hs)) :=
      List.getLast?_eq_getLast_of_ne_nil (hsome hs)
    have hlast := hnewer _ (List.getLast_mem (hsome hs))
    exact Or.inr ⟨hs, BridgeOperationRecord.refreshVerification_eq_ok.2
      ⟨hs, ⟨_, hlatest, hlast⟩, hupdated, rfl⟩⟩

/-- Newer evidence of the receipt can be appended. -/
theorem Represents.run_recordVerification (h : Represents journal history)
    (hat : history.OperationAt operationId attempt index record)
    (hattempt : attempt.state = .open ∨ attempt.state = .blocked)
    (hstate : record.state = .acknowledged ∨ record.state = .verified)
    {verification : BridgeOperationVerification} {receipt : BridgeOperationReceipt}
    (hreceipt : record.receipt = some receipt)
    (hvalid : verification.ValidFor record.intent receipt)
    (hnewer : ∀ previous ∈ record.verifications, verification.Newer previous) :
    ∃ updated next, (recordVerification verification).run journal = (.ok updated, next)
      ∧ next.getOperation operationId = .ok updated
      ∧ updated.verifications = record.verifications ++ [verification] := by
  have hwf := h.wellFormed attempt hat.holds
  have hrefreshes := refreshes_verified hwf hat.mem hstate hreceipt hvalid hnewer
  have hstored := setOperation_wellFormed hwf hat.get hattempt
    (by rcases hstate with hs | hs <;> simp [hs]) hrefreshes (by simp)
  have hid : verification.operationId = operationId :=
    hvalid.matches_receipt.1.trans hat.id_eq
  have hadmits : History.AdmitsVerification attempt record verification :=
    { unknown := fun hmem => absurd (hnewer verification hmem).1 (lt_irrefl _)
      unsettled := by rcases hattempt with hs | hs <;> simp [hs]
      bound := ⟨receipt, hreceipt, BridgeOperationVerification.validateFor_eq_ok.2 hvalid⟩ }
  have happend := appendVerification_newer (hwf.operations.record_wf record hat.mem) hstate hnewer
    hrefreshes.wellFormed
  subst hid
  obtain ⟨stored, next, heq, hrun, hnext⟩ := h.recordVerification_complete
    (.recordVerification (check_eq_ok.2 hvalid.observed_le_verified) hat hadmits happend hstored)
  cases heq
  exact ⟨_, next, hrun, hnext.getOperation_set hat rfl rfl rfl, rfl⟩

end Steps

/-! ## What cannot be blocked or armed -/

section Refused

variable {journal next : Journal} {history : History} {operationId : ObjectOperationId}
  {attempt : BridgeOperationAttempt} {record updated : BridgeOperationRecord}

/-- After a superseded rollback changed into one that is not proven to have had no effect, the
operations are not valid. -/
theorem not_operationsWellFormed (hwf : attempt.WellFormed) {stored : BridgeOperationAttempt}
    {before after : List BridgeOperationRecord}
    (hsplit : attempt.operations = before ++ record :: after)
    (hstored : stored.operations = before ++ updated :: after)
    (hintent : updated.intent = record.intent) (hsuperseded : Superseded attempt record)
    (hproven : ¬ rollbackProvenNoEffect updated) : ¬ OperationsWellFormed stored := by
  intro hops
  obtain ⟨hkind, later, hmem, hlater, hparent⟩ := (superseded_iff hwf hsplit).1 hsuperseded
  -- the first later rollback of the same write was admitted on the changed record
  obtain ⟨between, first, rest, hafter, ⟨hfirst, hfirstParent⟩, hnone⟩ :
      ∃ between first rest, after = between ++ first :: rest
        ∧ (first.intent.kind = .rollback
          ∧ first.intent.parentOperationId = record.intent.parentOperationId)
        ∧ ∀ item ∈ between, ¬ (item.intent.kind = .rollback
          ∧ item.intent.parentOperationId = record.intent.parentOperationId) := by
    cases hfind : after.find? fun item => decide (item.intent.kind = .rollback
        ∧ item.intent.parentOperationId = record.intent.parentOperationId) with
    | none =>
      have hnot := List.find?_eq_none.1 hfind later hmem
      exact absurd (decide_eq_true ⟨hlater, hparent⟩) hnot
    | some first =>
      obtain ⟨hp, between, rest, hafter, hbetween⟩ := List.find?_eq_some_iff_append.1 hfind
      refine ⟨between, first, rest, hafter, of_decide_eq_true hp, fun item hitem hboth => ?_⟩
      have hfalse := hbetween item hitem
      rw [decide_eq_true hboth] at hfalse
      cases hfalse
  have hsplit' : stored.operations = (before ++ updated :: between) ++ first :: rest := by
    rw [hstored, hafter]
    simp
  obtain ⟨parent, hadmitted⟩ := hops.rollback _ first rest hsplit' (by simp [hfirst])
  refine hproven (hadmitted.retry updated ?_).1
  have hid : record.intent.parentOperationId = some parent.intent.operationId :=
    hfirstParent.symm.trans hadmitted.parent_eq
  have hempty : rollbackChain between parent.intent.operationId = [] := by
    refine List.filter_eq_nil_iff.2 fun item hitem hin => hnone item hitem ?_
    obtain ⟨hne, hparent'⟩ := of_decide_eq_true hin
    refine ⟨?_, hparent'.trans hid.symm⟩
    cases hk : item.intent.kind with
    | write => exact absurd hk hne
    | rollback => rfl
  rw [rollbackChain_append, List.getLast?_append, show updated :: between = [updated] ++ between
    from rfl, rollbackChain_append, hempty, List.append_nil]
  simp [rollbackChain, hintent, hkind, hid]

/-- A recorded operation is found in one attempt only. -/
theorem Represents.eq_of_operationAt (h : Represents journal history) {index : ℕ}
    (hget : journal.getOperation operationId = .ok record)
    (hattempt : journal.getAttempt record.intent.planId record.intent.attempt = .ok attempt)
    {found : BridgeOperationAttempt} {other : BridgeOperationRecord}
    (hat : history.OperationAt operationId found index other) :
    record = other ∧ attempt = found := by
  have hother : journal.getOperation operationId = .ok other :=
    h.getOperation_eq_ok.2 ⟨found, index, hat⟩
  rw [hget, Except.ok.injEq] at hother
  subst hother
  obtain ⟨hholds, hslot⟩ := h.getAttempt_eq_ok.1 hattempt
  have hbelongs := (h.wellFormed found hat.holds).operations.belongs record hat.mem
  refine ⟨rfl, hholds.unique hat.holds ?_⟩
  rw [hslot]
  exact Prod.ext hbelongs.1 hbelongs.2.2.2

theorem Represents.operationAt (h : Represents journal history)
    (hget : journal.getOperation operationId = .ok record)
    (hattempt : journal.getAttempt record.intent.planId record.intent.attempt = .ok attempt) :
    ∃ index, history.OperationAt operationId attempt index record := by
  obtain ⟨found, index, hat⟩ := h.getOperation_eq_ok.1 hget
  obtain ⟨_, rfl⟩ := h.eq_of_operationAt hget hattempt hat
  exact ⟨index, hat⟩

/-- A verified rollback that was retried cannot be blocked. -/
theorem Represents.blockOperation_superseded (h : Represents journal history)
    (hget : journal.getOperation operationId = .ok record)
    (hattempt : journal.getAttempt record.intent.planId record.intent.attempt = .ok attempt)
    (hstate : record.state = .verified) (hsuperseded : Superseded attempt record)
    (reasonCode : BridgeBlockReason) :
    (blockOperation operationId reasonCode).run journal ≠ (.ok updated, next) := by
  intro hrun
  obtain ⟨history', hstep, _⟩ := h.blockOperation_sound hrun
  cases hstep with
  | blockOperation_again hat hblocked _ =>
    obtain ⟨rfl, rfl⟩ := h.eq_of_operationAt hget hattempt hat
    rw [hstate] at hblocked
    cases hblocked
  | blockOperation hat _ hblock hwf =>
    obtain ⟨rfl, rfl⟩ := h.eq_of_operationAt hget hattempt hat
    obtain ⟨before, after, hsplit, hset⟩ := exists_split_of_getElem? hat.get
    obtain ⟨_, _, rfl⟩ := BridgeOperationRecord.block_eq_ok.1 hblock
    refine not_operationsWellFormed (h.wellFormed _ hat.holds) hsplit (hset _) ?_ hsuperseded ?_
      hwf.operations
    · rfl
    rintro (hundispatched | hverified)
    · have hfrom : some record.state = some .intentRecorded := hundispatched.2.1
      rw [hstate] at hfrom
      cases hfrom
    · cases hverified.1

/-- A blocked attempt arms no write. -/
theorem Represents.armOperation_blocked (h : Represents journal history)
    (hget : journal.getOperation operationId = .ok record)
    (hattempt : journal.getAttempt record.intent.planId record.intent.attempt = .ok attempt)
    (hstate : record.state = .intentRecorded) (hblocked : attempt.state = .blocked)
    (hwrite : record.intent.kind = .write) {authorization : BridgeDispatchAuthorization} :
    (armOperation operationId authorization).run journal ≠ (.ok updated, next) := by
  intro hrun
  obtain ⟨history', hstep, _⟩ := h.armOperation_sound hrun
  cases hstep with
  | armOperation_again _ hat harmed _ =>
    obtain ⟨rfl, rfl⟩ := h.eq_of_operationAt hget hattempt hat
    rw [hstate] at harmed
    cases harmed
  | armOperation _ hat hadmits _ _ =>
    obtain ⟨rfl, rfl⟩ := h.eq_of_operationAt hget hattempt hat
    have hrollback := hadmits.compensates hblocked
    rw [hwrite] at hrollback
    cases hrollback

end Refused

end TrueFamily.Transaction
