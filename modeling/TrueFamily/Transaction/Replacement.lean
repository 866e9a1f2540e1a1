import TrueFamily.Transaction.HistoryStep

/-!
# Replacing one operation of an attempt

The journal stores a changed operation by checking the whole attempt again. `Refreshes` says what
the changed record has to keep for the other records to stay valid, and `replaced_wellFormed` that
this is enough. One rule of the attempt looks at a record that a later one was admitted on: a
rollback that is retried has to be proven to have had no effect (`Superseded`).
-/

namespace TrueFamily.Transaction

open Checked BridgeOperationAttempt

/-- A later rollback of the same write was admitted. -/
def Superseded (attempt : BridgeOperationAttempt) (record : BridgeOperationRecord) : Prop :=
  record.intent.kind = .rollback ∧ ∃ later ∈ attempt.operations,
    record.intent.sequence < later.intent.sequence ∧ later.intent.kind = .rollback
      ∧ later.intent.parentOperationId = record.intent.parentOperationId

instance (attempt : BridgeOperationAttempt) (record : BridgeOperationRecord) :
    Decidable (Superseded attempt record) := by
  unfold Superseded; infer_instance

variable [DigestJson]

/-- `updated` keeps of `record` what the other records of the attempt rely on. -/
structure Refreshes (attempt : BridgeOperationAttempt) (record updated : BridgeOperationRecord) :
    Prop where
  wellFormed : updated.WellFormed
  intent_eq : updated.intent = record.intent
  receipt_eq : updated.receipt = record.receipt
  verifications_kept : ∀ verification ∈ record.verifications, verification ∈ updated.verifications
  fresh : ∀ authorization, updated.authorization = some authorization →
    observationFresh authorization.observedAt authorization.authorizedAt attempt
  eligible : eligibleRollbackParent record → eligibleRollbackParent updated
  resolved : operationEffectResolved record → operationEffectResolved updated
  undispatched : provenUndispatched record → provenUndispatched updated
  noEffect : rollbackProvenNoEffect record →
    rollbackProvenNoEffect updated ∨ ¬ Superseded attempt record

/-! ## The position of a record -/

section Position

variable {attempt : BridgeOperationAttempt} {record : BridgeOperationRecord}
  {before after : List BridgeOperationRecord}

theorem BridgeOperationAttempt.WellFormed.sequence_eq (h : attempt.WellFormed)
    (hsplit : attempt.operations = before ++ record :: after) :
    record.intent.sequence = before.length + 1 :=
  h.operations.sequence before record after hsplit

/-- The records after `record` are those of greater sequence. -/
theorem BridgeOperationAttempt.WellFormed.mem_after_iff (h : attempt.WellFormed)
    (hsplit : attempt.operations = before ++ record :: after) {later : BridgeOperationRecord} :
    later ∈ after ↔ later ∈ attempt.operations
      ∧ record.intent.sequence < later.intent.sequence := by
  have hrecord := h.sequence_eq hsplit
  constructor
  · intro hmem
    obtain ⟨first, second, rfl⟩ := List.append_of_mem hmem
    have hsplit' : attempt.operations = (before ++ record :: first) ++ later :: second := by
      rw [hsplit]
      simp
    have hlater := h.sequence_eq hsplit'
    refine ⟨by rw [hsplit]; simp, ?_⟩
    rw [hrecord, hlater, List.length_append, List.length_cons]
    omega
  · intro ⟨hmem, hlt⟩
    rw [hsplit, List.mem_append, List.mem_cons] at hmem
    rcases hmem with hmem | rfl | hmem
    · obtain ⟨first, second, rfl⟩ := List.append_of_mem hmem
      have hsplit' : attempt.operations = first ++ later :: (second ++ record :: after) := by
        rw [hsplit]
        simp
      have hlater := h.sequence_eq hsplit'
      rw [hrecord, hlater, List.length_append] at hlt
      omega
    · exact absurd hlt (lt_irrefl _)
    · exact hmem

theorem superseded_iff (h : attempt.WellFormed)
    (hsplit : attempt.operations = before ++ record :: after) :
    Superseded attempt record ↔ record.intent.kind = .rollback ∧ ∃ later ∈ after,
      later.intent.kind = .rollback
        ∧ later.intent.parentOperationId = record.intent.parentOperationId := by
  unfold Superseded
  simp only [h.mem_after_iff hsplit, and_assoc]

end Position

/-! ## The operations with one replaced -/

section Replaced

variable {attempt : BridgeOperationAttempt} {record updated : BridgeOperationRecord}
  {before after : List BridgeOperationRecord}

omit [DigestJson] in
theorem rollbackChain_replaced (hintent : updated.intent = record.intent)
    (first second : List BridgeOperationRecord) (parentId : ObjectOperationId) :
    rollbackChain (first ++ updated :: second) parentId = []
      ↔ rollbackChain (first ++ record :: second) parentId = [] := by
  simp only [rollbackChain, List.filter_append, List.filter_cons, hintent,
    List.append_eq_nil_iff]
  split <;> simp

omit [DigestJson] in
theorem undoes_replaced (hintent : updated.intent = record.intent)
    (hreceipt : updated.receipt = record.receipt) (intent : BridgeOperationIntent) (epoch : ℕ) :
    OperationScan.undoes intent updated epoch ↔ OperationScan.undoes intent record epoch := by
  unfold OperationScan.undoes
  rw [hintent, hreceipt]

omit [DigestJson] in
/-- The last rollback of the chain is the replaced record, or stands in the chain unchanged. -/
theorem getLast?_replaced (hintent : updated.intent = record.intent)
    {first second : List BridgeOperationRecord} {parentId : ObjectOperationId}
    {previous : BridgeOperationRecord}
    (h : (rollbackChain (first ++ updated :: second) parentId).getLast? = some previous) :
    (rollbackChain (first ++ record :: second) parentId).getLast? = some previous
      ∨ (previous = updated ∧ record.intent.kind ≠ .write
        ∧ record.intent.parentOperationId = some parentId
        ∧ (rollbackChain (first ++ record :: second) parentId).getLast? = some record) := by
  simp only [rollbackChain_append] at h ⊢
  simp only [rollbackChain, List.filter_cons, hintent] at h ⊢
  split at h
  · rename_i hin
    rw [if_pos hin]
    have hin' := of_decide_eq_true hin
    cases hsecond : (second.filter fun item =>
        decide (item.intent.kind ≠ .write ∧ item.intent.parentOperationId = some parentId)) with
    | nil =>
      rw [hsecond] at h
      simp only [List.getLast?_append, List.getLast?_singleton, Option.some_or,
        Option.some.injEq] at h ⊢
      exact Or.inr ⟨h.symm, hin'.1, hin'.2, trivial⟩
    | cons x xs =>
      rw [hsecond] at h
      left
      rw [List.getLast?_append] at h ⊢
      rw [List.getLast?_cons_cons] at h ⊢
      exact h
  · rename_i hout
    rw [if_neg hout]
    exact Or.inl h

theorem RollbackAdmitted.replaced (h : attempt.WellFormed)
    (hsplit : attempt.operations = before ++ record :: after)
    (hupdated : Refreshes attempt record updated)
    {between rest : List BridgeOperationRecord} {later parent : BridgeOperationRecord}
    (hafter : after = between ++ later :: rest) (hkind : later.intent.kind ≠ .write)
    (hadmitted : RollbackAdmitted (before ++ record :: between) later parent) :
    ∃ parent', RollbackAdmitted (before ++ updated :: between) later parent' := by
  have hlater : later.intent.kind = .rollback := by
    cases hk : later.intent.kind with
    | write => exact absurd hk hkind
    | rollback => rfl
  -- the parent stands where it stood, and keeps its intent, its receipt and its eligibility
  obtain ⟨parent', hmem, hintent, hreceipt, heligible⟩ : ∃ parent',
      parent' ∈ before ++ updated :: between ∧ parent'.intent = parent.intent
        ∧ parent'.receipt = parent.receipt ∧ eligibleRollbackParent parent' := by
    have hparent := hadmitted.mem
    rw [List.mem_append, List.mem_cons] at hparent
    rcases hparent with hparent | rfl | hparent
    · exact ⟨parent, by simp [hparent], rfl, rfl, hadmitted.eligible⟩
    · exact ⟨updated, by simp, hupdated.intent_eq, hupdated.receipt_eq,
        hupdated.eligible hadmitted.eligible⟩
    · exact ⟨parent, by simp [hparent], rfl, rfl, hadmitted.eligible⟩
  refine ⟨parent', hmem, ?_, ?_, heligible, ?_, ?_⟩
  · rw [hintent]
    exact hadmitted.kind_eq
  · rw [hintent]
    exact hadmitted.parent_eq
  · intro hempty
    rw [hintent, rollbackChain_replaced hupdated.intent_eq] at hempty
    rw [undoes_replaced hintent hreceipt, hintent]
    exact hadmitted.first hempty
  · intro previous hlast
    rw [hintent] at hlast
    rw [undoes_replaced hintent hreceipt]
    rcases getLast?_replaced hupdated.intent_eq hlast with hsame | ⟨rfl, _, hid, hrecord⟩
    · exact hadmitted.retry previous hsame
    · obtain ⟨hproven, hundoes⟩ := hadmitted.retry record hrecord
      rw [hupdated.intent_eq]
      refine ⟨(hupdated.noEffect hproven).resolve_right fun hnot => hnot ?_, hundoes⟩
      rw [superseded_iff h hsplit]
      refine ⟨?_, later, by rw [hafter]; simp, hlater, ?_⟩
      · cases hk : record.intent.kind with
        | write => contradiction
        | rollback => rfl
      · rw [hid, hadmitted.parent_eq]

end Replaced

/-- The attempt with `updated` in the place of a record, in a new state. -/
def replaced (attempt : BridgeOperationAttempt) (operations : List BridgeOperationRecord)
    (state : BridgeAttemptState) (reasonCode : Option BridgeBlockReason)
    (terminalAt : Option Datetime) : BridgeOperationAttempt :=
  { attempt with operations, state, reasonCode, terminalAt }

section Parts

variable {attempt : BridgeOperationAttempt} {record updated : BridgeOperationRecord}
  {before after : List BridgeOperationRecord} {state : BridgeAttemptState}
  {reasonCode : Option BridgeBlockReason} {terminalAt : Option Datetime}

omit [DigestJson] in
/-- A property that `updated` has when `record` has it. -/
theorem forall_mem_replaced {P : BridgeOperationRecord → Prop}
    (h : ∀ item ∈ before ++ record :: after, P item) (hstep : P record → P updated) :
    ∀ item ∈ before ++ updated :: after, P item := by
  intro item hmem
  rw [List.mem_append, List.mem_cons] at hmem
  rcases hmem with hmem | rfl | hmem
  · exact h item (by simp [hmem])
  · exact hstep (h record (by simp))
  · exact h item (by simp [hmem])

omit [DigestJson] in
/-- A relation that holds of `updated` and another record when it holds of `record`. -/
theorem pairwise_replaced {R : BridgeOperationRecord → BridgeOperationRecord → Prop}
    (h : (before ++ record :: after).Pairwise R) (hfirst : ∀ item, R record item → R updated item)
    (hsecond : ∀ item, R item record → R item updated) :
    (before ++ updated :: after).Pairwise R := by
  rw [List.pairwise_append, List.pairwise_cons] at h ⊢
  obtain ⟨hbefore, ⟨hrecord, hafter⟩, hacross⟩ := h
  refine ⟨hbefore, ⟨fun item hmem => hfirst item (hrecord item hmem), hafter⟩, ?_⟩
  intro a ha b hb
  rcases List.mem_cons.1 hb with rfl | hb
  · exact hsecond a (hacross a ha record (by simp))
  · exact hacross a ha b (by simp [hb])

theorem operations_replaced (h : attempt.WellFormed)
    (hsplit : attempt.operations = before ++ record :: after)
    (hupdated : Refreshes attempt record updated) :
    OperationsWellFormed
      (replaced attempt (before ++ updated :: after) state reasonCode terminalAt) := by
  have hops := h.operations
  have hintent := hupdated.intent_eq
  refine ⟨?_, ?_, ?_, ?_, ?_, ?_, ?_, ?_, ?_⟩
  · exact forall_mem_replaced (hsplit ▸ hops.record_wf) fun _ => hupdated.wellFormed
  · refine forall_mem_replaced (hsplit ▸ hops.belongs) fun hbelongs => ?_
    rw [hintent]
    exact hbelongs
  -- the sequence numbers and the rollbacks look at the records before, so the list is split
  · have hsequence := hops.sequence
    rw [hsplit, forallSplit_append, forallSplit_cons] at hsequence
    show ForallSplit _ (before ++ updated :: after)
    rw [forallSplit_append, forallSplit_cons]
    refine ⟨hsequence.1, ?_, hsequence.2.2.imp fun first item rest _ hitem => ?_⟩
    · rw [hintent]
      exact hsequence.2.1
    · rw [hitem]
      simp
  -- the acquisitions are those of the attempt
  · have hfenced : ∀ item ∈ attempt.operations, ∃ acquisition receipt,
        Fenced (replaced attempt (before ++ updated :: after) state reasonCode terminalAt)
          item.intent.fence acquisition receipt := by
      intro item hmem
      obtain ⟨acquisition, receipt, hf⟩ := hops.fenced item hmem
      exact ⟨acquisition, receipt, hf.mem, hf.operationId_eq, hf.acknowledged, hf.binding_eq⟩
    refine forall_mem_replaced (hsplit ▸ hfenced) fun hrecord => ?_
    rw [hintent]
    exact hrecord
  · refine pairwise_replaced (hsplit ▸ hops.epochs) ?_ ?_ <;> (intro item; rw [hintent]; exact id)
  · exact forall_mem_replaced (hsplit ▸ hops.fresh) fun _ => hupdated.fresh
  · refine forall_mem_replaced (hsplit ▸ hops.covered) fun hcovered => ?_
    rw [hintent]
    exact hcovered
  · refine pairwise_replaced (hsplit ▸ hops.write_once) ?_ ?_ <;>
      (intro item; rw [hintent]; exact id)
  · have hrollback := hops.rollback
    rw [hsplit, forallSplit_append, forallSplit_cons] at hrollback
    show ForallSplit _ (before ++ updated :: after)
    rw [forallSplit_append, forallSplit_cons]
    refine ⟨hrollback.1, ?_, fun between later rest hafter hkind => ?_⟩
    · intro hkind
      rw [hintent] at hkind
      obtain ⟨parent, hadmitted⟩ := hrollback.2.1 hkind
      refine ⟨parent, hadmitted.mem, hadmitted.kind_eq, ?_, hadmitted.eligible, ?_, ?_⟩
      all_goals rw [hintent]
      · exact hadmitted.parent_eq
      · exact hadmitted.first
      · exact hadmitted.retry
    · obtain ⟨parent, hadmitted⟩ := hrollback.2.2 between later rest hafter hkind
      exact hadmitted.replaced h hsplit hupdated hafter hkind

omit [DigestJson] in
theorem forall_take_replaced {P : BridgeOperationRecord → Prop} {n : ℕ}
    (h : ∀ item ∈ (before ++ record :: after).take n, P item) (hstep : P record → P updated) :
    ∀ item ∈ (before ++ updated :: after).take n, P item := by
  by_cases hn : n ≤ before.length
  · rw [List.take_append_of_le_length hn] at h ⊢
    exact h
  · obtain ⟨k, rfl⟩ : ∃ k, n = before.length + (k + 1) := ⟨n - before.length - 1, by omega⟩
    rw [List.take_length_add_append, List.take_succ_cons] at h ⊢
    exact forall_mem_replaced h hstep

omit [DigestJson] in
theorem forall_drop_replaced {P : BridgeOperationRecord → Prop} {n : ℕ}
    (h : ∀ item ∈ (before ++ record :: after).drop n, P item) (hstep : P record → P updated) :
    ∀ item ∈ (before ++ updated :: after).drop n, P item := by
  by_cases hn : n ≤ before.length
  · rw [List.drop_append_of_le_length hn] at h ⊢
    exact forall_mem_replaced h hstep
  · obtain ⟨k, rfl⟩ : ∃ k, n = before.length + (k + 1) := ⟨n - before.length - 1, by omega⟩
    rw [List.drop_length_add_append, List.drop_succ_cons] at h ⊢
    exact h

theorem releasePhase_replaced (h : attempt.WellFormed)
    (hsplit : attempt.operations = before ++ record :: after)
    (hupdated : Refreshes attempt record updated) :
    ReleasePhaseWellFormed
      (replaced attempt (before ++ updated :: after) state reasonCode terminalAt) := by
  have hphase := h.releasePhase
  refine ⟨fun n hn => ?_, hphase.released_iff, fun n hn => ?_, fun n hn => ?_⟩
  · have hle := hphase.le_length n hn
    rw [hsplit, List.length_append, List.length_cons] at hle
    show n ≤ (before ++ updated :: after).length
    rw [List.length_append, List.length_cons]
    exact hle
  · have hclosed := hphase.closed n hn
    rw [hsplit] at hclosed
    refine forall_take_replaced hclosed fun ⟨hresolved, hwrite⟩ => ⟨hupdated.resolved hresolved, ?_⟩
    rw [hupdated.intent_eq]
    exact hwrite
  · have hlater := hphase.later n hn
    rw [hsplit] at hlater
    refine forall_drop_replaced hlater fun hrollback => ?_
    rw [hupdated.intent_eq]
    exact hrollback

theorem releases_replaced (h : attempt.WellFormed)
    (hsplit : attempt.operations = before ++ record :: after)
    (hupdated : Refreshes attempt record updated) :
    ReleasesWellFormed
      (replaced attempt (before ++ updated :: after) state reasonCode terminalAt) := by
  have hreleases := h.releases
  refine ⟨hreleases.sorted, hreleases.record_wf, hreleases.belongs, hreleases.acquired,
    hreleases.contiguous, hreleases.retries, fun acquisitionId first hfirst => ?_⟩
  have hsettled := hreleases.settled acquisitionId first hfirst
  unfold EffectsSettled at hsettled
  rw [hsplit] at hsettled
  refine forall_mem_replaced hsettled fun hrecord hfence => ?_
  rw [hupdated.intent_eq] at hfence
  obtain ⟨hresolved, hverified⟩ := hrecord hfence
  refine ⟨hupdated.resolved hresolved, hverified.imp hupdated.undispatched ?_⟩
  intro ⟨verification, hmem, hle⟩
  exact ⟨verification, hupdated.verifications_kept verification hmem, hle⟩

/-- Replacing a record by one that keeps what the attempt relies on keeps the attempt valid. -/
theorem replaced_wellFormed (h : attempt.WellFormed)
    (hsplit : attempt.operations = before ++ record :: after)
    (hupdated : Refreshes attempt record updated)
    (hstate : StateWellFormed
      (replaced attempt (before ++ updated :: after) state reasonCode terminalAt)) :
    (replaced attempt (before ++ updated :: after) state reasonCode terminalAt).WellFormed where
  header := ⟨h.header.planBinding, h.header.attempt_pos, h.header.freshness_pos,
    h.header.freshness_le, h.header.expected_ne_nil, h.header.pre_ne_post, h.header.keys_sorted⟩
  acquisitions := ⟨h.acquisitions.sorted, h.acquisitions.record_wf, h.acquisitions.belongs,
    h.acquisitions.epochs⟩
  operations := operations_replaced h hsplit hupdated
  releasePhase := releasePhase_replaced h hsplit hupdated
  releases := releases_replaced h hsplit hupdated
  operationIds_nodup := by
    have hnodup := h.operationIds_nodup
    unfold operationIds at hnodup ⊢
    rw [hsplit] at hnodup
    simpa [replaced, hupdated.intent_eq] using hnodup
  receiptIds_nodup := by
    have hnodup := h.receiptIds_nodup
    unfold receiptIds at hnodup ⊢
    rw [hsplit] at hnodup
    simpa [replaced, List.filterMap_cons, hupdated.receipt_eq] using hnodup
  fenceOrder := by
    intro provider
    refine (h.fenceOrder provider).imp fun previous current hclosed => ?_
    cases hclosed with
    | undispatched hundispatched => exact .undispatched hundispatched
    | tombstoned receipt htombstone hle => exact .tombstoned receipt htombstone hle
    | released acquired release receipt hacquired hlast hacknowledged hle =>
      exact .released acquired release receipt hacquired hlast hacknowledged hle
  state_ok := hstate

end Parts

end TrueFamily.Transaction
