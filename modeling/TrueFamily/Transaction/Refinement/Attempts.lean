import TrueFamily.Transaction.Refinement.Storing

/-!
# Attempt methods refine their steps

The `_sound` and `_complete` theorems of `set_attempt_state` and `append_attempt`. The checks of
`append_attempt` scan the whole journal: `assertUnclaimedAttempt_eq_ok` and
`assertGlobalEpochHistory_eq_ok` say what they establish about the history.
-/

namespace TrueFamily.Transaction

open Checked Sorting InMemoryBridgeOperationJournal BridgeOperationAttempt

variable [DigestJson]

namespace Represents

variable {journal next : Journal} {history history' : History} {result : JournalResult}
  {attempt updated : BridgeOperationAttempt}

/-! ## Attempt states -/

theorem closedAttempt_eq_ok {state : BridgeAttemptState} {reasonCode : Option BridgeBlockReason}
    {terminalAt : Option Datetime} :
    closedAttempt attempt state reasonCode terminalAt = .ok updated ↔ ∃ reason,
      closingReason attempt state reasonCode = .ok reason ∧ state ≠ .open
        ∧ updated = { attempt with state, reasonCode := reason, terminalAt }
        ∧ updated.WellFormed := by
  simp only [closedAttempt, bind_eq_ok, exists_unit, check_eq_ok, pure_eq_ok,
    BridgeOperationAttempt.postInit_eq_ok]
  constructor
  · rintro ⟨reason, hreason, hstate, hwf, rfl⟩
    exact ⟨reason, hreason, hstate, rfl, hwf⟩
  · rintro ⟨reason, hreason, hstate, rfl, hwf⟩
    exact ⟨reason, hreason, hstate, hwf, rfl⟩

/-- Storing an attempt whose state changed. -/
theorem storeClosed (h : Represents journal history) (hheld : history.Holds attempt)
    {state : BridgeAttemptState} {reasonCode : Option BridgeBlockReason}
    {terminalAt : Option Datetime}
    (hclosed : closedAttempt attempt state reasonCode terminalAt = .ok updated) :
    Represents (journal.withAttempt updated) (history.set updated) := by
  obtain ⟨reason, _, _, hupdated, hwf⟩ := closedAttempt_eq_ok.1 hclosed
  subst hupdated
  exact h.store hheld ⟨rfl, rfl, rfl, rfl⟩ (fun _ _ => Iff.rfl) hwf

theorem setAttemptState_sound (h : Represents journal history) {planId : PlanId} {number : ℕ}
    {state : BridgeAttemptState} {reasonCode : Option BridgeBlockReason}
    {terminalAt : Option Datetime}
    (hrun : (setAttemptState planId number state reasonCode terminalAt).run journal
      = (.ok attempt, next)) :
    ∃ history', HistoryStep history (.setAttemptState planId number state reasonCode terminalAt)
      (.attempt attempt) history' ∧ Represents next history' := by
  simp only [setAttemptState, Method.run_get_bind, Method.run_lift_bind_ok,
    h.getAttempt_eq_ok] at hrun
  obtain ⟨current, ⟨hheld, hslot⟩, hrun⟩ := hrun
  obtain ⟨rfl, rfl⟩ := Prod.mk.inj hslot
  split at hrun
  · rename_i hrepeats
    obtain ⟨rfl, rfl⟩ := Method.run_pure_ok.1 hrun
    exact ⟨history, .setAttemptState_again hheld hrepeats, h⟩
  · rename_i hrepeats
    obtain ⟨closed, hclosed, hrun⟩ := Method.run_lift_bind_ok.1 hrun
    rw [Method.run_bind_ok_iff (fun _ _ => run_storeAttempt)] at hrun
    obtain ⟨hwf, hrun⟩ := hrun
    obtain ⟨rfl, rfl⟩ := Method.run_pure_ok.1 hrun
    exact ⟨_, .setAttemptState hheld hrepeats hclosed, h.storeClosed hheld hclosed⟩

theorem setAttemptState_complete (h : Represents journal history) {planId : PlanId} {number : ℕ}
    {state : BridgeAttemptState} {reasonCode : Option BridgeBlockReason}
    {terminalAt : Option Datetime}
    (hstep : HistoryStep history (.setAttemptState planId number state reasonCode terminalAt)
      result history') :
    ∃ attempt next, result = .attempt attempt
      ∧ (setAttemptState planId number state reasonCode terminalAt).run journal
        = (.ok attempt, next)
      ∧ Represents next history' := by
  simp only [setAttemptState, Method.run_get_bind, Method.run_lift_bind_ok]
  cases hstep with
  | @setAttemptState_again attempt _ _ _ hheld hrepeats =>
    refine ⟨attempt, journal, rfl, ⟨attempt, h.getAttempt_self hheld, ?_⟩, h⟩
    rw [if_pos hrepeats]
    exact Method.run_pure_ok.2 ⟨rfl, rfl⟩
  | @setAttemptState attempt _ _ _ updated hheld hrepeats hclosed =>
    obtain ⟨_, _, _, _, hwf⟩ := closedAttempt_eq_ok.1 hclosed
    refine ⟨updated, _, rfl, ⟨attempt, h.getAttempt_self hheld, ?_⟩, h.storeClosed hheld hclosed⟩
    rw [if_neg hrepeats, Method.run_lift_bind_ok]
    refine ⟨updated, hclosed, ?_⟩
    rw [Method.run_bind_ok_iff (fun _ _ => run_storeAttempt)]
    exact ⟨hwf, Method.run_pure_ok.2 ⟨rfl, rfl⟩⟩

/-! ## Identities of a new attempt -/

/-- A well-formed attempt is unclaimed exactly when the history has none of its identities. -/
theorem assertUnclaimedAttempt_eq_ok (h : Represents journal history) (hwf : attempt.WellFormed) :
    journal.assertUnclaimedAttempt attempt = .ok () ↔
      (∀ operationId ∈ attempt.operationIds, ¬ history.Claims operationId)
        ∧ ∀ receiptId ∈ attempt.receiptIds, ¬ history.Received receiptId := by
  have hids : ForallSplit (fun earlier row => row.1 ∉ earlier.map Prod.fst)
      (attemptIdentityRows attempt) := by
    have hnodup := (forallSplit_notMem_iff_nodup (fun row => some row.1) List.nodup_nil
      (attemptIdentityRows attempt)).2 (by
        rw [List.nil_append, List.filterMap_eq_map', map_fst_attemptIdentityRows]
        exact hwf.operationIds_nodup)
    refine hnodup.imp fun earlier row _ _ hno => ?_
    have hrow := hno row.1 rfl
    rw [List.nil_append, List.filterMap_eq_map'] at hrow
    exact hrow
  have hreceipts : ForallSplit (fun earlier row => ∀ receiptId, row.2 = some receiptId →
      receiptId ∉ earlier.filterMap Prod.snd) (attemptIdentityRows attempt) := by
    have hnodup := (forallSplit_notMem_iff_nodup Prod.snd List.nodup_nil
      (attemptIdentityRows attempt)).2 (by
        rw [List.nil_append, filterMap_snd_attemptIdentityRows]
        exact hwf.receiptIds_nodup)
    exact hnodup
  have hfree : ∀ receiptId, journal.receiptIndex.get? receiptId = none ↔
      ¬ history.Received receiptId := by
    intro receiptId
    rw [Option.eq_none_iff_forall_ne_some]
    simp only [ne_eq, h.receiptIndex_eq_some_iff, History.Received, not_exists]
  simp only [assertUnclaimedAttempt, forEachAfter_eq_ok, bind_eq_ok, exists_unit, check_eq_ok,
    forAll_eq_ok, Option.mem_toList, h.identityIndex_eq_none_iff, hfree]
  rw [← map_fst_attemptIdentityRows, ← filterMap_snd_attemptIdentityRows, List.forall_mem_map]
  simp only [List.mem_filterMap, forall_exists_index, and_imp]
  constructor
  · intro hsplit
    refine ⟨fun row hmem => ?_, fun receiptId row hmem hrow => ?_⟩
    · obtain ⟨earlier, later, hrows⟩ := List.append_of_mem hmem
      exact (hsplit earlier row later hrows).1.2
    · obtain ⟨earlier, later, hrows⟩ := List.append_of_mem hmem
      exact ((hsplit earlier row later hrows).2 receiptId hrow).2
  · rintro ⟨hclaims, hreceived⟩ earlier row later hrows
    have hmem : row ∈ attemptIdentityRows attempt := by rw [hrows]; simp
    exact ⟨⟨hids earlier row later hrows, hclaims row hmem⟩, fun receiptId hrow =>
      ⟨fun hex => hreceipts earlier row later hrows receiptId hrow (List.mem_filterMap.2 hex),
        hreceived receiptId row hmem hrow⟩⟩

/-! ## Epochs of a new attempt -/

omit [DigestJson] in
/-- The acquisitions of a history with an appended attempt. -/
theorem acquires_append (hnumber : attempt.attempt = (history attempt.planId).length + 1)
    {intent : FenceAcquisitionIntent} : (history.append attempt).Acquires intent ↔
      history.Acquires intent ∨ intent ∈ attempt.acquisitions.map (·.intent) := by
  have hwrites := History.writes_append hnumber
  have hslot : ∀ x, history.Holds x → x.slot ≠ attempt.slot := by
    intro x hx heq
    have hplan : x.planId = attempt.planId := congrArg Prod.fst heq
    have hattempt : x.attempt = attempt.attempt := congrArg Prod.snd heq
    have hlt := (List.getElem?_eq_some_iff.1 hx.2).1
    rw [hplan] at hlt
    omega
  unfold History.Acquires
  rw [List.mem_map]
  constructor
  · rintro ⟨x, hx, hrecord⟩
    rcases (hwrites x).1 hx with rfl | ⟨hheld, _⟩
    · exact Or.inr hrecord
    · exact Or.inl ⟨x, hheld, hrecord⟩
  · rintro (⟨x, hheld, hrecord⟩ | hrecord)
    · exact ⟨x, (hwrites x).2 (Or.inr ⟨hheld, hslot x hheld⟩), hrecord⟩
    · exact ⟨attempt, (hwrites attempt).2 (Or.inl rfl), hrecord⟩

theorem nodup_attempts (h : Represents journal history) :
    journal.attempts.values.flatten.Nodup := by
  have hlist : ∀ planId attempts, journal.attempts.get? planId = some attempts →
      attempts = history planId := by
    intro planId attempts hget
    rw [← h.attempts planId, attemptsFor, hget]
    rfl
  rw [List.nodup_flatten, Dict.values]
  constructor
  · intro attempts hmem
    obtain ⟨⟨planId, _⟩, hentry, rfl⟩ := List.mem_map.1 hmem
    rw [hlist planId _ (Dict.get?_eq_some_iff.2 hentry), List.nodup_iff_getElem?_ne_getElem?]
    intro i j hij hj heq
    obtain ⟨x, hx⟩ : ∃ x, (history planId)[j]? = some x := ⟨_, List.getElem?_eq_getElem hj⟩
    have hi := (h.located planId i x (heq.trans hx)).2
    have hj' := (h.located planId j x hx).2
    omega
  · rw [List.pairwise_map]
    have hkeys := List.pairwise_map.1 journal.attempts.nodup_keys
    refine hkeys.imp_of_mem fun {a b} ha hb hne => ?_
    rw [hlist a.1 a.2 (Dict.get?_eq_some_iff.2 ha), hlist b.1 b.2 (Dict.get?_eq_some_iff.2 hb)]
    intro x hxa hxb
    exact hne ((h.located.holds_of_mem hxa).2.symm.trans (h.located.holds_of_mem hxb).2)

/-- No acquisition identity occurs twice in the journal. -/
theorem nodup_intents (h : Represents journal history) :
    (((journal.attempts.values.flatten.flatMap (·.acquisitions)).map (·.intent)).map
      (·.operationId)).Nodup := by
  rw [List.map_map, List.map_flatMap, List.nodup_flatMap]
  constructor
  · intro attempt hmem
    exact (h.wellFormed _ (h.mem_attempts_iff.1 hmem)).acquisitionIds_nodup
  · refine h.nodup_attempts.imp_of_mem fun {a b} ha hb hne id hida hidb => hne ?_
    exact h.eq_of_claims (h.mem_attempts_iff.1 ha) (h.mem_attempts_iff.1 hb)
      (acquire_mem_operationIds.2 hida) (acquire_mem_operationIds.2 hidb)

/-- The scan of all epochs accepts an unclaimed attempt exactly when the history with it is
ordered by epochs. -/
theorem assertGlobalEpochHistory_eq_ok (h : Represents journal history)
    (hwf : attempt.WellFormed)
    (hnumber : attempt.attempt = (history attempt.planId).length + 1)
    (hids : ∀ operationId ∈ attempt.operationIds, ¬ history.Claims operationId) :
    journal.assertGlobalEpochHistory attempt = .ok () ↔ (history.append attempt).EpochOrdered := by
  -- the scan collects the acquisitions of the history with the attempt
  have hmem : ∀ intent, intent ∈
      (journal.attempts.values.flatten.flatMap (·.acquisitions)).map (·.intent)
        ++ attempt.acquisitions.map (·.intent) ↔ (history.append attempt).Acquires intent := by
    intro intent
    rw [List.mem_append, h.mem_intents_iff, acquires_append hnumber]
  -- all identifiers are distinct, so two entries are two acquisitions
  have hnodup : (((journal.attempts.values.flatten.flatMap (·.acquisitions)).map (·.intent)
      ++ attempt.acquisitions.map (·.intent)).map (·.operationId)).Nodup := by
    rw [List.map_append, List.nodup_append]
    refine ⟨h.nodup_intents, by rw [List.map_map]; exact hwf.acquisitionIds_nodup, ?_⟩
    rintro id hid _ hid' rfl
    obtain ⟨intent, hintent, rfl⟩ := List.mem_map.1 hid
    obtain ⟨x, hheld, record, hrecord, rfl⟩ := h.mem_intents_iff.1 hintent
    rw [List.map_map] at hid'
    refine hids (.acquire record.intent.operationId)
      (acquire_mem_operationIds.2 hid') ⟨x, hheld, ?_⟩
    exact acquire_mem_operationIds.2 (List.mem_map_of_mem hrecord)
  simp only [assertGlobalEpochHistory, forAll_eq_ok, check_eq_ok,
    forall_mem_zip_tail_iff_isChain (R := fun a b : ℕ => a < b), List.isChain_iff_pairwise]
  unfold historySortKey
  simp only [pairwise_rank_sortedBy_iff]
  constructor
  · intro hgroups a b ha hb hne hprovider
    have hentry : a ∈ List.filter (fun x => decide (x.provider = a.provider))
        ((journal.attempts.values.flatten.flatMap (·.acquisitions)).map (·.intent)
          ++ attempt.acquisitions.map (·.intent)) :=
      List.mem_filter.2 ⟨(hmem a).2 ha, decide_eq_true rfl⟩
    have hgroup := hgroups (a.provider, _) (Dict.mem_entries_iff.2
      (Dict.get?_groupBy_eq_some_iff.2 ⟨rfl, List.ne_nil_of_mem hentry⟩))
    have hsymm : Std.Symm (Agree (fun x : FenceAcquisitionIntent => x.requestedAt) (·.epoch)) :=
      ⟨fun _ _ hab => hab.symm⟩
    exact hgroup.forall hentry (List.mem_filter.2 ⟨(hmem b).2 hb, by simpa using hprovider.symm⟩)
      fun heq => hne (congrArg _ heq)
  · intro hordered entry hentry
    obtain ⟨hgroup, _⟩ := Dict.get?_groupBy_eq_some_iff.1 (Dict.mem_entries_iff.1 hentry)
    rw [hgroup]
    refine ((List.pairwise_map.1 hnodup).filter _).imp_of_mem fun {a b} ha hb hne => ?_
    rw [List.mem_filter] at ha hb
    refine hordered a b ((hmem a).1 ha.1) ((hmem b).1 hb.1) hne ?_
    exact (by simpa using ha.2 : a.provider = entry.1).trans
      (by simpa using hb.2 : b.provider = entry.1).symm

/-! ## Appending -/

/-- The journal once `append_attempt` has created the list of the plan. -/
def defaulted (journal : Journal) (planId : PlanId) : Journal :=
  { journal with attempts := journal.attempts.set planId (journal.attemptsFor planId) }

/-- The journal once `append_attempt` has stored and indexed the attempt. -/
def appended (journal : Journal) (attempt : BridgeOperationAttempt) : Journal :=
  indexed { journal with
    attempts := journal.attempts.set attempt.planId
      (journal.attemptsFor attempt.planId ++ [attempt]) } attempt

/-- `append_attempt` after the list of the plan exists. -/
def appendChecked (attempt : BridgeOperationAttempt) : JournalMethod BridgeOperationAttempt := do
  let journal ← Method.get
  let attempts := journal.attemptsFor attempt.planId
  match attempts[attempt.attempt - 1]? with
  | some existing =>
    Method.require (existing = attempt)
      (.journalConflict "An existing attempt has conflicting data.")
    return existing
  | none =>
    Method.require (attempt.attempt = attempts.length + 1)
      (.journalConflict "Attempts must be appended contiguously.")
    assertRetry attempt attempts
    journal.assertUnclaimedAttempt attempt
    journal.assertGlobalEpochHistory attempt
    Method.modify fun journal =>
      { journal with attempts := journal.attempts.set attempt.planId (attempts ++ [attempt]) }
    indexAttempt attempt
    return attempt

theorem run_appendChecked (h : Represents journal history) (hwf : attempt.WellFormed)
    {found : BridgeOperationAttempt} :
    (appendChecked attempt).run journal = (.ok found, next) ↔ found = attempt
      ∧ (history.Holds attempt ∧ next = journal
        ∨ history.AdmitsAttempt attempt ∧ next = appended journal attempt) := by
  have hpos := hwf.header.attempt_pos
  rw [appendChecked, Method.run_get_bind]
  simp only [h.attempts attempt.planId]
  rcases hget : (history attempt.planId)[attempt.attempt - 1]? with _ | existing
  · have hnot : ¬ history.Holds attempt := by
      intro hheld
      rw [hheld.2] at hget
      cases hget
    have hkinds : KindsMatch { journal with
        attempts := journal.attempts.set attempt.planId
          (history attempt.planId ++ [attempt]) } := h.kindsMatch
    simp only [Method.run_require_bind_ok, Method.run_lift_bind_ok, Method.run_modify_bind,
      exists_unit, Method.run_bind_of_ok (run_indexAttempt hkinds attempt), Method.run_pure_ok,
      appended, h.attempts attempt.planId]
    constructor
    · rintro ⟨hnumber, hretry, hunclaimed, hepochs, rfl, rfl⟩
      obtain ⟨hids, hreceipts⟩ := (h.assertUnclaimedAttempt_eq_ok hwf).1 hunclaimed
      exact ⟨rfl, Or.inr ⟨⟨hnumber, hretry, hids, hreceipts,
        (h.assertGlobalEpochHistory_eq_ok hwf hnumber hids).1 hepochs⟩, rfl⟩⟩
    · rintro ⟨rfl, ⟨hheld, _⟩ | ⟨hadmits, rfl⟩⟩
      · exact absurd hheld hnot
      · exact ⟨hadmits.number_eq, hadmits.retry,
          (h.assertUnclaimedAttempt_eq_ok hwf).2 ⟨hadmits.ids_unclaimed,
          hadmits.receipts_unclaimed⟩,
          (h.assertGlobalEpochHistory_eq_ok hwf hadmits.number_eq hadmits.ids_unclaimed).2
            hadmits.epochOrdered, rfl, rfl⟩
  · have hlt := (List.getElem?_eq_some_iff.1 hget).1
    simp only [Method.run_require_bind_ok, Method.run_pure_ok]
    constructor
    · rintro ⟨rfl, rfl, rfl⟩
      exact ⟨rfl, Or.inl ⟨⟨hpos, hget⟩, rfl⟩⟩
    · rintro ⟨rfl, ⟨hheld, rfl⟩ | ⟨hadmits, _⟩⟩
      · have heq := hheld.2.symm.trans hget
        rw [Option.some.injEq] at heq
        exact ⟨heq.symm, heq, rfl⟩
      · have hnumber := hadmits.number_eq
        omega

theorem run_appendAttempt (h : Represents journal history) {found : BridgeOperationAttempt} :
    (appendAttempt attempt).run journal = (.ok found, next) ↔ attempt.WellFormed ∧ found = attempt
      ∧ (history.Holds attempt ∧ next = defaulted journal attempt.planId
        ∨ history.AdmitsAttempt attempt
          ∧ next = appended (defaulted journal attempt.planId) attempt) := by
  rw [show appendAttempt attempt = (do
    attempt.postInit
    Method.modify fun journal => defaulted journal attempt.planId
    appendChecked attempt) from rfl]
  simp only [Method.run_lift_bind_ok, Method.run_modify_bind, exists_unit,
    BridgeOperationAttempt.postInit_eq_ok]
  constructor
  · rintro ⟨hwf, hrun⟩
    exact ⟨hwf, ((h.setDefault attempt.planId).run_appendChecked hwf).1 hrun⟩
  · rintro ⟨hwf, hrun⟩
    exact ⟨hwf, ((h.setDefault attempt.planId).run_appendChecked hwf).2 hrun⟩

theorem represents_appended (h : Represents journal history) (hwf : attempt.WellFormed)
    (hadmits : history.AdmitsAttempt attempt) :
    Represents (appended (defaulted journal attempt.planId) attempt) (history.append attempt) :=
  (h.setDefault attempt.planId).append hwf hadmits.number_eq hadmits.ids_unclaimed
    hadmits.receipts_unclaimed

theorem appendAttempt_sound (h : Represents journal history) {found : BridgeOperationAttempt}
    (hrun : (appendAttempt attempt).run journal = (.ok found, next)) :
    ∃ history', HistoryStep history (.appendAttempt attempt) (.attempt found) history'
      ∧ Represents next history' := by
  rcases h.run_appendAttempt.1 hrun with ⟨hwf, rfl, ⟨hheld, rfl⟩ | ⟨hadmits, rfl⟩⟩
  · exact ⟨history, .appendAttempt_again hwf hheld, h.setDefault _⟩
  · exact ⟨_, .appendAttempt hwf hadmits, h.represents_appended hwf hadmits⟩

theorem appendAttempt_complete (h : Represents journal history)
    (hstep : HistoryStep history (.appendAttempt attempt) result history') :
    ∃ found next, result = .attempt found
      ∧ (appendAttempt attempt).run journal = (.ok found, next)
      ∧ Represents next history' := by
  cases hstep with
  | appendAttempt_again hwf hheld =>
    exact ⟨attempt, _, rfl, h.run_appendAttempt.2 ⟨hwf, rfl, Or.inl ⟨hheld, rfl⟩⟩, h.setDefault _⟩
  | appendAttempt hwf hadmits =>
    exact ⟨attempt, _, rfl, h.run_appendAttempt.2 ⟨hwf, rfl, Or.inr ⟨hadmits, rfl⟩⟩,
      h.represents_appended hwf hadmits⟩

end Represents

end TrueFamily.Transaction
