import TrueFamily.Transaction.Causality
import TrueFamily.Transaction.Change

/-!
# The journal is append-only

`BridgeOperationAttempt.Extends` compares an attempt before and after a call: what was recorded
stays, record states follow the allowed transitions, and a terminal attempt does not change at
all. Every call extends every attempt, whether it returns or raises (`journal_append_only`).
-/

namespace TrueFamily.Transaction

open Checked Sorting InMemoryBridgeOperationJournal BridgeOperationAttempt
open BridgeOperationRecord (objectTransitions)

section

variable [DigestJson]

/-! ## Records -/

/-- The states that may follow the state of an acquisition or a release. -/
def lifecycleTransitions : FenceLifecycleState → List FenceLifecycleState
  | .intentRecorded => [.dispatchArmed, .blocked]
  | .dispatchArmed => [.acknowledged, .noEffect, .blocked]
  | .acknowledged => []
  | .noEffect => []
  | .blocked => []

/-- `updated` keeps all that is recorded in `record`. -/
structure LifecycleRecord.Extends {ι α ν : Type} (record updated : LifecycleRecord ι α ν) :
    Prop where
  intent_eq : updated.intent = record.intent
  receipt_kept : ∀ receipt, record.receipt = some receipt → updated.receipt = some receipt
  reason_kept : ∀ reasonCode, record.reasonCode = some reasonCode →
    updated.reasonCode = some reasonCode
  source_kept : ∀ source, record.blockedFrom = some source → updated.blockedFrom = some source
  state_follows : updated.state = record.state
    ∨ updated.state ∈ lifecycleTransitions record.state

omit [DigestJson] in
theorem LifecycleRecord.Extends.refl {ι α ν : Type} (record : LifecycleRecord ι α ν) :
    record.Extends record where
  intent_eq := rfl
  receipt_kept _ h := h
  reason_kept _ h := h
  source_kept _ h := h
  state_follows := Or.inl rfl

omit [DigestJson] in
/-- A pending record holds its intent only. -/
theorem LifecycleRecord.WellFormed.pending_bare {ι α ν : Type} [LifecycleOperation ι α ν]
    {record : LifecycleRecord ι α ν} (h : record.WellFormed)
    (hpending : record.state = .intentRecorded ∨ record.state = .dispatchArmed) :
    record.receipt = none ∧ record.reasonCode = none ∧ record.blockedFrom = none := by
  have hevidence := h.evidence
  unfold LifecycleRecord.Evidence at hevidence
  rcases hpending with hstate | hstate <;> rw [hstate] at hevidence <;> exact hevidence

omit [DigestJson] in
theorem LifecycleRecord.Transition.extends {ι α ν : Type} [LifecycleOperation ι α ν]
    {record updated : LifecycleRecord ι α ν} (h : record.Transition updated)
    (hwf : record.WellFormed) : record.Extends updated := by
  obtain ⟨hreceipt, hreason, hsource⟩ := hwf.pending_bare h.pending
  cases h with
  | arm hstate =>
    exact ⟨rfl, fun _ h => h, fun _ h => h, fun _ h => h,
      Or.inr (by simp [hstate, lifecycleTransitions])⟩
  | @acknowledge receipt hstate =>
    refine ⟨rfl, by simp [hreceipt], fun _ h => h, fun _ h => h, Or.inr ?_⟩
    cases receipt <;> simp [hstate, lifecycleTransitions, LifecycleRecord.stateOf]
  | block hstate =>
    refine ⟨rfl, fun _ h => h, by simp [hreason], by simp [hsource], Or.inr ?_⟩
    rcases hstate with hstate | hstate <;> simp [hstate, lifecycleTransitions]

/-- `updated` keeps all that is recorded in `record`, and appends to its verifications. -/
structure BridgeOperationRecord.Extends (record updated : BridgeOperationRecord) : Prop where
  intent_eq : updated.intent = record.intent
  authorization_kept : ∀ authorization, record.authorization = some authorization →
    updated.authorization = some authorization
  receipt_kept : ∀ receipt, record.receipt = some receipt → updated.receipt = some receipt
  verifications_prefix : record.verifications <+: updated.verifications
  reason_kept : ∀ reasonCode, record.reasonCode = some reasonCode →
    updated.reasonCode = some reasonCode
  source_kept : ∀ source, record.blockedFrom = some source → updated.blockedFrom = some source
  state_follows : updated.state = record.state
    ∨ updated.state ∈ objectTransitions record.state

omit [DigestJson] in
theorem BridgeOperationRecord.Extends.refl (record : BridgeOperationRecord) :
    record.Extends record where
  intent_eq := rfl
  authorization_kept _ h := h
  receipt_kept _ h := h
  verifications_prefix := List.prefix_rfl
  reason_kept _ h := h
  source_kept _ h := h
  state_follows := Or.inl rfl

theorem BridgeOperationRecord.Transition.extends {record updated : BridgeOperationRecord}
    (h : record.Transition updated) (hwf : record.WellFormed) : record.Extends updated := by
  have hevidence := hwf.evidence
  unfold BridgeOperationRecord.Evidence at hevidence
  cases h with
  | arm authorization hstate =>
    refine ⟨rfl, ?_, fun _ h => h, List.prefix_rfl, fun _ h => h, fun _ h => h,
      Or.inr (by simp [hstate, objectTransitions])⟩
    split at hevidence <;> simp_all
  | acknowledge receipt hstate =>
    refine ⟨rfl, fun _ h => h, ?_, List.prefix_rfl, fun _ h => h, fun _ h => h,
      Or.inr (by simp [hstate, objectTransitions])⟩
    split at hevidence <;> simp_all
  | verify verification hstate =>
    refine ⟨rfl, fun _ h => h, fun _ h => h, ?_, fun _ h => h, fun _ h => h,
      Or.inr (by simp [hstate, objectTransitions])⟩
    split at hevidence <;> simp_all
  | refresh verification hstate =>
    exact ⟨rfl, fun _ h => h, fun _ h => h, List.prefix_append _ _, fun _ h => h, fun _ h => h,
      Or.inl rfl⟩
  | block reasonCode hstate =>
    refine ⟨rfl, fun _ h => h, fun _ h => h, List.prefix_rfl, ?_, ?_, Or.inr ?_⟩
    · split at hevidence <;> simp_all
    · split at hevidence <;> simp_all
    · cases hs : record.state <;> simp_all [objectTransitions]

/-! ## Attempts -/

/-- `updated` keeps all that is recorded in `attempt`, and equals it when it is terminal. -/
structure BridgeOperationAttempt.Extends (attempt updated : BridgeOperationAttempt) : Prop where
  planId_eq : updated.planId = attempt.planId
  planDigest_eq : updated.planDigest = attempt.planDigest
  manifestDigest_eq : updated.manifestDigest = attempt.manifestDigest
  attempt_eq : updated.attempt = attempt.attempt
  expectedWrites_eq : updated.expectedWrites = attempt.expectedWrites
  freshness_eq : updated.maxObservationAgeSeconds = attempt.maxObservationAgeSeconds
  releasePhase_kept : ∀ boundary, attempt.releasePhaseSequence = some boundary →
    updated.releasePhaseSequence = some boundary
  acquisitions : ∀ record ∈ attempt.acquisitions, ∃ later ∈ updated.acquisitions,
    record.Extends later
  operations : ∀ (index : ℕ) (record : BridgeOperationRecord),
    attempt.operations[index]? = some record →
      ∃ later, updated.operations[index]? = some later ∧ record.Extends later
  releases : ∀ record ∈ attempt.releases, ∃ later ∈ updated.releases, record.Extends later
  terminal_eq : attempt.Terminal → updated = attempt

omit [DigestJson] in
theorem BridgeOperationAttempt.Extends.refl (attempt : BridgeOperationAttempt) :
    attempt.Extends attempt where
  planId_eq := rfl
  planDigest_eq := rfl
  manifestDigest_eq := rfl
  attempt_eq := rfl
  expectedWrites_eq := rfl
  freshness_eq := rfl
  releasePhase_kept _ h := h
  acquisitions record h := ⟨record, h, .refl record⟩
  operations _ record h := ⟨record, h, .refl record⟩
  releases record h := ⟨record, h, .refl record⟩
  terminal_eq _ := rfl

section Lists

omit [DigestJson]
variable {α : Type} {items : List α} {index : ℕ} {old new : α}

theorem getElem?_append_of_some {more : List α} (h : items[index]? = some old) :
    (items ++ more)[index]? = some old := by
  rw [List.getElem?_append_left (List.getElem?_eq_some_iff.1 h).1, h]

/-- Replacing one item by a later one leaves a later item at each place. -/
theorem exists_getElem?_set {R : α → α → Prop} (hrefl : ∀ a, R a a)
    (hget : items[index]? = some old) (hR : R old new) (i : ℕ) (a : α)
    (ha : items[i]? = some a) : ∃ b, (items.set index new)[i]? = some b ∧ R a b := by
  by_cases heq : index = i
  · subst heq
    rw [hget, Option.some.injEq] at ha
    subst ha
    exact ⟨new, List.getElem?_set_self (List.getElem?_eq_some_iff.1 hget).1, hR⟩
  · exact ⟨a, by rw [List.getElem?_set_ne heq, ha], hrefl a⟩

theorem exists_mem_set {R : α → α → Prop} (hrefl : ∀ a, R a a)
    (hget : items[index]? = some old) (hR : R old new) :
    ∀ a ∈ items, ∃ b ∈ items.set index new, R a b := by
  intro a hmem
  obtain ⟨i, hi⟩ := List.mem_iff_getElem?.1 hmem
  obtain ⟨b, hb, hab⟩ := exists_getElem?_set hrefl hget hR i a hi
  exact ⟨b, List.mem_of_getElem? hb, hab⟩

end Lists

omit [DigestJson] in
/-- A new release keeps the boundary of the release phase. -/
theorem boundary_eq_of_releasePhase {attempt : BridgeOperationAttempt} {boundary earlier : ℕ}
    (h : releaseBoundary attempt = .ok boundary)
    (hearlier : attempt.releasePhaseSequence = some earlier) : boundary = earlier := by
  unfold releaseBoundary at h
  split at h
  · simp [hearlier] at h
  · rw [hearlier, Except.ok.injEq] at h
    exact h.symm

theorem AttemptChange.extends {history : History} {attempt updated : BridgeOperationAttempt}
    (h : AttemptChange history attempt updated) (hwf : attempt.WellFormed) :
    attempt.Extends updated := by
  -- no change is one of a terminal attempt
  have hsettled : attempt.Terminal → updated = attempt :=
    fun hterminal => absurd hterminal (h.not_terminal hwf)
  have same := BridgeOperationAttempt.Extends.refl attempt
  cases h with
  | @addAcquisition intent hadmits =>
    exact { same with
      acquisitions := fun record hmem =>
        ⟨record, mem_sortedBy.2 (List.mem_append_left _ hmem), .refl record⟩
      terminal_eq := hsettled }
  | @addRelease intent boundary hadmits =>
    exact { same with
      -- the boundary of the release phase is set by the first release and kept by the others
      releasePhase_kept := fun earlier hearlier =>
        congrArg some (boundary_eq_of_releasePhase hadmits.boundary_eq hearlier)
      releases := fun record hmem =>
        ⟨record, mem_sortedBy.2 (List.mem_append_left _ hmem), .refl record⟩
      terminal_eq := hsettled }
  | @addOperation intent hadmits =>
    exact { same with
      operations := fun index record hget =>
        ⟨record, getElem?_append_of_some hget, .refl record⟩
      terminal_eq := hsettled }
  | @setAcquisition index record updated hget htransition =>
    have hextends := htransition.extends
      (hwf.acquisitions.record_wf record (List.mem_of_getElem? hget))
    exact { same with
      acquisitions := exists_mem_set .refl hget hextends
      terminal_eq := hsettled }
  | @setRelease index record updated hget htransition =>
    have hextends := htransition.extends
      (hwf.releases.record_wf record (List.mem_of_getElem? hget))
    exact { same with
      releases := exists_mem_set .refl hget hextends
      terminal_eq := hsettled }
  | @setOperation index record updated hget htransition hstate =>
    have hextends := htransition.extends
      (hwf.operations.record_wf record (List.mem_of_getElem? hget))
    exact { same with
      operations := exists_getElem?_set .refl hget hextends
      terminal_eq := hsettled }
  | @blockAcquisition index record updated reasonCode hget htransition =>
    have hextends := htransition.extends
      (hwf.acquisitions.record_wf record (List.mem_of_getElem? hget))
    exact { same with
      acquisitions := exists_mem_set .refl hget hextends
      terminal_eq := hsettled }
  | @blockOperation index record updated reasonCode hget htransition hopen =>
    have hextends := htransition.extends
      (hwf.operations.record_wf record (List.mem_of_getElem? hget))
    exact { same with
      operations := exists_getElem?_set .refl hget hextends
      terminal_eq := hsettled }
  | close hclosed =>
    obtain ⟨_, _, _, rfl, _⟩ := Represents.closedAttempt_eq_ok.1 hclosed
    exact { same with terminal_eq := hsettled }

/-! ## Calls -/

/-- `next` keeps every attempt of `journal` at its place, extended. -/
def AppendOnly (journal next : Journal) : Prop :=
  ∀ (planId : PlanId) (index : ℕ) (attempt : BridgeOperationAttempt),
    (journal.attemptsFor planId)[index]? = some attempt →
      ∃ updated, (next.attemptsFor planId)[index]? = some updated ∧ attempt.Extends updated

/-- A step of a history keeps its attempts, extended. -/
theorem HistoryStep.extends {history history' : History} {call : JournalCall}
    {result : JournalResult} (h : HistoryStep history call result history')
    (hlocated : history.Located) (hwf : ∀ attempt, history.Holds attempt → attempt.WellFormed)
    {planId : PlanId} {index : ℕ} {attempt : BridgeOperationAttempt}
    (hget : (history planId)[index]? = some attempt) :
    ∃ updated, (history' planId)[index]? = some updated ∧ attempt.Extends updated := by
  rcases h.cases with rfl | ⟨added, _, _, rfl⟩ | ⟨old, updated, hheld, hchange, _, rfl⟩
  · exact ⟨attempt, hget, .refl attempt⟩
  · refine ⟨attempt, ?_, .refl attempt⟩
    by_cases hplan : planId = added.planId
    · subst hplan
      rw [History.append, Function.update_self]
      exact getElem?_append_of_some hget
    · rw [History.append, Function.update_of_ne hplan]
      exact hget
  · have hextends := hchange.extends (hwf old hheld)
    by_cases hplan : planId = updated.planId
    · subst hplan
      have hheldget := hheld.2
      rw [← hextends.planId_eq, ← hextends.attempt_eq] at hheldget
      rw [History.set, Function.update_self]
      exact exists_getElem?_set .refl hheldget hextends index attempt hget
    · rw [History.set, Function.update_of_ne hplan]
      exact ⟨attempt, hget, .refl attempt⟩

/-- Whatever is called on a reachable journal, and whether it returns or raises, every attempt is
kept and extended. -/
theorem journal_append_only {journal next : Journal} (hreach : Reachable journal)
    (hstep : Step journal next) : AppendOnly journal next := by
  obtain ⟨history, _, hrep⟩ := hreach.represents
  obtain ⟨history', hhistory, hnext⟩ := hrep.step hstep
  intro planId index attempt hget
  rw [hrep.attempts] at hget
  rw [hnext.attempts]
  rcases hhistory with rfl | ⟨call, result, hhistory⟩
  · exact ⟨attempt, hget, .refl attempt⟩
  · exact hhistory.extends hrep.located hrep.wellFormed hget

end

namespace Sample

/-- Both plans have acquired their fences. -/
def acquiredCalls : List JournalCall :=
  [.appendAttempt (opened firstPlanId firstPlan (acquired firstIntent firstReceipt)),
    .appendAttempt pending]

end Sample

open Sample in
/-- The write of the first plan is recorded while the second plan holds its own fence. -/
theorem record_intent_append_only :
    ∃ next, (exec (.recordIntent objectIntent)).run (after acquiredCalls {})
        = (.ok (.operation (.recorded objectIntent)), next)
      ∧ AppendOnly (after acquiredCalls {}) next :=
  ⟨after (acquiredCalls ++ [.recordIntent objectIntent]) {}, Prod.ext (by decide) rfl,
    journal_append_only (reachable_after acquiredCalls) ⟨.recordIntent objectIntent, _, rfl⟩⟩

end TrueFamily.Transaction
