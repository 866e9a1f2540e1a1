import TrueFamily.Transaction.RecorderCalls

/-!
# No blind redispatch

An operation is dispatched by the call that arms it, and is armed only while its intent is
recorded and nothing more. `History.Dispatched` says that an operation has left that state, which
it never enters again, so no run of the recorder dispatches an operation twice.
-/

namespace TrueFamily.Transaction

open Checked InMemoryBridgeOperationJournal BridgeOperationAttempt
open BridgeOperationRecord (objectTransitions)

section

variable [DigestJson]

/-! ## Dispatched operations -/

omit [DigestJson] in
/-- The operation is recorded, and its intent is not all that is recorded. -/
def History.Dispatched (history : History) : OperationId → Prop
  | .acquire operationId => ∃ attempt, history.Holds attempt ∧ ∃ record ∈ attempt.acquisitions,
    record.intent.operationId = operationId ∧ record.state ≠ .intentRecorded
  | .object operationId => ∃ attempt, history.Holds attempt ∧ ∃ record ∈ attempt.operations,
    record.intent.operationId = operationId ∧ record.state ≠ .intentRecorded
  | .release operationId => ∃ attempt, history.Holds attempt ∧ ∃ record ∈ attempt.releases,
    record.intent.operationId = operationId ∧ record.state ≠ .intentRecorded

omit [DigestJson] in
theorem intentRecorded_notMem_lifecycleTransitions (state : FenceLifecycleState) :
    .intentRecorded ∉ lifecycleTransitions state := by
  cases state <;> decide

omit [DigestJson] in
theorem intentRecorded_notMem_objectTransitions (state : BridgeOperationState) :
    .intentRecorded ∉ objectTransitions state := by
  cases state <;> decide

omit [DigestJson] in
theorem LifecycleRecord.Extends.dispatched {ι α ν : Type} {record later : LifecycleRecord ι α ν}
    (h : record.Extends later) (hstate : record.state ≠ .intentRecorded) :
    later.state ≠ .intentRecorded := by
  intro heq
  have hfollows := h.state_follows
  rw [heq] at hfollows
  exact hfollows.elim (fun hsame => hstate hsame.symm)
    (intentRecorded_notMem_lifecycleTransitions _)

omit [DigestJson] in
theorem BridgeOperationRecord.Extends.dispatched {record later : BridgeOperationRecord}
    (h : record.Extends later) (hstate : record.state ≠ .intentRecorded) :
    later.state ≠ .intentRecorded := by
  intro heq
  have hfollows := h.state_follows
  rw [heq] at hfollows
  exact hfollows.elim (fun hsame => hstate hsame.symm)
    (intentRecorded_notMem_objectTransitions _)

/-- What is dispatched stays dispatched. -/
theorem HistoryStep.dispatched_kept {history history' : History} {call : JournalCall}
    {result : JournalResult} (h : HistoryStep history call result history')
    (hlocated : history.Located) (hlocated' : history'.Located)
    (hwf : ∀ attempt, history.Holds attempt → attempt.WellFormed) {id : OperationId}
    (hid : history.Dispatched id) : history'.Dispatched id := by
  have hextends : ∀ attempt, history.Holds attempt →
      ∃ updated, history'.Holds updated ∧ attempt.Extends updated := by
    intro attempt hheld
    obtain ⟨updated, hget, hextends⟩ := h.extends hlocated hwf hheld.2
    exact ⟨updated, hlocated'.holds hget, hextends⟩
  cases id with
  | acquire operationId =>
    obtain ⟨attempt, hheld, record, hmem, hrecord, hstate⟩ := hid
    obtain ⟨updated, hheld', hext⟩ := hextends attempt hheld
    obtain ⟨later, hlater, hrecordext⟩ := hext.acquisitions record hmem
    exact ⟨updated, hheld', later, hlater, by rw [hrecordext.intent_eq, hrecord],
      hrecordext.dispatched hstate⟩
  | object operationId =>
    obtain ⟨attempt, hheld, record, hmem, hrecord, hstate⟩ := hid
    obtain ⟨updated, hheld', hext⟩ := hextends attempt hheld
    obtain ⟨index, hget⟩ := List.mem_iff_getElem?.1 hmem
    obtain ⟨later, hlater, hrecordext⟩ := hext.operations index record hget
    exact ⟨updated, hheld', later, List.mem_of_getElem? hlater,
      by rw [hrecordext.intent_eq, hrecord], hrecordext.dispatched hstate⟩
  | release operationId =>
    obtain ⟨attempt, hheld, record, hmem, hrecord, hstate⟩ := hid
    obtain ⟨updated, hheld', hext⟩ := hextends attempt hheld
    obtain ⟨later, hlater, hrecordext⟩ := hext.releases record hmem
    exact ⟨updated, hheld', later, hlater, by rw [hrecordext.intent_eq, hrecord],
      hrecordext.dispatched hstate⟩

/-! ### Recorded intents are not dispatched -/

namespace Represents

variable {journal : Journal} {history : History}

theorem not_dispatched_acquire (h : Represents journal history)
    {operationId : AcquireOperationId} {record : FenceAcquisitionRecord}
    (hget : journal.getAcquisition operationId = .ok record)
    (hstate : record.state = .intentRecorded) : ¬ history.Dispatched (.acquire operationId) := by
  rintro ⟨other, hother, later, hlater, hid, hdone⟩
  obtain ⟨attempt, index, hat⟩ := h.getAcquisition_eq_ok.1 hget
  have hmem := List.mem_of_getElem? hat.get
  have heq : attempt = other := h.eq_of_claims hat.holds hother
    (acquire_mem_operationIds.2 (List.mem_map.2 ⟨record, hmem, hat.id_eq⟩))
    (acquire_mem_operationIds.2 (List.mem_map.2 ⟨later, hlater, hid⟩))
  subst heq
  have hsame := eq_of_acquisitionId (h.wellFormed _ hother) hmem hlater (hat.id_eq.trans hid.symm)
  exact hdone (hsame ▸ hstate)

theorem not_dispatched_object (h : Represents journal history)
    {operationId : ObjectOperationId} {record : BridgeOperationRecord}
    (hget : journal.getOperation operationId = .ok record)
    (hstate : record.state = .intentRecorded) : ¬ history.Dispatched (.object operationId) := by
  rintro ⟨other, hother, later, hlater, hid, hdone⟩
  obtain ⟨attempt, index, hat⟩ := h.getOperation_eq_ok.1 hget
  have hmem := List.mem_of_getElem? hat.get
  have heq : attempt = other := h.eq_of_claims hat.holds hother
    (object_mem_operationIds.2 (List.mem_map.2 ⟨record, hmem, hat.id_eq⟩))
    (object_mem_operationIds.2 (List.mem_map.2 ⟨later, hlater, hid⟩))
  subst heq
  have hsame := eq_of_objectId (h.wellFormed _ hother) hmem hlater (hat.id_eq.trans hid.symm)
  exact hdone (hsame ▸ hstate)

theorem not_dispatched_release (h : Represents journal history)
    {operationId : ReleaseOperationId} {record : FenceReleaseRecord}
    (hget : journal.getRelease operationId = .ok record)
    (hstate : record.state = .intentRecorded) : ¬ history.Dispatched (.release operationId) := by
  rintro ⟨other, hother, later, hlater, hid, hdone⟩
  obtain ⟨attempt, index, hat⟩ := h.getRelease_eq_ok.1 hget
  have hmem := List.mem_of_getElem? hat.get
  have heq : attempt = other := h.eq_of_claims hat.holds hother
    (release_mem_operationIds.2 (List.mem_map.2 ⟨record, hmem, hat.id_eq⟩))
    (release_mem_operationIds.2 (List.mem_map.2 ⟨later, hlater, hid⟩))
  subst heq
  have hsame := eq_of_releaseId (h.wellFormed _ hother) hmem hlater (hat.id_eq.trans hid.symm)
  exact hdone (hsame ▸ hstate)

end Represents

/-! ### Arming dispatches -/

omit [DigestJson] in
theorem mem_set_of_getElem? {α : Type} {items : List α} {index : ℕ} {old new : α}
    (hget : items[index]? = some old) : new ∈ items.set index new :=
  List.mem_of_getElem? (List.getElem?_set_self (List.getElem?_eq_some_iff.1 hget).1)

namespace HistoryStep

variable {history history' : History} {result : JournalResult}

theorem dispatched_acquire {operationId : AcquireOperationId}
    (h : HistoryStep history (.armAcquisition operationId) result history') :
    history'.Dispatched (.acquire operationId) := by
  cases h with
  | armAcquisition_again hat hstate =>
    exact ⟨_, hat.holds, _, List.mem_of_getElem? hat.get, hat.id_eq, by rw [hstate]; decide⟩
  | armAcquisition hat harm _ =>
    obtain ⟨_, _, rfl⟩ := LifecycleRecord.arm_eq_ok.1 harm
    exact ⟨_, hat.holds.after_set rfl, _, mem_set_of_getElem? hat.get, hat.id_eq, by simp⟩

theorem dispatched_object {operationId : ObjectOperationId}
    {authorization : BridgeDispatchAuthorization}
    (h : HistoryStep history (.armOperation operationId authorization) result history') :
    history'.Dispatched (.object operationId) := by
  cases h with
  | armOperation_again _ hat hstate _ =>
    exact ⟨_, hat.holds, _, List.mem_of_getElem? hat.get, hat.id_eq, by rw [hstate]; decide⟩
  | armOperation _ hat _ harm _ =>
    obtain ⟨_, _, rfl⟩ := BridgeOperationRecord.arm_eq_ok.1 harm
    exact ⟨_, hat.holds.after_set rfl, _, mem_set_of_getElem? hat.get, hat.id_eq, by simp⟩

theorem dispatched_release {operationId : ReleaseOperationId}
    (h : HistoryStep history (.armRelease operationId) result history') :
    history'.Dispatched (.release operationId) := by
  cases h with
  | armRelease_again hat hstate =>
    exact ⟨_, hat.holds, _, List.mem_of_getElem? hat.get, hat.id_eq, by rw [hstate]; decide⟩
  | armRelease hat harm _ =>
    obtain ⟨_, _, rfl⟩ := LifecycleRecord.arm_eq_ok.1 harm
    exact ⟨_, hat.holds.after_set rfl, _, mem_set_of_getElem? hat.get, hat.id_eq, by simp⟩

end HistoryStep

/-! ## What a dispatching call did -/

/-- What the recorder checked before it armed an object operation. -/
structure Arming (journal : Journal) (operationId : ObjectOperationId)
    (observation : BridgeObjectObservation) (at' : Datetime) (record : BridgeOperationRecord)
    (attempt : BridgeOperationAttempt) : Prop where
  record_eq : journal.getOperation operationId = .ok record
  state_eq : record.state = .intentRecorded
  attempt_eq : journal.getAttempt record.intent.planId record.intent.attempt = .ok attempt
  preimage : observationIsPreimage observation record.intent
  fresh : observationFresh observation.observedAt at' attempt
  after_acquisition : record.intent.fence.acquisitionDurableAt ≤ observation.observedAt

namespace BridgeTransactionRecorder

variable {self : BridgeTransactionRecorder} {journal next : Journal}
  {authority : FenceAuthorityAnswers} {at' : Datetime}

omit [DigestJson] in
theorem attemptForIntent_eq_ok {intent : BridgeOperationIntent} {attempt : BridgeOperationAttempt}
    (h : self.attemptForIntent journal intent = .ok attempt) :
    journal.getAttempt intent.planId intent.attempt = .ok attempt := by
  simp only [attemptForIntent, bind_eq_ok, exists_unit, check_eq_ok, pure_eq_ok] at h
  obtain ⟨found, hget, _, rfl⟩ := h
  exact hget

theorem blockAndRaise_not_ok {α : Type} {operationId : ObjectOperationId}
    {reasonCode : BridgeBlockReason} {a : α} :
    (blockAndRaise operationId reasonCode : JournalMethod α).run journal ≠ (.ok a, next) := by
  intro h
  obtain ⟨_, _, _, h⟩ := Method.run_bind_ok.1 h
  exact Method.run_raise_ok.1 h

theorem block_not_dispatch {operationId : ObjectOperationId} {reasonCode : BridgeBlockReason} :
    (block operationId reasonCode).run journal ≠ (.ok .dispatch, next) := by
  intro h
  obtain ⟨_, _, _, h⟩ := Method.run_bind_ok.1 h
  exact absurd (Method.run_pure_ok.1 h).1 (by decide)

omit [DigestJson] in
theorem pure_not_dispatch {action : BridgeReconciliationAction} (hne : action ≠ .dispatch) :
    (pure action : JournalMethod BridgeReconciliationAction).run journal ≠ (.ok .dispatch, next) :=
  fun h => hne (Method.run_pure_ok.1 h).1.symm

/-- `arm` returns only after it armed the operation on a checked observation. -/
theorem arm_ok {operationId : ObjectOperationId} {observation : BridgeObjectObservation}
    {updated : BridgeOperationRecord}
    (h : (self.arm authority operationId observation at').run journal = (.ok updated, next)) :
    ∃ record attempt authorization, Arming journal operationId observation at' record attempt
      ∧ (armOperation operationId authorization).run journal = (.ok updated, next) := by
  rw [arm, Method.run_get_bind, Method.run_lift_bind_ok] at h
  obtain ⟨record, hget, h⟩ := h
  rw [Method.run_require_bind_ok, Method.run_lift_bind_ok] at h
  obtain ⟨hstate, attempt, hattempt, h⟩ := h
  rw [Method.run_require_bind_ok] at h
  obtain ⟨⟨hfresh, hafter⟩, h⟩ := h
  split at h
  · exact absurd h blockAndRaise_not_ok
  · split at h
    · exact absurd h blockAndRaise_not_ok
    · rename_i hpreimage
      unfold armFenced at h
      split at h
      · obtain ⟨authorization, _, harm⟩ := Method.run_lift_bind_ok.1 h
        exact ⟨record, attempt, authorization, ⟨hget, hstate, attemptForIntent_eq_ok hattempt,
          not_not.1 hpreimage, hfresh, hafter⟩, harm⟩
      · exact absurd h blockAndRaise_not_ok
      · exact absurd h Method.run_raise_ok.1

/-- `reconcile` of a recorded intent returns `DISPATCH` only after it armed the operation. -/
theorem reconcileIntent_dispatch {operationId : ObjectOperationId}
    {intent : BridgeOperationIntent} {observation : BridgeObjectObservation}
    (h : (reconcileIntent authority operationId intent observation at').run journal
      = (.ok .dispatch, next)) :
    observationIsPreimage observation intent
      ∧ intent.fence.acquisitionDurableAt ≤ observation.observedAt
      ∧ ∃ authorization updated,
        (armOperation operationId authorization).run journal = (.ok updated, next) := by
  unfold reconcileIntent at h
  split at h
  · exact absurd h (pure_not_dispatch (by decide))
  · rename_i hafter
    split at h
    · exact absurd h block_not_dispatch
    · split at h
      · exact absurd h block_not_dispatch
      · rename_i hpreimage
        unfold reconcileFenced at h
        split at h
        · obtain ⟨updated, s, hauthorize, hpure⟩ := Method.run_bind_ok.1 h
          obtain ⟨_, rfl⟩ := Method.run_pure_ok.1 hpure
          obtain ⟨authorization, _, harm⟩ := Method.run_lift_bind_ok.1 hauthorize
          exact ⟨not_not.1 hpreimage, not_lt.1 hafter, authorization, updated, harm⟩
        · exact absurd h block_not_dispatch
        · exact absurd h Method.run_raise_ok.1

/-- `reconcile` returns `DISPATCH` only after it armed the operation on a checked observation. -/
theorem reconcile_dispatch {operationId : ObjectOperationId}
    {observed : Option BridgeObjectObservation}
    (h : (self.reconcile authority operationId observed at').run journal = (.ok .dispatch, next)) :
    ∃ observation record attempt authorization updated, observed = some observation
      ∧ Arming journal operationId observation at' record attempt
      ∧ (armOperation operationId authorization).run journal = (.ok updated, next) := by
  rw [reconcile, Method.run_get_bind, Method.run_lift_bind_ok] at h
  obtain ⟨record, hget, h⟩ := h
  split at h
  · exact absurd h (pure_not_dispatch (by decide))
  · exact absurd h (pure_not_dispatch (by decide))
  · exact absurd h (pure_not_dispatch (by decide))
  · rw [reconcileObserved, Method.run_get_bind, Method.run_lift_bind_ok] at h
    obtain ⟨attempt, hattempt, h⟩ := h
    split at h
    · exact absurd h (pure_not_dispatch (by decide))
    · rename_i hfresh
      split at h
      · exact absurd h block_not_dispatch
      · split at h
        · rename_i hstate
          obtain ⟨hpreimage, hafter, authorization, updated, harm⟩ := reconcileIntent_dispatch h
          exact ⟨_, record, attempt, authorization, updated, rfl, ⟨hget, hstate,
            attemptForIntent_eq_ok hattempt, hpreimage, not_not.1 hfresh, hafter⟩, harm⟩
        · unfold reconcileAcknowledged at h
          split at h
          · exact absurd h block_not_dispatch
          · split at h
            · exact absurd h (pure_not_dispatch (by decide))
            · exact absurd h block_not_dispatch
        · unfold reconcileVerified at h
          split at h
          · split at h
            · split at h
              · exact absurd h (pure_not_dispatch (by decide))
              · split at h <;> exact absurd h (pure_not_dispatch (by decide))
            · exact absurd h block_not_dispatch
          · exact absurd h block_not_dispatch

/-- `reconcile_acquisition` returns `DISPATCH` only after it armed a recorded intent. -/
theorem reconcileAcquisition_dispatch {operationId : AcquireOperationId}
    (h : (reconcileAcquisition authority operationId at').run journal = (.ok .dispatch, next)) :
    ∃ record updated, journal.getAcquisition operationId = .ok record
      ∧ record.state = .intentRecorded
      ∧ (armAcquisition operationId).run journal = (.ok updated, next) := by
  rw [reconcileAcquisition, Method.run_get_bind, Method.run_lift_bind_ok] at h
  obtain ⟨record, hget, h⟩ := h
  cases hstate : record.state with
  | intentRecorded =>
    simp only [hstate] at h
    rw [reconcileAcquisitionIntent, Method.run_require_bind_ok] at h
    obtain ⟨_, h⟩ := h
    split at h
    · obtain ⟨_, _, _, hpure⟩ := Method.run_bind_ok.1 h
      exact absurd hpure (pure_not_dispatch (by decide))
    · rw [Method.run_lift_bind_ok] at h
      obtain ⟨known, _, h⟩ := h
      rw [Method.run_lift_bind_ok] at h
      obtain ⟨current, _, h⟩ := h
      obtain ⟨updated, s, harm, hpure⟩ := Method.run_bind_ok.1 h
      obtain ⟨_, rfl⟩ := Method.run_pure_ok.1 hpure
      exact ⟨record, updated, hget, hstate, harm⟩
  | _ =>
    simp only [hstate] at h
    exact absurd h (pure_not_dispatch (by decide))

/-- `reconcile_release` returns `DISPATCH` only after it armed a recorded intent. -/
theorem reconcileRelease_dispatch {operationId : ReleaseOperationId}
    (h : (reconcileRelease authority operationId at').run journal = (.ok .dispatch, next)) :
    ∃ record updated, journal.getRelease operationId = .ok record
      ∧ record.state = .intentRecorded
      ∧ (armRelease operationId).run journal = (.ok updated, next) := by
  rw [reconcileRelease, Method.run_get_bind, Method.run_lift_bind_ok] at h
  obtain ⟨record, hget, h⟩ := h
  cases hstate : record.state with
  | intentRecorded =>
    simp only [hstate] at h
    rw [reconcileReleaseIntent, Method.run_require_bind_ok] at h
    obtain ⟨_, h⟩ := h
    rw [Method.run_lift_bind_ok] at h
    obtain ⟨known, _, h⟩ := h
    rw [Method.run_lift_bind_ok] at h
    obtain ⟨current, _, h⟩ := h
    obtain ⟨updated, s, harm, hpure⟩ := Method.run_bind_ok.1 h
    obtain ⟨_, rfl⟩ := Method.run_pure_ok.1 hpure
    exact ⟨record, updated, hget, hstate, harm⟩
  | _ =>
    simp only [hstate] at h
    exact absurd h (pure_not_dispatch (by decide))

/-! ## Dispatching steps -/

/-- An object operation is dispatched by the arming of a checked observation. -/
theorem Step.dispatched_object {event : RecorderEvent} (h : self.Step journal event next)
    {operationId : ObjectOperationId} (hid : event.dispatched = some (.object operationId)) :
    ∃ observation at' record attempt authorization updated,
      event.call.observed = some (observation, at')
      ∧ Arming journal operationId observation at' record attempt
      ∧ (armOperation operationId authorization).run journal = (.ok updated, next) := by
  obtain ⟨call, outcome⟩ := event
  unfold RecorderEvent.dispatched at hid
  unfold BridgeTransactionRecorder.Step at h
  dsimp only at hid h
  split at hid
  · obtain rfl := OperationId.object.inj (Option.some.inj hid)
    obtain ⟨updated, harm, _⟩ := Method.run_map_ok.1 h
    obtain ⟨record, attempt, authorization, harming, hrun⟩ := arm_ok harm
    exact ⟨_, _, record, attempt, authorization, updated, rfl, harming, hrun⟩
  · obtain rfl := OperationId.object.inj (Option.some.inj hid)
    obtain ⟨action, hreconcile, haction⟩ := Method.run_map_ok.1 h
    obtain rfl := RecorderResult.action.inj haction
    obtain ⟨observation, record, attempt, authorization, updated, rfl, harming, hrun⟩ :=
      reconcile_dispatch hreconcile
    exact ⟨observation, _, record, attempt, authorization, updated, rfl, harming, hrun⟩
  · cases hid
  · cases hid
  · cases hid

theorem Step.dispatched_acquire {event : RecorderEvent} (h : self.Step journal event next)
    {operationId : AcquireOperationId} (hid : event.dispatched = some (.acquire operationId)) :
    ∃ record updated, journal.getAcquisition operationId = .ok record
      ∧ record.state = .intentRecorded
      ∧ (armAcquisition operationId).run journal = (.ok updated, next) := by
  obtain ⟨call, outcome⟩ := event
  unfold RecorderEvent.dispatched at hid
  unfold BridgeTransactionRecorder.Step at h
  dsimp only at hid h
  split at hid
  · cases hid
  · cases hid
  · obtain rfl := OperationId.acquire.inj (Option.some.inj hid)
    obtain ⟨action, hreconcile, haction⟩ := Method.run_map_ok.1 h
    obtain rfl := RecorderResult.action.inj haction
    exact reconcileAcquisition_dispatch hreconcile
  · cases hid
  · cases hid

theorem Step.dispatched_release {event : RecorderEvent} (h : self.Step journal event next)
    {operationId : ReleaseOperationId} (hid : event.dispatched = some (.release operationId)) :
    ∃ record updated, journal.getRelease operationId = .ok record
      ∧ record.state = .intentRecorded
      ∧ (armRelease operationId).run journal = (.ok updated, next) := by
  obtain ⟨call, outcome⟩ := event
  unfold RecorderEvent.dispatched at hid
  unfold BridgeTransactionRecorder.Step at h
  dsimp only at hid h
  split at hid
  · cases hid
  · cases hid
  · cases hid
  · obtain rfl := OperationId.release.inj (Option.some.inj hid)
    obtain ⟨action, hreconcile, haction⟩ := Method.run_map_ok.1 h
    obtain rfl := RecorderResult.action.inj haction
    exact reconcileRelease_dispatch hreconcile
  · cases hid

/-! ## Runs -/

/-- A call of the recorder is a step of the journal or leaves it alone. -/
theorem Step.reachable {event : RecorderEvent} (h : self.Step journal event next)
    (hreach : Reachable journal) : Reachable next := by
  rcases exec_makesOneCall self event.call journal _ next h with rfl | ⟨call, answer, _, hrun⟩
  · exact hreach
  · exact hreach.tail ⟨call, answer, hrun⟩

theorem Run.reachable {events : List RecorderEvent} (h : self.Run events journal) :
    Reachable journal :=
  h.invariant .refl fun _ _ _ hreach hstep => Step.reachable hstep hreach

/-- Arming, as a call of the journal. -/
theorem run_armOperation {operationId : ObjectOperationId}
    {authorization : BridgeDispatchAuthorization} {updated : BridgeOperationRecord}
    (harm : (armOperation operationId authorization).run journal = (.ok updated, next)) :
    (InMemoryBridgeOperationJournal.exec (.armOperation operationId authorization)).run journal
      = (.ok (.operation updated), next) :=
  Method.run_map_ok.2 ⟨updated, harm, rfl⟩

/-- A dispatching step finds its operation undispatched and leaves it dispatched. -/
theorem Step.dispatches {event : RecorderEvent} {history : History} {id : OperationId}
    (h : self.Step journal event next) (hid : event.dispatched = some id)
    (hrep : Represents journal history) : ¬ history.Dispatched id
      ∧ ∃ history', Represents next history' ∧ history'.Dispatched id := by
  cases id with
  | acquire operationId =>
    obtain ⟨record, updated, hget, hstate, harm⟩ := h.dispatched_acquire hid
    have hcall : (InMemoryBridgeOperationJournal.exec (.armAcquisition operationId)).run journal
        = (.ok (.acquisition updated), next) := Method.run_map_ok.2 ⟨updated, harm, rfl⟩
    obtain ⟨history', hstep, hnext⟩ := hrep.exec_sound hcall
    exact ⟨hrep.not_dispatched_acquire hget hstate, history', hnext, hstep.dispatched_acquire⟩
  | object operationId =>
    obtain ⟨_, _, record, attempt, authorization, updated, _, harming, harm⟩ :=
      h.dispatched_object hid
    obtain ⟨history', hstep, hnext⟩ := hrep.exec_sound (run_armOperation harm)
    exact ⟨hrep.not_dispatched_object harming.record_eq harming.state_eq, history', hnext,
      hstep.dispatched_object⟩
  | release operationId =>
    obtain ⟨record, updated, hget, hstate, harm⟩ := h.dispatched_release hid
    have hcall : (InMemoryBridgeOperationJournal.exec (.armRelease operationId)).run journal
        = (.ok (.release updated), next) := Method.run_map_ok.2 ⟨updated, harm, rfl⟩
    obtain ⟨history', hstep, hnext⟩ := hrep.exec_sound hcall
    exact ⟨hrep.not_dispatched_release hget hstate, history', hnext, hstep.dispatched_release⟩

/-- No operation is dispatched twice in a run. -/
theorem Run.dispatched_once {events : List RecorderEvent} (h : self.Run events journal)
    (id : OperationId) :
    events.countP (fun event => decide (event.dispatched = some id)) ≤ 1 := by
  refine h.countP_le_one Reachable (fun journal => History.Dispatched journal.attemptsFor id)
    .refl (fun _ _ _ hreach hstep => Step.reachable hstep hreach) ?_ ?_
  · intro journal event next hreach hstep hfires
    obtain ⟨history, _, hrep⟩ := hreach.represents
    obtain ⟨hnot, history', hnext, hdone⟩ := Step.dispatches hstep (of_decide_eq_true hfires) hrep
    rw [← hrep.eq_attemptsFor, ← hnext.eq_attemptsFor]
    exact ⟨hnot, hdone⟩
  · intro journal event next hreach hstep hdone
    obtain ⟨history, _, hrep⟩ := hreach.represents
    rw [← hrep.eq_attemptsFor] at hdone
    rcases exec_makesOneCall self event.call journal _ next hstep with
      rfl | ⟨call, answer, _, hrun⟩
    · rw [← hrep.eq_attemptsFor]
      exact hdone
    · obtain ⟨history', hhistory, hnext⟩ := hrep.step ⟨call, answer, hrun⟩
      rw [← hnext.eq_attemptsFor]
      rcases hhistory with rfl | ⟨_, _, hhistory⟩
      · exact hdone
      · exact hhistory.dispatched_kept hrep.located hnext.located hrep.wellFormed hdone

/-- What the journal checked of an armed operation, in terms of its queries. -/
theorem Arming.safe {operationId : ObjectOperationId} {observation : BridgeObjectObservation}
    {record updated : BridgeOperationRecord} {attempt : BridgeOperationAttempt}
    {authorization : BridgeDispatchAuthorization}
    (h : Arming journal operationId observation at' record attempt) (hreach : Reachable journal)
    (harm : (armOperation operationId authorization).run journal = (.ok updated, next)) :
    (attempt.state = .open ∨ attempt.state = .blocked ∧ record.intent.kind = .rollback)
      ∧ ∀ releaseId release, journal.getRelease releaseId = .ok release →
        release.intent.acquisitionOperationId ≠ record.intent.fence.acquisitionOperationId := by
  obtain ⟨history, _, hrep⟩ := hreach.represents
  obtain ⟨history', hstep, _⟩ := hrep.exec_sound (run_armOperation harm)
  have hrecord : ∀ {holder index found}, history.OperationAt operationId holder index found →
      found = record := fun hat =>
    Except.ok.inj ((hrep.getOperation_eq_ok.2 ⟨_, _, hat⟩).symm.trans h.record_eq)
  cases hstep with
  | armOperation_again _ hat hstate _ =>
    obtain rfl := hrecord hat
    rw [h.state_eq] at hstate
    cases hstate
  | @armOperation _ _ holder index found _ _ hat hadmits _ _ =>
    obtain rfl := hrecord hat
    have hwf := hrep.wellFormed holder hat.holds
    have hmem := List.mem_of_getElem? hat.get
    obtain ⟨hheld, hslot⟩ := hrep.getAttempt_eq_ok.1 h.attempt_eq
    obtain ⟨hplan, _, _, hnumber⟩ := hwf.operations.belongs found hmem
    obtain rfl : holder = attempt :=
      hat.holds.unique hheld (by rw [hslot, hplan, hnumber]; rfl)
    constructor
    · -- a recorded intent is not in a terminal attempt
      have hlive : ¬ holder.Terminal := by
        intro hterminal
        rcases hwf.operation_settled hterminal hmem with hsettled | hsettled <;>
          rw [h.state_eq] at hsettled <;> cases hsettled
      cases hstate : holder.state with
      | «open» => exact Or.inl rfl
      | blocked => exact Or.inr ⟨rfl, hadmits.compensates hstate⟩
      | committed => exact absurd (Or.inl hstate) hlive
      | restored => exact absurd (Or.inr hstate) hlive
    · -- a release of the fence would be in the attempt that acquired it
      intro releaseId release hget heq
      obtain ⟨other, _, hreleaseAt⟩ := hrep.getRelease_eq_ok.1 hget
      have hrelease := List.mem_of_getElem? hreleaseAt.get
      obtain ⟨acquisition, hacquisition, hid, _⟩ :=
        (hrep.wellFormed other hreleaseAt.holds).releases.acquired release hrelease
      obtain ⟨fence, _, hfence⟩ := hwf.operations.fenced found hmem
      have hsame : other = holder := hrep.eq_of_claims hreleaseAt.holds hat.holds
        (acquire_mem_operationIds.2 (List.mem_map.2 ⟨acquisition, hacquisition, hid.trans heq⟩))
        (acquire_mem_operationIds.2 (List.mem_map.2 ⟨fence, hfence.mem, hfence.operationId_eq⟩))
      subst hsame
      exact hadmits.unreleased release hrelease heq

/-- In a run of recorder calls over a journal that starts empty, whatever the authority answers,
no operation is dispatched twice; and an object operation is armed only in an open attempt, or
as a rollback of a blocked one, before any release of its fence, on a fresh observation of the
exact preimage that is no older than the durable acquisition. -/
theorem no_blind_redispatch {events : List RecorderEvent} (hrun : self.Run events journal) :
    (∀ id, events.countP (fun event => decide (event.dispatched = some id)) ≤ 1)
      ∧ ∀ event next operationId, self.Step journal event next →
        event.dispatched = some (.object operationId) →
        ∃ observation at' record attempt, event.call.observed = some (observation, at')
          ∧ Arming journal operationId observation at' record attempt
          ∧ (attempt.state = .open ∨ attempt.state = .blocked ∧ record.intent.kind = .rollback)
          ∧ ∀ releaseId release, journal.getRelease releaseId = .ok release →
            release.intent.acquisitionOperationId
              ≠ record.intent.fence.acquisitionOperationId := by
  refine ⟨hrun.dispatched_once, fun event next operationId hstep hid => ?_⟩
  obtain ⟨observation, at', record, attempt, authorization, updated, hobserved, harming, harm⟩ :=
    hstep.dispatched_object hid
  obtain ⟨hstate, hunreleased⟩ := Arming.safe harming hrun.reachable harm
  exact ⟨observation, at', record, attempt, hobserved, harming, hstate, hunreleased⟩

end BridgeTransactionRecorder

end

/-! ## A first dispatch -/

namespace Sample

def recorder : BridgeTransactionRecorder := ⟨60, rfl⟩

/-- An authority that knows no receipt, with the given current fence. -/
def answers (current : Option FenceBinding) : FenceAuthorityAnswers where
  currentBinding _ := .ok current
  acquisitionReceipt _ := .ok none
  releaseReceipt _ := .ok none

def preimage : BridgeObjectObservation where
  provider := .scheduler
  objectKey := objectKey
  revision := .integer 7
  fingerprint := planDigest 0xa0
  observedAt := second 4

/-- Acquire the fence of the first plan, and dispatch its write twice. -/
def dispatchCalls : List RecorderCall :=
  [.beginAttempt firstPlanId firstPlan (planDigest 0xea) 1 [expectedWrite],
    .prepareAcquisition firstIntent,
    .reconcileAcquisition (answers none) firstIntent.operationId (second 0),
    .acknowledgeAcquisition (.applied firstReceipt),
    .prepare (answers (some firstReceipt.binding)) objectIntent (second 4),
    .arm (answers (some firstReceipt.binding)) objectIntent.operationId preimage (second 5),
    .reconcile (answers (some firstReceipt.binding)) objectIntent.operationId (some preimage)
      (second 5)]

end Sample

open Sample in
/-- Of the last two calls, only the first dispatches the write. -/
theorem dispatchCalls_dispatched : (recorder.trace dispatchCalls {}).1.map (·.dispatched)
    = [none, none, some (.acquire firstIntent.operationId), none, none,
      some (.object objectIntent.operationId), none]
    ∧ (recorder.trace dispatchCalls {}).1.countP (fun event =>
      decide (event.dispatched = some (.object objectIntent.operationId))) ≤ 1 :=
  ⟨by decide,
    (BridgeTransactionRecorder.no_blind_redispatch (recorder.run_trace dispatchCalls)).1 _⟩

end TrueFamily.Transaction
