import TrueFamily.Transaction.Retry

/-!
# Reload equivalence

A restart appends the stored attempts to a fresh journal. The bulk checks of `append_attempt`
accept them in every order that keeps the attempts of a plan ascending, and the fresh journal
represents the same history, so no later sequence of calls tells the two apart.

The one thing that may differ is the text of an error: the epoch check scans the plans in the
order of their first append.
-/

namespace TrueFamily.Transaction

open Checked Sorting InMemoryBridgeOperationJournal BridgeOperationAttempt

section

variable [DigestJson]

/-! ## Observable equality -/

/-- Two calls return the same, or both raise. -/
inductive SameOutcome : Except PyError JournalResult → Except PyError JournalResult → Prop
  | returned (result : JournalResult) : SameOutcome (.ok result) (.ok result)
  | raised (e e' : PyError) : SameOutcome (.error e) (.error e')

/-- What a sequence of calls returns or raises. -/
def outcomes : List JournalCall → Journal → List (Except PyError JournalResult)
  | [], _ => []
  | call :: calls, journal =>
    ((exec call).run journal).1 :: outcomes calls ((exec call).run journal).2

/-- Every query answers the same, and every sequence of calls has the same outcomes. -/
structure ObservablyEqual (journal other : Journal) : Prop where
  attemptsFor_eq : ∀ planId, journal.attemptsFor planId = other.attemptsFor planId
  getAttempt_eq : ∀ planId number, journal.getAttempt planId number = other.getAttempt planId number
  getOperation_eq : ∀ operationId, journal.getOperation operationId = other.getOperation operationId
  getAcquisition_eq : ∀ operationId,
    journal.getAcquisition operationId = other.getAcquisition operationId
  getRelease_eq : ∀ operationId, journal.getRelease operationId = other.getRelease operationId
  highWater_eq : ∀ provider,
    journal.providerEpochHighWater provider = other.providerEpochHighWater provider
  outcomes_same : ∀ calls, List.Forall₂ SameOutcome (outcomes calls journal) (outcomes calls other)

namespace Represents

variable {journal other : Journal} {history : History}

theorem sameOutcome (h : Represents journal history) (h' : Represents other history)
    (call : JournalCall) :
    SameOutcome ((exec call).run journal).1 ((exec call).run other).1
      ∧ ∃ history', Represents ((exec call).run journal).2 history'
        ∧ Represents ((exec call).run other).2 history' := by
  rcases hrun : (exec call).run journal with ⟨e | result, next⟩ <;>
    rcases hrun' : (exec call).run other with ⟨e' | result', next'⟩
  · exact ⟨.raised e e', history, h.exec_raises hrun, h'.exec_raises hrun'⟩
  · obtain ⟨history', hstep, _⟩ := h'.exec_sound hrun'
    obtain ⟨_, hcontra, _⟩ := h.exec_complete hstep
    rw [hrun] at hcontra
    cases hcontra
  · obtain ⟨history', hstep, _⟩ := h.exec_sound hrun
    obtain ⟨_, hcontra, _⟩ := h'.exec_complete hstep
    rw [hrun'] at hcontra
    cases hcontra
  · obtain ⟨history', hstep, hnext⟩ := h.exec_sound hrun
    obtain ⟨found, hfound, hnext'⟩ := h'.exec_complete hstep
    rw [hrun', Prod.mk.injEq, Except.ok.injEq] at hfound
    obtain ⟨rfl, rfl⟩ := hfound
    exact ⟨.returned result', history', hnext, hnext'⟩

theorem outcomes_same (h : Represents journal history) (h' : Represents other history)
    (calls : List JournalCall) :
    List.Forall₂ SameOutcome (outcomes calls journal) (outcomes calls other) := by
  induction calls generalizing journal other history with
  | nil => exact .nil
  | cons call calls ih =>
    obtain ⟨hsame, history', hnext, hnext'⟩ := h.sameOutcome h' call
    exact .cons hsame (ih hnext hnext')

/-! ### Queries -/

theorem attemptAt_eq (h : Represents journal history) (h' : Represents other history)
    {location : Location} {attempt : BridgeOperationAttempt} (hheld : history.Holds attempt)
    (hslot : (location.planId, location.attempt) = attempt.slot) :
    journal.attemptAt location = other.attemptAt location := by
  rw [h.attemptAt_eq_ok hheld hslot, h'.attemptAt_eq_ok hheld hslot]

theorem getAttempt_eq (h : Represents journal history) (h' : Represents other history)
    (planId : PlanId) (number : ℕ) :
    journal.getAttempt planId number = other.getAttempt planId number := by
  have found : ∀ {journal : Journal}, Represents journal history →
      (journal.attempts.get? planId).bind (fun attempts => attempts[number - 1]?)
        = (history planId)[number - 1]? := by
    intro journal h
    rw [← h.attempts, attemptsFor]
    cases journal.attempts.get? planId <;> rfl
  unfold getAttempt
  rw [found h, found h']

theorem getOperation_eq (h : Represents journal history) (h' : Represents other history)
    (operationId : ObjectOperationId) :
    journal.getOperation operationId = other.getOperation operationId := by
  have hlocation : journal.objectLocation operationId = other.objectLocation operationId := by
    unfold objectLocation
    rw [h.objects.get?_eq h'.objects]
  unfold getOperation
  rw [hlocation]
  cases hfound : other.objectLocation operationId with
  | error e => rfl
  | ok location =>
    obtain ⟨attempt, _, hat, hslot⟩ := h'.objectLocation_eq_ok.1 hfound
    show journal.attemptAt location >>= _ = other.attemptAt location >>= _
    rw [h.attemptAt_eq h' hat.holds hslot]

theorem getAcquisition_eq (h : Represents journal history) (h' : Represents other history)
    (operationId : AcquireOperationId) :
    journal.getAcquisition operationId = other.getAcquisition operationId := by
  have hlocation : journal.acquisitionLocation operationId
      = other.acquisitionLocation operationId := by
    unfold acquisitionLocation
    rw [h.acquisitions.get?_eq h'.acquisitions]
  unfold getAcquisition
  rw [hlocation]
  cases hfound : other.acquisitionLocation operationId with
  | error e => rfl
  | ok location =>
    obtain ⟨attempt, _, hat, hslot⟩ := h'.acquisitionLocation_eq_ok.1 hfound
    show journal.attemptAt location >>= _ = other.attemptAt location >>= _
    rw [h.attemptAt_eq h' hat.holds hslot]

theorem getRelease_eq (h : Represents journal history) (h' : Represents other history)
    (operationId : ReleaseOperationId) :
    journal.getRelease operationId = other.getRelease operationId := by
  have hlocation : journal.releaseLocation operationId = other.releaseLocation operationId := by
    unfold releaseLocation
    rw [h.releases.get?_eq h'.releases]
  unfold getRelease
  rw [hlocation]
  cases hfound : other.releaseLocation operationId with
  | error e => rfl
  | ok location =>
    obtain ⟨attempt, _, hat, hslot⟩ := h'.releaseLocation_eq_ok.1 hfound
    show journal.attemptAt location >>= _ = other.attemptAt location >>= _
    rw [h.attemptAt_eq h' hat.holds hslot]

/-- Two journals of the same history cannot be told apart. -/
theorem observablyEqual (h : Represents journal history) (h' : Represents other history) :
    ObservablyEqual journal other where
  attemptsFor_eq planId := by rw [h.attempts, h'.attempts]
  getAttempt_eq := h.getAttempt_eq h'
  getOperation_eq := h.getOperation_eq h'
  getAcquisition_eq := h.getAcquisition_eq h'
  getRelease_eq := h.getRelease_eq h'
  highWater_eq provider := by
    ext epoch
    rw [h.providerEpochHighWater_eq_some_iff, h'.providerEpochHighWater_eq_some_iff]
  outcomes_same := h.outcomes_same h'

end Represents

/-! ## Reloading -/

/-- Append the attempts one after another. -/
def reload (attempts : List BridgeOperationAttempt) : JournalMethod Unit :=
  Method.forEach (fun attempt => do
    let _ ← appendAttempt attempt
    return ()) attempts

/-- The attempts of each plan, in the order of the list. -/
def History.ofList (attempts : List BridgeOperationAttempt) : History :=
  fun planId => attempts.filter fun attempt => decide (attempt.planId = planId)

omit [DigestJson] in
theorem History.ofList_concat (attempts : List BridgeOperationAttempt)
    (attempt : BridgeOperationAttempt) :
    History.ofList (attempts ++ [attempt]) = (History.ofList attempts).append attempt := by
  funext planId
  unfold History.ofList History.append
  by_cases hplan : planId = attempt.planId
  · subst hplan
    simp
  · rw [Function.update_of_ne hplan, List.filter_append, List.filter_singleton]
    simp [Ne.symm hplan]

/-- Every plan of `part` is a beginning of the same plan of `whole`. -/
def History.Begins (part whole : History) : Prop :=
  ∀ planId, part planId <+: whole planId

omit [DigestJson] in
theorem History.Begins.holds {part whole : History} (h : part.Begins whole)
    {attempt : BridgeOperationAttempt} (hheld : part.Holds attempt) : whole.Holds attempt := by
  obtain ⟨hpos, hget⟩ := hheld
  obtain ⟨rest, hrest⟩ := h attempt.planId
  refine ⟨hpos, ?_⟩
  rw [← hrest]
  exact getElem?_append_of_some hget

/-- Part of a coherent history admits the next attempt of any plan. -/
theorem Represents.admits_next {journal : Journal} {part whole : History}
    (h : Represents journal whole) (hcoherent : whole.Coherent) (hbegins : part.Begins whole)
    {attempt : BridgeOperationAttempt} {rest : List BridgeOperationAttempt}
    (hnext : whole attempt.planId = part attempt.planId ++ attempt :: rest) :
    part.AdmitsAttempt attempt := by
  have hget : (whole attempt.planId)[(part attempt.planId).length]? = some attempt := by
    rw [hnext, List.getElem?_append_right (le_refl _), Nat.sub_self]
    rfl
  have hheld := h.located.holds hget
  have hnumber : attempt.attempt = (part attempt.planId).length + 1 := (h.located _ _ _ hget).2
  -- the attempt is none of those before it
  have hnew : ∀ x, part.Holds x → x ≠ attempt := by
    rintro x hx rfl
    have hlt := (List.getElem?_eq_some_iff.1 hx.2).1
    omega
  have hbegins' : (part.append attempt).Begins whole := by
    intro planId
    by_cases hplan : planId = attempt.planId
    · subst hplan
      rw [History.append, Function.update_self, hnext]
      exact ⟨rest, by simp⟩
    · rw [History.append, Function.update_of_ne hplan]
      exact hbegins planId
  refine ⟨hnumber, hcoherent.sequential _ _ _ _ hnext, ?_, ?_, ?_⟩
  · rintro operationId hmem ⟨x, hx, hclaims⟩
    exact hnew x hx (h.eq_of_claims (hbegins.holds hx) hheld hclaims hmem)
  · rintro receiptId hmem ⟨operationId, x, hx, howns⟩
    obtain ⟨operationId', howns'⟩ := BridgeOperationAttempt.mem_receiptIds.1 hmem
    have heq : operationId = operationId' := h.operationId_eq_of_owns
      ⟨x, hbegins.holds hx, howns⟩ ⟨attempt, hheld, howns'⟩
    subst heq
    exact hnew x hx (h.eq_of_claims (hbegins.holds hx) hheld howns.mem_operationIds
      howns'.mem_operationIds)
  · rintro a b ⟨x, hx, ha⟩ ⟨y, hy, hb⟩
    exact hcoherent.epochOrdered a b ⟨x, hbegins'.holds hx, ha⟩ ⟨y, hbegins'.holds hy, hb⟩

theorem run_reload {journal : Journal} {whole : History} (h : Represents journal whole)
    (hcoherent : whole.Coherent) (done rest : List BridgeOperationAttempt)
    (hall : ∀ planId, History.ofList (done ++ rest) planId = whole planId) {fresh : Journal}
    (hfresh : Represents fresh (History.ofList done)) :
    ∃ loaded, (reload rest).run fresh = (.ok (), loaded) ∧ Represents loaded whole := by
  induction rest generalizing done fresh with
  | nil =>
    refine ⟨fresh, rfl, ?_⟩
    rw [List.append_nil] at hall
    rw [← funext hall]
    exact hfresh
  | cons attempt rest ih =>
    have hbegins : (History.ofList done).Begins whole := by
      intro planId
      rw [← hall planId]
      exact (List.prefix_append done _).filter _
    have hnext : whole attempt.planId = History.ofList done attempt.planId ++ attempt ::
        rest.filter fun x => decide (x.planId = attempt.planId) := by
      rw [← hall, History.ofList, List.filter_append, List.filter_cons_of_pos (by simp)]
      rfl
    have hadmits := h.admits_next hcoherent hbegins hnext
    have hheld : whole.Holds attempt := by
      have hmem : attempt ∈ whole attempt.planId := by rw [hnext]; simp
      exact (h.located.holds_of_mem hmem).1
    obtain ⟨found, next, _, hrun, hrep⟩ := hfresh.appendAttempt_complete
      (.appendAttempt (h.wellFormed attempt hheld) hadmits)
    rw [← History.ofList_concat] at hrep
    obtain ⟨loaded, hloaded, hrepresents⟩ := ih (done ++ [attempt])
      (by rw [List.append_assoc]; exact hall) hrep
    refine ⟨loaded, ?_, hrepresents⟩
    show (Method.forEach _ (attempt :: rest)).run fresh = _
    rw [Method.forEach, Method.run_bind_ok]
    exact ⟨(), next, Method.run_bind_ok.2 ⟨found, next, hrun, rfl⟩, hloaded⟩

/-- Appending the attempts of a reachable journal to a fresh one, in any order that keeps each
plan's attempts ascending, succeeds and leaves a journal that cannot be told apart from it. -/
theorem reload_observably_equal {journal : Journal} (hreach : Reachable journal)
    {order : List BridgeOperationAttempt}
    (horder : ∀ planId, order.filter (fun attempt => decide (attempt.planId = planId))
      = journal.attemptsFor planId) :
    ∃ fresh, (reload order).run {} = (.ok (), fresh) ∧ ObservablyEqual journal fresh := by
  obtain ⟨hrep, hcoherent⟩ := hreach.coherent
  have hempty : Represents {} (History.ofList []) := represents_empty
  obtain ⟨fresh, hrun, hfresh⟩ := run_reload hrep hcoherent [] order horder hempty
  exact ⟨fresh, hrun, hrep.observablyEqual hfresh⟩

end

open Sample in
/-- Reloading the journal of the two sample plans, the second plan first. -/
theorem reload_two_plans :
    ∃ fresh, (reload [pending, committed]).run {} = (.ok (), fresh)
      ∧ ObservablyEqual (after [.appendAttempt committed, .appendAttempt pending] {}) fresh := by
  refine reload_observably_equal (reachable_after _) fun planId => ?_
  have hentries : (after [.appendAttempt committed, .appendAttempt pending] {}).attempts.entries
      = [(firstPlanId, [committed]), (secondPlanId, [pending])] := by
    decide
  have hplans : firstPlanId ≠ secondPlanId := by decide
  have hcommitted : committed.planId = firstPlanId := rfl
  have hpending : pending.planId = secondPlanId := rfl
  rw [attemptsFor, Dict.get?, hentries]
  by_cases hfirst : firstPlanId = planId
  · have hsecond : secondPlanId ≠ planId := fun h => hplans (hfirst.trans h.symm)
    simp [hcommitted, hpending, hfirst, hsecond]
  · by_cases hsecond : secondPlanId = planId
    · simp [hcommitted, hpending, hfirst, hsecond]
    · simp [hcommitted, hpending, hfirst, hsecond]

end TrueFamily.Transaction
