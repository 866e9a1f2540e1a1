import TrueFamily.Transaction.AppendOnly

/-!
# Retries and epochs

Two invariants of reachable journals that no single attempt shows. The attempts of a plan are
retries of one another: each but the last is restored, and the next one takes over its scope and
acquires under later epochs (`History.Sequential`). And all acquisitions of a provider, in
whatever plan, are requested in the order of their epochs (`History.EpochOrdered`).
-/

namespace TrueFamily.Transaction

open Checked Sorting InMemoryBridgeOperationJournal BridgeOperationAttempt

variable [DigestJson]

/-! ## What a retry takes over -/

/-- Every acquisition of `attempt` is above those of its provider in the earlier attempts. -/
def LaterEpochs (attempt : BridgeOperationAttempt) (earlier : List BridgeOperationAttempt) :
    Prop :=
  ∀ prior ∈ earlier, ∀ a ∈ prior.acquisitions, ∀ b ∈ attempt.acquisitions,
    a.intent.provider = b.intent.provider → a.intent.epoch < b.intent.epoch

/-- `attempt` retries the restored attempt `previous`. -/
structure Retries (attempt : BridgeOperationAttempt) (earlier : List BridgeOperationAttempt)
    (previous : BridgeOperationAttempt) : Prop where
  restored : previous.state = .restored
  expected : retryExpectedWrites previous = .ok attempt.expectedWrites
  planDigest_eq : previous.planDigest = attempt.planDigest
  manifestDigest_eq : previous.manifestDigest = attempt.manifestDigest
  freshness_eq : previous.maxObservationAgeSeconds = attempt.maxObservationAgeSeconds
  epochs : LaterEpochs attempt earlier

omit [DigestJson] in
theorem assertPrepopulatedRetryEpochs_eq_ok {attempt : BridgeOperationAttempt}
    {earlier : List BridgeOperationAttempt} :
    assertPrepopulatedRetryEpochs attempt earlier = .ok () ↔ LaterEpochs attempt earlier := by
  simp only [assertPrepopulatedRetryEpochs, forAll_eq_ok]
  constructor
  · intro h prior hprior a ha b hb hprovider
    have hcheck := h a.intent.provider (Provider.mem_all _)
    have hmem : a ∈ (earlier.flatMap (·.acquisitions)).filter fun item =>
        decide (item.intent.provider = a.intent.provider) :=
      List.mem_filter.2 ⟨List.mem_flatMap.2 ⟨prior, hprior, ha⟩, decide_eq_true rfl⟩
    have hmem' : b ∈ attempt.acquisitions.filter fun item =>
        decide (item.intent.provider = a.intent.provider) :=
      List.mem_filter.2 ⟨hb, decide_eq_true hprovider.symm⟩
    obtain ⟨highest, hmax, hle⟩ := exists_max?_of_mem
      (List.mem_map_of_mem (f := (·.intent.epoch)) hmem)
    obtain ⟨lowest, hmin, hge⟩ := exists_min?_of_mem
      (List.mem_map_of_mem (f := (·.intent.epoch)) hmem')
    rw [hmax, hmin] at hcheck
    exact lt_of_le_of_lt hle (lt_of_lt_of_le (check_eq_ok.1 hcheck) hge)
  · intro h provider _
    split
    · rename_i highest lowest hmax hmin
      obtain ⟨a, ha, rfl⟩ := List.mem_map.1 (max?_eq_some_iff.1 hmax).1
      obtain ⟨b, hb, rfl⟩ := List.mem_map.1 (min?_eq_some_iff.1 hmin).1
      rw [List.mem_filter, decide_eq_true_iff] at ha hb
      obtain ⟨prior, hprior, ha'⟩ := List.mem_flatMap.1 ha.1
      exact check_eq_ok.2 (h prior hprior a ha' b hb.1 (ha.2.trans hb.2.symm))
    · rfl

omit [DigestJson] in
theorem assertRetry_eq_ok {attempt : BridgeOperationAttempt}
    {earlier : List BridgeOperationAttempt} :
    assertRetry attempt earlier = .ok () ↔ (earlier = [] → attempt.attempt = 1)
      ∧ ∀ previous, earlier.getLast? = some previous → Retries attempt earlier previous := by
  unfold assertRetry
  cases hlast : earlier.getLast? with
  | none =>
    rw [List.getLast?_eq_none_iff] at hlast
    simp [hlast]
  | some previous =>
    have hne : earlier ≠ [] := by
      rintro rfl
      cases hlast
    simp only [bind_eq_ok, exists_unit, check_eq_ok, assertPrepopulatedRetryEpochs_eq_ok, hne,
      false_implies, true_and, Option.some.injEq, forall_eq']
    constructor
    · rintro ⟨hrestored, writes, hexpected, ⟨hplan, hmanifest, rfl, hfresh⟩, hepochs⟩
      exact ⟨hrestored, hexpected, hplan, hmanifest, hfresh, hepochs⟩
    · intro h
      exact ⟨h.restored, _, h.expected, ⟨h.planDigest_eq, h.manifestDigest_eq, rfl,
        h.freshness_eq⟩, h.epochs⟩

/-! ## Acquisitions of a changed attempt -/

/-- A change acquires at most one new fence, above the epochs of its provider. -/
theorem AttemptChange.acquired {history : History} {attempt updated : BridgeOperationAttempt}
    (h : AttemptChange history attempt updated) :
    ∃ fresh : Option FenceAcquisitionIntent,
      (∀ intent, fresh = some intent → history.NewEpoch intent)
      ∧ ∀ record ∈ updated.acquisitions, fresh = some record.intent
        ∨ ∃ earlier ∈ attempt.acquisitions, earlier.intent = record.intent := by
  have kept : (∀ record ∈ updated.acquisitions,
      ∃ earlier ∈ attempt.acquisitions, earlier.intent = record.intent) →
      ∃ fresh : Option FenceAcquisitionIntent,
        (∀ intent, fresh = some intent → history.NewEpoch intent)
        ∧ ∀ record ∈ updated.acquisitions, fresh = some record.intent
          ∨ ∃ earlier ∈ attempt.acquisitions, earlier.intent = record.intent := by
    intro h
    exact ⟨none, by simp, fun record hmem => Or.inr (h record hmem)⟩
  have replaced : ∀ {index : ℕ} {old new : FenceAcquisitionRecord},
      attempt.acquisitions[index]? = some old → new.intent = old.intent →
      ∀ record ∈ attempt.acquisitions.set index new,
        ∃ earlier ∈ attempt.acquisitions, earlier.intent = record.intent := by
    intro index old new hget hintent record hmem
    rcases List.mem_or_eq_of_mem_set hmem with hmem | rfl
    · exact ⟨record, hmem, rfl⟩
    · exact ⟨old, List.mem_of_getElem? hget, hintent.symm⟩
  cases h with
  | @addAcquisition intent hadmits =>
    refine ⟨some intent, ?_, fun record hmem => ?_⟩
    · rintro _ ⟨⟩
      exact hadmits.newEpoch
    · rcases List.mem_append.1 (mem_sortedBy.1 hmem) with hmem | hmem
      · exact Or.inr ⟨record, hmem, rfl⟩
      · rw [List.mem_singleton.1 hmem]
        exact Or.inl rfl
  | setAcquisition hget htransition => exact kept (replaced hget htransition.intent_eq)
  | blockAcquisition hget htransition => exact kept (replaced hget htransition.intent_eq)
  | addRelease => exact kept fun record hmem => ⟨record, hmem, rfl⟩
  | addOperation => exact kept fun record hmem => ⟨record, hmem, rfl⟩
  | setRelease => exact kept fun record hmem => ⟨record, hmem, rfl⟩
  | setOperation => exact kept fun record hmem => ⟨record, hmem, rfl⟩
  | blockOperation => exact kept fun record hmem => ⟨record, hmem, rfl⟩
  | close hclosed =>
    obtain ⟨_, _, _, rfl, _⟩ := Represents.closedAttempt_eq_ok.1 hclosed
    exact kept fun record hmem => ⟨record, hmem, rfl⟩

/-! ## The invariants -/

omit [DigestJson] in
theorem eq_take_append_of_getElem? {α : Type} {items : List α} {index : ℕ} {x : α}
    (h : items[index]? = some x) :
    items = items.take index ++ x :: items.drop (index + 1) := by
  obtain ⟨hlt, rfl⟩ := List.getElem?_eq_some_iff.1 h
  rw [← List.drop_eq_getElem_cons hlt, List.take_append_drop]

/-- Every attempt is admitted after the attempts before it. -/
def History.Sequential (history : History) : Prop :=
  ∀ planId, ForallSplit (fun earlier attempt => assertRetry attempt earlier = .ok ())
    (history planId)

/-- What holds of every history that a journal reaches. -/
structure History.Coherent (history : History) : Prop where
  sequential : history.Sequential
  epochOrdered : history.EpochOrdered

omit [DigestJson] in
/-- Only the last attempt of a plan is not restored. -/
theorem History.Sequential.restored {history : History} (h : history.Sequential) {planId : PlanId}
    {before after : List BridgeOperationAttempt} {attempt next : BridgeOperationAttempt}
    (hsplit : history planId = before ++ attempt :: next :: after) :
    Retries next (before ++ [attempt]) attempt := by
  have hretry := h planId (before ++ [attempt]) next after (by rw [hsplit]; simp)
  exact (assertRetry_eq_ok.1 hretry).2 attempt (by simp)

/-- A changed attempt is still admitted after the attempts before it. -/
theorem AttemptChange.retries {history : History} {attempt updated : BridgeOperationAttempt}
    (h : AttemptChange history attempt updated) (hwf : attempt.WellFormed)
    {earlier : List BridgeOperationAttempt}
    (hearlier : ∀ prior ∈ earlier, history.Holds prior)
    (hretry : assertRetry attempt earlier = .ok ()) : assertRetry updated earlier = .ok () := by
  have hextends := h.extends hwf
  rw [assertRetry_eq_ok] at hretry ⊢
  refine ⟨fun hnil => hextends.attempt_eq.trans (hretry.1 hnil), fun previous hlast => ?_⟩
  have hold := hretry.2 previous hlast
  refine ⟨hold.restored, hextends.expectedWrites_eq ▸ hold.expected,
    hold.planDigest_eq.trans hextends.planDigest_eq.symm,
    hold.manifestDigest_eq.trans hextends.manifestDigest_eq.symm,
    hold.freshness_eq.trans hextends.freshness_eq.symm, ?_⟩
  obtain ⟨fresh, hfresh, hacquired⟩ := h.acquired
  intro prior hprior a ha b hb hprovider
  rcases hacquired b hb with hnew | ⟨b', hb', hintent⟩
  · exact (hfresh _ hnew a.intent ⟨prior, hearlier prior hprior, a, ha, rfl⟩ hprovider).1
  · rw [← hintent] at hprovider ⊢
    exact hold.epochs prior hprior a ha b' hb' hprovider

theorem History.Sequential.set {history : History} (h : history.Sequential)
    (hlocated : history.Located) {attempt updated : BridgeOperationAttempt}
    (hwf : attempt.WellFormed) (hheld : history.Holds attempt)
    (hchange : AttemptChange history attempt updated) : (history.set updated).Sequential := by
  have hextends := hchange.extends hwf
  intro planId
  by_cases hplan : planId = updated.planId
  · subst hplan
    have hget := hheld.2
    rw [← hextends.planId_eq, ← hextends.attempt_eq] at hget
    have hsplit := eq_take_append_of_getElem? hget
    rw [History.set, Function.update_self, List.set_eq_take_append_cons_drop,
      if_pos (List.getElem?_eq_some_iff.1 hget).1]
    cases hrest : (history updated.planId).drop (updated.attempt - 1 + 1) with
    | nil =>
      rw [hrest] at hsplit
      obtain ⟨hbefore, hretry⟩ := forallSplit_concat.1 (hsplit ▸ h updated.planId)
      refine forallSplit_concat.2 ⟨hbefore, hchange.retries hwf (fun prior hprior => ?_) hretry⟩
      exact (hlocated.holds_of_mem (List.mem_of_mem_take hprior)).1
    | cons next after =>
      rw [hrest] at hsplit
      exact absurd (Or.inr (h.restored hsplit).restored) (hchange.not_terminal hwf)
  · rw [History.set, Function.update_of_ne hplan]
    exact h planId

omit [DigestJson] in
theorem BridgeOperationAttempt.Extends.slot_eq {attempt updated : BridgeOperationAttempt}
    (h : attempt.Extends updated) : attempt.slot = updated.slot :=
  Prod.ext h.planId_eq.symm h.attempt_eq.symm

theorem History.EpochOrdered.set {history : History} (h : history.EpochOrdered)
    {attempt updated : BridgeOperationAttempt} (hwf : attempt.WellFormed)
    (hheld : history.Holds attempt) (hchange : AttemptChange history attempt updated) :
    (history.set updated).EpochOrdered := by
  obtain ⟨fresh, hfresh, hacquired⟩ := hchange.acquired
  have hwrites := hheld.writes_set (hchange.extends hwf).slot_eq
  have known : ∀ intent, (history.set updated).Acquires intent →
      fresh = some intent ∨ history.Acquires intent := by
    rintro intent ⟨x, hx, record, hrecord, rfl⟩
    rcases (hwrites x).1 hx with rfl | ⟨hx, _⟩
    · rcases hacquired record hrecord with hnew | ⟨earlier, hearlier, hintent⟩
      · exact Or.inl hnew
      · exact Or.inr ⟨attempt, hheld, earlier, hearlier, hintent⟩
    · exact Or.inr ⟨x, hx, record, hrecord, rfl⟩
  intro a b ha hb hne hprovider
  rcases known a ha with hnewa | hknowna <;> rcases known b hb with hnewb | hknownb
  · rw [hnewa, Option.some.injEq] at hnewb
    exact absurd (congrArg _ hnewb) hne
  · obtain ⟨hepoch, htime⟩ := hfresh a hnewa b hknownb hprovider.symm
    exact Or.inr ⟨htime, hepoch⟩
  · obtain ⟨hepoch, htime⟩ := hfresh b hnewb a hknowna hprovider
    exact Or.inl ⟨htime, hepoch⟩
  · exact h a b hknowna hknownb hne hprovider

theorem History.Coherent.step {history history' : History} {call : JournalCall}
    {result : JournalResult} (h : history.Coherent) (hlocated : history.Located)
    (hwf : ∀ attempt, history.Holds attempt → attempt.WellFormed)
    (hstep : HistoryStep history call result history') : history'.Coherent := by
  rcases hstep.cases with rfl | ⟨added, _, hadmits, rfl⟩ | ⟨old, updated, hheld, hchange, _, rfl⟩
  · exact h
  · refine ⟨fun planId => ?_, hadmits.epochOrdered⟩
    by_cases hplan : planId = added.planId
    · subst hplan
      rw [History.append, Function.update_self]
      exact forallSplit_concat.2 ⟨h.sequential _, hadmits.retry⟩
    · rw [History.append, Function.update_of_ne hplan]
      exact h.sequential planId
  · exact ⟨h.sequential.set hlocated (hwf old hheld) hheld hchange,
      h.epochOrdered.set (hwf old hheld) hheld hchange⟩

omit [DigestJson] in
theorem History.coherent_empty : History.Coherent fun _ => [] where
  sequential _ := forallSplit_nil
  epochOrdered := by
    rintro a _ ⟨attempt, hheld, _⟩
    cases hheld.mem

/-- A reachable journal represents a coherent history, the one that `attempts_for` shows. -/
theorem InMemoryBridgeOperationJournal.Reachable.coherent {journal : Journal}
    (h : Reachable journal) :
    Represents journal journal.attemptsFor ∧ History.Coherent journal.attemptsFor := by
  induction h with
  | refl => exact ⟨represents_empty, History.coherent_empty⟩
  | tail _ hstep ih =>
    obtain ⟨hrep, hcoherent⟩ := ih
    obtain ⟨history', hhistory, hrep'⟩ := hrep.step hstep
    rw [← hrep'.eq_attemptsFor]
    refine ⟨hrep', ?_⟩
    rcases hhistory with rfl | ⟨call, result, hhistory⟩
    · exact hcoherent
    · exact hcoherent.step hrep.located hrep.wellFormed hhistory

end TrueFamily.Transaction
