import TrueFamily.Transaction.Retry

/-!
# Fencing

Who may hold the writer fence of a provider, and when. The journal allocates epochs globally:
over all plans and attempts, the acquisitions of a provider are requested in the order of their
epochs. It keeps the hold windows apart only within one attempt. Between attempts it checks
epochs and request times, so fences of different plans may overlap; within a plan an earlier
attempt is restored, and so has released its fences before its terminal time.
-/

namespace TrueFamily.Transaction

open Checked Sorting InMemoryBridgeOperationJournal BridgeOperationAttempt

section

variable [DigestJson]

/-- A release of the fence is acknowledged, durably by `time`. -/
def ReleasedBy (attempt : BridgeOperationAttempt) (acquisitionId : AcquireOperationId)
    (time : Datetime) : Prop :=
  ∃ release ∈ attempt.releases, release.intent.acquisitionOperationId = acquisitionId
    ∧ ∃ receipt, release.acknowledged? = some receipt ∧ receipt.durableAt ≤ time

/-! ## Within an attempt -/

namespace BridgeOperationAttempt.WellFormed

variable {attempt : BridgeOperationAttempt}

omit [DigestJson] in
/-- A fence that is closed for the next one, and was acquired, is released. -/
theorem released_of_closed {record : FenceAcquisitionRecord} {requestedAt : Datetime}
    (hacknowledged : record.state = .acknowledged)
    (hclosed : FenceClosed attempt record requestedAt) :
    ReleasedBy attempt record.intent.operationId requestedAt := by
  cases hclosed with
  | undispatched hundispatched =>
    rw [hundispatched.1] at hacknowledged
    cases hacknowledged
  | tombstoned _ htombstone _ =>
    rw [(LifecycleRecord.tombstone?_eq_some.1 htombstone).1] at hacknowledged
    cases hacknowledged
  | released _ release receipt _ hlast hreceipt hdurable =>
    obtain ⟨hmem, hid⟩ := mem_releaseChain.1 (List.mem_of_getLast? hlast)
    exact ⟨release, hmem, hid, receipt, hreceipt, hdurable⟩

/-- Two fences of a provider in one attempt: the older one is released before the newer one is
requested. -/
theorem released_before (h : attempt.WellFormed) {a b : FenceAcquisitionRecord}
    (ha : a ∈ attempt.acquisitions) (hb : b ∈ attempt.acquisitions)
    (hprovider : a.intent.provider = b.intent.provider)
    (hordered : ∀ c ∈ attempt.acquisitions, c.intent.provider = b.intent.provider →
      c.intent.epoch < b.intent.epoch → c.intent.requestedAt ≤ b.intent.requestedAt)
    (hepoch : a.intent.epoch < b.intent.epoch) (hacknowledged : a.state = .acknowledged) :
    ReleasedBy attempt a.intent.operationId b.intent.requestedAt := by
  have hmem : ∀ c ∈ attempt.acquisitions, c.intent.provider = b.intent.provider →
      c ∈ attempt.acquisitions.filter fun item =>
        decide (item.intent.provider = b.intent.provider) :=
    fun c hc hp => List.mem_filter.2 ⟨hc, decide_eq_true hp⟩
  have hincreasing : (attempt.acquisitions.filter fun item =>
      decide (item.intent.provider = b.intent.provider)).Pairwise
        fun x y => x.intent.epoch < y.intent.epoch := by
    refine (h.acquisitions.epochs.filter _).imp_of_mem fun hx hy hxy => hxy ?_
    exact (of_decide_eq_true (List.mem_filter.1 hx).2).trans
      (of_decide_eq_true (List.mem_filter.1 hy).2).symm
  obtain ⟨before, c, after, hsplit, hc⟩ := exists_succ_of_pairwise_lt hincreasing
    (hmem a ha hprovider) (hmem b hb rfl) hepoch
  have hchain := h.fenceOrder b.intent.provider
  rw [hsplit, List.isChain_append_cons_cons] at hchain
  obtain ⟨release, hrelease, hid, receipt, hreceipt, hdurable⟩ :=
    released_of_closed hacknowledged hchain.2.1
  refine ⟨release, hrelease, hid, receipt, hreceipt, le_trans hdurable ?_⟩
  rcases hc with rfl | hlt
  · exact le_refl _
  · have hcmem : c ∈ before ++ a :: c :: after := by simp
    rw [← hsplit, List.mem_filter, decide_eq_true_iff] at hcmem
    exact hordered c hcmem.1 hcmem.2 hlt

end BridgeOperationAttempt.WellFormed

/-! ## Over the whole journal -/

/-- The epochs of a provider strictly increase in the order of requests, over all plans and
attempts, and within an attempt no fence is requested before every older acquired one is durably
released. -/
theorem provider_fencing {journal : Journal} (hreach : Reachable journal) (provider : Provider) :
    ((sortedBy historySortKey (journal.providerIntents provider)).map (·.epoch)).Pairwise
        (fun a b => a < b)
      ∧ ∀ planId, ∀ attempt ∈ journal.attemptsFor planId,
        ∀ a ∈ attempt.acquisitions, ∀ b ∈ attempt.acquisitions,
        a.intent.provider = provider → b.intent.provider = provider →
        a.state = .acknowledged → b.state = .acknowledged → a.intent.epoch < b.intent.epoch →
        ReleasedBy attempt a.intent.operationId b.intent.requestedAt := by
  obtain ⟨hrep, hcoherent⟩ := hreach.coherent
  have hepochs := hcoherent.epochOrdered
  constructor
  · unfold historySortKey
    rw [pairwise_rank_sortedBy_iff]
    have hnodup := (List.pairwise_map.1 hrep.nodup_intents).filter
      fun intent => decide (intent.provider = provider)
    refine hnodup.imp_of_mem fun {a b} ha hb hne => ?_
    obtain ⟨ha, hpa⟩ := hrep.mem_providerIntents_iff.1 ha
    obtain ⟨hb, hpb⟩ := hrep.mem_providerIntents_iff.1 hb
    exact hepochs a b ha hb hne (hpa.trans hpb.symm)
  · intro planId attempt hmem a ha b hb hpa hpb hstate _ hlt
    obtain ⟨hheld, _⟩ := hrep.located.holds_of_mem hmem
    have hwf := hrep.wellFormed _ hheld
    refine hwf.released_before ha hb (hpa.trans hpb.symm) ?_ hlt hstate
    intro c hc hpc hltc
    have hne : c.intent.operationId ≠ b.intent.operationId := by
      intro heq
      rw [eq_of_acquisitionId hwf hc hb heq] at hltc
      exact lt_irrefl _ hltc
    rcases hepochs c.intent b.intent ⟨attempt, hheld, c, hc, rfl⟩ ⟨attempt, hheld, b, hb, rfl⟩
      hne hpc with ⟨htime, _⟩ | ⟨_, hgt⟩
    · exact htime
    · exact absurd hgt (lt_asymm hltc)

end

namespace Sample

/-- The first plan acquires the scheduler twice in one attempt, and then the second plan. -/
def acquiredAgainCalls : List JournalCall :=
  [.appendAttempt reacquired,
    .appendAttempt (opened secondPlanId secondPlan (acquired laterIntent laterReceipt))]

end Sample

open Sample in
/-- The scheduler is acquired under the epochs 1 to 3, and the first fence is released before the
second one of the attempt is requested. -/
theorem scheduler_fencing :
    ((sortedBy historySortKey ((after acquiredAgainCalls {}).providerIntents .scheduler)).map
        (·.epoch)).Pairwise (fun a b => a < b) ∧
      ReleasedBy reacquired firstIntent.operationId againIntent.requestedAt := by
  have hfencing := provider_fencing (reachable_after acquiredAgainCalls) .scheduler
  have hreacquired : reacquired ∈ (after acquiredAgainCalls {}).attemptsFor firstPlanId := by
    decide
  exact ⟨hfencing.1, hfencing.2 firstPlanId reacquired hreacquired
    (acquired firstIntent firstReceipt) List.mem_cons_self
    (acquired againIntent againReceipt) (List.mem_cons_of_mem _ List.mem_cons_self) rfl rfl rfl rfl
    (by decide)⟩

/-! ## Between attempts -/

section

variable [DigestJson]

/-- In a restored attempt every acquired fence is released by the terminal time. -/
theorem BridgeOperationAttempt.WellFormed.released_of_restored {attempt : BridgeOperationAttempt}
    (h : attempt.WellFormed) (hrestored : attempt.state = .restored) :
    ∃ terminalAt, attempt.terminalAt = some terminalAt
      ∧ ∀ record ∈ attempt.acquisitions, record.state = .acknowledged →
        ReleasedBy attempt record.intent.operationId terminalAt := by
  have hstate := h.state_ok
  unfold StateWellFormed at hstate
  rw [hrestored] at hstate
  obtain ⟨terminalAt, hwf⟩ := hstate
  refine ⟨terminalAt, hwf.terminalAt_eq, fun record hmem hacknowledged => ?_⟩
  cases hwf.ended record hmem with
  | tombstoned _ htombstone _ _ =>
    rw [(LifecycleRecord.tombstone?_eq_some.1 htombstone).1] at hacknowledged
    cases hacknowledged
  | undispatched hundispatched _ =>
    rw [hundispatched.1] at hacknowledged
    cases hacknowledged
  | released _ release receipt _ _ hreleased =>
    obtain ⟨hrelease, hid⟩ := mem_releaseChain.1 (List.mem_of_getLast? hreleased.last)
    exact ⟨release, hrelease, hid, receipt, hreleased.acknowledged, hreleased.durable_le⟩

omit [DigestJson] in
/-- Of two attempts of a plan, the one that acquired under the earlier epoch comes first and is
restored. -/
theorem History.Sequential.earlier {history : History} (h : history.Sequential) {planId : PlanId}
    {i j : ℕ} {x y : BridgeOperationAttempt} (hx : (history planId)[i]? = some x)
    (hy : (history planId)[j]? = some y) (hne : i ≠ j) {a b : FenceAcquisitionRecord}
    (ha : a ∈ x.acquisitions) (hb : b ∈ y.acquisitions)
    (hprovider : a.intent.provider = b.intent.provider)
    (hepoch : a.intent.epoch < b.intent.epoch) : i < j ∧ x.state = .restored := by
  have later : ∀ {i j : ℕ} {x y : BridgeOperationAttempt}, (history planId)[i]? = some x →
      (history planId)[j]? = some y → i < j →
      x.state = .restored ∧ LaterEpochs y ((history planId).take j)
        ∧ x ∈ (history planId).take j := by
    intro i j x y hx hy hlt
    have hmem : x ∈ (history planId).take j := by
      refine List.mem_of_getElem? (i := i) ?_
      rw [List.getElem?_take_of_lt hlt, hx]
    have hretry := (assertRetry_eq_ok.1 (h planId _ _ _ (eq_take_append_of_getElem? hy))).2
    cases hlast : ((history planId).take j).getLast? with
    | none =>
      rw [List.getLast?_eq_none_iff.1 hlast] at hmem
      cases hmem
    | some last =>
      refine ⟨?_, (hretry last hlast).epochs, hmem⟩
      have hsplit := eq_take_append_of_getElem? hx
      cases hrest : (history planId).drop (i + 1) with
      | nil =>
        have hlength := (List.getElem?_eq_some_iff.1 hy).1
        rw [List.drop_eq_nil_iff] at hrest
        omega
      | cons next after =>
        rw [hrest] at hsplit
        exact (h.restored hsplit).restored
  rcases Nat.lt_or_gt_of_ne hne with hlt | hgt
  · exact ⟨hlt, (later hx hy hlt).1⟩
  · obtain ⟨_, hepochs, hmem⟩ := later hy hx hgt
    exact absurd (hepochs y hmem b hb a ha hprovider.symm) (lt_asymm hepoch)

/-- Fences of different attempts: requests follow the epochs, and within a plan the older fence
belongs to an earlier, restored attempt and is released by the terminal time of that attempt. -/
theorem fencing_between_attempts {journal : Journal} (hreach : Reachable journal)
    {planX planY : PlanId} {i j : ℕ} {x y : BridgeOperationAttempt}
    (hx : (journal.attemptsFor planX)[i]? = some x) (hy : (journal.attemptsFor planY)[j]? = some y)
    (hne : (planX, i) ≠ (planY, j)) {a b : FenceAcquisitionRecord} (ha : a ∈ x.acquisitions)
    (hb : b ∈ y.acquisitions) (hprovider : a.intent.provider = b.intent.provider)
    (hepoch : a.intent.epoch < b.intent.epoch) :
    a.intent.requestedAt ≤ b.intent.requestedAt
      ∧ (planX = planY → i < j ∧ x.state = .restored ∧ ∃ terminalAt,
        x.terminalAt = some terminalAt
          ∧ (a.state = .acknowledged → ReleasedBy x a.intent.operationId terminalAt)) := by
  obtain ⟨hrep, hcoherent⟩ := hreach.coherent
  have hheldx := hrep.located.holds hx
  have hheldy := hrep.located.holds hy
  constructor
  · have hids : a.intent.operationId ≠ b.intent.operationId := by
      intro heq
      have hclaims : x = y := hrep.eq_of_claims hheldx hheldy
        (acquire_mem_operationIds.2 (List.mem_map_of_mem ha))
        (heq ▸ acquire_mem_operationIds.2 (List.mem_map_of_mem hb))
      obtain ⟨hplanx, hnumberx⟩ := hrep.located _ _ _ hx
      obtain ⟨hplany, hnumbery⟩ := hrep.located _ _ _ hy
      subst hclaims
      exact hne (Prod.ext (hplanx.symm.trans hplany) (by dsimp only; omega))
    rcases hcoherent.epochOrdered a.intent b.intent ⟨x, hheldx, a, ha, rfl⟩ ⟨y, hheldy, b, hb, rfl⟩
      hids hprovider with ⟨htime, _⟩ | ⟨_, hgt⟩
    · exact htime
    · exact absurd hgt (lt_asymm hepoch)
  · rintro rfl
    obtain ⟨hlt, hrestored⟩ := hcoherent.sequential.earlier hx hy
      (fun heq => hne (Prod.ext rfl heq)) ha hb hprovider hepoch
    obtain ⟨terminalAt, hterminal, hreleased⟩ :=
      (hrep.wellFormed _ hheldx).released_of_restored hrestored
    exact ⟨hlt, hrestored, terminalAt, hterminal, hreleased a ha⟩

end

open Sample in
/-- The fences of the two sample plans. -/
theorem fences_of_two_plans :
    firstIntent.requestedAt ≤ secondIntent.requestedAt := by
  have hfirst : ((after [.appendAttempt committed, .appendAttempt pending] {}).attemptsFor
      firstPlanId)[0]? = some committed := by
    decide
  have hsecond : ((after [.appendAttempt committed, .appendAttempt pending] {}).attemptsFor
      secondPlanId)[0]? = some pending := by
    decide
  exact (fencing_between_attempts (reachable_after _) hfirst hsecond (by decide)
    (a := acquired firstIntent firstReceipt) (b := acquired secondIntent secondReceipt)
    (List.mem_singleton.2 rfl) (List.mem_singleton.2 rfl) rfl (by decide)).1

open Sample in
/-- A second plan acquires the scheduler while the first still holds it: nothing is released. -/
theorem overlapping_fences :
    ¬ ∀ journal : Journal, Reachable journal → ∀ planX planY, planX ≠ planY →
      ∀ x ∈ journal.attemptsFor planX, ∀ y ∈ journal.attemptsFor planY,
      ∀ a ∈ x.acquisitions, ∀ b ∈ y.acquisitions,
      a.intent.provider = b.intent.provider → a.state = .acknowledged →
      b.state = .acknowledged → a.intent.epoch < b.intent.epoch →
      ReleasedBy x a.intent.operationId b.intent.requestedAt := by
  intro hall
  have hfirst : opened firstPlanId firstPlan (acquired firstIntent firstReceipt)
      ∈ (after [.appendAttempt (opened firstPlanId firstPlan (acquired firstIntent firstReceipt)),
        .appendAttempt pending] {}).attemptsFor firstPlanId := by
    decide
  have hsecond : pending
      ∈ (after [.appendAttempt (opened firstPlanId firstPlan (acquired firstIntent firstReceipt)),
        .appendAttempt pending] {}).attemptsFor secondPlanId := by
    decide
  obtain ⟨release, hrelease, _⟩ := hall _ (reachable_after _) _ _
    (by decide) _ hfirst _ hsecond
    (acquired firstIntent firstReceipt) (List.mem_singleton.2 rfl)
    (acquired secondIntent secondReceipt) (List.mem_singleton.2 rfl) rfl rfl rfl (by decide)
  cases hrelease

end TrueFamily.Transaction
