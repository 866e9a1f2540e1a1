import TrueFamily.Transaction.Authority

/-!
# The ownership that a release checks

`release` compares five of the fields that `_binding_matches_release` compares. The states are those
that the calls of the authority and `put`, with which it is constructed, reach; in them a binding is
kept under its own provider.
-/

namespace TrueFamily.Transaction

open Checked

namespace InMemoryFenceAuthority

variable {authority next : Authority}

/-- `put`. -/
def put (binding : FenceBinding) : AuthorityMethod Unit := do
  binding.postInit
  let authority ← Method.get
  if authority.bindings.get? binding.provider = some binding then return ()
  else do
    Method.require (authority.epochHighWater binding.provider < binding.epoch)
      (.journalConflict "Fence authority rejected epoch regression.")
    Method.modify fun authority =>
      { authority with
        bindings := authority.bindings.set binding.provider binding
        highWater := authority.highWater.set binding.provider binding.epoch }

/-- Every binding is kept under its own provider. -/
def Keyed (authority : Authority) : Prop :=
  ∀ provider fence, authority.currentBinding provider = some fence → fence.provider = provider

theorem Keyed.put {binding : FenceBinding} {result : Except PyError Unit} (hkeyed : Keyed authority)
    (h : (put binding).run authority = (result, next)) : Keyed next := by
  rcases Method.run_lift_bind_cases h with ⟨_, _, rfl⟩ | ⟨_, _, h⟩
  · exact hkeyed
  rw [Method.run_get_bind] at h
  split at h
  · obtain ⟨_, rfl⟩ := Prod.mk.inj h
    exact hkeyed
  · rcases Method.run_require_bind_cases h with ⟨_, _, rfl⟩ | ⟨_, h⟩
    · exact hkeyed
    · obtain ⟨_, rfl⟩ := Prod.mk.inj h
      intro provider fence hfence
      rw [currentBinding, Dict.get?_set] at hfence
      split at hfence
      · rename_i heq
        cases hfence
        exact heq.symm
      · exact hkeyed provider fence hfence

theorem Keyed.change (hkeyed : Keyed authority) (h : AuthorityChange authority next) :
    Keyed next := by
  cases h with
  | same => exact hkeyed
  | @acquired receipt receiptIds hfresh hfree hepoch =>
    intro provider fence hfence
    rw [currentBinding, acquired, Dict.get?_set] at hfence
    split at hfence
    · rename_i heq
      cases hfence
      exact heq.symm
    · exact hkeyed provider fence hfence
  | acquisitionTombstoned hfresh => exact hkeyed
  | @released receipt receiptIds fence hfresh hfence howned =>
    intro provider other hother
    rw [currentBinding, released, Dict.get?_erase] at hother
    split at hother
    · cases hother
    · exact hkeyed provider other hother
  | releaseTombstoned hfresh => exact hkeyed

section

variable [DigestJson]

/-- The states that the constructor, `put` and the calls reach. -/
inductive Reached : Authority → Prop
  | init : Reached {}
  | put {authority next : Authority} {binding : FenceBinding} {result : Except PyError Unit} :
      Reached authority → (put binding).run authority = (result, next) → Reached next
  | call {authority next : Authority} : Reached authority → Step authority next → Reached next

theorem Reached.keyed (h : Reached authority) : Keyed authority := by
  induction h with
  | init => exact fun _ _ hfence => by cases hfence
  | put _ hput ih => exact ih.put hput
  | call _ hstep ih => exact ih.change hstep.change

/-- The receipt that a release would store, and its ID, are in order. -/
def Receivable (authority : Authority) (intent : FenceReleaseIntent) (evidence : ReleaseEvidence) :
    Prop :=
  ∃ receipt, FenceReleaseReceipt.create intent evidence = .ok receipt
    ∧ ∀ existing ∈ authority.receiptIds.get? receipt.receiptId,
        existing = .release intent.operationId

omit [DigestJson] in
theorem requireOwned_eq_ok_iff {current : Option FenceBinding} {intent : FenceReleaseIntent} :
    requireOwned current intent = .ok () ↔
      ∃ fence, current = some fence ∧ OwnedBy fence intent ∧
      fence.acquiredAt ≤ intent.requestedAt := by
  cases current with
  | none => simp [requireOwned]
  | some fence => simp [requireOwned, bind_unit_eq_ok, check_eq_ok]

omit [DigestJson] in
theorem run_claimReceipt_ok {receiptId : ReceiptId} {operationId : OperationId} :
    (claimReceipt receiptId operationId).run authority = (.ok (), next) ↔
      (∀ existing ∈ authority.receiptIds.get? receiptId, existing = operationId)
        ∧ next = { authority with
            receiptIds := authority.receiptIds.set receiptId operationId } := by
  simp only [claimReceipt, Method.run_get_bind, Method.run_bind_ok, Method.run_require_ok,
    Method.run_modify_ok]
  constructor
  · rintro ⟨_, _, ⟨hunclaimed, rfl⟩, rfl⟩
    exact ⟨hunclaimed, rfl⟩
  · rintro ⟨hunclaimed, rfl⟩
    exact ⟨(), authority, ⟨hunclaimed, rfl⟩, rfl⟩

/-- Exactly when `release` applies an intent that has no receipt. -/
theorem release_applies_iff {intent : FenceReleaseIntent} {evidence : ReleaseEvidence}
    (hintent : intent.WellFormed) (hfresh : authority.releases.get? intent.operationId = none) :
    (∃ receipt next, (release intent evidence).run authority = (.ok receipt, next)) ↔
      (∃ fence, authority.currentBinding intent.provider = some fence ∧ OwnedBy fence intent
        ∧ fence.acquiredAt ≤ intent.requestedAt) ∧ authority.Receivable intent evidence := by
  have hvalid := FenceReleaseIntent.postInit_eq_ok.2 hintent
  rw [release, Method.run_bind_of_ok (Method.run_lift_ok.2 ⟨hvalid, rfl⟩), Method.run_get_bind,
    hfresh]
  dsimp only
  constructor
  · rintro ⟨receipt, next, h⟩
    obtain ⟨_, howned, hrest⟩ := Method.run_lift_bind_ok.1 h
    obtain ⟨created, hcreate, hrest⟩ := Method.run_lift_bind_ok.1 hrest
    obtain ⟨_, _, hclaim, _⟩ := Method.run_bind_ok.1 hrest
    exact ⟨requireOwned_eq_ok_iff.1 howned, created, hcreate, (run_claimReceipt_ok.1 hclaim).1⟩
  · rintro ⟨howned, receipt, hcreate, hunclaimed⟩
    have hclaim := run_claimReceipt_ok.2 ⟨hunclaimed, rfl⟩
    exact ⟨receipt, _, Method.run_lift_bind_ok.2 ⟨(), requireOwned_eq_ok_iff.2 howned,
      Method.run_lift_bind_ok.2 ⟨receipt, hcreate, Method.run_bind_ok.2 ⟨(), _, hclaim, rfl⟩⟩⟩⟩

/-- `release` applies only what `_binding_matches_release` accepts exactly where the binding has the
writer and the scope of the intent, unless one of the checks of `release` refuses the intent. -/
theorem release_ownership {intent : FenceReleaseIntent} {evidence : ReleaseEvidence}
    (hreach : Reached authority) (hintent : intent.WellFormed)
    (hfresh : authority.releases.get? intent.operationId = none) :
    ((∃ receipt next, (release intent evidence).run authority = (.ok receipt, next)) →
        bindingMatchesRelease (authority.currentBinding intent.provider) intent) ↔
      ∀ fence, authority.currentBinding intent.provider = some fence → OwnedBy fence intent →
        fence.acquiredAt ≤ intent.requestedAt → authority.Receivable intent evidence →
        fence.writerId = intent.writerId ∧ fence.scopeDigest = intent.scopeDigest := by
  rw [release_applies_iff hintent hfresh]
  constructor
  · intro h fence hfence howned htime hreceivable
    obtain ⟨other, hother, -, hwriter, -, -, hscope, -⟩ :=
      h ⟨⟨fence, hfence, howned, htime⟩, hreceivable⟩
    rw [hfence] at hother
    cases hother
    exact ⟨hwriter, hscope⟩
  · rintro h ⟨⟨fence, hfence, howned, htime⟩, hreceivable⟩
    obtain ⟨hwriter, hscope⟩ := h fence hfence howned htime hreceivable
    obtain ⟨hoperation, hreceipt, hdigest, htoken, hepoch⟩ := howned
    exact ⟨fence, hfence, hreach.keyed _ _ hfence, hwriter, htoken, hepoch, hscope, hoperation,
      hreceipt, hdigest⟩

end

/-! ## A release by another writer -/

open Sample

/-- The authority after the first sample acquisition. -/
def holding : Authority := ((exec firstAcquire).run {}).2

def otherWriter : CanonicalText := ⟨"other-writer", by decide⟩

/-- A release of the first fence, by another writer and for another scope. -/
def strangerIntent : FenceReleaseIntent :=
  .ofFields { releaseFields with writerId := otherWriter, scopeDigest := planDigest 0x11 }

def strangerEvidence : ReleaseEvidence := ⟨.integer 8, second 12, second 13, second 14⟩

theorem holding_reached : Reached holding := .call .init ⟨firstAcquire, _, rfl⟩

theorem strangerIntent_wf : strangerIntent.WellFormed :=
  FenceReleaseIntent.postInit_eq_ok.1 (by decide)

theorem exists_of_isOk {intent : FenceReleaseIntent} {evidence : ReleaseEvidence}
    {authority : Authority} (h : ((release intent evidence).run authority).1.isOk = true) :
    ∃ receipt next, (release intent evidence).run authority = (.ok receipt, next) := by
  cases hrun : (release intent evidence).run authority with
  | mk result next =>
    rw [hrun] at h
    cases result with
    | error e => cases h
    | ok receipt => exact ⟨receipt, next, rfl⟩

/-- Its owner's release is applied and agrees with the fence. -/
theorem owner_releases :
    (∃ receipt next, (release releaseIntent strangerEvidence).run holding = (.ok receipt, next)) ∧
      bindingMatchesRelease (holding.currentBinding releaseIntent.provider) releaseIntent := by
  have hintent : releaseIntent.WellFormed := FenceReleaseIntent.postInit_eq_ok.1 (by decide)
  have happlies : ((release releaseIntent strangerEvidence).run holding).1.isOk = true := by decide
  refine ⟨exists_of_isOk happlies, (release_ownership holding_reached hintent (by decide)).2
    (fun fence hfence _ _ _ => ?_) (exists_of_isOk happlies)⟩
  have hbinding : holding.currentBinding releaseIntent.provider = some firstReceipt.binding := by
    decide
  rw [hbinding] at hfence
  cases hfence
  exact ⟨rfl, rfl⟩

/-- The stranger's release is applied, and the fence is not the one it names. -/
theorem stranger_releases :
    ¬ ∀ (authority : Authority) (intent : FenceReleaseIntent) (evidence : ReleaseEvidence),
      Reached authority → intent.WellFormed → authority.releases.get? intent.operationId = none →
      (∃ receipt next, (release intent evidence).run authority = (.ok receipt, next)) →
      bindingMatchesRelease (authority.currentBinding intent.provider) intent := by
  intro hall
  have happlies : ((release strangerIntent strangerEvidence).run holding).1.isOk = true := by decide
  exact absurd (hall holding strangerIntent strangerEvidence holding_reached strangerIntent_wf
    (by decide) (exists_of_isOk happlies)) (by decide)

end InMemoryFenceAuthority

end TrueFamily.Transaction
