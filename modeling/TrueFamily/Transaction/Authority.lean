import Mathlib.Logic.Relation
import TrueFamily.Lib.Dict
import TrueFamily.Lib.Method
import TrueFamily.Transaction.Causality

/-!
# The fence authority

`InMemoryFenceAuthority`: the host's own ledger of acquisitions and releases, and the binding
that each provider currently grants. A call for an operation that the ledger already holds is a
replay; any other call either raises and changes nothing, or settles the operation.
`AuthorityChange` sums up what one call can do, and every invariant is proved from it.
-/

namespace TrueFamily.Transaction

open Checked

section

variable [DigestJson]

/-! ## Creating receipts -/

/-- The arguments of `FenceAcquisitionReceipt.create` after the intent. -/
structure AcquisitionEvidence where
  acquiredInventoryRevision : Revision
  fenceRevision : Revision
  tokenDigest : FenceTokenDigest
  acquiredAt : Datetime
  acknowledgedAt : Datetime
  durableAt : Datetime

/-- The arguments of `FenceReleaseReceipt.create` after the intent. -/
structure ReleaseEvidence where
  finalInventoryRevision : Revision
  releasedAt : Datetime
  acknowledgedAt : Datetime
  durableAt : Datetime

/-- The arguments of the `create` methods of both tombstones after the intent. -/
structure TombstoneEvidence where
  acknowledgedAt : Datetime
  durableAt : Datetime

/-- `FenceAcquisitionReceipt.create`. -/
def FenceAcquisitionReceipt.create (intent : FenceAcquisitionIntent)
    (evidence : AcquisitionEvidence) : Except PyError FenceAcquisitionReceipt := do
  intent.postInit
  let receipt := ofFields {
    operationId := intent.operationId
    intentDigest := intent.intentDigest
    provider := intent.provider
    writerId := intent.writerId
    expectedInventoryRevision := intent.expectedInventoryRevision
    acquiredInventoryRevision := evidence.acquiredInventoryRevision
    fenceRevision := evidence.fenceRevision
    scopeDigest := intent.scopeDigest
    epoch := intent.epoch
    tokenDigest := evidence.tokenDigest
    acquiredAt := evidence.acquiredAt
    expiresAt := intent.expiresAt
    acknowledgedAt := evidence.acknowledgedAt
    durableAt := evidence.durableAt }
  receipt.postInit
  validateAcquisitionReceiptBinding receipt intent
  return receipt

/-- `FenceAcquisitionNoEffectReceipt.create`. -/
def FenceAcquisitionNoEffectReceipt.create (intent : FenceAcquisitionIntent)
    (evidence : TombstoneEvidence) : Except PyError FenceAcquisitionNoEffectReceipt := do
  intent.postInit
  let receipt := ofFields {
    operationId := intent.operationId
    intentDigest := intent.intentDigest
    provider := intent.provider
    writerId := intent.writerId
    expectedInventoryRevision := intent.expectedInventoryRevision
    scopeDigest := intent.scopeDigest
    epoch := intent.epoch
    outcome := .noEffect
    evidence := .operationLedger
    acknowledgedAt := evidence.acknowledgedAt
    durableAt := evidence.durableAt
    durable := true }
  receipt.postInit
  validateAcquisitionNoEffectBinding receipt intent
  return receipt

/-- `FenceReleaseReceipt.create`. -/
def FenceReleaseReceipt.create (intent : FenceReleaseIntent) (evidence : ReleaseEvidence) :
    Except PyError FenceReleaseReceipt := do
  intent.postInit
  let receipt := ofFields {
    operationId := intent.operationId
    intentDigest := intent.intentDigest
    releaseAttempt := intent.releaseAttempt
    provider := intent.provider
    writerId := intent.writerId
    acquisitionOperationId := intent.acquisitionOperationId
    acquisitionReceiptId := intent.acquisitionReceiptId
    acquisitionReceiptDigest := intent.acquisitionReceiptDigest
    tokenDigest := intent.tokenDigest
    scopeDigest := intent.scopeDigest
    epoch := intent.epoch
    expectedInventoryRevision := intent.expectedInventoryRevision
    finalInventoryRevision := evidence.finalInventoryRevision
    releasedAt := evidence.releasedAt
    acknowledgedAt := evidence.acknowledgedAt
    durableAt := evidence.durableAt }
  receipt.postInit
  validateReleaseReceiptBinding receipt intent
  return receipt

/-- `FenceReleaseNoEffectReceipt.create`. -/
def FenceReleaseNoEffectReceipt.create (intent : FenceReleaseIntent)
    (evidence : TombstoneEvidence) : Except PyError FenceReleaseNoEffectReceipt := do
  intent.postInit
  let receipt := ofFields {
    operationId := intent.operationId
    intentDigest := intent.intentDigest
    releaseAttempt := intent.releaseAttempt
    provider := intent.provider
    writerId := intent.writerId
    acquisitionOperationId := intent.acquisitionOperationId
    acquisitionReceiptId := intent.acquisitionReceiptId
    acquisitionReceiptDigest := intent.acquisitionReceiptDigest
    tokenDigest := intent.tokenDigest
    scopeDigest := intent.scopeDigest
    epoch := intent.epoch
    expectedInventoryRevision := intent.expectedInventoryRevision
    outcome := .noEffect
    evidence := .operationLedger
    acknowledgedAt := evidence.acknowledgedAt
    durableAt := evidence.durableAt
    durable := true }
  receipt.postInit
  validateReleaseNoEffectBinding receipt intent
  return receipt

theorem FenceAcquisitionReceipt.validFor_of_create {intent : FenceAcquisitionIntent}
    {evidence : AcquisitionEvidence} {receipt : FenceAcquisitionReceipt}
    (h : create intent evidence = .ok receipt) : receipt.ValidFor intent := by
  simp only [create, bind_unit_eq_ok, pure_eq_ok] at h
  obtain ⟨_, _, hvalid, rfl⟩ := h
  exact validateAcquisitionReceiptBinding_eq_ok.1 hvalid

theorem FenceAcquisitionNoEffectReceipt.validFor_of_create {intent : FenceAcquisitionIntent}
    {evidence : TombstoneEvidence} {receipt : FenceAcquisitionNoEffectReceipt}
    (h : create intent evidence = .ok receipt) : receipt.ValidFor intent := by
  simp only [create, bind_unit_eq_ok, pure_eq_ok] at h
  obtain ⟨_, _, hvalid, rfl⟩ := h
  exact validateAcquisitionNoEffectBinding_eq_ok.1 hvalid

theorem FenceReleaseReceipt.validFor_of_create {intent : FenceReleaseIntent}
    {evidence : ReleaseEvidence} {receipt : FenceReleaseReceipt}
    (h : create intent evidence = .ok receipt) : receipt.ValidFor intent := by
  simp only [create, bind_unit_eq_ok, pure_eq_ok] at h
  obtain ⟨_, _, hvalid, rfl⟩ := h
  exact validateReleaseReceiptBinding_eq_ok.1 hvalid

theorem FenceReleaseNoEffectReceipt.validFor_of_create {intent : FenceReleaseIntent}
    {evidence : TombstoneEvidence} {receipt : FenceReleaseNoEffectReceipt}
    (h : create intent evidence = .ok receipt) : receipt.ValidFor intent := by
  simp only [create, bind_unit_eq_ok, pure_eq_ok] at h
  obtain ⟨_, _, hvalid, rfl⟩ := h
  exact validateReleaseNoEffectBinding_eq_ok.1 hvalid

end

/-! ## State -/

/-- `InMemoryFenceAuthority`. -/
structure InMemoryFenceAuthority where
  bindings : Dict Provider FenceBinding := .empty
  highWater : Dict Provider ℤ := .empty
  acquisitions : Dict AcquireOperationId AcquisitionLifecycleReceipt := .empty
  releases : Dict ReleaseOperationId ReleaseLifecycleReceipt := .empty
  receiptIds : Dict ReceiptId OperationId := .empty

abbrev Authority := InMemoryFenceAuthority

/-- A method of the authority. -/
abbrev AuthorityMethod (α : Type) := Method Authority PyError α

namespace InMemoryFenceAuthority

/-- `current_binding`. -/
def currentBinding (authority : Authority) (provider : Provider) : Option FenceBinding :=
  authority.bindings.get? provider

/-- `self._high_water.get(provider, -1)`. -/
def epochHighWater (authority : Authority) (provider : Provider) : ℤ :=
  (authority.highWater.get? provider).getD (-1)

/-! ## Methods -/

section

variable [DigestJson]

/-- `_claim_receipt`. -/
def claimReceipt (receiptId : ReceiptId) (operationId : OperationId) : AuthorityMethod Unit := do
  let authority ← Method.get
  Method.require (∀ existing ∈ authority.receiptIds.get? receiptId, existing = operationId)
    (.journalConflict "Authority receipt ID is not immutable.")
  Method.modify fun authority =>
    { authority with receiptIds := authority.receiptIds.set receiptId operationId }

/-- `acquire`. -/
def acquire (intent : FenceAcquisitionIntent) (evidence : AcquisitionEvidence) :
    AuthorityMethod FenceAcquisitionReceipt := do
  intent.postInit
  let authority ← Method.get
  match authority.acquisitions.get? intent.operationId with
  | some (.noEffect _) =>
    Method.raise (.journalConflict "A tombstoned acquisition cannot later be applied.")
  | some (.applied existing) => do
    validateAcquisitionReceiptBinding existing intent
    return existing
  | none => do
    Method.require (authority.bindings.get? intent.provider = none)
      (.journalConflict "Provider already has an unreleased fence.")
    Method.require (authority.epochHighWater intent.provider < intent.epoch)
      (.journalConflict "Fence authority rejected epoch regression.")
    let receipt ← FenceAcquisitionReceipt.create intent evidence
    claimReceipt receipt.receiptId (.acquire intent.operationId)
    Method.modify fun authority =>
      { authority with
        acquisitions := authority.acquisitions.set intent.operationId (.applied receipt) }
    receipt.binding.postInit
    Method.modify fun authority =>
      { authority with
        bindings := authority.bindings.set intent.provider receipt.binding
        highWater := authority.highWater.set intent.provider intent.epoch }
    return receipt

/-- `tombstone_acquisition`. -/
def tombstoneAcquisition (intent : FenceAcquisitionIntent) (evidence : TombstoneEvidence) :
    AuthorityMethod FenceAcquisitionNoEffectReceipt := do
  intent.postInit
  let authority ← Method.get
  match authority.acquisitions.get? intent.operationId with
  | some (.applied _) =>
    Method.raise (.journalConflict "An applied acquisition cannot later be tombstoned.")
  | some (.noEffect existing) => do
    validateAcquisitionNoEffectBinding existing intent
    return existing
  | none => do
    Method.require (∀ current ∈ authority.bindings.get? intent.provider,
        current.acquisitionOperationId ≠ intent.operationId)
      (.journalConflict "An active acquired fence cannot be tombstoned as no-effect.")
    let receipt ← FenceAcquisitionNoEffectReceipt.create intent evidence
    claimReceipt receipt.receiptId (.acquire intent.operationId)
    Method.modify fun authority =>
      { authority with
        acquisitions := authority.acquisitions.set intent.operationId (.noEffect receipt)
        highWater := authority.highWater.set intent.provider
          (max intent.epoch (authority.epochHighWater intent.provider)) }
    return receipt

/-- The fence that a release owns: the one its provider grants now. -/
def OwnedBy (fence : FenceBinding) (intent : FenceReleaseIntent) : Prop :=
  fence.acquisitionOperationId = intent.acquisitionOperationId
    ∧ fence.acquisitionReceiptId = intent.acquisitionReceiptId
    ∧ fence.acquisitionReceiptDigest = intent.acquisitionReceiptDigest
    ∧ fence.tokenDigest = intent.tokenDigest
    ∧ fence.epoch = intent.epoch

instance (fence : FenceBinding) (intent : FenceReleaseIntent) : Decidable (OwnedBy fence intent) :=
  inferInstanceAs (Decidable (_ ∧ _ ∧ _ ∧ _ ∧ _))

/-- The checks of `release` against the current binding. -/
def requireOwned (current : Option FenceBinding) (intent : FenceReleaseIntent) :
    Except PyError Unit :=
  match current with
  | none => .error (.journalConflict "Release does not own the current fence.")
  | some fence => do
    check (OwnedBy fence intent) (.journalConflict "Release does not own the current fence.")
    check (fence.acquiredAt ≤ intent.requestedAt)
      (.journalConflict "Release request predates fence acquisition.")

/-- `release`. -/
def release (intent : FenceReleaseIntent) (evidence : ReleaseEvidence) :
    AuthorityMethod FenceReleaseReceipt := do
  intent.postInit
  let authority ← Method.get
  match authority.releases.get? intent.operationId with
  | some (.noEffect _) =>
    Method.raise (.journalConflict "A tombstoned release cannot later apply.")
  | some (.applied existing) => do
    validateReleaseReceiptBinding existing intent
    return existing
  | none => do
    requireOwned (authority.bindings.get? intent.provider) intent
    let receipt ← FenceReleaseReceipt.create intent evidence
    claimReceipt receipt.receiptId (.release intent.operationId)
    Method.modify fun authority =>
      { authority with
        releases := authority.releases.set intent.operationId (.applied receipt)
        bindings := authority.bindings.erase intent.provider }
    return receipt

/-- `tombstone_release`. -/
def tombstoneRelease (intent : FenceReleaseIntent) (evidence : TombstoneEvidence) :
    AuthorityMethod FenceReleaseNoEffectReceipt := do
  intent.postInit
  let authority ← Method.get
  match authority.releases.get? intent.operationId with
  | some (.applied _) =>
    Method.raise (.journalConflict "An applied release cannot be tombstoned.")
  | some (.noEffect existing) => do
    validateReleaseNoEffectBinding existing intent
    return existing
  | none => do
    Method.require (bindingMatchesRelease (authority.bindings.get? intent.provider) intent)
      (.journalConflict "Release tombstone requires the exact fence to remain held.")
    let receipt ← FenceReleaseNoEffectReceipt.create intent evidence
    claimReceipt receipt.receiptId (.release intent.operationId)
    Method.modify fun authority =>
      { authority with releases := authority.releases.set intent.operationId (.noEffect receipt) }
    return receipt

/-! ## What one call does -/

variable {authority next : Authority}

omit [DigestJson] in
theorem run_claimReceipt {receiptId : ReceiptId} {operationId : OperationId}
    {result : Except PyError Unit}
    (h : (claimReceipt receiptId operationId).run authority = (result, next)) :
    (∃ e, result = .error e ∧ next = authority)
      ∨ result = .ok () ∧ next
        = { authority with receiptIds := authority.receiptIds.set receiptId operationId } := by
  rw [claimReceipt, Method.run_get_bind] at h
  rcases Method.run_require_bind_cases h with herror | ⟨_, h⟩
  · exact Or.inl herror
  · obtain ⟨rfl, rfl⟩ := Prod.mk.inj h
    exact Or.inr ⟨rfl, rfl⟩

/-- An acquisition of the ledger is not touched again; a call for it returns what is stored. -/
theorem acquire_settled {intent : FenceAcquisitionIntent} {evidence : AcquisitionEvidence}
    {existing : AcquisitionLifecycleReceipt} {result : Except PyError FenceAcquisitionReceipt}
    (hexisting : authority.acquisitions.get? intent.operationId = some existing)
    (h : (acquire intent evidence).run authority = (result, next)) :
    next = authority ∧ ∀ receipt, result = .ok receipt →
      existing = .applied receipt ∧ receipt.ValidFor intent := by
  rcases Method.run_lift_bind_cases h with ⟨e, rfl, rfl⟩ | ⟨_, _, h⟩
  · exact ⟨rfl, fun _ hok => by cases hok⟩
  rw [Method.run_get_bind, hexisting] at h
  cases existing with
  | noEffect tombstone =>
    obtain ⟨rfl, rfl⟩ := Prod.mk.inj h
    exact ⟨rfl, fun _ hok => by cases hok⟩
  | applied existing =>
    rcases Method.run_lift_bind_cases h with ⟨e, rfl, rfl⟩ | ⟨_, hcheck, h⟩
    · exact ⟨rfl, fun _ hok => by cases hok⟩
    · obtain ⟨rfl, rfl⟩ := Prod.mk.inj h
      have hvalid := validateAcquisitionReceiptBinding_eq_ok.1 hcheck
      exact ⟨rfl, fun _ hok => by cases hok; exact ⟨rfl, hvalid⟩⟩

/-- The authority after a newly applied acquisition. -/
def acquired (authority : Authority) (receipt : FenceAcquisitionReceipt)
    (receiptIds : Dict ReceiptId OperationId) : Authority where
  bindings := authority.bindings.set receipt.provider receipt.binding
  highWater := authority.highWater.set receipt.provider receipt.epoch
  acquisitions := authority.acquisitions.set receipt.operationId (.applied receipt)
  releases := authority.releases
  receiptIds := receiptIds

/-- A call for an unknown acquisition raises and changes nothing, or applies it. -/
theorem acquire_fresh {intent : FenceAcquisitionIntent} {evidence : AcquisitionEvidence}
    {result : Except PyError FenceAcquisitionReceipt}
    (hfresh : authority.acquisitions.get? intent.operationId = none)
    (h : (acquire intent evidence).run authority = (result, next)) :
    (∃ e, result = .error e ∧ next = authority)
      ∨ ∃ receipt receiptIds, result = .ok receipt ∧ receipt.ValidFor intent
        ∧ authority.bindings.get? intent.provider = none
        ∧ authority.epochHighWater intent.provider < intent.epoch
        ∧ next = authority.acquired receipt receiptIds := by
  rcases Method.run_lift_bind_cases h with herror | ⟨_, _, h⟩
  · exact Or.inl herror
  rw [Method.run_get_bind, hfresh] at h
  rcases Method.run_require_bind_cases h with herror | ⟨hfree, h⟩
  · exact Or.inl herror
  rcases Method.run_require_bind_cases h with herror | ⟨hepoch, h⟩
  · exact Or.inl herror
  rcases Method.run_lift_bind_cases h with herror | ⟨receipt, hcreate, h⟩
  · exact Or.inl herror
  have hvalid := FenceAcquisitionReceipt.validFor_of_create hcreate
  rcases Method.run_bind_cases h with ⟨e, hclaim, rfl⟩ | ⟨_, claimed, hclaim, h⟩
  · rcases run_claimReceipt hclaim with ⟨_, _, hnext⟩ | ⟨hok, _⟩
    · exact Or.inl ⟨e, rfl, hnext⟩
    · cases hok
  rcases run_claimReceipt hclaim with ⟨_, herror, _⟩ | ⟨_, hclaimed⟩
  · cases herror
  rw [Method.run_modify_bind] at h
  -- the binding of a valid receipt is valid, so nothing raises after the first assignment
  have hbinding : receipt.binding.postInit = .ok () :=
    FenceBinding.postInit_eq_ok.2 hvalid.receipt_wf.binding
  rw [hbinding] at h
  obtain ⟨rfl, rfl⟩ := Prod.mk.inj h
  refine Or.inr ⟨receipt, claimed.receiptIds, rfl, hvalid, hfree, hepoch, ?_⟩
  rw [hclaimed, acquired, hvalid.provider_eq, hvalid.operationId_eq, hvalid.epoch_eq]

theorem acquire_replay {intent : FenceAcquisitionIntent} {evidence : AcquisitionEvidence}
    {receipt : FenceAcquisitionReceipt} (hvalid : receipt.ValidFor intent)
    (hstored : authority.acquisitions.get? intent.operationId = some (.applied receipt)) :
    (acquire intent evidence).run authority = (.ok receipt, authority) := by
  have hintent := FenceAcquisitionIntent.postInit_eq_ok.2 hvalid.intent_wf
  have hreceipt := validateAcquisitionReceiptBinding_eq_ok.2 hvalid
  rw [acquire, Method.run_bind_of_ok (Method.run_lift_ok.2 ⟨hintent, rfl⟩), Method.run_get_bind,
    hstored]
  exact Method.run_bind_ok.2 ⟨(), authority, Method.run_lift_ok.2 ⟨hreceipt, rfl⟩, rfl⟩

/-- A tombstone of the ledger is not touched again; a call for it returns what is stored. -/
theorem tombstoneAcquisition_settled {intent : FenceAcquisitionIntent}
    {evidence : TombstoneEvidence} {existing : AcquisitionLifecycleReceipt}
    {result : Except PyError FenceAcquisitionNoEffectReceipt}
    (hexisting : authority.acquisitions.get? intent.operationId = some existing)
    (h : (tombstoneAcquisition intent evidence).run authority = (result, next)) :
    next = authority ∧ ∀ receipt, result = .ok receipt →
      existing = .noEffect receipt ∧ receipt.ValidFor intent := by
  rcases Method.run_lift_bind_cases h with ⟨e, rfl, rfl⟩ | ⟨_, _, h⟩
  · exact ⟨rfl, fun _ hok => by cases hok⟩
  rw [Method.run_get_bind, hexisting] at h
  cases existing with
  | applied existing =>
    obtain ⟨rfl, rfl⟩ := Prod.mk.inj h
    exact ⟨rfl, fun _ hok => by cases hok⟩
  | noEffect existing =>
    rcases Method.run_lift_bind_cases h with ⟨e, rfl, rfl⟩ | ⟨_, hcheck, h⟩
    · exact ⟨rfl, fun _ hok => by cases hok⟩
    · obtain ⟨rfl, rfl⟩ := Prod.mk.inj h
      have hvalid := validateAcquisitionNoEffectBinding_eq_ok.1 hcheck
      exact ⟨rfl, fun _ hok => by cases hok; exact ⟨rfl, hvalid⟩⟩

/-- The authority after a new tombstone of an acquisition. -/
def acquisitionTombstoned (authority : Authority) (receipt : FenceAcquisitionNoEffectReceipt)
    (receiptIds : Dict ReceiptId OperationId) : Authority where
  bindings := authority.bindings
  highWater := authority.highWater.set receipt.provider
    (max receipt.epoch (authority.epochHighWater receipt.provider))
  acquisitions := authority.acquisitions.set receipt.operationId (.noEffect receipt)
  releases := authority.releases
  receiptIds := receiptIds

/-- A call for an unknown acquisition raises and changes nothing, or tombstones it. -/
theorem tombstoneAcquisition_fresh {intent : FenceAcquisitionIntent}
    {evidence : TombstoneEvidence} {result : Except PyError FenceAcquisitionNoEffectReceipt}
    (hfresh : authority.acquisitions.get? intent.operationId = none)
    (h : (tombstoneAcquisition intent evidence).run authority = (result, next)) :
    (∃ e, result = .error e ∧ next = authority)
      ∨ ∃ receipt receiptIds, result = .ok receipt ∧ receipt.ValidFor intent
        ∧ next = authority.acquisitionTombstoned receipt receiptIds := by
  rcases Method.run_lift_bind_cases h with herror | ⟨_, _, h⟩
  · exact Or.inl herror
  rw [Method.run_get_bind, hfresh] at h
  rcases Method.run_require_bind_cases h with herror | ⟨_, h⟩
  · exact Or.inl herror
  rcases Method.run_lift_bind_cases h with herror | ⟨receipt, hcreate, h⟩
  · exact Or.inl herror
  have hvalid := FenceAcquisitionNoEffectReceipt.validFor_of_create hcreate
  rcases Method.run_bind_cases h with ⟨e, hclaim, rfl⟩ | ⟨_, claimed, hclaim, h⟩
  · rcases run_claimReceipt hclaim with ⟨_, _, hnext⟩ | ⟨hok, _⟩
    · exact Or.inl ⟨e, rfl, hnext⟩
    · cases hok
  rcases run_claimReceipt hclaim with ⟨_, herror, _⟩ | ⟨_, hclaimed⟩
  · cases herror
  obtain ⟨rfl, rfl⟩ := Prod.mk.inj h
  refine Or.inr ⟨receipt, claimed.receiptIds, rfl, hvalid, ?_⟩
  rw [hclaimed, acquisitionTombstoned, hvalid.provider_eq, hvalid.operationId_eq, hvalid.epoch_eq]
  rfl

theorem tombstoneAcquisition_replay {intent : FenceAcquisitionIntent}
    {evidence : TombstoneEvidence} {receipt : FenceAcquisitionNoEffectReceipt}
    (hvalid : receipt.ValidFor intent)
    (hstored : authority.acquisitions.get? intent.operationId = some (.noEffect receipt)) :
    (tombstoneAcquisition intent evidence).run authority = (.ok receipt, authority) := by
  have hintent := FenceAcquisitionIntent.postInit_eq_ok.2 hvalid.intent_wf
  have hreceipt := validateAcquisitionNoEffectBinding_eq_ok.2 hvalid
  rw [tombstoneAcquisition, Method.run_bind_of_ok (Method.run_lift_ok.2 ⟨hintent, rfl⟩),
    Method.run_get_bind, hstored]
  exact Method.run_bind_ok.2 ⟨(), authority, Method.run_lift_ok.2 ⟨hreceipt, rfl⟩, rfl⟩

/-- A release of the ledger is not touched again; a call for it returns what is stored. -/
theorem release_settled {intent : FenceReleaseIntent} {evidence : ReleaseEvidence}
    {existing : ReleaseLifecycleReceipt} {result : Except PyError FenceReleaseReceipt}
    (hexisting : authority.releases.get? intent.operationId = some existing)
    (h : (release intent evidence).run authority = (result, next)) :
    next = authority ∧ ∀ receipt, result = .ok receipt →
      existing = .applied receipt ∧ receipt.ValidFor intent := by
  rcases Method.run_lift_bind_cases h with ⟨e, rfl, rfl⟩ | ⟨_, _, h⟩
  · exact ⟨rfl, fun _ hok => by cases hok⟩
  rw [Method.run_get_bind, hexisting] at h
  cases existing with
  | noEffect tombstone =>
    obtain ⟨rfl, rfl⟩ := Prod.mk.inj h
    exact ⟨rfl, fun _ hok => by cases hok⟩
  | applied existing =>
    rcases Method.run_lift_bind_cases h with ⟨e, rfl, rfl⟩ | ⟨_, hcheck, h⟩
    · exact ⟨rfl, fun _ hok => by cases hok⟩
    · obtain ⟨rfl, rfl⟩ := Prod.mk.inj h
      have hvalid := validateReleaseReceiptBinding_eq_ok.1 hcheck
      exact ⟨rfl, fun _ hok => by cases hok; exact ⟨rfl, hvalid⟩⟩

/-- The authority after a newly applied release. -/
def released (authority : Authority) (receipt : FenceReleaseReceipt)
    (receiptIds : Dict ReceiptId OperationId) : Authority where
  bindings := authority.bindings.erase receipt.provider
  highWater := authority.highWater
  acquisitions := authority.acquisitions
  releases := authority.releases.set receipt.operationId (.applied receipt)
  receiptIds := receiptIds

omit [DigestJson] in
theorem requireOwned_eq_ok {current : Option FenceBinding} {intent : FenceReleaseIntent} {u : Unit}
    (h : requireOwned current intent = .ok u) :
    ∃ fence, current = some fence ∧ OwnedBy fence intent := by
  cases current with
  | none => cases h
  | some fence =>
    simp only [requireOwned, bind_unit_eq_ok, check_eq_ok] at h
    exact ⟨fence, rfl, h.1⟩

/-- A call for an unknown release raises and changes nothing, or releases the current fence. -/
theorem release_fresh {intent : FenceReleaseIntent} {evidence : ReleaseEvidence}
    {result : Except PyError FenceReleaseReceipt}
    (hfresh : authority.releases.get? intent.operationId = none)
    (h : (release intent evidence).run authority = (result, next)) :
    (∃ e, result = .error e ∧ next = authority)
      ∨ ∃ receipt receiptIds fence, result = .ok receipt ∧ receipt.ValidFor intent
        ∧ authority.bindings.get? intent.provider = some fence ∧ OwnedBy fence intent
        ∧ next = authority.released receipt receiptIds := by
  rcases Method.run_lift_bind_cases h with herror | ⟨_, _, h⟩
  · exact Or.inl herror
  rw [Method.run_get_bind, hfresh] at h
  rcases Method.run_lift_bind_cases h with herror | ⟨_, howned, h⟩
  · exact Or.inl herror
  obtain ⟨fence, hfence, howned⟩ := requireOwned_eq_ok howned
  rcases Method.run_lift_bind_cases h with herror | ⟨receipt, hcreate, h⟩
  · exact Or.inl herror
  have hvalid := FenceReleaseReceipt.validFor_of_create hcreate
  rcases Method.run_bind_cases h with ⟨e, hclaim, rfl⟩ | ⟨_, claimed, hclaim, h⟩
  · rcases run_claimReceipt hclaim with ⟨_, _, hnext⟩ | ⟨hok, _⟩
    · exact Or.inl ⟨e, rfl, hnext⟩
    · cases hok
  rcases run_claimReceipt hclaim with ⟨_, herror, _⟩ | ⟨_, hclaimed⟩
  · cases herror
  obtain ⟨rfl, rfl⟩ := Prod.mk.inj h
  refine Or.inr ⟨receipt, claimed.receiptIds, fence, rfl, hvalid, hfence, howned, ?_⟩
  rw [hclaimed, released, hvalid.provider_eq, hvalid.operationId_eq]

theorem release_replay {intent : FenceReleaseIntent} {evidence : ReleaseEvidence}
    {receipt : FenceReleaseReceipt} (hvalid : receipt.ValidFor intent)
    (hstored : authority.releases.get? intent.operationId = some (.applied receipt)) :
    (release intent evidence).run authority = (.ok receipt, authority) := by
  have hintent := FenceReleaseIntent.postInit_eq_ok.2 hvalid.intent_wf
  have hreceipt := validateReleaseReceiptBinding_eq_ok.2 hvalid
  rw [release, Method.run_bind_of_ok (Method.run_lift_ok.2 ⟨hintent, rfl⟩), Method.run_get_bind,
    hstored]
  exact Method.run_bind_ok.2 ⟨(), authority, Method.run_lift_ok.2 ⟨hreceipt, rfl⟩, rfl⟩

/-- A release tombstone of the ledger is not touched again. -/
theorem tombstoneRelease_settled {intent : FenceReleaseIntent} {evidence : TombstoneEvidence}
    {existing : ReleaseLifecycleReceipt} {result : Except PyError FenceReleaseNoEffectReceipt}
    (hexisting : authority.releases.get? intent.operationId = some existing)
    (h : (tombstoneRelease intent evidence).run authority = (result, next)) :
    next = authority ∧ ∀ receipt, result = .ok receipt →
      existing = .noEffect receipt ∧ receipt.ValidFor intent := by
  rcases Method.run_lift_bind_cases h with ⟨e, rfl, rfl⟩ | ⟨_, _, h⟩
  · exact ⟨rfl, fun _ hok => by cases hok⟩
  rw [Method.run_get_bind, hexisting] at h
  cases existing with
  | applied existing =>
    obtain ⟨rfl, rfl⟩ := Prod.mk.inj h
    exact ⟨rfl, fun _ hok => by cases hok⟩
  | noEffect existing =>
    rcases Method.run_lift_bind_cases h with ⟨e, rfl, rfl⟩ | ⟨_, hcheck, h⟩
    · exact ⟨rfl, fun _ hok => by cases hok⟩
    · obtain ⟨rfl, rfl⟩ := Prod.mk.inj h
      have hvalid := validateReleaseNoEffectBinding_eq_ok.1 hcheck
      exact ⟨rfl, fun _ hok => by cases hok; exact ⟨rfl, hvalid⟩⟩

/-- The authority after a new tombstone of a release. -/
def releaseTombstoned (authority : Authority) (receipt : FenceReleaseNoEffectReceipt)
    (receiptIds : Dict ReceiptId OperationId) : Authority where
  bindings := authority.bindings
  highWater := authority.highWater
  acquisitions := authority.acquisitions
  releases := authority.releases.set receipt.operationId (.noEffect receipt)
  receiptIds := receiptIds

/-- A call for an unknown release raises and changes nothing, or tombstones it. -/
theorem tombstoneRelease_fresh {intent : FenceReleaseIntent} {evidence : TombstoneEvidence}
    {result : Except PyError FenceReleaseNoEffectReceipt}
    (hfresh : authority.releases.get? intent.operationId = none)
    (h : (tombstoneRelease intent evidence).run authority = (result, next)) :
    (∃ e, result = .error e ∧ next = authority)
      ∨ ∃ receipt receiptIds, result = .ok receipt ∧ receipt.ValidFor intent
        ∧ next = authority.releaseTombstoned receipt receiptIds := by
  rcases Method.run_lift_bind_cases h with herror | ⟨_, _, h⟩
  · exact Or.inl herror
  rw [Method.run_get_bind, hfresh] at h
  rcases Method.run_require_bind_cases h with herror | ⟨_, h⟩
  · exact Or.inl herror
  rcases Method.run_lift_bind_cases h with herror | ⟨receipt, hcreate, h⟩
  · exact Or.inl herror
  have hvalid := FenceReleaseNoEffectReceipt.validFor_of_create hcreate
  rcases Method.run_bind_cases h with ⟨e, hclaim, rfl⟩ | ⟨_, claimed, hclaim, h⟩
  · rcases run_claimReceipt hclaim with ⟨_, _, hnext⟩ | ⟨hok, _⟩
    · exact Or.inl ⟨e, rfl, hnext⟩
    · cases hok
  rcases run_claimReceipt hclaim with ⟨_, herror, _⟩ | ⟨_, hclaimed⟩
  · cases herror
  obtain ⟨rfl, rfl⟩ := Prod.mk.inj h
  refine Or.inr ⟨receipt, claimed.receiptIds, rfl, hvalid, ?_⟩
  rw [hclaimed, releaseTombstoned, hvalid.operationId_eq]

theorem tombstoneRelease_replay {intent : FenceReleaseIntent} {evidence : TombstoneEvidence}
    {receipt : FenceReleaseNoEffectReceipt} (hvalid : receipt.ValidFor intent)
    (hstored : authority.releases.get? intent.operationId = some (.noEffect receipt)) :
    (tombstoneRelease intent evidence).run authority = (.ok receipt, authority) := by
  have hintent := FenceReleaseIntent.postInit_eq_ok.2 hvalid.intent_wf
  have hreceipt := validateReleaseNoEffectBinding_eq_ok.2 hvalid
  rw [tombstoneRelease, Method.run_bind_of_ok (Method.run_lift_ok.2 ⟨hintent, rfl⟩),
    Method.run_get_bind, hstored]
  exact Method.run_bind_ok.2 ⟨(), authority, Method.run_lift_ok.2 ⟨hreceipt, rfl⟩, rfl⟩

end

end InMemoryFenceAuthority

/-! ## Calls -/

/-- A call of the authority, with its arguments. -/
inductive AuthorityCall
  | acquire (intent : FenceAcquisitionIntent) (evidence : AcquisitionEvidence)
  | tombstoneAcquisition (intent : FenceAcquisitionIntent) (evidence : TombstoneEvidence)
  | release (intent : FenceReleaseIntent) (evidence : ReleaseEvidence)
  | tombstoneRelease (intent : FenceReleaseIntent) (evidence : TombstoneEvidence)

/-- A receipt of either ledger. -/
inductive AuthorityReceipt
  | acquisition (receipt : AcquisitionLifecycleReceipt)
  | release (receipt : ReleaseLifecycleReceipt)

/-- The two calls name one operation and settle it in the same way; the evidence may differ. -/
def AuthorityCall.Replays : AuthorityCall → AuthorityCall → Prop
  | .acquire intent _, .acquire again _ => again = intent
  | .tombstoneAcquisition intent _, .tombstoneAcquisition again _ => again = intent
  | .release intent _, .release again _ => again = intent
  | .tombstoneRelease intent _, .tombstoneRelease again _ => again = intent
  | _, _ => False

namespace InMemoryFenceAuthority

/-- The receipt that the ledgers hold for the operation of a call. -/
def receipt? (authority : Authority) : AuthorityCall → Option AuthorityReceipt
  | .acquire intent _ | .tombstoneAcquisition intent _ =>
    (authority.acquisitions.get? intent.operationId).map .acquisition
  | .release intent _ | .tombstoneRelease intent _ =>
    (authority.releases.get? intent.operationId).map .release

section

variable [DigestJson]

/-- Run one call. -/
def exec : AuthorityCall → AuthorityMethod AuthorityReceipt
  | .acquire intent evidence => (fun r => .acquisition (.applied r)) <$> acquire intent evidence
  | .tombstoneAcquisition intent evidence =>
    (fun r => .acquisition (.noEffect r)) <$> tombstoneAcquisition intent evidence
  | .release intent evidence => (fun r => .release (.applied r)) <$> release intent evidence
  | .tombstoneRelease intent evidence =>
    (fun r => .release (.noEffect r)) <$> tombstoneRelease intent evidence

/-- One call, which returns or raises. -/
def Step (authority next : Authority) : Prop :=
  ∃ call result, (exec call).run authority = (result, next)

/-- Some sequence of calls leads from one state to the other. -/
def Steps : Authority → Authority → Prop := Relation.ReflTransGen Step

/-- The receipt is one that the call may return. -/
def Answers : AuthorityCall → AuthorityReceipt → Prop
  | .acquire intent _, .acquisition (.applied receipt) => receipt.ValidFor intent
  | .tombstoneAcquisition intent _, .acquisition (.noEffect receipt) => receipt.ValidFor intent
  | .release intent _, .release (.applied receipt) => receipt.ValidFor intent
  | .tombstoneRelease intent _, .release (.noEffect receipt) => receipt.ValidFor intent
  | _, _ => False

omit [DigestJson] in
theorem receipt?_replays {call again : AuthorityCall} (h : call.Replays again)
    (authority : Authority) : authority.receipt? again = authority.receipt? call := by
  cases call <;> cases again <;> first | exact h.elim | (cases h; rfl)

theorem answers_replays {call again : AuthorityCall} (h : call.Replays again)
    {receipt : AuthorityReceipt} (hreceipt : Answers call receipt) : Answers again receipt := by
  have heq : Answers again = Answers call := by
    cases call <;> cases again <;> first
      | exact h.elim
      | (cases h; funext receipt; rcases receipt with (_ | _) | (_ | _) <;> rfl)
  rw [heq]
  exact hreceipt

/-! ## Changes -/

/-- What one call can do to the authority. -/
inductive AuthorityChange (authority : Authority) : Authority → Prop
  | same : AuthorityChange authority authority
  | acquired {receipt receiptIds} :
      authority.acquisitions.get? receipt.operationId = none →
      authority.bindings.get? receipt.provider = none →
      authority.epochHighWater receipt.provider < receipt.epoch →
      AuthorityChange authority (authority.acquired receipt receiptIds)
  | acquisitionTombstoned {receipt receiptIds} :
      authority.acquisitions.get? receipt.operationId = none →
      AuthorityChange authority (authority.acquisitionTombstoned receipt receiptIds)
  | released {receipt receiptIds fence} :
      authority.releases.get? receipt.operationId = none →
      authority.bindings.get? receipt.provider = some fence →
      fence.acquisitionOperationId = receipt.acquisitionOperationId →
      AuthorityChange authority (authority.released receipt receiptIds)
  | releaseTombstoned {receipt receiptIds} :
      authority.releases.get? receipt.operationId = none →
      AuthorityChange authority (authority.releaseTombstoned receipt receiptIds)

variable {authority next : Authority}

/-- A call for a settled operation changes nothing, and returns nothing but what is stored. -/
theorem exec_settled {call : AuthorityCall} {stored : AuthorityReceipt}
    {result : Except PyError AuthorityReceipt} (hstored : authority.receipt? call = some stored)
    (h : (exec call).run authority = (result, next)) :
    next = authority ∧
      ∀ receipt, result = .ok receipt → stored = receipt ∧ Answers call receipt := by
  cases call with
  | acquire intent evidence =>
    obtain ⟨existing, hexisting, rfl⟩ := Option.map_eq_some_iff.1 hstored
    obtain ⟨inner, hinner, hresult⟩ := Method.run_map_cases h
    obtain ⟨hnext, hok⟩ := acquire_settled hexisting hinner
    refine ⟨hnext, fun receipt hreceipt => ?_⟩
    obtain ⟨r, hr, rfl⟩ := (hresult receipt).1 hreceipt
    exact ⟨congrArg _ (hok r hr).1, (hok r hr).2⟩
  | tombstoneAcquisition intent evidence =>
    obtain ⟨existing, hexisting, rfl⟩ := Option.map_eq_some_iff.1 hstored
    obtain ⟨inner, hinner, hresult⟩ := Method.run_map_cases h
    obtain ⟨hnext, hok⟩ := tombstoneAcquisition_settled hexisting hinner
    refine ⟨hnext, fun receipt hreceipt => ?_⟩
    obtain ⟨r, hr, rfl⟩ := (hresult receipt).1 hreceipt
    exact ⟨congrArg _ (hok r hr).1, (hok r hr).2⟩
  | release intent evidence =>
    obtain ⟨existing, hexisting, rfl⟩ := Option.map_eq_some_iff.1 hstored
    obtain ⟨inner, hinner, hresult⟩ := Method.run_map_cases h
    obtain ⟨hnext, hok⟩ := release_settled hexisting hinner
    refine ⟨hnext, fun receipt hreceipt => ?_⟩
    obtain ⟨r, hr, rfl⟩ := (hresult receipt).1 hreceipt
    exact ⟨congrArg _ (hok r hr).1, (hok r hr).2⟩
  | tombstoneRelease intent evidence =>
    obtain ⟨existing, hexisting, rfl⟩ := Option.map_eq_some_iff.1 hstored
    obtain ⟨inner, hinner, hresult⟩ := Method.run_map_cases h
    obtain ⟨hnext, hok⟩ := tombstoneRelease_settled hexisting hinner
    refine ⟨hnext, fun receipt hreceipt => ?_⟩
    obtain ⟨r, hr, rfl⟩ := (hresult receipt).1 hreceipt
    exact ⟨congrArg _ (hok r hr).1, (hok r hr).2⟩

omit [DigestJson] in
/-- A result that is the image of a raise is a raise. -/
theorem error_of_map {α : Type} {f : α → AuthorityReceipt} {inner : Except PyError α}
    {result : Except PyError AuthorityReceipt}
    (hresult : ∀ b, result = .ok b ↔ ∃ a, inner = .ok a ∧ f a = b)
    (hinner : ∃ e, inner = .error e) : ∃ e, result = .error e := by
  obtain ⟨e, rfl⟩ := hinner
  cases result with
  | error e => exact ⟨e, rfl⟩
  | ok b =>
    obtain ⟨a, ha, _⟩ := (hresult b).1 rfl
    cases ha

/-- A call for an unknown operation changes nothing, or settles the operation. -/
theorem exec_fresh {call : AuthorityCall} {result : Except PyError AuthorityReceipt}
    (hfresh : authority.receipt? call = none) (h : (exec call).run authority = (result, next)) :
    ((∃ e, result = .error e) ∧ next = authority)
      ∨ ∃ receipt, result = .ok receipt ∧ Answers call receipt ∧ next.receipt? call = some receipt
        ∧ AuthorityChange authority next := by
  cases call with
  -- in each case the call raised, or it stored the receipt that it returns
  | acquire intent evidence =>
    have hnone := Option.map_eq_none_iff.1 hfresh
    obtain ⟨inner, hinner, hresult⟩ := Method.run_map_cases h
    rcases acquire_fresh hnone hinner with ⟨e, he, hnext⟩
      | ⟨receipt, ids, hok, hvalid, hfree, hepoch, rfl⟩
    · exact Or.inl ⟨error_of_map hresult ⟨e, he⟩, hnext⟩
    · refine Or.inr ⟨_, (hresult _).2 ⟨receipt, hok, rfl⟩, hvalid, ?_, ?_⟩
      · show (((authority.acquired receipt ids).acquisitions.get? intent.operationId).map _) = _
        rw [acquired, hvalid.operationId_eq, Dict.get?_set_self, Option.map_some]
      · rw [← hvalid.operationId_eq] at hnone
        rw [← hvalid.provider_eq] at hfree hepoch
        rw [← hvalid.epoch_eq] at hepoch
        exact .acquired hnone hfree hepoch
  | tombstoneAcquisition intent evidence =>
    have hnone := Option.map_eq_none_iff.1 hfresh
    obtain ⟨inner, hinner, hresult⟩ := Method.run_map_cases h
    rcases tombstoneAcquisition_fresh hnone hinner with ⟨e, he, hnext⟩
      | ⟨receipt, ids, hok, hvalid, rfl⟩
    · exact Or.inl ⟨error_of_map hresult ⟨e, he⟩, hnext⟩
    · refine Or.inr ⟨_, (hresult _).2 ⟨receipt, hok, rfl⟩, hvalid, ?_, ?_⟩
      · show (((authority.acquisitionTombstoned receipt ids).acquisitions.get?
          intent.operationId).map _) = _
        rw [acquisitionTombstoned, hvalid.operationId_eq, Dict.get?_set_self, Option.map_some]
      · rw [← hvalid.operationId_eq] at hnone
        exact .acquisitionTombstoned hnone
  | release intent evidence =>
    have hnone := Option.map_eq_none_iff.1 hfresh
    obtain ⟨inner, hinner, hresult⟩ := Method.run_map_cases h
    rcases release_fresh hnone hinner with ⟨e, he, hnext⟩
      | ⟨receipt, ids, fence, hok, hvalid, hfence, howned, rfl⟩
    · exact Or.inl ⟨error_of_map hresult ⟨e, he⟩, hnext⟩
    · refine Or.inr ⟨_, (hresult _).2 ⟨receipt, hok, rfl⟩, hvalid, ?_, ?_⟩
      · show (((authority.released receipt ids).releases.get? intent.operationId).map _) = _
        rw [released, hvalid.operationId_eq, Dict.get?_set_self, Option.map_some]
      · rw [← hvalid.operationId_eq] at hnone
        rw [← hvalid.provider_eq] at hfence
        exact .released hnone hfence (howned.1.trans hvalid.acquisitionOperationId_eq.symm)
  | tombstoneRelease intent evidence =>
    have hnone := Option.map_eq_none_iff.1 hfresh
    obtain ⟨inner, hinner, hresult⟩ := Method.run_map_cases h
    rcases tombstoneRelease_fresh hnone hinner with ⟨e, he, hnext⟩
      | ⟨receipt, ids, hok, hvalid, rfl⟩
    · exact Or.inl ⟨error_of_map hresult ⟨e, he⟩, hnext⟩
    · refine Or.inr ⟨_, (hresult _).2 ⟨receipt, hok, rfl⟩, hvalid, ?_, ?_⟩
      · show (((authority.releaseTombstoned receipt ids).releases.get?
          intent.operationId).map _) = _
        rw [releaseTombstoned, hvalid.operationId_eq, Dict.get?_set_self, Option.map_some]
      · rw [← hvalid.operationId_eq] at hnone
        exact .releaseTombstoned hnone

theorem exec_replay {call : AuthorityCall} {receipt : AuthorityReceipt}
    (hanswers : Answers call receipt) (hstored : authority.receipt? call = some receipt) :
    (exec call).run authority = (.ok receipt, authority) := by
  cases call with
  | acquire intent evidence =>
    obtain ⟨existing, hexisting, rfl⟩ := Option.map_eq_some_iff.1 hstored
    cases existing with
    | noEffect _ => exact hanswers.elim
    | applied existing =>
      exact Method.run_map_ok.2 ⟨existing, acquire_replay hanswers hexisting, rfl⟩
  | tombstoneAcquisition intent evidence =>
    obtain ⟨existing, hexisting, rfl⟩ := Option.map_eq_some_iff.1 hstored
    cases existing with
    | applied _ => exact hanswers.elim
    | noEffect existing =>
      exact Method.run_map_ok.2 ⟨existing, tombstoneAcquisition_replay hanswers hexisting, rfl⟩
  | release intent evidence =>
    obtain ⟨existing, hexisting, rfl⟩ := Option.map_eq_some_iff.1 hstored
    cases existing with
    | noEffect _ => exact hanswers.elim
    | applied existing =>
      exact Method.run_map_ok.2 ⟨existing, release_replay hanswers hexisting, rfl⟩
  | tombstoneRelease intent evidence =>
    obtain ⟨existing, hexisting, rfl⟩ := Option.map_eq_some_iff.1 hstored
    cases existing with
    | applied _ => exact hanswers.elim
    | noEffect existing =>
      exact Method.run_map_ok.2 ⟨existing, tombstoneRelease_replay hanswers hexisting, rfl⟩

/-- Every call changes the authority in one of the ways of `AuthorityChange`. -/
theorem Step.change (h : Step authority next) : AuthorityChange authority next := by
  obtain ⟨call, result, hrun⟩ := h
  cases hstored : authority.receipt? call with
  | some stored =>
    rw [(exec_settled hstored hrun).1]
    exact .same
  | none =>
    rcases exec_fresh hstored hrun with ⟨_, rfl⟩ | ⟨_, _, _, _, hchange⟩
    · exact .same
    · exact hchange

end

end InMemoryFenceAuthority

/-! ## Exclusivity -/

/-- The receipt of an acknowledgement. -/
def LifecycleReceipt.applied? {α ν : Type} : LifecycleReceipt α ν → Option α
  | .applied receipt => some receipt
  | .noEffect _ => none

def AcquisitionLifecycleReceipt.provider : AcquisitionLifecycleReceipt → Provider
  | .applied receipt => receipt.provider
  | .noEffect receipt => receipt.provider

def AcquisitionLifecycleReceipt.epoch : AcquisitionLifecycleReceipt → ℕ
  | .applied receipt => receipt.epoch
  | .noEffect receipt => receipt.epoch

namespace InMemoryFenceAuthority

/-- The acquisition is applied, and no applied release names it. -/
def Held (authority : Authority) (receipt : FenceAcquisitionReceipt) : Prop :=
  authority.acquisitions.get? receipt.operationId = some (.applied receipt)
    ∧ ∀ operationId release, authority.releases.get? operationId = some (.applied release) →
      release.acquisitionOperationId ≠ receipt.operationId

/-- The applied acquisitions of a provider, in the order in which they were applied. -/
def appliedFor (authority : Authority) (provider : Provider) : List FenceAcquisitionReceipt :=
  (authority.acquisitions.values.filterMap LifecycleReceipt.applied?).filter
    fun receipt => decide (receipt.provider = provider)

/-- What links the five maps. -/
structure Consistent (authority : Authority) : Prop where
  keyed : ∀ operationId receipt, authority.acquisitions.get? operationId = some receipt →
    AcquisitionLifecycleReceipt.operationId receipt = operationId
  names_applied : ∀ operationId release,
    authority.releases.get? operationId = some (.applied release) →
    ∃ receipt, authority.acquisitions.get? release.acquisitionOperationId = some (.applied receipt)
  binding_iff : ∀ provider fence, authority.bindings.get? provider = some fence ↔
    ∃ receipt, authority.Held receipt ∧ receipt.provider = provider ∧ receipt.binding = fence
  epoch_le : ∀ operationId receipt, authority.acquisitions.get? operationId = some receipt →
    (AcquisitionLifecycleReceipt.epoch receipt : ℤ)
      ≤ authority.epochHighWater (AcquisitionLifecycleReceipt.provider receipt)
  increasing : ∀ provider,
    (authority.appliedFor provider).Pairwise fun a b => a.epoch < b.epoch

variable {authority next : Authority}

theorem Consistent.empty : Consistent {} where
  keyed := fun _ _ h => by cases h
  names_applied := fun _ _ h => by cases h
  binding_iff := fun _ _ => by
    constructor
    · intro h
      cases h
    · rintro ⟨_, ⟨h, _⟩, _⟩
      cases h
  epoch_le := fun _ _ h => by cases h
  increasing := fun _ => List.Pairwise.nil

theorem mem_appliedFor {provider : Provider} {receipt : FenceAcquisitionReceipt} :
    receipt ∈ authority.appliedFor provider ↔
      (∃ operationId, authority.acquisitions.get? operationId = some (.applied receipt))
        ∧ receipt.provider = provider := by
  have happlied : ∀ stored : AcquisitionLifecycleReceipt,
      stored.applied? = some receipt ↔ stored = .applied receipt := by
    rintro (applied | tombstone)
    · simp [LifecycleReceipt.applied?]
    · simp [LifecycleReceipt.applied?]
  rw [appliedFor, List.mem_filter, decide_eq_true_iff, List.mem_filterMap]
  refine and_congr_left fun _ => ?_
  simp only [happlied, exists_eq_right, Dict.mem_values_iff]

/-- Epochs of a provider only go up, whatever is settled. -/
theorem epochHighWater_set {highWater : Dict Provider ℤ} {provider other : Provider} {epoch : ℤ}
    (h : (highWater.get? provider).getD (-1) ≤ epoch) :
    (highWater.get? other).getD (-1) ≤ ((highWater.set provider epoch).get? other).getD (-1) := by
  rw [Dict.get?_set]
  split
  · rename_i heq
    rw [heq]
    exact h
  · exact le_refl _

namespace Consistent

theorem acquired {receipt : FenceAcquisitionReceipt} {receiptIds : Dict ReceiptId OperationId}
    (h : authority.Consistent)
    (hfresh : authority.acquisitions.get? receipt.operationId = none)
    (hfree : authority.bindings.get? receipt.provider = none)
    (hepoch : authority.epochHighWater receipt.provider < receipt.epoch) :
    (authority.acquired receipt receiptIds).Consistent where
  keyed := by
    intro operationId stored hstored
    rw [InMemoryFenceAuthority.acquired, Dict.get?_set] at hstored
    split at hstored
    · rename_i heq
      cases hstored
      exact heq.symm
    · exact h.keyed _ _ hstored
  names_applied := by
    intro operationId release hrelease
    obtain ⟨found, hfound⟩ := h.names_applied _ _ hrelease
    refine ⟨found, ?_⟩
    rw [InMemoryFenceAuthority.acquired, Dict.get?_set_of_ne, hfound]
    -- a release names an earlier acquisition, and the identifier was free
    rintro heq
    rw [heq, hfresh] at hfound
    cases hfound
  binding_iff := by
    intro provider fence
    -- what is held now is the new fence and what was held before
    have hheld : ∀ other : FenceAcquisitionReceipt,
        (authority.acquired receipt receiptIds).Held other ↔
          other = receipt ∨ authority.Held other := by
      intro other
      unfold Held InMemoryFenceAuthority.acquired
      rw [Dict.get?_set]
      split
      · rename_i heq
        constructor
        · rintro ⟨hother, _⟩
          cases hother
          exact Or.inl rfl
        · rintro (rfl | ⟨hother, _⟩)
          · refine ⟨rfl, fun operationId release hrelease hnamed => ?_⟩
            obtain ⟨found, hfound⟩ := h.names_applied _ _ hrelease
            rw [hnamed, hfresh] at hfound
            cases hfound
          · rw [heq, hfresh] at hother
            cases hother
      · rename_i hne
        refine ⟨Or.inr, ?_⟩
        rintro (rfl | hother)
        · exact absurd rfl hne
        · exact hother
    show ((authority.bindings.set receipt.provider receipt.binding).get? provider) = _ ↔ _
    simp only [hheld]
    rw [Dict.get?_set]
    split
    · rename_i heq
      rw [heq]
      constructor
      · intro hfence
        cases hfence
        exact ⟨receipt, Or.inl rfl, rfl, rfl⟩
      · rintro ⟨other, rfl | hother, hprovider, rfl⟩
        · rfl
        · have hbound := (h.binding_iff receipt.provider _).2 ⟨other, hother, hprovider, rfl⟩
          rw [hfree] at hbound
          cases hbound
    · rename_i hne
      rw [h.binding_iff]
      constructor
      · rintro ⟨other, hother, hrest⟩
        exact ⟨other, Or.inr hother, hrest⟩
      · rintro ⟨other, rfl | hother, hrest⟩
        · exact absurd hrest.1.symm hne
        · exact ⟨other, hother, hrest⟩
  epoch_le := by
    intro operationId stored hstored
    rw [InMemoryFenceAuthority.acquired, Dict.get?_set] at hstored
    split at hstored
    · cases hstored
      show (receipt.epoch : ℤ) ≤ ((authority.highWater.set _ _).get? receipt.provider).getD (-1)
      rw [Dict.get?_set_self]
      exact le_refl _
    · exact (h.epoch_le _ _ hstored).trans (epochHighWater_set (le_of_lt hepoch))
  increasing := by
    intro provider
    unfold appliedFor InMemoryFenceAuthority.acquired
    rw [Dict.values_set_of_get?_eq_none hfresh, List.filterMap_append, List.filter_append,
      List.pairwise_append]
    refine ⟨h.increasing provider, ?_, ?_⟩
    · exact (List.pairwise_singleton _ receipt).filter _
    · intro older holder newer hnewer
      have hnewer : receipt = newer ∧ newer.provider = provider := by
        simpa [LifecycleReceipt.applied?, and_comm, eq_comm] using hnewer
      obtain ⟨rfl, rfl⟩ := hnewer
      obtain ⟨⟨operationId, hstored⟩, hprovider⟩ := mem_appliedFor.1 holder
      -- the new epoch is above the high water, so above every older one
      have hle := h.epoch_le _ _ hstored
      rw [show AcquisitionLifecycleReceipt.provider (.applied older) = receipt.provider
        from hprovider] at hle
      exact_mod_cast lt_of_le_of_lt hle hepoch

theorem acquisitionTombstoned {receipt : FenceAcquisitionNoEffectReceipt}
    {receiptIds : Dict ReceiptId OperationId} (h : authority.Consistent)
    (hfresh : authority.acquisitions.get? receipt.operationId = none) :
    (authority.acquisitionTombstoned receipt receiptIds).Consistent where
  keyed := by
    intro operationId stored hstored
    rw [InMemoryFenceAuthority.acquisitionTombstoned, Dict.get?_set] at hstored
    split at hstored
    · rename_i heq
      cases hstored
      exact heq.symm
    · exact h.keyed _ _ hstored
  names_applied := by
    intro operationId release hrelease
    obtain ⟨found, hfound⟩ := h.names_applied _ _ hrelease
    refine ⟨found, ?_⟩
    rw [InMemoryFenceAuthority.acquisitionTombstoned, Dict.get?_set_of_ne, hfound]
    rintro heq
    rw [heq, hfresh] at hfound
    cases hfound
  binding_iff := by
    intro provider fence
    have hheld : ∀ other : FenceAcquisitionReceipt,
        (authority.acquisitionTombstoned receipt receiptIds).Held other ↔ authority.Held other := by
      intro other
      refine and_congr_left fun _ => ?_
      rw [InMemoryFenceAuthority.acquisitionTombstoned, Dict.get?_set]
      split
      · rename_i heq
        rw [heq, hfresh]
        simp
      · rfl
    simp only [hheld]
    exact h.binding_iff provider fence
  epoch_le := by
    intro operationId stored hstored
    rw [InMemoryFenceAuthority.acquisitionTombstoned, Dict.get?_set] at hstored
    split at hstored
    · cases hstored
      show (receipt.epoch : ℤ) ≤ ((authority.highWater.set _ _).get? receipt.provider).getD (-1)
      rw [Dict.get?_set_self]
      exact le_max_left _ _
    · exact (h.epoch_le _ _ hstored).trans (epochHighWater_set (le_max_right _ _))
  increasing := by
    intro provider
    have heq : (authority.acquisitionTombstoned receipt receiptIds).appliedFor provider
        = authority.appliedFor provider := by
      unfold appliedFor InMemoryFenceAuthority.acquisitionTombstoned
      rw [Dict.values_set_of_get?_eq_none hfresh, List.filterMap_append, List.filter_append]
      exact List.append_nil _
    rw [heq]
    exact h.increasing provider

/-- Two held acquisitions of a provider are one. -/
theorem held_unique (h : authority.Consistent) {a b : FenceAcquisitionReceipt}
    (ha : authority.Held a) (hb : authority.Held b) (hprovider : a.provider = b.provider) :
    a = b := by
  have hbound := (h.binding_iff b.provider _).2 ⟨a, ha, hprovider, rfl⟩
  rw [(h.binding_iff b.provider _).2 ⟨b, hb, rfl, rfl⟩, Option.some.injEq] at hbound
  have hid : b.operationId = a.operationId := congrArg FenceBinding.acquisitionOperationId hbound
  have hstored := hb.1
  rw [hid, ha.1] at hstored
  cases hstored
  rfl

theorem released {receipt : FenceReleaseReceipt} {receiptIds : Dict ReceiptId OperationId}
    {fence : FenceBinding} (h : authority.Consistent)
    (hfresh : authority.releases.get? receipt.operationId = none)
    (hfence : authority.bindings.get? receipt.provider = some fence)
    (howned : fence.acquisitionOperationId = receipt.acquisitionOperationId) :
    (authority.released receipt receiptIds).Consistent := by
  obtain ⟨holder, hholder, hprovider, rfl⟩ := (h.binding_iff _ _).1 hfence
  have hnamed : receipt.acquisitionOperationId = holder.operationId := howned.symm
  -- what is held now is what was held before, without the fence that is released
  have hheld : ∀ other : FenceAcquisitionReceipt,
      (authority.released receipt receiptIds).Held other ↔
        authority.Held other ∧ other ≠ holder := by
    intro other
    constructor
    · intro ⟨hother, hreleases⟩
      refine ⟨⟨hother, fun operationId release hrelease => ?_⟩, ?_⟩
      · refine hreleases operationId release ?_
        rw [InMemoryFenceAuthority.released, Dict.get?_set_of_ne _ _ ?_, hrelease]
        rintro rfl
        rw [hfresh] at hrelease
        cases hrelease
      · rintro rfl
        exact hreleases receipt.operationId receipt (Dict.get?_set_self _ _ _) hnamed
    · rintro ⟨⟨hother, hreleases⟩, hne⟩
      refine ⟨hother, fun operationId release hrelease hid => ?_⟩
      rw [InMemoryFenceAuthority.released, Dict.get?_set] at hrelease
      split at hrelease
      · cases hrelease
        rw [hnamed] at hid
        rw [← hid, hholder.1] at hother
        cases hother
        exact hne rfl
      · exact hreleases operationId release hrelease hid
  refine ⟨h.keyed, ?_, ?_, h.epoch_le, h.increasing⟩
  · intro operationId release hrelease
    rw [InMemoryFenceAuthority.released, Dict.get?_set] at hrelease
    split at hrelease
    · cases hrelease
      exact ⟨holder, hnamed ▸ hholder.1⟩
    · exact h.names_applied operationId release hrelease
  · intro provider fence
    simp only [hheld]
    show ((authority.bindings.erase receipt.provider).get? provider) = _ ↔ _
    rw [Dict.get?_erase]
    split
    · rename_i heq
      rw [heq]
      constructor
      · intro hnone
        cases hnone
      · rintro ⟨other, ⟨hother, hne⟩, hsame, _⟩
        -- the provider had no other fence
        exact absurd (h.held_unique hother hholder (hsame.trans hprovider.symm)) hne
    · rename_i hne
      rw [h.binding_iff]
      constructor
      · rintro ⟨other, hother, rfl, hbinding⟩
        refine ⟨other, ⟨hother, ?_⟩, rfl, hbinding⟩
        rintro rfl
        exact hne hprovider
      · rintro ⟨other, ⟨hother, _⟩, hrest⟩
        exact ⟨other, hother, hrest⟩

theorem releaseTombstoned {receipt : FenceReleaseNoEffectReceipt}
    {receiptIds : Dict ReceiptId OperationId} (h : authority.Consistent)
    (hfresh : authority.releases.get? receipt.operationId = none) :
    (authority.releaseTombstoned receipt receiptIds).Consistent := by
  have happlied : ∀ operationId (release : FenceReleaseReceipt),
      (authority.releaseTombstoned receipt receiptIds).releases.get? operationId
          = some (.applied release)
        ↔ authority.releases.get? operationId = some (.applied release) := by
    intro operationId release
    rw [InMemoryFenceAuthority.releaseTombstoned, Dict.get?_set]
    split
    · rename_i heq
      rw [heq, hfresh]
      simp
    · rfl
  refine ⟨h.keyed, ?_, ?_, h.epoch_le, h.increasing⟩
  · intro operationId release hrelease
    exact h.names_applied operationId release ((happlied _ _).1 hrelease)
  · intro provider fence
    unfold Held
    simp only [happlied]
    exact h.binding_iff provider fence

theorem change (h : authority.Consistent) (hchange : AuthorityChange authority next) :
    next.Consistent := by
  cases hchange with
  | same => exact h
  | acquired hfresh hfree hepoch => exact h.acquired hfresh hfree hepoch
  | acquisitionTombstoned hfresh => exact h.acquisitionTombstoned hfresh
  | released hfresh hfence howned => exact h.released hfresh hfence howned
  | releaseTombstoned hfresh => exact h.releaseTombstoned hfresh

end Consistent

/-! ## Runs -/

/-- A settled operation keeps its receipt, and a later acquisition has a later epoch. -/
structure Keeps (authority next : Authority) : Prop where
  acquisitions : ∀ operationId receipt, authority.acquisitions.get? operationId = some receipt →
    next.acquisitions.get? operationId = some receipt
  releases : ∀ operationId receipt, authority.releases.get? operationId = some receipt →
    next.releases.get? operationId = some receipt
  highWater : ∀ provider, authority.epochHighWater provider ≤ next.epochHighWater provider
  later : ∀ operationId receipt, next.acquisitions.get? operationId = some (.applied receipt) →
    authority.acquisitions.get? operationId = some (.applied receipt)
      ∨ authority.epochHighWater receipt.provider < receipt.epoch

theorem Keeps.refl (authority : Authority) : Keeps authority authority :=
  ⟨fun _ _ h => h, fun _ _ h => h, fun _ => le_refl _, fun _ _ h => Or.inl h⟩

theorem Keeps.trans {last : Authority} (h : Keeps authority next) (h' : Keeps next last) :
    Keeps authority last where
  acquisitions := fun operationId receipt hstored =>
    h'.acquisitions operationId receipt (h.acquisitions operationId receipt hstored)
  releases := fun operationId receipt hstored =>
    h'.releases operationId receipt (h.releases operationId receipt hstored)
  highWater := fun provider => (h.highWater provider).trans (h'.highWater provider)
  later := by
    intro operationId receipt hstored
    rcases h'.later operationId receipt hstored with hstored | hepoch
    · exact h.later operationId receipt hstored
    · exact Or.inr (lt_of_le_of_lt (h.highWater _) hepoch)

/-- A new entry of a ledger leaves the others. -/
theorem get?_set_of_fresh {κ ν : Type} [DecidableEq κ] {d : Dict κ ν} {key other : κ}
    {value stored : ν} (hfresh : d.get? key = none) (h : d.get? other = some stored) :
    (d.set key value).get? other = some stored := by
  rw [Dict.get?_set_of_ne, h]
  rintro rfl
  rw [hfresh] at h
  cases h

theorem AuthorityChange.keeps (h : AuthorityChange authority next) : Keeps authority next := by
  cases h with
  | same => exact .refl authority
  | @acquired receipt receiptIds hfresh hfree hepoch =>
    refine ⟨fun _ _ => get?_set_of_fresh hfresh, fun _ _ hstored => hstored,
      fun _ => epochHighWater_set (le_of_lt hepoch), fun operationId stored hstored => ?_⟩
    rw [InMemoryFenceAuthority.acquired, Dict.get?_set] at hstored
    split at hstored
    · cases hstored
      exact Or.inr hepoch
    · exact Or.inl hstored
  | @acquisitionTombstoned receipt receiptIds hfresh =>
    refine ⟨fun _ _ => get?_set_of_fresh hfresh, fun _ _ hstored => hstored,
      fun _ => epochHighWater_set (le_max_right _ _), fun operationId stored hstored => ?_⟩
    rw [InMemoryFenceAuthority.acquisitionTombstoned, Dict.get?_set] at hstored
    split at hstored
    · cases hstored
    · exact Or.inl hstored
  | released hfresh _ _ =>
    exact ⟨fun _ _ hstored => hstored, fun _ _ => get?_set_of_fresh hfresh, fun _ => le_refl _,
      fun _ _ hstored => Or.inl hstored⟩
  | releaseTombstoned hfresh =>
    exact ⟨fun _ _ hstored => hstored, fun _ _ => get?_set_of_fresh hfresh, fun _ => le_refl _,
      fun _ _ hstored => Or.inl hstored⟩

section

variable [DigestJson]

theorem Steps.consistent (h : Steps {} authority) : authority.Consistent := by
  induction h with
  | refl => exact .empty
  | tail _ hstep ih => exact ih.change hstep.change

theorem Steps.keeps (h : Steps authority next) : Keeps authority next := by
  induction h with
  | refl => exact .refl authority
  | tail _ hstep ih => exact ih.trans hstep.change.keeps

omit [DigestJson] in
theorem Keeps.receipt? {call : AuthorityCall} {receipt : AuthorityReceipt}
    (h : Keeps authority next) (hstored : authority.receipt? call = some receipt) :
    next.receipt? call = some receipt := by
  cases call <;>
  · obtain ⟨stored, hget, rfl⟩ := Option.map_eq_some_iff.1 hstored
    first
      | exact Option.map_eq_some_iff.2 ⟨stored, h.acquisitions _ _ hget, rfl⟩
      | exact Option.map_eq_some_iff.2 ⟨stored, h.releases _ _ hget, rfl⟩

/-- In every state that calls reach from an empty authority, a provider grants exactly the one
acquisition that is applied and not released; epochs are applied in increasing order; a settled
operation stays as it is, a tombstoned epoch is never applied later, and a replay returns the
stored receipt and changes nothing. -/
theorem fence_exclusivity {authority : Authority} (hreach : Steps {} authority) :
    (∀ provider,
      (∀ a b, authority.Held a → authority.Held b → a.provider = provider →
        b.provider = provider → a = b)
      ∧ ∀ fence, authority.currentBinding provider = some fence ↔
        ∃ receipt, authority.Held receipt ∧ receipt.provider = provider
          ∧ receipt.binding = fence)
    ∧ (∀ provider, (authority.appliedFor provider).Pairwise fun a b => a.epoch < b.epoch)
    ∧ (∀ later, Steps authority later →
      (∀ operationId receipt, authority.acquisitions.get? operationId = some receipt →
        later.acquisitions.get? operationId = some receipt)
      ∧ (∀ operationId receipt, authority.releases.get? operationId = some receipt →
        later.releases.get? operationId = some receipt)
      ∧ ∀ tombstoneId tombstone operationId receipt,
        authority.acquisitions.get? tombstoneId = some (.noEffect tombstone) →
        later.acquisitions.get? operationId = some (.applied receipt) →
        authority.acquisitions.get? operationId ≠ some (.applied receipt) →
        receipt.provider = tombstone.provider → tombstone.epoch < receipt.epoch)
    ∧ (∀ call stored, authority.receipt? call = some stored →
      ((exec call).run authority).2 = authority
        ∧ ∀ receipt, ((exec call).run authority).1 = .ok receipt → receipt = stored)
    ∧ ∀ call receipt next, (exec call).run authority = (.ok receipt, next) →
      ∀ later, Steps next later → ∀ again, call.Replays again →
        (exec again).run later = (.ok receipt, later) := by
  have h := hreach.consistent
  refine ⟨fun provider => ⟨?_, h.binding_iff provider⟩, h.increasing, ?_, ?_, ?_⟩
  · intro a b ha hb hprovider hsame
    exact h.held_unique ha hb (hprovider.trans hsame.symm)
  · intro later hsteps
    have hkeeps := hsteps.keeps
    refine ⟨hkeeps.acquisitions, hkeeps.releases, ?_⟩
    intro tombstoneId tombstone operationId receipt htombstone hlater hnew hprovider
    -- applied later than the tombstone, so above the high water of that time
    rcases hkeeps.later operationId receipt hlater with hold | hepoch
    · exact absurd hold hnew
    · have hle := h.epoch_le _ _ htombstone
      rw [show AcquisitionLifecycleReceipt.provider (.noEffect tombstone) = receipt.provider
        from hprovider.symm] at hle
      exact_mod_cast lt_of_le_of_lt hle hepoch
  · intro call stored hstored
    obtain ⟨hnext, hok⟩ := exec_settled hstored (Prod.mk.eta (p := (exec call).run authority)).symm
    exact ⟨hnext, fun receipt hreceipt => (hok receipt hreceipt).1.symm⟩
  · intro call receipt next hrun later hsteps again hagain
    -- either the receipt was stored already or this call stored it
    have hanswers : Answers call receipt ∧ next.receipt? call = some receipt := by
      cases hstored : authority.receipt? call with
      | some stored =>
        obtain ⟨rfl, hok⟩ := exec_settled hstored hrun
        obtain ⟨rfl, hanswers⟩ := hok receipt rfl
        exact ⟨hanswers, hstored⟩
      | none =>
        rcases exec_fresh hstored hrun with ⟨⟨_, herror⟩, _⟩ | ⟨_, hreceipt, hanswers, hnext, _⟩
        · cases herror
        · cases hreceipt
          exact ⟨hanswers, hnext⟩
    refine exec_replay (answers_replays hagain hanswers.1) ?_
    rw [receipt?_replays hagain]
    exact hsteps.keeps.receipt? hanswers.2

end

/-! ### Three acquisitions of a provider -/

section

open Sample

/-- The state after some calls. -/
def afterCalls (calls : List AuthorityCall) (authority : Authority) : Authority :=
  calls.foldl (fun authority call => ((exec call).run authority).2) authority

theorem steps_afterCalls (calls : List AuthorityCall) (authority : Authority) :
    Steps authority (afterCalls calls authority) := by
  induction calls generalizing authority with
  | nil => exact .refl
  | cons call calls ih => exact .head ⟨call, _, rfl⟩ (ih _)

def firstAcquire : AuthorityCall :=
  .acquire firstIntent ⟨.integer 7, .integer 1, token, second 1, second 2, second 3⟩

def firstRelease : AuthorityCall :=
  .release releaseIntent ⟨.integer 8, second 12, second 13, second 14⟩

def againTombstoned : AuthorityCall :=
  .tombstoneAcquisition againIntent ⟨second 631, second 632⟩

def laterAcquire : AuthorityCall :=
  .acquire laterIntent ⟨.integer 7, .integer 3, token, second 101, second 102, second 103⟩

/-- The third acquisition of the scheduler is held after the first was released and the second
tombstoned, and the release is repeated without effect. -/
theorem fences_in_turn :
    (∃ receipt, (afterCalls [firstAcquire, firstRelease, againTombstoned, laterAcquire] {}).Held
        receipt ∧ receipt.binding = laterReceipt.binding ∧
      ∀ other, (afterCalls [firstAcquire, firstRelease, againTombstoned, laterAcquire] {}).Held
        other → other.provider = .scheduler → other = receipt) ∧
    ((afterCalls [firstAcquire, firstRelease, againTombstoned, laterAcquire] {}).appliedFor
      .scheduler).Pairwise (fun a b => a.epoch < b.epoch) ∧
    againTombstone.epoch < laterReceipt.epoch ∧
    ((exec firstRelease).run (afterCalls
        [firstAcquire, firstRelease, againTombstoned, laterAcquire] {})).2 =
      afterCalls [firstAcquire, firstRelease, againTombstoned, laterAcquire] {} := by
  obtain ⟨-, -, hlater, -⟩ :=
    fence_exclusivity (steps_afterCalls [firstAcquire, firstRelease, againTombstoned] {})
  obtain ⟨hheld, hincreasing, -, hreplay, -⟩ := fence_exclusivity
    (steps_afterCalls [firstAcquire, firstRelease, againTombstoned, laterAcquire] {})
  obtain ⟨receipt, hreceipt, hprovider, hbinding⟩ :=
    ((hheld .scheduler).2 laterReceipt.binding).1 (by decide)
  refine ⟨⟨receipt, hreceipt, hbinding, fun other hother hscheduler =>
    (hheld .scheduler).1 other receipt hother hreceipt hscheduler hprovider⟩,
    hincreasing .scheduler, ?_, ?_⟩
  · exact (hlater _ (steps_afterCalls [laterAcquire] _)).2.2 againIntent.operationId againTombstone
      laterIntent.operationId laterReceipt (by decide) (by decide) (by decide) rfl
  · have hreleased : (afterCalls [firstAcquire, firstRelease, againTombstoned, laterAcquire]
        {}).releases.get? releaseIntent.operationId = some (.applied releaseReceipt) := by decide
    have hstored : receipt? (afterCalls [firstAcquire, firstRelease, againTombstoned, laterAcquire]
        {}) firstRelease = some (.release (.applied releaseReceipt)) :=
      congrArg (Option.map AuthorityReceipt.release) hreleased
    exact (hreplay firstRelease _ hstored).1

end

end InMemoryFenceAuthority

end TrueFamily.Transaction
