import Mathlib.Data.Finset.Basic
import Mathlib.Data.List.Perm.Basic
import TrueFamily.Lib.Checked
import TrueFamily.Lib.Dict
import TrueFamily.Providers.Evidence

/-!
# Production readiness

`assess_production_readiness` walks a ladder of checks for every provider. `Evidenced` states, over
the evidence alone, when a provider comes out ready, and everything else follows from it: the
status of a provider depends on what was given for it and not on the order.

A provider whose host is authoritative is ready without an inventory, and a duplicated inventory
counts as none. So a second inventory removes a mismatch of the first.
-/

namespace TrueFamily.Providers

open Checked
open TrueFamily.Transaction (Provider Digest Datetime)

/-! ## The external writers -/

/-- The errors of the attestation check. -/
inductive AttestationError
  | externalAttestationError (message : String)
  | valueError (message : String)
  deriving DecidableEq

/-- A `datetime` argument: an aware UTC one, or any other. -/
inductive GivenTime
  | utc (time : Datetime)
  | other
  deriving DecidableEq

/-- `_validate_utc_datetime`. -/
def validateUtcDatetime (label : String) : GivenTime → Except AttestationError Datetime
  | .utc time => .ok time
  | .other => .error (.valueError (label ++ " must be a timezone-aware UTC datetime."))

section

variable [DigestJson]

/-- `validate_external_writer_attestation`, where `clock` is `datetime.now(UTC)`. -/
def validateExternalWriterAttestation (attestation : SignedExternalWriterAttestation)
    (expectedManifest : ExpectedObjectManifest) (verifier : ExternalAttestationVerifier)
    (now : Option GivenTime) (clock : Datetime) : Except AttestationError Unit :=
  match verifier.verify? with
  | none => .error (.externalAttestationError
      "An injected external-attestation verifier is required.")
  | some verify => do
    let checkedAt ← validateUtcDatetime "Attestation validation time" (now.getD (.utc clock))
    let expected := expectedManifest.forProvider .externalWriters
    check (attestation.expectedManifestDigest = expectedManifest.digest)
      (.externalAttestationError "External attestation manifest does not match.")
    check (attestation.objectKeys = expected.objectKeys)
      (.externalAttestationError "External attestation objects do not match.")
    check (attestation.fence.scopeDigest = expected.digest)
      (.externalAttestationError "External attestation fence scope does not match.")
    check (attestation.issuedAt ≤ checkedAt ∧ checkedAt < attestation.expiresAt)
      (.externalAttestationError "External attestation is not currently valid.")
    check (attestation.fence.acquiredAt ≤ attestation.issuedAt)
      (.externalAttestationError "External attestation predates its writer fence.")
    check (checkedAt < attestation.fence.expiresAt)
      (.externalAttestationError "External writer fence has expired.")
    check (attestation.expiresAt ≤ attestation.fence.expiresAt)
      (.externalAttestationError "External attestation outlives its writer fence.")
    check (verify attestation = .boolean true)
      (.externalAttestationError "External attestation signature verification failed.")

/-! ## The assessment -/

/-- `_index_provider_items`: the first item of every provider, and the providers with more. -/
def indexProviderItems {α : Type} (provider : α → Provider) (items : List α) :
    Dict Provider α × Finset Provider :=
  items.foldl (fun (indexed, duplicates) item =>
      if (indexed.get? (provider item)).isSome then
        (indexed, insert (provider item) duplicates)
      else
        (indexed.set (provider item) item, duplicates))
    (.empty, ∅)

/-- The arguments of `assess_production_readiness`, and the clock it reads. -/
structure Evidence where
  expectedManifest : ExpectedObjectManifest
  inventories : List ProviderInventory
  bridges : List BridgeReadiness
  externalAttestation : Option SignedExternalWriterAttestation := none
  externalVerifier : Option ExternalAttestationVerifier := none
  now : Option GivenTime := none
  clock : Datetime

/-- `_HOST_AUTHORITATIVE_PROVIDERS`. -/
def hostAuthoritativeProviders : List Provider := [.activeYaml, .lovelace]

/-- `ProviderPublicSummary`. -/
structure ProviderPublicSummary where
  provider : Provider
  status : PublicProviderStatus
  expectedCount : ℕ
  observedCount : ℕ
  deriving DecidableEq

/-- `ProductionReadiness`. -/
structure ProductionReadiness where
  ready : Bool
  providers : List ProviderPublicSummary
  names : providers.map (·.provider) = Provider.all
  agrees : ready = providers.all fun item => decide (item.status = .ready)

namespace Evidence

variable (self : Evidence)

/-- `external_valid`. -/
def externalValid : Bool :=
  match self.externalAttestation, self.externalVerifier with
  | some attestation, some verifier =>
    (validateExternalWriterAttestation attestation self.expectedManifest verifier self.now
      self.clock).isOk
  | _, _ => false

/-- `bridge_exact`, for a bridge that was found. -/
def matchesExpected (provider : Provider) (bridge : BridgeReadiness) : Prop :=
  let expected := self.expectedManifest.forProvider provider
  bridge.available = true ∧ bridge.capabilities.productionReady = true
    ∧ bridge.objectCount = expected.count
    ∧ bridge.expectedManifestDigest = some self.expectedManifest.digest
    ∧ bridge.objectManifestDigest = some expected.digest

instance (provider : Provider) (bridge : BridgeReadiness) :
    Decidable (self.matchesExpected provider bridge) := by
  unfold matchesExpected; infer_instance

/-- `bridge_exact`. -/
def bridgeExact (provider : Provider) : Prop :=
  let (bridgeMap, duplicateBridges) := indexProviderItems (·.provider) self.bridges
  provider ∉ duplicateBridges ∧ (bridgeMap.get? provider).any fun bridge =>
    decide (self.matchesExpected provider bridge)

instance (provider : Provider) : Decidable (self.bridgeExact provider) := by
  unfold bridgeExact; infer_instance

/-- The last branch: the status of a provider whose inventory has the expected objects. -/
def provenStatus (provider : Provider) (inventory : ProviderInventory) : PublicProviderStatus :=
  let (bridgeMap, duplicateBridges) := indexProviderItems (·.provider) self.bridges
  let expected := self.expectedManifest.forProvider provider
  match bridgeMap.get? provider with
  | none => .readOnly
  | some bridge =>
    if provider ∈ duplicateBridges ∨ bridge.available = false
        ∨ bridge.capabilities.productionReady = false then
      .readOnly
    else if bridge.objectCount ≠ expected.count then
      .countMismatch
    else if bridge.expectedManifestDigest ≠ some self.expectedManifest.digest
        ∨ bridge.objectManifestDigest ≠ some expected.digest
        ∨ ¬ bridge.inventoryRevision.any fun revision =>
          decide (revision.isDigest inventory.revisionDigest) then
      .manifestMismatch
    else
      .ready

/-- The status of a provider whose inventory cannot be used. -/
def hostStatus (provider : Provider) : PublicProviderStatus :=
  if provider ∈ hostAuthoritativeProviders ∧ self.bridgeExact provider then .ready
  else .unavailable

/-- The status that the loop computes for one provider. -/
def status (provider : Provider) : PublicProviderStatus :=
  let (inventoryMap, duplicateInventories) := indexProviderItems (·.provider) self.inventories
  let expected := self.expectedManifest.forProvider provider
  match inventoryMap.get? provider with
  | none => self.hostStatus provider
  | some inventory =>
    if provider ∈ duplicateInventories ∨ inventory.status ≠ .readable then
      self.hostStatus provider
    else if inventory.count ≠ expected.count then
      .countMismatch
    else if inventory.objectKeys ≠ expected.objectKeys then
      .manifestMismatch
    else if provider = .externalWriters ∧ self.externalValid = false then
      .unavailable
    else
      self.provenStatus provider inventory

/-- `observed_count`. -/
def observedCount (provider : Provider) : ℕ :=
  let (inventoryMap, _) := indexProviderItems (·.provider) self.inventories
  let (bridgeMap, _) := indexProviderItems (·.provider) self.bridges
  match inventoryMap.get? provider with
  | some inventory => inventory.count
  | none =>
    if self.bridgeExact provider then ((bridgeMap.get? provider).map (·.objectCount)).getD 0 else 0

/-- The summary of one provider. -/
def summary (provider : Provider) : ProviderPublicSummary where
  provider := provider
  status := self.status provider
  expectedCount := (self.expectedManifest.forProvider provider).count
  observedCount := self.observedCount provider

/-- `assess_production_readiness`. -/
def assessProductionReadiness : ProductionReadiness where
  ready := (Provider.all.map self.summary).all fun item => decide (item.status = .ready)
  providers := Provider.all.map self.summary
  names := rfl
  agrees := rfl

end Evidence

end

/-! ## What was given for a provider -/

/-- The only element of a list, if it has exactly one. -/
def sole {α : Type} : List α → Option α
  | [x] => some x
  | _ => none

theorem sole_eq_some_iff {α : Type} {items : List α} {x : α} :
    sole items = some x ↔ items = [x] := by
  match items with
  | [] => simp [sole]
  | [y] => simp [sole]
  | y :: z :: rest => simp [sole]

theorem sole_eq_none_iff {α : Type} {items : List α} :
    sole items = none ↔ items.length ≠ 1 := by
  match items with
  | [] => simp [sole]
  | [y] => simp [sole]
  | y :: z :: rest => simp [sole]

theorem sole_perm {α : Type} {items other : List α} (h : items.Perm other) :
    sole items = sole other := by
  cases hsole : sole items with
  | none =>
    rw [sole_eq_none_iff, h.length_eq, ← sole_eq_none_iff] at hsole
    exact hsole.symm
  | some x =>
    rw [sole_eq_some_iff] at hsole
    subst hsole
    exact (sole_eq_some_iff.2 (List.perm_singleton.1 h.symm)).symm

section

variable {α : Type} (provider : α → Provider) (items : List α) (p : Provider)

/-- The items of one provider, in the order given. -/
def itemsFor : List α := items.filter fun item => decide (provider item = p)

theorem itemsFor_concat (item : α) : itemsFor provider (items ++ [item]) p
    = if provider item = p then itemsFor provider items p ++ [item]
      else itemsFor provider items p := by
  unfold itemsFor
  rw [List.filter_append, List.filter_singleton]
  by_cases h : provider item = p <;> simp [h]

/-- The index keeps the first item of every provider, and knows who has several. -/
theorem indexProviderItems_spec :
    (indexProviderItems provider items).1.get? p = (itemsFor provider items p).head?
      ∧ (p ∈ (indexProviderItems provider items).2 ↔ 2 ≤ (itemsFor provider items p).length) := by
  induction items using List.reverseRecOn with
  | nil => exact ⟨rfl, by simp [indexProviderItems, itemsFor]⟩
  | append_singleton items item ih =>
    obtain ⟨hfirst, hmore⟩ := ih
    rw [itemsFor_concat]
    unfold indexProviderItems at hfirst hmore ⊢
    rw [List.foldl_concat]
    generalize items.foldl _ _ = state at hfirst hmore ⊢
    obtain ⟨indexed, duplicates⟩ := state
    dsimp only at hfirst hmore ⊢
    by_cases hp : provider item = p
    · subst hp
      rw [if_pos rfl, List.length_append, List.length_singleton, hfirst]
      cases hgiven : itemsFor provider items (provider item) with
      | nil =>
        rw [hgiven] at hmore
        simp_all
      | cons first rest =>
        rw [hgiven] at hfirst
        simp [hfirst]
    · rw [if_neg hp]
      split
      · refine ⟨hfirst, ?_⟩
        rw [Finset.mem_insert, or_iff_right (Ne.symm hp)]
        exact hmore
      · rw [Dict.get?_set_of_ne _ _ (Ne.symm hp)]
        exact ⟨hfirst, hmore⟩

/-- An item that was indexed and not duplicated is the only one of its provider. -/
theorem sole_itemsFor : sole (itemsFor provider items p)
    = if p ∈ (indexProviderItems provider items).2 then none
      else (indexProviderItems provider items).1.get? p := by
  obtain ⟨hfirst, hmore⟩ := indexProviderItems_spec provider items p
  rw [hfirst, if_congr hmore rfl rfl]
  match itemsFor provider items p with
  | [] => rfl
  | [_] => rfl
  | _ :: _ :: _ => simp [sole]

end


/-! ## The status as a function of the evidence for one provider -/

/-- A step of the ladder that ends in another status is not taken. -/
theorem ladder_ready_iff {c : Prop} [Decidable c] {ended rest : PublicProviderStatus}
    (hended : ended ≠ .ready) : (if c then ended else rest) = .ready ↔ ¬ c ∧ rest = .ready := by
  by_cases hc : c
  · simp [hc, hended]
  · simp [hc]

section

variable [DigestJson]

namespace Evidence

variable (self : Evidence) {other : Evidence} {p : Provider}

/-- The inventories given for a provider. -/
def inventoriesFor (p : Provider) : List ProviderInventory :=
  itemsFor (·.provider) self.inventories p

/-- The bridge results given for a provider. -/
def bridgesFor (p : Provider) : List BridgeReadiness := itemsFor (·.provider) self.bridges p

/-- Exactly one bridge result was given for the provider, and it proves what is expected. -/
def ProvenBy (p : Provider) (bridge : BridgeReadiness) : Prop :=
  self.bridgesFor p = [bridge] ∧ self.matchesExpected p bridge

/-- Exactly one inventory was given for the provider, and it is readable. -/
def ReadableAs (p : Provider) (inventory : ProviderInventory) : Prop :=
  self.inventoriesFor p = [inventory] ∧ inventory.status = .readable

/-- The inventory has exactly the expected objects, and the bridge has seen its revisions. -/
def Agrees (p : Provider) (bridge : BridgeReadiness) (inventory : ProviderInventory) : Prop :=
  inventory.objectKeys = (self.expectedManifest.forProvider p).objectKeys
    ∧ ∃ revision, bridge.inventoryRevision = some revision
      ∧ revision.isDigest inventory.revisionDigest

/-- When a provider comes out ready: its bridge is proven, and the inventory that was read agrees
with it, or the host is authoritative and no inventory was read. -/
def Evidenced (p : Provider) : Prop :=
  ∃ bridge, self.ProvenBy p bridge
    ∧ ((p ∈ hostAuthoritativeProviders ∧ ∀ inventory, ¬ self.ReadableAs p inventory)
      ∨ ∃ inventory, self.ReadableAs p inventory ∧ self.Agrees p bridge inventory
        ∧ (p = .externalWriters → self.externalValid = true))

theorem bridgeExact_iff : self.bridgeExact p ↔ ∃ bridge, self.ProvenBy p bridge := by
  have hsole := sole_itemsFor (·.provider) self.bridges p
  unfold bridgeExact ProvenBy bridgesFor
  simp only [← sole_eq_some_iff, hsole]
  by_cases hdup : p ∈ (indexProviderItems (·.provider) self.bridges).2
  · simp [hdup]
  · simp [hdup, Option.any_eq_true]

theorem hostStatus_eq_ready_iff :
    self.hostStatus p = .ready
      ↔ p ∈ hostAuthoritativeProviders ∧ ∃ bridge, self.ProvenBy p bridge := by
  unfold hostStatus
  rw [← bridgeExact_iff]
  split
  · rename_i h
    simp [h]
  · rename_i h
    simp [h]

theorem hostStatus_not_mismatch :
    self.hostStatus p ≠ .countMismatch ∧ self.hostStatus p ≠ .manifestMismatch := by
  unfold hostStatus
  split <;> simp

/-- The ladder of `provenStatus` over the one bridge result given for the provider. -/
theorem provenStatus_eq (inventory : ProviderInventory) : self.provenStatus p inventory
    = match sole (self.bridgesFor p) with
      | none => .readOnly
      | some bridge =>
        if bridge.available = false ∨ bridge.capabilities.productionReady = false then .readOnly
        else if bridge.objectCount ≠ (self.expectedManifest.forProvider p).count then
          .countMismatch
        else if bridge.expectedManifestDigest ≠ some self.expectedManifest.digest
            ∨ bridge.objectManifestDigest ≠ some (self.expectedManifest.forProvider p).digest
            ∨ ¬ bridge.inventoryRevision.any fun revision =>
              decide (revision.isDigest inventory.revisionDigest) then
          .manifestMismatch
        else .ready := by
  have hsole : sole (self.bridgesFor p) = _ :=
    sole_itemsFor (fun item : BridgeReadiness => item.provider) self.bridges p
  rw [hsole]
  unfold provenStatus
  by_cases hdup : p ∈ (indexProviderItems (·.provider) self.bridges).2
  · simp only [hdup, true_or, if_true]
    split <;> rfl
  · simp only [hdup, false_or, if_false]

theorem provenStatus_eq_ready_iff {inventory : ProviderInventory} :
    self.provenStatus p inventory = .ready ↔ ∃ bridge, self.ProvenBy p bridge
      ∧ ∃ revision, bridge.inventoryRevision = some revision
        ∧ revision.isDigest inventory.revisionDigest := by
  rw [provenStatus_eq]
  unfold ProvenBy matchesExpected
  simp only [← sole_eq_some_iff]
  cases sole (self.bridgesFor p) with
  | none => simp
  | some bridge =>
    dsimp only
    rw [ladder_ready_iff (by decide), ladder_ready_iff (by decide), ladder_ready_iff (by decide)]
    simp only [not_or, Bool.not_eq_false, not_not, Option.any_eq_true, decide_eq_true_eq,
      and_true, and_assoc, Option.some.injEq, exists_eq_left']

/-- The ladder of `status` over the one inventory given for the provider. -/
theorem status_of_inventoriesFor {inventory : ProviderInventory}
    (hgiven : self.inventoriesFor p = [inventory]) :
    self.status p
      = if inventory.status ≠ .readable then self.hostStatus p
        else if inventory.count ≠ (self.expectedManifest.forProvider p).count then .countMismatch
        else if inventory.objectKeys ≠ (self.expectedManifest.forProvider p).objectKeys then
          .manifestMismatch
        else if p = .externalWriters ∧ self.externalValid = false then .unavailable
        else self.provenStatus p inventory := by
  have hsole : sole (self.inventoriesFor p) = _ :=
    sole_itemsFor (fun item : ProviderInventory => item.provider) self.inventories p
  rw [sole_eq_some_iff.2 hgiven] at hsole
  by_cases hdup : p ∈ (indexProviderItems (·.provider) self.inventories).2
  · rw [if_pos hdup] at hsole
    cases hsole
  · rw [if_neg hdup] at hsole
    unfold status
    simp only [← hsole, hdup, false_or]

theorem status_of_not_one (hgiven : ∀ inventory, self.inventoriesFor p ≠ [inventory]) :
    self.status p = self.hostStatus p := by
  have hsole : sole (self.inventoriesFor p) = _ :=
    sole_itemsFor (fun item : ProviderInventory => item.provider) self.inventories p
  have hnone : sole (self.inventoriesFor p) = none := by
    cases h : sole (self.inventoriesFor p) with
    | none => rfl
    | some inventory => exact absurd (sole_eq_some_iff.1 h) (hgiven inventory)
  rw [hnone] at hsole
  unfold status
  by_cases hdup : p ∈ (indexProviderItems (·.provider) self.inventories).2
  · cases hfirst : (indexProviderItems (·.provider) self.inventories).1.get? p <;>
      simp only [hfirst, hdup, true_or, if_true]
  · rw [if_neg hdup] at hsole
    simp only [← hsole]

/-- Without one readable inventory there is nothing to compare. -/
theorem status_of_not_readable (hnone : ∀ inventory, ¬ self.ReadableAs p inventory) :
    self.status p = self.hostStatus p := by
  by_cases hgiven : ∃ inventory, self.inventoriesFor p = [inventory]
  · obtain ⟨inventory, hgiven⟩ := hgiven
    rw [self.status_of_inventoriesFor hgiven,
      if_pos fun hreadable => hnone inventory ⟨hgiven, hreadable⟩]
  · exact self.status_of_not_one fun inventory h => hgiven ⟨inventory, h⟩

omit [DigestJson] in
theorem count_eq_of_objectKeys_eq {inventory : ProviderInventory}
    (h : inventory.objectKeys = (self.expectedManifest.forProvider p).objectKeys) :
    inventory.count = (self.expectedManifest.forProvider p).count := by
  rw [ProviderInventory.count, ExpectedProviderObjects.count, ← h, ProviderInventory.objectKeys,
    List.length_map]

/-- A provider comes out ready exactly when its evidence says so. -/
theorem status_eq_ready_iff : self.status p = .ready ↔ self.Evidenced p := by
  by_cases hone : ∃ inventory, self.ReadableAs p inventory
  · obtain ⟨inventory, hgiven, hreadable⟩ := hone
    have honly : ∀ item, self.ReadableAs p item ↔ item = inventory := by
      intro item
      unfold ReadableAs
      rw [hgiven, List.cons_eq_cons, and_iff_left rfl]
      constructor
      · rintro ⟨rfl, _⟩
        rfl
      · rintro rfl
        exact ⟨rfl, hreadable⟩
    rw [self.status_of_inventoriesFor hgiven, if_neg (not_not.2 hreadable)]
    unfold Evidenced
    simp only [honly, exists_eq_left, forall_eq, and_false, false_or]
    rw [ladder_ready_iff (by decide), ladder_ready_iff (by decide), ladder_ready_iff (by decide),
      provenStatus_eq_ready_iff]
    unfold Agrees
    constructor
    · rintro ⟨_, hkeys, hvalid, bridge, hbridge, hrevision⟩
      refine ⟨bridge, hbridge, ⟨not_not.1 hkeys, hrevision⟩, fun hp => ?_⟩
      exact Bool.not_eq_false _ ▸ fun hfalse => hvalid ⟨hp, hfalse⟩
    · rintro ⟨bridge, hbridge, ⟨hkeys, hrevision⟩, hvalid⟩
      refine ⟨not_not.2 (self.count_eq_of_objectKeys_eq hkeys), not_not.2 hkeys, ?_, bridge,
        hbridge, hrevision⟩
      rintro ⟨hp, hfalse⟩
      rw [hvalid hp] at hfalse
      cases hfalse
  · rw [not_exists] at hone
    rw [self.status_of_not_readable hone, hostStatus_eq_ready_iff]
    constructor
    · rintro ⟨hmem, bridge, hbridge⟩
      exact ⟨bridge, hbridge, Or.inl ⟨hmem, hone⟩⟩
    · rintro ⟨bridge, hbridge, ⟨hmem, _⟩ | ⟨inventory, hread, _⟩⟩
      · exact ⟨hmem, bridge, hbridge⟩
      · exact absurd hread (hone inventory)

/-! ## Order -/

/-- The status of a provider is the same in every order of the evidence. -/
theorem status_perm {inventories : List ProviderInventory} {bridges : List BridgeReadiness}
    (hinventories : self.inventories.Perm inventories) (hbridges : self.bridges.Perm bridges)
    (p : Provider) : ({ self with inventories, bridges } : Evidence).status p = self.status p := by
  set other : Evidence := { self with inventories, bridges } with hother
  have hinventory : sole (other.inventoriesFor p) = sole (self.inventoriesFor p) :=
    (sole_perm (hinventories.filter _)).symm
  have hbridge : sole (other.bridgesFor p) = sole (self.bridgesFor p) :=
    (sole_perm (hbridges.filter _)).symm
  have hproven : ∀ inventory, other.provenStatus p inventory = self.provenStatus p inventory := by
    intro inventory
    rw [provenStatus_eq, provenStatus_eq, hbridge]
  have hhost : other.hostStatus p = self.hostStatus p := by
    have hexact : other.bridgeExact p ↔ self.bridgeExact p := by
      rw [bridgeExact_iff, bridgeExact_iff]
      unfold ProvenBy
      simp only [← sole_eq_some_iff, hbridge]
      rfl
    unfold hostStatus
    simp only [hexact]
  cases hone : sole (self.inventoriesFor p) with
  | none =>
    have hmany : ∀ {evidence : Evidence}, sole (evidence.inventoriesFor p) = none →
        ∀ inventory, evidence.inventoriesFor p ≠ [inventory] := by
      intro evidence hnone inventory hgiven
      rw [sole_eq_some_iff.2 hgiven] at hnone
      cases hnone
    rw [self.status_of_not_one (hmany hone),
      other.status_of_not_one (hmany (hinventory.trans hone)),
      hhost]
  | some inventory =>
    rw [self.status_of_inventoriesFor (sole_eq_some_iff.1 hone),
      other.status_of_inventoriesFor (sole_eq_some_iff.1 (hinventory.trans hone)), hhost, hproven]
    rfl

/-! ## Mismatches -/

/-- The provider is not ready because of a mismatch. -/
def Mismatch (p : Provider) : Prop :=
  self.status p = .countMismatch ∨ self.status p = .manifestMismatch

/-- A mismatch is one of the only inventory given, which is readable. -/
theorem Mismatch.readable (h : self.Mismatch p) : ∃ inventory, self.ReadableAs p inventory := by
  by_contra hnone
  rw [not_exists] at hnone
  unfold Mismatch at h
  rw [self.status_of_not_readable hnone] at h
  exact h.elim self.hostStatus_not_mismatch.1 self.hostStatus_not_mismatch.2

/-- A provider that is not mismatched although its only inventory is readable has the expected
objects. -/
theorem mismatch_of_objectKeys_ne {inventory : ProviderInventory}
    (hread : self.ReadableAs p inventory)
    (hkeys : inventory.objectKeys ≠ (self.expectedManifest.forProvider p).objectKeys) :
    self.Mismatch p := by
  unfold Mismatch
  rw [self.status_of_inventoriesFor hread.1, if_neg (not_not.2 hread.2)]
  by_cases hcount : inventory.count = (self.expectedManifest.forProvider p).count
  · rw [if_neg (not_not.2 hcount), if_pos hkeys]
    exact Or.inr rfl
  · rw [if_pos hcount]
    exact Or.inl rfl

/-- Where the host is authoritative and the bridge proven, a readable inventory that disagrees
with the bridge is a mismatch. -/
theorem mismatch_of_not_agrees {bridge : BridgeReadiness} {inventory : ProviderInventory}
    (hhost : p ∈ hostAuthoritativeProviders) (hbridge : self.ProvenBy p bridge)
    (hread : self.ReadableAs p inventory) (hagrees : ¬ self.Agrees p bridge inventory) :
    self.Mismatch p := by
  by_cases hkeys : inventory.objectKeys = (self.expectedManifest.forProvider p).objectKeys
  · have hnotExternal : p ≠ .externalWriters := by
      rintro rfl
      exact absurd hhost (by decide)
    have hrevision : ¬ bridge.inventoryRevision.any fun revision =>
        decide (revision.isDigest inventory.revisionDigest) := by
      simp only [Option.any_eq_true, decide_eq_true_eq]
      exact fun h => hagrees ⟨hkeys, h⟩
    obtain ⟨hgiven, havailable, hready, hcount, hmanifest, hobjects⟩ := hbridge
    right
    rw [self.status_of_inventoriesFor hread.1, if_neg (not_not.2 hread.2),
      if_neg (not_not.2 (self.count_eq_of_objectKeys_eq hkeys)), if_neg (not_not.2 hkeys),
      if_neg fun h => hnotExternal h.1, provenStatus_eq, sole_eq_some_iff.2 hgiven]
    simp [havailable, hready, hcount, hrevision]
  · exact self.mismatch_of_objectKeys_ne hread hkeys

/-- A mismatch of a provider without a bridge result is one of its objects. -/
theorem Mismatch.objectKeys_ne {inventory : ProviderInventory} (h : self.Mismatch p)
    (hread : self.ReadableAs p inventory) (hnone : self.bridgesFor p = []) :
    inventory.objectKeys ≠ (self.expectedManifest.forProvider p).objectKeys := by
  intro hkeys
  unfold Mismatch at h
  rw [self.status_of_inventoriesFor hread.1, if_neg (not_not.2 hread.2),
    if_neg (not_not.2 (self.count_eq_of_objectKeys_eq hkeys)), if_neg (not_not.2 hkeys),
    provenStatus_eq, hnone] at h
  simp only [sole] at h
  split at h <;> simp at h

/-! ## Further evidence -/

omit [DigestJson] in
theorem itemsFor_cons {α : Type} (provider : α → Provider) (item : α) (items : List α)
    (p : Provider) : itemsFor provider (item :: items) p
      = if provider item = p then item :: itemsFor provider items p
        else itemsFor provider items p := by
  unfold itemsFor
  rw [List.filter_cons]
  by_cases h : provider item = p <;> simp [h]

/-- A further inventory makes a mismatched provider ready only where the host is authoritative
and the bridge proven. -/
theorem ready_of_further_inventory {further : ProviderInventory} (hmismatch : self.Mismatch p)
    (hready : ({ self with inventories := further :: self.inventories } : Evidence).status p
      = .ready) :
    p ∈ hostAuthoritativeProviders ∧ ∃ bridge, self.ProvenBy p bridge := by
  set other : Evidence := { self with inventories := further :: self.inventories }
  have hgiven : other.inventoriesFor p
      = if further.provider = p then further :: self.inventoriesFor p
        else self.inventoriesFor p := itemsFor_cons _ _ _ _
  obtain ⟨bridge, hbridge, hevidence⟩ := other.status_eq_ready_iff.1 hready
  obtain ⟨inventory, hread⟩ := hmismatch.readable
  by_cases hp : further.provider = p
  · rw [if_pos hp, hread.1] at hgiven
    rcases hevidence with ⟨hhost, _⟩ | ⟨only, ⟨honly, _⟩, _⟩
    · exact ⟨hhost, bridge, hbridge⟩
    · rw [hgiven] at honly
      cases honly
  · rw [if_neg hp] at hgiven
    have hsame : self.status p = .ready := by
      refine self.status_eq_ready_iff.2 ⟨bridge, hbridge, ?_⟩
      unfold ReadableAs at hevidence ⊢
      rw [hgiven] at hevidence
      exact hevidence
    unfold Mismatch at hmismatch
    rw [hsame] at hmismatch
    exact absurd hmismatch (by decide)

/-- A further bridge result never makes a mismatched provider ready. -/
theorem not_ready_of_further_bridge {further : BridgeReadiness} (hmismatch : self.Mismatch p) :
    ({ self with bridges := further :: self.bridges } : Evidence).status p ≠ .ready := by
  intro hready
  set other : Evidence := { self with bridges := further :: self.bridges }
  have hgiven : other.bridgesFor p
      = if further.provider = p then further :: self.bridgesFor p
        else self.bridgesFor p := itemsFor_cons _ _ _ _
  obtain ⟨bridge, ⟨hone, hmatches⟩, hevidence⟩ := other.status_eq_ready_iff.1 hready
  obtain ⟨inventory, hread⟩ := hmismatch.readable
  by_cases hp : further.provider = p
  · rw [if_pos hp, hone, List.cons_eq_cons] at hgiven
    have hkeys := hmismatch.objectKeys_ne self hread hgiven.2.symm
    rcases hevidence with ⟨_, hnone⟩ | ⟨only, ⟨honly, _⟩, ⟨hagrees, _⟩, _⟩
    · exact hnone inventory hread
    · obtain rfl := List.singleton_inj.1 (hread.1.symm.trans honly)
      exact hkeys hagrees
  · rw [if_neg hp, hone] at hgiven
    have hsame : self.status p = .ready :=
      self.status_eq_ready_iff.2 ⟨bridge, ⟨hgiven.symm, hmatches⟩, hevidence⟩
    unfold Mismatch at hmismatch
    rw [hsame] at hmismatch
    exact absurd hmismatch (by decide)

/-! ## Failing closed -/

/-- What has to be proven before the answer is ready. -/
structure Proven (evidence : Evidence) : Prop where
  bridged : ∀ p, ∃ bridge, evidence.ProvenBy p bridge ∧ (p ∉ hostAuthoritativeProviders →
    ∃ inventory, evidence.ReadableAs p inventory ∧ ∃ revision,
      bridge.inventoryRevision = some revision ∧ revision.isDigest inventory.revisionDigest)
  expected : ∀ inventory ∈ evidence.inventories, inventory.status = .readable →
    inventory.objectKeys = (evidence.expectedManifest.forProvider inventory.provider).objectKeys
  attested : evidence.externalValid = true

/-- The answer is ready only if everything is proven, further evidence does not make a mismatched
provider ready, and the order of the evidence does not matter. -/
structure FailsClosed (evidence : Evidence) : Prop where
  proven : evidence.assessProductionReadiness.ready = true → evidence.Proven
  further_inventory : ∀ p, evidence.Mismatch p → ∀ further inventories,
    inventories.Perm (further :: evidence.inventories) →
      ({ evidence with inventories } : Evidence).status p ≠ .ready
  further_bridge : ∀ p, evidence.Mismatch p → ∀ further bridges,
    bridges.Perm (further :: evidence.bridges) →
      ({ evidence with bridges } : Evidence).status p ≠ .ready
  ordered : ∀ inventories bridges, evidence.inventories.Perm inventories →
    evidence.bridges.Perm bridges →
      let other := ({ evidence with inventories, bridges } : Evidence).assessProductionReadiness
      other.ready = evidence.assessProductionReadiness.ready
        ∧ other.providers.map (fun item => (item.provider, item.status))
          = evidence.assessProductionReadiness.providers.map
            fun item => (item.provider, item.status)

/-- Where the host is authoritative and the bridge proven, the inventories agree. The only
inventory agrees with the bridge if it is readable, and among several every readable one has
the expected objects, unless another provider is not ready. -/
structure HostInventoriesAgree (evidence : Evidence) : Prop where
  one : ∀ p ∈ hostAuthoritativeProviders, ∀ bridge inventory, evidence.ProvenBy p bridge →
    evidence.ReadableAs p inventory → evidence.Agrees p bridge inventory
  several : (∀ p, evidence.Evidenced p) → ∀ inventory ∈ evidence.inventories,
    inventory.provider ∈ hostAuthoritativeProviders → inventory.status = .readable →
      inventory.objectKeys = (evidence.expectedManifest.forProvider inventory.provider).objectKeys

theorem ready_iff : self.assessProductionReadiness.ready = true ↔ ∀ p, self.Evidenced p := by
  unfold assessProductionReadiness
  simp only [List.all_map, List.all_eq_true, Function.comp_apply, decide_eq_true_eq,
    Provider.mem_all, true_implies, ← status_eq_ready_iff]
  rfl

/-- Outside the authoritative hosts, the only inventory of an evidenced provider was read. -/
theorem Evidenced.readable (h : self.Evidenced p) (hhost : p ∉ hostAuthoritativeProviders) :
    ∃ bridge inventory, self.ProvenBy p bridge ∧ self.ReadableAs p inventory
      ∧ self.Agrees p bridge inventory ∧ (p = .externalWriters → self.externalValid = true) := by
  obtain ⟨bridge, hbridge, ⟨hmem, _⟩ | ⟨inventory, hread, hagrees, hvalid⟩⟩ := h
  · exact absurd hmem hhost
  · exact ⟨bridge, inventory, hbridge, hread, hagrees, hvalid⟩

/-- The assessment fails closed exactly when the inventories of the authoritative hosts agree. -/
theorem failsClosed_iff : self.FailsClosed ↔ self.HostInventoriesAgree := by
  constructor
  · intro h
    refine ⟨fun p hhost bridge inventory hbridge hread => ?_, fun hall inventory hmem _ hreadable =>
      (h.proven (self.ready_iff.2 hall)).expected inventory hmem hreadable⟩
    by_contra hagrees
    have hmismatch := self.mismatch_of_not_agrees hhost hbridge hread hagrees
    refine h.further_inventory p hmismatch (.unavailable p) _ (List.Perm.refl _) ?_
    -- the second inventory removes the mismatch of the first
    refine (status_eq_ready_iff _).2 ⟨bridge, hbridge, Or.inl ⟨hhost, fun only honly => ?_⟩⟩
    have hgiven : itemsFor (·.provider) (ProviderInventory.unavailable p :: self.inventories) p
        = [only] := honly.1
    rw [itemsFor_cons, if_pos (show (ProviderInventory.unavailable p).provider = p from rfl),
      show itemsFor (·.provider) self.inventories p = [inventory] from hread.1] at hgiven
    cases hgiven
  · intro h
    refine ⟨fun hready => ?_, fun p hmismatch further inventories hperm hready => ?_,
      fun p hmismatch further bridges hperm hready => ?_, fun inventories bridges hinv hbr => ?_⟩
    · have hall := self.ready_iff.1 hready
      refine ⟨fun p => ?_, fun inventory hmem hreadable => ?_, ?_⟩
      · obtain ⟨bridge, hbridge, _⟩ := hall p
        by_cases hhost : p ∈ hostAuthoritativeProviders
        · exact ⟨bridge, hbridge, fun hnot => absurd hhost hnot⟩
        · obtain ⟨bridge, inventory, hbridge, hread, hagrees, _⟩ := (hall p).readable self hhost
          exact ⟨bridge, hbridge, fun _ => ⟨inventory, hread, hagrees.2⟩⟩
      · by_cases hhost : inventory.provider ∈ hostAuthoritativeProviders
        · exact h.several hall inventory hmem hhost hreadable
        · obtain ⟨_, only, _, hread, hagrees, _⟩ := (hall inventory.provider).readable self hhost
          have hgiven : inventory ∈ self.inventoriesFor inventory.provider :=
            List.mem_filter.2 ⟨hmem, decide_eq_true rfl⟩
          rw [hread.1, List.mem_singleton] at hgiven
          rw [hgiven] at hagrees ⊢
          exact hagrees.1
      · obtain ⟨_, _, _, _, _, hvalid⟩ := (hall .externalWriters).readable self (by decide)
        exact hvalid rfl
    · have hsame := ({ self with
        inventories := further :: self.inventories } : Evidence).status_perm
        hperm.symm (List.Perm.refl _) p
      obtain ⟨hhost, bridge, hbridge⟩ :=
        self.ready_of_further_inventory hmismatch (hsame.symm.trans hready)
      obtain ⟨inventory, hread⟩ := hmismatch.readable
      have hevidenced : self.status p = .ready := self.status_eq_ready_iff.2 ⟨bridge, hbridge,
        Or.inr ⟨inventory, hread, h.one p hhost bridge inventory hbridge hread,
          fun hp => absurd hhost (by rw [hp]; decide)⟩⟩
      unfold Mismatch at hmismatch
      rw [hevidenced] at hmismatch
      exact absurd hmismatch (by decide)
    · have hsame := ({ self with bridges := further :: self.bridges } : Evidence).status_perm
        (List.Perm.refl _) hperm.symm p
      exact self.not_ready_of_further_bridge hmismatch (hsame.symm.trans hready)
    · have hstatus := fun p => self.status_perm hinv hbr p
      unfold assessProductionReadiness
      dsimp only
      simp only [List.all_map, List.map_map, Function.comp_def, summary, hstatus]
      exact ⟨rfl, trivial⟩

end Evidence

end

/-! ## A second inventory -/

namespace Sample

def revision : NonemptyString := ⟨.ofString "r1", by decide⟩

def objectKey : NonemptyString := ⟨.ofString "automation", by decide⟩

/-- No objects are expected anywhere. -/
def manifest : ExpectedObjectManifest where
  revision := revision
  providers := Provider.all.map fun provider => ⟨provider, [], rfl, List.nodup_nil⟩
  revision_bounded := by decide
  names := rfl

def manifestDigest : Digest :=
  ⟨0xff2b083ac076697cb7a8e08f6bf4c1915f6561e39983f52fd661c783d0501c71⟩

def objectsDigest : Digest :=
  ⟨0x3d094cfb96e65c4f04dd8c06287a7b917f65f17ff0a83bc044659caa47936a16⟩

def digests : List (Payload × Digest) :=
  [(.expectedManifest revision (Provider.all.map fun provider => (provider, [])), manifestDigest),
    (.expectedObjects .activeYaml [], objectsDigest)]

scoped instance digestJson : DigestJson where
  digestJson payload :=
    ((digests.find? fun entry => decide (entry.1 = payload)).map Prod.snd).getD ⟨0⟩

/-- The bridge proves the expected empty set. -/
def bridge : BridgeReadiness where
  provider := .activeYaml
  proof? := some {
    capabilities := ⟨true, true, true, true, true, true⟩
    objectCount := 0
    expectedManifestDigest := manifestDigest
    objectManifestDigest := objectsDigest
    inventoryRevision := .integer 1
    bridgeId := ⟨.ofString "bridge", by decide⟩
    readinessRevision := .integer 1 }

/-- An object that is not expected was read. -/
def inventory : ProviderInventory where
  provider := .activeYaml
  status := .readable
  objects := [{ objectKey := objectKey }]
  canonical := ⟨rfl, List.nodup_singleton _⟩
  unreadable_empty h := absurd rfl h

def evidence : Evidence where
  expectedManifest := manifest
  inventories := [inventory]
  bridges := [bridge]
  clock := 0

end Sample

open Sample in
/-- A second, unreadable inventory makes the mismatched provider ready. -/
theorem second_inventory_hides_mismatch :
    evidence.status .activeYaml = .countMismatch
      ∧ ({ evidence with inventories := [.unavailable .activeYaml, inventory] } : Evidence).status
        .activeYaml = .ready := by
  decide

end TrueFamily.Providers
