import TrueFamily.Transaction.HistoryStep

/-!
# Writing to a represented journal

The assignments of the journal's methods, one lemma for each: if the journal represents a
history, then after the assignment it represents the history with the attempt set or appended.
-/

namespace TrueFamily.Transaction

open Checked Sorting InMemoryBridgeOperationJournal BridgeOperationAttempt

variable [DigestJson]

/-! ## Replaced list elements -/

omit [DigestJson] in
theorem set_eq_of_getElem? {α : Type} {items : List α} {index : ℕ} {x : α}
    (h : items[index]? = some x) : items.set index x = items := by
  obtain ⟨hlt, rfl⟩ := List.getElem?_eq_some_iff.1 h
  exact List.set_getElem_self hlt

omit [DigestJson] in
/-- A member other than the replaced element and its replacement stays a member. -/
theorem mem_set_iff_of_ne {α : Type} {items : List α} {index : ℕ} {x y z : α}
    (h : items[index]? = some x) (hy : y ≠ x) :
    y ∈ items.set index z ↔ y = z ∨ y ∈ items := by
  obtain ⟨hlt, rfl⟩ := List.getElem?_eq_some_iff.1 h
  constructor
  · intro hmem
    exact (List.mem_or_eq_of_mem_set hmem).symm
  · rintro (rfl | hmem)
    · exact List.mem_set hlt y
    · obtain ⟨j, hj⟩ := List.mem_iff_getElem?.1 hmem
      refine List.mem_iff_getElem?.2 ⟨j, ?_⟩
      have hne : index ≠ j := by
        rintro rfl
        rw [List.getElem?_eq_getElem hlt] at hj
        exact hy (Option.some.inj hj).symm
      rw [List.getElem?_set_ne hne, hj]

/-! ## The journal after an assignment -/

omit [DigestJson] in
@[simp] theorem attemptsFor_withAttempt (journal : Journal) (attempt : BridgeOperationAttempt)
    (planId : PlanId) : (journal.withAttempt attempt).attemptsFor planId
      = History.set journal.attemptsFor attempt planId := by
  rw [attemptsFor, withAttempt, Dict.get?_set, History.set]
  by_cases h : planId = attempt.planId
  · rw [if_pos h, h, Function.update_self]
    rfl
  · rw [if_neg h, Function.update_of_ne h]
    rfl

namespace Represents

variable {journal next : Journal} {history : History} {old attempt : BridgeOperationAttempt}

omit [DigestJson] in
/-- A change of a held attempt is writable when it keeps its identities and receipts and adds
only new ones. -/
theorem writable_of_holds [DigestJson] (h : Represents journal history)
    (hold : history.Holds old) (hslot : old.slot = attempt.slot)
    (hkeep : ∀ operationId ∈ old.operationIds, operationId ∈ attempt.operationIds)
    (hnew : ∀ operationId ∈ attempt.operationIds,
      operationId ∈ old.operationIds ∨ ¬ history.Claims operationId)
    (hreceipts : ∀ receiptId operationId, old.Owns receiptId operationId →
      attempt.Owns receiptId operationId)
    (hnewReceipts : ∀ receiptId operationId, attempt.Owns receiptId operationId →
      old.Owns receiptId operationId ∨ ¬ history.Received receiptId) :
    history.Writable attempt where
  ids_unclaimed x operationId hx hmem hmem' := by
    rcases hnew operationId hmem' with hmemOld | hno
    · rw [h.eq_of_claims hx hold hmem hmemOld, hslot]
    · exact absurd ⟨x, hx, hmem⟩ hno
  ids_kept x operationId hx heq hmem := by
    rw [hx.unique hold (heq.trans hslot.symm)] at hmem
    exact hkeep operationId hmem
  receipts_unclaimed x receiptId operationId operationId' hx hown hown' := by
    rcases hnewReceipts receiptId operationId' hown' with hownOld | hno
    · have heq := h.operationId_eq_of_owns ⟨x, hx, hown⟩ ⟨old, hold, hownOld⟩
      rw [heq] at hown
      rw [h.eq_of_claims hx hold hown.mem_operationIds hownOld.mem_operationIds, hslot]
    · exact absurd ⟨operationId, x, hx, hown⟩ hno
  receipts_kept x receiptId operationId hx heq hown := by
    rw [hx.unique hold (heq.trans hslot.symm)] at hown
    exact hreceipts receiptId operationId hown

omit [DigestJson] in
/-- A location index needs no assignment for an attempt with the same identities. -/
theorem assigns_locations {κ : Type} [DecidableEq κ] {ids : BridgeOperationAttempt → List κ}
    {index : Dict κ Location} (h : Index.Tracks index (LocationRow ids) history.Holds)
    (hold : history.Holds old) (hslot : old.slot = attempt.slot)
    (hids : ids attempt = ids old) :
    Index.Assigns (LocationRow ids) attempt index index :=
  h.assigns_self hold fun _ _ hrow => ⟨hrow.1.trans hslot.symm, hids ▸ hrow.2⟩

theorem assigns_identities (h : Represents journal history) (hold : history.Holds old)
    (hids : ∀ operationId ∈ attempt.operationIds, operationId ∈ old.operationIds) :
    Index.Assigns IdentityRow attempt journal.identityIndex journal.identityIndex :=
  h.identities.assigns_self hold fun operationId _ hrow => ⟨hids operationId hrow.1, hrow.2⟩

theorem assigns_receipts (h : Represents journal history) (hold : history.Holds old)
    (hreceipts : ∀ receiptId operationId, attempt.Owns receiptId operationId →
      old.Owns receiptId operationId) :
    Index.Assigns BridgeOperationAttempt.Owns attempt journal.receiptIndex
      journal.receiptIndex :=
  h.receipts.assigns_self hold hreceipts

/-- Setting a held attempt, with dictionaries that index it. -/
theorem set (h : Represents journal history) (hold : history.Holds old)
    (hslot : old.slot = attempt.slot) (hwf : attempt.WellFormed)
    (hattempts : next.attempts = (journal.withAttempt attempt).attempts)
    (hw : history.Writable attempt) (hindex : IndexesAttempt journal next attempt) :
    Represents next (history.set attempt) := by
  refine h.write (fun planId => ?_) (h.located.set hold hslot) hwf (hold.writes_set hslot) hw
    hindex
  have hnext : next.attemptsFor planId = (journal.withAttempt attempt).attemptsFor planId := by
    unfold attemptsFor
    rw [hattempts]
  rw [hnext, attemptsFor_withAttempt, show journal.attemptsFor = history from
    funext h.attempts]

/-! ### Records that changed in place -/

end Represents

/-- The attempts hold the same operations at the same places. -/
structure SameIds (old attempt : BridgeOperationAttempt) : Prop where
  slot_eq : old.slot = attempt.slot
  acquisitionIds_eq : attempt.acquisitionIds = old.acquisitionIds
  objectIds_eq : attempt.objectIds = old.objectIds
  releaseIds_eq : attempt.releaseIds = old.releaseIds

omit [DigestJson] in
theorem operationIds_eq (attempt : BridgeOperationAttempt) :
    attempt.operationIds = attempt.acquisitionIds.map .acquire
      ++ attempt.objectIds.map .object ++ attempt.releaseIds.map .release := by
  simp [operationIds, acquisitionIds, objectIds, releaseIds, Function.comp_def]

omit [DigestJson] in
theorem SameIds.operationIds_eq {old attempt : BridgeOperationAttempt}
    (h : SameIds old attempt) : attempt.operationIds = old.operationIds := by
  rw [Transaction.operationIds_eq, Transaction.operationIds_eq, h.acquisitionIds_eq,
    h.objectIds_eq, h.releaseIds_eq]

omit [DigestJson] in
/-- Blocking an attempt changes none of its records. -/
theorem SameIds.blocked {old attempt : BridgeOperationAttempt} (h : SameIds old attempt)
    (reasonCode : BridgeBlockReason) : SameIds old (attempt.blocked reasonCode) where
  slot_eq := h.slot_eq
  acquisitionIds_eq := h.acquisitionIds_eq
  objectIds_eq := h.objectIds_eq
  releaseIds_eq := h.releaseIds_eq

namespace Represents

variable {journal next : Journal} {history : History} {old attempt : BridgeOperationAttempt}

/-- Storing an attempt that changed neither identities nor receipts. -/
theorem store (h : Represents journal history) (hold : history.Holds old)
    (hsame : SameIds old attempt)
    (howns : ∀ receiptId operationId, attempt.Owns receiptId operationId ↔
      old.Owns receiptId operationId) (hwf : attempt.WellFormed) :
    Represents (journal.withAttempt attempt) (history.set attempt) := by
  have hids := hsame.operationIds_eq
  have hw : history.Writable attempt := h.writable_of_holds hold hsame.slot_eq
    (fun _ hmem => hids ▸ hmem) (fun _ hmem => Or.inl (hids ▸ hmem))
    (fun _ _ hown => (howns _ _).2 hown) (fun _ _ hown => Or.inl ((howns _ _).1 hown))
  refine h.set hold hsame.slot_eq hwf rfl hw ?_
  exact {
    acquisitions := assigns_locations h.acquisitions hold hsame.slot_eq hsame.acquisitionIds_eq
    objects := assigns_locations h.objects hold hsame.slot_eq hsame.objectIds_eq
    releases := assigns_locations h.releases hold hsame.slot_eq hsame.releaseIds_eq
    identities := h.assigns_identities hold fun _ hmem => hids ▸ hmem
    receipts := h.assigns_receipts hold fun _ _ hown => (howns _ _).1 hown }

/-- Storing an attempt with one new receipt, and then claiming the receipt. -/
theorem storeReceipt (h : Represents journal history) (hold : history.Holds old)
    (hsame : SameIds old attempt) {receiptId : ReceiptId} {operationId : OperationId}
    (howns : ∀ r o, attempt.Owns r o ↔ old.Owns r o ∨ (r = receiptId ∧ o = operationId))
    (hfresh : ¬ history.Received receiptId) (hwf : attempt.WellFormed) :
    Represents ((journal.withAttempt attempt).withReceipt receiptId operationId)
      (history.set attempt) := by
  have hids := hsame.operationIds_eq
  have hw : history.Writable attempt := h.writable_of_holds hold hsame.slot_eq
    (fun _ hmem => hids ▸ hmem) (fun _ hmem => Or.inl (hids ▸ hmem))
    (fun _ _ hown => (howns _ _).2 (Or.inl hown)) (fun r o hown => by
      rcases (howns r o).1 hown with hown | ⟨rfl, _⟩
      · exact Or.inl hown
      · exact Or.inr hfresh)
  refine h.set hold hsame.slot_eq hwf rfl hw ?_
  exact {
    acquisitions := assigns_locations h.acquisitions hold hsame.slot_eq hsame.acquisitionIds_eq
    objects := assigns_locations h.objects hold hsame.slot_eq hsame.objectIds_eq
    releases := assigns_locations h.releases hold hsame.slot_eq hsame.releaseIds_eq
    identities := h.assigns_identities hold fun _ hmem => hids ▸ hmem
    receipts := {
      assigned := by
        intro r o hown
        show (journal.receiptIndex.set receiptId operationId).get? r = some o
        rw [Dict.get?_set]
        rcases (howns r o).1 hown with hown | ⟨rfl, rfl⟩
        · have hne : r ≠ receiptId := by
            rintro rfl
            exact hfresh ⟨o, old, hold, hown⟩
          rw [if_neg hne]
          exact h.receiptIndex_eq_some_iff.2 ⟨old, hold, hown⟩
        · rw [if_pos rfl]
      kept := by
        intro r hno
        show (journal.receiptIndex.set receiptId operationId).get? r = _
        rw [Dict.get?_set_of_ne]
        rintro rfl
        exact hno operationId ((howns _ _).2 (Or.inr ⟨rfl, rfl⟩)) } }

end Represents

/-! ## What a changed record changes -/

section Rows

variable {attempt : BridgeOperationAttempt} {index : ℕ} {receiptId : ReceiptId}

omit [DigestJson]

/-- Giving a receipt to a row that had none adds exactly this receipt. -/
theorem mem_set_row_iff {rows : List (OperationId × Option ReceiptId)}
    {operationId : OperationId} (h : rows[index]? = some (operationId, none))
    (r : ReceiptId) (o : OperationId) :
    (o, some r) ∈ rows.set index (operationId, some receiptId) ↔
      (o, some r) ∈ rows ∨ (r = receiptId ∧ o = operationId) := by
  rw [mem_set_iff_of_ne h (by simp), or_comm]
  simp [and_comm]

section

variable {record updated : FenceAcquisitionRecord} (h : attempt.acquisitions[index]? = some record)
include h

theorem sameIds_setAcquisition (hid : updated.intent.operationId = record.intent.operationId) :
    SameIds attempt (attempt.setAcquisition index updated) where
  slot_eq := rfl
  acquisitionIds_eq := by
    show (attempt.acquisitions.set index updated).map _ = _
    rw [List.map_set, hid]
    exact set_eq_of_getElem? (by rw [List.getElem?_map, h]; rfl)
  objectIds_eq := rfl
  releaseIds_eq := rfl

theorem owns_setAcquisition (hid : updated.intent.operationId = record.intent.operationId)
    (hreceipt : AcquisitionRecord.receiptId? updated = AcquisitionRecord.receiptId? record)
    (r : ReceiptId) (o : OperationId) :
    (attempt.setAcquisition index updated).Owns r o ↔ attempt.Owns r o := by
  unfold BridgeOperationAttempt.Owns attemptIdentityRows setAcquisition
  dsimp only
  rw [List.map_set, hid, hreceipt, set_eq_of_getElem? (by rw [List.getElem?_map, h]; rfl)]

theorem owns_setAcquisition_receipt
    (hid : updated.intent.operationId = record.intent.operationId)
    (hnone : AcquisitionRecord.receiptId? record = none)
    (hsome : AcquisitionRecord.receiptId? updated = some receiptId)
    (r : ReceiptId) (o : OperationId) :
    (attempt.setAcquisition index updated).Owns r o ↔
      attempt.Owns r o ∨ (r = receiptId ∧ o = .acquire record.intent.operationId) := by
  unfold BridgeOperationAttempt.Owns attemptIdentityRows setAcquisition
  simp only [List.mem_append]
  rw [List.map_set, hid, hsome, mem_set_row_iff (by rw [List.getElem?_map, h, ← hnone]; rfl)]
  tauto

end

section

variable {record updated : FenceReleaseRecord} (h : attempt.releases[index]? = some record)
include h

theorem sameIds_setRelease (hid : updated.intent.operationId = record.intent.operationId) :
    SameIds attempt (attempt.setRelease index updated) where
  slot_eq := rfl
  acquisitionIds_eq := rfl
  objectIds_eq := rfl
  releaseIds_eq := by
    show (attempt.releases.set index updated).map _ = _
    rw [List.map_set, hid]
    exact set_eq_of_getElem? (by rw [List.getElem?_map, h]; rfl)

theorem owns_setRelease (hid : updated.intent.operationId = record.intent.operationId)
    (hreceipt : ReleaseRecord.receiptId? updated = ReleaseRecord.receiptId? record)
    (r : ReceiptId) (o : OperationId) :
    (attempt.setRelease index updated).Owns r o ↔ attempt.Owns r o := by
  unfold BridgeOperationAttempt.Owns attemptIdentityRows setRelease
  dsimp only
  rw [List.map_set, hid, hreceipt, set_eq_of_getElem? (by rw [List.getElem?_map, h]; rfl)]

theorem owns_setRelease_receipt (hid : updated.intent.operationId = record.intent.operationId)
    (hnone : ReleaseRecord.receiptId? record = none)
    (hsome : ReleaseRecord.receiptId? updated = some receiptId)
    (r : ReceiptId) (o : OperationId) :
    (attempt.setRelease index updated).Owns r o ↔
      attempt.Owns r o ∨ (r = receiptId ∧ o = .release record.intent.operationId) := by
  unfold BridgeOperationAttempt.Owns attemptIdentityRows setRelease
  simp only [List.mem_append]
  rw [List.map_set, hid, hsome, mem_set_row_iff (by rw [List.getElem?_map, h, ← hnone]; rfl)]
  tauto

end

section

variable {record updated : BridgeOperationRecord} (h : attempt.operations[index]? = some record)
include h

theorem sameIds_setOperation (hid : updated.intent.operationId = record.intent.operationId) :
    SameIds attempt (attempt.setOperation index updated) where
  slot_eq := rfl
  acquisitionIds_eq := rfl
  objectIds_eq := by
    show (attempt.operations.set index updated).map _ = _
    rw [List.map_set, hid]
    exact set_eq_of_getElem? (by rw [List.getElem?_map, h]; rfl)
  releaseIds_eq := rfl

theorem owns_setOperation (hid : updated.intent.operationId = record.intent.operationId)
    (hreceipt : updated.receipt = record.receipt) (r : ReceiptId) (o : OperationId) :
    (attempt.setOperation index updated).Owns r o ↔ attempt.Owns r o := by
  unfold BridgeOperationAttempt.Owns attemptIdentityRows setOperation
  dsimp only
  rw [List.map_set, hid, hreceipt, set_eq_of_getElem? (by rw [List.getElem?_map, h]; rfl)]

theorem owns_setOperation_receipt (hid : updated.intent.operationId = record.intent.operationId)
    (hnone : record.receipt = none)
    (hsome : updated.receipt.map (·.receiptId) = some receiptId)
    (r : ReceiptId) (o : OperationId) :
    (attempt.setOperation index updated).Owns r o ↔
      attempt.Owns r o ∨ (r = receiptId ∧ o = .object record.intent.operationId) := by
  unfold BridgeOperationAttempt.Owns attemptIdentityRows setOperation
  simp only [List.mem_append]
  rw [List.map_set, hid, hsome, mem_set_row_iff (by rw [List.getElem?_map, h]; simp [hnone])]
  tauto

end

end Rows

/-! ## New records -/

section Entries

omit [DigestJson]

/-- The entries that an attempt has in the location index of a kind of record. -/
def locationEntries {κ : Type} (ids : BridgeOperationAttempt → List κ)
    (attempt : BridgeOperationAttempt) : List (κ × Location) :=
  (ids attempt).zipIdx.map fun entry => (entry.1, ⟨attempt.planId, attempt.attempt, entry.2⟩)

theorem locationRow_iff_mem {κ : Type} {ids : BridgeOperationAttempt → List κ}
    {attempt : BridgeOperationAttempt} (operationId : κ) (location : Location) :
    LocationRow ids attempt operationId location ↔
      (operationId, location) ∈ locationEntries ids attempt := by
  simp only [locationEntries, List.mem_map, List.mem_zipIdx_iff_getElem?, Prod.mk.injEq,
    Prod.exists]
  constructor
  · intro ⟨hslot, hget⟩
    obtain ⟨planId, number, index⟩ := location
    obtain ⟨rfl, rfl⟩ := Prod.mk.inj hslot
    exact ⟨operationId, index, hget, rfl, rfl⟩
  · rintro ⟨_, index, hget, rfl, rfl⟩
    exact ⟨rfl, hget⟩

theorem map_fst_locationEntries {κ : Type} (ids : BridgeOperationAttempt → List κ)
    (attempt : BridgeOperationAttempt) :
    (locationEntries ids attempt).map Prod.fst = ids attempt := by
  rw [locationEntries, List.map_map]
  exact List.zipIdx_map_fst 0 (ids attempt)

theorem assigns_locationEntries {κ : Type} [DecidableEq κ]
    {ids : BridgeOperationAttempt → List κ} {attempt : BridgeOperationAttempt}
    (hnodup : (ids attempt).Nodup) (index : Dict κ Location) :
    Index.Assigns (LocationRow ids) attempt index
      (index.assign (locationEntries ids attempt)) :=
  Index.Assigns.assign (by rw [map_fst_locationEntries]; exact hnodup) locationRow_iff_mem index

theorem reindexAcquisitions_eq (journal : Journal) (attempt : BridgeOperationAttempt) :
    journal.reindexAcquisitions attempt = { journal with
      acquisitionIndex :=
        journal.acquisitionIndex.assign (locationEntries acquisitionIds attempt) } := by
  have loop : ∀ (entries : List (FenceAcquisitionRecord × ℕ)) (journal : Journal),
      entries.foldl (fun journal entry => journal.withAcquisitionLocation attempt entry) journal
        = { journal with
            acquisitionIndex := journal.acquisitionIndex.assign (entries.map fun entry =>
              (entry.1.intent.operationId, ⟨attempt.planId, attempt.attempt, entry.2⟩)) } := by
    intro entries
    induction entries with
    | nil => intro journal; rfl
    | cons entry entries ih =>
      intro journal
      rw [List.foldl_cons, ih]
      rfl
  rw [reindexAcquisitions, loop, locationEntries, acquisitionIds, List.zipIdx_map, List.map_map]
  rfl

theorem reindexReleases_eq (journal : Journal) (attempt : BridgeOperationAttempt) :
    journal.reindexReleases attempt = { journal with
      releaseIndex := journal.releaseIndex.assign (locationEntries releaseIds attempt) } := by
  have loop : ∀ (entries : List (FenceReleaseRecord × ℕ)) (journal : Journal),
      entries.foldl (fun journal entry => journal.withReleaseLocation attempt entry) journal
        = { journal with
            releaseIndex := journal.releaseIndex.assign (entries.map fun entry =>
              (entry.1.intent.operationId, ⟨attempt.planId, attempt.attempt, entry.2⟩)) } := by
    intro entries
    induction entries with
    | nil => intro journal; rfl
    | cons entry entries ih =>
      intro journal
      rw [List.foldl_cons, ih]
      rfl
  rw [reindexReleases, loop, locationEntries, releaseIds, List.zipIdx_map, List.map_map]
  rfl

theorem perm_addAcquisition (attempt : BridgeOperationAttempt)
    (intent : FenceAcquisitionIntent) :
    (attempt.addAcquisition intent).acquisitions.Perm
      (attempt.acquisitions ++ [LifecycleRecord.recorded intent]) :=
  perm_sortedBy _ _

theorem perm_addRelease (attempt : BridgeOperationAttempt) (intent : FenceReleaseIntent)
    (boundary : ℕ) : (attempt.addRelease intent boundary).releases.Perm
      (attempt.releases ++ [LifecycleRecord.recorded intent]) :=
  perm_sortedBy _ _

theorem mem_map_addAcquisition {β : Type} {attempt : BridgeOperationAttempt}
    {intent : FenceAcquisitionIntent} (f : FenceAcquisitionRecord → β) (y : β) :
    y ∈ (attempt.addAcquisition intent).acquisitions.map f ↔
      y ∈ attempt.acquisitions.map f ∨ y = f (LifecycleRecord.recorded intent) := by
  rw [((perm_addAcquisition attempt intent).map f).mem_iff]
  simp

theorem mem_map_addRelease {β : Type} {attempt : BridgeOperationAttempt}
    {intent : FenceReleaseIntent} {boundary : ℕ} (f : FenceReleaseRecord → β) (y : β) :
    y ∈ (attempt.addRelease intent boundary).releases.map f ↔
      y ∈ attempt.releases.map f ∨ y = f (LifecycleRecord.recorded intent) := by
  rw [((perm_addRelease attempt intent boundary).map f).mem_iff]
  simp

theorem mem_operationIds_addAcquisition (attempt : BridgeOperationAttempt)
    (intent : FenceAcquisitionIntent) (operationId : OperationId) :
    operationId ∈ (attempt.addAcquisition intent).operationIds ↔
      operationId ∈ attempt.operationIds ∨ operationId = .acquire intent.operationId := by
  simp only [BridgeOperationAttempt.operationIds, List.mem_append, mem_map_addAcquisition,
    recorded_intent, addAcquisition_operations, addAcquisition_releases]
  tauto

theorem mem_operationIds_addRelease (attempt : BridgeOperationAttempt)
    (intent : FenceReleaseIntent) (boundary : ℕ) (operationId : OperationId) :
    operationId ∈ (attempt.addRelease intent boundary).operationIds ↔
      operationId ∈ attempt.operationIds ∨ operationId = .release intent.operationId := by
  simp only [BridgeOperationAttempt.operationIds, List.mem_append, mem_map_addRelease,
    recorded_intent, addRelease_acquisitions, addRelease_operations]
  tauto

theorem mem_operationIds_addOperation (attempt : BridgeOperationAttempt)
    (intent : BridgeOperationIntent) (operationId : OperationId) :
    operationId ∈ (attempt.addOperation intent).operationIds ↔
      operationId ∈ attempt.operationIds ∨ operationId = .object intent.operationId := by
  simp only [BridgeOperationAttempt.operationIds, addOperation, BridgeOperationRecord.recorded,
    List.map_append, List.mem_append, List.map_cons, List.map_nil, List.mem_singleton]
  tauto

theorem owns_addAcquisition (attempt : BridgeOperationAttempt) (intent : FenceAcquisitionIntent)
    (receiptId : ReceiptId) (operationId : OperationId) :
    (attempt.addAcquisition intent).Owns receiptId operationId ↔
      attempt.Owns receiptId operationId := by
  have hnone : AcquisitionRecord.receiptId? (LifecycleRecord.recorded intent) = none := rfl
  simp only [BridgeOperationAttempt.Owns, attemptIdentityRows, List.mem_append,
    mem_map_addAcquisition, hnone, Prod.mk.injEq, reduceCtorEq, and_false, or_false,
    addAcquisition_operations, addAcquisition_releases]

theorem owns_addRelease (attempt : BridgeOperationAttempt) (intent : FenceReleaseIntent)
    (boundary : ℕ) (receiptId : ReceiptId) (operationId : OperationId) :
    (attempt.addRelease intent boundary).Owns receiptId operationId ↔
      attempt.Owns receiptId operationId := by
  have hnone : ReleaseRecord.receiptId? (LifecycleRecord.recorded intent) = none := rfl
  simp only [BridgeOperationAttempt.Owns, attemptIdentityRows, List.mem_append,
    mem_map_addRelease, hnone, Prod.mk.injEq, reduceCtorEq, and_false, or_false,
    addRelease_acquisitions, addRelease_operations]

theorem owns_addOperation (attempt : BridgeOperationAttempt) (intent : BridgeOperationIntent)
    (receiptId : ReceiptId) (operationId : OperationId) :
    (attempt.addOperation intent).Owns receiptId operationId ↔
      attempt.Owns receiptId operationId := by
  simp [BridgeOperationAttempt.Owns, attemptIdentityRows, addOperation,
    BridgeOperationRecord.recorded]

end Entries

section

variable {attempt : BridgeOperationAttempt} (h : attempt.WellFormed)
include h

theorem BridgeOperationAttempt.WellFormed.acquisitionIds_nodup :
    attempt.acquisitionIds.Nodup := by
  have hnodup := h.operationIds_nodup
  rw [operationIds_eq, List.append_assoc] at hnodup
  exact (List.nodup_append.1 hnodup).1.of_map _

theorem BridgeOperationAttempt.WellFormed.objectIds_nodup : attempt.objectIds.Nodup := by
  have hnodup := h.operationIds_nodup
  rw [operationIds_eq] at hnodup
  exact (List.nodup_append.1 (List.nodup_append.1 hnodup).1).2.1.of_map _

theorem BridgeOperationAttempt.WellFormed.releaseIds_nodup : attempt.releaseIds.Nodup := by
  have hnodup := h.operationIds_nodup
  rw [operationIds_eq] at hnodup
  exact (List.nodup_append.1 hnodup).2.1.of_map _

omit [DigestJson] h in
theorem owns_acquire_iff {receiptId : ReceiptId} {operationId : AcquireOperationId} :
    attempt.Owns receiptId (.acquire operationId) ↔ ∃ item ∈ attempt.acquisitions,
      item.intent.operationId = operationId
        ∧ AcquisitionRecord.receiptId? item = some receiptId := by
  simp [BridgeOperationAttempt.Owns, attemptIdentityRows]

omit [DigestJson] h in
theorem owns_object_iff {receiptId : ReceiptId} {operationId : ObjectOperationId} :
    attempt.Owns receiptId (.object operationId) ↔ ∃ item ∈ attempt.operations,
      item.intent.operationId = operationId
        ∧ item.receipt.map (·.receiptId) = some receiptId := by
  simp [BridgeOperationAttempt.Owns, attemptIdentityRows]

omit [DigestJson] h in
theorem owns_release_iff {receiptId : ReceiptId} {operationId : ReleaseOperationId} :
    attempt.Owns receiptId (.release operationId) ↔ ∃ item ∈ attempt.releases,
      item.intent.operationId = operationId
        ∧ ReleaseRecord.receiptId? item = some receiptId := by
  simp [BridgeOperationAttempt.Owns, attemptIdentityRows]

theorem eq_of_acquisitionId {a b : FenceAcquisitionRecord} (ha : a ∈ attempt.acquisitions)
    (hb : b ∈ attempt.acquisitions) (hid : a.intent.operationId = b.intent.operationId) : a = b :=
  List.inj_on_of_nodup_map h.acquisitionIds_nodup ha hb hid

theorem eq_of_objectId {a b : BridgeOperationRecord} (ha : a ∈ attempt.operations)
    (hb : b ∈ attempt.operations) (hid : a.intent.operationId = b.intent.operationId) : a = b :=
  List.inj_on_of_nodup_map h.objectIds_nodup ha hb hid

theorem eq_of_releaseId {a b : FenceReleaseRecord} (ha : a ∈ attempt.releases)
    (hb : b ∈ attempt.releases) (hid : a.intent.operationId = b.intent.operationId) : a = b :=
  List.inj_on_of_nodup_map h.releaseIds_nodup ha hb hid

end

namespace Represents

variable {journal next : Journal} {history : History} {old attempt : BridgeOperationAttempt}

/-- A changed attempt with one new identity and no new receipt is writable. -/
theorem writable_of_new_id (h : Represents journal history) (hold : history.Holds old)
    (hslot : old.slot = attempt.slot) {newId : OperationId} (hfresh : ¬ history.Claims newId)
    (hids : ∀ operationId, operationId ∈ attempt.operationIds ↔
      operationId ∈ old.operationIds ∨ operationId = newId)
    (howns : ∀ receiptId operationId, attempt.Owns receiptId operationId ↔
      old.Owns receiptId operationId) : history.Writable attempt := by
  refine h.writable_of_holds hold hslot (fun _ hmem => (hids _).2 (Or.inl hmem))
    (fun operationId hmem => ?_) (fun _ _ hown => (howns _ _).2 hown)
    (fun _ _ hown => Or.inl ((howns _ _).1 hown))
  rcases (hids operationId).1 hmem with hmem | rfl
  · exact Or.inl hmem
  · exact Or.inr hfresh

/-- `_claim_identity` of the one new identity. -/
theorem assigns_new_id (h : Represents journal history) (hold : history.Holds old)
    {newId : OperationId} (hids : ∀ operationId, operationId ∈ attempt.operationIds ↔
      operationId ∈ old.operationIds ∨ operationId = newId) :
    Index.Assigns IdentityRow attempt journal.identityIndex
      (journal.identityIndex.set newId newId.kind) where
  assigned operationId kind hrow := by
    obtain ⟨hmem, rfl⟩ := hrow
    rw [Dict.get?_set]
    rcases (hids operationId).1 hmem with hmem | rfl
    · split
      · rename_i heq
        rw [heq]
      · exact h.identityIndex_eq_some_iff.2 ⟨rfl, old, hold, hmem⟩
    · rw [if_pos rfl]
  kept operationId hno := by
    rw [Dict.get?_set_of_ne]
    rintro rfl
    exact hno operationId.kind ⟨(hids operationId).2 (Or.inr rfl), rfl⟩

/-- The assignments of `record_acquisition_intent`. -/
theorem addAcquisition (h : Represents journal history) (hold : history.Holds old)
    {intent : FenceAcquisitionIntent} (hfresh : ¬ history.Claims (.acquire intent.operationId))
    (hwf : (old.addAcquisition intent).WellFormed) (entry : FenceAcquisitionRecord × ℕ)
    (hentry : entry.1.intent = intent) :
    Represents (({ journal.withAttempt (old.addAcquisition intent) with
        identityIndex := journal.identityIndex.set (.acquire intent.operationId) .acquisition } :
          Journal).withAcquisitionLocation (old.addAcquisition intent) entry
        |>.reindexAcquisitions (old.addAcquisition intent))
      (history.set (old.addAcquisition intent)) := by
  have hids := mem_operationIds_addAcquisition old intent
  have howns := owns_addAcquisition old intent
  rw [reindexAcquisitions_eq]
  refine h.set hold rfl hwf rfl (h.writable_of_new_id hold rfl hfresh hids howns) ?_
  obtain ⟨location, hrow⟩ := exists_locationRow_iff.2
    (acquire_mem_operationIds.1 ((hids (.acquire intent.operationId)).2 (Or.inr rfl)))
  exact {
    acquisitions := Index.Assigns.of_set (k := entry.1.intent.operationId)
      (by rw [hentry]; exact hrow) (assigns_locationEntries hwf.acquisitionIds_nodup _)
    objects := assigns_locations h.objects hold rfl rfl
    releases := assigns_locations h.releases hold rfl rfl
    identities := h.assigns_new_id hold hids
    receipts := h.assigns_receipts hold fun _ _ hown => (howns _ _).1 hown }

/-- The assignments of `record_release_intent`. -/
theorem addRelease (h : Represents journal history) (hold : history.Holds old)
    {intent : FenceReleaseIntent} {boundary : ℕ}
    (hfresh : ¬ history.Claims (.release intent.operationId))
    (hwf : (old.addRelease intent boundary).WellFormed) (entry : FenceReleaseRecord × ℕ)
    (hentry : entry.1.intent = intent) :
    Represents (({ journal.withAttempt (old.addRelease intent boundary) with
        identityIndex := journal.identityIndex.set (.release intent.operationId) .release } :
          Journal).withReleaseLocation (old.addRelease intent boundary) entry
        |>.reindexReleases (old.addRelease intent boundary))
      (history.set (old.addRelease intent boundary)) := by
  have hids := mem_operationIds_addRelease old intent boundary
  have howns := owns_addRelease old intent boundary
  rw [reindexReleases_eq]
  refine h.set hold rfl hwf rfl (h.writable_of_new_id hold rfl hfresh hids howns) ?_
  obtain ⟨location, hrow⟩ := exists_locationRow_iff.2
    (release_mem_operationIds.1 ((hids (.release intent.operationId)).2 (Or.inr rfl)))
  exact {
    acquisitions := assigns_locations h.acquisitions hold rfl rfl
    objects := assigns_locations h.objects hold rfl rfl
    releases := Index.Assigns.of_set (k := entry.1.intent.operationId)
      (by rw [hentry]; exact hrow) (assigns_locationEntries hwf.releaseIds_nodup _)
    identities := h.assigns_new_id hold hids
    receipts := h.assigns_receipts hold fun _ _ hown => (howns _ _).1 hown }

/-- The assignments of `record_intent`. -/
theorem addOperation (h : Represents journal history) (hold : history.Holds old)
    {intent : BridgeOperationIntent} (hfresh : ¬ history.Claims (.object intent.operationId))
    (hwf : (old.addOperation intent).WellFormed)
    (hsequence : intent.sequence = old.operations.length + 1) :
    Represents (({ journal.withAttempt (old.addOperation intent) with
        identityIndex := journal.identityIndex.set (.object intent.operationId) .object } :
          Journal).withObjectLocation (old.addOperation intent)
            (BridgeOperationRecord.recorded intent, intent.sequence - 1))
      (history.set (old.addOperation intent)) := by
  have hids := mem_operationIds_addOperation old intent
  have howns := owns_addOperation old intent
  refine h.set hold rfl hwf rfl (h.writable_of_new_id hold rfl hfresh hids howns) ?_
  have hobjects : (old.addOperation intent).objectIds = old.objectIds ++ [intent.operationId] := by
    simp [objectIds, BridgeOperationAttempt.addOperation, BridgeOperationRecord.recorded]
  have hlength : old.objectIds.length = old.operations.length := List.length_map _
  exact {
    acquisitions := assigns_locations h.acquisitions hold rfl rfl
    objects := {
      assigned := by
        rintro operationId location ⟨hslot, hget⟩
        show (journal.objectIndex.set intent.operationId ⟨_, _, _⟩).get? operationId = _
        rw [hobjects] at hget
        -- the earlier rows keep their place; the new one is the last
        by_cases hlt : location.index < old.objectIds.length
        · rw [List.getElem?_append_left hlt] at hget
          have hne : operationId ≠ intent.operationId := by
            rintro rfl
            exact hfresh ⟨old, hold, object_mem_operationIds.2 (List.mem_of_getElem? hget)⟩
          rw [Dict.get?_set_of_ne _ _ hne]
          exact (h.objects _ _).2 ⟨old, hold, hslot, hget⟩
        · rw [List.getElem?_append_right (by omega), List.getElem?_singleton] at hget
          split at hget
          · rw [← Option.some.inj hget, Dict.get?_set_self]
            obtain ⟨planId, number, index⟩ := location
            obtain ⟨rfl, rfl⟩ := Prod.mk.inj hslot
            have hindex : intent.sequence - 1 = index := by
              dsimp only at hlt
              rename_i hzero
              dsimp only at hzero
              omega
            exact congrArg (fun i => some (⟨_, _, i⟩ : Location)) hindex
          · cases hget
      kept := by
        intro operationId hno
        show (journal.objectIndex.set intent.operationId ⟨_, _, _⟩).get? operationId = _
        rw [Dict.get?_set_of_ne]
        rintro rfl
        obtain ⟨location, hrow⟩ := exists_locationRow_iff.2
          (object_mem_operationIds.1 ((hids (.object intent.operationId)).2 (Or.inr rfl)))
        exact hno location hrow }
    releases := assigns_locations h.releases hold rfl rfl
    identities := h.assigns_new_id hold hids
    receipts := h.assigns_receipts hold fun _ _ hown => (howns _ _).1 hown }

end Represents

/-! ## Appended attempts -/

section

omit [DigestJson]

/-- Every identity is recorded with the kind that its tag names. -/
def KindsMatch (journal : Journal) : Prop :=
  ∀ operationId kind, journal.identityIndex.get? operationId = some kind →
    kind = operationId.kind

theorem Represents.kindsMatch [DigestJson] {journal : Journal} {history : History}
    (h : Represents journal history) : KindsMatch journal :=
  fun _ _ hget => (h.identityIndex_eq_some_iff.1 hget).1

/-- `_claim_identity`, when it does not raise. -/
def withIdentity (journal : Journal) (operationId : OperationId) : Journal :=
  { journal with identityIndex := journal.identityIndex.set operationId operationId.kind }

theorem KindsMatch.withIdentity {journal : Journal} (h : KindsMatch journal)
    (operationId : OperationId) : KindsMatch (withIdentity journal operationId) := by
  intro id kind hget
  show kind = _
  rw [Transaction.withIdentity, Dict.get?_set] at hget
  split at hget
  · rename_i heq
    rw [heq]
    exact (Option.some.inj hget).symm
  · exact h id kind hget

theorem run_claimIdentity {journal : Journal} (h : KindsMatch journal)
    (operationId : OperationId) : (claimIdentity operationId operationId.kind).run journal
      = (.ok (), withIdentity journal operationId) := by
  simp only [claimIdentity, Method.run_bind_ok, Method.run_get_ok, Method.run_require_ok,
    Method.run_modify_ok]
  refine ⟨journal, journal, ⟨rfl, rfl⟩, (), journal, ⟨fun kind hkind => ?_, rfl⟩, rfl⟩
  exact h operationId kind hkind

/-- The receipt entry of a record. -/
def receiptEntry (row : OperationId × Option ReceiptId) : Option (ReceiptId × OperationId) :=
  row.2.map fun receiptId => (receiptId, row.1)

theorem withReceipt?_eq (journal : Journal) (row : OperationId × Option ReceiptId) :
    journal.withReceipt? row.2 row.1 = { journal with
      receiptIndex := journal.receiptIndex.assign (receiptEntry row).toList } := by
  obtain ⟨operationId, receiptId | receiptId⟩ := row <;> rfl

theorem KindsMatch.withReceipt? {journal : Journal} (h : KindsMatch journal)
    (row : OperationId × Option ReceiptId) : KindsMatch (journal.withReceipt? row.2 row.1) := by
  rw [withReceipt?_eq]
  exact h

/-- The claims and receipts of a list of rows. -/
def withRows (journal : Journal) (rows : List (OperationId × Option ReceiptId)) : Journal :=
  { journal with
    identityIndex := journal.identityIndex.assign (rows.map fun row => (row.1, row.1.kind))
    receiptIndex := journal.receiptIndex.assign (rows.filterMap receiptEntry) }

theorem withRows_append (journal : Journal) (xs ys : List (OperationId × Option ReceiptId)) :
    withRows journal (xs ++ ys) = withRows (withRows journal xs) ys := by
  simp only [withRows, List.map_append, List.filterMap_append, Dict.assign_append]

theorem KindsMatch.withRows {journal : Journal} (h : KindsMatch journal)
    (rows : List (OperationId × Option ReceiptId)) : KindsMatch (withRows journal rows) := by
  induction rows generalizing journal with
  | nil => exact h
  | cons row rows ih =>
    rw [← List.singleton_append, withRows_append]
    exact ih (h.withIdentity row.1)

/-- One loop of `_index_attempt`, when no identity changes its kind: `locate` assigns the
location of an item. -/
theorem run_indexLoop {α : Type} (row : α → OperationId × Option ReceiptId)
    (locate : Journal → α → Journal)
    (hkeep : ∀ journal item, (locate journal item).identityIndex = journal.identityIndex)
    (hrows : ∀ journal item rows, locate (withRows journal rows) item
      = withRows (locate journal item) rows)
    (items : List α) {journal : Journal} (h : KindsMatch journal) :
    (Method.forEach (fun item => do
        claimIdentity (row item).1 (row item).1.kind
        Method.modify fun journal =>
          (locate journal item).withReceipt? (row item).2 (row item).1) items).run journal
      = (.ok (), withRows (items.foldl locate journal) (items.map row))
      ∧ KindsMatch (withRows (items.foldl locate journal) (items.map row)) := by
  have hfold : ∀ journal : Journal, items.foldl (fun journal item =>
      (locate (withIdentity journal (row item).1) item).withReceipt? (row item).2 (row item).1)
      journal = withRows (items.foldl locate journal) (items.map row) := by
    intro journal
    induction items using List.reverseRecOn with
    | nil => rfl
    | append_singleton items item ih =>
      have hlocate : ∀ journal : Journal, locate (withIdentity journal (row item).1) item
          = withIdentity (locate journal item) (row item).1 :=
        fun journal => hrows journal item [((row item).1, none)]
      rw [List.foldl_append, ih, List.foldl_append, List.map_append, withRows_append,
        List.foldl_cons, List.foldl_nil, List.foldl_cons, List.foldl_nil, hlocate, hrows,
        withReceipt?_eq]
      cases hentry : receiptEntry (row item) with
      | none => simp [withRows, withIdentity, hentry]
      | some entry => simp [withRows, withIdentity, hentry]
  have hindex : (items.foldl locate journal).identityIndex = journal.identityIndex := by
    clear hfold
    induction items using List.reverseRecOn with
    | nil => rfl
    | append_singleton items item ih =>
      rw [List.foldl_append, List.foldl_cons, List.foldl_nil, hkeep, ih]
  refine ⟨?_, KindsMatch.withRows (fun id kind hget => h id kind (hindex ▸ hget)) _⟩
  rw [← hfold]
  refine Method.run_forEach (f := fun journal item =>
      (locate (withIdentity journal (row item).1) item).withReceipt? (row item).2 (row item).1)
    (I := KindsMatch) (fun journal item hkinds => ?_) (fun journal item hkinds => ?_) items h
  · rw [Method.run_bind_ok]
    exact ⟨(), _, run_claimIdentity hkinds _, rfl⟩
  · refine KindsMatch.withReceipt? (fun id kind hget => ?_) (row item)
    rw [hkeep] at hget
    exact hkinds.withIdentity _ id kind hget

/-- `_index_attempt`, when no identity changes its kind. -/
def indexed (journal : Journal) (attempt : BridgeOperationAttempt) : Journal :=
  { withRows journal (attemptIdentityRows attempt) with
    acquisitionIndex := journal.acquisitionIndex.assign (locationEntries acquisitionIds attempt)
    objectIndex := journal.objectIndex.assign (locationEntries objectIds attempt)
    releaseIndex := journal.releaseIndex.assign (locationEntries releaseIds attempt) }

theorem foldl_withAcquisitionLocation (journal : Journal) (attempt : BridgeOperationAttempt) :
    attempt.acquisitions.zipIdx.foldl (fun journal entry =>
        journal.withAcquisitionLocation attempt entry) journal
      = { journal with
          acquisitionIndex :=
            journal.acquisitionIndex.assign (locationEntries acquisitionIds attempt) } :=
  reindexAcquisitions_eq journal attempt

theorem foldl_withReleaseLocation (journal : Journal) (attempt : BridgeOperationAttempt) :
    attempt.releases.zipIdx.foldl (fun journal entry =>
        journal.withReleaseLocation attempt entry) journal
      = { journal with
          releaseIndex := journal.releaseIndex.assign (locationEntries releaseIds attempt) } :=
  reindexReleases_eq journal attempt

theorem foldl_withObjectLocation (journal : Journal) (attempt : BridgeOperationAttempt) :
    attempt.operations.zipIdx.foldl (fun journal entry =>
        journal.withObjectLocation attempt entry) journal
      = { journal with
          objectIndex := journal.objectIndex.assign (locationEntries objectIds attempt) } := by
  have loop : ∀ (entries : List (BridgeOperationRecord × ℕ)) (journal : Journal),
      entries.foldl (fun journal entry => journal.withObjectLocation attempt entry) journal
        = { journal with
            objectIndex := journal.objectIndex.assign (entries.map fun entry =>
              (entry.1.intent.operationId, ⟨attempt.planId, attempt.attempt, entry.2⟩)) } := by
    intro entries
    induction entries with
    | nil => intro journal; rfl
    | cons entry entries ih =>
      intro journal
      rw [List.foldl_cons, ih]
      rfl
  rw [loop, locationEntries, objectIds, List.zipIdx_map, List.map_map]
  rfl

theorem map_zipIdx_fst {α β : Type} (f : α → β) (items : List α) :
    items.zipIdx.map (fun entry => f entry.1) = items.map f := by
  rw [show (fun entry : α × ℕ => f entry.1) = f ∘ Prod.fst from rfl, ← List.map_map,
    List.zipIdx_map_fst]

/-- `_index_attempt` raises only when an identity changes its kind. -/
theorem run_indexAttempt {journal : Journal} (h : KindsMatch journal)
    (attempt : BridgeOperationAttempt) :
    (indexAttempt attempt).run journal = (.ok (), indexed journal attempt) := by
  have acquisitions := fun (j : Journal) (hj : KindsMatch j) =>
    run_indexLoop (fun entry : FenceAcquisitionRecord × ℕ =>
        (.acquire entry.1.intent.operationId, AcquisitionRecord.receiptId? entry.1))
      (fun journal entry => journal.withAcquisitionLocation attempt entry)
      (fun _ _ => rfl) (fun _ _ _ => rfl) attempt.acquisitions.zipIdx hj
  have operations := fun (j : Journal) (hj : KindsMatch j) =>
    run_indexLoop (fun entry : BridgeOperationRecord × ℕ =>
        (.object entry.1.intent.operationId, entry.1.receipt.map (·.receiptId)))
      (fun journal entry => journal.withObjectLocation attempt entry)
      (fun _ _ => rfl) (fun _ _ _ => rfl) attempt.operations.zipIdx hj
  have releases := fun (j : Journal) (hj : KindsMatch j) =>
    run_indexLoop (fun entry : FenceReleaseRecord × ℕ =>
        (.release entry.1.intent.operationId, ReleaseRecord.receiptId? entry.1))
      (fun journal entry => journal.withReleaseLocation attempt entry)
      (fun _ _ => rfl) (fun _ _ _ => rfl) attempt.releases.zipIdx hj
  rw [indexAttempt, Method.run_bind_ok]
  refine ⟨(), _, (acquisitions journal h).1, ?_⟩
  rw [Method.run_bind_ok]
  refine ⟨(), _, (operations _ (acquisitions journal h).2).1, ?_⟩
  refine (releases _ (operations _ (acquisitions journal h).2).2).1.trans ?_
  rw [foldl_withAcquisitionLocation, foldl_withObjectLocation, foldl_withReleaseLocation,
    map_zipIdx_fst (fun item : FenceAcquisitionRecord =>
      (OperationId.acquire item.intent.operationId, AcquisitionRecord.receiptId? item)),
    map_zipIdx_fst (fun item : BridgeOperationRecord =>
      (OperationId.object item.intent.operationId, item.receipt.map (·.receiptId))),
    map_zipIdx_fst (fun item : FenceReleaseRecord =>
      (OperationId.release item.intent.operationId, ReleaseRecord.receiptId? item))]
  rw [indexed, attemptIdentityRows, withRows_append, withRows_append]
  rfl

end

namespace Represents

variable {journal : Journal} {history : History} {attempt : BridgeOperationAttempt}

/-- `self._attempts.setdefault(plan_id, [])` is not observable. -/
theorem setDefault (h : Represents journal history) (planId : PlanId) :
    Represents { journal with
      attempts := journal.attempts.set planId (journal.attemptsFor planId) } history where
  attempts p := by
    rw [← h.attempts p]
    show ((journal.attempts.set _ _).get? p).getD [] = _
    rw [Dict.get?_set]
    split
    · rename_i hp
      rw [hp]
      rfl
    · rfl
  located := h.located
  wellFormed := h.wellFormed
  acquisitions := h.acquisitions
  objects := h.objects
  releases := h.releases
  identities := h.identities
  receipts := h.receipts

/-- The assignments of `append_attempt`. -/
theorem append (h : Represents journal history) (hwf : attempt.WellFormed)
    (hnumber : attempt.attempt = (history attempt.planId).length + 1)
    (hids : ∀ operationId ∈ attempt.operationIds, ¬ history.Claims operationId)
    (hreceipts : ∀ receiptId ∈ attempt.receiptIds, ¬ history.Received receiptId) :
    Represents (indexed { journal with
        attempts := journal.attempts.set attempt.planId
          (journal.attemptsFor attempt.planId ++ [attempt]) } attempt)
      (history.append attempt) := by
  -- the new attempt takes the slot after the last one of its plan
  have hslot : ∀ x, history.Holds x → x.slot ≠ attempt.slot := by
    intro x hx heq
    have hplan : x.planId = attempt.planId := congrArg Prod.fst heq
    have hattempt : x.attempt = attempt.attempt := congrArg Prod.snd heq
    have hlt := (List.getElem?_eq_some_iff.1 hx.2).1
    rw [hplan] at hlt
    omega
  refine h.write (fun planId => ?_) (h.located.append hnumber) hwf (History.writes_append hnumber)
    ?_ ?_
  · show ((journal.attempts.set _ _).get? planId).getD [] = _
    rw [Dict.get?_set, History.append]
    split
    · rename_i hp
      rw [hp, Function.update_self, h.attempts]
      rfl
    · rename_i hp
      rw [Function.update_of_ne hp]
      exact h.attempts planId
  -- nothing that was stored owns an identifier of the new attempt
  · exact {
      ids_unclaimed := fun x operationId hx hmem hmem' =>
        absurd ⟨x, hx, hmem⟩ (hids operationId hmem')
      ids_kept := fun x operationId hx heq _ => absurd heq (hslot x hx)
      receipts_unclaimed := fun x receiptId operationId operationId' hx hown hown' =>
        absurd ⟨operationId, x, hx, hown⟩ (hreceipts receiptId (mem_receiptIds.2 ⟨_, hown'⟩))
      receipts_kept := fun x receiptId operationId hx heq _ => absurd heq (hslot x hx) }
  -- the rows of the index are the identifiers of the attempt, in their order
  · have hrows : ((attemptIdentityRows attempt).map fun row => (row.1, row.1.kind)).map Prod.fst
        = attempt.operationIds := by
      rw [List.map_map]
      exact map_fst_attemptIdentityRows attempt
    have hentries : ((attemptIdentityRows attempt).filterMap receiptEntry).map Prod.fst
        = attempt.receiptIds := by
      rw [List.map_filterMap, ← filterMap_snd_attemptIdentityRows]
      refine congrArg (fun f => List.filterMap f _) (funext fun row => ?_)
      obtain ⟨operationId, receiptId | receiptId⟩ := row <;> rfl
    exact {
      acquisitions := assigns_locationEntries hwf.acquisitionIds_nodup _
      objects := assigns_locationEntries hwf.objectIds_nodup _
      releases := assigns_locationEntries hwf.releaseIds_nodup _
      identities := Index.Assigns.assign (by rw [hrows]; exact hwf.operationIds_nodup)
        (fun operationId kind => by
          unfold IdentityRow
          rw [← map_fst_attemptIdentityRows]
          simp only [List.mem_map, Prod.mk.injEq]
          constructor
          · rintro ⟨⟨row, hmem, rfl⟩, rfl⟩
            exact ⟨row, hmem, rfl, rfl⟩
          · rintro ⟨row, hmem, rfl, rfl⟩
            exact ⟨⟨row, hmem, rfl⟩, rfl⟩) _
      receipts := Index.Assigns.assign (by rw [hentries]; exact hwf.receiptIds_nodup)
        (fun receiptId operationId => by
          simp only [BridgeOperationAttempt.Owns, List.mem_filterMap, receiptEntry,
            Option.map_eq_some_iff, Prod.mk.injEq]
          constructor
          · intro hmem
            exact ⟨_, hmem, receiptId, rfl, rfl, rfl⟩
          · rintro ⟨⟨_, _⟩, hmem, _, rfl, rfl, rfl⟩
            exact hmem) _ }

end Represents

/-- The empty journal represents the empty history. -/
theorem represents_empty : Represents {} fun _ => [] := by
  have hnone : ∀ x, ¬ History.Holds (fun _ => []) x := fun x hx => by
    simp [History.Holds] at hx
  have htracks : ∀ {κ ν : Type} [DecidableEq κ] (rows : BridgeOperationAttempt → κ → ν → Prop),
      Index.Tracks Dict.empty rows (History.Holds fun _ => []) := by
    intro κ ν _ rows k v
    simp [hnone]
  exact {
    attempts := fun _ => rfl
    located := fun planId index attempt hget => by simp at hget
    wellFormed := fun attempt hx => absurd hx (hnone attempt)
    acquisitions := htracks _
    objects := htracks _
    releases := htracks _
    identities := htracks _
    receipts := htracks _ }

end TrueFamily.Transaction
