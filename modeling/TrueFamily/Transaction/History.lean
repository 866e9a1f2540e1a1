import Mathlib.Logic.Function.Basic
import TrueFamily.Lib.Index
import TrueFamily.Transaction.Journal

/-!
# Histories

What a journal is for, without its indexes: a `History` lists the attempts of every plan in
order. A record is found by looking for it; the journal's five dictionaries only make this fast.

`Represents` relates the two levels. It says that the journal's lists are the history's and that
each dictionary tracks the rows of the attempts held, and `Represents.write` that this survives
writing an attempt to its slot when the dictionaries assign exactly its rows.
-/

namespace TrueFamily.Transaction

open Checked Sorting InMemoryBridgeOperationJournal

variable [DigestJson]

/-! ## Attempts by slot -/

/-- The place of an attempt: its plan and its number. -/
def BridgeOperationAttempt.slot (attempt : BridgeOperationAttempt) : PlanId × ℕ :=
  (attempt.planId, attempt.attempt)

/-- The attempts of every plan, in order. -/
abbrev History := PlanId → List BridgeOperationAttempt

namespace History

/-- The attempt stands at its own place in the history. -/
def Holds (history : History) (attempt : BridgeOperationAttempt) : Prop :=
  1 ≤ attempt.attempt ∧ (history attempt.planId)[attempt.attempt - 1]? = some attempt

/-- Every attempt of the history stands at its own place. -/
def Located (history : History) : Prop :=
  ∀ planId index attempt, (history planId)[index]? = some attempt →
    attempt.planId = planId ∧ attempt.attempt = index + 1

/-- The history after the attempt in a slot changed. -/
def set (history : History) (attempt : BridgeOperationAttempt) : History :=
  Function.update history attempt.planId
    ((history attempt.planId).set (attempt.attempt - 1) attempt)

/-- The history after a plan got a new attempt. -/
def append (history : History) (attempt : BridgeOperationAttempt) : History :=
  Function.update history attempt.planId (history attempt.planId ++ [attempt])

omit [DigestJson]

theorem Holds.unique {history : History} {a b : BridgeOperationAttempt} (ha : history.Holds a)
    (hb : history.Holds b) (hslot : a.slot = b.slot) : a = b := by
  have hplan : a.planId = b.planId := congrArg Prod.fst hslot
  have hnumber : a.attempt = b.attempt := congrArg Prod.snd hslot
  have hget := ha.2
  rw [hplan, hnumber, hb.2] at hget
  exact (Option.some.inj hget).symm

theorem Located.holds {history : History} (h : history.Located) {planId : PlanId} {index : ℕ}
    {attempt : BridgeOperationAttempt} (hget : (history planId)[index]? = some attempt) :
    history.Holds attempt := by
  obtain ⟨hplan, hnumber⟩ := h planId index attempt hget
  refine ⟨by omega, ?_⟩
  rw [hplan, hnumber]
  exact hget

theorem Located.holds_of_mem {history : History} (h : history.Located) {planId : PlanId}
    {attempt : BridgeOperationAttempt} (hmem : attempt ∈ history planId) :
    history.Holds attempt ∧ attempt.planId = planId := by
  obtain ⟨index, hget⟩ := List.mem_iff_getElem?.1 hmem
  exact ⟨h.holds hget, (h planId index attempt hget).1⟩

theorem Holds.mem {history : History} {attempt : BridgeOperationAttempt}
    (h : history.Holds attempt) : attempt ∈ history attempt.planId :=
  List.mem_of_getElem? h.2

/-! ### Writing an attempt -/

theorem Located.set {history : History} (h : history.Located) {old attempt : BridgeOperationAttempt}
    (hold : history.Holds old) (hslot : old.slot = attempt.slot) :
    (history.set attempt).Located := by
  intro planId index found hget
  have hnumber : old.attempt = attempt.attempt := congrArg Prod.snd hslot
  have hpos := hold.1
  by_cases hplan : planId = attempt.planId
  · subst hplan
    rw [History.set, Function.update_self, List.getElem?_set] at hget
    split at hget
    · rename_i hindex
      split at hget
      · rw [Option.some.injEq] at hget
        subst hget
        exact ⟨rfl, by omega⟩
      · cases hget
    · exact h _ index found hget
  · rw [History.set, Function.update_of_ne hplan] at hget
    exact h planId index found hget

theorem Located.append {history : History} (h : history.Located)
    {attempt : BridgeOperationAttempt}
    (hnumber : attempt.attempt = (history attempt.planId).length + 1) :
    (history.append attempt).Located := by
  intro planId index found hget
  by_cases hplan : planId = attempt.planId
  · subst hplan
    rw [History.append, Function.update_self] at hget
    by_cases hindex : index < (history attempt.planId).length
    · rw [List.getElem?_append_left hindex] at hget
      exact h _ index found hget
    · rw [List.getElem?_append_right (by omega), List.getElem?_singleton] at hget
      split at hget
      · rw [Option.some.injEq] at hget
        subst hget
        exact ⟨rfl, by omega⟩
      · cases hget
  · rw [History.append, Function.update_of_ne hplan] at hget
    exact h planId index found hget

/-- Setting an attempt writes it to its slot. -/
theorem Holds.writes_set {history : History} {old attempt : BridgeOperationAttempt}
    (hold : history.Holds old) (hslot : old.slot = attempt.slot) :
    Index.Writes BridgeOperationAttempt.slot history.Holds attempt (history.set attempt).Holds := by
  have hplan : old.planId = attempt.planId := congrArg Prod.fst hslot
  have hnumber : old.attempt = attempt.attempt := congrArg Prod.snd hslot
  have hlt : attempt.attempt - 1 < (history attempt.planId).length := by
    have hget := hold.2
    rw [hplan, hnumber] at hget
    exact (List.getElem?_eq_some_iff.1 hget).1
  have hpos := hold.1
  intro x
  unfold Holds
  by_cases hx : x.planId = attempt.planId
  · rw [History.set, hx, Function.update_self, List.getElem?_set]
    by_cases hi : attempt.attempt - 1 = x.attempt - 1
    · rw [if_pos hi, if_pos hlt, Option.some.injEq]
      constructor
      · intro ⟨_, heq⟩
        exact Or.inl heq.symm
      · rintro (rfl | ⟨⟨hxpos, _⟩, hne⟩)
        · exact ⟨by omega, rfl⟩
        · exact absurd (Prod.ext hx (by show x.attempt = attempt.attempt; omega)) hne
    · rw [if_neg hi]
      constructor
      · intro hheld
        refine Or.inr ⟨hheld, fun heq => hi ?_⟩
        rw [show x.attempt = attempt.attempt from congrArg Prod.snd heq]
      · rintro (rfl | ⟨hheld, _⟩)
        · exact absurd rfl hi
        · exact hheld
  · rw [History.set, Function.update_of_ne hx]
    constructor
    · intro hheld
      exact Or.inr ⟨hheld, fun heq => hx (congrArg Prod.fst heq)⟩
    · rintro (rfl | ⟨hheld, _⟩)
      · exact absurd rfl hx
      · exact hheld

theorem Holds.after_set {history : History} {attempt next : BridgeOperationAttempt}
    (hold : history.Holds attempt) (hslot : attempt.slot = next.slot) :
    (history.set next).Holds next :=
  (hold.writes_set hslot next).2 (Or.inl rfl)

/-- Appending an attempt writes it to a new slot. -/
theorem writes_append {history : History} {attempt : BridgeOperationAttempt}
    (hnumber : attempt.attempt = (history attempt.planId).length + 1) :
    Index.Writes BridgeOperationAttempt.slot history.Holds attempt
      (history.append attempt).Holds := by
  intro x
  unfold Holds
  by_cases hx : x.planId = attempt.planId
  · rw [History.append, hx, Function.update_self]
    by_cases hi : x.attempt - 1 < (history attempt.planId).length
    · rw [List.getElem?_append_left hi]
      constructor
      · intro hheld
        refine Or.inr ⟨hheld, fun heq => ?_⟩
        have : x.attempt = attempt.attempt := congrArg Prod.snd heq
        omega
      · rintro (rfl | ⟨hheld, _⟩)
        · omega
        · exact hheld
    · rw [List.getElem?_append_right (by omega), List.getElem?_singleton,
        List.getElem?_eq_none (by omega)]
      constructor
      · intro ⟨_, heq⟩
        split at heq
        · exact Or.inl (Option.some.inj heq).symm
        · cases heq
      · rintro (rfl | ⟨⟨_, heq⟩, _⟩)
        · exact ⟨by omega, by rw [if_pos (by omega)]⟩
        · cases heq
  · rw [History.append, Function.update_of_ne hx]
    constructor
    · intro hheld
      exact Or.inr ⟨hheld, fun heq => hx (congrArg Prod.fst heq)⟩
    · rintro (rfl | ⟨hheld, _⟩)
      · exact absurd rfl hx
      · exact hheld

end History

/-! ## Records by identity -/

namespace BridgeOperationAttempt

/-- The acquisition identities, in the order of the records. -/
def acquisitionIds (attempt : BridgeOperationAttempt) : List AcquireOperationId :=
  attempt.acquisitions.map (·.intent.operationId)

/-- The object operation identities, in the order of the records. -/
def objectIds (attempt : BridgeOperationAttempt) : List ObjectOperationId :=
  attempt.operations.map (·.intent.operationId)

/-- The release identities, in the order of the records. -/
def releaseIds (attempt : BridgeOperationAttempt) : List ReleaseOperationId :=
  attempt.releases.map (·.intent.operationId)

/-- The attempt holds this receipt under this operation. -/
def Owns (attempt : BridgeOperationAttempt) (receiptId : ReceiptId)
    (operationId : OperationId) : Prop :=
  (operationId, some receiptId) ∈ attemptIdentityRows attempt

omit [DigestJson]

@[simp] theorem acquire_mem_operationIds {attempt : BridgeOperationAttempt}
    {operationId : AcquireOperationId} :
    .acquire operationId ∈ attempt.operationIds ↔ operationId ∈ attempt.acquisitionIds := by
  simp [operationIds, acquisitionIds]

@[simp] theorem object_mem_operationIds {attempt : BridgeOperationAttempt}
    {operationId : ObjectOperationId} :
    .object operationId ∈ attempt.operationIds ↔ operationId ∈ attempt.objectIds := by
  simp [operationIds, objectIds]

@[simp] theorem release_mem_operationIds {attempt : BridgeOperationAttempt}
    {operationId : ReleaseOperationId} :
    .release operationId ∈ attempt.operationIds ↔ operationId ∈ attempt.releaseIds := by
  simp [operationIds, releaseIds]

theorem map_fst_attemptIdentityRows (attempt : BridgeOperationAttempt) :
    (attemptIdentityRows attempt).map Prod.fst = attempt.operationIds := by
  simp [attemptIdentityRows, operationIds, Function.comp_def]

theorem filterMap_snd_attemptIdentityRows (attempt : BridgeOperationAttempt) :
    (attemptIdentityRows attempt).filterMap Prod.snd = attempt.receiptIds := by
  simp [attemptIdentityRows, receiptIds, List.filterMap_map]

theorem Owns.mem_operationIds {attempt : BridgeOperationAttempt} {receiptId : ReceiptId}
    {operationId : OperationId} (h : attempt.Owns receiptId operationId) :
    operationId ∈ attempt.operationIds := by
  rw [← map_fst_attemptIdentityRows]
  exact List.mem_map_of_mem (f := Prod.fst) h

theorem mem_receiptIds {attempt : BridgeOperationAttempt} {receiptId : ReceiptId} :
    receiptId ∈ attempt.receiptIds ↔ ∃ operationId, attempt.Owns receiptId operationId := by
  rw [← filterMap_snd_attemptIdentityRows]
  simp [Owns]

/-- The rows that the location index of a kind of record tracks. -/
def LocationRow {κ : Type} (ids : BridgeOperationAttempt → List κ)
    (attempt : BridgeOperationAttempt) (operationId : κ) (location : Location) : Prop :=
  (location.planId, location.attempt) = attempt.slot
    ∧ (ids attempt)[location.index]? = some operationId

/-- The rows that the identity index tracks. -/
def IdentityRow (attempt : BridgeOperationAttempt) (operationId : OperationId)
    (kind : IdentityKind) : Prop :=
  operationId ∈ attempt.operationIds ∧ kind = operationId.kind

theorem locationRow_of_getElem? {κ : Type} {ids : BridgeOperationAttempt → List κ}
    {attempt : BridgeOperationAttempt} {operationId : κ} {index : ℕ}
    (h : (ids attempt)[index]? = some operationId) :
    LocationRow ids attempt operationId ⟨attempt.planId, attempt.attempt, index⟩ :=
  ⟨rfl, h⟩

theorem exists_locationRow_iff {κ : Type} {ids : BridgeOperationAttempt → List κ}
    {attempt : BridgeOperationAttempt} {operationId : κ} :
    (∃ location, LocationRow ids attempt operationId location) ↔ operationId ∈ ids attempt := by
  rw [List.mem_iff_getElem?]
  constructor
  · intro ⟨location, _, hget⟩
    exact ⟨location.index, hget⟩
  · intro ⟨index, hget⟩
    exact ⟨_, locationRow_of_getElem? hget⟩

end BridgeOperationAttempt

namespace History

/-- Some attempt of the history has recorded this identity. -/
def Claims (history : History) (operationId : OperationId) : Prop :=
  ∃ attempt, history.Holds attempt ∧ operationId ∈ attempt.operationIds

/-- Some attempt of the history holds this receipt under this operation. -/
def Owns (history : History) (receiptId : ReceiptId) (operationId : OperationId) : Prop :=
  ∃ attempt, history.Holds attempt ∧ attempt.Owns receiptId operationId

/-- The acquisition is recorded in this attempt at this index. -/
structure AcquisitionAt (history : History) (operationId : AcquireOperationId)
    (attempt : BridgeOperationAttempt) (index : ℕ) (record : FenceAcquisitionRecord) : Prop where
  holds : history.Holds attempt
  get : attempt.acquisitions[index]? = some record
  id_eq : record.intent.operationId = operationId

/-- The object operation is recorded in this attempt at this index. -/
structure OperationAt (history : History) (operationId : ObjectOperationId)
    (attempt : BridgeOperationAttempt) (index : ℕ) (record : BridgeOperationRecord) : Prop where
  holds : history.Holds attempt
  get : attempt.operations[index]? = some record
  id_eq : record.intent.operationId = operationId

/-- The release is recorded in this attempt at this index. -/
structure ReleaseAt (history : History) (operationId : ReleaseOperationId)
    (attempt : BridgeOperationAttempt) (index : ℕ) (record : FenceReleaseRecord) : Prop where
  holds : history.Holds attempt
  get : attempt.releases[index]? = some record
  id_eq : record.intent.operationId = operationId

end History

/-! ## Representation -/

open BridgeOperationAttempt in
/-- The journal holds the history, and its dictionaries index exactly its records. -/
structure Represents (journal : Journal) (history : History) : Prop where
  attempts : ∀ planId, journal.attemptsFor planId = history planId
  located : history.Located
  wellFormed : ∀ attempt, history.Holds attempt → attempt.WellFormed
  acquisitions : Index.Tracks journal.acquisitionIndex (LocationRow acquisitionIds) history.Holds
  objects : Index.Tracks journal.objectIndex (LocationRow objectIds) history.Holds
  releases : Index.Tracks journal.releaseIndex (LocationRow releaseIds) history.Holds
  identities : Index.Tracks journal.identityIndex IdentityRow history.Holds
  receipts : Index.Tracks journal.receiptIndex BridgeOperationAttempt.Owns history.Holds

/-- An attempt that may be written: its identities and receipts occur in no other slot, and
include those of the attempt that it replaces. -/
structure History.Writable (history : History) (attempt : BridgeOperationAttempt) : Prop where
  ids_unclaimed : ∀ x operationId, history.Holds x → operationId ∈ x.operationIds →
    operationId ∈ attempt.operationIds → x.slot = attempt.slot
  ids_kept : ∀ x operationId, history.Holds x → x.slot = attempt.slot →
    operationId ∈ x.operationIds → operationId ∈ attempt.operationIds
  receipts_unclaimed : ∀ x receiptId operationId operationId', history.Holds x →
    x.Owns receiptId operationId → attempt.Owns receiptId operationId' → x.slot = attempt.slot
  receipts_kept : ∀ x receiptId operationId, history.Holds x → x.slot = attempt.slot →
    x.Owns receiptId operationId → attempt.Owns receiptId operationId

open BridgeOperationAttempt in
/-- The dictionaries of `next` assign the rows of the attempt and keep the rest of `journal`. -/
structure IndexesAttempt (journal next : Journal) (attempt : BridgeOperationAttempt) : Prop where
  acquisitions : Index.Assigns (LocationRow acquisitionIds) attempt journal.acquisitionIndex
    next.acquisitionIndex
  objects : Index.Assigns (LocationRow objectIds) attempt journal.objectIndex next.objectIndex
  releases : Index.Assigns (LocationRow releaseIds) attempt journal.releaseIndex
    next.releaseIndex
  identities : Index.Assigns IdentityRow attempt journal.identityIndex next.identityIndex
  receipts : Index.Assigns BridgeOperationAttempt.Owns attempt journal.receiptIndex
    next.receiptIndex

namespace Represents

variable {journal next : Journal} {history history' : History}

omit [DigestJson] in
theorem admits_locations {κ : Type} {ids : BridgeOperationAttempt → List κ}
    {tag : κ → OperationId} {attempt : BridgeOperationAttempt}
    (htag : ∀ (x : BridgeOperationAttempt) (k : κ), tag k ∈ x.operationIds ↔ k ∈ ids x)
    (hw : history.Writable attempt) :
    Index.Admits BridgeOperationAttempt.slot (BridgeOperationAttempt.LocationRow ids)
      history.Holds attempt where
  unclaimed x k v v' hx hv hv' :=
    hw.ids_unclaimed x (tag k) hx
      ((htag x k).2 (BridgeOperationAttempt.exists_locationRow_iff.1 ⟨v, hv⟩))
      ((htag attempt k).2 (BridgeOperationAttempt.exists_locationRow_iff.1 ⟨v', hv'⟩))
  keeps x k v hx hslot hv := by
    have hmem := hw.ids_kept x (tag k) hx hslot
      ((htag x k).2 (BridgeOperationAttempt.exists_locationRow_iff.1 ⟨v, hv⟩))
    exact BridgeOperationAttempt.exists_locationRow_iff.2 ((htag attempt k).1 hmem)

/-- Writing an attempt to its slot and indexing it keeps the representation. -/
theorem write (h : Represents journal history) {attempt : BridgeOperationAttempt}
    (hattempts : ∀ planId, next.attemptsFor planId = history' planId)
    (hlocated : history'.Located) (hwf : attempt.WellFormed)
    (hwrite : Index.Writes BridgeOperationAttempt.slot history.Holds attempt history'.Holds)
    (hw : history.Writable attempt) (hindex : IndexesAttempt journal next attempt) :
    Represents next history' where
  attempts := hattempts
  located := hlocated
  wellFormed x hx := by
    rcases (hwrite x).1 hx with rfl | ⟨hheld, _⟩
    · exact hwf
    · exact h.wellFormed x hheld
  acquisitions := h.acquisitions.write hwrite
    (admits_locations (fun _ _ => BridgeOperationAttempt.acquire_mem_operationIds) hw)
    hindex.acquisitions
  objects := h.objects.write hwrite
    (admits_locations (fun _ _ => BridgeOperationAttempt.object_mem_operationIds) hw)
    hindex.objects
  releases := h.releases.write hwrite
    (admits_locations (fun _ _ => BridgeOperationAttempt.release_mem_operationIds) hw)
    hindex.releases
  identities := h.identities.write hwrite
    { unclaimed := fun x k _ _ hx hv hv' => hw.ids_unclaimed x k hx hv.1 hv'.1
      keeps := fun x k v hx hslot hv => ⟨v, hw.ids_kept x k hx hslot hv.1, hv.2⟩ }
    hindex.identities
  receipts := h.receipts.write hwrite
    { unclaimed := fun x k v v' hx hv hv' => hw.receipts_unclaimed x k v v' hx hv hv'
      keeps := fun x k v hx hslot hv => ⟨v, hw.receipts_kept x k v hx hslot hv⟩ }
    hindex.receipts

/-! ### Identities are found once -/

/-- Two held attempts that claim one identity are the same attempt. -/
theorem eq_of_claims (h : Represents journal history) {a b : BridgeOperationAttempt}
    (ha : history.Holds a) (hb : history.Holds b) {operationId : OperationId}
    (hida : operationId ∈ a.operationIds) (hidb : operationId ∈ b.operationIds) : a = b := by
  have key : ∀ {κ : Type} {ids : BridgeOperationAttempt → List κ} [DecidableEq κ]
      {index : Dict κ Location} {k : κ},
      Index.Tracks index (BridgeOperationAttempt.LocationRow ids) history.Holds →
      k ∈ ids a → k ∈ ids b → a = b := by
    intro κ ids _ index k htracks hka hkb
    obtain ⟨u, hu⟩ := BridgeOperationAttempt.exists_locationRow_iff.2 hka
    obtain ⟨v, hv⟩ := BridgeOperationAttempt.exists_locationRow_iff.2 hkb
    have huv : u = v := htracks.unique ha hb hu hv
    exact ha.unique hb (by rw [← hu.1, ← hv.1, huv])
  cases operationId with
  | acquire id =>
    exact key h.acquisitions (BridgeOperationAttempt.acquire_mem_operationIds.1 hida)
      (BridgeOperationAttempt.acquire_mem_operationIds.1 hidb)
  | object id =>
    exact key h.objects (BridgeOperationAttempt.object_mem_operationIds.1 hida)
      (BridgeOperationAttempt.object_mem_operationIds.1 hidb)
  | release id =>
    exact key h.releases (BridgeOperationAttempt.release_mem_operationIds.1 hida)
      (BridgeOperationAttempt.release_mem_operationIds.1 hidb)

/-- A receipt is held under one operation only. -/
theorem operationId_eq_of_owns (h : Represents journal history) {receiptId : ReceiptId}
    {u v : OperationId} (hu : history.Owns receiptId u) (hv : history.Owns receiptId v) :
    u = v := by
  obtain ⟨a, ha, hau⟩ := hu
  obtain ⟨b, hb, hbv⟩ := hv
  exact h.receipts.unique ha hb hau hbv

theorem identityIndex_eq_some_iff (h : Represents journal history) {operationId : OperationId}
    {kind : IdentityKind} : journal.identityIndex.get? operationId = some kind ↔
      kind = operationId.kind ∧ history.Claims operationId := by
  rw [h.identities]
  constructor
  · intro ⟨a, ha, hmem, hkind⟩
    exact ⟨hkind, a, ha, hmem⟩
  · intro ⟨hkind, a, ha, hmem⟩
    exact ⟨a, ha, hmem, hkind⟩

theorem identityIndex_eq_none_iff (h : Represents journal history) {operationId : OperationId} :
    journal.identityIndex.get? operationId = none ↔ ¬ history.Claims operationId := by
  rw [h.identities.get?_eq_none_iff]
  constructor
  · intro hno ⟨a, ha, hmem⟩
    exact hno a operationId.kind ha ⟨hmem, rfl⟩
  · intro hno a _ ha hrow
    exact hno ⟨a, ha, hrow.1⟩

theorem receiptIndex_eq_some_iff (h : Represents journal history) {receiptId : ReceiptId}
    {operationId : OperationId} : journal.receiptIndex.get? receiptId = some operationId ↔
      history.Owns receiptId operationId :=
  h.receipts receiptId operationId

/-! ### Lookups -/

theorem getAttempt_eq_ok (h : Represents journal history) {planId : PlanId} {number : ℕ}
    {attempt : BridgeOperationAttempt} : journal.getAttempt planId number = .ok attempt ↔
      history.Holds attempt ∧ attempt.slot = (planId, number) := by
  have hget : (journal.attempts.get? planId).bind (fun attempts => attempts[number - 1]?)
      = (history planId)[number - 1]? := by
    rw [← h.attempts planId, attemptsFor]
    cases journal.attempts.get? planId <;> rfl
  simp only [getAttempt, validatePositiveInteger, bind_eq_ok, exists_unit, check_eq_ok, hget]
  constructor
  · rintro ⟨hpos, hfound⟩
    split at hfound
    · rename_i found hsome
      rw [Except.ok.injEq] at hfound
      subst hfound
      obtain ⟨hplan, hnumber⟩ := h.located _ _ _ hsome
      exact ⟨h.located.holds hsome, Prod.ext hplan (by show found.attempt = number; omega)⟩
    · cases hfound
  · rintro ⟨hheld, hslot⟩
    have hplan : attempt.planId = planId := congrArg Prod.fst hslot
    have hnumber : attempt.attempt = number := congrArg Prod.snd hslot
    subst hplan hnumber
    rw [hheld.2]
    exact ⟨hheld.1, rfl⟩

theorem attemptAt_eq_ok (h : Represents journal history) {location : Location}
    {attempt : BridgeOperationAttempt} (hheld : history.Holds attempt)
    (hslot : (location.planId, location.attempt) = attempt.slot) :
    journal.attemptAt location = .ok attempt := by
  have hplan : location.planId = attempt.planId := congrArg Prod.fst hslot
  have hnumber : location.attempt = attempt.attempt := congrArg Prod.snd hslot
  have hget := hheld.2
  rw [← h.attempts, attemptsFor] at hget
  unfold attemptAt
  rw [hplan, hnumber]
  cases hlist : journal.attempts.get? attempt.planId with
  | none => simp [hlist] at hget
  | some attempts =>
    rw [hlist, Option.getD_some] at hget
    dsimp only
    rw [hget]

theorem acquisitionLocation_eq_ok (h : Represents journal history)
    {operationId : AcquireOperationId} {location : Location} :
    journal.acquisitionLocation operationId = .ok location ↔ ∃ attempt record,
      history.AcquisitionAt operationId attempt location.index record
        ∧ (location.planId, location.attempt) = attempt.slot := by
  have hget : journal.acquisitionLocation operationId = .ok location ↔
      journal.acquisitionIndex.get? operationId = some location := by
    unfold acquisitionLocation
    split <;> simp_all
  rw [hget, h.acquisitions]
  constructor
  · intro ⟨attempt, hheld, hslot, hid⟩
    obtain ⟨record, hrecord, hid⟩ := Option.map_eq_some_iff.1 (List.getElem?_map ▸ hid)
    exact ⟨attempt, record, ⟨hheld, hrecord, hid⟩, hslot⟩
  · intro ⟨attempt, record, hat, hslot⟩
    refine ⟨attempt, hat.holds, hslot, ?_⟩
    rw [BridgeOperationAttempt.acquisitionIds, List.getElem?_map, hat.get]
    exact congrArg some hat.id_eq

theorem objectLocation_eq_ok (h : Represents journal history)
    {operationId : ObjectOperationId} {location : Location} :
    journal.objectLocation operationId = .ok location ↔ ∃ attempt record,
      history.OperationAt operationId attempt location.index record
        ∧ (location.planId, location.attempt) = attempt.slot := by
  have hget : journal.objectLocation operationId = .ok location ↔
      journal.objectIndex.get? operationId = some location := by
    unfold objectLocation
    split <;> simp_all
  rw [hget, h.objects]
  constructor
  · intro ⟨attempt, hheld, hslot, hid⟩
    obtain ⟨record, hrecord, hid⟩ := Option.map_eq_some_iff.1 (List.getElem?_map ▸ hid)
    exact ⟨attempt, record, ⟨hheld, hrecord, hid⟩, hslot⟩
  · intro ⟨attempt, record, hat, hslot⟩
    refine ⟨attempt, hat.holds, hslot, ?_⟩
    rw [BridgeOperationAttempt.objectIds, List.getElem?_map, hat.get]
    exact congrArg some hat.id_eq

theorem releaseLocation_eq_ok (h : Represents journal history)
    {operationId : ReleaseOperationId} {location : Location} :
    journal.releaseLocation operationId = .ok location ↔ ∃ attempt record,
      history.ReleaseAt operationId attempt location.index record
        ∧ (location.planId, location.attempt) = attempt.slot := by
  have hget : journal.releaseLocation operationId = .ok location ↔
      journal.releaseIndex.get? operationId = some location := by
    unfold releaseLocation
    split <;> simp_all
  rw [hget, h.releases]
  constructor
  · intro ⟨attempt, hheld, hslot, hid⟩
    obtain ⟨record, hrecord, hid⟩ := Option.map_eq_some_iff.1 (List.getElem?_map ▸ hid)
    exact ⟨attempt, record, ⟨hheld, hrecord, hid⟩, hslot⟩
  · intro ⟨attempt, record, hat, hslot⟩
    refine ⟨attempt, hat.holds, hslot, ?_⟩
    rw [BridgeOperationAttempt.releaseIds, List.getElem?_map, hat.get]
    exact congrArg some hat.id_eq

end Represents

omit [DigestJson] in
theorem item_eq_ok {α : Type} {items : List α} {index : ℕ} {found : α} :
    item items index = .ok found ↔ items[index]? = some found := by
  unfold item
  split <;> simp_all

namespace Represents

variable {journal : Journal} {history : History}

theorem getAcquisition_eq_ok (h : Represents journal history) {operationId : AcquireOperationId}
    {record : FenceAcquisitionRecord} : journal.getAcquisition operationId = .ok record ↔
      ∃ attempt index, history.AcquisitionAt operationId attempt index record := by
  simp only [getAcquisition, bind_eq_ok, item_eq_ok]
  constructor
  · rintro ⟨location, hloc, attempt, hattempt, hitem⟩
    obtain ⟨found, record', hat, hslot⟩ := h.acquisitionLocation_eq_ok.1 hloc
    rw [h.attemptAt_eq_ok hat.holds hslot, Except.ok.injEq] at hattempt
    subst hattempt
    have heq : record' = record := Option.some.inj (hat.get.symm.trans hitem)
    exact ⟨found, location.index, heq ▸ hat⟩
  · rintro ⟨attempt, index, hat⟩
    exact ⟨⟨attempt.planId, attempt.attempt, index⟩,
      h.acquisitionLocation_eq_ok.2 ⟨attempt, record, hat, rfl⟩, attempt,
      h.attemptAt_eq_ok hat.holds rfl, hat.get⟩

theorem getOperation_eq_ok (h : Represents journal history) {operationId : ObjectOperationId}
    {record : BridgeOperationRecord} : journal.getOperation operationId = .ok record ↔
      ∃ attempt index, history.OperationAt operationId attempt index record := by
  simp only [getOperation, bind_eq_ok, item_eq_ok]
  constructor
  · rintro ⟨location, hloc, attempt, hattempt, hitem⟩
    obtain ⟨found, record', hat, hslot⟩ := h.objectLocation_eq_ok.1 hloc
    rw [h.attemptAt_eq_ok hat.holds hslot, Except.ok.injEq] at hattempt
    subst hattempt
    have heq : record' = record := Option.some.inj (hat.get.symm.trans hitem)
    exact ⟨found, location.index, heq ▸ hat⟩
  · rintro ⟨attempt, index, hat⟩
    exact ⟨⟨attempt.planId, attempt.attempt, index⟩,
      h.objectLocation_eq_ok.2 ⟨attempt, record, hat, rfl⟩, attempt,
      h.attemptAt_eq_ok hat.holds rfl, hat.get⟩

theorem getRelease_eq_ok (h : Represents journal history) {operationId : ReleaseOperationId}
    {record : FenceReleaseRecord} : journal.getRelease operationId = .ok record ↔
      ∃ attempt index, history.ReleaseAt operationId attempt index record := by
  simp only [getRelease, bind_eq_ok, item_eq_ok]
  constructor
  · rintro ⟨location, hloc, attempt, hattempt, hitem⟩
    obtain ⟨found, record', hat, hslot⟩ := h.releaseLocation_eq_ok.1 hloc
    rw [h.attemptAt_eq_ok hat.holds hslot, Except.ok.injEq] at hattempt
    subst hattempt
    have heq : record' = record := Option.some.inj (hat.get.symm.trans hitem)
    exact ⟨found, location.index, heq ▸ hat⟩
  · rintro ⟨attempt, index, hat⟩
    exact ⟨⟨attempt.planId, attempt.attempt, index⟩,
      h.releaseLocation_eq_ok.2 ⟨attempt, record, hat, rfl⟩, attempt,
      h.attemptAt_eq_ok hat.holds rfl, hat.get⟩

end Represents

end TrueFamily.Transaction
