import TrueFamily.Lib.Replay
import TrueFamily.Transaction.Retry

/-!
# Compensation

What the applied operations of an attempt do to the objects. The effects of an attempt are replayed
against a store that holds, for each object, a typed revision and a fingerprint, and that starts
at the preimages of the expected writes.

The operations on one object are its write, if any, followed by the rollbacks of that write
(`objectOperations_eq`), and of the rollbacks only the last can be applied
(`noEffect_of_mem_dropLast`). So every effect finds its preimage, in every valid attempt; a
committed attempt leaves the postimages and a restored one exactly what a retry expects.
-/

namespace TrueFamily.Transaction

open Checked Sorting Replay InMemoryBridgeOperationJournal BridgeOperationAttempt

section

variable [DigestJson]

/-! ## Effects -/

/-- The revision and the fingerprint of an object. -/
abbrev ObjectEntry := Revision × Digest

/-- The preimage of an expected write. -/
def BridgeExpectedWrite.entry (expected : BridgeExpectedWrite) : ObjectEntry :=
  (expected.expectedRevision, expected.preFingerprint)

/-- The store that holds the preimages of the expected writes. -/
def expectedStore (expectedWrites : List BridgeExpectedWrite) : Store ObjectKey ObjectEntry :=
  fun key => (expectedWrites.find? fun expected => decide (expected.key = key)).map (·.entry)

/-- What a receipt says its operation did. -/
def BridgeOperationReceipt.effect (receipt : BridgeOperationReceipt) :
    Effect ObjectKey ObjectEntry where
  key := toLex (receipt.provider, receipt.objectKey)
  before := (receipt.previousRevision, receipt.preFingerprint)
  after := (receipt.resultRevision, receipt.postFingerprint)

/-- The effect of an operation with an applied receipt. -/
def BridgeOperationRecord.appliedEffect (record : BridgeOperationRecord) :
    Option (Effect ObjectKey ObjectEntry) :=
  match record.receipt with
  | none => none
  | some receipt =>
    match receipt.outcome with
    | .applied => some receipt.effect
    | .noEffect => none

/-- The effects of an attempt, in the order of its operations. -/
def BridgeOperationAttempt.appliedEffects (attempt : BridgeOperationAttempt) :
    List (Effect ObjectKey ObjectEntry) :=
  attempt.operations.filterMap (·.appliedEffect)

omit [DigestJson] in
theorem appliedEffect_eq_some {record : BridgeOperationRecord}
    {effect : Effect ObjectKey ObjectEntry} : record.appliedEffect = some effect ↔
      ∃ receipt, record.receipt = some receipt ∧ receipt.outcome = .applied
        ∧ receipt.effect = effect := by
  unfold BridgeOperationRecord.appliedEffect
  split
  · rename_i hnone
    simp [hnone]
  · rename_i receipt hsome
    cases houtcome : receipt.outcome <;> simp [hsome, houtcome]

/-- An effect is on the object of its intent, and leads from its preimage to its postimage. -/
theorem BridgeOperationRecord.WellFormed.effect_eq {record : BridgeOperationRecord}
    (h : record.WellFormed) {receipt : BridgeOperationReceipt}
    (hreceipt : record.receipt = some receipt) :
    receipt.effect = ⟨record.intent.key,
      (record.intent.expectedRevision, record.intent.preFingerprint),
      (receipt.resultRevision, record.intent.postFingerprint)⟩ := by
  obtain ⟨hvalid, _⟩ := h.receipt_valid receipt hreceipt
  obtain ⟨_, _, _, hprovider, hobject, _, _, _, _, _, _, _, _, _, _, hrevision, hpre, hpost⟩ :=
    hvalid.matches_intent
  rw [sameRevision_iff] at hrevision
  unfold BridgeOperationReceipt.effect BridgeOperationIntent.key
  rw [hprovider, hobject, hrevision, hpre, hpost]

omit [DigestJson] in
/-- A rollback without effect is not applied. -/
theorem appliedEffect_of_noEffect {record : BridgeOperationRecord}
    (h : rollbackProvenNoEffect record) : record.appliedEffect = none := by
  rw [Option.eq_none_iff_forall_ne_some]
  intro effect heffect
  obtain ⟨receipt, hreceipt, houtcome, _⟩ := appliedEffect_eq_some.1 heffect
  rcases h with hundispatched | hverified
  · rw [hundispatched.2.2.2.1] at hreceipt
    cases hreceipt
  · have hno := hverified.2.2
    rw [hreceipt, Option.map_some, Option.some.injEq, houtcome] at hno
    cases hno

/-! ## The operations on one object -/

namespace BridgeOperationAttempt.WellFormed

variable {attempt : BridgeOperationAttempt}

/-- The parent of a rollback is the write of the same object. -/
theorem parent_eq_write (h : attempt.WellFormed) {before after : List BridgeOperationRecord}
    {record : BridgeOperationRecord} (hsplit : attempt.operations = before ++ record :: after)
    (hkind : record.intent.kind ≠ .write) : ∃ parent ∈ before, parent.intent.kind = .write
      ∧ parent.intent.key = record.intent.key
      ∧ record.intent.parentOperationId = some parent.intent.operationId := by
  obtain ⟨parent, hadmitted⟩ := h.operations.rollback before record after hsplit hkind
  refine ⟨parent, hadmitted.mem, hadmitted.kind_eq, ?_, hadmitted.parent_eq⟩
  have hundoes : ∃ epoch, OperationScan.undoes record.intent parent epoch := by
    cases hlast : (rollbackChain before parent.intent.operationId).getLast? with
    | none => exact ⟨_, hadmitted.first (List.getLast?_eq_none_iff.1 hlast)⟩
    | some previous => exact ⟨_, (hadmitted.retry previous hlast).2⟩
  obtain ⟨_, hprovider, hobject, _⟩ := hundoes
  unfold BridgeOperationIntent.key
  rw [hprovider, hobject]

/-- An object without a write has no operation. -/
theorem no_operation (h : attempt.WellFormed) {key : ObjectKey}
    (hno : ∀ record ∈ attempt.operations, record.intent.kind = .write → record.intent.key ≠ key)
    {record : BridgeOperationRecord} (hmem : record ∈ attempt.operations) :
    record.intent.key ≠ key := by
  by_cases hkind : record.intent.kind = .write
  · exact hno record hmem hkind
  · obtain ⟨before, after, hsplit⟩ := List.append_of_mem hmem
    obtain ⟨parent, hparent, hwrite, hkey, _⟩ := h.parent_eq_write hsplit hkind
    rw [← hkey]
    refine hno parent ?_ hwrite
    rw [hsplit]
    exact List.mem_append_left _ hparent

/-- Two writes of one object are the same. -/
theorem write_unique (h : attempt.WellFormed) {a b : BridgeOperationRecord}
    (ha : a ∈ attempt.operations) (hb : b ∈ attempt.operations) (hka : a.intent.kind = .write)
    (hkb : b.intent.kind = .write) (hkey : a.intent.key = b.intent.key) : a = b := by
  by_contra hne
  have hsymm : Std.Symm fun a b : BridgeOperationRecord => a.intent.kind = .write →
      b.intent.kind = .write → a.intent.key ≠ b.intent.key :=
    ⟨fun _ _ hab hb ha => (hab ha hb).symm⟩
  exact h.operations.write_once.forall ha hb hne hka hkb hkey

/-- The operations on a written object other than the write are its rollbacks. -/
theorem key_eq_iff (h : attempt.WellFormed) {write record : BridgeOperationRecord}
    (hmem : write ∈ attempt.operations) (hkind : write.intent.kind = .write)
    (hrecord : record ∈ attempt.operations) (hne : record ≠ write) :
    record.intent.key = write.intent.key ↔ record.intent.kind ≠ .write
      ∧ record.intent.parentOperationId = some write.intent.operationId := by
  obtain ⟨before, after, hsplit⟩ := List.append_of_mem hrecord
  have inside : ∀ parent ∈ before, parent ∈ attempt.operations := fun parent hparent => by
    rw [hsplit]
    exact List.mem_append_left _ hparent
  constructor
  · intro hkey
    have hrollback : record.intent.kind ≠ .write :=
      fun hwrite => hne (h.write_unique hrecord hmem hwrite hkind hkey)
    obtain ⟨parent, hparent, hwrite, hkey', hid⟩ := h.parent_eq_write hsplit hrollback
    rw [h.write_unique (inside parent hparent) hmem hwrite hkind (hkey'.trans hkey)] at hid
    exact ⟨hrollback, hid⟩
  · intro ⟨hrollback, hid⟩
    obtain ⟨parent, hparent, _, hkey, hid'⟩ := h.parent_eq_write hsplit hrollback
    rw [hid, Option.some.injEq] at hid'
    rw [← hkey, eq_of_objectId h hmem (inside parent hparent) hid']

/-- No rollback of a write comes before it. -/
theorem not_rollback_before (h : attempt.WellFormed) {before after : List BridgeOperationRecord}
    {write record : BridgeOperationRecord} (hsplit : attempt.operations = before ++ write :: after)
    (hrecord : record ∈ before) : ¬ (record.intent.kind ≠ .write
      ∧ record.intent.parentOperationId = some write.intent.operationId) := by
  intro ⟨hrollback, hid⟩
  obtain ⟨first, second, rfl⟩ := List.append_of_mem hrecord
  have hsplit' : attempt.operations = first ++ record :: (second ++ write :: after) := by
    rw [hsplit]
    simp
  obtain ⟨parent, hparent, _, _, hid'⟩ := h.parent_eq_write hsplit' hrollback
  rw [hid, Option.some.injEq] at hid'
  -- the parent would stand before the write and be the write
  have hnodup := objectIds_nodup h
  unfold objectIds at hnodup
  rw [hsplit', List.map_append, List.nodup_append] at hnodup
  refine hnodup.2.2 _ (List.mem_map_of_mem hparent) _ ?_ hid'.symm
  exact List.mem_map_of_mem (by simp)

/-- The operations on a written object: the write, and then its rollbacks. -/
theorem objectOperations_eq (h : attempt.WellFormed) {write : BridgeOperationRecord}
    (hmem : write ∈ attempt.operations) (hkind : write.intent.kind = .write) :
    attempt.operations.filter (fun record => decide (record.intent.key = write.intent.key))
      = write :: rollbackChain attempt.operations write.intent.operationId := by
  obtain ⟨before, after, hsplit⟩ := List.append_of_mem hmem
  have hnodup : attempt.operations.Nodup := (objectIds_nodup h).of_map _
  rw [hsplit, List.nodup_middle, List.nodup_cons] at hnodup
  have inside : ∀ record ∈ before ++ after, record ∈ attempt.operations ∧ record ≠ write := by
    intro record hrecord
    refine ⟨?_, fun heq => hnodup.1 (heq ▸ hrecord)⟩
    rw [hsplit]
    rcases List.mem_append.1 hrecord with hrecord | hrecord <;> simp [hrecord]
  have hsame : ∀ record ∈ before ++ after, decide (record.intent.key = write.intent.key)
      = decide (record.intent.kind ≠ .write
        ∧ record.intent.parentOperationId = some write.intent.operationId) := by
    intro record hrecord
    obtain ⟨hrecord, hne⟩ := inside record hrecord
    exact decide_eq_decide.2 (h.key_eq_iff hmem hkind hrecord hne)
  have hbefore : rollbackChain before write.intent.operationId = [] :=
    List.filter_eq_nil_iff.2 fun record hrecord hdecide =>
      h.not_rollback_before hsplit hrecord (of_decide_eq_true hdecide)
  have hself : rollbackChain (write :: after) write.intent.operationId
      = rollbackChain after write.intent.operationId :=
    List.filter_cons_of_neg (by simp [hkind])
  calc attempt.operations.filter (fun record => decide (record.intent.key = write.intent.key))
      = rollbackChain before write.intent.operationId
          ++ write :: rollbackChain after write.intent.operationId := by
        rw [hsplit, List.filter_append, List.filter_cons_of_pos (by simp)]
        congr 1
        · exact List.filter_congr fun record hrecord => hsame record (by simp [hrecord])
        · congr 1
          exact List.filter_congr fun record hrecord => hsame record (by simp [hrecord])
    _ = write :: rollbackChain attempt.operations write.intent.operationId := by
        rw [hbefore, List.nil_append, hsplit, rollbackChain_append, hbefore, hself,
          List.nil_append]

/-- A rollback in the chain of a write was admitted for it. -/
theorem admitted_of_rollback (h : attempt.WellFormed) {write record : BridgeOperationRecord}
    (hmem : write ∈ attempt.operations) {before after : List BridgeOperationRecord}
    (hsplit : attempt.operations = before ++ record :: after)
    (hrecord : record ∈ rollbackChain attempt.operations write.intent.operationId) :
    RollbackAdmitted before record write := by
  obtain ⟨_, hkind, hid⟩ := mem_rollbackChain.1 hrecord
  obtain ⟨parent, hadmitted⟩ := h.operations.rollback before record after hsplit hkind
  have hparent : parent ∈ attempt.operations := by
    rw [hsplit]
    exact List.mem_append_left _ hadmitted.mem
  have hid' := hadmitted.parent_eq
  rw [hid, Option.some.injEq] at hid'
  rw [eq_of_objectId h hmem hparent hid']
  exact hadmitted

/-- Only the last rollback of a write can be applied. -/
theorem noEffect_of_mem_dropLast (h : attempt.WellFormed) {write record : BridgeOperationRecord}
    (hmem : write ∈ attempt.operations)
    (hrecord : record ∈ (rollbackChain attempt.operations write.intent.operationId).dropLast) :
    rollbackProvenNoEffect record := by
  have hne : rollbackChain attempt.operations write.intent.operationId ≠ [] := by
    intro hnil
    rw [hnil] at hrecord
    cases hrecord
  obtain ⟨earlier, later, hdrop⟩ := List.append_of_mem hrecord
  have hchain := List.dropLast_append_getLast hne
  rw [hdrop] at hchain
  -- the rollback after it was admitted because it had no effect
  obtain ⟨next, rest, hrest⟩ := List.exists_cons_of_ne_nil
    (l := later ++ [(rollbackChain attempt.operations write.intent.operationId).getLast hne])
    (by simp)
  have hnext : rollbackChain attempt.operations write.intent.operationId
      = (earlier ++ [record]) ++ next :: rest := by
    rw [← hchain, ← hrest]
    simp
  obtain ⟨before, after, hsplit, hbefore⟩ := exists_split_of_rollbackChain hnext
  have hadmitted := h.admitted_of_rollback hmem hsplit (by rw [hnext]; simp)
  exact (hadmitted.retry record (by rw [hbefore]; simp)).1

/-- A write with rollbacks is applied, and each rollback undoes exactly its effect. -/
theorem applied_of_rollback (h : attempt.WellFormed) {write record : BridgeOperationRecord}
    (hmem : write ∈ attempt.operations)
    (hrecord : record ∈ rollbackChain attempt.operations write.intent.operationId) :
    ∃ receipt, write.receipt = some receipt ∧ receipt.outcome = .applied
      ∧ record.intent.expectedRevision = receipt.resultRevision
      ∧ record.intent.preFingerprint = write.intent.postFingerprint
      ∧ record.intent.postFingerprint = write.intent.preFingerprint := by
  obtain ⟨before, after, hsplit⟩ := List.append_of_mem (mem_rollbackChain.1 hrecord).1
  have hadmitted := h.admitted_of_rollback hmem hsplit hrecord
  have hundoes : ∃ epoch, OperationScan.undoes record.intent write epoch := by
    cases hlast : (rollbackChain before write.intent.operationId).getLast? with
    | none => exact ⟨_, hadmitted.first (List.getLast?_eq_none_iff.1 hlast)⟩
    | some previous => exact ⟨_, (hadmitted.retry previous hlast).2⟩
  obtain ⟨_, _, _, hpre, hpost, hrevision, _⟩ := hundoes
  obtain ⟨receipt, hreceipt, houtcome⟩ := Option.map_eq_some_iff.1 hadmitted.eligible.2.2
  rw [hreceipt, Option.any_some, sameRevision_iff] at hrevision
  exact ⟨receipt, hreceipt, houtcome, hrevision, hpre, hpost⟩

end BridgeOperationAttempt.WellFormed

/-! ## The effects on one object -/

namespace BridgeOperationAttempt.WellFormed

variable {attempt : BridgeOperationAttempt}

/-- The effects on an object come from the operations on it. -/
theorem effects_on (h : attempt.WellFormed) (key : ObjectKey) :
    attempt.appliedEffects.filter (fun effect => decide (effect.key = key))
      = (attempt.operations.filter fun record => decide (record.intent.key = key)).filterMap
        (·.appliedEffect) := by
  unfold appliedEffects
  rw [List.filter_filterMap, List.filterMap_filter]
  refine List.filterMap_congr fun record hmem => ?_
  cases heffect : record.appliedEffect with
  | none => simp
  | some effect =>
    obtain ⟨receipt, hreceipt, _, rfl⟩ := appliedEffect_eq_some.1 heffect
    have hkey : receipt.effect.key = record.intent.key := by
      rw [(h.operations.record_wf record hmem).effect_eq hreceipt]
    by_cases heq : record.intent.key = key <;> simp [heq, hkey]

/-- The effects of a chain of rollbacks are those of its last. -/
theorem effects_of_chain (h : attempt.WellFormed) {write : BridgeOperationRecord}
    (hmem : write ∈ attempt.operations) :
    (rollbackChain attempt.operations write.intent.operationId).filterMap (·.appliedEffect)
      = ((rollbackChain attempt.operations write.intent.operationId).getLast?.bind
        (·.appliedEffect)).toList := by
  have hearlier : (rollbackChain attempt.operations write.intent.operationId).dropLast.filterMap
      (·.appliedEffect) = [] :=
    List.filterMap_eq_nil_iff.2 fun record hrecord =>
      appliedEffect_of_noEffect (h.noEffect_of_mem_dropLast hmem hrecord)
  cases hlast : (rollbackChain attempt.operations write.intent.operationId).getLast? with
  | none =>
    rw [List.getLast?_eq_none_iff.1 hlast]
    rfl
  | some last =>
    rw [← List.dropLast_append_getLast? last hlast, List.filterMap_append, hearlier,
      List.nil_append, Option.bind_some]
    cases heffect : last.appliedEffect <;> simp [heffect]

/-- The effects on the object of a write: its own, and that of the last rollback. -/
theorem effects_on_write (h : attempt.WellFormed) {write : BridgeOperationRecord}
    (hmem : write ∈ attempt.operations) (hkind : write.intent.kind = .write) :
    attempt.appliedEffects.filter (fun effect => decide (effect.key = write.intent.key))
      = write.appliedEffect.toList
        ++ ((rollbackChain attempt.operations write.intent.operationId).getLast?.bind
          (·.appliedEffect)).toList := by
  rw [h.effects_on, h.objectOperations_eq hmem hkind, ← h.effects_of_chain hmem]
  cases heffect : write.appliedEffect <;> simp [heffect]

/-- An object without a write has no effect. -/
theorem effects_on_unwritten (h : attempt.WellFormed) {key : ObjectKey}
    (hno : ∀ record ∈ attempt.operations, record.intent.kind = .write →
      record.intent.key ≠ key) :
    attempt.appliedEffects.filter (fun effect => decide (effect.key = key)) = [] := by
  rw [h.effects_on, List.filterMap_eq_nil_iff]
  intro record hrecord
  obtain ⟨hmem, hkey⟩ := List.mem_filter.1 hrecord
  exact absurd (of_decide_eq_true hkey) (h.no_operation hno hmem)

/-- A write without an applied effect has no rollbacks. -/
theorem chain_nil_of_unapplied (h : attempt.WellFormed) {write : BridgeOperationRecord}
    (hmem : write ∈ attempt.operations) (hnone : write.appliedEffect = none) :
    rollbackChain attempt.operations write.intent.operationId = [] := by
  refine List.eq_nil_iff_forall_not_mem.2 fun record hrecord => ?_
  obtain ⟨receipt, hreceipt, houtcome, _⟩ := h.applied_of_rollback hmem hrecord
  rw [appliedEffect_eq_some.2 ⟨receipt, hreceipt, houtcome, rfl⟩] at hnone
  cases hnone

/-- The store holds the preimage of each expected write. -/
theorem expectedStore_of_mem (h : attempt.WellFormed) {expected : BridgeExpectedWrite}
    (hmem : expected ∈ attempt.expectedWrites) :
    expectedStore attempt.expectedWrites expected.key = some expected.entry := by
  have hnodup : (attempt.expectedWrites.map (·.key)).Nodup :=
    List.pairwise_map.2 (h.header.keys_sorted.imp fun hlt => ne_of_lt hlt)
  unfold expectedStore
  cases hfind : attempt.expectedWrites.find? fun item => decide (item.key = expected.key) with
  | none =>
    have hno := List.find?_eq_none.1 hfind expected hmem
    exact absurd (decide_eq_true rfl) hno
  | some found =>
    have hkey : found.key = expected.key := by simpa using List.find?_some hfind
    rw [List.inj_on_of_nodup_map hnodup (List.mem_of_find?_eq_some hfind) hmem hkey]
    rfl

/-- The store starts at the preimage of a write. -/
theorem expectedStore_write (h : attempt.WellFormed) {write : BridgeOperationRecord}
    (hmem : write ∈ attempt.operations) (hkind : write.intent.kind = .write) :
    ∃ expected ∈ attempt.expectedWrites, expected.key = write.intent.key
      ∧ expected.entry = (write.intent.expectedRevision, write.intent.preFingerprint)
      ∧ expected.postFingerprint = write.intent.postFingerprint := by
  obtain ⟨expected, hexpected, _, hprovider, hobject, hrevision, hpre, hpost⟩ :=
    h.operations.covered write hmem hkind
  rw [sameRevision_iff] at hrevision
  refine ⟨expected, hexpected, ?_, ?_, hpost.symm⟩
  · unfold BridgeExpectedWrite.key BridgeOperationIntent.key
    rw [hprovider, hobject]
  · unfold BridgeExpectedWrite.entry
    rw [hrevision, hpre]

end BridgeOperationAttempt.WellFormed

/-- The expected write of a written object is that of its write. -/
theorem BridgeOperationAttempt.WellFormed.expected_of_write {attempt : BridgeOperationAttempt}
    (h : attempt.WellFormed) {write : BridgeOperationRecord} (hmem : write ∈ attempt.operations)
    (hkind : write.intent.kind = .write) {expected : BridgeExpectedWrite}
    (hexpected : expected ∈ attempt.expectedWrites) (hkey : write.intent.key = expected.key) :
    expected.entry = (write.intent.expectedRevision, write.intent.preFingerprint)
      ∧ expected.postFingerprint = write.intent.postFingerprint := by
  obtain ⟨other, hother, hkey', hentry, hpost⟩ := h.expectedStore_write hmem hkind
  have hnodup : (attempt.expectedWrites.map (·.key)).Nodup :=
    List.pairwise_map.2 (h.header.keys_sorted.imp fun hlt => ne_of_lt hlt)
  rw [List.inj_on_of_nodup_map hnodup hexpected hother (hkey.symm.trans hkey'.symm)]
  exact ⟨hentry, hpost⟩

/-- The effects on a written object, in order: none; that of the write; or that of the write and
of the rollback which undoes it. -/
inductive WriteEffects (attempt : BridgeOperationAttempt) (write : BridgeOperationRecord) :
    List (Effect ObjectKey ObjectEntry) → Prop
  | unapplied : write.appliedEffect = none →
      rollbackChain attempt.operations write.intent.operationId = [] →
      WriteEffects attempt write []
  | applied (receipt : BridgeOperationReceipt) : write.receipt = some receipt →
      receipt.outcome = .applied →
      (∀ last, (rollbackChain attempt.operations write.intent.operationId).getLast? = some last →
        last.appliedEffect = none) →
      WriteEffects attempt write [⟨write.intent.key,
        (write.intent.expectedRevision, write.intent.preFingerprint),
        (receipt.resultRevision, write.intent.postFingerprint)⟩]
  | undone (receipt : BridgeOperationReceipt) (last : BridgeOperationRecord)
      (receipt' : BridgeOperationReceipt) : write.receipt = some receipt →
      receipt.outcome = .applied →
      (rollbackChain attempt.operations write.intent.operationId).getLast? = some last →
      last.receipt = some receipt' →
      WriteEffects attempt write [⟨write.intent.key,
        (write.intent.expectedRevision, write.intent.preFingerprint),
        (receipt.resultRevision, write.intent.postFingerprint)⟩,
        ⟨write.intent.key, (receipt.resultRevision, write.intent.postFingerprint),
        (receipt'.resultRevision, write.intent.preFingerprint)⟩]

namespace BridgeOperationAttempt.WellFormed

variable {attempt : BridgeOperationAttempt}

theorem write_effects (h : attempt.WellFormed) {write : BridgeOperationRecord}
    (hmem : write ∈ attempt.operations) (hkind : write.intent.kind = .write) :
    WriteEffects attempt write
      (attempt.appliedEffects.filter fun effect => decide (effect.key = write.intent.key)) := by
  rw [h.effects_on_write hmem hkind]
  cases heffect : write.appliedEffect with
  | none =>
    have hnil := h.chain_nil_of_unapplied hmem heffect
    rw [hnil]
    exact .unapplied heffect hnil
  | some effect =>
    obtain ⟨receipt, hreceipt, houtcome, rfl⟩ := appliedEffect_eq_some.1 heffect
    rw [(h.operations.record_wf write hmem).effect_eq hreceipt]
    cases hlast : (rollbackChain attempt.operations write.intent.operationId).getLast? with
    | none => exact .applied receipt hreceipt houtcome (by simp [hlast])
    | some last =>
      rw [Option.bind_some]
      cases hundo : last.appliedEffect with
      | none =>
        refine .applied receipt hreceipt houtcome fun other hother => ?_
        rw [hlast, Option.some.injEq] at hother
        rw [← hother, hundo]
      | some effect' =>
        have hchain := List.mem_of_getLast? hlast
        obtain ⟨receipt', hreceipt', _, rfl⟩ := appliedEffect_eq_some.1 hundo
        obtain ⟨_, hreceipt'', _, hrevision, hpre, hpost⟩ := h.applied_of_rollback hmem hchain
        rw [hreceipt, Option.some.injEq] at hreceipt''
        obtain ⟨hlastmem, hrollback, hid⟩ := mem_rollbackChain.1 hchain
        have hne : last ≠ write := fun heq => hrollback (heq ▸ hkind)
        have hkey := (h.key_eq_iff hmem hkind hlastmem hne).2 ⟨hrollback, hid⟩
        rw [(h.operations.record_wf last hlastmem).effect_eq hreceipt', hkey, hrevision, hpre,
          hpost, ← hreceipt'']
        exact .undone receipt last receipt' hreceipt houtcome hlast hreceipt'

/-- Every effect of a valid attempt finds its preimage. -/
theorem exists_replay (h : attempt.WellFormed) : ∃ final,
    replay (expectedStore attempt.expectedWrites) attempt.appliedEffects = some final := by
  refine Replay.exists_replay fun key => ?_
  by_cases hwrite : ∃ write ∈ attempt.operations, write.intent.kind = .write
      ∧ write.intent.key = key
  · obtain ⟨write, hmem, hkind, rfl⟩ := hwrite
    obtain ⟨expected, hexpected, hkey, hentry, _⟩ := h.expectedStore_write hmem hkind
    rw [← hkey, h.expectedStore_of_mem hexpected, hentry, hkey]
    have heffects := h.write_effects hmem hkind
    generalize attempt.appliedEffects.filter _ = effects at heffects ⊢
    cases heffects with
    | unapplied => exact ⟨_, rfl⟩
    | applied => exact ⟨_, rfl, rfl⟩
    | undone => exact ⟨_, rfl, rfl, rfl⟩
  · have hno : ∀ record ∈ attempt.operations, record.intent.kind = .write →
        record.intent.key ≠ key :=
      fun record hmem hkind hkey => hwrite ⟨record, hmem, hkind, hkey⟩
    rw [h.effects_on_unwritten hno]
    exact ⟨_, rfl⟩

/-- What a replay leaves at a written object. -/
theorem chained_write (h : attempt.WellFormed) {final : Store ObjectKey ObjectEntry}
    (hfinal : replay (expectedStore attempt.expectedWrites) attempt.appliedEffects = some final)
    {write : BridgeOperationRecord} (hmem : write ∈ attempt.operations)
    (hkind : write.intent.kind = .write) : ∃ effects, WriteEffects attempt write effects
      ∧ Chained (some (write.intent.expectedRevision, write.intent.preFingerprint)) effects
        (final write.intent.key) := by
  obtain ⟨expected, hexpected, hkey, hentry, _⟩ := h.expectedStore_write hmem hkind
  have hchained := replay_eq_some_iff.1 hfinal write.intent.key
  rw [← hkey, h.expectedStore_of_mem hexpected, hentry, hkey] at hchained
  exact ⟨_, h.write_effects hmem hkind, hchained⟩

/-- What a replay leaves at an object without a write. -/
theorem unchanged_unwritten (h : attempt.WellFormed) {final : Store ObjectKey ObjectEntry}
    (hfinal : replay (expectedStore attempt.expectedWrites) attempt.appliedEffects = some final)
    {key : ObjectKey} (hno : ∀ record ∈ attempt.operations, record.intent.kind = .write →
      record.intent.key ≠ key) : final key = expectedStore attempt.expectedWrites key := by
  have hchained := replay_eq_some_iff.1 hfinal key
  rw [h.effects_on_unwritten hno] at hchained
  exact hchained.symm

/-! ## Committed attempts -/

/-- A committed attempt leaves every postimage, at the revision of its write. -/
theorem committed_final (h : attempt.WellFormed) (hcommitted : attempt.state = .committed)
    {final : Store ObjectKey ObjectEntry}
    (hfinal : replay (expectedStore attempt.expectedWrites) attempt.appliedEffects = some final)
    {expected : BridgeExpectedWrite} (hexpected : expected ∈ attempt.expectedWrites) :
    ∃ write ∈ attempt.operations, ∃ receipt, write.intent.kind = .write
      ∧ write.intent.key = expected.key ∧ write.receipt = some receipt
      ∧ final expected.key = some (receipt.resultRevision, expected.postFingerprint) := by
  have hstate := h.state_ok
  unfold StateWellFormed at hstate
  rw [hcommitted] at hstate
  obtain ⟨terminalAt, hwf⟩ := hstate
  obtain ⟨write, hmem, hkind, hkey⟩ := hwf.covered expected hexpected
  obtain ⟨receipt, hreceipt, houtcome⟩ := Option.map_eq_some_iff.1 (hwf.applied write hmem).2.2
  refine ⟨write, hmem, receipt, hkind, hkey, hreceipt, ?_⟩
  obtain ⟨_, hpost⟩ := h.expected_of_write hmem hkind hexpected hkey
  obtain ⟨effects, heffects, hchained⟩ := h.chained_write hfinal hmem hkind
  rw [hkey] at hchained
  cases heffects with
  | unapplied hnone _ =>
    rw [appliedEffect_eq_some.2 ⟨receipt, hreceipt, houtcome, rfl⟩] at hnone
    cases hnone
  | applied receipt' hreceipt' _ _ =>
    rw [hreceipt, Option.some.injEq] at hreceipt'
    rw [hreceipt', hpost, ← hchained.2]
  | undone _ last _ _ _ hlast _ =>
    obtain ⟨hlastmem, hrollback, _⟩ := mem_rollbackChain.1 (List.mem_of_getLast? hlast)
    exact absurd (hwf.no_rollback last hlastmem) hrollback

/-! ## Restored attempts -/

omit [DigestJson] in
/-- The rollbacks that `_retry_expected_writes` groups under a write. -/
theorem getD_rollbackChains (attempt : BridgeOperationAttempt) (parentId : ObjectOperationId) :
    ((rollbackChains attempt).get? (some parentId)).getD []
      = rollbackChain attempt.operations parentId := by
  rw [rollbackChains, Dict.getD_get?_groupBy, List.filter_filter]
  refine List.filter_congr fun record _ => ?_
  cases record.intent.kind <;> simp

omit [DigestJson] in
theorem write_of_comprehension {operations : List BridgeOperationRecord} {key : ObjectKey}
    {write : BridgeOperationRecord} (h : (Dict.comprehension (fun item => item.intent.key) id
      (operations.filter fun item => decide (item.intent.kind = .write))).get? key = some write) :
    write ∈ operations ∧ write.intent.kind = .write ∧ write.intent.key = key := by
  rw [Dict.get?_comprehension] at h
  obtain ⟨found, hfound, rfl⟩ := Option.map_eq_some_iff.1 h
  obtain ⟨hmem, hkey⟩ := List.mem_filter.1 (List.mem_of_getLast? hfound)
  obtain ⟨hmem, hkind⟩ := List.mem_filter.1 hmem
  exact ⟨hmem, of_decide_eq_true hkind, of_decide_eq_true hkey⟩

/-- The revision that a retry expects is the one that the replay leaves. -/
theorem retryRevision_final (h : attempt.WellFormed) (hrestored : attempt.state = .restored)
    {final : Store ObjectKey ObjectEntry}
    (hfinal : replay (expectedStore attempt.expectedWrites) attempt.appliedEffects = some final)
    {expected : BridgeExpectedWrite} (hexpected : expected ∈ attempt.expectedWrites) :
    ∃ revision, retryRevision attempt (Dict.comprehension (fun item => item.intent.key) id
        (attempt.operations.filter fun item => decide (item.intent.kind = .write))) expected
        = .ok revision
      ∧ final expected.key = some (revision, expected.preFingerprint) := by
  have hstate := h.state_ok
  unfold StateWellFormed at hstate
  rw [hrestored] at hstate
  obtain ⟨terminalAt, hwf⟩ := hstate
  unfold retryRevision
  cases hget : (Dict.comprehension (fun item => item.intent.key) id
      (attempt.operations.filter fun item => decide (item.intent.kind = .write))).get?
      expected.key with
  | none =>
    rw [Dict.get?_comprehension_eq_none_iff] at hget
    refine ⟨expected.expectedRevision, rfl, ?_⟩
    rw [h.unchanged_unwritten hfinal fun record hmem hkind =>
      hget record (List.mem_filter.2 ⟨hmem, decide_eq_true hkind⟩),
      h.expectedStore_of_mem hexpected]
    rfl
  | some write =>
    obtain ⟨hmem, hkind, hkey⟩ := write_of_comprehension hget
    obtain ⟨hentry, _⟩ := h.expected_of_write hmem hkind hexpected hkey
    obtain ⟨hexpectedRevision, hpre⟩ := Prod.mk.inj hentry
    obtain ⟨effects, heffects, hchained⟩ := h.chained_write hfinal hmem hkind
    rw [hkey, ← hpre] at hchained
    dsimp only
    cases hwf.restored write hmem hkind with
    | undispatched hundispatched hnil =>
      rw [if_pos hundispatched]
      refine ⟨_, rfl, ?_⟩
      cases heffects with
      | unapplied => rw [hexpectedRevision, ← hchained]
      | applied receipt hreceipt =>
        rw [hundispatched.2.2.2.1] at hreceipt
        cases hreceipt
      | undone receipt _ _ hreceipt =>
        rw [hundispatched.2.2.2.1] at hreceipt
        cases hreceipt
    | noEffect receipt hverified hreceipt houtcome hnil _ =>
      have hdispatched : ¬ provenUndispatched write := by
        intro hundispatched
        rw [hundispatched.1] at hverified
        cases hverified
      rw [if_neg hdispatched, hreceipt]
      dsimp only
      rw [houtcome]
      refine ⟨_, rfl, ?_⟩
      -- the receipt of an operation without effect repeats the revision
      obtain ⟨hvalid, _⟩ := (h.operations.record_wf write hmem).receipt_valid receipt hreceipt
      have hsame : receipt.resultRevision = write.intent.expectedRevision := by
        have heffect := (h.operations.record_wf write hmem).effect_eq hreceipt
        have hprevious : receipt.previousRevision = write.intent.expectedRevision :=
          congrArg (fun effect => effect.before.1) heffect
        rw [← hprevious]
        cases hvalid.receipt_wf.outcome_ok with
        | applied _ happlied =>
          rw [houtcome] at happlied
          cases happlied
        | noEffect _ _ _ hrevision => exact hrevision.symm
      cases heffects with
      | unapplied => rw [hsame, ← hchained]
      | applied receipt' hreceipt' houtcome' =>
        rw [hreceipt, Option.some.injEq] at hreceipt'
        rw [← hreceipt', houtcome] at houtcome'
        cases houtcome'
      | undone receipt' _ _ hreceipt' houtcome' =>
        rw [hreceipt, Option.some.injEq] at hreceipt'
        rw [← hreceipt', houtcome] at houtcome'
        cases houtcome'
    | compensated receipt last heligible hreceipt houtcome hlast _ hverified _ =>
      have hdispatched : ¬ provenUndispatched write := by
        intro hundispatched
        rw [hundispatched.2.2.2.1] at hreceipt
        cases hreceipt
      obtain ⟨undo, hundo, hundone⟩ := Option.map_eq_some_iff.1 hverified.2.2
      rw [if_neg hdispatched, hreceipt]
      dsimp only
      rw [houtcome]
      dsimp only
      rw [getD_rollbackChains, hlast, Option.bind_some, hundo]
      refine ⟨_, rfl, ?_⟩
      cases heffects with
      | unapplied hnone =>
        rw [appliedEffect_eq_some.2 ⟨receipt, hreceipt, houtcome, rfl⟩] at hnone
        cases hnone
      | applied _ _ _ hunapplied =>
        have hnone := hunapplied last hlast
        rw [appliedEffect_eq_some.2 ⟨undo, hundo, hundone, rfl⟩] at hnone
        cases hnone
      | undone _ other undo' _ _ hother hundo' =>
        rw [hlast, Option.some.injEq] at hother
        rw [← hother, hundo, Option.some.injEq] at hundo'
        rw [hundo', hpre, ← hchained.2.2]

end BridgeOperationAttempt.WellFormed

/-- The object of an expected write and its two fingerprints, which a retry keeps. -/
def BridgeExpectedWrite.images (expected : BridgeExpectedWrite) : ObjectKey × Digest × Digest :=
  (expected.key, expected.preFingerprint, expected.postFingerprint)

omit [DigestJson] in
/-- Retries of a list of expected writes, whose revisions are those of a store. -/
theorem retryWrites_of_final {attempt : BridgeOperationAttempt}
    {writes : Dict ObjectKey BridgeOperationRecord} {final : Store ObjectKey ObjectEntry}
    {expectedWrites : List BridgeExpectedWrite}
    (hrevision : ∀ expected ∈ expectedWrites, ∃ revision,
      retryRevision attempt writes expected = .ok revision
        ∧ final expected.key = some (revision, expected.preFingerprint))
    (hdiffer : ∀ expected ∈ expectedWrites,
      expected.preFingerprint ≠ expected.postFingerprint) :
    ∃ retries, retryWrites attempt writes expectedWrites = .ok retries
      ∧ retries.map (·.images) = expectedWrites.map (·.images)
      ∧ ∀ retry ∈ retries, final retry.key = some retry.entry := by
  induction expectedWrites with
  | nil => exact ⟨[], rfl, rfl, by simp⟩
  | cons expected rest ih =>
    obtain ⟨revision, hok, hfinal⟩ := hrevision expected List.mem_cons_self
    obtain ⟨retries, hretries, himages, hall⟩ := ih
      (fun e he => hrevision e (List.mem_cons_of_mem _ he))
      (fun e he => hdiffer e (List.mem_cons_of_mem _ he))
    refine ⟨{ expected with expectedRevision := revision } :: retries, ?_, ?_, ?_⟩
    · have hvalid : BridgeExpectedWrite.postInit { expected with expectedRevision := revision }
          = .ok () := check_eq_ok.2 (hdiffer expected List.mem_cons_self)
      simp only [retryWrites, bind_eq_ok, exists_unit, pure_eq_ok]
      exact ⟨revision, hok, hvalid, retries, hretries, rfl⟩
    · rw [List.map_cons, List.map_cons, himages]
      rfl
    · intro retry hmem
      rcases List.mem_cons.1 hmem with rfl | hmem
      · exact hfinal
      · exact hall retry hmem

/-- A restored attempt leaves exactly what a retry expects. -/
theorem BridgeOperationAttempt.WellFormed.restored_final {attempt : BridgeOperationAttempt}
    (h : attempt.WellFormed) (hrestored : attempt.state = .restored) :
    ∃ retries, retryExpectedWrites attempt = .ok retries
      ∧ retries.map (·.images) = attempt.expectedWrites.map (·.images)
      ∧ (∀ retry ∈ retries, expectedStore retries retry.key = some retry.entry)
      ∧ replay (expectedStore attempt.expectedWrites) attempt.appliedEffects
        = some (expectedStore retries) := by
  obtain ⟨final, hfinal⟩ := h.exists_replay
  obtain ⟨retries, hretries, himages, hall⟩ := retryWrites_of_final
    (fun expected hexpected => h.retryRevision_final hrestored hfinal hexpected)
    h.header.pre_ne_post
  have hkeys : retries.map (·.key) = attempt.expectedWrites.map (·.key) := by
    have hfst := congrArg (List.map Prod.fst) himages
    rw [List.map_map, List.map_map] at hfst
    exact hfst
  have hstore : final = expectedStore retries := by
    funext key
    cases hfind : retries.find? fun item => decide (item.key = key) with
    | some retry =>
      have hkey : retry.key = key := by simpa using List.find?_some hfind
      have hentry := hall retry (List.mem_of_find?_eq_some hfind)
      rw [hkey] at hentry
      rw [hentry, expectedStore, hfind]
      rfl
    | none =>
      -- no expected write has this key, so no write has it either
      have hno : key ∉ attempt.expectedWrites.map (·.key) := by
        rw [← hkeys, List.mem_map]
        rintro ⟨retry, hmem, rfl⟩
        exact absurd (decide_eq_true rfl) (List.find?_eq_none.1 hfind retry hmem)
      have hunwritten : ∀ record ∈ attempt.operations, record.intent.kind = .write →
          record.intent.key ≠ key := by
        rintro record hmem hkind rfl
        obtain ⟨expected, hexpected, hkey, _⟩ := h.expectedStore_write hmem hkind
        exact hno (List.mem_map.2 ⟨expected, hexpected, hkey⟩)
      rw [h.unchanged_unwritten hfinal hunwritten, expectedStore, expectedStore, hfind]
      have hnone : attempt.expectedWrites.find? (fun item => decide (item.key = key)) = none :=
        List.find?_eq_none.2 fun expected hmem hkey =>
          hno (List.mem_map.2 ⟨expected, hmem, of_decide_eq_true hkey⟩)
      rw [hnone]
  subst hstore
  refine ⟨retries, ?_, himages, hall, hfinal⟩
  simp only [retryExpectedWrites, bind_eq_ok, exists_unit, check_eq_ok]
  exact ⟨hrestored, hretries⟩

/-! ## Attempts of a plan -/

/-- The effects of the attempts of a plan, one attempt after another. -/
def planEffects (attempts : List BridgeOperationAttempt) : List (Effect ObjectKey ObjectEntry) :=
  attempts.flatMap (·.appliedEffects)

/-- The replay of a plan goes on from attempt to attempt. -/
theorem exists_replay_plan {attempts : List BridgeOperationAttempt}
    {first : BridgeOperationAttempt} (hfirst : attempts.head? = some first)
    (hwf : ∀ attempt ∈ attempts, attempt.WellFormed)
    (hretries :
      ForallSplit (fun earlier attempt => assertRetry attempt earlier = .ok ()) attempts) :
    ∃ final, replay (expectedStore first.expectedWrites) (planEffects attempts) = some final := by
  -- the store before the last attempt is the one that the last attempt expects
  suffices hstrong : ∃ last, attempts.getLast? = some last
      ∧ replay (expectedStore first.expectedWrites) (planEffects attempts.dropLast)
        = some (expectedStore last.expectedWrites) by
    obtain ⟨last, hlast, hreplay⟩ := hstrong
    obtain ⟨final, hfinal⟩ := (hwf last (List.mem_of_getLast? hlast)).exists_replay
    refine ⟨final, ?_⟩
    rw [← List.dropLast_append_getLast? last hlast, planEffects, List.flatMap_append,
      replay_append]
    rw [planEffects] at hreplay
    rw [hreplay, Option.bind_some, List.flatMap_singleton]
    exact hfinal
  induction attempts using List.reverseRecOn with
  | nil => cases hfirst
  | append_singleton attempts last ih =>
    rw [forallSplit_concat] at hretries
    refine ⟨last, by simp, ?_⟩
    rw [List.dropLast_concat]
    cases attempts with
    | nil =>
      rw [List.nil_append, List.head?_cons, Option.some.injEq] at hfirst
      rw [hfirst]
      rfl
    | cons x rest =>
      obtain ⟨previous, hprevious, hreplay⟩ := ih hfirst
        (fun attempt hmem => hwf attempt (List.mem_append_left _ hmem)) hretries.1
      have hretry := (assertRetry_eq_ok.1 hretries.2).2 previous hprevious
      have hmem := List.mem_of_getLast? hprevious
      obtain ⟨retries, hok, _, _, hfinal⟩ :=
        (hwf previous (List.mem_append_left _ hmem)).restored_final hretry.restored
      rw [hretry.expected, Except.ok.injEq] at hok
      rw [← List.dropLast_append_getLast? previous hprevious, planEffects, List.flatMap_append,
        replay_append]
      rw [planEffects] at hreplay
      rw [hreplay, Option.bind_some, List.flatMap_singleton, hfinal, hok]

/-- Every applied effect of a terminal attempt finds its preimage; a committed attempt leaves every
postimage at the revision of its write, and a restored one leaves every object as a retry expects
it. The replay goes on over all attempts of a plan in a reachable journal. -/
theorem compensation_correct :
    (∀ attempt : BridgeOperationAttempt, validateAttempt attempt = .ok () →
      ∃ final, replay (expectedStore attempt.expectedWrites) attempt.appliedEffects = some final
        ∧ (attempt.state = .committed → ∀ expected ∈ attempt.expectedWrites,
          ∃ write ∈ attempt.operations, ∃ receipt, write.intent.kind = .write
            ∧ write.intent.key = expected.key ∧ write.receipt = some receipt
            ∧ final expected.key = some (receipt.resultRevision, expected.postFingerprint))
        ∧ (attempt.state = .restored → ∃ retries, retryExpectedWrites attempt = .ok retries
          ∧ retries.map (·.images) = attempt.expectedWrites.map (·.images)
          ∧ ∀ retry ∈ retries,
            final retry.key = some (retry.expectedRevision, retry.preFingerprint)))
      ∧ ∀ journal : Journal, Reachable journal →
        ∀ (planId : PlanId) (first : BridgeOperationAttempt),
        (journal.attemptsFor planId).head? = some first →
          ∃ final, replay (expectedStore first.expectedWrites)
            (planEffects (journal.attemptsFor planId)) = some final := by
  constructor
  · intro attempt hvalid
    have h := BridgeOperationAttempt.postInit_eq_ok.1 hvalid
    obtain ⟨final, hfinal⟩ := h.exists_replay
    refine ⟨final, hfinal,
      fun hcommitted _ hexpected => h.committed_final hcommitted hfinal hexpected,
      fun hrestored => ?_⟩
    obtain ⟨retries, hretries, himages, hentries, hstore⟩ := h.restored_final hrestored
    refine ⟨retries, hretries, himages, fun retry hmem => ?_⟩
    rw [hfinal, Option.some.injEq] at hstore
    rw [hstore]
    exact hentries retry hmem
  · intro journal hreach planId first hfirst
    obtain ⟨hrep, hcoherent⟩ := hreach.coherent
    refine exists_replay_plan hfirst (fun attempt hmem => ?_) (hcoherent.sequential planId)
    exact hrep.wellFormed attempt (hrep.located.holds_of_mem hmem).1

end

open Sample in
/-- The replay of the committed sample attempt. -/
theorem committed_replay :
    ∃ final,
      replay (expectedStore committed.expectedWrites) committed.appliedEffects = some final :=
  (compensation_correct.1 committed validateAttempt_committed).imp fun _ h => h.1

end TrueFamily.Transaction
