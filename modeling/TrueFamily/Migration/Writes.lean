import TrueFamily.Migration.Contents

/-!
# The writes of a plan and their restoration

However the write loop of `apply` and `_restore_originals` end, every document has its original
payload or the planned one (`triple_writeChanges`, `triple_restoreOriginals`). A restoration without
failures has left no document changed, and an inventory that passes `_assert_post_apply` is
migrated.
-/

namespace TrueFamily.Migration

open Checked Sorting
open JsonValue (Text)
open Projection hiding collect
open Run (Triple Reads)

section

variable [Sha256] [JinjaParser] {plan : MigrationPlan} {before : Inventory}
  {keys : DocumentKey → Prop} {start : Service}

omit [Sha256] [JinjaParser] in
/-- The document is as before, but for its revision. -/
def IsOriginal (before : Inventory) (document : ReferenceDocument) : Prop :=
  ∃ original, before.get? document.key = some original ∧ document.payload = original.payload
    ∧ document.writable = original.writable

/-- A change of an original that may be written at its key. -/
structure Change.Allowed (change : Change) (plan : MigrationPlan) (before : Inventory)
    (keys : DocumentKey → Prop) : Prop where
  original : IsOriginal before change.original
  key : keys change.original.key
  payload : ∀ original, before.get? change.original.key = some original →
    change.payload = plan.postOf original

omit [JinjaParser] in
theorem reads_currentFingerprint {s : Service} {key : DocumentKey} :
    Reads (currentFingerprint key) s fun fingerprint => ∃ document,
      s.providers.documents.get? key = some document
        ∧ fingerprintOf document = .ok fingerprint := by
  refine Reads.bind reads_getDocument fun document hget => Reads.checked.imp fun fingerprint h => ?_
  exact ⟨document, hget, h⟩

/-! ## The write loop -/

theorem triple_writeChange {change : Change} (hchange : change.Allowed plan before keys) :
    Triple (Within start plan before keys) (writeChange plan change)
      (fun result s => Within start plan before keys s
        ∧ ∀ attempted ∈ result.2, IsOriginal before attempted.1)
      fun stop s => stop = .died ∧ Within start plan before keys s := by
  unfold writeChange
  split
  · exact Triple.pure fun s hs => ⟨hs, fun _ hmem => absurd hmem List.not_mem_nil⟩
  · rename_i planned hplanned
    refine Triple.bind (m := fun _ => Within start plan before keys) (Triple.attempt ?_)
      fun written => Triple.bind (m := fun _ => Within start plan before keys) ?_
        fun fingerprint => ?_
    · refine Triple.imp (triple_writeDocument fun original hbefore =>
        Or.inr ⟨hchange.key, hchange.payload original hbefore⟩) (fun _ => id) (fun _ _ => id) ?_
      rintro (_ | _) s hs
      · exact ⟨rfl, hs⟩
      · exact hs
    · exact (Reads.attempted fun _ _ => reads_currentFingerprint).post_imp fun _ _ hs => hs.1
    · have hattempted : ∀ attempted ∈ [(change.original, planned.postFingerprint)],
          IsOriginal before attempted.1 := by
        intro attempted hmem
        rw [List.mem_singleton.1 hmem]
        exact hchange.original
      have hnone : ∀ attempted ∈ ([] : List Attempted), IsOriginal before attempted.1 :=
        fun _ hmem => absurd hmem List.not_mem_nil
      split
      · refine Triple.pure fun s hs => ⟨hs, ?_⟩
        simp only
        split
        · exact hattempted
        · exact hnone
      · split
        · exact Triple.pure fun s hs => ⟨hs, hattempted⟩
        · exact Triple.pure fun s hs => ⟨hs, hnone⟩
      · exact Triple.pure fun s hs => ⟨hs, hnone⟩

/-- Whatever happens in the write loop, the documents are partly migrated, and only originals are
restored. -/
theorem triple_writeChanges : ∀ {changes : List Change},
    (∀ change ∈ changes, change.Allowed plan before keys) →
      Triple (Within start plan before keys) (writeChanges plan changes)
        (fun result s => Within start plan before keys s
          ∧ ∀ attempted ∈ result.2, IsOriginal before attempted.1)
        fun stop s => stop = .died ∧ Within start plan before keys s
  | [], _ => Triple.pure fun s hs => ⟨hs, fun _ hmem => absurd hmem List.not_mem_nil⟩
  | change :: changes, hchanges => by
    obtain ⟨hchange, hchanges⟩ := List.forall_mem_cons.1 hchanges
    refine Triple.bind (triple_writeChange hchange) ?_
    rintro ⟨outcome, attempted⟩
    cases outcome with
    | error error => exact Triple.pure fun s hs => hs
    | ok _ =>
      refine Triple.of_forall fun s hs => ?_
      refine Triple.bind (Triple.imp (triple_writeChanges hchanges) (fun t ht => ht ▸ hs.1)
        (fun _ _ => id) fun _ _ => id) ?_
      rintro ⟨outcome, others⟩
      exact Triple.pure fun t ht => ⟨ht.1, List.forall_mem_append.2 ⟨hs.2, ht.2⟩⟩

/-! ## Restoring -/

theorem triple_restoreOriginal {attempted : Attempted} (h : IsOriginal before attempted.1) :
    Triple (Within start plan before keys) (restoreOriginal attempted)
      (fun _ => Within start plan before keys) fun _ => Within start plan before keys := by
  have hread {α : Type} {x : Run α} {P : Service → α → Prop} (hx : ∀ s, Reads x s (P s)) :
      Triple (Within start plan before keys) x (fun _ => Within start plan before keys)
        fun _ => Within start plan before keys :=
    (Reads.triple (fun s _ => hx s) fun _ _ hs => hs).post_imp fun _ _ hs => hs.1
  refine Triple.bind (hread fun _ => reads_getDocument) fun current =>
    Triple.bind (hread fun _ => Reads.checked) fun fingerprint =>
      Triple.bind (hread fun _ => Reads.checked) fun originalFingerprint => ?_
  have hrest : Triple (Within start plan before keys) (do
      let restored ← currentFingerprint attempted.1.key
      Run.require (restored = originalFingerprint) .failed)
      (fun _ => Within start plan before keys) fun _ => Within start plan before keys :=
    Triple.bind (hread fun _ => reads_currentFingerprint) fun _ => hread fun _ => Reads.require
  simp only
  split
  · refine Triple.bind (triple_writeDocument fun original hbefore => Or.inl ?_) fun _ => hrest
    obtain ⟨other, hother, hpayload, -⟩ := h
    rw [hpayload, Option.some.inj (hother.symm.trans hbefore)]
  · exact Triple.bind (hread fun _ => Reads.require) fun _ => hrest

theorem triple_restoreAll : ∀ {attempted : List Attempted},
    (∀ item ∈ attempted, IsOriginal before item.1) →
      Triple (Within start plan before keys) (restoreAll attempted)
        (fun _ => Within start plan before keys)
        fun stop s => stop = .died ∧ Within start plan before keys s
  | [], _ => Triple.pure fun s hs => hs
  | item :: attempted, h => by
    obtain ⟨hitem, h⟩ := List.forall_mem_cons.1 h
    refine Triple.bind (m := fun _ => Within start plan before keys) (Triple.attempt ?_)
      fun outcome => Triple.bind (triple_restoreAll h) fun failures => ?_
    · refine Triple.imp (triple_restoreOriginal hitem) (fun _ => id) (fun _ _ => id) ?_
      rintro (_ | _) s hs
      · exact ⟨rfl, hs⟩
      · exact hs
    · cases outcome <;> exact Triple.pure fun s hs => hs

omit [JinjaParser] in
theorem agrees_eq_ok {current original : ReferenceDocument} {same : Bool} :
    agrees current original = .ok same → same = true →
      hexdigest (canonicalJson current.payload) = hexdigest (canonicalJson original.payload)
        ∧ current.writable = original.writable := by
  intro h hsame
  obtain ⟨fingerprint, hfingerprint, h⟩ := bind_eq_ok.1 h
  obtain ⟨originalFingerprint, horiginal, h⟩ := bind_eq_ok.1 h
  obtain rfl := pure_eq_ok.1 h
  rw [(fingerprintOf_eq_ok.1 hfingerprint).2, (fingerprintOf_eq_ok.1 horiginal).2] at hsame
  simpa using hsame

omit [Sha256] [JinjaParser] in
theorem inventoryItem_eq_ok {inventory : Inventory} {key : DocumentKey}
    {document : ReferenceDocument} :
    inventory.item key = .ok document ↔ inventory.get? key = some document := by
  unfold Inventory.item
  cases inventory.get? key <;> simp

omit [JinjaParser] in
/-- A comparison without failures has found every original. -/
theorem compareOriginals_eq_nil {current : Inventory} :
    ∀ {originals : List (DocumentKey × ReferenceDocument)},
      compareOriginals current originals = [] → ∀ entry ∈ originals, ∃ document,
        current.get? entry.1 = some document
          ∧ hexdigest (canonicalJson document.payload) = hexdigest (canonicalJson entry.2.payload)
          ∧ document.writable = entry.2.writable
  | [], _ => fun _ hmem => absurd hmem List.not_mem_nil
  | (key, original) :: originals, h => by
    unfold compareOriginals at h
    split at h
    · rename_i same hsame
      obtain ⟨document, hdocument, hagrees⟩ := bind_eq_ok.1 hsame
      rw [List.append_eq_nil_iff] at h
      have hsame : same = true := by
        by_contra hne
        rw [if_neg hne] at h
        exact absurd h.1 (by simp)
      exact List.forall_mem_cons.2 ⟨⟨document, inventoryItem_eq_ok.1 hdocument,
        agrees_eq_ok hagrees hsame⟩, compareOriginals_eq_nil h.2⟩
    · cases h

omit [JinjaParser] in
/-- The check of the full inventory, from a service that satisfies `pre`. -/
theorem triple_verifyInventory {pre : Service → Prop} {originals : Inventory} :
    Triple pre (verifyInventory originals)
      (fun failures s => pre s ∧ (failures = [] →
        ∀ key original, originals.get? key = some original → ∃ document,
          s.providers.documents.get? key = some document
            ∧ hexdigest (canonicalJson document.payload) =
              hexdigest (canonicalJson original.payload)
            ∧ document.writable = original.writable))
      fun stop s => stop = .died ∧ pre s := by
  unfold verifyInventory
  refine Triple.bind (Reads.attempted fun _ _ =>
    reads_fetchInventory fun _ _ h => absurd h (by simp)) fun outcome => ?_
  cases outcome with
  | error error => exact Triple.pure fun s hs => ⟨hs.1, fun h => absurd h (by simp)⟩
  | ok current =>
    simp only
    split
    · refine Triple.pure fun s hs => ⟨hs.1, fun hnil key original horiginal => ?_⟩
      obtain ⟨document, hget, hsame⟩ := compareOriginals_eq_nil hnil (key, original)
        (Dict.get?_eq_some_iff.1 horiginal)
      exact ⟨document, ((hs.2 current rfl key document).1 hget).1, hsame⟩
    · exact Triple.pure fun s hs => ⟨hs.1, fun h => absurd h (by simp)⟩

omit [JinjaParser] in
/-- The check of the originals one after another. -/
theorem triple_verifyOriginals :
    ∀ {originals : List (DocumentKey × ReferenceDocument)} {pre : Service → Prop},
      Triple pre (verifyOriginals originals)
        (fun failures s => pre s ∧ (failures = [] → ∀ entry ∈ originals, ∃ document,
          s.providers.documents.get? entry.1 = some document
            ∧ hexdigest (canonicalJson document.payload) =
              hexdigest (canonicalJson entry.2.payload)
            ∧ document.writable = entry.2.writable))
        fun stop s => stop = .died ∧ pre s
  | [], _ => Triple.pure fun s hs => ⟨hs, fun _ _ hmem => absurd hmem List.not_mem_nil⟩
  | (key, original) :: originals, pre => by
    have hread : ∀ s : Service, pre s → Reads (do
        let current ← getDocument key
        Run.checked (agrees current original)) s fun same => same = true → ∃ document,
          s.providers.documents.get? key = some document
            ∧ hexdigest (canonicalJson document.payload) =
              hexdigest (canonicalJson original.payload)
            ∧ document.writable = original.writable := fun s _ =>
      Reads.bind reads_getDocument fun document hget => Reads.checked.imp fun same hsame htrue =>
        ⟨document, hget, agrees_eq_ok hsame htrue⟩
    refine Triple.bind (Reads.attempted hread) fun outcome => Triple.of_forall fun s hs => ?_
    refine Triple.bind (Triple.imp (@triple_verifyOriginals originals (· = s)) (fun _ => id)
      (fun _ _ => id) ?_) fun failures => ?_
    · rintro stop t ⟨hstop, rfl⟩
      exact ⟨hstop, hs.1⟩
    · split
      · refine Triple.pure ?_
        rintro t ⟨rfl, hrest⟩
        exact ⟨hs.1, fun hnil => List.forall_mem_cons.2 ⟨hs.2 true rfl rfl, hrest hnil⟩⟩
      · refine Triple.pure ?_
        rintro t ⟨rfl, -⟩
        exact ⟨hs.1, fun hnil => absurd hnil (by simp)⟩

omit [Sha256] [JinjaParser] in
theorem eraseDups_eq_nil {α : Type} [BEq α] {items : List α} (h : items.eraseDups = []) :
    items = [] := by
  cases items with
  | nil => rfl
  | cons item items =>
    rw [List.eraseDups_cons] at h
    cases h

/-- The inventory of the originals. -/
structure IsInventory (before originals : Inventory) : Prop where
  same : ∀ key, originals.get? key = none ↔ before.get? key = none
  original : ∀ key document, originals.get? key = some document → IsOriginal before document
  keyed : ∀ key document, originals.get? key = some document → document.key = key

/-- A restoration without failures leaves every document as before. -/
theorem untouched_of_verified (hissued : Issued plan before) {documents : Inventory}
    (hpartly : Partly plan before keys documents)
    (hverified : ∀ key original, keys key → before.get? key = some original → ∃ document,
      documents.get? key = some document ∧ hexdigest (canonicalJson document.payload) =
        hexdigest (canonicalJson original.payload)) :
    Untouched plan before documents where
  same := hpartly.same
  contents key original document hbefore hget := by
    obtain ⟨hwritable, hpayload⟩ := hpartly.contents key original document hbefore hget
    refine ⟨hwritable, Or.inl ?_⟩
    rcases hpayload with hpayload | ⟨hkey, hpayload⟩
    · exact hpayload
    · obtain ⟨other, hother, hsame⟩ := hverified key original hkey hbefore
      obtain rfl := Option.some.inj (hget.symm.trans hother)
      exact hissued.eq_original hbefore (Or.inr hpayload) hsame

/-- The rollback of `apply`. -/
theorem triple_restoreOriginals (hissued : Issued plan before) {attempted : List Attempted}
    {originals : Inventory} (hattempted : ∀ item ∈ attempted, IsOriginal before item.1)
    (hinventory : IsInventory before originals) :
    Triple (Within start plan before keys) (restoreOriginals attempted originals true)
      (fun failures s => Within start plan before keys s
        ∧ (failures = [] → Untouched plan before s.providers.documents))
      fun stop s => stop = .died ∧ Within start plan before keys s := by
  unfold restoreOriginals
  refine Triple.bind (triple_restoreAll fun item hmem => hattempted item (List.mem_reverse.1 hmem))
    fun failures => Triple.bind triple_verifyInventory fun others =>
      Triple.pure fun s hs => ⟨hs.1, fun hnil => ?_⟩
  have hothers : others = [] := (List.append_eq_nil_iff.1 (eraseDups_eq_nil hnil)).2
  obtain ⟨providers, rfl, hpartly⟩ := hs.1
  refine untouched_of_verified hissued hpartly fun key original _ hbefore => ?_
  obtain ⟨listed, hlisted⟩ := exists_of_same (hinventory.same key).symm hbefore
  obtain ⟨document, hget, hsame, -⟩ := hs.2 hothers key listed hlisted
  obtain ⟨same, hfound, hpayload, -⟩ := hinventory.original key listed hlisted
  rw [hinventory.keyed key listed hlisted, hbefore] at hfound
  refine ⟨document, hget, ?_⟩
  rw [hsame, hpayload, Option.some.inj hfound]

/-! ## The checks before and after -/

theorem reads_preflight {s : Service} (hissued : Issued plan before) :
    Reads (preflight plan) s fun originals => ∀ key,
      originals.get? key = s.providers.documents.get? key := by
  refine Reads.bind reads_assertAuthority fun _ _ => Reads.bind
    (reads_fullInventory fun name hname => by rwa [hissued.sound.providers]) fun originals h =>
      Reads.bind Reads.checked fun _ _ => Reads.pure h

theorem reads_finalInventory {s : Service} (hissued : Issued plan before) :
    Reads (finalInventory plan) s fun documents =>
      (∀ key, documents.get? key = s.providers.documents.get? key)
        ∧ assertPostApply plan documents = .ok () := by
  refine Reads.bind (reads_fullInventory fun name hname => by rwa [hissued.sound.providers])
    fun documents h => Reads.bind Reads.checked fun _ hchecked => Reads.bind reads_assertAuthority
      fun _ _ => Reads.pure ⟨h, hchecked⟩

/-- The values of `planned` are the documents of the plan. -/
theorem Issued.values (h : Issued plan before) : (plannedDict plan).values = plan.documents := by
  rw [Dict.values, plannedDict, entries_comprehension PlannedDocument.key id _ h.sound.distinct,
    List.map_map]
  exact List.map_id _

/-- What `_assert_post_apply` accepts has no reference to the old entity. -/
def NoReferences (plan : MigrationPlan) (documents : Inventory) : Prop :=
  ∀ key document, documents.get? key = some document →
    (walk plan.oldEntityId (some document.provider) document.payload []).replaceablePaths = []
      ∧ (walk plan.oldEntityId (some document.provider) document.payload []).blocked = []

omit [Sha256] in
theorem scanFor_eq_ok {document : ReferenceDocument} {scan : SemanticReferenceScan}
    (h : scanFor plan document = .ok scan) :
    scan = walk plan.oldEntityId (some document.provider) document.payload [] := by
  rw [scanFor] at h
  have h : scanReferences document.payload plan.oldEntityId (some document.provider) =
      .ok scan := by
    cases hscan : scanReferences document.payload plan.oldEntityId (some document.provider) with
    | error error => rw [hscan] at h; cases h
    | ok found => rw [hscan] at h; exact congrArg _ (Except.ok.inj h)
  rw [scanReferences, bind_unit_eq_ok, bind_unit_eq_ok] at h
  obtain ⟨-, -, h⟩ := h
  split at h
  · rename_i found hfound
    obtain rfl := pure_eq_ok.1 h
    unfold scanSemanticReferences at hfound
    split at hfound
    · exact (Option.some.inj hfound).symm
    · cases hfound
  · cases h

/-- An inventory that passes `_assert_post_apply` is migrated. -/
theorem migrated_of_postApply (hissued : Issued plan before) {documents inventory : Inventory}
    (hpartly : Partly plan before keys documents)
    (hinventory : ∀ key, inventory.get? key = documents.get? key)
    (h : assertPostApply plan inventory = .ok ()) :
    Migrated plan before documents ∧ NoReferences plan documents := by
  rw [assertPostApply, bind_unit_eq_ok] at h
  have hall := forAll_eq_ok.1 h.2
  rw [hissued.values] at hall
  have hverified : ∀ key original document, before.get? key = some original →
      documents.get? key = some document →
        hexdigest (canonicalJson document.payload) =
            hexdigest (canonicalJson (plan.postOf original))
          ∧ (walk plan.oldEntityId (some document.provider)
              document.payload []).replaceablePaths = []
          ∧ (walk plan.oldEntityId (some document.provider) document.payload []).blocked = [] := by
    intro key original document hbefore hget
    have hplanned := hissued.planned key original hbefore
    have hcheck := hall _ hplanned
    obtain ⟨current, hcurrent, hcheck⟩ := bind_eq_ok.1 hcheck
    have hkey : (plannedDocument plan.oldEntityId (targetOf plan.providerTargets original.provider)
        original.provider original).key = key := (hissued.keyed key original hbefore).1
    rw [inventoryItem_eq_ok, hkey, hinventory key, hget, Option.some.injEq] at hcurrent
    subst hcurrent
    rw [bind_unit_eq_ok] at hcheck
    obtain ⟨fingerprint, hfingerprint, hcheck⟩ := bind_eq_ok.1 hcheck.2
    rw [bind_unit_eq_ok, check_eq_ok] at hcheck
    obtain ⟨scan, hscan, hfree⟩ := bind_eq_ok.1 hcheck.2
    rw [check_eq_ok, scanFor_eq_ok hscan] at hfree
    refine ⟨?_, hfree⟩
    rw [← (fingerprintOf_eq_ok.1 hfingerprint).2, hcheck.1]
    rfl
  refine ⟨⟨hpartly.same, fun key original document hbefore hget => ?_⟩, fun key document hget => ?_⟩
  · obtain ⟨hwritable, hpayload⟩ := hpartly.contents key original document hbefore hget
    exact ⟨hwritable, hissued.eq_postOf hbefore (hpayload.imp_right And.right)
      (hverified key original document hbefore hget).1⟩
  · obtain ⟨original, hbefore⟩ := exists_of_same (hpartly.same key) hget
    exact (hverified key original document hbefore hget).2

/-! ## The changes -/

omit [Sha256] [JinjaParser] in
/-- The target of a provider of the manifest. -/
theorem targetDict_eq {targets : List (Text × Text)} (h : targets.map Prod.fst = providerManifest)
    {name target : Text} (hget : (targetDict targets).get? name = some target) :
    target = targetOf targets name := by
  have hnodup : (targets.map Prod.fst).Nodup := by
    rw [h]
    decide
  rw [targetDict, Dict.get?_eq_some_iff, entries_comprehension Prod.fst Prod.snd _ hnodup] at hget
  have hmem : (name, target) ∈ targets := by simpa using hget
  have hother := mem_targetOf (List.mem_map_of_mem (f := Prod.fst) hmem)
  exact (Prod.mk.inj (List.inj_on_of_nodup_map hnodup hmem hother rfl)).2

/-- The changes of a plan are those of documents that are as before. -/
theorem changesOf_allowed (hissued : Issued plan before) {originals : Inventory}
    (hinventory : IsInventory before originals) {changes : List Change}
    (h : changesOf plan originals = .ok changes)
    (hkeys : ∀ change ∈ changes, keys change.original.key) :
    ∀ change ∈ changes, change.Allowed plan before keys := by
  intro change hmem
  obtain ⟨planned, -, hchange⟩ := (mem_collect h).1 change hmem
  obtain ⟨original, horiginal, hchange⟩ := bind_eq_ok.1 hchange
  rw [inventoryItem_eq_ok] at horiginal
  split at hchange
  · cases hchange
  · rename_i target htarget
    split at hchange
    · cases hchange
    · rename_i payload count hreplaced
      rw [bind_unit_eq_ok, pure_eq_ok] at hchange
      obtain ⟨-, rfl⟩ := hchange
      have hkey : original.key = planned.key := hinventory.keyed _ original horiginal
      obtain ⟨other, hbefore, hpayload, hwritable⟩ := hinventory.original _ original horiginal
      refine ⟨⟨other, hbefore, hpayload, hwritable⟩, hkeys _ hmem, fun found hfound => ?_⟩
      obtain rfl := Option.some.inj (hbefore.symm.trans hfound)
      have hprovider : other.provider = planned.provider :=
        (congrArg Prod.fst ((hissued.keyed _ other hbefore).1.trans hkey) :)
      change payload = plan.postOf other
      rw [(Prod.mk.inj (replaceExactScalars_eq_ok original.keysDistinct hreplaced)).1,
        targetDict_eq hissued.sound.covered htarget, MigrationPlan.postOf, postPayload, hprovider,
        hpayload]

end

end TrueFamily.Migration
