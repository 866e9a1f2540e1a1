import TrueFamily.Migration.RoundTrip
import TrueFamily.Migration.Runs

/-!
# What the documents are while a plan is applied

`Partly plan before keys documents`: every document is as in `before`, or it is at one of `keys` and
has the payload that the plan makes of it. The writes of `apply` and of its restoration keep this,
the reads say what the documents are, and the fingerprints of a plan tell the two payloads apart.
-/

namespace TrueFamily.Migration

open Checked Sorting
open JsonValue (Text)
open Projection hiding collect
open Run (Triple Reads)

/-! ## Inventories -/

theorem reads_getDocument {s : Service} {key : DocumentKey} :
    Reads (getDocument key) s fun document => s.providers.documents.get? key = some document := by
  refine Reads.call (Reads.bind Reads.service ?_)
  rintro _ rfl
  split
  · exact Reads.pure ‹_›
  · exact Reads.raise

theorem reads_listDocuments {s : Service} {name : Text} :
    Reads (listDocuments name) s (· = s.providers.listed name) := by
  refine Reads.call (Reads.bind Reads.service ?_)
  rintro _ rfl
  exact Reads.pure rfl

theorem mem_listed {providers : InMemoryReferenceProviders} {name : Text}
    {document : ReferenceDocument} :
    document ∈ providers.listed name ↔
      providers.documents.get? (name, document.objectId) = some document := by
  simp only [InMemoryReferenceProviders.listed, mem_sortedBy, List.mem_map, List.mem_filter,
    decide_eq_true_eq, Dict.mem_entries_iff]
  constructor
  · rintro ⟨⟨key, found⟩, ⟨hget, hname⟩, rfl⟩
    have hid : found.objectId = key.2 := congrArg Prod.snd (providers.keyed key found hget)
    have hkey : (name, found.objectId) = key := Prod.ext hname.symm hid
    rw [hkey]
    exact hget
  · intro hget
    exact ⟨((name, document.objectId), document), ⟨hget, rfl⟩, rfl⟩

section

variable [Sha256]

theorem fingerprintOf_eq_ok {document : ReferenceDocument} {fingerprint : Text} :
    fingerprintOf document = .ok fingerprint ↔
      validatePayload document.payload = true
        ∧ fingerprint = hexdigest (canonicalJson document.payload) := by
  rw [fingerprintOf, canonicalDocumentFingerprint, payloadFingerprint, check]
  by_cases hvalid : validatePayload document.payload = true
  · rw [if_pos hvalid]
    change Except.ok _ = _ ↔ _
    rw [Except.ok.injEq]
    exact ⟨fun h => ⟨hvalid, h.symm⟩, fun h => h.2.symm⟩
  · rw [if_neg hvalid]
    refine ⟨fun h => ?_, fun h => absurd h.1 hvalid⟩
    cases h

/-- The documents of one provider that are fetched in addition. -/
theorem reads_fetchDocuments {s : Service} {name : Text} :
    ∀ {listed : List ReferenceDocument} {inventory : Inventory},
      (∀ key document, inventory.get? key = some document →
        s.providers.documents.get? key = some document) →
      Reads (fetchDocuments name listed inventory) s fun fetched =>
        ∀ key document, fetched.get? key = some document ↔
          s.providers.documents.get? key = some document
            ∧ ((key.1 = name ∧ key.2 ∈ listed.map (·.objectId))
              ∨ inventory.get? key = some document)
  | [], inventory, hsub => by
    refine Reads.pure fun key document => ?_
    simp only [List.map_nil, List.not_mem_nil, and_false, false_or]
    exact ⟨fun h => ⟨hsub key document h, h⟩, fun h => h.2⟩
  | entry :: listed, inventory, hsub => by
    refine Reads.bind reads_getDocument fun document hget => Reads.bind Reads.require fun _ _ =>
      Reads.bind Reads.require fun _ _ => Reads.bind Reads.checked fun _ _ => ?_
    have hkey : (name, document.objectId) = (name, entry.objectId) := by
      have hkeyed := s.providers.keyed _ document hget
      rw [show document.objectId = entry.objectId from congrArg Prod.snd hkeyed]
    rw [hkey]
    refine (reads_fetchDocuments fun key found h => ?_).imp fun fetched hfetched key found => ?_
    · rw [Dict.get?_set] at h
      split at h
      · rename_i heq
        rw [heq, hget, h]
      · exact hsub key found h
    · rw [hfetched key found, Dict.get?_set]
      by_cases heq : key = (name, entry.objectId)
      · subst heq
        simp only [hget, Option.some.injEq, if_true, List.map_cons, List.mem_cons, true_or,
          and_self, and_true, true_and]
        tauto
      · rw [if_neg heq]
        have hne : ¬ (key.1 = name ∧ key.2 = entry.objectId) :=
          fun h => heq (Prod.ext h.1 h.2)
        simp only [List.map_cons, List.mem_cons]
        tauto

/-- An inventory has exactly the documents of its providers. -/
theorem reads_fetchInventory {s : Service} :
    ∀ {names : List Text} {inventory : Inventory},
      (∀ key document, inventory.get? key = some document →
        s.providers.documents.get? key = some document) →
      Reads (fetchInventory names inventory) s fun fetched =>
        ∀ key document, fetched.get? key = some document ↔
          s.providers.documents.get? key = some document
            ∧ (key.1 ∈ names ∨ inventory.get? key = some document)
  | [], inventory, hsub => by
    refine Reads.pure fun key document => ?_
    simp only [List.not_mem_nil, false_or]
    exact ⟨fun h => ⟨hsub key document h, h⟩, fun h => h.2⟩
  | name :: names, inventory, hsub => by
    refine Reads.bind Reads.require fun _ _ => Reads.bind reads_listDocuments ?_
    rintro _ rfl
    refine Reads.bind (reads_fetchDocuments hsub) fun fetched hfetched => ?_
    refine (reads_fetchInventory fun key document h => ((hfetched key document).1 h).1).imp
      fun final hfinal key document => ?_
    rw [hfinal key document, hfetched key document]
    have hlisted : s.providers.documents.get? key = some document → key.1 = name →
        key.2 ∈ (s.providers.listed name).map (·.objectId) := by
      rintro hget rfl
      have hid : document.objectId = key.2 :=
        congrArg Prod.snd (s.providers.keyed key document hget)
      refine List.mem_map.2 ⟨document, mem_listed.2 ?_, hid⟩
      rw [hid]
      exact hget
    simp only [List.mem_cons]
    tauto

/-- The inventory of all providers. -/
theorem reads_fullInventory {s : Service} {names : List Text}
    (hnames : ∀ name ∈ providerManifest, name ∈ names) :
    Reads (fetchInventory names Dict.empty) s fun fetched =>
      ∀ key, fetched.get? key = s.providers.documents.get? key := by
  refine (reads_fetchInventory fun _ _ h => absurd h (by simp)).imp fun fetched hfetched key => ?_
  refine Option.ext fun document => ?_
  rw [hfetched key document]
  exact ⟨fun h => h.1, fun h => ⟨h, Or.inl (hnames _ (s.providers.known key document h))⟩⟩

omit [Sha256] in
theorem reads_assertAuthority {s : Service} {plan : MigrationPlan} :
    Reads (assertAuthority plan) s fun _ => True := by
  refine Reads.bind (P := fun _ => True) ?_ fun _ _ => Reads.require.imp fun _ _ => trivial
  refine Triple.catching (c := fun _ t => t = s) ?_ fun _ => Triple.raise fun _ h => h
  refine Triple.imp (Reads.call (P := fun _ => True) (Reads.bind Reads.service ?_)) (fun _ => id)
    (fun _ _ => id) ?_
  · rintro _ rfl
    split
    · exact Reads.pure trivial
    · exact Reads.raise
  · rintro (_ | _) t rfl <;> rfl

/-! ## The payloads of an issued plan -/

variable [JinjaParser]

/-- What a plan makes of a document. -/
def MigrationPlan.postOf (plan : MigrationPlan) (document : ReferenceDocument) : Payload :=
  postPayload plan.oldEntityId (targetOf plan.providerTargets document.provider) document.provider
    document

/-- A plan that was issued for these documents. -/
structure Issued (plan : MigrationPlan) (before : Inventory) : Prop where
  sound : Sound plan
  changes : ChangesExact plan
  /-- The keys and the payloads of the documents. -/
  keyed : ∀ key document, before.get? key = some document →
    document.key = key ∧ key.1 ∈ providerManifest
      ∧ validatePayload document.payload = true ∧ document.writable = true
  planned : ∀ key document, before.get? key = some document →
    plannedDocument plan.oldEntityId (targetOf plan.providerTargets document.provider)
      document.provider document ∈ plan.documents
  covered : ∀ planned ∈ plan.documents, before.get? planned.key ≠ none

/-- Every document is as before, or it is at one of the keys and has been migrated. -/
structure Partly (plan : MigrationPlan) (before : Inventory) (keys : DocumentKey → Prop)
    (documents : Inventory) : Prop where
  same : ∀ key, documents.get? key = none ↔ before.get? key = none
  contents : ∀ key original document, before.get? key = some original →
    documents.get? key = some document → document.writable = original.writable
      ∧ (document.payload = original.payload ∨ keys key ∧ document.payload = plan.postOf original)

/-- Every document is as before, but for its revision. -/
def Untouched (plan : MigrationPlan) (before documents : Inventory) : Prop :=
  Partly plan before (fun _ => False) documents

/-- Every document has been migrated. -/
structure Migrated (plan : MigrationPlan) (before documents : Inventory) : Prop where
  same : ∀ key, documents.get? key = none ↔ before.get? key = none
  contents : ∀ key original document, before.get? key = some original →
    documents.get? key = some document → document.writable = original.writable
      ∧ document.payload = plan.postOf original

variable {plan : MigrationPlan} {before documents : Inventory} {keys keys' : DocumentKey → Prop}

omit [Sha256] [JinjaParser] in
/-- A key of one of two inventories with the same keys is a key of the other. -/
theorem exists_of_same {first second : Inventory} {key : DocumentKey} {document : ReferenceDocument}
    (h : first.get? key = none ↔ second.get? key = none) (hget : first.get? key = some document) :
    ∃ other, second.get? key = some other := by
  refine Option.ne_none_iff_exists'.1 fun hnone => ?_
  rw [h.2 hnone] at hget
  cases hget

theorem Issued.old_ne (h : Issued plan before) : plan.oldEntityId ≠ [] :=
  ne_nil_of_climate h.sound.oldEntityId

theorem Issued.planId_ne (h : Issued plan before) : plan.planId ≠ [] := by
  intro hnil
  have hlength := length_planIdOf plan.digest
  rw [← h.sound.planId, hnil] at hlength
  cases hlength

/-- A document with one of its two payloads is valid. -/
theorem Issued.valid (h : Issued plan before) {key : DocumentKey} {original : ReferenceDocument}
    (hbefore : before.get? key = some original) {payload : Payload}
    (hpayload : payload = original.payload ∨ payload = plan.postOf original) :
    validatePayload payload = true := by
  have hvalid := (h.keyed key original hbefore).2.2.1
  rcases hpayload with rfl | rfl
  · exact hvalid
  · rwa [MigrationPlan.postOf, postPayload, validatePayload_mapStrings]

theorem Issued.fingerprintOf (h : Issued plan before) {key : DocumentKey}
    {original document : ReferenceDocument} (hbefore : before.get? key = some original)
    (hpayload : document.payload = original.payload ∨ document.payload = plan.postOf original) :
    fingerprintOf document = .ok (hexdigest (canonicalJson document.payload)) :=
  fingerprintOf_eq_ok.2 ⟨h.valid hbefore hpayload, rfl⟩

theorem Migrated.valid (h : Migrated plan before documents) (hissued : Issued plan before)
    {key : DocumentKey} {document : ReferenceDocument} (hget : documents.get? key = some document) :
    validatePayload document.payload = true := by
  obtain ⟨original, hbefore⟩ := exists_of_same (h.same key) hget
  exact hissued.valid hbefore (Or.inr (h.contents key original document hbefore hget).2)

omit [Sha256] in
theorem Partly.imp (h : Partly plan before keys documents) (hkeys : ∀ key, keys key → keys' key) :
    Partly plan before keys' documents where
  same := h.same
  contents key original document hbefore hget :=
    let ⟨hwritable, hpayload⟩ := h.contents key original document hbefore hget
    ⟨hwritable, hpayload.imp_right fun hpost => ⟨hkeys key hpost.1, hpost.2⟩⟩

omit [Sha256] in
theorem Untouched.partly (h : Untouched plan before documents) :
    Partly plan before keys documents :=
  Partly.imp h fun _ => False.elim

omit [Sha256] in
theorem Untouched.refl (plan : MigrationPlan) (before : Inventory) :
    Untouched plan before before where
  same _ := Iff.rfl
  contents _ _ _ hbefore hget := by
    obtain rfl := Option.some.inj (hbefore.symm.trans hget)
    exact ⟨rfl, Or.inl rfl⟩

omit [Sha256] in
theorem Untouched.payload (h : Untouched plan before documents) {key : DocumentKey}
    {original document : ReferenceDocument} (hbefore : before.get? key = some original)
    (hget : documents.get? key = some document) :
    document.writable = original.writable ∧ document.payload = original.payload :=
  let ⟨hwritable, hpayload⟩ := h.contents key original document hbefore hget
  ⟨hwritable, hpayload.resolve_right fun hpost => hpost.1⟩

omit [Sha256] in
/-- A document without paths stays as it is. -/
theorem postPayload_eq_self {old target name : Text} {document : ReferenceDocument}
    (h : (walk old (some name) document.payload []).replaceablePaths = []) :
    postPayload old target name document = document.payload := by
  rw [postPayload, h]
  exact mapStrings_eq_self _ _ _ fun found _ => if_pos List.not_mem_nil

section

variable (h : Issued plan before) {key : DocumentKey} {original : ReferenceDocument}
  (hbefore : before.get? key = some original)
include h hbefore

/-- A payload and what becomes of it have the same fingerprint only if they are the same. -/
theorem Issued.postOf_eq
    (hsame : hexdigest (canonicalJson (plan.postOf original)) =
      hexdigest (canonicalJson original.payload)) : plan.postOf original = original.payload := by
  have hplanned := h.planned key original hbefore
  by_contra hne
  refine (h.changes _ hplanned).2 (fun hpaths => hne (postPayload_eq_self hpaths)) ?_
  exact hsame.symm

/-- The fingerprint tells whether a document is as before. -/
theorem Issued.eq_original {payload : Payload}
    (hpayload : payload = original.payload ∨ payload = plan.postOf original)
    (hsame : hexdigest (canonicalJson payload) = hexdigest (canonicalJson original.payload)) :
    payload = original.payload := by
  rcases hpayload with rfl | rfl
  · rfl
  · exact h.postOf_eq hbefore hsame

/-- The fingerprint tells whether a document has been migrated. -/
theorem Issued.eq_postOf {payload : Payload}
    (hpayload : payload = original.payload ∨ payload = plan.postOf original)
    (hsame : hexdigest (canonicalJson payload) = hexdigest (canonicalJson (plan.postOf original))) :
    payload = plan.postOf original := by
  rcases hpayload with rfl | rfl
  · exact (h.postOf_eq hbefore hsame.symm).symm
  · rfl

/-- The planned document of an original. -/
theorem Issued.plannedFor_eq {document : ReferenceDocument} (hkey : document.key = key) :
    plannedFor plan document = some (plannedDocument plan.oldEntityId
      (targetOf plan.providerTargets original.provider) original.provider original) := by
  have hmem := h.planned key original hbefore
  have horiginal : original.key = key := (h.keyed key original hbefore).1
  have hsome : (plannedFor plan document).isSome :=
    List.find?_isSome.2 ⟨_, hmem, decide_eq_true (horiginal.trans hkey.symm)⟩
  obtain ⟨planned, hfound⟩ := Option.isSome_iff_exists.1 hsome
  have hplanned : planned.key = document.key := by simpa using List.find?_some hfound
  rw [hfound, Option.some.injEq]
  exact List.inj_on_of_nodup_map h.sound.distinct (List.mem_of_find?_eq_some hfound) hmem
    (hplanned.trans (hkey.trans horiginal.symm))

end

/-! ## Writes -/

omit [Sha256] [JinjaParser] in
/-- What a write stores, and when. -/
theorem write_eq_ok {providers providers' : InMemoryReferenceProviders} {key : DocumentKey}
    {revision : Revision} {payload : Payload} {keysDistinct : KeysDistinct payload} :
    providers.write key revision payload keysDistinct = .ok providers' ↔
      ∃ current, ∃ hget : providers.documents.get? key = some current,
        current.revision = revision ∧ current.writable = true ∧ validatePayload payload = true
          ∧ providers' =
            let count := (providers.writeCounts.get? key).getD 0 + 1
            providers.stored key count (current.updated payload keysDistinct count)
              (providers.keyed key current hget) (providers.known key current hget) := by
  unfold InMemoryReferenceProviders.write
  split
  · rename_i hnone
    refine iff_of_false (fun h => nomatch h) ?_
    rintro ⟨current, hget, -⟩
    rw [hnone] at hget
    cases hget
  · rename_i current hget
    simp only [bind_unit_eq_ok, check_eq_ok, pure_eq_ok]
    constructor
    · rintro ⟨hrevision, hwritable, hvalid, hstored⟩
      exact ⟨current, hget, hrevision, hwritable, hvalid, hstored⟩
    · rintro ⟨other, hother, hrevision, hwritable, hvalid, hstored⟩
      obtain rfl := Option.some.inj (hget.symm.trans hother)
      exact ⟨hrevision, hwritable, hvalid, hstored⟩

/-- The service is as it was, but for the documents, which are partly migrated. -/
def Within (start : Service) (plan : MigrationPlan) (before : Inventory)
    (keys : DocumentKey → Prop) (s : Service) : Prop :=
  ∃ providers, s = { start with providers := providers }
    ∧ Partly plan before keys providers.documents

variable {start : Service}

omit [Sha256] in
/-- A document in the place of another one, with its payload or with the migrated one. -/
theorem Partly.set (h : Partly plan before keys documents) {key : DocumentKey}
    {current document : ReferenceDocument} (hget : documents.get? key = some current)
    (hwritable : document.writable = current.writable)
    (hpayload : ∀ original, before.get? key = some original →
      document.payload = original.payload ∨ keys key ∧ document.payload = plan.postOf original) :
    Partly plan before keys (documents.set key document) where
  same other := by
    rw [← h.same other, Dict.get?_set]
    split
    · rename_i heq
      simp [heq, hget]
    · exact Iff.rfl
  contents other original found hbefore hother := by
    rw [Dict.get?_set] at hother
    split at hother
    · rename_i heq
      subst heq
      obtain rfl := Option.some.inj hother
      exact ⟨hwritable.trans (h.contents other original current hbefore hget).1,
        hpayload original hbefore⟩
    · exact h.contents other original found hbefore hother

omit [Sha256] in
/-- A write of an original or, at one of the keys, of a migrated payload. -/
theorem triple_writeDocument {key : DocumentKey} {revision : Revision} {payload : Payload}
    {keysDistinct : KeysDistinct payload}
    (hpayload : ∀ original, before.get? key = some original →
      payload = original.payload ∨ keys key ∧ payload = plan.postOf original) :
    Triple (Within start plan before keys) (writeDocument key revision payload keysDistinct)
      (fun _ => Within start plan before keys) fun _ => Within start plan before keys := by
  refine Triple.call (Triple.service ?_) (fun s hs => ⟨hs, hs⟩) fun _ _ hs => hs
  rintro _ ⟨providers, rfl, hpartly⟩
  refine Triple.bind (Reads.triple (fun _ _ => Reads.checked) ?_) fun stored => Triple.modify ?_
  · rintro _ _ rfl
    exact ⟨providers, rfl, hpartly⟩
  · rintro _ ⟨rfl, hstored⟩
    obtain ⟨current, hget, -, -, -, rfl⟩ := write_eq_ok.1 hstored
    exact ⟨_, rfl, hpartly.set hget rfl hpayload⟩

end

end TrueFamily.Migration
