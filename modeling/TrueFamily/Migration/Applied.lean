import TrueFamily.Migration.Crashes

/-!
# A first attempt without faults

Where no call fails, the first `apply` of an issued plan returns exactly when no planned payload
refers to the old entity (`apply_returns_iff`): what `_assert_post_apply` looks for is the only
thing that can go wrong.
-/

namespace TrueFamily.Migration

open Checked Sorting
open JsonValue (Text)
open Projection hiding collect
open Run (Triple Reads)

section

variable [Sha256] [JinjaParser] {plan : MigrationPlan} {before : Inventory} {start s : Service}

/-! ## Inventories -/

omit [Sha256] [JinjaParser] in
/-- What a method that reads returns satisfies its postcondition. -/
theorem Returns.of_reads {α : Type} {x : Run α} {P : α → Prop} {a : α} {t : Service}
    (h : Returns x s a t) (hreads : Reads x s P) : P a := by
  have hends := hreads ⟨s, []⟩ rfl
  unfold Method.Ends at hends
  rw [h] at hends
  exact hends.2

omit [Sha256] [JinjaParser] in
theorem Returns.catching {α : Type} {x : Run α} {handler : ApplyError → Run α} {a : α}
    {t : Service} (h : Returns x s a t) : Returns (Run.catching x handler) s a t :=
  Returns.bind h.attempt Returns.pure

omit [Sha256] [JinjaParser] in
/-- The documents of a provider have distinct object IDs. -/
theorem nodup_listed (providers : InMemoryReferenceProviders) (name : Text) :
    ((providers.listed name).map (·.objectId)).Nodup := by
  refine ((perm_sortedBy ReferenceDocument.objectId _).map (·.objectId)).nodup_iff.2 ?_
  rw [List.map_map]
  have hnodup := providers.documents.nodup_keys
  refine List.Nodup.map_on (fun first hfirst second hsecond heq => ?_)
    ((List.Nodup.of_map _ hnodup).filter _)
  obtain ⟨hfirst, hname⟩ := List.mem_filter.1 hfirst
  obtain ⟨hsecond, hname'⟩ := List.mem_filter.1 hsecond
  have hkey := providers.keyed _ _ (Dict.mem_entries_iff.1 hfirst)
  have hkey' := providers.keyed _ _ (Dict.mem_entries_iff.1 hsecond)
  refine List.inj_on_of_nodup_map hnodup hfirst hsecond (Prod.ext ?_ ?_)
  · exact (of_decide_eq_true hname).trans (of_decide_eq_true hname').symm
  · rw [← hkey, ← hkey']
    exact heq

omit [JinjaParser] in
theorem returns_fetchDocuments {name : Text}
    (hvalid : ∀ key document, s.providers.documents.get? key = some document →
      validatePayload document.payload = true) :
    ∀ {listed : List ReferenceDocument} {inventory : Inventory},
      (∀ document ∈ listed,
        s.providers.documents.get? (name, document.objectId) = some document) →
      (listed.map (·.objectId)).Nodup →
      (∀ document ∈ listed, inventory.get? (name, document.objectId) = none) →
      ∃ fetched, Returns (fetchDocuments name listed inventory) s fetched s
        ∧ ∀ key, key.1 ≠ name → fetched.get? key = inventory.get? key
  | [], inventory, _, _, _ => ⟨inventory, Returns.pure, fun _ _ => rfl⟩
  | document :: listed, inventory, hlisted, hdistinct, hnew => by
    obtain ⟨hget, hlisted⟩ := List.forall_mem_cons.1 hlisted
    obtain ⟨hfirst, hnew⟩ := List.forall_mem_cons.1 hnew
    rw [List.map_cons, List.nodup_cons] at hdistinct
    have hprovider : document.provider = name :=
      congrArg Prod.fst (s.providers.keyed _ document hget)
    obtain ⟨fetched, hfetched, hothers⟩ := @returns_fetchDocuments name hvalid listed
      (inventory.set (name, document.objectId) document) hlisted hdistinct.2 fun other hmem => by
        rw [Dict.get?_set_of_ne]
        · exact hnew other hmem
        · intro heq
          exact hdistinct.1 (List.mem_map.2 ⟨other, hmem, congrArg Prod.snd heq⟩)
    refine ⟨fetched, Returns.bind (returns_getDocument hget) (Returns.bind
      (Returns.require hprovider) (Returns.bind (Returns.require hfirst) (Returns.bind
        (Returns.checked (fingerprintOf_eq_ok.2 ⟨hvalid _ _ hget, rfl⟩)) hfetched))),
      fun key hne => ?_⟩
    rw [hothers key hne, Dict.get?_set_of_ne]
    rintro rfl
    exact hne rfl

omit [JinjaParser] in
theorem returns_fetchInventory
    (hvalid : ∀ key document, s.providers.documents.get? key = some document →
      validatePayload document.payload = true) :
    ∀ {names : List Text} {inventory : Inventory}, names.Nodup →
      (∀ name ∈ names, name ∈ providerManifest) →
      (∀ key, key.1 ∈ names → inventory.get? key = none) →
      ∃ fetched, Returns (fetchInventory names inventory) s fetched s
  | [], inventory, _, _, _ => ⟨inventory, Returns.pure⟩
  | name :: names, inventory, hdistinct, hmanifest, hnew => by
    rw [List.nodup_cons] at hdistinct
    obtain ⟨hname, hmanifest⟩ := List.forall_mem_cons.1 hmanifest
    obtain ⟨mid, hmid, hothers⟩ := returns_fetchDocuments hvalid
      (fun document hmem => mem_listed.1 hmem) (nodup_listed s.providers name)
      (fun document _ => hnew (name, document.objectId) List.mem_cons_self)
    obtain ⟨fetched, hfetched⟩ := @returns_fetchInventory hvalid names mid hdistinct.2 hmanifest
      fun key hmem => by
        rw [hothers key fun heq => hdistinct.1 (heq ▸ hmem)]
        exact hnew key (List.mem_cons_of_mem _ hmem)
    exact ⟨fetched, Returns.bind (Returns.require hname) (Returns.bind
      (Returns.call (Returns.bind Returns.service Returns.pure)) (Returns.bind hmid hfetched))⟩

/-- All documents are fetched. -/
theorem returns_fullInventory (hissued : Issued plan before)
    (hvalid : ∀ key document, s.providers.documents.get? key = some document →
      validatePayload document.payload = true) :
    ∃ inventory, Returns (fetchInventory plan.providers Dict.empty) s inventory s
      ∧ ∀ key, inventory.get? key = s.providers.documents.get? key := by
  rw [hissued.sound.providers]
  obtain ⟨inventory, hreturns⟩ := @returns_fetchInventory _ s hvalid providerManifest Dict.empty
    (by decide) (fun _ => id) fun _ _ => Dict.get?_empty _
  exact ⟨inventory, hreturns, hreturns.of_reads (reads_fullInventory fun _ => id)⟩

/-! ## Checks -/

/-- What a plan has for a document. -/
def MigrationPlan.plannedOf (plan : MigrationPlan) (document : ReferenceDocument) :
    PlannedDocument :=
  plannedDocument plan.oldEntityId (targetOf plan.providerTargets document.provider)
    document.provider document

/-- A planned document is that of one of the documents. -/
theorem Issued.exists_document (h : Issued plan before) {planned : PlannedDocument}
    (hmem : planned ∈ plan.documents) :
    ∃ document, before.get? planned.key = some document ∧ planned = plan.plannedOf document := by
  obtain ⟨document, hget⟩ := Option.ne_none_iff_exists'.1 (h.covered planned hmem)
  refine ⟨document, hget, List.inj_on_of_nodup_map h.sound.distinct hmem (h.planned _ _ hget) ?_⟩
  exact (h.keyed _ _ hget).1.symm

/-- A plan has exactly the documents of its inventory. -/
theorem Issued.sameSet (h : Issued plan before) {inventory : Inventory}
    (hinventory : ∀ key, inventory.get? key = none ↔ before.get? key = none) :
    SameSet inventory.keys (plannedDict plan).keys := by
  have hkeys : ∀ key, key ∈ (plannedDict plan).keys ↔
      ∃ planned ∈ plan.documents, planned.key = key := by
    intro key
    rw [Dict.keys, plannedDict, entries_comprehension PlannedDocument.key id _ h.sound.distinct,
      List.map_map, List.mem_map]
    rfl
  constructor
  · intro key hmem
    rw [Dict.mem_keys_iff, Ne, hinventory] at hmem
    obtain ⟨document, hget⟩ := Option.ne_none_iff_exists'.1 hmem
    exact (hkeys key).2 ⟨_, h.planned key document hget, (h.keyed key document hget).1⟩
  · intro key hmem
    obtain ⟨planned, hplanned, rfl⟩ := (hkeys key).1 hmem
    rw [Dict.mem_keys_iff, Ne, hinventory]
    exact h.covered planned hplanned

omit [Sha256] in
/-- The scan of a valid document. -/
theorem scanFor_of_valid (hold : plan.oldEntityId ≠ []) {document : ReferenceDocument}
    (hvalid : validatePayload document.payload = true) :
    scanFor plan document =
      .ok (walk plan.oldEntityId (some document.provider) document.payload []) := by
  rw [scanFor, scanReferences, check, if_pos hold, check, if_pos hvalid,
    scanSemanticReferences_eq hold document.provider_ne]
  rfl

/-- A plan that has just been issued for the documents. -/
structure Fresh (plan : MigrationPlan) (s : Service) : Prop where
  issued : Issued plan s.providers.documents
  free : ∀ key document, s.providers.documents.get? key = some document →
    (walk plan.oldEntityId (some document.provider) document.payload []).blocked = []
  expected : plan.referencesExpected = true → plan.exactReplacements ≠ 0
  subject : s.subjects.get? plan.roomId = some {
    roomId := plan.roomId, roomRevision := plan.roomRevision, oldEntityId := plan.oldEntityId
    logicalUniqueId := plan.logicalUniqueId, providerTargets := plan.providerTargets }
  known : s.memory.plans.get? plan.planId = some plan
  unblocked : s.memory.blocked = false
  planned : s.rememberedOf plan.planId = some .planned
  originals : s.journal.originalsFor plan.planId = []
  completion : s.journal.completions.get? plan.planId = none

omit [Sha256] [JinjaParser] in
/-- The authority names the subject of the plan. -/
theorem returns_assertAuthority (hsubject : s.subjects.get? plan.roomId = some {
      roomId := plan.roomId, roomRevision := plan.roomRevision, oldEntityId := plan.oldEntityId
      logicalUniqueId := plan.logicalUniqueId, providerTargets := plan.providerTargets }) :
    Returns (assertAuthority plan) s () s := by
  refine Returns.bind (Returns.catching (Returns.call (Returns.bind Returns.service ?_)))
    (Returns.require rfl)
  rw [hsubject]
  exact Returns.pure

theorem Fresh.assertPreflight (h : Fresh plan s) {inventory : Inventory}
    (hinventory : ∀ key, inventory.get? key = s.providers.documents.get? key) :
    assertPreflight plan inventory = .ok () := by
  have hcounts : collect (preflightDocument plan inventory) plan.documents =
      .ok (plan.documents.map fun planned => planned.exactPaths.length) := by
    refine collect_eq_map fun planned hmem => ?_
    obtain ⟨document, hget, hplanned⟩ := h.issued.exists_document hmem
    obtain ⟨-, -, hvalid, hwritable⟩ := h.issued.keyed _ _ hget
    have hfree := h.free _ _ hget
    subst hplanned
    refine bind_eq_ok.2 ⟨document, inventoryItem_eq_ok.2 ((hinventory _).trans hget),
      bind_eq_ok.2 ⟨_, fingerprintOf_eq_ok.2 ⟨hvalid, rfl⟩, bind_unit_eq_ok.2 ⟨check_eq_ok.2 rfl,
        bind_unit_eq_ok.2 ⟨check_eq_ok.2 rfl, bind_unit_eq_ok.2 ⟨check_eq_ok.2 ⟨hwritable, rfl⟩,
          bind_eq_ok.2 ⟨_, scanFor_of_valid h.issued.old_ne hvalid, bind_unit_eq_ok.2
            ⟨check_eq_ok.2 hfree, bind_unit_eq_ok.2 ⟨check_eq_ok.2 rfl, rfl⟩⟩⟩⟩⟩⟩⟩⟩
  have hcount : (((plan.documents.map fun planned => planned.exactPaths.length).sum : ℕ) : ℤ) =
      plan.exactReplacements := h.issued.sound.count.symm
  refine bind_unit_eq_ok.2 ⟨check_eq_ok.2 (h.issued.sameSet fun key => by rw [hinventory]),
    bind_eq_ok.2 ⟨_, h.issued.values ▸ hcounts, bind_unit_eq_ok.2 ⟨check_eq_ok.2 hcount,
      check_eq_ok.2 fun hnone => h.expected hnone.1 ?_⟩⟩⟩
  rw [← hcount, hnone.2]
  rfl

/-! ## Changes -/

omit [Sha256] in
theorem replaceExactScalars_of_valid {old target name : Text} (hold : old ≠ []) (hname : name ≠ [])
    {document : ReferenceDocument} (hvalid : validatePayload document.payload = true) :
    ∃ payload, replaceExactScalars document.payload old target (some name) =
      .ok (payload, (walk old (some name) document.payload []).replaceablePaths.length) := by
  obtain ⟨-, -, hreplaced⟩ := @replaceSemanticReferences_eq _ old target (some name) _
    document.keysDistinct _ (scanSemanticReferences_eq hold hname document.payload)
  refine ⟨mapStrings (replacement (walk old (some name) document.payload []).replaceablePaths old
    target) document.payload [], ?_⟩
  rw [replaceExactScalars, check, if_pos hvalid, hreplaced]
  rfl

/-- What the changes of a plan are while no document has changed. -/
structure Changes (plan : MigrationPlan) (before : Inventory) (changes : List Change) : Prop where
  keys : changes.map (·.original.key) =
    (plan.documents.filter fun planned => planned.exactPaths ≠ []).map PlannedDocument.key
  original : ∀ change ∈ changes, before.get? change.original.key = some change.original
  payload : ∀ change ∈ changes, change.payload = plan.postOf change.original

theorem exists_changes (h : Issued plan before) {inventory : Inventory}
    (hinventory : ∀ key, inventory.get? key = before.get? key) :
    ∃ changes, changesOf plan inventory = .ok changes ∧ Changes plan before changes := by
  -- no document of the plan makes the step raise: each raising branch contradicts the plan
  have hchange : ∀ planned ∈ plan.documents.filter fun planned => planned.exactPaths ≠ [],
      ∃ change, changeOf plan inventory planned = .ok change := by
    intro planned hmem
    obtain ⟨document, hget, rfl⟩ := h.exists_document (List.mem_filter.1 hmem).1
    obtain ⟨-, hmanifest, hvalid, -⟩ := h.keyed _ _ hget
    cases hcases : changeOf plan inventory (plan.plannedOf document) with
    | ok change => exact ⟨change, rfl⟩
    | error error =>
      exfalso
      rcases bind_eq_error.1 hcases with hitem | ⟨original, hitem, hcases⟩
      · rw [inventoryItem_eq_ok.2 ((hinventory _).trans hget)] at hitem
        cases hitem
      · rw [inventoryItem_eq_ok, hinventory, hget] at hitem
        obtain rfl := Option.some.inj hitem
        split at hcases
        · rename_i hnone
          rw [targetDict, Dict.get?_comprehension_eq_none_iff] at hnone
          rw [← h.sound.covered] at hmanifest
          obtain ⟨target, htarget, heq⟩ := List.mem_map.1 hmanifest
          exact hnone target htarget heq
        · rename_i target _
          -- the paths that are replaced are those of the plan, so the count check passes
          obtain ⟨payload, hreplaced⟩ := @replaceExactScalars_of_valid _ plan.oldEntityId target
            document.provider h.old_ne document.provider_ne document hvalid
          split at hcases
          · rename_i hreplaced'
            have hsame := hreplaced.symm.trans hreplaced'
            cases hsame
          · rename_i hreplaced'
            obtain ⟨-, rfl⟩ := Prod.mk.inj (Except.ok.inj (hreplaced.symm.trans hreplaced'))
            rcases bind_eq_error.1 hcases with hcheck | ⟨_, -, hcases⟩
            · exact (check_eq_error.1 hcheck).1 rfl
            · cases hcases
  obtain ⟨changes, hchanges⟩ := exists_collect hchange
  have hinventory' : IsInventory before inventory :=
    ⟨fun key => by rw [hinventory], fun key document hget => by
      rw [hinventory] at hget
      obtain rfl := (h.keyed key document hget).1
      exact ⟨document, hget, rfl, rfl⟩, fun key document hget =>
        (h.keyed key document (hinventory key ▸ hget)).1⟩
  have hallowed := @changesOf_allowed _ _ plan before (fun _ => True) h inventory hinventory'
    changes
    hchanges fun _ _ => trivial
  -- a change keeps the document that it was made from
  have horiginal : ∀ planned change, changeOf plan inventory planned = .ok change →
      before.get? planned.key = some change.original := by
    intro planned change hok
    obtain ⟨original, hitem, hok⟩ := bind_eq_ok.1 hok
    rw [inventoryItem_eq_ok, hinventory] at hitem
    split at hok
    · cases hok
    · split at hok
      · cases hok
      · rw [bind_unit_eq_ok, pure_eq_ok] at hok
        obtain ⟨-, rfl⟩ := hok
        exact hitem
  have hkey : ∀ planned change, changeOf plan inventory planned = .ok change →
      planned.key = change.original.key := fun planned change hok =>
    (h.keyed _ _ (horiginal planned change hok)).1.symm
  refine ⟨changes, hchanges, ?_, fun change hmem => ?_, fun change hmem => ?_⟩
  · have hforall := List.forall₂_map_left_iff.2 (List.forall₂_map_right_iff.2
      ((collect_eq_ok.1 hchanges).imp fun {planned change} => hkey planned change))
    rw [List.forall₂_eq_eq_eq] at hforall
    exact hforall.symm
  · obtain ⟨planned, -, hok⟩ := (mem_collect hchanges).1 change hmem
    rw [← hkey planned change hok]
    exact horiginal planned change hok
  · obtain ⟨planned, -, hok⟩ := (mem_collect hchanges).1 change hmem
    refine (hallowed change hmem).payload change.original ?_
    rw [← hkey planned change hok]
    exact horiginal planned change hok

theorem Changes.nodup {changes : List Change} (h : Changes plan before changes)
    (hissued : Issued plan before) : (changes.map (·.original.key)).Nodup := by
  rw [h.keys]
  exact hissued.sound.distinct.sublist (List.filter_sublist.map _)

/-! ## Writing -/

omit [Sha256] [JinjaParser] in
/-- The service with one original more in the journal. -/
def Service.recording (s : Service) (planId : Text) (entry : JournaledOriginal) : Service :=
  { s with journal := { s.journal with
      originals := s.journal.originals.set planId (s.journal.originalsFor planId ++ [entry]) } }

/-- The originals are journaled. -/
theorem returns_recordOriginals (hissued : Issued plan before) : ∀ {changes : List Change}
    {s : Service}, (∀ change ∈ changes, before.get? change.original.key = some change.original) →
      (changes.map (·.original.key)).Nodup →
      (∀ change ∈ changes, ¬ s.journaled plan.planId change.original.key) →
      ∃ originals, Returns (recordOriginals plan changes) s ()
        { s with journal := { s.journal with originals := originals } }
  | [], s, _, _, _ => ⟨s.journal.originals, Returns.pure⟩
  | change :: changes, s, horiginal, hdistinct, hnew => by
    obtain ⟨hbefore, horiginal⟩ := List.forall_mem_cons.1 horiginal
    obtain ⟨hfirst, hnew⟩ := List.forall_mem_cons.1 hnew
    rw [List.map_cons, List.nodup_cons] at hdistinct
    have hplanned := hissued.plannedFor_eq hbefore rfl
    have hfingerprint : (plan.plannedOf change.original).postFingerprint ≠ [] := by
      intro hnil
      have hdigest := (hissued.sound.fingerprints _ (hissued.planned _ _ hbefore)).2
      have hempty :
          (plannedDocument plan.oldEntityId _ _ change.original).postFingerprint = [] := hnil
      rw [hempty, nil_not_digest] at hdigest
      cases hdigest
    have hnone : (s.journal.originalsFor plan.planId).find? (fun existing =>
        decide (existing.document.key = change.original.key)) = none := by
      rw [List.find?_eq_none]
      intro entry hmem heq
      exact hfirst ⟨entry, hmem, of_decide_eq_true heq⟩
    have hrecorded : Returns (recordOriginal plan.planId change.original
        (plan.plannedOf change.original).postFingerprint) s ()
        (s.recording plan.planId
          ⟨change.original, (plan.plannedOf change.original).postFingerprint⟩) := by
      refine Returns.call (Returns.bind (Returns.require hissued.planId_ne) (Returns.bind
        (Returns.require hfingerprint) (Returns.bind Returns.service ?_)))
      simp only
      rw [hnone]
      exact Returns.modify
    obtain ⟨originals, hreturns⟩ := @returns_recordOriginals hissued changes
      (s.recording plan.planId
        ⟨change.original, (plan.plannedOf change.original).postFingerprint⟩) horiginal hdistinct.2
      fun other hmem => by
        rintro ⟨entry, hentry, heq⟩
        rw [Service.recording, originalsFor_set, List.mem_append, List.mem_singleton] at hentry
        rcases hentry with hentry | rfl
        · exact hnew other hmem ⟨entry, hentry, heq⟩
        · exact hdistinct.1 (List.mem_map.2 ⟨other, hmem, heq.symm⟩)
    refine ⟨originals, Returns.bind (a := ()) ?_ hreturns⟩
    simp only [hplanned]
    exact hrecorded

/-- The service with other documents. -/
theorem returns_writeChange (hissued : Issued plan before) {change : Change}
    (hbefore : before.get? change.original.key = some change.original)
    (hpayload : change.payload = plan.postOf change.original)
    (hget : s.providers.documents.get? change.original.key = some change.original) :
    ∃ providers attempted document, Returns (writeChange plan change) s (.ok (), attempted)
        { s with providers := providers }
      ∧ providers.documents = s.providers.documents.set change.original.key document
      ∧ document.payload = change.payload ∧ document.writable = change.original.writable := by
  have hplanned : plannedFor plan change.original = some (plan.plannedOf change.original) :=
    hissued.plannedFor_eq hbefore rfl
  obtain ⟨-, -, -, hwritable⟩ := hissued.keyed _ _ hbefore
  have hpostValid := hissued.valid hbefore (Or.inr hpayload)
  obtain ⟨written, hwritten⟩ : ∃ written, s.providers.write change.original.key
      change.original.revision change.payload change.keysDistinct = .ok written :=
    ⟨_, write_eq_ok.2 ⟨change.original, hget, rfl, hwritable, hpostValid, rfl⟩⟩
  obtain ⟨found, hfound, -, -, -, hstored⟩ := write_eq_ok.1 hwritten
  obtain rfl := Option.some.inj (hget.symm.trans hfound)
  have hdocuments : ∃ document, written.documents =
      s.providers.documents.set change.original.key document
        ∧ document.payload = change.payload ∧ document.writable = change.original.writable :=
    ⟨_, congrArg _ hstored, rfl, rfl⟩
  obtain ⟨document, hdocuments, hdocument, hdocumentWritable⟩ := hdocuments
  refine ⟨written, [(change.original, (plan.plannedOf change.original).postFingerprint)], document,
    ?_, hdocuments, hdocument, hdocumentWritable⟩
  have hwrite : Returns (writeDocument change.original.key change.original.revision change.payload
      change.keysDistinct) s () { s with providers := written } :=
    Returns.call (Returns.bind Returns.service (Returns.bind (Returns.checked hwritten)
      Returns.modify))
  have hfingerprint : Returns (currentFingerprint change.original.key)
      { s with providers := written } (plan.plannedOf change.original).postFingerprint
      { s with providers := written } := by
    have hnew : written.documents.get? change.original.key = some document := by
      rw [hdocuments, Dict.get?_set_self]
    refine returns_currentFingerprint hnew (fingerprintOf_eq_ok.2 ⟨?_, ?_⟩)
    · rwa [hdocument]
    · rw [hdocument, hpayload]
      rfl
  unfold writeChange
  rw [hplanned]
  refine Returns.bind hwrite.attempt (Returns.bind hfingerprint.attempt ?_)
  simp only [if_true]
  exact Returns.pure

/-- All changes are written. -/
theorem returns_writeChanges (hissued : Issued plan before) : ∀ {changes : List Change}
    {s : Service}, (∀ change ∈ changes, before.get? change.original.key = some change.original) →
      (∀ change ∈ changes, change.payload = plan.postOf change.original) →
      (changes.map (·.original.key)).Nodup →
      (∀ change ∈ changes,
        s.providers.documents.get? change.original.key = some change.original) →
      ∃ providers attempted, Returns (writeChanges plan changes) s (.ok (), attempted)
          { s with providers := providers }
        ∧ (∀ key, key ∉ changes.map (·.original.key) →
          providers.documents.get? key = s.providers.documents.get? key)
        ∧ ∀ change ∈ changes, ∃ document,
          providers.documents.get? change.original.key = some document
            ∧ document.payload = change.payload ∧ document.writable = change.original.writable
  | [], s, _, _, _, _ => ⟨s.providers, [], Returns.pure, fun _ _ => rfl,
      fun _ hmem => absurd hmem List.not_mem_nil⟩
  | change :: changes, s, horiginal, hpayload, hdistinct, hget => by
    obtain ⟨hbefore, horiginal⟩ := List.forall_mem_cons.1 horiginal
    obtain ⟨hpost, hpayload⟩ := List.forall_mem_cons.1 hpayload
    obtain ⟨hfirst, hget⟩ := List.forall_mem_cons.1 hget
    rw [List.map_cons, List.nodup_cons] at hdistinct
    have hne : ∀ other ∈ changes, other.original.key ≠ change.original.key := fun other hmem heq =>
      hdistinct.1 (List.mem_map.2 ⟨other, hmem, heq⟩)
    obtain ⟨providers, attempted, document, hwrite, hdocuments, hdocument, hwritable⟩ :=
      returns_writeChange hissued hbefore hpost hfirst
    obtain ⟨providers', others, hwrites, hkept, hmigrated⟩ := @returns_writeChanges hissued changes
      { s with providers := providers } horiginal hpayload hdistinct.2 fun other hmem => by
        change providers.documents.get? other.original.key = some other.original
        rw [hdocuments, Dict.get?_set_of_ne _ _ (hne other hmem)]
        exact hget other hmem
    refine ⟨providers', attempted ++ others, Returns.bind hwrite
      (Returns.bind hwrites Returns.pure), fun key hkey => ?_,
      List.forall_mem_cons.2 ⟨⟨document, ?_, hdocument, hwritable⟩, hmigrated⟩⟩
    · rw [List.map_cons, List.mem_cons, not_or] at hkey
      rw [hkept key hkey.2]
      change providers.documents.get? key = _
      rw [hdocuments, Dict.get?_set_of_ne _ _ hkey.1]
    · rw [hkept _ hdistinct.1]
      change providers.documents.get? _ = _
      rw [hdocuments, Dict.get?_set_self]

/-- After the changes every document has been migrated. -/
theorem Changes.migrated {changes : List Change} (h : Changes plan before changes)
    (hissued : Issued plan before) {documents : Inventory}
    (hkept : ∀ key, key ∉ changes.map (·.original.key) → documents.get? key = before.get? key)
    (hmigrated : ∀ change ∈ changes, ∃ document,
      documents.get? change.original.key = some document ∧ document.payload = change.payload
        ∧ document.writable = change.original.writable) : Migrated plan before documents where
  same key := by
    by_cases hmem : key ∈ changes.map (·.original.key)
    · obtain ⟨change, hchange, rfl⟩ := List.mem_map.1 hmem
      obtain ⟨document, hget, -⟩ := hmigrated change hchange
      rw [hget, h.original change hchange]
      simp
    · rw [hkept key hmem]
  contents key original document hbefore hget := by
    by_cases hmem : key ∈ changes.map (·.original.key)
    · obtain ⟨change, hchange, rfl⟩ := List.mem_map.1 hmem
      obtain ⟨found, hfound, hpayload, hwritable⟩ := hmigrated change hchange
      obtain rfl := Option.some.inj (hfound.symm.trans hget)
      obtain rfl := Option.some.inj ((h.original change hchange).symm.trans hbefore)
      exact ⟨hwritable, hpayload.trans (h.payload change hchange)⟩
    · rw [hkept key hmem] at hget
      obtain rfl := Option.some.inj (hget.symm.trans hbefore)
      refine ⟨rfl, (postPayload_eq_self ?_).symm⟩
      by_contra hpaths
      refine hmem ?_
      rw [h.keys]
      exact List.mem_map.2 ⟨plan.plannedOf document, List.mem_filter.2
        ⟨hissued.planned key document hbefore, decide_eq_true hpaths⟩,
        (hissued.keyed key document hbefore).1⟩

/-! ## Completing -/

/-- What `_assert_post_apply` looks for: no planned payload refers to the old entity. -/
def PlannedFree (plan : MigrationPlan) (before : Inventory) : Prop :=
  ∀ key document, before.get? key = some document →
    (walk plan.oldEntityId (some document.provider) (plan.postOf document) []).replaceablePaths = []
      ∧ (walk plan.oldEntityId (some document.provider) (plan.postOf document) []).blocked = []

section

variable (hissued : Issued plan before) {inventory documents : Inventory}
  (hmigrated : Migrated plan before documents)
  (hkeyed : ∀ key document, documents.get? key = some document → document.key = key)
  (hinventory : ∀ key, inventory.get? key = documents.get? key)
include hissued hmigrated hkeyed hinventory

/-- A migrated document, with what it was and what is planned for it. -/
theorem exists_migrated {planned : PlannedDocument} (hmem : planned ∈ plan.documents) :
    ∃ original document, before.get? planned.key = some original
      ∧ planned = plan.plannedOf original ∧ inventory.get? planned.key = some document
      ∧ document.key = planned.key ∧ document.payload = plan.postOf original
      ∧ document.writable = true := by
  obtain ⟨original, hbefore, hplanned⟩ := hissued.exists_document hmem
  obtain ⟨document, hget⟩ := exists_of_same (hmigrated.same planned.key).symm hbefore
  obtain ⟨hwritable, hpayload⟩ := hmigrated.contents _ _ _ hbefore hget
  exact ⟨original, document, hbefore, hplanned, (hinventory _).trans hget, hkeyed _ _ hget,
    hpayload, hwritable.trans (hissued.keyed _ _ hbefore).2.2.2⟩

theorem assertPostApply_eq_ok (hfree : PlannedFree plan before) :
    assertPostApply plan inventory = .ok () := by
  refine bind_unit_eq_ok.2 ⟨check_eq_ok.2 (hissued.sameSet fun key => by
    rw [hinventory, hmigrated.same]), forAll_eq_ok.2 fun planned hmem => ?_⟩
  rw [hissued.values] at hmem
  obtain ⟨original, document, hbefore, hplanned, hget, hkey, hpayload, hwritable⟩ :=
    exists_migrated hissued hmigrated hkeyed hinventory hmem
  have hvalid := hissued.valid hbefore (Or.inr hpayload)
  have hprovider : document.provider = original.provider :=
    congrArg Prod.fst (hkey.trans (hissued.keyed _ _ hbefore).1.symm)
  refine bind_eq_ok.2 ⟨document, inventoryItem_eq_ok.2 hget, bind_unit_eq_ok.2
    ⟨check_eq_ok.2 hwritable, bind_eq_ok.2
      ⟨_, fingerprintOf_eq_ok.2 ⟨hvalid, rfl⟩, bind_unit_eq_ok.2
      ⟨check_eq_ok.2 ?_, bind_eq_ok.2 ⟨_, scanFor_of_valid hissued.old_ne hvalid,
        check_eq_ok.2 ?_⟩⟩⟩⟩⟩
  · rw [hpayload, hplanned]
    rfl
  · rw [hpayload, hprovider]
    exact hfree _ _ hbefore

/-- The snapshots of the migrated documents are those of the plan. -/
theorem exists_snapshots :
    ∃ found, snapshots inventory = .ok found ∧ Snapshots plan found := by
  have hentry : ∀ entry ∈ sortedBy (fun entry => toLex entry.1) inventory.entries,
      entry.2.key = entry.1 ∧ ∃ planned ∈ plan.documents, planned.key = entry.1
        ∧ fingerprintOf entry.2 = .ok planned.postFingerprint
        ∧ entry.2.writable = planned.writable := by
    intro entry hmem
    have hget : inventory.get? entry.1 = some entry.2 :=
      Dict.mem_entries_iff.1 (mem_sortedBy.1 hmem)
    have hdocument := (hinventory entry.1).symm.trans hget
    obtain ⟨original, hbefore⟩ := exists_of_same (hmigrated.same entry.1) hdocument
    obtain ⟨hwritable, hpayload⟩ := hmigrated.contents _ _ _ hbefore hdocument
    refine ⟨hkeyed _ _ hdocument, plan.plannedOf original, hissued.planned _ _ hbefore,
      (hissued.keyed _ _ hbefore).1, ?_, hwritable⟩
    rw [hissued.fingerprintOf hbefore (Or.inr hpayload), hpayload]
    rfl
  have hfound := @collect_eq_map ApplyError _ _ (fun entry : DocumentKey × ReferenceDocument => do
      let fingerprint ← fingerprintOf entry.2
      return ({ provider := entry.2.provider, objectId := entry.2.objectId
                revision := entry.2.revision, writable := entry.2.writable
                fingerprint := fingerprint } : DocumentSnapshot))
    (fun entry => { provider := entry.2.provider, objectId := entry.2.objectId
                    revision := entry.2.revision, writable := entry.2.writable
                    fingerprint := hexdigest (canonicalJson entry.2.payload) })
    (sortedBy (fun entry => toLex entry.1) inventory.entries) fun entry hmem => by
      obtain ⟨-, planned, -, -, hfingerprint, -⟩ := hentry entry hmem
      rw [fingerprintOf_eq_ok.2 ⟨(fingerprintOf_eq_ok.1 hfingerprint).1, rfl⟩]
      rfl
  refine ⟨_, hfound, ?_, ⟨fun key hmem => ?_, fun key hmem => ?_⟩, ?_⟩
  · have hkeys : (sortedBy (fun entry => toLex entry.1) inventory.entries).map (·.2.key) =
        (sortedBy (fun entry => toLex entry.1) inventory.entries).map Prod.fst :=
      List.map_congr_left fun entry hmem => (hentry entry hmem).1
    rw [List.map_map]
    change ((sortedBy (fun entry => toLex entry.1) inventory.entries).map (·.2.key)).Nodup
    rw [hkeys]
    exact ((perm_sortedBy _ inventory.entries).map Prod.fst).nodup_iff.2 inventory.nodup_keys
  · rw [List.map_map] at hmem
    obtain ⟨entry, hlisted, rfl⟩ := List.mem_map.1 hmem
    obtain ⟨hkey, planned, hplanned, hplannedKey, -⟩ := hentry entry hlisted
    exact List.mem_map.2 ⟨planned, hplanned, hplannedKey.trans hkey.symm⟩
  · obtain ⟨planned, hplanned, rfl⟩ := List.mem_map.1 hmem
    obtain ⟨-, document, -, -, hget, hkey, -⟩ :=
      exists_migrated hissued hmigrated hkeyed hinventory hplanned
    rw [List.map_map]
    exact List.mem_map.2 ⟨(planned.key, document),
      mem_sortedBy.2 (Dict.mem_entries_iff.2 hget), hkey⟩
  · rintro _ hmem document hdocument heq
    obtain ⟨entry, hlisted, rfl⟩ := List.mem_map.1 hmem
    obtain ⟨hkey, planned, hplanned, hplannedKey, hfingerprint, hwritable⟩ := hentry entry hlisted
    obtain rfl := List.inj_on_of_nodup_map hissued.sound.distinct hplanned hdocument
      (hplannedKey.trans (hkey.symm.trans heq))
    exact ⟨(fingerprintOf_eq_ok.1 hfingerprint).2.symm, hwritable⟩

end

/-! ## The first attempt -/

/-- The result of a plan that is applied. -/
def MigrationPlan.result (plan : MigrationPlan) : MigrationResult := (completionOf plan []).result

omit [Sha256] in
theorem Changes.length {changes : List Change} (h : Changes plan before changes) :
    changes.length = changedCount plan.documents := by
  have hlength := congrArg List.length h.keys
  rw [List.length_map, List.length_map, ← List.countP_eq_length_filter] at hlength
  rw [hlength, changedCount]
  refine List.countP_congr fun planned _ => ?_
  simp

/-- The completion is recorded. -/
theorem returns_complete (hissued : Issued plan before) {changes : List Change}
    (hchanges : Changes plan before changes) {final : Inventory} {found : List DocumentSnapshot}
    (hfound : snapshots final = .ok found) (hsnapshots : Snapshots plan found)
    (hnone : s.journal.completions.get? plan.planId = none) :
    ∃ t, Returns (complete plan changes final) s plan.result t
      ∧ t.providers = s.providers ∧ t.subjects = s.subjects ∧ t.memory.plans = s.memory.plans
      ∧ t.memory.blocked = s.memory.blocked ∧ t.rememberedOf plan.planId = some .complete
      ∧ t.memory.completed.get? plan.planId = some ⟨plan.result, found⟩ := by
  have hresult : ({ planId := plan.planId, digest := plan.digest, state := .complete
                    changedDocuments := changes.length, exactReplacements := plan.exactReplacements
                    idempotent := false } : MigrationResult) = plan.result := by
    rw [hchanges.length]
    rfl
  have hvalid : (validateJournaledCompletion (completionOf plan found) plan.planId).mapError
      (fun _ => ApplyError.failed) = .ok () := by
    rw [validateJournaledCompletion_of_sound hissued.sound hsnapshots]
    rfl
  let completions := s.journal.completions.set plan.planId ⟨plan, plan.result, found⟩
  have hrecorded : Returns (recordCompletion ⟨plan, plan.result, found⟩) s ()
      { s with journal := { s.journal with completions := completions } } :=
    Returns.call (Returns.bind (Returns.checked hvalid) (Returns.bind Returns.service
      (Returns.bind (Returns.require fun existing hexisting => by
        rw [show s.journal.completions.get? plan.planId = some existing from hexisting] at hnone
        cases hnone) Returns.modify)))
  unfold complete
  simp only [hresult]
  exact ⟨_, Returns.bind (Returns.checked hfound) (Returns.bind (Returns.catching
    (Returns.bind hrecorded (returns_setState hissued.planId_ne))) (Returns.bind Returns.modify
      (Returns.bind Returns.modify Returns.pure))), rfl, rfl, rfl, rfl,
    rememberedOf_remembering _ _ _, Dict.get?_set_self _ _ _⟩

omit [JinjaParser] in
/-- The snapshots depend only on what an inventory looks up. -/
theorem snapshots_congr {first second : Inventory}
    (h : ∀ key, first.get? key = second.get? key) : snapshots first = snapshots second := by
  have hperm : first.entries.Perm second.entries := by
    refine (List.perm_ext_iff_of_nodup (List.Nodup.of_map _ first.nodup_keys)
      (List.Nodup.of_map _ second.nodup_keys)).2 fun entry => ?_
    rw [Dict.mem_entries_iff, Dict.mem_entries_iff, h]
  have hsorted : sortedBy (fun entry => toLex entry.1) first.entries =
      sortedBy (fun entry => toLex entry.1) second.entries := by
    refine List.Perm.eq_of_pairwise (fun a b ha hb hab hba => ?_) (pairwise_sortedBy _ _)
      (pairwise_sortedBy _ _)
      (((perm_sortedBy _ _).trans hperm).trans (perm_sortedBy _ _).symm)
    exact List.inj_on_of_nodup_map first.nodup_keys (mem_sortedBy.1 ha)
      (hperm.symm.subset (mem_sortedBy.1 hb)) (toLex.injective (le_antisymm hab hba))
  rw [snapshots, snapshots, hsorted]

/-- What a completed plan needs to be replayed. -/
structure Replayable (plan : MigrationPlan) (before : Inventory) (s : Service) : Prop where
  migrated : Migrated plan before s.providers.documents
  subject : s.subjects.get? plan.roomId = some {
    roomId := plan.roomId, roomRevision := plan.roomRevision, oldEntityId := plan.oldEntityId
    logicalUniqueId := plan.logicalUniqueId, providerTargets := plan.providerTargets }
  known : s.memory.plans.get? plan.planId = some plan
  unblocked : s.memory.blocked = false
  remembered : s.rememberedOf plan.planId = some .complete
  completed : ∃ inventory found, (∀ key, inventory.get? key = s.providers.documents.get? key)
    ∧ snapshots inventory = .ok found
    ∧ s.memory.completed.get? plan.planId = some ⟨plan.result, found⟩

/-- Where no planned payload refers to the old entity, the first attempt succeeds. -/
theorem Fresh.returns_apply (h : Fresh plan s) (hfree : PlannedFree plan s.providers.documents) :
    ∃ t, Returns (apply plan.planId plan.digest) s plan.result t
      ∧ Replayable plan s.providers.documents t := by
  obtain ⟨originals, hfetched, horiginals⟩ := returns_fullInventory h.issued
    fun key document hget => (h.issued.keyed key document hget).2.2.1
  obtain ⟨changes, hchangesOf, hchanges⟩ := exists_changes h.issued horiginals
  have hpreflight : Returns (preflight plan) s originals s :=
    Returns.bind (returns_assertAuthority h.subject) (Returns.bind hfetched (Returns.bind
      (Returns.checked (h.assertPreflight horiginals)) Returns.pure))
  -- the service while the plan is applied
  let applying := (s.remembering plan.planId .applying).withState plan.planId .applying
  obtain ⟨recorded, hrecorded⟩ := @returns_recordOriginals _ _ plan s.providers.documents h.issued
    changes applying hchanges.original (hchanges.nodup h.issued) fun change _ => by
      rintro ⟨entry, hmem, -⟩
      have hnone : applying.journal.originalsFor plan.planId = [] := h.originals
      rw [hnone] at hmem
      cases hmem
  obtain ⟨providers, attempted, hwritten, hkept, hmigrated⟩ := @returns_writeChanges _ _ plan
    s.providers.documents h.issued changes
    { applying with journal := { applying.journal with originals := recorded } }
    hchanges.original hchanges.payload (hchanges.nodup h.issued) hchanges.original
  have hmigrated := hchanges.migrated h.issued hkept hmigrated
  let written : Service := { applying with
    providers := providers, journal := { applying.journal with originals := recorded } }
  obtain ⟨final, hfinal, hinventory⟩ := @returns_fullInventory _ _ plan s.providers.documents
    written
    h.issued fun _ _ => hmigrated.valid h.issued
  have hverified : Returns (finalInventory plan) written final written :=
    Returns.bind hfinal (Returns.bind (Returns.checked (assertPostApply_eq_ok h.issued hmigrated
      providers.keyed hinventory hfree)) (Returns.bind (returns_assertAuthority h.subject)
        Returns.pure))
  obtain ⟨found, hfound, hsnapshots⟩ :=
    exists_snapshots h.issued hmigrated providers.keyed hinventory
  obtain ⟨t, hcompleted, hproviders, hsubjects, hplans, hblocked, hremembered, hrecord⟩ :=
    @returns_complete _ _ plan s.providers.documents written h.issued changes hchanges final found
      hfound hsnapshots h.completion
  have happlied : Returns (applyChanges plan originals changes) s plan.result t :=
    Returns.bind Returns.modify (Returns.bind (returns_setState h.issued.planId_ne) (Returns.bind
      (Returns.catching hrecorded) (Returns.bind hwritten (Returns.bind hverified.attempt
        hcompleted))))
  have hplanned : Returns (applyPlanned plan) s plan.result t := by
    refine Returns.bind (Returns.catching hpreflight) ?_
    rw [hchangesOf]
    exact happlied
  refine ⟨t, Returns.bind Returns.service ?_, hproviders ▸ hmigrated, hsubjects ▸ h.subject,
    hplans ▸ h.known, hblocked.trans h.unblocked, hremembered, final, found,
    hproviders ▸ hinventory, hfound, hrecord⟩
  simp only [h.known]
  refine Returns.bind (Returns.require rfl) (Returns.bind (Returns.require h.unblocked) ?_)
  rw [show s.memory.states.get? plan.planId = some .planned from h.planned]
  exact hplanned

/-- A completed plan is replayed without a change. -/
theorem Replayable.returns_apply (h : Replayable plan before s) (hissued : Issued plan before)
    (hfree : PlannedFree plan before) :
    Returns (apply plan.planId plan.digest) s { plan.result with idempotent := true } s := by
  obtain ⟨inventory, found, hinventory, hfound, hcompleted⟩ := h.completed
  obtain ⟨current, hcurrent, hsame⟩ := returns_fullInventory hissued
    fun _ _ => h.migrated.valid hissued
  have hsnapshots : snapshots current = .ok found :=
    (snapshots_congr fun key => (hsame key).trans (hinventory key).symm).trans hfound
  have hchecked := assertPostApply_eq_ok hissued h.migrated s.providers.keyed hsame hfree
  refine Returns.bind Returns.service ?_
  simp only [h.known]
  refine Returns.bind (Returns.require rfl) (Returns.bind (Returns.require h.unblocked) ?_)
  rw [show s.memory.states.get? plan.planId = some .complete from h.remembered]
  refine Returns.bind Returns.service ?_
  rw [hcompleted]
  exact Returns.bind (Returns.catching (Returns.bind (returns_assertAuthority h.subject)
    (Returns.bind hcurrent (Returns.bind (Returns.checked hsnapshots) (Returns.bind
      (Returns.require rfl) (Returns.checked hchecked)))))) Returns.pure

section

variable {service : Service} {request : PlanRequest} {faults : List Fault} {created : World}
  (hapart : HashedApart service.planner request)
  (hunknown : Unknown plan.planId service)
  (hcreated : (createPlan request).run ⟨service, faults⟩ = (.ok plan, created))
include hapart hunknown hcreated

theorem fresh_of_createPlan :
    Fresh plan created.service ∧ created.service.providers = service.providers := by
  have hends := @triple_createPlan _ _ service request ⟨service, faults⟩ rfl
  unfold Method.Ends at hends
  rw [hcreated] at hends
  obtain ⟨⟨plans, hplan⟩, hservice⟩ := hends
  rw [hservice hunknown.plan]
  have hissued := issued_of_createPlan hapart hplan
  obtain ⟨hissues, hrecord⟩ := ReferenceMigrationCoordinator.createPlan_eq_ok.1 hplan
  obtain rfl := ReferenceMigrationCoordinator.record_eq hrecord
  refine ⟨⟨hissued, fun key document hget => ?_, fun hexpected hnone => ?_, hissues.subject,
    Dict.get?_set_self _ _ _, hissues.unblocked, ?_, ?_, hunknown.completion⟩, rfl⟩
  · have hkey := service.providers.keyed key document hget
    have hmem : document ∈ service.planner.listed key.1 := by
      refine mem_planner_listed.2 ?_
      rw [← hkey] at hget ⊢
      exact hget
    have hfree := ((hissues.ready key.1 (service.providers.known key document hget)).plannable
      document hmem).free
    rwa [← show document.provider = key.1 from congrArg Prod.fst hkey] at hfree
  · refine hissues.expected hexpected ?_
    have hcount : (service.planner.planFor request).exactReplacements =
        (((service.planner.plannedAll request).map fun document =>
          document.exactPaths.length).sum : ℕ) := by
      simp [ReferenceMigrationCoordinator.planFor, planOf, Discovery.extended]
    rw [hcount] at hnone
    exact_mod_cast hnone
  · unfold Service.rememberedOf Service.withState Service.issuing
    simp only
    rw [if_pos hunknown.state, Dict.get?_set_self]
  · change (service.journal.originals.get? _).getD [] = []
    rw [hunknown.originals]
    rfl

/-- Where the first attempt returns, no planned payload refers to the old entity. -/
theorem free_of_returns_apply {result : MigrationResult} {t : Service}
    (hreturns : Returns (apply plan.planId plan.digest) created.service result t) :
    PlannedFree plan service.providers.documents := by
  obtain ⟨hissued, hconsistent⟩ := consistent_of_createPlan hapart hunknown hcreated
  have hends := @triple_apply _ _ plan service.providers.documents hissued plan.digest
    ⟨created.service, []⟩ hconsistent
  unfold Method.Ends at hends
  rw [hreturns] at hends
  obtain ⟨-, hmigrated, hfree, -⟩ := hends
  intro key document hbefore
  obtain ⟨found, hget⟩ := exists_of_same (hmigrated.same key).symm hbefore
  have hprovider : found.provider = document.provider := congrArg Prod.fst
    ((t.providers.keyed key found hget).trans (service.providers.keyed key document hbefore).symm)
  have hfound := hfree key found hget
  rwa [(hmigrated.contents key document found hbefore hget).2, hprovider] at hfound

/-- Where no call fails, the first attempt returns exactly when no planned payload refers to the old
entity. It then returns the result of the plan, and a second attempt returns the same result as
idempotent and changes nothing. -/
theorem apply_returns_iff :
    ((∃ result t, Returns (apply plan.planId plan.digest) created.service result t) ↔
        PlannedFree plan service.providers.documents)
      ∧ ∀ result t, Returns (apply plan.planId plan.digest) created.service result t →
        result = plan.result
          ∧ Returns (apply plan.planId plan.digest) t
            { plan.result with idempotent := true } t := by
  obtain ⟨hfresh, hproviders⟩ := fresh_of_createPlan hapart hunknown hcreated
  have hreturns : PlannedFree plan service.providers.documents →
      ∃ t, Returns (apply plan.planId plan.digest) created.service plan.result t
        ∧ Returns (apply plan.planId plan.digest) t { plan.result with idempotent := true } t := by
    intro hfree
    rw [← hproviders] at hfree
    obtain ⟨t, hreturns, hreplayable⟩ := hfresh.returns_apply hfree
    exact ⟨t, hreturns, hreplayable.returns_apply hfresh.issued hfree⟩
  refine ⟨⟨?_, fun hfree => ?_⟩, fun result t hfirst => ?_⟩
  · rintro ⟨result, t, hfirst⟩
    exact free_of_returns_apply hapart hunknown hcreated hfirst
  · obtain ⟨t, hfirst, -⟩ := hreturns hfree
    exact ⟨_, t, hfirst⟩
  · obtain ⟨u, hfirst', hsecond⟩ :=
      hreturns (free_of_returns_apply hapart hunknown hcreated hfirst)
    obtain ⟨rfl, rfl⟩ := hfirst.unique hfirst'
    exact ⟨rfl, hsecond⟩

end

end

namespace Sample

theorem plannedFree : PlannedFree plan service.providers.documents := by
  intro key document hget
  change (Dict.empty.set firstDocument.key firstDocument).get? key = some document at hget
  rw [Dict.get?_set] at hget
  split at hget
  · obtain rfl := Option.some.inj hget
    decide +kernel
  · cases hget

/-- The plan of the sample is applied, and may be applied again. -/
theorem returned_twice :
    ∃ t, Returns (apply plan.planId plan.digest) issued plan.result t
      ∧ Returns (apply plan.planId plan.digest) t { plan.result with idempotent := true } t := by
  obtain ⟨hreturns, hagain⟩ := apply_returns_iff hashedApart_service unknown run_createPlan
  obtain ⟨result, t, hfirst⟩ := hreturns.2 plannedFree
  obtain ⟨rfl, hsecond⟩ := hagain result t hfirst
  exact ⟨t, hfirst, hsecond⟩

end Sample

end TrueFamily.Migration
