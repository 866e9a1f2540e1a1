import TrueFamily.Migration.Atomic

/-!
# Recovering and restarting keep what is recorded consistent

`recover_incomplete` restores what the journal has of an incomplete plan
(`triple_recoverIncomplete`), and a new coordinator reads the journal (`triple_restart`).
-/

namespace TrueFamily.Migration

open Checked Sorting
open JsonValue (Text)
open Projection hiding collect
open Run (Triple Reads)

section

variable [Sha256] [JinjaParser] {plan : MigrationPlan} {before : Inventory} {start s : Service}
  {keys : DocumentKey → Prop}

/-! ## What the journal lists -/

omit [Sha256] [JinjaParser] in
theorem mem_incompletePlanIds {journal : InMemoryReferenceJournal} {planId : Text} :
    planId ∈ journal.incompletePlanIds ↔ IsIncomplete (journal.states.get? planId) := by
  simp only [InMemoryReferenceJournal.incompletePlanIds, mem_sortedBy, List.mem_map,
    List.mem_filter, Dict.mem_entries_iff, decide_eq_true_eq, IsIncomplete]
  constructor
  · rintro ⟨entry, ⟨hget, hstate⟩, rfl⟩
    rw [hget]
    exact hstate.imp (congrArg some) (congrArg some)
  · rintro (hget | hget)
    · exact ⟨(planId, .applying), ⟨hget, Or.inl rfl⟩, rfl⟩
    · exact ⟨(planId, .blocked), ⟨hget, Or.inr rfl⟩, rfl⟩

omit [Sha256] [JinjaParser] in
theorem mem_completedPlanIds {journal : InMemoryReferenceJournal} {planId : Text} :
    planId ∈ journal.completedPlanIds ↔
      journal.states.get? planId = some .complete ∧ journal.completions.get? planId ≠ none := by
  simp only [InMemoryReferenceJournal.completedPlanIds, mem_sortedBy, List.mem_map,
    List.mem_filter, Dict.mem_entries_iff, decide_eq_true_eq]
  constructor
  · rintro ⟨entry, ⟨hget, hstate, hcompletion⟩, rfl⟩
    exact ⟨hget.trans (congrArg some hstate), hcompletion⟩
  · rintro ⟨hget, hcompletion⟩
    exact ⟨(planId, .complete), ⟨hget, rfl, hcompletion⟩, rfl⟩

/-- The journaled originals are collected by their keys. -/
theorem collectOriginals_eq_ok (hissued : Issued plan before) :
    ∀ {entries : List JournaledOriginal} {originals : Inventory},
      (∀ entry ∈ entries, entry.Sound plan before) →
      (entries.map fun entry => entry.document.key).Nodup →
      (∀ entry ∈ entries, originals.get? entry.document.key = none) →
      ∃ collected, collectOriginals entries originals = .ok collected
        ∧ ∀ key document, collected.get? key = some document ↔
          originals.get? key = some document
            ∨ ∃ entry ∈ entries, entry.document.key = key ∧ entry.document = document
  | [], originals, _, _, _ => ⟨originals, rfl, by simp⟩
  | entry :: entries, originals, hsound, hdistinct, hnew => by
    obtain ⟨hentry, hsound⟩ := List.forall_mem_cons.1 hsound
    obtain ⟨hfirst, hnew⟩ := List.forall_mem_cons.1 hnew
    rw [List.map_cons, List.nodup_cons] at hdistinct
    have hother : ∀ other ∈ entries, other.document.key ≠ entry.document.key :=
      fun other hmem heq =>
      hdistinct.1 (List.mem_map.2 ⟨other, hmem, heq⟩)
    obtain ⟨original, hbefore, hpayload, -, hpost⟩ := hentry
    obtain ⟨-, hmanifest, hvalid, -⟩ := hissued.keyed _ original hbefore
    -- a digest is not empty
    have hfingerprint : entry.postFingerprint ≠ [] := by
      intro hnil
      have hdigest := isDigest_hexdigest (canonicalJson (plan.postOf original))
      rw [← hpost, hnil, nil_not_digest] at hdigest
      cases hdigest
    obtain ⟨collected, hcollected, hget⟩ := @collectOriginals_eq_ok hissued entries
      (originals.set entry.document.key entry.document) hsound hdistinct.2 fun other hmem => by
        rw [Dict.get?_set_of_ne _ _ (hother other hmem)]
        exact hnew other hmem
    refine ⟨collected, ?_, fun key document => ?_⟩
    · have hchecked : check (originals.get? entry.document.key = none
          ∧ entry.document.provider ∈ providerManifest) (ApplyError.restoreFailed []) = .ok () :=
        check_eq_ok.2 ⟨hfirst, hmanifest⟩
      have hdocument : fingerprintOf entry.document =
          .ok (hexdigest (canonicalJson entry.document.payload)) :=
        fingerprintOf_eq_ok.2 ⟨hpayload ▸ hvalid, rfl⟩
      have hnonempty : check (entry.postFingerprint ≠ []) (ApplyError.restoreFailed []) = .ok () :=
        check_eq_ok.2 hfingerprint
      rw [collectOriginals, hchecked, hdocument, hnonempty]
      exact hcollected
    · rw [hget, Dict.get?_set]
      split
      · rename_i heq
        subst heq
        simp only [Option.some.injEq, List.mem_cons, exists_eq_or_imp, true_and, hfirst,
          reduceCtorEq, false_or]
      · rename_i hne
        simp only [List.mem_cons, exists_eq_or_imp]
        exact or_congr_right ⟨Or.inr, fun h => h.resolve_left fun heq => hne heq.1.symm⟩

/-! ## Recovering -/

/-- The restoration of what was journaled. -/
theorem triple_restoreJournaled (hissued : Issued plan before) {attempted : List Attempted}
    {originals : Inventory} (hattempted : ∀ item ∈ attempted, IsOriginal before item.1)
    (horiginals : ∀ key original, keys key → before.get? key = some original → ∃ listed,
      originals.get? key = some listed ∧ listed.payload = original.payload) :
    Triple (Within start plan before keys) (restoreOriginals attempted originals false)
      (fun failures s => Within start plan before keys s
        ∧ (failures = [] → Untouched plan before s.providers.documents))
      fun stop s => stop = .died ∧ Within start plan before keys s := by
  unfold restoreOriginals
  refine Triple.bind (triple_restoreAll fun item hmem => hattempted item (List.mem_reverse.1 hmem))
    fun failures => Triple.bind triple_verifyOriginals fun others =>
      Triple.pure fun s hs => ⟨hs.1, fun hnil => ?_⟩
  have hothers : others = [] := (List.append_eq_nil_iff.1 (eraseDups_eq_nil hnil)).2
  obtain ⟨providers, rfl, hpartly⟩ := hs.1
  refine untouched_of_verified hissued hpartly fun key original hkey hbefore => ?_
  obtain ⟨listed, hlisted, hpayload⟩ := horiginals key original hkey hbefore
  obtain ⟨document, hget, hsame, -⟩ := hs.2 hothers (key, listed) (Dict.get?_eq_some_iff.1 hlisted)
  exact ⟨document, hget, by rw [hsame, hpayload]⟩

omit [Sha256] [JinjaParser] in
theorem IsIncomplete.ne_complete {state : Option MigrationState} (h : IsIncomplete state) :
    state ≠ some .complete := by
  rcases h with rfl | rfl <;> decide

/-- While an incomplete plan is restored, its originals remain journaled. -/
theorem Consistent.exists_within (h : Consistent plan before start)
    (hincomplete : IsIncomplete (start.stateOf plan.planId)) :
    ∃ keys : DocumentKey → Prop, (∀ key, keys key → start.journaled plan.planId key)
      ∧ Within start plan before keys start
      ∧ ∀ t, Within start plan before keys t → Consistent plan before t := by
  have hcomplete := hincomplete.ne_complete
  -- A coordinator that knows of no incomplete plan has found the documents as before.
  by_cases huntouched : Untouched plan before start.providers.documents
  · refine ⟨fun _ => False, fun _ => False.elim, ⟨start.providers, rfl, huntouched⟩, ?_⟩
    rintro _ ⟨providers, rfl, hpartly⟩
    exact ⟨⟨h.recorded.originals, h.recorded.distinct, h.recorded.plan_eq, h.recorded.completion⟩,
      fun _ => hpartly.imp fun _ => False.elim, fun heq => absurd heq hcomplete,
      fun hne => absurd hincomplete hne, fun _ _ => Or.inl hpartly, h.durable⟩
  · refine ⟨start.journaled plan.planId, fun _ => id,
      ⟨start.providers, rfl, h.incomplete hincomplete⟩, ?_⟩
    rintro _ ⟨providers, rfl, hpartly⟩
    refine ⟨⟨h.recorded.originals, h.recorded.distinct, h.recorded.plan_eq, h.recorded.completion⟩,
      fun _ => hpartly, fun heq => absurd heq hcomplete, fun hne => absurd hincomplete hne,
      fun hblocked hne => ?_, h.durable⟩
    exact ((h.remembered hblocked hne).resolve_left huntouched |> h.durable |> hcomplete).elim

/-- The coordinator forgets what it remembers of a plan whose documents are as before. -/
theorem Unchanged.forgetting (h : Unchanged plan before s) :
    Unchanged plan before (s.forgetting plan.planId) := by
  refine ⟨⟨⟨h.1.recorded.originals, h.1.recorded.distinct, h.1.recorded.plan_eq,
    h.1.recorded.completion⟩, h.1.incomplete, h.1.complete, h.1.settled, fun _ _ => Or.inl h.2,
    fun hcomplete => ?_⟩, h.2⟩
  unfold Service.rememberedOf Service.forgetting at hcomplete
  simp only at hcomplete
  split at hcomplete
  · rename_i hnone
    rw [hnone] at hcomplete
    cases hcomplete
  · rw [Dict.get?_set_self] at hcomplete
    cases hcomplete

omit [Sha256] [JinjaParser] in
theorem reads_incompletePlanIds :
    Reads incompletePlanIds s (· = s.journal.incompletePlanIds) := by
  refine Reads.call (Reads.bind Reads.service ?_)
  rintro _ rfl
  exact Reads.pure rfl

omit [Sha256] [JinjaParser] in
theorem reads_originalsFor {planId : Text} :
    Reads (originalsFor planId) s (· = s.journal.originalsFor planId) := by
  refine Reads.call (Reads.bind Reads.service ?_)
  rintro _ rfl
  exact Reads.pure rfl

/-- The documents are restored. -/
theorem triple_recovered :
    Triple (fun s => Unchanged plan before s ∧ IsIncomplete (s.stateOf plan.planId))
      (do
        setState plan.planId .failed
        Run.modify fun service => service.forgetting plan.planId
        let incomplete ← incompletePlanIds
        setBlocked (decide (incomplete ≠ [])))
      (fun _ s => Unchanged plan before s ∧ s.stateOf plan.planId = some .failed)
      fun _ => Consistent plan before := by
  have hfailed : ∀ s, Unchanged plan before s ∧ IsIncomplete (s.stateOf plan.planId) →
      Unchanged plan before (s.withState plan.planId .failed) := fun s hs =>
    ⟨hs.1.1.recorded.withState (by decide) (fun _ => hs.1.2.partly) (fun _ => hs.1.2)
      (fun _ _ => hs.1.2) fun hcomplete => hs.2.ne_complete (hs.1.1.durable hcomplete), hs.1.2⟩
  refine Triple.bind (triple_setState (fun s hs => ⟨hs.1.1, hs.1.1⟩) fun s hs => (hfailed s hs).1)
    fun _ => Triple.bind (m := fun _ s => Unchanged plan before s
      ∧ s.stateOf plan.planId = some .failed) (Triple.modify ?_) fun _ =>
        Triple.bind (Reads.triple (fun _ _ => reads_incompletePlanIds) fun _ s hs => hs.1.1)
          fun incomplete => Triple.modify fun s hs => ?_
  · rintro _ ⟨s, hs, rfl⟩
    exact ⟨(hfailed s hs).forgetting, stateOf_withState s plan.planId .failed⟩
  · obtain ⟨⟨hunchanged, hstate⟩, -⟩ := hs
    exact ⟨⟨hunchanged.1.withBlocked fun _ => hunchanged.2, hunchanged.2⟩, hstate⟩

/-- A document is not restored. -/
theorem triple_unrecovered {failed : List Failure} {α : Type} :
    Triple (fun s => Consistent plan before s ∧ IsIncomplete (s.stateOf plan.planId))
      (do
        setState plan.planId .blocked
        setBlocked true
        Run.raise (.restoreFailed failed) : Run α)
      (fun _ _ => False) fun _ => Consistent plan before := by
  have hblocked : ∀ s, Consistent plan before s ∧ IsIncomplete (s.stateOf plan.planId) →
      Consistent plan before (s.withState plan.planId .blocked) := fun s hs =>
    have hne : s.rememberedOf plan.planId ≠ some .complete := fun hcomplete =>
      hs.2.ne_complete (hs.1.durable hcomplete)
    hs.1.recorded.withState (by decide) (fun _ => hs.1.incomplete hs.2)
      (fun hstate => absurd (Or.inr rfl) hstate)
      (fun hfalse hstate => (hs.1.remembered hfalse hstate).resolve_right hne) hne
  refine Triple.bind (triple_setState (fun s hs => ⟨hs.1, hs.1⟩) hblocked) fun _ =>
    Triple.bind triple_setBlocked fun _ => Triple.raise ?_
  rintro _ ⟨_, ⟨s, hs, rfl⟩, rfl⟩
  exact (hblocked s hs).withBlocked nofun

/-- However `recover_incomplete` ends, the journal and the documents are consistent. -/
theorem triple_recoverIncomplete (hissued : Issued plan before) :
    Triple (Consistent plan before) (recoverIncomplete plan.planId)
      (fun _ s => Unchanged plan before s ∧ s.stateOf plan.planId = some .failed)
      fun _ => Consistent plan before := by
  refine Triple.of_forall fun start hstart => ?_
  unfold recoverIncomplete
  refine Reads.triple_bind reads_incompletePlanIds (fun _ => hstart) ?_
  rintro _ rfl
  refine Triple.require (fun _ s hs => hs ▸ hstart) fun hincomplete => ?_
  have hincomplete : IsIncomplete (start.stateOf plan.planId) := mem_incompletePlanIds.1 hincomplete
  refine Reads.triple_bind reads_originalsFor (fun _ => hstart) ?_
  rintro _ rfl
  obtain ⟨originals, hcollected, horiginals⟩ := collectOriginals_eq_ok hissued
    hstart.recorded.originals hstart.recorded.distinct fun _ _ => Dict.get?_empty _
  rw [hcollected]
  refine Triple.checked_ok ?_
  obtain ⟨keys, hkeys, hwithin, hconsistent⟩ := hstart.exists_within hincomplete
  refine Triple.bind (Triple.imp (@triple_restoreJournaled _ _ plan before start keys hissued
    ((start.journal.originalsFor plan.planId).map fun entry =>
      (entry.document, entry.postFingerprint)) originals ?_ ?_) ?_ (fun _ _ => id) ?_)
    fun failures => ?_
  · rintro _ hmem
    obtain ⟨entry, hentry, rfl⟩ := List.mem_map.1 hmem
    obtain ⟨original, hbefore, hpayload, hwritable, -⟩ := hstart.recorded.originals entry hentry
    exact ⟨original, hbefore, hpayload, hwritable⟩
  · intro key original hkey hbefore
    obtain ⟨entry, hentry, rfl⟩ := hkeys key hkey
    obtain ⟨found, hfound, hpayload, -⟩ := hstart.recorded.originals entry hentry
    refine ⟨entry.document, (horiginals _ _).2 (Or.inr ⟨entry, hentry, rfl, rfl⟩), ?_⟩
    rw [hpayload, Option.some.inj (hfound.symm.trans hbefore)]
  · rintro _ rfl
    exact hwithin
  · rintro _ s ⟨rfl, hs⟩
    exact hconsistent s hs
  · have hstate : ∀ s, Within start plan before keys s → IsIncomplete (s.stateOf plan.planId) := by
      rintro _ ⟨providers, rfl, -⟩
      exact hincomplete
    split
    · rename_i hnil
      exact Triple.imp triple_recovered (fun s hs => ⟨⟨hconsistent s hs.1, hs.2 hnil⟩,
        hstate s hs.1⟩) (fun _ _ => id) fun _ _ => id
    · exact Triple.imp triple_unrecovered (fun s hs => ⟨hconsistent s hs.1, hstate s hs.1⟩)
        (fun _ _ => False.elim) fun _ _ => id

/-! ## A new process -/

/-- What a new coordinator knows. -/
theorem Consistent.restarted (h : Consistent plan before s) {memory : Memory}
    (hmemory : Memory.init s.journal = .ok memory) :
    Consistent plan before { s with memory := memory } := by
  obtain ⟨found, hfound, hmemory⟩ := bind_eq_ok.1 hmemory
  obtain rfl := pure_eq_ok.1 hmemory
  obtain ⟨hvalues, hitems⟩ := mem_collect hfound
  have hcompletion : ∀ entry ∈ found, entry.1 ∈ s.journal.completedPlanIds
      ∧ s.journal.completions.get? entry.1 = some entry.2 := by
    intro entry hmem
    obtain ⟨planId, hcompleted, hentry⟩ := hvalues entry hmem
    split at hentry
    · cases hentry
    · rename_i completion hget
      rw [bind_unit_eq_ok, pure_eq_ok] at hentry
      obtain ⟨-, rfl⟩ := hentry
      exact ⟨hcompleted, hget⟩
  -- the last entry of a plan counts, but they all have the completion of the journal
  have hknown : ∀ {α : Type} {value : Text × JournaledCompletion → α} {a : α},
      (Dict.comprehension Prod.fst value found).get? plan.planId = some a →
        ∃ entry ∈ found, entry.1 = plan.planId ∧ value entry = a := by
    intro α value a hget
    rw [Dict.get?_comprehension, Option.map_eq_some_iff] at hget
    obtain ⟨entry, hlast, hvalue⟩ := hget
    have hmem := List.mem_filter.1 (List.mem_of_getLast? hlast)
    exact ⟨entry, hmem.1, of_decide_eq_true hmem.2, hvalue⟩
  refine ⟨⟨h.recorded.originals, h.recorded.distinct,
    fun other hother => ?_, h.recorded.completion⟩,
    h.incomplete, h.complete, h.settled, fun hblocked _ => ?_, fun hcomplete => ?_⟩
  · obtain ⟨entry, hmem, hid, rfl⟩ := hknown hother
    exact h.recorded.completion entry.2 (hid ▸ (hcompletion entry hmem).2)
  -- without a blocked coordinator the journal lists no plan as incomplete
  · have hincomplete : ¬ IsIncomplete (s.stateOf plan.planId) := fun hincomplete => by
      have hmem : plan.planId ∈ s.journal.incompletePlanIds := mem_incompletePlanIds.2 hincomplete
      rw [not_not.1 (of_decide_eq_false hblocked)] at hmem
      cases hmem
    by_cases hcomplete : s.stateOf plan.planId = some .complete
    · right
      obtain ⟨entry, hmem, hentry⟩ := hitems plan.planId
        (mem_completedPlanIds.2 ⟨hcomplete, (h.complete hcomplete).2⟩)
      have hid : entry.1 = plan.planId := by
        split at hentry
        · cases hentry
        · rw [bind_unit_eq_ok, pure_eq_ok] at hentry
          rw [hentry.2]
      obtain ⟨state, hstate⟩ := Option.ne_none_iff_exists'.1 fun hnone =>
        Dict.get?_comprehension_eq_none_iff.1 hnone entry hmem hid
      obtain ⟨_, _, _, hcompleted⟩ := hknown hstate
      exact hstate.trans (congrArg some hcompleted.symm)
    · exact Or.inl (h.settled hincomplete hcomplete)
  · obtain ⟨entry, hmem, hid, -⟩ := hknown hcomplete
    exact (mem_completedPlanIds.1 (hid ▸ (hcompletion entry hmem).1)).1

/-- A restart changes no document. -/
theorem triple_restart :
    Triple (Consistent plan before) restart (fun _ => Consistent plan before)
      fun _ => Consistent plan before := by
  refine Triple.service fun start hstart => Reads.triple_bind Reads.checked (fun _ => hstart)
    fun memory hmemory => Triple.modify ?_
  rintro _ rfl
  exact hstart.restarted hmemory

end

end TrueFamily.Migration
