import TrueFamily.Migration.Recover

/-!
# A recovery without faults restores the documents

`Returns x s a t`: with no fault left, `x` returns `a` and leaves the service `t`. From any service
that is consistent about an incomplete plan, `recover_incomplete` returns
(`returns_recoverIncomplete`).
-/

namespace TrueFamily.Migration

open Checked Sorting
open JsonValue (Text)
open Projection hiding collect
open Run (Triple Reads)

/-! ## Runs without faults -/

section

variable {α β : Type}

/-- Without faults the method returns. -/
def Returns (x : Run α) (s : Service) (a : α) (t : Service) : Prop :=
  x.run ⟨s, []⟩ = (.ok a, ⟨t, []⟩)

namespace Returns

variable {x : Run α} {f : α → Run β} {s t u : Service} {a : α} {b : β}

theorem pure : Returns (Pure.pure a : Run α) s a s := rfl

theorem bind (hx : Returns x s a t) (hf : Returns (f a) t b u) : Returns (x >>= f) s b u :=
  (Method.run_bind_of_ok hx).trans hf

theorem service : Returns Run.service s s s := rfl

theorem modify {g : Service → Service} : Returns (Run.modify g) s () (g s) := rfl

theorem checked {y : Except ApplyError α} (h : y = .ok a) : Returns (Run.checked y) s a s := by
  rw [h]
  rfl

theorem require {condition : Prop} [Decidable condition] {error : ApplyError} (h : condition) :
    Returns (Run.require condition error) s () s :=
  Method.run_require_ok.2 ⟨h, rfl⟩

theorem call (h : Returns x s a t) : Returns (Run.call x) s a t := h

theorem attempt (h : Returns x s a t) : Returns (Run.attempt x) s (.ok a) t :=
  Run.run_attempt_ok h

/-- A method returns one result. -/
theorem unique {a' : α} {t' : Service} (h : Returns x s a t) (h' : Returns x s a' t') :
    a = a' ∧ t = t' := by
  obtain ⟨hresult, hworld⟩ := Prod.mk.inj (h.symm.trans h')
  exact ⟨Except.ok.inj hresult, congrArg World.service hworld⟩

end Returns

end

section

variable [Sha256] [JinjaParser] {plan : MigrationPlan} {before : Inventory} {start s : Service}
  {keys : DocumentKey → Prop}

omit [Sha256] [JinjaParser] in
theorem returns_getDocument {key : DocumentKey} {document : ReferenceDocument}
    (h : s.providers.documents.get? key = some document) :
    Returns (getDocument key) s document s := by
  refine Returns.call (Returns.bind Returns.service ?_)
  rw [h]
  exact Returns.pure

omit [Sha256] [JinjaParser] in
theorem returns_setState {planId : Text} {state : MigrationState} (h : planId ≠ []) :
    Returns (setState planId state) s () (s.withState planId state) :=
  Returns.call (Returns.bind (Returns.require h) Returns.modify)

/-! ## Restoring -/

omit [Sha256] in
/-- One document fewer may be migrated. -/
theorem Partly.without {documents : Inventory} (h : Partly plan before keys documents)
    {key : DocumentKey} (hpayload : ∀ original document, before.get? key = some original →
      documents.get? key = some document → document.payload = original.payload) :
    Partly plan before (fun other => keys other ∧ other ≠ key) documents where
  same := h.same
  contents other original document hbefore hget := by
    obtain ⟨hwritable, hcontents⟩ := h.contents other original document hbefore hget
    refine ⟨hwritable, ?_⟩
    by_cases heq : other = key
    · exact Or.inl (hpayload original document (heq ▸ hbefore) (heq ▸ hget))
    · exact hcontents.imp_right fun hpost => ⟨⟨hpost.1, heq⟩, hpost.2⟩

/-- What is to be restored: an original with the fingerprint of what the plan makes of it. -/
abbrev Restorable (plan : MigrationPlan) (before : Inventory) (item : Attempted) : Prop :=
  JournaledOriginal.Sound ⟨item.1, item.2⟩ plan before

omit [JinjaParser] in
theorem returns_currentFingerprint {key : DocumentKey} {document : ReferenceDocument}
    {fingerprint : Text} (hget : s.providers.documents.get? key = some document)
    (hfingerprint : fingerprintOf document = .ok fingerprint) :
    Returns (currentFingerprint key) s fingerprint s :=
  Returns.bind (returns_getDocument hget) (Returns.checked hfingerprint)

/-- One original is restored. -/
theorem returns_restoreOriginal (hissued : Issued plan before) {item : Attempted}
    (hitem : Restorable plan before item) (hs : Within start plan before keys s) :
    ∃ t, Returns (restoreOriginal item) s () t
      ∧ Within start plan before (fun key => keys key ∧ key ≠ item.1.key) t := by
  obtain ⟨providers, rfl, hpartly⟩ := hs
  obtain ⟨original, hbefore, hpayload, -, hpost⟩ := hitem
  obtain ⟨current, hget⟩ := exists_of_same (hpartly.same item.1.key).symm hbefore
  -- the document is as planned: its contents before or after the migration
  obtain ⟨hwritable, hcontents⟩ := hpartly.contents _ original current hbefore hget
  have hcontents := hcontents.imp_right And.right
  have hcurrent := hissued.fingerprintOf hbefore hcontents
  have horiginal := hissued.fingerprintOf hbefore (Or.inl hpayload)
  by_cases hmigrated : hexdigest (canonicalJson current.payload) = item.2
  · -- The document has been migrated, so its original is written back.
    have hvalid : validatePayload item.1.payload = true := (fingerprintOf_eq_ok.1 horiginal).1
    obtain ⟨-, -, -, horiginalWritable⟩ := hissued.keyed _ original hbefore
    obtain ⟨written, hwritten⟩ : ∃ written, providers.write item.1.key current.revision
        item.1.payload item.1.keysDistinct = .ok written :=
      ⟨_, write_eq_ok.2 ⟨current, hget, rfl, hwritable.trans horiginalWritable, hvalid, rfl⟩⟩
    obtain ⟨found, hfound, -, -, -, hstored⟩ := write_eq_ok.1 hwritten
    have hdocuments : ∃ document, written.documents =
        providers.documents.set item.1.key document ∧ document.payload = item.1.payload
          ∧ document.writable = current.writable := by
      obtain rfl := Option.some.inj (hget.symm.trans hfound)
      exact ⟨_, congrArg _ hstored, rfl, rfl⟩
    obtain ⟨document, hdocuments, hdocument, hdocumentWritable⟩ := hdocuments
    have hwrittenGet : written.documents.get? item.1.key = some document := by
      rw [hdocuments, Dict.get?_set_self]
    refine ⟨{ start with providers := written }, ?_, written, rfl, ?_⟩
    · refine Returns.bind (returns_getDocument hget) (Returns.bind (Returns.checked hcurrent)
        (Returns.bind (Returns.checked horiginal) ?_))
      simp only
      rw [if_pos hmigrated]
      refine Returns.bind (t := { start with providers := written }) (a := ()) ?_ (Returns.bind
        (returns_currentFingerprint hwrittenGet (hissued.fingerprintOf hbefore
          (Or.inl (hdocument.trans hpayload)))) (Returns.require ?_))
      · exact Returns.call (Returns.bind Returns.service (Returns.bind (Returns.checked hwritten)
          Returns.modify))
      · rw [hdocument]
    · rw [hdocuments]
      refine Partly.without (hpartly.set hget hdocumentWritable fun other hother => Or.inl ?_)
        fun other found hother hfound => ?_
      · rw [hdocument, hpayload, Option.some.inj (hbefore.symm.trans hother)]
      · rw [Dict.get?_set_self] at hfound
        rw [← Option.some.inj hfound, hdocument, hpayload,
          Option.some.inj (hbefore.symm.trans hother)]
  · -- The document is as before.
    have hsame : current.payload = original.payload := by
      refine hcontents.resolve_right fun hmigratedPayload => hmigrated ?_
      rw [hmigratedPayload]
      exact hpost.symm
    have hfingerprint : hexdigest (canonicalJson current.payload) =
        hexdigest (canonicalJson item.1.payload) := by rw [hsame, hpayload]
    refine ⟨_, ?_, providers, rfl, hpartly.without fun other found hother hfound => ?_⟩
    · refine Returns.bind (returns_getDocument hget) (Returns.bind (Returns.checked hcurrent)
        (Returns.bind (Returns.checked horiginal) ?_))
      simp only
      rw [if_neg hmigrated]
      exact Returns.bind (Returns.require hfingerprint) (Returns.bind
        (returns_currentFingerprint hget hcurrent) (Returns.require hfingerprint))
    · rw [← Option.some.inj (hget.symm.trans hfound), hsame,
        Option.some.inj (hbefore.symm.trans hother)]

/-- All originals are restored. -/
theorem returns_restoreAll (hissued : Issued plan before) : ∀ {items : List Attempted}
    {keys : DocumentKey → Prop} {s : Service}, (∀ item ∈ items, Restorable plan before item) →
      Within start plan before keys s → ∃ t, Returns (restoreAll items) s [] t
        ∧ Within start plan before (fun key => keys key ∧ ∀ item ∈ items, key ≠ item.1.key) t
  | [], keys, s, _, hs => ⟨s, Returns.pure, by simpa using hs⟩
  | item :: items, keys, s, h, hs => by
    obtain ⟨hitem, h⟩ := List.forall_mem_cons.1 h
    obtain ⟨t, hrestored, ht⟩ := returns_restoreOriginal hissued hitem hs
    obtain ⟨u, hothers, providers, rfl, hpartly⟩ := returns_restoreAll hissued h ht
    refine ⟨_, Returns.bind hrestored.attempt (Returns.bind hothers Returns.pure), providers, rfl,
      hpartly.imp fun key hkey => ⟨hkey.1.1, List.forall_mem_cons.2 ⟨hkey.1.2, hkey.2⟩⟩⟩

omit [JinjaParser] in
/-- The originals are found again. -/
theorem returns_verifyOriginals {entries : List (DocumentKey × ReferenceDocument)}
    (h : ∀ entry ∈ entries, ∃ document, s.providers.documents.get? entry.1 = some document
      ∧ agrees document entry.2 = .ok true) :
    Returns (verifyOriginals entries) s [] s := by
  induction entries with
  | nil => exact Returns.pure
  | cons entry entries ih =>
    obtain ⟨⟨document, hget, hagrees⟩, h⟩ := List.forall_mem_cons.1 h
    have hfound : Returns (do
        let current ← getDocument entry.1
        Run.checked (agrees current entry.2)) s true s :=
      Returns.bind (returns_getDocument hget) (Returns.checked hagrees)
    exact Returns.bind hfound.attempt (Returns.bind (ih h) Returns.pure)

/-- Without faults an incomplete plan is recovered. -/
theorem returns_recoverIncomplete (hissued : Issued plan before) (h : Consistent plan before s)
    (hincomplete : IsIncomplete (s.stateOf plan.planId)) :
    ∃ t, Returns (recoverIncomplete plan.planId) s () t := by
  obtain ⟨originals, hcollected, horiginals⟩ := collectOriginals_eq_ok hissued
    h.recorded.originals h.recorded.distinct fun _ _ => Dict.get?_empty _
  have hsound : ∀ item ∈ (s.journal.originalsFor plan.planId).map fun entry =>
      (entry.document, entry.postFingerprint), Restorable plan before item := by
    intro item hmem
    obtain ⟨entry, hentry, rfl⟩ := List.mem_map.1 hmem
    exact h.recorded.originals entry hentry
  obtain ⟨_, hrestored, providers, rfl, hpartly⟩ := @returns_restoreAll _ _ plan before s hissued _
    (s.journaled plan.planId) s (fun item hmem => hsound item (List.mem_reverse.1 hmem))
    ⟨s.providers, rfl, h.incomplete hincomplete⟩
  -- every key that was journaled is restored, and the others were never written
  have huntouched : Untouched plan before providers.documents := hpartly.imp fun key hkey => by
    obtain ⟨entry, hentry, heq⟩ := hkey.1
    exact hkey.2 (entry.document, entry.postFingerprint)
      (List.mem_reverse.2 (List.mem_map.2 ⟨entry, hentry, rfl⟩)) heq.symm
  -- the verification reads each document again and finds its original
  have hverified : Returns (verifyOriginals originals.entries) { s with providers := providers } []
      { s with providers := providers } := by
    refine returns_verifyOriginals fun listed hmem => ?_
    obtain ⟨entry, hentry, hkey, hdocument⟩ := ((horiginals listed.1 listed.2).1
      (Dict.get?_eq_some_iff.2 hmem)).resolve_left fun hempty => by cases hempty
    obtain ⟨original, hbefore, hpayload, hwritable, -⟩ := h.recorded.originals entry hentry
    rw [hkey] at hbefore
    rw [hdocument] at hpayload hwritable
    obtain ⟨document, hget⟩ := exists_of_same (huntouched.same listed.1).symm hbefore
    obtain ⟨hdocumentWritable, hdocumentPayload⟩ := huntouched.payload hbefore hget
    refine ⟨document, hget, ?_⟩
    rw [agrees, hissued.fingerprintOf hbefore (Or.inl hdocumentPayload),
      hissued.fingerprintOf hbefore (Or.inl hpayload)]
    exact congrArg Except.ok (decide_eq_true ⟨by rw [hdocumentPayload, hpayload],
      hdocumentWritable.trans hwritable.symm⟩)
  have hincompletePlanIds {t : Service} :
      Returns incompletePlanIds t t.journal.incompletePlanIds t :=
    Returns.call (Returns.bind Returns.service Returns.pure)
  have hsettled : ∃ t, Returns (do
      setState plan.planId .failed
      Run.modify fun service => service.forgetting plan.planId
      let incomplete ← incompletePlanIds
      setBlocked (decide (incomplete ≠ []))) { s with providers := providers } () t :=
    ⟨_, Returns.bind (returns_setState hissued.planId_ne) (Returns.bind Returns.modify
      (Returns.bind hincompletePlanIds Returns.modify))⟩
  obtain ⟨t, hsettled⟩ := hsettled
  refine ⟨t, Returns.bind hincompletePlanIds (Returns.bind
    (Returns.require (mem_incompletePlanIds.2 hincomplete)) (Returns.bind (Returns.call
      (Returns.bind Returns.service Returns.pure)) (Returns.bind (Returns.checked hcollected)
        (Returns.bind (Returns.bind hrestored (Returns.bind hverified Returns.pure)) hsettled))))⟩

end

end TrueFamily.Migration
