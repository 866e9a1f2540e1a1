import Mathlib.Data.List.Basic
import Mathlib.Data.List.Chain
import Mathlib.Data.List.Induction
import Mathlib.Data.List.Nodup
import Mathlib.Tactic.Common

/-!
# Checked computations

The validators of a fail-closed program are sequences of `if not ...: raise ...`, some of
them inside `for` loops that grow a few local dictionaries. This file gives both shapes as
`Except` programs and the rules that read a successful run back as a conjunction:

* `check`, one guarded raise, with `check_eq_ok`;
* `forEach`, a loop whose body first checks the next item against the accumulators and then
  updates them, with `forEach_eq_ok_iff`: the loop succeeds exactly when every item passes
  against the accumulators built from the items before it;
* `ForallSplit`, "every item against the items before it", with the rules that turn it into
  facts about the whole list: pairwise relations, distinct claims, chains;
* `rewrap`, `try ... except` around a check.
-/

namespace Checked

variable {ε α β σ : Type}

/-- `if not c: raise e`. -/
def check (c : Prop) [Decidable c] (e : ε) : Except ε Unit :=
  if c then .ok () else .error e

@[simp] theorem check_eq_ok {c : Prop} [Decidable c] {e : ε} {u : Unit} :
    check c e = .ok u ↔ c := by
  unfold check
  split <;> simp_all

theorem check_eq_error {c : Prop} [Decidable c] {e e' : ε} :
    check c e = .error e' ↔ ¬ c ∧ e = e' := by
  unfold check
  split <;> simp_all

@[simp low] theorem bind_eq_ok {x : Except ε α} {f : α → Except ε β} {b : β} :
    (x >>= f) = .ok b ↔ ∃ a, x = .ok a ∧ f a = .ok b := by
  cases x with
  | ok a => simp [bind, Except.bind]
  | error e => simp [bind, Except.bind]

theorem bind_eq_error {x : Except ε α} {f : α → Except ε β} {e : ε} :
    (x >>= f) = .error e ↔ x = .error e ∨ ∃ a, x = .ok a ∧ f a = .error e := by
  cases x with
  | ok a => simp [bind, Except.bind]
  | error e => simp [bind, Except.bind]

theorem any_decide_iff {o : Option α} {p : α → Prop} [DecidablePred p] :
    (o.any fun x => decide (p x)) = true ↔ ∃ x, o = some x ∧ p x := by
  cases o <;> simp

theorem exists_unit {p : Unit → Prop} : (∃ u, p u) ↔ p () :=
  ⟨fun ⟨_, h⟩ => h, fun h => ⟨(), h⟩⟩

/-- The rule for a step that returns nothing. -/
@[simp] theorem bind_unit_eq_ok {x : Except ε Unit} {f : Unit → Except ε β} {b : β} :
    (x >>= f) = .ok b ↔ x = .ok () ∧ f () = .ok b := by
  rw [bind_eq_ok, exists_unit]

@[simp] theorem pure_eq_ok {a b : α} : (pure a : Except ε α) = .ok b ↔ b = a := by
  simp [pure, Except.pure, eq_comm]

theorem map_eq_ok {x : Except ε α} {f : α → β} {b : β} :
    f <$> x = .ok b ↔ ∃ a, x = .ok a ∧ b = f a := by
  cases x <;> simp [Functor.map, Except.map, eq_comm]

/-- `try: x except ...: raise handler e`, for the exceptions that `handler` names. -/
def rewrap (x : Except ε α) (handler : ε → Option ε) : Except ε α :=
  match x with
  | .ok a => .ok a
  | .error e => .error ((handler e).getD e)

@[simp] theorem rewrap_eq_ok {x : Except ε α} {handler : ε → Option ε} {a : α} :
    rewrap x handler = .ok a ↔ x = .ok a := by
  cases x <;> simp [rewrap]

/-! ## Every item against the items before it -/

/-- Every item satisfies `P` against the items before it. -/
def ForallSplit (P : List α → α → Prop) (items : List α) : Prop :=
  ∀ before item after, items = before ++ item :: after → P before item

@[simp] theorem forallSplit_nil {P : List α → α → Prop} : ForallSplit P [] := by
  intro before item after h
  simp at h

@[simp] theorem forallSplit_concat {P : List α → α → Prop} {items : List α} {x : α} :
    ForallSplit P (items ++ [x]) ↔ ForallSplit P items ∧ P items x := by
  constructor
  · intro h
    refine ⟨fun before item after hsplit => ?_, h items x [] rfl⟩
    exact h before item (after ++ [x]) (by rw [hsplit, List.append_assoc]; rfl)
  · intro ⟨h, hx⟩ before item after hsplit
    induction after using List.reverseRecOn with
    | nil =>
      obtain ⟨rfl, heq⟩ := List.append_inj' hsplit rfl
      rw [← (List.cons.inj heq).1]
      exact hx
    | append_singleton after last _ =>
      rw [← List.cons_append, ← List.append_assoc] at hsplit
      exact h before item after (List.append_inj' hsplit rfl).1

theorem forallSplit_cons {P : List α → α → Prop} {items : List α} {x : α} :
    ForallSplit P (x :: items) ↔ P [] x ∧ ForallSplit (fun before => P (x :: before)) items := by
  induction items using List.reverseRecOn with
  | nil => simpa using @forallSplit_concat α P [] x
  | append_singleton items last ih =>
    rw [← List.cons_append, forallSplit_concat, forallSplit_concat, ih, and_assoc]

theorem forallSplit_append {P : List α → α → Prop} {first second : List α} :
    ForallSplit P (first ++ second) ↔
      ForallSplit P first ∧ ForallSplit (fun before => P (first ++ before)) second := by
  induction second using List.reverseRecOn with
  | nil => simp
  | append_singleton second last ih =>
    rw [← List.append_assoc, forallSplit_concat, forallSplit_concat, ih, and_assoc]

theorem ForallSplit.imp {P Q : List α → α → Prop} {items : List α} (h : ForallSplit P items)
    (himp : ∀ before item after, items = before ++ item :: after → P before item →
      Q before item) : ForallSplit Q items :=
  fun before item after hsplit => himp before item after hsplit (h before item after hsplit)

theorem forallSplit_congr {P Q : List α → α → Prop} {items : List α}
    (h : ∀ before item after, items = before ++ item :: after → (P before item ↔ Q before item)) :
    ForallSplit P items ↔ ForallSplit Q items :=
  ⟨fun hp => hp.imp fun b x a hs => (h b x a hs).1, fun hq => hq.imp fun b x a hs => (h b x a hs).2⟩

theorem forallSplit_and {P Q : List α → α → Prop} {items : List α} :
    ForallSplit (fun before item => P before item ∧ Q before item) items ↔
      ForallSplit P items ∧ ForallSplit Q items :=
  ⟨fun h => ⟨fun b x a hs => (h b x a hs).1, fun b x a hs => (h b x a hs).2⟩,
    fun ⟨hp, hq⟩ b x a hs => ⟨hp b x a hs, hq b x a hs⟩⟩

/-- A condition on the item alone. -/
@[simp] theorem forallSplit_const {P : α → Prop} {items : List α} :
    ForallSplit (fun _ => P) items ↔ ∀ item ∈ items, P item := by
  constructor
  · intro h item hmem
    obtain ⟨before, after, hsplit⟩ := List.append_of_mem hmem
    exact h before item after hsplit
  · intro h before item after hsplit
    exact h item (by rw [hsplit]; simp)

/-- A condition on the item and each item before it. -/
theorem forallSplit_forall_mem (R : α → α → Prop) (items : List α) :
    ForallSplit (fun before item => ∀ previous ∈ before, R previous item) items ↔
      items.Pairwise R := by
  induction items using List.reverseRecOn with
  | nil => simp
  | append_singleton items last ih =>
    rw [forallSplit_concat, ih, List.pairwise_append]
    simp

/-- Within the items of equal key, comparing neighbours is enough for a transitive relation. -/
theorem forallSplit_group_iff_pairwise {κ : Type} [DecidableEq κ] (key : α → κ)
    {R : α → α → Prop} (htrans : ∀ a b c, R a b → R b c → R a c) (items : List α) :
    ForallSplit (fun before item => ∀ previous,
        (before.filter fun x => decide (key x = key item)).getLast? = some previous →
          R previous item) items ↔
      items.Pairwise fun a b => key a = key b → R a b := by
  induction items using List.reverseRecOn with
  | nil => simp
  | append_singleton items last ih =>
    rw [forallSplit_concat, ih, List.pairwise_append]
    refine ⟨fun ⟨hpair, hlast⟩ => ⟨hpair, List.pairwise_singleton _ _, ?_⟩,
      fun ⟨hpair, _, hall⟩ => ⟨hpair, fun previous hp => ?_⟩⟩
    · intro x hx y hy hkey
      rw [List.mem_singleton] at hy
      subst hy
      -- The last item of the group is either `x` or comes after it.
      have hmem : x ∈ items.filter fun z => decide (key z = key y) := by
        simpa using ⟨hx, hkey⟩
      obtain ⟨group, previous, hgroup⟩ :=
        (List.eq_nil_or_concat' _).resolve_left (List.ne_nil_of_mem hmem)
      have hprev : R previous y := hlast previous (by rw [hgroup]; simp)
      rw [hgroup, List.mem_append, List.mem_singleton] at hmem
      rcases hmem with hmem | rfl
      · have hsub := hpair.sublist (List.filter_sublist (p := fun z => decide (key z = key y)))
        rw [hgroup, List.pairwise_append] at hsub
        have hkeyp : key previous = key y := by
          have : previous ∈ items.filter fun z => decide (key z = key y) := by
            rw [hgroup]; simp
          simpa using (List.mem_filter.1 this).2
        exact htrans _ _ _ (hsub.2.2 x hmem previous (by simp) (hkey.trans hkeyp.symm)) hprev
      · exact hprev
    · have hmem := List.mem_of_getLast? hp
      rw [List.mem_filter] at hmem
      exact hall previous hmem.1 last (by simp) (by simpa using hmem.2)

/-- Comparing neighbours is enough for a transitive relation. -/
theorem forallSplit_getLast_iff_pairwise {R : α → α → Prop}
    (htrans : ∀ a b c, R a b → R b c → R a c) (items : List α) :
    ForallSplit (fun before item => ∀ previous, before.getLast? = some previous →
        R previous item) items ↔ items.Pairwise R := by
  have h := forallSplit_group_iff_pairwise (fun _ : α => ()) htrans items
  simpa using h

/-- Claiming values one by one, each unclaimed before, is claiming distinct values. -/
theorem forallSplit_notMem_iff_nodup (f : α → Option β) {claimed : List β}
    (hclaimed : claimed.Nodup) (items : List α) :
    ForallSplit (fun before item => ∀ b, f item = some b → b ∉ claimed ++ before.filterMap f)
        items ↔
      (claimed ++ items.filterMap f).Nodup := by
  induction items using List.reverseRecOn with
  | nil => simpa using hclaimed
  | append_singleton items last ih =>
    rw [forallSplit_concat, ih, List.filterMap_append, ← List.append_assoc]
    cases hf : f last with
    | none => simp [hf]
    | some b =>
      rw [List.filterMap_cons_some hf, List.filterMap_nil, ← List.concat_eq_append,
        List.nodup_concat]
      simp only [Option.some.injEq, forall_eq']
      exact and_comm

/-- Neighbours in a zip of a list with its tail are the chain of the list. -/
theorem forall_mem_zip_tail_iff_isChain {R : α → α → Prop} {items : List α} :
    (∀ pair ∈ items.zip items.tail, R pair.1 pair.2) ↔ items.IsChain R := by
  induction items with
  | nil => simp
  | cons x items ih =>
    cases items with
    | nil => simp
    | cons y items =>
      rw [List.isChain_cons_cons, ← ih]
      simp

/-! ## Loops -/

/-- `for item in items:` with a body that checks the item against the accumulators and then
updates them. -/
def forEach (body : σ → α → Except ε Unit) (update : σ → α → σ) : σ → List α → Except ε σ
  | s, [] => .ok s
  | s, item :: items => do
    body s item
    forEach body update (update s item) items

/-- The loop rule: a run succeeds exactly when each item passes the body against the
accumulators that the items before it have built. -/
theorem forEach_eq_ok_iff {body : σ → α → Except ε Unit} {update : σ → α → σ}
    {s t : σ} {items : List α} :
    forEach body update s items = .ok t ↔ t = items.foldl update s ∧
      ForallSplit (fun before item => body (before.foldl update s) item = .ok ()) items := by
  induction items generalizing s with
  | nil => simp [forEach, eq_comm]
  | cons x xs ih =>
    simp only [forEach, bind_unit_eq_ok, ih, List.foldl_cons, forallSplit_cons, List.foldl_nil]
    exact and_left_comm

/-- `for index, item in enumerate(items):` with a body that looks at the items before it. -/
def forEachAfter (body : List α → α → Except ε Unit) (items : List α) : Except ε Unit := do
  let _ ← forEach body (fun before item => before ++ [item]) [] items

theorem foldl_concat (start items : List α) :
    items.foldl (fun before item => before ++ [item]) start = start ++ items := by
  induction items generalizing start with
  | nil => simp
  | cons x xs ih => simp [ih]

@[simp] theorem forEachAfter_eq_ok {body : List α → α → Except ε Unit} {items : List α}
    {u : Unit} : forEachAfter body items = .ok u ↔
      ForallSplit (fun before item => body before item = .ok ()) items := by
  simp only [forEachAfter, bind_eq_ok, forEach_eq_ok_iff, foldl_concat, List.nil_append,
    pure_eq_ok]
  simp

/-- A loop that keeps no accumulator. -/
def forAll (body : α → Except ε Unit) : List α → Except ε Unit
  | [] => .ok ()
  | item :: items => do
    body item
    forAll body items

@[simp] theorem forAll_eq_ok {body : α → Except ε Unit} {items : List α} {u : Unit} :
    forAll body items = .ok u ↔ ∀ item ∈ items, body item = .ok () := by
  induction items with
  | nil => simp [forAll]
  | cons x xs ih => simp [forAll, ih]

/-- `[body(item) for item in items]`, where the body may raise. -/
def collect (body : α → Except ε β) : List α → Except ε (List β)
  | [] => .ok []
  | item :: items => do
    let value ← body item
    let values ← collect body items
    return value :: values

theorem collect_eq_ok {body : α → Except ε β} {items : List α} {values : List β} :
    collect body items = .ok values ↔ List.Forall₂ (fun x y => body x = .ok y) items values := by
  induction items generalizing values with
  | nil =>
    rw [collect, List.forall₂_nil_left_iff, Except.ok.injEq]
    exact eq_comm
  | cons x xs ih =>
    simp only [collect, bind_eq_ok, pure_eq_ok, ih, List.forall₂_cons_left_iff]
    constructor
    · rintro ⟨y, hy, ys, hys, rfl⟩
      exact ⟨y, ys, hy, hys, rfl⟩
    · rintro ⟨y, ys, hy, hys, rfl⟩
      exact ⟨y, hy, ys, hys, rfl⟩

/-- A loop of computations that all return returns. -/
theorem exists_collect {body : α → Except ε β} {items : List α}
    (h : ∀ item ∈ items, ∃ value, body item = .ok value) :
    ∃ values, collect body items = .ok values := by
  induction items with
  | nil => exact ⟨[], rfl⟩
  | cons x xs ih =>
    obtain ⟨y, hy⟩ := h x List.mem_cons_self
    obtain ⟨ys, hys⟩ := ih fun item hmem => h item (List.mem_cons_of_mem _ hmem)
    exact ⟨y :: ys, collect_eq_ok.2 (.cons hy (collect_eq_ok.1 hys))⟩

theorem collect_eq_map {body : α → Except ε β} {f : α → β} {items : List α}
    (h : ∀ item ∈ items, body item = .ok (f item)) : collect body items = .ok (items.map f) :=
  collect_eq_ok.2 (List.forall₂_map_right_iff.2 (List.forall₂_same.2 h))

/-- A loop raises what one of its computations raises. -/
theorem collect_eq_error {body : α → Except ε β} {e : ε} {items : List α}
    (h : collect body items = .error e) : ∃ item, body item = .error e := by
  induction items with
  | nil => cases h
  | cons x xs ih =>
    rw [collect, bind_eq_error] at h
    rcases h with h | ⟨y, -, h⟩
    · exact ⟨x, h⟩
    · rcases bind_eq_error.1 h with h | ⟨ys, -, h⟩
      · exact ih h
      · cases h

theorem collect_self {body : α → Except ε α} {items : List α}
    (h : ∀ item ∈ items, body item = .ok item) : collect body items = .ok items := by
  induction items with
  | nil => rfl
  | cons x xs ih =>
    have hxs := ih fun item hmem => h item (List.mem_cons_of_mem _ hmem)
    simp only [collect, h x List.mem_cons_self, hxs]
    rfl

/-- What a loop collects and what it runs over, item by item. -/
theorem mem_collect {body : α → Except ε β} {items : List α} {values : List β}
    (h : collect body items = .ok values) :
    (∀ y ∈ values, ∃ x ∈ items, body x = .ok y) ∧ ∀ x ∈ items, ∃ y ∈ values, body x = .ok y := by
  rw [collect_eq_ok] at h
  induction h with
  | nil => simp
  | cons hy _ ih =>
    obtain ⟨hvalues, hitems⟩ := ih
    constructor
    · refine List.forall_mem_cons.2 ⟨⟨_, List.mem_cons_self, hy⟩, fun y hmem => ?_⟩
      obtain ⟨x, hx, hbody⟩ := hvalues y hmem
      exact ⟨x, List.mem_cons_of_mem _ hx, hbody⟩
    · refine List.forall_mem_cons.2 ⟨⟨_, List.mem_cons_self, hy⟩, fun x hmem => ?_⟩
      obtain ⟨y, hvalue, hbody⟩ := hitems x hmem
      exact ⟨y, List.mem_cons_of_mem _ hvalue, hbody⟩

end Checked
