import Mathlib.Data.List.Sort
import Mathlib.Data.Prod.Lex
import Mathlib.Order.MinMax
import Mathlib.Tactic.Common

/-!
# Stable sorting by a key

`sorted(items, key=key)`: the stable sort of a list by a key in a linear order. A list that is
already in key order is its own sort, so `sortedBy key l = l` is how a program checks that a
collection is canonical.
-/

namespace Sorting

variable {α κ : Type} [LinearOrder κ]

/-- `sorted(items, key=key)`. -/
def sortedBy (key : α → κ) (items : List α) : List α :=
  items.insertionSort fun a b => key a ≤ key b

instance total_key (key : α → κ) : Std.Total fun a b : α => key a ≤ key b :=
  ⟨fun a b => le_total (key a) (key b)⟩

instance trans_key (key : α → κ) : IsTrans α fun a b : α => key a ≤ key b :=
  ⟨fun _ _ _ hab hbc => le_trans hab hbc⟩

theorem perm_sortedBy (key : α → κ) (items : List α) : (sortedBy key items).Perm items :=
  List.perm_insertionSort _ items

@[simp] theorem mem_sortedBy {key : α → κ} {items : List α} {x : α} :
    x ∈ sortedBy key items ↔ x ∈ items :=
  (perm_sortedBy key items).mem_iff

theorem pairwise_sortedBy (key : α → κ) (items : List α) :
    (sortedBy key items).Pairwise fun a b => key a ≤ key b :=
  List.pairwise_insertionSort _ items

/-- A list is its own sort exactly when it is in key order. -/
theorem sortedBy_eq_self_iff {key : α → κ} {items : List α} :
    sortedBy key items = items ↔ items.Pairwise fun a b => key a ≤ key b := by
  constructor
  · intro h
    rw [← h]
    exact pairwise_sortedBy key items
  · exact List.Pairwise.insertionSort_eq

@[simp] theorem sortedBy_sortedBy (key : α → κ) (items : List α) :
    sortedBy key (sortedBy key items) = sortedBy key items :=
  sortedBy_eq_self_iff.2 (pairwise_sortedBy key items)

/-- Sorting goes with a change of the items that keeps the keys. -/
theorem sortedBy_map {β : Type} (key : α → κ) (f : β → α) (items : List β) :
    sortedBy key (items.map f) = (sortedBy (fun item => key (f item)) items).map f :=
  (List.map_insertionSort _ _ f items fun _ _ _ _ => Iff.rfl).symm

/-! ## Two orders that agree -/

section

variable {τ ρ ι : Type} [LinearOrder τ] [LinearOrder ρ] [LinearOrder ι] {time : α → τ}
  {rank : α → ρ} {tie : α → ι}

/-- The items are ordered by time and strictly by rank, in one direction or the other. -/
def Agree (time : α → τ) (rank : α → ρ) (a b : α) : Prop :=
  (time a ≤ time b ∧ rank a < rank b) ∨ (time b ≤ time a ∧ rank b < rank a)

theorem Agree.symm {a b : α} (h : Agree time rank a b) : Agree time rank b a :=
  Or.symm h

/-- The ranks strictly increase in the order of time exactly when any two items agree. -/
theorem pairwise_rank_sortedBy_iff {items : List α} :
    ((sortedBy (fun a => toLex (time a, toLex (rank a, tie a))) items).map rank).Pairwise
        (fun a b => a < b) ↔ items.Pairwise (Agree time rank) := by
  have hperm := perm_sortedBy (fun a => toLex (time a, toLex (rank a, tie a))) items
  have hsorted := pairwise_sortedBy (fun a => toLex (time a, toLex (rank a, tie a))) items
  rw [← hperm.pairwise_iff Agree.symm, List.pairwise_map]
  constructor
  · intro hrank
    refine (hsorted.and hrank).imp fun ⟨hle, hlt⟩ => ?_
    refine Or.inl ⟨?_, hlt⟩
    rcases Prod.Lex.toLex_le_toLex.1 hle with htime | ⟨htime, _⟩
    · exact le_of_lt htime
    · exact le_of_eq htime
  · intro hagree
    refine (hsorted.and hagree).imp fun ⟨hle, hab⟩ => ?_
    rcases hab with ⟨_, hlt⟩ | ⟨htime', hlt⟩
    · exact hlt
    · -- In the other direction the times are equal, and the key then orders by rank.
      rcases Prod.Lex.toLex_le_toLex.1 hle with htime | ⟨_, hrest⟩
      · exact absurd htime (not_lt_of_ge htime')
      · rcases Prod.Lex.toLex_le_toLex.1 hrest with hrank | ⟨hrank, _⟩
        · exact hrank
        · exact absurd hlt (not_lt_of_ge (le_of_eq hrank))

end

/-- Between two items of a list ordered strictly by rank, the lower one has a successor that is
the higher one or below it. -/
theorem exists_succ_of_pairwise_lt {ρ : Type} [LinearOrder ρ] {rank : α → ρ} {items : List α}
    (h : items.Pairwise fun a b => rank a < rank b) {a b : α} (ha : a ∈ items) (hb : b ∈ items)
    (hlt : rank a < rank b) : ∃ before c after, items = before ++ a :: c :: after
      ∧ (c = b ∨ rank c < rank b) := by
  obtain ⟨before, after, rfl⟩ := List.append_of_mem ha
  rw [List.pairwise_append, List.pairwise_cons] at h
  obtain ⟨_, ⟨_, hafter⟩, hbefore⟩ := h
  have hmem : b ∈ after := by
    rcases List.mem_append.1 hb with hb | hb
    · exact absurd (hbefore b hb a List.mem_cons_self) (lt_asymm hlt)
    · rcases List.mem_cons.1 hb with rfl | hb
      · exact absurd hlt (lt_irrefl _)
      · exact hb
  cases after with
  | nil => cases hmem
  | cons c after =>
    refine ⟨before, c, after, rfl, ?_⟩
    rcases List.mem_cons.1 hmem with rfl | hmem
    · exact Or.inl rfl
    · exact Or.inr ((List.pairwise_cons.1 hafter).1 b hmem)

/-! ## Extremes -/

theorem max?_eq_some_iff {items : List κ} {m : κ} :
    items.max? = some m ↔ m ∈ items ∧ ∀ x ∈ items, x ≤ m :=
  haveI : Std.LawfulOrderMax κ := .of_max_le_iff (fun _ _ _ => max_le_iff) max_choice
  List.max?_eq_some_iff

theorem exists_max?_of_mem {items : List κ} {x : κ} (h : x ∈ items) :
    ∃ m, items.max? = some m ∧ x ≤ m := by
  cases hmax : items.max? with
  | none =>
    rw [List.max?_eq_none_iff] at hmax
    rw [hmax] at h
    cases h
  | some m => exact ⟨m, rfl, (max?_eq_some_iff.1 hmax).2 x h⟩

/-- Every item is below a bound exactly when the greatest is. -/
theorem forall_max?_lt_iff {items : List κ} {bound : κ} :
    (∀ m, items.max? = some m → m < bound) ↔ ∀ x ∈ items, x < bound := by
  constructor
  · intro h x hx
    obtain ⟨m, hm, hle⟩ := exists_max?_of_mem hx
    exact lt_of_le_of_lt hle (h m hm)
  · intro h m hm
    exact h m (max?_eq_some_iff.1 hm).1

theorem forall_max?_le_iff {items : List κ} {bound : κ} :
    (∀ m, items.max? = some m → m ≤ bound) ↔ ∀ x ∈ items, x ≤ bound := by
  constructor
  · intro h x hx
    obtain ⟨m, hm, hle⟩ := exists_max?_of_mem hx
    exact le_trans hle (h m hm)
  · intro h m hm
    exact h m (max?_eq_some_iff.1 hm).1

theorem min?_eq_some_iff {items : List κ} {m : κ} :
    items.min? = some m ↔ m ∈ items ∧ ∀ x ∈ items, m ≤ x :=
  haveI : Std.LawfulOrderMin κ := .of_le_min_iff (fun _ _ _ => le_min_iff) min_choice
  List.min?_eq_some_iff

theorem exists_min?_of_mem {items : List κ} {x : κ} (h : x ∈ items) :
    ∃ m, items.min? = some m ∧ m ≤ x := by
  cases hmin : items.min? with
  | none =>
    rw [List.min?_eq_none_iff] at hmin
    rw [hmin] at h
    cases h
  | some m => exact ⟨m, rfl, (min?_eq_some_iff.1 hmin).2 x h⟩

end Sorting
