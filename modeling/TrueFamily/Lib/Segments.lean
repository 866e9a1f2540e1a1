import Mathlib.Data.List.Basic
import Mathlib.Data.List.Range

/-!
# Consecutive segments

Items with a `first` number and a `length`, each starting where the one before it stops. They list
the numbers of an interval once and in order (`flatMap_range'_iff`), and the item that holds a
number is found by its first number alone: it is the last item that starts at or below the number
(`route`), also where the items are grouped (`route_bind_find`).
-/

namespace Segments

variable {α β : Type} (first length : α → ℕ)

/-- The items cover the numbers from `start` up to `stop`, each starting where the last one
stops. -/
def Consecutive : ℕ → List α → ℕ → Prop
  | start, [], stop => start = stop
  | start, item :: items, stop =>
    first item = start ∧ Consecutive (start + length item) items stop

instance : (start : ℕ) → (items : List α) → (stop : ℕ) →
    Decidable (Consecutive first length start items stop)
  | start, [], stop => inferInstanceAs (Decidable (start = stop))
  | start, item :: items, stop =>
    have := instDecidableConsecutive (start + length item) items stop
    inferInstanceAs (Decidable (first item = start ∧ _))

/-- The item holds the number. -/
def Holds (number : ℕ) (item : α) : Prop :=
  first item ≤ number ∧ number < first item + length item

instance (number : ℕ) : DecidablePred (Holds first length number) := fun _ => instDecidableAnd

/-- The item that holds the number. -/
def find (number : ℕ) (items : List α) : Option α :=
  items.find? fun item => decide (Holds first length number item)

/-- The last item whose key is at most the number. -/
def route (key : β → ℕ) (number : ℕ) : List β → Option β
  | [] => none
  | item :: items =>
    (route key number items).or (if key item ≤ number then some item else none)

variable {first length} {start stop number : ℕ} {items others : List α}

theorem consecutive_append : Consecutive first length start (items ++ others) stop ↔
    ∃ middle, Consecutive first length start items middle ∧
      Consecutive first length middle others stop := by
  induction items generalizing start with
  | nil => simp [Consecutive]
  | cons item items ih =>
    simp only [List.cons_append, Consecutive, ih]
    constructor
    · intro ⟨hfirst, middle, hitems, hothers⟩
      exact ⟨middle, ⟨hfirst, hitems⟩, hothers⟩
    · intro ⟨middle, ⟨hfirst, hitems⟩, hothers⟩
      exact ⟨hfirst, middle, hitems, hothers⟩

theorem Consecutive.le (h : Consecutive first length start items stop) : start ≤ stop := by
  induction items generalizing start with
  | nil => exact Nat.le_of_eq h
  | cons item items ih => exact (Nat.le_add_right _ _).trans (ih h.2)

/-- The items stay inside the interval. -/
theorem Consecutive.bounds (h : Consecutive first length start items stop) {item : α}
    (hmem : item ∈ items) : start ≤ first item ∧ first item + length item ≤ stop := by
  induction items generalizing start with
  | nil => cases hmem
  | cons head items ih =>
    obtain ⟨hfirst, htail⟩ := h
    rcases List.mem_cons.1 hmem with rfl | hmem
    · have := htail.le
      omega
    · obtain ⟨hlower, hupper⟩ := ih htail hmem
      omega

/-- Nothing outside the interval is found. -/
theorem Consecutive.find_eq_none (h : Consecutive first length start items stop)
    (houtside : number < start ∨ stop ≤ number) : find first length number items = none := by
  rw [find, List.find?_eq_none]
  intro item hmem hholds
  obtain ⟨hlower, hupper⟩ := h.bounds hmem
  have hholds : Holds first length number item := of_decide_eq_true hholds
  obtain ⟨hfrom, hto⟩ := hholds
  omega

theorem find_append : find first length number (items ++ others) =
    (find first length number items).or (find first length number others) :=
  List.find?_append ..

/-- Consecutive items list the numbers of the interval, once and in order. -/
theorem flatMap_range'_iff (hpos : ∀ item ∈ items, 0 < length item) :
    (items.flatMap fun item => List.range' (first item) (length item)) =
        List.range' start (stop - start) ∧ start ≤ stop ↔
      Consecutive first length start items stop := by
  induction items generalizing start with
  | nil =>
    simp only [List.flatMap_nil, Consecutive]
    rw [eq_comm (a := ([] : List ℕ)), List.range'_eq_nil_iff]
    omega
  | cons item items ih =>
    have hlength := hpos item List.mem_cons_self
    rw [List.flatMap_cons, Consecutive,
      ← ih fun other hmem => hpos other (List.mem_cons_of_mem _ hmem)]
    constructor
    · intro ⟨hlist, hle⟩
      have hcount := congrArg List.length hlist
      rw [List.length_append, List.length_range', List.length_range'] at hcount
      have hfirst : first item = start := by
        obtain ⟨n, hn⟩ : ∃ n, length item = n + 1 := ⟨length item - 1, by omega⟩
        obtain ⟨m, hm⟩ : ∃ m, stop - start = m + 1 := ⟨stop - start - 1, by omega⟩
        rw [hn, hm, List.range'_succ, List.range'_succ, List.cons_append] at hlist
        exact (List.cons.inj hlist).1
      have hsplit : stop - start = length item + (stop - (start + length item)) := by omega
      rw [hfirst, hsplit, ← List.range'_append_1] at hlist
      exact ⟨hfirst, List.append_cancel_left hlist, by omega⟩
    · intro ⟨hfirst, hlist, hle⟩
      have hsplit : stop - start = length item + (stop - (start + length item)) := by omega
      rw [hlist, hfirst, hsplit, ← List.range'_append_1]
      exact ⟨rfl, by omega⟩

/-- A group of consecutive items is consecutive. -/
theorem Consecutive.group {entries : List β} {group : β → List α}
    (h : Consecutive first length start (entries.flatMap group) stop) {entry : β}
    (hmem : entry ∈ entries) : ∃ lower upper,
      Consecutive first length lower (group entry) upper := by
  induction entries generalizing start with
  | nil => cases hmem
  | cons head entries ih =>
    rw [List.flatMap_cons] at h
    obtain ⟨middle, hhead, htail⟩ := consecutive_append.1 h
    rcases List.mem_cons.1 hmem with rfl | hmem
    · exact ⟨start, middle, hhead⟩
    · exact ih htail hmem

/-! ## Routing -/

theorem route_eq_none_iff {key : β → ℕ} {entries : List β} :
    route key number entries = none ↔ ∀ entry ∈ entries, number < key entry := by
  induction entries with
  | nil => simp [route]
  | cons entry entries ih =>
    rw [route, Option.or_eq_none_iff, ih, List.forall_mem_cons, and_comm]
    simp

theorem route_some {key : β → ℕ} {entries : List β} {entry : β}
    (h : route key number entries = some entry) : entry ∈ entries ∧ key entry ≤ number := by
  induction entries with
  | nil => cases h
  | cons head entries ih =>
    rw [route] at h
    rcases htail : route key number entries with _ | found
    · rw [htail, Option.none_or] at h
      split at h
      · rename_i hkey
        obtain rfl := Option.some.inj h
        exact ⟨List.mem_cons_self, hkey⟩
      · cases h
    · rw [htail, Option.some_or] at h
      obtain ⟨hmem, hkey⟩ := ih (htail.trans h)
      exact ⟨List.mem_cons_of_mem _ hmem, hkey⟩

/-- Groups of consecutive items, each filed under the first number of its first item: the item that
holds a number is in the group that the number is routed to. -/
theorem route_bind_find {key : β → ℕ} {group : β → List α} {entries : List β}
    (hgroup : ∀ entry ∈ entries, ∃ item items, group entry = item :: items ∧
      first item = key entry)
    (h : Consecutive first length start (entries.flatMap group) stop) :
    ((route key number entries).bind fun entry => find first length number (group entry)) =
      find first length number (entries.flatMap group) := by
  induction entries generalizing start with
  | nil => rfl
  | cons entry entries ih =>
    rw [List.flatMap_cons] at h ⊢
    obtain ⟨middle, hhead, htail⟩ := consecutive_append.1 h
    have hkeys : ∀ other ∈ entries, middle ≤ key other := by
      intro other hmem
      obtain ⟨item, items, heq, hfirst⟩ := hgroup other (List.mem_cons_of_mem _ hmem)
      rw [← hfirst]
      refine (htail.bounds (List.mem_flatMap.2 ⟨other, hmem, ?_⟩)).1
      rw [heq]
      exact List.mem_cons_self
    have ih := ih (fun other hmem => hgroup other (List.mem_cons_of_mem _ hmem)) htail
    rw [route, find_append]
    rcases hroute : route key number entries with _ | found
    · -- the number is below every later group
      have hbelow := route_eq_none_iff.1 hroute
      have hlater : find first length number (entries.flatMap group) = none := by
        rw [hroute] at ih
        exact ih.symm
      rw [hlater, Option.none_or, Option.or_none]
      split
      · rfl
      · rename_i hkey
        obtain ⟨item, items, heq, hfirst⟩ := hgroup entry List.mem_cons_self
        rw [heq] at hhead
        rw [heq, hhead.find_eq_none (Or.inl (by have := hhead.1; omega))]
        rfl
    · obtain ⟨hmem, hkey⟩ := route_some hroute
      have := hkeys found hmem
      rw [hhead.find_eq_none (Or.inr (by omega)), ← ih, hroute]
      rfl

end Segments
