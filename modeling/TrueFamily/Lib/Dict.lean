import Mathlib.Data.List.Basic
import Mathlib.Data.List.Induction
import Mathlib.Data.List.Nodup
import Mathlib.Tactic.Common

/-!
# Insertion-ordered dictionaries

The finite maps of a scripting language: the entries keep the order in which their keys were
first inserted, and overwriting a key keeps its place. A value of `Dict` carries the proof
that its keys are distinct, so a lookup and an enumeration can never disagree.

Everything a program observes is given by `get?`; each operation has one lemma for the key it
touches and one for every other key. `groupBy` is the common
`groups.setdefault(key(x), []).append(x)` loop.
-/

/-- An insertion-ordered dictionary. -/
structure Dict (κ ν : Type) where
  entries : List (κ × ν)
  nodup_keys : (entries.map Prod.fst).Nodup

namespace Dict

variable {κ ν α : Type} [DecidableEq κ]

instance [DecidableEq ν] : DecidableEq (Dict κ ν) := fun a b =>
  decidable_of_iff (a.entries = b.entries) (by
    cases a; cases b; simp)

/-- `{}`. -/
def empty : Dict κ ν := ⟨[], List.nodup_nil⟩

instance : Inhabited (Dict κ ν) := ⟨empty⟩

/-- `d.get(k)`. -/
def get? (d : Dict κ ν) (k : κ) : Option ν :=
  (d.entries.find? fun e => decide (e.1 = k)).map Prod.snd

/-- `d[k] = v`: a known key keeps its place, a new one goes to the end. -/
def set (d : Dict κ ν) (k : κ) (v : ν) : Dict κ ν :=
  if h : k ∈ d.entries.map Prod.fst then
    ⟨d.entries.map fun e => if e.1 = k then (k, v) else e, by
      have heq : (d.entries.map fun e => if e.1 = k then (k, v) else e).map Prod.fst
          = d.entries.map Prod.fst := by
        rw [List.map_map]
        refine List.map_congr_left fun e _ => ?_
        simp only [Function.comp]
        split
        · rename_i he; exact he.symm
        · rfl
      rw [heq]; exact d.nodup_keys⟩
  else
    ⟨d.entries ++ [(k, v)], by
      rw [List.map_append, List.nodup_append]
      refine ⟨d.nodup_keys, by simp, ?_⟩
      rintro a ha b hb rfl
      simp only [List.map_cons, List.map_nil, List.mem_singleton] at hb
      exact h (hb ▸ ha)⟩

/-- `del d[k]`. -/
def erase (d : Dict κ ν) (k : κ) : Dict κ ν :=
  ⟨d.entries.filter fun e => decide (e.1 ≠ k),
    d.nodup_keys.sublist ((List.filter_sublist).map Prod.fst)⟩

/-- `d.keys()`. -/
def keys (d : Dict κ ν) : List κ := d.entries.map Prod.fst

/-- `d.values()`. -/
def values (d : Dict κ ν) : List ν := d.entries.map Prod.snd

/-! ## Lookups -/

@[simp] theorem get?_empty (k : κ) : (empty : Dict κ ν).get? k = none := rfl

theorem get?_eq_some_iff {d : Dict κ ν} {k : κ} {v : ν} :
    d.get? k = some v ↔ (k, v) ∈ d.entries := by
  obtain ⟨l, hl⟩ := d
  simp only [get?]
  induction l with
  | nil => simp
  | cons e l ih =>
    obtain ⟨a, b⟩ := e
    simp only [List.map_cons, List.nodup_cons] at hl
    by_cases h : a = k
    · subst h
      simp only [List.find?_cons_of_pos, decide_true, Option.map_some, Option.some.injEq,
        List.mem_cons, Prod.mk.injEq, true_and]
      constructor
      · exact fun h => Or.inl h.symm
      · rintro (h | h)
        · exact h.symm
        · exact absurd (List.mem_map_of_mem h) hl.1
    · rw [List.find?_cons_of_neg (by simpa using h), ih hl.2]
      simp only [List.mem_cons, Prod.mk.injEq]
      constructor
      · exact Or.inr
      · rintro (⟨rfl, -⟩ | h')
        · exact absurd rfl h
        · exact h'

theorem get?_eq_none_iff {d : Dict κ ν} {k : κ} :
    d.get? k = none ↔ k ∉ d.entries.map Prod.fst := by
  rw [get?, Option.map_eq_none_iff, List.find?_eq_none]
  simp only [List.mem_map, not_exists, not_and]
  constructor
  · rintro h e he rfl
    simpa using h e he
  · rintro h e he
    simpa using h e he

@[simp] theorem get?_set_self (d : Dict κ ν) (k : κ) (v : ν) : (d.set k v).get? k = some v := by
  rw [get?_eq_some_iff, set]
  split
  · rename_i h
    obtain ⟨e, he, rfl⟩ := List.mem_map.1 h
    exact List.mem_map.2 ⟨e, he, by simp⟩
  · simp

theorem get?_set_of_ne (d : Dict κ ν) {k k' : κ} (v : ν) (h : k' ≠ k) :
    (d.set k v).get? k' = d.get? k' := by
  refine Option.ext fun w => ?_
  rw [get?_eq_some_iff, get?_eq_some_iff, set]
  split
  · simp only [List.mem_map, Prod.exists]
    constructor
    · rintro ⟨a, b, hab, he⟩
      split at he
      · exact absurd (Prod.mk.inj he).1.symm h
      · rwa [← he]
    · intro hw
      exact ⟨k', w, hw, if_neg h⟩
  · simp only [List.mem_append, List.mem_singleton, Prod.mk.injEq]
    constructor
    · rintro (hw | ⟨rfl, -⟩)
      · exact hw
      · exact absurd rfl h
    · exact Or.inl

theorem get?_set (d : Dict κ ν) (k k' : κ) (v : ν) :
    (d.set k v).get? k' = if k' = k then some v else d.get? k' := by
  split
  · rename_i h; rw [h, get?_set_self]
  · rename_i h; rw [get?_set_of_ne d v h]

theorem get?_erase (d : Dict κ ν) (k k' : κ) :
    (d.erase k).get? k' = if k' = k then none else d.get? k' := by
  refine Option.ext fun w => ?_
  split
  · rename_i h
    rw [get?_eq_some_iff, erase]
    simp [h]
  · rename_i h
    rw [get?_eq_some_iff, get?_eq_some_iff, erase]
    simp [h]

@[simp] theorem get?_erase_self (d : Dict κ ν) (k : κ) : (d.erase k).get? k = none := by
  rw [get?_erase, if_pos rfl]

/-- A new key goes to the end. -/
theorem values_set_of_get?_eq_none {d : Dict κ ν} {k : κ} (h : d.get? k = none) (v : ν) :
    (d.set k v).values = d.values ++ [v] := by
  rw [set, dif_neg (get?_eq_none_iff.1 h), values, List.map_append]
  rfl

theorem mem_values_iff {d : Dict κ ν} {v : ν} : v ∈ d.values ↔ ∃ k, d.get? k = some v := by
  simp only [values, List.mem_map, Prod.exists, exists_eq_right, get?_eq_some_iff]

theorem mem_keys_iff {d : Dict κ ν} {k : κ} : k ∈ d.keys ↔ d.get? k ≠ none := by
  rw [ne_eq, get?_eq_none_iff, not_not, keys]

theorem mem_entries_iff {d : Dict κ ν} {e : κ × ν} : e ∈ d.entries ↔ d.get? e.1 = some e.2 :=
  get?_eq_some_iff.symm

/-! ## Comprehensions and groups -/

/-- `{key(x): value(x) for x in items}`: a later item overwrites an earlier one. -/
def comprehension (key : α → κ) (value : α → ν) (items : List α) : Dict κ ν :=
  items.foldl (fun d x => d.set (key x) (value x)) empty

theorem comprehension_concat (key : α → κ) (value : α → ν) (items : List α) (x : α) :
    comprehension key value (items ++ [x])
      = (comprehension key value items).set (key x) (value x) := by
  simp [comprehension]

/-- A comprehension looks up the last item of a key. -/
theorem get?_comprehension (key : α → κ) (value : α → ν) (items : List α) (k : κ) :
    (comprehension key value items).get? k
      = ((items.filter fun x => decide (key x = k)).getLast?).map value := by
  induction items using List.reverseRecOn with
  | nil => simp [comprehension]
  | append_singleton items x ih =>
    rw [comprehension_concat, get?_set, List.filter_append]
    split
    · rename_i hk
      simp [hk]
    · rename_i hk
      rw [ih]
      simp [Ne.symm hk]

/-- With distinct keys a comprehension looks up exactly its items. -/
theorem get?_comprehension_eq_some_iff {key : α → κ} {value : α → ν} {items : List α}
    (h : (items.map key).Nodup) {k : κ} {v : ν} :
    (comprehension key value items).get? k = some v ↔ ∃ x ∈ items, key x = k ∧ value x = v := by
  induction items using List.reverseRecOn with
  | nil => simp [comprehension]
  | append_singleton items x ih =>
    rw [List.map_append, List.nodup_append] at h
    rw [comprehension_concat, get?_set]
    have hx : ∀ y ∈ items, key y ≠ key x := fun y hy =>
      h.2.2 _ (List.mem_map_of_mem hy) _ (by simp)
    simp only [List.mem_append, List.mem_singleton]
    split
    · rename_i hk
      subst hk
      simp only [Option.some.injEq]
      constructor
      · exact fun hv => ⟨x, Or.inr rfl, rfl, hv⟩
      · rintro ⟨y, hy | rfl, hk, hv⟩
        · exact absurd hk (hx y hy)
        · exact hv
    · rename_i hk
      rw [ih h.1]
      constructor
      · rintro ⟨y, hy, hy'⟩
        exact ⟨y, Or.inl hy, hy'⟩
      · rintro ⟨y, hy | rfl, hk', hv⟩
        · exact ⟨y, hy, hk', hv⟩
        · exact absurd hk'.symm hk

theorem get?_comprehension_eq_none_iff {key : α → κ} {value : α → ν} {items : List α} {k : κ} :
    (comprehension key value items).get? k = none ↔ ∀ x ∈ items, key x ≠ k := by
  induction items using List.reverseRecOn with
  | nil => simp [comprehension]
  | append_singleton items x ih =>
    rw [comprehension_concat, get?_set]
    split
    · rename_i hk
      simp [hk]
    · rename_i hk
      rw [ih]
      constructor
      · intro h y hy
        rcases List.mem_append.1 hy with hy | hy
        · exact h y hy
        · rw [List.mem_singleton.1 hy]; exact fun he => hk he.symm
      · exact fun h y hy => h y (List.mem_append_left _ hy)

/-- `d.setdefault(k, []).append(x)`. -/
def appendTo (d : Dict κ (List α)) (k : κ) (x : α) : Dict κ (List α) :=
  d.set k ((d.get? k).getD [] ++ [x])

/-- The groups of equal key, each in order of occurrence. -/
def groupBy (key : α → κ) (items : List α) : Dict κ (List α) :=
  items.foldl (fun d x => d.appendTo (key x) x) empty

theorem groupBy_concat (key : α → κ) (items : List α) (x : α) :
    groupBy key (items ++ [x]) = (groupBy key items).appendTo (key x) x := by
  simp [groupBy]

/-- `groups.get(k, [])` is the sublist of the items with that key. -/
theorem getD_get?_groupBy (key : α → κ) (items : List α) (k : κ) :
    ((groupBy key items).get? k).getD [] = items.filter fun x => decide (key x = k) := by
  induction items using List.reverseRecOn with
  | nil => simp [groupBy]
  | append_singleton items x ih =>
    rw [groupBy_concat, appendTo, get?_set, List.filter_append]
    split
    · rename_i hk
      subst hk
      simp [ih]
    · rename_i hk
      rw [ih]
      simp [Ne.symm hk]

/-- No group is empty. -/
theorem ne_nil_of_get?_groupBy {key : α → κ} {items : List α} {k : κ} {group : List α}
    (h : (groupBy key items).get? k = some group) : group ≠ [] := by
  induction items using List.reverseRecOn with
  | nil => simp [groupBy] at h
  | append_singleton items x ih =>
    rw [groupBy_concat, appendTo, get?_set] at h
    split at h
    · rw [← Option.some.inj h]; simp
    · exact ih h

/-- The groups are the nonempty sublists of equal key. -/
theorem get?_groupBy_eq_some_iff {key : α → κ} {items : List α} {k : κ} {group : List α} :
    (groupBy key items).get? k = some group ↔
      group = items.filter (fun x => decide (key x = k)) ∧ group ≠ [] := by
  have hget := getD_get?_groupBy key items k
  constructor
  · intro h
    rw [h, Option.getD_some] at hget
    exact ⟨hget, ne_nil_of_get?_groupBy h⟩
  · rintro ⟨rfl, hne⟩
    cases h : (groupBy key items).get? k with
    | none => rw [h, Option.getD_none] at hget; exact absurd hget.symm hne
    | some g => rw [h, Option.getD_some] at hget; rw [hget]

/-! ## Assigning a list of entries -/

/-- `for k, v in entries: d[k] = v`. -/
def assign (d : Dict κ ν) (entries : List (κ × ν)) : Dict κ ν :=
  entries.foldl (fun d e => d.set e.1 e.2) d

@[simp] theorem assign_nil (d : Dict κ ν) : d.assign [] = d := rfl

@[simp] theorem assign_cons (d : Dict κ ν) (e : κ × ν) (entries : List (κ × ν)) :
    d.assign (e :: entries) = (d.set e.1 e.2).assign entries := rfl

theorem assign_append (d : Dict κ ν) (xs ys : List (κ × ν)) :
    d.assign (xs ++ ys) = (d.assign xs).assign ys := by
  unfold assign
  rw [List.foldl_append]

/-- With distinct keys: these entries, and the old ones of every other key. -/
theorem get?_assign_eq_some_iff {entries : List (κ × ν)} (h : (entries.map Prod.fst).Nodup)
    {d : Dict κ ν} {k : κ} {v : ν} :
    (d.assign entries).get? k = some v ↔
      (k, v) ∈ entries ∨ (k ∉ entries.map Prod.fst ∧ d.get? k = some v) := by
  induction entries generalizing d with
  | nil => simp
  | cons e entries ih =>
    simp only [List.map_cons, List.nodup_cons] at h
    rw [assign_cons, ih h.2, get?_set, List.map_cons, List.mem_cons, List.mem_cons]
    by_cases hk : k = e.1
    · subst hk
      have hnot : (e.1, v) ∉ entries := fun hmem => h.1 (List.mem_map.2 ⟨_, hmem, rfl⟩)
      simp [hnot, h.1, Prod.ext_iff, eq_comm]
    · have hne : (k, v) ≠ e := fun heq => hk (congrArg Prod.fst heq)
      simp [hk, hne]

theorem get?_assign_of_notMem {entries : List (κ × ν)} {d : Dict κ ν} {k : κ}
    (h : k ∉ entries.map Prod.fst) : (d.assign entries).get? k = d.get? k := by
  induction entries generalizing d with
  | nil => rfl
  | cons e entries ih =>
    rw [List.map_cons, List.mem_cons, not_or] at h
    rw [assign_cons, ih h.2, get?_set_of_ne _ _ h.1]

/-- Distinct new keys go to the end, in their order. -/
theorem entries_assign {entries : List (κ × ν)} {d : Dict κ ν}
    (h : ((d.entries ++ entries).map Prod.fst).Nodup) :
    (d.assign entries).entries = d.entries ++ entries := by
  induction entries generalizing d with
  | nil => exact (List.append_nil _).symm
  | cons e entries ih =>
    have hnew : e.1 ∉ d.entries.map Prod.fst := by
      rw [List.map_append, List.nodup_append'] at h
      exact fun hmem => h.2.2 hmem List.mem_cons_self
    have hset : (d.set e.1 e.2).entries = d.entries ++ [e] := by
      rw [set, dif_neg hnew]
    rw [assign_cons, ih (by rw [hset, List.append_assoc]; exact h), hset, List.append_assoc]
    rfl

/-- An assignment to a known key keeps every place. -/
theorem entries_set_of_mem {d : Dict κ ν} {k : κ} (h : k ∈ d.entries.map Prod.fst) (v : ν) :
    (d.set k v).entries = d.entries.map fun e => if e.1 = k then (k, v) else e := by
  rw [set, dif_pos h]

omit [DecidableEq κ] in
theorem ext_entries {d d' : Dict κ ν} (h : d.entries = d'.entries) : d = d' := by
  cases d
  cases d'
  cases h
  rfl

/-- Assigning a value and then the old one changes nothing. -/
theorem set_set_of_get?_eq {d : Dict κ ν} {k : κ} {old : ν} (h : d.get? k = some old) (v : ν) :
    (d.set k v).set k old = d := by
  have hmem : k ∈ d.entries.map Prod.fst := List.mem_map_of_mem (get?_eq_some_iff.1 h)
  have hmem' : k ∈ (d.set k v).entries.map Prod.fst :=
    List.mem_map_of_mem (get?_eq_some_iff.1 (get?_set_self d k v))
  refine ext_entries ?_
  rw [entries_set_of_mem hmem', entries_set_of_mem hmem, List.map_map]
  refine (List.map_congr_left fun e he => ?_).trans (List.map_id d.entries)
  by_cases hk : e.1 = k
  · have hvalue : e.2 = old := by
      have hget := get?_eq_some_iff.2 (show (e.1, e.2) ∈ d.entries from he)
      rw [hk, h, Option.some.injEq] at hget
      exact hget.symm
    simp only [Function.comp, if_pos hk, if_true, id]
    exact Prod.ext hk.symm hvalue.symm
  · simp only [Function.comp, if_neg hk, id]

theorem set_of_get?_eq {d : Dict κ ν} {k : κ} {old : ν} (h : d.get? k = some old) :
    d.set k old = d := by
  have hmem : k ∈ d.entries.map Prod.fst := List.mem_map_of_mem (get?_eq_some_iff.1 h)
  refine ext_entries ?_
  rw [entries_set_of_mem hmem]
  refine (List.map_congr_left fun e he => ?_).trans (List.map_id d.entries)
  by_cases hk : e.1 = k
  · have hvalue := get?_eq_some_iff.2 (show (e.1, e.2) ∈ d.entries from he)
    rw [hk, h, Option.some.injEq] at hvalue
    rw [if_pos hk]
    exact Prod.ext hk.symm hvalue
  · rw [if_neg hk]
    rfl

end Dict
