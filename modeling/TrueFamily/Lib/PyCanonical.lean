import TrueFamily.Lib.JsonCanonical
import TrueFamily.Lib.PyJson

/-!
# Canonical JSON texts of strings of code points

The value with every object in the order of its keys, which `sort_keys=True` renders. Two values
that differ in the order of their entries only are the same mapping (`Same`). Sorting keeps every
string, and merging surrogate pairs shortens what it changes, so the canonical text gives back the
same value exactly when no string or key of it has a surrogate pair (`same_merge_iff`).
-/

namespace PyValue

open Sorting
open JsonValue (FloatText LawfulFloatText Text Printable isDigit)

variable {φ : Type}

/-! ## Keys in order -/

mutual

/-- The value with every object in the order of its keys. -/
def sortKeys : PyValue φ → PyValue φ
  | .arr items => .arr (sortItems items)
  | .obj entries => .obj (sortedBy Prod.fst (sortEntries entries))
  | value => value

def sortItems : List (PyValue φ) → List (PyValue φ)
  | [] => []
  | item :: items => sortKeys item :: sortItems items

def sortEntries : List (PyText × PyValue φ) → List (PyText × PyValue φ)
  | [] => []
  | (key, value) :: entries => (key, sortKeys value) :: sortEntries entries

end

theorem sortEntries_eq_map (entries : List (PyText × PyValue φ)) :
    sortEntries entries = entries.map fun entry => (entry.1, sortKeys entry.2) := by
  induction entries with
  | nil => rfl
  | cons entry entries ih => rw [sortEntries, ih, List.map_cons]

mutual

/-- Sorting twice is sorting once. -/
theorem sortKeys_sortKeys : ∀ v : PyValue φ, sortKeys (sortKeys v) = sortKeys v
  | .null => rfl
  | .bool _ => rfl
  | .int _ => rfl
  | .float _ => rfl
  | .str _ => rfl
  | .arr items => by rw [sortKeys, sortKeys, sortItems_sortItems items]
  | .obj entries => by
    have hfixed : sortEntries (sortedBy Prod.fst (sortEntries entries)) =
        sortedBy Prod.fst (sortEntries entries) := by
      rw [sortEntries_eq_map]
      conv_rhs => rw [← List.map_id (sortedBy Prod.fst (sortEntries entries))]
      refine List.map_congr_left fun entry hmem => ?_
      exact Prod.ext rfl (sortEntries_fixed entries entry (mem_sortedBy.1 hmem))
    rw [sortKeys, sortKeys, hfixed, sortedBy_eq_self_iff.2 (pairwise_sortedBy _ _)]

theorem sortItems_sortItems : ∀ items : List (PyValue φ),
    sortItems (sortItems items) = sortItems items
  | [] => rfl
  | item :: items => by
    rw [sortItems, sortItems, sortKeys_sortKeys item, sortItems_sortItems items]

theorem sortEntries_fixed : ∀ entries : List (PyText × PyValue φ),
    ∀ entry ∈ sortEntries entries, sortKeys entry.2 = entry.2
  | [] => fun _ hmem => by cases hmem
  | (key, value) :: entries => fun entry hmem => by
    rw [sortEntries, List.mem_cons] at hmem
    rcases hmem with rfl | hmem
    · exact sortKeys_sortKeys value
    · exact sortEntries_fixed entries entry hmem

end

/-- Equal as Python values: entries are not ordered. -/
def Same (v w : PyValue φ) : Prop := sortKeys v = sortKeys w

/-! ## Totals over strings and keys -/

mutual

/-- The sum of `f` over the strings and keys of the value. -/
def total (f : PyText → ℕ) : PyValue φ → ℕ
  | .str value => f value
  | .arr items => totalItems f items
  | .obj entries => totalEntries f entries
  | _ => 0

def totalItems (f : PyText → ℕ) : List (PyValue φ) → ℕ
  | [] => 0
  | item :: items => total f item + totalItems f items

def totalEntries (f : PyText → ℕ) : List (PyText × PyValue φ) → ℕ
  | [] => 0
  | (key, value) :: entries => f key + total f value + totalEntries f entries

end

theorem totalEntries_eq_sum (f : PyText → ℕ) (entries : List (PyText × PyValue φ)) :
    totalEntries f entries = (entries.map fun entry => f entry.1 + total f entry.2).sum := by
  induction entries with
  | nil => rfl
  | cons entry entries ih => rw [totalEntries, ih, List.map_cons, List.sum_cons]

theorem totalEntries_perm (f : PyText → ℕ) {entries other : List (PyText × PyValue φ)}
    (h : entries.Perm other) : totalEntries f entries = totalEntries f other := by
  rw [totalEntries_eq_sum, totalEntries_eq_sum]
  exact (h.map _).sum_eq

mutual

theorem total_sortKeys (f : PyText → ℕ) : ∀ v : PyValue φ, total f (sortKeys v) = total f v
  | .null => rfl
  | .bool _ => rfl
  | .int _ => rfl
  | .float _ => rfl
  | .str _ => rfl
  | .arr items => by rw [sortKeys, total, total, totalItems_sortItems f items]
  | .obj entries => by
    rw [sortKeys, total, total, totalEntries_perm f (perm_sortedBy _ _),
      totalEntries_sortEntries f entries]

theorem totalItems_sortItems (f : PyText → ℕ) : ∀ items : List (PyValue φ),
    totalItems f (sortItems items) = totalItems f items
  | [] => rfl
  | item :: items => by
    rw [sortItems, totalItems, totalItems, total_sortKeys f item, totalItems_sortItems f items]

theorem totalEntries_sortEntries (f : PyText → ℕ) : ∀ entries : List (PyText × PyValue φ),
    totalEntries f (sortEntries entries) = totalEntries f entries
  | [] => rfl
  | (key, value) :: entries => by
    rw [sortEntries, totalEntries, totalEntries, total_sortKeys f value,
      totalEntries_sortEntries f entries]

end

/-! ## Surrogate pairs -/

/-- The length of a string, and the one that merging its surrogate pairs leaves. -/
def mergedLength (text : PyText) : ℕ := (mergePairs text).length

mutual

theorem total_merge : ∀ v : PyValue φ, total List.length (merge v) = total mergedLength v
  | .null => rfl
  | .bool _ => rfl
  | .int _ => rfl
  | .float _ => rfl
  | .str _ => rfl
  | .arr items => by rw [merge, total, total, totalItems_mergeItems items]
  | .obj entries => by rw [merge, total, total, totalEntries_mergeEntries entries]

theorem totalItems_mergeItems : ∀ items : List (PyValue φ),
    totalItems List.length (mergeItems items) = totalItems mergedLength items
  | [] => rfl
  | item :: items => by
    rw [mergeItems, totalItems, totalItems, total_merge item, totalItems_mergeItems items]

theorem totalEntries_mergeEntries : ∀ entries : List (PyText × PyValue φ),
    totalEntries List.length (mergeEntries entries) = totalEntries mergedLength entries
  | [] => rfl
  | (key, value) :: entries => by
    rw [mergeEntries, totalEntries, totalEntries, total_merge value,
      totalEntries_mergeEntries entries, mergedLength]

end

mutual

theorem total_mergedLength_le : ∀ v : PyValue φ, total mergedLength v ≤ total List.length v
  | .null => Nat.le_refl _
  | .bool _ => Nat.le_refl _
  | .int _ => Nat.le_refl _
  | .float _ => Nat.le_refl _
  | .str value => length_mergePairs_le value
  | .arr items => totalItems_mergedLength_le items
  | .obj entries => totalEntries_mergedLength_le entries

theorem totalItems_mergedLength_le : ∀ items : List (PyValue φ),
    totalItems mergedLength items ≤ totalItems List.length items
  | [] => Nat.le_refl _
  | item :: items =>
    Nat.add_le_add (total_mergedLength_le item) (totalItems_mergedLength_le items)

theorem totalEntries_mergedLength_le : ∀ entries : List (PyText × PyValue φ),
    totalEntries mergedLength entries ≤ totalEntries List.length entries
  | [] => Nat.le_refl _
  | (key, value) :: entries =>
    Nat.add_le_add (Nat.add_le_add (length_mergePairs_le key) (total_mergedLength_le value))
      (totalEntries_mergedLength_le entries)

end

mutual

/-- The strings and keys of the value. -/
def strings : PyValue φ → List PyText
  | .str value => [value]
  | .arr items => stringsOfItems items
  | .obj entries => stringsOfEntries entries
  | _ => []

def stringsOfItems : List (PyValue φ) → List PyText
  | [] => []
  | item :: items => strings item ++ stringsOfItems items

def stringsOfEntries : List (PyText × PyValue φ) → List PyText
  | [] => []
  | (key, value) :: entries => key :: (strings value ++ stringsOfEntries entries)

end

mutual

theorem total_eq_sum (f : PyText → ℕ) : ∀ v : PyValue φ, total f v = ((strings v).map f).sum
  | .null => rfl
  | .bool _ => rfl
  | .int _ => rfl
  | .float _ => rfl
  | .str value => by simp [total, strings]
  | .arr items => by rw [total, strings, totalItems_eq_sum f items]
  | .obj entries => by rw [total, strings, totalEntries_eq_sum_strings f entries]

theorem totalItems_eq_sum (f : PyText → ℕ) : ∀ items : List (PyValue φ),
    totalItems f items = ((stringsOfItems items).map f).sum
  | [] => rfl
  | item :: items => by
    rw [totalItems, stringsOfItems, List.map_append, List.sum_append, total_eq_sum f item,
      totalItems_eq_sum f items]

theorem totalEntries_eq_sum_strings (f : PyText → ℕ) : ∀ entries : List (PyText × PyValue φ),
    totalEntries f entries = ((stringsOfEntries entries).map f).sum
  | [] => rfl
  | (key, value) :: entries => by
    rw [totalEntries, stringsOfEntries, List.map_cons, List.map_append, List.sum_cons,
      List.sum_append, total_eq_sum f value, totalEntries_eq_sum_strings f entries, Nat.add_assoc]

end

/-- No string or key of the value has a surrogate pair. -/
def NoPairs (v : PyValue φ) : Prop := ∀ text ∈ strings v, Unpaired text

theorem unpaired_iff (text : PyText) : Unpaired text ↔ mergedLength text = text.length :=
  ⟨fun h => congrArg List.length (mergePairs_of_unpaired h), unpaired_of_length⟩

theorem sum_mergedLength_le (texts : List PyText) :
    (texts.map mergedLength).sum ≤ (texts.map List.length).sum := by
  induction texts with
  | nil => exact Nat.le_refl _
  | cons text texts ih =>
    rw [List.map_cons, List.map_cons, List.sum_cons, List.sum_cons]
    exact Nat.add_le_add (length_mergePairs_le text) ih

theorem noPairs_iff (v : PyValue φ) : NoPairs v ↔ total mergedLength v = total List.length v := by
  rw [NoPairs, total_eq_sum, total_eq_sum]
  induction strings v with
  | nil => simp
  | cons text texts ih =>
    have htext : mergedLength text ≤ text.length := length_mergePairs_le text
    have htexts := sum_mergedLength_le texts
    rw [List.forall_mem_cons, ih, unpaired_iff, List.map_cons, List.map_cons, List.sum_cons,
      List.sum_cons]
    omega

mutual

/-- Merging changes nothing where there are no surrogate pairs. -/
theorem merge_eq_self : ∀ {v : PyValue φ}, total mergedLength v = total List.length v →
    merge v = v
  | .null, _ => rfl
  | .bool _, _ => rfl
  | .int _, _ => rfl
  | .float _, _ => rfl
  | .str value, h => by rw [merge, mergePairs_of_unpaired (unpaired_of_length h)]
  | .arr items, h => by rw [merge, mergeItems_eq_self items h]
  | .obj entries, h => by rw [merge, mergeEntries_eq_self entries h]

theorem mergeItems_eq_self : ∀ items : List (PyValue φ),
    totalItems mergedLength items = totalItems List.length items → mergeItems items = items
  | [], _ => rfl
  | item :: items, h => by
    have hitem := total_mergedLength_le item
    have hitems := totalItems_mergedLength_le items
    rw [totalItems, totalItems] at h
    rw [mergeItems, merge_eq_self (v := item) (by omega),
      mergeItems_eq_self items (by omega)]

theorem mergeEntries_eq_self : ∀ entries : List (PyText × PyValue φ),
    totalEntries mergedLength entries = totalEntries List.length entries →
      mergeEntries entries = entries
  | [], _ => rfl
  | (key, value) :: entries, h => by
    have hkey : mergedLength key ≤ key.length := length_mergePairs_le key
    have hvalue := total_mergedLength_le value
    have hentries := totalEntries_mergedLength_le entries
    rw [totalEntries, totalEntries] at h
    have hunpaired : Unpaired key := unpaired_of_length (show mergedLength key = _ by omega)
    rw [mergeEntries, mergePairs_of_unpaired hunpaired,
      merge_eq_self (v := value) (by omega),
      mergeEntries_eq_self entries (by omega)]

end

/-- What is read back from the canonical text is the same value exactly when no string or key has
a surrogate pair. -/
theorem same_merge_iff (v : PyValue φ) : Same (merge (sortKeys v)) v ↔ NoPairs v := by
  rw [noPairs_iff]
  constructor
  · intro h
    have htotal := congrArg (total List.length) h
    rw [total_sortKeys, total_sortKeys, total_merge, total_sortKeys] at htotal
    exact htotal
  · intro h
    have hsorted : total mergedLength (sortKeys v) = total List.length (sortKeys v) := by
      rw [total_sortKeys, total_sortKeys]
      exact h
    rw [Same, merge_eq_self hsorted, sortKeys_sortKeys]

/-! ## Finite floats -/

section Finite

variable [FloatText φ]

theorem finiteEntries_iff {entries : List (PyText × PyValue φ)} :
    FiniteEntries entries ↔ ∀ entry ∈ entries, Finite entry.2 := by
  induction entries with
  | nil => simp [FiniteEntries]
  | cons entry entries ih => rw [FiniteEntries, ih, List.forall_mem_cons]

theorem finiteItems_iff {items : List (PyValue φ)} :
    FiniteItems items ↔ ∀ item ∈ items, Finite item := by
  induction items with
  | nil => simp [FiniteItems]
  | cons item items ih => rw [FiniteItems, ih, List.forall_mem_cons]

mutual

theorem Finite.sortKeys : ∀ {v : PyValue φ}, Finite v → Finite (PyValue.sortKeys v)
  | .null, _ => trivial
  | .bool _, _ => trivial
  | .int _, _ => trivial
  | .float _, h => h
  | .str _, _ => trivial
  | .arr items, h => FiniteItems.sortItems (show FiniteItems items from h)
  | .obj entries, h => by
    have hentries := FiniteEntries.sortEntries (show FiniteEntries entries from h)
    rw [PyValue.sortKeys, Finite, finiteEntries_iff]
    exact fun entry hmem => finiteEntries_iff.1 hentries entry (mem_sortedBy.1 hmem)

theorem FiniteItems.sortItems : ∀ {items : List (PyValue φ)}, FiniteItems items →
    FiniteItems (PyValue.sortItems items)
  | [], _ => trivial
  | _ :: _, h => ⟨Finite.sortKeys h.1, FiniteItems.sortItems h.2⟩

theorem FiniteEntries.sortEntries : ∀ {entries : List (PyText × PyValue φ)},
    FiniteEntries entries → FiniteEntries (PyValue.sortEntries entries)
  | [], _ => trivial
  | (_, _) :: _, h =>
    ⟨Finite.sortKeys h.1, FiniteEntries.sortEntries h.2⟩

end

end Finite

/-! ## The texts are printable ASCII -/

theorem printable_of_isDigit {c : Char} (h : isDigit c = true) : Printable c := by
  unfold isDigit at h
  rw [decide_eq_true_iff] at h
  have hlow : '0'.toNat ≤ c.toNat := h.1
  have hhigh : c.toNat ≤ '9'.toNat := h.2
  exact ⟨Nat.le_trans (by decide) hlow, Nat.le_trans hhigh (by decide)⟩

/-- A float literal is printable. -/
theorem printable_of_isFloatLiteral {text : Text} (h : JsonValue.IsFloatLiteral text) :
    ∀ c ∈ text, Printable c := by
  obtain ⟨sign, whole, fraction, exponent, rfl, hsign, hwhole, hfraction, hexponent, -⟩ := h
  intro c hmem
  simp only [List.mem_append] at hmem
  rcases hmem with hmem | hmem | hmem | hmem
  · rcases hsign with rfl | rfl
    · cases hmem
    · rw [List.mem_singleton.1 hmem]
      decide
  · rcases hwhole with rfl | ⟨d, digits, rfl, hd, hdigits⟩
    · rw [List.mem_singleton.1 hmem]
      decide
    · rcases List.mem_cons.1 hmem with rfl | hmem
      · refine printable_of_isDigit ?_
        unfold isDigit
        rw [decide_eq_true_iff]
        exact ⟨Char.le_trans (show '0' ≤ '1' by decide) hd.1, hd.2⟩
      · exact printable_of_isDigit (hdigits c hmem)
  · rcases hfraction with rfl | ⟨digits, rfl, _, hdigits⟩
    · cases hmem
    · rcases List.mem_cons.1 hmem with rfl | hmem
      · decide
      · exact printable_of_isDigit (hdigits c hmem)
  · rcases hexponent with rfl | ⟨d, mark, digits, rfl, hd, hmark, _, hdigits⟩
    · cases hmem
    · rcases List.mem_cons.1 hmem with rfl | hmem
      · rcases hd with rfl | rfl <;> decide
      · rcases List.mem_append.1 hmem with hmem | hmem
        · rcases hmark with rfl | rfl | rfl
          · cases hmem
          · rw [List.mem_singleton.1 hmem]
            decide
          · rw [List.mem_singleton.1 hmem]
            decide
        · exact printable_of_isDigit (hdigits c hmem)

/-- A rendered code point is printable. -/
theorem printable_escapePoint (c : CodePoint) : ∀ d ∈ escapePoint c, Printable d := by
  unfold escapePoint
  cases hshort : shortEscape c with
  | some letter =>
    have hletter : Printable letter := by
      unfold shortEscape at hshort
      split_ifs at hshort <;>
      · cases hshort
        decide
    simp only [List.forall_mem_cons]
    exact ⟨by decide, hletter, fun _ h => by cases h⟩
  | none =>
    simp only
    split_ifs with hprintable hplane
    · intro d hd
      rw [List.mem_singleton.1 hd, Printable, toNat_ofNat c.val (by omega)]
      exact hprintable
    · exact JsonValue.printable_unicodeEscape _
    · intro d hd
      rcases List.mem_append.1 hd with hd | hd
      · exact JsonValue.printable_unicodeEscape _ d hd
      · exact JsonValue.printable_unicodeEscape _ d hd

theorem printable_stringTail (text : PyText) : ∀ d ∈ stringTail text, Printable d := by
  intro d hd
  rcases List.mem_append.1 hd with hd | hd
  · obtain ⟨c, _, hd⟩ := List.mem_flatMap.1 hd
    exact printable_escapePoint c d hd
  · rw [List.mem_singleton.1 hd]
    decide

section Render

variable [FloatText φ]

mutual

/-- The text of a value is printable ASCII. -/
theorem printable_render [LawfulFloatText φ] : ∀ {v : PyValue φ}, Finite v →
    ∀ c ∈ render v, Printable c
  | .null, _ => by rw [render]; simp [Printable]
  | .bool true, _ => by rw [render]; simp [Printable]
  | .bool false, _ => by rw [render]; simp [Printable]
  | .int value, _ => by rw [render]; exact JsonValue.printable_intText value
  | .float value, h => by
    rw [render]
    exact printable_of_isFloatLiteral (LawfulFloatText.literal value h)
  | .str value, _ => by
    rw [render, List.forall_mem_cons]
    exact ⟨by decide, printable_stringTail value⟩
  | .arr [], _ => by rw [render]; simp [Printable]
  | .arr (item :: items), h => by
    rw [render, List.forall_mem_cons, List.forall_mem_append]
    exact ⟨by decide, printable_render (v := item) h.1, printable_renderItems h.2⟩
  | .obj [], _ => by rw [render]; simp [Printable]
  | .obj ((key, value) :: entries), h => by
    rw [render, List.forall_mem_cons, List.forall_mem_cons, List.forall_mem_append,
      List.forall_mem_cons, List.forall_mem_append]
    exact ⟨by decide, by decide, printable_stringTail key, by decide,
      printable_render (v := value) h.1, printable_renderEntries h.2⟩

theorem printable_renderItems [LawfulFloatText φ] : ∀ {items : List (PyValue φ)},
    FiniteItems items →
    ∀ c ∈ renderItems items, Printable c
  | [], _ => by rw [renderItems]; simp [Printable]
  | item :: items, h => by
    rw [renderItems, List.forall_mem_cons, List.forall_mem_append]
    exact ⟨by decide, printable_render (v := item) h.1, printable_renderItems h.2⟩

theorem printable_renderEntries [LawfulFloatText φ] : ∀ {entries : List (PyText × PyValue φ)},
    FiniteEntries entries → ∀ c ∈ renderEntries entries, Printable c
  | [], _ => by rw [renderEntries]; simp [Printable]
  | (key, value) :: entries, h => by
    rw [renderEntries, List.forall_mem_cons, List.forall_mem_cons, List.forall_mem_append,
      List.forall_mem_cons, List.forall_mem_append]
    exact ⟨by decide, by decide, printable_stringTail key, by decide,
      printable_render (v := value) h.1, printable_renderEntries h.2⟩

end

end Render

end PyValue
