import TrueFamily.Lib.JsonCanonical
import TrueFamily.Lib.Unicode

/-!
# How long a text is

A bound on the UTF-8 bytes of the Unicode text of a value, computed from the value: four bytes for
a character of a string, and the digits of an integer. The bound does not depend on the order of
the keys, so it holds of the canonical text.
-/

namespace JsonValue

open Sorting Unicode

variable {φ : Type}

mutual

/-- A bound on the bytes of the text of a value without floats. -/
def sizeBound : JsonValue φ → ℕ
  | .null => 4
  | .bool _ => 5
  | .int value => (intText value).length
  | .float _ => 0
  | .str value => 4 * value.length + 2
  | .arr items => sizeItems items + 2
  | .obj entries => sizeEntries entries + 2

def sizeItems : List (JsonValue φ) → ℕ
  | [] => 0
  | item :: items => sizeBound item + 1 + sizeItems items

def sizeEntries : List (List Char × JsonValue φ) → ℕ
  | [] => 0
  | (key, value) :: entries => 4 * key.length + 4 + sizeBound value + sizeEntries entries

end

theorem sizeEntries_eq_sum (entries : List (List Char × JsonValue φ)) :
    sizeEntries entries =
      (entries.map fun entry => 4 * entry.1.length + 4 + sizeBound entry.2).sum := by
  induction entries with
  | nil => rfl
  | cons entry entries ih => rw [sizeEntries, ih, List.map_cons, List.sum_cons]

theorem sizeEntries_perm {entries other : List (List Char × JsonValue φ)}
    (h : entries.Perm other) : sizeEntries entries = sizeEntries other := by
  rw [sizeEntries_eq_sum, sizeEntries_eq_sum]
  exact (h.map _).sum_eq

mutual

/-- The order of the keys does not change the bound. -/
theorem sizeBound_sortKeys : ∀ v : JsonValue φ, sizeBound (sortKeys v) = sizeBound v
  | .null => rfl
  | .bool _ => rfl
  | .int _ => rfl
  | .float _ => rfl
  | .str _ => rfl
  | .arr items => by rw [sortKeys, sizeBound, sizeBound, sizeItems_sortItems items]
  | .obj entries => by
    rw [sortKeys, sizeBound, sizeBound, sizeEntries_perm (perm_sortedBy _ _),
      sizeEntries_sortEntries entries]

theorem sizeItems_sortItems : ∀ items : List (JsonValue φ),
    sizeItems (sortItems items) = sizeItems items
  | [] => rfl
  | item :: items => by
    rw [sortItems, sizeItems, sizeItems, sizeBound_sortKeys item, sizeItems_sortItems items]

theorem sizeEntries_sortEntries : ∀ entries : List (List Char × JsonValue φ),
    sizeEntries (sortEntries entries) = sizeEntries entries
  | [] => rfl
  | (key, value) :: entries => by
    rw [sortEntries, sizeEntries, sizeEntries, sizeBound_sortKeys value,
      sizeEntries_sortEntries entries]

end

/-! ## The bytes of a text -/

/-- A text without control characters. -/
def Visible (text : List Char) : Prop := ∀ c ∈ text, 0x20 ≤ c.toNat

/-- The texts of a value have no control characters. -/
def VisibleTexts : JsonValue φ → Prop
  | .str text => Visible text
  | .obj entries => ∀ entry ∈ entries, Visible entry.1
  | .float _ => False
  | _ => True

theorem length_utf8Char_le (c : Char) : (utf8Char c).length ≤ 4 := by
  unfold utf8Char
  split_ifs <;> simp

@[simp] theorem utf8_append (text other : List Char) :
    utf8 (text ++ other) = utf8 text ++ utf8 other :=
  List.flatMap_append

/-- A printable character is one byte. -/
theorem length_utf8Char_of_printable {c : Char} (hc : Printable c) : (utf8Char c).length = 1 := by
  have hlt : c.toNat < 0x80 := by
    have := hc.2
    omega
  rw [utf8Char, if_pos hlt]
  rfl

theorem length_utf8_of_printable {text : List Char} (h : ∀ c ∈ text, Printable c) :
    (utf8 text).length = text.length := by
  induction text with
  | nil => rfl
  | cons c text ih =>
    rw [utf8_cons, List.length_append, length_utf8Char_of_printable (h c List.mem_cons_self),
      ih fun d hmem => h d (List.mem_cons_of_mem _ hmem), List.length_cons, Nat.add_comm]

theorem length_utf8_rawChar {c : Char} (hc : 0x20 ≤ c.toNat) : (utf8 (rawChar c)).length ≤ 4 := by
  unfold rawChar
  cases hshort : shortEscape c with
  | some letter =>
    have hprintable : ∀ d ∈ ['\x5c', letter], Printable d := by
      simp only [List.forall_mem_cons]
      exact ⟨by decide, printable_of_shortEscape hshort, fun _ h => by cases h⟩
    simp only
    rw [length_utf8_of_printable hprintable]
    exact (by omega : 2 ≤ 4)
  | none =>
    simp only
    rw [if_pos hc, utf8_cons, utf8_nil, List.append_nil]
    exact length_utf8Char_le c

theorem length_utf8_rawTail {text : List Char} (h : Visible text) :
    (utf8 (rawTail text)).length ≤ 4 * text.length + 1 := by
  have hquote : (utf8 ['\x22']).length = 1 := by decide
  rw [rawTail, utf8_append, List.length_append, hquote]
  have hbody : (utf8 (text.flatMap rawChar)).length ≤ 4 * text.length := by
    induction text with
    | nil => exact le_refl _
    | cons c text ih =>
      have hchar := length_utf8_rawChar (h c List.mem_cons_self)
      have htail := ih fun d hmem => h d (List.mem_cons_of_mem _ hmem)
      rw [List.flatMap_cons, utf8_append, List.length_append, List.length_cons]
      omega
  omega

theorem length_utf8_cons_of_printable {c : Char} (hc : Printable c) (text : List Char) :
    (utf8 (c :: text)).length = (utf8 text).length + 1 := by
  rw [utf8_cons, List.length_append, length_utf8Char_of_printable hc, Nat.add_comm]

section

variable [FloatText φ]

mutual

/-- The bytes of a text are within the bound. -/
theorem length_utf8_renderRaw : ∀ v : JsonValue φ, Everywhere VisibleTexts v →
    (utf8 (renderRaw v)).length ≤ sizeBound v
  | .null, _ => by rw [renderRaw, sizeBound]; decide
  | .bool true, _ => by rw [renderRaw, sizeBound]; decide
  | .bool false, _ => by rw [renderRaw, sizeBound]; decide
  | .int value, _ => by
    rw [renderRaw, sizeBound, length_utf8_of_printable (printable_intText value)]
  | .float _, h => by
    have := h.self
    cases this
  | .str value, h => by
    have hvisible : Visible value := h.self
    have htail := length_utf8_rawTail hvisible
    rw [renderRaw, sizeBound, length_utf8_cons_of_printable (by decide)]
    omega
  | .arr [], _ => by rw [renderRaw, sizeBound, sizeItems]; decide
  | .arr (item :: items), h => by
    have hitem := length_utf8_renderRaw item (h.child List.mem_cons_self)
    have hitems := length_utf8_renderRawItems items fun child hmem =>
      h.child (List.mem_cons_of_mem _ hmem)
    rw [renderRaw, sizeBound, sizeItems, length_utf8_cons_of_printable (by decide), utf8_append,
      List.length_append]
    omega
  | .obj [], _ => by rw [renderRaw, sizeBound, sizeEntries]; decide
  | .obj ((key, value) :: entries), h => by
    have hkeys : ∀ entry ∈ (key, value) :: entries, Visible entry.1 := h.self
    have hkey := length_utf8_rawTail (hkeys _ List.mem_cons_self)
    have hvalue := length_utf8_renderRaw value (h.child List.mem_cons_self)
    have hentries := length_utf8_renderRawEntries entries
      (fun entry hmem => hkeys entry (List.mem_cons_of_mem _ hmem))
      fun child hmem => h.child (List.mem_cons_of_mem _ hmem)
    simp only at hkey
    rw [renderRaw, sizeBound, sizeEntries, length_utf8_cons_of_printable (by decide),
      length_utf8_cons_of_printable (by decide), utf8_append, List.length_append,
      length_utf8_cons_of_printable (by decide), utf8_append, List.length_append]
    omega

theorem length_utf8_renderRawItems : ∀ items : List (JsonValue φ),
    (∀ item ∈ items, Everywhere VisibleTexts item) →
    (utf8 (renderRawItems items)).length ≤ sizeItems items + 1
  | [], _ => by rw [renderRawItems, sizeItems]; decide
  | item :: items, h => by
    have hitem := length_utf8_renderRaw item (h item List.mem_cons_self)
    have hitems := length_utf8_renderRawItems items fun child hmem =>
      h child (List.mem_cons_of_mem _ hmem)
    rw [renderRawItems, sizeItems, length_utf8_cons_of_printable (by decide), utf8_append,
      List.length_append]
    omega

theorem length_utf8_renderRawEntries : ∀ entries : List (List Char × JsonValue φ),
    (∀ entry ∈ entries, Visible entry.1) →
    (∀ value ∈ entries.map Prod.snd, Everywhere VisibleTexts value) →
    (utf8 (renderRawEntries entries)).length ≤ sizeEntries entries + 1
  | [], _, _ => by rw [renderRawEntries, sizeEntries]; decide
  | (key, value) :: entries, hkeys, h => by
    have hkey := length_utf8_rawTail (hkeys _ List.mem_cons_self)
    have hvalue := length_utf8_renderRaw value (h value List.mem_cons_self)
    have hentries := length_utf8_renderRawEntries entries
      (fun entry hmem => hkeys entry (List.mem_cons_of_mem _ hmem))
      fun child hmem => h child (List.mem_cons_of_mem _ hmem)
    simp only at hkey
    rw [renderRawEntries, sizeEntries, length_utf8_cons_of_printable (by decide),
      length_utf8_cons_of_printable (by decide), utf8_append, List.length_append,
      length_utf8_cons_of_printable (by decide), utf8_append, List.length_append]
    omega

end

/-- The bytes of a canonical text are within the bound of the value. -/
theorem length_utf8_sortKeys {v : JsonValue φ} (h : Everywhere VisibleTexts v) :
    (utf8 (renderRaw (sortKeys v))).length ≤ sizeBound v := by
  have hsort : ∀ v : JsonValue φ, VisibleTexts v → VisibleTexts (sortKeys v) := by
    intro v hv
    cases v with
    | obj entries =>
      intro entry hmem
      obtain ⟨original, horiginal, rfl⟩ := List.mem_map.1
        (show entry ∈ entries.map fun entry => (entry.1, sortKeys entry.2) by
          rw [← sortEntries_eq_map]
          exact mem_sortedBy.1 hmem)
      exact hv original horiginal
    | _ => exact hv
  rw [← sizeBound_sortKeys v]
  exact length_utf8_renderRaw _ (h.sortKeys hsort)

end

end JsonValue
