import Mathlib.Data.Char
import Mathlib.Data.List.Lex
import TrueFamily.Lib.Json
import TrueFamily.Lib.Sorting

/-!
# Canonical Unicode texts

`json.dumps` with `ensure_ascii=False`, and the value with every object in the order of its keys
that `sort_keys=True` renders. Escaping what is not printable ASCII in the Unicode text gives the
ASCII text (`asciiText_renderRaw`), so a value can be told from its Unicode text as well
(`renderRaw_injective`).
-/

namespace JsonValue

open Sorting

variable {φ : Type}

/-! ## Keys in order -/

mutual

/-- The value with every object in the order of its keys. -/
def sortKeys : JsonValue φ → JsonValue φ
  | .arr items => .arr (sortItems items)
  | .obj entries => .obj (sortedBy Prod.fst (sortEntries entries))
  | value => value

def sortItems : List (JsonValue φ) → List (JsonValue φ)
  | [] => []
  | item :: items => sortKeys item :: sortItems items

def sortEntries : List (Text × JsonValue φ) → List (Text × JsonValue φ)
  | [] => []
  | (key, value) :: entries => (key, sortKeys value) :: sortEntries entries

end

theorem sortItems_eq_map (items : List (JsonValue φ)) : sortItems items = items.map sortKeys := by
  induction items with
  | nil => rfl
  | cons item items ih => rw [sortItems, ih, List.map_cons]

theorem sortEntries_eq_map (entries : List (Text × JsonValue φ)) :
    sortEntries entries = entries.map fun entry => (entry.1, sortKeys entry.2) := by
  induction entries with
  | nil => rfl
  | cons entry entries ih => rw [sortEntries, ih, List.map_cons]

/-- What holds of every node whatever the order of its keys holds of the sorted value. -/
theorem Everywhere.sortKeys {p : JsonValue φ → Prop} (hsort : ∀ v, p v → p (sortKeys v))
    {v : JsonValue φ} (h : Everywhere p v) : Everywhere p (JsonValue.sortKeys v) := by
  induction h with
  | @mk v hv _ ih =>
    refine .mk (hsort v hv) fun child hmem => ?_
    cases v with
    | arr items =>
      rw [JsonValue.sortKeys, children, sortItems_eq_map] at hmem
      obtain ⟨item, hitem, rfl⟩ := List.mem_map.1 hmem
      exact ih item hitem
    | obj entries =>
      rw [JsonValue.sortKeys, children, sortEntries_eq_map] at hmem
      obtain ⟨sorted, hsorted, rfl⟩ := List.mem_map.1 hmem
      obtain ⟨entry, hentry, rfl⟩ := List.mem_map.1 (mem_sortedBy.1 hsorted)
      exact ih entry.2 (List.mem_map_of_mem hentry)
    | _ => cases hmem

/-! ## Unicode texts -/

/-- One character of a string, with `ensure_ascii=False`. -/
def rawChar (c : Char) : Text :=
  match shortEscape c with
  | some letter => ['\x5c', letter]
  | none => if 0x20 ≤ c.toNat then [c] else unicodeEscape c.toNat

/-- A string after its opening quotation mark. -/
def rawTail (s : Text) : Text := s.flatMap rawChar ++ ['\x22']

section

variable [FloatText φ]

mutual

/-- `json.dumps` with `ensure_ascii=False` and `separators=(",", ":")`. -/
def renderRaw : JsonValue φ → Text
  | .null => ['n', 'u', 'l', 'l']
  | .bool true => ['t', 'r', 'u', 'e']
  | .bool false => ['f', 'a', 'l', 's', 'e']
  | .int value => intText value
  | .float value => FloatText.repr value
  | .str value => '\x22' :: rawTail value
  | .arr [] => ['[', ']']
  | .arr (item :: items) => '[' :: (renderRaw item ++ renderRawItems items)
  | .obj [] => ['\x7b', '\x7d']
  | .obj ((key, value) :: entries) =>
    '\x7b' :: '\x22' :: (rawTail key ++ ':' :: (renderRaw value ++ renderRawEntries entries))

/-- The text after an item of a list. -/
def renderRawItems : List (JsonValue φ) → Text
  | [] => [']']
  | item :: items => ',' :: (renderRaw item ++ renderRawItems items)

/-- The text after an entry of an object. -/
def renderRawEntries : List (Text × JsonValue φ) → Text
  | [] => ['\x7d']
  | (key, value) :: entries =>
    ',' :: '\x22' :: (rawTail key ++ ':' :: (renderRaw value ++ renderRawEntries entries))

end

end

/-! ## The ASCII text of a Unicode text -/

def Printable (c : Char) : Prop := 0x20 ≤ c.toNat ∧ c.toNat ≤ 0x7e

instance : DecidablePred Printable := fun _ => instDecidableAnd

/-- A character of a text, escaped when it is not printable ASCII. -/
def asciiChar (c : Char) : Text := if Printable c then [c] else escapeChar c

def asciiText (text : Text) : Text := text.flatMap asciiChar

@[simp] theorem asciiText_append (text other : Text) :
    asciiText (text ++ other) = asciiText text ++ asciiText other :=
  List.flatMap_append

theorem asciiText_cons_of_printable {c : Char} (hc : Printable c) (text : Text) :
    asciiText (c :: text) = c :: asciiText text := by
  rw [asciiText, List.flatMap_cons, asciiChar, if_pos hc]
  rfl

theorem asciiText_of_printable {text : Text} (h : ∀ c ∈ text, Printable c) :
    asciiText text = text := by
  induction text with
  | nil => rfl
  | cons c text ih =>
    rw [asciiText_cons_of_printable (h c List.mem_cons_self),
      ih fun d hmem => h d (List.mem_cons_of_mem _ hmem)]

theorem printable_hexDigit : ∀ n < 16, Printable (hexDigit n) := by decide

theorem printable_unicodeEscape (n : ℕ) : ∀ c ∈ unicodeEscape n, Printable c := by
  have hdigit := fun m => printable_hexDigit (m % 16) (Nat.mod_lt _ (by omega))
  simp only [unicodeEscape, hexDigits, List.forall_mem_cons]
  exact ⟨by decide, by decide, hdigit _, hdigit _, hdigit _, hdigit _, fun _ h => by cases h⟩

theorem printable_of_shortEscape {c letter : Char} (h : shortEscape c = some letter) :
    Printable letter := by
  unfold shortEscape at h
  split_ifs at h <;>
  · cases h
    decide

theorem asciiText_rawChar (c : Char) : asciiText (rawChar c) = escapeChar c := by
  unfold rawChar
  cases hshort : shortEscape c with
  | some letter =>
    simp only
    rw [asciiText_of_printable]
    · rw [escapeChar, hshort]
    · simp only [List.forall_mem_cons]
      exact ⟨by decide, printable_of_shortEscape hshort, fun _ h => by cases h⟩
  | none =>
    simp only
    split_ifs with hspace
    · rw [asciiText, List.flatMap_singleton, asciiChar]
      split_ifs with hprintable
      · simp only [escapeChar, hshort]
        exact (if_pos hprintable).symm
      · rfl
    · rw [asciiText_of_printable (printable_unicodeEscape _)]
      simp only [escapeChar, hshort]
      rw [if_neg (by omega), if_pos (by omega)]

theorem asciiText_rawTail (s : Text) : asciiText (rawTail s) = stringTail s := by
  rw [rawTail, stringTail, asciiText_append]
  congr 1
  induction s with
  | nil => rfl
  | cons c s ih =>
    rw [List.flatMap_cons, List.flatMap_cons, asciiText_append, asciiText_rawChar, ih]

theorem printable_digitChar : ∀ d < 10, Printable (digitChar d) := by decide

theorem printable_natText (n : ℕ) : ∀ c ∈ natText n, Printable c := by
  unfold natText
  split_ifs with hzero
  · simp only [List.mem_singleton, forall_eq]
    decide
  · intro c hmem
    obtain ⟨d, hd, rfl⟩ := List.mem_map.1 hmem
    exact printable_digitChar d (digits_lt_ten (List.mem_reverse.1 hd))

theorem printable_intText (i : ℤ) : ∀ c ∈ intText i, Printable c := by
  obtain ⟨sign, hsign, htext⟩ := intText_eq i
  rw [htext]
  intro c hmem
  rcases List.mem_append.1 hmem with hmem | hmem
  · rcases hsign with rfl | rfl
    · cases hmem
    · rw [List.mem_singleton.1 hmem]
      decide
  · exact printable_natText _ c hmem

section

variable [FloatText φ]

mutual

/-- Escaping the Unicode text of a value gives its ASCII text. -/
theorem asciiText_renderRaw (hfloat : ∀ x : φ, ∀ c ∈ FloatText.repr x, Printable c) :
    ∀ v : JsonValue φ, asciiText (renderRaw v) = render v
  | .null => by rw [renderRaw, render]; decide
  | .bool true => by rw [renderRaw, render]; decide
  | .bool false => by rw [renderRaw, render]; decide
  | .int value => by rw [renderRaw, render, asciiText_of_printable (printable_intText value)]
  | .float value => by rw [renderRaw, render, asciiText_of_printable (hfloat value)]
  | .str value => by
    rw [renderRaw, render, asciiText_cons_of_printable (by decide), asciiText_rawTail]
  | .arr [] => by rw [renderRaw, render]; decide
  | .arr (item :: items) => by
    rw [renderRaw, render, asciiText_cons_of_printable (by decide), asciiText_append,
      asciiText_renderRaw hfloat item, asciiText_renderRawItems hfloat items]
  | .obj [] => by rw [renderRaw, render]; decide
  | .obj ((key, value) :: entries) => by
    rw [renderRaw, render, asciiText_cons_of_printable (by decide),
      asciiText_cons_of_printable (by decide), asciiText_append, asciiText_rawTail,
      asciiText_cons_of_printable (by decide), asciiText_append,
      asciiText_renderRaw hfloat value, asciiText_renderRawEntries hfloat entries]

theorem asciiText_renderRawItems (hfloat : ∀ x : φ, ∀ c ∈ FloatText.repr x, Printable c) :
    ∀ items : List (JsonValue φ), asciiText (renderRawItems items) = renderItems items
  | [] => by rw [renderRawItems, renderItems]; decide
  | item :: items => by
    rw [renderRawItems, renderItems, asciiText_cons_of_printable (by decide), asciiText_append,
      asciiText_renderRaw hfloat item, asciiText_renderRawItems hfloat items]

theorem asciiText_renderRawEntries (hfloat : ∀ x : φ, ∀ c ∈ FloatText.repr x, Printable c) :
    ∀ entries : List (Text × JsonValue φ),
      asciiText (renderRawEntries entries) = renderEntries entries
  | [] => by rw [renderRawEntries, renderEntries]; decide
  | (key, value) :: entries => by
    rw [renderRawEntries, renderEntries, asciiText_cons_of_printable (by decide),
      asciiText_cons_of_printable (by decide), asciiText_append, asciiText_rawTail,
      asciiText_cons_of_printable (by decide), asciiText_append,
      asciiText_renderRaw hfloat value, asciiText_renderRawEntries hfloat entries]

end

/-- Hooks that accept everything. -/
def plainHooks : Hooks φ := ⟨fun text => some (intOfText text), fun entries => some (.obj entries)⟩

theorem accepted_plainHooks {v : JsonValue φ}
    (h : ∀ x, v = .float x → FloatText.isFinite x = true) :
    Accepted plainHooks v := by
  cases v with
  | int i => exact congrArg some (intOfText_intText i)
  | float x => exact h x rfl
  | obj entries => rfl
  | _ => trivial

/-- Values with finite floats are told from their Unicode texts. -/
theorem renderRaw_injective [LawfulFloatText φ]
    (hfloat : ∀ x : φ, ∀ c ∈ FloatText.repr x, Printable c) {v w : JsonValue φ}
    (hv : Everywhere (Accepted plainHooks) v) (hw : Everywhere (Accepted plainHooks) w)
    (h : renderRaw v = renderRaw w) : v = w := by
  have htext : render v = render w := by
    rw [← asciiText_renderRaw hfloat, ← asciiText_renderRaw hfloat, h]
  have hread := loads_render plainHooks hv
  rw [htext, loads_render plainHooks hw, Option.some.injEq] at hread
  exact hread.symm

end

end JsonValue
