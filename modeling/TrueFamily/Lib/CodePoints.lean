import Mathlib.Data.List.Lex
import Mathlib.Data.String.Basic
import Mathlib.Order.Fin.Basic

/-!
# Strings of code points

A string of a language whose strings may hold any code point, lone surrogates included, which no
`Char` spells. Strings are compared code point by code point.
-/

/-- A code point. -/
abbrev CodePoint := Fin 0x110000

instance neZero_codePoint : @NeZero ℕ Zero.ofOfNat0 0x110000 := ⟨by decide⟩

/-- A string, `str`. -/
abbrev PyText := List CodePoint

namespace PyText

/-- The code points of a text. -/
def ofString (text : String) : PyText :=
  text.toList.map fun c => Fin.ofNat 0x110000 c.toNat

/-- `str.isspace` on one code point. -/
def isSpace (c : CodePoint) : Bool :=
  decide ((9 ≤ c.val ∧ c.val ≤ 13) ∨ (28 ≤ c.val ∧ c.val ≤ 32) ∨ c.val = 0x85 ∨ c.val = 0xa0
    ∨ c.val = 0x1680 ∨ (0x2000 ≤ c.val ∧ c.val ≤ 0x200a) ∨ c.val = 0x2028 ∨ c.val = 0x2029
    ∨ c.val = 0x202f ∨ c.val = 0x205f ∨ c.val = 0x3000)

/-- Not empty, and its own `strip()`. -/
def isStripped (text : PyText) : Bool :=
  !text.isEmpty && !(text.head?.any isSpace) && !(text.getLast?.any isSpace)

end PyText
