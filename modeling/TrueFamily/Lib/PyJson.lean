import Mathlib.Data.List.Lex
import TrueFamily.Lib.CodePoints
import TrueFamily.Lib.Json
import TrueFamily.Lib.Sorting

/-!
# JSON texts of strings of code points

JSON values whose strings may hold lone surrogates, with the ASCII text that renders one and the
parser that reads it. A code point beyond the basic plane is rendered as two surrogate escapes, as
a high surrogate followed by a low one is, and the parser reads either as the one code point: it
reads back the value with these pairs merged (`loads_render`). Numbers are rendered and scanned as
those of `JsonValue`.
-/

/-- A JSON value with floats of type `φ`. An object lists its entries. -/
inductive PyValue (φ : Type)
  | null
  | bool (value : Bool)
  | int (value : ℤ)
  | float (value : φ)
  | str (value : PyText)
  | arr (items : List (PyValue φ))
  | obj (entries : List (PyText × PyValue φ))

namespace PyValue

open JsonValue (Text natText intText FloatText LawfulFloatText unicodeEscape hexDigits scanHex
  skipSpace scanNumber isSpace isDigit Delimited Hooks)

variable {φ : Type}

/-! ## Surrogates -/

def IsHigh (c : CodePoint) : Prop := 0xd800 ≤ c.val ∧ c.val ≤ 0xdbff

def IsLow (c : CodePoint) : Prop := 0xdc00 ≤ c.val ∧ c.val ≤ 0xdfff

instance : DecidablePred IsHigh := fun _ => instDecidableAnd

instance : DecidablePred IsLow := fun _ => instDecidableAnd

/-- The code point that a surrogate pair stands for. -/
def joined (high low : CodePoint) : CodePoint :=
  Fin.ofNat 0x110000 (0x10000 + ((high.val - 0xd800) * 1024 + (low.val - 0xdc00)))

/-- A string with every surrogate pair replaced by the code point that it stands for. -/
def mergePairs : PyText → PyText
  | [] => []
  | [c] => [c]
  | c :: d :: rest =>
    if IsHigh c ∧ IsLow d then joined c d :: mergePairs rest else c :: mergePairs (d :: rest)

/-- No high surrogate is followed by a low one. -/
def Unpaired (text : PyText) : Prop := text.IsChain fun c d => ¬ (IsHigh c ∧ IsLow d)

theorem mergePairs_of_unpaired : ∀ {text : PyText}, Unpaired text → mergePairs text = text
  | [], _ => rfl
  | [_], _ => rfl
  | c :: d :: rest, h => by
    rw [Unpaired, List.isChain_cons_cons] at h
    rw [mergePairs, if_neg h.1, mergePairs_of_unpaired h.2]

theorem length_mergePairs_le : ∀ text : PyText, (mergePairs text).length ≤ text.length
  | [] => Nat.le_refl _
  | [_] => Nat.le_refl _
  | c :: d :: rest => by
    have hrest := length_mergePairs_le rest
    have hcons := length_mergePairs_le (d :: rest)
    rw [mergePairs]
    split
    · simp only [List.length_cons]
      omega
    · simp only [List.length_cons] at hcons ⊢
      omega

theorem unpaired_of_length : ∀ {text : PyText}, (mergePairs text).length = text.length →
    Unpaired text
  | [], _ => List.isChain_nil
  | [_], _ => List.isChain_singleton _
  | c :: d :: rest, h => by
    have hrest := length_mergePairs_le rest
    rw [mergePairs] at h
    split at h
    · simp only [List.length_cons] at h
      omega
    · rename_i hpair
      rw [List.length_cons, List.length_cons (a := c), Nat.succ.injEq] at h
      exact List.isChain_cons_cons.2 ⟨hpair, unpaired_of_length h⟩

/-! ## Rendering -/

/-- The letter of a two-character escape. -/
def shortEscape (c : CodePoint) : Option Char :=
  if c.val = 0x22 then some '\x22'
  else if c.val = 0x5c then some '\x5c'
  else if c.val = 0x0a then some 'n'
  else if c.val = 0x0d then some 'r'
  else if c.val = 0x09 then some 't'
  else if c.val = 0x0c then some 'f'
  else if c.val = 0x08 then some 'b'
  else none

/-- One code point of a string, with `ensure_ascii=True`. -/
def escapePoint (c : CodePoint) : Text :=
  match shortEscape c with
  | some letter => ['\x5c', letter]
  | none =>
    if 0x20 ≤ c.val ∧ c.val ≤ 0x7e then [Char.ofNat c.val]
    else if c.val < 0x10000 then unicodeEscape c.val
    else
      unicodeEscape (0xd800 + (c.val - 0x10000) / 1024)
        ++ unicodeEscape (0xdc00 + (c.val - 0x10000) % 1024)

/-- A string after its opening quotation mark. -/
def stringTail (s : PyText) : Text := s.flatMap escapePoint ++ ['\x22']

section Render

variable [FloatText φ]

mutual

/-- `json.dumps` with `ensure_ascii=True` and `separators=(",", ":")`. -/
def render : PyValue φ → Text
  | .null => ['n', 'u', 'l', 'l']
  | .bool true => ['t', 'r', 'u', 'e']
  | .bool false => ['f', 'a', 'l', 's', 'e']
  | .int value => intText value
  | .float value => FloatText.repr value
  | .str value => '\x22' :: stringTail value
  | .arr [] => ['[', ']']
  | .arr (item :: items) => '[' :: (render item ++ renderItems items)
  | .obj [] => ['\x7b', '\x7d']
  | .obj ((key, value) :: entries) =>
    '\x7b' :: '\x22' :: (stringTail key ++ ':' :: (render value ++ renderEntries entries))

/-- The text after an item of a list. -/
def renderItems : List (PyValue φ) → Text
  | [] => [']']
  | item :: items => ',' :: (render item ++ renderItems items)

/-- The text after an entry of an object. -/
def renderEntries : List (PyText × PyValue φ) → Text
  | [] => ['\x7d']
  | (key, value) :: entries =>
    ',' :: '\x22' :: (stringTail key ++ ':' :: (render value ++ renderEntries entries))

end

end Render

/-! ## Scanning -/

/-- A low surrogate's escape, if one follows. -/
def scanLow : Text → Option (Option (CodePoint × Text))
  | '\x5c' :: 'u' :: rest => do
    let (low, after) ← scanHex rest
    if 0xdc00 ≤ low ∧ low ≤ 0xdfff then some (some (Fin.ofNat 0x110000 low, after)) else some none
  | _ => some none

/-- A `u` escape, after its letter. -/
def scanUnicode (text : Text) : Option (CodePoint × Text) := do
  let (code, rest) ← scanHex text
  let c : CodePoint := Fin.ofNat 0x110000 code
  if IsHigh c then
    match ← scanLow rest with
    | some (low, rest) => some (joined c low, rest)
    | none => some (c, rest)
  else some (c, rest)

/-- The code point that a letter after a backslash stands for. -/
def escapedPoint (letter : Char) : Option CodePoint :=
  if letter = '\x22' then some 0x22
  else if letter = '\x5c' then some 0x5c
  else if letter = '/' then some 0x2f
  else if letter = 'n' then some 0x0a
  else if letter = 'r' then some 0x0d
  else if letter = 't' then some 0x09
  else if letter = 'f' then some 0x0c
  else if letter = 'b' then some 0x08
  else none

/-- An escape, after its backslash. -/
def scanEscape : Text → Option (CodePoint × Text)
  | [] => none
  | letter :: rest =>
    if letter = 'u' then scanUnicode rest
    else (escapedPoint letter).map fun c => (c, rest)

def scanPoints : ℕ → Text → Option (PyText × Text)
  | 0, _ => none
  | _ + 1, [] => none
  | n + 1, c :: rest =>
    if c = '\x22' then some ([], rest)
    else if c = '\x5c' then do
      let (escaped, rest) ← scanEscape rest
      let (s, rest) ← scanPoints n rest
      some (escaped :: s, rest)
    else if c.toNat < 0x20 then none
    else do
      let (s, rest) ← scanPoints n rest
      some (Fin.ofNat 0x110000 c.toNat :: s, rest)

/-- `scanstring`, after the opening quotation mark. Every step takes a character. -/
def scanString (text : Text) : Option (PyText × Text) := scanPoints text.length text

/-! ## Strings are read back -/

section Strings

theorem shortEscape_cases {c : CodePoint} {letter : Char} (h : shortEscape c = some letter) :
    letter ≠ 'u' ∧ escapedPoint letter = some c := by
  unfold shortEscape at h
  split_ifs at h <;>
  · cases h
    refine ⟨by decide, congrArg some (Fin.ext ?_)⟩
    simp only [*]
    rfl

theorem toNat_ofNat : ∀ n < 0x7f, (Char.ofNat n).toNat = n := by decide

/-- A rendered code point is itself, a two-character escape, or one or two `u` escapes. -/
theorem escapePoint_cases (c : CodePoint) :
    (∃ d : Char, escapePoint c = [d] ∧ d.toNat = c.val ∧ d ≠ '\x22' ∧ d ≠ '\x5c' ∧ 0x20 ≤ d.toNat) ∨
      (∃ letter, escapePoint c = ['\x5c', letter] ∧ letter ≠ 'u' ∧ escapedPoint letter = some c) ∨
      (c.val < 0x10000 ∧ escapePoint c = unicodeEscape c.val) ∨
      (0x10000 ≤ c.val ∧ escapePoint c = unicodeEscape (0xd800 + (c.val - 0x10000) / 1024)
        ++ unicodeEscape (0xdc00 + (c.val - 0x10000) % 1024)) := by
  unfold escapePoint
  cases hshort : shortEscape c with
  | some letter =>
    obtain ⟨hne, hback⟩ := shortEscape_cases hshort
    exact .inr (.inl ⟨letter, rfl, hne, hback⟩)
  | none =>
    simp only
    split_ifs with hprintable hplane
    · have hval := toNat_ofNat c.val (by omega)
      unfold shortEscape at hshort
      split_ifs at hshort with hquote hback
      refine .inl ⟨Char.ofNat c.val, rfl, hval, fun heq => ?_, fun heq => ?_, ?_⟩
      · rw [heq] at hval
        exact hquote hval.symm
      · rw [heq] at hval
        exact hback hval.symm
      · rw [hval]
        exact hprintable.1
    · exact .inr (.inr (.inl ⟨hplane, rfl⟩))
    · exact .inr (.inr (.inr ⟨Nat.not_lt.1 hplane, rfl⟩))

/-- What does not begin with the escape of a low surrogate. -/
def NoLow (text : Text) : Prop := scanLow text = some none

theorem noLow_of_head {c : Char} {rest : Text} (h : c ≠ '\x5c') : NoLow (c :: rest) := by
  unfold NoLow scanLow
  split
  · rename_i heq
    cases heq
    exact absurd rfl h
  · rfl

theorem noLow_of_letter {letter : Char} {rest : Text} (h : letter ≠ 'u') :
    NoLow ('\x5c' :: letter :: rest) := by
  unfold NoLow scanLow
  split
  · rename_i heq
    cases heq
    exact absurd rfl h
  · rfl

theorem scanLow_unicodeEscape {n : ℕ} (hn : n < 65536) (rest : Text) :
    scanLow (unicodeEscape n ++ rest) =
      if 0xdc00 ≤ n ∧ n ≤ 0xdfff then some (some (Fin.ofNat 0x110000 n, rest)) else some none := by
  rw [unicodeEscape, List.cons_append, List.cons_append, scanLow, JsonValue.scanHex_hexDigits hn]
  rfl

theorem stringTail_cons (c : CodePoint) (s : PyText) (rest : Text) :
    stringTail (c :: s) ++ rest = escapePoint c ++ (stringTail s ++ rest) := by
  simp only [stringTail, List.flatMap_cons, List.append_assoc]

/-- A rendered string begins with the escape of a low surrogate only if the string begins with
a low surrogate. -/
theorem noLow_stringTail {s : PyText} (h : ∀ c ∈ s.head?, ¬ IsLow c) (rest : Text) :
    NoLow (stringTail s ++ rest) := by
  cases s with
  | nil => exact noLow_of_head (by decide)
  | cons c s =>
    have hc : ¬ (0xdc00 ≤ c.val ∧ c.val ≤ 0xdfff) := h c rfl
    rw [stringTail_cons]
    obtain ⟨d, htext, _, _, hback, _⟩ | ⟨letter, htext, hne, _⟩ | ⟨hplane, htext⟩ |
      ⟨hplane, htext⟩ := escapePoint_cases c
    · rw [htext]
      exact noLow_of_head hback
    · rw [htext]
      exact noLow_of_letter hne
    · rw [htext, NoLow, scanLow_unicodeEscape hplane, if_neg hc]
    · have hlt := c.isLt
      rw [htext, NoLow, List.append_assoc, scanLow_unicodeEscape (by omega), if_neg (by omega)]

theorem fin_ofNat (c : CodePoint) : Fin.ofNat 0x110000 c.val = c :=
  Fin.ext (Nat.mod_eq_of_lt c.isLt)

/-- A code point of the basic plane, escaped on its own. -/
theorem scanUnicode_single {c : CodePoint} (hc : c.val < 0x10000) {rest : Text}
    (hrest : IsHigh c → NoLow rest) : scanUnicode (hexDigits c.val ++ rest) = some (c, rest) := by
  rw [scanUnicode, JsonValue.scanHex_hexDigits hc]
  simp only [Option.bind_eq_bind, Option.bind_some, fin_ofNat]
  split
  · rename_i hhigh
    rw [hrest hhigh]
    rfl
  · rfl

/-- A high surrogate's escape before a low one's. -/
theorem scanUnicode_pair {high low : ℕ} (hhigh : 0xd800 ≤ high ∧ high ≤ 0xdbff)
    (hlow : 0xdc00 ≤ low ∧ low ≤ 0xdfff) (rest : Text) :
    scanUnicode (hexDigits high ++ (unicodeEscape low ++ rest)) =
      some (joined (Fin.ofNat 0x110000 high) (Fin.ofNat 0x110000 low), rest) := by
  have hval : IsHigh (Fin.ofNat 0x110000 high) := by
    have hmod : (Fin.ofNat 0x110000 high).val = high := Nat.mod_eq_of_lt (by omega)
    unfold IsHigh
    rw [hmod]
    exact hhigh
  rw [scanUnicode, JsonValue.scanHex_hexDigits (by omega)]
  simp only [Option.bind_eq_bind, Option.bind_some]
  rw [if_pos hval, scanLow_unicodeEscape (by omega), if_pos hlow]
  rfl

/-- The surrogates of a code point beyond the basic plane stand for it. -/
theorem joined_surrogates {c : CodePoint} (hc : 0x10000 ≤ c.val) :
    joined (Fin.ofNat 0x110000 (0xd800 + (c.val - 0x10000) / 1024))
      (Fin.ofNat 0x110000 (0xdc00 + (c.val - 0x10000) % 1024)) = c := by
  have hlt := c.isLt
  have hhigh : (Fin.ofNat 0x110000 (0xd800 + (c.val - 0x10000) / 1024)).val =
    0xd800 + (c.val - 0x10000) / 1024 := Nat.mod_eq_of_lt (by omega)
  have hlow : (Fin.ofNat 0x110000 (0xdc00 + (c.val - 0x10000) % 1024)).val =
    0xdc00 + (c.val - 0x10000) % 1024 := Nat.mod_eq_of_lt (by omega)
  unfold joined
  rw [hhigh, hlow]
  refine Fin.ext ((Nat.mod_eq_of_lt ?_).trans ?_) <;> omega

/-- A code point that begins no surrogate pair is scanned on its own. -/
theorem scanPoints_single {c : CodePoint} {n : ℕ} {rest : Text} {s : PyText} {after : Text}
    (hrest : IsHigh c → NoLow rest) (h : scanPoints n rest = some (s, after)) :
    scanPoints (n + 1) (escapePoint c ++ rest) = some (c :: s, after) := by
  obtain ⟨d, htext, hval, hquote, hback, hspace⟩ | ⟨letter, htext, hne, hletter⟩ |
    ⟨hplane, htext⟩ | ⟨hplane, htext⟩ := escapePoint_cases c
  · rw [htext, List.singleton_append, scanPoints, if_neg hquote, if_neg hback, if_neg (by omega), h,
      hval, fin_ofNat]
    rfl
  · rw [htext, List.cons_append, List.singleton_append, scanPoints, if_neg (by decide),
      if_pos rfl, scanEscape, if_neg hne, hletter]
    simp only [Option.map_some, Option.bind_eq_bind, Option.bind_some, h]
  · rw [htext, unicodeEscape, List.cons_append, List.cons_append, scanPoints, if_neg (by decide),
      if_pos rfl, scanEscape, if_pos rfl, scanUnicode_single hplane hrest]
    simp only [Option.bind_eq_bind, Option.bind_some, h]
  · have hlt := c.isLt
    rw [htext, List.append_assoc]
    rw [unicodeEscape, List.cons_append, List.cons_append, scanPoints, if_neg (by decide),
      if_pos rfl, scanEscape, if_pos rfl, scanUnicode_pair (by omega) (by omega),
      joined_surrogates hplane]
    simp only [Option.bind_eq_bind, Option.bind_some, h]

theorem escapePoint_surrogate {c : CodePoint} (hc : 0xd800 ≤ c.val ∧ c.val ≤ 0xdfff) :
    escapePoint c = unicodeEscape c.val := by
  have hshort : shortEscape c = none := by
    unfold shortEscape
    split_ifs <;> first | omega | rfl
  rw [escapePoint, hshort]
  simp only
  rw [if_neg (by omega), if_pos (by omega)]

/-- A surrogate pair is scanned as one code point. -/
theorem scanPoints_pair {c d : CodePoint} (hpair : IsHigh c ∧ IsLow d) {n : ℕ} {rest : Text}
    {s : PyText} {after : Text} (h : scanPoints n rest = some (s, after)) :
    scanPoints (n + 1) (escapePoint c ++ (escapePoint d ++ rest)) =
      some (joined c d :: s, after) := by
  obtain ⟨⟨hhighLeft, hhighRight⟩, ⟨hlowLeft, hlowRight⟩⟩ := hpair
  rw [escapePoint_surrogate (by omega), escapePoint_surrogate (c := d) (by omega), unicodeEscape,
    List.cons_append, List.cons_append, scanPoints, if_neg (by decide), if_pos rfl, scanEscape,
    if_pos rfl, scanUnicode_pair ⟨hhighLeft, hhighRight⟩ ⟨hlowLeft, hlowRight⟩,
    fin_ofNat, fin_ofNat]
  simp only [Option.bind_eq_bind, Option.bind_some, h]

theorem length_escapePoint_pos (c : CodePoint) : 1 ≤ (escapePoint c).length := by
  obtain ⟨d, htext, _⟩ | ⟨letter, htext, _⟩ | ⟨_, htext⟩ | ⟨_, htext⟩ := escapePoint_cases c <;>
  · rw [htext]
    simp [unicodeEscape]

theorem length_stringTail_cons (c : CodePoint) (s : PyText) :
    (stringTail (c :: s)).length = (escapePoint c).length + (stringTail s).length := by
  have h := congrArg List.length (stringTail_cons c s [])
  simpa using h

/-- A rendered string is read back with its surrogate pairs merged. -/
theorem scanPoints_stringTail (rest : Text) : ∀ (s : PyText) (n : ℕ), (stringTail s).length ≤ n →
    scanPoints n (stringTail s ++ rest) = some (mergePairs s, rest)
  | [], n, hn => by
    cases n with
    | zero => simp [stringTail] at hn
    | succ n => rfl
  | [c], n, hn => by
    have hpos := length_escapePoint_pos c
    rw [length_stringTail_cons] at hn
    cases n with
    | zero => omega
    | succ n =>
      rw [stringTail_cons]
      exact scanPoints_single (fun _ => noLow_stringTail (fun _ h => by cases h) rest)
        (scanPoints_stringTail rest [] n (by omega))
  | c :: d :: s, n, hn => by
    have hpos := length_escapePoint_pos c
    have hposNext := length_escapePoint_pos d
    rw [length_stringTail_cons] at hn
    cases n with
    | zero => omega
    | succ n =>
      rw [stringTail_cons, mergePairs]
      split
      · rename_i hpair
        rw [stringTail_cons]
        rw [length_stringTail_cons] at hn
        exact scanPoints_pair hpair (scanPoints_stringTail rest s n (by omega))
      · rename_i hpair
        refine scanPoints_single (fun hhigh => noLow_stringTail (fun e he hlow => ?_) rest)
          (scanPoints_stringTail rest (d :: s) n (by omega))
        cases he
        exact hpair ⟨hhigh, hlow⟩

theorem scanString_stringTail (s : PyText) (rest : Text) :
    scanString (stringTail s ++ rest) = some (mergePairs s, rest) :=
  scanPoints_stringTail rest s _ (by simp)

end Strings

/-! ## Values -/

/-- `parse_int`, `parse_float` and `object_pairs_hook`; a hook may refuse. -/
structure ParseHooks (φ : Type) where
  parseInt : Text → Option ℤ
  parseFloat : φ → Bool
  pairs : List (PyText × PyValue φ) → Bool

/-- Hooks that refuse nothing. -/
def plainHooks : ParseHooks φ where
  parseInt := fun text => some (JsonValue.intOfText text)
  parseFloat := fun _ => true
  pairs := fun _ => true

section Scan

variable [FloatText φ] (hooks : ParseHooks φ)

/-- A match of the number pattern. -/
def scanNumeral (text : Text) : Option (PyValue φ × Text) :=
  match scanNumber (⟨hooks.parseInt, fun _ => none⟩ : Hooks φ) text with
  | some (.int value, rest) => some (.int value, rest)
  | some (.float value, rest) => if hooks.parseFloat value then some (.float value, rest) else none
  | _ => none

mutual

/-- `scan_once`. -/
def scanOnce : ℕ → Text → Option (PyValue φ × Text)
  | 0, _ => none
  | n + 1, text =>
    match text with
    | '\x22' :: rest => do
      let (s, rest) ← scanString rest
      some (.str s, rest)
    | '[' :: rest =>
      match skipSpace rest with
      | ']' :: rest => some (.arr [], rest)
      | rest => do
        let (items, rest) ← scanItems n rest
        some (.arr items, rest)
    | '\x7b' :: rest =>
      match skipSpace rest with
      | '\x7d' :: rest => if hooks.pairs [] then some (.obj [], rest) else none
      | '\x22' :: rest => do
        let (entries, rest) ← scanEntries n rest
        if hooks.pairs entries then some (.obj entries, rest) else none
      | _ => none
    | 'n' :: 'u' :: 'l' :: 'l' :: rest => some (.null, rest)
    | 't' :: 'r' :: 'u' :: 'e' :: rest => some (.bool true, rest)
    | 'f' :: 'a' :: 'l' :: 's' :: 'e' :: rest => some (.bool false, rest)
    | text => scanNumeral hooks text

/-- `JSONArray`, from its first item on. -/
def scanItems : ℕ → Text → Option (List (PyValue φ) × Text)
  | 0, _ => none
  | n + 1, text => do
    let (item, rest) ← scanOnce n text
    match skipSpace rest with
    | ']' :: rest => some ([item], rest)
    | ',' :: rest => do
      let (items, rest) ← scanItems n (skipSpace rest)
      some (item :: items, rest)
    | _ => none

/-- `JSONObject`, from its first key on. -/
def scanEntries : ℕ → Text → Option (List (PyText × PyValue φ) × Text)
  | 0, _ => none
  | n + 1, text => do
    let (key, rest) ← scanString text
    match skipSpace rest with
    | ':' :: rest => do
      let (value, rest) ← scanOnce n (skipSpace rest)
      match skipSpace rest with
      | '\x7d' :: rest => some ([(key, value)], rest)
      | ',' :: rest =>
        match skipSpace rest with
        | '\x22' :: rest => do
          let (entries, rest) ← scanEntries n rest
          some ((key, value) :: entries, rest)
        | _ => none
      | _ => none
    | _ => none

end

/-- `json.loads`. Every call of a scanner takes a character, so the length bounds their depth. -/
def loads (text : Text) : Option (PyValue φ) := do
  let (value, rest) ← scanOnce hooks text.length (skipSpace text)
  if skipSpace rest = [] then some value else none

end Scan

/-! ## Values are read back -/

mutual

/-- The value with the surrogate pairs of every string and key merged. -/
def merge : PyValue φ → PyValue φ
  | .str value => .str (mergePairs value)
  | .arr items => .arr (mergeItems items)
  | .obj entries => .obj (mergeEntries entries)
  | value => value

def mergeItems : List (PyValue φ) → List (PyValue φ)
  | [] => []
  | item :: items => merge item :: mergeItems items

def mergeEntries : List (PyText × PyValue φ) → List (PyText × PyValue φ)
  | [] => []
  | (key, value) :: entries => (mergePairs key, merge value) :: mergeEntries entries

end

section ReadBack

variable [FloatText φ]

mutual

/-- Every float of the value is finite. -/
def Finite : PyValue φ → Prop
  | .float value => FloatText.isFinite value = true
  | .arr items => FiniteItems items
  | .obj entries => FiniteEntries entries
  | _ => True

def FiniteItems : List (PyValue φ) → Prop
  | [] => True
  | item :: items => Finite item ∧ FiniteItems items

def FiniteEntries : List (PyText × PyValue φ) → Prop
  | [] => True
  | (_, value) :: entries => Finite value ∧ FiniteEntries entries

end

theorem scanNumeral_int (i : ℤ) {rest : Text} (hrest : Delimited rest) :
    scanNumeral (plainHooks : ParseHooks φ) (intText i ++ rest) = some (.int i, rest) := by
  have hscan := JsonValue.scanNumber_int
    (⟨fun text => some (JsonValue.intOfText text), fun _ => none⟩ : Hooks φ) (i := i)
    (congrArg some (JsonValue.intOfText_intText i)) hrest
  rw [scanNumeral, plainHooks, hscan]

theorem scanNumeral_float [LawfulFloatText φ] {x : φ} (hx : FloatText.isFinite x = true)
    {rest : Text} (hrest : Delimited rest) :
    scanNumeral (plainHooks : ParseHooks φ) (FloatText.repr x ++ rest) = some (.float x, rest) := by
  have hscan := JsonValue.scanNumber_float
    (⟨fun text => some (JsonValue.intOfText text), fun _ => none⟩ : Hooks φ) hx hrest
  rw [scanNumeral, plainHooks, hscan]
  rfl

/-- A number is dispatched to the number pattern. -/
theorem scanOnce_number (hooks : ParseHooks φ) {c : Char} (hc : c = '-' ∨ isDigit c = true) (n : ℕ)
    (rest : Text) : scanOnce hooks (n + 1) (c :: rest) = scanNumeral hooks (c :: rest) := by
  rw [scanOnce]
  all_goals
    intro tail heq
    cases heq
    exact absurd hc (by decide)

/-- The text of a value begins with neither white space nor a closing bracket. -/
theorem render_head [LawfulFloatText φ] {v : PyValue φ} (hv : Finite v) :
    ∃ c tail, render v = c :: tail ∧ isSpace c = false ∧ c ≠ ']' := by
  rcases v with _ | (_ | _) | i | x | s | (_ | ⟨item, items⟩) | (_ | ⟨⟨key, value⟩, entries⟩)
  case int =>
    obtain ⟨c, tail, htext, hc⟩ := JsonValue.intText_head i
    exact ⟨c, tail, by rw [render, htext], JsonValue.not_space_of_number hc⟩
  case float =>
    obtain ⟨c, tail, htext, hc⟩ := JsonValue.repr_head (φ := φ) hv
    exact ⟨c, tail, by rw [render, htext], JsonValue.not_space_of_number hc⟩
  all_goals
    exact ⟨_, _, by rw [render], by decide, by decide⟩

/-- With this much fuel, every scanner reads back what the renderer wrote, with the surrogate pairs
merged. -/
structure ReadsBack (φ : Type) [FloatText φ] (n : ℕ) : Prop where
  value (v : PyValue φ) (rest : Text) : Finite v → (render v).length ≤ n → Delimited rest →
    scanOnce plainHooks n (render v ++ rest) = some (merge v, rest)
  items (item : PyValue φ) (items : List (PyValue φ)) (rest : Text) :
    FiniteItems (item :: items) → (render item ++ renderItems items).length ≤ n →
    scanItems plainHooks n (render item ++ (renderItems items ++ rest)) =
      some (mergeItems (item :: items), rest)
  entries (key : PyText) (value : PyValue φ) (entries : List (PyText × PyValue φ))
    (rest : Text) : FiniteEntries ((key, value) :: entries) →
    (stringTail key ++ ':' :: (render value ++ renderEntries entries)).length ≤ n →
    scanEntries plainHooks n
        (stringTail key ++ ':' :: (render value ++ (renderEntries entries ++ rest)))
      = some (mergeEntries ((key, value) :: entries), rest)

section ReadsBack

variable [LawfulFloatText φ] {n : ℕ}

theorem render_length_pos {v : PyValue φ} (hv : Finite v) : 1 ≤ (render v).length := by
  obtain ⟨c, tail, htext, _⟩ := render_head hv
  rw [htext]
  exact Nat.succ_pos _

/-- A rendered value is not preceded by white space. -/
theorem skipSpace_render {v : PyValue φ} (hv : Finite v) (rest : Text) :
    skipSpace (render v ++ rest) = render v ++ rest := by
  obtain ⟨c, tail, htext, hspace, _⟩ := render_head hv
  rw [htext, List.cons_append, JsonValue.skipSpace_cons hspace]

/-- No text is rendered in no character. -/
theorem readsBack_zero : ReadsBack φ 0 where
  value v rest hv hlength := by
    have hpos := render_length_pos hv
    omega
  items item items rest hv hlength := by
    have hpos := render_length_pos hv.1
    rw [List.length_append] at hlength
    omega
  entries key value entries rest _ hlength := by simp at hlength

/-- `scan_once`, where the scanners of arrays and objects read back. -/
theorem ReadsBack.scanOnce (h : ReadsBack φ n) {v : PyValue φ} {rest : Text} (hv : Finite v)
    (hlength : (render v).length ≤ n + 1) (hrest : Delimited rest) :
    PyValue.scanOnce plainHooks (n + 1) (render v ++ rest) = some (merge v, rest) := by
  rcases v with _ | (_ | _) | i | x | s | (_ | ⟨item, items⟩) | (_ | ⟨⟨key, value⟩, entries⟩)
  case int =>
    obtain ⟨c, tail, htext, hc⟩ := JsonValue.intText_head i
    have hscan := scanNumeral_int (φ := φ) i hrest
    rw [render]
    rw [htext, List.cons_append] at hscan ⊢
    rw [scanOnce_number plainHooks hc, hscan]
    rfl
  case float =>
    obtain ⟨c, tail, htext, hc⟩ := JsonValue.repr_head (φ := φ) hv
    have hscan := scanNumeral_float (φ := φ) hv hrest
    rw [render]
    rw [htext, List.cons_append] at hscan ⊢
    rw [scanOnce_number plainHooks hc, hscan]
    rfl
  case str =>
    rw [render, List.cons_append, PyValue.scanOnce, scanString_stringTail]
    rfl
  case arr.cons =>
    obtain ⟨c, tail, htext, hspace, hclosing⟩ := render_head (φ := φ) (v := item) hv.1
    have hitems := h.items item items rest hv (by
      rw [render, List.length_cons] at hlength
      omega)
    rw [render, List.cons_append, List.append_assoc, PyValue.scanOnce]
    rw [htext, List.cons_append] at hitems ⊢
    rw [JsonValue.skipSpace_cons hspace]
    split
    · -- the first item does not close the array
      rename_i heq
      cases heq
      exact absurd rfl hclosing
    · rw [hitems]
      rfl
  case obj.cons =>
    have hentries := h.entries key value entries rest hv (by
      rw [render, List.length_cons, List.length_cons] at hlength
      omega)
    have hopen : skipSpace ('\x22' :: (stringTail key ++ ':' :: (render value
        ++ (renderEntries entries ++ rest)))) = _ := JsonValue.skipSpace_cons (by decide)
    rw [render]
    simp only [List.cons_append, List.append_assoc]
    rw [PyValue.scanOnce]
    simp only [hopen, hentries, Option.bind_eq_bind, Option.bind_some]
    rfl
  case obj.nil =>
    have hclose : skipSpace ('\x7d' :: rest) = _ := JsonValue.skipSpace_cons (by decide)
    rw [render, List.cons_append, List.cons_append, List.nil_append, PyValue.scanOnce]
    simp only [hclose]
    rfl
  all_goals rfl

/-- `JSONArray`: the first item, and the rest of them after a comma. -/
theorem ReadsBack.scanItems (h : ReadsBack φ n) {item : PyValue φ} {items : List (PyValue φ)}
    {rest : Text} (hv : FiniteItems (item :: items))
    (hlength : (render item ++ renderItems items).length ≤ n + 1) :
    PyValue.scanItems plainHooks (n + 1) (render item ++ (renderItems items ++ rest)) =
      some (mergeItems (item :: items), rest) := by
  have hpos := render_length_pos hv.1
  rw [List.length_append] at hlength
  cases items with
  | nil =>
    rw [renderItems, List.length_singleton] at hlength
    have hscan := h.value item (']' :: rest) hv.1 (by omega)
      (Or.inr ⟨_, _, rfl, Or.inr (Or.inl rfl)⟩)
    have hclose : skipSpace (']' :: rest) = _ := JsonValue.skipSpace_cons (by decide)
    rw [renderItems, List.singleton_append, PyValue.scanItems, hscan]
    simp only [Option.bind_eq_bind, Option.bind_some, hclose]
    rfl
  | cons next items =>
    rw [renderItems, List.length_cons, List.length_append] at hlength
    have hscan := h.value item (',' :: (render next ++ (renderItems items ++ rest))) hv.1
      (by omega) (Or.inr ⟨_, _, rfl, Or.inl rfl⟩)
    have hitems := h.items next items rest hv.2 (by rw [List.length_append]; omega)
    have hcomma : skipSpace (',' :: (render next ++ (renderItems items ++ rest))) = _ :=
      JsonValue.skipSpace_cons (by decide)
    have hnext := skipSpace_render hv.2.1 (renderItems items ++ rest)
    rw [renderItems, List.cons_append, List.append_assoc, PyValue.scanItems, hscan]
    simp only [Option.bind_eq_bind, Option.bind_some, hcomma, hnext, hitems]
    rfl

/-- `JSONObject`: the first key and its value, and the rest of the entries after a comma. -/
theorem ReadsBack.scanEntries (h : ReadsBack φ n) {key : PyText} {value : PyValue φ}
    {entries : List (PyText × PyValue φ)} {rest : Text}
    (hv : FiniteEntries ((key, value) :: entries))
    (hlength : (stringTail key ++ ':' :: (render value ++ renderEntries entries)).length ≤ n + 1) :
    PyValue.scanEntries plainHooks (n + 1)
        (stringTail key ++ ':' :: (render value ++ (renderEntries entries ++ rest)))
      = some (mergeEntries ((key, value) :: entries), rest) := by
  have hcolon : skipSpace (':' :: (render value ++ (renderEntries entries ++ rest))) = _ :=
    JsonValue.skipSpace_cons (by decide)
  have hstart := skipSpace_render hv.1 (renderEntries entries ++ rest)
  have hpos := render_length_pos hv.1
  rw [List.length_append, List.length_cons, List.length_append] at hlength
  rw [PyValue.scanEntries, scanString_stringTail]
  simp only [Option.bind_eq_bind, Option.bind_some, hcolon, hstart]
  cases entries with
  | nil =>
    have hscan := h.value value ('\x7d' :: rest) hv.1 (by omega)
      (Or.inr ⟨_, _, rfl, Or.inr (Or.inr rfl)⟩)
    have hclose : skipSpace ('\x7d' :: rest) = _ := JsonValue.skipSpace_cons (by decide)
    rw [renderEntries, List.singleton_append, hscan]
    simp only [Option.bind_some, hclose]
    rfl
  | cons next entries =>
    obtain ⟨nextKey, nextValue⟩ := next
    rw [renderEntries] at hlength ⊢
    simp only [List.length_cons, List.length_append] at hlength
    have hscan := h.value value (',' :: '\x22' :: (stringTail nextKey ++ ':' ::
      (render nextValue ++ (renderEntries entries ++ rest)))) hv.1 (by omega)
      (Or.inr ⟨_, _, rfl, Or.inl rfl⟩)
    have hentries := h.entries nextKey nextValue entries rest hv.2 (by
      rw [List.length_append, List.length_cons, List.length_append]
      omega)
    -- the comma and the quote of the next key are skipped one after the other
    have hcomma : skipSpace (',' :: '\x22' :: (stringTail nextKey ++ ':' ::
        (render nextValue ++ (renderEntries entries ++ rest)))) = _ :=
      JsonValue.skipSpace_cons (by decide)
    have hquote : skipSpace ('\x22' :: (stringTail nextKey ++ ':' ::
        (render nextValue ++ (renderEntries entries ++ rest)))) = _ :=
      JsonValue.skipSpace_cons (by decide)
    simp only [List.cons_append, List.append_assoc]
    rw [hscan]
    simp only [Option.bind_some, hcomma, hquote, hentries]
    rfl

theorem readsBack (n : ℕ) : ReadsBack φ n := by
  induction n with
  | zero => exact readsBack_zero
  | succ n ih =>
    exact ⟨fun _ _ hv hlength hrest => ih.scanOnce hv hlength hrest,
      fun _ _ _ hv hlength => ih.scanItems hv hlength,
      fun _ _ _ _ hv hlength => ih.scanEntries hv hlength⟩

end ReadsBack

/-- A value with finite floats is read back from its text with its surrogate pairs merged. -/
theorem loads_render [LawfulFloatText φ] {v : PyValue φ} (hv : Finite v) :
    loads plainHooks (render v) = some (merge v) := by
  have hstart := skipSpace_render hv []
  have hscan := (readsBack (render v).length).value v [] hv (le_refl _) (Or.inl rfl)
  rw [List.append_nil] at hstart hscan
  rw [loads, hstart, hscan]
  rfl

end ReadBack

/-! ## Hooks that refuse -/

section Refuse

variable [FloatText φ] {hooks : ParseHooks φ}

theorem scanNumeral_plain (hint : ∀ text i, hooks.parseInt text = some i →
    i = JsonValue.intOfText text) {text : Text} {r : PyValue φ × Text}
    (h : scanNumeral hooks text = some r) : scanNumeral plainHooks text = some r := by
  have hnumber : ∀ s, scanNumber (⟨hooks.parseInt, fun _ => none⟩ : Hooks φ) text = some s →
      scanNumber (⟨fun text => some (JsonValue.intOfText text), fun _ => none⟩ : Hooks φ) text =
        some s := by
    intro s hs
    unfold scanNumber at hs ⊢
    obtain ⟨whole, hwhole, hs⟩ := Option.bind_eq_some_iff.1 hs
    refine Option.bind_eq_some_iff.2 ⟨whole, hwhole, ?_⟩
    dsimp only at hs ⊢
    split at hs
    · rename_i hwhole
      rw [if_pos hwhole]
      obtain ⟨i, hi, hs⟩ := Option.bind_eq_some_iff.1 hs
      rw [hint _ i hi] at hs
      exact hs
    · rename_i hwhole
      rw [if_neg hwhole]
      exact hs
  unfold scanNumeral at h ⊢
  cases hs : scanNumber (⟨hooks.parseInt, fun _ => none⟩ : Hooks φ) text with
  | none =>
    rw [hs] at h
    cases h
  | some s =>
    rw [hs] at h
    rw [plainHooks, hnumber s hs]
    obtain ⟨value, rest⟩ := s
    cases value with
    | int i => exact h
    | float x =>
      dsimp only at h ⊢
      split at h
      · exact h
      · cases h
    | _ => cases h

/-- What hooks that may refuse let through is what hooks that refuse nothing read. -/
theorem scan_plain (hint : ∀ text i, hooks.parseInt text = some i →
    i = JsonValue.intOfText text) (n : ℕ) :
    (∀ text r, scanOnce hooks n text = some r → scanOnce plainHooks n text = some r) ∧
      (∀ text r, scanItems hooks n text = some r → scanItems plainHooks n text = some r) ∧
      ∀ text r, scanEntries hooks n text = some r → scanEntries plainHooks n text = some r := by
  induction n with
  | zero => exact ⟨(fun _ _ h => by cases h), (fun _ _ h => by cases h), (fun _ _ h => by cases h)⟩
  | succ n ih =>
    obtain ⟨ihvalue, ihitems, ihentries⟩ := ih
    refine ⟨fun text r h => ?_, fun text r h => ?_, fun text r h => ?_⟩
    · unfold scanOnce at h ⊢
      split at h
      · exact h
      · rename_i rest
        dsimp only at h ⊢
        split at h
        · exact h
        · obtain ⟨items, hitems, h⟩ := Option.bind_eq_some_iff.1 h
          exact Option.bind_eq_some_iff.2 ⟨items, ihitems _ _ hitems, h⟩
      · rename_i rest
        dsimp only at h ⊢
        split at h
        · split at h
          · exact h
          · cases h
        · obtain ⟨entries, hentries, h⟩ := Option.bind_eq_some_iff.1 h
          refine Option.bind_eq_some_iff.2 ⟨entries, ihentries _ _ hentries, ?_⟩
          split at h
          · exact h
          · cases h
        · cases h
      · exact h
      · exact h
      · exact h
      · exact scanNumeral_plain hint h
    · unfold scanItems at h ⊢
      obtain ⟨item, hitem, h⟩ := Option.bind_eq_some_iff.1 h
      refine Option.bind_eq_some_iff.2 ⟨item, ihvalue _ _ hitem, ?_⟩
      dsimp only at h ⊢
      split at h
      · exact h
      · obtain ⟨items, hitems, h⟩ := Option.bind_eq_some_iff.1 h
        exact Option.bind_eq_some_iff.2 ⟨items, ihitems _ _ hitems, h⟩
      · cases h
    · unfold scanEntries at h ⊢
      obtain ⟨key, hkey, h⟩ := Option.bind_eq_some_iff.1 h
      refine Option.bind_eq_some_iff.2 ⟨key, hkey, ?_⟩
      dsimp only at h ⊢
      split at h
      · obtain ⟨value, hvalue, h⟩ := Option.bind_eq_some_iff.1 h
        refine Option.bind_eq_some_iff.2 ⟨value, ihvalue _ _ hvalue, ?_⟩
        split at h
        · exact h
        · split at h
          · obtain ⟨entries, hentries, h⟩ := Option.bind_eq_some_iff.1 h
            exact Option.bind_eq_some_iff.2 ⟨entries, ihentries _ _ hentries, h⟩
          · cases h
        · cases h
      · cases h

/-- A value that is read is the one that hooks which refuse nothing read. -/
theorem loads_plain (hint : ∀ text i, hooks.parseInt text = some i →
    i = JsonValue.intOfText text) {text : Text} {v : PyValue φ}
    (h : loads hooks text = some v) : loads plainHooks text = some v := by
  obtain ⟨r, hr, h⟩ := Option.bind_eq_some_iff.1 h
  exact Option.bind_eq_some_iff.2 ⟨r, (scan_plain hint _).1 _ _ hr, h⟩

end Refuse

end PyValue
