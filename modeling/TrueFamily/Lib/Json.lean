import Mathlib.Data.List.Basic
import Mathlib.Data.Nat.Digits.Lemmas
import Mathlib.Tactic.Common

/-!
# JSON texts

JSON values, the compact ASCII text that renders one, and a recursive-descent parser with hooks
for integers and objects. The main result is `loads_render`: whatever the hooks accept, the
parser reads back from its text.

An object lists its entries in the order in which they are rendered. Floats are a type of their
own: `FloatText` names its text and its reader, `LawfulFloatText` what is known about them.
-/

/-- A JSON value with floats of type `φ`. -/
inductive JsonValue (φ : Type)
  | null
  | bool (value : Bool)
  | int (value : ℤ)
  | float (value : φ)
  | str (value : List Char)
  | arr (items : List (JsonValue φ))
  | obj (entries : List (List Char × JsonValue φ))

namespace JsonValue

abbrev Text := List Char

instance lawfulBEq_text : LawfulBEq Text := inferInstance

/-- The length of the UTF-8 encoding. -/
def utf8Length (text : Text) : ℕ := (text.map Char.utf8Size).sum

/-- The text of ASCII bytes. -/
def decodeAscii (raw : List UInt8) : Text := raw.map fun byte => Char.ofNat byte.toNat

variable {φ : Type}

/-- The values directly inside a value. -/
def children : JsonValue φ → List (JsonValue φ)
  | .arr items => items
  | .obj entries => entries.map Prod.snd
  | _ => []

/-- The value and everything inside it satisfies `p`. -/
inductive Everywhere (p : JsonValue φ → Prop) : JsonValue φ → Prop
  | mk {v : JsonValue φ} : p v → (∀ child ∈ v.children, Everywhere p child) → Everywhere p v

theorem Everywhere.self {p : JsonValue φ → Prop} {v : JsonValue φ} (h : Everywhere p v) : p v := by
  cases h with
  | mk hv _ => exact hv

theorem Everywhere.child {p : JsonValue φ → Prop} {v child : JsonValue φ} (h : Everywhere p v)
    (hmem : child ∈ v.children) : Everywhere p child := by
  cases h with
  | mk _ hchildren => exact hchildren child hmem

/-- A value that holds nothing but leaves. -/
theorem Everywhere.of_leaves {p : JsonValue φ → Prop} {v : JsonValue φ} (hv : p v)
    (h : ∀ child ∈ v.children, child.children = [] ∧ p child) : Everywhere p v := by
  refine .mk hv fun child hmem => .mk (h child hmem).2 fun below hbelow => ?_
  rw [(h child hmem).1] at hbelow
  cases hbelow

theorem Everywhere.imp {p q : JsonValue φ → Prop} (himp : ∀ v, p v → q v) {v : JsonValue φ}
    (h : Everywhere p v) : Everywhere q v := by
  induction h with
  | mk hv _ ih => exact .mk (himp _ hv) ih

theorem Everywhere.and {p q : JsonValue φ → Prop} {v : JsonValue φ} (hp : Everywhere p v)
    (hq : Everywhere q v) : Everywhere (fun v => p v ∧ q v) v := by
  induction hp with
  | mk hv _ ih => exact .mk ⟨hv, hq.self⟩ fun child hmem => ih child hmem (hq.child hmem)

mutual

/-- The value and everything inside it passes `p`. -/
def allNodes (p : JsonValue φ → Bool) : JsonValue φ → Bool
  | .arr items => p (.arr items) && allItems p items
  | .obj entries => p (.obj entries) && allEntries p entries
  | value => p value

def allItems (p : JsonValue φ → Bool) : List (JsonValue φ) → Bool
  | [] => true
  | item :: items => allNodes p item && allItems p items

def allEntries (p : JsonValue φ → Bool) : List (Text × JsonValue φ) → Bool
  | [] => true
  | (_, value) :: entries => allNodes p value && allEntries p entries

end

theorem allItems_iff {p : JsonValue φ → Bool} {items : List (JsonValue φ)} :
    allItems p items = true ↔ ∀ item ∈ items, allNodes p item = true := by
  induction items with
  | nil => simp [allItems]
  | cons item items ih => rw [allItems, Bool.and_eq_true, ih, List.forall_mem_cons]

theorem allEntries_iff {p : JsonValue φ → Bool} {entries : List (Text × JsonValue φ)} :
    allEntries p entries = true ↔ ∀ entry ∈ entries, allNodes p entry.2 = true := by
  induction entries with
  | nil => simp [allEntries]
  | cons entry entries ih => rw [allEntries, Bool.and_eq_true, ih, List.forall_mem_cons]

/-! ## Numbers -/

def isDigit (c : Char) : Bool := decide ('0' ≤ c ∧ c ≤ '9')

/-- `[0-9a-f]`. -/
def isHex (c : Char) : Bool := isDigit c || decide ('a' ≤ c ∧ c ≤ 'f')

def digitChar (d : ℕ) : Char := Char.ofNat (48 + d)

/-- `str(n)`. -/
def natText (n : ℕ) : Text :=
  if n = 0 then ['0'] else (Nat.digits 10 n).reverse.map digitChar

/-- `int.__repr__`. -/
def intText : ℤ → Text
  | .ofNat n => natText n
  | .negSucc n => '-' :: natText (n + 1)

/-- The value of a sequence of decimal digits. -/
def natOfText (digits : Text) : ℕ :=
  digits.foldl (fun n c => 10 * n + (c.toNat - 48)) 0

/-- `int(text)`, for the texts that the number pattern matches. -/
def intOfText : Text → ℤ
  | [] => 0
  | c :: digits => if c = '-' then -(natOfText digits : ℤ) else natOfText (c :: digits)

/-- Floats with `float.__repr__` and `float()`. -/
class FloatText (φ : Type) where
  isFinite : φ → Bool
  repr : φ → Text
  ofText : Text → φ

def IsSign (text : Text) : Prop := text = [] ∨ text = ['-']

def IsWhole (text : Text) : Prop :=
  text = ['0'] ∨ ∃ c digits, text = c :: digits ∧ ('1' ≤ c ∧ c ≤ '9') ∧ ∀ d ∈ digits, isDigit d

def IsFraction (text : Text) : Prop :=
  text = [] ∨ ∃ digits, text = '.' :: digits ∧ digits ≠ [] ∧ ∀ d ∈ digits, isDigit d

def IsExponent (text : Text) : Prop :=
  text = [] ∨ ∃ c sign digits, text = c :: (sign ++ digits) ∧ (c = 'e' ∨ c = 'E')
    ∧ (sign = [] ∨ sign = ['+'] ∨ sign = ['-']) ∧ digits ≠ [] ∧ ∀ d ∈ digits, isDigit d

/-- A JSON number with a fraction or an exponent. -/
def IsFloatLiteral (text : Text) : Prop :=
  ∃ sign whole fraction exponent, text = sign ++ (whole ++ (fraction ++ exponent))
    ∧ IsSign sign ∧ IsWhole whole ∧ IsFraction fraction ∧ IsExponent exponent
    ∧ ¬ (fraction = [] ∧ exponent = [])

/-- A finite float is written as a JSON number and read back from it. -/
class LawfulFloatText (φ : Type) [FloatText φ] : Prop where
  literal : ∀ x : φ, FloatText.isFinite x = true → IsFloatLiteral (FloatText.repr x)
  ofText_repr : ∀ x : φ, FloatText.isFinite x = true →
    FloatText.ofText (FloatText.repr x) = x

/-! ## Rendering -/

def hexDigit (n : ℕ) : Char := if n < 10 then Char.ofNat (48 + n) else Char.ofNat (87 + n)

def hexDigits (n : ℕ) : Text :=
  [hexDigit (n / 4096 % 16), hexDigit (n / 256 % 16), hexDigit (n / 16 % 16), hexDigit (n % 16)]

/-- A `u` escape with four hexadecimal digits. -/
def unicodeEscape (n : ℕ) : Text := '\x5c' :: 'u' :: hexDigits n

/-- The letter of a two-character escape. -/
def shortEscape (c : Char) : Option Char :=
  if c = '\x22' then some '\x22'
  else if c = '\x5c' then some '\x5c'
  else if c = '\n' then some 'n'
  else if c = '\x0d' then some 'r'
  else if c = '\t' then some 't'
  else if c = '\x0c' then some 'f'
  else if c = '\x08' then some 'b'
  else none

/-- One character of a string, with `ensure_ascii=True`. -/
def escapeChar (c : Char) : Text :=
  match shortEscape c with
  | some letter => ['\x5c', letter]
  | none =>
    if 0x20 ≤ c.toNat ∧ c.toNat ≤ 0x7e then [c]
    else if c.toNat < 0x10000 then unicodeEscape c.toNat
    else
      unicodeEscape (0xd800 + (c.toNat - 0x10000) / 1024)
        ++ unicodeEscape (0xdc00 + (c.toNat - 0x10000) % 1024)

/-- A string after its opening quotation mark. -/
def stringTail (s : Text) : Text := s.flatMap escapeChar ++ ['\x22']

variable [FloatText φ]

mutual

/-- `json.dumps` with `ensure_ascii=True` and `separators=(",", ":")`. -/
def render : JsonValue φ → Text
  | .null => ['n', 'u', 'l', 'l']
  | .bool true => ['t', 'r', 'u', 'e']
  | .bool false => ['f', 'a', 'l', 's', 'e']
  | .int value => intText value
  | .float value => FloatText.repr value
  | .str value => '\x22' :: stringTail value
  | .arr [] => ['[', ']']
  | .arr (item :: items) => '[' :: (render item ++ renderItems items)
  | .obj [] => ['\x7b', '\x7d']
  | .obj ((key, value) :: entries) =>
    '\x7b' :: '\x22' :: (stringTail key ++ ':' :: (render value ++ renderEntries entries))

/-- The text after an item of a list. -/
def renderItems : List (JsonValue φ) → Text
  | [] => [']']
  | item :: items => ',' :: (render item ++ renderItems items)

/-- The text after an entry of an object. -/
def renderEntries : List (Text × JsonValue φ) → Text
  | [] => ['\x7d']
  | (key, value) :: entries =>
    ',' :: '\x22' :: (stringTail key ++ ':' :: (render value ++ renderEntries entries))

end

/-! ## Scanning -/

/-- The white space of JSON. -/
def isSpace (c : Char) : Bool := decide (c = ' ' ∨ c = '\t' ∨ c = '\n' ∨ c = '\x0d')

def skipSpace (text : Text) : Text := text.dropWhile isSpace

def hexValue (c : Char) : Option ℕ :=
  if '0' ≤ c ∧ c ≤ '9' then some (c.toNat - 48)
  else if 'a' ≤ c ∧ c ≤ 'f' then some (c.toNat - 87)
  else if 'A' ≤ c ∧ c ≤ 'F' then some (c.toNat - 55)
  else none

/-- The four hexadecimal digits of an escape. -/
def scanHex : Text → Option (ℕ × Text)
  | a :: b :: c :: d :: rest => do
    let a ← hexValue a
    let b ← hexValue b
    let c ← hexValue c
    let d ← hexValue d
    some (((a * 16 + b) * 16 + c) * 16 + d, rest)
  | _ => none

/-- The second half of a surrogate pair. A lone surrogate is in no encodable string. -/
def scanLowSurrogate (high : ℕ) : Text → Option (Char × Text)
  | '\x5c' :: 'u' :: rest => do
    let (low, rest) ← scanHex rest
    if 0xdc00 ≤ low ∧ low ≤ 0xdfff then
      some (Char.ofNat (0x10000 + ((high - 0xd800) * 1024 + (low - 0xdc00))), rest)
    else none
  | _ => none

def scanUnicode (text : Text) : Option (Char × Text) := do
  let (code, rest) ← scanHex text
  if 0xd800 ≤ code ∧ code ≤ 0xdbff then scanLowSurrogate code rest
  else if 0xdc00 ≤ code ∧ code ≤ 0xdfff then none
  else some (Char.ofNat code, rest)

/-- The character that a letter after a backslash stands for. -/
def escapedChar (letter : Char) : Option Char :=
  if letter = '\x22' then some '\x22'
  else if letter = '\x5c' then some '\x5c'
  else if letter = '/' then some '/'
  else if letter = 'n' then some '\n'
  else if letter = 'r' then some '\x0d'
  else if letter = 't' then some '\t'
  else if letter = 'f' then some '\x0c'
  else if letter = 'b' then some '\x08'
  else none

/-- An escape, after its backslash. -/
def scanEscape : Text → Option (Char × Text)
  | [] => none
  | letter :: rest =>
    if letter = 'u' then scanUnicode rest
    else (escapedChar letter).map fun c => (c, rest)

def scanChars : ℕ → Text → Option (Text × Text)
  | 0, _ => none
  | _ + 1, [] => none
  | n + 1, c :: rest =>
    if c = '\x22' then some ([], rest)
    else if c = '\x5c' then do
      let (escaped, rest) ← scanEscape rest
      let (s, rest) ← scanChars n rest
      some (escaped :: s, rest)
    else if c.toNat < 0x20 then none
    else do
      let (s, rest) ← scanChars n rest
      some (c :: s, rest)

/-- `scanstring`, after the opening quotation mark. Every step takes a character. -/
def scanString (text : Text) : Option (Text × Text) := scanChars text.length text

def scanSign : Text → Text × Text
  | '-' :: rest => (['-'], rest)
  | text => ([], text)

def scanWhole : Text → Option (Text × Text)
  | [] => none
  | c :: rest =>
    if c = '0' then some (['0'], rest)
    else if '1' ≤ c ∧ c ≤ '9' then some (c :: rest.takeWhile isDigit, rest.dropWhile isDigit)
    else none

def scanFraction : Text → Text × Text
  | [] => ([], [])
  | c :: rest =>
    if c = '.' ∧ rest.takeWhile isDigit ≠ [] then
      ('.' :: rest.takeWhile isDigit, rest.dropWhile isDigit)
    else ([], c :: rest)

def scanExponentSign : Text → Text × Text
  | '+' :: rest => (['+'], rest)
  | '-' :: rest => (['-'], rest)
  | text => ([], text)

def scanExponent : Text → Text × Text
  | [] => ([], [])
  | c :: rest =>
    let (sign, digits) := scanExponentSign rest
    if (c = 'e' ∨ c = 'E') ∧ digits.takeWhile isDigit ≠ [] then
      (c :: (sign ++ digits.takeWhile isDigit), digits.dropWhile isDigit)
    else ([], c :: rest)

/-- `parse_int` and `object_pairs_hook`; a hook may refuse. -/
structure Hooks (φ : Type) where
  parseInt : Text → Option ℤ
  pairs : List (Text × JsonValue φ) → Option (JsonValue φ)

variable (hooks : Hooks φ)

/-- A match of the number pattern. -/
def scanNumber (text : Text) : Option (JsonValue φ × Text) := do
  let (sign, rest) := scanSign text
  let (whole, rest) ← scanWhole rest
  let (fraction, rest) := scanFraction rest
  let (exponent, rest) := scanExponent rest
  if fraction = [] ∧ exponent = [] then
    let value ← hooks.parseInt (sign ++ whole)
    some (.int value, rest)
  else some (.float (FloatText.ofText (sign ++ (whole ++ (fraction ++ exponent)))), rest)

mutual

/-- `scan_once`. -/
def scanOnce : ℕ → Text → Option (JsonValue φ × Text)
  | 0, _ => none
  | n + 1, text =>
    match text with
    | '\x22' :: rest => do
      let (s, rest) ← scanString rest
      some (.str s, rest)
    | '[' :: rest =>
      match skipSpace rest with
      | ']' :: rest => some (.arr [], rest)
      | rest => do
        let (items, rest) ← scanItems n rest
        some (.arr items, rest)
    | '\x7b' :: rest =>
      match skipSpace rest with
      | '\x7d' :: rest => do
        let value ← hooks.pairs []
        some (value, rest)
      | '\x22' :: rest => do
        let (entries, rest) ← scanEntries n rest
        let value ← hooks.pairs entries
        some (value, rest)
      | _ => none
    | 'n' :: 'u' :: 'l' :: 'l' :: rest => some (.null, rest)
    | 't' :: 'r' :: 'u' :: 'e' :: rest => some (.bool true, rest)
    | 'f' :: 'a' :: 'l' :: 's' :: 'e' :: rest => some (.bool false, rest)
    | text => scanNumber hooks text

/-- `JSONArray`, from its first item on. -/
def scanItems : ℕ → Text → Option (List (JsonValue φ) × Text)
  | 0, _ => none
  | n + 1, text => do
    let (item, rest) ← scanOnce n text
    match skipSpace rest with
    | ']' :: rest => some ([item], rest)
    | ',' :: rest => do
      let (items, rest) ← scanItems n (skipSpace rest)
      some (item :: items, rest)
    | _ => none

/-- `JSONObject`, from its first key on. -/
def scanEntries : ℕ → Text → Option (List (Text × JsonValue φ) × Text)
  | 0, _ => none
  | n + 1, text => do
    let (key, rest) ← scanString text
    match skipSpace rest with
    | ':' :: rest => do
      let (value, rest) ← scanOnce n (skipSpace rest)
      match skipSpace rest with
      | '\x7d' :: rest => some ([(key, value)], rest)
      | ',' :: rest =>
        match skipSpace rest with
        | '\x22' :: rest => do
          let (entries, rest) ← scanEntries n rest
          some ((key, value) :: entries, rest)
        | _ => none
      | _ => none
    | _ => none

end

/-- `json.loads`. Every call of a scanner takes a character, so the length bounds their depth. -/
def loads (text : Text) : Option (JsonValue φ) := do
  let (value, rest) ← scanOnce hooks text.length (skipSpace text)
  if skipSpace rest = [] then some value else none

/-! ## Numbers are read back -/

section Numbers

omit [FloatText φ]

theorem isDigit_digitChar : ∀ d < 10, isDigit (digitChar d) = true := by decide

theorem toNat_digitChar : ∀ d < 10, (digitChar d).toNat - 48 = d := by decide

theorem one_le_digitChar : ∀ d < 10, d ≠ 0 → '1' ≤ digitChar d ∧ digitChar d ≤ '9' := by decide

theorem digits_lt_ten {n d : ℕ} (h : d ∈ Nat.digits 10 n) : d < 10 :=
  Nat.digits_lt_base (by omega) h

theorem foldr_digitChar {digits : List ℕ} (h : ∀ d ∈ digits, d < 10) :
    digits.foldr (fun d n => 10 * n + ((digitChar d).toNat - 48)) 0 = Nat.ofDigits 10 digits := by
  induction digits with
  | nil => rfl
  | cons d digits ih =>
    rw [List.forall_mem_cons] at h
    rw [List.foldr_cons, ih h.2, toNat_digitChar d h.1, Nat.ofDigits_cons, Nat.add_comm]

theorem natOfText_natText (n : ℕ) : natOfText (natText n) = n := by
  unfold natText natOfText
  split
  · rename_i hn
    rw [hn]
    rfl
  · rw [List.foldl_map, List.foldl_reverse, foldr_digitChar fun d => digits_lt_ten,
      Nat.ofDigits_digits]

theorem isWhole_natText (n : ℕ) : IsWhole (natText n) := by
  unfold natText
  split
  · exact Or.inl rfl
  · rename_i hn
    have hne : Nat.digits 10 n ≠ [] := Nat.digits_ne_nil_iff_ne_zero.2 hn
    have hsplit := List.dropLast_append_getLast hne
    refine Or.inr ⟨digitChar ((Nat.digits 10 n).getLast hne),
      ((Nat.digits 10 n).dropLast.reverse.map digitChar), ?_, ?_, ?_⟩
    · conv_lhs => rw [← hsplit, List.reverse_append, List.map_append]
      rfl
    · exact one_le_digitChar _ (digits_lt_ten (List.getLast_mem hne))
        (Nat.getLast_digit_ne_zero 10 hn)
    · intro d hd
      obtain ⟨digit, hdigit, rfl⟩ := List.mem_map.1 hd
      exact isDigit_digitChar _ (digits_lt_ten
        (List.mem_of_mem_dropLast (List.mem_reverse.1 hdigit)))

theorem intText_eq (i : ℤ) : ∃ sign, IsSign sign ∧ intText i = sign ++ natText i.natAbs := by
  cases i with
  | ofNat n => exact ⟨[], Or.inl rfl, rfl⟩
  | negSucc n => exact ⟨['-'], Or.inr rfl, rfl⟩

theorem intOfText_intText (i : ℤ) : intOfText (intText i) = i := by
  cases i with
  | ofNat n =>
    obtain hzero | ⟨c, digits, hcons, hc, _⟩ := isWhole_natText n
    · have hn := natOfText_natText n
      rw [intText, hzero, intOfText, if_neg (by decide), ← hzero, hn]
      rfl
    · have hn := natOfText_natText n
      have hne : c ≠ '-' := by
        rintro rfl
        exact absurd hc.1 (by decide)
      rw [intText, hcons, intOfText, if_neg hne, ← hcons, hn]
      rfl
  | negSucc n =>
    rw [intText, intOfText, if_pos rfl, natOfText_natText]
    rfl

/-- The text does not begin with a character of `p`. -/
def Avoids (p : Char → Prop) (text : Text) : Prop := ∀ c ∈ text.head?, ¬ p c

theorem avoids_nil {p : Char → Prop} : Avoids p [] := fun _ h => by cases h

theorem avoids_cons {p : Char → Prop} {c : Char} {text : Text} (h : ¬ p c) :
    Avoids p (c :: text) := by
  intro d hd
  cases hd
  exact h

/-- What may follow a value: a separator, a closing bracket or the end. -/
def Delimited (text : Text) : Prop :=
  text = [] ∨ ∃ c rest, text = c :: rest ∧ (c = ',' ∨ c = ']' ∨ c = '\x7d')

/-- The characters that continue a number. -/
def Continues (c : Char) : Prop := isDigit c = true ∨ c = '.' ∨ c = 'e' ∨ c = 'E'

theorem Delimited.avoids {text : Text} (h : Delimited text) : Avoids Continues text := by
  obtain rfl | ⟨c, rest, rfl, rfl | rfl | rfl⟩ := h
  · exact avoids_nil
  all_goals
    refine avoids_cons ?_
    unfold Continues
    decide

theorem span_digits {digits rest : Text} (hdigits : ∀ d ∈ digits, isDigit d = true)
    (hrest : Avoids (fun c => isDigit c = true) rest) :
    (digits ++ rest).takeWhile isDigit = digits ∧ (digits ++ rest).dropWhile isDigit = rest := by
  rw [List.takeWhile_append_of_pos hdigits, List.dropWhile_append_of_pos hdigits]
  cases rest with
  | nil => simp
  | cons c rest =>
    have hc := hrest c rfl
    rw [List.takeWhile_cons_of_neg hc, List.dropWhile_cons_of_neg hc, List.append_nil]
    exact ⟨rfl, rfl⟩

theorem scanExponent_append {exponent rest : Text} (hexponent : IsExponent exponent)
    (hrest : Avoids Continues rest) : scanExponent (exponent ++ rest) = (exponent, rest) := by
  obtain rfl | ⟨c, sign, digits, rfl, hc, hsign, hne, hdigits⟩ := hexponent
  · cases rest with
    | nil => rfl
    | cons c rest =>
      have hc := hrest c rfl
      unfold Continues at hc
      have hletter : ¬ (c = 'e' ∨ c = 'E') := fun h => hc (Or.inr (Or.inr h))
      exact if_neg fun h => hletter h.1
  · have hspan := span_digits hdigits (fun c hc hdigit => hrest c hc (Or.inl hdigit))
    have hscan : scanExponentSign (sign ++ (digits ++ rest)) = (sign, digits ++ rest) := by
      obtain rfl | rfl | rfl := hsign
      · cases digits with
        | nil => exact absurd rfl hne
        | cons d digits =>
          have hd := hdigits d List.mem_cons_self
          unfold scanExponentSign
          split
          · rename_i heq
            cases heq
            exact absurd hd (by decide)
          · rename_i heq
            cases heq
            exact absurd hd (by decide)
          · rfl
      · rfl
      · rfl
    rw [List.cons_append, List.append_assoc, scanExponent, hscan]
    simp only
    rw [hspan.1, hspan.2, if_pos ⟨hc, hne⟩]

theorem IsExponent.avoids {exponent rest : Text} (hexponent : IsExponent exponent)
    (hrest : Avoids Continues rest) :
    Avoids (fun c => isDigit c = true ∨ c = '.') (exponent ++ rest) := by
  obtain rfl | ⟨c, sign, digits, rfl, rfl | rfl, _⟩ := hexponent
  · intro c hc hor
    refine hrest c hc ?_
    unfold Continues
    tauto
  · exact avoids_cons (by decide)
  · exact avoids_cons (by decide)

theorem scanFraction_append {fraction rest : Text} (hfraction : IsFraction fraction)
    (hrest : Avoids (fun c => isDigit c = true ∨ c = '.') rest) :
    scanFraction (fraction ++ rest) = (fraction, rest) := by
  obtain rfl | ⟨digits, rfl, hne, hdigits⟩ := hfraction
  · cases rest with
    | nil => rfl
    | cons c rest =>
      have hc := hrest c rfl
      rw [List.nil_append, scanFraction, if_neg]
      tauto
  · have hspan := span_digits hdigits (fun c hc hdigit => hrest c hc (Or.inl hdigit))
    rw [List.cons_append, scanFraction, hspan.1, hspan.2, if_pos ⟨rfl, hne⟩]

theorem IsFraction.avoids {fraction rest : Text} (hfraction : IsFraction fraction)
    (hrest : Avoids (fun c => isDigit c = true ∨ c = '.') rest) :
    Avoids (fun c => isDigit c = true) (fraction ++ rest) := by
  obtain rfl | ⟨digits, rfl, _⟩ := hfraction
  · exact fun c hc hdigit => hrest c hc (Or.inl hdigit)
  · exact avoids_cons (by decide)

theorem scanWhole_append {whole rest : Text} (hwhole : IsWhole whole)
    (hrest : Avoids (fun c => isDigit c = true) rest) :
    scanWhole (whole ++ rest) = some (whole, rest) := by
  obtain rfl | ⟨c, digits, rfl, hc, hdigits⟩ := hwhole
  · rfl
  · have hspan := span_digits hdigits hrest
    have hne : c ≠ '0' := by
      rintro rfl
      exact absurd hc.1 (by decide)
    rw [List.cons_append, scanWhole, if_neg hne, if_pos hc, hspan.1, hspan.2]

theorem scanSign_append {sign whole rest : Text} (hsign : IsSign sign) (hwhole : IsWhole whole) :
    scanSign (sign ++ (whole ++ rest)) = (sign, whole ++ rest) := by
  obtain rfl | rfl := hsign
  · obtain rfl | ⟨c, digits, rfl, hc, _⟩ := hwhole
    · rfl
    · rw [List.nil_append, List.cons_append]
      unfold scanSign
      split
      · rename_i heq
        cases heq
        exact absurd hc.1 (by decide)
      · rfl
  · rfl

end Numbers

theorem scanNumber_int {i : ℤ} (hparse : hooks.parseInt (intText i) = some i) {rest : Text}
    (hrest : Delimited rest) : scanNumber hooks (intText i ++ rest) = some (.int i, rest) := by
  obtain ⟨sign, hsign, htext⟩ := intText_eq i
  have hwhole := isWhole_natText i.natAbs
  have havoids := hrest.avoids
  have hexponent := scanExponent_append (Or.inl rfl) havoids
  have hfraction := @scanFraction_append [] _ (Or.inl rfl)
    (IsExponent.avoids (Or.inl rfl) havoids)
  rw [htext] at hparse ⊢
  rw [List.append_assoc, scanNumber, scanSign_append hsign hwhole]
  simp only
  rw [scanWhole_append hwhole fun c hc hdigit => havoids c hc (Or.inl hdigit)]
  simp only [Option.bind_eq_bind, Option.bind_some]
  rw [List.nil_append, List.nil_append] at hfraction
  rw [hfraction]
  simp only
  rw [List.nil_append] at hexponent
  rw [hexponent]
  simp [hparse]

theorem scanNumber_float [LawfulFloatText φ] {x : φ} (hx : FloatText.isFinite x = true)
    {rest : Text} (hrest : Delimited rest) :
    scanNumber hooks (FloatText.repr x ++ rest) = some (.float x, rest) := by
  have hback := LawfulFloatText.ofText_repr x hx
  obtain ⟨sign, whole, fraction, exponent, htext, hsign, hwhole, hfraction, hexponent, hne⟩ :=
    LawfulFloatText.literal x hx
  have havoids := hrest.avoids
  rw [htext] at hback ⊢
  have hassoc : sign ++ (whole ++ (fraction ++ exponent)) ++ rest
      = sign ++ (whole ++ (fraction ++ (exponent ++ rest))) := by
    simp only [List.append_assoc]
  have htail := hexponent.avoids havoids
  rw [hassoc, scanNumber, scanSign_append hsign hwhole]
  simp only
  rw [scanWhole_append hwhole (hfraction.avoids htail)]
  simp only [Option.bind_eq_bind, Option.bind_some]
  rw [scanFraction_append hfraction htail]
  simp only
  rw [scanExponent_append hexponent havoids]
  simp only
  rw [if_neg hne, hback]

/-! ## Strings are read back -/

section Strings

omit [FloatText φ]

theorem hexValue_hexDigit : ∀ n < 16, hexValue (hexDigit n) = some n := by decide

theorem scanHex_hexDigits {n : ℕ} (hn : n < 65536) (rest : Text) :
    scanHex (hexDigits n ++ rest) = some (n, rest) := by
  have hvalue := fun m => hexValue_hexDigit (m % 16) (Nat.mod_lt _ (by omega))
  have hsum : ((n / 4096 % 16 * 16 + n / 256 % 16) * 16 + n / 16 % 16) * 16 + n % 16 = n := by
    omega
  simp only [hexDigits, List.cons_append, List.nil_append, scanHex, hvalue, Option.bind_eq_bind,
    Option.bind_some, hsum]

theorem not_surrogate (c : Char) : ¬ (0xd800 ≤ c.toNat ∧ c.toNat ≤ 0xdfff) := by
  have hvalid := c.valid
  rw [UInt32.isValidChar, Nat.isValidChar] at hvalid
  show ¬ (0xd800 ≤ c.val.toNat ∧ c.val.toNat ≤ 0xdfff)
  omega

theorem toNat_lt (c : Char) : c.toNat < 0x110000 := by
  have hvalid := c.valid
  rw [UInt32.isValidChar, Nat.isValidChar] at hvalid
  show c.val.toNat < 0x110000
  omega

/-- A character of the basic plane, escaped on its own. -/
theorem scanUnicode_hexDigits {c : Char} (hc : c.toNat < 65536) (rest : Text) :
    scanUnicode (hexDigits c.toNat ++ rest) = some (c, rest) := by
  have hsurrogate := not_surrogate c
  rw [scanUnicode, scanHex_hexDigits hc]
  simp only [Option.bind_eq_bind, Option.bind_some]
  rw [if_neg (by omega), if_neg (by omega), Char.ofNat_toNat]

theorem scanUnicode_pair {q r : ℕ} (hq : q < 1024) (hr : r < 1024) (rest : Text) :
    scanUnicode (hexDigits (0xd800 + q) ++ (unicodeEscape (0xdc00 + r) ++ rest))
      = some (Char.ofNat (0x10000 + (q * 1024 + r)), rest) := by
  have hhigh := scanHex_hexDigits (n := 0xd800 + q) (by omega)
  have hlow := scanHex_hexDigits (n := 0xdc00 + r) (by omega)
  have hhighRange : 0xd800 ≤ 0xd800 + q ∧ 0xd800 + q ≤ 0xdbff := by omega
  have hlowRange : 0xdc00 ≤ 0xdc00 + r ∧ 0xdc00 + r ≤ 0xdfff := by omega
  rw [scanUnicode, hhigh]
  simp only [Option.bind_eq_bind, Option.bind_some]
  rw [if_pos hhighRange, unicodeEscape, List.cons_append, List.cons_append, scanLowSurrogate,
    hlow]
  simp only [Option.bind_eq_bind, Option.bind_some]
  rw [if_pos hlowRange, Nat.add_sub_cancel_left, Nat.add_sub_cancel_left]

/-- A character beyond the basic plane, escaped as a surrogate pair. -/
theorem scanUnicode_surrogates {c : Char} (hc : 65536 ≤ c.toNat) (rest : Text) :
    scanUnicode (hexDigits (0xd800 + (c.toNat - 0x10000) / 1024)
      ++ (unicodeEscape (0xdc00 + (c.toNat - 0x10000) % 1024) ++ rest)) = some (c, rest) := by
  have hlt := toNat_lt c
  have hq : (c.toNat - 0x10000) / 1024 < 1024 := by omega
  have hr : (c.toNat - 0x10000) % 1024 < 1024 := by omega
  have hcode : 0x10000 + ((c.toNat - 0x10000) / 1024 * 1024 + (c.toNat - 0x10000) % 1024)
      = c.toNat := by
    omega
  rw [scanUnicode_pair hq hr, hcode, Char.ofNat_toNat]

theorem shortEscape_cases {c letter : Char} (h : shortEscape c = some letter) :
    letter ≠ 'u' ∧ escapedChar letter = some c := by
  unfold shortEscape at h
  split_ifs at h <;>
  · cases h
    subst_vars
    decide

/-- A rendered character is either itself or a backslash and its escape. -/
theorem escapeChar_cases (c : Char) :
    (escapeChar c = [c] ∧ c ≠ '\x22' ∧ c ≠ '\x5c' ∧ 0x20 ≤ c.toNat)
      ∨ ∃ escape, escapeChar c = '\x5c' :: escape
        ∧ ∀ rest, scanEscape (escape ++ rest) = some (c, rest) := by
  unfold escapeChar
  cases hshort : shortEscape c with
  | some letter =>
    obtain ⟨hne, hback⟩ := shortEscape_cases hshort
    refine Or.inr ⟨[letter], rfl, fun rest => ?_⟩
    rw [List.singleton_append, scanEscape, if_neg hne, hback]
    rfl
  | none =>
    simp only
    split_ifs with hprintable hplane
    · left
      unfold shortEscape at hshort
      split_ifs at hshort with hquote hbackslash
      exact ⟨rfl, hquote, hbackslash, hprintable.1⟩
    · refine Or.inr ⟨_, rfl, fun rest => ?_⟩
      rw [List.cons_append, scanEscape, if_pos rfl, scanUnicode_hexDigits hplane]
    · refine Or.inr ⟨_, rfl, fun rest => ?_⟩
      show scanEscape ('u' :: (hexDigits _ ++ unicodeEscape _ ++ rest)) = _
      rw [scanEscape, if_pos rfl, List.append_assoc,
        scanUnicode_surrogates (Nat.not_lt.1 hplane)]

theorem escapeChar_length_pos (c : Char) : 1 ≤ (escapeChar c).length := by
  obtain ⟨h, _⟩ | ⟨escape, h, _⟩ := escapeChar_cases c
  · rw [h]
    simp
  · rw [h]
    simp

theorem scanChars_stringTail (s rest : Text) {n : ℕ} (hn : (stringTail s).length ≤ n) :
    scanChars n (stringTail s ++ rest) = some (s, rest) := by
  induction s generalizing n with
  | nil =>
    cases n with
    | zero => simp [stringTail] at hn
    | succ n => rfl
  | cons c s ih =>
    have hsplit : stringTail (c :: s) = escapeChar c ++ stringTail s := by
      simp only [stringTail, List.flatMap_cons, List.append_assoc]
    have hpos := escapeChar_length_pos c
    rw [hsplit, List.length_append] at hn
    cases n with
    | zero => omega
    | succ n =>
      have hrest := ih (n := n) (by omega)
      rw [hsplit, List.append_assoc]
      obtain ⟨hself, hquote, hbackslash, hprintable⟩ | ⟨escape, hescape, hscan⟩ :=
        escapeChar_cases c
      · rw [hself, List.singleton_append, scanChars, if_neg hquote, if_neg hbackslash,
          if_neg (by omega), hrest]
        rfl
      · rw [hescape, List.cons_append, scanChars, if_neg (by decide), if_pos rfl, hscan]
        simp only [Option.bind_eq_bind, Option.bind_some]
        rw [hrest]
        rfl

theorem scanString_stringTail (s rest : Text) :
    scanString (stringTail s ++ rest) = some (s, rest) :=
  scanChars_stringTail s rest (by simp)

end Strings

/-! ## Values are read back -/

/-- The hooks, or the reader of floats, accept the node itself. -/
def Accepted : JsonValue φ → Prop
  | .int i => hooks.parseInt (intText i) = some i
  | .float x => FloatText.isFinite x = true
  | .obj entries => hooks.pairs entries = some (.obj entries)
  | _ => True

omit [FloatText φ] in
theorem skipSpace_cons {c : Char} {rest : Text} (h : isSpace c = false) :
    skipSpace (c :: rest) = c :: rest :=
  List.dropWhile_cons_of_neg (by rw [h]; decide)

theorem IsWhole.head {sign whole : Text} (rest : Text) (hwhole : IsWhole whole)
    (hsign : IsSign sign) :
    ∃ c tail, sign ++ (whole ++ rest) = c :: tail ∧ (c = '-' ∨ isDigit c = true) := by
  obtain rfl | rfl := hsign
  · obtain rfl | ⟨c, digits, rfl, hc, _⟩ := hwhole
    · exact ⟨'0', rest, rfl, Or.inr (by decide)⟩
    · refine ⟨c, digits ++ rest, rfl, Or.inr ?_⟩
      unfold isDigit
      rw [decide_eq_true_iff]
      exact ⟨Char.le_trans (show '0' ≤ '1' by decide) hc.1, hc.2⟩
  · exact ⟨'-', whole ++ rest, rfl, Or.inl rfl⟩

theorem intText_head (i : ℤ) :
    ∃ c tail, intText i = c :: tail ∧ (c = '-' ∨ isDigit c = true) := by
  obtain ⟨sign, hsign, htext⟩ := intText_eq i
  obtain ⟨c, tail, hcons, hc⟩ := (isWhole_natText i.natAbs).head [] hsign
  rw [List.append_nil] at hcons
  exact ⟨c, tail, htext.trans hcons, hc⟩

theorem repr_head [LawfulFloatText φ] {x : φ} (hx : FloatText.isFinite x = true) :
    ∃ c tail, FloatText.repr x = c :: tail ∧ (c = '-' ∨ isDigit c = true) := by
  obtain ⟨sign, whole, fraction, exponent, htext, hsign, hwhole, _⟩ :=
    LawfulFloatText.literal x hx
  rw [htext]
  exact hwhole.head _ hsign

/-- A number is dispatched to the number pattern. -/
theorem scanOnce_number {c : Char} (hc : c = '-' ∨ isDigit c = true) (n : ℕ) (rest : Text) :
    scanOnce hooks (n + 1) (c :: rest) = scanNumber hooks (c :: rest) := by
  rw [scanOnce]
  all_goals
    intro tail heq
    cases heq
    exact absurd hc (by decide)

theorem not_space_of_number {c : Char} (hc : c = '-' ∨ isDigit c = true) :
    isSpace c = false ∧ c ≠ ']' := by
  unfold isSpace
  rw [decide_eq_false_iff_not]
  constructor
  · rintro (rfl | rfl | rfl | rfl) <;> exact absurd hc (by decide)
  · rintro rfl
    exact absurd hc (by decide)

/-- The text of a value begins with neither white space nor a closing bracket. -/
theorem render_head [LawfulFloatText φ] {v : JsonValue φ} (hv : Accepted hooks v) :
    ∃ c tail, render v = c :: tail ∧ isSpace c = false ∧ c ≠ ']' := by
  rcases v with _ | (_ | _) | i | x | s | (_ | ⟨item, items⟩) | (_ | ⟨⟨key, value⟩, entries⟩)
  case int =>
    obtain ⟨c, tail, htext, hc⟩ := intText_head i
    exact ⟨c, tail, by rw [render, htext], not_space_of_number hc⟩
  case float =>
    obtain ⟨c, tail, htext, hc⟩ := repr_head hv
    exact ⟨c, tail, by rw [render, htext], not_space_of_number hc⟩
  all_goals
    exact ⟨_, _, by rw [render], by decide, by decide⟩

/-- With this much fuel, every scanner reads back what the renderer wrote. -/
structure ReadsBack (n : ℕ) : Prop where
  value (v : JsonValue φ) (rest : Text) : Everywhere (Accepted hooks) v →
    (render v).length ≤ n → Delimited rest → scanOnce hooks n (render v ++ rest) = some (v, rest)
  items (item : JsonValue φ) (items : List (JsonValue φ)) (rest : Text) :
    (∀ x ∈ item :: items, Everywhere (Accepted hooks) x) →
    (render item ++ renderItems items).length ≤ n →
    scanItems hooks n (render item ++ (renderItems items ++ rest)) = some (item :: items, rest)
  entries (key : Text) (value : JsonValue φ) (entries : List (Text × JsonValue φ)) (rest : Text) :
    (∀ e ∈ (key, value) :: entries, Everywhere (Accepted hooks) e.2) →
    (stringTail key ++ ':' :: (render value ++ renderEntries entries)).length ≤ n →
    scanEntries hooks n
      (stringTail key ++ ':' :: (render value ++ (renderEntries entries ++ rest)))
      = some ((key, value) :: entries, rest)

section ReadsBack

variable [LawfulFloatText φ] {hooks} {n : ℕ}

theorem render_length_pos {v : JsonValue φ} (hv : Accepted hooks v) : 1 ≤ (render v).length := by
  obtain ⟨c, tail, htext, _⟩ := render_head hooks hv
  rw [htext]
  exact Nat.succ_pos _

/-- A rendered value is not preceded by white space. -/
theorem skipSpace_render {v : JsonValue φ} (hv : Accepted hooks v) (rest : Text) :
    skipSpace (render v ++ rest) = render v ++ rest := by
  obtain ⟨c, tail, htext, hspace, _⟩ := render_head hooks hv
  rw [htext, List.cons_append, skipSpace_cons hspace]

/-- No text is rendered in no character. -/
theorem readsBack_zero : ReadsBack hooks 0 where
  value v rest hv hlength := by
    have hpos := render_length_pos hv.self
    omega
  items item items rest hv hlength := by
    have hpos := render_length_pos (hv item List.mem_cons_self).self
    rw [List.length_append] at hlength
    omega
  entries key value entries rest _ hlength := by simp at hlength

/-- `scan_once`, where the scanners of arrays and objects read back. -/
theorem ReadsBack.scanOnce (h : ReadsBack hooks n) {v : JsonValue φ} {rest : Text}
    (hv : Everywhere (Accepted hooks) v) (hlength : (render v).length ≤ n + 1)
    (hrest : Delimited rest) :
    JsonValue.scanOnce hooks (n + 1) (render v ++ rest) = some (v, rest) := by
  rcases v with _ | (_ | _) | i | x | s | (_ | ⟨item, items⟩) | (_ | ⟨⟨key, value⟩, entries⟩)
  case int =>
    obtain ⟨c, tail, htext, hc⟩ := intText_head i
    have hscan := scanNumber_int hooks hv.self hrest
    rw [render]
    rw [htext, List.cons_append] at hscan ⊢
    rw [scanOnce_number hooks hc, hscan]
  case float =>
    obtain ⟨c, tail, htext, hc⟩ := repr_head hv.self
    have hscan := scanNumber_float hooks hv.self hrest
    rw [render]
    rw [htext, List.cons_append] at hscan ⊢
    rw [scanOnce_number hooks hc, hscan]
  case str =>
    rw [render, List.cons_append, JsonValue.scanOnce, scanString_stringTail]
    rfl
  case arr.cons =>
    have hmem : item ∈ (JsonValue.arr (item :: items)).children := List.mem_cons_self
    obtain ⟨c, tail, htext, hspace, hclosing⟩ := render_head hooks (hv.child hmem).self
    have hitems := h.items item items rest (fun x hx => hv.child hx) (by
      rw [render, List.length_cons] at hlength
      omega)
    rw [render, List.cons_append, List.append_assoc, JsonValue.scanOnce]
    rw [htext, List.cons_append] at hitems ⊢
    rw [skipSpace_cons hspace]
    split
    · -- the first item does not close the array
      rename_i heq
      cases heq
      exact absurd rfl hclosing
    · rw [hitems]
      rfl
  case obj.cons =>
    have hentries := h.entries key value entries rest
      (fun e he => hv.child (List.mem_map_of_mem he)) (by
        rw [render, List.length_cons, List.length_cons] at hlength
        omega)
    have haccepted : hooks.pairs ((key, value) :: entries) = _ := hv.self
    have hopen : skipSpace ('\x22' :: (stringTail key ++ ':' :: (render value
        ++ (renderEntries entries ++ rest)))) = _ := skipSpace_cons (by decide)
    rw [render]
    simp only [List.cons_append, List.append_assoc]
    rw [JsonValue.scanOnce]
    simp only [hopen, hentries, haccepted, Option.bind_eq_bind, Option.bind_some]
  case obj.nil =>
    have haccepted : hooks.pairs [] = _ := hv.self
    have hclose : skipSpace ('\x7d' :: rest) = _ := skipSpace_cons (by decide)
    rw [render, List.cons_append, List.cons_append, List.nil_append, JsonValue.scanOnce]
    simp only [hclose, haccepted, Option.bind_eq_bind, Option.bind_some]
  all_goals rfl

/-- `JSONArray`: the first item, and the rest of them after a comma. -/
theorem ReadsBack.scanItems (h : ReadsBack hooks n) {item : JsonValue φ}
    {items : List (JsonValue φ)} {rest : Text}
    (hv : ∀ x ∈ item :: items, Everywhere (Accepted hooks) x)
    (hlength : (render item ++ renderItems items).length ≤ n + 1) :
    JsonValue.scanItems hooks (n + 1) (render item ++ (renderItems items ++ rest)) =
      some (item :: items, rest) := by
  have hitem := hv item List.mem_cons_self
  have hpos := render_length_pos hitem.self
  rw [List.length_append] at hlength
  cases items with
  | nil =>
    rw [renderItems, List.length_singleton] at hlength
    have hscan := h.value item (']' :: rest) hitem (by omega)
      (Or.inr ⟨_, _, rfl, Or.inr (Or.inl rfl)⟩)
    have hclose : skipSpace (']' :: rest) = _ := skipSpace_cons (by decide)
    rw [renderItems, List.singleton_append, JsonValue.scanItems, hscan]
    simp only [Option.bind_eq_bind, Option.bind_some, hclose]
  | cons next items =>
    rw [renderItems, List.length_cons, List.length_append] at hlength
    have hscan := h.value item (',' :: (render next ++ (renderItems items ++ rest))) hitem
      (by omega) (Or.inr ⟨_, _, rfl, Or.inl rfl⟩)
    have hitems := h.items next items rest (fun x hx => hv x (List.mem_cons_of_mem _ hx))
      (by rw [List.length_append]; omega)
    have hcomma : skipSpace (',' :: (render next ++ (renderItems items ++ rest))) = _ :=
      skipSpace_cons (by decide)
    have hnext := skipSpace_render (hv next (List.mem_cons_of_mem _ List.mem_cons_self)).self
      (renderItems items ++ rest)
    rw [renderItems, List.cons_append, List.append_assoc, JsonValue.scanItems, hscan]
    simp only [Option.bind_eq_bind, Option.bind_some, hcomma, hnext, hitems]

/-- `JSONObject`: the first key and its value, and the rest of the entries after a comma. -/
theorem ReadsBack.scanEntries (h : ReadsBack hooks n) {key : Text} {value : JsonValue φ}
    {entries : List (Text × JsonValue φ)} {rest : Text}
    (hv : ∀ e ∈ (key, value) :: entries, Everywhere (Accepted hooks) e.2)
    (hlength : (stringTail key ++ ':' :: (render value ++ renderEntries entries)).length ≤ n + 1) :
    JsonValue.scanEntries hooks (n + 1)
      (stringTail key ++ ':' :: (render value ++ (renderEntries entries ++ rest)))
      = some ((key, value) :: entries, rest) := by
  have hvalue := hv (key, value) List.mem_cons_self
  have hcolon : skipSpace (':' :: (render value ++ (renderEntries entries ++ rest))) = _ :=
    skipSpace_cons (by decide)
  have hstart := skipSpace_render hvalue.self (renderEntries entries ++ rest)
  have hpos := render_length_pos hvalue.self
  rw [List.length_append, List.length_cons, List.length_append] at hlength
  rw [JsonValue.scanEntries, scanString_stringTail]
  simp only [Option.bind_eq_bind, Option.bind_some, hcolon, hstart]
  cases entries with
  | nil =>
    have hscan := h.value value ('\x7d' :: rest) hvalue (by omega)
      (Or.inr ⟨_, _, rfl, Or.inr (Or.inr rfl)⟩)
    have hclose : skipSpace ('\x7d' :: rest) = _ := skipSpace_cons (by decide)
    rw [renderEntries, List.singleton_append, hscan]
    simp only [Option.bind_some, hclose]
  | cons next entries =>
    obtain ⟨nextKey, nextValue⟩ := next
    rw [renderEntries] at hlength ⊢
    simp only [List.length_cons, List.length_append] at hlength
    have hscan := h.value value (',' :: '\x22' :: (stringTail nextKey ++ ':' ::
      (render nextValue ++ (renderEntries entries ++ rest)))) hvalue (by omega)
      (Or.inr ⟨_, _, rfl, Or.inl rfl⟩)
    have hentries := h.entries nextKey nextValue entries rest
      (fun e he => hv e (List.mem_cons_of_mem _ he)) (by
        rw [List.length_append, List.length_cons, List.length_append]
        omega)
    -- the comma and the quote of the next key are skipped one after the other
    have hcomma : skipSpace (',' :: '\x22' :: (stringTail nextKey ++ ':' ::
        (render nextValue ++ (renderEntries entries ++ rest)))) = _ :=
      skipSpace_cons (by decide)
    have hquote : skipSpace ('\x22' :: (stringTail nextKey ++ ':' ::
        (render nextValue ++ (renderEntries entries ++ rest)))) = _ :=
      skipSpace_cons (by decide)
    simp only [List.cons_append, List.append_assoc]
    rw [hscan]
    simp only [Option.bind_some, hcomma, hquote, hentries]

theorem readsBack (n : ℕ) : ReadsBack hooks n := by
  induction n with
  | zero => exact readsBack_zero
  | succ n ih =>
    exact ⟨fun _ _ hv hlength hrest => ih.scanOnce hv hlength hrest,
      fun _ _ _ hv hlength => ih.scanItems hv hlength,
      fun _ _ _ _ hv hlength => ih.scanEntries hv hlength⟩

end ReadsBack

/-- A value that the hooks accept everywhere is read back from its text. -/
theorem loads_render [LawfulFloatText φ] {v : JsonValue φ} (hv : Everywhere (Accepted hooks) v) :
    loads hooks (render v) = some v := by
  have hstart := skipSpace_render hv.self []
  have hscan := (readsBack (render v).length).value v [] hv (le_refl _) (Or.inl rfl)
  rw [List.append_nil] at hstart hscan
  rw [loads, hstart, hscan]
  rfl

end JsonValue
