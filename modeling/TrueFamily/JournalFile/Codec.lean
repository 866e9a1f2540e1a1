import TrueFamily.Lib.PyCanonical

/-!
# The JSON of the file journal

`_validate_json_tree`, `_json_lexical_preflight`, `_canonical_encode` and `_canonical_decode`: the
bounds on the tree and on its bytes, and the canonical bytes of a root. Errors keep their class.
-/

namespace TrueFamily.JournalFile

open JsonValue (FloatText Text decodeAscii natText)

variable {φ : Type}

/-- The errors of the file backend that roots and protocol use raise. -/
inductive ReferenceJournalFileError
  /-- `ReferenceJournalCorruptionError`. -/
  | corruption
  /-- `ReferenceJournalProtocolError`. -/
  | protocol
  /-- `ReferenceJournalConflictError`. -/
  | conflict
  /-- `ReferenceJournalPoisonedError`, or the ambiguous one. -/
  | poisoned
  deriving DecidableEq, Repr

abbrev Result := Except ReferenceJournalFileError

abbrev Bytes := List UInt8

def maxJsonDepth : ℕ := 64

def maxJsonNodes : ℕ := 250000

def maxIntegerDigits : ℕ := 128

def maxJsonStringBytes : ℕ := 4 * 1024 * 1024

def maxJsonTokenBytes : ℕ := 1024

/-! ## The tree -/

section Tree

variable [FloatText φ]

/-- The checks of a value that holds no other. -/
def validateLeaf : PyValue φ → Result Unit
  | .str value => if maxJsonStringBytes < value.length then .error .corruption else .ok ()
  | .int value =>
    -- `bit_length() > 426` and then the decimal digits
    if 2 ^ 426 ≤ value.natAbs then .error .corruption
    else if maxIntegerDigits < (natText value.natAbs).length then .error .corruption
    else .ok ()
  | .float value => if FloatText.isFinite value then .ok () else .error .corruption
  | _ => .ok ()

/-- The loop of `_validate_json_tree`, with the nodes counted so far and the stack, its top first.
Every pass counts a node, so the bound on the nodes bounds the passes. -/
def validateLoop : ℕ → ℕ → List (PyValue φ × ℕ) → Result Unit
  | _, _, [] => .ok ()
  | 0, _, _ :: _ => .error .corruption
  | passes + 1, nodes, (current, depth) :: stack =>
    if maxJsonNodes < nodes + 1 then .error .corruption
    else if maxJsonDepth < depth then .error .corruption
    else
      match current with
      | .obj entries =>
        if maxJsonNodes < nodes + 1 + entries.length then .error .corruption
        else if entries.any fun entry => decide (maxJsonStringBytes < entry.1.length) then
          .error .corruption
        else
          validateLoop passes (nodes + 1 + entries.length)
            ((entries.map fun entry => (entry.2, depth + 1)).reverse ++ stack)
      | .arr items =>
        validateLoop passes (nodes + 1) ((items.map fun item => (item, depth + 1)).reverse ++ stack)
      | leaf =>
        match validateLeaf leaf with
        | .ok _ => validateLoop passes (nodes + 1) stack
        | .error e => .error e

/-- `_validate_json_tree`. -/
def validateJsonTree (value : PyValue φ) : Result Unit :=
  match value with
  | .obj entries => validateLoop (maxJsonNodes + 1) 0 [(.obj entries, 1)]
  | _ => .error .corruption

end Tree

/-! ## The bytes -/

/-- The letters that may follow a backslash. -/
def escapeLetters : Bytes := [0x22, 0x5c, 0x2f, 0x62, 0x66, 0x6e, 0x72, 0x74, 0x75]

def isHexByte (byte : UInt8) : Bool :=
  decide ((0x30 ≤ byte ∧ byte ≤ 0x39) ∨ (0x61 ≤ byte ∧ byte ≤ 0x66) ∨ (0x41 ≤ byte ∧ byte ≤ 0x46))

/-- A string of `_json_lexical_preflight`, after its opening quotation mark, with the bytes counted
so far. -/
def preflightString : ℕ → ℕ → Bytes → Result Bytes
  | 0, _, _ => .error .corruption
  | _ + 1, _, [] => .error .corruption
  | n + 1, count, current :: rest =>
    if 0x80 ≤ current ∨ current < 0x20 then .error .corruption
    else if current = 0x22 then .ok rest
    else if current = 0x5c then
      match rest with
      | [] => .error .corruption
      | letter :: rest =>
        if letter ∉ escapeLetters then .error .corruption
        else if letter = 0x75 then
          if rest.length < 4 ∨ (rest.take 4).all isHexByte = false then .error .corruption
          else if maxJsonStringBytes < count + 6 then .error .corruption
          else preflightString n (count + 6) (rest.drop 4)
        else if maxJsonStringBytes < count + 2 then .error .corruption
        else preflightString n (count + 2) rest
    else if maxJsonStringBytes < count + 1 then .error .corruption
    else preflightString n (count + 1) rest

/-- The bytes of a number. -/
def isNumberByte (byte : UInt8) : Bool :=
  decide ((0x30 ≤ byte ∧ byte ≤ 0x39) ∨ byte = 0x2d ∨ byte = 0x2b ∨ byte = 0x2e ∨ byte = 0x65 ∨
    byte = 0x45)

def isLetterByte (byte : UInt8) : Bool := decide (0x61 ≤ byte ∧ byte ≤ 0x7a)

/-- `true`, `false` and `null`. -/
def literals : List Bytes :=
  [[0x74, 0x72, 0x75, 0x65], [0x66, 0x61, 0x6c, 0x73, 0x65], [0x6e, 0x75, 0x6c, 0x6c]]

/-- A number or a literal of `_json_lexical_preflight`: the bytes after it. -/
def preflightToken (byte : UInt8) (rest : Bytes) : Result Bytes :=
  if byte = 0x2d ∨ (0x30 ≤ byte ∧ byte ≤ 0x39) then
    if maxJsonTokenBytes < ((byte :: rest).takeWhile isNumberByte).length then .error .corruption
    else .ok ((byte :: rest).dropWhile isNumberByte)
  else if byte = 0x74 ∨ byte = 0x66 ∨ byte = 0x6e then
    if (byte :: rest).takeWhile isLetterByte ∉ literals then .error .corruption
    else .ok ((byte :: rest).dropWhile isLetterByte)
  else .error .corruption

/-- The loop of `_json_lexical_preflight`, with the containers that are open and the nodes counted
so far. Every pass takes a byte. -/
def preflightLoop : ℕ → Bytes → ℕ → Bytes → Result Unit
  | _, stack, _, [] => if stack = [] then .ok () else .error .corruption
  | 0, _, _, _ :: _ => .error .corruption
  | n + 1, stack, nodes, byte :: rest =>
    if 0x80 ≤ byte ∨ byte ≤ 0x20 then .error .corruption
    else if byte = 0x22 then
      match preflightString (rest.length + 1) 1 rest with
      | .error e => .error e
      | .ok rest =>
        if maxJsonNodes < nodes + 1 then .error .corruption
        else preflightLoop n stack (nodes + 1) rest
    else if byte = 0x7b ∨ byte = 0x5b then
      if maxJsonDepth < stack.length + 1 then .error .corruption
      else if maxJsonNodes < nodes + 1 then .error .corruption
      else preflightLoop n ((if byte = 0x7b then 0x7d else 0x5d) :: stack) (nodes + 1) rest
    else if byte = 0x7d ∨ byte = 0x5d then
      match stack with
      | [] => .error .corruption
      | opened :: stack =>
        if opened ≠ byte then .error .corruption else preflightLoop n stack nodes rest
    else if byte = 0x2c ∨ byte = 0x3a then preflightLoop n stack nodes rest
    else
      match preflightToken byte rest with
      | .error e => .error e
      | .ok rest =>
        if maxJsonNodes < nodes + 1 then .error .corruption
        else preflightLoop n stack (nodes + 1) rest

/-- `_json_lexical_preflight`. -/
def jsonLexicalPreflight (raw : Bytes) (maxBytes : ℕ) : Result Unit :=
  if maxBytes < raw.length then .error .corruption
  else if raw.take 3 = [0xef, 0xbb, 0xbf] then .error .corruption
  else preflightLoop raw.length [] 0 raw

/-! ## The codec -/

section Codec

variable [FloatText φ]

/-- The UTF-8 bytes of an ASCII text. -/
def encodeAscii (text : Text) : Bytes := text.map fun c => UInt8.ofNat c.toNat

/-- The bytes that the chunks of `_json_encoder().iterencode` make up. -/
def rendered (data : PyValue φ) : Bytes := encodeAscii data.sortKeys.render

/-- `_canonical_encode`. The bound is exceeded by some chunk exactly when all bytes exceed it. -/
def canonicalEncode (data : PyValue φ) (maxBytes : ℕ) : Result Bytes := do
  validateJsonTree data
  if maxBytes < (rendered data).length then .error .corruption else .ok (rendered data)

/-- `_matches_canonical_encoding`. -/
def matchesCanonicalEncoding (data : PyValue φ) (raw : Bytes) (maxBytes : ℕ) : Bool :=
  decide ((rendered data).length ≤ maxBytes ∧ rendered data = raw)

/-- `parse_integer`, `parse_float` and `object_pairs`. -/
def decodeHooks : PyValue.ParseHooks φ where
  parseInt := fun text =>
    let digits := if text.head? = some '-' then text.tail else text
    if maxIntegerDigits < digits.length then none else some (JsonValue.intOfText text)
  parseFloat := FloatText.isFinite
  pairs := fun entries => decide (entries.map Prod.fst).Nodup

/-- `_canonical_decode`. -/
def canonicalDecode (raw : Bytes) (maxBytes : ℕ) : Result (PyValue φ) := do
  jsonLexicalPreflight raw maxBytes
  match PyValue.loads decodeHooks (decodeAscii raw) with
  | none => .error .corruption
  | some decoded => do
    validateJsonTree decoded
    if matchesCanonicalEncoding decoded raw maxBytes then .ok decoded else .error .corruption

/-- `_generation`. -/
def generation (data : PyValue φ) : Result ℤ :=
  match data with
  | .obj entries =>
    match entries.lookup (PyText.ofString "generation") with
    | some (.int value) => if value < 0 then .error .corruption else .ok value
    | _ => .error .corruption
  | _ => .error .corruption

end Codec

end TrueFamily.JournalFile
