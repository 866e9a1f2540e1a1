import TrueFamily.Lib.Checked
import TrueFamily.Lib.Json
import TrueFamily.Lib.Unicode

/-!
# Texts and scalars of the preflight

The values that the preflight reads are Python objects. A `Value` is a JSON value, and its unit
leaf stands for every object that is none: a float, bytes, a text with a lone surrogate, a
container that is reached twice. `_validate_json_tree` refuses it wherever it stands.

Every check raises a `PhysicalProbePreflightError` with the code of its caller.
-/

namespace TrueFamily.Preflight

open Checked JsonValue

/-- `PreflightErrorCode`, the code of a `PhysicalProbePreflightError`. -/
inductive PreflightErrorCode
  | invalidInput
  | aclRejected
  | deploymentRejected
  | prearmRejected
  | armRejected
  | internalRejected
  deriving DecidableEq, Repr

/-- What a function of the preflight returns or raises. -/
abbrev Checks := Except PreflightErrorCode

abbrev Value := JsonValue Unit

def maxSnapshotJsonBytes : ℕ := 65536
def maxJsonDepth : ℕ := 12
def maxJsonNodes : ℕ := 1024
def maxJsonStringLength : ℕ := 512
def maxJsonListLength : ℕ := 64
def maxJsonMappingFields : ℕ := 64
def maxSafeInteger : ℤ := 9007199254740991
def maxDeploymentWindowMs : ℤ := 60000
def maxPrearmWindowMs : ℤ := 5000
def maxRequestWindowMs : ℤ := 60000
def maxOperationWindowMs : ℤ := 900000

/-! ## Values -/

/-- The characters of an ASCII literal. -/
def chars (literal : String) : Text :=
  literal.toByteArray.data.toList.map fun byte => Char.ofNat byte.toNat

/-- `_require_mapping`: a dictionary with exactly these keys. -/
def requireMapping (value : Value) (expectedFields : List String) (code : PreflightErrorCode) :
    Checks (List (Text × Value)) :=
  match value with
  | .obj entries => do
    check ((∀ entry ∈ entries, ∃ name ∈ expectedFields, entry.1 = chars name)
      ∧ ∀ name ∈ expectedFields, ∃ entry ∈ entries, entry.1 = chars name) code
    return entries
  | _ => .error code

/-- `data[name]`, for a key that `_require_mapping` has found. -/
def field (data : List (Text × Value)) (name : String) : Value :=
  (data.lookup (chars name)).getD .null

/-- `type(value) is int and value == expected`. -/
def isInt (expected : ℤ) : Value → Bool
  | .int value => decide (value = expected)
  | _ => false

/-- `type(value) is str and value == expected`. -/
def isStr (expected : Text) : Value → Bool
  | .str value => decide (value = expected)
  | _ => false

/-- `type(value) is bool and value is expected`. -/
def isBool (expected : Bool) : Value → Bool
  | .bool value => decide (value = expected)
  | _ => false

/-- `type(value) is list and not value`. -/
def isEmptyList : Value → Bool
  | .arr [] => true
  | _ => false

/-- A leaf with the type and the value of another. -/
def sameLeaf : Value → Value → Bool
  | .null, .null => true
  | .bool left, .bool right => decide (left = right)
  | .int left, .int right => decide (left = right)
  | .str left, .str right => decide (left = right)
  | _, _ => false

/-- `_has_exact_values`, of a dictionary that has passed `_require_mapping`. -/
def hasExactValues (data : List (Text × Value)) (expected : List (String × Value)) : Bool :=
  expected.all fun entry => sameLeaf (field data entry.1) entry.2

def requireSafeInteger (value : Value) (code : PreflightErrorCode) : Checks ℤ :=
  match value with
  | .int number => do
    check (0 ≤ number ∧ number ≤ maxSafeInteger) code
    return number
  | _ => .error code

def requirePositiveInteger (value : Value) (code : PreflightErrorCode) : Checks ℤ := do
  let number ← requireSafeInteger value code
  check (0 < number) code
  return number

def requireIntegerRange (value : Value) (minimum maximum : ℤ) (code : PreflightErrorCode) :
    Checks ℤ := do
  let number ← requireSafeInteger value code
  check (minimum ≤ number ∧ number ≤ maximum) code
  return number

/-! ## Patterns -/

def isLowerHex (c : Char) : Bool := isDigit c || decide ('a' ≤ c ∧ c ≤ 'f')

def isLowerAlphanumeric (c : Char) : Bool := isDigit c || decide ('a' ≤ c ∧ c ≤ 'z')

/-- A fixed text and then exactly `count` hexadecimal digits. -/
def hexAfter (start : Text) (count : ℕ) (text : Text) : Bool :=
  start.isPrefixOf text && decide ((text.drop start.length).length = count)
    && (text.drop start.length).all isLowerHex

/-- `_DIGEST_PATTERN`. -/
def digestPattern : Text → Bool := hexAfter [] 64

/-- `_IEEE_PATTERN`. -/
def ieeePattern : Text → Bool := hexAfter (chars "0x") 16

/-- `_BOOT_PATTERN`. -/
def bootPattern : Text → Bool := hexAfter (chars "tfpp-boot-") 32

/-- `_REQUEST_PATTERN`. -/
def requestPattern : Text → Bool := hexAfter (chars "tfpp-req-") 24

/-- `_OPERATION_PATTERN`. -/
def operationPattern : Text → Bool := hexAfter (chars "tfpp-op-") 24

/-- `_NONCE_PATTERN`. -/
def noncePattern : Text → Bool := hexAfter (chars "tfpp-nonce-") 32

/-- `_FINGERPRINT_PATTERN`. -/
def fingerprintPattern (text : Text) : Bool :=
  (chars "_TZE").isPrefixOf text && decide (text.length = 16)
    && ((text.drop 4).take 3).all isDigit && (text.drop 7).head? == some '_'
    && (text.drop 8).all isLowerAlphanumeric

/-- A text that the pattern matches as a whole. -/
def requirePattern (pattern : Text → Bool) (value : Value) (code : PreflightErrorCode) :
    Checks Text :=
  match value with
  | .str text => do
    check (pattern text = true) code
    return text
  | _ => .error code

/-- `_require_digest`. -/
def requireDigest (value : Value) (code : PreflightErrorCode) : Checks Text :=
  requirePattern digestPattern value code

/-! ## Topics -/

/-- The characters of `_BOUNDARY_WHITESPACE_PATTERN`. -/
def isBoundaryWhitespace (c : Char) : Bool :=
  decide ((0x09 ≤ c.toNat ∧ c.toNat ≤ 0x0d) ∨ c.toNat = 0x20 ∨ c.toNat = 0x85 ∨ c.toNat = 0xa0
    ∨ c.toNat = 0x1680 ∨ (0x2000 ≤ c.toNat ∧ c.toNat ≤ 0x200a) ∨ c.toNat = 0x2028
    ∨ c.toNat = 0x2029 ∨ c.toNat = 0x202f ∨ c.toNat = 0x205f ∨ c.toNat = 0x3000
    ∨ c.toNat = 0xfeff)

/-- `_BOUNDARY_WHITESPACE_PATTERN.search(value)`: a first or a last character of the class. -/
def hasBoundaryWhitespace (text : Text) : Bool :=
  text.head?.any isBoundaryWhitespace || text.getLast?.any isBoundaryWhitespace

/-- `_require_canonical_text`. -/
def requireCanonicalText (value : Value) (maximum : ℕ) (code : PreflightErrorCode) :
    Checks Text :=
  match value with
  | .str text => do
    check (text ≠ [] ∧ text.length ≤ maximum) code
    check (hasBoundaryWhitespace text = false ∧ text.all (fun c => decide (0x1f < c.toNat)) = true)
      code
    return text
  | _ => .error code

/-- `text.startswith("/")`. -/
def startsWithSlash (text : Text) : Bool := text.head? == some '/'

/-- `text.endswith("/")`. -/
def endsWithSlash (text : Text) : Bool := text.getLast? == some '/'

/-- `"+" in text or "#" in text`. -/
def hasWildcard (text : Text) : Bool := text.contains '+' || text.contains '#'

/-- `"//" in text`. -/
def hasDoubleSlash (text : Text) : Bool :=
  (text.zip text.tail).any fun pair => decide (pair = ('/', '/'))

def requireBaseTopic (value : Value) (code : PreflightErrorCode) : Checks Text := do
  let topic ← requireCanonicalText value 128 code
  check (startsWithSlash topic = false ∧ endsWithSlash topic = false ∧ hasWildcard topic = false)
    code
  return topic

/-- `text.split("/", 1)[0]`. -/
def firstSegment (text : Text) : Text := text.takeWhile fun c => decide (c ≠ '/')

def requireFriendlyName (value : Value) (code : PreflightErrorCode) : Checks Text := do
  let name ← requireCanonicalText value 150 code
  check (hasWildcard name = false ∧ firstSegment name ≠ (chars "bridge")) code
  return name

def requireSetTopic (value : Value) (friendlyName : Text) (code : PreflightErrorCode) :
    Checks Text := do
  let topic ← requireCanonicalText value 160 code
  check (topic = friendlyName ++ (chars "/set") ∧ startsWithSlash topic = false
    ∧ hasDoubleSlash topic = false ∧ hasWildcard topic = false) code
  return topic

/-- A code point that `_mqtt_utf8_is_valid` lets pass. -/
def mqttCharIsValid (c : Char) : Bool :=
  decide (¬ (c.toNat ≤ 0x1f ∨ (0x7f ≤ c.toNat ∧ c.toNat ≤ 0x9f)
    ∨ (0xfdd0 ≤ c.toNat ∧ c.toNat ≤ 0xfdef) ∨ c.toNat % 0x10000 = 0xfffe
    ∨ c.toNat % 0x10000 = 0xffff))

def mqttUtf8IsValid (text : Text) : Bool :=
  decide (text ≠ []) && decide ((Unicode.utf8 text).length ≤ 65535) && text.all mqttCharIsValid

def topicIsValid (text : Text) : Bool :=
  mqttUtf8IsValid text && decide (text.length ≤ 256)
    && !(startsWithSlash text || endsWithSlash text || hasWildcard text
      || hasBoundaryWhitespace text)

/-- `_contains_bridge_request`: a segment `bridge` right before a segment `request`. -/
def containsBridgeRequest (topic : Text) : Bool :=
  let segments := topic.splitOn '/'
  (segments.zip segments.tail).any fun pair =>
    decide (pair.1 = (chars "bridge") ∧ pair.2 = chars "request")

/-- `_is_topic_subtree`. -/
def isTopicSubtree (topic root : Text) : Bool :=
  decide (topic = root) || (root ++ ['/']).isPrefixOf topic

/-- `_prefixed`. -/
def prefixed (baseTopic relativeTopic : Text) : Text := baseTopic ++ '/' :: relativeTopic

/-! ## Segments -/

theorem any_zip_tail_append {α : Type} (p : α × α → Bool) (front : List α) (left right : α)
    (back : List α) (h : p (left, right) = true) :
    ((front ++ left :: right :: back).zip (front ++ left :: right :: back).tail).any p = true := by
  induction front with
  | nil => simp [h]
  | cons first front ih =>
    cases front with
    | nil => simp [h]
    | cons second front =>
      rw [List.cons_append, List.tail_cons, List.cons_append, List.zip_cons_cons, List.any_cons]
      rw [List.cons_append, List.tail_cons] at ih
      rw [ih, Bool.or_true]

/-- The two segments between slashes are found, whatever stands around them. -/
theorem containsBridgeRequest_of_infix (before after : Text) :
    containsBridgeRequest (before ++ '/' :: ((chars "bridge") ++ '/' :: ((chars "request")
      ++ '/' :: after))) = true := by
  have hbridge : ((chars "bridge") ++ '/' :: ((chars "request") ++ '/' :: after)).splitOn '/'
      = (chars "bridge") :: (chars "request") :: after.splitOn '/' := by
    rw [List.splitOn_append_cons_self_of_not_mem (by decide),
      List.splitOn_append_cons_self_of_not_mem (by decide)]
  unfold containsBridgeRequest
  simp only [List.splitOn_append_cons_self, hbridge]
  exact any_zip_tail_append _ _ _ _ _ (by decide)

theorem isTopicSubtree_append (root rest : Text) :
    isTopicSubtree (root ++ '/' :: rest) root = true := by
  have hprefix : (root ++ ['/']).isPrefixOf (root ++ '/' :: rest) = true := by
    rw [List.isPrefixOf_iff_prefix]
    exact ⟨rest, by simp⟩
  rw [isTopicSubtree, hprefix, Bool.or_true]

end TrueFamily.Preflight
