import Mathlib.Data.Char
import Mathlib.Data.List.Lex
import Mathlib.Data.List.Sort
import TrueFamily.Lib.Checked
import TrueFamily.Lib.Json

/-!
# Canonical JSON and request validation

The validators of the journal App and its canonical JSON: the one byte representation that it
stores and signs, and the strict reader that accepts nothing else. A dictionary is an object
whose entries stand in the order of their keys, since nothing in the App reads them in another
order. A string is a list of Unicode scalar values: a lone surrogate cannot be encoded, and every
function below refuses it. Bytes are written as the text they decode to.
-/

namespace TrueFamily.JournalApp

open Checked JsonValue

/-! ## Limits -/

def maxBodyBytes : ℕ := 4 * 1024 * 1024
def maxRootBytes : ℕ := 3 * 1024 * 1024
def maxJsonDepth : ℕ := 64
def maxJsonNodes : ℕ := 250000
def maxIntegerDigits : ℕ := 128
def maxGeneration : ℕ := 2 ^ 63 - 1
def maxReceiptsPerJournal : ℕ := 4096
def maxReceiptResponseBytes : ℕ := 512

/-- `sys.int_info.default_max_str_digits`. -/
def maxStrDigits : ℕ := 4300

/-- `ProtocolFailure`. -/
structure ProtocolFailure where
  status : ℕ
  code : String
  deriving DecidableEq, Repr

/-- What the canonical renderer raises. -/
inductive ValueError
  | valueError (message : String)
  deriving DecidableEq, Repr

/-! ## Canonical JSON -/

variable {φ : Type} [FloatText φ]

/-- What an iteration of `_validate_json_tree` pushes: the last entry of the source's stack stands
first. -/
def pushed (depth : ℕ) : JsonValue φ → List (JsonValue φ × ℕ)
  | .obj entries => (entries.flatMap fun entry =>
      [(.str entry.1, depth + 1), (entry.2, depth + 1)]).reverse
  | .arr items => (items.map fun child => (child, depth + 1)).reverse
  | _ => []

/-- A float is finite. -/
def isFiniteNode : JsonValue φ → Bool
  | .float value => FloatText.isFinite value
  | _ => true

/-- The loop of `_validate_json_tree`, with the number of nodes that are still allowed. -/
def validateJsonTreeFrom : ℕ → List (JsonValue φ × ℕ) → Except ValueError Unit
  | _, [] => .ok ()
  | 0, _ :: _ => .error (.valueError "JSON node count exceeds its safety bound.")
  | nodes + 1, (item, depth) :: stack =>
    if maxJsonDepth < depth then .error (.valueError "JSON depth exceeds its safety bound.")
    else if isFiniteNode item = false then .error (.valueError "JSON numbers must be finite.")
    else validateJsonTreeFrom nodes (pushed depth item ++ stack)

/-- `_validate_json_tree`. -/
def validateJsonTree (value : JsonValue φ) : Except ValueError Unit :=
  validateJsonTreeFrom maxJsonNodes [(value, 1)]

omit [FloatText φ] in
mutual

/-- No integer of the value has more than `limit` decimal digits. -/
def integersFit (limit : ℕ) : JsonValue φ → Bool
  | .int value => decide ((natText value.natAbs).length ≤ limit)
  | .arr items => itemsFit limit items
  | .obj entries => entriesFit limit entries
  | _ => true

def itemsFit (limit : ℕ) : List (JsonValue φ) → Bool
  | [] => true
  | item :: items => integersFit limit item && itemsFit limit items

def entriesFit (limit : ℕ) : List (Text × JsonValue φ) → Bool
  | [] => true
  | (_, value) :: entries => integersFit limit value && entriesFit limit entries

end

/-- `canonical_json`. -/
def canonicalJson (value : JsonValue φ) : Except ValueError Text := do
  validateJsonTree value
  check (integersFit maxStrDigits value = true)
    (.valueError "Value cannot be represented as canonical JSON.")
  return render value

/-- `_parse_json_integer`. -/
def parseJsonInteger (text : Text) : Option ℤ :=
  let digits := match text with
    | '-' :: digits => digits
    | digits => digits
  if maxIntegerDigits < digits.length then none else some (intOfText text)

/-- `_strict_object`. -/
def strictObject (pairs : List (Text × JsonValue φ)) : Option (JsonValue φ) :=
  if (pairs.map Prod.fst).Nodup then
    some (.obj (pairs.insertionSort fun a b => a.1 ≤ b.1))
  else none

/-- The hooks of `parse_canonical_json`. -/
def strictHooks : Hooks φ where
  parseInt := parseJsonInteger
  pairs := strictObject

/-- `parse_canonical_json`. -/
def parseCanonicalJson (raw : Text) : Except ProtocolFailure (List (Text × JsonValue φ)) := do
  check (utf8Length raw ≤ maxBodyBytes) ⟨413, "body_too_large"⟩
  match loads strictHooks raw with
  | none => .error ⟨400, "invalid_json"⟩
  | some value =>
    match canonicalJson value with
    | .error _ => .error ⟨400, "invalid_json"⟩
    | .ok encoded =>
      match value with
      | .obj entries => do
        check (encoded = raw) ⟨400, "noncanonical_json"⟩
        return entries
      | _ => .error ⟨400, "invalid_root"⟩

/-! ## Identities -/

/-- `str.isspace`, for one character. -/
def isUnicodeSpace (c : Char) : Bool :=
  decide (9 ≤ c.toNat ∧ c.toNat ≤ 13 ∨ 0x1c ≤ c.toNat ∧ c.toNat ≤ 0x20 ∨ c.toNat = 0x85
    ∨ c.toNat = 0xa0 ∨ c.toNat = 0x1680 ∨ 0x2000 ≤ c.toNat ∧ c.toNat ≤ 0x200a
    ∨ c.toNat = 0x2028 ∨ c.toNat = 0x2029 ∨ c.toNat = 0x202f ∨ c.toNat = 0x205f
    ∨ c.toNat = 0x3000)

/-- `value != value.strip()` is false. -/
def Stripped (text : Text) : Prop :=
  (∀ c ∈ text.head?, isUnicodeSpace c = false) ∧ ∀ c ∈ text.getLast?, isUnicodeSpace c = false

/-- What `_validate_journal_id` accepts. -/
def ValidJournalId (text : Text) : Prop :=
  text ≠ [] ∧ text.length ≤ 255 ∧ Stripped text
    ∧ ∀ c ∈ text, ¬ (c.toNat < 32 ∨ c.toNat = 127)

-- The bounded quantifiers go through the lists: `Char` is a finite type, and deciding them over
-- all of it does not compute.
instance (text : Text) : Decidable (Stripped text) :=
  @instDecidableAnd _ _ (Option.decidableForallMem (p := fun c => isUnicodeSpace c = false) _)
    (Option.decidableForallMem (p := fun c => isUnicodeSpace c = false) _)

instance (text : Text) : Decidable (ValidJournalId text) :=
  @instDecidableAnd _ _ inferInstance (@instDecidableAnd _ _ inferInstance
    (@instDecidableAnd _ _ inferInstance (List.decidableBAll _ _)))

/-- `HEX_64_PATTERN`. -/
def ValidDigest (text : Text) : Prop := text.length = 64 ∧ ∀ c ∈ text, isHex c = true

instance (text : Text) : Decidable (ValidDigest text) :=
  @instDecidableAnd _ _ inferInstance (List.decidableBAll _ _)

/-- `REQUEST_ID_PATTERN`. -/
def ValidRequestId (text : Text) : Prop :=
  text.take 4 = ['t', 'f', 'j', '-'] ∧ text.length = 36 ∧ ∀ c ∈ text.drop 4, isHex c = true

instance (text : Text) : Decidable (ValidRequestId text) :=
  @instDecidableAnd _ _ inferInstance
    (@instDecidableAnd _ _ inferInstance (List.decidableBAll _ _))

/-- A journal ID. -/
structure JournalId where
  text : Text
  valid : ValidJournalId text
  deriving DecidableEq

/-- A lowercase hexadecimal SHA-256 digest. -/
structure Digest where
  text : Text
  valid : ValidDigest text
  deriving DecidableEq

/-- The ID of a save request. -/
structure RequestId where
  text : Text
  valid : ValidRequestId text
  deriving DecidableEq

/-- `_validate_journal_id`. -/
def validateJournalId : JsonValue φ → Except ProtocolFailure JournalId
  | .str text =>
    if h : ValidJournalId text then .ok ⟨text, h⟩ else .error ⟨400, "invalid_journal_id"⟩
  | _ => .error ⟨400, "invalid_journal_id"⟩

/-- `_validate_digest`. -/
def validateDigest : JsonValue φ → Except ProtocolFailure Digest
  | .str text => if h : ValidDigest text then .ok ⟨text, h⟩ else .error ⟨400, "invalid_digest"⟩
  | _ => .error ⟨400, "invalid_digest"⟩

/-- `_validate_generation`. -/
def validateGeneration : JsonValue φ → Except ProtocolFailure ℕ
  | .int value =>
    if 0 ≤ value ∧ value ≤ maxGeneration then .ok value.toNat
    else .error ⟨400, "invalid_generation"⟩
  | _ => .error ⟨400, "invalid_generation"⟩

omit [FloatText φ] in
/-- `value.get(key)`. -/
def member (entries : List (Text × JsonValue φ)) (key : String) : Option (JsonValue φ) :=
  (entries.find? fun entry => decide (entry.1 = key.toList)).map Prod.snd

/-- `_validate_root`: the canonical bytes and the generation of a root. -/
def validateRoot (value : JsonValue φ) (expectedJournalId : JournalId) :
    Except ProtocolFailure (Text × ℕ) :=
  match value with
  | .obj entries =>
    match member entries "journal_id", member entries "generation" with
    | some journalId, some generation => do
      let rootJournalId ← validateJournalId journalId
      check (rootJournalId = expectedJournalId) ⟨400, "journal_id_mismatch"⟩
      let generation ← validateGeneration generation
      match canonicalJson value with
      | .error _ => .error ⟨400, "invalid_journal_root"⟩
      | .ok rootBytes => do
        check (utf8Length rootBytes ≤ maxRootBytes) ⟨413, "root_too_large"⟩
        return (rootBytes, generation)
    | _, _ => .error ⟨400, "invalid_journal_root"⟩
  | _ => .error ⟨400, "invalid_journal_root"⟩

/-! ## Canonical JSON is read back -/

/-- The entries of a dictionary stand in the order of their keys. -/
def KeysOrdered : JsonValue φ → Prop
  | .obj entries => entries.Pairwise fun a b => a.1 < b.1
  | _ => True

omit [FloatText φ] in
mutual

theorem integersFit_everywhere {limit : ℕ} : ∀ {value : JsonValue φ},
    integersFit limit value = true →
    Everywhere (fun v => integersFit limit v = true) value
  | .null, h | .bool _, h | .int _, h | .float _, h | .str _, h =>
    .mk h fun _ hmem => absurd hmem List.not_mem_nil
  | .arr items, h => by
    have hitems : itemsFit limit items = true := by rwa [integersFit] at h
    exact .mk h (itemsFit_everywhere hitems)
  | .obj entries, h => by
    have hentries : entriesFit limit entries = true := by rwa [integersFit] at h
    exact .mk h (entriesFit_everywhere hentries)

theorem itemsFit_everywhere {limit : ℕ} : ∀ {items : List (JsonValue φ)},
    itemsFit limit items = true →
    ∀ item ∈ items, Everywhere (fun v => integersFit limit v = true) item
  | [], _ => fun _ hmem => absurd hmem List.not_mem_nil
  | item :: items, h => by
    rw [itemsFit, Bool.and_eq_true] at h
    exact List.forall_mem_cons.2 ⟨integersFit_everywhere h.1, itemsFit_everywhere h.2⟩

theorem entriesFit_everywhere {limit : ℕ} : ∀ {entries : List (Text × JsonValue φ)},
    entriesFit limit entries = true →
    ∀ item ∈ entries.map Prod.snd, Everywhere (fun v => integersFit limit v = true) item
  | [], _ => fun _ hmem => absurd hmem List.not_mem_nil
  | (_, _) :: entries, h => by
    rw [entriesFit, Bool.and_eq_true] at h
    exact List.forall_mem_cons.2 ⟨integersFit_everywhere h.1, entriesFit_everywhere h.2⟩

end

omit [FloatText φ] in
theorem exists_mem_pushed {item child : JsonValue φ} (hmem : child ∈ item.children) (depth : ℕ) :
    ∃ d, (child, d) ∈ pushed depth item := by
  cases item with
  | arr items => exact ⟨depth + 1, List.mem_reverse.2 (List.mem_map_of_mem hmem)⟩
  | obj entries =>
    obtain ⟨entry, hentry, rfl⟩ := List.mem_map.1 hmem
    refine ⟨depth + 1, List.mem_reverse.2 (List.mem_flatMap.2 ⟨entry, hentry, ?_⟩)⟩
    exact List.mem_cons_of_mem _ List.mem_cons_self
  | null | bool | int | float | str => cases hmem

/-- Every float of a validated tree is finite. -/
theorem isFiniteNode_of_validate {nodes : ℕ} {stack : List (JsonValue φ × ℕ)}
    (h : validateJsonTreeFrom nodes stack = .ok ()) :
    ∀ item ∈ stack, Everywhere (fun v => isFiniteNode v = true) item.1 := by
  induction nodes generalizing stack with
  | zero =>
    cases stack with
    | nil => exact fun _ hmem => absurd hmem List.not_mem_nil
    | cons _ _ => cases h
  | succ nodes ih =>
    cases stack with
    | nil => exact fun _ hmem => absurd hmem List.not_mem_nil
    | cons top stack =>
      obtain ⟨item, depth⟩ := top
      rw [validateJsonTreeFrom] at h
      split_ifs at h with _ hfinite
      rw [Bool.not_eq_false] at hfinite
      refine List.forall_mem_cons.2 ⟨.mk hfinite fun child hmem => ?_, fun below hbelow => ?_⟩
      · obtain ⟨d, hpushed⟩ := exists_mem_pushed hmem depth
        exact ih h (child, d) (List.mem_append_left _ hpushed)
      · exact ih h below (List.mem_append_right _ hbelow)

omit [FloatText φ] in
theorem strictObject_ordered {entries : List (Text × JsonValue φ)}
    (h : entries.Pairwise fun a b => a.1 < b.1) : strictObject entries = some (.obj entries) := by
  have hnodup : (entries.map Prod.fst).Nodup :=
    List.pairwise_map.2 (h.imp fun hlt => ne_of_lt hlt)
  have hsorted : entries.insertionSort (fun a b => a.1 ≤ b.1) = entries :=
    List.Pairwise.insertionSort_eq (h.imp fun hlt => le_of_lt hlt)
  rw [strictObject, if_pos hnodup, hsorted]

omit [FloatText φ] in
theorem parseJsonInteger_intText {i : ℤ} (h : (natText i.natAbs).length ≤ maxIntegerDigits) :
    parseJsonInteger (intText i) = some i := by
  have hback := intOfText_intText i
  cases i with
  | ofNat n =>
    have hne : ∀ digits, natText n ≠ '-' :: digits := by
      intro digits heq
      have hhead := isWhole_natText n
      rw [heq] at hhead
      obtain hzero | ⟨c, tail, hcons, hc, _⟩ := hhead
      · cases hzero
      · cases hcons
        exact absurd hc.1 (by decide)
    have hlength : ¬ maxIntegerDigits < (intText (.ofNat n)).length := Nat.not_lt.2 h
    rw [parseJsonInteger]
    · rw [if_neg hlength, hback]
    · exact hne
  | negSucc n =>
    have hlength : ¬ maxIntegerDigits < (natText (n + 1)).length := Nat.not_lt.2 h
    show (if maxIntegerDigits < (natText (n + 1)).length then none
      else some (intOfText (intText (.negSucc n)))) = _
    rw [if_neg hlength, hback]

/-- What the parser of the App is given back by the renderer. -/
theorem accepted_everywhere {value : JsonValue φ} (hordered : Everywhere KeysOrdered value)
    (hfinite : Everywhere (fun v => isFiniteNode v = true) value)
    (hfit : integersFit maxIntegerDigits value = true) :
    Everywhere (Accepted strictHooks) value := by
  refine ((hordered.and hfinite).and (integersFit_everywhere hfit)).imp fun v hv => ?_
  obtain ⟨⟨hkeys, hfloat⟩, hint⟩ := hv
  cases v with
  | int i => exact parseJsonInteger_intText (of_decide_eq_true (by rwa [integersFit] at hint))
  | float x => exact hfloat
  | obj entries => exact strictObject_ordered hkeys
  | null | bool | str | arr => trivial

/-- The strict reader accepts what the canonical renderer wrote, and returns it. -/
theorem parseCanonicalJson_canonicalJson [LawfulFloatText φ] {entries : List (Text × JsonValue φ)}
    {encoded : Text} (hordered : Everywhere KeysOrdered (.obj entries))
    (hfit : integersFit maxIntegerDigits (JsonValue.obj entries) = true)
    (hencoded : canonicalJson (.obj entries) = .ok encoded)
    (hlength : utf8Length encoded ≤ maxBodyBytes) :
    parseCanonicalJson encoded = .ok entries := by
  have hparts := hencoded
  simp only [canonicalJson, bind_unit_eq_ok, check_eq_ok, pure_eq_ok] at hparts
  obtain ⟨htree, _, rfl⟩ := hparts
  have hfinite := isFiniteNode_of_validate htree _ List.mem_cons_self
  have hloads := loads_render strictHooks (accepted_everywhere hordered hfinite hfit)
  rw [parseCanonicalJson, hloads]
  simp only [hencoded, bind_unit_eq_ok, check_eq_ok, pure_eq_ok, hlength, true_and]

end TrueFamily.JournalApp
