import TrueFamily.Lib.JsonCanonical
import TrueFamily.Preflight.Texts

/-!
# Canonical JSON and digests of the preflight

`_validate_json_tree`, the canonical text of a value and the domain-separated digests. The hash is
a parameter: `Sha256` maps the bytes of an input to the hexadecimal text that `hexdigest` returns.
-/

namespace TrueFamily.Preflight

open Checked JsonValue

/-- No float is rendered: the tree check has refused it before. -/
instance : FloatText Unit where
  isFinite _ := false
  repr _ := []
  ofText _ := ()

instance : LawfulFloatText Unit where
  literal _ h := by cases h
  ofText_repr _ h := by cases h

/-- `hashlib.sha256(...).hexdigest()`. -/
class Sha256 where
  hexdigest : List ℕ → Text

export Sha256 (hexdigest)

/-- Two hexadecimal digits for each byte. -/
def hexText (bytes : List ℕ) : Text :=
  bytes.flatMap fun byte => [hexDigit (byte / 16), hexDigit (byte % 16)]

/-- The bytes of a number, most significant first, `n.to_bytes(width, "big")`. -/
def bigEndian : ℕ → ℕ → List ℕ
  | 0, _ => []
  | width + 1, n => n / 256 ^ width % 256 :: bigEndian width n

/-- A checksum with the shape of a digest, for concrete runs. -/
@[reducible] def checksum : Sha256 where
  hexdigest bytes :=
    hexText (bigEndian 32 (bytes.foldl (fun sum byte => (sum * 65599 + byte + 1) % 2 ^ 256) 0))

/-! ## The tree check -/

/-- The start of `visit`: one more node, at this depth. -/
def enterNode (code : PreflightErrorCode) (depth nodes : ℕ) : Checks ℕ := do
  check (nodes + 1 ≤ maxJsonNodes ∧ depth ≤ maxJsonDepth) code
  return nodes + 1

/-- A text that the tree check lets pass. -/
def TreeText (text : Text) : Prop := text ≠ [] ∧ text.length ≤ maxJsonStringLength

instance : DecidablePred TreeText := fun _ => instDecidableAnd

mutual

/-- `visit`, with the number of nodes visited so far. -/
def visit (code : PreflightErrorCode) : Value → ℕ → ℕ → Checks ℕ
  | .null, depth, nodes => enterNode code depth nodes
  | .bool _, depth, nodes => enterNode code depth nodes
  | .int number, depth, nodes => do
    let nodes ← enterNode code depth nodes
    check (0 ≤ number ∧ number ≤ maxSafeInteger) code
    return nodes
  | .str text, depth, nodes => do
    let nodes ← enterNode code depth nodes
    check (TreeText text) code
    return nodes
  | .arr items, depth, nodes => do
    let nodes ← enterNode code depth nodes
    check (items.length ≤ maxJsonListLength) code
    visitItems code items (depth + 1) nodes
  | .obj entries, depth, nodes => do
    let nodes ← enterNode code depth nodes
    check (entries.length ≤ maxJsonMappingFields) code
    visitEntries code entries (depth + 1) nodes
  | .float _, _, _ => .error code

def visitItems (code : PreflightErrorCode) : List Value → ℕ → ℕ → Checks ℕ
  | [], _, nodes => .ok nodes
  | item :: items, depth, nodes => do
    let nodes ← visit code item depth nodes
    visitItems code items depth nodes

def visitEntries (code : PreflightErrorCode) : List (Text × Value) → ℕ → ℕ → Checks ℕ
  | [], _, nodes => .ok nodes
  | (key, item) :: entries, depth, nodes => do
    check (TreeText key) code
    let nodes ← visit code item depth nodes
    visitEntries code entries depth nodes

end

/-- `_validate_json_tree`. -/
def validateJsonTree (value : Value) (code : PreflightErrorCode) : Checks Unit := do
  let _ ← visit code value 1 0

/-! ## Canonical JSON and digests -/

/-- The text that `json.dumps` returns with sorted keys. -/
def canonicalText (value : Value) : Text := renderRaw (sortKeys value)

/-- `_canonical_json`. -/
def canonicalJson (value : Value) (maximumBytes : ℕ) (code : PreflightErrorCode) :
    Checks Text := do
  validateJsonTree value code
  check ((Unicode.utf8 (canonicalText value)).length ≤ maximumBytes) code
  return canonicalText value

/-- The bytes that are hashed: the domain and the body, each after its length. -/
def frame (domain body : List ℕ) : List ℕ :=
  bigEndian 2 domain.length ++ (domain ++ (bigEndian 4 body.length ++ body))

/-- The bytes that are hashed for a value. -/
def valueFrame (value : Value) (domain : String) : List ℕ :=
  frame (Unicode.utf8 (chars domain)) (Unicode.utf8 (canonicalText value))

/-- The bytes that are hashed for a text as it stands. -/
def wireFrame (text : Text) (domain : String) : List ℕ :=
  frame (Unicode.utf8 (chars domain)) (Unicode.utf8 text)

section

variable [Sha256]

/-- `_digest`. -/
def digest (value : Value) (domain : String) (code : PreflightErrorCode) : Checks Text := do
  let _ ← canonicalJson value maxSnapshotJsonBytes code
  return hexdigest (valueFrame value domain)

/-- `_wire_digest`. -/
def wireDigest (text : Text) (domain : String) : Text := hexdigest (wireFrame text domain)

end

/-- No key of the object occurs twice. -/
def distinctKeys : Value → Bool
  | .obj entries => decide (entries.map Prod.fst).Nodup
  | _ => true

/-- `int(text)`, which refuses texts of more than 4300 digits. -/
def parseInt (text : Text) : Option ℤ :=
  if (text.filter isDigit).length ≤ 4300 then some (intOfText text) else none

/-- The values that `json.loads` builds. -/
def loadsHooks : Hooks Unit := ⟨parseInt, fun entries => some (.obj entries)⟩

/-- `json.loads` with a hook that raises at an object with a repeated key: it is called for every
object of the text. -/
def loadsDistinct (text : Text) : Option Value :=
  (loads loadsHooks text).filter (allNodes distinctKeys)

/-- `parse_canonical_mapping`. -/
def parseCanonicalMapping (text : Text) (maximumBytes : ℕ) : Checks Value := do
  let code := PreflightErrorCode.invalidInput
  check (1 ≤ maximumBytes ∧ maximumBytes ≤ maxSnapshotJsonBytes) code
  check (text ≠ [] ∧ text.length ≤ maximumBytes) code
  check ((Unicode.utf8 text).length ≤ maximumBytes) code
  let value ← (loadsDistinct text).elim (.error code) .ok
  check (value matches .obj _) code
  let canonical ← canonicalJson value maximumBytes code
  check (canonical = text) code
  return value

/-! ## What the tree check promises -/

/-- The node is a JSON value of its own. -/
def IsJson : Value → Prop
  | .float _ => False
  | _ => True

theorem isJson_leaf {v : Value} (h : IsJson v) (hleaf : v.children = []) :
    Everywhere IsJson v :=
  .mk h fun child hmem => by rw [hleaf] at hmem; cases hmem

mutual

/-- A value that passes the tree check is a JSON value throughout. -/
theorem visit_isJson {code : PreflightErrorCode} :
    ∀ (v : Value) {depth nodes m : ℕ}, visit code v depth nodes = .ok m → Everywhere IsJson v
  | .null, _, _, _, _ => isJson_leaf trivial rfl
  | .bool _, _, _, _, _ => isJson_leaf trivial rfl
  | .int _, _, _, _, _ => isJson_leaf trivial rfl
  | .str _, _, _, _, _ => isJson_leaf trivial rfl
  | .float _, _, _, _, h => by cases h
  | .arr items, _, _, _, h => by
    simp only [visit, bind_eq_ok, exists_unit, check_eq_ok] at h
    obtain ⟨_, _, _, hitems⟩ := h
    exact .mk trivial (visitItems_isJson items hitems)
  | .obj entries, _, _, _, h => by
    simp only [visit, bind_eq_ok, exists_unit, check_eq_ok] at h
    obtain ⟨_, _, _, hentries⟩ := h
    exact .mk trivial (visitEntries_isJson entries hentries)

theorem visitItems_isJson {code : PreflightErrorCode} :
    ∀ (items : List Value) {depth nodes m : ℕ}, visitItems code items depth nodes = .ok m →
      ∀ item ∈ items, Everywhere IsJson item
  | [], _, _, _, _ => fun _ hmem => by cases hmem
  | item :: items, _, _, _, h => by
    simp only [visitItems, bind_eq_ok] at h
    obtain ⟨_, hitem, hitems⟩ := h
    exact List.forall_mem_cons.2 ⟨visit_isJson item hitem, visitItems_isJson items hitems⟩

theorem visitEntries_isJson {code : PreflightErrorCode} :
    ∀ (entries : List (Text × Value)) {depth nodes m : ℕ},
      visitEntries code entries depth nodes = .ok m →
      ∀ item ∈ entries.map Prod.snd, Everywhere IsJson item
  | [], _, _, _, _ => fun _ hmem => by cases hmem
  | (key, item) :: entries, _, _, _, h => by
    simp only [visitEntries, bind_eq_ok, exists_unit, check_eq_ok] at h
    obtain ⟨_, _, hitem, hentries⟩ := h
    exact List.forall_mem_cons.2 ⟨visit_isJson item hitem, visitEntries_isJson entries hentries⟩

end

theorem validateJsonTree_isJson {value : Value} {code : PreflightErrorCode}
    (h : validateJsonTree value code = .ok ()) : Everywhere IsJson value := by
  simp only [validateJsonTree, bind_eq_ok] at h
  obtain ⟨_, hvisit, -⟩ := h
  exact visit_isJson value hvisit

/-! ## The hashed bytes determine what was hashed -/

/-- Two JSON values with one canonical text are equal up to the order of their keys. -/
theorem canonicalText_injective {v w : Value} (hv : Everywhere IsJson v)
    (hw : Everywhere IsJson w) (h : canonicalText v = canonicalText w) :
    sortKeys v = sortKeys w := by
  have hsort : ∀ v : Value, IsJson v → IsJson (sortKeys v) := by
    intro v hv
    cases v <;> trivial
  have haccepted : ∀ v : Value, IsJson v → Accepted plainHooks v := fun v hv =>
    accepted_plainHooks fun x hx => by rw [hx] at hv; cases hv
  exact renderRaw_injective (fun _ _ hmem => by cases hmem)
    ((hv.sortKeys hsort).imp haccepted) ((hw.sortKeys hsort).imp haccepted) h

@[simp] theorem length_bigEndian (width n : ℕ) : (bigEndian width n).length = width := by
  induction width with
  | zero => rfl
  | succ width ih => rw [bigEndian, List.length_cons, ih]

/-- Under one domain the length prefixes keep different bodies apart. -/
theorem frame_injective {domain body body' : List ℕ} (h : frame domain body = frame domain body') :
    body = body' := by
  have htail := List.append_cancel_left (List.append_cancel_left h)
  exact (List.append_inj htail (by rw [length_bigEndian, length_bigEndian])).2

theorem wireFrame_injective {text other : Text} {domain : String}
    (h : wireFrame text domain = wireFrame other domain) : text = other :=
  Unicode.utf8_injective (frame_injective h)

theorem valueFrame_injective {v w : Value} {domain : String} (hv : Everywhere IsJson v)
    (hw : Everywhere IsJson w) (h : valueFrame v domain = valueFrame w domain) :
    sortKeys v = sortKeys w :=
  canonicalText_injective hv hw (Unicode.utf8_injective (frame_injective h))

theorem digest_eq_ok [Sha256] {value : Value} {domain : String} {code : PreflightErrorCode}
    {text : Text} (h : digest value domain code = .ok text) :
    Everywhere IsJson value ∧ text = hexdigest (valueFrame value domain) := by
  simp only [digest, canonicalJson, bind_eq_ok, exists_unit, check_eq_ok, pure_eq_ok] at h
  obtain ⟨_, ⟨htree, _⟩, htext⟩ := h
  exact ⟨validateJsonTree_isJson htree, htext⟩

end TrueFamily.Preflight
