import TrueFamily.Lib.PyCanonical
import TrueFamily.Providers.Evidence

/-!
# Streaming canonical JSON

`_CanonicalJsonHasher` and `_stream_canonical_json_digest`. A writer holds what it has fed to the
hash, which never exceeds its limit. Each of its operations writes one text or raises (`Writes`),
and the stream of a value is the canonical text (`writes_emit`).
-/

namespace TrueFamily.Providers

open JsonValue (Text FloatText intText unicodeEscape)
open PyValue (render renderItems renderEntries stringTail escapePoint sortKeys)

/-- `_REFERENCE_SNAPSHOT_MAX_INTEGER_BITS`. -/
def maxIntegerBits : ℕ := 13500

/-- `_REFERENCE_SNAPSHOT_JSON_CHUNK_BYTES`. -/
def jsonChunkBytes : ℕ := 4096

/-! ## The writer -/

/-- `_CanonicalJsonHasher`, with the bytes that it has hashed. -/
structure CanonicalJsonHasher (limit : ℕ) where
  written : Text
  bounded : written.length ≤ limit

namespace CanonicalJsonHasher

variable {limit : ℕ}

/-- A new writer. -/
def init (limit : ℕ) : CanonicalJsonHasher limit := ⟨[], Nat.zero_le _⟩

/-- `count`. -/
def count (self : CanonicalJsonHasher limit) : ℕ := self.written.length

/-- `_write_bytes`; nothing where it raises. `write_ascii` writes the bytes of its text. -/
def writeBytes (value : Text) (self : CanonicalJsonHasher limit) :
    Option (CanonicalJsonHasher limit) :=
  if h : self.count + value.length ≤ limit then
    some ⟨self.written ++ value, by rw [List.length_append]; exact h⟩
  else none

/-- What `write_string` writes for a character. -/
def characterBytes (character : CodePoint) : Text :=
  if character.val = 0x22 then ['\x5c', '\x22']
  else if character.val = 0x5c then ['\x5c', '\x5c']
  else if character.val = 8 then ['\x5c', 'b']
  else if character.val = 9 then ['\x5c', 't']
  else if character.val = 10 then ['\x5c', 'n']
  else if character.val = 12 then ['\x5c', 'f']
  else if character.val = 13 then ['\x5c', 'r']
  else if 0x20 ≤ character.val ∧ character.val ≤ 0x7e then [Char.ofNat character.val]
  else if character.val ≤ 0xffff then unicodeEscape character.val
  else
    let adjusted := character.val - 0x10000
    unicodeEscape (0xd800 + adjusted / 1024) ++ unicodeEscape (0xdc00 + adjusted % 1024)

/-- The loop of `write_string`, with what the chunk holds, and the write of the last chunk. -/
def writeCharacters (chunk : Text) : PyText → CanonicalJsonHasher limit →
    Option (CanonicalJsonHasher limit)
  | [], self => if chunk = [] then some self else self.writeBytes chunk
  | character :: value, self =>
    if jsonChunkBytes ≤ (chunk ++ characterBytes character).length then do
      let self ← self.writeBytes (chunk ++ characterBytes character)
      writeCharacters [] value self
    else writeCharacters (chunk ++ characterBytes character) value self

/-- `write_string`. -/
def writeString (value : PyText) (self : CanonicalJsonHasher limit) :
    Option (CanonicalJsonHasher limit) := do
  let self ← self.writeBytes ['\x22']
  let self ← writeCharacters [] value self
  self.writeBytes ['\x22']

/-! ### Writes -/

/-- The operation writes the text, if it may, and raises otherwise. -/
def Writes (step : CanonicalJsonHasher limit → Option (CanonicalJsonHasher limit)) (may : Prop)
    (text : Text) : Prop :=
  ∀ self next, step self = some next ↔ may ∧ next.written = self.written ++ text

variable {step step' : CanonicalJsonHasher limit → Option (CanonicalJsonHasher limit)}
  {may may' : Prop} {text text' : Text}

theorem ext {self other : CanonicalJsonHasher limit} (h : self.written = other.written) :
    self = other := by
  cases self
  cases other
  cases h
  rfl

theorem writes_writeBytes (value : Text) :
    Writes (@writeBytes limit value) True value := by
  intro self next
  rw [writeBytes]
  split
  · rw [Option.some_inj, true_and]
    exact ⟨fun h => h ▸ rfl, fun h => ext h.symm⟩
  · rename_i hlong
    refine iff_of_false (by simp) fun ⟨_, hwritten⟩ => hlong ?_
    rw [count, ← List.length_append, ← hwritten]
    exact next.bounded

/-- Writing one text after another. -/
theorem Writes.seq (h : Writes step may text) (h' : Writes step' may' text') :
    Writes (fun self => step self >>= step') (may ∧ may') (text ++ text') := by
  intro self next
  rw [Option.bind_eq_bind, Option.bind_eq_some_iff]
  constructor
  · rintro ⟨mid, hmid, hnext⟩
    obtain ⟨hmay, hwritten⟩ := (h self mid).1 hmid
    obtain ⟨hmay', hwritten'⟩ := (h' mid next).1 hnext
    exact ⟨⟨hmay, hmay'⟩, by rw [hwritten', hwritten, List.append_assoc]⟩
  · rintro ⟨⟨hmay, hmay'⟩, hwritten⟩
    have hlength : (self.written ++ text).length ≤ limit := by
      have hbounded := next.bounded
      rw [hwritten, ← List.append_assoc, List.length_append] at hbounded
      omega
    refine ⟨⟨self.written ++ text, hlength⟩, (h _ _).2 ⟨hmay, rfl⟩, (h' _ _).2 ⟨hmay', ?_⟩⟩
    rw [hwritten, List.append_assoc]

theorem Writes.congr (h : Writes step may text) (hmay : may ↔ may') (htext : text = text') :
    Writes step may' text' := by
  rw [← htext, Writes, ← hmay]
  exact h

theorem characterBytes_eq (character : CodePoint) :
    characterBytes character = escapePoint character := by
  simp only [characterBytes, escapePoint, PyValue.shortEscape]
  split_ifs <;> first | rfl | omega

theorem writes_writeCharacters : ∀ (value : PyText) (chunk : Text),
    Writes (@writeCharacters limit chunk value) True (chunk ++ value.flatMap escapePoint)
  | [], chunk => by
    intro self next
    rw [writeCharacters, List.flatMap_nil, List.append_nil]
    split
    · rename_i hempty
      rw [Option.some_inj, hempty, List.append_nil, true_and]
      exact ⟨fun h => h ▸ rfl, fun h => ext h.symm⟩
    · exact writes_writeBytes chunk self next
  | character :: value, chunk => by
    have htext : chunk ++ (character :: value).flatMap escapePoint =
        (chunk ++ characterBytes character) ++ value.flatMap escapePoint := by
      rw [List.flatMap_cons, characterBytes_eq, List.append_assoc]
    intro self next
    rw [writeCharacters, htext]
    split
    · have hflushed := (@writes_writeBytes limit (chunk ++ characterBytes character)).seq
        (writes_writeCharacters value [])
      exact hflushed.congr (and_self_iff) rfl self next
    · exact writes_writeCharacters value _ self next

/-- `write_string` writes the string of `json.dumps`. -/
theorem writes_writeString (value : PyText) :
    Writes (@writeString limit value) True ('\x22' :: stringTail value) := by
  have hall := (@writes_writeBytes limit ['\x22']).seq
    ((writes_writeCharacters value []).seq (writes_writeBytes ['\x22']))
  exact hall.congr (by simp) (by simp [stringTail])

end CanonicalJsonHasher

/-! ## The stream -/

open CanonicalJsonHasher

section

variable {φ : Type} [FloatText φ]

/-- `value.bit_length()`. -/
def bitLength (value : ℤ) : ℕ := value.natAbs.size

/-- `_canonical_scalar_text`; nothing where it raises. -/
def canonicalScalarText (value : PyValue φ) (remaining : ℤ) : Option Text := do
  let rendered ←
    match value with
    | .int value => if maxIntegerBits < bitLength value then none else some (intText value)
    | .float value => if FloatText.isFinite value then some (FloatText.repr value) else none
    | _ => none
  if remaining < rendered.length then none else some rendered

variable {limit : ℕ}

/-- `write_ascii(_canonical_scalar_text(item, max_bytes - writer.count))`. -/
def writeScalar (item : PyValue φ) (self : CanonicalJsonHasher limit) :
    Option (CanonicalJsonHasher limit) := do
  let rendered ← canonicalScalarText item (limit - self.count)
  self.writeBytes rendered

/-- The comma before an item that is not the first. -/
def writeComma (isFirst : Bool) (self : CanonicalJsonHasher limit) :
    Option (CanonicalJsonHasher limit) :=
  if isFirst then some self else self.writeBytes [',']

mutual

/-- `emit`, of a value with the keys of every mapping in order. -/
def emit : PyValue φ → CanonicalJsonHasher limit → Option (CanonicalJsonHasher limit)
  | .obj entries, self => do
    let self ← self.writeBytes ['\x7b']
    let self ← emitEntries true entries self
    self.writeBytes ['\x7d']
  | .arr items, self => do
    let self ← self.writeBytes ['[']
    let self ← emitItems true items self
    self.writeBytes [']']
  | .str value, self => self.writeString value
  | .null, self => self.writeBytes ['n', 'u', 'l', 'l']
  | .bool true, self => self.writeBytes ['t', 'r', 'u', 'e']
  | .bool false, self => self.writeBytes ['f', 'a', 'l', 's', 'e']
  | .int value, self => writeScalar (.int value : PyValue φ) self
  | .float value, self => writeScalar (.float value) self

def emitItems : Bool → List (PyValue φ) → CanonicalJsonHasher limit →
    Option (CanonicalJsonHasher limit)
  | _, [], self => some self
  | isFirst, item :: items, self => do
    let self ← writeComma isFirst self
    let self ← emit item self
    emitItems false items self

def emitEntries : Bool → List (PyText × PyValue φ) → CanonicalJsonHasher limit →
    Option (CanonicalJsonHasher limit)
  | _, [], self => some self
  | isFirst, (key, item) :: entries, self => do
    let self ← writeComma isFirst self
    let self ← self.writeString key
    let self ← self.writeBytes [':']
    let self ← emit item self
    emitEntries false entries self

end

/-- `_stream_canonical_json_digest`: `sorted` at every mapping is `sortKeys`. The bytes that are
hashed, for their digest and their number. -/
def streamCanonicalJson (value : PyValue φ) (maxBytes : ℕ) : Option Text :=
  (emit (sortKeys value) (init maxBytes)).map CanonicalJsonHasher.written

/-! ### What is written -/

mutual

/-- Integers are at most so long, and floats are finite. -/
def ScalarsFit : PyValue φ → Prop
  | .int value => bitLength value ≤ maxIntegerBits
  | .float value => FloatText.isFinite value = true
  | .arr items => ItemsFit items
  | .obj entries => EntriesFit entries
  | .null | .bool _ | .str _ => True

def ItemsFit : List (PyValue φ) → Prop
  | [] => True
  | item :: items => ScalarsFit item ∧ ItemsFit items

def EntriesFit : List (PyText × PyValue φ) → Prop
  | [] => True
  | (_, item) :: entries => ScalarsFit item ∧ EntriesFit entries

end

/-- The items with their commas. -/
def itemsText : Bool → List (PyValue φ) → Text
  | _, [] => []
  | isFirst, item :: items =>
    (if isFirst then [] else [',']) ++ (render item ++ itemsText false items)

/-- The entries with their commas. -/
def entriesText : Bool → List (PyText × PyValue φ) → Text
  | _, [] => []
  | isFirst, (key, item) :: entries =>
    (if isFirst then [] else [',']) ++ (('\x22' :: stringTail key) ++
      ([':'] ++ (render item ++ entriesText false entries)))

theorem renderItems_eq (items : List (PyValue φ)) :
    renderItems items = itemsText false items ++ [']'] := by
  induction items with
  | nil => rfl
  | cons item items ih =>
    rw [renderItems, itemsText, ih]
    simp

theorem renderEntries_eq (entries : List (PyText × PyValue φ)) :
    renderEntries entries = entriesText false entries ++ ['\x7d'] := by
  induction entries with
  | nil => rfl
  | cons entry entries ih =>
    rw [renderEntries, entriesText, ih]
    simp

theorem render_arr (items : List (PyValue φ)) :
    render (.arr items) = ['['] ++ (itemsText true items ++ [']']) := by
  cases items with
  | nil => rfl
  | cons item items =>
    rw [render, itemsText, renderItems_eq]
    simp

theorem render_obj (entries : List (PyText × PyValue φ)) :
    render (.obj entries) = ['\x7b'] ++ (entriesText true entries ++ ['\x7d']) := by
  cases entries with
  | nil => rfl
  | cons entry entries =>
    obtain ⟨key, item⟩ := entry
    rw [render, entriesText, renderEntries_eq]
    simp

theorem canonicalScalarText_eq_some {value : PyValue φ} {text : Text} {remaining : ℤ}
    (h : (∃ i, value = .int i) ∨ ∃ x, value = .float x) :
    canonicalScalarText value remaining = some text ↔
      ScalarsFit value ∧ ((render value).length : ℤ) ≤ remaining ∧ text = render value := by
  have hsize : ∀ rendered : Text, (if remaining < rendered.length then none else some rendered) =
      some text ↔ (rendered.length : ℤ) ≤ remaining ∧ text = rendered := by
    intro rendered
    split
    · rename_i hlong
      exact iff_of_false (by simp) fun h => absurd h.1 (not_le.2 hlong)
    · rename_i hshort
      rw [Option.some_inj, and_iff_right (not_lt.1 hshort), eq_comm]
  rcases h with ⟨i, rfl⟩ | ⟨x, rfl⟩
  · rw [canonicalScalarText, ScalarsFit, render]
    split
    · rename_i hbits
      exact iff_of_false (by simp) fun h => absurd h.1 (not_le.2 hbits)
    · rename_i hbits
      rw [and_iff_right (not_lt.1 hbits)]
      exact hsize _
  · rw [canonicalScalarText, ScalarsFit, render]
    split
    · rename_i hfinite
      rw [and_iff_right hfinite]
      exact hsize _
    · rename_i hfinite
      exact iff_of_false (by simp) fun h => absurd h.1 hfinite

theorem writes_writeScalar {value : PyValue φ} (h : (∃ i, value = .int i) ∨ ∃ x, value = .float x) :
    Writes (@writeScalar φ _ limit value) (ScalarsFit value) (render value) := by
  intro self next
  rw [writeScalar, Option.bind_eq_bind, Option.bind_eq_some_iff]
  constructor
  · rintro ⟨rendered, hrendered, hnext⟩
    obtain ⟨hfits, -, rfl⟩ := (canonicalScalarText_eq_some h).1 hrendered
    exact ⟨hfits, ((writes_writeBytes _ self next).1 hnext).2⟩
  · rintro ⟨hfits, hwritten⟩
    have hbounded := next.bounded
    rw [hwritten, List.length_append] at hbounded
    refine ⟨_, (canonicalScalarText_eq_some h).2 ⟨hfits, ?_, rfl⟩,
      (writes_writeBytes _ self next).2 ⟨trivial, hwritten⟩⟩
    rw [count]
    omega

theorem writes_writeComma (isFirst : Bool) :
    Writes (@writeComma limit isFirst) True (if isFirst then [] else [',']) := by
  cases isFirst with
  | true =>
    intro self next
    rw [writeComma, if_pos rfl, if_pos rfl, Option.some_inj, List.append_nil, true_and]
    exact ⟨fun h => h ▸ rfl, fun h => ext h.symm⟩
  | false => exact writes_writeBytes [',']

theorem writes_some : @Writes limit some True [] := by
  intro self next
  rw [Option.some_inj, List.append_nil, true_and]
  exact ⟨fun h => h ▸ rfl, fun h => ext h.symm⟩

mutual

/-- The stream of a value is its canonical text. -/
theorem writes_emit : ∀ value : PyValue φ,
    Writes (@emit φ _ limit value) (ScalarsFit value) (render value)
  | .obj entries => by
    have hall := (@writes_writeBytes limit ['\x7b']).seq
      ((writes_emitEntries true entries).seq (writes_writeBytes ['\x7d']))
    exact hall.congr (by simp [ScalarsFit]) (render_obj entries).symm
  | .arr items => by
    have hall := (@writes_writeBytes limit ['[']).seq
      ((writes_emitItems true items).seq (writes_writeBytes [']']))
    exact hall.congr (by simp [ScalarsFit]) (render_arr items).symm
  | .str value => writes_writeString value
  | .null => writes_writeBytes _
  | .bool true => writes_writeBytes _
  | .bool false => writes_writeBytes _
  | .int value => writes_writeScalar (Or.inl ⟨value, rfl⟩)
  | .float value => writes_writeScalar (Or.inr ⟨value, rfl⟩)

theorem writes_emitItems : ∀ (isFirst : Bool) (items : List (PyValue φ)),
    Writes (@emitItems φ _ limit isFirst items) (ItemsFit items) (itemsText isFirst items)
  | _, [] => writes_some
  | isFirst, item :: items => by
    have hall := (@writes_writeComma limit isFirst).seq
      ((writes_emit item).seq (writes_emitItems false items))
    exact hall.congr (by simp [ItemsFit]) rfl

theorem writes_emitEntries : ∀ (isFirst : Bool) (entries : List (PyText × PyValue φ)),
    Writes (@emitEntries φ _ limit isFirst entries) (EntriesFit entries)
      (entriesText isFirst entries)
  | _, [] => writes_some
  | isFirst, (key, item) :: entries => by
    have hall := (@writes_writeComma limit isFirst).seq ((writes_writeString key).seq
      ((writes_writeBytes [':']).seq ((writes_emit item).seq (writes_emitEntries false entries))))
    exact hall.congr (by simp [EntriesFit]) rfl

end

end

end TrueFamily.Providers
