import TrueFamily.Lib.Json
import TrueFamily.Projection.Replace

/-!
# Canonical payloads

`_canonical_json` and `_validate_payload`. Payloads that differ in the order of their keys only have
one canonical text, and the scan, the validation and the replacement take no notice of that order
(`Same`). A replacement that changes a string changes the canonical text (`canonicalJson_inj`).
-/

namespace TrueFamily.Migration

open Sorting
open JsonValue (Text stringTail)
open Projection

/-! ## Canonical JSON -/

/-- What `json.dumps` writes for a scalar that is no string. -/
def scalarJson (text : Text) : Text :=
  if text = "None".toList then "null".toList
  else if text = "True".toList then "true".toList
  else if text = "False".toList then "false".toList
  else text

mutual

/-- `json.dumps` with `ensure_ascii=True` and `separators=(",", ":")`. -/
def render : Payload → Text
  | .dict [] => ['\x7b', '\x7d']
  | .dict ((key, value) :: entries) =>
    '\x7b' :: '\x22' :: (stringTail key ++ ':' :: (render value ++ renderEntries entries))
  | .list [] => ['[', ']']
  | .list (item :: items) => '[' :: (render item ++ renderItems items)
  | .str text => '\x22' :: stringTail text
  | .scalar text => scalarJson text

/-- The text after an entry of a `dict`. -/
def renderEntries : List (Text × Payload) → Text
  | [] => ['\x7d']
  | (key, value) :: entries =>
    ',' :: '\x22' :: (stringTail key ++ ':' :: (render value ++ renderEntries entries))

/-- The text after an item of a list. -/
def renderItems : List Payload → Text
  | [] => [']']
  | item :: items => ',' :: (render item ++ renderItems items)

end

mutual

/-- The payload with every `dict` in the order of its keys. -/
def sortKeys : Payload → Payload
  | .dict entries => .dict (sortedBy Prod.fst (sortEntries entries))
  | .list items => .list (sortItems items)
  | .str text => .str text
  | .scalar text => .scalar text

def sortEntries : List (Text × Payload) → List (Text × Payload)
  | [] => []
  | (key, value) :: entries => (key, sortKeys value) :: sortEntries entries

def sortItems : List Payload → List Payload
  | [] => []
  | item :: items => sortKeys item :: sortItems items

end

/-- `_canonical_json`, whose text is ASCII. -/
def canonicalJson (value : Payload) : Text := render (sortKeys value)

/-- Equal as Python values: the entries of a `dict` are not ordered. -/
def Same (first second : Payload) : Prop := sortKeys first = sortKeys second

/-! ## Validation -/

/-- `math.isfinite`, on the `repr` of a scalar. -/
def isFinite (text : Text) : Bool :=
  text ∉ ["nan".toList, "inf".toList, "-inf".toList]

mutual

/-- `validate` of `_validate_payload`, at a depth. -/
def validateValue : Payload → ℕ → Bool
  | .dict entries, depth => decide (depth ≤ 100) && validateEntries entries (depth + 1)
  | .list items, depth => decide (depth ≤ 100) && validateItems items (depth + 1)
  | .str _, depth => decide (depth ≤ 100)
  | .scalar text, depth => decide (depth ≤ 100) && isFinite text

def validateEntries : List (Text × Payload) → ℕ → Bool
  | [], _ => true
  | (_, value) :: entries, depth => validateValue value depth && validateEntries entries depth

def validateItems : List Payload → ℕ → Bool
  | [], _ => true
  | item :: items, depth => validateValue item depth && validateItems items depth

end

/-- `_validate_payload`: the root is a `dict` or a list, and nothing below it raises. A payload
has no cycle and no other type. -/
def validatePayload : Payload → Bool
  | .dict entries => validateValue (.dict entries) 0
  | .list items => validateValue (.list items) 0
  | .str _ | .scalar _ => false

/-! ## Sorted entries -/

theorem sortEntries_eq_map (entries : List (Text × Payload)) :
    sortEntries entries = entries.map fun entry => (entry.1, sortKeys entry.2) := by
  induction entries with
  | nil => rfl
  | cons entry entries ih => rw [sortEntries, ih, List.map_cons]

theorem mapEntries_eq_map (f : ReferencePath → Text → Text) (entries : List (Text × Payload))
    (path : ReferencePath) : mapEntries f entries path =
      entries.map fun entry => (entry.1, mapStrings f entry.2 (path ++ [.key entry.1])) := by
  induction entries with
  | nil => rfl
  | cons entry entries ih => rw [mapEntries, ih, List.map_cons]

theorem walkEntries_eq_map [JinjaParser] (old : Text) (provider : Option Text)
    (entries : List (Text × Payload)) (path : ReferencePath) :
    walkEntries old provider entries path = entries.map fun entry =>
      (entry.1, scanKey old entry.1 (path ++ [.key entry.1])
        ++ walk old provider entry.2 (path ++ [.key entry.1])) := by
  induction entries with
  | nil => rfl
  | cons entry entries ih => rw [walkEntries, ih, List.map_cons]

theorem stringsOfEntries_eq_flatMap (entries : List (Text × Payload)) (path : ReferencePath) :
    stringsOfEntries entries path =
      entries.flatMap fun entry => strings entry.2 (path ++ [.key entry.1]) := by
  induction entries with
  | nil => rfl
  | cons entry entries ih => rw [stringsOfEntries, ih, List.flatMap_cons]

theorem validateEntries_eq_all (entries : List (Text × Payload)) (depth : ℕ) :
    validateEntries entries depth = entries.all fun entry => validateValue entry.2 depth := by
  induction entries with
  | nil => rfl
  | cons entry entries ih => rw [validateEntries, ih, List.all_cons]

/-! ## The order of the keys -/

mutual

theorem sortKeys_mapStrings (f : ReferencePath → Text → Text) : ∀ (payload : Payload)
    (path : ReferencePath),
      sortKeys (mapStrings f payload path) = mapStrings f (sortKeys payload) path
  | .dict entries, path => by
    rw [mapStrings, sortKeys, sortEntries_mapEntries f entries path, sortKeys, mapStrings,
      mapEntries_eq_map, mapEntries_eq_map, sortedBy_map]
  | .list items, path => by
    rw [mapStrings, sortKeys, sortItems_mapItems f items path 0]
    rfl
  | .str _, _ => rfl
  | .scalar _, _ => rfl

theorem sortEntries_mapEntries (f : ReferencePath → Text → Text) :
    ∀ (entries : List (Text × Payload)) (path : ReferencePath),
      sortEntries (mapEntries f entries path) = mapEntries f (sortEntries entries) path
  | [], _ => rfl
  | (key, value) :: entries, path => by
    rw [mapEntries, sortEntries, sortKeys_mapStrings f value, sortEntries_mapEntries f entries path]
    rfl

theorem sortItems_mapItems (f : ReferencePath → Text → Text) : ∀ (items : List Payload)
    (path : ReferencePath) (start : ℕ),
      sortItems (mapItems f items path start) = mapItems f (sortItems items) path start
  | [], _, _ => rfl
  | item :: items, path, start => by
    rw [mapItems, sortItems, sortKeys_mapStrings f item,
      sortItems_mapItems f items path (start + 1)]
    rfl

end

mutual

/-- The scan takes no notice of the order of the keys. -/
theorem walk_sortKeys [JinjaParser] (old : Text) (provider : Option Text) : ∀ (payload : Payload)
    (path : ReferencePath),
      walk old provider (sortKeys payload) path = walk old provider payload path
  | .dict entries, path => by
    have hsorted : sortedBy Prod.fst (walkEntries old provider
        (sortedBy Prod.fst (sortEntries entries)) path) =
          sortedBy Prod.fst (walkEntries old provider entries path) := by
      rw [← walk_sortEntries old provider entries path, walkEntries_eq_map, walkEntries_eq_map,
        sortedBy_map, sortedBy_map, sortedBy_sortedBy]
    rw [sortKeys, walk, walk, hsorted]
  | .list items, path => walk_sortItems old provider items path 0
  | .str _, _ => rfl
  | .scalar _, _ => rfl

theorem walk_sortEntries [JinjaParser] (old : Text) (provider : Option Text) :
    ∀ (entries : List (Text × Payload)) (path : ReferencePath),
      walkEntries old provider (sortEntries entries) path = walkEntries old provider entries path
  | [], _ => rfl
  | (key, value) :: entries, path => by
    rw [sortEntries, walkEntries, walkEntries, walk_sortKeys old provider value,
      walk_sortEntries old provider entries path]

theorem walk_sortItems [JinjaParser] (old : Text) (provider : Option Text) :
    ∀ (items : List Payload) (path : ReferencePath) (start : ℕ),
      walkItems old provider (sortItems items) path start = walkItems old provider items path start
  | [], _, _ => rfl
  | item :: items, path, start => by
    rw [sortItems, walkItems, walkItems, walk_sortKeys old provider item,
      walk_sortItems old provider items path (start + 1)]

end

mutual

theorem validateValue_sortKeys : ∀ (payload : Payload) (depth : ℕ),
    validateValue (sortKeys payload) depth = validateValue payload depth
  | .dict entries, depth => by
    rw [sortKeys, validateValue, validateValue, ← validate_sortEntries entries (depth + 1),
      validateEntries_eq_all, validateEntries_eq_all, (perm_sortedBy _ _).all_eq]
  | .list items, depth => by
    rw [sortKeys, validateValue, validateValue, validate_sortItems items (depth + 1)]
  | .str _, _ => rfl
  | .scalar _, _ => rfl

theorem validate_sortEntries : ∀ (entries : List (Text × Payload)) (depth : ℕ),
    validateEntries (sortEntries entries) depth = validateEntries entries depth
  | [], _ => rfl
  | (_, value) :: entries, depth => by
    rw [sortEntries, validateEntries, validateEntries, validateValue_sortKeys value,
      validate_sortEntries entries depth]

theorem validate_sortItems : ∀ (items : List Payload) (depth : ℕ),
    validateItems (sortItems items) depth = validateItems items depth
  | [], _ => rfl
  | item :: items, depth => by
    rw [sortItems, validateItems, validateItems, validateValue_sortKeys item,
      validate_sortItems items depth]

end

theorem validatePayload_sortKeys (payload : Payload) :
    validatePayload (sortKeys payload) = validatePayload payload := by
  cases payload
  case dict entries => exact validateValue_sortKeys (.dict entries) 0
  case list items => exact validateValue_sortKeys (.list items) 0
  all_goals rfl

mutual

theorem validateValue_mapStrings (f : ReferencePath → Text → Text) : ∀ (payload : Payload)
    (path : ReferencePath) (depth : ℕ),
      validateValue (mapStrings f payload path) depth = validateValue payload depth
  | .dict entries, path, depth => by
    rw [mapStrings, validateValue, validateValue, validate_mapEntries f entries path (depth + 1)]
  | .list items, path, depth => by
    rw [mapStrings, validateValue, validateValue, validate_mapItems f items path 0 (depth + 1)]
  | .str _, _, _ => rfl
  | .scalar _, _, _ => rfl

theorem validate_mapEntries (f : ReferencePath → Text → Text) : ∀ (entries : List (Text × Payload))
    (path : ReferencePath) (depth : ℕ),
      validateEntries (mapEntries f entries path) depth = validateEntries entries depth
  | [], _, _ => rfl
  | (_, value) :: entries, path, depth => by
    rw [mapEntries, validateEntries, validateEntries, validateValue_mapStrings f value,
      validate_mapEntries f entries path depth]

theorem validate_mapItems (f : ReferencePath → Text → Text) : ∀ (items : List Payload)
    (path : ReferencePath) (start depth : ℕ),
      validateItems (mapItems f items path start) depth = validateItems items depth
  | [], _, _, _ => rfl
  | item :: items, path, start, depth => by
    rw [mapItems, validateItems, validateItems, validateValue_mapStrings f item,
      validate_mapItems f items path (start + 1) depth]

end

/-- A change of the strings leaves a valid payload valid. -/
theorem validatePayload_mapStrings (f : ReferencePath → Text → Text) (payload : Payload)
    (path : ReferencePath) :
    validatePayload (mapStrings f payload path) = validatePayload payload := by
  cases payload
  case dict entries => exact validateValue_mapStrings f (.dict entries) path 0
  case list items => exact validateValue_mapStrings f (.list items) path 0
  all_goals rfl

mutual

theorem perm_strings_sortKeys : ∀ (payload : Payload) (path : ReferencePath),
    (strings (sortKeys payload) path).Perm (strings payload path)
  | .dict entries, path => by
    have hperm := (perm_sortedBy Prod.fst (sortEntries entries)).flatMap_right fun entry =>
      strings entry.2 (path ++ [.key entry.1])
    rw [← stringsOfEntries_eq_flatMap, ← stringsOfEntries_eq_flatMap] at hperm
    exact hperm.trans (perm_strings_sortEntries entries path)
  | .list items, path => perm_strings_sortItems items path 0
  | .str _, _ => List.Perm.refl _
  | .scalar _, _ => List.Perm.refl _

theorem perm_strings_sortEntries : ∀ (entries : List (Text × Payload)) (path : ReferencePath),
    (stringsOfEntries (sortEntries entries) path).Perm (stringsOfEntries entries path)
  | [], _ => List.Perm.refl _
  | (_, value) :: entries, path =>
    (perm_strings_sortKeys value _).append (perm_strings_sortEntries entries path)

theorem perm_strings_sortItems : ∀ (items : List Payload) (path : ReferencePath) (start : ℕ),
    (stringsOfItems (sortItems items) path start).Perm (stringsOfItems items path start)
  | [], _, _ => List.Perm.refl _
  | item :: items, path, start =>
    (perm_strings_sortKeys item _).append (perm_strings_sortItems items path (start + 1))

end

namespace Same

variable {first second : Payload}

theorem canonicalJson_eq (h : Same first second) : canonicalJson first = canonicalJson second :=
  congrArg render h

theorem walk_eq [JinjaParser] (h : Same first second) (old : Text) (provider : Option Text) :
    walk old provider first [] = walk old provider second [] := by
  rw [← walk_sortKeys old provider first, h, walk_sortKeys]

theorem validatePayload_eq (h : Same first second) :
    validatePayload first = validatePayload second := by
  rw [← validatePayload_sortKeys first, h, validatePayload_sortKeys]

theorem mapStrings (h : Same first second) (f : ReferencePath → Text → Text) :
    Same (mapStrings f first []) (Projection.mapStrings f second []) := by
  rw [Same, sortKeys_mapStrings, sortKeys_mapStrings, h]

end Same

/-! ## The canonical text tells the strings -/

mutual

/-- A change that leaves every string as it is changes nothing. -/
theorem mapStrings_eq_self (f : ReferencePath → Text → Text) : ∀ (payload : Payload)
    (path : ReferencePath), (∀ found ∈ strings payload path, f found.1 found.2 = found.2) →
      mapStrings f payload path = payload
  | .dict entries, path, h => congrArg Payload.dict (mapEntries_eq_self f entries path h)
  | .list items, path, h => congrArg Payload.list (mapItems_eq_self f items path 0 h)
  | .str _, _, h => congrArg Payload.str (h _ List.mem_cons_self)
  | .scalar _, _, _ => rfl

theorem mapEntries_eq_self (f : ReferencePath → Text → Text) : ∀ (entries : List (Text × Payload))
    (path : ReferencePath), (∀ found ∈ stringsOfEntries entries path, f found.1 found.2 = found.2) →
      mapEntries f entries path = entries
  | [], _, _ => rfl
  | (key, value) :: entries, path, h => by
    obtain ⟨hvalue, hentries⟩ := List.forall_mem_append.1 h
    rw [mapEntries, mapStrings_eq_self f value _ hvalue, mapEntries_eq_self f entries path hentries]

theorem mapItems_eq_self (f : ReferencePath → Text → Text) : ∀ (items : List Payload)
    (path : ReferencePath) (start : ℕ),
      (∀ found ∈ stringsOfItems items path start, f found.1 found.2 = found.2) →
        mapItems f items path start = items
  | [], _, _, _ => rfl
  | item :: items, path, start, h => by
    obtain ⟨hitem, hitems⟩ := List.forall_mem_append.1 h
    rw [mapItems, mapStrings_eq_self f item _ hitem,
      mapItems_eq_self f items path (start + 1) hitems]

end

theorem stringTail_inj {first second rest rest' : Text}
    (h : stringTail first ++ rest = stringTail second ++ rest') :
    first = second ∧ rest = rest' := by
  have hscan := congrArg JsonValue.scanString h
  rw [JsonValue.scanString_stringTail, JsonValue.scanString_stringTail] at hscan
  exact Prod.mk.inj (Option.some.inj hscan)

mutual

/-- A text that starts with the payload, and one that starts with the payload after a change of its
strings. -/
theorem render_mapStrings_inj (f : ReferencePath → Text → Text) : ∀ (payload : Payload)
    (path : ReferencePath) {rest rest' : Text},
      render (mapStrings f payload path) ++ rest = render payload ++ rest' →
        (∀ found ∈ strings payload path, f found.1 found.2 = found.2) ∧ rest = rest'
  | .dict [], _, _, _, h => by
    rw [mapStrings, mapEntries] at h
    exact ⟨fun _ hmem => absurd hmem List.not_mem_nil, List.append_cancel_left h⟩
  | .dict ((key, value) :: entries), path, _, _, h => by
    simp only [mapStrings, mapEntries, render, List.cons_append, List.append_assoc,
      List.cons.injEq, true_and] at h
    have hrest := (List.cons.inj (stringTail_inj h).2).2
    obtain ⟨hvalue, hrest⟩ := render_mapStrings_inj f value _ hrest
    obtain ⟨hentries, hrest⟩ := renderEntries_inj f entries path hrest
    exact ⟨List.forall_mem_append.2 ⟨hvalue, hentries⟩, hrest⟩
  | .list [], _, _, _, h => by
    rw [mapStrings, mapItems] at h
    exact ⟨fun _ hmem => absurd hmem List.not_mem_nil, List.append_cancel_left h⟩
  | .list (item :: items), path, _, _, h => by
    simp only [mapStrings, mapItems, render, List.cons_append, List.append_assoc,
      List.cons.injEq, true_and] at h
    obtain ⟨hitem, hrest⟩ := render_mapStrings_inj f item _ h
    obtain ⟨hitems, hrest⟩ := renderItems_inj f items path 1 hrest
    exact ⟨List.forall_mem_append.2 ⟨hitem, hitems⟩, hrest⟩
  | .str text, path, _, _, h => by
    simp only [mapStrings, render, List.cons_append, List.cons.injEq, true_and] at h
    obtain ⟨htext, hrest⟩ := stringTail_inj h
    exact ⟨fun found hmem => List.mem_singleton.1 hmem ▸ htext, hrest⟩
  | .scalar _, _, _, _, h =>
    ⟨fun _ hmem => absurd hmem List.not_mem_nil, List.append_cancel_left h⟩

theorem renderEntries_inj (f : ReferencePath → Text → Text) : ∀ (entries : List (Text × Payload))
    (path : ReferencePath) {rest rest' : Text},
      renderEntries (mapEntries f entries path) ++ rest = renderEntries entries ++ rest' →
        (∀ found ∈ stringsOfEntries entries path, f found.1 found.2 = found.2) ∧ rest = rest'
  | [], _, _, _, h =>
    ⟨fun _ hmem => absurd hmem List.not_mem_nil, List.append_cancel_left h⟩
  | (key, value) :: entries, path, _, _, h => by
    simp only [mapEntries, renderEntries, List.cons_append, List.append_assoc, List.cons.injEq,
      true_and] at h
    have hrest := (List.cons.inj (stringTail_inj h).2).2
    obtain ⟨hvalue, hrest⟩ := render_mapStrings_inj f value _ hrest
    obtain ⟨hentries, hrest⟩ := renderEntries_inj f entries path hrest
    exact ⟨List.forall_mem_append.2 ⟨hvalue, hentries⟩, hrest⟩

theorem renderItems_inj (f : ReferencePath → Text → Text) : ∀ (items : List Payload)
    (path : ReferencePath) (start : ℕ) {rest rest' : Text},
      renderItems (mapItems f items path start) ++ rest = renderItems items ++ rest' →
        (∀ found ∈ stringsOfItems items path start, f found.1 found.2 = found.2) ∧ rest = rest'
  | [], _, _, _, _, h =>
    ⟨fun _ hmem => absurd hmem List.not_mem_nil, List.append_cancel_left h⟩
  | item :: items, path, start, _, _, h => by
    simp only [mapItems, renderItems, List.cons_append, List.append_assoc, List.cons.injEq,
      true_and] at h
    obtain ⟨hitem, hrest⟩ := render_mapStrings_inj f item _ h
    obtain ⟨hitems, hrest⟩ := renderItems_inj f items path (start + 1) hrest
    exact ⟨List.forall_mem_append.2 ⟨hitem, hitems⟩, hrest⟩

end

/-- A change of the strings that leaves the canonical text as it is changes nothing. -/
theorem canonicalJson_inj {f : ReferencePath → Text → Text} {payload : Payload}
    (h : canonicalJson (mapStrings f payload []) = canonicalJson payload) :
    ∀ found ∈ strings payload [], f found.1 found.2 = found.2 := by
  rw [canonicalJson, canonicalJson, sortKeys_mapStrings] at h
  have hsame : render (mapStrings f (sortKeys payload) []) ++ [] =
      render (sortKeys payload) ++ [] := by
    rw [h]
  intro found hmem
  exact (render_mapStrings_inj f (sortKeys payload) [] hsame).1 found
    ((perm_strings_sortKeys payload []).mem_iff.2 hmem)

end TrueFamily.Migration
