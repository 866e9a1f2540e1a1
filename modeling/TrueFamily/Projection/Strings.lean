import TrueFamily.Projection.Scan

/-!
# The strings of a payload

The strings of a payload stand at distinct paths. A change of the strings leaves the keys, the
order and the shape of the payload as they are.
-/

namespace TrueFamily.Projection

open JsonValue (Text)

/-! ## Strings of a payload -/

mutual

/-- The strings of a payload with their paths. -/
def strings : Payload → ReferencePath → List (ReferencePath × Text)
  | .dict entries, path => stringsOfEntries entries path
  | .list items, path => stringsOfItems items path 0
  | .str text, path => [(path, text)]
  | .scalar _, _ => []

def stringsOfEntries : List (Text × Payload) → ReferencePath → List (ReferencePath × Text)
  | [], _ => []
  | (key, value) :: entries, path =>
    strings value (path ++ [.key key]) ++ stringsOfEntries entries path

def stringsOfItems : List Payload → ReferencePath → ℕ → List (ReferencePath × Text)
  | [], _, _ => []
  | item :: items, path, index =>
    strings item (path ++ [.index index]) ++ stringsOfItems items path (index + 1)

end

mutual

/-- The keys of a payload. -/
def keys : Payload → List Text
  | .dict entries => keysOfEntries entries
  | .list items => keysOfItems items
  | .str _ | .scalar _ => []

def keysOfEntries : List (Text × Payload) → List Text
  | [] => []
  | (key, value) :: entries => key :: keys value ++ keysOfEntries entries

def keysOfItems : List Payload → List Text
  | [] => []
  | item :: items => keys item ++ keysOfItems items

end

mutual

/-- The payload with its strings changed, and its keys, its order and its shape as they are. -/
def mapStrings (f : ReferencePath → Text → Text) : Payload → ReferencePath → Payload
  | .dict entries, path => .dict (mapEntries f entries path)
  | .list items, path => .list (mapItems f items path 0)
  | .str text, path => .str (f path text)
  | .scalar text, _ => .scalar text

def mapEntries (f : ReferencePath → Text → Text) : List (Text × Payload) → ReferencePath →
    List (Text × Payload)
  | [], _ => []
  | (key, value) :: entries, path =>
    (key, mapStrings f value (path ++ [.key key])) :: mapEntries f entries path

def mapItems (f : ReferencePath → Text → Text) : List Payload → ReferencePath → ℕ → List Payload
  | [], _, _ => []
  | item :: items, path, index =>
    mapStrings f item (path ++ [.index index]) :: mapItems f items path (index + 1)

end

mutual

/-- Every `dict` has a key once. -/
def KeysDistinct : Payload → Prop
  | .dict entries => (entries.map Prod.fst).Nodup ∧ EntriesDistinct entries
  | .list items => ItemsDistinct items
  | .str _ | .scalar _ => True

def EntriesDistinct : List (Text × Payload) → Prop
  | [] => True
  | (_, value) :: entries => KeysDistinct value ∧ EntriesDistinct entries

def ItemsDistinct : List Payload → Prop
  | [] => True
  | item :: items => KeysDistinct item ∧ ItemsDistinct items

end

/-! ## Paths -/

mutual

/-- The paths below a payload go on from its own. -/
theorem below_of_mem_strings : ∀ (payload : Payload) (path : ReferencePath),
    ∀ found ∈ strings payload path, path <+: found.1
  | .dict entries, path => fun found hmem => by
    obtain ⟨key, -, hbelow⟩ := below_of_mem_entries entries path found hmem
    exact (List.prefix_append path _).trans hbelow
  | .list items, path => fun found hmem => by
    obtain ⟨index, -, hbelow⟩ := below_of_mem_items items path 0 found hmem
    exact (List.prefix_append path _).trans hbelow
  | .str text, path => fun found hmem => by
    obtain rfl := List.mem_singleton.1 hmem
    exact List.prefix_rfl
  | .scalar _, _ => fun found hmem => absurd hmem List.not_mem_nil

theorem below_of_mem_entries : ∀ (entries : List (Text × Payload)) (path : ReferencePath),
    ∀ found ∈ stringsOfEntries entries path,
      ∃ key ∈ entries.map Prod.fst, path ++ [.key key] <+: found.1
  | [], _ => fun found hmem => absurd hmem List.not_mem_nil
  | (key, value) :: entries, path => fun found hmem => by
    rcases List.mem_append.1 hmem with hmem | hmem
    · exact ⟨key, List.mem_cons_self, below_of_mem_strings value _ found hmem⟩
    · obtain ⟨other, hother, hbelow⟩ := below_of_mem_entries entries path found hmem
      exact ⟨other, List.mem_cons_of_mem _ hother, hbelow⟩

theorem below_of_mem_items : ∀ (items : List Payload) (path : ReferencePath) (start : ℕ),
    ∀ found ∈ stringsOfItems items path start,
      ∃ index, start ≤ index ∧ path ++ [.index index] <+: found.1
  | [], _, _ => fun found hmem => absurd hmem List.not_mem_nil
  | item :: items, path, start => fun found hmem => by
    rcases List.mem_append.1 hmem with hmem | hmem
    · exact ⟨start, Nat.le_refl _, below_of_mem_strings item _ found hmem⟩
    · obtain ⟨index, hindex, hbelow⟩ := below_of_mem_items items path (start + 1) found hmem
      exact ⟨index, by omega, hbelow⟩

end

/-- Paths that go on with different parts are different. -/
theorem ne_of_parts {path first second : ReferencePath} {part part' : PathPart}
    (hfirst : path ++ [part] <+: first) (hsecond : path ++ [part'] <+: second)
    (hne : part ≠ part') : first ≠ second := by
  rintro rfl
  obtain ⟨rest, rfl⟩ := hfirst
  obtain ⟨rest', heq⟩ := hsecond
  rw [List.append_assoc, List.append_assoc] at heq
  exact hne (List.cons.inj (List.append_cancel_left heq)).1.symm

mutual

theorem nodup_paths : ∀ (payload : Payload) (path : ReferencePath), KeysDistinct payload →
    ((strings payload path).map Prod.fst).Nodup
  | .dict entries, path, h => nodup_entries entries path h.1 h.2
  | .list items, path, h => nodup_items items path 0 h
  | .str _, _, _ => List.nodup_singleton _
  | .scalar _, _, _ => List.nodup_nil

theorem nodup_entries : ∀ (entries : List (Text × Payload)) (path : ReferencePath),
    (entries.map Prod.fst).Nodup → EntriesDistinct entries →
      ((stringsOfEntries entries path).map Prod.fst).Nodup
  | [], _, _, _ => List.nodup_nil
  | (key, value) :: entries, path, hkeys, h => by
    obtain ⟨hfresh, hkeys⟩ := List.nodup_cons.1 hkeys
    rw [stringsOfEntries, List.map_append]
    refine (nodup_paths value _ h.1).append (nodup_entries entries path hkeys h.2) ?_
    intro found hfirst hsecond
    obtain ⟨first, hmem, rfl⟩ := List.mem_map.1 hfirst
    obtain ⟨second, hsecond, heq⟩ := List.mem_map.1 hsecond
    obtain ⟨other, hother, hbelow⟩ := below_of_mem_entries entries path second hsecond
    refine ne_of_parts (below_of_mem_strings value _ first hmem) hbelow ?_ heq.symm
    intro hpart
    obtain rfl := PathPart.key.inj hpart
    exact hfresh hother

theorem nodup_items : ∀ (items : List Payload) (path : ReferencePath) (start : ℕ),
    ItemsDistinct items → ((stringsOfItems items path start).map Prod.fst).Nodup
  | [], _, _, _ => List.nodup_nil
  | item :: items, path, start, h => by
    rw [stringsOfItems, List.map_append]
    refine (nodup_paths item _ h.1).append (nodup_items items path (start + 1) h.2) ?_
    intro found hfirst hsecond
    obtain ⟨first, hmem, rfl⟩ := List.mem_map.1 hfirst
    obtain ⟨second, hsecond, heq⟩ := List.mem_map.1 hsecond
    obtain ⟨index, hindex, hbelow⟩ := below_of_mem_items items path (start + 1) second hsecond
    refine ne_of_parts (below_of_mem_strings item _ first hmem) hbelow ?_ heq.symm
    intro hpart
    have := PathPart.index.inj hpart
    omega

end

mutual

/-- The strings of a changed payload. -/
theorem strings_mapStrings (f : ReferencePath → Text → Text) : ∀ (payload : Payload)
    (path : ReferencePath), strings (mapStrings f payload path) path =
      (strings payload path).map fun found => (found.1, f found.1 found.2)
  | .dict entries, path => strings_mapEntries f entries path
  | .list items, path => strings_mapItems f items path 0
  | .str _, _ => rfl
  | .scalar _, _ => rfl

theorem strings_mapEntries (f : ReferencePath → Text → Text) : ∀ (entries : List (Text × Payload))
    (path : ReferencePath), stringsOfEntries (mapEntries f entries path) path =
      (stringsOfEntries entries path).map fun found => (found.1, f found.1 found.2)
  | [], _ => rfl
  | (key, value) :: entries, path => by
    rw [mapEntries, stringsOfEntries, stringsOfEntries, List.map_append,
      strings_mapStrings f value, strings_mapEntries f entries path]

theorem strings_mapItems (f : ReferencePath → Text → Text) : ∀ (items : List Payload)
    (path : ReferencePath) (start : ℕ), stringsOfItems (mapItems f items path start) path start =
      (stringsOfItems items path start).map fun found => (found.1, f found.1 found.2)
  | [], _, _ => rfl
  | item :: items, path, start => by
    rw [mapItems, stringsOfItems, stringsOfItems, List.map_append, strings_mapStrings f item,
      strings_mapItems f items path (start + 1)]

end

mutual

theorem keys_mapStrings (f : ReferencePath → Text → Text) : ∀ (payload : Payload)
    (path : ReferencePath), keys (mapStrings f payload path) = keys payload
  | .dict entries, path => keys_mapEntries f entries path
  | .list items, path => keys_mapItems f items path 0
  | .str _, _ => rfl
  | .scalar _, _ => rfl

theorem keys_mapEntries (f : ReferencePath → Text → Text) : ∀ (entries : List (Text × Payload))
    (path : ReferencePath), keysOfEntries (mapEntries f entries path) = keysOfEntries entries
  | [], _ => rfl
  | (key, value) :: entries, path => by
    rw [mapEntries, keysOfEntries, keysOfEntries, keys_mapStrings f value,
      keys_mapEntries f entries path]

theorem keys_mapItems (f : ReferencePath → Text → Text) : ∀ (items : List Payload)
    (path : ReferencePath) (start : ℕ),
      keysOfItems (mapItems f items path start) = keysOfItems items
  | [], _, _ => rfl
  | item :: items, path, start => by
    rw [mapItems, keysOfItems, keysOfItems, keys_mapStrings f item,
      keys_mapItems f items path (start + 1)]

end

end TrueFamily.Projection
