import Mathlib.Algebra.Order.BigOperators.Group.List
import TrueFamily.Lib.PyHeap
import TrueFamily.Providers.CanonicalStream

/-!
# The size of projected payloads

`_validate_and_copy_projected_payload` and `_preflight_frozen_projected_payload` walk a payload with
an explicit stack and count its size and its nodes; they differ in the order of the children only.
What they count is the length of the canonical text and the number of values and keys, whatever the
order (`payloadLoop_eq_some`).
-/

namespace TrueFamily.Providers

open Sorting
open PyHeap (isContainer)
open JsonValue (Text FloatText)
open PyValue (render stringTail escapePoint sortKeys sortItems sortEntries)

/-- `_REFERENCE_SNAPSHOT_MAX_PAYLOAD_DEPTH`. -/
def maxPayloadDepth : ℕ := 100

/-- `_REFERENCE_SNAPSHOT_MAX_PAYLOAD_NODES`. -/
def maxPayloadNodes : ℕ := 100000

/-! ## Strings -/

/-- The increment of `_bounded_json_string_size` for a character. -/
def characterSize (character : CodePoint) : ℕ :=
  if character.val = 0x22 ∨ character.val = 0x5c ∨ character.val ∈ [8, 9, 10, 12, 13] then 2
  else if 0x20 ≤ character.val ∧ character.val ≤ 0x7e then 1
  else if character.val ≤ 0xffff then 6
  else 12

/-- The loop of `_bounded_json_string_size`. -/
def boundedSize (remaining : ℤ) : ℕ → PyText → Option ℕ
  | size, [] => some size
  | size, character :: value =>
    if remaining < (size + characterSize character : ℕ) then none
    else boundedSize remaining (size + characterSize character) value

/-- `_bounded_json_string_size`; nothing where it raises. -/
def boundedJsonStringSize (value : PyText) (remaining : ℤ) : Option ℕ :=
  if remaining < 2 then none else boundedSize remaining 2 value

/-- The length of a string in canonical JSON. -/
def stringSize (value : PyText) : ℕ := (stringTail value).length + 1

theorem characterSize_eq (character : CodePoint) :
    characterSize character = (escapePoint character).length := by
  rw [← CanonicalJsonHasher.characterBytes_eq]
  by_cases hshort : character.val = 0x22 ∨ character.val = 0x5c
      ∨ character.val ∈ [8, 9, 10, 12, 13]
  · -- a backslash and a letter
    rw [characterSize, if_pos hshort]
    simp only [List.mem_cons, List.not_mem_nil, or_false] at hshort
    rcases hshort with h | h | h | h | h | h | h <;>
      rw [CanonicalJsonHasher.characterBytes, h] <;> rfl
  · rw [characterSize, if_neg hshort]
    simp only [List.mem_cons, List.not_mem_nil, or_false, not_or] at hshort
    obtain ⟨hquote, hbackslash, hb, ht, hn, hf, hr⟩ := hshort
    rw [CanonicalJsonHasher.characterBytes, if_neg hquote, if_neg hbackslash, if_neg hb, if_neg ht,
      if_neg hn, if_neg hf, if_neg hr]
    split_ifs <;> rfl

theorem boundedSize_eq_some {remaining : ℤ} {result : ℕ} : ∀ {value : PyText} {size : ℕ},
    (size : ℤ) ≤ remaining → (boundedSize remaining size value = some result ↔
      ((size + (value.flatMap escapePoint).length : ℕ) : ℤ) ≤ remaining ∧
        result = size + (value.flatMap escapePoint).length)
  | [], size, hsize => by
    rw [boundedSize, Option.some_inj, List.flatMap_nil, List.length_nil, Nat.add_zero,
      and_iff_right hsize, eq_comm]
  | character :: value, size, hsize => by
    rw [boundedSize, List.flatMap_cons, List.length_append, ← characterSize_eq, ← Nat.add_assoc]
    split
    · rename_i hlong
      refine iff_of_false (by simp) fun h => ?_
      have hle := h.1
      omega
    · rename_i hshort
      exact boundedSize_eq_some (not_lt.1 hshort)

theorem boundedJsonStringSize_eq_some {value : PyText} {remaining : ℤ} {result : ℕ} :
    boundedJsonStringSize value remaining = some result ↔
      (stringSize value : ℤ) ≤ remaining ∧ result = stringSize value := by
  have hsize : stringSize value = 2 + (value.flatMap escapePoint).length := by
    rw [stringSize, stringTail, List.length_append, List.length_singleton]
    omega
  rw [boundedJsonStringSize, hsize]
  split
  · rename_i hshort
    refine iff_of_false (by simp) fun h => ?_
    have hle := h.1
    omega
  · rename_i hlong
    exact boundedSize_eq_some (not_lt.1 hlong)

/-! ## The loops -/

section

variable {φ : Type} [FloatText φ]

/-- `add_size`; nothing where it raises. -/
def addSize (maxBytes : ℤ) (size amount : ℕ) : Option ℕ :=
  if maxBytes < (size + amount : ℕ) then none else some (size + amount)

/-- The loop over the keys of a mapping. -/
def addKeySizes {α : Type} (maxBytes : ℤ) : ℕ → List (PyText × α) → Option ℕ
  | size, [] => some size
  | size, (key, _) :: entries => do
    let keySize ← boundedJsonStringSize key (maxBytes - size)
    let size ← addSize maxBytes size keySize
    addKeySizes maxBytes size entries

/-- What a pass adds for a value that is no container. -/
def addScalarSize (maxBytes : ℤ) (size : ℕ) : PyValue φ → Option ℕ
  | .str value => do
    let amount ← boundedJsonStringSize value (maxBytes - size)
    addSize maxBytes size amount
  | .null => addSize maxBytes size 4
  | .bool value => addSize maxBytes size (if value then 4 else 5)
  | value => do
    let rendered ← canonicalScalarText value (maxBytes - size)
    addSize maxBytes size rendered.length

/-- `if nodes + len(stack) + more > limit: raise`. -/
def checkNodes (nodes pending more : ℕ) : Option Unit :=
  if maxPayloadNodes < nodes + pending + more then none else some ()

/-- A pass over a value that was popped, with so many left on the stack: the children to push, in
the order in which they are popped, the nodes and the size. -/
def visitPayload (arrange : List (PyText × PyValue φ) → List (PyValue φ))
    (arrangeItems : List (PyValue φ) → List (PyValue φ)) (maxBytes : ℤ) (pending nodes size : ℕ) :
    PyValue φ → Option (List (PyValue φ) × ℕ × ℕ)
  | .obj entries => do
    checkNodes nodes pending (entries.length * 2)
    let size ← addSize maxBytes size (2 + entries.length + (entries.length - 1))
    let size ← addKeySizes maxBytes size entries
    return (arrange entries, nodes + entries.length, size)
  | .arr items => do
    checkNodes nodes pending items.length
    let size ← addSize maxBytes size (2 + (items.length - 1))
    return (arrangeItems items, nodes, size)
  | value => do
    let size ← addScalarSize maxBytes size value
    return ([], nodes, size)

/-- The loops over the stack. Every pass counts a node, so the node limit bounds the passes. -/
def payloadLoop (arrange : List (PyText × PyValue φ) → List (PyValue φ))
    (arrangeItems : List (PyValue φ) → List (PyValue φ)) (maxBytes : ℤ) :
    ℕ → List (PyValue φ × ℕ) → ℕ → ℕ → Option (ℕ × ℕ)
  | _, [], nodes, size => some (size, nodes)
  | 0, _ :: _, _, _ => none
  | passes + 1, (value, depth) :: stack, nodes, size =>
    if maxPayloadDepth < depth then none
    else do
      checkNodes (nodes + 1) stack.length 0
      let (children, nodes, size) ←
        visitPayload arrange arrangeItems maxBytes stack.length (nodes + 1) size value
      payloadLoop arrange arrangeItems maxBytes passes (children.map (·, depth + 1) ++ stack) nodes
        size

/-- The loop from the root on. -/
def projectedSize (arrange : List (PyText × PyValue φ) → List (PyValue φ))
    (arrangeItems : List (PyValue φ) → List (PyValue φ)) (payload : PyValue φ) (maxBytes : ℤ) :
    Option (ℕ × ℕ) :=
  if isContainer payload = false ∨ maxBytes < 0 then none
  else payloadLoop arrange arrangeItems maxBytes (maxPayloadNodes + 1) [(payload, 0)] 0 0

/-! ## Measures -/

mutual

/-- The values and keys of a payload. -/
def nodeCount : PyValue φ → ℕ
  | .obj entries => 1 + entryNodes entries
  | .arr items => 1 + itemNodes items
  | _ => 1

def itemNodes : List (PyValue φ) → ℕ
  | [] => 0
  | item :: items => nodeCount item + itemNodes items

def entryNodes : List (PyText × PyValue φ) → ℕ
  | [] => 0
  | (_, item) :: entries => 1 + nodeCount item + entryNodes entries

end

mutual

/-- The depth of the deepest value; the root has depth zero. -/
def depthOf : PyValue φ → ℕ
  | .obj entries => entriesDepth entries
  | .arr items => itemsDepth items
  | _ => 0

def itemsDepth : List (PyValue φ) → ℕ
  | [] => 0
  | item :: items => max (depthOf item + 1) (itemsDepth items)

def entriesDepth : List (PyText × PyValue φ) → ℕ
  | [] => 0
  | (_, item) :: entries => max (depthOf item + 1) (entriesDepth entries)

end

/-- `_canonical_json`, decoded. -/
def canonicalJson (value : PyValue φ) : Text := render (sortKeys value)

/-- The length of the canonical text. -/
def textSize (value : PyValue φ) : ℕ := (canonicalJson value).length

omit [FloatText φ] in
theorem itemNodes_eq_sum (items : List (PyValue φ)) :
    itemNodes items = (items.map nodeCount).sum := by
  induction items with
  | nil => rfl
  | cons item items ih => rw [itemNodes, ih, List.map_cons, List.sum_cons]

omit [FloatText φ] in
theorem entryNodes_eq_sum (entries : List (PyText × PyValue φ)) :
    entryNodes entries = entries.length + ((entries.map Prod.snd).map nodeCount).sum := by
  induction entries with
  | nil => rfl
  | cons entry entries ih =>
    rw [entryNodes, ih, List.map_cons, List.map_cons, List.sum_cons, List.length_cons]
    omega

omit [FloatText φ] in
theorem nodeCount_pos (value : PyValue φ) : 1 ≤ nodeCount value := by
  cases value <;> simp [nodeCount]

omit [FloatText φ] in
theorem length_le_nodes (values : List (PyValue φ)) :
    values.length ≤ (values.map nodeCount).sum := by
  induction values with
  | nil => exact Nat.le_refl _
  | cons value values ih =>
    have hvalue := nodeCount_pos value
    rw [List.map_cons, List.sum_cons, List.length_cons]
    omega

omit [FloatText φ] in
theorem itemsDepth_le_iff {items : List (PyValue φ)} {depth limit : ℕ} (hdepth : depth ≤ limit) :
    depth + itemsDepth items ≤ limit ↔ ∀ item ∈ items, depth + 1 + depthOf item ≤ limit := by
  induction items with
  | nil => simp [itemsDepth, hdepth]
  | cons item items ih =>
    rw [itemsDepth, List.forall_mem_cons, ← ih]
    omega

omit [FloatText φ] in
theorem entriesDepth_le_iff {entries : List (PyText × PyValue φ)} {depth limit : ℕ}
    (hdepth : depth ≤ limit) : depth + entriesDepth entries ≤ limit ↔
      ∀ item ∈ entries.map Prod.snd, depth + 1 + depthOf item ≤ limit := by
  induction entries with
  | nil => simp [entriesDepth, hdepth]
  | cons entry entries ih =>
    rw [entriesDepth, List.map_cons, List.forall_mem_cons, ← ih]
    omega

theorem itemsFit_iff {items : List (PyValue φ)} :
    ItemsFit items ↔ ∀ item ∈ items, ScalarsFit item := by
  induction items with
  | nil => simp [ItemsFit]
  | cons item items ih => rw [ItemsFit, ih, List.forall_mem_cons]

theorem entriesFit_iff {entries : List (PyText × PyValue φ)} :
    EntriesFit entries ↔ ∀ item ∈ entries.map Prod.snd, ScalarsFit item := by
  induction entries with
  | nil => simp [EntriesFit]
  | cons entry entries ih => rw [EntriesFit, ih, List.map_cons, List.forall_mem_cons]

/-! ### The length of the canonical text -/

theorem length_itemsText (isFirst : Bool) (items : List (PyValue φ)) :
    (itemsText isFirst items).length = (items.map fun item => (render item).length).sum
      + (items.length - if isFirst then 1 else 0) := by
  induction items generalizing isFirst with
  | nil => simp [itemsText]
  | cons item items ih =>
    rw [itemsText, List.length_append, List.length_append, ih false, List.map_cons, List.sum_cons,
      List.length_cons]
    cases isFirst <;> simp <;> omega

theorem length_entriesText (isFirst : Bool) (entries : List (PyText × PyValue φ)) :
    (entriesText isFirst entries).length =
      (entries.map fun entry => stringSize entry.1 + (render entry.2).length).sum + entries.length
        + (entries.length - if isFirst then 1 else 0) := by
  induction entries generalizing isFirst with
  | nil => simp [entriesText]
  | cons entry entries ih =>
    rw [entriesText, List.length_append, List.length_append, List.length_append,
      List.length_append, ih false, List.map_cons, List.sum_cons, List.length_cons,
      List.length_cons, stringSize]
    cases isFirst <;> simp <;> omega

omit [FloatText φ] in
theorem sortItems_eq_map (items : List (PyValue φ)) : sortItems items = items.map sortKeys := by
  induction items with
  | nil => rfl
  | cons item items ih => rw [sortItems, ih, List.map_cons]

theorem textSize_arr (items : List (PyValue φ)) :
    textSize (.arr items) = 2 + (items.length - 1) + (items.map textSize).sum := by
  rw [textSize, canonicalJson, sortKeys, render_arr, List.length_append, List.length_append,
    length_itemsText, sortItems_eq_map, List.map_map, List.length_map]
  simp only [List.length_singleton, if_true]
  have hsum : (items.map ((fun item => (render item).length) ∘ sortKeys)).sum =
      (items.map textSize).sum := rfl
  omega

theorem textSize_obj (entries : List (PyText × PyValue φ)) :
    textSize (.obj entries) = 2 + entries.length + (entries.length - 1)
      + (entries.map fun entry => stringSize entry.1).sum
        + ((entries.map Prod.snd).map textSize).sum := by
  have hperm := perm_sortedBy Prod.fst (sortEntries entries)
  have hsum : ((sortEntries entries).map fun entry =>
      stringSize entry.1 + (render entry.2).length).sum =
        (entries.map fun entry => stringSize entry.1).sum
          + ((entries.map Prod.snd).map textSize).sum := by
    rw [PyValue.sortEntries_eq_map, List.map_map, List.map_map, ← List.sum_map_add]
    rfl
  have hlength : (sortEntries entries).length = entries.length := by
    rw [PyValue.sortEntries_eq_map, List.length_map]
  rw [textSize, canonicalJson, sortKeys, render_obj, List.length_append, List.length_append,
    length_entriesText, hperm.length_eq, (hperm.map _).sum_eq, hsum, hlength]
  simp only [List.length_singleton, if_true]
  omega

/-! ## What the loops count -/

section

variable {maxBytes : ℤ} {size : ℕ}

omit [FloatText φ] in
theorem addSize_bind {α : Type} {amount : ℕ} {k : ℕ → Option α} {result : α} :
    (addSize maxBytes size amount >>= k) = some result ↔
      ((size + amount : ℕ) : ℤ) ≤ maxBytes ∧ k (size + amount) = some result := by
  rw [addSize]
  split
  · rename_i hlong
    exact iff_of_false (by simp) fun h => absurd h.1 (not_le.2 hlong)
  · rename_i hshort
    rw [and_iff_right (not_lt.1 hshort)]
    rfl

omit [FloatText φ] in
theorem checkNodes_bind {α : Type} {nodes pending more : ℕ} {k : Option α} {result : α} :
    (checkNodes nodes pending more >>= fun _ => k) = some result ↔
      nodes + pending + more ≤ maxPayloadNodes ∧ k = some result := by
  rw [checkNodes]
  split
  · rename_i hlong
    exact iff_of_false (by simp) fun h => absurd h.1 (not_le.2 hlong)
  · rename_i hshort
    rw [and_iff_right (not_lt.1 hshort)]
    rfl

omit [FloatText φ] in
theorem addSize_eq_some {amount result : ℕ} : addSize maxBytes size amount = some result ↔
    ((size + amount : ℕ) : ℤ) ≤ maxBytes ∧ result = size + amount := by
  have h := @addSize_bind maxBytes size ℕ amount some result
  rw [Option.some_inj] at h
  rw [eq_comm (a := result), ← h]
  cases addSize maxBytes size amount <;> rfl

omit [FloatText φ] in
theorem addKeySizes_eq_some {α : Type} {result : ℕ} : ∀ {entries : List (PyText × α)} {size : ℕ},
    (size : ℤ) ≤ maxBytes → (addKeySizes maxBytes size entries = some result ↔
      ((size + (entries.map fun entry => stringSize entry.1).sum : ℕ) : ℤ) ≤ maxBytes ∧
        result = size + (entries.map fun entry => stringSize entry.1).sum)
  | [], size, hsize => by
    rw [addKeySizes, Option.some_inj, List.map_nil, List.sum_nil, Nat.add_zero,
      and_iff_right hsize, eq_comm]
  | (key, item) :: entries, size, hsize => by
    rw [addKeySizes, Option.bind_eq_bind, Option.bind_eq_some_iff, List.map_cons, List.sum_cons,
      ← Nat.add_assoc]
    constructor
    · rintro ⟨keySize, hkey, hrest⟩
      obtain ⟨-, rfl⟩ := boundedJsonStringSize_eq_some.1 hkey
      obtain ⟨hadded, hrest⟩ := addSize_bind.1 hrest
      exact (addKeySizes_eq_some hadded).1 hrest
    · rintro ⟨hbound, hresult⟩
      have hadded : ((size + stringSize key : ℕ) : ℤ) ≤ maxBytes := by
        dsimp only at hbound
        omega
      refine ⟨stringSize key, boundedJsonStringSize_eq_some.2 ⟨by omega, rfl⟩,
        addSize_bind.2 ⟨hadded, (addKeySizes_eq_some hadded).2 ⟨hbound, hresult⟩⟩⟩

omit [FloatText φ] in
/-- The sizes of the keys do not depend on the values. -/
theorem addKeySizes_congr {α β γ : Type} {f : γ → PyText × α} {g : γ → PyText × β}
    (h : ∀ entry, (f entry).1 = (g entry).1) {entries : List γ} {size : ℕ} :
    addKeySizes maxBytes size (entries.map f) = addKeySizes maxBytes size (entries.map g) := by
  induction entries generalizing size with
  | nil => rfl
  | cons entry entries ih => simp only [List.map_cons, addKeySizes, h, ih]

/-- What a pass adds for a value that is no container. -/
theorem addScalarSize_eq_some {value : PyValue φ} (hvalue : isContainer value = false)
    {result : ℕ} : addScalarSize maxBytes size value = some result ↔
      ScalarsFit value ∧ ((size + textSize value : ℕ) : ℤ) ≤ maxBytes ∧
        result = size + textSize value := by
  have hnumber : ∀ value : PyValue φ, ((∃ i, value = .int i) ∨ ∃ x, value = .float x) →
      ((canonicalScalarText value (maxBytes - size) >>= fun rendered =>
        addSize maxBytes size rendered.length) = some result ↔
          ScalarsFit value ∧ ((size + (render value).length : ℕ) : ℤ) ≤ maxBytes ∧
            result = size + (render value).length) := by
    intro value h
    rw [Option.bind_eq_bind, Option.bind_eq_some_iff]
    constructor
    · rintro ⟨rendered, hrendered, hadded⟩
      obtain ⟨hfits, -, rfl⟩ := (canonicalScalarText_eq_some h).1 hrendered
      exact ⟨hfits, addSize_eq_some.1 hadded⟩
    · rintro ⟨hfits, hbound, hresult⟩
      refine ⟨_, (canonicalScalarText_eq_some h).2 ⟨hfits, ?_, rfl⟩,
        addSize_eq_some.2 ⟨hbound, hresult⟩⟩
      omega
  cases value with
  | obj entries => cases hvalue
  | arr items => cases hvalue
  | null => exact addSize_eq_some.trans (and_iff_right trivial).symm
  | bool value =>
    cases value
    · exact addSize_eq_some.trans (and_iff_right trivial).symm
    · exact addSize_eq_some.trans (and_iff_right trivial).symm
  | int value => exact hnumber _ (Or.inl ⟨value, rfl⟩)
  | float value => exact hnumber _ (Or.inr ⟨value, rfl⟩)
  | str value =>
    have hsize : textSize (.str value : PyValue φ) = stringSize value := rfl
    rw [addScalarSize, Option.bind_eq_bind, Option.bind_eq_some_iff, hsize, ScalarsFit, true_and]
    constructor
    · rintro ⟨amount, hamount, hadded⟩
      obtain ⟨-, rfl⟩ := boundedJsonStringSize_eq_some.1 hamount
      exact addSize_eq_some.1 hadded
    · rintro ⟨hbound, hresult⟩
      refine ⟨_, boundedJsonStringSize_eq_some.2 ⟨?_, rfl⟩, addSize_eq_some.2 ⟨hbound, hresult⟩⟩
      omega

/-! ### One pass -/

/-- The children of a value. -/
def childrenOf : PyValue φ → List (PyValue φ)
  | .obj entries => entries.map Prod.snd
  | .arr items => items
  | _ => []

/-- The keys of a value. -/
def keyCount : PyValue φ → ℕ
  | .obj entries => entries.length
  | _ => 0

/-- What a value has in the canonical text besides its children. -/
def ownSize : PyValue φ → ℕ
  | .obj entries => 2 + entries.length + (entries.length - 1)
      + (entries.map fun entry => stringSize entry.1).sum
  | .arr items => 2 + (items.length - 1)
  | value => textSize value

/-- A container, or a scalar that fits. -/
def OwnFits (value : PyValue φ) : Prop := isContainer value = true ∨ ScalarsFit value

omit [FloatText φ] in
theorem nodeCount_eq (value : PyValue φ) :
    nodeCount value = 1 + keyCount value + ((childrenOf value).map nodeCount).sum := by
  cases value with
  | obj entries => rw [nodeCount, entryNodes_eq_sum, ← Nat.add_assoc]; rfl
  | arr items => rw [nodeCount, itemNodes_eq_sum]; rfl
  | _ => rfl

theorem textSize_eq (value : PyValue φ) :
    textSize value = ownSize value + ((childrenOf value).map textSize).sum := by
  cases value with
  | obj entries => exact textSize_obj entries
  | arr items => exact textSize_arr items
  | _ => rfl

omit [FloatText φ] in
theorem depthOf_le_iff {value : PyValue φ} {depth limit : ℕ} (hdepth : depth ≤ limit) :
    depth + depthOf value ≤ limit ↔
      ∀ item ∈ childrenOf value, depth + 1 + depthOf item ≤ limit := by
  cases value with
  | obj entries => exact entriesDepth_le_iff hdepth
  | arr items => exact itemsDepth_le_iff hdepth
  | _ => simpa [childrenOf, depthOf] using hdepth

theorem scalarsFit_iff {value : PyValue φ} :
    ScalarsFit value ↔ OwnFits value ∧ ∀ item ∈ childrenOf value, ScalarsFit item := by
  cases value with
  | obj entries => exact entriesFit_iff.trans (and_iff_right (Or.inl rfl)).symm
  | arr items => exact itemsFit_iff.trans (and_iff_right (Or.inl rfl)).symm
  | _ => simp [OwnFits, isContainer, childrenOf]

variable {arrange : List (PyText × PyValue φ) → List (PyValue φ)}
  {arrangeItems : List (PyValue φ) → List (PyValue φ)}

/-- What a pass does. -/
theorem visitPayload_eq_some
    (hentries : ∀ entries, (arrange entries).Perm (entries.map Prod.snd))
    (hitems : ∀ items, (arrangeItems items).Perm items) {pending nodes : ℕ} {value : PyValue φ}
    (hnodes : nodes + pending ≤ maxPayloadNodes) :
    ∃ children, children.Perm (childrenOf value) ∧ ∀ result : List (PyValue φ) × ℕ × ℕ,
      visitPayload arrange arrangeItems maxBytes pending nodes size value = some result ↔
        nodes + pending + keyCount value + (childrenOf value).length ≤ maxPayloadNodes ∧
          ((size + ownSize value : ℕ) : ℤ) ≤ maxBytes ∧ OwnFits value ∧
            result = (children, nodes + keyCount value, size + ownSize value) := by
  -- a scalar has no children; its size is checked before it is added
  have hscalar : ∀ value : PyValue φ, isContainer value = false → ∀ result,
      (addScalarSize maxBytes size value >>= fun size => some ([], nodes, size)) = some result ↔
        ((size + textSize value : ℕ) : ℤ) ≤ maxBytes ∧ OwnFits value ∧
          result = (([] : List (PyValue φ)), nodes, size + textSize value) := by
    intro value hvalue result
    have hown : OwnFits value ↔ ScalarsFit value := by simp [OwnFits, hvalue]
    rw [Option.bind_eq_bind, Option.bind_eq_some_iff, hown]
    constructor
    · rintro ⟨added, hadded, hresult⟩
      obtain ⟨hfits, hbound, rfl⟩ := (addScalarSize_eq_some hvalue).1 hadded
      exact ⟨hbound, hfits, (Option.some.inj hresult).symm⟩
    · rintro ⟨hbound, hfits, rfl⟩
      exact ⟨_, (addScalarSize_eq_some hvalue).2 ⟨hfits, hbound, rfl⟩, rfl⟩
  cases value with
  | obj entries =>
    refine ⟨_, hentries entries, fun result => ?_⟩
    have hlength : (childrenOf (.obj entries)).length = entries.length := List.length_map _
    rw [visitPayload, checkNodes_bind, addSize_bind, Option.bind_eq_bind, Option.bind_eq_some_iff,
      hlength, keyCount, ownSize, OwnFits, isContainer, Nat.add_assoc (nodes + pending),
      ← Nat.mul_two,
      ← Nat.add_assoc size (2 + entries.length + (entries.length - 1))]
    refine and_congr_right fun _ => ?_
    constructor
    · rintro ⟨hadded, keyed, hkeys, hresult⟩
      obtain ⟨hbound, rfl⟩ := (addKeySizes_eq_some hadded).1 hkeys
      exact ⟨hbound, Or.inl rfl, (Option.some.inj hresult).symm⟩
    · rintro ⟨hbound, -, rfl⟩
      have hadded : ((size + (2 + entries.length + (entries.length - 1)) : ℕ) : ℤ) ≤ maxBytes := by
        omega
      exact ⟨hadded, _, (addKeySizes_eq_some hadded).2 ⟨hbound, rfl⟩, rfl⟩
  | arr items =>
    refine ⟨_, hitems items, fun result => ?_⟩
    rw [visitPayload, checkNodes_bind, addSize_bind]
    refine and_congr_right fun _ => and_congr_right fun _ => ?_
    exact ⟨fun h => ⟨Or.inl rfl, (Option.some.inj h).symm⟩, fun h => congrArg some h.2.symm⟩
  | _ => exact ⟨_, List.Perm.refl _, fun result =>
      (hscalar _ rfl result).trans (and_iff_right hnodes).symm⟩

/-! ### The stack -/

/-- Every value on the stack is within the depth limit and has scalars that fit. -/
def StackFits (stack : List (PyValue φ × ℕ)) : Prop :=
  ∀ item ∈ stack, item.2 + depthOf item.1 ≤ maxPayloadDepth ∧ ScalarsFit item.1

/-- The nodes of the values on the stack. -/
def stackNodes (stack : List (PyValue φ × ℕ)) : ℕ := (stack.map fun item => nodeCount item.1).sum

/-- The length of their canonical texts. -/
def stackSize (stack : List (PyValue φ × ℕ)) : ℕ := (stack.map fun item => textSize item.1).sum

omit [FloatText φ] in
theorem stackNodes_push {values children : List (PyValue φ)} (h : values.Perm children)
    (depth : ℕ) (stack : List (PyValue φ × ℕ)) :
    stackNodes (values.map (·, depth) ++ stack) =
      (children.map nodeCount).sum + stackNodes stack := by
  rw [stackNodes, List.map_append, List.sum_append, List.map_map, ← (h.map nodeCount).sum_eq]
  rfl

theorem stackSize_push {values children : List (PyValue φ)} (h : values.Perm children)
    (depth : ℕ) (stack : List (PyValue φ × ℕ)) :
    stackSize (values.map (·, depth) ++ stack) =
      (children.map textSize).sum + stackSize stack := by
  rw [stackSize, List.map_append, List.sum_append, List.map_map, ← (h.map textSize).sum_eq]
  rfl

theorem stackFits_push {values children : List (PyValue φ)} (h : values.Perm children)
    (depth : ℕ) (stack : List (PyValue φ × ℕ)) :
    StackFits (values.map (·, depth) ++ stack) ↔
      ((∀ item ∈ children, depth + depthOf item ≤ maxPayloadDepth) ∧
        ∀ item ∈ children, ScalarsFit item) ∧ StackFits stack := by
  rw [StackFits, List.forall_mem_append, List.forall_mem_map]
  refine and_congr ⟨fun hall => ?_, fun hall item hmem => ?_⟩ Iff.rfl
  · exact ⟨fun item hmem => (hall item (h.mem_iff.2 hmem)).1,
      fun item hmem => (hall item (h.mem_iff.2 hmem)).2⟩
  · exact ⟨hall.1 item (h.mem_iff.1 hmem), hall.2 item (h.mem_iff.1 hmem)⟩

omit [FloatText φ] in
theorem length_le_stackNodes (stack : List (PyValue φ × ℕ)) :
    stack.length ≤ stackNodes stack := by
  have hlength := length_le_nodes (stack.map Prod.fst)
  rw [List.length_map, List.map_map] at hlength
  exact hlength

theorem stackFits_cons {value : PyValue φ} {depth : ℕ} {stack : List (PyValue φ × ℕ)} :
    StackFits ((value, depth) :: stack) ↔
      (depth + depthOf value ≤ maxPayloadDepth ∧ ScalarsFit value) ∧ StackFits stack :=
  List.forall_mem_cons

/-- A loop ends exactly when the values on its stack are within the limits, with their sizes and
nodes. -/
theorem payloadLoop_eq_some
    (hentries : ∀ entries, (arrange entries).Perm (entries.map Prod.snd))
    (hitems : ∀ items, (arrangeItems items).Perm items) {result : ℕ × ℕ} :
    ∀ {passes : ℕ} {stack : List (PyValue φ × ℕ)} {nodes size : ℕ}, (size : ℤ) ≤ maxBytes →
      nodes + stack.length ≤ maxPayloadNodes → maxPayloadNodes < passes + nodes →
        (payloadLoop arrange arrangeItems maxBytes passes stack nodes size = some result ↔
          StackFits stack ∧ nodes + stackNodes stack ≤ maxPayloadNodes ∧
            ((size + stackSize stack : ℕ) : ℤ) ≤ maxBytes ∧
              result = (size + stackSize stack, nodes + stackNodes stack)) := by
  intro passes
  -- the induction is on the passes, of which there are more than nodes that may be left
  induction passes with
  | zero =>
    intro stack nodes size hsize hnodes hpasses
    omega
  | succ passes ih =>
    intro stack nodes size hsize hnodes hpasses
    match stack with
    | [] =>
      rw [payloadLoop, Option.some_inj, eq_comm]
      simpa [StackFits, stackNodes, stackSize, hsize] using fun _ => hnodes
    | (value, depth) :: stack =>
      have hlength := length_le_stackNodes stack
      have hchildren := length_le_nodes (childrenOf value)
      have hstackNodes : stackNodes ((value, depth) :: stack) =
        nodeCount value + stackNodes stack := List.sum_cons
      have hstackSize : stackSize ((value, depth) :: stack) =
        textSize value + stackSize stack := List.sum_cons
      rw [List.length_cons] at hnodes
      rw [payloadLoop, stackFits_cons, hstackNodes, hstackSize, nodeCount_eq, textSize_eq]
      by_cases hdeep : maxPayloadDepth < depth
      · rw [if_pos hdeep]
        refine iff_of_false (by simp) fun h => ?_
        have hle := h.1.1.1
        omega
      -- a visit pushes the children in some order, which no sum depends on
      · obtain ⟨children, hperm, hvisit⟩ := @visitPayload_eq_some _ _ maxBytes size _ _ hentries
          hitems stack.length (nodes + 1) value (by omega)
        have hpushed := hperm.length_eq
        rw [if_neg hdeep, checkNodes_bind, and_iff_right (by omega), Option.bind_eq_bind,
          Option.bind_eq_some_iff, depthOf_le_iff (not_lt.1 hdeep), scalarsFit_iff]
        constructor
        · rintro ⟨visited, hvisited, hloop⟩
          obtain ⟨hcheck, hbound, hown, rfl⟩ := (hvisit visited).1 hvisited
          have hrest := (ih hbound (by simp; omega) (by omega)).1 hloop
          rw [stackFits_push hperm, stackNodes_push hperm, stackSize_push hperm] at hrest
          obtain ⟨⟨⟨hdepths, hscalars⟩, hfits⟩, hrestNodes, hrestSize, rfl⟩ := hrest
          refine ⟨⟨⟨hdepths, hown, hscalars⟩, hfits⟩, by omega, ?_, ?_⟩
          · omega
          · exact Prod.ext (by dsimp only; omega) (by dsimp only; omega)
        · rintro ⟨⟨⟨hdepths, hown, hscalars⟩, hfits⟩, hallNodes, hallSize, rfl⟩
          have hbound : ((size + ownSize value : ℕ) : ℤ) ≤ maxBytes := by
            omega
          refine ⟨_, (hvisit _).2 ⟨by omega, hbound, hown, rfl⟩,
            (ih hbound (by simp; omega) (by omega)).2 ?_⟩
          rw [stackFits_push hperm, stackNodes_push hperm, stackSize_push hperm]
          refine ⟨⟨⟨hdepths, hscalars⟩, hfits⟩, by omega, by omega, ?_⟩
          exact Prod.ext (by dsimp only; omega) (by dsimp only; omega)

/-! ### The root -/

/-- A payload that the loops accept. -/
structure WithinLimits (payload : PyValue φ) (maxBytes : ℤ) : Prop where
  container : isContainer payload = true
  depth : depthOf payload ≤ maxPayloadDepth
  nodes : nodeCount payload ≤ maxPayloadNodes
  scalars : ScalarsFit payload
  size : (textSize payload : ℤ) ≤ maxBytes

theorem projectedSize_eq_some
    (hentries : ∀ entries, (arrange entries).Perm (entries.map Prod.snd))
    (hitems : ∀ items, (arrangeItems items).Perm items) {payload : PyValue φ} {result : ℕ × ℕ} :
    projectedSize arrange arrangeItems payload maxBytes = some result ↔
      WithinLimits payload maxBytes ∧ result = (textSize payload, nodeCount payload) := by
  rw [projectedSize]
  split
  · rename_i hroot
    refine iff_of_false (by simp) fun ⟨h, _⟩ => ?_
    rcases hroot with hroot | hroot
    · rw [h.container] at hroot
      cases hroot
    · have hsize := h.size
      omega
  · rename_i hroot
    obtain ⟨hcontainer, hbytes⟩ := not_or.1 hroot
    have hstack : StackFits [(payload, 0)] ↔
        depthOf payload ≤ maxPayloadDepth ∧ ScalarsFit payload := by
      simp [StackFits]
    have hnodes : stackNodes [(payload, 0)] = nodeCount payload := by simp [stackNodes]
    have hsize : stackSize [(payload, 0)] = textSize payload := by simp [stackSize]
    rw [payloadLoop_eq_some hentries hitems (by simpa using hbytes) (by simp [maxPayloadNodes])
      (Nat.lt_succ_self _), hstack, hnodes, hsize, Nat.zero_add, Nat.zero_add]
    constructor
    · rintro ⟨⟨hdepth, hscalars⟩, hnodes, hsize, hresult⟩
      exact ⟨⟨Bool.not_eq_false _ ▸ hcontainer, hdepth, hnodes, hscalars, hsize⟩, hresult⟩
    · rintro ⟨⟨-, hdepth, hnodes, hscalars, hsize⟩, hresult⟩
      exact ⟨⟨hdepth, hscalars⟩, hnodes, hsize, hresult⟩

/-! ## Keys in order -/

omit [FloatText φ] in
/-- A property that passes from the children of a value to it holds of every value. -/
theorem children_induction {P : PyValue φ → Prop}
    (h : ∀ value, (∀ item ∈ childrenOf value, P item) → P value) (value : PyValue φ) : P value := by
  induction hcount : nodeCount value using Nat.strong_induction_on generalizing value with
  | _ count ih =>
    refine h value fun item hmem => ih (nodeCount item) ?_ item rfl
    have hitem := List.le_sum_of_mem (List.mem_map_of_mem (f := nodeCount) hmem)
    rw [nodeCount_eq] at hcount
    omega

omit [FloatText φ] in
theorem perm_childrenOf_sortKeys (value : PyValue φ) :
    (childrenOf (sortKeys value)).Perm ((childrenOf value).map sortKeys) := by
  cases value with
  | obj entries =>
    refine ((perm_sortedBy Prod.fst (sortEntries entries)).map Prod.snd).trans ?_
    rw [PyValue.sortEntries_eq_map, List.map_map]
    exact (List.map_map (f := Prod.snd) (g := sortKeys) (l := entries)) ▸ List.Perm.refl _
  | arr items =>
    rw [sortKeys, childrenOf, sortItems_eq_map]
    rfl
  | _ => exact List.Perm.refl _

omit [FloatText φ] in
theorem keyCount_sortKeys (value : PyValue φ) : keyCount (sortKeys value) = keyCount value := by
  cases value with
  | obj entries =>
    rw [sortKeys, keyCount, keyCount, (perm_sortedBy Prod.fst _).length_eq,
      PyValue.sortEntries_eq_map, List.length_map]
  | _ => rfl

theorem ownFits_sortKeys (value : PyValue φ) : OwnFits (sortKeys value) ↔ OwnFits value := by
  cases value with
  | obj entries => exact iff_of_true (Or.inl rfl) (Or.inl rfl)
  | arr items => exact iff_of_true (Or.inl rfl) (Or.inl rfl)
  | _ => exact Iff.rfl

omit [FloatText φ] in
/-- The payload with its keys in order is within the same limits. -/
theorem nodeCount_sortKeys (value : PyValue φ) : nodeCount (sortKeys value) = nodeCount value := by
  induction value using children_induction with
  | _ value ih =>
    have hchildren : (childrenOf value).map (nodeCount ∘ sortKeys) =
      (childrenOf value).map nodeCount := List.map_congr_left ih
    rw [nodeCount_eq, nodeCount_eq value, keyCount_sortKeys,
      ((perm_childrenOf_sortKeys value).map nodeCount).sum_eq, List.map_map, hchildren]

omit [FloatText φ] in
theorem depthOf_sortKeys (value : PyValue φ) : depthOf (sortKeys value) = depthOf value := by
  induction value using children_induction with
  | _ value ih =>
    refine eq_of_forall_ge_iff fun limit => ?_
    have hsorted := @depthOf_le_iff _ (sortKeys value) 0 limit (Nat.zero_le _)
    have hvalue := @depthOf_le_iff _ value 0 limit (Nat.zero_le _)
    rw [Nat.zero_add] at hsorted hvalue
    rw [hsorted, hvalue]
    constructor
    · intro h item hmem
      have hitem := h (sortKeys item)
        ((perm_childrenOf_sortKeys value).mem_iff.2 (List.mem_map_of_mem hmem))
      rw [ih item hmem] at hitem
      exact hitem
    · intro h item hmem
      obtain ⟨child, hchild, rfl⟩ :=
        List.mem_map.1 ((perm_childrenOf_sortKeys value).mem_iff.1 hmem)
      rw [ih child hchild]
      exact h child hchild

theorem scalarsFit_sortKeys (value : PyValue φ) :
    ScalarsFit (sortKeys value) ↔ ScalarsFit value := by
  induction value using children_induction with
  | _ value ih =>
    rw [scalarsFit_iff, scalarsFit_iff, ownFits_sortKeys]
    refine and_congr_right fun _ => ?_
    constructor
    · intro h item hmem
      exact (ih item hmem).1 (h _
        ((perm_childrenOf_sortKeys value).mem_iff.2 (List.mem_map_of_mem hmem)))
    · intro h item hmem
      obtain ⟨child, hchild, rfl⟩ :=
        List.mem_map.1 ((perm_childrenOf_sortKeys value).mem_iff.1 hmem)
      exact (ih child hchild).2 (h child hchild)

theorem canonicalJson_sortKeys (value : PyValue φ) :
    canonicalJson (sortKeys value) = canonicalJson value :=
  congrArg render (PyValue.sortKeys_sortKeys value)

theorem WithinLimits.sortKeys {payload : PyValue φ} (h : WithinLimits payload maxBytes) :
    WithinLimits (PyValue.sortKeys payload) maxBytes where
  container := by
    have hcontainer := h.container
    cases payload <;> first | rfl | cases hcontainer
  depth := (depthOf_sortKeys payload).trans_le h.depth
  nodes := (nodeCount_sortKeys payload).trans_le h.nodes
  scalars := (scalarsFit_sortKeys payload).2 h.scalars
  size := by rw [textSize, canonicalJson_sortKeys]; exact h.size

/-- What the stream hashes. -/
theorem streamCanonicalJson_eq_some {value : PyValue φ} {limit : ℕ} {bytes : Text} :
    streamCanonicalJson value limit = some bytes ↔
      ScalarsFit value ∧ textSize value ≤ limit ∧ bytes = canonicalJson value := by
  rw [streamCanonicalJson, Option.map_eq_some_iff]
  have hwrites := @writes_emit φ _ limit (PyValue.sortKeys value) (.init limit)
  constructor
  · rintro ⟨writer, hwriter, rfl⟩
    obtain ⟨hfits, hwritten⟩ := (hwrites writer).1 hwriter
    have hwritten : writer.written = canonicalJson value := hwritten
    refine ⟨(scalarsFit_sortKeys value).1 hfits, ?_, hwritten⟩
    rw [textSize, ← hwritten]
    exact writer.bounded
  · rintro ⟨hfits, hsize, rfl⟩
    exact ⟨⟨_, hsize⟩, (hwrites _).2 ⟨(scalarsFit_sortKeys value).2 hfits, rfl⟩, rfl⟩

end

end

end TrueFamily.Providers
