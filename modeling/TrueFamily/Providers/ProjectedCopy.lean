import TrueFamily.Providers.ProjectedSize

/-!
# Copies of projected payloads

`_validate_and_copy_projected_payload` builds a copy of a payload while it counts, and
`_freeze_projected_payload` makes an immutable one of the copy. Both make new containers and leave
the caller's as they are. The copy is the payload with the keys of every mapping in order, and it is
made exactly of the payloads within the limits (`validateAndCopyProjectedPayload_eq_some`).
-/

namespace TrueFamily.Providers

open Sorting PyHeap
open JsonValue (FloatText)
open PyValue (sortKeys)

section

variable {φ : Type}

/-- A value on the stack, with the place that its copy goes to. -/
structure Pending (φ : Type) where
  value : Ref φ
  depth : ℕ
  parent : ℕ
  slot : Slot

/-- The variables of the loop besides its stack. -/
structure CopyState (φ : Type) where
  heap : Heap φ
  seenContainers : List ℕ
  nodes : ℕ
  size : ℕ

/-- `type(value) in (dict, list)`. -/
def isBuiltin (heap : Heap φ) : Ref φ → Bool
  | .scalar _ => false
  | .container address =>
    match heap[address]? with
    | some (.mapping .mutable _) | some (.sequence .mutable _) => true
    | _ => false

section

variable [FloatText φ]

/-- A pass over a value that was popped and counted, with so many left on the stack: the values to
push, in the order in which they are popped, and the variables. -/
def copyValue (maxBytes : ℤ) (pending : ℕ) (popped : Pending φ) (state : CopyState φ) :
    Option (List (Pending φ) × CopyState φ) :=
  match popped.value with
  | .scalar value => do
    let size ← addScalarSize maxBytes state.size value.1
    return ([], { state with
      heap := state.heap.attach popped.parent popped.slot popped.value
      size := size })
  | .container address =>
    let copied := state.heap.length
    match state.heap[address]? with
    | some (.mapping .mutable entries) =>
      if address ∈ state.seenContainers then none
      else do
        let items := entries.entries
        checkNodes state.nodes pending (items.length * 2)
        let size ← addSize maxBytes state.size (2 + items.length + (items.length - 1))
        let size ← addKeySizes maxBytes size items
        return ((sortedBy Prod.fst items).map fun item =>
            ⟨item.2, popped.depth + 1, copied, .key item.1⟩,
          { heap := (state.heap.alloc (.mapping .mutable .empty)).attach popped.parent popped.slot
              (.container copied)
            seenContainers := address :: state.seenContainers
            nodes := state.nodes + items.length
            size := size })
    | some (.sequence .mutable items) =>
      if address ∈ state.seenContainers then none
      else do
        checkNodes state.nodes pending items.length
        let size ← addSize maxBytes state.size (2 + (items.length - 1))
        return (items.zipIdx.map fun item => ⟨item.1, popped.depth + 1, copied, .index item.2⟩,
          { heap := (state.heap.alloc
                (.sequence .mutable (List.replicate items.length .none))).attach popped.parent
              popped.slot (.container copied)
            seenContainers := address :: state.seenContainers
            nodes := state.nodes
            size := size })
    | _ => none

/-- The loop over the stack. Every pass counts a node, so the node limit bounds the passes. -/
def copyLoop (maxBytes : ℤ) : ℕ → List (Pending φ) → CopyState φ → Option (CopyState φ)
  | _, [], state => some state
  | 0, _ :: _, _ => none
  | passes + 1, popped :: stack, state =>
    if maxPayloadDepth < popped.depth then none
    else do
      checkNodes (state.nodes + 1) stack.length 0
      let (children, state) ←
        copyValue maxBytes stack.length popped { state with nodes := state.nodes + 1 }
      copyLoop maxBytes passes (children ++ stack) state

/-- `_validate_and_copy_projected_payload`; nothing where it raises. The copy is put into the list
`root`. -/
def validateAndCopyProjectedPayload (heap : Heap φ) (payload : Ref φ) (maxBytes : ℤ) :
    Option (Heap φ × Ref φ × ℕ × ℕ) :=
  if isBuiltin heap payload = false ∨ maxBytes < 0 then none
  else do
    let root := heap.length
    let state ← copyLoop maxBytes (maxPayloadNodes + 1) [⟨payload, 0, root, .index 0⟩]
      ⟨heap.alloc (.sequence .mutable [.none]), [], 0, 0⟩
    match state.heap[root]? with
    | some (.sequence .mutable (canonical :: _)) =>
      if isBuiltin state.heap canonical = false then none
      else some (state.heap, canonical, state.size, state.nodes)
    | _ => none

/-- `_preflight_frozen_projected_payload`, which pops the last child first. It reads the payload
only. -/
def preflightFrozenProjectedPayload (heap : Heap φ) (payload : Ref φ) (maxBytes : ℤ) :
    Option (ℕ × ℕ) := do
  let value ← heap.value .frozen payload
  projectedSize (fun entries => (entries.map Prod.snd).reverse) List.reverse value maxBytes

end

/-- The items of a comprehension, copied one after the other. -/
def copyItems (copy : Heap φ → Ref φ → Option (Heap φ × Ref φ)) :
    Heap φ → List (Ref φ) → Option (Heap φ × List (Ref φ))
  | heap, [] => some (heap, [])
  | heap, item :: items => do
    let (heap, item) ← copy heap item
    let (heap, items) ← copyItems copy heap items
    return (heap, item :: items)

/-- `_freeze_projected_payload`, at most so many containers deep. -/
def freezeProjectedPayload : ℕ → Heap φ → Ref φ → Option (Heap φ × Ref φ)
  | _, heap, .scalar value => some (heap, .scalar value)
  | 0, _, .container _ => none
  | depth + 1, heap, .container address =>
    match heap[address]? with
    | some (.mapping .mutable entries) => do
      let keys := entries.entries.map Prod.fst
      let (heap, items) ←
        copyItems (freezeProjectedPayload depth) heap (entries.entries.map Prod.snd)
      return (heap.alloc (.mapping .frozen (Dict.empty.assign (keys.zip items))),
        .container heap.length)
    | some (.sequence .mutable items) => do
      let (heap, items) ← copyItems (freezeProjectedPayload depth) heap items
      return (heap.alloc (.sequence .frozen items), .container heap.length)
    | _ => some (heap, .container address)

/-- `copy_value` of `_copy_projected_payload`, at most so many containers deep. -/
def copyProjectedValue : ℕ → Heap φ → Ref φ → Option (Heap φ × Ref φ)
  | _, heap, .scalar value => some (heap, .scalar value)
  | 0, _, .container _ => none
  | depth + 1, heap, .container address =>
    match heap[address]? with
    | some (.mapping _ entries) => do
      let items := sortedBy Prod.fst entries.entries
      let keys := items.map Prod.fst
      let (heap, items) ← copyItems (copyProjectedValue depth) heap (items.map Prod.snd)
      return (heap.alloc (.mapping .mutable (Dict.empty.assign (keys.zip items))),
        .container heap.length)
    | some (.sequence _ items) => do
      let (heap, items) ← copyItems (copyProjectedValue depth) heap items
      return (heap.alloc (.sequence .mutable items), .container heap.length)
    | none => none

/-- `_copy_projected_payload`; nothing where it raises. -/
def copyProjectedPayload (heap : Heap φ) : Ref φ → Option (Heap φ × Ref φ)
  | .scalar _ => none
  | .container address => copyProjectedValue heap.length heap (.container address)

/-! ## What the copying validator counts -/

/-- A value on the stack, with what it stands for. -/
structure Task (φ : Type) where
  pending : Pending φ
  tree : PyValue φ
  footprint : List ℕ

/-- The tasks are parts of a payload in the caller's heap, without sharing, that were not seen yet,
and their copies go to new containers. -/
structure Tracks (source : Heap φ) (tasks : List (Task φ)) (state : CopyState φ) : Prop where
  holds : ∀ task ∈ tasks, source.Holds .mutable task.pending.value task.tree task.footprint
  nodup : (tasks.flatMap Task.footprint).Nodup
  unseen : ∀ address ∈ tasks.flatMap Task.footprint, address ∉ state.seenContainers
  parents : ∀ task ∈ tasks, source.length ≤ task.pending.parent
  kept : source.Kept state.heap

/-- The order of the children that the copying validator visits. -/
def sortedChildren (entries : List (PyText × PyValue φ)) : List (PyValue φ) :=
  (sortedBy Prod.fst entries).map Prod.snd

section

variable {source : Heap φ} {task : Task φ} {tasks : List (Task φ)} {state : CopyState φ}

/-- The tasks after a container is copied: its children, in some order, come first. -/
theorem Tracks.push (h : Tracks source (task :: tasks) state) {address : ℕ}
    {children : List (Task φ)} {parts : List (Held φ)}
    (hfootprint : task.footprint = address :: parts.flatMap Held.footprint)
    (hperm : (children.map fun child =>
      Held.mk child.pending.value child.tree child.footprint).Perm parts)
    (hparts : ∀ part ∈ parts, source.Holds .mutable part.ref part.value part.footprint)
    (hparent : ∀ child ∈ children, child.pending.parent = state.heap.length)
    (container : Container φ) (nodes size : ℕ) :
    Tracks source (children ++ tasks)
      { heap := (state.heap.alloc container).attach task.pending.parent task.pending.slot
          (.container state.heap.length)
        seenContainers := address :: state.seenContainers
        nodes := nodes
        size := size } := by
  have hchildren : (children.flatMap Task.footprint).Perm (parts.flatMap Held.footprint) := by
    have hflat := hperm.flatMap_right Held.footprint
    rwa [List.flatMap_map] at hflat
  have hall : ((children ++ tasks).flatMap Task.footprint).Perm
      (parts.flatMap Held.footprint ++ tasks.flatMap Task.footprint) := by
    rw [List.flatMap_append]
    exact hchildren.append_right _
  -- the address itself is seen now, and is in none of the footprints that are left
  have hold := h.nodup
  rw [List.flatMap_cons, hfootprint, List.cons_append, List.nodup_cons] at hold
  refine ⟨fun child hmem => ?_, hall.nodup_iff.2 hold.2, fun other hmem => ?_, fun child hmem => ?_,
    ?_⟩
  · rcases List.mem_append.1 hmem with hmem | hmem
    · exact hparts _ (hperm.mem_iff.1 (List.mem_map_of_mem hmem))
    · exact h.holds child (List.mem_cons_of_mem _ hmem)
  · have hmem' := hall.mem_iff.1 hmem
    rw [List.mem_cons, not_or]
    refine ⟨fun heq => hold.1 (heq ▸ hmem'), h.unseen other ?_⟩
    rw [List.flatMap_cons, hfootprint]
    exact List.mem_cons_of_mem _ hmem'
  · rcases List.mem_append.1 hmem with hmem | hmem
    · rw [hparent child hmem]
      exact h.kept.length_le
    · exact h.parents child (List.mem_cons_of_mem _ hmem)
  · exact (h.kept.alloc container).attach (h.parents task List.mem_cons_self) _ _

theorem sortKeys_scalar {value : PyValue φ} (hvalue : isContainer value = false) :
    sortKeys value = value := by
  cases value <;> first | rfl | cases hvalue

/-- The entries of a mapping, in the order in which their copies are made. -/
theorem sortKeys_parts (parts : List (PyText × Held φ)) :
    sortKeys (.obj (parts.map fun part => (part.1, part.2.value))) =
      .obj ((sortedBy Prod.fst parts).map fun part => (part.1, sortKeys part.2.value)) := by
  rw [sortKeys, PyValue.sortEntries_eq_map, List.map_map, sortedBy_map]
  rfl

theorem visitPayload_scalar [FloatText φ] {arrange : List (PyText × PyValue φ) → List (PyValue φ)}
    {arrangeItems : List (PyValue φ) → List (PyValue φ)} {maxBytes : ℤ} {pending nodes size : ℕ}
    {value : PyValue φ} (hvalue : isContainer value = false) :
    visitPayload arrange arrangeItems maxBytes pending nodes size value =
      (addScalarSize maxBytes size value).map fun size => ([], nodes, size) := by
  cases value <;> first | exact Option.map_eq_bind.symm | cases hvalue

/-- A pass does as the pass over the value, or both raise. -/
theorem copyValue_tracks [FloatText φ] (maxBytes : ℤ) (h : Tracks source (task :: tasks) state)
    (pending : ℕ) :
    (copyValue maxBytes pending task.pending state = none ∧
      visitPayload sortedChildren id maxBytes pending state.nodes state.size task.tree = none) ∨
    ∃ children next,
      copyValue maxBytes pending task.pending state = some (children.map Task.pending, next) ∧
      visitPayload sortedChildren id maxBytes pending state.nodes state.size task.tree =
        some (children.map Task.tree, next.nodes, next.size) ∧
      (∀ child ∈ children, child.pending.depth = task.pending.depth + 1) ∧
      Tracks source (children ++ tasks) next := by
  have hheld := h.holds task List.mem_cons_self
  have hunseen := h.unseen
  obtain ⟨⟨ref, depth, parent, slot⟩, tree, footprint⟩ := task
  dsimp only at hheld
  cases hheld with
  | scalar value =>
    rw [copyValue, visitPayload_scalar value.2]
    dsimp only
    cases addScalarSize maxBytes state.size value.1 with
    | none => exact Or.inl ⟨rfl, rfl⟩
    | some size =>
      refine Or.inr ⟨[], _, rfl, rfl, fun child hmem => absurd hmem List.not_mem_nil, ?_⟩
      exact
        { holds := fun child hmem => h.holds child (List.mem_cons_of_mem _ hmem)
          nodup := h.nodup
          unseen := h.unseen
          parents := fun child hmem => h.parents child (List.mem_cons_of_mem _ hmem)
          kept := h.kept.attach (h.parents _ List.mem_cons_self) _ _ }
  | @mapping address entries parts hget hentries hparts =>
    -- the copies so far are in newer containers, so the source is as before
    have hstate : state.heap[address]? = some (.mapping .mutable entries) :=
      (h.kept address (List.getElem?_eq_some_iff.1 hget).1).trans hget
    have hnew : address ∉ state.seenContainers :=
      hunseen address (List.mem_append_left _ List.mem_cons_self)
    let child (part : PyText × Held φ) : Task φ :=
      ⟨⟨part.2.ref, depth + 1, state.heap.length, .key part.1⟩, part.2.value, part.2.footprint⟩
    have hparts' : ∀ part ∈ parts.map Prod.snd,
        source.Holds .mutable part.ref part.value part.footprint := by
      intro part hmem
      obtain ⟨keyed, hkeyed, rfl⟩ := List.mem_map.1 hmem
      exact hparts keyed hkeyed
    have hperm : (((sortedBy Prod.fst parts).map child).map fun child =>
        Held.mk child.pending.value child.tree child.footprint).Perm (parts.map Prod.snd) := by
      rw [List.map_map]
      exact (perm_sortedBy Prod.fst parts).map Prod.snd
    rw [copyValue, visitPayload]
    -- from here on both make the same checks, in the same order
    simp only [hstate, if_neg hnew, hentries, List.length_map]
    cases checkNodes state.nodes pending (parts.length * 2) with
    | none => exact Or.inl ⟨rfl, rfl⟩
    | some _ =>
      cases addSize maxBytes state.size (2 + parts.length + (parts.length - 1)) with
      | none => exact Or.inl ⟨rfl, rfl⟩
      | some added =>
        have hkeys : addKeySizes maxBytes added (parts.map fun part => (part.1, part.2.ref)) =
            addKeySizes maxBytes added (parts.map fun part => (part.1, part.2.value)) := by
          refine addKeySizes_congr fun part => ?_
          rfl
        simp only [Option.bind_eq_bind, Option.bind_some, hkeys]
        cases addKeySizes maxBytes added (parts.map fun part => (part.1, part.2.value)) with
        | none => exact Or.inl ⟨rfl, rfl⟩
        | some size =>
          refine Or.inr ⟨(sortedBy Prod.fst parts).map child, _, congrArg some (Prod.ext ?_ rfl),
            congrArg some (Prod.ext ?_ rfl), fun other hmem => ?_,
            h.push (congrArg _ (List.flatMap_map ..).symm) hperm hparts'
              (fun other hmem => ?_) _ _ _⟩
          · rw [sortedBy_map, List.map_map, List.map_map]
            rfl
          · rw [sortedChildren, sortedBy_map, List.map_map, List.map_map]
            rfl
          · obtain ⟨part, -, rfl⟩ := List.mem_map.1 hmem
            rfl
          · obtain ⟨part, -, rfl⟩ := List.mem_map.1 hmem
            rfl
  | @sequence address parts hget hparts =>
    have hstate : state.heap[address]? = some (.sequence .mutable (parts.map Held.ref)) :=
      (h.kept address (List.getElem?_eq_some_iff.1 hget).1).trans hget
    have hnew : address ∉ state.seenContainers :=
      hunseen address (List.mem_append_left _ List.mem_cons_self)
    let child (part : Held φ × ℕ) : Task φ :=
      ⟨⟨part.1.ref, depth + 1, state.heap.length, .index part.2⟩, part.1.value, part.1.footprint⟩
    have hperm : ((parts.zipIdx.map child).map fun child =>
        Held.mk child.pending.value child.tree child.footprint).Perm parts := by
      rw [List.map_map]
      exact (List.zipIdx_map_fst 0 parts).symm ▸ List.Perm.refl _
    rw [copyValue, visitPayload]
    simp only [hstate, if_neg hnew, List.length_map]
    cases checkNodes state.nodes pending parts.length with
    | none => exact Or.inl ⟨rfl, rfl⟩
    | some _ =>
      cases addSize maxBytes state.size (2 + (parts.length - 1)) with
      | none => exact Or.inl ⟨rfl, rfl⟩
      | some size =>
        refine Or.inr ⟨parts.zipIdx.map child, _, congrArg some (Prod.ext ?_ rfl),
          congrArg some (Prod.ext ?_ rfl), fun other hmem => ?_,
          h.push rfl hperm hparts (fun other hmem => ?_) _ _ _⟩
        · rw [List.zipIdx_map, List.map_map, List.map_map]
          rfl
        · have hvalues : (parts.zipIdx.map Prod.fst).map Held.value = parts.map Held.value :=
            congrArg _ (List.zipIdx_map_fst 0 parts)
          rw [List.map_map] at hvalues ⊢
          exact hvalues.symm
        · obtain ⟨part, -, rfl⟩ := List.mem_map.1 hmem
          rfl
        · obtain ⟨part, -, rfl⟩ := List.mem_map.1 hmem
          rfl

/-- The copying validator counts what the loop over the values counts. -/
theorem copyLoop_tracks [FloatText φ] {maxBytes : ℤ} :
    ∀ {passes : ℕ} {tasks : List (Task φ)} {state : CopyState φ}, Tracks source tasks state →
      (copyLoop maxBytes passes (tasks.map Task.pending) state).map
          (fun final => (final.size, final.nodes)) =
        payloadLoop sortedChildren id maxBytes passes
          (tasks.map fun task => (task.tree, task.pending.depth)) state.nodes state.size := by
  intro passes
  induction passes with
  | zero =>
    intro tasks state _
    cases tasks <;> rfl
  | succ passes ih =>
    intro tasks state h
    cases tasks with
    | nil => rfl
    | cons task tasks =>
      rw [List.map_cons, List.map_cons, copyLoop, payloadLoop, List.length_map, List.length_map]
      by_cases hdeep : maxPayloadDepth < task.pending.depth
      · rw [if_pos hdeep, if_pos hdeep]
        rfl
      · rw [if_neg hdeep, if_neg hdeep]
        cases checkNodes (state.nodes + 1) tasks.length 0 with
        | none => rfl
        | some _ =>
          -- counting a node changes nothing that is tracked
          have hcounted : Tracks source (task :: tasks) { state with nodes := state.nodes + 1 } :=
            ⟨h.holds, h.nodup, h.unseen, h.parents, h.kept⟩
          simp only [Option.bind_eq_bind, Option.bind_some]
          rcases copyValue_tracks maxBytes hcounted tasks.length with
            ⟨hcopy, hvisit⟩ | ⟨children, next, hcopy, hvisit, hdepth, hnext⟩
          · rw [hcopy, hvisit]
            rfl
          · have hpending : children.map Task.pending ++ tasks.map Task.pending =
                (children ++ tasks).map Task.pending := List.map_append.symm
            have hvalues : (children.map Task.tree).map (·, task.pending.depth + 1) ++
                tasks.map (fun task => (task.tree, task.pending.depth)) =
                  (children ++ tasks).map fun task => (task.tree, task.pending.depth) := by
              rw [List.map_append, List.map_map]
              refine congrArg (· ++ _) (List.map_congr_left fun child hmem => ?_)
              rw [hdepth child hmem]
              rfl
            rw [hcopy, hvisit]
            simp only [Option.bind_some, hpending, hvalues]
            exact ih hnext

end

/-! ## What the copying validator builds -/

section

variable [FloatText φ] {source : Heap φ} {maxBytes : ℤ}

/-- Where the loop pops the value and returns, it first puts a copy of it into its place, whatever
is below it on the stack. -/
def Copies (source : Heap φ) (maxBytes : ℤ) (ref : Ref φ) (tree : PyValue φ) : Prop :=
  ∀ (passes : ℕ) (popped : Pending φ) (rest : List (Pending φ)) (state final : CopyState φ),
    popped.value = ref → source.Kept state.heap → source.length ≤ popped.parent →
      popped.parent < state.heap.length →
        copyLoop maxBytes passes (popped :: rest) state = some final →
          ∃ passes mid copied, copyLoop maxBytes passes rest mid = some final ∧
            copied.value = sortKeys tree ∧
              state.heap.Filled popped.parent id mid.heap [(popped.slot, copied)]

theorem copyLoop_cons_eq_some {passes : ℕ} {popped : Pending φ} {stack : List (Pending φ)}
    {state final : CopyState φ}
    (h : copyLoop maxBytes passes (popped :: stack) state = some final) :
    ∃ passes children next, copyValue maxBytes stack.length popped
        { state with nodes := state.nodes + 1 } = some (children, next) ∧
      copyLoop maxBytes passes (children ++ stack) next = some final := by
  cases passes with
  | zero => cases h
  | succ passes =>
    rw [copyLoop] at h
    split at h
    · cases h
    · simp only [Option.bind_eq_bind, Option.bind_eq_some_iff] at h
      obtain ⟨-, -, ⟨children, next⟩, hcopy, hloop⟩ := h
      exact ⟨passes, children, next, hcopy, hloop⟩

/-- The children of a container are copied into their slots. -/
theorem copyLoop_children {ι : Type} (slot : ι → Slot) {children : List (ι × Held φ)}
    (h : ∀ child ∈ children, Copies source maxBytes child.2.ref child.2.value) :
    ∀ {passes depth parent : ℕ} {rest : List (Pending φ)} {state final : CopyState φ},
      source.Kept state.heap → source.length ≤ parent → parent < state.heap.length →
      copyLoop maxBytes passes ((children.map fun child =>
        ⟨child.2.ref, depth, parent, slot child.1⟩) ++ rest) state = some final →
      ∃ passes mid copies, copyLoop maxBytes passes rest mid = some final ∧
        (copies.map fun copied => (copied.1, copied.2.value)) =
          children.map (fun child => (child.1, sortKeys child.2.value)) ∧
        state.heap.Filled parent slot mid.heap copies := by
  induction children with
  | nil =>
    intro passes depth parent rest state final _ _ _ hloop
    exact ⟨passes, state, [], hloop, rfl, .nil _ _ _⟩
  | cons child children ih =>
    intro passes depth parent rest state final hkept hsource hparent hloop
    obtain ⟨passes, mid, copied, hloop, hvalue, hfilled⟩ := h child List.mem_cons_self passes
      ⟨child.2.ref, depth, parent, slot child.1⟩ _ state final rfl hkept hsource hparent hloop
    have hfirst : state.heap.Filled parent slot mid.heap [(child.1, copied)] :=
      ⟨hfilled.toMade, hfilled.filled⟩
    obtain ⟨passes, last, copies, hloop, hvalues, hrest⟩ :=
      ih (fun other hmem => h other (List.mem_cons_of_mem _ hmem))
        (hfirst.keeps hkept hsource) hsource (Nat.lt_of_lt_of_le hparent hfirst.grows) hloop
    refine ⟨passes, last, (child.1, copied) :: copies, hloop, ?_, hfirst.cons hrest hparent⟩
    rw [List.map_cons, List.map_cons, hvalues, hvalue]

/-- A copy is the value with the keys of every mapping in order. -/
theorem copies_of_holds {ref : Ref φ} {tree : PyValue φ} {footprint : List ℕ}
    (h : source.Holds .mutable ref tree footprint) : Copies source maxBytes ref tree := by
  induction h with
  | scalar value =>
    intro passes popped rest state final hpopped hkept hsource hparent hloop
    obtain ⟨passes, children, next, hcopy, hloop⟩ := copyLoop_cons_eq_some hloop
    have hsorted : sortKeys value.1 = value.1 := sortKeys_scalar value.2
    simp only [copyValue, hpopped, Option.bind_eq_bind, Option.bind_eq_some_iff] at hcopy
    obtain ⟨size, -, hnext⟩ := hcopy
    cases hnext
    exact ⟨passes, _, ⟨.scalar value, value.1, []⟩, hloop, hsorted.symm,
      .scalar state.heap popped.parent id popped.slot value⟩
  | @mapping address entries parts hget hentries _ ih =>
    intro passes popped rest state final hpopped hkept hsource hparent hloop
    obtain ⟨passes, children, next, hcopy, hloop⟩ := copyLoop_cons_eq_some hloop
    have hstate : state.heap[address]? = some (.mapping .mutable entries) :=
      (hkept address (List.getElem?_eq_some_iff.1 hget).1).trans hget
    simp only [copyValue, hpopped, hstate] at hcopy
    split at hcopy
    · cases hcopy
    · simp only [Option.bind_eq_bind, Option.bind_eq_some_iff] at hcopy
      obtain ⟨-, -, added, -, size, -, hnext⟩ := hcopy
      cases hnext
      -- the entries are pushed in the order of their keys
      rw [hentries, sortedBy_map, List.map_map] at hloop
      obtain ⟨passes, mid, copies, hloop, hvalues, hfilled⟩ := copyLoop_children .key
        (fun part hmem => ih part ((perm_sortedBy Prod.fst parts).mem_iff.1 hmem))
        ((hkept.alloc _).attach hsource popped.slot _) hkept.length_le (by simp) hloop
      have hkeys : (copies.map Prod.fst).Nodup := by
        have hfst := congrArg (List.map Prod.fst) hvalues
        rw [List.map_map, List.map_map] at hfst
        have hdistinct := entries.nodup_keys
        rw [hentries, List.map_map] at hdistinct
        exact hfst ▸ ((perm_sortedBy Prod.fst parts).map Prod.fst).nodup_iff.2 hdistinct
      refine ⟨passes, mid, _, hloop, ?_, .mapping popped.slot hparent hfilled hkeys⟩
      rw [sortKeys_parts, hvalues]
  | @sequence address parts hget _ ih =>
    intro passes popped rest state final hpopped hkept hsource hparent hloop
    obtain ⟨passes, children, next, hcopy, hloop⟩ := copyLoop_cons_eq_some hloop
    have hstate : state.heap[address]? = some (.sequence .mutable (parts.map Held.ref)) :=
      (hkept address (List.getElem?_eq_some_iff.1 hget).1).trans hget
    simp only [copyValue, hpopped, hstate] at hcopy
    split at hcopy
    · cases hcopy
    · simp only [Option.bind_eq_bind, Option.bind_eq_some_iff] at hcopy
      obtain ⟨-, -, size, -, hnext⟩ := hcopy
      cases hnext
      -- an item goes to the index that it came from
      have hchildren : (parts.map Held.ref).zipIdx.map (fun item => (⟨item.1, popped.depth + 1,
          state.heap.length, .index item.2⟩ : Pending φ)) =
            (parts.zipIdx.map Prod.swap).map fun child =>
              ⟨child.2.ref, popped.depth + 1, state.heap.length, .index child.1⟩ := by
        rw [List.zipIdx_map, List.map_map, List.map_map]
        rfl
      rw [hchildren] at hloop
      obtain ⟨passes, mid, copies, hloop, hvalues, hfilled⟩ := copyLoop_children .index
        (fun child hmem => by
          obtain ⟨item, hitem, rfl⟩ := List.mem_map.1 hmem
          exact ih item.1 (List.fst_mem_of_mem_zipIdx hitem))
        ((hkept.alloc _).attach hsource popped.slot _) hkept.length_le (by simp) hloop
      have hlength : copies.length = (parts.map Held.ref).length := by
        have hlengths := congrArg List.length hvalues
        simpa using hlengths
      have hslots : copies.map Prod.fst = List.range' 0 copies.length := by
        have hfst := congrArg (List.map Prod.fst) hvalues
        rw [List.map_map, List.map_map, List.map_map] at hfst
        have hindices := List.zipIdx_map_snd 0 parts
        rw [hlength, List.length_map]
        exact hfst.trans hindices
      refine ⟨passes, mid, _, hloop, ?_, .sequence popped.slot hparent hlength hfilled hslots⟩
      have hsnd := congrArg (List.map Prod.snd) hvalues
      rw [List.map_map, List.map_map, List.map_map] at hsnd
      have hitems : (parts.zipIdx.map Prod.fst).map (sortKeys ∘ Held.value) =
          parts.map (sortKeys ∘ Held.value) := congrArg _ (List.zipIdx_map_fst 0 parts)
      rw [List.map_map] at hitems
      rw [sortKeys, sortItems_eq_map, List.map_map, List.map_map]
      exact congrArg _ (hsnd.trans hitems)

/-! ### The copy of the root -/

omit [FloatText φ] in
theorem isBuiltin_eq {heap : Heap φ} {ref : Ref φ} {tree : PyValue φ} {footprint : List ℕ}
    (h : heap.Holds .mutable ref tree footprint) : isBuiltin heap ref = isContainer tree := by
  cases h with
  | scalar value => exact value.2.symm
  | mapping parts hget _ _ =>
    rw [isBuiltin, hget]
    rfl
  | sequence parts hget _ =>
    rw [isBuiltin, hget]
    rfl

omit [FloatText φ] in
theorem isContainer_sortKeys (tree : PyValue φ) :
    isContainer (sortKeys tree) = isContainer tree := by
  cases tree <;> rfl

variable {heap : Heap φ} {payload : Ref φ} {tree : PyValue φ} {footprint : List ℕ}

/-- The loop from the root on counts what the loop over the values counts. -/
theorem rootLoop_eq (h : heap.Holds .mutable payload tree footprint) (hnodup : footprint.Nodup)
    (hroot : ¬ (isBuiltin heap payload = false ∨ maxBytes < 0)) :
    (copyLoop maxBytes (maxPayloadNodes + 1) [⟨payload, 0, heap.length, .index 0⟩]
        ⟨heap.alloc (.sequence .mutable [.none]), [], 0, 0⟩).map
          (fun final => (final.size, final.nodes)) =
      projectedSize sortedChildren id tree maxBytes := by
  have htracks : Tracks heap [⟨⟨payload, 0, heap.length, .index 0⟩, tree, footprint⟩]
      ⟨heap.alloc (.sequence .mutable [.none]), [], 0, 0⟩ :=
    { holds := List.forall_mem_singleton.2 h
      nodup := List.flatMap_singleton .. ▸ hnodup
      unseen := fun _ _ => List.not_mem_nil
      parents := List.forall_mem_singleton.2 (Nat.le_refl _)
      kept := (Heap.Kept.refl heap).alloc _ }
  rw [isBuiltin_eq h] at hroot
  rw [projectedSize, if_neg hroot]
  exact copyLoop_tracks htracks

theorem projectedSize_sorted {result : ℕ × ℕ} :
    projectedSize sortedChildren id tree maxBytes = some result ↔
      WithinLimits tree maxBytes ∧ result = (textSize tree, nodeCount tree) :=
  projectedSize_eq_some (fun entries => (perm_sortedBy Prod.fst entries).map Prod.snd)
    fun _ => List.Perm.refl _

/-- The copying validator accepts the payloads within the limits. -/
theorem withinLimits_of_copied {result : Heap φ × Ref φ × ℕ × ℕ}
    (h : heap.Holds .mutable payload tree footprint) (hnodup : footprint.Nodup)
    (hcopied : validateAndCopyProjectedPayload heap payload maxBytes = some result) :
    WithinLimits tree maxBytes := by
  rw [validateAndCopyProjectedPayload] at hcopied
  split at hcopied
  · cases hcopied
  · rename_i hroot
    rw [Option.bind_eq_bind, Option.bind_eq_some_iff] at hcopied
    obtain ⟨final, hloop, -⟩ := hcopied
    have hsize := rootLoop_eq h hnodup hroot
    rw [hloop] at hsize
    exact (projectedSize_sorted.1 hsize.symm).1

/-- It makes the copy of new containers, and counts its text and nodes. -/
theorem copied_of_withinLimits (h : heap.Holds .mutable payload tree footprint)
    (hnodup : footprint.Nodup) (hlimits : WithinLimits tree maxBytes) :
    ∃ heap' copied, validateAndCopyProjectedPayload heap payload maxBytes =
        some (heap', copied.ref, textSize tree, nodeCount tree) ∧
      copied.value = sortKeys tree ∧ heap.Made .mutable none heap' [copied] := by
  have hroot : ¬ (isBuiltin heap payload = false ∨ maxBytes < 0) := by
    rw [isBuiltin_eq h, hlimits.container]
    have hsize := hlimits.size
    simp only [Bool.true_eq_false, false_or]
    omega
  have hsize := rootLoop_eq h hnodup hroot
  rw [projectedSize_sorted.2 ⟨hlimits, rfl⟩, Option.map_eq_some_iff] at hsize
  obtain ⟨final, hloop, hcounts⟩ := hsize
  obtain ⟨hsize, hnodes⟩ := Prod.mk.inj hcounts
  obtain ⟨passes, mid, copied, hrest, hvalue, hfilled⟩ := copies_of_holds h _ _ _ _ final rfl
    ((Heap.Kept.refl heap).alloc _) (Nat.le_refl _) (by simp) hloop
  obtain rfl : mid = final := by cases passes <;> exact Option.some.inj hrest
  have hget : mid.heap[heap.length]? = some (.sequence .mutable [copied.ref]) := by
    rw [hfilled.filled, Heap.getElem?_alloc]
    rfl
  have hholds := hfilled.holds copied List.mem_cons_self
  have hcontainer : isBuiltin mid.heap copied.ref = true := by
    rw [isBuiltin_eq hholds, hvalue, isContainer_sortKeys, hlimits.container]
  refine ⟨mid.heap, copied, ?_, hvalue, ?_⟩
  · rw [validateAndCopyProjectedPayload, if_neg hroot]
    simp only [hloop, Option.bind_eq_bind, Option.bind_some, hget, hcontainer, hsize, hnodes]
    rfl
  · have hkept : heap.Kept mid.heap :=
      hfilled.keeps ((Heap.Kept.refl heap).alloc _) (Nat.le_refl _)
    exact
      { kept := fun address haddress _ => hkept address haddress
        grows := hkept.length_le
        holds := hfilled.holds
        nodup := hfilled.nodup
        fresh := fun address hmem => by
          have hfresh : (heap.alloc (.sequence .mutable [.none])).length ≤ address :=
            hfilled.fresh address hmem
          rw [Heap.length_alloc] at hfresh
          omega }

end

/-! ## What freezing and copying build -/

section

variable {source : Heap φ} {kind : Kind}

/-- In any heap that still has the value, a copy of it is made of new containers. -/
def Rebuilds (source : Heap φ) (kind : Kind) (copy : Heap φ → Ref φ → Option (Heap φ × Ref φ))
    (ref : Ref φ) (value : PyValue φ) : Prop :=
  ∀ heap, source.Kept heap → ∃ heap' copied, copy heap ref = some (heap', copied.ref) ∧
    copied.value = value ∧ heap.Made kind none heap' [copied]

theorem copyItems_made {copy : Heap φ → Ref φ → Option (Heap φ × Ref φ)}
    (image : PyValue φ → PyValue φ) {parts : List (Held φ)}
    (h : ∀ part ∈ parts, Rebuilds source kind copy part.ref (image part.value)) :
    ∀ heap, source.Kept heap → ∃ heap' copies,
      copyItems copy heap (parts.map Held.ref) = some (heap', copies.map Held.ref) ∧
        copies.map Held.value = parts.map (fun part => image part.value) ∧
          heap.Made kind none heap' copies := by
  induction parts with
  | nil => exact fun heap _ => ⟨heap, [], rfl, rfl, .nil heap kind none⟩
  | cons part parts ih =>
    intro heap hkept
    obtain ⟨mid, copied, hcopy, hvalue, hmade⟩ := h part List.mem_cons_self heap hkept
    obtain ⟨heap', copies, hcopies, hvalues, hrest⟩ :=
      ih (fun other hmem => h other (List.mem_cons_of_mem _ hmem)) mid
        (hkept.trans hmade.kept_of_none)
    refine ⟨heap', copied :: copies, ?_, ?_, hmade.cons hrest fun _ heq => by cases heq⟩
    · rw [List.map_cons, copyItems, hcopy, Option.bind_eq_bind, Option.bind_some]
      simp only [hcopies]
      rfl
    · rw [List.map_cons, List.map_cons, hvalue, hvalues]

/-- The entries of a mapping, copied in an order. -/
theorem copyEntries_made {copy : Heap φ → Ref φ → Option (Heap φ × Ref φ)}
    (image : PyValue φ → PyValue φ) {parts : List (PyText × Held φ)}
    (hkeys : (parts.map Prod.fst).Nodup)
    (h : ∀ part ∈ parts, Rebuilds source kind copy part.2.ref (image part.2.value)) :
    ∀ heap, source.Kept heap → ∃ heap' items value footprint,
      copyItems copy heap (parts.map fun part => part.2.ref) = some (heap', items) ∧
        value = .obj (parts.map fun part => (part.1, image part.2.value)) ∧
          heap.Made kind none
            (heap'.alloc (.mapping kind (Dict.empty.assign ((parts.map Prod.fst).zip items))))
            [⟨.container heap'.length, value, footprint⟩] := by
  intro heap hkept
  obtain ⟨heap', copies, hcopies, hvalues, hmade⟩ :=
    copyItems_made image (fun part hmem => by
      obtain ⟨keyed, hkeyed, rfl⟩ := List.mem_map.1 hmem
      exact h keyed hkeyed) heap hkept
  rw [List.map_map] at hcopies hvalues
  have hlength : (parts.map Prod.fst).length = copies.length := by
    have hlengths := congrArg List.length hvalues
    rw [List.length_map, List.length_map] at hlengths
    rw [hlengths, List.length_map]
  refine ⟨heap', _, _, _, hcopies, ?_, hmade.mapping hkeys hlength⟩
  rw [hvalues]
  exact congrArg _ List.zip_map'

/-- Freezing makes an immutable value that is equal. -/
theorem freezeProjectedPayload_made {ref : Ref φ} {tree : PyValue φ} {footprint : List ℕ}
    (h : source.Holds .mutable ref tree footprint) : ∀ depth, footprint.length ≤ depth →
      Rebuilds source .frozen (freezeProjectedPayload depth) ref tree := by
  induction h with
  | scalar value =>
    intro depth _ heap _
    refine ⟨heap, ⟨.scalar value, value.1, []⟩, ?_, rfl, .scalar heap .frozen none value⟩
    cases depth <;> rfl
  | @mapping address entries parts hget hentries _ ih =>
    intro depth hdepth heap hkept
    cases depth with
    | zero => exact absurd hdepth (Nat.not_succ_le_zero _)
    | succ depth =>
      have hheap : heap[address]? = some (.mapping .mutable entries) :=
        (hkept address (List.getElem?_eq_some_iff.1 hget).1).trans hget
      have hkeys : entries.entries.map Prod.fst = parts.map Prod.fst := by
        rw [hentries, List.map_map]
        rfl
      have hrefs : entries.entries.map Prod.snd = parts.map fun part => part.2.ref := by
        rw [hentries, List.map_map]
        rfl
      obtain ⟨mid, items, value, footprint, hitems, hvalue, hmade⟩ := copyEntries_made id
        (hkeys ▸ entries.nodup_keys) (fun part hmem => ih part hmem depth
          ((Heap.length_le_flatMap hmem).trans (Nat.le_of_succ_le_succ hdepth))) heap hkept
      refine ⟨_, _, ?_, hvalue, hmade⟩
      rw [freezeProjectedPayload, hheap]
      simp only [hkeys, hrefs, hitems]
      rfl
  | @sequence address parts hget _ ih =>
    intro depth hdepth heap hkept
    cases depth with
    | zero => exact absurd hdepth (Nat.not_succ_le_zero _)
    | succ depth =>
      have hheap : heap[address]? = some (.sequence .mutable (parts.map Held.ref)) :=
        (hkept address (List.getElem?_eq_some_iff.1 hget).1).trans hget
      obtain ⟨mid, items, hitems, hvalues, hmade⟩ := copyItems_made id
        (fun part hmem => ih part hmem depth
          ((Heap.length_le_flatMap hmem).trans (Nat.le_of_succ_le_succ hdepth))) heap hkept
      refine ⟨_, _, ?_, congrArg _ hvalues, hmade.sequence⟩
      rw [freezeProjectedPayload, hheap]
      simp only [hitems]
      rfl

/-- A copy is made of dicts and lists, with the keys of every mapping in order. -/
theorem copyProjectedValue_made {ref : Ref φ} {tree : PyValue φ} {footprint : List ℕ}
    (h : source.Holds kind ref tree footprint) : ∀ depth, footprint.length ≤ depth →
      Rebuilds source .mutable (copyProjectedValue depth) ref (sortKeys tree) := by
  induction h with
  | scalar value =>
    intro depth _ heap _
    have hsorted : sortKeys value.1 = value.1 := sortKeys_scalar value.2
    refine ⟨heap, ⟨.scalar value, value.1, []⟩, ?_, hsorted.symm,
      .scalar heap .mutable none value⟩
    cases depth <;> rfl
  | @mapping address entries parts hget hentries _ ih =>
    intro depth hdepth heap hkept
    cases depth with
    | zero => exact absurd hdepth (Nat.not_succ_le_zero _)
    | succ depth =>
      -- the source is still as it was when the copy began
      have hheap : heap[address]? = some (.mapping kind entries) :=
        (hkept address (List.getElem?_eq_some_iff.1 hget).1).trans hget
      have hsorted : sortedBy Prod.fst entries.entries =
          (sortedBy Prod.fst parts).map fun part => (part.1, part.2.ref) := by
        rw [hentries, sortedBy_map]
      have hdistinct : ((sortedBy Prod.fst parts).map Prod.fst).Nodup := by
        have hkeys := entries.nodup_keys
        rw [hentries, List.map_map] at hkeys
        exact ((perm_sortedBy Prod.fst parts).map Prod.fst).nodup_iff.2 hkeys
      -- the keys are sorted first, and each part is copied in that order
      have hkeys : (sortedBy Prod.fst entries.entries).map Prod.fst =
          (sortedBy Prod.fst parts).map Prod.fst := by
        rw [hsorted, List.map_map]
        rfl
      have hrefs : (sortedBy Prod.fst entries.entries).map Prod.snd =
          (sortedBy Prod.fst parts).map fun part => part.2.ref := by
        rw [hsorted, List.map_map]
        rfl
      obtain ⟨mid, items, value, footprint, hitems, hvalue, hmade⟩ := copyEntries_made sortKeys
        hdistinct (fun part hmem => by
          have hpart := (perm_sortedBy Prod.fst parts).mem_iff.1 hmem
          exact ih part hpart depth
            ((Heap.length_le_flatMap hpart).trans (Nat.le_of_succ_le_succ hdepth))) heap hkept
      refine ⟨_, _, ?_, hvalue.trans (sortKeys_parts parts).symm, hmade⟩
      rw [copyProjectedValue, hheap]
      simp only [hkeys, hrefs, hitems]
      rfl
  | @sequence address parts hget _ ih =>
    intro depth hdepth heap hkept
    cases depth with
    | zero => exact absurd hdepth (Nat.not_succ_le_zero _)
    | succ depth =>
      have hheap : heap[address]? = some (.sequence kind (parts.map Held.ref)) :=
        (hkept address (List.getElem?_eq_some_iff.1 hget).1).trans hget
      obtain ⟨mid, items, hitems, hvalues, hmade⟩ := copyItems_made sortKeys
        (fun part hmem => ih part hmem depth
          ((Heap.length_le_flatMap hmem).trans (Nat.le_of_succ_le_succ hdepth))) heap hkept
      refine ⟨_, _, ?_, ?_, hmade.sequence⟩
      · rw [copyProjectedValue, hheap]
        simp only [hitems]
        rfl
      · rw [sortKeys, sortItems_eq_map, List.map_map, hvalues]
        rfl

end

end

end TrueFamily.Providers
