import Mathlib.Data.List.Perm.Subperm
import TrueFamily.Lib.Dict
import TrueFamily.Lib.PyJson

/-!
# Python containers with an identity

A value of Python is a scalar, or a reference to a container of the heap: a dict or a list, which
may be changed, or a mapping proxy or a tuple, which may not. `Heap.Holds` says that a reference
stands for a value, in containers at the given addresses; a value is free of sharing where these are
distinct. What a reference stands for depends on the containers at its own addresses only
(`Holds.congr`), so nothing that happens elsewhere in the heap changes it.
-/

namespace PyHeap

variable {φ : Type}

/-- Dict or list. -/
def isContainer : PyValue φ → Bool
  | .obj _ | .arr _ => true
  | _ => false

/-- A value that is no container. -/
abbrev Scalar (φ : Type) := { value : PyValue φ // isContainer value = false }

/-- A scalar, or the address of a container. -/
inductive Ref (φ : Type)
  | scalar (value : Scalar φ)
  | container (address : ℕ)

/-- `None`. -/
def Ref.none : Ref φ := .scalar ⟨.null, rfl⟩

/-- Dicts and lists are mutable; mapping proxies and tuples are frozen. -/
inductive Kind
  | mutable
  | frozen
  deriving DecidableEq

inductive Container (φ : Type)
  | mapping (kind : Kind) (entries : Dict PyText (Ref φ))
  | sequence (kind : Kind) (items : List (Ref φ))

/-- The containers, by address. -/
abbrev Heap (φ : Type) := List (Container φ)

/-- Where a container has a value. -/
inductive Slot
  | key (key : PyText)
  | index (index : ℕ)

/-- `container[slot] = value`. -/
def Container.put (slot : Slot) (value : Ref φ) : Container φ → Container φ
  | .mapping kind entries =>
    match slot with
    | .key key => .mapping kind (entries.set key value)
    | .index _ => .mapping kind entries
  | .sequence kind items =>
    match slot with
    | .key _ => .sequence kind items
    | .index index => .sequence kind (items.set index value)

namespace Heap

/-- A new container, at the address that is the length of the heap. -/
def alloc (heap : Heap φ) (container : Container φ) : Heap φ := heap ++ [container]

/-- `parent[slot] = value`. -/
def attach (heap : Heap φ) (parent : ℕ) (slot : Slot) (value : Ref φ) : Heap φ :=
  heap.modify parent (Container.put slot value)

/-- The value that a reference stands for, at most so many containers deep. -/
def read (heap : Heap φ) (kind : Kind) : ℕ → Ref φ → Option (PyValue φ)
  | _, .scalar value => some value.1
  | 0, .container _ => none
  | depth + 1, .container address =>
    match heap[address]? with
    | some (.mapping found entries) =>
      if found = kind then do
        let values ← (entries.entries.map Prod.snd).mapM (read heap kind depth)
        return .obj ((entries.entries.map Prod.fst).zip values)
      else none
    | some (.sequence found items) =>
      if found = kind then do
        let values ← items.mapM (read heap kind depth)
        return .arr values
      else none
    | none => none

/-- The value that a reference stands for. Containers within each other are at most as many as the
heap has. -/
def value (heap : Heap φ) (kind : Kind) (ref : Ref φ) : Option (PyValue φ) :=
  heap.read kind heap.length ref

/-! ## What a reference stands for -/

end Heap

/-- A reference, its value and the addresses of its containers. -/
structure Held (φ : Type) where
  ref : Ref φ
  value : PyValue φ
  footprint : List ℕ

namespace Heap

/-- The reference stands for the value, in containers of one kind at these addresses. -/
inductive Holds (heap : Heap φ) (kind : Kind) : Ref φ → PyValue φ → List ℕ → Prop
  | scalar (value : Scalar φ) : Holds heap kind (.scalar value) value.1 []
  | mapping {address : ℕ} {entries : Dict PyText (Ref φ)} (parts : List (PyText × Held φ)) :
      heap[address]? = some (.mapping kind entries) →
      entries.entries = parts.map (fun part => (part.1, part.2.ref)) →
      (∀ part ∈ parts, Holds heap kind part.2.ref part.2.value part.2.footprint) →
      Holds heap kind (.container address) (.obj (parts.map fun part => (part.1, part.2.value)))
        (address :: parts.flatMap fun part => part.2.footprint)
  | sequence {address : ℕ} (parts : List (Held φ)) :
      heap[address]? = some (.sequence kind (parts.map Held.ref)) →
      (∀ part ∈ parts, Holds heap kind part.ref part.value part.footprint) →
      Holds heap kind (.container address) (.arr (parts.map Held.value))
        (address :: parts.flatMap Held.footprint)

variable {heap heap' : Heap φ} {kind : Kind} {ref : Ref φ} {tree : PyValue φ}
  {footprint : List ℕ}

/-- What a reference stands for depends on its own containers only. -/
theorem Holds.congr (h : heap.Holds kind ref tree footprint)
    (hsame : ∀ address ∈ footprint, heap'[address]? = heap[address]?) :
    heap'.Holds kind ref tree footprint := by
  induction h with
  | scalar value => exact .scalar value
  | mapping parts hget hentries _ ih =>
    refine .mapping parts ((hsame _ List.mem_cons_self).trans hget) hentries fun part hmem =>
      ih part hmem fun address haddress => hsame address ?_
    exact List.mem_cons_of_mem _ (List.mem_flatMap.2 ⟨part, hmem, haddress⟩)
  | sequence parts hget _ ih =>
    refine .sequence parts ((hsame _ List.mem_cons_self).trans hget) fun part hmem =>
      ih part hmem fun address haddress => hsame address ?_
    exact List.mem_cons_of_mem _ (List.mem_flatMap.2 ⟨part, hmem, haddress⟩)

/-- The containers of a value are in the heap. -/
theorem Holds.lt_length (h : heap.Holds kind ref tree footprint) :
    ∀ address ∈ footprint, address < heap.length := by
  induction h with
  | scalar value => exact fun _ hmem => absurd hmem List.not_mem_nil
  | mapping parts hget _ _ ih =>
    intro address hmem
    rcases List.mem_cons.1 hmem with rfl | hmem
    · exact (List.getElem?_eq_some_iff.1 hget).1
    · obtain ⟨part, hpart, haddress⟩ := List.mem_flatMap.1 hmem
      exact ih part hpart address haddress
  | sequence parts hget _ ih =>
    intro address hmem
    rcases List.mem_cons.1 hmem with rfl | hmem
    · exact (List.getElem?_eq_some_iff.1 hget).1
    · obtain ⟨part, hpart, haddress⟩ := List.mem_flatMap.1 hmem
      exact ih part hpart address haddress

/-- A container is held by its address. -/
theorem Holds.exists_address (h : heap.Holds kind ref tree footprint)
    (hcontainer : isContainer tree = true) : ∃ address, ref = .container address := by
  cases h with
  | scalar value => exact absurd (value.2.symm.trans hcontainer) Bool.false_ne_true
  | mapping => exact ⟨_, rfl⟩
  | sequence => exact ⟨_, rfl⟩

/-- Free of sharing, a value has at most as many containers as the heap. -/
theorem Holds.length_le (h : heap.Holds kind ref tree footprint) (hnodup : footprint.Nodup) :
    footprint.length ≤ heap.length := by
  have hsubset : footprint ⊆ List.range heap.length := fun address hmem =>
    List.mem_range.2 (h.lt_length address hmem)
  have hle := (hnodup.subperm hsubset).length_le
  rwa [List.length_range] at hle

theorem mapM_eq_some_map {α β γ : Type} {f : α → Option β} {g : γ → α} {value : γ → β} :
    ∀ {parts : List γ}, (∀ part ∈ parts, f (g part) = some (value part)) →
      (parts.map g).mapM f = some (parts.map value)
  | [], _ => rfl
  | part :: parts, h => by
    rw [List.map_cons, List.mapM_cons, h part List.mem_cons_self,
      mapM_eq_some_map fun other hmem => h other (List.mem_cons_of_mem _ hmem)]
    rfl

theorem length_le_flatMap {α : Type} {footprint : α → List ℕ} {parts : List α} {part : α}
    (h : part ∈ parts) : (footprint part).length ≤ (parts.flatMap footprint).length := by
  obtain ⟨before, after, rfl⟩ := List.append_of_mem h
  simp only [List.flatMap_append, List.flatMap_cons, List.length_append]
  omega

/-- Reading deep enough gives the value. -/
theorem Holds.read_eq_some (h : heap.Holds kind ref tree footprint) :
    ∀ {depth : ℕ}, footprint.length ≤ depth → heap.read kind depth ref = some tree := by
  induction h with
  | scalar value =>
    intro depth _
    cases depth <;> rfl
  | @mapping address entries parts hget hentries _ ih =>
    intro depth hdepth
    obtain ⟨depth, rfl⟩ : ∃ levels, depth = levels + 1 :=
      Nat.exists_eq_succ_of_ne_zero (Nat.ne_of_gt (Nat.lt_of_lt_of_le (Nat.succ_pos _) hdepth))
    have hvalues : (parts.map fun part => part.2.ref).mapM (heap.read kind depth) =
        some (parts.map fun part => part.2.value) :=
      mapM_eq_some_map fun part hmem => ih part hmem
        ((length_le_flatMap hmem).trans (Nat.le_of_succ_le_succ hdepth))
    have hrefs : entries.entries.map Prod.snd = parts.map fun part => part.2.ref := by
      rw [hentries, List.map_map]
      rfl
    have hkeys : entries.entries.map Prod.fst = parts.map Prod.fst := by
      rw [hentries, List.map_map]
      rfl
    rw [read, hget]
    simp only [if_true, hrefs, hvalues, hkeys]
    exact congrArg (fun values => some (PyValue.obj values)) List.zip_map'
  | @sequence address parts hget _ ih =>
    intro depth hdepth
    obtain ⟨depth, rfl⟩ : ∃ levels, depth = levels + 1 :=
      Nat.exists_eq_succ_of_ne_zero (Nat.ne_of_gt (Nat.lt_of_lt_of_le (Nat.succ_pos _) hdepth))
    have hvalues : (parts.map Held.ref).mapM (heap.read kind depth) =
        some (parts.map Held.value) :=
      mapM_eq_some_map fun part hmem => ih part hmem
        ((length_le_flatMap hmem).trans (Nat.le_of_succ_le_succ hdepth))
    rw [read, hget]
    simp only [if_true, hvalues]
    rfl

theorem Holds.value_eq_some (h : heap.Holds kind ref tree footprint) (hnodup : footprint.Nodup) :
    heap.value kind ref = some tree := h.read_eq_some (h.length_le hnodup)

/-! ## Heaps that grow -/

/-- The containers of the one heap are as before in the other. -/
def Kept (heap heap' : Heap φ) : Prop :=
  ∀ address < heap.length, heap'[address]? = heap[address]?

theorem Kept.refl (heap : Heap φ) : heap.Kept heap := fun _ _ => rfl

theorem Kept.holds (h : heap.Kept heap') (hholds : heap.Holds kind ref tree footprint) :
    heap'.Holds kind ref tree footprint :=
  hholds.congr fun address hmem => h address (hholds.lt_length address hmem)

theorem getElem?_alloc_of_lt {address : ℕ} (h : address < heap.length) (container : Container φ) :
    (heap.alloc container)[address]? = heap[address]? := List.getElem?_append_left h

@[simp] theorem getElem?_alloc (heap : Heap φ) (container : Container φ) :
    (heap.alloc container)[heap.length]? = some container := List.getElem?_concat_length

@[simp] theorem length_alloc (heap : Heap φ) (container : Container φ) :
    (heap.alloc container).length = heap.length + 1 := List.length_append

theorem Kept.length_le (h : heap.Kept heap') : heap.length ≤ heap'.length := by
  rcases Nat.eq_zero_or_pos heap.length with hzero | hpos
  · exact hzero ▸ Nat.zero_le _
  · have hlast : heap.length - 1 < heap.length := Nat.sub_lt hpos Nat.one_pos
    have hget := h _ hlast
    rw [List.getElem?_eq_getElem hlast] at hget
    have hlt := (List.getElem?_eq_some_iff.1 hget).1
    omega

theorem Kept.alloc (h : heap.Kept heap') (container : Container φ) :
    heap.Kept (heap'.alloc container) := by
  intro address hlt
  rw [getElem?_alloc_of_lt (Nat.lt_of_lt_of_le hlt h.length_le)]
  exact h address hlt

theorem Kept.trans {later : Heap φ} (h : heap.Kept heap') (hlater : heap'.Kept later) :
    heap.Kept later := fun address hlt =>
  (hlater address (Nat.lt_of_lt_of_le hlt h.length_le)).trans (h address hlt)

/-- An assignment to a newer container keeps the heap. -/
theorem Kept.attach (h : heap.Kept heap') {parent : ℕ} (hparent : heap.length ≤ parent)
    (slot : Slot) (value : Ref φ) : heap.Kept (heap'.attach parent slot value) := by
  intro address hlt
  rw [Heap.attach, List.getElem?_modify_ne _ _ (Nat.ne_of_gt (Nat.lt_of_lt_of_le hlt hparent))]
  exact h address hlt

theorem getElem?_attach {parent address : ℕ} (hne : address ≠ parent) (slot : Slot)
    (value : Ref φ) : (heap.attach parent slot value)[address]? = heap[address]? :=
  List.getElem?_modify_ne _ _ hne.symm

theorem getElem?_attach_self (heap : Heap φ) (parent : ℕ) (slot : Slot) (value : Ref φ) :
    (heap.attach parent slot value)[parent]? = heap[parent]?.map (Container.put slot value) :=
  List.getElem?_modify_eq _ _ _

@[simp] theorem length_attach (heap : Heap φ) (parent : ℕ) (slot : Slot) (value : Ref φ) :
    (heap.attach parent slot value).length = heap.length := List.length_modify _ _ _

end Heap

/-! ## Filling a container -/

/-- The slots get their values one after the other. -/
def Container.fill {ι : Type} (slot : ι → Slot) (parts : List (ι × Held φ))
    (container : Container φ) : Container φ :=
  parts.foldl (fun container part => container.put (slot part.1) part.2.ref) container

theorem Container.fill_mapping (parts : List (PyText × Held φ)) (kind : Kind)
    (entries : Dict PyText (Ref φ)) : Container.fill .key parts (.mapping kind entries) =
      .mapping kind (entries.assign (parts.map fun part => (part.1, part.2.ref))) := by
  induction parts generalizing entries with
  | nil => rfl
  | cons part parts ih => exact ih (entries.set part.1 part.2.ref)

/-- A list that is filled from the left. -/
theorem Container.fill_sequence (kind : Kind) (parts : List (ℕ × Held φ)) (done : List (Ref φ))
    (hslots : parts.map Prod.fst = List.range' done.length parts.length) :
    Container.fill .index parts
        (.sequence kind (done ++ List.replicate parts.length Ref.none)) =
      .sequence kind (done ++ parts.map fun part => part.2.ref) := by
  induction parts generalizing done with
  | nil => rfl
  | cons part parts ih =>
    rw [List.map_cons, List.length_cons, List.range'_succ, List.cons.injEq] at hslots
    obtain ⟨hfirst, hrest⟩ := hslots
    -- the next slot is the first one that is still `None`
    have hput : Container.put (.index part.1) part.2.ref
        (.sequence kind (done ++ List.replicate (parts.length + 1) Ref.none)) =
          .sequence kind ((done ++ [part.2.ref]) ++ List.replicate parts.length Ref.none) := by
      rw [Container.put, hfirst, List.set_append_right _ _ (Nat.le_refl _), Nat.sub_self,
        List.replicate_succ, List.set_cons_zero, List.append_assoc]
      rfl
    have hfilled := ih (done ++ [part.2.ref]) (by rw [hrest, List.length_append]; rfl)
    have hrefs : (done ++ [part.2.ref]) ++ parts.map (fun part => part.2.ref) =
        done ++ (part :: parts).map fun part => part.2.ref := List.append_assoc _ _ _
    rw [Container.fill, List.foldl_cons, List.length_cons, hput, ← hrefs]
    exact hfilled

namespace Heap

variable {heap mid heap' : Heap φ} {kind : Kind} {parent : Option ℕ}

/-! ## What is made of new containers -/

/-- The parts are in new containers, without sharing, and the containers of the heap are as before,
except for a parent. -/
structure Made (heap : Heap φ) (kind : Kind) (parent : Option ℕ) (heap' : Heap φ)
    (parts : List (Held φ)) : Prop where
  kept : ∀ address < heap.length, parent ≠ some address → heap'[address]? = heap[address]?
  grows : heap.length ≤ heap'.length
  holds : ∀ part ∈ parts, heap'.Holds kind part.ref part.value part.footprint
  nodup : (parts.flatMap Held.footprint).Nodup
  fresh : ∀ address ∈ parts.flatMap Held.footprint, heap.length ≤ address

theorem Made.nil (heap : Heap φ) (kind : Kind) (parent : Option ℕ) :
    heap.Made kind parent heap [] where
  kept := fun _ _ _ => rfl
  grows := Nat.le_refl _
  holds := fun _ hmem => absurd hmem List.not_mem_nil
  nodup := List.nodup_nil
  fresh := fun _ hmem => absurd hmem List.not_mem_nil

/-- A scalar is in no container. -/
theorem Made.scalar (heap : Heap φ) (kind : Kind) (parent : Option ℕ) (value : Scalar φ) :
    heap.Made kind parent heap [⟨.scalar value, value.1, []⟩] where
  kept := fun _ _ _ => rfl
  grows := Nat.le_refl _
  holds := fun part hmem => by
    obtain rfl := List.mem_singleton.1 hmem
    exact .scalar value
  nodup := List.nodup_nil
  fresh := fun _ hmem => absurd hmem List.not_mem_nil

theorem Made.lt_length {parts : List (Held φ)} (h : heap.Made kind parent heap' parts) :
    ∀ address ∈ parts.flatMap Held.footprint, address < heap'.length := by
  intro address hmem
  obtain ⟨part, hpart, haddress⟩ := List.mem_flatMap.1 hmem
  exact (h.holds part hpart).lt_length address haddress

/-- A part that was made. -/
theorem Made.part {part : Held φ} (h : heap.Made kind parent heap' [part]) :
    heap'.Holds kind part.ref part.value part.footprint ∧ part.footprint.Nodup ∧
      ∀ address ∈ part.footprint, heap.length ≤ address := by
  have hfootprint : [part].flatMap Held.footprint = part.footprint := List.flatMap_singleton ..
  have hnodup := h.nodup
  have hfresh := h.fresh
  rw [hfootprint] at hnodup hfresh
  exact ⟨h.holds part List.mem_cons_self, hnodup, hfresh⟩

/-- One part is made and then the others. -/
theorem Made.cons {part : Held φ} {parts : List (Held φ)} (hpart : heap.Made kind parent mid [part])
    (hparts : mid.Made kind parent heap' parts)
    (hparent : ∀ address, parent = some address → address < heap.length) :
    heap.Made kind parent heap' (part :: parts) := by
  obtain ⟨hholds, hnodup, hfresh⟩ := hpart.part
  refine ⟨fun address haddress hne => ?_, hpart.grows.trans hparts.grows, fun other hmem => ?_, ?_,
    fun address hmem => ?_⟩
  · exact (hparts.kept address (Nat.lt_of_lt_of_le haddress hpart.grows) hne).trans
      (hpart.kept address haddress hne)
  · rcases List.mem_cons.1 hmem with rfl | hmem
    · -- the parent is older than the containers of the part
      refine hholds.congr fun address haddress =>
        hparts.kept address (hholds.lt_length address haddress) fun heq => ?_
      exact absurd (hparent address heq) (Nat.not_lt.2 (hfresh address haddress))
    · exact hparts.holds other hmem
  · -- the others are in containers that are newer than those of the part
    rw [List.flatMap_cons, List.nodup_append']
    refine ⟨hnodup, hparts.nodup, fun address hmem hmem' => ?_⟩
    exact absurd (hholds.lt_length address hmem) (Nat.not_lt.2 (hparts.fresh address hmem'))
  · rw [List.flatMap_cons] at hmem
    rcases List.mem_append.1 hmem with hmem | hmem
    · exact hfresh address hmem
    · exact hpart.grows.trans (hparts.fresh address hmem)

/-- What is older than the parent is kept. -/
theorem Made.keeps {source : Heap φ} {address : ℕ} {parts : List (Held φ)}
    (h : heap.Made kind (some address) heap' parts) (hkept : source.Kept heap)
    (haddress : source.length ≤ address) : source.Kept heap' := by
  intro other hother
  refine (h.kept other (Nat.lt_of_lt_of_le hother hkept.length_le) fun heq => ?_).trans
    (hkept other hother)
  exact absurd (Option.some.inj heq ▸ haddress) (Nat.not_le.2 hother)

/-- A container is made of parts that were made before. -/
theorem Made.alloc {parts : List (Held φ)} (h : heap.Made kind none heap' parts)
    {container : Container φ} {value : PyValue φ}
    (hholds : (heap'.alloc container).Holds kind (.container heap'.length) value
      (heap'.length :: parts.flatMap Held.footprint)) :
    heap.Made kind none (heap'.alloc container)
      [⟨.container heap'.length, value, heap'.length :: parts.flatMap Held.footprint⟩] where
  kept := fun address haddress hne =>
    (getElem?_alloc_of_lt (Nat.lt_of_lt_of_le haddress h.grows) container).trans
      (h.kept address haddress hne)
  grows := by
    rw [length_alloc]
    exact Nat.le_succ_of_le h.grows
  holds := fun part hmem => by
    obtain rfl := List.mem_singleton.1 hmem
    exact hholds
  nodup := by
    rw [List.flatMap_singleton, List.nodup_cons]
    exact ⟨fun hmem => Nat.lt_irrefl _ (h.lt_length _ hmem), h.nodup⟩
  fresh := fun address hmem => by
    rw [List.flatMap_singleton] at hmem
    rcases List.mem_cons.1 hmem with rfl | hmem
    · exact h.grows
    · exact h.fresh address hmem

/-- A mapping of parts that were made before. -/
theorem Made.mapping {parts : List (Held φ)} (h : heap.Made kind none heap' parts)
    {keys : List PyText} (hkeys : keys.Nodup) (hlength : keys.length = parts.length) :
    heap.Made kind none
      (heap'.alloc (.mapping kind (Dict.empty.assign (keys.zip (parts.map Held.ref)))))
      [⟨.container heap'.length, .obj (keys.zip (parts.map Held.value)),
        heap'.length :: parts.flatMap Held.footprint⟩] := by
  have hsnd : (keys.zip parts).map Prod.snd = parts := List.map_snd_zip hlength.ge
  have hrefs : keys.zip (parts.map Held.ref) =
      (keys.zip parts).map fun part => (part.1, part.2.ref) := List.zip_map_right
  have hvalues : keys.zip (parts.map Held.value) =
      (keys.zip parts).map fun part => (part.1, part.2.value) := List.zip_map_right
  have hfootprints : parts.flatMap Held.footprint =
      (keys.zip parts).flatMap fun part => part.2.footprint := by
    rw [← List.flatMap_map (f := Prod.snd), hsnd]
  have hentries : (Dict.empty.assign (keys.zip (parts.map Held.ref))).entries =
      keys.zip (parts.map Held.ref) := by
    refine Dict.entries_assign ?_
    rw [Dict.empty, List.nil_append, List.map_fst_zip (hlength.trans (List.length_map _).symm).le]
    exact hkeys
  refine h.alloc ?_
  rw [hvalues, hfootprints]
  refine .mapping (keys.zip parts) (getElem?_alloc _ _) (hentries.trans hrefs) fun part hmem => ?_
  exact ((Kept.refl _).alloc _).holds
    (h.holds part.2 (hsnd ▸ List.mem_map_of_mem (f := Prod.snd) hmem))

/-- A sequence of parts that were made before. -/
theorem Made.sequence {parts : List (Held φ)} (h : heap.Made kind none heap' parts) :
    heap.Made kind none (heap'.alloc (.sequence kind (parts.map Held.ref)))
      [⟨.container heap'.length, .arr (parts.map Held.value),
        heap'.length :: parts.flatMap Held.footprint⟩] :=
  h.alloc (.sequence parts (getElem?_alloc _ _) fun part hmem =>
    ((Kept.refl _).alloc _).holds (h.holds part hmem))

theorem Made.kept_of_none {parts : List (Held φ)} (h : heap.Made kind none heap' parts) :
    heap.Kept heap' := fun address haddress => h.kept address haddress (Option.some_ne_none _).symm

/-! ## Filling the slots of a container -/

/-- The parts are made, and put into their slots of the parent. -/
structure Filled {ι : Type} (heap : Heap φ) (parent : ℕ) (slot : ι → Slot) (heap' : Heap φ)
    (parts : List (ι × Held φ)) : Prop extends
    heap.Made .mutable (some parent) heap' (parts.map Prod.snd) where
  filled : heap'[parent]? = heap[parent]?.map (Container.fill slot parts)

variable {ι : Type} {address : ℕ} {slot : ι → Slot}

theorem Filled.nil (heap : Heap φ) (address : ℕ) (slot : ι → Slot) :
    heap.Filled address slot heap [] where
  toMade := .nil heap .mutable _
  filled := (congrFun Option.map_id _).symm

theorem Filled.cons {part : ι × Held φ} {parts : List (ι × Held φ)}
    (hpart : heap.Filled address slot mid [part]) (hparts : mid.Filled address slot heap' parts)
    (hparent : address < heap.length) : heap.Filled address slot heap' (part :: parts) where
  toMade := hpart.toMade.cons hparts.toMade fun _ heq => Option.some.inj heq ▸ hparent
  filled := by
    rw [hparts.filled, hpart.filled, Option.map_map]
    rfl

theorem Filled.scalar (heap : Heap φ) (address : ℕ) (slot : ι → Slot) (index : ι)
    (value : Scalar φ) :
    heap.Filled address slot (heap.attach address (slot index) (.scalar value))
      [(index, ⟨.scalar value, value.1, []⟩)] where
  kept := fun other _ hne => getElem?_attach (fun heq => hne (congrArg some heq.symm)) _ _
  grows := (length_attach heap _ _ _).ge
  holds := fun part hmem => by
    obtain rfl := List.mem_singleton.1 hmem
    exact .scalar value
  nodup := List.nodup_nil
  fresh := fun _ hmem => absurd hmem List.not_mem_nil
  filled := getElem?_attach_self heap address (slot index) (.scalar value)

/-- A new container is attached to the parent, and then filled. -/
theorem Filled.container {κ : Type} {inner : κ → Slot} {empty : Container φ}
    {parts : List (κ × Held φ)} (index : ι) (hparent : address < heap.length) {value : PyValue φ}
    (hparts : ((heap.alloc empty).attach address (slot index) (.container heap.length)).Filled
      heap.length inner heap' parts)
    (hholds : heap'[heap.length]? = some (Container.fill inner parts empty) →
      heap'.Holds .mutable (.container heap.length) value
        (heap.length :: (parts.map Prod.snd).flatMap Held.footprint)) :
    heap.Filled address slot heap' [(index, ⟨.container heap.length, value,
      heap.length :: (parts.map Prod.snd).flatMap Held.footprint⟩)] := by
  have hlength : ((heap.alloc empty).attach address (slot index)
      (.container heap.length)).length = heap.length + 1 := by
    rw [length_attach, length_alloc]
  have hne : heap.length ≠ address := Nat.ne_of_gt hparent
  -- it was empty when it was attached, and what came after only filled it
  have hempty : heap'[heap.length]? = some (Container.fill inner parts empty) := by
    rw [hparts.filled, getElem?_attach hne, getElem?_alloc]
    rfl
  refine ⟨⟨fun other hother hchild => ?_, ?_, fun part hmem => ?_, ?_, fun other hmem => ?_⟩, ?_⟩
  · rw [hparts.kept other (by omega) fun heq => by injection heq with heq; omega,
      getElem?_attach (fun heq => hchild (congrArg some heq.symm)), getElem?_alloc_of_lt hother]
  · have hgrows := hparts.grows
    omega
  · obtain rfl := List.mem_singleton.1 hmem
    exact hholds hempty
  · rw [List.map_singleton, List.flatMap_singleton, List.nodup_cons]
    refine ⟨fun hmem => ?_, hparts.nodup⟩
    have hfresh := hparts.fresh _ hmem
    omega
  · rw [List.map_singleton, List.flatMap_singleton] at hmem
    rcases List.mem_cons.1 hmem with rfl | hmem
    · exact Nat.le_refl _
    · have hfresh := hparts.fresh other hmem
      omega
  · rw [hparts.kept address (by omega) fun heq => hne (Option.some.inj heq),
      getElem?_attach_self, getElem?_alloc_of_lt hparent]
    rfl

/-- A new dict is attached to the parent, and gets its entries. -/
theorem Filled.mapping {copies : List (PyText × Held φ)} (index : ι)
    (hparent : address < heap.length)
    (hcopies : ((heap.alloc (.mapping .mutable .empty)).attach address (slot index)
      (.container heap.length)).Filled heap.length .key heap' copies)
    (hkeys : (copies.map Prod.fst).Nodup) :
    heap.Filled address slot heap' [(index, ⟨.container heap.length,
      .obj (copies.map fun copied => (copied.1, copied.2.value)),
      heap.length :: (copies.map Prod.snd).flatMap Held.footprint⟩)] := by
  refine .container index hparent hcopies fun hget => ?_
  rw [Container.fill_mapping] at hget
  have hentries : (Dict.empty.assign
      (copies.map fun copied => (copied.1, copied.2.ref))).entries =
        copies.map fun copied => (copied.1, copied.2.ref) := by
    refine Dict.entries_assign ?_
    rw [Dict.empty, List.nil_append, List.map_map]
    exact hkeys
  rw [List.flatMap_map]
  exact .mapping copies hget hentries fun copied hmem =>
    hcopies.holds copied.2 (List.mem_map_of_mem hmem)

/-- A new list is attached to the parent, and gets its items. -/
theorem Filled.sequence {copies : List (ℕ × Held φ)} (index : ι) (hparent : address < heap.length)
    {length : ℕ} (hlength : copies.length = length)
    (hcopies : ((heap.alloc (.sequence .mutable (List.replicate length .none))).attach address
      (slot index) (.container heap.length)).Filled heap.length .index heap' copies)
    (hslots : copies.map Prod.fst = List.range' 0 copies.length) :
    heap.Filled address slot heap' [(index, ⟨.container heap.length,
      .arr ((copies.map Prod.snd).map Held.value),
      heap.length :: (copies.map Prod.snd).flatMap Held.footprint⟩)] := by
  subst hlength
  refine .container index hparent hcopies fun hget => ?_
  have hitems := Container.fill_sequence .mutable copies [] hslots
  rw [List.nil_append, List.nil_append] at hitems
  have hrefs : (copies.map fun copied => copied.2.ref) = (copies.map Prod.snd).map Held.ref :=
    List.map_map.symm
  rw [hitems, hrefs] at hget
  exact .sequence (copies.map Prod.snd) hget hcopies.holds

/-! ## Changes elsewhere -/

/-- The containers from an address on are as before. -/
def SameFrom (start : ℕ) (heap heap' : Heap φ) : Prop :=
  ∀ address, start ≤ address → address < heap.length → heap'[address]? = heap[address]?

/-- An assignment to a container before the address. -/
theorem SameFrom.attach {start parent : ℕ} (hparent : parent < start) (heap : Heap φ) (slot : Slot)
    (value : Ref φ) : SameFrom start heap (heap.attach parent slot value) :=
  fun _ hstart _ => getElem?_attach (Nat.ne_of_gt (Nat.lt_of_lt_of_le hparent hstart)) _ _

theorem SameFrom.holds {start : ℕ} (h : SameFrom start heap heap') {ref : Ref φ}
    {value : PyValue φ} {footprint : List ℕ} (hholds : heap.Holds kind ref value footprint)
    (hfresh : ∀ address ∈ footprint, start ≤ address) : heap'.Holds kind ref value footprint :=
  hholds.congr fun address hmem => h address (hfresh address hmem) (hholds.lt_length address hmem)

end Heap

end PyHeap
