import TrueFamily.JournalFile.ExtentMap
import TrueFamily.Lib.Segments

/-!
# The extent map is accepted exactly when it is sound

The tree below a node is what the device unfolds to, to the depth that the root declares:
`treeBelow` is what it lists and `SoundNode` what each of its nodes owes. A walk that returns has
appended the tree (`parseNode_eq_ok`), so the map is accepted exactly when the tree is sound, fits
the bounds and covers the journal (`ext4ExtentMapping_iff`).
-/

namespace TrueFamily.JournalFile

open Method
open Preflight (Sha256 hexdigest)

/-! ## What is read -/

/-- The bytes of a block. -/
def Ext4BlockReader.content (reader : Ext4BlockReader) (block : ℕ) : Bytes :=
  (reader.device.drop (block * reader.blockSize)).take reader.blockSize

/-- The device holds the whole block. -/
def Ext4BlockReader.Holds (reader : Ext4BlockReader) (block : ℕ) : Prop :=
  (block + 1) * reader.blockSize ≤ reader.device.length

theorem Ext4BlockReader.blockSize_eq (reader : Ext4BlockReader) :
    reader.blockSize = 2 ^ (10 + reader.logBlockSize) := by
  rw [blockSize, Nat.shiftLeft_eq, pow_add]
  rfl

/-- A block inside the device is in the range that may be read. -/
theorem readExactBlockRange_block {reader : Ext4BlockReader} {block : ℕ}
    (h : block < reader.totalBlocks) {raw : Bytes} :
    readExactBlockRange reader.device (block * reader.blockSize) reader.blockSize = .ok raw ↔
      reader.Holds block ∧ raw = reader.content block := by
  have hle := reader.logBlockSize_le
  have hsize := reader.blockSize_eq
  have hlower : 2 ^ 10 ≤ reader.blockSize := by
    rw [hsize]
    exact Nat.pow_le_pow_right (by decide) (by omega)
  have hupper : reader.blockSize ≤ 2 ^ 16 := by
    rw [hsize]
    exact Nat.pow_le_pow_right (by decide) (by omega)
  have hand : reader.blockSize &&& (reader.blockSize - 1) = 0 := by
    rw [hsize, Nat.and_two_pow_sub_one_eq_mod, Nat.mod_self]
  have hdvd : 512 ∣ block * reader.blockSize := by
    refine Dvd.dvd.mul_left ?_ block
    rw [hsize, show (512 : ℕ) = 2 ^ 9 by decide]
    exact Nat.pow_dvd_pow 2 (by omega)
  have hend : block * reader.blockSize + reader.blockSize ≤ 1 <<< 63 := by
    have htotal := reader.size_le
    have heq : reader.totalBlocks * reader.blockSize =
        reader.totalBlocks * 1024 * 2 ^ reader.logBlockSize := by
      rw [Ext4BlockReader.blockSize, Nat.shiftLeft_eq, Nat.mul_assoc]
    have hmul : (block + 1) * reader.blockSize ≤ reader.totalBlocks * reader.blockSize :=
      Nat.mul_le_mul_right _ h
    rw [Nat.add_mul, Nat.one_mul] at hmul
    rw [Nat.shiftLeft_eq, Nat.one_mul]
    omega
  have hrange : block * reader.blockSize % 512 = 0 ∧ 512 ≤ reader.blockSize
      ∧ reader.blockSize ≤ 65536 ∧ reader.blockSize &&& (reader.blockSize - 1) = 0
      ∧ block * reader.blockSize % reader.blockSize = 0
      ∧ block * reader.blockSize + reader.blockSize ≤ 1 <<< 63 :=
    ⟨Nat.mod_eq_zero_of_dvd hdvd, by omega, by omega, hand, Nat.mul_mod_left .., hend⟩
  rw [readExactBlockRange, Checked.bind_unit_eq_ok, Checked.check_eq_ok,
    Checked.bind_unit_eq_ok, Checked.check_eq_ok, Checked.pure_eq_ok,
    Ext4BlockReader.Holds, Nat.add_mul, Nat.one_mul, Ext4BlockReader.content]
  exact and_iff_right hrange

theorem Ext4BlockReader.content_length {reader : Ext4BlockReader} {block : ℕ}
    (h : reader.Holds block) : (reader.content block).length = reader.blockSize := by
  rw [Holds, Nat.add_mul, Nat.one_mul] at h
  rw [content, List.length_take, List.length_drop]
  omega

/-! ## Collected walks -/

instance : Append Walk where
  append first second := ⟨first.reads + second.reads, first.extents ++ second.extents,
    first.nodes ++ second.nodes, first.treeBlocks ++ second.treeBlocks⟩

namespace Walk

variable {walk first second third : Walk}

@[simp] theorem reads_append : (first ++ second).reads = first.reads + second.reads := rfl

@[simp] theorem extents_append : (first ++ second).extents = first.extents ++ second.extents := rfl

@[simp] theorem nodes_append : (first ++ second).nodes = first.nodes ++ second.nodes := rfl

@[simp] theorem treeBlocks_append :
    (first ++ second).treeBlocks = first.treeBlocks ++ second.treeBlocks := rfl

theorem append_assoc : first ++ second ++ third = first ++ (second ++ third) := by
  ext1 <;> simp [Nat.add_assoc]

/-- Nothing is collected. -/
def empty : Walk := ⟨0, [], [], []⟩

theorem append_empty : walk ++ empty = walk := by
  ext1 <;> simp [empty]

/-- What several walks collect, one after the other. -/
def join : List Walk → Walk
  | [] => empty
  | walk :: walks => walk ++ join walks

theorem extents_join (walks : List Walk) : (join walks).extents = walks.flatMap extents := by
  induction walks with
  | nil => rfl
  | cons walk walks ih => rw [join, extents_append, ih, List.flatMap_cons]

/-- The walk is inside the bounds, and no tree block was used twice. -/
structure Bounded (walk : Walk) : Prop where
  nodes : walk.nodes.length ≤ ext4MaxExtentNodes
  extents : walk.extents.length ≤ ext4MaxExtents
  reads : walk.reads ≤ ext4MaxMetadataReads
  nodup : walk.treeBlocks.Nodup

theorem Bounded.left (h : (first ++ second).Bounded) : first.Bounded where
  nodes := by
    have := h.nodes
    rw [nodes_append, List.length_append] at this
    omega
  extents := by
    have := h.extents
    rw [extents_append, List.length_append] at this
    omega
  reads := by
    have := h.reads
    rw [reads_append] at this
    omega
  nodup := (List.nodup_append.1 h.nodup).1

theorem start_bounded (reader : Ext4BlockReader) : reader.start.Bounded :=
  ⟨Nat.zero_le _, Nat.zero_le _, reader.reads_le, List.nodup_nil⟩

end Walk

/-! ## The tree -/

section

variable [Sha256] (reader : Ext4BlockReader)

/-- The node is listed. -/
def listNode (raw : Bytes) (sourceBlock : Option ℕ) : Walk where
  reads := 0
  extents := []
  nodes := [{
    depth := (extentHeader raw).depth, entries := (extentHeader raw).entries,
    generation := (extentHeader raw).generation, maximum := (extentHeader raw).maximum,
    rawDigest := hexdigest (raw.map UInt8.toNat), sourceBlock := sourceBlock }]
  treeBlocks := []

/-- The extent is listed. -/
def listExtent (extent : Extent) : Walk := ⟨0, [extent], [], []⟩

/-- The block is a tree block, and read. -/
def useBlock (block : ℕ) : Walk := ⟨1, [], [], [block]⟩

/-- What the tree below a node lists, reads and uses, in order. -/
def treeBelow : ℕ → Bytes → Option ℕ → Walk
  | 0, raw, sourceBlock => listNode raw sourceBlock ++
      Walk.join ((entryOrdinals raw).map fun ordinal => listExtent (extentAt raw ordinal))
  | depth + 1, raw, sourceBlock => listNode raw sourceBlock ++
      Walk.join ((entryOrdinals raw).map fun ordinal =>
        useBlock (childBlockAt raw ordinal) ++
          treeBelow depth (reader.content (childBlockAt raw ordinal))
            (some (childBlockAt raw ordinal)))

/-- The header of a node at this depth, with strictly increasing keys. -/
structure SoundHeader (depth : ℕ) (raw : Bytes) : Prop where
  length : 12 ≤ raw.length
  magic : (extentHeader raw).magic = ext4ExtentMagic
  depth_eq : (extentHeader raw).depth = depth
  entries_pos : 0 < (extentHeader raw).entries
  entries_le : (extentHeader raw).entries ≤ (extentHeader raw).maximum
  maximum_eq : (extentHeader raw).maximum = (raw.length - 12) / 12
  keys : ((entryOrdinals raw).map (keyAt raw)).Pairwise (· < ·)

/-- An initialised extent inside the device. -/
structure Extent.Sound (extent : Extent) : Prop where
  length_pos : 0 < extent.length
  length_le : extent.length ≤ 0x8000
  physical_pos : 0 < extent.physical
  stop_le : extent.physical + extent.length ≤ reader.totalBlocks

/-- An index entry that names a block of the device, and the key of the child. -/
structure SoundIndex (raw : Bytes) (ordinal : ℕ) : Prop where
  unused : littleField raw (entryOffset ordinal + 10) (entryOffset ordinal + 12) = 0
  block_pos : 0 < childBlockAt raw ordinal
  block_lt : childBlockAt raw ordinal < reader.totalBlocks
  holds : reader.Holds (childBlockAt raw ordinal)
  key_eq : keyAt (reader.content (childBlockAt raw ordinal)) 0 = keyAt raw ordinal

/-- Every node below is sound, and at its depth. -/
def SoundNode : ℕ → Bytes → Prop
  | 0, raw => SoundHeader 0 raw ∧ ∀ ordinal ∈ entryOrdinals raw,
      (extentAt raw ordinal).Sound reader
  | depth + 1, raw => SoundHeader (depth + 1) raw ∧ ∀ ordinal ∈ entryOrdinals raw,
      SoundIndex reader raw ordinal ∧
        SoundNode depth (reader.content (childBlockAt raw ordinal))

end

/-! ## One node -/

section

variable [Sha256] {reader : Ext4BlockReader} {raw : Bytes} {walk walk' : Walk}

/-- `SoundHeader` without the keys, which the loop checks. -/
def HeaderOk (depth : ℕ) (raw : Bytes) : Prop :=
  12 ≤ raw.length ∧ (extentHeader raw).magic = ext4ExtentMagic ∧ (extentHeader raw).depth = depth
    ∧ 0 < (extentHeader raw).entries ∧ (extentHeader raw).entries ≤ (extentHeader raw).maximum
    ∧ (extentHeader raw).maximum = (raw.length - 12) / 12

omit [Sha256] in
theorem soundHeader_iff {depth : ℕ} : SoundHeader depth raw ↔
    HeaderOk depth raw ∧ ((entryOrdinals raw).map (keyAt raw)).Pairwise (· < ·) :=
  ⟨fun h => ⟨⟨h.length, h.magic, h.depth_eq, h.entries_pos, h.entries_le, h.maximum_eq⟩, h.keys⟩,
    fun ⟨⟨hlength, hmagic, hdepth, hpos, hle, hmaximum⟩, hkeys⟩ =>
      ⟨hlength, hmagic, hdepth, hpos, hle, hmaximum, hkeys⟩⟩

theorem parseHeader_eq_ok {depth : ℕ} {source : Option ℕ} {u : Unit} (hwalk : walk.Bounded) :
    (parseHeader raw depth source).run walk = (.ok u, walk') ↔
      (HeaderOk depth raw ∧ (walk ++ listNode raw source).Bounded)
        ∧ walk' = walk ++ listNode raw source := by
  have hbounded : walk.nodes.length < ext4MaxExtentNodes ↔
      (walk ++ listNode raw source).Bounded := by
    constructor
    · intro h
      refine ⟨?_, ?_, ?_, ?_⟩
      · simpa [listNode] using h
      · simpa [listNode] using hwalk.extents
      · simpa [listNode] using hwalk.reads
      · simpa [listNode] using hwalk.nodup
    · intro h
      simpa [listNode] using h.nodes
  have happend : ({ walk with nodes := walk.nodes ++ (listNode raw source).nodes } : Walk) =
      walk ++ listNode raw source := by
    ext1 <;> simp [listNode]
  rw [parseHeader, run_require_bind_ok, run_get_bind, run_require_bind_ok, run_modify_ok,
    ← hbounded, ← happend, HeaderOk, Nat.pos_iff_ne_zero]
  simp only [listNode, and_assoc]

/-- What an entry appends when it is accepted. -/
def Appends (entry : ℕ → WalkMethod (ℕ × ℕ)) (raw : Bytes) (accepts : ℕ → Prop)
    (part : ℕ → Walk) : Prop :=
  ∀ ordinal (walk walk' : Walk) (first : ℕ), walk.Bounded →
    ((∃ final, (entry ordinal).run walk = (.ok (first, final), walk')) ↔
      (accepts ordinal ∧ (walk ++ part ordinal).Bounded) ∧ walk' = walk ++ part ordinal
        ∧ first = keyAt raw ordinal)

omit [Sha256] in
/-- The loop appends what its entries append, when their keys increase. -/
theorem parseEntries_eq_ok {entry : ℕ → WalkMethod (ℕ × ℕ)} {accepts : ℕ → Prop}
    {part : ℕ → Walk} (hentry : Appends entry raw accepts part) (numbers : List ℕ)
    (hwalk : walk.Bounded) {previous : ℤ} {first : Option ℕ} {final a : ℕ} :
    (∃ b, (parseEntries entry raw numbers previous first final).run walk = (.ok (a, b), walk')) ↔
      (((∀ key ∈ numbers.map (keyAt raw), previous < key)
          ∧ (numbers.map (keyAt raw)).Pairwise (· < ·)) ∧ ∀ ordinal ∈ numbers, accepts ordinal)
        ∧ (walk ++ Walk.join (numbers.map part)).Bounded
        ∧ walk' = walk ++ Walk.join (numbers.map part)
        ∧ some a = first.or (numbers.head?.map (keyAt raw)) := by
  -- the induction is on the entries that are left; the walk so far is general
  induction numbers generalizing walk previous first final with
  | nil =>
    rw [List.map_nil, List.map_nil, Walk.join, Walk.append_empty]
    cases first with
    | none => simp [parseEntries]
    | some first =>
      simp only [parseEntries, run_pure_ok]
      simp [hwalk, and_comm]
  | cons ordinal numbers ih =>
    have happend : walk ++ part ordinal ++ Walk.join (numbers.map part) =
        walk ++ Walk.join ((ordinal :: numbers).map part) := by
      rw [Walk.append_assoc]
      rfl
    -- increasing from the previous key on, one key at a time
    have hkeys : (∀ key ∈ (ordinal :: numbers).map (keyAt raw), previous < key) ∧
        ((ordinal :: numbers).map (keyAt raw)).Pairwise (· < ·) ↔
          previous < keyAt raw ordinal ∧
          (∀ key ∈ numbers.map (keyAt raw), ((keyAt raw ordinal : ℕ) : ℤ) < key) ∧
            (numbers.map (keyAt raw)).Pairwise (· < ·) := by
      rw [List.map_cons, List.forall_mem_cons, List.pairwise_cons]
      simp only [Nat.cast_lt]
      constructor
      · rintro ⟨⟨hfirst, _⟩, hlater, hpairwise⟩
        exact ⟨hfirst, hlater, hpairwise⟩
      · rintro ⟨hfirst, hlater, hpairwise⟩
        exact ⟨⟨hfirst, fun key hmem => hfirst.trans (by exact_mod_cast hlater key hmem)⟩, hlater,
          hpairwise⟩
    have hhead : first.or (some (keyAt raw ordinal)) =
        first.or ((ordinal :: numbers).head?.map (keyAt raw)) := rfl
    rw [hkeys, List.forall_mem_cons, ← happend, ← hhead]
    simp only [parseEntries, run_require_bind_ok]
    constructor
    · rintro ⟨b, hprevious, hrun⟩
      obtain ⟨⟨childFirst, childFinal⟩, next, hchild, hrest⟩ := run_bind_ok.1 hrun
      obtain ⟨⟨haccepts, hnext⟩, rfl, rfl⟩ := (hentry ordinal walk next childFirst hwalk).1
        ⟨childFinal, hchild⟩
      obtain ⟨⟨⟨hlater, hpairwise⟩, hothers⟩, hbounded, hwalk', ha⟩ := (ih hnext).1 ⟨b, hrest⟩
      refine ⟨⟨⟨hprevious, hlater, hpairwise⟩, haccepts, hothers⟩, hbounded, hwalk', ?_⟩
      rw [ha]
      cases first <;> rfl
    · rintro ⟨⟨⟨hprevious, hlater, hpairwise⟩, haccepts, hothers⟩, hbounded, hwalk', ha⟩
      obtain ⟨childFinal, hchild⟩ := (hentry ordinal walk (walk ++ part ordinal)
        (keyAt raw ordinal) hwalk).2 ⟨⟨haccepts, hbounded.left⟩, rfl, rfl⟩
      have ha' : some a =
          (first.or (some (keyAt raw ordinal))).or (numbers.head?.map (keyAt raw)) := by
        rw [ha]
        cases first <;> rfl
      obtain ⟨b, hrest⟩ : ∃ b, (parseEntries entry raw numbers (keyAt raw ordinal)
          (first.or (some (keyAt raw ordinal))) childFinal).run (walk ++ part ordinal) =
            (.ok (a, b), walk') :=
        (ih hbounded.left).2 ⟨⟨⟨hlater, hpairwise⟩, hothers⟩, hbounded, hwalk', ha'⟩
      exact ⟨b, hprevious, run_bind_ok.2 ⟨_, _, hchild, hrest⟩⟩

omit [Sha256] in
theorem parseExtent_appends : Appends (parseExtent reader raw) raw
    (fun ordinal => (extentAt raw ordinal).Sound reader)
    fun ordinal => listExtent (extentAt raw ordinal) := by
  intro ordinal walk walk' first hwalk
  have hbounded : walk.extents.length < ext4MaxExtents ↔
      (walk ++ listExtent (extentAt raw ordinal)).Bounded := by
    constructor
    · intro h
      refine ⟨?_, ?_, ?_, ?_⟩
      · simpa [listExtent] using hwalk.nodes
      · simpa [listExtent] using h
      · simpa [listExtent] using hwalk.reads
      · simpa [listExtent] using hwalk.nodup
    · intro h
      simpa [listExtent] using h.extents
  have happend : ({ walk with extents := walk.extents ++ [extentAt raw ordinal] } : Walk) =
      walk ++ listExtent (extentAt raw ordinal) := by
    ext1 <;> simp [listExtent]
  have hsound : (extentAt raw ordinal).Sound reader ↔
      (extentAt raw ordinal).length ≠ 0 ∧ (extentAt raw ordinal).length ≤ 0x8000
        ∧ (extentAt raw ordinal).physical ≠ 0
        ∧ (extentAt raw ordinal).physical + (extentAt raw ordinal).length ≤ reader.totalBlocks :=
    ⟨fun h => ⟨h.length_pos.ne', h.length_le, h.physical_pos.ne', h.stop_le⟩,
      fun ⟨hlength, hle, hphysical, hstop⟩ =>
        ⟨Nat.pos_of_ne_zero hlength, hle, Nat.pos_of_ne_zero hphysical, hstop⟩⟩
  rw [parseExtent]
  simp only [run_get_bind, run_require_bind_ok, run_modify_bind, run_pure_ok, Prod.mk.injEq]
  rw [hsound, ← hbounded, ← happend]
  constructor
  · rintro ⟨final, ⟨hlength, hle, hphysical, hstop, hroom⟩, ⟨hfirst, _⟩, hwalk'⟩
    exact ⟨⟨⟨hlength, hle, hphysical, hstop⟩, hroom⟩, hwalk', hfirst⟩
  · rintro ⟨⟨⟨hlength, hle, hphysical, hstop⟩, hroom⟩, hwalk', hfirst⟩
    exact ⟨_, ⟨hlength, hle, hphysical, hstop, hroom⟩, ⟨hfirst, rfl⟩, hwalk'⟩

omit [Sha256] in
theorem readBlock_eq_ok {block : ℕ} {content : Bytes} :
    (readBlock reader block).run walk = (.ok content, walk') ↔
      (block < reader.totalBlocks ∧ walk.reads < ext4MaxMetadataReads)
        ∧ (reader.Holds block ∧ content = reader.content block)
        ∧ walk' = { walk with reads := walk.reads + 1 } := by
  rw [readBlock, run_get_bind, run_require_bind_ok]
  refine and_congr_right fun hbound => ?_
  rw [run_modify_bind, run_lift_bind_ok]
  simp only [run_require_bind_ok, run_pure_ok, readExactBlockRange_block hbound.1]
  constructor
  · rintro ⟨raw, ⟨hholds, rfl⟩, hlength, rfl, hwalk'⟩
    exact ⟨⟨hholds, rfl⟩, hwalk'⟩
  · rintro ⟨⟨hholds, rfl⟩, hwalk'⟩
    exact ⟨_, ⟨hholds, rfl⟩, Ext4BlockReader.content_length hholds, rfl, hwalk'⟩

omit [Sha256] in
theorem parseIndex_appends {parseChild : Bytes → Option ℕ → WalkMethod (ℕ × ℕ)}
    {sound : Bytes → Prop} {below : Bytes → Option ℕ → Walk}
    (hchild : ∀ child source (walk walk' : Walk) (first : ℕ), walk.Bounded →
      ((∃ final, (parseChild child source).run walk = (.ok (first, final), walk')) ↔
        (sound child ∧ (walk ++ below child source).Bounded) ∧ walk' = walk ++ below child source
          ∧ first = keyAt child 0)) :
    Appends (parseIndex reader parseChild raw) raw
      (fun ordinal => SoundIndex reader raw ordinal ∧
        sound (reader.content (childBlockAt raw ordinal)))
      fun ordinal => useBlock (childBlockAt raw ordinal) ++
        below (reader.content (childBlockAt raw ordinal)) (some (childBlockAt raw ordinal)) := by
  intro ordinal walk walk' first hwalk
  -- the checks before the read are the bounds of the walk after it
  have hused : (walk.reads < ext4MaxMetadataReads ∧ childBlockAt raw ordinal ∉ walk.treeBlocks) ↔
      (walk ++ useBlock (childBlockAt raw ordinal)).Bounded := by
    constructor
    · intro ⟨hreads, hfresh⟩
      refine ⟨?_, ?_, ?_, ?_⟩
      · simpa [useBlock] using hwalk.nodes
      · simpa [useBlock] using hwalk.extents
      · simpa [useBlock] using hreads
      · rw [Walk.treeBlocks_append]
        exact hwalk.nodup.append (List.nodup_singleton _) (by simpa [useBlock] using hfresh)
    · intro h
      refine ⟨by simpa [useBlock] using h.reads, fun hmem => ?_⟩
      have hdisjoint := (List.nodup_append.1 h.nodup).2.2
      exact hdisjoint _ hmem _ (by simp [useBlock]) rfl
  have happend : ({ walk with
      reads := walk.reads + 1
      treeBlocks := walk.treeBlocks ++ [childBlockAt raw ordinal] } : Walk) =
        walk ++ useBlock (childBlockAt raw ordinal) := by
    ext1 <;> simp [useBlock]
  simp only [parseIndex, run_get_bind, run_require_bind_ok, run_modify_bind]
  rw [← Walk.append_assoc]
  constructor
  · rintro ⟨final, ⟨hunused, hpos, hlt, hfresh⟩, hrun⟩
    obtain ⟨child, next, hread, hrun⟩ := run_bind_ok.1 hrun
    obtain ⟨⟨_, hreads⟩, ⟨hholds, rfl⟩, rfl⟩ := readBlock_eq_ok.1 hread
    obtain ⟨⟨childFirst, childFinal⟩, last, hparse, hrun⟩ := run_bind_ok.1 hrun
    have hbounded := hused.1 ⟨hreads, hfresh⟩
    rw [happend] at hparse
    obtain ⟨⟨hsound, hall⟩, hlast, hfirst⟩ := (hchild _ _ _ _ _ hbounded).1 ⟨childFinal, hparse⟩
    rw [run_require_bind_ok, run_pure_ok] at hrun
    obtain ⟨hkey, hresult, rfl⟩ := hrun
    obtain ⟨rfl, rfl⟩ := Prod.mk.inj hresult
    exact ⟨⟨⟨⟨hunused, Nat.pos_of_ne_zero hpos, hlt, hholds, hfirst ▸ hkey⟩, hsound⟩, hall⟩, hlast,
      hkey⟩
  · rintro ⟨⟨⟨hindex, hsound⟩, hall⟩, rfl, rfl⟩
    have hbounded := hall.left
    obtain ⟨hreads, hfresh⟩ := hused.2 hbounded
    obtain ⟨final, hparse⟩ := (hchild _ (some (childBlockAt raw ordinal)) _ _ _ hbounded).2
      ⟨⟨hsound, hall⟩, rfl, hindex.key_eq.symm⟩
    refine ⟨final, ⟨hindex.unused, hindex.block_pos.ne', hindex.block_lt, hfresh⟩, ?_⟩
    refine run_bind_ok.2 ⟨_, _, readBlock_eq_ok.2 ⟨⟨hindex.block_lt, hreads⟩, ⟨hindex.holds, rfl⟩,
      rfl⟩, ?_⟩
    refine run_bind_ok.2 ⟨_, _, by rw [happend]; exact hparse, ?_⟩
    rw [run_require_bind_ok, run_pure_ok]
    exact ⟨rfl, rfl, rfl⟩

omit [Sha256] in
theorem head?_entryOrdinals (h : 0 < (extentHeader raw).entries) :
    (entryOrdinals raw).head? = some 0 := by
  rw [entryOrdinals, List.head?_range, if_neg (Nat.pos_iff_ne_zero.1 h)]

/-- A node whose entries append their parts. -/
theorem parseNode_body {entry : ℕ → WalkMethod (ℕ × ℕ)} {accepts : ℕ → Prop} {part : ℕ → Walk}
    (hentry : Appends entry raw accepts part) {depth : ℕ} {source : Option ℕ} {first : ℕ}
    (hwalk : walk.Bounded) :
    (∃ final, (do
        parseHeader raw depth source
        parseEntries entry raw (entryOrdinals raw) (-1) none 0 : WalkMethod (ℕ × ℕ)).run walk =
          (.ok (first, final), walk')) ↔
      ((SoundHeader depth raw ∧ ∀ ordinal ∈ entryOrdinals raw, accepts ordinal)
          ∧ (walk ++ (listNode raw source ++ Walk.join ((entryOrdinals raw).map part))).Bounded)
        ∧ walk' = walk ++ (listNode raw source ++ Walk.join ((entryOrdinals raw).map part))
        ∧ first = keyAt raw 0 := by
  have hnegative : ∀ key ∈ (entryOrdinals raw).map (keyAt raw), (-1 : ℤ) < key := by
    intro key _
    omega
  have hfirst (h : 0 < (extentHeader raw).entries) :
      some first = (none : Option ℕ).or ((entryOrdinals raw).head?.map (keyAt raw)) ↔
        first = keyAt raw 0 := by
    rw [head?_entryOrdinals h]
    exact Option.some_inj
  simp only [run_bind_ok, parseHeader_eq_ok hwalk, soundHeader_iff]
  rw [← Walk.append_assoc]
  constructor
  · rintro ⟨final, _, _, ⟨⟨hheader, hbounded⟩, rfl⟩, hrun⟩
    obtain ⟨⟨⟨_, hpairwise⟩, haccepts⟩, hall, hwalk', ha⟩ :=
      (parseEntries_eq_ok hentry (entryOrdinals raw) hbounded).1 ⟨final, hrun⟩
    exact ⟨⟨⟨⟨hheader, hpairwise⟩, haccepts⟩, hall⟩, hwalk', (hfirst hheader.2.2.2.1).1 ha⟩
  · rintro ⟨⟨⟨⟨hheader, hpairwise⟩, haccepts⟩, hall⟩, hwalk', ha⟩
    obtain ⟨final, hrun⟩ := (parseEntries_eq_ok hentry (entryOrdinals raw) hall.left).2
      ⟨⟨⟨hnegative, hpairwise⟩, haccepts⟩, hall, hwalk', (hfirst hheader.2.2.2.1).2 ha⟩
    exact ⟨final, (), _, ⟨⟨hheader, hall.left⟩, rfl⟩, hrun⟩

/-- A node is accepted exactly when the tree below is sound and fits, and is then appended. -/
theorem parseNode_eq_ok (depth : ℕ) (raw : Bytes) (source : Option ℕ) (walk walk' : Walk)
    (first : ℕ) (hwalk : walk.Bounded) :
    (∃ final, (parseNode reader depth raw source).run walk = (.ok (first, final), walk')) ↔
      (SoundNode reader depth raw ∧ (walk ++ treeBelow reader depth raw source).Bounded)
        ∧ walk' = walk ++ treeBelow reader depth raw source ∧ first = keyAt raw 0 := by
  induction depth generalizing raw source walk walk' first with
  | zero => exact parseNode_body parseExtent_appends hwalk
  | succ depth ih =>
    exact parseNode_body (parseIndex_appends fun child source walk walk' first hwalk =>
      ih child source walk walk' first hwalk) hwalk

/-! ## Reads -/

/-- The index entries of the nodes that are listed. -/
def indexEntries (nodes : List ExtentNode) : ℕ :=
  (nodes.map fun node => if node.depth = 0 then 0 else node.entries).sum

omit [Sha256] in
theorem indexEntries_append (nodes others : List ExtentNode) :
    indexEntries (nodes ++ others) = indexEntries nodes + indexEntries others := by
  rw [indexEntries, List.map_append, List.sum_append]
  rfl

/-- However the method ends, it reads at most `entries` blocks more than the nodes that it lists
have index entries. -/
def ReadsWithin {α : Type} (entries : ℕ) (method : WalkMethod α) : Prop :=
  ∀ (walk walk' : Walk) (result : Except FilesystemError α),
    method.run walk = (result, walk') →
      walk'.reads + indexEntries walk.nodes ≤ walk.reads + indexEntries walk'.nodes + entries

namespace ReadsWithin

variable {α β : Type} {entries more : ℕ}

omit [Sha256]

theorem mono {method : WalkMethod α} (h : ReadsWithin entries method) (hle : entries ≤ more) :
    ReadsWithin more method := fun walk walk' result hrun => by
  have := h walk walk' result hrun
  omega

theorem bind {first : WalkMethod α} {next : α → WalkMethod β} (hfirst : ReadsWithin entries first)
    (hnext : ∀ a, ReadsWithin more (next a)) : ReadsWithin (entries + more) (first >>= next) := by
  intro walk walk' result hrun
  rcases run_bind_cases hrun with ⟨e, hraise, _⟩ | ⟨a, middle, hreturn, hrest⟩
  · have := hfirst walk walk' _ hraise
    omega
  · have h₁ := hfirst walk middle _ hreturn
    have h₂ := hnext a middle walk' result hrest
    omega

theorem lift (x : Except FilesystemError α) : ReadsWithin 0 (liftM x : WalkMethod α) := by
  intro walk walk' result hrun
  obtain rfl : walk' = walk := (congrArg Prod.snd hrun).symm
  exact Nat.le_refl _

theorem require (c : Prop) [Decidable c] (e : FilesystemError) :
    ReadsWithin 0 (Method.require c e : WalkMethod Unit) := lift _

theorem pure (a : α) : ReadsWithin 0 (pure a : WalkMethod α) := lift (.ok a)

theorem raise (e : FilesystemError) : ReadsWithin 0 (Method.raise e : WalkMethod α) :=
  lift (.error e)

theorem get : ReadsWithin 0 (Method.get : WalkMethod Walk) := by
  intro walk walk' result hrun
  obtain rfl : walk' = walk := (congrArg Prod.snd hrun).symm
  exact Nat.le_refl _

/-- An assignment that neither reads nor lists. -/
theorem modify {f : Walk → Walk} (hreads : ∀ walk, (f walk).reads ≤ walk.reads + entries)
    (hnodes : ∀ walk, (f walk).nodes = walk.nodes) :
    ReadsWithin entries (Method.modify f : WalkMethod Unit) := by
  intro walk walk' result hrun
  obtain rfl : walk' = f walk := (congrArg Prod.snd hrun).symm
  have := hreads walk
  rw [hnodes]
  omega

/-- Only the rest reads. -/
theorem after {first : WalkMethod α} {next : α → WalkMethod β} (hfirst : ReadsWithin 0 first)
    (hnext : ∀ a, ReadsWithin entries (next a)) : ReadsWithin entries (first >>= next) :=
  (hfirst.bind hnext).mono (Nat.le_of_eq (Nat.zero_add _))

/-- The loop reads what its entries read. -/
theorem parseEntries {entry : ℕ → WalkMethod (ℕ × ℕ)}
    (hentry : ∀ n, ReadsWithin entries (entry n)) (raw : Bytes) (numbers : List ℕ) (previous : ℤ)
    (first : Option ℕ) (final : ℕ) :
    ReadsWithin (entries * numbers.length)
      (parseEntries entry raw numbers previous first final) := by
  induction numbers generalizing previous first final with
  | nil =>
    cases first with
    | none => exact raise _
    | some first => exact pure _
  | cons number numbers ih =>
    refine (require _ _).after fun _ => ?_
    rw [List.length_cons, Nat.mul_succ, Nat.add_comm]
    exact (hentry number).bind fun range => ih _ _ _

end ReadsWithin

omit [Sha256] in
theorem readBlock_reads (block : ℕ) : ReadsWithin 1 (readBlock reader block) := by
  rw [readBlock]
  refine ReadsWithin.get.after fun walk => ?_
  refine (ReadsWithin.require _ _).after fun _ => ?_
  refine @ReadsWithin.bind _ _ 1 0 _ _ (ReadsWithin.modify (fun _ => ?_) fun _ => ?_) fun _ => ?_
  · exact Nat.le_refl _
  · rfl
  refine (ReadsWithin.lift _).after fun raw => ?_
  exact (ReadsWithin.require _ _).after fun _ => ReadsWithin.pure _

omit [Sha256] in
theorem parseExtent_reads (reader : Ext4BlockReader) (raw : Bytes) (ordinal : ℕ) :
    ReadsWithin 0 (parseExtent reader raw ordinal) := by
  rw [parseExtent]
  refine ReadsWithin.get.after fun walk => ?_
  refine (ReadsWithin.require _ _).after fun _ => ?_
  refine ReadsWithin.after (ReadsWithin.modify (fun _ => ?_) fun _ => ?_) fun _ =>
    ReadsWithin.pure _
  · exact Nat.le_refl _
  · rfl

omit [Sha256] in
theorem parseIndex_reads {parseChild : Bytes → Option ℕ → WalkMethod (ℕ × ℕ)}
    (hchild : ∀ child source, ReadsWithin 0 (parseChild child source)) (reader : Ext4BlockReader)
    (raw : Bytes) (ordinal : ℕ) :
    ReadsWithin 1 (parseIndex reader parseChild raw ordinal) := by
  rw [parseIndex]
  refine ReadsWithin.get.after fun walk => ?_
  refine (ReadsWithin.require _ _).after fun _ => ?_
  refine ReadsWithin.after (ReadsWithin.modify (fun _ => ?_) fun _ => ?_) fun _ => ?_
  · exact Nat.le_refl _
  · rfl
  refine @ReadsWithin.bind _ _ 1 0 _ _ (readBlock_reads _) fun child => ?_
  refine (hchild _ _).after fun range => ?_
  exact (ReadsWithin.require _ _).after fun _ => ReadsWithin.pure _

/-- The header of an index node pays for the reads of its entries. -/
theorem parseHeader_reads {depth : ℕ} {source : Option ℕ} {α : Type} {body : WalkMethod α}
    (hbody : ReadsWithin (if depth = 0 then 0 else (extentHeader raw).entries) body) :
    ReadsWithin 0 (do parseHeader raw depth source; body) := by
  intro walk walk' result hrun
  rcases run_bind_cases hrun with ⟨e, hraise, _⟩ | ⟨_, middle, hreturn, hrest⟩
  · have hkeep : (parseHeader raw depth source).Keeps walk := by
      simp only [parseHeader, keeps_require_bind, keeps_get_bind]
      exact fun _ _ => (returns_modify _ _).keeps
    rw [hkeep e walk' hraise]
    exact Nat.le_refl _
  · rw [parseHeader, run_require_bind_ok, run_get_bind, run_require_bind_ok, run_modify_ok]
      at hreturn
    obtain ⟨_, ⟨_, hdepth, _⟩, rfl⟩ := hreturn
    have hreads := hbody _ walk' result hrest
    rw [indexEntries_append] at hreads
    simp only [indexEntries, List.map_cons, List.map_nil, List.sum_cons, List.sum_nil, hdepth]
      at hreads ⊢
    omega

/-- However it ends, a walk reads no more blocks than its nodes have index entries. -/
theorem parseNode_reads (depth : ℕ) (raw : Bytes) (source : Option ℕ) :
    ReadsWithin 0 (parseNode reader depth raw source) := by
  induction depth generalizing raw source with
  | zero =>
    refine parseHeader_reads ?_
    have hloop := ReadsWithin.parseEntries (parseExtent_reads reader raw) raw
      (entryOrdinals raw) (-1) none 0
    rwa [Nat.zero_mul] at hloop
  | succ depth ih =>
    refine parseHeader_reads ?_
    have hloop := ReadsWithin.parseEntries (parseIndex_reads ih reader raw) raw
      (entryOrdinals raw) (-1) none 0
    rwa [Nat.one_mul, entryOrdinals, List.length_range] at hloop

/-! ## The mapping -/

omit [Sha256] in
/-- The extents follow each other and no two of them overlap. -/
theorem coverExtents_eq_ok {extents : List Extent} {expected stop : ℕ}
    {ranges ranges' : List (ℕ × ℕ)} :
    coverExtents extents expected ranges = .ok (stop, ranges') ↔
      Segments.Consecutive Extent.logical Extent.length expected extents stop
        ∧ ranges' = ranges ++ extents.map Extent.range
        ∧ (∀ extent ∈ extents, ∀ previous ∈ ranges,
            ¬ (extent.range.1 < previous.2 ∧ previous.1 < extent.range.2))
        ∧ extents.Pairwise fun previous extent =>
            ¬ (extent.range.1 < previous.range.2 ∧ previous.range.1 < extent.range.2) := by
  induction extents generalizing expected ranges with
  | nil =>
    simp only [coverExtents, Segments.Consecutive, Except.ok.injEq, Prod.mk.injEq]
    simp [eq_comm]
  | cons extent extents ih =>
    simp only [coverExtents, Checked.bind_unit_eq_ok, Checked.check_eq_ok, ih,
      Segments.Consecutive, List.pairwise_cons, List.forall_mem_cons, List.map_cons,
      List.forall_mem_append, not_exists, not_and, List.append_assoc, List.cons_append,
      List.nil_append]
    constructor
    · rintro ⟨hfirst, hearlier, hrest, hranges, hlater, hpairwise⟩
      exact ⟨⟨hfirst, hrest⟩, hranges, ⟨fun previous hmem => hearlier previous hmem,
        fun other hmem => (hlater other hmem).1⟩, fun other hmem => (hlater other hmem).2.1,
        hpairwise⟩
    · rintro ⟨⟨hfirst, hrest⟩, hranges, ⟨hearlier, hlater⟩, hothers, hpairwise⟩
      exact ⟨hfirst, hearlier, hrest, hranges,
        fun other hmem => ⟨hlater other hmem, hothers other hmem, fun _ hnil => by cases hnil⟩,
        hpairwise⟩

/-- The extent owns the block. -/
def Extent.Owns (extent : Extent) (block : ℕ) : Prop :=
  extent.physical ≤ block ∧ block < extent.physical + extent.length

omit [Sha256] in
/-- Ranges that are not empty overlap where they share a block. -/
theorem not_overlap_iff {first second : Extent} (hfirst : 0 < first.length)
    (hsecond : 0 < second.length) :
    ¬ (second.range.1 < first.range.2 ∧ first.range.1 < second.range.2) ↔
      ∀ block, ¬ (first.Owns block ∧ second.Owns block) := by
  simp only [Extent.range, Extent.Owns]
  constructor
  · intro h block hboth
    omega
  · intro h hoverlap
    have := h (max first.physical second.physical)
    omega

/-- Every extent of a sound tree is sound. -/
theorem SoundNode.extent {depth : ℕ} {source : Option ℕ} (h : SoundNode reader depth raw) :
    ∀ extent ∈ (treeBelow reader depth raw source).extents, extent.Sound reader := by
  induction depth generalizing raw source with
  | zero =>
    intro extent hmem
    rw [treeBelow, Walk.extents_append, Walk.extents_join, List.flatMap_map] at hmem
    obtain ⟨ordinal, hordinal, hextent⟩ := List.mem_flatMap.1 hmem
    obtain rfl := List.mem_singleton.1 hextent
    exact h.2 ordinal hordinal
  | succ depth ih =>
    intro extent hmem
    rw [treeBelow, Walk.extents_append, Walk.extents_join, List.flatMap_map] at hmem
    obtain ⟨ordinal, hordinal, hextent⟩ := List.mem_flatMap.1 hmem
    exact ih (h.2 ordinal hordinal).2 extent hextent

/-- Every tree block is read once. -/
theorem treeBelow_reads (depth : ℕ) (raw : Bytes) (source : Option ℕ) :
    (treeBelow reader depth raw source).reads =
      (treeBelow reader depth raw source).treeBlocks.length := by
  have hjoin : ∀ walks : List Walk, (∀ walk ∈ walks, walk.reads = walk.treeBlocks.length) →
      (Walk.join walks).reads = (Walk.join walks).treeBlocks.length := by
    intro walks
    induction walks with
    | nil => exact fun _ => rfl
    | cons walk walks ih =>
      intro h
      obtain ⟨hwalk, hwalks⟩ := List.forall_mem_cons.1 h
      rw [Walk.join, Walk.reads_append, Walk.treeBlocks_append, List.length_append, hwalk,
        ih hwalks]
  induction depth generalizing raw source with
  | zero =>
    rw [treeBelow, Walk.reads_append, Walk.treeBlocks_append, List.length_append, hjoin]
    · rfl
    · intro walk hmem
      obtain ⟨ordinal, _, rfl⟩ := List.mem_map.1 hmem
      rfl
  | succ depth ih =>
    rw [treeBelow, Walk.reads_append, Walk.treeBlocks_append, List.length_append, hjoin]
    · rfl
    · intro walk hmem
      obtain ⟨ordinal, _, rfl⟩ := List.mem_map.1 hmem
      rw [Walk.reads_append, Walk.treeBlocks_append, List.length_append, ih]
      rfl

end

/-! ## Sound maps -/

section

variable [Sha256] (reader : Ext4BlockReader) (inodeBlockMap : Bytes)

/-- The depth that the root declares. -/
def declaredDepth (inodeBlockMap : Bytes) : ℕ := littleField inodeBlockMap 6 8

/-- The tree of a map. -/
def treeOf : Walk := treeBelow reader (declaredDepth inodeBlockMap) inodeBlockMap none

/-- A sound map of this many blocks, inside the bounds. -/
structure SoundMap (journalBlocks : ℕ) : Prop where
  size : inodeBlockMap.length = 60
  depth_le : declaredDepth inodeBlockMap ≤ ext4MaxExtentDepth
  node : SoundNode reader (declaredDepth inodeBlockMap) inodeBlockMap
  nodes_le : (treeOf reader inodeBlockMap).nodes.length ≤ ext4MaxExtentNodes
  extents_le : (treeOf reader inodeBlockMap).extents.length ≤ ext4MaxExtents
  reads_le : reader.reads + (treeOf reader inodeBlockMap).treeBlocks.length ≤ ext4MaxMetadataReads
  /-- The extents list the logical blocks once and in order. -/
  covers : ((treeOf reader inodeBlockMap).extents.flatMap fun extent =>
    List.range' extent.logical extent.length) = List.range journalBlocks
  disjoint : (treeOf reader inodeBlockMap).extents.Pairwise fun first second =>
    ∀ block, ¬ (first.Owns block ∧ second.Owns block)
  outside : ∀ block ∈ (treeOf reader inodeBlockMap).treeBlocks,
    ∀ extent ∈ (treeOf reader inodeBlockMap).extents, ¬ extent.Owns block
  nodup : (treeOf reader inodeBlockMap).treeBlocks.Nodup

/-- The mapping of a tree. -/
def mappingOf : ExtentMapping where
  depth := declaredDepth inodeBlockMap
  extents := (treeOf reader inodeBlockMap).extents
  format := "extents"
  nodes := (treeOf reader inodeBlockMap).nodes

/-- The mapping is returned. -/
def ReturnsMapping (journalBlocks : ℕ) (mapping : ExtentMapping) : Prop :=
  ∃ walk, (ext4ExtentMapping inodeBlockMap reader journalBlocks).run reader.start =
    (.ok mapping, walk)

variable {reader inodeBlockMap} {journalBlocks : ℕ}

omit [Sha256] in
theorem start_append (reader : Ext4BlockReader) (walk : Walk) : reader.start ++ walk =
    ⟨reader.reads + walk.reads, walk.extents, walk.nodes, walk.treeBlocks⟩ := rfl

theorem bounded_treeOf_iff : (reader.start ++ treeOf reader inodeBlockMap).Bounded ↔
    (treeOf reader inodeBlockMap).nodes.length ≤ ext4MaxExtentNodes
      ∧ (treeOf reader inodeBlockMap).extents.length ≤ ext4MaxExtents
      ∧ reader.reads + (treeOf reader inodeBlockMap).treeBlocks.length ≤ ext4MaxMetadataReads
      ∧ (treeOf reader inodeBlockMap).treeBlocks.Nodup := by
  rw [start_append, treeOf, treeBelow_reads]
  exact ⟨fun h => ⟨h.nodes, h.extents, h.reads, h.nodup⟩,
    fun ⟨hnodes, hextents, hreads, hnodup⟩ => ⟨hnodes, hextents, hreads, hnodup⟩⟩

omit [Sha256] in
/-- The checks behind the walk, over extents that are not empty. -/
theorem covered_iff {extents : List Extent} {treeBlocks : List ℕ}
    (hpos : ∀ extent ∈ extents, 0 < extent.length) :
    (∃ stop ranges, coverExtents extents 0 [] = .ok (stop, ranges) ∧ stop = journalBlocks
      ∧ ¬ ∃ range ∈ ranges, ∃ block ∈ treeBlocks, range.1 ≤ block ∧ block < range.2) ↔
      (extents.flatMap fun extent => List.range' extent.logical extent.length) =
          List.range journalBlocks
        ∧ (extents.Pairwise fun first second => ∀ block, ¬ (first.Owns block ∧ second.Owns block))
        ∧ ∀ block ∈ treeBlocks, ∀ extent ∈ extents, ¬ extent.Owns block := by
  have hconsecutive : Segments.Consecutive Extent.logical Extent.length 0 extents journalBlocks ↔
      (extents.flatMap fun extent => List.range' extent.logical extent.length) =
        List.range journalBlocks := by
    rw [← Segments.flatMap_range'_iff hpos, Nat.sub_zero, List.range_eq_range']
    exact and_iff_left (Nat.zero_le _)
  have hpairwise : (extents.Pairwise fun previous extent =>
        ¬ (extent.range.1 < previous.range.2 ∧ previous.range.1 < extent.range.2)) ↔
      extents.Pairwise fun first second => ∀ block, ¬ (first.Owns block ∧ second.Owns block) :=
    List.Pairwise.iff_of_mem fun hfirst hsecond =>
      not_overlap_iff (hpos _ hfirst) (hpos _ hsecond)
  have houtside : (¬ ∃ range ∈ extents.map Extent.range, ∃ block ∈ treeBlocks,
        range.1 ≤ block ∧ block < range.2) ↔
      ∀ block ∈ treeBlocks, ∀ extent ∈ extents, ¬ extent.Owns block := by
    constructor
    · intro h block hblock extent hextent howns
      exact h ⟨extent.range, List.mem_map_of_mem hextent, block, hblock, howns⟩
    · rintro h ⟨_, hrange, block, hblock, howns⟩
      obtain ⟨extent, hextent, rfl⟩ := List.mem_map.1 hrange
      exact h block hblock extent hextent howns
  simp only [coverExtents_eq_ok, List.nil_append]
  rw [← hconsecutive, ← hpairwise, ← houtside]
  constructor
  · rintro ⟨stop, ranges, ⟨hcovers, rfl, _, hdisjoint⟩, rfl, hout⟩
    exact ⟨hcovers, hdisjoint, hout⟩
  · intro ⟨hcovers, hdisjoint, hout⟩
    exact ⟨_, _, ⟨hcovers, rfl, fun _ _ _ hnil => (List.not_mem_nil hnil).elim, hdisjoint⟩, rfl,
      hout⟩

/-- A map is accepted exactly when it is sound, and its own mapping is returned. -/
theorem returnsMapping_iff {mapping : ExtentMapping} :
    ReturnsMapping reader inodeBlockMap journalBlocks mapping ↔
      SoundMap reader inodeBlockMap journalBlocks ∧ mapping = mappingOf reader inodeBlockMap := by
  have hpos (hnode : SoundNode reader (declaredDepth inodeBlockMap) inodeBlockMap) :
      ∀ extent ∈ (treeOf reader inodeBlockMap).extents, 0 < extent.length :=
    fun extent hmem => (hnode.extent extent hmem).length_pos
  have hparse := @parseNode_eq_ok _ reader (declaredDepth inodeBlockMap) inodeBlockMap none
    reader.start
  rw [ReturnsMapping, ext4ExtentMapping]
  simp only [run_require_bind_ok]
  constructor
  · rintro ⟨last, hsize, hdepth, hrun⟩
    obtain ⟨⟨first, final⟩, walk, hwalk, hrun⟩ := run_bind_ok.1 hrun
    obtain ⟨⟨hnode, hbounded⟩, rfl, _⟩ :=
      (hparse walk first (Walk.start_bounded reader)).1 ⟨final, hwalk⟩
    obtain ⟨hnodes, hextents, hreads, hnodup⟩ := bounded_treeOf_iff.1 hbounded
    rw [run_get_bind, run_lift_bind_ok] at hrun
    obtain ⟨⟨stop, ranges⟩, hcover, hrun⟩ := hrun
    rw [run_require_bind_ok, run_pure_ok] at hrun
    obtain ⟨⟨hstop, hout⟩, rfl, rfl⟩ := hrun
    obtain ⟨hcovers, hdisjoint, houtside⟩ := (covered_iff (hpos hnode)).1
      ⟨stop, ranges, hcover, hstop, hout⟩
    exact ⟨⟨hsize, hdepth, hnode, hnodes, hextents, hreads, hcovers, hdisjoint, houtside, hnodup⟩,
      rfl⟩
  · rintro ⟨hsound, rfl⟩
    obtain ⟨final, hwalk⟩ := (hparse _ _ (Walk.start_bounded reader)).2
      ⟨⟨hsound.node, bounded_treeOf_iff.2 ⟨hsound.nodes_le, hsound.extents_le, hsound.reads_le,
        hsound.nodup⟩⟩, rfl, rfl⟩
    obtain ⟨stop, ranges, hcover, hstop, hout⟩ := (covered_iff (hpos hsound.node)).2
      ⟨hsound.covers, hsound.disjoint, hsound.outside⟩
    refine ⟨reader.start ++ treeOf reader inodeBlockMap, hsound.size, hsound.depth_le,
      run_bind_ok.2 ⟨_, _, hwalk, ?_⟩⟩
    rw [run_get_bind, run_lift_bind_ok]
    refine ⟨(stop, ranges), hcover, ?_⟩
    rw [run_require_bind_ok, run_pure_ok]
    exact ⟨⟨hstop, hout⟩, rfl, rfl⟩

/-! ## The function that a map denotes -/

/-- The physical block of a logical block. -/
def ExtentMapping.blockAt (mapping : ExtentMapping) (logical : ℕ) : Option ℕ :=
  (Segments.find Extent.logical Extent.length logical mapping.extents).map fun extent =>
    extent.physical + (logical - extent.logical)

/-- The physical block of a logical block in the tree: each node routes it to its last entry whose
key is not above it. -/
def lookupBlock (reader : Ext4BlockReader) : ℕ → Bytes → ℕ → Option ℕ
  | 0, raw, logical =>
    (Segments.route (keyAt raw) logical (entryOrdinals raw)).bind fun ordinal =>
      let extent := extentAt raw ordinal
      if logical < extent.logical + extent.length then
        some (extent.physical + (logical - extent.logical))
      else none
  | depth + 1, raw, logical =>
    (Segments.route (keyAt raw) logical (entryOrdinals raw)).bind fun ordinal =>
      lookupBlock reader depth (reader.content (childBlockAt raw ordinal)) logical

/-- The first extent of a sound node starts at its first key. -/
theorem SoundNode.first {depth : ℕ} {raw : Bytes} (h : SoundNode reader depth raw)
    (source : Option ℕ) :
    ∃ extent extents, (treeBelow reader depth raw source).extents = extent :: extents ∧
      extent.logical = keyAt raw 0 := by
  induction depth generalizing raw source with
  | zero =>
    obtain ⟨rest, hrest⟩ := List.head?_eq_some_iff.1 (head?_entryOrdinals h.1.entries_pos)
    rw [treeBelow, Walk.extents_append, Walk.extents_join, List.flatMap_map, hrest]
    exact ⟨extentAt raw 0, _, rfl, rfl⟩
  | succ depth ih =>
    obtain ⟨rest, hrest⟩ := List.head?_eq_some_iff.1 (head?_entryOrdinals h.1.entries_pos)
    obtain ⟨hindex, hchild⟩ := h.2 0 (hrest ▸ List.mem_cons_self)
    obtain ⟨extent, extents, heq, hfirst⟩ := ih hchild (some (childBlockAt raw 0))
    rw [treeBelow, Walk.extents_append, Walk.extents_join, List.flatMap_map, hrest,
      List.flatMap_cons, Walk.extents_append, heq]
    exact ⟨extent, _, rfl, hfirst.trans hindex.key_eq⟩

/-- The lookupBlock in a sound tree finds the extent that holds the logical block. -/
theorem SoundNode.lookup_eq {depth : ℕ} {raw : Bytes} {source : Option ℕ} {start stop : ℕ}
    (h : SoundNode reader depth raw)
    (hcovers : Segments.Consecutive Extent.logical Extent.length start
      (treeBelow reader depth raw source).extents stop) (logical : ℕ) :
    lookupBlock reader depth raw logical = (Segments.find Extent.logical Extent.length logical
      (treeBelow reader depth raw source).extents).map fun extent =>
        extent.physical + (logical - extent.logical) := by
  induction depth generalizing raw source start stop with
  -- a leaf holds the extents, an inner node the trees that hold them
  | zero =>
    have hextents : (treeBelow reader 0 raw source).extents =
        (entryOrdinals raw).flatMap fun ordinal => [extentAt raw ordinal] := by
      rw [treeBelow, Walk.extents_append, Walk.extents_join, List.flatMap_map]
      rfl
    rw [hextents] at hcovers ⊢
    have hgroup : ∀ ordinal ∈ entryOrdinals raw, ∃ extent extents,
        [extentAt raw ordinal] = extent :: extents ∧ extent.logical = keyAt raw ordinal :=
      fun ordinal _ => ⟨extentAt raw ordinal, [], rfl, rfl⟩
    -- the entry on the route is the only one whose extents can hold the block
    rw [← Segments.route_bind_find hgroup hcovers, lookupBlock, Option.map_bind]
    refine Option.bind_congr fun ordinal hroute => ?_
    have hkey := (Segments.route_some hroute).2
    by_cases hlt : logical < (extentAt raw ordinal).logical + (extentAt raw ordinal).length
    · have hholds : Segments.Holds Extent.logical Extent.length logical (extentAt raw ordinal) :=
        ⟨hkey, hlt⟩
      simp [Segments.find, hholds, hlt]
    · have hholds : ¬ Segments.Holds Extent.logical Extent.length logical
          (extentAt raw ordinal) := fun h => hlt h.2
      simp [Segments.find, hholds, hlt]
  | succ depth ih =>
    have hextents : (treeBelow reader (depth + 1) raw source).extents =
        (entryOrdinals raw).flatMap fun ordinal =>
          (treeBelow reader depth (reader.content (childBlockAt raw ordinal))
            (some (childBlockAt raw ordinal))).extents := by
      rw [treeBelow, Walk.extents_append, Walk.extents_join, List.flatMap_map]
      rfl
    rw [hextents] at hcovers ⊢
    have hgroup : ∀ ordinal ∈ entryOrdinals raw, ∃ extent extents, (treeBelow reader depth
        (reader.content (childBlockAt raw ordinal)) (some (childBlockAt raw ordinal))).extents =
          extent :: extents ∧ extent.logical = keyAt raw ordinal := by
      intro ordinal hmem
      obtain ⟨hindex, hchild⟩ := h.2 ordinal hmem
      obtain ⟨extent, extents, heq, hfirst⟩ := hchild.first (some _)
      exact ⟨extent, extents, heq, hfirst.trans hindex.key_eq⟩
    rw [← Segments.route_bind_find hgroup hcovers, lookupBlock, Option.map_bind]
    refine Option.bind_congr fun ordinal hroute => ?_
    have hmem := (Segments.route_some hroute).1
    obtain ⟨lower, upper, hchild⟩ := hcovers.group hmem
    exact ih (h.2 ordinal hmem).2 hchild

/-- The mapping denotes the function of the tree. -/
theorem SoundMap.blockAt (h : SoundMap reader inodeBlockMap journalBlocks) (logical : ℕ) :
    (mappingOf reader inodeBlockMap).blockAt logical =
      lookupBlock reader (declaredDepth inodeBlockMap) inodeBlockMap logical := by
  have hcovers : Segments.Consecutive Extent.logical Extent.length 0
      (treeOf reader inodeBlockMap).extents journalBlocks := by
    refine (Segments.flatMap_range'_iff fun extent hmem => ?_).1 ⟨?_, Nat.zero_le _⟩
    · exact (h.node.extent extent hmem).length_pos
    · rw [h.covers, Nat.sub_zero, List.range_eq_range']
  exact (h.node.lookup_eq hcovers logical).symm

/-- The walk reads at most one block for an index entry, however it ends; a map is accepted exactly
when it is sound, with the extents of its tree; and maps that look up the same blocks give
mappings that denote the same function. -/
theorem ext4ExtentMapping_exact (reader : Ext4BlockReader) (inodeBlockMap : Bytes)
    (journalBlocks : ℕ) :
    (∀ result walk,
      (ext4ExtentMapping inodeBlockMap reader journalBlocks).run reader.start = (result, walk) →
        walk.reads ≤ reader.reads + indexEntries walk.nodes) ∧
    (∀ mapping, ReturnsMapping reader inodeBlockMap journalBlocks mapping ↔
      SoundMap reader inodeBlockMap journalBlocks ∧ mapping = mappingOf reader inodeBlockMap) ∧
    ∀ (other : Ext4BlockReader) (otherMap : Bytes) (otherBlocks : ℕ)
      (mapping otherMapping : ExtentMapping),
      ReturnsMapping reader inodeBlockMap journalBlocks mapping →
      ReturnsMapping other otherMap otherBlocks otherMapping →
      (∀ logical, lookupBlock reader (declaredDepth inodeBlockMap) inodeBlockMap logical =
        lookupBlock other (declaredDepth otherMap) otherMap logical) →
      ∀ logical, mapping.blockAt logical = otherMapping.blockAt logical := by
  refine ⟨?_, fun mapping => returnsMapping_iff, ?_⟩
  · intro result walk hrun
    have hreads : ReadsWithin 0 (ext4ExtentMapping inodeBlockMap reader journalBlocks) := by
      rw [ext4ExtentMapping]
      refine (ReadsWithin.require _ _).after fun _ => ?_
      refine (ReadsWithin.require _ _).after fun _ => ?_
      refine (parseNode_reads _ _ _).after fun range => ?_
      refine ReadsWithin.get.after fun walk => ?_
      refine (ReadsWithin.lift _).after fun cover => ?_
      exact (ReadsWithin.require _ _).after fun _ => ReadsWithin.pure _
    exact hreads _ _ _ hrun
  · intro other otherMap otherBlocks mapping otherMapping hreturns hother hsame logical
    obtain ⟨hsound, rfl⟩ := returnsMapping_iff.1 hreturns
    obtain ⟨hotherSound, rfl⟩ := returnsMapping_iff.1 hother
    rw [hsound.blockAt, hotherSound.blockAt, hsame]

end

/-- A reader of 100 blocks of 1024 bytes, on a device that holds none of them. -/
def emptyReader : Ext4BlockReader where
  device := []
  logBlockSize := 0
  totalBlocks := 100
  reads := 2
  logBlockSize_le := by decide
  size_le := by decide
  reads_le := by decide

/-- Two extents in the root: eight blocks from 20 on, and one more at 10. -/
def fragmentedMap : Bytes :=
  [0x0a, 0xf3, 2, 0, 4, 0, 0, 0, 0, 0, 0, 0] ++ [0, 0, 0, 0, 8, 0, 0, 0, 20, 0, 0, 0]
    ++ [8, 0, 0, 0, 1, 0, 0, 0, 10, 0, 0, 0] ++ List.replicate 24 0

example : ((@ext4ExtentMapping Preflight.checksum fragmentedMap emptyReader 9).run
    emptyReader.start).1.map ExtentMapping.extents = .ok [⟨8, 0, 20⟩, ⟨1, 8, 10⟩] := by
  decide

end TrueFamily.JournalFile
