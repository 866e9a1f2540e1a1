import TrueFamily.JournalFile.Codec
import TrueFamily.Lib.Method
import TrueFamily.Preflight.Canonical

/-!
# The extent map of the ext4 journal

`_Ext4BlockReader` and `_ext4_extent_mapping`. The device is its bytes, behind an alias that keeps
naming it; the bounds on a read range are those of `_read_exact_block_range`. The walk over the
tree keeps what it collected when it raises, and so does the number of its reads.
-/

namespace TrueFamily.JournalFile

open Method
open Preflight (Sha256 hexdigest)

/-- `ReferenceJournalUnsupportedFilesystemError`, with its text. -/
inductive FilesystemError
  | unsupported (message : String)
  deriving DecidableEq, Repr

/-! ## Bytes -/

/-- `int.from_bytes(raw, "little")`. -/
def fromLittle : Bytes → ℕ
  | [] => 0
  | byte :: rest => byte.toNat + 256 * fromLittle rest

/-- `int.from_bytes(raw[start:stop], "little")`. -/
def littleField (raw : Bytes) (start stop : ℕ) : ℕ := fromLittle ((raw.take stop).drop start)

/-! ## Constants -/

def ext4ExtentMagic : ℕ := 0xF30A

def ext4MaxExtentDepth : ℕ := 2

def ext4MaxExtentNodes : ℕ := 8

def ext4MaxExtents : ℕ := 64

def ext4MaxMetadataReads : ℕ := 16

/-! ## The reader -/

/-- `_Ext4BlockReader`, with the geometry that its caller has checked: a block size of 1024 up to
65536, and a device below 2^63 bytes. -/
structure Ext4BlockReader where
  device : Bytes
  logBlockSize : ℕ
  totalBlocks : ℕ
  reads : ℕ
  logBlockSize_le : logBlockSize ≤ 6
  size_le : totalBlocks * 1024 * 2 ^ logBlockSize ≤ 2 ^ 63 - 1
  reads_le : reads ≤ ext4MaxMetadataReads

/-- `1024 << log_block_size`. -/
def Ext4BlockReader.blockSize (reader : Ext4BlockReader) : ℕ := 1024 <<< reader.logBlockSize

/-- `_read_exact_block_range`. -/
def readExactBlockRange (device : Bytes) (offset size : ℕ) : Except FilesystemError Bytes := do
  Checked.check (offset % 512 = 0 ∧ 512 ≤ size ∧ size ≤ 65536 ∧ size &&& (size - 1) = 0
      ∧ offset % size = 0 ∧ offset + size ≤ 1 <<< 63)
    (.unsupported "The raw block-device read range is not bounded and canonical.")
  Checked.check (offset + size ≤ device.length)
    (.unsupported "The filesystem superblock read was incomplete.")
  return (device.drop offset).take size

/-! ## The walk -/

/-- An extent, as it is listed. -/
structure Extent where
  length : ℕ
  logical : ℕ
  physical : ℕ
  deriving DecidableEq, Repr

/-- A node, as it is listed. -/
structure ExtentNode where
  depth : ℕ
  entries : ℕ
  generation : ℕ
  maximum : ℕ
  rawDigest : JsonValue.Text
  sourceBlock : Option ℕ
  deriving DecidableEq, Repr

/-- The reads of the reader, and `extents`, `nodes` and `tree_blocks`. -/
@[ext] structure Walk where
  reads : ℕ
  extents : List Extent
  nodes : List ExtentNode
  treeBlocks : List ℕ
  deriving DecidableEq, Repr

abbrev WalkMethod := Method Walk FilesystemError

/-- `_Ext4BlockReader.read_block`. -/
def readBlock (reader : Ext4BlockReader) (block : ℕ) : WalkMethod Bytes := do
  let walk ← get
  require (block < reader.totalBlocks ∧ walk.reads < ext4MaxMetadataReads)
    (.unsupported "The ext4 metadata read exceeds its exact block bound.")
  modify fun walk => { walk with reads := walk.reads + 1 }
  let raw ← liftM (readExactBlockRange reader.device (block * reader.blockSize) reader.blockSize)
  require (raw.length = reader.blockSize)
    (.unsupported "An ext4 metadata block read was incomplete.")
  return raw

/-- The header of a node. -/
structure ExtentHeader where
  magic : ℕ
  entries : ℕ
  maximum : ℕ
  depth : ℕ
  generation : ℕ
  deriving DecidableEq, Repr

/-- The header that the node's bytes start with. -/
def extentHeader (raw : Bytes) : ExtentHeader where
  magic := littleField raw 0 2
  entries := littleField raw 2 4
  maximum := littleField raw 4 6
  depth := littleField raw 6 8
  generation := littleField raw 8 12

/-- The start of `parse_node`: the header is checked and the node is listed. -/
def parseHeader [Sha256] (raw : Bytes) (expectedDepth : ℕ) (sourceBlock : Option ℕ) :
    WalkMethod Unit := do
  require (12 ≤ raw.length) (.unsupported "The ext4 journal extent node is truncated.")
  let header := extentHeader raw
  let walk ← get
  require (header.magic = ext4ExtentMagic ∧ header.depth = expectedDepth ∧ header.entries ≠ 0
      ∧ header.entries ≤ header.maximum ∧ header.maximum = (raw.length - 12) / 12
      ∧ walk.nodes.length < ext4MaxExtentNodes)
    (.unsupported "The ext4 journal extent header is unsupported.")
  modify fun walk => { walk with nodes := walk.nodes ++ [{
    depth := header.depth, entries := header.entries, generation := header.generation,
    maximum := header.maximum, rawDigest := hexdigest (raw.map UInt8.toNat),
    sourceBlock := sourceBlock }] }

/-- Where an entry starts. -/
def entryOffset (ordinal : ℕ) : ℕ := 12 + ordinal * 12

/-- The key of an entry. -/
def keyAt (raw : Bytes) (ordinal : ℕ) : ℕ :=
  littleField raw (entryOffset ordinal) (entryOffset ordinal + 4)

/-- The extent that an entry of a leaf encodes. -/
def extentAt (raw : Bytes) (ordinal : ℕ) : Extent where
  length := littleField raw (entryOffset ordinal + 4) (entryOffset ordinal + 6)
  logical := keyAt raw ordinal
  physical := (littleField raw (entryOffset ordinal + 6) (entryOffset ordinal + 8) <<< 32)
    ||| littleField raw (entryOffset ordinal + 8) (entryOffset ordinal + 12)

/-- An entry of a leaf. -/
def parseExtent (reader : Ext4BlockReader) (raw : Bytes) (ordinal : ℕ) : WalkMethod (ℕ × ℕ) := do
  let extent := extentAt raw ordinal
  let walk ← get
  require (extent.length ≠ 0 ∧ extent.length ≤ 0x8000 ∧ extent.physical ≠ 0
      ∧ extent.physical + extent.length ≤ reader.totalBlocks
      ∧ walk.extents.length < ext4MaxExtents)
    (.unsupported "The ext4 journal extent is uninitialized or out of bounds.")
  modify fun walk => { walk with extents := walk.extents ++ [extent] }
  return (extent.logical, extent.logical + extent.length)

/-- The block of the child that an index entry names. -/
def childBlockAt (raw : Bytes) (ordinal : ℕ) : ℕ :=
  littleField raw (entryOffset ordinal + 4) (entryOffset ordinal + 8)
    ||| (littleField raw (entryOffset ordinal + 8) (entryOffset ordinal + 10) <<< 32)

/-- An index entry; `parseChild` is the call of `parse_node` for the level below. -/
def parseIndex (reader : Ext4BlockReader)
    (parseChild : Bytes → Option ℕ → WalkMethod (ℕ × ℕ)) (raw : Bytes) (ordinal : ℕ) :
    WalkMethod (ℕ × ℕ) := do
  let childBlock := childBlockAt raw ordinal
  let walk ← get
  require (littleField raw (entryOffset ordinal + 10) (entryOffset ordinal + 12) = 0
      ∧ childBlock ≠ 0 ∧ childBlock < reader.totalBlocks ∧ childBlock ∉ walk.treeBlocks)
    (.unsupported "The ext4 journal extent index is malformed.")
  modify fun walk => { walk with treeBlocks := walk.treeBlocks ++ [childBlock] }
  let child ← readBlock reader childBlock
  let (childFirst, childFinal) ← parseChild child (some childBlock)
  require (childFirst = keyAt raw ordinal)
    (.unsupported "The ext4 journal extent index key is inconsistent.")
  return (childFirst, childFinal)

/-- The loop over the entries of a node, with `previous_index`, `first_logical` and
`final_logical`. -/
def parseEntries (entry : ℕ → WalkMethod (ℕ × ℕ)) (raw : Bytes) :
    List ℕ → ℤ → Option ℕ → ℕ → WalkMethod (ℕ × ℕ)
  | [], _, none, _ => raise (.unsupported "The ext4 journal extent tree is empty.")
  | [], _, some firstLogical, finalLogical => pure (firstLogical, finalLogical)
  | ordinal :: ordinals, previousIndex, firstLogical, _ => do
    require (previousIndex < keyAt raw ordinal)
      (.unsupported "The ext4 journal extent keys are not strictly ordered.")
    let (childFirst, childFinal) ← entry ordinal
    parseEntries entry raw ordinals (keyAt raw ordinal) (firstLogical.or (some childFirst))
      childFinal

/-- The entries of a node, by number. -/
def entryOrdinals (raw : Bytes) : List ℕ := List.range (extentHeader raw).entries

/-- `parse_node`. -/
def parseNode [Sha256] (reader : Ext4BlockReader) : ℕ → Bytes → Option ℕ → WalkMethod (ℕ × ℕ)
  | 0, raw, sourceBlock => do
    parseHeader raw 0 sourceBlock
    parseEntries (parseExtent reader raw) raw (entryOrdinals raw) (-1) none 0
  | depth + 1, raw, sourceBlock => do
    parseHeader raw (depth + 1) sourceBlock
    parseEntries (parseIndex reader (parseNode reader depth) raw) raw (entryOrdinals raw) (-1)
      none 0

/-! ## The mapping -/

/-- The physical blocks of an extent, from the first one up to the one behind the last. -/
def Extent.range (extent : Extent) : ℕ × ℕ := (extent.physical, extent.physical + extent.length)

/-- The loop over the extents, with `expected_logical` and `physical_ranges`. -/
def coverExtents : List Extent → ℕ → List (ℕ × ℕ) → Except FilesystemError (ℕ × List (ℕ × ℕ))
  | [], expectedLogical, physicalRanges => .ok (expectedLogical, physicalRanges)
  | extent :: extents, expectedLogical, physicalRanges => do
    Checked.check (extent.logical = expectedLogical)
      (.unsupported "The ext4 journal extent map contains a hole or overlap.")
    Checked.check (¬ ∃ previous ∈ physicalRanges,
        extent.range.1 < previous.2 ∧ previous.1 < extent.range.2)
      (.unsupported "The ext4 journal physical extents overlap.")
    coverExtents extents (expectedLogical + extent.length) (physicalRanges ++ [extent.range])

/-- The mapping that is returned. -/
structure ExtentMapping where
  depth : ℕ
  extents : List Extent
  format : String
  nodes : List ExtentNode
  deriving DecidableEq, Repr

/-- `_ext4_extent_mapping`, on a walk that has collected nothing. -/
def ext4ExtentMapping [Sha256] (inodeBlockMap : Bytes) (reader : Ext4BlockReader)
    (journalBlocks : ℕ) : WalkMethod ExtentMapping := do
  require (inodeBlockMap.length = 60)
    (.unsupported "The ext4 journal inode block map has an invalid size.")
  let depth := littleField inodeBlockMap 6 8
  require (depth ≤ ext4MaxExtentDepth)
    (.unsupported "The ext4 journal extent depth exceeds the supported bound.")
  let _ ← parseNode reader depth inodeBlockMap none
  let walk ← get
  let (expectedLogical, physicalRanges) ← liftM (coverExtents walk.extents 0 [])
  require (expectedLogical = journalBlocks
      ∧ ¬ ∃ range ∈ physicalRanges, ∃ block ∈ walk.treeBlocks, range.1 ≤ block ∧ block < range.2)
    (.unsupported "The ext4 journal extent map does not exactly cover the inode.")
  return { depth := depth, extents := walk.extents, format := "extents", nodes := walk.nodes }

/-- The walk before the first node. -/
def Ext4BlockReader.start (reader : Ext4BlockReader) : Walk := ⟨reader.reads, [], [], []⟩

end TrueFamily.JournalFile
