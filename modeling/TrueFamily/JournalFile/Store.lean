import TrueFamily.JournalFile.Codec

/-!
# The file journal store

`_load_sync`, `_save_sync` and `_barrier_sync` of `CrashDurableReferenceJournalStore` over the one
final file, with every file-system call succeeding and no other process at work: the temporary
file takes the place of the final one.
-/

namespace TrueFamily.JournalFile

open JsonValue (FloatText)

variable {φ : Type} [FloatText φ]

/-- The final file: its identity and its bytes. -/
structure File where
  inode : ℕ
  raw : Bytes
  deriving DecidableEq

/-- `_Snapshot`. -/
structure Snapshot where
  raw : Option Bytes := none
  inode : Option ℕ := none
  generation : Option ℤ := none
  deriving DecidableEq

/-- `_CommitStamp`. -/
structure CommitStamp where
  snapshot : Snapshot
  sequence : ℕ
  deriving DecidableEq

/-- `CrashDurableReferenceJournalStore`. -/
structure CrashDurableReferenceJournalStore where
  maxBytes : ℕ
  snapshot : Option Snapshot := none
  saveReady : Bool := false
  sequence : ℕ := 0
  commitStamp : Option CommitStamp := none
  poisoned : Bool := false
  deriving DecidableEq

/-- `_read_named_final`, of a file that is there. -/
def readFile (file : File) (maxBytes : ℕ) : Result (PyValue φ × Snapshot) := do
  let data ← canonicalDecode file.raw maxBytes
  let generation ← generation data
  .ok (data, ⟨some file.raw, some file.inode, some generation⟩)

/-- The snapshot of the final file, which may be absent. -/
def currentSnapshot (φ : Type) [FloatText φ] (final : Option File) (maxBytes : ℕ) :
    Result Snapshot :=
  match final with
  | none => .ok {}
  | some file => do
    let current ← readFile (φ := φ) file maxBytes
    .ok current.2

/-- What a save expects of the next generation. -/
def expectedGeneration (snapshot : Snapshot) : ℤ :=
  match snapshot.generation with
  | none => 0
  | some generation => generation + 1

/-- The body of `_save_sync`: the temporary file with the inode `inode` replaces the final one. -/
def commit (maxBytes : ℕ) (snapshot : Snapshot) (final : Option File) (data : PyValue φ)
    (inode : ℕ) : Result (File × Snapshot) := do
  let raw ← canonicalEncode data maxBytes
  let candidate ← canonicalDecode (φ := φ) raw maxBytes
  let candidateGeneration ← generation candidate
  if candidateGeneration ≠ expectedGeneration snapshot then .error .conflict
  else do
    let current ← currentSnapshot φ final maxBytes
    if snapshot ≠ current then .error .conflict
    else do
      let file : File := ⟨inode, raw⟩
      let replaced ← readFile (φ := φ) file maxBytes
      if replaced.2 ≠ ⟨some raw, some inode, some candidateGeneration⟩ then .error .conflict
      else .ok (file, replaced.2)

namespace CrashDurableReferenceJournalStore

/-- `_save_sync`. An error of the body poisons the store, and the poisoned error is raised. -/
def saveSync (self : CrashDurableReferenceJournalStore) (final : Option File) (data : PyValue φ)
    (inode : ℕ) : CrashDurableReferenceJournalStore × Result File :=
  if self.poisoned then (self, .error .poisoned)
  else if self.commitStamp.isSome then (self, .error .protocol)
  else
    match self.saveReady, self.snapshot with
    | true, some snapshot =>
      match commit self.maxBytes snapshot final data inode with
      | .error _ => ({ self with poisoned := true }, .error .poisoned)
      | .ok (file, reopened) =>
        ({ self with
            sequence := self.sequence + 1
            snapshot := some reopened
            saveReady := false
            commitStamp := some ⟨reopened, self.sequence + 1⟩ }, .ok file)
    | _, _ => (self, .error .protocol)

/-- `_load_sync`. An error poisons the store, and is raised itself. -/
def loadSync (self : CrashDurableReferenceJournalStore) (final : Option File) :
    CrashDurableReferenceJournalStore × Result (Option (PyValue φ)) :=
  if self.poisoned then (self, .error .poisoned)
  else if self.commitStamp.isSome then (self, .error .protocol)
  else
    match final with
    | none =>
      ({ self with sequence := self.sequence + 1, snapshot := some {}, saveReady := true },
        .ok none)
    | some file =>
      match readFile file self.maxBytes with
      | .error e => ({ self with poisoned := true }, .error e)
      | .ok (data, snapshot) =>
        ({ self with
            sequence := self.sequence + 1, snapshot := some snapshot, saveReady := true },
          .ok (some data))

/-- `_barrier_sync`. An error poisons the store, as in a save. -/
def barrierSync (φ : Type) [FloatText φ] (self : CrashDurableReferenceJournalStore)
    (final : Option File) : CrashDurableReferenceJournalStore × Result Unit :=
  if self.poisoned then (self, .error .poisoned)
  else
    match self.commitStamp with
    | none => (self, .error .protocol)
    | some stamp =>
      if stamp.sequence ≠ self.sequence then (self, .error .protocol)
      else
        match currentSnapshot φ final self.maxBytes with
        | .error _ => ({ self with poisoned := true }, .error .poisoned)
        | .ok current =>
          if final = none ∨ stamp.snapshot ≠ current then
            ({ self with poisoned := true }, .error .poisoned)
          else ({ self with sequence := self.sequence + 1, commitStamp := none }, .ok ())

end CrashDurableReferenceJournalStore

end TrueFamily.JournalFile
