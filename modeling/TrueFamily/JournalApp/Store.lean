import TrueFamily.JournalApp.Protocol
import TrueFamily.Lib.Sorting

/-!
# The journal database

`SQLiteJournalStore`: the current root of every journal, and the receipts of its last saves. A
row holds values whose columns are already validated; the constraints that the schema declares
are checked by the inserts and the update, and a violated one is an integrity error. A
transaction that raises is rolled back, so a save either commits everything or nothing.
-/

namespace TrueFamily.JournalApp

open Checked JsonValue Sorting

/-- `hashlib.sha256(...).hexdigest()`. -/
class Sha256 where
  hexdigest : Text → Digest

export Sha256 (hexdigest)

/-- `JournalStoreError`, and what else a save can raise. -/
inductive JournalStoreError
  | conflict (code : String)
  | corruption (message : String)
  | valueError (message : String)
  deriving DecidableEq, Repr

/-! ## Tables -/

/-- A row of `journals`. -/
structure JournalRow where
  journalId : JournalId
  canonicalRoot : Text
  generation : ℕ
  revision : Digest
  commitToken : Digest
  deriving DecidableEq

/-- A row of `operation_receipts`. -/
structure ReceiptRow where
  requestId : RequestId
  requestDigest : Digest
  journalId : JournalId
  generation : ℕ
  revision : Digest
  commitToken : Digest
  canonicalResponse : Text
  deriving DecidableEq

/-- The two tables. -/
structure Database where
  journals : List JournalRow := []
  receipts : List ReceiptRow := []
  deriving DecidableEq

namespace Database

/-- The current row of a journal. -/
def journal? (db : Database) (journalId : JournalId) : Option JournalRow :=
  db.journals.find? fun row => decide (row.journalId = journalId)

/-- The receipt of a request. -/
def receipt? (db : Database) (requestId : RequestId) : Option ReceiptRow :=
  db.receipts.find? fun row => decide (row.requestId = requestId)

/-- `sqlite3.IntegrityError`, as a save reports it. -/
def integrityError : JournalStoreError := .conflict "cas_conflict"

/-- `INSERT INTO journals`. -/
def insertJournal (db : Database) (row : JournalRow) : Except JournalStoreError Database := do
  check (utf8Length row.canonicalRoot ≤ 3145728 ∧ row.generation ≤ 9223372036854775807)
    integrityError
  check (∀ other ∈ db.journals, other.journalId ≠ row.journalId) integrityError
  check (∀ other ∈ db.journals, other.commitToken ≠ row.commitToken) integrityError
  return { db with journals := db.journals ++ [row] }

/-- The row that `UPDATE journals ... WHERE journal_id = ? AND generation = ? AND revision = ?`
changes. -/
def Matches (current : JournalRow) (other : JournalRow) : Prop :=
  other.journalId = current.journalId ∧ other.generation = current.generation
    ∧ other.revision = current.revision

instance (current other : JournalRow) : Decidable (Matches current other) :=
  inferInstanceAs (Decidable (_ ∧ _ ∧ _))

/-- `UPDATE journals`, of exactly one row. -/
def updateJournal (db : Database) (current row : JournalRow) :
    Except JournalStoreError Database := do
  check (utf8Length row.canonicalRoot ≤ 3145728 ∧ row.generation ≤ 9223372036854775807)
    integrityError
  check (∀ other ∈ db.journals, ¬ Matches current other → other.commitToken ≠ row.commitToken)
    integrityError
  check ((db.journals.filter fun other => decide (Matches current other)).length = 1)
    (.conflict "cas_conflict")
  return { db with
    journals := db.journals.map fun other => if Matches current other then row else other }

/-- A save inserts the first row of a journal and updates it afterwards. -/
def writeJournal (db : Database) (row : JournalRow) :
    Option JournalRow → Except JournalStoreError Database
  | none => db.insertJournal row
  | some current => db.updateJournal current row

/-- `INSERT INTO operation_receipts`. -/
def insertReceipt (db : Database) (row : ReceiptRow) : Except JournalStoreError Database := do
  check (row.generation ≤ 9223372036854775807 ∧ utf8Length row.canonicalResponse ≤ 512)
    integrityError
  check (∃ journal ∈ db.journals, journal.journalId = row.journalId) integrityError
  check (∀ other ∈ db.receipts, other.requestId ≠ row.requestId) integrityError
  check (∀ other ∈ db.receipts, other.commitToken ≠ row.commitToken) integrityError
  check (∀ other ∈ db.receipts,
    ¬ (other.journalId = row.journalId ∧ other.generation = row.generation)) integrityError
  return { db with receipts := db.receipts ++ [row] }

/-- `DELETE FROM operation_receipts WHERE journal_id = ? AND generation < ?`. -/
def deleteReceipts (db : Database) (journalId : JournalId) (generation : ℕ) : Database :=
  { db with
    receipts := db.receipts.filter fun row =>
      decide (¬ (row.journalId = journalId ∧ row.generation < generation)) }

end Database

/-- `max(0, generation - MAX_RECEIPTS_PER_JOURNAL + 1)`. -/
def firstGeneration (generation : ℕ) : ℕ := generation + 1 - maxReceiptsPerJournal

section

variable (φ : Type) [FloatText φ] [Sha256]

/-! ## Reading rows -/

/-- `JournalRecord`. -/
structure JournalRecord where
  root : JsonValue φ
  generation : ℕ
  revision : Digest
  commitToken : Digest

/-- `_commit_token`. -/
def commitToken (requestId : RequestId) (requestDigest : Digest) : Digest :=
  hexdigest
    ("true-family-journal-commit-v1\n".toList ++ requestId.text ++ '\n' :: requestDigest.text)

/-- The response of a save. -/
def saveResponse (commitToken : Digest) (generation : ℕ) (revision : Digest) :
    List (Text × JsonValue φ) :=
  [("commit_token".toList, .str commitToken.text), ("generation".toList, .int generation),
    ("revision".toList, .str revision.text)]

/-- The validators of `_decode_durable_root`: the root, its canonical bytes and its generation. -/
def readRoot (row : JournalRow) : Except ProtocolFailure (JsonValue φ × Text × ℕ) := do
  check (row.generation ≤ maxGeneration) ⟨400, "invalid_generation"⟩
  let entries ← parseCanonicalJson row.canonicalRoot
  let encoded ← validateRoot (JsonValue.obj entries : JsonValue φ) row.journalId
  return (.obj entries, encoded)

/-- `_decode_durable_root`. -/
def decodeDurableRoot (row : JournalRow) : Except JournalStoreError (JournalRecord φ) := do
  let (root, encoded, rootGeneration) ← (readRoot φ row).mapError fun _ =>
    .corruption "A durable journal row is invalid."
  check (rootGeneration = row.generation)
    (.corruption "A durable journal generation is inconsistent.")
  check (hexdigest encoded = row.revision)
    (.corruption "A durable journal revision is inconsistent.")
  return {
    root := root
    generation := row.generation
    revision := row.revision
    commitToken := row.commitToken }

/-- The validators of `_decode_durable_receipt`. -/
def readReceipt (row : ReceiptRow) : Except ProtocolFailure Unit := do
  check (row.generation ≤ maxGeneration) ⟨400, "invalid_generation"⟩
  check (utf8Length row.canonicalResponse ≤ maxReceiptResponseBytes) ⟨400, "invalid_receipt"⟩
  let response ← parseCanonicalJson (φ := φ) row.canonicalResponse
  match member response "commit_token", member response "generation",
    member response "revision" with
  | some token, some generation, some revision => do
    check (response.length = 3) ⟨400, "invalid_envelope"⟩
    check (row.commitToken = commitToken row.requestId row.requestDigest) ⟨400, "invalid_receipt"⟩
    let token ← validateDigest token
    check (token = row.commitToken) ⟨400, "invalid_receipt"⟩
    let generation ← validateGeneration generation
    check (generation = row.generation) ⟨400, "invalid_receipt"⟩
    let revision ← validateDigest revision
    check (revision = row.revision) ⟨400, "invalid_receipt"⟩
  | _, _, _ => .error ⟨400, "invalid_envelope"⟩

/-- `_decode_durable_receipt`. -/
def decodeDurableReceipt (row : ReceiptRow) : Except JournalStoreError ReceiptRow := do
  (readReceipt φ row).mapError fun _ => .corruption "A durable operation receipt is invalid."
  return row

variable {φ}

/-- `_validate_receipt_relationship`. -/
def validateReceiptRelationship (receipt : ReceiptRow) (journal : JournalRecord φ) :
    Except JournalStoreError Unit := do
  check (receipt.generation ≤ journal.generation)
    (.corruption "A durable receipt is newer than its journal.")
  check (receipt.generation = journal.generation →
      receipt.revision = journal.revision ∧ receipt.commitToken = journal.commitToken)
    (.corruption "The current journal does not match its durable receipt.")

variable (φ)

/-- `_validate_durable_rows`. A journal ID is a primary key, so a lookup finds its only row. -/
def validateDurableRows (db : Database) : Except JournalStoreError Unit := do
  let journals ← collect (fun row => do
    let record ← decodeDurableRoot φ row
    return (row.journalId, record)) db.journals
  let receipts ← collect (fun row => do
    let receipt ← decodeDurableReceipt φ row
    match journals.find? fun entry => decide (entry.1 = receipt.journalId) with
    | none => .error (.corruption "A durable receipt has no journal relationship.")
    | some (_, journal) => do
      validateReceiptRelationship receipt journal
      return receipt) db.receipts
  forAll (fun entry => do
    let suffix := sortedBy (·.generation)
      (receipts.filter fun receipt => decide (receipt.journalId = entry.1))
    let first := firstGeneration entry.2.generation
    check (suffix.length = entry.2.generation - first + 1)
      (.corruption "The durable receipt suffix has an unexpected length.")
    check (suffix.map (·.generation) = List.range' first suffix.length)
      (.corruption "The durable journal receipt suffix is not contiguous.")) journals

/-- `_load_sync`. -/
def loadSync (db : Database) (journalId : JournalId) :
    Except JournalStoreError (Option (JournalRecord φ)) :=
  match db.journal? journalId with
  | none => .ok none
  | some row => some <$> decodeDurableRoot φ row

/-! ## Saving -/

/-- The arguments of `_save_sync`, as `async_save` validates them. -/
structure SaveArguments where
  journalId : JournalId
  expectedRevision : Option Digest
  root : JsonValue φ
  rootBytes : Text
  generation : ℕ
  requestId : RequestId
  requestDigest : Digest
  ordered : Everywhere KeysOrdered root
  validated : validateRoot root journalId = .ok (rootBytes, generation)

variable {φ}

/-- `SaveOutcome`. -/
structure SaveOutcome where
  response : Text
  replayed : Bool
  deriving DecidableEq

/-- The branch of `_save_sync` for a request that has a receipt. -/
def replaySave (db : Database) (arguments : SaveArguments φ) (row : ReceiptRow) :
    Except JournalStoreError SaveOutcome := do
  let receipt ← decodeDurableReceipt φ row
  check (receipt.requestDigest = arguments.requestDigest) (.conflict "request_id_conflict")
  check (receipt.journalId = arguments.journalId)
    (.corruption "A replay receipt has the wrong journal relationship.")
  match db.journal? arguments.journalId with
  | none => .error (.corruption "A replay receipt has no durable journal.")
  | some journalRow => do
    let journal ← decodeDurableRoot φ journalRow
    validateReceiptRelationship receipt journal
    return { response := receipt.canonicalResponse, replayed := true }

/-- The compare-and-swap checks of `_save_sync` against the current row. -/
def checkCurrent (arguments : SaveArguments φ) : Option JournalRow → Except JournalStoreError Unit
  | none => do
    check (arguments.generation = 0) (.conflict "stale_generation")
    check (arguments.expectedRevision = none) (.conflict "stale_revision")
  | some current => do
    check (current.generation < maxGeneration ∧ arguments.generation = current.generation + 1)
      (.conflict "stale_generation")
    check (arguments.expectedRevision = some current.revision) (.conflict "stale_revision")

/-- The row that a save writes to `journals`. -/
def SaveArguments.journalRow (arguments : SaveArguments φ) : JournalRow where
  journalId := arguments.journalId
  canonicalRoot := arguments.rootBytes
  generation := arguments.generation
  revision := hexdigest arguments.rootBytes
  commitToken := commitToken arguments.requestId arguments.requestDigest

/-- The row that a save writes to `operation_receipts`. -/
def SaveArguments.receiptRow (arguments : SaveArguments φ) (response : Text) : ReceiptRow where
  requestId := arguments.requestId
  requestDigest := arguments.requestDigest
  journalId := arguments.journalId
  generation := arguments.generation
  revision := hexdigest arguments.rootBytes
  commitToken := commitToken arguments.requestId arguments.requestDigest
  canonicalResponse := response

/-- `_save_sync` inside its transaction. -/
def saveSync (db : Database) (arguments : SaveArguments φ) :
    Except JournalStoreError (SaveOutcome × Database) :=
  match db.receipt? arguments.requestId with
  | some row => do
    let outcome ← replaySave db arguments row
    return (outcome, db)
  | none => do
    let current := db.journal? arguments.journalId
    checkCurrent arguments current
    let row := arguments.journalRow
    let response ← (canonicalJson (JsonValue.obj (saveResponse φ row.commitToken row.generation
      row.revision))).mapError fun | .valueError message => .valueError message
    let written ← db.writeJournal row current
    let written ← written.insertReceipt (arguments.receiptRow response)
    return ({ response := response, replayed := false },
      written.deleteReceipts arguments.journalId (firstGeneration arguments.generation))

/-- `_save_sync`: an error rolls the transaction back. -/
def save (db : Database) (arguments : SaveArguments φ) :
    Except JournalStoreError SaveOutcome × Database :=
  match saveSync db arguments with
  | .ok (outcome, next) => (.ok outcome, next)
  | .error e => (.error e, db)

end

end TrueFamily.JournalApp
