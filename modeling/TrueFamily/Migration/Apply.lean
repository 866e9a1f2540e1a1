import TrueFamily.Lib.Handler
import TrueFamily.Migration.Completion

/-!
# Applying a plan

`ReferenceMigrationCoordinator.apply` and `recover_incomplete` over the in-memory providers, journal
and authority. Every call of one of these may raise, before or after its effect, and the process may
die at it; `faults` says what the calls to come do. The texts of errors and of the reasons in the
journal are left out.
-/

namespace TrueFamily.Migration

open Checked Sorting
open JsonValue (Text intText)
open Projection hiding collect

/-! ## Keys after a change of the strings -/

/-- A change of the strings leaves the keys as they are. -/
theorem map_fst_mapEntries (f : ReferencePath → Text → Text) (entries : List (Text × Payload))
    (path : ReferencePath) : (mapEntries f entries path).map Prod.fst = entries.map Prod.fst := by
  induction entries with
  | nil => rfl
  | cons entry entries ih => exact congrArg (entry.1 :: ·) ih

mutual

theorem keysDistinct_mapStrings (f : ReferencePath → Text → Text) : ∀ (payload : Payload)
    (path : ReferencePath), KeysDistinct payload → KeysDistinct (mapStrings f payload path)
  | .dict entries, path, h => by
    refine ⟨?_, entriesDistinct_mapEntries f entries path h.2⟩
    rw [map_fst_mapEntries]
    exact h.1
  | .list items, path, h => itemsDistinct_mapItems f items path 0 h
  | .str _, _, _ => trivial
  | .scalar _, _, _ => trivial

theorem entriesDistinct_mapEntries (f : ReferencePath → Text → Text) :
    ∀ (entries : List (Text × Payload)) (path : ReferencePath),
      EntriesDistinct entries → EntriesDistinct (mapEntries f entries path)
  | [], _, _ => trivial
  | (_, value) :: entries, path, h =>
    ⟨keysDistinct_mapStrings f value _ h.1, entriesDistinct_mapEntries f entries path h.2⟩

theorem itemsDistinct_mapItems (f : ReferencePath → Text → Text) : ∀ (items : List Payload)
    (path : ReferencePath) (start : ℕ),
      ItemsDistinct items → ItemsDistinct (mapItems f items path start)
  | [], _, _, _ => trivial
  | item :: items, path, start, h =>
    ⟨keysDistinct_mapStrings f item _ h.1, itemsDistinct_mapItems f items path (start + 1) h.2⟩

end

/-! ## State -/

/-- A document's place: its provider and its object ID. -/
abbrev DocumentKey : Type := Text × Text

def ReferenceDocument.key (document : ReferenceDocument) : DocumentKey :=
  (document.provider, document.objectId)

/-- `JournaledOriginal`. -/
structure JournaledOriginal where
  document : ReferenceDocument
  postFingerprint : Text

/-- `_CompletionRecord`. -/
structure CompletionRecord where
  result : MigrationResult
  documents : List DocumentSnapshot

deriving instance DecidableEq for JournaledCompletion

/-- The providers of the manifest, each an `InMemoryReferenceProvider`. -/
structure InMemoryReferenceProviders where
  documents : Dict DocumentKey ReferenceDocument
  writeCounts : Dict DocumentKey ℕ
  keyed : ∀ key document, documents.get? key = some document → document.key = key
  known : ∀ key document, documents.get? key = some document → key.1 ∈ providerManifest

/-- `InMemoryReferenceJournal`. -/
structure InMemoryReferenceJournal where
  states : Dict Text MigrationState
  originals : Dict Text (List JournaledOriginal)
  completions : Dict Text JournaledCompletion

/-- The fields of a `ReferenceMigrationCoordinator`; `blocked` says that there is a reason. -/
structure Memory where
  plans : Dict Text MigrationPlan
  states : Dict Text MigrationState
  completed : Dict Text CompletionRecord
  blocked : Bool

/-- Everything that the coordinator works on. -/
structure Service where
  memory : Memory
  providers : InMemoryReferenceProviders
  journal : InMemoryReferenceJournal
  /-- `_subjects` of the `InMemoryMigrationAuthority`. -/
  subjects : Dict Text MigrationSubject

/-- What happens at a call of a provider, the journal or the authority. -/
inductive Fault
  | none
  | raisesBefore
  | raisesAfter
  | dies
  deriving DecidableEq, Repr

structure World where
  service : Service
  /-- What happens at the next calls; later calls have no fault. -/
  faults : List Fault

/-- What is raised. -/
inductive ApplyError
  /-- `UnknownMigrationPlan`. -/
  | unknownPlan
  /-- `StaleMigrationPlan`. -/
  | stale
  /-- `MigrationApplyFailed`. -/
  | applyFailed (rolledBack : Bool)
  /-- `MigrationRestoreFailed`, with what was not restored. -/
  | restoreFailed (failed : List (Option DocumentKey))
  /-- What fingerprints, scans and replacements raise. -/
  | plan (error : PlanError)
  /-- Any other exception. -/
  | failed
  deriving DecidableEq, Repr

/-- Why a method does not return. -/
inductive Stop
  | died
  | raised (error : ApplyError)
  deriving DecidableEq, Repr

abbrev Run (α : Type) : Type := Method World Stop α

namespace Run

variable {α : Type}

def raise (error : ApplyError) : Run α := Method.raise (.raised error)

def require (condition : Prop) [Decidable condition] (error : ApplyError) : Run Unit :=
  Method.require condition (.raised error)

def checked (x : Except ApplyError α) : Run α := Method.lift (x.mapError .raised)

def service : Run Service := fun w => (.ok w.service, w)

def modify (f : Service → Service) : Run Unit :=
  Method.modify fun w => { w with service := f w.service }

/-- `try: ... except Exception`: the exception as a value. -/
def attempt (x : Run α) : Run (Except ApplyError α) := fun w =>
  match x.run w with
  | (.ok a, w') => (.ok (.ok a), w')
  | (.error (.raised error), w') => (.ok (.error error), w')
  | (.error .died, w') => (.error .died, w')

/-- `except Exception as err: handler(err)`. -/
def catching (x : Run α) (handler : ApplyError → Run α) : Run α := do
  match ← attempt x with
  | .ok a => pure a
  | .error error => handler error

/-- A call of a provider, the journal or the authority. -/
def call (body : Run α) : Run α := fun w =>
  match w.faults with
  | [] => body.run w
  | .none :: faults => body.run { w with faults := faults }
  | .raisesBefore :: faults => (.error (.raised .failed), { w with faults := faults })
  | .raisesAfter :: faults =>
    match body.run { w with faults := faults } with
    | (.ok _, w') => (.error (.raised .failed), w')
    | (.error stop, w') => (.error stop, w')
  | .dies :: faults => (.error .died, { w with faults := faults })

end Run

open Run (raise require checked attempt catching call)

/-! ## Providers -/

/-- The documents of a provider, in the order of their object IDs. -/
def InMemoryReferenceProviders.listed (self : InMemoryReferenceProviders) (name : Text) :
    List ReferenceDocument :=
  sortedBy ReferenceDocument.objectId
    ((self.documents.entries.filter fun entry => decide (entry.1.1 = name)).map Prod.snd)

/-- `list_documents`. -/
def listDocuments (name : Text) : Run (List ReferenceDocument) :=
  call do return (← Run.service).providers.listed name

/-- `get_document`. -/
def getDocument (key : DocumentKey) : Run ReferenceDocument :=
  call do
    match (← Run.service).providers.documents.get? key with
    | some document => return document
    | none => raise .failed

/-- The revision after a write. -/
def Revision.next : Revision → ℕ → Revision
  | .integer value, _ => .integer (value + 1)
  | .string value, count => .string (value ++ '@' :: intText count)

theorem Revision.next_ne {revision : Revision} (count : ℕ) :
    revision.next count ≠ .string [] := by
  cases revision with
  | integer value => exact Revision.noConfusion
  | string value => simp [Revision.next]

/-- A document with another payload and revision. -/
def ReferenceDocument.updated (document : ReferenceDocument) (payload : Payload)
    (keysDistinct : KeysDistinct payload) (count : ℕ) : ReferenceDocument where
  provider := document.provider
  objectId := document.objectId
  revision := document.revision.next count
  payload := payload
  writable := document.writable
  provider_ne := document.provider_ne
  objectId_ne := document.objectId_ne
  revision_ne := Revision.next_ne count
  keysDistinct := keysDistinct

/-- The providers with a document in the place of another one. -/
def InMemoryReferenceProviders.stored (self : InMemoryReferenceProviders) (key : DocumentKey)
    (count : ℕ) (document : ReferenceDocument) (hkey : document.key = key)
    (hknown : key.1 ∈ providerManifest) : InMemoryReferenceProviders where
  documents := self.documents.set key document
  writeCounts := self.writeCounts.set key count
  keyed other found h := by
    rw [Dict.get?_set] at h
    split at h
    · rename_i heq
      exact heq ▸ Option.some.inj h ▸ hkey
    · exact self.keyed other found h
  known other found h := by
    rw [Dict.get?_set] at h
    split at h
    · rename_i heq
      exact heq ▸ hknown
    · exact self.known other found h

/-- The providers after a write of one of them. -/
def InMemoryReferenceProviders.write (self : InMemoryReferenceProviders) (key : DocumentKey)
    (expectedRevision : Revision) (payload : Payload) (keysDistinct : KeysDistinct payload) :
    Except ApplyError InMemoryReferenceProviders :=
  match h : self.documents.get? key with
  | none => .error .failed
  | some current => do
    check (current.revision = expectedRevision) .stale
    check (current.writable = true) .failed
    check (validatePayload payload = true) (.plan .malformed)
    let count := (self.writeCounts.get? key).getD 0 + 1
    return self.stored key count (current.updated payload keysDistinct count)
      (self.keyed key current h) (self.known key current h)

/-- `write_document`. The copy of the document that it returns is left out. -/
def writeDocument (key : DocumentKey) (expectedRevision : Revision) (payload : Payload)
    (keysDistinct : KeysDistinct payload) : Run Unit :=
  call do
    let service ← Run.service
    let providers ← checked (service.providers.write key expectedRevision payload keysDistinct)
    Run.modify fun service => { service with providers := providers }

/-! ## The journal -/

section

variable [Sha256]

/-- `_originals.get(plan_id, ())`. -/
def InMemoryReferenceJournal.originalsFor (self : InMemoryReferenceJournal) (planId : Text) :
    List JournaledOriginal :=
  (self.originals.get? planId).getD []

/-- `incomplete_plan_ids`. -/
def InMemoryReferenceJournal.incompletePlanIds (self : InMemoryReferenceJournal) : List Text :=
  sortedBy id ((self.states.entries.filter fun entry =>
    decide (entry.2 = .applying ∨ entry.2 = .blocked)).map Prod.fst)

/-- `completed_plan_ids`. -/
def InMemoryReferenceJournal.completedPlanIds (self : InMemoryReferenceJournal) : List Text :=
  sortedBy id ((self.states.entries.filter fun entry =>
    decide (entry.2 = .complete ∧ self.completions.get? entry.1 ≠ none)).map Prod.fst)

/-- `==` of two originals, where numbers in payloads are compared as they are written. -/
def JournaledOriginal.Same (first second : JournaledOriginal) : Prop :=
  first.document.key = second.document.key ∧ first.document.revision = second.document.revision
    ∧ canonicalJson first.document.payload = canonicalJson second.document.payload
    ∧ first.document.writable = second.document.writable
    ∧ first.postFingerprint = second.postFingerprint

instance (first second : JournaledOriginal) : Decidable (first.Same second) :=
  inferInstanceAs (Decidable (_ ∧ _))

/-- `record_original`. -/
def recordOriginal (planId : Text) (document : ReferenceDocument) (postFingerprint : Text) :
    Run Unit :=
  call do
    require (planId ≠ []) .failed
    require (postFingerprint ≠ []) .failed
    let entry : JournaledOriginal := ⟨document, postFingerprint⟩
    let journal := (← Run.service).journal
    let originals := journal.originalsFor planId
    match originals.find? fun existing => decide (existing.document.key = document.key) with
    | some existing => require (existing.Same entry) .failed
    | none => Run.modify fun service => { service with
        journal :=
          { journal with originals := journal.originals.set planId (originals ++ [entry]) } }

/-- The service after `set_state`. -/
def Service.withState (service : Service) (planId : Text) (state : MigrationState) : Service :=
  { service with
    journal := { service.journal with states := service.journal.states.set planId state } }

/-- `set_state`. -/
def setState (planId : Text) (state : MigrationState) : Run Unit :=
  call do
    require (planId ≠ []) .failed
    Run.modify fun service => service.withState planId state

/-- `record_completion`. -/
def recordCompletion (completion : JournaledCompletion) : Run Unit :=
  call do
    let planId := completion.plan.planId
    checked ((validateJournaledCompletion completion planId).mapError fun _ => .failed)
    let journal := (← Run.service).journal
    require (∀ existing, journal.completions.get? planId = some existing → existing = completion)
      .failed
    Run.modify fun service => { service with
      journal := { journal with completions := journal.completions.set planId completion } }

/-! ## The coordinator's fields -/

/-- The service after `self._states[plan_id] = state`. -/
def Service.remembering (service : Service) (planId : Text) (state : MigrationState) : Service :=
  { service with
    memory := { service.memory with states := service.memory.states.set planId state } }

/-- `self._states[plan_id] = state`. -/
def remember (planId : Text) (state : MigrationState) : Run Unit :=
  Run.modify fun service => service.remembering planId state

/-- The service with a reason to block migrations, or without one. -/
def Service.withBlocked (service : Service) (blocked : Bool) : Service :=
  { service with memory := { service.memory with blocked := blocked } }

/-- `self._blocked_reason = ...`. -/
def setBlocked (blocked : Bool) : Run Unit :=
  Run.modify fun service => service.withBlocked blocked

/-- The service after `self._completed[plan_id] = completion`. -/
def Service.withCompleted (service : Service) (planId : Text) (completion : CompletionRecord) :
    Service :=
  { service with
    memory := { service.memory with
      completed := service.memory.completed.set planId completion } }

/-! ## Inventories -/

abbrev Inventory : Type := Dict DocumentKey ReferenceDocument

/-- `canonical_document_fingerprint`. -/
def fingerprintOf (document : ReferenceDocument) : Except ApplyError Text :=
  (canonicalDocumentFingerprint document).mapError .plan

/-- The loop over the documents of a provider. -/
def fetchDocuments (name : Text) : List ReferenceDocument → Inventory → Run Inventory
  | [], inventory => pure inventory
  | listed :: documents, inventory => do
    let document ← getDocument (name, listed.objectId)
    require (document.provider = name) .stale
    require (inventory.get? (name, document.objectId) = none) .stale
    let _ ← checked (fingerprintOf document)
    fetchDocuments name documents (inventory.set (name, document.objectId) document)

/-- `_fetch_inventory`, from what is fetched already. -/
def fetchInventory : List Text → Inventory → Run Inventory
  | [], inventory => pure inventory
  | name :: names, inventory => do
    require (name ∈ providerManifest) .stale
    let documents ← listDocuments name
    let inventory ← fetchDocuments name documents inventory
    fetchInventory names inventory

/-- `_snapshots`. -/
def snapshots (inventory : Inventory) : Except ApplyError (List DocumentSnapshot) :=
  collect (fun entry => do
    let fingerprint ← fingerprintOf entry.2
    return { provider := entry.2.provider, objectId := entry.2.objectId
             revision := entry.2.revision, writable := entry.2.writable
             fingerprint := fingerprint })
    (sortedBy (fun entry => toLex entry.1) inventory.entries)

/-- `planned`, the documents of a plan by their keys. -/
def plannedDict (plan : MigrationPlan) : Dict DocumentKey PlannedDocument :=
  Dict.comprehension PlannedDocument.key id plan.documents

/-- `inventory[key]`. -/
def Inventory.item (inventory : Inventory) (key : DocumentKey) :
    Except ApplyError ReferenceDocument :=
  match inventory.get? key with
  | some document => .ok document
  | none => .error .failed

/-! ## Checks -/

/-- `_assert_authority`. -/
def assertAuthority (plan : MigrationPlan) : Run Unit := do
  let current ← catching (call do
    match (← Run.service).subjects.get? plan.roomId with
    | some subject => return subject
    | none => raise .failed) fun _ => raise .stale
  require (current = {
    roomId := plan.roomId, roomRevision := plan.roomRevision, oldEntityId := plan.oldEntityId
    logicalUniqueId := plan.logicalUniqueId, providerTargets := plan.providerTargets }) .stale

variable [JinjaParser]

/-- The scan of a document for the old entity of a plan. -/
def scanFor (plan : MigrationPlan) (document : ReferenceDocument) :
    Except ApplyError SemanticReferenceScan :=
  (scanReferences document.payload plan.oldEntityId (some document.provider)).mapError .plan

/-- The body of the loop of `_assert_preflight`: the number of exact paths. -/
def preflightDocument (plan : MigrationPlan) (inventory : Inventory) (planned : PlannedDocument) :
    Except ApplyError ℕ := do
  let current ← inventory.item planned.key
  let fingerprint ← fingerprintOf current
  check (current.revision = planned.revision) .stale
  check (fingerprint = planned.fingerprint) .stale
  check (current.writable = true ∧ current.writable = planned.writable) .stale
  let scan ← scanFor plan current
  check (scan.blocked = []) .stale
  check (scan.replaceablePaths = planned.exactPaths) .stale
  return scan.replaceablePaths.length

/-- `_assert_preflight`. -/
def assertPreflight (plan : MigrationPlan) (inventory : Inventory) : Except ApplyError Unit := do
  check (SameSet inventory.keys (plannedDict plan).keys) .stale
  let counts ← collect (preflightDocument plan inventory) (plannedDict plan).values
  check ((counts.sum : ℤ) = plan.exactReplacements) .stale
  check (¬ (plan.referencesExpected = true ∧ counts.sum = 0)) .stale

/-- The body of the loop of `_assert_post_apply`. -/
def verifyDocument (plan : MigrationPlan) (inventory : Inventory) (planned : PlannedDocument) :
    Except ApplyError Unit := do
  let current ← inventory.item planned.key
  check (current.writable = true) .failed
  let fingerprint ← fingerprintOf current
  check (fingerprint = planned.postFingerprint) .failed
  let scan ← scanFor plan current
  check (scan.replaceablePaths = [] ∧ scan.blocked = []) .failed

/-- `_assert_post_apply`. -/
def assertPostApply (plan : MigrationPlan) (inventory : Inventory) : Except ApplyError Unit := do
  check (SameSet inventory.keys (plannedDict plan).keys) .failed
  forAll (verifyDocument plan inventory) (plannedDict plan).values

/-! ## Changes -/

omit [Sha256] in
/-- What `_replace_exact_scalars` returns. -/
theorem replaceExactScalars_eq_ok {payload : Payload} (hkeys : KeysDistinct payload)
    {old target : Text} {provider : Option Text} {result : Payload × ℕ} :
    replaceExactScalars payload old target provider = .ok result →
      result = (mapStrings (replacement (walk old provider payload []).replaceablePaths old target)
        payload [], (walk old provider payload []).replaceablePaths.length) := by
  intro h
  rw [replaceExactScalars, bind_unit_eq_ok] at h
  obtain ⟨-, h⟩ := h
  cases hscan : scanSemanticReferences payload old provider with
  | none =>
    have hnone : replaceSemanticReferences payload old target provider = none := by
      rw [replaceSemanticReferences, hscan]
      rfl
    rw [hnone] at h
    cases h
  | some scan =>
    obtain ⟨rfl, -, hreplaced⟩ := @replaceSemanticReferences_eq _ old target provider _ hkeys _
      hscan
    rw [hreplaced] at h
    exact (Except.ok.inj h).symm

omit [Sha256] in
/-- The replacement keeps the keys. -/
theorem keysDistinct_replaced {payload replaced : Payload} (hkeys : KeysDistinct payload)
    {old target : Text} {provider : Option Text} {count : ℕ}
    (h : replaceExactScalars payload old target provider = .ok (replaced, count)) :
    KeysDistinct replaced := by
  rw [(Prod.mk.inj (replaceExactScalars_eq_ok hkeys h)).1]
  exact keysDistinct_mapStrings _ payload [] hkeys

/-- An original and the payload that takes its place. -/
structure Change where
  original : ReferenceDocument
  payload : Payload
  keysDistinct : KeysDistinct payload

/-- The body of the loop that makes up the changes. -/
def changeOf (plan : MigrationPlan) (originals : Inventory) (planned : PlannedDocument) :
    Except ApplyError Change := do
  let original ← originals.item planned.key
  match (targetDict plan.providerTargets).get? planned.provider with
  | none => .error .failed
  | some target =>
    match h : replaceExactScalars original.payload plan.oldEntityId target
        (some planned.provider) with
    | .error error => .error (.plan error)
    | .ok (payload, count) => do
      check (count = planned.exactPaths.length) .stale
      return ⟨original, payload, keysDistinct_replaced original.keysDistinct h⟩

/-- The changes of a plan. -/
def changesOf (plan : MigrationPlan) (originals : Inventory) : Except ApplyError (List Change) :=
  collect (changeOf plan originals) (plan.documents.filter fun planned => planned.exactPaths ≠ [])

omit [Sha256] [JinjaParser] in
/-- The planned document of an original. -/
def plannedFor (plan : MigrationPlan) (original : ReferenceDocument) : Option PlannedDocument :=
  plan.documents.find? fun planned => decide (planned.key = original.key)

/-- An original that was overwritten, with its planned fingerprint. -/
abbrev Attempted : Type := ReferenceDocument × Text

/-- The loop that journals the originals. -/
def recordOriginals (plan : MigrationPlan) : List Change → Run Unit :=
  Method.forEach fun change =>
    match plannedFor plan change.original with
    | none => raise .failed
    | some planned => recordOriginal plan.planId change.original planned.postFingerprint

/-- The fingerprint of a document that is fetched again. -/
def currentFingerprint (key : DocumentKey) : Run Text := do
  let current ← getDocument key
  checked (fingerprintOf current)

/-- The body of the write loop: its outcome, and what it appends to `attempted`. -/
def writeChange (plan : MigrationPlan) (change : Change) :
    Run (Except ApplyError Unit × List Attempted) :=
  match plannedFor plan change.original with
  | none => return (.error .failed, [])
  | some planned => do
    let key := change.original.key
    let attempted := [(change.original, planned.postFingerprint)]
    let written ← attempt
      (writeDocument key change.original.revision change.payload change.keysDistinct)
    let fingerprint ← attempt (currentFingerprint key)
    match written, fingerprint with
    | .error error, .ok fingerprint =>
      return (.error error, if fingerprint = planned.postFingerprint then attempted else [])
    | .ok (), .ok fingerprint =>
      if fingerprint = planned.postFingerprint then return (.ok (), attempted)
      else return (.error .failed, [])
    | _, .error error => return (.error error, [])

/-- The write loop. -/
def writeChanges (plan : MigrationPlan) :
    List Change → Run (Except ApplyError Unit × List Attempted)
  | [] => return (.ok (), [])
  | change :: changes => do
    let (outcome, attempted) ← writeChange plan change
    match outcome with
    | .error error => return (.error error, attempted)
    | .ok () => do
      let (outcome, others) ← writeChanges plan changes
      return (outcome, attempted ++ others)

/-! ## Restoring -/

/-- What was not restored: a document, or the inventory of the providers. -/
abbrev Failure : Type := Option DocumentKey

/-- The `try` of the loop of `_restore_originals`. -/
def restoreOriginal (attempted : Attempted) : Run Unit := do
  let original := attempted.1
  let current ← getDocument original.key
  let fingerprint ← checked (fingerprintOf current)
  let originalFingerprint ← checked (fingerprintOf original)
  if fingerprint = attempted.2 then
    writeDocument original.key current.revision original.payload original.keysDistinct
  else require (fingerprint = originalFingerprint) .failed
  let restored ← currentFingerprint original.key
  require (restored = originalFingerprint) .failed

/-- The loop of `_restore_originals`. -/
def restoreAll : List Attempted → Run (List Failure)
  | [] => return []
  | attempted :: others => do
    let outcome ← attempt (restoreOriginal attempted)
    let failures ← restoreAll others
    match outcome with
    | .ok () => return failures
    | .error _ => return some attempted.1.key :: failures

/-- A document has the fingerprint of its original and may be written as before. -/
def agrees (current original : ReferenceDocument) : Except ApplyError Bool := do
  let fingerprint ← fingerprintOf current
  let originalFingerprint ← fingerprintOf original
  return decide (fingerprint = originalFingerprint ∧ current.writable = original.writable)

/-- The loop over the originals of a full inventory. -/
def compareOriginals (current : Inventory) : List (DocumentKey × ReferenceDocument) → List Failure
  | [] => []
  | (key, original) :: originals =>
    match current.item key >>= fun document => agrees document original with
    | .ok same => (if same then [] else [some key]) ++ compareOriginals current originals
    | .error _ => [none]

/-- `verify_full_inventory`. -/
def verifyInventory (originals : Inventory) : Run (List Failure) := do
  let providers := sortedBy id (originals.keys.map Prod.fst).dedup
  match ← attempt (fetchInventory providers Dict.empty) with
  | .error _ => return [none]
  | .ok current =>
    if SameSet current.keys originals.keys then return compareOriginals current originals.entries
    else return [none]

/-- Without `verify_full_inventory`. -/
def verifyOriginals : List (DocumentKey × ReferenceDocument) → Run (List Failure)
  | [] => return []
  | (key, original) :: originals => do
    let outcome ← attempt do
      let current ← getDocument key
      checked (agrees current original)
    let failures ← verifyOriginals originals
    match outcome with
    | .ok true => return failures
    | _ => return some key :: failures

/-- `_restore_originals`. -/
def restoreOriginals (attempted : List Attempted) (originals : Inventory)
    (verifyFullInventory : Bool) : Run (List Failure) := do
  let failures ← restoreAll attempted.reverse
  let others ← if verifyFullInventory then verifyInventory originals
    else verifyOriginals originals.entries
  return (failures ++ others).eraseDups

/-! ## Applying -/

/-- The first `try` of `apply`. -/
def preflight (plan : MigrationPlan) : Run Inventory := do
  assertAuthority plan
  let originals ← fetchInventory plan.providers Dict.empty
  checked (assertPreflight plan originals)
  return originals

/-- The end of the second `try` of `apply`. -/
def finalInventory (plan : MigrationPlan) : Run Inventory := do
  let documents ← fetchInventory plan.providers Dict.empty
  checked (assertPostApply plan documents)
  assertAuthority plan
  return documents

/-- The `except` clause after the writes. -/
def rollBack (plan : MigrationPlan) (attempted : List Attempted) (originals : Inventory) :
    Run MigrationResult := do
  let failed ← restoreOriginals attempted originals true
  if failed = [] then do
    remember plan.planId .failed
    setState plan.planId .failed
    raise (.applyFailed (decide (attempted ≠ [])))
  else do
    remember plan.planId .blocked
    setBlocked true
    setState plan.planId .blocked
    raise (.restoreFailed failed)

/-- The end of `apply`. -/
def complete (plan : MigrationPlan) (changes : List Change) (documents : Inventory) :
    Run MigrationResult := do
  let result : MigrationResult := {
    planId := plan.planId, digest := plan.digest, state := .complete
    changedDocuments := changes.length, exactReplacements := plan.exactReplacements
    idempotent := false }
  let found ← checked (snapshots documents)
  catching
    (do
      recordCompletion ⟨plan, result, found⟩
      setState plan.planId .complete)
    (fun _ => do
      remember plan.planId .blocked
      setBlocked true
      let _ ← attempt (setState plan.planId .blocked)
      raise (.restoreFailed []))
  Run.modify fun service => service.withCompleted plan.planId ⟨result, found⟩
  remember plan.planId .complete
  return result

/-- What follows the write loop, if that has succeeded. -/
def verifyWritten (plan : MigrationPlan) : Except ApplyError Unit →
    Run (Except ApplyError Inventory)
  | .ok () => attempt (finalInventory plan)
  | .error error => return .error error

/-- `apply`, from the journaling of the originals on. -/
def applyChanges (plan : MigrationPlan) (originals : Inventory) (changes : List Change) :
    Run MigrationResult := do
  remember plan.planId .applying
  setState plan.planId .applying
  catching (recordOriginals plan changes) fun _ => do
    remember plan.planId .failed
    setState plan.planId .failed
    raise (.applyFailed false)
  let (outcome, attempted) ← writeChanges plan changes
  match ← verifyWritten plan outcome with
  | .ok documents => complete plan changes documents
  | .error _ => rollBack plan attempted originals

/-- `apply` of a plan that is planned, or that failed before. -/
def applyPlanned (plan : MigrationPlan) : Run MigrationResult := do
  let originals ← catching (preflight plan) fun _ => do
    remember plan.planId .blocked
    setState plan.planId .failed
    raise .stale
  match changesOf plan originals with
  | .ok changes => applyChanges plan originals changes
  | .error .stale => do
    remember plan.planId .blocked
    raise .stale
  | .error error => raise error

/-- `_replay_completed`. -/
def replayCompleted (plan : MigrationPlan) : Run MigrationResult := do
  match (← Run.service).memory.completed.get? plan.planId with
  | none => raise .failed
  | some completion => do
    catching
      (do
        assertAuthority plan
        let inventory ← fetchInventory plan.providers Dict.empty
        let found ← checked (snapshots inventory)
        require (found = completion.documents) .stale
        checked (assertPostApply plan inventory))
      (fun _ => do
        remember plan.planId .blocked
        raise .stale)
    return { completion.result with idempotent := true }

/-- `apply`. -/
def apply (planId digest : Text) : Run MigrationResult := do
  let memory := (← Run.service).memory
  match memory.plans.get? planId with
  | none => raise .unknownPlan
  | some plan => do
    require (plan.digest = digest) .unknownPlan
    require (memory.blocked = false) (.restoreFailed [])
    match memory.states.get? planId with
    | none => raise .failed
    | some .applying => raise .failed
    | some .blocked => raise .stale
    | some .complete => replayCompleted plan
    | some .planned | some .failed => applyPlanned plan

/-! ## Recovery -/

/-- The loop of `recover_incomplete` over the originals, from what was collected before. -/
def collectOriginals : List JournaledOriginal → Inventory → Except ApplyError Inventory
  | [], originals => .ok originals
  | entry :: entries, originals => do
    check (originals.get? entry.document.key = none ∧ entry.document.provider ∈ providerManifest)
      (.restoreFailed [])
    let _ ← fingerprintOf entry.document
    check (entry.postFingerprint ≠ []) (.restoreFailed [])
    collectOriginals entries (originals.set entry.document.key entry.document)

/-- `incomplete_plan_ids`, as it is called. -/
def incompletePlanIds : Run (List Text) :=
  call do return (← Run.service).journal.incompletePlanIds

/-- `originals_for`, as it is called. -/
def originalsFor (planId : Text) : Run (List JournaledOriginal) :=
  call do return (← Run.service).journal.originalsFor planId

/-- The service after a recovery: an issued plan has failed, and no plan is completed. -/
def Service.forgetting (service : Service) (planId : Text) : Service :=
  { service with
    memory := { service.memory with
      states := if service.memory.states.get? planId = none then service.memory.states
        else service.memory.states.set planId .failed
      completed := service.memory.completed.erase planId } }

/-- `recover_incomplete`. -/
def recoverIncomplete (planId : Text) : Run Unit := do
  let incomplete ← incompletePlanIds
  require (planId ∈ incomplete) .unknownPlan
  let entries ← originalsFor planId
  let originals ← checked (collectOriginals entries Dict.empty)
  let failures ← restoreOriginals (entries.map fun entry => (entry.document, entry.postFingerprint))
    originals false
  if failures = [] then do
    setState planId .failed
    Run.modify fun service => service.forgetting planId
    let incomplete ← incompletePlanIds
    setBlocked (decide (incomplete ≠ []))
  else do
    setState planId .blocked
    setBlocked true
    raise (.restoreFailed failures)

/-! ## A new process -/

/-- The completions that the constructor reads. -/
def completions (journal : InMemoryReferenceJournal) :
    Except ApplyError (List (Text × JournaledCompletion)) :=
  collect (fun planId =>
    match journal.completions.get? planId with
    | none => .error .failed
    | some completion => do
      (validateJournaledCompletion completion planId).mapError fun _ => .failed
      return (planId, completion)) journal.completedPlanIds

/-- The constructor, over a journal that can be read. -/
def Memory.init (journal : InMemoryReferenceJournal) : Except ApplyError Memory := do
  let found ← completions journal
  return {
    plans := Dict.comprehension Prod.fst (fun entry => entry.2.plan) found
    states := Dict.comprehension Prod.fst (fun _ => .complete) found
    completed :=
      Dict.comprehension Prod.fst (fun entry => ⟨entry.2.result, entry.2.documents⟩) found
    blocked := decide (journal.incompletePlanIds ≠ []) }

/-- A new coordinator over the same providers and the same journal. -/
def restart : Run Unit := do
  let memory ← checked (Memory.init (← Run.service).journal)
  Run.modify fun service => { service with memory := memory }

/-! ## Issuing a plan -/

/-- The coordinator as the planner sees it. -/
def Service.planner (service : Service) : ReferenceMigrationCoordinator where
  blocked := service.memory.blocked
  listDocuments name := some (service.providers.listed name)
  resolveSubject := service.subjects.get?
  plans := service.memory.plans.values

/-- The service with one plan more in the coordinator. -/
def Service.issuing (service : Service) (plan : MigrationPlan) : Service :=
  { service with
    memory := { service.memory with
      plans := service.memory.plans.set plan.planId plan
      states := if service.memory.states.get? plan.planId = none
        then service.memory.states.set plan.planId .planned else service.memory.states } }

/-- `create_plan`, with its changes of the coordinator and of the journal, where the providers and
the authority answer. -/
def createPlan (request : PlanRequest) : Run MigrationPlan := do
  let service ← Run.service
  let (plan, _) ← checked ((service.planner.createPlan request).mapError .plan)
  if service.memory.plans.get? plan.planId ≠ none then return plan
  else do
    Run.modify fun service => service.issuing plan
    setState plan.planId .planned
    return plan

end

end TrueFamily.Migration
