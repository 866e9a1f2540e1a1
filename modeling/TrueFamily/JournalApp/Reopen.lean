import TrueFamily.JournalApp.Store

/-!
# Every written database reopens

Whatever the store commits, its own startup validation accepts, and a load returns the root that
was saved. `Durable` is the invariant: the rows decode, every receipt belongs to a journal, and
the receipts of a journal are exactly one for each of its last generations. A save adds the
receipt of the new generation and deletes the one that falls out of the suffix.

The reader of durable rows bounds the digits of an integer; `canonical_json` does not. The App
reads every root from a request with the same bound, so the runs are over roots that satisfy it.
-/

namespace TrueFamily.JournalApp

open Checked JsonValue Sorting Database

theorem mapError_eq_ok {ε ε' α : Type} {x : Except ε α} {f : ε → ε'} {a : α} :
    x.mapError f = .ok a ↔ x = .ok a := by
  cases x <;> simp [Except.mapError]

section

variable {φ : Type} [FloatText φ] [Sha256]

/-! ## Rows -/

/-- The row holds the root. -/
structure Stored (root : JsonValue φ) (row : JournalRow) : Prop where
  ordered : Everywhere KeysOrdered root
  fit : integersFit maxIntegerDigits root = true
  validated : validateRoot root row.journalId = .ok (row.canonicalRoot, row.generation)
  revision_eq : row.revision = hexdigest row.canonicalRoot

omit [Sha256] in
/-- What a valid root is. -/
theorem validateRoot_eq_ok {root : JsonValue φ} {journalId : JournalId} {rootBytes : Text}
    {generation : ℕ} (h : validateRoot root journalId = .ok (rootBytes, generation)) :
    ∃ entries, root = .obj entries ∧ canonicalJson root = .ok rootBytes
      ∧ utf8Length rootBytes ≤ maxRootBytes ∧ generation ≤ maxGeneration := by
  cases root with
  | obj entries =>
    refine ⟨entries, rfl, ?_⟩
    rw [validateRoot] at h
    split at h
    · rename_i rawId rawGeneration _ _
      simp only [bind_eq_ok, exists_unit, check_eq_ok] at h
      obtain ⟨_, _, _, parsed, hparsed, h⟩ := h
      split at h
      · cases h
      · rename_i encoded hencoded
        simp only [bind_unit_eq_ok, check_eq_ok, pure_eq_ok, Prod.mk.injEq] at h
        obtain ⟨hlength, rfl, rfl⟩ := h
        refine ⟨hencoded, hlength, ?_⟩
        cases rawGeneration with
        | int value =>
          rw [validateGeneration] at hparsed
          split_ifs at hparsed with hrange
          cases hparsed
          omega
        | null | bool | float | str | arr | obj => cases hparsed
    · cases h
  | null | bool | int | float | str | arr => cases h

/-- Startup and load read the saved root back. -/
theorem Stored.decode [LawfulFloatText φ] {root : JsonValue φ} {row : JournalRow}
    (h : Stored root row) :
    decodeDurableRoot φ row = .ok ⟨root, row.generation, row.revision, row.commitToken⟩ := by
  obtain ⟨entries, rfl, hencoded, hlength, hgeneration⟩ := validateRoot_eq_ok h.validated
  have hbody : utf8Length row.canonicalRoot ≤ maxBodyBytes := hlength.trans (by decide)
  have hparse := parseCanonicalJson_canonicalJson h.ordered h.fit hencoded hbody
  have hread : readRoot φ row = .ok (.obj entries, row.canonicalRoot, row.generation) := by
    simp only [readRoot, hparse, bind_eq_ok, exists_unit, check_eq_ok, pure_eq_ok,
      Except.ok.injEq]
    exact ⟨hgeneration, _, rfl, _, h.validated, rfl⟩
  simp only [decodeDurableRoot, hread, Except.mapError, bind_eq_ok, exists_unit, check_eq_ok,
    pure_eq_ok, Except.ok.injEq]
  exact ⟨_, rfl, rfl, h.revision_eq.symm, rfl⟩

variable (φ) in
/-- The receipt is the one that a save wrote. -/
structure Recorded (receipt : ReceiptRow) : Prop where
  token_eq : receipt.commitToken = commitToken receipt.requestId receipt.requestDigest
  generation_le : receipt.generation ≤ maxGeneration
  response_length : utf8Length receipt.canonicalResponse ≤ maxReceiptResponseBytes
  response_eq : canonicalJson (JsonValue.obj (saveResponse φ receipt.commitToken
    receipt.generation receipt.revision)) = .ok receipt.canonicalResponse

omit [FloatText φ] [Sha256] in
theorem natText_length_le {n k : ℕ} (hk : 1 ≤ k) (h : n < 10 ^ k) : (natText n).length ≤ k := by
  unfold natText
  split
  · exact hk
  · rw [List.length_map, List.length_reverse]
    exact (Nat.digits_length_le_iff (by omega) n).2 h

omit [FloatText φ] [Sha256] in
theorem saveResponse_ordered (token revision : Digest) (generation : ℕ) :
    Everywhere KeysOrdered (JsonValue.obj (saveResponse φ token generation revision)) := by
  refine .of_leaves ?_ fun child hmem => ?_
  · refine List.Pairwise.cons ?_ (List.Pairwise.cons ?_ (List.pairwise_singleton _ _))
    · intro entry hentry
      simp only [List.mem_cons, List.not_mem_nil, or_false] at hentry
      obtain rfl | rfl := hentry
      · exact show "commit_token".toList < "generation".toList by decide
      · exact show "commit_token".toList < "revision".toList by decide
    · intro entry hentry
      simp only [List.mem_cons, List.not_mem_nil, or_false] at hentry
      obtain rfl := hentry
      exact show "generation".toList < "revision".toList by decide
  · simp only [children, saveResponse, List.map_cons, List.map_nil, List.mem_cons,
      List.not_mem_nil, or_false] at hmem
    obtain rfl | rfl | rfl := hmem <;> exact ⟨rfl, trivial⟩

omit [FloatText φ] [Sha256] in
theorem validateDigest_text (digest : Digest) :
    validateDigest (φ := φ) (.str digest.text) = .ok digest := by
  rw [validateDigest, dif_pos digest.valid]

theorem Recorded.decode [LawfulFloatText φ] {receipt : ReceiptRow} (h : Recorded φ receipt) :
    decodeDurableReceipt φ receipt = .ok receipt := by
  have hfit : integersFit maxIntegerDigits (JsonValue.obj (saveResponse φ receipt.commitToken
      receipt.generation receipt.revision)) = true := by
    have hdigits : (natText (Int.natAbs receipt.generation)).length ≤ maxIntegerDigits := by
      refine natText_length_le (by decide) ?_
      rw [Int.natAbs_natCast]
      exact lt_of_le_of_lt h.generation_le (by decide)
    simp only [integersFit, saveResponse, entriesFit, hdigits, decide_true, Bool.and_self]
  have hbody : utf8Length receipt.canonicalResponse ≤ maxBodyBytes :=
    h.response_length.trans (by decide)
  have hparse := parseCanonicalJson_canonicalJson (saveResponse_ordered _ _ _) hfit h.response_eq
    hbody
  have hgeneration : validateGeneration (φ := φ) (.int receipt.generation)
      = .ok receipt.generation := by
    have hle := h.generation_le
    rw [validateGeneration, if_pos ⟨by omega, by exact_mod_cast hle⟩, Int.toNat_natCast]
  have hread : readReceipt φ receipt = .ok () := by
    have htoken : member (saveResponse φ receipt.commitToken receipt.generation receipt.revision)
        "commit_token" = some (.str receipt.commitToken.text) := rfl
    have hgen : member (saveResponse φ receipt.commitToken receipt.generation receipt.revision)
        "generation" = some (.int receipt.generation) := rfl
    have hrevision : member (saveResponse φ receipt.commitToken receipt.generation
        receipt.revision) "revision" = some (.str receipt.revision.text) := rfl
    simp only [readReceipt, hparse, bind_eq_ok, exists_unit, check_eq_ok, Except.ok.injEq]
    refine ⟨h.generation_le, h.response_length, _, rfl, ?_⟩
    simp only [htoken, hgen, hrevision, validateDigest_text, hgeneration, bind_eq_ok, exists_unit,
      check_eq_ok, Except.ok.injEq]
    exact ⟨rfl, h.token_eq, _, rfl, rfl, _, rfl, rfl, _, rfl, rfl⟩
  simp only [decodeDurableReceipt, hread, Except.mapError, bind_eq_ok, exists_unit, pure_eq_ok]
  exact ⟨trivial, trivial⟩

/-! ## The invariant -/

end

namespace Database

/-- The receipts of a journal. -/
def receiptsOf (db : Database) (journalId : JournalId) : List ReceiptRow :=
  db.receipts.filter fun receipt => decide (receipt.journalId = journalId)

end Database

/-- One generation after the other, up to the current one. -/
def retainedGenerations (generation : ℕ) : List ℕ :=
  List.range' (firstGeneration generation) (generation - firstGeneration generation + 1)

section

variable {φ : Type} [FloatText φ] [Sha256]

/-- What every committed database satisfies; `saved` is the last root saved to each journal. -/
structure Durable (db : Database) (saved : JournalId → Option (JsonValue φ)) : Prop where
  ids_nodup : (db.journals.map (·.journalId)).Nodup
  stored : ∀ row ∈ db.journals, ∃ root, saved row.journalId = some root ∧ Stored root row
  absent : ∀ journalId, db.journal? journalId = none → saved journalId = none
  recorded : ∀ receipt ∈ db.receipts, Recorded φ receipt
  owned : ∀ receipt ∈ db.receipts, ∃ row ∈ db.journals, row.journalId = receipt.journalId
  suffix : ∀ row ∈ db.journals, ((db.receiptsOf row.journalId).map (·.generation)).Perm
    (retainedGenerations row.generation)
  newest : ∀ row ∈ db.journals, ∀ receipt ∈ db.receipts, receipt.journalId = row.journalId →
    receipt.generation = row.generation →
    receipt.revision = row.revision ∧ receipt.commitToken = row.commitToken

theorem Durable.empty : Durable {} (fun _ => (none : Option (JsonValue φ))) where
  ids_nodup := List.nodup_nil
  stored := fun _ hmem => absurd hmem List.not_mem_nil
  absent := fun _ _ => rfl
  recorded := fun _ hmem => absurd hmem List.not_mem_nil
  owned := fun _ hmem => absurd hmem List.not_mem_nil
  suffix := fun _ hmem => absurd hmem List.not_mem_nil
  newest := fun _ hmem => absurd hmem List.not_mem_nil

variable {db next : Database} {saved : JournalId → Option (JsonValue φ)}

omit [FloatText φ] [Sha256] in
theorem journal?_eq_some {journalId : JournalId} {row : JournalRow}
    (h : db.journal? journalId = some row) : row ∈ db.journals ∧ row.journalId = journalId := by
  rw [journal?] at h
  have hfound := List.find?_some h
  exact ⟨List.mem_of_find?_eq_some h, of_decide_eq_true hfound⟩

omit [FloatText φ] [Sha256] in
theorem journal?_eq_none {journalId : JournalId} (h : db.journal? journalId = none) :
    ∀ row ∈ db.journals, row.journalId ≠ journalId := by
  intro row hmem heq
  exact List.find?_eq_none.1 h row hmem (decide_eq_true heq)

/-- A load returns the root that was saved last, with its revision. -/
theorem Durable.load [LawfulFloatText φ] (h : Durable db saved) (journalId : JournalId) :
    match saved journalId with
    | none => loadSync φ db journalId = .ok none
    | some root => ∃ record, loadSync φ db journalId = .ok (some record) ∧ record.root = root
      ∧ ∃ rootBytes, validateRoot root journalId = .ok (rootBytes, record.generation)
        ∧ record.revision = hexdigest rootBytes := by
  cases hrow : db.journal? journalId with
  | none =>
    rw [h.absent journalId hrow]
    simp only [loadSync, hrow]
  | some row =>
    obtain ⟨hmem, rfl⟩ := journal?_eq_some hrow
    obtain ⟨root, hroot, hstored⟩ := h.stored row hmem
    rw [hroot]
    refine ⟨⟨root, row.generation, row.revision, row.commitToken⟩, ?_, rfl, row.canonicalRoot,
      hstored.validated, hstored.revision_eq⟩
    simp only [loadSync, hrow, hstored.decode]
    rfl

theorem Durable.generation_le (h : Durable db saved) {row : JournalRow} (hrow : row ∈ db.journals)
    {receipt : ReceiptRow} (hreceipt : receipt ∈ db.receipts)
    (hid : receipt.journalId = row.journalId) : receipt.generation ≤ row.generation := by
  have hmem : receipt.generation ∈ (db.receiptsOf row.journalId).map (·.generation) :=
    List.mem_map_of_mem (List.mem_filter.2 ⟨hreceipt, decide_eq_true hid⟩)
  rw [(h.suffix row hrow).mem_iff, retainedGenerations, List.mem_range'_1] at hmem
  unfold firstGeneration maxReceiptsPerJournal at hmem
  omega

omit [FloatText φ] [Sha256] in
theorem eq_range'_of_perm {items : List ℕ} {start count : ℕ}
    (hsorted : items.Pairwise (· ≤ ·)) (hperm : items.Perm (List.range' start count)) :
    items = List.range' start count :=
  List.Perm.eq_of_pairwise (fun _ _ _ _ h h' => le_antisymm h h') hsorted
    List.pairwise_le_range' hperm

omit [FloatText φ] [Sha256] in
/-- The journal ID is a primary key. -/
theorem eq_of_journalId (hnodup : (db.journals.map (·.journalId)).Nodup) {a b : JournalRow}
    (ha : a ∈ db.journals) (hb : b ∈ db.journals) (h : a.journalId = b.journalId) : a = b :=
  List.inj_on_of_nodup_map hnodup ha hb h

/-- Startup validation accepts the database. -/
theorem Durable.reopens [LawfulFloatText φ] (h : Durable db saved) :
    validateDurableRows φ db = .ok () := by
  -- every row decodes to a record of its own generation, revision and token
  have hdecode : ∀ row ∈ db.journals, ∃ root, decodeDurableRoot φ row
      = .ok ⟨root, row.generation, row.revision, row.commitToken⟩ := by
    intro row hmem
    obtain ⟨root, _, hstored⟩ := h.stored row hmem
    exact ⟨root, hstored.decode⟩
  have hrecords : ∀ row ∈ db.journals, ∃ entry, (do
      let record ← decodeDurableRoot φ row
      return (row.journalId, record)) = .ok entry := by
    intro row hmem
    obtain ⟨root, hroot⟩ := hdecode row hmem
    exact ⟨(row.journalId, _), bind_eq_ok.2 ⟨_, hroot, rfl⟩⟩
  obtain ⟨journals, hjournals⟩ := exists_collect hrecords
  have hentries : ∀ entry ∈ journals, ∃ row ∈ db.journals, entry.1 = row.journalId
      ∧ entry.2.generation = row.generation ∧ entry.2.revision = row.revision
      ∧ entry.2.commitToken = row.commitToken := by
    intro entry hentry
    obtain ⟨row, hrow, hbody⟩ := (mem_collect hjournals).1 entry hentry
    obtain ⟨root, hroot⟩ := hdecode row hrow
    rw [hroot] at hbody
    cases hbody
    exact ⟨row, hrow, rfl, rfl, rfl, rfl⟩
  rw [validateDurableRows]
  refine bind_eq_ok.2 ⟨journals, hjournals, bind_eq_ok.2 ⟨db.receipts, ?_, ?_⟩⟩
  · refine collect_self fun receipt hreceipt => ?_
    obtain ⟨row, hrow, hid⟩ := h.owned receipt hreceipt
    obtain ⟨owner, howner, hbody⟩ := (mem_collect hjournals).2 row hrow
    obtain ⟨root, hroot⟩ := hdecode row hrow
    rw [hroot] at hbody
    cases hbody
    refine bind_eq_ok.2 ⟨receipt, (h.recorded receipt hreceipt).decode, ?_⟩
    cases hfind : journals.find? fun entry => decide (entry.1 = receipt.journalId) with
    | none => exact absurd (decide_eq_true hid) (List.find?_eq_none.1 hfind _ howner)
    | some entry =>
      obtain ⟨id, journal⟩ := entry
      have hfound := List.find?_some hfind
      have hkey : id = receipt.journalId := of_decide_eq_true hfound
      obtain ⟨found, hfound, hsame, hgeneration, hrevision, htoken⟩ :=
        hentries _ (List.mem_of_find?_eq_some hfind)
      have hrow_eq : found = row :=
        eq_of_journalId h.ids_nodup hfound hrow (hsame.symm.trans (hkey.trans hid.symm))
      subst hrow_eq
      simp only [validateReceiptRelationship, bind_unit_eq_ok, check_eq_ok, pure_eq_ok, and_true]
      rw [hgeneration, hrevision, htoken]
      exact ⟨h.generation_le hrow hreceipt hid.symm, h.newest found hrow receipt hreceipt hid.symm⟩
  rw [forAll_eq_ok]
  intro entry hentry
  obtain ⟨row, hrow, hid, hgeneration, _⟩ := hentries entry hentry
  have hperm := h.suffix row hrow
  have hsuffix : (sortedBy (·.generation) (db.receiptsOf row.journalId)).map (·.generation)
      = retainedGenerations row.generation := by
    refine eq_range'_of_perm ?_ (((perm_sortedBy _ _).map _).trans hperm)
    exact List.pairwise_map.2 (pairwise_sortedBy ReceiptRow.generation _)
  have hlength : (sortedBy (·.generation) (db.receiptsOf row.journalId)).length
      = row.generation - firstGeneration row.generation + 1 := by
    rw [← List.length_map (f := (·.generation)), hsuffix, retainedGenerations, List.length_range']
  simp only [bind_unit_eq_ok, check_eq_ok]
  rw [hid, hgeneration]
  refine ⟨hlength, ?_⟩
  show (sortedBy (·.generation) (db.receiptsOf row.journalId)).map (·.generation) = List.range' _
    (sortedBy (·.generation) (db.receiptsOf row.journalId)).length
  rw [hlength, hsuffix]
  rfl

/-! ## Saving -/

/-- The rows after a save: the saved row in the place of the old one, if there was one. -/
structure Replaces (db next : Database) (row : JournalRow) : Prop where
  ids_nodup : (next.journals.map (·.journalId)).Nodup
  mem_iff : ∀ other, other ∈ next.journals ↔
    other = row ∨ (other ∈ db.journals ∧ other.journalId ≠ row.journalId)
  receipts : next.receipts = db.receipts

omit [FloatText φ] [Sha256] in
theorem insertJournal_replaces {row : JournalRow} (hnodup : (db.journals.map (·.journalId)).Nodup)
    (h : db.insertJournal row = .ok next) : Replaces db next row := by
  simp only [insertJournal, bind_unit_eq_ok, check_eq_ok, pure_eq_ok] at h
  obtain ⟨_, hfresh, _, rfl⟩ := h
  refine ⟨?_, fun other => ?_, rfl⟩
  · rw [List.map_append, List.map_singleton, List.nodup_append]
    refine ⟨hnodup, List.nodup_singleton _, fun id hid other hother => ?_⟩
    obtain ⟨found, hfound, rfl⟩ := List.mem_map.1 hid
    rw [List.mem_singleton.1 hother]
    exact hfresh found hfound
  · simp only [List.mem_append, List.mem_singleton]
    constructor
    · rintro (hmem | rfl)
      · exact Or.inr ⟨hmem, hfresh other hmem⟩
      · exact Or.inl rfl
    · rintro (rfl | ⟨hmem, _⟩)
      · exact Or.inr rfl
      · exact Or.inl hmem

omit [FloatText φ] [Sha256] in
theorem updateJournal_replaces {current row : JournalRow}
    (hnodup : (db.journals.map (·.journalId)).Nodup) (hcurrent : current ∈ db.journals)
    (hid : row.journalId = current.journalId) (h : db.updateJournal current row = .ok next) :
    Replaces db next row := by
  simp only [updateJournal, bind_unit_eq_ok, check_eq_ok, pure_eq_ok] at h
  obtain ⟨_, _, _, rfl⟩ := h
  -- the primary key leaves one row to update
  have hmatches : ∀ other ∈ db.journals,
      Matches current other ↔ other.journalId = current.journalId := by
    intro other hother
    constructor
    · exact fun h => h.1
    · intro heq
      rw [eq_of_journalId hnodup hother hcurrent heq]
      exact ⟨rfl, rfl, rfl⟩
  refine ⟨?_, fun other => ?_, rfl⟩
  · have hids : (db.journals.map fun other => if Matches current other then row else other).map
        (·.journalId) = db.journals.map (·.journalId) := by
      rw [List.map_map]
      refine List.map_congr_left fun other hother => ?_
      simp only [Function.comp]
      split
      · rename_i hmatch
        exact hid.trans hmatch.1.symm
      · rfl
    rw [hids]
    exact hnodup
  · rw [List.mem_map]
    constructor
    · rintro ⟨old, hold, rfl⟩
      split
      · exact Or.inl rfl
      · rename_i hother
        rw [hmatches old hold] at hother
        exact Or.inr ⟨hold, fun heq => hother (heq.trans hid)⟩
    · rintro (rfl | ⟨hmem, hne⟩)
      · exact ⟨current, hcurrent, if_pos ⟨rfl, rfl, rfl⟩⟩
      · refine ⟨other, hmem, if_neg fun hmatch => hne ?_⟩
        exact hmatch.1.trans hid.symm

/-- What a save that commits does. -/
structure Commits (db next : Database) (arguments : SaveArguments φ) : Prop where
  current : checkCurrent arguments (db.journal? arguments.journalId) = .ok ()
  written : ∃ middle response, Replaces db middle arguments.journalRow
    ∧ Recorded φ (arguments.receiptRow response)
    ∧ next = { middle with
      receipts := db.receipts ++ [arguments.receiptRow response] }.deleteReceipts
        arguments.journalId (firstGeneration arguments.generation)

/-- The row of a committed save. -/
theorem Commits.mem {arguments : SaveArguments φ} (h : Commits db next arguments) :
    arguments.journalRow ∈ next.journals := by
  obtain ⟨middle, response, hreplaces, -, rfl⟩ := h.written
  exact (hreplaces.mem_iff _).2 (Or.inl rfl)

theorem saveSync_cases (hnodup : (db.journals.map (·.journalId)).Nodup)
    {arguments : SaveArguments φ} {outcome : SaveOutcome}
    (h : saveSync db arguments = .ok (outcome, next)) :
    (outcome.replayed = true ∧ next = db)
      ∨ (outcome.replayed = false ∧ Commits db next arguments) := by
  rw [saveSync] at h
  split at h
  · -- a replay reads rows and changes none
    rename_i row _
    obtain ⟨replayed, hreplay, h⟩ := bind_eq_ok.1 h
    cases h
    refine Or.inl ⟨?_, rfl⟩
    simp only [replaySave, bind_eq_ok, exists_unit, check_eq_ok] at hreplay
    obtain ⟨_, _, _, _, hreplay⟩ := hreplay
    split at hreplay
    · cases hreplay
    · simp only [bind_eq_ok, exists_unit, pure_eq_ok] at hreplay
      obtain ⟨_, _, _, rfl⟩ := hreplay
      rfl
  · simp only [bind_eq_ok, exists_unit, pure_eq_ok, Prod.mk.injEq] at h
    obtain ⟨hcurrent, response, hresponse, middle, hmiddle, written, hwritten, rfl, rfl⟩ := h
    rw [mapError_eq_ok] at hresponse
    have hreplaces : Replaces db middle arguments.journalRow := by
      cases hrow : db.journal? arguments.journalId with
      | none =>
        rw [hrow, writeJournal] at hmiddle
        exact insertJournal_replaces hnodup hmiddle
      | some row =>
        rw [hrow, writeJournal] at hmiddle
        obtain ⟨hmem, hid⟩ := journal?_eq_some hrow
        exact updateJournal_replaces hnodup hmem hid.symm hmiddle
    simp only [insertReceipt, bind_unit_eq_ok, check_eq_ok, pure_eq_ok] at hwritten
    obtain ⟨⟨_, hlength⟩, _, _, _, _, rfl⟩ := hwritten
    obtain ⟨_, _, _, _, hgeneration⟩ := validateRoot_eq_ok arguments.validated
    refine Or.inr ⟨rfl, hcurrent, middle, response, hreplaces, ?_, ?_⟩
    · exact ⟨rfl, hgeneration, hlength, hresponse⟩
    · rw [hreplaces.receipts]

/-! ## The suffix of receipts -/

omit [FloatText φ] [Sha256] in
/-- The receipts of a journal after the new one is added and the old ones are deleted. -/
theorem receiptsOf_deleteReceipts (journals : List JournalRow) (receipts : List ReceiptRow)
    (receipt : ReceiptRow) (first : ℕ) (journalId : JournalId) :
    ({ journals, receipts := receipts ++ [receipt] : Database }.deleteReceipts receipt.journalId
        first).receiptsOf journalId
      = if journalId = receipt.journalId then
          (({ journals, receipts : Database }.receiptsOf journalId) ++ [receipt]).filter
            fun row => decide (first ≤ row.generation)
        else { journals, receipts : Database }.receiptsOf journalId := by
  unfold receiptsOf deleteReceipts
  simp only [List.filter_filter, List.filter_append]
  split
  · rename_i hid
    subst hid
    congr 1
    · refine List.filter_congr fun row _ => ?_
      by_cases hrow : row.journalId = receipt.journalId
      · simp [hrow]
      · simp [hrow]
    · simp [List.filter_cons]
  · rename_i hid
    have hne : ¬ receipt.journalId = journalId := fun h => hid h.symm
    have hnone : [receipt].filter (fun row => decide (row.journalId = journalId)
        && decide (¬ (row.journalId = receipt.journalId ∧ row.generation < first))) = [] := by
      simp [hne]
    rw [hnone, List.append_nil]
    refine List.filter_congr fun row _ => ?_
    by_cases hrow : row.journalId = journalId
    · have hother : ¬ row.journalId = receipt.journalId := fun h => hid (hrow.symm.trans h)
      simp [hrow, hid]
    · simp [hrow]

omit [FloatText φ] [Sha256] in
theorem filter_range'_succ (start count : ℕ) :
    (List.range' start (count + 1)).filter (fun n => decide (start + 1 ≤ n))
      = List.range' (start + 1) count := by
  rw [List.range'_succ, List.filter_cons_of_neg (by simp), List.filter_eq_self]
  intro n hn
  exact decide_eq_true (List.mem_range'_1.1 hn).1

omit [FloatText φ] [Sha256] in
/-- The window of retained generations moves on by one. -/
theorem filter_retainedGenerations (generation : ℕ) :
    (retainedGenerations generation ++ [generation + 1]).filter
        (fun n => decide (firstGeneration (generation + 1) ≤ n))
      = retainedGenerations (generation + 1) := by
  have hfirst : firstGeneration generation ≤ generation := by
    unfold firstGeneration maxReceiptsPerJournal
    omega
  have hcount : generation + 1 = firstGeneration generation
      + (generation - firstGeneration generation + 1) := by
    omega
  have hconcat : retainedGenerations generation ++ [generation + 1]
      = List.range' (firstGeneration generation)
        (generation - firstGeneration generation + 1 + 1) := by
    rw [List.range'_concat, retainedGenerations, Nat.one_mul, ← hcount]
  rw [hconcat]
  have hstep : firstGeneration (generation + 1) = firstGeneration generation
      ∨ firstGeneration (generation + 1) = firstGeneration generation + 1 := by
    unfold firstGeneration
    omega
  unfold retainedGenerations
  rcases hstep with hsame | hnext
  · have hlength : generation - firstGeneration generation + 1 + 1
        = generation + 1 - firstGeneration generation + 1 := by
      omega
    rw [hsame, hlength, List.filter_eq_self]
    intro n hn
    exact decide_eq_true (List.mem_range'_1.1 hn).1
  · have hlength : generation + 1 - (firstGeneration generation + 1) + 1
        = generation - firstGeneration generation + 1 := by
      omega
    rw [hnext, hlength, filter_range'_succ]

/-! ## Every commit keeps the invariant -/

/-- The journal that a save admits: a new one at generation 0, or the next generation. -/
theorem Durable.admitted (h : Durable db saved) {arguments : SaveArguments φ}
    (hcurrent : checkCurrent arguments (db.journal? arguments.journalId) = .ok ()) :
    (db.receiptsOf arguments.journalId = [] ∧ arguments.generation = 0)
      ∨ ∃ current ∈ db.journals, current.journalId = arguments.journalId
        ∧ arguments.generation = current.generation + 1 := by
  cases hcase : db.journal? arguments.journalId with
  | none =>
    rw [hcase, checkCurrent] at hcurrent
    simp only [bind_unit_eq_ok, check_eq_ok] at hcurrent
    refine Or.inl ⟨List.filter_eq_nil_iff.2 fun receipt hreceipt hid => ?_, hcurrent.1⟩
    obtain ⟨row, hrow, howner⟩ := h.owned receipt hreceipt
    exact journal?_eq_none hcase row hrow (howner.trans (of_decide_eq_true hid))
  | some current =>
    rw [hcase, checkCurrent] at hcurrent
    simp only [bind_unit_eq_ok, check_eq_ok] at hcurrent
    obtain ⟨hmem, hid⟩ := journal?_eq_some hcase
    exact Or.inr ⟨current, hmem, hid, hcurrent.1.2⟩

/-- Every earlier receipt of the journal has an earlier generation. -/
theorem Durable.generation_lt (h : Durable db saved) {arguments : SaveArguments φ}
    (hcurrent : checkCurrent arguments (db.journal? arguments.journalId) = .ok ())
    {receipt : ReceiptRow} (hreceipt : receipt ∈ db.receipts)
    (hid : receipt.journalId = arguments.journalId) :
    receipt.generation < arguments.generation := by
  rcases h.admitted hcurrent with ⟨hnone, _⟩ | ⟨current, hmem, howner, hgeneration⟩
  · exact absurd (decide_eq_true hid) (List.filter_eq_nil_iff.1 hnone receipt hreceipt)
  · have hle := h.generation_le hmem hreceipt (hid.trans howner.symm)
    omega

/-- The suffix of the saved journal. -/
theorem Durable.suffix_commit (h : Durable db saved) {arguments : SaveArguments φ}
    (hcurrent : checkCurrent arguments (db.journal? arguments.journalId) = .ok ())
    {receipt : ReceiptRow} (hreceipt : receipt.generation = arguments.generation) :
    (((db.receiptsOf arguments.journalId ++ [receipt]).filter fun row =>
        decide (firstGeneration arguments.generation ≤ row.generation)).map (·.generation)).Perm
      (retainedGenerations arguments.generation) := by
  have hcomm := List.filter_map (f := ReceiptRow.generation)
    (p := fun n => decide (firstGeneration arguments.generation ≤ n))
    (l := db.receiptsOf arguments.journalId ++ [receipt])
  rw [Function.comp_def] at hcomm
  rw [← hcomm, List.map_append, List.map_singleton, hreceipt]
  rcases h.admitted hcurrent with ⟨hnone, hgeneration⟩ | ⟨current, hmem, hid, hgeneration⟩
  · rw [hnone, hgeneration]
    exact .refl _
  · rw [hgeneration, ← filter_retainedGenerations, ← hid]
    exact ((h.suffix current hmem).append_right _).filter _

theorem Durable.commits (h : Durable db saved) {arguments : SaveArguments φ}
    (hfit : integersFit maxIntegerDigits arguments.root = true)
    (hcommit : Commits db next arguments) :
    Durable next (Function.update saved arguments.journalId (some arguments.root)) := by
  obtain ⟨hcurrent, middle, response, hreplaces, hrecorded, rfl⟩ := hcommit
  have hids := hreplaces.ids_nodup
  have hmem : ∀ row, row ∈ middle.journals ↔ row = arguments.journalRow
      ∨ (row ∈ db.journals ∧ row.journalId ≠ arguments.journalId) := hreplaces.mem_iff
  -- the receipts that are left are old ones and the new one
  have hreceipts : ∀ receipt ∈ ({ middle with
      receipts := db.receipts ++ [arguments.receiptRow response] }.deleteReceipts
        arguments.journalId (firstGeneration arguments.generation)).receipts,
      receipt ∈ db.receipts ∨ receipt = arguments.receiptRow response := by
    intro receipt hreceipt
    have hold := List.mem_of_mem_filter hreceipt
    rwa [List.mem_append, List.mem_singleton] at hold
  refine ⟨hids, ?_, ?_, ?_, ?_, ?_, ?_⟩
  · intro row hrow
    rcases (hmem row).1 hrow with rfl | ⟨hold, hne⟩
    · refine ⟨arguments.root, Function.update_self _ _ _, arguments.ordered, hfit,
        arguments.validated, rfl⟩
    · rw [Function.update_of_ne hne]
      exact h.stored row hold
  · intro journalId hnone
    -- a journal without a row had none before, and is not the one that is saved
    have hfree := journal?_eq_none hnone
    have hne : journalId ≠ arguments.journalId := fun heq =>
      hfree _ ((hmem _).2 (Or.inl rfl)) heq.symm
    rw [Function.update_of_ne hne]
    refine h.absent journalId (List.find?_eq_none.2 fun row hrow hid => ?_)
    have hid := of_decide_eq_true hid
    exact hfree row ((hmem row).2 (Or.inr ⟨hrow, hid ▸ hne⟩)) hid
  · intro receipt hreceipt
    rcases hreceipts receipt hreceipt with hold | rfl
    · exact h.recorded receipt hold
    · exact hrecorded
  · intro receipt hreceipt
    rcases hreceipts receipt hreceipt with hold | rfl
    · obtain ⟨row, hrow, hid⟩ := h.owned receipt hold
      by_cases hsame : row.journalId = arguments.journalId
      · exact ⟨_, (hmem _).2 (Or.inl rfl), hsame.symm.trans hid⟩
      · exact ⟨row, (hmem row).2 (Or.inr ⟨hrow, hsame⟩), hid⟩
    · exact ⟨_, (hmem _).2 (Or.inl rfl), rfl⟩
  · intro row hrow
    -- the old receipts of the journal are deleted from the front
    have hsuffix := receiptsOf_deleteReceipts middle.journals db.receipts
      (arguments.receiptRow response) (firstGeneration arguments.generation) row.journalId
    refine List.Perm.trans (List.Perm.of_eq (congrArg _ hsuffix)) ?_
    rcases (hmem row).1 hrow with rfl | ⟨hold, hne⟩
    · refine List.Perm.trans (List.Perm.of_eq (congrArg _ (if_pos rfl))) ?_
      exact h.suffix_commit hcurrent rfl
    · refine List.Perm.trans (List.Perm.of_eq (congrArg _ (if_neg hne))) ?_
      exact h.suffix row hold
  · intro row hrow receipt hreceipt hid hgeneration
    rcases (hmem row).1 hrow with rfl | ⟨hold, hne⟩
    · rcases hreceipts receipt hreceipt with hearlier | rfl
      · exact absurd hgeneration (ne_of_lt (h.generation_lt hcurrent hearlier hid))
      · exact ⟨rfl, rfl⟩
    · rcases hreceipts receipt hreceipt with hearlier | rfl
      · exact h.newest row hold receipt hearlier hid hgeneration
      · exact absurd hid.symm hne

/-! ## Runs -/

/-- The root saved to every journal after a call. -/
def savedAfter (saved : JournalId → Option (JsonValue φ)) (arguments : SaveArguments φ)
    (result : Except JournalStoreError SaveOutcome) : JournalId → Option (JsonValue φ) :=
  match result with
  | .ok outcome =>
    if outcome.replayed then saved
    else Function.update saved arguments.journalId (some arguments.root)
  | .error _ => saved

/-- A save raises, replays or commits. -/
theorem save_cases (hnodup : (db.journals.map (·.journalId)).Nodup)
    (saved : JournalId → Option (JsonValue φ)) (arguments : SaveArguments φ) :
    ((save db arguments).2 = db ∧ savedAfter saved arguments (save db arguments).1 = saved
        ∧ (save db arguments).1.toOption.map (·.replayed) ≠ some false)
      ∨ (Commits db (save db arguments).2 arguments
        ∧ savedAfter saved arguments (save db arguments).1
          = Function.update saved arguments.journalId (some arguments.root)) := by
  cases hsave : saveSync db arguments with
  | error e =>
    have hresult : save db arguments = (.error e, db) := by rw [save, hsave]
    rw [hresult]
    exact Or.inl ⟨rfl, rfl, nofun⟩
  | ok result =>
    obtain ⟨outcome, next⟩ := result
    have hresult : save db arguments = (.ok outcome, next) := by rw [save, hsave]
    rw [hresult]
    rcases saveSync_cases hnodup hsave with ⟨hreplayed, rfl⟩ | ⟨hcommitted, hcommits⟩
    · refine Or.inl ⟨rfl, if_pos hreplayed, fun hflag => ?_⟩
      have hcommitted : outcome.replayed = false := Option.some.inj hflag
      rw [hcommitted] at hreplayed
      cases hreplayed
    · exact Or.inr ⟨hcommits, if_neg (Bool.eq_false_iff.1 hcommitted)⟩

/-- The databases that saves of admitted roots reach from the empty schema. A crash between two
transactions leaves the database of the last one. -/
inductive Run (admitted : JsonValue φ → Prop) :
    Database → (JournalId → Option (JsonValue φ)) → Prop
  | empty : Run admitted {} fun _ => none
  | save {db : Database} {saved : JournalId → Option (JsonValue φ)}
      (arguments : SaveArguments φ) : Run admitted db saved →
      admitted arguments.root →
      Run admitted (save db arguments).2 (savedAfter saved arguments (save db arguments).1)

theorem Run.durable {admitted : JsonValue φ → Prop}
    (hadmitted : ∀ root, admitted root → integersFit maxIntegerDigits root = true)
    (hrun : Run admitted db saved) : Durable db saved := by
  induction hrun with
  | empty => exact .empty
  | @save db saved arguments _ hroot ih =>
    rcases save_cases ih.ids_nodup saved arguments with ⟨hsame, hsaved, -⟩ | ⟨hcommits, hsaved⟩
    · rw [hsame, hsaved]
      exact ih
    · rw [hsaved]
      exact ih.commits (hadmitted _ hroot) hcommits

end

/-! ## Two saves -/

namespace Sample

/-- The float 0.5, the only one that the samples could write. -/
scoped instance : FloatText Unit where
  isFinite _ := true
  repr _ := "0.5".toList
  ofText _ := ()

scoped instance : LawfulFloatText Unit where
  literal _ _ := ⟨[], ['0'], ['.', '5'], [], rfl, Or.inl rfl, Or.inl rfl,
    Or.inr ⟨['5'], rfl, by decide, List.forall_mem_singleton.2 rfl⟩, Or.inl rfl, by decide⟩
  ofText_repr _ _ := rfl

def journalId : JournalId := ⟨"house".toList, by decide⟩

def requestId : RequestId := ⟨"tfj-7a0e7fb1b1d810132afc73a287d50b3a".toList, by decide⟩

def requestDigest : Digest :=
  ⟨"f1573397a711888291bddb57969a6895398d5faa3caf3814db671fdcaf67176d".toList, by decide⟩

def laterRequestId : RequestId := ⟨"tfj-c80127f0a103a3759ff0b5b46757219b".toList, by decide⟩

def laterRequestDigest : Digest :=
  ⟨"ce0e7e24f3c7cb598388358f6994a011827532bc2df9acb21a989753c3c6b43d".toList, by decide⟩

def root : JsonValue Unit :=
  .obj [("generation".toList, .int 0), ("journal_id".toList, .str "house".toList)]

/-- The root of the next generation. -/
def laterRoot : JsonValue Unit :=
  .obj [("generation".toList, .int 1), ("journal_id".toList, .str "house".toList)]

/-- A root with an integer of 129 digits. -/
def longRoot : JsonValue Unit :=
  .obj [("generation".toList, .int 0), ("journal_id".toList, .str "house".toList),
    ("serial".toList, .int (10 ^ 128))]

def rootDigest : Digest :=
  ⟨"753f783ae847a4f24646e6ffbf2dc9ed7c2d1fc663145ebb67f1a761bfd0d225".toList, by decide⟩

def laterRootDigest : Digest :=
  ⟨"9f8c0e088bd31d2368a63cb4324525c75cad927adbfa01ed2effc68f9de12b07".toList, by decide⟩

def longRootDigest : Digest :=
  ⟨"0fbaa5715bffa0492a346d9a2290862191a0261f17c070ab821abd5363cabd42".toList, by decide⟩

def token : Digest :=
  ⟨"b907fbaa58781d66a87b63d0afbcb00c83aec5d59320633d27d34a5b8987c7ae".toList, by decide⟩

def laterToken : Digest :=
  ⟨"209d4c725d517581e98c0c76810e066233ba7b24c369ea1f70fce1939c15ed9b".toList, by decide⟩

/-- SHA-256 of the texts that the samples hash. -/
scoped instance : Sha256 where
  hexdigest text :=
    if text = "\x7b\"generation\":0,\"journal_id\":\"house\"\x7d".toList then rootDigest
    else if text = "\x7b\"generation\":1,\"journal_id\":\"house\"\x7d".toList then
      laterRootDigest
    else if text = "true-family-journal-commit-v1\n".toList ++ laterRequestId.text
        ++ '\n' :: laterRequestDigest.text then laterToken
    else if text = render longRoot then longRootDigest
    else token

theorem ordered_root : Everywhere KeysOrdered root := by
  refine .of_leaves ?_ fun child hmem => ?_
  · exact List.pairwise_pair.2 (show "generation".toList < "journal_id".toList by decide)
  · simp only [children, root, List.map_cons, List.map_nil, List.mem_cons, List.not_mem_nil,
      or_false] at hmem
    obtain rfl | rfl := hmem <;> exact ⟨rfl, trivial⟩

theorem ordered_laterRoot : Everywhere KeysOrdered laterRoot := by
  refine .of_leaves ?_ fun child hmem => ?_
  · exact List.pairwise_pair.2 (show "generation".toList < "journal_id".toList by decide)
  · simp only [children, laterRoot, List.map_cons, List.map_nil, List.mem_cons, List.not_mem_nil,
      or_false] at hmem
    obtain rfl | rfl := hmem <;> exact ⟨rfl, trivial⟩

theorem ordered_longRoot : Everywhere KeysOrdered longRoot := by
  refine .of_leaves ?_ fun child hmem => ?_
  · refine List.Pairwise.cons (fun entry hentry => ?_) (List.pairwise_pair.2
      (show "journal_id".toList < "serial".toList by decide))
    simp only [List.mem_cons, List.not_mem_nil, or_false] at hentry
    obtain rfl | rfl := hentry
    · exact show "generation".toList < "journal_id".toList by decide
    · exact show "generation".toList < "serial".toList by decide
  · simp only [children, longRoot, List.map_cons, List.map_nil, List.mem_cons, List.not_mem_nil,
      or_false] at hmem
    obtain rfl | rfl | rfl := hmem <;> exact ⟨rfl, trivial⟩

/-- The first save of the journal. -/
def firstSave : SaveArguments Unit where
  journalId := journalId
  expectedRevision := none
  root := root
  rootBytes := render root
  generation := 0
  requestId := requestId
  requestDigest := requestDigest
  ordered := ordered_root
  validated := by decide

/-- The save after it. -/
def laterSave : SaveArguments Unit where
  journalId := journalId
  expectedRevision := some rootDigest
  root := laterRoot
  rootBytes := render laterRoot
  generation := 1
  requestId := laterRequestId
  requestDigest := laterRequestDigest
  ordered := ordered_laterRoot
  validated := by decide

/-- A first save of the long root, which is validated as well. -/
def longSave : SaveArguments Unit where
  journalId := journalId
  expectedRevision := none
  root := longRoot
  rootBytes := render longRoot
  generation := 0
  requestId := requestId
  requestDigest := requestDigest
  ordered := ordered_longRoot
  validated := by decide +kernel

end Sample

open Sample in
/-- The store commits the long root, and its own startup validation refuses the database. -/
theorem long_integer_refused :
    ¬ ∀ (db : Database) (saved : JournalId → Option (JsonValue Unit)),
      Run (fun _ => True) db saved → validateDurableRows Unit db = .ok () := by
  intro hall
  have hrun : Run (fun _ => True) (save {} longSave).2 _ := .save longSave .empty trivial
  have hrefused : validateDurableRows Unit (save {} longSave).2
      = .error (.corruption "A durable journal row is invalid.") := by
    decide +kernel
  rw [hall _ _ hrun] at hrefused
  cases hrefused

section

variable {φ : Type} [FloatText φ] [Sha256] {db : Database}
  {saved : JournalId → Option (JsonValue φ)}

/-- Saves of roots whose integers the request parser accepts leave a database whose receipts are
exactly the last ones of every journal, which startup validation accepts, and from which a load
returns the root that was saved. -/
theorem reachable_database_reopens [LawfulFloatText φ]
    (hrun : Run (fun root => integersFit maxIntegerDigits root = true) db saved) :
    (∀ row ∈ db.journals,
      ((db.receiptsOf row.journalId).map (·.generation)).Perm (retainedGenerations row.generation)
      ∧ ∃ receipt ∈ db.receiptsOf row.journalId, receipt.generation = row.generation
        ∧ receipt.revision = row.revision ∧ receipt.commitToken = row.commitToken)
      ∧ validateDurableRows φ db = .ok ()
      ∧ ∀ journalId, match saved journalId with
        | none => loadSync φ db journalId = .ok none
        | some root => ∃ record, loadSync φ db journalId = .ok (some record) ∧ record.root = root
          ∧ ∃ rootBytes, validateRoot root journalId = .ok (rootBytes, record.generation)
            ∧ record.revision = hexdigest rootBytes := by
  have h := hrun.durable fun _ hroot => hroot
  refine ⟨fun row hrow => ⟨h.suffix row hrow, ?_⟩, h.reopens, h.load⟩
  have hmem : row.generation ∈ (db.receiptsOf row.journalId).map (·.generation) := by
    rw [(h.suffix row hrow).mem_iff, retainedGenerations, List.mem_range'_1]
    unfold firstGeneration maxReceiptsPerJournal
    omega
  obtain ⟨receipt, hreceipt, hgeneration⟩ := List.mem_map.1 hmem
  obtain ⟨hstored, hid⟩ := List.mem_filter.1 hreceipt
  exact ⟨receipt, hreceipt, hgeneration,
    h.newest row hrow receipt hstored (of_decide_eq_true hid) hgeneration⟩

end

section

open Sample

/-- The database after both saves. -/
def savedTwice : Database := (save (save {} firstSave).2 laterSave).2

theorem savedTwice_run : ∃ saved, saved journalId = some laterRoot
    ∧ laterSave.journalRow ∈ savedTwice.journals
    ∧ Run (fun root => integersFit maxIntegerDigits root = true) savedTwice saved := by
  unfold savedTwice
  obtain ⟨before, hfirst⟩ : ∃ saved, Run (fun root => integersFit maxIntegerDigits root = true)
      (save {} firstSave).2 saved := ⟨_, .save firstSave .empty (by decide)⟩
  have hflag : (save (save {} firstSave).2 laterSave).1.toOption.map (·.replayed)
      = some false := by decide +kernel
  rcases save_cases (hfirst.durable fun _ hroot => hroot).ids_nodup before laterSave with
    ⟨-, -, hnot⟩ | ⟨hcommits, hsaved⟩
  · exact absurd hflag hnot
  -- the save commits, so the later root is what is saved last
  have hrun := hfirst.save laterSave (by decide)
  rw [hsaved] at hrun
  exact ⟨_, Function.update_self _ _ _, hcommits.mem, hrun⟩

/-- The database of the two saves reopens, and has the later root. -/
theorem saves_reopen :
    validateDurableRows Unit savedTwice = .ok ()
      ∧ ((savedTwice.receiptsOf journalId).map (·.generation)).Perm [0, 1]
      ∧ ∃ record, loadSync Unit savedTwice journalId = .ok (some record)
        ∧ record.root = laterRoot := by
  obtain ⟨saved, hsaved, hmem, hrun⟩ := savedTwice_run
  obtain ⟨hrows, hvalid, hload⟩ := reachable_database_reopens hrun
  have hid : laterSave.journalRow.journalId = journalId := rfl
  have hretained : retainedGenerations laterSave.journalRow.generation = [0, 1] := by decide
  have hperm := (hrows _ hmem).1
  rw [hid, hretained] at hperm
  have hfound := hload journalId
  rw [hsaved] at hfound
  obtain ⟨record, hrecord, hroot, -⟩ := hfound
  exact ⟨hvalid, hperm, record, hrecord, hroot⟩

end

end TrueFamily.JournalApp
