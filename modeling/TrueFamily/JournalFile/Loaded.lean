import TrueFamily.Lib.Checked
import TrueFamily.JournalFile.Store

/-!
# What a save commits is what a load returns

A save decodes the bytes that it encoded, so a load of them succeeds and returns what that decoding
returned: the root with the surrogate pairs of its strings and keys merged. It is the root that was
saved exactly when there are none. Whatever is decoded has the decoded bytes as its encoding.
-/

namespace TrueFamily.JournalFile

open Checked (bind_eq_ok)
open JsonValue (FloatText LawfulFloatText Text Printable decodeAscii)
open PyValue (Finite NoPairs Same merge sortKeys)

variable {φ : Type} [FloatText φ]

/-! ## The tree -/

/-- What passes the loop of `_validate_json_tree` has finite floats only. -/
theorem finite_of_validateLoop : ∀ (passes nodes : ℕ) (stack : List (PyValue φ × ℕ)),
    validateLoop passes nodes stack = .ok () → ∀ entry ∈ stack, Finite entry.1
  | _, _, [], _ => fun _ hmem => by cases hmem
  | 0, _, _ :: _, h => by simp [validateLoop] at h
  | passes + 1, nodes, (current, depth) :: stack, h => by
    unfold validateLoop at h
    split at h
    · cases h
    · split at h
      · cases h
      · rw [List.forall_mem_cons]
        cases current with
        | obj entries =>
          dsimp only at h
          split at h
          · cases h
          · split at h
            · cases h
            · have hall := finite_of_validateLoop passes _ _ h
              refine ⟨PyValue.finiteEntries_iff.2 fun entry hmem => ?_, fun entry hmem =>
                hall entry (List.mem_append_right _ hmem)⟩
              exact hall (entry.2, depth + 1) (List.mem_append_left _
                (List.mem_reverse.2 (List.mem_map.2 ⟨entry, hmem, rfl⟩)))
        | arr items =>
          have hall := finite_of_validateLoop passes _ _ h
          refine ⟨PyValue.finiteItems_iff.2 fun item hmem => ?_, fun entry hmem =>
            hall entry (List.mem_append_right _ hmem)⟩
          exact hall (item, depth + 1) (List.mem_append_left _
            (List.mem_reverse.2 (List.mem_map.2 ⟨item, hmem, rfl⟩)))
        | float value =>
          dsimp only at h
          split at h
          · rename_i hleaf
            refine ⟨?_, finite_of_validateLoop passes _ _ h⟩
            change (if FloatText.isFinite value then Except.ok ()
              else Except.error _) = Except.ok _ at hleaf
            split at hleaf
            · assumption
            · cases hleaf
          · cases h
        | _ =>
          dsimp only at h
          split at h
          · exact ⟨trivial, finite_of_validateLoop passes _ _ h⟩
          · cases h

theorem finite_of_validateJsonTree {v : PyValue φ} (h : validateJsonTree v = .ok ()) :
    Finite v := by
  cases v with
  | obj entries => exact finite_of_validateLoop _ _ _ h _ List.mem_cons_self
  | _ => cases h

/-! ## The codec -/

omit [FloatText φ] in
theorem decodeAscii_encodeAscii {text : Text} (h : ∀ c ∈ text, Printable c) :
    decodeAscii (encodeAscii text) = text := by
  rw [decodeAscii, encodeAscii, List.map_map]
  conv_rhs => rw [← List.map_id text]
  refine List.map_congr_left fun c hmem => ?_
  have hc := h c hmem
  have hbyte : (UInt8.ofNat c.toNat).toNat = c.toNat := by
    rw [UInt8.toNat_ofNat']
    exact Nat.mod_eq_of_lt (by have := hc.2; omega)
  rw [Function.comp_apply, hbyte, Char.ofNat_toNat, id]

/-- What decoding a byte string takes. -/
theorem canonicalDecode_eq_ok {raw : Bytes} {n : ℕ} {v : PyValue φ}
    (h : canonicalDecode raw n = .ok v) :
    PyValue.loads decodeHooks (decodeAscii raw) = some v ∧ validateJsonTree v = .ok () ∧
      (rendered v).length ≤ n ∧ rendered v = raw := by
  unfold canonicalDecode at h
  cases hpreflight : jsonLexicalPreflight raw n with
  | error e =>
    rw [hpreflight] at h
    cases h
  | ok _ =>
    rw [hpreflight] at h
    cases hloads : PyValue.loads (decodeHooks (φ := φ)) (decodeAscii raw) with
    | none =>
      simp only [hloads] at h
      cases h
    | some decoded =>
      simp only [hloads] at h
      cases hvalid : validateJsonTree decoded with
      | error e =>
        rw [hvalid] at h
        cases h
      | ok _ =>
        rw [hvalid] at h
        change (if matchesCanonicalEncoding decoded raw n then Except.ok decoded
          else Except.error _) = Except.ok v at h
        split at h
        · rename_i hmatches
          cases h
          exact ⟨rfl, hvalid, of_decide_eq_true hmatches⟩
        · cases h

/-- A decoded value is encoded as the bytes it was decoded from. -/
theorem canonicalEncode_of_canonicalDecode {raw : Bytes} {n : ℕ} {v : PyValue φ}
    (h : canonicalDecode raw n = .ok v) : canonicalEncode v n = .ok raw := by
  obtain ⟨-, hvalid, hlength, hraw⟩ := canonicalDecode_eq_ok h
  unfold canonicalEncode
  rw [hvalid, hraw]
  rw [hraw] at hlength
  exact if_neg (Nat.not_lt.2 hlength)

/-- The bytes of a root are decoded as the root in key order with its surrogate pairs merged. -/
theorem canonicalDecode_rendered [LawfulFloatText φ] {root v : PyValue φ} {n : ℕ}
    (hroot : Finite root) (h : canonicalDecode (rendered root) n = .ok v) :
    v = merge (sortKeys root) := by
  obtain ⟨hloads, -⟩ := canonicalDecode_eq_ok h
  rw [rendered, decodeAscii_encodeAscii (PyValue.printable_render hroot.sortKeys)] at hloads
  have hint : ∀ text i, (decodeHooks (φ := φ)).parseInt text = some i →
      i = JsonValue.intOfText text := by
    intro text i hi
    simp only [decodeHooks] at hi
    generalize (if text.head? = some '-' then text.tail else text) = digits at hi
    split at hi
    · cases hi
    · exact (Option.some.inj hi).symm
  have hplain := PyValue.loads_plain hint hloads
  rw [PyValue.loads_render hroot.sortKeys, Option.some.injEq] at hplain
  exact hplain.symm

/-! ## The store -/

/-- A commit leaves the bytes of the root, which were decoded and are the file's. -/
theorem commit_eq_ok {maxBytes inode : ℕ} {snapshot reopened : Snapshot} {final : Option File}
    {root : PyValue φ} {file : File}
    (h : commit maxBytes snapshot final root inode = .ok (file, reopened)) :
    validateJsonTree root = .ok () ∧ file = ⟨inode, rendered root⟩ ∧
      ∃ v : PyValue φ, readFile file maxBytes = .ok (v, reopened) := by
  obtain ⟨raw, hraw, h⟩ := bind_eq_ok.1 h
  obtain ⟨candidate, -, h⟩ := bind_eq_ok.1 h
  obtain ⟨candidateGeneration, -, h⟩ := bind_eq_ok.1 h
  obtain ⟨_, hvalid, hraw⟩ := bind_eq_ok.1 hraw
  split at hraw
  · cases hraw
  · cases hraw
    split at h
    · cases h
    · obtain ⟨current, -, h⟩ := bind_eq_ok.1 h
      split at h
      · cases h
      · obtain ⟨⟨v, replaced⟩, hread, h⟩ := bind_eq_ok.1 h
        dsimp only at h
        split at h
        · cases h
        · cases h
          exact ⟨hvalid, rfl, v, hread⟩

namespace CrashDurableReferenceJournalStore

variable {self other : CrashDurableReferenceJournalStore} {final : Option File} {root : PyValue φ}
  {inode : ℕ} {file : File}

theorem saveSync_eq_ok (h : (self.saveSync final root inode).2 = .ok file) :
    ∃ snapshot reopened, commit self.maxBytes snapshot final root inode = .ok (file, reopened) ∧
      (self.saveSync final root inode).1 =
        { self with
          sequence := self.sequence + 1
          snapshot := some reopened
          saveReady := false
          commitStamp := some ⟨reopened, self.sequence + 1⟩ } ∧ self.poisoned = false := by
  unfold saveSync at h ⊢
  split at h
  · cases h
  · rename_i hpoisoned
    rw [if_neg hpoisoned]
    split at h
    · cases h
    · rename_i hstamp
      rw [if_neg hstamp]
      split at h
      · rename_i snapshot _ _
        split at h
        · cases h
        · rename_i file' reopened hcommit
          cases h
          exact ⟨snapshot, reopened, hcommit, rfl, Bool.eq_false_of_not_eq_true hpoisoned⟩
      · cases h

/-- A load returns the root that was saved with its surrogate pairs merged. -/
theorem loadSync_saved [LawfulFloatText φ] (h : (self.saveSync final root inode).2 = .ok file)
    (hbound : other.maxBytes = self.maxBytes) (hpoisoned : other.poisoned = false)
    (hstamp : other.commitStamp = none) :
    (other.loadSync (some file)).2 = .ok (some (merge (sortKeys root))) := by
  obtain ⟨snapshot, reopened, hcommit, -⟩ := saveSync_eq_ok h
  obtain ⟨hvalid, hfile, v, hread⟩ := commit_eq_ok hcommit
  have hv : v = merge (sortKeys root) := by
    obtain ⟨data, hdata, hrest⟩ := bind_eq_ok.1 hread
    obtain ⟨generation, -, hrest⟩ := bind_eq_ok.1 hrest
    cases hrest
    rw [hfile] at hdata
    exact canonicalDecode_rendered (finite_of_validateJsonTree hvalid) hdata
  unfold loadSync
  rw [hpoisoned, hstamp, hbound]
  simp only [Bool.false_eq_true, if_false, Option.isSome_none, hread]
  rw [hv]

/-- So does the store itself, after the barrier that its save asks for. -/
theorem loadSync_barriered [LawfulFloatText φ]
    (h : (self.saveSync final root inode).2 = .ok file) :
    (((self.saveSync final root inode).1.barrierSync φ (some file)).1.loadSync (some file)).2 =
      .ok (some (merge (sortKeys root))) := by
  obtain ⟨snapshot, reopened, hcommit, hself, hpoisoned⟩ := saveSync_eq_ok h
  obtain ⟨-, -, v, hread⟩ := commit_eq_ok hcommit
  have hcurrent : currentSnapshot φ (some file) self.maxBytes = .ok reopened := by
    rw [currentSnapshot, hread]
    rfl
  have hbarrier : ((self.saveSync final root inode).1.barrierSync φ (some file)).1 =
      { self with
        sequence := self.sequence + 1 + 1
        snapshot := some reopened
        saveReady := false
        commitStamp := none } := by
    rw [hself]
    unfold barrierSync
    simp [hpoisoned, hcurrent]
  rw [hbarrier]
  exact loadSync_saved h rfl hpoisoned rfl

/-- A load by a store with the same bound, or by the store itself after its barrier, returns a root,
which is the one that was saved exactly when no string or key of that one has a surrogate pair; and
what any bytes are decoded as is encoded as these bytes. -/
theorem loads_what_it_saves [LawfulFloatText φ] :
    (∀ (self other : CrashDurableReferenceJournalStore) (final : Option File) (root : PyValue φ)
      (inode : ℕ) (file : File), (self.saveSync final root inode).2 = .ok file →
      other.maxBytes = self.maxBytes → other.poisoned = false → other.commitStamp = none →
      ∃ v, (other.loadSync (some file)).2 = .ok (some v) ∧ (Same v root ↔ NoPairs root)) ∧
    (∀ (self : CrashDurableReferenceJournalStore) (final : Option File) (root : PyValue φ)
      (inode : ℕ) (file : File), (self.saveSync final root inode).2 = .ok file →
      ∃ v, (((self.saveSync final root inode).1.barrierSync φ (some file)).1.loadSync
        (some file)).2 = .ok (some v) ∧ (Same v root ↔ NoPairs root)) ∧
    ∀ (raw : Bytes) (n : ℕ) (v : PyValue φ), canonicalDecode raw n = .ok v →
      canonicalEncode v n = .ok raw := by
  refine ⟨fun self other final root inode file hsave hbound hpoisoned hstamp => ?_,
    fun self final root inode file hsave => ?_, fun raw n v h =>
      canonicalEncode_of_canonicalDecode h⟩
  · exact ⟨merge (sortKeys root), loadSync_saved hsave hbound hpoisoned hstamp,
      PyValue.same_merge_iff root⟩
  · exact ⟨merge (sortKeys root), loadSync_barriered hsave, PyValue.same_merge_iff root⟩

end CrashDurableReferenceJournalStore

/-! ## Two saves -/

namespace Sample

/-- The one float `0.0`. -/
scoped instance : FloatText Unit where
  isFinite _ := true
  repr _ := ['0', '.', '0']
  ofText _ := ()

scoped instance : LawfulFloatText Unit where
  literal _ _ := ⟨[], ['0'], ['.', '0'], [], rfl, .inl rfl, .inl rfl,
    .inr ⟨['0'], rfl, by decide, by simp [JsonValue.isDigit]⟩, .inl rfl, by decide⟩
  ofText_repr _ _ := rfl

/-- A store that found no file. -/
def emptyStore : CrashDurableReferenceJournalStore :=
  { maxBytes := 4096, snapshot := some {}, saveReady := true }

/-- A store that was just opened. -/
def openedStore : CrashDurableReferenceJournalStore := { maxBytes := 4096 }

/-- A root whose title is one code point beyond the basic plane. -/
def wholeRoot : PyValue Unit :=
  .obj [(PyText.ofString "title", .str [0x1f600]), (PyText.ofString "generation", .int 0)]

/-- A root whose title is the two surrogates of that code point. -/
def pairRoot : PyValue Unit :=
  .obj [(PyText.ofString "title", .str [0xd83d, 0xde00]), (PyText.ofString "generation", .int 0)]

def savedFile : File := ⟨7, rendered wholeRoot⟩

end Sample

namespace CrashDurableReferenceJournalStore

open Sample

/-- The title beyond the basic plane is loaded as it was saved. -/
theorem whole_root_loaded : ∃ v : PyValue Unit, (openedStore.loadSync (some savedFile)).2 =
    .ok (some v) ∧ Same v wholeRoot := by
  obtain ⟨v, hload, hsame⟩ := loads_what_it_saves.1 emptyStore openedStore none wholeRoot 7
    savedFile
    (by decide +kernel) rfl rfl rfl
  refine ⟨v, hload, hsame.2 ?_⟩
  unfold NoPairs PyValue.Unpaired
  decide

/-- The two surrogates are loaded as the one code point that they stand for. -/
theorem pair_root_changed :
    ¬ ∀ (self other : CrashDurableReferenceJournalStore) (final : Option File)
      (root : PyValue Unit) (inode : ℕ) (file : File),
      (self.saveSync final root inode).2 = .ok file → other.maxBytes = self.maxBytes →
      other.poisoned = false → other.commitStamp = none →
      ∃ v, (other.loadSync (some file)).2 = .ok (some v) ∧ Same v root := by
  intro hall
  have hsave : (emptyStore.saveSync none pairRoot 7).2 = .ok ⟨7, rendered pairRoot⟩ := by
    decide +kernel
  obtain ⟨v, hload, hsame⟩ := hall emptyStore openedStore none pairRoot 7 _ hsave rfl rfl rfl
  have hloaded : (openedStore.loadSync (some ⟨7, rendered pairRoot⟩)).2 =
    .ok (some (merge (sortKeys pairRoot))) := loadSync_saved hsave rfl rfl rfl
  rw [hloaded] at hload
  cases hload
  have hpairs := (PyValue.same_merge_iff pairRoot).1 hsame
  refine absurd hpairs ?_
  unfold NoPairs PyValue.Unpaired
  decide

end CrashDurableReferenceJournalStore

end TrueFamily.JournalFile
