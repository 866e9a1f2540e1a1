import Mathlib.Data.Char
import Mathlib.Data.List.Lex
import TrueFamily.Lib.Json
import TrueFamily.Lib.Sorting
import TrueFamily.Transaction.Values

/-!
# Raw values of the codec

What every encoder and decoder of the transaction records shares: the raw JSON values, the
errors with their field paths, dictionaries with an exact set of keys, and the comparison with
the canonical encoding that ends every decoder. A dictionary is an object whose entries stand in
the order of their keys, so dictionaries that are equal in Python are equal values here.
-/

namespace TrueFamily.Transaction

open Checked Sorting JsonValue

variable {φ : Type}

/-! ## Errors -/

/-- What an encoder or decoder raises: a `BridgeTransactionCodecError` at a field path, or what a
constructor raised besides a `TypeError` or `ValueError`. -/
inductive CodecError
  | codec (path detail : String)
  | raised (error : PyError)
  deriving DecidableEq, Repr

/-- `except (TypeError, ValueError) as err: raise _codec_error(path, str(err))`. -/
def codecError (path : String) : PyError → CodecError
  | .typeError message => .codec path message
  | .valueError message => .codec path message
  | error => .raised error

/-- `_require_dataclass`, and the call of a constructor in `_construct`. -/
def construct (path : String) (constructed : Except PyError Unit) : Except CodecError Unit :=
  match constructed with
  | .ok () => .ok ()
  | .error error => .error (codecError path error)

@[simp] theorem construct_eq_ok {path : String} {constructed : Except PyError Unit} :
    construct path constructed = .ok () ↔ constructed = .ok () := by
  unfold construct
  split <;> simp

/-! ## Dictionaries -/

/-- A dictionary display. -/
def dictOf (fields : List (String × JsonValue φ)) : JsonValue φ :=
  .obj (sortedBy Prod.fst (fields.map fun field => (field.1.toList, field.2)))

theorem dictOf_ne_null (fields : List (String × JsonValue φ)) : dictOf fields ≠ .null := by
  simp [dictOf]

/-- `_exact_dict`: a dictionary with exactly these keys. -/
def exactDict (value : JsonValue φ) (path : String) (keys : List String) :
    Except CodecError (List (Text × JsonValue φ)) :=
  match value with
  | .obj entries =>
    if entries.map Prod.fst = sortedBy id (keys.map String.toList) then .ok entries
    else .error (.codec path "has missing or unknown keys")
  | _ => .error (.codec path "must be a built-in dict")

/-- `raw[key]`, for a key that `_exact_dict` has found. -/
def entry (raw : List (Text × JsonValue φ)) (key : String) : JsonValue φ :=
  ((raw.find? fun entry => decide (entry.1 = key.toList)).map Prod.snd).getD .null

@[simp] theorem exactDict_eq_ok {value : JsonValue φ} {path : String} {keys : List String}
    {entries : List (Text × JsonValue φ)} :
    exactDict value path keys = .ok entries ↔
      value = .obj entries ∧ entries.map Prod.fst = sortedBy id (keys.map String.toList) := by
  cases value <;> simp only [exactDict, reduceCtorEq, false_and]
  split_ifs with h
  · simp only [Except.ok.injEq, JsonValue.obj.injEq]
    exact ⟨fun heq => ⟨heq, heq ▸ h⟩, fun heq => heq.1⟩
  · simp only [JsonValue.obj.injEq, false_iff, not_and]
    rintro rfl
    exact h

theorem toList_nodup {keys : List String} (h : keys.Nodup) : (keys.map String.toList).Nodup :=
  h.map fun _ _ heq => String.toList_inj.1 heq

/-- Sorting entries sorts their keys. -/
theorem map_fst_sortedBy (entries : List (Text × JsonValue φ)) :
    (sortedBy Prod.fst entries).map Prod.fst = sortedBy id (entries.map Prod.fst) := by
  have hperm : ((sortedBy Prod.fst entries).map Prod.fst).Perm
      (sortedBy id (entries.map Prod.fst)) :=
    ((perm_sortedBy _ _).map _).trans (perm_sortedBy _ _).symm
  refine hperm.eq_of_pairwise (fun a b _ _ hab hba => le_antisymm hab hba) ?_
    (pairwise_sortedBy id _)
  rw [List.pairwise_map]
  exact pairwise_sortedBy _ _

theorem entry_eq_of_mem {entries : List (Text × JsonValue φ)} (h : (entries.map Prod.fst).Nodup)
    {key : String} {value : JsonValue φ} (hmem : (key.toList, value) ∈ entries) :
    entry entries key = value := by
  unfold entry
  induction entries with
  | nil => cases hmem
  | cons entry entries ih =>
    rw [List.map_cons, List.nodup_cons] at h
    rw [List.find?_cons]
    rcases List.mem_cons.1 hmem with rfl | hrest
    · simp
    · have hne : entry.1 ≠ key.toList := fun heq =>
        h.1 (heq ▸ List.mem_map_of_mem hrest)
      rw [decide_eq_false hne]
      exact ih h.2 hrest

theorem mem_of_item {entries : List (Text × JsonValue φ)} {key : String}
    (hmem : key.toList ∈ entries.map Prod.fst) : (key.toList, entry entries key) ∈ entries := by
  unfold entry
  induction entries with
  | nil => cases hmem
  | cons entry entries ih =>
    rw [List.find?_cons]
    by_cases heq : entry.1 = key.toList
    · rw [decide_eq_true heq, ← heq]
      exact List.mem_cons_self
    · rw [decide_eq_false heq]
      rcases List.mem_cons.1 hmem with hhead | hrest
      · exact absurd hhead.symm heq
      · exact List.mem_cons_of_mem _ (ih hrest)

/-- A dictionary display is the dictionary with these keys and these values. -/
theorem obj_eq_dictOf_iff {fields : List (String × JsonValue φ)}
    {entries : List (Text × JsonValue φ)} (hnodup : (fields.map Prod.fst).Nodup) :
    JsonValue.obj entries = dictOf fields ↔
      entries.map Prod.fst = sortedBy id ((fields.map Prod.fst).map String.toList)
        ∧ ∀ field ∈ fields, entry entries field.1 = field.2 := by
  have hkeys : (fields.map fun field => (field.1.toList, field.2)).map Prod.fst
      = (fields.map Prod.fst).map String.toList := by
    rw [List.map_map, List.map_map]
    rfl
  have hnodupText := toList_nodup hnodup
  rw [dictOf, JsonValue.obj.injEq]
  constructor
  · rintro rfl
    have hsorted := map_fst_sortedBy (fields.map fun field => (field.1.toList, field.2))
    rw [hkeys] at hsorted
    refine ⟨hsorted, fun field hfield => ?_⟩
    refine entry_eq_of_mem ?_ ?_
    · rw [hsorted]
      exact (perm_sortedBy id _).nodup_iff.2 hnodupText
    · rw [mem_sortedBy]
      exact List.mem_map_of_mem hfield
  · rintro ⟨hsorted, hitems⟩
    have hentries : (entries.map Prod.fst).Nodup := by
      rw [hsorted]
      exact (perm_sortedBy id _).nodup_iff.2 hnodupText
    -- the same keys with the same values, so the same entries
    have hperm : entries.Perm (fields.map fun field => (field.1.toList, field.2)) := by
      refine (List.perm_ext_iff_of_nodup hentries.of_map ?_).2 fun entry => ?_
      · exact List.Nodup.of_map Prod.fst (hkeys ▸ hnodupText)
      · rw [List.mem_map]
        constructor
        · intro hmem
          have hkey : entry.1 ∈ (fields.map Prod.fst).map String.toList := by
            have hkey : entry.1 ∈ entries.map Prod.fst := List.mem_map_of_mem hmem
            rw [hsorted, mem_sortedBy] at hkey
            exact hkey
          rw [List.map_map, List.mem_map] at hkey
          obtain ⟨field, hfield, hfst⟩ := hkey
          have hentry : (field.1.toList, entry.2) ∈ entries := by
            rw [show field.1.toList = entry.1 from hfst]
            exact hmem
          have hitem := (hitems field hfield).symm.trans (entry_eq_of_mem hentries hentry)
          exact ⟨field, hfield, Prod.ext hfst hitem⟩
        · rintro ⟨field, hfield, rfl⟩
          have hkey : field.1.toList ∈ entries.map Prod.fst := by
            rw [hsorted, mem_sortedBy]
            exact List.mem_map_of_mem (List.mem_map_of_mem hfield)
          have hmem := mem_of_item hkey
          rw [hitems field hfield] at hmem
          exact hmem
    -- two sorted lists of the same entries are one list
    have hpairwise : entries.Pairwise fun a b => a.1 ≤ b.1 := by
      rw [← List.pairwise_map (f := Prod.fst) (R := (· ≤ ·)), hsorted]
      exact pairwise_sortedBy id _
    refine (hperm.trans (perm_sortedBy _ _).symm).eq_of_pairwise (fun a b ha hb hab hba => ?_)
      hpairwise (pairwise_sortedBy _ _)
    have hfst := le_antisymm hab hba
    have hb' := hperm.mem_iff.2 (mem_sortedBy.1 hb)
    exact List.inj_on_of_nodup_map hentries ha hb' hfst

/-- The field of a dictionary display. -/
theorem dictOf_item {fields : List (String × JsonValue φ)} (hnodup : (fields.map Prod.fst).Nodup)
    {key : String} {value : JsonValue φ} (hmem : (key, value) ∈ fields) :
    ∃ entries, dictOf fields = .obj entries ∧ entry entries key = value :=
  ⟨_, rfl, ((obj_eq_dictOf_iff hnodup).1 rfl).2 _ hmem⟩

end TrueFamily.Transaction
