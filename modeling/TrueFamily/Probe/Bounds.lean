import Mathlib.Algebra.Order.BigOperators.Group.List
import TrueFamily.Lib.JsonSize
import TrueFamily.Probe.Request

/-!
# Values within the limits of a message

`canonical_json` walks a value before it encodes it, with limits on the nodes, the depth, the texts
and the keys, and then limits the bytes. `Bounded` is what the parts of a value have to satisfy
for the whole to be encoded: it is closed under lists and dictionaries, whatever the order of the
keys.
-/

namespace TrueFamily.Probe

open Checked JsonValue TrueFamily.Preflight

/-! ## Bounded values -/

/-- At this depth the walk of the value succeeds and visits at most `count` nodes, and its canonical
text has at most `size` bytes. -/
structure Bounded (value : Value) (depth count size : ℕ) : Prop where
  walks : ∀ nodes, nodes + count ≤ maxProbeJsonNodes →
    ∃ walked, walk value depth nodes = .ok walked ∧ walked ≤ nodes + count
  visible : Everywhere VisibleTexts value
  size : sizeBound value ≤ size

theorem enterProbeNode_eq_ok {depth nodes : ℕ} (hnodes : nodes + 1 ≤ maxProbeJsonNodes)
    (hdepth : depth ≤ maxProbeJsonDepth) : enterProbeNode depth nodes = .ok (nodes + 1) := by
  simp only [enterProbeNode, bind_unit_eq_ok, check_eq_ok, pure_eq_ok]
  exact ⟨⟨hnodes, hdepth⟩, trivial⟩

section Leaves

variable {depth count size : ℕ}

theorem bounded_str {text : Text} (hdepth : depth ≤ maxProbeJsonDepth) (hcount : 1 ≤ count)
    (hlength : text.length ≤ maxJsonStringLength) (hvisible : Visible text)
    (hsize : 4 * text.length + 2 ≤ size) : Bounded (.str text) depth count size where
  walks nodes hnodes := by
    refine ⟨nodes + 1, ?_, by omega⟩
    simp only [walk, bind_eq_ok, exists_unit, check_eq_ok, pure_eq_ok]
    exact ⟨_, enterProbeNode_eq_ok (by omega) hdepth, hlength, rfl⟩
  visible := .mk hvisible fun child hmem => by cases hmem
  size := by rw [sizeBound]; exact hsize

theorem length_natText_le {n : ℕ} (h : n ≤ 9007199254740991) : (natText n).length ≤ 16 := by
  unfold natText
  split_ifs with hzero
  · exact (by decide : 1 ≤ 16)
  · rw [List.length_map, List.length_reverse]
    exact (Nat.digits_length_le_iff (by omega) n).2 (by omega)

theorem bounded_int {number : ℤ} (hdepth : depth ≤ maxProbeJsonDepth) (hcount : 1 ≤ count)
    (hsafe : 0 ≤ number ∧ number ≤ maxSafeInteger) (hsize : 16 ≤ size) :
    Bounded (.int number) depth count size where
  walks nodes hnodes := by
    refine ⟨nodes + 1, ?_, by omega⟩
    simp only [walk, bind_eq_ok, exists_unit, check_eq_ok, pure_eq_ok]
    refine ⟨_, enterProbeNode_eq_ok (by omega) hdepth, ?_, rfl⟩
    unfold maxSafeInteger at *
    omega
  visible := .mk trivial fun child hmem => by cases hmem
  size := by
    obtain ⟨n, rfl⟩ := Int.eq_ofNat_of_zero_le hsafe.1
    have hn : n ≤ 9007199254740991 := by
      have := hsafe.2
      unfold maxSafeInteger at this
      omega
    exact (length_natText_le hn).trans hsize

theorem bounded_bool {flag : Bool} (hdepth : depth ≤ maxProbeJsonDepth) (hcount : 1 ≤ count)
    (hsize : 5 ≤ size) : Bounded (.bool flag) depth count size where
  walks nodes hnodes :=
    ⟨nodes + 1, enterProbeNode_eq_ok (by omega) hdepth, by omega⟩
  visible := .mk trivial fun child hmem => by cases hmem
  size := hsize

theorem bounded_null (hdepth : depth ≤ maxProbeJsonDepth) (hcount : 1 ≤ count)
    (hsize : 4 ≤ size) : Bounded .null depth count size where
  walks nodes hnodes :=
    ⟨nodes + 1, enterProbeNode_eq_ok (by omega) hdepth, by omega⟩
  visible := .mk trivial fun child hmem => by cases hmem
  size := hsize

theorem bounded_empty (hdepth : depth ≤ maxProbeJsonDepth) (hcount : 1 ≤ count)
    (hsize : 2 ≤ size) : Bounded (.arr []) depth count size where
  walks nodes hnodes := by
    refine ⟨nodes + 1, ?_, by omega⟩
    rw [walk, enterProbeNode_eq_ok (by omega) hdepth]
    rfl
  visible := .mk trivial fun child hmem => by cases hmem
  size := hsize

end Leaves

/-! ## Lists and dictionaries -/

theorem walkItems_eq_ok {depth count : ℕ} {items : List Value}
    (h : ∀ item ∈ items, ∀ nodes, nodes + count ≤ maxProbeJsonNodes →
      ∃ walked, walk item depth nodes = .ok walked ∧ walked ≤ nodes + count) :
    ∀ nodes, nodes + items.length * count ≤ maxProbeJsonNodes →
      ∃ walked, walkItems items depth nodes = .ok walked
        ∧ walked ≤ nodes + items.length * count := by
  induction items with
  | nil => exact fun nodes _ => ⟨nodes, rfl, by simp⟩
  | cons item items ih =>
    intro nodes hnodes
    rw [List.length_cons, Nat.succ_mul] at *
    obtain ⟨middle, hitem, hmiddle⟩ := h item List.mem_cons_self nodes (by omega)
    obtain ⟨walked, hitems, hwalked⟩ :=
      ih (fun other hmem => h other (List.mem_cons_of_mem _ hmem)) middle (by omega)
    refine ⟨walked, ?_, by omega⟩
    rw [walkItems, hitem]
    exact hitems

/-- The nodes below a dictionary with these keys, where the value of a key has at most `count`. -/
def nodeCount (count : Text → ℕ) (keys : List Text) : ℕ := (keys.map count).sum

theorem walkEntries_eq_ok {depth : ℕ} {count : Text → ℕ} {entries : List (Text × Value)}
    (h : ∀ entry ∈ entries, entry.1.length ≤ 96 ∧
      ∀ nodes, nodes + count entry.1 ≤ maxProbeJsonNodes →
        ∃ walked, walk entry.2 depth nodes = .ok walked ∧ walked ≤ nodes + count entry.1) :
    ∀ nodes, nodes + nodeCount count (entries.map Prod.fst) ≤ maxProbeJsonNodes →
      ∃ walked, walkEntries entries depth nodes = .ok walked
        ∧ walked ≤ nodes + nodeCount count (entries.map Prod.fst) := by
  induction entries with
  | nil => exact fun nodes _ => ⟨nodes, rfl, Nat.le_add_right _ _⟩
  | cons entry entries ih =>
    intro nodes hnodes
    have hsum : nodeCount count ((entry :: entries).map Prod.fst)
        = count entry.1 + nodeCount count (entries.map Prod.fst) := rfl
    rw [hsum] at hnodes ⊢
    obtain ⟨hkey, hvalue⟩ := h entry List.mem_cons_self
    obtain ⟨middle, hitem, hmiddle⟩ := hvalue nodes (by omega)
    obtain ⟨walked, hentries, hwalked⟩ :=
      ih (fun other hmem => h other (List.mem_cons_of_mem _ hmem)) middle (by omega)
    refine ⟨walked, ?_, by omega⟩
    simp only [walkEntries, bind_eq_ok, exists_unit, check_eq_ok]
    exact ⟨hkey, middle, hitem, hentries⟩

theorem bounded_arr {items : List Value} {depth count size : ℕ}
    (hdepth : depth ≤ maxProbeJsonDepth)
    (h : ∀ item ∈ items, Bounded item (depth + 1) count size) :
    Bounded (.arr items) depth (1 + items.length * count) (items.length * (size + 1) + 2) where
  walks nodes hnodes := by
    obtain ⟨walked, hitems, hwalked⟩ :=
      walkItems_eq_ok (fun item hmem => (h item hmem).walks) (nodes + 1) (by omega)
    refine ⟨walked, ?_, by omega⟩
    rw [walk, enterProbeNode_eq_ok (by omega) hdepth]
    exact hitems
  visible := .mk trivial fun child hmem => (h child hmem).visible
  size := by
    have hitems : sizeItems items ≤ items.length * (size + 1) := by
      clear hdepth
      induction items with
      | nil => exact le_of_eq (by simp [sizeItems])
      | cons item items ih =>
        have hitem := (h item List.mem_cons_self).size
        have hrest := ih fun other hmem => h other (List.mem_cons_of_mem _ hmem)
        rw [sizeItems, List.length_cons, Nat.succ_mul]
        omega
    rw [sizeBound]
    omega

/-- The bytes of a dictionary with these keys, where the value of a key has at most `cost` bytes. -/
def dictSize (cost : Text → ℕ) (keys : List Text) : ℕ :=
  (keys.map fun key => 4 * key.length + 4 + cost key).sum + 2

/-- The text has no control characters. -/
def isVisible (text : Text) : Bool := text.all fun c => decide (0x20 ≤ c.toNat)

theorem isVisible_iff {text : Text} : isVisible text = true ↔ Visible text := by
  simp only [isVisible, List.all_eq_true, decide_eq_true_eq, Visible]

/-- A key that every limit lets pass. -/
def ShortKey (key : Text) : Prop := key.length ≤ 96 ∧ isVisible key = true

instance : DecidablePred ShortKey := fun _ => instDecidableAnd

theorem bounded_dict {entries : List (Text × Value)} {keys : List Text} {depth : ℕ}
    (count cost : Text → ℕ) (hdepth : depth ≤ maxProbeJsonDepth)
    (hperm : (entries.map Prod.fst).Perm keys) (hkeys : ∀ key ∈ keys, ShortKey key)
    (h : ∀ entry ∈ entries, Bounded entry.2 (depth + 1) (count entry.1) (cost entry.1)) :
    Bounded (.obj entries) depth (1 + nodeCount count keys) (dictSize cost keys) where
  walks nodes hnodes := by
    have hcount : nodeCount count (entries.map Prod.fst) = nodeCount count keys :=
      (hperm.map count).sum_eq
    rw [← hcount] at hnodes ⊢
    have hentries : ∀ entry ∈ entries, entry.1.length ≤ 96 ∧
        ∀ nodes, nodes + count entry.1 ≤ maxProbeJsonNodes →
          ∃ walked, walk entry.2 (depth + 1) nodes = .ok walked
            ∧ walked ≤ nodes + count entry.1 :=
      fun entry hmem => ⟨(hkeys entry.1 (hperm.mem_iff.1 (List.mem_map_of_mem hmem))).1,
        (h entry hmem).walks⟩
    obtain ⟨walked, hwalk, hwalked⟩ := walkEntries_eq_ok hentries (nodes + 1) (by omega)
    refine ⟨walked, ?_, by omega⟩
    rw [walk, enterProbeNode_eq_ok (by omega) hdepth]
    exact hwalk
  visible := by
    refine .mk (fun entry hmem => ?_) fun child hmem => ?_
    · exact isVisible_iff.1 (hkeys entry.1 (hperm.mem_iff.1 (List.mem_map_of_mem hmem))).2
    · obtain ⟨entry, hentry, rfl⟩ := List.mem_map.1 hmem
      exact (h entry hentry).visible
  size := by
    have hsum : ((entries.map Prod.fst).map fun key => 4 * key.length + 4 + cost key).sum
        = (keys.map fun key => 4 * key.length + 4 + cost key).sum := (hperm.map _).sum_eq
    have hentries : sizeEntries entries
        ≤ ((entries.map Prod.fst).map fun key => 4 * key.length + 4 + cost key).sum := by
      rw [sizeEntries_eq_sum, List.map_map]
      refine List.sum_le_sum fun entry hmem => ?_
      have := (h entry hmem).size
      simp only [Function.comp]
      omega
    rw [sizeBound, dictSize, ← hsum]
    omega

/-- A dictionary whose values have the same bound on their nodes. -/
theorem bounded_obj {entries : List (Text × Value)} {keys : List Text} {depth count : ℕ}
    (cost : Text → ℕ) (hdepth : depth ≤ maxProbeJsonDepth)
    (hperm : (entries.map Prod.fst).Perm keys) (hkeys : ∀ key ∈ keys, ShortKey key)
    (h : ∀ entry ∈ entries, Bounded entry.2 (depth + 1) count (cost entry.1)) :
    Bounded (.obj entries) depth (1 + keys.length * count) (dictSize cost keys) := by
  have hcount : nodeCount (fun _ => count) keys = keys.length * count := by
    rw [nodeCount, List.map_const', List.sum_replicate]
    rfl
  rw [← hcount]
  exact bounded_dict (fun _ => count) cost hdepth hperm hkeys h

/-- A bounded value is encoded. -/
theorem canonicalJsonText_eq_ok {value : Value} {count size maximumBytes : ℕ}
    (h : Bounded value 0 count size) (hcount : count ≤ maxProbeJsonNodes)
    (hsize : size ≤ maximumBytes) (hpositive : 0 < maximumBytes) :
    canonicalJsonText value maximumBytes = .ok (canonicalText value) := by
  obtain ⟨walked, hwalk, -⟩ := h.walks 0 (by omega)
  have hbytes := length_utf8_sortKeys h.visible
  have hbound := h.size
  simp only [canonicalJsonText, validateProbeTree, checkPositive, bind_eq_ok, exists_unit,
    check_eq_ok, pure_eq_ok]
  exact ⟨by exact_mod_cast hpositive, ⟨walked, hwalk, trivial⟩, (hbytes.trans hbound).trans hsize,
    trivial⟩

/-! ## Keys -/

/-- The value of a key that occurs once. -/
theorem lookup_of_mem {entries : List (Text × Value)} (hdistinct : (entries.map Prod.fst).Nodup)
    {entry : Text × Value} (hmem : entry ∈ entries) : entries.lookup entry.1 = some entry.2 := by
  induction entries with
  | nil => cases hmem
  | cons first entries ih =>
    rw [List.map_cons, List.nodup_cons] at hdistinct
    rw [List.lookup_cons]
    rcases List.mem_cons.1 hmem with rfl | hmem
    · rw [beq_self_eq_true]
    · have hne : entry.1 ≠ first.1 := by
        intro heq
        exact hdistinct.1 (heq ▸ List.mem_map_of_mem hmem)
      rw [beq_false_of_ne hne]
      exact ih hdistinct.2 hmem

/-- The keys that `_require_exact_fields` has found are the expected ones, when none is repeated. -/
theorem perm_keys {entries : List (Text × Value)} {names : List String}
    (hdistinct : (entries.map Prod.fst).Nodup) (hnames : (names.map chars).Nodup)
    (h : (∀ entry ∈ entries, ∃ name ∈ names, entry.1 = chars name)
      ∧ ∀ name ∈ names, ∃ entry ∈ entries, entry.1 = chars name) :
    (entries.map Prod.fst).Perm (names.map chars) := by
  rw [List.perm_ext_iff_of_nodup hdistinct hnames]
  intro key
  rw [List.mem_map, List.mem_map]
  constructor
  · rintro ⟨entry, hmem, rfl⟩
    obtain ⟨name, hname, heq⟩ := h.1 entry hmem
    exact ⟨name, hname, heq.symm⟩
  · rintro ⟨name, hname, rfl⟩
    obtain ⟨entry, hmem, heq⟩ := h.2 name hname
    exact ⟨entry, hmem, heq⟩

/-- What holds of the value of every expected key holds of every entry. -/
theorem forall_entries {entries : List (Text × Value)} {names : List String}
    {p : Text → Value → Prop} (hdistinct : (entries.map Prod.fst).Nodup)
    (hexact : ∀ entry ∈ entries, ∃ name ∈ names, entry.1 = chars name)
    (h : ∀ name ∈ names, p (chars name) (field entries name)) :
    ∀ entry ∈ entries, p entry.1 entry.2 := by
  intro entry hmem
  obtain ⟨name, hname, heq⟩ := hexact entry hmem
  have hfield : field entries name = entry.2 := by
    rw [field, ← heq, lookup_of_mem hdistinct hmem]
    rfl
  rw [heq, ← hfield]
  exact h name hname

/-! ## The texts of a pattern -/

theorem toNat_of_isLowerHex {c : Char} (h : isLowerHex c = true) : 0x20 ≤ c.toNat := by
  have hcases : ('0' ≤ c ∧ c ≤ '9') ∨ ('a' ≤ c ∧ c ≤ 'f') := by
    simpa [isLowerHex, isDigit] using h
  have hzero : ('0' : Char).toNat = 0x30 := rfl
  have hletter : ('a' : Char).toNat = 0x61 := rfl
  rcases hcases with ⟨hlow, -⟩ | ⟨hlow, -⟩
  · have : ('0' : Char).toNat ≤ c.toNat := hlow
    omega
  · have : ('a' : Char).toNat ≤ c.toNat := hlow
    omega

/-- A text that such a pattern matches is as long as the pattern and has no control characters. -/
theorem hexAfter_text {start : Text} {count : ℕ} {text : Text}
    (hstart : isVisible start = true) (h : hexAfter start count text = true) :
    text.length = start.length + count ∧ Visible text := by
  simp only [hexAfter, Bool.and_eq_true, decide_eq_true_eq, List.all_eq_true,
    List.isPrefixOf_iff_prefix] at h
  obtain ⟨⟨⟨rest, rfl⟩, hlength⟩, hdigits⟩ := h
  rw [List.drop_left] at hlength hdigits
  refine ⟨by rw [List.length_append, hlength], fun c hmem => ?_⟩
  rcases List.mem_append.1 hmem with hmem | hmem
  · exact isVisible_iff.1 hstart c hmem
  · exact toNat_of_isLowerHex (hdigits c hmem)

end TrueFamily.Probe
