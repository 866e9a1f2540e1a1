import TrueFamily.JournalFile.Loaded
import TrueFamily.JournalFile.Mountinfo

/-!
# The mount table is read back

The kernel's escapes leave the white space that it does not escape: a vertical tab, a form feed and
a carriage return. A carriage return always refuses the table; the other two cut a byte string into
words, which are read as the fields of another record. A table that is not refused is read exactly
when every byte string is `Plain` (`mountinfo_read_exactly_iff`).
-/

namespace TrueFamily.JournalFile

open Checked (bind_eq_ok)
open JsonValue (Text decodeAscii isDigit natText natOfText)
open Splitting

/-! ## Bytes -/

/-- The white space that the kernel does not escape. -/
def isVertical (byte : UInt8) : Bool := decide (byte = 0x0b ∨ byte = 0x0c ∨ byte = 0x0d)

theorem isGraphic_iff {byte : UInt8} :
    isGraphic byte = true ↔ 33 ≤ byte.toNat ∧ byte.toNat < 127 := by
  rw [isGraphic, decide_eq_true_iff, UInt8.le_iff_toNat_le, UInt8.lt_iff_toNat_lt]
  rfl

theorem isSpace_iff {byte : UInt8} :
    isSpace byte = true ↔ byte.toNat = 32 ∨ (9 ≤ byte.toNat ∧ byte.toNat ≤ 13) := by
  rw [isSpace, decide_eq_true_iff, UInt8.le_iff_toNat_le, UInt8.le_iff_toNat_le, ← UInt8.toNat_inj]
  rfl

theorem isVertical_iff {byte : UInt8} :
    isVertical byte = true ↔ byte.toNat = 11 ∨ byte.toNat = 12 ∨ byte.toNat = 13 := by
  rw [isVertical, decide_eq_true_iff, ← UInt8.toNat_inj, ← UInt8.toNat_inj, ← UInt8.toNat_inj]
  rfl

theorem isEscaped_iff {byte : UInt8} :
    isEscaped byte = true ↔
      byte.toNat = 32 ∨ byte.toNat = 9 ∨ byte.toNat = 10 ∨ byte.toNat = 92 := by
  rw [isEscaped, decide_eq_true_iff, ← UInt8.toNat_inj, ← UInt8.toNat_inj, ← UInt8.toNat_inj,
    ← UInt8.toNat_inj]
  rfl

theorem not_isSpace_of_isGraphic {byte : UInt8} (h : isGraphic byte = true) :
    isSpace byte = false := by
  rw [← Bool.not_eq_true, isSpace_iff]
  rw [isGraphic_iff] at h
  omega

theorem escapeByte_ne_nil (byte : UInt8) : escapeByte byte ≠ [] := by
  rw [escapeByte]
  split <;> simp

/-- A byte of an escape. -/
theorem escape_digits : ∀ byte : UInt8, isEscaped byte = true →
    (isOctal (0x30 + byte / 64) && isOctal (0x30 + byte / 8 % 8) &&
      isOctal (0x30 + byte % 8)) = true ∧
      octal (0x30 + byte / 64) (0x30 + byte / 8 % 8) (0x30 + byte % 8) = byte.toNat := by
  intro byte h
  have hcases : byte = 0x20 ∨ byte = 0x09 ∨ byte = 0x0a ∨ byte = 0x5c := of_decide_eq_true h
  rcases hcases with rfl | rfl | rfl | rfl <;> decide

theorem unescape_escape (value : Bytes) : unescape (escape value) = .ok value := by
  induction value with
  | nil => rfl
  | cons byte value ih =>
    rw [escape, List.flatMap_cons, escapeByte]
    split
    · rename_i hescaped
      obtain ⟨hoctal, hvalue⟩ := escape_digits byte hescaped
      simp only [List.cons_append, List.nil_append]
      rw [unescape.eq_def]
      dsimp only
      rw [if_neg (by decide), if_pos hoctal, hvalue, if_pos byte.toNat_lt]
      change (UInt8.ofNat byte.toNat :: ·) <$> unescape (escape value) = _
      rw [ih, UInt8.ofNat_toNat]
      rfl
    · rename_i hplain
      have hne : byte ≠ 0x5c := by
        rintro rfl
        exact hplain (by decide)
      rw [List.singleton_append, unescape.eq_def]
      dsimp only
      rw [if_pos hne]
      change (byte :: ·) <$> unescape (escape value) = _
      rw [ih]
      rfl

/-- What the kernel escapes is no white space, and it leaves the other white space. -/
theorem isSpace_escapeByte (byte : UInt8) :
    (isVertical byte = true → ∃ c, escapeByte byte = [c] ∧ isSpace c = true) ∧
      (isVertical byte = false → ∀ c ∈ escapeByte byte, isSpace c = false) := by
  constructor
  · intro h
    have hcases : byte = 0x0b ∨ byte = 0x0c ∨ byte = 0x0d := of_decide_eq_true h
    rcases hcases with rfl | rfl | rfl <;> exact ⟨_, rfl, by decide⟩
  · intro h
    rw [escapeByte]
    split
    · rename_i hescaped
      have hcases : byte = 0x20 ∨ byte = 0x09 ∨ byte = 0x0a ∨ byte = 0x5c :=
        of_decide_eq_true hescaped
      rcases hcases with rfl | rfl | rfl | rfl <;> simp [isSpace]
    · rename_i hplain
      intro c hc
      rw [List.mem_singleton] at hc
      subst hc
      rw [← Bool.not_eq_true, isVertical_iff] at h
      rw [isEscaped_iff] at hplain
      rw [← Bool.not_eq_true, isSpace_iff]
      omega

/-- The words of what is written of a byte string. -/
theorem words_escape (value : Bytes) :
    words isSpace (escape value) = (words isVertical value).map escape :=
  words_flatMap (fun byte => (isSpace_escapeByte byte).1) (fun byte => (isSpace_escapeByte byte).2)
    escapeByte_ne_nil value

/-- What is written of a byte string has no space and no newline. -/
theorem mem_escape {value : Bytes} {c : UInt8} (h : c ∈ escape value) :
    c ≠ 0x20 ∧ c ≠ 0x0a ∧ (c = 0x0d → c ∈ value) := by
  obtain ⟨byte, hbyte, hc⟩ := List.mem_flatMap.1 h
  rw [escapeByte] at hc
  split at hc
  · rename_i hescaped
    have hcases : byte = 0x20 ∨ byte = 0x09 ∨ byte = 0x0a ∨ byte = 0x5c :=
      of_decide_eq_true hescaped
    rcases hcases with rfl | rfl | rfl | rfl
    all_goals
      simp at hc
      rcases hc with rfl | rfl | rfl | rfl <;> simp
  · rename_i hplain
    rw [List.mem_singleton] at hc
    subst hc
    refine ⟨?_, ?_, fun _ => hbyte⟩ <;> rintro rfl <;> exact hplain (by decide)

/-! ## The separator -/

/-- Fields joined by spaces. -/
abbrev joinFields (fields : List Bytes) : Bytes := [0x20].intercalate fields

/-- No field holds a space. -/
def NoSpaces (fields : List Bytes) : Prop := ∀ field ∈ fields, (0x20 : UInt8) ∉ field

theorem joinFields_cons (field next : Bytes) (fields : List Bytes) :
    joinFields (field :: next :: fields) = field ++ 0x20 :: joinFields (next :: fields) := by
  rw [joinFields, List.intercalate_cons_cons, List.append_assoc, List.singleton_append]

theorem joinFields_append {fields others : List Bytes} (hfields : fields ≠ [])
    (hothers : others ≠ []) :
    joinFields (fields ++ others) = joinFields fields ++ 0x20 :: joinFields others := by
  induction fields with
  | nil => exact absurd rfl hfields
  | cons field fields ih =>
    cases fields with
    | nil =>
      obtain ⟨next, others, rfl⟩ := List.exists_cons_of_ne_nil hothers
      rw [List.singleton_append, joinFields_cons, joinFields, joinFields,
        List.intercalate_singleton]
    | cons next fields =>
      rw [List.cons_append, List.cons_append, joinFields_cons, joinFields_cons,
        ← List.cons_append, ih (by simp), List.append_assoc, List.cons_append]

/-- A byte within a field ends the fields before it and begins those after it. -/
theorem joinFields_within (byte : UInt8) (before after : Bytes) (others : List Bytes) :
    ∀ fields : List Bytes, joinFields (fields ++ (before ++ byte :: after) :: others) =
      joinFields (fields ++ [before]) ++ byte :: joinFields (after :: others)
  | [] => by
    cases others with
    | nil => simp only [joinFields, List.nil_append, List.intercalate_singleton]
    | cons next others =>
      have hsingle : joinFields [before] = before := List.intercalate_singleton
      rw [List.nil_append, List.nil_append, joinFields_cons, joinFields_cons, hsingle,
        List.append_assoc, List.cons_append]
  | [field] => by
    rw [List.singleton_append, List.singleton_append, joinFields_cons, joinFields_cons,
      show (before ++ byte :: after) :: others = [] ++ (before ++ byte :: after) :: others from rfl,
      joinFields_within byte before after others [], List.append_assoc, List.cons_append]
    rfl
  | field :: next :: fields => by
    have ih := joinFields_within byte before after others (next :: fields)
    rw [List.cons_append, List.cons_append] at ih
    rw [List.cons_append, List.cons_append, List.cons_append, List.cons_append, joinFields_cons, ih,
      joinFields_cons, List.append_assoc, List.cons_append]

/-- The separator begins at a space only before a dash that is a whole field. -/
theorem not_separator {field : Bytes} {text : Bytes} (hspace : (0x20 : UInt8) ∉ field)
    (hdash : field ≠ [0x2d]) (htext : text = [] ∨ ∃ rest, text = 0x20 :: rest) :
    ¬ separator <+: 0x20 :: (field ++ text) := by
  intro h
  have htail := (List.cons_prefix_cons.1 h).2
  match field with
  | [] =>
    rcases htext with rfl | ⟨rest, rfl⟩
    · exact absurd (List.prefix_nil.1 htail) (by decide)
    · exact absurd (List.cons_prefix_cons.1 htail).1 (by decide)
  | [c] =>
    have hc := (List.cons_prefix_cons.1 htail).1
    exact hdash (by rw [← hc])
  | c :: d :: rest =>
    have hd := (List.cons_prefix_cons.1 (List.cons_prefix_cons.1 htail).2).1
    exact hspace (by rw [← hd]; simp)

theorem find_separator_skip {field : Bytes} (hspace : (0x20 : UInt8) ∉ field) (rest : Bytes) :
    find separator (field ++ rest) = (find separator rest).map fun i => field.length + i :=
  find_skip rest hspace

theorem find_separator_step {text : Bytes} (h : ¬ separator <+: 0x20 :: text) :
    find separator (0x20 :: text) = (find separator text).map (· + 1) := if_neg h

/-- The first dash among the fields separates them. -/
theorem find_separator_dash (first : Bytes) (fields right : List Bytes) (hright : right ≠ [])
    (hspaces : NoSpaces (first :: fields)) (hdash : [0x2d] ∉ fields) :
    find separator (joinFields (first :: (fields ++ [0x2d] :: right))) =
      some (joinFields (first :: fields)).length := by
  induction fields generalizing first with
  | nil =>
    obtain ⟨next, right, rfl⟩ := List.exists_cons_of_ne_nil hright
    rw [List.nil_append, joinFields_cons, joinFields_cons,
      find_separator_skip (hspaces first List.mem_cons_self)]
    have hfound : find separator (0x20 :: ([0x2d] ++ 0x20 :: joinFields (next :: right))) =
        some 0 :=
      if_pos (List.prefix_append separator (joinFields (next :: right)))
    rw [hfound, joinFields, List.intercalate_singleton]
    rfl
  | cons field fields ih =>
    obtain ⟨hfirst, hfields⟩ := List.forall_mem_cons.1 hspaces
    rw [List.mem_cons, not_or] at hdash
    have htext : ∃ text, joinFields (field :: (fields ++ [0x2d] :: right)) = field ++ text ∧
        (text = [] ∨ ∃ rest, text = 0x20 :: rest) := by
      cases hfields' : fields ++ [0x2d] :: right with
      | nil => simp at hfields'
      | cons next others => exact ⟨_, joinFields_cons field next others, Or.inr ⟨_, rfl⟩⟩
    obtain ⟨text, htext, hhead⟩ := htext
    have hnot := not_separator (hfields field List.mem_cons_self) (Ne.symm hdash.1) hhead
    rw [← htext] at hnot
    rw [List.cons_append, joinFields_cons, find_separator_skip hfirst, find_separator_step hnot,
      ih field hfields hdash.2, joinFields_cons, List.length_append, List.length_cons]
    rfl

/-- Without a dash between two fields there is no separator. -/
theorem find_separator_none (first : Bytes) (fields : List Bytes)
    (hspaces : NoSpaces (first :: fields)) (hdash : [0x2d] ∉ fields.dropLast) :
    find separator (joinFields (first :: fields)) = none := by
  have hlast : ∀ field : Bytes, (0x20 : UInt8) ∉ field → find separator field = none := by
    intro field hfield
    have hskip := find_separator_skip hfield []
    rwa [List.append_nil] at hskip
  induction fields generalizing first with
  | nil =>
    rw [joinFields, List.intercalate_singleton]
    exact hlast first (hspaces first List.mem_cons_self)
  | cons field fields ih =>
    obtain ⟨hfirst, hfields⟩ := List.forall_mem_cons.1 hspaces
    rw [joinFields_cons, find_separator_skip hfirst]
    cases fields with
    | nil =>
      have hfield := hfields field List.mem_cons_self
      have hnot : ¬ separator <+: 0x20 :: field := by
        intro h
        have hmem := (List.cons_prefix_cons.1 h).2.subset (a := 0x20) (by simp)
        exact hfield hmem
      rw [joinFields, List.intercalate_singleton, find_separator_step hnot, hlast field hfield]
      rfl
    | cons next fields =>
      rw [List.dropLast_cons_cons, List.mem_cons, not_or] at hdash
      have hnot := not_separator (hfields field List.mem_cons_self) (Ne.symm hdash.1)
        (Or.inr ⟨joinFields (next :: fields), rfl⟩)
      rw [← joinFields_cons] at hnot
      rw [find_separator_step hnot, ih field hfields hdash.2]
      rfl

/-! ## Lines -/

theorem splitlines_plain {byte : UInt8} (h : byte ≠ 0x0a ∧ byte ≠ 0x0d) (rest : Bytes) :
    splitlines (byte :: rest) =
      match splitlines rest with
      | [] => [[byte]]
      | line :: lines => (byte :: line) :: lines := by
  rw [splitlines]
  · exact if_neg (not_or.2 h)
  · rintro _ rfl _
    exact h.2 rfl

theorem splitlines_newline (rest : Bytes) : splitlines (0x0a :: rest) = [] :: splitlines rest := by
  rw [splitlines]
  · exact if_pos (Or.inl rfl)
  · rintro _ h _
    exact absurd h (by decide)

theorem splitlines_return {rest : Bytes} (h : ∀ tail, rest ≠ 0x0a :: tail) :
    splitlines (0x0d :: rest) = [] :: splitlines rest := by
  rw [splitlines]
  · exact if_pos (Or.inr rfl)
  · rintro tail _ rfl
    exact h tail rfl

/-- A line without a line end is read up to its newline. -/
theorem splitlines_line {line : Bytes} (h : ∀ byte ∈ line, byte ≠ 0x0a ∧ byte ≠ 0x0d)
    (rest : Bytes) : splitlines (line ++ 0x0a :: rest) = line :: splitlines rest := by
  induction line with
  | nil => exact splitlines_newline rest
  | cons byte line ih =>
    obtain ⟨hbyte, hline⟩ := List.forall_mem_cons.1 h
    rw [List.cons_append, splitlines_plain hbyte, ih hline]

/-- What stands before a carriage return is a line. -/
theorem mem_splitlines_before {line : Bytes} (h : ∀ byte ∈ line, byte ≠ 0x0a ∧ byte ≠ 0x0d)
    (rest : Bytes) : line ∈ splitlines (line ++ 0x0d :: rest) := by
  have hhead : ∃ lines, splitlines (line ++ 0x0d :: rest) = line :: lines := by
    induction line with
    | nil =>
      by_cases hrest : ∃ tail, rest = 0x0a :: tail
      · obtain ⟨tail, rfl⟩ := hrest
        exact ⟨splitlines tail, by rw [List.nil_append, splitlines]⟩
      · exact ⟨splitlines rest, splitlines_return fun tail h => hrest ⟨tail, h⟩⟩
    | cons byte line ih =>
      obtain ⟨hbyte, hline⟩ := List.forall_mem_cons.1 h
      obtain ⟨lines, hlines⟩ := ih hline
      exact ⟨lines, by rw [List.cons_append, splitlines_plain hbyte, hlines]⟩
  obtain ⟨lines, hlines⟩ := hhead
  rw [hlines]
  exact List.mem_cons_self

/-- What stands between a carriage return and a newline is a line. -/
theorem mem_splitlines_after {line : Bytes} (h : ∀ byte ∈ line, byte ≠ 0x0a ∧ byte ≠ 0x0d)
    (hne : line ≠ []) (rest : Bytes) : ∀ text : Bytes, (∀ byte ∈ text, byte ≠ 0x0a) →
    line ∈ (splitlines (text ++ 0x0d :: (line ++ 0x0a :: rest))).tail
  | [], _ => by
    obtain ⟨byte, line, rfl⟩ := List.exists_cons_of_ne_nil hne
    rw [List.nil_append, splitlines_return, splitlines_line h]
    · simp
    · intro tail heq
      cases heq
      exact (h 0x0a List.mem_cons_self).1 rfl
  | byte :: text, htext => by
    obtain ⟨hbyte, htext⟩ := List.forall_mem_cons.1 htext
    have ih := mem_splitlines_after h hne rest text htext
    rw [List.cons_append]
    by_cases hreturn : byte = 0x0d
    · subst hreturn
      rw [splitlines_return]
      · exact List.mem_of_mem_tail ih
      · intro tail heq
        cases text with
        | nil => cases heq
        | cons c text =>
          cases heq
          exact htext 0x0a (by simp) rfl
    · rw [splitlines_plain ⟨hbyte, hreturn⟩]
      cases hlines : splitlines (text ++ 0x0d :: (line ++ 0x0a :: rest)) with
      | nil =>
        rw [hlines] at ih
        cases ih
      | cons first lines =>
        rw [hlines] at ih
        exact ih

/-- Lines before a newline are split off. -/
theorem splitlines_append (rest : Bytes) : ∀ text : Bytes,
    splitlines (text ++ 0x0a :: rest) = splitlines (text ++ [0x0a]) ++ splitlines rest
  | [] => by
    rw [List.nil_append, List.nil_append, splitlines_newline, splitlines_newline]
    rfl
  | [byte] => by
    by_cases hreturn : byte = 0x0d
    · subst hreturn
      rfl
    · by_cases hnewline : byte = 0x0a
      · subst hnewline
        simp only [List.singleton_append, splitlines_newline]
        rfl
      · simp only [List.singleton_append, splitlines_plain ⟨hnewline, hreturn⟩, splitlines_newline]
        rfl
  | byte :: next :: text => by
    have ih := splitlines_append rest (next :: text)
    have ihtail := splitlines_append rest text
    rw [List.cons_append, List.cons_append (a := byte)]
    by_cases hreturn : byte = 0x0d
    · subst hreturn
      -- a return and a newline end one line together
      by_cases hnext : next = 0x0a
      · subst hnext
        rw [List.cons_append, List.cons_append, splitlines, splitlines, ihtail]
        rfl
      · rw [splitlines_return, splitlines_return, ih]
        · rfl
        · intro tail heq
          cases heq
          exact hnext rfl
        · intro tail heq
          cases heq
          exact hnext rfl
    · by_cases hnewline : byte = 0x0a
      · subst hnewline
        rw [splitlines_newline, splitlines_newline, ih]
        rfl
      · rw [splitlines_plain ⟨hnewline, hreturn⟩, splitlines_plain ⟨hnewline, hreturn⟩, ih]
        -- the byte joins the first line of what follows
        cases hlines : splitlines (next :: text ++ [0x0a]) with
        | nil =>
          have hne : splitlines (next :: text ++ [0x0a]) ≠ [] := by
            rw [List.cons_append, splitlines.eq_def]
            split
            · rename_i heq
              cases heq
            · simp
            · split
              · simp
              · split <;> simp
          exact absurd hlines hne
        | cons line lines => rfl

/-! ## The fields of a record -/

theorem words_of_graphic {field : Bytes} (h : Graphic field) : words isSpace field = [field] :=
  words_eq_singleton (fun byte hbyte => not_isSpace_of_isGraphic (h.2 byte hbyte)) h.1

theorem graphic_intercalate {options : List Bytes} (hne : options ≠ [])
    (h : ∀ option ∈ options, Graphic option) : Graphic (joinOptions options) := by
  induction options with
  | nil => exact absurd rfl hne
  | cons option options ih =>
    obtain ⟨hoption, hrest⟩ := List.forall_mem_cons.1 h
    cases options with
    | nil =>
      rw [joinOptions, List.intercalate_singleton]
      exact hoption
    | cons next options =>
      have htail := ih (by simp) hrest
      rw [joinOptions, List.intercalate_cons_cons]
      refine ⟨by simp [hoption.1], ?_⟩
      simp only [List.append_assoc, List.forall_mem_append, List.forall_mem_singleton]
      exact ⟨hoption.2, by decide, htail.2⟩

/-- The characters of a whole number are digits. -/
theorem isDigit_of_isWhole {text : Text} (h : JsonValue.IsWhole text) :
    ∀ c ∈ text, isDigit c = true := by
  rcases h with rfl | ⟨d, digits, rfl, hd, hdigits⟩
  · simp [isDigit]
  · rw [List.forall_mem_cons]
    refine ⟨?_, hdigits⟩
    unfold isDigit
    rw [decide_eq_true_iff]
    exact ⟨Char.le_trans (show '0' ≤ '1' by decide) hd.1, hd.2⟩

theorem graphic_decimal (n : ℕ) : Graphic (decimal n) ∧ decimal n ≠ [0x2d] := by
  have hwhole := JsonValue.isWhole_natText n
  have hbytes : ∀ byte ∈ decimal n, 48 ≤ byte.toNat ∧ byte.toNat ≤ 57 := by
    intro byte hbyte
    obtain ⟨c, hc, rfl⟩ := List.mem_map.1 hbyte
    have hdigit := isDigit_of_isWhole hwhole c hc
    unfold isDigit at hdigit
    rw [decide_eq_true_iff] at hdigit
    have hlow : 48 ≤ c.toNat := hdigit.1
    have hhigh : c.toNat ≤ 57 := hdigit.2
    rw [UInt8.toNat_ofNat']
    omega
  refine ⟨⟨?_, fun byte hbyte => ?_⟩, fun heq => ?_⟩
  · rw [decimal, encodeAscii, ne_eq, List.map_eq_nil_iff]
    rcases hwhole with heq | ⟨c, digits, heq, _⟩ <;> simp [heq]
  · have hrange := hbytes byte hbyte
    rw [isGraphic_iff]
    omega
  · have hrange := hbytes 0x2d (by rw [heq]; simp)
    exact absurd hrange.1 (by decide)

/-! ## Line ends -/

theorem mem_joinFields {byte : UInt8} {fields : List Bytes} (h : byte ∈ joinFields fields) :
    byte = 0x20 ∨ ∃ field ∈ fields, byte ∈ field := by
  induction fields with
  | nil => simp [joinFields] at h
  | cons field fields ih =>
    cases fields with
    | nil =>
      rw [joinFields, List.intercalate_singleton] at h
      exact Or.inr ⟨field, List.mem_cons_self, h⟩
    | cons next fields =>
      rw [joinFields_cons, List.mem_append, List.mem_cons] at h
      rcases h with h | h | h
      · exact Or.inr ⟨field, List.mem_cons_self, h⟩
      · exact Or.inl h
      · rcases ih h with h | ⟨other, hother, h⟩
        · exact Or.inl h
        · exact Or.inr ⟨other, List.mem_cons_of_mem _ hother, h⟩

/-- The bytes of joined fields, when none of a field is a line end. -/
theorem joinFields_no_ends {fields : List Bytes}
    (h : ∀ field ∈ fields, ∀ byte ∈ field, byte ≠ 0x0a ∧ byte ≠ 0x0d) :
    ∀ byte ∈ joinFields fields, byte ≠ 0x0a ∧ byte ≠ 0x0d := by
  intro byte hbyte
  rcases mem_joinFields hbyte with rfl | ⟨field, hfield, hmem⟩
  · decide
  · exact h field hfield byte hmem

theorem graphic_no_ends {field : Bytes} (h : Graphic field) :
    ∀ byte ∈ field, byte ≠ 0x0a ∧ byte ≠ 0x0d := by
  intro byte hbyte
  have hgraphic := h.2 byte hbyte
  rw [isGraphic_iff] at hgraphic
  constructor <;> rintro rfl <;> exact absurd hgraphic.1 (by decide)

theorem escape_no_ends {value : Bytes} (h : (0x0d : UInt8) ∉ value) :
    ∀ byte ∈ escape value, byte ≠ 0x0a ∧ byte ≠ 0x0d := by
  intro byte hbyte
  obtain ⟨-, hnewline, hreturn⟩ := mem_escape hbyte
  refine ⟨hnewline, ?_⟩
  rintro rfl
  exact h (hreturn rfl)

theorem escape_return (before after : Bytes) :
    escape (before ++ 0x0d :: after) = escape before ++ 0x0d :: escape after := by
  rw [escape, List.flatMap_append, List.flatMap_cons]
  rfl

namespace KernelMount

variable (mount : KernelMount)

/-- The words before the separator. -/
def leftWords : List Bytes :=
  decimal mount.mountId :: decimal mount.parentMountId :: mount.device ::
    ((words isVertical mount.root).map escape ++ ((words isVertical mount.mountPoint).map escape ++
      joinOptions mount.options :: mount.optionalFields))

/-- The words after the separator. -/
def rightWords : List Bytes :=
  mount.filesystemType ::
    ((words isVertical mount.source).map escape ++ [joinOptions mount.superOptions])

theorem graphic_options : Graphic (joinOptions mount.options) :=
  graphic_intercalate mount.options_ne_nil fun option h => (mount.options_graphic option h).1

theorem graphic_super : Graphic (joinOptions mount.superOptions) :=
  graphic_intercalate mount.super_ne_nil fun option h => (mount.super_graphic option h).1

theorem words_left : words isSpace (joinFields mount.left) = mount.leftWords := by
  have hall : ∀ fields : List Bytes, (∀ field ∈ fields, Graphic field) →
      fields.flatMap (words isSpace) = fields := by
    intro fields hfields
    induction fields with
    | nil => rfl
    | cons field fields ih =>
      obtain ⟨hfield, hrest⟩ := List.forall_mem_cons.1 hfields
      rw [List.flatMap_cons, words_of_graphic hfield, ih hrest]
      rfl
  have hoptional := hall mount.optionalFields fun field h => (mount.optional_graphic field h).1
  rw [joinFields, words_intercalate (by decide), left, leftWords]
  simp only [List.flatMap_cons, words_of_graphic (graphic_decimal _).1,
    words_of_graphic mount.device_graphic.1, words_escape, words_of_graphic mount.graphic_options,
    hoptional, List.singleton_append]

theorem words_right : words isSpace (joinFields mount.right) = mount.rightWords := by
  rw [joinFields, words_intercalate (by decide), right, rightWords]
  simp only [List.flatMap_cons, words_of_graphic mount.type_graphic, words_escape,
    words_of_graphic mount.graphic_super, List.singleton_append, List.flatMap_nil,
    List.append_nil]

theorem not_mem_of_graphic {field : Bytes} (h : Graphic field) : (0x20 : UInt8) ∉ field :=
  fun hmem => absurd (h.2 _ hmem) (by decide)

theorem noSpaces_left : NoSpaces mount.left := by
  have hescape : ∀ value : Bytes, (0x20 : UInt8) ∉ escape value := fun value h =>
    (mem_escape h).1 rfl
  simp only [NoSpaces, left, List.forall_mem_cons]
  exact ⟨not_mem_of_graphic (graphic_decimal _).1, not_mem_of_graphic (graphic_decimal _).1,
    not_mem_of_graphic mount.device_graphic.1, hescape _, hescape _,
    not_mem_of_graphic mount.graphic_options,
    fun field h => not_mem_of_graphic (mount.optional_graphic field h).1⟩

/-- A byte string or the options are a single dash. -/
def Dashed : Prop :=
  escape mount.root = [0x2d] ∨ escape mount.mountPoint = [0x2d] ∨ joinOptions mount.options = [0x2d]

/-- A byte string holds a carriage return. -/
def Returns : Prop :=
  (0x0d : UInt8) ∈ mount.root ∨ (0x0d : UInt8) ∈ mount.mountPoint ∨ (0x0d : UInt8) ∈ mount.source

variable {mount}

theorem left_no_ends (hroot : (0x0d : UInt8) ∉ mount.root)
    (hpoint : (0x0d : UInt8) ∉ mount.mountPoint) :
    ∀ field ∈ mount.left, ∀ byte ∈ field, byte ≠ 0x0a ∧ byte ≠ 0x0d := by
  simp only [left, List.forall_mem_cons]
  exact ⟨graphic_no_ends (graphic_decimal _).1, graphic_no_ends (graphic_decimal _).1,
    graphic_no_ends mount.device_graphic.1, escape_no_ends hroot, escape_no_ends hpoint,
    graphic_no_ends mount.graphic_options,
    fun field h => graphic_no_ends (mount.optional_graphic field h).1⟩

/-- Without carriage returns the line ends at its newline. -/
theorem line_no_ends (h : ¬ mount.Returns) : ∀ byte ∈ mount.line, byte ≠ 0x0a ∧ byte ≠ 0x0d := by
  rw [Returns, not_or, not_or] at h
  refine joinFields_no_ends ?_
  simp only [List.forall_mem_append, List.forall_mem_cons, right]
  exact ⟨left_no_ends h.1 h.2.1, ⟨by decide, by simp⟩, graphic_no_ends mount.type_graphic,
    escape_no_ends h.2.2, graphic_no_ends mount.graphic_super, by simp⟩

variable [FsDecode] {records : List MountRecord}

/-- A line is read as its words, when no dash comes before the separator. -/
theorem readLine_line (h : ¬ mount.Dashed) : readLine records mount.line =
    (fun record => records ++ [record]) <$>
      readRecord records mount.leftWords mount.rightWords := by
  have hdash : [0x2d] ∉ mount.left.tail := by
    rw [Dashed, not_or, not_or] at h
    simp only [left, List.tail_cons, List.mem_cons, not_or]
    exact ⟨Ne.symm (graphic_decimal _).2, Ne.symm mount.device_graphic.2, Ne.symm h.1,
      Ne.symm h.2.1, Ne.symm h.2.2, fun hmem => (mount.optional_graphic _ hmem).2 rfl⟩
  have hcons : mount.left = decimal mount.mountId :: mount.left.tail := rfl
  have hspaces := mount.noSpaces_left
  rw [hcons] at hspaces
  have hfind := find_separator_dash _ mount.left.tail mount.right (by simp [right]) hspaces hdash
  rw [← List.cons_append, ← hcons] at hfind
  have hline : mount.line = joinFields mount.left ++ (separator ++ joinFields mount.right) := by
    rw [line, ← joinFields, joinFields_append (by simp [left]) (by simp), right, joinFields_cons]
    rfl
  rw [readLine, show find separator mount.line = _ from hfind]
  dsimp only
  have htake : mount.line.take (joinFields mount.left).length = joinFields mount.left := by
    rw [hline, List.take_left]
  have hdrop : mount.line.drop ((joinFields mount.left).length + 3) = joinFields mount.right := by
    rw [hline, ← List.append_assoc]
    exact List.drop_left' (by rw [List.length_append]; rfl)
  rw [htake, hdrop, words_left, words_right]
  cases readRecord records mount.leftWords mount.rightWords <;> rfl

end KernelMount

/-! ## Reading a record -/

theorem decodeAsciiMountValue_eq_ok {value : Bytes} {text : Text} :
    decodeAsciiMountValue value = .ok text ↔ Graphic value ∧ text = decodeAscii value := by
  rw [decodeAsciiMountValue]
  split
  · rename_i hvalue
    rw [List.all_eq_true] at hvalue
    rw [Except.ok.injEq, eq_comm]
    exact (and_iff_right hvalue).symm
  · rename_i hvalue
    rw [List.all_eq_true] at hvalue
    exact iff_of_false nofun fun h => hvalue h.1

theorem mapM_decodeAsciiMountValue {values : List Bytes} {texts : List Text} :
    values.mapM decodeAsciiMountValue = .ok texts ↔
      (∀ value ∈ values, Graphic value) ∧ texts = values.map decodeAscii := by
  induction values generalizing texts with
  | nil => exact ⟨fun h => ⟨fun _ hmem => absurd hmem List.not_mem_nil, (Except.ok.inj h).symm⟩,
      fun h => congrArg Except.ok h.2.symm⟩
  | cons value values ih =>
    simp only [List.mapM_cons, bind_eq_ok, decodeAsciiMountValue_eq_ok, ih, List.forall_mem_cons,
      List.map_cons]
    constructor
    · rintro ⟨_, ⟨hvalue, rfl⟩, _, ⟨hvalues, rfl⟩, h⟩
      exact ⟨⟨hvalue, hvalues⟩, (Except.ok.inj h).symm⟩
    · rintro ⟨⟨hvalue, hvalues⟩, rfl⟩
      exact ⟨_, ⟨hvalue, rfl⟩, _, ⟨hvalues, rfl⟩, rfl⟩

/-- The checks of `_mount_options`: the options are not empty and graphic, and no option repeats. -/
def OptionsValid (value : Bytes) : Prop :=
  (∀ option ∈ pieces isComma value, Graphic option) ∧
    ((pieces isComma value).map decodeAscii).Nodup

theorem mountOptions_eq_ok {value : Bytes} {texts : List Text} : mountOptions value = .ok texts ↔
    OptionsValid value ∧ texts = (pieces isComma value).map decodeAscii := by
  simp only [mountOptions, bind_eq_ok, mapM_decodeAsciiMountValue, OptionsValid]
  constructor
  · rintro ⟨_, ⟨hgraphic, rfl⟩, h⟩
    split at h
    · rename_i hnodup
      exact ⟨⟨hgraphic, hnodup⟩, (Except.ok.inj h).symm⟩
    · cases h
  · rintro ⟨⟨hgraphic, hnodup⟩, rfl⟩
    exact ⟨_, ⟨hgraphic, rfl⟩, if_pos hnodup⟩

theorem mountOptions_join {options : List Bytes} {texts : List Text} (hne : options ≠ [])
    (hoptions : ∀ option ∈ options, (0x2c : UInt8) ∉ option)
    (h : mountOptions (joinOptions options) = .ok texts) : texts = options.map decodeAscii := by
  have hcomma : ∀ option ∈ options, ∀ byte ∈ option, isComma byte = false := by
    intro option hoption byte hbyte
    refine decide_eq_false fun heq => ?_
    rw [heq] at hbyte
    exact hoptions option hoption hbyte
  have htexts := (mountOptions_eq_ok.1 h).2
  rwa [joinOptions, pieces_intercalate (by decide) hne hcomma] at htexts

/-- The check of a mount ID: `int` reads it, and it is positive. -/
def IdValid (id : ℕ) : Prop := (decimal id).length ≤ maxStrDigits ∧ id ≠ 0

theorem mountId_decimal {n id : ℕ} :
    mountId (decimal n) = .ok id ↔ (decimal n).length ≤ maxStrDigits ∧ id = n := by
  have hback : decodeAscii (decimal n) = natText n :=
    decodeAscii_encodeAscii (JsonValue.printable_natText n)
  have hdigits : decimal n ≠ [] ∧ (natText n).all isDigit = true :=
    ⟨(graphic_decimal n).1.1, List.all_eq_true.2 fun _ h => isDigit_of_isWhole
      (JsonValue.isWhole_natText n) _ h⟩
  rw [mountId, hback, if_pos hdigits, JsonValue.natOfText_natText]
  split
  · rename_i hlong
    exact iff_of_false nofun fun h => absurd h.1 (not_le.2 hlong)
  · rename_i hshort
    rw [Except.ok.injEq, eq_comm]
    exact (and_iff_right (not_lt.1 hshort)).symm

section Record

variable [FsDecode] {records : List MountRecord} {left right : List Bytes} {record : MountRecord}

/-- When a record is read, and what from. -/
theorem readRecord_eq_ok : readRecord records left right = .ok record ↔
    ∃ id parent device root mountPoint options optional type source superOptions,
      left = id :: parent :: device :: root :: mountPoint :: options :: optional ∧
      right = [type, source, superOptions] ∧ mountId id = .ok record.mountId ∧
      mountId parent = .ok record.parentMountId ∧
      (record.mountId ≠ 0 ∧ record.parentMountId ≠ 0 ∧
        record.mountId ∉ records.map (·.mountId)) ∧
      decodeAsciiMountValue device = .ok record.device ∧
      decodeAsciiMountValue type = .ok record.filesystemType ∧
      (isDevice record.device = true ∧ isFilesystemType record.filesystemType = true) ∧
      optional.mapM decodeAsciiMountValue = .ok record.optionalFields ∧
      decodeMountField root = .ok record.root ∧
      decodeMountField mountPoint = .ok record.mountPoint ∧
      mountOptions options = .ok record.mountOptions ∧
      decodeMountField source = .ok record.mountSource ∧
      mountOptions superOptions = .ok record.superOptions := by
  constructor
  · intro h
    -- the fields in the order in which they are read
    unfold readRecord at h
    split at h
    · rename_i idField parentField deviceField root mountPoint options optional typeField source
        superOptions
      obtain ⟨id, hid, h⟩ := bind_eq_ok.1 h
      obtain ⟨parent, hparent, h⟩ := bind_eq_ok.1 h
      split at h
      · cases h
      · rename_i hids
        obtain ⟨device, hdevice, h⟩ := bind_eq_ok.1 h
        obtain ⟨filesystemType, htype, h⟩ := bind_eq_ok.1 h
        split at h
        · cases h
        · rename_i hpatterns
          obtain ⟨optionalFields, hoptional, h⟩ := bind_eq_ok.1 h
          obtain ⟨rootText, hroot, h⟩ := bind_eq_ok.1 h
          obtain ⟨pointText, hpoint, h⟩ := bind_eq_ok.1 h
          obtain ⟨optionTexts, hoptions, h⟩ := bind_eq_ok.1 h
          obtain ⟨sourceText, hsource, h⟩ := bind_eq_ok.1 h
          obtain ⟨superTexts, hsuper, h⟩ := bind_eq_ok.1 h
          cases h
          rw [not_or, not_or] at hids
          rw [not_or, Bool.not_eq_false, Bool.not_eq_false] at hpatterns
          exact ⟨idField, parentField, deviceField, root, mountPoint, options, optional, typeField,
            source, superOptions, rfl, rfl, hid, hparent, hids, hdevice, htype, hpatterns,
            hoptional, hroot, hpoint, hoptions, hsource, hsuper⟩
    · cases h
  · rintro ⟨idField, parentField, deviceField, root, mountPoint, options, optional, typeField,
      source, superOptions, rfl, rfl, hid, hparent, hids, hdevice, htype, hpatterns, hoptional,
      hroot, hpoint, hoptions, hsource, hsuper⟩
    rw [← not_or, ← not_or] at hids
    rw [← Bool.not_eq_false, ← Bool.not_eq_false, ← not_or] at hpatterns
    simp only [readRecord, bind_eq_ok]
    refine ⟨_, hid, _, hparent, ?_⟩
    rw [if_neg hids]
    simp only [bind_eq_ok]
    refine ⟨_, hdevice, _, htype, ?_⟩
    rw [if_neg hpatterns]
    simp only [bind_eq_ok]
    exact ⟨_, hoptional, _, hroot, _, hpoint, _, hoptions, _, hsource, _, hsuper, rfl⟩

theorem decodeMountField_eq_ok {value : Bytes} {text : PyText} :
    decodeMountField value = .ok text ↔
      ∃ bytes, unescape value = .ok bytes ∧ text = fsdecode bytes :=
  Checked.map_eq_ok

theorem decodeMountField_escape {value : Bytes} {text : PyText}
    (h : decodeMountField (escape value) = .ok text) : text = fsdecode value := by
  rw [decodeMountField, unescape_escape] at h
  cases h
  rfl

namespace KernelMount

variable {mount : KernelMount}

/-- The byte strings are not empty and hold no white space that the kernel does not escape. -/
def Plain (mount : KernelMount) : Prop :=
  ∀ value ∈ [mount.root, mount.mountPoint, mount.source],
    value ≠ [] ∧ ∀ byte ∈ value, isVertical byte = false

omit [FsDecode] in
/-- The words of plain byte strings are these. -/
theorem Plain.words (h : mount.Plain) :
    mount.leftWords = mount.left ∧ mount.rightWords = mount.right := by
  simp only [Plain, List.forall_mem_cons] at h
  obtain ⟨hroot, hpoint, hsource, -⟩ := h
  rw [leftWords, rightWords, words_eq_singleton hroot.2 hroot.1,
    words_eq_singleton hpoint.2 hpoint.1, words_eq_singleton hsource.2 hsource.1]
  exact ⟨rfl, rfl⟩

/-- The field checks of `_read_mountinfo` on the words of a record: the IDs, the device and the type
on their own; and the number of the words that white space leaves of the byte strings, with the
options and the optional fields among them. -/
structure FieldsValid (mount : KernelMount) : Prop where
  mountId : IdValid mount.mountId
  parentMountId : IdValid mount.parentMountId
  device : isDevice (decodeAscii mount.device) = true
  filesystemType : isFilesystemType (decodeAscii mount.filesystemType) = true
  left : ∃ root mountPoint options optional,
    (words isVertical mount.root).map escape ++ ((words isVertical mount.mountPoint).map escape ++
      joinOptions mount.options :: mount.optionalFields) =
        root :: mountPoint :: options :: optional ∧
    (∃ bytes, unescape root = .ok bytes) ∧ (∃ bytes, unescape mountPoint = .ok bytes) ∧
    OptionsValid options ∧ ∀ field ∈ optional, Graphic field
  right : ∃ source superOptions,
    (words isVertical mount.source).map escape ++ [joinOptions mount.superOptions] =
      [source, superOptions] ∧
    (∃ bytes, unescape source = .ok bytes) ∧ OptionsValid superOptions

/-- A record is read when its fields pass the checks and its ID is new. -/
theorem exists_readRecord_iff :
    (∃ record, readRecord records mount.leftWords mount.rightWords = .ok record) ↔
      mount.FieldsValid ∧ mount.mountId ∉ records.map (·.mountId) := by
  constructor
  · rintro ⟨record, hread⟩
    obtain ⟨id, parent, device, root, mountPoint, options, optional, type, source, superOptions,
      hleft, hright, hid, hparent, ⟨hidPos, hparentPos, hnew⟩, hdevice, htype, hpatterns, hoptional,
      hroot, hpoint, hoptions, hsource, hsuper⟩ := readRecord_eq_ok.1 hread
    rw [leftWords, List.cons.injEq, List.cons.injEq, List.cons.injEq] at hleft
    obtain ⟨rfl, rfl, rfl, hleft⟩ := hleft
    rw [rightWords, List.cons.injEq] at hright
    obtain ⟨rfl, hright⟩ := hright
    -- the fields that are written by the kernel alone are read as they were
    obtain ⟨hidShort, hidEq⟩ := mountId_decimal.1 hid
    obtain ⟨hparentShort, hparentEq⟩ := mountId_decimal.1 hparent
    rw [hidEq] at hidPos hnew
    rw [hparentEq] at hparentPos
    rw [(decodeAsciiMountValue_eq_ok.1 hdevice).2, (decodeAsciiMountValue_eq_ok.1 htype).2]
      at hpatterns
    obtain ⟨rootBytes, hrootBytes, -⟩ := decodeMountField_eq_ok.1 hroot
    obtain ⟨pointBytes, hpointBytes, -⟩ := decodeMountField_eq_ok.1 hpoint
    obtain ⟨sourceBytes, hsourceBytes, -⟩ := decodeMountField_eq_ok.1 hsource
    exact ⟨⟨⟨hidShort, hidPos⟩, ⟨hparentShort, hparentPos⟩, hpatterns.1, hpatterns.2,
      ⟨root, mountPoint, options, optional, hleft, ⟨rootBytes, hrootBytes⟩,
        ⟨pointBytes, hpointBytes⟩, (mountOptions_eq_ok.1 hoptions).1,
        (mapM_decodeAsciiMountValue.1 hoptional).1⟩,
      ⟨source, superOptions, hright, ⟨sourceBytes, hsourceBytes⟩,
        (mountOptions_eq_ok.1 hsuper).1⟩⟩, hnew⟩
  · rintro ⟨h, hnew⟩
    obtain ⟨root, mountPoint, options, optional, hleft, ⟨rootBytes, hroot⟩, ⟨pointBytes, hpoint⟩,
      hoptions, hoptional⟩ := h.left
    obtain ⟨source, superOptions, hright, ⟨sourceBytes, hsource⟩, hsuper⟩ := h.right
    refine ⟨⟨mount.mountId, mount.parentMountId, decodeAscii mount.device, fsdecode rootBytes,
      fsdecode pointBytes, (pieces isComma options).map decodeAscii, optional.map decodeAscii,
      decodeAscii mount.filesystemType, fsdecode sourceBytes,
      (pieces isComma superOptions).map decodeAscii⟩, readRecord_eq_ok.2 ⟨_, _, _, root, mountPoint,
      options, optional, mount.filesystemType, source, superOptions, ?_, ?_,
      mountId_decimal.2 ⟨h.mountId.1, rfl⟩, mountId_decimal.2 ⟨h.parentMountId.1, rfl⟩,
      ⟨h.mountId.2, h.parentMountId.2, hnew⟩,
      decodeAsciiMountValue_eq_ok.2 ⟨mount.device_graphic.1, rfl⟩,
      decodeAsciiMountValue_eq_ok.2 ⟨mount.type_graphic, rfl⟩, ⟨h.device, h.filesystemType⟩,
      mapM_decodeAsciiMountValue.2 ⟨hoptional, rfl⟩,
      decodeMountField_eq_ok.2 ⟨_, hroot, rfl⟩, decodeMountField_eq_ok.2 ⟨_, hpoint, rfl⟩,
      mountOptions_eq_ok.2 ⟨hoptions, rfl⟩, decodeMountField_eq_ok.2 ⟨_, hsource, rfl⟩,
      mountOptions_eq_ok.2 ⟨hsuper, rfl⟩⟩⟩
    · rw [leftWords, hleft]
    · rw [rightWords, hright]

/-- The ID of the record that is read is the record's own. -/
theorem mountId_of_readRecord
    (hread : readRecord records mount.leftWords mount.rightWords = .ok record) :
    record.mountId = mount.mountId := by
  obtain ⟨_, _, _, _, _, _, _, _, _, _, hleft, -, hid, -⟩ := readRecord_eq_ok.1 hread
  rw [leftWords, List.cons.injEq] at hleft
  rw [← hleft.1] at hid
  exact (mountId_decimal.1 hid).2

/-- A plain record is read as it is. -/
theorem Plain.readRecord (h : mount.Plain)
    (hread : readRecord records mount.leftWords mount.rightWords = .ok record) :
    record = mount.record := by
  rw [h.words.1, h.words.2] at hread
  obtain ⟨id, parent, device, root, mountPoint, options, optional, type, source, superOptions,
    hleft, hright, hid, hparent, -, hdevice, htype, -, hoptional, hroot, hpoint, hoptions, hsource,
    hsuper⟩ := readRecord_eq_ok.1 hread
  cases hleft
  cases hright
  cases record
  simp only at hid hparent hdevice hroot hpoint hoptions hoptional htype hsource hsuper
  rw [(mountId_decimal.1 hid).2, (mountId_decimal.1 hparent).2,
    (decodeAsciiMountValue_eq_ok.1 hdevice).2, (mapM_decodeAsciiMountValue.1 hoptional).2,
    (decodeAsciiMountValue_eq_ok.1 htype).2,
    decodeMountField_escape hroot, decodeMountField_escape hpoint,
    decodeMountField_escape hsource,
    mountOptions_join mount.options_ne_nil
      (fun option hmem => (mount.options_graphic option hmem).2)
      hoptions,
    mountOptions_join mount.super_ne_nil (fun option hmem => (mount.super_graphic option hmem).2)
      hsuper]
  rfl

/-- A record that is read as it is is plain. -/
theorem plain_of_readRecord [LawfulFsDecode]
    (hread : readRecord records mount.leftWords mount.rightWords = .ok mount.record) :
    mount.Plain := by
  obtain ⟨id, parent, device, root, mountPoint, options, optional, type, source, superOptions,
    hleft, hright, -, -, -, -, -, -, hoptional, hroot, hpoint, -, hsource, -⟩ :=
    readRecord_eq_ok.1 hread
  have hoptional := (mapM_decodeAsciiMountValue.1 hoptional).2
  -- a word that is a value's bytes is the value, and it is plain
  have hword : ∀ (text : Bytes) {value word : Bytes}, word ∈ words isVertical text →
      decodeMountField (escape word) = .ok (fsdecode value) →
      word = value ∧ value ≠ [] ∧ ∀ byte ∈ value, isVertical byte = false := by
    intro text value word hmem hdecode
    have heq := LawfulFsDecode.injective (decodeMountField_escape hdecode)
    rw [heq]
    exact ⟨rfl, mem_words hmem⟩
  have hsourcePlain : mount.source ≠ [] ∧ ∀ byte ∈ mount.source, isVertical byte = false := by
    have hlength := congrArg List.length hright
    simp only [rightWords, List.length_cons, List.length_append, List.length_map,
      List.length_nil] at hlength
    obtain ⟨word, hwords⟩ := List.length_eq_one_iff.1
      (show (words isVertical mount.source).length = 1 by omega)
    rw [rightWords, hwords] at hright
    cases hright
    exact (hword mount.source (by rw [hwords]; simp) hsource).2
  have hcount : (words isVertical mount.root).length + (words isVertical mount.mountPoint).length =
      2 := by
    have hlength := congrArg List.length hleft
    have hlengthOptional := congrArg List.length hoptional
    simp only [leftWords, List.length_cons, List.length_append, List.length_map] at hlength
    simp only [KernelMount.record, List.length_map] at hlengthOptional
    omega
  -- the first word is the root, whichever byte string it comes from
  have hfirst : ∀ {text word : Bytes} {others : List Bytes},
      words isVertical text = word :: others →
      root = escape word → word = mount.root ∧ mount.root ≠ [] ∧
        ∀ byte ∈ mount.root, isVertical byte = false := by
    intro text word others hwords heq
    rw [heq] at hroot
    exact hword text (by rw [hwords]; simp) hroot
  rw [leftWords] at hleft
  cases hrootWords : words isVertical mount.root with
  | nil =>
    rw [hrootWords, List.length_nil] at hcount
    obtain ⟨a, b, hpointWords⟩ := List.length_eq_two.1
      (show (words isVertical mount.mountPoint).length = 2 by omega)
    rw [hrootWords, hpointWords] at hleft
    cases hleft
    obtain ⟨-, hplain⟩ := hfirst hpointWords rfl
    rw [words_eq_singleton hplain.2 hplain.1] at hrootWords
    cases hrootWords
  | cons a others =>
    rw [hrootWords] at hleft hcount
    have ha : root = escape a := by
      simp only [List.map_cons, List.cons_append, List.cons.injEq] at hleft
      exact hleft.2.2.2.1.symm
    obtain ⟨hroot', hplain⟩ := hfirst hrootWords ha
    have hothers : others = [] := by
      rw [words_eq_singleton hplain.2 hplain.1] at hrootWords
      cases hrootWords
      rfl
    rw [hothers, List.length_singleton] at hcount
    obtain ⟨b, hpointWords⟩ := List.length_eq_one_iff.1
      (show (words isVertical mount.mountPoint).length = 1 by omega)
    rw [hothers, hpointWords] at hleft
    cases hleft
    have hpointPlain := hword mount.mountPoint (by rw [hpointWords]; simp) hpoint
    simp only [Plain, List.forall_mem_cons]
    exact ⟨hplain, hpointPlain.2, hsourcePlain, by simp⟩

/-! ## Refused lines -/

/-- No record is read out of the line. -/
def NotRead (line : Bytes) : Prop := ∀ records out, readLine records line ≠ .ok out

theorem notRead_of_find_none {line : Bytes} (h : find separator line = none) : NotRead line := by
  intro records out hread
  rw [readLine, h] at hread
  cases hread

/-- A dash before the separator cuts the record at the wrong place, where it is refused. -/
theorem Dashed.notRead (h : mount.Dashed) : NotRead mount.line := by
  intro records out hread
  have hmem : [0x2d] ∈ mount.left.tail := by
    rcases h with h | h | h <;> simp [left, h]
  obtain ⟨before, after, hsplit, hbefore⟩ := List.eq_append_cons_of_mem hmem
  have hfields : mount.left ++ [0x2d] :: mount.right =
      decimal mount.mountId :: (before ++ [0x2d] :: (after ++ [0x2d] :: mount.right)) := by
    have hcons : mount.left = decimal mount.mountId :: mount.left.tail := rfl
    rw [hcons, hsplit]
    simp
  have hspaces : NoSpaces (decimal mount.mountId :: before) := by
    intro field hfield
    have hcons : mount.left = decimal mount.mountId :: mount.left.tail := rfl
    refine mount.noSpaces_left field ?_
    rw [hcons, hsplit]
    simp only [List.mem_cons, List.mem_append] at hfield ⊢
    tauto
  have hfind := find_separator_dash _ before (after ++ [0x2d] :: mount.right) (by simp) hspaces
    hbefore
  -- the line is cut at the first dash, which is one of the left fields
  have hline : mount.line = joinFields (decimal mount.mountId :: before) ++
      (separator ++ joinFields (after ++ [0x2d] :: mount.right)) := by
    have hne : after ++ [0x2d] :: mount.right ≠ [] := by simp
    obtain ⟨next, others, hnext⟩ := List.exists_cons_of_ne_nil hne
    rw [line, hfields, ← joinFields, ← List.cons_append, joinFields_append (by simp) (by simp),
      hnext, joinFields_cons]
    rfl
  rw [← hfields] at hfind
  change find separator mount.line = _ at hfind
  rw [readLine, hfind] at hread
  dsimp only at hread
  have hdrop : mount.line.drop ((joinFields (decimal mount.mountId :: before)).length + 3) =
      joinFields (after ++ [0x2d] :: mount.right) := by
    rw [hline, ← List.append_assoc]
    exact List.drop_left' (by rw [List.length_append]; rfl)
  rw [hdrop] at hread
  obtain ⟨record, hrecord, -⟩ := bind_eq_ok.1 hread
  obtain ⟨id, parent, device, root, mountPoint, options, optional, type, source, superOptions,
    -, hright, -, -, -, -, htype, ⟨-, hpattern⟩, -⟩ := readRecord_eq_ok.1 hrecord
  have hwords : words isSpace (joinFields (after ++ [0x2d] :: mount.right)) =
      after.flatMap (words isSpace) ++ [0x2d] :: mount.rightWords := by
    rw [← words_right, joinFields, joinFields, words_intercalate (by decide),
      words_intercalate (by decide), List.flatMap_append, List.flatMap_cons]
    rfl
  rw [hwords] at hright
  have hlength := congrArg List.length hright
  simp only [rightWords, List.length_append, List.length_cons, List.length_nil] at hlength
  -- three words are left only where nothing stands between the two dashes
  have hnil : after.flatMap (words isSpace) = [] := List.length_eq_zero_iff.1 (by omega)
  rw [hnil, List.nil_append] at hright
  -- then the dash of the separator is read as the filesystem type
  have htypeField : [0x2d] = type := (List.cons.inj hright).1
  rw [(decodeAsciiMountValue_eq_ok.1 htype).2, ← htypeField] at hpattern
  exact absurd hpattern (by decide)

/-! ## Carriage returns -/

/-- A line that ends within the root or the mount point is not read. -/
theorem notRead_before {last : Bytes} {between : List Bytes} (hspace : (0x20 : UInt8) ∉ last)
    (hbetween : between = [] ∨ between = [escape mount.root]) :
    NotRead (joinFields (decimal mount.mountId :: decimal mount.parentMountId :: mount.device ::
      (between ++ [last]))) := by
  have hid := not_mem_of_graphic (graphic_decimal mount.mountId).1
  have hparent := not_mem_of_graphic (graphic_decimal mount.parentMountId).1
  have hdevice := not_mem_of_graphic mount.device_graphic.1
  have hroot : (0x20 : UInt8) ∉ escape mount.root := fun h => (mem_escape h).1 rfl
  have hdashes : [0x2d] ∉ [decimal mount.parentMountId, mount.device] := by
    simp only [List.mem_cons, List.not_mem_nil, or_false, not_or]
    exact ⟨Ne.symm (graphic_decimal _).2, Ne.symm mount.device_graphic.2⟩
  rcases hbetween with rfl | rfl
  · refine notRead_of_find_none (find_separator_none _ _ ?_ hdashes)
    simp only [NoSpaces, List.nil_append, List.forall_mem_cons]
    exact ⟨hid, hparent, hdevice, hspace, by simp⟩
  · by_cases hdash : escape mount.root = [0x2d]
    · intro records out hread
      have hfind := find_separator_dash (decimal mount.mountId)
        [decimal mount.parentMountId, mount.device] [last] (by simp)
        (by simp only [NoSpaces, List.forall_mem_cons]; exact ⟨hid, hparent, hdevice, by simp⟩)
        hdashes
      rw [hdash] at hread
      rw [readLine, show [[0x2d]] ++ [last] = [0x2d] :: [last] from rfl] at hread
      simp only [List.cons_append, List.nil_append] at hfind
      rw [hfind] at hread
      dsimp only at hread
      obtain ⟨record, hrecord, -⟩ := bind_eq_ok.1 hread
      obtain ⟨_, _, _, _, _, _, _, _, _, _, hleft, -⟩ := readRecord_eq_ok.1 hrecord
      have htake : joinFields [decimal mount.mountId, decimal mount.parentMountId, mount.device,
          [0x2d], last] = joinFields [decimal mount.mountId, decimal mount.parentMountId,
            mount.device] ++ 0x20 :: joinFields [[0x2d], last] :=
        joinFields_append (List.cons_ne_nil (decimal mount.mountId)
          [decimal mount.parentMountId, mount.device]) (by simp)
      rw [htake, List.take_left, joinFields, words_intercalate (by decide)] at hleft
      simp only [List.flatMap_cons, List.flatMap_nil, words_of_graphic (graphic_decimal _).1,
        words_of_graphic mount.device_graphic.1] at hleft
      have hlength := congrArg List.length hleft
      simp at hlength
    · refine notRead_of_find_none (find_separator_none _ _ ?_ ?_)
      · simp only [NoSpaces, List.cons_append, List.nil_append, List.forall_mem_cons]
        exact ⟨hid, hparent, hdevice, hroot, hspace, by simp⟩
      · simp only [List.mem_cons, List.not_mem_nil, or_false, not_or] at hdashes
        simp only [List.cons_append, List.nil_append, List.dropLast_cons_cons,
          List.dropLast_singleton, List.mem_cons, List.not_mem_nil, or_false, not_or]
        exact ⟨hdashes.1, hdashes.2, Ne.symm hdash⟩

/-- A carriage return cuts a line off that is not read. -/
theorem Returns.notRead (h : mount.Returns) :
    ∃ line ∈ splitlines (mount.line ++ [0x0a]), NotRead line := by
  have hid := graphic_no_ends (graphic_decimal mount.mountId).1
  have hparent := graphic_no_ends (graphic_decimal mount.parentMountId).1
  have hdevice := graphic_no_ends mount.device_graphic.1
  have hspace : ∀ value : Bytes, (0x20 : UInt8) ∉ escape value := fun _ h => (mem_escape h).1 rfl
  -- cut at the first carriage return of the first field that has one
  by_cases hroot : (0x0d : UInt8) ∈ mount.root
  · obtain ⟨before, after, hvalue, hbefore⟩ := List.eq_append_cons_of_mem hroot
    have hline := joinFields_within 0x0d (escape before) (escape after)
      (escape mount.mountPoint :: joinOptions mount.options ::
        (mount.optionalFields ++ [0x2d] :: mount.right))
      [decimal mount.mountId, decimal mount.parentMountId, mount.device]
    rw [← escape_return, ← hvalue] at hline
    change mount.line = _ at hline
    have hnot : NotRead _ :=
      @notRead_before _ mount (escape before) [] (hspace before) (Or.inl rfl)
    refine ⟨_, ?_, hnot⟩
    rw [hline, List.append_assoc, List.cons_append]
    refine mem_splitlines_before (joinFields_no_ends ?_) _
    simp only [List.cons_append, List.nil_append, List.forall_mem_cons]
    exact ⟨hid, hparent, hdevice, escape_no_ends hbefore, by simp⟩
  by_cases hpoint : (0x0d : UInt8) ∈ mount.mountPoint
  · obtain ⟨before, after, hvalue, hbefore⟩ := List.eq_append_cons_of_mem hpoint
    have hline := joinFields_within 0x0d (escape before) (escape after)
      (joinOptions mount.options :: (mount.optionalFields ++ [0x2d] :: mount.right))
      [decimal mount.mountId, decimal mount.parentMountId, mount.device, escape mount.root]
    rw [← escape_return, ← hvalue] at hline
    change mount.line = _ at hline
    have hnot : NotRead _ :=
      @notRead_before _ mount (escape before) [escape mount.root] (hspace before) (Or.inr rfl)
    refine ⟨_, ?_, hnot⟩
    rw [hline, List.append_assoc, List.cons_append]
    refine mem_splitlines_before (joinFields_no_ends ?_) _
    simp only [List.cons_append, List.nil_append, List.forall_mem_cons]
    exact ⟨hid, hparent, hdevice, escape_no_ends hroot, escape_no_ends hbefore, by simp⟩
  · -- the last carriage return of the source leaves its end and the super options on a line
    have hsource : (0x0d : UInt8) ∈ mount.source := by
      rcases h with h | h | h
      · exact absurd h hroot
      · exact absurd h hpoint
      · exact h
    obtain ⟨after, before, hvalue, hafter⟩ :=
      List.eq_append_cons_of_mem (List.mem_reverse.2 hsource)
    have hreverse := congrArg List.reverse hvalue
    rw [List.reverse_reverse, List.reverse_append, List.reverse_cons, List.append_assoc,
      List.singleton_append] at hreverse
    have hline := joinFields_within 0x0d (escape before.reverse) (escape after.reverse)
      [joinOptions mount.superOptions] (mount.left ++ [[0x2d], mount.filesystemType])
    rw [← escape_return, ← hreverse, List.append_assoc, List.append_assoc] at hline
    change mount.line = _ at hline
    have hsuper := graphic_no_ends mount.graphic_super
    have hafter' : (0x0d : UInt8) ∉ after.reverse := fun hmem => hafter (List.mem_reverse.1 hmem)
    refine ⟨joinFields [escape after.reverse, joinOptions mount.superOptions], ?_,
      notRead_of_find_none (find_separator_none _ _ ?_ (by simp))⟩
    · rw [hline, List.append_assoc, List.cons_append]
      refine List.mem_of_mem_tail (mem_splitlines_after (joinFields_no_ends ?_) ?_ [] _ ?_)
      · simp only [List.forall_mem_cons]
        exact ⟨escape_no_ends hafter', hsuper, by simp⟩
      · rw [joinFields_cons]
        simp
      · intro byte hbyte
        rcases mem_joinFields hbyte with rfl | ⟨field, hfield, hmem⟩
        · decide
        · simp only [List.mem_append, List.mem_cons, List.not_mem_nil, or_false] at hfield
          rcases hfield with hfield | rfl | rfl | rfl
          · exact (left_no_ends hroot hpoint field hfield byte hmem).1
          · rw [List.mem_singleton.1 hmem]
            decide
          · exact (graphic_no_ends mount.type_graphic byte hmem).1
          · exact (mem_escape hmem).2.1
    · simp only [NoSpaces, List.forall_mem_cons]
      exact ⟨hspace _, not_mem_of_graphic mount.graphic_super, by simp⟩

end KernelMount

/-! ## The table -/

omit [FsDecode] in
theorem splitlines_write {mounts : List KernelMount} (h : ∀ mount ∈ mounts, ¬ mount.Returns) :
    splitlines (write mounts) = mounts.map KernelMount.line := by
  induction mounts with
  | nil => rfl
  | cons mount mounts ih =>
    obtain ⟨hmount, hmounts⟩ := List.forall_mem_cons.1 h
    rw [write, List.flatMap_cons, List.append_assoc, List.singleton_append,
      splitlines_line (KernelMount.line_no_ends hmount), ← write, ih hmounts]
    rfl

omit [FsDecode] in
theorem mem_splitlines_write {mounts : List KernelMount} {mount : KernelMount} {line : Bytes}
    (hmem : mount ∈ mounts) (hline : line ∈ splitlines (mount.line ++ [0x0a])) :
    line ∈ splitlines (write mounts) := by
  induction mounts with
  | nil => cases hmem
  | cons first mounts ih =>
    rw [write, List.flatMap_cons, List.append_assoc, List.singleton_append, splitlines_append,
      List.mem_append]
    rcases List.mem_cons.1 hmem with rfl | hmem
    · exact Or.inl hline
    · exact Or.inr (ih hmem)

/-- A line that is not read refuses the table. -/
theorem foldlM_notRead {lines : List Bytes} {line : Bytes} (hmem : line ∈ lines)
    (h : KernelMount.NotRead line) :
    ∀ records out : List MountRecord, lines.foldlM readLine records ≠ .ok out := by
  induction lines with
  | nil => cases hmem
  | cons first lines ih =>
    intro records out hread
    rw [List.foldlM_cons] at hread
    obtain ⟨next, hfirst, hread⟩ := bind_eq_ok.1 hread
    rcases List.mem_cons.1 hmem with rfl | hmem
    · exact h records next hfirst
    · exact ih hmem next out hread

/-- An iteration of `_read_mountinfo` on the words of a record. -/
def readWords (records : List MountRecord) (mount : KernelMount) : MountResult (List MountRecord) :=
  (fun record => records ++ [record]) <$> readRecord records mount.leftWords mount.rightWords

theorem foldlM_lines {mounts : List KernelMount} (h : ∀ mount ∈ mounts, ¬ mount.Dashed)
    (records : List MountRecord) : (mounts.map KernelMount.line).foldlM readLine records =
      mounts.foldlM readWords records := by
  induction mounts generalizing records with
  | nil => rfl
  | cons mount mounts ih =>
    obtain ⟨hmount, hmounts⟩ := List.forall_mem_cons.1 h
    rw [List.map_cons, List.foldlM_cons, List.foldlM_cons, KernelMount.readLine_line hmount]
    exact bind_congr fun next => ih hmounts next

/-- Every mount with its record. -/
theorem forall₂_of_foldlM {mounts : List KernelMount} {records out : List MountRecord}
    (hread : mounts.foldlM readWords records = .ok out) :
    ∃ added, out = records ++ added ∧ List.Forall₂ (fun mount record => ∃ before,
      readRecord before mount.leftWords mount.rightWords = .ok record) mounts added := by
  induction mounts generalizing records with
  | nil =>
    cases hread
    exact ⟨[], (List.append_nil _).symm, .nil⟩
  | cons mount mounts ih =>
    rw [List.foldlM_cons] at hread
    obtain ⟨next, hnext, hread⟩ := bind_eq_ok.1 hread
    rw [readWords] at hnext
    cases hrecord : readRecord records mount.leftWords mount.rightWords with
    | error e =>
      rw [hrecord] at hnext
      cases hnext
    | ok record =>
      rw [hrecord] at hnext
      cases hnext
      obtain ⟨added, rfl, hadded⟩ := ih hread
      exact ⟨record :: added, by simp, .cons ⟨records, hrecord⟩ hadded⟩

/-- Records whose fields pass the checks are read if their IDs are new and distinct. -/
theorem exists_foldlM_readWords_iff {mounts : List KernelMount} {records : List MountRecord} :
    (∃ out, mounts.foldlM readWords records = .ok out) ↔
      (∀ mount ∈ mounts, mount.FieldsValid ∧ mount.mountId ∉ records.map (·.mountId)) ∧
        (mounts.map (·.mountId)).Nodup := by
  induction mounts generalizing records with
  | nil => exact iff_of_true ⟨records, rfl⟩ ⟨fun _ h => absurd h List.not_mem_nil, List.nodup_nil⟩
  | cons mount mounts ih =>
    simp only [List.foldlM_cons, bind_eq_ok, readWords, Checked.map_eq_ok, List.forall_mem_cons,
      List.map_cons, List.nodup_cons]
    constructor
    · rintro ⟨out, _, ⟨record, hrecord, rfl⟩, hrest⟩
      obtain ⟨hall, hnodup⟩ := ih.1 ⟨out, hrest⟩
      -- the IDs that are known for the others include the one of this record
      rw [List.map_append, List.map_singleton, KernelMount.mountId_of_readRecord hrecord] at hall
      simp only [List.mem_append, List.mem_singleton, not_or] at hall
      refine ⟨⟨KernelMount.exists_readRecord_iff.1 ⟨record, hrecord⟩,
        fun other hmem => ⟨(hall other hmem).1, (hall other hmem).2.1⟩⟩, ?_, hnodup⟩
      intro hmem
      obtain ⟨other, hother, hid⟩ := List.mem_map.1 hmem
      exact (hall other hother).2.2 hid
    · rintro ⟨⟨hmount, hall⟩, hnot, hnodup⟩
      obtain ⟨record, hrecord⟩ := KernelMount.exists_readRecord_iff.2 hmount
      have hrest : ∀ other ∈ mounts, other.FieldsValid ∧
          other.mountId ∉ (records ++ [record]).map (·.mountId) := by
        intro other hmem
        refine ⟨(hall other hmem).1, ?_⟩
        rw [List.map_append, List.map_singleton, KernelMount.mountId_of_readRecord hrecord,
          List.mem_append, List.mem_singleton, not_or]
        exact ⟨(hall other hmem).2, fun hid => hnot (hid ▸ List.mem_map_of_mem hmem)⟩
      obtain ⟨out, hout⟩ := ih.2 ⟨hrest, hnodup⟩
      exact ⟨out, _, ⟨record, hrecord, rfl⟩, hout⟩

/-- The table is refused: it is too long, a byte string holds a carriage return, a dash stands
before the separator, the fields of some record fail their checks, or an ID repeats. -/
def Refused (mounts : List KernelMount) : Prop :=
  mountinfoMaxBytes < (write mounts).length ∨
    (∃ mount ∈ mounts, mount.Returns ∨ mount.Dashed ∨ ¬ mount.FieldsValid) ∨
      ¬ (mounts.map (·.mountId)).Nodup

/-- The table is refused, or read as the kernel wrote it. -/
def ReadExactly (mounts : List KernelMount) : Prop :=
  ∀ out, readMountinfo (write mounts) = .ok out → out = mounts.map KernelMount.record

/-- What is not refused is read record by record. -/
theorem readMountinfo_of_not_refused {mounts : List KernelMount} (h : ¬ Refused mounts) :
    ∃ out, readMountinfo (write mounts) = .ok out ∧ List.Forall₂ (fun mount record => ∃ before,
      readRecord before mount.leftWords mount.rightWords = .ok record) mounts out := by
  simp only [Refused, not_or, not_exists, not_and, not_not] at h
  obtain ⟨hlength, hmounts, hnodup⟩ := h
  obtain ⟨out, hout⟩ := (@exists_foldlM_readWords_iff _ mounts []).2
    ⟨fun mount hmem => ⟨(hmounts mount hmem).2.2, List.not_mem_nil⟩, hnodup⟩
  have hread : readMountinfo (write mounts) = .ok out := by
    rw [readMountinfo, if_neg hlength, splitlines_write fun mount hmem => (hmounts mount hmem).1,
      foldlM_lines (fun mount hmem => (hmounts mount hmem).2.1), hout]
  obtain ⟨added, hadded, hforall⟩ := forall₂_of_foldlM hout
  rw [List.nil_append] at hadded
  exact ⟨out, hread, hadded ▸ hforall⟩

/-- A refused table is not read. -/
theorem Refused.readExactly {mounts : List KernelMount} (h : Refused mounts) :
    ReadExactly mounts := by
  intro out hout
  rw [readMountinfo] at hout
  split at hout
  · cases hout
  · rename_i hlength
    by_cases hreturns : ∃ mount ∈ mounts, mount.Returns
    · obtain ⟨mount, hmem, hmount⟩ := hreturns
      obtain ⟨line, hline, hnot⟩ := hmount.notRead
      exact absurd hout (foldlM_notRead (mem_splitlines_write hmem hline) hnot [] out)
    · simp only [not_exists, not_and] at hreturns
      rw [splitlines_write hreturns] at hout
      by_cases hdashed : ∃ mount ∈ mounts, mount.Dashed
      · obtain ⟨mount, hmem, hmount⟩ := hdashed
        exact absurd hout (foldlM_notRead (List.mem_map_of_mem hmem) hmount.notRead [] out)
      · simp only [not_exists, not_and] at hdashed
        rw [foldlM_lines hdashed] at hout
        obtain ⟨hfields, hnodup⟩ := exists_foldlM_readWords_iff.1 ⟨out, hout⟩
        rcases h with h | ⟨mount, hmem, hmount | hmount | hmount⟩ | h
        · exact absurd h hlength
        · exact absurd hmount (hreturns mount hmem)
        · exact absurd hmount (hdashed mount hmem)
        · exact absurd (hfields mount hmem).1 hmount
        · exact absurd hnodup h

/-- The table is refused or read exactly if and only if it is refused or every byte string is
plain. -/
theorem mountinfo_read_exactly_iff [LawfulFsDecode] (mounts : List KernelMount) :
    ReadExactly mounts ↔ Refused mounts ∨ ∀ mount ∈ mounts, mount.Plain := by
  constructor
  · intro h
    refine or_iff_not_imp_left.2 fun hnot => ?_
    obtain ⟨out, hread, hforall⟩ := readMountinfo_of_not_refused hnot
    rw [h out hread] at hforall
    intro mount hmem
    rw [List.forall₂_map_right_iff, List.forall₂_same] at hforall
    obtain ⟨before, hrecord⟩ := hforall mount hmem
    exact KernelMount.plain_of_readRecord hrecord
  · rintro (h | h)
    · exact h.readExactly
    · by_cases hrefused : Refused mounts
      · exact hrefused.readExactly
      · intro out hout
        obtain ⟨read, hread, hforall⟩ := readMountinfo_of_not_refused hrefused
        rw [hread] at hout
        cases hout
        clear hread hrefused
        induction hforall with
        | nil => rfl
        | cons hrecord _ ih =>
          obtain ⟨hmount, hrest⟩ := List.forall_mem_cons.1 h
          obtain ⟨before, hrecord⟩ := hrecord
          rw [hmount.readRecord hrecord, ih hrest]
          rfl

end Record

/-! ## A vertical tab in a mount point -/

namespace Mounts

/-- ASCII bytes and bytes that decode to nothing else, which are escaped to lone surrogates. -/
scoped instance : FsDecode where
  fsdecode raw := raw.map fun byte =>
    Fin.ofNat 0x110000 (if byte.toNat < 0x80 then byte.toNat else 0xdc00 + byte.toNat)

scoped instance : LawfulFsDecode where
  injective := by
    refine List.map_injective_iff.2 fun a b h => ?_
    have ha := a.toNat_lt
    have hb := b.toNat_lt
    have hval := congrArg Fin.val h
    simp only [Fin.ofNat] at hval
    rw [← UInt8.toNat_inj]
    split at hval <;> split at hval <;> omega

/-- The bytes of an ASCII text. -/
def ascii (text : String) : Bytes := encodeAscii text.toList

/-- An ext4 file system at a mount point. -/
def ext4At (mountPoint : Bytes) : KernelMount where
  mountId := 36
  parentMountId := 35
  device := ascii "98:0"
  root := ascii "/"
  mountPoint := mountPoint
  options := [ascii "rw"]
  optionalFields := []
  filesystemType := ascii "ext4"
  source := ascii "/dev/a"
  superOptions := [ascii "rw"]
  device_graphic := ⟨⟨by decide, List.all_eq_true.1 (by decide)⟩, by decide⟩
  type_graphic := ⟨by decide, List.all_eq_true.1 (by decide)⟩
  options_graphic := by
    rw [List.forall_mem_singleton]
    exact ⟨⟨by decide, List.all_eq_true.1 (by decide)⟩, by decide⟩
  options_ne_nil := by simp
  optional_graphic := by simp
  super_graphic := by
    rw [List.forall_mem_singleton]
    exact ⟨⟨by decide, List.all_eq_true.1 (by decide)⟩, by decide⟩
  super_ne_nil := by simp

theorem not_vertical {value : Bytes} (h : value.all (fun byte => !isVertical byte) = true) :
    ∀ byte ∈ value, isVertical byte = false :=
  fun byte hmem => by simpa using List.all_eq_true.1 h byte hmem

/-- A mount point with a space is read exactly. -/
theorem spaced_mount_read : ReadExactly [ext4At (ascii "/a b")] :=
  (mountinfo_read_exactly_iff [ext4At (ascii "/a b")]).2 (Or.inr (by
    rw [List.forall_mem_singleton]
    refine List.forall_mem_cons.2 ⟨⟨by decide, not_vertical (by decide)⟩, ?_⟩
    refine List.forall_mem_cons.2 ⟨⟨by decide, not_vertical (by decide)⟩, ?_⟩
    exact List.forall_mem_cons.2 ⟨⟨by decide, not_vertical (by decide)⟩, by simp⟩))

/-- What stands after a vertical tab is read as the options of the mount. -/
theorem vertical_tab_misread : ¬ ∀ mounts : List KernelMount, ReadExactly mounts := by
  intro h
  have hread : (readMountinfo (write [ext4At (ascii "/a" ++ 0x0b :: ascii "ro")])).map
      (fun records => records.map fun record => record.mountOptions) = .ok [["ro".toList]] := by
    decide +kernel
  cases hout : readMountinfo (write [ext4At (ascii "/a" ++ 0x0b :: ascii "ro")]) with
  | error e =>
    rw [hout] at hread
    cases hread
  | ok out =>
    rw [h _ out hout] at hout
    rw [hout] at hread
    revert hread
    decide

end Mounts

end TrueFamily.JournalFile
