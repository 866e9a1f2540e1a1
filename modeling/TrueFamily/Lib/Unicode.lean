import Mathlib.Data.List.Basic
import Mathlib.Tactic.Common

/-!
# Unicode encodings

The UTF-8 bytes and the UTF-16 code units of a text. Both encodings can be undone
(`utf8_injective`, `utf16_injective`), and a code unit that is no surrogate cuts the text at a
character (`utf16_cut`), which is how a program that indexes code units finds ASCII separators.
-/

namespace Unicode

/-- The code points of characters leave out the surrogates. -/
theorem toNat_char (c : Char) : c.toNat < 0xd800 ∨ 0xdfff < c.toNat ∧ c.toNat < 0x110000 := by
  have hvalid := c.valid
  rw [UInt32.isValidChar, Nat.isValidChar] at hvalid
  show c.val.toNat < 0xd800 ∨ 0xdfff < c.val.toNat ∧ c.val.toNat < 0x110000
  omega

theorem char_eq_of_toNat {c d : Char} (h : c.toNat = d.toNat) : c = d :=
  Char.ext (UInt32.toNat_inj.1 h)

/-! ## UTF-8 -/

/-- The bytes of a character. -/
def utf8Char (c : Char) : List ℕ :=
  if c.toNat < 0x80 then [c.toNat]
  else if c.toNat < 0x800 then [0xc0 + c.toNat / 0x40, 0x80 + c.toNat % 0x40]
  else if c.toNat < 0x10000 then
    [0xe0 + c.toNat / 0x1000, 0x80 + c.toNat / 0x40 % 0x40, 0x80 + c.toNat % 0x40]
  else
    [0xf0 + c.toNat / 0x40000, 0x80 + c.toNat / 0x1000 % 0x40, 0x80 + c.toNat / 0x40 % 0x40,
      0x80 + c.toNat % 0x40]

/-- `text.encode("utf-8")`. -/
def utf8 (text : List Char) : List ℕ := text.flatMap utf8Char

@[simp] theorem utf8_nil : utf8 [] = [] := rfl

@[simp] theorem utf8_cons (c : Char) (text : List Char) :
    utf8 (c :: text) = utf8Char c ++ utf8 text := rfl

/-- The first byte of a character tells how many follow. -/
theorem utf8Char_append_inj {c d : Char} {rest rest' : List ℕ}
    (h : utf8Char c ++ rest = utf8Char d ++ rest') : c = d ∧ rest = rest' := by
  have hc := toNat_char c
  have hd := toNat_char d
  unfold utf8Char at h
  split_ifs at h <;>
    simp only [List.cons_append, List.nil_append, List.cons.injEq] at h <;>
    first
    | exact ⟨char_eq_of_toNat (by omega), h.2⟩
    | exact ⟨char_eq_of_toNat (by omega), h.2.2⟩
    | exact ⟨char_eq_of_toNat (by omega), h.2.2.2⟩
    | exact ⟨char_eq_of_toNat (by omega), h.2.2.2.2⟩
    | omega

theorem utf8Char_ne_nil (c : Char) : utf8Char c ≠ [] := by
  unfold utf8Char
  split_ifs <;> simp

/-- Different texts have different bytes. -/
theorem utf8_injective : Function.Injective utf8 := by
  intro text other h
  induction text generalizing other with
  | nil =>
    cases other with
    | nil => rfl
    | cons d other =>
      rw [utf8_nil, utf8_cons] at h
      exact absurd (List.append_eq_nil_iff.1 h.symm).1 (utf8Char_ne_nil d)
  | cons c text ih =>
    cases other with
    | nil =>
      rw [utf8_nil, utf8_cons] at h
      exact absurd (List.append_eq_nil_iff.1 h).1 (utf8Char_ne_nil c)
    | cons d other =>
      obtain ⟨rfl, hrest⟩ := utf8Char_append_inj h
      rw [ih hrest]

/-! ## UTF-16 -/

/-- The code units of a character. -/
def utf16Char (c : Char) : List ℕ :=
  if c.toNat < 0x10000 then [c.toNat]
  else [0xd800 + (c.toNat - 0x10000) / 0x400, 0xdc00 + (c.toNat - 0x10000) % 0x400]

/-- The code units of a text. -/
def utf16 (text : List Char) : List ℕ := text.flatMap utf16Char

@[simp] theorem utf16_nil : utf16 [] = [] := rfl

@[simp] theorem utf16_cons (c : Char) (text : List Char) :
    utf16 (c :: text) = utf16Char c ++ utf16 text := rfl

@[simp] theorem utf16_append (text other : List Char) :
    utf16 (text ++ other) = utf16 text ++ utf16 other :=
  List.flatMap_append

theorem utf16Char_ne_nil (c : Char) : utf16Char c ≠ [] := by
  unfold utf16Char
  split_ifs <;> simp

theorem utf16Char_append_inj {c d : Char} {rest rest' : List ℕ}
    (h : utf16Char c ++ rest = utf16Char d ++ rest') : c = d ∧ rest = rest' := by
  have hc := toNat_char c
  have hd := toNat_char d
  unfold utf16Char at h
  split_ifs at h <;>
    simp only [List.cons_append, List.nil_append, List.cons.injEq] at h <;>
    first
    | exact ⟨char_eq_of_toNat (by omega), h.2⟩
    | exact ⟨char_eq_of_toNat (by omega), h.2.2⟩
    | omega

/-- A code unit that is no surrogate is a character of its own. -/
theorem utf16_cut {text : List Char} {front back : List ℕ} {c : Char} (hc : c.toNat < 0xd800)
    (h : utf16 text = front ++ c.toNat :: back) :
    ∃ before after, text = before ++ c :: after ∧ utf16 before = front ∧ utf16 after = back := by
  induction text generalizing front with
  | nil => simp at h
  | cons d text ih =>
    have hd := toNat_char d
    rw [utf16_cons, utf16Char] at h
    split_ifs at h with hplane
    · -- one unit: it is the cut, or lies before it
      cases front with
      | nil =>
        obtain ⟨hunit, hback⟩ := List.cons.inj h
        exact ⟨[], text, by rw [char_eq_of_toNat hunit, List.nil_append], rfl, hback⟩
      | cons unit front =>
        obtain ⟨rfl, htail⟩ := List.cons.inj h
        obtain ⟨before, after, rfl, hbefore, hafter⟩ := ih htail
        refine ⟨d :: before, after, rfl, ?_, hafter⟩
        rw [utf16_cons, utf16Char, if_pos hplane, hbefore]
        rfl
    · -- two surrogates: both lie before the cut
      match front with
      | [] =>
        obtain ⟨hunit, -⟩ := List.cons.inj h
        omega
      | [_] =>
        obtain ⟨-, htail⟩ := List.cons.inj h
        obtain ⟨hunit, -⟩ := List.cons.inj htail
        omega
      | high :: low :: front =>
        simp only [List.cons_append, List.nil_append, List.cons.injEq] at h
        obtain ⟨rfl, rfl, htail⟩ := h
        obtain ⟨before, after, rfl, hbefore, hafter⟩ := ih htail
        refine ⟨d :: before, after, rfl, ?_, hafter⟩
        rw [utf16_cons, utf16Char, if_neg hplane, hbefore]
        rfl

/-- The code units of a text are a prefix only where the text is. -/
theorem utf16_prefix {text front : List Char} {back : List ℕ}
    (h : utf16 text = utf16 front ++ back) :
    ∃ after, text = front ++ after ∧ utf16 after = back := by
  induction front generalizing text with
  | nil => exact ⟨text, rfl, h⟩
  | cons c front ih =>
    cases text with
    | nil =>
      rw [utf16_nil, utf16_cons, List.append_assoc] at h
      exact absurd (List.append_eq_nil_iff.1 h.symm).1 (utf16Char_ne_nil c)
    | cons d text =>
      rw [utf16_cons, utf16_cons, List.append_assoc] at h
      obtain ⟨rfl, hrest⟩ := utf16Char_append_inj h
      obtain ⟨after, rfl, hafter⟩ := ih hrest
      exact ⟨after, rfl, hafter⟩

/-- A text whose first character is one code unit is found only where the text has it. -/
theorem utf16_infix {text word : List Char} {c : Char} {front back : List ℕ}
    (hc : c.toNat < 0xd800) (h : utf16 text = front ++ (utf16 (c :: word) ++ back)) :
    ∃ before after, text = before ++ (c :: word ++ after) ∧ utf16 before = front := by
  have hunit : utf16Char c = [c.toNat] := if_pos (by omega)
  rw [utf16_cons, hunit, List.append_assoc] at h
  obtain ⟨before, rest, rfl, hbefore, hrest⟩ := utf16_cut hc h
  obtain ⟨after, rfl, -⟩ := utf16_prefix hrest
  exact ⟨before, after, rfl, hbefore⟩

end Unicode
