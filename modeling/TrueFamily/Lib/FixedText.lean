import Mathlib.Data.Nat.Basic
import Mathlib.Tactic.Common
import Mathlib.Tactic.Ring

/-!
# Fixed-width numerals

Numbers below `base ^ width` as texts of exactly `width` digits, the form of hexadecimal digests
and of the fields of a timestamp. An `Alphabet` is a base with its digits; `read_eq_some_iff` says
that reading and writing are inverse on the texts of one width.
-/

/-- The digits of a base. -/
structure Alphabet where
  base : ℕ
  digit : ℕ → Char
  value : Char → Option ℕ
  base_pos : 0 < base
  value_digit : ∀ d < base, value (digit d) = some d
  digit_of_value : ∀ c d, value c = some d → d < base ∧ c = digit d

namespace Alphabet

variable (alphabet : Alphabet)

/-- The `width` last digits of `n`, most significant first. -/
def write : ℕ → ℕ → List Char
  | 0, _ => []
  | width + 1, n =>
    alphabet.digit (n / alphabet.base ^ width % alphabet.base) :: write width n

/-- The number that a text of digits spells. -/
def read : List Char → Option ℕ
  | [] => some 0
  | c :: text => do
    let d ← alphabet.value c
    let n ← read text
    return d * alphabet.base ^ text.length + n

@[simp] theorem length_write (width n : ℕ) : (alphabet.write width n).length = width := by
  induction width with
  | zero => rfl
  | succ width ih => rw [write, List.length_cons, ih]

/-- Only the last digits count. -/
theorem write_add_mul (width n d : ℕ) :
    alphabet.write width (d * alphabet.base ^ width + n) = alphabet.write width n := by
  have hbase := alphabet.base_pos
  induction width generalizing d with
  | zero => rfl
  | succ width ih =>
    have hsplit : d * alphabet.base ^ (width + 1) + n
        = d * alphabet.base * alphabet.base ^ width + n := by ring
    rw [write, write, hsplit, ih, Nat.mul_comm (d * alphabet.base),
      Nat.mul_add_div (Nat.pow_pos hbase), Nat.add_comm, Nat.add_mul_mod_self_right]

/-- A text reads as `n` exactly when it writes `n`. -/
theorem read_eq_some_iff {text : List Char} {n : ℕ} :
    alphabet.read text = some n ↔
      n < alphabet.base ^ text.length ∧ alphabet.write text.length n = text := by
  have hbase := alphabet.base_pos
  induction text generalizing n with
  | nil =>
    simp only [read, write, Option.some.injEq, List.length_nil, Nat.pow_zero, and_true]
    omega
  | cons c text ih =>
    have hpow : 0 < alphabet.base ^ text.length := Nat.pow_pos hbase
    simp only [read, Option.bind_eq_bind, Option.bind_eq_some_iff, Option.pure_def,
      Option.some.injEq, List.length_cons, write]
    constructor
    · rintro ⟨d, hd, m, hm, rfl⟩
      obtain ⟨hlt, rfl⟩ := alphabet.digit_of_value c d hd
      obtain ⟨hm, hwrite⟩ := ih.1 hm
      constructor
      · calc d * alphabet.base ^ text.length + m
            < d * alphabet.base ^ text.length + alphabet.base ^ text.length := by omega
          _ = (d + 1) * alphabet.base ^ text.length := by ring
          _ ≤ alphabet.base * alphabet.base ^ text.length := Nat.mul_le_mul_right _ hlt
          _ = alphabet.base ^ (text.length + 1) := by ring
      · rw [alphabet.write_add_mul, hwrite, Nat.mul_comm, Nat.mul_add_div hpow,
          Nat.div_eq_of_lt hm, Nat.add_zero, Nat.mod_eq_of_lt hlt]
    · rintro ⟨hlt, hwrite⟩
      obtain ⟨hhead, htail⟩ := List.cons.inj hwrite
      have hdigit : n / alphabet.base ^ text.length < alphabet.base := by
        rw [Nat.div_lt_iff_lt_mul hpow, Nat.mul_comm, ← Nat.pow_succ]
        exact hlt
      rw [Nat.mod_eq_of_lt hdigit] at hhead
      refine ⟨n / alphabet.base ^ text.length, ?_, n % alphabet.base ^ text.length, ?_, ?_⟩
      · rw [← hhead]
        exact alphabet.value_digit _ hdigit
      · refine ih.2 ⟨Nat.mod_lt _ hpow, ?_⟩
        have hsplit := alphabet.write_add_mul text.length (n % alphabet.base ^ text.length)
          (n / alphabet.base ^ text.length)
        rw [Nat.mul_comm, Nat.div_add_mod, htail] at hsplit
        exact hsplit.symm
      · rw [Nat.mul_comm, Nat.div_add_mod]

/-- What is written is read back. -/
theorem read_write {width n : ℕ} (h : n < alphabet.base ^ width) :
    alphabet.read (alphabet.write width n) = some n := by
  rw [read_eq_some_iff, length_write]
  exact ⟨h, rfl⟩

end Alphabet

/-! ## Decimal and hexadecimal digits -/

def decimalDigit (d : ℕ) : Char := Char.ofNat (48 + d)

def decimalValue (c : Char) : Option ℕ :=
  if '0' ≤ c ∧ c ≤ '9' then some (c.toNat - 48) else none

def lowerHexDigit (d : ℕ) : Char := if d < 10 then Char.ofNat (48 + d) else Char.ofNat (87 + d)

def lowerHexValue (c : Char) : Option ℕ :=
  if '0' ≤ c ∧ c ≤ '9' then some (c.toNat - 48)
  else if 'a' ≤ c ∧ c ≤ 'f' then some (c.toNat - 87)
  else none

/-- Between two characters the code points are between theirs. -/
theorem toNat_bounds {low high c : Char} (hlow : low ≤ c) (hhigh : c ≤ high) :
    low.toNat ≤ c.toNat ∧ c.toNat ≤ high.toNat :=
  ⟨hlow, hhigh⟩

/-- `[0-9]`. -/
def decimal : Alphabet where
  base := 10
  digit := decimalDigit
  value := decimalValue
  base_pos := by decide
  value_digit := by decide
  digit_of_value := by
    intro c d h
    unfold decimalValue at h
    split at h
    · rename_i hc
      obtain ⟨hlow, hhigh⟩ := toNat_bounds hc.1 hc.2
      have hlow : 48 ≤ c.toNat := hlow
      have hhigh : c.toNat ≤ 57 := hhigh
      cases h
      refine ⟨by omega, ?_⟩
      rw [decimalDigit, Nat.add_sub_cancel' hlow, Char.ofNat_toNat]
    · cases h

/-- `[0-9a-f]`. -/
def lowerHex : Alphabet where
  base := 16
  digit := lowerHexDigit
  value := lowerHexValue
  base_pos := by decide
  value_digit := by decide
  digit_of_value := by
    intro c d h
    unfold lowerHexValue at h
    split at h
    · rename_i hc
      obtain ⟨hlow, hhigh⟩ := toNat_bounds hc.1 hc.2
      have hlow : 48 ≤ c.toNat := hlow
      have hhigh : c.toNat ≤ 57 := hhigh
      cases h
      refine ⟨by omega, ?_⟩
      rw [lowerHexDigit, if_pos (by omega), Nat.add_sub_cancel' hlow, Char.ofNat_toNat]
    · split at h
      · rename_i hc
        obtain ⟨hlow, hhigh⟩ := toNat_bounds hc.1 hc.2
        have hlow : 97 ≤ c.toNat := hlow
        have hhigh : c.toNat ≤ 102 := hhigh
        cases h
        refine ⟨by omega, ?_⟩
        have hsum : 87 + (c.toNat - 87) = c.toNat := by omega
        rw [lowerHexDigit, if_neg (by omega), hsum, Char.ofNat_toNat]
      · cases h
