import Mathlib.Data.List.Basic
import Mathlib.Tactic.Common

/-!
# Finding and splitting

The first occurrence of a pattern, which nothing that follows moves, and the splitting of a text
at its separators: into all its pieces, or into its words, the pieces that are not empty.
-/

namespace Splitting

variable {β γ : Type}

/-! ## Patterns -/

section Find

variable [DecidableEq β]

/-- `text.find(pattern)`. -/
def find (pattern : List β) : List β → Option ℕ
  | [] => if pattern = [] then some 0 else none
  | b :: text =>
    if pattern <+: b :: text then some 0 else (find pattern text).map (· + 1)

/-- What is found is an occurrence. -/
theorem find_eq_some {pattern : List β} : ∀ {text : List β} {i : ℕ},
    find pattern text = some i → pattern <+: text.drop i
  | [], i, h => by
    rw [find] at h
    split at h
    · rename_i hnil
      rw [hnil]
      exact List.nil_prefix
    · cases h
  | b :: text, i, h => by
    rw [find] at h
    split at h
    · rename_i hstarts
      cases h
      exact hstarts
    · obtain ⟨j, hj, rfl⟩ := Option.map_eq_some_iff.1 h
      have htail := find_eq_some hj
      exact htail

/-- Every occurrence is found. -/
theorem isSome_find_iff {pattern : List β} : ∀ {text : List β},
    (find pattern text).isSome = true ↔ pattern <:+: text
  | [] => by
    rw [find, List.infix_nil]
    split <;> simp_all
  | b :: text => by
    rw [find, List.infix_cons_iff]
    split
    · simp [*]
    · rename_i hnot
      rw [Option.isSome_map, isSome_find_iff, or_iff_right hnot]

theorem length_le_of_find {pattern text : List β} {i : ℕ} (h : find pattern text = some i)
    (hne : pattern ≠ []) : i + pattern.length ≤ text.length := by
  have hle := (find_eq_some h).length_le
  have hpos := List.length_pos_of_ne_nil hne
  rw [List.length_drop] at hle
  omega

/-- What is found stays found when more arrives. -/
theorem find_append {pattern : List β} (hne : pattern ≠ []) : ∀ {text : List β} {i : ℕ}
    (later : List β), find pattern text = some i → find pattern (text ++ later) = some i
  | [], i, later, h => by
    rw [find, if_neg hne] at h
    cases h
  | b :: text, i, later, h => by
    rw [List.cons_append, find]
    rw [find] at h
    split at h
    · rename_i hstarts
      cases h
      exact if_pos (hstarts.trans (List.prefix_append _ _))
    · rename_i hnot
      obtain ⟨j, hj, rfl⟩ := Option.map_eq_some_iff.1 h
      have hlength := length_le_of_find hj hne
      -- the occurrence that begins here would lie in what arrived first
      have hnot' : ¬ pattern <+: b :: (text ++ later) := by
        intro hstarts
        refine hnot ?_
        rw [← List.cons_append] at hstarts
        exact List.prefix_of_prefix_length_le hstarts (List.prefix_append _ _)
          (by rw [List.length_cons]; omega)
      rw [if_neg hnot', find_append hne later hj]
      rfl

/-- An occurrence within what arrived first is found there. -/
theorem find_of_append {pattern text : List β} (later : List β) {i : ℕ} (hne : pattern ≠ [])
    (h : find pattern (text ++ later) = some i) (hi : i + pattern.length ≤ text.length) :
    find pattern text = some i := by
  induction text generalizing i with
  | nil =>
    have hpos := List.length_pos_of_ne_nil hne
    rw [List.length_nil] at hi
    omega
  | cons b text ih =>
    rw [List.cons_append, find] at h
    rw [find]
    split at h
    · rename_i hstarts
      cases h
      rw [← List.cons_append] at hstarts
      exact if_pos (List.prefix_of_prefix_length_le hstarts (List.prefix_append _ _) (by omega))
    · rename_i hnot
      obtain ⟨j, hj, rfl⟩ := Option.map_eq_some_iff.1 h
      rw [List.length_cons] at hi
      rw [if_neg (fun hstarts => hnot (hstarts.trans (List.prefix_append _ later)))]
      rw [ih hj (by omega)]
      rfl

/-- A pattern is not found where its first symbol is not. -/
theorem find_skip {b : β} {pattern text : List β} (rest : List β) (h : b ∉ text) :
    find (b :: pattern) (text ++ rest) =
      (find (b :: pattern) rest).map fun i => text.length + i := by
  induction text with
  | nil => simp
  | cons c text ih =>
    rw [List.mem_cons, not_or] at h
    rw [List.cons_append, find, if_neg, ih h.2, Option.map_map]
    · congr 1
      funext i
      simp only [Function.comp_apply, List.length_cons]
      omega
    · intro hstarts
      exact h.1 (List.cons_prefix_cons.1 hstarts).1

end Find

/-! ## Pieces and words -/

section Pieces

variable (space : β → Bool)

/-- The pieces between separators. -/
def pieces : List β → List (List β)
  | [] => [[]]
  | b :: text =>
    if space b then [] :: pieces text
    else
      match pieces text with
      | [] => [[b]]
      | piece :: rest => (b :: piece) :: rest

/-- `text.split()`: the pieces that are not empty. -/
def words (text : List β) : List (List β) := (pieces space text).filter fun piece => !piece.isEmpty

variable {space}

theorem pieces_ne_nil (text : List β) : pieces space text ≠ [] := by
  cases text with
  | nil => simp [pieces]
  | cons b text =>
    rw [pieces]
    split
    · simp
    · split <;> simp

/-- A separator separates. -/
theorem pieces_append {separator : β} (h : space separator = true) (text rest : List β) :
    pieces space (text ++ separator :: rest) = pieces space text ++ pieces space rest := by
  induction text with
  | nil =>
    rw [List.nil_append, pieces.eq_def]
    dsimp only
    rw [if_pos h]
    rfl
  | cons b text ih =>
    rw [List.cons_append, pieces, pieces, ih]
    split
    · rfl
    · cases hpieces : pieces space text with
      | nil => exact absurd hpieces (pieces_ne_nil text)
      | cons piece others => rfl

theorem words_append {separator : β} (h : space separator = true) (text rest : List β) :
    words space (text ++ separator :: rest) = words space text ++ words space rest := by
  rw [words, pieces_append h, List.filter_append]
  rfl

/-- A text without separators is one piece. -/
theorem pieces_eq_singleton {text : List β} (h : ∀ b ∈ text, space b = false) :
    pieces space text = [text] := by
  induction text with
  | nil => rfl
  | cons b text ih =>
    obtain ⟨hb, htext⟩ := List.forall_mem_cons.1 h
    rw [pieces, if_neg (by simp [hb]), ih htext]

theorem words_eq_singleton {text : List β} (h : ∀ b ∈ text, space b = false) (hne : text ≠ []) :
    words space text = [text] := by
  rw [words, pieces_eq_singleton h]
  simp [hne]

/-- Fields without separators are the pieces of the text that joins them. -/
theorem pieces_intercalate {separator : β} (h : space separator = true) {fields : List (List β)}
    (hne : fields ≠ []) (hfields : ∀ field ∈ fields, ∀ b ∈ field, space b = false) :
    pieces space ([separator].intercalate fields) = fields := by
  induction fields with
  | nil => exact absurd rfl hne
  | cons field fields ih =>
    obtain ⟨hfield, hrest⟩ := List.forall_mem_cons.1 hfields
    cases fields with
    | nil =>
      rw [List.intercalate_singleton]
      exact pieces_eq_singleton hfield
    | cons next fields =>
      rw [List.intercalate_cons_cons, List.append_assoc, List.singleton_append, pieces_append h,
        pieces_eq_singleton hfield, ih (by simp) hrest]
      rfl

/-- The words of joined fields are the words of each. -/
theorem words_intercalate {separator : β} (h : space separator = true) (fields : List (List β)) :
    words space ([separator].intercalate fields) = fields.flatMap (words space) := by
  induction fields with
  | nil => rfl
  | cons field fields ih =>
    cases fields with
    | nil =>
      rw [List.intercalate_singleton]
      simp
    | cons next fields =>
      rw [List.intercalate_cons_cons, List.append_assoc, List.singleton_append, words_append h, ih]
      rfl

/-- A piece holds no separator. -/
theorem not_space_of_mem_pieces {text : List β} : ∀ piece ∈ pieces space text, ∀ b ∈ piece,
    space b = false := by
  induction text with
  | nil => simp [pieces]
  | cons b text ih =>
    rw [pieces]
    split
    · rw [List.forall_mem_cons]
      exact ⟨by simp, ih⟩
    · rename_i hb
      cases hpieces : pieces space text with
      | nil => exact absurd hpieces (pieces_ne_nil text)
      | cons piece others =>
        rw [hpieces] at ih
        obtain ⟨hpiece, hothers⟩ := List.forall_mem_cons.1 ih
        dsimp only
        rw [List.forall_mem_cons, List.forall_mem_cons]
        exact ⟨⟨Bool.not_eq_true _ ▸ hb, hpiece⟩, hothers⟩

theorem mem_words {text word : List β} (h : word ∈ words space text) :
    word ≠ [] ∧ ∀ b ∈ word, space b = false := by
  obtain ⟨hmem, hne⟩ := List.mem_filter.1 h
  exact ⟨by simpa using hne, not_space_of_mem_pieces word hmem⟩

/-- Spelling every symbol out splits a text at the same places. -/
theorem pieces_flatMap {space' : γ → Bool} {spell : β → List γ}
    (hspace : ∀ b, space b = true → ∃ c, spell b = [c] ∧ space' c = true)
    (hplain : ∀ b, space b = false → ∀ c ∈ spell b, space' c = false) (text : List β) :
    pieces space' (text.flatMap spell) =
      (pieces space text).map fun piece => piece.flatMap spell := by
  have hprepend : ∀ (word rest : List γ), (∀ c ∈ word, space' c = false) →
      pieces space' (word ++ rest) =
        match pieces space' rest with
        | [] => [word]
        | piece :: others => (word ++ piece) :: others := by
    intro word rest hword
    induction word with
    | nil =>
      cases hpieces : pieces space' rest with
      | nil => exact absurd hpieces (pieces_ne_nil rest)
      | cons piece others => exact hpieces
    | cons c word ih =>
      obtain ⟨hc, hword⟩ := List.forall_mem_cons.1 hword
      rw [List.cons_append, pieces, if_neg (by simp [hc]), ih hword]
      cases hpieces : pieces space' rest with
      | nil => exact absurd hpieces (pieces_ne_nil rest)
      | cons piece others => rfl
  induction text with
  | nil => rfl
  | cons b text ih =>
    rw [List.flatMap_cons, pieces]
    by_cases hb : space b = true
    · obtain ⟨c, hspell, hc⟩ := hspace b hb
      rw [hspell, List.singleton_append, pieces, if_pos hc, if_pos hb, ih]
      rfl
    · rw [if_neg hb, hprepend _ _ (hplain b (Bool.not_eq_true _ ▸ hb)), ih]
      cases hpieces : pieces space text with
      | nil => exact absurd hpieces (pieces_ne_nil text)
      | cons piece others => rfl

theorem words_flatMap {space' : γ → Bool} {spell : β → List γ}
    (hspace : ∀ b, space b = true → ∃ c, spell b = [c] ∧ space' c = true)
    (hplain : ∀ b, space b = false → ∀ c ∈ spell b, space' c = false)
    (hne : ∀ b, spell b ≠ []) (text : List β) :
    words space' (text.flatMap spell) = (words space text).map fun word => word.flatMap spell := by
  rw [words, pieces_flatMap hspace hplain, List.filter_map]
  congr 1
  refine List.filter_congr fun piece _ => ?_
  cases piece with
  | nil => rfl
  | cons b piece =>
    have hb := hne b
    simp [hb]

end Pieces

end Splitting
