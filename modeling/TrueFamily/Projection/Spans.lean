import TrueFamily.Projection.EntryTemplates

/-!
# Literals in the source

Where the source pattern finds an entity, the entity stands in the text (`text_of_span`). Another
entity in its place leaves the delimiters of Jinja as they are (`hasJinja_replaceSpan`).
-/

namespace TrueFamily.Projection

open JsonValue (Text)

/-- The text with another text at the span. -/
def replaceSpan (text : Text) (span : ℕ × ℕ) (targetEntityId : Text) : Text :=
  text.take span.1 ++ targetEntityId ++ text.drop span.2

section

variable {text entity target : Text}

/-- The entity stands at its span. -/
theorem text_of_span {span : ℕ × ℕ} (h : span ∈ sourceLiteralSpans text entity) :
    IsEntityId entity ∧ ∃ before later, text = before ++ (entity ++ later) ∧
      ∀ target, replaceSpan text span target = before ++ (target ++ later) := by
  obtain ⟨found, hfound, rfl⟩ := List.mem_map.1 h
  obtain ⟨hmem, hfilter⟩ := List.mem_filter.1 hfound
  obtain rfl : found.entity = entity := of_decide_eq_true (Bool.and_eq_true_iff.1 hfilter).1
  obtain ⟨before, later, rfl, hquoted, hstart⟩ := quoted_of_helperMatch hmem
  obtain ⟨domain, objectId, quote, rest, hdomain, hobject, heq, -, rfl⟩ :=
    quotedEntity_eq_some hquoted
  have hlength : (before ++ [quote]).length = found.entityStart := by
    rw [← hstart, List.length_append, List.length_singleton, Nat.zero_add]
  have htext : before ++ quote :: (found.entity ++ quote :: rest) =
      (before ++ [quote]) ++ (found.entity ++ quote :: rest) := by
    rw [List.append_assoc, List.singleton_append]
  refine ⟨⟨domain, objectId, hdomain, hobject, heq⟩, before ++ [quote], quote :: rest, htext,
    fun target => ?_⟩
  rw [replaceSpan, ← hlength, htext, List.append_assoc _ target]
  congr 1
  · exact List.take_left' rfl
  · rw [← List.append_assoc _ found.entity, List.drop_left' (List.length_append)]

/-- A pair of characters that an inner text has not stands before it or behind it. -/
theorem pair_of_infix {a b : Char} {before inner later : Text} (hinner : inner ≠ [])
    (ha : a ∉ inner) (hb : b ∉ inner) (h : [a, b] <:+: before ++ (inner ++ later)) :
    [a, b] <:+: before ∨ [a, b] <:+: later := by
  obtain ⟨c, inner, rfl⟩ := List.exists_cons_of_ne_nil hinner
  obtain ⟨start, rest, heq⟩ := h
  rw [List.append_assoc] at heq
  rcases List.append_eq_append_iff.1 heq with ⟨mid, rfl, hmid⟩ | ⟨mid, rfl, hmid⟩
  · match mid with
    | [] =>
      obtain ⟨rfl, -⟩ := List.cons.inj hmid
      exact absurd List.mem_cons_self ha
    | [x] =>
      obtain ⟨-, hmid⟩ := List.cons.inj hmid
      obtain ⟨rfl, -⟩ := List.cons.inj hmid
      exact absurd List.mem_cons_self hb
    | x :: y :: mid =>
      obtain ⟨hx, hmid⟩ := List.cons.inj hmid
      obtain ⟨hy, -⟩ := List.cons.inj hmid
      exact Or.inl ⟨start, mid, by simp [hx, hy]⟩
  · rcases List.append_eq_append_iff.1 hmid with ⟨tail, rfl, htail⟩ | ⟨tail, htail, hlater⟩
    · exact Or.inr ⟨tail, rest, by rw [htail, List.append_assoc]⟩
    · cases tail with
      | nil => exact Or.inr ⟨[], rest, by simpa using hlater⟩
      | cons x tail =>
        obtain ⟨rfl, -⟩ := List.cons.inj hlater
        exact absurd (htail ▸ List.mem_append_right _ List.mem_cons_self) ha

/-- The delimiters of Jinja stay. -/
theorem hasJinja_replaceSpan {span : ℕ × ℕ} (h : span ∈ sourceLiteralSpans text entity)
    (hjinja : hasJinja text = true) : hasJinja (replaceSpan text span target) = true := by
  obtain ⟨hid, before, later, rfl, hreplace⟩ := text_of_span h
  rw [hreplace]
  have hbrace : '\x7b' ∉ entity := hid.not_mem (by decide) (by decide)
  have hpercent : '%' ∉ entity := hid.not_mem (by decide) (by decide)
  have hstays : ∀ b : Char, b ∉ entity →
      (Splitting.find ['\x7b', b] (before ++ (entity ++ later))).isSome = true →
        (Splitting.find ['\x7b', b] (before ++ (target ++ later))).isSome = true := by
    intro b hb hsome
    rw [Splitting.isSome_find_iff] at hsome ⊢
    rcases pair_of_infix hid.ne_nil hbrace hb hsome with hpair | hpair
    · exact hpair.trans (List.infix_append' [] before _)
    · exact hpair.trans ⟨before ++ target, [], by simp⟩
  rw [hasJinja, Bool.or_eq_true] at hjinja ⊢
  exact hjinja.imp (hstays '\x7b' hbrace) (hstays '%' hpercent)

end

end TrueFamily.Projection
