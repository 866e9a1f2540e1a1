import Mathlib.Data.List.TakeWhile
import TrueFamily.Lib.Json

/-!
# Entity tokens of a text

The entity patterns of the projection and of the config-entry provider. `entityTokens` are the
matches of the zero-width pattern of the projection, at every start of a word; `foundEntities` are
those of the consuming pattern of the provider, which goes on behind a match. So of the words
`a.b.c` the first finds `a.b` and `b.c` and the second only `a.b`.
-/

namespace TrueFamily.Projection

open JsonValue (Text)

/-- `[a-z0-9_]`. -/
def isWord (c : Char) : Bool :=
  decide (('a' ≤ c ∧ c ≤ 'z') ∨ ('0' ≤ c ∧ c ≤ '9') ∨ c = '_')

/-- `[a-z0-9_]+\.[a-z0-9_]+(?![a-z0-9_])` at the start of a text. -/
def tokenAt (text : Text) : Option Text :=
  match text.dropWhile isWord with
  | '.' :: rest =>
    if text.takeWhile isWord ≠ [] ∧ rest.takeWhile isWord ≠ [] then
      some (text.takeWhile isWord ++ '.' :: rest.takeWhile isWord)
    else none
  | _ => none

/-- The matches of `_ENTITY_TOKEN_PATTERN`, behind a character of a word or not. -/
def tokensFrom : Bool → Text → List Text
  | _, [] => []
  | afterWord, c :: rest =>
    (if afterWord then [] else (tokenAt (c :: rest)).toList) ++ tokensFrom (isWord c) rest

/-- The entities that `_ENTITY_TOKEN_PATTERN.finditer` finds. -/
def entityTokens (text : Text) : List Text := tokensFrom false text

/-- The matches of `_CONFIG_ENTRY_REFERENCE_ENTITY_PATTERN`; the first `skip` characters belong to a
match. -/
def foundFrom : ℕ → Bool → Text → List Text
  | _, _, [] => []
  | skip + 1, _, c :: rest => foundFrom skip (isWord c) rest
  | 0, afterWord, c :: rest =>
    match if afterWord then none else tokenAt (c :: rest) with
    | some token => token :: foundFrom (token.length - 1) (isWord c) rest
    | none => foundFrom 0 (isWord c) rest

/-- The entities that `_CONFIG_ENTRY_REFERENCE_ENTITY_PATTERN.finditer` finds. -/
def foundEntities (text : Text) : List Text := foundFrom 0 false text

/-- `_contains_complete_entity`. -/
def containsCompleteEntity (text oldEntityId : Text) : Bool :=
  (entityTokens text).contains oldEntityId

/-- `domain.object_id`. -/
def entityId (domain objectId : Text) : Text := domain ++ '.' :: objectId

/-- A word that is not empty. -/
def IsPart (text : Text) : Prop := text ≠ [] ∧ ∀ c ∈ text, isWord c = true

/-- An entity ID `domain.object_id` over `[a-z0-9_]+`. -/
def IsEntityId (text : Text) : Prop :=
  ∃ domain objectId, IsPart domain ∧ IsPart objectId ∧ text = entityId domain objectId

/-! ## Tokens -/

variable {text token rest : Text}

theorem isWord_dot : isWord '.' = false := by decide

theorem takeWhile_append_stop {word : Text} {c : Char} (hword : ∀ d ∈ word, isWord d = true)
    (hc : isWord c = false) (rest : Text) : (word ++ c :: rest).takeWhile isWord = word ∧
      (word ++ c :: rest).dropWhile isWord = c :: rest := by
  constructor
  · rw [List.takeWhile_append_of_pos hword, List.takeWhile_cons_of_neg (by simp [hc]),
      List.append_nil]
  · rw [List.dropWhile_append_of_pos hword, List.dropWhile_cons_of_neg (by simp [hc])]

theorem tokenAt_eq_some (h : tokenAt text = some token) : ∃ domain objectId rest,
    IsPart domain ∧ IsPart objectId ∧ token = entityId domain objectId ∧ text = token ++ rest := by
  rw [tokenAt] at h
  split at h
  · rename_i tail htail
    split at h
    · rename_i hne
      obtain rfl := Option.some.inj h
      refine ⟨text.takeWhile isWord, tail.takeWhile isWord, tail.dropWhile isWord,
        ⟨hne.1, fun c => List.mem_takeWhile_imp⟩, ⟨hne.2, fun c => List.mem_takeWhile_imp⟩, rfl, ?_⟩
      rw [List.append_assoc, List.cons_append, List.takeWhile_append_dropWhile, ← htail,
        List.takeWhile_append_dropWhile]
    · cases h
  · cases h

theorem tokenAt_entityId {domain objectId : Text} (hdomain : IsPart domain)
    (hobject : IsPart objectId) (hrest : rest.takeWhile isWord = []) :
    tokenAt (entityId domain objectId ++ rest) = some (entityId domain objectId) := by
  have hsplit : entityId domain objectId ++ rest = domain ++ '.' :: (objectId ++ rest) := by
    simp [entityId]
  obtain ⟨htake, hdrop⟩ := takeWhile_append_stop hdomain.2 isWord_dot (objectId ++ rest)
  have htake' : (objectId ++ rest).takeWhile isWord = objectId := by
    rw [List.takeWhile_append_of_pos hobject.2, hrest, List.append_nil]
  simp only [tokenAt, hsplit, hdrop]
  rw [htake, htake', if_pos ⟨hdomain.1, hobject.1⟩]
  rfl

/-- The other characters stand in no entity ID. -/
theorem IsEntityId.not_mem (h : IsEntityId text) {c : Char} (hword : isWord c = false)
    (hdot : c ≠ '.') : c ∉ text := by
  obtain ⟨domain, objectId, hdomain, hobject, rfl⟩ := h
  intro hmem
  rcases List.mem_append.1 hmem with hmem | hmem
  · exact Bool.noConfusion (hword.symm.trans (hdomain.2 c hmem))
  · rcases List.mem_cons.1 hmem with heq | hmem
    · exact hdot heq
    · exact Bool.noConfusion (hword.symm.trans (hobject.2 c hmem))

/-- An entity ID is a token of itself. -/
theorem IsEntityId.contains_self (h : IsEntityId text) :
    containsCompleteEntity text text = true := by
  obtain ⟨domain, objectId, hdomain, hobject, rfl⟩ := h
  obtain ⟨first, tail, hfirst⟩ := List.exists_cons_of_ne_nil hdomain.1
  have htoken := @tokenAt_entityId [] _ _ hdomain hobject rfl
  rw [List.append_nil] at htoken
  have hcons : entityId domain objectId = first :: (tail ++ '.' :: objectId) := by
    simp [entityId, hfirst]
  rw [containsCompleteEntity, entityTokens, List.contains_iff_mem]
  rw [hcons] at htoken ⊢
  rw [tokensFrom, htoken]
  exact List.mem_cons_self

theorem tokenAt_of_not_word {c : Char} (hc : isWord c = false) : tokenAt (c :: rest) = none := by
  rw [tokenAt, List.dropWhile_cons_of_neg (by simp [hc])]
  split
  · rw [if_neg]
    rw [List.takeWhile_cons_of_neg (by simp [hc])]
    simp
  · rfl

theorem isEntityId_of_mem_tokensFrom : ∀ {text : Text} {afterWord : Bool},
    token ∈ tokensFrom afterWord text → IsEntityId token := by
  intro text
  induction text with
  | nil => exact fun h => absurd h List.not_mem_nil
  | cons c rest ih =>
    intro afterWord h
    rw [tokensFrom] at h
    rcases List.mem_append.1 h with h | h
    · split at h
      · exact absurd h List.not_mem_nil
      · obtain ⟨domain, objectId, _, hdomain, hobject, rfl, -⟩ :=
          tokenAt_eq_some (Option.mem_toList.1 h)
        exact ⟨domain, objectId, hdomain, hobject, rfl⟩
    · exact ih h

/-- What the consuming pattern finds, the zero-width one finds too. -/
theorem mem_tokensFrom_of_mem_foundFrom : ∀ {text : Text} {skip : ℕ} {afterWord : Bool},
    token ∈ foundFrom skip afterWord text → token ∈ tokensFrom afterWord text := by
  intro text
  induction text with
  | nil =>
    intro skip afterWord h
    cases skip <;> exact absurd h List.not_mem_nil
  | cons c rest ih =>
    intro skip afterWord h
    rw [tokensFrom]
    cases skip with
    | succ skip => exact List.mem_append_right _ (ih h)
    | zero =>
      rw [foundFrom] at h
      split at h
      · rename_i found hfound
        rcases List.mem_cons.1 h with rfl | h
        · refine List.mem_append_left _ ?_
          split at hfound
          · cases hfound
          · rename_i hafter
            rw [if_neg hafter, hfound]
            exact List.mem_cons_self
        · exact List.mem_append_right _ (ih h)
      · exact List.mem_append_right _ (ih h)

/-- Where the zero-width pattern finds something, the consuming one does. -/
theorem foundFrom_ne_nil : ∀ {text : Text} {afterWord : Bool},
    tokensFrom afterWord text ≠ [] → foundFrom 0 afterWord text ≠ [] := by
  intro text
  induction text with
  | nil => exact fun h => absurd rfl h
  | cons c rest ih =>
    intro afterWord h
    rw [foundFrom]
    split
    · exact List.cons_ne_nil _ _
    · rename_i hnone
      refine ih fun hnil => h ?_
      rw [tokensFrom, hnil, List.append_nil]
      split
      · rfl
      · rename_i hafter
        rw [if_neg hafter] at hnone
        rw [hnone]
        rfl

/-- An entity between two characters that can stand in no token is found. -/
theorem mem_foundFrom_of_quoted {domain objectId : Text} (hdomain : IsPart domain)
    (hobject : IsPart objectId) {opening closing : Char}
    (hopening : isWord opening = false ∧ opening ≠ '.') (hclosing : isWord closing = false)
    (rest : Text) : ∀ {before : Text} {skip : ℕ} {afterWord : Bool}, skip ≤ before.length →
      entityId domain objectId ∈ foundFrom skip afterWord
        (before ++ opening :: (entityId domain objectId ++ closing :: rest)) := by
  intro before
  induction before with
  | nil =>
    intro skip afterWord hskip
    obtain rfl : skip = 0 := Nat.le_zero.1 hskip
    have hnone : (if afterWord = true then none else
        tokenAt (opening :: (entityId domain objectId ++ closing :: rest))) = none := by
      rw [tokenAt_of_not_word hopening.1]
      exact ite_self _
    rw [List.nil_append, foundFrom, hnone]
    dsimp only
    rw [hopening.1]
    obtain ⟨first, tail, hfirst⟩ := List.exists_cons_of_ne_nil hdomain.1
    have htoken := @tokenAt_entityId (closing :: rest) _ _ hdomain hobject
      (List.takeWhile_cons_of_neg (by simp [hclosing]))
    have hcons : entityId domain objectId ++ closing :: rest =
        first :: (tail ++ '.' :: objectId ++ closing :: rest) := by
      simp [entityId, hfirst]
    rw [hcons] at htoken ⊢
    rw [foundFrom, if_neg Bool.false_ne_true, htoken]
    exact List.mem_cons_self
  | cons c before ih =>
    intro skip afterWord hskip
    rw [List.cons_append]
    cases skip with
    | succ skip => exact ih (Nat.le_of_succ_le_succ hskip)
    | zero =>
      rw [foundFrom]
      split
      · rename_i found hfound
        refine List.mem_cons_of_mem _ (ih ?_)
        -- the match ends before the opening character
        split at hfound
        · cases hfound
        · obtain ⟨d, o, tail, hd, ho, hfound, htext⟩ := tokenAt_eq_some hfound
          by_contra hlong
          have hchars : ∀ x ∈ found, isWord x = true ∨ x = '.' := by
            rw [hfound]
            intro x hx
            rcases List.mem_append.1 hx with hx | hx
            · exact Or.inl (hd.2 x hx)
            · rcases List.mem_cons.1 hx with rfl | hx
              · exact Or.inr rfl
              · exact Or.inl (ho.2 x hx)
          have hat : found[before.length + 1]? = some opening := by
            have hget := congrArg (fun list => list[before.length + 1]?) htext
            rw [List.getElem?_append_left (by omega), ← List.cons_append,
              List.getElem?_append_right (by simp)] at hget
            simpa using hget.symm
          rcases hchars opening (List.mem_of_getElem? hat) with hword | hdot
          · rw [hopening.1] at hword
            cases hword
          · exact hopening.2 hdot
      · exact ih (Nat.zero_le _)

end TrueFamily.Projection
