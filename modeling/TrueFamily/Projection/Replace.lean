import TrueFamily.Projection.Spans
import TrueFamily.Projection.Strings
import TrueFamily.Projection.Substitute

/-!
# The replacement of references

`replace_semantic_references`. The strings of a payload stand at distinct paths, so what the scan
reports of a path is what it finds in the string there. A replacement changes the strings at the
replaceable paths and nothing else (`replaceValue_eq`). Nothing is left of the old entity exactly
when the literal that is found in the source of a template is the one that the tree approves
(`replacement_exact_iff`).
-/

namespace TrueFamily.Projection

open Checked Sorting
open JsonValue (Text)

/-! ## The replacement -/

/-- `_replace_template_literal`. -/
def replaceTemplateLiteral (text oldEntityId targetEntityId : Text) : Text × ℕ :=
  match sourceLiteralSpans text oldEntityId with
  | [(start, stop)] => (text.take start ++ targetEntityId ++ text.drop stop, 1)
  | _ => (text, 0)

/-- `replace_value` on a string; nothing where it raises `ValueError`. -/
def replaceText (replaceable : List ReferencePath) (oldEntityId targetEntityId text : Text)
    (path : ReferencePath) : Option (Text × ℕ) :=
  if path ∉ replaceable then some (text, 0)
  else if text = oldEntityId then some (targetEntityId, 1)
  else
    let (replaced, replacements) := replaceTemplateLiteral text oldEntityId targetEntityId
    if replacements ≠ 1 then none else some (replaced, replacements)

mutual

/-- `replace_value`, with the replacements that it counts. -/
def replaceValue (replaceable : List ReferencePath) (oldEntityId targetEntityId : Text) :
    Payload → ReferencePath → Option (Payload × ℕ)
  | .dict entries, path => do
    let (entries, count) ← replaceEntries replaceable oldEntityId targetEntityId entries path
    return (.dict entries, count)
  | .list items, path => do
    let (items, count) ← replaceItems replaceable oldEntityId targetEntityId items path 0
    return (.list items, count)
  | .str text, path => do
    let (text, count) ← replaceText replaceable oldEntityId targetEntityId text path
    return (.str text, count)
  | .scalar text, _ => some (.scalar text, 0)

def replaceEntries (replaceable : List ReferencePath) (oldEntityId targetEntityId : Text) :
    List (Text × Payload) → ReferencePath → Option (List (Text × Payload) × ℕ)
  | [], _ => some ([], 0)
  | (key, value) :: entries, path => do
    let (value, count) ←
      replaceValue replaceable oldEntityId targetEntityId value (path ++ [.key key])
    let (entries, more) ← replaceEntries replaceable oldEntityId targetEntityId entries path
    return ((key, value) :: entries, count + more)

def replaceItems (replaceable : List ReferencePath) (oldEntityId targetEntityId : Text) :
    List Payload → ReferencePath → ℕ → Option (List Payload × ℕ)
  | [], _, _ => some ([], 0)
  | item :: items, path, index => do
    let (item, count) ←
      replaceValue replaceable oldEntityId targetEntityId item (path ++ [.index index])
    let (items, more) ← replaceItems replaceable oldEntityId targetEntityId items path (index + 1)
    return (item :: items, count + more)

end

/-- `replace_semantic_references`; nothing where it raises `ValueError`. -/
def replaceSemanticReferences [JinjaParser] (payload : Payload) (oldEntityId targetEntityId : Text)
    (provider : Option Text) : Option (Payload × ℕ) := do
  let scan ← scanSemanticReferences payload oldEntityId provider
  replaceValue scan.replaceablePaths oldEntityId targetEntityId payload []

/-! ## What the scan finds -/

section

variable [JinjaParser] {old target : Text} {provider : Option Text}

omit [JinjaParser] in
theorem foldr_scans (scans : List SemanticReferenceScan) :
    scans.foldr (· ++ ·) ⟨[], []⟩ = ⟨scans.flatMap SemanticReferenceScan.replaceablePaths,
      scans.flatMap SemanticReferenceScan.blocked⟩ := by
  induction scans with
  | nil => rfl
  | cons scan scans ih =>
    rw [List.foldr_cons, ih]
    rfl

/-- The order of the keys does not matter. -/
theorem perm_walk_dict (entries : List (Text × Payload)) (path : ReferencePath) :
    (walk old provider (.dict entries) path).replaceablePaths.Perm
        ((walkEntries old provider entries path).flatMap fun entry => entry.2.replaceablePaths) ∧
      (walk old provider (.dict entries) path).blocked.Perm
        ((walkEntries old provider entries path).flatMap fun entry => entry.2.blocked) := by
  have hperm := perm_sortedBy Prod.fst (walkEntries old provider entries path)
  rw [walk, foldr_scans, List.flatMap_map, List.flatMap_map]
  exact ⟨hperm.flatMap_right _, hperm.flatMap_right _⟩

mutual

/-- The replaceable paths are those of the strings that are replaceable. -/
theorem perm_replaceablePaths : ∀ (payload : Payload) (path : ReferencePath),
    (walk old provider payload path).replaceablePaths.Perm ((strings payload path).flatMap
      fun found => (scanText old provider found.2 found.1).replaceablePaths)
  | .dict entries, path =>
    (perm_walk_dict entries path).1.trans (perm_replaceableEntries entries path)
  | .list items, path => perm_replaceableItems items path 0
  | .str text, path => by
    rw [strings, List.flatMap_cons, List.flatMap_nil, List.append_nil]
    exact List.Perm.refl _
  | .scalar _, _ => List.Perm.refl _

theorem perm_replaceableEntries : ∀ (entries : List (Text × Payload)) (path : ReferencePath),
    ((walkEntries old provider entries path).flatMap fun entry =>
      entry.2.replaceablePaths).Perm ((stringsOfEntries entries path).flatMap
        fun found => (scanText old provider found.2 found.1).replaceablePaths)
  | [], _ => List.Perm.refl _
  | (key, value) :: entries, path => by
    have hkey : (scanKey old key (path ++ [.key key])).replaceablePaths = [] := by
      rw [scanKey]
      split <;> rfl
    rw [walkEntries, stringsOfEntries, List.flatMap_cons, List.flatMap_append]
    refine List.Perm.append ?_ (perm_replaceableEntries entries path)
    change (_ ++ _ : List ReferencePath).Perm _
    rw [hkey]
    exact perm_replaceablePaths value _

theorem perm_replaceableItems : ∀ (items : List Payload) (path : ReferencePath) (start : ℕ),
    (walkItems old provider items path start).replaceablePaths.Perm
      ((stringsOfItems items path start).flatMap
        fun found => (scanText old provider found.2 found.1).replaceablePaths)
  | [], _, _ => List.Perm.refl _
  | item :: items, path, start => by
    rw [walkItems, stringsOfItems, List.flatMap_append]
    exact (perm_replaceablePaths item _).append (perm_replaceableItems items path (start + 1))

end

mutual

/-- Nothing is blocked exactly when no key and no string is. -/
theorem blocked_eq_nil_iff : ∀ (payload : Payload) (path : ReferencePath),
    (walk old provider payload path).blocked = [] ↔
      (∀ key ∈ keys payload, containsCompleteEntity key old = false) ∧
        ∀ found ∈ strings payload path, (scanText old provider found.2 found.1).blocked = []
  | .dict entries, path => by
    rw [← List.perm_nil, (perm_walk_dict entries path).2.congr_left, List.perm_nil]
    exact blockedEntries_eq_nil_iff entries path
  | .list items, path => blockedItems_eq_nil_iff items path 0
  | .str text, path => by simp [walk, keys, strings]
  | .scalar _, _ => by simp [walk, keys, strings]

theorem blockedEntries_eq_nil_iff : ∀ (entries : List (Text × Payload)) (path : ReferencePath),
    ((walkEntries old provider entries path).flatMap fun entry => entry.2.blocked) = [] ↔
      (∀ key ∈ keysOfEntries entries, containsCompleteEntity key old = false) ∧
        ∀ found ∈ stringsOfEntries entries path,
          (scanText old provider found.2 found.1).blocked = []
  | [], _ => by simp [walkEntries, keysOfEntries, stringsOfEntries]
  | (key, value) :: entries, path => by
    have hkey : (scanKey old key (path ++ [.key key])).blocked = [] ↔
        containsCompleteEntity key old = false := by
      rw [scanKey]
      split <;> simp_all
    have happend : (scanKey old key (path ++ [.key key]) ++
        walk old provider value (path ++ [.key key])).blocked =
      (scanKey old key (path ++ [.key key])).blocked ++
        (walk old provider value (path ++ [.key key])).blocked := rfl
    rw [walkEntries, List.flatMap_cons, List.append_eq_nil_iff, happend, List.append_eq_nil_iff,
      hkey, blocked_eq_nil_iff value, blockedEntries_eq_nil_iff entries path, keysOfEntries,
      stringsOfEntries]
    simp only [List.forall_mem_cons, List.forall_mem_append, List.cons_append]
    tauto

theorem blockedItems_eq_nil_iff : ∀ (items : List Payload) (path : ReferencePath) (start : ℕ),
    (walkItems old provider items path start).blocked = [] ↔
      (∀ key ∈ keysOfItems items, containsCompleteEntity key old = false) ∧
        ∀ found ∈ stringsOfItems items path start,
          (scanText old provider found.2 found.1).blocked = []
  | [], _, _ => by simp [walkItems, keysOfItems, stringsOfItems]
  | item :: items, path, start => by
    have happend : (walk old provider item (path ++ [.index start]) ++
        walkItems old provider items path (start + 1)).blocked =
      (walk old provider item (path ++ [.index start])).blocked ++
        (walkItems old provider items path (start + 1)).blocked := rfl
    rw [walkItems, happend, List.append_eq_nil_iff, blocked_eq_nil_iff item,
      blockedItems_eq_nil_iff items path (start + 1), keysOfItems, stringsOfItems]
    simp only [List.forall_mem_append]
    tauto

end

/-! ## One string -/

/-- A path at which a template may be replaced. -/
structure IsTemplateField (provider : Option Text) (path : ReferencePath) : Prop where
  scalar : isScalarReferencePath path provider = false
  template : isTemplatePath path = true
  provider : provider.any (!templateProviders.contains ·) = false

/-- The scan of a template under its field. -/
theorem scanText_template {text : Text} {path : ReferencePath}
    (hpath : IsTemplateField provider path) (hne : text ≠ old) (hjinja : hasJinja text = true) :
    scanText old provider text path =
      if (analyzeTemplate text old).blocked ||
          decide (1 < (analyzeTemplate text old).replaceableCount) then
        ⟨[], [⟨path, text, false⟩]⟩
      else if (analyzeTemplate text old).replaceableCount = 1 then ⟨[path], []⟩ else ⟨[], []⟩ := by
  simp only [scanText, if_neg hne, hjinja, hpath.scalar, hpath.template, hpath.provider, if_true,
    Bool.not_true, Bool.or_self, Bool.false_eq_true, if_false]

/-- What a replaceable string is. -/
theorem replaceable_cases {text : Text} {path : ReferencePath}
    (h : (scanText old provider text path).replaceablePaths ≠ []) :
    (scanText old provider text path).replaceablePaths = [path] ∧
      ((text = old ∧ isScalarReferencePath path provider = true) ∨
        (text ≠ old ∧ hasJinja text = true ∧ IsTemplateField provider path ∧
          analyzeTemplate text old = ⟨1, false⟩)) := by
  by_cases heq : text = old
  · simp only [scanText, if_pos heq] at h ⊢
    split at h
    · rename_i hscalar
      rw [if_pos hscalar]
      exact ⟨rfl, Or.inl ⟨heq, hscalar⟩⟩
    · exact absurd rfl h
  · by_cases hjinja : hasJinja text = true
    · by_cases hpath : IsTemplateField provider path
      · rw [scanText_template hpath heq hjinja] at h ⊢
        split at h
        · exact absurd rfl h
        · rename_i hfree
          split at h
          · rename_i hone
            rw [if_neg hfree, if_pos hone]
            refine ⟨rfl, Or.inr ⟨heq, hjinja, hpath, ?_⟩⟩
            rw [Bool.not_eq_true, Bool.or_eq_false_iff] at hfree
            exact TemplateAnalysis.ext hone hfree.1
          · exact absurd rfl h
      · -- no other path lets a template be replaced
        refine absurd ?_ h
        simp only [scanText, if_neg heq, hjinja, if_true]
        split
        · rfl
        · rename_i hscalar
          split
          · split <;> rfl
          · rename_i hfield
            rw [Bool.not_eq_true, Bool.or_eq_false_iff, Bool.not_eq_false'] at hfield
            exact absurd ⟨Bool.not_eq_true _ ▸ hscalar, hfield.1, hfield.2⟩ hpath
    · refine absurd ?_ h
      simp only [scanText, if_neg heq, if_neg hjinja]
      split <;> rfl

/-- A string at which nothing is replaceable and nothing blocked. -/
theorem scanText_eq_nothing {text : Text} {path : ReferencePath}
    (hreplaceable : (scanText old provider text path).replaceablePaths = [])
    (hblocked : (scanText old provider text path).blocked = []) :
    scanText old provider text path = ⟨[], []⟩ := by
  cases hscan : scanText old provider text path
  rw [hscan] at hreplaceable hblocked
  exact congrArg₂ _ hreplaceable hblocked

/-! ## The replacement of a payload -/

/-- What becomes of a string. -/
def replacement (replaceable : List ReferencePath) (oldEntityId targetEntityId : Text)
    (path : ReferencePath) (text : Text) : Text :=
  if path ∉ replaceable then text
  else if text = oldEntityId then targetEntityId
  else (replaceTemplateLiteral text oldEntityId targetEntityId).1

/-- The strings at replaceable paths are the old entity or have one literal. -/
def Prepared (replaceable : List ReferencePath) (oldEntityId : Text)
    (found : ReferencePath × Text) : Prop :=
  found.1 ∈ replaceable → found.2 = oldEntityId ∨
    ∃ span, sourceLiteralSpans found.2 oldEntityId = [span]

variable {replaceable : List ReferencePath}

omit [JinjaParser] in
theorem replaceText_eq {text : Text} {path : ReferencePath}
    (h : Prepared replaceable old (path, text)) :
    replaceText replaceable old target text path =
      some (replacement replaceable old target path text, if path ∈ replaceable then 1 else 0) := by
  rw [replaceText, replacement]
  by_cases hpath : path ∈ replaceable
  · rw [if_neg (not_not.2 hpath), if_neg (not_not.2 hpath), if_pos hpath]
    by_cases heq : text = old
    · rw [if_pos heq, if_pos heq]
    · obtain ⟨⟨start, stop⟩, hspan⟩ := (h hpath).resolve_left heq
      have hspan : sourceLiteralSpans text old = [(start, stop)] := hspan
      simp only [if_neg heq, replaceTemplateLiteral, hspan]
      rfl
  · rw [if_pos hpath, if_pos hpath, if_neg hpath]

omit [JinjaParser] in
mutual

/-- The replacement changes the strings at the replaceable paths. -/
theorem replaceValue_eq : ∀ (payload : Payload) (path : ReferencePath),
    (∀ found ∈ strings payload path, Prepared replaceable old found) →
      replaceValue replaceable old target payload path =
        some (mapStrings (replacement replaceable old target) payload path,
          (strings payload path).countP (·.1 ∈ replaceable))
  | .dict entries, path, h => by
    rw [replaceValue, replaceEntries_eq entries path h]
    rfl
  | .list items, path, h => by
    rw [replaceValue, replaceItems_eq items path 0 h]
    rfl
  | .str text, path, h => by
    rw [replaceValue, replaceText_eq (h _ List.mem_cons_self)]
    by_cases hpath : path ∈ replaceable <;> simp [mapStrings, strings, hpath]
  | .scalar _, _, _ => rfl

theorem replaceEntries_eq : ∀ (entries : List (Text × Payload)) (path : ReferencePath),
    (∀ found ∈ stringsOfEntries entries path, Prepared replaceable old found) →
      replaceEntries replaceable old target entries path =
        some (mapEntries (replacement replaceable old target) entries path,
          (stringsOfEntries entries path).countP (·.1 ∈ replaceable))
  | [], _, _ => rfl
  | (key, value) :: entries, path, h => by
    obtain ⟨hvalue, hentries⟩ := List.forall_mem_append.1 h
    rw [replaceEntries, replaceValue_eq value _ hvalue, stringsOfEntries, List.countP_append]
    simp only [Option.bind_eq_bind, Option.bind_some, replaceEntries_eq entries path hentries]
    rfl

theorem replaceItems_eq : ∀ (items : List Payload) (path : ReferencePath) (start : ℕ),
    (∀ found ∈ stringsOfItems items path start, Prepared replaceable old found) →
      replaceItems replaceable old target items path start =
        some (mapItems (replacement replaceable old target) items path start,
          (stringsOfItems items path start).countP (·.1 ∈ replaceable))
  | [], _, _, _ => rfl
  | item :: items, path, start, h => by
    obtain ⟨hitem, hitems⟩ := List.forall_mem_append.1 h
    rw [replaceItems, replaceValue_eq item _ hitem, stringsOfItems, List.countP_append]
    simp only [Option.bind_eq_bind, Option.bind_some, replaceItems_eq items path _ hitems]
    rfl

end

/-! ## The scan of the result -/

/-- How Jinja reads a template, with one approved literal, when the entity between quotes that the
source pattern finds is replaced. Either it is the token of the approved literal (`atLiteral`), and
the tree has the new literal, or the parser does not see it and the tree stays. -/
structure Consistent (atLiteral : Text → ℕ × ℕ → Prop) (oldEntityId targetEntityId : Text) :
    Prop where
  literal : ∀ {text parsed span}, parse text = some parsed →
    analyzeTemplate text oldEntityId = ⟨1, false⟩ → sourceLiteralSpans text oldEntityId = [span] →
      atLiteral text span → parse (replaceSpan text span targetEntityId) =
        some (substitute oldEntityId targetEntityId false parsed)
  elsewhere : ∀ {text parsed span}, parse text = some parsed →
    analyzeTemplate text oldEntityId = ⟨1, false⟩ → sourceLiteralSpans text oldEntityId = [span] →
      ¬ atLiteral text span → parse (replaceSpan text span targetEntityId) = some parsed

/-- What the analysis of a replaceable template says. -/
theorem analysis_eq_one {text : Text} (h : analyzeTemplate text old = ⟨1, false⟩) :
    ∃ parsed span, parse text = some parsed ∧ visit old false false parsed = ⟨1, false⟩ ∧
      mentionsOldParts (literals old false parsed) old = false ∧
        sourceLiteralSpans text old = [span] := by
  rw [analyzeTemplate] at h
  split at h
  · cases h
  · rename_i parsed hparse
    obtain ⟨hcount, hblocked⟩ := TemplateAnalysis.mk.inj h
    rw [Bool.or_eq_false_iff, Bool.or_eq_false_iff, hcount] at hblocked
    obtain ⟨⟨hvisit, hmentions⟩, hspans⟩ := hblocked
    have hlength : (sourceLiteralSpans text old).length = 1 := by simpa using hspans
    obtain ⟨span, hspan⟩ := List.length_eq_one_iff.1 hlength
    exact ⟨parsed, span, hparse, TemplateAnalysis.ext hcount hvisit, hmentions, hspan⟩

/-- A template is clean behind the replacement exactly when the literal in the source is the
approved one. -/
theorem rescan_template {atLiteral : Text → ℕ × ℕ → Prop} {text : Text} {span : ℕ × ℕ}
    {path : ReferencePath} (hparser : Consistent atLiteral old target)
    (htarget : IsEntityId target) (hne : target ≠ old) (hpath : IsTemplateField provider path)
    (hjinja : hasJinja text = true) (hanalysis : analyzeTemplate text old = ⟨1, false⟩)
    (hspan : sourceLiteralSpans text old = [span]) :
    scanText old provider (replaceSpan text span target) path = ⟨[], []⟩ ↔
      atLiteral text span := by
  have hmem : span ∈ sourceLiteralSpans text old := hspan ▸ List.mem_cons_self
  have hjinja' : hasJinja (replaceSpan text span target) = true :=
    hasJinja_replaceSpan hmem hjinja
  rw [scanText_template hpath ((text_of_span hmem).1.ne_template hjinja') hjinja']
  obtain ⟨parsed, span', hparse, hvisit, hmentions, hspan'⟩ := analysis_eq_one hanalysis
  by_cases hliteral : atLiteral text span
  · have hclean : analyzeTemplate (replaceSpan text span target) old = ⟨0, false⟩ := by
      rw [analyzeTemplate, hparser.literal hparse hanalysis hspan hliteral]
      dsimp only
      rw [visit_substitute hne (htarget.not_contains hne), hvisit,
        mentionsOldParts_substitute htarget hne, hmentions]
      rfl
    simp [hclean, hliteral]
  · have hcount : (analyzeTemplate (replaceSpan text span target) old).replaceableCount = 1 := by
      rw [analyzeTemplate, hparser.elsewhere hparse hanalysis hspan hliteral]
      dsimp only
      rw [hvisit]
    refine iff_of_false ?_ hliteral
    rw [if_pos hcount]
    split
    · exact fun h => List.cons_ne_nil _ _ (SemanticReferenceScan.mk.inj h).2
    · exact fun h => List.cons_ne_nil _ _ (SemanticReferenceScan.mk.inj h).1

/-- The new entity is nothing to the scan. -/
theorem rescan_scalar {path : ReferencePath} (htarget : IsEntityId target) (hne : target ≠ old) :
    scanText old provider target path = ⟨[], []⟩ := by
  have hjinja : hasJinja target = false :=
    Bool.eq_false_iff.2 fun h => htarget.ne_template h rfl
  simp [scanText, hne, hjinja, htarget.not_contains hne]

theorem walk_eq_nothing_iff {payload : Payload} :
    walk old provider payload [] = ⟨[], []⟩ ↔
      (∀ key ∈ keys payload, containsCompleteEntity key old = false) ∧
        ∀ found ∈ strings payload [], scanText old provider found.2 found.1 = ⟨[], []⟩ := by
  have hreplaceable := @perm_replaceablePaths _ old provider payload []
  constructor
  · intro h
    obtain ⟨hkeys, hblocked⟩ := (blocked_eq_nil_iff payload []).1 (congrArg _ h)
    rw [h] at hreplaceable
    have hnil := List.flatMap_eq_nil_iff.1 (List.nil_perm.1 hreplaceable)
    exact ⟨hkeys, fun found hmem => scanText_eq_nothing (hnil found hmem) (hblocked found hmem)⟩
  · rintro ⟨hkeys, hfound⟩
    have hblocked := (blocked_eq_nil_iff payload []).2
      ⟨hkeys, fun found hmem => congrArg SemanticReferenceScan.blocked (hfound found hmem)⟩
    have hnil : (strings payload []).flatMap
        (fun found => (scanText old provider found.2 found.1).replaceablePaths) = [] :=
      List.flatMap_eq_nil_iff.2 fun found hmem =>
        congrArg SemanticReferenceScan.replaceablePaths (hfound found hmem)
    rw [hnil] at hreplaceable
    cases hscan : walk old provider payload []
    rw [hscan] at hblocked hreplaceable
    exact congrArg₂ _ (List.perm_nil.1 hreplaceable) hblocked

/-! ## The replacement of a scanned payload -/

/-- The replacement raises nothing, counts the replaceable paths and changes exactly the strings
there, with keys, other values, order and shape as they are; the scan of the result finds
nothing. -/
def ExactlyReplaced (payload : Payload) (oldEntityId targetEntityId : Text)
    (provider : Option Text) (scan : SemanticReferenceScan) : Prop :=
  ∃ change : ReferencePath → Text → Text,
    replaceSemanticReferences payload oldEntityId targetEntityId provider =
        some (mapStrings change payload [], scan.replaceablePaths.length) ∧
      scan.replaceablePaths ⊆ (strings payload []).map Prod.fst ∧
      (∀ found ∈ strings payload [],
        change found.1 found.2 ≠ found.2 ↔ found.1 ∈ scan.replaceablePaths) ∧
      scanSemanticReferences (mapStrings change payload []) oldEntityId provider = some ⟨[], []⟩

/-- An entity ID `climate.[a-z0-9_]+`. -/
def IsClimateId (text : Text) : Prop :=
  ∃ objectId, IsPart objectId ∧ text = entityId "climate".toList objectId

/-- In every replaceable template, the literal found in the source is the one that Jinja reads. -/
def LiteralsRead (atLiteral : Text → ℕ × ℕ → Prop) (payload : Payload) (oldEntityId : Text)
    (scan : SemanticReferenceScan) : Prop :=
  ∀ found ∈ strings payload [], found.1 ∈ scan.replaceablePaths → found.2 ≠ oldEntityId →
    ∀ span ∈ sourceLiteralSpans found.2 oldEntityId, atLiteral found.2 span

omit [JinjaParser] in
theorem IsClimateId.isEntityId {text : Text} (h : IsClimateId text) : IsEntityId text := by
  obtain ⟨objectId, hobject, rfl⟩ := h
  refine ⟨_, _, ⟨by decide, ?_⟩, hobject, rfl⟩
  exact List.all_eq_true.1 (by decide)

omit [JinjaParser] in
theorem length_flatMap_eq_countP {α β : Type} {f : α → List β} {p : α → Bool} : ∀ {items : List α},
    (∀ x ∈ items, (f x).length = if p x then 1 else 0) →
      (items.flatMap f).length = items.countP p
  | [], _ => rfl
  | x :: items, h => by
    obtain ⟨hx, hitems⟩ := List.forall_mem_cons.1 h
    rw [List.flatMap_cons, List.length_append, hx, length_flatMap_eq_countP hitems,
      List.countP_cons, Nat.add_comm]

variable {payload : Payload}

/-- A path is replaceable exactly when the string at it is. -/
theorem mem_replaceablePaths_iff (hkeys : KeysDistinct payload) {found : ReferencePath × Text}
    (hmem : found ∈ strings payload []) :
    found.1 ∈ (walk old provider payload []).replaceablePaths ↔
      (scanText old provider found.2 found.1).replaceablePaths ≠ [] := by
  rw [(perm_replaceablePaths payload []).mem_iff, List.mem_flatMap]
  constructor
  · rintro ⟨other, hother, hpath⟩
    obtain ⟨hone, -⟩ := replaceable_cases (List.ne_nil_of_mem hpath)
    rw [hone, List.mem_singleton] at hpath
    obtain rfl := List.inj_on_of_nodup_map (nodup_paths payload [] hkeys) hmem hother hpath
    exact hone ▸ List.cons_ne_nil _ _
  · intro hne
    exact ⟨found, hmem, (replaceable_cases hne).1 ▸ List.mem_cons_self⟩

theorem length_replaceablePaths (hkeys : KeysDistinct payload) :
    (walk old provider payload []).replaceablePaths.length =
      (strings payload []).countP (·.1 ∈ (walk old provider payload []).replaceablePaths) := by
  rw [(perm_replaceablePaths payload []).length_eq]
  refine length_flatMap_eq_countP fun found hmem => ?_
  by_cases hpath : found.1 ∈ (walk old provider payload []).replaceablePaths
  · rw [(replaceable_cases ((mem_replaceablePaths_iff hkeys hmem).1 hpath)).1]
    simp [hpath]
  · rw [not_not.1 (hpath ∘ (mem_replaceablePaths_iff hkeys hmem).2)]
    simp [hpath]

/-- What the replacement of a scanned payload returns. -/
theorem replaceSemanticReferences_eq (hkeys : KeysDistinct payload) {scan : SemanticReferenceScan}
    (hscan : scanSemanticReferences payload old provider = some scan) :
    scan = walk old provider payload [] ∧
      (∀ other, scanSemanticReferences other old provider = some (walk old provider other [])) ∧
      replaceSemanticReferences payload old target provider =
        some (mapStrings (replacement scan.replaceablePaths old target) payload [],
          scan.replaceablePaths.length) := by
  have hchecked := hscan
  rw [scanSemanticReferences] at hchecked
  split at hchecked
  · rename_i hnames
    obtain rfl := Option.some.inj hchecked
    refine ⟨rfl, fun other => if_pos hnames, ?_⟩
    have hprepared : ∀ found ∈ strings payload [],
        Prepared (walk old provider payload []).replaceablePaths old found := by
      intro found hmem hpath
      obtain ⟨-, hcases⟩ := replaceable_cases ((mem_replaceablePaths_iff hkeys hmem).1 hpath)
      rcases hcases with ⟨heq, -⟩ | ⟨-, -, -, hanalysis⟩
      · exact Or.inl heq
      · obtain ⟨_, span, -, -, -, hspan⟩ := analysis_eq_one hanalysis
        exact Or.inr ⟨span, hspan⟩
    rw [replaceSemanticReferences, hscan, Option.bind_eq_bind, Option.bind_some,
      replaceValue_eq payload [] hprepared, length_replaceablePaths hkeys]
  · cases hchecked

/-- What becomes of a string at a replaceable path. -/
theorem replacement_cases (hkeys : KeysDistinct payload) {found : ReferencePath × Text}
    (hmem : found ∈ strings payload [])
    (hpath : found.1 ∈ (walk old provider payload []).replaceablePaths) :
    (found.2 = old ∧ replacement (walk old provider payload []).replaceablePaths old target
        found.1 found.2 = target) ∨
      (found.2 ≠ old ∧ hasJinja found.2 = true ∧ IsTemplateField provider found.1 ∧
        analyzeTemplate found.2 old = ⟨1, false⟩ ∧
          ∃ span, sourceLiteralSpans found.2 old = [span] ∧
            replacement (walk old provider payload []).replaceablePaths old target found.1
              found.2 = replaceSpan found.2 span target) := by
  obtain ⟨-, hcases⟩ := replaceable_cases ((mem_replaceablePaths_iff hkeys hmem).1 hpath)
  rcases hcases with ⟨heq, -⟩ | ⟨hne, hjinja, hfield, hanalysis⟩
  · exact Or.inl ⟨heq, by rw [replacement, if_neg (not_not.2 hpath), if_pos heq]⟩
  · obtain ⟨_, ⟨start, stop⟩, -, -, -, hspan⟩ := analysis_eq_one hanalysis
    refine Or.inr ⟨hne, hjinja, hfield, hanalysis, (start, stop), hspan, ?_⟩
    rw [replacement, if_neg (not_not.2 hpath), if_neg hne, replaceTemplateLiteral, hspan]
    rfl

/-- The replacement changes the strings at the replaceable paths. -/
theorem replacement_ne_iff (hkeys : KeysDistinct payload) (hne : target ≠ old)
    {found : ReferencePath × Text} (hmem : found ∈ strings payload []) :
    replacement (walk old provider payload []).replaceablePaths old target found.1 found.2 ≠
        found.2 ↔ found.1 ∈ (walk old provider payload []).replaceablePaths := by
  constructor
  · intro hchanged
    by_contra hpath
    exact hchanged (if_pos hpath)
  · intro hpath
    rcases @replacement_cases _ old target provider payload hkeys found hmem hpath with
      ⟨heq, hreplaced⟩ | ⟨-, -, -, -, span, hspan, hreplaced⟩
    · rw [hreplaced, heq]
      exact hne
    · obtain ⟨-, before, later, htext, hreplace⟩ :=
        text_of_span (hspan ▸ List.mem_cons_self : span ∈ sourceLiteralSpans found.2 old)
      rw [hreplaced, hreplace, htext]
      intro hsame
      exact hne (List.append_cancel_right (List.append_cancel_left hsame))

/-- When the scan finds nothing in a string of the result. -/
theorem scanText_replacement_iff {atLiteral : Text → ℕ × ℕ → Prop} (hkeys : KeysDistinct payload)
    (htarget : IsEntityId target) (hne : target ≠ old) (hparser : Consistent atLiteral old target)
    (hblocked : (walk old provider payload []).blocked = []) {found : ReferencePath × Text}
    (hmem : found ∈ strings payload []) :
    scanText old provider (replacement (walk old provider payload []).replaceablePaths old target
        found.1 found.2) found.1 = ⟨[], []⟩ ↔
      (found.1 ∈ (walk old provider payload []).replaceablePaths → found.2 ≠ old →
        ∀ span ∈ sourceLiteralSpans found.2 old, atLiteral found.2 span) := by
  by_cases hpath : found.1 ∈ (walk old provider payload []).replaceablePaths
  · rcases @replacement_cases _ old target provider payload hkeys found hmem hpath with
      ⟨heq, hreplaced⟩ | ⟨hother, hjinja, hfield, hanalysis, span, hspan, hreplaced⟩
    · rw [hreplaced]
      exact iff_of_true (rescan_scalar htarget hne) fun _ hother => absurd heq hother
    · rw [hreplaced, rescan_template hparser htarget hne hfield hjinja hanalysis hspan, hspan]
      simp [hpath, hother]
  · have hsame : replacement (walk old provider payload []).replaceablePaths old target found.1
        found.2 = found.2 := if_pos hpath
    rw [hsame]
    refine iff_of_true ?_ fun h => absurd h hpath
    exact scanText_eq_nothing (not_not.1 (hpath ∘ (mem_replaceablePaths_iff hkeys hmem).2))
      (((blocked_eq_nil_iff payload []).1 hblocked).2 found hmem)

/-- The replacement of a scanned payload is exact when, and only when, the literals that it finds
in the sources of templates are those that Jinja reads. -/
theorem replacement_exact_iff {atLiteral : Text → ℕ × ℕ → Prop} {scan : SemanticReferenceScan}
    (htarget : IsClimateId target) (hne : old ≠ target) (hkeys : KeysDistinct payload)
    (hparser : Consistent atLiteral old target)
    (hscan : scanSemanticReferences payload old provider = some scan)
    (hblocked : scan.blocked = []) :
    ExactlyReplaced payload old target provider scan ↔
      LiteralsRead atLiteral payload old scan := by
  obtain ⟨rfl, hscans, hreplaced⟩ :=
    @replaceSemanticReferences_eq _ old target provider payload hkeys _ hscan
  have hkeysFree := ((blocked_eq_nil_iff payload []).1 hblocked).1
  have hstring {found : ReferencePath × Text} (hmem : found ∈ strings payload []) :=
    scanText_replacement_iff hkeys htarget.isEntityId hne.symm hparser hblocked hmem
  have hrescan : ∀ change, (∀ found ∈ strings payload [], change found.1 found.2 =
        replacement (walk old provider payload []).replaceablePaths old target found.1 found.2) →
      (scanSemanticReferences (mapStrings change payload []) old provider = some ⟨[], []⟩ ↔
        LiteralsRead atLiteral payload old (walk old provider payload [])) := by
    intro change hchange
    rw [hscans, Option.some_inj, walk_eq_nothing_iff, keys_mapStrings, strings_mapStrings,
      List.forall_mem_map, and_iff_right hkeysFree]
    exact forall₂_congr fun found hmem => by rw [hchange found hmem, hstring hmem]
  constructor
  · rintro ⟨change, hchange, -, -, hclean⟩
    refine (hrescan change fun found hmem => ?_).1 hclean
    -- the strings of the result are those of the replacement
    have hresult := congrArg (fun result => strings result.1 [])
      (Option.some.inj (hchange.symm.trans hreplaced))
    simp only [strings_mapStrings] at hresult
    exact (Prod.mk.inj (List.map_inj_left.1 hresult found hmem)).2
  · intro hread
    refine ⟨_, hreplaced, ?_, fun found hmem => replacement_ne_iff hkeys hne.symm hmem,
      (hrescan _ fun _ _ => rfl).2 hread⟩
    intro path hpath
    rw [(perm_replaceablePaths payload []).mem_iff, List.mem_flatMap] at hpath
    obtain ⟨found, hmem, hpath⟩ := hpath
    rw [(replaceable_cases (List.ne_nil_of_mem hpath)).1, List.mem_singleton] at hpath
    exact hpath ▸ List.mem_map_of_mem hmem

end

/-! ## A literal in a comment -/

namespace Endraw

/-- The entity that is replaced. -/
def oldId : Text := "climate.a".toList

def targetId : Text := "climate.b".toList

/-- A template with the literal of an entity. -/
def stateTemplate (entityId : Text) : Text :=
  "\x7b\x7b states('".toList ++ entityId ++ "') \x7d\x7d".toList

/-- A raw block whose end has a plus sign, which Jinja takes and the source scanner does not; the
entity with an escaped dot; and a comment with the literal of an entity. -/
def commentTemplate (entityId : Text) : Text :=
  "\x7b% raw %\x7d\x7b% endraw +%\x7d\x7b\x7b states('climate\\x2ea') \x7d\x7d".toList
    ++ "\x7b# \x7b% endraw %\x7d\x7b\x7b states('".toList ++ entityId
    ++ "') \x7d\x7d #\x7d".toList

/-- The state of an entity. -/
def stateTree (entityId : Text) : Node :=
  .mk .other [.mk .other [.mk (.call 1)
    [.mk (.name "states".toList) [], .mk (.const (some entityId)) []]]]

/-- What Jinja reads in the templates. -/
scoped instance : JinjaParser where
  parse text :=
    if text = stateTemplate oldId then some (stateTree oldId)
    else if text = stateTemplate targetId then some (stateTree targetId)
    else if text = commentTemplate oldId ∨ text = commentTemplate targetId then
      some (stateTree oldId)
    else none

theorem isClimateId : IsClimateId oldId ∧ IsClimateId targetId :=
  ⟨⟨['a'], Sample.isPart_of_all (by decide) (by decide), by decide⟩,
    ⟨['b'], Sample.isPart_of_all (by decide) (by decide), by decide⟩⟩

theorem consistent :
    Consistent (fun text _ => text = stateTemplate oldId) oldId targetId := by
  constructor
  · rintro _ parsed span hparse - hspan rfl
    obtain rfl := Option.some.inj ((if_pos rfl).symm.trans hparse)
    have hspans : sourceLiteralSpans (stateTemplate oldId) oldId = [(11, 20)] := by
      decide +kernel
    obtain rfl := List.singleton_inj.1 (hspans.symm.trans hspan)
    have hreplace : replaceSpan (stateTemplate oldId) (11, 20) targetId =
        stateTemplate targetId := by
      decide +kernel
    rw [hreplace]
    exact (if_neg (by decide +kernel)).trans (if_pos rfl)
  · rintro text parsed span hparse hanalysis hspan hother
    have hcases := (if_neg hother).symm.trans hparse
    split at hcases
    · rename_i heq
      rw [heq] at hanalysis
      exact absurd hanalysis (by decide +kernel)
    · split at hcases
      · rename_i heq
        obtain rfl := Option.some.inj hcases
        rcases heq with rfl | rfl
        · have hspans : sourceLiteralSpans (commentTemplate oldId) oldId = [(76, 85)] := by
            decide +kernel
          obtain rfl := List.singleton_inj.1 (hspans.symm.trans hspan)
          have hreplace : replaceSpan (commentTemplate oldId) (76, 85) targetId =
              commentTemplate targetId := by
            decide +kernel
          rw [hreplace]
          exact (if_neg (by decide +kernel)).trans
            ((if_neg (by decide +kernel)).trans (if_pos (Or.inr rfl)))
        · exact absurd hanalysis (by decide +kernel)
      · cases hcases

theorem keysDistinct (text : Text) : KeysDistinct (.dict [("state".toList, .str text)]) :=
  ⟨List.nodup_singleton _, trivial, trivial⟩

/-- The reference of the first template is replaced. -/
theorem stateTemplate_replaced : ExactlyReplaced
    (.dict [("state".toList, .str (stateTemplate oldId))]) oldId targetId none
      ⟨[[.key "state".toList]], []⟩ := by
  refine (replacement_exact_iff isClimateId.2 (by decide) (keysDistinct _) consistent
    (by decide +kernel) rfl).2 ?_
  intro found hmem _ _ _ _
  obtain rfl := List.mem_singleton.1 hmem
  rfl

/-- In the second template the literal of the comment is replaced, and the result is blocked. -/
theorem comment_not_replaced : ¬ ∀ (payload : Payload) (oldEntityId targetEntityId : Text)
    (provider : Option Text) (scan : SemanticReferenceScan), IsClimateId oldEntityId →
      IsClimateId targetEntityId → oldEntityId ≠ targetEntityId → KeysDistinct payload →
        scanSemanticReferences payload oldEntityId provider = some scan → scan.blocked = [] →
          ExactlyReplaced payload oldEntityId targetEntityId provider scan := by
  intro h
  obtain ⟨change, hreplaced, -, -, hclean⟩ :=
    h (.dict [("state".toList, .str (commentTemplate oldId))]) oldId targetId none
      ⟨[[.key "state".toList]], []⟩ isClimateId.1 isClimateId.2 (by decide)
      (keysDistinct _) (by decide +kernel) rfl
  have hrescan : ((replaceSemanticReferences
      (.dict [("state".toList, .str (commentTemplate oldId))]) oldId targetId none).bind
        fun result => scanSemanticReferences result.1 oldId none) ≠ some ⟨[], []⟩ := by
    decide +kernel
  rw [hreplaced, Option.bind_some] at hrescan
  exact hrescan hclean

end Endraw

end TrueFamily.Projection
