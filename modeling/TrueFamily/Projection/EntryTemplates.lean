import TrueFamily.Projection.Scan

/-!
# Accepted templates of config entries

A template is validated for the entities that the consuming pattern finds in it. Whether it is free
of another entity that occurs in it depends on the syntax tree: an access chain that matches it,
literals that mention it, or text that contains it (`Spelled`). An accepted template holds no
ambiguous reference exactly when the tree spells no entity that the pattern misses
(`accepted_unambiguous_iff`).
-/

namespace TrueFamily.Projection

open Checked Sorting
open JsonValue (Text)

/-! ## What a tree holds -/

section

variable {α : Type}

mutual

/-- What the nodes of `_walk_nodes` hold. -/
def collect (f : NodeKind → List Node → List α) : Node → List α
  | .mk kind children => f kind children ++ collectAll f children

def collectAll (f : NodeKind → List Node → List α) : List Node → List α
  | [] => []
  | child :: children => collect f child ++ collectAll f children

end

end

/-- The chain of an access. -/
def chainsOf (kind : NodeKind) (children : List Node) : List (List Text) :=
  match kind with
  | .getattr _ | .getitem => (accessChain (.mk kind children)).toList.map Prod.snd
  | _ => []

/-- The text of template data. -/
def dataOf (kind : NodeKind) (_ : List Node) : List Text :=
  match kind with
  | .templateData data => [data]
  | _ => []

/-- A literal string. -/
def stringsOf (kind : NodeKind) (_ : List Node) : List Text :=
  match kind with
  | .const (some value) => [value]
  | _ => []

/-- The tree spells the entity: an access chain matches it, template data contains it, or the
literal strings mention its parts. -/
def Spelled (parsed : Node) (entityId : Text) : Prop :=
  (∃ chain ∈ collect chainsOf parsed, chainMatchesEntity chain entityId = true) ∨
    (∃ data ∈ collect dataOf parsed, containsCompleteEntity data entityId = true) ∨
    mentionsOldParts (collect stringsOf parsed) entityId = true

/-! ## Visits -/

section

variable {old other : Text}

theorem mem_strings_of_firstLiteral {args : ℕ} {children : List Node} {value : Text}
    (h : firstLiteral args children = some value) : value ∈ collectAll stringsOf children := by
  rw [firstLiteral.eq_def] at h
  split at h
  · subst h
    simp [collectAll, collect, stringsOf]
  · cases h

/-- A node that blocks no entity blocks none that is not in it. -/
theorem inspect_eq_zero {names constants constants' : Bool} {kind : NodeKind} {children : List Node}
    (hother : (inspect other names constants kind children).blocked = false)
    (hself : containsCompleteEntity old old = true)
    (hchains : ∀ chain ∈ collect chainsOf (.mk kind children), chainMatchesEntity chain old = false)
    (hdata : ∀ data ∈ collect dataOf (.mk kind children), containsCompleteEntity data old = false)
    (hstrings : ∀ value ∈ collect stringsOf (.mk kind children),
      containsCompleteEntity value old = false) :
    inspect old names constants' kind children = ⟨0, false⟩ := by
  have halways : blocksAlways names kind children = false :=
    (Bool.or_eq_false_iff.1 hother).1
  have hliteral : ∀ args value, firstLiteral args children = some value →
      containsCompleteEntity value old = false := fun args value h =>
    hstrings value (List.mem_append_right _ (mem_strings_of_firstLiteral h))
  -- an approved literal argument is the entity itself, which is not among the strings
  have happroves : ∀ args, approvesArgument old args children = false := by
    intro args
    rw [approvesArgument, Bool.and_eq_false_iff]
    refine Or.inr (decide_eq_false fun h => ?_)
    rw [hliteral args old h] at hself
    cases hself
  have hentity : blocksEntity old constants' kind children = false := by
    cases kind with
    | const value =>
      cases value with
      | none => simp [blocksEntity]
      | some value =>
        have := hstrings value (List.mem_append_left _ List.mem_cons_self)
        simp [blocksEntity, this]
    | templateData data => exact hdata data (List.mem_append_left _ List.mem_cons_self)
    | call args =>
      rw [blocksEntity, Option.any_eq_false]
      intro value h
      rw [hliteral args value h, Bool.and_false]
    | getattr attr =>
      rw [blocksEntity, Option.any_eq_false]
      intro chain h
      rw [hchains chain.2 (List.mem_append_left _ (by simp [chainsOf, h]))]
    | getitem =>
      rw [blocksEntity, Option.any_eq_false]
      intro chain h
      rw [hchains chain.2 (List.mem_append_left _ (by simp [chainsOf, h]))]
    | _ => rfl
  ext1
  · cases kind with
    | call args => simp [inspect, happroves]
    | _ => rfl
  · change (blocksAlways names kind children || blocksEntity old constants' kind children) = false
    rw [halways, hentity]
    rfl

mutual

theorem visit_eq_zero (hself : containsCompleteEntity old old = true) :
    ∀ (names constants constants' : Bool) (node : Node),
      (visit other names constants node).blocked = false →
      (∀ chain ∈ collect chainsOf node, chainMatchesEntity chain old = false) →
      (∀ data ∈ collect dataOf node, containsCompleteEntity data old = false) →
      (∀ value ∈ collect stringsOf node, containsCompleteEntity value old = false) →
      visit old names constants' node = ⟨0, false⟩
  | names, constants, constants', .mk kind children, hother, hchains, hdata, hstrings => by
    obtain ⟨hnode, hrest⟩ := Bool.or_eq_false_iff.1 hother
    rw [visit, inspect_eq_zero hnode hself hchains hdata hstrings,
      visitAll_eq_zero hself _ _ _ children hrest
        (fun chain hmem => hchains chain (List.mem_append_right _ hmem))
        (fun data hmem => hdata data (List.mem_append_right _ hmem))
        (fun value hmem => hstrings value (List.mem_append_right _ hmem))]
    rfl

theorem visitAll_eq_zero (hself : containsCompleteEntity old old = true) :
    ∀ (names constants constants' : List Bool) (children : List Node),
      (visitAll other names constants children).blocked = false →
      (∀ chain ∈ collectAll chainsOf children, chainMatchesEntity chain old = false) →
      (∀ data ∈ collectAll dataOf children, containsCompleteEntity data old = false) →
      (∀ value ∈ collectAll stringsOf children, containsCompleteEntity value old = false) →
      visitAll old names constants' children = ⟨0, false⟩
  | _, _, _, [], _, _, _, _ => rfl
  | names, constants, constants', child :: children, hother, hchains, hdata, hstrings => by
    obtain ⟨hchild, hrest⟩ := Bool.or_eq_false_iff.1 hother
    rw [visitAll, visit_eq_zero hself _ _ _ child hchild
        (fun chain hmem => hchains chain (List.mem_append_left _ hmem))
        (fun data hmem => hdata data (List.mem_append_left _ hmem))
        (fun value hmem => hstrings value (List.mem_append_left _ hmem)),
      visitAll_eq_zero hself _ _ _ children hrest
        (fun chain hmem => hchains chain (List.mem_append_right _ hmem))
        (fun data hmem => hdata data (List.mem_append_right _ hmem))
        (fun value hmem => hstrings value (List.mem_append_right _ hmem))]
    rfl

end

mutual

/-- What is not blocked has no chain that matches and no text that contains the entity. -/
theorem free_of_visit : ∀ (names constants : Bool) (node : Node),
    (visit old names constants node).blocked = false →
      (∀ chain ∈ collect chainsOf node, chainMatchesEntity chain old = false) ∧
        ∀ data ∈ collect dataOf node, containsCompleteEntity data old = false
  | names, constants, .mk kind children, hvisit => by
    obtain ⟨hnode, hrest⟩ := Bool.or_eq_false_iff.1 hvisit
    obtain ⟨hchains, hdata⟩ := free_of_visitAll _ _ children hrest
    have hentity : blocksEntity old constants kind children = false :=
      (Bool.or_eq_false_iff.1 hnode).2
    constructor
    · intro chain hmem
      rcases List.mem_append.1 hmem with hmem | hmem
      · cases kind with
        | getattr attr =>
          obtain ⟨access, haccess, rfl⟩ := List.mem_map.1 hmem
          exact (Option.any_eq_false _ _).1 hentity access (Option.mem_toList.1 haccess)
        | getitem =>
          obtain ⟨access, haccess, rfl⟩ := List.mem_map.1 hmem
          exact (Option.any_eq_false _ _).1 hentity access (Option.mem_toList.1 haccess)
        | _ => cases hmem
      · exact hchains chain hmem
    · intro data hmem
      rcases List.mem_append.1 hmem with hmem | hmem
      · cases kind with
        | templateData text =>
          obtain rfl := List.mem_singleton.1 hmem
          exact hentity
        | _ => cases hmem
      · exact hdata data hmem

theorem free_of_visitAll : ∀ (names constants : List Bool) (children : List Node),
    (visitAll old names constants children).blocked = false →
      (∀ chain ∈ collectAll chainsOf children, chainMatchesEntity chain old = false) ∧
        ∀ data ∈ collectAll dataOf children, containsCompleteEntity data old = false
  | _, _, [], _ => ⟨fun _ h => absurd h List.not_mem_nil, fun _ h => absurd h List.not_mem_nil⟩
  | names, constants, child :: children, hvisit => by
    obtain ⟨hchild, hrest⟩ := Bool.or_eq_false_iff.1 hvisit
    obtain ⟨hchains, hdata⟩ := free_of_visit _ _ child hchild
    obtain ⟨hchains', hdata'⟩ := free_of_visitAll _ _ children hrest
    constructor
    · intro chain hmem
      rcases List.mem_append.1 hmem with hmem | hmem
      · exact hchains chain hmem
      · exact hchains' chain hmem
    · intro data hmem
      rcases List.mem_append.1 hmem with hmem | hmem
      · exact hdata data hmem
      · exact hdata' data hmem

end

mutual

/-- Where nothing is replaceable, no literal is excluded. -/
theorem literals_eq : ∀ (names constants : Bool) (node : Node),
    (visit old names constants node).replaceableCount = 0 →
      literals old false node = collect stringsOf node
  | names, constants, .mk kind children, hcount => by
    obtain ⟨hnode, hrest⟩ := Nat.add_eq_zero_iff.1 hcount
    have hflags : ∀ b ∈ approvedConstants old kind children, b = false := by
      cases kind with
      | call args =>
        have happroves : approvesArgument old args children = false := by
          by_contra h
          rw [inspect] at hnode
          simp [Bool.not_eq_false _ ▸ h] at hnode
        simp [approvedConstants, happroves]
      | _ => simp [approvedConstants]
    have hall := literalsAll_eq _ _ _ children hrest hflags
    cases kind with
    | const value =>
      cases value with
      | none => exact hall
      | some value => exact congrArg ([value] ++ ·) hall
    | _ => exact hall

theorem literalsAll_eq : ∀ (names constants flags : List Bool) (children : List Node),
    (visitAll old names constants children).replaceableCount = 0 → (∀ b ∈ flags, b = false) →
      literalsAll old flags children = collectAll stringsOf children
  | _, _, _, [], _, _ => rfl
  | names, constants, flags, child :: children, hcount, hflags => by
    obtain ⟨hchild, hrest⟩ := Nat.add_eq_zero_iff.1 hcount
    obtain ⟨hhead, htail⟩ := headD_tail_of_false hflags
    rw [literalsAll, collectAll, hhead, literals_eq _ _ child hchild,
      literalsAll_eq _ _ _ children hrest htail]

end

end

/-! ## Literals in the source -/

section

variable {text rest : Text} {entity : Text}

/-- What stands at a quoted entity. -/
theorem quotedEntity_eq_some (h : quotedEntity text = some entity) :
    ∃ domain objectId quote rest, IsPart domain ∧ IsPart objectId ∧
      entity = entityId domain objectId ∧ (quote = '\'' ∨ quote = '"') ∧
      text = quote :: (entity ++ quote :: rest) := by
  rw [quotedEntity.eq_def] at h
  split at h
  · rename_i quote tail
    split at h
    · rename_i hquote
      split at h
      · rename_i found hfound
        split at h
        · rename_i closing tail' htail
          split at h
          · rename_i hclosing
            obtain rfl := Option.some.inj h
            obtain ⟨domain, objectId, after, hdomain, hobject, heq, htext⟩ := tokenAt_eq_some hfound
            refine ⟨domain, objectId, quote, tail', hdomain, hobject, heq, hquote, ?_⟩
            rw [htext, List.drop_left] at htail
            rw [htext, htail, hclosing.1]
          · cases h
        · cases h
      · cases h
    · cases h
  · cases h

theorem dropWhile_eq_drop (text : Text) :
    text.dropWhile isWhitespace = text.drop (text.takeWhile isWhitespace).length :=
  (List.drop_left' rfl).symm.trans
    (congrArg (List.drop _) (@List.takeWhile_append_dropWhile _ isWhitespace text))

/-- The quoted entity of a match stands where the match says. -/
theorem quotedEntity_drop {quote : ℕ} (h : helperAt text = some (quote, entity)) :
    quotedEntity (text.drop quote) = some entity := by
  obtain ⟨helper, -, hhelper⟩ := List.exists_of_findSome?_eq_some h
  split at hhelper
  · split at hhelper
    · rename_i rest hrest
      obtain ⟨found, hfound, heq⟩ := Option.map_eq_some_iff.1 hhelper
      obtain ⟨rfl, rfl⟩ := Prod.mk.inj heq
      have hdrop := dropWhile_eq_drop (text.drop helper.length)
      rw [hrest, List.drop_drop] at hdrop
      rw [← hfound, dropWhile_eq_drop rest, Nat.add_assoc, ← List.drop_drop, ← List.drop_drop,
        List.drop_drop, ← hdrop, Nat.add_comm, List.drop_succ_cons]
    · cases hhelper
  · cases hhelper

/-- A match of the source pattern ends with a quoted entity. -/
theorem quoted_of_helperMatch {found : HelperMatch} : ∀ {text : Text} {skip : ℕ}
    {forbidden : Bool} {offset : ℕ}, found ∈ helperMatches skip forbidden offset text →
      ∃ before later, text = before ++ later ∧ quotedEntity later = some found.entity ∧
        offset + before.length + 1 = found.entityStart := by
  intro text
  induction text with
  | nil =>
    intro skip forbidden offset h
    cases skip <;> exact absurd h List.not_mem_nil
  | cons c rest ih =>
    intro skip forbidden offset h
    have hlater {skip : ℕ} {forbidden : Bool}
        (h : found ∈ helperMatches skip forbidden (offset + 1) rest) :
        ∃ before later, c :: rest = before ++ later ∧ quotedEntity later = some found.entity ∧
          offset + before.length + 1 = found.entityStart := by
      obtain ⟨before, later, htext, hquoted, hstart⟩ := ih h
      refine ⟨c :: before, later, congrArg (c :: ·) htext, hquoted, ?_⟩
      rw [List.length_cons]
      omega
    cases skip with
    | succ skip => exact hlater h
    | zero =>
      rw [helperMatches] at h
      split at h
      · rename_i quote entity hmatch
        rcases List.mem_cons.1 h with rfl | h
        · split at hmatch
          · cases hmatch
          · have hquoted := quotedEntity_drop hmatch
            have hlength : quote ≤ (c :: rest).length := by
              by_contra hlong
              rw [List.drop_eq_nil_of_le (by omega)] at hquoted
              cases hquoted
            refine ⟨_, _, (List.take_append_drop quote _).symm, hquoted, ?_⟩
            rw [List.length_take_of_le hlength]
        · exact hlater h
      · exact hlater h

/-- A literal that the source pattern matches is found by the pattern of the provider. -/
theorem mem_foundEntities_of_span (h : sourceLiteralSpans text entity ≠ []) :
    entity ∈ foundEntities text := by
  obtain ⟨span, hspan⟩ := List.exists_mem_of_ne_nil _ h
  obtain ⟨found, hfound, -⟩ := List.mem_map.1 hspan
  obtain ⟨hmem, hfilter⟩ := List.mem_filter.1 hfound
  obtain ⟨before, later, rfl, hquoted, -⟩ := quoted_of_helperMatch hmem
  have hentity : found.entity = entity := of_decide_eq_true (Bool.and_eq_true_iff.1 hfilter).1
  rw [hentity] at hquoted
  obtain ⟨domain, objectId, quote, rest, hdomain, hobject, rfl, hquote, rfl⟩ :=
    quotedEntity_eq_some hquoted
  have hstop : isWord quote = false ∧ quote ≠ '.' := by
    rcases hquote with rfl | rfl <;> decide
  exact mem_foundFrom_of_quoted hdomain hobject hstop hstop.1 rest (Nat.zero_le _)

end

/-! ## One scan -/

section

variable [JinjaParser] {template entity : Text}

/-- A field of a template. -/
def IsField (field : Text) : Prop := field = "availability_template".toList ∨ field = "state".toList

/-- The scan of the projected document reports no blocked occurrence. -/
def ScansClean (field template entity : Text) : Prop :=
  ∃ scan, scanSemanticReferences (.dict [(field, .str template)]) entity
    (some "config_entry".toList) = some scan ∧ scan.blocked = []

omit [JinjaParser] in
/-- What the field of a template is to the scan. -/
theorem IsField.facts {field : Text} (h : IsField field) :
    (∀ entity, containsCompleteEntity field entity = false) ∧
      isScalarReferencePath [.key field] (some "config_entry".toList) = false ∧
      isTemplatePath [.key field] = true := by
  have htokens : entityTokens field = [] := by
    rcases h with rfl | rfl <;> decide
  refine ⟨fun entity => ?_, ?_, ?_⟩
  · rw [containsCompleteEntity, htokens]
    rfl
  · rcases h with rfl | rfl <;> decide
  · rcases h with rfl | rfl <;> decide

/-- What a clean scan of a template says. -/
theorem scansClean_iff {field : Text} (hfield : IsField field) (hne : entity ≠ []) :
    ScansClean field template entity ↔ template ≠ entity ∧
      if hasJinja template = true then (analyzeTemplate template entity).blocked = false ∧
        (analyzeTemplate template entity).replaceableCount ≤ 1
      else containsCompleteEntity template entity = false := by
  obtain ⟨hkey, hscalar, hpath⟩ := hfield.facts
  have hprovider : (some "config_entry".toList).any (!templateProviders.contains ·) = false := by
    decide
  have hscan : scanSemanticReferences (.dict [(field, .str template)]) entity
      (some "config_entry".toList) = some (⟨[], []⟩ ++
        scanText entity (some "config_entry".toList) template [.key field] ++ ⟨[], []⟩) := by
    rw [scanSemanticReferences, if_pos ⟨hne, by decide⟩]
    simp only [walk, walkEntries, scanKey, hkey, Bool.false_eq_true, if_false, List.nil_append]
    rfl
  have hblocked : ScansClean field template entity ↔
      (scanText entity (some "config_entry".toList) template [.key field]).blocked = [] := by
    rw [ScansClean, hscan]
    constructor
    · rintro ⟨_, hscan, hclean⟩
      obtain rfl := Option.some.inj hscan
      exact (List.append_eq_nil_iff.1 hclean).1
    · intro hclean
      exact ⟨_, rfl, List.append_eq_nil_iff.2 ⟨hclean, rfl⟩⟩
  rw [hblocked, scanText]
  simp only [hscalar, hpath, hprovider, Bool.not_true, Bool.or_self, Bool.false_eq_true, if_false]
  by_cases heq : template = entity
  · simp [heq]
  · rw [if_neg heq]
    by_cases hjinja : hasJinja template = true
    · rw [if_pos hjinja, if_pos hjinja]
      cases hverdict : (analyzeTemplate template entity).blocked
      · by_cases hcount : 1 < (analyzeTemplate template entity).replaceableCount
        · simp [hcount]
        · by_cases hone : (analyzeTemplate template entity).replaceableCount = 1
          · simp [hone, heq]
          · simp [hcount, hone, heq]
            omega
      · simp
    · rw [if_neg hjinja, if_neg hjinja]
      cases containsCompleteEntity template entity <;> simp [heq]

/-! ## Accepted templates -/

/-- Two adjacent segments of an access chain of the template make this entity. -/
def InChain (template entity : Text) : Prop :=
  hasJinja template = true ∧ ∃ parsed, parse template = some parsed ∧
    ∃ chain ∈ collect chainsOf parsed, ∃ segments ∈ chain.zip chain.tail,
      IsPart segments.1 ∧ IsPart segments.2 ∧ entity = entityId segments.1 segments.2

/-- The entity ID occurs in the template. -/
def Occurs (template entity : Text) : Prop :=
  IsEntityId entity ∧ (containsCompleteEntity template entity = true ∨ InChain template entity)

/-- No entity is spelled that the pattern of the provider misses: no two adjacent segments of an
access chain make an entity ID, and a token that overlaps an earlier one is spelled nowhere. -/
structure Covered (template : Text) : Prop where
  chains : ∀ entity, ¬ InChain template entity
  missed : ∀ entity ∈ entityTokens template, entity ∉ foundEntities template →
    ∀ parsed, parse template = some parsed → ¬ Spelled parsed entity

/-- An accepted template. -/
structure AcceptedFacts (field template : Text) : Prop where
  isField : IsField field
  clean : ∀ entity ∈ validationEntity :: foundEntities template, ScansClean field template entity

theorem checkEntities_eq_ok {field : Text} : ∀ {entityIds : List Text},
    checkEntities field template entityIds = .ok () →
      ∀ entity ∈ entityIds, ScansClean field template entity := by
  intro entityIds
  induction entityIds with
  | nil => exact fun _ _ h => absurd h List.not_mem_nil
  | cons first entityIds ih =>
    intro h
    rw [checkEntities, bind_unit_eq_ok] at h
    obtain ⟨hfirst, hrest⟩ := h
    refine List.forall_mem_cons.2 ⟨?_, ih hrest⟩
    rw [checkEntity] at hfirst
    split at hfirst
    · cases hfirst
    · rename_i scan hscan
      exact ⟨scan, hscan, check_eq_ok.1 hfirst⟩

theorem acceptedFacts {field value : Text}
    (h : validateConfigEntryReferenceTemplate field template = .ok value) :
    AcceptedFacts field template := by
  rw [validateConfigEntryReferenceTemplate] at h
  simp only [bind_unit_eq_ok, check_eq_ok] at h
  obtain ⟨hshape, -, hscans, -⟩ := h
  refine ⟨hshape.1, fun entity hmem => checkEntities_eq_ok hscans entity ?_⟩
  rw [(perm_sortedBy id _).mem_iff, List.mem_dedup]
  rcases List.mem_cons.1 hmem with rfl | hmem
  · exact List.mem_cons_self
  · exact List.mem_cons_of_mem _ (List.mem_dedup.2 hmem)

omit [JinjaParser] in
theorem IsEntityId.ne_nil (h : IsEntityId entity) : entity ≠ [] := by
  obtain ⟨domain, objectId, -, -, rfl⟩ := h
  simp [entityId]

omit [JinjaParser] in
/-- A template is no entity ID. -/
theorem IsEntityId.ne_template (h : IsEntityId entity) (hjinja : hasJinja template = true) :
    template ≠ entity := by
  rintro rfl
  have hbrace : '\x7b' ∉ template := h.not_mem (by decide) (by decide)
  rw [hasJinja, Bool.or_eq_true, Splitting.isSome_find_iff, Splitting.isSome_find_iff] at hjinja
  rcases hjinja with hfound | hfound
  · exact hbrace (hfound.subset List.mem_cons_self)
  · exact hbrace (hfound.subset List.mem_cons_self)

/-- What a tree says of an entity that the pattern misses. -/
theorem analysis_iff {parsed : Node} {other : Text} (hparse : parse template = some parsed)
    (hother : (analyzeTemplate template other).blocked = false) (hid : IsEntityId entity)
    (hmissed : entity ∉ foundEntities template) :
    ((analyzeTemplate template entity).blocked = false ∧
      (analyzeTemplate template entity).replaceableCount ≤ 1) ↔ ¬ Spelled parsed entity := by
  -- what blocks whatever the entity does not block the other one, so it is absent
  have hvisit : (visit other false false parsed).blocked = false := by
    rw [analyzeTemplate, hparse] at hother
    exact (Bool.or_eq_false_iff.1 (Bool.or_eq_false_iff.1 hother).1).1
  have hspans : sourceLiteralSpans template entity = [] := by
    by_contra h
    exact hmissed (mem_foundEntities_of_span h)
  rw [analyzeTemplate, hparse]
  dsimp only
  rw [hspans]
  constructor
  · rintro ⟨hblocked, -⟩
    rw [Bool.or_eq_false_iff, Bool.or_eq_false_iff, Bool.and_eq_false_iff] at hblocked
    obtain ⟨⟨hself, hmentions⟩, hcount⟩ := hblocked
    -- without a span in the source, a literal of the tree would be one too many
    have hzero : (visit entity false false parsed).replaceableCount = 0 := by
      by_contra hne
      rcases hcount with hcount | hcount
      · exact hne (by simpa using hcount)
      · have hlength := of_decide_eq_false hcount
        rw [List.length_nil] at hlength
        omega
    obtain ⟨hchains, hdata⟩ := free_of_visit _ _ parsed hself
    rw [literals_eq _ _ parsed hzero] at hmentions
    rintro (⟨chain, hmem, h⟩ | ⟨data, hmem, h⟩ | h)
    · rw [hchains chain hmem] at h
      cases h
    · rw [hdata data hmem] at h
      cases h
    · rw [hmentions] at h
      cases h
  · intro hspelled
    obtain ⟨hchains, hspelled⟩ := not_or.1 hspelled
    obtain ⟨hdata, hmentions⟩ := not_or.1 hspelled
    rw [Bool.not_eq_true] at hmentions
    have hstrings : ∀ value ∈ collect stringsOf parsed,
        containsCompleteEntity value entity = false := by
      intro value hmem
      rw [mentionsOldParts, Bool.or_eq_false_iff] at hmentions
      exact Bool.not_eq_true _ ▸ List.any_eq_false.1 hmentions.1 value hmem
    have hzero := visit_eq_zero hid.contains_self false false false parsed hvisit
      (fun chain hmem => Bool.not_eq_true _ ▸ fun h => hchains ⟨chain, hmem, h⟩)
      (fun data hmem => Bool.not_eq_true _ ▸ fun h => hdata ⟨data, hmem, h⟩) hstrings
    rw [literals_eq false false parsed (by rw [hzero]), hzero, hmentions]
    exact ⟨rfl, Nat.zero_le _⟩

omit [JinjaParser] in
theorem chainMatches_of_segments {chain : List Text} {segments : Text × Text}
    (hdomain : IsPart segments.1) (hmem : segments ∈ chain.zip chain.tail) :
    chainMatchesEntity chain (entityId segments.1 segments.2) = true := by
  obtain ⟨domain, objectId⟩ := segments
  have hdots : ∀ c ∈ domain, decide (c ≠ '.') = true := by
    intro c hc
    refine decide_eq_true fun hdot => ?_
    have hword := hdomain.2 c hc
    rw [hdot, isWord_dot] at hword
    cases hword
  have hsplit : splitEntity (entityId domain objectId) = (domain, objectId) := by
    rw [splitEntity, entityId, List.takeWhile_append_of_pos hdots,
      List.dropWhile_append_of_pos hdots]
    simp
  rw [chainMatchesEntity, hsplit, Bool.or_eq_true, List.contains_iff_mem, List.contains_iff_mem]
  exact Or.inr hmem

/-- An accepted template holds no ambiguous reference exactly when no entity is spelled in it that
the pattern of the provider misses. -/
theorem accepted_unambiguous_iff {field : Text}
    (haccepted : validateConfigEntryReferenceTemplate field template = .ok template) :
    (∀ entity, Occurs template entity → ScansClean field template entity) ↔ Covered template := by
  obtain ⟨hfield, hclean⟩ := acceptedFacts haccepted
  have hscan {entity : Text} (hid : IsEntityId entity) :=
    @scansClean_iff _ template entity _ hfield hid.ne_nil
  -- the entity that no template is about
  have hvalidation := (scansClean_iff hfield (by decide)).1
    (hclean validationEntity List.mem_cons_self)
  constructor
  · intro hoccurs
    constructor
    · rintro entity ⟨hjinja, parsed, hparse, chain, hchain, segments, hsegments, hdomain, hobject,
        rfl⟩
      have hid : IsEntityId (entityId segments.1 segments.2) :=
        ⟨_, _, hdomain, hobject, rfl⟩
      have hfree := (hscan hid).1 (hoccurs _ ⟨hid, Or.inr ⟨hjinja, parsed, hparse, chain, hchain,
        segments, hsegments, hdomain, hobject, rfl⟩⟩)
      rw [if_pos hjinja, analyzeTemplate, hparse] at hfree
      have hvisit := (Bool.or_eq_false_iff.1 (Bool.or_eq_false_iff.1 hfree.2.1).1).1
      have hmatch := (free_of_visit _ _ parsed hvisit).1 chain hchain
      rw [chainMatches_of_segments hdomain hsegments] at hmatch
      cases hmatch
    · intro entity htoken hmissed parsed hparse
      have hid := isEntityId_of_mem_tokensFrom htoken
      have hcontains : containsCompleteEntity template entity = true :=
        List.contains_iff_mem.2 htoken
      have hfree := ((hscan hid).1 (hoccurs entity ⟨hid, Or.inl hcontains⟩)).2
      by_cases hjinja : hasJinja template = true
      · rw [if_pos hjinja] at hfree hvalidation
        exact (analysis_iff hparse hvalidation.2.1 hid hmissed).1 hfree
      · rw [if_neg hjinja, hcontains] at hfree
        cases hfree
  · rintro hcovered entity ⟨hid, hoccurs⟩
    by_cases hfound : entity ∈ foundEntities template
    · exact hclean entity (List.mem_cons_of_mem _ hfound)
    · rcases hoccurs with hcontains | hchain
      · have htoken : entity ∈ entityTokens template := List.contains_iff_mem.1 hcontains
        refine (hscan hid).2 ?_
        by_cases hjinja : hasJinja template = true
        · rw [if_pos hjinja] at hvalidation ⊢
          refine ⟨hid.ne_template hjinja, ?_⟩
          cases hparse : parse template with
          | none =>
            rw [analyzeTemplate, hparse] at hvalidation
            cases hvalidation.2.1
          | some parsed =>
            exact (analysis_iff hparse hvalidation.2.1 hid hfound).2
              (hcovered.missed entity htoken hfound parsed hparse)
        · -- a text without Jinja has no token
          obtain ⟨first, hfirst⟩ := List.exists_mem_of_ne_nil _
            (foundFrom_ne_nil (List.ne_nil_of_mem htoken))
          have hfirstId := isEntityId_of_mem_tokensFrom (mem_tokensFrom_of_mem_foundFrom hfirst)
          have hfree := ((hscan hfirstId).1 (hclean first (List.mem_cons_of_mem _ hfirst))).2
          rw [if_neg hjinja, containsCompleteEntity, entityTokens] at hfree
          have hmem := List.contains_iff_mem.2 (mem_tokensFrom_of_mem_foundFrom hfirst)
          rw [hmem] at hfree
          cases hfree
      · exact absurd hchain (hcovered.chains entity)

end

/-! ## A reference by attributes -/

namespace Sample

/-- A state of a known entity. -/
def stateTemplate : Text := "\x7b\x7b states('a.b') \x7d\x7d".toList

/-- A variable that is accessed like the states are. -/
def attributeTemplate : Text := "\x7b\x7b x.sensor.private \x7d\x7d".toList

/-- What Jinja reads in the two templates. -/
scoped instance : JinjaParser where
  parse text :=
    if text = stateTemplate then
      some (.mk .other [.mk .other [.mk (.call 1)
        [.mk (.name "states".toList) [], .mk (.const (some "a.b".toList)) []]]])
    else if text = attributeTemplate then
      some (.mk .other [.mk .other [.mk (.getattr "private".toList)
        [.mk (.getattr "sensor".toList) [.mk (.name "x".toList) []]]]])
    else none

theorem state_accepted :
    validateConfigEntryReferenceTemplate "state".toList stateTemplate = .ok stateTemplate := by
  decide +kernel

theorem attribute_accepted :
    validateConfigEntryReferenceTemplate "state".toList attributeTemplate =
      .ok attributeTemplate := by
  decide +kernel

theorem isPart_of_all {text : Text} (hne : text ≠ []) (h : text.all isWord = true) :
    IsPart text :=
  ⟨hne, List.all_eq_true.1 h⟩

theorem state_covered : Covered stateTemplate := by
  constructor
  · rintro _ ⟨-, parsed, hparse, chain, hchain, -⟩
    obtain rfl := Option.some.inj ((if_pos rfl).symm.trans hparse)
    simp [collect, collectAll, chainsOf] at hchain
  · intro other htoken hmissed
    have htokens : entityTokens stateTemplate = foundEntities stateTemplate := by decide
    exact absurd (htokens ▸ htoken) hmissed

theorem state_occurs : Occurs stateTemplate "a.b".toList :=
  ⟨⟨['a'], ['b'], isPart_of_all (by decide) (by decide), isPart_of_all (by decide) (by decide),
    by decide⟩, Or.inl (by decide)⟩

/-- The reference of the first template is clean. -/
theorem state_clean : ScansClean "state".toList stateTemplate "a.b".toList :=
  (accepted_unambiguous_iff state_accepted).2 state_covered _ state_occurs

/-- The second template is accepted, and `sensor.private` is blocked in it. -/
theorem attribute_blocked : ¬ (validateConfigEntryReferenceTemplate "state".toList
    attributeTemplate = .ok attributeTemplate →
      ∀ entity, Occurs attributeTemplate entity →
        ScansClean "state".toList attributeTemplate entity) := by
  intro h
  have hpart : IsPart "sensor".toList := isPart_of_all (by decide) (by decide)
  have hpart' : IsPart "private".toList := isPart_of_all (by decide) (by decide)
  have hoccurs : Occurs attributeTemplate
      (entityId "sensor".toList "private".toList) := by
    refine ⟨⟨_, _, hpart, hpart', rfl⟩, Or.inr ⟨by decide, _, rfl, ?_⟩⟩
    exact ⟨["sensor".toList, "private".toList], by decide,
      ("sensor".toList, "private".toList), by decide, hpart, hpart', rfl⟩
  obtain ⟨scan, hscan, hclean⟩ := h attribute_accepted _ hoccurs
  have hblocked : (scanSemanticReferences
      (.dict [("state".toList, .str attributeTemplate)])
      (entityId "sensor".toList "private".toList) (some "config_entry".toList)).map
        (fun scan => scan.blocked.isEmpty) = some false := by
    decide +kernel
  rw [hscan] at hblocked
  simp [hclean] at hblocked

end Sample

end TrueFamily.Projection
