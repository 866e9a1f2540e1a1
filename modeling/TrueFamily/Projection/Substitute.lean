import TrueFamily.Projection.Template

/-!
# Trees with the approved literal replaced

`substitute` replaces the approved literals of a tree. The inspector then approves nothing any more
and blocks what it blocked before (`visit_substitute`), and what is left mentions the old entity as
little as before (`mentionsOldParts_substitute`).
-/

namespace TrueFamily.Projection

open JsonValue (Text)

/-! ## The substitution -/

/-- A literal with another string. -/
def withLiteral (targetEntityId : Text) : NodeKind → NodeKind
  | .const (some _) => .const (some targetEntityId)
  | kind => kind

mutual

/-- The tree with the approved literals replaced; the node itself may be approved. -/
def substitute (oldEntityId targetEntityId : Text) : Bool → Node → Node
  | approvedConstant, .mk kind children =>
    .mk (if approvedConstant then withLiteral targetEntityId kind else kind)
      (substituteAll oldEntityId targetEntityId (approvedConstants oldEntityId kind children)
        children)

def substituteAll (oldEntityId targetEntityId : Text) : List Bool → List Node → List Node
  | _, [] => []
  | constants, child :: children =>
    substitute oldEntityId targetEntityId (constants.headD false) child
      :: substituteAll oldEntityId targetEntityId constants.tail children

end

/-! ## What does not change -/

section

variable {old target : Text}

/-- The kind of a node that is not approved stays. -/
theorem substitute_mk (kind : NodeKind) (children : List Node) :
    substitute old target false (.mk kind children) =
      .mk kind (substituteAll old target (approvedConstants old kind children) children) := rfl

theorem accessChain_substitute : ∀ node : Node,
    accessChain (substitute old target false node) = accessChain node := by
  intro node
  induction node using accessChain.induct with
  | case1 attr node rest ih =>
    simp only [substitute_mk, approvedConstants, substituteAll, List.headD_nil, accessChain, ih]
  | case2 node value children rest ih =>
    simp only [substitute_mk, approvedConstants, substituteAll, List.headD_nil, List.tail_nil,
      accessChain, ih]
  | case3 children hnot =>
    rcases children with _ | ⟨first, _ | ⟨⟨kind, rest⟩, more⟩⟩
    · rfl
    · rfl
    · simp only [substitute_mk, approvedConstants, substituteAll, List.headD_nil, List.tail_nil]
      cases kind with
      | const value =>
        cases value with
        | none => rfl
        | some value => exact absurd rfl (hnot first value rest more)
      | _ => rfl
  | case4 name children => rfl
  | case5 node hattr _ hitem hname =>
    obtain ⟨kind, children⟩ := node
    cases kind with
    | getattr attr =>
      cases children with
      | nil => rfl
      | cons first rest => exact absurd rfl (hattr attr first rest)
    | getitem => exact absurd rfl (hitem children)
    | name name => exact absurd rfl (hname name children)
    | _ => rfl

mutual

theorem targetShadowsHelper_substitute : ∀ node : Node,
    targetShadowsHelper (substitute old target false node) = targetShadowsHelper node
  | .mk kind children => by
    cases kind with
    | sequence => exact anyShadowsHelper_substitute children
    | _ => rfl

theorem anyShadowsHelper_substitute : ∀ children : List Node,
    anyShadowsHelper (substituteAll old target [] children) = anyShadowsHelper children
  | [] => rfl
  | child :: children => by
    rw [substituteAll, anyShadowsHelper, anyShadowsHelper, List.headD_nil, List.tail_nil,
      targetShadowsHelper_substitute child, anyShadowsHelper_substitute children]

end

theorem substituteAll_eq_map : ∀ children : List Node,
    substituteAll old target [] children = children.map (substitute old target false)
  | [] => rfl
  | child :: children => by
    rw [substituteAll, List.headD_nil, List.tail_nil, substituteAll_eq_map children, List.map_cons]

theorem calledHelper_substitute {flag : Bool} : ∀ children : List Node,
    calledHelper (substituteAll old target [false, flag] children) = calledHelper children
  | [] => rfl
  | .mk kind rest :: children => by
    cases kind <;> rfl

theorem firstLiteral_substitute {flag : Bool} {args : ℕ} {children : List Node} :
    firstLiteral args (substituteAll old target [false, flag] children) =
      if flag && (firstLiteral args children).isSome then some target
      else firstLiteral args children := by
  match args, children with
  | 0, _ => simp [firstLiteral]
  | _ + 1, [] => simp [firstLiteral, substituteAll]
  | _ + 1, [_] => simp [firstLiteral, substituteAll]
  | _ + 1, first :: .mk kind rest :: more =>
    cases kind with
    | const value =>
      cases flag <;> cases value <;>
        simp [firstLiteral, substituteAll, substitute, withLiteral]
    | _ => cases flag <;> simp [firstLiteral, substituteAll, substitute, withLiteral]

/-! ## The inspector -/

variable (hne : target ≠ old) (hsilent : containsCompleteEntity target old = false)

include hne in
/-- No argument of a substituted call is the old entity. -/
theorem approvesArgument_substitute (args : ℕ) (children : List Node) :
    approvesArgument old args (substituteAll old target
      [false, approvesArgument old args children] children) = false := by
  rw [approvesArgument, calledHelper_substitute, firstLiteral_substitute]
  cases happroves : approvesArgument old args children with
  | true =>
    have hliteral := of_decide_eq_true (Bool.and_eq_true_iff.1 happroves).2
    simp [hliteral, hne]
  | false => simpa [approvesArgument] using happroves

theorem blocksAlways_substitute (names constants : Bool) (kind : NodeKind)
    (children : List Node) :
    blocksAlways names (if constants then withLiteral target kind else kind)
      (substituteAll old target (approvedConstants old kind children) children) =
    blocksAlways names kind children := by
  have hshadows : ∀ n m, anyShadowsHelper
      (((substituteAll old target [] children).drop n).take m) =
        anyShadowsHelper ((children.drop n).take m) := by
    intro n m
    rw [substituteAll_eq_map, ← List.map_drop, ← List.map_take, ← substituteAll_eq_map,
      anyShadowsHelper_substitute]
  have hkind : (if constants then withLiteral target kind else kind) =
      kind ∨ ∃ value, kind = .const (some value) := by
    cases kind with
    | const value => cases value <;> simp [withLiteral]
    | _ => simp [withLiteral]
  rcases hkind with hkind | ⟨value, rfl⟩
  · rw [hkind]
    cases kind with
    | call args =>
      simp only [blocksAlways, approvedConstants, calledHelper_substitute, firstLiteral_substitute]
      cases firstLiteral args children <;> cases approvesArgument old args children <;> simp
    | getitem => exact congrArg Option.isNone (accessChain_substitute (.mk .getitem children))
    | macro_ name args => exact congrArg (isHelper name || ·) (hshadows 0 args)
    | binding => exact hshadows 0 1
    | with_ targets => exact hshadows 0 targets
    | callBlock args => exact hshadows 1 args
    | _ => rfl
  · cases constants <;> rfl

include hsilent in
theorem blocksEntity_substitute (constants : Bool) (kind : NodeKind) (children : List Node) :
    blocksEntity old false (if constants then withLiteral target kind else kind)
      (substituteAll old target (approvedConstants old kind children) children) =
    blocksEntity old constants kind children := by
  cases kind with
  | const value => cases constants <;> cases value <;> simp [blocksEntity, withLiteral, hsilent]
  | call args =>
    rw [show (if constants then withLiteral target (.call args) else .call args) = .call args from
      ite_self _]
    simp only [blocksEntity, approvedConstants, firstLiteral_substitute]
    cases happroves : approvesArgument old args children with
    | true =>
      have hliteral := of_decide_eq_true (Bool.and_eq_true_iff.1 happroves).2
      simp [hliteral, hsilent]
    | false => rfl
  | getattr attr =>
    rw [show (if constants then withLiteral target (.getattr attr) else .getattr attr) =
      .getattr attr from ite_self _]
    exact congrArg (Option.any fun chain => chainMatchesEntity chain.2 old)
      (accessChain_substitute (.mk (.getattr attr) children))
  | getitem =>
    rw [show (if constants then withLiteral target .getitem else .getitem) = .getitem from
      ite_self _]
    exact congrArg (Option.any fun chain => chainMatchesEntity chain.2 old)
      (accessChain_substitute (.mk .getitem children))
  | _ => cases constants <;> rfl

include hne hsilent

/-- A node of the substituted tree approves nothing and blocks what it blocked. -/
theorem inspect_substitute (names constants : Bool) (kind : NodeKind) (children : List Node) :
    inspect old names false (if constants then withLiteral target kind else kind)
      (substituteAll old target (approvedConstants old kind children) children) =
    ⟨0, (inspect old names constants kind children).blocked⟩ := by
  ext1
  · cases kind with
    | call args =>
      rw [show (if constants then withLiteral target (.call args) else .call args) = .call args from
        ite_self _]
      exact if_neg (Bool.eq_false_iff.1 (approvesArgument_substitute hne args children))
    | const value => cases constants <;> cases value <;> rfl
    | _ => cases constants <;> rfl
  · exact congrArg₂ (· || ·) (blocksAlways_substitute names constants kind children)
      (blocksEntity_substitute hsilent constants kind children)

omit hne hsilent in
theorem approvedNames_substitute (constants : Bool) (kind : NodeKind) (children : List Node) :
    approvedNames (if constants then withLiteral target kind else kind)
      (substituteAll old target (approvedConstants old kind children) children) =
    approvedNames kind children := by
  cases kind with
  | call args =>
    rw [show (if constants then withLiteral target (.call args) else .call args) = .call args from
      ite_self _]
    exact congrArg (fun helper => [Option.isSome helper]) (calledHelper_substitute children)
  | const value => cases constants <;> cases value <;> rfl
  | _ => cases constants <;> rfl

omit hsilent in
theorem approvedConstants_substitute (constants : Bool) (kind : NodeKind)
    (children : List Node) : ∀ flag ∈
    approvedConstants old (if constants then withLiteral target kind else kind)
      (substituteAll old target (approvedConstants old kind children) children),
    flag = false := by
  cases kind with
  | call args =>
    rw [show (if constants then withLiteral target (.call args) else .call args) = .call args from
      ite_self _]
    simp only [approvedConstants, approvesArgument_substitute hne args children]
    decide
  | const value => cases constants <;> cases value <;> simp [approvedConstants, withLiteral]
  | _ => cases constants <;> simp [approvedConstants, withLiteral]

omit hne hsilent

mutual

/-- The substituted tree approves nothing and blocks what the tree blocks. -/
theorem visit_substitute (hne : target ≠ old)
    (hsilent : containsCompleteEntity target old = false) :
    ∀ (names constants : Bool) (node : Node),
      visit old names false (substitute old target constants node) =
        ⟨0, (visit old names constants node).blocked⟩
  | names, constants, .mk kind children => by
    rw [substitute, visit, visit, inspect_substitute hne hsilent, approvedNames_substitute,
      visitAll_substitute hne hsilent _ (approvedConstants old kind children) _ children
        (approvedConstants_substitute hne constants kind children)]
    rfl

theorem visitAll_substitute (hne : target ≠ old)
    (hsilent : containsCompleteEntity target old = false) :
    ∀ (names constants flags : List Bool) (children : List Node), (∀ flag ∈ flags, flag = false) →
      visitAll old names flags (substituteAll old target constants children) =
        ⟨0, (visitAll old names constants children).blocked⟩
  | _, _, _, [], _ => rfl
  | names, constants, flags, child :: children, hflags => by
    obtain ⟨hhead, htail⟩ := headD_tail_of_false hflags
    rw [substituteAll, visitAll, visitAll, hhead, visit_substitute hne hsilent _ _ child,
      visitAll_substitute hne hsilent _ _ _ children htail]
    rfl

end

/-! ## The literals -/

mutual

/-- Besides the new entity, the literals are those that were not approved. -/
theorem literals_substitute (hne : target ≠ old) : ∀ (constants : Bool) (node : Node),
    (literals old false (substitute old target constants node)).filter (· ≠ target) =
      (literals old constants node).filter (· ≠ target)
  | constants, .mk kind children => by
    have hall := literalsAll_substitute hne (approvedConstants old kind children) _ children
      (approvedConstants_substitute hne constants kind children)
    cases kind with
    | const value =>
      cases value with
      | none => cases constants <;> exact hall
      | some value =>
        cases constants with
        | true => exact (List.filter_cons_of_neg (by simp)).trans hall
        | false =>
          change ([value] ++ _).filter _ = ([value] ++ _).filter _
          rw [List.filter_append, List.filter_append]
          exact congrArg (_ ++ ·) hall
    | _ => cases constants <;> exact hall

theorem literalsAll_substitute (hne : target ≠ old) : ∀ (constants flags : List Bool)
    (children : List Node), (∀ flag ∈ flags, flag = false) →
      (literalsAll old flags (substituteAll old target constants children)).filter (· ≠ target) =
        (literalsAll old constants children).filter (· ≠ target)
  | _, _, [], _ => rfl
  | constants, flags, child :: children, hflags => by
    obtain ⟨hhead, htail⟩ := headD_tail_of_false hflags
    rw [substituteAll, literalsAll, literalsAll, List.filter_append, List.filter_append, hhead,
      literals_substitute hne _ child, literalsAll_substitute hne _ _ children htail]

end

/-! ## Mentions -/

theorem tokenAt_word {word : Text} (hword : ∀ c ∈ word, isWord c = true) : tokenAt word = none := by
  rw [tokenAt, List.dropWhile_eq_nil_iff.2 hword]

theorem tokenSpans_word {word : Text} (hword : ∀ c ∈ word, isWord c = true) :
    ∀ (afterWord : Bool) (offset : ℕ), tokenSpans afterWord offset word = [] := by
  induction word with
  | nil => exact fun _ _ => rfl
  | cons c word ih =>
    intro afterWord offset
    rw [tokenSpans, tokenAt_word hword, ih (List.forall_mem_cons.1 hword).2]
    simp

theorem tokenSpans_append {word : Text} (hword : ∀ c ∈ word, isWord c = true) (rest : Text) :
    ∀ offset, tokenSpans true offset (word ++ rest) =
      tokenSpans true (offset + word.length) rest := by
  induction word with
  | nil => exact fun _ => rfl
  | cons c word ih =>
    intro offset
    obtain ⟨hc, hword⟩ := List.forall_mem_cons.1 hword
    rw [List.cons_append, tokenSpans, hc, ih hword, List.length_cons, Nat.add_right_comm]
    rfl

/-- The only token of an entity ID is the entity ID. -/
theorem tokenSpans_entityId {domain objectId : Text} (hdomain : IsPart domain)
    (hobject : IsPart objectId) :
    tokenSpans false 0 (entityId domain objectId) =
      [(0, (entityId domain objectId).length)] := by
  obtain ⟨first, tail, rfl⟩ := List.exists_cons_of_ne_nil hdomain.1
  have htoken := @tokenAt_entityId [] _ _ hdomain hobject rfl
  rw [List.append_nil] at htoken
  obtain ⟨hfirst, htail⟩ := List.forall_mem_cons.1 hdomain.2
  have hcons : entityId (first :: tail) objectId = first :: (tail ++ '.' :: objectId) := rfl
  rw [hcons] at htoken ⊢
  rw [tokenSpans, htoken, hfirst, tokenSpans_append htail, tokenSpans, isWord_dot,
    tokenSpans_word hobject.2]
  simp

/-- The tokens of a text are what stands at its spans. -/
theorem tokensFrom_length : ∀ (text : Text) (afterWord : Bool) (offset : ℕ),
    (tokensFrom afterWord text).length = (tokenSpans afterWord offset text).length := by
  intro text
  induction text with
  | nil => exact fun _ _ => rfl
  | cons c text ih =>
    intro afterWord offset
    rw [tokensFrom, tokenSpans, List.length_append, List.length_append, ih _ (offset + 1)]
    cases afterWord <;> simp

/-- An entity ID holds no other. -/
theorem IsEntityId.contains_iff (h : IsEntityId target) :
    containsCompleteEntity target old = true ↔ old = target := by
  have hself := h.contains_self
  obtain ⟨domain, objectId, hdomain, hobject, rfl⟩ := h
  have hlength := tokensFrom_length (entityId domain objectId) false 0
  rw [tokenSpans_entityId hdomain hobject] at hlength
  obtain ⟨token, htoken⟩ := List.length_eq_one_iff.1 hlength
  rw [containsCompleteEntity, entityTokens, htoken, List.contains_iff_mem, List.mem_singleton]
    at hself ⊢
  rw [← hself]

/-- An entity ID does not hold another. -/
theorem IsEntityId.not_contains (h : IsEntityId target) (hne : target ≠ old) :
    containsCompleteEntity target old = false :=
  Bool.eq_false_iff.2 fun hcontains => hne (h.contains_iff.1 hcontains).symm

/-- Nothing is left of an entity ID without its token. -/
theorem IsEntityId.leftover (h : IsEntityId target) :
    (withoutSpans target 0 (mergeSpans (tokenSpans false 0 target))).filterMap compactChar =
      [] := by
  obtain ⟨domain, objectId, hdomain, hobject, rfl⟩ := h
  rw [tokenSpans_entityId hdomain hobject]
  simp [mergeSpans, withoutSpans, compactChar, isWord]

/-- Another entity ID among the texts mentions nothing. -/
theorem mentionsOldParts_filter {values : List Text} (htarget : IsEntityId target)
    (hne : target ≠ old) :
    mentionsOldParts (values.filter (· ≠ target)) old = mentionsOldParts values old := by
  have hany : (values.filter (· ≠ target)).any (containsCompleteEntity · old) =
      values.any (containsCompleteEntity · old) := by
    induction values with
    | nil => rfl
    | cons value values ih =>
      by_cases heq : value = target
      · rw [List.filter_cons_of_neg (by simp [heq]), ih, List.any_cons, heq,
          htarget.not_contains hne, Bool.false_or]
      · rw [List.filter_cons_of_pos (by simp [heq]), List.any_cons, List.any_cons, ih]
  have hleft : ∀ values : List Text, ((values.filter (· ≠ target)).flatMap fun value =>
        withoutSpans value 0 (mergeSpans (tokenSpans false 0 value))).filterMap compactChar =
      (values.flatMap fun value =>
        withoutSpans value 0 (mergeSpans (tokenSpans false 0 value))).filterMap compactChar := by
    intro values
    induction values with
    | nil => rfl
    | cons value values ih =>
      by_cases heq : value = target
      · rw [List.filter_cons_of_neg (by simp [heq]), ih, List.flatMap_cons, List.filterMap_append,
          heq, htarget.leftover, List.nil_append]
      · rw [List.filter_cons_of_pos (by simp [heq]), List.flatMap_cons, List.flatMap_cons,
          List.filterMap_append, List.filterMap_append, ih]
  rw [mentionsOldParts, mentionsOldParts, hany, hleft]

/-- The substituted tree mentions what the tree mentions besides its approved literals. -/
theorem mentionsOldParts_substitute (htarget : IsEntityId target) (hne : target ≠ old)
    (constants : Bool) (node : Node) :
    mentionsOldParts (literals old false (substitute old target constants node)) old =
      mentionsOldParts (literals old constants node) old := by
  rw [← mentionsOldParts_filter htarget hne, literals_substitute hne,
    mentionsOldParts_filter htarget hne]

end

end TrueFamily.Projection
