import Mathlib.Data.List.Infix
import TrueFamily.Lib.Splitting
import TrueFamily.Projection.Tokens

/-!
# The analysis of a template

`_TemplateInspector`, `_node_mentions_old_parts`, `_source_literal_spans` and `_analyze_template`. A
node of Jinja is its kind with its children in the order of `iter_child_nodes`; the parser is a
parameter. A visit adds up what the node and its children find. The identities of approved nodes
are flags that the visit of a call hands to its children.
-/

namespace TrueFamily.Projection

open JsonValue (Text)

/-! ## Nodes -/

/-- What the inspector reads of a node besides its children. -/
inductive NodeKind
  | name (name : Text)
  /-- A literal: a string, or another value. -/
  | const (value : Option Text)
  | templateData (data : Text)
  /-- The children are the callee, so many positional arguments, and the rest. -/
  | call (args : ℕ)
  | getattr (attr : Text)
  /-- The children are the node and the argument. -/
  | getitem
  | filter (name : Text)
  /-- The first children are the arguments. -/
  | macro_ (name : Text) (args : ℕ)
  /-- `Assign`, `AssignBlock` or `For`: the first child is the target. -/
  | binding
  | import_ (target : Text)
  /-- The names under which it imports. -/
  | fromImport (aliases : List Text)
  /-- The first children are the targets. -/
  | with_ (targets : ℕ)
  /-- The children are the call, so many arguments, and the rest. -/
  | callBlock (args : ℕ)
  /-- `Tuple` or `List`. -/
  | sequence
  | other
  deriving DecidableEq, Repr

/-- A node of the parsed template. -/
inductive Node
  | mk (kind : NodeKind) (children : List Node)

/-! ## Constants -/

/-- `_REPLACEABLE_JINJA_HELPERS`, in the order of the source pattern. -/
def replaceableHelpers : List Text :=
  ["states".toList, "state_attr".toList, "is_state".toList, "is_state_attr".toList,
    "has_value".toList]

/-- `_NONREPLACEABLE_ENTITY_HELPERS`. -/
def nonreplaceableHelpers : List Text :=
  ["area_devices".toList, "area_entities".toList, "area_id".toList, "area_name".toList,
    "closest".toList, "config_entry_attr".toList, "config_entry_id".toList, "device_attr".toList,
    "device_entities".toList, "device_id".toList, "device_name".toList, "distance".toList,
    "expand".toList, "floor_areas".toList, "floor_id".toList, "floor_name".toList,
    "integration_entities".toList, "label_areas".toList, "label_devices".toList,
    "label_entities".toList, "label_id".toList, "label_name".toList]

/-- `_ENTITY_JINJA_HELPERS`. -/
def isHelper (name : Text) : Bool :=
  replaceableHelpers.contains name || nonreplaceableHelpers.contains name

/-- `_SAFE_JINJA_FILTERS`. -/
def safeFilters : List Text :=
  ["abs".toList, "bool".toList, "default".toList, "float".toList, "int".toList, "round".toList]

/-! ## Access chains -/

/-- `_access_chain`. -/
def accessChain : Node → Option (Text × List Text)
  | .mk (.getattr attr) (node :: _) =>
    (accessChain node).map fun chain => (chain.1, chain.2 ++ [attr])
  | .mk .getitem (node :: .mk (.const (some value)) _ :: _) =>
    (accessChain node).map fun chain => (chain.1, chain.2 ++ [value])
  | .mk .getitem _ => none
  | .mk (.name name) _ => some (name, [])
  | _ => some ([], [])

/-- `old_entity_id.split(".", 1)`. -/
def splitEntity (oldEntityId : Text) : Text × Text :=
  (oldEntityId.takeWhile fun c => decide (c ≠ '.'),
    (oldEntityId.dropWhile fun c => decide (c ≠ '.')).tail)

/-- `_chain_matches_entity`. -/
def chainMatchesEntity (chain : List Text) (oldEntityId : Text) : Bool :=
  chain.contains oldEntityId || (chain.zip chain.tail).contains (splitEntity oldEntityId)

mutual

/-- `_target_shadows_helper`. -/
def targetShadowsHelper : Node → Bool
  | .mk (.name name) _ => isHelper name
  | .mk .sequence children => anyShadowsHelper children
  | _ => false

def anyShadowsHelper : List Node → Bool
  | [] => false
  | child :: children => targetShadowsHelper child || anyShadowsHelper children

end

/-! ## The inspector -/

/-- `_TemplateAnalysis`. -/
@[ext] structure TemplateAnalysis where
  replaceableCount : ℕ
  blocked : Bool
  deriving DecidableEq, Repr

instance : Add TemplateAnalysis where
  add first second := ⟨first.replaceableCount + second.replaceableCount,
    first.blocked || second.blocked⟩

/-- The helper that a call names. -/
def calledHelper (children : List Node) : Option Text :=
  match children with
  | .mk (.name name) _ :: _ => if isHelper name then some name else none
  | _ => none

/-- The literal string that a call has as its first argument. -/
def firstLiteral (args : ℕ) (children : List Node) : Option Text :=
  match args, children with
  | _ + 1, _ :: .mk (.const value) _ :: _ => value
  | _, _ => none

/-- The call approves its first argument. -/
def approvesArgument (oldEntityId : Text) (args : ℕ) (children : List Node) : Bool :=
  (calledHelper children).any (replaceableHelpers.contains ·)
    && decide (firstLiteral args children = some oldEntityId)

/-- What a node finds that does not depend on the entity; a helper's name may be approved. -/
def blocksAlways (approvedName : Bool) (kind : NodeKind) (children : List Node) : Bool :=
  match kind with
  | .name name => isHelper name && !approvedName
  | .call args => !(calledHelper children).any (replaceableHelpers.contains ·)
      || (firstLiteral args children).isNone
  | .getitem => (accessChain (.mk kind children)).isNone
  | .filter name => !safeFilters.contains name
  | .macro_ name args => isHelper name || anyShadowsHelper (children.take args)
  | .binding => anyShadowsHelper (children.take 1)
  | .import_ target => isHelper target
  | .fromImport aliases => aliases.any isHelper
  | .with_ targets => anyShadowsHelper (children.take targets)
  | .callBlock args => anyShadowsHelper ((children.drop 1).take args)
  | .const _ | .templateData _ | .getattr _ | .sequence | .other => false

/-- What a node finds of the entity; a literal may be approved. -/
def blocksEntity (oldEntityId : Text) (approvedConstant : Bool) (kind : NodeKind)
    (children : List Node) : Bool :=
  match kind with
  | .const value => !approvedConstant && value.any (containsCompleteEntity · oldEntityId)
  | .templateData data => containsCompleteEntity data oldEntityId
  | .call args => (firstLiteral args children).any fun value =>
      decide (value ≠ oldEntityId) && containsCompleteEntity value oldEntityId
  | .getattr _ | .getitem => (accessChain (.mk kind children)).any fun chain =>
      chainMatchesEntity chain.2 oldEntityId
  | _ => false

/-- The node by itself. -/
def inspect (oldEntityId : Text) (approvedName approvedConstant : Bool) (kind : NodeKind)
    (children : List Node) : TemplateAnalysis where
  replaceableCount :=
    match kind with
    | .call args => if approvesArgument oldEntityId args children then 1 else 0
    | _ => 0
  blocked := blocksAlways approvedName kind children
    || blocksEntity oldEntityId approvedConstant kind children

/-- The children whose name is approved: the callee of a helper's call. -/
def approvedNames (kind : NodeKind) (children : List Node) : List Bool :=
  match kind with
  | .call _ => [(calledHelper children).isSome]
  | _ => []

/-- The children whose literal is approved. -/
def approvedConstants (oldEntityId : Text) (kind : NodeKind) (children : List Node) : List Bool :=
  match kind with
  | .call args => [false, approvesArgument oldEntityId args children]
  | _ => []

mutual

/-- `_TemplateInspector.visit`. -/
def visit (oldEntityId : Text) : Bool → Bool → Node → TemplateAnalysis
  | approvedName, approvedConstant, .mk kind children =>
    inspect oldEntityId approvedName approvedConstant kind children
      + visitAll oldEntityId (approvedNames kind children)
        (approvedConstants oldEntityId kind children) children

/-- `generic_visit`. -/
def visitAll (oldEntityId : Text) : List Bool → List Bool → List Node → TemplateAnalysis
  | _, _, [] => ⟨0, false⟩
  | names, constants, child :: children =>
    visit oldEntityId (names.headD false) (constants.headD false) child
      + visitAll oldEntityId names.tail constants.tail children

end

mutual

/-- The literal strings of `_walk_nodes` that are not excluded. -/
def literals (oldEntityId : Text) : Bool → Node → List Text
  | excluded, .mk kind children =>
    (match kind with
      | .const (some value) => if excluded then [] else [value]
      | _ => []) ++ literalsAll oldEntityId (approvedConstants oldEntityId kind children) children

def literalsAll (oldEntityId : Text) : List Bool → List Node → List Text
  | _, [] => []
  | excluded, child :: children =>
    literals oldEntityId (excluded.headD false) child
      ++ literalsAll oldEntityId excluded.tail children

end

/-- Flags that are all unset stay so for the children that follow. -/
theorem headD_tail_of_false {flags : List Bool} (h : ∀ flag ∈ flags, flag = false) :
    flags.headD false = false ∧ ∀ flag ∈ flags.tail, flag = false := by
  cases flags with
  | nil => simp
  | cons flag flags => simpa using h

/-! ## Mentions of the parts -/

/-- The spans of the entity tokens, from an offset on. -/
def tokenSpans : Bool → ℕ → Text → List (ℕ × ℕ)
  | _, _, [] => []
  | afterWord, offset, c :: rest =>
    (if afterWord then [] else
      (tokenAt (c :: rest)).toList.map fun token => (offset, offset + token.length))
      ++ tokenSpans (isWord c) (offset + 1) rest

/-- Spans that start in order, with those that touch merged. -/
def mergeSpans : List (ℕ × ℕ) → List (ℕ × ℕ)
  | [] => []
  | (start, stop) :: spans =>
    match mergeSpans spans with
    | (start', stop') :: merged =>
      if start' ≤ stop then (start, max stop stop') :: merged
      else (start, stop) :: (start', stop') :: merged
    | [] => [(start, stop)]

/-- `_without_spans`, from a cursor on. -/
def withoutSpans (text : Text) : ℕ → List (ℕ × ℕ) → Text
  | cursor, [] => text.drop cursor
  | cursor, (start, stop) :: spans =>
    (text.take start).drop cursor ++ ' ' :: withoutSpans text stop spans

/-- What is left of a character in `re.sub(r"[^a-z0-9_.]", "", text.lower())`. The Kelvin sign and
the dotted capital I are lowered to ASCII letters. -/
def compactChar (c : Char) : Option Char :=
  if isWord c || decide (c = '.') then some c
  else if 'A' ≤ c ∧ c ≤ 'Z' then some c.toLower
  else if c = Char.ofNat 0x212a then some 'k'
  else if c = Char.ofNat 0x130 then some 'i'
  else none

/-- `_node_mentions_old_parts`, of the literal strings of the node. -/
def mentionsOldParts (values : List Text) (oldEntityId : Text) : Bool :=
  values.any (containsCompleteEntity · oldEntityId) ||
    let compact := (values.flatMap fun value =>
      withoutSpans value 0 (mergeSpans (tokenSpans false 0 value))).filterMap compactChar
    decide ((splitEntity oldEntityId).1 <:+: compact ∧ (splitEntity oldEntityId).2 <:+: compact)

/-! ## Spans in the source -/

/-- `str.isspace`, which is `\s`, of one character. -/
def isWhitespace (c : Char) : Bool :=
  decide ((9 ≤ c.toNat ∧ c.toNat ≤ 13) ∨ (28 ≤ c.toNat ∧ c.toNat ≤ 32) ∨ c.toNat = 0x85
    ∨ c.toNat = 0xa0 ∨ c.toNat = 0x1680 ∨ (0x2000 ≤ c.toNat ∧ c.toNat ≤ 0x200a)
    ∨ c.toNat = 0x2028 ∨ c.toNat = 0x2029 ∨ c.toNat = 0x202f ∨ c.toNat = 0x205f
    ∨ c.toNat = 0x3000)

/-- A match of the source pattern. -/
structure HelperMatch where
  start : ℕ
  stop : ℕ
  entityStart : ℕ
  entity : Text
  deriving DecidableEq, Repr

/-- A quoted entity, its quote and what may follow it: the offset of the entity, and the entity. -/
def quotedEntity (text : Text) : Option Text :=
  match text with
  | quote :: rest =>
    if quote = '\'' ∨ quote = '"' then
      match tokenAt rest with
      | some entity =>
        match rest.drop entity.length with
        | closing :: rest =>
          if closing = quote ∧ ((rest.dropWhile isWhitespace).head? = some ',' ∨
              (rest.dropWhile isWhitespace).head? = some ')') then some entity
          else none
        | [] => none
      | none => none
    else none
  | [] => none

/-- `_SOURCE_HELPER_PATTERN` at the start of a text: the length up to the quote, and the entity. -/
def helperAt (text : Text) : Option (ℕ × Text) :=
  replaceableHelpers.findSome? fun helper =>
    if helper.isPrefixOf text then
      let spaces := (text.drop helper.length).takeWhile isWhitespace
      match (text.drop helper.length).dropWhile isWhitespace with
      | '(' :: rest =>
        let inner := rest.takeWhile isWhitespace
        (quotedEntity (rest.dropWhile isWhitespace)).map fun entity =>
          (helper.length + spaces.length + 1 + inner.length, entity)
      | _ => none
    else none

/-- The matches of `_SOURCE_HELPER_PATTERN`, from an offset on; the first `skip` characters belong
to a match, and the last character may forbid a match here. -/
def helperMatches : ℕ → Bool → ℕ → Text → List HelperMatch
  | _, _, _, [] => []
  | skip + 1, _, offset, c :: rest =>
    helperMatches skip (isWord c || decide (c = '.')) (offset + 1) rest
  | 0, forbidden, offset, c :: rest =>
    match if forbidden then none else helperAt (c :: rest) with
    | some (quote, entity) =>
      { start := offset
        stop := offset + quote + entity.length + 2
        entityStart := offset + quote + 1
        entity := entity } ::
        helperMatches (quote + entity.length + 1) (isWord c || decide (c = '.')) (offset + 1) rest
    | none => helperMatches 0 (isWord c || decide (c = '.')) (offset + 1) rest

/-- `_find_jinja_closing`, from an index on, with what stands there. -/
def findJinjaClosing (closing : Text) : Option Char → Bool → ℕ → Text → Option ℕ
  | _, _, _, [] => none
  | _, _, _, [_] => none
  | some quote, escaped, index, c :: rest =>
    if escaped then findJinjaClosing closing (some quote) false (index + 1) rest
    else if c = '\\' then findJinjaClosing closing (some quote) true (index + 1) rest
    else if c = quote then findJinjaClosing closing none false (index + 1) rest
    else findJinjaClosing closing (some quote) false (index + 1) rest
  | none, escaped, index, c :: rest =>
    if c = '\'' ∨ c = '"' then findJinjaClosing closing (some c) escaped (index + 1) rest
    else if closing.isPrefixOf (c :: rest) then some index
    else findJinjaClosing closing none escaped (index + 1) rest

/-- `_END_RAW_PATTERN` at the start of a text: what stands behind the match. -/
def endRawAt (text : Text) : Option Text :=
  if "\x7b%".toList.isPrefixOf text then
    let rest := text.drop 2
    let rest := if rest.head? = some '-' then rest.tail else rest
    let rest := rest.dropWhile isWhitespace
    if "endraw".toList.isPrefixOf rest then
      let rest := (rest.drop 6).dropWhile isWhitespace
      let rest := if rest.head? = some '-' then rest.tail else rest
      if "%\x7d".toList.isPrefixOf rest then some (rest.drop 2) else none
    else none
  else none

/-- `_END_RAW_PATTERN.search`: what stands behind the first match. -/
def searchEndRaw : Text → Option Text
  | [] => none
  | c :: rest => (endRawAt (c :: rest)).or (searchEndRaw rest)

/-- `text.strip()`, of the characters that the predicate takes. -/
def stripBy (drops : Char → Bool) (text : Text) : Text :=
  ((text.dropWhile drops).reverse.dropWhile drops).reverse

/-- `content.strip().strip("-").strip() == "raw"`. -/
def opensRaw (content : Text) : Bool :=
  decide (stripBy isWhitespace (stripBy (fun c => decide (c = '-')) (stripBy isWhitespace content))
    = "raw".toList)

/-- `_jinja_code_ranges`, from a cursor on. Every pass moves the cursor, so the length of the text
bounds the passes. -/
def jinjaCodeRanges (text : Text) : ℕ → Bool → ℕ → List (ℕ × ℕ)
  | 0, _, _ => []
  | passes + 1, true, cursor =>
    match searchEndRaw (text.drop cursor) with
    | none => []
    | some rest => jinjaCodeRanges text passes false (text.length - rest.length)
  | passes + 1, false, cursor =>
    let at? (delimiter : Text) : Option ℕ :=
      (Splitting.find delimiter (text.drop cursor)).map (· + cursor)
    let before (first : ℕ) (other : Option ℕ) : Bool :=
      other.all fun index => decide (first < index)
    let closed (start : ℕ) (closing : Text) (block : Bool) : List (ℕ × ℕ) :=
      match findJinjaClosing closing none false (start + 2) (text.drop (start + 2)) with
      | none => []
      | some stop =>
        if block && opensRaw ((text.take stop).drop (start + 2)) then
          jinjaCodeRanges text passes true (stop + 2)
        else (start + 2, stop) :: jinjaCodeRanges text passes false (stop + 2)
    match at? "\x7b\x7b".toList, at? "\x7b%".toList, at? "\x7b#".toList with
    | none, none, none => []
    | expression, block, comment =>
      if expression.any fun start => before start block && before start comment then
        expression.elim [] fun start => closed start "\x7d\x7d".toList false
      else if block.any fun start => before start comment then
        block.elim [] fun start => closed start "%\x7d".toList true
      else comment.elim [] fun start =>
        match Splitting.find "#\x7d".toList (text.drop (start + 2)) with
        | none => []
        | some stop => jinjaCodeRanges text passes false (start + 2 + stop + 2)

/-- `_source_literal_spans`. -/
def sourceLiteralSpans (text oldEntityId : Text) : List (ℕ × ℕ) :=
  let codeRanges := jinjaCodeRanges text (text.length + 1) false 0
  ((helperMatches 0 false 0 text).filter fun found =>
      decide (found.entity = oldEntityId) &&
        codeRanges.any fun range => decide (range.1 ≤ found.start ∧ found.stop ≤ range.2)).map
    fun found => (found.entityStart, found.entityStart + found.entity.length)

/-- The parser of Jinja: nothing where it raises `TemplateSyntaxError`. -/
class JinjaParser where
  parse : Text → Option Node

export JinjaParser (parse)

/-- `_analyze_template`. -/
def analyzeTemplate [JinjaParser] (text oldEntityId : Text) : TemplateAnalysis :=
  match parse text with
  | none => ⟨0, true⟩
  | some parsed =>
    let inspected := visit oldEntityId false false parsed
    let blocked := inspected.blocked
      || mentionsOldParts (literals oldEntityId false parsed) oldEntityId
      || (decide (inspected.replaceableCount ≠ 0) &&
        decide ((sourceLiteralSpans text oldEntityId).length ≠ inspected.replaceableCount))
    ⟨inspected.replaceableCount, blocked⟩

end TrueFamily.Projection
