import TrueFamily.Preflight.Acl

/-!
# What the extension treats as interference

`#onMQTTEnvelope` of the extension and the two topic classifiers it calls, over the UTF-16 code
units of JavaScript strings, and what the ACL plan makes of the topics they find: whatever the
extension would take for a control request or for a write to the candidate is a topic that
`acl_allows` denies (`acl_fences_interference`).
-/

namespace TrueFamily.Preflight

open Checked JsonValue Unicode

/-- A JavaScript string. -/
abbrev Units := List ℕ

/-- A string literal. -/
def units (text : String) : Units := utf16 (chars text)

def slash : ℕ := 0x2f

/-! ## String methods -/

def isHighSurrogate (unit : ℕ) : Bool := decide (0xd800 ≤ unit ∧ unit ≤ 0xdbff)

def isLowSurrogate (unit : ℕ) : Bool := decide (0xdc00 ≤ unit ∧ unit ≤ 0xdfff)

/-- `Array.from(value)`, by code points. -/
def codePoints : Units → List ℕ
  | [] => []
  | [unit] => [unit]
  | unit :: next :: rest =>
    if isHighSurrogate unit && isLowSurrogate next then
      (0x10000 + (unit - 0xd800) * 0x400 + (next - 0xdc00)) :: codePoints rest
    else unit :: codePoints (next :: rest)

def isWellFormedUnicode (value : Units) : Bool :=
  (codePoints value).all fun point => !(isHighSurrogate point || isLowSurrogate point)

/-- `Buffer.byteLength(value, "utf8")`. -/
def byteLength (value : Units) : ℕ :=
  ((codePoints value).map fun point =>
    if point < 0x80 then 1 else if point < 0x800 then 2 else if point < 0x10000 then 3 else 4).sum

/-- The first place of a string from `start` on, `text.indexOf(word, start)`. -/
def indexOf (word text : Units) (start : ℕ) : Option ℕ :=
  (List.range (text.length + 1)).find? fun index =>
    decide (start ≤ index) && word.isPrefixOf (text.drop index)

def includes (text word : Units) : Bool := (indexOf word text 0).isSome

/-- The class of `BOUNDARY_WHITESPACE_PATTERN`. -/
def isWhitespaceUnit (unit : ℕ) : Bool :=
  decide ((0x09 ≤ unit ∧ unit ≤ 0x0d) ∨ unit ∈ [0x20, 0x85, 0xa0, 0x1680]
    ∨ (0x2000 ≤ unit ∧ unit ≤ 0x200a) ∨ unit ∈ [0x2028, 0x2029, 0x202f, 0x205f, 0x3000, 0xfeff])

/-- `requireText`, as a test. -/
def isCanonicalText (value : Units) (maximum : ℕ) : Bool :=
  decide ((codePoints value).length ≠ 0 ∧ (codePoints value).length ≤ maximum)
    && !(value.head?.any isWhitespaceUnit || value.getLast?.any isWhitespaceUnit)
    && value.all (fun unit => decide (0x1f < unit)) && isWellFormedUnicode value

/-- `requireSetTopic`, as a test. -/
def isSetTopic (value : Units) : Bool :=
  isCanonicalText value 160 && (units "/set").isSuffixOf value
    && !((units "/").isPrefixOf value || includes value (units "//") || includes value (units "+")
      || includes value (units "#"))

/-- `IEEE_PATTERN.test`. -/
def isIeee (value : Units) : Bool :=
  (units "0x").isPrefixOf value && decide (value.length = 18)
    && (value.drop 2).all fun unit =>
      decide ((0x30 ≤ unit ∧ unit ≤ 0x39) ∨ (0x61 ≤ unit ∧ unit ≤ 0x66))

/-! ## The classifiers -/

inductive RootKind
  | friendly
  | ieee
  deriving DecidableEq, Repr

/-- What `parseCandidateWriteTopic` returns. -/
structure CandidateWrite where
  rootKind : RootKind
  endpoint : Option Units
  attr : Option Units
  deriving DecidableEq, Repr

/-- The attribute of a suffix `set` or `set/...`. -/
def setAttribute (suffix : Units) : Option (Option Units) :=
  if suffix = units "set" then some none
  else if (units "set/").isPrefixOf suffix then some (some (suffix.drop 4))
  else none

/-- The suffix of a topic after one of the candidate's roots. -/
def parseWriteSuffix (rootKind : RootKind) (suffix : Units) : Option CandidateWrite :=
  match setAttribute suffix with
  | some attr => some ⟨rootKind, none, attr⟩
  | none => do
    let marker ← indexOf (units "/set") suffix 0
    let attr ← setAttribute (suffix.drop (marker + 1))
    return ⟨rootKind, some (suffix.take marker), attr⟩

/-- `parseCandidateWriteTopic`; it throws where the set topic or the address is malformed. -/
def parseCandidateWriteTopic (relativeTopic candidateSetTopic candidateIeee : Units) :
    Except Unit (Option CandidateWrite) :=
  if isSetTopic candidateSetTopic = false ∨ isIeee candidateIeee = false then .error ()
  else if relativeTopic = [] ∨ isWellFormedUnicode relativeTopic = false
      ∨ 65535 < byteLength relativeTopic ∨ includes relativeTopic (units "+") = true
      ∨ includes relativeTopic (units "#") = true ∨ includes relativeTopic [0] = true then
    .ok none
  else
    let friendly := candidateSetTopic.take (candidateSetTopic.length - 4)
    if (friendly ++ [slash]).isPrefixOf relativeTopic then
      .ok (parseWriteSuffix .friendly (relativeTopic.drop (friendly.length + 1)))
    else if (candidateIeee ++ [slash]).isPrefixOf relativeTopic then
      .ok (parseWriteSuffix .ieee (relativeTopic.drop (candidateIeee.length + 1)))
    else .ok none

def isCandidateWriteTopic (relativeTopic candidateSetTopic candidateIeee : Units) : Bool :=
  match parseCandidateWriteTopic relativeTopic candidateSetTopic candidateIeee with
  | .ok (some _) => true
  | _ => false

def isDangerousControlTopic (relativeTopic : Units) : Bool :=
  if relativeTopic = [] then false
  else if relativeTopic = utf16 requestTopic ∨ relativeTopic = utf16 ackTopic then false
  else
    (units "bridge/request/").isPrefixOf relativeTopic
      || includes relativeTopic (units "/bridge/request/")

/-! ## The listener -/

/-- What the listener reads of the core's record. -/
structure RecordTopics where
  candidateSetTopic : Units
  candidateIeee : Units
  deriving DecidableEq

/-- The topic tests of `#onMQTTEnvelope`, in their order. -/
inductive EnvelopeClass
  | request
  | ack
  | controlDrift
  | candidateWrite (relativeTopic : Units)
  | none
  deriving DecidableEq, Repr

theorem indexOf_eq_some {word text : Units} {start index : ℕ}
    (h : indexOf word text start = some index) :
    start ≤ index ∧ index ≤ text.length ∧ word <+: text.drop index := by
  have hmem := List.mem_of_find?_eq_some h
  have hfound := List.find?_some h
  rw [Bool.and_eq_true, decide_eq_true_eq, List.isPrefixOf_iff_prefix] at hfound
  rw [List.mem_range] at hmem
  exact ⟨hfound.1, by omega, hfound.2⟩

/-- The loop that looks for the base topic at the start of a segment. -/
def searchBase (baseMarker topic : Units) (baseIndex : ℕ) : Option ℕ :=
  if 0 < baseIndex ∧ topic[baseIndex - 1]? ≠ some slash then
    match _h : indexOf baseMarker topic (baseIndex + 1) with
    | none => none
    | some next => searchBase baseMarker topic next
  else some baseIndex
termination_by topic.length + 1 - baseIndex
decreasing_by
  have hindex := indexOf_eq_some _h
  omega

/-- `baseIndex`, after the loop. -/
def locateBase (baseTopic topic : Units) : Option ℕ :=
  (indexOf (baseTopic ++ [slash]) topic 0).bind (searchBase (baseTopic ++ [slash]) topic)

/-- The tests of what follows the base topic. -/
def classifyRelative (record : Option RecordTopics) (baseIndex : ℕ) (relative : Units) :
    EnvelopeClass :=
  if isDangerousControlTopic relative then .controlDrift
  else if baseIndex ≠ 0 then .none
  else
    match record with
    | none => .none
    | some record =>
      if isCandidateWriteTopic relative record.candidateSetTopic record.candidateIeee then
        .candidateWrite relative
      else .none

/-- `#onMQTTEnvelope` of an extension with this base topic, up to the call of a handler. -/
def classifyEnvelope (baseTopic : Units) (record : Option RecordTopics) (topic : Units) :
    EnvelopeClass :=
  if topic = baseTopic ++ slash :: utf16 requestTopic then .request
  else if topic = baseTopic ++ slash :: utf16 ackTopic then .ack
  else
    match locateBase baseTopic topic with
    | none => .none
    | some baseIndex =>
      classifyRelative record baseIndex (topic.drop (baseIndex + (baseTopic ++ [slash]).length))

/-- The topic is taken for interference. -/
def EnvelopeClass.IsInterference : EnvelopeClass → Prop
  | .controlDrift | .candidateWrite _ => True
  | _ => False

/-! ## Where the classifiers look -/

theorem prefix_of_searchBase {baseMarker topic : Units} {start index : ℕ}
    (hstart : baseMarker <+: topic.drop start)
    (h : searchBase baseMarker topic start = some index) : baseMarker <+: topic.drop index := by
  induction start using searchBase.induct baseMarker topic with
  | case1 start hcond hnone =>
    rw [searchBase, if_pos hcond] at h
    split at h
    · cases h
    · rename_i next hnext
      rw [hnone] at hnext
      cases hnext
  | case2 start hcond next hnext ih =>
    rw [searchBase, if_pos hcond] at h
    split at h
    · cases h
    · rename_i other hother
      rw [hnext, Option.some.injEq] at hother
      subst hother
      exact ih (indexOf_eq_some hnext).2.2 h
  | case3 start hcond =>
    rw [searchBase, if_neg hcond, Option.some.injEq] at h
    rw [← h]
    exact hstart

/-- The topic around the place that the listener finds. -/
theorem topic_eq_of_locateBase {baseTopic topic : Units} {index : ℕ}
    (h : locateBase baseTopic topic = some index) :
    topic = topic.take index ++ (baseTopic ++ slash ::
      topic.drop (index + (baseTopic ++ [slash]).length)) := by
  obtain ⟨start, hstart, hsearch⟩ := Option.bind_eq_some_iff.1 h
  obtain ⟨rest, hrest⟩ := prefix_of_searchBase (indexOf_eq_some hstart).2.2 hsearch
  have hdrop : topic.drop (index + (baseTopic ++ [slash]).length) = rest := by
    rw [← List.drop_drop, ← hrest, List.drop_left]
  rw [List.append_assoc, List.singleton_append] at hrest
  rw [hdrop, hrest, List.take_append_drop]

/-- Interference is found behind a base topic, on no topic of the probe's own requests. -/
theorem of_interference {baseTopic : Units} {record : Option RecordTopics} {topic : Units}
    {found : EnvelopeClass} (h : classifyEnvelope baseTopic record topic = found)
    (hfound : found.IsInterference) :
    topic ≠ baseTopic ++ slash :: utf16 requestTopic ∧ topic ≠ baseTopic ++ slash :: utf16 ackTopic
      ∧ ∃ index, locateBase baseTopic topic = some index
        ∧ classifyRelative record index (topic.drop (index + (baseTopic ++ [slash]).length))
          = found := by
  unfold classifyEnvelope at h
  split_ifs at h with hrequest hack
  · rw [← h] at hfound
    cases hfound
  · rw [← h] at hfound
    cases hfound
  · refine ⟨hrequest, hack, ?_⟩
    cases hlocate : locateBase baseTopic topic with
    | none =>
      rw [hlocate] at h
      rw [← h] at hfound
      cases hfound
    | some index =>
      rw [hlocate] at h
      exact ⟨index, rfl, h⟩

theorem eq_of_includes {text word : Units} (h : includes text word = true) :
    ∃ front back, text = front ++ (word ++ back) := by
  obtain ⟨index, hindex⟩ := Option.isSome_iff_exists.1 h
  obtain ⟨back, hback⟩ := (indexOf_eq_some hindex).2.2
  exact ⟨text.take index, back, by rw [hback, List.take_append_drop]⟩

/-- A dangerous relative topic behind a base topic has the two segments of a bridge request. -/
theorem containsBridgeRequest_of_drift {topic : Text} (front : Units) {relative : Units}
    (htopic : utf16 topic = front ++ slash :: relative)
    (h : isDangerousControlTopic relative = true) : containsBridgeRequest topic = true := by
  have hword : ∃ front back : Units,
      utf16 topic = front ++ (utf16 ('/' :: (chars "bridge/request/")) ++ back) := by
    unfold isDangerousControlTopic at h
    split_ifs at h with hempty hexact
    rcases Bool.or_eq_true_iff.1 h with hprefix | hinfix
    · obtain ⟨back, hback⟩ := List.isPrefixOf_iff_prefix.1 hprefix
      refine ⟨front, back, ?_⟩
      rw [htopic, ← hback]
      rfl
    · obtain ⟨middle, back, hback⟩ := eq_of_includes hinfix
      refine ⟨front ++ slash :: middle, back, ?_⟩
      rw [htopic, hback, List.append_assoc]
      rfl
  obtain ⟨front, back, hsplit⟩ := hword
  obtain ⟨before, after, rfl, -⟩ := utf16_infix (by decide) hsplit
  exact containsBridgeRequest_of_infix before after

/-- A candidate write lies below one of the candidate's roots. -/
theorem prefix_of_candidateWrite {relative setTopic ieee : Units}
    (h : isCandidateWriteTopic relative setTopic ieee = true) :
    setTopic.take (setTopic.length - 4) ++ [slash] <+: relative ∨ ieee ++ [slash] <+: relative := by
  have hparse : ∃ write, parseCandidateWriteTopic relative setTopic ieee = .ok (some write) := by
    unfold isCandidateWriteTopic at h
    split at h
    · rename_i write hwrite
      exact ⟨write, hwrite⟩
    · cases h
  obtain ⟨write, hwrite⟩ := hparse
  simp only [parseCandidateWriteTopic] at hwrite
  split_ifs at hwrite with hthrows hmalformed hfriendly hieee
  · cases hwrite
  · exact .inl (List.isPrefixOf_iff_prefix.1 hfriendly)
  · exact .inr (List.isPrefixOf_iff_prefix.1 hieee)
  · cases hwrite

theorem utf16_prefixed (baseTopic relative : Text) :
    utf16 (prefixed baseTopic relative) = utf16 baseTopic ++ slash :: utf16 relative := by
  rw [prefixed, utf16_append, utf16_cons]
  rfl

/-- The topics of the probe's own requests are no interference. -/
theorem not_interference_exact {scope : ProbeScope} (record : Option RecordTopics) {topic : Text}
    (h : topic ∈ scope.publishTopics) :
    ¬ (classifyEnvelope (utf16 scope.baseTopic) record (utf16 topic)).IsInterference := by
  intro hfound
  obtain ⟨hrequest, hack, -⟩ := of_interference rfl hfound
  rw [← utf16_prefixed] at hrequest hack
  simp only [ProbeScope.publishTopics, List.mem_cons, List.not_mem_nil, or_false] at h
  rcases h with rfl | rfl
  · exact hrequest rfl
  · exact hack rfl

/-- Control drift is found only on a topic with the segments of a bridge request that is none of
the probe's own. -/
theorem of_controlDrift {scope : ProbeScope} {record : Option RecordTopics} {topic : Text}
    (h : classifyEnvelope (utf16 scope.baseTopic) record (utf16 topic) = .controlDrift) :
    containsBridgeRequest topic = true ∧ topic ∉ scope.publishTopics := by
  constructor
  · obtain ⟨-, -, index, hlocate, hrelative⟩ := of_interference h trivial
    unfold classifyRelative at hrelative
    split_ifs at hrelative with hdanger hindex
    · refine containsBridgeRequest_of_drift
        ((utf16 topic).take index ++ utf16 scope.baseTopic) ?_ hdanger
      rw [List.append_assoc]
      exact topic_eq_of_locateBase hlocate
    · cases record with
      | none => cases hrelative
      | some record =>
        simp only at hrelative
        split_ifs at hrelative
  · intro hmem
    have hexact := not_interference_exact record hmem
    rw [h] at hexact
    exact hexact trivial

/-- A candidate write is found only below the friendly name or the address. -/
theorem of_candidateWrite {scope : ProbeScope} {topic : Text} {relative : Units}
    (hset : scope.setTopic = scope.friendlyName ++ (chars "/set"))
    (h : classifyEnvelope (utf16 scope.baseTopic)
      (some ⟨utf16 scope.setTopic, utf16 scope.candidateIeee⟩) (utf16 topic)
        = .candidateWrite relative) :
    (scope.candidateRoots.any fun root => isTopicSubtree topic root) = true := by
  obtain ⟨-, -, index, hlocate, hrelative⟩ := of_interference h trivial
  have htopic := topic_eq_of_locateBase hlocate
  unfold classifyRelative at hrelative
  simp only at hrelative
  split_ifs at hrelative with hdanger hstart hwrite
  -- the base topic is at the start, and a root of the candidate right behind it
  rw [not_not] at hstart
  subst hstart
  rw [List.take_zero, List.nil_append] at htopic
  have hroot : (utf16 scope.setTopic).take ((utf16 scope.setTopic).length - 4)
      = utf16 scope.friendlyName := by
    rw [hset, utf16_append]
    exact List.take_left' (by rw [List.length_append]; rfl)
  have hbelow : ∀ root : Text, utf16 root ++ [slash] <+: (utf16 topic).drop
      (0 + (utf16 scope.baseTopic ++ [slash]).length) →
      isTopicSubtree topic (prefixed scope.baseTopic root) = true := by
    rintro root ⟨back, hback⟩
    have hunits : utf16 topic
        = utf16 (prefixed scope.baseTopic root ++ ['/']) ++ back := by
      rw [htopic, ← hback, utf16_append, utf16_prefixed]
      simp [slash, utf16Char]
    obtain ⟨after, rfl, -⟩ := utf16_prefix hunits
    rw [List.append_assoc]
    exact isTopicSubtree_append (prefixed scope.baseTopic root) after
  have hroots := prefix_of_candidateWrite hwrite
  rw [hroot] at hroots
  rcases hroots with hfriendly | hieee
  · simp [ProbeScope.candidateRoots, hbelow _ hfriendly]
  · simp [ProbeScope.candidateRoots, hbelow _ hieee]

/-! ## The plan fences the interference -/

theorem requireScope_setTopic {value : Value} {scope : ProbeScope}
    (h : requireScope value = .ok scope) :
    scope.setTopic = scope.friendlyName ++ (chars "/set") := by
  simp only [requireScope, bind_eq_ok, exists_unit, check_eq_ok, pure_eq_ok] at h
  obtain ⟨-, _, -, _, -, _, -, _, -, -, setTopic, hset, -, rfl⟩ := h
  simp only [requireSetTopic, bind_eq_ok, exists_unit, check_eq_ok, pure_eq_ok] at hset
  obtain ⟨_, -, ⟨heq, -⟩, rfl⟩ := hset
  exact heq

section

variable [Sha256]

theorem buildAclPlan_scope {value : Value} {plan : ProbeAclPlan}
    (h : buildAclPlan value = .ok plan) : requireScope value = .ok plan.scope := by
  simp only [buildAclPlan, bind_eq_ok, exists_unit, check_eq_ok, pure_eq_ok] at h
  obtain ⟨scope, hscope, -, -, _, -, _, -, -, rfl⟩ := h
  exact hscope

/-- A publication that the plan allows. -/
theorem aclAllows_publish {value : Value} {plan : ProbeAclPlan}
    (hplan : buildAclPlan value = .ok plan) {principalRole : PrincipalRole ⊕ Text}
    {action : AclAction ⊕ Text} (haction : AclAction.ofArgument action = some .publish)
    {topic : Text} {qos : Option ℤ} {retain : Option Bool}
    (h : aclAllows value principalRole action topic qos retain = true) :
    ∃ role, PrincipalRole.ofArgument principalRole = some role
      ∧ plan.scope.allowsPublish role topic qos retain = true := by
  unfold aclAllows at h
  simp only [hplan, haction] at h
  cases hrole : PrincipalRole.ofArgument principalRole with
  | none =>
    rw [hrole] at h
    cases h
  | some role =>
    rw [hrole] at h
    exact ⟨role, rfl, h⟩

end

/-- Below a candidate's root only the bridge publishes. -/
theorem allowsPublish_root {scope : ProbeScope} {role : PrincipalRole} {topic : Text}
    {qos : Option ℤ} {retain : Option Bool}
    (h : scope.allowsPublish role topic qos retain = true)
    (hroot : (scope.candidateRoots.any fun root => isTopicSubtree topic root) = true) :
    role = .zigbee2mqtt := by
  unfold ProbeScope.allowsPublish at h
  split_ifs at h with hmalformed hother
  all_goals
    by_contra hrole
    exact hother ⟨hroot, hrole⟩

/-- On a bridge request only the orchestrator publishes, and only the probe's own. -/
theorem allowsPublish_request {scope : ProbeScope} {role : PrincipalRole} {topic : Text}
    {qos : Option ℤ} {retain : Option Bool}
    (h : scope.allowsPublish role topic qos retain = true)
    (hrequest : containsBridgeRequest topic = true) :
    role = .orchestrator ∧ topic ∈ scope.publishTopics ∧ qos = some 1 ∧ retain = some false := by
  unfold ProbeScope.allowsPublish at h
  rw [if_pos hrequest] at h
  split_ifs at h with hmalformed hother
  exact of_decide_eq_true h

/-- Apart from the bridge only the orchestrator publishes, and only the probe's own requests. -/
theorem allowsPublish_other {scope : ProbeScope} {role : PrincipalRole} {topic : Text}
    {qos : Option ℤ} {retain : Option Bool}
    (h : scope.allowsPublish role topic qos retain = true) (hrole : role ≠ .zigbee2mqtt) :
    role = .orchestrator ∧ topic ∈ scope.publishTopics ∧ qos = some 1 ∧ retain = some false := by
  by_cases hrequest : containsBridgeRequest topic = true
  · exact allowsPublish_request h hrequest
  · unfold ProbeScope.allowsPublish at h
    rw [if_neg hrequest] at h
    split_ifs at h with hmalformed hother
    exact absurd (of_decide_eq_true h) hrole

section

variable [Sha256]

/-- Under a plan that is built, whatever the extension takes for control drift or for a candidate
write is denied to every role but the bridge, control drift to the bridge as well; what another
role than the bridge may publish are the probe's own requests, by the orchestrator, with QoS 1 and
without retain, and the extension takes none of them for interference. -/
theorem acl_fences_interference {scope : Value} {plan : ProbeAclPlan}
    (hplan : buildAclPlan scope = .ok plan) (action : AclAction ⊕ Text)
    (haction : AclAction.ofArgument action = some .publish) (topic : Text) (qos : Option ℤ)
    (retain : Option Bool) :
    let found := classifyEnvelope (utf16 plan.scope.baseTopic)
      (some ⟨utf16 plan.scope.setTopic, utf16 plan.scope.candidateIeee⟩) (utf16 topic)
    (found.IsInterference → ∀ principalRole,
        PrincipalRole.ofArgument principalRole ≠ some .zigbee2mqtt →
          aclAllows scope principalRole action topic qos retain = false)
      ∧ (found = .controlDrift → ∀ principalRole,
          aclAllows scope principalRole action topic qos retain = false)
      ∧ (∀ principalRole, PrincipalRole.ofArgument principalRole ≠ some .zigbee2mqtt →
          aclAllows scope principalRole action topic qos retain = true →
            PrincipalRole.ofArgument principalRole = some .orchestrator
              ∧ topic ∈ plan.scope.publishTopics ∧ qos = some 1 ∧ retain = some false)
      ∧ (topic ∈ plan.scope.publishTopics → ¬ found.IsInterference) := by
  intro found
  have hset := requireScope_setTopic (buildAclPlan_scope hplan)
  -- a denial is shown by refuting what an allowed publication would be
  have hdrift : found = .controlDrift → ∀ principalRole,
      aclAllows scope principalRole action topic qos retain = false := by
    intro hfound principalRole
    by_contra hallowed
    rw [Bool.not_eq_false] at hallowed
    obtain ⟨role, -, hpublish⟩ := aclAllows_publish hplan haction hallowed
    obtain ⟨hrequest, hnotMem⟩ := of_controlDrift hfound
    exact hnotMem (allowsPublish_request hpublish hrequest).2.1
  refine ⟨fun hfound principalRole hrole => ?_, hdrift, fun principalRole hrole hallowed => ?_,
    not_interference_exact _⟩
  · cases hclass : found with
    | controlDrift => exact hdrift hclass principalRole
    | candidateWrite relative =>
      by_contra hallowed
      rw [Bool.not_eq_false] at hallowed
      obtain ⟨role, hargument, hpublish⟩ := aclAllows_publish hplan haction hallowed
      have hbridge := allowsPublish_root hpublish (of_candidateWrite hset hclass)
      exact hrole (by rw [hargument, hbridge])
    | _ =>
      rw [hclass] at hfound
      cases hfound
  · obtain ⟨role, hargument, hpublish⟩ := aclAllows_publish hplan haction hallowed
    have hother := allowsPublish_other hpublish fun hbridge => hrole (by rw [hargument, hbridge])
    exact ⟨by rw [hargument, hother.1], hother.2⟩

end

theorem permit_join_denied :
    ∃ plan, @buildAclPlan checksum sampleScope = .ok plan
      ∧ @aclAllows checksum sampleScope (.inl .zigbee2mqtt) (.inr (chars "publish"))
        (chars "zigbee2mqtt/bridge/request/permit_join") (some 0) (some false) = false := by
  have hbuilt : (@buildAclPlan checksum sampleScope).isOk = true := by decide +kernel
  cases hplan : @buildAclPlan checksum sampleScope with
  | error code =>
    rw [hplan] at hbuilt
    cases hbuilt
  | ok plan =>
    have hscope := @buildAclPlan_scope checksum _ _ hplan
    have hsample : requireScope sampleScope = .ok sampleProbeScope := by rfl
    rw [hsample, Except.ok.injEq] at hscope
    have hdrift := (@acl_fences_interference checksum _ _ hplan (.inr (chars "publish"))
      (by decide) (chars "zigbee2mqtt/bridge/request/permit_join") (some 0) (some false)).2.1
    rw [← hscope] at hdrift
    exact ⟨plan, rfl, hdrift (by decide +kernel) _⟩

end TrueFamily.Preflight
