import TrueFamily.Preflight.Canonical

/-!
# The ACL plan

`build_acl_plan` and `acl_allows`: the one broker policy that a deployment may have, and the
evaluation of a publication or a subscription against a scope.
-/

namespace TrueFamily.Preflight

open Checked JsonValue

/-! ## Topics of the protocol -/

def readyTopic : Text := chars "bridge/true_family/physical_probe/ready"
def statusTopic : Text := chars "bridge/true_family/physical_probe/status"
def requestTopic : Text := chars "bridge/request/true_family/physical_probe"
def responseTopic : Text := chars "bridge/response/true_family/physical_probe"
def resultTopic : Text := chars "bridge/true_family/physical_probe/result"
def ackTopic : Text := chars "bridge/request/true_family/physical_probe/ack"
def ackResponseTopic : Text := chars "bridge/response/true_family/physical_probe/ack"

def aclPlanSchema : Text := chars "true-family-physical-probe-acl-plan-v2"

inductive AclAction
  | publish
  | subscribe
  deriving DecidableEq, Repr

inductive PrincipalRole
  | orchestrator
  | zigbee2mqtt
  | adminRecovery
  | other
  | anonymous
  deriving DecidableEq, Repr

/-- `_PRINCIPAL_ROLES_BY_VALUE.get`. -/
def PrincipalRole.byValue (value : Text) : Option PrincipalRole :=
  [("orchestrator", .orchestrator), ("zigbee2mqtt", .zigbee2mqtt),
    ("admin_recovery", .adminRecovery), ("other", PrincipalRole.other),
    ("anonymous", .anonymous)].findSome? fun role =>
      if value = chars role.1 then some role.2 else none

/-- `_ACL_ACTIONS_BY_VALUE.get`. -/
def AclAction.byValue (value : Text) : Option AclAction :=
  [("publish", AclAction.publish), ("subscribe", .subscribe)].findSome? fun action =>
    if value = chars action.1 then some action.2 else none

/-- A role as a caller passes it: a member of the enumeration or a text. -/
def PrincipalRole.ofArgument : PrincipalRole ⊕ Text → Option PrincipalRole
  | .inl role => some role
  | .inr value => byValue value

def AclAction.ofArgument : AclAction ⊕ Text → Option AclAction
  | .inl action => some action
  | .inr value => byValue value

/-! ## The plan -/

/-- `_ProbeScope`. -/
structure ProbeScope where
  baseTopic : Text
  friendlyName : Text
  candidateIeee : Text
  setTopic : Text
  deriving DecidableEq

/-- `ProbeAclPlan`; freezing the policy changes none of its values. -/
structure ProbeAclPlan where
  schema : Text
  scopeDigest : Text
  policyDigest : Text
  effectivePolicy : Value
  scope : ProbeScope

/-- A dictionary display. -/
def dict (fields : List (String × Value)) : Value :=
  .obj (fields.map fun entry => (chars entry.1, entry.2))

/-- A text literal. -/
def str (text : String) : Value := .str (chars text)

def aclScopeFields : List String := ["base_topic", "friendly_name", "candidate_ieee", "set_topic"]

/-- The checks of a scope with which `build_acl_plan` starts. -/
def requireScope (scope : Value) : Checks ProbeScope := do
  let code := PreflightErrorCode.aclRejected
  validateJsonTree scope code
  let data ← requireMapping scope aclScopeFields code
  let baseTopic ← requireBaseTopic (field data "base_topic") code
  let friendlyName ← requireFriendlyName (field data "friendly_name") code
  let candidateIeee ← requirePattern ieeePattern (field data "candidate_ieee") code
  check (firstSegment friendlyName ≠ candidateIeee) code
  let setTopic ← requireSetTopic (field data "set_topic") friendlyName code
  check (containsBridgeRequest baseTopic = false) code
  return ⟨baseTopic, friendlyName, candidateIeee, setTopic⟩

namespace ProbeScope

variable (scope : ProbeScope)

def publishTopics : List Text :=
  [prefixed scope.baseTopic requestTopic, prefixed scope.baseTopic ackTopic]

def subscribeTopics : List Text :=
  [readyTopic, statusTopic, resultTopic, responseTopic, ackResponseTopic].map
    (prefixed scope.baseTopic)

def candidateRoots : List Text :=
  [prefixed scope.baseTopic scope.friendlyName, prefixed scope.baseTopic scope.candidateIeee]

def candidateSetTopic : Text := prefixed scope.baseTopic scope.setTopic

/-- `f"{base_topic}/#"`. -/
def wildcardFilter : Text := scope.baseTopic ++ chars "/#"

/-- The principals of the policy. -/
def principals : Value :=
  let denied : Value := dict [("publish_default", str "deny"), ("subscribe_default", str "deny")]
  dict
    [("orchestrator", dict
      [("publish_default", str "deny"),
        ("publish_allow", .arr (scope.publishTopics.map fun topic =>
          dict [("topic", .str topic), ("qos", .int 1), ("retain", .bool false)])),
        ("subscribe_default", str "deny"),
        ("subscribe_allow", .arr (scope.subscribeTopics.map .str))]),
      ("zigbee2mqtt", dict
        [("publish_default", str "allow"), ("subscribe_default", str "allow"),
          ("subscribe_filters", .arr [.str scope.wildcardFilter]),
          ("bridge_request_publish", str "deny")]),
      ("admin_recovery", denied), ("other", denied), ("anonymous", denied)]

/-- `policy`. -/
def policy : Value :=
  dict
    [("schema", .str aclPlanSchema),
      ("topic_contract", dict
        [("maximum_codepoints", .int 256),
          ("mqtt_utf8_exclusions", .arr
            [str "null-and-c0-controls", str "c1-controls", str "utf16-surrogates",
              str "noncharacters-fdd0-fdef", str "plane-end-noncharacters"]),
          ("boundaries", dict
            [("leading_slash", .bool false), ("trailing_slash", .bool false),
              ("leading_or_trailing_whitespace", .bool false)]),
          ("concrete_topic_wildcards", .bool false), ("internal_empty_segments", .bool true),
          ("shared_subscriptions", .bool false),
          ("zigbee2mqtt_exact_base_wildcard_subscription", .str scope.wildcardFilter),
          ("adjacent_bridge_request_publish", .bool false)]),
      ("enforcement", dict
        [("anonymous_access", str "disabled"), ("superuser_bypass", str "disabled"),
          ("dedicated_listener", .bool true), ("effective_readback_complete", .bool true)]),
      ("scope", dict
        [("base_topic", .str scope.baseTopic),
          ("candidate_publish_roots", .arr (scope.candidateRoots.map .str)),
          ("candidate_set_topic", .str scope.candidateSetTopic)]),
      ("principals", scope.principals),
      ("global_denies", dict
        [("unknown_principals", .bool true),
          ("non_zigbee2mqtt_candidate_publish_subtrees", .bool true),
          ("bridge_request_publish_slash_containment", .bool true),
          ("bridge_request_publish_exceptions", .arr (scope.publishTopics.map .str))])]

/-- `scope_projection`. -/
def projection : Value :=
  dict
    [("base_topic", .str scope.baseTopic), ("friendly_name", .str scope.friendlyName),
      ("candidate_ieee", .str scope.candidateIeee), ("set_topic", .str scope.setTopic)]

end ProbeScope

def scopeDigestDomain : String := "true-family-physical-probe/scope/v1"
def aclDigestDomain : String := "true-family-physical-probe/acl/v2"

section

variable [Sha256]

/-- `ProbeAclPlan.__post_init__`. -/
def ProbeAclPlan.validate (plan : ProbeAclPlan) : Checks Unit := do
  check (plan.schema = aclPlanSchema) .aclRejected
  let _ ← requireDigest (.str plan.scopeDigest) .aclRejected
  let _ ← requireDigest (.str plan.policyDigest) .aclRejected

def buildAclPlan (scope : Value) : Checks ProbeAclPlan := do
  let code := PreflightErrorCode.aclRejected
  let privateScope ← requireScope scope
  check ((privateScope.publishTopics ++ privateScope.subscribeTopics
    ++ privateScope.candidateRoots
    ++ [privateScope.candidateSetTopic]).all topicIsValid = true) code
  check ((privateScope.candidateRoots ++ [privateScope.candidateSetTopic]).all
    (fun topic => !containsBridgeRequest topic) = true) code
  let scopeDigest ← digest privateScope.projection scopeDigestDomain code
  let policyDigest ← digest privateScope.policy aclDigestDomain code
  let plan : ProbeAclPlan :=
    { schema := aclPlanSchema
      scopeDigest := scopeDigest
      policyDigest := policyDigest
      effectivePolicy := privateScope.policy
      scope := privateScope }
  plan.validate
  return plan

/-! ## Evaluation -/

/-- The branch of `acl_allows` for a subscription. -/
def ProbeScope.allowsSubscribe (scope : ProbeScope) (role : PrincipalRole) (topic : Text) : Bool :=
  if (chars "$share/").isPrefixOf topic then false
  else if role = .zigbee2mqtt then
    if topic = scope.wildcardFilter then true
    else if hasWildcard topic then false
    else topicIsValid topic
  else if hasWildcard topic || !topicIsValid topic then false
  else if role = .orchestrator then decide (topic ∈ scope.subscribeTopics)
  else false

/-- The branch of `acl_allows` for a publication. -/
def ProbeScope.allowsPublish (scope : ProbeScope) (role : PrincipalRole) (topic : Text)
    (qos : Option ℤ) (retain : Option Bool) : Bool :=
  if topicIsValid topic = false ∨ ¬ (∃ level ∈ qos, 0 ≤ level ∧ level ≤ 2) ∨ retain = none then
    false
  else if (scope.candidateRoots.any fun root => isTopicSubtree topic root) = true
      ∧ role ≠ .zigbee2mqtt then
    false
  else if containsBridgeRequest topic then
    decide (role = .orchestrator ∧ topic ∈ scope.publishTopics ∧ qos = some 1
      ∧ retain = some false)
  else decide (role = .zigbee2mqtt)

/-- A text with a lone surrogate is no topic here; `acl_allows` denies it to everybody but for the
subscription filter of the bridge, which has none. -/
def aclAllows (scope : Value) (principalRole : PrincipalRole ⊕ Text) (action : AclAction ⊕ Text)
    (topic : Text) (qos : Option ℤ) (retain : Option Bool) : Bool :=
  match buildAclPlan scope with
  | .error _ => false
  | .ok plan =>
    match PrincipalRole.ofArgument principalRole, AclAction.ofArgument action with
    | some role, some .subscribe => plan.scope.allowsSubscribe role topic
    | some role, some .publish => plan.scope.allowsPublish role topic qos retain
    | _, _ => false

end

/-! ## A scope -/

def sampleScope : Value :=
  dict
    [("base_topic", str "zigbee2mqtt"), ("friendly_name", str "kitchen"),
      ("candidate_ieee", str "0x00158d0001a2b3c4"), ("set_topic", str "kitchen/set")]

def sampleProbeScope : ProbeScope where
  baseTopic := chars "zigbee2mqtt"
  friendlyName := chars "kitchen"
  candidateIeee := chars "0x00158d0001a2b3c4"
  setTopic := chars "kitchen/set"

end TrueFamily.Preflight
