import TrueFamily.Transaction.Operation

/-!
# Object operation records

`BridgeOperationRecord` projects one object operation: its intent, and as far as it went the
dispatch authorization, the durable receipt and the verification history. Records only grow:
`Transition` lists what the methods of a record can do, and a record can reach `blocked` from
every other state and keeps there what it held.
-/

namespace TrueFamily.Transaction

open Checked

variable [DigestJson]

/-- `BridgeOperationRecord`. -/
structure BridgeOperationRecord where
  intent : BridgeOperationIntent
  state : BridgeOperationState
  authorization : Option BridgeDispatchAuthorization := none
  receipt : Option BridgeOperationReceipt := none
  verifications : List BridgeOperationVerification := []
  reasonCode : Option BridgeBlockReason := none
  blockedFrom : Option BridgeOperationState := none
  deriving DecidableEq

namespace BridgeOperationRecord

/-- `verification`: the newest append-only verification evidence. -/
def verification (self : BridgeOperationRecord) : Option BridgeOperationVerification :=
  self.verifications.getLast?

/-- The authorization part of `_validate_object_record`. -/
def validateAuthorization (self : BridgeOperationRecord) : Except PyError Unit :=
  match self.authorization with
  | none => .ok ()
  | some authorization => do
    authorization.postInit
    authorization.validateFor self.intent

/-- The receipt part of `_validate_object_record`. -/
def validateReceipt (self : BridgeOperationRecord) : Except PyError Unit :=
  match self.receipt with
  | none => .ok ()
  | some receipt => do
    receipt.postInit
    validateObjectReceiptBinding receipt self.intent
    match self.authorization with
    | none => .error (.valueError "Object receipt requires dispatch authorization.")
    | some authorization => validateReceiptAuthorizationBinding receipt authorization

/-- The body of the verification loop of `_validate_object_record`, after `history`. -/
def validateVerification (self : BridgeOperationRecord)
    (history : List BridgeOperationVerification)
    (verification : BridgeOperationVerification) : Except PyError Unit :=
  match self.receipt with
  | none => .error (.valueError "Verification requires an object receipt.")
  | some receipt => do
    verification.postInit
    verification.validateFor self.intent receipt
    forAll (fun previous => check (verification.Newer previous)
      (.valueError "Verification history is not causally append-only.")) history.getLast?.toList

/-- The state part of `_validate_object_record`: which evidence each state holds. -/
def validateEvidence (self : BridgeOperationRecord) : Except PyError Unit :=
  match self.state with
  | .intentRecorded =>
    check (self.authorization = none ∧ self.receipt = none ∧ self.reasonCode = none
        ∧ self.blockedFrom = none ∧ self.verifications = [])
      (.valueError "Recorded object intent contains later evidence.")
  | .dispatchArmed =>
    check (self.authorization ≠ none ∧ self.receipt = none ∧ self.reasonCode = none
        ∧ self.blockedFrom = none ∧ self.verifications = [])
      (.valueError "Armed operation requires only its authorization.")
  | .acknowledged =>
    check (self.authorization ≠ none ∧ self.receipt ≠ none ∧ self.verifications = []
        ∧ self.reasonCode = none ∧ self.blockedFrom = none)
      (.valueError "Acknowledged operation requires only its receipt.")
  | .verified =>
    check (self.authorization ≠ none ∧ self.receipt ≠ none ∧ self.verifications ≠ []
        ∧ self.reasonCode = none ∧ self.blockedFrom = none)
      (.valueError "Verified operation requires receipt and verification.")
  | .blocked =>
    match self.reasonCode, self.blockedFrom with
    | none, _ | some _, none =>
      .error (.valueError "Blocked operation requires a fixed reason and source.")
    | some _, some .intentRecorded =>
      check (self.authorization = none ∧ self.receipt = none ∧ self.verifications = [])
        (.valueError "Undispatched block contains effect evidence.")
    | some _, some .dispatchArmed =>
      check (self.authorization ≠ none ∧ self.receipt = none ∧ self.verifications = [])
        (.valueError "Armed block lacks immutable authorization evidence.")
    | some _, some .acknowledged =>
      check (self.authorization ≠ none ∧ self.receipt ≠ none ∧ self.verifications = [])
        (.valueError "Acknowledged block lacks exact receipt state.")
    | some _, some .verified =>
      check (self.authorization ≠ none ∧ self.receipt ≠ none ∧ self.verifications ≠ [])
        (.valueError "Verified block lacks retained verification history.")
    | some _, some .blocked =>
      .error (.valueError "Blocked operation source is not valid.")

/-- `_validate_object_record`. -/
def postInit (self : BridgeOperationRecord) : Except PyError Unit := do
  self.intent.postInit
  self.validateAuthorization
  self.validateReceipt
  forEachAfter self.validateVerification self.verifications
  self.validateEvidence

/-- `recorded`, before `__post_init__`. -/
def recorded (intent : BridgeOperationIntent) : BridgeOperationRecord :=
  { intent, state := .intentRecorded }

/-- `_OBJECT_TRANSITIONS`. -/
def objectTransitions : BridgeOperationState → List BridgeOperationState
  | .intentRecorded => [.dispatchArmed, .blocked]
  | .dispatchArmed => [.acknowledged, .blocked]
  | .acknowledged => [.verified, .blocked]
  | .verified => [.blocked]
  | .blocked => []

/-- The value of a state in a message. -/
def stateValue : BridgeOperationState → String
  | .intentRecorded => "intent_recorded"
  | .dispatchArmed => "dispatch_armed"
  | .acknowledged => "acknowledged"
  | .verified => "verified"
  | .blocked => "blocked"

/-- The `replace` that a transition to `state` makes. -/
def moved (self : BridgeOperationRecord) (state : BridgeOperationState)
    (authorization : Option BridgeDispatchAuthorization)
    (receipt : Option BridgeOperationReceipt)
    (verification : Option BridgeOperationVerification)
    (reasonCode : Option BridgeBlockReason) : Except PyError BridgeOperationRecord :=
  match state with
  | .dispatchArmed =>
    if authorization = none ∨ receipt ≠ none ∨ verification ≠ none ∨ reasonCode ≠ none then
      .error (.transitionError "Arming requires exactly one dispatch authorization.")
    else .ok { self with state, authorization }
  | .acknowledged =>
    if authorization ≠ none ∨ receipt = none ∨ verification ≠ none ∨ reasonCode ≠ none then
      .error (.transitionError "Acknowledgement requires exactly one receipt.")
    else .ok { self with state, receipt }
  | .verified =>
    if authorization ≠ none ∨ receipt ≠ none ∨ verification = none ∨ reasonCode ≠ none then
      .error (.transitionError "Verification requires exactly one verification record.")
    else .ok { self with state, verifications := verification.toList }
  | .intentRecorded | .blocked =>
    if reasonCode = none ∨ authorization ≠ none ∨ receipt ≠ none ∨ verification ≠ none then
      .error (.transitionError "Blocking requires exactly one fixed reason code.")
    else .ok { self with state, reasonCode, blockedFrom := some self.state }

/-- `transition`. -/
def transition (self : BridgeOperationRecord) (state : BridgeOperationState)
    (authorization : Option BridgeDispatchAuthorization)
    (receipt : Option BridgeOperationReceipt)
    (verification : Option BridgeOperationVerification)
    (reasonCode : Option BridgeBlockReason) : Except PyError BridgeOperationRecord := do
  check (state ∈ objectTransitions self.state)
    (.transitionError ("Transition " ++ stateValue self.state ++ " -> " ++ stateValue state
      ++ " is not allowed."))
  let updated ← self.moved state authorization receipt verification reasonCode
  updated.postInit
  return updated

/-- `arm`. -/
def arm (self : BridgeOperationRecord) (authorization : BridgeDispatchAuthorization) :
    Except PyError BridgeOperationRecord :=
  self.transition .dispatchArmed (some authorization) none none none

/-- `acknowledge`. -/
def acknowledge (self : BridgeOperationRecord) (receipt : BridgeOperationReceipt) :
    Except PyError BridgeOperationRecord :=
  self.transition .acknowledged none (some receipt) none none

/-- `verify`. -/
def verify (self : BridgeOperationRecord) (verification : BridgeOperationVerification) :
    Except PyError BridgeOperationRecord :=
  self.transition .verified none none (some verification) none

/-- `refresh_verification`. -/
def refreshVerification (self : BridgeOperationRecord)
    (verification : BridgeOperationVerification) : Except PyError BridgeOperationRecord :=
  match self.state, self.verification with
  | .verified, some latest => do
    check (verification.Newer latest)
      (.transitionError "Refreshed verification must be causally newer.")
    let updated := { self with verifications := self.verifications ++ [verification] }
    updated.postInit
    return updated
  | _, _ => .error (.transitionError "Only a verified operation may append refreshed evidence.")

/-- `block`. -/
def block (self : BridgeOperationRecord) (reasonCode : BridgeBlockReason) :
    Except PyError BridgeOperationRecord :=
  self.transition .blocked none none none (some reasonCode)

/-! ## What a valid record holds -/

/-- Which evidence beside the intent a record holds, by its state. -/
def Evidence (record : BridgeOperationRecord) : Prop :=
  match record.state, record.blockedFrom with
  | .intentRecorded, none =>
    record.authorization = none ∧ record.receipt = none ∧ record.verifications = []
      ∧ record.reasonCode = none
  | .dispatchArmed, none =>
    record.authorization ≠ none ∧ record.receipt = none ∧ record.verifications = []
      ∧ record.reasonCode = none
  | .acknowledged, none =>
    record.authorization ≠ none ∧ record.receipt ≠ none ∧ record.verifications = []
      ∧ record.reasonCode = none
  | .verified, none =>
    record.authorization ≠ none ∧ record.receipt ≠ none ∧ record.verifications ≠ []
      ∧ record.reasonCode = none
  | .blocked, some .intentRecorded =>
    record.authorization = none ∧ record.receipt = none ∧ record.verifications = []
      ∧ record.reasonCode ≠ none
  | .blocked, some .dispatchArmed =>
    record.authorization ≠ none ∧ record.receipt = none ∧ record.verifications = []
      ∧ record.reasonCode ≠ none
  | .blocked, some .acknowledged =>
    record.authorization ≠ none ∧ record.receipt ≠ none ∧ record.verifications = []
      ∧ record.reasonCode ≠ none
  | .blocked, some .verified =>
    record.authorization ≠ none ∧ record.receipt ≠ none ∧ record.verifications ≠ []
      ∧ record.reasonCode ≠ none
  | _, _ => False

structure WellFormed (record : BridgeOperationRecord) : Prop where
  intent_wf : record.intent.WellFormed
  authorization_valid : ∀ authorization, record.authorization = some authorization →
    authorization.ValidFor record.intent
  receipt_valid : ∀ receipt, record.receipt = some receipt →
    receipt.ValidFor record.intent ∧ ∃ authorization,
      record.authorization = some authorization ∧ receiptMatchesAuthorization receipt authorization
  verification_valid : ∀ verification ∈ record.verifications, ∃ receipt,
    record.receipt = some receipt ∧ verification.ValidFor record.intent receipt
  verifications_newer : record.verifications.Pairwise fun previous v => v.Newer previous
  evidence : record.Evidence

theorem validateAuthorization_eq_ok {self : BridgeOperationRecord} :
    self.validateAuthorization = .ok () ↔ ∀ authorization,
      self.authorization = some authorization → authorization.ValidFor self.intent := by
  unfold validateAuthorization
  cases h : self.authorization with
  | none => simp
  | some authorization =>
    simp only [bind_unit_eq_ok, BridgeDispatchAuthorization.validateFor_eq_ok, Option.some.injEq,
      forall_eq']
    exact ⟨fun h => h.2, fun h => ⟨h.postInit, h⟩⟩

omit [DigestJson] in
theorem validateEvidence_eq_ok {self : BridgeOperationRecord} :
    self.validateEvidence = .ok () ↔ self.Evidence := by
  unfold validateEvidence Evidence
  cases self.state <;> cases hb : self.blockedFrom with
  | none => cases hr : self.reasonCode <;> simp [and_comm, and_left_comm]
  | some source => cases source <;> cases hr : self.reasonCode <;> simp [and_comm, and_left_comm]

theorem validateReceiptAuthorizationBinding_eq_ok {receipt : BridgeOperationReceipt}
    {authorization : BridgeDispatchAuthorization} {intent : BridgeOperationIntent}
    (h : authorization.ValidFor intent) :
    validateReceiptAuthorizationBinding receipt authorization = .ok () ↔
      receiptMatchesAuthorization receipt authorization := by
  simp only [validateReceiptAuthorizationBinding, bind_unit_eq_ok, check_eq_ok]
  exact ⟨fun h => h.2, fun hm => ⟨h.postInit, hm⟩⟩

theorem validateReceipt_eq_ok {self : BridgeOperationRecord}
    (ha : ∀ authorization, self.authorization = some authorization →
      authorization.ValidFor self.intent) :
    self.validateReceipt = .ok () ↔ ∀ receipt, self.receipt = some receipt →
      receipt.ValidFor self.intent ∧ ∃ authorization, self.authorization = some authorization
        ∧ receiptMatchesAuthorization receipt authorization := by
  unfold validateReceipt
  cases hr : self.receipt with
  | none => simp
  | some receipt =>
    cases hau : self.authorization with
    | none => simp
    | some authorization =>
      have hbind : validateReceiptAuthorizationBinding receipt authorization = .ok () ↔
          receiptMatchesAuthorization receipt authorization :=
        validateReceiptAuthorizationBinding_eq_ok (ha _ hau)
      simp only [bind_unit_eq_ok, validateObjectReceiptBinding_eq_ok, hbind, Option.some.injEq,
        forall_eq', exists_eq_left']
      exact ⟨fun h => h.2, fun h => ⟨BridgeOperationReceipt.postInit_eq_ok.2 h.1.receipt_wf, h⟩⟩

theorem validateVerification_eq_ok {self : BridgeOperationRecord}
    {history : List BridgeOperationVerification} {verification : BridgeOperationVerification} :
    self.validateVerification history verification = .ok () ↔
      (∃ receipt, self.receipt = some receipt ∧ verification.ValidFor self.intent receipt)
        ∧ ∀ previous, history.getLast? = some previous → verification.Newer previous := by
  unfold validateVerification
  cases self.receipt with
  | none => simp
  | some receipt =>
    simp only [bind_unit_eq_ok, BridgeOperationVerification.validateFor_eq_ok, forAll_eq_ok,
      Option.mem_toList, check_eq_ok, Option.some.injEq, exists_eq_left']
    exact ⟨fun h => h.2, fun h => ⟨check_eq_ok.2 h.1.observed_le_verified, h⟩⟩

@[simp] theorem postInit_eq_ok {self : BridgeOperationRecord} :
    self.postInit = .ok () ↔ self.WellFormed := by
  have hnewer := forallSplit_getLast_iff_pairwise (R := fun previous v => v.Newer previous)
    (fun _ _ _ h h' => h'.trans h) self.verifications
  simp only [postInit, bind_unit_eq_ok, BridgeOperationIntent.postInit_eq_ok, forEachAfter_eq_ok,
    validateAuthorization_eq_ok, validateVerification_eq_ok, validateEvidence_eq_ok,
    forallSplit_and, forallSplit_const, hnewer]
  constructor
  · rintro ⟨hi, ha, hr, ⟨hv, hn⟩, he⟩
    exact ⟨hi, ha, (validateReceipt_eq_ok ha).1 hr, hv, hn, he⟩
  · rintro ⟨hi, ha, hr, hv, hn, he⟩
    exact ⟨hi, ha, (validateReceipt_eq_ok ha).2 hr, ⟨hv, hn⟩, he⟩

/-! ## Transitions -/

/-- The steps that the five methods allow. -/
inductive Transition : BridgeOperationRecord → BridgeOperationRecord → Prop
  | arm {record : BridgeOperationRecord} (authorization : BridgeDispatchAuthorization) :
      record.state = .intentRecorded →
      Transition record
        { record with state := .dispatchArmed, authorization := some authorization }
  | acknowledge {record : BridgeOperationRecord} (receipt : BridgeOperationReceipt) :
      record.state = .dispatchArmed →
      Transition record { record with state := .acknowledged, receipt := some receipt }
  | verify {record : BridgeOperationRecord} (verification : BridgeOperationVerification) :
      record.state = .acknowledged →
      Transition record { record with state := .verified, verifications := [verification] }
  | refresh {record : BridgeOperationRecord} (verification : BridgeOperationVerification) :
      record.state = .verified →
      Transition record
        { record with verifications := record.verifications ++ [verification] }
  | block {record : BridgeOperationRecord} (reasonCode : BridgeBlockReason) :
      record.state ≠ .blocked →
      Transition record
        { record with
          state := .blocked, reasonCode := some reasonCode, blockedFrom := some record.state }

omit [DigestJson] in
private theorem mem_objectTransitions {state next : BridgeOperationState} :
    next ∈ objectTransitions state ↔
      (state = .intentRecorded ∧ next = .dispatchArmed)
        ∨ (state = .dispatchArmed ∧ next = .acknowledged)
        ∨ (state = .acknowledged ∧ next = .verified)
        ∨ (state ≠ .blocked ∧ next = .blocked) := by
  cases state <;> cases next <;> decide

theorem transition_eq_ok {self updated : BridgeOperationRecord} {state : BridgeOperationState}
    {authorization : Option BridgeDispatchAuthorization}
    {receipt : Option BridgeOperationReceipt}
    {verification : Option BridgeOperationVerification}
    {reasonCode : Option BridgeBlockReason} :
    self.transition state authorization receipt verification reasonCode = .ok updated ↔
      state ∈ objectTransitions self.state
        ∧ self.moved state authorization receipt verification reasonCode = .ok updated
        ∧ updated.WellFormed := by
  simp only [transition, bind_eq_ok, exists_unit, check_eq_ok, postInit_eq_ok, pure_eq_ok]
  constructor
  · rintro ⟨hs, moved, hm, hwf, heq⟩
    subst heq
    exact ⟨hs, hm, hwf⟩
  · rintro ⟨hs, hm, hwf⟩
    exact ⟨hs, updated, hm, hwf, rfl⟩

omit [DigestJson] in
private theorem ok_and_iff {P : BridgeOperationRecord → Prop} {a b : BridgeOperationRecord} :
    (Except.ok a : Except PyError BridgeOperationRecord) = .ok b ∧ P b ↔ P a ∧ b = a := by
  constructor
  · intro ⟨h, hp⟩
    cases h
    exact ⟨hp, rfl⟩
  · intro ⟨hp, h⟩
    subst h
    exact ⟨rfl, hp⟩

theorem arm_eq_ok {self updated : BridgeOperationRecord}
    {authorization : BridgeDispatchAuthorization} :
    self.arm authorization = .ok updated ↔ self.state = .intentRecorded
      ∧ ({ self with state := .dispatchArmed, authorization := some authorization } :
          BridgeOperationRecord).WellFormed
      ∧ updated = { self with state := .dispatchArmed, authorization := some authorization } := by
  rw [arm, transition_eq_ok]
  simp only [moved, mem_objectTransitions, reduceCtorEq, or_self, if_false, ne_eq,
    not_true_eq_false, ok_and_iff]
  simp

theorem acknowledge_eq_ok {self updated : BridgeOperationRecord}
    {receipt : BridgeOperationReceipt} :
    self.acknowledge receipt = .ok updated ↔ self.state = .dispatchArmed
      ∧ ({ self with state := .acknowledged, receipt := some receipt } :
          BridgeOperationRecord).WellFormed
      ∧ updated = { self with state := .acknowledged, receipt := some receipt } := by
  rw [acknowledge, transition_eq_ok]
  simp only [moved, mem_objectTransitions, reduceCtorEq, or_self, if_false, ne_eq,
    not_true_eq_false, ok_and_iff]
  simp

theorem verify_eq_ok {self updated : BridgeOperationRecord}
    {verification : BridgeOperationVerification} :
    self.verify verification = .ok updated ↔ self.state = .acknowledged
      ∧ ({ self with state := .verified, verifications := [verification] } :
          BridgeOperationRecord).WellFormed
      ∧ updated = { self with state := .verified, verifications := [verification] } := by
  rw [verify, transition_eq_ok]
  simp only [moved, mem_objectTransitions, reduceCtorEq, or_self, if_false, ne_eq,
    not_true_eq_false, ok_and_iff]
  simp

theorem block_eq_ok {self updated : BridgeOperationRecord} {reasonCode : BridgeBlockReason} :
    self.block reasonCode = .ok updated ↔ self.state ≠ .blocked
      ∧ ({ self with
            state := .blocked, reasonCode := some reasonCode, blockedFrom := some self.state } :
          BridgeOperationRecord).WellFormed
      ∧ updated = { self with
          state := .blocked, reasonCode := some reasonCode, blockedFrom := some self.state } := by
  rw [block, transition_eq_ok]
  simp only [moved, mem_objectTransitions, reduceCtorEq, or_self, if_false, ne_eq,
    not_true_eq_false, ok_and_iff]
  simp

theorem refreshVerification_eq_ok {self updated : BridgeOperationRecord}
    {verification : BridgeOperationVerification} :
    self.refreshVerification verification = .ok updated ↔ self.state = .verified
      ∧ (∃ latest, self.verification = some latest ∧ verification.Newer latest)
      ∧ ({ self with verifications := self.verifications ++ [verification] } :
          BridgeOperationRecord).WellFormed
      ∧ updated = { self with verifications := self.verifications ++ [verification] } := by
  unfold refreshVerification
  split
  · rename_i latest hs hv
    simp only [bind_eq_ok, exists_unit, check_eq_ok, postInit_eq_ok, pure_eq_ok, hs, hv,
      true_and, Option.some.injEq, exists_eq_left']
  · rename_i hno
    simp only [reduceCtorEq, false_iff]
    rintro ⟨hs, ⟨latest, hv, _⟩, _⟩
    exact hno latest hs hv

end BridgeOperationRecord

end TrueFamily.Transaction
