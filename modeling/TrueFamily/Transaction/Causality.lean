import TrueFamily.Transaction.AttemptCheck

/-!
# Causal order of effects

In a valid attempt the times of an applied operation form one chain: the acquisition of its
fence, the observation and authorization of its dispatch, the effect, its receipt, a
verification, and the release of the fence. Every link compares two copies of a time that
different records keep; the first lemmas identify the copies.
-/

namespace TrueFamily.Transaction

open Checked

section

variable [DigestJson]

/-- The times of one applied effect, from the acquisition of its fence to the first release. -/
structure EffectTimeline (acquired : FenceAcquisitionReceipt)
    (authorization : BridgeDispatchAuthorization) (effectAt : Datetime)
    (receipt : BridgeOperationReceipt) (verification : BridgeOperationVerification)
    (firstRelease : FenceReleaseIntent) : Prop where
  acquired_le_durable : acquired.acquiredAt ≤ acquired.durableAt
  durable_le_observed : acquired.durableAt ≤ authorization.observedAt
  observed_le_authorized : authorization.observedAt ≤ authorization.authorizedAt
  authorized_le_effect : authorization.authorizedAt ≤ effectAt
  effect_le_acknowledged : effectAt ≤ receipt.acknowledgedAt
  acknowledged_lt_expires : receipt.acknowledgedAt < acquired.expiresAt
  acknowledged_le_durable : receipt.acknowledgedAt ≤ receipt.durableAt
  durable_le_verification : receipt.durableAt ≤ verification.observedAt
  observed_le_verified : verification.observedAt ≤ verification.verifiedAt
  verified_le_release : verification.verifiedAt ≤ firstRelease.requestedAt

/-! ## Copies of one time -/

theorem Fenced.valid {attempt : BridgeOperationAttempt} (h : attempt.WellFormed)
    {fence : FenceBinding} {acquisition : FenceAcquisitionRecord}
    {acquired : FenceAcquisitionReceipt} (hf : Fenced attempt fence acquisition acquired) :
    acquired.ValidFor acquisition.intent := by
  have hack := LifecycleRecord.acknowledged?_eq_some.1 hf.acknowledged
  exact AcquisitionRecord.applied_valid (h.acquisitions.record_wf _ hf.mem) hack.2

/-- The effect of an applied receipt lies between its authorization and its acknowledgement. -/
theorem BridgeOperationReceipt.ValidFor.effect {receipt : BridgeOperationReceipt}
    {intent : BridgeOperationIntent} (h : receipt.ValidFor intent)
    (ho : receipt.outcome = .applied) :
    ∃ effectAt, receipt.effectAt = some effectAt ∧ receipt.authorizedAt ≤ effectAt
      ∧ effectAt ≤ receipt.acknowledgedAt ∧ receipt.acknowledgedAt < intent.fence.expiresAt := by
  have hlease := h.applied ho
  unfold effectInLease at hlease
  split at hlease
  · exact hlease.elim
  · rename_i effectAt heffect
    exact ⟨effectAt, heffect, hlease.2.1, hlease.2.2.1, hlease.2.2.2⟩

omit [DigestJson] in
theorem receiptMatchesAuthorization.authorizedAt_eq {receipt : BridgeOperationReceipt}
    {authorization : BridgeDispatchAuthorization}
    (h : receiptMatchesAuthorization receipt authorization) :
    receipt.authorizedAt = authorization.authorizedAt :=
  h.2.2.2.2.2.2.2.2.2.2.1

/-! ## Release chains -/

/-- A tombstone is durable no earlier than its release was requested. -/
theorem requestedAt_le_tombstone {record : FenceReleaseRecord} (h : record.WellFormed)
    {tombstone : FenceReleaseNoEffectReceipt} (ht : record.tombstone? = some tombstone) :
    record.intent.requestedAt ≤ tombstone.durableAt := by
  have hvalid := ReleaseRecord.noEffect_valid h (LifecycleRecord.tombstone?_eq_some.1 ht).2
  exact le_trans hvalid.requested_le_acknowledged hvalid.receipt_wf.acknowledged_le_durable

/-- The releases of one fence are requested in the order of their chain. -/
theorem releaseChain_requestedAt {attempt : BridgeOperationAttempt} (h : attempt.WellFormed)
    (acquisitionId : AcquireOperationId) :
    (releaseChain attempt acquisitionId).Pairwise fun a b =>
      a.intent.requestedAt ≤ b.intent.requestedAt := by
  have htrans : ∀ a b c : FenceReleaseRecord, a.intent.requestedAt ≤ b.intent.requestedAt →
      b.intent.requestedAt ≤ c.intent.requestedAt → a.intent.requestedAt ≤ c.intent.requestedAt :=
    fun _ _ _ hab hbc => le_trans hab hbc
  rw [← forallSplit_getLast_iff_pairwise htrans]
  refine (h.releases.retries acquisitionId).imp fun before release after hsplit hretry => ?_
  intro previous hlast
  have hmem : previous ∈ releaseChain attempt acquisitionId := by
    rw [hsplit]
    exact List.mem_append_left _ (List.mem_of_getLast? hlast)
  have hwf := h.releases.record_wf previous (mem_releaseChain.1 hmem).1
  have hretries := hretry previous hlast
  obtain ⟨tombstone, ht, hle⟩ := any_decide_iff.1 hretries.1
  exact le_trans (requestedAt_le_tombstone hwf ht) hle

theorem first_requestedAt_le {attempt : BridgeOperationAttempt} (h : attempt.WellFormed)
    {acquisitionId : AcquireOperationId} {first release : FenceReleaseRecord}
    (hfirst : (releaseChain attempt acquisitionId).head? = some first)
    (hmem : release ∈ releaseChain attempt acquisitionId) :
    first.intent.requestedAt ≤ release.intent.requestedAt := by
  have hpair := releaseChain_requestedAt h acquisitionId
  obtain ⟨rest, hchain⟩ := List.head?_eq_some_iff.1 hfirst
  rw [hchain] at hpair hmem
  rcases List.mem_cons.1 hmem with heq | hrest
  · rw [heq]
  · exact (List.pairwise_cons.1 hpair).1 release hrest

/-! ## The timeline -/

omit [DigestJson] in
/-- An operation with a receipt is not proven undispatched. -/
theorem not_provenUndispatched_of_receipt {record : BridgeOperationRecord}
    {receipt : BridgeOperationReceipt} (hr : record.receipt = some receipt) :
    ¬ provenUndispatched record := by
  intro h
  have hnone := h.2.2.2.1
  rw [hr] at hnone
  cases hnone

/-- Causal order of every applied effect whose fence has a release record: acquisition,
authorization, effect, acknowledgement inside the lease, durability, a verification, and the
first release, in this order; an acknowledged release of the fence comes after the effect; and
no authorization of the attempt is older than its freshness bound. -/
theorem applied_effect_causal_order {attempt : BridgeOperationAttempt}
    (hvalid : validateAttempt attempt = .ok ()) :
    (∀ record ∈ attempt.operations, ∀ receipt, record.receipt = some receipt →
      receipt.outcome = .applied → ∀ first,
      (releaseChain attempt record.intent.fence.acquisitionOperationId).head? = some first →
      ∃ acquisition acquired authorization effectAt verification,
        Fenced attempt record.intent.fence acquisition acquired
          ∧ record.authorization = some authorization
          ∧ receipt.effectAt = some effectAt
          ∧ verification ∈ record.verifications
          ∧ EffectTimeline acquired authorization effectAt receipt verification first.intent
          ∧ ∀ release ∈ releaseChain attempt record.intent.fence.acquisitionOperationId,
            ∀ released, release.acknowledged? = some released → effectAt ≤ released.releasedAt)
    ∧ ∀ record ∈ attempt.operations, ∀ authorization, record.authorization = some authorization →
      authorization.authorizedAt.val - authorization.observedAt.val
        ≤ attempt.maxObservationAgeSeconds * 1000000 := by
  have h := validateAttempt_eq_ok.1 hvalid
  refine ⟨fun record hmem receipt hr ho first hfirst => ?_, fun record hmem authorization ha => ?_⟩
  · obtain ⟨acquisition, acquired, hfenced⟩ := h.operations.fenced record hmem
    have hwf := h.operations.record_wf record hmem
    have hacquired := hfenced.valid h
    obtain ⟨hrvalid, authorization, ha, hmatch⟩ := hwf.receipt_valid receipt hr
    have havalid := hwf.authorization_valid authorization ha
    obtain ⟨effectAt, heffect, hauth_le, heffect_le, hack_lt⟩ := hrvalid.effect ho
    -- The release chain of the fence is not empty, so its operations were settled before it.
    have hsettled := h.releases.settled _ first hfirst record hmem rfl
    obtain ⟨verification, hv, hverified⟩ :=
      hsettled.2.resolve_left (not_provenUndispatched_of_receipt hr)
    obtain ⟨receipt', hr', hvvalid⟩ := hwf.verification_valid verification hv
    have heq : receipt' = receipt := Option.some.inj (hr'.symm.trans hr)
    subst heq
    have hbinding := hfenced.binding_eq
    have hdurable : acquired.durableAt ≤ authorization.observedAt := by
      have hle := havalid.durable_le_observed
      rw [← hbinding] at hle
      exact hle
    have hexpires : receipt'.acknowledgedAt < acquired.expiresAt := by
      rw [← hbinding] at hack_lt
      exact hack_lt
    refine ⟨acquisition, acquired, authorization, effectAt, verification, hfenced, ha, heffect, hv,
      ?_, fun release hrelease released hreleased => ?_⟩
    · exact {
        acquired_le_durable := le_trans hacquired.receipt_wf.acquired_le_acknowledged
          hacquired.receipt_wf.acknowledged_le_durable
        durable_le_observed := hdurable
        observed_le_authorized := havalid.observed_le_authorized
        authorized_le_effect := hmatch.authorizedAt_eq ▸ hauth_le
        effect_le_acknowledged := heffect_le
        acknowledged_lt_expires := hexpires
        acknowledged_le_durable := hrvalid.receipt_wf.acknowledged_le_durable
        durable_le_verification :=
          BridgeOperationVerification.durable_le_observed hvvalid.matches_receipt
        observed_le_verified := hvvalid.observed_le_verified
        verified_le_release := hverified }
    · have hrwf := h.releases.record_wf release (mem_releaseChain.1 hrelease).1
      have hack := LifecycleRecord.acknowledged?_eq_some.1 hreleased
      have hrel := ReleaseRecord.applied_valid hrwf hack.2
      calc effectAt ≤ receipt'.acknowledgedAt := heffect_le
        _ ≤ receipt'.durableAt := hrvalid.receipt_wf.acknowledged_le_durable
        _ ≤ verification.observedAt :=
          BridgeOperationVerification.durable_le_observed hvvalid.matches_receipt
        _ ≤ verification.verifiedAt := hvvalid.observed_le_verified
        _ ≤ first.intent.requestedAt := hverified
        _ ≤ release.intent.requestedAt := first_requestedAt_le h hfirst hrelease
        _ ≤ released.releasedAt := hrel.requested_le_released
  · have hfresh := h.operations.fresh record hmem authorization ha
    exact hfresh.2

end

/-! ## A sample attempt

One write of a scheduler entry, from the acquisition to the release of its fence. The digests are
those of the canonical JSON of its records. -/

namespace Sample

/-- Seconds after 2026-01-01T00:00:00Z. -/
def second (n : ℕ) : Datetime := Fin.ofNat (datetimeMax + 1) (63902822400000000 + n * 1000000)

def planDigest (byte : ℕ) : Digest :=
  ⟨BitVec.ofNat 256
    (byte * 0x0101010101010101010101010101010101010101010101010101010101010101)⟩

def writer : CanonicalText := ⟨"home-assistant", by decide⟩

def objectKey : CanonicalText := ⟨"schedule.evening", by decide⟩

def token : FenceTokenDigest := ⟨(planDigest 0x70).bits⟩

/-- The acquisition of an attempt's fence, requested at `start`. -/
def acquisitionFields (planId : PlanId) (plan : Digest) (epoch start : ℕ) :
    AcquisitionIntentFields where
  planId := planId
  planDigest := plan
  manifestDigest := planDigest 0xea
  attempt := 1
  provider := .scheduler
  writerId := writer
  expectedInventoryRevision := .integer 7
  scopeDigest := planDigest 0x5c
  epoch := epoch
  requestedAt := second start
  expiresAt := second (start + 600)

def acquisitionIntent (planId : PlanId) (plan : Digest) (epoch start : ℕ) (digest : Digest) :
    FenceAcquisitionIntent :=
  { acquisitionFields planId plan epoch start with
    operationId := ⟨digest.prefix24⟩
    intentDigest := digest }

def acquisitionReceiptFields (intent : FenceAcquisitionIntent) (start : ℕ) :
    AcquisitionReceiptFields where
  operationId := intent.operationId
  intentDigest := intent.intentDigest
  provider := .scheduler
  writerId := writer
  expectedInventoryRevision := .integer 7
  acquiredInventoryRevision := .integer 7
  fenceRevision := .integer intent.epoch
  scopeDigest := planDigest 0x5c
  epoch := intent.epoch
  tokenDigest := token
  acquiredAt := second (start + 1)
  expiresAt := second (start + 600)
  acknowledgedAt := second (start + 2)
  durableAt := second (start + 3)

def acquisitionReceipt (intent : FenceAcquisitionIntent) (start : ℕ) (identity digest : Digest) :
    FenceAcquisitionReceipt :=
  { acquisitionReceiptFields intent start with
    receiptId := ⟨identity.prefix24⟩
    receiptDigest := digest }

/-- An acquisition with its acknowledgement. -/
def acquired (intent : FenceAcquisitionIntent) (receipt : FenceAcquisitionReceipt) :
    FenceAcquisitionRecord where
  intent := intent
  state := .acknowledged
  receipt := some (.applied receipt)

/-! ### The first plan -/

def firstPlan : Digest := planDigest 0x11

def firstPlanDigest : Digest :=
  ⟨0x5fb9797871bbec046be932df0ffbac0d2f8d5fadcf73a992ec9ee61788b8b1b2⟩

def firstPlanId : PlanId := ⟨firstPlanDigest.prefix24⟩

def firstIntent : FenceAcquisitionIntent := acquisitionIntent firstPlanId firstPlan 1 0
  ⟨0xc94fb3b6124c6fd70aa029df336897806f58054b20137643cdefbc79a7a86f77⟩

def firstIdentity : Digest :=
  ⟨0xb85452209015d17c9f29202be9a413e8459d123b36467769bb46283448f33e09⟩

def firstReceipt : FenceAcquisitionReceipt := acquisitionReceipt firstIntent 0 firstIdentity
  ⟨0xf5c8c9e2f9f3280d2a49fdfaaf91140a285c018be544d9f0e1553252903fd8f3⟩

/-! ### The second plan -/

def secondPlan : Digest := planDigest 0x22

def secondPlanDigest : Digest :=
  ⟨0x2392e63799dd572860bd44b8ae65d71057bdb28eeda4dca06dd2de9384eb016c⟩

def secondPlanId : PlanId := ⟨secondPlanDigest.prefix24⟩

def secondIntent : FenceAcquisitionIntent := acquisitionIntent secondPlanId secondPlan 2 100
  ⟨0x96cebca569b1a3478eb9afbf15cc6b0d66583385511dc87fbf6239c6dbdbe263⟩

def secondIdentity : Digest :=
  ⟨0xa51c9bb3227031b8179fa1b76800bcaede9e08fac4b7365aba6803f10101a8bc⟩

def secondReceipt : FenceAcquisitionReceipt :=
  acquisitionReceipt secondIntent 100 secondIdentity
    ⟨0x69e2ebb0610ae058af5eb8cc62d2a3abd2e9450ecc973b5adcc0875ef3362bef⟩

/-! ### The write of the first plan -/

def objectFields : ObjectIntentFields where
  planId := firstPlanId
  planDigest := firstPlan
  manifestDigest := planDigest 0xea
  attempt := 1
  sequence := 1
  kind := .write
  provider := .scheduler
  objectKey := objectKey
  expectedRevision := .integer 7
  preFingerprint := planDigest 0xa0
  postFingerprint := planDigest 0xb1
  fence := firstReceipt.binding
  parentOperationId := none

def objectIntent : BridgeOperationIntent :=
  { objectFields with
    operationId := ⟨(BitVec.ofNat 256
      0xaf6d90ddc0fc82a5649ec2d655717b6f653ebbc4f364bddcb43c29baa768fcc5).extractLsb' 160 96⟩
    intentDigest := ⟨0xaf6d90ddc0fc82a5649ec2d655717b6f653ebbc4f364bddcb43c29baa768fcc5⟩ }

def authorization : BridgeDispatchAuthorization where
  operationId := objectIntent.operationId
  intentDigest := objectIntent.intentDigest
  provider := .scheduler
  objectKey := objectKey
  fenceAcquisitionOperationId := firstReceipt.operationId
  fenceAcquisitionReceiptId := firstReceipt.receiptId
  fenceAcquisitionReceiptDigest := firstReceipt.receiptDigest
  revision := .integer 7
  fingerprint := planDigest 0xa0
  observedAt := second 4
  authorizedAt := second 5
  authorizationDigest := ⟨0x0a0f3b640033bbaa28bccb09a0e73d7682226bab11cfec1727908b4d76346edf⟩

def objectReceiptFields : ObjectReceiptFields where
  operationId := objectIntent.operationId
  intentDigest := objectIntent.intentDigest
  kind := .write
  provider := .scheduler
  objectKey := objectKey
  fenceTokenDigest := token
  fenceEpoch := 1
  fenceScopeDigest := planDigest 0x5c
  fenceWriterId := writer
  fenceAcquisitionOperationId := firstReceipt.operationId
  fenceAcquisitionReceiptId := firstReceipt.receiptId
  fenceAcquisitionReceiptDigest := firstReceipt.receiptDigest
  authorizationDigest := authorization.authorizationDigest
  authorizationObservedAt := second 4
  authorizedAt := second 5
  previousRevision := .integer 7
  resultRevision := .integer 8
  preFingerprint := planDigest 0xa0
  postFingerprint := planDigest 0xb1
  outcome := .applied
  evidence := .dispatchAck
  effectAt := some (second 6)
  acknowledgedAt := second 7
  durableAt := second 8
  durable := true

def objectIdentity : Digest :=
  ⟨0xd2bb07e715c4460f3c0f5c1f932ccb66777292af64e2a46c213913b84053e46b⟩

def objectReceipt : BridgeOperationReceipt :=
  { objectReceiptFields with
    receiptId := ⟨objectIdentity.prefix24⟩
    receiptDigest := ⟨0x767511979f39de9fb9b15e68a5c0c86c1890dc5590212e95c003c4e2cbeadbbc⟩ }

/-- A read-back of the postimage. -/
def verified (observed : ℕ) : BridgeOperationVerification where
  operationId := objectIntent.operationId
  intentDigest := objectIntent.intentDigest
  receiptId := objectReceipt.receiptId
  receiptDigest := objectReceipt.receiptDigest
  provider := .scheduler
  objectKey := objectKey
  revision := .integer 8
  fingerprint := planDigest 0xb1
  observedAt := second observed
  verifiedAt := second (observed + 1)

/-! ### The release of the first fence -/

def releaseFields : ReleaseIntentFields where
  planId := firstPlanId
  planDigest := firstPlan
  manifestDigest := planDigest 0xea
  attempt := 1
  releaseAttempt := 1
  provider := .scheduler
  writerId := writer
  acquisitionOperationId := firstReceipt.operationId
  acquisitionReceiptId := firstReceipt.receiptId
  acquisitionReceiptDigest := firstReceipt.receiptDigest
  tokenDigest := token
  scopeDigest := planDigest 0x5c
  epoch := 1
  expectedInventoryRevision := .integer 8
  requestedAt := second 11

def releaseDigest : Digest :=
  ⟨0x644ecc8404222ac370d377e6cbc33fec2cfbf053de78ecb7879ca6134dcaf230⟩

def releaseIntent : FenceReleaseIntent :=
  { releaseFields with
    operationId := ⟨releaseDigest.prefix24⟩
    intentDigest := releaseDigest }

def releaseReceiptFields : ReleaseReceiptFields where
  operationId := releaseIntent.operationId
  intentDigest := releaseDigest
  releaseAttempt := 1
  provider := .scheduler
  writerId := writer
  acquisitionOperationId := firstReceipt.operationId
  acquisitionReceiptId := firstReceipt.receiptId
  acquisitionReceiptDigest := firstReceipt.receiptDigest
  tokenDigest := token
  scopeDigest := planDigest 0x5c
  epoch := 1
  expectedInventoryRevision := .integer 8
  finalInventoryRevision := .integer 8
  releasedAt := second 12
  acknowledgedAt := second 13
  durableAt := second 14

def releaseIdentity : Digest :=
  ⟨0x8c91436cf6d306b3cefb4d98d4e0955e2eba2429d41844da50d0a5738e5e7541⟩

def releaseReceipt : FenceReleaseReceipt :=
  { releaseReceiptFields with
    receiptId := ⟨releaseIdentity.prefix24⟩
    receiptDigest := ⟨0x7048595f2bfd9c131c866dd6193d3fa73d490a16c61f09831fdec03be67af6bb⟩ }

/-! ### Fences that are acquired again -/

/-- The first plan acquires its fence again after the release. -/
def againIntent : FenceAcquisitionIntent := acquisitionIntent firstPlanId firstPlan 2 30
  ⟨0x2be8fa7e438d886dfac42af70cf8873ad35fa3a00c479415635b08f8edb4b076⟩

def againIdentity : Digest :=
  ⟨0xe1df250dd879341c8d94e607b7e3d3ca5c2f2107c531a3e7a094486fbb07a312⟩

def againReceipt : FenceAcquisitionReceipt := acquisitionReceipt againIntent 30 againIdentity
  ⟨0x256b64b893ef09cb2510b6643382c8feff7ace859228eaa802da5b9f9add98de⟩

/-- The proof that this acquisition had no effect, where it had none. -/
def againTombstoneFields : AcquisitionNoEffectFields where
  operationId := againIntent.operationId
  intentDigest := againIntent.intentDigest
  provider := .scheduler
  writerId := writer
  expectedInventoryRevision := .integer 7
  scopeDigest := planDigest 0x5c
  epoch := 2
  outcome := .noEffect
  evidence := .operationLedger
  acknowledgedAt := second 631
  durableAt := second 632
  durable := true

def againTombstoneIdentity : Digest :=
  ⟨0x995ea26a24ed014691fc0229f76939a186fd7727a023498923fe69eb02d3793a⟩

def againTombstone : FenceAcquisitionNoEffectReceipt :=
  { againTombstoneFields with
    receiptId := ⟨againTombstoneIdentity.prefix24⟩
    receiptDigest := ⟨0xc15bfb662b4df89ea122994e54dc429721adc5774409eacb346ce3b23035f4a1⟩ }

/-- The second plan acquires the next fence. -/
def laterIntent : FenceAcquisitionIntent := acquisitionIntent secondPlanId secondPlan 3 100
  ⟨0xcf2d0ada0d3777c37090b515acfb81ab8c7916018d201b0ed103e08281a8773e⟩

def laterIdentity : Digest :=
  ⟨0x35ce0085799319d517a4211a7ab44ee9436eda7188ad2dd70aaa114f4080deeb⟩

def laterReceipt : FenceAcquisitionReceipt := acquisitionReceipt laterIntent 100 laterIdentity
  ⟨0x676da0b8e1cf24f68bf03955d49eeafd9a6d9b5e81671277387bd062f9f44a0b⟩

/-! ### Digests and attempts -/

/-- SHA-256 over the canonical JSON of the payloads above. -/
def digests : List (Payload × Digest) :=
  [(.referencePlan firstPlan, firstPlanDigest),
    (.referencePlan secondPlan, secondPlanDigest),
    (.acquisitionIntent firstIntent.toAcquisitionIntentFields, firstIntent.intentDigest),
    (.acquisitionIntent secondIntent.toAcquisitionIntentFields, secondIntent.intentDigest),
    (.receiptIdentity (.fenceAcquisition firstReceipt.toAcquisitionReceiptFields), firstIdentity),
    (.receiptDigest firstReceipt.receiptId
      (.fenceAcquisition firstReceipt.toAcquisitionReceiptFields), firstReceipt.receiptDigest),
    (.receiptIdentity (.fenceAcquisition secondReceipt.toAcquisitionReceiptFields),
      secondIdentity),
    (.receiptDigest secondReceipt.receiptId
      (.fenceAcquisition secondReceipt.toAcquisitionReceiptFields), secondReceipt.receiptDigest),
    (.objectIntent objectFields, objectIntent.intentDigest),
    (.authorization authorization.toAuthorizationFields, authorization.authorizationDigest),
    (.receiptIdentity (.objectOperation objectReceiptFields), objectIdentity),
    (.receiptDigest objectReceipt.receiptId (.objectOperation objectReceiptFields),
      objectReceipt.receiptDigest),
    (.releaseIntent releaseFields, releaseDigest),
    (.receiptIdentity (.fenceRelease releaseReceiptFields), releaseIdentity),
    (.receiptDigest releaseReceipt.receiptId (.fenceRelease releaseReceiptFields),
      releaseReceipt.receiptDigest),
    (.acquisitionIntent againIntent.toAcquisitionIntentFields, againIntent.intentDigest),
    (.receiptIdentity (.fenceAcquisition againReceipt.toAcquisitionReceiptFields), againIdentity),
    (.receiptDigest againReceipt.receiptId
      (.fenceAcquisition againReceipt.toAcquisitionReceiptFields), againReceipt.receiptDigest),
    (.receiptIdentity (.fenceAcquisitionNoEffect againTombstoneFields), againTombstoneIdentity),
    (.receiptDigest againTombstone.receiptId (.fenceAcquisitionNoEffect againTombstoneFields),
      againTombstone.receiptDigest),
    (.acquisitionIntent laterIntent.toAcquisitionIntentFields, laterIntent.intentDigest),
    (.receiptIdentity (.fenceAcquisition laterReceipt.toAcquisitionReceiptFields), laterIdentity),
    (.receiptDigest laterReceipt.receiptId
      (.fenceAcquisition laterReceipt.toAcquisitionReceiptFields), laterReceipt.receiptDigest)]

scoped instance digestJson : DigestJson where
  digestJson payload :=
    ((digests.find? fun entry => decide (entry.1 = payload)).map Prod.snd).getD ⟨0⟩

def expectedWrite : BridgeExpectedWrite where
  provider := .scheduler
  objectKey := objectKey
  expectedRevision := .integer 7
  preFingerprint := planDigest 0xa0
  postFingerprint := planDigest 0xb1

/-- The attempt of a plan that has acquired its fence and done nothing yet. -/
def opened (planId : PlanId) (plan : Digest) (acquisition : FenceAcquisitionRecord) :
    BridgeOperationAttempt where
  planId := planId
  planDigest := plan
  manifestDigest := planDigest 0xea
  attempt := 1
  state := .open
  maxObservationAgeSeconds := 60
  expectedWrites := [expectedWrite]
  acquisitions := [acquisition]

/-- The write of the first plan is done and its fence released. -/
def committed : BridgeOperationAttempt :=
  { opened firstPlanId firstPlan (acquired firstIntent firstReceipt) with
    state := .committed
    operations := [{
      intent := objectIntent
      state := .verified
      authorization := some authorization
      receipt := some objectReceipt
      verifications := [verified 9, verified 15] }]
    releases := [{
      intent := releaseIntent
      state := .acknowledged
      receipt := some (.applied releaseReceipt) }]
    releasePhaseSequence := some 1
    terminalAt := some (second 20) }

/-- The write of the first plan is done, its fence released and acquired again. -/
def reacquired : BridgeOperationAttempt :=
  { committed with
    state := .open
    acquisitions := [acquired firstIntent firstReceipt, acquired againIntent againReceipt]
    terminalAt := none }

/-- The attempt of the second plan. -/
def pending : BridgeOperationAttempt :=
  opened secondPlanId secondPlan (acquired secondIntent secondReceipt)

theorem validateAttempt_committed : validateAttempt committed = .ok () := by
  decide

end Sample

open Sample in
/-- The timeline of the write of the sample attempt. -/
theorem committed_causal_order :
    ∃ acquired authorization effectAt verification,
      EffectTimeline acquired authorization effectAt objectReceipt verification releaseIntent := by
  obtain ⟨hcausal, _⟩ := applied_effect_causal_order validateAttempt_committed
  obtain ⟨_, acquired, authorization, effectAt, verification, _, _, _, _, htimeline, _⟩ :=
    hcausal _ (List.mem_singleton.2 rfl) objectReceipt rfl rfl
      { intent := releaseIntent, state := .acknowledged, receipt := some (.applied releaseReceipt) }
      (by decide)
  exact ⟨acquired, authorization, effectAt, verification, htimeline⟩

end TrueFamily.Transaction
