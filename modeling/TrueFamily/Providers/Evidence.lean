import TrueFamily.Lib.CodePoints
import TrueFamily.Lib.FixedText
import TrueFamily.Lib.Sorting
import TrueFamily.Transaction.Values

/-!
# Evidence about the providers

The records of `reference_providers_ha.py` from which the production readiness is assessed: the
expected objects, the inventories, the bridge results and the attestation of the external
writers. Each type holds what the `__post_init__` of its class accepts.

`_digest_json` is a parameter: it maps the dictionary that the source builds to the digest of its
canonical JSON.
-/

namespace TrueFamily.Providers

open Sorting
open TrueFamily.Transaction (Provider Digest FenceTokenDigest Datetime)

/-! ## Scalars -/

/-- `InventoryStatus`. -/
inductive InventoryStatus
  | readable | unavailable | error
  deriving DecidableEq, Repr

/-- `PublicProviderStatus`. -/
inductive PublicProviderStatus
  | ready | readOnly | countMismatch | manifestMismatch | unavailable
  deriving DecidableEq, Repr

/-- `_validate_nonempty_string`. -/
def isNonemptyString (text : PyText) : Bool :=
  text.isStripped && decide (0 ∉ text)

/-- A non-empty canonical string. -/
structure NonemptyString where
  text : PyText
  isNonempty : isNonemptyString text = true
  deriving DecidableEq

theorem NonemptyString.text_injective : Function.Injective NonemptyString.text := by
  rintro ⟨a, ha⟩ ⟨b, hb⟩ rfl
  rfl

instance : LinearOrder NonemptyString :=
  LinearOrder.lift' NonemptyString.text NonemptyString.text_injective

/-- `Revision = str | int`, as `_validate_revision` of this module accepts it. -/
inductive Revision
  | integer (value : ℕ)
  | text (value : NonemptyString)
  deriving DecidableEq

/-- The hexadecimal text of a digest. -/
def hexText (digest : Digest) : PyText :=
  (lowerHex.write 64 digest.bits.toNat).map fun c => Fin.ofNat 0x110000 c.toNat

/-- `revision == digest`, which no integer equals. -/
def Revision.isDigest (digest : Digest) : Revision → Prop
  | .integer _ => False
  | .text value => value.text = hexText digest

instance (digest : Digest) : DecidablePred (Revision.isDigest digest)
  | .integer _ => .isFalse id
  | .text value => inferInstanceAs (Decidable (value.text = hexText digest))

/-! ## Digests -/

/-- The dictionaries that this module hashes. -/
inductive Payload
  | expectedObjects (provider : Provider) (objectKeys : List NonemptyString)
  | expectedManifest (revision : NonemptyString)
    (providers : List (Provider × List NonemptyString))
  | inventory (provider : Provider) (objects : List (NonemptyString × Option Revision))
  deriving DecidableEq

/-- `_digest_json`: SHA-256 of the canonical JSON of a dictionary. -/
class DigestJson where
  digestJson : Payload → Digest

export DigestJson (digestJson)

/-- `_validate_object_keys`: unique and sorted. -/
def CanonicalKeys (objectKeys : List NonemptyString) : Prop :=
  sortedBy id objectKeys = objectKeys ∧ objectKeys.Nodup

instance : DecidablePred CanonicalKeys := fun _ => instDecidableAnd

/-! ## Expected objects -/

/-- `ExpectedProviderObjects`. -/
structure ExpectedProviderObjects where
  provider : Provider
  objectKeys : List NonemptyString
  canonical : CanonicalKeys objectKeys

namespace ExpectedProviderObjects

/-- `count`. -/
def count (self : ExpectedProviderObjects) : ℕ := self.objectKeys.length

/-- `digest`. -/
def digest [DigestJson] (self : ExpectedProviderObjects) : Digest :=
  digestJson (.expectedObjects self.provider self.objectKeys)

end ExpectedProviderObjects

/-- `_REFERENCE_SNAPSHOT_MAX_DOCUMENT_BYTES`. -/
def maxDocumentBytes : ℕ := 1048576

/-- `ExpectedObjectManifest`. -/
structure ExpectedObjectManifest where
  revision : NonemptyString
  providers : List ExpectedProviderObjects
  revision_bounded : revision.text.length ≤ maxDocumentBytes
  names : providers.map (·.provider) = Provider.all

namespace ExpectedObjectManifest

theorem length_providers (self : ExpectedObjectManifest) : self.providers.length = 5 := by
  rw [← List.length_map (f := (·.provider)), self.names]
  rfl

/-- `for_provider`. -/
def forProvider (self : ExpectedObjectManifest) (provider : Provider) : ExpectedProviderObjects :=
  self.providers.get ⟨Provider.all.idxOf provider, by
    rw [self.length_providers]
    cases provider <;> decide⟩

/-- `digest`. -/
def digest [DigestJson] (self : ExpectedObjectManifest) : Digest :=
  digestJson (.expectedManifest self.revision
    (self.providers.map fun item => (item.provider, item.objectKeys)))

end ExpectedObjectManifest

/-! ## Inventories -/

/-- `SourceAnnotation`. -/
structure SourceAnnotation where
  source : NonemptyString
  line : ℕ ⊕ NonemptyString

/-- `InventoryObject`. -/
structure InventoryObject where
  objectKey : NonemptyString
  revision : Option Revision := none
  annotation : Option SourceAnnotation := none

/-- `ProviderInventory`. -/
structure ProviderInventory where
  provider : Provider
  status : InventoryStatus
  objects : List InventoryObject
  canonical : CanonicalKeys (objects.map (·.objectKey))
  unreadable_empty : status ≠ .readable → objects = []

namespace ProviderInventory

/-- `ProviderInventory.unavailable`. -/
def unavailable (provider : Provider) : ProviderInventory where
  provider := provider
  status := .unavailable
  objects := []
  canonical := ⟨rfl, List.nodup_nil⟩
  unreadable_empty _ := rfl

/-- `object_keys`. -/
def objectKeys (self : ProviderInventory) : List NonemptyString := self.objects.map (·.objectKey)

/-- `count`. -/
def count (self : ProviderInventory) : ℕ := self.objects.length

/-- `revision_digest`. -/
def revisionDigest [DigestJson] (self : ProviderInventory) : Digest :=
  digestJson (.inventory self.provider
    (self.objects.map fun item => (item.objectKey, item.revision)))

end ProviderInventory

/-! ## Bridges -/

/-- `ProviderCapabilities`. -/
structure ProviderCapabilities where
  readable : Bool
  schemaAware : Bool
  conditionalWrite : Bool
  durableAck : Bool
  rollback : Bool
  fencedWriter : Bool
  deriving DecidableEq

namespace ProviderCapabilities

/-- `production_ready`. -/
def productionReady (self : ProviderCapabilities) : Bool :=
  [self.readable, self.schemaAware, self.conditionalWrite, self.durableAck, self.rollback,
    self.fencedWriter].all id

/-- `ProviderCapabilities.unavailable`. -/
def unavailable : ProviderCapabilities := ⟨false, false, false, false, false, false⟩

end ProviderCapabilities

/-- What an available bridge proves. -/
structure BridgeProof where
  capabilities : ProviderCapabilities
  objectCount : ℕ
  expectedManifestDigest : Digest
  objectManifestDigest : Digest
  inventoryRevision : Revision
  bridgeId : NonemptyString
  readinessRevision : Revision
  deriving DecidableEq

/-- `BridgeReadiness`: an unavailable bridge claims no proof. -/
structure BridgeReadiness where
  provider : Provider
  proof? : Option BridgeProof
  deriving DecidableEq

namespace BridgeReadiness

/-- `available`. -/
def available (self : BridgeReadiness) : Bool := self.proof?.isSome

/-- `capabilities`. -/
def capabilities (self : BridgeReadiness) : ProviderCapabilities :=
  (self.proof?.map (·.capabilities)).getD .unavailable

/-- `object_count`. -/
def objectCount (self : BridgeReadiness) : ℕ := (self.proof?.map (·.objectCount)).getD 0

/-- `expected_manifest_digest`. -/
def expectedManifestDigest (self : BridgeReadiness) : Option Digest :=
  self.proof?.map (·.expectedManifestDigest)

/-- `object_manifest_digest`. -/
def objectManifestDigest (self : BridgeReadiness) : Option Digest :=
  self.proof?.map (·.objectManifestDigest)

/-- `inventory_revision`. -/
def inventoryRevision (self : BridgeReadiness) : Option Revision :=
  self.proof?.map (·.inventoryRevision)

end BridgeReadiness

/-! ## The attestation of the external writers -/

/-- `WriterFenceMetadata`. -/
structure WriterFenceMetadata where
  provider : Provider
  writerId : NonemptyString
  fenceTokenDigest : FenceTokenDigest
  fenceEpoch : ℕ
  fenceRevision : Revision
  scopeDigest : Digest
  acquiredAt : Datetime
  expiresAt : Datetime
  acquired_before_expiry : acquiredAt < expiresAt

/-- `SignedExternalWriterAttestation`; its provider is always `external_writers`. -/
structure SignedExternalWriterAttestation where
  issuer : NonemptyString
  keyId : NonemptyString
  attestationId : NonemptyString
  writerId : NonemptyString
  expectedManifestDigest : Digest
  objectKeys : List NonemptyString
  inventoryRevision : Revision
  issuedAt : Datetime
  expiresAt : Datetime
  fence : WriterFenceMetadata
  signature : List UInt8
  canonical : CanonicalKeys objectKeys
  issued_before_expiry : issuedAt < expiresAt
  fence_provider : fence.provider = .externalWriters
  fence_writer : fence.writerId = writerId
  signed : signature ≠ []

/-- What a `verify` method answers, or that it raises. It is given the attestation, and the
canonical payload that the attestation determines. -/
inductive VerifierAnswer
  | boolean (verified : Bool)
  | other
  | raised
  deriving DecidableEq

/-- An object given as `ExternalAttestationVerifier`, with its `verify` if it has one. -/
structure ExternalAttestationVerifier where
  verify? : Option (SignedExternalWriterAttestation → VerifierAnswer)

end TrueFamily.Providers
