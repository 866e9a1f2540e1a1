import TrueFamily.Lib.Checked
import Mathlib.Data.String.Basic
import Mathlib.Order.Fin.Basic

/-!
# Scalar values of a bridge transaction

The types of the fields that the transaction records carry. Each type holds exactly the
values that its validator in `reference_transaction.py` accepts, so a record of these types
has passed its per-field checks by construction, and only the checks that relate several
fields remain as code:

* digests and identifiers are fixed-width hexadecimal text, kept as the bits they spell: two
  identifiers with the same tag compare as their digits do;
* instants are the microseconds of an aware UTC `datetime`, from `datetime.min` to
  `datetime.max`;
* a revision keeps its type, so an integer revision never equals a textual one.
-/

namespace TrueFamily.Transaction

open Checked

/-! ## Enumerations -/

/-- `BridgeOperationKind`. -/
inductive BridgeOperationKind
  | write | rollback
  deriving DecidableEq, Repr

/-- `BridgeOperationState`. -/
inductive BridgeOperationState
  | intentRecorded | dispatchArmed | acknowledged | verified | blocked
  deriving DecidableEq, Repr

/-- `FenceLifecycleState`. -/
inductive FenceLifecycleState
  | intentRecorded | dispatchArmed | acknowledged | noEffect | blocked
  deriving DecidableEq, Repr

/-- `BridgeAttemptState`. -/
inductive BridgeAttemptState
  | «open» | committed | restored | blocked
  deriving DecidableEq, Repr

/-- `BridgeReceiptOutcome`. -/
inductive BridgeReceiptOutcome
  | applied | noEffect
  deriving DecidableEq, Repr

/-- `BridgeReceiptEvidence`. -/
inductive BridgeReceiptEvidence
  | dispatchAck | operationLedger
  deriving DecidableEq, Repr

/-- `BridgeReconciliationAction`. -/
inductive BridgeReconciliationAction
  | dispatch | queryReceipt | verifyReceipt | refreshObservation | complete | block
  deriving DecidableEq, Repr

/-- `BridgeBlockReason`. -/
inductive BridgeBlockReason
  | staleFence | expiredFence | staleObservation | observationMismatch | receiptMismatch
  | verifiedDrift | lifecycleMismatch | incompleteCoverage | explicitAbort
  deriving DecidableEq, Repr

/-- The exceptions the module raises. `BridgeTransactionError` and its subclasses are
`RuntimeError`s, so an `except (TypeError, ValueError)` clause does not catch them. -/
inductive PyError
  | typeError (message : String)
  | valueError (message : String)
  | keyError (message : String)
  | indexError (message : String)
  | journalConflict (message : String)
  | transitionError (message : String)
  | transactionBlocked (reasonCode : BridgeBlockReason)
  deriving DecidableEq, Repr

/-- `except (TypeError, ValueError) as err: raise e from err`. -/
def PyError.onInvalid (e : PyError) : PyError → Option PyError
  | .typeError _ => some e
  | .valueError _ => some e
  | _ => none

/-- `except BridgeOperationTransitionError as err: raise e from err`. -/
def PyError.onTransition (e : PyError) : PyError → Option PyError
  | .transitionError _ => some e
  | _ => none

/-- `TRUE_FAMILY_PROVIDER_MANIFEST`, in the order of the names. -/
inductive Provider
  | activeYaml | configEntry | externalWriters | lovelace | scheduler
  deriving DecidableEq, Repr

/-- The position of the provider's name among the sorted names. -/
def Provider.rank : Provider → ℕ
  | .activeYaml => 0
  | .configEntry => 1
  | .externalWriters => 2
  | .lovelace => 3
  | .scheduler => 4

theorem Provider.rank_injective : Function.Injective Provider.rank := by
  intro a b h
  cases a <;> cases b <;> simp_all [Provider.rank]

instance : LinearOrder Provider := LinearOrder.lift' Provider.rank Provider.rank_injective

/-- The provider's name. -/
def Provider.name : Provider → String
  | .activeYaml => "active_yaml"
  | .configEntry => "config_entry"
  | .externalWriters => "external_writers"
  | .lovelace => "lovelace"
  | .scheduler => "scheduler"

/-- The whole manifest. -/
def Provider.all : List Provider :=
  [.activeYaml, .configEntry, .externalWriters, .lovelace, .scheduler]

@[simp] theorem Provider.mem_all (p : Provider) : p ∈ Provider.all := by
  cases p <;> simp [Provider.all]

/-! ## Digests and identifiers -/

/-- A lowercase SHA-256 digest, `^[0-9a-f]{64}$`. -/
structure Digest where
  bits : BitVec 256
  deriving DecidableEq

/-- `digest[:24]`, the 24 leading hexadecimal digits. -/
def Digest.prefix24 (d : Digest) : BitVec 96 := d.bits.extractLsb' 160 96

/-- `^tf-bridge-[0-9a-f]{24}$`. -/
structure ObjectOperationId where
  hex : BitVec 96
  deriving DecidableEq

/-- `^tf-fence-acquire-[0-9a-f]{24}$`. -/
structure AcquireOperationId where
  hex : BitVec 96
  deriving DecidableEq

/-- `^tf-fence-release-[0-9a-f]{24}$`. -/
structure ReleaseOperationId where
  hex : BitVec 96
  deriving DecidableEq

/-- `^tf-receipt-[0-9a-f]{24}$`. -/
structure ReceiptId where
  hex : BitVec 96
  deriving DecidableEq

/-- A reference plan ID, `tf-reference-` and 24 hexadecimal digits. -/
structure PlanId where
  hex : BitVec 96
  deriving DecidableEq

/-- `FenceTokenDigest`, `^tf-fence-token-sha256-v1:[0-9a-f]{64}$`. -/
structure FenceTokenDigest where
  hex : BitVec 256
  deriving DecidableEq

/-- An operation ID of any kind. The three tags differ, so IDs of different kinds do. -/
inductive OperationId
  | acquire (id : AcquireOperationId)
  | object (id : ObjectOperationId)
  | release (id : ReleaseOperationId)
  deriving DecidableEq

/-! ## Texts and revisions -/

/-- `str.isspace` on one character. -/
def isSpace (c : Char) : Bool :=
  (9 ≤ c.val && c.val ≤ 13) || (28 ≤ c.val && c.val ≤ 32) || c.val == 0x85 || c.val == 0xa0
    || c.val == 0x1680 || (0x2000 ≤ c.val && c.val ≤ 0x200a) || c.val == 0x2028
    || c.val == 0x2029 || c.val == 0x202f || c.val == 0x205f || c.val == 0x3000

/-- `_validate_string`: non-empty, stripped, at most 1024 characters, no control character. -/
def isCanonicalText (s : String) : Bool :=
  !s.toList.isEmpty && !(s.toList.head?.any isSpace) && !(s.toList.getLast?.any isSpace)
    && s.toList.length ≤ 1024 && s.toList.all fun c => !(c.val < 32 || c.val == 127)

/-- A canonical non-empty text. -/
structure CanonicalText where
  text : String
  isCanonical : isCanonicalText text = true
  deriving DecidableEq

theorem CanonicalText.text_injective : Function.Injective CanonicalText.text := by
  rintro ⟨a, ha⟩ ⟨b, hb⟩ rfl
  rfl

instance : LinearOrder CanonicalText :=
  LinearOrder.lift' CanonicalText.text CanonicalText.text_injective

/-- The textual case of `_validate_revision`: 1 to 256 visible ASCII characters. -/
def isRevisionText (s : String) : Bool :=
  0 < s.toList.length && s.toList.length ≤ 256
    && s.toList.all fun c => 33 ≤ c.val && c.val ≤ 126

/-- `Revision = str | int`, as `_validate_revision` accepts it. -/
inductive Revision
  | integer (value : ℕ)
  | text (value : String) (isCanonical : isRevisionText value = true)
  deriving DecidableEq

/-- `_same_revision`: the same type and the same value. -/
def sameRevision (left right : Revision) : Bool :=
  match left, right with
  | .integer a, .integer b => a == b
  | .text a _, .text b _ => a == b
  | _, _ => false

/-- Typed revision equality is equality of revisions. -/
@[simp] theorem sameRevision_iff {left right : Revision} :
    sameRevision left right = true ↔ left = right := by
  cases left <;> cases right <;> simp [sameRevision]

/-! ## Instants -/

/-- `datetime.max - datetime.min` in microseconds. -/
def datetimeMax : ℕ := 315537897599999999

/-- An aware UTC `datetime`: microseconds since `datetime.min`. -/
abbrev Datetime := Fin (datetimeMax + 1)

instance (priority := 2000) neZero_datetimeMax : @NeZero ℕ Zero.ofOfNat0 (datetimeMax + 1) :=
  ⟨Nat.succ_ne_zero _⟩

/-- `at - observed_at <= timedelta(seconds=seconds)`, for `observed_at <= at`. -/
def withinSeconds (observedAt at' : Datetime) (seconds : ℕ) : Prop :=
  at'.val - observedAt.val ≤ seconds * 1000000

instance (observedAt at' : Datetime) (seconds : ℕ) :
    Decidable (withinSeconds observedAt at' seconds) := by
  unfold withinSeconds; infer_instance

/-! ## Checks on integers -/

/-- `_validate_positive_integer`. -/
def validatePositiveInteger (value : ℕ) (label : String) : Except PyError Unit :=
  check (1 ≤ value) (.valueError (label ++ " must be a positive integer."))

/-- `_validate_freshness_seconds`, with `_MAX_FRESHNESS_SECONDS`. -/
def validateFreshnessSeconds (value : ℕ) : Except PyError Unit :=
  check (1 ≤ value ∧ value ≤ 86400)
    (.valueError "Observation freshness seconds are out of range.")

end TrueFamily.Transaction
