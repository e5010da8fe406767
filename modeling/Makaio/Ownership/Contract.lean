import Mathlib.Tactic

set_option autoImplicit false

/-!
# The session ownership contract

Rows and requests of the `storage:sessionOwnership` namespace (`contracts/src/session`).  A provider
session is owned within its machine and adapter by one claim; the claim carries a token, which names its
generation, and a fence, which orders the generations of an agent.  Columns no ownership request reads
are left out.

## Main definitions

* `AdapterSessionClaimRecord`, `MakaioSessionAgent`,
  `MakaioSession`, `RuntimeInstanceRecord` — the rows.
* `resolveResumableAdapterSessionId` — what a currency resumes.
* `SessionOwnershipClaimRequest`, `claimRequestIssues` — the claim
  request and what its schema refuses.
* `SessionOwnershipClaimResult` and its siblings — the modeled outcomes.
-/

namespace Makaio.Ownership

/-! ### Currency -/

inductive AdapterSessionCurrencyState
  | inherited | moved | confirmed
  deriving DecidableEq

structure AdapterSessionCurrencyTarget where
  currentAdapterSessionId : Option String
  currentAdapterSessionIdState : AdapterSessionCurrencyState
  deriving DecidableEq

structure AdapterSessionCurrencySnapshot extends AdapterSessionCurrencyTarget where
  adapterSessionId : Option String
  deriving DecidableEq

/-- A pair names a provider session exactly when it claims one (`validateCurrencyPairing`). -/
def AdapterSessionCurrencyTarget.Paired (target : AdapterSessionCurrencyTarget) : Prop :=
  target.currentAdapterSessionIdState = .confirmed ↔ target.currentAdapterSessionId.isSome

instance (target : AdapterSessionCurrencyTarget) : Decidable target.Paired :=
  inferInstanceAs (Decidable (_ ↔ _))

/-- The provider session a resume may target. -/
def resolveResumableAdapterSessionId (snapshot : AdapterSessionCurrencySnapshot) : Option String :=
  match snapshot.currentAdapterSessionIdState with
  | .inherited => snapshot.adapterSessionId
  | .confirmed => snapshot.currentAdapterSessionId
  | .moved => none

/-! ### Rows -/

inductive AgentStatus
  | starting | idle | active | dead | disposed
  deriving DecidableEq

/-- `MakaioSessionAgent['runtimeOwner']` -/
structure RuntimeOwner where
  machineId : String
  instanceId : String
  deriving DecidableEq

structure MakaioSessionAgent where
  agentId : String
  adapterId : String
  sessionId : String
  runtimeOwner : Option RuntimeOwner
  recoveryAttemptId : Option String
  adapterSessionId : Option String
  currentAdapterSessionId : Option String
  currentAdapterSessionIdState : Option AdapterSessionCurrencyState
  revision : Option ℕ
  currencyFence : Option ℕ
  status : AgentStatus
  lastActivityAt : ℕ

inductive SessionStatus
  | active | closed | archived | discovered
  deriving DecidableEq

/-- `IMakaioSession` -/
structure MakaioSession where
  status : SessionStatus
  leadAgentId : Option String
  adapterSessionId : Option String
  currentAdapterSessionId : Option String
  currentAdapterSessionIdState : Option AdapterSessionCurrencyState

inductive AdapterSessionClaimStatus
  | held | releasing | abandoned
  deriving DecidableEq

/-- `AdapterSessionClaimRecord`.  An absent owner marks a legacy claim. -/
structure AdapterSessionClaimRecord where
  claimId : String
  machineId : String
  adapterId : String
  providerSessionId : String
  adapterName : String
  sessionId : String
  agentId : String
  ownerInstanceId : Option String
  claimToken : String
  fence : ℕ
  status : AdapterSessionClaimStatus
  claimedAt : ℕ
  updatedAt : ℕ
  deriving DecidableEq

structure RuntimeInstanceRecord where
  instanceId : String
  machineId : String
  incarnation : ℕ
  startedAt : ℕ
  retiredAt : Option ℕ

inductive OwnershipTopology
  | machineExclusive | sharedMachine
  deriving DecidableEq

/-! ### Recovery -/

structure RuntimeBinding where
  adapterId : String
  ownerMachineId : String
  ownerInstanceId : String
  deriving DecidableEq

structure SessionOwnershipRecoveryPreimage where
  status : AgentStatus
  adapterId : String
  binding : Option RuntimeBinding
  recoveryAttemptId : Option String
  deriving DecidableEq

structure SessionOwnershipRecoveryReservation where
  attemptId : String
  preimage : SessionOwnershipRecoveryPreimage
  deriving DecidableEq

structure SessionOwnershipRecoveryOwnerGeneration where
  claimId : String
  claimToken : String
  fence : ℕ
  ownerInstanceId : Option String
  status : AdapterSessionClaimStatus
  deriving DecidableEq

structure SessionOwnershipRecoveryGuard where
  expectedStatus : AgentStatus
  expectedPreimage : SessionOwnershipRecoveryPreimage
  expectedRevision : ℕ
  expectedCurrencyFence : ℕ
  expectedCurrency : AdapterSessionCurrencySnapshot
  ownerGeneration : Option SessionOwnershipRecoveryOwnerGeneration

inductive SessionOwnershipRecoveryTerminalAction
  | rollback (preimage : SessionOwnershipRecoveryPreimage)
  | succeeded
  | failed

structure SessionOwnershipFinalizeRecoveryRequest where
  agentId : String
  attemptId : String
  binding : RuntimeBinding
  action : SessionOwnershipRecoveryTerminalAction

/-! ### Claims -/

/-- `SessionOwnershipLeadDesignationMutation`.  The flags are `true` or absent. -/
structure SessionOwnershipLeadDesignationMutation where
  expectedLeadAgentId : Option String
  clear : Bool
  restore : Bool

/-- `SessionOwnershipClaimRequest`.  `supersedes` is the token it names. -/
structure SessionOwnershipClaimRequest where
  machineId : String
  adapterId : String
  providerSessionId : Option String
  adapterName : String
  ownerInstance : Option String
  topology : OwnershipTopology
  recoveryGuard : Option SessionOwnershipRecoveryGuard
  recoveryAttemptId : Option String
  sessionId : String
  agentId : String
  claimToken : String
  supersedes : Option String
  designateLead : Option SessionOwnershipLeadDesignationMutation

variable (value : SessionOwnershipClaimRequest)

/-- Whether a request carries no ownership acquisition fields. -/
def hasPureDesignationShape : Bool :=
  value.providerSessionId.isNone && value.ownerInstance.isNone && value.recoveryGuard.isNone &&
    value.recoveryAttemptId.isNone && value.supersedes.isNone

/-- Whether a request is a keyless, unguarded lead relinquishment. -/
def isPureLeadRelinquishment : Bool :=
  match value.designateLead with
  | none => false
  | some designation =>
    designation.clear && !designation.restore &&
      designation.expectedLeadAgentId = some value.agentId && hasPureDesignationShape value

/-- Whether a request is a keyless, unguarded restoration of a prior lead. -/
def isPureLeadRestoration : Bool :=
  match value.designateLead with
  | none => false
  | some designation =>
    designation.restore && !designation.clear && designation.expectedLeadAgentId.isSome &&
      designation.expectedLeadAgentId ≠ some value.agentId && hasPureDesignationShape value

/-- Whether a designation mutation is safe after the session becomes inactive. -/
def isInactiveSafeLeadDesignationMutation : Bool :=
  isPureLeadRelinquishment value || isPureLeadRestoration value

/-- Why a flagged designation request is not a pure mutation. -/
def getLeadDesignationMutationViolation : Option String :=
  match value.designateLead with
  | none => none
  | some designation =>
    if designation.clear && designation.restore then
      some "a lead designation cannot be both cleared and restored"
    else if designation.clear && !isPureLeadRelinquishment value then
      some "a lead clear must be a keyless, unguarded relinquishment"
    else if designation.restore && !isPureLeadRestoration value then
      some "a lead restore must be a keyless, unguarded restoration"
    else none

/-- The issue of a check that fails. -/
def issueWhen (violated : Bool) (path message : String) : List (String × String) :=
  if violated then [(path, message)] else []

/-- `SessionOwnershipRecoveryPreimageSchema.superRefine` -/
def SessionOwnershipRecoveryPreimage.issues (value : SessionOwnershipRecoveryPreimage) :
    List (String × String) :=
  issueWhen (value.binding.any fun binding => binding.adapterId ≠ value.adapterId)
    "binding.adapterId" "binding.adapterId must equal the preimage adapterId"

/-- `SessionOwnershipRecoveryGuardSchema.superRefine`, with the checks of its parts. -/
def SessionOwnershipRecoveryGuard.issues (value : SessionOwnershipRecoveryGuard) :
    List (String × String) :=
  value.expectedPreimage.issues ++
    issueWhen (¬value.expectedCurrency.Paired) "currentAdapterSessionId"
      "currentAdapterSessionId must be a string exactly when currentAdapterSessionIdState is 'confirmed'" ++
    issueWhen (value.expectedPreimage.status ≠ value.expectedStatus) "expectedPreimage.status"
      "expectedPreimage.status must equal expectedStatus"

def validateLeadDesignationMutation : List (String × String) :=
  ((getLeadDesignationMutationViolation value).map fun message => ("designateLead", message)).toList ++
    issueWhen (value.recoveryGuard.isSome && value.designateLead.isSome) "designateLead"
      "a guarded recovery claim cannot designate the session lead"

/-- What `SessionOwnershipClaimRequestSchema` refuses: paths and messages. -/
def claimRequestIssues : List (String × String) :=
  (value.recoveryGuard.map SessionOwnershipRecoveryGuard.issues).getD [] ++
    validateLeadDesignationMutation value ++
    issueWhen (value.providerSessionId.isSome && value.ownerInstance.isNone) "ownerInstance"
      "ownerInstance is required when providerSessionId is not null" ++
    issueWhen (value.recoveryGuard.isSome && value.ownerInstance.isNone) "ownerInstance"
      "ownerInstance is required when recoveryGuard is present" ++
    issueWhen (value.recoveryGuard.isSome && value.recoveryAttemptId.isNone) "recoveryAttemptId"
      "recoveryAttemptId is required when recoveryGuard is present" ++
    issueWhen (value.recoveryGuard.isNone && value.recoveryAttemptId.isSome) "recoveryGuard"
      "recoveryGuard is required when recoveryAttemptId is present"

/-- The row that a `not-found` outcome misses. -/
inductive MissingRow
  | session | agent

inductive SessionOwnershipClaimResult
  | claimed (claim : Option AdapterSessionClaimRecord)
      (recovery : Option SessionOwnershipRecoveryReservation) (leadDesignated : Bool)
      (previousLeadAgentId : Option String)
  | idempotent (claim : Option AdapterSessionClaimRecord)
      (recovery : Option SessionOwnershipRecoveryReservation) (leadDesignated : Bool)
      (previousLeadAgentId : Option String)
  | alreadyClaimed (holder : AdapterSessionClaimRecord)
  | agentDisposed
  | sessionNotActive (status : SessionStatus)
  | leadConflict (currentLeadAgentId : Option String)
  | notFound (missing : MissingRow)
  | currencyChanged (revision currencyFence : ℕ) (currency : AdapterSessionCurrencySnapshot)
  | recoveryConflict (status : AgentStatus)
      (ownerGeneration : Option SessionOwnershipRecoveryOwnerGeneration)

/-! ### Settles and movements -/

structure SessionOwnershipSettleCurrencyRequest where
  agentId : String
  claimToken : String
  fence : ℕ
  expectedRevision : ℕ
  target : AdapterSessionCurrencyTarget

inductive SessionOwnershipSettleCurrencyResult
  | settled (revision : ℕ) (currency : AdapterSessionCurrencySnapshot)
      (sessionSnapshotUpdated : Bool)
  | idempotent (revision : ℕ) (currency : AdapterSessionCurrencySnapshot)
  | superseded (currentFence : ℕ)
  | currencyChanged (revision : ℕ) (currency : AdapterSessionCurrencySnapshot)
  | notOwner
  | agentDisposed
  | notFound

inductive OwnershipMovement
  | confirmed (providerSessionId claimToken : String)
  | demote (claimToken : String)

/-- `movement.claimToken` -/
def OwnershipMovement.claimToken : OwnershipMovement → String
  | confirmed _ claimToken | demote claimToken => claimToken

structure SessionOwnershipSettleMovementRequest where
  machineId : String
  adapterId : String
  adapterName : String
  ownerInstance : Option String
  topology : OwnershipTopology
  sessionId : String
  agentId : String
  expectedRevision : ℕ
  movement : OwnershipMovement

/-- What `SessionOwnershipSettleMovementRequestSchema` refuses. -/
def movementRequestIssues (value : SessionOwnershipSettleMovementRequest) : List (String × String) :=
  issueWhen value.ownerInstance.isNone "ownerInstance" "ownerInstance is required for settleMovement"

inductive SessionOwnershipSettleMovementResult
  | settled (revision : ℕ) (currency : AdapterSessionCurrencySnapshot)
      (sessionSnapshotUpdated : Bool) (releasedProviderSessionIds : List String)
      (claim : AdapterSessionClaimRecord)
  | idempotent (revision : ℕ) (currency : AdapterSessionCurrencySnapshot)
      (claim : Option AdapterSessionClaimRecord)
  | alreadyClaimed (holder : AdapterSessionClaimRecord)
  | superseded (currentFence : ℕ)
  | currencyChanged (revision : ℕ) (currency : AdapterSessionCurrencySnapshot)
  | notOwner
  | agentDisposed
  | notFound

/-! ### Releases -/

/-- `AdapterSessionClaimDisposition`: a clean release, or the status a claim is marked with. -/
inductive AdapterSessionClaimDisposition
  | released | releasing | abandoned

/-- The status that a disposition marks a claim with, if it does. -/
def AdapterSessionClaimDisposition.mark : AdapterSessionClaimDisposition →
    Option AdapterSessionClaimStatus
  | released => none
  | releasing => some .releasing
  | abandoned => some .abandoned

structure SessionOwnershipReleaseRequest where
  agentId : String
  claimToken : String
  disposition : AdapterSessionClaimDisposition

inductive SessionOwnershipReleaseResult
  | released
  | marked (claim : AdapterSessionClaimRecord)
  | notOwner (holder : AdapterSessionClaimRecord)
  | notFound

structure SessionOwnershipReleaseAgentClaimsRequest where
  agentId : String
  claimToken : Option String
  disposition : AdapterSessionClaimDisposition

structure SessionOwnershipReleaseAgentClaimsResult where
  releasedProviderSessionIds : List String
  markedClaims : List AdapterSessionClaimRecord
  claimTokenNotFound : Bool

end Makaio.Ownership
