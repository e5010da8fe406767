import Makaio.Foundations.OrderedMap

set_option autoImplicit false

/-!
# Execution attempts: records, inputs and decisions

The durable facts behind the execution attempt port of the workflow engine
(`execution-attempt-repository.ts`, `provider-operation.ts`, `attempt-control-evidence.ts`): the attempt
record with its control state, the provider operation that fences who may act on the attempt's
infrastructure, the committed outcomes, cancellation intents and request bindings, and what the
operations of the port take and answer.

Values that pass a contract schema on their way in are taken as already parsed.  JSON data that no
operation looks into is represented by its canonical text, so that the source's comparisons by
`canonicalStringify` are equalities.

## Main definitions

* `ExecutionAttemptRecord`, `ProviderOperationOwnershipRecord` — the two
  records of an attempt.
* `Store` — the maps of the in-memory realization.
* `Decision`, `AttemptError` — what an operation answers or throws.
-/

namespace Makaio.Attempts

open Foundations

/-! ### Values -/

/-- A JSON value, by the text `canonicalStringify` renders it as. -/
abbrev Json := String

/-- An instant, in milliseconds since the epoch.  Canonical ISO-8601 texts are in bijection with
these. -/
abbrev Instant := ℤ

/-- A timestamp supplied by a caller, with what `Date.parse` makes of it; none for `NaN`. -/
structure Timestamp where
  text : String
  instant : Option Instant
  deriving DecidableEq

/-- Versioned, JSON-safe, non-secret provider allocation reference. -/
structure ProviderAllocationRef where
  providerId : String
  providerData : Json
  deriving DecidableEq

/-- `sameAllocationRef`: the canonical serializations agree. -/
def sameAllocationRef (stored candidate : ProviderAllocationRef) : Bool := stored = candidate

/-- Bounded, durable, non-secret evidence supporting a definite provider conclusion. -/
abbrev BoundedRecoveryEvidence := Json

/-- Lifetime of allocations created by a provider. -/
inductive WorkerAllocationLifetime
  | provisionerProcessBound
  | providerManaged
  deriving DecidableEq

/-- A source root that a workspace requirement names. -/
structure SourceRoot where
  id : String
  members : Json
  deriving DecidableEq

/-- Portable working-area requirement. -/
structure WorkspaceRequirement where
  sourceRoots : List SourceRoot
  members : Json
  deriving DecidableEq

/-- Frozen non-secret assignment bound by the execution owner to one attempt. -/
structure ExecutionAttemptInstruction where
  workspace : Option WorkspaceRequirement
  members : Json
  deriving DecidableEq

/-- A source root as the runtime realized it. -/
structure BoundSourceRoot where
  id : String
  path : String
  deriving DecidableEq

/-- Local filesystem realization, valid only for the reporting attempt and runtime generation. -/
structure ExecutionAttemptWorkspaceBinding where
  workspaceRoot : String
  sourceRoots : List BoundSourceRoot
  deriving DecidableEq

/-- Successful, non-terminal Preparation result. -/
structure ExecutionAttemptPreparationResult where
  binding : ExecutionAttemptWorkspaceBinding
  deriving DecidableEq

/-! ### The attempt record -/

/-- Lifecycle status of an execution attempt. -/
inductive ExecutionAttemptStatus
  | pending
  | provisioning
  | allocated
  | settled
  deriving DecidableEq

/-- How a settled attempt reached its terminal state. -/
inductive SettlementKind
  | outcome
  | abandoned
  | infrastructureFailure
  deriving DecidableEq

/-- State of the single durable ordering point an attempt admits operations through. -/
inductive AttemptOperationStartGate
  | open
  | closed
  deriving DecidableEq

/-- Kind discriminator for an operation admitted against an attempt. -/
inductive ExecutionAttemptOperationKind
  | runtimeProbe
  | workflowRun
  | workspacePreparation
  | workloadInvocation
  deriving DecidableEq

/-- The runtime and operation control state of one attempt. -/
structure AttemptControlState where
  runtimeGeneration : ℕ
  runtimeIncarnationId : Option String
  runtimeReadyAt : Option Instant
  operationStartGate : AttemptOperationStartGate
  activeOperationId : Option String
  activeOperationKind : Option ExecutionAttemptOperationKind
  activeOperationKey : Option String
  activeOperationGeneration : Option ℕ
  activeOperationAdmittedAt : Option Instant
  lastCompletedOperationId : Option String
  deriving DecidableEq

/-- `INITIAL_ATTEMPT_CONTROL_STATE` -/
def AttemptControlState.initial : AttemptControlState where
  runtimeGeneration := 0
  runtimeIncarnationId := none
  runtimeReadyAt := none
  operationStartGate := .open
  activeOperationId := none
  activeOperationKind := none
  activeOperationKey := none
  activeOperationGeneration := none
  activeOperationAdmittedAt := none
  lastCompletedOperationId := none

/-- Durable acceptance of one successful Preparation operation. -/
structure PreparationReceipt where
  operationId : String
  runtimeGeneration : ℕ
  result : ExecutionAttemptPreparationResult
  deriving DecidableEq

/-- Immutable assignment and accepted Preparation facts read with control state. -/
structure AttemptExecutionState where
  instruction : ExecutionAttemptInstruction
  preparationReceipts : List PreparationReceipt
  deriving DecidableEq

/-- Durable record for one execution attempt. -/
structure ExecutionAttemptRecord extends AttemptControlState, AttemptExecutionState where
  executionAttemptId : String
  executionId : String
  status : ExecutionAttemptStatus
  allocationRef : Option ProviderAllocationRef
  createdAt : Instant
  bootstrapDeadlineAt : Option Instant
  providerId : Option String
  allocationLifetime : Option WorkerAllocationLifetime
  provisionerIncarnationId : Option String
  settlementKind : Option SettlementKind
  claimable : Bool
  claimExpiresAt : Option Instant
  deriving DecidableEq

/-! ### The provider operation -/

/-- Outstanding provider-side debt for one execution attempt. -/
inductive ProviderOperationObligation
  | provisioningResolution
  | allocationControl
  | terminalConvergence
  deriving DecidableEq

/-- The position in `PROVIDER_OPERATION_OBLIGATIONS`. -/
def ProviderOperationObligation.rank : ProviderOperationObligation → ℕ
  | provisioningResolution => 0
  | allocationControl => 1
  | terminalConvergence => 2

/-- Proof that the holder currently owns an attempt's provider operation. -/
structure ProviderOperationClaim where
  executionAttemptId : String
  generation : ℕ
  ownerId : String
  token : String
  leaseExpiresAt : Instant
  deriving DecidableEq

/-- Durable ownership and remediation state for one attempt's provider operation. -/
structure ProviderOperationOwnershipRecord where
  executionAttemptId : String
  generation : ℕ
  ownerId : Option String
  token : Option String
  leaseExpiresAt : Option Instant
  obligation : ProviderOperationObligation
  failureCount : ℕ
  lastFailure : Option BoundedRecoveryEvidence
  completionEvidence : Option BoundedRecoveryEvidence

/-- Whether an operation has both of the independent facts needed to resolve it. -/
def isProviderOperationResolved (attempt : ExecutionAttemptRecord)
    (operation : ProviderOperationOwnershipRecord) : Bool :=
  attempt.settlementKind.isSome && operation.completionEvidence.isSome

/-! ### Cancellation and control evidence -/

/-- A durable request to stop an attempt, never evidence that it stopped. -/
structure ExecutionAttemptCancellationIntent where
  requestKey : String
  controlRevision : ℕ
  requestedAt : Instant
  reason : Option String
  deriving DecidableEq

/-- Accepted control facts observed atomically with the first canonical outcome commit. -/
structure AttemptOutcomeControlObservation where
  controlRevision : ℕ
  cancellation : Option ExecutionAttemptCancellationIntent
  deriving DecidableEq

/-- Attempt-wide Cancel address. -/
structure ExecutionAttemptControlCorrelation where
  executionAttemptId : String
  runtimeIncarnationId : String
  runtimeGeneration : ℕ
  controlRevision : ℕ
  requestKey : String
  deriving DecidableEq

/-- A runtime's first receipt instant, stable across redelivery. -/
structure ExecutionAttemptControlReceipt extends ExecutionAttemptControlCorrelation where
  receivedAt : String
  deriving DecidableEq

/-- What a final report says about. -/
inductive ControlBoundary
  | admissionClosed
  | setupProcessGroup
  | workload
  deriving DecidableEq

/-- What a final report found. -/
inductive ControlStatus
  | achieved
  | unsupported
  | unconfirmed
  deriving DecidableEq

/-- A final, explicitly scoped observation. -/
structure ExecutionAttemptControlReport extends ExecutionAttemptControlCorrelation where
  operationId : Option String
  status : ControlStatus
  boundary : ControlBoundary
  evidence : BoundedRecoveryEvidence
  deriving DecidableEq

/-- Separate immutable runtime facts for one accepted Cancel and addressed generation. -/
structure AttemptControlEvidence where
  controlRevision : ℕ
  runtimeGeneration : ℕ
  receipt : Option ExecutionAttemptControlReceipt
  report : Option ExecutionAttemptControlReport

/-! ### The store -/

/-- `InMemoryAttemptRepositoryState` -/
structure Store where
  attempts : OrderedMap String ExecutionAttemptRecord
  operations : OrderedMap String ProviderOperationOwnershipRecord
  committedOutcomes : OrderedMap String String
  outcomeControlObservations : OrderedMap String AttemptOutcomeControlObservation
  activeAttempts : OrderedMap String String
  requestBindings : OrderedMap String (OrderedMap String String)
  cancellations : OrderedMap String ExecutionAttemptCancellationIntent
  /-- By attempt, then by revision and generation. -/
  controlEvidence : OrderedMap String (OrderedMap (ℕ × ℕ) AttemptControlEvidence)

/-- The store without a seed. -/
def Store.empty : Store := ⟨.empty, .empty, .empty, .empty, .empty, .empty, .empty, .empty⟩

/-! ### Inputs -/

/-- Input for creating a new execution attempt. -/
structure ExecutionAttemptCreate where
  executionAttemptId : String
  executionId : String
  instruction : ExecutionAttemptInstruction
  bootstrapTimeoutMs : ℤ
  deriving DecidableEq

/-- A durable owner's replayable demand, with a candidate identity and budget. -/
structure EnsureExecutionAttemptPersistenceInput extends ExecutionAttemptCreate where
  requestKey : String
  deriving DecidableEq

/-- Trusted owner and exact attempt. -/
structure OwnedAttempt where
  executionId : String
  executionAttemptId : String
  deriving DecidableEq

/-- Input for claiming the provisioning phase of an attempt. -/
structure BeginProvisioningInput extends OwnedAttempt where
  providerId : String
  allocationLifetime : WorkerAllocationLifetime
  provisionerIncarnationId : String
  ownerId : String
  leaseExpiresAt : Timestamp
  deriving DecidableEq

/-- Input for taking ownership of an unowned or expired provider operation. -/
structure TakeOverProviderOperationInput where
  executionAttemptId : String
  ownerId : String
  observedAt : Timestamp
  leaseExpiresAt : Timestamp
  deriving DecidableEq

/-- Input for recording an allocation reference against a held operation. -/
structure RecordAllocationInput where
  claim : ProviderOperationClaim
  allocationRef : ProviderAllocationRef
  deriving DecidableEq

/-- Input for a compare-and-set evolution of an allocation reference. -/
structure AllocationRefEvolution where
  claim : ProviderOperationClaim
  executionId : String
  currentRef : ProviderAllocationRef
  nextRef : ProviderAllocationRef
  deriving DecidableEq

/-- Input for recording positively proven absence of any allocation. -/
structure RecordProvisioningAbsentInput where
  claim : ProviderOperationClaim
  executionId : String
  evidence : BoundedRecoveryEvidence
  deriving DecidableEq

/-- Input for closing pre-allocation debt on proven provisioner-process loss. -/
structure RecordProvisionerIncarnationLostInput where
  claim : ProviderOperationClaim
  executionId : String
  provisionerIncarnationId : String
  evidence : BoundedRecoveryEvidence
  deriving DecidableEq

/-- Input for registering a runtime incarnation as an attempt's endpoint. -/
structure RegisterRuntimeInput extends OwnedAttempt where
  runtimeIncarnationId : String
  deriving DecidableEq

/-- Input for admitting one operation through an attempt's start gate. -/
structure AdmitOperationInput extends OwnedAttempt where
  operationKind : ExecutionAttemptOperationKind
  admissionKey : String
  runtimeGeneration : ℕ
  deriving DecidableEq

/-- Successful Preparation report plus its trusted owner identity. -/
structure ReportOperationInput extends OwnedAttempt where
  operationId : String
  runtimeGeneration : ℕ
  result : ExecutionAttemptPreparationResult
  deriving DecidableEq

/-- Input for completing the operation an attempt currently runs. -/
structure CompleteOperationInput where
  executionAttemptId : String
  operationId : String
  runtimeGeneration : ℕ
  deriving DecidableEq

/-- Input for recording that a registered runtime proved itself ready. -/
structure MarkRuntimeReadyInput extends OwnedAttempt where
  runtimeGeneration : ℕ
  readyAt : Timestamp
  deriving DecidableEq

/-- Owner-scoped cancellation of attempts that exist when the request commits. -/
structure RequestExecutionCancellationInput where
  executionId : String
  reason : Option String
  deriving DecidableEq

/-- Trusted owner authorization to stop one exact attempt. -/
structure RequestAttemptCancellationInput extends RequestExecutionCancellationInput where
  executionAttemptId : String
  requestKey : String
  deriving DecidableEq

/-- Runtime and operation expected to remain current when an outcome becomes durable. -/
structure RuntimeOutcomeFence where
  runtimeGeneration : ℕ
  operationId : Option String
  deriving DecidableEq

/-- Attempt identity and the rendering to commit; of the rendering only the text is read. -/
structure ExecutionAttemptOutcomeCommit extends OwnedAttempt where
  text : String
  runtimeFence : Option RuntimeOutcomeFence
  deriving DecidableEq

/-! ### Decisions -/

/-- What the operations decide: one constructor for each shape of the source's decision types. -/
inductive Decision (O : Type)
  | notFound
  | fenced
  | resolved
  | resolvedAllocation (allocationRef : Option ProviderAllocationRef)
  | stale
  | staleRef (storedRef : Option ProviderAllocationRef)
  | recorded
  | completed
  | created (attempt : ExecutionAttemptRecord)
  | replayed (attempt : ExecutionAttemptRecord)
  | conflict
  -- provisioning and allocation
  | started (claim : ProviderOperationClaim)
  | alreadyProvisioning
  | claimed (claim : ProviderOperationClaim)
  | evidenceRecorded
  | alreadyCompleted
  | allocated (allocationRef : ProviderAllocationRef)
  | duplicateAllocation (allocationRef : ProviderAllocationRef)
  | conflictingAllocation (allocationRef : ProviderAllocationRef)
  | notProcessBound (allocationLifetime : Option WorkerAllocationLifetime)
  | incarnationMismatch (provisionerIncarnationId : Option String)
  | notAllocated
  | notTerminated
  | evolved
  -- runtime and operation control
  | registered (runtimeGeneration : ℕ)
  | duplicateRegistration (runtimeGeneration : ℕ) (runtimeReadyAt : Option Instant)
  | operationActive (operationId : String)
  | admitted (operationId : String) (runtimeGeneration : ℕ) (admittedAt : Instant)
  | duplicateAdmission (operationId : String) (runtimeGeneration : ℕ) (admittedAt : Instant)
  | gateClosed
  | notReady
  | staleGeneration
  | staleAdmission (runtimeGeneration : ℕ)
  | preparationRequired
  | preparationNotRequired
  | preparationAlreadyCompleted
  | acceptedReport (binding : ExecutionAttemptWorkspaceBinding)
  | duplicateReport (binding : ExecutionAttemptWorkspaceBinding)
  | noActiveOperation
  | operationMismatch
  | bindingMismatch
  | duplicate
  | notActive
  | mismatch (activeOperationId : String)
  | resultRequired
  | ready (acceptedAt : Instant)
  | duplicateReady (acceptedAt : Instant)
  -- cancellation, control evidence and outcomes
  | acceptedCancellation (intent : ExecutionAttemptCancellationIntent)
  | replayedCancellation (intent : ExecutionAttemptCancellationIntent)
  | cancellationRecorded
  | acceptedEvidence
  | cancelMismatch
  | acceptedOutcome (outcome : O) (text : String)
      (controlObservation : AttemptOutcomeControlObservation)
  | duplicateOutcome (outcome : O) (text : String)
      (controlObservation : Option AttemptOutcomeControlObservation)
  | abandoned
  | alreadyAbandoned
  | alreadySettled
  | alreadyAllocated
  | provisioning
  deriving DecidableEq

/-- What the operations throw. -/
inductive AttemptError
  /-- "Expected an ISO-8601 timestamp, received '…'" -/
  | invalidTimestamp (timestamp : String)
  /-- "bootstrapTimeoutMs must be a positive safe integer" -/
  | invalidBootstrapTimeout
  /-- "bootstrapTimeoutMs produces an unrepresentable bootstrap deadline" -/
  | unrepresentableDeadline
  /-- "Execution attempt '…' already exists" -/
  | duplicateExecutionAttempt (executionAttemptId : String)
  /-- "… must be a non-empty string" -/
  | emptyIdentity (name : String)
  /-- "Corrupt execution attempt request binding" -/
  | corruptRequestBinding
  /-- "Corrupt execution attempt settlement identity" -/
  | corruptSettlementIdentity
  /-- "Corrupt execution attempt settlement facts" -/
  | corruptSettlementFacts
  /-- "Allocation reference for attempt '…' names provider '…' but the attempt is bound to '…'" -/
  | foreignAllocationRef (executionAttemptId refProviderId : String) (providerId : Option String)
  /-- "Allocation reference evolution must keep one provider, received '…' and '…'" -/
  | movedAllocationRef (currentProviderId nextProviderId : String)
  /-- The receipt schema rejects the extended history. -/
  | invalidPreparationReceipts
  /-- "Conflicting generated cancellation request key" -/
  | conflictingCancellationKey
  /-- "Runtime outcome no longer matches the current generation and operation" -/
  | runtimeOutcomeFenceMismatch
  /-- The text is not JSON, or not JSON the codec accepts. -/
  | undecodableOutcome (text : String)
  /-- "Attempt '…' was selected as recoverable but is not: …" -/
  | notRecoverable (record : ExecutionAttemptRecord)
  deriving DecidableEq

/-- An operation answers a decision or throws. -/
abbrev Answer (O : Type) := Except AttemptError (Decision O)

/-- The owner's codec: what decoding a durable text yields, and the canonical form of the JSON value the
text denotes; none where the source throws. -/
structure OutcomeCodec (O : Type) where
  /-- `codec.parse(JSON.parse(text))` -/
  decode : String → Option O
  /-- `canonicalStringify(JSON.parse(text))` -/
  canonical : String → Option String

end Makaio.Attempts
