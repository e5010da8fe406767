import Makaio.Attempts.Record

set_option autoImplicit false

/-!
# Decisions about execution attempts

The pure evaluators that every realization of the attempt port shares (`execution-attempt-decisions.ts`,
`execution-attempt-cancellation.ts`, `execution-attempt-owner-recovery.ts`,
`attempt-control-evidence.ts`) and the value handling of `testing/attempt-record-codec.ts`.  An evaluator
answers a decision that writes nothing, or nothing at all: then the repository makes its write.

## Main definitions

* `evaluateAttemptReachability`, `evaluateRuntimeRegistration`,
  `evaluateOperationAdmission`, `evaluatePreparationReport`,
  `evaluateOperationCompletion`, `evaluateRuntimeReadiness` — runtime and
  operation control.
* `evaluateAttemptCancellation` — the first request wins.
* `readAttemptSettlementSnapshot` — the settlement facts, or a corruption.
-/

namespace Makaio.Attempts

open Foundations

section Values

/-- Parse an ISO-8601 timestamp into the epoch instant it denotes. -/
def instantOf (timestamp : Timestamp) : Except AttemptError Instant :=
  match timestamp.instant with
  | none => .error (.invalidTimestamp timestamp.text)
  | some parsed => .ok parsed

/-- `Number.MAX_SAFE_INTEGER` -/
def maxSafeInteger : ℤ := 2 ^ 53 - 1

/-- The last instant that a `Date` represents. -/
def maxDate : ℤ := 8640000000000000

/-- Freeze creation time and bootstrap deadline from one clock observation. -/
def createAttemptTiming (now : Instant) (bootstrapTimeoutMs : ℤ) :
    Except AttemptError (Instant × Instant) :=
  if bootstrapTimeoutMs ≤ 0 ∨ maxSafeInteger < bootstrapTimeoutMs then .error .invalidBootstrapTimeout
  else if maxSafeInteger < now + bootstrapTimeoutMs ∨ maxDate < now + bootstrapTimeoutMs then
    .error .unrepresentableDeadline
  else .ok (now, now + bootstrapTimeoutMs)

/-- Require a non-empty identity. -/
def requireIdentity (value name : String) : Except AttemptError Unit :=
  if value = "" then .error (.emptyIdentity name) else .ok ()

/-- Require an allocation reference to name the attempt's own provider. -/
def requireAllocationRefProvider (attempt : ExecutionAttemptRecord)
    (allocationRef : ProviderAllocationRef) : Except AttemptError Unit :=
  if attempt.providerId = some allocationRef.providerId then .ok ()
  else .error (.foreignAllocationRef attempt.executionAttemptId allocationRef.providerId
    attempt.providerId)

/-- The receipt schema: a non-empty operation id and a positive generation. -/
def parsePreparationReceipts (receipts : List PreparationReceipt) :
    Except AttemptError (List PreparationReceipt) :=
  if receipts.all fun receipt => receipt.operationId ≠ "" && 0 < receipt.runtimeGeneration then
    .ok receipts
  else .error .invalidPreparationReceipts

/-- Order two attempt-backed recovery records: oldest first, ties by identifier. -/
def recoveryOrder (left right : ExecutionAttemptRecord) : Bool :=
  if left.createdAt = right.createdAt then left.executionAttemptId ≤ right.executionAttemptId
  else left.createdAt < right.createdAt

/-- Narrow an attempt a recovery query selected onto the recoverable record. -/
def toRecoverableAttempt (record : ExecutionAttemptRecord) :
    Except AttemptError ExecutionAttemptRecord :=
  if record.status ≠ .allocated ∨ record.claimable = false ∨ record.settlementKind ≠ none ∨
      record.allocationRef = none ∨ record.providerId = none ∨ record.allocationLifetime = none ∨
      record.provisionerIncarnationId = none then
    .error (.notRecoverable record)
  else .ok record

end Values

/-! ### Runtime and operation control -/

section Control

variable {O : Type}

/-- Facts read coherently by a realization before decoding runtime control state. -/
structure AttemptReachability where
  matchesExecution : Bool
  settled : Bool
  active : Bool
  allocated : Bool

/-- Evaluate the common reachability precedence. -/
def evaluateAttemptReachability (facts : AttemptReachability) : Option (Decision O) :=
  if !facts.matchesExecution then some .notFound
  else if facts.settled then some .resolved
  else if !facts.active then some .fenced
  else if !facts.allocated then some .notAllocated
  else none

variable (control : AttemptControlState)

/-- Require a fresh runtime outcome to belong to the coherently read execution slot. -/
def assertRuntimeOutcomeFence (fence : Option RuntimeOutcomeFence) :
    Except AttemptError Unit :=
  match fence with
  | none => .ok ()
  | some fence =>
    if control.runtimeGeneration ≠ fence.runtimeGeneration ∨
        control.activeOperationId ≠ fence.operationId ∨
        (fence.operationId ≠ none ∧
          control.activeOperationGeneration ≠ some fence.runtimeGeneration) then
      .error .runtimeOutcomeFenceMismatch
    else .ok ()

/-- Evaluate process-loss applicability after evidence parsing and claim authorization. -/
def evaluateProvisionerIncarnationLoss (attempt : ExecutionAttemptRecord)
    (input : RecordProvisionerIncarnationLostInput) : Option (Decision O) :=
  if attempt.executionId ≠ input.executionId then some .notFound
  else if attempt.allocationLifetime ≠ some .provisionerProcessBound then
    some (.notProcessBound attempt.allocationLifetime)
  else if attempt.provisionerIncarnationId ≠ some input.provisionerIncarnationId then
    some (.incarnationMismatch attempt.provisionerIncarnationId)
  else match attempt.allocationRef with
    | some allocationRef => some (.allocated allocationRef)
    | none => none

/-- Evaluate registration after reachability, preserving replay before busy refusal. -/
def evaluateRuntimeRegistration (input : RegisterRuntimeInput) :
    Option (Decision O) :=
  if control.runtimeIncarnationId = some input.runtimeIncarnationId then
    some (.duplicateRegistration control.runtimeGeneration control.runtimeReadyAt)
  else match control.activeOperationId with
    | some operationId =>
      if control.activeOperationKind ≠ some .runtimeProbe then some (.operationActive operationId)
      else none
    | none => none

/-- Whether a receipt of the current runtime generation is held. -/
def prepared (execution : AttemptExecutionState) : Bool :=
  execution.preparationReceipts.any fun receipt =>
    receipt.runtimeGeneration = control.runtimeGeneration

/-- Evaluate admission after reachability: replay, busy, gate, readiness, generation, then
Preparation. -/
def evaluateOperationAdmission (input : AdmitOperationInput)
    (fallbackAdmittedAt : Instant) (execution : AttemptExecutionState) : Option (Decision O) :=
  match control.activeOperationId with
  | some operationId =>
    if control.activeOperationKey = some input.admissionKey then
      some (.duplicateAdmission operationId
        (control.activeOperationGeneration.getD control.runtimeGeneration)
        (control.activeOperationAdmittedAt.getD fallbackAdmittedAt))
    else some (.operationActive operationId)
  | none =>
    if control.operationStartGate = .closed then some .gateClosed
    else if input.operationKind ≠ .runtimeProbe ∧ control.runtimeReadyAt = none then some .notReady
    else if control.runtimeGeneration ≠ input.runtimeGeneration then
      some (.staleAdmission control.runtimeGeneration)
    else if input.operationKind = .workspacePreparation ∧ execution.instruction.workspace = none then
      some .preparationNotRequired
    else if input.operationKind = .workspacePreparation ∧ prepared control execution then
      some .preparationAlreadyCompleted
    else if (input.operationKind = .workloadInvocation ∨ input.operationKind = .workflowRun) ∧
        execution.instruction.workspace ≠ none ∧ !prepared control execution then
      some .preparationRequired
    else none

/-- Evaluate successful Preparation, retaining historical replay before current-runtime fences.  The two
sorted lists of root ids agree exactly when one is a permutation of the other. -/
def evaluatePreparationReport (reachability : AttemptReachability) (control : AttemptControlState)
    (execution : AttemptExecutionState) (input : ReportOperationInput) : Option (Decision O) :=
  if !reachability.matchesExecution then some .notFound
  else match execution.preparationReceipts.find? fun receipt =>
      receipt.operationId = input.operationId with
    | some previous =>
      if previous.runtimeGeneration = input.runtimeGeneration ∧ previous.result = input.result then
        some (.duplicateReport previous.result.binding)
      else some .conflict
    | none =>
      match evaluateAttemptReachability reachability with
      | some unreachable => some unreachable
      | none =>
        if control.runtimeGeneration ≠ input.runtimeGeneration then some .staleGeneration
        else if control.activeOperationId = none then some .noActiveOperation
        else if control.activeOperationId ≠ some input.operationId ∨
            control.activeOperationKind ≠ some .workspacePreparation then some .operationMismatch
        else if control.activeOperationGeneration ≠ some input.runtimeGeneration then
          some .staleGeneration
        else match execution.instruction.workspace with
          | none => some .preparationNotRequired
          | some workspace =>
            let requestedIds := workspace.sourceRoots.map SourceRoot.id
            let reportedIds := input.result.binding.sourceRoots.map BoundSourceRoot.id
            if requestedIds.isPerm reportedIds then none else some .bindingMismatch

/-- Evaluate completion after presence and settlement checks, without owner or allocation fences. -/
def evaluateOperationCompletion (input : CompleteOperationInput) :
    Option (Decision O) :=
  if control.lastCompletedOperationId = some input.operationId then some .duplicate
  else match control.activeOperationId with
    | none => some .notActive
    | some activeOperationId =>
      if activeOperationId ≠ input.operationId then some (.mismatch activeOperationId)
      else if control.activeOperationGeneration ≠ some input.runtimeGeneration then
        some .staleGeneration
      else if control.activeOperationKind = some .workspacePreparation ∨
          control.activeOperationKind = some .workloadInvocation then some .resultRequired
      else none

/-- Evaluate readiness after reachability: generation fence, replay, then busy refusal. -/
def evaluateRuntimeReadiness (input : MarkRuntimeReadyInput) :
    Option (Decision O) :=
  if control.runtimeGeneration ≠ input.runtimeGeneration then some .staleGeneration
  else match control.runtimeReadyAt with
    | some acceptedAt => some (.duplicateReady acceptedAt)
    | none =>
      match control.activeOperationId with
      | some operationId => some (.operationActive operationId)
      | none => none

end Control

/-! ### Cancellation and control evidence -/

section Cancellation

variable {O : Type}

/-- What `evaluateAttemptCancellation` decides. -/
inductive CancellationEvaluation
  | conflict
  | replayed (intent : ExecutionAttemptCancellationIntent)
  | accepted (intent : ExecutionAttemptCancellationIntent)

/-- Decide winning-request semantics after the store has established exact owner membership. -/
def evaluateAttemptCancellation (stored : Option ExecutionAttemptCancellationIntent)
    (requestKey : String) (reason : Option String) (requestedAt : Instant) : CancellationEvaluation :=
  match stored with
  | some stored =>
    if stored.requestKey = requestKey ∧ stored.reason ≠ reason then .conflict else .replayed stored
  | none => .accepted ⟨requestKey, 1, requestedAt, reason⟩

/-- Capture accepted control facts alongside a fresh canonical outcome. -/
def snapshotAttemptOutcomeControl (cancellation : Option ExecutionAttemptCancellationIntent) :
    AttemptOutcomeControlObservation :=
  ⟨(cancellation.map fun intent => intent.controlRevision).getD 0, cancellation⟩

variable (attempt : ExecutionAttemptRecord)

/-- Check accepted-request and current runtime identity. -/
def evaluateControlCorrelation (cancellation : Option ExecutionAttemptCancellationIntent)
    (input : ExecutionAttemptControlCorrelation) : Option (Decision O) :=
  if (cancellation.map fun intent => (intent.controlRevision, intent.requestKey)) ≠
      some (input.controlRevision, input.requestKey) then some .cancelMismatch
  else if attempt.runtimeGeneration ≠ input.runtimeGeneration ∨
      attempt.runtimeIncarnationId ≠ some input.runtimeIncarnationId then some .staleGeneration
  else none

/-- Accept a genuine receipt independently of operation occupancy and final reports. -/
def evaluateAttemptControlReceipt (attempt : Option ExecutionAttemptRecord)
    (cancellation : Option ExecutionAttemptCancellationIntent)
    (stored : Option ExecutionAttemptControlReceipt) (executionId : String)
    (input : ExecutionAttemptControlReceipt) : Decision O :=
  match attempt with
  | none => .notFound
  | some attempt =>
    if attempt.executionId ≠ executionId then .notFound
    else match stored with
      | some stored => if stored = input then .duplicate else .conflict
      | none =>
        (evaluateControlCorrelation attempt cancellation
          input.toExecutionAttemptControlCorrelation).getD .acceptedEvidence

/-- Correlate the explicitly claimed boundary with admitted or completed Preparation facts. -/
def matchesControlOperation (input : ExecutionAttemptControlReport) : Bool :=
  match input.boundary with
  | .admissionClosed =>
    input.operationId = none && attempt.operationStartGate = .closed &&
      (attempt.activeOperationId = none || attempt.activeOperationKind = some .runtimeProbe)
  | .setupProcessGroup =>
    match input.operationId with
    | none => false
    | some operationId =>
      (attempt.activeOperationId = some operationId &&
        attempt.activeOperationGeneration = some input.runtimeGeneration &&
        attempt.activeOperationKind = some .workspacePreparation) ||
      attempt.preparationReceipts.any fun receipt =>
        receipt.operationId = operationId && receipt.runtimeGeneration = input.runtimeGeneration
  | .workload =>
    match input.operationId with
    | none => false
    | some operationId =>
      attempt.activeOperationId = some operationId &&
        attempt.activeOperationGeneration = some input.runtimeGeneration &&
        (attempt.activeOperationKind = some .workloadInvocation ||
          attempt.activeOperationKind = some .workflowRun)

/-- Accept one final report, including negative findings and first reports after settlement. -/
def evaluateAttemptControlReport (attempt : Option ExecutionAttemptRecord)
    (cancellation : Option ExecutionAttemptCancellationIntent)
    (stored : Option ExecutionAttemptControlReport) (executionId : String)
    (input : ExecutionAttemptControlReport) : Decision O :=
  match attempt with
  | none => .notFound
  | some attempt =>
    if attempt.executionId ≠ executionId then .notFound
    else match stored with
      | some stored => if stored = input then .duplicate else .conflict
      | none =>
        match evaluateControlCorrelation attempt cancellation
            input.toExecutionAttemptControlCorrelation with
        | some refusal => refusal
        | none => if matchesControlOperation attempt input then .acceptedEvidence
          else .operationMismatch

end Cancellation

/-! ### Owner recovery -/

section Recovery

variable {O : Type}

/-- Decide an existing request binding without changing its historical attempt. -/
def replayEnsuredAttempt (input : EnsureExecutionAttemptPersistenceInput)
    (boundAttempt : Option ExecutionAttemptRecord) : Answer O :=
  match boundAttempt with
  | none => .error .corruptRequestBinding
  | some boundAttempt =>
    if boundAttempt.executionId ≠ input.executionId then .error .corruptRequestBinding
    else if boundAttempt.instruction ≠ input.instruction then .ok .conflict
    else .ok (.replayed boundAttempt)

/-- Coherent settlement evidence. -/
inductive AttemptSettlementRead (O : Type)
  | notFound
  | unsettled (attempt : ExecutionAttemptRecord) (isCurrentAttempt : Bool)
  | settledWithoutOutcome (attempt : ExecutionAttemptRecord) (isCurrentAttempt : Bool)
  | outcome (attempt : ExecutionAttemptRecord) (isCurrentAttempt : Bool) (text : String) (outcome : O)
      (controlObservation : Option AttemptOutcomeControlObservation)

/-- Interpret settlement facts without hiding corruption or reserializing committed text. -/
def readAttemptSettlementSnapshot (codec : OutcomeCodec O) (input : OwnedAttempt)
    (attempt : Option ExecutionAttemptRecord) (activeAttemptId outcomeText : Option String)
    (controlObservation : Option AttemptOutcomeControlObservation) :
    Except AttemptError (AttemptSettlementRead O) :=
  match attempt with
  | none => .ok .notFound
  | some attempt =>
    if attempt.executionId ≠ input.executionId then .ok .notFound
    else if attempt.executionAttemptId ≠ input.executionAttemptId then
      .error .corruptSettlementIdentity
    else
      let isCurrentAttempt : Bool := activeAttemptId = some attempt.executionAttemptId
      match attempt.status, attempt.settlementKind, outcomeText with
      | .settled, some .outcome, some text =>
        match codec.decode text with
        | none => .error (.undecodableOutcome text)
        | some outcome => .ok (.outcome attempt isCurrentAttempt text outcome controlObservation)
      | .settled, some .abandoned, none => .ok (.settledWithoutOutcome attempt isCurrentAttempt)
      | .settled, some .infrastructureFailure, none =>
        .ok (.settledWithoutOutcome attempt isCurrentAttempt)
      | .settled, _, _ => .error .corruptSettlementFacts
      | _, none, none => .ok (.unsettled attempt isCurrentAttempt)
      | _, _, _ => .error .corruptSettlementFacts

end Recovery

end Makaio.Attempts
