import Makaio.Attempts.Decisions

set_option autoImplicit false

/-!
# The in-memory attempt repository

The reference realization of the execution attempt port
(`testing/in-memory-attempt-repository.ts`).  Each operation reads the maps, evaluates its guards and
writes in one synchronous block, so an operation is a function of the store: it yields the new store and
an answer, a decision or an error.  Two operations can throw after a write, and the model keeps that
write: `beginProvisioning` with an unparsable lease, and `commitOutcome` with an undecodable text.

Values the host draws are arguments: the clock, the claim tokens, the operation ids and the request key of
an owner-wide cancellation.

## Main definitions

* `authorize` — a claim against the durable operation record.
* `insertAttempt` — creation, which fences the predecessor.
* `Action`, `execute` — all operations that write.
* `run` — a sequence of operations.
-/

namespace Makaio.Attempts

open Foundations

/-! ### The maps -/

/-- `attempts.set(id, record)` -/
def Store.setAttempt (s : Store) (id : String) (record : ExecutionAttemptRecord) : Store :=
  { s with attempts := s.attempts.set id record }

/-- `operations.set(id, record)` -/
def Store.setOperation (s : Store) (id : String) (record : ProviderOperationOwnershipRecord) : Store :=
  { s with operations := s.operations.set id record }

section Operations

variable {O : Type}

/-- Settle an attempt, closing its start gate in the same write. -/
def settleAttempt (attempt : ExecutionAttemptRecord) (settlementKind : SettlementKind) :
    ExecutionAttemptRecord :=
  { attempt with
    status := .settled, settlementKind := some settlementKind, claimable := false,
    operationStartGate := .closed }

variable (s : Store)
variable (executionAttemptId : String)

/-- Whether the attempt's allocation is durably confirmed to have ended. -/
def allocationTerminated : Bool :=
  (s.operations.get? executionAttemptId).any fun operation =>
    operation.obligation = .terminalConvergence

variable (executionId : String)

/-- Whether the attempt is the active one of its execution. -/
def isActive (executionAttemptId : String) : Bool :=
  s.activeAttempts.get? executionId = some executionAttemptId

/-- Read runtime reachability without touching the control-state decoder. -/
def runtimeReachability (attempt : ExecutionAttemptRecord) : Option (Decision O) :=
  let settled := attempt.settlementKind.isSome
  let active := !settled && isActive s attempt.executionId attempt.executionAttemptId
  evaluateAttemptReachability ⟨true, settled, active,
    active && attempt.allocationRef.isSome && !allocationTerminated s attempt.executionAttemptId⟩

/-! ### Claims -/

/-- Result of authorizing a claim against durable operation state. -/
inductive ClaimAuthorization
  | authorized (attempt : ExecutionAttemptRecord) (operation : ProviderOperationOwnershipRecord)
  | stale (attempt : ExecutionAttemptRecord)
  | resolved (attempt : ExecutionAttemptRecord)
  | notFound

variable (operation : ProviderOperationOwnershipRecord)

/-- The stored claim is the one presented. -/
def matchesClaim (claim : ProviderOperationClaim) :
    Bool :=
  operation.token = some claim.token && operation.generation = claim.generation &&
    operation.ownerId = some claim.ownerId

variable (claim : ProviderOperationClaim)

/-- Authorize a claim against the durable operation record. -/
def authorize : ClaimAuthorization :=
  match s.attempts.get? claim.executionAttemptId, s.operations.get? claim.executionAttemptId with
  | some attempt, some operation =>
    if isProviderOperationResolved attempt operation then .resolved attempt
    else if matchesClaim operation claim then .authorized attempt operation
    else .stale attempt
  | _, _ => .notFound

/-- Persist the first positive provider-completion evidence. -/
def recordProviderCompletionEvidence (evidence : BoundedRecoveryEvidence) : Store :=
  if operation.completionEvidence.isSome then s
  else s.setOperation operation.executionAttemptId
    { operation with completionEvidence := some evidence }

/-! ### Creation -/

variable (input : ExecutionAttemptCreate)

/-- The record of a fresh attempt. -/
def newRecord (createdAt bootstrapDeadlineAt : Instant) :
    ExecutionAttemptRecord where
  toAttemptControlState := .initial
  instruction := input.instruction
  preparationReceipts := []
  executionAttemptId := input.executionAttemptId
  executionId := input.executionId
  status := .pending
  allocationRef := none
  createdAt := createdAt
  bootstrapDeadlineAt := some bootstrapDeadlineAt
  providerId := none
  allocationLifetime := none
  provisionerIncarnationId := none
  settlementKind := none
  claimable := false
  claimExpiresAt := none

/-- Withdraw claims from the active attempt of an execution and close its start gate. -/
def supersede : Store :=
  match (s.activeAttempts.get? executionId).bind fun id => s.attempts.get? id with
  | none => s
  | some activeAttempt => s.setAttempt activeAttempt.executionAttemptId
    { activeAttempt with
      claimable := if activeAttempt.status = .allocated then false else activeAttempt.claimable
      operationStartGate := .closed }

/-- Insert a fresh attempt and fence its predecessor in one synchronous mutation. -/
def insertAttempt (now : Instant) :
    Except AttemptError (Store × ExecutionAttemptRecord) :=
  match createAttemptTiming now input.bootstrapTimeoutMs with
  | .error e => .error e
  | .ok (createdAt, bootstrapDeadlineAt) =>
    if s.attempts.has input.executionAttemptId then
      .error (.duplicateExecutionAttempt input.executionAttemptId)
    else
      let record := newRecord input createdAt bootstrapDeadlineAt
      let s := (supersede s input.executionId).setAttempt input.executionAttemptId record
      .ok ({ s with
        activeAttempts := s.activeAttempts.set input.executionId input.executionAttemptId }, record)

def createAttempt (now : Instant) : Store × Answer O :=
  match insertAttempt s input now with
  | .error e => (s, .error e)
  | .ok (s', record) => (s', .ok (.created record))

/-- Validate an owner's demand and its first-acceptance parameters. -/
def snapshotEnsureExecutionAttemptPersistenceInput (input : EnsureExecutionAttemptPersistenceInput) :
    Except AttemptError Unit := do
  requireIdentity input.executionAttemptId "executionAttemptId"
  if input.bootstrapTimeoutMs ≤ 0 ∨ maxSafeInteger < input.bootstrapTimeoutMs then
    throw .invalidBootstrapTimeout
  requireIdentity input.executionId "executionId"
  requireIdentity input.requestKey "requestKey"

/-- `requestBindings.get(executionId)?.get(requestKey)` -/
def boundAttemptId (requestKey : String) : Option String :=
  (s.requestBindings.get? executionId).bind fun bindings => bindings.get? requestKey

def ensureAttempt (input : EnsureExecutionAttemptPersistenceInput) (now : Instant) :
    Store × Answer O :=
  match snapshotEnsureExecutionAttemptPersistenceInput input with
  | .error e => (s, .error e)
  | .ok _ =>
    match boundAttemptId s input.executionId input.requestKey with
    | some bound => (s, replayEnsuredAttempt input (s.attempts.get? bound))
    | none =>
      match insertAttempt s input.toExecutionAttemptCreate now with
      | .error e => (s, .error e)
      | .ok (s', attempt) =>
        let bindings := (s.requestBindings.get? input.executionId).getD .empty
        ({ s' with
          requestBindings := s'.requestBindings.set input.executionId
            (bindings.set input.requestKey attempt.executionAttemptId) }, .ok (.created attempt))

/-! ### The provider operation -/

/-- `beginProvisioning`.  The attempt is written before the lease is parsed. -/
def beginProvisioning (input : BeginProvisioningInput) (token : String) :
    Store × Answer O :=
  match s.attempts.get? input.executionAttemptId with
  | none => (s, .ok .notFound)
  | some attempt =>
    if attempt.executionId ≠ input.executionId then (s, .ok .notFound)
    else if !isActive s input.executionId input.executionAttemptId then (s, .ok .fenced)
    else if attempt.settlementKind.isSome then (s, .ok (.resolvedAllocation attempt.allocationRef))
    else match attempt.allocationRef with
      | some allocationRef => (s, .ok (.allocated allocationRef))
      | none =>
        if attempt.operationStartGate = .closed then (s, .ok .fenced)
        else if attempt.status ≠ .pending then (s, .ok .alreadyProvisioning)
        else
          let s := s.setAttempt input.executionAttemptId
            { attempt with
              status := .provisioning
              providerId := some input.providerId
              allocationLifetime := some input.allocationLifetime
              provisionerIncarnationId := some input.provisionerIncarnationId }
          match instantOf input.leaseExpiresAt with
          | .error e => (s, .error e)
          | .ok leaseExpiresAt =>
            (s.setOperation input.executionAttemptId
              { executionAttemptId := input.executionAttemptId
                generation := 1
                ownerId := some input.ownerId
                token := some token
                leaseExpiresAt := some leaseExpiresAt
                obligation := .provisioningResolution
                failureCount := 0
                lastFailure := none
                completionEvidence := none },
              .ok (.started ⟨input.executionAttemptId, 1, input.ownerId, token, leaseExpiresAt⟩))

def renewProviderOperationClaim (leaseExpiresAt : Timestamp) : Store × Answer O :=
  match authorize s claim with
  | .notFound => (s, .ok .notFound)
  | .resolved _ => (s, .ok .resolved)
  | .stale _ => (s, .ok .stale)
  | .authorized _ operation =>
    match instantOf leaseExpiresAt with
    | .error e => (s, .error e)
    | .ok leaseExpiresAt =>
      (s.setOperation claim.executionAttemptId
        { operation with leaseExpiresAt := some leaseExpiresAt },
        .ok (.claimed { claim with leaseExpiresAt := leaseExpiresAt }))

/-- Whether the operation is owned under a lease that has not expired at the observation. -/
def held (observedAt : Timestamp) :
    Except AttemptError Bool :=
  match operation.ownerId, operation.leaseExpiresAt with
  | some _, some leaseExpiresAt =>
    match instantOf observedAt with
    | .error e => .error e
    | .ok observedAt => .ok (leaseExpiresAt > observedAt)
  | _, _ => .ok false

def takeOverProviderOperation (input : TakeOverProviderOperationInput) (token : String) :
    Store × Answer O :=
  match s.attempts.get? input.executionAttemptId, s.operations.get? input.executionAttemptId with
  | some attempt, some operation =>
    if isProviderOperationResolved attempt operation then (s, .ok .resolved)
    else match held operation input.observedAt with
      | .error e => (s, .error e)
      | .ok true => (s, .ok .stale)
      | .ok false =>
        match instantOf input.leaseExpiresAt with
        | .error e => (s, .error e)
        | .ok leaseExpiresAt =>
          (s.setOperation input.executionAttemptId
            { operation with
              generation := operation.generation + 1
              ownerId := some input.ownerId
              token := some token
              leaseExpiresAt := some leaseExpiresAt },
            .ok (.claimed ⟨input.executionAttemptId, operation.generation + 1, input.ownerId, token,
              leaseExpiresAt⟩))
  | _, _ => (s, .ok .notFound)

def handoffProviderOperation (evidence : Option BoundedRecoveryEvidence) : Store × Answer O :=
  match authorize s claim with
  | .notFound => (s, .ok .notFound)
  | .resolved _ => (s, .ok .resolved)
  | .stale _ => (s, .ok .stale)
  | .authorized _ operation =>
    (s.setOperation claim.executionAttemptId
      { operation with
        ownerId := none
        token := none
        leaseExpiresAt := none
        lastFailure := evidence.or operation.lastFailure }, .ok .recorded)

def recordProviderOperationUncertainty (evidence : BoundedRecoveryEvidence) : Store × Answer O :=
  match authorize s claim with
  | .notFound => (s, .ok .notFound)
  | .resolved _ => (s, .ok .resolved)
  | .stale _ => (s, .ok .stale)
  | .authorized _ operation =>
    (s.setOperation claim.executionAttemptId
      { operation with failureCount := operation.failureCount + 1, lastFailure := some evidence },
      .ok .recorded)

def completeProviderOperation (evidence : BoundedRecoveryEvidence) : Store × Answer O :=
  match s.attempts.get? claim.executionAttemptId, s.operations.get? claim.executionAttemptId with
  | some attempt, some operation =>
    if !matchesClaim operation claim then (s, .ok .stale)
    else if isProviderOperationResolved attempt operation then (s, .ok .alreadyCompleted)
    else if operation.completionEvidence.isSome then (s, .ok .evidenceRecorded)
    else (recordProviderCompletionEvidence s operation evidence,
      .ok (if attempt.settlementKind = none then .evidenceRecorded else .completed))
  | _, _ => (s, .ok .notFound)

/-- `applyAllocation`: initial provisioning and discovery differ only in whether the attempt may become
bootstrap-claimable. -/
def applyAllocation (input : RecordAllocationInput) (bootstrapClaimable : Bool) :
    Store × Answer O :=
  match authorize s input.claim with
  | .notFound => (s, .ok .notFound)
  | .resolved attempt =>
    match requireAllocationRefProvider attempt input.allocationRef with
    | .error e => (s, .error e)
    | .ok _ => (s, .ok (.resolvedAllocation attempt.allocationRef))
  | .stale attempt =>
    match requireAllocationRefProvider attempt input.allocationRef with
    | .error e => (s, .error e)
    | .ok _ => (s, .ok .stale)
  | .authorized attempt operation =>
    match requireAllocationRefProvider attempt input.allocationRef with
    | .error e => (s, .error e)
    | .ok _ =>
      match attempt.allocationRef with
      | some stored =>
        (s, .ok (if sameAllocationRef stored input.allocationRef then .duplicateAllocation stored
          else .conflictingAllocation stored))
      | none =>
        let isActiveAttempt := isActive s attempt.executionId attempt.executionAttemptId
        ((s.setAttempt attempt.executionAttemptId
          { attempt with
            status := if attempt.settlementKind = none then .allocated else attempt.status
            allocationRef := some input.allocationRef
            claimable := attempt.settlementKind.isNone && bootstrapClaimable && isActiveAttempt
          }).setOperation operation.executionAttemptId
            { operation with obligation := .allocationControl }, .ok .recorded)

def recordAllocation (input : RecordAllocationInput) : Store × Answer O :=
  applyAllocation s input true

def recordDiscoveredAllocation (input : RecordAllocationInput) : Store × Answer O :=
  applyAllocation s input false

def evolveAllocationRef (input : AllocationRefEvolution) : Store × Answer O :=
  if input.currentRef.providerId ≠ input.nextRef.providerId then
    (s, .error (.movedAllocationRef input.currentRef.providerId input.nextRef.providerId))
  else match authorize s input.claim with
    | .notFound => (s, .ok .notFound)
    | .resolved _ => (s, .ok .resolved)
    | .stale attempt => (s, .ok (.staleRef attempt.allocationRef))
    | .authorized attempt _ =>
      if attempt.executionId ≠ input.executionId then (s, .ok .notFound)
      else match attempt.allocationRef with
        | none => (s, .ok .notAllocated)
        | some stored =>
          if !sameAllocationRef stored input.currentRef then (s, .ok (.staleRef (some stored)))
          else (s.setAttempt attempt.executionAttemptId
            { attempt with allocationRef := some input.nextRef }, .ok .evolved)

/-- Settle an unsettled attempt as abandoned and record the evidence; of a settled one, record the
evidence. -/
def closeWithoutAllocation (attempt : ExecutionAttemptRecord)
    (operation : ProviderOperationOwnershipRecord) (evidence : BoundedRecoveryEvidence) :
    Store × Answer O :=
  if attempt.settlementKind = none then
    (recordProviderCompletionEvidence
      (s.setAttempt attempt.executionAttemptId (settleAttempt attempt .abandoned)) operation evidence,
      .ok .recorded)
  else (recordProviderCompletionEvidence s operation evidence, .ok .completed)

def recordProvisioningAbsent (input : RecordProvisioningAbsentInput) : Store × Answer O :=
  match authorize s input.claim with
  | .notFound => (s, .ok .notFound)
  | .resolved _ => (s, .ok .resolved)
  | .stale _ => (s, .ok .stale)
  | .authorized attempt operation =>
    if attempt.executionId ≠ input.executionId then (s, .ok .notFound)
    else match attempt.allocationRef with
      | some allocationRef => (s, .ok (.allocated allocationRef))
      | none => closeWithoutAllocation s attempt operation input.evidence

def recordProvisionerIncarnationLost (input : RecordProvisionerIncarnationLostInput) :
    Store × Answer O :=
  match authorize s input.claim with
  | .notFound => (s, .ok .notFound)
  | .resolved _ => (s, .ok .resolved)
  | .stale _ => (s, .ok .stale)
  | .authorized attempt operation =>
    match evaluateProvisionerIncarnationLoss attempt input with
    | some refusal => (s, .ok refusal)
    | none => closeWithoutAllocation s attempt operation input.evidence

def recordAllocationTerminated (evidence : BoundedRecoveryEvidence) : Store × Answer O :=
  match authorize s claim with
  | .notFound => (s, .ok .notFound)
  | .resolved _ => (s, .ok .resolved)
  | .stale _ => (s, .ok .stale)
  | .authorized attempt operation =>
    if attempt.allocationRef = none then (s, .ok .notAllocated)
    else (s.setOperation operation.executionAttemptId
      { operation with obligation := .terminalConvergence, lastFailure := some evidence },
      .ok .recorded)

def recordInfrastructureFailure (executionId : String) :
    Store × Answer O :=
  match authorize s claim with
  | .notFound => (s, .ok .notFound)
  | .resolved _ => (s, .ok .resolved)
  | .stale _ => (s, .ok .stale)
  | .authorized attempt operation =>
    if attempt.executionId ≠ executionId then (s, .ok .notFound)
    else if attempt.settlementKind ≠ none then (s, .ok .resolved)
    else if attempt.allocationRef = none then (s, .ok .notAllocated)
    else if operation.obligation ≠ .terminalConvergence then (s, .ok .notTerminated)
    else (s.setAttempt attempt.executionAttemptId (settleAttempt attempt .infrastructureFailure),
      .ok .recorded)

/-! ### Runtime and operation control -/

/-- The five active-operation members cleared in one write. -/
def clearOperation (attempt : ExecutionAttemptRecord) : ExecutionAttemptRecord :=
  { attempt with
    activeOperationId := none
    activeOperationKind := none
    activeOperationKey := none
    activeOperationGeneration := none
    activeOperationAdmittedAt := none }

def registerRuntime (input : RegisterRuntimeInput) : Store × Answer O :=
  match s.attempts.get? input.executionAttemptId with
  | none => (s, .ok .notFound)
  | some attempt =>
    if attempt.executionId ≠ input.executionId then (s, .ok .notFound)
    else match (runtimeReachability s attempt).or
        (evaluateRuntimeRegistration attempt.toAttemptControlState input) with
      | some refusal => (s, .ok refusal)
      | none =>
        -- an orphaned probe is cleared in the same write
        (s.setAttempt attempt.executionAttemptId
          { clearOperation attempt with
            runtimeGeneration := attempt.runtimeGeneration + 1
            runtimeIncarnationId := some input.runtimeIncarnationId
            runtimeReadyAt := none }, .ok (.registered (attempt.runtimeGeneration + 1)))

def admitOperation (input : AdmitOperationInput) (operationId : String) (now : Instant) :
    Store × Answer O :=
  match s.attempts.get? input.executionAttemptId with
  | none => (s, .ok .notFound)
  | some attempt =>
    if attempt.executionId ≠ input.executionId then (s, .ok .notFound)
    else match (runtimeReachability s attempt).or
        (evaluateOperationAdmission attempt.toAttemptControlState input now
          attempt.toAttemptExecutionState) with
      | some refusal => (s, .ok refusal)
      | none =>
        (s.setAttempt attempt.executionAttemptId
          { attempt with
            activeOperationId := some operationId
            activeOperationKind := some input.operationKind
            activeOperationKey := some input.admissionKey
            activeOperationGeneration := some attempt.runtimeGeneration
            activeOperationAdmittedAt := some now },
          .ok (.admitted operationId attempt.runtimeGeneration now))

def reportOperation (input : ReportOperationInput) : Store × Answer O :=
  match s.attempts.get? input.executionAttemptId with
  | none => (s, .ok .notFound)
  | some attempt =>
    if attempt.executionId ≠ input.executionId then (s, .ok .notFound)
    else match evaluatePreparationReport
        ⟨true, attempt.settlementKind.isSome, isActive s input.executionId input.executionAttemptId,
          attempt.allocationRef.isSome && !allocationTerminated s input.executionAttemptId⟩
        attempt.toAttemptControlState attempt.toAttemptExecutionState input with
      | some refusal => (s, .ok refusal)
      | none =>
        match parsePreparationReceipts (attempt.preparationReceipts ++
            [⟨input.operationId, input.runtimeGeneration, input.result⟩]) with
        | .error e => (s, .error e)
        | .ok preparationReceipts =>
          (s.setAttempt input.executionAttemptId
            { clearOperation attempt with
              preparationReceipts := preparationReceipts
              lastCompletedOperationId := some input.operationId },
            .ok (.acceptedReport input.result.binding))

def completeOperation (input : CompleteOperationInput) : Store × Answer O :=
  match s.attempts.get? input.executionAttemptId with
  | none => (s, .ok .notFound)
  | some attempt =>
    if attempt.settlementKind.isSome then (s, .ok .resolved)
    else match evaluateOperationCompletion attempt.toAttemptControlState input with
      | some refusal => (s, .ok refusal)
      | none =>
        (s.setAttempt attempt.executionAttemptId
          { clearOperation attempt with lastCompletedOperationId := some input.operationId },
          .ok .completed)

def markRuntimeReady (input : MarkRuntimeReadyInput) : Store × Answer O :=
  match instantOf input.readyAt with
  | .error e => (s, .error e)
  | .ok acceptedAt =>
    match s.attempts.get? input.executionAttemptId with
    | none => (s, .ok .notFound)
    | some attempt =>
      if attempt.executionId ≠ input.executionId then (s, .ok .notFound)
      else match (runtimeReachability s attempt).or
          (evaluateRuntimeReadiness attempt.toAttemptControlState input) with
        | some refusal => (s, .ok refusal)
        | none =>
          (s.setAttempt attempt.executionAttemptId
            { attempt with runtimeReadyAt := some acceptedAt }, .ok (.ready acceptedAt))

/-! ### Cancellation and control evidence -/

/-- Validate the identities of a cancellation request. -/
def snapshotRequestAttemptCancellationInput (input : RequestAttemptCancellationInput) :
    Except AttemptError Unit := do
  requireIdentity input.executionAttemptId "executionAttemptId"
  requireIdentity input.requestKey "requestKey"
  requireIdentity input.executionId "executionId"

/-- Record an intent and close the start gate of its attempt. -/
def recordCancellation (id : String) (attempt : ExecutionAttemptRecord)
    (intent : ExecutionAttemptCancellationIntent) : Store :=
  Store.setAttempt { s with cancellations := s.cancellations.set id intent } id
    { attempt with operationStartGate := .closed }

def requestAttemptCancellation (input : RequestAttemptCancellationInput) (now : Instant) :
    Store × Answer O :=
  match snapshotRequestAttemptCancellationInput input with
  | .error e => (s, .error e)
  | .ok _ =>
    match s.attempts.get? input.executionAttemptId with
    | none => (s, .ok .notFound)
    | some attempt =>
      if attempt.executionId ≠ input.executionId then (s, .ok .notFound)
      else match evaluateAttemptCancellation (s.cancellations.get? input.executionAttemptId)
          input.requestKey input.reason now with
        | .conflict => (s, .ok .conflict)
        | .replayed intent =>
          (recordCancellation s input.executionAttemptId attempt intent,
            .ok (.replayedCancellation intent))
        | .accepted intent =>
          (recordCancellation s input.executionAttemptId attempt intent,
            .ok (.acceptedCancellation intent))

/-- The intent an owner-wide request leaves on one attempt; none on a conflict. -/
def fanOutIntent (id : String) (requestKey : String) (reason : Option String)
    (now : Instant) : Option ExecutionAttemptCancellationIntent :=
  match evaluateAttemptCancellation (s.cancellations.get? id) requestKey reason now with
  | .conflict => none
  | .replayed intent => some intent
  | .accepted intent => some intent

/-- `requestCancellation`: the entire fan-out is evaluated before any row changes. -/
def requestCancellation (input : RequestExecutionCancellationInput) (requestKey : String)
    (now : Instant) : Store × Answer O :=
  match requireIdentity input.executionId "executionId" with
  | .error e => (s, .error e)
  | .ok _ =>
    let owned := s.attempts.entries.filter fun e => e.2.executionId = input.executionId
    match owned.mapM fun e =>
        (fanOutIntent s e.1 requestKey input.reason now).map fun intent => (e.1, e.2, intent) with
    | none => (s, .error .conflictingCancellationKey)
    | some decisions =>
      (decisions.foldl (fun s d => recordCancellation s d.1 d.2.1 d.2.2) s,
        .ok .cancellationRecorded)

/-- The stored facts of a revision and generation. -/
def storedEvidence (key : ℕ × ℕ) :
    Option AttemptControlEvidence :=
  (s.controlEvidence.get? executionAttemptId).bind fun facts => facts.get? key

/-- Store the facts of a revision and generation. -/
def setEvidence (evidence : AttemptControlEvidence) : Store :=
  let facts := (s.controlEvidence.get? executionAttemptId).getD .empty
  { s with
    controlEvidence := s.controlEvidence.set executionAttemptId
      (facts.set (evidence.controlRevision, evidence.runtimeGeneration) evidence) }

def recordAttemptControlReceipt (receipt : ExecutionAttemptControlReceipt) : Store × Answer O :=
  match requireIdentity executionId "executionId" with
  | .error e => (s, .error e)
  | .ok _ =>
    let previous := storedEvidence s receipt.executionAttemptId
      (receipt.controlRevision, receipt.runtimeGeneration)
    let decision : Decision O := evaluateAttemptControlReceipt
      (s.attempts.get? receipt.executionAttemptId) (s.cancellations.get? receipt.executionAttemptId)
      (previous.bind fun evidence => evidence.receipt) executionId receipt
    (match decision with
      | .acceptedEvidence => setEvidence s receipt.executionAttemptId
        ⟨receipt.controlRevision, receipt.runtimeGeneration, some receipt,
          previous.bind fun evidence => evidence.report⟩
      | _ => s, .ok decision)

def reportAttemptControl (report : ExecutionAttemptControlReport) : Store × Answer O :=
  match requireIdentity executionId "executionId" with
  | .error e => (s, .error e)
  | .ok _ =>
    let previous := storedEvidence s report.executionAttemptId
      (report.controlRevision, report.runtimeGeneration)
    let decision : Decision O := evaluateAttemptControlReport
      (s.attempts.get? report.executionAttemptId) (s.cancellations.get? report.executionAttemptId)
      (previous.bind fun evidence => evidence.report) executionId report
    (match decision with
      | .acceptedEvidence => setEvidence s report.executionAttemptId
        ⟨report.controlRevision, report.runtimeGeneration,
          previous.bind fun evidence => evidence.receipt, some report⟩
      | _ => s, .ok decision)

/-! ### Settlement -/

/-- `commitOutcome`.  The outcome reported is decoded after the write. -/
def commitOutcome (codec : OutcomeCodec O) (s : Store) (input : ExecutionAttemptOutcomeCommit) :
    Store × Answer O :=
  if !isActive s input.executionId input.executionAttemptId then (s, .ok .fenced)
  else match s.attempts.get? input.executionAttemptId with
    | none => (s, .ok .fenced)
    | some attempt =>
      match s.committedOutcomes.get? input.executionAttemptId with
      | some storedText =>
        match codec.decode storedText with
        | none => (s, .error (.undecodableOutcome storedText))
        | some committed =>
          -- `sameDurableOutcome` parses both texts
          match codec.canonical storedText, codec.canonical input.text with
          | some stored, some candidate =>
            (s, .ok (if stored = candidate then
              .duplicateOutcome committed storedText
                (s.outcomeControlObservations.get? input.executionAttemptId)
              else .conflict))
          | _, _ => (s, .error (.undecodableOutcome input.text))
      | none =>
        if attempt.settlementKind.isSome then (s, .ok .conflict)
        else match assertRuntimeOutcomeFence attempt.toAttemptControlState input.runtimeFence with
          | .error e => (s, .error e)
          | .ok _ =>
            let controlObservation := snapshotAttemptOutcomeControl
              (s.cancellations.get? input.executionAttemptId)
            let s : Store := { s with
              committedOutcomes := s.committedOutcomes.set input.executionAttemptId input.text
              outcomeControlObservations :=
                s.outcomeControlObservations.set input.executionAttemptId controlObservation }
            let s := s.setAttempt input.executionAttemptId (settleAttempt attempt .outcome)
            match codec.decode input.text with
            | none => (s, .error (.undecodableOutcome input.text))
            | some outcome => (s, .ok (.acceptedOutcome outcome input.text controlObservation))

def abandonPendingAttempt (executionId : String) : Store × Answer O :=
  if !isActive s executionId executionAttemptId then (s, .ok .fenced)
  else match s.attempts.get? executionAttemptId with
    | none => (s, .ok .fenced)
    | some attempt =>
      match attempt.status with
      | .allocated => (s, .ok .alreadyAllocated)
      | .provisioning => (s, .ok .provisioning)
      | .settled =>
        (s, .ok (if attempt.settlementKind = some .abandoned then .alreadyAbandoned
          else .alreadySettled))
      | .pending =>
        (s.setAttempt executionAttemptId (settleAttempt attempt .abandoned), .ok .abandoned)

/-! ### Reads -/

def readAttemptSettlement (codec : OutcomeCodec O) (s : Store) (input : OwnedAttempt) :
    Except AttemptError (AttemptSettlementRead O) :=
  match requireIdentity input.executionId "executionId" with
  | .error e => .error e
  | .ok _ =>
    match requireIdentity input.executionAttemptId "executionAttemptId" with
    | .error e => .error e
    | .ok _ => readAttemptSettlementSnapshot codec input (s.attempts.get? input.executionAttemptId)
      (s.activeAttempts.get? input.executionId) (s.committedOutcomes.get? input.executionAttemptId)
      (s.outcomeControlObservations.get? input.executionAttemptId)

/-- The attempts the recovery query selects. -/
def selectsRecoverable (now : Instant) (record : ExecutionAttemptRecord) : Bool :=
  record.executionId = executionId && record.status = .allocated && record.allocationRef.isSome &&
    record.claimable && record.settlementKind.isNone &&
    !(record.claimExpiresAt.any fun claimExpiresAt => claimExpiresAt < now)

def getRecoverableAttempts (now : Instant) :
    Except AttemptError (List ExecutionAttemptRecord) :=
  (((s.attempts.entries.map Prod.snd).filter (selectsRecoverable executionId now)).mapM
    toRecoverableAttempt).map fun results => results.insertionSort fun a b => recoveryOrder a b

end Operations

/-! ### All operations that write -/

/-- A call of the repository, with the values the host draws for it. -/
inductive Action
  | createAttempt (input : ExecutionAttemptCreate) (now : Instant)
  | ensureAttempt (input : EnsureExecutionAttemptPersistenceInput) (now : Instant)
  | beginProvisioning (input : BeginProvisioningInput) (token : String)
  | renewProviderOperationClaim (claim : ProviderOperationClaim) (leaseExpiresAt : Timestamp)
  | takeOverProviderOperation (input : TakeOverProviderOperationInput) (token : String)
  | handoffProviderOperation (claim : ProviderOperationClaim)
      (evidence : Option BoundedRecoveryEvidence)
  | recordProviderOperationUncertainty (claim : ProviderOperationClaim)
      (evidence : BoundedRecoveryEvidence)
  | completeProviderOperation (claim : ProviderOperationClaim) (evidence : BoundedRecoveryEvidence)
  | recordAllocation (input : RecordAllocationInput)
  | recordDiscoveredAllocation (input : RecordAllocationInput)
  | evolveAllocationRef (input : AllocationRefEvolution)
  | recordProvisioningAbsent (input : RecordProvisioningAbsentInput)
  | recordProvisionerIncarnationLost (input : RecordProvisionerIncarnationLostInput)
  | recordAllocationTerminated (claim : ProviderOperationClaim) (evidence : BoundedRecoveryEvidence)
  | recordInfrastructureFailure (claim : ProviderOperationClaim) (executionId : String)
  | registerRuntime (input : RegisterRuntimeInput)
  | admitOperation (input : AdmitOperationInput) (operationId : String) (now : Instant)
  | reportOperation (input : ReportOperationInput)
  | completeOperation (input : CompleteOperationInput)
  | markRuntimeReady (input : MarkRuntimeReadyInput)
  | requestAttemptCancellation (input : RequestAttemptCancellationInput) (now : Instant)
  | requestCancellation (input : RequestExecutionCancellationInput) (requestKey : String)
      (now : Instant)
  | recordAttemptControlReceipt (executionId : String) (receipt : ExecutionAttemptControlReceipt)
  | reportAttemptControl (executionId : String) (report : ExecutionAttemptControlReport)
  | commitOutcome (input : ExecutionAttemptOutcomeCommit)
  | abandonPendingAttempt (executionAttemptId executionId : String)
  deriving DecidableEq

section Machine

variable {O : Type} (codec : OutcomeCodec O)

/-- Make a call. -/
def execute (s : Store) : Action → Store × Answer O
  | .createAttempt input now => createAttempt s input now
  | .ensureAttempt input now => ensureAttempt s input now
  | .beginProvisioning input token => beginProvisioning s input token
  | .renewProviderOperationClaim claim leaseExpiresAt =>
    renewProviderOperationClaim s claim leaseExpiresAt
  | .takeOverProviderOperation input token => takeOverProviderOperation s input token
  | .handoffProviderOperation claim evidence => handoffProviderOperation s claim evidence
  | .recordProviderOperationUncertainty claim evidence =>
    recordProviderOperationUncertainty s claim evidence
  | .completeProviderOperation claim evidence => completeProviderOperation s claim evidence
  | .recordAllocation input => recordAllocation s input
  | .recordDiscoveredAllocation input => recordDiscoveredAllocation s input
  | .evolveAllocationRef input => evolveAllocationRef s input
  | .recordProvisioningAbsent input => recordProvisioningAbsent s input
  | .recordProvisionerIncarnationLost input => recordProvisionerIncarnationLost s input
  | .recordAllocationTerminated claim evidence => recordAllocationTerminated s claim evidence
  | .recordInfrastructureFailure claim executionId => recordInfrastructureFailure s claim executionId
  | .registerRuntime input => registerRuntime s input
  | .admitOperation input operationId now => admitOperation s input operationId now
  | .reportOperation input => reportOperation s input
  | .completeOperation input => completeOperation s input
  | .markRuntimeReady input => markRuntimeReady s input
  | .requestAttemptCancellation input now => requestAttemptCancellation s input now
  | .requestCancellation input requestKey now => requestCancellation s input requestKey now
  | .recordAttemptControlReceipt executionId receipt =>
    recordAttemptControlReceipt s executionId receipt
  | .reportAttemptControl executionId report => reportAttemptControl s executionId report
  | .commitOutcome input => commitOutcome codec s input
  | .abandonPendingAttempt executionAttemptId executionId =>
    abandonPendingAttempt s executionAttemptId executionId

/-- The store after a sequence of calls. -/
def run (s : Store) : List Action → Store
  | [] => s
  | a :: as => run (execute codec s a).1 as

/-- The answers of a sequence of calls, each with its call. -/
def history (s : Store) : List Action → List (Action × Answer O)
  | [] => []
  | a :: as => (a, (execute codec s a).2) :: history (execute codec s a).1 as

/-- A run of no actions. -/
@[simp] lemma run_nil (s : Store) : run codec s [] = s := rfl

/-- The first action of a run. -/
@[simp] lemma run_cons (s : Store) (a : Action) (as : List Action) :
    run codec s (a :: as) = run codec (execute codec s a).1 as := rfl

/-- A run in two parts. -/
lemma run_append (as bs : List Action) : ∀ s : Store,
    run codec s (as ++ bs) = run codec (run codec s as) bs := by
  induction as with
  | nil => exact fun s => rfl
  | cons a as ih => exact fun s => ih _

/-- The history of a run in two parts. -/
lemma history_append (as bs : List Action) : ∀ s : Store,
    history codec s (as ++ bs) = history codec s as ++ history codec (run codec s as) bs := by
  induction as with
  | nil => exact fun s => rfl
  | cons a as ih =>
    intro s
    rw [List.cons_append, history, history, ih, List.cons_append, run_cons]

/-- **The history rule**: what holds at the start and is preserved when a call and its answer are appended
holds of the history and the store of every run. -/
theorem history_invariant {Inv : List (Action × Answer O) → Store → Prop} {s : Store}
    (hstart : Inv [] s)
    (hstep : ∀ calls s a, Inv calls s →
      Inv (calls ++ [(a, (execute codec s a).2)]) (execute codec s a).1) (as : List Action) :
    Inv (history codec s as) (run codec s as) := by
  induction as using List.reverseRecOn with
  | nil => exact hstart
  | append_singleton as a ih =>
    rw [history_append, run_append]
    exact hstep _ _ a ih

/-- A call of a run is answered after the calls before it. -/
lemma mem_history {a : Action} {answer : Answer O} (as : List Action) :
    ∀ {s : Store}, (a, answer) ∈ history codec s as →
      ∃ bs cs, as = bs ++ a :: cs ∧ answer = (execute codec (run codec s bs) a).2 := by
  induction as with
  | nil => exact fun h => absurd h (by simp [history])
  | cons b as ih =>
    intro s h
    rcases List.mem_cons.mp h with h | h
    · cases h
      exact ⟨[], as, rfl, rfl⟩
    · obtain ⟨bs, cs, rfl, rfl⟩ := ih h
      exact ⟨b :: bs, cs, rfl, rfl⟩

/-- **The run rule**: what every call preserves holds after every sequence of calls. -/
theorem run_invariant {Inv : Store → Prop}
    (hstep : ∀ s a, Inv s → Inv (execute codec s a).1) (as : List Action) :
    ∀ {s : Store}, Inv s → Inv (run codec s as) := by
  induction as with
  | nil => exact fun hs => hs
  | cons a as ih => exact fun hs => ih (hstep _ a hs)

end Machine

end Makaio.Attempts
