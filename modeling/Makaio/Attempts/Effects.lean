import Makaio.Attempts.Repository

set_option autoImplicit false

/-!
# What a call can do

Every operation of the attempt repository reads some records, evaluates guards and makes one of a small
number of writes.  `Change` lists them, each with the guards that held, the call that makes it and the
answer it gives.  What holds along runs is proved from this list: no other module unfolds an operation.

## Main definitions

* `Authorized` — a claim matches the unresolved provider operation of its attempt.
* `Change` — the writes of a call.

## Main results

* `execute_change` — every call makes a listed change.
-/

namespace Makaio.Attempts

open Foundations

/-! ### Authorization -/

/-- The claim matches the unresolved provider operation of its attempt. -/
structure Authorized (s : Store) (claim : ProviderOperationClaim) (attempt : ExecutionAttemptRecord)
    (operation : ProviderOperationOwnershipRecord) : Prop where
  found : s.attempts.get? claim.executionAttemptId = some attempt
  owned : s.operations.get? claim.executionAttemptId = some operation
  unresolved : isProviderOperationResolved attempt operation = false
  matching : matchesClaim operation claim = true

variable {claim : ProviderOperationClaim} {operation : ProviderOperationOwnershipRecord} {a : Action}
  {id : String}

/-- What `authorize` establishes. -/
lemma authorized_of_authorize {s : Store} {attempt : ExecutionAttemptRecord}
    (h : authorize s claim = .authorized attempt operation) :
    Authorized s claim attempt operation := by
  unfold authorize at h
  split at h
  next attempt' operation' hattempt hoperation =>
    split_ifs at h with hresolved hmatching
    cases h
    exact ⟨hattempt, hoperation, by simpa using hresolved, hmatching⟩
  next => cases h

/-- The claim an operation is presented with. -/
def Action.claim? : Action → Option ProviderOperationClaim
  | .renewProviderOperationClaim claim _ => some claim
  | .handoffProviderOperation claim _ => some claim
  | .recordProviderOperationUncertainty claim _ => some claim
  | .completeProviderOperation claim _ => some claim
  | .recordAllocation input => some input.claim
  | .recordDiscoveredAllocation input => some input.claim
  | .evolveAllocationRef input => some input.claim
  | .recordProvisioningAbsent input => some input.claim
  | .recordProvisionerIncarnationLost input => some input.claim
  | .recordAllocationTerminated claim _ => some claim
  | .recordInfrastructureFailure claim _ => some claim
  | _ => none

/-- The claim that a proof of absence or of process loss is presented with. -/
def Action.closes? : Action → Option ProviderOperationClaim
  | .recordProvisioningAbsent input => some input.claim
  | .recordProvisionerIncarnationLost input => some input.claim
  | _ => none

/-- An action that closes under a claim has that claim. -/
lemma Action.claim?_of_closes? (h : a.closes? = some claim) : a.claim? = some claim := by
  cases a <;> first
    | exact h
    | exact absurd h (by simp [Action.closes?])

/-! ### The list of writes -/

section Changes

variable {O : Type}

/-- The decisions that announce a write to an attempt or its provider operation. -/
def Decision.writes : Decision O → Bool
  | .created _ | .started _ | .claimed _ | .recorded | .completed | .evolved | .registered _
  | .admitted _ _ _ | .acceptedReport _ | .ready _ | .acceptedCancellation _
  | .replayedCancellation _ | .cancellationRecorded | .acceptedOutcome _ _ _ | .abandoned => true
  | _ => false

/-- An answer that announces no write. -/
def Quiet : Answer O → Prop
  | .error _ => True
  | .ok decision => decision.writes = false

/-- The store after a fresh attempt is inserted. -/
def insertedStore (s : Store) (input : ExecutionAttemptCreate) (record : ExecutionAttemptRecord) :
    Store :=
  let s := (supersede s input.executionId).setAttempt input.executionAttemptId record
  { s with activeAttempts := s.activeAttempts.set input.executionId input.executionAttemptId }

/-- The store after a request key is bound, with the bindings read before. -/
def boundStore (s t : Store) (executionId requestKey executionAttemptId : String) : Store :=
  { t with
    requestBindings := t.requestBindings.set executionId
      (((s.requestBindings.get? executionId).getD .empty).set requestKey executionAttemptId) }

/-- The record of an attempt whose provisioning begins. -/
def provisionedRecord (attempt : ExecutionAttemptRecord) (input : BeginProvisioningInput) :
    ExecutionAttemptRecord :=
  { attempt with
    status := .provisioning
    providerId := some input.providerId
    allocationLifetime := some input.allocationLifetime
    provisionerIncarnationId := some input.provisionerIncarnationId }

/-- The operation record of an attempt whose provisioning begins. -/
def startedOperation (input : BeginProvisioningInput) (token : String) (leaseExpiresAt : Instant) :
    ProviderOperationOwnershipRecord where
  executionAttemptId := input.executionAttemptId
  generation := 1
  ownerId := some input.ownerId
  token := some token
  leaseExpiresAt := some leaseExpiresAt
  obligation := .provisioningResolution
  failureCount := 0
  lastFailure := none
  completionEvidence := none

/-- The guards of `beginProvisioning`. -/
structure MayProvision (s : Store) (input : BeginProvisioningInput) (attempt : ExecutionAttemptRecord) :
    Prop where
  found : s.attempts.get? input.executionAttemptId = some attempt
  executionId : attempt.executionId = input.executionId
  active : isActive s input.executionId input.executionAttemptId = true
  unsettled : attempt.settlementKind = none
  unallocated : attempt.allocationRef = none
  gate : attempt.operationStartGate = .open
  pending : attempt.status = .pending

/-- The guards shared by registration, admission and readiness. -/
structure Reachable (s : Store) (input : OwnedAttempt) (attempt : ExecutionAttemptRecord) : Prop where
  found : s.attempts.get? input.executionAttemptId = some attempt
  executionId : attempt.executionId = input.executionId
  unsettled : attempt.settlementKind = none
  active : isActive s input.executionId input.executionAttemptId = true
  allocated : attempt.allocationRef ≠ none
  running : allocationTerminated s input.executionAttemptId = false

/-- The record after an allocation is recorded. -/
def allocatedRecord (attempt : ExecutionAttemptRecord) (allocationRef : ProviderAllocationRef)
    (claimable : Bool) : ExecutionAttemptRecord :=
  { attempt with
    status := if attempt.settlementKind = none then .allocated else attempt.status
    allocationRef := some allocationRef
    claimable := claimable }

/-- The record of a newly registered runtime. -/
def registeredRecord (attempt : ExecutionAttemptRecord) (runtimeIncarnationId : String) :
    ExecutionAttemptRecord :=
  { clearOperation attempt with
    runtimeGeneration := attempt.runtimeGeneration + 1
    runtimeIncarnationId := some runtimeIncarnationId
    runtimeReadyAt := none }

/-- The record of an attempt that an operation occupies. -/
def admittedRecord (attempt : ExecutionAttemptRecord) (input : AdmitOperationInput)
    (operationId : String) (now : Instant) : ExecutionAttemptRecord :=
  { attempt with
    activeOperationId := some operationId
    activeOperationKind := some input.operationKind
    activeOperationKey := some input.admissionKey
    activeOperationGeneration := some attempt.runtimeGeneration
    activeOperationAdmittedAt := some now }

/-- The record after a preparation report. -/
def reportedRecord (attempt : ExecutionAttemptRecord) (input : ReportOperationInput) :
    ExecutionAttemptRecord :=
  { clearOperation attempt with
    preparationReceipts := attempt.preparationReceipts ++
      [⟨input.operationId, input.runtimeGeneration, input.result⟩]
    lastCompletedOperationId := some input.operationId }

/-- The record after a completion. -/
def completedRecord (attempt : ExecutionAttemptRecord) (operationId : String) :
    ExecutionAttemptRecord :=
  { clearOperation attempt with lastCompletedOperationId := some operationId }

/-- The guards of an admission. -/
structure MayAdmit (attempt : ExecutionAttemptRecord) (input : AdmitOperationInput) : Prop where
  idle : attempt.activeOperationId = none
  gate : attempt.operationStartGate = .open
  generation : attempt.runtimeGeneration = input.runtimeGeneration
  unprepared : input.operationKind = .workspacePreparation →
    prepared attempt.toAttemptControlState attempt.toAttemptExecutionState = false
  workload : input.operationKind = .workloadInvocation ∨ input.operationKind = .workflowRun →
    attempt.instruction.workspace ≠ none →
    prepared attempt.toAttemptControlState attempt.toAttemptExecutionState = true

/-- The guards of a preparation report that is accepted. -/
structure MayReport (attempt : ExecutionAttemptRecord) (input : ReportOperationInput) : Prop where
  new : ∀ receipt ∈ attempt.preparationReceipts, receipt.operationId ≠ input.operationId
  generation : attempt.runtimeGeneration = input.runtimeGeneration
  active : attempt.activeOperationId = some input.operationId
  kind : attempt.activeOperationKind = some .workspacePreparation

/-- The intent a cancellation request leaves on an attempt: the stored one, or the first. -/
def LeavesIntent (s : Store) (id : String) (first intent : ExecutionAttemptCancellationIntent) : Prop :=
  intent = (s.cancellations.get? id).getD first

/-- The store after an outcome is committed. -/
def committedStore (s : Store) (id text : String) (attempt : ExecutionAttemptRecord) : Store :=
  Store.setAttempt
    { s with
      committedOutcomes := s.committedOutcomes.set id text
      outcomeControlObservations := s.outcomeControlObservations.set id
        (snapshotAttemptOutcomeControl (s.cancellations.get? id)) }
    id (settleAttempt attempt .outcome)

/-- The attempts of an execution that an owner-wide cancellation reaches, with their intents. -/
def FanOut (s : Store) (executionId : String) (first : ExecutionAttemptCancellationIntent)
    (decisions : List (String × ExecutionAttemptRecord × ExecutionAttemptCancellationIntent)) : Prop :=
  (decisions.map fun d => (d.1, d.2.1)) =
      (s.attempts.entries.filter fun e => e.2.executionId = executionId) ∧
    ∀ d ∈ decisions, LeavesIntent s d.1 first d.2.2

/-- **The writes of a call**, with the guards that held, the call and its answer. -/
inductive Change (s : Store) : Action → Answer O → Store → Prop
  | unchanged {a : Action} {answer : Answer O} (hquiet : Quiet answer) : Change s a answer s
  | created {input : ExecutionAttemptCreate} {now createdAt deadline : Instant}
      (hfresh : s.attempts.get? input.executionAttemptId = none) :
      Change s (.createAttempt input now) (.ok (.created (newRecord input createdAt deadline)))
        (insertedStore s input (newRecord input createdAt deadline))
  | ensured {input : EnsureExecutionAttemptPersistenceInput} {now createdAt deadline : Instant}
      (hunbound : boundAttemptId s input.executionId input.requestKey = none)
      (hfresh : s.attempts.get? input.executionAttemptId = none) :
      Change s (.ensureAttempt input now)
        (.ok (.created (newRecord input.toExecutionAttemptCreate createdAt deadline)))
        (boundStore s (insertedStore s input.toExecutionAttemptCreate
          (newRecord input.toExecutionAttemptCreate createdAt deadline)) input.executionId
          input.requestKey input.executionAttemptId)
  /-- The attempt is written, and the lease does not parse. -/
  | unleased {input : BeginProvisioningInput} {token : String} {attempt : ExecutionAttemptRecord}
      {e : AttemptError} (h : MayProvision s input attempt) :
      Change s (.beginProvisioning input token) (.error e)
        (s.setAttempt input.executionAttemptId (provisionedRecord attempt input))
  | started {input : BeginProvisioningInput} {token : String} {attempt : ExecutionAttemptRecord}
      {leaseExpiresAt : Instant} (h : MayProvision s input attempt) :
      Change s (.beginProvisioning input token)
        (.ok (.started ⟨input.executionAttemptId, 1, input.ownerId, token, leaseExpiresAt⟩))
        ((s.setAttempt input.executionAttemptId (provisionedRecord attempt input)).setOperation
          input.executionAttemptId (startedOperation input token leaseExpiresAt))
  | renewed {claim : ProviderOperationClaim} {lease : Timestamp} {leaseExpiresAt : Instant}
      {attempt : ExecutionAttemptRecord} {operation : ProviderOperationOwnershipRecord}
      (h : Authorized s claim attempt operation) :
      Change s (.renewProviderOperationClaim claim lease)
        (.ok (.claimed { claim with leaseExpiresAt := leaseExpiresAt }))
        (s.setOperation claim.executionAttemptId
          { operation with leaseExpiresAt := some leaseExpiresAt })
  | takenOver {input : TakeOverProviderOperationInput} {token : String} {leaseExpiresAt : Instant}
      {attempt : ExecutionAttemptRecord} {operation : ProviderOperationOwnershipRecord}
      (hattempt : s.attempts.get? input.executionAttemptId = some attempt)
      (hoperation : s.operations.get? input.executionAttemptId = some operation)
      (hunresolved : isProviderOperationResolved attempt operation = false) :
      Change s (.takeOverProviderOperation input token)
        (.ok (.claimed ⟨input.executionAttemptId, operation.generation + 1, input.ownerId, token,
          leaseExpiresAt⟩))
        (s.setOperation input.executionAttemptId
          { operation with
            generation := operation.generation + 1
            ownerId := some input.ownerId
            token := some token
            leaseExpiresAt := some leaseExpiresAt })
  | handedOff {claim : ProviderOperationClaim} {evidence : Option BoundedRecoveryEvidence}
      {attempt : ExecutionAttemptRecord} {operation : ProviderOperationOwnershipRecord}
      (h : Authorized s claim attempt operation) :
      Change s (.handoffProviderOperation claim evidence) (.ok .recorded)
        (s.setOperation claim.executionAttemptId
          { operation with
            ownerId := none
            token := none
            leaseExpiresAt := none
            lastFailure := evidence.or operation.lastFailure })
  | uncertain {claim : ProviderOperationClaim} {evidence : BoundedRecoveryEvidence}
      {attempt : ExecutionAttemptRecord} {operation : ProviderOperationOwnershipRecord}
      (h : Authorized s claim attempt operation) :
      Change s (.recordProviderOperationUncertainty claim evidence) (.ok .recorded)
        (s.setOperation claim.executionAttemptId
          { operation with
            failureCount := operation.failureCount + 1
            lastFailure := some evidence })
  | evidenced {a : Action} {answer : Answer O} {claim : ProviderOperationClaim}
      {evidence : BoundedRecoveryEvidence} {attempt : ExecutionAttemptRecord}
      {operation : ProviderOperationOwnershipRecord} (hclaim : a.claim? = some claim)
      (hanswer : answer = .ok .evidenceRecorded ∨ answer = .ok .completed)
      (h : Authorized s claim attempt operation) (hnone : operation.completionEvidence = none) :
      Change s a answer
        (s.setOperation claim.executionAttemptId
          { operation with completionEvidence := some evidence })
  | allocated {a : Action} {input : RecordAllocationInput} {claimable : Bool}
      {attempt : ExecutionAttemptRecord} {operation : ProviderOperationOwnershipRecord}
      (haction : a = .recordAllocation input ∨ a = .recordDiscoveredAllocation input)
      (h : Authorized s input.claim attempt operation)
      (hprovider : attempt.providerId = some input.allocationRef.providerId)
      (hnone : attempt.allocationRef = none)
      (hclaimable : claimable = true → attempt.settlementKind = none ∧
        isActive s attempt.executionId input.claim.executionAttemptId = true ∧
        a = .recordAllocation input) :
      Change s a (.ok .recorded)
        ((s.setAttempt input.claim.executionAttemptId
          (allocatedRecord attempt input.allocationRef claimable)).setOperation
            input.claim.executionAttemptId { operation with obligation := .allocationControl })
  | evolved {input : AllocationRefEvolution} {attempt : ExecutionAttemptRecord}
      {operation : ProviderOperationOwnershipRecord}
      (h : Authorized s input.claim attempt operation)
      (hprovider : input.currentRef.providerId = input.nextRef.providerId)
      (hstored : attempt.allocationRef = some input.currentRef) :
      Change s (.evolveAllocationRef input) (.ok .evolved)
        (s.setAttempt input.claim.executionAttemptId
          { attempt with allocationRef := some input.nextRef })
  /-- Absence or process loss settles an unsettled attempt that has no allocation. -/
  | closed {a : Action} {claim : ProviderOperationClaim} {evidence : BoundedRecoveryEvidence}
      {attempt : ExecutionAttemptRecord} {operation : ProviderOperationOwnershipRecord}
      (hcloses : a.closes? = some claim) (h : Authorized s claim attempt operation)
      (hunallocated : attempt.allocationRef = none) (hunsettled : attempt.settlementKind = none) :
      Change s a (.ok .recorded)
        (recordProviderCompletionEvidence
          (s.setAttempt claim.executionAttemptId (settleAttempt attempt .abandoned)) operation evidence)
  | terminated {claim : ProviderOperationClaim} {evidence : BoundedRecoveryEvidence}
      {attempt : ExecutionAttemptRecord} {operation : ProviderOperationOwnershipRecord}
      (h : Authorized s claim attempt operation) (hallocated : attempt.allocationRef ≠ none) :
      Change s (.recordAllocationTerminated claim evidence) (.ok .recorded)
        (s.setOperation claim.executionAttemptId
          { operation with
            obligation := .terminalConvergence
            lastFailure := some evidence })
  | failed {claim : ProviderOperationClaim} {executionId : String} {attempt : ExecutionAttemptRecord}
      {operation : ProviderOperationOwnershipRecord} (h : Authorized s claim attempt operation)
      (hunsettled : attempt.settlementKind = none) (hallocated : attempt.allocationRef ≠ none)
      (hterminated : operation.obligation = .terminalConvergence) :
      Change s (.recordInfrastructureFailure claim executionId) (.ok .recorded)
        (s.setAttempt claim.executionAttemptId (settleAttempt attempt .infrastructureFailure))
  | registered {input : RegisterRuntimeInput} {attempt : ExecutionAttemptRecord}
      (h : Reachable s input.toOwnedAttempt attempt)
      (hidle : attempt.activeOperationId = none ∨
        attempt.activeOperationKind = some .runtimeProbe) :
      Change s (.registerRuntime input) (.ok (.registered (attempt.runtimeGeneration + 1)))
        (s.setAttempt input.executionAttemptId
          (registeredRecord attempt input.runtimeIncarnationId))
  | admitted {input : AdmitOperationInput} {operationId : String} {now : Instant}
      {attempt : ExecutionAttemptRecord} (h : Reachable s input.toOwnedAttempt attempt)
      (hmay : MayAdmit attempt input) :
      Change s (.admitOperation input operationId now)
        (.ok (.admitted operationId attempt.runtimeGeneration now))
        (s.setAttempt input.executionAttemptId (admittedRecord attempt input operationId now))
  | reported {input : ReportOperationInput} {attempt : ExecutionAttemptRecord}
      (h : Reachable s input.toOwnedAttempt attempt) (hreport : MayReport attempt input) :
      Change s (.reportOperation input) (.ok (.acceptedReport input.result.binding))
        (s.setAttempt input.executionAttemptId (reportedRecord attempt input))
  | completed {input : CompleteOperationInput} {attempt : ExecutionAttemptRecord}
      (hattempt : s.attempts.get? input.executionAttemptId = some attempt)
      (hunsettled : attempt.settlementKind = none)
      (hactive : attempt.activeOperationId = some input.operationId) :
      Change s (.completeOperation input) (.ok .completed)
        (s.setAttempt input.executionAttemptId (completedRecord attempt input.operationId))
  | readied {input : MarkRuntimeReadyInput} {attempt : ExecutionAttemptRecord}
      {acceptedAt : Instant} (h : Reachable s input.toOwnedAttempt attempt) :
      Change s (.markRuntimeReady input) (.ok (.ready acceptedAt))
        (s.setAttempt input.executionAttemptId { attempt with runtimeReadyAt := some acceptedAt })
  | cancelled {input : RequestAttemptCancellationInput} {now : Instant}
      {attempt : ExecutionAttemptRecord} {intent : ExecutionAttemptCancellationIntent}
      {answer : Answer O}
      (hanswer : answer = .ok (.acceptedCancellation intent) ∨
        answer = .ok (.replayedCancellation intent))
      (hattempt : s.attempts.get? input.executionAttemptId = some attempt)
      (hintent : LeavesIntent s input.executionAttemptId ⟨input.requestKey, 1, now, input.reason⟩ intent) :
      Change s (.requestAttemptCancellation input now) answer
        (recordCancellation s input.executionAttemptId attempt intent)
  | cancelledAll {input : RequestExecutionCancellationInput} {requestKey : String} {now : Instant}
      {decisions : List (String × ExecutionAttemptRecord × ExecutionAttemptCancellationIntent)}
      (hdecisions : FanOut s input.executionId ⟨requestKey, 1, now, input.reason⟩ decisions) :
      Change s (.requestCancellation input requestKey now) (.ok .cancellationRecorded)
        (decisions.foldl (fun s d => recordCancellation s d.1 d.2.1 d.2.2) s)
  | evidenceStored {a : Action} {answer : Answer O} {id : String} {evidence : AttemptControlEvidence}
      (hclaim : a.claim? = none) (hquiet : Quiet answer) :
      Change s a answer (setEvidence s id evidence)
  | committed {input : ExecutionAttemptOutcomeCommit} {attempt : ExecutionAttemptRecord}
      {answer : Answer O}
      (hactive : isActive s input.executionId input.executionAttemptId = true)
      (hattempt : s.attempts.get? input.executionAttemptId = some attempt)
      (hunsettled : attempt.settlementKind = none)
      (hnew : s.committedOutcomes.get? input.executionAttemptId = none)
      (hanswer : (∃ e, answer = .error e) ∨
        ∃ outcome observation, answer = .ok (.acceptedOutcome outcome input.text observation)) :
      Change s (.commitOutcome input) answer
        (committedStore s input.executionAttemptId input.text attempt)
  | abandoned {executionAttemptId executionId : String} {attempt : ExecutionAttemptRecord}
      (hactive : isActive s executionId executionAttemptId = true)
      (hattempt : s.attempts.get? executionAttemptId = some attempt)
      (hpending : attempt.status = .pending) :
      Change s (.abandonPendingAttempt executionAttemptId executionId) (.ok .abandoned)
        (s.setAttempt executionAttemptId (settleAttempt attempt .abandoned))

end Changes

/-- A call makes a listed write, with its answer. -/
abbrev Makes {O : Type} (s : Store) (a : Action) (r : Store × Answer O) : Prop := Change s a r.2 r.1

/-! ### Every call makes a listed write -/

/-- Records are stored under their own identifier. -/
structure Keyed (s : Store) : Prop where
  attempts : ∀ id r, s.attempts.get? id = some r → r.executionAttemptId = id
  operations : ∀ id r, s.operations.get? id = some r → r.executionAttemptId = id

/-- Writing under the record's own identifier is writing under the key it was found at. -/
lemma Keyed.setAttempt_eq {s : Store} (hs : Keyed s) {r : ExecutionAttemptRecord}
    (hr : s.attempts.get? id = some r) (t : Store) (r' : ExecutionAttemptRecord) :
    t.setAttempt r.executionAttemptId r' = t.setAttempt id r' := by
  rw [hs.attempts id r hr]

/-- Writing under the operation's own identifier is writing under the key it was found at. -/
lemma Keyed.setOperation_eq {s : Store} (hs : Keyed s) {r : ProviderOperationOwnershipRecord}
    (hr : s.operations.get? id = some r) (t : Store) (r' : ProviderOperationOwnershipRecord) :
    t.setOperation r.executionAttemptId r' = t.setOperation id r' := by
  rw [hs.operations id r hr]

section Calls

variable {O : Type} {s : Store} {answer : Answer O} {r : Store × Answer O}
variable {now : Instant} {intent : ExecutionAttemptCancellationIntent} {reason : Option String}
  {requestKey : String}

/-! #### Guards -/

/-- A guard that answers without a write leaves the other branch. -/
lemma Makes.guard {c : Prop} [Decidable c] (hquiet : Quiet answer) (h : ¬c → Makes s a r) :
    Makes s a (if c then (s, answer) else r) := by
  split
  next => exact .unchanged hquiet
  next hc => exact h hc

/-- A missing attempt is answered without a write. -/
lemma Makes.found {stored : Option ExecutionAttemptRecord} {f : ExecutionAttemptRecord → Store × Answer O}
    (hquiet : Quiet answer) (h : ∀ attempt, stored = some attempt → Makes s a (f attempt)) :
    Makes s a (match stored with | none => (s, answer) | some attempt => f attempt) := by
  split
  next => exact .unchanged hquiet
  next attempt => exact h attempt rfl

/-- A present allocation is answered without a write. -/
lemma Makes.unallocated {stored : Option ProviderAllocationRef} {g : ProviderAllocationRef → Answer O}
    (hquiet : ∀ allocationRef, Quiet (g allocationRef)) (h : stored = none → Makes s a r) :
    Makes s a (match stored with | some allocationRef => (s, g allocationRef) | none => r) := by
  split
  next allocationRef => exact .unchanged (hquiet allocationRef)
  next => exact h rfl

/-- A check that fails is answered without a write. -/
lemma Makes.checked {check : Except AttemptError Unit} (h : check = .ok () → Makes s a r) :
    Makes s a (match check with | .error e => (s, .error e) | .ok _ => r) := by
  split
  next => exact .unchanged trivial
  next => exact h rfl

/-- A claim that is not authorized is answered without a write. -/
lemma Makes.authorized {f : ExecutionAttemptRecord → ProviderOperationOwnershipRecord → Store × Answer O}
    (h : ∀ attempt operation, Authorized s claim attempt operation → Makes s a (f attempt operation)) :
    Makes s a (match authorize s claim with
      | .notFound => (s, .ok .notFound)
      | .resolved _ => (s, .ok .resolved)
      | .stale _ => (s, .ok .stale)
      | .authorized attempt operation => f attempt operation) := by
  split
  next => exact .unchanged rfl
  next => exact .unchanged rfl
  next => exact .unchanged rfl
  next hauthorize => exact h _ _ (authorized_of_authorize hauthorize)

/-- An evaluator's refusal announces no write. -/
def Refuses (evaluation : Option (Decision O)) : Prop :=
  ∀ refusal, evaluation = some refusal → refusal.writes = false

/-- No decision refuses nothing. -/
lemma Refuses.none : Refuses (none : Option (Decision O)) := fun _ h => nomatch h

/-- A decision that writes nothing refuses. -/
lemma Refuses.some {decision : Decision O} (h : decision.writes = false) : Refuses (some decision) := by
  rintro refusal ⟨⟩
  exact h

/-- The first refusal of two evaluators announces no write. -/
lemma Refuses.or {first second : Option (Decision O)} (hfirst : Refuses first) (hsecond : Refuses second) :
    Refuses (first.or second) := by
  cases first with
  | none => exact hsecond
  | some decision => exact hfirst

/-- A refusal is answered without a write. -/
lemma Makes.permitted {evaluation : Option (Decision O)} (hrefuses : Refuses evaluation)
    (h : evaluation = none → Makes s a r) :
    Makes s a (match evaluation with | some refusal => (s, .ok refusal) | none => r) := by
  split
  next refusal => exact .unchanged (hrefuses refusal rfl)
  next => exact h rfl

/-! #### Creation -/

variable {t : Store} {input : RecordProvisionerIncarnationLostInput}
  {facts reachability : AttemptReachability} {execution : AttemptExecutionState} {fallback : Instant}

/-- What an insertion that succeeds has checked. -/
lemma insertAttempt_ok {input : ExecutionAttemptCreate} {record : ExecutionAttemptRecord}
    (h : insertAttempt s input now = .ok (t, record)) :
    s.attempts.get? input.executionAttemptId = none ∧ t = insertedStore s input record ∧
      ∃ createdAt deadline, record = newRecord input createdAt deadline := by
  unfold insertAttempt at h
  split at h
  next => cases h
  next createdAt deadline _ =>
    split_ifs at h with hhas
    cases h
    refine ⟨?_, rfl, createdAt, deadline, rfl⟩
    rw [Option.eq_none_iff_forall_ne_some]
    exact fun r hr => hhas (OrderedMap.has_iff.mpr ⟨r, hr⟩)

/-- What `createAttempt` changes. -/
lemma createAttempt_change (input : ExecutionAttemptCreate) (now : Instant) :
    Makes s (.createAttempt input now) (createAttempt (O := O) s input now) := by
  unfold createAttempt
  split
  next => exact .unchanged trivial
  next t record h =>
    obtain ⟨hfresh, rfl, createdAt, deadline, rfl⟩ := insertAttempt_ok h
    exact .created hfresh

/-- A replayed request writes nothing. -/
lemma quiet_replayEnsuredAttempt (input : EnsureExecutionAttemptPersistenceInput)
    (bound : Option ExecutionAttemptRecord) : Quiet (replayEnsuredAttempt (O := O) input bound) := by
  unfold replayEnsuredAttempt
  split
  · trivial
  · split_ifs
    · trivial
    · rfl
    · rfl

/-- What `ensureAttempt` changes. -/
lemma ensureAttempt_change (input : EnsureExecutionAttemptPersistenceInput) (now : Instant) :
    Makes s (.ensureAttempt input now) (ensureAttempt (O := O) s input now) := by
  refine .checked fun _ => ?_
  split
  next => exact .unchanged (quiet_replayEnsuredAttempt _ _)
  next hunbound =>
    split
    next => exact .unchanged trivial
    next t record h =>
      obtain ⟨hfresh, rfl, createdAt, deadline, rfl⟩ := insertAttempt_ok h
      exact .ensured hunbound hfresh

/-! #### The provider operation -/

/-- A gate that is not closed is open. -/
lemma gate_open {gate : AttemptOperationStartGate} (h : gate ≠ .closed) : gate = .open := by
  cases gate
  · rfl
  · exact absurd rfl h

/-- What `beginProvisioning` changes. -/
lemma beginProvisioning_change (input : BeginProvisioningInput) (token : String) :
    Makes s (.beginProvisioning input token) (beginProvisioning (O := O) s input token) := by
  refine .found rfl fun attempt hattempt => ?_
  refine .guard rfl fun hexecution => ?_
  refine .guard rfl fun hactive => ?_
  refine .guard rfl fun hsettled => ?_
  refine .unallocated (fun _ => rfl) fun hunallocated => ?_
  refine .guard rfl fun hgate => ?_
  refine .guard rfl fun hstatus => ?_
  have hmay : MayProvision s input attempt :=
    ⟨hattempt, by simpa using hexecution, by simpa using hactive, by simpa using hsettled, hunallocated,
      gate_open hgate, by simpa using hstatus⟩
  split
  next => exact .unleased hmay
  next => exact .started hmay

/-- What `renewProviderOperationClaim` changes. -/
lemma renewProviderOperationClaim_change (claim : ProviderOperationClaim) (lease : Timestamp) :
    Makes s (.renewProviderOperationClaim claim lease)
      (renewProviderOperationClaim (O := O) s claim lease) := by
  refine .authorized fun attempt operation h => ?_
  split
  next => exact .unchanged trivial
  next => exact .renewed h

/-- What `takeOverProviderOperation` changes. -/
lemma takeOverProviderOperation_change (input : TakeOverProviderOperationInput) (token : String) :
    Makes s (.takeOverProviderOperation input token) (takeOverProviderOperation (O := O) s input token) := by
  unfold takeOverProviderOperation
  split
  next attempt operation hattempt hoperation =>
    refine .guard rfl fun hresolved => ?_
    split
    next => exact .unchanged trivial
    next => exact .unchanged rfl
    next =>
      split
      next => exact .unchanged trivial
      next => exact .takenOver hattempt hoperation (by simpa using hresolved)
  next => exact .unchanged rfl

/-- What `handoffProviderOperation` changes. -/
lemma handoffProviderOperation_change (claim : ProviderOperationClaim)
    (evidence : Option BoundedRecoveryEvidence) :
    Makes s (.handoffProviderOperation claim evidence)
      (handoffProviderOperation (O := O) s claim evidence) := by
  exact .authorized fun attempt operation h => .handedOff h

/-- What `recordProviderOperationUncertainty` changes. -/
lemma recordProviderOperationUncertainty_change (claim : ProviderOperationClaim)
    (evidence : BoundedRecoveryEvidence) :
    Makes s (.recordProviderOperationUncertainty claim evidence)
      (recordProviderOperationUncertainty (O := O) s claim evidence) := by
  exact .authorized fun attempt operation h => .uncertain h

/-- Evidence is written when there is none. -/
lemma recordProviderCompletionEvidence_of_none (hnone : operation.completionEvidence = none)
    (evidence : BoundedRecoveryEvidence) :
    recordProviderCompletionEvidence s operation evidence =
      s.setOperation operation.executionAttemptId
        { operation with completionEvidence := some evidence } := by
  simp [recordProviderCompletionEvidence, hnone]

/-- What `completeProviderOperation` changes. -/
lemma completeProviderOperation_change (hs : Keyed s) (claim : ProviderOperationClaim)
    (evidence : BoundedRecoveryEvidence) :
    Makes s (.completeProviderOperation claim evidence)
      (completeProviderOperation (O := O) s claim evidence) := by
  unfold completeProviderOperation
  split
  next attempt operation hattempt hoperation =>
    refine .guard rfl fun hmatching => ?_
    refine .guard rfl fun hresolved => ?_
    refine .guard rfl fun hevidence => ?_
    have hnone : operation.completionEvidence = none := by simpa using hevidence
    have hclaim : (Action.completeProviderOperation claim evidence).claim? = some claim := rfl
    rw [recordProviderCompletionEvidence_of_none hnone, hs.setOperation_eq hoperation]
    refine .evidenced hclaim ?_ ⟨hattempt, hoperation, by simpa using hresolved,
      by simpa using hmatching⟩ hnone
    by_cases hsettled : attempt.settlementKind = none
    · exact Or.inl (by rw [if_pos hsettled])
    · exact Or.inr (by rw [if_neg hsettled])
  next => exact .unchanged rfl

/-- What the two ways to record an allocation change. -/
lemma applyAllocation_change (hs : Keyed s) {input : RecordAllocationInput} {bootstrapClaimable : Bool}
    (haction : a = .recordAllocation input ∧ bootstrapClaimable = true ∨
      a = .recordDiscoveredAllocation input ∧ bootstrapClaimable = false) :
    Makes s a (applyAllocation (O := O) s input bootstrapClaimable) := by
  unfold applyAllocation
  split
  next => exact .unchanged rfl
  next => exact .checked fun _ => .unchanged rfl
  next => exact .checked fun _ => .unchanged rfl
  next attempt operation hauthorize =>
    have hauthorized := authorized_of_authorize hauthorize
    refine .checked fun hprovider => ?_
    refine .unallocated (fun _ => ?_) fun hnone => ?_
    · split <;> rfl
    · dsimp only
      rw [hs.setAttempt_eq hauthorized.found, hs.setOperation_eq hauthorized.owned]
      refine .allocated ?_ hauthorized ?_ hnone ?_
      · exact haction.imp And.left And.left
      · unfold requireAllocationRefProvider at hprovider
        split_ifs at hprovider with h
        exact h
      · intro hclaimable
        simp only [Bool.and_eq_true, Option.isNone_iff_eq_none] at hclaimable
        refine ⟨hclaimable.1.1, hs.attempts _ _ hauthorized.found ▸ hclaimable.2, ?_⟩
        rcases haction with ⟨h, -⟩ | ⟨-, h⟩
        · exact h
        · exact absurd (h.symm.trans hclaimable.1.2) (by simp)

/-- What `evolveAllocationRef` changes. -/
lemma evolveAllocationRef_change (hs : Keyed s) (input : AllocationRefEvolution) :
    Makes s (.evolveAllocationRef input) (evolveAllocationRef (O := O) s input) := by
  refine .guard trivial fun hprovider => ?_
  split
  next => exact .unchanged rfl
  next => exact .unchanged rfl
  next => exact .unchanged rfl
  next attempt operation hauthorize =>
    have hauthorized := authorized_of_authorize hauthorize
    refine .guard rfl fun _ => ?_
    split
    next => exact .unchanged rfl
    next stored hstored =>
      refine .guard rfl fun hsame => ?_
      rw [hs.setAttempt_eq hauthorized.found]
      refine .evolved hauthorized (by simpa using hprovider) ?_
      rw [hstored]
      simpa [sameAllocationRef] using hsame

variable {attempt : ExecutionAttemptRecord} {refusal : Decision O} {control : AttemptControlState}

/-- What closing an operation that has no allocation changes. -/
lemma closeWithoutAllocation_change (hs : Keyed s) (hcloses : a.closes? = some claim)
    (h : Authorized s claim attempt operation) (hunallocated : attempt.allocationRef = none)
    (evidence : BoundedRecoveryEvidence) :
    Makes s a (closeWithoutAllocation (O := O) s attempt operation evidence) := by
  unfold closeWithoutAllocation
  split
  next hunsettled =>
    rw [hs.setAttempt_eq h.found]
    exact .closed hcloses h hunallocated hunsettled
  next hsettled =>
    -- the operation is unresolved, so a settled attempt has no evidence yet
    have hnone : operation.completionEvidence = none := by
      have hunresolved := h.unresolved
      unfold isProviderOperationResolved at hunresolved
      rw [Bool.and_eq_false_iff] at hunresolved
      rcases hunresolved with hkind | hnone
      · exact absurd (by simpa using hkind) hsettled
      · simpa using hnone
    rw [recordProviderCompletionEvidence_of_none hnone, hs.setOperation_eq h.owned]
    exact .evidenced (Action.claim?_of_closes? hcloses) (Or.inr rfl) h hnone

/-- What `recordProvisioningAbsent` changes. -/
lemma recordProvisioningAbsent_change (hs : Keyed s) (input : RecordProvisioningAbsentInput) :
    Makes s (.recordProvisioningAbsent input) (recordProvisioningAbsent (O := O) s input) := by
  refine .authorized fun attempt operation h => ?_
  refine .guard rfl fun _ => ?_
  exact .unallocated (fun _ => rfl) fun hunallocated => closeWithoutAllocation_change hs rfl h hunallocated _

/-- A refusal of a process-loss proof writes nothing. -/
lemma refuses_evaluateProvisionerIncarnationLoss :
    Refuses (evaluateProvisionerIncarnationLoss (O := O) attempt input) := by
  unfold evaluateProvisionerIncarnationLoss
  split
  · exact .some rfl
  · split
    · exact .some rfl
    · split
      · exact .some rfl
      · split
        · exact .some rfl
        · exact .none

/-- A process-loss proof applies only before an allocation is recorded. -/
lemma evaluateProvisionerIncarnationLoss_none
    (h : evaluateProvisionerIncarnationLoss (O := O) attempt input = none) :
    attempt.allocationRef = none := by
  unfold evaluateProvisionerIncarnationLoss at h
  split at h
  · cases h
  · split at h
    · cases h
    · split at h
      · cases h
      · split at h
        · cases h
        · assumption

/-- What `recordProvisionerIncarnationLost` changes. -/
lemma recordProvisionerIncarnationLost_change (hs : Keyed s)
    (input : RecordProvisionerIncarnationLostInput) :
    Makes s (.recordProvisionerIncarnationLost input)
      (recordProvisionerIncarnationLost (O := O) s input) := by
  refine .authorized fun attempt operation h => ?_
  refine .permitted refuses_evaluateProvisionerIncarnationLoss fun hnone => ?_
  exact closeWithoutAllocation_change hs rfl h (evaluateProvisionerIncarnationLoss_none hnone) _

/-- What `recordAllocationTerminated` changes. -/
lemma recordAllocationTerminated_change (hs : Keyed s) (claim : ProviderOperationClaim)
    (evidence : BoundedRecoveryEvidence) :
    Makes s (.recordAllocationTerminated claim evidence)
      (recordAllocationTerminated (O := O) s claim evidence) := by
  refine .authorized fun attempt operation h => ?_
  refine .guard rfl fun hallocated => ?_
  rw [hs.setOperation_eq h.owned]
  exact .terminated h hallocated

/-- What `recordInfrastructureFailure` changes. -/
lemma recordInfrastructureFailure_change (hs : Keyed s) (claim : ProviderOperationClaim)
    (executionId : String) :
    Makes s (.recordInfrastructureFailure claim executionId)
      (recordInfrastructureFailure (O := O) s claim executionId) := by
  refine .authorized fun attempt operation h => ?_
  refine .guard rfl fun _ => ?_
  refine .guard rfl fun hunsettled => ?_
  refine .guard rfl fun hallocated => ?_
  refine .guard rfl fun hterminated => ?_
  rw [hs.setAttempt_eq h.found]
  exact .failed h (by simpa using hunsettled) hallocated (by simpa using hterminated)

/-! #### Refusals of the evaluators announce no write -/

/-- Unreachable attempts are refused without a write. -/
lemma refuses_evaluateAttemptReachability :
    Refuses (evaluateAttemptReachability (O := O) facts) := by
  unfold evaluateAttemptReachability
  split_ifs
  · exact .some rfl
  · exact .some rfl
  · exact .some rfl
  · exact .some rfl
  · exact .none

/-- What is decided about a registration writes nothing. -/
lemma refuses_evaluateRuntimeRegistration {input : RegisterRuntimeInput} :
    Refuses (evaluateRuntimeRegistration (O := O) control input) := by
  unfold evaluateRuntimeRegistration
  split
  · exact .some rfl
  · split
    · split_ifs
      · exact .some rfl
      · exact .none
    · exact .none

/-- What is decided about an admission writes nothing. -/
lemma refuses_evaluateOperationAdmission {input : AdmitOperationInput} :
    Refuses (evaluateOperationAdmission (O := O) control input fallback execution) := by
  unfold evaluateOperationAdmission
  split
  · split_ifs
    · exact .some rfl
    · exact .some rfl
  · split_ifs
    all_goals first
      | exact .some rfl
      | exact .none

/-- What is decided about a report writes nothing. -/
lemma refuses_evaluatePreparationReport {input : ReportOperationInput} :
    Refuses (evaluatePreparationReport (O := O) reachability control execution input) := by
  unfold evaluatePreparationReport
  split
  · exact .some rfl
  · split
    · split_ifs
      · exact .some rfl
      · exact .some rfl
    · split
      · next hunreachable => exact .some (refuses_evaluateAttemptReachability _ hunreachable)
      · dsimp only
        repeat' split
        all_goals first
          | exact .some rfl
          | exact .none

/-- What is decided about a completion writes nothing. -/
lemma refuses_evaluateOperationCompletion {input : CompleteOperationInput} :
    Refuses (evaluateOperationCompletion (O := O) control input) := by
  unfold evaluateOperationCompletion
  split
  · exact .some rfl
  · split
    · exact .some rfl
    · split_ifs
      all_goals first
        | exact .some rfl
        | exact .none

/-- What is decided about readiness writes nothing. -/
lemma refuses_evaluateRuntimeReadiness {input : MarkRuntimeReadyInput} :
    Refuses (evaluateRuntimeReadiness (O := O) control input) := by
  unfold evaluateRuntimeReadiness
  split
  · exact .some rfl
  · split
    · exact .some rfl
    · split
      · exact .some rfl
      · exact .none

/-! #### What an evaluator that permits the write has checked -/

/-- An attempt that is not refused is unsettled, active and allocated. -/
lemma evaluateAttemptReachability_none (h : evaluateAttemptReachability (O := O) facts = none) :
    facts.settled = false ∧ facts.active = true ∧ facts.allocated = true := by
  unfold evaluateAttemptReachability at h
  split_ifs at h with h₁ h₂ h₃ h₄
  exact ⟨by simpa using h₂, by simpa using h₃, by simpa using h₄⟩

/-- An attempt that is not refused is reachable. -/
lemma reachable_of_none {input : OwnedAttempt} (hs : Keyed s)
    (hattempt : s.attempts.get? input.executionAttemptId = some attempt)
    (hexecution : attempt.executionId = input.executionId) (h : runtimeReachability (O := O) s attempt = none) :
    Reachable s input attempt := by
  obtain ⟨hsettled, hactive, hallocated⟩ := evaluateAttemptReachability_none h
  simp only [Bool.and_eq_true, Bool.not_eq_true', Option.isSome_iff_ne_none] at hactive hallocated
  have hkey := hs.attempts _ _ hattempt
  refine ⟨hattempt, hexecution, by simpa using hsettled, ?_, hallocated.1.2, ?_⟩
  · rw [← hexecution, ← hkey]
    exact hactive.2
  · rw [← hkey]
    exact hallocated.2

/-- An admission that is not decided yet meets the conditions of the gate. -/
lemma mayAdmit_of_none {input : AdmitOperationInput}
    (h : evaluateOperationAdmission (O := O) attempt.toAttemptControlState input fallback
      attempt.toAttemptExecutionState = none) : MayAdmit attempt input := by
  unfold evaluateOperationAdmission at h
  split at h
  · split_ifs at h
  · next hidle =>
    split_ifs at h with hgate hready hgeneration hrequired hprepared hworkload
    refine ⟨hidle, gate_open hgate, by simpa using hgeneration, fun hkind => ?_,
      fun hkind hworkspace => ?_⟩
    · by_contra hdone
      exact hprepared ⟨hkind, by simpa using hdone⟩
    · by_contra hundone
      exact hworkload ⟨hkind, hworkspace, by simpa using hundone⟩

/-- A report that is not decided yet is of the admitted operation. -/
lemma mayReport_of_none {input : ReportOperationInput}
    (h : evaluatePreparationReport (O := O) reachability attempt.toAttemptControlState
      attempt.toAttemptExecutionState input = none) :
    evaluateAttemptReachability (O := O) reachability = none ∧ MayReport attempt input := by
  unfold evaluatePreparationReport at h
  split at h
  · cases h
  · split at h
    · split_ifs at h
    · next hnew =>
      split at h
      · cases h
      · next hreachable =>
        split at h
        · cases h
        · next hgeneration =>
          split at h
          · cases h
          · split at h
            · cases h
            · next hactive =>
              refine ⟨hreachable, fun receipt hreceipt => ?_, by simpa using hgeneration, ?_, ?_⟩
              · simpa using List.find?_eq_none.mp hnew receipt hreceipt
              · by_contra hid
                exact hactive (Or.inl hid)
              · by_contra hkind
                exact hactive (Or.inr hkind)

/-! #### Runtime, cancellation and settlement -/

/-- What `registerRuntime` changes. -/
lemma registerRuntime_change (hs : Keyed s) (input : RegisterRuntimeInput) :
    Makes s (.registerRuntime input) (registerRuntime (O := O) s input) := by
  refine .found rfl fun attempt hattempt => ?_
  refine .guard rfl fun hexecution => ?_
  refine .permitted (refuses_evaluateAttemptReachability.or refuses_evaluateRuntimeRegistration) fun hnone => ?_
  obtain ⟨hreach, hregister⟩ := Option.or_eq_none_iff.mp hnone
  rw [hs.setAttempt_eq hattempt]
  refine .registered (reachable_of_none hs hattempt (by simpa using hexecution) hreach) ?_
  unfold evaluateRuntimeRegistration at hregister
  split at hregister
  · cases hregister
  · split at hregister
    · split_ifs at hregister with hkind
      exact Or.inr (by simpa using hkind)
    · next hidle => exact Or.inl hidle

/-- What `admitOperation` changes. -/
lemma admitOperation_change (hs : Keyed s) (input : AdmitOperationInput) (operationId : String)
    (now : Instant) :
    Makes s (.admitOperation input operationId now) (admitOperation (O := O) s input operationId now) := by
  refine .found rfl fun attempt hattempt => ?_
  refine .guard rfl fun hexecution => ?_
  refine .permitted (refuses_evaluateAttemptReachability.or refuses_evaluateOperationAdmission) fun hnone => ?_
  obtain ⟨hreach, hmay⟩ := Option.or_eq_none_iff.mp hnone
  rw [hs.setAttempt_eq hattempt]
  exact .admitted (reachable_of_none hs hattempt (by simpa using hexecution) hreach) (mayAdmit_of_none hmay)

/-- What `reportOperation` changes. -/
lemma reportOperation_change (input : ReportOperationInput) :
    Makes s (.reportOperation input) (reportOperation (O := O) s input) := by
  refine .found rfl fun attempt hattempt => ?_
  refine .guard rfl fun hexecution => ?_
  refine .permitted refuses_evaluatePreparationReport fun hnone => ?_
  obtain ⟨hreach, hreport⟩ := mayReport_of_none hnone
  obtain ⟨hsettled, hactive, hallocated⟩ := evaluateAttemptReachability_none hreach
  simp only [Bool.and_eq_true, Bool.not_eq_true', Option.isSome_iff_ne_none] at hallocated
  split
  next => exact .unchanged trivial
  next receipts hreceipts =>
    unfold parsePreparationReceipts at hreceipts
    split_ifs at hreceipts
    cases hreceipts
    exact .reported ⟨hattempt, by simpa using hexecution, by simpa using hsettled, hactive,
      hallocated.1, hallocated.2⟩ hreport

/-- What `completeOperation` changes. -/
lemma completeOperation_change (hs : Keyed s) (input : CompleteOperationInput) :
    Makes s (.completeOperation input) (completeOperation (O := O) s input) := by
  refine .found rfl fun attempt hattempt => ?_
  refine .guard rfl fun hsettled => ?_
  refine .permitted refuses_evaluateOperationCompletion fun hnone => ?_
  rw [hs.setAttempt_eq hattempt]
  refine .completed hattempt (by simpa using hsettled) ?_
  unfold evaluateOperationCompletion at hnone
  split at hnone
  · cases hnone
  · split at hnone
    · cases hnone
    · next hactive =>
      split_ifs at hnone with hid
      rw [hactive]
      simpa using hid

/-- What `markRuntimeReady` changes. -/
lemma markRuntimeReady_change (hs : Keyed s) (input : MarkRuntimeReadyInput) :
    Makes s (.markRuntimeReady input) (markRuntimeReady (O := O) s input) := by
  unfold markRuntimeReady
  split
  next => exact .unchanged trivial
  refine .found rfl fun attempt hattempt => ?_
  refine .guard rfl fun hexecution => ?_
  refine .permitted (refuses_evaluateAttemptReachability.or refuses_evaluateRuntimeReadiness) fun hnone => ?_
  obtain ⟨hreach, -⟩ := Option.or_eq_none_iff.mp hnone
  rw [hs.setAttempt_eq hattempt]
  exact .readied (reachable_of_none hs hattempt (by simpa using hexecution) hreach)

/-- A stored intent is the one that is left. -/
lemma LeavesIntent.eq_stored {first stored : ExecutionAttemptCancellationIntent}
    (h : LeavesIntent s id first intent) (hstored : s.cancellations.get? id = some stored) :
    intent = stored := by
  rw [h, hstored, Option.getD_some]

/-- A replayed intent is the stored one. -/
lemma leavesIntent_of_replayed
    (h : evaluateAttemptCancellation (s.cancellations.get? id) requestKey reason now = .replayed intent) :
    LeavesIntent s id ⟨requestKey, 1, now, reason⟩ intent := by
  unfold evaluateAttemptCancellation at h
  unfold LeavesIntent
  split at h
  next stored hstored =>
    split_ifs at h
    rw [hstored]
    exact (CancellationEvaluation.replayed.inj h).symm
  next => cases h

/-- A first intent meets no stored one. -/
lemma leavesIntent_of_accepted
    (h : evaluateAttemptCancellation (s.cancellations.get? id) requestKey reason now = .accepted intent) :
    LeavesIntent s id ⟨requestKey, 1, now, reason⟩ intent := by
  unfold evaluateAttemptCancellation at h
  unfold LeavesIntent
  split at h
  next =>
    split_ifs at h
  next hnone =>
    rw [hnone]
    exact (CancellationEvaluation.accepted.inj h).symm

/-- What `requestAttemptCancellation` changes. -/
lemma requestAttemptCancellation_change (input : RequestAttemptCancellationInput) (now : Instant) :
    Makes s (.requestAttemptCancellation input now) (requestAttemptCancellation (O := O) s input now) := by
  refine .checked fun _ => ?_
  refine .found rfl fun attempt hattempt => ?_
  refine .guard rfl fun _ => ?_
  split
  next => exact .unchanged rfl
  next hreplayed => exact .cancelled (Or.inr rfl) hattempt (leavesIntent_of_replayed hreplayed)
  next haccepted => exact .cancelled (Or.inl rfl) hattempt (leavesIntent_of_accepted haccepted)

/-- The decisions of a fan-out that meets no conflict. -/
lemma fanOut_of_mapM {executionId : String}
    {decisions : List (String × ExecutionAttemptRecord × ExecutionAttemptCancellationIntent)}
    (h : (s.attempts.entries.filter fun e => e.2.executionId = executionId).mapM (fun e =>
      (fanOutIntent s e.1 requestKey reason now).map fun intent => (e.1, e.2, intent)) =
        some decisions) : FanOut s executionId ⟨requestKey, 1, now, reason⟩ decisions := by
  unfold FanOut
  generalize (s.attempts.entries.filter fun e => e.2.executionId = executionId) = owned at h
  induction owned generalizing decisions with
  | nil =>
    obtain rfl : [] = decisions := by simpa using h
    exact ⟨rfl, fun d hd => nomatch hd⟩
  | cons e owned ih =>
    rw [List.mapM_cons] at h
    obtain ⟨d, hd, h⟩ := Option.bind_eq_some_iff.mp h
    obtain ⟨ds, hds, h⟩ := Option.bind_eq_some_iff.mp h
    cases h
    obtain ⟨intent, hintent, rfl⟩ := Option.map_eq_some_iff.mp hd
    obtain ⟨hmap, hleaves⟩ := ih hds
    refine ⟨by rw [List.map_cons, hmap], fun d hd => ?_⟩
    rcases List.mem_cons.mp hd with rfl | hd
    · unfold fanOutIntent at hintent
      split at hintent
      · cases hintent
      · next hreplayed =>
        cases hintent
        exact leavesIntent_of_replayed hreplayed
      · next haccepted =>
        cases hintent
        exact leavesIntent_of_accepted haccepted
    · exact hleaves d hd

/-- What `requestCancellation` changes. -/
lemma requestCancellation_change (input : RequestExecutionCancellationInput) (requestKey : String)
    (now : Instant) :
    Makes s (.requestCancellation input requestKey now)
      (requestCancellation (O := O) s input requestKey now) := by
  refine .checked fun _ => ?_
  dsimp only
  split
  next => exact .unchanged trivial
  next decisions hdecisions => exact .cancelledAll (fanOut_of_mapM hdecisions)

/-- Control evidence that is not accepted announces no write. -/
lemma refuses_evaluateControlCorrelation {cancellation : Option ExecutionAttemptCancellationIntent}
    {input : ExecutionAttemptControlCorrelation} :
    Refuses (evaluateControlCorrelation (O := O) attempt cancellation input) := by
  unfold evaluateControlCorrelation
  split_ifs
  · exact .some rfl
  · exact .some rfl
  · exact .none

/-- What is decided about a receipt writes nothing. -/
lemma evaluateAttemptControlReceipt_quiet (attempt : Option ExecutionAttemptRecord)
    (cancellation : Option ExecutionAttemptCancellationIntent)
    (stored : Option ExecutionAttemptControlReceipt) (executionId : String)
    (input : ExecutionAttemptControlReceipt) :
    (evaluateAttemptControlReceipt (O := O) attempt cancellation stored executionId
      input).writes = false := by
  unfold evaluateAttemptControlReceipt
  split
  · rfl
  · split
    · rfl
    · split
      · split <;> rfl
      · rename_i attempt _ _
        cases hrefusal : (evaluateControlCorrelation attempt cancellation
            input.toExecutionAttemptControlCorrelation : Option (Decision O)) with
        | none => rfl
        | some refusal => exact refuses_evaluateControlCorrelation _ hrefusal

/-- What is decided about a control report writes nothing. -/
lemma evaluateAttemptControlReport_quiet (attempt : Option ExecutionAttemptRecord)
    (cancellation : Option ExecutionAttemptCancellationIntent)
    (stored : Option ExecutionAttemptControlReport) (executionId : String)
    (input : ExecutionAttemptControlReport) :
    (evaluateAttemptControlReport (O := O) attempt cancellation stored executionId
      input).writes = false := by
  unfold evaluateAttemptControlReport
  split
  · rfl
  · split
    · rfl
    · split
      · split <;> rfl
      · split
        · next hrefusal => exact refuses_evaluateControlCorrelation _ hrefusal
        · split <;> rfl

/-- What `recordAttemptControlReceipt` changes. -/
lemma recordAttemptControlReceipt_change (executionId : String)
    (receipt : ExecutionAttemptControlReceipt) :
    Makes s (.recordAttemptControlReceipt executionId receipt)
      (recordAttemptControlReceipt (O := O) s executionId receipt) := by
  refine .checked fun _ => ?_
  have hquiet := evaluateAttemptControlReceipt_quiet (O := O)
    (s.attempts.get? receipt.executionAttemptId) (s.cancellations.get? receipt.executionAttemptId)
    ((storedEvidence s receipt.executionAttemptId
      (receipt.controlRevision, receipt.runtimeGeneration)).bind fun evidence => evidence.receipt)
    executionId receipt
  dsimp only
  split
  next => exact .evidenceStored rfl hquiet
  next => exact .unchanged hquiet

/-- What `reportAttemptControl` changes. -/
lemma reportAttemptControl_change (executionId : String) (report : ExecutionAttemptControlReport) :
    Makes s (.reportAttemptControl executionId report)
      (reportAttemptControl (O := O) s executionId report) := by
  refine .checked fun _ => ?_
  have hquiet := evaluateAttemptControlReport_quiet (O := O)
    (s.attempts.get? report.executionAttemptId) (s.cancellations.get? report.executionAttemptId)
    ((storedEvidence s report.executionAttemptId
      (report.controlRevision, report.runtimeGeneration)).bind fun evidence => evidence.report)
    executionId report
  dsimp only
  split
  next => exact .evidenceStored rfl hquiet
  next => exact .unchanged hquiet

/-- What `commitOutcome` changes. -/
lemma commitOutcome_change (codec : OutcomeCodec O) (input : ExecutionAttemptOutcomeCommit) :
    Makes s (.commitOutcome input) (commitOutcome codec s input) := by
  refine .guard rfl fun hactive => ?_
  refine .found rfl fun attempt hattempt => ?_
  split
  next =>
    split
    next => exact .unchanged trivial
    next =>
      split
      next =>
        refine .unchanged ?_
        split <;> rfl
      next => exact .unchanged trivial
  next hnew =>
    refine .guard rfl fun hsettled => ?_
    refine .checked fun _ => ?_
    split
    next =>
      exact .committed (by simpa using hactive) hattempt (by simpa using hsettled) hnew (Or.inl ⟨_, rfl⟩)
    next =>
      exact .committed (by simpa using hactive) hattempt (by simpa using hsettled) hnew (Or.inr ⟨_, _, rfl⟩)

/-- What `abandonPendingAttempt` changes. -/
lemma abandonPendingAttempt_change (executionAttemptId executionId : String) :
    Makes s (.abandonPendingAttempt executionAttemptId executionId)
      (abandonPendingAttempt (O := O) s executionAttemptId executionId) := by
  refine .guard rfl fun hactive => ?_
  refine .found rfl fun attempt hattempt => ?_
  split
  next => exact .unchanged rfl
  next => exact .unchanged rfl
  next =>
    refine .unchanged ?_
    split <;> rfl
  next hpending => exact .abandoned (by simpa using hactive) hattempt hpending

/-- **Every call makes a listed change.** -/
theorem execute_change (codec : OutcomeCodec O) (hs : Keyed s) (a : Action) :
    Change s a (execute codec s a).2 (execute codec s a).1 := by
  cases a with
  | createAttempt input now => exact createAttempt_change input now
  | ensureAttempt input now => exact ensureAttempt_change input now
  | beginProvisioning input token => exact beginProvisioning_change input token
  | renewProviderOperationClaim claim lease => exact renewProviderOperationClaim_change claim lease
  | takeOverProviderOperation input token => exact takeOverProviderOperation_change input token
  | handoffProviderOperation claim evidence => exact handoffProviderOperation_change claim evidence
  | recordProviderOperationUncertainty claim evidence =>
    exact recordProviderOperationUncertainty_change claim evidence
  | completeProviderOperation claim evidence =>
    exact completeProviderOperation_change hs claim evidence
  | recordAllocation input => exact applyAllocation_change hs (Or.inl ⟨rfl, rfl⟩)
  | recordDiscoveredAllocation input => exact applyAllocation_change hs (Or.inr ⟨rfl, rfl⟩)
  | evolveAllocationRef input => exact evolveAllocationRef_change hs input
  | recordProvisioningAbsent input => exact recordProvisioningAbsent_change hs input
  | recordProvisionerIncarnationLost input => exact recordProvisionerIncarnationLost_change hs input
  | recordAllocationTerminated claim evidence =>
    exact recordAllocationTerminated_change hs claim evidence
  | recordInfrastructureFailure claim executionId =>
    exact recordInfrastructureFailure_change hs claim executionId
  | registerRuntime input => exact registerRuntime_change hs input
  | admitOperation input operationId now => exact admitOperation_change hs input operationId now
  | reportOperation input => exact reportOperation_change input
  | completeOperation input => exact completeOperation_change hs input
  | markRuntimeReady input => exact markRuntimeReady_change hs input
  | requestAttemptCancellation input now => exact requestAttemptCancellation_change input now
  | requestCancellation input requestKey now =>
    exact requestCancellation_change input requestKey now
  | recordAttemptControlReceipt executionId receipt =>
    exact recordAttemptControlReceipt_change executionId receipt
  | reportAttemptControl executionId report => exact reportAttemptControl_change executionId report
  | commitOutcome input => exact commitOutcome_change codec input
  | abandonPendingAttempt executionAttemptId executionId =>
    exact abandonPendingAttempt_change executionAttemptId executionId

/-- A call that presents a claim writes nothing, unless the claim is authorized. -/
lemma Change.of_claim {answer : Answer O} (h : Change s a answer t) (hclaim : a.claim? = some claim) :
    t = s ∨ ∃ attempt operation, Authorized s claim attempt operation := by
  cases h with
  | unchanged => exact Or.inl rfl
  | renewed h | handedOff h | uncertain h | evolved h | terminated h | failed h =>
    cases hclaim
    exact Or.inr ⟨_, _, h⟩
  | evidenced hclaim' _ h =>
    cases hclaim.symm.trans hclaim'
    exact Or.inr ⟨_, _, h⟩
  | closed hcloses h =>
    cases hclaim.symm.trans (Action.claim?_of_closes? hcloses)
    exact Or.inr ⟨_, _, h⟩
  | allocated haction h =>
    rcases haction with rfl | rfl
    · cases hclaim
      exact Or.inr ⟨_, _, h⟩
    · cases hclaim
      exact Or.inr ⟨_, _, h⟩
  | evidenceStored hclaim' => exact absurd (hclaim.symm.trans hclaim') (by simp)
  | created | ensured | unleased | started | takenOver | registered | admitted | reported
  | completed | readied | cancelled | cancelledAll | committed | abandoned =>
    exact absurd hclaim (by simp [Action.claim?])

end Calls

end Makaio.Attempts
