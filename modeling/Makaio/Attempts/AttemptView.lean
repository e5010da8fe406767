import Makaio.Attempts.WellFormed

set_option autoImplicit false

/-!
# The life of one attempt

The maps of the repository are read and written by attempt id.  The *view* of an attempt puts together
what they hold for it: the record, the provider operation, the cancellation intent, the committed outcome,
and whether the owner's pointer names it.  A call changes the view of each attempt by one of the steps
listed here, so the store behaves as a family of attempts that only the pointer ties together.

## Main definitions

* `AttemptView`, `Store.view` — what the maps hold for an attempt.
* `ViewStep` — how a call changes a view.

## Main results

* `view_execute` — a call changes the view of an attempt by a step.
* `view_execute_new` — an attempt that appears is a fresh one.
* `view_run_invariant` — what fresh attempts satisfy and steps preserve holds of every
  attempt after every run.
* `view_run_related`, `view_run_extended` — what each step respects holds
  between any two points of a run.
* `view_history_projection`, `view_history_shown` — what the history tells about an attempt is what its view
  shows.
-/

namespace Makaio.Attempts

open Foundations

/-! ### Views -/

/-- What the maps hold for one attempt. -/
structure AttemptView where
  record : ExecutionAttemptRecord
  /-- The pointer of the execution names the attempt. -/
  active : Bool
  cancellation : Option ExecutionAttemptCancellationIntent
  operation : Option ProviderOperationOwnershipRecord
  outcome : Option String
  observation : Option AttemptOutcomeControlObservation

/-- The view of an attempt; none if there is no such attempt. -/
def Store.view (s : Store) (id : String) : Option AttemptView :=
  (s.attempts.get? id).map fun record =>
    { record
      active := isActive s record.executionId id
      cancellation := s.cancellations.get? id
      operation := s.operations.get? id
      outcome := s.committedOutcomes.get? id
      observation := s.outcomeControlObservations.get? id }

/-- The view of an attempt that was just inserted. -/
def AttemptView.fresh (record : ExecutionAttemptRecord) : AttemptView where
  record := record
  active := true
  cancellation := none
  operation := none
  outcome := none
  observation := none

variable {id' : String} {operation : ProviderOperationOwnershipRecord} {r : ExecutionAttemptRecord}
  {w : AttemptView}

section Views

variable {s t : Store} {id : String} {v : AttemptView}

/-- An attempt is seen with the rows of its identifier. -/
lemma view_of_get? (h : s.attempts.get? id = some r) :
    s.view id = some ⟨r, isActive s r.executionId id, s.cancellations.get? id, s.operations.get? id,
      s.committedOutcomes.get? id, s.outcomeControlObservations.get? id⟩ := by
  rw [Store.view, h]
  rfl

/-- What is seen of an attempt has its record. -/
lemma get?_of_view (h : s.view id = some v) : s.attempts.get? id = some v.record := by
  obtain ⟨r, hr, rfl⟩ := Option.map_eq_some_iff.mp h
  exact hr

/-- An attempt is seen when it is stored. -/
lemma view_eq_none_iff : s.view id = none ↔ s.attempts.get? id = none := Option.map_eq_none_iff

/-- A view depends on the entries of its attempt and the pointers. -/
lemma view_congr (hattempts : t.attempts.get? id = s.attempts.get? id)
    (hactive : t.activeAttempts = s.activeAttempts)
    (hcancellations : t.cancellations.get? id = s.cancellations.get? id)
    (hoperations : t.operations.get? id = s.operations.get? id)
    (houtcomes : t.committedOutcomes.get? id = s.committedOutcomes.get? id)
    (hobservations : t.outcomeControlObservations.get? id = s.outcomeControlObservations.get? id) :
    t.view id = s.view id := by
  unfold Store.view isActive
  rw [hattempts, hactive, hcancellations, hoperations, houtcomes, hobservations]

/-- Writing a record leaves the other attempts. -/
lemma view_setAttempt_of_ne (hne : id ≠ id') (r : ExecutionAttemptRecord) :
    (s.setAttempt id' r).view id = s.view id :=
  view_congr (OrderedMap.get?_set_of_ne _ _ hne) rfl rfl rfl rfl rfl

/-- Writing an operation leaves the other attempts. -/
lemma view_setOperation_of_ne (hne : id ≠ id') (operation : ProviderOperationOwnershipRecord) :
    (s.setOperation id' operation).view id = s.view id :=
  view_congr rfl rfl rfl (OrderedMap.get?_set_of_ne _ _ hne) rfl rfl

/-- A record that is written is seen. -/
lemma view_setAttempt_self (h : s.view id = some v) (hexecution : r.executionId = v.record.executionId) :
    (s.setAttempt id r).view id = some { v with record := r } := by
  obtain ⟨r₀, -, rfl⟩ := Option.map_eq_some_iff.mp h
  rw [view_of_get? (OrderedMap.get?_set_self _ _ _), hexecution]
  rfl

/-- An operation that is written is seen. -/
lemma view_setOperation_self (h : s.view id = some v)
    (operation : ProviderOperationOwnershipRecord) :
    (s.setOperation id operation).view id = some { v with operation := some operation } := by
  obtain ⟨r, hr, rfl⟩ := Option.map_eq_some_iff.mp h
  have hoperation : (s.setOperation id operation).operations.get? id = some operation :=
    OrderedMap.get?_set_self _ _ _
  rw [view_of_get? (show (s.setOperation id operation).attempts.get? id = some r from hr), hoperation]
  rfl

/-- Recording a cancellation leaves the other attempts. -/
lemma view_recordCancellation_of_ne (hne : id ≠ id') (r : ExecutionAttemptRecord)
    (intent : ExecutionAttemptCancellationIntent) :
    (recordCancellation s id' r intent).view id = s.view id :=
  view_congr (OrderedMap.get?_set_of_ne _ _ hne) rfl (OrderedMap.get?_set_of_ne _ _ hne) rfl rfl rfl

/-- A cancellation that is recorded is seen. -/
lemma view_recordCancellation_self (h : s.view id = some v)
    (intent : ExecutionAttemptCancellationIntent) :
    (recordCancellation s id v.record intent).view id =
      some { v with
        record := { v.record with operationStartGate := .closed }
        cancellation := some intent } := by
  obtain ⟨r, -, rfl⟩ := Option.map_eq_some_iff.mp h
  have hcancellation : (recordCancellation s id r intent).cancellations.get? id = some intent :=
    OrderedMap.get?_set_self _ _ _
  rw [view_of_get? (OrderedMap.get?_set_self _ _ _), hcancellation]
  rfl

/-- Completion evidence of another attempt. -/
lemma view_recordProviderCompletionEvidence_of_ne (hs : WellFormed s)
    (hoperation : s.operations.get? id' = some operation) (hne : id ≠ id')
    (evidence : BoundedRecoveryEvidence) :
    (recordProviderCompletionEvidence t operation evidence).view id = t.view id := by
  unfold recordProviderCompletionEvidence
  split_ifs
  · rfl
  · rw [hs.setOperation_eq hoperation, view_setOperation_of_ne hne]

/-- Completion evidence is recorded when there is none. -/
lemma view_recordProviderCompletionEvidence (hs : WellFormed s) (h : t.view id = some v)
    (hview : v.operation = some operation) (hoperation : s.operations.get? id = some operation)
    (evidence : BoundedRecoveryEvidence) :
    (recordProviderCompletionEvidence t operation evidence).view id = some
      { v with
        operation := some
          { operation with
            completionEvidence := operation.completionEvidence.or (some evidence) } } := by
  unfold recordProviderCompletionEvidence
  split_ifs with hevidence
  · obtain ⟨stored, hstored⟩ := Option.isSome_iff_exists.mp hevidence
    have hsame : operation =
        { operation with
          completionEvidence := operation.completionEvidence.or (some evidence) } := by
      rw [hstored, Option.some_or, ← hstored]
    rw [← hsame, ← hview, h]
  · have hnone : operation.completionEvidence = none := by simpa using hevidence
    rw [hs.setOperation_eq hoperation, view_setOperation_self h, hnone]
    rfl

end Views

/-! ### Steps of a view -/

/-- The attempt a call is about; none for an owner-wide cancellation. -/
def Action.target? : Action → Option String
  | .createAttempt input _ => some input.executionAttemptId
  | .ensureAttempt input _ => some input.executionAttemptId
  | .beginProvisioning input _ => some input.executionAttemptId
  | .renewProviderOperationClaim claim _ => some claim.executionAttemptId
  | .takeOverProviderOperation input _ => some input.executionAttemptId
  | .handoffProviderOperation claim _ => some claim.executionAttemptId
  | .recordProviderOperationUncertainty claim _ => some claim.executionAttemptId
  | .completeProviderOperation claim _ => some claim.executionAttemptId
  | .recordAllocation input => some input.claim.executionAttemptId
  | .recordDiscoveredAllocation input => some input.claim.executionAttemptId
  | .evolveAllocationRef input => some input.claim.executionAttemptId
  | .recordProvisioningAbsent input => some input.claim.executionAttemptId
  | .recordProvisionerIncarnationLost input => some input.claim.executionAttemptId
  | .recordAllocationTerminated claim _ => some claim.executionAttemptId
  | .recordInfrastructureFailure claim _ => some claim.executionAttemptId
  | .registerRuntime input => some input.executionAttemptId
  | .admitOperation input _ _ => some input.executionAttemptId
  | .reportOperation input => some input.executionAttemptId
  | .completeOperation input => some input.executionAttemptId
  | .markRuntimeReady input => some input.executionAttemptId
  | .requestAttemptCancellation input _ => some input.executionAttemptId
  | .requestCancellation _ _ _ => none
  | .recordAttemptControlReceipt _ receipt => some receipt.executionAttemptId
  | .reportAttemptControl _ report => some report.executionAttemptId
  | .commitOutcome input => some input.executionAttemptId
  | .abandonPendingAttempt executionAttemptId _ => some executionAttemptId

/-- The attempt a call inserts. -/
def Action.inserts? : Action → Option ExecutionAttemptCreate
  | .createAttempt input _ => some input
  | .ensureAttempt input _ => some input.toExecutionAttemptCreate
  | _ => none

variable {claim : ProviderOperationClaim}

/-- A call that presents a claim is about the claim's attempt. -/
lemma Action.target?_of_claim? {a : Action} (h : a.claim? = some claim) :
    a.target? = some claim.executionAttemptId := by
  cases a <;> simp only [Action.claim?, Option.some.injEq, reduceCtorEq] at h
  all_goals
    rw [← h]
    rfl

/-- The claim matches the unresolved provider operation of the attempt. -/
structure AttemptView.Authorized (v : AttemptView) (claim : ProviderOperationClaim)
    (operation : ProviderOperationOwnershipRecord) : Prop where
  target : claim.executionAttemptId = v.record.executionAttemptId
  owned : v.operation = some operation
  unresolved : isProviderOperationResolved v.record operation = false
  matching : matchesClaim operation claim = true

/-- The guards of `beginProvisioning`. -/
structure AttemptView.MayProvision (v : AttemptView) (input : BeginProvisioningInput) : Prop where
  target : input.executionAttemptId = v.record.executionAttemptId
  active : v.active = true
  unsettled : v.record.settlementKind = none
  unallocated : v.record.allocationRef = none
  gate : v.record.operationStartGate = .open
  pending : v.record.status = .pending

/-- The guards shared by registration, admission, readiness and preparation reports. -/
structure AttemptView.Reachable (v : AttemptView) (input : OwnedAttempt) : Prop where
  target : input.executionAttemptId = v.record.executionAttemptId
  unsettled : v.record.settlementKind = none
  active : v.active = true
  allocated : v.record.allocationRef ≠ none
  running : ∀ operation, v.operation = some operation → operation.obligation ≠ .terminalConvergence

section Steps

variable {O : Type}

/-- **The steps of a view**, each with the call that makes it, its answer and the guards that held. -/
inductive ViewStep : Action → Answer O → AttemptView → AttemptView → Prop
  /-- A call about another attempt, or one that is refused. -/
  | same {a : Action} {answer : Answer O} {v : AttemptView}
      (hquiet : a.target? = some v.record.executionAttemptId → Quiet answer) : ViewStep a answer v v
  /-- A newer attempt of the same execution replaces the active one. -/
  | superseded {a : Action} {answer : Answer O} {v : AttemptView} {input : ExecutionAttemptCreate}
      (hinput : a.inserts? = some input) (hactive : v.active = true)
      (hexecution : input.executionId = v.record.executionId)
      (hne : input.executionAttemptId ≠ v.record.executionAttemptId) :
      ViewStep a answer v { v with record := supersededRecord v.record, active := false }
  | unleased {v : AttemptView} {input : BeginProvisioningInput} {token : String} {e : AttemptError}
      (h : v.MayProvision input) :
      ViewStep (.beginProvisioning input token) (.error e) v
        { v with record := provisionedRecord v.record input }
  | started {v : AttemptView} {input : BeginProvisioningInput} {token : String}
      {leaseExpiresAt : Instant} (h : v.MayProvision input) :
      ViewStep (.beginProvisioning input token)
        (.ok (.started ⟨input.executionAttemptId, 1, input.ownerId, token, leaseExpiresAt⟩)) v
        { v with
          record := provisionedRecord v.record input
          operation := some (startedOperation input token leaseExpiresAt) }
  | renewed {v : AttemptView} {claim : ProviderOperationClaim} {lease : Timestamp}
      {leaseExpiresAt : Instant} {operation : ProviderOperationOwnershipRecord}
      (h : v.Authorized claim operation) :
      ViewStep (.renewProviderOperationClaim claim lease)
        (.ok (.claimed { claim with leaseExpiresAt := leaseExpiresAt })) v
        { v with operation := some { operation with leaseExpiresAt := some leaseExpiresAt } }
  | takenOver {v : AttemptView} {input : TakeOverProviderOperationInput} {token : String}
      {leaseExpiresAt : Instant} {operation : ProviderOperationOwnershipRecord}
      (htarget : input.executionAttemptId = v.record.executionAttemptId)
      (hoperation : v.operation = some operation)
      (hunresolved : isProviderOperationResolved v.record operation = false) :
      ViewStep (.takeOverProviderOperation input token)
        (.ok (.claimed ⟨input.executionAttemptId, operation.generation + 1, input.ownerId, token,
          leaseExpiresAt⟩)) v
        { v with
          operation := some
            { operation with
              generation := operation.generation + 1
              ownerId := some input.ownerId
              token := some token
              leaseExpiresAt := some leaseExpiresAt } }
  | handedOff {v : AttemptView} {claim : ProviderOperationClaim}
      {evidence : Option BoundedRecoveryEvidence} {operation : ProviderOperationOwnershipRecord}
      (h : v.Authorized claim operation) :
      ViewStep (.handoffProviderOperation claim evidence) (.ok .recorded) v
        { v with
          operation := some
            { operation with
              ownerId := none
              token := none
              leaseExpiresAt := none
              lastFailure := evidence.or operation.lastFailure } }
  | uncertain {v : AttemptView} {claim : ProviderOperationClaim} {evidence : BoundedRecoveryEvidence}
      {operation : ProviderOperationOwnershipRecord} (h : v.Authorized claim operation) :
      ViewStep (.recordProviderOperationUncertainty claim evidence) (.ok .recorded) v
        { v with
          operation := some
            { operation with
              failureCount := operation.failureCount + 1
              lastFailure := some evidence } }
  | evidenced {v : AttemptView} {a : Action} {answer : Answer O} {claim : ProviderOperationClaim}
      {evidence : BoundedRecoveryEvidence} {operation : ProviderOperationOwnershipRecord}
      (hclaim : a.claim? = some claim)
      (hanswer : answer = .ok .evidenceRecorded ∨ answer = .ok .completed)
      (h : v.Authorized claim operation) (hnone : operation.completionEvidence = none) :
      ViewStep a answer v
        { v with operation := some { operation with completionEvidence := some evidence } }
  | allocated {v : AttemptView} {a : Action} {input : RecordAllocationInput} {claimable : Bool}
      {operation : ProviderOperationOwnershipRecord}
      (haction : a = .recordAllocation input ∨ a = .recordDiscoveredAllocation input)
      (h : v.Authorized input.claim operation)
      (hprovider : v.record.providerId = some input.allocationRef.providerId)
      (hnone : v.record.allocationRef = none)
      (hclaimable : claimable = true → v.record.settlementKind = none ∧ v.active = true ∧
        a = .recordAllocation input) :
      ViewStep a (.ok .recorded) v
        { v with
          record := allocatedRecord v.record input.allocationRef claimable
          operation := some { operation with obligation := .allocationControl } }
  | evolved {v : AttemptView} {input : AllocationRefEvolution}
      {operation : ProviderOperationOwnershipRecord} (h : v.Authorized input.claim operation)
      (hstored : v.record.allocationRef = some input.currentRef) :
      ViewStep (.evolveAllocationRef input) (.ok .evolved) v
        { v with record := { v.record with allocationRef := some input.nextRef } }
  | closed {v : AttemptView} {a : Action} {claim : ProviderOperationClaim}
      {evidence : BoundedRecoveryEvidence} {operation : ProviderOperationOwnershipRecord}
      (hcloses : a.closes? = some claim) (h : v.Authorized claim operation)
      (hunallocated : v.record.allocationRef = none) (hunsettled : v.record.settlementKind = none) :
      ViewStep a (.ok .recorded) v
        { v with
          record := settleAttempt v.record .abandoned
          operation := some
            { operation with
              completionEvidence := operation.completionEvidence.or (some evidence) } }
  | terminated {v : AttemptView} {claim : ProviderOperationClaim}
      {evidence : BoundedRecoveryEvidence} {operation : ProviderOperationOwnershipRecord}
      (h : v.Authorized claim operation) (hallocated : v.record.allocationRef ≠ none) :
      ViewStep (.recordAllocationTerminated claim evidence) (.ok .recorded) v
        { v with
          operation := some
            { operation with
              obligation := .terminalConvergence
              lastFailure := some evidence } }
  | failed {v : AttemptView} {claim : ProviderOperationClaim} {executionId : String}
      {operation : ProviderOperationOwnershipRecord} (h : v.Authorized claim operation)
      (hunsettled : v.record.settlementKind = none) (hallocated : v.record.allocationRef ≠ none)
      (hterminated : operation.obligation = .terminalConvergence) :
      ViewStep (.recordInfrastructureFailure claim executionId) (.ok .recorded) v
        { v with record := settleAttempt v.record .infrastructureFailure }
  | registered {v : AttemptView} {input : RegisterRuntimeInput}
      (h : v.Reachable input.toOwnedAttempt)
      (hidle : v.record.activeOperationId = none ∨
        v.record.activeOperationKind = some .runtimeProbe) :
      ViewStep (.registerRuntime input) (.ok (.registered (v.record.runtimeGeneration + 1))) v
        { v with record := registeredRecord v.record input.runtimeIncarnationId }
  | admitted {v : AttemptView} {input : AdmitOperationInput} {operationId : String} {now : Instant}
      (h : v.Reachable input.toOwnedAttempt) (hmay : MayAdmit v.record input) :
      ViewStep (.admitOperation input operationId now)
        (.ok (.admitted operationId v.record.runtimeGeneration now)) v
        { v with record := admittedRecord v.record input operationId now }
  | reported {v : AttemptView} {input : ReportOperationInput}
      (h : v.Reachable input.toOwnedAttempt) (hreport : MayReport v.record input) :
      ViewStep (.reportOperation input) (.ok (.acceptedReport input.result.binding)) v
        { v with record := reportedRecord v.record input }
  | completed {v : AttemptView} {input : CompleteOperationInput}
      (htarget : input.executionAttemptId = v.record.executionAttemptId)
      (hunsettled : v.record.settlementKind = none)
      (hactive : v.record.activeOperationId = some input.operationId) :
      ViewStep (.completeOperation input) (.ok .completed) v
        { v with record := completedRecord v.record input.operationId }
  | readied {v : AttemptView} {input : MarkRuntimeReadyInput} {acceptedAt : Instant}
      (h : v.Reachable input.toOwnedAttempt) :
      ViewStep (.markRuntimeReady input) (.ok (.ready acceptedAt)) v
        { v with record := { v.record with runtimeReadyAt := some acceptedAt } }
  | cancelled {v : AttemptView} {a : Action} {answer : Answer O}
      {intent : ExecutionAttemptCancellationIntent}
      (haction : (∃ input now, a = .requestAttemptCancellation input now ∧
          input.executionAttemptId = v.record.executionAttemptId ∧
          (answer = .ok (.acceptedCancellation intent) ∨
            answer = .ok (.replayedCancellation intent))) ∨
        ∃ input requestKey now, a = .requestCancellation input requestKey now ∧
          input.executionId = v.record.executionId ∧ answer = .ok .cancellationRecorded)
      (hintent : ∀ stored, v.cancellation = some stored → intent = stored) :
      ViewStep a answer v
        { v with
          record := { v.record with operationStartGate := .closed }
          cancellation := some intent }
  | committed {v : AttemptView} {input : ExecutionAttemptOutcomeCommit} {answer : Answer O}
      (htarget : input.executionAttemptId = v.record.executionAttemptId)
      (hactive : v.active = true) (hunsettled : v.record.settlementKind = none)
      (hnew : v.outcome = none)
      (hanswer : (∃ e, answer = .error e) ∨
        ∃ outcome observation, answer = .ok (.acceptedOutcome outcome input.text observation)) :
      ViewStep (.commitOutcome input) answer v
        { v with
          record := settleAttempt v.record .outcome
          outcome := some input.text
          observation := some (snapshotAttemptOutcomeControl v.cancellation) }
  | abandoned {v : AttemptView} {executionAttemptId executionId : String}
      (htarget : executionAttemptId = v.record.executionAttemptId)
      (hactive : v.active = true) (hpending : v.record.status = .pending) :
      ViewStep (.abandonPendingAttempt executionAttemptId executionId) (.ok .abandoned) v
        { v with record := settleAttempt v.record .abandoned }

/-- The execution of an attempt never changes. -/
lemma executionId_of_viewStep {a : Action} {answer : Answer O} {v : AttemptView} (h : ViewStep a answer v w) :
    w.record.executionId = v.record.executionId := by
  cases h <;> rfl

/-! ### A call makes a step of every view -/

variable {s t : Store} {a : Action} {answer : Answer O}

/-- A change is a step of each view. -/
def StepsViews (s : Store) (a : Action) (answer : Answer O) (t : Store) : Prop :=
  ∀ id v, s.view id = some v → ∃ w, t.view id = some w ∧ ViewStep a answer v w

/-- A write to the entries of one attempt is a step of each view if it is one of that attempt's. -/
lemma stepsViews_of_target (hs : WellFormed s) {id₀ : String} (htarget : a.target? = some id₀)
    (hother : ∀ id, id ≠ id₀ → t.view id = s.view id)
    (hself : ∀ v, s.view id₀ = some v → v.record.executionAttemptId = id₀ →
      ∃ w, t.view id₀ = some w ∧ ViewStep a answer v w) : StepsViews s a answer t := by
  intro id v hv
  have hid : v.record.executionAttemptId = id := hs.attempts id _ (get?_of_view hv)
  by_cases h : id = id₀
  · subst h
    exact hself v hv hid
  · refine ⟨v, (hother id h).trans hv, .same fun h' => absurd ?_ h⟩
    exact hid.symm.trans (Option.some.inj (h'.symm.trans htarget))

/-- A store that looks the same to every view. -/
lemma stepsViews_of_eq (hview : ∀ id, t.view id = s.view id) (hquiet : Quiet answer) :
    StepsViews s a answer t := fun id v hv => ⟨v, (hview id).trans hv, .same fun _ => hquiet⟩

variable {attempt : ExecutionAttemptRecord} {input : ExecutionAttemptCreate}
variable {v : AttemptView} {id : String}

/-- The record the guards speak about is the one of the view. -/
lemma record_eq (hv : s.view id = some v) (hattempt : s.attempts.get? id = some attempt) :
    attempt = v.record :=
  Option.some.inj (hattempt.symm.trans (get?_of_view hv))

/-- The operation of a view is the stored one. -/
lemma operation_of_view (hv : s.view id = some v) : v.operation = s.operations.get? id := by
  obtain ⟨r, -, rfl⟩ := Option.map_eq_some_iff.mp hv
  rfl

/-- A view is active when the pointer leads to it. -/
lemma active_of_view (hv : s.view id = some v) : v.active = isActive s v.record.executionId id := by
  obtain ⟨r, -, rfl⟩ := Option.map_eq_some_iff.mp hv
  rfl

/-- The cancellation of a view is the stored one. -/
lemma cancellation_of_view (hv : s.view id = some v) :
    v.cancellation = s.cancellations.get? id := by
  obtain ⟨r, -, rfl⟩ := Option.map_eq_some_iff.mp hv
  rfl

/-- The outcome of a view is the stored one. -/
lemma outcome_of_view (hv : s.view id = some v) : v.outcome = s.committedOutcomes.get? id := by
  obtain ⟨r, -, rfl⟩ := Option.map_eq_some_iff.mp hv
  rfl

/-- The pointer of any execution that names an attempt is the pointer of its own. -/
lemma active_of_isActive (hs : WellFormed s) {id executionId : String} (hv : s.view id = some v)
    (hactive : isActive s executionId id = true) : v.active = true := by
  obtain ⟨r, hr, hexecution⟩ := hs.pointer executionId id (by simpa [isActive] using hactive)
  obtain rfl := record_eq hv hr
  rw [active_of_view hv, hexecution, hactive]

/-- A claim that the store authorizes is one that the view authorizes. -/
lemma Authorized.view (h : Authorized s claim attempt operation)
    (hv : s.view claim.executionAttemptId = some v)
    (hid : v.record.executionAttemptId = claim.executionAttemptId) :
    attempt = v.record ∧ v.Authorized claim operation := by
  obtain rfl := record_eq hv h.found
  exact ⟨rfl, hid.symm, (operation_of_view hv).trans h.owned, h.unresolved, h.matching⟩

/-- Who may provision is seen so. -/
lemma MayProvision.view {input : BeginProvisioningInput} (hs : WellFormed s)
    (h : MayProvision s input attempt) (hv : s.view input.executionAttemptId = some v)
    (hid : v.record.executionAttemptId = input.executionAttemptId) :
    attempt = v.record ∧ v.MayProvision input := by
  obtain rfl := record_eq hv h.found
  exact ⟨rfl, hid.symm, active_of_isActive hs hv h.active, h.unsettled, h.unallocated, h.gate,
    h.pending⟩

/-- Who is reachable is seen so. -/
lemma Reachable.view {input : OwnedAttempt} (hs : WellFormed s) (h : Reachable s input attempt)
    (hv : s.view input.executionAttemptId = some v)
    (hid : v.record.executionAttemptId = input.executionAttemptId) :
    attempt = v.record ∧ v.Reachable input := by
  obtain rfl := record_eq hv h.found
  refine ⟨rfl, hid.symm, h.unsettled, active_of_isActive hs hv h.active, h.allocated, ?_⟩
  intro operation hoperation hterminal
  have hrunning := h.running
  rw [allocationTerminated, ← operation_of_view hv, hoperation] at hrunning
  simp [hterminal] at hrunning

/-! ### The insertion of an attempt -/

/-- The attempts that an insertion leaves as they are. -/
lemma view_insertedStore_of_ne (hs : WellFormed s) {record : ExecutionAttemptRecord}
    (hinput : a.inserts? = some input) (htarget : a.target? = some input.executionAttemptId)
    (hne : id ≠ input.executionAttemptId) (hv : s.view id = some v) :
    ∃ w, (insertedStore s input record).view id = some w ∧ ViewStep a answer v w := by
  have hid : v.record.executionAttemptId = id := hs.attempts id _ (get?_of_view hv)
  obtain ⟨-, hoperations, houtcomes, hobservations, hactive, -, hcancellations⟩ :=
    hs.supersede_frame input.executionId
  have hattempts : (insertedStore s input record).attempts.get? id =
      (supersede s input.executionId).attempts.get? id := OrderedMap.get?_set_of_ne _ _ hne
  have hpointer : ∀ executionId, isActive (insertedStore s input record) executionId id =
      if executionId = input.executionId then false else isActive s executionId id := by
    intro executionId
    have hset : (insertedStore s input record).activeAttempts =
        (supersede s input.executionId).activeAttempts.set input.executionId
          input.executionAttemptId := rfl
    rw [isActive, hset, hactive, OrderedMap.get?_set]
    split_ifs
    · simpa using hne.symm
    · rfl
  have hview : ∀ r, (supersede s input.executionId).attempts.get? id = some r →
      r.executionId = v.record.executionId →
      (insertedStore s input record).view id = some
        { v with
          record := r
          active := if v.record.executionId = input.executionId then false else v.active } := by
    intro r hr hexecution
    obtain ⟨r₀, -, rfl⟩ := Option.map_eq_some_iff.mp hv
    rw [view_of_get? (hattempts.trans hr), hpointer, hexecution, ← hoperations, ← houtcomes,
      ← hobservations, ← hcancellations]
    rfl
  have hsame : ViewStep a answer v v := .same fun h => absurd
    (hid.symm.trans (Option.some.inj (h.symm.trans htarget))) hne
  by_cases hexecution : v.record.executionId = input.executionId
  · rcases hs.supersede_cases input.executionId with ⟨hnone, heq⟩ | ⟨id', r', hpointed, hr', -, heq⟩
    · -- nothing is superseded, so the attempt was not active
      have hinactive : v.active = false := by
        rw [active_of_view hv, isActive, hexecution, hnone]
        rfl
      have hr : (supersede s input.executionId).attempts.get? id = some v.record := by
        rw [heq]
        exact get?_of_view hv
      refine ⟨v, ?_, hsame⟩
      rw [hview v.record hr rfl, if_pos hexecution, ← hinactive]
    · by_cases hid' : id' = id
      · subst hid'
        obtain rfl := record_eq hv hr'
        refine ⟨{ v with record := supersededRecord v.record, active := false }, ?_, ?_⟩
        · rw [hview (supersededRecord v.record) (heq ▸ OrderedMap.get?_set_self _ _ _) rfl,
            if_pos hexecution]
        · refine .superseded hinput ?_ hexecution.symm (hid ▸ hne.symm)
          rw [active_of_view hv, isActive, hexecution, hpointed]
          simp
      · have hinactive : v.active = false := by
          rw [active_of_view hv, isActive, hexecution, hpointed]
          simpa using hid'
        have hr : (supersede s input.executionId).attempts.get? id = some v.record := by
          rw [heq]
          exact (OrderedMap.get?_set_of_ne _ _ (Ne.symm hid')).trans (get?_of_view hv)
        refine ⟨v, ?_, hsame⟩
        rw [hview v.record hr rfl, if_pos hexecution, ← hinactive]
  · -- the superseded attempt is one of another execution
    have hr : (supersede s input.executionId).attempts.get? id = some v.record := by
      rcases hs.supersede_cases input.executionId with ⟨-, heq⟩ | ⟨id', r', -, hr', hexecution', heq⟩
      · rw [heq]
        exact get?_of_view hv
      · rw [heq]
        refine (OrderedMap.get?_set_of_ne _ _ ?_).trans (get?_of_view hv)
        rintro rfl
        obtain rfl := record_eq hv hr'
        exact hexecution hexecution'
    refine ⟨v, ?_, hsame⟩
    rw [hview v.record hr rfl, if_neg hexecution]

variable {createdAt deadline : Instant}

/-- The inserted attempt. -/
lemma view_insertedStore_self (hs : WellFormed s) (hfresh : s.attempts.get? input.executionAttemptId = none) :
    (insertedStore s input (newRecord input createdAt deadline)).view input.executionAttemptId =
      some (.fresh (newRecord input createdAt deadline)) := by
  obtain ⟨-, hoperations, houtcomes, hobservations, hactive, -, hcancellations⟩ :=
    hs.supersede_frame input.executionId
  have hunknown : ∀ {V : Type} (m : OrderedMap String V),
      (∀ r, m.get? input.executionAttemptId = some r →
        ∃ r, s.attempts.get? input.executionAttemptId = some r) →
      m.get? input.executionAttemptId = none := by
    intro V m hknown
    rw [Option.eq_none_iff_forall_ne_some]
    intro r hr
    obtain ⟨r', hr'⟩ := hknown r hr
    exact absurd (hr'.symm.trans hfresh) (by simp)
  rw [view_of_get? (r := newRecord input createdAt deadline) (OrderedMap.get?_set_self _ _ _)]
  have hpointer : isActive (insertedStore s input (newRecord input createdAt deadline))
      input.executionId input.executionAttemptId = true := by
    simp [isActive, insertedStore]
  have hcancellation := hunknown s.cancellations (hs.cancellations_known _)
  have hoperation := hunknown s.operations (hs.operations_known _)
  have houtcome := hunknown s.committedOutcomes (hs.outcomes_known _)
  have hobservation := hunknown s.outcomeControlObservations (hs.observations_known _)
  rw [← hcancellations] at hcancellation
  rw [← hoperations] at hoperation
  rw [← houtcomes] at houtcome
  rw [← hobservations] at hobservation
  exact congrArg some (AttemptView.mk.injEq .. ▸
    ⟨rfl, hpointer, hcancellation, hoperation, houtcome, hobservation⟩)

/-! ### Every change is a step -/

/-- An owner-wide cancellation is a step of each view. -/
lemma stepsViews_cancelledAll {input : RequestExecutionCancellationInput}
    {requestKey : String} {now : Instant}
    {decisions : List (String × ExecutionAttemptRecord × ExecutionAttemptCancellationIntent)}
    (hdecisions : FanOut s input.executionId ⟨requestKey, 1, now, input.reason⟩ decisions) :
    StepsViews (O := O) s (.requestCancellation input requestKey now) (.ok .cancellationRecorded)
      (decisions.foldl (fun s d => recordCancellation s d.1 d.2.1 d.2.2) s) := by
  obtain ⟨hnodup, hfound, howned, hall⟩ := hdecisions.spec
  obtain ⟨hin, hout, hoperations, houtcomes, hobservations, hactive, -, -⟩ :=
    foldl_recordCancellation hnodup hfound
  intro id v hv
  by_cases hexecution : v.record.executionId = input.executionId
  · obtain ⟨d, hd, rfl, hrecord⟩ := hall id v.record (get?_of_view hv) hexecution
    obtain ⟨hattempt, hcancellation⟩ := hin d hd
    refine ⟨{ v with
      record := { v.record with operationStartGate := .closed }
      cancellation := some d.2.2 }, ?_, .cancelled ?_ ?_⟩
    · rw [view_of_get? hattempt, hcancellation, hoperations, houtcomes, hobservations]
      obtain ⟨r, -, rfl⟩ := Option.map_eq_some_iff.mp hv
      unfold isActive
      rw [hactive, hrecord]
    · exact Or.inr ⟨input, requestKey, now, rfl, hexecution.symm, rfl⟩
    · intro stored hstored
      exact (hdecisions.2 d hd).eq_stored ((cancellation_of_view hv).symm.trans hstored)
  · have hnot : ∀ d ∈ decisions, d.1 ≠ id := by
      rintro d hd rfl
      exact hexecution (record_eq hv (hfound d hd) ▸ howned d hd)
    obtain ⟨hattempt, hcancellation⟩ := hout id hnot
    refine ⟨v, ?_, .same fun h => absurd h (by simp [Action.target?])⟩
    rw [view_congr hattempt hactive hcancellation (by rw [hoperations]) (by rw [houtcomes])
      (by rw [hobservations])]
    exact hv

/-- **A change is a step of each view.** -/
theorem stepsViews_of_change (hs : WellFormed s) (h : Change s a answer t) :
    StepsViews s a answer t := by
  cases h with
  | unchanged hquiet => exact stepsViews_of_eq (fun _ => rfl) hquiet
  | created hfresh | ensured _ hfresh =>
    intro id v hv
    refine view_insertedStore_of_ne hs rfl rfl ?_ hv
    rintro rfl
    exact absurd ((get?_of_view hv).symm.trans hfresh) (by simp)
  | unleased h =>
    refine stepsViews_of_target hs rfl (fun _ hne => view_setAttempt_of_ne hne _) fun v hv hid => ?_
    obtain ⟨rfl, hmay⟩ := h.view hs hv hid
    exact ⟨_, view_setAttempt_self hv rfl, .unleased hmay⟩
  | @started input _ _ _ h =>
    refine stepsViews_of_target hs rfl (fun _ hne => ?_) fun v hv hid => ?_
    · rw [view_setOperation_of_ne hne, view_setAttempt_of_ne hne]
    · obtain ⟨rfl, hmay⟩ := h.view hs hv hid
      have hv' := view_setAttempt_self hv (r := provisionedRecord v.record input) rfl
      exact ⟨_, view_setOperation_self hv' _, .started hmay⟩
  | renewed h =>
    refine stepsViews_of_target hs rfl (fun _ hne => view_setOperation_of_ne hne _) fun v hv hid => ?_
    exact ⟨_, view_setOperation_self hv _, .renewed (h.view hv hid).2⟩
  | takenOver hattempt hoperation hunresolved =>
    refine stepsViews_of_target hs rfl (fun _ hne => view_setOperation_of_ne hne _) fun v hv hid => ?_
    obtain rfl := record_eq hv hattempt
    exact ⟨_, view_setOperation_self hv _,
      .takenOver hid.symm ((operation_of_view hv).trans hoperation) hunresolved⟩
  | handedOff h =>
    refine stepsViews_of_target hs rfl (fun _ hne => view_setOperation_of_ne hne _) fun v hv hid => ?_
    exact ⟨_, view_setOperation_self hv _, .handedOff (h.view hv hid).2⟩
  | uncertain h =>
    refine stepsViews_of_target hs rfl (fun _ hne => view_setOperation_of_ne hne _) fun v hv hid => ?_
    exact ⟨_, view_setOperation_self hv _, .uncertain (h.view hv hid).2⟩
  | evidenced hclaim hanswer h hnone =>
    refine stepsViews_of_target hs (Action.target?_of_claim? hclaim)
      (fun _ hne => view_setOperation_of_ne hne _) fun v hv hid => ?_
    exact ⟨_, view_setOperation_self hv _, .evidenced hclaim hanswer (h.view hv hid).2 hnone⟩
  | @allocated _ input claimable _ _ haction h hprovider hnone hclaimable =>
    have htarget : a.target? = some input.claim.executionAttemptId := by
      rcases haction with rfl | rfl <;> rfl
    refine stepsViews_of_target hs htarget (fun _ hne => ?_) fun v hv hid => ?_
    · rw [view_setOperation_of_ne hne, view_setAttempt_of_ne hne]
    · obtain ⟨rfl, hauthorized⟩ := h.view hv hid
      have hv' := view_setAttempt_self hv
        (r := allocatedRecord v.record input.allocationRef claimable) rfl
      refine ⟨_, view_setOperation_self hv' _,
        .allocated haction hauthorized hprovider hnone fun hc => ?_⟩
      obtain ⟨hunsettled, hactive, haction⟩ := hclaimable hc
      exact ⟨hunsettled, active_of_isActive hs hv hactive, haction⟩
  | evolved h _ hstored =>
    refine stepsViews_of_target hs rfl (fun _ hne => view_setAttempt_of_ne hne _) fun v hv hid => ?_
    obtain ⟨rfl, hauthorized⟩ := h.view hv hid
    exact ⟨_, view_setAttempt_self hv rfl, .evolved hauthorized hstored⟩
  | @closed _ _ evidence _ _ hcloses h hunallocated hunsettled =>
    refine stepsViews_of_target hs (Action.target?_of_claim? (Action.claim?_of_closes? hcloses)) (fun _ hne => ?_)
      fun v hv hid => ?_
    · rw [view_recordProviderCompletionEvidence_of_ne hs h.owned hne, view_setAttempt_of_ne hne]
    · obtain ⟨rfl, hauthorized⟩ := h.view hv hid
      have hv' := view_setAttempt_self hv (r := settleAttempt v.record .abandoned) rfl
      refine ⟨_, view_recordProviderCompletionEvidence hs hv' hauthorized.owned h.owned evidence,
        .closed hcloses hauthorized hunallocated hunsettled⟩
  | terminated h hallocated =>
    refine stepsViews_of_target hs rfl (fun _ hne => view_setOperation_of_ne hne _) fun v hv hid => ?_
    obtain ⟨rfl, hauthorized⟩ := h.view hv hid
    exact ⟨_, view_setOperation_self hv _, .terminated hauthorized hallocated⟩
  | failed h hunsettled hallocated hterminated =>
    refine stepsViews_of_target hs rfl (fun _ hne => view_setAttempt_of_ne hne _) fun v hv hid => ?_
    obtain ⟨rfl, hauthorized⟩ := h.view hv hid
    exact ⟨_, view_setAttempt_self hv rfl, .failed hauthorized hunsettled hallocated hterminated⟩
  | registered h hidle =>
    refine stepsViews_of_target hs rfl (fun _ hne => view_setAttempt_of_ne hne _) fun v hv hid => ?_
    obtain ⟨rfl, hreachable⟩ := h.view hs hv hid
    exact ⟨_, view_setAttempt_self hv rfl, .registered hreachable hidle⟩
  | admitted h hmay =>
    refine stepsViews_of_target hs rfl (fun _ hne => view_setAttempt_of_ne hne _) fun v hv hid => ?_
    obtain ⟨rfl, hreachable⟩ := h.view hs hv hid
    exact ⟨_, view_setAttempt_self hv rfl, .admitted hreachable hmay⟩
  | reported h hreport =>
    refine stepsViews_of_target hs rfl (fun _ hne => view_setAttempt_of_ne hne _) fun v hv hid => ?_
    obtain ⟨rfl, hreachable⟩ := h.view hs hv hid
    exact ⟨_, view_setAttempt_self hv rfl, .reported hreachable hreport⟩
  | completed hattempt hunsettled hactive =>
    refine stepsViews_of_target hs rfl (fun _ hne => view_setAttempt_of_ne hne _) fun v hv hid => ?_
    obtain rfl := record_eq hv hattempt
    exact ⟨_, view_setAttempt_self hv rfl, .completed hid.symm hunsettled hactive⟩
  | readied h =>
    refine stepsViews_of_target hs rfl (fun _ hne => view_setAttempt_of_ne hne _) fun v hv hid => ?_
    obtain ⟨rfl, hreachable⟩ := h.view hs hv hid
    exact ⟨_, view_setAttempt_self hv rfl, .readied hreachable⟩
  | cancelled hanswer hattempt hintent =>
    refine stepsViews_of_target hs rfl (fun _ hne => view_recordCancellation_of_ne hne _ _)
      fun v hv hid => ?_
    obtain rfl := record_eq hv hattempt
    refine ⟨_, view_recordCancellation_self hv _, .cancelled ?_ ?_⟩
    · exact Or.inl ⟨_, _, rfl, hid.symm, hanswer⟩
    · exact fun stored hstored => hintent.eq_stored ((cancellation_of_view hv).symm.trans hstored)
  | cancelledAll hdecisions => exact stepsViews_cancelledAll hdecisions
  | evidenceStored _ hquiet => exact stepsViews_of_eq (fun _ => rfl) hquiet
  | @committed input attempt _ hactive hattempt hunsettled hnew hanswer =>
    refine stepsViews_of_target hs rfl (fun id hne => ?_) fun v hv hid => ?_
    · exact view_congr (OrderedMap.get?_set_of_ne _ _ hne) rfl rfl rfl
        (OrderedMap.get?_set_of_ne _ _ hne) (OrderedMap.get?_set_of_ne _ _ hne)
    · obtain rfl := record_eq hv hattempt
      refine ⟨_, ?_, .committed hid.symm (active_of_isActive hs hv hactive) hunsettled
        ((outcome_of_view hv).trans hnew) hanswer⟩
      obtain ⟨r, -, rfl⟩ := Option.map_eq_some_iff.mp hv
      have houtcome : (committedStore s input.executionAttemptId input.text r).committedOutcomes.get?
          input.executionAttemptId = some input.text := OrderedMap.get?_set_self _ _ _
      have hobservation : (committedStore s input.executionAttemptId input.text
          r).outcomeControlObservations.get? input.executionAttemptId =
            some (snapshotAttemptOutcomeControl (s.cancellations.get? input.executionAttemptId)) :=
        OrderedMap.get?_set_self _ _ _
      rw [view_of_get? (OrderedMap.get?_set_self _ _ _), houtcome, hobservation]
      rfl
  | abandoned hactive hattempt hpending =>
    refine stepsViews_of_target hs rfl (fun _ hne => view_setAttempt_of_ne hne _) fun v hv hid => ?_
    obtain rfl := record_eq hv hattempt
    exact ⟨_, view_setAttempt_self hv rfl, .abandoned hid.symm (active_of_isActive hs hv hactive)
      hpending⟩

/-! ### Attempts that appear -/

/-- A write to an attempt that exists adds no other. -/
lemma setAttempt_get?_none {id : String} {r' : ExecutionAttemptRecord} (hnone : s.attempts.get? id = none)
    (hfound : s.attempts.get? id' = some r) :
    (s.setAttempt id' r').attempts.get? id = none := by
  refine (OrderedMap.get?_set_of_ne _ _ ?_).trans hnone
  rintro rfl
  exact absurd (hfound.symm.trans hnone) (by simp)

/-- The view that an insertion gives to a new attempt. -/
lemma view_insertedStore_new (hs : WellFormed s) (hfresh : s.attempts.get? input.executionAttemptId = none)
    (hnone : s.attempts.get? id = none)
    (hw : (insertedStore s input (newRecord input createdAt deadline)).view id = some w) :
    input.executionAttemptId = id ∧ w = .fresh (newRecord input createdAt deadline) := by
  by_cases hid : id = input.executionAttemptId
  · subst hid
    exact ⟨rfl, Option.some.inj (hw.symm.trans (view_insertedStore_self hs hfresh))⟩
  · have hattempts := get?_of_view hw
    rw [show (insertedStore s input (newRecord input createdAt deadline)).attempts.get? id =
      (supersede s input.executionId).attempts.get? id from OrderedMap.get?_set_of_ne _ _ hid,
      ((hs.supersede_frame input.executionId).1 id).mpr hnone] at hattempts
    cases hattempts

/-- **An attempt that appears is the one the call inserts.** -/
theorem view_change_new (hs : WellFormed s) (h : Change s a answer t) (hnone : s.view id = none)
    (hw : t.view id = some w) :
    ∃ input createdAt deadline, a.inserts? = some input ∧ input.executionAttemptId = id ∧
      answer = .ok (.created (newRecord input createdAt deadline)) ∧
      w = .fresh (newRecord input createdAt deadline) := by
  rw [view_eq_none_iff] at hnone
  have hkept : t.attempts.get? id ≠ none := by
    rw [get?_of_view hw]
    simp
  cases h with
  | unchanged => exact absurd hnone hkept
  | created hfresh | ensured _ hfresh =>
    obtain ⟨hid, hfresh⟩ := view_insertedStore_new hs hfresh hnone hw
    exact ⟨_, _, _, rfl, hid, rfl, hfresh⟩
  | unleased h | started h => exact absurd (setAttempt_get?_none hnone h.found) hkept
  | renewed | takenOver | handedOff | uncertain | evidenced | terminated | evidenceStored =>
    exact absurd hnone hkept
  | allocated _ h | evolved h => exact absurd (setAttempt_get?_none hnone h.found) hkept
  | closed _ h =>
    refine absurd ?_ hkept
    unfold recordProviderCompletionEvidence
    split_ifs
    · exact setAttempt_get?_none hnone h.found
    · exact setAttempt_get?_none hnone h.found
  | failed h | registered h | admitted h | reported h =>
    exact absurd (setAttempt_get?_none hnone h.found) hkept
  | completed hattempt => exact absurd (setAttempt_get?_none hnone hattempt) hkept
  | readied h => exact absurd (setAttempt_get?_none hnone h.found) hkept
  | cancelled _ hattempt => exact absurd (setAttempt_get?_none hnone hattempt) hkept
  | @cancelledAll _ _ _ decisions hdecisions =>
    obtain ⟨hnodup, hfound, -, -⟩ := hdecisions.spec
    have hnot : ∀ d ∈ decisions, d.1 ≠ id := by
      rintro d hd rfl
      exact absurd ((hfound d hd).symm.trans hnone) (by simp)
    exact absurd (((foldl_recordCancellation hnodup hfound).2.1 id hnot).1.trans hnone) hkept
  | committed _ hattempt | abandoned _ hattempt => exact absurd (setAttempt_get?_none hnone hattempt) hkept

end Steps

/-! ### Runs -/

section Runs

variable {O : Type} (codec : OutcomeCodec O)

/-- **A call changes the view of an attempt by a step.** -/
theorem view_execute {s : Store} (hs : WellFormed s) (a : Action) {id : String} {v : AttemptView}
    (hv : s.view id = some v) :
    ∃ w, (execute codec s a).1.view id = some w ∧ ViewStep a (execute codec s a).2 v w :=
  stepsViews_of_change hs (execute_change codec hs.toKeyed a) id v hv

/-- **An attempt that appears is a fresh one.** -/
theorem view_execute_new {s : Store} (hs : WellFormed s) (a : Action) {id : String} (hnone : s.view id = none)
    (hw : (execute codec s a).1.view id = some w) :
    ∃ input createdAt deadline, a.inserts? = some input ∧ input.executionAttemptId = id ∧
      (execute codec s a).2 = .ok (.created (newRecord input createdAt deadline)) ∧
      w = .fresh (newRecord input createdAt deadline) :=
  view_change_new hs (execute_change codec hs.toKeyed a) hnone hw

/-- What fresh attempts satisfy and steps preserve. -/
structure ViewInvariant (O : Type) (P : AttemptView → Prop) : Prop where
  fresh : ∀ input createdAt deadline, P (.fresh (newRecord input createdAt deadline))
  step : ∀ {a : Action} {answer : Answer O} {v w : AttemptView}, ViewStep a answer v w → P v → P w

variable {P : AttemptView → Prop}

/-- A call preserves an invariant of views. -/
lemma ViewInvariant.execute (hP : ViewInvariant O P) {s : Store} (hs : WellFormed s) (a : Action)
    (h : ∀ id v, s.view id = some v → P v) :
    ∀ id w, (execute codec s a).1.view id = some w → P w := by
  intro id w hw
  cases hv : s.view id with
  | none =>
    obtain ⟨input, createdAt, deadline, -, -, -, rfl⟩ := view_execute_new codec hs a hv hw
    exact hP.fresh input createdAt deadline
  | some v =>
    obtain ⟨w', hw', hstep⟩ := view_execute codec hs a hv
    cases hw.symm.trans hw'
    exact hP.step hstep (h id v hv)

/-- **The invariant rule**: what fresh attempts satisfy and steps preserve holds of every attempt after
every run. -/
theorem view_run_invariant (hP : ViewInvariant O P) (as : List Action) {id : String} {v : AttemptView}
    (hv : (run codec Store.empty as).view id = some v) : P v := by
  have hstep : ∀ s a, (WellFormed s ∧ ∀ id v, s.view id = some v → P v) →
      WellFormed (execute codec s a).1 ∧ ∀ id v, (execute codec s a).1.view id = some v → P v :=
    fun s a h => ⟨wellFormed_execute codec h.1 a, hP.execute codec h.1 a h.2⟩
  have hempty : WellFormed Store.empty ∧ ∀ id v, Store.empty.view id = some v → P v :=
    ⟨wellFormed_empty, fun id v h => absurd h (by simp [Store.view, Store.empty])⟩
  exact (run_invariant codec hstep as hempty).2 id v hv

variable {R : AttemptView → AttemptView → Prop}

/-- **The relation rule**: a reflexive and transitive relation that each step respects holds between the
views of an attempt at any two points of a run.

**Proof sketch.** Induction on the later calls; the invariant and well-formedness are carried along. -/
theorem view_run_related (hP : ViewInvariant O P) (hrefl : ∀ v, R v v)
    (htrans : ∀ {u v w}, R u v → R v w → R u w)
    (hstep : ∀ {a : Action} {answer : Answer O} {v w : AttemptView}, ViewStep a answer v w → P v → R v w)
    (bs : List Action) :
    ∀ {s : Store}, WellFormed s → (∀ id v, s.view id = some v → P v) →
      ∀ {id : String} {v : AttemptView}, s.view id = some v →
        ∃ w, (run codec s bs).view id = some w ∧ R v w := by
  induction bs with
  | nil => exact fun _ _ id v hv => ⟨v, hv, hrefl v⟩
  | cons b bs ih =>
    intro s hs hinv id v hv
    obtain ⟨w, hw, hvw⟩ := view_execute codec hs b hv
    obtain ⟨u, hu, hwu⟩ := ih (wellFormed_execute codec hs b) (hP.execute codec hs b hinv) hw
    exact ⟨u, hu, htrans (hstep hvw (hinv id v hv)) hwu⟩

/-- The relation rule from the empty store: between a run and any of its extensions. -/
theorem view_run_extended (hP : ViewInvariant O P) (hrefl : ∀ v, R v v)
    (htrans : ∀ {u v w}, R u v → R v w → R u w)
    (hstep : ∀ {a : Action} {answer : Answer O} {v w : AttemptView}, ViewStep a answer v w → P v → R v w)
    (as bs : List Action) {id : String} {v : AttemptView} (hv : (run codec Store.empty as).view id = some v) :
    ∃ w, (run codec Store.empty (as ++ bs)).view id = some w ∧ R v w := by
  rw [run_append]
  exact view_run_related codec hP hrefl htrans hstep bs (wellFormed_run codec as)
    (fun _ _ h => view_run_invariant codec hP as h) hv

section Projection

variable {β : Type} (tale : String → List (Action × Answer O) → β)
  (tell : String → Action × Answer O → β → β) (shown : AttemptView → β) {start : β}
  {P : AttemptView → Prop}
variable (hP : ViewInvariant O P) (hnil : ∀ id, tale id [] = start)
  (hsnoc : ∀ id calls c, tale id (calls ++ [c]) = tell id c (tale id calls))
  (hfresh : ∀ input createdAt deadline, shown (.fresh (newRecord input createdAt deadline)) = start)
  (hmissing : ∀ {s t : Store} {a : Action} {answer : Answer O} {id : String},
    Change s a answer t → s.attempts.get? id = none → tell id (a, answer) start = start)
  (hstep : ∀ {a : Action} {answer : Answer O} {v w : AttemptView}, ViewStep a answer v w → P v →
    shown w = tell v.record.executionAttemptId (a, answer) (shown v)) (as : List Action)
include hP hnil hsnoc hfresh hmissing hstep

/-- **The projection rule**: what the history tells about an attempt, call by call, is what its view shows,
if each step changes the view as the call changes the tale.

`tale` is the quantity read off the history, `tell` how one call changes it, `shown` what the view shows of
it. -/
theorem view_history_projection :
    ∀ id, tale id (history codec Store.empty as) =
      (((run codec Store.empty as).view id).map shown).getD start := by
  induction as using List.reverseRecOn with
  | nil => exact fun id => hnil id
  | append_singleton as a ih =>
    intro id
    have hs := wellFormed_run codec as
    rw [history_append, run_append]
    refine (hsnoc id _ _).trans ?_
    rw [ih id, run_cons, run_nil]
    cases hv : (run codec Store.empty as).view id with
    | none =>
      refine (hmissing (execute_change codec hs.toKeyed a) (view_eq_none_iff.mp hv)).trans ?_
      cases hw : (execute codec (run codec Store.empty as) a).1.view id with
      | none => rfl
      | some w =>
        obtain ⟨_, _, _, -, -, -, rfl⟩ := view_execute_new codec hs a hv hw
        exact (hfresh _ _ _).symm
    | some v =>
      obtain ⟨w, hw, h⟩ := view_execute codec hs a hv
      have hid : v.record.executionAttemptId = id := hs.attempts id _ (get?_of_view hv)
      rw [hw]
      refine Eq.symm ((hstep h (view_run_invariant codec hP as hv)).trans ?_)
      rw [hid]
      rfl

/-- The projection rule for an attempt that exists. -/
theorem view_history_shown {id : String} {v : AttemptView} (hv : (run codec Store.empty as).view id = some v) :
    tale id (history codec Store.empty as) = shown v := by
  rw [view_history_projection codec tale tell shown hP hnil hsnoc hfresh hmissing hstep as id, hv]
  rfl

end Projection

end Runs

end Makaio.Attempts
