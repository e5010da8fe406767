import Makaio.Foundations.OrderedMap

set_option autoImplicit false

/-!
# The finalization tables and their transactions

`workflow_executions` holds the status of an execution and `workflow_finalizations` the one claim of its
terminal transition.  A transaction moves both rows; the rows are keyed by the execution, so a claim names
its execution by the key it is stored under.

## Main definitions

* `Database` — the two tables.
* `claimFinalization`, `acknowledgeFinalization`, `failFinalization` — the three
  transactions; a claim whose insertion breaks the unique index is rolled back.
* `markPublished` — the update after a terminal event was emitted.

## Main results

* `claimFinalization_cases`, `settleFinalization_cases` — what a transaction
  answered and what it changed.
-/

namespace Makaio.Finalization

open Foundations

/-! ### Rows -/

/-- The status column of `workflow_executions`. -/
inductive ExecutionStatus
  | pending | running | paused | finalizing | completed | failed | cancelled
  deriving DecidableEq

/-- `WorkflowTerminalStatusSchema`. -/
inductive TerminalStatus
  | completed | failed | cancelled
  deriving DecidableEq

/-- A terminal status as a value of the status column. -/
def TerminalStatus.toStatus : TerminalStatus → ExecutionStatus
  | .completed => .completed
  | .failed => .failed
  | .cancelled => .cancelled

/-- `WorkflowFinalizationIntent`. -/
structure FinalizationIntent where
  status : TerminalStatus
  completedAt : ℕ
  error : Option String
  reason : Option String
  deriving DecidableEq

/-- `WorkflowFinalizationClaim`. -/
structure FinalizationClaim where
  executionId : String
  workflowId : String
  finalizerId : String
  transitionKey : String
  claimToken : String
  intent : FinalizationIntent
  claimedAt : ℕ
  deriving DecidableEq

/-- The state column of `workflow_finalizations`. -/
inductive FinalizationState
  | claimed | acknowledged | failed
  deriving DecidableEq

/-- The columns of `workflow_finalizations` beside its primary key, the execution. -/
structure FinalizationRow where
  workflowId : String
  finalizerId : String
  transitionKey : String
  claimToken : String
  intent : FinalizationIntent
  state : FinalizationState
  claimedAt : ℕ
  settledAt : Option ℕ
  failure : Option String
  publishedAt : Option ℕ
  deriving DecidableEq

/-- The columns of `workflow_executions` that finalization reads and writes, beside its primary key. -/
structure ExecutionRow where
  workflowId : String
  status : ExecutionStatus
  startedAt : ℕ
  completedAt : Option ℕ
  error : Option String
  reason : Option String
  deriving DecidableEq

/-- The two tables, each keyed by the execution. -/
structure Database where
  workflowExecutions : OrderedMap String ExecutionRow
  workflowFinalizations : OrderedMap String FinalizationRow
  deriving DecidableEq

/-- Map one durable row to its public claim contract. -/
def mapClaim (executionId : String) (row : FinalizationRow) : FinalizationClaim where
  executionId := executionId
  workflowId := row.workflowId
  finalizerId := row.finalizerId
  transitionKey := row.transitionKey
  claimToken := row.claimToken
  intent := row.intent
  claimedAt := row.claimedAt

/-- The row that a claim is inserted as. -/
def FinalizationClaim.row (claim : FinalizationClaim) : FinalizationRow where
  workflowId := claim.workflowId
  finalizerId := claim.finalizerId
  transitionKey := claim.transitionKey
  claimToken := claim.claimToken
  intent := claim.intent
  state := .claimed
  claimedAt := claim.claimedAt
  settledAt := none
  failure := none
  publishedAt := none

/-- Whether an existing row is an exact replay of a claim request. -/
def isSameClaim (executionId : String) (row : FinalizationRow) (claim : FinalizationClaim) : Bool :=
  row.state = .claimed && executionId = claim.executionId && row.workflowId = claim.workflowId &&
    row.finalizerId = claim.finalizerId && row.transitionKey = claim.transitionKey &&
    row.claimToken = claim.claimToken && row.intent.status = claim.intent.status &&
    row.intent.completedAt = claim.intent.completedAt && row.intent.error = claim.intent.error &&
    row.intent.reason = claim.intent.reason

/-! ### Updates -/

/-- `UPDATE workflow_executions SET … WHERE id = … AND …`, with whether a row matched. -/
def Database.updateExecution (db : Database) (id : String) (matching : ExecutionRow → Bool)
    (set : ExecutionRow → ExecutionRow) : Database × Bool :=
  match db.workflowExecutions.get? id with
  | none => (db, false)
  | some row =>
    if matching row then ({ db with workflowExecutions := db.workflowExecutions.set id (set row) }, true)
    else (db, false)

/-- `UPDATE workflow_finalizations SET … WHERE execution_id = … AND …`. -/
def Database.updateFinalization (db : Database) (executionId : String)
    (matching : FinalizationRow → Bool) (set : FinalizationRow → FinalizationRow) : Database :=
  match db.workflowFinalizations.get? executionId with
  | none => db
  | some row =>
    if matching row then
      { db with workflowFinalizations := db.workflowFinalizations.set executionId (set row) }
    else db

/-- `INSERT INTO workflow_finalizations`: nothing where the unique index on the transition key or the
primary key is broken. -/
def Database.insertFinalization (db : Database) (claim : FinalizationClaim) : Option Database :=
  if db.workflowFinalizations.has claim.executionId ||
      db.workflowFinalizations.values.any fun row => row.transitionKey = claim.transitionKey then
    none
  else
    some { db with
      workflowFinalizations := db.workflowFinalizations.set claim.executionId claim.row }

section Updates

variable {db : Database} {id : String}

/-- An update that matches a row writes it. -/
lemma Database.updateExecution_of_match {matching : ExecutionRow → Bool}
    {set : ExecutionRow → ExecutionRow} {row : ExecutionRow}
    (hrow : db.workflowExecutions.get? id = some row) (hmatch : matching row = true) :
    db.updateExecution id matching set =
      ({ db with workflowExecutions := db.workflowExecutions.set id (set row) }, true) := by
  rw [Database.updateExecution, hrow]
  simp only [hmatch, if_true]

/-- An update matched a row, or it wrote nothing. -/
lemma Database.updateExecution_cases (db : Database) (id : String) (matching : ExecutionRow → Bool)
    (set : ExecutionRow → ExecutionRow) :
    (∃ row, db.workflowExecutions.get? id = some row ∧ matching row = true) ∨
      db.updateExecution id matching set = (db, false) := by
  rw [Database.updateExecution]
  cases hrow : db.workflowExecutions.get? id with
  | none => exact Or.inr rfl
  | some row =>
    cases hmatch : matching row with
    | true => exact Or.inl ⟨row, rfl, hmatch⟩
    | false => exact Or.inr (by simp only [hmatch, Bool.false_eq_true, if_false])

/-- An update that matches a row writes it. -/
lemma Database.updateFinalization_of_match {matching : FinalizationRow → Bool}
    {set : FinalizationRow → FinalizationRow} {row : FinalizationRow}
    (hrow : db.workflowFinalizations.get? id = some row) (hmatch : matching row = true) :
    db.updateFinalization id matching set =
      { db with workflowFinalizations := db.workflowFinalizations.set id (set row) } := by
  rw [Database.updateFinalization, hrow]
  simp only [hmatch, if_true]

/-- An inserted row is the claim's; the key was free. -/
lemma Database.insertFinalization_some {claim : FinalizationClaim} {db' : Database}
    (h : db.insertFinalization claim = some db') :
    db' = { db with
      workflowFinalizations := db.workflowFinalizations.set claim.executionId claim.row } := by
  rw [Database.insertFinalization] at h
  split_ifs at h
  exact (Option.some.inj h).symm

end Updates

/-! ### Transactions -/

/-- Claim the sole terminal transition for a running execution.  Nothing is the transaction that throws
and is rolled back. -/
def claimFinalization (db : Database) (claim : FinalizationClaim) : Option (Database × Bool) :=
  match db.workflowFinalizations.get? claim.executionId with
  | some existing => some (db, isSameClaim claim.executionId existing claim)
  | none =>
    let transitioned := db.updateExecution claim.executionId
      (fun row => row.workflowId = claim.workflowId && row.status = .running)
      (fun row => { row with status := .finalizing })
    if transitioned.2 then (transitioned.1.insertFinalization claim).map fun db => (db, true)
    else some (db, false)

/-- Build the execution metadata written by successful acknowledgment. -/
def terminalExecutionValues (intent : FinalizationIntent) (row : ExecutionRow) : ExecutionRow :=
  { row with
    status := intent.status.toStatus
    completedAt := some intent.completedAt
    error := if intent.status = .failed then some (intent.error.getD "Workflow finalization failed")
      else none
    reason := if intent.status = .cancelled then intent.reason else none }

/-- The execution metadata written by a permanent failure. -/
def failedExecutionValues (failure : String) (settledAt : ℕ) (row : ExecutionRow) : ExecutionRow :=
  { row with
    status := .failed
    error := some failure
    reason := none
    completedAt := some settledAt }

/-- A settlement: refused without a row, under another token or after the opposite one; a replay after it
was reached; else the execution leaves `finalizing` and the row leaves `claimed`. -/
def settleFinalization (db : Database) (executionId claimToken : String)
    (reached opposite : FinalizationState) (terminal : FinalizationIntent → ExecutionRow → ExecutionRow)
    (settle : FinalizationRow → FinalizationRow) : Database × Bool :=
  match db.workflowFinalizations.get? executionId with
  | none => (db, false)
  | some row =>
    if row.claimToken ≠ claimToken ∨ row.state = opposite then (db, false)
    else if row.state = reached then (db, true)
    else
      let transitioned := db.updateExecution executionId (fun row => row.status = .finalizing)
        (terminal row.intent)
      if transitioned.2 then
        (transitioned.1.updateFinalization executionId
          (fun row => row.claimToken = claimToken && row.state = .claimed) settle, true)
      else (db, false)

/-- Settle a claimed execution at its intended terminal state exactly once. -/
def acknowledgeFinalization (db : Database) (executionId claimToken : String) (settledAt : ℕ) :
    Database × Bool :=
  settleFinalization db executionId claimToken .acknowledged .failed terminalExecutionValues
    fun row => { row with state := .acknowledged, settledAt := some settledAt }

/-- Permanently fail a claimed finalization and terminalize the engine record. -/
def failFinalization (db : Database) (executionId claimToken failure : String) (settledAt : ℕ) :
    Database × Bool :=
  settleFinalization db executionId claimToken .failed .acknowledged
    (fun _ => failedExecutionValues failure settledAt)
    fun row => { row with
      state := .failed, failure := some failure, settledAt := some settledAt }

/-- Mark a transition as published, unless it is. -/
def markPublished (db : Database) (executionId : String) (now : ℕ) : Database :=
  db.updateFinalization executionId (fun row => row.publishedAt.isNone)
    (fun row => { row with publishedAt := some now })

/-! ### What a transaction did -/

section Transactions

variable {db db' : Database} {claim : FinalizationClaim} {executionId claimToken : String}
  {answer : Bool}

/-- A claim found a row and compared it, found no running execution, or is stored. -/
theorem claimFinalization_cases (h : claimFinalization db claim = some (db', answer)) :
    (db' = db ∧ ∃ row, db.workflowFinalizations.get? claim.executionId = some row ∧
        answer = isSameClaim claim.executionId row claim) ∨
      (db' = db ∧ db.workflowFinalizations.get? claim.executionId = none ∧ answer = false) ∨
      (answer = true ∧ db.workflowFinalizations.get? claim.executionId = none ∧
        ∃ row, db.workflowExecutions.get? claim.executionId = some row ∧
          row.workflowId = claim.workflowId ∧ row.status = .running ∧
          db' = ⟨db.workflowExecutions.set claim.executionId { row with status := .finalizing },
            db.workflowFinalizations.set claim.executionId claim.row⟩) := by
  rw [claimFinalization] at h
  cases hexisting : db.workflowFinalizations.get? claim.executionId with
  | some existing =>
    rw [hexisting] at h
    cases h
    exact Or.inl ⟨rfl, existing, rfl, rfl⟩
  | none =>
    rw [hexisting] at h
    rcases db.updateExecution_cases claim.executionId
      (fun row => row.workflowId = claim.workflowId && row.status = .running)
      (fun row => { row with status := .finalizing }) with ⟨row, hrow, hmatch⟩ | hmiss
    · rw [Database.updateExecution_of_match hrow hmatch] at h
      simp only [if_true, Option.map_eq_some_iff, Prod.mk.injEq] at h
      obtain ⟨inserted, hinserted, rfl, rfl⟩ := h
      simp only [Bool.and_eq_true, decide_eq_true_eq] at hmatch
      exact Or.inr (Or.inr ⟨rfl, rfl, row, hrow, hmatch.1, hmatch.2,
        Database.insertFinalization_some hinserted⟩)
    · rw [hmiss] at h
      simp only [Bool.false_eq_true, if_false] at h
      cases h
      exact Or.inr (Or.inl ⟨rfl, rfl, rfl⟩)

/-- A settlement answered without a change, or moved a claimed row and a finalizing execution. -/
theorem settleFinalization_cases {reached opposite : FinalizationState}
    {terminal : FinalizationIntent → ExecutionRow → ExecutionRow}
    {settle : FinalizationRow → FinalizationRow}
    (hstates : ∀ state : FinalizationState, state ≠ opposite → state ≠ reached → state = .claimed)
    (h : settleFinalization db executionId claimToken reached opposite terminal settle = (db', answer)) :
    (db' = db ∧ (answer = true → ∃ row, db.workflowFinalizations.get? executionId = some row ∧
        row.claimToken = claimToken ∧ row.state = reached)) ∨
      (answer = true ∧ ∃ row execution, db.workflowFinalizations.get? executionId = some row ∧
        row.claimToken = claimToken ∧ row.state = .claimed ∧
        db.workflowExecutions.get? executionId = some execution ∧ execution.status = .finalizing ∧
        db' = ⟨db.workflowExecutions.set executionId (terminal row.intent execution),
          db.workflowFinalizations.set executionId (settle row)⟩) := by
  rw [settleFinalization] at h
  cases hrow : db.workflowFinalizations.get? executionId with
  | none =>
    rw [hrow] at h
    cases h
    exact Or.inl ⟨rfl, fun hanswer => nomatch hanswer⟩
  | some row =>
    rw [hrow] at h
    dsimp only at h
    split_ifs at h with hrefused hreached hmatched
    · cases h
      exact Or.inl ⟨rfl, fun hanswer => nomatch hanswer⟩
    · cases h
      push Not at hrefused
      exact Or.inl ⟨rfl, fun _ => ⟨row, rfl, hrefused.1, hreached⟩⟩
    · push Not at hrefused
      have hclaimed : row.state = .claimed := hstates row.state hrefused.2 hreached
      rcases db.updateExecution_cases executionId (fun row => row.status = .finalizing)
        (terminal row.intent) with ⟨execution, hexecution, hstatus⟩ | hmiss
      · rw [Database.updateExecution_of_match hexecution hstatus] at h
        cases h
        have hmatch : (decide (row.claimToken = claimToken) && decide (row.state = .claimed)) = true := by
          rw [hrefused.1, hclaimed]
          simp
        refine Or.inr ⟨rfl, row, execution, rfl, hrefused.1, hclaimed, hexecution,
          of_decide_eq_true hstatus, ?_⟩
        exact Database.updateFinalization_of_match hrow hmatch
      · rw [hmiss] at hmatched
        exact absurd hmatched Bool.false_ne_true
    · cases h
      exact Or.inl ⟨rfl, fun hanswer => nomatch hanswer⟩

end Transactions

/-- A request to the finalization handlers. -/
inductive Request
  | claimFinalization (claim : FinalizationClaim)
  | acknowledgeFinalization (executionId claimToken : String) (settledAt : ℕ)
  | failFinalization (executionId claimToken error : String) (settledAt : ℕ)
  | publishFinalization (claim : FinalizationClaim)
  deriving DecidableEq

/-- The execution a request names. -/
def Request.executionId : Request → String
  | .claimFinalization claim => claim.executionId
  | .acknowledgeFinalization executionId _ _ => executionId
  | .failFinalization executionId _ _ _ => executionId
  | .publishFinalization claim => claim.executionId

/-- The transaction of a request, with its answer; a publication has none. -/
def Request.transact (db : Database) : Request → Option (Database × Bool)
  | .claimFinalization claim => Finalization.claimFinalization db claim
  | .acknowledgeFinalization executionId claimToken settledAt =>
    some (Finalization.acknowledgeFinalization db executionId claimToken settledAt)
  | .failFinalization executionId claimToken error settledAt =>
    some (Finalization.failFinalization db executionId claimToken error settledAt)
  | .publishFinalization _ => none

end Makaio.Finalization
