import Makaio.Finalization.Publication

set_option autoImplicit false

/-!
# Finalization is decided once

An execution that starts as running is claimed at most once, settled at most once and under the token of
the stored claim; every terminal event follows the settlement and reports the stored status.  This holds
over every interleaving of requests, publications, storage failures and restarts.

## Main definitions

* `Effect` — how a transaction changes the two rows of an execution.
* `Decided` — what can have happened to one execution, with the rows it left.
* `StatusStep` — the moves of the status column.
* `Replayed` — what a repeated request answers.

## Main results

* `finalization_decided` — all of it, in every state a run reaches.
* `claim_replay_refused` — a claim repeated after its settlement is refused.
-/

namespace Makaio.Finalization

open Foundations

/-! ### Statements -/

/-- A change of the tables by the transaction of a request. -/
inductive Effect (db : Database) : Request → Database → Prop
  | claimed {claim : FinalizationClaim} {execution : ExecutionRow}
      (free : db.workflowFinalizations.get? claim.executionId = none)
      (stored : db.workflowExecutions.get? claim.executionId = some execution)
      (running : execution.status = .running) :
      Effect db (.claimFinalization claim)
        ⟨db.workflowExecutions.set claim.executionId { execution with status := .finalizing },
          db.workflowFinalizations.set claim.executionId claim.row⟩
  | acknowledged {executionId : String} {settledAt : ℕ} {row : FinalizationRow}
      {execution : ExecutionRow} (claim : db.workflowFinalizations.get? executionId = some row)
      (claimed : row.state = .claimed)
      (stored : db.workflowExecutions.get? executionId = some execution)
      (finalizing : execution.status = .finalizing) :
      Effect db (.acknowledgeFinalization executionId row.claimToken settledAt)
        ⟨db.workflowExecutions.set executionId (terminalExecutionValues row.intent execution),
          db.workflowFinalizations.set executionId
            { row with state := .acknowledged, settledAt := some settledAt }⟩
  | failed {executionId error : String} {settledAt : ℕ} {row : FinalizationRow}
      {execution : ExecutionRow} (claim : db.workflowFinalizations.get? executionId = some row)
      (claimed : row.state = .claimed)
      (stored : db.workflowExecutions.get? executionId = some execution)
      (finalizing : execution.status = .finalizing) :
      Effect db (.failFinalization executionId row.claimToken error settledAt)
        ⟨db.workflowExecutions.set executionId (failedExecutionValues error settledAt execution),
          db.workflowFinalizations.set executionId
            { row with state := .failed, failure := some error, settledAt := some settledAt }⟩

/-- What the tables hold for an execution: its status, with the claim and its state. -/
structure Holds (db : Database) (id : String) (status : ExecutionStatus) (claim : FinalizationClaim)
    (state : FinalizationState) : Prop where
  execution : ∃ row, db.workflowExecutions.get? id = some row ∧ row.status = status
  finalization : ∃ row, db.workflowFinalizations.get? id = some row ∧ mapClaim id row = claim ∧
    row.state = state

/-- **What can have happened to an execution that started as running**, in order, with what the tables
then hold: nothing; one claim; one claim and its acknowledgment, then events of the intended status; or
one claim and its failure, then events of the status `failed`. -/
inductive Decided (db : Database) (id : String) : List Entry → Prop
  | running {row : ExecutionRow} (stored : db.workflowExecutions.get? id = some row)
      (status : row.status = .running) : Decided db id []
  | claimed {claim : FinalizationClaim} (holds : Holds db id .finalizing claim .claimed) :
      Decided db id [.took (.claimFinalization claim)]
  | acknowledged {claim : FinalizationClaim} {settledAt : ℕ} {events : List TerminalEvent}
      (holds : Holds db id claim.intent.status.toStatus claim .acknowledged)
      (reported : ∀ event ∈ events, event.status = claim.intent.status) :
      Decided db id (.took (.claimFinalization claim) ::
        .took (.acknowledgeFinalization id claim.claimToken settledAt) :: events.map .published)
  | failed {claim : FinalizationClaim} {error : String} {settledAt : ℕ} {events : List TerminalEvent}
      (holds : Holds db id .failed claim .failed)
      (reported : ∀ event ∈ events, event.status = .failed) :
      Decided db id (.took (.claimFinalization claim) ::
        .took (.failFinalization id claim.claimToken error settledAt) :: events.map .published)

/-- The moves of the status column: from running to finalizing, and from there to a terminal status. -/
inductive StatusStep : ExecutionStatus → ExecutionStatus → Prop
  | same (status : ExecutionStatus) : StatusStep status status
  | claim : StatusStep .running .finalizing
  | settle (status : TerminalStatus) : StatusStep .finalizing status.toStatus

/-- What the requests that took effect answer when they are repeated, none of them changing the tables: a
settlement is accepted again, the claim until its settlement. -/
structure Replayed (db : Database) (h : List Entry) : Prop where
  claim : ∀ claim, .took (.claimFinalization claim) ∈ h → ∃ row,
    db.workflowFinalizations.get? claim.executionId = some row ∧
      claimFinalization db claim = some (db, decide (row.state = .claimed))
  acknowledgment : ∀ id token settledAt, .took (.acknowledgeFinalization id token settledAt) ∈ h →
    ∀ settledAt', acknowledgeFinalization db id token settledAt' = (db, true)
  failure : ∀ id token error settledAt, .took (.failFinalization id token error settledAt) ∈ h →
    ∀ error' settledAt', failFinalization db id token error' settledAt' = (db, true)

/-! ### Transactions -/

section Transactions

variable {db db' : Database} {request : Request} {answer : Bool}

/-- A transaction changes nothing, or as `Effect` says. -/
theorem Request.effect (h : request.transact db = some (db', answer)) (hne : db' ≠ db) :
    Effect db request db' := by
  cases request with
  | claimFinalization claim =>
    rcases claimFinalization_cases h with ⟨heq, -⟩ | ⟨heq, -⟩ |
      ⟨-, hfree, row, hrow, -, hrunning, rfl⟩
    · exact absurd heq hne
    · exact absurd heq hne
    · exact .claimed hfree hrow hrunning
  | acknowledgeFinalization executionId claimToken settledAt =>
    have hstates : ∀ state : FinalizationState, state ≠ .failed → state ≠ .acknowledged →
        state = .claimed := fun state => by cases state <;> simp
    rcases settleFinalization_cases hstates (Option.some.inj h) with ⟨heq, -⟩ |
      ⟨-, row, execution, hrow, rfl, hclaimed, hexecution, hfinalizing, rfl⟩
    · exact absurd heq hne
    · exact .acknowledged hrow hclaimed hexecution hfinalizing
  | failFinalization executionId claimToken error settledAt =>
    have hstates : ∀ state : FinalizationState, state ≠ .acknowledged → state ≠ .failed →
        state = .claimed := fun state => by cases state <;> simp
    rcases settleFinalization_cases hstates (Option.some.inj h) with ⟨heq, -⟩ |
      ⟨-, row, execution, hrow, rfl, hclaimed, hexecution, hfinalizing, rfl⟩
    · exact absurd heq hne
    · exact .failed hrow hclaimed hexecution hfinalizing
  | publishFinalization claim => exact nomatch h

/-- An effect leaves the rows of other executions. -/
lemma Effect.frame (h : Effect db request db') {id : String} (hid : id ≠ request.executionId) :
    db'.workflowExecutions.get? id = db.workflowExecutions.get? id ∧
      db'.workflowFinalizations.get? id = db.workflowFinalizations.get? id := by
  cases h with
  | claimed | acknowledged | failed =>
    exact ⟨OrderedMap.get?_set_of_ne _ _ hid, OrderedMap.get?_set_of_ne _ _ hid⟩

/-- The status of the execution moves as `StatusStep` says. -/
lemma Effect.status (h : Effect db request db') :
    ∃ row row', db.workflowExecutions.get? request.executionId = some row ∧
      db'.workflowExecutions.get? request.executionId = some row' ∧
      StatusStep row.status row'.status ∧ row.status ≠ row'.status := by
  cases h with
  | claimed hfree hstored hrunning =>
    refine ⟨_, _, hstored, OrderedMap.get?_set_self _ _ _, ?_, ?_⟩
    · rw [hrunning]
      exact .claim
    · rw [hrunning]
      exact nofun
  | @acknowledged _ _ row _ hclaim hclaimed hstored hfinalizing =>
    refine ⟨_, _, hstored, OrderedMap.get?_set_self _ _ _, ?_, ?_⟩
    · rw [hfinalizing]
      exact .settle row.intent.status
    · rw [hfinalizing]
      dsimp only [terminalExecutionValues]
      cases row.intent.status <;> decide
  | failed hclaim hclaimed hstored hfinalizing =>
    refine ⟨_, _, hstored, OrderedMap.get?_set_self _ _ _, ?_, ?_⟩
    · rw [hfinalizing]
      exact .settle .failed
    · rw [hfinalizing]
      exact nofun

/-- Marking a row leaves the executions, and the claims with their states. -/
lemma markPublished_spec (db : Database) (executionId : String) (now : ℕ) :
    (markPublished db executionId now).workflowExecutions = db.workflowExecutions ∧
      ∀ id row, db.workflowFinalizations.get? id = some row →
        ∃ row', (markPublished db executionId now).workflowFinalizations.get? id = some row' ∧
          mapClaim id row' = mapClaim id row ∧ row'.state = row.state := by
  rw [markPublished, Database.updateFinalization]
  split
  · exact ⟨rfl, fun id row hrow => ⟨row, hrow, rfl, rfl⟩⟩
  · rename_i marked hmarked
    split_ifs
    · refine ⟨rfl, fun id row hrow => ?_⟩
      rw [OrderedMap.get?_set]
      split_ifs with hid
      · subst hid
        rw [hmarked, Option.some.injEq] at hrow
        subst hrow
        exact ⟨_, rfl, rfl, rfl⟩
      · exact ⟨row, hrow, rfl, rfl⟩
    · exact ⟨rfl, fun id row hrow => ⟨row, hrow, rfl, rfl⟩⟩

end Transactions

/-! ### One step -/

section Step

variable {db db' : Database} {id : String} {es h : List Entry}
variable {row : ExecutionRow} {event : TerminalEvent}

/-- The status of every execution after a step. -/
theorem DatabaseStep.status (hstep : DatabaseStep db db' es) (hrow : db.workflowExecutions.get? id = some row) :
    ∃ row', db'.workflowExecutions.get? id = some row' ∧ StatusStep row.status row'.status := by
  cases hstep with
  | unchanged | published event => exact ⟨row, hrow, .same _⟩
  | marked executionId now => exact ⟨row, (markPublished_spec db executionId now).1 ▸ hrow, .same _⟩
  | @took request _ _ htransact hchanged =>
    have heffect := Request.effect htransact hchanged
    by_cases hid : id = request.executionId
    · subst hid
      obtain ⟨before, after, hbefore, hafter, hmove, -⟩ := heffect.status
      rw [hbefore, Option.some.injEq] at hrow
      exact ⟨after, hafter, hrow ▸ hmove⟩
    · exact ⟨row, (heffect.frame hid).1.trans hrow, .same _⟩

/-- A terminal row is not written again. -/
theorem DatabaseStep.terminal (hstep : DatabaseStep db db' es) {status : TerminalStatus}
    (hrow : db.workflowExecutions.get? id = some row) (hstatus : row.status = status.toStatus) :
    db'.workflowExecutions.get? id = some row := by
  cases hstep with
  | unchanged | published event => exact hrow
  | marked executionId now => exact (markPublished_spec db executionId now).1 ▸ hrow
  | @took request _ _ htransact hchanged =>
    have heffect := Request.effect htransact hchanged
    by_cases hid : id = request.executionId
    · subst hid
      obtain ⟨before, after, hbefore, -, hmove, hne⟩ := heffect.status
      rw [hrow, Option.some.injEq] at hbefore
      subst hbefore
      rw [hstatus] at hmove hne
      generalize after.status = final at hmove hne
      cases status <;> cases hmove <;> exact absurd rfl hne
    · exact (heffect.frame hid).1.trans hrow

/-- An event that agrees with a stored terminal row keeps agreeing. -/
lemma TerminalEvent.Reports.step (hevent : event.Reports db) (hstep : DatabaseStep db db' es) :
    event.Reports db' := by
  obtain ⟨row, hrow, hstatus, hcompleted⟩ := hevent
  exact ⟨row, hstep.terminal hrow hstatus, hstatus, hcompleted⟩

/-- What the tables hold depends on the status, the claim and its state. -/
lemma Holds.of_rows {status : ExecutionStatus} {claim : FinalizationClaim} {state : FinalizationState}
    (hholds : Holds db id status claim state)
    (hexecutions : db'.workflowExecutions.get? id = db.workflowExecutions.get? id)
    (hfinalizations : ∀ row, db.workflowFinalizations.get? id = some row →
      ∃ row', db'.workflowFinalizations.get? id = some row' ∧ mapClaim id row' = mapClaim id row ∧
        row'.state = row.state) : Holds db' id status claim state := by
  obtain ⟨⟨execution, hexecution, hstatus⟩, row, hrow, hclaim, hstate⟩ := hholds
  obtain ⟨row', hrow', hclaim', hstate'⟩ := hfinalizations row hrow
  exact ⟨⟨execution, hexecutions.trans hexecution, hstatus⟩, row', hrow', hclaim'.trans hclaim,
    hstate'.trans hstate⟩

/-- What can have happened depends on the status, the claim and its state. -/
lemma Decided.of_rows (hdecided : Decided db id h)
    (hexecutions : db'.workflowExecutions.get? id = db.workflowExecutions.get? id)
    (hfinalizations : ∀ row, db.workflowFinalizations.get? id = some row →
      ∃ row', db'.workflowFinalizations.get? id = some row' ∧ mapClaim id row' = mapClaim id row ∧
        row'.state = row.state) : Decided db' id h := by
  cases hdecided with
  | running hstored hstatus => exact .running (hexecutions.trans hstored) hstatus
  | claimed hholds => exact .claimed (hholds.of_rows hexecutions hfinalizations)
  | acknowledged hholds hreported =>
    exact .acknowledged (hholds.of_rows hexecutions hfinalizations) hreported
  | failed hholds hreported => exact .failed (hholds.of_rows hexecutions hfinalizations) hreported

/-- While a claimed execution is finalizing, its claim is what happened. -/
lemma Decided.of_claimed {row : FinalizationRow} {execution : ExecutionRow}
    (hdecided : Decided db id h) (hrow : db.workflowFinalizations.get? id = some row)
    (hclaimed : row.state = .claimed) (hstored : db.workflowExecutions.get? id = some execution)
    (hfinalizing : execution.status = .finalizing) :
    h = [.took (.claimFinalization (mapClaim id row))] := by
  have hstate : ∀ {status claim state}, Holds db id status claim state →
      mapClaim id row = claim ∧ state = .claimed := by
    rintro status claim state ⟨-, row', hrow', hclaim, hstate⟩
    cases hrow.symm.trans hrow'
    exact ⟨hclaim, hstate.symm.trans hclaimed⟩
  cases hdecided with
  | running hbefore hrunning =>
    cases hstored.symm.trans hbefore
    exact nomatch hfinalizing.symm.trans hrunning
  | claimed hholds => rw [(hstate hholds).1]
  | acknowledged hholds | failed hholds => exact nomatch (hstate hholds).2

/-- A transaction that changes the rows of the execution is the claim of a running one, or the settlement
of a claimed one. -/
lemma Decided.effect {request : Request} (hdecided : Decided db id h)
    (heffect : Effect db request db') (hid : request.executionId = id) :
    Decided db' id (h ++ [.took request]) := by
  subst hid
  cases heffect with
  | @claimed claim execution hfree hstored hrunning =>
    have hnone : ∀ {status claim' state}, ¬ Holds db claim.executionId status claim' state := by
      rintro status claim' state ⟨-, row, hrow, -⟩
      exact nomatch hfree.symm.trans hrow
    cases hdecided with
    | running =>
      exact .claimed ⟨⟨_, OrderedMap.get?_set_self _ _ _, rfl⟩, _, OrderedMap.get?_set_self _ _ _,
        rfl, rfl⟩
    | claimed hholds | acknowledged hholds | failed hholds => exact absurd hholds hnone
  | @acknowledged executionId settledAt row execution hrow hclaimed hstored hfinalizing =>
    obtain rfl := hdecided.of_claimed hrow hclaimed hstored hfinalizing
    exact @Decided.acknowledged _ _ (mapClaim executionId row) settledAt []
      ⟨⟨_, OrderedMap.get?_set_self _ _ _, rfl⟩, _, OrderedMap.get?_set_self _ _ _, rfl, rfl⟩
      (fun _ hmem => nomatch hmem)
  | @failed executionId error settledAt row execution hrow hclaimed hstored hfinalizing =>
    obtain rfl := hdecided.of_claimed hrow hclaimed hstored hfinalizing
    exact @Decided.failed _ _ (mapClaim executionId row) error settledAt []
      ⟨⟨_, OrderedMap.get?_set_self _ _ _, rfl⟩, _, OrderedMap.get?_set_self _ _ _, rfl, rfl⟩
      (fun _ hmem => nomatch hmem)

/-- An event that agrees with the stored row follows the settlement. -/
lemma Decided.publish (hdecided : Decided db id h) (hevent : event.Reports db) (hid : event.executionId = id) :
    Decided db id (h ++ [.published event]) := by
  subst hid
  obtain ⟨row, hrow, hstatus, -⟩ := hevent
  have hheld : ∀ {status claim state}, Holds db event.executionId status claim state →
      status = event.status.toStatus := by
    rintro status claim state ⟨⟨row', hrow', hstatus'⟩, -⟩
    cases hrow.symm.trans hrow'
    exact hstatus'.symm.trans hstatus
  have hinj : ∀ {s t : TerminalStatus}, s.toStatus = t.toStatus → t = s := by
    intro s t
    cases s <;> cases t <;> simp [TerminalStatus.toStatus]
  cases hdecided with
  | @running before hbefore hrunning =>
    cases hrow.symm.trans hbefore
    rw [hrunning] at hstatus
    cases hevent : event.status <;> rw [hevent] at hstatus <;> exact nomatch hstatus
  | claimed hholds =>
    have hfinalizing := hheld hholds
    cases hevent : event.status <;> rw [hevent] at hfinalizing <;> exact nomatch hfinalizing
  | @acknowledged claim settledAt events hholds hreported =>
    have hsnoc := @Decided.acknowledged _ _ claim settledAt (events ++ [event]) hholds
      (List.forall_mem_append.mpr ⟨hreported, List.forall_mem_singleton.mpr (hinj (hheld hholds))⟩)
    simpa using hsnoc
  | @failed claim error settledAt events hholds hreported =>
    have hsnoc := @Decided.failed _ _ claim error settledAt (events ++ [event]) hholds
      (List.forall_mem_append.mpr ⟨hreported, List.forall_mem_singleton.mpr
        (@hinj .failed event.status (hheld hholds))⟩)
    simpa using hsnoc

/-- **One step** keeps the account of an execution. -/
theorem Decided.step (hdecided : Decided db id h) (hstep : DatabaseStep db db' es)
    (hreports : ∀ event, .published event ∈ es → event.Reports db) :
    Decided db' id (h ++ es.filter fun e => e.executionId = id) := by
  cases hstep with
  | unchanged => simpa using hdecided
  | marked executionId now =>
    obtain ⟨hexecutions, hfinalizations⟩ := markPublished_spec db executionId now
    rw [List.filter_nil, List.append_nil]
    exact hdecided.of_rows (by rw [hexecutions]) (hfinalizations id)
  | published event =>
    rw [List.filter_singleton]
    by_cases hid : event.executionId = id
    · rw [Entry.executionId, decide_eq_true hid]
      exact hdecided.publish (hreports event (List.mem_singleton_self _)) hid
    · rw [Entry.executionId, decide_eq_false hid]
      simpa using hdecided
  | @took request _ _ htransact hchanged =>
    have heffect := Request.effect htransact hchanged
    rw [List.filter_singleton]
    by_cases hid : request.executionId = id
    · rw [Entry.executionId, decide_eq_true hid]
      exact hdecided.effect heffect hid
    · rw [Entry.executionId, decide_eq_false hid]
      obtain ⟨hexecutions, hfinalizations⟩ := heffect.frame (Ne.symm hid)
      have hframe := hdecided.of_rows hexecutions fun row hrow =>
        ⟨row, hfinalizations.trans hrow, rfl, rfl⟩
      simpa using hframe

end Step

/-! ### Runs -/

section Runs

variable {db : Database} {id : String} {h : List Entry}

/-- A request that took effect is one of those in the account. -/
lemma Decided.took {request : Request} (hdecided : Decided db id h) (hmem : .took request ∈ h) :
    ∃ claim state, (∃ status, Holds db id status claim state) ∧
      (request = .claimFinalization claim ∨
        (∃ settledAt, request = .acknowledgeFinalization id claim.claimToken settledAt ∧
          state = .acknowledged) ∨
        ∃ error settledAt, request = .failFinalization id claim.claimToken error settledAt ∧
          state = .failed) := by
  have hevents : ∀ events : List TerminalEvent, .took request ∉ events.map Entry.published := by
    intro events hmem
    obtain ⟨event, -, heq⟩ := List.mem_map.mp hmem
    exact nomatch heq
  cases hdecided with
  | running => exact nomatch hmem
  | claimed hholds =>
    cases List.mem_singleton.mp hmem
    exact ⟨_, _, ⟨_, hholds⟩, Or.inl rfl⟩
  | acknowledged hholds =>
    rcases List.mem_cons.mp hmem with heq | hmem
    · exact ⟨_, _, ⟨_, hholds⟩, Or.inl (Entry.took.inj heq)⟩
    · rcases List.mem_cons.mp hmem with heq | hmem
      · exact ⟨_, _, ⟨_, hholds⟩, Or.inr (Or.inl ⟨_, Entry.took.inj heq, rfl⟩)⟩
      · exact absurd hmem (hevents _)
  | failed hholds =>
    rcases List.mem_cons.mp hmem with heq | hmem
    · exact ⟨_, _, ⟨_, hholds⟩, Or.inl (Entry.took.inj heq)⟩
    · rcases List.mem_cons.mp hmem with heq | hmem
      · exact ⟨_, _, ⟨_, hholds⟩, Or.inr (Or.inr ⟨_, _, Entry.took.inj heq, rfl⟩)⟩
      · exact absurd hmem (hevents _)

/-- A stored claim that is not settled is its own replay. -/
lemma isSameClaim_mapClaim (id : String) (row : FinalizationRow) :
    isSameClaim id row (mapClaim id row) = decide (row.state = .claimed) := by
  simp [isSameClaim, mapClaim]

/-- A settlement under the token of the claim that was reached is accepted again. -/
lemma settleFinalization_reached {row : FinalizationRow} {claimToken : String}
    {reached opposite : FinalizationState}
    {terminal : FinalizationIntent → ExecutionRow → ExecutionRow}
    {settle : FinalizationRow → FinalizationRow}
    (hrow : db.workflowFinalizations.get? id = some row) (htoken : row.claimToken = claimToken)
    (hstate : row.state = reached) (hne : reached ≠ opposite) :
    settleFinalization db id claimToken reached opposite terminal settle = (db, true) := by
  rw [settleFinalization, hrow]
  dsimp only
  rw [if_neg (by simp [htoken, hstate, hne]), if_pos hstate]

/-- Repeated requests, while the account of the execution holds. -/
theorem Decided.replayed (hdecided : Decided db id h) : Replayed db h := by
  constructor
  · intro claim hmem
    obtain ⟨claim', state, ⟨status, -, row, hrow, hclaim, hstate⟩, heq | ⟨_, heq, -⟩ | ⟨_, _, heq, -⟩⟩ :=
      hdecided.took hmem
    · cases heq
      subst hclaim
      refine ⟨row, hrow, ?_⟩
      rw [claimFinalization, mapClaim, hrow]
      exact congrArg (fun answer => some (db, answer)) (isSameClaim_mapClaim id row)
    · cases heq
    · cases heq
  · intro executionId token settledAt hmem settledAt'
    obtain ⟨claim, state, ⟨status, -, row, hrow, hclaim, hstate⟩, heq | ⟨_, heq, hreached⟩ | ⟨_, _, heq, -⟩⟩ :=
      hdecided.took hmem
    · cases heq
    · cases heq
      exact settleFinalization_reached hrow (hclaim ▸ rfl) (hstate.trans hreached) (by decide)
    · cases heq
  · intro executionId token error settledAt hmem error' settledAt'
    obtain ⟨claim, state, ⟨status, -, row, hrow, hclaim, hstate⟩, heq | ⟨_, heq, -⟩ |
      ⟨_, _, heq, hreached⟩⟩ := hdecided.took hmem
    · cases heq
    · cases heq
    · cases heq
      exact settleFinalization_reached hrow (hclaim ▸ rfl) (hstate.trans hreached) (by decide)

/-- The execution of an account is stored. -/
lemma Decided.stored (hdecided : Decided db id h) :
    ∃ row, db.workflowExecutions.get? id = some row := by
  cases hdecided with
  | running hstored => exact ⟨_, hstored⟩
  | claimed hholds | acknowledged hholds | failed hholds => exact hholds.execution.imp fun _ => And.left

/-- The account of an execution, and events about to be emitted that agree with the tables. -/
structure Accounted (id : String) (o : World × List Entry) : Prop where
  decided : Decided o.1.db id (o.2.filter fun e => e.executionId = id)
  reporting : o.1.Reporting

/-- One step of the system keeps the account. -/
theorem Accounted.step {o o' : World × List Entry} {a : Action} (ho : Accounted id o)
    (hstep : observe o a = some o') : Accounted id o' := by
  obtain ⟨⟨w', es⟩, hworld, rfl⟩ := Option.map_eq_some_iff.mp hstep
  obtain ⟨hdb, hemits, hpublished⟩ := World.step_spec hworld
  constructor
  · rw [List.filter_append]
    refine ho.decided.step hdb fun event hmem => ?_
    obtain ⟨handler, host, hhandler⟩ := hpublished event hmem
    exact ho.reporting handler host event hhandler
  · intro handler host event hhandler
    rcases hemits handler host event hhandler with hbefore | hreports
    · exact (ho.reporting handler host event hbefore).step hdb
    · exact hreports.step hdb

end Runs

/-- **Finalization is decided once.**  In every state that a run from a running execution reaches: what
took effect and what was published is one of the accounts of `Decided`; a step moves the status of the
execution as `StatusStep` says; and the requests that took effect answer as `Replayed` says.

**Proof sketch.** A change of the tables is the transaction of a request or a mark, and a transaction that
changes them tests the state it leaves (`Effect`), so each account has its successors.  A publication reads
the execution before it emits; the row it read was terminal, and terminal rows are not written again. -/
theorem finalization_decided {db : Database} {id : String} {execution : ExecutionRow}
    (hstored : db.workflowExecutions.get? id = some execution) (hrunning : execution.status = .running)
    {w : World} {h : List Entry} (hrun : Observed db (w, h)) :
    Decided w.db id (h.filter fun e => e.executionId = id) ∧
      (∀ a w' es, w.step a = some (w', es) → ∃ row row', w.db.workflowExecutions.get? id = some row ∧
        w'.db.workflowExecutions.get? id = some row' ∧ StatusStep row.status row'.status) ∧
      Replayed w.db (h.filter fun e => e.executionId = id) := by
  have haccounted : Accounted id (w, h) := by
    refine Reach.invariant (Accounted id) ?_ (fun _ _ _ ho _ hstep => ho.step hstep) hrun
    rintro _ rfl
    exact ⟨.running hstored hrunning, fun _ _ _ hhandler => nomatch hhandler⟩
  refine ⟨haccounted.decided, fun a w' es hstep => ?_, haccounted.decided.replayed⟩
  obtain ⟨row, hrow⟩ := haccounted.decided.stored
  obtain ⟨row', hrow', hmove⟩ := (World.step_spec hstep).1.status hrow
  exact ⟨row, row', hrow, hrow', hmove⟩

/-! ### A settled claim -/

/-- Tables with one running execution. -/
def sampleTables : Database where
  workflowExecutions := OrderedMap.empty.set "e" ⟨"wf", .running, 10, none, none, none⟩
  workflowFinalizations := .empty

/-- The claim of its terminal transition. -/
def sampleClaim : FinalizationClaim :=
  ⟨"e", "wf", "audit", "e:terminal", "token", ⟨.completed, 20, none, none⟩, 15⟩

/-- A claim and its acknowledgment, published to the end. -/
def sampleActions : List Action :=
  [.receive "host" (.claimFinalization sampleClaim), .resume 0 ⟨false, 0⟩,
    .receive "host" (.acknowledgeFinalization "e" "token" 21)] ++
    List.replicate 9 (.resume 1 ⟨false, 22⟩)

/-- The state that the run reaches, with what was observed. -/
def sampleState : World × List Entry :=
  (⟨⟨OrderedMap.empty.set "e" ⟨"wf", .completed, 10, some 20, none, none⟩,
      OrderedMap.empty.set "e" ⟨"wf", "audit", "e:terminal", "token", ⟨.completed, 20, none, none⟩,
        .acknowledged, 15, some 21, none, some 22⟩⟩, .empty, 2, .empty⟩,
    [.took (.claimFinalization sampleClaim), .took (.acknowledgeFinalization "e" "token" 21),
      .published (.completed "e" "wf" 10 20 "e:terminal")])

/-- The run reaches it. -/
lemma sampleState_observed : Observed sampleTables sampleState :=
  Reach.of_runGuarded sampleActions (.start rfl)
    (show runGuarded observe (fun _ _ => True) _ sampleActions = _ by decide +kernel)

/-- The account of the run. -/
theorem finalization_decided_published :
    Decided sampleState.1.db "e" (sampleState.2.filter fun e => e.executionId = "e") ∧
      (∀ a w' es, sampleState.1.step a = some (w', es) → ∃ row row',
        sampleState.1.db.workflowExecutions.get? "e" = some row ∧
        w'.db.workflowExecutions.get? "e" = some row' ∧ StatusStep row.status row'.status) ∧
      Replayed sampleState.1.db (sampleState.2.filter fun e => e.executionId = "e") :=
  @finalization_decided sampleTables "e" _ rfl rfl _ _ sampleState_observed

/-- **A claim repeated after its settlement is refused**, although it took effect: repeated requests that
took effect are not always accepted. -/
theorem claim_replay_refused :
    ¬ ∀ (db : Database) (id : String) (execution : ExecutionRow),
      db.workflowExecutions.get? id = some execution → execution.status = .running →
      ∀ w h, Observed db (w, h) → ∀ request, .took request ∈ h → request.executionId = id →
        request.transact w.db = some (w.db, true) := by
  intro hall
  have htrue := hall sampleTables "e" _ rfl rfl sampleState.1 sampleState.2 sampleState_observed
    (.claimFinalization sampleClaim) (by decide) rfl
  exact absurd htrue (by decide +kernel)

end Makaio.Finalization
