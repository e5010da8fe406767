import Makaio.Foundations.Machine
import Makaio.Finalization.Storage

set_option autoImplicit false

/-!
# Finalization handlers and the publication of terminal events

Each request to a finalization handler runs as a sequence of steps between its await points; the steps of
all requests interleave freely.  A transaction is one step.  A publication waits for the one before it in
its queue, reads the two rows in two steps, emits and marks; any storage call and any emission may throw,
and a host may restart in between.

## Main definitions

* `TerminalEvent`, `terminalEvent` — what a publication emits.
* `Stage`, `World` — the handlers in flight over the tables.
* `World.step` — one step of one handler, with what an observer of it sees.
-/

namespace Makaio.Finalization

open Foundations

/-! ### Terminal events -/

/-- The payload of `execution.completed`, `execution.failed` or `execution.cancelled`. -/
inductive TerminalEvent
  | completed (executionId workflowId : String) (totalDuration : ℤ) (completedAt : ℕ)
      (transitionKey : String)
  | failed (executionId workflowId error : String) (completedAt : ℕ) (transitionKey : String)
  | cancelled (executionId workflowId : String) (reason : Option String) (completedAt : ℕ)
      (transitionKey : String)
  deriving DecidableEq

/-- The execution an event is about. -/
def TerminalEvent.executionId : TerminalEvent → String
  | .completed executionId _ _ _ _ => executionId
  | .failed executionId _ _ _ _ => executionId
  | .cancelled executionId _ _ _ _ => executionId

/-- The status an event reports. -/
def TerminalEvent.status : TerminalEvent → TerminalStatus
  | .completed .. => .completed
  | .failed .. => .failed
  | .cancelled .. => .cancelled

/-- The completion time an event reports. -/
def TerminalEvent.completedAt : TerminalEvent → ℕ
  | .completed _ _ _ completedAt _ => completedAt
  | .failed _ _ _ completedAt _ => completedAt
  | .cancelled _ _ _ completedAt _ => completedAt

/-- The event for the two rows of a settled execution; none without a completion time or a terminal
status. -/
def terminalEvent (executionId : String) (row : FinalizationRow) (execution : ExecutionRow) :
    Option TerminalEvent :=
  match execution.completedAt with
  | none => none
  | some completedAt =>
    match execution.status with
    | .completed => some (.completed executionId row.workflowId
        (completedAt - execution.startedAt : ℤ) completedAt row.transitionKey)
    | .failed => some (.failed executionId row.workflowId
        (execution.error.getD "Workflow finalization failed") completedAt row.transitionKey)
    | .cancelled => some (.cancelled executionId row.workflowId execution.reason completedAt
        row.transitionKey)
    | _ => none

/-- Whether a publication request names another claim than the durable one; then it throws. -/
def publishClaimMismatch (executionId : String) (row : FinalizationRow) (claim : FinalizationClaim) :
    Bool :=
  executionId ≠ claim.executionId || row.workflowId ≠ claim.workflowId ||
    row.finalizerId ≠ claim.finalizerId || row.transitionKey ≠ claim.transitionKey ||
    row.claimToken ≠ claim.claimToken

/-! ### Handlers in flight -/

/-- Where a handler stands: what its next step does. -/
inductive Stage
  /-- run the transaction of a request -/
  | transaction (request : Request)
  /-- after an accepted settlement: read the row to publish -/
  | lookup (executionId : String)
  /-- wait for the publication before it in the queue -/
  | queued (claim : FinalizationClaim) (previous : Option ℕ)
  | readRow (claim : FinalizationClaim)
  /-- read the execution of a settled row that is not marked -/
  | readExecution (executionId : String) (row : FinalizationRow)
  | emitting (event : TerminalEvent)
  /-- wait for the subscribers -/
  | delivering (executionId : String)
  /-- mark the row -/
  | marking (executionId : String)
  /-- the publication ended: leave the queue -/
  | ended (executionId : String)
  deriving DecidableEq

/-- A handler and the registration it belongs to; each registration has its own publisher. -/
structure Handler where
  host : String
  stage : Stage
  deriving DecidableEq

/-- The tables, the handlers in flight, and the publication queues by registration and execution. -/
structure World where
  db : Database
  handlers : OrderedMap ℕ Handler
  nextHandler : ℕ
  tails : OrderedMap (String × String) ℕ
  deriving DecidableEq

/-- What the environment decides about a step: whether the storage call or the emission it waits for
throws, and the clock. -/
structure Outcome where
  fails : Bool
  now : ℕ

/-- A request arrives, a handler goes on, or a host restarts. -/
inductive Action
  | receive (host : String) (request : Request)
  | resume (handler : ℕ) (outcome : Outcome)
  | restart (host : String)

/-- What an observer of the tables and of the bus sees: a request changed the tables, or a terminal event
was emitted. -/
inductive Entry
  | took (request : Request)
  | published (event : TerminalEvent)
  deriving DecidableEq

/-- The execution an entry is about. -/
def Entry.executionId : Entry → String
  | .took request => request.executionId
  | .published event => event.executionId

namespace World

/-- A handler goes on to a stage. -/
def goto (w : World) (id : ℕ) (host : String) (stage : Stage) : World :=
  { w with handlers := w.handlers.set id ⟨host, stage⟩ }

/-- A handler ends. -/
def finish (w : World) (id : ℕ) : World := { w with handlers := w.handlers.delete id }

/-- `publish` of `createFinalizationPublisher`: queue behind the tail and become the tail. -/
def publish (w : World) (id : ℕ) (host : String) (claim : FinalizationClaim) : World :=
  { w.goto id host (.queued claim (w.tails.get? (host, claim.executionId))) with
    tails := w.tails.set (host, claim.executionId) id }

/-- Whether a publication in the queue has ended. -/
def hasEnded (w : World) (id : ℕ) : Bool :=
  match w.handlers.get? id with
  | none => true
  | some ⟨_, .ended _⟩ => true
  | some _ => false

/-- The last step of a publication: drop the queue if it is still its tail. -/
def leaveQueue (w : World) (id : ℕ) (host executionId : String) : World :=
  if w.tails.get? (host, executionId) = some id then
    { w.finish id with tails := w.tails.delete (host, executionId) }
  else w.finish id

/-- After the transaction of a request: an accepted settlement goes on to publish. -/
def answered (w : World) (id : ℕ) (host : String) (request : Request) (answer : Bool) : World :=
  match request with
  | .acknowledgeFinalization executionId _ _ | .failFinalization executionId _ _ _ =>
    if answer then w.goto id host (.lookup executionId) else w.finish id
  | _ => w.finish id

/-- One step of a handler; nothing while it has to wait. -/
def resume (w : World) (id : ℕ) (host : String) (outcome : Outcome) :
    Stage → Option (World × List Entry)
  | .transaction request =>
    if outcome.fails then some (w.finish id, [])
    else
      match request.transact w.db with
      | none => some (w.finish id, [])
      | some (db, answer) =>
        some (answered { w with db } id host request answer,
          if db = w.db then [] else [.took request])
  | .lookup executionId =>
    if outcome.fails then some (w.finish id, [])
    else
      match w.db.workflowFinalizations.get? executionId with
      | none => some (w.finish id, [])
      | some row => some (w.publish id host (mapClaim executionId row), [])
  | .queued claim previous =>
    if previous.all w.hasEnded then some (w.goto id host (.readRow claim), []) else none
  | .readRow claim =>
    if outcome.fails then some (w.goto id host (.ended claim.executionId), [])
    else
      match w.db.workflowFinalizations.get? claim.executionId with
      | none => some (w.goto id host (.ended claim.executionId), [])
      | some row =>
        if publishClaimMismatch claim.executionId row claim || row.state = .claimed ||
            row.publishedAt.isSome then
          some (w.goto id host (.ended claim.executionId), [])
        else some (w.goto id host (.readExecution claim.executionId row), [])
  | .readExecution executionId row =>
    if outcome.fails then some (w.goto id host (.ended executionId), [])
    else
      match w.db.workflowExecutions.get? executionId with
      | none => some (w.goto id host (.ended executionId), [])
      | some execution =>
        match terminalEvent executionId row execution with
        | none => some (w.goto id host (.ended executionId), [])
        | some event => some (w.goto id host (.emitting event), [])
  | .emitting event => some (w.goto id host (.delivering event.executionId), [.published event])
  | .delivering executionId =>
    some (w.goto id host (if outcome.fails then .ended executionId else .marking executionId), [])
  | .marking executionId =>
    some ({ w with
      db := if outcome.fails then w.db else markPublished w.db executionId outcome.now }.goto id host
        (.ended executionId), [])
  | .ended executionId => some (w.leaveQueue id host executionId, [])

/-- One step of the system; nothing where a handler waits or is not in flight. -/
def step (w : World) : Action → Option (World × List Entry)
  | .receive host request =>
    let next := { w with nextHandler := w.nextHandler + 1 }
    match request with
    | .publishFinalization claim => some (next.publish w.nextHandler host claim, [])
    | request => some (next.goto w.nextHandler host (.transaction request), [])
  | .resume id outcome =>
    match w.handlers.get? id with
    | none => none
    | some handler => w.resume id handler.host outcome handler.stage
  | .restart host => some ({ w with
      handlers := (w.handlers.entries.filter fun e => e.2.host = host).foldl
        (fun m e => m.delete e.1) w.handlers
      tails := (w.tails.entries.filter fun e => e.1.1 = host).foldl (fun m e => m.delete e.1)
        w.tails }, [])

/-- The tables with no handler in flight. -/
def quiet (db : Database) : World := ⟨db, .empty, 0, .empty⟩

end World

/-- The system beside what an observer has seen of it. -/
def observe (o : World × List Entry) (a : Action) : Option (World × List Entry) :=
  (o.1.step a).map fun next => (next.1, o.2 ++ next.2)

/-- What an observer has seen, over every run from tables with no handler in flight. -/
abbrev Observed (db : Database) : World × List Entry → Prop :=
  Reach (fun o => o = (World.quiet db, [])) observe fun _ _ => True

/-! ### What one step does -/

/-- A change of the tables by a step: by the transaction of a request, or by marking a row. -/
inductive DatabaseStep (db : Database) : Database → List Entry → Prop
  | unchanged : DatabaseStep db db []
  | took {request : Request} {db' : Database} {answer : Bool}
      (transact : request.transact db = some (db', answer)) (changed : db' ≠ db) :
      DatabaseStep db db' [.took request]
  | published (event : TerminalEvent) : DatabaseStep db db [.published event]
  | marked (executionId : String) (now : ℕ) : DatabaseStep db (markPublished db executionId now) []

/-- A terminal event that agrees with the stored row of its execution. -/
def TerminalEvent.Reports (event : TerminalEvent) (db : Database) : Prop :=
  ∃ execution, db.workflowExecutions.get? event.executionId = some execution ∧
    execution.status = event.status.toStatus ∧ execution.completedAt = some event.completedAt

/-- Every event about to be emitted agrees with the tables. -/
def World.Reporting (w : World) : Prop :=
  ∀ id host event, w.handlers.get? id = some ⟨host, .emitting event⟩ → event.Reports w.db

/-- The event built from two rows reports the execution. -/
lemma terminalEvent_some {executionId : String} {row : FinalizationRow} {execution : ExecutionRow}
    {event : TerminalEvent} (h : terminalEvent executionId row execution = some event) :
    event.executionId = executionId ∧ execution.status = event.status.toStatus ∧
      execution.completedAt = some event.completedAt := by
  rw [terminalEvent] at h
  cases hcompleted : execution.completedAt with
  | none =>
    rw [hcompleted] at h
    exact nomatch h
  | some completedAt =>
    rw [hcompleted] at h
    dsimp only at h
    split at h
    case h_4 => exact nomatch h
    all_goals
      rename_i hstatus
      cases h
      exact ⟨rfl, hstatus, rfl⟩

namespace World

@[simp] lemma goto_db (w : World) (id : ℕ) (host : String) (stage : Stage) :
    (w.goto id host stage).db = w.db := rfl

@[simp] lemma finish_db (w : World) (id : ℕ) : (w.finish id).db = w.db := rfl

@[simp] lemma publish_db (w : World) (id : ℕ) (host : String) (claim : FinalizationClaim) :
    (w.publish id host claim).db = w.db := rfl

@[simp] lemma leaveQueue_db (w : World) (id : ℕ) (host executionId : String) :
    (w.leaveQueue id host executionId).db = w.db := by
  rw [leaveQueue]
  split_ifs <;> rfl

@[simp] lemma answered_db (w : World) (id : ℕ) (host : String) (request : Request) (answer : Bool) :
    (w.answered id host request answer).db = w.db := by
  cases request <;> cases answer <;> rfl

variable {w w' : World} {id j : ℕ} {host : String} {stage : Stage} {handler : Handler}

/-- The handlers after one of them went on. -/
lemma goto_handlers (h : (w.goto id host stage).handlers.get? j = some handler) :
    handler = ⟨host, stage⟩ ∨ w.handlers.get? j = some handler := by
  rw [goto, OrderedMap.get?_set] at h
  split_ifs at h
  · exact Or.inl (Option.some.inj h).symm
  · exact Or.inr h

/-- The handlers after one of them ended. -/
lemma finish_handlers (h : (w.finish id).handlers.get? j = some handler) :
    w.handlers.get? j = some handler := by
  rw [finish, OrderedMap.get?_delete] at h
  split_ifs at h
  exact h

/-- The handlers that are about to emit after a step: they were before, or report the stored row. -/
def Emits (w w' : World) : Prop :=
  ∀ id host event, w'.handlers.get? id = some ⟨host, .emitting event⟩ →
    w.handlers.get? id = some ⟨host, .emitting event⟩ ∨ event.Reports w.db

lemma Emits.finish : w.Emits (w.finish id) := fun _ _ _ h => Or.inl (finish_handlers h)

lemma Emits.goto (hstage : ∀ event, stage = .emitting event → event.Reports w.db) :
    w.Emits (w.goto id host stage) := by
  intro j host' event h
  rcases goto_handlers h with heq | h
  · exact Or.inr (hstage event (Handler.mk.inj heq).2.symm)
  · exact Or.inl h

lemma Emits.publish (claim : FinalizationClaim) : w.Emits (w.publish id host claim) :=
  Emits.goto (fun _ h => nomatch h)

lemma Emits.leaveQueue (executionId : String) : w.Emits (w.leaveQueue id host executionId) := by
  rw [World.leaveQueue]
  split_ifs
  · exact Emits.finish
  · exact Emits.finish

lemma Emits.answered (db : Database) (request : Request) (answer : Bool) :
    w.Emits (World.answered { w with db } id host request answer) := by
  have hfinish : w.Emits (World.finish { w with db } id) := Emits.finish (w := w)
  have hgoto : ∀ executionId, w.Emits (World.goto { w with db } id host (.lookup executionId)) :=
    fun _ => Emits.goto (w := w) (fun _ h => nomatch h)
  cases request <;> cases answer <;> first | exact hfinish | exact hgoto _

/-- One step of a handler: what it did to the tables, and who is about to emit after it. -/
theorem resume_spec {outcome : Outcome} {es : List Entry}
    (hhandler : w.handlers.get? id = some ⟨host, stage⟩)
    (h : w.resume id host outcome stage = some (w', es)) :
    DatabaseStep w.db w'.db es ∧ w.Emits w' ∧
      ∀ event, .published event ∈ es → w.handlers.get? id = some ⟨host, .emitting event⟩ := by
  have hquiet : ∀ {v : World}, some (v, ([] : List Entry)) = some (w', es) → v.db = w.db →
      w.Emits v → DatabaseStep w.db w'.db es ∧ w.Emits w' ∧
        ∀ event, .published event ∈ es → w.handlers.get? id = some ⟨host, .emitting event⟩ := by
    intro v heq hdb hemits
    cases heq
    exact ⟨hdb ▸ .unchanged, hemits, fun _ hmem => by cases hmem⟩
  cases stage with
  | transaction request =>
    rw [resume] at h
    split_ifs at h with hfails
    · exact hquiet h rfl .finish
    · cases htransact : request.transact w.db with
      | none =>
        rw [htransact] at h
        exact hquiet h rfl .finish
      | some result =>
        obtain ⟨db, answer⟩ := result
        rw [htransact] at h
        dsimp only at h
        split_ifs at h with hdb
        · exact hquiet h (by rw [answered_db, hdb]) (.answered db request answer)
        · cases h
          refine ⟨?_, .answered db request answer, fun event hmem => ?_⟩
          · rw [answered_db]
            exact .took htransact hdb
          · exact absurd (List.mem_singleton.mp hmem) (by simp)
  | lookup executionId =>
    rw [resume] at h
    split_ifs at h with hfails
    · exact hquiet h rfl .finish
    · split at h
      · exact hquiet h rfl .finish
      · exact hquiet h rfl (.publish _)
  | queued claim previous =>
    rw [resume] at h
    split_ifs at h with hended
    exact hquiet h rfl (.goto fun _ heq => by cases heq)
  | readRow claim =>
    rw [resume] at h
    split_ifs at h with hfails
    · exact hquiet h rfl (.goto fun _ heq => by cases heq)
    · split at h
      · exact hquiet h rfl (.goto fun _ heq => by cases heq)
      · split_ifs at h
        · exact hquiet h rfl (.goto fun _ heq => by cases heq)
        · exact hquiet h rfl (.goto fun _ heq => by cases heq)
  | readExecution executionId row =>
    rw [resume] at h
    split_ifs at h with hfails
    · exact hquiet h rfl (.goto fun _ heq => by cases heq)
    · cases hexecution : w.db.workflowExecutions.get? executionId with
      | none =>
        rw [hexecution] at h
        exact hquiet h rfl (.goto fun _ heq => by cases heq)
      | some execution =>
        rw [hexecution] at h
        dsimp only at h
        cases hevent : terminalEvent executionId row execution with
        | none =>
          rw [hevent] at h
          exact hquiet h rfl (.goto fun _ heq => by cases heq)
        | some event =>
          rw [hevent] at h
          obtain ⟨hid, hstatus, hcompleted⟩ := terminalEvent_some hevent
          refine hquiet h rfl (.goto fun event' heq => ?_)
          cases heq
          exact ⟨execution, hid ▸ hexecution, hstatus, hcompleted⟩
  | emitting event =>
    cases h
    refine ⟨.published event, .goto fun _ heq => (by cases heq), fun event' hmem => ?_⟩
    cases List.mem_singleton.mp hmem
    exact hhandler
  | delivering executionId =>
    rw [resume] at h
    refine hquiet h rfl (.goto fun event heq => ?_)
    split_ifs at heq
  | marking executionId =>
    cases h
    refine ⟨?_, Emits.goto (w := w) fun _ heq => (by cases heq), fun _ hmem => by cases hmem⟩
    dsimp only [goto_db]
    split_ifs
    · exact .unchanged
    · exact .marked executionId outcome.now
  | ended executionId => exact hquiet h (leaveQueue_db ..) (.leaveQueue executionId)

/-- **One step of the system**: what it did to the tables, who is about to emit after it, and that an
emitted event was about to be. -/
theorem step_spec {a : Action} {es : List Entry} (h : w.step a = some (w', es)) :
    DatabaseStep w.db w'.db es ∧ w.Emits w' ∧
      ∀ event, .published event ∈ es → ∃ id host, w.handlers.get? id = some ⟨host, .emitting event⟩ := by
  cases a with
  | receive host request =>
    have hreceived : ∀ stage, (∀ event, stage ≠ .emitting event) →
        w.Emits (World.goto { w with nextHandler := w.nextHandler + 1 } w.nextHandler host stage) :=
      fun stage hne => Emits.goto (w := w) fun event heq => absurd heq (hne event)
    cases request with
    | publishFinalization claim | _ =>
      cases h
      exact ⟨.unchanged, hreceived _ fun _ => (nomatch ·), fun _ hmem => nomatch hmem⟩
  | resume id outcome =>
    rw [step] at h
    cases hhandler : w.handlers.get? id with
    | none =>
      rw [hhandler] at h
      exact nomatch h
    | some handler =>
      rw [hhandler] at h
      obtain ⟨hdb, hemits, hpublished⟩ := resume_spec hhandler h
      exact ⟨hdb, hemits, fun event hmem => ⟨id, handler.host, hpublished event hmem⟩⟩
  | restart host =>
    cases h
    refine ⟨.unchanged, fun id host' event hget => Or.inl ?_, fun _ hmem => nomatch hmem⟩
    rw [OrderedMap.get?_foldl_delete_filter w.handlers (fun e => e.2.host = host)] at hget
    exact (Option.filter_eq_some_iff.mp hget).1

end World

end Makaio.Finalization
