import Makaio.Foundations.OrderedMap
import Mathlib.Tactic

set_option autoImplicit false

/-!
# Tracked subagents

The manager of the subagents a service has spawned: one record for each subagent, the callers that
await its end, and the request for input it may be blocked on.  Callbacks handed to the manager are
positions in the two lists of calls; a call remembers whether its callback has run and everything
its caller was answered.

## Main definitions

* `TrackedSubagent` — the record of a subagent.
* `Manager` — records, awaiters, and the calls that hold callbacks.
* `Manager.track`, `setPendingRequest`, `resolvePendingRequest`,
  `recordCompletionCandidate`, `finalizeCompletionIfReady`, `markFailed`, `markCancelled`,
  `sweepHung`, `cleanup` — the operations of the manager.

## Main results

* `Manager.get?_sweepHung`, `get?_cleanup` — what the periodic sweep does to one
  record.
-/

namespace Makaio.Subagent

open Foundations

/-! ### Records -/

/-- The status of a subagent. -/
inductive Status
  | spawning | running | completing | waiting_input | hung | completed | failed | cancelled
  deriving DecidableEq

def Status.name : Status → String
  | spawning => "spawning"
  | running => "running"
  | completing => "completing"
  | waiting_input => "waiting_input"
  | hung => "hung"
  | completed => "completed"
  | failed => "failed"
  | cancelled => "cancelled"

/-- The states in which a subagent is no longer active. -/
def terminalStates : List Status := [.completed, .failed, .cancelled]

/-- Whether a status is terminal. -/
def isTerminal (status : Status) : Bool := decide (status ∈ terminalStates)

@[simp] lemma isTerminal_spawning : isTerminal .spawning = false := rfl
@[simp] lemma isTerminal_running : isTerminal .running = false := rfl
@[simp] lemma isTerminal_completing : isTerminal .completing = false := rfl
@[simp] lemma isTerminal_waiting_input : isTerminal .waiting_input = false := rfl
@[simp] lemma isTerminal_hung : isTerminal .hung = false := rfl
@[simp] lemma isTerminal_completed : isTerminal .completed = true := rfl
@[simp] lemma isTerminal_failed : isTerminal .failed = true := rfl
@[simp] lemma isTerminal_cancelled : isTerminal .cancelled = true := rfl

/-- Which mechanism ends a subagent: a call of the completion tool, or its first agent turn. -/
inductive CompletionMode
  | tool | turn
  deriving DecidableEq

/-- The configuration of a subagent, as far as the service reads it. -/
structure SubagentConfig where
  /-- The task given to the subagent. -/
  task : String
  /-- The adapter, inherited from the parent session when absent. -/
  adapterName : Option String := none
  model : Option String := none
  /-- The nesting depth asked for. -/
  maxDepth : Option ℚ := none
  /-- The completion mode, by the tool when absent. -/
  completion : Option CompletionMode := none

/-- The tokens of a turn. -/
structure UsageMetrics where
  /-- Tokens read. -/
  inputTokens : ℕ
  /-- Tokens read from a cache. -/
  cachedInputTokens : Option ℕ := none
  /-- Tokens written. -/
  outputTokens : ℕ

/-- The economics of an ended subagent. -/
structure UsageStats where
  /-- Tokens read, when measured. -/
  inputTokens : Option ℕ
  /-- Tokens read from a cache, when measured. -/
  cachedInputTokens : Option ℕ
  /-- Tokens written, when measured. -/
  outputTokens : Option ℕ
  /-- The number of distinct tool calls. -/
  toolCallCount : ℕ

/-- The identity of an artifact a tool produced. -/
structure ArtifactResult where
  kind : String
  /-- Its identifier. -/
  id : String
  revision : String

/-- The outcome of a tool call in the child session. -/
structure ToolObservation where
  toolName : String
  /-- Whether the call succeeded. -/
  success : Bool
  /-- The artifact it produced. -/
  artifact : Option ArtifactResult := none

/-- A request for input; `resolver` is the position of the call that made it. -/
structure PendingRequest where
  /-- The identifier an answer refers to. -/
  messageId : String
  question : String
  /-- Context of the question. -/
  context : Option String
  /-- The call whose caller waits for the answer. -/
  resolver : ℕ

/-- A completion intent for one child turn. -/
structure CompletionCandidate where
  /-- The child turn that must complete. -/
  turnId : String
  result : String
  /-- The summary of the result. -/
  summary : Option String
  /-- The mechanism that produced the intent. -/
  source : CompletionMode
  deriving DecidableEq

/-- The verdict on a completed child turn. -/
structure TurnVerdict where
  /-- Whether the turn succeeded. -/
  success : Bool
  /-- Why it failed. -/
  error : Option String

/-- The record of a subagent. -/
structure TrackedSubagent where
  /-- The session that spawned it. -/
  parentSessionId : String
  /-- The session that runs it. -/
  childSessionId : Option String := none
  /-- The live turn of the child session. -/
  activeTurnId : Option String := none
  status : Status
  config : SubagentConfig
  /-- Its nesting depth. -/
  depth : ℚ
  /-- The request it is blocked on. -/
  pendingRequest : Option PendingRequest := none
  /-- Recent progress updates, oldest first. -/
  progressUpdates : List String := []
  result : Option String := none
  /-- The summary of the result. -/
  summary : Option String := none
  /-- Why it failed. -/
  error : Option String := none
  /-- The mechanism that ended it. -/
  completionSource : Option CompletionMode := none
  /-- The completion intent that waits for its turn. -/
  completionCandidate : Option CompletionCandidate := none
  /-- The usage of the completed child turns. -/
  completedTurnUsage : OrderedMap String (Option UsageMetrics) := .empty
  /-- The verdicts on the completed child turns. -/
  completedTurnSuccess : OrderedMap String TurnVerdict := .empty
  /-- The distinct tool calls. -/
  toolCallIds : List String := []
  /-- Its economics, frozen at its end. -/
  usage : Option UsageStats := none
  /-- The outcomes of its tool calls. -/
  toolObservations : List ToolObservation := []
  /-- When it was tracked. -/
  startTime : ℕ
  /-- When it ended. -/
  endTime : Option ℕ := none
  /-- When its state last changed. -/
  lastActivityAt : ℕ

/-- The subagent is no longer active. -/
def TrackedSubagent.ended (x : TrackedSubagent) : Bool := isTerminal x.status

/-- What those who await the end of a subagent are told. -/
structure AwaitResult where
  /-- The terminal status. -/
  status : Status
  result : Option String
  /-- Why it failed. -/
  error : Option String
  /-- The mechanism that ended it. -/
  completionSource : Option CompletionMode
  /-- Its economics. -/
  usage : Option UsageStats
  /-- The outcomes of its tool calls. -/
  toolObservations : List ToolObservation

/-- The snapshot of a record that awaiters receive. -/
def TrackedSubagent.awaitResult (x : TrackedSubagent) : AwaitResult where
  status := x.status
  result := x.result
  error := x.error
  completionSource := x.completionSource
  usage := x.usage
  toolObservations := x.toolObservations

/-! ### Calls that hold callbacks -/

/-- What an await call is answered. -/
inductive AwaitAnswer
  /-- The subagent has ended. -/
  | ended (snapshot : AwaitResult)
  /-- The subagent is blocked on a request for input. -/
  | waitingInput (messageId question : String) (context : Option String)
  /-- The call has waited too long. -/
  | timeout
  /-- The subagent is not tracked. -/
  | rejected (message : String)

/-- An await call: whether its callback has run, whether its timer is armed, and everything its
caller was answered. -/
structure AwaitCall where
  /-- The subagent awaited. -/
  subagentId : String
  /-- Whether the caller has been answered. -/
  resolved : Bool
  /-- Whether the timer is armed. -/
  timer : Bool
  /-- Everything the caller was answered. -/
  answers : List AwaitAnswer

/-- Run the callback of an await call: the first answer clears the timer, the others are dropped. -/
def AwaitCall.answer (answer : AwaitAnswer) (c : AwaitCall) : AwaitCall :=
  if c.resolved then c
  else { c with resolved := true, timer := false, answers := c.answers ++ [answer] }

/-- What the call that requests input returns to the child. -/
inductive InputReturn
  /-- The parent has answered. -/
  | responded (response : String)
  /-- Timed out or cancelled. -/
  | timedOut
  /-- The question could not be published. -/
  | unpublished (error : String)

/-- A call that requests input. -/
structure InputCall where
  /-- The subagent that asks. -/
  subagentId : String
  /-- Whether the resolver has run. -/
  resolved : Bool := false
  /-- Whether the timer is armed. -/
  timer : Bool
  /-- Everything the resolver has passed on. -/
  responses : List (Option String) := []
  /-- Whether the question was published, once this is known. -/
  published : Option Bool := none
  /-- Everything the caller was returned. -/
  returns : List InputReturn := []

/-- Run the resolver of a request: the first response clears the timer, the others are dropped. -/
def InputCall.resolve (response : Option String) (c : InputCall) : InputCall :=
  if c.resolved then c
  else { c with resolved := true, timer := false, responses := c.responses ++ [response] }

/-! ### The manager -/

/-- The constraints of the platform. -/
structure SubagentConstraints where
  /-- Greatest nesting depth. -/
  maxDepth : ℚ
  /-- Most active subagents of one parent session. -/
  maxConcurrentPerSession : ℕ
  /-- Most active subagents. -/
  maxTotalActive : ℕ
  /-- Default timeout of a request for input; not positive: none. -/
  defaultRequestTimeoutMs : ℤ
  /-- Default timeout of an await call; not positive: none. -/
  defaultAwaitTimeoutMs : ℤ
  /-- How long ended subagents are retained. -/
  stateRetentionMs : ℤ
  /-- Inactivity after which a subagent is hung; `0`: never. -/
  inactivityTimeoutMs : ℕ
  /-- Adapters allowed; empty: all. -/
  allowedAdapters : List String
  /-- Models allowed; empty: all. -/
  allowedModels : List String

/-- The manager, with the calls whose callbacks it may run. -/
structure Manager where
  /-- The current time. -/
  now : ℕ
  /-- The records. -/
  subagents : OrderedMap String TrackedSubagent
  /-- The await calls registered for a subagent. -/
  awaiters : String → List ℕ
  awaitCalls : List AwaitCall
  /-- The calls that request input. -/
  inputCalls : List InputCall

/-- Codes of the errors of subagent operations. -/
inductive SubagentErrorCode
  | SUBAGENT_NOT_FOUND | DEPTH_EXCEEDED | SESSION_LIMIT | GLOBAL_LIMIT | ADAPTER_NOT_ALLOWED
  | MODEL_NOT_ALLOWED | ALREADY_TERMINAL | REQUEST_PENDING | INVALID_STATE

/-- An error of a subagent operation; plain errors have no code. -/
structure SubagentError where
  code : Option SubagentErrorCode
  message : String

namespace Manager

variable (m : Manager)

/-- The record of a subagent. -/
def get (subagentId : String) : Option TrackedSubagent := m.subagents.get? subagentId

variable (subagentId : String)

/-- Write the record of a subagent back. -/
def put (x : TrackedSubagent) : Manager :=
  { m with subagents := m.subagents.set subagentId x }

/-- Track a new subagent. -/
def track (subagentId parentSessionId : String) (config : SubagentConfig) (depth : ℚ) : Manager :=
  m.put subagentId
    { parentSessionId, status := .spawning, config, depth, startTime := m.now
      lastActivityAt := m.now }

/-- Set the child session after its creation. -/
def setChildSessionId (subagentId childSessionId : String) : Manager :=
  match m.get subagentId with
  | none => m
  | some x =>
    m.put subagentId { x with childSessionId := some childSessionId, lastActivityAt := m.now }

/-- A status transition; a terminal one stamps the end. -/
def applyStatus (x : TrackedSubagent) (status : Status) : TrackedSubagent :=
  { x with
    status
    lastActivityAt := m.now
    activeTurnId := if isTerminal status then none else x.activeTurnId
    endTime := if isTerminal status then some m.now else x.endTime }

/-- Open the admission of child messages after startup. -/
def markStarted : Manager :=
  match m.get subagentId with
  | none => m
  | some x => if x.status = .spawning then m.put subagentId (m.applyStatus x .running) else m

variable (childSessionId : String)

/-- The first subagent whose child session is the given one. -/
def getByChildSessionId : Option (String × TrackedSubagent) :=
  m.subagents.entries.find? fun e => e.2.childSessionId = some childSessionId

/-- The first active subagent whose child session is the given one. -/
def getActiveByChildSessionId : Option (String × TrackedSubagent) :=
  m.subagents.entries.find? fun e => !e.2.ended && e.2.childSessionId = some childSessionId

/-- A turn of a child session has started. -/
def recordTurnStarted (childSessionId turnId : String) : Manager :=
  match m.getByChildSessionId childSessionId with
  | none => m
  | some (id, x) =>
    if x.ended then m
    else m.put id { x with activeTurnId := some turnId, lastActivityAt := m.now }

/-- A turn of a child session has completed: it is the active turn no longer. -/
def recordTurnCompleted (childSessionId turnId : String) : Manager :=
  match m.getByChildSessionId childSessionId with
  | none => m
  | some (id, x) =>
    if x.ended then m
    else
      m.put id
        { x with
          activeTurnId := if x.activeTurnId = some turnId then none else x.activeTurnId
          lastActivityAt := m.now }

/-- Record the outcome of a tool call of a child session, once for each tool call. -/
def recordToolObservation (observation : ToolObservation) (toolCallId : Option String) : Manager :=
  match m.getByChildSessionId childSessionId with
  | none => m
  | some (id, x) =>
    if x.ended then m
    else if toolCallId.any fun call => decide (call ∈ x.toolCallIds) then m
    else
      m.put id
        { x with
          toolCallIds := x.toolCallIds ++ toolCallId.toList
          toolObservations := x.toolObservations ++ [observation]
          lastActivityAt := m.now }

/-- The active subagents of a parent session. -/
def countActiveBySession (parentSessionId : String) : ℕ :=
  m.subagents.entries.countP fun e => e.2.parentSessionId = parentSessionId && !e.2.ended

/-- The active subagents. -/
def countTotalActive : ℕ := m.subagents.entries.countP fun e => !e.2.ended

/-- How many progress updates are kept. -/
def progressBufferSize : ℕ := 50

/-- Add a progress update, dropping the oldest one of a full buffer. -/
def addProgress (subagentId update : String) : Manager :=
  match m.get subagentId with
  | none => m
  | some x =>
    let items := x.progressUpdates ++ [update]
    m.put subagentId
      { x with
        progressUpdates := if items.length > progressBufferSize then items.tail else items
        lastActivityAt := m.now }

/-- No such subagent. -/
def notFound : SubagentError :=
  ⟨some .SUBAGENT_NOT_FOUND, s!"Subagent {subagentId} not found"⟩

/-- The subagent has already ended. -/
def alreadyTerminal (status : Status) : SubagentError :=
  ⟨some .ALREADY_TERMINAL, s!"Subagent already in terminal state: {status.name}"⟩

variable (request : PendingRequest)

/-- Block the subagent on a request for input. -/
def setPendingRequest :
    Except SubagentError Manager :=
  match m.get subagentId with
  | none => .error (notFound subagentId)
  | some x =>
    if x.pendingRequest.isSome then
      .error ⟨some .REQUEST_PENDING, "Cannot call request_input while another request is pending"⟩
    else if x.completionCandidate.isSome then
      .error ⟨some .INVALID_STATE, "Cannot request input while completion is pending"⟩
    else
      .ok <| m.put subagentId
        { x with pendingRequest := some request, status := .waiting_input, lastActivityAt := m.now }

/-- Run the resolver of a request. -/
def invokeResolver (response : Option String) : Manager :=
  { m with inputCalls := m.inputCalls.modify request.resolver (InputCall.resolve response) }

/-- Answer the pending request; no answer when it timed out. -/
def resolvePendingRequest (response : Option String) : Manager :=
  match m.get subagentId with
  | none => m
  | some x =>
    match x.pendingRequest with
    | none => m
    | some request =>
      (m.invokeResolver request response).put subagentId
        { x with
          pendingRequest := none
          lastActivityAt := m.now
          status := if x.status = .waiting_input then .running else x.status }

/-- Tell everyone who awaits a subagent its snapshot. -/
def resolveAwaiters : Manager :=
  match m.get subagentId with
  | none => m
  | some x =>
    { m with
      awaitCalls := (m.awaiters subagentId).foldl
        (fun calls i => calls.modify i (AwaitCall.answer (.ended x.awaitResult))) m.awaitCalls
      awaiters := Function.update m.awaiters subagentId [] }

/-- Record a completion intent for a child turn. -/
def recordCompletionCandidate (subagentId turnId result : String) (summary : Option String)
    (source : CompletionMode) : Except SubagentError Manager :=
  match m.get subagentId with
  | none => .error (notFound subagentId)
  | some x =>
    match x.completionCandidate with
    | some candidate =>
      if candidate = ⟨turnId, result, summary, source⟩ then .ok m
      else .error ⟨some .INVALID_STATE, "Conflicting subagent completion candidate"⟩
    | none =>
      if isTerminal x.status then .error (alreadyTerminal x.status)
      else if x.pendingRequest.isSome then
        .error ⟨some .INVALID_STATE, "Cannot complete while an input request is pending"⟩
      else
        .ok <| m.put subagentId
          { x with
            completionCandidate := some ⟨turnId, result, summary, source⟩
            status := .completing
            lastActivityAt := m.now }

/-- Record the persisted completion of a child turn, once for each turn. -/
def recordCompletedTurn (subagentId turnId : String) (usage : Option UsageMetrics) (success : Bool)
    (error : Option String) : Manager :=
  match m.get subagentId with
  | none => m
  | some x =>
    if isTerminal x.status then m
    else if x.completedTurnUsage.has turnId then m.put subagentId { x with lastActivityAt := m.now }
    else
      m.put subagentId
        { x with
          completedTurnUsage := x.completedTurnUsage.set turnId usage
          completedTurnSuccess := x.completedTurnSuccess.set turnId ⟨success, error⟩
          lastActivityAt := m.now }

/-- The economics of a subagent: the sum over its measured turns. -/
def freezeUsage (x : TrackedSubagent) : UsageStats :=
  let usages := x.completedTurnUsage.values.filterMap id
  let measured {α : Type} (total : α) : Option α := if usages.isEmpty then none else some total
  { inputTokens := measured (usages.map (·.inputTokens)).sum
    cachedInputTokens := measured (usages.map (·.cachedInputTokens.getD 0)).sum
    outputTokens := measured (usages.map (·.outputTokens)).sum
    toolCallCount := x.toolCallIds.length }

/-- Mark a subagent failed. -/
def markFailed (subagentId error : String) : Manager :=
  match m.get subagentId with
  | none => m
  | some x =>
    if isTerminal x.status then m
    else (m.put subagentId { m.applyStatus x .failed with error := some error }).resolveAwaiters
      subagentId

/-- End a subagent once its completion intent and the completed turn are both there. -/
def finalizeCompletionIfReady : Manager :=
  match m.get subagentId with
  | none => m
  | some x =>
    if isTerminal x.status then m
    else
      match x.completionCandidate with
      | none => m
      | some candidate =>
        if !x.completedTurnUsage.has candidate.turnId then m
        else
          match x.completedTurnSuccess.get? candidate.turnId with
          | some ⟨false, error⟩ => m.markFailed subagentId (error.getD "child turn failed")
          | _ =>
            (m.put subagentId
              { m.applyStatus x .completed with
                result := some candidate.result
                summary := candidate.summary
                completionSource := some candidate.source
                usage := some (freezeUsage x) }).resolveAwaiters subagentId

/-- Mark a subagent cancelled, answering its pending request with nothing. -/
def markCancelled : Manager :=
  match m.get subagentId with
  | none => m
  | some x =>
    if isTerminal x.status then m
    else
      let x' := m.applyStatus x .cancelled
      match x.pendingRequest with
      | none => (m.put subagentId x').resolveAwaiters subagentId
      | some request =>
        ((m.invokeResolver request none).put subagentId
          { x' with pendingRequest := none }).resolveAwaiters subagentId

/-- Register an await call. -/
def addAwaiter (call : ℕ) : Manager :=
  { m with awaiters := Function.update m.awaiters subagentId (m.awaiters subagentId ++ [call]) }

/-- Drop an await call that has timed out. -/
def removeAwaiter (call : ℕ) : Manager :=
  { m with awaiters := Function.update m.awaiters subagentId ((m.awaiters subagentId).erase call) }

/-- An ended subagent is no longer retained. -/
def expired (stateRetentionMs : ℤ) (x : TrackedSubagent) : Bool :=
  isTerminal x.status && match x.endTime with
    | none => false
    | some ended => ended ≠ 0 && decide (stateRetentionMs < (m.now : ℤ) - ended)

/-- Forget the ended subagents that are no longer retained. -/
def cleanup (stateRetentionMs : ℤ) : Manager :=
  { m with
    subagents := (m.subagents.entries.filter fun e => m.expired stateRetentionMs e.2).foldl
      (fun acc e => acc.delete e.1) m.subagents }

/-- A started, active subagent that is not blocked on input has been idle too long. -/
def idleTooLong (inactivityTimeoutMs : ℕ) (x : TrackedSubagent) : Bool :=
  !isTerminal x.status && x.status ≠ .spawning && x.status ≠ .waiting_input && x.status ≠ .hung &&
    decide (inactivityTimeoutMs ≤ m.now - x.lastActivityAt)

/-- Mark hung the subagents that have been idle too long. -/
def sweepHung (inactivityTimeoutMs : ℕ) : Manager :=
  if inactivityTimeoutMs = 0 then m
  else
    { m with
      subagents := (m.subagents.entries.filter fun e => m.idleTooLong inactivityTimeoutMs e.2).foldl
        (fun acc e => acc.set e.1 { e.2 with status := .hung, lastActivityAt := m.now })
        m.subagents }

/-! ### Reading records after an operation -/

@[simp] lemma get_put (id id' : String) (x : TrackedSubagent) :
    (m.put id x).get id' = if id' = id then some x else m.get id' :=
  OrderedMap.get?_set m.subagents id id' x

lemma get_put_self (id : String) (x : TrackedSubagent) : (m.put id x).get id = some x := by
  rw [get_put, if_pos rfl]

variable {x : TrackedSubagent}
variable {id sid : String} {retention : ℤ}

/-- A subagent found by its child session is tracked. -/
lemma get_of_getByChildSessionId {m : Manager} (h : m.getByChildSessionId sid = some (id, x)) :
    m.get id = some x :=
  OrderedMap.mem_entries_iff.mp (List.mem_of_find?_eq_some h)

/-- An active subagent found by its child session is tracked, and active. -/
lemma get_of_getActiveByChildSessionId {m : Manager} (h : m.getActiveByChildSessionId sid = some (id, x)) :
    m.get id = some x ∧ x.ended = false := by
  refine ⟨OrderedMap.mem_entries_iff.mp (List.mem_of_find?_eq_some h), ?_⟩
  have hp := List.find?_some h
  simp only [Bool.and_eq_true, Bool.not_eq_true'] at hp
  exact hp.1

/-- What the sweep for hung subagents does to one record. -/
theorem get?_sweepHung (timeout : ℕ) (id : String) :
    (m.sweepHung timeout).get id = (m.get id).map fun x =>
      if timeout ≠ 0 ∧ m.idleTooLong timeout x = true
      then { x with status := .hung, lastActivityAt := m.now } else x := by
  rw [sweepHung]
  split_ifs with h
  · simp [h]
  · refine (OrderedMap.get?_foldl_set_filter m.subagents
      (fun e => m.idleTooLong timeout e.2)
      (fun x => { x with status := .hung, lastActivityAt := m.now }) id).trans ?_
    simp [h, get]

/-- What the cleanup does to one record. -/
theorem get?_cleanup (retention : ℤ) (id : String) :
    (m.cleanup retention).get id = (m.get id).filter fun x => !m.expired retention x :=
  OrderedMap.get?_foldl_delete_filter m.subagents (fun e => m.expired retention e.2) id

variable {m}

/-- The cleanup keeps active subagents. -/
lemma get_cleanup_of_active (hx : m.get id = some x) (hactive : x.ended = false) :
    (m.cleanup retention).get id = some x := by
  rw [get?_cleanup, hx, Option.filter_some, if_pos]
  rw [TrackedSubagent.ended] at hactive
  rw [expired, hactive]
  rfl

/-- What the cleanup keeps was tracked. -/
lemma get_of_cleanup (hx : (m.cleanup retention).get id = some x) : m.get id = some x := by
  rw [get?_cleanup] at hx
  exact (Option.filter_eq_some_iff.mp hx).1

/-! ### The ends of a subagent -/

/-- A failure ends an active subagent, or does nothing. -/
lemma markFailed_cases (m : Manager) (id error : String) :
    (m.markFailed id error = m ∧ ∀ x, m.get id = some x → x.ended = true) ∨
      ∃ x, m.get id = some x ∧ x.ended = false ∧ m.markFailed id error =
        (m.put id { m.applyStatus x .failed with error := some error }).resolveAwaiters id := by
  rw [markFailed]
  cases m.get id with
  | none => exact .inl ⟨rfl, fun x hx => by cases hx⟩
  | some x =>
    dsimp only
    split_ifs with he
    · exact .inl ⟨rfl, fun _ hx => Option.some.inj hx ▸ he⟩
    · exact .inr ⟨x, rfl, Bool.not_eq_true _ ▸ he, rfl⟩

/-- A completion intent with its turn ends an active subagent, by a failure or by its result. -/
lemma finalizeCompletionIfReady_cases (m : Manager) (id : String) :
    m.finalizeCompletionIfReady id = m ∨ ∃ x candidate, m.get id = some x ∧ x.ended = false ∧
      x.completionCandidate = some candidate ∧
        ((∃ error, m.finalizeCompletionIfReady id = m.markFailed id error) ∨
          m.finalizeCompletionIfReady id = (m.put id
            { m.applyStatus x .completed with
              result := some candidate.result
              summary := candidate.summary
              completionSource := some candidate.source
              usage := some (freezeUsage x) }).resolveAwaiters id) := by
  rw [finalizeCompletionIfReady]
  cases m.get id with
  | none => exact .inl rfl
  | some x =>
    dsimp only
    split_ifs with he
    · exact .inl rfl
    · cases hc : x.completionCandidate with
      | none => exact .inl rfl
      | some candidate =>
        dsimp only
        split_ifs
        · exact .inl rfl
        · refine .inr ⟨x, candidate, rfl, Bool.not_eq_true _ ▸ he, hc, ?_⟩
          split
          · exact .inl ⟨_, rfl⟩
          · exact .inr rfl

end Manager

end Makaio.Subagent
