import Makaio.Foundations.Text
import Makaio.Subagent.Manager

set_option autoImplicit false

/-!
# The subagent service

The calls and events a subagent service handles, as a machine.  Each action is what the service does
between two awaits; whatever it awaits (the parent session, the creation of the child session, the
attach of the agent, the publication of a question, a timer) comes back as an action of its own, at
any later time.  An action whose call is rejected with an error leaves the service as it was.

## Main definitions

* `handleAwaitRpc`, `handleSendRpc`, `handleRequestInputRpc`,
  `handleCompleteTaskRpc`, … — the handlers, on the manager.
* `Service` — the manager, the suspended spawns and the executions under way.
* `Event`, `Service.step` — the machine.
-/

namespace Makaio.Subagent

open Foundations

/-! ### Spawning -/

/-- A request to spawn a subagent. -/
structure SpawnRequest where
  parentSessionId : String
  config : SubagentConfig
  /-- The nesting depth. -/
  depth : ℚ

structure SessionAgent where
  agentId : String
  adapterName : Option String

/-- A parent session, as far as a spawn reads it. -/
structure ParentSession where
  agents : List SessionAgent
  leadAgentId : Option String

/-- The text without surrounding white space. -/
def trim (text : String) : String := String.ofList (Text.trim text.toList)

/-- The adapter of a subagent: the one asked for, or else that of the leading agent of the parent
session, or of its first agent. -/
def resolveInheritedAdapterName (session : Option ParentSession) (adapterName : Option String) :
    Option String :=
  match (adapterName.map trim).filter (· ≠ "") with
  | some explicit => some explicit
  | none =>
    session.bind fun session =>
      let inherited := (session.agents.find? fun agent =>
        some agent.agentId = session.leadAgentId).or session.agents.head?
      inherited.bind fun agent => agent.adapterName.map trim

variable (constraints : SubagentConstraints)

/-- The nesting depth a configuration may reach. -/
def effectiveMaxDepth (config : SubagentConfig) : ℚ :=
  min (config.maxDepth.getD constraints.maxDepth) constraints.maxDepth

/-- What a spawn checks before it resolves its adapter. -/
def checkSpawn (m : Manager) (request : SpawnRequest) : Except SubagentError Unit :=
  if effectiveMaxDepth constraints request.config < request.depth then
    .error ⟨some .DEPTH_EXCEEDED,
      s!"Maximum subagent depth ({effectiveMaxDepth constraints request.config}) exceeded"⟩
  else if constraints.maxConcurrentPerSession ≤ m.countActiveBySession request.parentSessionId then
    .error ⟨some .SESSION_LIMIT,
      s!"Maximum concurrent subagents per session ({constraints.maxConcurrentPerSession}) reached"⟩
  else if constraints.maxTotalActive ≤ m.countTotalActive then
    .error ⟨some .GLOBAL_LIMIT,
      s!"Maximum total active subagents ({constraints.maxTotalActive}) reached"⟩
  else .ok ()

/-- What a spawn checks once its adapter is resolved: the configuration it admits. -/
def admitConfig (config : SubagentConfig) (adapterName : Option String) :
    Except SubagentError SubagentConfig :=
  match adapterName.filter (· ≠ "") with
  | none =>
    .error ⟨some .ADAPTER_NOT_ALLOWED, "adapterName is required for subagent spawn when parent " ++
      "session has no inheritable adapter"⟩
  | some adapterName =>
    if constraints.allowedAdapters ≠ [] ∧ adapterName ∉ constraints.allowedAdapters then
      .error ⟨some .ADAPTER_NOT_ALLOWED, s!"Adapter '{adapterName}' is not allowed"⟩
    else
      match config.model.filter fun model => model ≠ "" ∧ constraints.allowedModels ≠ [] ∧
        model ∉ constraints.allowedModels with
      | some model => .error ⟨some .MODEL_NOT_ALLOWED, s!"Model '{model}' is not allowed"⟩
      | none => .ok { config with adapterName := some adapterName }

/-! ### Awaiting, sending, asking, completing -/

/-- The subagent is not tracked. -/
def subagentNotFound (subagentId : String) : SubagentError :=
  ⟨none, s!"Subagent not found: {subagentId}"⟩

/-- An await call: answered at once when the subagent is unknown, has ended or is blocked on input,
registered otherwise. -/
def handleAwaitRpc (m : Manager) (subagentId : String) (timeoutMs : Option ℤ) : Manager :=
  let answered (answer : AwaitAnswer) : Manager :=
    { m with awaitCalls := m.awaitCalls ++ [⟨subagentId, true, false, [answer]⟩] }
  match m.get subagentId with
  | none => answered (.rejected (subagentNotFound subagentId).message)
  | some x =>
    if isTerminal x.status then answered (.ended x.awaitResult)
    else
      match x.pendingRequest.filter fun _ => x.status = .waiting_input with
      | some request => answered (.waitingInput request.messageId request.question request.context)
      | none =>
        let timeout := timeoutMs.getD constraints.defaultAwaitTimeoutMs
        { m.addAwaiter subagentId m.awaitCalls.length with
          awaitCalls := m.awaitCalls ++ [⟨subagentId, false, decide (0 < timeout), []⟩] }

/-- The timer of an await call. -/
def awaitTimedOut (m : Manager) (call : ℕ) : Option Manager :=
  match m.awaitCalls[call]? with
  | none => none
  | some c =>
    if c.timer then
      some { m.removeAwaiter c.subagentId call with
        awaitCalls := m.awaitCalls.modify call (AwaitCall.answer .timeout) }
    else none

/-- A message to a subagent, which may answer its pending request. -/
def handleSendRpc (m : Manager) (subagentId content : String) (inResponseTo : Option String) :
    Except SubagentError Manager :=
  match m.get subagentId with
  | none => .error (subagentNotFound subagentId)
  | some x =>
    if x.status = .spawning then
      .error ⟨some .INVALID_STATE, "Cannot send to a subagent before startup completes"⟩
    else if x.completionCandidate.isSome then
      .error ⟨some .INVALID_STATE, "Cannot send to a subagent while completion is pending"⟩
    else if inResponseTo ≠ some "" ∧ inResponseTo.isSome ∧
        x.pendingRequest.map (·.messageId) = inResponseTo then
      .ok (m.resolvePendingRequest subagentId (some content))
    else .ok m

/-- A progress report of a child; the percentage is given by its print. -/
def handleReportProgressRpc (m : Manager) (subagentId update : String)
    (percentComplete : Option String) : Except SubagentError Manager :=
  match m.get subagentId with
  | none => .error (subagentNotFound subagentId)
  | some _ =>
    .ok (m.addProgress subagentId
      (percentComplete.elim update fun percent => s!"[{percent}%] {update}"))

/-- A request of a child for input. -/
def handleRequestInputRpc (m : Manager) (subagentId messageId question : String)
    (context : Option String) (timeoutMs : Option ℤ) : Except SubagentError Manager :=
  match m.get subagentId with
  | none => .error (subagentNotFound subagentId)
  | some x =>
    if x.completionCandidate.isSome then
      .error ⟨some .INVALID_STATE, "Cannot request input while completion is pending"⟩
    else
      match m.setPendingRequest subagentId ⟨messageId, question, context, m.inputCalls.length⟩ with
      | .error e => .error e
      | .ok m' =>
        let timeout := timeoutMs.getD constraints.defaultRequestTimeoutMs
        .ok { m' with inputCalls := m'.inputCalls ++ [{ subagentId, timer := decide (0 < timeout) }] }

/-- Change a call that requests input. -/
def modifyInputCall (m : Manager) (call : ℕ) (f : InputCall → InputCall) : Manager :=
  { m with inputCalls := m.inputCalls.modify call f }

/-- The timer of a request for input. -/
def inputTimedOut (m : Manager) (call : ℕ) : Option Manager :=
  match m.inputCalls[call]? with
  | none => none
  | some c =>
    if c.timer then
      some ((modifyInputCall m call fun c => { c with timer := false }).resolvePendingRequest
        c.subagentId none)
    else none

/-- The question of a request has been published, or could not be: then the pending request is
dropped and the caller gets the error. -/
def questionPublished (m : Manager) (call : ℕ) (error : Option String) : Option Manager :=
  match m.inputCalls[call]? with
  | none => none
  | some c =>
    if c.published.isNone ∧ c.returns = [] then
      match error with
      | none => some (modifyInputCall m call fun c => { c with published := some true })
      | some error =>
        some (modifyInputCall (m.resolvePendingRequest c.subagentId none) call fun c =>
          { c with published := some false, returns := c.returns ++ [.unpublished error] })
    else none

/-- The value a response has for the child. -/
def InputReturn.ofResponse : Option String → InputReturn
  | some response => .responded response
  | none => .timedOut

/-- The response of a request reaches its caller. -/
def inputReturned (m : Manager) (call : ℕ) : Option Manager :=
  match m.inputCalls[call]? with
  | none => none
  | some c =>
    if c.returns = [] then
      c.responses.head?.map fun response =>
        modifyInputCall m call fun c => { c with returns := c.returns ++ [.ofResponse response] }
    else none

/-- The completion call of a child. -/
def handleCompleteTaskRpc (m : Manager) (sessionId : String) (turnId : Option String)
    (result : String) (summary : Option String) : Except SubagentError Manager :=
  match m.getByChildSessionId sessionId with
  | none => .error ⟨some .SUBAGENT_NOT_FOUND, "No subagent owns this child session"⟩
  | some (id, x) =>
    if isTerminal x.status then .error (Manager.alreadyTerminal x.status)
    else
      match x.activeTurnId with
      | none => .error ⟨some .INVALID_STATE, "No active turn exists for this child session"⟩
      | some activeTurnId =>
        if turnId.any (· ≠ activeTurnId) then
          .error ⟨some .INVALID_STATE, "Completion turn does not match the active child turn"⟩
        else
          (m.recordCompletionCandidate id activeTurnId result summary .tool).map
            (·.finalizeCompletionIfReady id)

/-! ### Events of the child -/

/-- How an agent message ended. -/
inductive MessageOutcome
  | completed | superseded | merged | cancelled | error | rejected

/-- The end of an agent turn. -/
structure AgentComplete where
  /-- The child session. -/
  sessionId : Option String
  turnId : Option String
  /-- How it ended, completed when absent. -/
  outcome : Option MessageOutcome
  /-- The final message. -/
  message : Option String
  error : Option String

/-- The end of an agent turn is a completion intent of a subagent in turn mode. -/
def handleAgentComplete (m : Manager) (payload : AgentComplete) : Manager :=
  match payload.sessionId.filter (· ≠ ""), payload.turnId.filter (· ≠ "") with
  | some sessionId, some turnId =>
    match m.getActiveByChildSessionId sessionId with
    | none => m
    | some (id, x) =>
      if x.config.completion ≠ some .turn then m
      else if x.status = .waiting_input then m
      else
        let record (result : String) : Manager :=
          match m.recordCompletionCandidate id turnId result none .turn with
          | .ok m' => m'.finalizeCompletionIfReady id
          | .error _ => m
        match payload.outcome.getD .completed with
        | .completed => record (payload.message.getD "")
        | .error => record (payload.error.getD "child turn failed")
        | _ => m
  | _, _ => m

/-- The persisted end of a turn of a session. -/
structure TurnCompleted where
  sessionId : String
  turnId : String
  /-- Its usage, when measured. -/
  usage : Option UsageMetrics
  /-- Whether it succeeded. -/
  success : Bool
  /-- Why it failed. -/
  error : Option String

/-- A completed child turn is recorded, and ends the subagent if a completion intent waits for
it. -/
def handleSessionTurnCompleted (m : Manager) (payload : TurnCompleted) : Manager :=
  match m.getActiveByChildSessionId payload.sessionId with
  | none => m
  | some (id, x) =>
    let recorded := (m.recordTurnCompleted payload.sessionId payload.turnId).recordCompletedTurn id
      payload.turnId payload.usage payload.success payload.error
    if x.completionCandidate.map (·.turnId) = some payload.turnId then
      recorded.finalizeCompletionIfReady id
    else recorded

/-- The adapter of a child session is gone: its subagent has failed. -/
def handleAdapterSessionClosed (m : Manager) (sessionId : String) : Manager :=
  match m.getActiveByChildSessionId sessionId with
  | none => m
  | some (id, _) => m.markFailed id "adapter-session-closed"

/-! ### What the handlers do -/

variable {m m' : Manager}

/-- A request for input is pending afterwards. -/
lemma handleRequestInputRpc_ok {constraints : SubagentConstraints} {id messageId question : String}
    {context : Option String} {timeoutMs : Option ℤ}
    (h : handleRequestInputRpc constraints m id messageId question context timeoutMs = .ok m') :
    ∃ x timer, m.get id = some x ∧ x.completionCandidate = none ∧ x.pendingRequest = none ∧
      m' = { m.put id { x with
          pendingRequest := some ⟨messageId, question, context, m.inputCalls.length⟩
          status := .waiting_input, lastActivityAt := m.now } with
        inputCalls := m.inputCalls ++ [{ subagentId := id, timer }] } := by
  rw [handleRequestInputRpc] at h
  cases hget : m.get id with
  | none => rw [hget] at h; cases h
  | some x =>
    rw [hget] at h
    dsimp only at h
    split_ifs at h with hc
    rw [Manager.setPendingRequest, hget] at h
    dsimp only at h
    by_cases hp : x.pendingRequest.isSome = true
    · rw [if_pos hp] at h
      cases h
    · rw [if_neg hp, if_neg hc] at h
      cases h
      exact ⟨x, _, rfl, by simpa using hc, by simpa using hp, rfl⟩

/-- A completion call records an intent. -/
lemma handleCompleteTaskRpc_ok {sessionId result : String} {turnId summary : Option String}
    (h : handleCompleteTaskRpc m sessionId turnId result summary = .ok m') :
    ∃ id activeTurnId m₁, m.recordCompletionCandidate id activeTurnId result summary .tool = .ok m₁ ∧
      m' = m₁.finalizeCompletionIfReady id := by
  rw [handleCompleteTaskRpc] at h
  split at h
  · cases h
  · rename_i id x hfind
    split_ifs at h
    split at h
    · cases h
    · rename_i activeTurnId hactive
      split_ifs at h
      cases hrec : m.recordCompletionCandidate id activeTurnId result summary .tool with
      | error e => rw [hrec] at h; cases h
      | ok m₁ =>
        rw [hrec] at h
        cases h
        exact ⟨id, activeTurnId, m₁, hrec, rfl⟩

/-- The end of an agent turn records an intent of an active subagent, or does nothing. -/
lemma handleAgentComplete_cases {payload : AgentComplete} (h : handleAgentComplete m payload = m') :
    m' = m ∨ ∃ id x turnId result m₁, m.get id = some x ∧ x.ended = false ∧
      m.recordCompletionCandidate id turnId result none .turn = .ok m₁ ∧
        m' = m₁.finalizeCompletionIfReady id := by
  rw [handleAgentComplete] at h
  split at h
  · rename_i sessionId turnId _ _
    split at h
    · exact .inl h.symm
    · rename_i id x hfind
      obtain ⟨hget, hactive⟩ := Manager.get_of_getActiveByChildSessionId hfind
      dsimp only at h
      split_ifs at h
      · exact .inl h.symm
      · exact .inl h.symm
      · split at h
        iterate 2
          · split at h
            · rename_i m₁ hrec
              exact .inr ⟨id, x, turnId, _, m₁, hget, hactive, hrec, h.symm⟩
            · exact .inl h.symm
        · exact .inl h.symm
  · exact .inl h.symm

/-! ### The machine -/

/-- Where an execution is: resolving its target and creating the child session, past that, attaching
the agent, or past a failure. -/
inductive Phase
  | creating | created | attaching | failing

/-- A spawn that waits for its adapter; `overtaken` tells whether a subagent was tracked since its
checks. -/
structure SuspendedSpawn where
  request : SpawnRequest
  /-- Whether a subagent was tracked meanwhile. -/
  overtaken : Bool := false

/-- The service.  `admitted`, `starts` and `seen` are its history: the subagents admitted by spawn,
the executions started, and the identifiers in use so far. -/
structure Service where
  manager : Manager
  /-- The spawns that wait for their adapter. -/
  spawns : List SuspendedSpawn := []
  /-- The executions under way. -/
  spawningExecutions : OrderedMap String Phase := .empty
  /-- The subagents admitted by spawn. -/
  admitted : List String := []
  /-- The executions started. -/
  starts : List String := []
  /-- The identifiers in use so far. -/
  seen : List String := []

/-- The service at its construction. -/
def Service.initial (now : ℕ) : Service :=
  { manager := ⟨now, .empty, fun _ => [], [], []⟩ }

/-- A spawned subagent, as its event describes it. -/
structure SpawnedPayload where
  subagentId : String
  parentSessionId : String
  task : String
  config : SubagentConfig
  /-- The nesting depth. -/
  depth : ℚ

/-- The actions of the service and of what it waits for. -/
inductive Event
  /-- Time passes. -/
  | tick (ms : ℕ)
  /-- A spawn call, up to the resolution of its adapter. -/
  | spawn (request : SpawnRequest)
  /-- The adapter of a suspended spawn is resolved; `subagentId` is the fresh identifier. -/
  | spawnResolved (k : ℕ) (session : Option ParentSession) (subagentId : String)
  /-- The parent session of a suspended spawn cannot be read. -/
  | spawnRejected (k : ℕ)
  /-- A spawned event is delivered. -/
  | spawned (payload : SpawnedPayload)
  /-- An execute call. -/
  | execute (payload : SpawnedPayload)
  /-- The target of an execution or its child session is not to be had. -/
  | startupFailed (subagentId error : String)
  | sessionCreated (subagentId childSessionId : String)
  /-- The execution goes on to attach the agent. -/
  | attachStarted (subagentId : String)
  /-- The agent is attached. -/
  | attached (subagentId : String)
  /-- The agent cannot be attached. -/
  | attachFailed (subagentId error : String)
  /-- A failed execution has cleaned up. -/
  | executionEnded (subagentId : String)
  /-- An await call. -/
  | await (subagentId : String) (timeoutMs : Option ℤ)
  | awaitTimeout (call : ℕ)
  /-- A message to a subagent. -/
  | send (subagentId content : String) (inResponseTo : Option String)
  /-- A kill call. -/
  | kill (subagentId : String)
  | reportProgress (subagentId update : String) (percentComplete : Option String)
  /-- A request for input; `messageId` is the fresh identifier. -/
  | requestInput (subagentId messageId question : String) (context : Option String)
      (timeoutMs : Option ℤ)
  /-- The timer of a request for input. -/
  | inputTimeout (call : ℕ)
  /-- The question of a request was published, or could not be. -/
  | published (call : ℕ) (error : Option String)
  /-- The response of a request reaches its caller. -/
  | inputReturn (call : ℕ)
  /-- The completion call of a child. -/
  | completeTask (sessionId : String) (turnId : Option String) (result : String)
      (summary : Option String)
  /-- The end of an agent turn. -/
  | agentComplete (payload : AgentComplete)
  | turnStarted (sessionId turnId : String)
  /-- A turn of a session has ended. -/
  | turnCompleted (payload : TurnCompleted)
  /-- A tool call of a session has ended. -/
  | toolCompleted (sessionId : String) (observation : ToolObservation) (toolCallId : Option String)
  /-- The adapter of a session is gone. -/
  | adapterSessionClosed (sessionId : String)
  /-- The periodic sweep. -/
  | sweep

namespace Service

variable (s : Service)

/-- The service with another manager. -/
def withManager (m : Manager) : Service := { s with manager := m }

/-- A call either changes the manager or is rejected. -/
def call (result : Except SubagentError Manager) : Service :=
  match result with
  | .ok m => s.withManager m
  | .error _ => s

variable (subagentId : String)

/-- Track a subagent: every suspended spawn has been overtaken. -/
def track (parentSessionId : String) (config : SubagentConfig) (depth : ℚ) : Service :=
  { s with
    manager := s.manager.track subagentId parentSessionId config depth
    spawns := s.spawns.map fun w => { w with overtaken := true }
    seen := s.seen ++ [subagentId] }

/-- Move an execution to another phase. -/
def setPhase (phase : Phase) : Service :=
  { s with spawningExecutions := s.spawningExecutions.set subagentId phase }

/-- Startup must stop: the subagent is missing or has ended. -/
def shouldAbortSpawn : Bool :=
  (s.manager.get subagentId).all fun x => isTerminal x.status

/-- Fail an execution; its cleanup is awaited. -/
def failSpawn (error : String) : Service :=
  (s.withManager (s.manager.markFailed subagentId error)).setPhase subagentId .failing

/-- Execute a spawned event, up to the resolution of its target. -/
def executeSpawned (payload : SpawnedPayload) : Service :=
  let config := { payload.config with task := payload.task }
  match (config.adapterName.map trim).filter (· ≠ "") with
  | none => s.failSpawn payload.subagentId "Subagent spawn requires a non-empty adapterName"
  | some _ =>
    let tracked :=
      if (s.manager.get payload.subagentId).isSome then s
      else s.track payload.subagentId payload.parentSessionId config payload.depth
    tracked.setPhase payload.subagentId .creating

/-- Handle a spawned event: nothing if the subagent is past its startup or being started. -/
def handleSpawned (payload : SpawnedPayload) : Service :=
  if (s.manager.get payload.subagentId).any fun x => x.status ≠ .spawning then s
  else if s.spawningExecutions.has payload.subagentId then s
  else
    ({ s with
      starts := s.starts ++ [payload.subagentId]
      seen := s.seen ++ [payload.subagentId] }).executeSpawned payload

/-- An execution ends. -/
def endExecution : Service :=
  { s with spawningExecutions := s.spawningExecutions.delete subagentId }

/-- One action of the service, or of what it waits for.  A spawn takes an identifier that was never
used, an execute call one that is not tracked. -/
def step (s : Service) : Event → Option Service
  | .tick ms => some (s.withManager { s.manager with now := s.manager.now + ms })
  | .spawn request =>
    match checkSpawn constraints s.manager request with
    | .error _ => some s
    | .ok _ => some { s with spawns := s.spawns ++ [{ request }] }
  | .spawnResolved k session subagentId =>
    match s.spawns[k]? with
    | none => none
    | some w =>
      let resumed := { s with spawns := s.spawns.eraseIdx k }
      match admitConfig constraints w.request.config
          (resolveInheritedAdapterName session w.request.config.adapterName) with
      | .error _ => some resumed
      | .ok config =>
        if subagentId ∈ s.seen ∨ (s.manager.get subagentId).isSome then none
        else
          let tracked := resumed.track subagentId w.request.parentSessionId config w.request.depth
          some { tracked with admitted := tracked.admitted ++ [subagentId] }
  | .spawnRejected k =>
    if k < s.spawns.length then some { s with spawns := s.spawns.eraseIdx k } else none
  | .spawned payload => some (s.handleSpawned payload)
  | .execute payload =>
    if (s.manager.get payload.subagentId).isSome then none
    else
      some ((s.track payload.subagentId payload.parentSessionId
        { payload.config with task := payload.task } payload.depth).handleSpawned payload)
  | .startupFailed subagentId error =>
    match s.spawningExecutions.get? subagentId with
    | some .creating => some (s.failSpawn subagentId error)
    | _ => none
  | .sessionCreated subagentId childSessionId =>
    match s.spawningExecutions.get? subagentId with
    | some .creating =>
      some ((s.withManager (s.manager.setChildSessionId subagentId childSessionId)).setPhase
        subagentId .created)
    | _ => none
  | .attachStarted subagentId =>
    match s.spawningExecutions.get? subagentId with
    | some .created =>
      if s.shouldAbortSpawn subagentId then some (s.endExecution subagentId)
      else some (s.setPhase subagentId .attaching)
    | _ => none
  | .attached subagentId =>
    match s.spawningExecutions.get? subagentId with
    | some .attaching =>
      if s.shouldAbortSpawn subagentId then some (s.endExecution subagentId)
      else some ((s.withManager (s.manager.markStarted subagentId)).endExecution subagentId)
    | _ => none
  | .attachFailed subagentId error =>
    match s.spawningExecutions.get? subagentId with
    | some .attaching =>
      if s.shouldAbortSpawn subagentId then some (s.endExecution subagentId)
      else some (s.failSpawn subagentId error)
    | _ => none
  | .executionEnded subagentId =>
    match s.spawningExecutions.get? subagentId with
    | some .failing => some (s.endExecution subagentId)
    | _ => none
  | .await subagentId timeoutMs =>
    some (s.withManager (handleAwaitRpc constraints s.manager subagentId timeoutMs))
  | .awaitTimeout call => (awaitTimedOut s.manager call).map s.withManager
  | .send subagentId content inResponseTo =>
    some (s.call (handleSendRpc s.manager subagentId content inResponseTo))
  | .kill subagentId => some (s.withManager (s.manager.markCancelled subagentId))
  | .reportProgress subagentId update percentComplete =>
    some (s.call (handleReportProgressRpc s.manager subagentId update percentComplete))
  | .requestInput subagentId messageId question context timeoutMs =>
    some (s.call (handleRequestInputRpc constraints s.manager subagentId messageId question context
      timeoutMs))
  | .inputTimeout call => (inputTimedOut s.manager call).map s.withManager
  | .published call error => (questionPublished s.manager call error).map s.withManager
  | .inputReturn call => (inputReturned s.manager call).map s.withManager
  | .completeTask sessionId turnId result summary =>
    some (s.call (handleCompleteTaskRpc s.manager sessionId turnId result summary))
  | .agentComplete payload => some (s.withManager (handleAgentComplete s.manager payload))
  | .turnStarted sessionId turnId =>
    some (s.withManager (s.manager.recordTurnStarted sessionId turnId))
  | .turnCompleted payload => some (s.withManager (handleSessionTurnCompleted s.manager payload))
  | .toolCompleted sessionId observation toolCallId =>
    some (s.withManager (s.manager.recordToolObservation sessionId observation toolCallId))
  | .adapterSessionClosed sessionId =>
    some (s.withManager (handleAdapterSessionClosed s.manager sessionId))
  | .sweep =>
    some (s.withManager ((s.manager.sweepHung constraints.inactivityTimeoutMs).cleanup
      constraints.stateRetentionMs))

end Service

end Makaio.Subagent
