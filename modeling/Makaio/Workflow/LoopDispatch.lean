import Makaio.Workflow.Frames

set_option autoImplicit false

/-!
# The dispatches of a loop

`executeLoopNode` (`loop-node.ts`, `loop-escalation.ts`) over all dispatches of one execution, with what storage keeps
of the loop: the frames of its rounds and its escalation gate.  A dispatch can be interrupted at any `await`, and the
next one begins with the frames that storage has by then.  An exception of storage, or of the template of the prompt, ends a dispatch where an
interruption would.

The body is a parameter: it ends with any outcome, any last output and any expression context for the gate.  So is the
gate handler, which may answer differently each time.

## Main definitions

* `WorkflowLoopNode`, `EscalationGate`.
* `LoopRun` — storage, the dispatch that is going on, and the log of what the dispatches did.
* `LoopRun.roundHead`, `LoopRun.startRound`, `LoopRun.afterRound`,
  `LoopRun.suspend` — what a dispatch does between two `await`s.
* `LoopRun.advance`, `LoopRun.run` — inputs of every kind, in any order.
-/

namespace Makaio.Workflow

/-! ### The node and its gate -/

/-- `WorkflowGateInstance['autoAction']` -/
inductive AutoAction
  | approve | reject

/-- `WorkflowLoopNode.gate.escalation` -/
structure LoopEscalation where
  resumeSchema : Option JsonValue
  autoAction : Option AutoAction
  timeoutMs : Option ℕ

/-- `WorkflowLoopNode`, without its body.  The schema of the definition admits positive bounds only. -/
structure WorkflowLoopNode where
  id : String
  maxRounds : ℕ
  maxRounds_pos : 0 < maxRounds
  /-- `gate.handler`, `gate.input` and `gate.config`. -/
  handler : String
  input : Option String
  config : Option JsonValue
  escalation : Option LoopEscalation

/-- `WorkflowGateInstance` of an escalation, with what its timeout needs. -/
structure EscalationGate extends GateInstance where
  autoAction : AutoAction
  timeoutMs : Option ℕ
  createdAt : ℕ

/-- The gate waits, and its timeout has elapsed at `now`. -/
def EscalationGate.expired (gate : EscalationGate) (now : ℕ) : Bool :=
  gate.status = .waiting ∧ ∃ timeoutMs ∈ gate.timeoutMs, gate.createdAt + timeoutMs ≤ now

/-- `AUTO_APPROVE_TIMEOUT_RESUME_DATA` -/
def autoApproveTimeoutResumeData : JsonValue :=
  .object [("action", .string "approve"), ("source", .string "timeout")]

/-! ### Storage and the dispatch -/

/-- What a `RuntimeContext` brings for the loop. -/
structure LoopContext where
  handlers : Handlers
  suspensionStrategy : SuspensionStrategy
  /-- The container frame of the loop was created by this dispatch, and is in its registry. -/
  ownsContainer : Bool

/-- Where a dispatch is. -/
inductive LoopPhase
  /-- The head of the `while` loop. -/
  | head
  /-- The round has its frame; a frame of the resume index has been started before. -/
  | starting (frameId : FrameId) (resumed : Bool)
  /-- The body sequence runs. -/
  | body (frameId : FrameId)
  /-- The frame of the round is completed, the gate comes next. -/
  | gate (gateExpressionCtx : ExpressionContext)
  /-- The escalation gate is persisted, the container frame comes next. -/
  | suspending (gate : EscalationGate) (gateOutcome : LoopGateOutcome)
  /-- `waitForInProcessResponse` -/
  | waiting (gate : EscalationGate) (validator : JsonValue → Option String) (gateOutcome : LoopGateOutcome)

/-- A call of `executeLoopNode` that has not ended. -/
structure LoopDispatch where
  ctx : LoopContext
  gateHandler : LoopGateHandler
  /-- The frames of `ctx.resumeFrames`. -/
  resumeFrames : List FrameId
  /-- `ctx.signal.aborted` -/
  aborted : Bool
  round : ℕ
  bodyOutputs : List JsonValue
  phase : LoopPhase

/-- What dispatches do. -/
inductive LoopEvent
  | dispatched
  /-- The round is replayed from its completed frame. -/
  | replayed (round : ℕ)
  /-- The body sequence is run for the round. -/
  | ran (round : ℕ)
  | decided (round : ℕ) (gateOutcome : LoopGateOutcome)
  /-- `executeLoopNode` returns, or throws. -/
  | returned (outcome : Except String NodeOutcome)

/-- The loop over all its dispatches. -/
structure LoopRun where
  /-- The frames of the rounds in storage, oldest first. -/
  frames : List Frame
  nextSerial : ℕ
  gate : Option EscalationGate
  /-- Calls of the gate handler made so far. -/
  calls : ℕ
  dispatch : Option LoopDispatch
  /-- Newest first. -/
  log : List LoopEvent

/-! ### Actions -/

namespace LoopRun

/-- Before the first dispatch. -/
def empty : LoopRun := ⟨[], 0, none, 0, none, []⟩

variable (s : LoopRun)

/-- Changes frame `frameId`, if there is one. -/
def modifyFrame (frameId : FrameId) (f : Frame → Frame) : LoopRun :=
  { s with frames := s.frames.map fun frame => if frame.frameId = frameId then f frame else frame }

/-- `executeLoopNode` ends. -/
def finish (outcome : Except String NodeOutcome) : LoopRun :=
  { s with dispatch := none, log := .returned outcome :: s.log }

/-- The dispatch goes on in `phase`. -/
def goto (d : LoopDispatch) (phase : LoopPhase) : LoopRun :=
  { s with dispatch := some { d with phase } }

/-- Something that dispatches do. -/
def record (event : LoopEvent) : LoopRun := { s with log := event :: s.log }

variable (node : WorkflowLoopNode) (parentFrameId : FrameId)

/-- `findReusableResumeFrame`, for a round of the loop. -/
def findReusableResumeFrame (s : LoopRun) (resumeFrames : List FrameId) (round : ℕ) : Option Frame :=
  (s.frames.filter fun frame => frame.frameId ∈ resumeFrames).find?
    (FrameMatch.accepts ⟨⟨node.id, none, some round⟩, parentFrameId, iterationResumeStatuses⟩)

/-- `createFrame`, for a round of the loop. -/
def createFrame (s : LoopRun) (round : ℕ) : FrameId × LoopRun :=
  let key : FrameKey := ⟨node.id, none, some round⟩
  let frameId := parentFrameId ++ [⟨s.nextSerial, key⟩]
  let frame : Frame :=
    { frameId, nodeId := node.id, nodeType := .loop, parentFrameId, status := .pending, iteration := some round,
      branchKey := none, output := none, error := none }
  (frameId, { s with frames := s.frames ++ [frame], nextSerial := s.nextSerial + 1 })

/-! ### Escalation -/

/-- `resolveExpiredEscalationGate`: the outcome, and the gate as it is persisted. -/
def resolveExpiredEscalationGate (handlers : Handlers) (gate : EscalationGate) (gateOutcome : LoopGateOutcome)
    (rounds : ℕ) (bodyOutputs : List JsonValue) : NodeOutcome × EscalationGate :=
  let id := node.id
  let timedOut := { gate with status := .timedOut }
  match gate.autoAction with
  | .approve =>
    match validateGateResumeDataForSchema handlers id gate.schema autoApproveTimeoutResumeData with
    | some error => (.failed
        s!"Loop '{id}' escalation gate auto-approve timeout resume data does not match resumeSchema: {error}",
        timedOut)
    | none => (.completed (some (buildLoopOutput "escalate" rounds gateOutcome bodyOutputs
        (some autoApproveTimeoutResumeData))),
        { gate with status := .resumed, resumeData := some autoApproveTimeoutResumeData })
  | .reject =>
    let timeoutMs := (gate.timeoutMs.map toString).getD "null"
    (.failed s!"Loop '{id}' escalation gate timed out after {timeoutMs}ms and auto-rejected", timedOut)

/-- `resolvePersistedEscalationGate`, of a gate that exists. -/
def resolvePersistedEscalationGate (handlers : Handlers) (now : ℕ) (gate : EscalationGate)
    (gateOutcome : LoopGateOutcome) (rounds : ℕ) (bodyOutputs : List JsonValue) : NodeOutcome × EscalationGate :=
  if gate.expired now then resolveExpiredEscalationGate node handlers gate gateOutcome rounds bodyOutputs
  else (resolveEscalationInstance handlers node.id parentFrameId gateOutcome rounds bodyOutputs
    gate.toGateInstance, gate)

/-- The first half of `openEscalationGate`: the gate is persisted. -/
def openEscalationGate (s : LoopRun) (d : LoopDispatch) (now : ℕ) (escalation : LoopEscalation)
    (gateOutcome : LoopGateOutcome) : LoopRun :=
  let gate : EscalationGate :=
    { waitingGate node.id parentFrameId escalation.resumeSchema with
      autoAction := escalation.autoAction.getD .reject
      timeoutMs := escalation.timeoutMs
      createdAt := now }
  { s with gate := some gate }.goto d (.suspending gate gateOutcome)

/-- The second half: the container frame is set waiting, which throws for a frame of an earlier dispatch.  The
dispatch ends, or it waits in process. -/
def suspend (s : LoopRun) (d : LoopDispatch) (gate : EscalationGate) (gateOutcome : LoopGateOutcome) : LoopRun :=
  if !d.ctx.ownsContainer then s.finish (.error "Frame not found")
  else if d.ctx.suspensionStrategy ≠ .waitInProcess then s.finish (.ok (.paused node.id parentFrameId))
  else
    match compileGateResumeValidator d.ctx.handlers node.id (node.escalation.bind LoopEscalation.resumeSchema) with
    | .error message => s.finish (.ok (.failed message))
    | .ok validator => s.goto d (.waiting gate validator gateOutcome)

/-! ### Rounds -/

/-- A round that an earlier dispatch has completed: its output is taken over, its gate is not evaluated.  After the
last such round the persisted escalation gate may end the loop. -/
def replayRound (s : LoopRun) (d : LoopDispatch) (now : ℕ) (frame : Frame) : LoopRun :=
  let s := s.record (.replayed d.round)
  let bodyOutputs := d.bodyOutputs ++ [frame.output.getD .null]
  let d := { d with round := d.round + 1, bodyOutputs }
  -- `hasReusableRoundFrame`
  if (s.findReusableResumeFrame node parentFrameId d.resumeFrames d.round).isSome then s.goto d .head
  else if node.escalation.isSome ∧ d.ctx.suspensionStrategy ≠ .waitInProcess then
    match s.gate with
    | none => s.goto d .head
    | some gate =>
      let (outcome, gate) := resolvePersistedEscalationGate node parentFrameId d.ctx.handlers now gate
        (.escalate "resumed_from_gate") d.round bodyOutputs
      { s with gate := some gate }.finish (.ok outcome)
  else s.goto d .head

/-- The head of the loop, and `executeRoundBody` until the round has its frame. -/
def roundHead (s : LoopRun) (d : LoopDispatch) (now : ℕ) : LoopRun :=
  if d.aborted then s.finish (.ok .cancelled)
  else
    match s.findReusableResumeFrame node parentFrameId d.resumeFrames d.round with
    | some frame =>
      if frame.status = .completed then s.replayRound node parentFrameId d now frame
      else s.goto d (.starting frame.frameId true)
    | none =>
      let (frameId, s) := s.createFrame node parentFrameId d.round
      s.goto d (.starting frameId false)

/-- `executeRoundBody` until the body sequence runs. -/
def startRound (s : LoopRun) (d : LoopDispatch) (frameId : FrameId) (resumed : Bool) : LoopRun :=
  if d.aborted then
    (s.modifyFrame frameId fun frame => { frame with status := .cancelled }).finish (.ok .cancelled)
  else
    let s := if resumed then s else s.modifyFrame frameId fun frame => { frame with status := .running }
    (s.record (.ran d.round)).goto d (.body frameId)

/-- `runBodySequence` after the body, and the end of `executeRoundBody`. -/
def endRound (s : LoopRun) (d : LoopDispatch) (frameId : FrameId) (lastOutput : Option JsonValue)
    (gateExpressionCtx : ExpressionContext) : NodeOutcome → LoopRun
  | .failed error =>
    (s.modifyFrame frameId fun frame => { frame with status := .failed, error := some error }).finish
      (.ok (.failed error))
  | .cancelled =>
    (s.modifyFrame frameId fun frame => { frame with status := .cancelled }).finish (.ok .cancelled)
  | .paused gateId gateFrameId => s.finish (.ok (.paused gateId gateFrameId))
  | .skipped | .completed _ =>
    let output := lastOutput.getD .null
    (s.modifyFrame frameId fun frame => { frame with status := .completed, output := some output }).goto
      { d with bodyOutputs := d.bodyOutputs ++ [output] } (.gate gateExpressionCtx)

/-- `evaluateGate`: a failure of its own, the outcome of the handler, or what the handler throws; and how often the
handler is called. -/
def evaluateGate (d : LoopDispatch) (calls : ℕ) (expressionCtx : ExpressionContext) :
    Except String (NodeOutcome ⊕ LoopGateOutcome) × ℕ :=
  let id := node.id
  let gateInput : Except String (Option JsonValue) := match node.input with
    | none => .ok (some .null)
    | some input => d.ctx.handlers.evaluateSync input expressionCtx
  match gateInput with
  | .error message =>
    (.ok (.inl (.failed s!"Loop node '{id}': gate input expression evaluation failed: {message}")), 0)
  | .ok gateInput =>
    match d.gateHandler calls gateInput (node.config.getD .null) ⟨id, d.round + 1, node.maxRounds⟩ with
    | .error message => (.error message, 1)
    | .ok .loop =>
      if node.maxRounds ≤ d.round + 1 then (.ok (.inr (.escalate "max_rounds_reached")), 1)
      else (.ok (.inr .loop), 1)
    | .ok gateOutcome => (.ok (.inr gateOutcome), 1)

/-- What the loop does with the gate decision of a round. -/
def settleRound (s : LoopRun) (d : LoopDispatch) (now : ℕ) (gateOutcome : LoopGateOutcome) : LoopRun :=
  let s := s.record (.decided d.round gateOutcome)
  match gateOutcome with
  | .pass =>
    s.finish (.ok (.completed (some (buildLoopOutput "pass" (d.round + 1) gateOutcome d.bodyOutputs none))))
  | .escalate _ =>
    match node.escalation with
    | some escalation => s.openEscalationGate node parentFrameId d now escalation gateOutcome
    | none =>
      s.finish (.ok (.completed (some (buildLoopOutput "escalate" (d.round + 1) gateOutcome d.bodyOutputs none))))
  | .loop => s.goto { d with round := d.round + 1 } .head

/-- The gate after a round that was run. -/
def afterRound (s : LoopRun) (d : LoopDispatch) (now : ℕ) (gateExpressionCtx : ExpressionContext) : LoopRun :=
  let (gateResult, calls) := evaluateGate node d s.calls gateExpressionCtx
  let s := { s with calls := s.calls + calls }
  match gateResult with
  | .error message => s.finish (.error message)
  | .ok (.inl outcome) => s.finish (.ok outcome)
  | .ok (.inr gateOutcome) => s.settleRound node parentFrameId d now gateOutcome

/-! ### Inputs -/

/-- The result of `raceDeferredResponse`. -/
inductive WaitResult
  | timedOut
  | resolved (response : GateResponse)
  | cancelled

/-- `waitForInProcessResponse` after the race.  The responder refuses data that do not fit the schema, and only an
aborted signal cancels the wait. -/
def endWait (s : LoopRun) (d : LoopDispatch) (gate : EscalationGate) (validator : JsonValue → Option String)
    (gateOutcome : LoopGateOutcome) : WaitResult → LoopRun
  | .timedOut =>
    if gate.timeoutMs.isNone then s
    else
      let (outcome, gate) :=
        resolveExpiredEscalationGate node d.ctx.handlers gate gateOutcome (d.round + 1) d.bodyOutputs
      { s with gate := some gate }.finish (.ok outcome)
  | .resolved response =>
    if (validator response.resumeData).isSome then s
    else
      let gate := { gate with toGateInstance := gate.toGateInstance.respond response }
      { s with gate := some gate }.finish (.ok (.completed (some
        (buildLoopOutput "escalate" (d.round + 1) gateOutcome d.bodyOutputs (some response.resumeData)))))
  | .cancelled =>
    if !d.aborted then s
    else { s with gate := some { gate with status := .cancelled } }.finish (.ok .cancelled)

/-- What happens to a loop. -/
inductive Input
  /-- A dispatch calls `executeLoopNode`; one that was going on is interrupted. -/
  | dispatch (ctx : LoopContext) (aborted : Bool)
  /-- The dispatch acts until its next `await`. -/
  | turn (now : ℕ)
  /-- The body sequence ends.  An exception is a failure with its message. -/
  | bodyEnded (outcome : NodeOutcome) (lastOutput : Option JsonValue) (gateExpressionCtx : ExpressionContext)
  | waitEnded (result : WaitResult)
  | abort
  /-- A gate that a dispatch has left is settled from outside. -/
  | gateUpdated (gate : EscalationGate)

/-- The beginning of `executeLoopNode`. -/
def executeLoopNode (s : LoopRun) (ctx : LoopContext) (aborted : Bool) : LoopRun :=
  let s := { s with dispatch := none, log := .dispatched :: s.log }
  if aborted then s.finish (.ok .cancelled)
  else
    match ctx.handlers.runtimeLoopGates node.handler with
    | none =>
      let id := node.id
      let handler := node.handler
      s.finish (.ok (.failed s!"Loop node '{id}': no gate handler registered for '{handler}'"))
    | some gateHandler =>
      { s with dispatch := some ⟨ctx, gateHandler, s.frames.map Frame.frameId, false, 0, [], .head⟩ }

/-- What the dispatch does until its next `await`. -/
def turn (s : LoopRun) (d : LoopDispatch) (now : ℕ) : LoopRun :=
  match d.phase with
  | .head => s.roundHead node parentFrameId d now
  | .starting frameId resumed => s.startRound d frameId resumed
  | .gate gateExpressionCtx => s.afterRound node parentFrameId d now gateExpressionCtx
  | .suspending gate gateOutcome => s.suspend node parentFrameId d gate gateOutcome
  | .body _ | .waiting .. => s

/-- One input.  Inputs that do not fit the phase are ignored. -/
def advance (s : LoopRun) (input : Input) : LoopRun :=
  match input, s.dispatch with
  | .dispatch ctx aborted, _ => s.executeLoopNode node ctx aborted
  | .turn now, some d => s.turn node parentFrameId d now
  | .bodyEnded outcome lastOutput gateExpressionCtx, some d =>
    match d.phase with
    | .body frameId => s.endRound d frameId lastOutput gateExpressionCtx outcome
    | _ => s
  | .waitEnded result, some d =>
    match d.phase with
    | .waiting gate validator gateOutcome => s.endWait node d gate validator gateOutcome result
    | _ => s
  | .abort, some d => { s with dispatch := some { d with aborted := true } }
  | .gateUpdated gate, _ => { s with gate := s.gate.map fun _ => gate }
  | _, none => s

/-- A run of inputs. -/
def run (s : LoopRun) (inputs : List Input) : LoopRun := inputs.foldl (advance node parentFrameId) s

end LoopRun

end Makaio.Workflow
