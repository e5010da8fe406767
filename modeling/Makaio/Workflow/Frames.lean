import Makaio.Foundations.OrderedMap

set_option autoImplicit false

/-!
# Frames and gates of a workflow execution

What storage keeps of an execution: the frames of its nodes and rounds, and the gates that wait for a response.
Prompts, titles, roles and deadlines of nodes are left out.

## Main definitions

* `JsonValue`, `ExpressionContext` — values and what expressions see.
* `Frame`, `FrameMatch` — frames, and which of them a redispatch reuses.
* `GateInstance`, `resolveEscalationInstance` — gates, and what becomes of a loop
  whose escalation gate has been persisted.
* `Handlers` — the functions registered for a workflow.
-/

namespace Makaio.Workflow

open Foundations

/-! ### Values -/

/-- A JSON value.  Nothing here computes with numbers. -/
inductive JsonValue
  | null
  | bool (value : Bool)
  | number (value : ℤ)
  | string (value : String)
  | array (items : List JsonValue)
  | object (fields : List (String × JsonValue))

/-- A property that is left out when its value is `undefined`. -/
def optionalField (name : String) : Option JsonValue → List (String × JsonValue)
  | none => []
  | some value => [(name, value)]

/-- `WorkflowFrameState['status']` -/
inductive FrameStatus
  | pending | running | waiting | completed | failed | skipped | cancelled
  deriving DecidableEq

/-- An entry of `PrimitiveExpressionContext.frames`. -/
structure FrameEntry where
  status : FrameStatus
  output : Option JsonValue

/-- `PrimitiveExpressionContext`.  `previousSteps` is a function of `frames`; `inputs`, `config` and `trigger` are
those of the execution and never change. -/
structure ExpressionContext where
  inputs : JsonValue
  config : JsonValue
  trigger : JsonValue
  frames : OrderedMap String FrameEntry
  output : Option JsonValue
  item : Option JsonValue
  index : Option ℕ
  previous : Option JsonValue

/-! ### Frames -/

/-- `WorkflowNodeType`, without the two kinds of delegates. -/
inductive WorkflowNodeType
  | station | gate | sequence | parallel | iterate | iterateChain | loop

/-- What identifies a frame: drawn by `generateId('frm')`, see `Frame`. -/
structure FrameKey where
  nodeId : String
  branchKey : Option String
  iteration : Option ℕ
  deriving DecidableEq

/-- A frame among those below one parent: a fresh number, and what the frame was created for. -/
structure FrameSegment where
  serial : ℕ
  key : FrameKey
  deriving DecidableEq

/-- A frame identifier.  `generateId` draws identifiers that no other frame has.  Here they are drawn from a counter,
and each remembers for what it and the frames above it were created.  The runtime only compares them. -/
abbrev FrameId := List FrameSegment

/-- `WorkflowFrameState`.  The empty identifier stands for an absent `parentFrameId`. -/
structure Frame where
  frameId : FrameId
  nodeId : String
  nodeType : WorkflowNodeType
  parentFrameId : FrameId
  status : FrameStatus
  iteration : Option ℕ
  branchKey : Option String
  output : Option JsonValue
  error : Option String

/-- `ResumeFrameMatchCriteria`, with the node. -/
structure FrameMatch where
  key : FrameKey
  parentFrameId : FrameId
  statuses : List FrameStatus

/-- `ROUND_RESUME_STATUSES` -/
def iterationResumeStatuses : List FrameStatus := [.completed, .running]

/-- The frame has the coordinates and a status that the caller can reuse. -/
def FrameMatch.accepts (m : FrameMatch) (frame : Frame) : Bool :=
  frame.nodeId = m.key.nodeId ∧ frame.parentFrameId = m.parentFrameId ∧
    frame.branchKey = m.key.branchKey ∧ frame.iteration = m.key.iteration ∧
    frame.status ∈ m.statuses

/-! ### Outcomes and handlers -/

inductive NodeOutcome
  | completed (output : Option JsonValue)
  | skipped
  | cancelled
  | paused (pausedAtGateId : String) (pausedAtFrameId : FrameId)
  | failed (error : String)

inductive LoopGateOutcome
  | pass
  | loop
  | escalate (reason : String)

/-- `LoopGateOutcome` as JSON. -/
def LoopGateOutcome.toJson : LoopGateOutcome → JsonValue
  | .pass => .object [("kind", .string "pass")]
  | .loop => .object [("kind", .string "loop")]
  | .escalate reason => .object [("kind", .string "escalate"), ("reason", .string reason)]

structure LoopGateContext where
  nodeId : String
  round : ℕ
  maxRounds : ℕ

/-- `LoopGateHandler`, which also gets the number of earlier calls: it may answer differently each time. -/
abbrev LoopGateHandler :=
  ℕ → Option JsonValue → JsonValue → LoopGateContext → Except String LoopGateOutcome

/-- The code that a loop calls: the expression engine, the JSON schema validator, and the loop gates. -/
structure Handlers where
  evaluateSync : String → ExpressionContext → Except String (Option JsonValue)
  /-- Compiles a schema to a validator, which returns its complaint. -/
  compileSchema : JsonValue → Except String (JsonValue → Option String)
  runtimeLoopGates : String → Option LoopGateHandler

inductive SuspensionStrategy
  | waitInProcess | exitAndRedispatch | exitAndResume
  deriving DecidableEq

/-! ### Gates -/

/-- `WorkflowGateInstance['status']` -/
inductive GateStatus
  | waiting | resumed | rejected | timedOut | cancelled
  deriving DecidableEq

def GateStatus.text : GateStatus → String
  | .waiting => "waiting"
  | .resumed => "resumed"
  | .rejected => "rejected"
  | .timedOut => "timed-out"
  | .cancelled => "cancelled"

/-- `WorkflowGateInstance` -/
structure GateInstance where
  nodeId : String
  frameId : FrameId
  schema : JsonValue
  status : GateStatus
  resumeData : Option JsonValue
  reason : Option String

/-- The payload of `gate.respond`, for the gate it is addressed to. -/
structure GateResponse where
  reject : Bool
  resumeData : JsonValue
  reason : Option String

/-- The gate instance of a gate that opens. -/
def waitingGate (nodeId : String) (frameId : FrameId) (resumeSchema : Option JsonValue) :
    GateInstance where
  nodeId := nodeId
  frameId := frameId
  schema := resumeSchema.getD (.object [])
  status := .waiting
  resumeData := none
  reason := none

/-- The gate instance after a response. -/
def GateInstance.respond (gate : GateInstance) (response : GateResponse) : GateInstance :=
  { gate with
    status := if response.reject then .rejected else .resumed
    resumeData := some response.resumeData
    reason := response.reason }

variable (handlers : Handlers)

def compileGateResumeValidator (gateId : String) :
    Option JsonValue → Except String (JsonValue → Option String)
  | none => .ok fun _ => none
  | some schema =>
    match handlers.compileSchema schema with
    | .ok validator => .ok validator
    | .error message => .error s!"Gate '{gateId}' has an invalid resumeSchema: {message}"

/-- `validateGateResumeDataForSchema`: the complaint, if there is one. -/
def validateGateResumeDataForSchema (gateId : String) (schema : JsonValue) (resumeData : JsonValue) :
    Option String :=
  match compileGateResumeValidator handlers gateId (some schema) with
  | .ok validator => validator resumeData
  | .error message => some message

def buildLoopOutput (outcome : String) (rounds : ℕ) (lastGateOutcome : LoopGateOutcome)
    (bodyOutputs : List JsonValue) (resumeData : Option JsonValue) : JsonValue :=
  .object ([("outcome", .string outcome), ("rounds", .number rounds),
    ("lastGateOutcome", lastGateOutcome.toJson), ("bodyOutputs", .array bodyOutputs)] ++
    optionalField "resumeData" resumeData)

/-- What `resolvePersistedEscalationGate` makes of a persisted gate that has not expired. -/
def resolveEscalationInstance (nodeId : String) (frameId : FrameId) (gateOutcome : LoopGateOutcome)
    (rounds : ℕ) (bodyOutputs : List JsonValue) (gate : GateInstance) : NodeOutcome :=
  let status := gate.status.text
  match gate.status with
  | .waiting => .paused nodeId frameId
  | .resumed | .rejected =>
    match gate.resumeData with
    | some resumeData =>
      match validateGateResumeDataForSchema handlers nodeId gate.schema resumeData with
      | some error => .failed s!"Loop '{nodeId}' escalation gate resumeData is invalid: {error}"
      | none => .completed
          (some (buildLoopOutput "escalate" rounds gateOutcome bodyOutputs (some resumeData)))
    | none => .failed
        s!"Loop '{nodeId}' escalation gate has status '{status}' but resumeData is missing"
  | .timedOut | .cancelled =>
    .failed s!"Loop '{nodeId}' escalation gate cannot resume from status '{status}'"

end Makaio.Workflow
