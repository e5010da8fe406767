import Makaio.Foundations.Json
import Makaio.Foundations.Utf16

set_option autoImplicit false

/-!
# Messages of sessions and the transforms of forks

A fork may change the messages it inherits (`get-full-conversation.ts`): by a list of segments, each of
which is kept, summarised or left out, or by a list of removed messages and a pipeline of actions.

## Main definitions

* `SessionMessage` — a message of a session.
* `ForkTransforms` — the transforms of a fork.
* `executePipeline`, `applySegmentTransforms`,
  `applyForkTransforms` — their application; `none` is a thrown error.

## Main results

* `applyForkTransforms_of_isEmpty` — empty transforms change nothing.
-/

namespace Makaio.Context

open Foundations

/-! ### Messages -/

inductive MessageBlock
  | text (content : String)
  | reasoning (content : String)
  | toolCall (toolCallId name : String) (args : List (String × Json))
  | toolOutput (toolCallId output : String) (isError : Option Bool)
  /-- An image, a document or an attachment. -/
  | media (type : String) (source : Json)

/-- Who a message is from. -/
inductive Role
  | user
  | assistant

structure SessionMessage where
  messageId : String
  turnId : Option String
  sessionId : String
  role : Role
  contentText : String
  blocks : List MessageBlock
  timestamp : ℚ
  agentId : Option String
  adapterSessionId : Option String
  adapterMessageId : Option String

/-- Without reasoning blocks. -/
def stripReasoningBlocks (messages : List SessionMessage) : List SessionMessage :=
  messages.map fun message =>
    { message with blocks := message.blocks.filter fun block => match block with
        | .reasoning _ => false
        | _ => true }

/-- With the outputs of tools replaced by their lengths. -/
def stripToolOutputBlocks (messages : List SessionMessage) : List SessionMessage :=
  messages.map fun message =>
    { message with blocks := message.blocks.map fun block => match block with
        | .toolOutput toolCallId output isError =>
          .toolOutput toolCallId
            s!"[output removed - {(Utf16.ofChars output.toList).length} chars]" isError
        | block => block }

/-! ### Pipelines -/

structure PipelineStep where
  actionId : String
  options : List (String × Json)

/-- What an action returns: messages, or a context that ends the pipeline. -/
inductive ActionResult
  | messages (messages : List SessionMessage)
  | contextJson (json : Json)

/-- A registered action.  It may throw. -/
structure SessionEditorAction where
  isTransformation : Bool
  execute : List SessionMessage → List (String × Json) → Option ActionResult

abbrev ActionRegistry := String → Option SessionEditorAction

variable (actions : ActionRegistry)

/-- The messages that a pipeline ends with. -/
def executePipeline : List PipelineStep → List SessionMessage → Option (List SessionMessage)
  | [], messages => some messages
  | step :: steps, messages =>
    match actions step.actionId with
    | none => none
    | some action =>
      match action.execute messages step.options with
      | none => none
      | some (.messages messages) => executePipeline steps messages
      | some (.contextJson _) => some []

/-! ### Segments -/

/-- What becomes of a segment. -/
inductive Policy
  | verbatim
  | summarize
  | exclude
  deriving DecidableEq

/-- A segment of the inherited messages with what becomes of it.  The overrides are the messages that
are left out. -/
structure SegmentPolicy where
  fromMessageId : String
  toMessageId : String
  policy : Policy
  stripReasoning : Bool
  stripToolOutputs : Bool
  overrides : List String
  summaryText : Option String

/-- The index of the last message with an id: the value in a map that is filled in order. -/
def lastIndexOf (messages : List SessionMessage) (messageId : String) : Option ℕ :=
  (messages.reverse.findIdx? fun message => message.messageId = messageId).map
    fun fromEnd => messages.length - 1 - fromEnd

/-- The summary of a segment, if it has one: an empty text is none. -/
def SegmentPolicy.summary? (segment : SegmentPolicy) : Option String :=
  segment.summaryText.filter fun text => text ≠ ""

/-- The strip flags of a segment. -/
def applyStripFlags (messages : List SessionMessage) (segment : SegmentPolicy) :
    List SessionMessage :=
  let result := if segment.stripReasoning then stripReasoningBlocks messages else messages
  if segment.stripToolOutputs then stripToolOutputBlocks result else result

/-- The message that stands for a segment. -/
def syntheticSummary (segment : SegmentPolicy) (summaryText : String) (first last : SessionMessage) :
    SessionMessage where
  messageId := s!"summary-{segment.fromMessageId}-{segment.toMessageId}"
  turnId := none
  sessionId := first.sessionId
  role := .assistant
  contentText := summaryText
  blocks := [.text summaryText]
  timestamp := last.timestamp
  agentId := none
  adapterSessionId := none
  adapterMessageId := none

/-- A segment of the messages. -/
def applySegment (messages : List SessionMessage) (segment : SegmentPolicy) :
    Option (List SessionMessage) :=
  match lastIndexOf messages segment.fromMessageId, lastIndexOf messages segment.toMessageId with
  | some fromIndex, some toIndex =>
    let slice := (messages.take (toIndex + 1)).drop fromIndex
    let processed : Option (List SessionMessage) :=
      match segment.policy with
      | .exclude => some []
      | .summarize =>
        match segment.summary? with
        | some summaryText =>
          match slice.head?, slice.getLast? with
          | some first, some last => some [syntheticSummary segment summaryText first last]
          | _, _ => none
        | none => some slice
      | .verbatim => some slice
    let applies := segment.policy ≠ .summarize ∨ segment.summary? = none
    processed.map fun processed =>
      applyStripFlags
        (if applies then
          processed.filter fun message => !segment.overrides.contains message.messageId
        else processed) segment
  | _, _ => some []

/-- The segments one after the other; one whose boundaries are missing is skipped. -/
def applySegmentTransforms (messages : List SessionMessage) (segments : List SegmentPolicy) :
    Option (List SessionMessage) :=
  (segments.mapM (applySegment messages)).map List.flatten

/-! ### The transforms of a fork -/

structure ForkTransforms where
  removedMessageIds : List String
  appliedPipeline : List PipelineStep
  segments : List SegmentPolicy

def ForkTransforms.IsEmpty (transforms : ForkTransforms) : Prop :=
  transforms.removedMessageIds = [] ∧ transforms.appliedPipeline = [] ∧ transforms.segments = []

/-- The transforms applied to the inherited messages.  What lies outside the range of the segments is
kept, if the range is one. -/
def applyForkTransforms (messages : List SessionMessage) (transforms : ForkTransforms) :
    Option (List SessionMessage) :=
  match transforms.segments with
  | firstSegment :: rest =>
    let lastSegment := (firstSegment :: rest).getLast (List.cons_ne_nil _ _)
    let first := messages.findIdx? fun message => message.messageId = firstSegment.fromMessageId
    let last := messages.findIdx? fun message => message.messageId = lastSegment.toMessageId
    match first, last with
    | some firstIndex, some lastIndex =>
      if firstIndex > lastIndex then applySegmentTransforms messages transforms.segments
      else
        let scope := (messages.take (lastIndex + 1)).drop firstIndex
        (applySegmentTransforms scope transforms.segments).map fun transformed =>
          messages.take firstIndex ++ transformed ++ messages.drop (lastIndex + 1)
    | _, _ => applySegmentTransforms messages transforms.segments
  | [] =>
    executePipeline actions transforms.appliedPipeline
      (messages.filter fun message => !transforms.removedMessageIds.contains message.messageId)

/-- Empty transforms change nothing. -/
lemma applyForkTransforms_of_isEmpty {transforms : ForkTransforms} (h : transforms.IsEmpty)
    (messages : List SessionMessage) :
    applyForkTransforms actions messages transforms = some messages := by
  obtain ⟨hremoved, hpipeline, hsegments⟩ := h
  rw [applyForkTransforms, hsegments]
  rw [hpipeline, hremoved, executePipeline]
  simp

end Makaio.Context
