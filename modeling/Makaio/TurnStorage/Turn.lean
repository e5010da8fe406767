import Makaio.Foundations.JsonText
import Makaio.Foundations.OrderedMap

set_option autoImplicit false

/-!
# Turns

The turns of a conversation, their usage and their initiator, and the JSON columns that usage and
initiator are kept in.

## Main definitions

* `Turn` — `TurnSchema`; `TurnStatus`, `TurnUsage`, `TurnInitiator` — its parts.
* `Operation` — the operations of a store, with `Result` and `Failure`.
* `stringifyUsage`, `parseUsage` — the usage column.
* `serializeInitiator`, `parseInitiator` — the initiator column.

## Main results

* `parseUsage_stringifyUsage`, `parseInitiator_serializeInitiator` —
  what is written is read back.
-/

namespace Makaio.TurnStorage

open Foundations Json

/-- `TurnStatusSchema`. -/
inductive TurnStatus
  | active
  | completed
  | error
  deriving DecidableEq

/-- `isTerminal` of a status. -/
def TurnStatus.isTerminal : TurnStatus → Bool
  | .active => false
  | .completed => true
  | .error => true

/-- The status that a completion gives: `z.enum(['completed', 'error'])`. -/
inductive CompletedStatus
  | completed
  | error

def CompletedStatus.toStatus : CompletedStatus → TurnStatus
  | .completed => .completed
  | .error => .error

/-- `UsageMetricsSchema`. -/
structure UsageMetrics where
  inputTokens : ℚ
  cachedInputTokens : Option ℚ
  outputTokens : ℚ
  cost : Option ℚ
  deriving DecidableEq

/-- `TurnUsageSchema`. -/
structure TurnUsage where
  total : UsageMetrics
  byAgent : Option (OrderedMap String UsageMetrics)
  deriving DecidableEq

/-- The `source` of `TurnInitiatorSchema`. -/
inductive InitiatorSource
  | user
  | extension
  | system
  deriving DecidableEq

/-- `TurnInitiatorSchema`. -/
structure TurnInitiator where
  source : InitiatorSource
  sourceId : Option String
  deriving DecidableEq

/-- `TurnSchema`. -/
structure Turn where
  turnId : String
  sessionId : String
  turnNumber : ℕ
  startedAt : ℤ
  completedAt : Option ℤ
  status : TurnStatus
  error : Option String
  usage : Option TurnUsage
  initiator : Option TurnInitiator
  deriving DecidableEq

/-! ### Requests -/

/-- The request of `storage:turn.create`. -/
structure CreateRequest where
  sessionId : String
  turnId : Option String
  initiator : Option TurnInitiator

/-- The request of `storage:turn.ingestCompleted`. -/
structure IngestCompletedRequest where
  sessionId : String
  turnAnchorId : String
  startedAt : ℤ
  completedAt : ℤ
  status : CompletedStatus
  error : Option String
  usage : Option TurnUsage
  initiator : Option TurnInitiator

/-- The request of `storage:turn.complete`; a usage of `some none` is `null`. -/
structure CompleteRequest where
  turnId : String
  status : CompletedStatus
  expectedStatus : Option TurnStatus
  error : Option String
  usage : Option (Option TurnUsage)

/-- The operations of a turn store, with the time and the identifier that the handler takes. -/
inductive Operation
  | create (request : CreateRequest) (now : ℤ) (randomUUID : String)
  | ingestCompleted (request : IngestCompletedRequest) (randomUUID : String)
  | complete (request : CompleteRequest) (now : ℤ)
  | set (turn : Turn)
  | get (turnId : String)
  | getBySession (sessionId : String) (status : Option TurnStatus) (limit : Option ℕ)
  | getActive (sessionId : String)
  | listActive

/-- What the handlers answer. -/
inductive Result
  | turn (turn : Turn)
  | ingested (turn : Turn) (created : Bool)
  | completed (turn : Turn) (transitioned : Bool)
  | found (turn : Option Turn)
  | turns (turns : List Turn)
  deriving DecidableEq

/-- What the handlers throw. -/
inductive Failure
  | turnNotFound (turnId : String)
  | turnNotFoundForAnchor (sessionId : String)
  | constraintViolation
  deriving DecidableEq

/-- The first of a list, as many as the limit says: a limit of `0` is none. -/
def limited {α : Type*} (limit : Option ℕ) (list : List α) : List α :=
  match limit with
  | none => list
  | some 0 => list
  | some n => list.take n

/-- The usage after a completion: `null` clears it and `undefined` keeps it. -/
def replacementUsage (usage : Option (Option TurnUsage)) (existing : Option TurnUsage) :
    Option TurnUsage :=
  match usage with
  | none => existing
  | some usage => usage

/-! ### The JSON of usage and initiator -/

/-- A member whose value is `undefined` is not written. -/
def optionalMember (key : String) (value : Option Json) : List (String × Json) :=
  value.toList.map fun v => (key, v)

/-- The object of usage metrics. -/
def UsageMetrics.toJson (metrics : UsageMetrics) : Json :=
  .obj ([("inputTokens", .num metrics.inputTokens)] ++
    optionalMember "cachedInputTokens" (metrics.cachedInputTokens.map .num) ++
    [("outputTokens", .num metrics.outputTokens)] ++
    optionalMember "cost" (metrics.cost.map .num))

/-- The object of a usage. -/
def TurnUsage.toJson (usage : TurnUsage) : Json :=
  .obj ([("total", usage.total.toJson)] ++
    optionalMember "byAgent" (usage.byAgent.map fun agents =>
      .obj (agents.entries.map fun e => (e.1, e.2.toJson))))

def InitiatorSource.text : InitiatorSource → String
  | .user => "user"
  | .extension => "extension"
  | .system => "system"

/-- The object of an initiator. -/
def TurnInitiator.toJson (initiator : TurnInitiator) : Json :=
  .obj ([("source", .str initiator.source.text)] ++
    optionalMember "sourceId" (initiator.sourceId.map .str))

/-- `z.number()`. -/
def parseNumber : Option Json → Option ℚ
  | some (.num n) => some n
  | _ => none

/-- `z.number().optional()`: outer `none` when the value is no number. -/
def parseOptionalNumber : Option Json → Option (Option ℚ)
  | none => some none
  | some (.num n) => some (some n)
  | _ => none

/-- `UsageMetricsSchema.safeParse`. -/
def parseMetrics (value : Json) : Option UsageMetrics := do
  let members ← value.members?
  let inputTokens ← parseNumber (lookup "inputTokens" members)
  let cachedInputTokens ← parseOptionalNumber (lookup "cachedInputTokens" members)
  let outputTokens ← parseNumber (lookup "outputTokens" members)
  let cost ← parseOptionalNumber (lookup "cost" members)
  return { inputTokens, cachedInputTokens, outputTokens, cost }

/-- `z.record(z.string(), UsageMetricsSchema)`. -/
def parseAgents (members : List (String × Json)) : Option (OrderedMap String UsageMetrics) :=
  members.foldlM (fun agents m => (parseMetrics m.2).map (agents.set m.1)) .empty

/-- `TurnUsageSchema.safeParse`. -/
def TurnUsage.safeParse (value : Json) : Option TurnUsage := do
  let members ← value.members?
  let total ← (lookup "total" members).bind parseMetrics
  let byAgent ← match lookup "byAgent" members with
    | none => some none
    | some agents => (agents.members?.bind parseAgents).map some
  return { total, byAgent }

/-- The source of a text. -/
def parseSource : Json → Option InitiatorSource
  | .str "user" => some .user
  | .str "extension" => some .extension
  | .str "system" => some .system
  | _ => none

/-- `TurnInitiatorSchema.safeParse`. -/
def TurnInitiator.safeParse (value : Json) : Option TurnInitiator := do
  let members ← value.members?
  let source ← (lookup "source" members).bind parseSource
  let sourceId ← match lookup "sourceId" members with
    | none => some none
    | some (.str s) => some (some s)
    | some _ => none
  return { source, sourceId }

/-! ### The columns -/

variable (format : NumberFormat)

/-- `JSON.stringify(usage)`. -/
def stringifyUsage (usage : TurnUsage) : List Char := print format usage.toJson

def parseUsage : Option (List Char) → Option TurnUsage
  | none => none
  | some text => if text = [] then none else (parse format text).bind TurnUsage.safeParse

def serializeInitiator (initiator : Option TurnInitiator) : Option (List Char) :=
  initiator.map fun i => print format i.toJson

def parseInitiator : Option (List Char) → Option TurnInitiator
  | none => none
  | some text => if text = [] then none else (parse format text).bind TurnInitiator.safeParse

/-! ### Reading back -/

/-- The value of a key among members of which one may be missing. -/
@[simp] lemma lookup_optionalMember (key k : String) (value : Option Json) :
    lookup key (optionalMember k value) = if k = key then value else none := by
  cases value <;> simp [optionalMember]

/-- A number is read back. -/
lemma parseOptionalNumber_map (n : Option ℚ) :
    parseOptionalNumber (n.map (Json.normalize ∘ Json.num)) = some n := by
  cases n <;> rfl

/-- Usage metrics are read back from their object. -/
@[simp] lemma parseMetrics_toJson (metrics : UsageMetrics) :
    parseMetrics (Json.normalize metrics.toJson) = some metrics := by
  simp [parseMetrics, UsageMetrics.toJson, Json.normalize, members?, lookup_append, parseOptionalNumber_map,
    parseNumber]

/-- The metrics of the agents are read back from their object. -/
lemma parseAgents_toJson (agents : OrderedMap String UsageMetrics) :
    parseAgents (collect (normalizeMembers (agents.entries.map fun e => (e.1, e.2.toJson)))) =
      some agents := by
  have hfold : ∀ (l : List (String × UsageMetrics)) (acc : OrderedMap String UsageMetrics),
      List.foldlM (fun (agents : OrderedMap String UsageMetrics) m =>
          (parseMetrics m.2).map (agents.set m.1)) acc
          (l.map fun e => (e.1, Json.normalize e.2.toJson)) =
        some (l.foldl (fun acc e => acc.set e.1 e.2) acc) := by
    intro l
    induction l with
    | nil => intro acc; rfl
    | cons e l ih =>
      intro acc
      rw [List.map_cons, List.foldlM_cons, parseMetrics_toJson, List.foldl_cons]
      exact ih _
  have hkeys : ((normalizeMembers (agents.entries.map fun e => (e.1, e.2.toJson))).map
      Prod.fst).Nodup := by
    rw [normalizeMembers_eq_map, List.map_map, List.map_map]
    exact agents.nodup
  rw [collect_of_nodup hkeys, normalizeMembers_eq_map, List.map_map, parseAgents]
  exact (hfold _ _).trans (congrArg some (OrderedMap.foldl_set_entries agents))

/-- A usage is read back from its object. -/
lemma safeParse_toJson_usage (usage : TurnUsage) :
    TurnUsage.safeParse (Json.normalize usage.toJson) = some usage := by
  obtain ⟨total, byAgent⟩ := usage
  cases byAgent with
  | none => simp [TurnUsage.safeParse, TurnUsage.toJson, Json.normalize, members?]
  | some agents =>
    simp [TurnUsage.safeParse, TurnUsage.toJson, Json.normalize, members?, parseAgents_toJson]

/-- An initiator is read back from its object. -/
lemma safeParse_toJson_initiator (initiator : TurnInitiator) :
    TurnInitiator.safeParse (Json.normalize initiator.toJson) = some initiator := by
  obtain ⟨source, sourceId⟩ := initiator
  cases source <;> cases sourceId <;>
    simp [TurnInitiator.safeParse, TurnInitiator.toJson, Json.normalize, members?,
      InitiatorSource.text, parseSource]

/-- **Usage is read back** from its column. -/
@[simp] theorem parseUsage_stringifyUsage (usage : TurnUsage) :
    parseUsage format (some (stringifyUsage format usage)) = some usage := by
  rw [parseUsage, stringifyUsage, if_neg (print_ne_nil format _), parse_print, Option.bind_some]
  exact safeParse_toJson_usage usage

/-- **An initiator is read back** from its column. -/
@[simp] theorem parseInitiator_serializeInitiator (initiator : Option TurnInitiator) :
    parseInitiator format (serializeInitiator format initiator) = initiator := by
  cases initiator with
  | none => rfl
  | some initiator =>
    rw [serializeInitiator, Option.map_some, parseInitiator, if_neg (print_ne_nil format _),
      parse_print, Option.bind_some]
    exact safeParse_toJson_initiator initiator

end Makaio.TurnStorage
