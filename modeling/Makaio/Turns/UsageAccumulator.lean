import Makaio.Foundations.OrderedMap
import Mathlib.Tactic

set_option autoImplicit false

/-!
# The usage of a turn

While a turn runs, `TurnUsageAccumulator` adds up the `agent.usage` events of its agents.  The repeated
events of one provider call count once, an agent whose events declare different granularities is dropped,
and gauges are no measurements.  The provider calls of all agents are kept in one set, under the agent's and
the call's identifiers joined by a colon.  Counts are numbers of any type with an addition, a zero and a
comparison, which need not obey any law: those of double precision do not.

## Main definitions

* `AgentUsageEvent` — an event; `providerCall?`, `callKey?` — the call it measures, and its key.
* `TurnUsageAccumulator` — the accumulator; `add`, `preview`, `snapshot` — its methods.
* `flushBufferedTurnUsage` — the events that arrive while a turn is finalized.

## Main results

* `TurnUsageAccumulator.preview_eq` — a preview is the snapshot after adding the events.
* `flushBufferedTurnUsage_cases` — what is persisted with each batch of buffered events is the
  snapshot after it, however they are grouped.
-/

namespace Makaio.Turns

open Foundations

/-- Token counts: input, cached input, output. -/
abbrev Tokens (R : Type) := R × R × R

/-- What an `agent.usage` event covers. -/
inductive UsageGranularity
  | providerCall
  | turnAggregate
  | queryAggregate
  | latestRequestGauge
  deriving DecidableEq

/-- The part of an `agent.usage` event that is aggregated. -/
structure AgentUsageEvent (R : Type) where
  agentId : String
  inputTokens : R
  outputTokens : R
  inputCachedTokens : R
  granularity : UsageGranularity
  llmCallId : Option String
  deriving DecidableEq

namespace AgentUsageEvent

variable {R : Type} (event : AgentUsageEvent R)

/-- The counts of an event. -/
def tokens : Tokens R :=
  (event.inputTokens, event.inputCachedTokens, event.outputTokens)

/-- The provider call that an event measures, when it names one. -/
def providerCall? : Option String :=
  if event.granularity = .providerCall then event.llmCallId else none

/-- The key under which the call is remembered: `${event.agentId}:${event.llmCallId}`. -/
def callKey? : Option String :=
  event.providerCall?.map fun callId => event.agentId ++ ":" ++ callId

end AgentUsageEvent

/-- The usage of an agent, or of a turn. -/
structure UsageMetrics (R : Type) where
  inputTokens : R
  cachedInputTokens : Option R
  outputTokens : R

namespace UsageMetrics

variable {R : Type} [Add R] [Zero R] [LT R] [DecidableLT R]

/-- Counts as metrics: cached input is left out when there is none. -/
def ofTokens (tokens : Tokens R) : UsageMetrics R where
  inputTokens := tokens.1
  cachedInputTokens := if tokens.2.1 > 0 then some tokens.2.1 else none
  outputTokens := tokens.2.2

/-- Metrics as counts. -/
def toTokens (metrics : UsageMetrics R) : Tokens R :=
  (metrics.inputTokens, metrics.cachedInputTokens.getD 0, metrics.outputTokens)

/-- Add an event's counts to an agent's running total. -/
def plus (existing : UsageMetrics R) (event : AgentUsageEvent R) : UsageMetrics R where
  inputTokens := existing.inputTokens + event.inputTokens
  cachedInputTokens :=
    if event.inputCachedTokens > 0 then some (existing.cachedInputTokens.getD 0 + event.inputCachedTokens)
    else existing.cachedInputTokens
  outputTokens := existing.outputTokens + event.outputTokens

end UsageMetrics

/-- The aggregated usage of a turn. -/
structure TurnUsage (R : Type) where
  total : UsageMetrics R
  byAgent : OrderedMap String (UsageMetrics R)

/-- The accumulator of a turn's usage. -/
structure TurnUsageAccumulator (R : Type) where
  byAgent : OrderedMap String (UsageMetrics R)
  coverageByAgent : OrderedMap String UsageGranularity
  ambiguousAgents : List String
  providerCalls : List String

/-- Assign a member of a plain object whose value is an object: under the key `__proto__` the value becomes
the object's prototype, and no member. -/
def assignMember {V : Type} (record : OrderedMap String V) (key : String) (value : V) : OrderedMap String V :=
  if key = "__proto__" then record else record.set key value

namespace TurnUsageAccumulator

variable {R : Type}

/-- The new accumulator. -/
def empty : TurnUsageAccumulator R := ⟨.empty, .empty, [], []⟩

variable [Add R] [Zero R] [LT R] [DecidableLT R] (acc : TurnUsageAccumulator R)

/-- An agent's events so far declare another granularity. -/
def conflicts (event : AgentUsageEvent R) : Bool :=
  (acc.coverageByAgent.get? event.agentId).any fun coverage => coverage ≠ event.granularity

/-- The event's call was counted before. -/
def isRepeated (event : AgentUsageEvent R) : Bool :=
  event.callKey?.any fun key => key ∈ acc.providerCalls

/-- Add a usage event to the accumulator. -/
def add (event : AgentUsageEvent R) : TurnUsageAccumulator R :=
  if event.granularity = .latestRequestGauge then acc
  else if event.agentId ∈ acc.ambiguousAgents then acc
  else if acc.conflicts event then
    { acc with
      byAgent := acc.byAgent.delete event.agentId
      ambiguousAgents := acc.ambiguousAgents ++ [event.agentId] }
  else if acc.isRepeated event then acc
  else
    { acc with
      providerCalls := acc.providerCalls ++ event.callKey?.toList
      coverageByAgent := acc.coverageByAgent.set event.agentId event.granularity
      byAgent := acc.byAgent.set event.agentId (match acc.byAgent.get? event.agentId with
        | some existing => existing.plus event
        | none => .ofTokens event.tokens) }

/-- The aggregated usage so far; none when no agent has any. -/
def snapshot : Option (TurnUsage R) :=
  if acc.byAgent.entries = [] then none
  else
    some {
      total := .ofTokens (acc.byAgent.entries.foldl (fun total e => total + e.2.toTokens) 0)
      byAgent := acc.byAgent.entries.foldl (fun record e => assignMember record e.1 e.2) .empty }

/-- An isolated copy of the state. -/
def copy (acc : TurnUsageAccumulator R) : TurnUsageAccumulator R where
  byAgent := acc.byAgent.entries.foldl (fun copy e => copy.set e.1 e.2) .empty
  coverageByAgent := acc.coverageByAgent.entries.foldl (fun copy e => copy.set e.1 e.2) .empty
  ambiguousAgents := acc.ambiguousAgents
  providerCalls := acc.providerCalls

/-- Project additional events without changing the accumulator. -/
def preview (events : List (AgentUsageEvent R)) : Option (TurnUsage R) :=
  (events.foldl add acc.copy).snapshot

omit [Add R] [Zero R] [LT R] [DecidableLT R] in
/-- The copy has the state. -/
lemma copy_eq : acc.copy = acc := by
  simp [copy, OrderedMap.foldl_set_entries]

/-- A preview is the snapshot after adding the events. -/
theorem preview_eq (events : List (AgentUsageEvent R)) :
    acc.preview events = (events.foldl add acc).snapshot := by
  rw [preview, copy_eq]

end TurnUsageAccumulator

/-! ### Finalization -/

section Finalization

variable {R E : Type} [Add R] [Zero R] [LT R] [DecidableLT R]

/-- Drain the usage that is buffered while a turn is finalized; the list has the events that are buffered now
and those that arrive during each write, and the writes have numbers.  A batch is detached and the merged usage
is persisted; then the batch is added.  A failed write puts the batch back before what arrived meanwhile. -/
def flushBufferedTurnUsage (persistTurnCompletion : ℕ → Option (TurnUsage R) → Except E Unit)
    (usageAccumulator : Option (TurnUsageAccumulator R)) (currentUsage : Option (TurnUsage R)) :
    List (List (AgentUsageEvent R)) → Except (E × List (AgentUsageEvent R)) (Option (TurnUsage R))
  | [] => .ok currentUsage
  | detached :: arrivals =>
    if detached = [] then .ok currentUsage
    else
      let mergedUsage := match usageAccumulator with
        | some acc => acc.preview detached
        | none => currentUsage
      match persistTurnCompletion 0 mergedUsage with
      | .error error => .error (error, detached ++ arrivals.headD [])
      | .ok () =>
        let added := usageAccumulator.map fun acc => detached.foldl TurnUsageAccumulator.add acc
        flushBufferedTurnUsage (fun number => persistTurnCompletion (number + 1)) added
          ((added.bind TurnUsageAccumulator.snapshot).or mergedUsage) arrivals

/-- The usage after each of the batches has been persisted. -/
def Persisted (persist : ℕ → Option (TurnUsage R) → Except E Unit) (acc : TurnUsageAccumulator R)
    (batches : List (List (AgentUsageEvent R))) : Prop :=
  ∀ done batch, done ++ [batch] <+: batches →
    persist done.length ((done.flatten ++ batch).foldl TurnUsageAccumulator.add acc).snapshot = .ok ()

omit [Add R] [Zero R] [LT R] [DecidableLT R] in
/-- There is no batch in the empty list. -/
lemma not_prefix_nil (done : List (List (AgentUsageEvent R))) (batch : List (AgentUsageEvent R)) :
    ¬ done ++ [batch] <+: [] := by
  simp [List.prefix_nil]

/-- One more batch in front. -/
lemma Persisted.cons {persist : ℕ → Option (TurnUsage R) → Except E Unit} {acc : TurnUsageAccumulator R}
    {detached : List (AgentUsageEvent R)} {batches : List (List (AgentUsageEvent R))}
    (hwrite : persist 0 (detached.foldl TurnUsageAccumulator.add acc).snapshot = .ok ())
    (hall : Persisted (fun number => persist (number + 1)) (detached.foldl TurnUsageAccumulator.add acc) batches) :
    Persisted persist acc (detached :: batches) := by
  rintro (_ | ⟨first, done⟩) batch hdone
  · obtain ⟨rfl, -⟩ := List.cons_prefix_cons.mp hdone
    exact hwrite
  · obtain ⟨rfl, htail⟩ := List.cons_prefix_cons.mp hdone
    simpa [List.foldl_append] using hall done batch htail

/-- However buffered events are grouped into batches, what is persisted with a batch is the snapshot after the
events up to it.  Either all is persisted, and the usage in the end is the snapshot after all events; or the
batches before some batch are persisted and its write fails, and the flush ends there, with the events of the
batch buffered again, before those that arrived during the write. -/
theorem flushBufferedTurnUsage_cases (persist : ℕ → Option (TurnUsage R) → Except E Unit)
    (batches : List (List (AgentUsageEvent R))) (hne : [] ∉ batches) (acc : TurnUsageAccumulator R) :
    (flushBufferedTurnUsage persist (some acc) acc.snapshot batches =
        .ok (batches.flatten.foldl TurnUsageAccumulator.add acc).snapshot ∧
      Persisted persist acc batches) ∨
    ∃ done detached rest error, batches = done ++ detached :: rest ∧ Persisted persist acc done ∧
      persist done.length ((done.flatten ++ detached).foldl TurnUsageAccumulator.add acc).snapshot =
        .error error ∧
      flushBufferedTurnUsage persist (some acc) acc.snapshot batches =
        .error (error, detached ++ rest.headD []) := by
  induction batches generalizing acc persist with
  | nil =>
    left
    exact ⟨rfl, fun done batch h => absurd h (not_prefix_nil done batch)⟩
  | cons detached batches ih =>
    have hdetached : detached ≠ [] := fun heq => hne (heq ▸ List.mem_cons_self)
    have hrest : [] ∉ batches := fun hmem => hne (List.mem_cons_of_mem _ hmem)
    rw [flushBufferedTurnUsage, if_neg hdetached]
    simp only [Option.map_some, Option.bind_some, TurnUsageAccumulator.preview_eq, Option.or_self]
    cases hwrite : persist 0 (detached.foldl TurnUsageAccumulator.add acc).snapshot with
    | error error =>
      right
      exact ⟨[], detached, batches, error, rfl, fun done batch h => absurd h (not_prefix_nil done batch),
        by simpa using hwrite, rfl⟩
    | ok =>
      obtain ⟨hok, hall⟩ | ⟨done, failed, rest, error, heq, hall, hfail, hrun⟩ :=
        ih (fun number => persist (number + 1)) hrest (detached.foldl TurnUsageAccumulator.add acc)
      · left
        exact ⟨by simpa [List.foldl_append] using hok, hall.cons hwrite⟩
      · right
        refine ⟨detached :: done, failed, rest, error, by rw [heq]; rfl, hall.cons hwrite, ?_, hrun⟩
        simpa [List.foldl_append] using hfail

end Finalization

/-- An event of an agent. -/
def sampleEvent (agentId : String) : AgentUsageEvent ℕ := ⟨agentId, 1, 1, 0, .providerCall, none⟩

/-- The second write fails: its batch is buffered again, before the event that arrived during the write. -/
theorem flushBufferedTurnUsage_failed :
    flushBufferedTurnUsage (fun number _ => if number = 0 then .ok () else .error ()) (some .empty) none
      [[sampleEvent "a"], [sampleEvent "b"], [sampleEvent "c"]] =
      .error ((), [sampleEvent "b", sampleEvent "c"]) := by
  obtain ⟨-, hall⟩ | ⟨done, detached, rest, error, heq, hall, hfail, h⟩ := flushBufferedTurnUsage_cases
    (fun number _ => if number = 0 then .ok () else .error ())
    [[sampleEvent "a"], [sampleEvent "b"], [sampleEvent "c"]] (by simp) .empty
  · cases hall [[sampleEvent "a"]] [sampleEvent "b"] ⟨_, rfl⟩
  · rcases done with _ | ⟨first, _ | ⟨second, done⟩⟩
    · cases hfail
    · obtain ⟨rfl, hrest⟩ := List.cons.inj heq
      obtain ⟨rfl, rfl⟩ := List.cons.inj hrest
      exact h
    · cases hall [first] second ⟨done, rfl⟩

end Makaio.Turns
