import Makaio.Bus.MergedList
import Makaio.Bus.RequestHandler

set_option autoImplicit false

/-!
# Request dispatch

A request walks the merged list of the bus it is made at (`methods/request/dispatch.ts`).  Local
entries run a handler; a remote entry sends a request message to a peer, which walks its own
merged list below the cursor it was sent (`handleRequestMessage` in
`registries/transport-registry.ts`) and answers with a result or an error.

Buses and their transports form a network, and a request is a computation over the whole network:
the hop at a remote entry is the peer's handling of the message.  Since nothing bounds the number
of hops, a run takes a bound on the depth of nested hops and is cut off there.  The readiness wait,
deadlines and abort signals are not modelled: requests have no timeout and every transport is
ready.

All hops of a request carry one correlation id, under which a transport keeps one waiting sender.  A
bus that is reached again and sends the request over the same transport takes the place of the hop
it is still waiting for (`track` in `utils/correlation-tracker.ts`), and that hop waits for ever.

## Main definitions

* `stepDispatch`, `executeRemoteEntry`, `dispatch` — the walk.
* `handleRequestMessage`, `request` — the two ways into a walk.
* `Network`, `deliver`, `hop` — the buses and the hops between
  them.
* `awaitAnswer` — which answers reach the bus that sent a message.
* `hopAnswered` — the hops if every answer did.
-/

namespace Makaio.Bus

open Foundations

/-! ### Messages, options and events -/

/-- A request message on a transport. -/
structure BusRequestMessage (V : Type) where
  subject : String
  domain : String
  payload : V
  /-- The priority cursor. -/
  priority : Option ℤ

structure DispatchOptions where
  /-- Explicit transport allowlist for remote dispatch. -/
  allowedTransports : Option (List String)
  /-- Priority cursor from an originating transport hop. -/
  priority : Option ℤ
  /-- Remote entries are skipped even if the subject is not marked local. -/
  localOnly : Bool
  /-- Exclude remote routes whose owner marked the subscription as first-hop-only. -/
  excludeFirstHopOnlyRemote : Bool

/-- What can be observed of a request: a handler of a bus is invoked with a payload, or a bus sends
a request message. -/
inductive BusEvent (N H V : Type)
  | invoke (node : N) (entry : HandlerEntry H) (payload : V)
  | send (node : N) (transport : String) (message : BusRequestMessage V)

/-- Buses connected by transports.  Handlers are identified by their registration, and `program`
is what each of them does with a payload. -/
structure Network (N H V : Type) where
  context : N → BusContext H
  program : H → V → HandlerProgram V
  /-- The bus at the other end of a transport. -/
  peer : N → String → Option N

/-- The runs of a network. -/
abbrev NetworkRun (N H V α : Type) := Traced (BusEvent N H V) BusError α

/-! ### One node -/

section Node

variable {N H V : Type} [ObjectSpread V] (net : Network N H V) (node : N)
  (send : String → BusRequestMessage V → NetworkRun N H V V)

/-- The message a remote entry is sent. -/
def requestMessage (definition : SubjectDefinition) (payload : V) (cursor : Option ℤ) :
    BusRequestMessage V where
  subject := definition.subject
  domain := definition.domain
  payload := payload
  priority := cursor

/-- Forward the request to a remote transport, and go on with the rest of the chain when the
transport is gone, when the peer has no handler, or when it failed; the first failure is carried
along. -/
def executeRemoteEntry (definition : SubjectDefinition) (payload : V) (entry : RemoteRoute)
    (merged : List (MergedEntry H)) (nextIndex : ℕ) (options : DispatchOptions)
    (firstTransportError : Option BusError)
    (skipToNext : Option BusError → NetworkRun N H V (Option V)) : NetworkRun N H V (Option V) :=
  let fullSubjectKey := getFullSubjectForSubjectDefinition definition
  if (net.context node).transports.has entry.transport then
    let cursor := resolveRemoteCursor merged nextIndex entry.priority options.priority
    (send entry.transport (requestMessage definition payload cursor)).settle fun
      | .ok result => .pure (some result)
      | .error error =>
        if error.isNoHandlerErrorForSubject fullSubjectKey then skipToNext firstTransportError
        else skipToNext (firstTransportError <|> some error)
  else skipToNext firstTransportError

/-- Execute one step in the merged dispatch chain: the first of the entries `rest`, which stand in
`merged` from `index` on. -/
def stepDispatch (definition : SubjectDefinition) (merged : List (MergedEntry H))
    (options : DispatchOptions) : (rest : List (MergedEntry H)) → (index : ℕ) → (payload : V) →
      (firstTransportError : Option BusError) → NetworkRun N H V (Option V)
  | [], _, _, firstTransportError =>
    -- chain exhausted: rethrow the first transport error
    match firstTransportError with
    | some error => .throw error
    | none => .pure none
  | .localEntry entry :: rest, index, payload, firstTransportError =>
    .event (.invoke node entry payload)
      (executeLocalEntry definition.subject (net.program entry.handler payload)
        (fun currentPayload => stepDispatch definition merged options rest (index + 1)
          currentPayload firstTransportError) payload)
  | .remoteEntry entry :: rest, index, payload, firstTransportError =>
    executeRemoteEntry net node send definition payload entry merged (index + 1) options
      firstTransportError
      fun carriedError => stepDispatch definition merged options rest (index + 1) payload
        carriedError

variable (context : BusContext H)

/-- The merged list a dispatch walks. -/
def dispatchList (definition : SubjectDefinition) (options : DispatchOptions) : List (MergedEntry H) :=
  let fullSubjectKey := getFullSubjectForSubjectDefinition definition
  let remoteEligible := !definition.isLocal && !options.localOnly
  let remoteEntries :=
    if remoteEligible then
      resolveRemoteEntries context
        (getMatchingRemoteEntries context fullSubjectKey options.excludeFirstHopOnlyRemote)
        options.allowedTransports
    else []
  buildMergedList (getMatchingHandlerEntries context.requestHandlers fullSubjectKey) remoteEntries

/-- Priority-ordered dispatch with local/remote interleaving. -/
def dispatch (definition : SubjectDefinition) (payload : V) (options : DispatchOptions) :
    NetworkRun N H V (Option V) :=
  let merged := dispatchList (net.context node) definition options
  match resolveStartIndex merged options.priority with
  | none => .pure none
  | some startIndex =>
    if merged.length = 0 then .pure none
    else stepDispatch net node send definition merged options (merged.drop startIndex) startIndex
      payload none

variable (message : BusRequestMessage V)

/-- The definition a receiver rebuilds from a message. -/
def resolveSubjectDefinition (isRequest : Bool) :
    SubjectDefinition where
  subject := message.subject
  domain := message.domain
  isRequest := isRequest
  isLocal := false
  defaultTransports := none

/-- The options under which a receiver dispatches a request message. -/
def inboundOptions (message : BusRequestMessage V) : DispatchOptions where
  allowedTransports := none
  priority := message.priority
  localOnly := context.namespaceRegistry.isHostLocalRequestSubject
    (getFullSubjectForSubjectDefinition (resolveSubjectDefinition message true))
  excludeFirstHopOnlyRemote := true

/-- The dispatch a request message starts at its receiver. -/
def inboundDispatch : NetworkRun N H V (Option V) :=
  dispatch net node send (resolveSubjectDefinition message true) message.payload
    (inboundOptions (net.context node) message)

/-- Handle a request message received from a transport: the answer is the result, or the error of
the response message. -/
def handleRequestMessage : NetworkRun N H V V :=
  let fullSubject := getFullSubjectForSubjectDefinition (resolveSubjectDefinition message true)
  if (net.context node).namespaceRegistry.isLocalSubject fullSubject then
    .throw (BusError.overTransport (.localSubject fullSubject))
  else
    (inboundDispatch net node send message).settle fun
      | .ok (some value) => .pure value
      -- chain exhausted below the cursor: tell the caller to continue dispatch
      | .ok none => .throw (BusError.overTransport (.noHandler fullSubject))
      | .error error => .throw error.overTransport

/-- Whether a request should be dispatched locally only; `transports` is the caller's explicit
transport list. -/
def resolveLocalOnly (definition : SubjectDefinition) (transports : Option (List String)) : Bool :=
  definition.isLocal ||
    match transports with
    | some names => names.isEmpty
    | none =>
      match definition.defaultTransports with
      | some default => default == .localOnly
      | none => context.namespaceRegistry.getDefaultTransports
          (getFullSubjectForSubjectDefinition definition) == .localOnly

/-- The options under which a bus dispatches a request of its own. -/
def requestOptions (definition : SubjectDefinition)
    (transports : Option (List String)) : DispatchOptions where
  allowedTransports := transports.filter fun names => !names.isEmpty
  priority := none
  localOnly := resolveLocalOnly context definition transports
  excludeFirstHopOnlyRemote := false

/-- Execute a request and wait for a response. -/
def request (definition : SubjectDefinition) (payload : V) (transports : Option (List String)) :
    NetworkRun N H V V :=
  (dispatch net node send definition payload
    (requestOptions (net.context node) definition transports)).andThen fun
      | some value => .pure value
      | none => .throw (.noHandler (getFullSubjectForSubjectDefinition definition))

omit [ObjectSpread V] in
/-- A dispatch list is in descending priority order. -/
lemma descending_dispatchList (definition : SubjectDefinition) (options : DispatchOptions) :
    Descending MergedEntry.priority (dispatchList context definition options) :=
  descending_buildMergedList _ _

variable {definition : SubjectDefinition}

omit [ObjectSpread V] in
/-- The local entries of a dispatch list are the matching handlers. -/
@[simp] lemma localEntry_mem_dispatchList {context : BusContext H} {options : DispatchOptions}
    {entry : HandlerEntry H} :
    MergedEntry.localEntry entry ∈ dispatchList context definition options ↔
      entry ∈ getMatchingHandlerEntries context.requestHandlers
        (getFullSubjectForSubjectDefinition definition) := by
  simp [dispatchList]

/-- If anything in the list is below the cursor, a dispatch walks the list from the start index
on. -/
lemma dispatch_eq_stepDispatch {options : DispatchOptions} {e : MergedEntry H}
    (he : e ∈ dispatchList (net.context node) definition options)
    (hbelow : BelowCursor options.priority e.priority) (payload : V) :
    ∃ start, resolveStartIndex (dispatchList (net.context node) definition options)
        options.priority = some start ∧
      e ∈ (dispatchList (net.context node) definition options).drop start ∧
      dispatch net node send definition payload options =
        stepDispatch net node send definition (dispatchList (net.context node) definition options)
          options ((dispatchList (net.context node) definition options).drop start) start payload
          none := by
  unfold dispatch
  dsimp only
  cases hstart : resolveStartIndex (dispatchList (net.context node) definition options)
      options.priority with
  | none => exact absurd hbelow (not_belowCursor_of_resolveStartIndex_eq_none hstart he)
  | some start =>
    refine ⟨start, rfl, ?_, ?_⟩
    · rw [drop_resolveStartIndex (descending_dispatchList _ _ _) hstart, List.mem_filter]
      exact ⟨he, by simpa using hbelow⟩
    · have hlen : (dispatchList (net.context node) definition options).length ≠ 0 :=
        fun hlen => absurd he (by simp [List.length_eq_zero_iff.mp hlen])
      simp only [if_neg hlen]

variable (definition) in
/-- A dispatch walks the entries of its list that are below the cursor, if any. -/
lemma dispatch_eq_stepDispatch_filter (payload : V) (options : DispatchOptions) :
    let merged := dispatchList (net.context node) definition options
    ∃ start, merged.drop start = merged.filter (fun e => BelowCursor options.priority e.priority) ∧
      (∀ i e, merged[i]? = some e → (start ≤ i ↔ BelowCursor options.priority e.priority)) ∧
      dispatch net node send definition payload options =
        stepDispatch net node send definition merged options (merged.drop start) start payload none := by
  intro merged
  have hsorted : Descending MergedEntry.priority merged := descending_dispatchList _ definition options
  cases hstart : resolveStartIndex merged options.priority with
  | none =>
    have hnone : ∀ e ∈ merged, ¬ BelowCursor options.priority e.priority := fun e he =>
      not_belowCursor_of_resolveStartIndex_eq_none hstart he
    refine ⟨merged.length, ?_, fun i e hi => ?_, ?_⟩
    · rw [List.drop_length, eq_comm, List.filter_eq_nil_iff]
      exact fun e he => by simpa using hnone e he
    · obtain ⟨hlt, rfl⟩ := List.getElem?_eq_some_iff.mp hi
      exact ⟨fun h => absurd hlt (not_lt.mpr h), fun h => absurd h (hnone _ (List.getElem_mem hlt))⟩
    · rw [List.drop_length, stepDispatch]
      unfold dispatch
      simp only [show resolveStartIndex (dispatchList (net.context node) definition options)
        options.priority = none from hstart]
  | some start =>
    refine ⟨start, drop_resolveStartIndex hsorted hstart,
      fun i e hi => start_le_iff hsorted hstart hi, ?_⟩
    unfold dispatch
    simp only [show resolveStartIndex (dispatchList (net.context node) definition options)
      options.priority = some start from hstart]
    split_ifs with hlen
    · rw [show merged = [] from List.length_eq_zero_iff.mp hlen, List.drop_nil]
      rfl
    · rfl

/-- A dispatch without a cursor walks the whole list. -/
lemma dispatch_of_no_cursor {options : DispatchOptions} {payload : V} (h : options.priority = none) :
    dispatch net node send definition payload options =
      stepDispatch net node send definition (dispatchList (net.context node) definition options)
        options (dispatchList (net.context node) definition options) 0 payload none := by
  unfold dispatch
  simp only [h, resolveStartIndex, List.drop_zero]
  split_ifs with hlen
  · rw [List.length_eq_zero_iff.mp hlen]
    rfl
  · rfl

/-- A request does nothing beyond its dispatch. -/
lemma trace_request {payload : V} {transports : Option (List String)} :
    (request net node send definition payload transports).trace =
      (dispatch net node send definition payload
        (requestOptions (net.context node) definition transports)).trace := by
  unfold request
  generalize dispatch net node send definition payload
    (requestOptions (net.context node) definition transports) = run
  rcases run.ending_cases with h | ⟨r, h⟩
  · rw [Traced.andThen, Traced.settle_of_cutOff h]
  · rw [Traced.andThen, Traced.settle_of_settled h]
    rcases r with error | (_ | value) <;> simp

end Node

/-! ### The network -/

section Net

variable {N H V : Type}

/-- A bus sends a message over a transport. -/
def BusEvent.isSend [DecidableEq N] (node : N) (transport : String) : BusEvent N H V → Bool
  | .send node' transport' _ => decide (node' = node ∧ transport' = transport)
  | .invoke _ _ _ => false

/-- Wait for the answer to a message: it arrives unless the bus has sent the request over the
transport again in the meantime. -/
def awaitAnswer [DecidableEq N] (node : N) (transport : String) (run : NetworkRun N H V V) :
    NetworkRun N H V V :=
  if run.trace.any (BusEvent.isSend node transport) then ⟨run.trace, .cutOff⟩ else run

lemma trace_awaitAnswer [DecidableEq N] (node : N) (transport : String) (run : NetworkRun N H V V) :
    (awaitAnswer node transport run).trace = run.trace := by
  unfold awaitAnswer
  split_ifs <;> rfl

/-- An answer that arrives is the answer. -/
lemma awaitAnswer_eq [DecidableEq N] {node : N} {transport : String} {run : NetworkRun N H V V}
    (h : (awaitAnswer node transport run).ending ≠ .cutOff) : awaitAnswer node transport run = run := by
  unfold awaitAnswer at h ⊢
  split_ifs at h ⊢
  · exact absurd rfl h
  · rfl

variable [ObjectSpread V] (net : Network N H V)

section Await

variable [DecidableEq N]

/-- A bus handles a request message; `depth` bounds the nested hops. -/
def deliver : (depth : ℕ) → N → BusRequestMessage V → NetworkRun N H V V
  | 0, _, _ => .cutOff
  | depth + 1, node, message =>
    handleRequestMessage net node (fun transport message =>
      .event (.send node transport message)
        (match net.peer node transport with
        | none => .throw (.connectionLost transport)
        | some peer => awaitAnswer node transport (deliver depth peer message))) message

/-- Send a request message to the peer over a transport and wait for the answer. -/
def hop (depth : ℕ) (node : N) (transport : String) (message : BusRequestMessage V) :
    NetworkRun N H V V :=
  .event (.send node transport message)
    (match net.peer node transport with
    | none => .throw (.connectionLost transport)
    | some peer => awaitAnswer node transport (deliver net depth peer message))

lemma deliver_succ (depth : ℕ) (node : N) (message : BusRequestMessage V) :
    deliver net (depth + 1) node message =
      handleRequestMessage net node (hop net depth node) message := rfl

/-- A hop to a connected peer. -/
lemma hop_of_peer {node peer : N} {transport : String} (hpeer : net.peer node transport = some peer)
    (depth : ℕ) (message : BusRequestMessage V) :
    hop net depth node transport message =
      .event (.send node transport message)
        (awaitAnswer node transport (deliver net depth peer message)) := by
  rw [hop, hpeer]

/-- A hop that is answered is answered by the peer. -/
lemma hop_of_answered {node peer : N} {transport : String}
    (hpeer : net.peer node transport = some peer) {depth : ℕ} {message : BusRequestMessage V}
    (h : (hop net depth node transport message).ending ≠ .cutOff) :
    hop net depth node transport message =
      .event (.send node transport message) (deliver net depth peer message) := by
  rw [hop_of_peer net hpeer] at h ⊢
  rw [awaitAnswer_eq h]

end Await

/-- The handling of a request message if every answer arrived. -/
def deliverAnswered : (depth : ℕ) → N → BusRequestMessage V → NetworkRun N H V V
  | 0, _, _ => .cutOff
  | depth + 1, node, message =>
    handleRequestMessage net node (fun transport message =>
      .event (.send node transport message)
        (match net.peer node transport with
        | none => .throw (.connectionLost transport)
        | some peer => deliverAnswered depth peer message)) message

/-- A hop if every answer arrived. -/
def hopAnswered (depth : ℕ) (node : N) (transport : String) (message : BusRequestMessage V) :
    NetworkRun N H V V :=
  .event (.send node transport message)
    (match net.peer node transport with
    | none => .throw (.connectionLost transport)
    | some peer => deliverAnswered net depth peer message)

lemma deliverAnswered_succ (depth : ℕ) (node : N) (message : BusRequestMessage V) :
    deliverAnswered net (depth + 1) node message =
      handleRequestMessage net node (hopAnswered net depth node) message := rfl

/-- A hop to a connected peer. -/
lemma hopAnswered_of_peer {node peer : N} {transport : String}
    (hpeer : net.peer node transport = some peer) (depth : ℕ) (message : BusRequestMessage V) :
    hopAnswered net depth node transport message =
      .event (.send node transport message) (deliverAnswered net depth peer message) := by
  rw [hopAnswered, hpeer]

end Net

end Makaio.Bus
