import Makaio.Bus.Confinement
import Makaio.Bus.RemoteSubscriptions

set_option autoImplicit false

/-!
# Calls on transports

Everything a bus sends: its own events, requests and broadcasts (`methods/emit.ts`,
`methods/request.ts`, `methods/broadcast.ts`), and what it relays or answers when a message arrives
(`registries/transport-registry.ts`).  Each function is modelled by the calls it makes on transports.
What the bus does not decide itself is given by its surroundings: the transports, the interceptors,
the handlers and the peers.  Schema validation, observers and timeouts are left out, and so are the
message and correlation identifiers, which are only passed on.

## Main definitions

* `BusMessage`, `TransportCall` — messages and calls.
* `Surroundings` — what the bus relies on.
* `normalizeTransportTargets`, `emit`, `broadcast`,
  `requestCalls` — the calls of the bus's own messages.
* `handleEventMessage`, `answerRequestMessage`,
  `handleBroadcastMessage` — the calls a received message leads to.

## Main results

* `key_of_mem_emit`, `key_of_mem_broadcast`,
  `key_of_mem_requestCalls` — a message is for the subject of its definition, which is not
  marked local.
* `key_of_mem_handleEventMessage` and its companions — a relayed message is for a subject
  that the registry does not know as local.
-/

namespace Makaio.Bus

open Foundations

/-! ### Messages and calls -/

/-- An event message on a transport. -/
structure BusEventMessage (V : Type) where
  subject : String
  domain : String
  payload : V

/-- A broadcast message on a transport. -/
structure BusBroadcastMessage (V : Type) where
  subject : String
  domain : String
  payload : V

/-- Result from a single handler in a broadcast. -/
structure BroadcastResult (V : Type) where
  nodeId : String
  payload : V

/-- The messages a bus sends with `transport.send`. -/
inductive BusMessage (V : Type)
  | event (message : BusEventMessage V)
  | request (message : BusRequestMessage V)
  | broadcast (message : BusBroadcastMessage V)
  | response (result : Except BusError V)
  | broadcastResponse (results : List (BroadcastResult V)) (error : Option BusError)

/-- Extracts the full subject key from a bus message; answers have none. -/
def getSubjectFromBusMessage {V : Type} : BusMessage V → Option Key
  | .event message => some (message.domain ++ "." ++ message.subject)
  | .request message => some (message.domain ++ "." ++ message.subject)
  | .broadcast message => some (message.domain ++ "." ++ message.subject)
  | .response _ => none
  | .broadcastResponse _ _ => none

/-- A call of the bus on one of its transports. -/
inductive TransportCall (V : Type)
  | send (transport : String) (message : BusMessage V)
  | sendToConnection (transport : String) (message : BusMessage V) (connectionId : String)
  | onBroadcastResults (transport : String) (results : List (BroadcastResult V))
      (error : Option BusError)
  /-- `transport.subscribe` or `transport.unsubscribe` -/
  | advertise (transport : String) (call : AdvertisementCall)

/-- The subject key a call carries: of its message, or of the subscription. -/
def TransportCall.key {V : Type} : TransportCall V → Option Key
  | send _ message => getSubjectFromBusMessage message
  | sendToConnection _ message _ => getSubjectFromBusMessage message
  | onBroadcastResults _ _ _ => none
  | advertise _ call => some call.subject

/-- What a bus relies on. -/
structure Surroundings (H V : Type) where
  /-- `transport.canSend?.(message)` -/
  canSend : String → BusMessage V → Option Bool
  /-- Whether a transport implements `sendToConnection`. -/
  hasSendToConnection : String → Bool
  /-- Whether a transport implements `onBroadcastResults`. -/
  hasOnBroadcastResults : String → Bool
  /-- The payload after the interceptors of a subject, or nothing when one of them stopped it. -/
  executeInterceptors : Key → V → Option V
  /-- Whether an event handler completes without an error. -/
  completes : H → V → Bool
  /-- What a request handler does. -/
  program : H → V → HandlerProgram V
  /-- The results of a handler in a broadcast, none when it fails. -/
  executeLocalBroadcastHandler : H → V → List (BroadcastResult V)
  /-- What the peer answers to a request, if it ever does. -/
  answer : String → BusRequestMessage V → Option (Except BusError V)
  /-- The results of the peer in a broadcast, none when it fails. -/
  broadcastAnswer : String → BusBroadcastMessage V → List (BroadcastResult V)

/-! ### The bus's own messages -/

section Own

variable {H V : Type} (env : Surroundings H V) (context : BusContext H)

/-- All registered transports except the excluded one, sorted by name. -/
def getSortedTransports (exclude : Option String) : List String :=
  (context.transports.keys.filter fun name => exclude ≠ some name).insertionSort
    fun a b => (compare a b).isLE

/-- The sorted transports that can handle the message. -/
def getReadyTransports (exclude : Option String) (message : BusMessage V) : List String :=
  (getSortedTransports context exclude).filter fun name =>
    (env.canSend name message).getD (context.transports.get? name = some true)

/-- The transports of a call after the `defaultTransports` cascade: the caller's, else those of the
subject, else those of the namespace. -/
def resolveEffectiveTransports (definition : SubjectDefinition)
    (callerTransports : Option (List String)) : Option (List String) :=
  match callerTransports with
  | some transports => some transports
  | none =>
    match definition.defaultTransports with
    | some default => if default = .localOnly then some [] else none
    | none =>
      if context.namespaceRegistry.getDefaultTransports
          (getFullSubjectForSubjectDefinition definition) = .localOnly then some []
      else none

/-- Resolve which transports a message should be sent to. -/
def normalizeTransportTargets (transports : Option (List String)) (definition : SubjectDefinition)
    (message : BusMessage V) : List String :=
  -- local subjects never go to transports
  if definition.isLocal then []
  else if context.namespaceRegistry.isCollectorOnlySubject
      (getFullSubjectForSubjectDefinition definition) then []
  else
    match transports with
    | none =>
      if definition.defaultTransports = some .localOnly then []
      else getReadyTransports env context none message
    | some names => names.filter fun name => context.transports.has name

/-- Emit an event to all registered handlers and then to the transports; nothing is sent when an
interceptor stops the event or a handler fails. -/
def emit (definition : SubjectDefinition) (payload : V) (transports : Option (List String))
    (connectionId : Option String) : List (TransportCall V) :=
  let fullSubjectKey := getFullSubjectForSubjectDefinition definition
  match env.executeInterceptors fullSubjectKey payload with
  | none => []
  | some finalPayload =>
    let handlers := getMatchingHandlerEntries context.eventHandlers fullSubjectKey
    if handlers.all fun entry => env.completes entry.handler finalPayload then
      let eventMessage := .event ⟨definition.subject, definition.domain, finalPayload⟩
      let transportTargets := normalizeTransportTargets env context
        (resolveEffectiveTransports context definition transports) definition eventMessage
      match connectionId with
      | none => transportTargets.map fun transport => .send transport eventMessage
      | some connectionId => (transportTargets.filter env.hasSendToConnection).map fun transport =>
          .sendToConnection transport eventMessage connectionId
    else []

/-- Execute a broadcast to all local handlers and transports: the calls and the collected
results. -/
def broadcast (definition : SubjectDefinition) (payload : V) (transports : Option (List String)) :
    List (TransportCall V) × List (BroadcastResult V) :=
  let fullSubjectKey := getFullSubjectForSubjectDefinition definition
  let handlers := getMatchingHandlerEntries context.requestHandlers fullSubjectKey
  let broadcastMessage := ⟨definition.subject, definition.domain, payload⟩
  let transportTargets :=
    match resolveEffectiveTransports context definition transports with
    | none => if definition.isLocal then []
        else getReadyTransports env context none (.broadcast broadcastMessage)
    | some names => normalizeTransportTargets env context (some names) definition
        (.broadcast broadcastMessage)
  (transportTargets.map fun transport => .send transport (.broadcast broadcastMessage),
    (handlers.flatMap fun entry => env.executeLocalBroadcastHandler entry.handler payload) ++
      transportTargets.flatMap fun transport => env.broadcastAnswer transport broadcastMessage)

/-- The bus as a network of its own; what lies behind its transports is in the surroundings. -/
def ownNetwork : Network Unit H V where
  context _ := context
  program := env.program
  peer _ _ := none

/-- Send a request message and wait for the answer of the peer. -/
def sendRequest (transport : String) (message : BusRequestMessage V) : NetworkRun Unit H V V :=
  .event (.send () transport message)
    (match env.answer transport message with
    | none => .cutOff
    | some (.ok value) => .pure value
    | some (.error error) => .throw error)

/-- The calls among the events of a run. -/
def sentCalls (events : List (BusEvent Unit H V)) : List (TransportCall V) :=
  events.filterMap fun
    | .send _ transport message => some (.send transport (.request message))
    | .invoke _ _ _ => none

variable [ObjectSpread V]

def requestCalls (definition : SubjectDefinition) (payload : V)
    (transports : Option (List String)) : List (TransportCall V) :=
  sentCalls (request (ownNetwork env context) () (sendRequest env) definition payload
    transports).trace

/-! ### Received messages -/

omit [ObjectSpread V] in
/-- Handle an event received from a transport: relay it to the other transports unless it is
collector-only, then emit it locally.  Events of local subjects are dropped. -/
def handleEventMessage (sourceTransportName : String) (message : BusEventMessage V) :
    List (TransportCall V) :=
  let fullSubject := message.domain ++ "." ++ message.subject
  if context.namespaceRegistry.isLocalSubject fullSubject then []
  else
    (if context.namespaceRegistry.isCollectorOnlySubject fullSubject then []
      else (getReadyTransports env context (some sourceTransportName) (.event message)).map
        fun transport => .send transport (.event message)) ++
    emit env context ⟨message.subject, message.domain, false, false, none⟩ message.payload (some [])
      none

/-- Handle a request received from a transport: dispatch it, and answer once the dispatch has
ended. -/
def answerRequestMessage (sourceTransportName : String) (message : BusRequestMessage V) :
    List (TransportCall V) :=
  let run := handleRequestMessage (ownNetwork env context) () (sendRequest env) message
  sentCalls run.trace ++
    match run.ending with
    | .value value => [.send sourceTransportName (.response (.ok value))]
    | .error error => [.send sourceTransportName (.response (.error error))]
    | .cutOff => []

omit [ObjectSpread V] in
/-- Deliver broadcast results to the originating transport. -/
def deliverBroadcastResults (transport : String) (results : List (BroadcastResult V))
    (error : Option BusError) : TransportCall V :=
  if env.hasOnBroadcastResults transport then .onBroadcastResults transport results error
  else .send transport (.broadcastResponse results error)

omit [ObjectSpread V] in
/-- Handle a broadcast received from a transport: execute it locally, relay it to the other
transports, and deliver all results.  Broadcasts of local subjects are rejected. -/
def handleBroadcastMessage (sourceTransportName : String) (message : BusBroadcastMessage V) :
    List (TransportCall V) :=
  let fullSubject := message.domain ++ "." ++ message.subject
  if context.namespaceRegistry.isLocalSubject fullSubject then
    [deliverBroadcastResults env sourceTransportName []
      (some (BusError.overTransport (.localSubject fullSubject)))]
  else
    let executed := broadcast env context ⟨message.subject, message.domain, true, false, none⟩
      message.payload (some [])
    let relayTargets := getReadyTransports env context (some sourceTransportName)
      (.broadcast message)
    let allResults := executed.2 ++ relayTargets.flatMap fun transport =>
      env.broadcastAnswer transport message
    executed.1 ++ (relayTargets.map fun transport => .send transport (.broadcast message)) ++
      [deliverBroadcastResults env sourceTransportName allResults none]

end Own

/-! ### What calls carry -/

section Keys

variable {H V : Type} {env : Surroundings H V} {context : BusContext H}
  {definition : SubjectDefinition} {payload : V} {transports : Option (List String)}
  {call : TransportCall V}
variable {transport source : String} {key : Key}

/-- The message of a definition that is marked local has no targets. -/
lemma not_isLocal_of_mem_normalizeTransportTargets {message : BusMessage V}
    (h : transport ∈ normalizeTransportTargets env context transports definition message) :
    definition.isLocal = false := by
  unfold normalizeTransportTargets at h
  by_contra hlocal
  rw [if_pos (by simpa using hlocal)] at h
  cases h

/-- **An emitted event** is for the subject of its definition, which is not marked local. -/
theorem key_of_mem_emit {connectionId : Option String}
    (h : call ∈ emit env context definition payload transports connectionId) :
    call.key = some (getFullSubjectForSubjectDefinition definition) ∧
      definition.isLocal = false := by
  unfold emit at h
  dsimp only at h
  split at h
  · cases h
  · split_ifs at h
    · split at h
      · obtain ⟨transport, htarget, rfl⟩ := List.mem_map.mp h
        exact ⟨rfl, not_isLocal_of_mem_normalizeTransportTargets htarget⟩
      · obtain ⟨transport, htarget, rfl⟩ := List.mem_map.mp h
        exact ⟨rfl, not_isLocal_of_mem_normalizeTransportTargets (List.mem_filter.mp htarget).1⟩
    · cases h

/-- **A broadcast** is for the subject of its definition, which is not marked local. -/
theorem key_of_mem_broadcast (h : call ∈ (broadcast env context definition payload transports).1) :
    call.key = some (getFullSubjectForSubjectDefinition definition) ∧
      definition.isLocal = false := by
  obtain ⟨transport, htarget, rfl⟩ := List.mem_map.mp h
  refine ⟨rfl, ?_⟩
  split at htarget
  · split_ifs at htarget with hlocal
    · cases htarget
    · simpa using hlocal
  · exact not_isLocal_of_mem_normalizeTransportTargets htarget

/-- The calls of a run are its sent messages. -/
lemma mem_sentCalls {events : List (BusEvent Unit H V)} :
    call ∈ sentCalls events ↔ ∃ transport message, .send () transport message ∈ events ∧
      call = .send transport (.request message) := by
  unfold sentCalls
  rw [List.mem_filterMap]
  constructor
  · rintro ⟨event, hevent, hcall⟩
    cases event with
    | send node transport message => exact ⟨transport, message, hevent, (Option.some.inj hcall).symm⟩
    | invoke node entry payload => cases hcall
  · rintro ⟨transport, message, hevent, rfl⟩
    exact ⟨_, hevent, rfl⟩

variable {message : BusRequestMessage V}

/-- A request message is sent once. -/
lemma mem_trace_sendRequest {event : BusEvent Unit H V}
    (h : event ∈ (sendRequest env transport message).trace) :
    event = .send () transport message := by
  unfold sendRequest at h
  rw [Traced.trace_event] at h
  rcases List.mem_cons.mp h with h | h
  · exact h
  · split at h <;> cases h

variable {options : DispatchOptions}

/-- A definition that is marked local is dispatched without routes. -/
lemma not_isLocal_of_remoteEntry_mem_dispatchList {route : RemoteRoute}
    (h : .remoteEntry route ∈ dispatchList context definition options) :
    definition.isLocal = false := by
  unfold dispatchList at h
  rw [remoteEntry_mem_buildMergedList] at h
  split_ifs at h with heligible
  · rw [Bool.and_eq_true, Bool.not_eq_true'] at heligible
    exact heligible.1
  · cases h

variable [ObjectSpread V]

/-- The messages of a dispatch are for the subject of its definition, which is not marked local. -/
lemma send_mem_trace_dispatch
    (h : .send () transport message ∈ (dispatch (ownNetwork env context) () (sendRequest env)
      definition payload options).trace) :
    message.subject = definition.subject ∧ message.domain = definition.domain ∧
      definition.isLocal = false := by
  rcases mem_trace_dispatch h with ⟨entry, payload', -, he⟩ | ⟨route, payload', cursor, hroute, -, he⟩
  · cases he
  · cases mem_trace_sendRequest he
    exact ⟨rfl, rfl, not_isLocal_of_remoteEntry_mem_dispatchList hroute⟩

/-- **A request message** is for the subject of its definition, which is not marked local. -/
theorem key_of_mem_requestCalls
    (h : call ∈ requestCalls env context definition payload transports) :
    call.key = some (getFullSubjectForSubjectDefinition definition) ∧
      definition.isLocal = false := by
  obtain ⟨transport, message, hsend, rfl⟩ := mem_sentCalls.mp h
  rw [trace_request] at hsend
  obtain ⟨hsubject, hdomain, hlocal⟩ := send_mem_trace_dispatch hsend
  refine ⟨?_, hlocal⟩
  show some (message.domain ++ "." ++ message.subject) = _
  rw [hsubject, hdomain]
  rfl

omit [ObjectSpread V] in
/-- **A relayed event** is for a subject that the registry does not know as local. -/
theorem key_of_mem_handleEventMessage {message : BusEventMessage V}
    (h : call ∈ handleEventMessage env context source message) (hkey : call.key = some key) :
    context.namespaceRegistry.isLocalSubject key = false := by
  unfold handleEventMessage at h
  by_cases hlocal : context.namespaceRegistry.isLocalSubject
      (message.domain ++ "." ++ message.subject) = true
  · rw [if_pos hlocal] at h
    cases h
  · rw [if_neg hlocal] at h
    have hfull : message.domain ++ "." ++ message.subject = key := by
      rcases List.mem_append.mp h with h | h
      · split_ifs at h
        · cases h
        · obtain ⟨transport, -, rfl⟩ := List.mem_map.mp h
          exact Option.some.inj hkey
      · exact Option.some.inj ((key_of_mem_emit h).1.symm.trans hkey)
    exact hfull ▸ Bool.eq_false_iff.mpr hlocal

/-- **A forwarded request** is for a subject that the registry does not know as local. -/
theorem key_of_mem_answerRequestMessage (h : call ∈ answerRequestMessage env context source message)
    (hkey : call.key = some key) :
    context.namespaceRegistry.isLocalSubject key = false := by
  unfold answerRequestMessage at h
  rcases List.mem_append.mp h with h | h
  · obtain ⟨transport, forwarded, hsend, rfl⟩ := mem_sentCalls.mp h
    rw [handleRequestMessage] at hsend
    split_ifs at hsend with hlocal
    · cases hsend
    · have hdispatch : .send () transport forwarded ∈ (inboundDispatch (ownNetwork env context) ()
          (sendRequest env) message).trace := by
        rcases (inboundDispatch (ownNetwork env context) () (sendRequest env)
          message).ending_cases with hend | ⟨r, hend⟩
        · rwa [Traced.settle_of_cutOff hend] at hsend
        · rw [Traced.settle_of_settled hend] at hsend
          rcases List.mem_append.mp hsend with hsend | hsend
          · exact hsend
          · rcases r with error | (_ | value) <;> cases hsend
      obtain ⟨hsubject, hdomain, -⟩ := send_mem_trace_dispatch hdispatch
      have hfull : forwarded.domain ++ "." ++ forwarded.subject = key := Option.some.inj hkey
      rw [hsubject, hdomain] at hfull
      exact hfull ▸ Bool.eq_false_iff.mpr hlocal
  · -- an answer has no subject
    split at h
    · obtain rfl := List.mem_singleton.mp h
      exact absurd hkey (by simp [TransportCall.key, getSubjectFromBusMessage])
    · obtain rfl := List.mem_singleton.mp h
      exact absurd hkey (by simp [TransportCall.key, getSubjectFromBusMessage])
    · cases h

omit [ObjectSpread V] in
lemma key_deliverBroadcastResults (transport : String) (results : List (BroadcastResult V))
    (error : Option BusError) :
    (deliverBroadcastResults env transport results error).key = none := by
  unfold deliverBroadcastResults
  split_ifs <;> rfl

omit [ObjectSpread V] in
/-- **A relayed broadcast** is for a subject that the registry does not know as local. -/
theorem key_of_mem_handleBroadcastMessage {message : BusBroadcastMessage V}
    (h : call ∈ handleBroadcastMessage env context source message) (hkey : call.key = some key) :
    context.namespaceRegistry.isLocalSubject key = false := by
  unfold handleBroadcastMessage at h
  dsimp only at h
  split_ifs at h with hlocal
  · obtain rfl := List.mem_singleton.mp h
    rw [key_deliverBroadcastResults] at hkey
    cases hkey
  · have hfull : message.domain ++ "." ++ message.subject = key := by
      rcases List.mem_append.mp h with h | h
      · rcases List.mem_append.mp h with h | h
        · exact Option.some.inj ((key_of_mem_broadcast h).1.symm.trans hkey)
        · obtain ⟨transport, -, rfl⟩ := List.mem_map.mp h
          exact Option.some.inj hkey
      · obtain rfl := List.mem_singleton.mp h
        rw [key_deliverBroadcastResults] at hkey
        cases hkey
    exact hfull ▸ Bool.eq_false_iff.mpr hlocal

end Keys

end Makaio.Bus
