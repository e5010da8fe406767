import Makaio.Foundations.Machine
import Makaio.Server.BroadcastAggregator

set_option autoImplicit false

/-!
# Responses and broadcast results between the clients of one server

Requests, responses and broadcasts of all clients meet in three maps that are keyed by correlation ids
of the clients' choice: the sockets that wait for a response, the attempts at which the server waits for
a client, and the broadcasts in flight.  None of the three is asked who may answer under an id.

## Main definitions

* `Exchange` — the three maps, the requests the bus handlers are working on, and the
  requests the server routes to clients.
* `Exchange.step` — one frame of a client, one call of the bus, one timer or disconnect.
* `Exchange.Isolated` — nothing has passed between clients so far.
* `Exchange.KeepsToOwnIds` — a step uses no correlation id of someone else.

## Main results

* `exchange_isolated_iff` — runs are isolated as long as every step keeps to its own ids,
  and from a step that does not a breach is reachable.
* `shared_id_misroutes` — two clients with one id: the second one's response goes to the
  first.
-/

namespace Makaio.Server

open Foundations

/-- An attempt the server waits for: the request it belongs to and the socket it was sent to. -/
structure PendingAttempt where
  route : ℕ
  target : Socket

/-- A request the server tries on one client after another. -/
structure RequestRoute where
  correlationId : String
  /-- The clients that have not been tried. -/
  remaining : List Socket
  /-- The number of attempts so far. -/
  attempts : ℕ
  waiting : Bool

/-- What an observer sees. -/
inductive ExchangeEvent (R : Type)
  /-- the response to a request of `requester` was written to `recipient` -/
  | responded (requester recipient : Socket)
  /-- an attempt sent to `target` was settled by a response of `responder` -/
  | settled (target responder : Socket)
  | broadcast (event : BroadcastEvent R)

/-- The state the answers pass through. -/
structure Exchange (Filter R : Type) where
  registry : ClientRegistry Filter
  /-- The requests the bus handlers have not answered, by their sender and id. -/
  handling : List (Socket × String)
  /-- The pending attempts of the correlation tracker. -/
  correlations : OrderedMap String PendingAttempt
  routes : OrderedMap ℕ RequestRoute
  nextRoute : ℕ
  aggregator : BroadcastAggregator R
  log : List (ExchangeEvent R)

/-- What can happen next.  The sockets a request or a broadcast goes to are any the registry may find
interested. -/
inductive ExchangeAction (R : Type)
  /-- a client's request arrives -/
  | request (socket : Socket) (correlationId : String) (timeout : ℤ)
  /-- the handlers answer a request; whether the socket found for it is open and authenticated -/
  | respond (index : ℕ) (isReadyAndAuthenticated : Bool)
  /-- the timer of a response route fires -/
  | expireRequestOrigin (correlationId : String)
  /-- the bus cancels a request -/
  | cancelRequest (correlationId : String)
  /-- the bus routes a request to the clients -/
  | routeRequest (correlationId : String) (interestedClients : List Socket)
  /-- the next attempt of a routed request; whether the socket took the frame -/
  | attempt (route : ℕ) (sent : Bool)
  /-- a client's response arrives; whether it says that there was no handler -/
  | response (socket : Socket) (correlationId : String) (noHandler : Bool)
  /-- the timer of an attempt fires -/
  | timeoutAttempt (correlationId : String)
  /-- a client's broadcast arrives -/
  | clientBroadcast (socket : Socket) (correlationId : String) (targetClients : List Socket)
      (timeout : ℕ)
  /-- the bus broadcasts to the clients -/
  | serverBroadcast (correlationId : String) (targetClients : List Socket) (timeout : ℕ)
  /-- a client's broadcast response arrives -/
  | broadcastResponse (socket : Socket) (correlationId : String) (results : List R)
  /-- the node's results for a broadcast are in -/
  | nodeResults (correlationId : String) (results : List R) (error : Bool)
  /-- the timer of a broadcast fires -/
  | broadcastTimer (number : ℕ)
  /-- a socket closes -/
  | disconnect (socket : Socket)

namespace Exchange

variable {Filter R : Type}

/-- A server without clients. -/
def empty : Exchange Filter R where
  registry := .empty
  handling := []
  correlations := .empty
  routes := .empty
  nextRoute := 0
  aggregator := .empty
  log := []

def attemptCorrelationId (correlationId : String) (attempt : ℕ) : String :=
  correlationId ++ ":attempt-" ++ toString attempt

/-- An operation of the aggregator. -/
def aggregate (s : Exchange Filter R) (x : BroadcastAggregator R × List (BroadcastEvent R)) :
    Exchange Filter R :=
  { s with aggregator := x.1, log := s.log ++ x.2.map .broadcast }

/-- Send the response to a request the handlers were working on. -/
def respond (s : Exchange Filter R) (index : ℕ) (isReadyAndAuthenticated : Bool) :
    Option (Exchange Filter R) :=
  s.handling[index]?.map fun request =>
    let consumed := s.registry.consumeResponseClient request.2 fun _ => isReadyAndAuthenticated
    { s with
      registry := consumed.1
      handling := s.handling.eraseIdx index
      log := s.log ++ consumed.2.toList.map (.responded request.1 ·) }

/-- Send a routed request to the next client, and wait for it if the socket takes the frame. -/
def attempt (s : Exchange Filter R) (route : ℕ) (sent : Bool) : Option (Exchange Filter R) :=
  match s.routes.get? route with
  | some ⟨correlationId, target :: remaining, attempts, false⟩ =>
    let routes := s.routes.set route ⟨correlationId, remaining, attempts + 1, sent⟩
    some
      { s with
        routes := routes
        correlations :=
          if sent then s.correlations.set (attemptCorrelationId correlationId (attempts + 1))
            ⟨route, target⟩
          else s.correlations }
  -- every client was tried: there is no handler
  | some ⟨_, [], _, false⟩ => some { s with routes := s.routes.delete route }
  | _ => none

/-- The promise of an attempt is settled: the next client is tried, or the request is over. -/
def continueRoute (routes : OrderedMap ℕ RequestRoute) (route : ℕ) (retry : Bool) :
    OrderedMap ℕ RequestRoute :=
  match routes.get? route with
  | none => routes
  | some r => if retry then routes.set route { r with waiting := false } else routes.delete route

/-- Settle the attempt that is pending under an id. -/
def settle (s : Exchange Filter R) (correlationId : String) (retry : Bool)
    (events : PendingAttempt → List (ExchangeEvent R)) : Exchange Filter R :=
  match s.correlations.get? correlationId with
  | none => s
  | some pending =>
    { s with
      correlations := s.correlations.delete correlationId
      routes := continueRoute s.routes pending.route retry
      log := s.log ++ events pending }

def step (s : Exchange Filter R) : ExchangeAction R → Option (Exchange Filter R)
  | .request socket correlationId timeout => some
    { s with
      registry := s.registry.trackRequestOrigin socket correlationId timeout
      handling := s.handling ++ [(socket, correlationId)] }
  | .respond index isReadyAndAuthenticated => s.respond index isReadyAndAuthenticated
  | .expireRequestOrigin correlationId =>
    (s.registry.expireRequestOrigin correlationId).map fun registry => { s with registry := registry }
  | .cancelRequest correlationId =>
    let s := s.settle correlationId false fun _ => []
    some { s with registry := s.registry.cancelRequestOrigin correlationId }
  | .routeRequest correlationId interestedClients => some
    { s with
      routes := s.routes.set s.nextRoute ⟨correlationId, interestedClients, 0, false⟩
      nextRoute := s.nextRoute + 1 }
  | .attempt route sent => s.attempt route sent
  | .response socket correlationId noHandler =>
    some (s.settle correlationId noHandler fun pending => [.settled pending.target socket])
  | .timeoutAttempt correlationId => some (s.settle correlationId true fun _ => [])
  | .clientBroadcast socket correlationId targetClients timeout =>
    some (s.aggregate (s.aggregator.startClientBroadcast socket correlationId targetClients timeout))
  | .serverBroadcast correlationId targetClients timeout =>
    some (s.aggregate (s.aggregator.startServerBroadcast correlationId targetClients timeout))
  | .broadcastResponse socket correlationId results =>
    some (s.aggregate (s.aggregator.handleResponse socket correlationId results))
  | .nodeResults correlationId results error =>
    some (s.aggregate (s.aggregator.handleNodeResults correlationId results error))
  | .broadcastTimer number => (s.aggregator.timerFires number).map s.aggregate
  | .disconnect socket =>
    let s := s.aggregate (s.aggregator.handleClientDisconnect socket)
    some { s with registry := (s.registry.removeClient socket).1 }

/-! ### Isolation -/

end Exchange

/-- A response reaches the requester only, an attempt is settled by its target only, and broadcasts are
kept apart. -/
def ExchangeEvent.Isolated {R : Type} : ExchangeEvent R → Prop
  | .responded requester recipient => recipient = requester
  | .settled target responder => responder = target
  | .broadcast event => event.Isolated

namespace Exchange

variable {Filter R : Type}

/-- Nothing has passed between clients: not in what was seen so far, and not in the results collected
for the broadcasts in flight. -/
structure Isolated (s : Exchange Filter R) : Prop where
  log : ∀ e ∈ s.log, e.Isolated
  results : ∀ id pending, s.aggregator.pendingBroadcasts.get? id = some pending →
    ResultsFrom pending.targets pending.results

/-- A broadcast may be started under an id: no broadcast in flight under the id, and no running timer of
its kind, belongs to another starter. -/
def MayStart (a : BroadcastAggregator R) (owner : Option Socket) (correlationId : String) : Prop :=
  (∀ pending, a.pendingBroadcasts.get? correlationId = some pending → pending.kind.owner = owner) ∧
  ∀ number timer, a.timers.get? number = some timer → timer.correlationId = correlationId →
    owner.isSome = timer.owner.isSome → owner = timer.owner

/-- A step uses no correlation id of someone else. -/
def KeepsToOwnIds (s : Exchange Filter R) : ExchangeAction R → Prop
  /- an unanswered request, or a response route, under the id of a request is its sender's own -/
  | .request socket correlationId _ =>
    (∀ request ∈ s.handling, request.2 = correlationId → request.1 = socket) ∧
    ∀ origin, s.registry.getRequestOrigin correlationId = some origin → origin = socket
  /- a pending attempt under the id of a response was sent to its sender -/
  | .response socket correlationId _ =>
    ∀ pending, s.correlations.get? correlationId = some pending → socket = pending.target
  | .clientBroadcast socket correlationId _ _ => MayStart s.aggregator (some socket) correlationId
  | .serverBroadcast correlationId targetClients _ =>
    targetClients ≠ [] → MayStart s.aggregator none correlationId
  /- a broadcast in flight under the id of a broadcast response with results was sent to its sender,
  which has not answered it before -/
  | .broadcastResponse socket correlationId results =>
    ∀ pending, s.aggregator.pendingBroadcasts.get? correlationId = some pending → results ≠ [] →
      socket ∈ pending.targets ∧ socket ∉ pending.answered
  | _ => True

/-! ### Runs that keep to their own ids -/

/-- What holds as long as every step keeps to its own ids. -/
structure Inv (s : Exchange Filter R) : Prop where
  log : ∀ e ∈ s.log, e.Isolated
  aggregator : s.aggregator.Inv
  /-- The unanswered requests under one id have one sender. -/
  handling : ∀ x ∈ s.handling, ∀ y ∈ s.handling, x.2 = y.2 → x.1 = y.1
  /-- The response route of an unanswered request leads to its sender. -/
  origins : ∀ x ∈ s.handling, ∀ origin, s.registry.getRequestOrigin x.2 = some origin → origin = x.1

variable {s s' : Exchange Filter R}

lemma inv_empty : (empty : Exchange Filter R).Inv where
  log := fun e he => by cases he
  aggregator := BroadcastAggregator.inv_empty
  handling := fun x hx => by cases hx
  origins := fun x hx => by cases hx

lemma Inv.isolated (h : s.Inv) : s.Isolated := ⟨h.log, h.aggregator.results⟩

/-- A sound operation of the aggregator keeps the invariant. -/
lemma Inv.aggregate (h : s.Inv) {x : BroadcastAggregator R × List (BroadcastEvent R)}
    (hx : BroadcastAggregator.Sound x) : (s.aggregate x).Inv where
  log := fun e he => by
    rcases List.mem_append.mp he with he | he
    · exact h.log e he
    · obtain ⟨event, hevent, rfl⟩ := List.mem_map.mp he
      exact hx.2 event hevent
  aggregator := hx.1
  handling := h.handling
  origins := h.origins

/-- A registry that has recorded no other requesters keeps the invariant. -/
lemma Inv.registry (h : s.Inv) {registry : ClientRegistry Filter}
    (hregistry : ∀ id origin, registry.getRequestOrigin id = some origin →
      s.registry.getRequestOrigin id = some origin) : Inv { s with registry := registry } where
  log := h.log
  aggregator := h.aggregator
  handling := h.handling
  origins := fun x hx origin horigin => h.origins x hx origin (hregistry x.2 origin horigin)

variable {id : String} {origin : Socket} {timeout : ℤ} {index : ℕ} {e : ExchangeEvent R}

/-- A cancelled response route leaves the others as they were. -/
lemma getRequestOrigin_of_cancel {correlationId : String} {registry : ClientRegistry Filter}
    (h : (registry.cancelRequestOrigin correlationId).getRequestOrigin id = some origin) :
    registry.getRequestOrigin id = some origin := by
  rw [ClientRegistry.getRequestOrigin_cancelRequestOrigin] at h
  split_ifs at h
  exact h

variable {correlationId : String}

/-- Settling an attempt keeps the invariant if what is seen of it is in order. -/
lemma Inv.settle (h : s.Inv) {retry : Bool} {events : PendingAttempt → List (ExchangeEvent R)}
    (hevents : ∀ pending, s.correlations.get? correlationId = some pending → ∀ e ∈ events pending, e.Isolated) :
    (s.settle correlationId retry events).Inv := by
  rw [Exchange.settle]
  split
  · exact h
  · rename_i pending hget
    exact
      { log := fun e he => (List.mem_append.mp he).elim (h.log e) (hevents pending hget e)
        aggregator := h.aggregator
        handling := h.handling
        origins := h.origins }

variable {socket : Socket} {a : ExchangeAction R}

/-- A request that shares its id with nobody keeps the invariant. -/
lemma Inv.request (h : s.Inv) (hown : s.KeepsToOwnIds (.request socket correlationId timeout)) :
    Inv { s with
      registry := s.registry.trackRequestOrigin socket correlationId timeout
      handling := s.handling ++ [(socket, correlationId)] } where
  log := h.log
  aggregator := h.aggregator
  handling := by
    intro x hx y hy hid
    rcases List.mem_append.mp hx with hx | hx <;> rcases List.mem_append.mp hy with hy | hy
    · exact h.handling x hx y hy hid
    · rw [List.mem_singleton.mp hy] at hid ⊢
      exact hown.1 x hx hid
    · rw [List.mem_singleton.mp hx] at hid ⊢
      exact (hown.1 y hy hid.symm).symm
    · rw [List.mem_singleton.mp hx, List.mem_singleton.mp hy]
  origins := by
    intro x hx origin horigin
    rw [ClientRegistry.getRequestOrigin_trackRequestOrigin] at horigin
    have hx' : x ∈ s.handling ∨ x = (socket, correlationId) :=
      (List.mem_append.mp hx).imp_right List.mem_singleton.mp
    split_ifs at horigin with hid
    · have horigin' : origin = socket := by
        cases hold : s.registry.getRequestOrigin correlationId with
        | none =>
          rw [hold, Option.getD_none, Option.some.injEq] at horigin
          exact horigin.symm
        | some old =>
          rw [hold, Option.getD_some, Option.some.injEq] at horigin
          exact horigin ▸ hown.2 old hold
      rcases hx' with hx | rfl
      · exact horigin'.trans (hown.1 x hx hid).symm
      · exact horigin'
    · rcases hx' with hx | rfl
      · exact h.origins x hx origin horigin
      · exact absurd rfl hid

/-- A response of the handlers goes to the sender of the request. -/
lemma Inv.respond (h : s.Inv) {isReadyAndAuthenticated : Bool}
    (hs' : s.respond index isReadyAndAuthenticated = some s') : s'.Inv := by
  obtain ⟨request, hrequest, rfl⟩ := Option.map_eq_some_iff.mp hs'
  have hmem : request ∈ s.handling := List.mem_of_getElem? hrequest
  simp only [ClientRegistry.consumeResponseClient_eq]
  refine
    { log := fun e he => ?_
      aggregator := h.aggregator
      handling := fun x hx y hy => h.handling x (List.mem_of_mem_eraseIdx hx) y
        (List.mem_of_mem_eraseIdx hy)
      origins := fun x hx origin horigin => h.origins x (List.mem_of_mem_eraseIdx hx) origin
        (getRequestOrigin_of_cancel horigin) }
  rcases List.mem_append.mp he with he | he
  · exact h.log e he
  · obtain ⟨recipient, hrecipient, rfl⟩ := List.mem_map.mp he
    obtain ⟨horigin, -⟩ := Option.filter_eq_some_iff.mp (Option.mem_toList.mp hrecipient)
    exact h.origins request hmem recipient horigin

/-- An attempt leaves requests and broadcasts alone. -/
lemma Inv.attempt (h : s.Inv) {route : ℕ} {sent : Bool} (hs' : s.attempt route sent = some s') :
    s'.Inv := by
  rw [Exchange.attempt] at hs'
  split at hs'
  · cases hs'
    exact ⟨h.log, h.aggregator, h.handling, h.origins⟩
  · cases hs'
    exact ⟨h.log, h.aggregator, h.handling, h.origins⟩
  · cases hs'

/-- **A step that keeps to its own ids keeps the invariant.** -/
lemma Inv.step (h : s.Inv) (hown : s.KeepsToOwnIds a) (hs' : s.step a = some s') : s'.Inv := by
  cases a with
  | request socket correlationId timeout =>
    cases hs'
    exact h.request hown
  | respond index isReadyAndAuthenticated => exact h.respond hs'
  | expireRequestOrigin correlationId =>
    obtain ⟨registry, hregistry, rfl⟩ := Option.map_eq_some_iff.mp hs'
    rw [ClientRegistry.expireRequestOrigin_eq hregistry]
    exact h.registry fun id origin => getRequestOrigin_of_cancel
  | cancelRequest correlationId =>
    cases hs'
    have hsettled : (s.settle correlationId false fun _ => []).Inv :=
      h.settle fun _ _ e he => by cases he
    exact hsettled.registry fun id origin => getRequestOrigin_of_cancel
  | routeRequest correlationId interestedClients =>
    cases hs'
    exact ⟨h.log, h.aggregator, h.handling, h.origins⟩
  | attempt route sent => exact h.attempt hs'
  | response socket correlationId noHandler =>
    cases hs'
    refine h.settle fun pending hget e he => ?_
    rw [List.mem_singleton.mp he]
    exact hown pending hget
  | timeoutAttempt correlationId =>
    cases hs'
    exact h.settle fun _ _ e he => by cases he
  | clientBroadcast socket correlationId targetClients timeout =>
    cases hs'
    exact h.aggregate (h.aggregator.start hown.1 hown.2)
  | serverBroadcast correlationId targetClients timeout =>
    cases hs'
    refine h.aggregate ?_
    rw [BroadcastAggregator.startServerBroadcast]
    split_ifs with htargets
    · exact ⟨h.aggregator, fun e he => by cases he⟩
    · exact h.aggregator.start (hown htargets).1 (hown htargets).2
  | broadcastResponse socket correlationId results =>
    cases hs'
    exact h.aggregate (h.aggregator.handleResponse hown)
  | nodeResults correlationId results error =>
    cases hs'
    exact h.aggregate (h.aggregator.handleNodeResults correlationId results error)
  | broadcastTimer number =>
    obtain ⟨x, hx, rfl⟩ := Option.map_eq_some_iff.mp hs'
    exact h.aggregate (h.aggregator.timerFires hx)
  | disconnect socket =>
    cases hs'
    exact (h.aggregate (h.aggregator.handleClientDisconnect socket)).registry
      fun id origin => ClientRegistry.getRequestOrigin_removeClient

/-- The states of the runs that keep to their own ids. -/
abbrev OwnIdsReach (s : Exchange Filter R) : Prop := Reach (· = empty) step KeepsToOwnIds s

/-- The states reached from a given one, whatever ids are used. -/
abbrev ReachFrom (s : Exchange Filter R) : Exchange Filter R → Prop :=
  Reach (· = s) step fun _ _ => True

/-- Runs that keep to their own ids keep the invariant. -/
lemma OwnIdsReach.inv (h : OwnIdsReach s) : s.Inv :=
  h.invariant Inv (fun _ hempty => hempty ▸ inv_empty) fun _ _ _ hinv hown => hinv.step hown

/-! ### A step under an id of someone else -/

/-- A breach is reachable. -/
def BreachAhead (s : Exchange Filter R) : Prop := ∃ s', ReachFrom s s' ∧ ¬s'.Isolated

/-- A breach that is already there is ahead. -/
lemma BreachAhead.here (he : e ∈ s.log) (hbreach : ¬e.Isolated) : BreachAhead s :=
  ⟨s, .start rfl, fun h => hbreach (h.log e he)⟩

/-- A breach one step away is ahead. -/
lemma BreachAhead.next (hs' : s.step a = some s') (he : e ∈ s'.log) (hbreach : ¬e.Isolated) : BreachAhead s :=
  ⟨s', .next (.start rfl) trivial hs', fun h => hbreach (h.log e he)⟩

/-- A request in the handlers whose response route leads to another socket is a breach ahead. -/
lemma breachAhead_of_handling {request : Socket × String} (hrequest : s.handling[index]? = some request)
    (horigin : s.registry.getRequestOrigin request.2 = some origin) (hne : origin ≠ request.1) :
    BreachAhead s := by
  have hconsumed : (s.registry.consumeResponseClient request.2 fun _ => true).2 = some origin := by
    rw [ClientRegistry.consumeResponseClient_eq, horigin]
    rfl
  obtain ⟨s', hs', hlog⟩ : ∃ s', s.step (.respond index true) = some s' ∧
      .responded request.1 origin ∈ s'.log := by
    rw [Exchange.step, Exchange.respond, hrequest, Option.map_some]
    refine ⟨_, rfl, List.mem_append_right _ ?_⟩
    rw [hconsumed]
    exact List.mem_singleton_self _
  exact BreachAhead.next hs' hlog hne

/-- **A request under an id of someone else**: the answer to one of the two requests will go to the
other socket.

**Proof sketch.** If the response route was the other socket's, the new request will be answered to it;
otherwise the route is now the new sender's, and the other unanswered request will be answered to it. -/
lemma breachAhead_request (hs' : s.step (.request socket correlationId timeout) = some s')
    (hown : ¬s.KeepsToOwnIds (.request socket correlationId timeout)) : BreachAhead s' := by
  cases hs'
  have horigin := s.registry.getRequestOrigin_trackRequestOrigin socket correlationId timeout
    correlationId
  rw [if_pos rfl] at horigin
  by_cases hroute : ∀ origin, s.registry.getRequestOrigin correlationId = some origin →
      origin = socket
  · have hsocket : (s.registry.getRequestOrigin correlationId).getD socket = socket := by
      cases hold : s.registry.getRequestOrigin correlationId with
      | none => rfl
      | some origin => exact hroute origin hold
    rw [hsocket] at horigin
    obtain ⟨request, hmem, hid, hne⟩ :
        ∃ request ∈ s.handling, request.2 = correlationId ∧ request.1 ≠ socket := by
      by_contra hcontra
      push Not at hcontra
      exact hown ⟨hcontra, hroute⟩
    obtain ⟨index, hindex⟩ := List.mem_iff_getElem?.mp hmem
    have hlisted : (s.handling ++ [(socket, correlationId)])[index]? = some request :=
      (List.getElem?_append_left (List.getElem?_eq_some_iff.mp hindex).1).trans hindex
    subst hid
    exact breachAhead_of_handling hlisted horigin (Ne.symm hne)
  · push Not at hroute
    obtain ⟨origin, hold, hne⟩ := hroute
    rw [hold, Option.getD_some] at horigin
    have hlisted : (s.handling ++ [(socket, correlationId)])[s.handling.length]? =
        some (socket, correlationId) := by simp
    exact breachAhead_of_handling hlisted horigin hne

/-- Completion hands the results of a broadcast over, or leaves it in flight. -/
lemma checkBroadcastComplete_cases {a : BroadcastAggregator R} {pending : PendingBroadcast R}
    (hget : a.pendingBroadcasts.get? id = some pending) :
    a.checkBroadcastComplete id pending = (a, []) ∨
      (a.checkBroadcastComplete id pending).2 = [.aggregated pending.targets pending.results] := by
  have hfinalize (client : Bool) : BroadcastAggregator.finalize client a id = (a, []) ∨
      (BroadcastAggregator.finalize client a id).2 = [.aggregated pending.targets pending.results] := by
    rcases BroadcastAggregator.finalize_cases client a id with heq | ⟨pending', hget', heq⟩
    · exact .inl heq
    · rw [hget, Option.some.injEq] at hget'
      rw [heq, ← hget']
      exact .inr rfl
  rw [BroadcastAggregator.checkBroadcastComplete]
  split_ifs
  · exact .inl rfl
  · split
    · split_ifs
      · exact hfinalize true
      · exact .inl rfl
    · exact hfinalize false

/-- **A broadcast response of a socket that is not awaited**: its results are in the aggregate. -/
lemma breachAhead_broadcastResponse {results : List R}
    (hs' : s.step (.broadcastResponse socket correlationId results) = some s')
    (hown : ¬s.KeepsToOwnIds (.broadcastResponse socket correlationId results)) :
    BreachAhead s' := by
  cases hs'
  rw [KeepsToOwnIds] at hown
  push Not at hown
  obtain ⟨pending, hget, hresults, hstranger⟩ := hown
  obtain ⟨result, hresult⟩ := List.exists_mem_of_ne_nil results hresults
  have hbad : ¬ResultsFrom (BroadcastAggregator.answer pending socket results).targets
      (BroadcastAggregator.answer pending socket results).results := by
    intro hfrom
    have hmem : (ResultSource.client socket (pending.answered.count socket), result) ∈
        (BroadcastAggregator.answer pending socket results).results :=
      List.mem_append_right _ (List.mem_map.mpr ⟨result, hresult, rfl⟩)
    rcases hfrom _ hmem with h | ⟨target, htarget, h⟩
    · cases h
    · rw [ResultSource.client.injEq] at h
      exact List.count_eq_zero.mp h.2 (hstranger (h.1 ▸ htarget))
  rw [BroadcastAggregator.handleResponse, hget]
  dsimp only
  rcases checkBroadcastComplete_cases (OrderedMap.get?_set_self s.aggregator.pendingBroadcasts
    correlationId (BroadcastAggregator.answer pending socket results)) (a := { s.aggregator with
      pendingBroadcasts := s.aggregator.pendingBroadcasts.set correlationId
        (BroadcastAggregator.answer pending socket results) }) with heq | heq
  · refine ⟨_, .start rfl, fun h => hbad (h.results correlationId _ ?_)⟩
    rw [heq]
    exact OrderedMap.get?_set_self _ _ _
  · refine BreachAhead.here (e := .broadcast (.aggregated _ _)) ?_ hbad
    rw [aggregate, heq]
    exact List.mem_append_right _ (by simp)

/-- **A start under an id of someone else**: it takes the place of the other broadcast, or the other's
timer will end it. -/
lemma breachAhead_start (hinv : s.aggregator.Inv) {kind : BroadcastKind} {targets : List Socket} {timeout : ℕ}
    (hown : ¬MayStart s.aggregator kind.owner correlationId) :
    BreachAhead (s.aggregate (s.aggregator.start kind correlationId targets timeout)) := by
  by_cases hpending : ∀ pending, s.aggregator.pendingBroadcasts.get? correlationId = some pending →
      pending.kind.owner = kind.owner
  · obtain ⟨number, timer, htimer, hid, hkind, hne⟩ : ∃ number timer,
        s.aggregator.timers.get? number = some timer ∧ timer.correlationId = correlationId ∧
          kind.owner.isSome = timer.owner.isSome ∧ kind.owner ≠ timer.owner := by
      by_contra hcontra
      push Not at hcontra
      exact hown ⟨hpending, hcontra⟩
    have hkept : (s.aggregator.start kind correlationId targets timeout).1.timers.get? number =
        some timer := by
      rw [BroadcastAggregator.start]
      split_ifs
      · exact htimer
      · rw [OrderedMap.get?_set_of_ne _ _ (hinv.numbers number timer htimer).ne]
        exact htimer
    obtain ⟨x, hx, hevent⟩ : ∃ x,
        (s.aggregator.start kind correlationId targets timeout).1.timerFires number = some x ∧
          .timedOut kind.owner timer.owner ∈ x.2 := by
      rw [BroadcastAggregator.timerFires, hkept, Option.map_some]
      refine ⟨_, rfl, List.mem_append_right _ ?_⟩
      rw [BroadcastAggregator.start]
      rw [hid, OrderedMap.get?_set_self]
      dsimp only [BroadcastAggregator.sent]
      rw [if_pos hkind]
      exact List.mem_singleton_self _
    have hstep : (s.aggregate (s.aggregator.start kind correlationId targets timeout)).step
        (.broadcastTimer number) =
          some ((s.aggregate (s.aggregator.start kind correlationId targets timeout)).aggregate x) := by
      rw [Exchange.step, aggregate]
      rw [hx, Option.map_some]
    exact BreachAhead.next hstep (List.mem_append_right _ (List.mem_map_of_mem hevent)) hne
  · push Not at hpending
    obtain ⟨pending, hget, hne⟩ := hpending
    refine BreachAhead.here (e := .broadcast (.replaced pending.kind.owner kind.owner)) ?_ hne
    refine List.mem_append_right _ (List.mem_map.mpr ⟨_, ?_, rfl⟩)
    rw [BroadcastAggregator.start, hget]
    exact List.mem_singleton_self _

/-- **A step under an id of someone else puts a breach ahead.** -/
lemma breachAhead_step (hinv : s.Inv) (hs' : s.step a = some s') (hown : ¬s.KeepsToOwnIds a) :
    BreachAhead s' := by
  cases a with
  | request socket correlationId timeout => exact breachAhead_request hs' hown
  | response socket correlationId noHandler =>
    cases hs'
    rw [KeepsToOwnIds] at hown
    push Not at hown
    obtain ⟨pending, hget, hne⟩ := hown
    refine BreachAhead.here (e := .settled pending.target socket) ?_ hne
    rw [settle, hget]
    exact List.mem_append_right _ (List.mem_singleton_self _)
  | clientBroadcast socket correlationId targetClients timeout =>
    cases hs'
    exact breachAhead_start hinv.aggregator hown
  | serverBroadcast correlationId targetClients timeout =>
    cases hs'
    rw [KeepsToOwnIds, Classical.not_imp] at hown
    rw [BroadcastAggregator.startServerBroadcast, if_neg hown.1]
    exact breachAhead_start hinv.aggregator hown.2
  | broadcastResponse socket correlationId results => exact breachAhead_broadcastResponse hs' hown
  | respond | expireRequestOrigin | cancelRequest | routeRequest | attempt | timeoutAttempt
  | nodeResults | broadcastTimer | disconnect => exact absurd trivial hown

end Exchange

/-- **Responses and broadcasts are isolated exactly as long as every step keeps to its own ids**: in a
run all of whose requests, responses, broadcasts and broadcast responses do, a response is written only
to the requester, an attempt is settled only by its target, an aggregate has only results of the node and
of the targets' first responses, and no start replaces or ends a broadcast of another starter; and after
the first step that does not, a breach is reachable. -/
theorem exchange_isolated_iff {Filter R : Type} :
    (∀ s : Exchange Filter R, Exchange.OwnIdsReach s → s.Isolated) ∧
    ∀ (s : Exchange Filter R) (a : ExchangeAction R) (s' : Exchange Filter R),
      Exchange.OwnIdsReach s → s.step a = some s' → ¬s.KeepsToOwnIds a →
      ∃ s'', Exchange.ReachFrom s' s'' ∧ ¬s''.Isolated :=
  ⟨fun _ hs => (Exchange.OwnIdsReach.inv hs).isolated,
    fun _ _ _ hs hs' hown => Exchange.breachAhead_step (Exchange.OwnIdsReach.inv hs) hs' hown⟩

/-- Sockets 1 and 2 send requests under one id; the handlers answer the second one first. -/
def sharedId : List (ExchangeAction Unit) :=
  [.request 1 "req-1" 5000, .request 2 "req-1" 5000, .respond 1 true]

/-- **Two clients with one id**: the response to the second one's request is written to the first. -/
theorem shared_id_misroutes : ¬∀ s : Exchange Unit Unit,
    Exchange.ReachFrom Exchange.empty s → s.Isolated := by
  intro h
  obtain ⟨s, hs, hlog⟩ : ∃ s : Exchange Unit Unit,
      runGuarded Exchange.step (fun _ _ => True) Exchange.empty sharedId = some s ∧
        .responded 2 1 ∈ s.log := ⟨_, rfl, List.mem_singleton_self _⟩
  have hreach : Exchange.ReachFrom Exchange.empty s :=
    Reach.of_runGuarded sharedId (.start rfl) hs
  exact absurd (show (1 : ℕ) = 2 from (h s hreach).log _ hlog) (by decide)

/-- The server after the first of the two requests. -/
def firstOfSharedId : Exchange Unit Unit :=
  { (Exchange.empty : Exchange Unit Unit) with
    registry := ClientRegistry.empty.trackRequestOrigin 1 "req-1" 5000
    handling := [(1, "req-1")] }

/-- The condition at the requests that share an id: the first one keeps to its own id, the second one
puts a breach ahead. -/
theorem exchange_isolated_iff_sharedId : firstOfSharedId.Isolated ∧
    ∃ s' s'', firstOfSharedId.step (.request 2 "req-1" 5000) = some s' ∧
      Exchange.ReachFrom s' s'' ∧ ¬s''.Isolated := by
  have hown : (Exchange.empty : Exchange Unit Unit).KeepsToOwnIds (.request 1 "req-1" 5000) := by
    refine ⟨fun request h => ?_, fun origin h => ?_⟩
    · cases h
    · cases h
  have hfirst : Exchange.OwnIdsReach firstOfSharedId := .next (.start rfl) hown rfl
  have hshared : ¬firstOfSharedId.KeepsToOwnIds (.request 2 "req-1" 5000) := fun h =>
    absurd (show (1 : ℕ) = 2 from h.1 (1, "req-1") (List.mem_singleton_self _) rfl) (by decide)
  obtain ⟨s'', hs'', hbreach⟩ := exchange_isolated_iff.2 _ _ _ hfirst rfl hshared
  exact ⟨exchange_isolated_iff.1 _ hfirst, _, s'', rfl, hs'', hbreach⟩

end Makaio.Server
