import Makaio.Bus.RemoteSubscriptions
import Makaio.Foundations.PriorityOrder

set_option autoImplicit false

/-!
# The client registry of the WebSocket server

What the server keeps per connected socket (`client-registry.ts`): the sockets themselves, the subjects
each of them subscribes to with their priorities, delivery classes and payload filters, and the sockets
that wait for the response to a request.  A change of a client's subscriptions produces the aggregate of
the subjects it names over all clients, as one subscribe and one unsubscribe message.

## Main definitions

* `ClientRegistry` — the registry.
* `addClient`, `removeClient`, `handleSubscribeMessage`, `handleUnsubscribeMessage` — its operations.
* `ClientRegistry.aggregateOf` — the aggregate of one subject.
* `ClientRegistry.buildAggregateUpdates` — the updates of the affected subjects.

## Main results

* `stateOf_handleSubscribeMessage`, `stateOf_handleUnsubscribeMessage`, `stateOf_removeClient` — what
  the operations do to the subscriptions of every client.
* `aggregateOf_eq_none_iff`, `mem_priorities_of_aggregateOf`, `relayable_of_aggregateOf_iff` — what the
  aggregate says about the clients.
-/

namespace Makaio.Server

open Foundations Bus

/-- A WebSocket, by the identity of its object. -/
abbrev Socket := ℕ

/-- What a client advertised for one subject. -/
structure ClientSubscriptionState where
  priorities : List ℤ
  deliveryClass : SubscriptionDeliveryClass

structure ClientSubscribeMessage (Filter : Type) extends BusSubscribeMessage where
  filters : OrderedMap Key Filter

/-- The socket that waits for the response to a request, and whether a timer removes the entry. -/
structure RequestOrigin where
  socket : Socket
  expires : Bool

/-- Transport-level subscription updates produced after per-client state changes. -/
inductive ClientSubscriptionUpdate
  | subscribe (message : BusSubscribeMessage)
  | unsubscribe (message : BusUnsubscribeMessage)

structure ClientRegistry (Filter : Type) where
  /-- The connected sockets, in connection order. -/
  clients : List Socket
  clientsByConnectionId : OrderedMap String Socket
  /-- The sockets whose handshake has not succeeded. -/
  authenticatingClients : List Socket
  clientSubscriptions : OrderedMap Socket (List Key)
  clientSubscriptionState : OrderedMap Socket (OrderedMap Key ClientSubscriptionState)
  clientFilters : OrderedMap Socket (OrderedMap Key Filter)
  /-- The requesters, by correlation id. -/
  requestOrigins : OrderedMap String RequestOrigin

namespace ClientRegistry

variable {Filter : Type}

/-- A registry without sockets. -/
def empty : ClientRegistry Filter where
  clients := []
  clientsByConnectionId := .empty
  authenticatingClients := []
  clientSubscriptions := .empty
  clientSubscriptionState := .empty
  clientFilters := .empty
  requestOrigins := .empty

/-! ### The aggregate of a subject -/

/-- What a client advertised for a subject. -/
def stateOf (r : ClientRegistry Filter) (client : Socket) (subject : Key) :
    Option ClientSubscriptionState :=
  (r.clientSubscriptionState.get? client).bind fun subscriptions => subscriptions.get? subject

/-- What the clients advertised for a subject. -/
def statesOf (r : ClientRegistry Filter) (subject : Key) : List ClientSubscriptionState :=
  r.clientSubscriptionState.values.filterMap fun subscriptions => subscriptions.get? subject

/-- The aggregate of a subject: the union of the priorities in descending order, relayable only if it
is for every client; none without a subscription. -/
def aggregateOf (r : ClientRegistry Filter) (subject : Key) : Option ClientSubscriptionState :=
  match r.statesOf subject with
  | [] => none
  | state :: states => some
    { priorities := sortDesc id ((state :: states).flatMap fun state => state.priorities).dedup
      deliveryClass :=
        if (state :: states).any fun state => state.deliveryClass = .firstHopOnly then .firstHopOnly
        else .relayable }

/-- The subjects that can be members of a record: assigned to `__proto__`, a list becomes the prototype of
the record, and a text nothing. -/
def memberKeys (subjects : List Key) : List Key := subjects.filter (· ≠ "__proto__")

/-- The affected subjects that some client still holds, with their aggregates. -/
def heldSubjects (r : ClientRegistry Filter) (affectedSubjects : List Key) :
    List (Key × ClientSubscriptionState) :=
  affectedSubjects.filterMap fun subject => (r.aggregateOf subject).map fun state => (subject, state)

/-- The affected subjects that no client holds any more. -/
def removedSubjects (r : ClientRegistry Filter) (affectedSubjects : List Key) : List Key :=
  affectedSubjects.filter fun subject => (r.aggregateOf subject).isNone

/-- The replacement of the subjects that are still held. -/
def aggregateMessage (r : ClientRegistry Filter) (affectedSubjects : List Key) :
    BusSubscribeMessage where
  subjects := (r.heldSubjects affectedSubjects).foldl (fun m e => m.set e.1 e.2.priorities) .empty
  deliveryClasses :=
    (r.heldSubjects affectedSubjects).foldl (fun m e => m.set e.1 e.2.deliveryClass.text) .empty

/-- Build authoritative transport-level control updates for affected subjects. -/
def buildAggregateUpdates (r : ClientRegistry Filter) (affectedSubjects : List Key) :
    List ClientSubscriptionUpdate :=
  let members := memberKeys affectedSubjects
  (if r.heldSubjects members = [] then [] else [.subscribe (r.aggregateMessage members)]) ++
  (if r.removedSubjects members = [] then [] else [.unsubscribe ⟨r.removedSubjects members⟩])

/-! ### The lifecycle of a client -/

/-- Mark a socket as being in the authentication phase. -/
def addAuthenticating (r : ClientRegistry Filter) (socket : Socket) : ClientRegistry Filter :=
  { r with authenticatingClients := r.authenticatingClients.insert socket }

/-- Remove a socket from the authentication-phase set. -/
def removeAuthenticating (r : ClientRegistry Filter) (socket : Socket) : ClientRegistry Filter :=
  { r with authenticatingClients := r.authenticatingClients.filter (· ≠ socket) }

/-- Whether a socket is still in the authentication phase. -/
def isAuthenticating (r : ClientRegistry Filter) (socket : Socket) : Bool :=
  socket ∈ r.authenticatingClients

/-- Add a fully authenticated socket to the connected clients. -/
def addClient (r : ClientRegistry Filter) (socket : Socket) (connectionId : Option String) :
    ClientRegistry Filter :=
  { r with
    clients := if socket ∈ r.clients then r.clients else r.clients ++ [socket]
    clientsByConnectionId := match connectionId with
      | none => r.clientsByConnectionId
      | some id => r.clientsByConnectionId.set id socket }

/-- Remove a socket from all tracking maps and sets, with the updates this produces. -/
def removeClient (r : ClientRegistry Filter) (socket : Socket) :
    ClientRegistry Filter × List ClientSubscriptionUpdate :=
  let affectedSubjects := ((r.clientSubscriptionState.get? socket).map OrderedMap.keys).getD []
  let r' : ClientRegistry Filter :=
    { r with
      clients := r.clients.filter (· ≠ socket)
      clientsByConnectionId := (r.clientsByConnectionId.entries.filter fun e => e.2 = socket).foldl
        (fun m e => m.delete e.1) r.clientsByConnectionId
      authenticatingClients := r.authenticatingClients.filter (· ≠ socket)
      clientSubscriptions := r.clientSubscriptions.delete socket
      clientSubscriptionState := r.clientSubscriptionState.delete socket
      clientFilters := r.clientFilters.delete socket
      requestOrigins := (r.requestOrigins.entries.filter fun e => e.2.socket = socket).foldl
        (fun m e => m.delete e.1) r.requestOrigins }
  (r', r'.buildAggregateUpdates affectedSubjects)

/-! ### Subscription management -/

/-- The payload filters of a client after a subscribe message: a subject without a filter in the
message loses the one it had. -/
def updateFilters (filters : Option (OrderedMap Key Filter)) (message : ClientSubscribeMessage Filter) :
    Option (OrderedMap Key Filter) :=
  message.subjects.keys.foldl (fun filters subject =>
    match message.filters.get? subject with
    | some newFilter => some ((filters.getD .empty).set subject newFilter)
    | none => filters.map fun f => f.delete subject) filters

/-- Apply a subscribe message to the per-client tracking state. -/
def handleSubscribeMessage (r : ClientRegistry Filter) (client : Socket)
    (message : ClientSubscribeMessage Filter) :
    ClientRegistry Filter × List ClientSubscriptionUpdate :=
  let subs := (r.clientSubscriptions.get? client).getD []
  let subscriptionState := (r.clientSubscriptionState.get? client).getD .empty
  let r' : ClientRegistry Filter :=
    { r with
      clientSubscriptions := r.clientSubscriptions.set client
        (message.subjects.keys.foldl (fun subs subject =>
          if subject ∈ subs then subs else subs ++ [subject]) subs)
      clientSubscriptionState := r.clientSubscriptionState.set client
        (message.subjects.entries.foldl (fun m e => m.set e.1
          { priorities := e.2
            deliveryClass := normalizeSubscriptionDeliveryClass (message.deliveryClasses.get? e.1) })
          subscriptionState)
      clientFilters := match updateFilters (r.clientFilters.get? client) message with
        | none => r.clientFilters
        | some filters => r.clientFilters.set client filters }
  (r', r'.buildAggregateUpdates message.subjects.keys)

/-- Apply an unsubscribe message to the per-client tracking state. -/
def handleUnsubscribeMessage (r : ClientRegistry Filter) (client : Socket) (subjects : List Key) :
    ClientRegistry Filter × List ClientSubscriptionUpdate :=
  let r' : ClientRegistry Filter :=
    { r with
      clientSubscriptions := match r.clientSubscriptions.get? client with
        | none => r.clientSubscriptions
        | some subs => r.clientSubscriptions.set client (subs.filter (· ∉ subjects))
      clientSubscriptionState := match r.clientSubscriptionState.get? client with
        | none => r.clientSubscriptionState
        | some states => r.clientSubscriptionState.set client
            (subjects.foldl (fun m subject => m.delete subject) states)
      clientFilters := match r.clientFilters.get? client with
        | none => r.clientFilters
        | some filters => r.clientFilters.set client
            (subjects.foldl (fun m subject => m.delete subject) filters) }
  (r', r'.buildAggregateUpdates subjects)

/-! ### The sockets that wait for a response -/

/-- Associate an accepted inbound request with its requesting socket; an id that is in use keeps its
socket.  A positive timeout arms a timer that removes the entry. -/
def trackRequestOrigin (r : ClientRegistry Filter) (socket : Socket) (correlationId : String)
    (timeout : ℤ) : ClientRegistry Filter :=
  if r.requestOrigins.has correlationId then r
  else
    { r with
      requestOrigins := r.requestOrigins.set correlationId
        { socket := socket, expires := decide (0 < timeout) } }

/-- Read the requesting socket without consuming its response route. -/
def getRequestOrigin (r : ClientRegistry Filter) (correlationId : String) : Option Socket :=
  (r.requestOrigins.get? correlationId).map RequestOrigin.socket

/-- Consume the requesting socket for a correlated response. -/
def consumeResponseClient (r : ClientRegistry Filter) (correlationId : String)
    (isReadyAndAuthenticated : Socket → Bool) : ClientRegistry Filter × Option Socket :=
  match r.requestOrigins.get? correlationId with
  | none => (r, none)
  | some origin =>
    ({ r with requestOrigins := r.requestOrigins.delete correlationId },
      if isReadyAndAuthenticated origin.socket then some origin.socket else none)

/-- Remove the response route of a cancelled request. -/
def cancelRequestOrigin (r : ClientRegistry Filter) (correlationId : String) : ClientRegistry Filter :=
  { r with requestOrigins := r.requestOrigins.delete correlationId }

/-- The timer of a response route fires. -/
def expireRequestOrigin (r : ClientRegistry Filter) (correlationId : String) :
    Option (ClientRegistry Filter) :=
  match r.requestOrigins.get? correlationId with
  | some ⟨_, true⟩ => some (r.cancelRequestOrigin correlationId)
  | _ => none

section RequestOrigins

variable {r r' : ClientRegistry Filter} {correlationId : String}

/-- The requester recorded under an id after a request came in. -/
lemma getRequestOrigin_trackRequestOrigin (r : ClientRegistry Filter) (socket : Socket)
    (correlationId : String) (timeout : ℤ) (id : String) :
    (r.trackRequestOrigin socket correlationId timeout).getRequestOrigin id =
      if id = correlationId then some ((r.getRequestOrigin correlationId).getD socket)
      else r.getRequestOrigin id := by
  rw [trackRequestOrigin]
  split_ifs with hhas hid hid'
  · obtain ⟨origin, horigin⟩ := OrderedMap.has_iff.mp hhas
    rw [hid, getRequestOrigin, horigin]
    rfl
  · rfl
  · have hnone : r.requestOrigins.get? correlationId = none := by
      rw [Option.eq_none_iff_forall_ne_some]
      exact fun origin h => hhas (OrderedMap.has_iff.mpr ⟨origin, h⟩)
    rw [getRequestOrigin, getRequestOrigin, hnone, hid']
    rw [OrderedMap.get?_set_self]
    rfl
  · rw [getRequestOrigin, getRequestOrigin]
    rw [OrderedMap.get?_set_of_ne _ _ hid']

/-- Cancelling a response route drops the requester under that id only. -/
lemma getRequestOrigin_cancelRequestOrigin (id : String) :
    (r.cancelRequestOrigin correlationId).getRequestOrigin id =
      if id = correlationId then none else r.getRequestOrigin id := by
  rw [cancelRequestOrigin, getRequestOrigin, getRequestOrigin]
  rw [OrderedMap.get?_delete]
  split_ifs <;> rfl

/-- A consumed response goes to the requester recorded under its id, whose route is over. -/
lemma consumeResponseClient_eq (isReadyAndAuthenticated : Socket → Bool) :
    r.consumeResponseClient correlationId isReadyAndAuthenticated =
      (r.cancelRequestOrigin correlationId,
        (r.getRequestOrigin correlationId).filter isReadyAndAuthenticated) := by
  rw [consumeResponseClient, cancelRequestOrigin, getRequestOrigin]
  cases h : r.requestOrigins.get? correlationId with
  | none =>
    have hdelete : r.requestOrigins.delete correlationId = r.requestOrigins := by
      refine OrderedMap.eq_of_entries (List.filter_eq_self.mpr fun e he => ?_)
      have hne : e.1 ≠ correlationId := fun heq => by
        rw [← heq, OrderedMap.mem_entries_iff.mp (show (e.1, e.2) ∈ _ from he)] at h
        cases h
      simpa using hne
    rw [hdelete]
    rfl
  | some origin =>
    rw [Option.map_some, Option.filter_some]

/-- An expired response route was recorded, and it is dropped. -/
lemma expireRequestOrigin_eq (h : r.expireRequestOrigin correlationId = some r') :
    r' = r.cancelRequestOrigin correlationId := by
  rw [expireRequestOrigin] at h
  split at h
  · exact (Option.some.inj h).symm
  · cases h

/-- A requester that is still recorded after a client was removed was recorded before. -/
lemma getRequestOrigin_removeClient {socket client : Socket} {id : String}
    (h : (r.removeClient client).1.getRequestOrigin id = some socket) :
    r.getRequestOrigin id = some socket := by
  rw [removeClient, getRequestOrigin] at h
  rw [OrderedMap.get?_foldl_delete_filter] at h
  obtain ⟨origin, horigin, hsocket⟩ := Option.map_eq_some_iff.mp h
  obtain ⟨horigin, -⟩ := Option.filter_eq_some_iff.mp horigin
  rw [getRequestOrigin, horigin, Option.map_some, hsocket]

end RequestOrigins

/-! ### The subscriptions of every client -/

section Subscriptions

variable {r : ClientRegistry Filter}

/-- Lookup of a subject among subscriptions that may not exist yet. -/
private lemma get?_getD_empty (m : Option (OrderedMap Key ClientSubscriptionState)) (subject : Key) :
    (m.getD .empty).get? subject = m.bind fun subscriptions => subscriptions.get? subject := by
  cases m <;> rfl

/-- A subscribe message replaces what its sender advertised for the subjects it names. -/
theorem stateOf_handleSubscribeMessage (client : Socket) (message : ClientSubscribeMessage Filter)
    (c : Socket) (subject : Key) :
    (r.handleSubscribeMessage client message).1.stateOf c subject =
      if c = client ∧ subject ∈ message.subjects.keys then
        (message.subjects.get? subject).map fun priorities =>
          { priorities := priorities
            deliveryClass :=
              normalizeSubscriptionDeliveryClass (message.deliveryClasses.get? subject) }
      else r.stateOf c subject := by
  rw [handleSubscribeMessage, stateOf, stateOf]
  rw [OrderedMap.get?_set]
  by_cases hc : c = client
  · subst hc
    rw [if_pos rfl, Option.bind_some,
      OrderedMap.get?_foldl_set Prod.fst _ (fun k => (message.subjects.get? k).map fun priorities =>
        ({ priorities := priorities
           deliveryClass := normalizeSubscriptionDeliveryClass (message.deliveryClasses.get? k) } :
          ClientSubscriptionState)) _ (fun e he => by
        rw [OrderedMap.mem_entries_iff.mp (show (e.1, e.2) ∈ _ from he), Option.map_some]),
      get?_getD_empty]
    by_cases hs : subject ∈ message.subjects.keys
    · rw [if_pos (show subject ∈ message.subjects.entries.map Prod.fst from hs), if_pos ⟨rfl, hs⟩]
    · rw [if_neg (show ¬subject ∈ message.subjects.entries.map Prod.fst from hs),
        if_neg fun h => hs h.2]
  · rw [if_neg hc, if_neg fun h => hc h.1]

/-- An unsubscribe message withdraws what its sender advertised for the subjects it names. -/
theorem stateOf_handleUnsubscribeMessage (client : Socket) (subjects : List Key) (c : Socket)
    (subject : Key) :
    (r.handleUnsubscribeMessage client subjects).1.stateOf c subject =
      if c = client ∧ subject ∈ subjects then none else r.stateOf c subject := by
  rw [handleUnsubscribeMessage, stateOf, stateOf]
  cases hstates : r.clientSubscriptionState.get? client with
  | none =>
    split_ifs with h
    · rw [h.1, hstates, Option.bind_none]
    · rfl
  | some states =>
    rw [OrderedMap.get?_set]
    by_cases hc : c = client
    · subst hc
      have hdelete := OrderedMap.get?_foldl_delete (fun k : Key => k) subjects states subject
      rw [List.map_id'] at hdelete
      rw [if_pos rfl, Option.bind_some, hdelete, hstates, Option.bind_some]
      by_cases hs : subject ∈ subjects
      · rw [if_pos hs, if_pos ⟨rfl, hs⟩]
      · rw [if_neg hs, if_neg fun h => hs h.2]
    · rw [if_neg hc, if_neg fun h => hc h.1]

/-- A client that is removed advertises nothing any more. -/
theorem stateOf_removeClient (socket c : Socket) (subject : Key) :
    (r.removeClient socket).1.stateOf c subject = if c = socket then none else r.stateOf c subject := by
  rw [removeClient, stateOf, stateOf]
  rw [OrderedMap.get?_delete]
  split_ifs <;> rfl

/-- The subjects a removed client is known to have advertised are the ones it did advertise. -/
lemma mem_affectedSubjects_iff {socket : Socket} {subject : Key} :
    subject ∈ ((r.clientSubscriptionState.get? socket).map OrderedMap.keys).getD [] ↔
      (r.stateOf socket subject).isSome := by
  rw [stateOf]
  cases r.clientSubscriptionState.get? socket with
  | none => simp
  | some states =>
    simp only [Option.map_some, Option.getD_some, Option.bind_some, OrderedMap.mem_keys_iff,
      Option.isSome_iff_exists]

end Subscriptions

/-! ### What the aggregate says about the clients -/

section Aggregate

variable {r : ClientRegistry Filter} {subject : Key}

/-- The states of a subject are those of the clients. -/
lemma mem_statesOf_iff {state : ClientSubscriptionState} :
    state ∈ r.statesOf subject ↔ ∃ c, r.stateOf c subject = some state := by
  simp only [statesOf, List.mem_filterMap, OrderedMap.mem_values_iff, stateOf,
    Option.bind_eq_some_iff]
  constructor
  · rintro ⟨subscriptions, ⟨c, hc⟩, h⟩
    exact ⟨c, subscriptions, hc, h⟩
  · rintro ⟨c, subscriptions, hc, h⟩
    exact ⟨subscriptions, ⟨c, hc⟩, h⟩

variable {e : ClientSubscriptionState}

/-- The aggregate in one equation. -/
private lemma aggregateOf_eq_some (h : r.aggregateOf subject = some e) :
    r.statesOf subject ≠ [] ∧
      e.priorities = sortDesc id ((r.statesOf subject).flatMap fun state => state.priorities).dedup ∧
      e.deliveryClass = if (r.statesOf subject).any fun state => state.deliveryClass = .firstHopOnly
        then .firstHopOnly else .relayable := by
  rw [aggregateOf] at h
  split at h
  · cases h
  · rename_i state states hstates
    rw [Option.some.injEq] at h
    subst h
    rw [hstates]
    exact ⟨by simp, rfl, rfl⟩

/-- A subject has no aggregate exactly when no client subscribes to it. -/
theorem aggregateOf_eq_none_iff : r.aggregateOf subject = none ↔ ∀ c, r.stateOf c subject = none := by
  have hnil : r.aggregateOf subject = none ↔ r.statesOf subject = [] := by
    rw [aggregateOf]
    split <;> simp_all
  rw [hnil, List.eq_nil_iff_forall_not_mem]
  simp only [mem_statesOf_iff, Option.eq_none_iff_forall_ne_some]
  exact ⟨fun h c state hs => h state ⟨c, hs⟩, fun h state ⟨c, hs⟩ => h c state hs⟩

/-- The priorities of the aggregate are those of the clients. -/
theorem mem_priorities_of_aggregateOf (h : r.aggregateOf subject = some e) {priority : ℤ} :
    priority ∈ e.priorities ↔
      ∃ c state, r.stateOf c subject = some state ∧ priority ∈ state.priorities := by
  rw [(aggregateOf_eq_some h).2.1, mem_sortDesc, List.mem_dedup, List.mem_flatMap]
  simp only [mem_statesOf_iff]
  exact ⟨fun ⟨state, ⟨c, hc⟩, hp⟩ => ⟨c, state, hc, hp⟩, fun ⟨c, state, hc, hp⟩ => ⟨state, ⟨c, hc⟩, hp⟩⟩

/-- The priorities of the aggregate descend strictly. -/
theorem descending_of_aggregateOf (h : r.aggregateOf subject = some e) : e.priorities.Pairwise (· > ·) := by
  have hnodup : e.priorities.Nodup := by
    rw [(aggregateOf_eq_some h).2.1]
    exact (sortDesc_perm _).nodup_iff.mpr (List.nodup_dedup _)
  have hdesc : e.priorities.Pairwise fun a b => id b ≤ id a := by
    rw [(aggregateOf_eq_some h).2.1]
    exact descending_sortDesc _
  exact (hdesc.and hnodup).imp fun ⟨hle, hne⟩ => lt_of_le_of_ne hle (Ne.symm hne)

/-- The aggregate is relayable exactly when it is so for all clients. -/
theorem relayable_of_aggregateOf_iff (h : r.aggregateOf subject = some e) :
    e.deliveryClass = .relayable ↔
      ∀ c state, r.stateOf c subject = some state → state.deliveryClass = .relayable := by
  have hclass (state : ClientSubscriptionState) :
      state.deliveryClass = .relayable ↔ ¬state.deliveryClass = .firstHopOnly := by
    cases state.deliveryClass <;> simp
  rw [(aggregateOf_eq_some h).2.2]
  split_ifs with hany
  · obtain ⟨state, hmem, hstate⟩ := List.any_eq_true.mp hany
    obtain ⟨c, hc⟩ := mem_statesOf_iff.mp hmem
    refine ⟨fun hcontra => (by cases hcontra), fun hall => ?_⟩
    exact absurd (by simpa using hstate) ((hclass state).mp (hall c state hc))
  · refine ⟨fun _ c state hc => (hclass state).mpr fun hstate => hany ?_, fun _ => rfl⟩
    exact List.any_eq_true.mpr ⟨state, mem_statesOf_iff.mpr ⟨c, hc⟩, by simpa using hstate⟩

/-- The aggregate depends on what the clients advertised for the subject, and on nothing else.

**Proof sketch.** Strictly descending lists with the same members are equal, and a delivery class is
determined by whether it is relayable. -/
theorem aggregateOf_congr {r' : ClientRegistry Filter}
    (h : ∀ c, r.stateOf c subject = r'.stateOf c subject) :
    r.aggregateOf subject = r'.aggregateOf subject := by
  cases he : r.aggregateOf subject with
  | none =>
    rw [aggregateOf_eq_none_iff] at he
    exact (aggregateOf_eq_none_iff.mpr fun c => (h c).symm.trans (he c)).symm
  | some e =>
    cases he' : r'.aggregateOf subject with
    | none =>
      rw [aggregateOf_eq_none_iff] at he'
      rw [aggregateOf_eq_none_iff.mpr fun c => (h c).trans (he' c)] at he
      cases he
    | some e' =>
      have hpriorities : e.priorities = e'.priorities := by
        refine List.Perm.eq_of_pairwise (fun a b _ _ hab hba => absurd hab (lt_asymm hba))
          (descending_of_aggregateOf he) (descending_of_aggregateOf he') ?_
        refine (List.perm_ext_iff_of_nodup ((descending_of_aggregateOf he).imp ne_of_gt)
          ((descending_of_aggregateOf he').imp ne_of_gt)).mpr fun priority => ?_
        rw [mem_priorities_of_aggregateOf he, mem_priorities_of_aggregateOf he']
        simp only [h]
      have hrelayable : e.deliveryClass = .relayable ↔ e'.deliveryClass = .relayable := by
        rw [relayable_of_aggregateOf_iff he, relayable_of_aggregateOf_iff he']
        simp only [h]
      have hclass : e.deliveryClass = e'.deliveryClass := by
        cases hd : e.deliveryClass <;> cases hd' : e'.deliveryClass <;> simp_all
      cases e
      cases e'
      simp_all

end Aggregate

end ClientRegistry

end Makaio.Server
