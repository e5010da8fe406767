import Makaio.Bus.HandlerMap
import Makaio.Bus.NamespaceRegistry

set_option autoImplicit false

/-!
# The bus context

The state one bus works on (`types/bus.ts`): its own handlers, what its peers advertised, the
subjects of its registered namespaces, and its transports.  The peers' advertisements are kept per
subject key in three maps: request routes with their priorities, transports with event handlers
only, and the delivery class each transport declared for the key.

## Main definitions

* `BusContext` — the state.
* `getMatchingRemoteEntries` — the routes advertised for a concrete subject.

## Main results

* `mem_getMatchingRemoteEntries` — which routes are found.
* `nodup_getMatchingRemoteEntries` — each route is found once.
* `mem_getMatchingRemoteEntries_of_relay` — a relay uses some of the routes a request
  of the bus itself uses.
-/

namespace Makaio.Bus

open Foundations

/-- A route to a peer: the transport it is reached over and an advertised priority. -/
structure RemoteRoute where
  transport : String
  priority : ℤ
  deriving DecidableEq

/-- How far an advertised subscription may be used. -/
inductive SubscriptionDeliveryClass
  | relayable
  | firstHopOnly
  deriving DecidableEq

/-- The state of a bus. -/
structure BusContext (H : Type) where
  requestHandlers : HandlerMap H
  eventHandlers : HandlerMap H
  /-- The advertised request routes, by subject key. -/
  remoteRequestHandlers : OrderedMap Key (List RemoteRoute)
  /-- The transports that advertised event handlers only, by subject key. -/
  remoteEventHandlers : OrderedMap Key (List String)
  /-- The declared delivery classes, by subject key and transport. -/
  remoteSubscriptionDeliveryClasses : OrderedMap Key (OrderedMap String SubscriptionDeliveryClass)
  namespaceRegistry : NamespaceRegistry
  /-- The registered transports with the value of `isReady?.() !== false`. -/
  transports : OrderedMap String Bool

/-- A context without handlers, peers, namespaces or transports. -/
def BusContext.empty {H : Type} : BusContext H where
  requestHandlers := .empty
  eventHandlers := .empty
  remoteRequestHandlers := .empty
  remoteEventHandlers := .empty
  remoteSubscriptionDeliveryClasses := .empty
  namespaceRegistry := .empty
  transports := .empty

section Routes

variable {H : Type}

/-- The delivery class a transport declared for a subject key. -/
def deliveryClass? (context : BusContext H) (pattern : Key) (transport : String) :
    Option SubscriptionDeliveryClass :=
  (context.remoteSubscriptionDeliveryClasses.get? pattern).bind fun deliveryByTransport =>
    deliveryByTransport.get? transport

/-- A transport is blocked for a subject when it declared some matching key not relayable. -/
def blockedTransports (context : BusContext H) (fullSubjectKey : Key) : List String :=
  (context.remoteSubscriptionDeliveryClasses.entries.filter fun e =>
    matchesSubscription fullSubjectKey e.1).flatMap fun e =>
      (e.2.entries.filter fun d => d.2 ≠ .relayable).map Prod.fst

/-- The routes under one pattern that may be used. -/
def usableRoutes (context : BusContext H) (fullSubjectKey : Key) (excludeFirstHopOnly : Bool)
    (pattern : Key) (entries : List RemoteRoute) : List RemoteRoute :=
  entries.filter fun entry =>
    !(excludeFirstHopOnly && (entry.transport ∈ blockedTransports context fullSubjectKey ||
      (deliveryClass? context pattern entry.transport).isNone))

/-- Get remote handler entries matching the given subject key, each route once, highest priority
first. -/
def getMatchingRemoteEntries (context : BusContext H) (fullSubjectKey : Key)
    (excludeFirstHopOnly : Bool) : List RemoteRoute :=
  let matching := context.remoteRequestHandlers.entries.filter fun e =>
    matchesSubscription fullSubjectKey e.1
  let result := (matching.flatMap fun e =>
    usableRoutes context fullSubjectKey excludeFirstHopOnly e.1 e.2).eraseDups
  sortDesc RemoteRoute.priority result

variable {context : BusContext H} {route : RemoteRoute} {subject : Key}

/-- The routes found are the usable ones stored under the keys the subject matches. -/
theorem mem_getMatchingRemoteEntries {excludeFirstHopOnly : Bool} :
    route ∈ getMatchingRemoteEntries context subject excludeFirstHopOnly ↔
      ∃ pattern entries, context.remoteRequestHandlers.get? pattern = some entries ∧
        matchesSubscription subject pattern = true ∧ route ∈ entries ∧
        (excludeFirstHopOnly = true → route.transport ∉ blockedTransports context subject ∧
          (deliveryClass? context pattern route.transport).isSome = true) := by
  unfold getMatchingRemoteEntries usableRoutes
  rw [mem_sortDesc, List.mem_eraseDups, List.mem_flatMap]
  constructor
  · rintro ⟨⟨pattern, entries⟩, hp, hroute⟩
    obtain ⟨hmem, hmatch⟩ := List.mem_filter.mp hp
    obtain ⟨hin, husable⟩ := List.mem_filter.mp hroute
    refine ⟨pattern, entries, OrderedMap.mem_entries_iff.mp hmem, hmatch, hin, ?_⟩
    rintro rfl
    simpa using husable
  · rintro ⟨pattern, entries, hget, hmatch, hin, husable⟩
    refine ⟨(pattern, entries), List.mem_filter.mpr
      ⟨OrderedMap.mem_entries_iff.mpr hget, hmatch⟩, List.mem_filter.mpr ⟨hin, ?_⟩⟩
    cases excludeFirstHopOnly with
    | false => rfl
    | true => simpa using husable rfl

/-- Removing repetitions leaves none. -/
private lemma nodup_eraseDups {α : Type} [DecidableEq α] (l : List α) : l.eraseDups.Nodup := by
  induction hn : l.length using Nat.strong_induction_on generalizing l with
  | _ n ih =>
    cases l with
    | nil => simp
    | cons a l =>
      rw [List.eraseDups_cons, List.nodup_cons]
      refine ⟨by simp [List.mem_eraseDups], ih _ ?_ _ rfl⟩
      have hlen := List.length_filter_le (fun b => !b == a) l
      simp only [List.length_cons] at hn
      omega

/-- Each route is found once. -/
theorem nodup_getMatchingRemoteEntries (context : BusContext H) (subject : Key)
    (excludeFirstHopOnly : Bool) :
    (getMatchingRemoteEntries context subject excludeFirstHopOnly).Nodup :=
  (sortDesc_perm _).nodup_iff.mpr (nodup_eraseDups _)

/-- Excluding first-hop-only routes only takes routes away. -/
lemma mem_getMatchingRemoteEntries_of_relay (h : route ∈ getMatchingRemoteEntries context subject true) :
    route ∈ getMatchingRemoteEntries context subject false := by
  obtain ⟨pattern, entries, hget, hmatch, hin, -⟩ := mem_getMatchingRemoteEntries.mp h
  exact mem_getMatchingRemoteEntries.mpr
    ⟨pattern, entries, hget, hmatch, hin, fun hf => nomatch hf⟩

end Routes

end Makaio.Bus
