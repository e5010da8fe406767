import Makaio.Bus.AdvertisedState

set_option autoImplicit false

/-!
# Remote subscriptions

What a bus does with the subscription messages of its peers (`registries/remote-subscriptions.ts`).  A
subscribe message replaces everything its transport has advertised under the keys it names, an
unsubscribe message removes it, and a transport that goes away is purged from every key.  Each time
the affected keys are advertised anew to the other transports.

## Main definitions

* `propagateSubscribe`, `propagateUnsubscribe`,
  `purgeRemoteHandlersForTransport` — the three handlers.
* `receiveCall` — the receiver's side of a subscription call.
* `HasRoute` — a route is stored under a key.

## Main results

* `hasRoute_receiveCall`, `deliveryClass?_receiveCall` — a call leaves exactly
  its priorities and its delivery class under its key, and nothing else changes.
-/

namespace Makaio.Bus

open Foundations

/-- The text of a delivery class on the wire. -/
def SubscriptionDeliveryClass.text : SubscriptionDeliveryClass → String
  | relayable => "relayable"
  | firstHopOnly => "first-hop-only"

structure BusSubscribeMessage where
  /-- The priorities of each subject key. -/
  subjects : OrderedMap Key (List ℤ)
  /-- The delivery metadata, as received. -/
  deliveryClasses : OrderedMap Key String

/-- An unsubscribe message, by the keys of `message.subjects`. -/
structure BusUnsubscribeMessage where
  subjects : List Key

/-- Normalize untrusted subscription delivery metadata: `relayable` only for the explicit known
value. -/
def normalizeSubscriptionDeliveryClass (value : Option String) : SubscriptionDeliveryClass :=
  if value = some "relayable" then .relayable else .firstHopOnly

/-- `new Map([[k, v]])` -/
def singleton {K V : Type} [DecidableEq K] (k : K) (v : V) : OrderedMap K V :=
  OrderedMap.empty.set k v

section Updates

variable {H : Type}

/-- Remove one event-only subscription and its empty subject container. -/
def removeRemoteEventSubscription (context : BusContext H) (subject : Key)
    (transportName : String) : BusContext H :=
  match context.remoteEventHandlers.get? subject with
  | none => context
  | some eventTransports =>
    let eventTransports := eventTransports.filter fun name => name ≠ transportName
    { context with
      remoteEventHandlers :=
        if eventTransports.length = 0 then context.remoteEventHandlers.delete subject
        else context.remoteEventHandlers.set subject eventTransports }

/-- Replace what a transport advertised under one key: one turn of the loop of
`propagateSubscribe`. -/
def replaceRemoteSubscription (sourceName : String) (subject : Key) (priorities : List ℤ)
    (deliveryClass : SubscriptionDeliveryClass) (context : BusContext H) : BusContext H :=
  let filtered := ((context.remoteRequestHandlers.get? subject).getD []).filter
    fun entry => entry.transport ≠ sourceName
  let filtered := filtered ++ priorities.map fun priority => ⟨sourceName, priority⟩
  let deliveryByTransport :=
    (context.remoteSubscriptionDeliveryClasses.get? subject).getD .empty
  let context := { context with
    remoteRequestHandlers :=
      if 0 < filtered.length then context.remoteRequestHandlers.set subject filtered
      else context.remoteRequestHandlers.delete subject
    remoteSubscriptionDeliveryClasses := context.remoteSubscriptionDeliveryClasses.set subject
      (deliveryByTransport.set sourceName deliveryClass) }
  if priorities.length = 0 then
    let eventTransports := (context.remoteEventHandlers.get? subject).getD []
    { context with
      remoteEventHandlers := context.remoteEventHandlers.set subject
        (if sourceName ∈ eventTransports then eventTransports
          else eventTransports ++ [sourceName]) }
  else removeRemoteEventSubscription context subject sourceName

/-- Remove the routes of a transport under one key. -/
def removeRemoteRoutes (context : BusContext H) (subject : Key) (sourceName : String) :
    BusContext H :=
  match context.remoteRequestHandlers.get? subject with
  | none => context
  | some existing =>
    let filtered := existing.filter fun entry => entry.transport ≠ sourceName
    { context with
      remoteRequestHandlers :=
        if filtered.length = 0 then context.remoteRequestHandlers.delete subject
        else context.remoteRequestHandlers.set subject filtered }

/-- Remove the delivery class of a transport under one key. -/
def removeDeliveryClass (context : BusContext H) (subject : Key) (sourceName : String) :
    BusContext H :=
  match context.remoteSubscriptionDeliveryClasses.get? subject with
  | none => context
  | some deliveryByTransport =>
    let deliveryByTransport := deliveryByTransport.delete sourceName
    { context with
      remoteSubscriptionDeliveryClasses :=
        if deliveryByTransport.entries.length = 0 then
          context.remoteSubscriptionDeliveryClasses.delete subject
        else context.remoteSubscriptionDeliveryClasses.set subject deliveryByTransport }

/-- Remove what a transport advertised under one key: one turn of the loop of
`propagateUnsubscribe`. -/
def removeRemoteSubscription (sourceName : String) (context : BusContext H) (subject : Key) :
    BusContext H :=
  let context := removeRemoteRoutes context subject sourceName
  let context := removeRemoteEventSubscription context subject sourceName
  removeDeliveryClass context subject sourceName

/-- Replace remote subscription state for one transport and update peer advertisements. -/
def propagateSubscribe (context : BusContext H) (sourceTransportName : String)
    (message : BusSubscribeMessage) : BusContext H × List (String × AdvertisementCall) :=
  let context := message.subjects.entries.foldl (fun context e =>
    replaceRemoteSubscription sourceTransportName e.1 e.2
      (normalizeSubscriptionDeliveryClass (message.deliveryClasses.get? e.1)) context) context
  (context, pushAdvertisedSubjectsToPeers context (some sourceTransportName)
    message.subjects.keys)

/-- Remove remote subscription state for one transport and update peer advertisements. -/
def propagateUnsubscribe (context : BusContext H) (sourceTransportName : String)
    (message : BusUnsubscribeMessage) : BusContext H × List (String × AdvertisementCall) :=
  let context := message.subjects.foldl (removeRemoteSubscription sourceTransportName) context
  (context, pushAdvertisedSubjectsToPeers context (some sourceTransportName) message.subjects)

/-- Purge every subscription learned through a disconnected transport. -/
def purgeRemoteHandlersForTransport (context : BusContext H) (transportName : String) :
    BusContext H × List (String × AdvertisementCall) :=
  let requestSubjects := context.remoteRequestHandlers.entries.filter fun e =>
    e.2.any fun entry => entry.transport = transportName
  let eventSubjects := context.remoteEventHandlers.entries.filter fun e => transportName ∈ e.2
  let deliverySubjects := context.remoteSubscriptionDeliveryClasses.entries.filter fun e =>
    e.2.has transportName
  let purged := { context with
    remoteRequestHandlers := requestSubjects.foldl (fun map e =>
      let filtered := e.2.filter fun entry => entry.transport ≠ transportName
      if filtered.length = 0 then map.delete e.1 else map.set e.1 filtered)
      context.remoteRequestHandlers
    remoteEventHandlers := eventSubjects.foldl (fun map e =>
      let transportSet := e.2.filter fun name => name ≠ transportName
      if transportSet.length = 0 then map.delete e.1 else map.set e.1 transportSet)
      context.remoteEventHandlers
    remoteSubscriptionDeliveryClasses := deliverySubjects.foldl (fun map e =>
      let deliveryByTransport := e.2.delete transportName
      if deliveryByTransport.entries.length = 0 then map.delete e.1
      else map.set e.1 deliveryByTransport) context.remoteSubscriptionDeliveryClasses }
  let affectedSubjects := (requestSubjects.map Prod.fst ++ eventSubjects.map Prod.fst ++
    deliverySubjects.map Prod.fst).eraseDups
  (purged, if affectedSubjects.length = 0 then []
    else pushAdvertisedSubjectsToPeers purged (some transportName) affectedSubjects)

/-- The receiver's side of a subscription call: the message it sends, handled. -/
def receiveCall (context : BusContext H) (sourceTransportName : String) :
    AdvertisementCall → BusContext H × List (String × AdvertisementCall)
  | .subscribe subject priorities deliveryClass =>
    propagateSubscribe context sourceTransportName
      ⟨singleton subject priorities, singleton subject deliveryClass.text⟩
  | .unsubscribe subject => propagateUnsubscribe context sourceTransportName ⟨[subject]⟩

end Updates

/-! ### What a call leaves at its receiver -/

section Calls

variable {H : Type} {context : BusContext H} {source : String}

/-- A route is stored under a key. -/
def HasRoute (context : BusContext H) (key : Key) (route : RemoteRoute) : Prop :=
  ∃ entries, context.remoteRequestHandlers.get? key = some entries ∧ route ∈ entries

variable {route : RemoteRoute} {key : Key} {deliveryClass : SubscriptionDeliveryClass}

lemma hasRoute_iff_getD :
    HasRoute context key route ↔ route ∈ (context.remoteRequestHandlers.get? key).getD [] := by
  unfold HasRoute
  cases context.remoteRequestHandlers.get? key <;> simp

@[simp] lemma remoteRequestHandlers_removeRemoteEventSubscription (context : BusContext H)
    (key : Key) (transport : String) :
    (removeRemoteEventSubscription context key transport).remoteRequestHandlers =
      context.remoteRequestHandlers := by
  unfold removeRemoteEventSubscription
  split <;> rfl

@[simp] lemma remoteSubscriptionDeliveryClasses_removeRemoteEventSubscription
    (context : BusContext H) (key : Key) (transport : String) :
    (removeRemoteEventSubscription context key transport).remoteSubscriptionDeliveryClasses =
      context.remoteSubscriptionDeliveryClasses := by
  unfold removeRemoteEventSubscription
  split <;> rfl

/-- A nonempty list is stored, an empty one is not. -/
lemma getD_get?_delete_or_set {V : Type} {m : OrderedMap Key (List V)} {key key' : Key}
    {l : List V} {c : Prop} [Decidable c] (hc : c ↔ l = []) :
    ((if c then m.delete key else m.set key l).get? key').getD [] =
      if key' = key then l else (m.get? key').getD [] := by
  by_cases h : c
  · rw [if_pos h, OrderedMap.get?_delete, hc.mp h]
    split_ifs <;> rfl
  · rw [if_neg h, OrderedMap.get?_set]
    split_ifs <;> rfl

variable {priorities : List ℤ} {subject : Key} {transport : String}

/-- The stored routes after a key has been replaced. -/
lemma getD_remoteRequestHandlers_replaceRemoteSubscription :
    ((replaceRemoteSubscription source subject priorities deliveryClass
      context).remoteRequestHandlers.get? key).getD [] =
      if key = subject then
        ((context.remoteRequestHandlers.get? subject).getD []).filter
          (fun entry => entry.transport ≠ source) ++
            priorities.map fun priority => ⟨source, priority⟩
      else (context.remoteRequestHandlers.get? key).getD [] := by
  unfold replaceRemoteSubscription
  rw [apply_ite BusContext.remoteRequestHandlers,
    remoteRequestHandlers_removeRemoteEventSubscription, ite_self, ← ite_not,
    getD_get?_delete_or_set (by simp)]

/-- The routes after a key has been replaced. -/
lemma hasRoute_replaceRemoteSubscription :
    HasRoute (replaceRemoteSubscription source subject priorities deliveryClass context) key route ↔
      if key = subject then
        HasRoute context key route ∧ route.transport ≠ source ∨
          route.transport = source ∧ route.priority ∈ priorities
      else HasRoute context key route := by
  rw [hasRoute_iff_getD, getD_remoteRequestHandlers_replaceRemoteSubscription]
  split_ifs with hkey
  · subst hkey
    rw [hasRoute_iff_getD, List.mem_append, List.mem_filter, List.mem_map]
    simp only [decide_eq_true_eq]
    refine or_congr_right ⟨?_, ?_⟩
    · rintro ⟨priority, hpriority, rfl⟩
      exact ⟨rfl, hpriority⟩
    · rintro ⟨rfl, hpriority⟩
      exact ⟨route.priority, hpriority, rfl⟩
  · rw [hasRoute_iff_getD]

/-- The delivery classes after a key has been replaced. -/
lemma deliveryClass?_replaceRemoteSubscription :
    deliveryClass? (replaceRemoteSubscription source subject priorities deliveryClass context) key
        transport =
      if key = subject ∧ transport = source then some deliveryClass
      else deliveryClass? context key transport := by
  have hmap : (replaceRemoteSubscription source subject priorities deliveryClass
      context).remoteSubscriptionDeliveryClasses = context.remoteSubscriptionDeliveryClasses.set
        subject (((context.remoteSubscriptionDeliveryClasses.get? subject).getD .empty).set source
          deliveryClass) := by
    unfold replaceRemoteSubscription
    rw [apply_ite BusContext.remoteSubscriptionDeliveryClasses,
      remoteSubscriptionDeliveryClasses_removeRemoteEventSubscription, ite_self]
  unfold deliveryClass?
  rw [hmap, OrderedMap.get?_set]
  by_cases hkey : key = subject
  · subst hkey
    simp only [if_true, Option.bind_some, OrderedMap.get?_set, true_and]
    split_ifs
    · rfl
    · cases context.remoteSubscriptionDeliveryClasses.get? key <;> rfl
  · simp only [hkey, false_and, if_false]

/-- The routes after a key has been removed. -/
lemma hasRoute_removeRemoteSubscription {key : Key} :
    HasRoute (removeRemoteSubscription source context subject) key route ↔
      HasRoute context key route ∧ (key = subject → route.transport ≠ source) := by
  have hmap : (removeRemoteSubscription source context subject).remoteRequestHandlers =
      (removeRemoteRoutes context subject source).remoteRequestHandlers := by
    have hdelivery : ∀ context : BusContext H, (removeDeliveryClass context subject
        source).remoteRequestHandlers = context.remoteRequestHandlers := by
      intro context
      unfold removeDeliveryClass
      split <;> rfl
    rw [removeRemoteSubscription, hdelivery, remoteRequestHandlers_removeRemoteEventSubscription]
  rw [hasRoute_iff_getD, hmap, hasRoute_iff_getD]
  unfold removeRemoteRoutes
  cases hget : context.remoteRequestHandlers.get? subject with
  | none =>
    refine ⟨fun h => ⟨h, ?_⟩, fun h => h.1⟩
    rintro rfl
    simp [hget] at h
  | some existing =>
    rw [getD_get?_delete_or_set (by simp)]
    split_ifs with hkey
    · subst hkey
      simp [hget]
    · simp [hkey]

/-- The delivery classes after a key has been removed. -/
lemma deliveryClass?_removeRemoteSubscription {key : Key} :
    deliveryClass? (removeRemoteSubscription source context subject) key transport =
      if key = subject ∧ transport = source then none
      else deliveryClass? context key transport := by
  have hclasses : (removeRemoteEventSubscription (removeRemoteRoutes context subject source) subject
      source).remoteSubscriptionDeliveryClasses = context.remoteSubscriptionDeliveryClasses := by
    rw [remoteSubscriptionDeliveryClasses_removeRemoteEventSubscription]
    unfold removeRemoteRoutes
    split <;> rfl
  unfold deliveryClass? removeRemoteSubscription removeDeliveryClass
  dsimp only
  rw [hclasses]
  cases hget : context.remoteSubscriptionDeliveryClasses.get? subject with
  | none =>
    rw [hclasses]
    split_ifs with h
    · rw [h.1, hget]
      rfl
    · rfl
  | some deliveryByTransport =>
    by_cases hkey : key = subject
    · subst hkey
      have hdelete : (deliveryByTransport.delete source).get? transport =
          if transport = source then none else deliveryByTransport.get? transport :=
        OrderedMap.get?_delete _ _ _
      simp only [hget, true_and, Option.bind_some, ← hdelete]
      split_ifs with hempty
      · have hnone : (deliveryByTransport.delete source).get? transport = none := by
          rw [OrderedMap.get?, List.length_eq_zero_iff.mp hempty]
          rfl
        rw [OrderedMap.get?_delete_self, hnone]
        rfl
      · rw [OrderedMap.get?_set_self]
        rfl
    · simp only [hkey, false_and, if_false]
      split_ifs
      · rw [OrderedMap.get?_delete_of_ne _ hkey]
      · rw [OrderedMap.get?_set_of_ne _ _ hkey]

/-- The message of a subscribe call replaces its key. -/
lemma receiveCall_subscribe (subject : Key) (priorities : List ℤ)
    (deliveryClass : SubscriptionDeliveryClass) :
    (receiveCall context source (.subscribe subject priorities deliveryClass)).1 =
      replaceRemoteSubscription source subject priorities deliveryClass context := by
  have hclass : normalizeSubscriptionDeliveryClass
      ((singleton subject deliveryClass.text).get? subject) = deliveryClass := by
    rw [singleton, OrderedMap.get?_set_self]
    cases deliveryClass <;> decide
  show replaceRemoteSubscription source subject priorities (normalizeSubscriptionDeliveryClass
    ((singleton subject deliveryClass.text).get? subject)) context = _
  rw [hclass]

variable {call : AdvertisementCall}

/-- **A call leaves exactly its priorities under its key**, and nothing else changes. -/
theorem hasRoute_receiveCall :
    HasRoute (receiveCall context source call).1 key route ↔
      if key = call.subject ∧ route.transport = source then route.priority ∈ call.priorities
      else HasRoute context key route := by
  cases call with
  | subscribe subject priorities deliveryClass =>
    rw [receiveCall_subscribe, hasRoute_replaceRemoteSubscription]
    by_cases hkey : key = subject <;> by_cases hsource : route.transport = source <;>
      simp [AdvertisementCall.subject, AdvertisementCall.priorities, hkey, hsource]
  | unsubscribe subject =>
    show HasRoute (removeRemoteSubscription source context subject) key route ↔ _
    rw [hasRoute_removeRemoteSubscription]
    by_cases hkey : key = subject <;> by_cases hsource : route.transport = source <;>
      simp [AdvertisementCall.subject, AdvertisementCall.priorities, hkey, hsource]

/-- **A call leaves exactly its delivery class under its key**, and nothing else changes. -/
theorem deliveryClass?_receiveCall :
    deliveryClass? (receiveCall context source call).1 key transport =
      if key = call.subject ∧ transport = source then call.deliveryClass?
      else deliveryClass? context key transport := by
  cases call with
  | subscribe subject priorities deliveryClass =>
    rw [receiveCall_subscribe, deliveryClass?_replaceRemoteSubscription]
    rfl
  | unsubscribe subject =>
    show deliveryClass? (removeRemoteSubscription source context subject) key transport = _
    rw [deliveryClass?_removeRemoteSubscription]
    rfl

end Calls

end Makaio.Bus
