import Makaio.Bus.BusState
import Makaio.Bus.Outbound

set_option autoImplicit false

/-!
# Local subjects and transports

A bus as a machine: its own calls, its transports, and the messages that arrive over them, with a log
of all calls on transports.  Messages for a subject marked with `localSubject()` are never sent, and
messages that arrive for one are neither relayed nor handled.  The advertisement of subscriptions has
no such check: a handler of a local subject is advertised like any other, and so is a key that a peer
subscribes to.

## Main definitions

* `LoggedBus`, `busStep` — the machine.
* `RespectsLocal` — an action that brings no local key near the subscriptions.
* `StoresOnly` — all keys of a context satisfy a predicate.

## Main results

* `localInv_step` — every such action keeps the log free of local subjects.
* `localSubjects_invisible` — so it is along every run.
* `localSubject_advertised` — one `on()` call advertises a local subject.
-/

namespace Makaio.Bus

open Foundations

/-! ### The machine -/

/-- A bus with the calls it has made on its transports. -/
structure LoggedBus (H V : Type) where
  bus : BusState H
  calls : List (TransportCall V)

/-- The messages a bus handles when they arrive over a transport. -/
inductive InboundMessage (V : Type)
  | event (message : BusEventMessage V)
  | request (message : BusRequestMessage V)
  | broadcast (message : BusBroadcastMessage V)
  | subscribe (message : BusSubscribeMessage)
  | unsubscribe (message : BusUnsubscribeMessage)

/-- What can happen to a bus. -/
inductive BusAction (H V : Type)
  | emit (definition : SubjectDefinition) (payload : V) (transports : Option (List String))
      (connectionId : Option String)
  | request (definition : SubjectDefinition) (payload : V) (transports : Option (List String))
  | broadcast (definition : SubjectDefinition) (payload : V) (transports : Option (List String))
  | on (definition : SubjectDefinition) (handler : H) (options : OnOptions)
  | unsubscribe (id : ℕ)
  | registerTransport (name : String) (isReady : Bool)
  | unregister (name : String)
  /-- A transport gets ready or loses its connection. -/
  | setReady (name : String) (isReady : Bool)
  | receive (transportName : String) (message : InboundMessage V)

section Machine

variable {H V : Type} [DecidableEq H] [ObjectSpread V]

omit [DecidableEq H] [ObjectSpread V] in
/-- A bus with another context and further calls. -/
def LoggedBus.proceed (s : LoggedBus H V) (context : BusContext (HandlerRef H))
    (calls : List (TransportCall V)) : LoggedBus H V where
  bus := { s.bus with context := context }
  calls := s.calls ++ calls

omit [DecidableEq H] [ObjectSpread V] in
/-- Subscription calls in the log. -/
def advertised (calls : List (String × AdvertisementCall)) : List (TransportCall V) :=
  calls.map fun call => .advertise call.1 call.2

omit [DecidableEq H] [ObjectSpread V] in
/-- Register a transport: one that is replaced is purged first, then the new one is synced. -/
def registerTransport (context : BusContext (HandlerRef H)) (name : String) (isReady : Bool) :
    BusContext (HandlerRef H) × List (String × AdvertisementCall) :=
  let (context, calls) := if context.transports.has name then
      purgeRemoteHandlersForTransport context name
    else (context, [])
  let context := { context with transports := context.transports.set name isReady }
  (context, calls ++ (syncAllSubjectsToTransport context name).map fun call => (name, call))

omit [DecidableEq H] [ObjectSpread V] in
/-- Unregister a transport. -/
def unregister (context : BusContext (HandlerRef H)) (name : String) :
    BusContext (HandlerRef H) × List (String × AdvertisementCall) :=
  purgeRemoteHandlersForTransport { context with transports := context.transports.delete name } name

omit [DecidableEq H] in
/-- Handle a message from a transport. -/
def handleIncomingMessage (env : Surroundings (HandlerRef H) V) (s : LoggedBus H V)
    (transportName : String) : InboundMessage V → LoggedBus H V
  | .subscribe message =>
    let (context, calls) := propagateSubscribe s.bus.context transportName message
    s.proceed context (advertised calls)
  | .unsubscribe message =>
    let (context, calls) := propagateUnsubscribe s.bus.context transportName message
    s.proceed context (advertised calls)
  | .event message =>
    s.proceed s.bus.context (handleEventMessage env s.bus.context transportName message)
  | .request message =>
    s.proceed s.bus.context (answerRequestMessage env s.bus.context transportName message)
  | .broadcast message =>
    s.proceed s.bus.context (handleBroadcastMessage env s.bus.context transportName message)

/-- One action in the given surroundings.  What a handler does with the bus is an action of its
own. -/
def busStep (s : LoggedBus H V) :
    Surroundings (HandlerRef H) V × BusAction H V → Option (LoggedBus H V)
  | (env, .emit definition payload transports connectionId) =>
    some (s.proceed s.bus.context
      (emit env s.bus.context definition payload transports connectionId))
  | (env, .request definition payload transports) =>
    some (s.proceed s.bus.context (requestCalls env s.bus.context definition payload transports))
  | (env, .broadcast definition payload transports) =>
    some (s.proceed s.bus.context (broadcast env s.bus.context definition payload transports).1)
  | (_, .on definition handler options) =>
    let (bus, calls) := s.bus.on definition handler options
    some ⟨bus, s.calls ++ advertised calls⟩
  | (_, .unsubscribe id) => (s.bus.registrations.find? fun r => r.id = id).map fun r =>
    let (bus, calls) := s.bus.unsubscribe r
    ⟨bus, s.calls ++ advertised calls⟩
  | (_, .registerTransport name isReady) =>
    let (context, calls) := registerTransport s.bus.context name isReady
    some (s.proceed context (advertised calls))
  | (_, .unregister name) =>
    if s.bus.context.transports.has name then
      let (context, calls) := unregister s.bus.context name
      some (s.proceed context (advertised calls))
    else none
  | (_, .setReady name isReady) =>
    if s.bus.context.transports.has name then
      some (s.proceed { s.bus.context with
        transports := s.bus.context.transports.set name isReady } [])
    else none
  | (env, .receive transportName message) =>
    if s.bus.context.transports.has transportName then
      some (handleIncomingMessage env s transportName message)
    else none

omit [DecidableEq H] [ObjectSpread V] in
/-- An action respects the local subjects of a registry: messages for one are made with a definition
that is marked local, and neither a handler nor a peer's subscription names one. -/
def RespectsLocal (registry : NamespaceRegistry) :
    Surroundings (HandlerRef H) V × BusAction H V → Prop
  | (_, .emit definition _ _ _) | (_, .request definition _ _) | (_, .broadcast definition _ _) =>
    registry.isLocalSubject (getFullSubjectForSubjectDefinition definition) = true →
      definition.isLocal = true
  | (_, .on definition _ _) =>
    registry.isLocalSubject (getFullSubjectForSubjectDefinition definition) = false
  | (_, .receive _ (.subscribe message)) =>
    ∀ key ∈ message.subjects.keys, registry.isLocalSubject key = false
  | (_, .receive _ (.unsubscribe message)) =>
    ∀ key ∈ message.subjects, registry.isLocalSubject key = false
  | _ => True

omit [DecidableEq H] [ObjectSpread V] in
instance (registry : NamespaceRegistry) (a : Surroundings (HandlerRef H) V × BusAction H V) :
    Decidable (RespectsLocal registry a) :=
  match a with
  | (_, .emit _ _ _ _) | (_, .request _ _ _) | (_, .broadcast _ _ _) =>
    inferInstanceAs (Decidable (_ = true → _ = true))
  | (_, .on _ _ _) => inferInstanceAs (Decidable (_ = false))
  | (_, .receive _ (.subscribe message)) =>
    inferInstanceAs (Decidable (∀ key ∈ message.subjects.keys, _ = false))
  | (_, .receive _ (.unsubscribe message)) =>
    inferInstanceAs (Decidable (∀ key ∈ message.subjects, _ = false))
  | (_, .receive _ (.event _)) | (_, .receive _ (.request _)) | (_, .receive _ (.broadcast _)) =>
    inferInstanceAs (Decidable True)
  | (_, .unsubscribe _) | (_, .registerTransport _ _) | (_, .unregister _) | (_, .setReady _ _) =>
    inferInstanceAs (Decidable True)

end Machine

/-! ### Stored keys -/

section Stores

variable {H : Type} {P : Key → Prop}

/-- All keys under which a context stores something satisfy a predicate. -/
structure StoresOnly (P : Key → Prop) (context : BusContext H) : Prop where
  requestHandlers : ∀ key ∈ context.requestHandlers.keys, P key
  eventHandlers : ∀ key ∈ context.eventHandlers.keys, P key
  remoteRequestHandlers : ∀ key ∈ context.remoteRequestHandlers.keys, P key
  remoteEventHandlers : ∀ key ∈ context.remoteEventHandlers.keys, P key
  remoteSubscriptionDeliveryClasses :
    ∀ key ∈ context.remoteSubscriptionDeliveryClasses.keys, P key

lemma forall_keys_set {α : Type} {m : OrderedMap Key α} {k : Key} (v : α)
    (h : ∀ key ∈ m.keys, P key) (hk : P k) : ∀ key ∈ (m.set k v).keys, P key := by
  intro key hkey
  rcases OrderedMap.mem_keys_set.mp hkey with rfl | hkey
  · exact hk
  · exact h key hkey

lemma forall_keys_delete {α : Type} {m : OrderedMap Key α} (k : Key)
    (h : ∀ key ∈ m.keys, P key) : ∀ key ∈ (m.delete k).keys, P key :=
  fun key hkey => h key (OrderedMap.mem_keys_delete.mp hkey).2

/-- Dropping or replacing the values of some keys brings no other keys. -/
lemma forall_keys_foldl {α : Type} {entries : List (Key × α)} {drop : Key × α → Prop}
    [DecidablePred drop] {value : Key × α → α} (hentries : ∀ e ∈ entries, P e.1) :
    ∀ {m : OrderedMap Key α}, (∀ key ∈ m.keys, P key) →
      ∀ key ∈ (entries.foldl (fun map e =>
        if drop e then map.delete e.1 else map.set e.1 (value e)) m).keys, P key := by
  induction entries with
  | nil => exact fun h => h
  | cons e entries ih =>
    intro m h
    rw [List.foldl_cons]
    refine ih (fun e' he' => hentries e' (by simp [he'])) ?_
    split_ifs
    · exact forall_keys_delete _ h
    · exact forall_keys_set _ h (hentries e (by simp))

variable {context : BusContext H}

/-- A key that is stored already satisfies the predicate. -/
private lemma of_get? {α : Type} {m : OrderedMap Key α} {k : Key} {v : α}
    (h : ∀ key ∈ m.keys, P key) (hget : m.get? k = some v) : P k :=
  h k (OrderedMap.mem_keys_iff.mpr ⟨v, hget⟩)

lemma StoresOnly.removeRemoteEventSubscription (hs : StoresOnly P context) (subject : Key)
    (transportName : String) :
    StoresOnly P (removeRemoteEventSubscription context subject transportName) := by
  unfold Bus.removeRemoteEventSubscription
  split
  · exact hs
  · rename_i eventTransports hget
    refine { hs with remoteEventHandlers := ?_ }
    dsimp only
    split_ifs
    · exact forall_keys_delete _ hs.remoteEventHandlers
    · exact forall_keys_set _ hs.remoteEventHandlers (of_get? hs.remoteEventHandlers hget)

lemma StoresOnly.replaceRemoteSubscription (hs : StoresOnly P context) (sourceName : String)
    {subject : Key} (hsubject : P subject) (priorities : List ℤ)
    (deliveryClass : SubscriptionDeliveryClass) :
    StoresOnly P (replaceRemoteSubscription sourceName subject priorities deliveryClass context) := by
  unfold Bus.replaceRemoteSubscription
  dsimp only
  generalize hfiltered : ((context.remoteRequestHandlers.get? subject).getD []).filter
    (fun entry => entry.transport ≠ sourceName) ++
      priorities.map (fun priority => (⟨sourceName, priority⟩ : RemoteRoute)) = filtered
  have hstored : StoresOnly P { context with
      remoteRequestHandlers :=
        if 0 < filtered.length then context.remoteRequestHandlers.set subject filtered
        else context.remoteRequestHandlers.delete subject
      remoteSubscriptionDeliveryClasses := context.remoteSubscriptionDeliveryClasses.set subject
        (((context.remoteSubscriptionDeliveryClasses.get? subject).getD .empty).set sourceName
          deliveryClass) } := by
    refine { hs with
      remoteRequestHandlers := ?_
      remoteSubscriptionDeliveryClasses :=
        forall_keys_set _ hs.remoteSubscriptionDeliveryClasses hsubject }
    dsimp only
    split_ifs
    · exact forall_keys_set _ hs.remoteRequestHandlers hsubject
    · exact forall_keys_delete _ hs.remoteRequestHandlers
  by_cases hempty : priorities.length = 0
  · rw [if_pos hempty]
    exact { hstored with
      remoteEventHandlers := forall_keys_set _ hs.remoteEventHandlers hsubject }
  · rw [if_neg hempty]
    exact hstored.removeRemoteEventSubscription _ _

lemma StoresOnly.removeRemoteSubscription (hs : StoresOnly P context) (sourceName : String)
    (subject : Key) : StoresOnly P (removeRemoteSubscription sourceName context subject) := by
  have hroutes : ∀ {context : BusContext H}, StoresOnly P context →
      StoresOnly P (removeRemoteRoutes context subject sourceName) := by
    intro context hs
    unfold removeRemoteRoutes
    split
    · exact hs
    · rename_i existing hget
      refine { hs with remoteRequestHandlers := ?_ }
      dsimp only
      split_ifs
      · exact forall_keys_delete _ hs.remoteRequestHandlers
      · exact forall_keys_set _ hs.remoteRequestHandlers (of_get? hs.remoteRequestHandlers hget)
  have hclasses : ∀ {context : BusContext H}, StoresOnly P context →
      StoresOnly P (removeDeliveryClass context subject sourceName) := by
    intro context hs
    unfold removeDeliveryClass
    split
    · exact hs
    · rename_i deliveryByTransport hget
      refine { hs with remoteSubscriptionDeliveryClasses := ?_ }
      dsimp only
      split_ifs
      · exact forall_keys_delete _ hs.remoteSubscriptionDeliveryClasses
      · exact forall_keys_set _ hs.remoteSubscriptionDeliveryClasses
          (of_get? hs.remoteSubscriptionDeliveryClasses hget)
  exact hclasses ((hroutes hs).removeRemoteEventSubscription _ _)

lemma StoresOnly.purgeRemoteHandlersForTransport (hs : StoresOnly P context)
    (transportName : String) :
    StoresOnly P (purgeRemoteHandlersForTransport context transportName).1 := by
  have hlisted : ∀ {α : Type} {m : OrderedMap Key α} {f : Key × α → Bool},
      (∀ key ∈ m.keys, P key) → ∀ e ∈ m.entries.filter f, P e.1 :=
    fun h e he => h _ (List.mem_map_of_mem (List.mem_filter.mp he).1)
  exact { hs with
    remoteRequestHandlers :=
      forall_keys_foldl (hlisted hs.remoteRequestHandlers) hs.remoteRequestHandlers
    remoteEventHandlers :=
      forall_keys_foldl (hlisted hs.remoteEventHandlers) hs.remoteEventHandlers
    remoteSubscriptionDeliveryClasses :=
      forall_keys_foldl (hlisted hs.remoteSubscriptionDeliveryClasses)
        hs.remoteSubscriptionDeliveryClasses }

/-- Adding a handler brings one key. -/
lemma forall_keys_addToHandlerMap {map : HandlerMap H} {key : Key} (handler : H) (priority : ℤ)
    (h : ∀ key ∈ map.keys, P key) (hkey : P key) :
    ∀ key' ∈ (addToHandlerMap map key handler priority).keys, P key' := by
  intro key' hkey'
  obtain ⟨entries, hget⟩ := OrderedMap.mem_keys_iff.mp hkey'
  rw [get?_addToHandlerMap] at hget
  split_ifs at hget with heq
  · exact heq ▸ hkey
  · exact of_get? h hget

/-- Removing a handler brings none. -/
lemma forall_keys_removeFromHandlerMap [DecidableEq H] {map : HandlerMap H} (key : Key) (handler : H)
    (h : ∀ key ∈ map.keys, P key) :
    ∀ key' ∈ (removeFromHandlerMap map key handler).keys, P key' := by
  intro key' hkey'
  obtain ⟨entries, hget⟩ := OrderedMap.mem_keys_iff.mp hkey'
  rw [get?_removeFromHandlerMap] at hget
  split_ifs at hget with heq
  · obtain ⟨old, hold, -⟩ := Option.bind_eq_some_iff.mp hget
    exact heq ▸ of_get? h hold
  · exact of_get? h hget

/-- Updating both handler maps in turn. -/
lemma forall_keys_foldl_modify {f : HandlerMap (HandlerRef H) → HandlerMap (HandlerRef H)}
    (hf : ∀ map, (∀ key ∈ map.keys, P key) → ∀ key ∈ (f map).keys, P key)
    (maps : List HandlerMapKey) :
    ∀ {registry : Registry H}, (∀ mapKey, ∀ key ∈ (registry.handlers mapKey).keys, P key) →
      ∀ mapKey, ∀ key ∈ ((maps.foldl (fun s m => s.modify m f) registry).handlers mapKey).keys,
        P key := by
  induction maps with
  | nil => exact fun h => h
  | cons m maps ih =>
    intro registry h
    rw [List.foldl_cons]
    refine ih fun mapKey => ?_
    rw [handlers_modify]
    split_ifs
    · exact hf _ (h m)
    · exact h mapKey

variable {bus : BusState H}

/-- The handler maps of a bus. -/
private lemma StoresOnly.handlers (hs : StoresOnly P bus.context) :
    ∀ mapKey, ∀ key ∈ (bus.registry.handlers mapKey).keys, P key := by
  intro mapKey
  cases mapKey with
  | eventHandlers => exact hs.eventHandlers
  | requestHandlers => exact hs.requestHandlers

lemma StoresOnly.on (hs : StoresOnly P bus.context) {definition : SubjectDefinition}
    (hkey : P (getFullSubjectForSubjectDefinition definition)) (handler : H) (options : OnOptions) :
    StoresOnly P (bus.on definition handler options).1.context := by
  have h := forall_keys_foldl_modify (fun map hmap => forall_keys_addToHandlerMap
    (newRegistration bus.registry definition handler options).handler
    (newRegistration bus.registry definition handler options).priority hmap hkey)
    (handlerMaps definition options) hs.handlers
  exact { hs with requestHandlers := h .requestHandlers, eventHandlers := h .eventHandlers }

lemma StoresOnly.unsubscribe [DecidableEq H] (hs : StoresOnly P bus.context) (r : Registration H) :
    StoresOnly P (bus.unsubscribe r).1.context := by
  have h := forall_keys_foldl_modify (fun map hmap => forall_keys_removeFromHandlerMap r.key
    r.handler hmap) r.maps hs.handlers
  exact { hs with requestHandlers := h .requestHandlers, eventHandlers := h .eventHandlers }

end Stores

/-! ### Steps -/

section Steps

variable {H V : Type} {registry : NamespaceRegistry} {s : LoggedBus H V}

/-- No call carries the key of a local subject. -/
def AvoidsLocal (registry : NamespaceRegistry) (calls : List (TransportCall V)) : Prop :=
  ∀ call ∈ calls, ∀ key, call.key = some key → registry.isLocalSubject key = false

/-- The invariant: nothing is stored under a local key, and no call carried one. -/
structure LocalInv (registry : NamespaceRegistry) (s : LoggedBus H V) : Prop where
  registry_eq : s.bus.context.namespaceRegistry = registry
  /-- No local subject is recorded as host-local. -/
  recorded : ∀ key registered, registry.registeredSubjects.get? key = some registered →
    registered.hostLocalRequest = true → registry.isLocalSubject key = false
  stores : StoresOnly (fun key => registry.isLocalSubject key = false) s.bus.context
  registrations : ∀ r ∈ s.bus.registrations, registry.isLocalSubject r.key = false
  calls : AvoidsLocal registry s.calls

/-- At the beginning the namespaces are registered, nothing is stored under a local key, and no call
has been made. -/
structure LocalInit (registry : NamespaceRegistry) (s : LoggedBus H V) : Prop
    extends LocalInv registry s where
  calls_nil : s.calls = []

lemma AvoidsLocal.append {calls calls' : List (TransportCall V)} (h : AvoidsLocal registry calls)
    (h' : AvoidsLocal registry calls') : AvoidsLocal registry (calls ++ calls') := by
  intro call hcall
  rcases List.mem_append.mp hcall with hcall | hcall
  · exact h call hcall
  · exact h' call hcall

/-- The state of a key carries the key. -/
lemma avoidsLocal_pushAdvertisedSubject (context : BusContext (HandlerRef H)) {subjects : List Key}
    (transports : List String) (h : ∀ key ∈ subjects, registry.isLocalSubject key = false) :
    AvoidsLocal registry (advertised (V := V) (transports.flatMap fun name =>
      subjects.map fun subject => (name, pushAdvertisedSubject context name subject))) := by
  intro call hcall key hkey
  obtain ⟨pushed, hpushed, rfl⟩ := List.mem_map.mp hcall
  obtain ⟨name, -, hname⟩ := List.mem_flatMap.mp hpushed
  obtain ⟨subject, hsubject, rfl⟩ := List.mem_map.mp hname
  obtain rfl : subject = key := by
    have h := Option.some.inj hkey
    rwa [subject_pushAdvertisedSubject] at h
  exact h _ hsubject

variable {context : BusContext (HandlerRef H)}

/-- **Pushing keys that are not local** pushes no local key. -/
lemma LocalInv.avoidsLocal_push (hs : LocalInv registry s) (hregistry : context.namespaceRegistry = registry)
    {exclude : Option String} {affected : List Key}
    (haffected : ∀ key ∈ affected, registry.isLocalSubject key = false) :
    AvoidsLocal registry
      (advertised (V := V) (pushAdvertisedSubjectsToPeers context exclude affected)) := by
  refine avoidsLocal_pushAdvertisedSubject _ _ fun key hkey => ?_
  rcases mem_expandHostLocalWildcardSubjects.mp hkey with h | ⟨⟨registered, hget, hhost⟩, -⟩
  · exact haffected _ h
  · exact hs.recorded _ registered (hregistry ▸ hget) hhost

/-- **Syncing a transport** pushes no local key. -/
lemma LocalInv.avoidsLocal_sync (hs : LocalInv registry s) (hregistry : context.namespaceRegistry = registry)
    (hstores : StoresOnly (fun key => registry.isLocalSubject key = false) context) (name : String) :
    AvoidsLocal registry (advertised (V := V)
      ((syncAllSubjectsToTransport context name).map fun call => (name, call))) := by
  have hkeys : ∀ key ∈ syncSubjects context, registry.isLocalSubject key = false := by
    intro key hkey
    unfold syncSubjects at hkey
    simp only [List.mem_eraseDups, List.mem_append] at hkey
    rcases hkey with ((((h | h) | h) | h) | h) | h
    · exact hstores.requestHandlers key h
    · exact hstores.eventHandlers key h
    · exact hstores.remoteRequestHandlers key h
    · exact hstores.remoteEventHandlers key h
    · exact hstores.remoteSubscriptionDeliveryClasses key h
    · -- the exact host-local subjects of wildcard handlers
      obtain ⟨⟨subject, registered⟩, hlisted, rfl⟩ := List.mem_map.mp h
      obtain ⟨hlisted, hflags⟩ := List.mem_filter.mp hlisted
      rw [NamespaceRegistry.listRegisteredSubjects, List.mem_insertionSort] at hlisted
      rw [Bool.and_eq_true] at hflags
      exact hs.recorded _ registered (hregistry ▸ OrderedMap.mem_entries_iff.mp hlisted) hflags.1
  have h := avoidsLocal_pushAdvertisedSubject (V := V) context [name] hkeys
  rw [List.flatMap_singleton] at h
  rwa [syncAllSubjectsToTransport, List.map_map]

/-- A step that keeps the stored keys and makes calls without local keys. -/
lemma LocalInv.proceed (hs : LocalInv registry s) {calls : List (TransportCall V)}
    (hregistry : context.namespaceRegistry = registry)
    (hstores : StoresOnly (fun key => registry.isLocalSubject key = false) context)
    (hcalls : AvoidsLocal registry calls) : LocalInv registry (s.proceed context calls) where
  registry_eq := hregistry
  recorded := hs.recorded
  stores := hstores
  registrations := hs.registrations
  calls := hs.calls.append hcalls

@[simp] lemma namespaceRegistry_purgeRemoteHandlersForTransport (context : BusContext H)
    (name : String) : (purgeRemoteHandlersForTransport context name).1.namespaceRegistry =
      context.namespaceRegistry := by
  rfl

/-- A purge pushes keys that were stored, if any. -/
lemma purgeRemoteHandlersForTransport_calls {P : Key → Prop} {context : BusContext H}
    (hstores : StoresOnly P context) (name : String) :
    (purgeRemoteHandlersForTransport context name).2 = [] ∨ ∃ affected, (∀ key ∈ affected, P key) ∧
      (purgeRemoteHandlersForTransport context name).2 = pushAdvertisedSubjectsToPeers
        (purgeRemoteHandlersForTransport context name).1 (some name) affected := by
  have hlisted : ∀ {α : Type} {m : OrderedMap Key α} {f : Key × α → Bool} {key : Key},
      (∀ key ∈ m.keys, P key) → key ∈ (m.entries.filter f).map Prod.fst → P key := by
    intro α m f key hm h
    obtain ⟨e, he, rfl⟩ := List.mem_map.mp h
    exact hm _ (List.mem_map_of_mem (List.mem_filter.mp he).1)
  unfold purgeRemoteHandlersForTransport
  dsimp only
  split_ifs
  · exact Or.inl rfl
  · refine Or.inr ⟨_, fun key hkey => ?_, rfl⟩
    rw [List.mem_eraseDups, List.mem_append, List.mem_append] at hkey
    rcases hkey with (h | h) | h
    · exact hlisted hstores.remoteRequestHandlers h
    · exact hlisted hstores.remoteEventHandlers h
    · exact hlisted hstores.remoteSubscriptionDeliveryClasses h

/-- **Purging a transport** pushes no local key. -/
lemma LocalInv.avoidsLocal_purge (hs : LocalInv registry s) (hregistry : context.namespaceRegistry = registry)
    (hstores : StoresOnly (fun key => registry.isLocalSubject key = false) context) (name : String) :
    AvoidsLocal registry
      (advertised (V := V) (purgeRemoteHandlersForTransport context name).2) := by
  rcases purgeRemoteHandlersForTransport_calls hstores name with hnil | ⟨affected, haffected, hpush⟩
  · rw [hnil]
    exact fun call hcall => absurd hcall (by simp [advertised])
  · rw [hpush]
    refine hs.avoidsLocal_push ?_ haffected
    rw [namespaceRegistry_purgeRemoteHandlersForTransport, hregistry]

/-- A subscribe message keeps the registry, and stores its own keys only. -/
lemma StoresOnly.propagateSubscribe {P : Key → Prop} {context : BusContext H}
    (hs : StoresOnly P context) (source : String) (message : BusSubscribeMessage)
    (hkeys : ∀ key ∈ message.subjects.keys, P key) :
    StoresOnly P (propagateSubscribe context source message).1 ∧
      (propagateSubscribe context source message).1.namespaceRegistry =
        context.namespaceRegistry := by
  have hentries : ∀ e ∈ message.subjects.entries, P e.1 :=
    fun e he => hkeys _ (List.mem_map_of_mem he)
  unfold Bus.propagateSubscribe
  revert hentries hs
  generalize message.subjects.entries = entries
  induction entries generalizing context with
  | nil => exact fun hs _ => ⟨hs, rfl⟩
  | cons e entries ih =>
    intro hs hentries
    rw [List.foldl_cons]
    have hrest := ih (hs.replaceRemoteSubscription source (hentries e (by simp)) e.2
      (normalizeSubscriptionDeliveryClass (message.deliveryClasses.get? e.1)))
      fun e' he' => hentries e' (by simp [he'])
    refine ⟨hrest.1, hrest.2.trans ?_⟩
    unfold Bus.replaceRemoteSubscription Bus.removeRemoteEventSubscription
    dsimp only
    repeat' split
    all_goals rfl

/-- An unsubscribe message keeps the registry, and stores nothing. -/
lemma StoresOnly.propagateUnsubscribe {P : Key → Prop} {context : BusContext H}
    (hs : StoresOnly P context) (source : String) (message : BusUnsubscribeMessage) :
    StoresOnly P (propagateUnsubscribe context source message).1 ∧
      (propagateUnsubscribe context source message).1.namespaceRegistry =
        context.namespaceRegistry := by
  unfold Bus.propagateUnsubscribe
  revert hs
  generalize message.subjects = subjects
  induction subjects generalizing context with
  | nil => exact fun hs => ⟨hs, rfl⟩
  | cons subject subjects ih =>
    intro hs
    rw [List.foldl_cons]
    have hrest := ih (hs.removeRemoteSubscription source subject)
    refine ⟨hrest.1, hrest.2.trans ?_⟩
    unfold Bus.removeRemoteSubscription removeDeliveryClass Bus.removeRemoteEventSubscription
      removeRemoteRoutes
    dsimp only
    repeat' split
    all_goals rfl

/-- A handler of a subject that is not local, or its removal. -/
lemma LocalInv.changeHandlers (hs : LocalInv registry s) {bus : BusState H} {key : Key}
    (hregistry : bus.context.namespaceRegistry = registry)
    (hstores : StoresOnly (fun key => registry.isLocalSubject key = false) bus.context)
    (hregistrations : ∀ r ∈ bus.registrations, registry.isLocalSubject r.key = false)
    (hkey : registry.isLocalSubject key = false) :
    LocalInv registry ⟨bus, s.calls ++
      advertised (pushAdvertisedSubjectsToPeers bus.context none [key])⟩ where
  registry_eq := hregistry
  recorded := hs.recorded
  stores := hstores
  registrations := hregistrations
  calls := hs.calls.append (hs.avoidsLocal_push hregistry (by simpa using hkey))

variable [ObjectSpread V]

/-- **A received message** keeps the invariant if it does not subscribe to a local key. -/
theorem localInv_handleIncomingMessage (hs : LocalInv registry s)
    (env : Surroundings (HandlerRef H) V) (transportName : String) {message : InboundMessage V}
    (hok : RespectsLocal registry (env, BusAction.receive (H := H) transportName message)) :
    LocalInv registry (handleIncomingMessage env s transportName message) := by
  cases message with
  | event message =>
    exact hs.proceed hs.registry_eq hs.stores fun call hcall key hkey =>
      hs.registry_eq ▸ key_of_mem_handleEventMessage hcall hkey
  | request message =>
    exact hs.proceed hs.registry_eq hs.stores fun call hcall key hkey =>
      hs.registry_eq ▸ key_of_mem_answerRequestMessage hcall hkey
  | broadcast message =>
    exact hs.proceed hs.registry_eq hs.stores fun call hcall key hkey =>
      hs.registry_eq ▸ key_of_mem_handleBroadcastMessage hcall hkey
  | subscribe message =>
    obtain ⟨hstores, hregistry⟩ := hs.stores.propagateSubscribe transportName message hok
    rw [hs.registry_eq] at hregistry
    exact hs.proceed hregistry hstores (hs.avoidsLocal_push hregistry hok)
  | unsubscribe message =>
    obtain ⟨hstores, hregistry⟩ := hs.stores.propagateUnsubscribe transportName message
    rw [hs.registry_eq] at hregistry
    exact hs.proceed hregistry hstores (hs.avoidsLocal_push hregistry hok)

omit [ObjectSpread V] in
/-- **Registering a transport** keeps the invariant. -/
theorem localInv_registerTransport (hs : LocalInv registry s) (name : String) (isReady : Bool) :
    LocalInv registry (s.proceed (registerTransport s.bus.context name isReady).1
      (advertised (registerTransport s.bus.context name isReady).2)) := by
  unfold registerTransport
  split_ifs
  · have hregistry : (purgeRemoteHandlersForTransport s.bus.context name).1.namespaceRegistry =
        registry := by
      rw [namespaceRegistry_purgeRemoteHandlersForTransport, hs.registry_eq]
    have hstores := hs.stores.purgeRemoteHandlersForTransport name
    refine hs.proceed hregistry { hstores with } ?_
    rw [advertised, List.map_append]
    exact (hs.avoidsLocal_purge hs.registry_eq hs.stores name).append
      (hs.avoidsLocal_sync hregistry { hstores with } name)
  · refine hs.proceed hs.registry_eq { hs.stores with } ?_
    exact hs.avoidsLocal_sync hs.registry_eq { hs.stores with } name

omit [ObjectSpread V] in
/-- **Unregistering a transport** keeps the invariant. -/
theorem localInv_unregister (hs : LocalInv registry s) (name : String) :
    LocalInv registry (s.proceed (unregister s.bus.context name).1
      (advertised (unregister s.bus.context name).2)) := by
  unfold unregister
  generalize hremoved : ({ s.bus.context with
    transports := s.bus.context.transports.delete name } : BusContext (HandlerRef H)) = removed
  have hregistry : removed.namespaceRegistry = registry := hremoved ▸ hs.registry_eq
  have hstores : StoresOnly (fun key => registry.isLocalSubject key = false) removed :=
    hremoved ▸ { hs.stores with }
  refine hs.proceed ?_ (hstores.purgeRemoteHandlersForTransport name)
    (hs.avoidsLocal_purge hregistry hstores name)
  rw [namespaceRegistry_purgeRemoteHandlersForTransport, hregistry]

variable [DecidableEq H]

/-- **Every action that respects the local subjects** keeps the invariant. -/
theorem localInv_step {t : LoggedBus H V} {a : Surroundings (HandlerRef H) V × BusAction H V}
    (hs : LocalInv registry s) (hok : RespectsLocal registry a) (hstep : busStep s a = some t) :
    LocalInv registry t := by
  -- a message of the bus itself is for a definition that is not marked local
  have hown : ∀ {definition : SubjectDefinition} {calls : List (TransportCall V)},
      (registry.isLocalSubject (getFullSubjectForSubjectDefinition definition) = true →
        definition.isLocal = true) →
      (∀ call ∈ calls, call.key = some (getFullSubjectForSubjectDefinition definition) ∧
        definition.isLocal = false) → LocalInv registry (s.proceed s.bus.context calls) := by
    intro definition calls hmarked hcalls
    refine hs.proceed hs.registry_eq hs.stores fun call hcall key hkey => ?_
    obtain ⟨hdefinition, hlocal⟩ := hcalls call hcall
    cases hdefinition.symm.trans hkey
    refine Bool.eq_false_iff.mpr fun h => ?_
    rw [hmarked h] at hlocal
    cases hlocal
  obtain ⟨env, action⟩ := a
  cases action with
  | emit definition payload transports connectionId =>
    cases hstep
    exact hown hok fun call hcall => key_of_mem_emit hcall
  | request definition payload transports =>
    cases hstep
    exact hown hok fun call hcall => key_of_mem_requestCalls hcall
  | broadcast definition payload transports =>
    cases hstep
    exact hown hok fun call hcall => key_of_mem_broadcast hcall
  | on definition handler options =>
    cases hstep
    refine hs.changeHandlers hs.registry_eq (hs.stores.on hok handler options) ?_ hok
    intro r hr
    rcases List.mem_append.mp hr with hr | hr
    · exact hs.registrations r hr
    · obtain rfl := List.mem_singleton.mp hr
      exact hok
  | unsubscribe id =>
    obtain ⟨r, hfind, rfl⟩ := Option.map_eq_some_iff.mp hstep
    have hkey := hs.registrations r (List.mem_of_find?_eq_some hfind)
    refine hs.changeHandlers hs.registry_eq (hs.stores.unsubscribe r) ?_ hkey
    intro r' hr'
    obtain ⟨old, hold, rfl⟩ := List.mem_map.mp hr'
    split_ifs
    · exact hs.registrations old hold
    · exact hs.registrations old hold
  | registerTransport name isReady =>
    cases hstep
    exact localInv_registerTransport hs name isReady
  | unregister name =>
    rw [busStep] at hstep
    split_ifs at hstep
    cases hstep
    exact localInv_unregister hs name
  | setReady name isReady =>
    rw [busStep] at hstep
    split_ifs at hstep
    cases hstep
    exact hs.proceed hs.registry_eq { hs.stores with } fun call hcall => by cases hcall
  | receive transportName message =>
    rw [busStep] at hstep
    split_ifs at hstep
    cases hstep
    exact localInv_handleIncomingMessage hs env transportName hok

/-- **Local subjects are invisible to transports.**  Along every run whose actions respect the local
subjects, no call on a transport carries the key of one, neither as a message nor as a
subscription. -/
theorem localSubjects_invisible
    (hreach : Reach (LocalInit registry) busStep (fun _ a => RespectsLocal registry a) s) :
    ∀ call ∈ s.calls, ∀ key, registry.isLocalSubject key = true → call.key ≠ some key := by
  have hinv : LocalInv registry s :=
    Reach.invariant (LocalInv registry) (fun _ hs => hs.toLocalInv)
      (fun _ _ _ hs hok hstep => localInv_step hs hok hstep) hreach
  intro call hcall key hlocal hkey
  rw [hinv.calls call hcall key hkey] at hlocal
  cases hlocal

end Steps

/-! ### Two runs -/

/-- A registry with the local subject `app.state`. -/
def appRegistry : NamespaceRegistry :=
  NamespaceRegistry.registerSubject "app" none .empty ("state", ⟨true, false, false, false, none⟩)

/-- A bus with this registry and one transport. -/
def appBus : LoggedBus ℕ Unit where
  bus := ⟨{ BusContext.empty with
    namespaceRegistry := appRegistry
    transports := singleton "peer" true }, []⟩
  calls := []

lemma localInit_appBus : LocalInit appRegistry appBus where
  registry_eq := rfl
  recorded := by
    intro key registered hget hhost
    have hall : ∀ e ∈ appRegistry.registeredSubjects.entries, e.2.hostLocalRequest = false := by
      decide
    have h := hall _ (OrderedMap.mem_entries_iff.mpr hget)
    rw [hhost] at h
    cases h
  stores := by constructor <;> exact fun key hkey => absurd hkey (by simp [appBus, BusContext.empty,
    OrderedMap.keys, OrderedMap.empty])
  registrations := fun r hr => absurd hr (by simp [appBus])
  calls := fun call hcall => absurd hcall (by simp [appBus])
  calls_nil := rfl

/-- Surroundings in which nothing goes wrong and nobody answers. -/
def quietSurroundings : Surroundings (HandlerRef ℕ) Unit where
  canSend _ _ := none
  hasSendToConnection _ := false
  hasOnBroadcastResults _ := false
  executeInterceptors _ payload := some payload
  completes _ _ := true
  program _ _ := .done
  executeLocalBroadcastHandler _ _ := []
  answer _ _ := none
  broadcastAnswer _ _ := []

/-- The event `app.log`, the local event `app.state`, and the wildcard `app.*`. -/
def appLog : SubjectDefinition := ⟨"log", "app", false, false, none⟩

@[inherit_doc appLog] def appState : SubjectDefinition := ⟨"state", "app", false, true, none⟩

@[inherit_doc appLog] def appWildcard : SubjectDefinition := ⟨"*", "app", false, false, none⟩

/-- A wildcard handler, both events, the local event from a peer, and a second transport. -/
def wildcardRun : List (Surroundings (HandlerRef ℕ) Unit × BusAction ℕ Unit) :=
  [.on appWildcard 0 .none, .emit appLog () none none, .emit appState () none none,
    .receive "peer" (.event ⟨"state", "app", ()⟩), .registerTransport "worker" true].map
      fun action => (quietSurroundings, action)

/-- The run makes three calls: two subscriptions of `app.*` and the message of `app.log`. -/
theorem localSubjects_invisible_wildcardRun :
    ∃ s, runGuarded busStep (fun _ a => RespectsLocal appRegistry a) appBus wildcardRun = some s ∧
      s.calls.map TransportCall.key = [some "app.*", some "app.log", some "app.*"] ∧
      ∀ call ∈ s.calls, ∀ key, appRegistry.isLocalSubject key = true → call.key ≠ some key :=
  ⟨_, rfl, by decide, localSubjects_invisible
    (Reach.of_runGuarded wildcardRun (.start localInit_appBus) rfl)⟩

/-- **A handler of a local subject is advertised**: one `on()` call of `app.state` subscribes the
transport to it. -/
theorem localSubject_advertised :
    ∃ s, runGuarded busStep (fun _ _ => True) appBus
        [(quietSurroundings, .on appState 0 .none)] = some s ∧
      appRegistry.isLocalSubject "app.state" = true ∧
      s.calls = [.advertise "peer" (.subscribe "app.state" [] .relayable)] :=
  ⟨_, rfl, by decide, rfl⟩

end Makaio.Bus
