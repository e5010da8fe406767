import Makaio.Bus.RemoteSubscriptions
import Makaio.Bus.Subscriptions

set_option autoImplicit false

/-!
# A bus and its subscription calls

A bus as a whole: its context together with the `on()` calls made so far.  Registering and
unsubscribing a handler changes the handler maps as in `Makaio.Bus.Subscriptions` and then advertises
the key of the handler to all transports.

## Main definitions

* `BusState` — a bus.
* `BusState.on`, `BusState.unsubscribe` — the new state and the calls made on
  transports.
* `callsTo` — the calls on one transport.

## Main results

* `callsTo_pushAdvertisedSubjectsToPeers` — the calls on one transport after a change.
* `hasRoute_foldl_receiveCall`, `deliveryClass?_foldl_receiveCall` — what a
  peer holds once it has received the state of some keys.
-/

namespace Makaio.Bus

open Foundations

/-- A bus: its context, and the `on()` calls made so far. -/
structure BusState (H : Type) where
  context : BusContext (HandlerRef H)
  registrations : List (Registration H)

namespace BusState

variable {H : Type}

/-- The subscription registry of a bus. -/
def registry (s : BusState H) : Registry H where
  eventHandlers := s.context.eventHandlers
  requestHandlers := s.context.requestHandlers
  registrations := s.registrations

/-- A bus with another subscription registry. -/
def withRegistry (s : BusState H) (r : Registry H) : BusState H where
  context := { s.context with
    eventHandlers := r.eventHandlers
    requestHandlers := r.requestHandlers }
  registrations := r.registrations

/-- Register an event or request handler and advertise its key. -/
def on (s : BusState H) (definition : SubjectDefinition) (handler : H) (options : OnOptions) :
    BusState H × List (String × AdvertisementCall) :=
  let s := s.withRegistry (Bus.on s.registry definition handler options)
  (s, pushAdvertisedSubjectsToPeers s.context none [getFullSubjectForSubjectDefinition definition])

/-- Call the unsubscribe function of one registration: remove the handler and advertise its key. -/
def unsubscribe [DecidableEq H] (s : BusState H) (r : Registration H) :
    BusState H × List (String × AdvertisementCall) :=
  let s := s.withRegistry (Bus.unsubscribe s.registry r)
  (s, pushAdvertisedSubjectsToPeers s.context none [r.key])

end BusState

/-- The calls made on one transport. -/
def callsTo (transport : String) (calls : List (String × AdvertisementCall)) :
    List AdvertisementCall :=
  (calls.filter fun call => call.1 = transport).map Prod.snd

variable {key : Key}

section Calls

variable {H : Type}
variable {transport source : String}

/-- The calls on one transport after a change: the state of the affected keys, and of the host-local
subjects they cover. -/
theorem callsTo_pushAdvertisedSubjectsToPeers {context : BusContext H}
    (htransport : transport ∈ context.transports.keys) {exclude : Option String}
    (hexclude : exclude ≠ some transport) (affected : List Key) :
    callsTo transport (pushAdvertisedSubjectsToPeers context exclude affected) =
      (expandHostLocalWildcardSubjects context affected).map
        (pushAdvertisedSubject context transport) := by
  have hone : (context.transports.keys.filter fun name => exclude ≠ some name).filter
      (fun name => name = transport) = [transport] := by
    have hnodup : context.transports.keys.Nodup := context.transports.nodup
    refine List.perm_singleton.mp ((List.perm_ext_iff_of_nodup ((hnodup.filter _).filter _)
      (List.nodup_singleton _)).mpr fun name => ?_)
    rw [List.mem_filter, List.mem_filter, List.mem_singleton, decide_eq_true_eq,
      decide_eq_true_eq]
    constructor
    · exact fun h => h.2
    · rintro rfl
      exact ⟨⟨htransport, hexclude⟩, rfl⟩
  unfold callsTo pushAdvertisedSubjectsToPeers
  rw [List.filter_flatMap]
  have hblock : ∀ name, ((expandHostLocalWildcardSubjects context affected).map fun subject =>
      (name, pushAdvertisedSubject context name subject)).filter (fun call => call.1 = transport) =
      if name = transport then (expandHostLocalWildcardSubjects context affected).map
        fun subject => (name, pushAdvertisedSubject context name subject) else [] := by
    intro name
    split_ifs with h
    · exact List.filter_eq_self.mpr fun call hcall => by
        obtain ⟨subject, -, rfl⟩ := List.mem_map.mp hcall
        simpa using h
    · exact List.filter_eq_nil_iff.mpr fun call hcall => by
        obtain ⟨subject, -, rfl⟩ := List.mem_map.mp hcall
        simpa using h
  have hfilter : ∀ names : List String, (names.flatMap fun name => if name = transport then
      (expandHostLocalWildcardSubjects context affected).map
        fun subject => (name, pushAdvertisedSubject context name subject) else []) =
      (names.filter fun name => name = transport).flatMap fun name =>
        (expandHostLocalWildcardSubjects context affected).map
          fun subject => (name, pushAdvertisedSubject context name subject) := by
    intro names
    induction names with
    | nil => rfl
    | cons name names ih =>
      rw [List.flatMap_cons, ih, List.filter_cons]
      by_cases h : name = transport <;> simp [h]
  simp only [hblock]
  rw [hfilter, hone, List.flatMap_singleton, List.map_map]
  rfl

variable (push : Key → AdvertisementCall)

/-- What a peer holds once it has received the state of some keys: what was sent under these, and
what it held before under the others. -/
theorem hasRoute_foldl_receiveCall (hpush : ∀ key, (push key).subject = key) (keys : List Key)
    {route : RemoteRoute} :
    ∀ {peer : BusContext H},
      HasRoute ((keys.map push).foldl (fun peer call => (receiveCall peer source call).1) peer) key
          route ↔
        if key ∈ keys ∧ route.transport = source then route.priority ∈ (push key).priorities
        else HasRoute peer key route := by
  induction keys with
  | nil => intro peer; simp
  | cons k keys ih =>
    intro peer
    rw [List.map_cons, List.foldl_cons, ih, hasRoute_receiveCall, hpush]
    by_cases hmem : key ∈ keys <;> by_cases hk : key = k <;>
      by_cases hsource : route.transport = source <;> simp [hmem, hk, hsource]

theorem deliveryClass?_foldl_receiveCall (hpush : ∀ key, (push key).subject = key) (keys : List Key) :
    ∀ {peer : BusContext H},
      deliveryClass? ((keys.map push).foldl (fun peer call => (receiveCall peer source call).1)
          peer) key transport =
        if key ∈ keys ∧ transport = source then (push key).deliveryClass?
        else deliveryClass? peer key transport := by
  induction keys with
  | nil => intro peer; simp
  | cons k keys ih =>
    intro peer
    rw [List.map_cons, List.foldl_cons, ih, deliveryClass?_receiveCall, hpush]
    by_cases hmem : key ∈ keys <;> by_cases hk : key = k <;>
      by_cases hsource : transport = source <;> simp [hmem, hk, hsource]

end Calls

/-! ### Handlers before and after a step -/

section Handlers

variable {H : Type} {s : BusState H}

section

variable (definition : SubjectDefinition) (handler : H) (options : OnOptions)
include definition handler options

/-- The request handlers after an `on()` call. -/
lemma requestHandlers_on :
    (s.on definition handler options).1.context.requestHandlers =
      let r := newRegistration s.registry definition handler options
      if .requestHandlers ∈ r.maps then
        addToHandlerMap s.context.requestHandlers r.key r.handler r.priority
      else s.context.requestHandlers :=
  handlers_on s.registry definition handler options .requestHandlers

/-- An `on()` call changes one key. -/
lemma get?_requestHandlers_on_of_ne (hkey : key ≠ getFullSubjectForSubjectDefinition definition) :
    (s.on definition handler options).1.context.requestHandlers.get? key =
      s.context.requestHandlers.get? key := by
  rw [requestHandlers_on]
  dsimp only
  split_ifs
  · rw [get?_addToHandlerMap]
    exact if_neg hkey
  · rfl

/-- An `on()` call only adds handlers. -/
lemma mem_getMatchingHandlerEntries_on {subject : Key} {entry : HandlerEntry (HandlerRef H)}
    (hentry : entry ∈ getMatchingHandlerEntries s.context.requestHandlers subject) :
    entry ∈ getMatchingHandlerEntries
      (s.on definition handler options).1.context.requestHandlers subject := by
  rw [requestHandlers_on]
  dsimp only
  split_ifs
  · exact mem_getMatchingHandlerEntries_add hentry _ _ _
  · exact hentry

end

variable [DecidableEq H]

/-- An unsubscribe call changes one key. -/
lemma get?_requestHandlers_unsubscribe_of_ne {r : Registration H} (hkey : key ≠ r.key) :
    (s.unsubscribe r).1.context.requestHandlers.get? key =
      s.context.requestHandlers.get? key := by
  have hfold : ∀ (maps : List HandlerMapKey) (registry : Registry H),
      ((maps.foldl (fun s mapKey => s.modify mapKey fun map =>
        removeFromHandlerMap map r.key r.handler) registry).handlers .requestHandlers).get? key =
      (registry.handlers .requestHandlers).get? key := by
    intro maps
    induction maps with
    | nil => exact fun registry => rfl
    | cons mapKey maps ih =>
      intro registry
      rw [List.foldl_cons, ih, handlers_modify]
      split_ifs with h
      · rw [get?_removeFromHandlerMap, if_neg hkey, h]
      · rfl
  exact hfold r.maps s.registry

end Handlers

end Makaio.Bus
