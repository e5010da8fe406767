import Makaio.Bus.Context

set_option autoImplicit false

/-!
# Advertised state

What a bus tells a peer about one subject key (`registries/advertised-state.ts`): the priorities of
its own request handlers that match the key and of the relayable routes it learned under the key
from other transports, or that there is nothing left.  The whole state of the key is recomputed and
pushed each time.

Pushing a pattern also pushes the exact host-local subjects the pattern covers, as a guard for the
relayable pattern.

## Main definitions

* `pushAdvertisedSubject` — the state of one key, as a call on the target transport.
* `pushAdvertisedSubjectsToPeers` — the calls after a change.
* `syncAllSubjectsToTransport` — the calls to a new transport.

## Main results

* `mem_priorities_pushAdvertisedSubject` — the priorities pushed.
* `mem_expandHostLocalWildcardSubjects` — the keys pushed after a change.
-/

namespace Makaio.Bus

open Foundations

/-- A subscription call on a transport. -/
inductive AdvertisementCall
  /-- `transport.subscribe(subject, undefined, priorities, deliveryClass)` -/
  | subscribe (subject : Key) (priorities : List ℤ) (deliveryClass : SubscriptionDeliveryClass)
  /-- `transport.unsubscribe(subject)` -/
  | unsubscribe (subject : Key)

namespace AdvertisementCall

/-- The key a call is about. -/
def subject : AdvertisementCall → Key
  | subscribe subject _ _ => subject
  | unsubscribe subject => subject

/-- The priorities a call leaves at the receiver. -/
def priorities : AdvertisementCall → List ℤ
  | subscribe _ priorities _ => priorities
  | unsubscribe _ => []

/-- The delivery class a call leaves at the receiver. -/
def deliveryClass? : AdvertisementCall → Option SubscriptionDeliveryClass
  | subscribe _ _ deliveryClass => some deliveryClass
  | unsubscribe _ => none

end AdvertisementCall

section Push

variable {H : Type} (context : BusContext H)

/-- The learned routes of a key that are shown to a target transport: the relayable ones of other
transports, and none for a host-local request subject. -/
def foreignEntries (targetTransportName : String) (subject : Key) : List RemoteRoute :=
  if context.namespaceRegistry.isHostLocalRequestSubject subject then []
  else ((context.remoteRequestHandlers.get? subject).getD []).filter fun entry =>
    entry.transport ≠ targetTransportName ∧
      deliveryClass? context subject entry.transport = some .relayable

/-- Whether some other transport has relayable event handlers for a key. -/
def hasForeignEventHandlers (targetTransportName : String) (subject : Key) : Bool :=
  !context.namespaceRegistry.isHostLocalRequestSubject subject &&
    ((context.remoteEventHandlers.get? subject).getD []).any fun transportName =>
      transportName ≠ targetTransportName ∧
        deliveryClass? context subject transportName = some .relayable

/-- Push the full advertised state for one (target, subject) pair. -/
def pushAdvertisedSubject (targetTransportName : String) (subject : Key) : AdvertisementCall :=
  let localEntries := getMatchingHandlerEntries context.requestHandlers subject
  let hasLocalEventHandlers := context.eventHandlers.has subject
  let hasLocalHandlers := 0 < localEntries.length || hasLocalEventHandlers
  let isHostLocalRequest := context.namespaceRegistry.isHostLocalRequestSubject subject
  let prioritySet := (localEntries.map HandlerEntry.priority ++
    (foreignEntries context targetTransportName subject).map RemoteRoute.priority).eraseDups
  if prioritySet.length = 0 && !hasLocalEventHandlers &&
      !hasForeignEventHandlers context targetTransportName subject then
    -- nothing to advertise: tell the target to stop routing it
    .unsubscribe subject
  else
    .subscribe subject prioritySet
      (if hasLocalHandlers && isHostLocalRequest then .firstHopOnly else .relayable)

/-- Add exact host-local subjects covered by affected wildcard request handlers. -/
def expandHostLocalWildcardSubjects (affectedSubjects : List Key) : List Key :=
  let guards := context.namespaceRegistry.listRegisteredSubjects.filter fun registered =>
    registered.2.hostLocalRequest &&
      affectedSubjects.any fun pattern => matchesSubscription registered.1 pattern
  (affectedSubjects ++ guards.map Prod.fst).eraseDups

/-- Push updated advertised state for the given subjects to all registered transports except the
excluded one. -/
def pushAdvertisedSubjectsToPeers (excludeTransportName : Option String)
    (affectedSubjects : List Key) : List (String × AdvertisementCall) :=
  let expandedSubjects := expandHostLocalWildcardSubjects context affectedSubjects
  let names := context.transports.keys.filter fun name => excludeTransportName ≠ some name
  names.flatMap fun name => expandedSubjects.map fun subject =>
    (name, pushAdvertisedSubject context name subject)

/-- The subjects synced to a new transport. -/
def syncSubjects : List Key :=
  let guards := context.namespaceRegistry.listRegisteredSubjects.filter fun registered =>
    registered.2.hostLocalRequest &&
      0 < (getMatchingHandlerEntries context.requestHandlers registered.1).length
  (context.requestHandlers.keys ++ context.eventHandlers.keys ++
    context.remoteRequestHandlers.keys ++ context.remoteEventHandlers.keys ++
    context.remoteSubscriptionDeliveryClasses.keys ++ guards.map Prod.fst).eraseDups

/-- Sync the full current handler state to a newly registered transport. -/
def syncAllSubjectsToTransport (transportName : String) : List AdvertisementCall :=
  (syncSubjects context).map (pushAdvertisedSubject context transportName)

variable {context} {targetTransportName : String} {subject : Key}

@[simp] lemma subject_pushAdvertisedSubject :
    (pushAdvertisedSubject context targetTransportName subject).subject = subject := by
  unfold pushAdvertisedSubject
  dsimp only
  split_ifs <;> rfl

/-- The priorities pushed are those of the matching handlers and of the foreign routes. -/
theorem mem_priorities_pushAdvertisedSubject {p : ℤ} :
    p ∈ (pushAdvertisedSubject context targetTransportName subject).priorities ↔
      (∃ entry ∈ getMatchingHandlerEntries context.requestHandlers subject, entry.priority = p) ∨
        ∃ route ∈ foreignEntries context targetTransportName subject, route.priority = p := by
  have hset : p ∈ ((getMatchingHandlerEntries context.requestHandlers subject).map
      HandlerEntry.priority ++ (foreignEntries context targetTransportName subject).map
        RemoteRoute.priority).eraseDups ↔
      (∃ entry ∈ getMatchingHandlerEntries context.requestHandlers subject, entry.priority = p) ∨
        ∃ route ∈ foreignEntries context targetTransportName subject, route.priority = p := by
    rw [List.mem_eraseDups, List.mem_append, List.mem_map, List.mem_map]
  rw [← hset]
  unfold pushAdvertisedSubject
  dsimp only
  split_ifs with hnone
  · have hnil : ((getMatchingHandlerEntries context.requestHandlers subject).map
        HandlerEntry.priority ++ (foreignEntries context targetTransportName subject).map
          RemoteRoute.priority).eraseDups = [] := by
      simp only [Bool.and_eq_true, decide_eq_true_eq] at hnone
      exact List.length_eq_zero_iff.mp hnone.1.1
    rw [hnil]
    rfl
  · exact Iff.rfl
  · exact Iff.rfl

/-- A host-local request subject with a handler is pushed as first-hop-only. -/
theorem deliveryClass?_pushAdvertisedSubject_of_hostLocal
    (hhost : context.namespaceRegistry.isHostLocalRequestSubject subject = true)
    (hentry : getMatchingHandlerEntries context.requestHandlers subject ≠ []) :
    (pushAdvertisedSubject context targetTransportName subject).deliveryClass? =
      some .firstHopOnly := by
  obtain ⟨entry, rest, hcons⟩ := List.exists_cons_of_ne_nil hentry
  unfold pushAdvertisedSubject
  simp [hcons, hhost, List.eraseDups_cons, AdvertisementCall.deliveryClass?]

/-- The keys pushed after a change: the affected ones, and the registered host-local subjects they
cover. -/
theorem mem_expandHostLocalWildcardSubjects {affectedSubjects : List Key} :
    subject ∈ expandHostLocalWildcardSubjects context affectedSubjects ↔
      subject ∈ affectedSubjects ∨
        (∃ registered, context.namespaceRegistry.registeredSubjects.get? subject = some registered ∧
          registered.hostLocalRequest = true) ∧
        ∃ pattern ∈ affectedSubjects, matchesSubscription subject pattern = true := by
  unfold expandHostLocalWildcardSubjects
  rw [List.mem_eraseDups, List.mem_append]
  refine or_congr_right ?_
  constructor
  · intro h
    obtain ⟨⟨key, registered⟩, hmem, rfl⟩ := List.mem_map.mp h
    obtain ⟨hlisted, hflags⟩ := List.mem_filter.mp hmem
    rw [Bool.and_eq_true, List.any_eq_true] at hflags
    rw [NamespaceRegistry.listRegisteredSubjects, List.mem_insertionSort] at hlisted
    exact ⟨⟨registered, OrderedMap.mem_entries_iff.mp hlisted, hflags.1⟩, hflags.2⟩
  · rintro ⟨⟨registered, hget, hhost⟩, hpattern⟩
    refine List.mem_map.mpr ⟨(subject, registered), List.mem_filter.mpr ⟨?_, ?_⟩, rfl⟩
    · rw [NamespaceRegistry.listRegisteredSubjects, List.mem_insertionSort]
      exact OrderedMap.mem_entries_iff.mpr hget
    · rw [Bool.and_eq_true, List.any_eq_true]
      exact ⟨hhost, hpattern⟩

end Push

end Makaio.Bus
