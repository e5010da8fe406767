import Makaio.Bus.Advertisement
import Makaio.Bus.Confinement

set_option autoImplicit false

/-!
# Host-local requests across a chain of buses

Three buses in a row.  A subject the far bus registered with `hostLocalRequest()` may be requested
from the middle bus but not, through the middle one, from the near bus.  The middle bus need not know
the subject; it learns from the advertisements of the far bus which routes it may relay.  A handler
for a wildcard is advertised as relayable, and the host-local subjects it covers are protected by a
separate first-hop-only advertisement of their own key, the guard.

The guard is what every state has to have.  It is pushed behind the wildcard it protects, so a request
can overtake it; and registering a namespace pushes nothing, so a handler that was there before is
not guarded.

## Main definitions

* `Chain`, `chainStep` — the three buses and the calls in flight.
* `RegistersFirst` — host-local subjects are registered before they have handlers.
* `GuardSettled` — no advertisement of the subject itself is in flight.

## Main results

* `chainInv_step` — a host-local subject with a handler has its guard on the way.
* `hostLocal_not_relayed` — no handler of the far bus runs through the middle one.
* `hostLocal_relayed_unguarded` — two runs without a guard in place.
-/

namespace Makaio.Bus

open Foundations Relation

/-- The three buses. -/
inductive ChainNode
  | near
  | middle
  | far
  deriving DecidableEq

/-- The names of the transports at their ends. -/
structure ChainNames where
  nearToMiddle : String
  middleToNear : String
  middleToFar : String
  farToMiddle : String
  distinct : middleToNear ≠ middleToFar

/-- Three buses in a row, with the subscription calls in flight towards the near one. -/
structure Chain (H : Type) where
  near : BusContext (HandlerRef H)
  toNear : List AdvertisementCall
  middle : BusContext (HandlerRef H)
  toMiddle : List AdvertisementCall
  far : BusState H

/-- What can happen. -/
inductive ChainAction (H : Type)
  /-- At the far bus. -/
  | on (definition : SubjectDefinition) (handler : H) (options : OnOptions)
  /-- At the far bus. -/
  | unsubscribe (id : ℕ)
  | registerNamespace (node : ChainNode) (definition : BusNamespaceDefinition)
  | deliverToMiddle
  | deliverToNear

/-- Register a namespace at a bus; a registration that throws changes nothing. -/
def registerNamespaceAt {H : Type} (context : BusContext H) (definition : BusNamespaceDefinition) :
    BusContext H :=
  match context.namespaceRegistry.registerNamespace definition with
  | .ok registry => { context with namespaceRegistry := registry }
  | .error _ => context

section Machine

variable {H : Type} [DecidableEq H] (names : ChainNames)

/-- One action. -/
def chainStep (s : Chain H) : ChainAction H → Option (Chain H)
  | .on definition handler options =>
    let (far, calls) := s.far.on definition handler options
    some { s with far := far, toMiddle := s.toMiddle ++ callsTo names.farToMiddle calls }
  | .unsubscribe id => (s.far.registrations.find? fun r => r.id = id).map fun r =>
    let (far, calls) := s.far.unsubscribe r
    { s with far := far, toMiddle := s.toMiddle ++ callsTo names.farToMiddle calls }
  | .registerNamespace .near definition =>
    some { s with near := registerNamespaceAt s.near definition }
  | .registerNamespace .middle definition =>
    some { s with middle := registerNamespaceAt s.middle definition }
  | .registerNamespace .far definition =>
    some { s with far := { s.far with context := registerNamespaceAt s.far.context definition } }
  | .deliverToMiddle =>
    match s.toMiddle with
    | [] => none
    | call :: toMiddle =>
      let (middle, calls) := receiveCall s.middle names.middleToFar call
      some { s with
        middle := middle
        toMiddle := toMiddle
        toNear := s.toNear ++ callsTo names.middleToNear calls }
  | .deliverToNear =>
    match s.toNear with
    | [] => none
    | call :: toNear => some { s with
        near := (receiveCall s.near names.nearToMiddle call).1
        toNear := toNear }

/-- At the beginning the far bus has its transport and no handlers, and nothing is in flight. -/
structure ChainInit (s : Chain H) : Prop where
  transport : names.farToMiddle ∈ s.far.context.transports.keys
  requestHandlers : s.far.context.requestHandlers = .empty
  registry : s.far.context.namespaceRegistry = .empty
  toMiddle : s.toMiddle = []

/-- When the far bus registers a new namespace, its host-local subjects have no handlers yet (or are
host-local already), and no other subject of it is one that is host-local already. -/
def RegistersFirst (s : Chain H) : ChainAction H → Prop
  | .registerNamespace .far definition =>
    s.far.context.namespaceRegistry.namespaceRoutingMetadata.get? definition.name = none →
    ∀ entry ∈ definition.schemas.entries,
      let key := definition.name ++ "." ++ entry.1
      if entry.2.hostLocalRequest = true then
        s.far.context.namespaceRegistry.isHostLocalRequestSubject key = true ∨
          getMatchingHandlerEntries s.far.context.requestHandlers key = []
      else s.far.context.namespaceRegistry.isHostLocalRequestSubject key = false
  | _ => True

instance (s : Chain H) (a : ChainAction H) : Decidable (RegistersFirst s a) :=
  match a with
  | .registerNamespace .far definition => inferInstanceAs (Decidable
      (s.far.context.namespaceRegistry.namespaceRoutingMetadata.get? definition.name = none → _))
  | .registerNamespace .near _ => inferInstanceAs (Decidable True)
  | .registerNamespace .middle _ => inferInstanceAs (Decidable True)
  | .on _ _ _ => inferInstanceAs (Decidable True)
  | .unsubscribe _ => inferInstanceAs (Decidable True)
  | .deliverToMiddle => inferInstanceAs (Decidable True)
  | .deliverToNear => inferInstanceAs (Decidable True)

/-- No advertisement of the subject's own key is in flight to the middle bus, or that bus registered
the subject as host-local itself. -/
def GuardSettled (s : Chain H) (subject : Key) : Prop :=
  (∀ call ∈ s.toMiddle, call.subject ≠ subject) ∨
    s.middle.namespaceRegistry.isHostLocalRequestSubject subject = true

/-- The network of a chain; `program` is what the handlers do. -/
def chainNetwork {V : Type} (program : HandlerRef H → V → HandlerProgram V) (s : Chain H) :
    Network ChainNode (HandlerRef H) V where
  context
    | .near => s.near
    | .middle => s.middle
    | .far => s.far.context
  program := program
  peer
    | .near, transport => if transport = names.nearToMiddle then some .middle else none
    | .middle, transport =>
      if transport = names.middleToNear then some .near
      else if transport = names.middleToFar then some .far
      else none
    | .far, transport => if transport = names.farToMiddle then some .middle else none

/-- The invariant: a host-local subject of the far bus with a matching handler is first-hop-only at
the middle bus, once everything in flight has been delivered. -/
structure ChainInv (s : Chain H) : Prop where
  transport : names.farToMiddle ∈ s.far.context.transports.keys
  records : s.far.context.namespaceRegistry.RecordsHostLocal
  guarded : ∀ subject,
    s.far.context.namespaceRegistry.isHostLocalRequestSubject subject = true →
    getMatchingHandlerEntries s.far.context.requestHandlers subject ≠ [] →
    deliveryClass? (receiveCalls names.middleToFar s.middle s.toMiddle) subject names.middleToFar =
      some .firstHopOnly

end Machine

/-! ### Steps -/

section Steps

variable {H : Type} {names : ChainNames} {s : Chain H}

/-- Handlers that match a subject stay as they are if only a key changes that the subject does not
match. -/
lemma getMatchingHandlerEntries_ne_nil_of_other {map map' : HandlerMap H} {changed subject : Key}
    (hother : ∀ key, key ≠ changed → map'.get? key = map.get? key)
    (hsubject : matchesSubscription subject changed = false)
    (h : getMatchingHandlerEntries map' subject ≠ []) :
    getMatchingHandlerEntries map subject ≠ [] := by
  obtain ⟨entry, hentry⟩ := List.exists_mem_of_ne_nil _ h
  obtain ⟨key, entries, hget, hmatch, hmem⟩ := mem_getMatchingHandlerEntries.mp hentry
  have hne : key ≠ changed := by
    rintro rfl
    rw [hsubject] at hmatch
    cases hmatch
  exact List.ne_nil_of_mem (mem_getMatchingHandlerEntries.mpr
    ⟨key, entries, (hother key hne).symm.trans hget, hmatch, hmem⟩)

/-- **A change of one key** keeps the invariant: a host-local subject that the key covers is pushed
with it, and the handlers of the others are as before. -/
lemma chainInv_push (hs : ChainInv names s) {far : BusState H} {changed : Key}
    (htransports : far.context.transports = s.far.context.transports)
    (hregistry : far.context.namespaceRegistry = s.far.context.namespaceRegistry)
    (hother : ∀ key, key ≠ changed →
      far.context.requestHandlers.get? key = s.far.context.requestHandlers.get? key) :
    ChainInv names { s with
      far := far
      toMiddle := s.toMiddle ++ callsTo names.farToMiddle
        (pushAdvertisedSubjectsToPeers far.context none [changed]) } := by
  have htransport : names.farToMiddle ∈ far.context.transports.keys := htransports ▸ hs.transport
  refine ⟨htransport, hregistry ▸ hs.records, fun subject hhost hentry => ?_⟩
  show deliveryClass? (receiveCalls names.middleToFar s.middle (s.toMiddle ++ _)) subject _ = _
  rw [receiveCalls, List.foldl_append, callsTo_pushAdvertisedSubjectsToPeers htransport (by simp),
    deliveryClass?_foldl_receiveCall _ fun key => subject_pushAdvertisedSubject]
  split_ifs with hpushed
  · exact deliveryClass?_pushAdvertisedSubject_of_hostLocal hhost hentry
  · rw [hregistry] at hhost
    refine hs.guarded subject hhost (getMatchingHandlerEntries_ne_nil_of_other hother ?_ hentry)
    -- a covered host-local subject would have been pushed
    refine Bool.eq_false_iff.mpr fun hmatch => hpushed ⟨?_, rfl⟩
    exact mem_expandHostLocalWildcardSubjects.mpr
      (Or.inr ⟨hregistry ▸ hs.records subject hhost, changed, by simp, hmatch⟩)

/-- The delivery classes after some calls depend on those before only. -/
lemma deliveryClass?_receiveCalls_congr {source : String} (calls : List AdvertisementCall) :
    ∀ {peer peer' : BusContext (HandlerRef H)},
      (∀ key transport, deliveryClass? peer key transport = deliveryClass? peer' key transport) →
      ∀ key transport, deliveryClass? (receiveCalls source peer calls) key transport =
        deliveryClass? (receiveCalls source peer' calls) key transport := by
  induction calls with
  | nil => exact fun h => h
  | cons call calls ih =>
    intro peer peer' h
    refine ih fun key transport => ?_
    rw [deliveryClass?_receiveCall, deliveryClass?_receiveCall, h]

/-- Calls about other keys do not change the delivery class of a key. -/
lemma deliveryClass?_receiveCalls_of_ne {source : String} {calls : List AdvertisementCall}
    {key : Key} (hcalls : ∀ call ∈ calls, call.subject ≠ key) (transport : String) :
    ∀ {peer : BusContext (HandlerRef H)},
      deliveryClass? (receiveCalls source peer calls) key transport =
        deliveryClass? peer key transport := by
  induction calls with
  | nil => intro peer; rfl
  | cons call calls ih =>
    intro peer
    show deliveryClass? (receiveCalls source (receiveCall peer source call).1 calls) key
      transport = _
    rw [ih fun call' hcall' => hcalls call' (by simp [hcall']), deliveryClass?_receiveCall,
      if_neg fun h => hcalls call (by simp) h.1.symm]

lemma deliveryClass?_registerNamespaceAt {context : BusContext H}
    {definition : BusNamespaceDefinition} (key : Key) (transport : String) :
    deliveryClass? (registerNamespaceAt context definition) key transport =
      deliveryClass? context key transport := by
  unfold registerNamespaceAt
  split <;> rfl

/-- **Registering a namespace at the far bus** keeps the invariant if it comes before the handlers
of its host-local subjects. -/
lemma chainInv_registerNamespace_far (hs : ChainInv names s) {definition : BusNamespaceDefinition}
    (hok : RegistersFirst s (.registerNamespace .far definition)) :
    ChainInv names { s with
      far := { s.far with context := registerNamespaceAt s.far.context definition } } := by
  unfold registerNamespaceAt
  split
  · rename_i registry hregister
    rcases NamespaceRegistry.registerNamespace_cases hregister with rfl | ⟨hnew, rfl⟩
    · exact ⟨hs.transport, hs.records, hs.guarded⟩
    · have hentries := hok hnew
      refine ⟨hs.transport, ?_, fun subject hhost hentry => ?_⟩
      · refine NamespaceRegistry.recordsHostLocal_foldl definition.schemas.nodup hs.records
          fun entry hmem hflag => ?_
        have h := hentries entry hmem
        simp only [hflag, Bool.false_eq_true, if_false] at h
        exact h
      · rcases (NamespaceRegistry.isHostLocalRequestSubject_foldl _).mp hhost with
          hold | ⟨entry, hmem, hflag, rfl⟩
        · exact hs.guarded subject hold hentry
        · have h := hentries entry hmem
          simp only [hflag, if_true] at h
          rcases h with hold | hnil
          · exact hs.guarded _ hold hentry
          · exact absurd hnil hentry
  · exact ⟨hs.transport, hs.records, hs.guarded⟩

variable [DecidableEq H]

/-- **Every guarded step keeps the invariant.** -/
theorem chainInv_step {t : Chain H} {a : ChainAction H} (hs : ChainInv names s)
    (hok : RegistersFirst s a) (hstep : chainStep names s a = some t) : ChainInv names t := by
  cases a with
  | on definition handler options =>
    cases hstep
    exact chainInv_push hs rfl rfl fun key hne =>
      get?_requestHandlers_on_of_ne definition handler options hne
  | unsubscribe id =>
    obtain ⟨r, -, rfl⟩ := Option.map_eq_some_iff.mp hstep
    exact chainInv_push hs rfl rfl fun key hne => get?_requestHandlers_unsubscribe_of_ne hne
  | registerNamespace node definition =>
    cases node with
    | near =>
      cases hstep
      exact ⟨hs.transport, hs.records, hs.guarded⟩
    | middle =>
      cases hstep
      refine ⟨hs.transport, hs.records, fun subject hhost hentry => ?_⟩
      exact (deliveryClass?_receiveCalls_congr s.toMiddle
        (fun key transport => deliveryClass?_registerNamespaceAt key transport) _ _).trans
          (hs.guarded subject hhost hentry)
    | far =>
      cases hstep
      exact chainInv_registerNamespace_far hs hok
  | deliverToMiddle =>
    rw [chainStep] at hstep
    split at hstep
    · cases hstep
    · rename_i call toMiddle hpipe
      cases hstep
      refine ⟨hs.transport, hs.records, fun subject hhost hentry => ?_⟩
      have hguarded := hs.guarded subject hhost hentry
      rw [hpipe] at hguarded
      exact hguarded
  | deliverToNear =>
    rw [chainStep] at hstep
    split at hstep
    · cases hstep
    · cases hstep
      exact ⟨hs.transport, hs.records, hs.guarded⟩

omit [DecidableEq H] in
/-- The invariant holds at the beginning. -/
lemma chainInv_init (hs : ChainInit names s) : ChainInv names s where
  transport := hs.transport
  records := by
    intro subject hhost
    rw [hs.registry] at hhost
    exact absurd hhost (by simp [NamespaceRegistry.isHostLocalRequestSubject,
      NamespaceRegistry.empty])
  guarded := by
    intro subject hhost
    rw [hs.registry] at hhost
    exact absurd hhost (by simp [NamespaceRegistry.isHostLocalRequestSubject,
      NamespaceRegistry.empty])

end Steps

/-! ### Requests of the near bus -/

section Requests

variable {H V : Type} {names : ChainNames} {s : Chain H}
  {program : HandlerRef H → V → HandlerProgram V} {definition : SubjectDefinition}

/-- A transport that declared a subject's own key first-hop-only is blocked for the subject. -/
lemma mem_blockedTransports {context : BusContext H} {subject : Key} {transport : String}
    (hself : matchesSubscription subject subject = true)
    (hclass : deliveryClass? context subject transport = some .firstHopOnly) :
    transport ∈ blockedTransports context subject := by
  obtain ⟨classes, hget, hfirst⟩ := Option.bind_eq_some_iff.mp hclass
  refine List.mem_flatMap.mpr ⟨(subject, classes),
    List.mem_filter.mpr ⟨OrderedMap.mem_entries_iff.mpr hget, hself⟩, ?_⟩
  exact List.mem_map.mpr ⟨(transport, .firstHopOnly),
    List.mem_filter.mpr ⟨OrderedMap.mem_entries_iff.mpr hfirst, rfl⟩, rfl⟩

/-- The near bus has no other peer than the middle one. -/
lemma eq_middle_of_relays_near {n : ChainNode}
    (h : Relays (chainNetwork names program s) definition .near n) : n = .middle := by
  obtain ⟨priority, transport, -, -, hpeer⟩ := h
  change (if transport = names.nearToMiddle then some ChainNode.middle else none) = some n at hpeer
  split_ifs at hpeer
  exact (Option.some.inj hpeer).symm

/-- A settled guard keeps the middle bus from relaying to the far one. -/
lemma not_relays_middle_far {subject : Key}
    (hsubject : getFullSubjectForSubjectDefinition definition = subject)
    (hself : matchesSubscription subject subject = true) (hinv : ChainInv names s)
    (hhost : s.far.context.namespaceRegistry.isHostLocalRequestSubject subject = true)
    (hentry : getMatchingHandlerEntries s.far.context.requestHandlers subject ≠ [])
    (hsettled : GuardSettled s subject) :
    ¬ Relays (chainNetwork names program s) definition .middle .far := by
  rintro ⟨priority, transport, hroute, -, hpeer⟩
  obtain rfl : transport = names.middleToFar := by
    change (if transport = names.middleToNear then some ChainNode.near
      else if transport = names.middleToFar then some ChainNode.far else none) =
        some ChainNode.far at hpeer
    split_ifs at hpeer with hnear hfar
    · cases hpeer
    · exact hfar
  obtain ⟨-, hmiddle, hin⟩ := remoteEntry_mem_inboundList.mp hroute
  change s.middle.namespaceRegistry.isHostLocalRequestSubject _ = false at hmiddle
  rw [hsubject] at hmiddle hin
  rcases hsettled with hcalls | hknown
  · have hclass := hinv.guarded subject hhost hentry
    rw [deliveryClass?_receiveCalls_of_ne hcalls] at hclass
    obtain ⟨_, _, _, _, _, hunblocked⟩ := mem_getMatchingRemoteEntries.mp hin
    exact (hunblocked rfl).1 (mem_blockedTransports hself hclass)
  · rw [hknown] at hmiddle
    cases hmiddle

/-- Without that relay the far bus is not reached from the middle one. -/
lemma ne_far_of_relays
    (hrelay : ¬ Relays (chainNetwork names program s) definition .middle .far) {n : ChainNode}
    (h : ReflTransGen (Relays (chainNetwork names program s) definition) .middle n) :
    n ≠ .far := by
  induction h with
  | refl => simp
  | @tail b c _ hstep ih =>
    rintro rfl
    cases b with
    | near => exact absurd (eq_middle_of_relays_near hstep) (by simp)
    | middle => exact hrelay hstep
    | far => exact ih rfl

/-- **Host-local requests are not relayed.**  Along every run in which the far bus registers its
host-local subjects before they have handlers, a request of the near bus for such a subject runs no
handler of the far bus, if no advertisement of the subject itself is in flight to the middle bus.
The subject is one that matches itself, as every key without a wildcard does.

**Proof sketch.** A handler of the far bus that runs matches the subject, so by the invariant the
middle bus will have the guard, and has it already.  Then it does not relay the request, and there is
no other way from the near bus to the far one. -/
theorem hostLocal_not_relayed [DecidableEq H] [ObjectSpread V]
    (hreach : Reach (ChainInit names) (chainStep names) RegistersFirst s)
    (program : HandlerRef H → V → HandlerProgram V) (definition : SubjectDefinition)
    (hself : matchesSubscription (getFullSubjectForSubjectDefinition definition)
      (getFullSubjectForSubjectDefinition definition) = true)
    (hhost : s.far.context.namespaceRegistry.isHostLocalRequestSubject
      (getFullSubjectForSubjectDefinition definition) = true)
    (hsettled : GuardSettled s (getFullSubjectForSubjectDefinition definition))
    (depth : ℕ) (payload : V) (transports : Option (List String))
    (entry : HandlerEntry (HandlerRef H)) (payload' : V) :
    .invoke .far entry payload' ∉
      (request (chainNetwork names program s) .near (hop (chainNetwork names program s) depth .near)
        definition payload transports).trace := by
  have hinv : ChainInv names s :=
    Reach.invariant (ChainInv names) (fun _ => chainInv_init)
      (fun _ _ _ hs hok hstep => chainInv_step hs hok hstep) hreach
  intro hinvoke
  rcases relays_of_invoke_mem_request hinvoke with hfar | ⟨transport, peer, -, hpeer, hrelays,
    hentry⟩
  · cases hfar
  · have hmatching : getMatchingHandlerEntries s.far.context.requestHandlers
        (getFullSubjectForSubjectDefinition definition) ≠ [] :=
      List.ne_nil_of_mem (localEntry_mem_inboundList.mp hentry).2
    obtain rfl : peer = .middle := by
      change (if transport = names.nearToMiddle then some ChainNode.middle else none) =
        some peer at hpeer
      split_ifs at hpeer
      exact (Option.some.inj hpeer).symm
    exact ne_far_of_relays (not_relays_middle_far rfl hself hinv hhost hmatching hsettled) hrelays
      rfl

/-- The names of the transports in the runs below. -/
def abcNames : ChainNames := ⟨"a-b", "b-a", "b-c", "c-b", by decide⟩

/-- Three connected buses without handlers or namespaces. -/
def freshChain : Chain ℕ where
  near := { BusContext.empty with transports := singleton "a-b" true }
  toNear := []
  middle := { BusContext.empty with transports := (singleton "b-a" true).set "b-c" true }
  toMiddle := []
  far := ⟨{ BusContext.empty with transports := singleton "c-b" true }, []⟩

lemma chainInit_freshChain : ChainInit abcNames freshChain := ⟨by decide, rfl, rfl, rfl⟩

/-- The far bus registers the namespace `host` with the host-local request `host.run`. -/
def registerHost : ChainAction ℕ :=
  .registerNamespace .far ⟨"host", singleton "run" ⟨false, false, false, true, none⟩, none⟩

/-- The request subject `host.run`. -/
def hostRun : SubjectDefinition := ⟨"run", "host", true, false, none⟩

/-- The far bus handles the requests of the whole namespace. -/
def onHostWildcard : ChainAction ℕ :=
  .on ⟨"*", "host", true, false, none⟩ 0 ⟨false, some .request, none⟩

/-- What a request for `host.run` at the near bus does; handlers answer at once. -/
def requestHostRun (s : Chain ℕ) : List (BusEvent ChainNode (HandlerRef ℕ) Unit) :=
  let net := chainNetwork abcNames (fun _ _ => .setResult () .done) s
  (request net .near (hop net 2 .near) hostRun () none).trace

/-- Some handler of the far bus runs. -/
def runsFar (events : List (BusEvent ChainNode (HandlerRef ℕ) Unit)) : Bool :=
  events.any fun
    | .invoke .far _ _ => true
    | _ => false

/-- With wildcard and guard delivered, the request reaches the middle bus and goes no further. -/
theorem hostLocal_not_relayed_wildcard :
    ∃ s, runGuarded (chainStep abcNames) RegistersFirst freshChain
        [registerHost, onHostWildcard, .deliverToMiddle, .deliverToMiddle, .deliverToNear,
          .deliverToNear] = some s ∧
      (requestHostRun s).length = 1 ∧
      ∀ entry payload, .invoke .far entry payload ∉ requestHostRun s := by
  refine ⟨_, rfl, by decide, fun entry payload => ?_⟩
  refine hostLocal_not_relayed (Reach.of_runGuarded [registerHost, onHostWildcard, .deliverToMiddle,
    .deliverToMiddle, .deliverToNear, .deliverToNear] (.start chainInit_freshChain) rfl) _ hostRun
    (by decide) (by decide) (Or.inl ?_) 2 () none entry payload
  decide

/-- **Two runs without a guard in place.**  A handler that was there before its namespace is
registered is advertised as relayable; and a request that overtakes the guard of a wildcard runs the
handler of the far bus. -/
theorem hostLocal_relayed_unguarded :
    (∃ s, runGuarded (chainStep abcNames) (fun _ _ => True) freshChain
        [.on hostRun 0 ⟨false, none, none⟩, registerHost, .deliverToMiddle, .deliverToNear] =
          some s ∧
      s.far.context.namespaceRegistry.isHostLocalRequestSubject "host.run" = true ∧
      s.toMiddle = [] ∧ runsFar (requestHostRun s) = true) ∧
    ∃ s, runGuarded (chainStep abcNames) RegistersFirst freshChain
        [registerHost, onHostWildcard, .deliverToMiddle, .deliverToNear] = some s ∧
      s.far.context.namespaceRegistry.isHostLocalRequestSubject "host.run" = true ∧
      runsFar (requestHostRun s) = true :=
  ⟨⟨_, rfl, by decide, rfl, by decide⟩, ⟨_, rfl, by decide, by decide⟩⟩

end Requests

end Makaio.Bus
