import Makaio.Bus.BusState

set_option autoImplicit false

/-!
# Soundness of advertisements

A bus joined to a peer by a reliable in-order transport.  Every `on()` and `unsubscribe()` at the bus
recomputes the state of one key and pushes it; the peer stores what it receives, key by key, and
derives the priorities of a concrete subject from all keys the subject matches.

A key's state is computed from all handlers whose pattern covers the key, so a key can hold the
priority of a handler that was registered under a wider pattern.  When that handler is removed, only
the wider pattern is pushed again, and the key keeps the priority.

## Main definitions

* `Link`, `linkStep` — the bus, the calls in flight and the peer.
* `Link.arrived` — the peer once everything in flight has been delivered.
* `AdvertisementExact` — the peer derives exactly the priorities of the bus's handlers.
* `KeepsOtherKeys` — an `unsubscribe()` that leaves no stale priority behind.

## Main results

* `linkInv_on`, `linkInv_unsubscribe` — the two steps.
* `advertisement_exact` — along every run whose removals leave no stale priority, the peer
  is exact whenever nothing is in flight.
* `advertisement_keeps_removed_priority` — a removal that does.
-/

namespace Makaio.Bus

open Foundations

/-- A bus, the subscription calls in flight on its transport, and the peer. -/
structure Link (H : Type) where
  bus : BusState H
  pipe : List AdvertisementCall
  peer : BusContext (HandlerRef H)

/-- What can happen. -/
inductive LinkAction (H : Type)
  | on (definition : SubjectDefinition) (handler : H) (options : OnOptions)
  | unsubscribe (id : ℕ)
  /-- The peer receives the oldest call in flight. -/
  | deliver

section Machine

variable {H : Type} [DecidableEq H] (transport source : String)

/-- The peer has received some calls. -/
def receiveCalls (peer : BusContext (HandlerRef H)) (calls : List AdvertisementCall) :
    BusContext (HandlerRef H) :=
  calls.foldl (fun peer call => (receiveCall peer source call).1) peer

omit [DecidableEq H] in
/-- The peer once everything in flight has been delivered. -/
def Link.arrived (s : Link H) : BusContext (HandlerRef H) := receiveCalls source s.peer s.pipe

/-- One action: `transport` is the transport's name at the bus, `source` its name at the peer. -/
def linkStep (s : Link H) : LinkAction H → Option (Link H)
  | .on definition handler options =>
    let (bus, calls) := s.bus.on definition handler options
    some { s with bus := bus, pipe := s.pipe ++ callsTo transport calls }
  | .unsubscribe id => (s.bus.registrations.find? fun r => r.id = id).map fun r =>
    let (bus, calls) := s.bus.unsubscribe r
    { s with bus := bus, pipe := s.pipe ++ callsTo transport calls }
  | .deliver =>
    match s.pipe with
    | [] => none
    | call :: pipe => some { s with pipe := pipe, peer := (receiveCall s.peer source call).1 }

/-- At the beginning the bus has the transport and no handlers, has learned nothing from others,
nothing is in flight, and the peer has nothing from the bus.  Namespaces may be registered. -/
structure LinkInit (s : Link H) : Prop where
  transport : transport ∈ s.bus.context.transports.keys
  requestHandlers : s.bus.context.requestHandlers = .empty
  learned : s.bus.context.remoteRequestHandlers = .empty
  pipe : s.pipe = []
  peer : ∀ key route, HasRoute s.peer key route → route.transport ≠ source

/-- The peer derives for every subject exactly the priorities of the bus's matching handlers. -/
def AdvertisementExact (s : Link H) : Prop :=
  ∀ subject p, (⟨source, p⟩ : RemoteRoute) ∈ getMatchingRemoteEntries s.peer subject false ↔
    ∃ entry ∈ getMatchingHandlerEntries s.bus.context.requestHandlers subject, entry.priority = p

/-- Removing a handler leaves no stale priority behind: every priority that the peer holds or will
hold under a key which is not advertised anew is, after the removal, still the priority of a handler
that matches the key. -/
def KeepsOtherKeys (s : Link H) : LinkAction H → Prop
  | .unsubscribe id => ∀ r ∈ s.bus.registrations, r.id = id →
    ∀ e ∈ (s.arrived source).remoteRequestHandlers.entries, ∀ route ∈ e.2,
      route.transport = source →
      e.1 ∉ expandHostLocalWildcardSubjects s.bus.context [r.key] →
      ∃ entry ∈ getMatchingHandlerEntries (s.bus.unsubscribe r).1.context.requestHandlers e.1,
        entry.priority = route.priority
  | _ => True

instance (s : Link H) (a : LinkAction H) : Decidable (KeepsOtherKeys source s a) :=
  match a with
  | .on _ _ _ => inferInstanceAs (Decidable True)
  | .deliver => inferInstanceAs (Decidable True)
  | .unsubscribe id => inferInstanceAs (Decidable (∀ r ∈ s.bus.registrations, r.id = id →
      ∀ e ∈ (s.arrived source).remoteRequestHandlers.entries, ∀ route ∈ e.2,
        route.transport = source →
        e.1 ∉ expandHostLocalWildcardSubjects s.bus.context [r.key] →
        ∃ entry ∈ getMatchingHandlerEntries (s.bus.unsubscribe r).1.context.requestHandlers e.1,
          entry.priority = route.priority))

/-- The invariant, on the peer as it will be: a handler's priority is held under its own key, and
every priority held under a key is that of a handler which matches the key. -/
structure LinkInv (s : Link H) : Prop where
  transport : transport ∈ s.bus.context.transports.keys
  learned : s.bus.context.remoteRequestHandlers = .empty
  own : ∀ key entries, s.bus.context.requestHandlers.get? key = some entries →
    matchesSubscription key key = true →
    ∀ entry ∈ entries, HasRoute (s.arrived source) key ⟨source, entry.priority⟩
  justified : ∀ key p, HasRoute (s.arrived source) key ⟨source, p⟩ →
    ∃ entry ∈ getMatchingHandlerEntries s.bus.context.requestHandlers key, entry.priority = p

end Machine

/-! ### Steps -/

section Steps

variable {H : Type} {transport source : String} {s : Link H}
variable {bus : BusState H} {key : Key} {p : ℤ}

/-- What the peer will hold after some keys have been pushed. -/
lemma hasRoute_arrived_push (htransport : transport ∈ bus.context.transports.keys) {affected : List Key} :
    HasRoute (receiveCalls source (s.arrived source) (callsTo transport
        (pushAdvertisedSubjectsToPeers bus.context none affected))) key ⟨source, p⟩ ↔
      if key ∈ expandHostLocalWildcardSubjects bus.context affected then
        p ∈ (pushAdvertisedSubject bus.context transport key).priorities
      else HasRoute (s.arrived source) key ⟨source, p⟩ := by
  rw [callsTo_pushAdvertisedSubjectsToPeers htransport (by simp), receiveCalls,
    hasRoute_foldl_receiveCall _ fun key => subject_pushAdvertisedSubject]
  simp

/-- A bus that has learned nothing advertises its own handlers. -/
lemma mem_priorities_of_learned {context : BusContext (HandlerRef H)}
    (hlearned : context.remoteRequestHandlers = .empty) :
    p ∈ (pushAdvertisedSubject context transport key).priorities ↔
      ∃ entry ∈ getMatchingHandlerEntries context.requestHandlers key, entry.priority = p := by
  have hnil : foreignEntries context transport key = [] := by
    unfold foreignEntries
    rw [hlearned]
    split_ifs <;> rfl
  rw [mem_priorities_pushAdvertisedSubject, hnil]
  simp

/-- **A change of one key** keeps the invariant, if the handlers of other keys are unchanged, and
every priority the peer holds under a key that is not pushed still has a handler. -/
lemma linkInv_push (hs : LinkInv transport source s) {changed : Key}
    (htransports : bus.context.transports = s.bus.context.transports)
    (hlearned : bus.context.remoteRequestHandlers = s.bus.context.remoteRequestHandlers)
    (hother : ∀ key, key ≠ changed →
      bus.context.requestHandlers.get? key = s.bus.context.requestHandlers.get? key)
    (hkeeps : ∀ key p, HasRoute (s.arrived source) key ⟨source, p⟩ →
      key ∉ expandHostLocalWildcardSubjects bus.context [changed] →
      ∃ entry ∈ getMatchingHandlerEntries bus.context.requestHandlers key, entry.priority = p) :
    LinkInv transport source { s with
      bus := bus
      pipe := s.pipe ++ callsTo transport
        (pushAdvertisedSubjectsToPeers bus.context none [changed]) } := by
  have htransport : transport ∈ bus.context.transports.keys := htransports ▸ hs.transport
  have hlearned' : bus.context.remoteRequestHandlers = .empty := hlearned.trans hs.learned
  have harrived : Link.arrived source { s with
      bus := bus
      pipe := s.pipe ++ callsTo transport
        (pushAdvertisedSubjectsToPeers bus.context none [changed]) } =
      receiveCalls source (s.arrived source) (callsTo transport
        (pushAdvertisedSubjectsToPeers bus.context none [changed])) := List.foldl_append
  refine ⟨htransport, hlearned', fun key entries hget hself entry hentry => ?_,
    fun key p hroute => ?_⟩
  · rw [harrived, hasRoute_arrived_push htransport, mem_priorities_of_learned hlearned']
    split_ifs with hpushed
    · exact ⟨entry, mem_getMatchingHandlerEntries.mpr ⟨key, entries, hget, hself, hentry⟩, rfl⟩
    · -- a key that is not pushed is not the changed one
      have hne : key ≠ changed := by
        rintro rfl
        exact hpushed (mem_expandHostLocalWildcardSubjects.mpr (Or.inl (by simp)))
      exact hs.own key entries ((hother key hne).symm.trans hget) hself entry hentry
  · rw [harrived, hasRoute_arrived_push htransport, mem_priorities_of_learned hlearned'] at hroute
    split_ifs at hroute with hpushed
    · exact hroute
    · exact hkeeps key p hroute hpushed

/-- **The registration step** keeps the invariant: it only adds handlers. -/
theorem linkInv_on (hs : LinkInv transport source s) (definition : SubjectDefinition) (handler : H)
    (options : OnOptions) :
    LinkInv transport source { s with
      bus := (s.bus.on definition handler options).1
      pipe := s.pipe ++ callsTo transport (s.bus.on definition handler options).2 } := by
  refine linkInv_push hs rfl rfl (fun key hne =>
    get?_requestHandlers_on_of_ne definition handler options hne) fun key p hroute _ => ?_
  obtain ⟨entry, hentry, hp⟩ := hs.justified key p hroute
  exact ⟨entry, mem_getMatchingHandlerEntries_on definition handler options hentry, hp⟩

variable [DecidableEq H]

/-- **The removal step** keeps the invariant if it leaves no stale priority behind. -/
theorem linkInv_unsubscribe (hs : LinkInv transport source s) {r : Registration H}
    (hr : r ∈ s.bus.registrations) (hkeeps : KeepsOtherKeys source s (.unsubscribe r.id)) :
    LinkInv transport source { s with
      bus := (s.bus.unsubscribe r).1
      pipe := s.pipe ++ callsTo transport (s.bus.unsubscribe r).2 } := by
  refine linkInv_push hs rfl rfl (fun key hne => get?_requestHandlers_unsubscribe_of_ne hne)
    fun key p hroute hpushed => ?_
  obtain ⟨entries, hget, hin⟩ := hroute
  exact hkeeps r hr rfl (key, entries) (OrderedMap.mem_entries_iff.mpr hget) _ hin rfl hpushed

/-- Every guarded step keeps the invariant. -/
theorem linkInv_step {t : Link H} {a : LinkAction H} (hs : LinkInv transport source s)
    (hok : KeepsOtherKeys source s a) (hstep : linkStep transport source s a = some t) :
    LinkInv transport source t := by
  cases a with
  | on definition handler options =>
    cases hstep
    exact linkInv_on hs definition handler options
  | unsubscribe id =>
    obtain ⟨r, hfind, rfl⟩ := Option.map_eq_some_iff.mp hstep
    obtain rfl : r.id = id := by simpa using List.find?_some hfind
    exact linkInv_unsubscribe hs (List.mem_of_find?_eq_some hfind) hok
  | deliver =>
    -- what is in flight arrives: the peer as it will be does not change
    rw [linkStep] at hstep
    split at hstep
    · cases hstep
    · rename_i call pipe hpipe
      cases hstep
      have harrived : s.arrived source = Link.arrived source { s with
          pipe := pipe
          peer := (receiveCall s.peer source call).1 } := by
        rw [Link.arrived, hpipe]
        rfl
      exact ⟨hs.transport, hs.learned, harrived ▸ hs.own, harrived ▸ hs.justified⟩

omit [DecidableEq H] in
/-- The invariant holds at the beginning. -/
lemma linkInv_init (hs : LinkInit transport source s) : LinkInv transport source s where
  transport := hs.transport
  learned := hs.learned
  own := by
    intro key entries hget
    rw [hs.requestHandlers] at hget
    cases hget
  justified := by
    intro key p hroute
    rw [Link.arrived, hs.pipe] at hroute
    exact absurd rfl (hs.peer key _ hroute)

end Steps

/-! ### Runs -/

section Runs

variable {H : Type} {transport source : String} {s : Link H}

/-- A peer with nothing in flight is exact: what it holds under a key is passed on along the patterns
that a subject matches. -/
lemma LinkInv.exact (hs : LinkInv transport source s) (hpipe : s.pipe = []) :
    AdvertisementExact source s := by
  have harrived : s.arrived source = s.peer := by
    rw [Link.arrived, hpipe]
    rfl
  intro subject p
  rw [mem_getMatchingRemoteEntries]
  constructor
  · rintro ⟨key, entries, hget, hmatch, hin, -⟩
    obtain ⟨entry, hentry, hp⟩ := hs.justified key p (harrived ▸ ⟨entries, hget, hin⟩)
    obtain ⟨pattern, handlers, hhandlers, hkey, hmem⟩ := mem_getMatchingHandlerEntries.mp hentry
    exact ⟨entry, mem_getMatchingHandlerEntries.mpr ⟨pattern, handlers, hhandlers,
      matchesSubscription_trans hmatch hkey, hmem⟩, hp⟩
  · rintro ⟨entry, hentry, rfl⟩
    obtain ⟨key, handlers, hhandlers, hmatch, hmem⟩ := mem_getMatchingHandlerEntries.mp hentry
    obtain ⟨entries, hget, hin⟩ := harrived ▸ hs.own key handlers hhandlers
      (matchesSubscription_self hmatch) entry hmem
    exact ⟨key, entries, hget, hmatch, hin, fun h => nomatch h⟩

/-- **Soundness of advertisements.**  Along every run of `on()` and `unsubscribe()` calls and
deliveries in which each removal leaves no stale priority behind, whenever nothing is in flight the
peer derives for every subject exactly the priorities of the bus's matching request handlers. -/
theorem advertisement_exact [DecidableEq H] (transport : String)
    (hreach : Reach (LinkInit transport source) (linkStep transport source)
      (KeepsOtherKeys source) s) (hpipe : s.pipe = []) : AdvertisementExact source s := by
  have hinv : LinkInv transport source s :=
    Reach.invariant (LinkInv transport source) (fun _ => linkInv_init)
      (fun _ _ _ hs hok hstep => linkInv_step hs hok hstep) hreach
  exact hinv.exact hpipe

/-- A bus with one transport `toPeer` and no handlers, and a peer that knows nothing. -/
def freshLink : Link ℕ where
  bus := ⟨{ BusContext.empty with transports := singleton "toPeer" true }, []⟩
  pipe := []
  peer := .empty

lemma linkInit_freshLink : LinkInit "toPeer" "fromBus" freshLink where
  transport := by decide
  requestHandlers := rfl
  learned := rfl
  pipe := rfl
  peer := fun key route ⟨entries, hget, _⟩ => absurd hget (by simp [freshLink, BusContext.empty])

/-- A handler for the wildcard `a.*` at priority 5 and one for `a.b` at priority 3, both advertised. -/
def overlappingHandlers : List (LinkAction ℕ) :=
  [.on ⟨"*", "a", true, false, none⟩ 0 ⟨false, some .request, some 5⟩,
    .on ⟨"b", "a", true, false, none⟩ 1 ⟨false, none, some 3⟩, .deliver, .deliver]

/-- Removing the handler of `a.b` leaves the peer exact. -/
theorem advertisement_exact_overlappingHandlers :
    ∃ s, runGuarded (linkStep "toPeer" "fromBus") (KeepsOtherKeys "fromBus") freshLink
        (overlappingHandlers ++ [.unsubscribe 1, .deliver]) = some s ∧
      AdvertisementExact "fromBus" s := by
  refine ⟨_, rfl, advertisement_exact "toPeer" ?_ rfl⟩
  exact Reach.of_runGuarded (overlappingHandlers ++ [.unsubscribe 1, .deliver])
    (.start linkInit_freshLink) rfl

/-- **Removing the handler of the wildcard** leaves its priority 5 at the peer under `a.b`, though the
only handler left has priority 3. -/
theorem advertisement_keeps_removed_priority :
    ∃ s, runGuarded (linkStep "toPeer" "fromBus") (fun _ _ => True) freshLink
        (overlappingHandlers ++ [.unsubscribe 0, .deliver]) = some s ∧ s.pipe = [] ∧
      (⟨"fromBus", 5⟩ : RemoteRoute) ∈ getMatchingRemoteEntries s.peer "a.b" false ∧
      (getMatchingHandlerEntries s.bus.context.requestHandlers "a.b").map HandlerEntry.priority =
        [3] ∧ ¬ AdvertisementExact "fromBus" s := by
  refine ⟨_, rfl, rfl, by decide, by decide, fun hexact => ?_⟩
  have hstale := (hexact "a.b" 5).mp (by decide)
  revert hstale
  decide

end Runs

end Makaio.Bus
