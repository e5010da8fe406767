import Makaio.Bus.LevelWalk
import Makaio.Bus.Termination

set_option autoImplicit false

/-!
# How often a handler runs

One request between two connected buses, each with any handlers at any priorities.  The merged
lists of the two buses are laid out in the levels of `Makaio.Bus.LevelWalk`, and the cursor of a
hop is the boundary of a level: the receiver starts at the level of the route it was reached by.  So
the invocations of a request are those of the walk over the levels, and handlers run at most once
exactly in the arrangements that are safe there.

## Main definitions

* `Behaviour` — what a handler may do: set a result, set nothing, call `next()` once.
* `BusPair` — two connected buses with up-to-date advertisements.
* `Mirrors` — a run invokes the handlers of a walk and ends like it.

## Main results

* `stepDispatch_mirrors` — a bus walks its merged list as a party walks the levels.
* `BusPair.deliver_mirrors` — the handling of a message mirrors the walk from its level on.
* `BusPair.request_atMostOnce` — when a request runs each handler at most once.
* `request_repeats_handler` — two handlers of the peer that set nothing: the lower one
  runs twice.
-/

namespace Makaio.Bus

open Foundations

/-! ### Behaviours -/

/-- What a handler does with a request. -/
inductive Behaviour (V : Type)
  | setNothing
  | setResult (value : V)
  | callNext
  | setResultThenNext (value : V)
  /-- Set a result computed from the downstream one. -/
  | nextThenSetResult (value : Option V → V)

namespace Behaviour

variable {V : Type}

/-- The operations on the request context; a rejection of `next()` is thrown. -/
def program : Behaviour V → HandlerProgram V
  | setNothing => .done
  | setResult value => .setResult value .done
  | callNext => .next fun
    | .ok _ => .done
    | .error error => .fail error
  | setResultThenNext value => .setResult value <| .next fun
    | .ok _ => .done
    | .error error => .fail error
  | nextThenSetResult value => .next fun
    | .ok result => .setResult (value result) .done
    | .error error => .fail error

/-- What the behaviour does to the chain. -/
def effect : Behaviour V → Effect
  | setNothing => .passes
  | setResult _ => .answers
  | callNext => .passes
  | setResultThenNext _ => .contributes
  | nextThenSetResult _ => .contributes

end Behaviour

/-! ### Runs and walks -/

section Mirrors

variable {H V : Type}

/-- The handlers invoked in a run, in order. -/
def invocations (trace : List (BusEvent Bool H V)) : List (Bool × HandlerEntry H) :=
  trace.filterMap fun
    | .invoke node entry _ => some (node, entry)
    | .send _ _ _ => none

@[simp] lemma invocations_invoke (node : Bool) (entry : HandlerEntry H) (payload : V)
    (trace : List (BusEvent Bool H V)) :
    invocations (.invoke node entry payload :: trace) = (node, entry) :: invocations trace := rfl

@[simp] lemma invocations_send (node : Bool) (transport : String) (message : BusRequestMessage V)
    (trace : List (BusEvent Bool H V)) :
    invocations (.send node transport message :: trace) = invocations trace := rfl

@[simp] lemma invocations_append (trace trace' : List (BusEvent Bool H V)) :
    invocations (trace ++ trace') = invocations trace ++ invocations trace' :=
  List.filterMap_append

variable (transport : Bool → String)

/-- Who sends messages to the other bus in a run, in order. -/
def senders (trace : List (BusEvent Bool H V)) : List Bool :=
  trace.filterMap fun
    | .invoke _ _ _ => none
    | .send node name _ => if name = transport node then some node else none

@[simp] lemma senders_invoke (node : Bool) (entry : HandlerEntry H) (payload : V)
    (trace : List (BusEvent Bool H V)) :
    senders transport (.invoke node entry payload :: trace) = senders transport trace := rfl

/-- A bus that sends the request over its transport is among the senders. -/
lemma senders_send (node : Bool) (message : BusRequestMessage V) (trace : List (BusEvent Bool H V)) :
    senders transport (.send node (transport node) message :: trace) =
      node :: senders transport trace :=
  List.filterMap_cons_some (if_pos rfl)

@[simp] lemma senders_append (trace trace' : List (BusEvent Bool H V)) :
    senders transport (trace ++ trace') = senders transport trace ++ senders transport trace' :=
  List.filterMap_append

/-- A bus has sent the request over its transport if it is among the senders. -/
lemma any_isSend_iff {x : Bool} {trace : List (BusEvent Bool H V)} :
    trace.any (BusEvent.isSend x (transport x)) = true ↔ x ∈ senders transport trace := by
  simp only [List.any_eq_true, senders, List.mem_filterMap]
  constructor
  · rintro ⟨event, hmem, hsend⟩
    refine ⟨event, hmem, ?_⟩
    cases event with
    | invoke node entry payload => cases hsend
    | send node name message =>
      obtain ⟨rfl, rfl⟩ := of_decide_eq_true hsend
      exact if_pos rfl
  · rintro ⟨event, hmem, hsend⟩
    refine ⟨event, hmem, ?_⟩
    cases event with
    | invoke node entry payload => cases hsend
    | send node name message =>
      dsimp only at hsend
      split_ifs at hsend with hname
      obtain rfl := Option.some.inj hsend
      exact decide_eq_true ⟨rfl, hname⟩

/-- A chain invokes the handlers of a walk, sends messages where it hands over, and ends like it. -/
def Mirrors (run : NetworkRun Bool H V (Option V)) (w : Walk (Bool × HandlerEntry H)) : Prop :=
  invocations run.trace = w.trace ∧ senders transport run.trace = w.hands ∧
    match w.handled with
    | none => run.ending = .cutOff
    | some b => ∃ outcome : Option V, run.ending = .value outcome ∧ outcome.isSome = b

/-- A hop invokes the handlers of a walk, sends messages where it hands over, and is answered with a
result or with "no handler". -/
def Answered (subject : Key) (run : NetworkRun Bool H V V) (w : Walk (Bool × HandlerEntry H)) : Prop :=
  invocations run.trace = w.trace ∧ senders transport run.trace = w.hands ∧
    match w.handled with
    | none => run.ending = .cutOff
    | some true => ∃ value, run.ending = .value value
    | some false => ∃ error : BusError, run.ending = .error error ∧
        error.isNoHandlerErrorForSubject subject = true

variable {transport}
variable [ObjectSpread V] {net : Network Bool H V} {node : Bool}
  {send : String → BusRequestMessage V → NetworkRun Bool H V V} {definition : SubjectDefinition}
  {merged : List (MergedEntry H)} {options : DispatchOptions} {payload : V}
  {behaviour : H → V → Behaviour V}
variable {subjectKey : String} {downstream : V → NetworkRun Bool H V (Option V)}

/-- A handler that goes on invokes what the rest of the chain invokes. -/
lemma trace_executeLocalEntry (b : Behaviour V) (downstream : V → NetworkRun Bool H V (Option V)) (payload : V) :
    (executeLocalEntry subjectKey b.program downstream payload).trace =
      if b.effect = .answers then [] else (downstream payload).trace := by
  rcases hdown : downstream payload with ⟨trace, ending⟩
  cases b <;> cases ending <;>
    simp [executeLocalEntry, Behaviour.program, Behaviour.effect, runHandler, finishLocalEntry,
      Traced.andThen, Traced.settle, LocalState.settleNext, Except.map, hdown]

/-- A handler that goes on is cut off with the rest of the chain, … -/
lemma executeLocalEntry_of_cutOff {b : Behaviour V} (hb : b.effect ≠ .answers)
    (hdown : (downstream payload).ending = .cutOff) :
    (executeLocalEntry subjectKey b.program downstream payload).ending = .cutOff := by
  cases b with
  | setResult value => exact absurd rfl hb
  | setNothing =>
    simp [executeLocalEntry, Behaviour.program, runHandler, finishLocalEntry, Traced.andThen,
      Traced.settle, Traced.mapError, hdown]
  | callNext | setResultThenNext value | nextThenSetResult value =>
    simp [executeLocalEntry, Behaviour.program, runHandler, Traced.andThen, Traced.settle,
      Traced.mapError, hdown]

/-- … and has a result if it sets one or the rest of the chain has. -/
lemma executeLocalEntry_of_value {b : Behaviour V} (hb : b.effect ≠ .answers) {outcome : Option V}
    (hdown : (downstream payload).ending = .value outcome) :
    ∃ outcome' : Option V,
      (executeLocalEntry subjectKey b.program downstream payload).ending = .value outcome' ∧
      outcome'.isSome = (decide (b.effect ≠ .passes) || outcome.isSome) := by
  cases b with
  | setResult value => exact absurd rfl hb
  | setNothing =>
    refine ⟨outcome, ?_, by simp [Behaviour.effect]⟩
    simp [executeLocalEntry, Behaviour.program, runHandler, finishLocalEntry, Traced.andThen,
      Traced.settle, Traced.mapError, hdown]
  | callNext =>
    refine ⟨outcome, ?_, by simp [Behaviour.effect]⟩
    simp [executeLocalEntry, Behaviour.program, runHandler, finishLocalEntry, Traced.andThen,
      Traced.settle, Traced.mapError, LocalState.settleNext, Except.map, hdown]
  | setResultThenNext value =>
    refine ⟨some value, ?_, by simp [Behaviour.effect]⟩
    simp [executeLocalEntry, Behaviour.program, runHandler, finishLocalEntry, Traced.andThen,
      Traced.settle, Traced.mapError, LocalState.settleNext, Except.map, hdown]
  | nextThenSetResult value =>
    refine ⟨some (value outcome), ?_, by simp [Behaviour.effect]⟩
    simp [executeLocalEntry, Behaviour.program, runHandler, finishLocalEntry, Traced.andThen,
      Traced.settle, Traced.mapError, LocalState.settleNext, Except.map, hdown]

variable {rest : Walk (Bool × HandlerEntry H)}
variable {es : List (Bool × HandlerEntry H)} {entry : RemoteRoute} {nextIndex : ℕ}
  {skipToNext : Option BusError → NetworkRun Bool H V (Option V)}

/-- A handler runs the rest of the chain as its behaviour says. -/
lemma executeLocalEntry_mirrors {b : Behaviour V} {entry : HandlerEntry H}
    {effect : Bool × HandlerEntry H → Effect} (heffect : effect (node, entry) = b.effect)
    (hrest : Mirrors transport (downstream payload) (runHandlers effect rest es)) :
    Mirrors transport (.event (.invoke node entry payload)
      (executeLocalEntry subjectKey b.program downstream payload))
      (runHandlers effect rest ((node, entry) :: es)) := by
  obtain ⟨htrace, hhands, hend⟩ := hrest
  rw [runHandlers, heffect]
  by_cases hb : b.effect = .answers
  · cases b with
    | setResult value => exact ⟨rfl, rfl, some value, rfl, rfl⟩
    | setNothing | callNext | setResultThenNext value | nextThenSetResult value =>
      exact absurd hb (by simp [Behaviour.effect])
  · rw [if_neg hb]
    refine ⟨?_, ?_, ?_⟩
    · rw [Traced.trace_event, invocations_invoke, trace_executeLocalEntry, if_neg hb, htrace]
    · rw [Traced.trace_event, senders_invoke, trace_executeLocalEntry, if_neg hb, hhands]
    · rw [Traced.ending_event]
      cases hhandled : (runHandlers effect rest es).handled with
      | none =>
        rw [hhandled] at hend
        exact executeLocalEntry_of_cutOff hb hend
      | some found =>
        rw [hhandled] at hend
        obtain ⟨outcome, hvalue, rfl⟩ := hend
        exact executeLocalEntry_of_value hb hvalue

omit [ObjectSpread V] in
/-- A remote entry passes the request on, and goes on itself if the peer found no result. -/
lemma executeRemoteEntry_mirrors {w : Walk (Bool × HandlerEntry H)}
    (hhas : (net.context node).transports.has entry.transport = true)
    (hsend : Answered transport (getFullSubjectForSubjectDefinition definition)
      (send entry.transport (requestMessage definition payload
        (resolveRemoteCursor merged nextIndex entry.priority options.priority))) w)
    (hrest : Mirrors transport (skipToNext none) rest) :
    Mirrors transport (executeRemoteEntry net node send definition payload entry merged nextIndex options none
      skipToNext) (w.orElse rest) := by
  unfold executeRemoteEntry
  simp only [if_pos hhas]
  obtain ⟨htrace, hhands, hend⟩ := hsend
  cases hhandled : w.handled with
  | none =>
    rw [hhandled] at hend
    rw [Traced.settle_of_cutOff hend, Walk.orElse_of_lost hhandled]
    exact ⟨htrace, hhands, by rw [hhandled]⟩
  | some found =>
    rw [hhandled] at hend
    cases found with
    | true =>
      obtain ⟨value, hend⟩ := hend
      rw [Walk.orElse_of_handled hhandled, Traced.settle_of_settled (r := .ok value) hend]
      refine ⟨by simpa using htrace, by simpa using hhands, ?_⟩
      rw [hhandled]
      exact ⟨some value, rfl, rfl⟩
    | false =>
      obtain ⟨error, hend, hno⟩ := hend
      rw [Walk.orElse_of_unhandled hhandled, Traced.settle_of_settled (r := .error error) hend]
      simp only [if_pos hno]
      exact ⟨by rw [invocations_append, htrace, hrest.1], by rw [senders_append, hhands, hrest.2.1],
        hrest.2.2⟩

/-- The handlers among the entries of a merged list. -/
def localEntries (merged : List (MergedEntry H)) : List (HandlerEntry H) :=
  merged.filterMap fun
    | .localEntry entry => some entry
    | .remoteEntry _ => none

omit [ObjectSpread V] in
/-- A merged list holds the handlers it was built from. -/
lemma localEntries_buildMergedList_perm (entries : List (HandlerEntry H))
    (routes : List RemoteRoute) :
    (localEntries (buildMergedList entries routes)).Perm entries := by
  rw [buildMergedList_eq_sortDesc]
  refine (List.Perm.filterMap _ (sortDesc_perm _)).trans (List.Perm.of_eq ?_)
  rw [List.filterMap_append, List.filterMap_map, List.filterMap_map]
  show entries.filterMap some ++ routes.filterMap (fun _ => none) = entries
  simp

omit [ObjectSpread V] in
/-- A remote entry whose hop invokes nothing invokes at most what the rest of the chain does. -/
lemma executeRemoteEntry_sublist {firstTransportError : Option BusError}
    (hsend : ∀ cursor, invocations (send entry.transport
      (requestMessage definition payload cursor)).trace = [])
    (hskip : ∀ error, (invocations (skipToNext error).trace).Sublist es) :
    (invocations (executeRemoteEntry net node send definition payload entry merged nextIndex options
      firstTransportError skipToNext).trace).Sublist es := by
  unfold executeRemoteEntry
  dsimp only
  split_ifs
  · generalize hrun : send entry.transport _ = run
    have hnil : invocations run.trace = [] := by rw [← hrun, hsend]
    rcases run.ending_cases with h | ⟨r, h⟩
    · rw [Traced.settle_of_cutOff h, hnil]
      exact List.nil_sublist _
    · rw [Traced.settle_of_settled h, invocations_append, hnil, List.nil_append]
      cases r with
      | ok result => exact List.nil_sublist _
      | error error =>
        dsimp only
        split_ifs
        · exact hskip _
        · exact hskip _
  · exact hskip _

/-- **A walk whose hops invoke nothing** invokes its own handlers, each at most once. -/
lemma stepDispatch_sublist (hprogram : ∀ h v, net.program h v = (behaviour h v).program)
    {rest : List (MergedEntry H)} :
    ∀ {index : ℕ} {firstTransportError : Option BusError},
      (∀ route, .remoteEntry route ∈ rest → ∀ cursor, invocations (send route.transport
        (requestMessage definition payload cursor)).trace = []) →
      (invocations (stepDispatch net node send definition merged options rest index payload
        firstTransportError).trace).Sublist ((localEntries rest).map (Prod.mk node)) := by
  induction rest with
  | nil =>
    intro index firstTransportError _
    cases firstTransportError <;> exact List.nil_sublist _
  | cons head rest ih =>
    intro index firstTransportError hsend
    have hsend' : ∀ route, .remoteEntry route ∈ rest → ∀ cursor, invocations
        (send route.transport (requestMessage definition payload cursor)).trace = [] :=
      fun route hroute => hsend route (List.mem_cons_of_mem _ hroute)
    cases head with
    | localEntry entry =>
      rw [stepDispatch, hprogram, Traced.trace_event, invocations_invoke, trace_executeLocalEntry]
      refine List.Sublist.cons_cons _ ?_
      split_ifs
      · exact List.nil_sublist _
      · exact ih hsend'
    | remoteEntry route =>
      rw [stepDispatch]
      exact executeRemoteEntry_sublist (hsend route (by simp)) fun error => ih hsend'

/-- The local entries of a level, before the rest of the list. -/
lemma stepDispatch_local_mirrors (hprogram : ∀ h v, net.program h v = (behaviour h v).program)
    {tail : List (MergedEntry H)} {effect : Bool × HandlerEntry H → Effect}
    (heffect : ∀ entry, effect (node, entry) = (behaviour entry.handler payload).effect)
    {es : List (HandlerEntry H)} :
    ∀ {index : ℕ}, Mirrors transport (stepDispatch net node send definition merged options tail
        (index + es.length) payload none) rest →
      Mirrors transport (stepDispatch net node send definition merged options
        (es.map MergedEntry.localEntry ++ tail) index payload none)
        (runHandlers effect rest (es.map (Prod.mk node))) := by
  induction es with
  | nil => exact fun h => h
  | cons entry es ih =>
    intro index h
    rw [List.map_cons, List.cons_append, List.map_cons, stepDispatch, hprogram]
    refine executeLocalEntry_mirrors (heffect entry) (ih ?_)
    rwa [show index + 1 + es.length = index + (es.length + 1) by omega]

end Mirrors

/-! ### The levels of two buses -/

variable {p : ℤ} {ps : List ℤ}

section Levels

variable {H : Type} (handlers : Bool → List (HandlerEntry H))

/-- The handlers of a bus at a priority. -/
def handlersAt (x : Bool) (p : ℤ) : List (HandlerEntry H) :=
  (handlers x).filter fun entry => entry.priority = p

/-- The handlers of both buses at a priority. -/
def levelAt (p : ℤ) : Level (Bool × HandlerEntry H) where
  priority := p
  handlers x := (handlersAt handlers x p).map (Prod.mk x)
  -- the cursor of a tied route does not reach the level if one cannot be added to it
  tight := decide (addOne p = p ∧ ∀ x, handlersAt handlers x p ≠ [])
  shared h x := by simpa using (of_decide_eq_true h).2 x

/-- The priorities of the two buses, highest first. -/
def prioritiesOf : List ℤ :=
  sortDesc id ((handlers false ++ handlers true).map HandlerEntry.priority).dedup

/-- The levels of the two buses. -/
def levelsOf : List (Level (Bool × HandlerEntry H)) := (prioritiesOf handlers).map (levelAt handlers)

variable (uses : Bool → Bool) (transport : Bool → String)

/-- What a bus has in its merged list at a priority: its own handlers, and the route to the other bus
if that has handlers there. -/
def blockAt (x : Bool) (p : ℤ) : List (MergedEntry H) :=
  (handlersAt handlers x p).map MergedEntry.localEntry ++
    if uses x = true ∧ handlersAt handlers (!x) p ≠ [] then [.remoteEntry ⟨transport x, p⟩] else []

variable {handlers} {uses} {transport}

lemma mem_prioritiesOf :
    p ∈ prioritiesOf handlers ↔ ∃ x, ∃ entry ∈ handlers x, entry.priority = p := by
  simp [prioritiesOf]

variable (handlers) in
/-- The priorities strictly descend. -/
lemma pairwise_prioritiesOf : (prioritiesOf handlers).Pairwise fun p q => q < p := by
  have hnodup : (prioritiesOf handlers).Nodup := (sortDesc_perm _).nodup_iff.mpr (List.nodup_dedup _)
  have hdesc : Descending id (prioritiesOf handlers) := descending_sortDesc _
  exact (hdesc.and hnodup).imp fun h => lt_of_le_of_ne h.1 (Ne.symm h.2)

/-- The priorities handed over at a level. -/
lemma handed_levelAt (p : ℤ) (ps : List ℤ) :
    (levelAt handlers p).handed (ps.map (levelAt handlers)) =
      (if (levelAt handlers p).tight = true then ps else p :: ps).map (levelAt handlers) := by
  unfold Level.handed
  split_ifs <;> rfl

lemma handlersAt_ne_nil {x : Bool} :
    handlersAt handlers x p ≠ [] ↔ ∃ entry ∈ handlers x, entry.priority = p := by
  simp [handlersAt, List.filter_eq_nil_iff]

variable {routes : List RemoteRoute}

/-- At one priority there is at most the one route to the other bus. -/
lemma filter_routes {x : Bool} (hnodup : routes.Nodup)
    (hroutes : ∀ route, route ∈ routes ↔ uses x = true ∧ route.transport = transport x ∧
      ∃ entry ∈ handlers (!x), entry.priority = route.priority) (p : ℤ) :
    routes.filter (fun route => route.priority = p) =
      if uses x = true ∧ handlersAt handlers (!x) p ≠ [] then [⟨transport x, p⟩] else [] := by
  split_ifs with h
  · rw [handlersAt_ne_nil] at h
    have hmem : ∀ route, route ∈ routes.filter (fun route => route.priority = p) ↔
        route ∈ [(⟨transport x, p⟩ : RemoteRoute)] := by
      rintro ⟨t, q⟩
      rw [List.mem_filter, hroutes, List.mem_singleton, RemoteRoute.mk.injEq, decide_eq_true_eq]
      constructor
      · rintro ⟨⟨-, htransport, -⟩, hpriority⟩
        exact ⟨htransport, hpriority⟩
      · rintro ⟨rfl, rfl⟩
        exact ⟨⟨h.1, rfl, h.2⟩, rfl⟩
    exact List.perm_singleton.mp ((List.perm_ext_iff_of_nodup (hnodup.filter _)
      (List.nodup_singleton _)).mpr hmem)
  · refine List.filter_eq_nil_iff.mpr fun route hroute hpriority => h ?_
    obtain ⟨huses, -, hentry⟩ := (hroutes route).mp hroute
    rw [of_decide_eq_true hpriority] at hentry
    exact ⟨huses, handlersAt_ne_nil.mpr hentry⟩

/-- The order of the entries: descending ranks, and a route after everything of its priority. -/
def Before (a b : MergedEntry H) : Prop :=
  b.rank ≤ a.rank ∧ ∀ route, b = .remoteEntry route → b.rank < a.rank

/-- The rank of an entry of a block. -/
lemma rank_of_mem_blockAt {x : Bool} {e : MergedEntry H} (he : e ∈ blockAt handlers uses transport x p) :
    e.rank = 2 * p + 1 ∧ (∃ entry ∈ handlersAt handlers x p, e = .localEntry entry) ∨ e.rank = 2 * p := by
  rcases List.mem_append.mp he with he | he
  · obtain ⟨entry, hentry, rfl⟩ := List.mem_map.mp he
    have hp : entry.priority = p := of_decide_eq_true (List.mem_filter.mp hentry).2
    exact Or.inl ⟨by rw [MergedEntry.rank, hp], entry, hentry, rfl⟩
  · split_ifs at he
    · rw [List.mem_singleton.mp he]
      exact Or.inr rfl
    · cases he

/-- A block is in order: the handlers as they were, and the route behind them. -/
lemma pairwise_blockAt (x : Bool) (p : ℤ) : (blockAt handlers uses transport x p).Pairwise Before := by
  have hrank : ∀ entry ∈ handlersAt handlers x p, (MergedEntry.localEntry entry).rank = 2 * p + 1 :=
    fun entry hentry => by
      have hp : entry.priority = p := of_decide_eq_true (List.mem_filter.mp hentry).2
      rw [MergedEntry.rank, hp]
  refine List.pairwise_append.mpr ⟨?_, ?_, ?_⟩
  · rw [List.pairwise_map]
    exact List.pairwise_of_forall_mem_list fun a ha b hb =>
      ⟨le_of_eq ((hrank b hb).trans (hrank a ha).symm), fun route h => by cases h⟩
  · split_ifs
    · exact List.pairwise_singleton _ _
    · exact List.Pairwise.nil
  · intro a ha b hb
    obtain ⟨entry, hentry, rfl⟩ := List.mem_map.mp ha
    split_ifs at hb
    · obtain rfl := List.mem_singleton.mp hb
      have hlt : (MergedEntry.remoteEntry ⟨transport x, p⟩ : MergedEntry H).rank <
          (MergedEntry.localEntry entry).rank := by
        rw [hrank entry hentry]
        show 2 * p < 2 * p + 1
        omega
      exact ⟨hlt.le, fun _ _ => hlt⟩
    · cases hb

/-- The entries of a merged list at one priority are the block of that priority. -/
lemma filter_buildMergedList {x : Bool} (hnodup : routes.Nodup)
    (hroutes : ∀ route, route ∈ routes ↔ uses x = true ∧ route.transport = transport x ∧
      ∃ entry ∈ handlers (!x), entry.priority = route.priority) (p : ℤ) :
    (buildMergedList (handlers x) routes).filter (fun e => e.priority = p) =
      blockAt handlers uses transport x p := by
  rw [buildMergedList_eq_sortDesc, ← sortDesc_filter, List.filter_append, List.filter_map,
    List.filter_map]
  show sortDesc MergedEntry.rank ((handlersAt handlers x p).map MergedEntry.localEntry ++
    (routes.filter fun route => route.priority = p).map MergedEntry.remoteEntry) = _
  rw [filter_routes hnodup hroutes, apply_ite (List.map MergedEntry.remoteEntry)]
  have hdesc : Descending MergedEntry.rank (blockAt handlers uses transport x p) :=
    (pairwise_blockAt x p).imp fun h => h.1
  exact hdesc.sortDesc_eq

/-- **The merged list of a bus is laid out in levels.** -/
theorem buildMergedList_eq_flatMap {x : Bool} (hnodup : routes.Nodup)
    (hroutes : ∀ route, route ∈ routes ↔ uses x = true ∧ route.transport = transport x ∧
      ∃ entry ∈ handlers (!x), entry.priority = route.priority) :
    buildMergedList (handlers x) routes =
      (prioritiesOf handlers).flatMap (blockAt handlers uses transport x) := by
  have hmem : ∀ e ∈ buildMergedList (handlers x) routes, e.priority ∈ prioritiesOf handlers := by
    intro e he
    rcases mem_buildMergedList.mp he with ⟨entry, hentry, rfl⟩ | ⟨route, hroute, rfl⟩
    · exact mem_prioritiesOf.mpr ⟨x, entry, hentry, rfl⟩
    · exact mem_prioritiesOf.mpr ⟨!x, ((hroutes route).mp hroute).2.2⟩
  rw [(descending_buildMergedList _ _).eq_flatMap_filter (pairwise_prioritiesOf handlers) hmem]
  exact List.flatMap_congr fun p _ => filter_buildMergedList hnodup hroutes p

/-- The entries of a block have its priority. -/
lemma priority_of_mem_blockAt {x : Bool} {e : MergedEntry H} (he : e ∈ blockAt handlers uses transport x p) :
    e.priority = p := by
  rcases List.mem_append.mp he with he | he
  · obtain ⟨entry, hentry, rfl⟩ := List.mem_map.mp he
    exact of_decide_eq_true (List.mem_filter.mp hentry).2
  · split_ifs at he
    · rw [List.mem_singleton.mp he]
      rfl
    · cases he

/-- Cut at a level, the list of a bus is the list of the levels from there on. -/
lemma filter_flatMap_blockAt {x : Bool} (hsuffix : ps <:+ prioritiesOf handlers) :
    ((prioritiesOf handlers).flatMap (blockAt handlers uses transport x)).filter
        (fun e => e.priority ∈ ps) = ps.flatMap (blockAt handlers uses transport x) := by
  obtain ⟨pre, hpre⟩ := hsuffix
  obtain ⟨-, -, habove⟩ := List.pairwise_append.mp (hpre ▸ pairwise_prioritiesOf handlers)
  rw [← hpre, List.flatMap_append, List.filter_append]
  have hnil : (pre.flatMap (blockAt handlers uses transport x)).filter
      (fun e => e.priority ∈ ps) = [] := by
    refine List.filter_eq_nil_iff.mpr fun e he => ?_
    obtain ⟨q, hq, he⟩ := List.mem_flatMap.mp he
    rw [priority_of_mem_blockAt he, decide_eq_true_eq]
    exact fun hq' => lt_irrefl q (habove q hq q hq')
  have hself : (ps.flatMap (blockAt handlers uses transport x)).filter (fun e => e.priority ∈ ps) =
      ps.flatMap (blockAt handlers uses transport x) := by
    refine List.filter_eq_self.mpr fun e he => ?_
    obtain ⟨q, hq, he⟩ := List.mem_flatMap.mp he
    rw [priority_of_mem_blockAt he]
    exact decide_eq_true hq
  rw [hnil, hself, List.nil_append]

/-- A priority is from a level on if it is at most that of the level, and below the level if it is
less. -/
lemma mem_of_suffix (hsuffix : p :: ps <:+ prioritiesOf handlers) {q : ℤ}
    (hq : q ∈ prioritiesOf handlers) : (q ∈ p :: ps ↔ q ≤ p) ∧ (q ∈ ps ↔ q < p) := by
  obtain ⟨pre, hpre⟩ := hsuffix
  obtain ⟨-, hdesc, habove⟩ := List.pairwise_append.mp (hpre ▸ pairwise_prioritiesOf handlers)
  have hbelow : ∀ r ∈ ps, r < p := fun r hr => List.rel_of_pairwise_cons hdesc hr
  rw [← hpre, List.mem_append, List.mem_cons] at hq
  rw [List.mem_cons]
  rcases hq with hq | rfl | hq
  · have hlt := habove q hq p (by simp)
    exact ⟨⟨fun h => h.elim le_of_eq fun h => (hbelow q h).le, fun h => absurd h (not_le.mpr hlt)⟩,
      ⟨hbelow q, fun h => absurd h (not_lt.mpr hlt.le)⟩⟩
  · exact ⟨⟨fun _ => le_rfl, fun _ => Or.inl rfl⟩, ⟨hbelow q, fun h => absurd h (lt_irrefl q)⟩⟩
  · exact ⟨⟨fun _ => (hbelow q hq).le, fun _ => Or.inr hq⟩, ⟨hbelow q, fun _ => hq⟩⟩

/-- The list of a bus is in order. -/
lemma pairwise_flatMap_blockAt (x : Bool) :
    ((prioritiesOf handlers).flatMap (blockAt handlers uses transport x)).Pairwise Before := by
  refine List.pairwise_flatMap.mpr ⟨fun p _ => pairwise_blockAt x p,
    (pairwise_prioritiesOf handlers).imp fun {p q} hlt a ha b hb => ?_⟩
  have hrank : b.rank < a.rank := by
    rcases rank_of_mem_blockAt ha with ⟨ha, -⟩ | ha <;> rcases rank_of_mem_blockAt hb with ⟨hb, -⟩ | hb <;> omega
  exact ⟨hrank.le, fun _ _ => hrank⟩

/-- **The route at a level is tied** exactly if the bus has handlers of its own there.

**Proof sketch.** Everything before the route has a higher rank, and what has its priority then is a
handler. -/
lemma tied_iff {x : Bool} {i : ℕ} {route : RemoteRoute}
    (hi : ((prioritiesOf handlers).flatMap (blockAt handlers uses transport x))[i]? =
      some (.remoteEntry route)) :
    Tied ((prioritiesOf handlers).flatMap (blockAt handlers uses transport x)) i route.priority ↔
      handlersAt handlers x route.priority ≠ [] := by
  have hblock : ∀ e ∈ (prioritiesOf handlers).flatMap (blockAt handlers uses transport x),
      e ∈ blockAt handlers uses transport x e.priority := by
    intro e he
    obtain ⟨p, -, he⟩ := List.mem_flatMap.mp he
    rwa [priority_of_mem_blockAt he]
  have horder := List.pairwise_iff_getElem.mp (@pairwise_flatMap_blockAt H handlers uses transport x)
  obtain ⟨hlt, hget⟩ := List.getElem?_eq_some_iff.mp hi
  constructor
  · rintro ⟨previous, hpos, hprevious, hpriority⟩
    obtain ⟨hlt', rfl⟩ := List.getElem?_eq_some_iff.mp hprevious
    have hrank := (horder (i - 1) i hlt' hlt (by omega)).2 route hget
    rw [hget, MergedEntry.rank, ← hpriority] at hrank
    rcases rank_of_mem_blockAt (hblock _ (List.getElem_mem hlt')) with ⟨-, entry, hentry, -⟩ | h
    · rw [← hpriority]
      exact List.ne_nil_of_mem hentry
    · omega
  · intro hne
    obtain ⟨entry, hentry⟩ := List.exists_mem_of_ne_nil _ hne
    have hp : entry.priority = route.priority := of_decide_eq_true (List.mem_filter.mp hentry).2
    have hmem : .localEntry entry ∈ (prioritiesOf handlers).flatMap (blockAt handlers uses transport x) :=
      List.mem_flatMap.mpr ⟨route.priority, mem_prioritiesOf.mpr ⟨x, entry, (List.mem_filter.mp hentry).1, hp⟩,
        List.mem_append_left _ (List.mem_map_of_mem hentry)⟩
    obtain ⟨j, hj, hjget⟩ := List.mem_iff_getElem.mp hmem
    have hji : j < i := by
      by_contra hle
      rcases Nat.eq_or_lt_of_le (not_lt.mp hle) with rfl | hij
      · rw [hget] at hjget
        cases hjget
      · have := (horder i j hlt hj hij).1
        rw [hget, hjget, MergedEntry.rank, MergedEntry.rank] at this
        omega
    have hlt' : i - 1 < _ := (Nat.sub_le i 1).trans_lt hlt
    have hupper := (horder (i - 1) i hlt' hlt (by omega)).1
    have hlower : ((prioritiesOf handlers).flatMap (blockAt handlers uses transport x))[i - 1].rank ≤
        2 * route.priority + 1 := by
      rcases Nat.eq_or_lt_of_le (show j ≤ i - 1 by omega) with rfl | hij
      · rw [hjget, MergedEntry.rank, hp]
      · have := (horder j (i - 1) hj hlt' hij).1
        rwa [hjget, MergedEntry.rank, hp] at this
    rw [hget, MergedEntry.rank] at hupper
    refine ⟨_, by omega, List.getElem?_eq_getElem hlt', ?_⟩
    rcases rank_of_mem_blockAt (hblock _ (List.getElem_mem hlt')) with ⟨h, -⟩ | h <;> omega

end Levels

section Distinct

/-- What is run at most as often as it is listed is run at most once if nothing is listed twice. -/
lemma nodup_of_subperm {E : Type} {l l' : List E} (h : l.Subperm l') (hl' : l'.Nodup) :
    l.Nodup := by
  obtain ⟨l'', hperm, hsub⟩ := h
  exact hperm.nodup_iff.mp (hl'.sublist hsub)

variable {H : Type} {handlers : Bool → List (HandlerEntry H)}

/-- The levels hold the handlers of either bus in their order. -/
lemma handlersOf_levelsOf {x : Bool} (hsorted : Descending HandlerEntry.priority (handlers x)) :
    handlersOf x (levelsOf handlers) = (handlers x).map (Prod.mk x) := by
  have hblocks := hsorted.eq_flatMap_filter (pairwise_prioritiesOf handlers)
    fun entry hentry => mem_prioritiesOf.mpr ⟨x, entry, hentry, rfl⟩
  conv_rhs => rw [hblocks]
  rw [handlersOf, levelsOf, List.flatMap_map, List.map_flatMap]
  rfl

/-- Distinct handlers are distinct in the levels. -/
lemma nodup_handlersOf_levelsOf (hsorted : ∀ x, Descending HandlerEntry.priority (handlers x))
    (hnodup : ∀ x, (handlers x).Nodup) :
    (handlersOf false (levelsOf handlers) ++ handlersOf true (levelsOf handlers)).Nodup := by
  have hinj : ∀ x, Function.Injective (Prod.mk x : HandlerEntry H → Bool × HandlerEntry H) :=
    fun x a b hab => (Prod.mk.inj hab).2
  rw [handlersOf_levelsOf (hsorted false), handlersOf_levelsOf (hsorted true), List.nodup_append]
  refine ⟨(hnodup _).map (hinj _), (hnodup _).map (hinj _), ?_⟩
  intro a ha b hb hab
  obtain ⟨entry, -, rfl⟩ := List.mem_map.mp ha
  obtain ⟨entry', -, rfl⟩ := List.mem_map.mp hb
  exact absurd (Prod.mk.inj hab).1 (by simp)

/-- Every level has a handler. -/
lemma events_ne_nil_of_mem_levelsOf {l : Level (Bool × HandlerEntry H)}
    (hl : l ∈ levelsOf handlers) : l.events ≠ [] := by
  obtain ⟨p, hp, rfl⟩ := List.mem_map.mp hl
  obtain ⟨x, hentry⟩ := mem_prioritiesOf.mp hp
  obtain ⟨entry, hmem⟩ := List.exists_mem_of_ne_nil _ (handlersAt_ne_nil.mpr hentry)
  exact List.ne_nil_of_mem ((Level.handlers_sublist_events _ x).subset
    (List.mem_map_of_mem hmem))

end Distinct

/-! ### The walk of one bus -/

section Walk

variable {H V : Type} [ObjectSpread V] {net : Network Bool H V} {x : Bool}
  {send : String → BusRequestMessage V → NetworkRun Bool H V V} {definition : SubjectDefinition}
  {merged : List (MergedEntry H)} {options : DispatchOptions} {payload : V}
  {behaviour : H → V → Behaviour V} {handlers : Bool → List (HandlerEntry H)} {uses : Bool → Bool}
  {transport : Bool → String} {effect : Bool × HandlerEntry H → Effect}
  {hand : Bool → List (Level (Bool × HandlerEntry H)) → Walk (Bool × HandlerEntry H)}

/-- **A bus walks its merged list as a party walks the levels**, if the hops do what the other party
does.

**Proof sketch.** Induction on the priorities left: the local entries of a block run as the handlers
of the level, and the remote entry behind them hands the level over. -/
theorem stepDispatch_mirrors (hprogram : ∀ h v, net.program h v = (behaviour h v).program)
    (heffect : ∀ entry, effect (x, entry) = (behaviour entry.handler payload).effect)
    (hhas : (net.context x).transports.has (transport x) = true) {start : ℕ} :
    ∀ {index : ℕ}, start ≤ index →
      merged.drop index = ps.flatMap (blockAt handlers uses transport x) →
      (∀ i p ps', start ≤ i → p :: ps' <:+ ps →
        merged[i]? = some (.remoteEntry ⟨transport x, p⟩) →
        Answered transport (getFullSubjectForSubjectDefinition definition)
          (send (transport x) (requestMessage definition payload
            (resolveRemoteCursor merged (i + 1) p options.priority)))
          ((hand (!x) ((levelAt handlers p).handed (ps'.map (levelAt handlers)))).handedBy x)) →
      Mirrors transport (stepDispatch net x send definition merged options
        (ps.flatMap (blockAt handlers uses transport x)) index payload none)
        (walkLevels effect uses hand x (ps.map (levelAt handlers))) := by
  induction ps with
  | nil => exact fun _ _ _ => ⟨rfl, rfl, none, rfl, rfl⟩
  | cons p ps ih =>
    intro index hstart hdrop hhop
    have hhop' : ∀ i p' ps', start ≤ i → p' :: ps' <:+ ps →
        merged[i]? = some (.remoteEntry ⟨transport x, p'⟩) → _ := fun i p' ps' hi hsuffix =>
      hhop i p' ps' hi (hsuffix.trans (List.suffix_cons _ _))
    rw [List.flatMap_cons, blockAt, List.append_assoc] at hdrop ⊢
    rw [List.map_cons, walkLevels]
    refine stepDispatch_local_mirrors hprogram heffect ?_
    -- what is left of the list behind the local entries of the block
    have hrest := congrArg (List.drop (handlersAt handlers x p).length) hdrop
    rw [List.drop_drop, List.drop_left' (by simp)] at hrest
    have hcond : (uses x = true ∧ (levelAt handlers p).handlers (!x) ≠ []) ↔
        (uses x = true ∧ handlersAt handlers (!x) p ≠ []) := by
      simp [levelAt]
    by_cases h : uses x = true ∧ handlersAt handlers (!x) p ≠ []
    · rw [if_pos (hcond.mpr h)]
      rw [if_pos h, List.singleton_append] at hrest ⊢
      have hi : merged[index + (handlersAt handlers x p).length]? =
          some (.remoteEntry ⟨transport x, p⟩) := by
        have := congrArg (fun l => l[0]?) hrest
        simpa [List.getElem?_drop] using this
      have htail := congrArg List.tail hrest
      rw [List.tail_drop, List.tail_cons] at htail
      rw [stepDispatch]
      exact executeRemoteEntry_mirrors hhas
        (hhop _ p ps (by omega) (List.suffix_refl _) hi) (ih (by omega) htail hhop')
    · rw [if_neg (hcond.not.mpr h)]
      rw [if_neg h, List.nil_append] at hrest ⊢
      exact ih (by omega) hrest hhop'

end Walk

/-! ### Two connected buses -/

/-- Two buses connected by one transport, `false` making the request and `true` receiving it.  Their
handlers are any handlers at any priorities, kept in order as `on` keeps them, and identified by
their registration; the advertisements for the subject are up to date on both sides. -/
structure BusPair (H V : Type) where
  net : Network Bool H V
  definition : SubjectDefinition
  behaviour : H → V → Behaviour V
  /-- The name of the transport at either end. -/
  transport : Bool → String
  program : ∀ h v, net.program h v = (behaviour h v).program
  connected : ∀ x, (net.context x).transports.has (transport x) = true
  peer : ∀ x t, net.peer x t = if t = transport x then some (!x) else none
  sorted : ∀ x key entries, (net.context x).requestHandlers.get? key = some entries →
    Descending HandlerEntry.priority entries
  distinct : ∀ x, (getMatchingHandlerEntries (net.context x).requestHandlers
    (getFullSubjectForSubjectDefinition definition)).Nodup
  /-- Each bus knows the priorities of the other, and a delivery class with each. -/
  propagated : Propagated net definition fun x _ => transport (!x)
  /-- There is no other transport. -/
  only : ∀ x, ∀ route ∈ getMatchingRemoteEntries (net.context x)
    (getFullSubjectForSubjectDefinition definition) false, route.transport = transport x
  /-- The routes to a bus are first-hop-only exactly if that bus registered the subject as a
  host-local request subject. -/
  classes : ∀ x, transport x ∈ blockedTransports (net.context x)
      (getFullSubjectForSubjectDefinition definition) ↔
    (net.context (!x)).namespaceRegistry.isHostLocalRequestSubject
      (getFullSubjectForSubjectDefinition definition) = true
  /-- The subject token and the namespace registered at the requester agree on locality. -/
  token : (net.context false).namespaceRegistry.isLocalSubject
    (getFullSubjectForSubjectDefinition definition) = true → definition.isLocal = true

namespace BusPair

variable {H V : Type} (P : BusPair H V)

/-- The subject of the request. -/
def subject : Key := getFullSubjectForSubjectDefinition P.definition

/-- The matching handlers of either bus. -/
def handlers (x : Bool) : List (HandlerEntry H) :=
  getMatchingHandlerEntries (P.net.context x).requestHandlers P.subject

/-- The request does not leave the requester. -/
def StaysLocal : Prop := resolveLocalOnly (P.net.context false) P.definition none = true

/-- The receiver registered the subject as local. -/
def RejectedByPeer : Prop := (P.net.context true).namespaceRegistry.isLocalSubject P.subject = true

/-- Received requests are sent on: neither bus registered the subject as host-local. -/
def relays : Bool :=
  !(P.net.context false).namespaceRegistry.isHostLocalRequestSubject P.subject &&
    !(P.net.context true).namespaceRegistry.isHostLocalRequestSubject P.subject

/-- Which of the buses sends the request on. -/
def uses (x : Bool) : Bool := if x then P.relays else true

/-- What a handler does to the chain. -/
def effect (payload : V) (e : Bool × HandlerEntry H) : Effect :=
  (P.behaviour e.2.handler payload).effect

/-- The levels of the two buses. -/
def levels : List (Level (Bool × HandlerEntry H)) := levelsOf P.handlers

/-- The handlers are arranged so that none runs twice. -/
def Arranged (payload : V) : Prop :=
  if P.relays = true then Safe (P.effect payload) false P.levels
  else SafeDirect (P.effect payload) P.levels

/-- One request at the requester invokes each handler of either bus at most once. -/
def AtMostOnce [ObjectSpread V] (payload : V) : Prop :=
  ∀ depth, (invocations (request P.net false (hop P.net depth false) P.definition payload
    none).trace).Nodup

lemma descending_handlers (x : Bool) : Descending HandlerEntry.priority (P.handlers x) := by
  refine descending_mergeSortedHandlerArrays fun array harray => ?_
  obtain ⟨⟨key, entries⟩, hmem, rfl⟩ := List.mem_map.mp harray
  exact P.sorted x key entries (OrderedMap.mem_entries_iff.mp (List.mem_filter.mp hmem).1)

lemma uses_of_relays (h : P.relays = true) (x : Bool) : P.uses x = true := by
  cases x
  · rfl
  · exact h

variable {route : RemoteRoute} {cursor : Option ℤ}

/-- The routes of a bus: the priorities of the other one. -/
lemma mem_routes {x : Bool} :
    route ∈ getMatchingRemoteEntries (P.net.context x) P.subject false ↔
      route.transport = P.transport x ∧
        ∃ entry ∈ P.handlers (!x), entry.priority = route.priority := by
  have hpeer : ∀ x, P.net.peer x (P.transport x) = some (!x) := fun x => by
    rw [P.peer, if_pos rfl]
  have hoffers : ∀ q, Offers P.net P.definition (!x) (P.transport (!x)) q ↔
      ∃ entry ∈ P.handlers (!x), entry.priority = q := by
    refine fun q => or_iff_left ?_
    rintro ⟨other, hne, hmem⟩
    exact hne (P.only _ _ (mem_getMatchingRemoteEntries_of_relay
      (remoteEntry_mem_inboundList.mp hmem).2.2))
  obtain ⟨t, q⟩ := route
  constructor
  · intro h
    obtain rfl : t = P.transport x := P.only x _ h
    exact ⟨rfl, (hoffers q).mp ((P.propagated.routes x _ _ q (hpeer x)).mp h)⟩
  · rintro ⟨rfl, h⟩
    exact (P.propagated.routes x _ _ q (hpeer x)).mpr ((hoffers q).mpr h)

/-- The routes a bus uses for a received request. -/
lemma mem_relayed {x : Bool} :
    (P.net.context x).namespaceRegistry.isHostLocalRequestSubject P.subject = false ∧
        route ∈ getMatchingRemoteEntries (P.net.context x) P.subject true ↔
      P.relays = true ∧ route.transport = P.transport x ∧
        ∃ entry ∈ P.handlers (!x), entry.priority = route.priority := by
  have hrelays : P.relays = true ↔
      (P.net.context x).namespaceRegistry.isHostLocalRequestSubject P.subject = false ∧
      (P.net.context (!x)).namespaceRegistry.isHostLocalRequestSubject P.subject = false := by
    cases x <;> simp [relays, and_comm]
  rw [← mem_routes, hrelays]
  constructor
  · rintro ⟨hhost, h⟩
    have hroute := mem_getMatchingRemoteEntries_of_relay h
    obtain ⟨pattern, entries, _, _, _, husable⟩ := mem_getMatchingRemoteEntries.mp h
    have hblocked := (husable rfl).1
    rw [P.only x route hroute] at hblocked
    exact ⟨⟨hhost, Bool.eq_false_iff.mpr fun hpeer => hblocked ((P.classes x).mpr hpeer)⟩, hroute⟩
  · rintro ⟨⟨hhost, hpeer⟩, h⟩
    obtain ⟨pattern, entries, hget, hmatch, hin, -⟩ := mem_getMatchingRemoteEntries.mp h
    refine ⟨hhost, mem_getMatchingRemoteEntries.mpr ⟨pattern, entries, hget, hmatch, hin,
      fun _ => ⟨?_, P.propagated.classified x pattern entries hget _ hin⟩⟩⟩
    rw [P.only x route h]
    exact fun hblocked => absurd ((P.classes x).mp hblocked) (by
      rw [show getFullSubjectForSubjectDefinition P.definition = P.subject from rfl, hpeer]
      simp)

/-- The list of a request that leaves the requester. -/
lemma requestList_eq (h : ¬ P.StaysLocal) :
    requestList (P.net.context false) P.definition =
      (prioritiesOf P.handlers).flatMap (blockAt P.handlers P.uses P.transport false) := by
  have hlocal : (!P.definition.isLocal && !resolveLocalOnly (P.net.context false) P.definition
      none) = true := by
    have hno : resolveLocalOnly (P.net.context false) P.definition none = false :=
      Bool.eq_false_iff.mpr h
    have hdef : P.definition.isLocal = false := (Bool.or_eq_false_iff.mp hno).1
    simp [hno, hdef]
  have hlist : requestList (P.net.context false) P.definition = buildMergedList (P.handlers false)
      (getMatchingRemoteEntries (P.net.context false) P.subject false) := by
    unfold requestList dispatchList requestOptions
    dsimp only
    rw [if_pos hlocal]
    rfl
  rw [hlist]
  refine buildMergedList_eq_flatMap (nodup_getMatchingRemoteEntries _ _ _) fun route => ?_
  rw [mem_routes]
  exact ⟨fun h => ⟨rfl, h⟩, fun h => h.2⟩

/-- The list of a received request. -/
lemma inboundList_eq {x : Bool}
    (hlocal : (P.net.context x).namespaceRegistry.isLocalSubject P.subject = false)
    (huses : P.uses x = P.relays) :
    inboundList (P.net.context x) P.definition =
      (prioritiesOf P.handlers).flatMap (blockAt P.handlers P.uses P.transport x) := by
  have hlist : inboundList (P.net.context x) P.definition = buildMergedList (P.handlers x)
      (if (P.net.context x).namespaceRegistry.isHostLocalRequestSubject P.subject then []
        else getMatchingRemoteEntries (P.net.context x) P.subject true) :=
    if_neg (by rw [Bool.not_eq_true]; exact hlocal)
  rw [hlist]
  refine buildMergedList_eq_flatMap ?_ fun route => ?_
  · split_ifs
    · exact List.nodup_nil
    · exact nodup_getMatchingRemoteEntries _ _ _
  · rw [huses, ← mem_relayed]
    split_ifs with hhost
    · simp [hhost]
    · simp [hhost]

/-- The entries of a received request's list have priorities of handlers. -/
lemma priority_mem_of_inboundList {x : Bool} {e : MergedEntry H}
    (he : e ∈ inboundList (P.net.context x) P.definition) : e.priority ∈ prioritiesOf P.handlers := by
  cases e with
  | localEntry entry => exact mem_prioritiesOf.mpr ⟨x, entry, (localEntry_mem_inboundList.mp he).2, rfl⟩
  | remoteEntry route =>
    have hroute := mem_getMatchingRemoteEntries_of_relay (remoteEntry_mem_inboundList.mp he).2.2
    exact mem_prioritiesOf.mpr ⟨!x, (P.mem_routes.mp hroute).2⟩

variable [ObjectSpread V] {payload : V}

/-- What `deliver` has to do for a hop to be answered as the other party answers. -/
def DeliverMirrors (payload : V) (depth : ℕ) : Prop :=
  ∀ {x : Bool} {ps : List ℤ} {cursor : Option ℤ}, ps <:+ prioritiesOf P.handlers →
    P.uses x = P.relays →
    (∀ e ∈ inboundList (P.net.context x) P.definition,
      BelowCursor cursor e.priority ↔ e.priority ∈ ps) →
    Answered P.transport P.subject
      (deliver P.net depth x (requestMessage P.definition payload cursor))
      (levelRun (P.effect payload) P.uses depth x (ps.map (levelAt P.handlers)))

omit [ObjectSpread V] in
/-- The receiver of a hop finds the levels below the cursor that are handed over. -/
lemma belowCursor_sent_iff {x : Bool} {merged : List (MergedEntry H)}
    (hmerged : WalkedList P.net P.definition x merged)
    (hlist : merged = (prioritiesOf P.handlers).flatMap (blockAt P.handlers P.uses P.transport x)) {i : ℕ}
    (hi : merged[i]? = some (.remoteEntry ⟨P.transport x, p⟩)) (hbelow : BelowCursor cursor p)
    (hsuffix : p :: ps <:+ prioritiesOf P.handlers) {e : MergedEntry H}
    (he : e ∈ inboundList (P.net.context (!x)) P.definition) :
    BelowCursor (resolveRemoteCursor merged (i + 1) p cursor) e.priority ↔
      e.priority ∈ if (levelAt P.handlers p).tight = true then ps else p :: ps := by
  have hpeer : P.net.peer x (P.transport x) = some (!x) := by rw [P.peer, if_pos rfl]
  have hsorted : Descending MergedEntry.priority merged := by
    rcases hmerged with rfl | rfl
    · exact descending_dispatchList _ _ _
    · exact descending_inboundList _ _
  have hother : handlersAt P.handlers (!x) p ≠ [] := by
    have hmem : (⟨P.transport x, p⟩ : RemoteRoute) ∈
        getMatchingRemoteEntries (P.net.context x) P.subject false := by
      rcases hmerged with rfl | rfl
      · exact (remoteEntry_mem_requestList.mp (List.mem_of_getElem? hi)).2
      · exact mem_getMatchingRemoteEntries_of_relay
          (remoteEntry_mem_inboundList.mp (List.mem_of_getElem? hi)).2.2
    exact handlersAt_ne_nil.mpr (P.mem_routes.mp hmem).2
  have htied : Tied merged i p ↔ handlersAt P.handlers x p ≠ [] := by
    subst hlist
    exact tied_iff hi
  obtain ⟨hle, hlt⟩ := mem_of_suffix hsuffix (P.priority_mem_of_inboundList he)
  by_cases htight : (levelAt P.handlers p).tight = true
  · rw [if_pos htight, hlt]
    obtain ⟨hone, hboth⟩ := of_decide_eq_true htight
    obtain ⟨previous, hpos, hprevious, hpriority⟩ := htied.mpr (hboth x)
    obtain ⟨k, rfl⟩ : ∃ k, i = k + 1 := ⟨i - 1, by omega⟩
    rw [Nat.add_sub_cancel] at hprevious
    rw [resolveRemoteCursor_succ p hprevious, if_pos hpriority, hpriority, hone, belowCursor_some]
  · rw [if_neg htight, hle]
    refine ⟨fun h => le_of_belowCursor_sent hmerged P.propagated hpeer hi he h, fun hle => ?_⟩
    refine ((belowCursor_resolveRemoteCursor_iff hsorted hi hbelow).mpr fun h => ?_).of_le hle
    refine lt_of_le_of_ne (le_addOne p) fun hone => htight (decide_eq_true ⟨hone.symm, fun y => ?_⟩)
    rcases Bool.eq_or_eq_not y x with rfl | rfl
    · exact htied.mp h
    · exact hother

omit [ObjectSpread V] in
/-- An answer that is lost is one to a bus that has handed the request over again. -/
lemma awaitAnswer_answered {x : Bool} {run : NetworkRun Bool H V V} {w : Walk (Bool × HandlerEntry H)}
    (h : Answered P.transport P.subject run w) (message : BusRequestMessage V) :
    Answered P.transport P.subject (.event (.send x (P.transport x) message)
      (awaitAnswer x (P.transport x) run)) (w.handedBy x) := by
  obtain ⟨htrace, hhands, hend⟩ := h
  refine ⟨?_, ?_, ?_⟩
  · rw [Traced.trace_event, invocations_send, trace_awaitAnswer]
    exact htrace
  · rw [Traced.trace_event, trace_awaitAnswer, senders_send, hhands]
    rfl
  · have hsent : run.trace.any (BusEvent.isSend x (P.transport x)) = true ↔ x ∈ w.hands := by
      rw [any_isSend_iff, hhands]
    rw [Traced.ending_event, awaitAnswer, Walk.handedBy]
    dsimp only
    by_cases hx : x ∈ w.hands
    · rw [if_pos (hsent.mpr hx), if_pos hx]
    · rw [if_neg (hsent.not.mpr hx), if_neg hx]
      exact hend

/-- The cursor of a hop is the boundary of the level it is made at. -/
lemma hop_answered {depth : ℕ} (hdeliver : P.DeliverMirrors payload depth) {x : Bool}
    {merged : List (MergedEntry H)} (hmerged : WalkedList P.net P.definition x merged)
    (hlist : merged = (prioritiesOf P.handlers).flatMap (blockAt P.handlers P.uses P.transport x)) {i : ℕ}
    (hi : merged[i]? = some (.remoteEntry ⟨P.transport x, p⟩)) (hbelow : BelowCursor cursor p)
    (hsuffix : p :: ps <:+ prioritiesOf P.handlers) (huses : P.uses (!x) = P.relays) :
    Answered P.transport P.subject
      (hop P.net depth x (P.transport x) (requestMessage P.definition payload
        (resolveRemoteCursor merged (i + 1) p cursor)))
      ((levelRun (P.effect payload) P.uses depth (!x)
        ((levelAt P.handlers p).handed (ps.map (levelAt P.handlers)))).handedBy x) := by
  have hpeer : P.net.peer x (P.transport x) = some (!x) := by rw [P.peer, if_pos rfl]
  rw [hop_of_peer P.net hpeer, handed_levelAt]
  refine P.awaitAnswer_answered (hdeliver ?_ huses fun e he =>
    P.belowCursor_sent_iff hmerged hlist hi hbelow hsuffix he) _
  split_ifs
  · exact (List.suffix_cons _ _).trans hsuffix
  · exact hsuffix

/-- The receiver of a request answers as its dispatch ends. -/
lemma handleRequestMessage_answered {x : Bool} {send : String → BusRequestMessage V → NetworkRun Bool H V V}
    {w : Walk (Bool × HandlerEntry H)}
    (hlocal : (P.net.context x).namespaceRegistry.isLocalSubject P.subject = false)
    (h : Mirrors P.transport
      (inboundDispatch P.net x send (requestMessage P.definition payload cursor)) w) :
    Answered P.transport P.subject (handleRequestMessage P.net x send
      (requestMessage P.definition payload cursor)) w := by
  obtain ⟨htrace, hhands, hend⟩ := h
  unfold handleRequestMessage
  rw [if_neg (by rw [Bool.not_eq_true]; exact hlocal)]
  unfold Answered
  cases hhandled : w.handled with
  | none =>
    rw [hhandled] at hend
    rw [Traced.settle_of_cutOff hend]
    exact ⟨htrace, hhands, rfl⟩
  | some found =>
    rw [hhandled] at hend
    obtain ⟨outcome, hvalue, rfl⟩ := hend
    rw [Traced.settle_of_settled (r := .ok outcome) hvalue]
    cases outcome with
    | some value => exact ⟨by simpa using htrace, by simpa using hhands, value, rfl⟩
    | none =>
      exact ⟨by simpa using htrace, by simpa using hhands, _, rfl,
        BusError.isNoHandlerErrorForSubject_overTransport P.subject⟩

/-- **The handling of a message mirrors the walk from its level on.**

**Proof sketch.** Induction on the bound.  The receiver walks its list from the level of the cursor
on, and each of its hops is again made at a level, so that the induction hypothesis applies. -/
theorem deliver_mirrors
    (hlocal : ∀ x, (P.net.context x).namespaceRegistry.isLocalSubject P.subject = false)
    (depth : ℕ) : P.DeliverMirrors payload depth := by
  induction depth with
  | zero => exact fun _ _ _ => ⟨rfl, rfl, rfl⟩
  | succ depth ih =>
    intro x ps cursor hsuffix huses hcursor
    rw [deliver_succ, levelRun]
    refine P.handleRequestMessage_answered (hlocal x) ?_
    have hlist := P.inboundList_eq (hlocal x) huses
    have hdispatch := dispatchList_inboundOptions (hlocal x) payload cursor
    obtain ⟨start, hfilter, hstart, heq⟩ := dispatch_eq_stepDispatch_filter P.net x (hop P.net depth x)
      (resolveSubjectDefinition (requestMessage P.definition payload cursor) true) payload
      (inboundOptions (P.net.context x) (requestMessage P.definition payload cursor))
    rw [hdispatch] at hfilter hstart heq
    rw [inboundDispatch]
    show Mirrors P.transport (dispatch P.net x (hop P.net depth x) (resolveSubjectDefinition
      (requestMessage P.definition payload cursor) true) payload _) _
    rw [heq]
    -- the walk starts at the first level that was handed over
    have hdrop : (inboundList (P.net.context x) P.definition).drop start =
        ps.flatMap (blockAt P.handlers P.uses P.transport x) := by
      rw [hfilter, ← filter_flatMap_blockAt hsuffix, ← hlist]
      exact List.filter_congr fun e he => decide_eq_decide.mpr (hcursor e he)
    rw [hdrop]
    refine stepDispatch_mirrors P.program (fun _ => rfl) (P.connected x) le_rfl hdrop
      fun i p' ps' hle hsuffix' hi => ?_
    obtain ⟨-, hhost, hroute⟩ := remoteEntry_mem_inboundList.mp (List.mem_of_getElem? hi)
    have hrelays : P.relays = true := (P.mem_relayed.mp ⟨hhost, hroute⟩).1
    exact P.hop_answered ih (Or.inr rfl) hlist hi ((hstart i _ hi).mp hle) (hsuffix'.trans hsuffix)
      (by rw [P.uses_of_relays hrelays, hrelays])

/-- **A request that leaves the requester invokes the handlers of the walk over all levels.** -/
theorem invocations_request
    (hlocal : ∀ x, (P.net.context x).namespaceRegistry.isLocalSubject P.subject = false)
    (hstays : ¬ P.StaysLocal) (depth : ℕ) :
    invocations (request P.net false (hop P.net depth false) P.definition payload none).trace =
      (levelRun (P.effect payload) P.uses (depth + 1) false P.levels).trace := by
  have hlist := P.requestList_eq hstays
  rw [trace_request, dispatch_of_no_cursor P.net false _ rfl]
  have hmirrors : Mirrors P.transport (stepDispatch P.net false (hop P.net depth false) P.definition
      (requestList (P.net.context false) P.definition)
      (requestOptions (P.net.context false) P.definition none)
      ((prioritiesOf P.handlers).flatMap (blockAt P.handlers P.uses P.transport false)) 0 payload
      none) (walkLevels (P.effect payload) P.uses (levelRun (P.effect payload) P.uses depth) false
        P.levels) :=
    stepDispatch_mirrors P.program (fun _ => rfl) (P.connected false) le_rfl
      (by rw [List.drop_zero, hlist]) fun i p ps _ hsuffix hi =>
        P.hop_answered (P.deliver_mirrors hlocal depth) (Or.inl rfl) hlist hi (belowCursor_none p)
          hsuffix rfl
  rw [← hlist] at hmirrors
  exact hmirrors.1

/-- A request whose hops invoke nothing runs each handler at most once. -/
lemma atMostOnce_of_no_hop (h : ∀ depth route,
      .remoteEntry route ∈ requestList (P.net.context false) P.definition → ∀ cursor,
        invocations (hop P.net depth false route.transport
          (requestMessage P.definition payload cursor)).trace = []) :
    P.AtMostOnce payload := by
  intro depth
  rw [trace_request, dispatch_of_no_cursor P.net false _ rfl]
  have hnodup : (localEntries (requestList (P.net.context false) P.definition)).Nodup :=
    (localEntries_buildMergedList_perm _ _).nodup_iff.mpr (P.distinct false)
  exact List.Nodup.sublist (stepDispatch_sublist P.program (h depth))
    (hnodup.map fun a b hab => (Prod.mk.inj hab).2)

/-- A request that stays local runs each handler at most once. -/
lemma atMostOnce_of_staysLocal (h : P.StaysLocal) : P.AtMostOnce payload := by
  refine P.atMostOnce_of_no_hop fun depth route hroute => ?_
  have hlocal := (remoteEntry_mem_requestList.mp hroute).1
  rw [show resolveLocalOnly (P.net.context false) P.definition none = true from h] at hlocal
  simp at hlocal

/-- A request that the other bus rejects runs each handler at most once. -/
lemma atMostOnce_of_rejectedByPeer (h : P.RejectedByPeer) : P.AtMostOnce payload := by
  refine P.atMostOnce_of_no_hop fun depth route hroute cursor => ?_
  rw [P.only false route (remoteEntry_mem_requestList.mp hroute).2,
    hop_of_peer P.net (by rw [P.peer, if_pos rfl]), Traced.trace_event, invocations_send,
    trace_awaitAnswer]
  cases depth with
  | zero => rfl
  | succ depth =>
    rw [deliver_succ, handleRequestMessage]
    exact congrArg (fun run : NetworkRun Bool H V V => invocations run.trace) (if_pos h)

/-- One can be added to every priority that both buses have. -/
def AddsOne : Prop := ∀ p, (∀ x, ∃ entry ∈ P.handlers x, entry.priority = p) → addOne p ≠ p

omit [ObjectSpread V] in
/-- Then no level is tight. -/
lemma AddsOne.tight {P : BusPair H V} (h : P.AddsOne) : ∀ l ∈ P.levels, l.tight = false := by
  intro l hl
  obtain ⟨p, -, rfl⟩ := List.mem_map.mp hl
  exact decide_eq_false fun htight =>
    h p (fun x => handlersAt_ne_nil.mp (htight.2 x)) htight.1

/-- **How often a handler runs.**  For every pair of connected buses with up-to-date advertisements,
every set of handlers and every behaviour of theirs, one request invokes each handler of either bus
at most once if the request is not dispatched at the other bus (it stays local, or that bus
rejects the subject as local), or the handlers are arranged safely; and only then, if one can be added
to every priority that both buses have.

**Proof sketch.** Where the request is dispatched at the other bus, its invocations are those of the
walk over the levels (`invocations_request`), and these repeat in the arrangements that are not
safe and in no others. -/
theorem request_atMostOnce (P : BusPair H V) (payload : V) :
    (P.StaysLocal ∨ P.RejectedByPeer ∨ P.Arranged payload → P.AtMostOnce payload) ∧
    (P.AddsOne → P.AtMostOnce payload → P.StaysLocal ∨ P.RejectedByPeer ∨ P.Arranged payload) := by
  by_cases hstays : P.StaysLocal
  · exact ⟨fun _ => P.atMostOnce_of_staysLocal hstays, fun _ _ => Or.inl hstays⟩
  by_cases hrejected : P.RejectedByPeer
  · exact ⟨fun _ => P.atMostOnce_of_rejectedByPeer hrejected, fun _ _ => Or.inr (Or.inl hrejected)⟩
  have hlocal : ∀ x, (P.net.context x).namespaceRegistry.isLocalSubject P.subject = false := by
    intro x
    cases x with
    | true => exact Bool.eq_false_iff.mpr hrejected
    | false =>
      refine Bool.eq_false_iff.mpr fun h => hstays ?_
      rw [StaysLocal, resolveLocalOnly, P.token h, Bool.true_or]
  have hnodup := nodup_handlersOf_levelsOf P.descending_handlers P.distinct
  have hwalk : P.AtMostOnce payload ↔ ∀ bound,
      (levelRun (P.effect payload) P.uses (bound + 1) false P.levels).trace.Nodup :=
    forall_congr' fun depth => by rw [P.invocations_request hlocal hstays]
  have hne : ∀ l ∈ P.levels, l.events ≠ [] := fun l hl => events_ne_nil_of_mem_levelsOf hl
  simp only [hstays, hrejected, false_or, hwalk]
  unfold Arranged
  split_ifs with hrelays
  · refine ⟨fun hsafe bound => ?_, fun hone h => ?_⟩
    · have hsettles : (levelRun (P.effect payload) P.uses (bound + 1) false P.levels).Settles
          (P.effect payload) (allHandlers P.levels) := levelRun_of_safe (P.uses_of_relays hrelays) hne hsafe
      exact nodup_of_subperm (hsettles.trace.trans (handlersOf_append_perm _).symm.subperm) hnodup
    · by_contra hsafe
      obtain ⟨bound, hbound⟩ := exists_levelRun_of_not_safe (P.uses_of_relays hrelays)
        (fun l hl => ⟨hne l hl, hone.tight l hl⟩) hsafe
      cases bound with
      | zero => exact hbound List.nodup_nil
      | succ bound => exact hbound (h bound)
  · have hsecond : P.uses true = false := Bool.eq_false_iff.mpr hrelays
    refine ⟨fun hsafe bound => ?_, fun hone h => ?_⟩
    · exact nodup_of_subperm (levelRun_of_safeDirect rfl hsecond bound hsafe) hnodup
    · by_contra hsafe
      exact levelRun_of_not_safeDirect rfl hsecond 0 hone.tight hsafe (h 1)

end BusPair

/-! ### A handler that runs twice -/

section Example

variable {a b : List ℤ} {program : Bool × ℕ → HandlerProgram Unit}

/-- The handlers of the two buses are distinct, … -/
private lemma nodup_pairContext (node : Bool) (own peer : List ℤ) :
    (getMatchingHandlerEntries (pairContext node own peer).requestHandlers "d.s").Nodup := by
  rw [getMatchingHandlerEntries_pairContext]
  have hindices : ((own.zipIdx.map fun e => (⟨(node, e.2), e.1⟩ : HandlerEntry (Bool × ℕ))).map
      fun entry => entry.handler.2).Nodup := by
    rw [List.map_map]
    show (own.zipIdx.map Prod.snd).Nodup
    rw [List.zipIdx_map_snd]
    exact List.nodup_range'
  exact List.Nodup.of_map _ hindices

/-- … and in order if the priorities are. -/
private lemma descending_pairContext {node : Bool} {own peer : List ℤ}
    (hown : own.Pairwise fun p q => q ≤ p) {key : Key} {entries : List (HandlerEntry (Bool × ℕ))}
    (h : (pairContext node own peer).requestHandlers.get? key = some entries) :
    Descending HandlerEntry.priority entries := by
  have hentries : entries = own.zipIdx.map fun e => ⟨(node, e.2), e.1⟩ := by
    unfold pairContext at h
    split_ifs at h
    · cases h
    · rw [OrderedMap.get?_set] at h
      split_ifs at h
      · exact (Option.some.inj h).symm
      · cases h
  rw [hentries, Descending, List.pairwise_map]
  have hfst : (own.zipIdx.map Prod.fst).Pairwise fun p q => q ≤ p := by
    rwa [List.zipIdx_map_fst]
  exact List.pairwise_map.mp hfst

/-- The two buses with handlers at given descending priorities. -/
def pairBus (a b : List ℤ) (behaviour : Bool × ℕ → Behaviour Unit)
    (ha : a.Pairwise fun p q => q ≤ p) (hb : b.Pairwise fun p q => q ≤ p)
    (hsmall : ∀ p ∈ a ++ b, p.natAbs ≤ 2 ^ 53) :
    BusPair (Bool × ℕ) Unit where
  net := pairNetwork a b fun h => (behaviour h).program
  definition := pairSubject
  behaviour h _ := behaviour h
  transport _ := "t"
  program _ _ := rfl
  connected x := by cases x <;> rfl
  peer x t := rfl
  sorted x key entries h := by
    cases x
    · exact descending_pairContext ha h
    · exact descending_pairContext hb h
  distinct x := by
    cases x
    · exact nodup_pairContext false a b
    · exact nodup_pairContext true b a
  propagated := propagated_pairNetwork a b _ hsmall
  only x route h := by
    cases x
    · exact (mem_getMatchingRemoteEntries_pairContext.mp h).1
    · exact (mem_getMatchingRemoteEntries_pairContext.mp h).1
  classes x := by
    have hblocked : ∀ node own peer, blockedTransports (pairContext node own peer) "d.s" = [] :=
      fun _ _ _ => rfl
    have hhost : ∀ node own peer, (pairContext node own
        peer).namespaceRegistry.isHostLocalRequestSubject "d.s" = false := fun _ _ _ => rfl
    cases x
    · exact ⟨fun h => absurd (hblocked false a b ▸ h) (by simp),
        fun h => absurd ((hhost true b a).symm.trans h) (by simp)⟩
    · exact ⟨fun h => absurd (hblocked true b a ▸ h) (by simp),
        fun h => absurd ((hhost false a b).symm.trans h) (by simp)⟩
  token h := by
    have hlocal : (pairContext false a b).namespaceRegistry.isLocalSubject "d.s" = false := rfl
    exact absurd (hlocal.symm.trans h) (by simp)

/-- **Two handlers of the peer that set nothing**, at priorities 100 and 50: the handler at priority
50 runs when the peer walks down from 100, and again when the requester reaches its route at 50. -/
theorem request_repeats_handler :
    ¬ (pairBus [] [100, 50] (fun _ => .setNothing) (by decide) (by decide) (by decide)).AtMostOnce () :=
  fun h => absurd (h 2) (by decide)

end Example

end Makaio.Bus
