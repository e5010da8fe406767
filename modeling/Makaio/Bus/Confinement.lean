import Makaio.Bus.Termination

set_option autoImplicit false

/-!
# What a request can reach

Whatever handlers do with their contexts, a dispatch invokes only handlers of its own list and sends
only over the routes of that list.  So the handlers a message can invoke are those of the buses that
are reached from its receiver along the lists of received requests.

## Main definitions

* `Relays` — a bus sends a received request for a subject on to a peer.

## Main results

* `mem_trace_stepDispatch` — the events of a walk.
* `relays_of_invoke_mem_deliver` — the handlers a message can invoke.
* `relays_of_invoke_mem_request` — the handlers a request can invoke.
-/

namespace Makaio.Bus

open Foundations Relation

section Walk

variable {τ V : Type} [ObjectSpread V] {downstream : V → Traced τ BusError (Option V)} {event : τ}

/-- A handler run causes only what the rest of the chain causes. -/
lemma mem_trace_runHandler {program : HandlerProgram V} :
    ∀ {s : LocalState V}, event ∈ (runHandler downstream program s).trace →
      ∃ payload, event ∈ (downstream payload).trace := by
  induction program with
  | done | fail error => intro s h; exact absurd h (by simp [runHandler])
  | setResult value rest ih | extendResult extension rest ih | replacePayload newPayload rest ih =>
    intro s h; exact ih h
  | next rest ih =>
    intro s h
    rw [runHandler] at h
    rcases (downstream s.currentPayload).ending_cases with hend | ⟨r, hend⟩
    · rw [Traced.settle_of_cutOff hend] at h
      exact ⟨_, h⟩
    · rw [Traced.settle_of_settled hend] at h
      rcases List.mem_append.mp h with h | h
      · exact ⟨_, h⟩
      · exact ih _ h

lemma mem_trace_executeLocalEntry {subjectKey : String} {program : HandlerProgram V} {payload : V}
    (h : event ∈ (executeLocalEntry subjectKey program downstream payload).trace) :
    ∃ payload', event ∈ (downstream payload').trace := by
  rw [executeLocalEntry, Traced.trace_mapError, Traced.andThen] at h
  rcases (runHandler downstream program ⟨none, payload, none⟩).ending_cases with hend | ⟨r, hend⟩
  · rw [Traced.settle_of_cutOff hend] at h
    exact mem_trace_runHandler h
  · rw [Traced.settle_of_settled hend] at h
    rcases List.mem_append.mp h with h | h
    · exact mem_trace_runHandler h
    · cases r with
      | error error => cases h
      | ok s =>
        dsimp only at h
        unfold finishLocalEntry at h
        split at h
        · cases h
        · cases h
        · split at h
          · cases h
          · exact ⟨_, h⟩

variable {N H : Type} {net : Network N H V} {node : N}
  {send : String → BusRequestMessage V → NetworkRun N H V V} {definition : SubjectDefinition}
  {merged : List (MergedEntry H)} {options : DispatchOptions} {e : BusEvent N H V}

/-- What a walk over some entries can cause: an invocation of one of the handlers, or what a message
over one of the routes causes. -/
def CausedBy (net : Network N H V) (node : N)
    (send : String → BusRequestMessage V → NetworkRun N H V V) (definition : SubjectDefinition)
    (entries : List (MergedEntry H)) (e : BusEvent N H V) : Prop :=
  (∃ entry payload, .localEntry entry ∈ entries ∧ e = .invoke node entry payload) ∨
    ∃ route payload cursor, .remoteEntry route ∈ entries ∧
      (net.context node).transports.has route.transport = true ∧
      e ∈ (send route.transport (requestMessage definition payload cursor)).trace

omit [ObjectSpread V] in
lemma CausedBy.mono {entries entries' : List (MergedEntry H)}
    (h : CausedBy net node send definition entries e) (hsub : entries ⊆ entries') :
    CausedBy net node send definition entries' e := by
  rcases h with ⟨entry, payload, hentry, he⟩ | ⟨route, payload, cursor, hroute, hhas, he⟩
  · exact Or.inl ⟨entry, payload, hsub hentry, he⟩
  · exact Or.inr ⟨route, payload, cursor, hsub hroute, hhas, he⟩

/-- **The events of a walk** are caused by its entries. -/
theorem mem_trace_stepDispatch {rest : List (MergedEntry H)} :
    ∀ {index : ℕ} {payload : V} {firstTransportError : Option BusError},
      e ∈ (stepDispatch net node send definition merged options rest index payload
        firstTransportError).trace → CausedBy net node send definition rest e := by
  induction rest with
  | nil =>
    intro index payload firstTransportError h
    cases firstTransportError <;> exact absurd h (by simp [stepDispatch])
  | cons head rest ih =>
    intro index payload firstTransportError h
    have hrest : ∀ {index payload firstTransportError}, e ∈ (stepDispatch net node send definition
        merged options rest index payload firstTransportError).trace →
        CausedBy net node send definition (head :: rest) e :=
      fun h => (ih h).mono (List.subset_cons_self _ _)
    cases head with
    | localEntry entry =>
      rw [stepDispatch, Traced.trace_event] at h
      rcases List.mem_cons.mp h with rfl | h
      · exact Or.inl ⟨entry, payload, by simp, rfl⟩
      · obtain ⟨payload', h⟩ := mem_trace_executeLocalEntry h
        exact hrest h
    | remoteEntry route =>
      rw [stepDispatch, executeRemoteEntry] at h
      split_ifs at h with hhas
      · generalize hsent : resolveRemoteCursor merged (index + 1) route.priority
          options.priority = cursor at h
        have hsend : e ∈ (send route.transport (requestMessage definition payload cursor)).trace →
            CausedBy net node send definition (.remoteEntry route :: rest) e :=
          fun he => Or.inr ⟨route, payload, cursor, by simp, hhas, he⟩
        rcases (send route.transport (requestMessage definition payload
          cursor)).ending_cases with hend | ⟨r, hend⟩
        · rw [Traced.settle_of_cutOff hend] at h
          exact hsend h
        · rw [Traced.settle_of_settled hend] at h
          rcases List.mem_append.mp h with h | h
          · exact hsend h
          · cases r with
            | ok result => cases h
            | error error =>
              dsimp only at h
              split_ifs at h
              · exact hrest h
              · exact hrest h
      · exact hrest h

/-- The events of a dispatch are caused by its list. -/
lemma mem_trace_dispatch {payload : V}
    (h : e ∈ (dispatch net node send definition payload options).trace) :
    CausedBy net node send definition (dispatchList (net.context node) definition options) e := by
  unfold dispatch at h
  dsimp only at h
  split at h
  · cases h
  · split_ifs at h
    · cases h
    · exact (mem_trace_stepDispatch h).mono (List.drop_subset _ _)

end Walk

section Net

variable {N H V : Type} [ObjectSpread V] {net : Network N H V} {definition : SubjectDefinition}

/-- A bus sends a received request for a subject on to a peer. -/
def Relays (net : Network N H V) (definition : SubjectDefinition) (node peer : N) : Prop :=
  ∃ priority, RouteIn net (inboundList (net.context node) definition) node priority peer

variable [DecidableEq N]

/-- A hop that invokes a handler leads to a peer. -/
lemma invoke_mem_hop {depth : ℕ} {node : N} {transport : String} {message : BusRequestMessage V}
    {n : N} {entry : HandlerEntry H} {payload : V}
    (h : .invoke n entry payload ∈ (hop net depth node transport message).trace) :
    ∃ peer, net.peer node transport = some peer ∧
      .invoke n entry payload ∈ (deliver net depth peer message).trace := by
  unfold hop at h
  rw [Traced.trace_event] at h
  rcases List.mem_cons.mp h with h | h
  · cases h
  · cases hpeer : net.peer node transport with
    | none =>
      rw [hpeer] at h
      cases h
    | some peer =>
      rw [hpeer] at h
      dsimp only at h
      rw [trace_awaitAnswer] at h
      exact ⟨peer, rfl, h⟩

/-- **The handlers a message can invoke** belong to the buses reached from its receiver along relayed
routes, and stand in the lists of received requests there.

**Proof sketch.** Induction on the bound: the receiver invokes handlers of its list, and its hops
lead to the buses it relays to. -/
theorem relays_of_invoke_mem_deliver (depth : ℕ) :
    ∀ {node n : N} {entry : HandlerEntry H} {payload payload' : V} {cursor : Option ℤ},
      .invoke n entry payload' ∈
        (deliver net depth node (requestMessage definition payload cursor)).trace →
      ReflTransGen (Relays net definition) node n ∧
        .localEntry entry ∈ inboundList (net.context n) definition := by
  induction depth with
  | zero => intro node n entry payload payload' cursor h; cases h
  | succ depth ih =>
    intro node n entry payload payload' cursor h
    rw [deliver_succ, handleRequestMessage] at h
    split_ifs at h with hlocal
    · cases h
    · have hdispatch : .invoke n entry payload' ∈ (inboundDispatch net node (hop net depth node)
          (requestMessage definition payload cursor)).trace := by
        rcases (inboundDispatch net node (hop net depth node)
          (requestMessage definition payload cursor)).ending_cases with hend | ⟨r, hend⟩
        · rwa [Traced.settle_of_cutOff hend] at h
        · rw [Traced.settle_of_settled hend] at h
          rcases List.mem_append.mp h with h | h
          · exact h
          · rcases r with error | (_ | value) <;> cases h
      have hlocal' : (net.context node).namespaceRegistry.isLocalSubject
          (getFullSubjectForSubjectDefinition definition) = false := Bool.eq_false_iff.mpr hlocal
      have hcaused := mem_trace_dispatch hdispatch
      rw [dispatchList_inboundOptions hlocal'] at hcaused
      rcases hcaused with ⟨entry', payload'', hentry, he⟩ | ⟨route, payload'', cursor', hroute, hhas,
        he⟩
      · cases he
        exact ⟨.refl, hentry⟩
      · obtain ⟨peer, hpeer, he⟩ := invoke_mem_hop he
        obtain ⟨hreach, hentry⟩ := ih he
        exact ⟨.head ⟨route.priority, route.transport, hroute, hhas, hpeer⟩ hreach, hentry⟩

/-- **The handlers a request can invoke**: those of the requester, and those reached from one of its
peers along relayed routes. -/
theorem relays_of_invoke_mem_request {depth : ℕ} {node n : N} {entry : HandlerEntry H}
    {payload payload' : V} {transports : Option (List String)}
    (h : .invoke n entry payload' ∈
      (request net node (hop net depth node) definition payload transports).trace) :
    n = node ∨ ∃ transport peer, (net.context node).transports.has transport = true ∧
      net.peer node transport = some peer ∧ ReflTransGen (Relays net definition) peer n ∧
      .localEntry entry ∈ inboundList (net.context n) definition := by
  rw [trace_request] at h
  rcases mem_trace_dispatch h with ⟨entry', payload'', -, he⟩ | ⟨route, payload'', cursor, -, hhas,
    he⟩
  · exact Or.inl (BusEvent.invoke.inj he).1
  · obtain ⟨peer, hpeer, he⟩ := invoke_mem_hop he
    exact Or.inr ⟨route.transport, peer, hhas, hpeer, relays_of_invoke_mem_deliver depth he⟩

end Net

end Makaio.Bus
