import Makaio.Foundations.Cycles
import Makaio.Bus.Bounds
import Makaio.Bus.Pair

set_option autoImplicit false

/-!
# Termination of a request across buses

A bus that forwards a request does not exclude the transport the request arrived on, and the cursor
it sends is above the priority of the route it uses, unless one is lost when it is added.  So a route
at some priority can be followed by any route of at most that priority, and two buses that offer each
other a route at the same priority forward a request between them for ever.

Where advertisements have propagated this is the only way not to terminate.  Every priority a
receiver could use above the one it was reached by is also a priority of the sender, so the sender
had it in front and the cursor excludes it: along a chain of hops the priorities never increase.

A request that is sent on along a cycle need not send messages for ever.  The bus that sends it
over the same transport again loses the answer it is waiting for, and the request stops there
without ending, so that a cycle behind that hop is never reached.

## Main definitions

* `Propagated` — every bus knows over a transport exactly what the peer offers there.
* `Forwards` — a request that arrived over a route is sent on over another one.
* `Circulates` — a request reaches a cycle of routes.

## Main results

* `le_of_belowCursor_sent` — priorities do not increase along a chain of hops.
* `request_finiteMessages` — a request in a silent network sends finitely many messages if
  it does not reach a cycle, and never ends if it does.
* `request_never_ends_pair` — two buses with a priority in common.
-/

namespace Makaio.Bus

open Foundations Relation

/-! ### Routes -/

section Routes

variable {N H V : Type} (net : Network N H V) (definition : SubjectDefinition)

/-- The list a bus walks for a request of its own without explicit transports. -/
def requestList (context : BusContext H) (definition : SubjectDefinition) :
    List (MergedEntry H) :=
  dispatchList context definition (requestOptions context definition none)

/-- A bus that walks the list `merged` sends the request on at a priority to a peer. -/
def RouteIn (merged : List (MergedEntry H)) (node : N) (priority : ℤ) (peer : N) : Prop :=
  ∃ transport, .remoteEntry ⟨transport, priority⟩ ∈ merged ∧
    (net.context node).transports.has transport = true ∧ net.peer node transport = some peer

/-- A request that arrived at a bus over a route of some priority is sent on over a route of at most
that priority. -/
def Forwards (s t : N × ℤ) : Prop :=
  t.2 ≤ s.2 ∧ RouteIn net (inboundList (net.context s.1) definition) s.1 t.2 t.1

/-- A request reaches a cycle of routes: over a route of the requester, and then over routes of
non-increasing priority, a bus is reached from which such routes lead back to it at the same
priority. -/
def Circulates (node : N) : Prop :=
  ∃ peer priority, RouteIn net (requestList (net.context node) definition) node priority peer ∧
    ReachesCycle (Forwards net definition) (peer, priority)

/-- What a bus offers over one of its transports: its own handlers, and the routes it relays from
its other transports. -/
def Offers (node : N) (transport : String) (priority : ℤ) : Prop :=
  (∃ entry ∈ getMatchingHandlerEntries (net.context node).requestHandlers
      (getFullSubjectForSubjectDefinition definition), entry.priority = priority) ∨
    ∃ other, other ≠ transport ∧
      .remoteEntry ⟨other, priority⟩ ∈ inboundList (net.context node) definition

/-- The advertisements for a subject have propagated: every bus knows over a transport exactly what
the peer offers there, and every stored route has a delivery class.  Priorities are integers of double
precision.  `back` names the transport that leads back. -/
structure Propagated (back : N → String → String) : Prop where
  peer_back : ∀ node transport peer, net.peer node transport = some peer →
    net.peer peer (back node transport) = some node ∧
      back peer (back node transport) = transport
  routes : ∀ node transport peer priority, net.peer node transport = some peer →
    ((⟨transport, priority⟩ : RemoteRoute) ∈ getMatchingRemoteEntries (net.context node)
        (getFullSubjectForSubjectDefinition definition) false ↔
      Offers net definition peer (back node transport) priority)
  doubles : ∀ node, (∀ entry ∈ getMatchingHandlerEntries (net.context node).requestHandlers
      (getFullSubjectForSubjectDefinition definition), IsDouble entry.priority) ∧
    ∀ route ∈ getMatchingRemoteEntries (net.context node)
      (getFullSubjectForSubjectDefinition definition) false, IsDouble route.priority
  classified : ∀ node pattern entries,
    (net.context node).remoteRequestHandlers.get? pattern = some entries →
    ∀ route ∈ entries, (deliveryClass? (net.context node) pattern route.transport).isSome = true

/-- One can be added to the priority of every route. -/
def AddsOne : Prop := ∀ node, ∀ route ∈ getMatchingRemoteEntries (net.context node)
  (getFullSubjectForSubjectDefinition definition) false, route.priority < addOne route.priority

end Routes

/-! ### Priorities along a chain of hops -/

variable {route : RemoteRoute}

section Priorities

variable {N H V : Type} {net : Network N H V} {definition : SubjectDefinition}
variable {context : BusContext H}

/-- The routes of a receiver's list are relayable ones. -/
lemma remoteEntry_mem_inboundList :
    .remoteEntry route ∈ inboundList context definition ↔
      context.namespaceRegistry.isLocalSubject (getFullSubjectForSubjectDefinition definition) =
        false ∧
      context.namespaceRegistry.isHostLocalRequestSubject
        (getFullSubjectForSubjectDefinition definition) = false ∧
      route ∈ getMatchingRemoteEntries context (getFullSubjectForSubjectDefinition definition)
        true := by
  unfold inboundList
  dsimp only
  split_ifs with hlocal hhost
  · simp [hlocal]
  · simp [hhost]
  · simp [hlocal, hhost]

/-- The handlers of a receiver's list are its matching ones. -/
lemma localEntry_mem_inboundList {entry : HandlerEntry H} :
    .localEntry entry ∈ inboundList context definition ↔
      context.namespaceRegistry.isLocalSubject (getFullSubjectForSubjectDefinition definition) =
        false ∧
      entry ∈ getMatchingHandlerEntries context.requestHandlers
        (getFullSubjectForSubjectDefinition definition) := by
  unfold inboundList
  dsimp only
  split_ifs with hlocal hhost
  · simp [hlocal]
  · simp [hlocal]
  · simp [hlocal]

/-- The routes of a request's list: all advertised ones, unless the request stays local. -/
lemma remoteEntry_mem_requestList :
    .remoteEntry route ∈ requestList context definition ↔
      (!definition.isLocal && !resolveLocalOnly context definition none) = true ∧
      route ∈ getMatchingRemoteEntries context (getFullSubjectForSubjectDefinition definition)
        false := by
  unfold requestList dispatchList requestOptions
  rw [remoteEntry_mem_buildMergedList]
  split_ifs with h
  · simp only [h, true_and]
    rfl
  · simp [h]

/-- A list a bus walks: that of a request of its own, or that of a received one. -/
def WalkedList (net : Network N H V) (definition : SubjectDefinition) (node : N)
    (merged : List (MergedEntry H)) : Prop :=
  merged = requestList (net.context node) definition ∨
    merged = inboundList (net.context node) definition

variable {back : N → String → String} {node peer : N} {merged : List (MergedEntry H)}
  {transport : String} {p : ℤ}

section

variable (hmerged : WalkedList net definition node merged)
include hmerged

variable {q : ℤ} {e : MergedEntry H}

/-- A walked list that uses one route of a transport uses all of them. -/
lemma WalkedList.mem_of_route (hnet : Propagated net definition back)
    (hroute : .remoteEntry ⟨transport, p⟩ ∈ merged)
    (hq : (⟨transport, q⟩ : RemoteRoute) ∈ getMatchingRemoteEntries (net.context node)
      (getFullSubjectForSubjectDefinition definition) false) :
    .remoteEntry ⟨transport, q⟩ ∈ merged := by
  rcases hmerged with rfl | rfl
  · rw [remoteEntry_mem_requestList] at hroute ⊢
    exact ⟨hroute.1, hq⟩
  · rw [remoteEntry_mem_inboundList] at hroute ⊢
    obtain ⟨hlocal, hhost, hp⟩ := hroute
    refine ⟨hlocal, hhost, ?_⟩
    -- the transport is not blocked, and the other route has a delivery class as well
    obtain ⟨_, _, _, _, _, husable⟩ := mem_getMatchingRemoteEntries.mp hp
    obtain ⟨pattern, entries, hget, hmatch, hin, -⟩ := mem_getMatchingRemoteEntries.mp hq
    exact mem_getMatchingRemoteEntries.mpr ⟨pattern, entries, hget, hmatch, hin,
      fun _ => ⟨(husable rfl).1, hnet.classified node pattern entries hget _ hin⟩⟩

/-- A walked list with a remote entry contains what its bus relays and its own handlers. -/
lemma WalkedList.exists_of_offers (hroute : .remoteEntry ⟨transport, p⟩ ∈ merged) {other : String}
    (hoffers : Offers net definition node other q) : ∃ e ∈ merged, e.priority = q := by
  rcases hoffers with ⟨entry, hentry, rfl⟩ | ⟨other', -, hother⟩
  · refine ⟨.localEntry entry, ?_, rfl⟩
    rcases hmerged with rfl | rfl
    · exact localEntry_mem_dispatchList.mpr hentry
    · exact localEntry_mem_inboundList.mpr ⟨(remoteEntry_mem_inboundList.mp hroute).1, hentry⟩
  · refine ⟨.remoteEntry ⟨other', q⟩, ?_, rfl⟩
    rcases hmerged with rfl | rfl
    · have hrelay := (remoteEntry_mem_inboundList.mp hother).2.2
      exact remoteEntry_mem_requestList.mpr ⟨(remoteEntry_mem_requestList.mp hroute).1,
        mem_getMatchingRemoteEntries_of_relay hrelay⟩
    · exact hother

/-- Every priority in the list of a receiver is a priority in the list of the sender. -/
lemma WalkedList.exists_of_mem_inboundList (hnet : Propagated net definition back)
    (hpeer : net.peer node transport = some peer) (hroute : .remoteEntry ⟨transport, p⟩ ∈ merged)
    (he : e ∈ inboundList (net.context peer) definition) :
    ∃ e' ∈ merged, e'.priority = e.priority := by
  obtain ⟨hpeerBack, hback⟩ := hnet.peer_back node transport peer hpeer
  have hoffered : ∀ q, Offers net definition peer (back node transport) q →
      ∃ e' ∈ merged, e'.priority = q := fun q hq =>
    ⟨.remoteEntry ⟨transport, q⟩, hmerged.mem_of_route hnet hroute
      ((hnet.routes node transport peer q hpeer).mpr hq), rfl⟩
  cases e with
  | localEntry entry =>
    exact hoffered _ (Or.inl ⟨entry, (localEntry_mem_inboundList.mp he).2, rfl⟩)
  | remoteEntry route =>
    by_cases hother : route.transport = back node transport
    · -- a route that leads back to the sender comes from what the sender offers
      obtain ⟨transport', q⟩ := route
      obtain rfl : transport' = back node transport := hother
      have hknown := mem_getMatchingRemoteEntries_of_relay
        (remoteEntry_mem_inboundList.mp he).2.2
      exact hmerged.exists_of_offers hroute
        ((hnet.routes peer _ node q hpeerBack).mp hknown)
    · exact hoffered _ (Or.inr ⟨route.transport, hother, he⟩)

/-- **Priorities do not increase along a chain of hops**: what the receiver of a request finds below
the cursor it was sent has at most the priority of the route it was reached by.

**Proof sketch.** A higher priority of the receiver is also a priority of the sender's list, so it
stands before the route.  The entry just before the route then has at most that priority, and the
cursor is that entry's priority, or one more if it is the route's (`le_of_lt_addOne`). -/
theorem le_of_belowCursor_sent (hnet : Propagated net definition back)
    (hpeer : net.peer node transport = some peer) {i : ℕ}
    (hi : merged[i]? = some (.remoteEntry ⟨transport, p⟩)) {cursor : Option ℤ}
    (he : e ∈ inboundList (net.context peer) definition)
    (hbelow : BelowCursor (resolveRemoteCursor merged (i + 1) p cursor) e.priority) :
    e.priority ≤ p := by
  have hsorted : Descending MergedEntry.priority merged := by
    rcases hmerged with rfl | rfl
    · exact descending_dispatchList _ _ _
    · exact descending_inboundList _ _
  by_contra hlt
  obtain ⟨e', he', hpriority⟩ := hmerged.exists_of_mem_inboundList hnet hpeer
    (List.mem_of_getElem? hi) he
  obtain ⟨j, hj⟩ := List.mem_iff_getElem?.mp he'
  obtain ⟨hi', hie⟩ := List.getElem?_eq_some_iff.mp hi
  obtain ⟨hj', hje⟩ := List.getElem?_eq_some_iff.mp hj
  have hpair := List.pairwise_iff_getElem.mp hsorted
  have hpi : merged[i].priority = p := by rw [hie]; rfl
  have hpj : merged[j].priority = e.priority := by rw [hje]; exact hpriority
  have hji : j < i := by
    by_contra hle
    rcases Nat.eq_or_lt_of_le (not_lt.mp hle) with heq | hlt'
    · subst heq
      omega
    · have := hpair i j hi' hj' hlt'
      omega
  obtain ⟨k, rfl⟩ : ∃ k, i = k + 1 := ⟨i - 1, by omega⟩
  rw [resolveRemoteCursor_succ _ (List.getElem?_eq_getElem (by omega : k < merged.length)),
    belowCursor_some] at hbelow
  have hkj : merged[k].priority ≤ e.priority := by
    rcases Nat.eq_or_lt_of_le (Nat.lt_succ_iff.mp hji) with heq | hlt'
    · subst heq
      omega
    · have := hpair j k hj' (by omega) hlt'
      omega
  have hdouble : IsDouble e.priority := by
    cases e with
    | localEntry entry => exact (hnet.doubles peer).1 entry (localEntry_mem_inboundList.mp he).2
    | remoteEntry route => exact (hnet.doubles peer).2 route (mem_getMatchingRemoteEntries_of_relay
        (remoteEntry_mem_inboundList.mp he).2.2)
  split_ifs at hbelow with htie
  · have := le_of_lt_addOne hdouble hbelow
    omega
  · omega

end

end Priorities

/-! ### Requests that end -/

section Ends

variable {N H V : Type} [ObjectSpread V] {net : Network N H V} {definition : SubjectDefinition}

omit [ObjectSpread V] in
/-- A route below the cursor is a hop, and lies below the cursor it is sent. -/
lemma RouteIn.exists_hop (hone : AddsOne net definition) {node peer : N} {merged : List (MergedEntry H)}
    {p : ℤ} (hmerged : WalkedList net definition node merged)
    (hroute : RouteIn net merged node p peer) (cursor : Option ℤ) (hbelow : BelowCursor cursor p) :
    ∃ transport sent, DispatchHop net node merged cursor transport sent ∧
      net.peer node transport = some peer ∧ BelowCursor sent p := by
  obtain ⟨transport, hmem, hhas, hpeer⟩ := hroute
  obtain ⟨i, hi⟩ := List.mem_iff_getElem?.mp hmem
  have hadds : p < addOne p := by
    rcases hmerged with rfl | rfl
    · exact hone node _ (remoteEntry_mem_requestList.mp hmem).2
    · exact hone node _ (mem_getMatchingRemoteEntries_of_relay (remoteEntry_mem_inboundList.mp hmem).2.2)
  have hsorted : Descending MergedEntry.priority merged := by
    rcases hmerged with rfl | rfl
    · exact descending_dispatchList _ _ _
    · exact descending_inboundList _ _
  exact ⟨transport, _, ⟨i, _, hi, hbelow, hhas, rfl, rfl⟩, hpeer,
    (belowCursor_resolveRemoteCursor_iff hsorted hi hbelow).mpr fun _ => hadds⟩

/-- If every answer arrives, a message that arrived over a route from which a cycle is reached is cut
off at every bound.

**Proof sketch.** Induction on the bound: the next route towards the cycle has at most the priority
of the one the message arrived over, so it is below the cursor. -/
lemma deliverAnswered_cutOff_of_reachesCycle (hsilent : Silent net) (hone : AddsOne net definition)
    (payload : V) (depth : ℕ) :
    ∀ {node : N} {p : ℤ} {cursor : Option ℤ},
      ReachesCycle (Forwards net definition) (node, p) → BelowCursor cursor p →
      (deliverAnswered net depth node (requestMessage definition payload cursor)).ending = .cutOff := by
  induction depth with
  | zero => intro node p cursor _ _; rfl
  | succ depth ih =>
    intro node p cursor hcycle hbelow
    obtain ⟨⟨peer, q⟩, ⟨hle, hroute⟩, hcycle'⟩ := hcycle.exists_step
    obtain ⟨transport, sent, hhop, hpeer, hsent⟩ := RouteIn.exists_hop hone (Or.inr rfl) hroute cursor
      (hbelow.of_le hle)
    exact (deliverAnswered_cutOff_iff hsilent).mpr
      ⟨transport, sent, peer, hhop, hpeer, ih hcycle' hsent⟩

variable {back : N → String → String}

/-- A message that is cut off has been forwarded along a chain of routes of non-increasing priority,
as long as the bound allows.

**Proof sketch.** Induction on the bound; `le_of_belowCursor_sent` keeps the priorities from
increasing. -/
lemma exists_walk_of_deliverAnswered_cutOff (hsilent : Silent net) (hnet : Propagated net definition back)
    (payload : V) (depth : ℕ) :
    ∀ {node : N} {p : ℤ} {cursor : Option ℤ},
      (∀ e ∈ inboundList (net.context node) definition, BelowCursor cursor e.priority →
        e.priority ≤ p) →
      (deliverAnswered net depth node (requestMessage definition payload cursor)).ending = .cutOff →
      ∃ l : List (N × ℤ), l.length = depth ∧
        ((node, p) :: l).IsChain (Forwards net definition) := by
  induction depth with
  | zero => intro node p cursor _ _; exact ⟨[], rfl, List.IsChain.singleton _⟩
  | succ depth ih =>
    intro node p cursor htight hcut
    obtain ⟨transport, sent, peer, ⟨i, ⟨_, q⟩, hi, hbelow, hhas, rfl, rfl⟩, hpeer, hcut'⟩ :=
      (deliverAnswered_cutOff_iff hsilent).mp hcut
    have hmem := List.mem_of_getElem? hi
    obtain ⟨l, hlen, hchain⟩ := ih (fun e he he' =>
      le_of_belowCursor_sent (Or.inr rfl) hnet hpeer hi he he') hcut'
    exact ⟨(peer, q) :: l, by simp [hlen], List.isChain_cons_cons.mpr
      ⟨⟨htight _ hmem hbelow, _, hmem, hhas, hpeer⟩, hchain⟩⟩

omit [ObjectSpread V] in
/-- The targets of routes are finitely many pairs of a bus and a priority. -/
lemma finite_targets [Finite N] (net : Network N H V) (definition : SubjectDefinition) :
    {t : N × ℤ | ∃ s, Forwards net definition s t}.Finite := by
  have hpriorities : (⋃ node : N, {p : ℤ | ∃ e ∈ inboundList (net.context node) definition,
      e.priority = p}).Finite := by
    refine Set.finite_iUnion fun node => ?_
    have himage : {p : ℤ | ∃ e ∈ inboundList (net.context node) definition, e.priority = p} =
        MergedEntry.priority '' {e | e ∈ inboundList (net.context node) definition} := rfl
    rw [himage]
    exact (List.finite_toSet _).image _
  refine (Set.finite_univ.prod hpriorities).subset ?_
  rintro ⟨peer, p⟩ ⟨⟨node, q⟩, -, transport, hmem, -⟩
  exact ⟨trivial, Set.mem_iUnion.mpr ⟨node, _, hmem, rfl⟩⟩

omit [ObjectSpread V] in
/-- A chain of hops visits targets of routes only. -/
lemma mem_targets_of_isChain {s : N × ℤ} {l : List (N × ℤ)}
    (h : (s :: l).IsChain (Forwards net definition)) :
    ∀ t ∈ l, ∃ s, Forwards net definition s t := by
  induction l generalizing s with
  | nil => intro t ht; cases ht
  | cons a l ih =>
    obtain ⟨hsa, hchain⟩ := List.isChain_cons_cons.mp h
    intro t ht
    rcases List.mem_cons.mp ht with rfl | ht
    · exact ⟨s, hsa⟩
    · exact ih hchain t ht

/-- A request is cut off exactly if its dispatch is. -/
lemma request_cutOff_iff {node : N} {send : String → BusRequestMessage V → NetworkRun N H V V}
    {payload : V} {transports : Option (List String)} :
    (request net node send definition payload transports).ending = .cutOff ↔
      (dispatch net node send definition payload
        (requestOptions (net.context node) definition transports)).ending = .cutOff := by
  unfold request
  constructor
  · intro h
    rcases Traced.exists_of_andThen_cutOff h with ⟨hdispatch, -⟩ | ⟨a, -, hrest, -⟩
    · exact hdispatch
    · cases a <;> cases hrest
  · intro h
    rw [Traced.andThen, Traced.settle_of_cutOff h]

/-- If every answer arrives, a request that reaches a cycle of routes is cut off at every bound. -/
lemma request_cutOff_of_circulates (hsilent : Silent net) (hone : AddsOne net definition) {node : N}
    (h : Circulates net definition node) (depth : ℕ) (payload : V) :
    (request net node (hopAnswered net depth node) definition payload none).ending = .cutOff := by
  obtain ⟨peer, p, hroute, hcycle⟩ := h
  obtain ⟨transport, sent, hhop, hpeer, hsent⟩ := RouteIn.exists_hop hone (Or.inl rfl) hroute none
    (belowCursor_none p)
  exact request_cutOff_iff.mpr ((dispatch_cutOff_iff hsilent definition depth node _ payload).1.mpr
    ⟨transport, sent, peer, hhop, hpeer,
      deliverAnswered_cutOff_of_reachesCycle hsilent hone payload depth hcycle hsent⟩)

/-- If every answer arrives, a request that does not reach a cycle of routes ends.

**Proof sketch.** If it is cut off at a large bound, its hops form a chain of routes of non-increasing
priority that is longer than there are buses and priorities, so the chain has come back to a bus at
the same priority. -/
lemma exists_ending_of_not_circulates [Finite N] (hsilent : Silent net)
    (hnet : Propagated net definition back) {node : N} (hno : ¬ Circulates net definition node)
    (payload : V) :
    ∃ depth, (request net node (hopAnswered net depth node) definition payload none).ending ≠
      .cutOff := by
  obtain ⟨n, hn⟩ := exists_length_reachesCycle (R := Forwards net definition)
    (finite_targets net definition)
  refine ⟨n, fun hcut => hno ?_⟩
  obtain ⟨transport, sent, peer, ⟨i, ⟨_, q⟩, hi, hbelow, hhas, rfl, rfl⟩, hpeer, hcut'⟩ :=
    (dispatch_cutOff_iff hsilent definition n node _ payload).1.mp (request_cutOff_iff.mp hcut)
  obtain ⟨l, hlen, hchain⟩ := exists_walk_of_deliverAnswered_cutOff hsilent hnet payload n
    (fun e he he' => le_of_belowCursor_sent (Or.inl rfl) hnet hpeer hi he he') hcut'
  exact ⟨peer, q, ⟨_, List.mem_of_getElem? hi, hhas, hpeer⟩,
    hn _ l hlen hchain (mem_targets_of_isChain hchain)⟩

/-- **Termination across buses.**  In a finite network of silent handlers whose advertisements have
propagated, a request sends finitely many messages if no cycle of routes is reached from the requester
along routes of non-increasing priority.  If one is, and one can be added to every priority, then the
request never ends: it sends messages for ever, or waits for ever for an answer that is lost.

**Proof sketch.** The run is a part of the one in which every answer arrives, and that ends exactly if
no cycle is reached. -/
theorem request_finiteMessages [Finite N] [DecidableEq N] (hsilent : Silent net)
    (hnet : Propagated net definition back) (node : N) (payload : V) :
    (¬ Circulates net definition node → FiniteMessages net node definition payload none) ∧
    (AddsOne net definition → Circulates net definition node → ∀ depth,
      (request net node (hop net depth node) definition payload none).ending = .cutOff) := by
  refine ⟨fun hno => ?_, fun hone hcycle depth => ?_⟩
  · obtain ⟨depth, hend⟩ := exists_ending_of_not_circulates hsilent hnet hno payload
    exact finiteMessages_of_ends hend
  · by_contra hend
    have heq := (request_extends_answered net depth node definition payload none).eq_of_ne_cutOff hend
    exact hend (heq ▸ request_cutOff_of_circulates hsilent hone hcycle depth payload)

end Ends

/-! ### Two buses -/

section Pair

variable (a b : List ℤ) (program : Bool × ℕ → HandlerProgram Unit)

/-- The context of either bus. -/
private lemma pairNetwork_context (node : Bool) :
    ∃ own peer, (pairNetwork a b program).context node = pairContext node own peer ∧
      (pairNetwork a b program).context (!node) = pairContext (!node) peer own := by
  cases node with
  | false => exact ⟨a, b, rfl, rfl⟩
  | true => exact ⟨b, a, rfl, rfl⟩

/-- The routes of either bus lead over `t`. -/
private lemma transport_eq_of_mem_inboundList {node : Bool} {own peer : List ℤ}
    (h : .remoteEntry route ∈ inboundList (pairContext node own peer) pairSubject) :
    route.transport = "t" ∧ route.priority ∈ peer :=
  mem_getMatchingRemoteEntries_pairContext.mp (remoteEntry_mem_inboundList.mp h).2.2

/-- The priorities of handlers and routes are the given ones. -/
private lemma isDouble_pairContext {node : Bool} {own peer : List ℤ} (h : ∀ p ∈ own ++ peer, IsDouble p) :
    (∀ entry ∈ getMatchingHandlerEntries (pairContext node own peer).requestHandlers "d.s",
      IsDouble entry.priority) ∧
    ∀ route ∈ getMatchingRemoteEntries (pairContext node own peer) "d.s" false, IsDouble route.priority := by
  refine ⟨fun entry hentry => h _ (List.mem_append_left _ ?_), fun route hroute =>
    h _ (List.mem_append_right _ (mem_getMatchingRemoteEntries_pairContext.mp hroute).2)⟩
  exact exists_handler_pairContext_iff.mp ⟨entry, hentry, rfl⟩

/-- The advertisements of the two buses have propagated. -/
lemma propagated_pairNetwork (hsmall : ∀ p ∈ a ++ b, p.natAbs ≤ 2 ^ 53) : Propagated (pairNetwork a b program) pairSubject fun _ _ => "t" where
  peer_back := by
    intro node transport peer hpeer
    obtain ⟨rfl, rfl⟩ : transport = "t" ∧ peer = !node := by
      simpa [pairNetwork, eq_comm] using hpeer
    simp [pairNetwork]
  routes := by
    intro node transport peer priority hpeer
    obtain ⟨rfl, rfl⟩ : transport = "t" ∧ peer = !node := by
      simpa [pairNetwork, eq_comm] using hpeer
    obtain ⟨own, other, hnode, hpeer'⟩ := pairNetwork_context a b program node
    unfold Offers
    rw [hnode, hpeer', show getFullSubjectForSubjectDefinition pairSubject = "d.s" from rfl,
      mem_getMatchingRemoteEntries_pairContext, exists_handler_pairContext_iff]
    constructor
    · exact fun h => Or.inl h.2
    · rintro (h | ⟨transport, hne, hmem⟩)
      · exact ⟨rfl, h⟩
      · exact absurd (transport_eq_of_mem_inboundList hmem).1 hne
  doubles := by
    intro node
    cases node
    · exact isDouble_pairContext fun p hp => isDouble_of_natAbs_le (hsmall p hp)
    · exact isDouble_pairContext fun p hp =>
        isDouble_of_natAbs_le (hsmall p (List.perm_append_comm.mem_iff.mp hp))
  classified := by
    intro node pattern entries hget route hroute
    obtain ⟨own, other, hnode, -⟩ := pairNetwork_context a b program node
    rw [hnode] at hget ⊢
    simp only [pairContext, OrderedMap.get?_set, OrderedMap.get?_empty] at hget
    split_ifs at hget with hpattern
    cases hget
    obtain ⟨p, -, rfl⟩ := List.mem_map.mp hroute
    subst hpattern
    rfl

end Pair

/-- A handler at priority 2 here and one at priority 1 at the peer: the request ends. -/
theorem request_finiteMessages_pair :
    FiniteMessages (pairNetwork [2] [1] fun _ => .done) false pairSubject () none := by
  have hsilent : Silent (pairNetwork [2] [1] fun _ => .done) := fun _ _ => trivial
  refine (request_finiteMessages hsilent (propagated_pairNetwork [2] [1] _ (by decide)) false ()).1 ?_
  rintro ⟨peer, p, ⟨transport, hroute, -, hpeer⟩, hcycle⟩
  obtain ⟨-, hp⟩ := mem_getMatchingRemoteEntries_pairContext.mp
    (remoteEntry_mem_requestList.mp hroute).2
  -- the peer has no route of priority at most 1 to send the request on
  obtain ⟨⟨node, q⟩, ⟨hle, transport', hroute', -⟩, -⟩ := hcycle.exists_step
  obtain rfl : p = 1 := by simpa using hp
  obtain rfl : peer = true := by
    simp only [pairNetwork] at hpeer
    split_ifs at hpeer
    simpa using hpeer.symm
  have hq := (transport_eq_of_mem_inboundList hroute').2
  obtain rfl : q = 2 := by simpa using hq
  cases hle

/-- Two buses with a silent handler at priority 0 each, … -/
private abbrev tiedPair : Network Bool (Bool × ℕ) Unit := pairNetwork [0] [0] fun _ => .done

/-- … and the list that each of them walks. -/
private abbrev tiedList (node : Bool) : List (MergedEntry (Bool × ℕ)) :=
  [.localEntry ⟨(node, 0), 0⟩, .remoteEntry ⟨"t", 0⟩]

/-- A walk over this list runs the handler and sends the message on. -/
private lemma trace_stepDispatch_tiedPair (depth : ℕ) (node : Bool) {definition : SubjectDefinition}
    (options : DispatchOptions)
    (hmessage : requestMessage definition () (some 1) = requestMessage pairSubject () (some 1)) :
    (stepDispatch tiedPair node (hop tiedPair depth node) definition (tiedList node) options (tiedList node)
      0 () none).trace =
      .invoke node ⟨(node, 0), 0⟩ () :: .send node "t" (requestMessage pairSubject () (some 1)) ::
        (deliver tiedPair depth (!node) (requestMessage pairSubject () (some 1))).trace := by
  have hhas : (tiedPair.context node).transports.has "t" = true := by cases node <;> rfl
  have hnil : ∀ error, (stepDispatch tiedPair node (hop tiedPair depth node) definition (tiedList node)
      options [] 2 () error).trace = [] := by
    intro error
    cases error <;> rfl
  show _ :: Traced.trace (executeRemoteEntry _ _ _ _ _ _ _ _ _ _ _) = _
  unfold executeRemoteEntry
  simp only [if_pos hhas]
  rw [Traced.trace_settle_of_nil]
  · rw [hop_of_peer tiedPair (rfl : tiedPair.peer node "t" = some (!node)), Traced.trace_event,
      trace_awaitAnswer]
    show _ :: .send node "t" (requestMessage definition () (some 1)) ::
      (deliver tiedPair depth (!node) (requestMessage definition () (some 1))).trace = _
    rw [hmessage]
  · intro r
    cases r with
    | ok result => rfl
    | error error =>
      dsimp only
      split_ifs
      · exact hnil _
      · exact hnil _

/-- Either of the two runs its handler and sends a message that it received back. -/
private lemma trace_deliver_tiedPair (depth : ℕ) (node : Bool) :
    (deliver tiedPair (depth + 1) node (requestMessage pairSubject () (some 1))).trace =
      .invoke node ⟨(node, 0), 0⟩ () :: .send node "t" (requestMessage pairSubject () (some 1)) ::
        (deliver tiedPair depth (!node) (requestMessage pairSubject () (some 1))).trace := by
  have hlist : dispatchList (tiedPair.context node)
      (resolveSubjectDefinition (requestMessage pairSubject () (some 1)) true)
      (inboundOptions (tiedPair.context node) (requestMessage pairSubject () (some 1))) =
      tiedList node := by
    cases node <;> rfl
  rw [deliver_succ, handleRequestMessage, if_neg (by cases node <;> exact Bool.false_ne_true),
    Traced.trace_settle_of_nil (by rintro (error | (_ | value)) <;> rfl), inboundDispatch, dispatch, hlist]
  exact trace_stepDispatch_tiedPair depth node _ rfl

/-- **Two buses with a handler at the same priority** forward a request between them for ever, though
no handler sets a result and all advertisements have propagated. -/
theorem request_never_ends_pair :
    let net := pairNetwork [0] [0] fun _ => .done
    Silent net ∧ Propagated net pairSubject (fun _ _ => "t") ∧
      ¬ FiniteMessages net false pairSubject () none := by
  refine ⟨fun _ _ => trivial, propagated_pairNetwork [0] [0] _ (by decide), ?_⟩
  rintro ⟨bound, hbound⟩
  have hsends : ∀ depth node,
      depth ≤ sends (deliver tiedPair depth node (requestMessage pairSubject () (some 1))).trace := by
    intro depth
    induction depth with
    | zero => exact fun _ => Nat.zero_le _
    | succ depth ih =>
      intro node
      rw [trace_deliver_tiedPair depth node, sends, List.countP_cons_of_neg (by simp),
        List.countP_cons_of_pos (by rfl)]
      exact Nat.succ_le_succ (ih (!node))
  have htrace := trace_stepDispatch_tiedPair bound false
    (requestOptions (tiedPair.context false) pairSubject none) rfl
  have hle := hbound bound
  rw [trace_request, dispatch_of_no_cursor tiedPair false _ rfl] at hle
  change sends (stepDispatch tiedPair false (hop tiedPair bound false) pairSubject (tiedList false) _
    (tiedList false) 0 () none).trace ≤ bound at hle
  rw [htrace, sends, List.countP_cons_of_neg (by simp), List.countP_cons_of_pos (by rfl)] at hle
  exact absurd (hsends bound (!false)) (by unfold sends; omega)

end Makaio.Bus
