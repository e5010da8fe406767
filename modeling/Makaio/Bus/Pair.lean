import Makaio.Bus.Silent

set_option autoImplicit false

/-!
# Two connected buses

The smallest network with hops: two buses, each with handlers for one request subject at given
priorities, that have advertised these priorities to each other over a transport `t`.

## Main definitions

* `pairNetwork` — the network.

## Main results

* `mem_getMatchingRemoteEntries_pairContext`,
  `exists_handler_pairContext_iff` — each bus knows the priorities of the other, and has
  its own.
-/

namespace Makaio.Bus

open Foundations

instance : ObjectSpread Unit := ⟨fun _ _ => ()⟩

/-- The request subject of the two buses. -/
def pairSubject : SubjectDefinition := ⟨"s", "d", true, false, none⟩

/-- One of the two buses: its own handlers, at the descending priorities `own`, and the priorities the
other one advertised. -/
def pairContext (node : Bool) (own peer : List ℤ) : BusContext (Bool × ℕ) where
  requestHandlers := if own.isEmpty then .empty
    else OrderedMap.empty.set "d.s" (own.zipIdx.map fun e => ⟨(node, e.2), e.1⟩)
  eventHandlers := .empty
  remoteRequestHandlers := OrderedMap.empty.set "d.s" (peer.map fun priority => ⟨"t", priority⟩)
  remoteEventHandlers := .empty
  remoteSubscriptionDeliveryClasses :=
    OrderedMap.empty.set "d.s" (OrderedMap.empty.set "t" .relayable)
  namespaceRegistry := .empty
  transports := OrderedMap.empty.set "t" true

/-- Two buses, `false` and `true`, with handlers at the given priorities. -/
def pairNetwork (a b : List ℤ) (program : Bool × ℕ → HandlerProgram Unit) :
    Network Bool (Bool × ℕ) Unit where
  context node := if node then pairContext true b a else pairContext false a b
  program handler _ := program handler
  peer node transport := if transport = "t" then some (!node) else none

variable {node : Bool} {own peer : List ℤ}

/-- Each bus knows the priorities of the other, and may relay to them. -/
lemma mem_getMatchingRemoteEntries_pairContext {excludeFirstHopOnly : Bool} {route : RemoteRoute} :
    route ∈ getMatchingRemoteEntries (pairContext node own peer) "d.s" excludeFirstHopOnly ↔
      route.transport = "t" ∧ route.priority ∈ peer := by
  have hblocked : blockedTransports (pairContext node own peer) "d.s" = [] := rfl
  rw [mem_getMatchingRemoteEntries, hblocked]
  constructor
  · rintro ⟨pattern, entries, hget, -, hroute, -⟩
    simp only [pairContext, OrderedMap.get?_set, OrderedMap.get?_empty] at hget
    split_ifs at hget
    cases hget
    obtain ⟨p, hp, rfl⟩ := List.mem_map.mp hroute
    exact ⟨rfl, hp⟩
  · obtain ⟨transport, p⟩ := route
    rintro ⟨rfl, hp⟩
    exact ⟨"d.s", _, rfl, by decide, List.mem_map.mpr ⟨p, hp, rfl⟩, fun _ => ⟨by simp, rfl⟩⟩

/-- Each bus has its own handlers. -/
lemma getMatchingHandlerEntries_pairContext (node : Bool) (own peer : List ℤ) :
    getMatchingHandlerEntries (pairContext node own peer).requestHandlers "d.s" =
      own.zipIdx.map fun e => ⟨(node, e.2), e.1⟩ := by
  cases own with
  | nil => rfl
  | cons p own =>
    have hmatch : matchesSubscription "d.s" "d.s" = true := by decide
    show mergeSortedHandlerArrays ((List.filter (fun e => matchesSubscription "d.s" e.1)
      [("d.s", (p :: own).zipIdx.map fun e => (⟨(node, e.2), e.1⟩ : HandlerEntry (Bool × ℕ)))]).map
        Prod.snd) = _
    simp only [List.filter_cons, hmatch, if_true, List.filter_nil]
    rfl

/-- Each bus has handlers at its own priorities. -/
lemma exists_handler_pairContext_iff {q : ℤ} :
    (∃ e ∈ getMatchingHandlerEntries (pairContext node own peer).requestHandlers "d.s",
      e.priority = q) ↔ q ∈ own := by
  rw [getMatchingHandlerEntries_pairContext]
  constructor
  · rintro ⟨e, he, rfl⟩
    obtain ⟨x, hx, rfl⟩ := List.mem_map.mp he
    exact List.fst_mem_of_mem_zipIdx hx
  · intro hq
    obtain ⟨i, hi⟩ := List.mem_iff_getElem?.mp hq
    exact ⟨_, List.mem_map.mpr ⟨(q, i), List.mk_mem_zipIdx_iff_getElem?.mpr hi, rfl⟩, rfl⟩

end Makaio.Bus
