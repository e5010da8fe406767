import Makaio.Server.ClientRegistry

set_option autoImplicit false

/-!
# The broadcast aggregator

The server collects the answers to a broadcast (`broadcast-aggregator.ts`), be it a client's broadcast
that it forwards to the others or one of its own.  All broadcasts in flight are kept in one map by the
correlation id of their message; a broadcast ends when every target has answered or disconnected (and,
for a client's broadcast, the node's own results are in), or when its timer fires.

## Main definitions

* `PendingBroadcast` — a broadcast in flight, with the sockets it was sent to and the
  sockets that answered, and every result with where it came from; the code keeps only the results and
  the sockets that are still awaited.
* `BroadcastAggregator` — the broadcasts and their timers.
* `startClientBroadcast`, `startServerBroadcast`, `handleResponse`, `handleNodeResults`,
  `handleClientDisconnect`, `timerFires` — the operations, with what an observer sees.

## Main results

* `Inv.handleResponse`, `start` and so on — every operation keeps the results and the timers of
  the broadcasts apart, as long as responses come from awaited targets and ids are not shared.
-/

namespace Makaio.Server

open Foundations

/-- Where a result of a broadcast came from: the node, or a client's broadcast response, of which the
client had sent `earlier` before it for the same broadcast. -/
inductive ResultSource
  | node
  | client (socket : Socket) (earlier : ℕ)

/-- The two kinds of broadcasts. -/
inductive BroadcastKind
  /-- a client's broadcast -/
  | client (sender : Socket) (nodeResultsReceived nodeError : Bool)
  /-- a broadcast of the server itself -/
  | server

/-- The client that started a broadcast; none for the server. -/
def BroadcastKind.owner : BroadcastKind → Option Socket
  | client sender _ _ => some sender
  | server => none

/-- A broadcast in flight. -/
structure PendingBroadcast (R : Type) where
  kind : BroadcastKind
  results : List (ResultSource × R)
  /-- The sockets that are still awaited. -/
  pendingClients : List Socket
  /-- The number of the scheduled timer. -/
  timer : Option ℕ
  /-- The sockets the broadcast was sent to. -/
  targets : List Socket
  /-- The senders of the broadcast responses, oldest first. -/
  answered : List Socket

/-- What a timer was scheduled for: the id and the starter of its broadcast. -/
structure BroadcastTimer where
  correlationId : String
  owner : Option Socket

/-- The broadcasts in flight, and the timers that have not fired and were not cleared. -/
structure BroadcastAggregator (R : Type) where
  pendingBroadcasts : OrderedMap String (PendingBroadcast R)
  timers : OrderedMap ℕ BroadcastTimer
  nextTimer : ℕ

/-- What an observer sees of the aggregator. -/
inductive BroadcastEvent (R : Type)
  /-- a start took the place of a broadcast in flight -/
  | replaced (owner starter : Option Socket)
  /-- the timer of one start ended a broadcast -/
  | timedOut (owner starter : Option Socket)
  /-- a broadcast ended with results -/
  | aggregated (targets : List Socket) (results : List (ResultSource × R))

/-- Every result comes from the node or from the first response of a target. -/
def ResultsFrom {R : Type} (targets : List Socket) (results : List (ResultSource × R)) : Prop :=
  ∀ x ∈ results, x.1 = .node ∨ ∃ target ∈ targets, x.1 = .client target 0

/-- A start or a timer concerns a broadcast of its own starter, and an aggregate has no strange
results. -/
def BroadcastEvent.Isolated {R : Type} : BroadcastEvent R → Prop
  | .replaced owner starter => owner = starter
  | .timedOut owner starter => owner = starter
  | .aggregated targets results => ResultsFrom targets results

namespace BroadcastAggregator

variable {R : Type}

/-- No broadcast in flight. -/
def empty : BroadcastAggregator R where
  pendingBroadcasts := .empty
  timers := .empty
  nextTimer := 0

/-- Clear the timer of a broadcast when one was scheduled. -/
def clearPendingTimer (a : BroadcastAggregator R) (pending : PendingBroadcast R) :
    BroadcastAggregator R :=
  match pending.timer with
  | none => a
  | some number => { a with timers := a.timers.delete number }

/-- Drop a broadcast with its timer. -/
def remove (a : BroadcastAggregator R) (correlationId : String) (pending : PendingBroadcast R) :
    BroadcastAggregator R :=
  { a.clearPendingTimer pending with pendingBroadcasts := a.pendingBroadcasts.delete correlationId }

/-- Finalize a pending broadcast of the kind asked for; nothing happens to one of the other kind. -/
def finalize (client : Bool) (a : BroadcastAggregator R) (correlationId : String) :
    BroadcastAggregator R × List (BroadcastEvent R) :=
  match a.pendingBroadcasts.get? correlationId with
  | none => (a, [])
  | some pending =>
    if pending.kind.owner.isSome = client then
      (a.remove correlationId pending, [.aggregated pending.targets pending.results])
    else (a, [])

/-- Finalize a client-initiated pending broadcast. -/
def finalizeBroadcast (a : BroadcastAggregator R) := finalize true a

/-- Finalize a server-initiated pending broadcast. -/
def finalizeServerBroadcast (a : BroadcastAggregator R) := finalize false a

/-- Check if a broadcast is complete and finalize if so. -/
def checkBroadcastComplete (a : BroadcastAggregator R) (correlationId : String)
    (pending : PendingBroadcast R) : BroadcastAggregator R × List (BroadcastEvent R) :=
  if pending.pendingClients ≠ [] then (a, [])
  else match pending.kind with
    | .client _ nodeResultsReceived _ =>
      if nodeResultsReceived then a.finalizeBroadcast correlationId else (a, [])
    | .server => a.finalizeServerBroadcast correlationId

/-- A broadcast that has just been sent. -/
def sent (kind : BroadcastKind) (targetClients : List Socket) (timer : Option ℕ) :
    PendingBroadcast R where
  kind := kind
  results := []
  pendingClients := targetClients
  timer := timer
  targets := targetClients
  answered := []

/-- Enter a new broadcast; one in flight under the same id is replaced, and its timer keeps running. -/
def start (a : BroadcastAggregator R) (kind : BroadcastKind) (correlationId : String)
    (targetClients : List Socket) (effectiveTimeout : ℕ) :
    BroadcastAggregator R × List (BroadcastEvent R) :=
  ({ pendingBroadcasts := a.pendingBroadcasts.set correlationId
      (sent kind targetClients (if effectiveTimeout = 0 then none else some a.nextTimer))
     timers := if effectiveTimeout = 0 then a.timers
      else a.timers.set a.nextTimer ⟨correlationId, kind.owner⟩
     nextTimer := a.nextTimer + 1 },
    match a.pendingBroadcasts.get? correlationId with
    | none => []
    | some old => [.replaced old.kind.owner kind.owner])

/-- Start tracking a client-initiated broadcast. -/
def startClientBroadcast (a : BroadcastAggregator R) (sender : Socket) (correlationId : String)
    (targetClients : List Socket) (effectiveTimeout : ℕ) :=
  a.start (.client sender false false) correlationId targetClients effectiveTimeout

/-- Start a server-initiated broadcast; without clients it is over at once. -/
def startServerBroadcast (a : BroadcastAggregator R) (correlationId : String)
    (targetClients : List Socket) (effectiveTimeout : ℕ) :
    BroadcastAggregator R × List (BroadcastEvent R) :=
  if targetClients = [] then (a, []) else a.start .server correlationId targetClients effectiveTimeout

/-- A broadcast after the response of a client. -/
def answer (pending : PendingBroadcast R) (client : Socket) (results : List R) : PendingBroadcast R :=
  { pending with
    results := pending.results ++
      results.map fun result => (.client client (pending.answered.count client), result)
    pendingClients := pending.pendingClients.filter (· ≠ client)
    answered := pending.answered ++ [client] }

/-- Handle a broadcast response from a client. -/
def handleResponse (a : BroadcastAggregator R) (client : Socket) (correlationId : String)
    (results : List R) : BroadcastAggregator R × List (BroadcastEvent R) :=
  match a.pendingBroadcasts.get? correlationId with
  | none => (a, [])
  | some pending =>
    let pending := answer pending client results
    checkBroadcastComplete
      { a with pendingBroadcasts := a.pendingBroadcasts.set correlationId pending } correlationId pending

/-- Handle node results for a client-initiated broadcast. -/
def handleNodeResults (a : BroadcastAggregator R) (correlationId : String) (results : List R)
    (error : Bool) : BroadcastAggregator R × List (BroadcastEvent R) :=
  match a.pendingBroadcasts.get? correlationId with
  | none => (a, [])
  | some pending =>
    match pending.kind with
    | .server => (a, [])
    | .client sender _ _ =>
      let pending := { pending with
        results := pending.results ++ results.map fun result => (.node, result)
        kind := .client sender true error }
      checkBroadcastComplete
        { a with pendingBroadcasts := a.pendingBroadcasts.set correlationId pending } correlationId
        pending

/-- What the disconnect of a client does to one broadcast. -/
def handleDisconnectOf (client : Socket) (a : BroadcastAggregator R) (correlationId : String) :
    BroadcastAggregator R × List (BroadcastEvent R) :=
  match a.pendingBroadcasts.get? correlationId with
  | none => (a, [])
  | some pending =>
    -- Sender disconnected: abort the broadcast entirely.
    if pending.kind.owner = some client then (a.remove correlationId pending, [])
    -- Responding client disconnected: remove and check if complete.
    else if client ∈ pending.pendingClients then
      let pending := { pending with
        pendingClients := pending.pendingClients.filter (· ≠ client) }
      checkBroadcastComplete
        { a with pendingBroadcasts := a.pendingBroadcasts.set correlationId pending } correlationId
        pending
    else (a, [])

def handleClientDisconnect (a : BroadcastAggregator R) (client : Socket) :
    BroadcastAggregator R × List (BroadcastEvent R) :=
  a.pendingBroadcasts.keys.foldl (fun (acc : BroadcastAggregator R × List (BroadcastEvent R)) id =>
    ((handleDisconnectOf client acc.1 id).1, acc.2 ++ (handleDisconnectOf client acc.1 id).2)) (a, [])

/-- A timer fires: it finalizes whatever broadcast of its kind is in flight under its id. -/
def timerFires (a : BroadcastAggregator R) (number : ℕ) :
    Option (BroadcastAggregator R × List (BroadcastEvent R)) :=
  (a.timers.get? number).map fun timer =>
    let fired := { a with timers := a.timers.delete number }
    let ended := finalize timer.owner.isSome fired timer.correlationId
    (ended.1, ended.2 ++
      match fired.pendingBroadcasts.get? timer.correlationId with
      | some pending =>
        if pending.kind.owner.isSome = timer.owner.isSome then [.timedOut pending.kind.owner timer.owner]
        else []
      | none => [])


/-! ### Broadcasts kept apart -/

/-- Every result in flight comes from the node or from the first response of a target, a timer runs for
the starter of the broadcast it would end, and timers are numbered in turn. -/
structure Inv (a : BroadcastAggregator R) : Prop where
  results : ∀ id pending, a.pendingBroadcasts.get? id = some pending →
    ResultsFrom pending.targets pending.results
  owners : ∀ number timer, a.timers.get? number = some timer → ∀ pending,
    a.pendingBroadcasts.get? timer.correlationId = some pending →
    pending.kind.owner.isSome = timer.owner.isSome → pending.kind.owner = timer.owner
  numbers : ∀ number timer, a.timers.get? number = some timer → number < a.nextTimer

/-- An operation leaves the broadcasts apart and shows nothing else. -/
def Sound (x : BroadcastAggregator R × List (BroadcastEvent R)) : Prop :=
  x.1.Inv ∧ ∀ e ∈ x.2, e.Isolated

variable {a : BroadcastAggregator R} {id : String} {pending : PendingBroadcast R}

lemma inv_empty : (empty : BroadcastAggregator R).Inv where
  results := fun id pending h => by cases h
  owners := fun number timer h => by cases h
  numbers := fun number timer h => by cases h

/-- A timer that is left after clearing ran before. -/
lemma get?_clearPendingTimer {number : ℕ} {timer : BroadcastTimer}
    (h : (a.clearPendingTimer pending).timers.get? number = some timer) :
    a.timers.get? number = some timer := by
  rw [clearPendingTimer] at h
  split at h
  · exact h
  · rw [OrderedMap.get?_delete] at h
    split_ifs at h
    exact h

/-- Clearing a timer leaves the numbering alone. -/
lemma nextTimer_clearPendingTimer : (a.clearPendingTimer pending).nextTimer = a.nextTimer := by
  rw [clearPendingTimer]
  split <;> rfl

/-- Dropping a broadcast with its timer keeps the others apart. -/
lemma Inv.remove (h : a.Inv) : (a.remove id pending).Inv where
  results := fun id' pending' hget => by
    rw [BroadcastAggregator.remove, OrderedMap.get?_delete] at hget
    split_ifs at hget
    exact h.results id' pending' hget
  owners := fun number timer htimer pending' hget => by
    rw [BroadcastAggregator.remove, OrderedMap.get?_delete] at hget
    split_ifs at hget
    exact h.owners number timer (get?_clearPendingTimer htimer) pending' hget
  numbers := fun number timer htimer => by
    rw [BroadcastAggregator.remove, nextTimer_clearPendingTimer]
    exact h.numbers number timer (get?_clearPendingTimer htimer)

/-- A broadcast whose new results are in order may be updated. -/
lemma Inv.update (h : a.Inv) (pending' : PendingBroadcast R)
    (hget : a.pendingBroadcasts.get? id = some pending) (howner : pending'.kind.owner = pending.kind.owner)
    (hresults : ResultsFrom pending'.targets pending'.results) :
    Inv { a with pendingBroadcasts := a.pendingBroadcasts.set id pending' } where
  results := fun id' p hp => by
    rw [OrderedMap.get?_set] at hp
    split_ifs at hp
    · cases hp
      exact hresults
    · exact h.results id' p hp
  owners := fun number timer htimer p hp hkind => by
    rw [OrderedMap.get?_set] at hp
    split_ifs at hp with hid
    · cases hp
      rw [howner] at hkind ⊢
      exact h.owners number timer htimer pending (hid ▸ hget) hkind
    · exact h.owners number timer htimer p hp hkind
  numbers := h.numbers

/-- Finalization drops a broadcast and hands its results over, or does nothing. -/
lemma finalize_cases (client : Bool) (a : BroadcastAggregator R) (id : String) :
    finalize client a id = (a, []) ∨ ∃ pending, a.pendingBroadcasts.get? id = some pending ∧
      finalize client a id = (a.remove id pending, [.aggregated pending.targets pending.results]) := by
  rw [finalize]
  split
  · exact .inl rfl
  · rename_i pending hget
    split_ifs
    · exact .inr ⟨pending, hget, rfl⟩
    · exact .inl rfl

/-- Finalization is sound. -/
lemma Inv.finalize (h : a.Inv) (client : Bool) (id : String) : Sound (finalize client a id) := by
  rcases finalize_cases client a id with heq | ⟨pending, hget, heq⟩
  · rw [heq]
    exact ⟨h, fun e he => by cases he⟩
  · rw [heq]
    refine ⟨h.remove, fun e he => ?_⟩
    rw [List.mem_singleton.mp he]
    exact h.results id pending hget

/-- Completion is sound. -/
lemma Inv.checkBroadcastComplete (h : a.Inv) (id : String) (pending : PendingBroadcast R) :
    Sound (a.checkBroadcastComplete id pending) := by
  have hnothing : Sound (a, ([] : List (BroadcastEvent R))) := ⟨h, fun e he => by cases he⟩
  rw [BroadcastAggregator.checkBroadcastComplete]
  split_ifs
  · exact hnothing
  · split
    · split_ifs
      · exact h.finalize true id
      · exact hnothing
    · exact h.finalize false id

/-- A start is sound when neither a broadcast in flight nor a running timer of its kind under the id
belongs to another starter. -/
lemma Inv.start (h : a.Inv) {kind : BroadcastKind} {targets : List Socket} {timeout : ℕ}
    (hpending : ∀ pending, a.pendingBroadcasts.get? id = some pending →
      pending.kind.owner = kind.owner)
    (htimers : ∀ number timer, a.timers.get? number = some timer → timer.correlationId = id →
      kind.owner.isSome = timer.owner.isSome → kind.owner = timer.owner) :
    Sound (a.start kind id targets timeout) := by
  have htimer_cases : ∀ number timer, (a.start kind id targets timeout).1.timers.get? number = some timer →
      a.timers.get? number = some timer ∨ number = a.nextTimer ∧ timer = ⟨id, kind.owner⟩ := by
    intro number timer htimer
    rw [BroadcastAggregator.start] at htimer
    split_ifs at htimer
    · exact .inl htimer
    · rw [OrderedMap.get?_set] at htimer
      split_ifs at htimer with hnumber
      · exact .inr ⟨hnumber, (Option.some.inj htimer).symm⟩
      · exact .inl htimer
  refine ⟨⟨fun id' pending hget => ?_, fun number timer htimer pending hget hkind => ?_,
    fun number timer htimer => ?_⟩, fun e he => ?_⟩
  · rw [BroadcastAggregator.start] at hget
    generalize (if timeout = 0 then none else some a.nextTimer) = scheduled at hget
    rw [OrderedMap.get?_set] at hget
    split_ifs at hget
    · cases hget
      exact fun x hx => by cases hx
    · exact h.results id' pending hget
  · rw [BroadcastAggregator.start] at hget
    generalize (if timeout = 0 then none else some a.nextTimer) = scheduled at hget
    rw [OrderedMap.get?_set] at hget
    split_ifs at hget with hid
    · cases hget
      rcases htimer_cases number timer htimer with hold | ⟨-, rfl⟩
      · exact htimers number timer hold hid hkind
      · rfl
    · rcases htimer_cases number timer htimer with hold | ⟨-, rfl⟩
      · exact h.owners number timer hold pending hget hkind
      · exact absurd rfl hid
  · change number < a.nextTimer + 1
    rcases htimer_cases number timer htimer with hold | ⟨rfl, -⟩
    · exact (h.numbers number timer hold).trans (Nat.lt_succ_self _)
    · exact Nat.lt_succ_self _
  · rw [BroadcastAggregator.start] at he
    dsimp only at he
    split at he
    · cases he
    · rename_i old hget
      rw [List.mem_singleton.mp he]
      exact hpending old hget

/-- A broadcast response is sound when it carries no results or comes from a target that has not
answered. -/
lemma Inv.handleResponse (h : a.Inv) {client : Socket} {results : List R}
    (hclient : ∀ pending, a.pendingBroadcasts.get? id = some pending → results ≠ [] →
      client ∈ pending.targets ∧ client ∉ pending.answered) :
    Sound (a.handleResponse client id results) := by
  rw [BroadcastAggregator.handleResponse]
  split
  · exact ⟨h, fun e he => by cases he⟩
  · rename_i pending hget
    refine (h.update (answer pending client results) hget rfl ?_).checkBroadcastComplete id _
    intro x hx
    rcases List.mem_append.mp hx with hx | hx
    · exact h.results id pending hget x hx
    · obtain ⟨result, hresult, rfl⟩ := List.mem_map.mp hx
      obtain ⟨htarget, hanswered⟩ := hclient pending hget (List.ne_nil_of_mem hresult)
      exact .inr ⟨client, htarget, by rw [List.count_eq_zero_of_not_mem hanswered]⟩

/-- The node's results are sound. -/
lemma Inv.handleNodeResults (h : a.Inv) (id : String) (results : List R) (error : Bool) :
    Sound (a.handleNodeResults id results error) := by
  rw [BroadcastAggregator.handleNodeResults]
  split
  · exact ⟨h, fun e he => by cases he⟩
  · rename_i pending hget
    split
    · exact ⟨h, fun e he => by cases he⟩
    · rename_i sender _ _ hkind
      refine (h.update _ hget (by rw [hkind]; rfl) ?_).checkBroadcastComplete id _
      intro x hx
      rcases List.mem_append.mp hx with hx | hx
      · exact h.results id pending hget x hx
      · obtain ⟨result, -, rfl⟩ := List.mem_map.mp hx
        exact .inl rfl

/-- What a disconnect does to one broadcast is sound. -/
lemma Inv.handleDisconnectOf (h : a.Inv) (client : Socket) (id : String) :
    Sound (handleDisconnectOf client a id) := by
  rw [BroadcastAggregator.handleDisconnectOf]
  split
  · exact ⟨h, fun e he => by cases he⟩
  · rename_i pending hget
    split_ifs
    · exact ⟨h.remove, fun e he => by cases he⟩
    · have hresults := h.results id pending hget
      exact (h.update { pending with
        pendingClients := pending.pendingClients.filter (· ≠ client) } hget rfl
        hresults).checkBroadcastComplete id _
    · exact ⟨h, fun e he => by cases he⟩

/-- A disconnect is sound. -/
lemma Inv.handleClientDisconnect (h : a.Inv) (client : Socket) :
    Sound (a.handleClientDisconnect client) := by
  rw [BroadcastAggregator.handleClientDisconnect]
  generalize a.pendingBroadcasts.keys = ids
  have hstart : Sound (a, ([] : List (BroadcastEvent R))) := ⟨h, fun e he => by cases he⟩
  revert hstart
  generalize (a, ([] : List (BroadcastEvent R))) = acc
  induction ids generalizing acc with
  | nil => exact id
  | cons id ids ih =>
    intro hacc
    have hone := hacc.1.handleDisconnectOf client id
    exact ih _ ⟨hone.1, fun e he => (List.mem_append.mp he).elim (hacc.2 e) (hone.2 e)⟩

/-- A timer is sound. -/
lemma Inv.timerFires (h : a.Inv) {number : ℕ}
    {x : BroadcastAggregator R × List (BroadcastEvent R)} (hx : a.timerFires number = some x) :
    Sound x := by
  obtain ⟨timer, htimer, rfl⟩ := Option.map_eq_some_iff.mp hx
  have hleft : ∀ n t, (a.timers.delete number).get? n = some t → a.timers.get? n = some t := by
    intro n t ht
    rw [OrderedMap.get?_delete] at ht
    split_ifs at ht
    exact ht
  have hfired : Inv { a with timers := a.timers.delete number } :=
    ⟨h.results, fun n t ht => h.owners n t (hleft n t ht), fun n t ht => h.numbers n t (hleft n t ht)⟩
  have hended := hfired.finalize timer.owner.isSome timer.correlationId
  refine ⟨hended.1, fun e he => (List.mem_append.mp he).elim (hended.2 e) fun he => ?_⟩
  split at he
  · rename_i pending hget
    split_ifs at he with hkind
    · rw [List.mem_singleton.mp he]
      exact h.owners number timer htimer pending hget hkind
    · cases he
  · cases he

end BroadcastAggregator

end Makaio.Server
