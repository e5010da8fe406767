import Makaio.Foundations.Json
import Makaio.Foundations.OrderedMap
import Mathlib.Data.List.Induction

set_option autoImplicit false

/-!
# Requests over JSON lines

The JSON-RPC client on top of the transport of JSON lines (`json-rpc-client.ts`).  What the remote sends is any JSON
value; a handler may do anything, and its outcome comes at any time, or never.

## Main definitions

* `stringOf` — `String` of a value that a JSON text denotes.
* `Client` — the client, its live timers, and what it has settled and sent.
* `step` — one step of the client, and whether the dispatch of a message throws.
* `SettledOnce` — every request is either pending or settled once.

## Main results

* `settledOnce_along_iff` — which runs keep this: those without an error that has no text.
-/

namespace Makaio.Jsonl

open Foundations

/-! ### Texts -/

variable (numberText : ℚ → String)

mutual

/-- `String(value)`; `none` is a `TypeError`.  An own member `toString` hides the inherited one, and nothing that a
JSON text denotes can be called. -/
def stringOf : Json → Option String
  | .null => some "null"
  | .bool b => some (toString b)
  | .num n => some (numberText n)
  | .str s => some s
  | .arr elements => (joinedTexts elements).map (",".intercalate)
  | .obj members => if (Json.lookup "toString" members).isSome then none else some "[object Object]"

/-- The texts of elements that `join` joins. -/
def joinedTexts : List Json → Option (List String)
  | [] => some []
  | .null :: elements => (joinedTexts elements).map ("" :: ·)
  | element :: elements => (stringOf element).bind fun text => (joinedTexts elements).map (text :: ·)

end

/-- The text of a member, which need not be there. -/
def memberText (key : String) (value : Json) : Option String :=
  match value.member? key with
  | none => some "undefined"
  | some member => stringOf numberText member

/-- The text that an error response rejects with; reading a member of `null` throws. -/
def rpcErrorText : Json → Option String
  | .null => none
  | error =>
    (memberText numberText "code" error).bind fun code =>
      (memberText numberText "message" error).map fun message => s!"JSON-RPC error {code}: {message}"

/-! ### The client -/

/-- `DEFAULT_JSON_RPC_REQUEST_TIMEOUT_MS` -/
def defaultJsonRpcRequestTimeoutMs : ℚ := 60000

inductive RequestId
  | number (n : ℚ)
  | string (s : String)
  deriving DecidableEq

/-- The key that a value is in a `Map` of request ids. -/
def RequestId.ofJson? : Json → Option RequestId
  | .num n => some (.number n)
  | .str s => some (.string s)
  | _ => none

/-- `PendingJsonRpcRequest`: its callbacks settle the promise of a call of `request`. -/
structure PendingJsonRpcRequest where
  promise : ℕ
  timeoutId : Option ℕ

/-- What a promise is settled with. -/
inductive Outcome
  | resolved (value : Json)
  | rejected (message : String)

/-- A live timer of `request`, named after the call that set it. -/
structure Timer where
  timeoutId : ℕ
  id : RequestId
  message : String

/-- A message of the client that is no response. -/
inductive Sent
  | request (id : RequestId) (method : String) (params : Option Json)
  | notification (method : String) (params : Option Json)

/-- A response to a request of the remote: its result, or the code and the message of its error. -/
structure Response where
  received : ℕ
  id : Json
  result : Except (ℤ × String) Json

/-- A request of the remote whose handlers have been called. -/
structure Handling where
  received : ℕ
  requestId : Json
  handlers : List ℕ

/-- What a handler of requests of the remote comes to. -/
inductive HandlerOutcome
  | fulfilled (value : Json)
  /-- Rejected with an `Error`. -/
  | failed (message : String)
  /-- Rejected with another value. -/
  | rejected (reason : Option Json)

/-- `createJsonRpcClient`.  The timeout of each call of `request` is kept, in their order, and so is every settlement. -/
structure Client where
  nextId : ℕ
  closed : Bool
  pendingRequests : OrderedMap RequestId PendingJsonRpcRequest
  notificationHandlers : String → List ℕ
  serverRequestHandlers : List ℕ
  timers : List Timer
  timeouts : List ℚ
  settlements : List (ℕ × Outcome)
  /-- How many requests of the remote have been received. -/
  received : ℕ
  handling : List Handling
  responses : List Response
  sent : List Sent
  notified : List (ℕ × String × Option Json)

def Client.new : Client where
  nextId := 1
  closed := false
  pendingRequests := .empty
  notificationHandlers := fun _ => []
  serverRequestHandlers := []
  timers := []
  timeouts := []
  settlements := []
  received := 0
  handling := []
  responses := []
  sent := []
  notified := []

def rejectAllPending (c : Client) (message : String) : Client :=
  { c with
    timers := c.timers.filter fun timer => c.pendingRequests.values.all fun p => p.timeoutId ≠ some timer.timeoutId
    settlements := c.settlements ++ c.pendingRequests.values.map fun p => (p.promise, .rejected message)
    pendingRequests := .empty }

/-- `settlePending`, and whether it throws: `none` is a callback that throws before it settles anything. -/
def settlePending (c : Client) (id : RequestId) (outcome : Option Outcome) : Client × Bool :=
  match c.pendingRequests.get? id with
  | none => (c, false)
  | some pending =>
    let deleted := { c with
      timers := c.timers.filter fun timer => pending.timeoutId ≠ some timer.timeoutId
      pendingRequests := c.pendingRequests.delete id }
    match outcome with
    | none => (deleted, true)
    | some outcome => ({ deleted with settlements := c.settlements ++ [(pending.promise, outcome)] }, false)

/-- A response is sent, unless `transport.send` throws. -/
def respond (c : Client) (sendFails : Bool) (response : Response) : Client :=
  if sendFails then c else { c with responses := c.responses ++ [response] }

/-- `handleServerRequest` until its handlers have been called. -/
def handleServerRequest (c : Client) (requestId method : Json) (sendFails : Bool) : Client :=
  let counted := { c with received := c.received + 1 }
  if c.serverRequestHandlers = [] then
    match stringOf numberText method with
    | none => counted
    | some method =>
      respond counted sendFails
        ⟨c.received, requestId, .error (-32601, s!"No handler registered for server request: {method}")⟩
  else { counted with handling := c.handling ++ [⟨c.received, requestId, c.serverRequestHandlers⟩] }

/-- The message of the first failure. -/
def failureText : Option HandlerOutcome → Option String
  | some (.failed message) => some message
  | some (.rejected (some .null)) => some "handler failed"
  | some (.rejected (some reason)) => stringOf numberText reason
  | _ => some "handler failed"

/-- `handleServerRequest` once its handlers have settled. -/
def handlersSettled (c : Client) (received : ℕ) (outcome : ℕ → HandlerOutcome) (sendFails : Bool) : Client :=
  match c.handling.find? fun request => request.received = received with
  | none => c
  | some request =>
    let rest := { c with handling := c.handling.filter fun request => request.received ≠ received }
    let results := request.handlers.map outcome
    if c.closed then rest
    else match results.findSome? fun | .fulfilled value => some value | _ => none with
      | some value => respond rest sendFails ⟨received, request.requestId, .ok value⟩
      | none =>
        match failureText numberText results.head? with
        | none => rest
        | some message => respond rest sendFails ⟨received, request.requestId, .error (-32603, message)⟩

/-- `handleMessage`, and whether it throws. -/
def handleMessage (c : Client) (message : Json) (sendFails : Bool) : Client × Bool :=
  match message.member? "id", message.member? "method" with
  | some id, none =>
    match RequestId.ofJson? id, message.member? "result", message.member? "error" with
    | some id, some result, _ => settlePending c id (some (.resolved result))
    | some id, none, some error => settlePending c id ((rpcErrorText numberText error).map .rejected)
    | _, _, _ => (c, false)
  | some id, some method => (handleServerRequest numberText c id method sendFails, false)
  | none, some (.str method) =>
    let calls := (c.notificationHandlers method).map fun handler => (handler, method, message.member? "params")
    ({ c with notified := c.notified ++ calls }, false)
  | none, _ => (c, false)

/-- The first half of `request`: its timer is set, and its callbacks are kept under a new id. -/
def register (c : Client) (timeoutMs : ℚ) (message : String) : Client :=
  let promise := c.timeouts.length
  { c with
    nextId := c.nextId + 1
    timeouts := c.timeouts ++ [timeoutMs]
    timers := c.timers ++ if timeoutMs = 0 then [] else [⟨promise, .number c.nextId, message⟩]
    pendingRequests := c.pendingRequests.set (.number c.nextId)
      ⟨promise, if timeoutMs = 0 then none else some promise⟩ }

/-- `request`; `sendError` is the message of the error that `transport.send` throws. -/
def request (c : Client) (method : String) (params : Option Json) (timeout : Option ℚ) (sendError : Option String) :
    Client :=
  let timeoutMs := timeout.getD defaultJsonRpcRequestTimeoutMs
  if c.closed then
    { c with
      timeouts := c.timeouts ++ [timeoutMs]
      settlements := c.settlements ++ [(c.timeouts.length, .rejected "JSON-RPC client is closed")] }
  else
    let ms := numberText timeoutMs
    let registered := register c timeoutMs s!"JSON-RPC request timed out after {ms}ms: {method}"
    match sendError with
    | none => { registered with sent := c.sent ++ [.request (.number c.nextId) method params] }
    | some message => (settlePending registered (.number c.nextId) (some (.rejected message))).1

def close (c : Client) : Client :=
  if c.closed then c
  else { rejectAllPending { c with closed := true } "JSON-RPC client closed" with
    notificationHandlers := fun _ => []
    serverRequestHandlers := [] }

/-! ### Runs -/

/-- A step of the client. -/
inductive Action
  | request (method : String) (params : Option Json) (timeout : Option ℚ) (sendError : Option String)
  | notification (method : String) (params : Option Json) (sendFails : Bool)
  /-- Handlers come and go. -/
  | handlers (notification : String → List ℕ) (serverRequest : List ℕ)
  | message (message : Json) (sendFails : Bool)
  | handlersSettled (received : ℕ) (outcome : ℕ → HandlerOutcome) (sendFails : Bool)
  | timeout (timeoutId : ℕ)
  | transportError (message : String)
  | close

/-- A step, and whether the dispatch of a message throws.  `close` ends the subscriptions to the transport. -/
def step (c : Client) : Action → Client × Bool
  | .request method params timeout sendError => (request numberText c method params timeout sendError, false)
  | .notification method params sendFails =>
    (if c.closed || sendFails then c else { c with sent := c.sent ++ [.notification method params] }, false)
  | .handlers notification serverRequest =>
    ({ c with notificationHandlers := notification, serverRequestHandlers := serverRequest }, false)
  | .message message sendFails => if c.closed then (c, false) else handleMessage numberText c message sendFails
  | .handlersSettled received outcome sendFails => (handlersSettled numberText c received outcome sendFails, false)
  | .timeout timeoutId =>
    match c.timers.find? fun timer => timer.timeoutId = timeoutId with
    | none => (c, false)
    | some timer =>
      settlePending { c with timers := c.timers.filter fun timer => timer.timeoutId ≠ timeoutId } timer.id
        (some (.rejected timer.message))
  | .transportError message => (if c.closed then c else rejectAllPending c message, false)
  | .close => (close c, false)

/-- The client after a run. -/
def run (actions : List Action) : Client := actions.foldl (fun c a => (step numberText c a).1) .new

/-- The request of a promise is pending. -/
def Client.Pending (c : Client) (promise : ℕ) : Prop := ∃ pending ∈ c.pendingRequests.values, pending.promise = promise

/-- **Every request is either pending and unsettled, or settled once.**  It has a live timer exactly while it is
pending, unless it has no timeout; nothing is pending after `close`; a request of the remote is answered at most once. -/
structure SettledOnce (c : Client) : Prop where
  once : ∀ promise < c.timeouts.length,
    c.Pending promise ∧ c.settlements.countP (fun s => s.1 = promise) = 0 ∨
      ¬c.Pending promise ∧ c.settlements.countP (fun s => s.1 = promise) = 1
  timers : ∀ promise timeoutMs, c.timeouts[promise]? = some timeoutMs → timeoutMs ≠ 0 →
    ((∃ timer ∈ c.timers, timer.timeoutId = promise) ↔ c.Pending promise)
  closed : c.closed = true → c.pendingRequests.values = []
  answers : ∀ received, c.responses.countP (fun r => r.received = received) ≤ 1

/-- A message settles a pending request with an error that is `null`, or whose `code` or `message` has no text. -/
def Unreadable (c : Client) : Action → Prop
  | .message message _ => c.closed = false ∧ message.member? "method" = none ∧ message.member? "result" = none ∧
      ∃ id key error, message.member? "id" = some id ∧ RequestId.ofJson? id = some key ∧
        c.pendingRequests.get? key ≠ none ∧ message.member? "error" = some error ∧
        (error = .null ∨ memberText numberText "code" error = none ∨ memberText numberText "message" error = none)
  | _ => False

/-! ### Pending requests and their timers -/

variable {numberText} {c : Client} {pending : PendingJsonRpcRequest} {id : RequestId}

/-- An error has no text if it is `null` or one of the members it is read for has none. -/
lemma rpcErrorText_eq_none_iff (error : Json) : rpcErrorText numberText error = none ↔
    error = .null ∨ memberText numberText "code" error = none ∨ memberText numberText "message" error = none := by
  unfold rpcErrorText
  split
  · simp
  · rename_i hnull
    rw [or_iff_right hnull]
    cases memberText numberText "code" error <;> simp

/-- What the bookkeeping of requests keeps: each call is counted once, as pending or as settled, and the live timers
are those of the pending requests. -/
structure Accounts (c : Client) : Prop where
  counts : ∀ promise, c.pendingRequests.values.countP (fun p => p.promise = promise) +
    c.settlements.countP (fun s => s.1 = promise) = if promise < c.timeouts.length then 1 else 0
  fresh : ∀ id pending, c.pendingRequests.get? id = some pending → ∃ n < c.nextId, id = .number (n : ℕ)
  timeoutIds : ∀ pending ∈ c.pendingRequests.values, ∀ timeoutMs, c.timeouts[pending.promise]? = some timeoutMs →
    pending.timeoutId = if timeoutMs = 0 then none else some pending.promise
  armed : ∀ pending ∈ c.pendingRequests.values, ∀ timeoutId, pending.timeoutId = some timeoutId →
    ∃ timer ∈ c.timers, timer.timeoutId = timeoutId
  live : ∀ timer ∈ c.timers, ∃ pending, c.pendingRequests.get? timer.id = some pending ∧
    pending.timeoutId = some timer.timeoutId
  closed : c.closed = true → c.pendingRequests.values = []

/-- A pending request is one that was made. -/
lemma Accounts.promise_lt (h : Accounts c) (hmem : pending ∈ c.pendingRequests.values) :
    pending.promise < c.timeouts.length := by
  have hpos : 0 < c.pendingRequests.values.countP fun p => p.promise = pending.promise :=
    List.countP_pos_iff.mpr ⟨pending, hmem, by simp⟩
  have hcount := h.counts pending.promise
  by_contra hge
  rw [if_neg hge] at hcount
  omega

/-- The timer of a pending request is named after it. -/
lemma Accounts.timeoutId_eq (h : Accounts c) (hmem : pending ∈ c.pendingRequests.values) {timeoutId : ℕ}
    (htimeout : pending.timeoutId = some timeoutId) : timeoutId = pending.promise := by
  have hms := h.timeoutIds pending hmem _ (List.getElem?_eq_getElem (h.promise_lt hmem))
  rw [htimeout] at hms
  split_ifs at hms with hzero
  exact Option.some.inj hms

/-- The other pending requests have other promises. -/
lemma Accounts.promise_ne (h : Accounts c) (hget : c.pendingRequests.get? id = some pending)
    {other : PendingJsonRpcRequest} (hother : other ∈ (c.pendingRequests.delete id).values) :
    other.promise ≠ pending.promise := by
  intro heq
  have hperm := (OrderedMap.values_perm hget).countP_eq fun p => p.promise = pending.promise
  have hpos : 0 < (c.pendingRequests.delete id).values.countP fun p => p.promise = pending.promise :=
    List.countP_pos_iff.mpr ⟨other, hother, by simpa using heq⟩
  have hcount := h.counts pending.promise
  rw [hperm, List.countP_cons_of_pos (by simp)] at hcount
  split_ifs at hcount <;> omega

/-- **Settling keeps the accounts**: the request leaves the map, its timer is cleared, and it is settled. -/
theorem Accounts.settlePending (h : Accounts c) (outcome : Outcome) :
    Accounts (settlePending c id (some outcome)).1 := by
  rw [Jsonl.settlePending]
  cases hget : c.pendingRequests.get? id with
  | none => exact h
  | some pending =>
    have hperm := OrderedMap.values_perm hget
    have hsub : ∀ p ∈ (c.pendingRequests.delete id).values, p ∈ c.pendingRequests.values := fun p hp =>
      hperm.mem_iff.mpr (List.mem_cons_of_mem _ hp)
    have hmem : pending ∈ c.pendingRequests.values := hperm.mem_iff.mpr List.mem_cons_self
    constructor
    · intro promise
      have hcount := h.counts promise
      rw [hperm.countP_eq, List.countP_cons] at hcount
      simp only [List.countP_append, List.countP_singleton]
      omega
    · intro id' p hp
      rw [OrderedMap.get?_delete] at hp
      split_ifs at hp with heq
      exact h.fresh id' p hp
    · exact fun p hp => h.timeoutIds p (hsub p hp)
    · intro p hp timeoutId htimeout
      obtain ⟨timer, htimer, rfl⟩ := h.armed p (hsub p hp) timeoutId htimeout
      refine ⟨timer, List.mem_filter.mpr ⟨htimer, ?_⟩, rfl⟩
      -- the timer that is cleared is named after another promise
      have hne := h.promise_ne hget hp
      rw [decide_eq_true_eq]
      intro hsame
      rw [← h.timeoutId_eq (hsub p hp) htimeout, ← h.timeoutId_eq hmem hsame] at hne
      exact hne rfl
    · intro timer htimer
      obtain ⟨htimer, hkept⟩ := List.mem_filter.mp htimer
      obtain ⟨p, hp, htimeout⟩ := h.live timer htimer
      refine ⟨p, ?_, htimeout⟩
      rw [OrderedMap.get?_delete, if_neg, hp]
      rintro heq
      rw [heq, hget] at hp
      cases hp
      rw [decide_eq_true_eq] at hkept
      exact hkept htimeout
    · intro hclosed
      rw [h.closed hclosed] at hmem
      cases hmem

/-- Rejecting all keeps the accounts. -/
lemma Accounts.rejectAllPending (h : Accounts c) (message : String) : Accounts (rejectAllPending c message) where
  counts promise := by
    rw [Jsonl.rejectAllPending, List.countP_append, List.countP_map, ← h.counts promise]
    exact (Nat.zero_add _).trans (Nat.add_comm _ _)
  fresh id pending hget := by cases hget
  timeoutIds pending hmem := by cases hmem
  armed pending hmem := by cases hmem
  live timer htimer := by
    obtain ⟨htimer, hkept⟩ := List.mem_filter.mp htimer
    obtain ⟨pending, hget, htimeout⟩ := h.live timer htimer
    have hne := List.all_eq_true.mp hkept pending (OrderedMap.mem_values_iff.mpr ⟨_, hget⟩)
    rw [decide_eq_true_eq] at hne
    exact absurd htimeout hne
  closed _ := rfl

/-- Nothing is pending after `rejectAllPending`, so that the client may be closed. -/
lemma Accounts.close (h : Accounts c) : Accounts (close c) := by
  rw [Jsonl.close]
  split_ifs with hclosed
  · exact h
  · exact { h.rejectAllPending "JSON-RPC client closed" with closed := fun _ => rfl }

/-- The accounts are about the requests of the client only. -/
lemma Accounts.of_remote (h : Accounts c) {received : ℕ} {handling : List Handling} {responses : List Response} :
    Accounts { c with received, handling, responses } := { h with }

variable {response : Response} {sendFails : Bool} {a : Action}

/-- A response does not change the accounts. -/
lemma Accounts.respond (h : Accounts c) : Accounts (respond c sendFails response) := by
  rw [Jsonl.respond]
  split_ifs
  exacts [h, h.of_remote]

/-- A request is registered under a fresh id. -/
lemma Accounts.get?_nextId (h : Accounts c) : c.pendingRequests.get? (.number c.nextId) = none := by
  by_contra hsome
  obtain ⟨pending, hget⟩ := Option.ne_none_iff_exists'.mp hsome
  obtain ⟨n, hn, heq⟩ := h.fresh _ _ hget
  have hcast : ((c.nextId : ℕ) : ℚ) = (n : ℕ) := RequestId.number.inj heq
  rw [Nat.cast_inj] at hcast
  omega

/-- **Registering keeps the accounts**: the request is pending, with its timer. -/
theorem Accounts.register (h : Accounts c) (hopen : c.closed = false) (timeoutMs : ℚ) (message : String) :
    Accounts (register c timeoutMs message) := by
  have hvalues : (Jsonl.register c timeoutMs message).pendingRequests.values =
      c.pendingRequests.values ++ [⟨c.timeouts.length, if timeoutMs = 0 then none else some c.timeouts.length⟩] :=
    OrderedMap.values_set_of_none _ h.get?_nextId
  constructor
  · intro promise
    have hcount := h.counts promise
    rw [hvalues]
    simp only [Jsonl.register, List.countP_append, List.countP_singleton, List.length_append, List.length_singleton,
      decide_eq_true_eq]
    split_ifs at hcount ⊢ <;> omega
  · intro id pending hget
    by_cases hid : id = .number c.nextId
    · exact ⟨c.nextId, Nat.lt_succ_self _, hid⟩
    · rw [Jsonl.register, OrderedMap.get?_set_of_ne _ _ hid] at hget
      obtain ⟨n, hn, rfl⟩ := h.fresh id pending hget
      exact ⟨n, Nat.lt_succ_of_lt hn, rfl⟩
  · intro pending hmem ms hms
    rw [hvalues, List.mem_append, List.mem_singleton] at hmem
    rcases hmem with hmem | rfl
    · rw [Jsonl.register, List.getElem?_append_left (h.promise_lt hmem)] at hms
      exact h.timeoutIds pending hmem ms hms
    · simp only [Jsonl.register, List.getElem?_concat_length, Option.some.injEq] at hms
      rw [hms]
  · intro pending hmem timeoutId htimeout
    rw [hvalues, List.mem_append, List.mem_singleton] at hmem
    rcases hmem with hmem | rfl
    · obtain ⟨timer, htimer, rfl⟩ := h.armed pending hmem timeoutId htimeout
      exact ⟨timer, List.mem_append_left _ htimer, rfl⟩
    · split_ifs at htimeout with hzero
      refine ⟨⟨_, .number c.nextId, message⟩, List.mem_append_right _ ?_, Option.some.inj htimeout⟩
      rw [if_neg hzero]
      exact List.mem_singleton_self _
  · intro timer htimer
    rcases List.mem_append.mp htimer with htimer | htimer
    · obtain ⟨pending, hget, htimeout⟩ := h.live timer htimer
      refine ⟨pending, ?_, htimeout⟩
      rw [Jsonl.register, OrderedMap.get?_set_of_ne _ _ fun heq => ?_, hget]
      rw [heq, h.get?_nextId] at hget
      cases hget
    · split_ifs at htimer with hzero
      · cases htimer
      · obtain rfl := List.mem_singleton.mp htimer
        exact ⟨_, OrderedMap.get?_set_self _ _ _, by rw [if_neg hzero]⟩
  · exact fun hclosed => absurd (hopen.symm.trans hclosed) Bool.false_ne_true

/-- A request is pending, or settled where it cannot be sent. -/
lemma Accounts.request (h : Accounts c) (method : String) (params : Option Json) (timeout : Option ℚ)
    (sendError : Option String) : Accounts (request numberText c method params timeout sendError) := by
  unfold Jsonl.request
  split_ifs with hclosed
  · refine { h with counts := fun promise => ?_, timeoutIds := fun p hp => ?_ }
    · have hcount := h.counts promise
      simp only [List.countP_append, List.countP_singleton, List.length_append, List.length_singleton,
        decide_eq_true_eq]
      split_ifs at hcount ⊢ <;> omega
    · have hp : p ∈ c.pendingRequests.values := hp
      rw [h.closed hclosed] at hp
      cases hp
  · have hreg := h.register (Bool.not_eq_true _ ▸ hclosed)
    cases sendError with
    | none =>
      exact { hreg _ _ with }
    | some message => exact (hreg _ _).settlePending _

/-! ### Requests of the remote -/

/-- What the bookkeeping of requests of the remote keeps: each is with its handlers, or answered, at most once. -/
def Answers (c : Client) : Prop :=
  ∀ received, c.handling.countP (fun r => r.received = received) + c.responses.countP (fun r => r.received = received) ≤
    if received < c.received then 1 else 0

/-- A request that is not with its handlers, and that has no answer, may be answered. -/
lemma Answers.respond (h : Answers c) (hlt : response.received < c.received)
    (hhandling : c.handling.countP (fun r => r.received = response.received) = 0)
    (hnone : c.responses.countP (fun r => r.received = response.received) = 0) :
    Answers (respond c sendFails response) := by
  intro received
  have hcount := h received
  cases sendFails with
  | true => exact hcount
  | false =>
    simp only [Jsonl.respond, Bool.false_eq_true, if_false, List.countP_append, List.countP_singleton, decide_eq_true_eq]
    by_cases heq : response.received = received
    · rw [← heq, hhandling, hnone, if_pos rfl, if_pos hlt]
    · rwa [if_neg heq, Nat.add_zero]

/-- A request of the remote is refused at once, or goes to its handlers. -/
lemma Answers.handleServerRequest (h : Answers c) (requestId method : Json) (sendFails : Bool) :
    Answers (handleServerRequest numberText c requestId method sendFails) := by
  have hunseen := h c.received
  rw [if_neg (lt_irrefl _)] at hunseen
  have hcounted : Answers { c with received := c.received + 1 } := by
    intro received
    have hcount := h received
    dsimp only
    split_ifs at hcount ⊢ <;> omega
  rw [Jsonl.handleServerRequest]
  split_ifs
  · cases stringOf numberText method with
    | none => exact hcounted
    | some method => exact hcounted.respond (Nat.lt_succ_self _) (by dsimp only; omega) (by dsimp only; omega)
  · intro received
    have hcount := h received
    simp only [List.countP_append, List.countP_singleton, decide_eq_true_eq]
    split_ifs at hcount ⊢ <;> omega

/-- A request of the remote leaves its handlers before it is answered. -/
lemma Answers.handlersSettled (h : Answers c) (received : ℕ) (outcome : ℕ → HandlerOutcome) (sendFails : Bool) :
    Answers (handlersSettled numberText c received outcome sendFails) := by
  rw [Jsonl.handlersSettled]
  cases hfind : c.handling.find? fun request => request.received = received with
  | none => exact h
  | some request =>
    have hreceived : request.received = received := by simpa using List.find?_some hfind
    have hpos : 0 < c.handling.countP fun r => r.received = received :=
      List.countP_pos_iff.mpr ⟨request, List.mem_of_find?_eq_some hfind, decide_eq_true hreceived⟩
    have hleft : (c.handling.filter fun r => r.received ≠ received).countP (fun r => r.received = received) = 0 :=
      List.countP_eq_zero.mpr fun r hr => by simpa using (List.mem_filter.mp hr).2
    have hrest : Answers { c with handling := c.handling.filter fun r => r.received ≠ received } := fun r =>
      (Nat.add_le_add_right (List.filter_sublist.countP_le) _).trans (h r)
    have hcount := h received
    have hlt : received < c.received := by
      by_contra hge
      rw [if_neg hge] at hcount
      omega
    rw [if_pos hlt] at hcount
    dsimp only
    split_ifs with hclosed
    · exact hrest
    · split
      · exact hrest.respond hlt hleft (by dsimp only; omega)
      · split
        · exact hrest
        · exact hrest.respond hlt hleft (by dsimp only; omega)

/-! ### Runs -/

/-- The bookkeeping of the client. -/
def Kept (c : Client) : Prop := Accounts c ∧ Answers c

/-- Settling keeps the bookkeeping, and does not throw. -/
lemma Kept.settlePending (h : Kept c) (outcome : Outcome) :
    Kept (settlePending c id (some outcome)).1 ∧ (settlePending c id (some outcome)).2 = false := by
  refine ⟨⟨h.1.settlePending outcome, ?_⟩, ?_⟩ <;> rw [Jsonl.settlePending] <;> cases c.pendingRequests.get? id
  exacts [h.2, h.2, rfl, rfl]

/-- A timer that fires is that of a pending request, so that removing it first makes no difference. -/
lemma settlePending_fired (h : Accounts c) {timer : Timer} (hmem : timer ∈ c.timers) (outcome : Outcome) :
    settlePending { c with timers := c.timers.filter fun t => t.timeoutId ≠ timer.timeoutId } timer.id (some outcome) =
      settlePending c timer.id (some outcome) := by
  obtain ⟨pending, hget, htimeout⟩ := h.live timer hmem
  have hfilter : (c.timers.filter fun t => t.timeoutId ≠ timer.timeoutId).filter (fun t =>
      pending.timeoutId ≠ some t.timeoutId) = c.timers.filter fun t => pending.timeoutId ≠ some t.timeoutId := by
    rw [List.filter_filter]
    refine List.filter_congr fun t _ => ?_
    simp [htimeout, eq_comm]
  simp only [Jsonl.settlePending, hget, hfilter]

/-- **A message that is not unreadable keeps the bookkeeping**, and does not throw. -/
theorem Kept.handleMessage (h : Kept c) (hopen : c.closed = false) {message : Json}
    (hreadable : ¬Unreadable numberText c (.message message sendFails)) :
    Kept (handleMessage numberText c message sendFails).1 ∧
      (handleMessage numberText c message sendFails).2 = false := by
  unfold Jsonl.handleMessage
  split
  · rename_i id hid hmethod
    split
    · exact h.settlePending _
    · rename_i key error hkey hresult herror
      cases htext : rpcErrorText numberText error with
      | some text => exact h.settlePending _
      | none =>
        cases hget : c.pendingRequests.get? key with
        | none => rw [Jsonl.settlePending, hget]; exact ⟨h, rfl⟩
        | some pending =>
          refine absurd ⟨hopen, hmethod, hresult, id, key, error, hid, hkey, by simp [hget], herror, ?_⟩ hreadable
          exact (rpcErrorText_eq_none_iff error).mp htext
    · exact ⟨h, rfl⟩
  · refine ⟨⟨?_, h.2.handleServerRequest _ _ _⟩, rfl⟩
    rw [handleServerRequest]
    split_ifs
    · split
      exacts [h.1.of_remote, h.1.of_remote.respond]
    · exact h.1.of_remote
  · exact ⟨⟨{ h.1 with }, h.2⟩, rfl⟩
  · exact ⟨h, rfl⟩

/-- **A step that is not unreadable keeps the bookkeeping**, and does not throw. -/
theorem Kept.step (h : Kept c) (hreadable : ¬Unreadable numberText c a) :
    Kept (step numberText c a).1 ∧ (step numberText c a).2 = false := by
  cases a with
  | request method params timeout sendError =>
    refine ⟨⟨h.1.request .., ?_⟩, rfl⟩
    simp only [Jsonl.step, Jsonl.request]
    split_ifs
    · exact h.2
    · cases sendError with
      | none => exact h.2
      | some message =>
        simp only [Jsonl.settlePending]
        split <;> exact h.2
  | notification method params sendFails =>
    simp only [Jsonl.step]
    split_ifs
    · exact ⟨h, trivial⟩
    · exact ⟨⟨{ h.1 with }, h.2⟩, trivial⟩
  | handlers notification serverRequest =>
    exact ⟨⟨{ h.1 with }, h.2⟩, rfl⟩
  | message message sendFails =>
    simp only [Jsonl.step]
    split_ifs with hclosed
    · exact ⟨h, rfl⟩
    · exact h.handleMessage (Bool.not_eq_true _ ▸ hclosed) hreadable
  | handlersSettled received outcome sendFails =>
    refine ⟨⟨?_, h.2.handlersSettled received outcome sendFails⟩, rfl⟩
    simp only [Jsonl.step, Jsonl.handlersSettled]
    split
    · exact h.1
    · split_ifs
      · exact h.1.of_remote
      · split
        · exact h.1.of_remote.respond
        · split
          exacts [h.1.of_remote, h.1.of_remote.respond]
  | timeout timeoutId =>
    simp only [Jsonl.step]
    split
    · exact ⟨h, rfl⟩
    · rename_i timer hfind
      obtain rfl : timer.timeoutId = timeoutId := by simpa using List.find?_some hfind
      rw [settlePending_fired h.1 (List.mem_of_find?_eq_some hfind)]
      exact h.settlePending _
  | transportError message =>
    simp only [Jsonl.step]
    split_ifs
    · exact ⟨h, trivial⟩
    · exact ⟨⟨h.1.rejectAllPending _, h.2⟩, trivial⟩
  | close =>
    refine ⟨⟨h.1.close, ?_⟩, rfl⟩
    simp only [Jsonl.step, Jsonl.close]
    split_ifs
    exacts [h.2, h.2]

/-- The bookkeeping says what becomes of every request. -/
lemma Kept.settledOnce (h : Kept c) : SettledOnce c where
  once promise hlt := by
    have hcount := h.1.counts promise
    rw [if_pos hlt] at hcount
    by_cases hpending : c.Pending promise
    · obtain ⟨pending, hmem, hpromise⟩ := hpending
      have hpos : 0 < c.pendingRequests.values.countP fun p => p.promise = promise :=
        List.countP_pos_iff.mpr ⟨pending, hmem, decide_eq_true hpromise⟩
      exact .inl ⟨⟨pending, hmem, hpromise⟩, by omega⟩
    · have hzero : c.pendingRequests.values.countP (fun p => p.promise = promise) = 0 :=
        List.countP_eq_zero.mpr fun p hp hpromise => hpending ⟨p, hp, of_decide_eq_true hpromise⟩
      exact .inr ⟨hpending, by omega⟩
  timers promise timeoutMs hms hne := by
    constructor
    · rintro ⟨timer, htimer, rfl⟩
      obtain ⟨pending, hget, htimeout⟩ := h.1.live timer htimer
      have hmem := OrderedMap.mem_values_iff.mpr ⟨_, hget⟩
      exact ⟨pending, hmem, (h.1.timeoutId_eq hmem htimeout).symm⟩
    · rintro ⟨pending, hmem, rfl⟩
      exact h.1.armed pending hmem _ (by rw [h.1.timeoutIds pending hmem timeoutMs hms, if_neg hne])
  closed := h.1.closed
  answers received := by
    have hcount := h.2 received
    split_ifs at hcount <;> omega

/-- The bookkeeping of a new client. -/
lemma Kept.new : Kept .new := by
  refine ⟨⟨fun _ => rfl, fun _ _ h => ?_, ?_, ?_, ?_, fun _ => rfl⟩, fun _ => le_rfl⟩
  · cases h
  all_goals exact fun _ h => absurd h List.not_mem_nil

/-- A step after a run. -/
lemma run_append (actions : List Action) (a : Action) :
    run numberText (actions ++ [a]) = (step numberText (run numberText actions) a).1 := by
  rw [run, List.foldl_append]
  rfl

/-- An unreadable step throws. -/
lemma step_of_unreadable (h : Unreadable numberText c a) : (step numberText c a).2 = true := by
  cases a with
  | message message sendFails =>
    obtain ⟨hopen, hmethod, hresult, id, key, error, hid, hkey, hget, herror, htext⟩ := h
    obtain ⟨pending, hget⟩ := Option.ne_none_iff_exists'.mp hget
    simp only [Jsonl.step, hopen, Bool.false_eq_true, if_false, Jsonl.handleMessage, hid, hmethod, hkey, hresult,
      herror, (rpcErrorText_eq_none_iff error).mpr htext, Option.map_none, Jsonl.settlePending, hget]
  | _ => exact h.elim

/-- **Every request is settled exactly once or still pending**, after every step of a run, and no message makes the
dispatch throw, exactly in the runs in which no message settles a pending request with an error that is `null` or whose
`code` or `message` has no text. -/
theorem settledOnce_along_iff (actions : List Action) :
    (∀ before a after, actions = before ++ a :: after →
      SettledOnce (run numberText (before ++ [a])) ∧ (step numberText (run numberText before) a).2 = false) ↔
      ∀ before a after, actions = before ++ a :: after → ¬Unreadable numberText (run numberText before) a := by
  constructor
  · intro h before a after heq hunreadable
    have hthrow := step_of_unreadable hunreadable
    rw [(h before a after heq).2] at hthrow
    cases hthrow
  · intro h
    have hkept : ∀ before after, actions = before ++ after → Kept (run numberText before) := by
      intro before
      induction before using List.reverseRecOn with
      | nil => exact fun _ _ => Kept.new
      | append_singleton before a ih =>
        intro after heq
        rw [List.append_assoc] at heq
        rw [run_append]
        exact ((ih _ heq).step (h before a after heq)).1
    intro before a after heq
    obtain ⟨hstep, hquiet⟩ := (hkept before _ heq).step (h before a after heq)
    exact ⟨run_append before a ▸ hstep.settledOnce, hquiet⟩

/-- A response with the error `null` takes its request out of the map, and throws before it settles it. -/
theorem null_error_unsettled :
    let requested := run (fun _ => "") [.request "ping" none none none]
    let response := Action.message (.obj [("id", .num 1), ("error", .null)]) false
    (step (fun _ => "") requested response).2 = true ∧ ¬SettledOnce (step (fun _ => "") requested response).1 := by
  refine ⟨by decide +kernel, fun h => ?_⟩
  rcases h.once 0 (by decide +kernel) with ⟨⟨pending, hmem, -⟩, -⟩ | ⟨-, hcount⟩
  · revert hmem
    have hnone : ∀ {l : List PendingJsonRpcRequest}, l.length = 0 → pending ∉ l := fun hl =>
      List.length_eq_zero_iff.mp hl ▸ List.not_mem_nil
    exact hnone (by decide +kernel)
  · exact absurd hcount (by decide +kernel)

end Makaio.Jsonl
