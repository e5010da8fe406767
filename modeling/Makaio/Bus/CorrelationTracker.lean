import Makaio.Foundations.Counting
import Makaio.Foundations.OrderedMap

set_option autoImplicit false

/-!
# Pending requests of a transport

`CorrelationTracker` keeps the pending requests of a transport under their correlation identifiers.  Responses,
timers and abort listeners look the request up when they come; a second request under the identifier of a pending
one takes its place, and then gets what was meant for the first.

## Main definitions

* `CorrelationTracker` — the tracker, with the timers and listeners it has set and the promises it has
  settled; `track`, `resolve`, `reject`, `cancel`, `rejectAll` — its methods; `elapse`, `abort` — its callbacks.
* `Ledger` — the promises alone: each is settled by the first event of its own.
* `TrackerRefines` — the tracker does what the ledger says.
* `FreshTracks` — no request is tracked under the identifier of a pending one.

## Main results

* `TrackerRefines.advance` — each event preserves the refinement, if it tracks no pending identifier.
* `isolated_iff` — promises are settled as the ledger says, and kept until then, in every state of a run
  exactly when no request is tracked under the identifier of a pending one.
* `not_isolated` — a request that is sent twice.
-/

namespace Makaio.Bus

open Foundations

variable {R E : Type}

/-- Why a promise is rejected: with a given error, by its timer, or by its signal. -/
inductive Rejection (E : Type)
  | given (error : E)
  | timeout (correlationId : String) (timeout : ℕ)
  | abort (reason : Option E)
  deriving DecidableEq

/-- What a promise is settled with. -/
inductive Outcome (R E : Type)
  | resolved (result : R)
  | rejected (error : Rejection E)
  deriving DecidableEq

/-- What happens to a tracker. -/
inductive TrackerEvent (R E : Type)
  | track (correlationId : String) (timeout : ℕ) (signal : Option ℕ)
  | resolve (correlationId : String) (result : R)
  | reject (correlationId : String) (error : E)
  | cancel (correlationId : String) (error : Option E)
  | rejectAll (error : E)
  /-- The time of a timer is up. -/
  | elapse (timer : ℕ)
  | abort (signal : ℕ) (reason : E)

/-! ### The tracker -/

/-- A pending request.  Promises, timers and abort listeners have the number of the call of `track` that made
them. -/
structure PendingRequest where
  promise : ℕ
  timeoutId : Option ℕ
  removeAbortListener : Option ℕ

/-- The tracker and what it has set. -/
structure CorrelationTracker (R E : Type) where
  pending : OrderedMap String PendingRequest
  /-- The timers that run, with the identifier and the timeout they were set for. -/
  timers : ℕ → Option (String × ℕ)
  /-- The listeners that are set, with their signal and the identifier they were set for. -/
  listeners : ℕ → Option (ℕ × String)
  /-- The signals that are aborted, with their reasons. -/
  aborted : ℕ → Option E
  settled : ℕ → Option (Outcome R E)
  /-- The number of calls of `track`. -/
  promises : ℕ

namespace CorrelationTracker

/-- A new tracker. -/
def empty : CorrelationTracker R E := ⟨.empty, fun _ => none, fun _ => none, fun _ => none, fun _ => none, 0⟩

/-- Settle a promise; a promise that is settled stays as it is. -/
def settlePromise (s : CorrelationTracker R E) (promise : ℕ) (outcome : Outcome R E) : CorrelationTracker R E :=
  { s with settled := Function.update s.settled promise ((s.settled promise).or (some outcome)) }

/-- Clear the timer and remove the listener of a request. -/
def release (s : CorrelationTracker R E) (request : PendingRequest) : CorrelationTracker R E :=
  { s with
    timers := fun n => if request.timeoutId = some n then none else s.timers n
    listeners := fun n => if request.removeAbortListener = some n then none else s.listeners n }

/-- Settle the request that is pending under an identifier, if there is one. -/
def settlePending (s : CorrelationTracker R E) (correlationId : String) (outcome : Outcome R E) :
    CorrelationTracker R E :=
  match s.pending.get? correlationId with
  | none => s
  | some request =>
    let s := s.release request
    { s with pending := s.pending.delete correlationId }.settlePromise request.promise outcome

/-- Track a pending request. -/
def track (s : CorrelationTracker R E) (correlationId : String) (timeout : ℕ) (signal : Option ℕ) :
    CorrelationTracker R E :=
  let promise := s.promises
  let s := { s with promises := promise + 1 }
  match signal.bind s.aborted with
  | some reason => s.settlePromise promise (.rejected (.abort (some reason)))
  | none =>
    let s := if timeout = 0 then s
      else { s with timers := Function.update s.timers promise (some (correlationId, timeout)) }
    let timeoutId := if timeout = 0 then none else some promise
    let s := { s with pending := s.pending.set correlationId ⟨promise, timeoutId, none⟩ }
    let s := match signal with
      | none => s
      | some signal => { s with
          listeners := Function.update s.listeners promise (some (signal, correlationId))
          pending := match s.pending.get? correlationId with
            | some request => s.pending.set correlationId { request with removeAbortListener := some promise }
            | none => s.pending }
    -- an abort between the first check and the listener
    match signal.bind s.aborted with
    | some reason => s.settlePending correlationId (.rejected (.abort (some reason)))
    | none => s

/-- Resolve a pending request. -/
def resolve (s : CorrelationTracker R E) (correlationId : String) (result : R) : CorrelationTracker R E :=
  s.settlePending correlationId (.resolved result)

/-- Reject a pending request. -/
def reject (s : CorrelationTracker R E) (correlationId : String) (error : Rejection E) : CorrelationTracker R E :=
  s.settlePending correlationId (.rejected error)

/-- Cancel a pending request. -/
def cancel (s : CorrelationTracker R E) (correlationId : String) (error : Option E) : CorrelationTracker R E :=
  s.reject correlationId ((error.map Rejection.given).getD (.abort none))

/-- Reject all pending requests; `cleanup` does this with the error of a disconnection. -/
def rejectAll (s : CorrelationTracker R E) (error : E) : CorrelationTracker R E :=
  let s := s.pending.entries.foldl (fun s e =>
    (s.release e.2).settlePromise e.2.promise (.rejected (.given error))) s
  { s with pending := .empty }

/-- The callback of a timer, if the timer still runs. -/
def elapse (s : CorrelationTracker R E) (timer : ℕ) : CorrelationTracker R E :=
  match s.timers timer with
  | none => s
  | some (correlationId, timeout) =>
    { s with timers := Function.update s.timers timer none }.settlePending correlationId
      (.rejected (.timeout correlationId timeout))

/-- The callback of a listener of a signal, if the listener is still set. -/
def onAbort (signal : ℕ) (reason : E) (s : CorrelationTracker R E) (listener : ℕ) : CorrelationTracker R E :=
  match s.listeners listener with
  | none => s
  | some (target, correlationId) =>
    if target = signal then
      { s with listeners := Function.update s.listeners listener none }.reject correlationId (.abort (some reason))
    else s

/-- A signal is aborted, once: its listeners are called in the order in which they were added. -/
def abort (s : CorrelationTracker R E) (signal : ℕ) (reason : E) : CorrelationTracker R E :=
  if (s.aborted signal).isSome then s
  else
    (List.range s.promises).foldl (onAbort signal reason)
      { s with aborted := Function.update s.aborted signal (some reason) }

/-- One event. -/
def advance (s : CorrelationTracker R E) : TrackerEvent R E → CorrelationTracker R E
  | .track correlationId timeout signal => s.track correlationId timeout signal
  | .resolve correlationId result => s.resolve correlationId result
  | .reject correlationId error => s.reject correlationId (.given error)
  | .cancel correlationId error => s.cancel correlationId error
  | .rejectAll error => s.rejectAll error
  | .elapse timer => s.elapse timer
  | .abort signal reason => s.abort signal reason

/-- The tracker after some events. -/
def run (events : List (TrackerEvent R E)) : CorrelationTracker R E := events.foldl advance empty

end CorrelationTracker

/-! ### The promises alone -/

/-- A call of `track` and what its promise is settled with. -/
structure TrackCall (R E : Type) where
  correlationId : String
  timeout : ℕ
  signal : Option ℕ
  outcome : Option (Outcome R E)

/-- What an event of its own settles the promise of a call with: a response under its identifier, its timer, or its
signal. -/
def TrackCall.ownOutcome (promise : ℕ) (call : TrackCall R E) : TrackerEvent R E → Option (Outcome R E)
  | .track _ _ _ => none
  | .resolve correlationId result => if correlationId = call.correlationId then some (.resolved result) else none
  | .reject correlationId error =>
    if correlationId = call.correlationId then some (.rejected (.given error)) else none
  | .cancel correlationId error =>
    if correlationId = call.correlationId then some (.rejected ((error.map Rejection.given).getD (.abort none)))
    else none
  | .rejectAll error => some (.rejected (.given error))
  | .elapse timer =>
    if timer = promise ∧ call.timeout ≠ 0 then some (.rejected (.timeout call.correlationId call.timeout)) else none
  | .abort signal reason => if call.signal = some signal then some (.rejected (.abort (some reason))) else none

/-- The calls of `track`, and the aborted signals. -/
structure Ledger (R E : Type) where
  calls : List (TrackCall R E)
  aborted : ℕ → Option E

namespace Ledger

/-- No calls. -/
def empty : Ledger R E := ⟨[], fun _ => none⟩

/-- Settle the promises that are not settled. -/
def settle (l : Ledger R E) (outcome : ℕ → TrackCall R E → Option (Outcome R E)) : Ledger R E :=
  { l with calls := l.calls.mapIdx fun n call => { call with outcome := call.outcome.or (outcome n call) } }

/-- One event. -/
def advance (l : Ledger R E) (event : TrackerEvent R E) : Ledger R E :=
  match event with
  | .track correlationId timeout signal =>
    { l with calls := l.calls ++ [⟨correlationId, timeout, signal,
        (signal.bind l.aborted).map fun reason => .rejected (.abort (some reason))⟩] }
  | .abort signal reason =>
    if (l.aborted signal).isSome then l
    else
      { l with aborted := Function.update l.aborted signal (some reason) }.settle
        fun n call => call.ownOutcome n event
  | _ => l.settle fun n call => call.ownOutcome n event

/-- The ledger after some events. -/
def run (events : List (TrackerEvent R E)) : Ledger R E := events.foldl advance empty

/-- What a promise is settled with. -/
def outcome (l : Ledger R E) (promise : ℕ) : Option (Outcome R E) := l.calls[promise]?.bind TrackCall.outcome

/-- The call of a promise that is not settled. -/
def open? (l : Ledger R E) (promise : ℕ) : Option (TrackCall R E) :=
  l.calls[promise]?.filter fun call => call.outcome.isNone

end Ledger

/-! ### The property -/

/-- Promises are settled as the ledger says, and those that are not settled are kept. -/
structure Isolated (s : CorrelationTracker R E) (l : Ledger R E) : Prop where
  settled : ∀ promise, s.settled promise = l.outcome promise
  kept : ∀ promise call, l.open? promise = some call →
    ∃ request, s.pending.get? call.correlationId = some request ∧ request.promise = promise

/-- No request is tracked under the identifier of a pending one, unless its signal is aborted. -/
def FreshTracks (events : List (TrackerEvent R E)) : Prop :=
  ∀ done correlationId timeout signal, done ++ [.track correlationId timeout signal] <+: events →
    (signal.bind (CorrelationTracker.run done).aborted).isSome ∨
      (CorrelationTracker.run done).pending.get? correlationId = none

/-! ### The ledger -/

variable {call : TrackCall R E} {request : PendingRequest} {signal : Option ℕ}

namespace Ledger

variable {l : Ledger R E}

lemma calls_settle (f : ℕ → TrackCall R E → Option (Outcome R E)) (promise : ℕ) :
    (l.settle f).calls[promise]? =
      l.calls[promise]?.map fun call => { call with outcome := call.outcome.or (f promise call) } :=
  List.getElem?_mapIdx ..

@[simp] lemma length_settle (f : ℕ → TrackCall R E → Option (Outcome R E)) :
    (l.settle f).calls.length = l.calls.length :=
  List.length_mapIdx ..

@[simp] lemma aborted_settle (f : ℕ → TrackCall R E → Option (Outcome R E)) : (l.settle f).aborted = l.aborted :=
  rfl

variable {promise : ℕ}

lemma open?_eq_some :
    l.open? promise = some call ↔ l.calls[promise]? = some call ∧ call.outcome = none := by
  simp [open?, Option.filter_eq_some_iff]

/-- The calls that are still open when some are settled. -/
lemma open?_settle (f : ℕ → TrackCall R E → Option (Outcome R E)) (promise : ℕ) :
    (l.settle f).open? promise =
      (l.open? promise).bind fun call => if (f promise call).isNone then some call else none := by
  rw [open?, open?, calls_settle]
  cases l.calls[promise]? with
  | none => rfl
  | some call =>
    obtain ⟨correlationId, timeout, signal, outcome⟩ := call
    cases outcome with
    | none => cases hf : f promise ⟨correlationId, timeout, signal, none⟩ <;> simp [Option.filter, hf]
    | some outcome => simp [Option.filter]

/-- The outcomes when some calls are settled. -/
lemma outcome_settle (f : ℕ → TrackCall R E → Option (Outcome R E)) (promise : ℕ) :
    (l.settle f).outcome promise = (l.outcome promise).or ((l.open? promise).bind (f promise)) := by
  rw [outcome, outcome, open?, calls_settle]
  cases l.calls[promise]? with
  | none => rfl
  | some call =>
    cases h : call.outcome <;> simp [Option.filter, h]

/-- An open call has no outcome. -/
lemma outcome_of_open (h : l.open? promise = some call) : l.outcome promise = none := by
  obtain ⟨hcall, hnone⟩ := open?_eq_some.mp h
  rw [outcome, hcall, Option.bind_some, hnone]

lemma lt_of_open (h : l.open? promise = some call) : promise < l.calls.length :=
  (List.getElem?_eq_some_iff.mp (open?_eq_some.mp h).1).1

/-- The open calls after another call. -/
lemma open?_concat (l : Ledger R E) (call : TrackCall R E) (n : ℕ) :
    ({ l with calls := l.calls ++ [call] } : Ledger R E).open? n =
      if n = l.calls.length ∧ call.outcome = none then some call else l.open? n := by
  rw [open?, open?, getElem?_concat]
  split_ifs with hn hcall hcall
  · simp [Option.filter, hcall.2]
  · obtain ⟨outcome, houtcome⟩ := Option.ne_none_iff_exists'.mp fun h => hcall ⟨hn, h⟩
    simp [Option.filter, houtcome, hn]
  · exact absurd hcall.1 hn
  · rfl

/-- The outcomes after another call. -/
lemma outcome_concat (l : Ledger R E) (call : TrackCall R E) (n : ℕ) :
    ({ l with calls := l.calls ++ [call] } : Ledger R E).outcome n =
      if n = l.calls.length then call.outcome else l.outcome n := by
  rw [outcome, outcome, getElem?_concat]
  split_ifs <;> rfl

end Ledger

/-! ### The tracker does what the ledger says -/

/-- The entry of an open call. -/
def TrackCall.entry (promise : ℕ) (call : TrackCall R E) : PendingRequest where
  promise := promise
  timeoutId := if call.timeout = 0 then none else some promise
  removeAbortListener := call.signal.map fun _ => promise

/-- The tracker has the entries, timers and listeners of the open calls, and has settled the others. -/
structure TrackerRefines (s : CorrelationTracker R E) (l : Ledger R E) : Prop where
  promises : s.promises = l.calls.length
  aborted : s.aborted = l.aborted
  settled : ∀ promise, s.settled promise = l.outcome promise
  pending : ∀ correlationId request, s.pending.get? correlationId = some request ↔
    ∃ call, l.open? request.promise = some call ∧ call.correlationId = correlationId ∧
      request = call.entry request.promise
  timers : ∀ n, s.timers n = (l.open? n).bind fun call =>
    if call.timeout = 0 then none else some (call.correlationId, call.timeout)
  listeners : ∀ n, s.listeners n = (l.open? n).bind fun call =>
    call.signal.map fun signal => (signal, call.correlationId)

namespace TrackerRefines

variable {s : CorrelationTracker R E} {l l' : Ledger R E}

lemma empty : TrackerRefines (.empty : CorrelationTracker R E) .empty where
  promises := rfl
  aborted := rfl
  settled _ := rfl
  pending _ _ := by simp [CorrelationTracker.empty, Ledger.empty, Ledger.open?]
  timers _ := rfl
  listeners _ := rfl

/-- Only the open calls, the outcomes and the aborted signals of a ledger matter. -/
lemma congr (h : TrackerRefines s l) (hlength : l'.calls.length = l.calls.length) (haborted : l'.aborted = l.aborted)
    (hopen : ∀ n, l'.open? n = l.open? n) (houtcome : ∀ n, l'.outcome n = l.outcome n) : TrackerRefines s l' where
  promises := by rw [hlength, h.promises]
  aborted := by rw [haborted, h.aborted]
  settled n := by rw [houtcome, h.settled]
  pending correlationId request := by rw [hopen, h.pending]
  timers n := by rw [hopen, h.timers]
  listeners n := by rw [hopen, h.listeners]

variable {f : ℕ → TrackCall R E → Option (Outcome R E)} {correlationId : String}
variable {outcome : Outcome R E}

section

variable (h : TrackerRefines s l)
include h

/-- Settling no open call changes nothing. -/
lemma settle_nothing (hf : ∀ n call, l.open? n = some call → f n call = none) :
    TrackerRefines s (l.settle f) := by
  refine h.congr (by simp) rfl (fun n => ?_) fun n => ?_
  · rw [Ledger.open?_settle]
    cases hopen : l.open? n with
    | none => rfl
    | some call => simp [hf n call hopen]
  · rw [Ledger.outcome_settle]
    cases hopen : l.open? n with
    | none => simp
    | some call => simp [hf n call hopen]

/-- An open call is pending. -/
lemma get?_of_open {n : ℕ} (hcall : l.open? n = some call) :
    s.pending.get? call.correlationId = some (call.entry n) :=
  (h.pending _ _).mpr ⟨call, hcall, rfl, rfl⟩

/-- No two open calls have one identifier. -/
lemma unique {n m : ℕ} {call' : TrackCall R E} (hcall : l.open? n = some call)
    (hcall' : l.open? m = some call') (heq : call.correlationId = call'.correlationId) : n = m := by
  have hget := h.get?_of_open hcall
  rw [heq, h.get?_of_open hcall', Option.some.injEq] at hget
  exact (congrArg PendingRequest.promise hget).symm

/-- Promises are settled as the ledger says, and kept until then. -/
lemma isolated : Isolated s l where
  settled := h.settled
  kept _ _ hcall := ⟨_, h.get?_of_open hcall, rfl⟩

/-- Settling what is pending under an identifier settles the open call of that identifier. -/
lemma settlePending (hf : ∀ n call, l.open? n = some call →
      f n call = if call.correlationId = correlationId then some outcome else none) :
    TrackerRefines (s.settlePending correlationId outcome) (l.settle f) := by
  rw [CorrelationTracker.settlePending]
  cases hget : s.pending.get? correlationId with
  | none =>
    refine h.settle_nothing fun n call hcall => ?_
    rw [hf n call hcall, if_neg]
    rintro rfl
    rw [h.get?_of_open hcall] at hget
    cases hget
  | some request =>
    obtain ⟨call, hcall, rfl, hrequest⟩ := (h.pending _ _).mp hget
    generalize request.promise = promise at hcall hrequest
    subst hrequest
    have hclosed : ∀ n, (l.settle f).open? n = if n = promise then none else l.open? n := by
      intro n
      rw [Ledger.open?_settle]
      split_ifs with heq
      · rw [heq, hcall]
        simp [hf promise call hcall]
      · cases hopen : l.open? n with
        | none => rfl
        | some other =>
          have hid : ¬other.correlationId = call.correlationId := fun hid => heq (h.unique hopen hcall hid)
          simp [hf n other hopen, hid]
    have houtcome : ∀ n, (l.settle f).outcome n = if n = promise then some outcome else l.outcome n := by
      intro n
      rw [Ledger.outcome_settle]
      split_ifs with heq
      · rw [heq, hcall, Ledger.outcome_of_open hcall]
        simp [hf promise call hcall]
      · cases hopen : l.open? n with
        | none => simp
        | some other =>
          have hid : ¬other.correlationId = call.correlationId := fun hid => heq (h.unique hopen hcall hid)
          simp [hf n other hopen, hid]
    refine ⟨by simp [CorrelationTracker.settlePromise, CorrelationTracker.release, h.promises],
      by simp [CorrelationTracker.settlePromise, CorrelationTracker.release, h.aborted], fun n => ?_,
      fun id request => ?_, fun n => ?_, fun n => ?_⟩
    · rw [houtcome]
      dsimp only [CorrelationTracker.settlePromise]
      rcases eq_or_ne n promise with rfl | hne
      · simp [CorrelationTracker.release, TrackCall.entry, h.settled, Ledger.outcome_of_open hcall]
      · simp [CorrelationTracker.release, TrackCall.entry, hne, h.settled]
    · have hpending : (s.pending.delete call.correlationId).get? id = some request ↔
          id ≠ call.correlationId ∧ s.pending.get? id = some request := by
        rw [OrderedMap.get?_delete]
        split_ifs with heq <;> simp [heq]
      refine hpending.trans ?_
      rw [h.pending, hclosed]
      constructor
      · rintro ⟨hne, other, hother, rfl, heq⟩
        refine ⟨other, ?_, rfl, heq⟩
        rw [if_neg, hother]
        rintro hpromise
        rw [hpromise, hcall, Option.some.injEq] at hother
        exact hne (congrArg _ hother.symm)
      · rintro ⟨other, hother, rfl, heq⟩
        split_ifs at hother with hpromise
        exact ⟨fun hid => hpromise (h.unique hother hcall hid), other, hother, rfl, heq⟩
    · rw [hclosed]
      dsimp only [CorrelationTracker.settlePromise, CorrelationTracker.release, TrackCall.entry]
      rcases eq_or_ne n promise with rfl | hne
      · by_cases htimeout : call.timeout = 0 <;> simp [htimeout, h.timers, hcall]
      · have hother : ¬(if call.timeout = 0 then none else some promise) = some n := by
          split_ifs <;> simp [hne.symm]
        rw [if_neg hother, if_neg hne, h.timers]
    · rw [hclosed]
      dsimp only [CorrelationTracker.settlePromise, CorrelationTracker.release, TrackCall.entry]
      rcases eq_or_ne n promise with rfl | hne
      · cases hsignal : call.signal <;> simp [h.listeners, hcall, hsignal]
      · have hother : ¬(call.signal.map fun _ => promise) = some n := by
          cases call.signal <;> simp [hne.symm]
        rw [if_neg hother, if_neg hne, h.listeners]

/-! ### Events -/

/-- A request under a new identifier. -/
lemma track_fresh (hfresh : s.pending.get? correlationId = none) (timeout : ℕ)
    (hsignal : signal.bind s.aborted = none) :
    TrackerRefines (s.track correlationId timeout signal) (l.advance (.track correlationId timeout signal)) := by
  let call : TrackCall R E := ⟨correlationId, timeout, signal, none⟩
  have hledger : l.advance (.track correlationId timeout signal) = { l with calls := l.calls ++ [call] } := by
    rw [Ledger.advance, ← h.aborted, hsignal]
    rfl
  have hopen : ∀ n, ({ l with calls := l.calls ++ [call] } : Ledger R E).open? n =
      if n = l.calls.length then some call else l.open? n := by simp [Ledger.open?_concat, call]
  have houtcome : ∀ n, ({ l with calls := l.calls ++ [call] } : Ledger R E).outcome n = l.outcome n := by
    intro n
    rw [Ledger.outcome_concat]
    split_ifs with hn
    · simp [hn, call, Ledger.outcome]
    · rfl
  -- no open call has the number or the identifier of the new one
  have hnew : ∀ n other, l.open? n = some other → n ≠ l.calls.length ∧ other.correlationId ≠ correlationId := by
    intro n other hother
    refine ⟨(Ledger.lt_of_open hother).ne, ?_⟩
    rintro rfl
    rw [h.get?_of_open hother] at hfresh
    cases hfresh
  have hnone : l.open? l.calls.length = none := by
    by_contra hsome
    obtain ⟨other, hother⟩ := Option.ne_none_iff_exists'.mp hsome
    exact (hnew _ other hother).1 rfl
  have hpending : ∀ id request, (if id = correlationId then some (call.entry s.promises) else s.pending.get? id) =
      some request ↔ ∃ other, (if request.promise = l.calls.length then some call else l.open? request.promise) =
        some other ∧ other.correlationId = id ∧ request = other.entry request.promise := by
    intro id request
    rw [h.promises]
    split_ifs with hid hpromise hpromise
    · rw [Option.some.injEq]
      constructor
      · rintro rfl
        exact ⟨call, rfl, hid.symm, by rw [hpromise]⟩
      · rintro ⟨other, hother, -, heq⟩
        rw [heq, hpromise, ← Option.some.inj hother]
    · constructor
      · intro heq
        exact absurd (congrArg PendingRequest.promise (Option.some.inj heq)).symm hpromise
      · rintro ⟨other, hother, heq, -⟩
        exact absurd (heq.trans hid) (hnew _ other hother).2
    · rw [h.pending]
      constructor
      · rintro ⟨other, hother, -, -⟩
        exact absurd hpromise (hnew _ other hother).1
      · rintro ⟨other, hother, heq, -⟩
        rw [Option.some.injEq] at hother
        exact absurd (heq.symm.trans (congrArg TrackCall.correlationId hother).symm) hid
    · rw [h.pending]
  rw [hledger, CorrelationTracker.track]
  refine ⟨?_, ?_, fun n => ?_, fun id request => ?_, fun n => ?_, fun n => ?_⟩
  · by_cases htimeout : timeout = 0 <;> cases signal <;> simp_all [h.promises]
  · by_cases htimeout : timeout = 0 <;> cases signal <;> simp_all [h.aborted]
  · by_cases htimeout : timeout = 0 <;> cases signal <;> simp_all [h.settled]
  · rw [hopen, ← hpending]
    by_cases htimeout : timeout = 0 <;> cases signal <;>
      simp_all [OrderedMap.get?_set, call, TrackCall.entry]
  · have htimers := h.timers n
    rw [hopen]
    clear hledger hopen houtcome hpending
    rcases eq_or_ne n l.calls.length with rfl | hne
    · by_cases htimeout : timeout = 0 <;> cases signal <;> simp_all [h.promises, call]
    · by_cases htimeout : timeout = 0 <;> cases signal <;> simp_all [h.promises]
  · have hlisteners := h.listeners n
    rw [hopen]
    clear hledger hopen houtcome hpending
    rcases eq_or_ne n l.calls.length with rfl | hne
    · by_cases htimeout : timeout = 0 <;> cases signal <;> simp_all [h.promises, call]
    · by_cases htimeout : timeout = 0 <;> cases signal <;> simp_all [h.promises]

/-- A request whose signal is aborted is settled at once. -/
lemma track_aborted (correlationId : String) (timeout : ℕ) {reason : E}
    (hsignal : signal.bind s.aborted = some reason) :
    TrackerRefines (s.track correlationId timeout signal) (l.advance (.track correlationId timeout signal)) := by
  let call : TrackCall R E := ⟨correlationId, timeout, signal, some (.rejected (.abort (some reason)))⟩
  have hledger : l.advance (.track correlationId timeout signal) = { l with calls := l.calls ++ [call] } := by
    rw [Ledger.advance, ← h.aborted, hsignal]
    rfl
  have hopen : ∀ n, ({ l with calls := l.calls ++ [call] } : Ledger R E).open? n = l.open? n := by
    simp [Ledger.open?_concat, call]
  have hnone : l.outcome l.calls.length = none := by simp [Ledger.outcome]
  rw [hledger, CorrelationTracker.track]
  simp only [hsignal]
  refine ⟨by simp [CorrelationTracker.settlePromise, h.promises], h.aborted, fun n => ?_, fun id request => ?_,
    fun n => ?_, fun n => ?_⟩
  · have hsettled := h.settled n
    dsimp only [CorrelationTracker.settlePromise]
    rw [h.promises, Ledger.outcome_concat]
    split_ifs with hn
    · subst hn
      simp [hsettled, hnone, call]
    · rw [Function.update_of_ne hn, hsettled]
  · rw [hopen]
    exact h.pending id request
  · rw [hopen]
    exact h.timers n
  · rw [hopen]
    exact h.listeners n

end

/-- Clearing twice is clearing once. -/
lemma clear_update {α : Type} {held : Option ℕ} {id : ℕ} (h : held = some id) (f : ℕ → Option α) :
    (fun n => if held = some n then none else Function.update f id none n) =
      fun n => if held = some n then none else f n := by
  funext n
  rcases eq_or_ne n id with rfl | hne
  · rw [if_pos h, if_pos h]
  · rw [Function.update_of_ne hne]

/-- Clearing the timer of a pending request first makes no difference. -/
lemma settlePending_timer {timer : ℕ} (hget : s.pending.get? correlationId = some request)
    (htimer : request.timeoutId = some timer) (outcome : Outcome R E) :
    { s with timers := Function.update s.timers timer none }.settlePending correlationId outcome =
      s.settlePending correlationId outcome := by
  simp only [CorrelationTracker.settlePending, hget, CorrelationTracker.release, clear_update htimer]

/-- The same for its abort listener. -/
lemma settlePending_listener {listener : ℕ} (hget : s.pending.get? correlationId = some request)
    (hlistener : request.removeAbortListener = some listener) (outcome : Outcome R E) :
    { s with listeners := Function.update s.listeners listener none }.settlePending correlationId outcome =
      s.settlePending correlationId outcome := by
  simp only [CorrelationTracker.settlePending, hget, CorrelationTracker.release, clear_update hlistener]

/-- Settling the open call of one number settles what is pending under its identifier. -/
lemma settlePending_of_open (h : TrackerRefines s l) {m : ℕ} (hcall : l.open? m = some call)
    (hself : f m call = some outcome) (hother : ∀ n other, n ≠ m → l.open? n = some other → f n other = none) :
    TrackerRefines (s.settlePending call.correlationId outcome) (l.settle f) := by
  refine h.settlePending fun n other hopen => ?_
  rcases eq_or_ne n m with rfl | hne
  · cases hopen.symm.trans hcall
    rw [hself, if_pos rfl]
  · rw [hother n other hne hopen, if_neg fun hid => hne (h.unique hopen hcall hid)]

/-- A timer that still runs settles its own promise. -/
lemma elapse (h : TrackerRefines s l) (timer : ℕ) : TrackerRefines (s.elapse timer) (l.advance (.elapse timer)) := by
  have hadvance : l.advance (.elapse timer) = l.settle fun n call => call.ownOutcome n (.elapse timer) := rfl
  have htimer := h.timers timer
  rw [CorrelationTracker.elapse, hadvance]
  by_cases hset : ∃ call, l.open? timer = some call ∧ call.timeout ≠ 0
  · obtain ⟨call, hcall, htimeout⟩ := hset
    rw [hcall, Option.bind_some, if_neg htimeout] at htimer
    rw [htimer]
    dsimp only
    rw [settlePending_timer (h.get?_of_open hcall) (if_neg htimeout)]
    refine h.settlePending_of_open hcall (if_pos ⟨rfl, htimeout⟩) fun n other hne _ => ?_
    exact if_neg fun heq => hne heq.1.symm
  · have hnone : s.timers timer = none := by
      rw [htimer]
      cases hcall : l.open? timer with
      | none => rfl
      | some call =>
        rw [Option.bind_some, if_pos]
        by_contra htimeout
        exact hset ⟨call, hcall, htimeout⟩
    rw [hnone]
    refine h.settle_nothing fun n call hcall => if_neg fun heq => hset ⟨call, ?_, heq.2⟩
    rw [heq.1, hcall]

/-- The listener of an open call settles its own promise. -/
lemma onAbort (h : TrackerRefines s l) (signal : ℕ) (reason : E) (m : ℕ) :
    TrackerRefines (CorrelationTracker.onAbort signal reason s m)
      (l.settle fun n call => if n = m then call.ownOutcome n (.abort signal reason) else none) := by
  have hlistener := h.listeners m
  rw [CorrelationTracker.onAbort]
  cases hcall : l.open? m with
  | none =>
    rw [hcall, Option.bind_none] at hlistener
    rw [hlistener]
    refine h.settle_nothing fun n call hopen => if_neg fun heq => ?_
    rw [heq, hcall] at hopen
    cases hopen
  | some call =>
    rw [hcall, Option.bind_some] at hlistener
    have hnothing : call.signal ≠ some signal → TrackerRefines s
        (l.settle fun n call => if n = m then call.ownOutcome n (.abort signal reason) else none) := by
      intro hne
      refine h.settle_nothing fun n other hopen => ?_
      split_ifs with heq
      · rw [heq, hcall, Option.some.injEq] at hopen
        exact if_neg (hopen ▸ hne)
      · rfl
    cases hsignal : call.signal with
    | none =>
      rw [hsignal, Option.map_none] at hlistener
      rw [hlistener]
      exact hnothing (by simp [hsignal])
    | some target =>
      rw [hsignal, Option.map_some] at hlistener
      rw [hlistener]
      dsimp only
      split_ifs with htarget
      · have hentry : (call.entry m).removeAbortListener = some m := by simp [TrackCall.entry, hsignal]
        rw [CorrelationTracker.reject, settlePending_listener (h.get?_of_open hcall) hentry]
        refine h.settlePending_of_open hcall ?_ fun n other hne _ => if_neg hne
        rw [if_pos rfl, TrackCall.ownOutcome, hsignal, htarget, if_pos rfl]
      · exact hnothing (by simpa [hsignal] using htarget)

/-- Only what open calls are settled with matters. -/
lemma settle_congr {f g : ℕ → TrackCall R E → Option (Outcome R E)} (h : TrackerRefines s (l.settle f))
    (hfg : ∀ n call, l.open? n = some call → f n call = g n call) : TrackerRefines s (l.settle g) := by
  refine h.congr (by simp) rfl (fun n => ?_) fun n => ?_
  · rw [Ledger.open?_settle, Ledger.open?_settle]
    cases hopen : l.open? n with
    | none => rfl
    | some call => simp [hfg n call hopen]
  · rw [Ledger.outcome_settle, Ledger.outcome_settle]
    cases hopen : l.open? n with
    | none => simp
    | some call => simp [hfg n call hopen]

/-- Settling twice is settling once. -/
lemma settle_settle {f g : ℕ → TrackCall R E → Option (Outcome R E)} (h : TrackerRefines s ((l.settle f).settle g)) :
    TrackerRefines s (l.settle fun n call => (f n call).or (g n call)) := by
  refine h.congr (by simp) rfl (fun n => ?_) fun n => ?_
  · rw [Ledger.open?_settle, Ledger.open?_settle, Ledger.open?_settle]
    cases l.open? n with
    | none => rfl
    | some call => cases hf : f n call <;> simp [hf]
  · rw [Ledger.outcome_settle, Ledger.outcome_settle, Ledger.outcome_settle, Ledger.open?_settle]
    cases l.open? n with
    | none => simp
    | some call => cases hf : f n call <;> simp [hf]

/-- An abort settles the promises of its signal. -/
lemma abort (h : TrackerRefines s l) (signal : ℕ) (reason : E) :
    TrackerRefines (s.abort signal reason) (l.advance (.abort signal reason)) := by
  rw [CorrelationTracker.abort, Ledger.advance, h.aborted]
  split_ifs with haborted
  · exact h
  · have hstart : TrackerRefines { s with aborted := Function.update l.aborted signal (some reason) }
        { l with aborted := Function.update l.aborted signal (some reason) } :=
      ⟨h.promises, rfl, h.settled, h.pending, h.timers, h.listeners⟩
    -- after some of the listeners, the calls up to their number are settled
    have hrange : ∀ k, TrackerRefines ((List.range k).foldl (CorrelationTracker.onAbort signal reason)
        { s with aborted := Function.update l.aborted signal (some reason) })
        ({ l with aborted := Function.update l.aborted signal (some reason) }.settle fun n call =>
          if n < k then call.ownOutcome n (.abort signal reason) else none) := by
      intro k
      induction k with
      | zero => exact hstart.settle_nothing fun n call _ => if_neg (Nat.not_lt_zero n)
      | succ k ih =>
        rw [List.range_succ, List.foldl_concat]
        refine (ih.onAbort signal reason k).settle_settle.settle_congr fun n call _ => ?_
        rcases lt_trichotomy n k with hlt | rfl | hgt
        · rw [if_pos hlt, if_neg hlt.ne, if_pos (by omega), Option.or_none]
        · rw [if_neg (lt_irrefl n), if_pos rfl, if_pos (by omega), Option.none_or]
        · rw [if_neg (by omega), if_neg hgt.ne', if_neg (by omega), Option.none_or]
    refine (hrange s.promises).settle_congr fun n call hopen => if_pos ?_
    rw [h.promises]
    exact Ledger.lt_of_open hopen

/-- Rejecting all pending requests settles all open calls. -/
lemma rejectAll (h : TrackerRefines s l) (error : E) : TrackerRefines (s.rejectAll error) (l.advance (.rejectAll error)) := by
  have hadvance : l.advance (.rejectAll error) = l.settle fun _ _ => some (.rejected (.given error)) := rfl
  rw [hadvance, CorrelationTracker.rejectAll]
  -- what the loop over the entries does
  have hloop : ∀ (entries : List (String × PendingRequest)) (t : CorrelationTracker R E),
      let t' := entries.foldl (fun s e =>
        (s.release e.2).settlePromise e.2.promise (.rejected (.given error))) t
      t'.promises = t.promises ∧ t'.aborted = t.aborted ∧
      (∀ n, t'.settled n = (t.settled n).or
        (if ∃ e ∈ entries, e.2.promise = n then some (.rejected (.given error)) else none)) ∧
      (∀ n, t'.timers n = if ∃ e ∈ entries, e.2.timeoutId = some n then none else t.timers n) ∧
      ∀ n, t'.listeners n = if ∃ e ∈ entries, e.2.removeAbortListener = some n then none else t.listeners n := by
    intro entries
    induction entries with
    | nil => simp
    | cons e entries ih =>
      intro t
      obtain ⟨hpromises, haborted, hsettled, htimers, hlisteners⟩ :=
        ih ((t.release e.2).settlePromise e.2.promise (.rejected (.given error)))
      refine ⟨hpromises, haborted, fun n => ?_, fun n => ?_, fun n => ?_⟩
      · rw [List.foldl_cons, hsettled]
        simp only [List.exists_mem_cons_iff]
        rcases eq_or_ne e.2.promise n with rfl | hne
        · simp only [CorrelationTracker.settlePromise, CorrelationTracker.release, Function.update_self, true_or,
            if_true]
          cases t.settled e.2.promise <;> simp
        · simp only [CorrelationTracker.settlePromise, CorrelationTracker.release,
            Function.update_of_ne hne.symm, hne, false_or]
      · rw [List.foldl_cons, htimers]
        simp only [List.exists_mem_cons_iff, CorrelationTracker.settlePromise, CorrelationTracker.release]
        by_cases he : e.2.timeoutId = some n <;> by_cases hany : ∃ e ∈ entries, e.2.timeoutId = some n <;>
          simp only [he, hany, or_true, or_self, or_false, if_true, if_false, ite_self]
      · rw [List.foldl_cons, hlisteners]
        simp only [List.exists_mem_cons_iff, CorrelationTracker.settlePromise, CorrelationTracker.release]
        by_cases he : e.2.removeAbortListener = some n <;>
          by_cases hany : ∃ e ∈ entries, e.2.removeAbortListener = some n <;>
          simp only [he, hany, or_true, or_self, or_false, if_true, if_false, ite_self]
  obtain ⟨hpromises, haborted, hsettled, htimers, hlisteners⟩ := hloop s.pending.entries s
  -- an open call has an entry
  have hentry : ∀ n call, l.open? n = some call → (call.correlationId, call.entry n) ∈ s.pending.entries :=
    fun n call hcall => OrderedMap.mem_entries_iff.mpr (h.get?_of_open hcall)
  have hopen : ∀ e ∈ s.pending.entries, ∃ call, l.open? e.2.promise = some call ∧ e.2 = call.entry e.2.promise := by
    intro e he
    obtain ⟨call, hcall, -, heq⟩ := (h.pending e.1 e.2).mp (OrderedMap.mem_entries_iff.mp he)
    exact ⟨call, hcall, heq⟩
  have hclosed : ∀ n, (l.settle fun _ _ => some (.rejected (.given error))).open? n = none := by
    intro n
    rw [Ledger.open?_settle]
    cases l.open? n <;> rfl
  refine ⟨by simpa [hpromises] using h.promises, by simpa [haborted] using h.aborted, fun n => ?_,
    fun id request => ?_, fun n => ?_, fun n => ?_⟩
  · rw [hsettled, Ledger.outcome_settle, h.settled]
    congr 1
    cases hcall : l.open? n with
    | none =>
      rw [if_neg]
      · rfl
      · rintro ⟨e, he, rfl⟩
        obtain ⟨call, hcall', -⟩ := hopen e he
        rw [hcall] at hcall'
        cases hcall'
    | some call => rw [if_pos ⟨_, hentry n call hcall, rfl⟩, Option.bind_some]
  · simp [hclosed]
  · rw [htimers, hclosed, h.timers]
    split_ifs with hany
    · rfl
    · cases hcall : l.open? n with
      | none => rfl
      | some call =>
        rw [Option.bind_some, if_pos, Option.bind_none]
        by_contra htimeout
        exact hany ⟨_, hentry n call hcall, if_neg htimeout⟩
  · rw [hlisteners, hclosed, h.listeners]
    split_ifs with hany
    · rfl
    · cases hcall : l.open? n with
      | none => rfl
      | some call =>
        cases hsignal : call.signal with
        | none => simp [hsignal]
        | some signal => exact absurd ⟨_, hentry n call hcall, by simp [TrackCall.entry, hsignal]⟩ hany

/-- An event for an identifier settles the open call of that identifier. -/
lemma respond (h : TrackerRefines s l) {event : TrackerEvent R E}
    (hown : ∀ n call, TrackCall.ownOutcome n call event =
      if correlationId = call.correlationId then some outcome else none) :
    TrackerRefines (s.settlePending correlationId outcome) (l.settle fun n call => call.ownOutcome n event) := by
  refine h.settlePending fun n call _ => ?_
  rw [hown]
  exact if_congr eq_comm rfl rfl

/-- **Each event** preserves that the tracker does what the ledger says, if it tracks no pending identifier. -/
theorem advance (h : TrackerRefines s l) (event : TrackerEvent R E)
    (hfresh : ∀ correlationId timeout signal, event = .track correlationId timeout signal →
      (signal.bind s.aborted).isSome ∨ s.pending.get? correlationId = none) :
    TrackerRefines (s.advance event) (l.advance event) := by
  cases event with
  | track correlationId timeout signal =>
    cases hsignal : signal.bind s.aborted with
    | some reason => exact h.track_aborted correlationId timeout hsignal
    | none =>
      have hnone := (hfresh correlationId timeout signal rfl).resolve_left (by simp [hsignal])
      exact h.track_fresh hnone timeout hsignal
  | resolve correlationId result | reject correlationId error | cancel correlationId error =>
    exact h.respond fun _ _ => rfl
  | rejectAll error => exact h.rejectAll error
  | elapse timer => exact h.elapse timer
  | abort signal reason => exact h.abort signal reason

/-- A run that tracks no pending identifier does what the ledger says. -/
lemma run {events : List (TrackerEvent R E)} (h : FreshTracks events) :
    TrackerRefines (CorrelationTracker.run events) (Ledger.run events) := by
  induction events using List.reverseRecOn with
  | nil => exact empty
  | append_singleton events event ih =>
    have hevents : FreshTracks events := fun done id timeout signal hdone =>
      h done id timeout signal (hdone.trans (List.prefix_append _ _))
    rw [CorrelationTracker.run, Ledger.run, List.foldl_concat, List.foldl_concat]
    refine (ih hevents).advance event fun id timeout signal heq => ?_
    exact h events id timeout signal (heq ▸ List.prefix_rfl)

end TrackerRefines

/-! ### The result -/

/-- A request under the identifier of a pending one takes its place: the first is not settled, and not kept. -/
lemma not_isolated_of_track {s : CorrelationTracker R E} {l : Ledger R E} (h : TrackerRefines s l)
    {correlationId : String} {timeout : ℕ} (hsignal : signal.bind s.aborted = none)
    (hget : s.pending.get? correlationId = some request) :
    ¬Isolated (s.track correlationId timeout signal) (l.advance (.track correlationId timeout signal)) := by
  intro hisolated
  obtain ⟨call, hcall, rfl, -⟩ := (h.pending _ _).mp hget
  have hlt := Ledger.lt_of_open hcall
  have hopen : (l.advance (.track call.correlationId timeout signal)).open? request.promise = some call := by
    rw [Ledger.advance, Ledger.open?, List.getElem?_append_left hlt]
    exact hcall
  obtain ⟨kept, hkept, hpromise⟩ := hisolated.kept _ _ hopen
  have hnew : kept.promise = s.promises := by
    rw [CorrelationTracker.track] at hkept
    simp only [hsignal] at hkept
    by_cases htimeout : timeout = 0 <;> cases signal <;> simp_all
    all_goals exact hpromise.symm.trans (congrArg PendingRequest.promise hkept).symm
  rw [hnew, h.promises] at hpromise
  exact hlt.ne hpromise.symm

/-- **Correlation isolation.**  In every state of a run, each promise is settled with the first event of its own,
and kept until then, exactly when the run never tracks a request under the identifier of a pending one.

**Proof sketch.** As long as no identifier is tracked twice at a time, the tracker refines the ledger; the first time
one is, the earlier request is lost. -/
theorem isolated_iff (events : List (TrackerEvent R E)) :
    (∀ done, done <+: events → Isolated (CorrelationTracker.run done) (Ledger.run done)) ↔ FreshTracks events := by
  constructor
  · intro h
    induction events using List.reverseRecOn with
    | nil => exact fun done _ _ _ hdone => by simp at hdone
    | append_singleton events event ih =>
      have hevents := ih fun done hdone => h done (hdone.trans (List.prefix_append _ _))
      intro done id timeout signal hdone
      rcases List.prefix_concat_iff.mp hdone with heq | hdone
      · obtain ⟨rfl, hlast⟩ := List.append_inj' heq rfl
        obtain rfl : TrackerEvent.track id timeout signal = event := by simpa using hlast
        have hrefines := TrackerRefines.run hevents
        by_contra hpending
        simp only [not_or, Bool.not_eq_true, Option.isSome_eq_false_iff, Option.isNone_iff_eq_none] at hpending
        obtain ⟨request, hget⟩ := Option.ne_none_iff_exists'.mp hpending.2
        have hlost := h (done ++ [.track id timeout signal]) List.prefix_rfl
        rw [CorrelationTracker.run, Ledger.run, List.foldl_concat, List.foldl_concat] at hlost
        exact not_isolated_of_track hrefines hpending.1 hget hlost
      · exact hevents done id timeout signal hdone
  · intro h done hdone
    refine (TrackerRefines.run fun earlier id timeout signal hearlier => ?_).isolated
    exact h earlier id timeout signal (hearlier.trans hdone)

/-- A request that is sent twice: the timer of the first settles the promise of the second, and the promise of the
first is never settled. -/
theorem not_isolated : ¬∀ (events : List (TrackerEvent Unit Unit)), Isolated (CorrelationTracker.run events)
    (Ledger.run events) := by
  intro h
  have hsettled := (h [.track "x" 1 none, .track "x" 2 none, .elapse 0]).settled 1
  revert hsettled
  decide

end Makaio.Bus
