import Makaio.Foundations.Traced
import Makaio.Bus.Subject

set_option autoImplicit false

/-!
# Request handlers

A request handler works on a request context with four effectful operations: it sets or extends
the result, replaces the payload, and calls `next()` to run the rest of the dispatch chain.  A
handler is modelled by the sequence of operations it performs, and `executeLocalEntry`
(`methods/request/dispatch.ts`) by running that sequence over a given rest of the chain.

A handler awaits its `next()` call before it goes on; what a handler does concurrently with a call
it does not await is not modelled.

## Main definitions

* `BusError` — the errors of a request, `serializeError` — their form on the wire.
* `HandlerProgram` — what a handler does with its context.
* `runHandler`, `executeLocalEntry` — running a local handler.

## Main results

* `executeLocalEntry_unhandled` — a handler that leaves the request unhandled has run
  the rest of the chain, which left it unhandled too.
-/

namespace Makaio.Bus

open Foundations

/-! ### Errors -/

/-- The errors of a request. -/
inductive BusError
  /-- An error thrown by a handler. -/
  | thrown (message : String)
  /-- `NoHandlerError` -/
  | noHandler (subject : Key)
  /-- `LocalSubjectError` -/
  | localSubject (subject : Key)
  /-- `ConnectionLostError` -/
  | connectionLost (transportName : String)
  /-- `RequestError` -/
  | request (subject : String) (cause : BusError)
  /-- An error rebuilt from a response message. -/
  | remote (message : String) (code : Option String) (subject : Option Key)
  deriving DecidableEq

namespace BusError

/-- `NO_HANDLER_ERROR_CODE` -/
def noHandlerCode : String := "NO_HANDLER"

/-- `CONNECTION_LOST_ERROR_CODE` -/
def connectionLostCode : String := "CONNECTION_LOST"

/-- `error.message` -/
def message : BusError → String
  | thrown message => message
  | noHandler subject => "No handler registered for request subject \"" ++ subject ++ "\""
  | localSubject subject =>
    "Subject \"" ++ subject ++ "\" is local-only and cannot be invoked over a transport. " ++
      "Register a non-local handler on each node that needs to respond to this subject."
  | connectionLost transportName =>
    "Connection lost on transport \"" ++ transportName ++
      "\" — pending requests were rejected. This is retryable after reconnection."
  | request subject cause => "Request to \"" ++ subject ++ "\" failed: " ++ cause.message
  | remote message _ _ => message

/-- `error.code`, if the error has one. -/
def code? : BusError → Option String
  | noHandler _ => some noHandlerCode
  | connectionLost _ => some connectionLostCode
  | remote _ code _ => code
  | _ => none

/-- `error.subject`, if the error has one. -/
def subject? : BusError → Option Key
  | noHandler subject => some subject
  | localSubject subject => some subject
  | request subject _ => some subject
  | remote _ _ subject => subject
  | _ => none

/-- The error of a peer: what is left of an error after a response message.  The code of a
`RequestError` is the code of its cause. -/
def overTransport (error : BusError) : BusError :=
  let code := match error with
    | request _ cause => cause.code?
    | error => error.code?
  remote error.message code error.subject?

/-- Detects a "no handler" error for a specific request subject. -/
def isNoHandlerErrorForSubject (error : BusError) (fullSubject : Key) : Bool :=
  error.code? = some noHandlerCode && error.subject? = some fullSubject

/-- How a dispatch chain reports an error that left a local handler. -/
def wrap (subjectKey : String) : BusError → BusError
  | request subject cause => request subject cause
  | error => request subjectKey error

/-- A peer's answer that it has no handler is recognised by the sender. -/
lemma isNoHandlerErrorForSubject_overTransport (subject : Key) :
    (overTransport (noHandler subject)).isNoHandlerErrorForSubject subject = true := by
  simp [overTransport, isNoHandlerErrorForSubject, code?, subject?]

end BusError

/-! ### Handlers -/

/-- Object spread: `{ ...(hasResult ? resultValue : {}), ...extension }`. -/
class ObjectSpread (V : Type) where
  spread : Option V → V → V

/-- What a handler does with its request context. -/
inductive HandlerProgram (V : Type)
  /-- Return. -/
  | done
  /-- Throw. -/
  | fail (error : BusError)
  /-- `ctx.setResult(value)` -/
  | setResult (value : V) (rest : HandlerProgram V)
  /-- `ctx.extendResult(extension)` -/
  | extendResult (extension : V) (rest : HandlerProgram V)
  /-- `ctx.replacePayload(newPayload)` -/
  | replacePayload (newPayload : V) (rest : HandlerProgram V)
  /-- `await ctx.next()`, going on with `ctx.result` or with the rejection. -/
  | next (rest : Except BusError (Option V) → HandlerProgram V)

namespace HandlerProgram

variable {V : Type}

/-- The handler never throws. -/
def Finishes : HandlerProgram V → Prop
  | done => True
  | fail _ => False
  | setResult _ rest => rest.Finishes
  | extendResult _ rest => rest.Finishes
  | replacePayload _ rest => rest.Finishes
  | next rest => ∀ outcome, (rest outcome).Finishes

/-- The handler finishes without setting a result. -/
def Silent : HandlerProgram V → Prop
  | done => True
  | fail _ => False
  | setResult _ _ => False
  | extendResult _ _ => False
  | replacePayload _ rest => rest.Silent
  | next rest => ∀ outcome, (rest outcome).Silent

/-- A silent handler finishes. -/
lemma Silent.finishes {program : HandlerProgram V} (h : program.Silent) : program.Finishes := by
  induction program with
  | done => trivial
  | fail error => exact h
  | setResult value rest ih | extendResult extension rest ih => exact absurd h id
  | replacePayload newPayload rest ih => exact ih h
  | next rest ih => exact fun outcome => ih outcome (h outcome)

end HandlerProgram

/-- The variables of `executeLocalEntry`. -/
structure LocalState (V : Type) where
  /-- `hasResult` and `resultValue` -/
  result : Option V
  currentPayload : V
  /-- How the first `next()` call settled; none if there was no call. -/
  nextSettled : Option (Except BusError Unit)

/-- The variables once a `next()` call has settled: a downstream result counts only if the handler
has set none, and only the first call is remembered. -/
def LocalState.settleNext {V : Type} (s : LocalState V) :
    Except BusError (Option V) → LocalState V
  | .ok outcome => { s with
      result := s.result <|> outcome
      nextSettled := s.nextSettled <|> some (.ok ()) }
  | .error error => { s with nextSettled := s.nextSettled <|> some (.error error) }

section Execution

variable {τ V : Type} [ObjectSpread V]

/-- Run a handler over the rest of the chain, `stepDispatch` at `nextIndex`. -/
def runHandler (downstream : V → Traced τ BusError (Option V)) :
    HandlerProgram V → LocalState V → Traced τ BusError (LocalState V)
  | .done, s => .pure s
  | .fail error, _ => .throw error
  | .setResult value rest, s => runHandler downstream rest { s with result := some value }
  | .extendResult extension rest, s =>
    runHandler downstream rest { s with result := some (ObjectSpread.spread s.result extension) }
  | .replacePayload newPayload rest, s =>
    runHandler downstream rest { s with currentPayload := newPayload }
  | .next rest, s =>
    (downstream s.currentPayload).settle fun outcome =>
      let s' := s.settleNext outcome
      runHandler downstream (rest (outcome.map fun _ => s'.result)) s'

/-- The end of `executeLocalEntry`, once the handler has returned: a pending `next()` call is
awaited; without one and without a result, the entry advances by itself. -/
def finishLocalEntry (downstream : V → Traced τ BusError (Option V)) (s : LocalState V) :
    Traced τ BusError (Option V) :=
  match s.nextSettled with
  | some (.ok ()) => .pure s.result
  | some (.error error) => .throw error
  | none =>
    match s.result with
    | some value => .pure (some value)
    | none => downstream s.currentPayload

/-- Execute a single local handler. -/
def executeLocalEntry (subjectKey : String) (program : HandlerProgram V)
    (downstream : V → Traced τ BusError (Option V)) (payload : V) :
    Traced τ BusError (Option V) :=
  ((runHandler downstream program ⟨none, payload, none⟩).andThen
    (finishLocalEntry downstream)).mapError (BusError.wrap subjectKey)

variable {downstream : V → Traced τ BusError (Option V)} {program : HandlerProgram V} {subjectKey : String}

/-- **The invariant rule of a handler run**: what holds before, is kept by each operation of the
context and by each settled `next()` call, holds when the handler returns.  A `next()` call adds
its trace to the trace of the run. -/
lemma runHandler_invariant {T : List τ} (Inv : LocalState V → Prop)
    (hresult : ∀ s value, Inv s → Inv { s with result := some value })
    (hpayload : ∀ s newPayload, Inv s → Inv { s with currentPayload := newPayload })
    (hnext : ∀ s outcome, Inv s → (downstream s.currentPayload).ending = .ofExcept outcome →
      (downstream s.currentPayload).trace ⊆ T → Inv (s.settleNext outcome)) :
    ∀ {s s' : LocalState V}, (runHandler downstream program s).trace ⊆ T → Inv s →
      (runHandler downstream program s).ending = .value s' → Inv s' := by
  induction program with
  | done =>
    intro s s' _ hs h
    injection h with h
    exact h ▸ hs
  | fail error => intro s s' _ _ h; exact absurd h (by simp [runHandler])
  | setResult value rest ih => intro s s' hT hs h; exact ih hT (hresult s value hs) h
  | extendResult extension rest ih => intro s s' hT hs h; exact ih hT (hresult s _ hs) h
  | replacePayload newPayload rest ih => intro s s' hT hs h; exact ih hT (hpayload s _ hs) h
  | next rest ih =>
    intro s s' hT hs h
    rw [runHandler] at h hT
    obtain ⟨outcome, hend, hrest, htrace⟩ := Traced.exists_of_settle_eq (r := .ok s') h
    rw [htrace, List.append_subset] at hT
    exact ih _ hT.2 (hnext s outcome hs hend hT.1) hrest

variable {payload : V}

/-- If a local entry did end, its handler threw, or it returned and the entry finished. -/
lemma executeLocalEntry_cases {r : Except BusError (Option V)}
    (h : (executeLocalEntry subjectKey program downstream payload).ending = .ofExcept r) :
    (∃ error, (runHandler downstream program ⟨none, payload, none⟩).ending = .error error ∧
      r = .error (error.wrap subjectKey)) ∨
    ∃ s r', (runHandler downstream program ⟨none, payload, none⟩).ending = .value s ∧
      (finishLocalEntry downstream s).ending = .ofExcept r' ∧
      r = r'.mapError (BusError.wrap subjectKey) ∧
      (executeLocalEntry subjectKey program downstream payload).trace =
        (runHandler downstream program ⟨none, payload, none⟩).trace ++
          (finishLocalEntry downstream s).trace := by
  obtain ⟨r', hinner, hr⟩ := Traced.exists_of_mapError_eq h
  rcases Traced.exists_of_andThen_eq hinner with ⟨error, hrun, rfl⟩ | ⟨s, hrun, hfinish, htrace⟩
  · exact Or.inl ⟨error, hrun, hr⟩
  · exact Or.inr ⟨s, r', hrun, hfinish, hr, htrace⟩

/-- **An unhandled request has gone down the chain**: a local handler that leaves the request
unhandled has run the rest of the chain to its end, and that left it unhandled too.

**Proof sketch.** Either the handler called `next()`, and then the first call went through and its
outcome would have become the handler's result; or it did not, and the entry advances by
itself. -/
theorem executeLocalEntry_unhandled
    (h : (executeLocalEntry subjectKey program downstream payload).ending = .value none) :
    ∃ payload', (downstream payload').ending = .value none ∧
      (downstream payload').trace ⊆
        (executeLocalEntry subjectKey program downstream payload).trace := by
  rcases executeLocalEntry_cases (r := .ok none) h with
    ⟨error, -, hr⟩ | ⟨s, r', hrun, hfinish, hr, htrace⟩
  · cases hr
  obtain rfl : r' = .ok none := by
    cases r' with
    | ok outcome => exact hr.symm
    | error error => exact absurd hr (by simp [Except.mapError])
  rw [htrace]
  -- a call of `next()` that went through without a result
  have hinv := runHandler_invariant
    (T := (runHandler downstream program ⟨none, payload, none⟩).trace)
    (fun s => s.nextSettled = some (.ok ()) → s.result = none →
      ∃ payload', (downstream payload').ending = .value none ∧
        (downstream payload').trace ⊆
          (runHandler downstream program ⟨none, payload, none⟩).trace)
    (fun s value _ _ hres => nomatch hres) (fun s newPayload hs => hs)
    (fun s outcome hs hend hT hnext hres => ?_) (List.Subset.refl _) (fun hnext => absurd hnext
      (by simp)) hrun
  · cases hnext : s.nextSettled with
    | some settled =>
      cases settled with
      | error error => simp [finishLocalEntry, hnext] at hfinish
      | ok =>
        obtain ⟨payload', hend, hsub⟩ := hinv hnext (by
          simpa [finishLocalEntry, hnext] using hfinish)
        exact ⟨payload', hend, List.subset_append_of_subset_left _ hsub⟩
    | none =>
      cases hres : s.result with
      | some value => simp [finishLocalEntry, hnext, hres] at hfinish
      | none =>
        simp only [finishLocalEntry, hnext, hres] at hfinish ⊢
        exact ⟨s.currentPayload, hfinish, List.subset_append_right _ _⟩
  · cases outcome with
    | ok outcome =>
      have hnone : s.result = none ∧ outcome = none := by
        simpa [LocalState.settleNext] using hres
      exact ⟨s.currentPayload, by rw [hend, hnone.2]; rfl, hT⟩
    | error error =>
      refine hs ?_ hres
      cases hsettled : s.nextSettled with
      | none => simp [LocalState.settleNext, hsettled] at hnext
      | some settled => simpa [LocalState.settleNext, hsettled] using hnext

/-! ### Handlers that finish, and silent handlers -/

/-- A handler that finishes does not throw: rejections of `next()` are kept for later. -/
lemma runHandler_ne_error (hprogram : program.Finishes) :
    ∀ {s : LocalState V} {error : BusError},
      (runHandler downstream program s).ending ≠ .error error := by
  induction program with
  | done => intro s error h; exact absurd h (by simp [runHandler])
  | fail error => exact absurd hprogram id
  | setResult value rest ih | extendResult extension rest ih | replacePayload newPayload rest ih =>
    intro s error; exact ih hprogram
  | next rest ih =>
    intro s error h
    rw [runHandler] at h
    obtain ⟨outcome, -, hrest, -⟩ := Traced.exists_of_settle_eq (r := .error error) h
    exact ih _ (hprogram _) hrest

/-- If the handler of a rejected entry finishes, the rest of the chain was rejected. -/
theorem executeLocalEntry_error (hprogram : program.Finishes) {error : BusError}
    (h : (executeLocalEntry subjectKey program downstream payload).ending = .error error) :
    ∃ payload' error', (downstream payload').ending = .error error' ∧
      error = error'.wrap subjectKey := by
  rcases executeLocalEntry_cases (r := .error error) h with
    ⟨error', hrun, -⟩ | ⟨s, r', hrun, hfinish, hr, -⟩
  · exact absurd hrun (runHandler_ne_error hprogram)
  obtain ⟨error', rfl, herror⟩ : ∃ error', r' = .error error' ∧ error = error'.wrap subjectKey := by
    cases r' with
    | ok outcome => exact absurd hr (by simp [Except.mapError])
    | error error' => exact ⟨error', rfl, by simpa [Except.mapError] using hr⟩
  have hinv := runHandler_invariant
    (T := (runHandler downstream program ⟨none, payload, none⟩).trace)
    (fun s => ∀ error', s.nextSettled = some (.error error') →
      ∃ payload', (downstream payload').ending = .error error')
    (fun s value hs => hs) (fun s newPayload hs => hs)
    (fun s outcome hs hend _ error' hnext => ?_) (List.Subset.refl _)
    (fun error' hnext => nomatch hnext) hrun
  · cases hnext : s.nextSettled with
    | some settled =>
      cases settled with
      | ok => simp [finishLocalEntry, hnext] at hfinish
      | error error'' =>
        obtain rfl : error'' = error' := by simpa [finishLocalEntry, hnext] using hfinish
        obtain ⟨payload', hpayload'⟩ := hinv _ hnext
        exact ⟨payload', error'', hpayload', herror⟩
    | none =>
      cases hres : s.result with
      | some value => simp [finishLocalEntry, hnext, hres] at hfinish
      | none =>
        simp only [finishLocalEntry, hnext, hres] at hfinish
        exact ⟨s.currentPayload, error', hfinish, herror⟩
  · cases hsettled : s.nextSettled with
    | some settled =>
      refine hs error' ?_
      cases outcome <;> simpa [LocalState.settleNext, hsettled] using hnext
    | none =>
      cases outcome with
      | ok outcome => simp [LocalState.settleNext, hsettled] at hnext
      | error error'' =>
        obtain rfl : error'' = error' := by
          simpa [LocalState.settleNext, hsettled] using hnext
        exact ⟨s.currentPayload, hend⟩

/-- A chain that ended without a result: unhandled, or rejected. -/
def GivesUp (x : Traced τ BusError (Option V)) : Prop :=
  x.ending = .value none ∨ ∃ error, x.ending = .error error

omit [ObjectSpread V] in
/-- A chain that gave up has ended, without a result. -/
lemma GivesUp.exists_ending {x : Traced τ BusError (Option V)} (hx : GivesUp x) :
    ∃ r, x.ending = .ofExcept r ∧ ∀ value, r ≠ .ok (some value) := by
  rcases hx with hx | ⟨error, hx⟩
  · exact ⟨.ok none, hx, by simp⟩
  · exact ⟨.error error, hx, by simp⟩

/-- A silent handler over a chain that always gives up returns without a result. -/
lemma runHandler_silent_of_givesUp (hdown : ∀ payload, GivesUp (downstream payload))
    (hprogram : program.Silent) :
    ∀ {s : LocalState V}, s.result = none →
      ∃ s', (runHandler downstream program s).ending = .value s' ∧ s'.result = none := by
  induction program with
  | done => intro s hres; exact ⟨s, rfl, hres⟩
  | fail error | setResult value rest ih | extendResult extension rest ih => exact absurd hprogram id
  | replacePayload newPayload rest ih => intro s hres; exact ih hprogram hres
  | next rest ih =>
    intro s hres
    obtain ⟨r, hend, hr⟩ := (hdown s.currentPayload).exists_ending
    rw [runHandler, Traced.settle_of_settled hend]
    refine ih _ (hprogram _) ?_
    cases r with
    | error error => exact hres
    | ok outcome =>
      cases outcome with
      | none => simp [LocalState.settleNext, hres]
      | some value => exact absurd rfl (hr value)

/-- A silent handler over a chain that is always cut off is cut off at its first `next()` call. -/
lemma runHandler_silent_of_cutOff (hdown : ∀ payload, (downstream payload).ending = .cutOff)
    (hprogram : program.Silent) :
    ∀ {s : LocalState V}, (runHandler downstream program s).ending = .cutOff ∨
      ∃ s', (runHandler downstream program s).ending = .value s' ∧ s'.result = s.result ∧
        s'.nextSettled = s.nextSettled := by
  induction program with
  | done => intro s; exact Or.inr ⟨s, rfl, rfl, rfl⟩
  | fail error | setResult value rest ih | extendResult extension rest ih => exact absurd hprogram id
  | replacePayload newPayload rest ih =>
    intro s
    exact ih hprogram (s := { s with currentPayload := newPayload })
  | next rest ih =>
    intro s
    left
    rw [runHandler, Traced.settle_of_cutOff (hdown s.currentPayload)]

/-- **A silent handler passes on what the rest of the chain does**: it gives up if that always
gives up, … -/
theorem executeLocalEntry_silent_of_givesUp (hprogram : program.Silent)
    (hdown : ∀ payload, GivesUp (downstream payload)) (payload : V) :
    GivesUp (executeLocalEntry subjectKey program downstream payload) := by
  obtain ⟨s, hrun, hres⟩ := runHandler_silent_of_givesUp hdown hprogram
    (s := ⟨none, payload, none⟩) rfl
  have hfinish : GivesUp (finishLocalEntry downstream s) := by
    unfold finishLocalEntry
    cases hsettled : s.nextSettled with
    | none => simpa only [hres] using hdown s.currentPayload
    | some settled =>
      cases settled with
      | ok => exact Or.inl (by simp [hres])
      | error error => exact Or.inr ⟨error, rfl⟩
  unfold GivesUp executeLocalEntry
  rw [Traced.mapError, Traced.andThen, Traced.settle_of_settled (r := .ok s) hrun]
  rcases hfinish with h | ⟨error, h⟩
  · exact Or.inl (by simp only [h])
  · exact Or.inr ⟨error.wrap subjectKey, by simp only [h]⟩

/-- … and cut off if that is always cut off. -/
theorem executeLocalEntry_silent_of_cutOff (hprogram : program.Silent)
    (hdown : ∀ payload, (downstream payload).ending = .cutOff) (payload : V) :
    (executeLocalEntry subjectKey program downstream payload).ending = .cutOff := by
  rw [executeLocalEntry, Traced.mapError, Traced.andThen]
  rcases runHandler_silent_of_cutOff hdown hprogram (s := ⟨none, payload, none⟩) with
    hrun | ⟨s, hrun, hres, hnext⟩
  · rw [Traced.settle_of_cutOff hrun]
  · rw [Traced.settle_of_settled (r := .ok s) hrun]
    simp only [finishLocalEntry, hnext, hres, hdown]

end Execution

end Makaio.Bus
