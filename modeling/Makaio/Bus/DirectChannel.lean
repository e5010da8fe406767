import Makaio.Bus.Dispatch

set_option autoImplicit false

/-!
# Encrypted channels

A direct channel (`channel/direct-channel.ts`) carries encrypted envelopes over the bus.  Its request
handlers are registered behind a proxy, which decrypts the payload, hands the handler a context of
plaintext operations, and encrypts the result at the end.  The context is the bus's own context with
`setResult`, `extendResult`, `result` and `next` replaced.  `replacePayload` is not among them: a
handler that uses it puts its plaintext into the bus's context, and the rest of the chain gets it: the
next handler, or the next transport that is connected, if there is one.

Plaintexts are JSON values of an arbitrary type.  AES-GCM is a parameter; each encryption stands for
the one with the initialisation vector drawn at that point.

## Main definitions

* `Wire`, `Cipher` — what is on the bus, and the cipher.
* `proxyHandler` — the handler registered on the bus.
* `Sealed` — a run that passes on and returns envelopes only.
* `passesOn` — somebody stands behind the handler in the chain.
* `ForwardsReplaced` — the handler lets the chain go on after it replaced the payload.

## Main results

* `stepDispatch_passesOn` — who gets the payload of the rest of a chain.
* `proxyHandler_sealed_iff` — a run is sealed exactly if that does not happen, or nobody
  stands behind the handler.
* `proxyHandler_forwards_plaintext` — a handler that does it.
-/

namespace Makaio.Bus

open Foundations

/-- A value on the bus: an encrypted envelope, or anything else. -/
inductive Wire (J E : Type)
  | envelope (envelope : E)
  | plain (value : J)

/-- An encrypted envelope. -/
def Wire.IsEnvelope {J E : Type} : Wire J E → Prop
  | envelope _ => True
  | plain _ => False

instance {J E : Type} (w : Wire J E) : Decidable w.IsEnvelope :=
  match w with
  | .envelope _ => inferInstanceAs (Decidable True)
  | .plain _ => inferInstanceAs (Decidable False)

/-- AES-GCM under the shared key, with JSON serialisation.  The text is the additional data. -/
structure Cipher (J E : Type) where
  encrypt : String → J → E
  decrypt : String → E → Except BusError J
  /-- The error of decrypting something without the fields of an envelope. -/
  malformed : BusError

/-- Decrypt a value from the bus. -/
def Cipher.open {J E : Type} (cipher : Cipher J E) (aad : String) : Wire J E → Except BusError J
  | .envelope envelope => cipher.decrypt aad envelope
  | .plain _ => .error cipher.malformed

section Proxy

variable {J E : Type} [ObjectSpread J] (cipher : Cipher J E)

omit [ObjectSpread J] in
/-- What the handler sees of a settled `next()` call, and what is captured then. -/
def observeNext (resAad : String) (capturedResult : Option J) :
    Except BusError (Option (Wire J E)) → Except BusError (Option J) × Option J
  | .error error => (.error error, capturedResult)
  | .ok downstream =>
    match capturedResult, downstream with
    -- a result set before `next()` stays
    | some value, _ => (.ok (some value), some value)
    | none, none => (.ok none, none)
    | none, some downstream =>
      match cipher.open resAad downstream with
      | .ok value => (.ok (some value), some value)
      | .error error => (.error error, none)

/-- The handler's use of its context, in terms of the bus's context; `capturedResult` is what the
handler has set so far. -/
def wrapContext (resAad : String) :
    HandlerProgram J → (capturedResult : Option J) → HandlerProgram (Wire J E)
  | .done, capturedResult =>
    match capturedResult with
    | some value => .setResult (.envelope (cipher.encrypt resAad value)) .done
    | none => .done
  | .fail error, _ => .fail error
  | .setResult value rest, _ => wrapContext resAad rest (some value)
  | .extendResult extension rest, capturedResult =>
    wrapContext resAad rest (some (ObjectSpread.spread capturedResult extension))
  -- `...ctx`: the operation of the bus
  | .replacePayload newPayload rest, capturedResult =>
    .replacePayload (.plain newPayload) (wrapContext resAad rest capturedResult)
  | .next rest, capturedResult => .next fun outcome =>
    let (observed, capturedResult) := observeNext cipher resAad capturedResult outcome
    wrapContext resAad (rest observed) capturedResult

/-- The handler that `registerRequestHandler` puts on the bus. -/
def proxyHandler (channelId subject : String) (handler : J → HandlerProgram J)
    (payload : Wire J E) : HandlerProgram (Wire J E) :=
  match cipher.open (channelId ++ ":" ++ subject ++ ":req") payload with
  | .ok decryptedPayload =>
    wrapContext cipher (channelId ++ ":" ++ subject ++ ":res") (handler decryptedPayload) none
  | .error error => .fail error

/-! ### Who stands behind a handler -/

section Behind

variable {N H V : Type} [ObjectSpread V] {net : Network N H V} {node : N}
  {send : String → BusRequestMessage V → NetworkRun N H V V} {definition : SubjectDefinition}
  {merged rest : List (MergedEntry H)} {options : DispatchOptions}

/-- The rest of a chain passes a payload on: to a handler, or over a transport that is connected. -/
def passesOn (context : BusContext H) : (rest : List (MergedEntry H)) → Bool
  | [] => false
  | .localEntry _ :: _ => true
  | .remoteEntry route :: rest => context.transports.has route.transport || passesOn context rest

/-- **The rest of a chain that passes a payload on** gives it, as it is, to a handler or to a transport
before anything else happens, … -/
theorem stepDispatch_passesOn (h : passesOn (net.context node) rest = true) (index : ℕ) (payload : V)
    (firstTransportError : Option BusError) :
    (∃ entry run, stepDispatch net node send definition merged options rest index payload
        firstTransportError = .event (.invoke node entry payload) run) ∨
      ∃ transport cursor settled, stepDispatch net node send definition merged options rest index payload
        firstTransportError =
          (send transport (requestMessage definition payload cursor)).settle settled := by
  induction rest generalizing index firstTransportError with
  | nil => cases h
  | cons e rest ih =>
    cases e with
    | localEntry entry => exact Or.inl ⟨entry, _, rfl⟩
    | remoteEntry route =>
      rw [stepDispatch, executeRemoteEntry]
      by_cases hhas : (net.context node).transports.has route.transport = true
      · rw [if_pos hhas]
        exact Or.inr ⟨_, _, _, rfl⟩
      · rw [if_neg hhas]
        rw [passesOn, Bool.eq_false_iff.mpr hhas, Bool.false_or] at h
        exact ih h _ _

/-- … and any other rest of a chain gives it to nobody. -/
theorem trace_stepDispatch_of_not_passesOn (h : passesOn (net.context node) rest = false) (index : ℕ)
    (payload : V) (firstTransportError : Option BusError) :
    (stepDispatch net node send definition merged options rest index payload
      firstTransportError).trace = [] := by
  induction rest generalizing index firstTransportError with
  | nil => cases firstTransportError <;> rfl
  | cons e rest ih =>
    cases e with
    | localEntry entry => cases h
    | remoteEntry route =>
      obtain ⟨hhas, hrest⟩ := Bool.or_eq_false_iff.mp h
      rw [stepDispatch, executeRemoteEntry, if_neg (Bool.eq_false_iff.mp hhas)]
      exact ih hrest _ _

end Behind

/-! ### Letting the chain go on -/

/-- What matters of a handler run. -/
structure ChannelState (J : Type) where
  capturedResult : Option J
  /-- Whether `replacePayload` has been called. -/
  replaced : Bool
  /-- Whether `next` has been called. -/
  nextCalled : Bool

/-- The handler lets the chain go on after it replaced the payload: it calls `next()`, or it returns
without a result and without having called it.  `outcome` is how the rest of the chain settles on the
received payload. -/
def ForwardsReplaced (resAad : String) (outcome : Ending BusError (Option (Wire J E))) :
    HandlerProgram J → ChannelState J → Prop
  | .done, s => s.replaced = true ∧ s.capturedResult = none ∧ s.nextCalled = false
  | .fail _, _ => False
  | .setResult value rest, s =>
    ForwardsReplaced resAad outcome rest { s with capturedResult := some value }
  | .extendResult extension rest, s =>
    ForwardsReplaced resAad outcome rest
      { s with capturedResult := some (ObjectSpread.spread s.capturedResult extension) }
  | .replacePayload _ rest, s => ForwardsReplaced resAad outcome rest { s with replaced := true }
  | .next rest, s => s.replaced = true ∨
    match outcome with
    | .cutOff => False
    | .error error =>
      let (observed, capturedResult) := observeNext cipher resAad s.capturedResult (.error error)
      ForwardsReplaced resAad outcome (rest observed) ⟨capturedResult, s.replaced, true⟩
    | .value value =>
      let (observed, capturedResult) := observeNext cipher resAad s.capturedResult (.ok value)
      ForwardsReplaced resAad outcome (rest observed) ⟨capturedResult, s.replaced, true⟩

variable {cipher}

/-- At a call of `next()`: the payload has been replaced, or the chain has settled and the handler
goes on. -/
lemma forwardsReplaced_next {resAad : String} {outcome : Ending BusError (Option (Wire J E))}
    {rest : Except BusError (Option J) → HandlerProgram J} {s : ChannelState J} :
    ForwardsReplaced cipher resAad outcome (.next rest) s ↔ s.replaced = true ∨
      ∃ r, outcome = .ofExcept r ∧ ForwardsReplaced cipher resAad outcome
        (rest (observeNext cipher resAad s.capturedResult r).1)
        ⟨(observeNext cipher resAad s.capturedResult r).2, s.replaced, true⟩ := by
  conv_lhs => unfold ForwardsReplaced
  refine or_congr_right ?_
  cases outcome with
  | cutOff =>
    refine iff_of_false id ?_
    rintro ⟨r, hr, -⟩
    cases r <;> cases hr
  | error error =>
    refine ⟨fun h => ⟨.error error, rfl, h⟩, ?_⟩
    rintro ⟨r, hr, h⟩
    obtain rfl : Except.error error = r := Ending.ofExcept_inj.mp hr
    exact h
  | value value =>
    refine ⟨fun h => ⟨.ok value, rfl, h⟩, ?_⟩
    rintro ⟨r, hr, h⟩
    obtain rfl : Except.ok value = r := Ending.ofExcept_inj.mp hr
    exact h

end Proxy

/-! ### Sealed runs -/

section Runs

variable {J E : Type}

/-- A run whose trace holds the payloads passed on: all of them are envelopes, and so is the
result. -/
def Sealed (run : Traced (Wire J E) BusError (Option (Wire J E))) : Prop :=
  (∀ w ∈ run.trace, w.IsEnvelope) ∧ ∀ w, run.ending = .value (some w) → w.IsEnvelope

/-- The rest of the chain: `settles` says how it settles on a payload, and the payload is recorded if
somebody gets it (`passesOn`). -/
def recordPassed (passes : Bool) (settles : Wire J E → Ending BusError (Option (Wire J E)))
    (payload : Wire J E) : Traced (Wire J E) BusError (Option (Wire J E)) :=
  ⟨if passes then [payload] else [], settles payload⟩

variable {run : Traced (Wire J E) BusError (Option (Wire J E))} {l : LocalState (Wire J E)}
  {r : Except BusError (Option (Wire J E))}

/-- A sealed run after a payload has been passed on. -/
lemma sealed_event {payload : Wire J E} :
    Sealed (.event payload run) ↔ payload.IsEnvelope ∧ Sealed run := by
  simp [Sealed, and_assoc]

/-- A payload that is passed on is the first event. -/
lemma recordPassed_true (settles : Wire J E → Ending BusError (Option (Wire J E))) (payload : Wire J E) :
    recordPassed true settles payload = .event payload ⟨[], settles payload⟩ := rfl

/-- The error of a run does not matter. -/
lemma sealed_mapError (f : BusError → BusError) : Sealed (run.mapError f) ↔ Sealed run := by
  obtain ⟨trace, ending⟩ := run
  cases ending <;> simp [Sealed, Traced.mapError]

variable [ObjectSpread J] [ObjectSpread (Wire J E)]
  {settles : Wire J E → Ending BusError (Option (Wire J E))} {payload : Wire J E}

omit [ObjectSpread J] [ObjectSpread (Wire J E)] in
/-- The variables of the dispatch and the state of the handler belong together: until the payload is
replaced, every `next()` call settles as on the received payload. -/
structure Tracks (settles : Wire J E → Ending BusError (Option (Wire J E))) (payload : Wire J E)
    (l : LocalState (Wire J E)) (s : ChannelState J) : Prop where
  payload_isEnvelope : payload.IsEnvelope
  currentPayload : s.replaced = false → l.currentPayload = payload
  replaced : s.replaced = true → ¬ l.currentPayload.IsEnvelope
  nextSettled : l.nextSettled = none ↔ s.nextCalled = false
  result_none : s.nextCalled = false → l.result = none
  result : ∀ w, l.result = some w → settles payload = .value (some w)

omit [ObjectSpread J] [ObjectSpread (Wire J E)] in
/-- What the handler's context shows after a call of `next()` is the outcome of the call. -/
lemma Tracks.result_settleNext {s : ChannelState J} (h : Tracks settles payload l s)
    (hr : settles payload = .ofExcept r) : (r.map fun _ => (l.settleNext r).result) = r := by
  cases r with
  | error error => rfl
  | ok outcome =>
    cases hl : l.result with
    | none => simp [LocalState.settleNext, hl, Except.map]
    | some w =>
      have hsame := (h.result w hl).symm.trans hr
      rw [Ending.ofExcept_ok, Ending.value.injEq] at hsame
      simp [LocalState.settleNext, hl, Except.map, hsame]

omit [ObjectSpread J] [ObjectSpread (Wire J E)] in
/-- A call of `next()` that settled. -/
lemma Tracks.settleNext {s : ChannelState J} (h : Tracks settles payload l s)
    (hr : settles payload = .ofExcept r) (capturedResult : Option J) :
    Tracks settles payload (l.settleNext r) ⟨capturedResult, s.replaced, true⟩ := by
  have hsettled : (l.settleNext r).nextSettled ≠ none := by
    cases r <;> cases hl : l.nextSettled <;> simp [LocalState.settleNext, hl]
  have hpayload : (l.settleNext r).currentPayload = l.currentPayload := by
    cases r <;> rfl
  refine ⟨h.payload_isEnvelope, fun hreplaced => hpayload.trans (h.currentPayload hreplaced),
    fun hreplaced => hpayload ▸ h.replaced hreplaced, by simp [hsettled],
    fun hcalled => absurd hcalled (by simp), fun w hw => ?_⟩
  have hshown := h.result_settleNext hr
  cases r with
  | error error => exact h.result w hw
  | ok outcome =>
    rw [hw] at hshown
    exact hr.trans (congrArg Ending.ofExcept hshown.symm)

omit [ObjectSpread J] [ObjectSpread (Wire J E)] in
/-- The end of the entry: a handler that returned without a result lets the chain go on. -/
lemma sealed_finishLocalEntry {s : ChannelState J} (h : Tracks settles payload l s)
    (hsettles : ∀ p w, settles p = .value (some w) → w.IsEnvelope) :
    Sealed (finishLocalEntry (recordPassed true settles) l) ↔
      ¬ (s.replaced = true ∧ s.nextCalled = false) := by
  unfold finishLocalEntry
  cases hnext : l.nextSettled with
  | some settled =>
    have hcalled : s.nextCalled = true := by
      by_contra hfalse
      have hnone := h.nextSettled.mpr (by simpa using hfalse)
      rw [hnone] at hnext
      cases hnext
    cases settled with
    | ok => simpa [Sealed, hcalled] using fun w hw => hsettles _ w (h.result w hw)
    | error error => simp [Sealed, hcalled]
  | none =>
    have hcalled := h.nextSettled.mp hnext
    rw [h.result_none hcalled]
    simp only [recordPassed_true, hcalled, and_true]
    rw [sealed_event]
    have hrest : Sealed (⟨[], settles l.currentPayload⟩ :
        Traced (Wire J E) BusError (Option (Wire J E))) :=
      ⟨by simp, fun w hw => hsettles _ w hw⟩
    rw [and_iff_left hrest]
    cases hreplaced : s.replaced with
    | false => simpa [h.currentPayload hreplaced] using h.payload_isEnvelope
    | true => simpa using h.replaced hreplaced

omit [ObjectSpread J] [ObjectSpread (Wire J E)] in
/-- The encrypted result ends the entry. -/
lemma sealed_finishLocalEntry_encrypted (passes : Bool) (l : LocalState (Wire J E))
    (settles : Wire J E → Ending BusError (Option (Wire J E))) (envelope : E) :
    Sealed (finishLocalEntry (recordPassed passes settles)
      { l with result := some (.envelope envelope) }) := by
  unfold finishLocalEntry
  cases hnext : l.nextSettled with
  | none => simp [Sealed, Wire.IsEnvelope]
  | some settled => cases settled <;> simp [Sealed, Wire.IsEnvelope]

/-- A handler run behind which nobody stands is sealed: nothing is passed on, and the result is one of
the rest of the chain or encrypted. -/
lemma sealed_runHandler_of_not_passesOn (cipher : Cipher J E) (resAad : String)
    (hsettles : ∀ p w, settles p = .value (some w) → w.IsEnvelope) (program : HandlerProgram J) :
    ∀ (l : LocalState (Wire J E)) (capturedResult : Option J),
      (∀ w, l.result = some w → w.IsEnvelope) →
      Sealed ((runHandler (recordPassed false settles) (wrapContext cipher resAad program
        capturedResult) l).andThen (finishLocalEntry (recordPassed false settles))) := by
  induction program with
  | done =>
    intro l capturedResult hl
    cases capturedResult with
    | some value =>
      have hsealed := sealed_finishLocalEntry_encrypted false l settles (cipher.encrypt resAad value)
      simpa [wrapContext, runHandler, Traced.andThen] using hsealed
    | none =>
      have hsealed : Sealed (finishLocalEntry (recordPassed false settles) l) := by
        unfold finishLocalEntry
        split
        · simpa [Sealed] using hl
        · simp [Sealed]
        · split
          · next value hvalue => simpa [Sealed] using hl value hvalue
          · exact ⟨by simp [recordPassed], fun w hw => hsettles _ w hw⟩
      simpa [wrapContext, runHandler, Traced.andThen] using hsealed
  | fail error => exact fun l _ _ => by simp [wrapContext, runHandler, Traced.andThen, Sealed]
  | setResult value rest ih => exact fun l _ hl => ih l _ hl
  | extendResult extension rest ih => exact fun l _ hl => ih l _ hl
  | replacePayload newPayload rest ih =>
    exact fun l capturedResult hl => ih { l with currentPayload := .plain newPayload } capturedResult hl
  | next rest ih =>
    intro l capturedResult hl
    simp only [wrapContext, runHandler]
    rcases Traced.ending_cases (recordPassed false settles l.currentPayload) with hcut | ⟨r, hr⟩
    · rw [Traced.settle_of_cutOff hcut, Traced.andThen, Traced.settle_of_cutOff rfl]
      simp [Sealed, recordPassed]
    · rw [Traced.settle_of_settled hr]
      refine ih _ (l.settleNext r) _ fun w hw => ?_
      cases r with
      | error error => exact hl w hw
      | ok outcome =>
        cases hresult : l.result with
        | some value =>
          rw [LocalState.settleNext, hresult] at hw
          exact hl w (hresult.trans hw)
        | none =>
          rw [LocalState.settleNext, hresult] at hw
          obtain rfl : outcome = some w := hw
          exact hsettles _ w hr

/-- **A handler run is sealed** exactly if the handler does not let the chain go on after it replaced
the payload, where somebody stands behind it.

**Proof sketch.** Induction on what the handler does.  At `next()` the current payload is passed on; it
is an envelope as long as it has not been replaced, and then the rest of the chain settles as it does
on the received payload. -/
theorem sealed_runHandler_wrapContext (cipher : Cipher J E) (resAad : String)
    (hsettles : ∀ p w, settles p = .value (some w) → w.IsEnvelope) (program : HandlerProgram J) :
    ∀ (l : LocalState (Wire J E)) (s : ChannelState J), Tracks settles payload l s →
      (Sealed ((runHandler (recordPassed true settles) (wrapContext cipher resAad program
        s.capturedResult) l).andThen (finishLocalEntry (recordPassed true settles))) ↔
      ¬ ForwardsReplaced cipher resAad (settles payload) program s) := by
  induction program with
  | done =>
    intro l s h
    cases hcaptured : s.capturedResult with
    | none =>
      have hend := sealed_finishLocalEntry h hsettles
      simpa [wrapContext, ForwardsReplaced, hcaptured, runHandler, Traced.andThen] using hend
    | some value =>
      have hsealed := sealed_finishLocalEntry_encrypted true l settles (cipher.encrypt resAad value)
      simpa [wrapContext, ForwardsReplaced, hcaptured, runHandler, Traced.andThen] using hsealed
  | fail error =>
    intro l s h
    simp [wrapContext, runHandler, Traced.andThen, Sealed, ForwardsReplaced]
  | setResult value rest ih =>
    intro l s h
    exact ih l { s with capturedResult := some value } { h with }
  | extendResult extension rest ih =>
    intro l s h
    exact ih l { s with capturedResult := some (ObjectSpread.spread s.capturedResult extension) }
      { h with }
  | replacePayload newPayload rest ih =>
    intro l s h
    exact ih { l with currentPayload := .plain newPayload } { s with replaced := true }
      { h with
        currentPayload := fun hr => by cases hr
        replaced := fun _ hw => hw }
  | next rest ih =>
    intro l s h
    simp only [wrapContext, runHandler, recordPassed_true, Traced.settle_event, Traced.andThen,
      sealed_event]
    rw [forwardsReplaced_next]
    by_cases hreplaced : s.replaced = true
    · -- the replaced payload is passed on
      exact iff_of_false (fun hsealed => h.replaced hreplaced hsealed.1)
        (not_not.mpr (Or.inl hreplaced))
    · rw [h.currentPayload (Bool.eq_false_iff.mpr hreplaced), and_iff_right h.payload_isEnvelope,
        or_iff_right hreplaced]
      rcases Traced.ending_cases (⟨[], settles payload⟩ :
        Traced (Wire J E) BusError (Option (Wire J E))) with hcut | ⟨r, hr⟩
      · -- the rest of the chain is still running
        rw [Traced.settle_of_cutOff hcut, Traced.settle_of_cutOff rfl]
        refine iff_of_true ⟨by simp, by simp⟩ ?_
        rintro ⟨r, hr, -⟩
        cases r <;> exact absurd (hcut.symm.trans hr) (by simp)
      · rw [Traced.settle_of_settled hr]
        have hrest := ih (observeNext cipher resAad s.capturedResult r).1 (l.settleNext r)
          ⟨(observeNext cipher resAad s.capturedResult r).2, s.replaced, true⟩
          (h.settleNext hr _)
        rw [h.result_settleNext hr, List.nil_append]
        refine hrest.trans (not_congr ⟨fun hforwards => ⟨r, hr, hforwards⟩, ?_⟩)
        rintro ⟨r', hr', hforwards⟩
        obtain rfl : r = r' := Ending.ofExcept_inj.mp (hr.symm.trans hr')
        exact hforwards

/-- **Confidentiality of channel handlers.**  For every handler on a channel, whatever it does with its
context, and every rest of the chain that answers with envelopes: what is passed on and what is returned
are envelopes, exactly if nobody stands behind the handler, or the handler does not let the chain go on
after it called `replacePayload`. -/
theorem proxyHandler_sealed_iff (cipher : Cipher J E) (channelId subject : String)
    (handler : J → HandlerProgram J) (payload : Wire J E) (passes : Bool)
    (settles : Wire J E → Ending BusError (Option (Wire J E)))
    (hsettles : ∀ p w, settles p = .value (some w) → w.IsEnvelope) :
    Sealed (executeLocalEntry subject (proxyHandler cipher channelId subject handler payload)
        (recordPassed passes settles) payload) ↔
      passes = false ∨ ∀ decryptedPayload,
        cipher.open (channelId ++ ":" ++ subject ++ ":req") payload = .ok decryptedPayload →
        ¬ ForwardsReplaced cipher (channelId ++ ":" ++ subject ++ ":res") (settles payload)
          (handler decryptedPayload) ⟨none, false, false⟩ := by
  rw [executeLocalEntry, sealed_mapError, proxyHandler]
  cases hopen : cipher.open (channelId ++ ":" ++ subject ++ ":req") payload with
  | error error =>
    refine iff_of_true ?_ (Or.inr fun decryptedPayload h => by cases h)
    simp [runHandler, Traced.andThen, Sealed]
  | ok decryptedPayload =>
    have henvelope : payload.IsEnvelope := by
      cases payload with
      | envelope envelope => trivial
      | plain value => exact absurd hopen (by simp [Cipher.open])
    cases passes with
    | false =>
      exact iff_of_true (sealed_runHandler_of_not_passesOn cipher _ hsettles (handler decryptedPayload)
        ⟨none, payload, none⟩ none fun w hw => by cases hw) (Or.inl rfl)
    | true =>
    rw [or_iff_right (by simp)]
    have hrun := sealed_runHandler_wrapContext cipher (channelId ++ ":" ++ subject ++ ":res")
      hsettles (handler decryptedPayload) ⟨none, payload, none⟩ ⟨none, false, false⟩
      ⟨henvelope, fun _ => rfl, fun h => absurd h (by simp), by simp, fun _ => rfl, by simp⟩
    refine hrun.trans ⟨fun h decryptedPayload' hdecrypted => ?_, fun h => h _ rfl⟩
    cases hdecrypted
    exact h

end Runs

/-! ### Two handlers -/

/-- Objects with numeric fields. -/
abbrev Fields := List (String × ℕ)

instance : ObjectSpread Fields := ⟨fun base extension => base.getD [] ++ extension⟩

instance : ObjectSpread (Wire Fields Fields) := ⟨fun _ extension => extension⟩

def testCipher : Cipher Fields Fields where
  encrypt _ value := value
  decrypt _ envelope := .ok envelope
  malformed := .thrown "malformed"

/-- The rest of the chain answers with an envelope. -/
def answersEnvelope (_ : Wire Fields Fields) : Ending BusError (Option (Wire Fields Fields)) :=
  .value (some (.envelope [("answer", 1)]))

/-- A handler that extends the answer of the rest of the chain is sealed. -/
theorem proxyHandler_sealed_extends :
    Sealed (executeLocalEntry "get" (proxyHandler testCipher "c1" "get"
      (fun _ => .next fun _ => .extendResult [("more", 2)] .done) (.envelope [("id", 7)]))
      (recordPassed true answersEnvelope) (.envelope [("id", 7)])) := by
  refine (proxyHandler_sealed_iff testCipher "c1" "get" _ _ true answersEnvelope ?_).mpr (Or.inr ?_)
  · intro p w h
    cases h
    trivial
  · intro decryptedPayload _ hforwards
    rcases forwardsReplaced_next.mp hforwards with h | ⟨r, hr, hrest⟩
    · cases h
    · exact absurd hrest.1 (by simp)

/-- **A handler that replaces the payload** and returns passes its plaintext on. -/
theorem proxyHandler_forwards_plaintext :
    (executeLocalEntry "get" (proxyHandler testCipher "c1" "get"
        (fun _ => .replacePayload [("secret", 42)] .done) (.envelope [("id", 7)]))
        (recordPassed true answersEnvelope) (.envelope [("id", 7)])).trace = [.plain [("secret", 42)]] ∧
      ¬ Sealed (executeLocalEntry "get" (proxyHandler testCipher "c1" "get"
        (fun _ => .replacePayload [("secret", 42)] .done) (.envelope [("id", 7)]))
        (recordPassed true answersEnvelope) (.envelope [("id", 7)])) :=
  ⟨rfl, fun h => h.1 (.plain [("secret", 42)]) (List.mem_singleton.mpr rfl)⟩

end Makaio.Bus
