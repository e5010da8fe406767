import Makaio.Subagent.Service

set_option autoImplicit false

/-!
# What an action does to the manager

Every action of the service has one of a few effects on the manager, apart from bookkeeping in the
calls that request input: records are edited or forgotten, a subagent is tracked or ends, a request
is made or answered, an await call is registered, answered at once or times out.  The invariants of
the manager are kept by each effect, so that no invariant is proved action by action.

## Main definitions

* `Careful` — no subagent fails while it asks for input, none asks once it has ended.
* `Effect` — the effects.
* `Books` — the bookkeeping in the calls that request input.

## Main results

* `Service.step_effect` — every careful action has an effect.
-/

namespace Makaio.Subagent

open Foundations

/-! ### Well-formed records -/

/-- A subagent with a pending request waits for input, and has no completion intent. -/
def TrackedSubagent.Ok (x : TrackedSubagent) : Prop :=
  x.pendingRequest ≠ none → x.status = .waiting_input ∧ x.completionCandidate = none

/-- What is fixed once a subagent has ended. -/
def TrackedSubagent.outcome (x : TrackedSubagent) :
    Status × Option String × Option String × Option UsageStats × Option ℕ :=
  (x.status, x.result, x.error, x.usage, x.endTime)

variable {x : TrackedSubagent} {m' : Manager}

/-- An ended subagent has no pending request. -/
lemma TrackedSubagent.Ok.pending_of_ended (h : x.Ok) (he : x.ended = true) :
    x.pendingRequest = none := by
  by_contra hp
  rw [TrackedSubagent.ended, (h hp).1] at he
  cases he

/-- A subagent with a completion intent has no pending request. -/
lemma TrackedSubagent.Ok.pending_of_candidate (h : x.Ok) (hc : x.completionCandidate ≠ none) :
    x.pendingRequest = none := by
  by_contra hp
  exact hc (h hp).2

/-- A record that changes without its subagent starting, ending, asking or being answered. -/
structure Edit (x y : TrackedSubagent) : Prop where
  parent : y.parentSessionId = x.parentSessionId
  config : y.config = x.config
  depth : y.depth = x.depth
  pending : y.pendingRequest = x.pendingRequest
  /-- A subagent that waits for input goes on waiting. -/
  waiting : x.pendingRequest ≠ none →
    y.status = x.status ∧ y.completionCandidate = x.completionCandidate
  /-- A completion intent stays. -/
  candidate : x.completionCandidate ≠ none → y.completionCandidate = x.completionCandidate
  /-- It has ended if it had. -/
  ended : y.ended = x.ended
  /-- The outcome of an ended subagent stays. -/
  outcome : x.ended = true → y.outcome = x.outcome
  /-- The snapshot of an ended subagent stays. -/
  awaitResult : x.ended = true → y.awaitResult = x.awaitResult
  /-- Startup does not begin again. -/
  spawning : y.status = .spawning → x.status = .spawning

/-- The record that stays is edited. -/
lemma Edit.refl (x : TrackedSubagent) : Edit x x :=
  ⟨rfl, rfl, rfl, rfl, fun _ => ⟨rfl, rfl⟩, fun _ => rfl, rfl, fun _ => rfl, fun _ => rfl, id⟩

variable {y : TrackedSubagent} {id : String} {c : InputCall} {i : ℕ} {s : Service}

/-- Two edits are one. -/
lemma Edit.trans {x z : TrackedSubagent} (h : Edit x y) (h' : Edit y z) : Edit x z where
  parent := h'.parent.trans h.parent
  config := h'.config.trans h.config
  depth := h'.depth.trans h.depth
  pending := h'.pending.trans h.pending
  waiting hp := by
    obtain ⟨hs, hc⟩ := h.waiting hp
    obtain ⟨hs', hc'⟩ := h'.waiting (by rwa [h.pending])
    exact ⟨hs'.trans hs, hc'.trans hc⟩
  candidate hc := by
    have hy := h.candidate hc
    exact (h'.candidate (by rwa [hy])).trans hy
  ended := h'.ended.trans h.ended
  outcome he := (h'.outcome (by rwa [h.ended])).trans (h.outcome he)
  awaitResult he := (h'.awaitResult (by rwa [h.ended])).trans (h.awaitResult he)
  spawning hs := h.spawning (h'.spawning hs)

/-- Edits keep records well formed. -/
lemma Edit.ok {x : TrackedSubagent} (h : Edit x y) (hx : x.Ok) : y.Ok := fun hp => by
  rw [h.pending] at hp
  obtain ⟨hs, hc⟩ := h.waiting hp
  exact ⟨hs.trans (hx hp).1, hc.trans (hx hp).2⟩

/-- Managers that differ by edits of their records. -/
structure Edits (m m' : Manager) : Prop where
  awaiters : m'.awaiters = m.awaiters
  awaitCalls : m'.awaitCalls = m.awaitCalls
  /-- The calls that request input are the same. -/
  inputCalls : m'.inputCalls = m.inputCalls
  records : ∀ id, Option.Rel Edit (m.get id) (m'.get id)

lemma Edits.refl (m : Manager) : Edits m m where
  awaiters := rfl
  awaitCalls := rfl
  inputCalls := rfl
  records id := by
    cases m.get id with
    | none => exact .none
    | some x => exact .some (.refl x)

variable {m₁ : Manager} {result error : String} {summary : Option String}

/-- Edits after edits. -/
lemma Edits.trans {m m₂ : Manager} (h : Edits m m₁) (h' : Edits m₁ m₂) : Edits m m₂ where
  awaiters := h'.awaiters.trans h.awaiters
  awaitCalls := h'.awaitCalls.trans h.awaitCalls
  inputCalls := h'.inputCalls.trans h.inputCalls
  records id := by
    have h₁ := h.records id
    have h₂ := h'.records id
    cases hm : m.get id with
    | none =>
      rw [hm] at h₁
      cases hm₁ : m₁.get id with
      | none => rwa [hm₁] at h₂
      | some y => rw [hm₁] at h₁; cases h₁
    | some x =>
      rw [hm] at h₁
      cases hm₁ : m₁.get id with
      | none => rw [hm₁] at h₁; cases h₁
      | some y =>
        rw [hm₁] at h₁ h₂
        cases hm₂ : m₂.get id with
        | none => rw [hm₂] at h₂; cases h₂
        | some z =>
          rw [hm₂] at h₂
          cases h₁ with
          | some hxy =>
            cases h₂ with
            | some hyz => exact .some (hxy.trans hyz)

/-- The edit of one record. -/
lemma Edits.put {m : Manager} {x : TrackedSubagent} (hget : m.get id = some x) (h : Edit x y) :
    Edits m (m.put id y) where
  awaiters := rfl
  awaitCalls := rfl
  inputCalls := rfl
  records id' := by
    rw [Manager.get_put]
    split_ifs with hid
    · subst hid
      rw [hget]
      exact .some h
    · exact (Edits.refl m).records id'

/-- An edited record stays tracked. -/
lemma Edits.get {m m' : Manager} (h : Edits m m') (hx : m.get id = some x) :
    ∃ y, m'.get id = some y ∧ Edit x y := by
  have hr := h.records id
  rw [hx] at hr
  cases hy : m'.get id with
  | none => rw [hy] at hr; cases hr
  | some y =>
    rw [hy] at hr
    cases hr with
    | some hxy => exact ⟨y, rfl, hxy⟩

/-- An edited record was tracked. -/
lemma Edits.of_get {m m' : Manager} (h : Edits m m') (hy : m'.get id = some y) :
    ∃ x, m.get id = some x ∧ Edit x y := by
  have hr := h.records id
  rw [hy] at hr
  cases hx : m.get id with
  | none => rw [hx] at hr; cases hr
  | some x =>
    rw [hx] at hr
    cases hr with
    | some hxy => exact ⟨x, rfl, hxy⟩

/-! ### Effects -/

/-- Answer the pending request of a record, if there is one. -/
def Manager.answerPending (m : Manager) (x : TrackedSubagent) (response : Option String) :
    Manager :=
  match x.pendingRequest with
  | none => m
  | some request => m.invokeResolver request response

/-- The record of a subagent that ends. -/
structure Ends (x y : TrackedSubagent) : Prop where
  parent : y.parentSessionId = x.parentSessionId
  config : y.config = x.config
  depth : y.depth = x.depth
  active : x.ended = false
  ended : y.ended = true
  pending : y.pendingRequest = none

/-- The record of a subagent that begins or ceases to wait for input. -/
structure Asks (x y : TrackedSubagent) : Prop where
  parent : y.parentSessionId = x.parentSessionId
  config : y.config = x.config
  depth : y.depth = x.depth
  active : x.ended = false
  active' : y.ended = false
  /-- There is no completion intent. -/
  candidate : y.completionCandidate = x.completionCandidate
  /-- It is past its startup. -/
  started : y.status ≠ .spawning

/-- The effects of actions on the manager; `retention` is given when ended subagents may be
forgotten. -/
inductive Effect (retention : Option ℤ) (m : Manager) : Manager → Prop
  /-- Nothing happens. -/
  | none : Effect retention m m
  /-- Ended subagents are forgotten. -/
  | forgotten {stateRetentionMs : ℤ} (h : retention = some stateRetentionMs) :
      Effect retention m (m.cleanup stateRetentionMs)
  | tracked {id : String} {x : TrackedSubagent} (hget : m.get id = .none)
      (hpending : x.pendingRequest = .none) : Effect retention m (m.put id x)
  | ended {id : String} {x y : TrackedSubagent} (hget : m.get id = some x) (h : Ends x y) :
      Effect retention m (((m.answerPending x .none).put id y).resolveAwaiters id)
  /-- A subagent asks for input. -/
  | asked {id : String} {x y : TrackedSubagent} {request : PendingRequest} {call : InputCall}
      (hget : m.get id = some x) (h : Asks x y) (hpending : x.pendingRequest = .none)
      (hcandidate : x.completionCandidate = .none) (hrequest : y.pendingRequest = some request)
      (hstatus : y.status = .waiting_input) (hresolver : request.resolver = m.inputCalls.length)
      (hcall : call.subagentId = id) (hopen : call.resolved = false) (hresponses : call.responses = [])
      (hreturns : call.returns = []) :
      Effect retention m { m.put id y with inputCalls := m.inputCalls ++ [call] }
  | answered {id : String} {x y : TrackedSubagent} {request : PendingRequest}
      {response : Option String} (hget : m.get id = some x) (h : Asks x y)
      (hrequest : x.pendingRequest = some request) (hpending : y.pendingRequest = .none) :
      Effect retention m ((m.invokeResolver request response).put id y)
  /-- An await call is registered. -/
  | registered {id : String} {x : TrackedSubagent} (timer : Bool) (hget : m.get id = some x)
      (hactive : x.ended = false) :
      Effect retention m { m.addAwaiter id m.awaitCalls.length with
        awaitCalls := m.awaitCalls ++ [⟨id, false, timer, []⟩] }
  /-- An await call is answered at once. -/
  | answeredAtOnce (id : String) (answer : AwaitAnswer) :
      Effect retention m { m with awaitCalls := m.awaitCalls ++ [⟨id, true, false, [answer]⟩] }
  | timedOut {i : ℕ} {c : AwaitCall} (hcall : m.awaitCalls[i]? = some c) (htimer : c.timer = true) :
      Effect retention m { m.removeAwaiter c.subagentId i with
        awaitCalls := m.awaitCalls.modify i (AwaitCall.answer .timeout) }

/-- Bookkeeping in a call that requests input: its timer runs out, the publication of its question
is known, or its caller is told the response. -/
structure Book (c c' : InputCall) : Prop where
  subagentId : c'.subagentId = c.subagentId
  /-- It is answered if it was. -/
  resolved : c'.resolved = c.resolved
  responses : c'.responses = c.responses
  /-- The caller of an answered call may be told so, once. -/
  returns : c'.returns = c.returns ∨
    c.resolved = true ∧ c.returns = [] ∧ ∃ r, c'.returns = [r]

/-- Managers that differ in bookkeeping only. -/
structure Books (m m' : Manager) : Prop where
  /-- The records are the same. -/
  subagents : m'.subagents = m.subagents
  awaiters : m'.awaiters = m.awaiters
  awaitCalls : m'.awaitCalls = m.awaitCalls
  /-- No call is new. -/
  length : m'.inputCalls.length = m.inputCalls.length
  /-- Each call differs in bookkeeping only. -/
  calls : ∀ (i : ℕ) c c', m.inputCalls[i]? = some c → m'.inputCalls[i]? = some c' → Book c c'

/-- The books that stay. -/
lemma Book.refl (c : InputCall) : Book c c := ⟨rfl, rfl, rfl, .inl rfl⟩

/-- A manager keeps its own books. -/
lemma Books.refl (m : Manager) : Books m m :=
  ⟨rfl, rfl, rfl, rfl, fun i c c' h h' => by
    rw [h] at h'
    cases h'
    exact .refl c⟩

lemma Books.modifyInputCall {m : Manager} {f : InputCall → InputCall} (hc : m.inputCalls[i]? = some c)
    (hf : Book c (f c)) : Books m (modifyInputCall m i f) where
  subagents := rfl
  awaiters := rfl
  awaitCalls := rfl
  length := by simp [Subagent.modifyInputCall]
  calls j d d' hd hd' := by
    rw [Subagent.modifyInputCall] at hd'
    rw [List.getElem?_modify, hd] at hd'
    split_ifs at hd' with hij
    · subst hij
      rw [hc] at hd
      cases hd
      cases hd'
      exact hf
    · cases hd'
      exact .refl d

/-- The records of managers that differ in bookkeeping. -/
lemma Books.get {m m' : Manager} (h : Books m m') (id : String) : m'.get id = m.get id := by
  rw [Manager.get, Manager.get, h.subagents]

/-- The call before the bookkeeping. -/
lemma Books.of_call {m m' : Manager} (h : Books m m') {c' : InputCall} (hc' : m'.inputCalls[i]? = some c') :
    ∃ c, m.inputCalls[i]? = some c ∧ Book c c' := by
  have hlt : i < m.inputCalls.length := by
    rw [← h.length]
    exact (List.getElem?_eq_some_iff.mp hc').1
  exact ⟨_, List.getElem?_eq_getElem hlt, h.calls i _ c' (List.getElem?_eq_getElem hlt) hc'⟩

/-- The call after the bookkeeping. -/
lemma Books.call {m m' : Manager} (h : Books m m') (hc : m.inputCalls[i]? = some c) :
    ∃ c', m'.inputCalls[i]? = some c' ∧ Book c c' := by
  have hlt : i < m'.inputCalls.length := by
    rw [h.length]
    exact (List.getElem?_eq_some_iff.mp hc).1
  exact ⟨_, List.getElem?_eq_getElem hlt, h.calls i c _ hc (List.getElem?_eq_getElem hlt)⟩

/-- What an action does: edits and bookkeeping, an effect, bookkeeping. -/
def Changes (retention : Option ℤ) (m m' : Manager) : Prop :=
  ∃ m₁ m₂ m₃, Edits m m₁ ∧ Books m₁ m₂ ∧ Effect retention m₂ m₃ ∧ Books m₃ m'

lemma Effect.changes {retention : Option ℤ} {m m' : Manager} (h : Effect retention m m') : Changes retention m m' :=
  ⟨m, m, m', .refl m, .refl m, h, .refl m'⟩

lemma Edits.changes {retention : Option ℤ} {m m' : Manager} (h : Edits m m') : Changes retention m m' :=
  ⟨m', m', m', h, .refl m', .none, .refl m'⟩

lemma Books.changes {retention : Option ℤ} {m m' : Manager} (h : Books m m') : Changes retention m m' :=
  ⟨m, m', m', .refl m, h, .none, .refl m'⟩

/-- Edits before an effect are a change. -/
lemma Edits.then_effect {retention : Option ℤ} {m m' : Manager} (h : Edits m m₁) (h' : Effect retention m₁ m') :
    Changes retention m m' :=
  ⟨m₁, m₁, m', h, .refl m₁, h', .refl m'⟩

/-! ### Operations that edit -/

/-- All records are well formed. -/
def Manager.RecordsOk (m : Manager) : Prop := ∀ id x, m.get id = some x → x.Ok

/-- Edits keep records well formed. -/
lemma Edits.recordsOk {m m' : Manager} (h : Edits m m') (hm : m.RecordsOk) : m'.RecordsOk :=
  fun id y hy => by
    obtain ⟨x, hx, hxy⟩ := h.of_get hy
    exact hxy.ok (hm id x hx)

variable {retention : Option ℤ} {m : Manager}

/-- Setting the child session is an edit. -/
lemma edits_setChildSessionId (id sid : String) : Edits m (m.setChildSessionId id sid) := by
  rw [Manager.setChildSessionId]
  cases hget : m.get id with
  | none => exact .refl m
  | some x =>
    exact .put hget ⟨rfl, rfl, rfl, rfl, fun _ => ⟨rfl, rfl⟩, fun _ => rfl, rfl, fun _ => rfl,
      fun _ => rfl, fun h => h⟩

/-- An active record may change in what does not concern requests and completion intents. -/
lemma Edit.of_active {x : TrackedSubagent} (hx : x.ended = false) (hstatus : y.status = x.status)
    (hparent : y.parentSessionId = x.parentSessionId) (hconfig : y.config = x.config)
    (hdepth : y.depth = x.depth) (hpending : y.pendingRequest = x.pendingRequest)
    (hcandidate : y.completionCandidate = x.completionCandidate) : Edit x y where
  parent := hparent
  config := hconfig
  depth := hdepth
  pending := hpending
  waiting _ := ⟨hstatus, hcandidate⟩
  candidate _ := hcandidate
  ended := congrArg isTerminal hstatus
  outcome he := by rw [hx] at he; cases he
  awaitResult he := by rw [hx] at he; cases he
  spawning hs := hstatus ▸ hs

/-- Opening the admission of child messages is an edit. -/
lemma edits_markStarted (hm : m.RecordsOk) (id : String) : Edits m (m.markStarted id) := by
  rw [Manager.markStarted]
  cases hget : m.get id with
  | none => exact .refl m
  | some x =>
    dsimp only
    split_ifs with hs
    · have hx : x.ended = false := by rw [TrackedSubagent.ended, hs]; rfl
      have hno : x.pendingRequest = none := by
        by_contra hp
        rw [(hm id x hget hp).1] at hs
        cases hs
      exact .put hget
        { parent := rfl, config := rfl, depth := rfl, pending := rfl
          waiting := fun hp => absurd hno hp
          candidate := fun _ => rfl
          ended := by rw [hx]; rfl
          outcome := fun he => by rw [hx] at he; cases he
          awaitResult := fun he => by rw [hx] at he; cases he
          spawning := fun h => by cases h }
    · exact .refl m

lemma edits_recordTurnStarted (sid turnId : String) : Edits m (m.recordTurnStarted sid turnId) := by
  rw [Manager.recordTurnStarted]
  cases hfind : m.getByChildSessionId sid with
  | none => exact .refl m
  | some e =>
    obtain ⟨id, x⟩ := e
    dsimp only
    split_ifs with he
    · exact .refl m
    · exact .put (Manager.get_of_getByChildSessionId hfind)
        (.of_active (by simpa using he) rfl rfl rfl rfl rfl rfl)

/-- The end of a turn is an edit. -/
lemma edits_recordTurnCompleted (sid turnId : String) :
    Edits m (m.recordTurnCompleted sid turnId) := by
  rw [Manager.recordTurnCompleted]
  cases hfind : m.getByChildSessionId sid with
  | none => exact .refl m
  | some e =>
    obtain ⟨id, x⟩ := e
    dsimp only
    by_cases he : x.ended = true
    · rw [if_pos he]
      exact .refl m
    · rw [if_neg he]
      exact .put (Manager.get_of_getByChildSessionId hfind)
        (.of_active (by simpa using he) rfl rfl rfl rfl rfl rfl)

/-- A tool outcome is an edit. -/
lemma edits_recordToolObservation (sid : String) (observation : ToolObservation)
    (toolCallId : Option String) : Edits m (m.recordToolObservation sid observation toolCallId) := by
  rw [Manager.recordToolObservation]
  cases hfind : m.getByChildSessionId sid with
  | none => exact .refl m
  | some e =>
    obtain ⟨id, x⟩ := e
    dsimp only
    split_ifs with he
    · exact .refl m
    · exact .refl m
    · exact .put (Manager.get_of_getByChildSessionId hfind)
        (.of_active (by simpa using he) rfl rfl rfl rfl rfl rfl)

/-- A progress update is an edit. -/
lemma edits_addProgress (id update : String) : Edits m (m.addProgress id update) := by
  rw [Manager.addProgress]
  cases hget : m.get id with
  | none => exact .refl m
  | some x =>
    exact .put hget ⟨rfl, rfl, rfl, rfl, fun _ => ⟨rfl, rfl⟩, fun _ => rfl, rfl, fun _ => rfl,
      fun _ => rfl, fun h => h⟩

lemma edits_recordCompletedTurn (id turnId : String) (usage : Option UsageMetrics) (success : Bool)
    (error : Option String) : Edits m (m.recordCompletedTurn id turnId usage success error) := by
  rw [Manager.recordCompletedTurn]
  cases hget : m.get id with
  | none => exact .refl m
  | some x =>
    dsimp only
    split_ifs with he
    · exact .refl m
    · exact .put hget (.of_active (by simpa [TrackedSubagent.ended] using he) rfl rfl rfl rfl rfl rfl)
    · exact .put hget (.of_active (by simpa [TrackedSubagent.ended] using he) rfl rfl rfl rfl rfl rfl)

/-- A completion intent is an edit. -/
lemma edits_recordCompletionCandidate {turnId : String} {source : CompletionMode}
    (h : m.recordCompletionCandidate id turnId result summary source = .ok m') :
    Edits m m' := by
  rw [Manager.recordCompletionCandidate] at h
  cases hget : m.get id with
  | none => rw [hget] at h; cases h
  | some x =>
    rw [hget] at h
    dsimp only at h
    split at h
    · split_ifs at h
      cases h
      exact .refl _
    · rename_i hnone
      split_ifs at h with he hp
      cases h
      have hx : x.ended = false := by simpa [TrackedSubagent.ended] using he
      exact .put hget
        { parent := rfl, config := rfl, depth := rfl, pending := rfl
          waiting := fun hne => absurd (by simpa using hp) hne
          candidate := fun hne => absurd hnone hne
          ended := by rw [hx]; rfl
          outcome := fun he => by rw [hx] at he; cases he
          awaitResult := fun he => by rw [hx] at he; cases he
          spawning := fun h => by cases h }

/-- The sweep for hung subagents is an edit. -/
lemma edits_sweepHung (hm : m.RecordsOk) (timeout : ℕ) : Edits m (m.sweepHung timeout) where
  awaiters := by rw [Manager.sweepHung]; split_ifs <;> rfl
  awaitCalls := by rw [Manager.sweepHung]; split_ifs <;> rfl
  inputCalls := by rw [Manager.sweepHung]; split_ifs <;> rfl
  records id := by
    rw [Manager.get?_sweepHung]
    cases hget : m.get id with
    | none => exact .none
    | some x =>
      rw [Option.map_some]
      refine .some ?_
      split_ifs with h
      · obtain ⟨-, hidle⟩ := h
        simp only [Manager.idleTooLong, Bool.and_eq_true, Bool.not_eq_true', decide_eq_true_eq] at hidle
        obtain ⟨⟨⟨⟨hx, -⟩, hwaiting⟩, -⟩, -⟩ := hidle
        have hx' : x.ended = false := hx
        exact
          { parent := rfl, config := rfl, depth := rfl, pending := rfl
            waiting := fun hp => absurd (hm id x hget hp).1 hwaiting
            candidate := fun _ => rfl
            ended := by rw [hx']; rfl
            outcome := fun he => by rw [hx'] at he; cases he
            awaitResult := fun he => by rw [hx'] at he; cases he
            spawning := fun h => by cases h }
      · exact .refl x

/-! ### Operations that end a subagent -/

/-- Writing a record twice. -/
lemma put_put (m : Manager) (id : String) (x y : TrackedSubagent) :
    (m.put id x).put id y = m.put id y := by
  rw [Manager.put, Manager.put, Manager.put]
  rw [OrderedMap.set_set]

/-- A failure ends a subagent that asks for nothing. -/
lemma effect_markFailed (hquiet : ∀ x, m.get id = some x → x.ended = false → x.pendingRequest = none) :
    Effect retention m (m.markFailed id error) := by
  rcases m.markFailed_cases id error with ⟨h, -⟩ | ⟨x, hget, hx, h⟩
  · rw [h]
    exact .none
  · have hp := hquiet x hget hx
    have heff : Effect retention m (((m.answerPending x none).put id
        { m.applyStatus x .failed with error := some error }).resolveAwaiters id) :=
      .ended hget ⟨rfl, rfl, rfl, hx, rfl, hp⟩
    rw [h]
    rwa [Manager.answerPending, hp] at heff

/-- A completion intent with its turn ends a subagent. -/
lemma effect_finalizeCompletionIfReady (hm : m.RecordsOk) (id : String) :
    Effect retention m (m.finalizeCompletionIfReady id) := by
  rcases m.finalizeCompletionIfReady_cases id with h | ⟨x, candidate, hget, hx, hc, hend⟩
  · rw [h]
    exact .none
  · have hp := (hm id x hget).pending_of_candidate (by rw [hc]; simp)
    rcases hend with ⟨error, h⟩ | h
    · rw [h]
      refine effect_markFailed fun x' hx' _ => ?_
      rw [hget] at hx'
      cases hx'
      exact hp
    · have heff : Effect retention m (((m.answerPending x none).put id
          { m.applyStatus x .completed with
            result := some candidate.result
            summary := candidate.summary
            completionSource := some candidate.source
            usage := some (Manager.freezeUsage x) }).resolveAwaiters id) :=
        .ended hget ⟨rfl, rfl, rfl, hx, rfl, hp⟩
      rw [h]
      rwa [Manager.answerPending, hp] at heff

/-- A cancellation ends a subagent, answering what it asks. -/
lemma effect_markCancelled (id : String) : Effect retention m (m.markCancelled id) := by
  rw [Manager.markCancelled]
  cases hget : m.get id with
  | none => exact .none
  | some x =>
    dsimp only
    split_ifs with he
    · exact .none
    · have hx : x.ended = false := by simpa [TrackedSubagent.ended] using he
      have heff : Effect retention m (((m.answerPending x none).put id
          { m.applyStatus x .cancelled with pendingRequest := none }).resolveAwaiters id) :=
        .ended hget ⟨rfl, rfl, rfl, hx, rfl, rfl⟩
      rw [Manager.answerPending] at heff
      cases hp : x.pendingRequest with
      | none =>
        rw [hp] at heff
        have hsame : { m.applyStatus x .cancelled with pendingRequest := none } =
            m.applyStatus x .cancelled := by
          rw [Manager.applyStatus]
          rw [hp]
        rwa [hsame] at heff
      | some request => rwa [hp] at heff

/-! ### Operations on requests and await calls -/

/-- Answering a pending request. -/
lemma effect_resolvePendingRequest (hm : m.RecordsOk) (id : String) (response : Option String) :
    Effect retention m (m.resolvePendingRequest id response) := by
  rw [Manager.resolvePendingRequest]
  cases hget : m.get id with
  | none => exact .none
  | some x =>
    dsimp only
    cases hp : x.pendingRequest with
    | none => exact .none
    | some request =>
      obtain ⟨hs, hc⟩ := hm id x hget (by rw [hp]; simp)
      dsimp only
      rw [if_pos hs]
      exact .answered hget
        { parent := rfl, config := rfl, depth := rfl
          active := by rw [TrackedSubagent.ended, hs]; rfl
          active' := rfl
          candidate := rfl
          started := by simp } hp rfl

variable (constraints : SubagentConstraints)

/-- A request for input of an active subagent, or one that is rejected. -/
lemma effect_handleRequestInputRpc {messageId question : String} {context : Option String}
    {timeoutMs : Option ℤ}
    (hcareful : ∀ x, m.get id = some x → x.ended = true → x.completionCandidate.isSome = true)
    (h : handleRequestInputRpc constraints m id messageId question context timeoutMs = .ok m') :
    Effect retention m m' := by
  obtain ⟨x, timer, hget, hc, hp, rfl⟩ := handleRequestInputRpc_ok h
  have hx : x.ended = false := by
    by_contra he
    have hsome := hcareful x hget (by simpa using he)
    rw [hc] at hsome
    cases hsome
  exact .asked hget
    { parent := rfl, config := rfl, depth := rfl, active := hx, active' := rfl
      candidate := rfl, started := by simp }
    hp hc rfl rfl rfl rfl rfl rfl rfl

/-- An await call is registered or answered at once. -/
lemma effect_handleAwaitRpc (id : String) (timeoutMs : Option ℤ) :
    Effect retention m (handleAwaitRpc constraints m id timeoutMs) := by
  rw [handleAwaitRpc]
  cases hget : m.get id with
  | none => exact .answeredAtOnce id _
  | some x =>
    dsimp only
    split_ifs with he
    · exact .answeredAtOnce id _
    · split
      · exact .answeredAtOnce id _
      · exact .registered _ hget (by simpa [TrackedSubagent.ended] using he)

/-- The timer of an await call. -/
lemma effect_awaitTimedOut {call : ℕ} (h : awaitTimedOut m call = some m') :
    Effect retention m m' := by
  rw [awaitTimedOut] at h
  cases hcall : m.awaitCalls[call]? with
  | none => rw [hcall] at h; cases h
  | some c =>
    rw [hcall] at h
    dsimp only at h
    split_ifs at h with htimer
    cases h
    exact .timedOut hcall htimer

/-- A message to a subagent answers its pending request or changes nothing. -/
lemma effect_handleSendRpc (hm : m.RecordsOk) {content : String} {inResponseTo : Option String}
    (h : handleSendRpc m id content inResponseTo = .ok m') : Effect retention m m' := by
  rw [handleSendRpc] at h
  cases hget : m.get id with
  | none => rw [hget] at h; cases h
  | some x =>
    rw [hget] at h
    dsimp only at h
    split_ifs at h with hs hc hr
    · cases h
      exact effect_resolvePendingRequest hm id _
    · cases h
      exact .none

/-! ### Actions -/

/-- The condition on an action: no input is requested for an ended subagent that has no completion
intent, and no subagent fails while its request for input is pending. -/
def Service.careful (s : Service) : Event → Bool
  | .requestInput subagentId _ _ _ _ =>
    (s.manager.get subagentId).all fun x => !x.ended || x.completionCandidate.isSome
  | .startupFailed subagentId _ | .attachFailed subagentId _ =>
    (s.manager.get subagentId).all fun x => x.ended || x.pendingRequest.isNone
  | .adapterSessionClosed sessionId =>
    (s.manager.getActiveByChildSessionId sessionId).all fun e => e.2.pendingRequest.isNone
  | _ => true

/-- The action meets the condition. -/
def Careful (s : Service) (e : Event) : Prop := s.careful e = true

instance (s : Service) (e : Event) : Decidable (Careful s e) :=
  inferInstanceAs (Decidable (s.careful e = true))

/-- Nobody awaits a subagent that is not tracked. -/
def Manager.Awaited (m : Manager) : Prop := ∀ id, m.get id = none → m.awaiters id = []

/-- Without awaiters nobody is told anything. -/
lemma resolveAwaiters_of_nil (h : m.awaiters id = []) : m.resolveAwaiters id = m := by
  rw [Manager.resolveAwaiters]
  cases m.get id with
  | none => rfl
  | some x =>
    dsimp only
    rw [h, List.foldl_nil, ← h, Function.update_eq_self]

/-- The failure of a freshly tracked subagent. -/
lemma effect_track_markFailed (hget : m.get id = none) (hawait : m.awaiters id = [])
    (hp : x.pendingRequest = none) :
    Effect retention m ((m.put id x).markFailed id error) := by
  rw [Manager.markFailed, Manager.get_put_self]
  dsimp only
  split_ifs with he
  · exact .tracked hget hp
  · rw [put_put, resolveAwaiters_of_nil (by exact hawait)]
    exact .tracked hget hp

/-- A subagent in its startup has no pending request. -/
lemma pending_of_spawning (hx : x.Ok) (hs : x.status = .spawning) : x.pendingRequest = none := by
  by_contra hp
  rw [(hx hp).1] at hs
  cases hs

/-- The manager after a spawned event: a subagent is tracked, or fails, or nothing happens. -/
lemma effect_handleSpawned (hm : s.manager.RecordsOk) (payload : SpawnedPayload) :
    Effect retention s.manager (s.handleSpawned payload).manager := by
  rw [Service.handleSpawned]
  split_ifs with hpast hrun
  · exact .none
  · exact .none
  · rw [Service.executeSpawned]
    split
    · refine effect_markFailed fun x hx _ => ?_
      rw [show s.manager.get payload.subagentId = some x from hx] at hpast
      exact pending_of_spawning (hm _ x hx) (by simpa using hpast)
    · split_ifs with hsome
      · exact .none
      · exact .tracked (by simpa using hsome) rfl

/-- The manager after an execute call: a subagent is tracked, and may fail at once. -/
lemma effect_execute (hm : s.manager.Awaited) {payload : SpawnedPayload}
    (hget : s.manager.get payload.subagentId = none) (config : SubagentConfig) :
    Effect retention s.manager
      ((s.track payload.subagentId payload.parentSessionId config payload.depth).handleSpawned
        payload).manager := by
  rw [Service.handleSpawned]
  split_ifs with hpast hrun
  · exact .tracked hget rfl
  · exact .tracked hget rfl
  · rw [Service.executeSpawned]
    dsimp only
    split
    · exact effect_track_markFailed hget (hm _ hget) rfl
    · have hsome : (((s.track payload.subagentId payload.parentSessionId config
          payload.depth).manager.get payload.subagentId).isSome) = true := by
        rw [Service.track, Manager.track]
        rw [Manager.get_put_self]
        rfl
      split_ifs
      exact .tracked hget rfl

lemma effect_call {r : Except SubagentError Manager} (h : ∀ m', r = .ok m' → Changes retention s.manager m') :
    Changes retention s.manager (s.call r).manager := by
  cases r with
  | error e => exact Effect.none.changes
  | ok m' => exact h m' rfl

/-- The timer of a request answers what is pending. -/
lemma changes_inputTimedOut (hm : m.RecordsOk) {call : ℕ} (h : inputTimedOut m call = some m') :
    Changes retention m m' := by
  rw [inputTimedOut] at h
  cases hcall : m.inputCalls[call]? with
  | none => rw [hcall] at h; cases h
  | some c =>
    rw [hcall] at h
    dsimp only at h
    split_ifs at h with htimer
    cases h
    have hbooks : Books m (modifyInputCall m call fun c => { c with timer := false }) :=
      .modifyInputCall hcall ⟨rfl, rfl, rfl, .inl rfl⟩
    have hrecords : (modifyInputCall m call fun c => { c with timer := false }).RecordsOk := hm
    exact ⟨m, _, _, .refl m, hbooks, effect_resolvePendingRequest hrecords _ _, .refl _⟩

/-- The response of a request reaches its caller. -/
lemma changes_inputReturned {call : ℕ}
    (hopen : ∀ c, m.inputCalls[call]? = some c → c.resolved = false → c.responses = [])
    (h : inputReturned m call = some m') : Changes retention m m' := by
  rw [inputReturned] at h
  cases hcall : m.inputCalls[call]? with
  | none => rw [hcall] at h; cases h
  | some c =>
    rw [hcall] at h
    dsimp only at h
    split_ifs at h with hret
    obtain ⟨response, hresponse, rfl⟩ := Option.map_eq_some_iff.mp h
    have hres : c.resolved = true := by
      by_contra hr
      rw [hopen c hcall (by simpa using hr)] at hresponse
      cases hresponse
    exact (Books.modifyInputCall hcall
      ⟨rfl, rfl, rfl, .inr ⟨hres, hret, .ofResponse response, by rw [hret]; rfl⟩⟩).changes

/-- Whatever has not been answered is pending. -/
def Manager.Asking (m : Manager) : Prop :=
  ∀ (i : ℕ) c, m.inputCalls[i]? = some c →
    (c.resolved = false → c.responses = [] ∧ c.returns = []) ∧
    (c.resolved = false → ∃ x request, m.get c.subagentId = some x ∧
      x.pendingRequest = some request ∧ request.resolver = i)

/-- A resolver that has run. -/
lemma InputCall.resolved_resolve (response : Option String) (c : InputCall) :
    (c.resolve response).resolved = true := by
  rw [InputCall.resolve]
  split_ifs with h
  · exact h
  · rfl

/-- A resolver changes neither the subagent nor what the caller was returned. -/
lemma InputCall.frame_resolve (response : Option String) (c : InputCall) :
    (c.resolve response).subagentId = c.subagentId ∧ (c.resolve response).returns = c.returns ∧
      (c.resolve response).published = c.published := by
  rw [InputCall.resolve]
  split_ifs with h <;> exact ⟨rfl, rfl, rfl⟩

/-- After the pending request of its subagent is answered, a call has been answered; what its caller
was returned stays. -/
lemma resolved_of_resolvePendingRequest (hm : m.Asking) {call : ℕ} {response : Option String}
    (hc : m.inputCalls[call]? = some c) :
    ∃ c', (m.resolvePendingRequest c.subagentId response).inputCalls[call]? = some c' ∧
      c'.resolved = true ∧ c'.returns = c.returns := by
  rw [Manager.resolvePendingRequest]
  by_cases hres : c.resolved = true
  · -- the call was answered before: no resolver takes that back
    have keep : ∀ request : PendingRequest, ∃ c',
        (m.inputCalls.modify request.resolver (InputCall.resolve response))[call]? = some c' ∧
          c'.resolved = true ∧ c'.returns = c.returns := by
      intro request
      rw [List.getElem?_modify, hc]
      split_ifs with h
      · exact ⟨_, rfl, InputCall.resolved_resolve response c,
          (InputCall.frame_resolve response c).2.1⟩
      · exact ⟨c, rfl, hres, rfl⟩
    cases hget : m.get c.subagentId with
    | none => exact ⟨c, hc, hres, rfl⟩
    | some x =>
      dsimp only
      cases hp : x.pendingRequest with
      | none => exact ⟨c, hc, hres, rfl⟩
      | some request => exact keep request
  · obtain ⟨x, request, hget, hp, hresolver⟩ := (hm call c hc).2 (by simpa using hres)
    rw [hget]
    dsimp only
    rw [hp]
    dsimp only
    refine ⟨c.resolve response, ?_, InputCall.resolved_resolve response c,
      (InputCall.frame_resolve response c).2.1⟩
    rw [Manager.put, Manager.invokeResolver]
    rw [hresolver, List.getElem?_modify, hc]
    simp

lemma changes_questionPublished (hm : m.RecordsOk) (hask : m.Asking) {call : ℕ} {error : Option String}
    (h : questionPublished m call error = some m') :
    Changes retention m m' := by
  rw [questionPublished] at h
  cases hcall : m.inputCalls[call]? with
  | none => rw [hcall] at h; cases h
  | some c =>
    rw [hcall] at h
    dsimp only at h
    split_ifs at h with hopen
    cases error with
    | none =>
      cases h
      exact (Books.modifyInputCall hcall ⟨rfl, rfl, rfl, .inl rfl⟩).changes
    | some error =>
      cases h
      obtain ⟨c', hc', hres, hret⟩ :
          ∃ c', (m.resolvePendingRequest c.subagentId none).inputCalls[call]? = some c' ∧
            c'.resolved = true ∧ c'.returns = c.returns :=
        resolved_of_resolvePendingRequest hask hcall
      refine ⟨m, m, _, .refl m, .refl m, effect_resolvePendingRequest hm c.subagentId none,
        .modifyInputCall hc' ⟨rfl, rfl, rfl, .inr ⟨hres, hret.trans hopen.2, .unpublished error, ?_⟩⟩⟩
      rw [hret, hopen.2]
      rfl

/-- The completion call of a child. -/
lemma changes_handleCompleteTaskRpc (hm : m.RecordsOk) {sessionId : String} {turnId : Option String}
    (h : handleCompleteTaskRpc m sessionId turnId result summary = .ok m') :
    Changes retention m m' := by
  obtain ⟨id, activeTurnId, m₁, hrec, rfl⟩ := handleCompleteTaskRpc_ok h
  have hedits := edits_recordCompletionCandidate hrec
  exact hedits.then_effect (effect_finalizeCompletionIfReady (hedits.recordsOk hm) id)

/-- The end of an agent turn. -/
lemma changes_handleAgentComplete (hm : m.RecordsOk) (payload : AgentComplete) :
    Changes retention m (handleAgentComplete m payload) := by
  rcases handleAgentComplete_cases (rfl : handleAgentComplete m payload = _) with
    h | ⟨id, _, turnId, result, m₁, -, -, hrec, h⟩
  · rw [h]
    exact Effect.none.changes
  · rw [h]
    have hedits := edits_recordCompletionCandidate hrec
    exact hedits.then_effect (effect_finalizeCompletionIfReady (hedits.recordsOk hm) id)

/-- The end of a turn of a session. -/
lemma changes_handleSessionTurnCompleted (hm : m.RecordsOk) (payload : TurnCompleted) :
    Changes retention m (handleSessionTurnCompleted m payload) := by
  rw [handleSessionTurnCompleted]
  split
  · exact Effect.none.changes
  · rename_i id x hfind
    have hedits : Edits m ((m.recordTurnCompleted payload.sessionId payload.turnId).recordCompletedTurn
        id payload.turnId payload.usage payload.success payload.error) :=
      (edits_recordTurnCompleted _ _).trans (edits_recordCompletedTurn _ _ _ _ _)
    split_ifs with hc
    · exact hedits.then_effect (effect_finalizeCompletionIfReady (hedits.recordsOk hm) id)
    · exact hedits.changes

/-- The retention of ended subagents, in the action that forgets some. -/
def Event.forgets : Event → Option ℤ
  | .sweep => some constraints.stateRetentionMs
  | _ => none

namespace Service

/-- The manager only moves in time. -/
lemma edits_tick (m : Manager) (now : ℕ) : Edits m { m with now } :=
  ⟨rfl, rfl, rfl, (Edits.refl m).records⟩

/-- **Every careful action has an effect** on the manager, apart from edits and bookkeeping.

**Proof sketch.** By the action.  An execution that fails has a record in its startup, which asks for
nothing, or fails under the condition; every other case is the effect of one operation. -/
theorem step_effect {constraints : SubagentConstraints} {t : Service} {e : Event} (hm : s.manager.RecordsOk)
    (hawaited : s.manager.Awaited) (hask : s.manager.Asking) (hok : Careful s e)
    (h : s.step constraints e = some t) : Changes (e.forgets constraints) s.manager t.manager := by
  cases e with
  | tick ms => cases h; exact (edits_tick _ _).changes
  | spawn request =>
    rw [step] at h
    split at h <;> cases h <;> exact Effect.none.changes
  | spawnResolved k session id =>
    rw [step] at h
    split at h
    · cases h
    · rename_i w hw
      split at h
      · cases h; exact Effect.none.changes
      · rename_i config hconfig
        split_ifs at h with hseen
        cases h
        rw [not_or, Option.not_isSome_iff_eq_none] at hseen
        exact (Effect.tracked hseen.2 rfl).changes
  | spawnRejected k =>
    rw [step] at h
    split_ifs at h
    cases h
    exact Effect.none.changes
  | spawned payload => cases h; exact (effect_handleSpawned hm payload).changes
  | execute payload =>
    rw [step] at h
    split_ifs at h with hget
    cases h
    exact (effect_execute hawaited (by simpa using hget) _).changes
  | startupFailed id error =>
    rw [step] at h
    split at h
    · cases h
      refine (effect_markFailed fun x hx he => ?_).changes
      rw [Careful, careful, hx, Option.all_some, he] at hok
      simpa using hok
    · cases h
  | sessionCreated id sid =>
    rw [step] at h
    split at h
    · cases h; exact (edits_setChildSessionId id sid).changes
    · cases h
  | attachStarted id =>
    rw [step] at h
    split at h
    · split_ifs at h <;> cases h <;> exact Effect.none.changes
    · cases h
  | attached id =>
    rw [step] at h
    split at h
    · split_ifs at h <;> cases h
      · exact Effect.none.changes
      · exact (edits_markStarted hm id).changes
    · cases h
  | attachFailed id error =>
    rw [step] at h
    split at h
    · split_ifs at h <;> cases h
      · exact Effect.none.changes
      · refine (effect_markFailed fun x hx he => ?_).changes
        rw [Careful, careful, hx, Option.all_some, he] at hok
        simpa using hok
    · cases h
  | executionEnded id =>
    rw [step] at h
    split at h
    · cases h; exact Effect.none.changes
    · cases h
  | await id timeoutMs => cases h; exact (effect_handleAwaitRpc constraints id timeoutMs).changes
  | awaitTimeout call =>
    obtain ⟨m', hm', rfl⟩ := Option.map_eq_some_iff.mp h
    exact (effect_awaitTimedOut hm').changes
  | send id content inResponseTo =>
    cases h
    exact effect_call fun m' hm' => (effect_handleSendRpc hm hm').changes
  | kill id => cases h; exact (effect_markCancelled id).changes
  | reportProgress id update percent =>
    cases h
    refine effect_call fun m' hm' => ?_
    rw [handleReportProgressRpc] at hm'
    split at hm' <;> cases hm'
    exact (edits_addProgress _ _).changes
  | requestInput id messageId question context timeoutMs =>
    cases h
    refine effect_call fun m' hm' => (effect_handleRequestInputRpc constraints ?_ hm').changes
    intro x hx he
    rw [Careful, careful, hx, Option.all_some, he] at hok
    simpa using hok
  | inputTimeout call =>
    obtain ⟨m', hm', rfl⟩ := Option.map_eq_some_iff.mp h
    exact changes_inputTimedOut hm hm'
  | published call error =>
    obtain ⟨m', hm', rfl⟩ := Option.map_eq_some_iff.mp h
    exact changes_questionPublished hm hask hm'
  | inputReturn call =>
    obtain ⟨m', hm', rfl⟩ := Option.map_eq_some_iff.mp h
    exact changes_inputReturned (fun c hc hopen => ((hask call c hc).1 hopen).1) hm'
  | completeTask sessionId turnId result summary =>
    cases h
    exact effect_call fun m' hm' => changes_handleCompleteTaskRpc hm hm'
  | agentComplete payload => cases h; exact changes_handleAgentComplete hm payload
  | turnStarted sid turnId => cases h; exact (edits_recordTurnStarted sid turnId).changes
  | turnCompleted payload => cases h; exact changes_handleSessionTurnCompleted hm payload
  | toolCompleted sid observation toolCallId =>
    cases h
    exact (edits_recordToolObservation sid observation toolCallId).changes
  | adapterSessionClosed sid =>
    cases h
    dsimp only [withManager]
    rw [handleAdapterSessionClosed]
    rw [Careful, careful] at hok
    split
    · exact Effect.none.changes
    · rename_i id x hfind
      rw [hfind, Option.all_some] at hok
      refine (effect_markFailed fun y hy _ => ?_).changes
      rw [(Manager.get_of_getActiveByChildSessionId hfind).1] at hy
      cases hy
      simpa using hok
  | sweep =>
    cases h
    exact (edits_sweepHung hm _).then_effect (.forgotten rfl)

end Service

end Makaio.Subagent
