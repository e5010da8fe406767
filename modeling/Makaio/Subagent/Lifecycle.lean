import Makaio.Foundations.Counting
import Makaio.Foundations.Machine
import Makaio.Subagent.Effects

set_option autoImplicit false

/-!
# The lifecycle of subagents

An ended subagent stays as it ended until it is forgotten, every caller that awaits a subagent is
answered once, and so is every request for input — provided that no subagent fails while it asks
for input and none asks once it has ended, two things the service does not check.

## Main definitions

* `Manager.Requests`, `Manager.Awaits` — the invariants.
* `Lifecycle` — what a run of the service keeps, under a condition on its actions.

## Main results

* `lifecycle` — the lifecycle of subagents in careful runs.
* `not_lifecycle` — an input request revives a failed subagent.
-/

namespace Makaio.Subagent

open Foundations

/-! ### Requests for input -/

/-- An input call is answered at most once, and exactly once when its resolver has run. -/
structure InputCall.Once (c : InputCall) : Prop where
  /-- One response, once the resolver has run. -/
  responses : c.responses.length = if c.resolved then 1 else 0
  /-- At most one value is returned. -/
  returns : c.returns.length ≤ 1

/-- The invariant of the requests for input. -/
structure Manager.Requests (m : Manager) : Prop where
  /-- The records are well formed. -/
  records : m.RecordsOk
  /-- What is pending has not been answered. -/
  pending : ∀ id x request, m.get id = some x → x.pendingRequest = some request →
    ∃ c, m.inputCalls[request.resolver]? = some c ∧ c.subagentId = id ∧ c.resolved = false
  /-- What has not been answered is pending. -/
  asking : m.Asking
  /-- Each call is answered once. -/
  once : ∀ (i : ℕ) c, m.inputCalls[i]? = some c → c.Once

/-- A resolver answers once. -/
lemma InputCall.Once.resolve {c : InputCall} (h : c.Once) (response : Option String) :
    (c.resolve response).Once := by
  rw [InputCall.resolve]
  split_ifs with hres
  · exact h
  · have hlen := h.responses
    rw [if_neg hres] at hlen
    exact ⟨by simp [List.length_eq_zero_iff.mp hlen], h.returns⟩

variable {id : String} {y : TrackedSubagent} {e : Event} {s t : Service}

namespace Manager

variable {retention : Option ℤ} {m m' : Manager}

/-- Edits keep the invariant. -/
lemma Requests.edits (hm : m.Requests) (h : Edits m m') : m'.Requests where
  records := h.recordsOk hm.records
  pending id y request hy hp := by
    obtain ⟨x, hx, hxy⟩ := h.of_get hy
    rw [h.inputCalls]
    exact hm.pending id x request hx (hxy.pending ▸ hp)
  asking i c hc := by
    rw [h.inputCalls] at hc
    refine ⟨(hm.asking i c hc).1, fun hres => ?_⟩
    obtain ⟨x, request, hx, hp, hi⟩ := (hm.asking i c hc).2 hres
    obtain ⟨y, hy, hxy⟩ := h.get hx
    exact ⟨y, request, hy, hxy.pending.trans hp, hi⟩
  once i c hc := hm.once i c (h.inputCalls ▸ hc)

/-- Bookkeeping keeps the invariant. -/
lemma Requests.books (hm : m.Requests) (h : Books m m') : m'.Requests where
  records id x hx := hm.records id x (by rwa [← h.get id])
  pending id x request hx hp := by
    obtain ⟨c, hc, hid, hres⟩ := hm.pending id x request (by rwa [← h.get id]) hp
    obtain ⟨c', hc', hb⟩ := h.call hc
    exact ⟨c', hc', hb.subagentId.trans hid, hb.resolved.trans hres⟩
  asking i c' hc' := by
    obtain ⟨c, hc, hb⟩ := h.of_call hc'
    rw [hb.resolved, hb.subagentId, hb.responses, h.get]
    refine ⟨fun hres => ?_, (hm.asking i c hc).2⟩
    obtain ⟨hresponses, hreturns⟩ := (hm.asking i c hc).1 hres
    refine ⟨hresponses, ?_⟩
    rcases hb.returns with hr | ⟨hr, -⟩
    · rw [hr, hreturns]
    · rw [hr] at hres
      cases hres
  once i c' hc' := by
    obtain ⟨c, hc, hb⟩ := h.of_call hc'
    have ho := hm.once i c hc
    refine ⟨by rw [hb.responses, hb.resolved]; exact ho.responses, ?_⟩
    rcases hb.returns with hr | ⟨-, -, r, hr⟩
    · rw [hr]
      exact ho.returns
    · rw [hr]
      exact le_rfl

/-- The calls after the pending request of a record is answered. -/
lemma answerPending_calls (m : Manager) (x : TrackedSubagent) (response : Option String) :
    (m.answerPending x response).inputCalls = match x.pendingRequest with
      | none => m.inputCalls
      | some request => m.inputCalls.modify request.resolver (InputCall.resolve response) := by
  rw [answerPending]
  cases x.pendingRequest <;> rfl

/-- Only the calls change when a pending request is answered. -/
lemma answerPending_get (m : Manager) (x : TrackedSubagent) (response : Option String)
    (id : String) : (m.answerPending x response).get id = m.get id := by
  rw [answerPending]
  cases x.pendingRequest <;> rfl

/-- Answering the pending request of a subagent keeps the invariant.

**Proof sketch.** A call that is still open was open before, so it is not the one just answered; its
subagent asks for it, so it is not the subagent whose request was answered. -/
lemma Requests.answer (hm : m.Requests) {x : TrackedSubagent} (hx : m.get id = some x)
    (hp : y.pendingRequest = none) (response : Option String) :
    ((m.answerPending x response).put id y).Requests := by
  have hget : ∀ id', ((m.answerPending x response).put id y).get id' =
      if id' = id then some y else m.get id' := fun id' => by
    rw [get_put, answerPending_get]
  have hcalls : ((m.answerPending x response).put id y).inputCalls = match x.pendingRequest with
      | none => m.inputCalls
      | some request => m.inputCalls.modify request.resolver (InputCall.resolve response) :=
    answerPending_calls m x response
  -- a call of the new manager: unchanged, or the answered one
  have hof : ∀ (i : ℕ) c', ((m.answerPending x response).put id y).inputCalls[i]? = some c' →
      ∃ c, m.inputCalls[i]? = some c ∧ (c' = c ∨ c' = c.resolve response) ∧
        (c'.resolved = false → c' = c ∧ ∀ request, x.pendingRequest = some request →
          request.resolver ≠ i) := by
    intro i c' hc'
    rw [hcalls] at hc'
    cases hreq : x.pendingRequest with
    | none =>
      rw [hreq] at hc'
      exact ⟨c', hc', .inl rfl, fun _ => ⟨rfl, fun _ h => by cases h⟩⟩
    | some request =>
      rw [hreq] at hc'
      rw [List.getElem?_modify] at hc'
      obtain ⟨c, hc, rfl⟩ := Option.map_eq_some_iff.mp hc'
      refine ⟨c, hc, ?_, ?_⟩
      · split_ifs
        · exact .inr rfl
        · exact .inl rfl
      · split_ifs with hi
        · intro hopen
          rw [InputCall.resolved_resolve] at hopen
          cases hopen
        · exact fun _ => ⟨rfl, fun r hr => by cases hr; exact hi⟩
  constructor
  · intro id' z hz
    rw [hget] at hz
    split_ifs at hz
    · cases hz
      exact fun hne => absurd hp hne
    · exact hm.records id' z hz
  · intro id' z request hz hzp
    rw [hget] at hz
    split_ifs at hz with hid
    · cases hz
      rw [hp] at hzp
      cases hzp
    · obtain ⟨c, hc, hcid, hopen⟩ := hm.pending id' z request hz hzp
      refine ⟨c, ?_, hcid, hopen⟩
      rw [hcalls]
      cases hreq : x.pendingRequest with
      | none => exact hc
      | some request' =>
        -- the answered call belongs to another subagent
        have hne : request'.resolver ≠ request.resolver := by
          intro heq
          obtain ⟨c₂, hc₂, hid₂, -⟩ := hm.pending id x request' hx hreq
          rw [heq, hc] at hc₂
          cases hc₂
          exact hid (hcid.symm.trans hid₂)
        rw [List.getElem?_modify, hc]
        simp [hne]
  · intro i c' hc'
    obtain ⟨c, hc, hcc, hsame⟩ := hof i c' hc'
    have hboth : c'.resolved = false → (c'.responses = [] ∧ c'.returns = []) ∧
        ∃ z request, ((m.answerPending x response).put id y).get c'.subagentId = some z ∧
          z.pendingRequest = some request ∧ request.resolver = i := by
      intro hopen
      obtain ⟨rfl, hno⟩ := hsame hopen
      refine ⟨(hm.asking i c' hc).1 hopen, ?_⟩
      obtain ⟨z, request, hz, hzp, hi⟩ := (hm.asking i c' hc).2 hopen
      refine ⟨z, request, ?_, hzp, hi⟩
      rw [hget, if_neg]
      · exact hz
      · intro hid
        rw [hid, hx] at hz
        cases hz
        exact hno request hzp hi
    exact ⟨fun h => (hboth h).1, fun h => (hboth h).2⟩
  · intro i c' hc'
    obtain ⟨c, hc, hcc, -⟩ := hof i c' hc'
    rcases hcc with rfl | rfl
    · exact hm.once i c' hc
    · exact (hm.once i c hc).resolve response

/-- Telling awaiters changes neither records nor input calls. -/
lemma resolveAwaiters_get (m : Manager) (id id' : String) :
    (m.resolveAwaiters id).get id' = m.get id' := by
  rw [resolveAwaiters]
  cases m.get id <;> rfl

/-- Telling awaiters changes no input call. -/
lemma resolveAwaiters_inputCalls (m : Manager) (id : String) :
    (m.resolveAwaiters id).inputCalls = m.inputCalls := by
  rw [resolveAwaiters]
  cases m.get id <;> rfl

/-- The invariant reads records and input calls only. -/
lemma Requests.congr (hm : m.Requests) (hget : ∀ id, m'.get id = m.get id)
    (hcalls : m'.inputCalls = m.inputCalls) : m'.Requests where
  records id x hx := hm.records id x (by rwa [← hget])
  pending id x request hx hp := by
    rw [hcalls]
    exact hm.pending id x request (by rwa [← hget]) hp
  asking i c hc := by
    rw [hget]
    exact hm.asking i c (hcalls ▸ hc)
  once i c hc := hm.once i c (hcalls ▸ hc)

/-- A subagent that is tracked asks for nothing. -/
lemma Requests.put_new (hm : m.Requests) {x : TrackedSubagent} (hget : m.get id = none)
    (hp : x.pendingRequest = none) : (m.put id x).Requests where
  records id' z hz := by
    rw [get_put] at hz
    split_ifs at hz
    · cases hz
      exact fun hne => absurd hp hne
    · exact hm.records id' z hz
  pending id' z request hz hzp := by
    rw [get_put] at hz
    split_ifs at hz
    · cases hz
      rw [hp] at hzp
      cases hzp
    · exact hm.pending id' z request hz hzp
  asking i c hc := by
    refine ⟨(hm.asking i c hc).1, fun hopen => ?_⟩
    obtain ⟨z, request, hz, hzp, hi⟩ := (hm.asking i c hc).2 hopen
    refine ⟨z, request, ?_, hzp, hi⟩
    rw [get_put, if_neg]
    · exact hz
    · intro hid
      rw [hid, hget] at hz
      cases hz
  once i c hc := hm.once i c hc

/-- A new request is pending and open. -/
lemma Requests.ask (hm : m.Requests) {x : TrackedSubagent} {request : PendingRequest} {call : InputCall}
    (hget : m.get id = some x) (hpending : x.pendingRequest = none) (hok : y.Ok)
    (hrequest : y.pendingRequest = some request) (hresolver : request.resolver = m.inputCalls.length)
    (hcall : call.subagentId = id) (hopen : call.resolved = false) (hresponses : call.responses = [])
    (hreturns : call.returns = []) :
    ({ m.put id y with inputCalls := m.inputCalls ++ [call] } : Manager).Requests where
  records id' z hz := by
    have hz' := (get_put m id id' y).symm.trans hz
    split_ifs at hz'
    · cases hz'
      exact hok
    · exact hm.records id' z hz'
  pending id' z request' hz hzp := by
    have hz' := (get_put m id id' y).symm.trans hz
    split_ifs at hz' with hid
    · cases hz'
      rw [hrequest] at hzp
      cases hzp
      exact ⟨call, by rw [hresolver]; simp, hcall.trans hid.symm, hopen⟩
    · obtain ⟨c, hc, hcid, hres⟩ := hm.pending id' z request' hz' hzp
      exact ⟨c, getElem?_concat_eq_some.mpr (.inl hc), hcid, hres⟩
  asking i c hc := by
    rcases getElem?_concat_eq_some.mp hc with hc | ⟨hi, rfl⟩
    · refine ⟨(hm.asking i c hc).1, fun hres => ?_⟩
      obtain ⟨z, request', hz, hzp, hi⟩ := (hm.asking i c hc).2 hres
      refine ⟨z, request', (get_put m id c.subagentId y).trans ?_, hzp, hi⟩
      rw [if_neg]
      · exact hz
      · intro hid
        rw [hid, hget] at hz
        cases hz
        rw [hpending] at hzp
        cases hzp
    · refine ⟨fun _ => ⟨hresponses, hreturns⟩, fun _ => ⟨y, request, ?_, hrequest, ?_⟩⟩
      · exact (get_put m id call.subagentId y).trans (if_pos hcall)
      · rw [hresolver]
        omega
  once i c hc := by
    rcases getElem?_concat_eq_some.mp hc with hc | ⟨-, rfl⟩
    · exact hm.once i c hc
    · exact ⟨by rw [hresponses, hopen]; rfl, by rw [hreturns]; simp⟩

/-- Every effect keeps the invariant of the requests. -/
theorem Requests.effect (hm : m.Requests) (h : Effect retention m m') : m'.Requests := by
  cases h with
  | none => exact hm
  | forgotten h =>
    constructor
    · exact fun id x hx => hm.records id x (get_of_cleanup hx)
    · exact fun id x request hx hp => hm.pending id x request (get_of_cleanup hx) hp
    · intro i c hc
      refine ⟨(hm.asking i c hc).1, fun hopen => ?_⟩
      obtain ⟨x, request, hx, hp, hi⟩ := (hm.asking i c hc).2 hopen
      refine ⟨x, request, get_cleanup_of_active hx ?_, hp, hi⟩
      -- an ended subagent asks for nothing
      by_contra hended
      rw [(hm.records _ x hx).pending_of_ended (by simpa using hended)] at hp
      cases hp
    · exact hm.once
  | tracked hget hp => exact hm.put_new hget hp
  | ended hget h =>
    exact (hm.answer hget h.pending none).congr (resolveAwaiters_get _ _)
      (resolveAwaiters_inputCalls _ _)
  | asked hget h hpending hcandidate hrequest hstatus hresolver hcall hopen hresponses hreturns =>
    exact hm.ask hget hpending (fun _ => ⟨hstatus, h.candidate.trans hcandidate⟩) hrequest hresolver
      hcall hopen hresponses hreturns
  | @answered id x y request response hget h hrequest hpending =>
    have hm' := hm.answer hget hpending response
    rwa [answerPending, hrequest] at hm'
  | registered timer hget hactive | answeredAtOnce id answer | timedOut hcall htimer =>
    exact hm.congr (fun _ => rfl) rfl

end Manager

/-! ### Await calls -/

/-- An await call is answered exactly once when its callback has run, and not before; then its timer
is off. -/
structure AwaitCall.Once (c : AwaitCall) : Prop where
  /-- One answer, once the callback has run. -/
  answers : c.answers.length = if c.resolved then 1 else 0
  /-- An answered call has no timer. -/
  timer : c.timer = true → c.resolved = false

/-- The invariant of the await calls. -/
structure Manager.Awaits (m : Manager) : Prop where
  /-- Who is registered awaits an active subagent and has no answer. -/
  awaiters : ∀ id, ∀ i ∈ m.awaiters id, ∃ c x, m.awaitCalls[i]? = some c ∧ c.subagentId = id ∧
    c.resolved = false ∧ m.get id = some x ∧ x.ended = false
  /-- Nobody is registered twice. -/
  nodup : ∀ id, (m.awaiters id).Nodup
  /-- Each call is answered once. -/
  once : ∀ (i : ℕ) c, m.awaitCalls[i]? = some c → c.Once
  /-- Who has no answer is registered. -/
  registered : ∀ (i : ℕ) c, m.awaitCalls[i]? = some c → c.resolved = false →
    i ∈ m.awaiters c.subagentId

lemma AwaitCall.Once.answer {c : AwaitCall} (h : c.Once) (answer : AwaitAnswer) :
    (c.answer answer).Once := by
  rw [AwaitCall.answer]
  split_ifs with hres
  · exact h
  · have hlen := h.answers
    rw [if_neg hres] at hlen
    exact ⟨by simp [List.length_eq_zero_iff.mp hlen], fun h => by cases h⟩

/-- A callback that has run. -/
lemma AwaitCall.resolved_answer (answer : AwaitAnswer) (c : AwaitCall) :
    (c.answer answer).resolved = true := by
  rw [AwaitCall.answer]
  split_ifs with h
  · exact h
  · rfl

/-- A callback stays with its subagent. -/
lemma AwaitCall.subagentId_answer (answer : AwaitAnswer) (c : AwaitCall) :
    (c.answer answer).subagentId = c.subagentId := by
  rw [AwaitCall.answer]
  split_ifs <;> rfl

/-- A callback runs once. -/
lemma AwaitCall.answer_answer (answer : AwaitAnswer) (c : AwaitCall) :
    (c.answer answer).answer answer = c.answer answer := by
  rw [AwaitCall.answer, if_pos (AwaitCall.resolved_answer answer c)]

lemma AwaitCall.answer_of_open {c : AwaitCall} (h : c.resolved = false) (answer : AwaitAnswer) :
    c.answer answer = { c with resolved := true, timer := false, answers := c.answers ++ [answer] } := by
  rw [AwaitCall.answer, h]
  rfl

/-- Calls after the callbacks of a list have run. -/
lemma getElem?_foldl_answer (answer : AwaitAnswer) (l : List ℕ) : ∀ (calls : List AwaitCall) (i : ℕ),
    (l.foldl (fun calls i => calls.modify i (AwaitCall.answer answer)) calls)[i]? =
      (calls[i]?).map fun c => if i ∈ l then c.answer answer else c := by
  induction l with
  | nil => simp
  | cons j l ih =>
    intro calls i
    rw [List.foldl_cons, ih, List.getElem?_modify]
    cases calls[i]? with
    | none => rfl
    | some c =>
      by_cases hj : j = i
      · subst hj
        by_cases hl : j ∈ l
        · simp [hl, AwaitCall.answer_answer]
        · simp [hl]
      · simp [hj, Ne.symm hj]

namespace Manager

variable {retention : Option ℤ} {m m' : Manager}

/-- The await calls after a subagent's awaiters are told. -/
lemma resolveAwaiters_calls {x : TrackedSubagent} (hget : m.get id = some x) (i : ℕ) :
    (m.resolveAwaiters id).awaitCalls[i]? = (m.awaitCalls[i]?).map fun c =>
      if i ∈ m.awaiters id then c.answer (.ended x.awaitResult) else c := by
  rw [resolveAwaiters, hget]
  exact getElem?_foldl_answer _ _ _ _

/-- The awaiters after a subagent's awaiters are told. -/
lemma resolveAwaiters_awaiters {x : TrackedSubagent} (hget : m.get id = some x) :
    (m.resolveAwaiters id).awaiters = Function.update m.awaiters id [] := by
  rw [resolveAwaiters, hget]

/-- Nobody awaits what is not tracked. -/
lemma Awaits.awaited (hm : m.Awaits) : m.Awaited := fun id hget => by
  refine List.eq_nil_iff_forall_not_mem.mpr fun i hi => ?_
  obtain ⟨-, x, -, -, -, hx, -⟩ := hm.awaiters id i hi
  rw [hget] at hx
  cases hx

/-- The invariant survives as long as active subagents that are awaited stay active. -/
lemma Awaits.congr (hm : m.Awaits)
    (hactive : ∀ id x, m.get id = some x → x.ended = false →
      ∃ y, m'.get id = some y ∧ y.ended = false)
    (hawaiters : m'.awaiters = m.awaiters) (hcalls : m'.awaitCalls = m.awaitCalls) : m'.Awaits where
  awaiters id i hi := by
    rw [hawaiters] at hi
    obtain ⟨c, x, hc, hid, hres, hx, hx'⟩ := hm.awaiters id i hi
    obtain ⟨y, hy, hy'⟩ := hactive id x hx hx'
    exact ⟨c, y, hcalls ▸ hc, hid, hres, hy, hy'⟩
  nodup id := hawaiters ▸ hm.nodup id
  once i c hc := hm.once i c (hcalls ▸ hc)
  registered i c hc hres := hawaiters ▸ hm.registered i c (hcalls ▸ hc) hres

/-- Edits keep the invariant. -/
lemma Awaits.edits (hm : m.Awaits) (h : Edits m m') : m'.Awaits :=
  hm.congr (fun id x hx hactive => by
    obtain ⟨y, hy, hxy⟩ := h.get hx
    exact ⟨y, hy, hxy.ended.trans hactive⟩) h.awaiters h.awaitCalls

/-- Bookkeeping keeps the invariant. -/
lemma Awaits.books (hm : m.Awaits) (h : Books m m') : m'.Awaits :=
  hm.congr (fun id x hx hactive => ⟨x, (h.get id).trans hx, hactive⟩) h.awaiters h.awaitCalls

/-- Writing a record whose subagent is active. -/
lemma active_put (hy : y.ended = false) (id' : String) (x : TrackedSubagent) (hx : m.get id' = some x)
    (hactive : x.ended = false) :
    ∃ z, (m.put id y).get id' = some z ∧ z.ended = false := by
  rw [get_put]
  split_ifs
  · exact ⟨y, rfl, hy⟩
  · exact ⟨x, hx, hactive⟩

/-- Answering a pending request concerns no await call. -/
lemma answerPending_awaits (m : Manager) (x : TrackedSubagent) (response : Option String) :
    (m.answerPending x response).awaiters = m.awaiters ∧
      (m.answerPending x response).awaitCalls = m.awaitCalls := by
  rw [answerPending]
  cases x.pendingRequest <;> exact ⟨rfl, rfl⟩

/-- The end of a subagent answers everyone who awaits it. -/
lemma Awaits.end (hm : m.Awaits) : ((m.put id y).resolveAwaiters id).Awaits := by
  have hself : (m.put id y).get id = some y := get_put_self m id y
  have hcalls := resolveAwaiters_calls hself
  have hawaiters := resolveAwaiters_awaiters hself
  have hget : ∀ id' ≠ id, ((m.put id y).resolveAwaiters id).get id' = m.get id' := by
    intro id' hne
    rw [resolveAwaiters_get, get_put, if_neg hne]
  -- the call behind a call of the new manager
  have hof : ∀ (i : ℕ) c', ((m.put id y).resolveAwaiters id).awaitCalls[i]? = some c' →
      ∃ c, m.awaitCalls[i]? = some c ∧ c.Once ∧
        (i ∈ m.awaiters id ∧ c' = c.answer (.ended y.awaitResult) ∨ i ∉ m.awaiters id ∧ c' = c) := by
    intro i c' hc'
    rw [hcalls] at hc'
    obtain ⟨c, hc, rfl⟩ := Option.map_eq_some_iff.mp hc'
    refine ⟨c, hc, hm.once i c hc, ?_⟩
    by_cases hi : i ∈ m.awaiters id
    · exact .inl ⟨hi, if_pos hi⟩
    · exact .inr ⟨hi, if_neg hi⟩
  constructor
  · intro id' i hi
    rw [hawaiters] at hi
    by_cases hid : id' = id
    · subst hid
      rw [Function.update_self] at hi
      cases hi
    · rw [Function.update_of_ne hid] at hi
      obtain ⟨c, x, hc, hcid, hres, hx, hactive⟩ := hm.awaiters id' i hi
      refine ⟨c, x, ?_, hcid, hres, (hget id' hid).trans hx, hactive⟩
      have hno : i ∉ (m.put id y).awaiters id := fun hmem => by
        obtain ⟨c₂, -, hc₂, hid₂, -⟩ := hm.awaiters id i hmem
        rw [hc] at hc₂
        cases hc₂
        exact hid (hcid.symm.trans hid₂)
      rw [hcalls]
      exact (congrArg _ hc).trans (congrArg some (if_neg hno))
  · intro id'
    rw [hawaiters]
    by_cases hid : id' = id
    · subst hid
      rw [Function.update_self]
      exact List.nodup_nil
    · rw [Function.update_of_ne hid]
      exact hm.nodup id'
  · intro i c' hc'
    obtain ⟨c, -, honce, ⟨-, rfl⟩ | ⟨-, rfl⟩⟩ := hof i c' hc'
    · exact honce.answer _
    · exact honce
  · intro i c' hc' hres
    obtain ⟨c, hc, -, ⟨-, rfl⟩ | ⟨hi, rfl⟩⟩ := hof i c' hc'
    · rw [AwaitCall.resolved_answer] at hres
      cases hres
    · have hreg := hm.registered i c' hc hres
      rw [hawaiters, Function.update_of_ne]
      · exact hreg
      · intro hid
        exact hi (hid ▸ hreg)

/-- A new call may be registered for an active subagent. -/
lemma Awaits.register {x : TrackedSubagent} (hm : m.Awaits) (timer : Bool) (hget : m.get id = some x)
    (hactive : x.ended = false) :
    Awaits { m.addAwaiter id m.awaitCalls.length with
      awaitCalls := m.awaitCalls ++ [⟨id, false, timer, []⟩] } := by
  constructor
  · intro id' i hi
    dsimp only [addAwaiter] at hi
    by_cases hid : id' = id
    · subst hid
      rw [Function.update_self, List.mem_append, List.mem_singleton] at hi
      rcases hi with hi | rfl
      · obtain ⟨c, x', hc, hcid, hres, hx'⟩ := hm.awaiters id' i hi
        exact ⟨c, x', getElem?_concat_eq_some.mpr (.inl hc), hcid, hres,
          hx'⟩
      · exact ⟨⟨id', false, timer, []⟩, x, by simp, rfl, rfl, hget, hactive⟩
    · rw [Function.update_of_ne hid] at hi
      obtain ⟨c, x', hc, hcid, hres, hx'⟩ := hm.awaiters id' i hi
      exact ⟨c, x', getElem?_concat_eq_some.mpr (.inl hc), hcid, hres,
        hx'⟩
  · intro id'
    dsimp only [addAwaiter]
    by_cases hid : id' = id
    · subst hid
      rw [Function.update_self, List.nodup_append]
      refine ⟨hm.nodup id', List.nodup_singleton _, ?_⟩
      intro i hi j hj
      rw [List.mem_singleton] at hj
      subst hj
      obtain ⟨c, -, hc, -⟩ := hm.awaiters id' i hi
      exact (List.getElem?_eq_some_iff.mp hc).1.ne
    · rw [Function.update_of_ne hid]
      exact hm.nodup id'
  · intro i c hc
    rcases getElem?_concat_eq_some.mp hc with hc | ⟨-, rfl⟩
    · exact hm.once i c hc
    · exact ⟨rfl, fun _ => rfl⟩
  · intro i c hc hres
    dsimp only [addAwaiter]
    rcases getElem?_concat_eq_some.mp hc with hc | ⟨hi, rfl⟩
    · have hreg := hm.registered i c hc hres
      by_cases hid : c.subagentId = id
      · rw [hid, Function.update_self]
        exact List.mem_append_left _ (hid ▸ hreg)
      · rwa [Function.update_of_ne hid]
    · rw [Function.update_self]
      exact List.mem_append_right _ (List.mem_singleton.mpr (by omega))

/-- A new call may be answered at once. -/
lemma Awaits.answeredAtOnce (hm : m.Awaits) (id : String) (answer : AwaitAnswer) :
    Awaits { m with awaitCalls := m.awaitCalls ++ [⟨id, true, false, [answer]⟩] } := by
  constructor
  · intro id' i hi
    obtain ⟨c, x', hc, hrest⟩ := hm.awaiters id' i hi
    exact ⟨c, x', getElem?_concat_eq_some.mpr (.inl hc), hrest⟩
  · exact hm.nodup
  · intro i c hc
    rcases getElem?_concat_eq_some.mp hc with hc | ⟨-, rfl⟩
    · exact hm.once i c hc
    · exact ⟨rfl, fun h => by cases h⟩
  · intro i c hc hres
    rcases getElem?_concat_eq_some.mp hc with hc | ⟨-, rfl⟩
    · exact hm.registered i c hc hres
    · cases hres

/-- A call is dropped when it has timed out. -/
lemma Awaits.timeOut {i : ℕ} {c : AwaitCall} (hm : m.Awaits) (hcall : m.awaitCalls[i]? = some c) :
    Awaits { m.removeAwaiter c.subagentId i with
      awaitCalls := m.awaitCalls.modify i (AwaitCall.answer .timeout) } := by
  -- the call behind a call of the new manager
  have hof : ∀ (j : ℕ) d', (m.awaitCalls.modify i (AwaitCall.answer .timeout))[j]? = some d' →
      ∃ d, m.awaitCalls[j]? = some d ∧
        (j = i ∧ d' = d.answer .timeout ∨ j ≠ i ∧ d' = d) := by
    intro j d' hd'
    rw [List.getElem?_modify] at hd'
    obtain ⟨d, hd, rfl⟩ := Option.map_eq_some_iff.mp hd'
    refine ⟨d, hd, ?_⟩
    by_cases hj : i = j
    · exact .inl ⟨hj.symm, if_pos hj⟩
    · exact .inr ⟨Ne.symm hj, if_neg hj⟩
  have hmem : ∀ id j, j ∈ (m.removeAwaiter c.subagentId i).awaiters id →
      j ∈ m.awaiters id ∧ (id = c.subagentId → j ≠ i) := by
    intro id j hj
    dsimp only [removeAwaiter] at hj
    by_cases hid : id = c.subagentId
    · subst hid
      rw [Function.update_self, (hm.nodup _).mem_erase_iff] at hj
      exact ⟨hj.2, fun _ => hj.1⟩
    · rw [Function.update_of_ne hid] at hj
      exact ⟨hj, fun h => absurd h hid⟩
  constructor
  · intro id j hj
    obtain ⟨hj', hne⟩ := hmem id j hj
    obtain ⟨d, x, hd, hdid, hres, hx⟩ := hm.awaiters id j hj'
    refine ⟨d, x, ?_, hdid, hres, hx⟩
    have hij : i ≠ j := by
      rintro rfl
      rw [hcall] at hd
      cases hd
      exact hne hdid.symm rfl
    rw [List.getElem?_modify, hd]
    simp [hij]
  · intro id
    dsimp only [removeAwaiter]
    by_cases hid : id = c.subagentId
    · subst hid
      rw [Function.update_self]
      exact (hm.nodup _).erase i
    · rw [Function.update_of_ne hid]
      exact hm.nodup id
  · intro j d' hd'
    obtain ⟨d, hd, ⟨-, rfl⟩ | ⟨-, rfl⟩⟩ := hof j d' hd'
    · exact (hm.once j d hd).answer _
    · exact hm.once j d' hd
  · intro j d' hd' hres
    obtain ⟨d, hd, ⟨-, rfl⟩ | ⟨hj, rfl⟩⟩ := hof j d' hd'
    · rw [AwaitCall.resolved_answer] at hres
      cases hres
    · have hreg := hm.registered j d' hd hres
      dsimp only [removeAwaiter]
      by_cases hid : d'.subagentId = c.subagentId
      · rw [hid, Function.update_self, (hm.nodup _).mem_erase_iff]
        exact ⟨hj, hid ▸ hreg⟩
      · rwa [Function.update_of_ne hid]

/-- Every effect keeps the invariant of the await calls. -/
theorem Awaits.effect (hm : m.Awaits) (h : Effect retention m m') : m'.Awaits := by
  cases h with
  | none => exact hm
  | forgotten h =>
    exact hm.congr (fun id x hx hactive => ⟨x, get_cleanup_of_active hx hactive, hactive⟩) rfl rfl
  | @tracked id x hget hp =>
    refine hm.congr (fun id' x' hx' hactive => ⟨x', ?_, hactive⟩) rfl rfl
    rw [get_put, if_neg]
    · exact hx'
    · rintro rfl
      rw [hget] at hx'
      cases hx'
  | @ended id x y hget h =>
    have hframe := answerPending_awaits m x none
    have hcongr : (m.answerPending x none).Awaits :=
      hm.congr (fun id' x' hx' hactive => ⟨x', (answerPending_get m x none id').trans hx', hactive⟩)
        hframe.1 hframe.2
    exact hcongr.end
  | asked hget h | answered hget h => exact hm.congr (active_put h.active') rfl rfl
  | registered timer hget hactive => exact hm.register timer hget hactive
  | answeredAtOnce id answer => exact hm.answeredAtOnce id answer
  | timedOut hcall htimer => exact hm.timeOut hcall

end Manager

/-! ### Runs -/

/-- Both invariants. -/
structure Manager.Inv (m : Manager) : Prop where
  /-- Requests for input. -/
  requests : m.Requests
  /-- Await calls. -/
  awaits : m.Awaits

variable {m m' : Manager} {retention : Option ℤ}

/-- Every change keeps the invariants. -/
lemma Manager.Inv.changes (hm : m.Inv) (h : Changes retention m m') : m'.Inv := by
  obtain ⟨m₁, m₂, m₃, hedits, hbooks, heffect, hbooks'⟩ := h
  exact ⟨(((hm.requests.edits hedits).books hbooks).effect heffect).books hbooks',
    (((hm.awaits.edits hedits).books hbooks).effect heffect).books hbooks'⟩

/-- A service at its construction. -/
def Started (s : Service) : Prop := ∃ now, s = Service.initial now

/-- Nothing is tracked and nobody calls at the construction. -/
lemma Manager.Inv.initial (now : ℕ) : (Service.initial now).manager.Inv := by
  have hget : ∀ id, (Service.initial now).manager.get id = none := fun _ => rfl
  have hinput : ∀ i : ℕ, (Service.initial now).manager.inputCalls[i]? = none := fun _ => rfl
  have hawait : ∀ i : ℕ, (Service.initial now).manager.awaitCalls[i]? = none := fun _ => rfl
  constructor
  · constructor
    · intro id x hx
      cases hx
    · intro id x request hx
      cases hx
    · intro i c hc
      cases hc
    · intro i c hc
      cases hc
  · constructor
    · intro id i hi
      cases hi
    · exact fun _ => List.nodup_nil
    · intro i c hc
      cases hc
    · intro i c hc
      cases hc

variable {constraints : SubagentConstraints}

/-- Careful actions keep the invariants. -/
lemma Manager.Inv.step (hm : s.manager.Inv) (hok : Careful s e) (h : s.step constraints e = some t) :
    t.manager.Inv :=
  hm.changes (Service.step_effect hm.requests.records hm.awaits.awaited hm.requests.asking hok h)

/-- The invariants hold in careful runs. -/
theorem Manager.Inv.of_reach (hs : Reach Started (Service.step constraints) Careful s) : s.manager.Inv := by
  refine hs.invariant (fun s => s.manager.Inv) ?_ fun s e t hm hok h => hm.step hok h
  rintro s ⟨now, rfl⟩
  exact .initial now

/-! ### What a change tells awaiters -/

/-- An await call goes on, with its timer as it is, or is answered: by the snapshot of its subagent,
which has ended, or by its own timer while its subagent is active. -/
def Told (m m' : Manager) : Prop :=
  ∀ (i : ℕ) c, m.awaitCalls[i]? = some c →
    ∃ c', m'.awaitCalls[i]? = some c' ∧ c'.subagentId = c.subagentId ∧
      (c' = c ∨ c.answers = [] ∧
        ((∃ y, m'.get c.subagentId = some y ∧ y.ended = true ∧
            c'.answers = [.ended y.awaitResult]) ∨
          c.timer = true ∧ c'.answers = [.timeout] ∧
            ∃ x, m.get c.subagentId = some x ∧ x.ended = false))

/-- The record of an ended subagent keeps its outcome, unless it is forgotten. -/
def Stays (retention : Option ℤ) (m m' : Manager) : Prop :=
  ∀ id x, m.get id = some x → x.ended = true →
    retention ≠ none ∧ m'.get id = none ∨ ∃ y, m'.get id = some y ∧ y.outcome = x.outcome

/-- Nobody is told anything. -/
lemma Told.of_eq (h : m'.awaitCalls = m.awaitCalls) : Told m m' :=
  fun _ c hc => ⟨c, h ▸ hc, rfl, .inl rfl⟩

/-- Calls appended are no answers to the others. -/
lemma Told.of_append {calls : List AwaitCall} (h : m'.awaitCalls = m.awaitCalls ++ calls) : Told m m' :=
  fun i c hc => ⟨c, by
    rw [h, List.getElem?_append_left (List.getElem?_eq_some_iff.mp hc).1, hc], rfl, .inl rfl⟩

/-- What an effect tells awaiters. -/
lemma Told.effect (hm : m.Awaits) (h : Effect retention m m') : Told m m' := by
  cases h with
  | none | forgotten | tracked | asked | answered => exact .of_eq rfl
  | registered | answeredAtOnce => exact .of_append rfl
  | @ended id x y hget hends =>
    intro i c hc
    have hself : ((m.answerPending x none).put id y).get id = some y := Manager.get_put_self _ id y
    have hcalls := Manager.resolveAwaiters_calls hself i
    have hframe := Manager.answerPending_awaits m x none
    have hc' : ((m.answerPending x none).put id y).awaitCalls[i]? = some c := by
      rw [← hc]
      exact congrArg (·[i]?) hframe.2
    have hmem : ((m.answerPending x none).put id y).awaiters id = m.awaiters id :=
      congrFun hframe.1 id
    rw [hc', Option.map_some, hmem] at hcalls
    refine ⟨_, hcalls, ?_, ?_⟩
    · split_ifs
      · exact AwaitCall.subagentId_answer _ c
      · rfl
    · split_ifs with hi
      · obtain ⟨d, x', hd, hdid, hopen, -⟩ := hm.awaiters id i hi
        rw [hc] at hd
        cases hd
        have hnil : c.answers = [] := by
          have hlen := (hm.once i c hc).answers
          rw [hopen] at hlen
          exact List.length_eq_zero_iff.mp hlen
        refine .inr ⟨hnil, .inl ⟨y, ?_, hends.ended, ?_⟩⟩
        · rw [Manager.resolveAwaiters_get, hdid, hself]
        · rw [AwaitCall.answer_of_open hopen, hnil]
          rfl
      · exact .inl rfl
  | @timedOut i c hcall htimer =>
    intro j d hd
    refine ⟨if i = j then d.answer .timeout else d, ?_, ?_, ?_⟩
    · rw [List.getElem?_modify, hd]
      rfl
    · split_ifs
      · exact AwaitCall.subagentId_answer _ d
      · rfl
    · split_ifs with hij
      · subst hij
        rw [hcall] at hd
        cases hd
        have honce := hm.once i c hcall
        have hopen := honce.timer htimer
        have hnil : c.answers = [] := by
          have hlen := honce.answers
          rw [hopen] at hlen
          exact List.length_eq_zero_iff.mp hlen
        obtain ⟨-, x, -, -, -, hx, hactive⟩ :=
          hm.awaiters c.subagentId i (hm.registered i c hcall hopen)
        refine .inr ⟨hnil, .inr ⟨htimer, ?_, x, hx, hactive⟩⟩
        rw [AwaitCall.answer_of_open hopen, hnil]
        rfl
      · exact .inl rfl

/-- What an effect leaves of ended subagents. -/
lemma Stays.effect (h : Effect retention m m') : Stays retention m m' := by
  -- writing the record of an active subagent
  have put : ∀ {m₁ : Manager} {id : String} {x y : TrackedSubagent},
      (∀ id', m₁.get id' = m.get id') → m.get id = some x → x.ended = false → ∀ id' x',
        m.get id' = some x' → x'.ended = true → (m₁.put id y).get id' = some x' := by
    intro m₁ id x y hframe hx hactive id' x' hx' hended
    rw [Manager.get_put, if_neg, hframe, hx']
    rintro rfl
    rw [hx] at hx'
    cases hx'
    rw [hactive] at hended
    cases hended
  intro id' x' hx' hended
  cases h with
  | none => exact .inr ⟨x', hx', rfl⟩
  | @forgotten r hr =>
    rw [Manager.get?_cleanup, hx', Option.filter_some]
    split_ifs
    · exact .inr ⟨x', rfl, rfl⟩
    · exact .inl ⟨by rw [hr]; simp, rfl⟩
  | @tracked id x hget =>
    refine .inr ⟨x', ?_, rfl⟩
    rw [Manager.get_put, if_neg, hx']
    rintro rfl
    rw [hget] at hx'
    cases hx'
  | ended hget h =>
    refine .inr ⟨x', ?_, rfl⟩
    rw [Manager.resolveAwaiters_get]
    exact put (Manager.answerPending_get m _ none) hget h.active id' x' hx' hended
  | asked hget h | answered hget h => exact .inr ⟨x', put (fun _ => rfl) hget h.active id' x' hx' hended, rfl⟩
  | registered | answeredAtOnce | timedOut => exact .inr ⟨x', hx', rfl⟩

/-- What a change tells awaiters. -/
lemma Told.changes (hm : m.Inv) (h : Changes retention m m') : Told m m' := by
  obtain ⟨m₁, m₂, m₃, hedits, hbooks, heffect, hbooks'⟩ := h
  have hawaits : m₂.Awaits := (hm.awaits.edits hedits).books hbooks
  intro i c hc
  obtain ⟨c', hc', hid, hcase⟩ := Told.effect hawaits heffect i c (by
    rw [hbooks.awaitCalls, hedits.awaitCalls, hc])
  refine ⟨c', by rw [hbooks'.awaitCalls, hc'], hid, ?_⟩
  rcases hcase with hsame | ⟨hnil, ⟨y, hy, hended, ha⟩ | ⟨htimer, ha, x, hx, hactive⟩⟩
  · exact .inl hsame
  · exact .inr ⟨hnil, .inl ⟨y, by rw [hbooks'.get, hy], hended, ha⟩⟩
  · rw [hbooks.get] at hx
    obtain ⟨x₀, hx₀, hedit⟩ := hedits.of_get hx
    exact .inr ⟨hnil, .inr ⟨htimer, ha, x₀, hx₀, hedit.ended.symm.trans hactive⟩⟩

/-- What a change leaves of ended subagents. -/
lemma Stays.changes (h : Changes retention m m') : Stays retention m m' := by
  obtain ⟨m₁, m₂, m₃, hedits, hbooks, heffect, hbooks'⟩ := h
  intro id x hx hended
  obtain ⟨x₁, hx₁, hedit⟩ := hedits.get hx
  rcases Stays.effect heffect id x₁ (by rw [hbooks.get, hx₁])
    (hedit.ended.trans hended) with ⟨hr, hnone⟩ | ⟨y, hy, hout⟩
  · exact .inl ⟨hr, by rw [hbooks'.get, hnone]⟩
  · exact .inr ⟨y, by rw [hbooks'.get, hy], hout.trans (hedit.outcome hended)⟩

/-! ### Late calls -/

/-- Writing one record leaves the others. -/
lemma get_finalizeCompletionIfReady (m : Manager) {id' : String} (hne : id' ≠ id) :
    (m.finalizeCompletionIfReady id).get id' = m.get id' := by
  have hput : ∀ y, ((m.put id y).resolveAwaiters id).get id' = m.get id' := fun y => by
    rw [Manager.resolveAwaiters_get, Manager.get_put, if_neg hne]
  rcases m.finalizeCompletionIfReady_cases id with h | ⟨_, _, -, -, -, ⟨error, h⟩ | h⟩
  · rw [h]
  · rw [h]
    rcases m.markFailed_cases id error with ⟨h, -⟩ | ⟨x, -, -, h⟩
    · rw [h]
    · rw [h]
      exact hput _
  · rw [h]
    exact hput _

/-- A completion intent leaves the other records. -/
lemma get_recordCompletionCandidate {id' turnId result : String} {summary : Option String}
    {source : CompletionMode} (hne : id' ≠ id)
    (h : m.recordCompletionCandidate id turnId result summary source = .ok m') :
    m'.get id' = m.get id' := by
  rw [Manager.recordCompletionCandidate] at h
  cases hget : m.get id with
  | none => rw [hget] at h; cases h
  | some x =>
    rw [hget] at h
    dsimp only at h
    split at h
    · split_ifs at h
      cases h
      rfl
    · split_ifs at h
      cases h
      rw [Manager.get_put, if_neg hne]

variable {x : TrackedSubagent}

/-- The end of an agent turn concerns an active subagent only. -/
lemma get_handleAgentComplete (m : Manager) (payload : AgentComplete) (hx : m.get id = some x)
    (hended : x.ended = true) :
    (handleAgentComplete m payload).get id = some x := by
  rcases handleAgentComplete_cases (rfl : handleAgentComplete m payload = _) with
    h | ⟨id₀, x₀, turnId, result, m₁, hget, hactive, hrec, h⟩
  · rw [h, hx]
  · have hne : id ≠ id₀ := by
      rintro rfl
      rw [hx] at hget
      cases hget
      rw [hended] at hactive
      cases hactive
    rw [h, get_finalizeCompletionIfReady m₁ hne, get_recordCompletionCandidate hne hrec, hx]

/-- A subagent to which nothing more may be said: it has ended, or has a completion intent. -/
def TrackedSubagent.Closed (x : TrackedSubagent) : Prop :=
  x.ended = true ∨ x.completionCandidate ≠ none

/-- Calls that come too late leave the service as it is: messages to and input requests of a subagent
that has ended or has a completion intent, and completions of a subagent that has ended. -/
structure LateCallsIgnored (s : Service) (e : Event) (t : Service) : Prop where
  /-- A message. -/
  send : ∀ id content inResponseTo x, e = .send id content inResponseTo →
    s.manager.get id = some x → x.Closed → t = s
  requestInput : ∀ id messageId question context timeoutMs x,
    e = .requestInput id messageId question context timeoutMs →
    s.manager.get id = some x → x.Closed → t = s
  /-- A completion call. -/
  completeTask : ∀ sessionId turnId result summary id x,
    e = .completeTask sessionId turnId result summary →
    s.manager.getByChildSessionId sessionId = some (id, x) → x.ended = true → t = s
  /-- The end of a turn of a subagent in turn mode. -/
  agentComplete : ∀ payload id x, e = .agentComplete payload → s.manager.get id = some x →
    x.ended = true → t.manager.get id = some x

/-- Nothing is pending for a subagent to which nothing more may be said. -/
lemma TrackedSubagent.Ok.pending_of_closed (h : x.Ok) (hc : x.Closed) :
    x.pendingRequest = none := by
  rcases hc with he | hc
  · exact h.pending_of_ended he
  · exact h.pending_of_candidate hc

/-- A message to a closed subagent changes nothing. -/
lemma handleSendRpc_of_closed (hm : m.RecordsOk) {content : String} {inResponseTo : Option String}
    (hx : m.get id = some x) (hc : x.Closed) (h : handleSendRpc m id content inResponseTo = .ok m') :
    m' = m := by
  have hp := (hm id x hx).pending_of_closed hc
  rw [handleSendRpc, hx] at h
  dsimp only at h
  split_ifs at h with hs hcand hr
  · -- no request is pending that the message could answer
    obtain ⟨-, hsome, heq⟩ := hr
    rw [← heq, hp] at hsome
    cases hsome
  · cases h
    rfl

/-- Late calls are ignored in a careful action. -/
lemma LateCallsIgnored.of_step (hm : s.manager.Inv) (hok : Careful s e) (h : s.step constraints e = some t) :
    LateCallsIgnored s e t where
  send id content inResponseTo x he hx hc := by
    subst he
    cases h
    cases hr : handleSendRpc s.manager id content inResponseTo with
    | error e => rfl
    | ok m' =>
      rw [handleSendRpc_of_closed hm.requests.records hx hc hr]
      rfl
  requestInput id messageId question context timeoutMs x he hx hc := by
    subst he
    cases h
    have hcand : x.completionCandidate.isSome = true := by
      rcases hc with hended | hcand
      · rw [Careful, Service.careful, hx, Option.all_some, hended] at hok
        simpa using hok
      · exact Option.isSome_iff_ne_none.mpr hcand
    rw [handleRequestInputRpc, hx]
    dsimp only
    rw [if_pos hcand]
    rfl
  completeTask sessionId turnId result summary id x he hfind hended := by
    subst he
    cases h
    rw [TrackedSubagent.ended] at hended
    rw [handleCompleteTaskRpc, hfind]
    dsimp only
    rw [if_pos hended]
    rfl
  agentComplete payload id x he hx hended := by
    subst he
    cases h
    exact get_handleAgentComplete s.manager payload hx hended

/-! ### The lifecycle -/

/-- Await calls: each is answered at most once; one without an answer is registered for a subagent
that is active, and its timer, if it has one, answers it; nobody is registered for an ended
subagent. -/
structure AwaitsAnswered (constraints : SubagentConstraints) (s : Service) : Prop where
  /-- At most one answer. -/
  once : ∀ (i : ℕ) c, s.manager.awaitCalls[i]? = some c → c.answers.length ≤ 1
  /-- Who has no answer is registered for an active subagent. -/
  waiting : ∀ (i : ℕ) c, s.manager.awaitCalls[i]? = some c → c.answers = [] →
    i ∈ s.manager.awaiters c.subagentId ∧
      ∃ x, s.manager.get c.subagentId = some x ∧ x.ended = false
  /-- An armed timer answers. -/
  timer : ∀ (i : ℕ) c, s.manager.awaitCalls[i]? = some c → c.timer = true →
    ∃ t c', s.step constraints (.awaitTimeout i) = some t ∧
      t.manager.awaitCalls[i]? = some c' ∧ c'.answers = [.timeout]
  /-- No awaiter of an ended subagent stays registered. -/
  ended : ∀ id x, s.manager.get id = some x → x.ended = true → s.manager.awaiters id = []

/-- Requests for input: a subagent has at most one pending, none together with a completion intent
and none once it has ended; each is answered at most once, and one without an answer is the pending
request of an active subagent; an answer reaches the caller, once. -/
structure RequestsAnswered (constraints : SubagentConstraints) (s : Service) : Prop where
  /-- Not together with a completion intent, nor after the end. -/
  exclusive : ∀ id x, s.manager.get id = some x → x.Closed → x.pendingRequest = none
  /-- At most one open call for each subagent. -/
  one : ∀ (i j : ℕ) c d, s.manager.inputCalls[i]? = some c → s.manager.inputCalls[j]? = some d →
    c.responses = [] → d.responses = [] → c.subagentId = d.subagentId → i = j
  /-- At most one response and one return. -/
  once : ∀ (i : ℕ) c, s.manager.inputCalls[i]? = some c →
    c.responses.length ≤ 1 ∧ c.returns.length ≤ 1
  /-- What has no answer is the pending request of an active subagent. -/
  waiting : ∀ (i : ℕ) c, s.manager.inputCalls[i]? = some c → c.responses = [] →
    c.returns = [] ∧ ∃ x request, s.manager.get c.subagentId = some x ∧ x.ended = false ∧
      x.pendingRequest = some request ∧ request.resolver = i
  /-- An answer reaches the caller. -/
  returned : ∀ (i : ℕ) c, s.manager.inputCalls[i]? = some c → c.responses ≠ [] → c.returns = [] →
    ∃ t c' r, s.step constraints (.inputReturn i) = some t ∧
      t.manager.inputCalls[i]? = some c' ∧ c'.returns = [r]

/-- What an await call is told when it is made. -/
def FirstAnswer (m : Manager) (id : String) (answers : List AwaitAnswer) : Prop :=
  match m.get id with
  | none => answers = [.rejected (subagentNotFound id).message]
  | some x =>
    if x.ended then answers = [.ended x.awaitResult]
    else answers = [] ∨ ∃ request, x.pendingRequest = some request ∧
      answers = [.waitingInput request.messageId request.question request.context]

/-- What one action keeps: the outcome of ended subagents until the sweep forgets them, the answers
of await calls, and everything against late calls. -/
structure ActionKeeps (constraints : SubagentConstraints) (s : Service) (e : Event) (t : Service) :
    Prop where
  /-- An ended subagent stays as it ended, until the sweep finds it expired. -/
  ended : ∀ id x, s.manager.get id = some x → x.ended = true →
    e = .sweep ∧ s.manager.expired constraints.stateRetentionMs x = true ∧ t.manager.get id = none ∨
      ∃ y, t.manager.get id = some y ∧ y.outcome = x.outcome
  /-- An await call is told the end of its subagent or its timeout. -/
  told : Told s.manager t.manager
  /-- A new await call is told what there is to tell, or gets its timer. -/
  await : ∀ id timeoutMs, e = .await id timeoutMs →
    ∃ c, t.manager.awaitCalls = s.manager.awaitCalls ++ [c] ∧ c.subagentId = id ∧
      FirstAnswer s.manager id c.answers ∧
        (c.answers = [] → (c.timer = true ↔ 0 < timeoutMs.getD constraints.defaultAwaitTimeoutMs))
  late : LateCallsIgnored s e t

/-- A new await call is told what there is to tell, or gets its timer. -/
lemma firstAnswer_handleAwaitRpc (m : Manager) (id : String) (timeoutMs : Option ℤ) :
    ∃ c, (handleAwaitRpc constraints m id timeoutMs).awaitCalls = m.awaitCalls ++ [c] ∧
      c.subagentId = id ∧ FirstAnswer m id c.answers ∧
        (c.answers = [] → (c.timer = true ↔ 0 < timeoutMs.getD constraints.defaultAwaitTimeoutMs)) := by
  rw [handleAwaitRpc]
  unfold FirstAnswer
  cases m.get id with
  | none => exact ⟨_, rfl, rfl, rfl, fun h => by cases h⟩
  | some x =>
    dsimp only
    by_cases hended : x.ended = true
    · rw [if_pos (show isTerminal x.status = true from hended)]
      exact ⟨_, rfl, rfl, by rw [if_pos hended], fun h => by cases h⟩
    · rw [if_neg (show ¬isTerminal x.status = true from hended)]
      split
      · rename_i request hrequest
        refine ⟨_, rfl, rfl, ?_, fun h => by cases h⟩
        rw [if_neg hended]
        exact .inr ⟨request, (Option.filter_eq_some_iff.mp hrequest).1, rfl⟩
      · refine ⟨_, rfl, rfl, ?_, fun _ => decide_eq_true_iff⟩
        rw [if_neg hended]
        exact .inl rfl

/-- What the sweep forgets has expired. -/
lemma expired_of_sweep {m : Manager} {timeout : ℕ} {retention : ℤ} (hx : m.get id = some x)
    (hended : x.ended = true) (hnone : ((m.sweepHung timeout).cleanup retention).get id = none) :
    m.expired retention x = true := by
  have hidle : m.idleTooLong timeout x = false := by
    rw [TrackedSubagent.ended] at hended
    rw [Manager.idleTooLong, hended]
    rfl
  have hexpired : ∀ x, (m.sweepHung timeout).expired retention x = m.expired retention x := by
    intro x
    rw [Manager.sweepHung]
    split_ifs <;> rfl
  rw [Manager.get?_cleanup, Manager.get?_sweepHung, hx, Option.map_some, hidle,
    if_neg (by simp), Option.filter_some, hexpired] at hnone
  simpa using hnone

/-- What one careful action keeps. -/
lemma ActionKeeps.of_step (hm : s.manager.Inv) (hok : Careful s e) (h : s.step constraints e = some t) :
    ActionKeeps constraints s e t where
  ended id x hx hended := by
    have hchanges := Service.step_effect hm.requests.records hm.awaits.awaited hm.requests.asking
      hok h
    rcases Stays.changes hchanges id x hx hended with ⟨hforgets, hnone⟩ | hstays
    · cases e <;> try exact absurd rfl hforgets
      cases h
      exact .inl ⟨rfl, expired_of_sweep hx hended hnone, hnone⟩
    · exact .inr hstays
  told := .changes hm (Service.step_effect hm.requests.records hm.awaits.awaited
    hm.requests.asking hok h)
  await id timeoutMs he := by
    subst he
    cases h
    exact firstAnswer_handleAwaitRpc s.manager id timeoutMs
  late := .of_step hm hok h

/-- Await calls are answered under the invariants. -/
lemma AwaitsAnswered.of_inv (hm : s.manager.Inv) : AwaitsAnswered constraints s := by
  have hopen : ∀ (i : ℕ) c, s.manager.awaitCalls[i]? = some c → c.answers = [] →
      c.resolved = false := by
    intro i c hc hnil
    have hlen := (hm.awaits.once i c hc).answers
    rw [hnil] at hlen
    by_contra hres
    rw [if_pos (by simpa using hres)] at hlen
    cases hlen
  constructor
  · intro i c hc
    rw [(hm.awaits.once i c hc).answers]
    split_ifs <;> simp
  · intro i c hc hnil
    have hreg := hm.awaits.registered i c hc (hopen i c hc hnil)
    obtain ⟨-, x, -, -, -, hx, hactive⟩ := hm.awaits.awaiters _ i hreg
    exact ⟨hreg, x, hx, hactive⟩
  · intro i c hc htimer
    have honce := hm.awaits.once i c hc
    have hres := honce.timer htimer
    have hnil : c.answers = [] := by
      have hlen := honce.answers
      rw [hres] at hlen
      exact List.length_eq_zero_iff.mp hlen
    refine ⟨s.withManager { s.manager.removeAwaiter c.subagentId i with
      awaitCalls := s.manager.awaitCalls.modify i (AwaitCall.answer .timeout) },
      c.answer .timeout, ?_, ?_, ?_⟩
    · rw [Service.step, awaitTimedOut, hc]
      dsimp only
      rw [if_pos htimer]
      rfl
    · dsimp only [Service.withManager]
      rw [List.getElem?_modify, hc]
      simp
    · rw [AwaitCall.answer_of_open hres, hnil]
      rfl
  · intro id x hx hended
    refine List.eq_nil_iff_forall_not_mem.mpr fun i hi => ?_
    obtain ⟨-, y, -, -, -, hy, hactive⟩ := hm.awaits.awaiters id i hi
    rw [hx] at hy
    cases hy
    rw [hended] at hactive
    cases hactive

/-- Requests for input are answered under the invariants. -/
lemma RequestsAnswered.of_inv (hm : s.manager.Inv) : RequestsAnswered constraints s := by
  have hopen : ∀ (i : ℕ) c, s.manager.inputCalls[i]? = some c → c.responses = [] →
      c.resolved = false := by
    intro i c hc hnil
    have hlen := (hm.requests.once i c hc).responses
    rw [hnil] at hlen
    by_contra hres
    rw [if_pos (by simpa using hres)] at hlen
    cases hlen
  constructor
  · exact fun id x hx hc => (hm.requests.records id x hx).pending_of_closed hc
  · intro i j c d hc hd hcn hdn hid
    obtain ⟨x, request, hx, hp, hi⟩ := (hm.requests.asking i c hc).2 (hopen i c hc hcn)
    obtain ⟨y, request', hy, hp', hj⟩ := (hm.requests.asking j d hd).2 (hopen j d hd hdn)
    rw [← hid, hx] at hy
    cases hy
    rw [hp] at hp'
    cases hp'
    exact hi.symm.trans hj
  · intro i c hc
    have honce := hm.requests.once i c hc
    refine ⟨?_, honce.returns⟩
    rw [honce.responses]
    split_ifs <;> simp
  · intro i c hc hnil
    have hres := hopen i c hc hnil
    obtain ⟨hclean, hask⟩ := hm.requests.asking i c hc
    obtain ⟨x, request, hx, hp, hi⟩ := hask hres
    refine ⟨(hclean hres).2, x, request, hx, ?_, hp, hi⟩
    by_contra hended
    rw [(hm.requests.records _ x hx).pending_of_ended (by simpa using hended)] at hp
    cases hp
  · intro i c hc hne hret
    obtain ⟨response, rest, hcons⟩ := List.exists_cons_of_ne_nil hne
    refine ⟨s.withManager (modifyInputCall s.manager i fun c =>
      { c with returns := c.returns ++ [.ofResponse response] }),
      { c with returns := [.ofResponse response] }, .ofResponse response, ?_, ?_, rfl⟩
    · rw [Service.step, inputReturned, hc]
      dsimp only
      rw [if_pos hret, hcons]
      rfl
    · dsimp only [Service.withManager, modifyInputCall]
      rw [List.getElem?_modify, hc]
      simp [hret]

/-- **The lifecycle of subagents**: in every run in which no input is requested for an ended subagent
without completion intent and no subagent fails while its request for input is pending, ended
subagents stay as they ended until they are forgotten, every await call and every request for input
is answered once, and late calls change nothing.

**Proof sketch.** Every careful action has an effect on the manager; each effect keeps the invariants,
tells awaiters nothing but the end of their subagent or their timeout, and leaves the outcome of
ended subagents alone. -/
theorem lifecycle {s : Service} (hs : Reach Started (Service.step constraints) Careful s) :
    AwaitsAnswered constraints s ∧ RequestsAnswered constraints s ∧
      ∀ e t, Careful s e → s.step constraints e = some t → ActionKeeps constraints s e t :=
  have hm := Manager.Inv.of_reach hs
  ⟨.of_inv hm, .of_inv hm, fun _ _ hok h => .of_step hm hok h⟩

/-- Constraints for examples. -/
def sampleConstraints : SubagentConstraints where
  maxDepth := 3
  maxConcurrentPerSession := 1
  maxTotalActive := 2
  defaultRequestTimeoutMs := 60000
  defaultAwaitTimeoutMs := 300000
  stateRetentionMs := 1800000
  inactivityTimeoutMs := 0
  allowedAdapters := []
  allowedModels := []

/-- A subagent for examples. -/
def samplePayload : SpawnedPayload where
  subagentId := "sub"
  parentSessionId := "parent"
  task := "look"
  config := { task := "look", adapterName := some "adapter" }
  depth := 1

/-- A run in which a subagent is awaited, asks for input, is answered, asks again, and is killed. -/
def killedRun : List Event :=
  [.execute samplePayload, .sessionCreated "sub" "child", .attachStarted "sub", .attached "sub",
    .await "sub" none, .requestInput "sub" "m1" "which?" none none, .send "sub" "this" (some "m1"),
    .requestInput "sub" "m2" "where?" none none, .kill "sub"]

/-- The lifecycle of a killed subagent: who awaits it is told, and both questions are answered. -/
theorem lifecycle_killed : ∃ s : Service,
    s.manager.awaitCalls.map (·.answers.length) = [1] ∧
      s.manager.inputCalls.map (·.responses) = [[some "this"], [none]] ∧
      AwaitsAnswered sampleConstraints s ∧ RequestsAnswered sampleConstraints s ∧
      ∀ e t, Careful s e → s.step sampleConstraints e = some t →
        ActionKeeps sampleConstraints s e t := by
  have hrun : (runGuarded (Service.step sampleConstraints) Careful (.initial 0) killedRun).any
      (fun s => decide (s.manager.awaitCalls.map (·.answers.length) = [1] ∧
        s.manager.inputCalls.map (·.responses) = [[some "this"], [none]])) = true := by
    decide +kernel
  obtain ⟨s, hs, hp⟩ := (Option.any_eq_true _ _).mp hrun
  obtain ⟨hawait, hinput⟩ := of_decide_eq_true hp
  exact ⟨s, hawait, hinput, lifecycle (.of_runGuarded killedRun (.start ⟨0, rfl⟩) hs)⟩

/-- A run in which a subagent fails. -/
def failedRun : List Event :=
  [.execute samplePayload, .sessionCreated "sub" "child", .adapterSessionClosed "child"]

/-- **An input request revives a failed subagent**: without the condition, a subagent that has ended
does not stay as it ended. -/
theorem not_lifecycle : ¬ ∀ (constraints : SubagentConstraints) (s : Service),
    Reach Started (Service.step constraints) (fun _ _ => True) s →
      AwaitsAnswered constraints s ∧ RequestsAnswered constraints s ∧
        ∀ e t, s.step constraints e = some t → ActionKeeps constraints s e t := by
  intro h
  have hrun : (runGuarded (Service.step sampleConstraints) (fun _ _ => True) (.initial 0)
      failedRun).any (fun s => (s.manager.get "sub").any (·.ended) &&
        (s.step sampleConstraints (.requestInput "sub" "m" "still there?" none none)).any fun t =>
          (t.manager.get "sub").any fun y => !y.ended) = true := by
    decide +kernel
  obtain ⟨s, hs, hp⟩ := (Option.any_eq_true _ _).mp hrun
  rw [Bool.and_eq_true] at hp
  obtain ⟨x, hx, hended⟩ := (Option.any_eq_true _ _).mp hp.1
  obtain ⟨t, ht, hrevived⟩ := (Option.any_eq_true _ _).mp hp.2
  obtain ⟨y, hy, hactive⟩ := (Option.any_eq_true _ _).mp hrevived
  obtain ⟨-, -, hkeeps⟩ := h sampleConstraints s (.of_runGuarded failedRun (.start ⟨0, rfl⟩) hs)
  rcases (hkeeps _ t ht).ended "sub" x hx hended with ⟨he, -⟩ | ⟨y', hy', hout⟩
  · cases he
  · rw [hy] at hy'
    cases hy'
    have hstatus : y.status = x.status := congrArg Prod.fst hout
    rw [TrackedSubagent.ended, hstatus] at hactive
    rw [TrackedSubagent.ended] at hended
    rw [hended] at hactive
    cases hactive

end Makaio.Subagent
