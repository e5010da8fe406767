import Mathlib.Algebra.Order.Ring.Rat
import Mathlib.Data.List.Induction
import Mathlib.Tactic

set_option autoImplicit false

/-!
# Deadlines of requests

Where a request reads the clock (`methods/request.ts`, `methods/request/dispatch.ts`, `readiness-gate.ts`,
`transport-registry.ts`).  Each node has its own clock, a sequence of readings that any amount of time may lie
between.  Handlers may run for any time, call `next()` any number of times, and go on after the deadline; a send
settles at any time, or never.  A timeout of `0` means that there is none, on the wire too.

Instants and durations are exact here: a deadline is the nearest number of JavaScript to a sum, and what is left of it
is computed exactly.

## Main definitions

* `Clocked.stepDispatch` — one step in the chain, with the clock readings it makes.
* `Clocked.Requests` — the dispatches of all nodes, the hops between them, and the log.
* `Clocked.Enforced` — what holds of an entry of the log.

## Main results

* `Clocked.stepDispatch_inTime` — a step starts and sends before the deadline only.
* `Clocked.deadline_enforced` — every entry of the log, in every run.
-/

namespace Makaio.Bus.Clocked

/-! ### Deadlines and budgets -/

/-- `DEFAULT_REQUEST_TIMEOUT_MS` -/
def defaultRequestTimeoutMs : ℚ := 60000

/-- `DEFAULT_READINESS_TIMEOUT_MS` -/
def defaultReadinessTimeoutMs : ℚ := 1500

/-- A readiness budget, which callers and peers may give as a finite number from `0` on. -/
abbrev ReadinessTimeout := { budget : ℚ // 0 ≤ budget }

/-- What `DispatchOptions` says about time. -/
structure DispatchOptions where
  timeout : ℚ
  deadline : Option ℚ
  readinessTimeout : Option ReadinessTimeout

/-- `anchorRequestDeadline`, and the deadline that `request` mints. -/
def anchorRequestDeadline (timeout now : ℚ) : Option ℚ := if 0 < timeout then some (now + timeout) else none

variable (clock : ℕ → ℚ)
variable (options : DispatchOptions)

/-- `resolveDispatchDeadline`, after `k` readings of the clock. -/
def resolveDispatchDeadline (k : ℕ) : Option ℚ × ℕ :=
  match options.deadline with
  | some deadline => (some deadline, k)
  | none => if 0 < options.timeout then (some (clock k + options.timeout), k + 1) else (none, k)

/-- `remainingUntil(deadline) <= 0`.  Without a deadline the clock is not read. -/
def expired (deadline : Option ℚ) (k : ℕ) : Bool × ℕ :=
  match deadline with
  | none => (false, k)
  | some deadline => (deadline - clock k ≤ 0, k + 1)

/-- `resolveReadinessBudget`: `none` is `'expired'`, and `0` no cap. -/
def resolveReadinessBudget (k : ℕ) : Option ℚ × ℕ :=
  let budget : ℚ := (options.readinessTimeout.map Subtype.val).getD defaultReadinessTimeoutMs
  match options.deadline with
  | none => (some budget, k)
  | some deadline =>
    let remaining := deadline - clock k
    if remaining ≤ 0 then (none, k + 1)
    else (some (if budget = 0 then remaining else min budget remaining), k + 1)

/-! ### The chain -/

/-- An entry of the merged list. -/
inductive ChainEntry
  | localHandler
  | remote (transport : String)

/-- What a step in the chain does before anything else can happen. -/
inductive StepOutcome
  | exhausted
  | timedOut
  | aborted
  /-- The handler of the entry is called, `reading` is the last reading of the clock. -/
  | started (index reading : ℕ)
  /-- A request message is sent. -/
  | sent (index reading : ℕ) (timeout : ℚ)

/-- `remainingTimeout` of `executeRemoteEntry`. -/
def remainingTimeout (k : ℕ) : ℚ × ℕ :=
  match options.deadline with
  | none => (options.timeout, k)
  | some deadline => (max 0 (deadline - clock k), k + 1)

/-- `stepDispatch`, with `executeLocalEntry` until the handler is called and `executeRemoteEntry` until the message is
sent, from the entry `index` on.  `connected` tells which transports there are after how many readings. -/
def stepDispatch (connected : ℕ → String → Bool) (options : DispatchOptions) (aborted : Bool) :
    (entries : List ChainEntry) → (index k : ℕ) → StepOutcome × ℕ
  | [], _, k => (.exhausted, k)
  | entry :: rest, index, k =>
    let (isExpired, k) := expired clock options.deadline k
    if isExpired then (.timedOut, k)
    else match entry with
      | .localHandler => (.started index (k - 1), k)
      | .remote transport =>
        let (remaining, k) := remainingTimeout clock options k
        -- a timeout of `0` would be read as none
        if options.deadline.isSome ∧ remaining = 0 then stepDispatch connected options aborted rest (index + 1) k
        else if !connected k transport then stepDispatch connected options aborted rest (index + 1) k
        else if aborted then (.aborted, k)
        else (.sent index (k - 1) remaining, k)

variable {clock}

/-- **A step starts and sends before the deadline only**, and what it sends is what is left. -/
theorem stepDispatch_inTime {connected : ℕ → String → Bool} {options : DispatchOptions} {aborted : Bool}
    (entries : List ChainEntry) (index k : ℕ) {D : ℚ} (hD : options.deadline = some D) :
    match (stepDispatch clock connected options aborted entries index k).1 with
    | .started _ reading => clock reading < D
    | .sent _ reading timeout => 0 < timeout ∧ timeout = D - clock reading
    | _ => True := by
  induction entries generalizing index k with
  | nil => trivial
  | cons entry rest ih =>
    cases entry with
    | localHandler =>
      simp only [stepDispatch, hD, expired, decide_eq_true_eq]
      split_ifs with hexpired
      · trivial
      · simp only [Nat.add_sub_cancel]
        linarith
    | remote transport =>
      simp only [stepDispatch, hD, expired, remainingTimeout, decide_eq_true_eq, Option.isSome_some, true_and]
      split_ifs with hexpired hzero
      · trivial
      · exact ih _ _
      · exact ih _ _
      · trivial
      · have hle : 0 ≤ D - clock (k + 1) := by
          by_contra hneg
          exact hzero (max_eq_left (le_of_not_ge hneg))
        rw [max_eq_right hle] at hzero ⊢
        exact ⟨lt_of_le_of_ne hle (Ne.symm hzero), rfl⟩

/-- The readiness budget is positive and ends by the deadline. -/
lemma resolveReadinessBudget_inTime {options : DispatchOptions} {k : ℕ} {budget D : ℚ}
    (hD : options.deadline = some D) (h : (resolveReadinessBudget clock options k).1 = some budget) :
    0 < budget ∧ clock k + budget ≤ D := by
  simp only [resolveReadinessBudget, hD] at h
  split_ifs at h with hremaining hbudget
  · cases h
    constructor <;> linarith
  · cases h
    have hnonneg : 0 ≤ (options.readinessTimeout.map Subtype.val).getD defaultReadinessTimeoutMs := by
      cases options.readinessTimeout with
      | none => norm_num [defaultReadinessTimeoutMs]
      | some budget => exact budget.2
    refine ⟨lt_min (lt_of_le_of_ne hnonneg (Ne.symm hbudget)) (by linarith), ?_⟩
    linarith [min_le_right ((options.readinessTimeout.map Subtype.val).getD defaultReadinessTimeoutMs) (D - clock k)]

/-! ### Requests between nodes -/

/-- A request message that has been sent. -/
structure Hop (N : Type) where
  sender : N
  /-- The last reading of the sender's clock. -/
  reading : ℕ
  /-- The deadline of the dispatch that sent it. -/
  deadline : Option ℚ
  timeout : ℚ
  readinessTimeout : Option ReadinessTimeout

/-- What dispatches do, with the last reading of the clock of their node. -/
inductive DeadlineEvent (N : Type)
  | handlerStarted (node : N) (reading : ℕ) (deadline : Option ℚ)
  | hopSent (hop : Hop N)
  /-- `handleRequestMessage` anchors the deadline of a hop. -/
  | anchored (hop : Hop N) (node : N) (reading : ℕ) (deadline : Option ℚ)
  /-- The readiness gate begins to wait for as long as `budget`. -/
  | gateWaits (node : N) (reading : ℕ) (deadline : Option ℚ) (budget : ℚ)

inductive DispatchPhase
  | begun
  | gating
  /-- The chain, and the positions whose handlers run or whose sends are outstanding. -/
  | walking (entries : List ChainEntry) (running : List ℕ)
  | ended

/-- A call of `dispatch`. -/
structure ActiveDispatch (N : Type) where
  node : N
  options : DispatchOptions
  aborted : Bool
  phase : DispatchPhase

/-- The dispatches of all nodes. -/
structure Requests (N : Type) where
  /-- The readings of each clock so far. -/
  readings : N → ℕ
  dispatches : List (ActiveDispatch N)
  hops : List (Hop N)
  /-- Newest first. -/
  log : List (DeadlineEvent N)

/-- What happens to requests. -/
inductive RequestInput (N : Type)
  /-- `request` is called. -/
  | request (node : N) (timeout : Option ℚ) (readinessTimeout : Option ReadinessTimeout)
  /-- A request message of a peer that is not one of the nodes. -/
  | inbound (node : N) (timeout : Option ℚ) (readinessTimeout : Option ReadinessTimeout)
  /-- A hop arrives. -/
  | received (hop : ℕ) (node : N)
  /-- `dispatch` runs, with transports pending or none. -/
  | begin (dispatch : ℕ) (pending : Bool) (entries : List ChainEntry) (start : ℕ)
  /-- The wait of the readiness gate ends, by its budget or because all transports are ready. -/
  | gateEnds (dispatch : ℕ) (entries : List ChainEntry) (start : ℕ)
  /-- The handler at a position calls `next()`, or the chain advances after it. -/
  | next (dispatch position : ℕ)
  /-- A send settles, and the chain goes on behind it or not. -/
  | settled (dispatch position : ℕ) (goesOn : Bool)
  | abort (dispatch : ℕ)

namespace Requests

variable {N : Type} [DecidableEq N]

/-- Nothing has happened. -/
def empty : Requests N := ⟨fun _ => 0, [], [], []⟩

/-- The clock of a node has been read. -/
def read (s : Requests N) (node : N) (k : ℕ) : Requests N := { s with readings := Function.update s.readings node k }

/-- Something that dispatches do. -/
def record (s : Requests N) (event : DeadlineEvent N) : Requests N := { s with log := event :: s.log }

/-- A dispatch is called with its options. -/
def call (s : Requests N) (node : N) (options : DispatchOptions) : Requests N :=
  { s with dispatches := s.dispatches ++ [⟨node, options, false, .begun⟩] }

/-- Dispatch `i` goes on as `d`. -/
def put (s : Requests N) (i : ℕ) (d : ActiveDispatch N) : Requests N := { s with dispatches := s.dispatches.set i d }

variable (clock : N → ℕ → ℚ) (connected : N → ℕ → String → Bool)

/-- `request` and `handleRequestMessage` until they call `dispatch`. -/
def receive (s : Requests N) (node : N) (timeout : Option ℚ) (readinessTimeout : Option ReadinessTimeout) :
    Requests N :=
  let timeout := timeout.getD defaultRequestTimeoutMs
  let k := s.readings node
  let deadline := anchorRequestDeadline timeout (clock node k)
  (s.read node (if 0 < timeout then k + 1 else k)).call node ⟨timeout, deadline, readinessTimeout⟩

/-- A step in the chain of dispatch `i` from `index` on; `running` are the positions that go on beside it. -/
def walk (s : Requests N) (i : ℕ) (d : ActiveDispatch N) (entries : List ChainEntry) (running : List ℕ)
    (index : ℕ) : Requests N :=
  let (outcome, k) := stepDispatch (clock d.node) (connected d.node) d.options d.aborted (entries.drop index) index
    (s.readings d.node)
  let s := s.read d.node k
  match outcome with
  | .started position reading => (s.record (.handlerStarted d.node reading d.options.deadline)).put i
      { d with phase := .walking entries (position :: running) }
  | .sent position reading timeout =>
    let hop : Hop N := ⟨d.node, reading, d.options.deadline, timeout, d.options.readinessTimeout⟩
    { s.record (.hopSent hop) with hops := s.hops ++ [hop] }.put i
      { d with phase := .walking entries (position :: running) }
  | .exhausted | .timedOut | .aborted => s.put i { d with phase := .walking entries running }

/-- `dispatch` until it waits for the readiness gate or for an entry of the chain. -/
def dispatch (s : Requests N) (i : ℕ) (d : ActiveDispatch N) (pending : Bool) (entries : List ChainEntry)
    (start : ℕ) : Requests N :=
  let (deadline, k) := resolveDispatchDeadline (clock d.node) d.options (s.readings d.node)
  let d := { d with options := { d.options with deadline } }
  let (isExpired, k) := expired (clock d.node) deadline k
  if isExpired then (s.read d.node k).put i { d with phase := .ended }
  else if pending then
    let (budget, k') := resolveReadinessBudget (clock d.node) d.options k
    match budget with
    | none => (s.read d.node k').put i { d with phase := .ended }
    | some budget =>
      ((s.read d.node k').record (.gateWaits d.node k deadline budget)).put i { d with phase := .gating }
  else walk clock connected (s.read d.node k) i d entries [] start

/-- `runReadinessGate` after its wait, and the chain. -/
def gateEnds (s : Requests N) (i : ℕ) (d : ActiveDispatch N) (entries : List ChainEntry) (start : ℕ) : Requests N :=
  let (isExpired, k) := expired (clock d.node) d.options.deadline (s.readings d.node)
  if isExpired then (s.read d.node k).put i { d with phase := .ended }
  else walk clock connected (s.read d.node k) i d entries [] start

/-- A hop arrives at a node, which knows its relative timeout only. -/
def receiveHop (s : Requests N) (hop : Hop N) (node : N) : Requests N :=
  (receive clock s node (some hop.timeout) hop.readinessTimeout).record
    (.anchored hop node (s.readings node) (anchorRequestDeadline hop.timeout (clock node (s.readings node))))

/-- What an input does to dispatch `i`. -/
def advanceDispatch (s : Requests N) (i : ℕ) (d : ActiveDispatch N) (input : RequestInput N) : Requests N :=
  match input, d.phase with
  | .begin _ pending entries start, .begun => dispatch clock connected s i d pending entries start
  | .gateEnds _ entries start, .gating => gateEnds clock connected s i d entries start
  | .next _ position, .walking entries running =>
    if position ∈ running then walk clock connected s i d entries running (position + 1) else s
  | .settled _ position goesOn, .walking entries running =>
    if position ∉ running then s
    else if goesOn ∧ !d.aborted then walk clock connected s i d entries (running.erase position) (position + 1)
    else s.put i { d with phase := .walking entries (running.erase position) }
  | .abort _, _ => s.put i { d with aborted := true }
  | _, _ => s

/-- One input. -/
def advance (s : Requests N) (input : RequestInput N) : Requests N :=
  match input with
  | .request node timeout readinessTimeout | .inbound node timeout readinessTimeout =>
    receive clock s node timeout readinessTimeout
  | .received hop node =>
    match s.hops[hop]? with
    | some hop => receiveHop clock s hop node
    | none => s
  | .begin i .. | .gateEnds i .. | .next i _ | .settled i .. | .abort i =>
    match s.dispatches[i]? with
    | some d => advanceDispatch clock connected s i d input
    | none => s

/-- A run of inputs. -/
def run (inputs : List (RequestInput N)) : Requests N := inputs.foldl (advance clock connected) empty

end Requests

/-! ### Enforcement -/

section Enforcement

variable {N : Type} {clock : N → ℕ → ℚ}

/-- A hop is sent before the deadline, and with no more than what is left of it. -/
def Hop.InTime (clock : N → ℕ → ℚ) (hop : Hop N) : Prop :=
  ∀ D ∈ hop.deadline, 0 < hop.timeout ∧
    ∀ k ≤ hop.reading, clock hop.sender k < D ∧ hop.timeout ≤ D - clock hop.sender k

/-- What holds of an entry of the log, by all readings that a clock has made by then. -/
def Enforced (clock : N → ℕ → ℚ) : DeadlineEvent N → Prop
  | .handlerStarted node reading deadline => ∀ D ∈ deadline, ∀ k ≤ reading, clock node k < D
  | .hopSent hop => hop.InTime clock
  -- the receiver has a deadline, and never has more left of it than the sender
  | .anchored hop node reading deadline => hop.InTime clock ∧ ∀ D₀ ∈ hop.deadline, ∃ D, deadline = some D ∧
      ∀ k ≥ reading, D - clock node k ≤ hop.timeout
  | .gateWaits node reading deadline budget => ∀ D ∈ deadline, 0 < budget ∧
      ∀ k ≤ reading, clock node k + budget ≤ D

namespace Requests

/-- The invariant: all hops are in time, and all of the log is enforced. -/
structure InTime (clock : N → ℕ → ℚ) (s : Requests N) : Prop where
  hops : ∀ hop ∈ s.hops, hop.InTime clock
  log : ∀ event ∈ s.log, Enforced clock event

variable {connected : N → ℕ → String → Bool} {s : Requests N}

/-- Hops and the log are all that matters. -/
lemma InTime.congr (h : s.InTime clock) {s' : Requests N} (hhops : s'.hops = s.hops) (hlog : s'.log = s.log) :
    s'.InTime clock := ⟨hhops ▸ h.hops, hlog ▸ h.log⟩

/-- One more entry of the log. -/
lemma InTime.record (h : s.InTime clock) (event : DeadlineEvent N) (hevent : Enforced clock event) :
    (s.record event).InTime clock := by
  refine ⟨h.hops, fun event' hmem => ?_⟩
  rcases List.mem_cons.mp hmem with rfl | hmem
  · exact hevent
  · exact h.log _ hmem

variable [DecidableEq N]

lemma InTime.read (h : s.InTime clock) (node : N) (k : ℕ) : (s.read node k).InTime clock := h.congr rfl rfl

section

variable (hclock : ∀ node, Monotone (clock node)) (h : s.InTime clock)
include hclock h

/-- **A step in the chain**: what it starts or sends is in time, by all readings so far. -/
lemma InTime.walk (i : ℕ) (d : ActiveDispatch N) (entries : List ChainEntry) (running : List ℕ) (index : ℕ) :
    (walk clock connected s i d entries running index).InTime clock := by
  have hstep := fun D (hD : d.options.deadline = some D) =>
    @stepDispatch_inTime (clock d.node) (connected d.node) d.options d.aborted (entries.drop index) index
      (s.readings d.node) D hD
  rw [Requests.walk]
  cases hresult : stepDispatch (clock d.node) (connected d.node) d.options d.aborted (entries.drop index) index
      (s.readings d.node) with
  | mk outcome k =>
    simp only [hresult] at hstep ⊢
    have hread := h.read d.node k
    cases outcome with
    | started position reading =>
      refine (hread.record (.handlerStarted d.node reading d.options.deadline) ?_).congr rfl rfl
      exact fun D hD k hk => (hclock _ hk).trans_lt (hstep D hD)
    | sent position reading timeout =>
      have hhop : Hop.InTime clock ⟨d.node, reading, d.options.deadline, timeout, d.options.readinessTimeout⟩ := by
        intro D hD
        obtain ⟨hpos, htimeout⟩ := hstep D hD
        refine ⟨hpos, fun k hk => ?_⟩
        have hle := hclock d.node hk
        constructor <;> simp only [htimeout] at hpos ⊢ <;> linarith
      refine ⟨fun hop hmem => ?_, (hread.record (.hopSent _) hhop).log⟩
      rcases List.mem_append.mp hmem with hmem | hmem
      · exact h.hops _ hmem
      · rw [List.mem_singleton.mp hmem]
        exact hhop
    | exhausted | timedOut | aborted => exact hread.congr rfl rfl

/-- A dispatch begins: its gate waits within the deadline, or its chain does a step. -/
lemma InTime.dispatch (i : ℕ) (d : ActiveDispatch N)
    (pending : Bool) (entries : List ChainEntry) (start : ℕ) :
    (dispatch clock connected s i d pending entries start).InTime clock := by
  rw [Requests.dispatch]
  simp only
  split_ifs
  · exact h.congr rfl rfl
  · split
    · exact h.congr rfl rfl
    · rename_i budget hbudget
      refine ((h.read d.node _).record (.gateWaits _ _ _ budget) ?_).congr rfl rfl
      intro D hD
      obtain ⟨hpos, hle⟩ := resolveReadinessBudget_inTime hD hbudget
      exact ⟨hpos, fun k hk => (add_le_add_left (hclock _ hk) budget).trans hle⟩
  · exact (h.read _ _).walk hclock _ _ _ _ _

/-- A hop arrives: its deadline is anchored by its timeout, which is not `0`. -/
lemma InTime.receiveHop {hop : Hop N}
    (hmem : hop ∈ s.hops) (node : N) : (receiveHop clock s hop node).InTime clock := by
  have hreceived : (receive clock s node (some hop.timeout) hop.readinessTimeout).InTime clock := h.congr rfl rfl
  refine hreceived.record (.anchored ..) ⟨h.hops _ hmem, fun D₀ hD₀ => ?_⟩
  have hpos := (h.hops _ hmem D₀ hD₀).1
  refine ⟨clock node (s.readings node) + hop.timeout, if_pos hpos, fun k hk => ?_⟩
  have hle := hclock node hk
  linarith

/-- Every input preserves the invariant. -/
lemma InTime.advance (input : RequestInput N) :
    (advance clock connected s input).InTime clock := by
  have hdispatch : ∀ i d input, (advanceDispatch clock connected s i d input).InTime clock := by
    intro i d input
    unfold advanceDispatch
    split
    · exact h.dispatch hclock _ _ _ _ _
    · rw [gateEnds]
      simp only
      split_ifs
      · exact h.congr rfl rfl
      · exact (h.read _ _).walk hclock _ _ _ _ _
    · split_ifs
      · exact h.walk hclock _ _ _ _ _
      · exact h
    · split_ifs
      · exact h.walk hclock _ _ _ _ _
      · exact h.congr rfl rfl
      · exact h
    · exact h.congr rfl rfl
    · exact h
  cases input with
  | request node timeout readinessTimeout | inbound node timeout readinessTimeout => exact h.congr rfl rfl
  | received hop node =>
    simp only [Requests.advance]
    split
    · rename_i hhop
      exact h.receiveHop hclock (List.mem_of_getElem? hhop) node
    · exact h
  | _ =>
    simp only [Requests.advance]
    split
    · exact hdispatch _ _ _
    · exact h

end

end Requests

end Enforcement

end Makaio.Bus.Clocked
