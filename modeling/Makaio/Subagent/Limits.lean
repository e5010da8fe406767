import Makaio.Subagent.Lifecycle

set_option autoImplicit false

/-!
# The limits on subagents

How many subagents are active is checked before a spawn resolves its adapter, and the subagent is
tracked afterwards: spawns that overlap can all pass the check and exceed the limits together.  The
limits hold as long as a spawn that was overtaken finds room when it resumes.  Everything else a spawn
is checked for, and that a subagent is started once, does not depend on the order of events.

## Main definitions

* `Descends` — no subagent becomes active or returns to its startup.
* `Service.roomy` — the condition on actions.
* `Limits` — the limits, and the invariant they rest on.

## Main results

* `subagent_limits` — the limits in runs whose overtaken spawns find room.
* `not_subagent_limits` — two overlapping spawns exceed the limit of a session.
-/

namespace Makaio.Subagent

open Foundations

/-! ### Records that descend -/

/-- A later record of a subagent: it was active if it is, and in its startup if it is. -/
structure Heir (x y : TrackedSubagent) : Prop where
  parent : y.parentSessionId = x.parentSessionId
  config : y.config = x.config
  depth : y.depth = x.depth
  /-- It does not become active. -/
  active : y.ended = false → x.ended = false
  /-- It does not return to its startup. -/
  spawning : y.status = .spawning → x.status = .spawning

/-- A record is its own heir. -/
lemma Heir.refl (x : TrackedSubagent) : Heir x x := ⟨rfl, rfl, rfl, id, id⟩

variable {x y : TrackedSubagent}

lemma Heir.trans {z : TrackedSubagent} (h : Heir x y) (h' : Heir y z) : Heir x z :=
  ⟨h'.parent.trans h.parent, h'.config.trans h.config, h'.depth.trans h.depth,
    fun he => h.active (h'.active he), fun hs => h.spawning (h'.spawning hs)⟩

/-- Every record of the second manager descends from one of the first. -/
def Descends (m m' : Manager) : Prop :=
  ∀ id y, m'.get id = some y → ∃ x, m.get id = some x ∧ Heir x y

variable {m m' : Manager}

/-- A manager descends from itself. -/
lemma Descends.refl (m : Manager) : Descends m m := fun _ y hy => ⟨y, hy, .refl y⟩

/-- A manager with the same records. -/
lemma Descends.of_get (h : ∀ id, m'.get id = m.get id) : Descends m m' :=
  fun id y hy => ⟨y, (h id).symm.trans hy, .refl y⟩

lemma Descends.trans {m₁ m₂ : Manager} (h : Descends m m₁) (h' : Descends m₁ m₂) :
    Descends m m₂ := fun id z hz => by
  obtain ⟨y, hy, hyz⟩ := h' id z hz
  obtain ⟨x, hx, hxy⟩ := h id y hy
  exact ⟨x, hx, hxy.trans hyz⟩

variable {id : String}

/-- Writing an heir. -/
lemma Descends.put (hget : m.get id = some x) (h : Heir x y) :
    Descends m (m.put id y) := fun id' z hz => by
  rw [Manager.get_put] at hz
  split_ifs at hz with hid
  · subst hid
    cases hz
    exact ⟨x, hget, h⟩
  · exact ⟨z, hz, .refl z⟩

lemma Edits.descends (h : Edits m m') : Descends m m' := fun id y hy => by
  obtain ⟨x, hx, hxy⟩ := h.of_get hy
  exact ⟨x, hx, hxy.parent, hxy.config, hxy.depth, fun he => hxy.ended.symm.trans he, hxy.spawning⟩

/-- An ended record is an heir. -/
lemma Heir.of_ended (hparent : y.parentSessionId = x.parentSessionId) (hconfig : y.config = x.config)
    (hdepth : y.depth = x.depth) (hy : y.ended = true) :
    Heir x y where
  parent := hparent
  config := hconfig
  depth := hdepth
  active h := by
    rw [hy] at h
    cases h
  spawning h := by
    rw [TrackedSubagent.ended, h] at hy
    cases hy

/-- A subagent ends. -/
lemma Descends.end (hget : m.get id = some x) (h : Heir x y) :
    Descends m ((m.put id y).resolveAwaiters id) :=
  (Descends.put hget h).trans (.of_get (Manager.resolveAwaiters_get _ id))

/-- Opening the admission of child messages. -/
lemma descends_markStarted (id : String) : Descends m (m.markStarted id) := by
  rw [Manager.markStarted]
  cases hget : m.get id with
  | none => exact .refl m
  | some x =>
    dsimp only
    split_ifs with hs
    · have hx : x.ended = false := by rw [TrackedSubagent.ended, hs]; rfl
      exact .put hget ⟨rfl, rfl, rfl, fun _ => hx, fun _ => hs⟩
    · exact .refl m

/-- The end of a subagent. -/
lemma descends_markFailed (id error : String) : Descends m (m.markFailed id error) := by
  rcases m.markFailed_cases id error with ⟨h, -⟩ | ⟨x, hget, -, h⟩
  · rw [h]
    exact .refl m
  · rw [h]
    exact .end hget (.of_ended rfl rfl rfl rfl)

/-- A completion intent with its turn. -/
lemma descends_finalizeCompletionIfReady (id : String) :
    Descends m (m.finalizeCompletionIfReady id) := by
  rcases m.finalizeCompletionIfReady_cases id with h | ⟨x, _, hget, -, -, ⟨error, h⟩ | h⟩
  · rw [h]
    exact .refl m
  · rw [h]
    exact descends_markFailed id error
  · rw [h]
    exact .end hget (.of_ended rfl rfl rfl rfl)

lemma descends_markCancelled (id : String) : Descends m (m.markCancelled id) := by
  rw [Manager.markCancelled]
  cases hget : m.get id with
  | none => exact .refl m
  | some x =>
    dsimp only
    split_ifs with he
    · exact .refl m
    · cases x.pendingRequest with
      | none =>
        exact .end hget (.of_ended rfl rfl rfl rfl)
      | some request =>
        exact Descends.end (m := m.invokeResolver request none) hget (.of_ended rfl rfl rfl rfl)

/-- The answer to a pending request. -/
lemma descends_resolvePendingRequest (id : String) (response : Option String) :
    Descends m (m.resolvePendingRequest id response) := by
  rw [Manager.resolvePendingRequest]
  cases hget : m.get id with
  | none => exact .refl m
  | some x =>
    dsimp only
    cases x.pendingRequest with
    | none => exact .refl m
    | some request =>
      refine Descends.put (m := m.invokeResolver request response) hget
        ⟨rfl, rfl, rfl, fun h => ?_, fun h => ?_⟩
      · rw [TrackedSubagent.ended] at h ⊢
        split_ifs at h with hs
        · rw [hs]
          rfl
        · exact h
      · split_ifs at h
        exact h

/-- A request for input of a subagent that has not ended without a completion intent. -/
lemma descends_handleRequestInputRpc (constraints : SubagentConstraints)
    {id messageId question : String} {context : Option String} {timeoutMs : Option ℤ}
    (hlive : ∀ x, m.get id = some x → x.ended = true → x.completionCandidate.isSome = true)
    (h : handleRequestInputRpc constraints m id messageId question context timeoutMs = .ok m') :
    Descends m m' := by
  obtain ⟨x, timer, hget, hc, -, rfl⟩ := handleRequestInputRpc_ok h
  have hx : x.ended = false := by
    by_contra he
    have hsome := hlive x hget (by simpa using he)
    rw [hc] at hsome
    cases hsome
  exact Descends.put hget ⟨rfl, rfl, rfl, fun _ => hx, (fun h => by cases h)⟩

/-- The periodic sweep. -/
lemma descends_sweep (timeout : ℕ) (retention : ℤ) :
    Descends m ((m.sweepHung timeout).cleanup retention) := fun id y hy => by
  have hy' := Manager.get_of_cleanup hy
  rw [Manager.get?_sweepHung] at hy'
  obtain ⟨x, hx, rfl⟩ := Option.map_eq_some_iff.mp hy'
  refine ⟨x, hx, ?_⟩
  split_ifs with h
  · have hidle := h.2
    simp only [Manager.idleTooLong, Bool.and_eq_true, Bool.not_eq_true'] at hidle
    exact ⟨rfl, rfl, rfl, fun _ => hidle.1.1.1.1, (fun h => by cases h)⟩
  · exact .refl x

/-- An await call concerns no record. -/
lemma descends_handleAwaitRpc (constraints : SubagentConstraints) (id : String)
    (timeoutMs : Option ℤ) : Descends m (handleAwaitRpc constraints m id timeoutMs) := by
  rw [handleAwaitRpc]
  cases m.get id with
  | none => exact .of_get fun _ => rfl
  | some x =>
    dsimp only
    split_ifs
    · exact .of_get fun _ => rfl
    · split <;> exact .of_get fun _ => rfl

/-- The timer of an await call concerns no record. -/
lemma descends_awaitTimedOut {call : ℕ} (h : awaitTimedOut m call = some m') : Descends m m' := by
  rw [awaitTimedOut] at h
  split at h
  · cases h
  · split_ifs at h
    cases h
    exact .of_get fun _ => rfl

/-- A message. -/
lemma descends_handleSendRpc {id content : String} {inResponseTo : Option String}
    (h : handleSendRpc m id content inResponseTo = .ok m') : Descends m m' := by
  rw [handleSendRpc] at h
  split at h
  · cases h
  · split_ifs at h <;> cases h
    · exact descends_resolvePendingRequest id _
    · exact .refl m

/-- The timer of a request. -/
lemma descends_inputTimedOut {call : ℕ} (h : inputTimedOut m call = some m') : Descends m m' := by
  rw [inputTimedOut] at h
  split at h
  · cases h
  · split_ifs at h
    cases h
    exact (Descends.of_get fun _ => rfl).trans (descends_resolvePendingRequest _ none)

lemma descends_questionPublished {call : ℕ} {error : Option String}
    (h : questionPublished m call error = some m') : Descends m m' := by
  rw [questionPublished] at h
  split at h
  · cases h
  · split_ifs at h
    split at h <;> cases h
    · exact .of_get fun _ => rfl
    · exact (descends_resolvePendingRequest _ none).trans (.of_get fun _ => rfl)

/-- The response of a request concerns no record. -/
lemma descends_inputReturned {call : ℕ} (h : inputReturned m call = some m') : Descends m m' := by
  rw [inputReturned] at h
  split at h
  · cases h
  · split_ifs at h
    obtain ⟨response, -, rfl⟩ := Option.map_eq_some_iff.mp h
    exact .of_get fun _ => rfl

/-- The completion call of a child. -/
lemma descends_handleCompleteTaskRpc {sessionId result : String} {turnId summary : Option String}
    (h : handleCompleteTaskRpc m sessionId turnId result summary = .ok m') : Descends m m' := by
  obtain ⟨id, activeTurnId, m₁, hrec, rfl⟩ := handleCompleteTaskRpc_ok h
  exact (edits_recordCompletionCandidate hrec).descends.trans (descends_finalizeCompletionIfReady id)

/-- The end of an agent turn. -/
lemma descends_handleAgentComplete (payload : AgentComplete) :
    Descends m (handleAgentComplete m payload) := by
  rcases handleAgentComplete_cases (rfl : handleAgentComplete m payload = _) with
    h | ⟨id, _, turnId, result, m₁, -, -, hrec, h⟩
  · rw [h]
    exact .refl m
  · rw [h]
    exact (edits_recordCompletionCandidate hrec).descends.trans (descends_finalizeCompletionIfReady id)

/-- The end of a turn of a session. -/
lemma descends_handleSessionTurnCompleted (payload : TurnCompleted) :
    Descends m (handleSessionTurnCompleted m payload) := by
  rw [handleSessionTurnCompleted]
  split
  · exact .refl m
  · rename_i id x hfind
    have hedits : Edits m ((m.recordTurnCompleted payload.sessionId payload.turnId).recordCompletedTurn
        id payload.turnId payload.usage payload.success payload.error) :=
      (edits_recordTurnCompleted _ _).trans (edits_recordCompletedTurn _ _ _ _ _)
    split_ifs with hc
    · exact hedits.descends.trans (descends_finalizeCompletionIfReady id)
    · exact hedits.descends

/-- The end of an adapter. -/
lemma descends_handleAdapterSessionClosed (sessionId : String) :
    Descends m (handleAdapterSessionClosed m sessionId) := by
  rw [handleAdapterSessionClosed]
  split
  · exact .refl m
  · exact descends_markFailed _ _

/-! ### The limits -/

/-- The active subagents that spawn has admitted for a parent session. -/
def Service.activeAdmitted (s : Service) (parentSessionId : String) : ℕ :=
  s.manager.subagents.entries.countP fun e =>
    decide (e.1 ∈ s.admitted) && (e.2.parentSessionId = parentSessionId && !e.2.ended)

/-- The active subagents that spawn has admitted. -/
def Service.totalAdmitted (s : Service) : ℕ :=
  s.manager.subagents.entries.countP fun e => decide (e.1 ∈ s.admitted) && !e.2.ended

variable (constraints : SubagentConstraints)

/-- A subagent within its effective depth, with an adapter and a model that are allowed. -/
structure Allowed (x : TrackedSubagent) : Prop where
  depth : x.depth ≤ effectiveMaxDepth constraints x.config
  adapter : ∃ name, x.config.adapterName = some name ∧
    (constraints.allowedAdapters = [] ∨ name ∈ constraints.allowedAdapters)
  model : ∀ name, x.config.model = some name →
    constraints.allowedModels = [] ∨ name ∈ constraints.allowedModels

/-- The condition on an action.  A spawn that is admitted was not overtaken since its checks, or finds
room; it names no empty model unless the empty name is allowed.  No input is requested for an ended
subagent, and no spawned event or execute call comes for an admitted one that is no longer tracked. -/
def Service.roomy (s : Service) : Event → Bool
  | .spawnResolved k session _ =>
    match s.spawns[k]? with
    | none => true
    | some w =>
      match admitConfig constraints w.request.config
          (resolveInheritedAdapterName session w.request.config.adapterName) with
      | .error _ => true
      | .ok config =>
        (!w.overtaken || decide (s.activeAdmitted w.request.parentSessionId <
          constraints.maxConcurrentPerSession ∧ s.totalAdmitted < constraints.maxTotalActive)) &&
        decide (config.model = some "" → constraints.allowedModels = [] ∨
          "" ∈ constraints.allowedModels)
  | .requestInput subagentId _ _ _ _ =>
    (s.manager.get subagentId).all fun x => !x.ended || x.completionCandidate.isSome
  | .spawned payload | .execute payload =>
    decide (payload.subagentId ∈ s.admitted → (s.manager.get payload.subagentId).isSome = true)
  | _ => true

/-- The action meets the condition. -/
def Roomy (s : Service) (e : Event) : Prop := s.roomy constraints e = true

instance (s : Service) (e : Event) : Decidable (Roomy constraints s e) :=
  inferInstanceAs (Decidable (s.roomy constraints e = true))

/-- The limits, and the invariant they rest on: a suspended spawn that was not overtaken would still
pass its checks. -/
structure Limits (s : Service) : Prop where
  /-- The limit of each session. -/
  session : ∀ parent, s.activeAdmitted parent ≤ constraints.maxConcurrentPerSession
  /-- The limit over all sessions. -/
  total : s.totalAdmitted ≤ constraints.maxTotalActive
  /-- Depth, adapter and model of the admitted subagents. -/
  allowed : ∀ id ∈ s.admitted, ∀ x, s.manager.get id = some x → Allowed constraints x
  /-- An admitted subagent is started at most once. -/
  once : ∀ id ∈ s.admitted, s.starts.count id ≤ 1
  /-- A spawn that was not overtaken would pass its checks. -/
  room : ∀ w ∈ s.spawns, w.overtaken = false →
    s.manager.countActiveBySession w.request.parentSessionId < constraints.maxConcurrentPerSession ∧
      s.manager.countTotalActive < constraints.maxTotalActive
  /-- A suspended spawn is within its depth. -/
  depth : ∀ w ∈ s.spawns, w.request.depth ≤ effectiveMaxDepth constraints w.request.config
  /-- Admitted identifiers are in use. -/
  admitted_seen : ∀ id ∈ s.admitted, id ∈ s.seen
  /-- Started identifiers are in use. -/
  starts_seen : ∀ id ∈ s.starts, id ∈ s.seen
  /-- Identifiers of executions are in use. -/
  running_seen : ∀ id, s.spawningExecutions.has id = true → id ∈ s.seen
  /-- An admitted subagent that was started is being started, or past its startup. -/
  started : ∀ id ∈ s.admitted, id ∈ s.starts → s.spawningExecutions.has id = true ∨
    ∀ x, s.manager.get id = some x → x.status ≠ .spawning
  /-- An execution that has failed is past its startup. -/
  failing : ∀ id ∈ s.admitted, s.spawningExecutions.get? id = some .failing →
    ∀ x, s.manager.get id = some x → x.status ≠ .spawning

variable {constraints} {s t : Service}

/-- Descent lowers the counts of the code. -/
lemma countActive_le (h : Descends s.manager t.manager) (parent : String) :
    t.manager.countActiveBySession parent ≤ s.manager.countActiveBySession parent ∧
      t.manager.countTotalActive ≤ s.manager.countTotalActive := by
  constructor
  · refine OrderedMap.countP_le fun id y hy hp => ?_
    obtain ⟨x, hx, hxy⟩ := h id y hy
    simp only [Bool.and_eq_true, decide_eq_true_eq, Bool.not_eq_true'] at hp ⊢
    exact ⟨x, hx, hxy.parent.symm.trans hp.1, hxy.active hp.2⟩
  · refine OrderedMap.countP_le fun id y hy hp => ?_
    obtain ⟨x, hx, hxy⟩ := h id y hy
    simp only [Bool.not_eq_true'] at hp ⊢
    exact ⟨x, hx, hxy.active hp⟩

/-- The records of admitted subagents descend. -/
def Kin (s t : Service) : Prop :=
  ∀ id ∈ s.admitted, ∀ y, t.manager.get id = some y → ∃ x, s.manager.get id = some x ∧ Heir x y

/-- **The carry rule**: the limits survive an action that admits no subagent and starts none, if the
records of the admitted ones descend and no execution ends in its startup. -/
lemma Limits.carry (hs : Limits constraints s) (hadmitted : t.admitted = s.admitted)
    (hstarts : t.starts = s.starts) (hseen : ∀ id ∈ s.seen, id ∈ t.seen) (hkin : Kin s t)
    (hspawns : ∀ w ∈ t.spawns, (∃ w' ∈ s.spawns, w'.request = w.request) ∧
      (w.overtaken = false → w ∈ s.spawns ∧ Descends s.manager t.manager))
    (hrunning : ∀ id, t.spawningExecutions.has id = true → s.spawningExecutions.has id = true)
    (hended : ∀ id ∈ s.admitted, s.spawningExecutions.has id = true →
      t.spawningExecutions.has id = true ∨ ∀ x, t.manager.get id = some x → x.status ≠ .spawning)
    (hfailing : ∀ id ∈ s.admitted, t.spawningExecutions.get? id = some .failing →
      s.spawningExecutions.get? id = some .failing ∨
        ∀ x, t.manager.get id = some x → x.status ≠ .spawning) :
    Limits constraints t where
  session parent := by
    refine le_trans (OrderedMap.countP_le fun id y hy hp => ?_) (hs.session parent)
    simp only [Bool.and_eq_true, decide_eq_true_eq, Bool.not_eq_true', hadmitted] at hp ⊢
    obtain ⟨x, hx, hxy⟩ := hkin id hp.1 y hy
    exact ⟨x, hx, hp.1, hxy.parent.symm.trans hp.2.1, hxy.active hp.2.2⟩
  total := by
    refine le_trans (OrderedMap.countP_le fun id y hy hp => ?_) hs.total
    simp only [Bool.and_eq_true, decide_eq_true_eq, Bool.not_eq_true', hadmitted] at hp ⊢
    obtain ⟨x, hx, hxy⟩ := hkin id hp.1 y hy
    exact ⟨x, hx, hp.1, hxy.active hp.2⟩
  allowed id hid y hy := by
    rw [hadmitted] at hid
    obtain ⟨x, hx, hxy⟩ := hkin id hid y hy
    have ha := hs.allowed id hid x hx
    exact ⟨by rw [hxy.config, hxy.depth]; exact ha.depth, by rw [hxy.config]; exact ha.adapter,
      by rw [hxy.config]; exact ha.model⟩
  once id hid := by
    rw [hadmitted] at hid
    rw [hstarts]
    exact hs.once id hid
  room w hw hovertaken := by
    obtain ⟨hmem, hd⟩ := (hspawns w hw).2 hovertaken
    obtain ⟨hsession, htotal⟩ := hs.room w hmem hovertaken
    obtain ⟨h₁, h₂⟩ := countActive_le hd w.request.parentSessionId
    exact ⟨h₁.trans_lt hsession, h₂.trans_lt htotal⟩
  depth w hw := by
    obtain ⟨⟨w', hw', heq⟩, -⟩ := hspawns w hw
    rw [← heq]
    exact hs.depth w' hw'
  admitted_seen id hid := hseen id (hs.admitted_seen id (hadmitted ▸ hid))
  starts_seen id hid := hseen id (hs.starts_seen id (hstarts ▸ hid))
  running_seen id hid := hseen id (hs.running_seen id (hrunning id hid))
  started id hid hst := by
    rw [hadmitted] at hid
    rw [hstarts] at hst
    rcases hs.started id hid hst with hrun | hpast
    · exact hended id hid hrun
    · refine .inr fun y hy hspawning => ?_
      obtain ⟨x, hx, hxy⟩ := hkin id hid y hy
      exact hpast x hx (hxy.spawning hspawning)
  failing id hid hf := by
    rw [hadmitted] at hid
    rcases hfailing id hid hf with hs' | hpast
    · intro y hy hspawning
      obtain ⟨x, hx, hxy⟩ := hkin id hid y hy
      exact hs.failing id hid hs' x hx (hxy.spawning hspawning)
    · exact hpast

/-- Descent is descent of the admitted subagents. -/
lemma Descends.kin (h : Descends s.manager t.manager) : Kin s t := fun id _ y hy => h id y hy

/-- The limits survive an action of the manager. -/
lemma Limits.withManager {m' : Manager} (hs : Limits constraints s)
    (h : Descends s.manager m') : Limits constraints (s.withManager m') :=
  hs.carry rfl rfl (fun _ => id) (Descends.kin h)
    (fun w hw => ⟨⟨w, hw, rfl⟩, fun _ => ⟨hw, h⟩⟩) (fun _ => id) (fun _ _ => .inl)
    (fun _ _ => .inl)

/-- The limits survive a call. -/
lemma Limits.call {r : Except SubagentError Manager} (hs : Limits constraints s)
    (h : ∀ m', r = .ok m' → Descends s.manager m') : Limits constraints (s.call r) := by
  cases r with
  | error e => exact hs
  | ok m' => exact hs.withManager (h m' rfl)

/-- The limits survive a suspended spawn that goes away. -/
lemma Limits.eraseSpawn (hs : Limits constraints s) (k : ℕ) :
    Limits constraints { s with spawns := s.spawns.eraseIdx k } :=
  hs.carry rfl rfl (fun _ => id) (Descends.refl s.manager).kin
    (fun w hw => have hmem := List.eraseIdx_subset hw
      ⟨⟨w, hmem, rfl⟩, fun _ => ⟨hmem, .refl s.manager⟩⟩)
    (fun _ => id) (fun _ _ => .inl) (fun _ _ => .inl)

/-- Tracking a subagent that spawn has not admitted. -/
lemma Limits.track (hs : Limits constraints s) (hid : id ∉ s.admitted) (parent : String)
    (config : SubagentConfig) (depth : ℚ) :
    Limits constraints (s.track id parent config depth) := by
  refine hs.carry rfl rfl (fun _ => List.mem_append_left _) ?_ ?_ (fun _ h => h)
    (fun _ _ => .inl) (fun _ _ => .inl)
  · intro id' hid' y hy
    rw [Service.track, Manager.track] at hy
    rw [Manager.get_put, if_neg] at hy
    · exact ⟨y, hy, .refl y⟩
    · rintro rfl
      exact hid hid'
  · intro w hw
    obtain ⟨w', hw', rfl⟩ := List.mem_map.mp hw
    exact ⟨⟨w', hw', rfl⟩, fun h => by cases h⟩

/-! ### Executions -/

/-- An execution is listed exactly when it has a phase. -/
lemma has_set (executions : OrderedMap String Phase) (id id' : String) (phase : Phase) :
    (executions.set id phase).has id' = true ↔ id' = id ∨ executions.has id' = true := by
  rw [OrderedMap.has_iff, OrderedMap.get?_set, OrderedMap.has_iff]
  split_ifs with h <;> simp [h]

/-- A listed execution has a phase. -/
lemma has_of_get? {executions : OrderedMap String Phase} {phase : Phase} (h : executions.get? id = some phase) :
    executions.has id = true :=
  OrderedMap.has_iff.mpr ⟨phase, h⟩

/-- The start of an execution that is neither under way nor past its startup: an admitted subagent
was not started before. -/
lemma Limits.start (hs : Limits constraints s) (hpast : ∀ x, s.manager.get id = some x → x.status = .spawning)
    (hrun : ¬s.spawningExecutions.has id = true)
    (htracked : id ∈ s.admitted → (s.manager.get id).isSome = true) :
    Limits constraints { s with
      starts := s.starts ++ [id]
      seen := s.seen ++ [id]
      spawningExecutions := s.spawningExecutions.set id .creating } := by
  have hfresh : id ∈ s.admitted → id ∉ s.starts := fun hid hst => by
    obtain ⟨x, hx⟩ := Option.isSome_iff_exists.mp (htracked hid)
    rcases hs.started id hid hst with h | h
    · exact hrun h
    · exact h x hx (hpast x hx)
  constructor
  · exact hs.session
  · exact hs.total
  · exact hs.allowed
  · intro id' hid'
    rw [List.count_append, List.count_singleton]
    by_cases heq : id = id'
    · subst heq
      rw [List.count_eq_zero.mpr (hfresh hid')]
      simp
    · simpa [heq] using hs.once id' hid'
  · exact hs.room
  · exact hs.depth
  · exact fun id' hid' => List.mem_append_left _ (hs.admitted_seen id' hid')
  · intro id' hid'
    rcases List.mem_append.mp hid' with h | h
    · exact List.mem_append_left _ (hs.starts_seen id' h)
    · exact List.mem_append_right _ h
  · intro id' hid'
    rcases (has_set _ _ _ _).mp hid' with rfl | h
    · exact List.mem_append_right _ (List.mem_singleton.mpr rfl)
    · exact List.mem_append_left _ (hs.running_seen id' h)
  · intro id' hid' hst
    rw [has_set]
    rcases List.mem_append.mp hst with h | h
    · exact (hs.started id' hid' h).imp_left .inr
    · exact .inl (.inl (List.mem_singleton.mp h))
  · intro id' hid' hf
    rw [OrderedMap.get?_set] at hf
    split_ifs at hf
    · cases hf
    · exact hs.failing id' hid' hf

/-- An execution goes on in another phase while the manager descends; if it has failed, its subagent is
past its startup. -/
lemma Limits.phase (hs : Limits constraints s) {phase : Phase} {m' : Manager}
    (hrun : s.spawningExecutions.has id = true) (hd : Descends s.manager m')
    (hfailing : phase = .failing → ∀ x, m'.get id = some x → x.status ≠ .spawning) :
    Limits constraints ((s.withManager m').setPhase id phase) := by
  refine hs.carry rfl rfl (fun _ h => h) (Descends.kin hd)
    (fun w hw => ⟨⟨w, hw, rfl⟩, fun _ => ⟨hw, hd⟩⟩) (fun id' h => ?_)
    (fun id' _ h => .inl ((has_set _ _ _ _).mpr (.inr h))) (fun id' _ hf => ?_)
  · rcases (has_set _ _ _ _).mp h with rfl | h
    · exact hrun
    · exact h
  · dsimp only [Service.setPhase, Service.withManager] at hf
    rw [OrderedMap.get?_set] at hf
    split_ifs at hf with heq
    · subst heq
      cases hf
      exact .inr (hfailing rfl)
    · exact .inl hf

/-- A failed subagent is past its startup. -/
lemma status_markFailed {m : Manager} {id error : String} (hx : (m.markFailed id error).get id = some x) :
    x.status ≠ .spawning := by
  rcases m.markFailed_cases id error with ⟨h, hended⟩ | ⟨y, hget, -, h⟩
  · rw [h] at hx
    intro hs
    have he := hended x hx
    rw [TrackedSubagent.ended, hs] at he
    cases he
  · rw [h, Manager.resolveAwaiters_get, Manager.get_put_self] at hx
    cases hx
    simp [Manager.applyStatus]

/-- An execution fails. -/
lemma Limits.failSpawn (hs : Limits constraints s) (hrun : s.spawningExecutions.has id = true)
    (error : String) :
    Limits constraints (s.failSpawn id error) :=
  hs.phase hrun (descends_markFailed id error) fun _ _ => status_markFailed

/-- An execution ends past its startup. -/
lemma Limits.endExecution (hs : Limits constraints s) {m' : Manager} (hd : Descends s.manager m')
    (hpast : id ∈ s.admitted → ∀ x, m'.get id = some x → x.status ≠ .spawning) :
    Limits constraints ((s.withManager m').endExecution id) := by
  have hget : ∀ id', ((s.withManager m').endExecution id).spawningExecutions.get? id' =
      if id' = id then none else s.spawningExecutions.get? id' := fun id' =>
    OrderedMap.get?_delete _ _ _
  refine hs.carry rfl rfl (fun _ h => h) (Descends.kin hd)
    (fun w hw => ⟨⟨w, hw, rfl⟩, fun _ => ⟨hw, hd⟩⟩) (fun id' h => ?_) (fun id' hid' h => ?_)
    (fun id' _ hf => ?_)
  · obtain ⟨phase, hphase⟩ := OrderedMap.has_iff.mp h
    rw [hget] at hphase
    split_ifs at hphase
    exact has_of_get? hphase
  · by_cases heq : id' = id
    · subst heq
      exact .inr (hpast hid')
    · obtain ⟨phase, hphase⟩ := OrderedMap.has_iff.mp h
      exact .inl (has_of_get? ((hget id').trans ((if_neg heq).trans hphase)))
  · rw [hget] at hf
    split_ifs at hf
    exact .inl hf

/-- Startup is over for a subagent that must abort. -/
lemma status_of_shouldAbort (h : s.shouldAbortSpawn id = true) (hx : s.manager.get id = some x) :
    x.status ≠ .spawning := by
  intro hs
  rw [Service.shouldAbortSpawn, hx, Option.all_some, hs] at h
  cases h

/-- A started subagent is past its startup. -/
lemma status_markStarted {m : Manager} (hx : (m.markStarted id).get id = some x) :
    x.status ≠ .spawning := by
  rw [Manager.markStarted] at hx
  cases hget : m.get id with
  | none =>
    rw [hget] at hx
    rw [hget] at hx
    cases hx
  | some y =>
    rw [hget] at hx
    dsimp only at hx
    split_ifs at hx with hs
    · rw [Manager.get_put_self] at hx
      cases hx
      simp [Manager.applyStatus]
    · rw [hget] at hx
      cases hx
      exact hs

/-- The delivery of a spawned event keeps the limits. -/
lemma Limits.handleSpawned (hs : Limits constraints s) {payload : SpawnedPayload}
    (htracked : payload.subagentId ∈ s.admitted →
      (s.manager.get payload.subagentId).isSome = true) :
    Limits constraints (s.handleSpawned payload) := by
  rw [Service.handleSpawned]
  split_ifs with hpast hrun
  · exact hs
  · exact hs
  · have hspawning : ∀ x, s.manager.get payload.subagentId = some x → x.status = .spawning := by
      intro x hx
      rw [hx, Option.any_some] at hpast
      simpa using hpast
    have hstart := hs.start hspawning hrun htracked
    have hhas := (has_set s.spawningExecutions payload.subagentId payload.subagentId
      .creating).mpr (.inl rfl)
    rw [Service.executeSpawned]
    split
    · have hfail := hstart.failSpawn hhas "Subagent spawn requires a non-empty adapterName"
      rw [Service.failSpawn, Service.setPhase] at hfail ⊢
      dsimp only [Service.withManager] at hfail ⊢
      rwa [OrderedMap.set_set] at hfail
    · split_ifs with hsome
      · exact hstart
      · have hnew : payload.subagentId ∉ s.admitted := fun hid => hsome (htracked hid)
        exact hstart.track hnew payload.parentSessionId
          { payload.config with task := payload.task } payload.depth

/-! ### Admission -/

/-- What an admitted configuration promises. -/
lemma admitConfig_ok {config config' : SubagentConfig} {adapterName : Option String}
    (h : admitConfig constraints config adapterName = .ok config') :
    config'.maxDepth = config.maxDepth ∧ config'.model = config.model ∧
      (∃ name, config'.adapterName = some name ∧
        (constraints.allowedAdapters = [] ∨ name ∈ constraints.allowedAdapters)) ∧
      ∀ name, config.model = some name → name ≠ "" →
        constraints.allowedModels = [] ∨ name ∈ constraints.allowedModels := by
  rw [admitConfig] at h
  split at h
  · cases h
  · rename_i name hname
    split_ifs at h with hadapter
    split at h
    · cases h
    · rename_i hmodel
      cases h
      refine ⟨rfl, rfl, ⟨name, rfl, ?_⟩, ?_⟩
      · by_contra hno
        rw [not_or] at hno
        exact hadapter hno
      · intro model hm hne
        by_contra hno
        rw [not_or] at hno
        rw [hm, Option.filter_some, if_pos (by simpa using ⟨hne, hno.1, hno.2⟩)] at hmodel
        cases hmodel

/-- The counts of the code bound those of the admitted subagents. -/
lemma admitted_le (s : Service) (parent : String) :
    s.activeAdmitted parent ≤ s.manager.countActiveBySession parent ∧
      s.totalAdmitted ≤ s.manager.countTotalActive := by
  constructor
  · refine List.countP_mono_left fun e _ h => ?_
    simp only [Bool.and_eq_true] at h ⊢
    exact h.2
  · refine List.countP_mono_left fun e _ h => ?_
    simp only [Bool.and_eq_true] at h ⊢
    exact h.2

/-- The service after the admission of a subagent. -/
def Service.enroll (s : Service) (id parent : String) (config : SubagentConfig) (depth : ℚ) :
    Service :=
  { s.track id parent config depth with admitted := s.admitted ++ [id] }

/-- Records after an admission. -/
lemma get_enroll (s : Service) (id parent : String) (config : SubagentConfig) (depth : ℚ)
    (id' : String) : (s.enroll id parent config depth).manager.get id' =
      if id' = id then some { parentSessionId := parent, status := .spawning, config, depth
                              startTime := s.manager.now, lastActivityAt := s.manager.now }
      else s.manager.get id' :=
  Manager.get_put _ _ _ _

/-- An admission raises the count of its session and the total by at most one, and no other count. -/
lemma activeAdmitted_enroll (hget : s.manager.get id = none) (parent : String) (config : SubagentConfig)
    (depth : ℚ) :
    (s.enroll id parent config depth).activeAdmitted parent ≤ s.activeAdmitted parent + 1 ∧
      (∀ parent' ≠ parent, (s.enroll id parent config depth).activeAdmitted parent' ≤
        s.activeAdmitted parent') ∧
      (s.enroll id parent config depth).totalAdmitted ≤ s.totalAdmitted + 1 := by
  have hne : ∀ id' x, s.manager.get id' = some x → id' ≠ id := by
    rintro id' x hx rfl
    rw [hget] at hx
    cases hx
  refine ⟨?_, fun parent' hparent => ?_, ?_⟩
  · refine (OrderedMap.countP_set_le _ hget _).trans (Nat.add_le_add_right ?_ 1)
    refine OrderedMap.countP_le fun id' x hx hp => ⟨x, hx, ?_⟩
    simpa [Service.enroll, hne id' x hx] using hp
  · refine OrderedMap.countP_le fun id' x hx hp => ?_
    rw [show (s.enroll id parent config depth).manager.subagents.get? id' = _ from
      get_enroll s id parent config depth id'] at hx
    split_ifs at hx with heq
    · cases hx
      simp [Ne.symm hparent] at hp
    · refine ⟨x, hx, ?_⟩
      simpa [Service.enroll, heq] using hp
  · refine (OrderedMap.countP_set_le _ hget _).trans (Nat.add_le_add_right ?_ 1)
    refine OrderedMap.countP_le fun id' x hx hp => ⟨x, hx, ?_⟩
    simpa [Service.enroll, hne id' x hx] using hp

/-- **The admission rule**: where there is room, the limits survive the admission of a fresh subagent
that is allowed. -/
lemma Limits.enroll (hs : Limits constraints s) {id parent : String} {config : SubagentConfig}
    {depth : ℚ} (hseen : id ∉ s.seen) (hget : s.manager.get id = none)
    (hroom : s.activeAdmitted parent < constraints.maxConcurrentPerSession ∧
      s.totalAdmitted < constraints.maxTotalActive)
    (hallowed : Allowed constraints { parentSessionId := parent, status := .spawning, config, depth
                                      startTime := s.manager.now, lastActivityAt := s.manager.now }) :
    Limits constraints (s.enroll id parent config depth) := by
  have htrack := hs.track (fun hid => hseen (hs.admitted_seen id hid)) parent config depth
  obtain ⟨hsession, hother, htotal⟩ := activeAdmitted_enroll hget parent config depth
  constructor
  · intro parent'
    by_cases heq : parent' = parent
    · subst heq
      omega
    · exact (hother parent' heq).trans (hs.session parent')
  · omega
  · intro id' hid' x hx
    rw [get_enroll] at hx
    split_ifs at hx with heq
    · cases hx
      exact hallowed
    · rcases List.mem_append.mp hid' with h | h
      · exact hs.allowed id' h x hx
      · exact absurd (List.mem_singleton.mp h) heq
  · intro id' hid'
    rcases List.mem_append.mp hid' with h | h
    · exact hs.once id' h
    · rw [List.mem_singleton] at h
      subst h
      have hzero : s.starts.count id' = 0 :=
        List.count_eq_zero.mpr fun hst => hseen (hs.starts_seen id' hst)
      exact hzero.trans_le (Nat.zero_le 1)
  · exact htrack.room
  · exact htrack.depth
  · intro id' hid'
    rcases List.mem_append.mp hid' with h | h
    · exact List.mem_append_left _ (hs.admitted_seen id' h)
    · exact List.mem_append_right _ h
  · exact htrack.starts_seen
  · exact htrack.running_seen
  · intro id' hid' hst
    rcases List.mem_append.mp hid' with h | h
    · exact htrack.started id' h hst
    · rw [List.mem_singleton] at h
      subst h
      exact absurd (hs.starts_seen id' hst) hseen
  · intro id' hid' hf
    rcases List.mem_append.mp hid' with h | h
    · exact htrack.failing id' h hf
    · rw [List.mem_singleton] at h
      subst h
      exact absurd (hs.running_seen id' (has_of_get? hf)) hseen

/-! ### Runs -/

/-- A spawn that passes its checks is suspended with room and within its depth. -/
lemma Limits.spawn (hs : Limits constraints s) {request : SpawnRequest} {u : Unit}
    (h : checkSpawn constraints s.manager request = .ok u) :
    Limits constraints { s with spawns := s.spawns ++ [{ request }] } := by
  rw [checkSpawn] at h
  split_ifs at h with hdepth hsession htotal
  constructor
  · exact hs.session
  · exact hs.total
  · exact hs.allowed
  · exact hs.once
  · intro w hw hovertaken
    rcases List.mem_append.mp hw with hw | hw
    · exact hs.room w hw hovertaken
    · rw [List.mem_singleton] at hw
      subst hw
      exact ⟨not_le.mp hsession, not_le.mp htotal⟩
  · intro w hw
    rcases List.mem_append.mp hw with hw | hw
    · exact hs.depth w hw
    · rw [List.mem_singleton] at hw
      subst hw
      exact not_lt.mp hdepth
  · exact hs.admitted_seen
  · exact hs.starts_seen
  · exact hs.running_seen
  · exact hs.started
  · exact hs.failing

/-- A suspended spawn resumes.

**Proof sketch.** If it was not overtaken it would still pass its checks, which count more than the
admitted subagents; otherwise the condition gives room. -/
lemma Limits.spawnResolved (hs : Limits constraints s) {k : ℕ} {session : Option ParentSession}
    (hok : Roomy constraints s (.spawnResolved k session id))
    (h : s.step constraints (.spawnResolved k session id) = some t) : Limits constraints t := by
  rw [Service.step] at h
  rw [Roomy, Service.roomy] at hok
  cases hw : s.spawns[k]? with
  | none => rw [hw] at h; cases h
  | some w =>
    rw [hw] at h hok
    dsimp only at h hok
    cases hconfig : admitConfig constraints w.request.config
        (resolveInheritedAdapterName session w.request.config.adapterName) with
    | error e =>
      rw [hconfig] at h
      cases h
      exact hs.eraseSpawn k
    | ok config =>
      rw [hconfig] at h hok
      rw [Bool.and_eq_true, Bool.or_eq_true, decide_eq_true_eq, decide_eq_true_eq,
        Bool.not_eq_true'] at hok
      obtain ⟨hroom, hempty⟩ := hok
      split_ifs at h with hused
      cases h
      rw [not_or, Option.not_isSome_iff_eq_none] at hused
      have hmem := List.mem_of_getElem? hw
      obtain ⟨hdepth, hmodel, hadapter, hmodels⟩ := admitConfig_ok hconfig
      refine (hs.eraseSpawn k).enroll hused.1 hused.2 ?_ ?_
      · rcases hroom with hfirst | hroom
        · obtain ⟨h₁, h₂⟩ := hs.room w hmem hfirst
          obtain ⟨h₃, h₄⟩ := admitted_le s w.request.parentSessionId
          exact ⟨h₃.trans_lt h₁, h₄.trans_lt h₂⟩
        · exact hroom
      · refine ⟨?_, hadapter, fun name hname => ?_⟩
        · rw [effectiveMaxDepth, hdepth]
          exact hs.depth w hmem
        · by_cases hnil : name = ""
          · subst hnil
            exact hempty hname
          · exact hmodels name (hmodel ▸ hname) hnil

/-- **One action keeps the limits.**

**Proof sketch.** By the action.  Most change the manager only, and let every record descend; the
actions of an execution keep it listed until its subagent is past its startup. -/
theorem Limits.step (hs : Limits constraints s) {e : Event} (hok : Roomy constraints s e)
    (h : s.step constraints e = some t) : Limits constraints t := by
  cases e with
  | tick ms => cases h; exact hs.withManager (.of_get fun _ => rfl)
  | spawn request =>
    rw [Service.step] at h
    split at h
    · cases h; exact hs
    · rename_i u hcheck
      cases h
      exact hs.spawn hcheck
  | spawnResolved k session id => exact hs.spawnResolved hok h
  | spawnRejected k =>
    rw [Service.step] at h
    split_ifs at h
    cases h
    exact hs.eraseSpawn k
  | spawned payload =>
    cases h
    exact hs.handleSpawned (of_decide_eq_true hok)
  | execute payload =>
    rw [Service.step] at h
    split_ifs at h with hget
    cases h
    have hnew : payload.subagentId ∉ s.admitted := fun hid => hget (of_decide_eq_true hok hid)
    exact (hs.track hnew _ _ _).handleSpawned fun hid => absurd hid hnew
  | startupFailed id error =>
    rw [Service.step] at h
    split at h
    · rename_i hphase
      cases h
      exact hs.failSpawn (has_of_get? hphase) error
    · cases h
  | sessionCreated id sid =>
    rw [Service.step] at h
    split at h
    · rename_i hphase
      cases h
      exact hs.phase (has_of_get? hphase) (edits_setChildSessionId id sid).descends
        fun h => by cases h
    · cases h
  | attachStarted id =>
    rw [Service.step] at h
    split at h
    · rename_i hphase
      split_ifs at h with habort <;> cases h
      · exact hs.endExecution (.refl s.manager) fun _ x hx => status_of_shouldAbort habort hx
      · exact hs.phase (has_of_get? hphase) (.refl s.manager) fun h => by cases h
    · cases h
  | attached id =>
    rw [Service.step] at h
    split at h
    · split_ifs at h with habort <;> cases h
      · exact hs.endExecution (.refl s.manager) fun _ x hx => status_of_shouldAbort habort hx
      · exact hs.endExecution (descends_markStarted id) fun _ x hx => status_markStarted hx
    · cases h
  | attachFailed id error =>
    rw [Service.step] at h
    split at h
    · rename_i hphase
      split_ifs at h with habort <;> cases h
      · exact hs.endExecution (.refl s.manager) fun _ x hx => status_of_shouldAbort habort hx
      · exact hs.failSpawn (has_of_get? hphase) error
    · cases h
  | executionEnded id =>
    rw [Service.step] at h
    split at h
    · rename_i hphase
      cases h
      exact hs.endExecution (.refl s.manager) fun hid => hs.failing id hid hphase
    · cases h
  | await id timeoutMs => cases h; exact hs.withManager (descends_handleAwaitRpc _ _ _)
  | awaitTimeout call =>
    obtain ⟨m', hm', rfl⟩ := Option.map_eq_some_iff.mp h
    exact hs.withManager (descends_awaitTimedOut hm')
  | send id content inResponseTo =>
    cases h
    exact hs.call fun m' hm' => descends_handleSendRpc hm'
  | kill id => cases h; exact hs.withManager (descends_markCancelled id)
  | reportProgress id update percent =>
    cases h
    refine hs.call fun m' hm' => ?_
    rw [handleReportProgressRpc] at hm'
    split at hm' <;> cases hm'
    exact (edits_addProgress _ _).descends
  | requestInput id messageId question context timeoutMs =>
    cases h
    refine hs.call fun m' hm' => descends_handleRequestInputRpc constraints ?_ hm'
    intro x hx he
    rw [Roomy, Service.roomy, hx, Option.all_some, he] at hok
    simpa using hok
  | inputTimeout call =>
    obtain ⟨m', hm', rfl⟩ := Option.map_eq_some_iff.mp h
    exact hs.withManager (descends_inputTimedOut hm')
  | published call error =>
    obtain ⟨m', hm', rfl⟩ := Option.map_eq_some_iff.mp h
    exact hs.withManager (descends_questionPublished hm')
  | inputReturn call =>
    obtain ⟨m', hm', rfl⟩ := Option.map_eq_some_iff.mp h
    exact hs.withManager (descends_inputReturned hm')
  | completeTask sessionId turnId result summary =>
    cases h
    exact hs.call fun m' hm' => descends_handleCompleteTaskRpc hm'
  | agentComplete payload => cases h; exact hs.withManager (descends_handleAgentComplete payload)
  | turnStarted sid turnId =>
    cases h
    exact hs.withManager (edits_recordTurnStarted sid turnId).descends
  | turnCompleted payload =>
    cases h
    exact hs.withManager (descends_handleSessionTurnCompleted payload)
  | toolCompleted sid observation toolCallId =>
    cases h
    exact hs.withManager (edits_recordToolObservation sid observation toolCallId).descends
  | adapterSessionClosed sid =>
    cases h
    exact hs.withManager (descends_handleAdapterSessionClosed sid)
  | sweep => cases h; exact hs.withManager (descends_sweep _ _)

/-- Nothing is admitted at the construction. -/
lemma Limits.initial (now : ℕ) : Limits constraints (Service.initial now) where
  session _ := Nat.zero_le _
  total := Nat.zero_le _
  allowed _ h := by cases h
  once _ h := by cases h
  room _ h := by cases h
  depth _ h := by cases h
  admitted_seen _ h := by cases h
  starts_seen _ h := by cases h
  running_seen _ h := by cases h
  started _ h := by cases h
  failing _ h := by cases h

/-- **The limits on subagents**: in every run in which a spawn that was overtaken finds room when it is
admitted, no spawn names an empty model that is not allowed, no input is requested for an ended
subagent without completion intent, and no spawned event or execute call comes for an admitted
subagent that is no longer tracked, the active subagents that spawn admitted keep to the limit of their
session and to the total limit; each has a depth, an adapter and a model that are allowed, and is
started at most once.

**Proof sketch.** A suspended spawn that was not overtaken would still pass its checks: other actions
only lower the counts.  So an admission always finds room, and no other action makes an admitted
subagent active or returns it to its startup. -/
theorem subagent_limits (hs : Reach Started (Service.step constraints) (Roomy constraints) s) :
    (∀ parent, s.activeAdmitted parent ≤ constraints.maxConcurrentPerSession) ∧
      s.totalAdmitted ≤ constraints.maxTotalActive ∧
      (∀ id ∈ s.admitted, ∀ x, s.manager.get id = some x → Allowed constraints x) ∧
      ∀ id ∈ s.admitted, s.starts.count id ≤ 1 := by
  have hlimits : Limits constraints s := by
    refine hs.invariant (Limits constraints) ?_ fun s e t hm hok h => hm.step hok h
    rintro s ⟨now, rfl⟩
    exact .initial now
  exact ⟨hlimits.session, hlimits.total, hlimits.allowed, hlimits.once⟩

/-- A spawn request for examples. -/
def sampleRequest : SpawnRequest where
  parentSessionId := "parent"
  config := { task := "look", adapterName := some " adapter " }
  depth := 1

/-- The spawned event of a subagent for examples. -/
def sampleSpawned (id : String) : SpawnedPayload :=
  { samplePayload with subagentId := id }

/-- A run in which a subagent is spawned, started once although its event comes twice, and killed, and
then another one is spawned. -/
def spawnRun : List Event :=
  [.spawn sampleRequest, .spawnResolved 0 none "a", .spawned (sampleSpawned "a"),
    .spawned (sampleSpawned "a"), .kill "a", .spawn sampleRequest, .spawnResolved 0 none "b",
    .spawned (sampleSpawned "b")]

/-- The limits after two spawns, one after the other. -/
theorem subagent_limits_sequential : ∃ s : Service, s.admitted = ["a", "b"] ∧
    s.starts = ["a", "b"] ∧ s.activeAdmitted "parent" = 1 ∧
    (∀ parent, s.activeAdmitted parent ≤ sampleConstraints.maxConcurrentPerSession) ∧
      s.totalAdmitted ≤ sampleConstraints.maxTotalActive ∧
      (∀ id ∈ s.admitted, ∀ x, s.manager.get id = some x → Allowed sampleConstraints x) ∧
      ∀ id ∈ s.admitted, s.starts.count id ≤ 1 := by
  have hrun : (runGuarded (Service.step sampleConstraints) (Roomy sampleConstraints) (.initial 0)
      spawnRun).any (fun s => decide (s.admitted = ["a", "b"] ∧ s.starts = ["a", "b"] ∧
        s.activeAdmitted "parent" = 1)) = true := by
    decide +kernel
  obtain ⟨s, hs, hp⟩ := (Option.any_eq_true _ _).mp hrun
  obtain ⟨hadmitted, hstarts, hactive⟩ := of_decide_eq_true hp
  exact ⟨s, hadmitted, hstarts, hactive,
    subagent_limits (.of_runGuarded spawnRun (.start ⟨0, rfl⟩) hs)⟩

/-- A run in which two spawns overlap. -/
def overlapRun : List Event :=
  [.spawn sampleRequest, .spawn sampleRequest, .spawnResolved 0 none "a", .spawnResolved 0 none "b"]

/-- **Two overlapping spawns exceed the limit of a session**: both pass their check before either is
tracked. -/
theorem not_subagent_limits : ¬ ∀ (constraints : SubagentConstraints) (s : Service),
    Reach Started (Service.step constraints) (fun _ _ => True) s →
      ∀ parent, s.activeAdmitted parent ≤ constraints.maxConcurrentPerSession := by
  intro h
  have hrun : (runGuarded (Service.step sampleConstraints) (fun _ _ => True) (.initial 0)
      overlapRun).any (fun s => decide (s.activeAdmitted "parent" = 2)) = true := by
    decide +kernel
  obtain ⟨s, hs, hp⟩ := (Option.any_eq_true _ _).mp hrun
  have htwo := of_decide_eq_true hp
  have hle := h sampleConstraints s (.of_runGuarded overlapRun (.start ⟨0, rfl⟩) hs) "parent"
  rw [htwo] at hle
  exact absurd hle (by decide)

end Makaio.Subagent
