import Mathlib.Data.Finset.Basic
import Makaio.Foundations.OrderedMap

set_option autoImplicit false

/-!
# Turns and their message ledger

A turn admits messages, each with the agents it is sent to.  An admitted message is pending until
its durable setup commits or is rolled back, and each admitted pair of a message and an agent gets
at most one terminal outcome.

## Main definitions

* `Turn` — a turn with its ledger.
* `Turn.admitMessage`, `commitMessageAdmission`, `rollbackMessageAdmission`,
  `recordPairTerminal`, `isComplete` — the operations of the ledger.
* `Turn.Closed`, `Turn.WellFormed` — closed ledgers, and what the operations
  maintain.

## Main results

* `Turn.isComplete_iff` — what a closed ledger is.
* `Turn.WellFormed.admitMessage`, `commit`, `rollback`, `record` — the operations keep
  the ledger well formed.
-/

namespace Makaio.Turns

open Foundations

/-- `MessageOutcomeSchema`. -/
inductive MessageOutcome
  | completed | superseded | merged | cancelled | error | rejected
  deriving DecidableEq

/-- `TurnResult`, and the `TurnCompletionResult` of a completed turn. -/
structure TurnCompletionResult where
  success : Bool
  errors : List String

/-- A turn of a session: its identity, its participants, and its ledger. -/
structure Turn where
  turnId : String
  turnNumber : ℕ
  agentIds : List String
  admittedTargetsByMessageId : OrderedMap String (List String)
  terminalPairs : OrderedMap (String × String) (MessageOutcome × Option String)
  pendingMessageAdmissions : Finset String

/-- The answer of `recordPairTerminal`. -/
inductive TurnPairStateChange
  | refused
  | accepted
  | turnComplete (result : TurnCompletionResult)

namespace Turn

/-- The constructor; it throws on a turn number below one. -/
def new (turnId : String) (turnNumber : ℕ) (agentIds : List String) : Except String Turn :=
  if turnNumber < 1 then .error "turnNumber must be a positive integer"
  else .ok ⟨turnId, turnNumber, agentIds, .empty, .empty, ∅⟩

/-- Check if an agent is part of this turn. -/
def hasAgent (turn : Turn) (agentId : String) : Bool := turn.agentIds.contains agentId

/-- Admit a message and its complete fanout into this turn's immutable ledger. -/
def admitMessage (turn : Turn) (messageId : String) (agentIds : List String) :
    Except String Turn :=
  if turn.admittedTargetsByMessageId.has messageId then
    .error s!"Turn {turn.turnId} already admitted message {messageId}"
  else if agentIds.length = 0 || !decide agentIds.Nodup then
    .error
      s!"Turn {turn.turnId} requires a non-empty unique target set for message {messageId}"
  else if agentIds.any fun agentId => !turn.hasAgent agentId then
    .error s!"Turn {turn.turnId} cannot admit targets outside its immutable participant set"
  else
    .ok { turn with
      admittedTargetsByMessageId := turn.admittedTargetsByMessageId.set messageId agentIds
      pendingMessageAdmissions := insert messageId turn.pendingMessageAdmissions }

/-- Commit a durable pre-dispatch message admission. -/
def commitMessageAdmission (turn : Turn) (messageId : String) : Except String Turn :=
  if turn.admittedTargetsByMessageId.has messageId then
    .ok { turn with
      pendingMessageAdmissions := turn.pendingMessageAdmissions.erase messageId }
  else .error s!"Turn {turn.turnId} cannot commit unknown message {messageId}"

/-- Roll back an admission whose setup failed before dispatch. -/
def rollbackMessageAdmission (turn : Turn) (messageId : String) : Except String Turn :=
  match turn.admittedTargetsByMessageId.get? messageId with
  | none => .ok turn
  | some targets =>
    if targets.any fun agentId => turn.terminalPairs.has (messageId, agentId) then
      .error s!"Turn {turn.turnId} cannot roll back terminal message {messageId}"
    else
      .ok { turn with
        admittedTargetsByMessageId := turn.admittedTargetsByMessageId.delete messageId
        pendingMessageAdmissions := turn.pendingMessageAdmissions.erase messageId }

/-- Whether every admitted delivery pair reached a terminal outcome, with at least one admission and
none pending. -/
def isComplete (turn : Turn) : Bool :=
  !turn.admittedTargetsByMessageId.entries.isEmpty && decide (turn.pendingMessageAdmissions = ∅) &&
    turn.admittedTargetsByMessageId.entries.all fun entry =>
      entry.2.all fun agentId => turn.terminalPairs.has (entry.1, agentId)

/-- The turn result. -/
def getResult (turn : Turn) : TurnCompletionResult :=
  let errors := (turn.terminalPairs.values.filter fun entry => entry.1 = .error).map fun entry =>
    entry.2.getD "Unknown error"
  { success := errors.isEmpty, errors }

/-- Record one terminal outcome for an admitted delivery pair. -/
def recordPairTerminal (turn : Turn) (messageId agentId : String) (outcome : MessageOutcome)
    (error : Option String) : Turn × TurnPairStateChange :=
  if (turn.admittedTargetsByMessageId.get? messageId).all fun targets =>
      !targets.contains agentId then
    (turn, .refused)
  else if turn.terminalPairs.has (messageId, agentId) then (turn, .refused)
  else
    let recorded := { turn with
      terminalPairs := turn.terminalPairs.set (messageId, agentId) (outcome, error) }
    (recorded, if recorded.isComplete then .turnComplete recorded.getResult else .accepted)

/-! ### Closed and well-formed ledgers -/

/-- Nothing is left to wait for: a message is admitted, no admission is pending, and every admitted
pair of a message and an agent has a terminal outcome. -/
def Closed (turn : Turn) : Prop :=
  (∃ messageId targets, turn.admittedTargetsByMessageId.get? messageId = some targets) ∧
    turn.pendingMessageAdmissions = ∅ ∧
    ∀ messageId targets, turn.admittedTargetsByMessageId.get? messageId = some targets →
      ∀ agentId ∈ targets, ∃ outcome, turn.terminalPairs.get? (messageId, agentId) = some outcome

/-- **A closed ledger**: `isComplete` decides it. -/
theorem isComplete_iff {turn : Turn} : turn.isComplete = true ↔ turn.Closed := by
  have hsome : (!turn.admittedTargetsByMessageId.entries.isEmpty) = true ↔
      ∃ messageId targets, turn.admittedTargetsByMessageId.get? messageId = some targets := by
    rw [Bool.not_eq_true', List.isEmpty_eq_false_iff_exists_mem]
    constructor
    · rintro ⟨⟨messageId, targets⟩, hmem⟩
      exact ⟨messageId, targets, OrderedMap.mem_entries_iff.mp hmem⟩
    · rintro ⟨messageId, targets, hget⟩
      exact ⟨(messageId, targets), OrderedMap.mem_entries_iff.mpr hget⟩
  have hall : (turn.admittedTargetsByMessageId.entries.all fun entry =>
      entry.2.all fun agentId => turn.terminalPairs.has (entry.1, agentId)) = true ↔
      ∀ messageId targets, turn.admittedTargetsByMessageId.get? messageId = some targets →
        ∀ agentId ∈ targets,
          ∃ outcome, turn.terminalPairs.get? (messageId, agentId) = some outcome := by
    simp only [List.all_eq_true, Prod.forall, OrderedMap.mem_entries_iff, OrderedMap.has_iff]
  rw [isComplete, Bool.and_eq_true, Bool.and_eq_true, hsome, hall, decide_eq_true_eq, and_assoc,
    Closed]

/-- What the ledger maintains: pending messages are admitted, targets are not empty, and a terminal
outcome belongs to an admitted pair of a message that is not pending. -/
structure WellFormed (turn : Turn) : Prop where
  pending : ∀ messageId ∈ turn.pendingMessageAdmissions,
    ∃ targets, turn.admittedTargetsByMessageId.get? messageId = some targets
  targets : ∀ messageId targets, turn.admittedTargetsByMessageId.get? messageId = some targets →
    targets ≠ []
  recorded : ∀ messageId agentId outcome,
    turn.terminalPairs.get? (messageId, agentId) = some outcome →
      messageId ∉ turn.pendingMessageAdmissions ∧
        ∃ targets, turn.admittedTargetsByMessageId.get? messageId = some targets ∧
          agentId ∈ targets

section Operations

variable {turn turn' : Turn} {messageId : String} {agentIds : List String}

/-- A new turn has an empty ledger. -/
lemma new_ok {turnId : String} {turnNumber : ℕ} (h : new turnId turnNumber agentIds = .ok turn) :
    turn.turnId = turnId ∧ turn.WellFormed ∧ turn.isComplete = false := by
  rw [new] at h
  split_ifs at h
  cases h
  refine ⟨rfl, ⟨fun _ hmem => ?_, fun _ _ hget => ?_, fun _ _ _ hget => ?_⟩, rfl⟩
  · exact absurd hmem (Finset.notMem_empty _)
  · exact nomatch hget
  · exact nomatch hget

/-- What an admission did: the message was unknown, and is pending. -/
lemma admitMessage_ok (h : turn.admitMessage messageId agentIds = .ok turn') :
    turn.admittedTargetsByMessageId.get? messageId = none ∧ agentIds ≠ [] ∧
      turn' = { turn with
        admittedTargetsByMessageId := turn.admittedTargetsByMessageId.set messageId agentIds
        pendingMessageAdmissions := insert messageId turn.pendingMessageAdmissions } := by
  rw [admitMessage] at h
  split_ifs at h with hknown hempty houtside
  refine ⟨?_, ?_, (Except.ok.inj h).symm⟩
  · rw [OrderedMap.has_iff] at hknown
    exact Option.eq_none_iff_forall_not_mem.mpr fun targets htargets => hknown ⟨targets, htargets⟩
  · rintro rfl
    simp at hempty

/-- An admission keeps the ledger well formed. -/
lemma WellFormed.admitMessage (hturn : turn.WellFormed)
    (h : turn.admitMessage messageId agentIds = .ok turn') : turn'.WellFormed := by
  obtain ⟨hunknown, hne, rfl⟩ := admitMessage_ok h
  constructor
  · intro m hm
    rw [OrderedMap.get?_set]
    split_ifs with heq
    · exact ⟨agentIds, rfl⟩
    · exact hturn.pending m ((Finset.mem_insert.mp hm).resolve_left heq)
  · intro m targets hget
    rw [OrderedMap.get?_set] at hget
    split_ifs at hget with heq
    · cases hget
      exact hne
    · exact hturn.targets m targets hget
  · intro m agentId outcome hget
    obtain ⟨hpending, targets, htargets, hmem⟩ := hturn.recorded m agentId outcome hget
    have hm : m ≠ messageId := by
      rintro rfl
      cases hunknown.symm.trans htargets
    refine ⟨fun hm' => ?_, targets, ?_, hmem⟩
    · exact (Finset.mem_insert.mp hm').elim hm hpending
    · rw [OrderedMap.get?_set_of_ne _ _ hm]
      exact htargets

/-- A commit takes the message from the pending ones. -/
lemma commitMessageAdmission_ok (h : turn.commitMessageAdmission messageId = .ok turn') :
    turn' = { turn with
      pendingMessageAdmissions := turn.pendingMessageAdmissions.erase messageId } := by
  rw [commitMessageAdmission] at h
  split_ifs at h
  exact (Except.ok.inj h).symm

/-- A pending message commits. -/
lemma WellFormed.commit_ok (hturn : turn.WellFormed)
    (hpending : messageId ∈ turn.pendingMessageAdmissions) :
    ∃ turn', turn.commitMessageAdmission messageId = .ok turn' := by
  rw [commitMessageAdmission, if_pos (OrderedMap.has_iff.mpr (hturn.pending messageId hpending))]
  exact ⟨_, rfl⟩

/-- A commit keeps the ledger well formed. -/
lemma WellFormed.commit (hturn : turn.WellFormed)
    (h : turn.commitMessageAdmission messageId = .ok turn') : turn'.WellFormed := by
  obtain rfl := commitMessageAdmission_ok h
  refine ⟨fun m hm => hturn.pending m (Finset.mem_of_mem_erase hm), hturn.targets,
    fun m agentId outcome hget => ?_⟩
  obtain ⟨hpending, htargets⟩ := hturn.recorded m agentId outcome hget
  exact ⟨fun hm => hpending (Finset.mem_of_mem_erase hm), htargets⟩

/-- After the commit of a pending message its pairs are open. -/
lemma WellFormed.commit_incomplete (hturn : turn.WellFormed)
    (hpending : messageId ∈ turn.pendingMessageAdmissions)
    (h : turn.commitMessageAdmission messageId = .ok turn') : turn'.isComplete = false := by
  obtain rfl := commitMessageAdmission_ok h
  rw [Bool.eq_false_iff]
  intro hcomplete
  obtain ⟨-, -, hterminal⟩ := isComplete_iff.mp hcomplete
  obtain ⟨targets, htargets⟩ := hturn.pending messageId hpending
  obtain ⟨agentId, hagent⟩ := List.exists_mem_of_ne_nil targets (hturn.targets _ _ htargets)
  obtain ⟨outcome, houtcome⟩ := hterminal messageId targets htargets agentId hagent
  exact (hturn.recorded messageId agentId outcome houtcome).1 hpending

/-- A ledger with a pending message is open. -/
lemma isComplete_of_pending (hpending : messageId ∈ turn.pendingMessageAdmissions) :
    turn.isComplete = false := by
  rw [Bool.eq_false_iff]
  intro hcomplete
  rw [(isComplete_iff.mp hcomplete).2.1] at hpending
  exact absurd hpending (Finset.notMem_empty _)

/-- A rollback takes the message from the pending ones. -/
lemma rollbackMessageAdmission_pending (h : turn.rollbackMessageAdmission messageId = .ok turn') :
    turn'.turnId = turn.turnId ∧ turn'.pendingMessageAdmissions ⊆ turn.pendingMessageAdmissions ∧
      ∀ m ∈ turn.pendingMessageAdmissions, m ≠ messageId → m ∈ turn'.pendingMessageAdmissions := by
  rw [rollbackMessageAdmission] at h
  split at h
  · cases h
    exact ⟨rfl, subset_rfl, fun m hm _ => hm⟩
  · split_ifs at h
    cases h
    exact ⟨rfl, Finset.erase_subset _ _, fun m hm hne => Finset.mem_erase.mpr ⟨hne, hm⟩⟩

/-- A pending message rolls back. -/
lemma WellFormed.rollback_ok (hturn : turn.WellFormed)
    (hpending : messageId ∈ turn.pendingMessageAdmissions) :
    ∃ turn', turn.rollbackMessageAdmission messageId = .ok turn' := by
  obtain ⟨targets, htargets⟩ := hturn.pending messageId hpending
  rw [rollbackMessageAdmission, htargets]
  dsimp only
  rw [if_neg]
  · exact ⟨_, rfl⟩
  · rw [List.any_eq_true]
    rintro ⟨agentId, -, hterminal⟩
    obtain ⟨outcome, houtcome⟩ := OrderedMap.has_iff.mp hterminal
    exact (hturn.recorded messageId agentId outcome houtcome).1 hpending

/-- A rollback keeps the ledger well formed. -/
lemma WellFormed.rollback (hturn : turn.WellFormed)
    (h : turn.rollbackMessageAdmission messageId = .ok turn') : turn'.WellFormed := by
  rw [rollbackMessageAdmission] at h
  split at h
  · cases h
    exact hturn
  · rename_i rolled hrolled
    split_ifs at h with hterminal
    cases h
    constructor
    · intro m hm
      obtain ⟨hne, hm⟩ := Finset.mem_erase.mp hm
      rw [OrderedMap.get?_delete_of_ne _ hne]
      exact hturn.pending m hm
    · intro m targets hget
      rw [OrderedMap.get?_delete] at hget
      split_ifs at hget
      exact hturn.targets m targets hget
    · intro m agentId outcome hget
      obtain ⟨hpending, targets, htargets, hmem⟩ := hturn.recorded m agentId outcome hget
      have hm : m ≠ messageId := by
        rintro rfl
        cases hrolled.symm.trans htargets
        exact hterminal (List.any_eq_true.mpr
          ⟨agentId, hmem, OrderedMap.has_iff.mpr ⟨outcome, hget⟩⟩)
      refine ⟨fun hm' => hpending (Finset.mem_of_mem_erase hm'), targets, ?_, hmem⟩
      rw [OrderedMap.get?_delete_of_ne _ hm]
      exact htargets

/-- Recording an outcome leaves the admissions, and tells when it closed the ledger. -/
lemma recordPairTerminal_spec (turn : Turn) (messageId agentId : String) (outcome : MessageOutcome)
    (error : Option String) :
    turn.recordPairTerminal messageId agentId outcome error = (turn, .refused) ∨
      ∃ turn' change, turn.recordPairTerminal messageId agentId outcome error = (turn', change) ∧
        turn'.pendingMessageAdmissions = turn.pendingMessageAdmissions ∧
        (change = .accepted ∧ turn'.isComplete = false ∨
          ∃ result, change = .turnComplete result ∧ turn'.isComplete = true) := by
  rw [recordPairTerminal]
  split_ifs with htarget hrecorded
  · exact Or.inl rfl
  · exact Or.inl rfl
  · right
    dsimp only
    split_ifs with hcomplete
    · exact ⟨_, _, rfl, rfl, Or.inr ⟨_, rfl, hcomplete⟩⟩
    · exact ⟨_, _, rfl, rfl, Or.inl ⟨rfl, Bool.eq_false_iff.mpr hcomplete⟩⟩

/-- Recording an outcome of a message that is not pending keeps the ledger well formed. -/
lemma WellFormed.record (hturn : turn.WellFormed) {agentId : String} {outcome : MessageOutcome}
    {error : Option String} (hcommitted : messageId ∉ turn.pendingMessageAdmissions) :
    (turn.recordPairTerminal messageId agentId outcome error).1.WellFormed := by
  rw [recordPairTerminal]
  split_ifs with htarget hrecorded
  · exact hturn
  · exact hturn
  · refine ⟨hturn.pending, hturn.targets, fun m agentId' outcome' hget => ?_⟩
    rw [OrderedMap.get?_set] at hget
    split_ifs at hget with heq
    · obtain ⟨rfl, rfl⟩ := Prod.mk.inj heq
      refine ⟨hcommitted, ?_⟩
      cases hadmitted : turn.admittedTargetsByMessageId.get? m with
      | none =>
        rw [hadmitted] at htarget
        exact absurd rfl htarget
      | some targets =>
        rw [hadmitted] at htarget
        refine ⟨targets, rfl, ?_⟩
        simpa using htarget
    · exact hturn.recorded m agentId' outcome' hget

end Operations

end Turn

end Makaio.Turns
