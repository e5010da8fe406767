import Makaio.Turns.Admissions

set_option autoImplicit false

/-!
# Routable turns over every run

Every step of the manager is a change of `Core` that keeps its invariant, or changes nothing of it.
Over every run in which turn identifiers are not used twice and outcomes are reported for committed
messages, at most one turn is routable, and a message is committed into a turn that begins to
finalize only if the turn was completed directly.

## Main definitions

* `SessionTurnManager.Honest` — the assumptions on one step.
* `SessionTurnManager.Reachable` — the states of a run.
* `SessionTurnManager.Live` — the invariant, of slots, ledgers and calls in flight.

## Main results

* `SessionTurnManager.Live.step` — one step keeps the invariant.
* `turn_slot_ledger` — the slot and the ledgers over every run.
* `turn_left_open` — a rollback leaves a closed ledger open until its next step, and a
  direct completion closes an open one.
-/

namespace Makaio.Turns

open Foundations

/-- The turn whose terminal row a call writes, or whose setup it failed. -/
def Stage.retired : Stage → Option String
  | .persisting turnId => some turnId
  | .rollingBack turnId _ (some _) => some turnId
  | _ => none

namespace SessionTurnManager

/-- Turn storage assigns new identifiers, and outcomes are reported for messages that are not
pending. -/
def Honest (m : SessionTurnManager) : Action → Prop
  | .resume _ (.created turnId _) => m.turns.get? turnId = none
  | .recordAgentCompletion _ messageId _ _ turnId =>
    ∀ turn, m.turns.get? turnId = some turn → messageId ∉ turn.pendingMessageAdmissions
  | _ => True

/-- The states of the runs from an idle session. -/
abbrev Reachable : SessionTurnManager → Prop := Reach (· = empty) step Honest

/-- A turn that the manager created. -/
def Stored (m : SessionTurnManager) (turnId : String) : Prop :=
  ∃ turn, m.turns.get? turnId = some turn

/-- A turn that is not routable any more. -/
def Retired (m : SessionTurnManager) (turnId : String) : Prop :=
  m.Stored turnId ∧ m.turnSlots.activeTurn ≠ some turnId

/-- The calls in flight: their numbers are not used twice, and turns that are being completed are not
routable. -/
structure Tidy (m : SessionTurnManager) : Prop where
  numbered : ∀ call stage, m.calls.get? call = some stage → call < m.nextCall
  retired : ∀ call stage turnId, m.calls.get? call = some stage → stage.retired = some turnId →
    m.Retired turnId
  completing : ∀ turnId ∈ m.completingTurns, m.Retired turnId

/-- The invariant: of slots and admissions, and of the calls in flight. -/
structure Live (m : SessionTurnManager) : Prop where
  sound : m.core.Sound
  tidy : m.Tidy

/-- A call in flight that holds nothing. -/
structure Idle (m : SessionTurnManager) (call : ℕ) : Prop where
  started : call < m.nextCall
  hold : m.core.hold call = none

/-- A change that keeps the invariant and what calls hold, and makes no turn routable. -/
structure Calm (m m' : SessionTurnManager) : Prop where
  live : Live m'
  hold : m'.core.hold = m.core.hold
  next : m.nextCall ≤ m'.nextCall
  active : ∀ turnId, m'.turnSlots.activeTurn = some turnId → m.turnSlots.activeTurn = some turnId

/-! ### The part of the state after a change -/

section Parts

variable {m m' m'' : SessionTurnManager} {call : ℕ} {stage : Stage} {turnId : String} {turn : Turn}

lemma goto_core (m : SessionTurnManager) (call : ℕ) (stage : Stage) :
    (m.goto call stage).core = m.core.setHold call stage.hold := by
  have hhold : (fun other => ((m.calls.set call stage).get? other).bind Stage.hold) =
      Function.update (fun other => (m.calls.get? other).bind Stage.hold) call stage.hold := by
    funext other
    rw [OrderedMap.get?_set, Function.update_apply]
    split_ifs <;> rfl
  exact congrArg (fun hold => { m.core with hold }) hhold

lemma finish_core (m : SessionTurnManager) (call : ℕ) :
    (m.finish call).core = m.core.setHold call none := by
  have hhold : (fun other => ((m.calls.delete call).get? other).bind Stage.hold) =
      Function.update (fun other => (m.calls.get? other).bind Stage.hold) call none := by
    funext other
    rw [OrderedMap.get?_delete, Function.update_apply]
    split_ifs <;> rfl
  exact congrArg (fun hold => { m.core with hold }) hhold

lemma setHold_same {c : Core} {hold : Option Hold} (h : c.hold call = hold) :
    c.setHold call hold = c := by
  subst h
  exact congrArg (fun hold => { c with hold }) (Function.update_eq_self call c.hold)

lemma beginFinalization_core (m : SessionTurnManager) (turnId : String)
    (result : TurnCompletionResult) (mode : FinalizationMode) :
    (m.beginFinalization turnId result mode).core = m.core.begin turnId mode := by
  by_cases hidle : turnId ∈ m.core.finalizing ∨ m.core.active ≠ some turnId
  · rw [Core.begin, if_pos hidle]
    have hslots := TurnSlotRegistry.beginFinalization_idle hidle
    unfold beginFinalization core
    simp only [hslots, Bool.false_eq_true, if_false]
  · rw [Core.begin, if_neg hidle]
    rw [not_or, not_not] at hidle
    have hslots := TurnSlotRegistry.beginFinalization_active hidle.1 hidle.2
    unfold beginFinalization core
    simp only [hslots, if_true]

/-- What a call in flight holds. -/
lemma hold_of_stage (hget : m.calls.get? call = some stage) : m.core.hold call = stage.hold :=
  congrArg (Option.bind · Stage.hold) hget

/-! ### Calls in flight -/

/-- A turn stays retired. -/
lemma Retired.frame (h : m.Retired turnId)
    (hactive : ∀ turnId, m'.turnSlots.activeTurn = some turnId →
      m.turnSlots.activeTurn = some turnId ∨ m.turns.get? turnId = none)
    (hstored : ∀ turnId, m.Stored turnId → m'.Stored turnId) : m'.Retired turnId := by
  obtain ⟨⟨turn, hturn⟩, hidle⟩ := h
  refine ⟨hstored turnId ⟨turn, hturn⟩, fun hactive' => ?_⟩
  rcases hactive turnId hactive' with hsame | hnew
  · exact hidle hsame
  · exact nomatch hnew.symm.trans hturn

/-- Changes outside the calls in flight. -/
lemma Tidy.frame (h : Tidy m) (hcalls : m'.calls = m.calls) (hnext : m.nextCall ≤ m'.nextCall)
    (hactive : ∀ turnId, m'.turnSlots.activeTurn = some turnId →
      m.turnSlots.activeTurn = some turnId ∨ m.turns.get? turnId = none)
    (hstored : ∀ turnId, m.Stored turnId → m'.Stored turnId)
    (hcompleting : ∀ turnId ∈ m'.completingTurns,
      turnId ∈ m.completingTurns ∨ m'.Retired turnId) : Tidy m' where
  numbered call stage hget := (h.numbered call stage (hcalls ▸ hget)).trans_le hnext
  retired call stage turnId hget hstage :=
    (h.retired call stage turnId (hcalls ▸ hget) hstage).frame hactive hstored
  completing turnId hmem := (hcompleting turnId hmem).elim
    (fun hbefore => (h.completing turnId hbefore).frame hactive hstored) id

/-- A call goes on. -/
lemma Tidy.goto (h : Tidy m) (hcall : call < m.nextCall)
    (hstage : ∀ turnId, stage.retired = some turnId → m.Retired turnId) :
    Tidy (m.goto call stage) where
  numbered other stage' hget := by
    rw [SessionTurnManager.goto, OrderedMap.get?_set] at hget
    split_ifs at hget with heq
    · exact heq ▸ hcall
    · exact h.numbered other stage' hget
  retired other stage' turnId hget hretired := by
    rw [SessionTurnManager.goto, OrderedMap.get?_set] at hget
    split_ifs at hget with heq
    · cases hget
      exact hstage turnId hretired
    · exact h.retired other stage' turnId hget hretired
  completing := h.completing

/-- A call ends. -/
lemma Tidy.finish (h : Tidy m) : Tidy (m.finish call) := by
  have hget : ∀ {other stage}, (m.finish call).calls.get? other = some stage →
      m.calls.get? other = some stage := by
    intro other stage hget
    rw [SessionTurnManager.finish, OrderedMap.get?_delete] at hget
    split_ifs at hget
    exact hget
  exact ⟨fun other stage h' => h.numbered other stage (hget h'),
    fun other stage turnId h' => h.retired other stage turnId (hget h'), h.completing⟩

variable {other : String} {outcome : Outcome}

/-- A turn stays stored. -/
lemma Stored.setTurn (h : m.Stored other) : (m.setTurn turnId turn).Stored other := by
  rw [Stored, SessionTurnManager.setTurn, OrderedMap.get?_set]
  split_ifs
  · exact ⟨turn, rfl⟩
  · exact h

/-- The ledger of a turn changes. -/
lemma Tidy.setTurn (h : Tidy m) : Tidy (m.setTurn turnId turn) :=
  h.frame rfl le_rfl (fun _ => Or.inl) (fun _ hstored => hstored.setTurn) fun _ => Or.inl

variable {result : TurnCompletionResult}
variable {mode : FinalizationMode}

/-- The routable turn after a finalization began. -/
lemma beginFinalization_active
    (hactive : (m.beginFinalization turnId result mode).turnSlots.activeTurn = some other) :
    m.turnSlots.activeTurn = some other := by
  have hcore : (m.beginFinalization turnId result mode).core.active = some other := hactive
  rw [beginFinalization_core, Core.begin] at hcore
  split_ifs at hcore
  exact hcore

/-- A turn whose finalization begins is not routable any more. -/
lemma beginFinalization_retired (hslot : m.core.Slot) (hstored : m.Stored turnId) :
    (m.beginFinalization turnId result mode).Retired turnId := by
  refine ⟨hstored, fun hactive => ?_⟩
  have hafter : (m.beginFinalization turnId result mode).core.active = some turnId := hactive
  rw [beginFinalization_core, hslot.begin_active (beginFinalization_active hactive)] at hafter
  exact nomatch hafter

/-- The finalization of a turn begins. -/
lemma Tidy.beginFinalization (h : Tidy m) (hslot : m.core.Slot) (hstored : m.Stored turnId) :
    Tidy (m.beginFinalization turnId result mode) := by
  refine h.frame rfl le_rfl (fun other hactive => Or.inl (beginFinalization_active hactive))
    (fun _ => id) fun other hmem => ?_
  dsimp only [SessionTurnManager.beginFinalization] at hmem
  split_ifs at hmem
  · exact Or.inl hmem
  · rcases List.mem_append.mp hmem with hmem | hmem
    · exact Or.inl hmem
    · obtain rfl := List.mem_singleton.mp hmem
      exact Or.inr (beginFinalization_retired hslot hstored)

/-! ### Changes that keep what calls hold -/

lemma Calm.trans (h : Calm m m') (h' : Calm m' m'') : Calm m m'' :=
  ⟨h'.live, h'.hold.trans h.hold, h.next.trans h'.next,
    fun turnId hget => h.active turnId (h'.active turnId hget)⟩

lemma Calm.idle (h : Calm m m') (hidle : m.Idle call) : m'.Idle call :=
  ⟨hidle.started.trans_le h.next, (congrFun h.hold call).trans hidle.hold⟩

section

variable (h : Live m)
include h

lemma Live.refl : Calm m m := ⟨h, rfl, le_rfl, fun _ => id⟩

/-- Changes of the other maps. -/
lemma Live.same (hcore : m'.core = m.core) (hcalls : m'.calls = m.calls)
    (hcompleting : m'.completingTurns ⊆ m.completingTurns) : Calm m m' := by
  have hnext : m'.nextCall = m.nextCall := congrArg Core.nextCall hcore
  have hactive : m'.turnSlots.activeTurn = m.turnSlots.activeTurn := congrArg Core.active hcore
  have hturns : m'.turns = m.turns := congrArg Core.turns hcore
  have htidy : Tidy m' := by
    refine h.tidy.frame hcalls hnext.ge (fun turnId hget => Or.inl (hactive ▸ hget))
      (fun turnId hturn => ?_) fun turnId hmem => Or.inl (hcompleting hmem)
    rw [Stored, hturns]
    exact hturn
  exact ⟨⟨hcore ▸ h.sound, htidy⟩, by rw [hcore], hnext.ge, fun turnId hget => hactive ▸ hget⟩

/-- A promise settles. -/
lemma Live.settle (call : ℕ) (settlement : Settlement) :
    Calm m (m.settle call settlement) :=
  h.same rfl rfl (List.Subset.refl _)

/-- Changes of the slot that leave the routable turn and the preparations. -/
lemma Live.slots {slots : TurnSlotRegistry}
    (hactive : slots.activeTurn = m.turnSlots.activeTurn)
    (hpending : slots.pendingPreparations = m.turnSlots.pendingPreparations)
    (hprepared : slots.preparedTurnIds = m.turnSlots.preparedTurnIds)
    (hfinalizing : slots.finalizingTurnIds ⊆ m.turnSlots.finalizingTurnIds)
    (hreserved : slots.reservation ≠ none → slots.activeTurn = none) :
    Calm m { m with turnSlots := slots } :=
  ⟨⟨h.sound.frame hactive rfl hfinalizing rfl hpending hprepared rfl rfl le_rfl hreserved,
    h.tidy.frame rfl le_rfl (fun _ hget => Or.inl (hactive ▸ hget)) (fun _ => id) fun _ => Or.inl⟩,
    rfl, le_rfl, fun _ hget => hactive ▸ hget⟩

variable {reservation : ℕ} {settlement : Settlement}

/-- A reservation is released. -/
lemma Live.release : Calm m { m with turnSlots := m.turnSlots.release reservation } := by
  rw [TurnSlotRegistry.release]
  split_ifs
  · exact h.slots rfl rfl rfl subset_rfl (absurd rfl)
  · exact h.slots rfl rfl rfl subset_rfl h.sound.slot.reserved

/-- A call that holds nothing goes on to a stage that holds nothing. -/
lemma Live.goto (hidle : m.Idle call) (hstage : stage.hold = none)
    (hretired : ∀ turnId, stage.retired = some turnId → m.Retired turnId) :
    Calm m (m.goto call stage) := by
  have hcore : (m.goto call stage).core = m.core := by
    rw [goto_core, hstage, setHold_same hidle.hold]
  exact ⟨⟨hcore ▸ h.sound, h.tidy.goto hidle.started hretired⟩, by rw [hcore], le_rfl,
    fun _ => id⟩

/-- A call that holds nothing ends. -/
lemma Live.finish (hidle : m.Idle call) : Calm m (m.finish call) := by
  have hcore : (m.finish call).core = m.core := by rw [finish_core, setHold_same hidle.hold]
  exact ⟨⟨hcore ▸ h.sound, h.tidy.finish⟩, by rw [hcore], le_rfl, fun _ => id⟩

/-- A number is used. -/
lemma Live.number : Calm m { m with nextCall := m.nextCall + 1 } :=
  ⟨⟨h.sound.frame rfl rfl subset_rfl rfl rfl rfl rfl rfl (Nat.le_succ _) h.sound.slot.reserved,
    h.tidy.frame rfl (Nat.le_succ _) (fun _ => Or.inl) (fun _ => id) fun _ => Or.inl⟩, rfl,
    Nat.le_succ _, fun _ => id⟩

/-- A number that is not used yet is free. -/
lemma Live.fresh : Idle { m with nextCall := m.nextCall + 1 } m.nextCall := by
  refine ⟨Nat.lt_succ_self _, ?_⟩
  cases hhold : m.core.hold m.nextCall with
  | none => exact hhold
  | some hold => exact absurd (h.sound.holders.callFresh _ hold hhold) (lt_irrefl _)

/-- A new call that holds nothing. -/
lemma Live.start (hstage : stage.hold = none)
    (hretired : ∀ turnId, stage.retired = some turnId → m.Retired turnId) :
    Calm m (m.start stage) :=
  h.number.trans (h.number.live.goto h.fresh hstage hretired)

/-! ### Completion -/

/-- The normal finalization of a turn begins: with a closed ledger, or on request. -/
lemma Live.beginFinalization (turnId : String) (result : TurnCompletionResult)
    (hstored : m.Stored turnId) (hledger : m.turnSlots.activeTurn = some turnId →
      LedgerClosed (m.turns.get? turnId) ∨ .requested turnId ∈ m.history) :
    Calm m (m.beginFinalization turnId result .normal) ∧
      (m.beginFinalization turnId result .normal).Retired turnId := by
  have hcore := beginFinalization_core m turnId result .normal
  refine ⟨⟨⟨hcore ▸ h.sound.begin hledger, h.tidy.beginFinalization h.sound.slot hstored⟩, ?_, le_rfl,
    fun other => beginFinalization_active⟩, beginFinalization_retired h.sound.slot hstored⟩
  rw [hcore, Core.begin]
  split_ifs <;> rfl

/-- A completion keeps what calls hold: of a retired turn, of one with a closed ledger, or on
request. -/
lemma Live.completeTurn (turnId : String) (result : TurnCompletionResult)
    (hstored : m.Stored turnId) (hledger : m.turnSlots.activeTurn = some turnId →
      LedgerClosed (m.turns.get? turnId) ∨ .requested turnId ∈ m.history) :
    Calm m (m.completeTurn turnId result).1 := by
  rw [SessionTurnManager.completeTurn]
  cases m.completionPromises.get? turnId with
  | some existing => exact h.refl
  | none =>
    split_ifs with hcompleting hpending
    · have hregistered : Calm m { m with
          completionPromises := m.completionPromises.set turnId m.nextCall } :=
        h.same rfl rfl (List.Subset.refl _)
      have hstart := @Live.start _ (.completed turnId) hregistered.live rfl (fun _ h => by cases h)
      exact hregistered.trans (hstart.trans (hstart.live.settle _ _))
    · have hregistered : Calm m { m with
          completionPromises := m.completionPromises.set turnId m.nextCall
          completingTurnIds := insert turnId m.completingTurnIds } :=
        h.same rfl rfl (List.Subset.refl _)
      obtain ⟨hbegin, -⟩ := hregistered.live.beginFinalization turnId result hstored hledger
      exact hregistered.trans (hbegin.trans (hbegin.live.start rfl (fun _ h => by cases h)))
    · have hregistered : Calm m { m with
          completionPromises := m.completionPromises.set turnId m.nextCall
          completingTurnIds := insert turnId m.completingTurnIds } :=
        h.same rfl rfl (List.Subset.refl _)
      obtain ⟨hbegin, hretired⟩ := hregistered.live.beginFinalization turnId result hstored hledger
      refine hregistered.trans (hbegin.trans (hbegin.live.start rfl fun other heq => ?_))
      exact Option.some.inj heq ▸ hretired

/-- A retry of a retained completion keeps what calls hold. -/
lemma Live.retryTurnCompletion {completion : ℕ}
    (hretry : m.retryTurnCompletion turnId = some (m', completion)) : Calm m m' := by
  rw [SessionTurnManager.retryTurnCompletion] at hretry
  split_ifs at hretry with hmem
  obtain ⟨result, -, heq⟩ := Option.map_eq_some_iff.mp hretry
  have hretired := h.tidy.completing turnId hmem
  have hcalm := h.completeTurn turnId result hretired.1 fun hactive => absurd hactive hretired.2
  rw [heq] at hcalm
  exact hcalm

lemma Live.clearCompletionState : Calm m (m.clearCompletionState turnId) := by
  have hslots : Calm m { m with turnSlots := m.turnSlots.finishFinalization turnId } :=
    h.slots rfl rfl rfl (Finset.erase_subset _ _) h.sound.slot.reserved
  exact hslots.trans (hslots.live.same rfl rfl (List.filter_subset_self _))

lemma Live.retainCompletion (hidle : m.Idle call) :
    Calm m (m.retainCompletion call turnId) := by
  have hguard : Calm m { m with completingTurnIds := m.completingTurnIds.erase turnId } :=
    h.same rfl rfl (List.Subset.refl _)
  have hsettle := hguard.trans (hguard.live.settle call .rejected)
  exact hsettle.trans (hsettle.live.goto (hsettle.idle hidle) rfl nofun)

/-- A completion ends. -/
lemma Live.endCompletion (hidle : m.Idle call) :
    Calm m (m.endCompletion call turnId settlement) := by
  have hclear : Calm m (m.clearCompletionState turnId) := h.clearCompletionState
  have hsettle := hclear.trans (hclear.live.settle call settlement)
  exact hsettle.trans (hsettle.live.goto (hsettle.idle hidle) rfl nofun)

/-! ### Acquisition -/

/-- A call throws after its promise was rejected. -/
lemma Live.reject (hidle : m.Idle call) : Calm m ((m.settle call settlement).finish call) :=
  (h.settle _ _).trans ((h.settle _ _).live.finish ((h.settle _ _).idle hidle))

/-- The retries go on. -/
lemma Live.retryNext {setup : Bool} (hidle : m.Idle call) (todo : List String) :
    Calm m (m.retryNext call setup todo) := by
  cases todo with
  | nil =>
    rw [SessionTurnManager.retryNext]
    split_ifs
    · exact h.goto hidle rfl nofun
    · exact h.reject hidle
  | cons turnId todo =>
    rw [SessionTurnManager.retryNext]
    cases m.completionPromises.get? turnId with
    | some inFlight => exact h.goto hidle rfl nofun
    | none =>
      split_ifs
      · exact h.goto hidle rfl nofun
      · cases hretry : m.retryTurnCompletion turnId with
        | none => exact h.reject hidle
        | some retried =>
          have hcalm := h.retryTurnCompletion hretry
          exact hcalm.trans (hcalm.live.goto (hcalm.idle hidle) rfl nofun)

/-- A call waits for the retries. -/
lemma Live.awaitFinalization (hidle : m.Idle call) (next : Next) :
    Calm m (m.awaitFinalization call next) := by
  rw [SessionTurnManager.awaitFinalization]
  cases m.turnSlots.pendingFinalization with
  | some retries => exact h.goto hidle rfl nofun
  | none =>
    have hstart := @Live.start _ (.retrying true m.retainedSetups none) h rfl nofun
    have hslots := hstart.trans (@Live.slots _ hstart.live
      { m.turnSlots with pendingFinalization := some m.nextCall } rfl rfl rfl subset_rfl
      hstart.live.sound.slot.reserved)
    exact hslots.trans (hslots.live.goto (hslots.idle hidle) rfl nofun)

/-- A call acquires a turn or reserves the slot. -/
lemma Live.acquireOrReserve (hidle : m.Idle call) (next : Next) :
    Calm m (m.acquireOrReserve call next) := by
  cases next with
  | acquire request =>
    rw [SessionTurnManager.acquireOrReserve]
    cases hacquire : m.turnSlots.acquire m.nextCall with
    | error message => exact h.finish hidle
    | ok acquired =>
      cases acquired with
      | active turnId | pending creation => exact h.goto hidle rfl nofun
      | reserved slots =>
        obtain ⟨hfree, rfl⟩ := TurnSlotRegistry.acquire_reserved hacquire
        have hslots : Calm m { m with turnSlots := { m.turnSlots with
            reservation := some m.nextCall
            pendingAcquisition := some m.nextCall } } :=
          h.slots rfl rfl rfl subset_rfl fun _ => hfree
        have hstart := hslots.trans
          (@Live.start _ (.creating m.nextCall request.agentIds) hslots.live rfl nofun)
        exact hstart.trans (hstart.live.goto (hstart.idle hidle) rfl nofun)
  | reserve =>
    rw [SessionTurnManager.acquireOrReserve]
    cases hreserve : m.turnSlots.reserve call with
    | error message => exact h.finish hidle
    | ok slots =>
      obtain ⟨hfree, -, rfl⟩ := TurnSlotRegistry.reserve_ok hreserve
      have hslots : Calm m { m with turnSlots := { m.turnSlots with
          reservation := some call } } := h.slots rfl rfl rfl subset_rfl fun _ => hfree
      exact hslots.trans (hslots.live.finish (hslots.idle hidle))

/-- A reserved turn is created, or its reservation is released. -/
lemma Live.createReservedTurn {agentIds : List String} (hidle : m.Idle call)
    (hnew : ∀ turnId turnNumber, outcome = .created turnId turnNumber → m.turns.get? turnId = none) :
    Live (m.createReservedTurn call reservation agentIds outcome) := by
  have hfails : Live (({ m with turnSlots := m.turnSlots.release reservation }.settle call
      .rejected).finish call) := by
    have hrelease : Calm m { m with turnSlots := m.turnSlots.release reservation } := h.release
    exact (hrelease.live.reject (hrelease.idle hidle)).live
  cases outcome with
  | created turnId turnNumber =>
    rw [SessionTurnManager.createReservedTurn]
    cases hturn : Turn.new turnId turnNumber agentIds with
    | error message => exact hfails
    | ok turn =>
      cases hactivate : m.turnSlots.activate reservation turnId with
      | error message => exact hfails
      | ok slots =>
        obtain ⟨hreservation, rfl⟩ := TurnSlotRegistry.activate_ok hactivate
        obtain ⟨-, hwell, hopen⟩ := Turn.new_ok hturn
        have hunknown := hnew turnId turnNumber rfl
        have hactivated : Live { m.setTurn turnId turn with
            turnSlots := { m.turnSlots with activeTurn := some turnId, reservation := none }
            history := m.history ++ [Entry.activated turnId] } := by
          refine ⟨h.sound.activate hreservation hunknown hwell hopen, ?_⟩
          refine h.tidy.frame rfl le_rfl (fun other hactive => Or.inr ?_)
            (fun other hstored => hstored.setTurn) fun _ => Or.inl
          exact Option.some.inj hactive ▸ hunknown
        exact (hactivated.reject ⟨hidle.started, hidle.hold⟩).live
  | ok | fails | stored handled transitioned => exact hfails

/-! ### Admissions -/

variable {request : AdmissionRequest}

/-- A message is admitted to the acquired turn, or the turn is acquired again. -/
lemma Live.admitMessage (hidle : m.Idle call) (hturn : m.turns.get? turnId = some turn) :
    Live (m.admitMessage call request turnId turn) := by
  rw [SessionTurnManager.admitMessage]
  split_ifs with hforeign hadmits
  · exact (h.finish hidle).live
  · exact (h.awaitFinalization hidle _).live
  · rw [Bool.not_eq_true', Bool.not_eq_false, TurnSlotRegistry.admits_iff] at hadmits
    cases hadmitted : turn.admitMessage request.messageId request.agentIds with
    | error message => exact (h.finish hidle).live
    | ok admitted =>
      have htidy : Tidy { m.setTurn turnId admitted with
          turnSlots := (m.turnSlots.beginPreparation turnId m.nextCall).1
          nextCall := m.nextCall + 1 } := by
        refine h.tidy.setTurn.frame rfl (Nat.le_succ _) (fun other hactive => Or.inl ?_)
          (fun _ => id) fun _ => Or.inl
        rwa [TurnSlotRegistry.beginPreparation_activeTurn] at hactive
      refine ⟨?_, htidy.goto (hidle.started.trans (Nat.lt_succ_self _)) fun other heq => ?_⟩
      · rw [goto_core]
        rcases TurnSlotRegistry.beginPreparation_cases m.turnSlots turnId m.nextCall with
          ⟨hprepared, heq⟩ | ⟨ready, hready, heq⟩ | ⟨hunprepared, hfree, heq⟩
        all_goals rw [heq]
        · exact h.sound.admit hadmits.2 hturn hadmitted hidle.started hidle.hold rfl
            (Or.inl ⟨_, rfl, rfl, hprepared⟩)
        · exact h.sound.admit hadmits.2 hturn hadmitted hidle.started hidle.hold rfl
            (Or.inl ⟨_, rfl, rfl, Or.inl hready⟩)
        · exact h.sound.admit hadmits.2 hturn hadmitted hidle.started hidle.hold rfl
            (Or.inr ⟨rfl, hfree, hunprepared, rfl⟩)
      · split at heq <;> exact nomatch heq

/-- A waiter gets its lease once the turn is prepared. -/
lemma Live.dispatch {ready : Option ℕ}
    (hget : m.calls.get? call = some (.awaitingPreparation request turnId ready))
    (hready : ∀ promise, ready = some promise → m.preparations.get? promise = some true) :
    Live (m.goto call (.leased turnId request.messageId none)) := by
  refine ⟨?_, h.tidy.goto (h.tidy.numbered call _ hget) nofun⟩
  rw [goto_core]
  exact h.sound.dispatch (hold_of_stage hget) hready

/-- A waiter rolls back after a failed preparation. -/
lemma Live.withdraw {ready : ℕ}
    (hget : m.calls.get? call = some (.awaitingPreparation request turnId (some ready)))
    (hready : m.preparations.get? ready = some false) (hturn : m.turns.get? turnId = some turn) :
    Live (m.withdraw call request turnId turn) := by
  have hhold : m.core.hold call = some (.waiting turnId request.messageId (some ready)) :=
    hold_of_stage hget
  obtain ⟨hwell, hpending⟩ := h.sound.pending_of_hold hhold rfl hturn
  obtain ⟨rolled, hrollback⟩ := hwell.rollback_ok hpending
  rw [SessionTurnManager.withdraw, hrollback]
  refine ⟨?_, h.tidy.setTurn.goto (h.tidy.numbered call _ hget) nofun⟩
  rw [goto_core]
  exact h.sound.withdraw hhold hready hturn hrollback

end

/-! ### Leases -/

section Lease

variable {messageId : String} {preparation : Option ℕ}

lemma Live.commitLease (h : Live m)
    (hget : m.calls.get? call = some (.leased turnId messageId preparation))
    (hturn : m.turns.get? turnId = some turn) :
    Live (m.commitLease call turnId messageId preparation turn) := by
  have hhold : m.core.hold call = some (.lease turnId messageId preparation) := hold_of_stage hget
  obtain ⟨hwell, hpending⟩ := h.sound.pending_of_hold hhold rfl hturn
  obtain ⟨committed, hcommit⟩ := hwell.commit_ok hpending
  have htidy : Tidy (m.setTurn turnId committed) := h.tidy.setTurn
  rw [SessionTurnManager.commitLease, hcommit]
  cases preparation with
  | none =>
    simp only [Option.isSome_none, Bool.false_eq_true, if_false]
    refine ⟨?_, Tidy.finish (htidy.frame rfl le_rfl (fun _ => Or.inl) (fun _ => id) fun _ => Or.inl)⟩
    rw [finish_core]
    exact h.sound.commit hhold hturn hcommit
  | some promise =>
    -- the preparation is still the one of the owner
    have hprepare : m.turnSlots.completePreparation turnId = .ok ({ m.turnSlots with
        pendingPreparations := m.turnSlots.pendingPreparations.delete turnId
        preparedTurnIds := insert turnId m.turnSlots.preparedTurnIds }, promise) := by
      have howner : m.turnSlots.pendingPreparations.get? turnId = some promise :=
        h.sound.holders.owner call turnId messageId promise hhold
      rw [TurnSlotRegistry.completePreparation, howner]
    simp only [Option.isSome_some, if_true, hprepare]
    refine ⟨?_, Tidy.finish (htidy.frame rfl le_rfl (fun _ => Or.inl) (fun _ => id) fun _ => Or.inl)⟩
    rw [finish_core]
    exact h.sound.commitOwner hhold hturn hcommit

/-- A lease rolls back. -/
lemma Live.rollbackLease {errorCode : String} (h : Live m)
    (hget : m.calls.get? call = some (.leased turnId messageId preparation))
    (hturn : m.turns.get? turnId = some turn) :
    Live (m.rollbackLease call turnId messageId preparation errorCode turn) := by
  have hhold : m.core.hold call = some (.lease turnId messageId preparation) := hold_of_stage hget
  have hcall := h.tidy.numbered call _ hget
  obtain ⟨hwell, hpending⟩ := h.sound.pending_of_hold hhold rfl hturn
  obtain ⟨rolled, hrollback⟩ := hwell.rollback_ok hpending
  rw [SessionTurnManager.rollbackLease, hrollback]
  cases preparation with
  | none =>
    simp only [Option.isSome_none, Bool.false_eq_true, if_false]
    refine ⟨?_, h.tidy.setTurn.goto hcall nofun⟩
    rw [goto_core]
    exact h.sound.rollback hhold hturn hrollback
  | some promise =>
    simp only [Option.isSome_some, if_true]
    let result : TurnCompletionResult := ⟨false, [errorCode]⟩
    let left := (m.setTurn turnId rolled).goto call (.rollingBack turnId messageId (some result))
    have hleft : left.core = Core.setHold { m.core with turns := m.turns.set turnId rolled }
        call none := goto_core _ _ _
    have htidy : Tidy (left.beginFinalization turnId result .setup) := by
      have hslot : (m.setTurn turnId rolled).core.Slot := h.sound.slot.setTurn hturn
      have hstored : (m.setTurn turnId rolled).Stored turnId :=
        ⟨rolled, OrderedMap.get?_set_self _ _ _⟩
      have hbegun : Tidy ((m.setTurn turnId rolled).beginFinalization turnId result .setup) :=
        h.tidy.setTurn.beginFinalization hslot hstored
      have hgone := @Tidy.goto _ call (.rollingBack turnId messageId (some result)) hbegun hcall
        fun other heq => Option.some.inj heq ▸ beginFinalization_retired hslot hstored
      exact hgone
    have hbegun := beginFinalization_core left turnId result .setup
    rw [hleft] at hbegun
    have howner : m.turnSlots.pendingPreparations.get? turnId = some promise :=
      h.sound.holders.owner call turnId messageId promise hhold
    have hkept : (left.beginFinalization turnId result .setup).turnSlots.pendingPreparations =
        m.turnSlots.pendingPreparations := by
      have hcore := congrArg Core.pending hbegun
      rw [Core.begin_pending] at hcore
      exact hcore
    refine ⟨?_, htidy.frame rfl le_rfl (fun _ => Or.inl) (fun _ => id) fun _ => Or.inl⟩
    have hsound : Core.Sound { (left.beginFinalization turnId result .setup).core with
        pending := m.turnSlots.pendingPreparations.delete turnId
        outcomes := m.preparations.set promise false } := by
      rw [hbegun]
      exact h.sound.rollbackOwner hhold hturn hrollback
    rw [TurnSlotRegistry.failPreparation, hkept, howner]
    exact hsound

/-- A rolled back lease completes its failed setup, or checks the ledger. -/
lemma Live.afterRollback {setupFailure : Option TurnCompletionResult} (h : Live m)
    (hget : m.calls.get? call = some (.rollingBack turnId messageId setupFailure))
    (hturn : m.turns.get? turnId = some turn) :
    Live (m.afterRollback call turnId turn setupFailure) ∧ (setupFailure = none →
      turn.isComplete = true →
        (m.afterRollback call turnId turn setupFailure).turnSlots.activeTurn ≠ some turnId) := by
  have hcall := h.tidy.numbered call _ hget
  have hstored : m.Stored turnId := ⟨turn, hturn⟩
  cases setupFailure with
  | some result =>
    have hretired := h.tidy.retired call _ turnId hget rfl
    have hcalm := h.completeTurn turnId result hstored fun hactive => absurd hactive hretired.2
    exact ⟨(hcalm.live.finish (hcalm.idle ⟨hcall, hold_of_stage hget⟩)).live, nofun⟩
  | none =>
    have hhold : m.core.hold call = some (.checking turnId messageId) := hold_of_stage hget
    rw [SessionTurnManager.afterRollback]
    split_ifs with hcomplete
    · obtain ⟨hbegin, -, hidle⟩ := h.beginFinalization turnId turn.getResult hstored
        fun _ => Or.inl ⟨turn, hturn, hcomplete⟩
      have hcalm := hbegin.live.completeTurn turnId turn.getResult hstored
        fun hactive => absurd hactive hidle
      refine ⟨⟨?_, hcalm.live.tidy.finish⟩, fun _ _ hactive => hidle (hcalm.active _ hactive)⟩
      rw [finish_core]
      refine hcalm.live.sound.checked fun other m' turn' hchecking hactive _ => ?_
      rw [hcalm.hold, hbegin.hold, hhold] at hchecking
      cases hchecking
      exact absurd (hcalm.active _ hactive) hidle
    · refine ⟨⟨?_, h.tidy.finish⟩, fun _ hcomplete' => absurd hcomplete' hcomplete⟩
      rw [finish_core]
      refine h.sound.checked fun other m' turn' hchecking _ hturn' => ?_
      rw [hhold] at hchecking
      cases hchecking
      cases hturn.symm.trans hturn'
      exact Bool.eq_false_iff.mpr hcomplete

end Lease

/-! ### Outcomes -/

/-- The outcome of a committed message is recorded. -/
lemma Live.recordAgentCompletion {agentId messageId : String} {outcome : MessageOutcome}
    {error : Option String} (h : Live m) (hturn : m.turns.get? turnId = some turn)
    (hcommitted : messageId ∉ turn.pendingMessageAdmissions) :
    Live (m.recordAgentCompletion agentId messageId outcome error turnId turn) := by
  rw [SessionTurnManager.recordAgentCompletion]
  split
  · exact h
  · have hwell := ((h.sound.holders.wellFormed turnId turn hturn).record hcommitted :
      (turn.recordPairTerminal messageId agentId outcome error).1.WellFormed)
    rcases turn.recordPairTerminal_spec messageId agentId outcome error with
      heq | ⟨turn', change, heq, hpending, hchange⟩
    · rw [heq]
      split_ifs with hretained
      · cases hretry : m.retryTurnCompletion turnId with
        | none => exact h
        | some retried => exact (h.retryTurnCompletion hretry).live
      · exact h
    · rw [heq] at hwell ⊢
      obtain ⟨hrecorded, hclosed⟩ := h.sound.record hturn hwell hpending
      rcases hchange with ⟨rfl, hopen⟩ | ⟨result, rfl, hcomplete⟩
      · exact ⟨hrecorded hopen, h.tidy.setTurn⟩
      · have hstored : (m.setTurn turnId turn').Stored turnId :=
          ⟨turn', OrderedMap.get?_set_self _ _ _⟩
        have hslot : (m.setTurn turnId turn').core.Slot := h.sound.slot.setTurn hturn
        have hbegun : Live ((m.setTurn turnId turn').beginFinalization turnId result .normal) := by
          refine ⟨?_, h.tidy.setTurn.beginFinalization hslot hstored⟩
          rw [beginFinalization_core]
          exact hclosed hcomplete
        refine (hbegun.completeTurn turnId result hstored fun hactive => ?_).live
        exact absurd hactive (beginFinalization_retired hslot hstored).2

/-! ### Steps -/

/-- A call in flight makes a step. -/
theorem Live.resume (h : Live m) (hget : m.calls.get? call = some stage)
    (hnew : ∀ turnId turnNumber, outcome = .created turnId turnNumber → m.turns.get? turnId = none)
    (hstep : m.resume call outcome stage = some m') : Live m' := by
  have hidle : stage.hold = none → m.Idle call := fun hhold =>
    ⟨h.tidy.numbered call stage hget, (hold_of_stage hget).trans hhold⟩
  cases stage with
  | retrying setup todo awaited =>
    cases awaited with
    | none =>
      cases hstep
      exact (h.retryNext (hidle rfl) todo).live
    | some awaited =>
      rw [SessionTurnManager.resume] at hstep
      split at hstep
      · cases hstep
      · cases hstep
        exact (h.reject (hidle rfl)).live
      · cases hstep
        exact (h.retryNext (hidle rfl) todo).live
  | awaitingRetries next retries isOwner =>
    obtain ⟨settlement, -, rfl⟩ := Option.map_eq_some_iff.mp hstep
    have hforgotten : Calm m (if isOwner && decide (m.turnSlots.pendingFinalization = some retries)
        then { m with turnSlots := { m.turnSlots with pendingFinalization := none } } else m) := by
      split_ifs
      · exact h.slots rfl rfl rfl subset_rfl h.sound.slot.reserved
      · exact h.refl
    cases settlement with
    | rejected => exact (hforgotten.live.finish (hforgotten.idle (hidle rfl))).live
    | resolved _ => exact (hforgotten.live.acquireOrReserve (hforgotten.idle (hidle rfl)) next).live
  | creating reservation agentIds =>
    cases hstep
    exact h.createReservedTurn (hidle rfl) hnew
  | awaitingCreation request creation isNew =>
    obtain ⟨settlement, -, rfl⟩ := Option.map_eq_some_iff.mp hstep
    have hforgotten : Calm m (if isNew then
        { m with turnSlots := m.turnSlots.forgetAcquisition creation } else m) := by
      rw [TurnSlotRegistry.forgetAcquisition]
      split_ifs
      · exact h.slots rfl rfl rfl subset_rfl h.sound.slot.reserved
      · exact h.refl
      · exact h.refl
    have hfinish := (hforgotten.live.finish (hforgotten.idle (hidle rfl))).live
    cases settlement with
    | resolved turnId? =>
      cases turnId? with
      | some turnId => exact (hforgotten.live.goto (hforgotten.idle (hidle rfl)) rfl (fun _ h => by cases h)).live
      | none => exact hfinish
    | rejected => exact hfinish
  | acquired request turnId =>
    obtain ⟨turn, hturn, rfl⟩ := Option.map_eq_some_iff.mp hstep
    exact h.admitMessage (hidle rfl) hturn
  | awaitingPreparation request turnId ready =>
    cases ready with
    | none =>
      cases hstep
      exact h.dispatch hget (by simp)
    | some ready =>
      rw [SessionTurnManager.resume] at hstep
      split at hstep
      · cases hstep
      · rename_i hready
        cases hstep
        exact h.dispatch hget fun promise heq => Option.some.inj heq ▸ hready
      · rename_i hready
        obtain ⟨turn, hturn, rfl⟩ := Option.map_eq_some_iff.mp hstep
        exact h.withdraw hget hready hturn
  | leased turnId messageId preparation => cases hstep
  | rollingBack turnId messageId setupFailure =>
    obtain ⟨turn, hturn, rfl⟩ := Option.map_eq_some_iff.mp hstep
    exact (h.afterRollback hget hturn).1
  | rolledBack request =>
    cases hstep
    exact (h.awaitFinalization (hidle rfl) _).live
  | persisting turnId =>
    have hretain : Calm m (m.retainCompletion call turnId) := h.retainCompletion (hidle rfl)
    cases outcome with
    | stored handled transitioned =>
      rw [SessionTurnManager.resume] at hstep
      split_ifs at hstep
      · -- the turn of a completion is not routable
        rw [TurnSlotRegistry.clearActive, if_pos (h.tidy.retired call _ turnId hget rfl).2] at hstep
        cases hstep
        exact (h.endCompletion (hidle rfl)).live
      · cases hstep
        have hpending : Calm m { m with pendingTerminalCompletions :=
            m.pendingTerminalCompletions.set turnId handled } := h.same rfl rfl (List.Subset.refl _)
        exact (hpending.live.goto (hpending.idle (hidle rfl)) rfl (fun _ h => by cases h)).live
    | ok | fails | created _ _ => exact Option.some.inj hstep ▸ hretain.live
  | draining turnId | publishing turnId =>
    cases hstep
    split_ifs
    · exact (h.retainCompletion (hidle rfl)).live
    · exact (h.goto (hidle rfl) rfl (fun _ h => by cases h)).live
  | emitting turnId =>
    cases hstep
    exact (h.endCompletion (hidle rfl)).live
  | completed turnId =>
    cases hstep
    have hdropped : Calm m (if m.completionPromises.get? turnId = some call then
        { m with completionPromises := m.completionPromises.delete turnId } else m) := by
      split_ifs
      · exact h.same rfl rfl (List.Subset.refl _)
      · exact h.refl
    exact (hdropped.live.finish (hdropped.idle (hidle rfl))).live

/-- **A step of the manager** keeps the invariant. -/
theorem Live.step {a : Action} (h : Live m) (hok : m.Honest a) (hstep : m.step a = some m') :
    Live m' := by
  have hnumber := h.number
  cases a with
  | acquireMessageAdmission request | reserveTurn =>
    cases hstep
    exact (hnumber.live.awaitFinalization h.fresh _).live
  | releaseTurnReservation reservation =>
    cases hstep
    exact h.release.live
  | createReservedTurn reservation agentIds =>
    cases hstep
    exact (h.start rfl (fun _ h => by cases h)).live
  | commit lease =>
    rw [SessionTurnManager.step] at hstep
    split at hstep
    · rename_i hget
      obtain ⟨turn, hturn, rfl⟩ := Option.map_eq_some_iff.mp hstep
      exact h.commitLease hget hturn
    · exact nomatch hstep
  | rollback lease errorCode =>
    rw [SessionTurnManager.step] at hstep
    split at hstep
    · rename_i hget
      obtain ⟨turn, hturn, rfl⟩ := Option.map_eq_some_iff.mp hstep
      exact h.rollbackLease hget hturn
    · exact nomatch hstep
  | recordAgentCompletion agentId messageId outcome error turnId =>
    obtain ⟨turn, hturn, rfl⟩ := Option.map_eq_some_iff.mp hstep
    exact h.recordAgentCompletion hturn (hok turn hturn)
  | completeTurn turnId result =>
    rw [SessionTurnManager.step] at hstep
    split_ifs at hstep with hstored
    cases hstep
    have hrequested : Live { m with history := m.history ++ [Entry.requested turnId] } :=
      ⟨h.sound.request, h.tidy.frame rfl le_rfl (fun _ => Or.inl) (fun _ => id) fun _ => Or.inl⟩
    refine (hrequested.completeTurn turnId result (OrderedMap.has_iff.mp hstored) fun _ => ?_).live
    exact Or.inr (List.mem_append_right _ (List.mem_singleton_self _))
  | resume call outcome =>
    obtain ⟨stage, hget, hresume⟩ := Option.bind_eq_some_iff.mp hstep
    refine h.resume hget (fun turnId turnNumber heq => ?_) hresume
    subst heq
    exact hok

end Parts

/-- A session without turns. -/
lemma live_empty : Live empty where
  sound := {
    slot := {
      reserved := fun _ => rfl
      routable := fun _ => ⟨fun h => absurd h.1 List.not_mem_nil, nofun⟩
      activated := fun _ => ⟨fun h => absurd h List.not_mem_nil, fun ⟨_, h⟩ => nomatch h⟩
      began := fun _ _ _ h => absurd h List.not_mem_nil
      finalizing := fun _ h => absurd h (Finset.notMem_empty _)
      lawful := fun before entry after h => by simp [core, empty] at h }
    holders := {
      wellFormed := nofun
      callFresh := nofun
      pendingFresh := nofun
      outcomeFresh := nofun
      pendingUnique := nofun
      unprepared := nofun
      admitted := nofun
      distinct := nofun
      owner := nofun
      ownerUnique := nofun
      passes := nofun
      closed := fun _ ⟨_, _, h, _⟩ => absurd h List.not_mem_nil }
    watched := nofun }
  tidy := ⟨nofun, nofun, fun _ h => absurd h List.not_mem_nil⟩

/-- The invariant over every run. -/
theorem Reachable.live {m : SessionTurnManager} (h : Reachable m) : Live m := by
  refine Reach.invariant Live (fun m heq => ?_) (fun _ _ _ hlive hok hstep => hlive.step hok hstep) h
  obtain rfl : m = empty := heq
  exact live_empty

/-- The checks of honest runs can be evaluated. -/
instance (m : SessionTurnManager) (a : Action) : Decidable (m.Honest a) :=
  match a with
  | .resume _ (.created turnId _) => inferInstanceAs (Decidable (m.turns.get? turnId = none))
  | .resume _ .ok => .isTrue trivial
  | .resume _ .fails => .isTrue trivial
  | .resume _ (.stored _ _) => .isTrue trivial
  | .recordAgentCompletion _ messageId _ _ turnId =>
    decidable_of_iff ((m.turns.get? turnId).all fun turn =>
      decide (messageId ∉ turn.pendingMessageAdmissions)) (by
        cases hturn : m.turns.get? turnId <;> simp [Honest, hturn])
  | .acquireMessageAdmission _ => .isTrue trivial
  | .reserveTurn => .isTrue trivial
  | .releaseTurnReservation _ => .isTrue trivial
  | .createReservedTurn _ _ => .isTrue trivial
  | .commit _ => .isTrue trivial
  | .rollback _ _ => .isTrue trivial
  | .completeTurn _ _ => .isTrue trivial

end SessionTurnManager

/-! ### The slot and the ledgers -/

open SessionTurnManager

/-- **The slot and the ledgers over every run.**  The routable turn is the one in the slot.  A message
is committed into a turn after its finalization began only where that finalization began with an open
ledger, which takes a direct call of `completeTurn`.  And whenever the ledger of a routable turn is
closed, a rollback has its check still to come, whose next step begins the finalization.

**Proof sketch.**  All of it is read off the invariant of a reachable state: the slot, the lawful
history, and the checks to come. -/
theorem turn_slot_ledger {m : SessionTurnManager} (h : Reachable m) :
    (∀ turnId, Routable m.history turnId ↔ m.turnSlots.activeTurn = some turnId) ∧
    (∀ before after turnId messageId, m.history = before ++ .committed turnId messageId :: after →
      ∀ mode ledger, .began turnId mode ledger ∈ before →
        mode = .normal ∧ ¬ ∃ turn, ledger = some turn ∧ turn.Closed) ∧
    (∀ before after turnId ledger, m.history = before ++ .began turnId .normal ledger :: after →
      (∃ turn, ledger = some turn ∧ turn.Closed) ∨ .requested turnId ∈ before) ∧
    ∀ turnId turn, Routable m.history turnId → m.turns.get? turnId = some turn → turn.Closed →
      ∃ call messageId, m.calls.get? call = some (.rollingBack turnId messageId none) ∧
        ∀ outcome, ∃ m', m.step (.resume call outcome) = some m' ∧
          ¬ Routable m'.history turnId := by
  have hlive := h.live
  have hslot := hlive.sound.slot
  have hclosed : ∀ ledger, LedgerClosed ledger ↔ ∃ turn, ledger = some turn ∧ turn.Closed := by
    intro ledger
    simp only [LedgerClosed, Turn.isComplete_iff]
  refine ⟨hslot.routable, ?_, ?_, ?_⟩
  · intro before after turnId messageId heq mode ledger hmem
    obtain ⟨hmode, hopen⟩ := hslot.lawful before _ after heq mode ledger hmem
    exact ⟨hmode, fun hturn => hopen ((hclosed ledger).mpr hturn)⟩
  · intro before after turnId ledger heq
    exact (hslot.lawful before _ after heq).imp_left (hclosed ledger).mp
  · intro turnId turn hroutable hturn hcomplete
    rw [← Turn.isComplete_iff] at hcomplete
    have hactive := (hslot.routable turnId).mp hroutable
    obtain ⟨call, messageId, hhold⟩ := hlive.sound.watched turnId turn hactive hturn hcomplete
    obtain ⟨stage, hget, hstage⟩ := Option.bind_eq_some_iff.mp hhold
    obtain rfl := Stage.rollingBack_of_hold hstage
    refine ⟨call, messageId, hget, fun outcome => ⟨m.afterRollback call turnId turn none, ?_, ?_⟩⟩
    · rw [SessionTurnManager.step, hget, Option.bind_some, SessionTurnManager.resume, hturn,
        Option.map_some]
    · obtain ⟨hafter, hidle⟩ := hlive.afterRollback hget hturn
      exact fun hstill => hidle rfl hcomplete ((hafter.sound.slot.routable turnId).mp hstill)

/-- A turn with two messages, of which the second waits for the preparation of the first. -/
private def twoMessages : List Action :=
  [.acquireMessageAdmission ⟨["a"], "m1"⟩, .resume 1 .ok, .resume 1 .ok, .resume 0 .ok,
    .resume 2 (.created "t" 1), .resume 0 .ok, .resume 0 .ok]

/-- The first message is delivered while the second is admitted, and the second is rolled back. -/
private def secondRolledBack : List Action :=
  twoMessages ++ [.commit 0, .acquireMessageAdmission ⟨["a"], "m2"⟩, .resume 5 .ok, .resume 5 .ok,
    .resume 4 .ok, .resume 4 .ok, .resume 4 .ok,
    .recordAgentCompletion "a" "m1" .completed none "t", .rollback 4 "failed"]

/-- The second message's turn is completed directly, and the first message is committed. -/
private def completedDirectly : List Action :=
  twoMessages ++ [.completeTurn "t" ⟨true, []⟩, .commit 0]

/-- The state after a run from an idle session that meets a test. -/
private lemma reachable_of_run {actions : List Action} {test : SessionTurnManager → Bool}
    (h : (runGuarded step Honest empty actions).any test = true) :
    ∃ m, Reachable m ∧ test m = true := by
  rw [Option.any_eq_true] at h
  obtain ⟨m, hm, htest⟩ := h
  exact ⟨m, Reach.of_runGuarded actions (.start rfl) hm, htest⟩

/-- After the second message was rolled back, the turn is routable and its ledger is closed. -/
private lemma closed_after_rollback : ∃ m turn, Reachable m ∧
    m.turnSlots.activeTurn = some "t" ∧ m.turns.get? "t" = some turn ∧ turn.Closed := by
  have hrun : (runGuarded step Honest empty secondRolledBack).any (fun m =>
      decide (m.turnSlots.activeTurn = some "t") && (m.turns.get? "t").any Turn.isComplete) =
        true := by decide +kernel
  obtain ⟨m, hm, htest⟩ := reachable_of_run hrun
  rw [Bool.and_eq_true, decide_eq_true_eq, Option.any_eq_true] at htest
  obtain ⟨hactive, turn, hturn, hcomplete⟩ := htest
  exact ⟨m, turn, hm, hactive, hturn, Turn.isComplete_iff.mp hcomplete⟩

/-- The rollback of the second message still has its check to come. -/
theorem turn_slot_ledger_checks : ∃ m, Reachable m ∧ ∃ call messageId,
    m.calls.get? call = some (.rollingBack "t" messageId none) ∧
      ∀ outcome, ∃ m', m.step (.resume call outcome) = some m' ∧ ¬ Routable m'.history "t" := by
  obtain ⟨m, turn, hm, hactive, hturn, hclosed⟩ := closed_after_rollback
  obtain ⟨hroutable, -, -, hchecks⟩ := turn_slot_ledger hm
  exact ⟨m, hm, hchecks "t" turn ((hroutable "t").mpr hactive) hturn hclosed⟩

/-- What is observed when a turn is completed directly before its message is committed. -/
private def committedAfter : List Entry → Bool
  | [.activated _, .requested _, .began turnId .normal (some ledger), .committed committed _] =>
    decide (turnId = committed) && !ledger.isComplete
  | _ => false

/-- A rollback leaves a routable turn with nothing to wait for until its next step; and a turn that
is completed directly begins to finalize with an open ledger, and its message is committed later. -/
theorem turn_left_open :
    (¬ ∀ m, Reachable m → ∀ turnId turn, Routable m.history turnId →
      m.turns.get? turnId = some turn → ¬ turn.Closed) ∧
    (¬ ∀ m, Reachable m → ∀ before after turnId messageId,
      m.history = before ++ .committed turnId messageId :: after →
        ∀ mode ledger, .began turnId mode ledger ∉ before) ∧
    ¬ ∀ m, Reachable m → ∀ turnId ledger, .began turnId .normal ledger ∈ m.history →
      ∃ turn, ledger = some turn ∧ turn.Closed := by
  have hrun : (runGuarded step Honest empty completedDirectly).any
      (fun m => committedAfter m.history) = true := by decide +kernel
  obtain ⟨m, hm, htest⟩ := reachable_of_run hrun
  obtain ⟨activated, requested, turnId, ledger, messageId, hhistory, hopen⟩ :
      ∃ activated requested turnId ledger messageId, m.history = [.activated activated,
        .requested requested, .began turnId .normal (some ledger), .committed turnId messageId] ∧
        ledger.isComplete = false := by
    unfold committedAfter at htest
    split at htest
    · rename_i heq
      rw [Bool.and_eq_true, decide_eq_true_eq, Bool.not_eq_true'] at htest
      obtain ⟨rfl, hopen⟩ := htest
      exact ⟨_, _, _, _, _, heq, hopen⟩
    · exact nomatch htest
  refine ⟨fun hclaim => ?_, fun hclaim => ?_, fun hclaim => ?_⟩
  · obtain ⟨m, turn, hm, hactive, hturn, hclosed⟩ := closed_after_rollback
    exact hclaim m hm "t" turn ((hm.live.sound.slot.routable "t").mpr hactive) hturn hclosed
  · refine hclaim m hm [.activated activated, .requested requested,
      .began turnId .normal (some ledger)] [] turnId messageId hhistory .normal (some ledger) ?_
    simp
  · obtain ⟨turn, heq, hclosed⟩ := hclaim m hm turnId (some ledger) (by rw [hhistory]; simp)
    cases heq
    exact nomatch hopen.symm.trans (Turn.isComplete_iff.mpr hclosed)

end Makaio.Turns
